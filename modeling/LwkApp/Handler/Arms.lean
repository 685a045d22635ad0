import LwkApp.Handler.Monad

/-! `inner_method_handler`: one arm for each method, and the dispatch on the method name.
Arms that never lock are plain `run`s; those that lock and only read are `reading`s; the four
that load or unload an entry are `writing`s, and the four that sync a wallet first are
`syncing`s. Code that can only fail with an error is written in
`Except Error`, where bind is Rust's `?`, and lifted once by `propagate`; only the `unwrap`s
can panic. -/
namespace LwkApp
open Handler

/-- `unvalidated_addressee`: a payee of the request, handed to the wallet engine. -/
def unvalidatedAddressee (a : Req.UnvalidatedAddressee) : UnvalidatedAddressee :=
  { satoshi := a.satoshi, address := a.address, asset := a.asset }

def duplicateFingerprintsWarning : String := "wallet has multiple signers with the same fingerprint"

/-- `request.params.unwrap_or_default()`, decoded: absent params decode as `null`. -/
def paramsOrDefault {ρ : Type} (decode : Json → Except Error ρ) (params : Option Json) :
    Except Exit ρ :=
  propagate (decode (params.getD .null))

/-- `request.params.unwrap()`, decoded: panics on a request without params. -/
def paramsUnwrap {ρ : Type} (decode : Json → Except Error ρ) (params : Option Json) :
    Except Exit ρ := do
  propagate (decode (← unwrap params))

/-- `let wollet = s.wollets.get_mut(name)?; wollet.sync_txs()?`: the wallet bound to `name`
with its store brought up to date, written back in place. -/
def syncWollet (env : Env) (wollets : Registry Wollet) (name : String) :
    Except Error (Wollet × Registry Wollet) := do
  let wollet ← wollets.get name
  let store ← env.syncTxs wollet
  let wollet := { wollet with store }
  pure (wollet, wollets.update name wollet)

/-- An arm that decodes its params, takes the guard, syncs the wallet its params name and
writes it back, and then only reads that wallet. -/
def syncing {ρ α : Type} (env : Env) (pre : Except Exit ρ) (name : ρ → String)
    (body : ρ → Wollet → Except Exit α) : Handler α :=
  writing pre
    (fun r s => propagate do
      let (wollet, wollets) ← syncWollet env s.wollets (name r)
      pure (wollet, { s with wollets }))
    body

namespace Arm
variable (env : Env) (request : Request)

def schema : Handler Response := run do
  let r ← paramsOrDefault env.decodeSchema request.params
  propagate do
    let method ← env.methodFromStr r.method
    pure (.result request.id (.schema (← env.schema method r.direction)))

def generateSigner : Handler Response := run <| propagate do
  let (_, mnemonic) ← env.swSignerRandom
  pure (.result request.id (.generateSigner mnemonic))

def version : Handler Response := pure (.result request.id (.version env.appVersion))

def loadWallet : Handler Response :=
  writing (paramsOrDefault env.decodeLoadWallet request.params)
    (fun r s => propagate do
      let wollet ← env.wolletNew s.config.network s.config.electrumUrl s.config.tls
        s.config.validateDomain s.config.datadir r.descriptor
      let wollets ← s.wollets.insert r.name wollet
      pure ((), { s with wollets }))
    fun r _ => pure (.result request.id (.wallet { descriptor := r.descriptor, name := r.name }))

def unloadWallet : Handler Response :=
  writing (paramsOrDefault env.decodeUnloadWallet request.params)
    (fun r s => propagate do
      let (removed, wollets) ← s.wollets.remove r.name
      pure (removed, { s with wollets }))
    fun r removed => pure (.result request.id
      (.unloadWallet { name := r.name, descriptor := removed.descriptor.text }))

def listWallets : Handler Response :=
  reading (pure ()) fun _ s =>
    pure (.result request.id (.listWallets (s.wollets.iter.map fun (name, wollet) =>
      { descriptor := wollet.descriptor.text, name })))

/-- The signer entry `LoadSigner` builds for the requested kind. -/
def loadSignerEntry (r : Req.LoadSigner) (s : State) : Except Exit AppSigner :=
  match r.kind with
  | "software" => do
    if r.mnemonic.isNone then
      throw (.error (.generic "Mnemonic must be set for software signer"))
    let mnemonic ← unwrap r.mnemonic
    pure (.availableSigner (.software (← propagate (env.swSignerNew mnemonic))))
  | "serial" => do
    let network := env.jadeNetwork s.config
    let jade ← propagate (env.jadeFromSerial network)
    unwrapResult (env.jadeUnlock jade)
    pure (.availableSigner (.jade jade))
  | "external" => do
    if r.fingerprint.isNone then
      throw (.error (.generic "Fingerprint must be set for external signer"))
    let fingerprint ←
      propagate ((env.fingerprintFromStr (← unwrap r.fingerprint)).mapError .generic)
    pure (.externalSigner fingerprint)
  | _ => throw (.error (.generic "Invalid signer kind"))

def loadSigner : Handler Response :=
  writing (paramsOrDefault env.decodeLoadSigner request.params)
    (fun r s => do
      let signer ← loadSignerEntry env r s
      propagate do
        let resp ← signerResponseFrom env r.name signer
        let signers ← s.signers.insert r.name signer
        pure (resp, { s with signers }))
    fun _ resp => pure (.result request.id (.signer resp))

def unloadSigner : Handler Response :=
  writing (paramsOrDefault env.decodeUnloadSigner request.params)
    (fun r s => propagate do
      let (removed, signers) ← s.signers.remove r.name
      pure (removed, { s with signers }))
    fun r removed => propagate do
      let signer ← signerResponseFrom env r.name removed
      pure (.result request.id (.unloadSigner signer))

def listSigners : Handler Response :=
  reading (pure ()) fun _ s => propagate do
    let signers ← s.signers.iter.mapM fun (name, signer) => signerResponseFrom env name signer
    pure (.result request.id (.listSigners signers))

def address : Handler Response :=
  syncing env (paramsOrDefault env.decodeAddress request.params) (·.name) fun r wollet =>
    propagate do
      let addr ← env.address wollet r.index
      pure (.result request.id (.address addr.address addr.index))

def balance : Handler Response :=
  syncing env (paramsOrDefault env.decodeBalance request.params) (·.name) fun _ wollet =>
    propagate do
      let balance ← env.balance wollet
      pure (.result request.id (.balance balance))

def sendMany : Handler Response :=
  syncing env (paramsUnwrap env.decodeSend request.params) (·.name) fun r wollet =>
    propagate do
      let tx ← env.sendMany wollet (r.addressees.map unvalidatedAddressee) r.feeRate
      pure (.result request.id (.pset tx.text))

def singlesigDescriptor : Handler Response :=
  reading (paramsUnwrap env.decodeSinglesigDescriptor request.params) fun r s => do
    let (signer, scriptVariant, blindingVariant) ← propagate do
      let signer ← s.signers.getAvailable r.name
      let scriptVariant ← (env.singlesigFromStr r.singlesigKind).mapError .generic
      let blindingVariant ← (env.blindingKeyFromStr r.descriptorBlindingKey).mapError .generic
      pure (signer, scriptVariant, blindingVariant)
    let descriptor ← unwrapResult (env.singlesigDesc signer scriptVariant blindingVariant)
    pure (.result request.id (.singlesigDescriptor descriptor))

def multisigDescriptor : Handler Response := run do
  let r ← paramsUnwrap env.decodeMultisigDescriptor request.params
  propagate do
    let multisigVariant ← (env.multisigFromStr r.multisigKind).mapError .generic
    let blindingVariant ← (env.blindingKeyFromStr r.descriptorBlindingKey).mapError .generic
    let keyoriginXpubs ← r.keyoriginXpubs.mapM fun keyoriginXpub =>
      (env.keyoriginXpubFromStr keyoriginXpub).mapError .generic
    let descriptor ← env.multisigDesc r.threshold keyoriginXpubs multisigVariant blindingVariant
    pure (.result request.id (.multisigDescriptor descriptor))

def xpub : Handler Response :=
  reading (paramsUnwrap env.decodeXpub request.params) fun r s => propagate do
    let signer ← s.signers.getAvailable r.name
    let bip ← (env.bipFromStr r.xpubKind).mapError .generic
    let keyoriginXpub ← env.keyoriginXpub signer bip
    pure (.result request.id (.xpub keyoriginXpub))

def sign : Handler Response :=
  reading (paramsUnwrap env.decodeSign request.params) fun r s => propagate do
    let signer ← s.signers.getAvailable r.name
    let pset ← (env.psetFromStr r.pset).mapError .generic
    let pset ← env.sign signer pset
    pure (.result request.id (.pset pset.text))

def broadcast : Handler Response :=
  reading (paramsUnwrap env.decodeBroadcast request.params) fun r s => propagate do
    let wollet ← s.wollets.get r.name
    let pset ← (env.psetFromStr r.pset).mapError .generic
    let tx ← env.finalize wollet pset
    if !r.dryRun then
      let _ ← env.broadcast wollet tx
    pure (.result request.id (.broadcast tx.txid))

def walletDetails : Handler Response :=
  reading (paramsUnwrap env.decodeWalletDetails request.params) fun r s => propagate do
    let wollet ← s.wollets.get r.name
    let type_ := walletType wollet.descriptor.descriptor
    let warnings : List String := []
    let warnings := if hasUniqueFingerprints wollet.signers then warnings
      else warnings ++ [duplicateFingerprintsWarning]
    let (signers, warnings) := signerDetails env s.signers wollet.signers warnings
    pure (.result request.id
      (.walletDetails (env.walletTypeToString type_) signers (", ".intercalate warnings)))

def walletCombine : Handler Response :=
  reading (paramsUnwrap env.decodeWalletCombine request.params) fun r s => propagate do
    let wollet ← s.wollets.get r.name
    let psets ← r.pset.mapM fun pset => (env.psetFromStr pset).mapError .generic
    let pset ← env.combine wollet psets
    pure (.result request.id (.walletCombine pset.text))

def walletPsetDetails : Handler Response :=
  reading (paramsUnwrap env.decodeWalletPsetDetails request.params) fun r s => propagate do
    let wollet ← s.wollets.get r.name
    let pset ← (env.psetFromStr r.pset).mapError .generic
    let details ← env.getDetails wollet pset
    let (hasSignaturesFrom, warnings) := signerDetails env s.signers details.fingerprintsHas []
    let (missingSignaturesFrom, warnings) :=
      signerDetails env s.signers details.fingerprintsMissing warnings
    pure (.result request.id (.walletPsetDetails hasSignaturesFrom missingSignaturesFrom
      (", ".intercalate warnings)))

def issue : Handler Response :=
  syncing env (paramsUnwrap env.decodeIssue request.params) (·.name) fun r wollet =>
    propagate do
      let tx ← env.issueAsset wollet r.satoshiAsset (r.addressAsset.getD "") r.satoshiToken
        (r.addressToken.getD "") (r.contract.getD "") r.feeRate
      pure (.result request.id (.pset tx.text))

def contract : Handler Response := run do
  let r ← paramsUnwrap env.decodeContract request.params
  propagate do
    let c : Contract :=
      { entity := .domain r.domain, issuerPubkey := ← env.vecFromHex r.issuerPubkey,
        name := r.name, precision := r.precision, ticker := r.ticker, version := r.version }
    env.contractValidate c
    pure (.result request.id (.contract c))

def assetDetails : Handler Response :=
  reading (paramsUnwrap env.decodeAssetDetails request.params) fun r s => propagate do
    let assetId ← (env.assetIdFromStr r.assetId).mapError .generic
    let asset ← s.getAsset assetId
    pure (.result request.id (.assetDetails asset.name))

def stop : Handler Response := run (throw (.error .stop))

end Arm

/-- The `match method` of `inner_method_handler`. -/
def dispatch (env : Env) (request : Request) : Method → Handler Response
  | .schema => Arm.schema env request
  | .generateSigner => Arm.generateSigner env request
  | .version => Arm.version env request
  | .loadWallet => Arm.loadWallet env request
  | .unloadWallet => Arm.unloadWallet env request
  | .listWallets => Arm.listWallets request
  | .loadSigner => Arm.loadSigner env request
  | .unloadSigner => Arm.unloadSigner env request
  | .listSigners => Arm.listSigners env request
  | .address => Arm.address env request
  | .balance => Arm.balance env request
  | .sendMany => Arm.sendMany env request
  | .singlesigDescriptor => Arm.singlesigDescriptor env request
  | .multisigDescriptor => Arm.multisigDescriptor env request
  | .xpub => Arm.xpub env request
  | .sign => Arm.sign env request
  | .broadcast => Arm.broadcast env request
  | .walletDetails => Arm.walletDetails env request
  | .walletCombine => Arm.walletCombine env request
  | .walletPsetDetails => Arm.walletPsetDetails env request
  | .issue => Arm.issue env request
  | .contract => Arm.contract env request
  | .assetDetails => Arm.assetDetails env request
  | .stop => Arm.stop

/-- `inner_method_handler`: a method name that does not parse gets an `unimplemented`
response carrying the parse error; any other is dispatched. -/
def innerMethodHandler (env : Env) (request : Request) : Handler Response :=
  match env.methodFromStr request.method with
  | .error e => pure (.unimplemented request.id e)
  | .ok method => dispatch env request method

theorem innerMethodHandler_of_method {env : Env} {request : Request} {m : Method}
    (hm : env.methodFromStr request.method = .ok m) :
    innerMethodHandler env request = dispatch env request m := by
  unfold innerMethodHandler
  rw [hm]

end LwkApp
