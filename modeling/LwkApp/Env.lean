import LwkApp.Registry

/-! The collaborators of one request: the params decoders, the wallet engine, the signers
and the hardware device, and the descriptor and parsing helpers of the `common` crate. -/
namespace LwkApp

/-- What the code outside `lib.rs` does during one request. Each request of a run is served
against its own `Env`, so a run ranges over every pattern of success and failure of the
collaborators. -/
structure Env where
  -- `Method::from_str` and `Method::schema` of `method.rs`
  methodFromStr : String → Except Error Method
  schema : Method → Req.Direction → Except Error Json
  -- `serde_json::from_value` into each request record
  decodeSchema : Json → Except Error Req.Schema
  decodeLoadWallet : Json → Except Error Req.LoadWallet
  decodeUnloadWallet : Json → Except Error Req.UnloadWallet
  decodeLoadSigner : Json → Except Error Req.LoadSigner
  decodeUnloadSigner : Json → Except Error Req.UnloadSigner
  decodeAddress : Json → Except Error Req.Address
  decodeBalance : Json → Except Error Req.Balance
  decodeSend : Json → Except Error Req.Send
  decodeSinglesigDescriptor : Json → Except Error Req.SinglesigDescriptor
  decodeMultisigDescriptor : Json → Except Error Req.MultisigDescriptor
  decodeXpub : Json → Except Error Req.Xpub
  decodeSign : Json → Except Error Req.Sign
  decodeBroadcast : Json → Except Error Req.Broadcast
  decodeWalletDetails : Json → Except Error Req.WalletDetails
  decodeWalletCombine : Json → Except Error Req.WalletCombine
  decodeWalletPsetDetails : Json → Except Error Req.WalletPsetDetails
  decodeIssue : Json → Except Error Req.Issue
  decodeContract : Json → Except Error Req.Contract
  decodeAssetDetails : Json → Except Error Req.AssetDetails
  /-- `Display` of `request::WalletType`. -/
  walletTypeToString : WalletType → String
  /-- `consts::APP_VERSION`. -/
  appVersion : String
  -- the wallet engine
  wolletNew : ElementsNetwork → String → Bool → Bool → String → String → Except Error Wollet
  syncTxs : Wollet → Except Error WolletStore
  address : Wollet → Option UInt32 → Except Error AddressResult
  balance : Wollet → Except Error (List (AssetId × UInt64))
  sendMany : Wollet → List UnvalidatedAddressee → Option Float → Except Error Pset
  finalize : Wollet → Pset → Except Error Transaction
  broadcast : Wollet → Transaction → Except Error Txid
  combine : Wollet → List Pset → Except Error Pset
  getDetails : Wollet → Pset → Except Error PsetDetails
  issueAsset : Wollet → UInt64 → String → UInt64 → String → String → Option Float →
    Except Error Pset
  -- the signers and the hardware device
  swSignerRandom : Except Error (SwSigner × String)
  swSignerNew : String → Except Error SwSigner
  jadeNetwork : Config → JadeNetwork
  jadeFromSerial : JadeNetwork → Except Error MutexJade
  jadeUnlock : MutexJade → Except Error Unit
  fingerprint : AnySigner → Except Error Fingerprint
  identifier : AnySigner → Except Error XKeyIdentifier
  xpub : AnySigner → Except Error Xpub
  keyoriginXpub : AnySigner → Bip → Except Error String
  sign : AnySigner → Pset → Except Error Pset
  -- parsers and descriptor builders; a `String` error becomes `Error::Generic` at the call
  fingerprintFromStr : String → Except String Fingerprint
  singlesigFromStr : String → Except String Singlesig
  multisigFromStr : String → Except String Multisig
  blindingKeyFromStr : String → Except String DescriptorBlindingKey
  bipFromStr : String → Except String Bip
  singlesigDesc : AnySigner → Singlesig → DescriptorBlindingKey → Except String String
  multisigDesc : UInt32 → List KeyOriginXpub → Multisig → DescriptorBlindingKey →
    Except Error String
  keyoriginXpubFromStr : String → Except String KeyOriginXpub
  psetFromStr : String → Except String Pset
  assetIdFromStr : String → Except String AssetId
  vecFromHex : String → Except Error (List UInt8)
  contractValidate : Contract → Except Error Unit

/-- The environment in which every collaborator call fails and every params record is
rejected; a concrete run overrides the calls it needs. -/
def Env.unavailable : Env where
  methodFromStr _ := .error (.generic "unavailable")
  schema _ _ := .error (.generic "unavailable")
  decodeSchema _ := .error (.generic "unavailable")
  decodeLoadWallet _ := .error (.generic "unavailable")
  decodeUnloadWallet _ := .error (.generic "unavailable")
  decodeLoadSigner _ := .error (.generic "unavailable")
  decodeUnloadSigner _ := .error (.generic "unavailable")
  decodeAddress _ := .error (.generic "unavailable")
  decodeBalance _ := .error (.generic "unavailable")
  decodeSend _ := .error (.generic "unavailable")
  decodeSinglesigDescriptor _ := .error (.generic "unavailable")
  decodeMultisigDescriptor _ := .error (.generic "unavailable")
  decodeXpub _ := .error (.generic "unavailable")
  decodeSign _ := .error (.generic "unavailable")
  decodeBroadcast _ := .error (.generic "unavailable")
  decodeWalletDetails _ := .error (.generic "unavailable")
  decodeWalletCombine _ := .error (.generic "unavailable")
  decodeWalletPsetDetails _ := .error (.generic "unavailable")
  decodeIssue _ := .error (.generic "unavailable")
  decodeContract _ := .error (.generic "unavailable")
  decodeAssetDetails _ := .error (.generic "unavailable")
  walletTypeToString _ := "unknown"
  appVersion := ""
  wolletNew _ _ _ _ _ _ := .error (.generic "unavailable")
  syncTxs _ := .error (.generic "unavailable")
  address _ _ := .error (.generic "unavailable")
  balance _ := .error (.generic "unavailable")
  sendMany _ _ _ := .error (.generic "unavailable")
  finalize _ _ := .error (.generic "unavailable")
  broadcast _ _ := .error (.generic "unavailable")
  combine _ _ := .error (.generic "unavailable")
  getDetails _ _ := .error (.generic "unavailable")
  issueAsset _ _ _ _ _ _ _ := .error (.generic "unavailable")
  swSignerRandom := .error (.generic "unavailable")
  swSignerNew _ := .error (.generic "unavailable")
  jadeNetwork _ := .liquid
  jadeFromSerial _ := .error (.generic "unavailable")
  jadeUnlock _ := .error (.generic "unavailable")
  fingerprint _ := .error (.generic "unavailable")
  identifier _ := .error (.generic "unavailable")
  xpub _ := .error (.generic "unavailable")
  keyoriginXpub _ _ := .error (.generic "unavailable")
  sign _ _ := .error (.generic "unavailable")
  fingerprintFromStr _ := .error "unavailable"
  singlesigFromStr _ := .error "unavailable"
  multisigFromStr _ := .error "unavailable"
  blindingKeyFromStr _ := .error "unavailable"
  bipFromStr _ := .error "unavailable"
  singlesigDesc _ _ _ := .error "unavailable"
  multisigDesc _ _ _ _ := .error (.generic "unavailable")
  keyoriginXpubFromStr _ := .error "unavailable"
  psetFromStr _ := .error "unavailable"
  assetIdFromStr _ := .error "unavailable"
  vecFromHex _ := .error (.generic "unavailable")
  contractValidate _ := .error (.generic "unavailable")

end LwkApp
