import LwkApp.Descriptor

/-! Requests, responses and errors of the RPC server, and the values its collaborators
hand back. Records keep the field names that `inner_method_handler` reads and writes. -/
namespace LwkApp

/-- A JSON value (`serde_json::Value`); a number is kept as decimal mantissa and exponent. -/
inductive Json where
  | null
  | bool (b : Bool)
  | number (mantissa exponent : ℤ)
  | string (s : String)
  | array (items : List Json)
  | object (fields : List (String × Json))

/-- A BIP32 key fingerprint: exactly four bytes. -/
structure Fingerprint where
  bytes : List UInt8
  length_bytes : bytes.length = 4
  deriving DecidableEq, Repr

structure AssetId where
  hex : String
  deriving DecidableEq, Repr

/-- The server's errors (`crate::Error`), one constructor for each source of failure. -/
inductive Error where
  /-- `Error::Generic`, also what a `String` error becomes under `?`. -/
  | generic (message : String)
  /-- `serde_json::from_value` rejected the params. -/
  | serdeJson (message : String)
  | nameAlreadyExists (name : String)
  | nameNotFound (name : String)
  | signerNotAvailable (name : String)
  | assetNotFound (assetId : AssetId)
  | wollet (message : String)
  | signer (message : String)
  | jade (message : String)
  | hex (message : String)
  | stop
  | alreadyStarted
  | notStarted
  deriving DecidableEq, Repr

/-- The closed set of RPC methods (`crate::method::Method`). -/
inductive Method where
  | schema | generateSigner | version
  | loadWallet | unloadWallet | listWallets
  | loadSigner | unloadSigner | listSigners
  | address | balance | sendMany
  | singlesigDescriptor | multisigDescriptor | xpub | sign | broadcast
  | walletDetails | walletCombine | walletPsetDetails
  | issue | contract | assetDetails | stop
  deriving DecidableEq, Repr

/-! ### Collaborator values -/

inductive ElementsNetwork where
  | liquid
  | liquidTestnet
  | elementsRegtest (policyAsset : AssetId)
  deriving DecidableEq, Repr

/-- The fields of `Config` that the handlers read. -/
structure Config where
  network : ElementsNetwork
  electrumUrl : String
  tls : Bool
  validateDomain : Bool
  datadir : String
  deriving DecidableEq, Repr

/-- A software signer, kept as the mnemonic it was built from. -/
structure SwSigner where
  mnemonic : String
  deriving DecidableEq, Repr

/-- The network a hardware device is opened for (`jade::Network`). -/
inductive JadeNetwork where
  | liquid | testnetLiquid | localtestLiquid
  deriving DecidableEq, Repr

/-- An open hardware-device session (`MutexJade`). -/
structure MutexJade where
  network : JadeNetwork
  deriving DecidableEq, Repr

/-- A signer that holds signing capability. -/
inductive AnySigner where
  | software (signer : SwSigner)
  | jade (jade : MutexJade)
  deriving DecidableEq, Repr

/-- A signer registry entry: one that can sign, or one known only by its fingerprint. -/
inductive AppSigner where
  | availableSigner (signer : AnySigner)
  | externalSigner (fingerprint : Fingerprint)
  deriving DecidableEq, Repr

/-- The confidential descriptor a wallet is bound to (`WolletDescriptor`): the descriptor
under the blinding key, and the text its `Display` writes. -/
structure WolletDescriptor where
  descriptor : Descriptor
  text : String
  deriving DecidableEq, Repr

structure Txid where
  hex : String
  deriving DecidableEq, Repr

/-- The wallet's store, which `sync_txs` brings up to date from the Electrum server: the
transactions it has seen and the last unused address index. -/
structure WolletStore where
  txs : List Txid
  lastUnused : UInt32
  deriving DecidableEq, Repr

/-- A loaded wallet (`Wollet`), by what the handlers read of it: its descriptor, the
fingerprints of its signers, and its store. -/
structure Wollet where
  descriptor : WolletDescriptor
  signers : List Fingerprint
  store : WolletStore
  deriving DecidableEq, Repr

/-- A PSET, kept as its base64 text. -/
structure Pset where
  text : String
  deriving DecidableEq, Repr

structure Transaction where
  txid : Txid
  deriving DecidableEq, Repr

/-- What `Wollet::address` returns. -/
structure AddressResult where
  address : String
  index : UInt32
  deriving DecidableEq, Repr

/-- What `Wollet::get_details` returns: the signers that have signed and those missing. -/
structure PsetDetails where
  fingerprintsHas : List Fingerprint
  fingerprintsMissing : List Fingerprint
  deriving DecidableEq, Repr

structure XKeyIdentifier where
  hex : String
  deriving DecidableEq, Repr

structure Xpub where
  text : String
  deriving DecidableEq, Repr

structure KeyOriginXpub where
  text : String
  deriving DecidableEq, Repr

/-- The cached metadata of an asset; `AssetDetails` reports its name. -/
structure AssetMeta where
  name : String
  deriving DecidableEq, Repr

inductive Singlesig where
  | wpkh | shWpkh
  deriving DecidableEq, Repr

inductive Multisig where
  | wsh
  deriving DecidableEq, Repr

inductive DescriptorBlindingKey where
  | slip77 | slip77Rand | elip151
  deriving DecidableEq, Repr

inductive Bip where
  | bip84 | bip49 | bip87
  deriving DecidableEq, Repr

inductive Entity where
  | domain (domain : String)
  deriving DecidableEq, Repr

/-- An asset contract (`wollet::Contract`). -/
structure Contract where
  entity : Entity
  issuerPubkey : List UInt8
  name : String
  precision : UInt8
  ticker : String
  version : UInt8
  deriving DecidableEq, Repr

/-- A payee for the wallet engine (`wollet::UnvalidatedAddressee`). -/
structure UnvalidatedAddressee where
  satoshi : UInt64
  address : String
  asset : String
  deriving DecidableEq, Repr

/-! ### Request params (`rpc_model::request`) -/

namespace Req

inductive Direction where
  | request | response
  deriving DecidableEq, Repr

structure Schema where
  method : String
  direction : Direction

structure LoadWallet where
  descriptor : String
  name : String

structure UnloadWallet where
  name : String

structure LoadSigner where
  name : String
  kind : String
  mnemonic : Option String
  fingerprint : Option String

structure UnloadSigner where
  name : String

structure Address where
  name : String
  index : Option UInt32

structure Balance where
  name : String

structure UnvalidatedAddressee where
  satoshi : UInt64
  address : String
  asset : String

structure Send where
  addressees : List UnvalidatedAddressee
  feeRate : Option Float
  name : String

structure SinglesigDescriptor where
  name : String
  singlesigKind : String
  descriptorBlindingKey : String

structure MultisigDescriptor where
  descriptorBlindingKey : String
  multisigKind : String
  threshold : UInt32
  keyoriginXpubs : List String

structure Xpub where
  name : String
  xpubKind : String

structure Sign where
  name : String
  pset : String

structure Broadcast where
  name : String
  dryRun : Bool
  pset : String

structure WalletDetails where
  name : String

structure WalletCombine where
  name : String
  pset : List String

structure WalletPsetDetails where
  name : String
  pset : String

structure Issue where
  name : String
  satoshiAsset : UInt64
  addressAsset : Option String
  satoshiToken : UInt64
  addressToken : Option String
  contract : Option String
  feeRate : Option Float

structure Contract where
  domain : String
  issuerPubkey : String
  name : String
  precision : UInt8
  ticker : String
  version : UInt8

structure AssetDetails where
  assetId : String

end Req

/-! ### Results (`rpc_model::response`) -/

namespace Resp

structure Wallet where
  descriptor : String
  name : String
  deriving DecidableEq, Repr

structure Signer where
  name : String
  id : Option XKeyIdentifier
  fingerprint : Fingerprint
  xpub : Option Xpub
  deriving DecidableEq, Repr

structure SignerDetails where
  name : Option String
  fingerprint : Fingerprint
  deriving DecidableEq, Repr

end Resp

/-- The result of a successful call, one constructor for each response record, before
`serde_json::to_value` (which cannot fail on these records). -/
inductive Payload where
  | schema (value : Json)
  | generateSigner (mnemonic : String)
  | version (version : String)
  | wallet (wallet : Resp.Wallet)
  | unloadWallet (unloaded : Resp.Wallet)
  | listWallets (wallets : List Resp.Wallet)
  | signer (signer : Resp.Signer)
  | unloadSigner (unloaded : Resp.Signer)
  | listSigners (signers : List Resp.Signer)
  | address (address : String) (index : UInt32)
  | balance (balance : List (AssetId × UInt64))
  | pset (pset : String)
  | singlesigDescriptor (descriptor : String)
  | multisigDescriptor (descriptor : String)
  | xpub (keyoriginXpub : String)
  | broadcast (txid : Txid)
  | walletDetails (type_ : String) (signers : List Resp.SignerDetails) (warnings : String)
  | walletCombine (pset : String)
  | walletPsetDetails (hasSignaturesFrom missingSignaturesFrom : List Resp.SignerDetails)
      (warnings : String)
  | contract (contract : Contract)
  | assetDetails (name : String)

/-- A JSON-RPC request as the transport hands it over (`tiny_jrpc::Request`). -/
structure Request where
  method : String
  params : Option Json
  id : Json

/-- A JSON-RPC response: a result, or the marker for a method name that does not parse. -/
inductive Response where
  | result (id : Json) (value : Payload)
  | unimplemented (id : Json) (reason : Error)

end LwkApp
