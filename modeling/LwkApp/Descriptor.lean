import Mathlib.Data.List.Basic

/-! Descriptors as the wallet engine parses them, and the wallet-type classification
that `WalletDetails` reports (spec §4.4). -/
namespace LwkApp

/-- A public key of a descriptor, kept as the text it was written with. -/
structure DescriptorPublicKey where
  text : String
  deriving DecidableEq, Repr

/-- Miniscript fragments. The classifier only looks into `multi`; every other fragment
is `other`. -/
inductive Terminal where
  | multi (threshold : ℕ) (pubkeys : List DescriptorPublicKey)
  | other
  deriving DecidableEq, Repr

/-- The script under `wsh(..)`. -/
inductive WshInner where
  | sortedMulti (threshold : ℕ) (pubkeys : List DescriptorPublicKey)
  | ms (node : Terminal)
  deriving DecidableEq, Repr

/-- The script under `sh(..)`. -/
inductive ShInner where
  | wsh (inner : WshInner)
  | wpkh (key : DescriptorPublicKey)
  | sortedMulti (threshold : ℕ) (pubkeys : List DescriptorPublicKey)
  | ms (node : Terminal)
  deriving DecidableEq, Repr

/-- The descriptor under the confidential wrapper. -/
inductive Descriptor where
  | bare (node : Terminal)
  | pkh (key : DescriptorPublicKey)
  | wpkh (key : DescriptorPublicKey)
  | sh (inner : ShInner)
  | wsh (inner : WshInner)
  | tr (internalKey : DescriptorPublicKey)
  deriving DecidableEq, Repr

inductive DescriptorType where
  | bare | sh | pkh | wpkh | wsh | shWsh | shWpkh
  | shSortedMulti | wshSortedMulti | shWshSortedMulti | tr
  deriving DecidableEq, Repr

/-- `Descriptor::desc_type`: the script type, looking through `sh` and `wsh`. -/
def Descriptor.descType : Descriptor → DescriptorType
  | .bare _ => .bare
  | .pkh _ => .pkh
  | .wpkh _ => .wpkh
  | .sh (.wsh (.sortedMulti _ _)) => .shWshSortedMulti
  | .sh (.wsh (.ms _)) => .shWsh
  | .sh (.wpkh _) => .shWpkh
  | .sh (.sortedMulti _ _) => .shSortedMulti
  | .sh (.ms _) => .sh
  | .wsh (.sortedMulti _ _) => .wshSortedMulti
  | .wsh (.ms _) => .wsh
  | .tr _ => .tr

/-- `request::WalletType`. -/
inductive WalletType where
  | unknown
  | wpkh
  | shWpkh
  | wshMulti (threshold pubkeys : ℕ)
  deriving DecidableEq, Repr

/-- The classification of `WalletDetails`: first by `desc_type`, then by looking for a
`multi` directly under `wsh`. -/
def walletType (descriptor : Descriptor) : WalletType :=
  match descriptor.descType with
  | .wpkh => .wpkh
  | .shWpkh => .shWpkh
  | _ =>
    match descriptor with
    | .wsh wsh =>
      match wsh with
      | .ms ms =>
        match ms with
        | .multi threshold pubkeys => .wshMulti threshold pubkeys.length
        | _ => .unknown
      | _ => .unknown
    | _ => .unknown

end LwkApp
