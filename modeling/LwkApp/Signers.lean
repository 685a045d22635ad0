import LwkApp.Env
import Mathlib.Data.Finset.Basic

/-! Signer identities: `signer_response_from`, the fingerprint-to-name resolution over the
signer registry (spec §4.5), and the duplicate-fingerprint test of `WalletDetails`. -/
namespace LwkApp

/-- `signer_response_from`: an available signer is asked for its fingerprint, identifier and
xpub; an external one answers with the fingerprint it carries and nothing else. -/
def signerResponseFrom (env : Env) (name : String) (signer : AppSigner) :
    Except Error Resp.Signer := do
  let (fingerprint, id, xpub) ← match signer with
    | .availableSigner signer => do
      pure (← env.fingerprint signer, some (← env.identifier signer), some (← env.xpub signer))
    | .externalSigner fingerprint => pure (fingerprint, none, none)
  pure { name, id, fingerprint, xpub }

/-- An external entry always answers, with no identifier and no xpub. -/
@[simp] theorem signerResponseFrom_external (env : Env) (name : String) (f : Fingerprint) :
    signerResponseFrom env name (.externalSigner f) = .ok ⟨name, none, f, none⟩ := rfl

/-- Modelled from the spec: `Signers::get_available` (`state.rs`, absent from the sources), the
signing capability of a registered signer; an external one has none (spec §4.3). -/
def Registry.getAvailable (signers : Registry AppSigner) (name : String) :
    Except Error AnySigner := do
  match ← signers.get name with
  | .availableSigner signer => pure signer
  | .externalSigner _ => throw (.signerNotAvailable name)

/-- The fingerprint a registry entry resolves to: asked of an available signer, carried by an
external one. -/
def AppSigner.resolvedFingerprint (env : Env) : AppSigner → Option Fingerprint
  | .availableSigner signer => (env.fingerprint signer).toOption
  | .externalSigner fingerprint => some fingerprint

def unknownFingerprintWarning : String := "unknown fingerprint"
def nameCollisionWarning : String := "registry name collision"

/-- Modelled from the spec: `Signers::name_from_fingerprint` (`state.rs`, absent from the
sources), spec §4.5. The name of the one entry whose fingerprint matches; with none or with
several, no name and one warning appended. -/
def nameFromFingerprint (env : Env) (signers : Registry AppSigner) (fingerprint : Fingerprint)
    (warnings : List String) : Option String × List String :=
  match signers.iter.filter (fun e => decide (e.2.resolvedFingerprint env = some fingerprint)) with
  | [(name, _)] => (some name, warnings)
  | [] => (none, warnings ++ [unknownFingerprintWarning])
  | _ => (none, warnings ++ [nameCollisionWarning])

/-- `fingerprints.iter().map(|f| SignerDetails { name: name_from_fingerprint(f, &mut warnings),
.. }).collect()`: one detail per fingerprint, in order, threading the warnings. -/
def signerDetails (env : Env) (signers : Registry AppSigner) :
    List Fingerprint → List String → List Resp.SignerDetails × List String
  | [], warnings => ([], warnings)
  | fingerprint :: rest, warnings =>
    let (name, warnings) := nameFromFingerprint env signers fingerprint warnings
    let (details, warnings) := signerDetails env signers rest warnings
    (⟨name, fingerprint⟩ :: details, warnings)

section Resolution
variable (env : Env) (signers : Registry AppSigner)

/-- Resolution only appends to the warnings it is handed. -/
theorem nameFromFingerprint_warnings (f : Fingerprint) (warnings : List String) :
    (nameFromFingerprint env signers f warnings).2 =
      warnings ++ (nameFromFingerprint env signers f []).2 := by
  unfold nameFromFingerprint
  split <;> simp

theorem nameFromFingerprint_name (f : Fingerprint) (warnings : List String) :
    (nameFromFingerprint env signers f warnings).1 = (nameFromFingerprint env signers f []).1 := by
  unfold nameFromFingerprint
  split <;> rfl

theorem signerDetails_warnings (fs : List Fingerprint) (warnings : List String) :
    (signerDetails env signers fs warnings).2 =
      warnings ++ (signerDetails env signers fs []).2 := by
  induction fs generalizing warnings with
  | nil => simp [signerDetails]
  | cons f fs ih =>
    simp only [signerDetails]
    rw [ih, ih (nameFromFingerprint env signers f []).2, nameFromFingerprint_warnings,
      List.append_assoc]

theorem signerDetails_details (fs : List Fingerprint) (warnings : List String) :
    (signerDetails env signers fs warnings).1 = (signerDetails env signers fs []).1 := by
  induction fs generalizing warnings with
  | nil => rfl
  | cons f fs ih =>
    simp only [signerDetails]
    rw [ih, ih (nameFromFingerprint env signers f []).2, nameFromFingerprint_name]

/-- Every warning resolution adds says the fingerprint is unknown or ambiguous. -/
theorem mem_signerDetails_warnings {fs : List Fingerprint} {w : String}
    (h : w ∈ (signerDetails env signers fs []).2) :
    w = unknownFingerprintWarning ∨ w = nameCollisionWarning := by
  induction fs with
  | nil => simp [signerDetails] at h
  | cons f fs ih =>
    simp only [signerDetails] at h
    rw [signerDetails_warnings, List.mem_append] at h
    rcases h with h | h
    · unfold nameFromFingerprint at h
      split at h <;> simp_all
    · exact ih h

end Resolution

/-! ### Duplicate fingerprints -/

/-- `HashSet::insert`: whether the element was new, and the set now holding it. -/
def hashSetInsert (hs : Finset Fingerprint) (f : Fingerprint) : Bool × Finset Fingerprint :=
  (decide (f ∉ hs), insert f hs)

/-- `iter.all(|f| hs.insert(f))`, run from the set `hs`: stops at the first element that the
set already holds. -/
def allInsert (hs : Finset Fingerprint) : List Fingerprint → Bool
  | [] => true
  | f :: fs =>
    let (fresh, hs) := hashSetInsert hs f
    fresh && allInsert hs fs

/-- `has_unique_fingerprints` of `WalletDetails`. -/
def hasUniqueFingerprints (fingerprints : List Fingerprint) : Bool := allInsert ∅ fingerprints

/-- Loop invariant of the `all`: from a set `hs`, it succeeds exactly when the rest has no
duplicate and meets nothing already in `hs`. -/
theorem allInsert_iff (hs : Finset Fingerprint) (fs : List Fingerprint) :
    allInsert hs fs = true ↔ fs.Nodup ∧ ∀ f ∈ fs, f ∉ hs := by
  induction fs generalizing hs with
  | nil => simp [allInsert]
  | cons f fs ih =>
    simp only [allInsert, hashSetInsert, Bool.and_eq_true, decide_eq_true_eq, ih,
      List.nodup_cons, List.mem_cons, Finset.mem_insert, forall_eq_or_imp]
    constructor
    · rintro ⟨hf, hnd, hfs⟩
      exact ⟨⟨fun h => hfs f h (Or.inl rfl), hnd⟩, hf, fun g hg => (hfs g hg <| Or.inr ·)⟩
    · rintro ⟨⟨hf, hnd⟩, hfs, hg⟩
      exact ⟨hfs, hnd, fun g hg' => not_or.mpr ⟨fun h => hf (h ▸ hg'), hg g hg'⟩⟩

/-- The short-circuiting `all` over `HashSet::insert` holds exactly on lists with no
duplicate. -/
theorem hasUniqueFingerprints_iff (fingerprints : List Fingerprint) :
    hasUniqueFingerprints fingerprints = true ↔ fingerprints.Nodup := by
  simp [hasUniqueFingerprints, allInsert_iff]

end LwkApp
