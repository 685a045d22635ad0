import LwkApp.Properties.Effects

/-! Name resolution in the signature-status reports: the loop resolves each fingerprint on its
own and warns once for each one it cannot name, and a signer loaded as `external` is found by its
fingerprint. -/
namespace LwkApp

section Resolution
variable (env : Env) (signers : Registry AppSigner)

theorem nameFromFingerprint_warnings_length (f : Fingerprint) :
    (nameFromFingerprint env signers f []).2.length =
      if (nameFromFingerprint env signers f []).1.isNone then 1 else 0 := by
  unfold nameFromFingerprint
  split <;> simp

/-- The signature-status report is internally consistent: the resolution loop gives one detail
per fingerprint, in order, named as that fingerprint alone resolves; it keeps the warnings it
was handed in front and appends each fingerprint's own warnings in turn, one warning for a
fingerprint it leaves without a name and none for one it names. -/
theorem signerDetails_consistent (fs : List Fingerprint) (warnings : List String) :
    (signerDetails env signers fs warnings).1 =
        fs.map (fun f => ⟨(nameFromFingerprint env signers f []).1, f⟩) ∧
      (signerDetails env signers fs warnings).2 =
        warnings ++ (fs.map fun f => (nameFromFingerprint env signers f []).2).flatten ∧
      ∀ f, (nameFromFingerprint env signers f []).2.length =
        if (nameFromFingerprint env signers f []).1.isNone then 1 else 0 := by
  refine ⟨?_, ?_, nameFromFingerprint_warnings_length env signers⟩
  · induction fs generalizing warnings with
    | nil => rfl
    | cons f fs ih =>
      simp only [signerDetails, List.map_cons, ih, nameFromFingerprint_name env signers f warnings]
  · induction fs generalizing warnings with
    | nil => simp [signerDetails]
    | cons f fs ih =>
      simp only [signerDetails, ih, nameFromFingerprint_warnings env signers f warnings,
        List.map_cons, List.flatten_cons, List.append_assoc]

end Resolution

section External
variable {env : Env} {request : Request}

/-- A signer loaded as `external` with fingerprint `F` is found by it: when no signer registered
before resolves to `F`, name resolution afterwards names the new signer and adds no warning, so
a `WalletDetails` or `WalletPsetDetails` listing `F` reports it under that name. -/
theorem loadSigner_external_resolves {m : Mutex} {r : Req.LoadSigner} {text : String}
    {F : Fingerprint} {resp : Response} (env' : Env)
    (hm : env.methodFromStr request.method = .ok .loadSigner)
    (hd : env.decodeLoadSigner (request.params.getD .null) = .ok r) (hk : r.kind = "external")
    (hf : r.fingerprint = some text) (hF : env.fingerprintFromStr text = .ok F)
    (hfresh : ∀ name e, (name, e) ∈ m.state.signers.iter → e.resolvedFingerprint env' ≠ some F)
    (h : (methodHandler env request m).1 = .ok resp) :
    nameFromFingerprint env' (methodHandler env request m).2.state.signers F [] =
      (some r.name, []) := by
  rw [methodHandler_fst, innerMethodHandler_of_method hm] at h
  obtain ⟨-, _, ⟨⟩⟩ | ⟨r', signer, hd', habs, hkind, hst, -⟩ := loadSigner_cases (Prod.ext h rfl)
  obtain rfl : r' = r := Except.ok.inj (hd'.symm.trans hd)
  obtain rfl : signer = .externalSigner F := by
    rcases signer with (_ | _) | f
    · simp [SignerOfKind, hk] at hkind
    · simp [SignerOfKind, hk] at hkind
    · obtain ⟨-, text', hf', hF'⟩ := hkind
      rw [hf] at hf'
      cases hf'
      rw [hF] at hF'
      cases hF'
      rfl
  have hnone : m.state.signers.iter.filter
      (fun e => decide (e.2.resolvedFingerprint env' = some F)) = [] :=
    List.filter_eq_nil_iff.2 fun e he => by simpa using hfresh e.1 e.2 he
  rw [methodHandler_state, innerMethodHandler_of_method hm]
  dsimp only [dispatch]
  rw [hst, nameFromFingerprint]
  dsimp only at habs ⊢
  rw [Registry.iter_extend habs, List.filter_cons_of_pos (by simp [AppSigner.resolvedFingerprint]),
    hnone]

/-- An external signer loaded next to another one with a different fingerprint is the only
one its fingerprint resolves to. -/
theorem loadSigner_external_resolves_beside :
    let F : Fingerprint := ⟨[1, 2, 3, 4], rfl⟩
    let G : Fingerprint := ⟨[5, 6, 7, 8], rfl⟩
    let env : Env := { Env.unavailable with
      methodFromStr := fun _ => .ok .loadSigner
      decodeLoadSigner := fun _ => .ok ⟨"s", "external", none, some "01020304"⟩
      fingerprintFromStr := fun _ => .ok F }
    let request : Request := ⟨"load_signer", some (.object [("name", .string "s"),
      ("kind", .string "external"), ("fingerprint", .string "01020304")]), .null⟩
    let m : Mutex := ⟨{ (App.initial ⟨.liquid, "", false, false, ""⟩ ⟨"policy"⟩ ⟨"L-BTC"⟩).state with
      signers := (∅ : Registry AppSigner).extend "other" (.externalSigner G) }, false⟩
    (methodHandler env request m).1 = .ok (.result .null (.signer ⟨"s", none, F, none⟩)) ∧
      nameFromFingerprint Env.unavailable (methodHandler env request m).2.state.signers F [] =
        (some "s", []) := by
  intro F G env request m
  have hfresh : ∀ name e, (name, e) ∈ m.state.signers.iter →
      e.resolvedFingerprint Env.unavailable ≠ some F := by
    have hiter : m.state.signers.iter = [("other", .externalSigner G)] := rfl
    intro name e h
    rw [hiter, List.mem_singleton] at h
    cases h
    decide
  exact ⟨rfl, @loadSigner_external_resolves env request m _ "01020304" F _ Env.unavailable rfl rfl
    rfl rfl rfl hfresh rfl⟩

end External

end LwkApp
