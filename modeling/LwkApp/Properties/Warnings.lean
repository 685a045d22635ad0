import LwkApp.Properties.Effects

/-! The warnings of `WalletDetails`: the duplicate-fingerprint warning, and the warnings that
resolving fingerprints to signer names appends after it. -/
namespace LwkApp

theorem paramsUnwrap_eq_ok {ρ : Type} {decode : Json → Except Error ρ} {params : Option Json}
    {r : ρ} :
    paramsUnwrap decode params = .ok r ↔ ∃ p, params = some p ∧ decode p = .ok r := by
  cases params <;> simp [paramsUnwrap, unwrap, except_bind_eq_ok]

/-- No warning of the name resolution is the duplicate-fingerprint warning. -/
theorem duplicate_not_mem_signerDetails (env : Env) (signers : Registry AppSigner)
    (fs : List Fingerprint) :
    duplicateFingerprintsWarning ∉ (signerDetails env signers fs []).2 := by
  intro h
  rcases mem_signerDetails_warnings env signers h with h | h <;>
    simp [duplicateFingerprintsWarning, unknownFingerprintWarning, nameCollisionWarning] at h

section
variable {env : Env} {request : Request}

/-- `WalletDetails` warns about duplicate fingerprints once, first, and only when the wallet
lists a fingerprint twice; the warnings of the name resolution follow, and none of them is
that warning. The short-circuiting `all` over `HashSet::insert` decides exactly
duplicate-freeness. -/
theorem walletDetails_warnings {s s' : Session} {resp : Response}
    (hm : env.methodFromStr request.method = .ok .walletDetails)
    (h : innerMethodHandler env request s = (.ok resp, s')) :
    ∃ wollet : Wollet,
      (∃ p r, request.params = some p ∧ env.decodeWalletDetails p = .ok r ∧
        s.state.wollets.lookup r.name = some wollet) ∧
      let resolved := signerDetails env s.state.signers wollet.signers []
      let warnings := (if wollet.signers.Nodup then [] else [duplicateFingerprintsWarning]) ++
        resolved.2
      resp = .result request.id (.walletDetails
        (env.walletTypeToString (walletType wollet.descriptor.descriptor)) resolved.1
        (", ".intercalate warnings)) ∧
      duplicateFingerprintsWarning ∉ resolved.2 ∧
      warnings.count duplicateFingerprintsWarning = (if wollet.signers.Nodup then 0 else 1) ∧
      ∀ fingerprints : List Fingerprint,
        hasUniqueFingerprints fingerprints = true ↔ fingerprints.Nodup := by
  simp only [innerMethodHandler, hm] at h
  obtain ⟨r, hr, -, hb, -⟩ := reading_eq_ok h
  obtain ⟨p, hp, hd⟩ := paramsUnwrap_eq_ok.mp hr
  simp only [except_bind_eq_ok, propagate_eq_ok, Registry.get_eq_ok, except_pure,
    Except.ok.injEq] at hb
  obtain ⟨wollet, hw, rfl⟩ := hb
  have hn := duplicate_not_mem_signerDetails env s.state.signers wollet.signers
  refine ⟨wollet, ⟨p, r, hp, hd, hw⟩, ?_, hn, ?_, hasUniqueFingerprints_iff⟩
  · rw [signerDetails_warnings, signerDetails_details]
    by_cases hnd : wollet.signers.Nodup <;> simp [hnd, hasUniqueFingerprints_iff]
  · by_cases hnd : wollet.signers.Nodup <;> simp [hnd, List.count_eq_zero_of_not_mem hn]

/-- A wallet whose descriptor names the same signer twice gets the warning, then the
resolution's own warnings for the unknown fingerprint. -/
theorem walletDetails_warnings_repeated :
    let f : Fingerprint := ⟨[1, 2, 3, 4], rfl⟩
    let env : Env := { Env.unavailable with
      methodFromStr := fun _ => .ok .walletDetails
      decodeWalletDetails := fun _ => .ok ⟨"w"⟩ }
    let request : Request := ⟨"wallet_details", some (.object [("name", .string "w")]), .null⟩
    let s : Session := ⟨⟨⟨.liquid, "", false, false, ""⟩,
      (∅ : Registry Wollet).extend "w" ⟨⟨.wpkh ⟨"k"⟩, "elwpkh(k)"⟩, [f, f], ⟨[], 0⟩⟩, ∅, ∅⟩,
      false, false⟩
    ∃ resp s', innerMethodHandler env request s = (.ok resp, s') ∧
    ∃ wollet : Wollet,
      (∃ p r, request.params = some p ∧ env.decodeWalletDetails p = .ok r ∧
        s.state.wollets.lookup r.name = some wollet) ∧
      let resolved := signerDetails env s.state.signers wollet.signers []
      let warnings := (if wollet.signers.Nodup then [] else [duplicateFingerprintsWarning]) ++
        resolved.2
      resp = .result request.id (.walletDetails
        (env.walletTypeToString (walletType wollet.descriptor.descriptor)) resolved.1
        (", ".intercalate warnings)) ∧
      duplicateFingerprintsWarning ∉ resolved.2 ∧
      warnings.count duplicateFingerprintsWarning = (if wollet.signers.Nodup then 0 else 1) ∧
      ∀ fingerprints : List Fingerprint,
        hasUniqueFingerprints fingerprints = true ↔ fingerprints.Nodup :=
  ⟨_, _, rfl, walletDetails_warnings rfl rfl⟩

end

end LwkApp
