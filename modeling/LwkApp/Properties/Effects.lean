import LwkApp.Server

/-! What one request does to the state: the write its method says, or nothing. A successful
request makes exactly that write; a failed one makes none, except an `UnloadSigner` that fails
after the removal and a wallet method that fails after its sync. -/
namespace LwkApp
open Handler

section Inversion
variable {ε ρ σ α β : Type}

theorem except_bind_eq_ok {x : Except ε α} {f : α → Except ε β} {b : β} :
    x >>= f = .ok b ↔ ∃ a, x = .ok a ∧ f a = .ok b := by
  cases x <;> simp [bind, Except.bind]

@[simp] theorem propagate_eq_ok {x : Except Error α} {a : α} :
    propagate x = .ok a ↔ x = .ok a := by
  cases x <;> simp [propagate, Except.mapError]

theorem propagate_eq_error {y : Except Error α} {x : Exit} :
    propagate y = .error x ↔ ∃ e, y = .error e ∧ x = .error e := by
  cases y <;> simp [propagate, Except.mapError, eq_comm]

theorem except_bind_pure_eq_error {x : Except ε α} {f : α → β} {e : ε} :
    (x >>= fun a => pure (f a)) = .error e ↔ x = .error e := by
  cases x <;> simp [bind, Except.bind, pure, Except.pure]

@[simp] theorem run_snd (x : Except Exit α) (s : Session) : (run x s).2 = s := rfl

theorem reading_state (pre : Except Exit ρ) (body : ρ → State → Except Exit α)
    (s : Session) : (reading pre body s).2.state = s.state := by
  rw [reading_apply]
  split
  · rfl
  · split <;> rfl

theorem reading_eq_ok {pre : Except Exit ρ} {body : ρ → State → Except Exit α}
    {s s' : Session} {a : α} (h : reading pre body s = (.ok a, s')) :
    ∃ r, pre = .ok r ∧ s.poisoned = false ∧ body r s.state = .ok a ∧
      s' = { s with held := true } := by
  rw [reading_apply] at h
  cases pre with
  | error x => simp at h
  | ok r =>
    cases hp : s.poisoned <;> simp only [hp, Bool.false_eq_true, ↓reduceIte, Prod.mk.injEq] at h
    · exact ⟨r, rfl, rfl, h.1, h.2.symm⟩
    · simp at h

/-- Every outcome of a `writing` arm: it fails before its write and leaves the state as it was,
or its update succeeds, the state is the update's, and the outcome is what it finishes with. -/
theorem writing_cases {pre : Except Exit ρ} {update : ρ → State → Except Exit (σ × State)}
    {finish : ρ → σ → Except Exit α} {s s' : Session} {out : Except Exit α}
    (h : writing pre update finish s = (out, s')) :
    (s'.state = s.state ∧ ∃ x, out = .error x) ∨
      ∃ r y, pre = .ok r ∧ s.poisoned = false ∧ update r s.state = .ok (y, s'.state) ∧
        finish r y = out := by
  rw [writing_apply] at h
  cases pre with
  | error x => simp only [Prod.mk.injEq] at h; exact .inl ⟨by rw [← h.2], x, h.1.symm⟩
  | ok r =>
    cases hp : s.poisoned <;> simp only [hp, Bool.false_eq_true, ↓reduceIte] at h
    · cases hu : update r s.state with
      | error y => simp only [hu, Prod.mk.injEq] at h; exact .inl ⟨by rw [← h.2], y, h.1.symm⟩
      | ok p =>
        simp only [hu, Prod.mk.injEq] at h
        obtain ⟨rfl, rfl⟩ := h
        exact .inr ⟨r, p.1, rfl, rfl, hu, rfl⟩
    · simp only [Prod.mk.injEq] at h; exact .inl ⟨by rw [← h.2], _, h.1.symm⟩

@[simp] theorem except_pure (a : α) : (pure a : Except ε α) = .ok a := rfl

@[simp] theorem except_ok_bind {a : α} {f : α → Except ε β} :
    (Except.ok a : Except ε α) >>= f = f a := rfl

@[simp] theorem except_error_bind {x : ε} {f : α → Except ε β} :
    (Except.error x : Except ε α) >>= f = .error x := rfl

@[simp] theorem except_throw_bind {x : ε} {f : α → Except ε β} :
    (throw x : Except ε α) >>= f = .error x := rfl

end Inversion

section Sync
variable {env : Env} {ρ α : Type}

/-- Every outcome of a `syncing` arm: it fails before the sync and leaves the state as it was,
or the wallet its params name is synced and written back, and the outcome is what the rest of
the arm makes of the synced wallet. -/
theorem syncing_cases {pre : Except Exit ρ} {name : ρ → String}
    {body : ρ → Wollet → Except Exit α} {s s' : Session} {out : Except Exit α}
    (h : syncing env pre name body s = (out, s')) :
    (s'.state = s.state ∧ ∃ x, out = .error x) ∨
      ∃ r wollet store, pre = .ok r ∧ s.state.wollets.lookup (name r) = some wollet ∧
        env.syncTxs wollet = .ok store ∧
        s'.state = { s.state with
          wollets := s.state.wollets.update (name r) { wollet with store } } ∧
        body r { wollet with store } = out := by
  refine (writing_cases h).imp_right fun ⟨r, y, hr, _, hu, hf⟩ => ?_
  simp only [propagate_eq_ok, syncWollet, except_bind_eq_ok, Registry.get_eq_ok, except_pure,
    Except.ok.injEq, Prod.mk.injEq] at hu
  obtain ⟨_, ⟨w, hl, store, hs, rfl, rfl⟩, rfl, hst⟩ := hu
  exact ⟨r, w, store, hr, hl, hs, hst.symm, hf⟩

end Sync

/-- The methods whose arm writes the state: the four that load or unload an entry, and the four
that sync a wallet through `get_mut`. -/
def Method.writes : Method → Bool
  | .loadWallet | .unloadWallet | .loadSigner | .unloadSigner => true
  | .address | .balance | .sendMany | .issue => true
  | _ => false

section Arms
variable {env : Env} {request : Request}

/-- Every other arm leaves the state as it found it. -/
theorem dispatch_state {m : Method} (hm : m.writes = false) (s : Session) :
    (dispatch env request m s).2.state = s.state := by
  cases m <;> simp only [Method.writes, Bool.true_eq_false] at hm <;> dsimp only [dispatch] <;>
    first
    | rfl
    | exact reading_state _ _ s

/-- The signer `LoadSigner` builds for a request: one that can sign for the kinds `software`
and `serial`, and for the kind `external` one carrying the fingerprint parsed from the
request. -/
def SignerOfKind (env : Env) (r : Req.LoadSigner) : AppSigner → Prop
  | .availableSigner (.software _) => r.kind = "software"
  | .availableSigner (.jade _) => r.kind = "serial"
  | .externalSigner f =>
    r.kind = "external" ∧ ∃ text, r.fingerprint = some text ∧ env.fingerprintFromStr text = .ok f

theorem loadSignerEntry_kind {r : Req.LoadSigner} {st : State} {signer : AppSigner}
    (h : Arm.loadSignerEntry env r st = .ok signer) : SignerOfKind env r signer := by
  unfold Arm.loadSignerEntry at h
  split at h
  · rename_i hk
    cases hm : r.mnemonic with
    | none => simp [hm] at h
    | some mnemonic =>
      simp only [hm, Option.isNone_some, Bool.false_eq_true, ↓reduceIte, unwrap,
        except_bind_eq_ok, propagate_eq_ok, except_pure, Except.ok.injEq] at h
      obtain ⟨_, -, _, -, _, -, rfl⟩ := h
      exact hk
  · rename_i hk
    simp only [except_bind_eq_ok, propagate_eq_ok, except_pure, Except.ok.injEq] at h
    obtain ⟨_, -, _, -, rfl⟩ := h
    exact hk
  · rename_i hk
    cases hf : r.fingerprint with
    | none => simp [hf] at h
    | some text =>
      simp only [hf, Option.isNone_some, Bool.false_eq_true, ↓reduceIte, unwrap,
        except_bind_eq_ok, propagate_eq_ok, except_pure, Except.ok.injEq] at h
      obtain ⟨_, -, _, rfl, f, hfs, rfl⟩ := h
      refine ⟨hk, _, hf, ?_⟩
      cases hx : env.fingerprintFromStr text <;> simp_all [Except.mapError]
  · simp at h

theorem loadWallet_cases {s s' : Session} {out : Except Exit Response}
    (h : Arm.loadWallet env request s = (out, s')) :
    (s'.state = s.state ∧ ∃ x, out = .error x) ∨
      ∃ r wollet, env.decodeLoadWallet (request.params.getD .null) = .ok r ∧
        env.wolletNew s.state.config.network s.state.config.electrumUrl s.state.config.tls
          s.state.config.validateDomain s.state.config.datadir r.descriptor = .ok wollet ∧
        s.state.wollets.lookup r.name = none ∧
        s'.state = { s.state with wollets := s.state.wollets.extend r.name wollet } ∧
        out = .ok (.result request.id (.wallet { descriptor := r.descriptor, name := r.name })) := by
  refine (writing_cases h).imp_right fun ⟨r, _, hr, _, hu, hf⟩ => ?_
  simp only [except_bind_eq_ok, propagate_eq_ok, Registry.insert_eq_ok, except_pure,
    Except.ok.injEq, Prod.mk.injEq] at hu
  obtain ⟨wollet, hw, _, ⟨habs, rfl⟩, -, hst⟩ := hu
  exact ⟨r, wollet, propagate_eq_ok.mp hr, hw, habs, hst.symm, hf.symm⟩

theorem unloadWallet_cases {s s' : Session} {out : Except Exit Response}
    (h : Arm.unloadWallet env request s = (out, s')) :
    (s'.state = s.state ∧ ∃ x, out = .error x) ∨
      ∃ r wollet, env.decodeUnloadWallet (request.params.getD .null) = .ok r ∧
        s.state.wollets.lookup r.name = some wollet ∧
        s'.state = { s.state with wollets := s.state.wollets.drop r.name } ∧
        out = .ok (.result request.id
          (.unloadWallet { name := r.name, descriptor := wollet.descriptor.text })) := by
  refine (writing_cases h).imp_right fun ⟨r, _, hr, _, hu, hf⟩ => ?_
  simp only [except_bind_eq_ok, propagate_eq_ok, except_pure, Except.ok.injEq,
    Prod.mk.injEq] at hu
  obtain ⟨⟨wollet, _⟩, hrm, rfl, hst⟩ := hu
  obtain ⟨hl, rfl⟩ := Registry.remove_eq_ok.mp hrm
  exact ⟨r, wollet, propagate_eq_ok.mp hr, hl, hst.symm, hf.symm⟩

theorem loadSigner_cases {s s' : Session} {out : Except Exit Response}
    (h : Arm.loadSigner env request s = (out, s')) :
    (s'.state = s.state ∧ ∃ x, out = .error x) ∨
      ∃ r signer, env.decodeLoadSigner (request.params.getD .null) = .ok r ∧
        s.state.signers.lookup r.name = none ∧ SignerOfKind env r signer ∧
        s'.state = { s.state with signers := s.state.signers.extend r.name signer } ∧
        ∃ resp, out = .ok resp := by
  refine (writing_cases h).imp_right fun ⟨r, _, hr, _, hu, hf⟩ => ?_
  simp only [except_bind_eq_ok, propagate_eq_ok, Registry.insert_eq_ok, except_pure,
    Except.ok.injEq, Prod.mk.injEq] at hu
  obtain ⟨signer, hs, _, -, _, ⟨habs, rfl⟩, -, hst⟩ := hu
  exact ⟨r, signer, propagate_eq_ok.mp hr, habs, loadSignerEntry_kind hs, hst.symm, _, hf.symm⟩

/-- `UnloadSigner` removes the entry before it builds the response, so a failure to build it
comes after the write. -/
theorem unloadSigner_cases {s s' : Session} {out : Except Exit Response}
    (h : Arm.unloadSigner env request s = (out, s')) :
    (s'.state = s.state ∧ ∃ x, out = .error x) ∨
      ∃ r signer, env.decodeUnloadSigner (request.params.getD .null) = .ok r ∧
        s.state.signers.lookup r.name = some signer ∧
        s'.state = { s.state with signers := s.state.signers.drop r.name } ∧
        ∀ x, out = .error x → ∃ e, signerResponseFrom env r.name signer = .error e ∧ x = .error e := by
  refine (writing_cases h).imp_right fun ⟨r, _, hr, _, hu, hf⟩ => ?_
  simp only [except_bind_eq_ok, propagate_eq_ok, except_pure, Except.ok.injEq,
    Prod.mk.injEq] at hu
  obtain ⟨⟨signer, _⟩, hrm, rfl, hst⟩ := hu
  obtain ⟨hl, rfl⟩ := Registry.remove_eq_ok.mp hrm
  refine ⟨r, signer, propagate_eq_ok.mp hr, hl, hst.symm, fun x hx => ?_⟩
  obtain ⟨e, he, rfl⟩ := propagate_eq_error.mp (hf.trans hx)
  exact ⟨e, except_bind_pure_eq_error.mp he, rfl⟩

theorem signerResponseFrom_name {name : String} {signer : AppSigner} {resp : Resp.Signer}
    (h : signerResponseFrom env name signer = .ok resp) : resp.name = name := by
  cases signer with
  | externalSigner f =>
    rw [signerResponseFrom_external, Except.ok.injEq] at h
    rw [← h]
  | availableSigner signer =>
    simp only [signerResponseFrom, except_bind_eq_ok, except_pure, Except.ok.injEq] at h
    obtain ⟨_, -, _, -, _, -, _, rfl, rfl⟩ := h
    rfl

/-- `ListSigners` answers with one record per entry, each under the entry's name. -/
theorem listSigners_names {entries : List (String × AppSigner)} {signers : List Resp.Signer}
    (h : entries.mapM (fun (name, signer) => signerResponseFrom env name signer) = .ok signers) :
    signers.map (·.name) = entries.map Prod.fst := by
  induction entries generalizing signers with
  | nil => cases h; rfl
  | cons e entries ih =>
    simp only [List.mapM_cons, except_bind_eq_ok, except_pure, Except.ok.injEq] at h
    obtain ⟨resp, hresp, rest, hrest, rfl⟩ := h
    simp [signerResponseFrom_name hresp, ih hrest]

end Arms

/-- The wallet a request syncs: `Address`, `Balance`, `SendMany` or `Issue`, with the name its
params decode to. -/
def SyncsWallet (env : Env) (request : Request) (name : String) : Prop :=
  match env.methodFromStr request.method with
  | .ok .address => ∃ r, paramsOrDefault env.decodeAddress request.params = .ok r ∧ r.name = name
  | .ok .balance => ∃ r, paramsOrDefault env.decodeBalance request.params = .ok r ∧ r.name = name
  | .ok .sendMany => ∃ r, paramsUnwrap env.decodeSend request.params = .ok r ∧ r.name = name
  | .ok .issue => ∃ r, paramsUnwrap env.decodeIssue request.params = .ok r ∧ r.name = name
  | _ => False

/-- What a request does to the two registries (spec §4.1 and §4.3): the four loading and
unloading methods extend or shrink one registry by one name; the four wallet methods that sync
keep every binding and bring the store of the wallet they name up to date; every other method
leaves the whole state as it was. -/
inductive RegistryEffect (env : Env) (request : Request) (st : State) : State → Prop
  | loadWallet {r : Req.LoadWallet} {wollet : Wollet}
      (method : env.methodFromStr request.method = .ok .loadWallet)
      (params : env.decodeLoadWallet (request.params.getD .null) = .ok r)
      (built : env.wolletNew st.config.network st.config.electrumUrl st.config.tls
        st.config.validateDomain st.config.datadir r.descriptor = .ok wollet)
      (absent : st.wollets.lookup r.name = none) :
      RegistryEffect env request st { st with wollets := st.wollets.extend r.name wollet }
  | unloadWallet {r : Req.UnloadWallet} {wollet : Wollet}
      (method : env.methodFromStr request.method = .ok .unloadWallet)
      (params : env.decodeUnloadWallet (request.params.getD .null) = .ok r)
      (present : st.wollets.lookup r.name = some wollet) :
      RegistryEffect env request st { st with wollets := st.wollets.drop r.name }
  | loadSigner {r : Req.LoadSigner} {signer : AppSigner}
      (method : env.methodFromStr request.method = .ok .loadSigner)
      (params : env.decodeLoadSigner (request.params.getD .null) = .ok r)
      (absent : st.signers.lookup r.name = none)
      (kind : SignerOfKind env r signer) :
      RegistryEffect env request st { st with signers := st.signers.extend r.name signer }
  | unloadSigner {r : Req.UnloadSigner} {signer : AppSigner}
      (method : env.methodFromStr request.method = .ok .unloadSigner)
      (params : env.decodeUnloadSigner (request.params.getD .null) = .ok r)
      (present : st.signers.lookup r.name = some signer) :
      RegistryEffect env request st { st with signers := st.signers.drop r.name }
  | syncWallet {name : String} {wollet : Wollet} {store : WolletStore}
      (target : SyncsWallet env request name)
      (present : st.wollets.lookup name = some wollet)
      (synced : env.syncTxs wollet = .ok store) :
      RegistryEffect env request st
        { st with wollets := st.wollets.update name { wollet with store } }
  | unchanged (others : ∀ m, env.methodFromStr request.method = .ok m → m.writes = false) :
      RegistryEffect env request st st

/-- `ListWallets` and `ListSigners` report each registry entry once, under its name. -/
def ReportsEachEntryOnce (env : Env) (request : Request) (st : State) (resp : Response) :
    Prop :=
  (env.methodFromStr request.method = .ok .listWallets →
    ∃ wallets : List Resp.Wallet, resp = .result request.id (.listWallets wallets) ∧
      wallets.map (·.name) = st.wollets.entries.keys ∧ (wallets.map (·.name)).Nodup) ∧
  (env.methodFromStr request.method = .ok .listSigners →
    ∃ signers : List Resp.Signer, resp = .result request.id (.listSigners signers) ∧
      signers.map (·.name) = st.signers.entries.keys ∧ (signers.map (·.name)).Nodup)

section Handler
variable {env : Env} {request : Request}

/-- A writing arm fails before its write and leaves the state as it was, or makes the write its
method says. -/
theorem dispatch_effect {m : Method} (hm : env.methodFromStr request.method = .ok m)
    (hw : m.writes = true) {s s' : Session} {out : Except Exit Response}
    (h : dispatch env request m s = (out, s')) :
    (s'.state = s.state ∧ ∃ x, out = .error x) ∨ RegistryEffect env request s.state s'.state := by
  cases m <;> simp only [Method.writes, Bool.false_eq_true] at hw <;> dsimp only [dispatch] at h
  case loadWallet =>
    refine (loadWallet_cases h).imp_right fun ⟨r, w, hr, hb, ha, hst, _⟩ => ?_
    rw [hst]; exact .loadWallet hm hr hb ha
  case unloadWallet =>
    refine (unloadWallet_cases h).imp_right fun ⟨r, w, hr, hp, hst, _⟩ => ?_
    rw [hst]; exact .unloadWallet hm hr hp
  case loadSigner =>
    refine (loadSigner_cases h).imp_right fun ⟨r, signer, hr, ha, hk, hst, _⟩ => ?_
    rw [hst]; exact .loadSigner hm hr ha hk
  case unloadSigner =>
    refine (unloadSigner_cases h).imp_right fun ⟨r, signer, hr, hp, hst, _⟩ => ?_
    rw [hst]; exact .unloadSigner hm hr hp
  all_goals
    refine (syncing_cases h).imp_right fun ⟨r, w, store, hr, hl, hs, hst, _⟩ => ?_
    rw [hst]
    exact .syncWallet (by simp only [SyncsWallet, hm]; exact ⟨r, hr, rfl⟩) hl hs

/-- Whatever its outcome, a request leaves the state as it was or makes one of the writes
`RegistryEffect` lists. -/
theorem innerMethodHandler_effect (s : Session) :
    (innerMethodHandler env request s).2.state = s.state ∨
      RegistryEffect env request s.state (innerMethodHandler env request s).2.state := by
  unfold innerMethodHandler
  cases hm : env.methodFromStr request.method with
  | error e => exact .inl rfl
  | ok m =>
    dsimp only
    cases hw : m.writes with
    | false => exact .inl (dispatch_state hw s)
    | true => exact (dispatch_effect hm hw rfl).imp_left And.left

theorem listWallets_reports {s s' : Session} {resp : Response}
    (h : Arm.listWallets request s = (.ok resp, s')) :
    ∃ wallets : List Resp.Wallet, resp = .result request.id (.listWallets wallets) ∧
      wallets.map (·.name) = s.state.wollets.entries.keys ∧ (wallets.map (·.name)).Nodup := by
  obtain ⟨_, -, -, hb, -⟩ := reading_eq_ok h
  cases hb
  have hk : (s.state.wollets.iter.map fun (name, wollet) =>
      ({ descriptor := wollet.descriptor.text, name } : Resp.Wallet)).map (·.name) =
      s.state.wollets.entries.keys := by
    rw [List.map_map, ← Registry.iter_names]
    rfl
  exact ⟨_, rfl, hk, hk ▸ s.state.wollets.entries.keys_nodup⟩

theorem listSigners_reports {s s' : Session} {resp : Response}
    (h : Arm.listSigners env request s = (.ok resp, s')) :
    ∃ signers : List Resp.Signer, resp = .result request.id (.listSigners signers) ∧
      signers.map (·.name) = s.state.signers.entries.keys ∧ (signers.map (·.name)).Nodup := by
  obtain ⟨_, -, -, hb, -⟩ := reading_eq_ok h
  simp only [except_bind_eq_ok, propagate_eq_ok, except_pure, Except.ok.injEq] at hb
  obtain ⟨signers, hm, rfl⟩ := hb
  have hk := (listSigners_names hm).trans (Registry.iter_names _)
  exact ⟨signers, rfl, hk, hk ▸ s.state.signers.entries.keys_nodup⟩

/-- Successful requests change the registries only as their method says, and the listing
methods report every entry exactly once. -/
theorem registries_of_ok {s s' : Session} {resp : Response}
    (h : innerMethodHandler env request s = (.ok resp, s')) :
    RegistryEffect env request s.state s'.state ∧
      ReportsEachEntryOnce env request s.state resp := by
  unfold innerMethodHandler at h
  cases hm : env.methodFromStr request.method with
  | error e =>
    rw [hm] at h
    cases h
    exact ⟨.unchanged (by simp [hm]), by simp [ReportsEachEntryOnce, hm]⟩
  | ok m =>
    rw [hm] at h
    dsimp only at h
    have hother : m ≠ .listWallets → m ≠ .listSigners →
        ReportsEachEntryOnce env request s.state resp := fun h₁ h₂ => by
      simp [ReportsEachEntryOnce, hm, h₁, h₂]
    cases hw : m.writes with
    | true =>
      refine ⟨(dispatch_effect hm hw h).resolve_left (fun ⟨_, _, hx⟩ => by cases hx),
        hother ?_ ?_⟩ <;> rintro rfl <;> cases hw
    | false =>
      have hst : s'.state = s.state := by rw [← dispatch_state hw s, h]
      rw [hst]
      refine ⟨.unchanged fun m' hm' => by rw [hm] at hm'; cases hm'; exact hw, ?_⟩
      by_cases h₁ : m = .listWallets
      · subst h₁
        exact ⟨fun _ => listWallets_reports h, by simp [hm]⟩
      by_cases h₂ : m = .listSigners
      · subst h₂
        exact ⟨by simp [hm], fun _ => listSigners_reports h⟩
      exact hother h₁ h₂

/-- A `LoadWallet` that succeeds on a fresh session: the wallet registry gains the one name. -/
theorem registries_of_ok_loadWallet :
    let wollet : Wollet := ⟨⟨.wpkh ⟨"k"⟩, "elwpkh(k)"⟩, [], ⟨[], 0⟩⟩
    let env : Env := { Env.unavailable with
      methodFromStr := fun _ => .ok .loadWallet
      decodeLoadWallet := fun _ => .ok ⟨"elwpkh(k)", "w"⟩
      wolletNew := fun _ _ _ _ _ _ => .ok wollet }
    let request : Request := ⟨"load_wallet",
      some (.object [("name", .string "w"), ("descriptor", .string "elwpkh(k)")]), .null⟩
    let st : State := ⟨⟨.liquid, "", false, false, ""⟩, ∅, ∅, ∅⟩
    let st' : State := { st with wollets := st.wollets.extend "w" wollet }
    let resp : Response := .result .null (.wallet ⟨"elwpkh(k)", "w"⟩)
    innerMethodHandler env request ⟨st, false, false⟩ = (.ok resp, ⟨st', false, true⟩) ∧
      RegistryEffect env request st st' ∧ ReportsEachEntryOnce env request st resp := by
  intro wollet env request st st' resp
  have h : innerMethodHandler env request ⟨st, false, false⟩ = (.ok resp, ⟨st', false, true⟩) := rfl
  exact ⟨h, registries_of_ok h⟩

/-- A failed request, with an error or a panic, leaves the state as it was, except after a
write that came before the failure: an `UnloadSigner` whose `signer_response_from` fails after
the entry was removed, and a wallet method whose engine call fails after the sync. -/
theorem state_of_error {s s' : Session} {x : Exit}
    (h : innerMethodHandler env request s = (.error x, s')) :
    s'.state = s.state ∨
      (env.methodFromStr request.method = .ok .unloadSigner ∧
        ∃ r signer e, env.decodeUnloadSigner (request.params.getD .null) = .ok r ∧
          s.state.signers.lookup r.name = some signer ∧
          signerResponseFrom env r.name signer = .error e ∧ x = .error e ∧
          s'.state = { s.state with signers := s.state.signers.drop r.name }) ∨
      ∃ name wollet store e, SyncsWallet env request name ∧
        s.state.wollets.lookup name = some wollet ∧ env.syncTxs wollet = .ok store ∧
        x = .error e ∧
        s'.state = { s.state with wollets := s.state.wollets.update name { wollet with store } } := by
  unfold innerMethodHandler at h
  cases hm : env.methodFromStr request.method with
  | error e => rw [hm] at h; cases h
  | ok m =>
    rw [hm] at h
    dsimp only at h
    cases hw : m.writes with
    | false => exact .inl (by rw [← dispatch_state hw s, h])
    | true =>
      cases m <;> simp only [Method.writes, Bool.false_eq_true] at hw <;>
        dsimp only [dispatch] at h
      case loadWallet =>
        rcases loadWallet_cases h with ⟨hst, -⟩ | ⟨-, -, -, -, -, -, ⟨⟩⟩
        exact .inl hst
      case unloadWallet =>
        rcases unloadWallet_cases h with ⟨hst, -⟩ | ⟨-, -, -, -, -, ⟨⟩⟩
        exact .inl hst
      case loadSigner =>
        rcases loadSigner_cases h with ⟨hst, -⟩ | ⟨-, -, -, -, -, -, -, ⟨⟩⟩
        exact .inl hst
      case unloadSigner =>
        rcases unloadSigner_cases h with ⟨hst, -⟩ | ⟨r, signer, hr, hl, hst, hout⟩
        · exact .inl hst
        · obtain ⟨e, he, rfl⟩ := hout x rfl
          exact .inr (.inl ⟨rfl, r, signer, e, hr, hl, he, rfl, hst⟩)
      all_goals
        rcases syncing_cases h with ⟨hst, -⟩ | ⟨r, w, store, hr, hl, hs, hst, hf⟩
        · exact .inl hst
        · obtain ⟨e, -, rfl⟩ := propagate_eq_error.mp hf
          exact .inr (.inr ⟨_, w, store, e, by simp only [SyncsWallet, hm]; exact ⟨r, hr, rfl⟩,
            hl, hs, rfl, hst⟩)

/-- `SendMany` syncs the wallet and writes it back, and then the engine refuses to build the
transaction: the request fails, and the wallet keeps its new store. -/
theorem state_of_error_sendMany :
    let wollet : Wollet := ⟨⟨.wpkh ⟨"k"⟩, "elwpkh(k)"⟩, [], ⟨[], 0⟩⟩
    let store : WolletStore := ⟨[⟨"txid"⟩], 1⟩
    let env : Env := { Env.unavailable with
      methodFromStr := fun _ => .ok .sendMany
      decodeSend := fun _ => .ok ⟨[], none, "w"⟩
      syncTxs := fun _ => .ok store }
    let request : Request := ⟨"send_many",
      some (.object [("name", .string "w"), ("addressees", .array [])]), .null⟩
    let s : Session :=
      ⟨⟨⟨.liquid, "", false, false, ""⟩, (∅ : Registry Wollet).extend "w" wollet, ∅, ∅⟩,
        false, false⟩
    let s' : Session :=
      ⟨{ s.state with wollets := s.state.wollets.update "w" { wollet with store } }, false, true⟩
    let x : Exit := .error (.generic "unavailable")
    innerMethodHandler env request s = (.error x, s') ∧
      (s'.state = s.state ∨
        (env.methodFromStr request.method = .ok .unloadSigner ∧
          ∃ r signer e, env.decodeUnloadSigner (request.params.getD .null) = .ok r ∧
            s.state.signers.lookup r.name = some signer ∧
            signerResponseFrom env r.name signer = .error e ∧ x = .error e ∧
            s'.state = { s.state with signers := s.state.signers.drop r.name }) ∨
        ∃ name wollet store e, SyncsWallet env request name ∧
          s.state.wollets.lookup name = some wollet ∧ env.syncTxs wollet = .ok store ∧
          x = .error e ∧
          s'.state = { s.state with wollets := s.state.wollets.update name { wollet with store } }) := by
  intro wollet store env request s s' x
  have h : innerMethodHandler env request s = (.error x, s') := rfl
  exact ⟨h, state_of_error h⟩

/-- The failing input of `UnloadSigner`: a hardware signer that cannot report its
fingerprint is removed, and the request still fails. -/
theorem unloadSigner_error_drops_signer :
    let env : Env := { Env.unavailable with
      methodFromStr := fun _ => .ok .unloadSigner
      decodeUnloadSigner := fun _ => .ok ⟨"jade"⟩ }
    let request : Request := ⟨"unload_signer", some (.object [("name", .string "jade")]), .null⟩
    let s : Session := ⟨⟨⟨.liquid, "", false, false, ""⟩, ∅,
      (∅ : Registry AppSigner).extend "jade" (.availableSigner (.jade ⟨.liquid⟩)), ∅⟩, false, false⟩
    (innerMethodHandler env request s).1 = .error (.error (.generic "unavailable")) ∧
      s.state.signers.lookup "jade" = some (.availableSigner (.jade ⟨.liquid⟩)) ∧
      (innerMethodHandler env request s).2.state.signers.lookup "jade" = none :=
  ⟨rfl, rfl, rfl⟩

end Handler

end LwkApp
