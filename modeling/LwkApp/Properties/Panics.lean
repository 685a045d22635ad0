import LwkApp.Properties.Warnings

/-! Every panic of the handler: the params unwraps and the lock before the guard, the device
unlock and the single-signature builder under it. -/
namespace LwkApp
open Handler

/-- The twelve methods whose arm calls `request.params.unwrap()`. -/
def Method.unwrapsParams : Method → Bool
  | .sendMany | .singlesigDescriptor | .multisigDescriptor | .xpub | .sign | .broadcast
  | .walletDetails | .walletCombine | .walletPsetDetails | .issue | .contract
  | .assetDetails => true
  | _ => false

/-- Panics before the handler holds the guard. -/
inductive PanicsUnguarded (env : Env) (request : Request) (s : Session) : Prop
  /-- `request.params.unwrap()` on a request without params. -/
  | params {m : Method} (method : env.methodFromStr request.method = .ok m)
      (unwraps : m.unwrapsParams = true) (absent : request.params = none)
  /-- `state.lock().unwrap()` on a poisoned mutex. -/
  | poisoned (poisoned : s.poisoned = true)

/-- Panics while the handler holds the guard. -/
inductive PanicsUnderGuard (env : Env) (request : Request) (s : Session) : Prop
  /-- `jade.unlock().unwrap()` on a device that does not unlock. -/
  | jadeUnlock {r : Req.LoadSigner} {jade : MutexJade} {e : Error}
      (method : env.methodFromStr request.method = .ok .loadSigner)
      (params : env.decodeLoadSigner (request.params.getD .null) = .ok r)
      (serial : r.kind = "serial")
      (opened : env.jadeFromSerial (env.jadeNetwork s.state.config) = .ok jade)
      (refused : env.jadeUnlock jade = .error e)
  /-- `singlesig_desc(..).unwrap()` on a descriptor builder that fails. -/
  | singlesigDesc {p : Json} {r : Req.SinglesigDescriptor} {signer : AnySigner}
      {scriptVariant : Singlesig} {blindingVariant : DescriptorBlindingKey} {e : String}
      (method : env.methodFromStr request.method = .ok .singlesigDescriptor)
      (params : request.params = some p) (decoded : env.decodeSinglesigDescriptor p = .ok r)
      (available : s.state.signers.getAvailable r.name = .ok signer)
      (script : env.singlesigFromStr r.singlesigKind = .ok scriptVariant)
      (blinding : env.blindingKeyFromStr r.descriptorBlindingKey = .ok blindingVariant)
      (failed : env.singlesigDesc signer scriptVariant blindingVariant = .error e)

section Shapes
variable {ρ σ α β : Type}

theorem except_bind_eq_panic {x : Except Exit α} {f : α → Except Exit β}
    (h : x >>= f = .error .panic) :
    x = .error .panic ∨ ∃ a, x = .ok a ∧ f a = .error .panic := by
  cases x with
  | error e => exact .inl (by simpa using h)
  | ok a => exact .inr ⟨a, rfl, h⟩

theorem paramsUnwrap_eq_panic {decode : Json → Except Error ρ} {params : Option Json}
    (h : paramsUnwrap decode params = .error .panic) : params = none := by
  cases params with
  | none => rfl
  | some p => exact absurd h (propagate_ne_panic _)

/-- A panic of a `reading` arm: in its decoding, at the lock, or in its body under the guard. -/
theorem reading_eq_panic {pre : Except Exit ρ} {body : ρ → State → Except Exit α}
    {s s' : Session} (h : reading pre body s = (.error .panic, s')) :
    (pre = .error .panic ∨ s.poisoned = true) ∧ s' = s ∨
      ∃ r, pre = .ok r ∧ body r s.state = .error .panic ∧ s' = { s with held := true } := by
  rw [reading_apply] at h
  cases pre with
  | error x =>
    simp only [Prod.mk.injEq, Except.error.injEq] at h
    exact .inl ⟨.inl (by rw [h.1]), h.2.symm⟩
  | ok r =>
    cases hp : s.poisoned <;> simp only [hp, Bool.false_eq_true, ↓reduceIte, Prod.mk.injEq] at h
    · exact .inr ⟨r, rfl, h.1, h.2.symm⟩
    · exact .inl ⟨.inr rfl, h.2.symm⟩

/-- A panic of a `writing` arm: in its decoding, at the lock, or under the guard in the part
that computes the new state, before any write. -/
theorem writing_eq_panic {pre : Except Exit ρ}
    {update : ρ → State → Except Exit (σ × State)}
    {finish : ρ → σ → Except Exit α} (hfinish : ∀ r x, finish r x ≠ .error .panic)
    {s s' : Session} (h : writing pre update finish s = (.error .panic, s')) :
    (pre = .error .panic ∨ s.poisoned = true) ∧ s' = s ∨
      ∃ r, pre = .ok r ∧ update r s.state = .error .panic ∧ s' = { s with held := true } := by
  rw [writing_apply] at h
  cases pre with
  | error x =>
    simp only [Prod.mk.injEq, Except.error.injEq] at h
    exact .inl ⟨.inl (by rw [h.1]), h.2.symm⟩
  | ok r =>
    cases hp : s.poisoned <;> simp only [hp, Bool.false_eq_true, ↓reduceIte] at h
    · cases hu : update r s.state with
      | error x =>
        simp only [hu, Prod.mk.injEq] at h
        simp only [Except.error.injEq] at h
        exact .inr ⟨r, rfl, by rw [hu, h.1], h.2.symm⟩
      | ok p => simp only [hu, Prod.mk.injEq] at h; exact absurd h.1 (hfinish r p.1)
    · simp only [Prod.mk.injEq] at h; exact .inl ⟨.inr rfl, h.2.symm⟩

/-- A `reading` arm whose body can only fail with an error panics only in its decoding or at
the lock, and leaves the session as it was. -/
theorem reading_propagate_eq_panic {pre : Except Exit ρ} {body : ρ → State → Except Error α}
    {s s' : Session} (h : reading pre (fun r st => propagate (body r st)) s = (.error .panic, s')) :
    (pre = .error .panic ∨ s.poisoned = true) ∧ s' = s := by
  rcases reading_eq_panic h with h | ⟨_, -, hb, -⟩
  · exact h
  · exact absurd hb (propagate_ne_panic _)

end Shapes

/-- `LoadSigner` builds its entry without panicking unless the device it opened does not
unlock: the unwraps of the mnemonic and of the fingerprint come after their checks. -/
theorem loadSignerEntry_eq_panic {env : Env} {r : Req.LoadSigner} {st : State}
    (h : Arm.loadSignerEntry env r st = .error .panic) :
    r.kind = "serial" ∧ ∃ jade e, env.jadeFromSerial (env.jadeNetwork st.config) = .ok jade ∧
      env.jadeUnlock jade = .error e := by
  unfold Arm.loadSignerEntry at h
  split at h
  · cases hm : r.mnemonic <;> simp [hm] at h
  · rename_i hk
    simp only [propagate_bind_eq_panic, except_bind_eq_ok] at h
    obtain ⟨jade, hj, h⟩ := h
    cases hu : env.jadeUnlock jade with
    | error e => exact ⟨hk, jade, e, hj, hu⟩
    | ok u => simp [hu] at h
  · cases hf : r.fingerprint <;> simp [hf] at h
  · cases h

section
variable {env : Env} {request : Request}

/-- Every panic of the handler is one of four. After the two before the guard the session is
as it was; after the two under the guard, the guard is held. -/
theorem innerMethodHandler_eq_panic {s s' : Session}
    (h : innerMethodHandler env request s = (.error .panic, s')) :
    PanicsUnguarded env request s ∧ s' = s ∨
      PanicsUnderGuard env request s ∧ s' = { s with held := true } := by
  unfold innerMethodHandler at h
  cases hm : env.methodFromStr request.method with
  | error e => rw [hm] at h; cases h
  | ok m =>
    rw [hm] at h
    cases m <;> dsimp only [dispatch] at h
    case version | stop => cases h
    case schema | generateSigner => simp [Arm.schema, Arm.generateSigner, paramsOrDefault] at h
    case multisigDescriptor | contract =>
      simp only [Arm.multisigDescriptor, Arm.contract, run_apply, Prod.mk.injEq] at h
      obtain ⟨h, rfl⟩ := h
      rcases except_bind_eq_panic h with hp | ⟨_, -, hb⟩
      · exact .inl ⟨.params hm rfl (paramsUnwrap_eq_panic hp), rfl⟩
      · exact absurd hb (propagate_ne_panic _)
    case listWallets =>
      rcases reading_eq_panic h with ⟨hp | hp, rfl⟩ | ⟨_, -, hb, -⟩
      · cases hp
      · exact .inl ⟨.poisoned hp, rfl⟩
      · cases hb
    case listSigners =>
      obtain ⟨hp | hp, rfl⟩ := reading_propagate_eq_panic h
      · simp [paramsOrDefault] at hp
      · exact .inl ⟨.poisoned hp, rfl⟩
    case xpub | sign | broadcast | walletDetails | walletCombine | walletPsetDetails |
        assetDetails =>
      obtain ⟨hp | hp, rfl⟩ := reading_propagate_eq_panic h
      · exact .inl ⟨.params hm rfl (paramsUnwrap_eq_panic hp), rfl⟩
      · exact .inl ⟨.poisoned hp, rfl⟩
    case singlesigDescriptor =>
      rcases reading_eq_panic h with ⟨hp | hp, rfl⟩ | ⟨r, hr, hb, rfl⟩
      · exact .inl ⟨.params hm rfl (paramsUnwrap_eq_panic hp), rfl⟩
      · exact .inl ⟨.poisoned hp, rfl⟩
      · obtain ⟨p, hp, hd⟩ := paramsUnwrap_eq_ok.mp hr
        simp only [propagate_bind_eq_panic, except_bind_eq_ok, except_pure,
          Except.ok.injEq] at hb
        obtain ⟨_, ⟨signer, ha, sv, hsv, bv, hbv, rfl⟩, hb⟩ := hb
        cases hd' : env.singlesigDesc signer sv bv with
        | error e =>
          refine .inr ⟨.singlesigDesc hm hp hd ha ?_ ?_ hd', rfl⟩
          · cases hx : env.singlesigFromStr r.singlesigKind <;> simp_all [Except.mapError]
          · cases hx : env.blindingKeyFromStr r.descriptorBlindingKey <;>
              simp_all [Except.mapError]
        | ok d => simp [hd'] at hb
    case address | balance | sendMany | issue =>
      dsimp only [Arm.address, Arm.balance, Arm.sendMany, Arm.issue, syncing] at h
      rcases writing_eq_panic (by simp) h with ⟨hp | hp, rfl⟩ | ⟨_, -, hu, -⟩
      · first
        | exact .inl ⟨.params hm rfl (paramsUnwrap_eq_panic hp), rfl⟩
        | exact absurd hp (propagate_ne_panic _)
      · exact .inl ⟨.poisoned hp, rfl⟩
      · exact absurd hu (propagate_ne_panic _)
    case loadWallet | unloadWallet | unloadSigner =>
      rcases writing_eq_panic (by simp) h with ⟨hp | hp, rfl⟩ | ⟨_, -, hu, -⟩
      · exact absurd hp (propagate_ne_panic _)
      · exact .inl ⟨.poisoned hp, rfl⟩
      · exact absurd hu (propagate_ne_panic _)
    case loadSigner =>
      rcases writing_eq_panic (by simp) h with ⟨hp | hp, rfl⟩ | ⟨r, hr, hu, rfl⟩
      · exact absurd hp (propagate_ne_panic _)
      · exact .inl ⟨.poisoned hp, rfl⟩
      · rcases except_bind_eq_panic hu with hu | ⟨_, -, hu⟩
        · obtain ⟨hk, jade, e, hj, hx⟩ := loadSignerEntry_eq_panic hu
          exact .inr ⟨.jadeUnlock hm (propagate_eq_ok.mp hr) hk hj hx, rfl⟩
        · exact absurd hu (propagate_ne_panic _)

/-- A request served by `method_handler` panics at one of four sites. After the two before the
guard the mutex is as it was; the two under the guard leave the state as it was and poison the
mutex. -/
theorem panic_sites {m : Mutex} (h : (methodHandler env request m).1 = .error .panic) :
    PanicsUnguarded env request ⟨m.state, m.poisoned, false⟩ ∧ (methodHandler env request m).2 = m ∨
      PanicsUnderGuard env request ⟨m.state, m.poisoned, false⟩ ∧
        (methodHandler env request m).2 = { m with poisoned := true } := by
  rw [methodHandler_eq] at h ⊢
  generalize hr : innerMethodHandler env request ⟨m.state, m.poisoned, false⟩ = r at h ⊢
  obtain ⟨out, s'⟩ := r
  subst h
  rcases innerMethodHandler_eq_panic hr with ⟨hu, rfl⟩ | ⟨hg, rfl⟩
  · exact .inl ⟨hu, by simp⟩
  · exact .inr ⟨hg, by simp⟩

theorem panic_sites_poisoned :
    let env : Env := { Env.unavailable with methodFromStr := fun _ => .ok .listWallets }
    let request : Request := ⟨"list_wallets", none, .null⟩
    let m : Mutex := ⟨⟨⟨.liquid, "", false, false, ""⟩, ∅, ∅, ∅⟩, true⟩
    PanicsUnguarded env request ⟨m.state, m.poisoned, false⟩ ∧ (methodHandler env request m).2 = m ∨
      PanicsUnderGuard env request ⟨m.state, m.poisoned, false⟩ ∧
        (methodHandler env request m).2 = { m with poisoned := true } :=
  panic_sites rfl

/-- The twelve arms that unwrap the params panic on every request without params, before
they take the guard, whatever the session. -/
theorem innerMethodHandler_without_params {m : Method}
    (hm : env.methodFromStr request.method = .ok m) (hu : m.unwrapsParams = true)
    (hp : request.params = none) (s : Session) :
    innerMethodHandler env request s = (.error .panic, s) := by
  have hpanic : ∀ {ρ : Type} (decode : Json → Except Error ρ),
      paramsUnwrap decode request.params = .error .panic := fun _ => by rw [hp]; rfl
  unfold innerMethodHandler
  rw [hm]
  cases m <;> simp only [Method.unwrapsParams, Bool.false_eq_true] at hu <;>
    simp [dispatch, Arm.sendMany, Arm.singlesigDescriptor, Arm.multisigDescriptor, Arm.xpub,
      Arm.sign, Arm.broadcast, Arm.walletDetails, Arm.walletCombine, Arm.walletPsetDetails,
      Arm.issue, Arm.contract, Arm.assetDetails, syncing, reading_apply, writing_apply, hpanic]

end

/-- A `send_many` request without params panics, whatever the session. -/
theorem sendMany_without_params_panics (s : Session) :
    let env : Env := { Env.unavailable with
      methodFromStr := fun m => if m = "send_many" then .ok .sendMany else .error (.generic m) }
    innerMethodHandler env ⟨"send_many", none, .null⟩ s = (.error .panic, s) :=
  innerMethodHandler_without_params (m := .sendMany) rfl rfl rfl s

end LwkApp
