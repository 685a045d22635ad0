import LwkApp.Properties.Panics

/-! Poisoning of the mutex: exactly the panics under the guard poison it, and once poisoned it
refuses every arm that locks for the rest of the run. -/
namespace LwkApp
open Handler

/-- The methods whose arm takes the guard: all but the six that never touch the state. -/
def Method.locks : Method → Bool
  | .schema | .generateSigner | .version | .multisigDescriptor | .contract | .stop => false
  | _ => true

/-- The collaborators never fail where the handler unwraps their result under the guard: the
device unlocks, and the single-signature descriptor builder returns a descriptor. -/
def Env.UnwrapsSucceed (env : Env) : Prop :=
  (∀ jade e, env.jadeUnlock jade ≠ .error e) ∧
    ∀ signer scriptVariant blindingVariant e,
      env.singlesigDesc signer scriptVariant blindingVariant ≠ .error e

section Frame
variable {ρ σ α : Type}

theorem reading_poisoned (pre : Except Exit ρ) (body : ρ → State → Except Exit α)
    (s : Session) : (reading pre body s).2.poisoned = s.poisoned := by
  rw [reading_apply]
  split
  · rfl
  · split <;> rfl

theorem writing_poisoned (pre : Except Exit ρ)
    (update : ρ → State → Except Exit (σ × State)) (finish : ρ → σ → Except Exit α) (s : Session) :
    (writing pre update finish s).2.poisoned = s.poisoned := by
  rw [writing_apply]
  split
  · rfl
  · split
    · rfl
    · split <;> rfl

end Frame

section Step
variable {env : Env} {request : Request}

/-- The handler reads the poison flag and never sets it: only the guard's drop does. -/
theorem innerMethodHandler_poisoned (s : Session) :
    (innerMethodHandler env request s).2.poisoned = s.poisoned := by
  unfold innerMethodHandler
  rcases env.methodFromStr request.method with e | m
  · rfl
  · cases hw : m.writes with
    | true =>
      cases m <;> simp only [Method.writes, Bool.false_eq_true] at hw <;>
        exact writing_poisoned _ _ _ s
    | false =>
      cases m <;> simp only [Method.writes, Bool.true_eq_false] at hw <;> dsimp only [dispatch] <;>
        first
        | rfl
        | exact reading_poisoned _ _ s

theorem PanicsUnderGuard.not_unwrapsSucceed {s : Session} (hg : PanicsUnderGuard env request s) :
    ¬ env.UnwrapsSucceed := fun henv => by
  cases hg with
  | jadeUnlock _ _ _ _ refused => exact henv.1 _ _ refused
  | singlesigDesc _ _ _ _ _ _ failed => exact henv.2 _ _ _ _ failed

/-- Each panic under the guard does happen, on a mutex that is not poisoned, and leaves the
guard held. -/
theorem PanicsUnderGuard.panics {s : Session} (hg : PanicsUnderGuard env request s)
    (hs : s.poisoned = false) :
    innerMethodHandler env request s = (.error .panic, { s with held := true }) := by
  cases hg with
  | @jadeUnlock r jade e method params serial opened refused =>
    have hentry : Arm.loadSignerEntry env r s.state = .error .panic := by
      simp [Arm.loadSignerEntry, serial, opened, refused]
    simp [innerMethodHandler, method, dispatch, Arm.loadSigner, writing_apply, paramsOrDefault,
      params, hs, hentry]
  | singlesigDesc method params decoded available script blinding failed =>
    simp [innerMethodHandler, method, dispatch, Arm.singlesigDescriptor, reading_apply,
      paramsUnwrap, params, decoded, hs, available, script, blinding, failed, Except.mapError]

/-- A request that poisons the mutex panicked under the guard. -/
theorem PanicsUnderGuard.of_poisoned {m : Mutex} (hm : m.poisoned = false)
    (h : (methodHandler env request m).2.poisoned = true) :
    PanicsUnderGuard env request ⟨m.state, false, false⟩ := by
  obtain ⟨st, p⟩ := m
  subst hm
  rw [methodHandler_eq] at h
  generalize hr : innerMethodHandler env request ⟨st, false, false⟩ = r at h
  obtain ⟨out, s'⟩ := r
  have hp : s'.poisoned = false :=
    (congrArg (fun r => r.2.poisoned) hr).symm.trans (innerMethodHandler_poisoned _)
  simp only [hp, Bool.false_or, Bool.and_eq_true, panicked_eq_true] at h
  obtain ⟨rfl, hheld⟩ := h
  rcases innerMethodHandler_eq_panic hr with ⟨-, rfl⟩ | ⟨hg, -⟩
  · cases hheld
  · exact hg

/-- One request poisons a mutex that is not poisoned exactly when its handler panics under
the guard. -/
theorem methodHandler_poisoned_iff {m : Mutex} (hm : m.poisoned = false) :
    (methodHandler env request m).2.poisoned = true ↔
      PanicsUnderGuard env request ⟨m.state, false, false⟩ := by
  refine ⟨PanicsUnderGuard.of_poisoned hm, fun hg => ?_⟩
  obtain ⟨st, p⟩ := m
  subst hm
  simp [methodHandler_eq, hg.panics rfl]

/-- A serial `LoadSigner` whose device opens and then refuses to unlock poisons a fresh
mutex, by the panic under the guard. -/
theorem methodHandler_poisoned_iff_refused :
    let env : Env := { Env.unavailable with
      methodFromStr := fun _ => .ok .loadSigner
      decodeLoadSigner := fun _ => .ok ⟨"jade", "serial", none, none⟩
      jadeFromSerial := fun network => .ok ⟨network⟩ }
    let request : Request := ⟨"load_signer",
      some (.object [("name", .string "jade"), ("kind", .string "serial")]), .null⟩
    let m := App.initial ⟨.liquid, "", false, false, ""⟩ ⟨"policy"⟩ ⟨"L-BTC"⟩
    m.poisoned = false ∧ (methodHandler env request m).2.poisoned = true ∧
      PanicsUnderGuard env request ⟨m.state, false, false⟩ := by
  intro env request m
  have hp : (methodHandler env request m).2.poisoned = true := rfl
  exact ⟨rfl, hp, (methodHandler_poisoned_iff rfl).1 hp⟩

/-- What a request in a run whose guarded unwraps succeed can panic on: it has no params
and its method is one of the twelve whose arm unwraps them. -/
def PanicsOnParamsOnly (p : Env × Request) (out : Except Exit Response) : Prop :=
  out = .error .panic →
    ∃ m, p.1.methodFromStr p.2.method = .ok m ∧ m.unwrapsParams = true ∧ p.2.params = none

/-- What a request served on a poisoned mutex cannot do: succeed, if its arm takes the
guard. -/
def RefusesLocking (p : Env × Request) (out : Except Exit Response) : Prop :=
  ∀ m, p.1.methodFromStr p.2.method = .ok m → m.locks = true → ∀ resp, out ≠ .ok resp

theorem methodHandler_of_unwrapsSucceed (henv : env.UnwrapsSucceed) {m : Mutex}
    (hm : m.poisoned = false) :
    (methodHandler env request m).2.poisoned = false ∧
      PanicsOnParamsOnly (env, request) (methodHandler env request m).1 := by
  refine ⟨?_, fun hout => ?_⟩
  · cases h : (methodHandler env request m).2.poisoned
    · rfl
    · exact ((PanicsUnderGuard.of_poisoned hm h).not_unwrapsSucceed henv).elim
  · rw [methodHandler_eq] at hout
    generalize hr : innerMethodHandler env request ⟨m.state, m.poisoned, false⟩ = r at hout
    obtain ⟨out, s'⟩ := r
    subst hout
    rcases innerMethodHandler_eq_panic hr with ⟨hu, -⟩ | ⟨hg, -⟩
    · cases hu with
      | params method unwraps absent => exact ⟨_, method, unwraps, absent⟩
      | poisoned hp => simp [hm] at hp
    · exact (hg.not_unwrapsSucceed henv).elim

/-- An arm that takes the guard does not succeed on a poisoned mutex. -/
theorem dispatch_ne_ok_of_poisoned {m : Method} (hl : m.locks = true) {s s' : Session}
    (hs : s.poisoned = true) {resp : Response} : dispatch env request m s ≠ (.ok resp, s') := by
  intro h
  cases m <;> simp only [Method.locks, Bool.false_eq_true] at hl <;>
    dsimp only [dispatch, Arm.address, Arm.balance, Arm.sendMany, Arm.issue, syncing] at h <;> first
    | (obtain ⟨_, -, hp, -⟩ := reading_eq_ok h; simp [hs] at hp)
    | (obtain ⟨-, _, ⟨⟩⟩ | ⟨_, _, -, hp, -⟩ := writing_cases h; simp [hs] at hp)

theorem methodHandler_of_poisoned {m : Mutex} (hm : m.poisoned = true) :
    (methodHandler env request m).2.poisoned = true ∧
      RefusesLocking (env, request) (methodHandler env request m).1 := by
  rw [methodHandler_eq]
  refine ⟨by simp [innerMethodHandler_poisoned, hm], fun meth hmeth hl resp hout => ?_⟩
  generalize hr : innerMethodHandler env request ⟨m.state, m.poisoned, false⟩ = r at hout
  obtain ⟨out, s'⟩ := r
  subst hout
  unfold innerMethodHandler at hr
  rw [hmeth] at hr
  exact dispatch_ne_ok_of_poisoned hl hm hr

end Step

section Run
variable {rs : List (Env × Request)}

/-- A run whose device unlocks and whose descriptor builder succeeds, in every request, never
poisons the mutex, so every lock of the run succeeds; its only panics are requests without
params to the twelve arms that unwrap them. -/
theorem serve_of_unwrapsSucceed (henv : ∀ p ∈ rs, p.1.UnwrapsSucceed) {m : Mutex}
    (hm : m.poisoned = false) :
    (serve rs m).2.poisoned = false ∧ List.Forall₂ PanicsOnParamsOnly rs (serve rs m).1 := by
  induction rs generalizing m with
  | nil => exact ⟨hm, .nil⟩
  | cons p rest ih =>
    obtain ⟨hstep, hout⟩ := methodHandler_of_unwrapsSucceed (henv p (.head _)) hm
    obtain ⟨hrest, hall⟩ := ih (fun q hq => henv q (.tail _ hq)) hstep
    exact ⟨hrest, .cons hout hall⟩

/-- A device that unlocks is loaded as a signer, and a single-signature descriptor is built
from it: the run ends with the mutex unpoisoned and both requests answered. -/
theorem serve_of_unwrapsSucceed_jade :
    let env : Env := { Env.unavailable with
      methodFromStr := fun m =>
        if m = "load_signer" then .ok .loadSigner
        else if m = "singlesig_descriptor" then .ok .singlesigDescriptor
        else .error (.generic m)
      decodeLoadSigner := fun _ => .ok ⟨"jade", "serial", none, none⟩
      decodeSinglesigDescriptor := fun _ => .ok ⟨"jade", "wpkh", "slip77"⟩
      jadeFromSerial := fun network => .ok ⟨network⟩
      jadeUnlock := fun _ => .ok ()
      fingerprint := fun _ => .ok ⟨[1, 2, 3, 4], rfl⟩
      identifier := fun _ => .ok ⟨"id"⟩
      xpub := fun _ => .ok ⟨"xpub"⟩
      singlesigFromStr := fun _ => .ok .wpkh
      blindingKeyFromStr := fun _ => .ok .slip77
      singlesigDesc := fun _ _ _ => .ok "ct(slip77(k),elwpkh(xpub/*))" }
    let rs : List (Env × Request) :=
      [(env, ⟨"load_signer",
          some (.object [("name", .string "jade"), ("kind", .string "serial")]), .null⟩),
        (env, ⟨"singlesig_descriptor", some (.object [("name", .string "jade"),
          ("singlesig_kind", .string "wpkh"), ("descriptor_blinding_key", .string "slip77")]),
          .null⟩)]
    let start := App.initial ⟨.liquid, "", false, false, ""⟩ ⟨"policy"⟩ ⟨"L-BTC"⟩
    (serve rs start).1 =
        [.ok (.result .null (.signer ⟨"jade", some ⟨"id"⟩, ⟨[1, 2, 3, 4], rfl⟩, some ⟨"xpub"⟩⟩)),
          .ok (.result .null (.singlesigDescriptor "ct(slip77(k),elwpkh(xpub/*))"))] ∧
      (serve rs start).2.poisoned = false ∧ List.Forall₂ PanicsOnParamsOnly rs (serve rs start).1 := by
  intro env rs start
  have henv : ∀ p ∈ rs, p.1.UnwrapsSucceed := by simp [rs, env, Env.UnwrapsSucceed]
  exact ⟨rfl, serve_of_unwrapsSucceed henv rfl⟩

/-- Once poisoned, the mutex stays poisoned for the rest of the run, and no later request
whose arm takes the guard succeeds. -/
theorem serve_of_poisoned {m : Mutex} (hm : m.poisoned = true) :
    (serve rs m).2.poisoned = true ∧ List.Forall₂ RefusesLocking rs (serve rs m).1 := by
  induction rs generalizing m with
  | nil => exact ⟨hm, .nil⟩
  | cons p rest ih =>
    obtain ⟨hstep, hout⟩ := @methodHandler_of_poisoned p.1 p.2 _ hm
    obtain ⟨hrest, hall⟩ := ih hstep
    exact ⟨hrest, .cons hout hall⟩

theorem serve_of_poisoned_listWallets :
    let env : Env := { Env.unavailable with methodFromStr := fun _ => .ok .listWallets }
    let rs := [(env, (⟨"list_wallets", none, .null⟩ : Request))]
    let m : Mutex := ⟨⟨⟨.liquid, "", false, false, ""⟩, ∅, ∅, ∅⟩, true⟩
    m.poisoned = true ∧
      (serve rs m).2.poisoned = true ∧ List.Forall₂ RefusesLocking rs (serve rs m).1 :=
  ⟨rfl, serve_of_poisoned rfl⟩

end Run

/-- A device that refuses to unlock poisons the session `App::run` created: the `LoadSigner`
that opened it panics under the guard, and the `ListWallets` after it panics at the lock. -/
theorem refused_unlock_poisons_session :
    let env : Env := { Env.unavailable with
      methodFromStr := fun m =>
        if m = "load_signer" then .ok .loadSigner
        else if m = "list_wallets" then .ok .listWallets
        else .error (.generic m)
      decodeLoadSigner := fun _ => .ok ⟨"jade", "serial", none, none⟩
      jadeFromSerial := fun network => .ok ⟨network⟩ }
    let start := App.initial ⟨.liquid, "", false, false, ""⟩ ⟨"policy"⟩ ⟨"L-BTC"⟩
    serve [(env, ⟨"load_signer",
        some (.object [("name", .string "jade"), ("kind", .string "serial")]), .null⟩),
      (env, ⟨"list_wallets", none, .null⟩)] start =
      ([.error .panic, .error .panic], { start with poisoned := true }) := rfl

end LwkApp
