import LwkApp.Signers

/-! The session state behind the mutex, and the monad a handler runs in: it reads and
writes the session, returns early with an error, or panics. -/
namespace LwkApp

/-- The session state (`State`): the configuration, the two registries and the asset cache. -/
structure State where
  config : Config
  wollets : Registry Wollet
  signers : Registry AppSigner
  assets : AList (fun _ : AssetId => AssetMeta)

/-- Modelled from the spec: `State::get_asset` (`state.rs`, absent from the sources), the
cached metadata of a known asset (spec §4.2). -/
def State.getAsset (s : State) (assetId : AssetId) : Except Error AssetMeta :=
  match s.assets.lookup assetId with
  | some meta => .ok meta
  | none => .error (.assetNotFound assetId)

/-- The `Mutex<State>` every request shares with its poison flag, and whether the running
handler holds the guard. -/
structure Session where
  state : State
  poisoned : Bool
  held : Bool

/-- How a handler stops early: an error returned by `?` or `return Err(..)`, or a panic. -/
inductive Exit where
  | error (e : Error)
  | panic
  deriving DecidableEq

/-- `?`: an error is returned from the handler. -/
def propagate {α : Type} (x : Except Error α) : Except Exit α := x.mapError .error

/-- `Option::unwrap`: panics on `None`. -/
def unwrap {α : Type} : Option α → Except Exit α
  | some a => .ok a
  | none => .error .panic

/-- `Result::unwrap`: panics on `Err`. -/
def unwrapResult {ε α : Type} : Except ε α → Except Exit α
  | .ok a => .ok a
  | .error _ => .error .panic

@[simp] theorem unwrap_some {α : Type} (a : α) : unwrap (some a) = .ok a := rfl
@[simp] theorem unwrap_none {α : Type} : unwrap (none : Option α) = .error .panic := rfl
@[simp] theorem unwrapResult_ok {ε α : Type} (a : α) :
    unwrapResult (.ok a : Except ε α) = .ok a := rfl
@[simp] theorem unwrapResult_error {ε α : Type} (e : ε) :
    unwrapResult (.error e : Except ε α) = .error .panic := rfl

@[simp] theorem propagate_ok {α : Type} (a : α) : propagate (.ok a) = .ok a := rfl
@[simp] theorem propagate_error {α : Type} (e : Error) :
    propagate (.error e : Except Error α) = .error (.error e) := rfl
@[simp] theorem propagate_ne_panic {α : Type} (x : Except Error α) :
    propagate x ≠ .error .panic := by
  cases x <;> simp [propagate, Except.mapError]

/-- What follows a `?` is where a panic must come from. -/
@[simp] theorem propagate_bind_eq_panic {α β : Type} {x : Except Error α}
    {f : α → Except Exit β} :
    propagate x >>= f = .error .panic ↔ ∃ a, x = .ok a ∧ f a = .error .panic := by
  cases x <;> simp [propagate, Except.mapError, bind, Except.bind]

/-- A handler step: from the session to an outcome and the session after it. -/
def Handler (α : Type) : Type := Session → Except Exit α × Session

namespace Handler
variable {α β ρ : Type}

instance : Monad Handler where
  pure a s := (.ok a, s)
  bind m f s :=
    match m s with
    | (.ok a, s) => f a s
    | (.error x, s) => (.error x, s)

/-- Code that does not touch the session. -/
def run (x : Except Exit α) : Handler α := fun s => (x, s)

instance : MonadLift (Except Exit) Handler := ⟨run⟩

/-- `state.lock().unwrap()`: panics on a poisoned mutex, otherwise takes the guard and reads
the state through it. -/
def lock : Handler State := fun s =>
  if s.poisoned then (.error .panic, s) else (.ok s.state, { s with held := true })

/-- A write through the guard. -/
def setState (st : State) : Handler Unit := fun s => (.ok (), { s with state := st })

@[simp] theorem pure_apply (a : α) (s : Session) : (pure a : Handler α) s = (.ok a, s) := rfl

@[simp] theorem bind_apply (m : Handler α) (f : α → Handler β) (s : Session) :
    (m >>= f) s = match m s with
      | (.ok a, s) => f a s
      | (.error x, s) => (.error x, s) := rfl

@[simp] theorem run_apply (x : Except Exit α) (s : Session) : run x s = (x, s) := rfl

@[simp] theorem monadLift_apply (x : Except Exit α) (s : Session) :
    (monadLift x : Handler α) s = (x, s) := rfl

@[simp] theorem lock_apply (s : Session) :
    lock s = if s.poisoned then (.error .panic, s) else (.ok s.state, { s with held := true }) :=
  rfl

@[simp] theorem setState_apply (st : State) (s : Session) :
    setState st s = (.ok (), { s with state := st }) := rfl

end Handler

open Handler in
/-- An arm that decodes its params, takes the guard, and then only reads the state. -/
def reading {ρ α : Type} (pre : Except Exit ρ) (body : ρ → State → Except Exit α) :
    Handler α := do
  let r ← run pre
  let s ← lock
  run (body r s)

open Handler in
/-- An arm that decodes its params, takes the guard, computes the new state and writes it
through the guard, and then finishes without touching the state again. -/
def writing {ρ σ α : Type} (pre : Except Exit ρ) (update : ρ → State → Except Exit (σ × State))
    (finish : ρ → σ → Except Exit α) : Handler α := do
  let r ← run pre
  let s ← lock
  let (x, st) ← run (update r s)
  setState st
  run (finish r x)

theorem reading_apply {ρ α : Type} (pre : Except Exit ρ) (body : ρ → State → Except Exit α)
    (s : Session) :
    reading pre body s = match pre with
      | .error x => (.error x, s)
      | .ok r =>
        if s.poisoned then (.error .panic, s) else (body r s.state, { s with held := true })
    := by
  cases pre with
  | error x => rfl
  | ok r => by_cases h : s.poisoned <;> simp [reading, h]

theorem writing_apply {ρ σ α : Type} (pre : Except Exit ρ)
    (update : ρ → State → Except Exit (σ × State)) (finish : ρ → σ → Except Exit α)
    (s : Session) :
    writing pre update finish s = match pre with
      | .error x => (.error x, s)
      | .ok r =>
        if s.poisoned then (.error .panic, s) else
        match update r s.state with
        | .error x => (.error x, { s with held := true })
        | .ok (x, st) => (finish r x, { s with held := true, state := st })
    := by
  cases pre with
  | error x => rfl
  | ok r =>
    by_cases h : s.poisoned
    · simp [writing, h]
    · cases hu : update r s.state with
      | error x => simp [writing, h, hu]
      | ok p => simp [writing, h, hu]

end LwkApp
