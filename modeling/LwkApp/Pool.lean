import LwkApp.Server

/-! The transport's worker pool: each request runs on a worker of its own, and the workers
interleave freely except where `state.lock()` makes them wait for one another. -/
namespace LwkApp
open Handler

/-- A handler cut at its `state.lock().unwrap()`: code that never locks, or the code before the
lock (which can fail) followed by the critical section, which reads the state behind the guard
and leaves the state to write back. -/
inductive Split (α : Type) where
  | unlocked (out : Except Exit α)
  | locked (pre : Except Exit (State → Except Exit α × State))

/-- The handler a split stands for. -/
def Split.run {α : Type} : Split α → Handler α
  | .unlocked out => Handler.run out
  | .locked pre => do
    let critical ← Handler.run pre
    let st ← lock
    let (out, st) := critical st
    setState st
    Handler.run out

theorem Split.run_locked_ok {α : Type} (critical : State → Except Exit α × State) (s : Session) :
    (Split.locked (.ok critical)).run s =
      if s.poisoned then (.error .panic, s)
      else ((critical s.state).1, { s with state := (critical s.state).2, held := true }) := by
  by_cases h : s.poisoned <;> simp [Split.run, h]

theorem run_split {α : Type} (x : Except Exit α) : Handler.run x = (Split.unlocked x).run := rfl

theorem pure_split {α : Type} (a : α) : (pure a : Handler α) = (Split.unlocked (.ok a)).run :=
  rfl

theorem reading_split {ρ α : Type} (pre : Except Exit ρ) (body : ρ → State → Except Exit α) :
    reading pre body = (Split.locked (pre.map fun r st => (body r st, st))).run := by
  funext s
  rw [reading_apply]
  cases pre with
  | error x => rfl
  | ok r => exact (Split.run_locked_ok (fun st => (body r st, st)) s).symm

theorem writing_split {ρ σ α : Type} (pre : Except Exit ρ)
    (update : ρ → State → Except Exit (σ × State)) (finish : ρ → σ → Except Exit α) :
    writing pre update finish = (Split.locked (pre.map fun r st =>
      match update r st with
      | .error x => (.error x, st)
      | .ok (y, st') => (finish r y, st'))).run := by
  funext s
  rw [writing_apply]
  cases pre with
  | error x => rfl
  | ok r =>
    show _ = (Split.locked (.ok _)).run s
    rw [Split.run_locked_ok]
    by_cases h : s.poisoned
    · simp only [h, if_true]
    · simp only [h]
      cases update r s.state <;> rfl

theorem syncing_split {ρ α : Type} (env : Env) (pre : Except Exit ρ) (name : ρ → String)
    (body : ρ → Wollet → Except Exit α) : ∃ sp : Split α, syncing env pre name body = sp.run :=
  ⟨_, writing_split _ _ _⟩

/-- Every arm of `inner_method_handler` is cut at its lock, or never locks. -/
theorem dispatch_split (env : Env) (request : Request) (m : Method) :
    ∃ sp : Split Response, dispatch env request m = sp.run := by
  cases m <;> dsimp only [dispatch] <;>
    first
    | exact ⟨_, reading_split _ _⟩
    | exact ⟨_, writing_split _ _ _⟩
    | exact syncing_split _ _ _ _
    | exact ⟨_, run_split _⟩

theorem innerMethodHandler_split (env : Env) (request : Request) :
    ∃ sp : Split Response, innerMethodHandler env request = sp.run := by
  unfold innerMethodHandler
  rcases env.methodFromStr request.method with e | m
  · exact ⟨_, pure_split _⟩
  · exact dispatch_split env request m

/-- A request whose handler never touches the session leaves the mutex as it found it. -/
theorem methodHandler_of_run {env : Env} {request : Request} {out : Except Exit Response}
    (h : ∀ s, innerMethodHandler env request s = (out, s)) (m : Mutex) :
    methodHandler env request m = (out, m) := by
  simp only [methodHandler_eq, h, Bool.and_false, Bool.or_false]

theorem methodHandler_of_critical {env : Env} {request : Request}
    {critical : State → Except Exit Response × State}
    (h : innerMethodHandler env request = (Split.locked (.ok critical)).run) (m : Mutex) :
    methodHandler env request m =
      if m.poisoned then (.error .panic, m)
      else ((critical m.state).1, ⟨(critical m.state).2, panicked (critical m.state).1⟩) := by
  obtain ⟨st, poisoned⟩ := m
  rw [methodHandler_eq, h, Split.run_locked_ok]
  cases poisoned <;> simp

/-- Where a worker is in its request. -/
inductive Phase where
  /-- Not started: its handler, cut at the lock. -/
  | ready (split : Split Response)
  /-- Blocked in `state.lock()`, with the critical section it runs once it holds the guard. -/
  | waiting (critical : State → Except Exit Response × State)
  /-- Holds the guard: its critical section has run, with this outcome and this state for the
  mutex. -/
  | holding (out : Except Exit Response) (state : State)
  /-- Returned, or unwound from a panic, with this outcome; any guard it held is dropped. -/
  | done (out : Except Exit Response)

/-- The transport's workers, one for each request in flight, and the mutex they share. -/
structure Pool (n : ℕ) where
  workers : Fin n → Phase
  mutex : Mutex
  /-- Whether a guard of the mutex is alive. -/
  locked : Bool

namespace Pool
variable {n : ℕ}

/-- Every worker ready with its request, the lock free. -/
def initial (splits : Fin n → Split Response) (m : Mutex) : Pool n :=
  ⟨fun i => .ready (splits i), m, false⟩

/-- Worker `i` moves to phase `ph`. -/
def set (p : Pool n) (i : Fin n) (ph : Phase) : Pool n :=
  { p with workers := Function.update p.workers i ph }

/-- Worker `i` takes its next step. Before the lock it runs on its own. `state.lock()` waits while
another guard is alive; on a poisoned mutex the `unwrap` panics and the guard goes at once.
Otherwise the worker runs its critical section holding the guard, and the state it leaves
reaches the mutex when the guard is dropped, which poisons the mutex if the worker panicked. -/
def step (p : Pool n) (i : Fin n) : Pool n :=
  match p.workers i with
  | .ready (.unlocked out) => p.set i (.done out)
  | .ready (.locked (.error x)) => p.set i (.done (.error x))
  | .ready (.locked (.ok critical)) => p.set i (.waiting critical)
  | .waiting critical =>
    if p.locked then p
    else if p.mutex.poisoned then p.set i (.done (.error .panic))
    else { p.set i (.holding (critical p.mutex.state).1 (critical p.mutex.state).2) with
      locked := true }
  | .holding out st =>
    { p.set i (.done out) with mutex := ⟨st, p.mutex.poisoned || panicked out⟩, locked := false }
  | .done _ => p

/-- The workers step in the order a schedule gives. -/
def run (p : Pool n) (schedule : List (Fin n)) : Pool n := schedule.foldl step p

@[simp] theorem set_workers_self (p : Pool n) (i : Fin n) (ph : Phase) :
    (p.set i ph).workers i = ph := Function.update_same _ _ _

@[simp] theorem set_workers_of_ne (p : Pool n) {i j : Fin n} (ph : Phase) (h : j ≠ i) :
    (p.set i ph).workers j = p.workers j := Function.update_noteq h _ _

@[simp] theorem set_mutex (p : Pool n) (i : Fin n) (ph : Phase) : (p.set i ph).mutex = p.mutex :=
  rfl

@[simp] theorem set_locked (p : Pool n) (i : Fin n) (ph : Phase) :
    (p.set i ph).locked = p.locked := rfl

@[simp] theorem run_nil (p : Pool n) : p.run [] = p := rfl

@[simp] theorem run_cons (p : Pool n) (i : Fin n) (schedule : List (Fin n)) :
    p.run (i :: schedule) = (p.step i).run schedule := rfl

theorem run_append (p : Pool n) (s t : List (Fin n)) : p.run (s ++ t) = (p.run s).run t :=
  List.foldl_append _ _ _ _

end Pool

end LwkApp
