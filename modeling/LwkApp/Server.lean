import LwkApp.Handler.Arms

/-! The server around the handler: the mutex all requests share, what one request does to
it, and runs of requests from the state `App::run` creates. -/
namespace LwkApp

/-- The `Arc<Mutex<State>>` every request shares. -/
structure Mutex where
  state : State
  poisoned : Bool

/-- Whether a handler unwound from a panic. -/
def panicked {α : Type} : Except Exit α → Bool
  | .error .panic => true
  | _ => false

@[simp] theorem panicked_eq_true {α : Type} {x : Except Exit α} :
    panicked x = true ↔ x = .error .panic := by
  unfold panicked
  split <;> simp_all

/-- `method_handler` as the transport calls it: the handler starts without the guard; when it
unwinds from a panic while holding the guard, the guard's drop poisons the mutex. -/
def methodHandler (env : Env) (request : Request) (m : Mutex) : Except Exit Response × Mutex :=
  let (out, s) := innerMethodHandler env request ⟨m.state, m.poisoned, false⟩
  (out, ⟨s.state, s.poisoned || (panicked out && s.held)⟩)

theorem methodHandler_eq (env : Env) (request : Request) (m : Mutex) :
    methodHandler env request m =
      let r := innerMethodHandler env request ⟨m.state, m.poisoned, false⟩
      (r.1, ⟨r.2.state, r.2.poisoned || (panicked r.1 && r.2.held)⟩) := rfl

@[simp] theorem methodHandler_fst (env : Env) (request : Request) (m : Mutex) :
    (methodHandler env request m).1 =
      (innerMethodHandler env request ⟨m.state, m.poisoned, false⟩).1 := rfl

@[simp] theorem methodHandler_state (env : Env) (request : Request) (m : Mutex) :
    (methodHandler env request m).2.state =
      (innerMethodHandler env request ⟨m.state, m.poisoned, false⟩).2.state := rfl

/-- A run: requests served one after another, each against its own collaborators. -/
def serve : List (Env × Request) → Mutex → List (Except Exit Response) × Mutex
  | [], m => ([], m)
  | (env, request) :: rest, m =>
    let (out, m) := methodHandler env request m
    let (outs, m) := serve rest m
    (out :: outs, m)

/-- Modelled from the spec: `State::insert_policy_asset` (`state.rs`, absent from the sources)
registers the chain's policy asset in the asset cache (spec §4.2). -/
def State.insertPolicyAsset (s : State) (policyAsset : AssetId) (meta : AssetMeta) : State :=
  { s with assets := s.assets.insert policyAsset meta }

/-- The mutex `App::run` creates: the configuration, empty registries, the policy asset. -/
def App.initial (config : Config) (policyAsset : AssetId) (meta : AssetMeta) : Mutex :=
  ⟨({ config, wollets := ∅, signers := ∅, assets := ∅ } : State).insertPolicyAsset
    policyAsset meta, false⟩

@[simp] theorem serve_nil (m : Mutex) : serve [] m = ([], m) := rfl

@[simp] theorem serve_cons (env : Env) (request : Request) (rest : List (Env × Request))
    (m : Mutex) :
    serve ((env, request) :: rest) m =
      ((methodHandler env request m).1 :: (serve rest (methodHandler env request m).2).1,
        (serve rest (methodHandler env request m).2).2) := rfl

theorem serve_singleton (x : Env × Request) (m : Mutex) :
    serve [x] m = ([(methodHandler x.1 x.2 m).1], (methodHandler x.1 x.2 m).2) := rfl

theorem serve_append (xs ys : List (Env × Request)) (m : Mutex) :
    serve (xs ++ ys) m =
      ((serve xs m).1 ++ (serve ys (serve xs m).2).1, (serve ys (serve xs m).2).2) := by
  induction xs generalizing m with
  | nil => rfl
  | cons x xs ih =>
    obtain ⟨env, request⟩ := x
    simp only [List.cons_append, serve_cons, ih]

end LwkApp
