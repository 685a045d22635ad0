import LwkApp.Server

/-! The `App` around the server: starting it, stopping it, joining its threads, and the requests
its server answers in between. -/
namespace LwkApp

/-- Modelled from the spec: tiny_jrpc's `JsonRpcServer` (absent from the sources), with the mutex
it hands every request and whether it still accepts requests. -/
structure Rpc where
  mutex : Mutex
  running : Bool

/-- Whether an outcome is the `Error::Stop` of the `Stop` method. -/
def isStop : Except Exit Response → Bool
  | .error (.error .stop) => true
  | _ => false

/-- Modelled from the spec: the server answers a request with `method_handler` on its mutex, and
stops once it has answered with the `Stop` error (spec §4.3). -/
def Rpc.handle (rpc : Rpc) (env : Env) (request : Request) : Except Exit Response × Rpc :=
  let (out, m) := methodHandler env request rpc.mutex
  (out, ⟨m, rpc.running && !isStop out⟩)

/-- `App`: the configuration, and the server `run` started until `join_threads` takes it. -/
structure App where
  rpc : Option Rpc
  config : Config

namespace App

/-- `App::new`. -/
def new (config : Config) : App := ⟨none, config⟩

/-- `App::run`: refuses a second server; otherwise builds the state with the policy asset, binds
the address (`bind`, which can fail), and starts a server around a fresh mutex. -/
def run (app : App) (policyAsset : AssetId) (meta : AssetMeta) (bind : Except Error Unit) :
    Except Error App := do
  if app.rpc.isSome then throw .alreadyStarted
  let m := App.initial app.config policyAsset meta
  bind
  pure { app with rpc := some ⟨m, true⟩ }

/-- `App::stop`: tells the server to stop; it stays in the app until `join_threads`. -/
def stop (app : App) : Except Error App :=
  match app.rpc with
  | some rpc => .ok { app with rpc := some { rpc with running := false } }
  | none => .error .notStarted

/-- `App::is_running`. -/
def isRunning (app : App) : Except Error Bool :=
  match app.rpc with
  | some rpc => .ok rpc.running
  | none => .error .notStarted

/-- `App::join_threads`: takes the server out of the app and waits for its threads. -/
def joinThreads (app : App) : Except Error App :=
  match app.rpc with
  | some _ => .ok { app with rpc := none }
  | none => .error .notStarted

theorem run_eq_ok {app app' : App} {policyAsset : AssetId} {meta : AssetMeta}
    {bind : Except Error Unit} (h : app.run policyAsset meta bind = .ok app') :
    app.rpc = none ∧
      app' = { app with rpc := some ⟨App.initial app.config policyAsset meta, true⟩ } := by
  unfold run at h
  cases hr : app.rpc <;> cases bind <;> simp_all [Bind.bind, Except.bind, pure, Except.pure]

theorem stop_eq_ok {app app' : App} (h : app.stop = .ok app') :
    ∃ rpc, app.rpc = some rpc ∧ app' = { app with rpc := some { rpc with running := false } } := by
  unfold stop at h
  split at h <;> simp_all

theorem joinThreads_eq_ok {app app' : App} (h : app.joinThreads = .ok app') :
    app' = { app with rpc := none } := by
  unfold joinThreads at h
  split at h <;> simp_all

/-- What one step of an app shows: a call on it that returned, or a request its server
answered, with the answer. -/
inductive Event where
  | run
  | stop
  | joinThreads
  | answer (env : Env) (request : Request) (out : Except Exit Response)

/-- One step in the life of an app: a call on it that returns, or a request its running server
answers. `join_threads` returns once the server's threads have ended, which they do once it has
stopped. -/
inductive Step (policyAsset : AssetId) (meta : AssetMeta) : App → Event → App → Prop
  | run {app app' : App} (bind : Except Error Unit)
      (h : app.run policyAsset meta bind = .ok app') : Step policyAsset meta app .run app'
  | stop {app app' : App} (h : app.stop = .ok app') : Step policyAsset meta app .stop app'
  | joinThreads {app app' : App} (hr : ∀ rpc, app.rpc = some rpc → rpc.running = false)
      (h : app.joinThreads = .ok app') : Step policyAsset meta app .joinThreads app'
  | request {app : App} {rpc : Rpc} (env : Env) (request : Request) (h : app.rpc = some rpc)
      (hr : rpc.running = true) :
      Step policyAsset meta app (.answer env request (rpc.handle env request).1)
        { app with rpc := some (rpc.handle env request).2 }

/-- A life of an app: the steps it took, oldest first. -/
inductive Trace (policyAsset : AssetId) (meta : AssetMeta) : App → List Event → App → Prop
  | nil (app : App) : Trace policyAsset meta app [] app
  | snoc {app app' app'' : App} {events : List Event} {e : Event}
      (trace : Trace policyAsset meta app events app') (step : Step policyAsset meta app' e app'') :
      Trace policyAsset meta app (events ++ [e]) app''

end App

end LwkApp
