import LwkApp.App

/-! The life of an app over every sequence of calls: the current server has answered exactly the
requests `serve` answers from the fresh state of the last `run`, and its state is what serving
them leaves. -/
namespace LwkApp
namespace App
variable {policyAsset : AssetId} {meta : AssetMeta}

/-- The requests answered since the last `run`, oldest first, each with its answer. -/
def Event.record (log : List ((Env × Request) × Except Exit Response)) :
    Event → List ((Env × Request) × Except Exit Response)
  | .run => []
  | .answer env request out => log ++ [((env, request), out)]
  | _ => log

def answered (events : List Event) : List ((Env × Request) × Except Exit Response) :=
  events.foldl Event.record []

@[simp] theorem answered_nil : answered [] = [] := rfl

@[simp] theorem answered_snoc (events : List Event) (e : Event) :
    answered (events ++ [e]) = Event.record (answered events) e := by
  simp [answered]

/-- The server's answers and its state are those of serving the requests it answered, one after
another, from the fresh state `App::run` built. -/
def Served (policyAsset : AssetId) (meta : AssetMeta) (events : List Event) (app : App) : Prop :=
  ∀ rpc, app.rpc = some rpc →
    serve ((answered events).map Prod.fst) (App.initial app.config policyAsset meta) =
      ((answered events).map Prod.snd, rpc.mutex)

theorem Step.config {app app' : App} {e : Event} (h : Step policyAsset meta app e app') :
    app'.config = app.config := by
  cases h with
  | run _ h => rw [(run_eq_ok h).2]
  | stop h => obtain ⟨_, -, rfl⟩ := stop_eq_ok h; rfl
  | joinThreads _ h => rw [joinThreads_eq_ok h]
  | request => rfl

theorem Step.served {app app' : App} {e : Event} {events : List Event}
    (h : Step policyAsset meta app e app') (hs : Served policyAsset meta events app) :
    Served policyAsset meta (events ++ [e]) app' := by
  cases h with
  | run _ h =>
    rw [(run_eq_ok h).2]
    rintro _ ⟨⟩
    simp [Event.record]
  | stop h =>
    obtain ⟨rpc, hr, rfl⟩ := stop_eq_ok h
    rintro _ ⟨⟩
    simpa [Event.record] using hs rpc hr
  | joinThreads _ h =>
    rw [joinThreads_eq_ok h]
    rintro _ ⟨⟩
  | @request rpc env request hr _ =>
    rintro _ ⟨⟩
    simp [Event.record, serve_append, serve_singleton, hs rpc hr, Rpc.handle]

/-- Over every life of an app, the configuration never changes, and the current server has
answered exactly what serving the requests it answered since the last `run`, one after another
from the fresh state that `run` built, answers, and holds the state that leaves: nothing
survives a restart, and nothing but the answered requests writes the state. -/
theorem served_of_trace {config : Config} {events : List Event} {app : App}
    (h : Trace policyAsset meta (App.new config) events app) :
    app.config = config ∧ ∀ rpc, app.rpc = some rpc →
      serve ((answered events).map Prod.fst) (App.initial config policyAsset meta) =
        ((answered events).map Prod.snd, rpc.mutex) := by
  have hrun : app.config = config ∧ Served policyAsset meta events app := by
    induction h with
    | nil => exact ⟨rfl, fun _ h => nomatch h⟩
    | snoc _ hstep ih => exact ⟨hstep.config.trans ih.1, hstep.served ih.2⟩
  obtain ⟨hc, hs⟩ := hrun
  refine ⟨hc, ?_⟩
  rw [← hc]
  exact hs

/-- A server that loaded a wallet is stopped, joined and started again: the new server has
answered only the listing after the restart, which finds no wallet. -/
theorem served_of_trace_restarted :
    let config : Config := ⟨.liquid, "", false, false, ""⟩
    let env : Env := { Env.unavailable with
      methodFromStr := fun m =>
        if m = "load_wallet" then .ok .loadWallet
        else if m = "list_wallets" then .ok .listWallets
        else .error (.generic m)
      decodeLoadWallet := fun _ => .ok ⟨"elwpkh(k)", "w"⟩
      wolletNew := fun _ _ _ _ _ d => .ok ⟨⟨.wpkh ⟨"k"⟩, d⟩, [], ⟨[], 0⟩⟩ }
    let load : Request := ⟨"load_wallet", none, .null⟩
    let list : Request := ⟨"list_wallets", none, .null⟩
    let events : List Event :=
      [.run, .answer env load (.ok (.result .null (.wallet ⟨"elwpkh(k)", "w"⟩))), .stop,
        .joinThreads, .run, .answer env list (.ok (.result .null (.listWallets [])))]
    ∃ app, Trace ⟨"policy"⟩ ⟨"L-BTC"⟩ (App.new config) events app ∧
      answered events = [((env, list), .ok (.result .null (.listWallets [])))] ∧
      app.config = config ∧ ∀ rpc, app.rpc = some rpc →
        serve ((answered events).map Prod.fst) (App.initial config ⟨"policy"⟩ ⟨"L-BTC"⟩) =
          ((answered events).map Prod.snd, rpc.mutex) := by
  intro config env load list events
  have htrace : Trace ⟨"policy"⟩ ⟨"L-BTC"⟩ (App.new config) _ _ :=
    .snoc (.snoc (.snoc (.snoc (.snoc (.snoc (.nil (App.new config)) (.run (.ok ()) rfl))
      (.request env load rfl rfl)) (.stop rfl)) (.joinThreads (fun _ h => by cases h; rfl) rfl))
      (.run (.ok ()) rfl)) (.request env list rfl rfl)
  exact ⟨_, htrace, rfl, served_of_trace htrace⟩

end App
end LwkApp
