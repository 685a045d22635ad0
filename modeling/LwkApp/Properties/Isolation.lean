import LwkApp.Properties.Effects

/-! Isolation of names: a request reaches only the registry entries it names, whatever its
outcome, so over a run an entry that no request names stays as it was; a sync refreshes a
wallet's store and never its binding. Nothing writes the configuration or the asset cache. -/
namespace LwkApp
open Handler

/-- A request that loads or unloads the wallet named `n`. -/
def TouchesWallet (env : Env) (request : Request) (n : String) : Prop :=
  (env.methodFromStr request.method = .ok .loadWallet ∧
    ∃ r, env.decodeLoadWallet (request.params.getD .null) = .ok r ∧ r.name = n) ∨
  (env.methodFromStr request.method = .ok .unloadWallet ∧
    ∃ r, env.decodeUnloadWallet (request.params.getD .null) = .ok r ∧ r.name = n)

/-- A request that loads or unloads the signer named `n`. -/
def TouchesSigner (env : Env) (request : Request) (n : String) : Prop :=
  (env.methodFromStr request.method = .ok .loadSigner ∧
    ∃ r, env.decodeLoadSigner (request.params.getD .null) = .ok r ∧ r.name = n) ∨
  (env.methodFromStr request.method = .ok .unloadSigner ∧
    ∃ r, env.decodeUnloadSigner (request.params.getD .null) = .ok r ∧ r.name = n)

/-- A wallet apart from its store: what `LoadWallet` bound to the name. -/
def Wollet.binding (w : Wollet) : WolletDescriptor × List Fingerprint := (w.descriptor, w.signers)

namespace RegistryEffect
variable {env : Env} {request : Request} {st st' : State} {n : String}

theorem config_assets (h : RegistryEffect env request st st') :
    st'.config = st.config ∧ st'.assets = st.assets := by
  cases h <;> exact ⟨rfl, rfl⟩

theorem signers_lookup (h : RegistryEffect env request st st')
    (hn : ¬ TouchesSigner env request n) : st'.signers.lookup n = st.signers.lookup n := by
  cases h
  case loadSigner r _ method params _ _ =>
    have hne : n ≠ r.name := fun h => hn (.inl ⟨method, r, params, h.symm⟩)
    simp [hne]
  case unloadSigner r _ method params _ =>
    have hne : n ≠ r.name := fun h => hn (.inr ⟨method, r, params, h.symm⟩)
    simp [hne]
  all_goals rfl

/-- The wallet bound to a name that the request does not load or unload stays, or is the
wallet the request syncs, with a new store. -/
theorem wollets_lookup_cases (h : RegistryEffect env request st st')
    (hn : ¬ TouchesWallet env request n) :
    st'.wollets.lookup n = st.wollets.lookup n ∨
      SyncsWallet env request n ∧ ∃ w store, st.wollets.lookup n = some w ∧
        st'.wollets.lookup n = some { w with store } := by
  cases h
  case loadWallet r _ method params _ _ =>
    have hne : n ≠ r.name := fun h => hn (.inl ⟨method, r, params, h.symm⟩)
    simp [hne]
  case unloadWallet r _ method params _ =>
    have hne : n ≠ r.name := fun h => hn (.inr ⟨method, r, params, h.symm⟩)
    simp [hne]
  case syncWallet name w store target present _ =>
    by_cases hne : n = name
    · subst hne
      exact .inr ⟨target, w, store, present, by simp [present]⟩
    · simp [hne]
  all_goals exact .inl rfl

theorem wollets_lookup (h : RegistryEffect env request st st')
    (hn : ¬ TouchesWallet env request n) (hs : ¬ SyncsWallet env request n) :
    st'.wollets.lookup n = st.wollets.lookup n :=
  (h.wollets_lookup_cases hn).resolve_right fun ⟨hsync, _⟩ => hs hsync

theorem wollets_binding (h : RegistryEffect env request st st')
    (hn : ¬ TouchesWallet env request n) :
    (st'.wollets.lookup n).map Wollet.binding = (st.wollets.lookup n).map Wollet.binding := by
  rcases h.wollets_lookup_cases hn with h | ⟨-, w, store, hl, hl'⟩
  · rw [h]
  · rw [hl, hl']
    rfl

end RegistryEffect

section Frame
variable {β : Type}

/-- What every write a request can make keeps, the request keeps, whatever its outcome. -/
theorem innerMethodHandler_frame {env : Env} {request : Request} (f : State → β)
    (hf : ∀ st st', RegistryEffect env request st st' → f st' = f st) (s : Session) :
    f (innerMethodHandler env request s).2.state = f s.state := by
  rcases innerMethodHandler_effect s with h | h
  · rw [h]
  · exact hf _ _ h

/-- What every request of a run keeps, the run keeps. -/
theorem serve_frame (f : State → β) {rs : List (Env × Request)}
    (hstep : ∀ p ∈ rs, ∀ s, f (innerMethodHandler p.1 p.2 s).2.state = f s.state) (m : Mutex) :
    f (serve rs m).2.state = f m.state := by
  induction rs generalizing m with
  | nil => rfl
  | cons p rest ih =>
    obtain ⟨env, request⟩ := p
    rw [serve_cons, ih (fun q hq => hstep q (.tail _ hq)), methodHandler_state,
      hstep _ (.head _)]

end Frame

/-- Requests never reach an entry they do not name: over every run, whatever the outcomes
(errors, panics and poisoning included), a name that no request of the run loads or unloads
stays bound to the same wallet, whose store only the syncs of that name refresh, and the signer
bound to a name that no request loads or unloads stays. -/
theorem serve_isolates (n : String) (rs : List (Env × Request)) (m : Mutex) :
    ((∀ p ∈ rs, ¬ TouchesWallet p.1 p.2 n) →
        ((serve rs m).2.state.wollets.lookup n).map Wollet.binding =
          (m.state.wollets.lookup n).map Wollet.binding) ∧
      ((∀ p ∈ rs, ¬ TouchesWallet p.1 p.2 n ∧ ¬ SyncsWallet p.1 p.2 n) →
        (serve rs m).2.state.wollets.lookup n = m.state.wollets.lookup n) ∧
      ((∀ p ∈ rs, ¬ TouchesSigner p.1 p.2 n) →
        (serve rs m).2.state.signers.lookup n = m.state.signers.lookup n) :=
  ⟨fun h => serve_frame _ (fun p hp => innerMethodHandler_frame _ fun _ _ he =>
      he.wollets_binding (h p hp)) m,
    fun h => serve_frame _ (fun p hp => innerMethodHandler_frame _ fun _ _ he =>
      he.wollets_lookup (h p hp).1 (h p hp).2) m,
    fun h => serve_frame _ (fun p hp => innerMethodHandler_frame _ fun _ _ he =>
      he.signers_lookup (h p hp)) m⟩

/-- A run that loads another wallet, syncs `v` in an `Address` whose engine call then fails, and
unloads another signer: `v` keeps its binding and its signer, and its wallet has the new
store. -/
theorem serve_isolates_synced :
    let wollet : Wollet := ⟨⟨.wpkh ⟨"k"⟩, "elwpkh(k)"⟩, [], ⟨[], 0⟩⟩
    let store : WolletStore := ⟨[⟨"txid"⟩], 1⟩
    let env : Env := { Env.unavailable with
      methodFromStr := fun m =>
        if m = "load_wallet" then .ok .loadWallet
        else if m = "address" then .ok .address
        else if m = "unload_signer" then .ok .unloadSigner
        else .error (.generic m)
      decodeLoadWallet := fun _ => .ok ⟨"elwpkh(k)", "w"⟩
      decodeAddress := fun _ => .ok ⟨"v", none⟩
      decodeUnloadSigner := fun _ => .ok ⟨"s"⟩
      wolletNew := fun _ _ _ _ _ d => .ok ⟨⟨.wpkh ⟨"k"⟩, d⟩, [], ⟨[], 0⟩⟩
      syncTxs := fun _ => .ok store }
    let rs : List (Env × Request) :=
      [(env, ⟨"load_wallet", none, .null⟩), (env, ⟨"address", none, .null⟩),
        (env, ⟨"unload_signer", none, .null⟩)]
    let m : Mutex := ⟨⟨⟨.liquid, "", false, false, ""⟩,
      (∅ : Registry Wollet).extend "v" wollet,
      (∅ : Registry AppSigner).extend "v" (.externalSigner ⟨[1, 2, 3, 4], rfl⟩), ∅⟩, false⟩
    (serve rs m).2.state.wollets.lookup "v" = some { wollet with store } ∧
      ((serve rs m).2.state.wollets.lookup "v").map Wollet.binding =
        (m.state.wollets.lookup "v").map Wollet.binding ∧
      (serve rs m).2.state.signers.lookup "v" = m.state.signers.lookup "v" := by
  intro wollet store env rs m
  have h := serve_isolates "v" rs m
  exact ⟨rfl, h.1 (by simp [rs, env, TouchesWallet]), h.2.2 (by simp [rs, env, TouchesSigner])⟩

/-- Over every run, the configuration and the asset cache stay as they were. -/
theorem serve_config_assets (rs : List (Env × Request)) (m : Mutex) :
    (serve rs m).2.state.config = m.state.config ∧
      (serve rs m).2.state.assets = m.state.assets :=
  ⟨serve_frame _ (fun _ _ => innerMethodHandler_frame _ fun _ _ he => he.config_assets.1) m,
    serve_frame _ (fun _ _ => innerMethodHandler_frame _ fun _ _ he => he.config_assets.2) m⟩

end LwkApp
