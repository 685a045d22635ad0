import LwkApp.Properties.Isolation

/-! The wallet and signer lifecycle of spec §8 over runs: what the listing of signers needs of
every entry, the policy asset every run keeps, loading and unloading a wallet, and the
descriptor each wallet method reports. -/
namespace LwkApp
open Handler

section
variable {env : Env} {request : Request}

theorem mapM_eq_ok_of_mem {α β : Type} {f : α → Except Error β} {l : List α} {ys : List β}
    (h : l.mapM f = .ok ys) {x : α} (hx : x ∈ l) : ∃ y, f x = .ok y := by
  induction l generalizing ys with
  | nil => cases hx
  | cons a l ih =>
    simp only [List.mapM_cons, except_bind_eq_ok, except_pure, Except.ok.injEq] at h
    obtain ⟨b, hb, rest, hrest, -⟩ := h
    rcases List.mem_cons.1 hx with rfl | hx
    · exact ⟨b, hb⟩
    · exact ih hrest hx

/-- `ListSigners` answers only if every registered signer does: one signer that cannot give
its fingerprint, identifier or xpub, such as a hardware device that is gone, makes it fail, and
the state stays as it was. -/
theorem listSigners_of_broken {s : Session} {n : String} {signer : AppSigner} {e : Error}
    (hm : env.methodFromStr request.method = .ok .listSigners) (hs : s.poisoned = false)
    (hl : s.state.signers.lookup n = some signer)
    (he : signerResponseFrom env n signer = .error e) :
    ∃ e', innerMethodHandler env request s = (.error (.error e'), { s with held := true }) := by
  cases hmap : s.state.signers.iter.mapM
      (fun (name, signer) => signerResponseFrom env name signer) with
  | ok signers =>
    obtain ⟨_, hok⟩ := mapM_eq_ok_of_mem hmap (Registry.mem_iter.2 hl)
    simp [he] at hok
  | error e' =>
    refine ⟨e', ?_⟩
    rw [innerMethodHandler_of_method hm]
    dsimp only [dispatch, Arm.listSigners]
    rw [reading_apply]
    simp only [hs, Bool.false_eq_true, ↓reduceIte, hmap]
    rfl

/-- A hardware signer that cannot give its fingerprint, registered beside an external signer
that answers: the listing fails. -/
theorem listSigners_of_broken_jade :
    let env : Env := { Env.unavailable with methodFromStr := fun _ => .ok .listSigners }
    let request : Request := ⟨"list_signers", none, .null⟩
    let s : Session := ⟨⟨⟨.liquid, "", false, false, ""⟩, ∅,
      ((∅ : Registry AppSigner).extend "ext" (.externalSigner ⟨[1, 2, 3, 4], rfl⟩)).extend "jade"
        (.availableSigner (.jade ⟨.liquid⟩)), ∅⟩, false, false⟩
    ∃ e', innerMethodHandler env request s = (.error (.error e'), { s with held := true }) := by
  intro env request s
  exact @listSigners_of_broken env request s "jade" _ _ rfl rfl rfl rfl

end

/-- Every run from the state `App::run` creates keeps the policy asset it registered: on a
mutex that is not poisoned, `AssetDetails` of the policy asset answers with its name. -/
theorem assetDetails_policyAsset {config : Config} {policyAsset : AssetId} {meta : AssetMeta}
    (rs : List (Env × Request)) {env : Env} {request : Request} {p : Json}
    {r : Req.AssetDetails} (hm : env.methodFromStr request.method = .ok .assetDetails)
    (hp : request.params = some p) (hd : env.decodeAssetDetails p = .ok r)
    (ha : env.assetIdFromStr r.assetId = .ok policyAsset)
    (hpois : (serve rs (App.initial config policyAsset meta)).2.poisoned = false) :
    (methodHandler env request (serve rs (App.initial config policyAsset meta)).2).1 =
      .ok (.result request.id (.assetDetails meta.name)) := by
  have hassets := (serve_config_assets rs (App.initial config policyAsset meta)).2
  generalize (serve rs (App.initial config policyAsset meta)).2 = m at hpois hassets
  have hl : m.state.assets.lookup policyAsset = some meta := by
    rw [hassets]
    exact AList.lookup_insert _
  rw [methodHandler_fst, innerMethodHandler_of_method hm]
  simp [dispatch, Arm.assetDetails, reading_apply, paramsUnwrap, hp, hd, hpois, ha,
    Except.mapError, State.getAsset, hl]

/-- The policy asset is still known after a run that loads a wallet and lists the wallets. -/
theorem assetDetails_policyAsset_afterLoad :
    let env : Env := { Env.unavailable with
      methodFromStr := fun m =>
        if m = "load_wallet" then .ok .loadWallet
        else if m = "list_wallets" then .ok .listWallets
        else if m = "asset_details" then .ok .assetDetails
        else .error (.generic m)
      decodeLoadWallet := fun _ => .ok ⟨"elwpkh(k)", "w"⟩
      decodeAssetDetails := fun _ => .ok ⟨"policy"⟩
      assetIdFromStr := fun hex => .ok ⟨hex⟩
      wolletNew := fun _ _ _ _ _ d => .ok ⟨⟨.wpkh ⟨"k"⟩, d⟩, [], ⟨[], 0⟩⟩ }
    let rs : List (Env × Request) :=
      [(env, ⟨"load_wallet", none, .null⟩), (env, ⟨"list_wallets", none, .null⟩)]
    let request : Request := ⟨"asset_details",
      some (.object [("asset_id", .string "policy")]), .null⟩
    (methodHandler env request
        (serve rs (App.initial ⟨.liquid, "", false, false, ""⟩ ⟨"policy"⟩ ⟨"L-BTC"⟩)).2).1 =
      .ok (.result .null (.assetDetails "L-BTC")) := by
  intro env rs request
  exact assetDetails_policyAsset rs rfl rfl rfl rfl rfl

/-- A `LoadWallet(n)` that succeeds followed by an `UnloadWallet(n)` that succeeds gives the
session state back as it was: both registries, the configuration and the asset cache. -/
theorem loadWallet_unloadWallet_state {env₁ env₂ : Env} {load unload : Request} {m : Mutex}
    {r₁ : Req.LoadWallet} {r₂ : Req.UnloadWallet} {resp₁ resp₂ : Response}
    (hm₁ : env₁.methodFromStr load.method = .ok .loadWallet)
    (hd₁ : env₁.decodeLoadWallet (load.params.getD .null) = .ok r₁)
    (hm₂ : env₂.methodFromStr unload.method = .ok .unloadWallet)
    (hd₂ : env₂.decodeUnloadWallet (unload.params.getD .null) = .ok r₂)
    (hn : r₂.name = r₁.name)
    (h : (serve [(env₁, load), (env₂, unload)] m).1 = [.ok resp₁, .ok resp₂]) :
    (serve [(env₁, load), (env₂, unload)] m).2.state = m.state := by
  simp only [serve_cons, serve_nil, List.cons.injEq, and_true, methodHandler_fst,
    methodHandler_state] at h ⊢
  obtain ⟨h₁, h₂⟩ := h
  rw [innerMethodHandler_of_method hm₁] at h₁ h₂ ⊢
  rw [innerMethodHandler_of_method hm₂] at h₂ ⊢
  dsimp only [dispatch] at h₁ h₂ ⊢
  obtain ⟨-, _, ⟨⟩⟩ | ⟨r, w, hr, -, habs, hst₁, -⟩ := loadWallet_cases (Prod.ext h₁ rfl)
  obtain ⟨-, _, ⟨⟩⟩ | ⟨r', w', hr', -, hst₂, -⟩ := unloadWallet_cases (Prod.ext h₂ rfl)
  obtain rfl : r = r₁ := Except.ok.inj (hr.symm.trans hd₁)
  obtain rfl : r' = r₂ := Except.ok.inj (hr'.symm.trans hd₂)
  rw [hst₂]
  simp only [hst₁, hn, Registry.drop_extend habs]

theorem loadWallet_unloadWallet_state_initial :
    let env : Env := { Env.unavailable with
      methodFromStr := fun m =>
        if m = "load_wallet" then .ok .loadWallet
        else if m = "unload_wallet" then .ok .unloadWallet
        else .error (.generic m)
      decodeLoadWallet := fun _ => .ok ⟨"elwpkh(k)", "w"⟩
      decodeUnloadWallet := fun _ => .ok ⟨"w"⟩
      wolletNew := fun _ _ _ _ _ d => .ok ⟨⟨.wpkh ⟨"k"⟩, d⟩, [], ⟨[], 0⟩⟩ }
    let load : Request := ⟨"load_wallet", none, .null⟩
    let unload : Request := ⟨"unload_wallet", none, .null⟩
    let m := App.initial ⟨.liquid, "", false, false, ""⟩ ⟨"policy"⟩ ⟨"L-BTC"⟩
    (serve [(env, load), (env, unload)] m).1 =
        [.ok (.result .null (.wallet ⟨"elwpkh(k)", "w"⟩)),
          .ok (.result .null (.unloadWallet ⟨"elwpkh(k)", "w"⟩))] ∧
      (serve [(env, load), (env, unload)] m).2.state = m.state :=
  ⟨rfl, loadWallet_unloadWallet_state rfl rfl rfl rfl rfl rfl⟩

/-- An engine that renders the descriptor it parsed with a checksum appended, as one does for a
descriptor given without its checksum: `LoadWallet` reports the descriptor of the request, and
the `ListWallets` and the `UnloadWallet` after it report another. -/
theorem listWallets_descriptor_differs :
    let env : Env := { Env.unavailable with
      methodFromStr := fun m =>
        if m = "load_wallet" then .ok .loadWallet
        else if m = "list_wallets" then .ok .listWallets
        else if m = "unload_wallet" then .ok .unloadWallet
        else .error (.generic m)
      decodeLoadWallet := fun _ => .ok ⟨"ct(elip151,elwpkh(xpub/*))", "w"⟩
      decodeUnloadWallet := fun _ => .ok ⟨"w"⟩
      wolletNew := fun _ _ _ _ _ d => .ok ⟨⟨.wpkh ⟨"xpub/*"⟩, d ++ "#checksum"⟩, [], ⟨[], 0⟩⟩ }
    let start := App.initial ⟨.liquid, "", false, false, ""⟩ ⟨"policy"⟩ ⟨"L-BTC"⟩
    (serve [(env, ⟨"load_wallet", some (.object [("name", .string "w"),
        ("descriptor", .string "ct(elip151,elwpkh(xpub/*))")]), .null⟩),
      (env, ⟨"list_wallets", none, .null⟩),
      (env, ⟨"unload_wallet", some (.object [("name", .string "w")]), .null⟩)] start).1 =
      [.ok (.result .null (.wallet ⟨"ct(elip151,elwpkh(xpub/*))", "w"⟩)),
        .ok (.result .null (.listWallets [⟨"ct(elip151,elwpkh(xpub/*))#checksum", "w"⟩])),
        .ok (.result .null (.unloadWallet
          { name := "w", descriptor := "ct(elip151,elwpkh(xpub/*))#checksum" }))] ∧
      "ct(elip151,elwpkh(xpub/*))" ≠ "ct(elip151,elwpkh(xpub/*))#checksum" :=
  ⟨rfl, by decide⟩

end LwkApp
