import LwkApp.Data
import Mathlib.Data.List.AList

/-! The named registries of the session state (spec §4.1), used alike for wallets and for
signers: `insert` refuses a taken name, `remove` and `get` refuse an absent one. -/
namespace LwkApp

/-- Modelled from the spec: the wallet and signer registries of `state.rs`, absent from the
sources (spec §4.1). A map from names to entries; the `AList` keeps names unique. -/
structure Registry (T : Type) where
  entries : AList (fun _ : String => T)

namespace Registry
variable {T : Type}

instance : EmptyCollection (Registry T) := ⟨⟨∅⟩⟩

/-- The entry registered under `name`, if any. -/
def lookup (r : Registry T) (name : String) : Option T := r.entries.lookup name

/-- The registry with `name ↦ entry` added, for a name not yet present. -/
def extend (r : Registry T) (name : String) (entry : T) : Registry T :=
  ⟨r.entries.insert name entry⟩

/-- The registry without `name`. -/
def drop (r : Registry T) (name : String) : Registry T := ⟨r.entries.erase name⟩

/-- `insert`: fails with `NameAlreadyExists` on a taken name. -/
def insert (r : Registry T) (name : String) (entry : T) : Except Error (Registry T) :=
  match r.lookup name with
  | some _ => .error (.nameAlreadyExists name)
  | none => .ok (r.extend name entry)

/-- `remove`: hands the entry back, fails with `NameNotFound` on an absent name. -/
def remove (r : Registry T) (name : String) : Except Error (T × Registry T) :=
  match r.lookup name with
  | some entry => .ok (entry, r.drop name)
  | none => .error (.nameNotFound name)

/-- `get` and `get_mut`: fail with `NameNotFound` on an absent name. -/
def get (r : Registry T) (name : String) : Except Error T :=
  match r.lookup name with
  | some entry => .ok entry
  | none => .error (.nameNotFound name)

/-- `get_mut` and a write through it: the entry under `name` replaced in place. -/
def update (r : Registry T) (name : String) (entry : T) : Registry T :=
  ⟨r.entries.replace name entry⟩

/-- `iter`: the name–entry pairs. -/
def iter (r : Registry T) : List (String × T) :=
  r.entries.entries.map fun e => (e.1, e.2)

@[simp] theorem lookup_empty (name : String) : (∅ : Registry T).lookup name = none := rfl

@[simp] theorem lookup_extend (r : Registry T) (name name' : String) (entry : T) :
    (r.extend name entry).lookup name' = if name' = name then some entry else r.lookup name' := by
  by_cases h : name' = name
  · subst h; simp [extend, lookup, AList.lookup_insert]
  · simp [extend, lookup, h, AList.lookup_insert_ne h]

@[simp] theorem lookup_drop (r : Registry T) (name name' : String) :
    (r.drop name).lookup name' = if name' = name then none else r.lookup name' := by
  by_cases h : name' = name
  · subst h; simp [drop, lookup, AList.lookup_erase]
  · simp [drop, lookup, h, AList.lookup_erase_ne h]

theorem kreplace_cons (l : List (Σ _ : String, T)) (name k : String) (entry v : T) :
    (⟨k, v⟩ :: l : List (Σ _ : String, T)).kreplace name entry =
      if name = k then ⟨name, entry⟩ :: l else ⟨k, v⟩ :: l.kreplace name entry := by
  by_cases h : name = k
  · subst h
    simp only [if_true]
    exact List.lookmap_cons_some _ l (by simp)
  · simp only [h, if_false]
    exact List.lookmap_cons_none _ l (by simp [h])

theorem dlookup_kreplace (l : List (Σ _ : String, T)) (name name' : String) (entry : T) :
    (l.kreplace name entry).dlookup name' =
      if name' = name then (l.dlookup name).map fun _ => entry else l.dlookup name' := by
  have hne : ∀ {n k : String} {v : T} (t : List (Σ _ : String, T)), n ≠ k →
      (⟨k, v⟩ :: t).dlookup n = t.dlookup n := fun t h => List.dlookup_cons_ne t _ h
  induction l with
  | nil => simp [List.kreplace, List.lookmap_nil]
  | cons e l ih =>
    obtain ⟨k, v⟩ := e
    rw [kreplace_cons]
    by_cases hk : name = k
    · subst hk
      by_cases h : name' = name
      · subst h
        simp [List.dlookup_cons_eq]
      · simp [h, hne l h]
    · by_cases h : name' = k
      · subst h
        simp [hk, Ne.symm hk, List.dlookup_cons_eq]
      · simp only [hk, if_false, hne _ h, ih, hne _ hk]

@[simp] theorem lookup_update (r : Registry T) (name name' : String) (entry : T) :
    (r.update name entry).lookup name' =
      if name' = name then (r.lookup name).map fun _ => entry else r.lookup name' :=
  dlookup_kreplace _ _ _ _

theorem insert_eq_ok {r r' : Registry T} {name : String} {entry : T} :
    r.insert name entry = .ok r' ↔ r.lookup name = none ∧ r' = r.extend name entry := by
  cases h : r.lookup name <;> simp [insert, h, eq_comm]

theorem insert_eq_error {r : Registry T} {name : String} {entry : T} {e : Error} :
    r.insert name entry = .error e ↔ (r.lookup name).isSome ∧ e = .nameAlreadyExists name := by
  cases h : r.lookup name <;> simp [insert, h, eq_comm]

theorem remove_eq_ok {r r' : Registry T} {name : String} {entry : T} :
    r.remove name = .ok (entry, r') ↔ r.lookup name = some entry ∧ r' = r.drop name := by
  cases h : r.lookup name <;> simp [remove, h, eq_comm]

theorem remove_eq_error {r : Registry T} {name : String} {e : Error} :
    r.remove name = .error e ↔ r.lookup name = none ∧ e = .nameNotFound name := by
  cases h : r.lookup name <;> simp [remove, h, eq_comm]

theorem get_eq_ok {r : Registry T} {name : String} {entry : T} :
    r.get name = .ok entry ↔ r.lookup name = some entry := by
  cases h : r.lookup name <;> simp [get, h]

/-- The names `iter` yields are the registry's keys, so none comes twice. -/
theorem iter_names (r : Registry T) : r.iter.map Prod.fst = r.entries.keys := by
  simp [iter, AList.keys, List.keys]

theorem mem_iter {r : Registry T} {name : String} {entry : T} :
    (name, entry) ∈ r.iter ↔ r.lookup name = some entry := by
  simp only [iter, lookup, List.mem_map, Prod.mk.injEq, ← Option.mem_def, AList.mem_lookup_iff]
  exact ⟨fun ⟨⟨_, _⟩, h, rfl, rfl⟩ => h, fun h => ⟨_, h, rfl, rfl⟩⟩

/-- Registering an absent name puts its entry first in `iter`. -/
theorem iter_extend {r : Registry T} {name : String} (h : r.lookup name = none) (entry : T) :
    (r.extend name entry).iter = (name, entry) :: r.iter := by
  simp only [iter, extend, AList.insert_entries_of_neg (AList.lookup_eq_none.mp h), List.map_cons]

/-- Adding an absent name and dropping it again gives the registry back. -/
theorem drop_extend {r : Registry T} {name : String} (h : r.lookup name = none) (entry : T) :
    (r.extend name entry).drop name = r := by
  have hn : name ∉ r.entries := AList.lookup_eq_none.mp h
  show (⟨(r.entries.insert name entry).erase name⟩ : Registry T) = ⟨r.entries⟩
  congr 1
  apply AList.ext
  show List.kerase name (r.entries.insert name entry).entries = r.entries.entries
  rw [AList.insert_entries_of_neg hn]
  exact List.kerase_cons_eq rfl

end Registry

end LwkApp
