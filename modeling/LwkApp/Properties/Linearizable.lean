import LwkApp.Pool
import Mathlib.Data.List.FinRange
import Mathlib.Data.Fin.VecNotation

/-! Safety of the worker pool over every schedule: at most one worker holds the guard, and every
run is linearizable, each outcome and the mutex being those of `serve` on the requests in the
order the workers passed the lock. -/
namespace LwkApp

namespace Phase

/-- Whether the worker holds the guard. -/
def holds : Phase → Bool
  | .holding _ _ => true
  | _ => false

/-- The outcome the worker has settled on: from the moment it holds the guard, or has returned. -/
def outcome : Phase → Option (Except Exit Response)
  | .holding out _ => some out
  | .done out => some out
  | _ => none

end Phase

namespace Pool
variable {n : ℕ}

/-- Mutual exclusion: the lock is taken exactly when some worker holds the guard, and no two
workers hold it. -/
structure Exclusive (p : Pool n) : Prop where
  unique : ∀ i j, (p.workers i).holds → (p.workers j).holds → i = j
  locked_iff : p.locked = true ↔ ∃ i, (p.workers i).holds

/-- The mutex is `m` once the guard alive, if any, is dropped. -/
def Releases (p : Pool n) (m : Mutex) : Prop :=
  (p.locked = false ∧ m = p.mutex) ∨
    ∃ i out st, p.workers i = .holding out st ∧ m = ⟨st, p.mutex.poisoned || panicked out⟩

/-- Each worker that has not settled is where its split puts it: ready with it, or waiting with
its critical section. -/
def Follows (splits : Fin n → Split Response) (p : Pool n) : Prop :=
  ∀ i, p.workers i = .ready (splits i) ∨
    (∃ critical, splits i = .locked (.ok critical) ∧ p.workers i = .waiting critical) ∨
    (p.workers i).outcome.isSome

/-- `order` linearizes the pool: it lists once each worker that has settled, and serving their
requests in that order gives each worker its outcome and the mutex the pool has once its guard is
dropped. -/
structure Linearizes (requests : Fin n → Env × Request) (m₀ : Mutex) (p : Pool n)
    (order : List (Fin n)) : Prop where
  nodup : order.Nodup
  mem_iff : ∀ i, i ∈ order ↔ (p.workers i).outcome.isSome
  outcomes :
    order.map (fun i => (p.workers i).outcome) = (serve (order.map requests) m₀).1.map some
  mutex : p.Releases (serve (order.map requests) m₀).2

section
variable {p : Pool n} {i : Fin n} {ph : Phase}

theorem Exclusive.set (h : p.Exclusive) (hi : (p.workers i).holds = false)
    (hph : ph.holds = false) : (p.set i ph).Exclusive := by
  have hw : ∀ j, ((p.set i ph).workers j).holds = (p.workers j).holds := by
    intro j
    by_cases hj : j = i
    · subst hj
      simp only [set_workers_self, hi, hph]
    · simp only [set_workers_of_ne _ _ hj]
  exact ⟨fun j k => by simpa only [hw] using h.unique j k,
    by simpa only [set_locked, hw] using h.locked_iff⟩

theorem Exclusive.not_holds (h : p.Exclusive) (hl : p.locked = false) (j : Fin n) :
    (p.workers j).holds = false := by
  by_contra hj
  simpa [hl] using h.locked_iff.2 ⟨j, by simpa using hj⟩

/-- Taking the free lock makes the taker the one holder. -/
theorem Exclusive.acquire (h : p.Exclusive) (hl : p.locked = false) (hph : ph.holds) :
    ({ p.set i ph with locked := true } : Pool n).Exclusive := by
  have hw : ∀ j, ((p.set i ph).workers j).holds ↔ j = i := by
    intro j
    by_cases hj : j = i
    · subst hj
      simp only [set_workers_self, hph]
    · simp only [set_workers_of_ne _ _ hj, h.not_holds hl j, hj, Bool.false_eq_true]
  exact ⟨fun j k hj hk => ((hw j).1 hj).trans ((hw k).1 hk).symm, by simpa using ⟨i, (hw i).2 rfl⟩⟩

/-- Dropping the guard leaves no holder. -/
theorem Exclusive.release (h : p.Exclusive) (hi : (p.workers i).holds) (hph : ph.holds = false)
    (m : Mutex) : ({ p.set i ph with mutex := m, locked := false } : Pool n).Exclusive := by
  have hw : ∀ j, ((p.set i ph).workers j).holds = false := by
    intro j
    by_cases hj : j = i
    · subst hj
      simp only [set_workers_self, hph]
    · simpa only [set_workers_of_ne _ _ hj, Bool.not_eq_true] using mt (h.unique j i · hi) hj
  exact ⟨fun j _ hj => by simp [hw j] at hj, by simp [hw]⟩

theorem Releases.set {m : Mutex} (h : p.Releases m) (hi : (p.workers i).holds = false) :
    (p.set i ph).Releases m := by
  rcases h with h | ⟨j, out, st, hj, rfl⟩
  · exact .inl h
  · have hji : j ≠ i := by
      rintro rfl
      simp [hj, Phase.holds] at hi
    exact .inr ⟨j, out, st, by rw [set_workers_of_ne _ _ hji, hj], rfl⟩

/-- With the lock free, the mutex already is what it will be. -/
theorem Releases.eq_of_unlocked {m : Mutex} (h : p.Releases m) (hex : p.Exclusive)
    (hl : p.locked = false) : m = p.mutex := by
  rcases h with h | ⟨j, out, st, hj, -⟩
  · exact h.2
  · simpa [hj, Phase.holds] using hex.not_holds hl j

end

section
variable {requests : Fin n → Env × Request} {m₀ : Mutex} {p q : Pool n} {order : List (Fin n)}
  {i : Fin n}

/-- A move of worker `i` that keeps what it has settled on, and the mutex the pool releases,
keeps the linearization. -/
theorem Linearizes.keep (hl : p.Linearizes requests m₀ order)
    (hq : ∀ j, j ≠ i → q.workers j = p.workers j)
    (hqi : (q.workers i).outcome = (p.workers i).outcome)
    (hm : q.Releases (serve (order.map requests) m₀).2) : q.Linearizes requests m₀ order := by
  have ho : ∀ j, (q.workers j).outcome = (p.workers j).outcome := fun j => by
    by_cases hj : j = i
    · subst hj
      exact hqi
    · rw [hq j hj]
  exact ⟨hl.nodup, by simpa only [ho] using hl.mem_iff, by simpa only [ho] using hl.outcomes, hm⟩

/-- A worker that settles on the outcome of its request served after `order` extends the
linearization by itself. -/
theorem Linearizes.settle (hl : p.Linearizes requests m₀ order)
    (hi : (p.workers i).outcome = none) (hq : ∀ j, j ≠ i → q.workers j = p.workers j)
    (hqi : (q.workers i).outcome =
      some (methodHandler (requests i).1 (requests i).2 (serve (order.map requests) m₀).2).1)
    (hm : q.Releases (methodHandler (requests i).1 (requests i).2
      (serve (order.map requests) m₀).2).2) :
    q.Linearizes requests m₀ (order ++ [i]) := by
  have hni : i ∉ order := by simp [hl.mem_iff, hi]
  have ho : ∀ j ∈ order, (q.workers j).outcome = (p.workers j).outcome := fun j hj => by
    rw [hq j (ne_of_mem_of_not_mem hj hni)]
  refine ⟨hl.nodup.append (List.nodup_singleton i) (List.disjoint_singleton.2 hni), ?_, ?_, ?_⟩
  · intro j
    by_cases hj : j = i
    · subst hj
      simp [hqi]
    · simp only [List.mem_append, List.mem_singleton, hj, or_false, hl.mem_iff, hq j hj]
  · simp only [List.map_append, List.map_congr_left ho, hl.outcomes, serve_append, List.map_cons,
      List.map_nil, serve_singleton, hqi]
  · simpa only [List.map_append, List.map_cons, List.map_nil, serve_append, serve_singleton]
      using hm

/-- A worker whose handler returns without touching the session settles at once. -/
theorem Linearizes.finish (hl : p.Linearizes requests m₀ order)
    (hi : (p.workers i).outcome = none) (hh : (p.workers i).holds = false)
    {out : Except Exit Response}
    (hrun : ∀ s, innerMethodHandler (requests i).1 (requests i).2 s = (out, s)) :
    (p.set i (.done out)).Linearizes requests m₀ (order ++ [i]) := by
  have hr := methodHandler_of_run hrun (serve (order.map requests) m₀).2
  exact hl.settle hi (fun _ hj => set_workers_of_ne _ _ hj) (by rw [hr, set_workers_self]; rfl)
    (by rw [hr]; exact hl.mutex.set hh)

end

section
variable {splits : Fin n → Split Response} {requests : Fin n → Env × Request} {m₀ : Mutex}
  {p : Pool n}

theorem Exclusive.step (h : p.Exclusive) (i : Fin n) : (p.step i).Exclusive := by
  cases hw : p.workers i with
  | ready sp =>
    have hi : (p.workers i).holds = false := by rw [hw]; rfl
    rcases sp with out | (x | critical) <;> simp only [Pool.step, hw] <;> exact h.set hi rfl
  | waiting critical =>
    have hi : (p.workers i).holds = false := by rw [hw]; rfl
    simp only [Pool.step, hw]
    split_ifs with hl
    · exact h
    · exact h.set hi rfl
    · exact h.acquire (by simpa using hl) rfl
  | holding out st =>
    simp only [Pool.step, hw]
    exact h.release (by rw [hw]; rfl) (by rfl) _
  | done out =>
    simpa only [Pool.step, hw] using h

theorem Follows.ready (h : p.Follows splits) {i : Fin n} {sp : Split Response}
    (hw : p.workers i = .ready sp) : splits i = sp := by
  rcases h i with h | ⟨_, -, h⟩ | h <;> rw [hw] at h <;> simp_all [Phase.outcome]

theorem Follows.waiting (h : p.Follows splits) {i : Fin n}
    {critical : State → Except Exit Response × State} (hw : p.workers i = .waiting critical) :
    splits i = .locked (.ok critical) := by
  rcases h i with h | ⟨c, hc, h⟩ | h <;> rw [hw] at h <;> simp_all [Phase.outcome]

theorem Follows.step (h : p.Follows splits) (i : Fin n) : (p.step i).Follows splits := by
  have hset : ∀ ph, (ph = .ready (splits i) ∨
      (∃ critical, splits i = .locked (.ok critical) ∧ ph = .waiting critical) ∨
      ph.outcome.isSome) → (p.set i ph).Follows splits := by
    intro ph hph j
    by_cases hj : j = i
    · subst hj
      simpa only [set_workers_self] using hph
    · simpa only [set_workers_of_ne _ _ hj] using h j
  have hsome : ∀ out, (Phase.done out).outcome.isSome := fun _ => rfl
  cases hw : p.workers i with
  | ready sp =>
    have hs := h.ready hw
    rcases sp with out | (x | critical) <;> simp only [Pool.step, hw]
    · exact hset _ (.inr (.inr (hsome _)))
    · exact hset _ (.inr (.inr (hsome _)))
    · exact hset _ (.inr (.inl ⟨critical, hs, rfl⟩))
  | waiting critical =>
    simp only [Pool.step, hw]
    split_ifs
    · exact h
    · exact hset _ (.inr (.inr (hsome _)))
    · exact hset _ (.inr (.inr rfl))
  | holding out st =>
    simp only [Pool.step, hw]
    exact hset _ (.inr (.inr (hsome _)))
  | done out =>
    simpa only [Pool.step, hw] using h

theorem Linearizes.step
    (hsplit : ∀ i, innerMethodHandler (requests i).1 (requests i).2 = (splits i).run)
    (hex : p.Exclusive) (hf : p.Follows splits) {order : List (Fin n)}
    (hl : p.Linearizes requests m₀ order) (i : Fin n) :
    ∃ order', (p.step i).Linearizes requests m₀ order' := by
  have hne : ∀ ph j, j ≠ i → (p.set i ph).workers j = p.workers j :=
    fun ph _ hj => set_workers_of_ne _ _ hj
  cases hw : p.workers i with
  | ready sp =>
    have hs := hf.ready hw
    have hi : (p.workers i).outcome = none := by rw [hw]; rfl
    have hh : (p.workers i).holds = false := by rw [hw]; rfl
    rcases sp with out | (x | critical) <;> simp only [Pool.step, hw]
    · exact ⟨_, hl.finish hi hh fun s => by rw [hsplit i, hs]; rfl⟩
    · exact ⟨_, hl.finish hi hh fun s => by rw [hsplit i, hs]; rfl⟩
    · exact ⟨order, hl.keep (hne _) (by rw [hi, set_workers_self]; rfl) (hl.mutex.set hh)⟩
  | waiting critical =>
    have hr := methodHandler_of_critical ((hsplit i).trans (by rw [hf.waiting hw]))
      (serve (order.map requests) m₀).2
    have hi : (p.workers i).outcome = none := by rw [hw]; rfl
    have hh : (p.workers i).holds = false := by rw [hw]; rfl
    simp only [Pool.step, hw]
    split_ifs with hlk hp
    · exact ⟨order, hl⟩
    · have hm := hl.mutex.eq_of_unlocked hex (by simpa using hlk)
      rw [hm, if_pos hp] at hr
      refine ⟨_, hl.settle hi (hne _) (by rw [hm, hr, set_workers_self]; rfl) ?_⟩
      rw [hm, hr]
      exact .inl ⟨by simpa using hlk, rfl⟩
    · have hm := hl.mutex.eq_of_unlocked hex (by simpa using hlk)
      rw [hm, if_neg hp] at hr
      refine ⟨_, hl.settle hi (hne _) (by rw [hm, hr, set_workers_self]; rfl) ?_⟩
      rw [hm, hr]
      exact .inr ⟨i, _, _, set_workers_self _ _ _, by simp [hp]⟩
  | holding out st =>
    simp only [Pool.step, hw]
    refine ⟨order, hl.keep (hne _) (by rw [hw, set_workers_self]; rfl) (.inl ⟨rfl, ?_⟩)⟩
    rcases hl.mutex with ⟨hlk, -⟩ | ⟨j, out', st', hj, hm⟩
    · simpa [hlk] using hex.locked_iff.2 ⟨i, by rw [hw]; rfl⟩
    · obtain rfl : j = i := hex.unique j i (by rw [hj]; rfl) (by rw [hw]; rfl)
      obtain ⟨rfl, rfl⟩ : out' = out ∧ st' = st := by simpa [hw] using hj.symm
      exact hm
  | done out =>
    exact ⟨order, by simpa only [Pool.step, hw] using hl⟩

theorem exclusive_initial (splits : Fin n → Split Response) (m₀ : Mutex) :
    (initial splits m₀).Exclusive :=
  ⟨fun i _ hi => by simp [initial, Phase.holds] at hi, by simp [initial, Phase.holds]⟩

/-- What holds of every pool the workers reach. -/
structure Invariant (splits : Fin n → Split Response) (requests : Fin n → Env × Request)
    (m₀ : Mutex) (p : Pool n) : Prop where
  exclusive : p.Exclusive
  follows : p.Follows splits
  linearizes : ∃ order, p.Linearizes requests m₀ order

theorem invariant_initial (splits : Fin n → Split Response) (requests : Fin n → Env × Request)
    (m₀ : Mutex) : (initial splits m₀).Invariant splits requests m₀ where
  exclusive := exclusive_initial splits m₀
  follows := fun _ => .inl rfl
  linearizes := ⟨[], List.nodup_nil, by simp [initial, Phase.outcome], rfl, .inl ⟨rfl, rfl⟩⟩

theorem Invariant.run
    (hsplit : ∀ i, innerMethodHandler (requests i).1 (requests i).2 = (splits i).run)
    (h : p.Invariant splits requests m₀) (schedule : List (Fin n)) :
    (p.run schedule).Invariant splits requests m₀ := by
  induction schedule generalizing p with
  | nil => exact h
  | cons i schedule ih =>
    obtain ⟨order, hl⟩ := h.linearizes
    exact ih ⟨h.exclusive.step i, h.follows.step i, hl.step hsplit h.exclusive h.follows i⟩

theorem Exclusive.unlocked_of_done (h : p.Exclusive) {outs : Fin n → Except Exit Response}
    (hdone : ∀ i, p.workers i = .done (outs i)) : p.locked = false := by
  by_contra hl
  obtain ⟨i, hi⟩ := h.locked_iff.1 (by simpa using hl)
  simp [hdone i, Phase.holds] at hi


/-- A pool where every worker has returned was served one after another, in the order the
workers passed the lock. -/
theorem Invariant.serial (h : p.Invariant splits requests m₀) {outs : Fin n → Except Exit Response}
    (hdone : ∀ i, p.workers i = .done (outs i)) :
    ∃ order : List (Fin n), order.Perm (List.finRange n) ∧
      serve (order.map requests) m₀ = (order.map outs, p.mutex) := by
  obtain ⟨order, hl⟩ := h.linearizes
  refine ⟨order, (List.perm_ext_iff_of_nodup hl.nodup (List.nodup_finRange n)).2 fun i => ?_,
    Prod.ext ?_ ?_⟩
  · simp [hl.mem_iff, hdone, Phase.outcome]
  · apply List.map_injective_iff.2 (Option.some_injective _)
    simp [← hl.outcomes, hdone, Phase.outcome]
  · exact hl.mutex.eq_of_unlocked h.exclusive (h.exclusive.unlocked_of_done hdone)
end

/-- The workers run the handler itself: every request's handler is cut at its lock, so for
every requests there is a pool of workers running them, and every interleaving of it is
linearizable. -/
theorem handler_linearizable (requests : Fin n → Env × Request) (m₀ : Mutex)
    (schedule : List (Fin n)) :
    ∃ splits : Fin n → Split Response,
      (∀ i, innerMethodHandler (requests i).1 (requests i).2 = (splits i).run) ∧
        ∃ order, ((initial splits m₀).run schedule).Linearizes requests m₀ order := by
  choose splits hsplit using fun i => innerMethodHandler_split (requests i).1 (requests i).2
  exact ⟨splits, hsplit, ((invariant_initial splits requests m₀).run hsplit schedule).linearizes⟩

/-- The same pool, once every worker has returned: whatever the schedule, the requests were
served one after another. -/
theorem handler_serial (requests : Fin n → Env × Request) (m₀ : Mutex) :
    ∃ splits : Fin n → Split Response,
      (∀ i, innerMethodHandler (requests i).1 (requests i).2 = (splits i).run) ∧
        ∀ (schedule : List (Fin n)) (outs : Fin n → Except Exit Response),
          (∀ i, ((initial splits m₀).run schedule).workers i = .done (outs i)) →
          ∃ order : List (Fin n), order.Perm (List.finRange n) ∧
            serve (order.map requests) m₀ =
              (order.map outs, ((initial splits m₀).run schedule).mutex) := by
  choose splits hsplit using fun i => innerMethodHandler_split (requests i).1 (requests i).2
  exact ⟨splits, hsplit, fun schedule _ hdone =>
    ((invariant_initial splits requests m₀).run hsplit schedule).serial hdone⟩

end Pool

end LwkApp
