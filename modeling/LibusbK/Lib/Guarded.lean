import Mathlib.Logic.Function.Basic

/-!
# A lock and what it guards

Threads stand at points of their code, some of which are inside a section that a lock guards.
`Guarded inside R held threads` says that at most one thread is inside, that `held` tells
whether one is, and that `R` holds of what the lock guards: `R none` while nobody is inside, and
`R (some p)` while a thread is inside at the point `p`.

A step of a thread is one of four: it enters, it moves on inside, it leaves, or it is outside
before and after.  Each has a rule, which asks for nothing but what the step does to what is
guarded.

## Main results

* `Guarded.enter`, `Guarded.move`, `Guarded.leave`, `Guarded.outside` — the rules.
-/

variable {ι α : Type*} {inside : α → Prop} {R R' : Option α → Prop} {held : Bool}
  {threads : ι → α}

/-- At most one thread is inside, `held` says whether one is, and `R` holds for it. -/
structure Guarded (inside : α → Prop) (R : Option α → Prop) (held : Bool) (threads : ι → α) :
    Prop where
  unique : ∀ i j, inside (threads i) → inside (threads j) → i = j
  held_iff : held = true ↔ ∃ i, inside (threads i)
  free : (∀ i, ¬inside (threads i)) → R none
  taken : ∀ i, inside (threads i) → R (some (threads i))

namespace Guarded

/-- Whatever holds wherever the one thread inside may be, and when there is none. -/
theorem elim {P : Prop} (h : Guarded inside R held threads)
    (hfree : (∀ i, ¬inside (threads i)) → R none → P)
    (htaken : ∀ i, inside (threads i) → R (some (threads i)) → P) : P := by
  by_cases hin : ∃ i, inside (threads i)
  · obtain ⟨i, hi⟩ := hin
    exact htaken i hi (h.taken i hi)
  · have hnone : ∀ i, ¬inside (threads i) := fun i hi => hin ⟨i, hi⟩
    exact hfree hnone (h.free hnone)

theorem not_inside_of_not_held (h : Guarded inside R false threads) (i : ι) :
    ¬inside (threads i) := by
  intro hi
  cases h.held_iff.mpr ⟨i, hi⟩

/-- The threads besides the one inside are outside. -/
theorem not_inside_of_ne (h : Guarded inside R held threads) {i j : ι}
    (hi : inside (threads i)) (hne : j ≠ i) : ¬inside (threads j) :=
  fun hj => hne (h.unique j i hj hi)

variable [DecidableEq ι]

theorem inside_update {i j : ι} {a : α} (hothers : ∀ k, k ≠ i → ¬inside (threads k))
    (hj : inside (Function.update threads i a j)) : j = i := by
  by_contra hne
  rw [Function.update_of_ne hne] at hj
  exact hothers j hne hj

/-- One thread is inside, at the point `a`. -/
theorem of_only {i : ι} {a : α} (hothers : ∀ k, k ≠ i → ¬inside (threads k)) (ha : inside a)
    (hR : R (some a)) : Guarded inside R true (Function.update threads i a) where
  unique j k hj hk := (inside_update hothers hj).trans (inside_update hothers hk).symm
  held_iff := by
    refine ⟨fun _ => ⟨i, ?_⟩, fun _ => rfl⟩
    rw [Function.update_self]
    exact ha
  free hnone := by
    refine absurd ?_ (hnone i)
    rw [Function.update_self]
    exact ha
  taken j hj := by
    rw [inside_update hothers hj, Function.update_self]
    exact hR

/-- A thread takes the lock, which was free. -/
theorem enter (h : Guarded inside R false threads) (i : ι) {a : α} (ha : inside a)
    (hR : R none → R' (some a)) : Guarded inside R' true (Function.update threads i a) :=
  of_only (fun k _ => h.not_inside_of_not_held k) ha (hR (h.free h.not_inside_of_not_held))

/-- The thread inside goes on there. -/
theorem move (h : Guarded inside R held threads) {i : ι} (hi : inside (threads i)) {a : α}
    (ha : inside a) (hR : R (some (threads i)) → R' (some a)) :
    Guarded inside R' held (Function.update threads i a) := by
  have hheld : held = true := h.held_iff.mpr ⟨i, hi⟩
  rw [hheld]
  exact of_only (fun k hk => h.not_inside_of_ne hi hk) ha (hR (h.taken i hi))

/-- The thread inside gives the lock back. -/
theorem leave (h : Guarded inside R held threads) {i : ι} (hi : inside (threads i)) {a : α}
    (ha : ¬inside a) (hR : R (some (threads i)) → R' none) :
    Guarded inside R' false (Function.update threads i a) := by
  have hnone : ∀ j, ¬inside (Function.update threads i a j) := by
    intro j hj
    have hji : j = i := inside_update (fun k hk => h.not_inside_of_ne hi hk) hj
    rw [hji, Function.update_self] at hj
    exact ha hj
  refine ⟨fun j _ hj => absurd hj (hnone j), ?_, fun _ => hR (h.taken i hi),
    fun j hj => absurd hj (hnone j)⟩
  refine ⟨fun hheld => (Bool.false_ne_true hheld).elim, ?_⟩
  rintro ⟨j, hj⟩
  exact absurd hj (hnone j)

/-- A thread that is outside stays there. -/
theorem outside (h : Guarded inside R held threads) {i : ι} (hi : ¬inside (threads i)) {a : α}
    (ha : ¬inside a) : Guarded inside R held (Function.update threads i a) := by
  have hsame : ∀ j, inside (Function.update threads i a j) ↔ inside (threads j) := by
    intro j
    by_cases hji : j = i
    · rw [hji, Function.update_self]
      exact iff_of_false ha hi
    · rw [Function.update_of_ne hji]
  refine ⟨fun j k hj hk => h.unique j k ((hsame j).mp hj) ((hsame k).mp hk),
    h.held_iff.trans (exists_congr fun j => (hsame j).symm),
    fun hnone => h.free fun j hj => hnone j ((hsame j).mpr hj), ?_⟩
  intro j hj
  have hin : inside (threads j) := (hsame j).mp hj
  have hne : j ≠ i := fun heq => hi (heq ▸ hin)
  rw [Function.update_of_ne hne]
  exact h.taken j hin

end Guarded
