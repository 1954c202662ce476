import Mathlib.Data.Nat.Notation

/-!
# Flags of a machine word

A mask names some flags of a word.  A C program that tests `flags & mask` asks for any of them;
for a mask of one flag that is the same as all of them.

## Main results

* `Flags.any_or`, `Flags.all_or` — masks that are combined.
* `Flags.all_iff_any` — a mask of one flag.
* `Flags.any_xor_of_disjoint`, `Flags.any_xor_self` — the flags after one is toggled.
-/

namespace Flags

variable {n : ℕ}

/-- One of the flags of the mask is set. -/
def Any (mask flags : BitVec n) : Prop := flags &&& mask ≠ 0#n

/-- All flags of the mask are set. -/
def All (mask flags : BitVec n) : Prop := flags &&& mask = mask

instance (mask flags : BitVec n) : Decidable (Any mask flags) :=
  inferInstanceAs (Decidable (_ ≠ _))

instance (mask flags : BitVec n) : Decidable (All mask flags) :=
  inferInstanceAs (Decidable (_ = _))

theorem any_iff {mask flags : BitVec n} :
    Any mask flags ↔ ∃ i, mask.getLsbD i = true ∧ flags.getLsbD i = true := by
  constructor
  · intro h
    refine Classical.byContradiction fun hnone => h (BitVec.eq_of_getLsbD_eq fun i hi => ?_)
    rw [BitVec.getLsbD_and, BitVec.getLsbD_zero]
    cases hmask : mask.getLsbD i with
    | false => rw [Bool.and_false]
    | true =>
      cases hflag : flags.getLsbD i with
      | false => rfl
      | true => exact absurd ⟨i, hmask, hflag⟩ hnone
  · rintro ⟨i, hmask, hflag⟩ h
    have hbit := congrArg (fun word => word.getLsbD i) h
    simp [hmask, hflag] at hbit

theorem all_iff {mask flags : BitVec n} :
    All mask flags ↔ ∀ i, mask.getLsbD i = true → flags.getLsbD i = true := by
  constructor
  · intro h i hmask
    have hbit := congrArg (fun word => word.getLsbD i) h
    simpa [hmask] using hbit
  · intro h
    refine BitVec.eq_of_getLsbD_eq fun i hi => ?_
    rw [BitVec.getLsbD_and]
    cases hmask : mask.getLsbD i with
    | false => rw [Bool.and_false]
    | true => rw [h i hmask, Bool.and_true]

theorem any_or {mask mask' flags : BitVec n} :
    Any (mask ||| mask') flags ↔ Any mask flags ∨ Any mask' flags := by
  simp only [any_iff, BitVec.getLsbD_or, Bool.or_eq_true, or_and_right, exists_or]

theorem all_or {mask mask' flags : BitVec n} :
    All (mask ||| mask') flags ↔ All mask flags ∧ All mask' flags := by
  simp only [all_iff, BitVec.getLsbD_or, Bool.or_eq_true, or_imp, forall_and]

/-! ### One flag -/

theorem any_twoPow {i : ℕ} {flags : BitVec n} :
    Any (BitVec.twoPow n i) flags ↔ flags.getLsbD i = true := by
  rw [any_iff]
  constructor
  · rintro ⟨j, hmask, hflag⟩
    rw [BitVec.getLsbD_twoPow, Bool.and_eq_true, decide_eq_true_eq, decide_eq_true_eq] at hmask
    rw [hmask.2]
    exact hflag
  · intro h
    refine ⟨i, ?_, h⟩
    rw [BitVec.getLsbD_twoPow, Bool.and_eq_true, decide_eq_true_eq, decide_eq_true_eq]
    exact ⟨BitVec.lt_of_getLsbD h, rfl⟩

/-- To have any flag of a mask of one is to have all. -/
theorem all_iff_any {i : ℕ} (hi : i < n) {flags : BitVec n} :
    All (BitVec.twoPow n i) flags ↔ Any (BitVec.twoPow n i) flags := by
  rw [any_twoPow, all_iff]
  constructor
  · intro h
    refine h i ?_
    rw [BitVec.getLsbD_twoPow, decide_eq_true hi, decide_eq_true rfl]
    rfl
  · intro h j hmask
    rw [BitVec.getLsbD_twoPow, Bool.and_eq_true, decide_eq_true_eq, decide_eq_true_eq] at hmask
    rw [← hmask.2]
    exact h

/-- Another flag is toggled. -/
theorem any_xor_of_disjoint {mask toggled flags : BitVec n} (h : mask &&& toggled = 0#n) :
    Any mask (flags ^^^ toggled) ↔ Any mask flags := by
  have hbit : ∀ i, mask.getLsbD i = true → toggled.getLsbD i = false := by
    intro i hmask
    have hzero := congrArg (fun word => word.getLsbD i) h
    simpa [hmask] using hzero
  rw [any_iff, any_iff]
  refine exists_congr fun i => and_congr_right fun hmask => ?_
  rw [BitVec.getLsbD_xor, hbit i hmask, Bool.xor_false]

/-- The flag itself is toggled. -/
theorem any_xor_self {i : ℕ} (hi : i < n) {flags : BitVec n} :
    Any (BitVec.twoPow n i) (flags ^^^ BitVec.twoPow n i) ↔ ¬Any (BitVec.twoPow n i) flags := by
  rw [any_twoPow, any_twoPow, BitVec.getLsbD_xor, BitVec.getLsbD_twoPow, decide_eq_true hi,
    decide_eq_true rfl]
  simp

end Flags
