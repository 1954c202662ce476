import Mathlib.Algebra.Order.BigOperators.Group.Finset
import Mathlib.Data.Fintype.Basic

/-!
# Tokens

Holders of a finite type each hold a list of tokens.  Where a reference count
is to be the number of references that somebody holds, a reference is a token,
and a step that moves references replaces what one holder holds.

## Main results

* `total_update` — the total after one holder has changed.
* `total_pos_iff` — a token that is counted is one that somebody holds.
* `count_add_count_le_total` — what two holders hold.
-/

namespace Tokens

variable {ι σ α : Type*} [Fintype ι] [DecidableEq α]

/-- How many of the tokens of all holders are `x`; `tokens` is what a holder in a given
state holds. -/
def total (tokens : σ → List α) (holders : ι → σ) (x : α) : ℕ :=
  ∑ i, (tokens (holders i)).count x

variable {tokens : σ → List α} {holders : ι → σ} {x : α}

theorem total_pos_iff : 0 < total tokens holders x ↔ ∃ i, x ∈ tokens (holders i) := by
  unfold total
  rw [Finset.sum_pos_iff]
  simp only [Finset.mem_univ, true_and, List.count_pos_iff]

theorem total_pos {i : ι} (h : x ∈ tokens (holders i)) : 0 < total tokens holders x :=
  total_pos_iff.mpr ⟨i, h⟩

theorem count_le_total (tokens : σ → List α) (holders : ι → σ) (i : ι) (x : α) :
    (tokens (holders i)).count x ≤ total tokens holders x :=
  Finset.single_le_sum (f := fun j => (tokens (holders j)).count x) (fun _ _ => Nat.zero_le _)
    (Finset.mem_univ i)

variable [DecidableEq ι]

/-- One holder changes. -/
theorem total_update (tokens : σ → List α) (holders : ι → σ) (i : ι) (new : σ) (x : α) :
    total tokens (Function.update holders i new) x + (tokens (holders i)).count x =
      total tokens holders x + (tokens new).count x := by
  have hrest : ∑ j ∈ Finset.univ.erase i, (tokens (Function.update holders i new j)).count x =
      ∑ j ∈ Finset.univ.erase i, (tokens (holders j)).count x := by
    refine Finset.sum_congr rfl fun j hj => ?_
    rw [Function.update_of_ne (Finset.ne_of_mem_erase hj)]
  unfold total
  rw [← Finset.add_sum_erase _ _ (Finset.mem_univ i), Function.update_self, hrest,
    ← Finset.add_sum_erase Finset.univ (fun j => (tokens (holders j)).count x) (Finset.mem_univ i)]
  omega

/-- What two holders hold is part of the total. -/
theorem count_add_count_le_total (tokens : σ → List α) (holders : ι → σ) {i j : ι} (hij : i ≠ j)
    (x : α) : (tokens (holders i)).count x + (tokens (holders j)).count x ≤
      total tokens holders x := by
  have hle := Finset.sum_le_sum_of_subset (f := fun k => (tokens (holders k)).count x)
    (Finset.subset_univ {i, j})
  rwa [Finset.sum_pair hij] at hle

end Tokens
