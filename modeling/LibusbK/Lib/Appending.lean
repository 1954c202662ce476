import Mathlib.Data.List.Basic

/-!
# Loops that append to a list

A state has a list among other things, and a loop over some elements appends to it.  What is
appended is given as a predicate, so that neither the order nor how often matters.

## Main definition

* `Adds` — what the list has in one state besides what it has in another.

## Main result

* `adds_foldl` — a loop appends what its passes append, if each keeps an invariant.
-/

namespace Appending

variable {S α β : Type*} {list : S → List β} {s s' : S} {e e' : β → Prop}

/-- The list of the second state has the elements of the first and those of `e`. -/
def Adds (list : S → List β) (s s' : S) (e : β → Prop) : Prop :=
  ∀ x, x ∈ list s' ↔ x ∈ list s ∨ e x

theorem Adds.congr (h : Adds list s s' e) (he : ∀ x, e x ↔ e' x) : Adds list s s' e' :=
  fun x => (h x).trans (or_congr_right (he x))

/-- Nothing is appended. -/
theorem Adds.nothing (h : list s' = list s) (he : ∀ x, ¬e x) : Adds list s s' e := by
  intro x
  rw [h]
  exact (or_iff_left (he x)).symm

/-- What is appended to the empty list. -/
theorem Adds.mem_iff (h : Adds list s s' e) (hnil : list s = []) {x : β} : x ∈ list s' ↔ e x := by
  rw [h x, hnil]
  exact or_iff_right List.not_mem_nil

/-- **A loop that appends to a list**, where each pass keeps an invariant. -/
theorem adds_foldl (list : S → List β) (Inv : S → Prop) {f : S → α → S} {e : α → β → Prop}
    {l : List α} (hstep : ∀ a ∈ l, ∀ s, Inv s → Inv (f s a) ∧ Adds list s (f s a) (e a))
    {s : S} (hs : Inv s) :
    Inv (l.foldl f s) ∧ Adds list s (l.foldl f s) fun x => ∃ a ∈ l, e a x := by
  induction l generalizing s with
  | nil => exact ⟨hs, .nothing rfl fun x => by simp⟩
  | cons a l ih =>
    obtain ⟨hinv, hadds⟩ := hstep a List.mem_cons_self s hs
    obtain ⟨hinv', hadds'⟩ := ih (fun b hb => hstep b (List.mem_cons_of_mem a hb)) hinv
    refine ⟨hinv', fun x => ?_⟩
    rw [List.foldl_cons, hadds' x, hadds x, or_assoc]
    simp only [List.mem_cons, exists_eq_or_imp]

end Appending
