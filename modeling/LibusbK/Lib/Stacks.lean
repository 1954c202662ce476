import Mathlib.Data.Nat.Notation

/-!
# The frames of all threads

Threads with call stacks: `tally p threads` counts the frames of all the stacks that
satisfy `p`.  A thread that calls, returns or moves on within a call replaces its own
stack, and the tally changes by what is replaced.

## Main results

* `tally_set` — the tally after one stack is replaced.
* `tally_next` — the tally after a thread has left its top frame for others.
* `tally_pos_iff` — a frame that is counted is the frame of some thread.
-/

namespace Stacks

variable {α : Type*}

/-- The number of frames that satisfy `p`. -/
def tally (p : α → Bool) (threads : List (List α)) : ℕ := threads.flatten.countP p

@[simp] theorem tally_nil (p : α → Bool) : tally p [] = 0 := rfl

@[simp] theorem tally_cons (p : α → Bool) (stack : List α) (threads : List (List α)) :
    tally p (stack :: threads) = stack.countP p + tally p threads := by
  unfold tally
  rw [List.flatten_cons, List.countP_append]

/-- One stack is replaced. -/
theorem tally_set (p : α → Bool) {threads : List (List α)} {t : ℕ} {old : List α}
    (h : threads[t]? = some old) (new : List α) :
    tally p (threads.set t new) + old.countP p = tally p threads + new.countP p := by
  induction threads generalizing t with
  | nil => cases h
  | cons stack threads ih =>
    cases t with
    | zero =>
      cases h
      rw [List.set_cons_zero, tally_cons, tally_cons]
      omega
    | succ t =>
      have hrest := ih (t := t) h
      rw [List.set_cons_succ, tally_cons, tally_cons]
      omega

/-- A thread leaves its top frame. -/
theorem tally_next (p : α → Bool) {threads : List (List α)} {t : ℕ} {top : α} {rest : List α}
    (h : threads[t]? = some (top :: rest)) (next : Option α) :
    tally p (threads.set t (next.toList ++ rest)) + (if p top then 1 else 0) =
      tally p threads + next.toList.countP p := by
  have hset := tally_set p h (next.toList ++ rest)
  rw [List.countP_cons, List.countP_append] at hset
  omega

/-- A thread calls. -/
theorem tally_call (p : α → Bool) {threads : List (List α)} {t : ℕ} {stack : List α}
    (h : threads[t]? = some stack) (top : α) :
    tally p (threads.set t (top :: stack)) = tally p threads + (if p top then 1 else 0) := by
  have hset := tally_set p h (top :: stack)
  rw [List.countP_cons] at hset
  omega

theorem tally_pos_iff {p : α → Bool} {threads : List (List α)} :
    0 < tally p threads ↔
      ∃ (t : ℕ) (stack : List α), threads[t]? = some stack ∧ ∃ f ∈ stack, p f = true := by
  unfold tally
  rw [List.countP_pos_iff]
  constructor
  · rintro ⟨f, hf, hp⟩
    obtain ⟨stack, hstack, hf⟩ := List.mem_flatten.mp hf
    obtain ⟨t, ht⟩ := List.getElem?_of_mem hstack
    exact ⟨t, stack, ht, f, hf, hp⟩
  · rintro ⟨t, stack, ht, f, hf, hp⟩
    exact ⟨f, List.mem_flatten.mpr ⟨stack, List.mem_of_getElem? ht, hf⟩, hp⟩

theorem tally_pos {p : α → Bool} {threads : List (List α)} {t : ℕ} {stack : List α} {f : α}
    (ht : threads[t]? = some stack) (hf : f ∈ stack) (hp : p f = true) : 0 < tally p threads :=
  tally_pos_iff.mpr ⟨t, stack, ht, f, hf, hp⟩

end Stacks
