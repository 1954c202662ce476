import Mathlib.Data.Nat.Notation

/-!
# Windows of a list

A buffer is a list of elements; a window is the part of it from an offset on, of
a given length.  `window` reads one, `writeAt` overwrites one.

## Main results

* `length_writeAt` — overwriting inside a buffer keeps its length.
* `take_writeAt` — a prefix that ends where the write begins is kept.
* `take_add_writeAt` — a prefix that ends where the write ends is the old prefix
  followed by what was written.
* `window_split` — a window is its first elements followed by the rest of it.
* `window_writeAt_self`, `window_writeAt_of_disjoint` — a window after a write.
-/

namespace Window

variable {α : Type*}

/-- The `len` elements of `xs` from `ofs` on, as far as `xs` reaches. -/
def window (ofs len : ℕ) (xs : List α) : List α := (xs.drop ofs).take len

/-- `xs` with `ys` written over it from `ofs` on. -/
def writeAt (ofs : ℕ) (ys xs : List α) : List α :=
  xs.take ofs ++ (ys ++ xs.drop (ofs + ys.length))

@[simp] theorem window_zero_length (ofs : ℕ) (xs : List α) : window ofs 0 xs = [] := by
  simp [window]

theorem length_window {ofs len : ℕ} {xs : List α} (h : ofs + len ≤ xs.length) :
    (window ofs len xs).length = len := by
  rw [window, List.length_take, List.length_drop]
  omega

/-- A window is its first `n` elements followed by the rest of it. -/
theorem window_split (ofs : ℕ) {len n : ℕ} (xs : List α) (h : n ≤ len) :
    window ofs len xs = window ofs n xs ++ window (ofs + n) (len - n) xs := by
  obtain ⟨m, rfl⟩ := Nat.exists_eq_add_of_le h
  rw [window, window, window, List.take_add, List.drop_drop, Nat.add_sub_cancel_left]

@[simp] theorem writeAt_nil (ofs : ℕ) (xs : List α) : writeAt ofs [] xs = xs := by
  simp [writeAt]

theorem length_writeAt {ofs : ℕ} {ys xs : List α} (h : ofs + ys.length ≤ xs.length) :
    (writeAt ofs ys xs).length = xs.length := by
  simp only [writeAt, List.length_append, List.length_take, List.length_drop]
  omega

/-- What stands before a write is kept. -/
theorem take_writeAt {ofs : ℕ} (ys : List α) {xs : List α} (h : ofs ≤ xs.length) :
    (writeAt ofs ys xs).take ofs = xs.take ofs := by
  rw [writeAt, List.take_append_of_le_length (by rw [List.length_take]; omega),
    List.take_take, Nat.min_self]

/-- Up to where a write ends stand the old prefix and what was written. -/
theorem take_add_writeAt {ofs : ℕ} (ys : List α) {xs : List α} (h : ofs ≤ xs.length) :
    (writeAt ofs ys xs).take (ofs + ys.length) = xs.take ofs ++ ys := by
  rw [writeAt, ← List.append_assoc]
  exact List.take_left' (by rw [List.length_append, List.length_take]; omega)

/-- A window is what a prefix that ends with it ends in. -/
theorem window_eq_drop_take (ofs len : ℕ) (xs : List α) :
    window ofs len xs = (xs.take (ofs + len)).drop ofs := by
  rw [List.drop_take, Nat.add_sub_cancel_left]
  rfl

/-- A window that has just been written reads what was written. -/
theorem window_writeAt_self {ofs : ℕ} {ys xs : List α} (h : ofs + ys.length ≤ xs.length) :
    window ofs ys.length (writeAt ofs ys xs) = ys := by
  have hlen : (xs.take ofs).length = ofs := by
    rw [List.length_take]
    omega
  rw [window_eq_drop_take, take_add_writeAt ys (by omega), List.drop_left' hlen]

/-- A window at the start of the buffer, just written, reads what was written. -/
theorem window_zero_writeAt (ys xs : List α) : window 0 ys.length (writeAt 0 ys xs) = ys := by
  simp [window, writeAt]

/-- A window reads the same after a write beside it. -/
theorem window_writeAt_of_disjoint {ofs ofs' len : ℕ} {ys xs : List α}
    (h : ofs' + ys.length ≤ xs.length) (hd : ofs + len ≤ ofs' ∨ ofs' + ys.length ≤ ofs) :
    window ofs len (writeAt ofs' ys xs) = window ofs len xs := by
  rcases hd with hd | hd
  · have htake := congrArg (List.take (ofs + len)) (take_writeAt ys (by omega : ofs' ≤ xs.length))
    rw [List.take_take, List.take_take, Nat.min_eq_left hd] at htake
    rw [window_eq_drop_take, htake, ← window_eq_drop_take]
  · have hlen : (xs.take ofs' ++ ys).length = ofs' + ys.length := by
      rw [List.length_append, List.length_take]
      omega
    have hdrop : (writeAt ofs' ys xs).drop ofs = xs.drop ofs := by
      rw [writeAt, ← List.append_assoc, List.drop_append, List.drop_eq_nil_of_le (by omega), hlen,
        List.nil_append, List.drop_drop]
      congr 1
      omega
    rw [window, hdrop, window]

/-- A window inside a buffer does not see what follows the buffer. -/
theorem window_append {ofs len : ℕ} {xs : List α} (h : ofs + len ≤ xs.length) (ys : List α) :
    window ofs len (xs ++ ys) = window ofs len xs := by
  rw [window_eq_drop_take, List.take_append_of_le_length h, ← window_eq_drop_take]

end Window
