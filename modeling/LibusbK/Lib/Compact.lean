import LibusbK.Lib.Window
import Mathlib.Data.List.Basic

/-!
# Compaction inside a buffer

A buffer holds pieces of data at increasing offsets, with gaps between them.
`compact` moves each piece down to where the one before it ended, in the order of
the offsets and inside the same buffer, so a piece is moved onto gaps and onto
what has been moved already, never onto a piece that is still to come.

## Main results

* `take_compact` — after the moves the buffer begins with all the pieces.
* `compact_of_full` — pieces without gaps are not moved.
-/

namespace Window

variable {α : Type*}

/-- The pieces lie between `a` and `b`, each behind the end of the one before it. -/
inductive Spaced : ℕ → ℕ → List (ℕ × ℕ) → Prop
  | nil {a b : ℕ} (h : a ≤ b) : Spaced a b []
  | cons {a b ofs len : ℕ} {ps : List (ℕ × ℕ)} (h : a ≤ ofs) (hps : Spaced (ofs + len) b ps) :
      Spaced a b ((ofs, len) :: ps)

/-- The length of the pieces together. -/
def total (ps : List (ℕ × ℕ)) : ℕ := ps.foldr (fun p n => p.2 + n) 0

@[simp] theorem total_nil : total [] = 0 := rfl

@[simp] theorem total_cons (ofs len : ℕ) (ps : List (ℕ × ℕ)) :
    total ((ofs, len) :: ps) = len + total ps := rfl

/-- The contents of the pieces, one after the other. -/
def pieces (xs : List α) (ps : List (ℕ × ℕ)) : List α := ps.flatMap fun p => window p.1 p.2 xs

/-- Move the pieces down, the first one to `at`. -/
def compact : List (ℕ × ℕ) → ℕ → List α → List α
  | [], _, xs => xs
  | (ofs, len) :: ps, dst, xs =>
    compact ps (dst + len)
      (if 0 < len ∧ dst < ofs then writeAt dst (window ofs len xs) xs else xs)

theorem Spaced.le {a b : ℕ} {ps : List (ℕ × ℕ)} (h : Spaced a b ps) : a + total ps ≤ b := by
  induction h with
  | nil h => exact h
  | cons h _ ih =>
    rw [total_cons]
    omega

/-- What stands behind a write is kept. -/
theorem drop_writeAt {ofs n : ℕ} {ys xs : List α} (hys : ofs + ys.length ≤ n)
    (hxs : ofs + ys.length ≤ xs.length) : (writeAt ofs ys xs).drop n = xs.drop n := by
  obtain ⟨m, rfl⟩ := Nat.exists_eq_add_of_le hys
  have hlen : (xs.take ofs ++ ys).length = ofs + ys.length := by
    rw [List.length_append, List.length_take]
    omega
  rw [writeAt, ← List.append_assoc, List.drop_append, hlen, List.drop_drop,
    List.drop_eq_nil_of_le (by omega), Nat.add_sub_cancel_left, List.nil_append]

/-- Pieces behind a write keep their contents. -/
theorem pieces_writeAt {ofs a b : ℕ} {ys xs : List α} {ps : List (ℕ × ℕ)} (h : Spaced a b ps)
    (hys : ofs + ys.length ≤ a) (hxs : ofs + ys.length ≤ xs.length) :
    pieces (writeAt ofs ys xs) ps = pieces xs ps := by
  induction h with
  | nil h => rfl
  | cons h _ ih =>
    unfold pieces window at ih ⊢
    rw [List.flatMap_cons, List.flatMap_cons, ih (by omega), drop_writeAt (by omega) hxs]

/-- **Compaction.**  The buffer begins with what stood before `dst`, and then holds
all the pieces as they were. -/
theorem take_compact {a b : ℕ} {ps : List (ℕ × ℕ)} (h : Spaced a b ps) :
    ∀ {dst : ℕ} {xs : List α}, dst ≤ a → b ≤ xs.length →
      (compact ps dst xs).take (dst + total ps) = xs.take dst ++ pieces xs ps := by
  induction h with
  | nil h =>
    intro dst xs _ _
    simp [compact, pieces]
  | @cons a b ofs len ps h hps ih =>
    intro dst xs hdst hb
    have hroom : ofs + len ≤ xs.length :=
      Nat.le_trans (Nat.le_trans (Nat.le_add_right _ _) hps.le) hb
    rw [compact, total_cons, ← Nat.add_assoc]
    split_ifs with hmove
    · have hlen : (window ofs len xs).length = len := length_window hroom
      have hin : dst + (window ofs len xs).length ≤ xs.length := by omega
      rw [ih (by omega) (by rw [length_writeAt hin]; exact hb),
        pieces_writeAt hps (by omega) hin]
      -- what has been moved stands right behind what was there before
      nth_rewrite 1 [← hlen]
      rw [take_add_writeAt _ (by omega), List.append_assoc]
      rfl
    · -- the piece is empty, or stands where it should
      have hstay : xs.take (dst + len) = xs.take dst ++ window ofs len xs := by
        rcases Nat.eq_zero_or_pos len with rfl | hpos
        · simp
        · obtain rfl : dst = ofs := by omega
          exact List.take_add
      rw [ih (by omega) hb, hstay, List.append_assoc]
      rfl

/-- Pieces that take all the room there is stand where they should. -/
theorem compact_of_full {a b : ℕ} {ps : List (ℕ × ℕ)} (h : Spaced a b ps) :
    ∀ {dst : ℕ} (xs : List α), dst ≤ a → dst + total ps = b → compact ps dst xs = xs := by
  induction h with
  | nil h => exact fun _ _ _ => rfl
  | @cons a b ofs len ps h hps ih =>
    intro dst xs hdst hfull
    rw [total_cons] at hfull
    have hle := hps.le
    rw [compact, if_neg (by omega), ih xs (by omega) (by omega)]

end Window
