import Mathlib.Data.Nat.Notation

/-!
# Bit-fields of a machine word

A bit-field is an offset and a width inside a word.  Reading it extracts its
bits; assigning to it keeps every bit outside it and truncates the value to the
width, as a C compiler does for an unsigned bit-field that starts at the lowest
free bit.

## Main results

* `BitField.get_set_self` — a field reads back the bits it was assigned.
* `BitField.get_set_of_disjoint` — assigning to a field leaves the others alone.
-/

/-- A bit-field: `width` bits from bit `offset` on. -/
structure BitField (width : ℕ) where
  offset : ℕ

namespace BitField

variable {n width width' : ℕ}

/-- Read the field out of a word. -/
def get (f : BitField width) (word : BitVec n) : BitVec width :=
  word.extractLsb' f.offset width

/-- The bits of the field, shifted into place. -/
def place (n : ℕ) (f : BitField width) (x : BitVec width) : BitVec n :=
  x.setWidth n <<< f.offset

/-- Assign to the field. -/
def set (f : BitField width) (word : BitVec n) (x : BitVec width) : BitVec n :=
  word &&& ~~~(f.place n (BitVec.allOnes width)) ||| f.place n x

/-- Two fields share no bit. -/
def Disjoint (f : BitField width) (g : BitField width') : Prop :=
  f.offset + width ≤ g.offset ∨ g.offset + width' ≤ f.offset

instance (f : BitField width) (g : BitField width') : Decidable (f.Disjoint g) :=
  inferInstanceAs (Decidable (_ ∨ _))

@[simp] theorem getLsbD_get (f : BitField width) (word : BitVec n) (i : ℕ) :
    (f.get word).getLsbD i = (decide (i < width) && word.getLsbD (f.offset + i)) := by
  simp [get]

theorem getLsbD_place (f : BitField width) (x : BitVec width) {i : ℕ} (hi : i < n) :
    (f.place n x).getLsbD i = (decide (f.offset ≤ i) && x.getLsbD (i - f.offset)) := by
  have hn : i - f.offset < n := by omega
  rw [place, BitVec.getLsbD_shiftLeft, BitVec.getLsbD_setWidth]
  by_cases h : i < f.offset
  · simp [h, Nat.not_le.mpr h]
  · simp [h, hi, hn, Nat.not_lt.mp h]

/-- A bit of the word after an assignment: inside the field it is the value's,
outside it is the word's. -/
theorem getLsbD_set (f : BitField width) (word : BitVec n) (x : BitVec width) {i : ℕ}
    (hi : i < n) :
    (f.set word x).getLsbD i =
      if f.offset ≤ i ∧ i < f.offset + width then x.getLsbD (i - f.offset)
      else word.getLsbD i := by
  rw [set, BitVec.getLsbD_or, BitVec.getLsbD_and, BitVec.getLsbD_not, getLsbD_place f _ hi,
    getLsbD_place f _ hi, BitVec.getLsbD_allOnes]
  by_cases hlow : f.offset ≤ i
  · by_cases hhigh : i < f.offset + width
    · have hin : i - f.offset < width := by omega
      simp [hlow, hhigh, hin, hi]
    · have hout : ¬i - f.offset < width := by omega
      have hzero : x.getLsbD (i - f.offset) = false := BitVec.getLsbD_of_ge x _ (by omega)
      simp [hhigh, hout, hzero, hi]
  · simp [hlow, hi]

/-- **What was assigned is read back**, when the field lies inside the word. -/
theorem get_set_self (f : BitField width) (word : BitVec n) (x : BitVec width)
    (h : f.offset + width ≤ n) : f.get (f.set word x) = x := by
  apply BitVec.eq_of_getLsbD_eq
  intro i hi
  rw [getLsbD_get, getLsbD_set f word x (by omega)]
  simp [hi]

/-- **Assigning to a field leaves a disjoint one alone.** -/
theorem get_set_of_disjoint (f : BitField width) (g : BitField width') (word : BitVec n)
    (x : BitVec width) (hg : g.offset + width' ≤ n) (hd : f.Disjoint g) :
    g.get (f.set word x) = g.get word := by
  apply BitVec.eq_of_getLsbD_eq
  intro i hi
  have hout : ¬(f.offset ≤ g.offset + i ∧ g.offset + i < f.offset + width) := by
    rcases hd with hd | hd <;> omega
  rw [getLsbD_get, getLsbD_get, getLsbD_set f word x (by omega), if_neg hout]

end BitField
