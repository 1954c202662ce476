import LibusbK.Lib.Window
import Mathlib.Algebra.Group.Nat.Defs

/-!
# Little-endian fields of a byte buffer

A field is a number of bytes from an offset on, the least significant one first.
Storing a number in a field cuts it to the width of the field and leaves the other
bytes of the buffer alone.

## Main results

* `decode_encode` — a number that fits its bytes is read back from them.
* `load_store_self` — a field reads back the number stored in it.
* `load_store_of_disjoint` — storing in a field leaves the others alone.
* `load_append` — what follows a buffer is not read.
-/

namespace LittleEndian

open Window

/-- The `width` low bytes of `n`. -/
def encode : ℕ → ℕ → List UInt8
  | 0, _ => []
  | width + 1, n => UInt8.ofNat n :: encode width (n / 256)

/-- The number some bytes stand for. -/
def decode : List UInt8 → ℕ
  | [] => 0
  | b :: bs => b.toNat + 256 * decode bs

@[simp] theorem length_encode (width n : ℕ) : (encode width n).length = width := by
  induction width generalizing n with
  | zero => rfl
  | succ width ih => rw [encode, List.length_cons, ih]

theorem decode_encode_mod (width n : ℕ) : decode (encode width n) = n % 256 ^ width := by
  induction width generalizing n with
  | zero => exact (Nat.mod_one n).symm
  | succ width ih =>
    have hlow : (UInt8.ofNat n).toNat = n % 256 := UInt8.toNat_ofNat'
    rw [encode, decode, ih, hlow, Nat.pow_succ', Nat.mod_mul]

/-- **A number that fits its bytes is read back from them.** -/
theorem decode_encode {width n : ℕ} (h : n < 256 ^ width) : decode (encode width n) = n := by
  rw [decode_encode_mod, Nat.mod_eq_of_lt h]

theorem decode_replicate_zero (n : ℕ) : decode (List.replicate n 0) = 0 := by
  induction n with
  | zero => rfl
  | succ n ih =>
    rw [List.replicate_succ, decode, ih]
    rfl

/-- Read the field of `width` bytes at `ofs`. -/
def load (ofs width : ℕ) (buffer : List UInt8) : ℕ := decode (window ofs width buffer)

/-- Store in the field of `width` bytes at `ofs`. -/
def store (ofs width n : ℕ) (buffer : List UInt8) : List UInt8 :=
  writeAt ofs (encode width n) buffer

section

variable {ofs ofs' width width' n : ℕ} {buffer : List UInt8}

theorem length_store (h : ofs + width ≤ buffer.length) :
    (store ofs width n buffer).length = buffer.length :=
  length_writeAt (by rwa [length_encode])

theorem load_store_self (h : ofs + width ≤ buffer.length) (hn : n < 256 ^ width) :
    load ofs width (store ofs width n buffer) = n := by
  have hfits : ofs + (encode width n).length ≤ buffer.length := by rwa [length_encode]
  have hwindow := window_writeAt_self hfits
  rw [length_encode] at hwindow
  rw [load, store, hwindow, decode_encode hn]

theorem load_store_of_disjoint (h : ofs' + width' ≤ buffer.length)
    (hd : ofs + width ≤ ofs' ∨ ofs' + width' ≤ ofs) :
    load ofs width (store ofs' width' n buffer) = load ofs width buffer := by
  rw [load, store, window_writeAt_of_disjoint (by rwa [length_encode]) (by rwa [length_encode])]
  rfl

theorem load_replicate_zero (ofs width n : ℕ) : load ofs width (List.replicate n 0) = 0 := by
  rw [load, window, List.drop_replicate, List.take_replicate, decode_replicate_zero]

theorem load_append (h : ofs + width ≤ buffer.length) (rest : List UInt8) :
    load ofs width (buffer ++ rest) = load ofs width buffer := by
  rw [load, window_append h]
  rfl

end

end LittleEndian
