import Mathlib.Data.Nat.Digits.Lemmas
import Mathlib.Data.List.TakeWhile

/-!
# Hexadecimal fields, printed and scanned

A format is a list of literal characters and of hexadecimal fields of a width, `%08X` being
one of width eight.  `print` is what `sprintf` makes of it: a field is filled up with zeros and
grows if the number needs more.  `scan` is what `sscanf` makes of it: a field skips white
space, has at most its width of characters, may start with a sign and with `0x`, and a
conversion that fails ends the scan.  Text is a list of bytes and has no NUL in it.

## Main definitions

* `Directive`, `print`, `scan` — formats and what they do.
* `hexValue`, `hexNumber` — the number some digits stand for.
* `Fits` — numbers that need no more than the widths of their fields.

## Main results

* `scanHex_append` — as many digits as the width are scanned, and no more.
* `scan_print` — **what has been printed is scanned back.**
-/

namespace HexFormat

/-- Text, without its terminating NUL. -/
abbrev Text := List UInt8

/-! ### Digits -/

/-- The digit of a number below 16, as `%X` prints it. -/
def digitChar (d : ℕ) : UInt8 := if d < 10 then UInt8.ofNat (0x30 + d) else UInt8.ofNat (0x37 + d)

/-- The number of a digit of either case. -/
def hexValue (c : UInt8) : Option ℕ :=
  if 0x30 ≤ c ∧ c ≤ 0x39 then some (c.toNat - 0x30)
  else if 0x41 ≤ c ∧ c ≤ 0x46 then some (c.toNat - 0x37)
  else if 0x61 ≤ c ∧ c ≤ 0x66 then some (c.toNat - 0x57)
  else none

def isHexDigit (c : UInt8) : Bool := (hexValue c).isSome

/-- The number that some digits stand for, the most significant one first. -/
def hexNumber (digits : Text) : ℕ :=
  Nat.ofDigits 16 (digits.reverse.map fun c => (hexValue c).getD 0)

/-- `isspace`. -/
def isSpace (c : UInt8) : Bool := c == 0x20 || (0x09 ≤ c && c ≤ 0x0D)

@[simp] theorem hexValue_digitChar {d : ℕ} (h : d < 16) : hexValue (digitChar d) = some d := by
  have hall : ∀ d : Fin 16, hexValue (digitChar d) = some d.val := by decide
  exact hall ⟨d, h⟩

theorem isHexDigit_digitChar {d : ℕ} (h : d < 16) : isHexDigit (digitChar d) = true := by
  rw [isHexDigit, hexValue_digitChar h]
  rfl

/-- A digit is none of the other characters that may start a field. -/
theorem ne_of_isHexDigit {c : UInt8} (h : isHexDigit c = true) :
    isSpace c = false ∧ c ≠ 0x2B ∧ c ≠ 0x2D ∧ c ≠ 0x78 ∧ c ≠ 0x58 := by
  have hall : ∀ x : BitVec 8, isHexDigit (UInt8.ofBitVec x) = true →
      isSpace (UInt8.ofBitVec x) = false ∧ UInt8.ofBitVec x ≠ 0x2B ∧ UInt8.ofBitVec x ≠ 0x2D ∧
        UInt8.ofBitVec x ≠ 0x78 ∧ UInt8.ofBitVec x ≠ 0x58 := by decide
  exact hall c.toBitVec h

theorem hexValue_getD_lt (c : UInt8) : (hexValue c).getD 0 < 16 := by
  have hall : ∀ x : BitVec 8, (hexValue (UInt8.ofBitVec x)).getD 0 < 16 := by decide
  exact hall c.toBitVec

theorem hexNumber_lt (digits : Text) :
    hexNumber digits < 16 ^ digits.length := by
  have hlt := Nat.ofDigits_lt_base_pow_length (b := 16) (by decide)
    (l := digits.reverse.map fun c => (hexValue c).getD 0) ?_
  · rwa [List.length_map, List.length_reverse] at hlt
  · intro d hd
    obtain ⟨c, -, rfl⟩ := List.mem_map.mp hd
    exact hexValue_getD_lt c

/-! ### Fields -/

/-- `%0wX`. -/
def printHex (width n : ℕ) : Text := (Nat.digitsAppend 16 width n).reverse.map digitChar

/-- An optional sign of a field: whether it is a minus, what follows, and the width left. -/
def scanSign : ℕ → Text → Bool × ℕ × Text
  | width + 1, c :: s =>
    if c = 0x2D then (true, width, s)
    else if c = 0x2B then (false, width, s)
    else (false, width + 1, c :: s)
  | width, s => (false, width, s)

/-- An optional `0x`. -/
def scanPrefix : ℕ → Text → ℕ × Text
  | width + 2, c :: x :: s =>
    if c = 0x30 ∧ (x = 0x78 ∨ x = 0x58) then (width, s) else (width + 2, c :: x :: s)
  | width, s => (width, s)

/-- `%wX`: the number, and what has not been read. -/
def scanHex (width : ℕ) (s : Text) : Option (UInt32 × Text) :=
  let (negative, width, s) := scanSign width (s.dropWhile isSpace)
  let (width, s) := scanPrefix width s
  let digits := (s.take width).takeWhile isHexDigit
  if digits = [] then none
  else
    let n := UInt32.ofNat (hexNumber digits)
    some (if negative then -n else n, s.drop digits.length)

theorem length_printHex {width n : ℕ} (h : n < 16 ^ width) : (printHex width n).length = width := by
  rw [printHex, List.length_map, List.length_reverse, Nat.length_digitsAppend (by decide) _ h]

theorem isHexDigit_of_mem_printHex {width n : ℕ} {c : UInt8} (h : c ∈ printHex width n) :
    isHexDigit c = true := by
  obtain ⟨d, hd, rfl⟩ := List.mem_map.mp h
  exact isHexDigit_digitChar
    (Nat.lt_of_mem_digitsAppend (by decide) _ _ (List.mem_reverse.mp hd))

theorem hexNumber_printHex {width n : ℕ} (h : n < 16 ^ width) :
    hexNumber (printHex width n) = n := by
  have hdigits : ((printHex width n).reverse.map fun c => (hexValue c).getD 0) =
      Nat.digitsAppend 16 width n := by
    rw [printHex, ← List.map_reverse, List.reverse_reverse, List.map_map]
    have hsame : ∀ d ∈ Nat.digitsAppend 16 width n,
        ((fun c => (hexValue c).getD 0) ∘ digitChar) d = id d := by
      intro d hd
      rw [Function.comp_apply, hexValue_digitChar (Nat.lt_of_mem_digitsAppend (by decide) _ _ hd)]
      rfl
    rw [List.map_congr_left hsame, List.map_id]
  rw [hexNumber, hdigits]
  exact (Nat.setInvOn_digitsAppend_ofDigits (by decide) width).2 h

/-- A field that starts with a digit has no sign. -/
theorem scanSign_of_isHexDigit {c : UInt8} (hc : isHexDigit c = true) (width : ℕ) (s : Text) :
    scanSign width (c :: s) = (false, width, c :: s) := by
  obtain ⟨-, hplus, hminus, -, -⟩ := ne_of_isHexDigit hc
  cases width with
  | zero => rfl
  | succ width => rw [scanSign, if_neg hminus, if_neg hplus]

/-- A field of digits has no `0x`. -/
theorem scanPrefix_of_isHexDigit {digits : Text} (hhex : ∀ c ∈ digits, isHexDigit c = true)
    (rest : Text) :
    scanPrefix digits.length (digits ++ rest) = (digits.length, digits ++ rest) := by
  match digits with
  | [] => rfl
  | [c] => rfl
  | c :: x :: digits =>
    obtain ⟨-, -, -, hlower, hupper⟩ := ne_of_isHexDigit (hhex x (by simp))
    rw [List.length_cons, List.length_cons, List.cons_append, List.cons_append, scanPrefix,
      if_neg fun h => h.2.elim hlower hupper]

/-- **As many digits as the width** are scanned, and no more. -/
theorem scanHex_append {digits : Text} (hne : digits ≠ [])
    (hhex : ∀ c ∈ digits, isHexDigit c = true) (rest : Text) :
    scanHex digits.length (digits ++ rest) = some (UInt32.ofNat (hexNumber digits), rest) := by
  obtain ⟨c, tail, rfl⟩ := List.exists_cons_of_ne_nil hne
  have hc := hhex c List.mem_cons_self
  have hspace : ((c :: tail) ++ rest).dropWhile isSpace = (c :: tail) ++ rest := by
    rw [List.cons_append, List.dropWhile_cons_of_neg (by simp [(ne_of_isHexDigit hc).1])]
  have htake : (((c :: tail) ++ rest).take (c :: tail).length).takeWhile isHexDigit =
      c :: tail := by
    rw [List.take_left]
    exact List.takeWhile_eq_self_iff.mpr hhex
  have hsign : scanSign (c :: tail).length ((c :: tail) ++ rest) =
    (false, (c :: tail).length, (c :: tail) ++ rest) := scanSign_of_isHexDigit hc _ _
  unfold scanHex
  rw [hspace, hsign]
  dsimp only
  rw [scanPrefix_of_isHexDigit hhex]
  dsimp only
  rw [htake, if_neg hne, List.drop_left]
  rfl

/-! ### Formats -/

/-- A literal character, or a hexadecimal field of a width. -/
inductive Directive
  | lit (c : UInt8)
  | hex (width : ℕ)
  deriving DecidableEq, Repr

/-- `sprintf`, as far as there are numbers for the fields. -/
def print : List Directive → List ℕ → Text
  | [], _ => []
  | .lit c :: format, ns => c :: print format ns
  | .hex width :: format, n :: ns => printHex width n ++ print format ns
  | .hex _ :: _, [] => []

/-- `sscanf`: the numbers that are assigned before a conversion fails. -/
def scan : List Directive → Text → List UInt32
  | [], _ => []
  | .lit c :: format, c' :: s => if c' = c then scan format s else []
  | .lit _ :: _, [] => []
  | .hex width :: format, s =>
    match scanHex width s with
    | none => []
    | some (n, rest) => n :: scan format rest

/-- There is a number for every field, and it needs no more than the width. -/
inductive Fits : List Directive → List ℕ → Prop
  | nil : Fits [] []
  | lit {c : UInt8} {format : List Directive} {ns : List ℕ} (h : Fits format ns) :
    Fits (.lit c :: format) ns
  | hex {width n : ℕ} {format : List Directive} {ns : List ℕ} (hwidth : 0 < width)
    (hn : n < 16 ^ width) (h : Fits format ns) : Fits (.hex width :: format) (n :: ns)

/-- The length of what is printed. -/
def Directive.length : Directive → ℕ
  | lit _ => 1
  | hex width => width

variable {format : List Directive} {ns : List ℕ}

theorem Fits.length_print (h : Fits format ns) :
    (print format ns).length = (format.map Directive.length).sum := by
  induction h with
  | nil => rfl
  | lit h ih => rw [print, List.length_cons, ih, List.map_cons, List.sum_cons, Directive.length,
      Nat.add_comm]
  | hex hwidth hn h ih => rw [print, List.length_append, length_printHex hn, ih, List.map_cons,
      List.sum_cons, Directive.length]

/-- Literal text. -/
def literals (s : Text) : List Directive := s.map .lit

theorem scan_literals (s rest : Text) (format : List Directive) :
    scan (literals s ++ format) (s ++ rest) = scan format rest := by
  induction s with
  | nil => rfl
  | cons c s ih => rw [literals, List.map_cons, List.cons_append, List.cons_append, scan,
      if_pos rfl, ← literals, ih]

/-- A field of as many digits as its width. -/
theorem scan_hex {width : ℕ} {digits : Text} (hlength : digits.length = width) (hne : digits ≠ [])
    (hhex : ∀ c ∈ digits, isHexDigit c = true) (rest : Text) (format : List Directive) :
    scan (.hex width :: format) (digits ++ rest) =
      UInt32.ofNat (hexNumber digits) :: scan format rest := by
  subst hlength
  rw [scan, scanHex_append hne hhex]

theorem Fits.print_append (h : Fits format ns) (format' : List Directive) (ns' : List ℕ) :
    print (format ++ format') (ns ++ ns') = print format ns ++ print format' ns' := by
  induction h with
  | nil => rfl
  | lit h ih => rw [List.cons_append, print, ih, print, List.cons_append]
  | hex hwidth hn h ih => rw [List.cons_append, List.cons_append, print, ih, print,
      List.append_assoc]

/-- What is printed are literals and digits. -/
theorem mem_print {c : UInt8} :
    ∀ {format : List Directive} {ns : List ℕ}, c ∈ print format ns →
      .lit c ∈ format ∨ isHexDigit c = true
  | [], _, h => by cases h
  | .lit _ :: format, ns, h => by
    rcases List.mem_cons.mp h with rfl | h
    · exact .inl List.mem_cons_self
    · exact (mem_print h).imp_left (List.mem_cons_of_mem _)
  | .hex _ :: _, [], h => by cases h
  | .hex _ :: format, _ :: ns, h => by
    rcases List.mem_append.mp h with h | h
    · exact .inr (isHexDigit_of_mem_printHex h)
    · exact (mem_print h).imp_left (List.mem_cons_of_mem _)

/-- **What has been printed is scanned back**, whatever stands behind it. -/
theorem scan_print (h : Fits format ns) (rest : Text) :
    scan format (print format ns ++ rest) = ns.map UInt32.ofNat := by
  induction h with
  | nil => rfl
  | lit h ih => rw [print, List.cons_append, scan, if_pos rfl, ih]
  | @hex width n format ns hwidth hn h ih =>
    have hlength := length_printHex hn
    have hne : printHex width n ≠ [] := List.ne_nil_of_length_pos (by omega)
    rw [print, List.append_assoc, scan_hex hlength hne (fun _ => isHexDigit_of_mem_printHex),
      hexNumber_printHex hn, List.map_cons]
    exact congrArg _ ih

end HexFormat
