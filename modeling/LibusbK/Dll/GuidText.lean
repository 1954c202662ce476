import LibusbK.Lib.HexFormat
import Mathlib.Tactic.IntervalCases

/-!
# GUIDs as text

`Guid_To_String` and `String_To_Guid` of `lusbk_handles.h`, which use one format both ways.

## Main definitions

* `Guid`, `guidFormat` — the structure and `GUID_FORMAT_STRING`.
* `guidToString`, `stringToGuid` — the functions.

## Main result

* `guid_roundTrip` — a GUID is read back from its text, with the braces and without.
-/

namespace LibusbK

open HexFormat

/-- `GUID` -/
structure Guid where
  data1 : UInt32
  data2 : UInt16
  data3 : UInt16
  data4 : Vector UInt8 8
  deriving DecidableEq, Repr

abbrev GUID_STRING_LENGTH : ℕ := 38

abbrev CHAR_BRACE_OPEN : UInt8 := 0x7B
abbrev CHAR_BRACE_CLOSE : UInt8 := 0x7D
abbrev CHAR_DASH : UInt8 := 0x2D

/-- `GUID_FORMAT_STRING` -/
def guidFormat : List Directive :=
  [.hex 8, .lit CHAR_DASH, .hex 4, .lit CHAR_DASH, .hex 4, .lit CHAR_DASH, .hex 2, .hex 2,
    .lit CHAR_DASH, .hex 2, .hex 2, .hex 2, .hex 2, .hex 2, .hex 2]

/-- The arguments of the format. -/
def Guid.fields (g : Guid) : List ℕ :=
  [g.data1.toNat, g.data2.toNat, g.data3.toNat, g.data4[0].toNat, g.data4[1].toNat,
    g.data4[2].toNat, g.data4[3].toNat, g.data4[4].toNat, g.data4[5].toNat, g.data4[6].toNat,
    g.data4[7].toNat]

/-- `Guid_To_String`: the text, and whether it has the length it should have. -/
def guidToString (g : Guid) : Text × Bool :=
  let guidString := print (.lit CHAR_BRACE_OPEN :: (guidFormat ++ [.lit CHAR_BRACE_CLOSE])) g.fields
  (guidString, guidString.length == GUID_STRING_LENGTH)

/-- The GUID that is put together in `guidChars`, if eleven numbers have been scanned. -/
def guidOfScan : List UInt32 → Option Guid
  | [d1, d2, d3, d40, d41, d42, d43, d44, d45, d46, d47] =>
    some
      { data1 := d1
        data2 := d2.toUInt16
        data3 := d3.toUInt16
        data4 := #v[d40.toUInt8, d41.toUInt8, d42.toUInt8, d43.toUInt8, d44.toUInt8,
          d45.toUInt8, d46.toUInt8, d47.toUInt8] }
  | _ => none

/-- `String_To_Guid`; `none` is `FALSE`, and the GUID is as before. -/
def stringToGuid (guidString : Text) : Option Guid :=
  guidOfScan (HexFormat.scan guidFormat
    (if guidString.head? = some CHAR_BRACE_OPEN then guidString.tail else guidString))

/-- The text without its braces. -/
def withoutBraces (guidString : Text) : Text :=
  guidString.filter fun c => c ≠ CHAR_BRACE_OPEN ∧ c ≠ CHAR_BRACE_CLOSE

variable (g : Guid)

/-- The fields fit the format. -/
theorem fits_fields : Fits guidFormat g.fields := by
  have h1 : g.data1.toNat < 16 ^ 8 := g.data1.toNat_lt
  have h2 (d : UInt16) : d.toNat < 16 ^ 4 := d.toNat_lt
  have h4 (d : UInt8) : d.toNat < 16 ^ 2 := d.toNat_lt
  refine .hex (by decide) h1 (.lit (.hex (by decide) (h2 _) (.lit (.hex (by decide) (h2 _) (.lit
    (.hex (by decide) (h4 _) (.hex (by decide) (h4 _) (.lit ?_))))))))
  exact .hex (by decide) (h4 _) (.hex (by decide) (h4 _) (.hex (by decide) (h4 _) (.hex
    (by decide) (h4 _) (.hex (by decide) (h4 _) (.hex (by decide) (h4 _) .nil)))))

/-- The text between the braces. -/
def guidBody : Text := print guidFormat g.fields

theorem guidToString_eq :
    (guidToString g).1 = CHAR_BRACE_OPEN :: (guidBody g ++ [CHAR_BRACE_CLOSE]) := by
  have h := (fits_fields g).print_append [.lit CHAR_BRACE_CLOSE] []
  rw [List.append_nil] at h
  exact congrArg (CHAR_BRACE_OPEN :: ·) h

theorem length_guidBody : (guidBody g).length = 36 := (fits_fields g).length_print

/-- The text of a GUID always has the length it should have. -/
theorem guidToString_ok : (guidToString g).2 = true := by
  show ((guidToString g).1.length == GUID_STRING_LENGTH) = true
  rw [guidToString_eq, List.length_cons, List.length_append, length_guidBody]
  rfl

/-- There are no braces in the text between the braces. -/
theorem ne_brace_of_mem_guidBody {c : UInt8} (h : c ∈ guidBody g) :
    c ≠ CHAR_BRACE_OPEN ∧ c ≠ CHAR_BRACE_CLOSE := by
  rcases mem_print h with hlit | hdigit
  · have hdash : c = CHAR_DASH := by simpa [guidFormat] using hlit
    rw [hdash]
    decide
  · constructor
    · rintro rfl
      cases hdigit
    · rintro rfl
      cases hdigit

theorem withoutBraces_guidToString : withoutBraces (guidToString g).1 = guidBody g := by
  have hbody : (guidBody g).filter (fun c => c ≠ CHAR_BRACE_OPEN ∧ c ≠ CHAR_BRACE_CLOSE) =
      guidBody g := by
    refine List.filter_eq_self.mpr fun c hc => ?_
    exact decide_eq_true (ne_brace_of_mem_guidBody g hc)
  rw [guidToString_eq, withoutBraces, List.filter_cons_of_neg (by decide), List.filter_append,
    hbody]
  exact List.append_nil _

/-- The numbers of a GUID. -/
theorem guidOfScan_fields : guidOfScan (g.fields.map UInt32.ofNat) = some g := by
  have h2 (d : UInt16) : (UInt32.ofNat d.toNat).toUInt16 = d := by simp
  have h4 (d : UInt8) : (UInt32.ofNat d.toNat).toUInt8 = d := by simp
  have hdata4 : #v[g.data4[0], g.data4[1], g.data4[2], g.data4[3], g.data4[4], g.data4[5],
      g.data4[6], g.data4[7]] = g.data4 := by
    refine Vector.ext fun i hi => ?_
    interval_cases i <;> rfl
  simp only [Guid.fields, List.map_cons, List.map_nil, guidOfScan, h2, h4, UInt32.ofNat_toNat,
    hdata4]

/-- Text that starts with the eleven numbers of a GUID. -/
theorem scan_guidBody (rest : Text) :
    HexFormat.scan guidFormat (guidBody g ++ rest) = g.fields.map UInt32.ofNat :=
  scan_print (fits_fields g) rest

/-- **A GUID is read back from its text**, with the braces and without. -/
theorem guid_roundTrip :
    (guidToString g).2 = true ∧ stringToGuid (guidToString g).1 = some g ∧
      stringToGuid (withoutBraces (guidToString g).1) = some g := by
  refine ⟨guidToString_ok g, ?_, ?_⟩
  · rw [guidToString_eq, stringToGuid, List.head?_cons, if_pos rfl, List.tail_cons,
      scan_guidBody, guidOfScan_fields]
  · have hhead : (guidBody g).head? ≠ some CHAR_BRACE_OPEN := fun h =>
      (ne_brace_of_mem_guidBody g (List.mem_of_mem_head? h)).1 rfl
    have hscan := scan_guidBody g []
    rw [List.append_nil] at hscan
    rw [withoutBraces_guidToString, stringToGuid, if_neg hhead, hscan, guidOfScan_fields]

end LibusbK
