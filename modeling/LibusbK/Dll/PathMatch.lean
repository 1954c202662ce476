import LibusbK.Lib.Access
import Mathlib.Data.List.Basic

/-!
# Pattern matching

`PathMatchSpec` of `lusbk_handles.h` scans the pattern once.  The memory of both strings is
read byte by byte and does not end with the terminating NUL; the loops have fuel.

## Main definitions

* `pathMatchSpec` — the code.
* `Matches` — what a pattern means: the whole file string matches.
* `ReadsRight` — the strings on which one scan is enough: nothing is left over after the
  pattern, and the first place of the byte after an asterisk and a question mark decides.

## Main results

* `pathMatchSpec_runs` — the code ends, and reads nothing behind either NUL.
* `pathMatchSpec_correct_iff` — when the code answers as the pattern means.
* `readsRight_append_iff`, `readsRight_iff_of_no_asterisk`, `readsRight_of_lone_asterisk` — the
  condition up to the first asterisk, and where it is not the start of a run.
-/

namespace LibusbK

open Access

/-! ### The code -/

/-- A byte of one of the strings. -/
inductive PathByte
  | file (i : ℕ)
  | spec (i : ℕ)
  deriving DecidableEq, Repr

/-- Code that reads the strings. -/
abbrev PathCode (α : Type) := Access (fun _ : PathByte => UInt8) Empty α

namespace PathCode

/-- `File[iFile]` -/
@[simp] def file (iFile : ℕ) : PathCode UInt8 := load (V := fun _ => UInt8) (.file iFile)

/-- `Spec[iSpec]` -/
@[simp] def spec (iSpec : ℕ) : PathCode UInt8 := load (V := fun _ => UInt8) (.spec iSpec)

end PathCode

abbrev CHAR_ASTERISK : UInt8 := 0x2A
abbrev CHAR_QUESTION : UInt8 := 0x3F

/-- A character less its case. -/
def upperChar (ch : UInt8) : UInt8 := if 0x61 ≤ ch ∧ ch ≤ 0x7A then ch - 32 else ch

/-- The inner loop: the index where it ends. -/
def skipTo (iSpec : ℕ) : ℕ → ℕ → PathCode (Option ℕ)
  | 0, _ => return none
  | fuel + 1, iFile => do
    let ch ← PathCode.file iFile
    if ch = 0 then return some iFile
    else
      let ch ← PathCode.file iFile
      let delim ← PathCode.spec iSpec
      if ch = delim then return some iFile
      else skipTo iSpec fuel (iFile + 1)

section Cases

variable (loop : ℕ → ℕ → PathCode (Option Bool)) (iSpec iFile : ℕ)

/-- `case '*'`, which continues with the loop. -/
def caseAsterisk (fuel : ℕ) : PathCode (Option Bool) := do
  let next ← PathCode.spec (iSpec + 1)
  if next = CHAR_QUESTION then
    let delim ← PathCode.spec (iSpec + 2)
    if delim ≠ 0 then
      match ← skipTo (iSpec + 2) fuel iFile with
      | none => return none
      | some iFile =>
        -- the NUL has ended the inner loop if the delimiter is not in what is left
        let found ← PathCode.file iFile
        if found = 0 then return some false
        else loop (iSpec + 3) (iFile + 1)
    else return some true
  else return some true

/-- `case '?'`. -/
def caseQuestion : PathCode (Option Bool) := do
  let chFile ← PathCode.file iFile
  if chFile = 0 then return some false
  else loop (iSpec + 1) (iFile + 1)

/-- `default`. -/
def caseChar : PathCode (Option Bool) := do
  let chFile ← PathCode.file iFile
  if chFile = 0 then return some false
  else
    -- the bytes are compared as they are first, and less their case then
    let chFile ← PathCode.file iFile
    let chSpec ← PathCode.spec iSpec
    if chFile = chSpec then loop (iSpec + 1) (iFile + 1)
    else
      let chFile ← PathCode.file iFile
      let chSpec ← PathCode.spec iSpec
      if upperChar chSpec ≠ upperChar chFile then return some false
      else loop (iSpec + 1) (iFile + 1)

end Cases

/-- The loop of `PathMatchSpec`. -/
def scanFrom : ℕ → ℕ → ℕ → PathCode (Option Bool)
  | 0, _, _ => return none
  | fuel + 1, iSpec, iFile => do
    let ch ← PathCode.spec iSpec
    if ch = 0 then
      -- the pattern is used up, and what is left of the file string is not looked at
      let ch ← PathCode.spec iSpec
      return some (ch == 0)
    else
      let ch ← PathCode.spec iSpec
      if ch = CHAR_ASTERISK then caseAsterisk (scanFrom fuel) iSpec iFile fuel
      else if ch = CHAR_QUESTION then caseQuestion (scanFrom fuel) iSpec iFile
      else caseChar (scanFrom fuel) iSpec iFile

/-- `PathMatchSpec`.  Where one of the pointers is null they are compared. -/
def pathMatchSpec (fuel : ℕ) (hasFile hasSpec : Bool) : PathCode (Option Bool) :=
  if !hasFile || !hasSpec then return some (hasFile == hasSpec)
  else scanFrom fuel 0 0

/-! ### Strings -/

/-- From index `i` on the memory holds these characters, and then a NUL. -/
def HoldsFrom (m : ℕ → UInt8) : ℕ → List UInt8 → Prop
  | i, [] => m i = 0
  | i, ch :: chars => ch ≠ 0 ∧ m i = ch ∧ HoldsFrom m (i + 1) chars

/-- A file string and a pattern in memory. -/
structure PathStrings where
  memory : PathByte → UInt8
  file : List UInt8
  spec : List UInt8
  holdsFile : HoldsFrom (fun i => memory (.file i)) 0 file
  holdsSpec : HoldsFrom (fun i => memory (.spec i)) 0 spec

/-- The byte is not behind the NULs of strings of these lengths. -/
def PathByte.InBounds (fileLength specLength : ℕ) : PathByte → Prop
  | .file i => i ≤ fileLength
  | .spec i => i ≤ specLength

/-! ### The scan of the characters -/

/-- The scan, as a function of the characters. -/
def scan : List UInt8 → List UInt8 → Bool
  | [], _ => true
  | ch :: spec, file =>
    if ch = CHAR_ASTERISK then
      match spec with
      | next :: delim :: spec =>
        if next = CHAR_QUESTION then
          match file.dropWhile (· ≠ delim) with
          | [] => false
          | _ :: file => scan spec file
        else true
      | _ => true
    else
      match file with
      | [] => false
      | chFile :: file =>
        if ch = CHAR_QUESTION ∨ upperChar ch = upperChar chFile then scan spec file else false

section Equations

variable {ch chFile : UInt8} {spec file : List UInt8}

theorem scan_char_nil (h : ch ≠ CHAR_ASTERISK) : scan (ch :: spec) [] = false := by
  cases spec with
  | nil => simp [scan, h]
  | cons next spec => cases spec <;> simp [scan, h]

theorem scan_char_cons (h : ch ≠ CHAR_ASTERISK) : scan (ch :: spec) (chFile :: file) =
    if ch = CHAR_QUESTION ∨ upperChar ch = upperChar chFile then scan spec file else false := by
  cases spec with
  | nil => simp [scan, h]
  | cons next spec => cases spec <;> simp [scan, h]

theorem scan_run (delim : UInt8) : scan (CHAR_ASTERISK :: CHAR_QUESTION :: delim :: spec) file =
    match file.dropWhile (· ≠ delim) with
    | [] => false
    | _ :: file => scan spec file := rfl

/-- An asterisk matches the rest, unless a question mark and a delimiter follow it. -/
theorem scan_rest (h : ∀ delim spec', spec ≠ CHAR_QUESTION :: delim :: spec') :
    scan (CHAR_ASTERISK :: spec) file = true := by
  cases spec with
  | nil => rfl
  | cons next spec =>
    cases spec with
    | nil => rfl
    | cons delim spec =>
      have hnext : next ≠ CHAR_QUESTION := fun hnext => h delim spec (hnext ▸ rfl)
      simp only [scan, if_neg hnext, if_true]

end Equations

section Runs

variable {m : PathByte → UInt8} {spec file : List UInt8} {iSpec iFile fuel : ℕ}

/-- The code answers, and reads nothing behind the NULs. -/
structure Answers (m : PathByte → UInt8) (code : PathCode (Option Bool)) (answer : Bool)
    (fileLength specLength : ℕ) : Prop where
  result : code.result m = some answer
  inBounds : ∀ b, code.Exposes m b → b.InBounds fileLength specLength

namespace Answers

variable {answer : Bool} {fileLength specLength : ℕ}

theorem done : Answers m (return some answer) answer fileLength specLength :=
  ⟨rfl, fun _ => False.elim⟩

theorem readFile {k : UInt8 → PathCode (Option Bool)} {i : ℕ} {ch : UInt8} (hi : i ≤ fileLength)
    (hm : m (.file i) = ch) (h : Answers m (k ch) answer fileLength specLength) :
    Answers m (PathCode.file i >>= k) answer fileLength specLength := by
  subst hm
  refine ⟨h.result, fun b hb => ?_⟩
  rcases hb with rfl | hb
  · exact hi
  · exact h.inBounds b hb

theorem readSpec {k : UInt8 → PathCode (Option Bool)} {i : ℕ} {ch : UInt8} (hi : i ≤ specLength)
    (hm : m (.spec i) = ch) (h : Answers m (k ch) answer fileLength specLength) :
    Answers m (PathCode.spec i >>= k) answer fileLength specLength := by
  subst hm
  refine ⟨h.result, fun b hb => ?_⟩
  rcases hb with rfl | hb
  · exact hi
  · exact h.inBounds b hb

/-- Code that only reads, and then the rest. -/
theorem bind {α : Type} {p : PathCode α} {k : α → PathCode (Option Bool)} {x : α}
    (hx : p.result m = x) (hassigns : ∀ b, ¬p.Assigns m b)
    (hp : ∀ b, p.Exposes m b → b.InBounds fileLength specLength)
    (h : Answers m (k x) answer fileLength specLength) :
    Answers m (p >>= k) answer fileLength specLength := by
  have hfinal : p.final m = m := funext fun b => final_of_not_assigns (hassigns b)
  refine ⟨?_, fun b hb => ?_⟩
  · rw [result_bind, hx, hfinal]
    exact h.result
  · rw [exposes_bind, hx, hfinal] at hb
    rcases hb with hb | ⟨-, hb⟩
    · exact hp b hb
    · exact h.inBounds b hb

end Answers

theorem skipTo_not_assigns (b : PathByte) : ¬(skipTo iSpec fuel iFile).Assigns m b := by
  induction fuel generalizing iFile with
  | zero => exact id
  | succ fuel ih =>
    simp [skipTo]
    exact fun _ _ => ih

/-- **The inner loop ends at the first delimiter**, or at the NUL. -/
theorem skipTo_spec (hfile : HoldsFrom (fun i => m (.file i)) iFile file)
    (hfuel : file.length < fuel) :
    ∃ j, (skipTo iSpec fuel iFile).result m = some j ∧
      HoldsFrom (fun i => m (.file i)) j (file.dropWhile (· ≠ m (.spec iSpec))) ∧
      j + (file.dropWhile (· ≠ m (.spec iSpec))).length = iFile + file.length ∧
      ∀ b, (skipTo iSpec fuel iFile).Exposes m b →
        b.InBounds (iFile + file.length) iSpec := by
  -- the fuel is more than the bytes left in the file string
  induction fuel generalizing iFile file with
  | zero => omega
  | succ fuel ih =>
    cases file with
    | nil =>
      have hend : m (.file iFile) = 0 := hfile
      refine ⟨iFile, by simp [skipTo, hend], hfile, rfl, fun b hb => ?_⟩
      simp [skipTo, hend] at hb
      rw [hb]
      exact Nat.le_refl _
    | cons ch file =>
      obtain ⟨hne, hch, hrest⟩ := hfile
      dsimp only at hch
      by_cases hdelim : ch = m (.spec iSpec)
      · have hdrop : (ch :: file).dropWhile (· ≠ m (.spec iSpec)) = ch :: file := by
          rw [List.dropWhile_cons, if_neg (by simpa using hdelim)]
        rw [hdrop]
        refine ⟨iFile, ?_, ⟨hne, hch, hrest⟩, rfl, fun b hb => ?_⟩
        · simp [skipTo, hch, hdelim]
        · simp [skipTo, hch, hne, ← hdelim] at hb
          rcases hb with rfl | rfl
          · exact Nat.le_add_right _ _
          · exact Nat.le_refl _
      · have hdrop : (ch :: file).dropWhile (· ≠ m (.spec iSpec)) =
            file.dropWhile (· ≠ m (.spec iSpec)) := by
          rw [List.dropWhile_cons, if_pos (by simpa using hdelim)]
        rw [hdrop]
        obtain ⟨j, hresult, hholds, hlength, hbounds⟩ :=
          ih hrest (Nat.lt_of_succ_lt_succ hfuel)
        have hcount : iFile + (ch :: file).length = iFile + 1 + file.length := by
          rw [List.length_cons]
          omega
        rw [hcount]
        refine ⟨j, ?_, hholds, hlength, fun b hb => ?_⟩
        · simpa [skipTo, hch, hne, hdelim] using hresult
        · simp [skipTo, hch, hne, hdelim] at hb
          rcases hb with rfl | rfl | hb
          · show iFile ≤ iFile + 1 + file.length
            omega
          · exact Nat.le_refl _
          · exact hbounds b hb

/-- The loop is right for what is left of both strings. -/
def LoopAnswers (m : PathByte → UInt8) (fuel : ℕ) (loop : ℕ → ℕ → PathCode (Option Bool)) : Prop :=
  ∀ {spec file : List UInt8} {iSpec iFile : ℕ}, HoldsFrom (fun i => m (.file i)) iFile file →
    HoldsFrom (fun i => m (.spec i)) iSpec spec → spec.length + file.length < fuel →
      Answers m (loop iSpec iFile) (scan spec file) (iFile + file.length) (iSpec + spec.length)

/-- What is left after a character of each string. -/
theorem LoopAnswers.next {loop : ℕ → ℕ → PathCode (Option Bool)} (hloop : LoopAnswers m fuel loop)
    (chFile chSpec : UInt8) (hfile : HoldsFrom (fun i => m (.file i)) (iFile + 1) file)
    (hspec : HoldsFrom (fun i => m (.spec i)) (iSpec + 1) spec)
    (hfuel : spec.length + file.length < fuel) :
    Answers m (loop (iSpec + 1) (iFile + 1)) (scan spec file)
      (iFile + (chFile :: file).length) (iSpec + (chSpec :: spec).length) := by
  have h := hloop hfile hspec hfuel
  rwa [Nat.add_right_comm, Nat.add_right_comm iSpec] at h

section CaseLemmas

variable {loop : ℕ → ℕ → PathCode (Option Bool)} {ch : UInt8}

theorem caseQuestion_answers (hloop : LoopAnswers m fuel loop)
    (hfile : HoldsFrom (fun i => m (.file i)) iFile file)
    (hspec : HoldsFrom (fun i => m (.spec i)) (iSpec + 1) spec)
    (hfuel : spec.length + file.length < fuel) :
    Answers m (caseQuestion loop iSpec iFile) (scan (CHAR_QUESTION :: spec) file)
      (iFile + file.length) (iSpec + (CHAR_QUESTION :: spec).length) := by
  cases file with
  | nil =>
    rw [scan_char_nil (by decide)]
    exact .readFile (Nat.le_add_right _ _) hfile .done
  | cons chFile file =>
    obtain ⟨hne, hch, hrest⟩ := hfile
    rw [scan_char_cons (by decide), if_pos (.inl rfl)]
    refine .readFile (Nat.le_add_right _ _) hch ?_
    rw [if_neg hne]
    refine hloop.next chFile _ hrest hspec ?_
    rw [List.length_cons] at hfuel
    omega

theorem caseChar_answers (hloop : LoopAnswers m fuel loop)
    (hast : ch ≠ CHAR_ASTERISK) (hquest : ch ≠ CHAR_QUESTION)
    (hfile : HoldsFrom (fun i => m (.file i)) iFile file)
    (hch : m (.spec iSpec) = ch) (hspec : HoldsFrom (fun i => m (.spec i)) (iSpec + 1) spec)
    (hfuel : spec.length + file.length < fuel) :
    Answers m (caseChar loop iSpec iFile) (scan (ch :: spec) file)
      (iFile + file.length) (iSpec + (ch :: spec).length) := by
  cases file with
  | nil =>
    rw [scan_char_nil hast]
    exact .readFile (Nat.le_add_right _ _) hfile .done
  | cons chFile file =>
    obtain ⟨hne, hchFile, hrest⟩ := hfile
    have hi : iFile ≤ iFile + (chFile :: file).length := Nat.le_add_right _ _
    have hnext := hloop.next chFile ch hrest hspec (by rw [List.length_cons] at hfuel; omega)
    rw [scan_char_cons hast]
    refine .readFile hi hchFile ?_
    rw [if_neg hne]
    refine .readFile hi hchFile (.readSpec (Nat.le_add_right _ _) hch ?_)
    by_cases heq : chFile = ch
    · rw [if_pos heq, if_pos (.inr (heq ▸ rfl))]
      exact hnext
    · rw [if_neg heq]
      refine .readFile hi hchFile (.readSpec (Nat.le_add_right _ _) hch ?_)
      by_cases hupper : upperChar ch = upperChar chFile
      · rw [if_neg (not_not.mpr hupper), if_pos (.inr hupper)]
        exact hnext
      · rw [if_pos hupper, if_neg (not_or.mpr ⟨hquest, hupper⟩)]
        exact .done

theorem caseAsterisk_answers (hloop : LoopAnswers m fuel loop)
    (hfile : HoldsFrom (fun i => m (.file i)) iFile file)
    (hspec : HoldsFrom (fun i => m (.spec i)) (iSpec + 1) spec)
    (hfuel : spec.length + file.length < fuel) :
    Answers m (caseAsterisk loop iSpec iFile fuel) (scan (CHAR_ASTERISK :: spec) file)
      (iFile + file.length) (iSpec + (CHAR_ASTERISK :: spec).length) := by
  cases spec with
  | nil =>
    rw [scan_rest (by simp)]
    exact .readSpec (Nat.le_refl _) hspec .done
  | cons next spec =>
    obtain ⟨-, hnext, hspec⟩ := hspec
    refine .readSpec (by rw [List.length_cons, List.length_cons]; omega) hnext ?_
    by_cases hquest : next = CHAR_QUESTION
    · rw [if_pos hquest]
      subst hquest
      cases spec with
      | nil =>
        rw [scan_rest (by simp)]
        exact .readSpec (Nat.le_refl _) hspec .done
      | cons delim spec =>
        obtain ⟨hdelimne, hdelim, hspec⟩ := hspec
        refine .readSpec (by simp only [List.length_cons]; omega) hdelim ?_
        rw [if_pos hdelimne, scan_run]
        simp only [List.length_cons] at hfuel ⊢
        obtain ⟨j, hresult, hholds, hlength, hbounds⟩ :=
          @skipTo_spec m file (iSpec + 2) _ fuel hfile (by omega)
        -- the inner loop reads both strings up to where it ends, and the loop goes on behind it
        refine .bind hresult skipTo_not_assigns (fun b hb => ?_) ?_
        · have hb := hbounds b hb
          cases b with
          | file i => exact hb
          | spec i =>
            show i ≤ _
            have hi : i ≤ iSpec + 2 := hb
            omega
        · replace hdelim : m (.spec (iSpec + 2)) = delim := hdelim
          rw [hdelim] at hholds hlength
          cases hdrop : file.dropWhile (· ≠ delim) with
          | nil =>
            rw [hdrop] at hholds hlength
            exact .readFile (Nat.le.intro hlength) hholds .done
          | cons found rest =>
            rw [hdrop] at hholds hlength
            obtain ⟨hfoundne, hfound, hholds⟩ := hholds
            rw [List.length_cons] at hlength
            refine .readFile (by omega) hfound ?_
            rw [if_neg hfoundne]
            have hle : rest.length + 1 ≤ file.length := by
              have hsub := (List.dropWhile_sublist (l := file) (· ≠ delim)).length_le
              rwa [hdrop, List.length_cons] at hsub
            have hanswers := hloop hholds hspec (by omega)
            rwa [show j + 1 + rest.length = iFile + file.length by omega,
              show iSpec + 1 + 1 + 1 + spec.length = iSpec + (spec.length + 1 + 1 + 1) by omega]
              at hanswers
    · rw [if_neg hquest, scan_rest fun delim spec' h => hquest (List.cons.inj h).1]
      exact .done

end CaseLemmas

/-- **The loop answers as the scan of the characters does**, and stays in both strings. -/
theorem scanFrom_answers : LoopAnswers m fuel (scanFrom fuel) := by
  -- every case uses up a byte of the pattern at least
  induction fuel with
  | zero => exact fun _ _ h => absurd h (Nat.not_lt_zero _)
  | succ fuel ih =>
    intro spec file iSpec iFile hfile hspec hfuel
    cases spec with
    | nil =>
      refine .readSpec (Nat.le_refl _) hspec ?_
      rw [if_pos rfl]
      exact .readSpec (Nat.le_refl _) hspec .done
    | cons ch spec =>
      obtain ⟨hne, hch, hspec⟩ := hspec
      have hi : iSpec ≤ iSpec + (ch :: spec).length := Nat.le_add_right _ _
      replace hfuel : spec.length + file.length < fuel := by
        rw [List.length_cons] at hfuel
        omega
      refine .readSpec hi hch ?_
      rw [if_neg hne]
      refine .readSpec hi hch ?_
      by_cases hast : ch = CHAR_ASTERISK
      · rw [if_pos hast, hast]
        exact caseAsterisk_answers ih hfile hspec hfuel
      · rw [if_neg hast]
        by_cases hquest : ch = CHAR_QUESTION
        · rw [if_pos hquest, hquest]
          exact caseQuestion_answers ih hfile hspec hfuel
        · rw [if_neg hquest]
          exact caseChar_answers ih hast hquest hfile hch hspec hfuel

end Runs

/-! ### What a pattern means -/

/-- The file string matches the pattern. -/
inductive Matches : List UInt8 → List UInt8 → Prop
  | nil : Matches [] []
  /-- A character matches itself without regard to case. -/
  | char {ch chFile : UInt8} {spec file : List UInt8} (hast : ch ≠ CHAR_ASTERISK)
    (hquest : ch ≠ CHAR_QUESTION) (hupper : upperChar ch = upperChar chFile)
    (h : Matches spec file) : Matches (ch :: spec) (chFile :: file)
  /-- A question mark matches one character. -/
  | any {spec file : List UInt8} (chFile : UInt8) (h : Matches spec file) :
    Matches (CHAR_QUESTION :: spec) (chFile :: file)
  /-- An asterisk with a question mark matches a run that lets the rest match. -/
  | run {spec file : List UInt8} (run : List UInt8) (h : Matches spec file) :
    Matches (CHAR_ASTERISK :: CHAR_QUESTION :: spec) (run ++ file)
  /-- Another asterisk matches the rest. -/
  | rest {spec : List UInt8} (file : List UInt8) (h : ∀ spec', spec ≠ CHAR_QUESTION :: spec') :
    Matches (CHAR_ASTERISK :: spec) file

/-- The pattern matches an end of the file string. -/
def MatchesEnd (spec file : List UInt8) : Prop :=
  ∃ run rest, file = run ++ rest ∧ Matches spec rest

section Meaning

variable {ch chFile : UInt8} {spec file : List UInt8}

theorem matches_nil_iff : Matches [] file ↔ file = [] := by
  constructor
  · intro h
    cases h
    rfl
  · rintro rfl
    exact .nil

theorem not_matches_char_nil (hast : ch ≠ CHAR_ASTERISK) : ¬Matches (ch :: spec) [] := by
  intro h
  generalize hfile : ([] : List UInt8) = file at h
  cases h with
  | char _ _ _ _ => cases hfile
  | any _ _ => cases hfile
  | run _ _ => exact hast rfl
  | rest _ _ => exact hast rfl

theorem matches_char_cons_iff (hast : ch ≠ CHAR_ASTERISK) :
    Matches (ch :: spec) (chFile :: file) ↔
      (ch = CHAR_QUESTION ∨ upperChar ch = upperChar chFile) ∧ Matches spec file := by
  constructor
  · intro h
    generalize hfile : chFile :: file = file' at h
    cases h with
    | char _ _ hupper h =>
      cases hfile
      exact ⟨.inr hupper, h⟩
    | any _ h =>
      cases hfile
      exact ⟨.inl rfl, h⟩
    | run _ _ => exact absurd rfl hast
    | rest _ _ => exact absurd rfl hast
  · rintro ⟨hfits, h⟩
    by_cases hquest : ch = CHAR_QUESTION
    · subst hquest
      exact .any chFile h
    · exact .char hast hquest (hfits.resolve_left hquest) h

theorem matches_run_iff :
    Matches (CHAR_ASTERISK :: CHAR_QUESTION :: spec) file ↔ MatchesEnd spec file := by
  constructor
  · intro h
    cases h with
    | char hast _ _ _ => exact absurd rfl hast
    | run run h => exact ⟨run, _, rfl, h⟩
    | rest _ h => exact absurd rfl (h spec)
  · rintro ⟨run, rest, rfl, h⟩
    exact .run run h

/-- An asterisk that starts no run matches whatever is left. -/
theorem matches_rest (h : ∀ delim spec', spec ≠ CHAR_QUESTION :: delim :: spec') :
    Matches (CHAR_ASTERISK :: spec) file := by
  by_cases hquest : ∃ spec', spec = CHAR_QUESTION :: spec'
  · obtain ⟨spec, rfl⟩ := hquest
    cases spec with
    -- an asterisk and a question mark at the end of the pattern
    | nil => exact matches_run_iff.mpr ⟨file, [], (List.append_nil file).symm, .nil⟩
    | cons delim spec => exact absurd rfl (h delim spec)
  · exact .rest file fun spec' hspec => hquest ⟨spec', hspec⟩

/-- A character in front of both, be it a wildcard of the pattern. -/
theorem Matches.cons_self (ch : UInt8) (h : Matches spec file) :
    Matches (ch :: spec) (ch :: file) := by
  by_cases hast : ch = CHAR_ASTERISK
  · subst hast
    by_cases hquest : ∃ spec', spec = CHAR_QUESTION :: spec'
    · obtain ⟨spec, rfl⟩ := hquest
      cases h with
      | char _ hquest => exact absurd rfl hquest
      | any chFile h => exact .run [CHAR_ASTERISK, chFile] h
    · exact .rest _ fun spec' hspec => hquest ⟨spec', hspec⟩
  · exact (matches_char_cons_iff hast).mpr ⟨.inr rfl, h⟩

/-- What is behind the first place of a byte. -/
theorem exists_run {delim found : UInt8} {rest : List UInt8}
    (h : file.dropWhile (· ≠ delim) = found :: rest) : ∃ run, file = run ++ delim :: rest := by
  induction file with
  | nil => cases h
  | cons ch file ih =>
    rw [List.dropWhile_cons] at h
    split at h
    · obtain ⟨run, rfl⟩ := ih h
      exact ⟨ch :: run, rfl⟩
    · next heq =>
      have hch : ch = delim := by simpa using heq
      exact ⟨[], by rw [hch, (List.cons.inj h).2]; rfl⟩

/-- The first place of the delimiter is one where the pattern may go on. -/
theorem MatchesEnd.of_first {delim found : UInt8} {rest : List UInt8}
    (h : file.dropWhile (· ≠ delim) = found :: rest) (hm : Matches spec rest) :
    MatchesEnd (delim :: spec) file := by
  obtain ⟨run, rfl⟩ := exists_run h
  exact ⟨run, delim :: rest, rfl, hm.cons_self delim⟩

end Meaning

/-! ### The strings on which one scan is enough -/

/-- One scan is enough for these strings.

A pattern that is used up has to leave nothing of the file string over.  A character or a
question mark says no more of the strings than they do without it, and any asterisk that is not
followed by a question mark and a byte says nothing.  Where it is, and the byte is not in the
file string, what the byte begins must match no end of it, as it may do in another case or as a
wildcard.  Where the byte is there, and the pattern goes on to match what is behind its first
place, it must be read right there; and where it does not match that, it is read right there
just if it matches behind no other place. -/
def ReadsRight : List UInt8 → List UInt8 → Prop
  | [], file => file = []
  | ch :: spec, file =>
    if ch = CHAR_ASTERISK then
      match spec with
      | next :: delim :: spec =>
        next = CHAR_QUESTION →
          match file.dropWhile (· ≠ delim) with
          | [] => ¬MatchesEnd (delim :: spec) file
          | _ :: rest =>
            (Matches spec rest → ReadsRight spec rest) ∧
              (¬Matches spec rest → (ReadsRight spec rest ↔ ¬MatchesEnd (delim :: spec) file))
      | _ => True
    else
      match file with
      | [] => True
      | chFile :: file =>
        ch = CHAR_QUESTION ∨ upperChar ch = upperChar chFile → ReadsRight spec file

section ReadsRight

variable {ch chFile delim : UInt8} {spec file rest : List UInt8}

theorem readsRight_char_nil (hast : ch ≠ CHAR_ASTERISK) : ReadsRight (ch :: spec) [] := by
  cases spec with
  | nil => simp [ReadsRight, hast]
  | cons next spec => cases spec <;> simp [ReadsRight, hast]

theorem readsRight_char_cons (hast : ch ≠ CHAR_ASTERISK) :
    ReadsRight (ch :: spec) (chFile :: file) ↔
      (ch = CHAR_QUESTION ∨ upperChar ch = upperChar chFile → ReadsRight spec file) := by
  cases spec with
  | nil => simp only [ReadsRight, if_neg hast]
  | cons next spec => cases spec <;> simp only [ReadsRight, if_neg hast]

/-- Any asterisk is read right that starts no run. -/
theorem readsRight_of_lone_asterisk (h : ∀ delim spec', spec ≠ CHAR_QUESTION :: delim :: spec') :
    ReadsRight (CHAR_ASTERISK :: spec) file := by
  cases spec with
  | nil => trivial
  | cons next spec =>
    cases spec with
    | nil => trivial
    | cons delim spec => exact fun hnext => absurd (hnext ▸ rfl) (h delim spec)

theorem readsRight_run (hdrop : file.dropWhile (· ≠ delim) = []) :
    ReadsRight (CHAR_ASTERISK :: CHAR_QUESTION :: delim :: spec) file ↔
      ¬MatchesEnd (delim :: spec) file := by
  simp only [ReadsRight, if_true, true_imp_iff, hdrop]

theorem readsRight_run_first (hdrop : file.dropWhile (· ≠ delim) = ch :: rest) :
    ReadsRight (CHAR_ASTERISK :: CHAR_QUESTION :: delim :: spec) file ↔
      (Matches spec rest → ReadsRight spec rest) ∧
        (¬Matches spec rest → (ReadsRight spec rest ↔ ¬MatchesEnd (delim :: spec) file)) := by
  simp only [ReadsRight, if_true, true_imp_iff, hdrop]

/-- **The scan answers as the pattern means** on just these strings. -/
theorem scan_iff_matches_iff :
    (scan spec file = true ↔ Matches spec file) ↔ ReadsRight spec file := by
  -- a run takes three bytes of the pattern at once
  induction hn : spec.length using Nat.strongRecOn generalizing spec file with
  | ind n ih =>
    subst hn
    cases spec with
    | nil =>
      rw [matches_nil_iff]
      exact ⟨fun h => h.mp rfl, fun h => iff_of_true rfl h⟩
    | cons ch spec =>
      by_cases hast : ch = CHAR_ASTERISK
      · subst hast
        by_cases hrun : ∃ delim spec', spec = CHAR_QUESTION :: delim :: spec'
        · obtain ⟨delim, spec, rfl⟩ := hrun
          rw [scan_run, matches_run_iff]
          cases hdrop : file.dropWhile (· ≠ delim) with
          | nil =>
            rw [readsRight_run hdrop]
            simp
          | cons found rest =>
            have hrest : (scan spec rest = true ↔ Matches spec rest) ↔ ReadsRight spec rest :=
              ih spec.length (by simp only [List.length_cons]; omega) rfl
            have hfirst : Matches spec rest → MatchesEnd (delim :: spec) file :=
              MatchesEnd.of_first hdrop
            rw [readsRight_run_first hdrop, ← hrest]
            dsimp only
            by_cases hm : Matches spec rest
            · simp [hm, hfirst hm]
            · by_cases hscan : scan spec rest = true <;> simp [hm, hscan]
        · have hlone : ∀ delim spec', spec ≠ CHAR_QUESTION :: delim :: spec' :=
            fun delim spec' hspec => hrun ⟨delim, spec', hspec⟩
          exact iff_of_true (iff_of_true (scan_rest hlone) (matches_rest hlone))
            (readsRight_of_lone_asterisk hlone)
      · cases file with
        | nil =>
          rw [scan_char_nil hast]
          exact iff_of_true (iff_of_false Bool.false_ne_true (not_matches_char_nil hast))
            (readsRight_char_nil hast)
        | cons chFile file =>
          rw [scan_char_cons hast, matches_char_cons_iff hast, readsRight_char_cons hast,
            ← ih spec.length (Nat.lt_succ_self _) rfl]
          by_cases hfits : ch = CHAR_QUESTION ∨ upperChar ch = upperChar chFile
          · simp [hfits]
          · simp [hfits]

/-- Up to its first asterisk a pattern takes as much of the file string as it is long. -/
theorem readsRight_append_iff {before : List UInt8} (h : CHAR_ASTERISK ∉ before) :
    ReadsRight (before ++ spec) file ↔
      ∀ u rest, file = u ++ rest → Matches before u → ReadsRight spec rest := by
  induction before generalizing file with
  | nil =>
    refine ⟨?_, fun hall => hall [] file rfl .nil⟩
    rintro hright u rest rfl hu
    rw [matches_nil_iff.mp hu] at hright
    exact hright
  | cons ch before ih =>
    have hast : ch ≠ CHAR_ASTERISK := fun hch => h (hch ▸ List.mem_cons_self)
    have hbefore : CHAR_ASTERISK ∉ before := fun hmem => h (List.mem_cons_of_mem _ hmem)
    rw [List.cons_append]
    cases file with
    | nil =>
      refine iff_of_true (readsRight_char_nil hast) fun u rest hfile hu => ?_
      rw [(List.append_eq_nil_iff.mp hfile.symm).1] at hu
      exact absurd hu (not_matches_char_nil hast)
    | cons chFile file =>
      rw [readsRight_char_cons hast, ih hbefore]
      constructor
      · intro hright u rest hfile hu
        cases u with
        | nil => exact absurd hu (not_matches_char_nil hast)
        | cons chFile' u =>
          cases hfile
          obtain ⟨hfits, hu⟩ := (matches_char_cons_iff hast).mp hu
          exact hright hfits u rest rfl hu
      · rintro hall hfits u rest rfl hu
        exact hall (chFile :: u) rest rfl ((matches_char_cons_iff hast).mpr ⟨hfits, hu⟩)

/-- Without an asterisk, the code is right unless the pattern matches the file string less
its end. -/
theorem readsRight_iff_of_no_asterisk (h : CHAR_ASTERISK ∉ spec) :
    ReadsRight spec file ↔ ∀ u rest, file = u ++ rest → Matches spec u → rest = [] := by
  have happend : ReadsRight (spec ++ []) file ↔
      ∀ u rest, file = u ++ rest → Matches spec u → ReadsRight [] rest :=
    readsRight_append_iff h
  rwa [List.append_nil] at happend

end ReadsRight

/-! ### The answer -/

namespace PathStrings

variable (x : PathStrings)

/-- Enough steps for both strings. -/
def fuel : ℕ := x.spec.length + x.file.length + 1

/-- **The code ends**, and reads nothing behind either NUL. -/
theorem pathMatchSpec_runs {fuel : ℕ} (hfuel : x.fuel ≤ fuel) :
    (pathMatchSpec fuel true true).result x.memory = some (scan x.spec x.file) ∧
      ∀ b, (pathMatchSpec fuel true true).Exposes x.memory b →
        b.InBounds x.file.length x.spec.length := by
  have h := scanFrom_answers x.holdsFile x.holdsSpec (Nat.lt_of_succ_le hfuel)
  rw [Nat.zero_add, Nat.zero_add] at h
  exact ⟨h.result, h.inBounds⟩

/-- The code ends, stays in both strings, and answers as the pattern means. -/
structure Correct : Prop where
  inBounds : ∀ fuel ≥ x.fuel, ∀ b, (pathMatchSpec fuel true true).Exposes x.memory b →
    b.InBounds x.file.length x.spec.length
  answers : ∀ fuel ≥ x.fuel, ∃ answer,
    (pathMatchSpec fuel true true).result x.memory = some answer ∧
      (answer = true ↔ Matches x.spec x.file)

theorem correct_iff_scan : x.Correct ↔ (scan x.spec x.file = true ↔ Matches x.spec x.file) := by
  constructor
  · intro h
    obtain ⟨answer, hanswer, hmatches⟩ := h.answers x.fuel (Nat.le_refl _)
    cases hanswer.symm.trans (x.pathMatchSpec_runs (Nat.le_refl _)).1
    exact hmatches
  · intro h
    exact ⟨fun fuel hfuel => (x.pathMatchSpec_runs hfuel).2,
      fun fuel hfuel => ⟨_, (x.pathMatchSpec_runs hfuel).1, h⟩⟩

end PathStrings

/-- **The code answers as the pattern means exactly if one scan is enough for the strings.** -/
theorem pathMatchSpec_correct_iff (x : PathStrings) :
    x.Correct ↔ ReadsRight x.spec x.file :=
  x.correct_iff_scan.trans scan_iff_matches_iff

/-! ### A file string with something left over -/

/-- The file string "abc" and the pattern "ab". -/
def abcAgainstAb : PathStrings where
  memory
    | .file i => [0x61, 0x62, 0x63].getD i 0
    | .spec i => [0x61, 0x62].getD i 0
  file := [0x61, 0x62, 0x63]
  spec := [0x61, 0x62]
  holdsFile := ⟨by decide, rfl, by decide, rfl, by decide, rfl, rfl⟩
  holdsSpec := ⟨by decide, rfl, by decide, rfl, rfl⟩

/-- The code says that they match. -/
theorem not_correct_abcAgainstAb : ¬abcAgainstAb.Correct := by
  rw [PathStrings.correct_iff_scan, scan_iff_matches_iff,
    readsRight_iff_of_no_asterisk (by decide)]
  intro h
  -- the pattern matches "ab", and "c" is left over
  have hab : Matches [0x61, 0x62] [0x61, 0x62] := (Matches.nil.cons_self 0x62).cons_self 0x61
  exact absurd (h [0x61, 0x62] [0x63] rfl hab) (List.cons_ne_nil _ _)

end LibusbK
