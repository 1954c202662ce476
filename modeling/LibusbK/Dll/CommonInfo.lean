import LibusbK.Dll.PathMatch
import LibusbK.Lib.HexFormat
import Mathlib.Data.List.Induction

/-!
# Device ids

`l_Build_Common_Info` of `lusbk_device_list.c` takes a device id apart.  It works on a copy in
a buffer of its own, in which every backslash it comes to is overwritten with a NUL; the two
pointers into the buffer are indices.  All buffers have the same size, so a copy always fits.

## Main definitions

* `cString`, `strchr`, `strupr` — the functions of the C library.
* `lBuildCommonInfo` — the function.
* `DeviceIdText` — an id with a vendor, a product, an interface number and an instance.

## Main results

* `commonLoop_cut`, `commonLoop_last` — one pass of the loop.
* `recovers_iff` — the parts of an id are recovered, but for interface numbers from 128 on.
-/

namespace LibusbK

open HexFormat

abbrev CHAR_BACKSLASH : UInt8 := 0x5C
abbrev UINT_MAX : UInt32 := 0xFFFFFFFF

/-! ### The C library -/

/-- The string at an index of a buffer. -/
def cString (buffer : List UInt8) (i : ℕ) : Text := (buffer.drop i).takeWhile (· ≠ 0)

/-- `strchr`, for a character that is not NUL. -/
def strchr (buffer : List UInt8) (i : ℕ) (c : UInt8) : Option ℕ :=
  ((cString buffer i).findIdx? (· == c)).map (i + ·)

/-- `_strupr_s` -/
def strupr (s : Text) : Text := s.map upperChar

/-! ### The function -/

/-- `KLST_DEV_COMMON_INFO` -/
structure CommonInfo where
  vid : UInt32
  pid : UInt32
  mi : UInt32
  instanceID : Text
  deriving DecidableEq, Repr

/-- `VID_` -/
def vidText : Text := [0x56, 0x49, 0x44, 0x5F]

/-- `&PID_` -/
def pidText : Text := [0x26, 0x50, 0x49, 0x44, 0x5F]

/-- `&MI_` -/
def miText : Text := [0x26, 0x4D, 0x49, 0x5F]

/-- `VID_%04X&PID_%04X&MI_%02X` -/
def hardwareIdFormat : List Directive :=
  literals vidText ++ .hex 4 :: (literals pidText ++ .hex 4 :: (literals miText ++ [.hex 2]))

namespace CommonInfo

variable (info : CommonInfo)

/-- The numbers `sscanf_s` assigns. -/
def assign (numbers : List UInt32) : CommonInfo :=
  { info with
    vid := numbers.getD 0 info.vid
    pid := numbers.getD 1 info.pid
    mi := numbers.getD 2 info.mi }

/-- The switch: what is made of the element at a position. -/
def element (pos : ℕ) (s : Text) : CommonInfo :=
  match pos with
  | 1 => info.assign (HexFormat.scan hardwareIdFormat s)
  | 2 => { info with instanceID := s }
  | _ => info

/-- The masks at the end. -/
def masked : CommonInfo :=
  { info with
    vid := if info.vid ≠ UINT_MAX then info.vid &&& 0xFFFF else info.vid
    pid := if info.pid ≠ UINT_MAX then info.pid &&& 0xFFFF else info.pid
    mi := if info.mi ≠ UINT_MAX then info.mi &&& 0x7F else info.mi }

end CommonInfo

/-- The loop, with `chLast` and `chNext` the same at the start of a pass. -/
def commonLoop : ℕ → List UInt8 → Option ℕ → ℕ → CommonInfo → CommonInfo
  | 0, _, _, _, info => info
  | _ + 1, _, none, _, info => info
  | fuel + 1, devID, some chLast, pos, info =>
    if cString devID chLast = [] then info
    else
      match strchr devID chLast CHAR_BACKSLASH with
      | none => commonLoop fuel devID none (pos + 1) (info.element pos (cString devID chLast))
      | some chNext =>
        let devID := devID.set chNext 0
        commonLoop fuel devID (some (chNext + 1)) (pos + 1)
          (info.element pos (cString devID chLast))

/-- `l_Build_Common_Info` for the id of an item, whose instance id is `instanceID` before. -/
def lBuildCommonInfo (deviceID instanceID : Text) : CommonInfo :=
  let devID := strupr deviceID ++ [0]
  (commonLoop (deviceID.length + 1) devID (some 0) 0
    { vid := UINT_MAX, pid := UINT_MAX, mi := UINT_MAX, instanceID }).masked

/-! ### Device ids -/

/-- As many digits of either case as the width. -/
abbrev DigitText (width : ℕ) := { s : Text // s.length = width ∧ ∀ c ∈ s, isHexDigit c = true }

/-- `BUS\\VID_vvvv&PID_pppp\\inst`, or the same with `&MI_mm` for an interface. -/
structure DeviceIdText where
  bus : Text
  vid : DigitText 4
  pid : DigitText 4
  mi : Option (DigitText 2)
  inst : Text
  bus_noSep : CHAR_BACKSLASH ∉ bus ∧ 0 ∉ bus
  inst_noSep : CHAR_BACKSLASH ∉ inst ∧ 0 ∉ inst
  inst_ne_nil : inst ≠ []

namespace DeviceIdText

variable (d : DeviceIdText)

/-- The second element. -/
def hardwareId : Text :=
  vidText ++ (d.vid.val ++ (pidText ++ (d.pid.val ++
    d.mi.elim [] fun mm => miText ++ mm.val)))

/-- The id. -/
def text : Text :=
  d.bus ++ CHAR_BACKSLASH :: (d.hardwareId ++ CHAR_BACKSLASH :: d.inst)

/-- **The parts of an id are recovered.** -/
def Recovers (instanceID : Text) : Prop :=
  lBuildCommonInfo d.text instanceID =
    { vid := UInt32.ofNat (hexNumber d.vid.val)
      pid := UInt32.ofNat (hexNumber d.pid.val)
      mi := d.mi.elim UINT_MAX fun mm => UInt32.ofNat (hexNumber mm.val)
      instanceID := strupr d.inst }

end DeviceIdText

/-! ### The loop -/

section Loop

variable {buffer e r tail : List UInt8} {i : ℕ}

theorem takeWhile_append_nul (he : 0 ∉ e) : (e ++ 0 :: tail).takeWhile (· ≠ 0) = e := by
  rw [List.takeWhile_append_of_pos]
  · rw [List.takeWhile_cons_of_neg (by decide), List.append_nil]
  · intro c hc
    exact decide_eq_true fun h => he (h ▸ hc)

/-- A string that ends with a NUL. -/
theorem cString_eq (hdrop : buffer.drop i = e ++ 0 :: tail) (he : 0 ∉ e) :
    cString buffer i = e := by
  rw [cString, hdrop, takeWhile_append_nul he]

theorem strchr_of_not_mem {c : UInt8} (h : c ∉ cString buffer i) : strchr buffer i c = none := by
  rw [strchr, List.findIdx?_eq_none_iff.mpr]
  · rfl
  · intro x hx
    exact beq_eq_false_iff_ne.mpr fun heq => h (heq ▸ hx)

theorem strchr_of_append {c : UInt8} (h : cString buffer i = e ++ c :: r) (he : c ∉ e) :
    strchr buffer i c = some (i + e.length) := by
  have hnone : e.findIdx? (· == c) = none := List.findIdx?_eq_none_iff.mpr fun x hx =>
    beq_eq_false_iff_ne.mpr fun heq => he (heq ▸ hx)
  rw [strchr, h, List.findIdx?_append, hnone, List.findIdx?_cons]
  simp

/-- The loop is over at a null pointer. -/
theorem commonLoop_none (fuel pos : ℕ) (info : CommonInfo) :
    commonLoop fuel buffer none pos info = info := by
  cases fuel <;> rfl

/-- **The last pass.** -/
theorem commonLoop_last (hdrop : buffer.drop i = e ++ 0 :: tail) (hne : e ≠ []) (he : 0 ∉ e)
    (hsep : CHAR_BACKSLASH ∉ e) (fuel pos : ℕ) (info : CommonInfo) :
    commonLoop (fuel + 1) buffer (some i) pos info = info.element pos e := by
  have hstring := cString_eq hdrop he
  rw [commonLoop, strchr_of_not_mem (hstring ▸ hsep), hstring, if_neg hne]
  exact commonLoop_none fuel (pos + 1) _

/-- **A pass that cuts an element off.** -/
theorem commonLoop_cut (hdrop : buffer.drop i = e ++ CHAR_BACKSLASH :: (r ++ 0 :: tail))
    (he : 0 ∉ e) (hr : 0 ∉ r) (hsep : CHAR_BACKSLASH ∉ e) (fuel pos : ℕ) (info : CommonInfo) :
    ∃ buffer', buffer'.drop (i + e.length + 1) = r ++ 0 :: tail ∧
      commonLoop (fuel + 1) buffer (some i) pos info =
        commonLoop fuel buffer' (some (i + e.length + 1)) (pos + 1) (info.element pos e) := by
  have hwhole : buffer.drop i = (e ++ CHAR_BACKSLASH :: r) ++ 0 :: tail := by
    rw [hdrop, List.append_assoc, List.cons_append]
  have hnul : (0 : UInt8) ≠ CHAR_BACKSLASH := by decide
  have hstring : cString buffer i = e ++ CHAR_BACKSLASH :: r :=
    cString_eq hwhole (by simp [he, hr, hnul])
  have hcut : (buffer.set (i + e.length) 0).drop i = e ++ 0 :: (r ++ 0 :: tail) := by
    rw [List.drop_set, if_neg (by omega), Nat.add_sub_cancel_left, hdrop,
      List.set_append_right _ _ (Nat.le_refl _), Nat.sub_self, List.set_cons_zero]
  refine ⟨buffer.set (i + e.length) 0, ?_, ?_⟩
  · rw [Nat.add_assoc, ← List.drop_drop, hcut]
    simp
  · rw [commonLoop, hstring, if_neg (by simp), strchr_of_append hstring hsep]
    dsimp only
    rw [cString_eq hcut he]

end Loop

/-! ### The parts -/

theorem hexValue_upperChar (c : UInt8) : hexValue (upperChar c) = hexValue c := by
  have hall : ∀ x : BitVec 8,
      hexValue (upperChar (UInt8.ofBitVec x)) = hexValue (UInt8.ofBitVec x) := by decide
  exact hall c.toBitVec

theorem hexNumber_strupr (s : Text) : hexNumber (strupr s) = hexNumber s := by
  unfold hexNumber strupr
  rw [← List.map_reverse, List.map_map]
  refine congrArg _ (List.map_congr_left fun c _ => ?_)
  rw [Function.comp_apply, hexValue_upperChar]

theorem isHexDigit_of_mem_strupr {s : Text} (h : ∀ c ∈ s, isHexDigit c = true) :
    ∀ c ∈ strupr s, isHexDigit c = true := by
  intro c hc
  obtain ⟨x, hx, rfl⟩ := List.mem_map.mp hc
  rw [isHexDigit, hexValue_upperChar]
  exact h x hx

/-- A character that has no case is in the text where it was. -/
theorem mem_strupr {c : UInt8} {s : Text} (hc : c = 0 ∨ c = CHAR_BACKSLASH) :
    c ∈ strupr s ↔ c ∈ s := by
  have hall : ∀ x : BitVec 8, (upperChar (UInt8.ofBitVec x) = 0 ↔ UInt8.ofBitVec x = 0) ∧
      (upperChar (UInt8.ofBitVec x) = CHAR_BACKSLASH ↔ UInt8.ofBitVec x = CHAR_BACKSLASH) := by
    decide
  have hiff (x : UInt8) : upperChar x = c ↔ x = c := by
    rcases hc with rfl | rfl
    · exact (hall x.toBitVec).1
    · exact (hall x.toBitVec).2
  rw [strupr, List.mem_map]
  constructor
  · rintro ⟨x, hx, heq⟩
    exact (hiff x).mp heq ▸ hx
  · exact fun h => ⟨c, h, (hiff c).mpr rfl⟩

/-- Digits, in capital letters. -/
def DigitText.upper {width : ℕ} (s : DigitText width) : DigitText width :=
  ⟨strupr s.val, by rw [strupr, List.length_map, s.property.1],
    isHexDigit_of_mem_strupr s.property.2⟩

theorem scan_digits {width : ℕ} (hwidth : 0 < width) (s : DigitText width) (rest : Text)
    (format : List Directive) :
    HexFormat.scan (.hex width :: format) (s.upper.val ++ rest) =
      UInt32.ofNat (hexNumber s.val) :: HexFormat.scan format rest := by
  have hlength := s.upper.property.1
  have hne : s.upper.val ≠ [] := List.ne_nil_of_length_pos (by omega)
  rw [scan_hex hlength hne s.upper.property.2]
  exact congrArg (fun n => UInt32.ofNat n :: _) (hexNumber_strupr s.val)

namespace DeviceIdText

variable (d : DeviceIdText)

/-- The numbers that are scanned. -/
def numbers : List UInt32 :=
  UInt32.ofNat (hexNumber d.vid.val) :: UInt32.ofNat (hexNumber d.pid.val) ::
    d.mi.elim [] fun mm => [UInt32.ofNat (hexNumber mm.val)]

/-- The second element, in capital letters. -/
theorem strupr_hardwareId :
    strupr d.hardwareId = vidText ++ (d.vid.upper.val ++ (pidText ++ (d.pid.upper.val ++
      d.mi.elim [] fun mm => miText ++ mm.upper.val))) := by
  unfold hardwareId strupr
  rw [List.map_append, List.map_append, List.map_append, List.map_append]
  cases d.mi with
  | none => rfl
  | some mm => rw [Option.elim_some, List.map_append]; rfl

theorem scan_hardwareId :
    HexFormat.scan hardwareIdFormat (strupr d.hardwareId) = d.numbers := by
  rw [strupr_hardwareId, hardwareIdFormat, scan_literals, scan_digits (by decide), scan_literals,
    scan_digits (by decide), numbers]
  cases d.mi with
  | none => rfl
  | some mm =>
    have hmi := scan_digits (by decide) mm [] []
    rw [List.append_nil] at hmi
    rw [Option.elim_some, scan_literals, hmi]
    rfl

/-- The characters of the second element. -/
theorem hardwareId_noSep : CHAR_BACKSLASH ∉ d.hardwareId ∧ 0 ∉ d.hardwareId := by
  have hdigits {width : ℕ} (s : DigitText width) : CHAR_BACKSLASH ∉ s.val ∧ 0 ∉ s.val := by
    constructor
    · intro h
      cases s.property.2 _ h
    · intro h
      cases s.property.2 _ h
  have hmi : CHAR_BACKSLASH ∉ (d.mi.elim [] fun mm => miText ++ mm.val) ∧
      0 ∉ (d.mi.elim [] fun mm => miText ++ mm.val) := by
    cases d.mi with
    | none => exact ⟨List.not_mem_nil, List.not_mem_nil⟩
    | some mm =>
      obtain ⟨hsep, hnul⟩ := hdigits mm
      constructor
      · exact fun h => (List.mem_append.mp h).elim (by decide) hsep
      · exact fun h => (List.mem_append.mp h).elim (by decide) hnul
  have hvid := hdigits d.vid
  have hpid := hdigits d.pid
  have hliteral : CHAR_BACKSLASH ∉ vidText ∧ 0 ∉ vidText ∧ CHAR_BACKSLASH ∉ pidText ∧
    0 ∉ pidText := by decide
  unfold hardwareId
  simp only [List.mem_append, not_or]
  exact ⟨⟨hliteral.1, hvid.1, hliteral.2.2.1, hpid.1, hmi.1⟩,
    hliteral.2.1, hvid.2, hliteral.2.2.2, hpid.2, hmi.2⟩

theorem strupr_text : strupr d.text = strupr d.bus ++ CHAR_BACKSLASH ::
    (strupr d.hardwareId ++ CHAR_BACKSLASH :: strupr d.inst) := by
  unfold text strupr
  rw [List.map_append, List.map_cons, List.map_append, List.map_cons]
  rfl

/-- The loop comes to the three elements. -/
theorem commonLoop_text (info : CommonInfo) (fuel : ℕ) :
    commonLoop (fuel + 3) (strupr d.text ++ [0]) (some 0) 0 info =
      (info.assign d.numbers).element 2 (strupr d.inst) := by
  have hnoSep {s : Text} (h : CHAR_BACKSLASH ∉ s ∧ 0 ∉ s) :
      CHAR_BACKSLASH ∉ strupr s ∧ 0 ∉ strupr s :=
    ⟨mt (mem_strupr (.inr rfl)).mp h.1, mt (mem_strupr (.inl rfl)).mp h.2⟩
  have hbus := hnoSep d.bus_noSep
  have hhardware := hnoSep d.hardwareId_noSep
  have hinst := hnoSep d.inst_noSep
  have hnul : (0 : UInt8) ≠ CHAR_BACKSLASH := by decide
  have hne : strupr d.inst ≠ [] := fun h => d.inst_ne_nil (List.map_eq_nil_iff.mp h)
  have hrest : 0 ∉ strupr d.hardwareId ++ CHAR_BACKSLASH :: strupr d.inst := by
    simp [hhardware.2, hinst.2, hnul]
  have hdevID : (strupr d.text ++ [0]).drop 0 = strupr d.bus ++ CHAR_BACKSLASH ::
      ((strupr d.hardwareId ++ CHAR_BACKSLASH :: strupr d.inst) ++ 0 :: []) := by
    rw [List.drop_zero, strupr_text, List.append_assoc, List.cons_append]
  obtain ⟨second, hsecond, hfirst⟩ :=
    commonLoop_cut hdevID hbus.2 hrest hbus.1 (fuel + 2) 0 info
  rw [List.append_assoc, List.cons_append] at hsecond
  obtain ⟨third, hthird, hcut⟩ :=
    commonLoop_cut hsecond hhardware.2 hinst.2 hhardware.1 (fuel + 1) 1 (info.element 0 _)
  rw [hfirst, hcut, commonLoop_last hthird hne hinst.2 hinst.1, CommonInfo.element,
    CommonInfo.element, scan_hardwareId]
  rfl

/-- A mask that keeps the number. -/
theorem masked_ofNat {n : ℕ} (h : n < 2 ^ 16) :
    (if UInt32.ofNat n ≠ UINT_MAX then UInt32.ofNat n &&& 0xFFFF else UInt32.ofNat n) =
      UInt32.ofNat n := by
  rw [ite_eq_right_iff]
  intro _
  refine UInt32.toNat_inj.mp ?_
  rw [UInt32.toNat_and]
  have hn : (UInt32.ofNat n).toNat = n := by
    rw [UInt32.toNat_ofNat']
    omega
  rw [hn]
  exact (Nat.and_two_pow_sub_one_eq_mod n 16).trans (Nat.mod_eq_of_lt h)

/-- The mask of the interface number keeps it where it has seven bits. -/
theorem masked_mi_iff {n : ℕ} (h : n < 2 ^ 8) :
    (if UInt32.ofNat n ≠ UINT_MAX then UInt32.ofNat n &&& 0x7F else UInt32.ofNat n) =
      UInt32.ofNat n ↔ n < 128 := by
  have hn : (UInt32.ofNat n).toNat = n := by
    rw [UInt32.toNat_ofNat']
    omega
  have hmax : UInt32.ofNat n ≠ UINT_MAX := by
    intro heq
    rw [heq] at hn
    have hbig : UINT_MAX.toNat = 4294967295 := rfl
    omega
  rw [if_pos hmax, ← UInt32.toNat_inj, UInt32.toNat_and, hn]
  have hmod : n &&& (0x7F : UInt32).toNat = n % 128 := Nat.and_two_pow_sub_one_eq_mod n 7
  rw [hmod]
  omega

theorem hexNumber_digits_lt {width : ℕ} (s : DigitText width) : hexNumber s.val < 16 ^ width := by
  have h := hexNumber_lt s.val
  rwa [s.property.1] at h

/-- **The parts of an id are recovered exactly when** the interface number, if there is one, is
below 128. -/
theorem recovers_iff (instanceID : Text) :
    d.Recovers instanceID ↔ ∀ mm, d.mi = some mm → hexNumber mm.val < 128 := by
  have hlength : ∃ fuel, d.text.length + 1 = fuel + 3 := by
    refine ⟨d.text.length - 2, ?_⟩
    unfold text
    simp only [List.length_append, List.length_cons]
    omega
  obtain ⟨fuel, hfuel⟩ := hlength
  have hvid := masked_ofNat (hexNumber_digits_lt d.vid)
  have hpid := masked_ofNat (hexNumber_digits_lt d.pid)
  unfold Recovers lBuildCommonInfo
  rw [hfuel]
  dsimp only
  rw [commonLoop_text]
  unfold CommonInfo.element CommonInfo.assign CommonInfo.masked numbers
  cases hmi : d.mi with
  | none =>
    refine iff_of_true ?_ nofun
    simp only [Option.elim_none, List.getD_cons_zero, List.getD_cons_succ, List.getD_nil, hvid,
      hpid]
    rfl
  | some mm =>
    have hmm := masked_mi_iff (hexNumber_digits_lt mm)
    simp only [Option.elim_some, List.getD_cons_zero, List.getD_cons_succ, hvid, hpid,
      CommonInfo.mk.injEq, true_and, and_true, Option.some.injEq, forall_eq']
    exact hmm

/-- The first interface of a device that numbers it 128. -/
def interface128 : DeviceIdText where
  bus := [0x55, 0x53, 0x42]
  vid := ⟨[0x30, 0x34, 0x44, 0x38], rfl, List.all_eq_true.mp rfl⟩
  pid := ⟨[0x46, 0x41, 0x32, 0x65], rfl, List.all_eq_true.mp rfl⟩
  mi := some ⟨[0x38, 0x30], rfl, List.all_eq_true.mp rfl⟩
  inst := [0x36, 0x26, 0x30]
  bus_noSep := by decide
  inst_noSep := by decide
  inst_ne_nil := by decide

/-- It is taken for the interface zero. -/
theorem not_recovers_interface128 : ¬interface128.Recovers [] := by
  intro h
  have hmi := congrArg CommonInfo.mi h
  exact absurd hmi (by decide)

end DeviceIdText

end LibusbK
