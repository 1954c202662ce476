import LibusbK.Dll.CommonInfo
import LibusbK.Dll.GuidText
import LibusbK.Lib.MultiString

/-!
# The GUIDs in the registry

The walk over the interface GUIDs of a device in `l_EnumKey_Guids` of `lusbk_device_list.c`.  The
value `DeviceInterfaceGUIDs`, or else `DeviceInterfaceGUID`, is read into an array of 1024 bytes,
in which whatever was there before stays behind it.  The type of a value is not asked for, so a
value is just bytes.  An access outside the array or the copy of the string ends the model.

## Main definitions

* `RegQuery` — what a query of the registry does.
* `fillGuids`, `walkGuids`, `enumGuids` — the function.
* `Walks` — what the walk is for.

## Main results

* `walkGuids_encode`, `encode_of_walkGuids` — the walk keeps to its array exactly when a list of
  strings is in it with all its terminators.
* `walks_iff` — and so it does exactly when the terminators a value lacks are found there.
-/

namespace LibusbK

open HexFormat MultiString

/-- `KUSB_DRVID` -/
inductive DriverId
  | libusbK
  | libusb0
  | winUsb
  | libusb0Filter
  deriving DecidableEq, Repr

/-- `{6C696275-7362-2D77-696E-33322D574446}`: `LibusbKDeviceGuidA` -/
def libusbKDeviceGuidA : Text :=
  [0x7B, 0x36, 0x43, 0x36, 0x39, 0x36, 0x32, 0x37, 0x35, 0x2D, 0x37, 0x33, 0x36, 0x32, 0x2D, 0x32,
    0x44, 0x37, 0x37, 0x2D, 0x36, 0x39, 0x36, 0x45, 0x2D, 0x33, 0x33, 0x33, 0x32, 0x32, 0x44, 0x35,
    0x37, 0x34, 0x34, 0x34, 0x36, 0x7D]

/-- `{20343A29-6DA1-4DB8-8A3C-16E774057BF5}`: `Libusb0DeviceGuidA` -/
def libusb0DeviceGuidA : Text :=
  [0x7B, 0x32, 0x30, 0x33, 0x34, 0x33, 0x41, 0x32, 0x39, 0x2D, 0x36, 0x44, 0x41, 0x31, 0x2D, 0x34,
    0x44, 0x42, 0x38, 0x2D, 0x38, 0x41, 0x33, 0x43, 0x2D, 0x31, 0x36, 0x45, 0x37, 0x37, 0x34, 0x30,
    0x35, 0x37, 0x42, 0x46, 0x35, 0x7D]

/-! ### The array -/

abbrev GUID_ARRAY_SIZE : ℕ := 1024
abbrev KLST_STRING_MAX_LEN : ℕ := 256

/-- `devInterfaceGuidArray` -/
abbrev GuidArray := { bytes : List UInt8 // bytes.length = GUID_ARRAY_SIZE }

/-- Bytes that are written to the beginning of the array. -/
def GuidArray.copyIn (array : GuidArray) (data : List UInt8)
    (h : data.length ≤ GUID_ARRAY_SIZE) : GuidArray :=
  ⟨data ++ array.val.drop data.length, by
    rw [List.length_append, List.length_drop, array.property]
    omega⟩

/-- `RegQueryValueExA`: the bytes of the value, or an error and what it leaves in the array and in
`length`. -/
inductive RegQuery
  | value (data : { data : List UInt8 // data.length ≤ GUID_ARRAY_SIZE })
  | error (array : GuidArray) (length : UInt32)

/-- Whether the status is `ERROR_SUCCESS`, the array and `length`. -/
def RegQuery.answer (array : GuidArray) : RegQuery → Bool × GuidArray × UInt32
  | .value data =>
    (true, array.copyIn data.val data.property, UInt32.ofNat data.val.length)
  | .error array length => (false, array, length)

/-- The default of a driver, where it has one. -/
def DriverId.defaultGuid : DriverId → Option Text
  | .libusbK => some libusbKDeviceGuidA
  | .libusb0 => some libusb0DeviceGuidA
  | .winUsb => none
  | .libusb0Filter => none

theorem length_defaultGuid {driver : DriverId} {data : Text} (h : driver.defaultGuid = some data) :
    data.length = GUID_STRING_LENGTH := by
  cases driver with
  | libusbK => rw [← Option.some.inj h]; rfl
  | libusb0 => rw [← Option.some.inj h]; rfl
  | winUsb => cases h
  | libusb0Filter => cases h

/-- The `memcpy` of the default. -/
def DriverId.copyDefault (driver : DriverId) (array : GuidArray) (length : UInt32) :
    Bool × GuidArray × UInt32 :=
  match h : driver.defaultGuid with
  | some data =>
    (true, array.copyIn data (by rw [length_defaultGuid h]; decide), UInt32.ofNat data.length)
  | none => (false, array, length)

/-- The three bytes that are written behind what was read, or `none` if one of them is outside
the array. -/
def GuidArray.terminate (array : GuidArray) (length : ℕ) : Option GuidArray :=
  if length + 2 < GUID_ARRAY_SIZE then
    some ⟨((array.val.set length 0).set (length + 1) 0).set (length + 2) 0, by
      simp only [List.length_set, array.property]⟩
  else none

/-- What is there for the walk. -/
inductive GuidFill
  | filled (array : GuidArray)
  /-- `goto NextInstance` -/
  | next
  /-- A byte outside the array was written. -/
  | outside

/-- The array is filled from one of the values, or else with the default of the driver. -/
def fillGuids (driver : DriverId) (array : GuidArray) (guids guid : RegQuery) : GuidFill :=
  let (status, array, _) := guids.answer array
  if status then .filled array
  else
    let (status, array, length) := guid.answer array
    let (status, array, length) :=
      if status then (status, array, length) else driver.copyDefault array length
    if status then
      match array.terminate length.toNat with
      | some array => .filled array
      | none => .outside
    else .next

/-! ### The walk -/

/-- How the walk ends, and the strings it has come to. -/
inductive GuidWalk
  /-- The walk has come to an empty string. -/
  | done (visited : List Text)
  /-- `l_EnumKey_Instances` has failed. -/
  | error (visited : List Text)
  /-- There was nothing to walk over. -/
  | next
  /-- A byte outside the array was written or read. -/
  | outside
  /-- A string was copied that is longer than `DeviceInterfaceGUID`. -/
  | overflow
  /-- The walk goes on. -/
  | running
  deriving DecidableEq, Repr

section Walk

/-! `instances` is what `l_EnumKey_Instances` answers, given the strings there were before and the
GUID it is called for. -/

variable (instances : List Text → Guid → Bool)

/-- The walk from a position. -/
def walkGuids : ℕ → GuidArray → ℕ → List Text → GuidWalk
  | 0, _, _, _ => .running
  | fuel + 1, array, pos, visited =>
    match array.val[pos]? with
    | none => .outside
    | some c =>
      if c = 0 then .done visited
      else
        let s := cString array.val pos
        -- `strlen` comes to no NUL
        if GUID_ARRAY_SIZE ≤ pos + s.length then .outside
        else if KLST_STRING_MAX_LEN ≤ s.length then .overflow
        else
          match stringToGuid s with
          | none => walkGuids fuel array (pos + s.length + 1) (visited ++ [s])
          | some guid =>
            if instances visited guid then
              walkGuids fuel array (pos + s.length + 1) (visited ++ [s])
            else .error (visited ++ [s])

/-- The two queries and the walk. -/
def enumGuids (driver : DriverId) (array : GuidArray) (guids guid : RegQuery) : GuidWalk :=
  match fillGuids driver array guids guid with
  | .filled array => walkGuids instances (GUID_ARRAY_SIZE + 1) array 0 []
  | .next => .next
  | .outside => .outside

/-- A walk over a list of strings: all of them, up to one for which `l_EnumKey_Instances`
fails. -/
def visits : List Text → List Text → GuidWalk
  | visited, [] => .done visited
  | visited, s :: ss =>
    match stringToGuid s with
    | none => visits (visited ++ [s]) ss
    | some guid => if instances visited guid then visits (visited ++ [s]) ss
      else .error (visited ++ [s])

end Walk

/-- The value that counts: that of the first query that succeeds, or else the default. -/
def listedValue (driver : DriverId) : RegQuery → RegQuery → Option (List UInt8)
  | .value data, _ => some data.val
  | .error _ _, .value data => some data.val
  | .error _ _, .error _ _ => driver.defaultGuid

/-- **The walk keeps to its buffers, ends, and comes to each string that is listed**, once and in
order, whatever `l_EnumKey_Instances` answers. -/
def Walks (driver : DriverId) (array : GuidArray) (guids guid : RegQuery) : Prop :=
  ∀ instances, enumGuids instances driver array guids guid =
    match listedValue driver guids guid with
    | some data => visits instances [] (listed 0 data)
    | none => .next

/-- Each string fits `DeviceInterfaceGUID`. -/
def StringsFit (data : List UInt8) : Prop := ∀ s ∈ listed 0 data, s.length < KLST_STRING_MAX_LEN

/-- The first value is found with what it lacks of its terminators in the bytes that were behind
it; the second one leaves room for three bytes. -/
def ValueTerminated (array : GuidArray) : RegQuery → RegQuery → Prop
  | .value data, _ =>
    List.replicate (missing 0 data.val) 0 <+: array.val.drop data.val.length ∧
      StringsFit data.val
  | .error _ _, .value data => data.val.length + 2 < GUID_ARRAY_SIZE ∧ StringsFit data.val
  | .error _ _, .error _ _ => True

/-! ### One string -/

section Walk

variable {instances : List Text → Guid → Bool} {array : GuidArray} {pos : ℕ} {s : Text}
  {tail : List UInt8}

theorem getElem?_of_drop {c : UInt8} (h : array.val.drop pos = c :: tail) :
    array.val[pos]? = some c := by
  rw [← List.head?_drop, h]
  rfl

/-- The walk is over at an empty string. -/
theorem walkGuids_done (h : array.val.drop pos = 0 :: tail) (fuel : ℕ) (visited : List Text) :
    walkGuids instances (fuel + 1) array pos visited = .done visited := by
  rw [walkGuids, getElem?_of_drop h]
  exact if_pos rfl

/-- **A string of the walk**, with its NUL. -/
theorem walkGuids_string (h : array.val.drop pos = s ++ 0 :: tail) (hne : s ≠ []) (hnul : 0 ∉ s)
    (hfits : s.length < KLST_STRING_MAX_LEN) (fuel : ℕ) (visited : List Text) :
    walkGuids instances (fuel + 1) array pos visited =
      match stringToGuid s with
      | none => walkGuids instances fuel array (pos + s.length + 1) (visited ++ [s])
      | some guid => if instances visited guid then
          walkGuids instances fuel array (pos + s.length + 1) (visited ++ [s])
        else .error (visited ++ [s]) := by
  obtain ⟨c, e, rfl⟩ := List.exists_cons_of_ne_nil hne
  have hc : c ≠ 0 := fun hzero => hnul (hzero ▸ List.mem_cons_self)
  have hinside : ¬GUID_ARRAY_SIZE ≤ pos + (c :: e).length := by
    have hlength := congrArg List.length h
    rw [List.length_drop, array.property, List.length_append, List.length_cons (a := 0)] at hlength
    omega
  rw [walkGuids, getElem?_of_drop h]
  dsimp only
  rw [if_neg hc, cString_eq h hnul, if_neg hinside, if_neg (by omega)]

/-- Where the next string starts. -/
theorem drop_next (h : array.val.drop pos = s ++ 0 :: tail) :
    array.val.drop (pos + s.length + 1) = tail := by
  rw [Nat.add_assoc, ← List.drop_drop, h]
  simp

/-- **A list of strings that is in the array with its terminators** is walked over. -/
theorem walkGuids_encode {ss : List Text} (hss : ∀ s ∈ ss, s ≠ [] ∧ 0 ∉ s)
    (hfits : ∀ s ∈ ss, s.length < KLST_STRING_MAX_LEN)
    (h : encode 0 ss <+: array.val.drop pos) {fuel : ℕ} (hfuel : ss.length < fuel)
    (visited : List Text) :
    walkGuids instances fuel array pos visited = visits instances visited ss := by
  induction ss generalizing fuel pos visited with
  | nil =>
    obtain ⟨rest, hrest⟩ := h
    obtain ⟨n, rfl⟩ := Nat.exists_eq_succ_of_ne_zero (Nat.ne_of_gt hfuel)
    exact walkGuids_done hrest.symm n visited
  | cons s ss ih =>
    obtain ⟨rest, hrest⟩ := h
    rw [encode_cons, List.append_assoc, List.cons_append] at hrest
    obtain ⟨n, rfl⟩ := Nat.exists_eq_succ_of_ne_zero (Nat.ne_of_gt (Nat.zero_lt_of_lt hfuel))
    obtain ⟨hs, hss⟩ := List.forall_mem_cons.mp hss
    obtain ⟨hfit, hfits⟩ := List.forall_mem_cons.mp hfits
    have hnext : encode 0 ss <+: array.val.drop (pos + s.length + 1) := by
      rw [drop_next hrest.symm]
      exact List.prefix_append _ _
    rw [walkGuids_string hrest.symm hs.1 hs.2 hfit, visits]
    rw [List.length_cons] at hfuel
    cases stringToGuid s with
    | none => exact ih hss hfits hnext (by omega) _
    | some guid =>
      dsimp only
      rw [ih hss hfits hnext (by omega)]

/-- A string that `strlen` finds the end of. -/
theorem drop_eq_of_length_lt (h : pos + (cString array.val pos).length < GUID_ARRAY_SIZE) :
    ∃ tail, array.val.drop pos = cString array.val pos ++ 0 :: tail ∧
      0 ∉ cString array.val pos := by
  have hnul : 0 ∉ cString array.val pos := fun hmem =>
    absurd (List.mem_takeWhile_imp hmem) (by decide)
  have hsplit := List.takeWhile_append_dropWhile (p := (· ≠ 0)) (l := array.val.drop pos)
  cases hrest : (array.val.drop pos).dropWhile (· ≠ 0) with
  | nil =>
    have hlength := congrArg List.length hsplit
    rw [hrest, List.append_nil, List.length_drop, array.property] at hlength
    rw [cString] at h
    omega
  | cons c tail =>
    have hc : c = 0 := by
      have hhead := List.head?_dropWhile_not (· ≠ 0) (array.val.drop pos)
      rw [hrest] at hhead
      simpa using hhead
    refine ⟨tail, ?_, hnul⟩
    rw [← hc, ← hrest, cString]
    exact hsplit.symm

/-- **A walk that comes to its end** has gone over a list of strings with its terminators. -/
theorem encode_of_walkGuids {fuel : ℕ} {visited visited' : List Text}
    (h : walkGuids (fun _ _ => true) fuel array pos visited = .done visited') :
    ∃ ss, visited' = visited ++ ss ∧ encode 0 ss <+: array.val.drop pos ∧
      ∀ s ∈ ss, s.length < KLST_STRING_MAX_LEN := by
  induction fuel generalizing pos visited with
  | zero => cases h
  | succ fuel ih =>
    have hget := List.head?_drop (l := array.val) (i := pos)
    rw [walkGuids, ← hget] at h
    cases hdrop : array.val.drop pos with
    | nil => rw [hdrop] at h; cases h
    | cons c rest =>
      rw [hdrop] at h
      dsimp only [List.head?_cons] at h
      by_cases hc : c = 0
      · rw [if_pos hc] at h
        refine ⟨[], ?_, ?_, nofun⟩
        · rw [List.append_nil]
          exact (GuidWalk.done.inj h).symm
        · rw [hc]
          exact ⟨rest, rfl⟩
      · rw [if_neg hc] at h
        by_cases hinside : GUID_ARRAY_SIZE ≤ pos + (cString array.val pos).length
        · rw [if_pos hinside] at h
          cases h
        · rw [if_neg hinside] at h
          by_cases hfit : KLST_STRING_MAX_LEN ≤ (cString array.val pos).length
          · rw [if_pos hfit] at h
            cases h
          · rw [if_neg hfit] at h
            have hnext : walkGuids (fun _ _ => true) fuel array
                (pos + (cString array.val pos).length + 1)
                (visited ++ [cString array.val pos]) = .done visited' := by
              cases hguid : stringToGuid (cString array.val pos) with
              | none => rwa [hguid] at h
              | some guid => rwa [hguid] at h
            obtain ⟨tail, htail, -⟩ := drop_eq_of_length_lt (Nat.lt_of_not_le hinside)
            obtain ⟨ss, hss, hstart, hfits⟩ := ih hnext
            refine ⟨cString array.val pos :: ss, ?_, ?_, ?_⟩
            · rw [hss, List.append_assoc, List.singleton_append]
            · rw [drop_next htail] at hstart
              rw [← hdrop, htail, encode_cons, List.prefix_append_right_inj]
              exact List.cons_prefix_cons.mpr ⟨rfl, hstart⟩
            · exact List.forall_mem_cons.mpr ⟨Nat.lt_of_not_le hfit, hfits⟩

/-- Where nothing fails, all strings are visited. -/
theorem visits_true (visited ss : List Text) :
    visits (fun _ _ => true) visited ss = .done (visited ++ ss) := by
  induction ss generalizing visited with
  | nil => rw [visits, List.append_nil]
  | cons s ss ih =>
    rw [visits, ih, List.append_assoc]
    cases stringToGuid s with
    | none => rfl
    | some guid => rfl

/-- **The walk over what has been read** is as it should be exactly when the terminators that
are missing are behind it, and the strings fit. -/
theorem walkGuids_eq_visits_iff (array : GuidArray) {data behind : List UInt8}
    (h : array.val = data ++ behind) :
    (∀ instances, walkGuids instances (GUID_ARRAY_SIZE + 1) array 0 [] =
        visits instances [] (listed 0 data)) ↔
      List.replicate (missing 0 data) 0 <+: behind ∧ StringsFit data := by
  have hdrop : array.val.drop 0 = data ++ behind := by rw [List.drop_zero, h]
  constructor
  · intro hwalk
    have hdone := (hwalk fun _ _ => true).trans (visits_true [] (listed 0 data))
    obtain ⟨ss, hss, hstart, hfits⟩ := encode_of_walkGuids hdone
    rw [List.nil_append, List.nil_append] at hss
    rw [← hss, hdrop, encode_listed_prefix_iff] at hstart
    refine ⟨hstart, fun s hs => hfits s ?_⟩
    rwa [← hss]
  · rintro ⟨hbehind, hfits⟩ instances
    have hstart : encode 0 (listed 0 data) <+: array.val.drop 0 := by
      rw [hdrop, encode_listed_prefix_iff]
      exact hbehind
    have hlength := (length_lt_length_encode 0 (listed 0 data)).trans_le hstart.length_le
    rw [List.drop_zero, array.property] at hlength
    exact walkGuids_encode (fun s hs => of_mem_listed hs) hfits hstart
      (Nat.lt_succ_of_lt hlength) []

end Walk

/-! ### The array is filled -/

section Fill

variable {array : GuidArray} {data : List UInt8}

/-- The terminators stand behind what was read, if there is room for them. -/
theorem terminate_copyIn (array : GuidArray) (h : data.length ≤ GUID_ARRAY_SIZE)
    (hroom : data.length + 2 < GUID_ARRAY_SIZE) :
    ∃ terminated rest, (array.copyIn data h).terminate data.length = some terminated ∧
      terminated.val = data ++ 0 :: 0 :: 0 :: rest := by
  have hbehind : 3 ≤ (array.val.drop data.length).length := by
    rw [List.length_drop, array.property]
    omega
  match hdrop : array.val.drop data.length with
  | [] | [_] | [_, _] => simp [hdrop] at hbehind
  | b0 :: b1 :: b2 :: rest =>
    refine ⟨_, rest, if_pos hroom, ?_⟩
    show (((data ++ array.val.drop data.length).set data.length 0).set (data.length + 1) 0).set
      (data.length + 2) 0 = _
    rw [hdrop]
    simp [List.set_append_right]

/-- Behind three NULs nothing is missing. -/
theorem missing_behind (rest : List UInt8) :
    List.replicate (missing 0 data) 0 <+: 0 :: 0 :: 0 :: rest := by
  have hle := missing_le 0 data
  interval_cases missing 0 data
  · exact List.nil_prefix
  · exact ⟨0 :: 0 :: rest, rfl⟩
  · exact ⟨0 :: rest, rfl⟩

/-- What has been read, with the terminators behind it. -/
def terminated (array : GuidArray) (data : List UInt8) (h : data.length ≤ GUID_ARRAY_SIZE) :
    GuidFill :=
  match (array.copyIn data h).terminate data.length with
  | some array => .filled array
  | none => .outside

theorem toNat_ofNat_length (h : data.length ≤ GUID_ARRAY_SIZE) :
    (UInt32.ofNat data.length).toNat = data.length := by
  rw [UInt32.toNat_ofNat']
  exact Nat.mod_eq_of_lt (h.trans_lt (by decide))

theorem fillGuids_second (driver : DriverId) (left : GuidArray) (length : UInt32)
    (data : { data : List UInt8 // data.length ≤ GUID_ARRAY_SIZE }) :
    fillGuids driver array (.error left length) (.value data) =
      terminated left data.val data.property := by
  unfold fillGuids terminated
  dsimp only [RegQuery.answer]
  rw [if_neg Bool.false_ne_true, if_pos rfl, if_pos rfl, toNat_ofNat_length data.property]

theorem fillGuids_default {driver : DriverId} (hdefault : driver.defaultGuid = some data)
    (array left left' : GuidArray) (length length' : UInt32) :
    ∃ h, fillGuids driver array (.error left length) (.error left' length') =
      terminated left' data h := by
  have h : data.length ≤ GUID_ARRAY_SIZE := by
    rw [length_defaultGuid hdefault]
    decide
  have hcopy : driver.copyDefault left' length' =
      (true, left'.copyIn data h, UInt32.ofNat data.length) := by
    unfold DriverId.copyDefault
    split
    next data' hdata =>
      obtain rfl := Option.some.inj (hdata.symm.trans hdefault)
      rfl
    next hnone =>
      rw [hdefault] at hnone
      cases hnone
  refine ⟨h, ?_⟩
  unfold fillGuids terminated
  dsimp only [RegQuery.answer]
  rw [if_neg Bool.false_ne_true, if_neg Bool.false_ne_true, hcopy]
  dsimp only
  rw [if_pos rfl, toNat_ofNat_length h]

theorem fillGuids_next {driver : DriverId} (hdefault : driver.defaultGuid = none)
    (left left' : GuidArray) (length length' : UInt32) :
    fillGuids driver array (.error left length) (.error left' length') = .next := by
  cases driver with
  | libusbK => cases hdefault
  | libusb0 => cases hdefault
  | winUsb => rfl
  | libusb0Filter => rfl

/-- The walk over the first value. -/
theorem walks_value_iff (driver : DriverId) (array : GuidArray)
    (data : { data : List UInt8 // data.length ≤ GUID_ARRAY_SIZE }) (guid : RegQuery) :
    Walks driver array (.value data) guid ↔
      List.replicate (missing 0 data.val) 0 <+: array.val.drop data.val.length ∧
        StringsFit data.val :=
  walkGuids_eq_visits_iff (array.copyIn data.val data.property) rfl

/-- The walk over what was read with terminators. -/
theorem walks_terminated_iff {driver : DriverId} {guids guid : RegQuery}
    (h : data.length ≤ GUID_ARRAY_SIZE) {left : GuidArray}
    (hfill : fillGuids driver array guids guid = terminated left data h)
    (hvalue : listedValue driver guids guid = some data) :
    Walks driver array guids guid ↔ data.length + 2 < GUID_ARRAY_SIZE ∧ StringsFit data := by
  unfold Walks enumGuids
  rw [hfill, hvalue]
  by_cases hroom : data.length + 2 < GUID_ARRAY_SIZE
  · obtain ⟨filled, rest, hterminate, hfilled⟩ := terminate_copyIn left h hroom
    rw [terminated, hterminate]
    dsimp only
    rw [walkGuids_eq_visits_iff filled hfilled, and_iff_right (missing_behind rest),
      and_iff_right hroom]
  · have hterminate : (left.copyIn data h).terminate data.length = none := if_neg hroom
    rw [terminated, hterminate]
    refine iff_of_false (fun hwalk => ?_) fun hand => hroom hand.1
    have hdone := (hwalk fun _ _ => true).trans (visits_true [] (listed 0 data))
    cases hdone

/-- A default is short, and one string. -/
theorem stringsFit_default {driver : DriverId} (h : driver.defaultGuid = some data) :
    data.length + 2 < GUID_ARRAY_SIZE ∧ StringsFit data := by
  have hlength := length_defaultGuid h
  have hnul : 0 ∉ data := by
    cases driver with
    | libusbK => rw [← Option.some.inj h]; decide
    | libusb0 => rw [← Option.some.inj h]; decide
    | winUsb => cases h
    | libusb0Filter => cases h
  have hne : data ≠ [] := List.ne_nil_of_length_pos (by rw [hlength]; decide)
  refine ⟨by rw [hlength]; decide, fun s hs => ?_⟩
  rw [listed_of_not_mem hnul, if_neg hne] at hs
  rw [List.mem_singleton.mp hs, hlength]
  decide

end Fill

/-- **The walk over the GUIDs of a device keeps to its buffers, ends, and comes to each string
that is listed exactly when** the first value is found with the terminators it lacks in the bytes
that were behind it in the array, or the second one has 1021 bytes at most, and the strings
fit. -/
theorem walks_iff (driver : DriverId) (array : GuidArray) (guids guid : RegQuery) :
    Walks driver array guids guid ↔ ValueTerminated array guids guid := by
  cases guids with
  | value data => exact walks_value_iff driver array data guid
  | error left length =>
    cases guid with
    | value data =>
      exact walks_terminated_iff data.property (fillGuids_second driver left length data) rfl
    | error left' length' =>
      refine iff_of_true ?_ trivial
      cases hdefault : driver.defaultGuid with
      | some data =>
        obtain ⟨h, hfill⟩ := fillGuids_default hdefault array left left' length length'
        exact (walks_terminated_iff h hfill hdefault).mpr (stringsFit_default hdefault)
      | none =>
        intro instances
        rw [enumGuids, fillGuids_next hdefault, listedValue, hdefault]

/-- A value without a NUL that fills the array. -/
def longValue : { data : List UInt8 // data.length ≤ GUID_ARRAY_SIZE } :=
  ⟨List.replicate GUID_ARRAY_SIZE 0x41, List.length_replicate.le⟩

def blankArray : GuidArray := ⟨List.replicate GUID_ARRAY_SIZE 0, List.length_replicate⟩

theorem missing_longValue : missing 0 longValue.val = 2 := by
  have hnul : 0 ∉ longValue.val := fun hmem =>
    absurd (List.eq_of_mem_replicate hmem) (by decide)
  have hne : longValue.val ≠ [] := List.ne_nil_of_mem (List.mem_replicate.mpr ⟨by decide, rfl⟩)
  rw [missing_of_not_mem hnul, if_neg hne]

/-- Nothing ends the walk inside the array. -/
theorem not_walks_longValue : ¬Walks .winUsb blankArray (.value longValue) (.value longValue) := by
  intro hwalks
  obtain ⟨hbehind, -⟩ := (walks_value_iff _ _ _ _).mp hwalks
  have hle := hbehind.length_le
  have hlength : longValue.val.length = GUID_ARRAY_SIZE := List.length_replicate
  rw [missing_longValue, List.length_replicate, List.length_drop, blankArray.property,
    hlength] at hle
  exact absurd hle (by decide)

end LibusbK
