import LibusbK.Driver.Configure
import Mathlib.Data.List.Find

/-!
# Requests for alternate settings

What `DefaultQueue_OnIoControl` does with `LIBUSBK_IOCTL_SET_INTERFACE` and
`LIBUSBK_IOCTL_GET_INTERFACE` (`drv_queue_default.c`), and which alternate setting is
selected for each interface number after it.

## Main definitions

* `InterfaceSettings`, `SettingOutcome` — the settings the framework knows of, and what it
  answers while one of them is selected.
* `onSetInterface`, `onGetInterface` — the requests.
* `DeviceState.altSetting` — what is selected for an interface number.
* `SetsOrKeeps` — a request that succeeds selects what it asks for, and one that fails
  selects nothing.

## Main results

* `setsOrKeeps_onSetInterface` — a request does so if it fails at no step after the
  framework has selected the setting.
* `describedBy_deviceConfigure` — the interface contexts of a configured device describe
  settings that the framework knows of.
-/

namespace LibusbK

/-! ### The requests -/

/-- The alternate settings of an interface: `WdfUsbInterfaceGetNumSettings` and
`WdfUsbInterfaceGetDescriptor`.  All of them are of one interface number. -/
structure InterfaceSettings where
  bInterfaceNumber : UInt8
  numSettings : UInt8
  descriptor : UInt8 → UsbInterfaceDescriptor
  bInterfaceNumber_descriptor :
    ∀ j < numSettings, (descriptor j).bInterfaceNumber = bInterfaceNumber

/-- What the framework answers when a setting is selected and read back. -/
structure SettingOutcome where
  /-- `WdfUsbInterfaceSelectSetting`. -/
  selectSetting : NTSTATUS := STATUS_SUCCESS
  /-- `WdfUsbInterfaceGetConfiguredSettingIndex`. -/
  configuredSettingIndex : UInt8 := 0
  /-- `WdfUsbInterfaceGetConfiguredPipe`, for each of the configured pipes. -/
  configuredPipes : List (Option (ℕ × PipeInformation)) := []
  /-- The answers while the pipe at an index is started. -/
  start : ℕ → StartAnswers := fun _ => {}

/-- All the framework answers while the setting of the interface is changed. -/
def InterfaceSettings.answers (settings : InterfaceSettings) (outcome : SettingOutcome) :
    InterfaceAnswers where
  numSettings := settings.numSettings
  descriptor := settings.descriptor
  selectSetting := outcome.selectSetting
  configuredSettingIndex := outcome.configuredSettingIndex
  configuredPipes := outcome.configuredPipes
  start := outcome.start

/-- `Interface_GetAltSetting`. -/
def interfaceGetAltSetting (s : DeviceState) (intf : InterfaceRequest) : Except NTSTATUS ℕ :=
  getInterfaceContextFromRequest s intf

/-- `SetKInterfaceOutput`. -/
def setKInterfaceOutput (intf : InterfaceRequest) (ic : InterfaceContext) : InterfaceRequest :=
  { intf with
    interfaceNumber := ic.interfaceDescriptor.bInterfaceNumber.toUInt32
    interfaceIndex := Int16.ofNat ic.interfaceIndex.toNat
    altsettingNumber := ic.interfaceDescriptor.bAlternateSetting.toUInt32
    altsettingIndex := Int16.ofNat ic.settingIndex.toNat }

/-- `case LIBUSBK_IOCTL_SET_INTERFACE`, with what the request returns; `outputBuffer` is
what `WdfRequestRetrieveOutputBuffer` answers. -/
def onSetInterface (settings : ℕ → InterfaceSettings) (s : DeviceState) (intf : InterfaceRequest)
    (outputBuffer : NTSTATUS) (outcome : SettingOutcome) :
    DeviceState × Except NTSTATUS InterfaceRequest :=
  if !ntSuccess outputBuffer then (s, .error outputBuffer)
  else
    match getInterfaceContextFromRequest s intf with
    | .error status => (s, .error status)
    | .ok i =>
      let r := interfaceSetAltSetting s intf ((settings i).answers outcome)
      (r.1, if ntSuccess r.2 then .ok (setKInterfaceOutput intf (r.1.interfaces i)) else .error r.2)

/-- `case LIBUSBK_IOCTL_GET_INTERFACE`. -/
def onGetInterface (s : DeviceState) (intf : InterfaceRequest) (outputBuffer : NTSTATUS) :
    Except NTSTATUS InterfaceRequest :=
  if !ntSuccess outputBuffer then .error outputBuffer
  else
    match interfaceGetAltSetting s intf with
    | .error status => .error status
    | .ok i => .ok (setKInterfaceOutput intf (s.interfaces i))

/-! ### What is selected -/

/-- The alternate setting that is selected for an interface number, if the driver has an
interface of that number. -/
def DeviceState.altSetting (s : DeviceState) (number : UInt8) : Option UInt8 :=
  (interfaceGetContextByNumber s number).map fun i =>
    (s.interfaces i).interfaceDescriptor.bAlternateSetting

/-- The interface contexts describe settings that the framework knows of. -/
structure DeviceState.DescribedBy (settings : ℕ → InterfaceSettings) (s : DeviceState) : Prop where
  settingIndex_lt : ∀ i < s.interfaceCount, (s.interfaces i).settingIndex < (settings i).numSettings
  interfaceDescriptor_eq : ∀ i < s.interfaceCount,
    (s.interfaces i).interfaceDescriptor = (settings i).descriptor (s.interfaces i).settingIndex

/-- A request for an alternate setting of an interface number, with its result. -/
structure SetsOrKeeps (s s' : DeviceState) (number altsetting : UInt8) (success : Bool) : Prop where
  other : ∀ m ≠ number, s'.altSetting m = s.altSetting m
  sets : success = true → ∀ selected, s'.altSetting number = some selected → selected = altsetting
  keeps : success = false → s'.altSetting number = s.altSetting number

/-- The request fails at no step after the framework has selected the setting: the
setting that is read back is the one that was asked for, and so are all of its pipes. -/
def SettingOutcome.ReadsBack (settings : ℕ → InterfaceSettings) (s : DeviceState)
    (intf : InterfaceRequest) (outcome : SettingOutcome) : Prop :=
  ∀ i altIndex, Found s intf ((settings i).answers outcome) i altIndex →
    (s.interfaces i).settingIndex ≠ altIndex → ntSuccess outcome.selectSetting = true →
      outcome.configuredSettingIndex = altIndex ∧ none ∉ outcome.configuredPipes

/-- A request by numbers. -/
def requestByNumber (number altsetting : UInt8) : InterfaceRequest where
  interfaceNumber := number.toUInt32
  altsettingNumber := altsetting.toUInt32

section Lookup

variable {settings : ℕ → InterfaceSettings} {s s' : DeviceState} {number altsetting : UInt8}
  {i : ℕ}

/-- The interfaces keep their numbers, whichever of their settings is selected. -/
theorem DeviceState.DescribedBy.getContextByNumber (hs : s.DescribedBy settings)
    (number : UInt8) :
    interfaceGetContextByNumber s number =
      (List.range s.interfaceCount).find? fun i => (settings i).bInterfaceNumber == number := by
  unfold interfaceGetContextByNumber
  refine List.find?_congr fun i hi => ?_
  have hlt := List.mem_range.mp hi
  rw [hs.interfaceDescriptor_eq i hlt,
    (settings i).bInterfaceNumber_descriptor _ (hs.settingIndex_lt i hlt)]

theorem DeviceState.DescribedBy.getContextByNumber_congr (hs : s.DescribedBy settings)
    (hs' : s'.DescribedBy settings) (hcount : s'.interfaceCount = s.interfaceCount)
    (number : UInt8) :
    interfaceGetContextByNumber s' number = interfaceGetContextByNumber s number := by
  rw [hs'.getContextByNumber, hs.getContextByNumber, hcount]

/-- A request by numbers finds the interface of its number. -/
theorem getContextByNumber_of_requestByNumber
    (h : getInterfaceContextFromRequest s (requestByNumber number altsetting) = .ok i) :
    interfaceGetContextByNumber s number = some i := by
  unfold getInterfaceContextFromRequest requestByNumber at h
  split at h
  · cases h
  · dsimp only at h
    rw [if_neg (by decide), UInt8.toUInt8_toUInt32] at h
    cases hfound : interfaceGetContextByNumber s number with
    | none =>
      rw [hfound] at h
      cases h
    | some j =>
      rw [hfound] at h
      cases h
      rfl

/-- A request by numbers finds a setting with its alternate setting number. -/
theorem altIndex_of_requestByNumber {a : InterfaceAnswers} {altIndex : UInt8}
    (h : getInterfaceAltSettingIndexFromRequest (requestByNumber number altsetting) a =
      .ok altIndex) :
    altIndex < a.numSettings ∧ (a.descriptor altIndex).bAlternateSetting = altsetting := by
  unfold getInterfaceAltSettingIndexFromRequest requestByNumber at h
  simp only [Bool.false_eq_true, false_and, if_false] at h
  split at h
  · cases h
  · next hne =>
    cases h
    cases hfound : (List.range a.numSettings.toNat).find? fun altPos =>
        (a.descriptor (UInt8.ofNat altPos)).bAlternateSetting.toUInt32 == altsetting.toUInt32 with
    | none =>
      rw [hfound] at hne
      exact absurd rfl hne
    | some altPos =>
      have hlt := List.mem_range.mp (List.mem_of_find?_eq_some hfound)
      have heq := List.find?_some hfound
      rw [Option.map_some, Option.getD_some]
      refine ⟨?_, UInt8.toUInt32_inj.mp (by simpa using heq)⟩
      have hnum := a.numSettings.toNat_lt
      rw [UInt8.lt_iff_toNat_lt, UInt8.toNat_ofNat']
      omega

end Lookup

/-! ### The interfaces after a change -/

section Change

variable {s : DeviceState} {i : ℕ} {a : InterfaceAnswers}

theorem interfaceCount_stopPipes (s : DeviceState) (ks : List (Fin 32)) :
    (stopPipes s ks).interfaceCount = s.interfaceCount := by
  unfold stopPipes
  induction ks generalizing s with
  | nil => rfl
  | cons k ks ih =>
    rw [List.foldl_cons, ih]
    unfold pipeStop
    split_ifs <;> rfl

theorem interfaceCount_deletePipes (s : DeviceState) (ks : List (Fin 32)) :
    (ks.foldl deletePipe s).interfaceCount = s.interfaceCount := by
  induction ks generalizing s with
  | nil => rfl
  | cons k ks ih =>
    rw [List.foldl_cons, ih]
    unfold deletePipe
    dsimp only
    split_ifs <;> simp

theorem interfaceCount_initPipes (s : DeviceState)
    (pipes : List (Option (ℕ × PipeInformation))) :
    (initPipes s pipes).1.interfaceCount = s.interfaceCount := by
  induction pipes generalizing s with
  | nil => rfl
  | cons p rest ih =>
    cases p with
    | none => rfl
    | some q => exact ih _

theorem interfaceCount_startPipes (start : ℕ → StartAnswers) (startIoTarget : Bool)
    (ks : List (Fin 32)) (s : DeviceState) (n : ℕ) :
    (startPipes start startIoTarget s n ks).interfaceCount = s.interfaceCount := by
  induction ks generalizing s n with
  | nil => rfl
  | cons k ks ih =>
    refine (ih _ _).trans ?_
    have h := pipeStarted_pipeStart s k startIoTarget (start n)
    generalize (pipeStart s k startIoTarget (start n)).1 = s' at h
    cases h <;> rfl

/-- A setting that is not selected leaves the interfaces as they are. -/
theorem interfaces_changeAltSetting_of_not_selected (h : ntSuccess a.selectSetting = false) :
    (changeAltSetting s i a).1.interfaces = s.interfaces ∧
      (changeAltSetting s i a).1.interfaceCount = s.interfaceCount := by
  rw [changeAltSetting_of_not_selected h]
  dsimp only
  rw [interfaces_startPipes, interfaces_stopPipes, interfaceCount_startPipes,
    interfaceCount_stopPipes]
  exact ⟨rfl, rfl⟩

/-- A setting that is selected changes its interface only. -/
theorem interfaces_changeAltSetting_of_selected (hif : (s.interfaces i).hasInterface = true)
    (h : ntSuccess a.selectSetting = true) :
    (changeAltSetting s i a).1.interfaces =
        Function.update s.interfaces i { s.interfaces i with
          settingIndex := a.configuredSettingIndex
          interfaceDescriptor := a.descriptor a.configuredSettingIndex
          pipeContextByIndex := (initPipes (beforeInit s i a) a.configuredPipes).2.1 } ∧
      (changeAltSetting s i a).1.interfaceCount = s.interfaceCount := by
  have hcount : (beforeInit s i a).interfaceCount = s.interfaceCount := by
    unfold beforeInit interfaceDeletePipesAndQueues interfaceStop
    simp only [DeviceState.interfaceCount_setInterface, interfaceCount_deletePipes,
      interfaceCount_stopPipes]
  rw [changeAltSetting_eq h, interfaceInitContext_beforeInit hif]
  split
  · simp only [DeviceState.interfaces_setInterface, DeviceState.interfaceCount_setInterface,
      interfaces_initPipes, interfaceCount_initPipes, interfaces_beforeInit, hcount,
      Function.update_idem, and_self]
  · unfold interfaceStart
    simp only [interfaces_startPipes, interfaceCount_startPipes,
      DeviceState.interfaces_setInterface, DeviceState.interfaceCount_setInterface,
      interfaces_initPipes, interfaceCount_initPipes, interfaces_beforeInit, hcount,
      Function.update_idem, and_self]

end Change

/-! ### A request selects what it asks for, or nothing -/

namespace SetsOrKeeps

variable {s s' : DeviceState} {number altsetting : UInt8}

/-- A request that fails before it changes an interface. -/
theorem unchanged (hsame : ∀ m, s'.altSetting m = s.altSetting m) :
    SetsOrKeeps s s' number altsetting false :=
  ⟨fun m _ => hsame m, fun h => absurd h (by decide), fun _ => hsame number⟩

end SetsOrKeeps

section Requests

variable {settings : ℕ → InterfaceSettings} {s : DeviceState} {number altsetting : UInt8}
  {outcome : SettingOutcome} {i : ℕ} {altIndex : UInt8}

theorem altSetting_of_getContextByNumber (h : interfaceGetContextByNumber s number = some i) :
    s.altSetting number = some (s.interfaces i).interfaceDescriptor.bAlternateSetting := by
  unfold DeviceState.altSetting
  rw [h, Option.map_some]

/-- The interface that is found by a number has it. -/
theorem DeviceState.DescribedBy.number_eq (hs : s.DescribedBy settings)
    (h : interfaceGetContextByNumber s number = some i) :
    (settings i).bInterfaceNumber = number := by
  rw [hs.getContextByNumber] at h
  simpa using List.find?_some h

/-- A change of the interface of a number to a setting that the framework knows of. -/
theorem DeviceState.DescribedBy.update (hs : s.DescribedBy settings) {s' : DeviceState}
    {ic : InterfaceContext} (hi : interfaceGetContextByNumber s number = some i)
    (hinterfaces : s'.interfaces = Function.update s.interfaces i ic)
    (hcount : s'.interfaceCount = s.interfaceCount)
    (hindex : ic.settingIndex < (settings i).numSettings)
    (hic : ic.interfaceDescriptor = (settings i).descriptor ic.settingIndex) :
    s'.DescribedBy settings ∧ (∀ m ≠ number, s'.altSetting m = s.altSetting m) ∧
      s'.altSetting number = some ic.interfaceDescriptor.bAlternateSetting := by
  have hother {j : ℕ} (hj : j ≠ i) : s'.interfaces j = s.interfaces j := by
    rw [hinterfaces, Function.update_of_ne hj]
  have hself : s'.interfaces i = ic := by rw [hinterfaces, Function.update_self]
  have hs' : s'.DescribedBy settings := by
    refine ⟨fun j hj => ?_, fun j hj => ?_⟩
    · by_cases heq : j = i
      · rw [heq, hself]
        exact hindex
      · rw [hother heq]
        exact hs.settingIndex_lt j (hcount ▸ hj)
    · by_cases heq : j = i
      · rw [heq, hself]
        exact hic
      · rw [hother heq]
        exact hs.interfaceDescriptor_eq j (hcount ▸ hj)
  have hlookup := hs.getContextByNumber_congr hs' hcount
  refine ⟨hs', fun m hm => ?_, ?_⟩
  · unfold DeviceState.altSetting
    rw [hlookup]
    cases hj : interfaceGetContextByNumber s m with
    | none => rfl
    | some j =>
      -- another number is the number of another interface
      have hne : j ≠ i := by
        rintro rfl
        exact hm ((hs.number_eq hj).symm.trans (hs.number_eq hi))
      rw [Option.map_some, Option.map_some, hother hne]
  · rw [altSetting_of_getContextByNumber ((hlookup number).trans hi), hself]

/-- What is selected depends on the interfaces only. -/
theorem altSetting_congr {s' : DeviceState} (hinterfaces : s'.interfaces = s.interfaces)
    (hcount : s'.interfaceCount = s.interfaceCount) (m : UInt8) :
    s'.altSetting m = s.altSetting m := by
  unfold DeviceState.altSetting interfaceGetContextByNumber
  rw [hinterfaces, hcount]

theorem DeviceState.DescribedBy.congr (hs : s.DescribedBy settings) {s' : DeviceState}
    (hinterfaces : s'.interfaces = s.interfaces) (hcount : s'.interfaceCount = s.interfaceCount) :
    s'.DescribedBy settings := by
  refine ⟨fun i hi => ?_, fun i hi => ?_⟩
  · rw [hinterfaces]
    exact hs.settingIndex_lt i (hcount ▸ hi)
  · rw [hinterfaces]
    exact hs.interfaceDescriptor_eq i (hcount ▸ hi)

/-- A request that finds its interface and its setting. -/
theorem setsOrKeeps_of_found (hs : s.DescribedBy settings)
    (h : Found s (requestByNumber number altsetting) ((settings i).answers outcome) i altIndex)
    (hreads : outcome.ReadsBack settings s (requestByNumber number altsetting)) :
    let r := interfaceSetAltSetting s (requestByNumber number altsetting)
      ((settings i).answers outcome)
    r.1.DescribedBy settings ∧ SetsOrKeeps s r.1 number altsetting (ntSuccess r.2) := by
  have hi := getContextByNumber_of_requestByNumber h.interface
  obtain ⟨hindex, haltsetting⟩ := altIndex_of_requestByNumber h.setting
  dsimp only
  rw [h.interfaceSetAltSetting_eq]
  by_cases heq : (s.interfaces i).settingIndex = altIndex
  · -- the setting is selected already
    rw [if_pos heq]
    refine ⟨hs, fun _ _ => rfl, fun _ selected hselected => ?_, fun _ => rfl⟩
    have hlt := lt_of_getInterfaceContextFromRequest h.interface
    rw [altSetting_of_getContextByNumber hi, hs.interfaceDescriptor_eq i hlt, heq] at hselected
    exact (Option.some.inj hselected).symm.trans haltsetting
  · rw [if_neg heq]
    cases hselect : ntSuccess outcome.selectSetting with
    | false =>
      obtain ⟨hinterfaces, hcount⟩ := interfaces_changeAltSetting_of_not_selected (s := s) (i := i)
        (a := (settings i).answers outcome) hselect
      have hstatus : ntSuccess (changeAltSetting s i ((settings i).answers outcome)).2 = false := by
        rw [changeAltSetting_of_not_selected hselect]
        exact hselect
      rw [hstatus]
      exact ⟨hs.congr hinterfaces hcount, .unchanged (altSetting_congr hinterfaces hcount)⟩
    | true =>
      obtain ⟨rfl, hpipes⟩ := hreads i altIndex h heq hselect
      obtain ⟨hinterfaces, hcount⟩ := interfaces_changeAltSetting_of_selected (s := s)
        (a := (settings i).answers outcome) h.hasInterface hselect
      obtain ⟨hs', hother, hself⟩ := hs.update hi hinterfaces hcount hindex rfl
      have hstatus : (changeAltSetting s i ((settings i).answers outcome)).2 = STATUS_SUCCESS := by
        rcases changeAltSetting_of_selected (a := (settings i).answers outcome) h.hasInterface
          hselect with ⟨hnone, -⟩ | ⟨-, hok, -⟩
        · exact absurd hnone hpipes
        · exact hok
      rw [hstatus]
      refine ⟨hs', hother, fun _ selected hselected => ?_, fun hfail => absurd hfail (by decide)⟩
      rw [hself] at hselected
      exact (Option.some.inj hselected).symm.trans haltsetting

/-- A request that does not fail after the framework has selected the setting selects what
it asks for, or nothing. -/
theorem setsOrKeeps_onSetInterface (hs : s.DescribedBy settings) (outputBuffer : NTSTATUS)
    (hreads : ntSuccess outputBuffer = true →
      outcome.ReadsBack settings s (requestByNumber number altsetting)) :
    let r := onSetInterface settings s (requestByNumber number altsetting) outputBuffer outcome
    r.1.DescribedBy settings ∧ SetsOrKeeps s r.1 number altsetting r.2.isOk := by
  unfold onSetInterface
  cases hbuffer : ntSuccess outputBuffer with
  | false => exact ⟨hs, .unchanged fun _ => rfl⟩
  | true =>
    cases hi : getInterfaceContextFromRequest s (requestByNumber number altsetting) with
    | error status => exact ⟨hs, .unchanged fun _ => rfl⟩
    | ok i =>
      dsimp only
      by_cases hfound : ∃ altIndex, Found s (requestByNumber number altsetting)
          ((settings i).answers outcome) i altIndex
      · obtain ⟨altIndex, hfound⟩ := hfound
        have h := setsOrKeeps_of_found hs hfound (hreads hbuffer)
        dsimp only at h
        cases hstatus : ntSuccess (interfaceSetAltSetting s (requestByNumber number altsetting)
            ((settings i).answers outcome)).2 with
        | false =>
          rw [hstatus] at h
          exact h
        | true =>
          rw [hstatus] at h
          exact h
      · have hnot : ∀ j altIndex, ¬ Found s (requestByNumber number altsetting)
            ((settings i).answers outcome) j altIndex := by
          intro j altIndex h
          obtain rfl : j = i := Except.ok.inj (h.interface.symm.trans hi)
          exact hfound ⟨altIndex, h⟩
        obtain ⟨status, hfail, heq⟩ := interfaceSetAltSetting_of_not_found hnot
        rw [heq, hfail]
        exact ⟨hs, .unchanged fun _ => rfl⟩

/-- A request for what is selected returns it, if there is such an interface. -/
theorem altsettingNumber_onGetInterface {outputBuffer : NTSTATUS} {answer : InterfaceRequest}
    (h : onGetInterface s { interfaceNumber := number.toUInt32 } outputBuffer = .ok answer) :
    s.altSetting number = some answer.altsettingNumber.toUInt8 := by
  unfold onGetInterface interfaceGetAltSetting at h
  split at h
  · cases h
  · cases hi : getInterfaceContextFromRequest s { interfaceNumber := number.toUInt32 } with
    | error status =>
      rw [hi] at h
      cases h
    | ok i =>
      rw [hi] at h
      cases h
      have hfound : interfaceGetContextByNumber s number = some i :=
        @getContextByNumber_of_requestByNumber s number 0 i hi
      rw [altSetting_of_getContextByNumber hfound]
      unfold setKInterfaceOutput
      rw [UInt8.toUInt8_toUInt32]

end Requests

/-! ### A device that has been configured -/

section Configure

variable {settings : ℕ → InterfaceSettings} {a : ConfigureAnswers} {s : DeviceState} {i : ℕ}

/-- The interfaces below `n` are configured with what the framework answered. -/
def ConfiguredBelow (a : ConfigureAnswers) (s : DeviceState) (n : ℕ) : Prop :=
  ∀ i < n, (s.interfaces i).settingIndex = (a.interface i).configuredSettingIndex ∧
    (s.interfaces i).interfaceDescriptor =
      (a.interface i).descriptor (a.interface i).configuredSettingIndex

/-- One pass of the loop of `Device_Configure` that succeeds. -/
theorem configureInterface_of_success (hbelow : ConfiguredBelow a s i)
    (h : ntSuccess (configureInterface a s i).2 = true) :
    ConfiguredBelow a (configureInterface a s i).1 (i + 1) ∧
      (configureInterface a s i).1.interfaceCount = s.interfaceCount := by
  unfold configureInterface at h ⊢
  dsimp only at h ⊢
  cases hinit : ntSuccess (interfaceInitContext (assignInterface a s i) i (a.interface i)).2 with
  | false =>
    rw [if_pos (by simp [hinit])] at h
    exact absurd (hinit.symm.trans h) (by decide)
  | true =>
    rw [if_neg (by simp)]
    unfold interfaceStart
    rw [if_neg (by simp)]
    dsimp only
    cases hif : ((assignInterface a s i).interfaces i).hasInterface with
    | false =>
      rw [interfaceInitContext, if_pos (by simp [hif])] at hinit
      exact absurd hinit (show ntSuccess STATUS_FILE_CORRUPT_ERROR ≠ true by decide)
    | true =>
      rw [interfaceInitContext_eq hif]
      refine ⟨fun j hj => ?_, ?_⟩
      · rw [interfaces_startPipes, DeviceState.interfaces_setInterface, interfaces_initPipes]
        by_cases heq : j = i
        · rw [heq, Function.update_self]
          exact ⟨rfl, rfl⟩
        · rw [Function.update_of_ne heq]
          unfold assignInterface
          rw [DeviceState.interfaces_setInterface, Function.update_of_ne heq]
          exact hbelow j (by omega)
      · rw [interfaceCount_startPipes, DeviceState.interfaceCount_setInterface,
          interfaceCount_initPipes]
        rfl

/-- The loop of `Device_Configure`, if it succeeds. -/
theorem configureInterfaces_of_success (n : ℕ) {r : DeviceState × NTSTATUS}
    (hbelow : ConfiguredBelow a r.1 i)
    (h : ntSuccess (configureInterfaces a n i r).2 = true) :
    ConfiguredBelow a (configureInterfaces a n i r).1 (i + n) ∧
      (configureInterfaces a n i r).1.interfaceCount = r.1.interfaceCount := by
  induction n generalizing i r with
  | zero => exact ⟨hbelow, rfl⟩
  | succ n ih =>
    unfold configureInterfaces at h ⊢
    dsimp only at h ⊢
    cases hpass : ntSuccess (configureInterface a r.1 i).2 with
    | false =>
      rw [if_pos (by simp [hpass])] at h
      exact absurd (hpass.symm.trans h) (by decide)
    | true =>
      rw [if_neg (by simp [hpass])] at h ⊢
      obtain ⟨hnext, hcount⟩ := configureInterface_of_success hbelow hpass
      obtain ⟨hall, hcounts⟩ := ih hnext h
      rw [Nat.add_right_comm i 1 n] at hall
      exact ⟨hall, hcounts.trans hcount⟩

theorem interfaceCount_pipeInitContext (s : DeviceState) (k : Fin 32) (startIoTarget : Bool)
    (b : StartAnswers) :
    (pipeInitContext s k startIoTarget b).1.interfaceCount = s.interfaceCount := by
  have hwith (s : DeviceState) (status : NTSTATUS) :
      (pipeInitContextWithQueue s k status startIoTarget b).1.interfaceCount =
        s.interfaceCount := by
    unfold pipeInitContextWithQueue
    dsimp only
    split_ifs <;> rfl
  have hqueue (s : DeviceState) (pc : PipeContext) :
      (pipeInitQueue s pc b).1.interfaceCount = s.interfaceCount := by
    unfold pipeInitQueue
    dsimp only
    split_ifs <;> simp [DeviceState.withQueues]
  unfold pipeInitContext
  dsimp only
  split_ifs <;> simp [hwith, hqueue]

/-- **A configured device.**  If `Device_Configure` succeeds, the interface contexts
describe the settings that the framework has configured. -/
theorem describedBy_deviceConfigure (s : DeviceState)
    (hknown : ∀ i < a.numInterfacesAfter.toNat,
      (a.interface i).descriptor = (settings i).descriptor ∧
        (a.interface i).configuredSettingIndex < (settings i).numSettings)
    (h : ntSuccess (deviceConfigure s a).2 = true) :
    (deviceConfigure s a).1.DescribedBy settings := by
  unfold deviceConfigure at h ⊢
  dsimp only at h ⊢
  split_ifs at h ⊢ with hmemory hselect hdefault
  · exact absurd h (show ntSuccess STATUS_INSUFFICIENT_RESOURCES ≠ true by decide)
  · simp [h] at hselect
  · simp [h] at hdefault
  · obtain ⟨hall, hcount⟩ := configureInterfaces_of_success (a := a) (i := 0) _
      (fun i hi => absurd hi (Nat.not_lt_zero i)) h
    have hdefaultCount : (pipeInitDefaultContext
        ((s.withInterfaceCount a.numInterfaces.toNat).withInterfaceCount
          a.numInterfacesAfter.toNat) a.defaultPipe).1.interfaceCount =
        a.numInterfacesAfter.toNat :=
      interfaceCount_pipeInitContext _ _ _ _
    rw [Nat.zero_add] at hall
    rw [hdefaultCount] at hcount
    refine ⟨fun i hi => ?_, fun i hi => ?_⟩
    · rw [hcount] at hi
      rw [(hall i hi).1]
      exact (hknown i hi).2
    · rw [hcount] at hi
      rw [(hall i hi).1, (hall i hi).2, (hknown i hi).1]

end Configure

end LibusbK
