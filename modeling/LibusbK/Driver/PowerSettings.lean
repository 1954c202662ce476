import LibusbK.Lib.Machine
import LibusbK.Driver.PolicyReads

/-!
# Idle settings and what is reported of them

`Policy_InitPower` assigns the idle settings to the framework, when the device is prepared and
whenever a power policy is set.  `GET_POWER_POLICY` reports the copies `Policy_SetPower` keeps,
and takes back when something fails.  The framework keeps the settings of the last assignment
that succeeded, whatever becomes of the rest of `Policy_InitPower`.

## Main definitions

* `IdleDevice` — the copies, and what the framework has been assigned.
* `powerMachine` — the requests, with every answer of the framework.
* `IdleDevice.Agrees` — the framework works with the settings that are reported.

## Main results

* `result_policySetPower` — what a request leaves.
* `power_agrees_iff` — when the two agree all along a run.
-/

namespace LibusbK

open Access

/-! ### One assignment -/

/-- `DeviceIdleIgnoreWakeEnable`, where it is not supported. -/
def checkUsbdiVersion (dc : PowerContext) : PowerContext :=
  if dc.usbdiVersion < 0x600 then { dc with deviceIdleIgnoreWakeEnable := 0 } else dc

/-- `Policy_InitPower` assigns the idle settings. -/
def assignsIdle (dc : PowerContext) : Bool :=
  (idleSettings (checkUsbdiVersion dc)).enabled || dc.isIdleSettingsInitialized

/-- The idle settings the framework has after `Policy_InitPower`, if it had `assigned` before. -/
def assignIdle (a : PowerAnswers) (dc : PowerContext) (assigned : Option IdleSettings) :
    Option IdleSettings :=
  if assignsIdle dc && ntSuccess (a.assignS0IdleSettings (idleSettings (checkUsbdiVersion dc))) then
    some (idleSettings (checkUsbdiVersion dc))
  else assigned

/-- The context `Policy_SetPower` calls `Policy_InitPower` with, if it does. -/
def powerEdit (dc : PowerContext) (policyType valueLength : UInt32) (value : ValueBytes) :
    Option PowerContext :=
  if policyType = AUTO_SUSPEND then
    if ntSuccess (checkValueLength 1 valueLength) then
      some { dc with defaultIdleState := if ValueBytes.uchar value ≠ 0 then 1 else 0 }
    else none
  else if policyType = SUSPEND_DELAY then
    if ntSuccess (checkValueLength 4 valueLength) then
      some { dc with defaultIdleTimeout := ValueBytes.ulong value }
    else none
  else none

/-! ### Requests -/

/-- The copies of the idle settings in the device context, and those the framework has. -/
structure IdleDevice where
  dc : PowerContext
  assigned : Option IdleSettings

/-- A `SET_POWER_POLICY` request, with what the framework answers to it. -/
structure SetPower where
  answers : PowerAnswers
  policyType : UInt32
  valueLength : UInt32
  value : ValueBytes

/-- The device after `Device_OnPrepareHardware`; a failure of `Policy_InitPower` is none of it. -/
def prepareHardware (a : PowerAnswers) (dc : PowerContext) : IdleDevice where
  dc := (policyInitPower a dc).1
  assigned := assignIdle a dc none

/-- A request. -/
def IdleDevice.setPower (d : IdleDevice) (r : SetPower) : IdleDevice where
  dc := ((policySetPower r.answers d.dc r.policyType r.valueLength).result r.value).1
  assigned :=
    match powerEdit d.dc r.policyType r.valueLength r.value with
    | some dc => assignIdle r.answers dc d.assigned
    | none => d.assigned

/-- The requests one after the other. -/
def powerMachine : Machine IdleDevice SetPower where
  step d r := some (d.setPower r)

/-- The framework has the settings that are reported, or it has none yet, and idling is off. -/
def IdleDevice.Agrees (d : IdleDevice) : Prop :=
  if d.dc.isIdleSettingsInitialized then d.assigned = some (idleSettings d.dc)
  else d.assigned = none ∧ (idleSettings d.dc).enabled = false

/-! ### What one call leaves -/

section InitPower

variable (a : PowerAnswers) (dc : PowerContext)

/-- The wake settings are assigned, or there are none. -/
def wakeSucceeds : Bool := dc.systemWakeEnabled = 0 || ntSuccess a.assignSxWakeSettings

theorem checkUsbdiVersion_initialized :
    (checkUsbdiVersion dc).isIdleSettingsInitialized = dc.isIdleSettingsInitialized := by
  unfold checkUsbdiVersion
  split <;> rfl

theorem checkUsbdiVersion_systemWakeEnabled :
    (checkUsbdiVersion dc).systemWakeEnabled = dc.systemWakeEnabled := by
  unfold checkUsbdiVersion
  split <;> rfl

/-- What `Policy_InitPower` leaves, and whether it succeeds. -/
structure InitPowerLeaves (dc' : PowerContext) (succeeds : Bool) : Prop where
  context : (policyInitPower a dc).1 = dc'
  status : ntSuccess (policyInitPower a dc).2 = succeeds

/-- The settings are assigned. -/
def AssignS0 : Prop :=
  ntSuccess (a.assignS0IdleSettings (idleSettings (checkUsbdiVersion dc))) = true

instance : Decidable (AssignS0 a dc) := inferInstanceAs (Decidable (_ = _))

theorem initPowerLeaves_of_idle (h : assignsIdle dc = false) :
    InitPowerLeaves a dc (checkUsbdiVersion dc) (wakeSucceeds a dc) := by
  rw [assignsIdle, ← checkUsbdiVersion_initialized] at h
  unfold wakeSucceeds
  rw [← checkUsbdiVersion_systemWakeEnabled]
  have hfold : (if dc.usbdiVersion < 0x600 then { dc with deviceIdleIgnoreWakeEnable := 0 }
    else dc) = checkUsbdiVersion dc := rfl
  constructor <;> simp [policyInitPower, hfold, h] <;> split <;> simp_all

theorem initPowerLeaves_of_refused (h : assignsIdle dc = true) (hS0 : ¬AssignS0 a dc) :
    InitPowerLeaves a dc (checkUsbdiVersion dc) false := by
  rw [assignsIdle, ← checkUsbdiVersion_initialized] at h
  have hfold : (if dc.usbdiVersion < 0x600 then { dc with deviceIdleIgnoreWakeEnable := 0 }
    else dc) = checkUsbdiVersion dc := rfl
  have hS0' := eq_false_of_ne_true hS0
  constructor <;> simp [policyInitPower, hfold, h, hS0']

theorem initPowerLeaves_of_assigned (h : assignsIdle dc = true) (hS0 : AssignS0 a dc) :
    InitPowerLeaves a dc { checkUsbdiVersion dc with isIdleSettingsInitialized := true }
      (wakeSucceeds a dc) := by
  rw [assignsIdle, ← checkUsbdiVersion_initialized] at h
  unfold wakeSucceeds
  rw [← checkUsbdiVersion_systemWakeEnabled]
  have hfold : (if dc.usbdiVersion < 0x600 then { dc with deviceIdleIgnoreWakeEnable := 0 }
    else dc) = checkUsbdiVersion dc := rfl
  unfold AssignS0 at hS0
  constructor <;> simp [policyInitPower, hfold, h, hS0] <;> split <;> simp_all

/-- The copies are left alone. -/
theorem policyInitPower_copies :
    (policyInitPower a dc).1.defaultIdleState = dc.defaultIdleState ∧
      (policyInitPower a dc).1.defaultIdleTimeout = dc.defaultIdleTimeout := by
  have hcheck : (checkUsbdiVersion dc).defaultIdleState = dc.defaultIdleState ∧
      (checkUsbdiVersion dc).defaultIdleTimeout = dc.defaultIdleTimeout := by
    unfold checkUsbdiVersion
    split <;> exact ⟨rfl, rfl⟩
  cases h : assignsIdle dc with
  | false =>
    rw [(initPowerLeaves_of_idle a dc h).context]
    exact hcheck
  | true =>
    by_cases hS0 : AssignS0 a dc
    · rw [(initPowerLeaves_of_assigned a dc h hS0).context]
      exact hcheck
    · rw [(initPowerLeaves_of_refused a dc h hS0).context]
      exact hcheck

end InitPower

/-! ### Requests -/

/-- The copies of `d`, taken back. -/
def restorePower (dc d : PowerContext) : PowerContext :=
  { dc with
    defaultIdleState := d.defaultIdleState
    defaultIdleTimeout := d.defaultIdleTimeout }

/-- What a request leaves: the edit, if `Policy_InitPower` succeeds with it. -/
theorem result_policySetPower (a : PowerAnswers) (dc : PowerContext)
    (policyType valueLength : UInt32) (value : ValueBytes) :
    ((policySetPower a dc policyType valueLength).result value).1 =
      match powerEdit dc policyType valueLength value with
      | some e =>
        if ntSuccess (policyInitPower a e).2 then (policyInitPower a e).1
        else restorePower (policyInitPower a e).1 dc
      | none => dc := by
  unfold policySetPower powerEdit
  rw [result_ite, result_ite]
  split
  · -- `AUTO_SUSPEND`
    unfold ValueCode.checked
    rw [result_ite]
    cases ntSuccess (checkValueLength 1 valueLength) with
    | false => rfl
    | true =>
      let e : PowerContext :=
        { dc with defaultIdleState := if ValueBytes.uchar value ≠ 0 then 1 else 0 }
      have htimeout : (policyInitPower a e).1.defaultIdleTimeout = dc.defaultIdleTimeout :=
        (policyInitPower_copies a e).2
      show (if !ntSuccess (policyInitPower a e).2 then
          { (policyInitPower a e).1 with defaultIdleState := dc.defaultIdleState }
        else (policyInitPower a e).1) =
        if ntSuccess (policyInitPower a e).2 then (policyInitPower a e).1
        else restorePower (policyInitPower a e).1 dc
      cases ntSuccess (policyInitPower a e).2 with
      | true => rfl
      | false =>
        simp only [restorePower, ← htimeout, Bool.not_false, if_true, Bool.false_eq_true, if_false]
  · split
    · -- `SUSPEND_DELAY`
      unfold ValueCode.checked
      rw [result_ite]
      cases ntSuccess (checkValueLength 4 valueLength) with
      | false => rfl
      | true =>
        let e : PowerContext := { dc with defaultIdleTimeout := ValueBytes.ulong value }
        have hstate : (policyInitPower a e).1.defaultIdleState = dc.defaultIdleState :=
          (policyInitPower_copies a e).1
        show (if !ntSuccess (policyInitPower a e).2 then
            { (policyInitPower a e).1 with defaultIdleTimeout := dc.defaultIdleTimeout }
          else (policyInitPower a e).1) =
          if ntSuccess (policyInitPower a e).2 then (policyInitPower a e).1
          else restorePower (policyInitPower a e).1 dc
        cases ntSuccess (policyInitPower a e).2 with
        | true => rfl
        | false =>
          simp only [restorePower, ← hstate, Bool.not_false, if_true, Bool.false_eq_true, if_false]
    · rfl

/-! ### Runs -/

/-- The framework takes settings other than those that are reported, and keeps them when the
wake settings are refused. -/
def IdleDevice.KeepsRefused (d : IdleDevice) (r : SetPower) : Prop :=
  ∃ e, powerEdit d.dc r.policyType r.valueLength r.value = some e ∧ assignsIdle e = true ∧
    AssignS0 r.answers e ∧ wakeSucceeds r.answers e = false ∧ idleSettings e ≠ idleSettings d.dc

/-- `DeviceIdleIgnoreWakeEnable` has been looked at. -/
def PowerContext.Checked (dc : PowerContext) : Prop :=
  dc.usbdiVersion < 0x600 → dc.deviceIdleIgnoreWakeEnable = 0

theorem checked_checkUsbdiVersion (dc : PowerContext) : (checkUsbdiVersion dc).Checked := by
  unfold checkUsbdiVersion PowerContext.Checked
  split
  next => exact fun _ => rfl
  next h => exact fun h' => absurd h' h

theorem PowerContext.Checked.eq {dc : PowerContext} (h : dc.Checked) :
    checkUsbdiVersion dc = dc := by
  unfold checkUsbdiVersion
  split
  next hlt =>
    obtain ⟨_, _, _, _, _, _, _, _, _⟩ := dc
    simpa using (h hlt).symm
  next => rfl

section Step

variable {d : IdleDevice} {r : SetPower} {e : PowerContext}

/-- Only the copies are edited. -/
theorem powerEdit_eq_some {dc : PowerContext} {policyType valueLength : UInt32}
    {value : ValueBytes} (h : powerEdit dc policyType valueLength value = some e) :
    ∃ state timeout,
      e = { dc with defaultIdleState := state, defaultIdleTimeout := timeout } := by
  unfold powerEdit at h
  split at h
  · split at h
    · cases h
      exact ⟨_, _, rfl⟩
    · cases h
  · split at h
    · split at h
      · cases h
        exact ⟨_, _, rfl⟩
      · cases h
    · cases h

theorem setPower_of_some (h : powerEdit d.dc r.policyType r.valueLength r.value = some e) :
    d.setPower r =
      { dc := if ntSuccess (policyInitPower r.answers e).2 then (policyInitPower r.answers e).1
          else restorePower (policyInitPower r.answers e).1 d.dc
        assigned := assignIdle r.answers e d.assigned } := by
  unfold IdleDevice.setPower
  rw [result_policySetPower, h]

theorem setPower_of_none (h : powerEdit d.dc r.policyType r.valueLength r.value = none) :
    d.setPower r = d := by
  unfold IdleDevice.setPower
  rw [result_policySetPower, h]

/-- **A request**, by what becomes of the assignments. -/
theorem step_setPower (hchecked : d.dc.Checked) (h : d.Agrees) (r : SetPower) :
    ¬d.KeepsRefused r ∧ (d.setPower r).dc.Checked ∧ (d.setPower r).Agrees ∨
      d.KeepsRefused r ∧ ¬(d.setPower r).Agrees := by
  cases hedit : powerEdit d.dc r.policyType r.valueLength r.value with
  | none =>
    rw [setPower_of_none hedit]
    refine .inl ⟨?_, hchecked, h⟩
    rintro ⟨e, he, -⟩
    rw [hedit] at he
    cases he
  | some e =>
    rw [setPower_of_some hedit]
    obtain ⟨state, timeout, he⟩ := powerEdit_eq_some hedit
    have hchecked' : e.Checked := by
      rw [he]
      exact hchecked
    have heq : checkUsbdiVersion e = e := hchecked'.eq
    have hrestore : restorePower e d.dc = d.dc := by
      rw [he]
      rfl
    have hbad (hno : assignsIdle e = true → AssignS0 r.answers e →
        wakeSucceeds r.answers e = false → idleSettings e = idleSettings d.dc) :
        ¬d.KeepsRefused r := by
      rintro ⟨e', he', hassigns, hS0, hwake, hne⟩
      rw [hedit] at he'
      cases he'
      exact hne (hno hassigns hS0 hwake)
    cases hassigns : assignsIdle e with
    | false =>
      -- nothing is assigned: idling is off, and always has been
      obtain ⟨hcontext, hstatus⟩ := initPowerLeaves_of_idle r.answers e hassigns
      rw [hcontext, hstatus, heq, hrestore]
      have hassigned : assignIdle r.answers e d.assigned = d.assigned := by
        simp [assignIdle, hassigns]
      rw [hassigned]
      refine .inl ⟨hbad fun h => by simp [hassigns] at h, ?_⟩
      cases wakeSucceeds r.answers e with
      | false => exact ⟨hchecked, h⟩
      | true =>
        refine ⟨hchecked', ?_⟩
        rw [assignsIdle, heq, Bool.or_eq_false_iff] at hassigns
        have hinitialized : d.dc.isIdleSettingsInitialized = false := by
          rw [he] at hassigns
          exact hassigns.2
        unfold IdleDevice.Agrees at h ⊢
        rw [hinitialized, if_neg Bool.false_ne_true] at h
        rw [if_neg (by simp [hassigns.2])]
        exact ⟨h.1, hassigns.1⟩
    | true =>
      by_cases hS0 : AssignS0 r.answers e
      · obtain ⟨hcontext, hstatus⟩ := initPowerLeaves_of_assigned r.answers e hassigns hS0
        rw [hcontext, hstatus, heq]
        have hassigned : assignIdle r.answers e d.assigned = some (idleSettings e) := by
          unfold AssignS0 at hS0
          rw [assignIdle, hassigns, hS0, Bool.and_self, if_pos rfl, heq]
        rw [hassigned]
        cases hwake : wakeSucceeds r.answers e with
        | true => exact .inl ⟨hbad fun _ _ h => by simp [hwake] at h, hchecked', rfl⟩
        | false =>
          -- the copy is taken back, but not the assignment
          have hback : restorePower { e with isIdleSettingsInitialized := true } d.dc =
              { d.dc with isIdleSettingsInitialized := true } := by
            rw [he]
            rfl
          rw [hback]
          by_cases hsame : idleSettings e = idleSettings d.dc
          · refine .inl ⟨hbad fun _ _ _ => hsame, hchecked, ?_⟩
            show some (idleSettings e) = some _
            rw [hsame]
            rfl
          · refine .inr ⟨⟨e, hedit, hassigns, hS0, hwake, hsame⟩, fun h => hsame ?_⟩
            exact Option.some_inj.mp h
      · -- the framework keeps what it has, and so does the device
        obtain ⟨hcontext, hstatus⟩ := initPowerLeaves_of_refused r.answers e hassigns hS0
        rw [hcontext, hstatus, heq, hrestore]
        have hassigned : assignIdle r.answers e d.assigned = d.assigned := by
          have hS0' := eq_false_of_ne_true hS0
          simp [assignIdle, hS0']
        rw [hassigned]
        exact .inl ⟨hbad fun _ h => absurd h hS0, hchecked, h⟩

end Step

/-- The device is prepared, and the framework refuses to let it idle. -/
def RefusesIdle (a : PowerAnswers) (dc : PowerContext) : Prop :=
  (idleSettings (checkUsbdiVersion dc)).enabled = true ∧ ¬AssignS0 a dc

/-- A device that has been prepared. -/
theorem prepareHardware_agrees_iff (a : PowerAnswers) {dc : PowerContext}
    (hnew : dc.isIdleSettingsInitialized = false) :
    (prepareHardware a dc).dc.Checked ∧ ((prepareHardware a dc).Agrees ↔ ¬RefusesIdle a dc) := by
  have henabled : assignsIdle dc = (idleSettings (checkUsbdiVersion dc)).enabled := by
    rw [assignsIdle, hnew, Bool.or_false]
  have hchecked := checked_checkUsbdiVersion dc
  have hinitialized : (checkUsbdiVersion dc).isIdleSettingsInitialized = false :=
    (checkUsbdiVersion_initialized dc).trans hnew
  unfold prepareHardware RefusesIdle
  rw [← henabled]
  cases hassigns : assignsIdle dc with
  | false =>
    rw [(initPowerLeaves_of_idle a dc hassigns).context]
    refine ⟨hchecked, iff_of_true ?_ (by simp)⟩
    unfold IdleDevice.Agrees
    rw [if_neg (by simp [hinitialized])]
    exact ⟨by simp [assignIdle, hassigns], henabled.symm.trans hassigns⟩
  | true =>
    by_cases hS0 : AssignS0 a dc
    · rw [(initPowerLeaves_of_assigned a dc hassigns hS0).context]
      refine ⟨hchecked, iff_of_true ?_ fun h => h.2 hS0⟩
      unfold AssignS0 at hS0
      show assignIdle a dc none = some _
      rw [assignIdle, hassigns, hS0]
      rfl
    · rw [(initPowerLeaves_of_refused a dc hassigns hS0).context]
      refine ⟨hchecked, iff_of_false ?_ fun h => h ⟨rfl, hS0⟩⟩
      unfold IdleDevice.Agrees
      rw [if_neg (by simp [hinitialized]), ← henabled, hassigns]
      exact fun h => Bool.noConfusion h.2

/-- **The framework works with the idle settings that `GET_POWER_POLICY` reports**, from the
preparation of the device on and after every request, exactly if it lets the device idle in the
beginning, and never takes settings that differ from those reported while it refuses the wake
settings. -/
theorem power_agrees_iff (a : PowerAnswers) {dc : PowerContext}
    (hnew : dc.isIdleSettingsInitialized = false) (requests : List SetPower) :
    powerMachine.Always IdleDevice.Agrees (prepareHardware a dc) requests ↔
      ¬RefusesIdle a dc ∧
        powerMachine.Throughout (fun d r => ¬d.KeepsRefused r) (prepareHardware a dc) requests := by
  obtain ⟨hchecked, hagrees⟩ := prepareHardware_agrees_iff a hnew
  by_cases hrefuses : RefusesIdle a dc
  · refine ⟨fun h => absurd hrefuses (hagrees.mp h.start), fun h => absurd hrefuses h.1⟩
  · refine Iff.trans ?_ (and_iff_right hrefuses).symm
    refine Machine.always_iff_throughout_not (I := fun d : IdleDevice => d.dc.Checked ∧ d.Agrees)
      (fun _ => And.right) ?_ requests ⟨hchecked, hagrees.mpr hrefuses⟩
    intro d r d' hd hstep
    cases hstep
    exact step_setPower hd.1 hd.2 r

/-- A device that may idle, and wake the system. -/
def wakingDevice : PowerContext where
  usbdiVersion := 0x600
  remoteWakeCapable := true
  isIdleSettingsInitialized := false
  systemWakeEnabled := 1
  deviceIdleEnabled := 1
  deviceIdleIgnoreWakeEnable := 1
  userSetDeviceIdleEnabled := 0
  defaultIdleState := 1
  defaultIdleTimeout := 5000

/-- `SUSPEND_DELAY` is set to zero, and the wake settings are refused. -/
def refusedDelay : SetPower where
  answers := { assignSxWakeSettings := STATUS_INVALID_PARAMETER }
  policyType := SUSPEND_DELAY
  valueLength := 4
  value _ := 0

theorem power_agrees_iff_refusedDelay :
    ¬powerMachine.Always IdleDevice.Agrees (prepareHardware {} wakingDevice) [refusedDelay] := by
  intro h
  obtain ⟨-, hrun⟩ := (power_agrees_iff {} rfl _).mp h
  exact (hrun _ rfl).1 ⟨_, rfl, by decide, by decide, by decide, by decide⟩

end LibusbK
