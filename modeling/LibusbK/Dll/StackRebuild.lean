import LibusbK.Dll.DescriptorWalk
import LibusbK.Dll.UsbHandles
import LibusbK.Dll.UsbStack

/-!
# Rebuilding a stack

`UsbStack_Rebuild` (`lusbk_stack_collection.c`), which the backends call when the
configuration has changed.  A device is counted once for each handle that uses it.

## Main definitions

* `OpenDevice`, `usbStackInit` — a device in use, and how it is opened.
* `usbStackRebuild` — the rebuild.
* `RebuildsAfresh` — what a rebuild is for.

## Main results

* `rebuildsAfresh_iff` — a rebuild does what it is for where three handles or more use
  the device, and refuses.
-/

namespace LibusbK

/-! ### The rebuild -/

/-- A device in use, and the handle that rebuilds its stack. -/
structure OpenDevice where
  /-- `Base.Count.Ref`: the handles that use the device. -/
  ref : ℤ
  configDescriptor : Option Memory
  device : DevHandle
  settings : ℕ → SharedSetting
  selected : UInt8

/-- A slot as `memset` leaves it. -/
def clearedSetting : SharedSetting :=
  { interfaceHandle := none, currentAltSetting := 0, claimed := false }

/-- `UsbStack_Clear`: every element of every list is deleted. -/
def UsbStack.clear (stack : UsbStack) : UsbStack := { stack with interfaceList := [] }

/-- The parser on a device, after a number of calls of `u_Desc_Next`. -/
def walkOn (mem : Memory) (alloc : ℕ → Allocs) (device : DevHandle) (calls : ℕ) : Walker :=
  (Walker.step mem alloc)^[calls] (uInitConfig mem device)

/-- `UsbStack_Init` with a new device: `none` while the parser has not ended. -/
def usbStackInit (mem : Memory) (alloc : ℕ → Allocs) (calls : ℕ) : Option OpenDevice :=
  let w := walkOn mem alloc {} calls
  if w.frame = .done then
    some
      { ref := 1
        configDescriptor := some mem
        device := w.device
        settings := fun _ => clearedSetting
        selected := 0 }
  else none

/-- What `UsbStack_Rebuild` clears.  The `sizeof` in its `memset` of `SharedInterfaces` is
that of the pointer, and covers the handle of the first slot. -/
def OpenDevice.clear (s : OpenDevice) : OpenDevice :=
  { s with
    configDescriptor := none
    device := { s.device with usbStack := s.device.usbStack.clear }
    settings := Function.update s.settings 0 { s.settings 0 with interfaceHandle := none }
    selected := 0 }

/-- `UsbStack_Rebuild`: the device after it and its result, or `none` while the parser has
not ended.  `initConfig` is the descriptor `Init_ConfigCB` gets, if it gets one. -/
def usbStackRebuild (initConfig : Option Memory) (alloc : ℕ → Allocs) (calls : ℕ)
    (s : OpenDevice) : Option (OpenDevice × Bool) :=
  let ref := s.ref - 1
  if ref ≠ 1 then some ({ s with ref := ref + 1 }, false)
  else
    let ref := ref - 1
    if ref ≠ 0 then some ({ s with ref := ref + 1 + 1 }, false)
    else
      let s := { s with ref }.clear
      match initConfig with
      | none => some ({ s with ref := ref + 1 + 1 }, false)
      | some mem =>
        let w := walkOn mem alloc s.device calls
        if w.frame = .done then
          some
            ({ s with ref := ref + 1 + 1, configDescriptor := some mem, device := w.device }, true)
        else none

/-- What a rebuild is for: the only handle of a device gets the stack a new device would
have, and with another handle the rebuild fails and changes nothing. -/
def RebuildsAfresh (mem : Memory) (alloc : ℕ → Allocs) (calls : ℕ) (s : OpenDevice) : Prop :=
  ∃ t success, usbStackRebuild (some mem) alloc calls s = some (t, success) ∧
    (s.ref = 1 → success = true) ∧
    (s.ref ≠ 1 → success = false ∧ t = s) ∧
    (success = true → ∃ fresh, usbStackInit mem alloc calls = some fresh ∧
      t.device = fresh.device ∧ t.settings = fresh.settings ∧ t.selected = fresh.selected)

/-! ### When it succeeds -/

section Rebuild

variable {mem : Memory} {alloc : ℕ → Allocs} {calls : ℕ} {s : OpenDevice}

/-- With one handle, or three and more, the count is put back and that is all. -/
theorem usbStackRebuild_of_ne (initConfig : Option Memory) (h : s.ref ≠ 2) :
    usbStackRebuild initConfig alloc calls s = some (s, false) := by
  unfold usbStackRebuild
  rw [if_pos (by omega), Int.sub_add_cancel]

/-- With two handles the stack is rebuilt. -/
theorem usbStackRebuild_of_eq (h : s.ref = 2) :
    usbStackRebuild (some mem) alloc calls s =
      if (walkOn mem alloc s.clear.device calls).frame = .done then
        some
          ({ s.clear with
              configDescriptor := some mem
              device := (walkOn mem alloc s.clear.device calls).device }, true)
      else none := by
  obtain ⟨ref, configDescriptor, device, settings, selected⟩ := s
  obtain rfl : ref = 2 := h
  rfl

/-- The only handle is refused. -/
theorem not_rebuildsAfresh_of_one (h : s.ref = 1) : ¬ RebuildsAfresh mem alloc calls s := by
  rintro ⟨t, success, hrebuild, hsole, -⟩
  rw [usbStackRebuild_of_ne _ (by omega)] at hrebuild
  cases hrebuild
  exact absurd (hsole h) (by decide)

/-- The rebuild goes on although another handle uses the device. -/
theorem not_rebuildsAfresh_of_two (h : s.ref = 2) : ¬ RebuildsAfresh mem alloc calls s := by
  rintro ⟨t, success, hrebuild, -, hshared, -⟩
  rw [usbStackRebuild_of_eq h] at hrebuild
  split at hrebuild
  · cases hrebuild
    exact absurd (hshared (by omega)).1 (by decide)
  · cases hrebuild

/-- **When a rebuild does what it is for**, on a device in use. -/
theorem rebuildsAfresh_iff (mem : Memory) (alloc : ℕ → Allocs) (calls : ℕ) (s : OpenDevice)
    (hused : 1 ≤ s.ref) : RebuildsAfresh mem alloc calls s ↔ 3 ≤ s.ref := by
  constructor
  · intro h
    by_contra hfew
    by_cases htwo : s.ref = 2
    · exact not_rebuildsAfresh_of_two htwo h
    · exact not_rebuildsAfresh_of_one (by omega) h
  · intro hmany
    refine ⟨s, false, usbStackRebuild_of_ne _ (by omega), fun hsole => ?_, fun _ => ⟨rfl, rfl⟩,
      fun h => absurd h (by decide)⟩
    omega

end Rebuild

/-- A configuration of one interface without endpoints. -/
def singleInterface : Memory :=
  zeroExtend [9, 2, 18, 0, 1, 1, 0, 0x80, 50, 9, 4, 0, 0, 0, 0xFF, 0, 0, 0]

theorem rebuildsAfresh_threeHandles :
    ∃ s, usbStackInit singleInterface (fun _ => {}) 4 = some s ∧
      RebuildsAfresh singleInterface (fun _ => {}) 4 { s with ref := 3 } :=
  ⟨_, rfl, (rebuildsAfresh_iff _ _ _ _ (by decide)).mpr (by decide)⟩

/-- A device that has been opened is not rebuilt for its only handle, and is rebuilt while
a clone of it is open, with the interface numbered one. -/
theorem not_rebuildsAfresh_opened :
    ∃ s t, usbStackInit singleInterface (fun _ => {}) 4 = some s ∧
      ¬ RebuildsAfresh singleInterface (fun _ => {}) 4 s ∧
      ¬ RebuildsAfresh singleInterface (fun _ => {}) 4 { s with ref := 2 } ∧
      usbStackRebuild (some singleInterface) (fun _ => {}) 4 { s with ref := 2 } = some (t, true) ∧
      t.device.usbStack.interfaceList.map InterfaceEL.index = [1] :=
  ⟨_, _, rfl, not_rebuildsAfresh_of_one rfl, not_rebuildsAfresh_of_two rfl, rfl, by decide⟩

end LibusbK
