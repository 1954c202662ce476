import LibusbK.Driver.SettingRequests
import LibusbK.Dll.InterfaceSlots
import LibusbK.Dll.StackRebuild
import LibusbK.Lib.Machine
import Mathlib.Data.List.Nodup

/-!
# Alternate settings, in the library and in the driver

The calls of `lusbk_bknd_libusbk.c` that change an alternate setting or ask for it, with
the requests the driver gets for them.  A device is opened and closed any number of times,
and its driver goes on from one handle to the next.

## Main definitions

* `OpenStack`, `UsbkDevice` — what a device handle holds, and the driver below it.
* `usbkSetAltInterface`, `usbkGetAltInterface` and their kin — the calls.
* `usbkRuns` — the machine of all calls.
* `UsbkDevice.Mirrored` — the device handle holds what the driver has selected.

## Main result

* `mirrored_of_throughout` — it does in every run in which no handle is opened while a
  setting other than zero is selected, and no request fails after it has taken effect.
-/

namespace LibusbK

/-! ### The calls -/

/-- What the handles of a device share, and what each has selected. -/
structure OpenStack where
  device : DevHandle
  handles : UsbHandles

namespace OpenStack

variable (d : OpenStack)

/-- The interface elements. -/
def interfaceList : List InterfaceEL := d.device.usbStack.interfaceList

/-- The device handle as `UsbStack_Init` leaves it. -/
def ofInit (device : OpenDevice) : OpenStack where
  device := device.device
  handles := { selected := [device.selected], sharedInterfaces := device.settings }

def withHandles (handles : UsbHandles) : OpenStack := { d with handles }

/-- The `ID` of a slot. -/
def sharedId (intfIndex : UInt8) : UInt8 :=
  (d.device.sharedInterfaces.getD (sharedSlot intfIndex) {}).id

/-- The interface element that a call with a valid handle finds. -/
def findInterface (handle : ℕ) (numberOrIndex : UInt8) (isIndex : Bool) : Option InterfaceEL :=
  (d.handles.selected[handle]?).bind fun _ =>
    d.device.usbStack.findInterfaceEL isIndex numberOrIndex

/-- The number that `UsbK_SetAltInterface` sends. -/
def foundId (handle : ℕ) (numberOrIndex : UInt8) (isIndex : Bool) : Option UInt8 :=
  (d.findInterface handle numberOrIndex isIndex).map fun intfEL => d.sharedId intfEL.index

/-- The number that `UsbK_SetCurrentAlternateSetting` sends. -/
def selectedId (handle : ℕ) : Option UInt8 := (d.handles.selected[handle]?).map d.sharedId

/-- `UsbK_Free`: with its last handle the device is closed.  Then `Device_OnFileClose`
releases the claims, and the settings stay as they are. -/
def free (handle : ℕ) : Option OpenStack :=
  let selected := d.handles.selected.eraseIdx handle
  if selected = [] then none else some (d.withHandles { d.handles with selected })

end OpenStack

/-- `LIBUSBK_IOCTL_SET_INTERFACE`, if the call gets that far. -/
def submitSetInterface (settings : ℕ → InterfaceSettings) (driver : DeviceState)
    (id : Option UInt8) (altSettingNumber : UInt8) (outputBuffer : NTSTATUS)
    (outcome : SettingOutcome) : DeviceState × Bool :=
  match id with
  | none => (driver, false)
  | some id =>
    let r := onSetInterface settings driver (requestByNumber id altSettingNumber) outputBuffer
      outcome
    (r.1, r.2.isOk)

/-- `LIBUSBK_IOCTL_GET_INTERFACE`, if the call gets that far. -/
def submitGetInterface (driver : DeviceState) (id : Option UInt8) (outputBuffer : NTSTATUS) :
    Option UInt8 :=
  id.bind fun id =>
    match onGetInterface driver { interfaceNumber := id.toUInt32 } outputBuffer with
    | .error _ => none
    | .ok request => some request.altsettingNumber.toUInt8

section Calls

variable (settings : ℕ → InterfaceSettings) (driver : DeviceState) (d : OpenStack) (handle : ℕ)

/-- `UsbK_SetAltInterface`. -/
def usbkSetAltInterface (numberOrIndex : UInt8) (isIndex : Bool) (altSettingNumber : UInt8)
    (outputBuffer : NTSTATUS) (outcome : SettingOutcome) : DeviceState × OpenStack :=
  let r := submitSetInterface settings driver (d.foundId handle numberOrIndex isIndex)
    altSettingNumber outputBuffer outcome
  (r.1, d.withHandles
    (d.handles.setAltInterface d.device.usbStack handle numberOrIndex isIndex altSettingNumber
      r.2).handles)

/-- `UsbK_GetAltInterface`: the number it sends is that of the element. -/
def usbkGetAltInterface (numberOrIndex : UInt8) (isIndex : Bool) (outputBuffer : NTSTATUS) :
    OpenStack :=
  let id := (d.findInterface handle numberOrIndex isIndex).map InterfaceEL.id
  d.withHandles
    (d.handles.getAltInterface d.device.usbStack handle numberOrIndex isIndex
      (submitGetInterface driver id outputBuffer)).handles

/-- `UsbK_SetCurrentAlternateSetting`. -/
def usbkSetCurrentAlternateSetting (altSettingNumber : UInt8) (outputBuffer : NTSTATUS)
    (outcome : SettingOutcome) : DeviceState × OpenStack :=
  let r := submitSetInterface settings driver (d.selectedId handle) altSettingNumber outputBuffer
    outcome
  (r.1, d.withHandles (d.handles.setCurrentAlternateSetting handle altSettingNumber r.2).handles)

/-- `UsbK_GetCurrentAlternateSetting`. -/
def usbkGetCurrentAlternateSetting (outputBuffer : NTSTATUS) : OpenStack :=
  d.withHandles
    (d.handles.getCurrentAlternateSetting handle
      (submitGetInterface driver (d.selectedId handle) outputBuffer)).handles

end Calls

/-! ### Runs -/

/-- The calls that change an alternate setting or ask for it. -/
def HandleCall.isAltSetting : HandleCall → Bool
  | .setAltInterface .. => true
  | .getAltInterface .. => true
  | .setCurrentAlternateSetting .. => true
  | .getCurrentAlternateSetting .. => true
  | _ => false

/-- A driver, and the device handle that is open on it. -/
structure UsbkDevice where
  driver : DeviceState
  opened : Option OpenStack := none

/-- What happens to a device. -/
inductive UsbkEvent
  | init (mem : Memory) (alloc : ℕ → Allocs) (calls : ℕ)
  | free (handle : ℕ)
  /-- Any other call of the handles. -/
  | other (call : HandleCall)
  | setAltInterface (handle : ℕ) (numberOrIndex : UInt8) (isIndex : Bool)
    (altSettingNumber : UInt8) (outputBuffer : NTSTATUS) (outcome : SettingOutcome)
  | getAltInterface (handle : ℕ) (numberOrIndex : UInt8) (isIndex : Bool)
    (outputBuffer : NTSTATUS)
  | setCurrentAlternateSetting (handle : ℕ) (altSettingNumber : UInt8) (outputBuffer : NTSTATUS)
    (outcome : SettingOutcome)
  | getCurrentAlternateSetting (handle : ℕ) (outputBuffer : NTSTATUS)

/-- A call on the open device handle. -/
def UsbkEvent.onOpened (settings : ℕ → InterfaceSettings) (driver : DeviceState)
    (d : OpenStack) : UsbkEvent → Option UsbkDevice
  | .init _ _ _ => none
  | .free handle => some { driver, opened := d.free handle }
  | .other call =>
    if call.isAltSetting then none
    else
      some { driver, opened := some (d.withHandles (call.run d.device.usbStack d.handles).handles) }
  | .setAltInterface handle numberOrIndex isIndex altSettingNumber outputBuffer outcome =>
    let r := usbkSetAltInterface settings driver d handle numberOrIndex isIndex altSettingNumber
      outputBuffer outcome
    some { driver := r.1, opened := some r.2 }
  | .getAltInterface handle numberOrIndex isIndex outputBuffer =>
    some
      { driver
        opened := some (usbkGetAltInterface driver d handle numberOrIndex isIndex outputBuffer) }
  | .setCurrentAlternateSetting handle altSettingNumber outputBuffer outcome =>
    let r := usbkSetCurrentAlternateSetting settings driver d handle altSettingNumber outputBuffer
      outcome
    some { driver := r.1, opened := some r.2 }
  | .getCurrentAlternateSetting handle outputBuffer =>
    some { driver, opened := some (usbkGetCurrentAlternateSetting driver d handle outputBuffer) }

/-- A device, on which one device handle at most is open at a time. -/
def usbkRuns (settings : ℕ → InterfaceSettings) : Machine UsbkDevice UsbkEvent where
  step s event :=
    match s.opened, event with
    | none, .init mem alloc calls =>
      (usbStackInit mem alloc calls).map fun device => { s with opened := some (.ofInit device) }
    | none, _ => none
    | some d, event => event.onOpened settings s.driver d

/-- The slots hold what the driver has selected, for each interface of the stack that the
driver has. -/
def OpenStack.Mirrors (d : OpenStack) (driver : DeviceState) : Prop :=
  ∀ el ∈ d.interfaceList, ∀ altSetting, driver.altSetting el.id = some altSetting →
    (getSharedInterface d.handles.sharedInterfaces el.index).currentAltSetting = altSetting

/-- The open device handle holds what the driver has selected. -/
def UsbkDevice.Mirrored (s : UsbkDevice) : Prop := ∀ d, s.opened = some d → d.Mirrors s.driver

/-- A device handle is opened while the driver has selected the alternate setting zero for
every interface of the descriptor, which are not too many; and no request fails after it
has taken effect. -/
def InStep (settings : ℕ → InterfaceSettings) (s : UsbkDevice) : UsbkEvent → Prop
  | .init mem _ _ => ∀ k, Walked mem k →
    (interfaceNumbers mem k).length ≤ kdevSharedInterfaceCount ∧
      ∀ number ∈ interfaceNumbers mem k, ∀ altSetting,
        s.driver.altSetting number = some altSetting → altSetting = 0
  | .setAltInterface handle numberOrIndex isIndex altSettingNumber outputBuffer outcome =>
    ∀ d id, s.opened = some d → d.foundId handle numberOrIndex isIndex = some id →
      ntSuccess outputBuffer = true →
        outcome.ReadsBack settings s.driver (requestByNumber id altSettingNumber)
  | .setCurrentAlternateSetting handle altSettingNumber outputBuffer outcome =>
    ∀ d id, s.opened = some d → d.selectedId handle = some id → ntSuccess outputBuffer = true →
      outcome.ReadsBack settings s.driver (requestByNumber id altSettingNumber)
  | _ => True

/-! ### The slots hold the numbers of the interfaces -/

/-- Where the slots are apart, each holds the number of its interface. -/
structure DevHandle.SlotsNamed (device : DevHandle) : Prop where
  numbered : ∃ ids, device.Numbered ids
  length_eq : device.sharedInterfaces.length = kdevSharedInterfaceCount
  id_eq : device.usbStack.interfaceList.length ≤ kdevSharedInterfaceCount →
    ∀ el ∈ device.usbStack.interfaceList,
      (device.sharedInterfaces.getD el.sharedInterface {}).id = el.id

namespace DevHandle.SlotsNamed

variable {device : DevHandle} {number : UInt8}

theorem empty : DevHandle.SlotsNamed {} :=
  ⟨⟨[], .empty⟩, List.length_replicate, fun _ _ h => (List.not_mem_nil h).elim⟩

theorem appendInterfaceEL (h : device.SlotsNamed)
    (hnone : device.usbStack.findInterfaceEL false number = none) :
    (device.appendInterfaceEL number).SlotsNamed := by
  obtain ⟨ids, hids⟩ := h.numbered
  have hnew : number ∉ ids := by
    intro hmem
    have hfound := hids.mem_iff_find.mpr hmem
    rw [hnone] at hfound
    cases hfound
  have hids' := hids.appendInterfaceEL hnew
  refine ⟨⟨_, hids'⟩, ?_, fun hlen => ?_⟩
  · unfold DevHandle.appendInterfaceEL
    rw [List.length_set, h.length_eq]
  · have hapart := hids'.pairwise_slots_iff.mpr (hids'.interfaces.length_eq ▸ hlen)
    unfold DevHandle.appendInterfaceEL at hlen hapart ⊢
    dsimp only at hlen hapart ⊢
    rw [List.length_append, List.length_singleton] at hlen
    have hslot := sharedSlot_lt device.usbStack.interfaceCount
    intro el hel
    rcases List.mem_append.mp hel with hold | hlast
    · -- the slot of the new element is another one
      have hne := (List.pairwise_append.mp hapart).2.2 el hold _ (List.mem_singleton.mpr rfl)
      rw [List.getD_eq_getElem?_getD, List.getElem?_set_ne hne.symm, ← List.getD_eq_getElem?_getD]
      exact h.id_eq (by omega) el hold
    · obtain rfl := List.mem_singleton.mp hlast
      rw [List.getD_eq_getElem?_getD, List.getElem?_set_self (h.length_eq ▸ hslot)]
      rfl

theorem updateInterface (h : device.SlotsNamed) {f : InterfaceEL → InterfaceEL}
    (hid : ∀ el, (f el).id = el.id) (hindex : ∀ el, (f el).index = el.index)
    (hslot : ∀ el, (f el).sharedInterface = el.sharedInterface) :
    DevHandle.SlotsNamed
      { device with usbStack := device.usbStack.updateInterface number f } := by
  obtain ⟨ids, hids⟩ := h.numbered
  refine ⟨⟨ids, hids.updateInterface hid hindex hslot⟩, h.length_eq, fun hlen => ?_⟩
  unfold UsbStack.updateInterface at hlen ⊢
  rw [Keyed.length_update] at hlen
  refine Keyed.forall_update (h.id_eq hlen) (fun el _ hel => hel) fun el _ _ hel => ?_
  rw [hslot, hid]
  exact hel

theorem keptByParser : KeptByParser DevHandle.SlotsNamed where
  append _ _ h hnone := h.appendInterfaceEL hnone
  update _ _ _ h hid hindex hslot := h.updateInterface hid hindex hslot

end DevHandle.SlotsNamed

/-! ### The invariant of an open device handle -/

/-- The interfaces are numbered in order and have a slot each, which holds their numbers,
and what a handle has selected is one of them. -/
structure OpenStack.Consistent (d : OpenStack) : Prop where
  numbered : ∃ ids, d.device.Numbered ids ∧ ids.length ≤ kdevSharedInterfaceCount
  sharedId_eq : ∀ el ∈ d.interfaceList, d.sharedId el.index = el.id
  selected : ∀ index ∈ d.handles.selected, d.interfaceList ≠ [] →
    index ∈ d.interfaceList.map InterfaceEL.index

namespace OpenStack.Consistent

variable {d : OpenStack}

/-- An element of another index has another number. -/
theorem eq_of_id_eq (h : d.Consistent) {a b : InterfaceEL} (ha : a ∈ d.interfaceList)
    (hb : b ∈ d.interfaceList) (heq : a.id = b.id) : a = b := by
  obtain ⟨ids, hids, -⟩ := h.numbered
  refine List.inj_on_of_nodup_map ?_ ha hb heq
  unfold OpenStack.interfaceList
  rw [hids.interfaces.ids]
  exact hids.nodup

theorem eq_of_index_eq (h : d.Consistent) {a b : InterfaceEL} (ha : a ∈ d.interfaceList)
    (hb : b ∈ d.interfaceList) (heq : a.index = b.index) : a = b := by
  obtain ⟨ids, hids, -⟩ := h.numbered
  exact hids.eq_of_index_eq ha hb heq

/-- An element of another index has another slot. -/
theorem sharedSlot_ne (h : d.Consistent) {a b : InterfaceEL} (ha : a ∈ d.interfaceList)
    (hb : b ∈ d.interfaceList) (hne : a.index ≠ b.index) :
    sharedSlot a.index ≠ sharedSlot b.index := by
  obtain ⟨ids, hids, hlen⟩ := h.numbered
  exact fun heq => hne (hids.sharedSlot_inj hlen ha (hids.index_lt hlen hb) heq)

/-- A call that selects only interfaces. -/
theorem withHandles (h : d.Consistent) {handles : UsbHandles}
    (hselected : ∀ index ∈ handles.selected,
      index ∈ d.handles.selected ∨ index ∈ d.interfaceList.map InterfaceEL.index) :
    (d.withHandles handles).Consistent := by
  refine ⟨h.numbered, h.sharedId_eq, fun index hindex hne => ?_⟩
  rcases hselected index hindex with hold | hnew
  · exact h.selected index hold hne
  · exact hnew

/-- A call on the handles. -/
theorem run (h : d.Consistent) (call : HandleCall) :
    (d.withHandles (call.run d.device.usbStack d.handles).handles).Consistent :=
  h.withHandles (call.follows d.device.usbStack d.handles).selected

theorem free (h : d.Consistent) {handle : ℕ} {d' : OpenStack} (hfree : d.free handle = some d') :
    d'.Consistent := by
  unfold OpenStack.free at hfree
  dsimp only at hfree
  split at hfree
  · cases hfree
  · cases hfree
    exact h.withHandles fun index hindex => .inl (List.mem_of_mem_eraseIdx hindex)

end OpenStack.Consistent

/-- A device handle that has just been opened is consistent. -/
theorem OpenStack.consistent_ofInit {mem : Memory} {alloc : ℕ → Allocs} {calls : ℕ}
    {device : OpenDevice} (hinit : usbStackInit mem alloc calls = some device)
    (hcount : ∀ k, Walked mem k → (interfaceNumbers mem k).length ≤ kdevSharedInterfaceCount) :
    (OpenStack.ofInit device).Consistent := by
  have hnumbered := walk_numbered mem alloc calls
  have hlen := length_numbersAdded_visited_le hcount alloc calls
  have hnamed : (walk mem alloc calls).device.SlotsNamed :=
    DevHandle.SlotsNamed.keptByParser.walker .empty calls
  unfold usbStackInit at hinit
  dsimp only at hinit
  split at hinit
  · cases hinit
    refine ⟨⟨_, hnumbered, hlen⟩, fun el hel => ?_, fun index hindex hne => ?_⟩
    · have hid := hnamed.id_eq (hnumbered.interfaces.length_eq ▸ hlen) el hel
      rw [hnumbered.slots el hel] at hid
      exact hid
    · obtain rfl := List.mem_singleton.mp hindex
      have hpos := List.length_pos_of_ne_nil hne
      have hfirst := hnumbered.index_eq hpos
      exact List.mem_map.mpr ⟨_, List.getElem_mem hpos, UInt8.toNat_inj.mp hfirst⟩
  · cases hinit

/-- It mirrors a driver that has selected nothing but the alternate setting zero. -/
theorem OpenStack.mirrors_ofInit {mem : Memory} {alloc : ℕ → Allocs} {calls : ℕ}
    {device : OpenDevice} {driver : DeviceState}
    (hinit : usbStackInit mem alloc calls = some device)
    (hzero : ∀ k, Walked mem k → ∀ number ∈ interfaceNumbers mem k, ∀ altSetting,
      driver.altSetting number = some altSetting → altSetting = 0) :
    (OpenStack.ofInit device).Mirrors driver := by
  have hnumbered := walk_numbered mem alloc calls
  unfold usbStackInit at hinit
  dsimp only at hinit
  split at hinit
  · cases hinit
    intro el hel altSetting hselected
    have hadded : el.id ∈ numbersAdded mem alloc (walk mem alloc calls).visited := by
      rw [← hnumbered.interfaces.ids]
      exact List.mem_map_of_mem hel
    rcases walked_visited mem alloc calls with hwalked | hnone
    · exact (hzero _ hwalked _ (numbersAdded_subset mem alloc _ hadded) altSetting
        hselected).symm
    · rw [hnone] at hadded
      exact (List.not_mem_nil hadded).elim
  · cases hinit

/-! ### What a call stores -/

section Store

variable {d : OpenStack} {driver driver' : DeviceState} {index : UInt8} {answer : Option UInt8}

/-- A call that stores `answer` in the slot of an interface: what the driver has selected
for it is that, or as before where nothing is stored. -/
theorem OpenStack.Mirrors.storeAltSetting (hd : d.Consistent) (h : d.Mirrors driver)
    (hindex : d.interfaceList ≠ [] → index ∈ d.interfaceList.map InterfaceEL.index)
    (hother : ∀ number ≠ d.sharedId index, driver'.altSetting number = driver.altSetting number)
    (hnone : answer = none →
      driver'.altSetting (d.sharedId index) = driver.altSetting (d.sharedId index))
    (hsome : ∀ stored, answer = some stored → ∀ altSetting,
      driver'.altSetting (d.sharedId index) = some altSetting → altSetting = stored) :
    (d.withHandles (d.handles.storeAltSetting index answer).handles).Mirrors driver' := by
  intro el hel altSetting hselected
  obtain ⟨target, htarget, rfl⟩ := List.mem_map.mp (hindex (List.ne_nil_of_mem hel))
  have hid := hd.sharedId_eq target htarget
  rw [hid] at hother hnone hsome
  by_cases heq : el = target
  · subst heq
    cases answer with
    | none => exact h el hel altSetting (hnone rfl ▸ hselected)
    | some stored =>
      have hstored := getSharedInterface_updateAltSetting_self d.handles.sharedInterfaces
        el.index stored
      exact (congrArg SharedSetting.currentAltSetting hstored).trans
        (hsome stored rfl altSetting hselected).symm
  · have hnumber : el.id ≠ target.id := fun h => heq (hd.eq_of_id_eq hel htarget h)
    have hne : el.index ≠ target.index := fun h => heq (hd.eq_of_index_eq hel htarget h)
    have hold := h el hel altSetting ((hother _ hnumber) ▸ hselected)
    cases answer with
    | none => exact hold
    | some stored =>
      have hkept := getSharedInterface_updateAltSetting_of_ne d.handles.sharedInterfaces stored
        (hd.sharedSlot_ne hel htarget hne)
      exact (congrArg SharedSetting.currentAltSetting hkept).trans hold

/-- The request for an alternate setting, with what the call stores after it. -/
theorem OpenStack.mirrors_submitSetInterface {settings : ℕ → InterfaceSettings}
    {altSettingNumber : UInt8} {outputBuffer : NTSTATUS} {outcome : SettingOutcome}
    (hd : d.Consistent) (h : d.Mirrors driver) (hs : driver.DescribedBy settings)
    (hindex : d.interfaceList ≠ [] → index ∈ d.interfaceList.map InterfaceEL.index)
    (hreads : ntSuccess outputBuffer = true →
      outcome.ReadsBack settings driver (requestByNumber (d.sharedId index) altSettingNumber)) :
    let r := submitSetInterface settings driver (some (d.sharedId index)) altSettingNumber
      outputBuffer outcome
    r.1.DescribedBy settings ∧
      (d.withHandles (d.handles.storeAltSetting index
        (if r.2 then some altSettingNumber else none)).handles).Mirrors r.1 := by
  obtain ⟨hs', hrequest⟩ := setsOrKeeps_onSetInterface hs outputBuffer hreads
  refine ⟨hs', h.storeAltSetting hd hindex hrequest.other (fun hnone => ?_)
    fun stored hstored altSetting hselected => ?_⟩
  · refine hrequest.keeps ?_
    unfold submitSetInterface at hnone
    simpa using hnone
  · unfold submitSetInterface at hstored
    simp only [Option.ite_none_right_eq_some, Option.some.injEq] at hstored
    obtain ⟨hok, rfl⟩ := hstored
    exact hrequest.sets hok altSetting hselected

/-- The request for what is selected, with what the call stores after it. -/
theorem OpenStack.mirrors_submitGetInterface {outputBuffer : NTSTATUS} (hd : d.Consistent)
    (h : d.Mirrors driver)
    (hindex : d.interfaceList ≠ [] → index ∈ d.interfaceList.map InterfaceEL.index) :
    (d.withHandles (d.handles.storeAltSetting index
      (submitGetInterface driver (some (d.sharedId index)) outputBuffer)).handles).Mirrors
        driver := by
  refine h.storeAltSetting hd hindex (fun _ _ => rfl) (fun _ => rfl)
    fun stored hstored altSetting hselected => ?_
  unfold submitGetInterface at hstored
  rw [Option.bind_some] at hstored
  split at hstored
  · cases hstored
  · next hanswer =>
    cases hstored
    exact Option.some.inj (hselected.symm.trans (altsettingNumber_onGetInterface hanswer))

end Store

section Found

variable {d : OpenStack} {handle : ℕ} {numberOrIndex : UInt8} {isIndex : Bool} {error : UsbError}
  (answer : InterfaceEL → Option UInt8)

/-- A call that stores what it gets for the interface that it finds, if it finds one. -/
theorem OpenStack.handles_withInterface :
    (d.handles.withHandle handle fun _ =>
      d.handles.withInterface d.device.usbStack isIndex numberOrIndex error fun intfEL =>
        d.handles.storeAltSetting intfEL.index (answer intfEL)).handles =
      match d.findInterface handle numberOrIndex isIndex with
      | none => d.handles
      | some intfEL => (d.handles.storeAltSetting intfEL.index (answer intfEL)).handles := by
  unfold UsbHandles.withHandle UsbHandles.withInterface OpenStack.findInterface
  cases d.handles.selected[handle]? with
  | none => rfl
  | some selected =>
    rw [Option.bind_some]
    cases d.device.usbStack.findInterfaceEL isIndex numberOrIndex <;> rfl

theorem OpenStack.interfaceEL_mem_of_findInterface {intfEL : InterfaceEL}
    (h : d.findInterface handle numberOrIndex isIndex = some intfEL) :
    intfEL ∈ d.interfaceList := by
  obtain ⟨-, -, hfound⟩ := Option.bind_eq_some_iff.mp h
  exact mem_of_findInterfaceEL hfound

theorem OpenStack.mem_of_findInterface {intfEL : InterfaceEL}
    (h : d.findInterface handle numberOrIndex isIndex = some intfEL) :
    intfEL.index ∈ d.interfaceList.map InterfaceEL.index :=
  List.mem_map_of_mem (interfaceEL_mem_of_findInterface h)

/-- The other calls of the handles keep the alternate setting of every slot. -/
theorem HandleCall.currentAltSetting_run (stack : UsbStack) (s : UsbHandles) (call : HandleCall)
    (hcall : call.isAltSetting = false) (slot : ℕ) :
    ((call.run stack s).handles.sharedInterfaces slot).currentAltSetting =
      (s.sharedInterfaces slot).currentAltSetting := by
  have hslots := (call.follows stack s).slots slot
  cases call with
  | selectInterface handle indexOrNumber isIndex => rw [hslots fun _ h => nomatch h]
  | cloneHandle handle pool => rw [hslots fun _ h => nomatch h]
  | getAssociatedInterface handle associatedInterfaceIndex pool =>
    rw [hslots fun _ h => nomatch h]
  | querySelectedEndpoint handle endpointAddressOrIndex isIndex =>
    rw [hslots fun _ h => nomatch h]
  | querySelectedPipe handle endpointAddressOrIndex isIndex => rw [hslots fun _ h => nomatch h]
  | claimOrReleaseInterface handle numberOrIndex isClaim isIndex success =>
    have hclaimed (index : UInt8) (claimed : Bool) :
        ((s.setClaimed index claimed).sharedInterfaces slot).currentAltSetting =
          (s.sharedInterfaces slot).currentAltSetting := by
      unfold UsbHandles.setClaimed getSharedInterface
      dsimp only
      by_cases heq : slot = sharedSlot index
      · rw [heq, Function.update_self]
      · rw [Function.update_of_ne heq]
    show ((s.claimOrReleaseInterface stack handle numberOrIndex isClaim isIndex
      success).handles.sharedInterfaces slot).currentAltSetting = _
    unfold UsbHandles.claimOrReleaseInterface UsbHandles.withHandle
    split
    · rfl
    · unfold UsbHandles.withInterface
      split
      · rfl
      · dsimp only
        split
        · exact hclaimed _ true
        · exact hclaimed _ false
  | setAltInterface handle numberOrIndex isIndex altSettingNumber success => cases hcall
  | getAltInterface handle numberOrIndex isIndex answer => cases hcall
  | setCurrentAlternateSetting handle altSettingNumber success => cases hcall
  | getCurrentAlternateSetting handle answer => cases hcall

end Found

/-! ### The invariant of a run -/

/-- The driver's contexts describe settings that the framework knows of, and the open device
handle is consistent and mirrors them. -/
structure UsbkDevice.Consistent (settings : ℕ → InterfaceSettings) (s : UsbkDevice) : Prop where
  described : s.driver.DescribedBy settings
  opened : ∀ d, s.opened = some d → d.Consistent ∧ d.Mirrors s.driver

namespace UsbkDevice.Consistent

variable {settings : ℕ → InterfaceSettings} {driver : DeviceState} {d : OpenStack} {handle : ℕ}
  {numberOrIndex : UInt8} {isIndex : Bool} {altSettingNumber : UInt8} {outputBuffer : NTSTATUS}
  {outcome : SettingOutcome}

theorem ofOpened {driver : DeviceState} (hs : driver.DescribedBy settings) (hd : d.Consistent)
    (h : d.Mirrors driver) : UsbkDevice.Consistent settings { driver, opened := some d } :=
  ⟨hs, fun _ hd' => Option.some.inj hd' ▸ ⟨hd, h⟩⟩

/-- A call that asks the driver for a setting, for no interface or for one of the device, and
stores what it has asked for. -/
theorem ofSubmit (handles : Bool → UsbHandles) (hs : driver.DescribedBy settings)
    (hd : d.Consistent) (h : d.Mirrors driver) {id : Option UInt8}
    (hrun : ∀ success, (d.withHandles (handles success)).Consistent)
    (hcall : id = none ∧ handles false = d.handles ∨
      ∃ index, id = some (d.sharedId index) ∧
        (d.interfaceList ≠ [] → index ∈ d.interfaceList.map InterfaceEL.index) ∧
        ∀ success, handles success = (d.handles.storeAltSetting index
          (if success then some altSettingNumber else none)).handles)
    (hreads : ∀ sent, id = some sent → ntSuccess outputBuffer = true →
      outcome.ReadsBack settings driver (requestByNumber sent altSettingNumber)) :
    let r := submitSetInterface settings driver id altSettingNumber outputBuffer outcome
    UsbkDevice.Consistent settings
      { driver := r.1, opened := some (d.withHandles (handles r.2)) } := by
  rcases hcall with ⟨rfl, hkept⟩ | ⟨index, rfl, hindex, hstored⟩
  · refine ofOpened hs (hrun false) ?_
    show (d.withHandles (handles false)).Mirrors driver
    rw [hkept]
    exact h
  · obtain ⟨hdescribed, hmirrors⟩ :=
      OpenStack.mirrors_submitSetInterface hd h hs hindex (hreads _ rfl)
    refine ofOpened hdescribed (hrun _) ?_
    rw [hstored]
    exact hmirrors

theorem setAltInterface (hs : driver.DescribedBy settings) (hd : d.Consistent)
    (h : d.Mirrors driver)
    (hreads : ∀ id, d.foundId handle numberOrIndex isIndex = some id →
      ntSuccess outputBuffer = true →
        outcome.ReadsBack settings driver (requestByNumber id altSettingNumber)) :
    let r := usbkSetAltInterface settings driver d handle numberOrIndex isIndex altSettingNumber
      outputBuffer outcome
    UsbkDevice.Consistent settings { driver := r.1, opened := some r.2 } := by
  refine ofSubmit (fun success => (d.handles.setAltInterface d.device.usbStack handle
    numberOrIndex isIndex altSettingNumber success).handles) hs hd h
    (fun success => hd.run (.setAltInterface handle numberOrIndex isIndex altSettingNumber
      success)) ?_ hreads
  unfold UsbHandles.setAltInterface OpenStack.foundId
  simp only [OpenStack.handles_withInterface]
  cases hfound : d.findInterface handle numberOrIndex isIndex with
  | none => exact .inl ⟨rfl, rfl⟩
  | some intfEL =>
    exact .inr ⟨intfEL.index, rfl, fun _ => OpenStack.mem_of_findInterface hfound, fun _ => rfl⟩

theorem getAltInterface (hs : driver.DescribedBy settings) (hd : d.Consistent)
    (h : d.Mirrors driver) :
    UsbkDevice.Consistent settings
      { driver
        opened :=
          some (usbkGetAltInterface driver d handle numberOrIndex isIndex outputBuffer) } := by
  refine ofOpened hs (hd.run (.getAltInterface handle numberOrIndex isIndex _)) ?_
  unfold usbkGetAltInterface UsbHandles.getAltInterface
  dsimp only
  rw [OpenStack.handles_withInterface]
  cases hfound : d.findInterface handle numberOrIndex isIndex with
  | none => exact h
  | some intfEL =>
    have hmem := OpenStack.mem_of_findInterface hfound
    have hanswer := @OpenStack.mirrors_submitGetInterface d driver intfEL.index outputBuffer hd h
      fun _ => hmem
    -- the number of the element is that of its slot
    rw [hd.sharedId_eq intfEL (OpenStack.interfaceEL_mem_of_findInterface hfound)] at hanswer
    exact hanswer

theorem setCurrentAlternateSetting (hs : driver.DescribedBy settings) (hd : d.Consistent)
    (h : d.Mirrors driver)
    (hreads : ∀ id, d.selectedId handle = some id → ntSuccess outputBuffer = true →
      outcome.ReadsBack settings driver (requestByNumber id altSettingNumber)) :
    let r := usbkSetCurrentAlternateSetting settings driver d handle altSettingNumber outputBuffer
      outcome
    UsbkDevice.Consistent settings { driver := r.1, opened := some r.2 } := by
  refine ofSubmit (fun success =>
    (d.handles.setCurrentAlternateSetting handle altSettingNumber success).handles) hs hd h
    (fun success => hd.run (.setCurrentAlternateSetting handle altSettingNumber success)) ?_ hreads
  unfold UsbHandles.setCurrentAlternateSetting UsbHandles.withHandle OpenStack.selectedId
  cases hselected : d.handles.selected[handle]? with
  | none => exact .inl ⟨rfl, rfl⟩
  | some selected =>
    exact .inr ⟨selected, rfl, hd.selected selected (List.mem_of_getElem? hselected), fun _ => rfl⟩

theorem getCurrentAlternateSetting (hs : driver.DescribedBy settings) (hd : d.Consistent)
    (h : d.Mirrors driver) :
    UsbkDevice.Consistent settings
      { driver
        opened := some (usbkGetCurrentAlternateSetting driver d handle outputBuffer) } := by
  refine ofOpened hs (hd.run (.getCurrentAlternateSetting handle _)) ?_
  unfold usbkGetCurrentAlternateSetting UsbHandles.getCurrentAlternateSetting
    UsbHandles.withHandle OpenStack.selectedId
  cases hselected : d.handles.selected[handle]? with
  | none => exact h
  | some selected =>
    exact OpenStack.mirrors_submitGetInterface hd h
      (hd.selected selected (List.mem_of_getElem? hselected))

/-- The other calls leave the alternate settings alone. -/
theorem other (hs : driver.DescribedBy settings) (hd : d.Consistent) (h : d.Mirrors driver)
    {call : HandleCall} (hcall : call.isAltSetting = false) :
    UsbkDevice.Consistent settings
      { driver
        opened := some (d.withHandles (call.run d.device.usbStack d.handles).handles) } := by
  refine ofOpened hs (hd.run call) fun el hel altSetting hselected => ?_
  have hkept := call.currentAltSetting_run d.device.usbStack d.handles hcall
  exact (hkept (sharedSlot el.index)).trans (h el hel altSetting hselected)

theorem init {s : UsbkDevice} (hs : s.Consistent settings) {mem : Memory} {alloc : ℕ → Allocs}
    {calls : ℕ} (hok : InStep settings s (.init mem alloc calls)) {device : OpenDevice}
    (hinit : usbStackInit mem alloc calls = some device) :
    UsbkDevice.Consistent settings { s with opened := some (.ofInit device) } :=
  ofOpened hs.described
    (OpenStack.consistent_ofInit hinit fun k hk => (hok k hk).1)
    (OpenStack.mirrors_ofInit hinit fun k hk => (hok k hk).2)

theorem free (hs : driver.DescribedBy settings) (hd : d.Consistent) (h : d.Mirrors driver) :
    UsbkDevice.Consistent settings { driver, opened := d.free handle } := by
  refine ⟨hs, fun d' hfree => ⟨hd.free hfree, ?_⟩⟩
  unfold OpenStack.free at hfree
  dsimp only at hfree
  split at hfree
  · cases hfree
  · cases hfree
    exact h

/-- One event. -/
theorem step {s s' : UsbkDevice} (hs : s.Consistent settings) {event : UsbkEvent}
    (hok : InStep settings s event) (hstep : (usbkRuns settings).step s event = some s') :
    s'.Consistent settings := by
  obtain ⟨driver, opened⟩ := s
  cases opened with
  | none =>
    cases event with
    | init mem alloc calls =>
      obtain ⟨device, hinit, rfl⟩ := Option.map_eq_some_iff.mp hstep
      exact hs.init hok hinit
    | free _ => cases hstep
    | other _ => cases hstep
    | setAltInterface _ _ _ _ _ _ => cases hstep
    | getAltInterface _ _ _ _ => cases hstep
    | setCurrentAlternateSetting _ _ _ _ => cases hstep
    | getCurrentAlternateSetting _ _ => cases hstep
  | some d =>
    obtain ⟨hd, hmirrors⟩ := hs.opened d rfl
    cases event with
    | init mem alloc calls => cases hstep
    | free handle =>
      cases hstep
      exact free hs.described hd hmirrors
    | other call =>
      obtain ⟨hcall, rfl⟩ : ¬call.isAltSetting = true ∧ _ := by
        simpa [usbkRuns, UsbkEvent.onOpened] using hstep
      exact other hs.described hd hmirrors (Bool.not_eq_true _ ▸ hcall)
    | setAltInterface handle numberOrIndex isIndex altSettingNumber outputBuffer outcome =>
      cases hstep
      exact setAltInterface hs.described hd hmirrors fun id => hok d id rfl
    | getAltInterface handle numberOrIndex isIndex outputBuffer =>
      cases hstep
      exact getAltInterface hs.described hd hmirrors
    | setCurrentAlternateSetting handle altSettingNumber outputBuffer outcome =>
      cases hstep
      exact setCurrentAlternateSetting hs.described hd hmirrors fun id => hok d id rfl
    | getCurrentAlternateSetting handle outputBuffer =>
      cases hstep
      exact getCurrentAlternateSetting hs.described hd hmirrors

end UsbkDevice.Consistent

/-- **What the library holds is what the driver has selected**, in every run whose steps
meet `InStep`: however often the device is opened and closed, whatever is asked for on
which handle, and whatever the framework answers. -/
theorem mirrored_of_throughout (settings : ℕ → InterfaceSettings) {s : UsbkDevice}
    (hclosed : s.opened = none) (hs : s.driver.DescribedBy settings) (events : List UsbkEvent)
    (h : (usbkRuns settings).Throughout (InStep settings) s events) :
    (usbkRuns settings).Always UsbkDevice.Mirrored s events := by
  refine Machine.Throughout.always (I := UsbkDevice.Consistent settings) (fun s hs d hd => ?_)
    (fun s event s' hs hok hstep => hs.step hok hstep) ⟨hs, fun d hd => ?_⟩ h
  · exact (hs.opened d hd).2
  · rw [hclosed] at hd
    cases hd

/-- The settings zero and one, at the indices zero and one. -/
def twoSettings : InterfaceSettings where
  bInterfaceNumber := 0
  numSettings := 2
  descriptor j := { bAlternateSetting := j }
  bInterfaceNumber_descriptor _ _ := rfl

/-- A configuration of one interface with two alternate settings. -/
def twoSettingsDescriptor : Memory :=
  zeroExtend
    [9, 2, 27, 0, 1, 1, 0, 0x80, 50, 9, 4, 0, 0, 0, 0xFF, 0, 0, 0, 9, 4, 0, 1, 0, 0xFF, 0, 0, 0]

/-- A device handle can be opened while the alternate setting zero is selected. -/
theorem inStep_init_twoSettingsDescriptor {s : UsbkDevice} (hzero : s.driver.altSetting 0 = some 0)
    (alloc : ℕ → Allocs) (calls : ℕ) :
    InStep (fun _ => twoSettings) s (.init twoSettingsDescriptor alloc calls) := by
  intro k hk
  have hshort : ∀ k < 3, (interfaceNumbers twoSettingsDescriptor k).length ≤ 128 ∧
      ∀ number ∈ interfaceNumbers twoSettingsDescriptor k, number = 0 := by decide +kernel
  have hend : ¬ StandsAt twoSettingsDescriptor (nthOffset twoSettingsDescriptor 3) := by
    decide +kernel
  obtain ⟨hlen, hnumbers⟩ := hshort k (Nat.lt_of_not_le fun hle => hend (hk.mono hle).standsAt)
  refine ⟨hlen, fun number hnumber altSetting hselected => ?_⟩
  rw [hnumbers number hnumber, hzero] at hselected
  exact (Option.some.inj hselected).symm

/-- A setting is read back if its index is, and no pipe is null. -/
theorem readsBack_twoSettings (driver : DeviceState) (number altsetting : UInt8) :
    SettingOutcome.ReadsBack (fun _ => twoSettings) driver (requestByNumber number altsetting)
      { configuredSettingIndex := altsetting } := by
  intro i altIndex hfound _ _
  exact ⟨(altIndex_of_requestByNumber hfound.setting).2.symm, List.not_mem_nil⟩

/-- A setting is changed and changed back before the device is closed and opened again. -/
theorem mirrored_of_throughout_twoSettings :
    (usbkRuns fun _ => twoSettings).Always UsbkDevice.Mirrored ⟨oneInterface, none⟩
      [.init twoSettingsDescriptor (fun _ => {}) 5,
        .other (.cloneHandle 0 true),
        .setAltInterface 1 0 false 1 STATUS_SUCCESS { configuredSettingIndex := 1 },
        .getCurrentAlternateSetting 0 STATUS_SUCCESS,
        .setCurrentAlternateSetting 0 0 STATUS_SUCCESS { configuredSettingIndex := 0 },
        .free 0, .free 0,
        .init twoSettingsDescriptor (fun _ => {}) 5] := by
  have hindex : (0 : UInt8) < twoSettings.numSettings := by decide
  refine mirrored_of_throughout _ rfl ⟨fun _ _ => hindex, fun _ _ => rfl⟩ _ ?_
  refine .cons rfl (inStep_init_twoSettingsDescriptor (by decide) _ _) (.cons rfl trivial
    (.cons rfl ?_ (.cons rfl trivial (.cons rfl ?_ (.cons rfl trivial (.cons rfl trivial
      (.cons rfl (inStep_init_twoSettingsDescriptor (by decide) _ _) trivial)))))))
  · exact fun _ id _ _ _ => readsBack_twoSettings _ id 1
  · exact fun _ id _ _ _ => readsBack_twoSettings _ id 0

/-- The device is opened, set to the alternate setting one, closed and opened again. -/
def reopened : List UsbkEvent :=
  [.init twoSettingsDescriptor (fun _ => {}) 5,
    .setAltInterface 0 0 false 1 STATUS_SUCCESS { configuredSettingIndex := 1 },
    .free 0,
    .init twoSettingsDescriptor (fun _ => {}) 5]

/-- The alternate setting one is selected, and a pipe of it is null. -/
def nullPipe : List UsbkEvent :=
  [.init twoSettingsDescriptor (fun _ => {}) 5,
    .setAltInterface 0 0 false 1 STATUS_SUCCESS
      { configuredSettingIndex := 1, configuredPipes := [none] }]

/-- A device handle that has been opened again holds zero for a setting that is one, and
one holds zero after a request that has failed too late. -/
theorem not_mirrored_reopened :
    ¬ (usbkRuns fun _ => twoSettings).Always UsbkDevice.Mirrored ⟨oneInterface, none⟩ reopened ∧
      ¬ (usbkRuns fun _ => twoSettings).Always UsbkDevice.Mirrored ⟨oneInterface, none⟩
        nullPipe := by
  constructor
  · intro h
    have hend := h.exec rfl
    have hstored := hend _ rfl _ (List.mem_singleton.mpr rfl) 1 (by decide)
    exact absurd hstored (by decide)
  · intro h
    have hend := h.exec rfl
    have hstored := hend _ rfl _ (List.mem_singleton.mpr rfl) 1 (by decide)
    exact absurd hstored (by decide)

end LibusbK
