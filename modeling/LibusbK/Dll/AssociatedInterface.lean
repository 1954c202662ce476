import LibusbK.Dll.DependentHandles
import LibusbK.Dll.InterfaceSlots

/-!
# Associated interfaces

`UsbStack_GetAssociatedInterface` makes a handle for an interface that comes after the
selected one: it clones its handle and selects another index for the clone.  The clone
takes a reference on the handle it is made from while it is made, and one on the device for
as long as it lives.  An `Inc` or a `Dec` is one step here, and the clean-up callbacks of
the user are left out.

## Main definitions

* `StackHandles` — the `UsbK` and the `DevK` section.
* `StackHandles.cloneHandle`, `StackHandles.getAssociatedInterface` — the calls.
* `Associates` — what a call for an associated interface should do.

## Main results

* `cloneHandle_of_isOpen` — a clone is made, or nothing is left of it.
* `associates_iff` — a call does what it should exactly when the index it computes is that
  of an interface only where the sum is one.
-/

namespace LibusbK

/-! ### Handles -/

/-- `KUSB_HANDLE_INTERNAL`: what the calls below read or write.  The values of
`Selected_SharedInterface_Index` are `UCHAR`s. -/
structure UsbKHandle where
  base : KObjBase := .free
  device : Option ℕ := none
  selected : UInt8 := 0
  isClone : Bool := false
  deriving DecidableEq, Repr

/-- `KDEV_HANDLE_INTERNAL`: likewise. -/
structure DevKHandle where
  base : KObjBase := .free
  usbStack : UsbStack := {}
  deriving DecidableEq, Repr

/-- The `UsbK` section, and the `DevK` section. -/
structure StackHandles where
  usb : ℕ → UsbKHandle
  dev : ℕ → DevKHandle

/-- What a call leaves behind, with the value of the pointer to the handle it returns. -/
structure HandleOut where
  success : Bool
  out : Option ℕ
  handles : StackHandles

namespace StackHandles

variable (s : StackHandles)

/-- A USB handle is written. -/
def setUsb (h : ℕ) (x : UsbKHandle) : StackHandles := { s with usb := Function.update s.usb h x }

/-- A device handle is written. -/
def setDev (d : ℕ) (x : DevKHandle) : StackHandles := { s with dev := Function.update s.dev d x }

/-- `PoolHandle_Inc_UsbK`; `none` is `FALSE`. -/
def incUsbK (t h : ℕ) : Option StackHandles :=
  ((s.usb h).base.inc t).map fun base => s.setUsb h { s.usb h with base }

/-- `PoolHandle_Inc_DevK`. -/
def incDevK (t d : ℕ) : Option StackHandles :=
  ((s.dev d).base.inc t).map fun base => s.setDev d { s.dev d with base }

/-- `PoolHandle_Dec_DevK`. -/
def decDevK (d : ℕ) : StackHandles := s.setDev d { s.dev d with base := (s.dev d).base.dec }

/-- `PoolHandle_Dec_UsbK`; the clean-up, `k_Cleanup_UsbK` or `w_Cleanup_UsbK`, gives the
reference on the device back. -/
def decUsbK (h : ℕ) : StackHandles :=
  let left := s.setUsb h { s.usb h with base := (s.usb h).base.dec }
  if (s.usb h).base = .counted 0 then (s.usb h).device.elim left left.decDevK else left

/-- `PoolHandle_Acquire_UsbK`, whose search of the section ends at the handle `i`. -/
def acquireUsbK (i : ℕ) : Option StackHandles :=
  if (s.usb i).base = .free then some (s.setUsb i { base := .counted 0 }) else none

/-! ### The calls -/

/-- `u_Init_Handle` with a `SharedDevice`. -/
def uInitHandle (t i sharedDevice : ℕ) : HandleOut :=
  match s.acquireUsbK i with
  | none => ⟨false, none, s⟩
  | some s =>
    match s.incDevK t sharedDevice with
    | none => ⟨false, none, s.decUsbK i⟩
    | some s =>
      ⟨true, some i, s.setUsb i { s.usb i with device := some sharedDevice, isClone := true }⟩

/-- `UsbStack_Init` with a `SharedDevice`, which leaves `*Handle` alone when it fails. -/
def usbStackInit (t i sharedDevice : ℕ) (handle : Option ℕ) : HandleOut :=
  let r := s.uInitHandle t i sharedDevice
  if r.success then r else { r with out := handle }

/-- `UsbStack_CloneHandle`; `none` is a null `Device`, which it reads. -/
def cloneHandle (t h i : ℕ) (clonedHandle : Option ℕ) : Option HandleOut :=
  match s.incUsbK t h with
  | none => some ⟨false, clonedHandle, s⟩
  | some s =>
    (s.usb h).device.map fun device =>
      let r := s.usbStackInit t i device none
      match r.success, r.out with
      | true, some clone =>
        let cloned := r.handles.setUsb clone
          { r.handles.usb clone with selected := (r.handles.usb h).selected }
        ⟨true, some clone, cloned.decUsbK h⟩
      | _, out => ⟨false, none, (out.elim r.handles r.handles.decUsbK).decUsbK h⟩

/-- `UsbStack_GetAssociatedInterface`.  The sum is a `UCHAR`. -/
def getAssociatedInterface (t h i : ℕ) (associatedInterfaceIndex : UInt8)
    (associatedHandle : Option ℕ) : Option HandleOut :=
  match s.incUsbK t h with
  | none => some ⟨false, associatedHandle, s⟩
  | some s =>
    let nextIndex := (s.usb h).selected + 1 + associatedInterfaceIndex
    (s.usb h).device.bind fun device =>
      match (s.dev device).usbStack.findInterfaceEL true nextIndex with
      | none => some ⟨false, none, s.decUsbK h⟩
      | some _ =>
        (s.cloneHandle t h i none).map fun r =>
          match r.success, r.out with
          | true, some associated =>
            let moved := r.handles.setUsb associated
              { r.handles.usb associated with selected := nextIndex }
            ⟨true, some associated, moved.decUsbK h⟩
          | _, out => ⟨false, none, (out.elim r.handles r.handles.decUsbK).decUsbK h⟩

/-! ### What a call should do -/

/-- An open handle of a device, with `others` references besides the first; the device has
`shares` besides the first. -/
structure IsOpen (h d others shares : ℕ) : Prop where
  base : (s.usb h).base = .counted others
  device : (s.usb h).device = some d
  shared : (s.dev d).base = .counted shares

/-- No handle has been made, and no reference has been kept. -/
structure Unchanged (s' : StackHandles) : Prop where
  bases : ∀ j, (s'.usb j).base = (s.usb j).base
  inUse : ∀ j, (s.usb j).base ≠ .free → s'.usb j = s.usb j
  dev : s'.dev = s.dev

/-- The handle `i` has been made for the interface `index` of the device `d`, and all else
is as before. -/
structure Made (i d : ℕ) (index : UInt8) (s' : StackHandles) : Prop where
  free : (s.usb i).base = .free
  made : s'.usb i = { base := .counted 0, device := some d, selected := index, isClone := true }
  others : ∀ j, j ≠ i → s'.usb j = s.usb j
  shared : (s'.dev d).base.ref = (s.dev d).base.ref + 1
  stack : (s'.dev d).usbStack = (s.dev d).usbStack
  devices : ∀ e, e ≠ d → s'.dev e = s.dev e

/-- Nothing that `n` references on the handle and a clone need is refused. -/
structure Granted (i others shares n : ℕ) : Prop where
  handle : (s.usb i).base = .free
  room : others + 1 + n ≤ 0x7FFFFFFF
  shared : shares + 2 ≤ 0x7FFFFFFF

variable {s} {s' : StackHandles} {t h d i others shares : ℕ} {index : UInt8}

@[simp] theorem usb_setUsb_self (x : UsbKHandle) : (s.setUsb h x).usb h = x :=
  Function.update_self ..

theorem usb_setUsb_of_ne (x : UsbKHandle) {j : ℕ} (hj : j ≠ h) : (s.setUsb h x).usb j = s.usb j :=
  Function.update_of_ne hj ..

@[simp] theorem dev_setUsb (x : UsbKHandle) : (s.setUsb h x).dev = s.dev := rfl

@[simp] theorem usb_setDev (x : DevKHandle) : (s.setDev d x).usb = s.usb := rfl

@[simp] theorem dev_setDev_self (x : DevKHandle) : (s.setDev d x).dev d = x :=
  Function.update_self ..

theorem dev_setDev_of_ne (x : DevKHandle) {e : ℕ} (he : e ≠ d) : (s.setDev d x).dev e = s.dev e :=
  Function.update_of_ne he ..

/-! ### A reference that is held during a call -/

/-- The handles while a call holds a reference on its handle. -/
def hold (s : StackHandles) (h others : ℕ) : StackHandles :=
  s.setUsb h { s.usb h with base := .counted (others + 1) }

theorem incUsbK_of_room (hbase : (s.usb h).base = .counted others)
    (hroom : others + 2 ≤ 0x7FFFFFFF) : s.incUsbK t h = some (s.hold h others) := by
  rw [incUsbK, hbase, KObjBase.inc, if_pos hroom]
  rfl

theorem incUsbK_of_full (hbase : (s.usb h).base = .counted others)
    (hfull : ¬others + 2 ≤ 0x7FFFFFFF) : s.incUsbK t h = none := by
  rw [incUsbK, hbase, KObjBase.inc, if_neg hfull]
  rfl

theorem IsOpen.hold (ho : s.IsOpen h d others shares) :
    (s.hold h others).IsOpen h d (others + 1) shares := by
  refine ⟨?_, ?_, ho.shared⟩
  · rw [StackHandles.hold, usb_setUsb_self]
  · rw [StackHandles.hold, usb_setUsb_self]
    exact ho.device

theorem IsOpen.ne_of_free (ho : s.IsOpen h d others shares) (hfree : (s.usb i).base = .free) :
    i ≠ h := by
  rintro rfl
  cases ho.base.symm.trans hfree

/-- The reference is given back. -/
theorem decUsbK_of_hold (hbase : (s.usb h).base = .counted others)
    (hkept : s'.usb h = (s.hold h others).usb h) : s'.decUsbK h = s'.setUsb h (s.usb h) := by
  rw [hold, usb_setUsb_self] at hkept
  unfold decUsbK
  rw [hkept, if_neg (by simp)]
  show s'.setUsb h { s.usb h with base := .counted others } = _
  rw [← hbase]

/-- A call that keeps nothing besides its reference keeps nothing when that is given back. -/
theorem Unchanged.release (hbase : (s.usb h).base = .counted others)
    (hu : (s.hold h others).Unchanged s') : s.Unchanged (s'.decUsbK h) := by
  have hkept : s'.usb h = (s.hold h others).usb h := by
    refine hu.inUse h ?_
    rw [hold, usb_setUsb_self]
    nofun
  rw [decUsbK_of_hold hbase hkept]
  have hother : ∀ j, j ≠ h → (s.hold h others).usb j = s.usb j := fun j hj =>
    usb_setUsb_of_ne _ hj
  refine ⟨fun j => ?_, fun j hj => ?_, hu.dev⟩
  · by_cases hjh : j = h
    · rw [hjh, usb_setUsb_self]
    · rw [usb_setUsb_of_ne _ hjh, hu.bases, hother j hjh]
  · by_cases hjh : j = h
    · rw [hjh, usb_setUsb_self]
    · rw [usb_setUsb_of_ne _ hjh, ← hother j hjh]
      rw [← hother j hjh] at hj
      exact hu.inUse j hj

theorem Made.release (hbase : (s.usb h).base = .counted others) (hne : i ≠ h)
    (hm : (s.hold h others).Made i d index s') : s.Made i d index (s'.decUsbK h) := by
  rw [decUsbK_of_hold hbase (hm.others h hne.symm)]
  refine ⟨?_, ?_, fun j hj => ?_, hm.shared, hm.stack, hm.devices⟩
  · rw [← hm.free, hold, usb_setUsb_of_ne _ hne]
  · rw [usb_setUsb_of_ne _ hne, hm.made]
  · by_cases hjh : j = h
    · rw [hjh, usb_setUsb_self]
    · rw [usb_setUsb_of_ne _ hjh, hm.others j hj, hold, usb_setUsb_of_ne _ hjh]

/-- A handle that has been made selects another interface. -/
theorem Made.select (hm : s.Made i d index s') (next : UInt8) :
    s.Made i d next (s'.setUsb i { s'.usb i with selected := next }) := by
  refine ⟨hm.free, ?_, fun j hj => ?_, hm.shared, hm.stack, hm.devices⟩
  · rw [usb_setUsb_self, hm.made]
  · rw [usb_setUsb_of_ne _ hj, hm.others j hj]

/-! ### The clone -/

theorem uInitHandle_of_granted (hfree : (s.usb i).base = .free)
    (hshared : (s.dev d).base = .counted shares) (hroom : shares + 2 ≤ 0x7FFFFFFF) :
    ∃ s', s.uInitHandle t i d = ⟨true, some i, s'⟩ ∧ s.Made i d 0 s' := by
  unfold uInitHandle
  rw [acquireUsbK, if_pos hfree]
  dsimp only
  rw [incDevK, dev_setUsb, hshared, KObjBase.inc, if_pos hroom, Option.map_some]
  refine ⟨_, rfl, hfree, ?_, fun j hj => ?_, ?_, ?_, fun e he => ?_⟩
  · rw [usb_setUsb_self, usb_setDev, usb_setUsb_self]
  · rw [usb_setUsb_of_ne _ hj, usb_setDev, usb_setUsb_of_ne _ hj]
  · rw [dev_setUsb, dev_setDev_self, hshared]
    rfl
  · rw [dev_setUsb, dev_setDev_self]
  · rw [dev_setUsb, dev_setDev_of_ne _ he, dev_setUsb]

theorem Unchanged.refl (s : StackHandles) : s.Unchanged s := ⟨fun _ => rfl, fun _ _ => rfl, rfl⟩

/-- A handle that has no device yet is given back. -/
theorem decUsbK_fresh : (s.setUsb i { base := .counted 0 }).decUsbK i = s.setUsb i {} := by
  unfold decUsbK
  rw [usb_setUsb_self, if_pos rfl]
  exact congrArg (StackHandles.mk · s.dev) (Function.update_idem ..)

theorem uInitHandle_of_refused (hshared : (s.dev d).base = .counted shares)
    (hrefused : ¬((s.usb i).base = .free ∧ shares + 2 ≤ 0x7FFFFFFF)) :
    ∃ s', s.uInitHandle t i d = ⟨false, none, s'⟩ ∧ s.Unchanged s' := by
  unfold uInitHandle acquireUsbK
  by_cases hfree : (s.usb i).base = .free
  · have hfull : ¬shares + 2 ≤ 0x7FFFFFFF := fun hroom => hrefused ⟨hfree, hroom⟩
    rw [if_pos hfree]
    dsimp only
    rw [incDevK, dev_setUsb, hshared, KObjBase.inc, if_neg hfull, Option.map_none]
    dsimp only
    rw [decUsbK_fresh]
    refine ⟨_, rfl, fun j => ?_, fun j hj => usb_setUsb_of_ne _ ?_, rfl⟩
    · by_cases hji : j = i
      · rw [hji, usb_setUsb_self, hfree]
      · rw [usb_setUsb_of_ne _ hji]
    · rintro rfl
      exact hj hfree
  · rw [if_neg hfree]
    exact ⟨s, rfl, .refl s⟩

/-- **A clone is made, or nothing is left of it.** -/
theorem cloneHandle_of_isOpen (ho : s.IsOpen h d others shares) (t i : ℕ) :
    (Granted s i others shares 1 ∧ ∃ s', s.cloneHandle t h i none = some ⟨true, some i, s'⟩ ∧
        s.Made i d (s.usb h).selected s') ∨
      (¬Granted s i others shares 1 ∧ ∃ s', s.cloneHandle t h i none = some ⟨false, none, s'⟩ ∧
        s.Unchanged s') := by
  unfold cloneHandle
  by_cases hroom : others + 2 ≤ 0x7FFFFFFF
  · rw [incUsbK_of_room ho.base hroom]
    have hheld := ho.hold
    have hdevice : ((s.hold h others).usb h).device = some d := hheld.device
    dsimp only
    rw [hdevice, Option.map_some]
    by_cases hinit : (s.usb i).base = .free ∧ shares + 2 ≤ 0x7FFFFFFF
    · obtain ⟨hfree, hshared⟩ := hinit
      have hne := ho.ne_of_free hfree
      have hfree' : ((s.hold h others).usb i).base = .free := by
        rw [hold, usb_setUsb_of_ne _ hne, hfree]
      obtain ⟨s', hs', hmade⟩ := uInitHandle_of_granted (t := t) hfree' hheld.shared hshared
      refine .inl ⟨⟨hfree, hroom, hshared⟩, ?_⟩
      rw [usbStackInit, hs', if_pos rfl]
      dsimp only
      have hselected : (s'.usb h).selected = (s.usb h).selected := by
        rw [hmade.others h hne.symm, hold, usb_setUsb_self]
      rw [hselected]
      exact ⟨_, rfl, (hmade.select _).release ho.base hne⟩
    · have hrefused : ¬(((s.hold h others).usb i).base = .free ∧ shares + 2 ≤ 0x7FFFFFFF) := by
        rintro ⟨hfree, hshared⟩
        have hne := hheld.ne_of_free hfree
        rw [hold, usb_setUsb_of_ne _ hne] at hfree
        exact hinit ⟨hfree, hshared⟩
      obtain ⟨s', hs', hunchanged⟩ := uInitHandle_of_refused (t := t) hheld.shared hrefused
      refine .inr ⟨fun hg => hinit ⟨hg.handle, hg.shared⟩, ?_⟩
      rw [usbStackInit, hs', if_neg Bool.false_ne_true]
      exact ⟨_, rfl, hunchanged.release ho.base⟩
  · rw [incUsbK_of_full ho.base hroom]
    exact .inr ⟨fun hg => hroom hg.room, s, rfl, .refl s⟩

/-! ### The associated interface -/

/-- The index that the call computes. -/
def nextIndex (s : StackHandles) (h : ℕ) (associatedInterfaceIndex : UInt8) : UInt8 :=
  (s.usb h).selected + 1 + associatedInterfaceIndex

/-- An interface of the device has the index. -/
def Listed (s : StackHandles) (d : ℕ) (index : UInt8) : Prop :=
  index ∈ (s.dev d).usbStack.interfaceList.map InterfaceEL.index

instance (s : StackHandles) (d : ℕ) (index : UInt8) : Decidable (s.Listed d index) :=
  inferInstanceAs (Decidable (_ ∈ _))

theorem granted_hold (ho : s.IsOpen h d others shares) {n : ℕ} :
    Granted (s.hold h others) i (others + 1) shares n ↔ Granted s i others shares (n + 1) := by
  have hfree : ((s.hold h others).usb i).base = .free ↔ (s.usb i).base = .free := by
    by_cases hih : i = h
    · subst hih
      rw [hold, usb_setUsb_self, ho.base]
      simp
    · rw [hold, usb_setUsb_of_ne _ hih]
  constructor
  · exact fun hg => ⟨hfree.mp hg.handle, by have := hg.room; omega, hg.shared⟩
  · exact fun hg => ⟨hfree.mpr hg.handle, by have := hg.room; omega, hg.shared⟩

theorem isSome_findInterfaceEL_iff :
    ((s.dev d).usbStack.findInterfaceEL true index).isSome = true ↔ s.Listed d index :=
  Keyed.isSome_find

/-- **What a call does**: it fails at once, or it makes a handle for the index that it
computes, or it leaves nothing behind. -/
theorem getAssociatedInterface_of_isOpen (ho : s.IsOpen h d others shares) (t i : ℕ) (a : UInt8)
    (out : Option ℕ) :
    (¬others + 2 ≤ 0x7FFFFFFF ∧ s.getAssociatedInterface t h i a out = some ⟨false, out, s⟩) ∨
      (s.Listed d (s.nextIndex h a) ∧ Granted s i others shares 2 ∧
        ∃ s', s.getAssociatedInterface t h i a out = some ⟨true, some i, s'⟩ ∧
          s.Made i d (s.nextIndex h a) s') ∨
      (others + 2 ≤ 0x7FFFFFFF ∧
        ¬(s.Listed d (s.nextIndex h a) ∧ Granted s i others shares 2) ∧
        ∃ s', s.getAssociatedInterface t h i a out = some ⟨false, none, s'⟩ ∧ s.Unchanged s') := by
  unfold getAssociatedInterface
  by_cases hroom : others + 2 ≤ 0x7FFFFFFF
  · rw [incUsbK_of_room ho.base hroom]
    have hheld := ho.hold
    have hdevice : ((s.hold h others).usb h).device = some d := hheld.device
    have hselected : ((s.hold h others).usb h).selected = (s.usb h).selected := by
      rw [hold, usb_setUsb_self]
    dsimp only
    rw [hdevice, Option.bind_some, hselected, ← nextIndex]
    have hlisted : (s.hold h others).Listed d (s.nextIndex h a) ↔ s.Listed d (s.nextIndex h a) :=
      Iff.rfl
    rw [← isSome_findInterfaceEL_iff] at hlisted
    cases hfind : ((s.hold h others).dev d).usbStack.findInterfaceEL true (s.nextIndex h a) with
    | none =>
      rw [hfind] at hlisted
      refine .inr (.inr ⟨hroom, fun hand => ?_, _, rfl, (Unchanged.refl _).release ho.base⟩)
      cases hlisted.mpr hand.1
    | some el =>
      rw [hfind] at hlisted
      have hthere : s.Listed d (s.nextIndex h a) := hlisted.mp rfl
      rcases cloneHandle_of_isOpen hheld t i with ⟨hg, s', hs', hmade⟩ | ⟨hg, s', hs', hunchanged⟩
      · rw [granted_hold ho] at hg
        rw [hs']
        exact .inr (.inl ⟨hthere, hg, _, rfl,
          (hmade.select _).release ho.base (ho.ne_of_free hg.handle)⟩)
      · rw [granted_hold ho] at hg
        rw [hs']
        exact .inr (.inr ⟨hroom, fun hand => hg hand.2, _, rfl, hunchanged.release ho.base⟩)
  · rw [incUsbK_of_full ho.base hroom]
    exact .inl ⟨hroom, rfl⟩

/-- A call on a handle of a device with `n` interfaces, where `sum` is the index of the
selected one, one, and the index that is asked for. -/
structure Associated (s : StackHandles) (d sum n : ℕ) (r : HandleOut) : Prop where
  success : r.success = true ↔ sum < n
  made : r.success = true →
    ∃ i index, r.out = some i ∧ index.toNat = sum ∧ s.Made i d index r.handles
  failed : r.success = false → r.out = none ∧ s.Unchanged r.handles

/-- The index of the interface that should be selected. -/
def associatedSum (s : StackHandles) (h : ℕ) (associatedInterfaceIndex : UInt8) : ℕ :=
  (s.usb h).selected.toNat + 1 + associatedInterfaceIndex.toNat

/-- **What a call for an associated interface should do.** -/
def Associates (s : StackHandles) (t h i d : ℕ) (a : UInt8) (out : Option ℕ) : Prop :=
  ∃ r, s.getAssociatedInterface t h i a out = some r ∧
    s.Associated d (s.associatedSum h a) (s.dev d).usbStack.interfaceList.length r

/-- The sum is that of an interface, its index is listed, and nothing is refused; or it is
not, the index that is computed is not listed or the clone is refused, and the pointer is
null already if the handle has no room for a reference. -/
def AssociatesWhen (s : StackHandles) (h i d others shares : ℕ) (a : UInt8) (out : Option ℕ) :
    Prop :=
  if s.associatedSum h a < (s.dev d).usbStack.interfaceList.length then
    s.associatedSum h a < 256 ∧ s.Listed d (s.nextIndex h a) ∧ Granted s i others shares 2
  else
    ¬(s.Listed d (s.nextIndex h a) ∧ Granted s i others shares 2) ∧
      (others + 2 ≤ 0x7FFFFFFF ∨ out = none)

theorem toNat_nextIndex (s : StackHandles) (h : ℕ) (a : UInt8) :
    (s.nextIndex h a).toNat = s.associatedSum h a % 256 := by
  simp [nextIndex, associatedSum]

theorem associated_iff_of_failed {sum n : ℕ} {out : Option ℕ} (hu : s.Unchanged s') :
    s.Associated d sum n ⟨false, out, s'⟩ ↔ ¬sum < n ∧ out = none := by
  constructor
  · exact fun hr => ⟨fun hlt => Bool.noConfusion (hr.success.mpr hlt), (hr.failed rfl).1⟩
  · rintro ⟨hge, rfl⟩
    exact ⟨iff_of_false Bool.false_ne_true hge, fun h => Bool.noConfusion h, fun _ => ⟨rfl, hu⟩⟩

theorem associated_iff_of_made {a : UInt8} {n : ℕ} (hm : s.Made i d (s.nextIndex h a) s') :
    s.Associated d (s.associatedSum h a) n ⟨true, some i, s'⟩ ↔
      s.associatedSum h a < n ∧ s.associatedSum h a < 256 := by
  constructor
  · intro hr
    obtain ⟨_, index, -, hsum, -⟩ := hr.made rfl
    refine ⟨hr.success.mp rfl, ?_⟩
    rw [← hsum]
    exact index.toNat_lt
  · rintro ⟨hlt, hbyte⟩
    have hindex : (s.nextIndex h a).toNat = s.associatedSum h a := by
      rw [toNat_nextIndex, Nat.mod_eq_of_lt hbyte]
    exact ⟨iff_of_true rfl hlt, fun _ => ⟨i, _, rfl, hindex, hm⟩, fun h => Bool.noConfusion h⟩

/-- **A call does what it should exactly when** the index that it computes is that of an
interface only where the sum is one, and nothing it needs is refused. -/
theorem associates_iff (ho : s.IsOpen h d others shares) (t i : ℕ) (a : UInt8) (out : Option ℕ) :
    s.Associates t h i d a out ↔ s.AssociatesWhen h i d others shares a out := by
  have hcall {r : HandleOut} (hr : s.getAssociatedInterface t h i a out = some r) :
      s.Associates t h i d a out ↔
        s.Associated d (s.associatedSum h a) (s.dev d).usbStack.interfaceList.length r := by
    rw [Associates, hr]
    simp only [Option.some.injEq, exists_eq_left']
  unfold AssociatesWhen
  rcases getAssociatedInterface_of_isOpen ho t i a out with
    ⟨hfull, hr⟩ | ⟨hlisted, hg, s', hr, hmade⟩ | ⟨hroom, hnot, s', hr, hunchanged⟩
  · rw [hcall hr, associated_iff_of_failed (.refl s)]
    have hg : ¬Granted s i others shares 2 := fun hg => hfull (by have := hg.room; omega)
    split_ifs with hlt
    · exact iff_of_false (fun hand => hand.1 hlt) fun hand => hg hand.2.2
    · exact ⟨fun hand => ⟨fun h => hg h.2, .inr hand.2⟩,
        fun hand => ⟨hlt, hand.2.resolve_left hfull⟩⟩
  · rw [hcall hr, associated_iff_of_made hmade]
    split_ifs with hlt
    · exact ⟨fun hand => ⟨hand.2, hlisted, hg⟩, fun hand => ⟨hlt, hand.1⟩⟩
    · exact iff_of_false (fun hand => hlt hand.1) fun hand => hand.1 ⟨hlisted, hg⟩
  · rw [hcall hr, associated_iff_of_failed hunchanged]
    split_ifs with hlt
    · exact iff_of_false (fun hand => hand.1 hlt) fun hand => hnot hand.2
    · exact iff_of_true ⟨hlt, rfl⟩ ⟨hnot, .inl hroom⟩

/-- A device with two interfaces, and a handle of it that selects the one at `index`. -/
def twoInterfaceHandles (index : UInt8) : StackHandles where
  usb h := if h = 0 then { base := .counted 0, device := some 0, selected := index } else {}
  dev d :=
    if d = 0 then
      { base := .counted 0
        usbStack := { interfaceList := [⟨0, 0, 0, [], 0⟩, ⟨1, 1, 1, [], 0⟩], interfaceCount := 2 } }
    else {}

/-- The interface after the first one. -/
theorem associates_twoInterfaceHandles : (twoInterfaceHandles 0).Associates 0 0 1 0 0 none :=
  have hopen : (twoInterfaceHandles 0).IsOpen 0 0 0 0 := ⟨rfl, rfl, rfl⟩
  (associates_iff hopen 0 1 0 none).mpr ⟨by decide, by decide, rfl, by decide, by decide⟩

/-- After the second interface of two, an index of 254 is that of the first one. -/
theorem not_associates_twoInterfaceHandles :
    ¬(twoInterfaceHandles 1).Associates 0 0 1 0 254 none := by
  have hsuccess : ((twoInterfaceHandles 1).getAssociatedInterface 0 0 1 254 none).map
      HandleOut.success = some true := by decide
  rintro ⟨r, hr, hassociated⟩
  rw [hr, Option.map_some] at hsuccess
  exact absurd (hassociated.success.mp (Option.some.inj hsuccess)) (by decide)

end StackHandles

end LibusbK
