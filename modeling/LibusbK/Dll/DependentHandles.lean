import Mathlib.Data.Int.Notation
import Mathlib.Data.Nat.Notation
import Mathlib.Logic.Function.Basic
import Mathlib.Tactic.SplitIfs

/-!
# Objects that depend on a USB handle

A stream, a pool of overlapped handles and an isochronous handle hold a reference on
the USB handle they were made for.  `StmK_Init`, `OvlK_Init` and `IsochK_Init` take it
and the clean-up of the object gives it back, also when the init fails half-way.

An `Inc` or a `Dec` is one step here.  The user's clean-up callback and the waiting of
`Stm_StopInternal` have no part in the references of the object and are left out.

## Main definitions

* `KObjBase` — the part of a handle that counts references.
* `Dependents` — the USB handles and the objects that depend on them.
* `InitBalanced`, `FreeBalanced` — what should hold of an init and of a free.
* `DependentCall.KeepsBalance` — when it does.

## Main result

* `balanced_iff_keepsBalance` — a call is balanced exactly under that condition.
-/

namespace LibusbK

/-! ### References -/

/-- `KOBJ_BASE` between two calls of `Inc` or `Dec`. -/
inductive KObjBase
  /-- `Count.Use` is not held. -/
  | free
  /-- In use, with `others` references besides the first. -/
  | counted (others : ℕ)
  /-- In its clean-up, which the thread runs. -/
  | disposing (thread : ℕ)
  deriving DecidableEq, Repr

namespace KObjBase

/-- `Count.Ref`. -/
def ref : KObjBase → ℕ
  | free => 0
  | counted others => others + 1
  | disposing _ => 0

/-- `PoolHandle_Inc` in thread `t`; `none` is `FALSE`.  A count that does not fit a
`long` is taken back. -/
def inc (t : ℕ) : KObjBase → Option KObjBase
  | free => none
  | counted others => if others + 2 ≤ 0x7FFFFFFF then some (counted (others + 1)) else none
  | disposing thread => if thread = t then some (disposing thread) else none

/-- `PoolHandle_Dec` of a handle whose clean-up touches no other handle of the model. -/
def dec : KObjBase → KObjBase
  | free => free
  | counted 0 => free
  | counted (others + 1) => counted others
  | disposing thread => disposing thread

end KObjBase

/-- The kinds of objects that depend on a USB handle. -/
inductive DependentKind
  | stmK
  | ovlPoolK
  | isochK
  deriving DecidableEq, Repr

/-- A handle of one of these kinds.  `usbHandle` is what its clean-up gives a reference
back to: `UsbHandle`, or for a stream the `UsbHandle` of its `Info` if there is one. -/
structure Dependent where
  base : KObjBase := .free
  usbHandle : Option ℕ := none
  deriving DecidableEq, Repr

/-- The `UsbK` section, and the sections of the objects. -/
structure Dependents where
  usb : ℕ → KObjBase
  objects : DependentKind → ℕ → Dependent

namespace Dependents

variable (s : Dependents)

/-- A USB handle is written. -/
def setUsb (u : ℕ) (base : KObjBase) : Dependents :=
  { s with usb := Function.update s.usb u base }

/-- An object is written. -/
def setObject (k : DependentKind) (i : ℕ) (x : Dependent) : Dependents :=
  { s with objects := Function.update s.objects k (Function.update (s.objects k) i x) }

/-- The base of an object is written. -/
def setBase (k : DependentKind) (i : ℕ) (base : KObjBase) : Dependents :=
  s.setObject k i { s.objects k i with base := base }

/-- `PoolHandle_Inc_UsbK`, after the check of the pointer; `none` is `FALSE`. -/
def incUsbK (t : ℕ) (usbHandle : Option ℕ) : Option Dependents :=
  usbHandle.bind fun u => ((s.usb u).inc t).map (s.setUsb u)

/-- `PoolHandle_Dec_UsbK`. -/
def decUsbK (usbHandle : Option ℕ) : Dependents :=
  usbHandle.elim s fun u => s.setUsb u (s.usb u).dec

/-- `PoolHandle_Acquire`, whose search of the section ends at the handle `i`. -/
def acquire (k : DependentKind) (i : ℕ) : Option Dependents :=
  if (s.objects k i).base = .free then some (s.setObject k i ⟨.counted 0, none⟩) else none

/-- `PoolHandle_Inc` of an object. -/
def incObject (t : ℕ) (k : DependentKind) (i : ℕ) : Option Dependents :=
  ((s.objects k i).base.inc t).map (s.setBase k i)

/-- `PoolHandle_Dec` of an object in thread `t`.  The clean-up is that of `Stm_Cleanup`,
`Cleanup_OvlPoolK` or `Isoch_Cleanup`. -/
def decObject (t : ℕ) (k : DependentKind) (i : ℕ) : Bool × Dependents :=
  match (s.objects k i).base with
  | .free => (false, s)
  | .counted 0 =>
    (false, ((s.setBase k i (.disposing t)).decUsbK (s.objects k i).usbHandle).setBase k i .free)
  | .counted (others + 1) => (true, s.setBase k i (.counted others))
  | .disposing thread => (decide (thread = t), s)

/-- `UsbStack_QuerySelectedEndpoint` and `UsbStack_QuerySelectedPipe`, which take a
reference and give it back. -/
def querySelected {α : Type*} (t : ℕ) (usbHandle : Option ℕ) (answer : Option α) :
    Dependents × Option α :=
  match s.incUsbK t usbHandle with
  | none => (s, none)
  | some s => (s.decUsbK usbHandle, answer)

end Dependents

/-! ### Streams -/

/-- The arguments of `StmK_Init`, and the answers it gets. -/
structure StmKInit where
  pipeID : UInt8
  maxTransferSize : ℤ
  maxPendingTransfers : ℤ
  maxPendingIo : ℤ
  useTimeout : Bool
  /-- The `wMaxPacketSize` of the endpoint, if the interface has it. -/
  endpoint : Option UInt16
  /-- Where the search for a handle ends. -/
  handle : ℕ
  heap : Bool
  allocInfo : Bool
  allocUserCB : Bool
  allocXferItems : Bool
  allocBuffers : Bool
  semaphore : Bool

/-- `StmK_Init`. -/
def Dependents.stmKInit (s : Dependents) (t : ℕ) (usbHandle : Option ℕ) (a : StmKInit) :
    Bool × Dependents :=
  if a.pipeID &&& 0x8F = 0 then (false, s)
  else if a.maxPendingIo < 1 then (false, s)
  else if a.maxPendingTransfers < a.maxPendingIo then (false, s)
  else
    match s.querySelected t usbHandle a.endpoint with
    | (s, none) => (false, s)
    | (s, some wMaxPacketSize) =>
      if wMaxPacketSize = 0 then (false, s)
      else if 0 < a.maxTransferSize.tmod wMaxPacketSize.toNat then (false, s)
      else
        match s.acquire .stmK a.handle with
        | none => (false, s)
        | some s =>
          let error := (false, (s.decObject t .stmK a.handle).2)
          if !a.heap then error
          else if !a.allocInfo then error
          else if !a.allocUserCB then error
          else if !a.allocXferItems then error
          else if !a.allocBuffers then error
          else if a.useTimeout && !a.semaphore then error
          else
            match s.incUsbK t usbHandle with
            | none => error
            | some s => (true, s.setObject .stmK a.handle ⟨.counted 0, usbHandle⟩)

/-- `StmK_Free`. -/
def Dependents.stmKFree (s : Dependents) (t i : ℕ) : Bool × Dependents :=
  match s.incObject t .stmK i with
  | none => (false, s)
  | some s => (true, ((s.decObject t .stmK i).2.decObject t .stmK i).2)

/-! ### Overlapped pools -/

/-- The arguments of `OvlK_Init`, and the answers it gets. -/
structure OvlKInit where
  /-- `PoolHandle` is not null. -/
  poolHandle : Bool
  maxOverlappedCount : ℤ
  handle : ℕ
  /-- What an earlier owner has left in the `MasterListCount` of the handle. -/
  masterListCount : ℤ
  /-- `Mem_Alloc`, which fails for a negative size. -/
  memAlloc : Bool

/-- `OvlK_Init`; `none` ends the process.  A null `PoolHandle` is written to before it
is checked, and a clean-up that counts elements of a null `MasterArray` reads them. -/
def Dependents.ovlKInit (s : Dependents) (t : ℕ) (usbHandle : Option ℕ) (a : OvlKInit) :
    Option (Bool × Dependents) :=
  if !a.poolHandle then none
  else if 256 < a.maxOverlappedCount then some (false, s)
  else if usbHandle = none then some (false, s)
  else
    match s.acquire .ovlPoolK a.handle with
    | none => some (false, s)
    | some s =>
      match s.incUsbK t usbHandle with
      | none => some (false, (s.decObject t .ovlPoolK a.handle).2)
      | some s =>
        let s := s.setObject .ovlPoolK a.handle ⟨.counted 0, usbHandle⟩
        if !a.memAlloc ∨ a.maxOverlappedCount < 0 then
          if 0 < a.masterListCount then none
          else some (false, ((s.decUsbK usbHandle).decObject t .ovlPoolK a.handle).2)
        else some (true, s)

/-- `OvlK_Free`. -/
def Dependents.ovlKFree (s : Dependents) (t i : ℕ) : Bool × Dependents :=
  match s.incObject t .ovlPoolK i with
  | none => (false, s)
  | some s => (true, ((s.decObject t .ovlPoolK i).2.decObject t .ovlPoolK i).2)

/-! ### Isochronous handles -/

/-- The driver of a device, as far as `IsochK_Init` tells them apart. -/
inductive IsochDriver
  /-- `KUSB_DRVID_LIBUSBK`, with the answer of `IsoK_Init`. -/
  | libusbK (isoKInit : Bool)
  /-- `KUSB_DRVID_WINUSB`, with the answer of `RegisterIsochBuffer`. -/
  | winUsb (registerIsochBuffer : Bool)
  | other
  deriving DecidableEq, Repr

/-- The arguments of `IsochK_Init`, and the answers it gets. -/
structure IsochKInit where
  /-- `IsochHandle` is not null. -/
  isochHandle : Bool
  maxNumberOfPackets : UInt32
  handle : ℕ
  /-- `QueryDeviceInformation`. -/
  deviceSpeed : Bool
  /-- The pipe is one of the selected setting. -/
  pipe : Bool
  driver : IsochDriver

/-- The driver sets the transfers up. -/
def IsochDriver.prepares : IsochDriver → Bool
  | libusbK isoKInit => isoKInit
  | winUsb registerIsochBuffer => registerIsochBuffer
  | other => false

/-- `IsochK_Init`. -/
def Dependents.isochKInit (s : Dependents) (t : ℕ) (usbHandle : Option ℕ) (a : IsochKInit) :
    Bool × Dependents :=
  if !a.isochHandle then (false, s)
  else if usbHandle = none then (false, s)
  else if a.maxNumberOfPackets = 0 then (false, s)
  else
    match s.incUsbK t usbHandle with
    | none => (false, s)
    | some s =>
      match s.acquire .isochK a.handle with
      | none => (false, s.decUsbK usbHandle)
      | some s =>
        if !a.deviceSpeed then (false, (s.decObject t .isochK a.handle).2)
        else
          match s.querySelected t usbHandle (if a.pipe then some () else none) with
          | (s, none) => (false, (s.decObject t .isochK a.handle).2)
          | (s, some ()) =>
            let s := s.setObject .isochK a.handle ⟨.counted 0, usbHandle⟩
            if !a.driver.prepares then (false, (s.decObject t .isochK a.handle).2)
            else (true, s)

/-- `IsochK_Free`. -/
def Dependents.isochKFree (s : Dependents) (t i : ℕ) : Bool × Dependents :=
  s.decObject t .isochK i

/-! ### Balance -/

namespace Dependents

/-- The counts of the USB handles are those of `s`, but that of `usbHandle` has changed
by `d`. -/
def Shifted (s s' : Dependents) (usbHandle : Option ℕ) (d : ℤ) : Prop :=
  ∀ v, ((s'.usb v).ref : ℤ) = (s.usb v).ref + if usbHandle = some v then d else 0

/-- A `FALSE` result leaves the count as it was; a `TRUE` result raises it by one. -/
def InitBalanced (s : Dependents) (usbHandle : Option ℕ) (outcome : Option (Bool × Dependents)) :
    Prop :=
  ∀ ok s', outcome = some (ok, s') → s.Shifted s' usbHandle (if ok then 1 else 0)

/-- Other threads give up references to an object, one after the other. -/
def giveUp (k : DependentKind) (i : ℕ) : List ℕ → Dependents → Dependents
  | [], s => s
  | t :: ts, s => giveUp k i ts (s.decObject t k i).2

/-- The free of a live object returns `TRUE`, and lowers the count of the USB handle by
one as soon as the other references are given up, and not before. -/
def FreeBalanced (s : Dependents) (k : DependentKind) (i : ℕ) (outcome : Bool × Dependents) :
    Prop :=
  ∀ others u, s.objects k i = ⟨.counted others, some u⟩ →
    outcome.1 = true ∧ ∀ ts : List ℕ, ts.length ≤ others →
      s.Shifted (giveUp k i ts outcome.2) (some u) (if ts.length = others then -1 else 0)

/-- Thread `t` is in the clean-up of the USB handle. -/
def InCleanupOf (s : Dependents) (t : ℕ) (usbHandle : Option ℕ) : Prop :=
  ∃ u, usbHandle = some u ∧ s.usb u = .disposing t

/-- The USB handle has room for `n` more references. -/
def HasRoom (s : Dependents) (usbHandle : Option ℕ) (n : ℕ) : Prop :=
  ∃ u others, usbHandle = some u ∧ s.usb u = .counted others ∧ others + 1 + n ≤ 0x7FFFFFFF

/-- The USB handle is in use, and not in its clean-up. -/
def IsCounted (s : Dependents) (u : ℕ) : Prop := ∃ others, s.usb u = .counted others

/-- The section has a handle for the object. -/
def HasHandle (s : Dependents) (k : DependentKind) (i : ℕ) : Prop := (s.objects k i).base = .free

end Dependents

/-- `StmK_Init` accepts the arguments, and nothing it needs is refused. -/
structure StmKInit.Passes (a : StmKInit) : Prop where
  pipeID : a.pipeID &&& 0x8F ≠ 0
  maxPendingIo : 1 ≤ a.maxPendingIo
  maxPendingTransfers : a.maxPendingIo ≤ a.maxPendingTransfers
  endpoint : ∃ w, a.endpoint = some w ∧ w ≠ 0 ∧ a.maxTransferSize.tmod w.toNat ≤ 0
  heap : a.heap = true
  allocInfo : a.allocInfo = true
  allocUserCB : a.allocUserCB = true
  allocXferItems : a.allocXferItems = true
  allocBuffers : a.allocBuffers = true
  semaphore : a.useTimeout = true → a.semaphore = true

/-- `OvlK_Init` accepts the arguments. -/
def OvlKInit.Accepted (a : OvlKInit) : Prop := a.poolHandle = true ∧ a.maxOverlappedCount ≤ 256

/-- The elements of the pool are allocated. -/
def OvlKInit.Allocates (a : OvlKInit) : Prop := a.memAlloc = true ∧ 0 ≤ a.maxOverlappedCount

/-- `IsochK_Init` accepts the arguments. -/
def IsochKInit.Accepted (a : IsochKInit) : Prop :=
  a.isochHandle = true ∧ a.maxNumberOfPackets ≠ 0

/-- A call on an object. -/
inductive DependentCall
  | stmKInit (usbHandle : Option ℕ) (a : StmKInit)
  | ovlKInit (usbHandle : Option ℕ) (a : OvlKInit)
  | isochKInit (usbHandle : Option ℕ) (a : IsochKInit)
  | stmKFree (i : ℕ)
  | ovlKFree (i : ℕ)
  | isochKFree (i : ℕ)

namespace DependentCall

/-- What should hold of a call. -/
def Balanced (s : Dependents) (t : ℕ) : DependentCall → Prop
  | stmKInit usbHandle a => s.InitBalanced usbHandle (some (s.stmKInit t usbHandle a))
  | ovlKInit usbHandle a => s.InitBalanced usbHandle (s.ovlKInit t usbHandle a)
  | isochKInit usbHandle a => s.InitBalanced usbHandle (some (s.isochKInit t usbHandle a))
  | stmKFree i => s.FreeBalanced .stmK i (s.stmKFree t i)
  | ovlKFree i => s.FreeBalanced .ovlPoolK i (s.ovlKFree t i)
  | isochKFree i => s.FreeBalanced .isochK i (s.isochKFree t i)

/-- When it does.  An init inside the clean-up of the USB handle must not succeed.  When
the reference has been taken, `OvlK_Init` must get its memory, unless the process ends
over it, and `IsochK_Init` the speed and the pipe.  The USB handle of an object that is
freed must not be in its clean-up, and an isochronous handle must have another
reference. -/
def KeepsBalance (s : Dependents) (t : ℕ) : DependentCall → Prop
  | stmKInit usbHandle a =>
    s.InCleanupOf t usbHandle → ¬(a.Passes ∧ s.HasHandle .stmK a.handle)
  | ovlKInit usbHandle a =>
    a.Accepted → s.HasHandle .ovlPoolK a.handle →
      (s.InCleanupOf t usbHandle → ¬a.Allocates) ∧
        (s.HasRoom usbHandle 1 → a.Allocates ∨ 0 < a.masterListCount)
  | isochKInit usbHandle a =>
    a.Accepted → s.HasHandle .isochK a.handle →
      (s.InCleanupOf t usbHandle →
          ¬(a.deviceSpeed = true ∧ a.pipe = true ∧ a.driver.prepares = true)) ∧
        (s.HasRoom usbHandle 1 →
          a.deviceSpeed = true ∧ a.pipe = true ∧ s.HasRoom usbHandle 2)
  | stmKFree i =>
    ∀ others u, s.objects .stmK i = ⟨.counted others, some u⟩ →
      others + 2 ≤ 0x7FFFFFFF ∧ s.IsCounted u
  | ovlKFree i =>
    ∀ others u, s.objects .ovlPoolK i = ⟨.counted others, some u⟩ →
      others + 2 ≤ 0x7FFFFFFF ∧ s.IsCounted u
  | isochKFree i =>
    ∀ others u, s.objects .isochK i = ⟨.counted others, some u⟩ →
      0 < others ∧ s.IsCounted u

end DependentCall

/-! ### What the operations do to the USB handles -/

namespace Dependents

section

variable {s s' : Dependents} {t i : ℕ} {k : DependentKind} {usbHandle : Option ℕ}

theorem setUsb_self (s : Dependents) (u : ℕ) : s.setUsb u (s.usb u) = s := by
  unfold setUsb
  rw [Function.update_eq_self]

theorem setUsb_setUsb (s : Dependents) (u : ℕ) (b c : KObjBase) :
    (s.setUsb u b).setUsb u c = s.setUsb u c := by
  unfold setUsb
  rw [Function.update_idem]

@[simp] theorem usb_setUsb_self (s : Dependents) (u : ℕ) (b : KObjBase) :
    (s.setUsb u b).usb u = b := Function.update_self ..

@[simp] theorem usb_setObject (s : Dependents) (x : Dependent) :
    (s.setObject k i x).usb = s.usb := rfl

@[simp] theorem objects_setObject_self (s : Dependents) (x : Dependent) :
    (s.setObject k i x).objects k i = x := by
  unfold setObject
  dsimp only
  rw [Function.update_self, Function.update_self]

@[simp] theorem objects_decUsbK (s : Dependents) (usbHandle : Option ℕ) :
    (s.decUsbK usbHandle).objects = s.objects := by
  cases usbHandle with
  | none => rfl
  | some u => rfl

theorem usb_decUsbK_congr (h : s'.usb = s.usb) :
    (s'.decUsbK usbHandle).usb = (s.decUsbK usbHandle).usb := by
  cases usbHandle with
  | none => exact h
  | some u => rw [decUsbK, decUsbK, Option.elim_some, Option.elim_some, setUsb, setUsb, h]

theorem incUsbK_setObject (s : Dependents) (x : Dependent) (t : ℕ) (usbHandle : Option ℕ) :
    (s.setObject k i x).incUsbK t usbHandle =
      (s.incUsbK t usbHandle).map (·.setObject k i x) := by
  cases usbHandle with
  | none => rfl
  | some u =>
    simp only [incUsbK, Option.bind_some, usb_setObject, Option.map_map]
    rfl

/-- What `PoolHandle_Inc_UsbK` does when it returns `TRUE`. -/
theorem incUsbK_cases (h : s.incUsbK t usbHandle = some s') :
    (∃ u others, usbHandle = some u ∧ s.usb u = .counted others ∧ others + 2 ≤ 0x7FFFFFFF ∧
        s' = s.setUsb u (.counted (others + 1))) ∨
      (∃ u, usbHandle = some u ∧ s.usb u = .disposing t ∧ s' = s) := by
  unfold incUsbK at h
  obtain ⟨u, rfl, h⟩ := Option.bind_eq_some_iff.mp h
  obtain ⟨base, hinc, rfl⟩ := Option.map_eq_some_iff.mp h
  cases hbase : s.usb u with
  | free => simp [hbase, KObjBase.inc] at hinc
  | counted others =>
    rw [hbase, KObjBase.inc, Option.ite_none_right_eq_some, Option.some.injEq] at hinc
    obtain ⟨hroom, rfl⟩ := hinc
    exact .inl ⟨u, others, rfl, hbase, hroom, rfl⟩
  | disposing thread =>
    rw [hbase, KObjBase.inc, Option.ite_none_right_eq_some, Option.some.injEq] at hinc
    obtain ⟨rfl, rfl⟩ := hinc
    exact .inr ⟨u, rfl, hbase, by rw [← hbase, setUsb_self]⟩

/-- It returns `TRUE` if there is room for a reference, and in the clean-up. -/
theorem isSome_incUsbK : (s.incUsbK t usbHandle).isSome = true ↔
    s.HasRoom usbHandle 1 ∨ s.InCleanupOf t usbHandle := by
  constructor
  · intro h
    obtain ⟨s', h⟩ := Option.isSome_iff_exists.mp h
    rcases incUsbK_cases h with ⟨u, others, rfl, hbase, hroom, -⟩ | ⟨u, rfl, hbase, -⟩
    · exact .inl ⟨u, others, rfl, hbase, hroom⟩
    · exact .inr ⟨u, rfl, hbase⟩
  · rintro (⟨u, others, rfl, hbase, hroom⟩ | ⟨u, rfl, hbase⟩)
    · have hfits : others + 2 ≤ 0x7FFFFFFF := hroom
      rw [incUsbK, Option.bind_some, hbase, KObjBase.inc, if_pos hfits]
      rfl
    · rw [incUsbK, Option.bind_some, hbase, KObjBase.inc, if_pos rfl]
      rfl

theorem incUsbK_eq_none (h : s.incUsbK t usbHandle = none) :
    ¬s.HasRoom usbHandle 1 ∧ ¬s.InCleanupOf t usbHandle := by
  rw [← not_or, ← isSome_incUsbK (t := t), h]
  exact Bool.false_ne_true

theorem objects_incUsbK (h : s.incUsbK t usbHandle = some s') : s'.objects = s.objects := by
  rcases incUsbK_cases h with ⟨u, others, -, -, -, rfl⟩ | ⟨u, -, -, rfl⟩
  · rfl
  · rfl

/-- A second reference. -/
theorem isSome_incUsbK_again (h : s.incUsbK t usbHandle = some s') :
    (s'.incUsbK t usbHandle).isSome = true ↔
      s.HasRoom usbHandle 2 ∨ s.InCleanupOf t usbHandle := by
  rcases incUsbK_cases h with ⟨u, others, rfl, hbase, hroom, rfl⟩ | ⟨u, rfl, hbase, hs⟩
  · have hroom1 : (s.setUsb u (.counted (others + 1))).HasRoom (some u) 1 ↔
        s.HasRoom (some u) 2 := by
      constructor
      · rintro ⟨v, n, hv, hn, hfits⟩
        obtain rfl := Option.some.inj hv
        rw [usb_setUsb_self] at hn
        obtain rfl := KObjBase.counted.inj hn
        exact ⟨u, others, rfl, hbase, hfits⟩
      · rintro ⟨v, n, hv, hn, hfits⟩
        obtain rfl := Option.some.inj hv
        rw [hbase] at hn
        obtain rfl := KObjBase.counted.inj hn
        exact ⟨u, others + 1, rfl, usb_setUsb_self _ _ _, hfits⟩
    rw [isSome_incUsbK, hroom1]
    refine or_congr_right (iff_of_false ?_ ?_)
    · rintro ⟨v, hv, hin⟩
      obtain rfl := Option.some.inj hv
      rw [usb_setUsb_self] at hin
      cases hin
    · rintro ⟨v, hv, hin⟩
      obtain rfl := Option.some.inj hv
      rw [hbase] at hin
      cases hin
  · rw [hs, isSome_incUsbK]
    have hin : s.InCleanupOf t (some u) := ⟨u, rfl, hbase⟩
    exact iff_of_true (.inr hin) (.inr hin)

/-- A reference that is given back at once leaves no trace. -/
theorem decUsbK_incUsbK (h : s.incUsbK t usbHandle = some s') : s'.decUsbK usbHandle = s := by
  rcases incUsbK_cases h with ⟨u, others, rfl, hbase, -, rfl⟩ | ⟨u, rfl, hbase, hs⟩
  · have hdec : (KObjBase.counted (others + 1)).dec = s.usb u := by rw [hbase]; rfl
    rw [decUsbK, Option.elim_some, usb_setUsb_self, setUsb_setUsb, hdec, setUsb_self]
  · have hdec : (s.usb u).dec = s.usb u := by rw [hbase]; rfl
    rw [hs, decUsbK, Option.elim_some, hdec, setUsb_self]

theorem querySelected_eq {α : Type*} (s : Dependents) (t : ℕ) (usbHandle : Option ℕ)
    (answer : Option α) :
    s.querySelected t usbHandle answer =
      (s, if (s.incUsbK t usbHandle).isSome then answer else none) := by
  unfold querySelected
  cases h : s.incUsbK t usbHandle with
  | none => rfl
  | some s' => exact Prod.ext (decUsbK_incUsbK h) rfl

theorem acquire_cases (h : s.acquire k i = some s') :
    s.HasHandle k i ∧ s' = s.setObject k i ⟨.counted 0, none⟩ := by
  rw [acquire, Option.ite_none_right_eq_some, Option.some.injEq] at h
  exact ⟨h.1, h.2.symm⟩

theorem acquire_eq_none : s.acquire k i = none ↔ ¬s.HasHandle k i := by
  unfold acquire HasHandle
  split_ifs with h <;> simp [h]

/-- An object that loses its only reference gives back that of the USB handle. -/
theorem usb_decObject (h : s.objects k i = ⟨.counted 0, usbHandle⟩) :
    (s.decObject t k i).2.usb = (s.decUsbK usbHandle).usb := by
  unfold decObject
  rw [h]
  dsimp only [setBase]
  rw [usb_setObject]
  exact usb_decUsbK_congr rfl

/-- A fresh object has no reference to give back. -/
theorem usb_decObject_fresh (h : s.objects k i = ⟨.counted 0, none⟩) :
    (s.decObject t k i).2.usb = s.usb := usb_decObject h

/-! ### Shifts -/

theorem shifted_of_usb_eq (h : s'.usb = s.usb) : s.Shifted s' usbHandle 0 := by
  intro v
  simp [h]

theorem shifted_setUsb {u : ℕ} {base : KObjBase} {d : ℤ} (h : (base.ref : ℤ) = (s.usb u).ref + d) :
    s.Shifted (s.setUsb u base) (some u) d := by
  intro v
  by_cases hv : u = v
  · subst hv
    rw [usb_setUsb_self, if_pos rfl, h]
  · have hne : (s.setUsb u base).usb v = s.usb v := Function.update_of_ne (Ne.symm hv) _ _
    rw [hne, if_neg (fun heq => hv (Option.some.inj heq)), Int.add_zero]

theorem Shifted.congr {s'' : Dependents} {d : ℤ} (h : s.Shifted s' usbHandle d)
    (husb : s''.usb = s'.usb) : s.Shifted s'' usbHandle d := by
  intro v
  rw [husb]
  exact h v

/-- A shift is by one number. -/
theorem Shifted.unique {u : ℕ} {d d' : ℤ} (h : s.Shifted s' (some u) d)
    (h' : s.Shifted s' (some u) d') : d = d' := by
  have hd := h u
  have hd' := h' u
  rw [if_pos rfl] at hd hd'
  omega

/-- A reference that is taken counts, but not in the clean-up. -/
theorem shifted_incUsbK (h : s.incUsbK t usbHandle = some s') :
    (s.InCleanupOf t usbHandle ∧ s.Shifted s' usbHandle 0) ∨
      (s.HasRoom usbHandle 1 ∧ s.Shifted s' usbHandle 1) := by
  rcases incUsbK_cases h with ⟨u, others, rfl, hbase, hroom, rfl⟩ | ⟨u, rfl, hbase, rfl⟩
  · refine .inr ⟨⟨u, others, rfl, hbase, hroom⟩, shifted_setUsb ?_⟩
    rw [hbase]
    simp [KObjBase.ref]
  · exact .inl ⟨⟨u, rfl, hbase⟩, shifted_of_usb_eq rfl⟩

/-- A reference that is given back counts, but not in the clean-up. -/
theorem shifted_decUsbK_of_counted {u others : ℕ} (h : s.usb u = .counted others) :
    s.Shifted (s.decUsbK (some u)) (some u) (-1) := by
  refine shifted_setUsb ?_
  rw [h]
  cases others with
  | zero => rfl
  | succ others =>
    change ((others + 1 : ℕ) : ℤ) = ((others + 1 + 1 : ℕ) : ℤ) + -1
    omega

theorem decUsbK_eq_self_of_inCleanupOf (h : s.InCleanupOf t usbHandle) :
    s.decUsbK usbHandle = s := by
  obtain ⟨u, rfl, hbase⟩ := h
  have hdec : (s.usb u).dec = s.usb u := by rw [hbase]; rfl
  rw [decUsbK, Option.elim_some, hdec, setUsb_self]

/-! ### What the calls do to the USB handles -/

/-- What an init does, as far as the USB handles are concerned: it takes the reference
and returns `TRUE`, or it leaves them as they were. -/
theorem stmKInit_cases (s : Dependents) (t : ℕ) (usbHandle : Option ℕ) (a : StmKInit) :
    (a.Passes ∧ s.HasHandle .stmK a.handle ∧ (s.stmKInit t usbHandle a).1 = true ∧
        ∃ s', s.incUsbK t usbHandle = some s' ∧ (s.stmKInit t usbHandle a).2.usb = s'.usb) ∨
      (¬(a.Passes ∧ s.HasHandle .stmK a.handle ∧ (s.incUsbK t usbHandle).isSome = true) ∧
        (s.stmKInit t usbHandle a).1 = false ∧ (s.stmKInit t usbHandle a).2.usb = s.usb) := by
  unfold stmKInit
  rw [querySelected_eq]
  by_cases hpipe : a.pipeID &&& 0x8F = 0
  · rw [if_pos hpipe]
    exact .inr ⟨fun h => h.1.pipeID hpipe, rfl, rfl⟩
  rw [if_neg hpipe]
  by_cases hio : a.maxPendingIo < 1
  · rw [if_pos hio]
    exact .inr ⟨fun h => by have := h.1.maxPendingIo; omega, rfl, rfl⟩
  rw [if_neg hio]
  by_cases htransfers : a.maxPendingTransfers < a.maxPendingIo
  · rw [if_pos htransfers]
    exact .inr ⟨fun h => by have := h.1.maxPendingTransfers; omega, rfl, rfl⟩
  rw [if_neg htransfers]
  cases hinc : s.incUsbK t usbHandle with
  | none =>
    rw [Option.isSome_none, if_neg Bool.false_ne_true]
    exact .inr ⟨fun h => Bool.false_ne_true h.2.2, rfl, rfl⟩
  | some s' =>
    rw [Option.isSome_some, if_pos rfl]
    cases hendpoint : a.endpoint with
    | none =>
      refine .inr ⟨fun h => ?_, rfl, rfl⟩
      obtain ⟨w, hw, -⟩ := h.1.endpoint
      rw [hendpoint] at hw
      cases hw
    | some w =>
      dsimp only
      have hendpoint' : a.Passes → w ≠ 0 ∧ a.maxTransferSize.tmod w.toNat ≤ 0 := fun h => by
        obtain ⟨w', hw, hok⟩ := h.endpoint
        rw [hendpoint, Option.some.injEq] at hw
        rwa [hw]
      by_cases hzero : w = 0
      · rw [if_pos hzero]
        exact .inr ⟨fun h => (hendpoint' h.1).1 hzero, rfl, rfl⟩
      rw [if_neg hzero]
      by_cases hmod : 0 < a.maxTransferSize.tmod w.toNat
      · rw [if_pos hmod]
        exact .inr ⟨fun h => by have := (hendpoint' h.1).2; omega, rfl, rfl⟩
      rw [if_neg hmod]
      cases hacquire : s.acquire .stmK a.handle with
      | none => exact .inr ⟨fun h => acquire_eq_none.mp hacquire h.2.1, rfl, rfl⟩
      | some s1 =>
        obtain ⟨hhandle, rfl⟩ := acquire_cases hacquire
        have herror : ((s.setObject .stmK a.handle ⟨.counted 0, none⟩).decObject t .stmK
            a.handle).2.usb = s.usb := usb_decObject_fresh (objects_setObject_self _ _)
        have hinc' : (s.setObject .stmK a.handle ⟨.counted 0, none⟩).incUsbK t usbHandle =
            some (s'.setObject .stmK a.handle ⟨.counted 0, none⟩) := by
          rw [incUsbK_setObject, hinc]
          rfl
        dsimp only
        rw [hinc']
        split_ifs with hheap hinfo husercb hitems hbuffers hsem
        · exact .inr ⟨fun h => by simp [h.1.heap] at hheap, rfl, herror⟩
        · exact .inr ⟨fun h => by simp [h.1.allocInfo] at hinfo, rfl, herror⟩
        · exact .inr ⟨fun h => by simp [h.1.allocUserCB] at husercb, rfl, herror⟩
        · exact .inr ⟨fun h => by simp [h.1.allocXferItems] at hitems, rfl, herror⟩
        · exact .inr ⟨fun h => by simp [h.1.allocBuffers] at hbuffers, rfl, herror⟩
        · refine .inr ⟨fun h => ?_, rfl, herror⟩
          obtain ⟨htimeout, hnone⟩ := Bool.and_eq_true_iff.mp hsem
          simp [h.1.semaphore htimeout] at hnone
        · have hpasses : a.Passes :=
            { pipeID := hpipe
              maxPendingIo := by omega
              maxPendingTransfers := by omega
              endpoint := ⟨w, hendpoint, hzero, by omega⟩
              heap := by simpa using hheap
              allocInfo := by simpa using hinfo
              allocUserCB := by simpa using husercb
              allocXferItems := by simpa using hitems
              allocBuffers := by simpa using hbuffers
              semaphore := by simpa using hsem }
          exact .inl ⟨hpasses, hhandle, rfl, s', rfl, rfl⟩

theorem not_hasRoom_of_inCleanupOf {n : ℕ} (h : s.InCleanupOf t usbHandle) :
    ¬s.HasRoom usbHandle n := by
  rintro ⟨u, others, rfl, hbase, -⟩
  obtain ⟨v, hv, hdisposing⟩ := h
  obtain rfl := Option.some.inj hv
  rw [hbase] at hdisposing
  cases hdisposing

theorem exists_of_inCleanupOf (h : s.InCleanupOf t usbHandle) : ∃ u, usbHandle = some u :=
  h.imp fun _ hu => hu.1

theorem exists_of_hasRoom {n : ℕ} (h : s.HasRoom usbHandle n) : ∃ u, usbHandle = some u :=
  h.imp fun _ ⟨_, hu⟩ => hu.1

/-- An init that shifts the count by the right number is balanced. -/
theorem initBalanced_of_shifted {outcome : Bool × Dependents} {d : ℤ}
    (h : s.Shifted outcome.2 usbHandle d) (hd : d = if outcome.1 then 1 else 0) :
    s.InitBalanced usbHandle (some outcome) := by
  rintro ok s'' heq
  obtain rfl := Option.some.inj heq
  rwa [← hd]

/-- An init that shifts it by another one is not. -/
theorem not_initBalanced_of_shifted {outcome : Bool × Dependents} {d : ℤ}
    (hhandle : ∃ u, usbHandle = some u) (h : s.Shifted outcome.2 usbHandle d)
    (hd : d ≠ if outcome.1 then 1 else 0) : ¬s.InitBalanced usbHandle (some outcome) := by
  obtain ⟨u, rfl⟩ := hhandle
  intro hbalanced
  exact hd (h.unique (hbalanced _ _ rfl))

/-- An init that has taken the reference and returns `TRUE` with it. -/
theorem initBalanced_true_iff {outcome : Bool × Dependents}
    (hinc : s.incUsbK t usbHandle = some s') (hok : outcome.1 = true)
    (husb : outcome.2.usb = s'.usb) :
    s.InitBalanced usbHandle (some outcome) ↔ ¬s.InCleanupOf t usbHandle := by
  rcases shifted_incUsbK hinc with ⟨hin, hshift⟩ | ⟨hroom, hshift⟩
  · refine iff_of_false ?_ fun h => h hin
    exact not_initBalanced_of_shifted (exists_of_inCleanupOf hin) (hshift.congr husb)
      (by rw [hok]; decide)
  · refine iff_of_true ?_ fun hin => not_hasRoom_of_inCleanupOf hin hroom
    exact initBalanced_of_shifted (hshift.congr husb) (by rw [hok]; rfl)

/-- An init that has taken the reference and returns `FALSE` with it. -/
theorem initBalanced_false_iff {outcome : Bool × Dependents}
    (hinc : s.incUsbK t usbHandle = some s') (hok : outcome.1 = false)
    (husb : outcome.2.usb = s'.usb) :
    s.InitBalanced usbHandle (some outcome) ↔ ¬s.HasRoom usbHandle 1 := by
  rcases shifted_incUsbK hinc with ⟨hin, hshift⟩ | ⟨hroom, hshift⟩
  · refine iff_of_true ?_ (not_hasRoom_of_inCleanupOf hin)
    exact initBalanced_of_shifted (hshift.congr husb) (by rw [hok]; rfl)
  · refine iff_of_false ?_ fun h => h hroom
    exact not_initBalanced_of_shifted (exists_of_hasRoom hroom) (hshift.congr husb)
      (by rw [hok]; decide)

/-- An init that leaves the handles as they were returns `FALSE`. -/
theorem initBalanced_of_usb_eq {outcome : Bool × Dependents} (hok : outcome.1 = false)
    (husb : outcome.2.usb = s.usb) : s.InitBalanced usbHandle (some outcome) :=
  initBalanced_of_shifted (shifted_of_usb_eq husb) (by rw [hok]; rfl)

/-- `StmK_Init` is balanced, but for a call inside the clean-up that succeeds. -/
theorem initBalanced_stmKInit_iff (s : Dependents) (t : ℕ) (usbHandle : Option ℕ)
    (a : StmKInit) : s.InitBalanced usbHandle (some (s.stmKInit t usbHandle a)) ↔
      (s.InCleanupOf t usbHandle → ¬(a.Passes ∧ s.HasHandle .stmK a.handle)) := by
  rcases stmKInit_cases s t usbHandle a with
    ⟨hpasses, hhandle, htrue, s', hinc, husb⟩ | ⟨hnot, hfalse, husb⟩
  · rw [initBalanced_true_iff hinc htrue husb]
    exact ⟨fun h hin => absurd hin h, fun h hin => h hin ⟨hpasses, hhandle⟩⟩
  · refine iff_of_true ?_ fun hin h => hnot ⟨h.1, h.2, isSome_incUsbK.mpr (.inr hin)⟩
    exact initBalanced_of_usb_eq hfalse husb

/-- `OvlK_Init` gives the reference back twice when it gets no memory. -/
theorem initBalanced_ovlKInit_iff (s : Dependents) (t : ℕ) (usbHandle : Option ℕ)
    (a : OvlKInit) : s.InitBalanced usbHandle (s.ovlKInit t usbHandle a) ↔
      (a.Accepted → s.HasHandle .ovlPoolK a.handle →
        (s.InCleanupOf t usbHandle → ¬a.Allocates) ∧
          (s.HasRoom usbHandle 1 → a.Allocates ∨ 0 < a.masterListCount)) := by
  unfold ovlKInit
  have hfalse : ∀ {s' : Dependents}, s'.usb = s.usb →
      s.InitBalanced usbHandle (some (false, s')) := fun husb =>
    initBalanced_of_usb_eq rfl husb
  by_cases hpool : (!a.poolHandle) = true
  · rw [if_pos hpool]
    refine iff_of_true (fun ok s' h => ?_) fun h => ?_
    · cases h
    · simp [h.1] at hpool
  rw [if_neg hpool]
  by_cases hcount : 256 < a.maxOverlappedCount
  · rw [if_pos hcount]
    exact iff_of_true (hfalse rfl) fun h => absurd h.2 (by omega)
  rw [if_neg hcount]
  by_cases hnull : usbHandle = none
  · rw [if_pos hnull]
    obtain ⟨hroom, hin⟩ := incUsbK_eq_none (s := s) (t := t) (congrArg (s.incUsbK t) hnull)
    exact iff_of_true (hfalse rfl) fun _ _ => ⟨fun h => absurd h hin, fun h => absurd h hroom⟩
  rw [if_neg hnull]
  cases hacquire : s.acquire .ovlPoolK a.handle with
  | none => exact iff_of_true (hfalse rfl) fun _ hhandle =>
      absurd hhandle (acquire_eq_none.mp hacquire)
  | some s1 =>
    obtain ⟨hhandle, rfl⟩ := acquire_cases hacquire
    have haccepted : a.Accepted := ⟨by simpa using hpool, by omega⟩
    dsimp only
    rw [incUsbK_setObject]
    cases hinc : s.incUsbK t usbHandle with
    | none =>
      obtain ⟨hroom, hin⟩ := incUsbK_eq_none hinc
      exact iff_of_true (hfalse (usb_decObject_fresh (objects_setObject_self _ _)))
        fun _ _ => ⟨fun h => absurd h hin, fun h => absurd h hroom⟩
    | some s' =>
      dsimp only [Option.map_some]
      have hsome := isSome_incUsbK.mp (Option.isSome_of_eq_some hinc)
      by_cases hmem : (!a.memAlloc) = true ∨ a.maxOverlappedCount < 0
      · have hrefused : ¬a.Allocates := by
          rintro ⟨hok, hnonneg⟩
          rcases hmem with hmem | hmem
          · simp [hok] at hmem
          · omega
        rw [if_pos hmem]
        by_cases hstale : 0 < a.masterListCount
        · rw [if_pos hstale]
          refine iff_of_true (fun ok s' h => ?_) fun _ _ =>
            ⟨fun _ => hrefused, fun _ => .inr hstale⟩
          cases h
        rw [if_neg hstale]
        generalize hpoolEq : Dependents.setObject _ _ a.handle ⟨.counted 0, usbHandle⟩ = pool
        have hpoolUsb : pool.usb = s'.usb := by rw [← hpoolEq, usb_setObject, usb_setObject]
        have hobject : (pool.decUsbK usbHandle).objects .ovlPoolK a.handle =
            ⟨.counted 0, usbHandle⟩ := by
          rw [objects_decUsbK, ← hpoolEq, objects_setObject_self]
        have hback : (pool.decUsbK usbHandle).usb = s.usb := by
          rw [usb_decUsbK_congr hpoolUsb, decUsbK_incUsbK hinc]
        have husb := (usb_decObject (t := t) hobject).trans (usb_decUsbK_congr hback)
        rcases hsome with hroom | hin
        · obtain ⟨u, others, rfl, hbase, -⟩ := id hroom
          refine iff_of_false ?_ fun h => ?_
          · exact not_initBalanced_of_shifted ⟨u, rfl⟩
              ((shifted_decUsbK_of_counted hbase).congr husb) (show (-1 : ℤ) ≠ 0 by decide)
          · rcases (h haccepted hhandle).2 hroom with h | h
            · exact hrefused h
            · exact hstale h
        · rw [decUsbK_eq_self_of_inCleanupOf hin] at husb
          exact iff_of_true (hfalse husb) fun _ _ =>
            ⟨fun _ => hrefused, fun hroom => absurd hroom (not_hasRoom_of_inCleanupOf hin)⟩
      · have hallocates : a.Allocates := ⟨by simpa using fun h => hmem (.inl h), by omega⟩
        rw [if_neg hmem]
        rw [initBalanced_true_iff hinc rfl rfl]
        exact ⟨fun hnot _ _ => ⟨fun hin => absurd hin hnot, fun _ => .inl hallocates⟩,
          fun h hin => (h haccepted hhandle).1 hin hallocates⟩

/-- `IsochK_Init` keeps the reference when the speed or the pipe is refused. -/
theorem initBalanced_isochKInit_iff (s : Dependents) (t : ℕ) (usbHandle : Option ℕ)
    (a : IsochKInit) : s.InitBalanced usbHandle (some (s.isochKInit t usbHandle a)) ↔
      (a.Accepted → s.HasHandle .isochK a.handle →
        (s.InCleanupOf t usbHandle →
            ¬(a.deviceSpeed = true ∧ a.pipe = true ∧ a.driver.prepares = true)) ∧
          (s.HasRoom usbHandle 1 →
            a.deviceSpeed = true ∧ a.pipe = true ∧ s.HasRoom usbHandle 2)) := by
  unfold isochKInit
  have hfalse : ∀ {s' : Dependents}, s'.usb = s.usb →
      s.InitBalanced usbHandle (some (false, s')) := fun husb =>
    initBalanced_of_usb_eq rfl husb
  by_cases hnull : (!a.isochHandle) = true
  · rw [if_pos hnull]
    refine iff_of_true (hfalse rfl) fun h => ?_
    simp [h.1] at hnull
  rw [if_neg hnull]
  cases hinc : s.incUsbK t usbHandle with
  | none =>
    obtain ⟨hroom, hin⟩ := incUsbK_eq_none hinc
    have hout : (if usbHandle = none then (false, s)
        else if a.maxNumberOfPackets = 0 then (false, s) else (false, s)) = (false, s) := by
      split_ifs <;> rfl
    dsimp only
    rw [hout]
    exact iff_of_true (hfalse rfl) fun _ _ => ⟨fun h => absurd h hin, fun h => absurd h hroom⟩
  | some s' =>
    have hsome : usbHandle ≠ none := fun hnone => by
      rw [hnone] at hinc
      cases hinc
    rw [if_neg hsome]
    by_cases hpackets : a.maxNumberOfPackets = 0
    · rw [if_pos hpackets]
      exact iff_of_true (hfalse rfl) fun h => absurd hpackets h.2
    rw [if_neg hpackets]
    dsimp only
    cases hacquire : s'.acquire .isochK a.handle with
    | none =>
      refine iff_of_true (hfalse ?_) fun _ hhandle => ?_
      · exact congrArg Dependents.usb (decUsbK_incUsbK hinc)
      · have hnone := acquire_eq_none.mp hacquire
        rw [HasHandle, objects_incUsbK hinc] at hnone
        exact absurd hhandle hnone
    | some s1 =>
      obtain ⟨hhandle, rfl⟩ := acquire_cases hacquire
      rw [HasHandle, objects_incUsbK hinc] at hhandle
      have haccepted : a.Accepted := ⟨by simpa using hnull, hpackets⟩
      have hfresh := usb_decObject_fresh (s := s'.setObject .isochK a.handle ⟨.counted 0, none⟩)
        (t := t) (objects_setObject_self _ _)
      -- an init that fails before it has stored the handle keeps the reference
      have hkept : s.InitBalanced usbHandle (some (false, (decObject _ t .isochK a.handle).2)) ↔
          ¬s.HasRoom usbHandle 1 := initBalanced_false_iff hinc rfl hfresh
      dsimp only
      rw [querySelected_eq, incUsbK_setObject, Option.isSome_map]
      by_cases hspeed : (!a.deviceSpeed) = true
      · rw [if_pos hspeed, hkept]
        have hrefused : a.deviceSpeed ≠ true := by simpa using hspeed
        exact ⟨fun hroom _ _ => ⟨fun _ h => hrefused h.1, fun h => absurd h hroom⟩,
          fun h hroom => hrefused ((h haccepted hhandle).2 hroom).1⟩
      rw [if_neg hspeed]
      have hspeed' : a.deviceSpeed = true := by simpa using hspeed
      by_cases hfound : (s'.incUsbK t usbHandle).isSome = true ∧ a.pipe = true
      · rw [if_pos hfound.1, if_pos hfound.2]
        dsimp only
        have hroom2 := (isSome_incUsbK_again hinc).mp hfound.1
        by_cases hdriver : (!a.driver.prepares) = true
        · rw [if_pos hdriver]
          have hrefused : a.driver.prepares ≠ true := by simpa using hdriver
          refine iff_of_true (hfalse ?_) fun _ _ => ⟨fun _ h => hrefused h.2.2, fun hroom => ?_⟩
          · rw [usb_decObject (objects_setObject_self _ _), usb_decUsbK_congr (usb_setObject _ _),
              usb_decUsbK_congr (usb_setObject _ _), decUsbK_incUsbK hinc]
          · exact ⟨hspeed', hfound.2,
              hroom2.resolve_right fun hin => not_hasRoom_of_inCleanupOf hin hroom⟩
        · rw [if_neg hdriver, initBalanced_true_iff hinc rfl rfl]
          have hprepares : a.driver.prepares = true := by simpa using hdriver
          exact ⟨fun hnot _ _ => ⟨fun hin => absurd hin hnot, fun _ => ⟨hspeed', hfound.2,
            hroom2.resolve_right hnot⟩⟩,
            fun h hin => (h haccepted hhandle).1 hin ⟨hspeed', hfound.2, hprepares⟩⟩
      · have hquery : (if (s'.incUsbK t usbHandle).isSome = true then
            (if a.pipe = true then some () else none) else none) = none := by
          split_ifs with hsome' hpipe
          · exact absurd ⟨hsome', hpipe⟩ hfound
          · rfl
          · rfl
        rw [hquery, hkept]
        refine ⟨fun hroom _ _ => ⟨fun hin h => ?_, fun h => absurd h hroom⟩, fun h hroom => ?_⟩
        · exact hfound ⟨(isSome_incUsbK_again hinc).mpr (.inr hin), h.2.1⟩
        · obtain ⟨-, hpipe, hroom2⟩ := (h haccepted hhandle).2 hroom
          exact hfound ⟨(isSome_incUsbK_again hinc).mpr (.inl hroom2), hpipe⟩

/-! ### Frees -/

/-- The object has lost its last reference, or some are left. -/
theorem shifted_decObject {others u : ℕ} (h : s.objects k i = ⟨.counted others, some u⟩)
    (hu : s.IsCounted u) :
    s.Shifted (s.decObject t k i).2 (some u) (if others = 0 then -1 else 0) := by
  obtain ⟨n, hbase⟩ := hu
  cases others with
  | zero =>
    rw [if_pos rfl]
    exact (shifted_decUsbK_of_counted hbase).congr (usb_decObject h)
  | succ others =>
    have hdec : (s.decObject t k i).2 = s.setBase k i (.counted others) := by
      rw [decObject, h]
    rw [if_neg (Nat.succ_ne_zero others), hdec]
    exact shifted_of_usb_eq rfl

/-- A reference of the object is given up, and others are left. -/
theorem decObject_succ {others : ℕ} (h : s.objects k i = ⟨.counted (others + 1), usbHandle⟩) :
    s.decObject t k i = (true, s.setObject k i ⟨.counted others, usbHandle⟩) := by
  rw [decObject, h]
  dsimp only [setBase]
  rw [h]

/-- As the references of the object are given up, the last gives back that of the USB
handle. -/
theorem shifted_giveUp {u : ℕ} (ts : List ℕ) : ∀ {s : Dependents} {others : ℕ},
    s.objects k i = ⟨.counted others, some u⟩ → s.IsCounted u → ts.length ≤ others + 1 →
      s.Shifted (giveUp k i ts s) (some u) (if ts.length = others + 1 then -1 else 0) := by
  induction ts with
  | nil => exact fun _ _ _ => shifted_of_usb_eq rfl
  | cons t ts ih =>
    intro s others h hu hlen
    rw [List.length_cons] at hlen ⊢
    rw [giveUp]
    cases others with
    | zero =>
      obtain rfl : ts = [] := List.length_eq_zero_iff.mp (by omega)
      exact shifted_decObject h hu
    | succ others =>
      rw [decObject_succ h]
      have hshift := ih (s := s.setObject k i ⟨.counted others, some u⟩)
        (objects_setObject_self _ _) hu (by omega)
      intro v
      rw [hshift v]
      congr 1
      split_ifs <;> omega

/-- A free that gives up the reference of its caller is balanced if it returns `TRUE` and
the USB handle is there. -/
theorem freeBalanced_iff {outcome : Bool × Dependents}
    (h : ∀ others u, s.objects k i = ⟨.counted others, some u⟩ → outcome.1 = true →
      outcome.2 = (s.decObject t k i).2) :
    s.FreeBalanced k i outcome ↔ ∀ others u, s.objects k i = ⟨.counted others, some u⟩ →
      outcome.1 = true ∧ s.IsCounted u := by
  constructor
  · intro hfree others u hobject
    obtain ⟨hok, hshift⟩ := hfree others u hobject
    refine ⟨hok, ?_⟩
    -- the count of a handle that is free or in its clean-up is zero, and cannot be lowered
    have hlast := hshift (List.replicate others 0) (Nat.le_of_eq List.length_replicate) u
    rw [List.length_replicate, if_pos rfl, if_pos rfl] at hlast
    cases hbase : s.usb u with
    | free =>
      rw [hbase] at hlast
      change _ = (0 : ℤ) + -1 at hlast
      omega
    | counted n => exact ⟨n, hbase⟩
    | disposing thread =>
      rw [hbase] at hlast
      change _ = (0 : ℤ) + -1 at hlast
      omega
  · intro hall others u hobject
    obtain ⟨hok, hu⟩ := hall others u hobject
    refine ⟨hok, fun ts hts => ?_⟩
    have hshift := shifted_giveUp (t :: ts) hobject hu (Nat.succ_le_succ hts)
    rw [h others u hobject hok]
    simp only [List.length_cons, Nat.add_right_cancel_iff] at hshift
    exact hshift

theorem setObject_self (s : Dependents) : s.setObject k i (s.objects k i) = s := by
  unfold setObject
  rw [Function.update_eq_self, Function.update_eq_self]

theorem setObject_setObject (s : Dependents) (x y : Dependent) :
    (s.setObject k i x).setObject k i y = s.setObject k i y := by
  unfold setObject
  dsimp only
  rw [Function.update_self, Function.update_idem, Function.update_idem]

/-- `StmK_Free` and `OvlK_Free` take a reference of their own first. -/
theorem incObject_cases {others : ℕ} (h : s.objects k i = ⟨.counted others, usbHandle⟩) :
    s.incObject t k i =
      if others + 2 ≤ 0x7FFFFFFF then some (s.setObject k i ⟨.counted (others + 1), usbHandle⟩)
      else none := by
  unfold incObject
  rw [h]
  dsimp only [KObjBase.inc]
  split_ifs
  · simp only [Option.map_some, setBase, h]
  · rfl

theorem decObject_incObject {others : ℕ} (h : s.objects k i = ⟨.counted others, usbHandle⟩) :
    (((s.setObject k i ⟨.counted (others + 1), usbHandle⟩).decObject t k i).2) = s := by
  rw [decObject_succ (objects_setObject_self _ _), setObject_setObject, ← h, setObject_self]

/-- A free that takes a reference and gives up two. -/
theorem freeBalanced_iff_of_counts {outcome : Bool × Dependents}
    (h : ∀ others u, s.objects k i = ⟨.counted others, some u⟩ → outcome =
      if others + 2 ≤ 0x7FFFFFFF then (true, (s.decObject t k i).2) else (false, s)) :
    s.FreeBalanced k i outcome ↔ ∀ others u, s.objects k i = ⟨.counted others, some u⟩ →
      others + 2 ≤ 0x7FFFFFFF ∧ s.IsCounted u := by
  have hdec : ∀ others u, s.objects k i = ⟨.counted others, some u⟩ →
      outcome.1 = true → outcome.2 = (s.decObject t k i).2 := fun others u hobject hok => by
    rw [h others u hobject] at hok ⊢
    split_ifs at hok ⊢
    rfl
  rw [freeBalanced_iff hdec]
  refine forall_congr' fun others => forall_congr' fun u => forall_congr' fun hobject => ?_
  rw [h others u hobject]
  refine and_congr_left' ?_
  by_cases hroom : others + 2 ≤ 0x7FFFFFFF
  · rw [if_pos hroom]
    exact iff_of_true rfl hroom
  · rw [if_neg hroom]
    exact iff_of_false Bool.false_ne_true hroom

theorem freeBalanced_stmKFree_iff (s : Dependents) (t i : ℕ) :
    s.FreeBalanced .stmK i (s.stmKFree t i) ↔
      ∀ others u, s.objects .stmK i = ⟨.counted others, some u⟩ →
        others + 2 ≤ 0x7FFFFFFF ∧ s.IsCounted u :=
  freeBalanced_iff_of_counts (t := t) fun others u h => by
    rw [stmKFree, incObject_cases h]
    split_ifs
    · dsimp only
      rw [decObject_incObject h]
    · rfl

theorem freeBalanced_ovlKFree_iff (s : Dependents) (t i : ℕ) :
    s.FreeBalanced .ovlPoolK i (s.ovlKFree t i) ↔
      ∀ others u, s.objects .ovlPoolK i = ⟨.counted others, some u⟩ →
        others + 2 ≤ 0x7FFFFFFF ∧ s.IsCounted u :=
  freeBalanced_iff_of_counts (t := t) fun others u h => by
    rw [ovlKFree, incObject_cases h]
    split_ifs
    · dsimp only
      rw [decObject_incObject h]
    · rfl

/-- `IsochK_Free` returns `FALSE` when it gives up the last reference. -/
theorem freeBalanced_isochKFree_iff (s : Dependents) (t i : ℕ) :
    s.FreeBalanced .isochK i (s.isochKFree t i) ↔
      ∀ others u, s.objects .isochK i = ⟨.counted others, some u⟩ →
        0 < others ∧ s.IsCounted u := by
  rw [isochKFree, freeBalanced_iff fun _ _ _ _ => rfl]
  refine forall_congr' fun others => forall_congr' fun u => forall_congr' fun hobject => ?_
  refine and_congr_left' ?_
  rw [decObject, hobject]
  cases others with
  | zero => exact iff_of_false Bool.false_ne_true (Nat.lt_irrefl 0)
  | succ others => exact iff_of_true rfl (Nat.succ_pos others)

end

end Dependents

/-- **A call is balanced exactly under this condition.** -/
theorem balanced_iff_keepsBalance (s : Dependents) (t : ℕ) (call : DependentCall) :
    call.Balanced s t ↔ call.KeepsBalance s t := by
  cases call with
  | stmKInit usbHandle a => exact s.initBalanced_stmKInit_iff t usbHandle a
  | ovlKInit usbHandle a => exact s.initBalanced_ovlKInit_iff t usbHandle a
  | isochKInit usbHandle a => exact s.initBalanced_isochKInit_iff t usbHandle a
  | stmKFree i => exact s.freeBalanced_stmKFree_iff t i
  | ovlKFree i => exact s.freeBalanced_ovlKFree_iff t i
  | isochKFree i => exact s.freeBalanced_isochKFree_iff t i

/-! ### A reference that is lost -/

/-- A USB handle that is open. -/
def openUsbHandle : Dependents := ⟨fun _ => .counted 0, fun _ _ => {}⟩

/-- `IsochK_Init` for a pipe that is not there takes a reference on an open handle and
returns `FALSE`. -/
theorem not_balanced_missingPipe : ¬∀ s t call, DependentCall.Balanced s t call := by
  intro h
  have hbalanced := h openUsbHandle 1
    (.isochKInit (some 0) ⟨true, 8, 0, true, false, .libusbK true⟩) false _ rfl 0
  exact absurd hbalanced (by decide)

end LibusbK
