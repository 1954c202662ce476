import Mathlib.Data.Int.Notation
import LibusbK.Lib.Machine
import LibusbK.Dll.DeviceSync

/-!
# The notifier window of the hot-plug module

`h_WndProc` with `h_NotifyWaiters` and the enumeration callbacks
(`lusbk_hot_plug.c`).  A change is recorded in the flags of an element of the
master list and reported later, by the sweep of a timer; other messages write the
same flags in between.

The window handles one message after the other, in any order the system sends
them in and its timers expire in.  A message that is refused, or is about no device
interface, changes nothing.  `mark` says whether the `ADDED` flag that an initial
notification raises for its own handle counts as a mark.

## Main definitions

* `notifyWaiters`, `lstKSyncDevices`, `hotPlug` -- a sweep, the synchronisation with
  the present devices, and the window.
* `NoneForgotten` -- no element has lost a mark before a global sweep visited it.
* `InTurn` -- the messages that write the flags find no mark that waits.

## Main results

* `noneForgotten_iff` -- no mark is lost all along a run exactly when every message
  comes in its turn.
-/

namespace LibusbK

/-! ### Hot handles -/

/-- `KLST_PATTERN_MATCH`. -/
structure PatternMatch where
  deviceID : List Char
  deviceInterfaceGUID : List Char
  classGUID : List Char
deriving DecidableEq

/-- `KHOT_FLAG_PLUG_ALL_ON_INIT`. -/
def HotFlag.plugAllOnInit : BitVec 32 := 0x0001#32

/-- `KHOT_FLAG_PASS_DUPE_INSTANCE`. -/
def HotFlag.passDupeInstance : BitVec 32 := 0x0002#32

/-- `KHOT_FLAG_POST_USER_MESSAGE`. -/
def HotFlag.postUserMessage : BitVec 32 := 0x0004#32

/-- `KHOT_HANDLE_INTERNAL` with its `KHOT_PARAMS`. -/
structure HotHandle where
  /-- The slot of the pool. -/
  id : ℕ
  /-- A `UserHwnd` is given. -/
  userHwnd : Bool
  userMessage : UInt32
  flags : BitVec 32
  patternMatch : PatternMatch
  /-- An `OnHotPlug` callback is given. -/
  onHotPlug : Bool
deriving DecidableEq

/-- What a handle is told of a device. -/
inductive Notification
  | onHotPlug (handle : ℕ) (device : TempItem) (plugType : BitVec 32)
  | postMessage (handle : ℕ) (device : TempItem) (message : UInt32)
  | sendMessage (handle : ℕ) (device : TempItem) (message : UInt32)
deriving DecidableEq

/-- `WM_USER`. -/
def wmUser : UInt32 := 0x0400

namespace HotHandle

/-- The messages of a change: `offset` is 1 for an arrival and 0 for a removal. -/
def userNotifications (handle : HotHandle) (el : DevInfo) (offset : UInt32) : List Notification :=
  if handle.userHwnd ∧ wmUser ≤ handle.userMessage then
    if handle.flags &&& HotFlag.postUserMessage ≠ 0#32 then
      [.postMessage handle.id el.toTempItem (handle.userMessage + offset)]
    else [.sendMessage handle.id el.toTempItem (handle.userMessage + offset)]
  else []

/-- A change reported to a handle. -/
def report (handle : HotHandle) (el : DevInfo) (plugType : BitVec 32) (offset : UInt32) :
    List Notification :=
  (if handle.onHotPlug then [.onHotPlug handle.id el.toTempItem plugType] else []) ++
    handle.userNotifications el offset

/-- What a handle is told of a marked element. -/
def notifications (handle : HotHandle) (el : DevInfo) : List Notification :=
  if el.syncFlags &&& SyncFlag.added ≠ 0#32 then handle.report el SyncFlag.added 1
  else if el.syncFlags &&& SyncFlag.removed ≠ 0#32 then handle.report el SyncFlag.removed 0
  else []

end HotHandle

/-! ### The enumeration callbacks -/

/-- `KLST_NOTIFY_CONTEXT` without its `HotHandle`, and what the handles were told. -/
structure NotifyContext where
  devInstList : List (List Char)
  notified : List Notification
deriving DecidableEq

section Callbacks

variable (pathMatchSpec : List Char → List Char → Bool) (mark : Bool)

/-- `mLst_ApplyPatternMatch`. -/
def applyPatternMatch (pattern value : List Char) : Bool :=
  pattern.isEmpty || pathMatchSpec value pattern

/-- `h_IsHotMatch`. -/
def isHotMatch (hotInitCount : ℤ) (handle : HotHandle) (el : DevInfo) : Bool :=
  hotInitCount = 1 ||
    (applyPatternMatch pathMatchSpec handle.patternMatch.deviceInterfaceGUID
        el.deviceInterfaceGUID &&
      applyPatternMatch pathMatchSpec handle.patternMatch.classGUID el.classGUID &&
      applyPatternMatch pathMatchSpec handle.patternMatch.deviceID el.deviceID)

/-- The flag an initial notification raises on a connected element. -/
def DevInfo.addForInit (el : DevInfo) : DevInfo :=
  if mark then el.orSyncFlags SyncFlag.added
  else { el with syncFlags := el.syncFlags ||| SyncFlag.added }

/-- What `h_DevEnum_PlugWaiters` does for one handle once the flags are as they should
be. -/
def plugWaiter (hotInitCount : ℤ) (handle : HotHandle) (ctx : NotifyContext) (el : DevInfo) :
    NotifyContext :=
  -- nothing to do for this element
  if el.syncFlags = SyncFlag.none ∨ el.syncFlags = SyncFlag.unchanged then ctx
  else if isHotMatch pathMatchSpec hotInitCount handle el then
    -- a device instance is notified once per sweep
    if el.deviceID ∈ ctx.devInstList then
      if handle.flags &&& HotFlag.passDupeInstance = 0#32 then ctx
      else { ctx with notified := ctx.notified ++ handle.notifications el }
    else
      { devInstList := ctx.devInstList ++ [el.deviceID]
        notified := ctx.notified ++ handle.notifications el }
  else ctx

/-- The loop of `h_DevEnum_PlugWaiters` over the handles. -/
def plugWaiters (hotHandle : Option ℕ) (hotInitCount : ℤ) :
    List HotHandle → NotifyContext → DevInfo → NotifyContext × DevInfo
  | [], ctx, el => (ctx, el)
  | handle :: items, ctx, el =>
    match hotHandle with
    | some id =>
      if id ≠ handle.id then plugWaiters hotHandle hotInitCount items ctx el
      else
        let el := el.addForInit mark
        plugWaiters hotHandle hotInitCount items
          (plugWaiter pathMatchSpec hotInitCount handle ctx el) el
    | none =>
      plugWaiters hotHandle hotInitCount items
        (plugWaiter pathMatchSpec hotInitCount handle ctx el) el

/-- A global sweep visits every mark. -/
def DevInfo.visit (hotHandle : Option ℕ) (el : DevInfo) : DevInfo :=
  if hotHandle.isNone then { el with waiting := 0#32 } else el

/-- `h_DevEnum_PlugWaiters`. -/
def devEnumPlugWaiters (hotHandle : Option ℕ) (hotInitCount : ℤ) (items : List HotHandle)
    (ctx : NotifyContext) (el : DevInfo) : Visited DevInfo NotifyContext :=
  if hotHandle.isSome ∧ ¬el.connected then ⟨some el, ctx, true⟩
  else
    let plugged := plugWaiters pathMatchSpec mark hotHandle hotInitCount items ctx
      (el.visit hotHandle)
    ⟨some plugged.2, plugged.1, true⟩

/-- `h_DevEnum_ClearSyncResults`. -/
def devEnumClearSyncResults (_ : Unit) (el : DevInfo) : Visited DevInfo Unit :=
  ⟨some (el.setSyncFlags SyncFlag.unchanged), (), true⟩

/-- `h_DevEnum_UpdateForRemoval`. -/
def devEnumUpdateForRemoval (name : List Char) (_ : Unit) (el : DevInfo) : Visited DevInfo Unit :=
  if ¬el.connected then ⟨some el, (), true⟩
  else if pathMatchSpec name el.symbolicLink then
    ⟨some { el.setSyncFlags SyncFlag.removed with connected := false }, (), false⟩
  else ⟨some el, (), true⟩

end Callbacks

/-! ### The window -/

/-- `KHOT_NOTIFIER_LIST` with the timers of its window, the messages posted to it, and what
the handles were told. -/
structure Notifier where
  deviceList : List DevInfo
  items : List HotHandle
  hotInitCount : ℤ
  /-- The `WM_USER_NOTIFY_HOT_HANDLE` messages that are posted and not handled. -/
  posted : List ℕ
  arrivalTimer : Bool
  removalTimer : Bool
  devNodesTimer : Bool
  notified : List Notification
deriving DecidableEq

/-- The messages of the window.  The slave list of a timer is the list `LstK_InitInternal`
made of the present devices, if it made one; the name of a device change is absent when
the message is about no device interface. -/
inductive HotMessage
  | initHotHandle (handle : HotHandle)
  | notifyHotHandle
  | freeHotHandle (id : ℕ)
  | timerDeviceArrival (slave : Option (List TempItem))
  | timerDevNodesChanged (slave : Option (List TempItem))
  | timerDeviceRemoval
  | deviceArrival (dbccName : Option (List Char))
  | deviceRemoveComplete (dbccName : Option (List Char))
  | devNodesChanged

section Window

variable (pathMatchSpec : List Char → List Char → Bool) (mark : Bool)

/-- `h_NotifyWaiters`. -/
def notifyWaiters (s : Notifier) (hotHandle : Option ℕ) (clearSyncResultsWhenComplete : Bool) :
    Notifier :=
  let plugged := enumerate
    (devEnumPlugWaiters pathMatchSpec mark hotHandle s.hotInitCount s.items) s.deviceList ⟨[], []⟩
  { s with
    deviceList :=
      if clearSyncResultsWhenComplete then (enumerate devEnumClearSyncResults plugged.1 ()).1
      else plugged.1
    notified := s.notified ++ plugged.2.notified }

/-- `LstK_Sync` of the master list with the present devices. -/
def lstKSyncDevices (s : Notifier) (slave : Option (List TempItem)) : Notifier :=
  match slave with
  | none => s
  | some slave =>
    { s with
      deviceList := (lstKSync pathMatchSpec SyncFlag.mask s.deviceList
        (slave.map TempItem.devInfo)).1 }

/-- `h_WndProc`; `none` for a message that cannot come. -/
def wndProc (s : Notifier) : HotMessage → Option Notifier
  | .initHotHandle handle =>
    -- the pool hands out no slot that is in use
    if ∃ other ∈ s.items, other.id = handle.id then none
    else
      some { s with
        items := s.items ++ [handle]
        hotInitCount := s.hotInitCount + 1
        posted :=
          if handle.flags &&& HotFlag.plugAllOnInit ≠ 0#32 then s.posted ++ [handle.id]
          else s.posted }
  | .notifyHotHandle =>
    match s.posted with
    | [] => none
    | id :: posted =>
      some (notifyWaiters pathMatchSpec mark { s with posted := posted } (some id) true)
  | .freeHotHandle id =>
    if ∃ handle ∈ s.items, handle.id = id then
      some { s with
        items := s.items.filter fun handle => handle.id ≠ id
        hotInitCount := s.hotInitCount - 1 }
    else some s
  | .timerDeviceArrival slave =>
    if s.arrivalTimer then
      let s := lstKSyncDevices pathMatchSpec { s with arrivalTimer := false } slave
      some (notifyWaiters pathMatchSpec mark s none true)
    else none
  | .timerDevNodesChanged slave =>
    if s.devNodesTimer then
      let s := lstKSyncDevices pathMatchSpec { s with devNodesTimer := false } slave
      some (notifyWaiters pathMatchSpec mark s none true)
    else none
  | .timerDeviceRemoval =>
    if s.removalTimer then
      some (notifyWaiters pathMatchSpec mark { s with removalTimer := false } none true)
    else none
  | .deviceArrival dbccName =>
    match dbccName with
    | none => some s
    | some _ => some { s with arrivalTimer := true }
  | .deviceRemoveComplete dbccName =>
    match dbccName with
    | none => some s
    | some [] => some { s with arrivalTimer := true }
    | some (c :: name) =>
      some { s with
        deviceList :=
          (enumerate (devEnumUpdateForRemoval pathMatchSpec (c :: name)) s.deviceList ()).1
        removalTimer := true }
  | .devNodesChanged => some { s with devNodesTimer := true }

/-- The notifier window. -/
def hotPlug : Machine Notifier HotMessage := ⟨wndProc pathMatchSpec mark⟩

end Window

/-- The window when it is created: the master list is new. -/
def Notifier.create (found : List TempItem) : Notifier where
  deviceList := found.map TempItem.devInfo
  items := []
  hotInitCount := 0
  posted := []
  arrivalTimer := false
  removalTimer := false
  devNodesTimer := false
  notified := []

/-! ### What a run must show -/

/-- No element has lost a mark that no global sweep had visited. -/
def NoneForgotten (s : Notifier) : Prop := ∀ el ∈ s.deviceList, el.forgotten = false

/-- An element has a mark that no global sweep has visited. -/
def Notifier.MarkWaits (s : Notifier) : Prop := ∃ el ∈ s.deviceList, el.waiting ≠ 0#32

instance (s : Notifier) : Decidable (NoneForgotten s) :=
  inferInstanceAs (Decidable (∀ el ∈ s.deviceList, el.forgotten = false))

instance (s : Notifier) : Decidable s.MarkWaits :=
  inferInstanceAs (Decidable (∃ el ∈ s.deviceList, el.waiting ≠ 0#32))

/-- An initial notification of the handle in slot `id` marks no element: the handle was
freed, or nothing is connected. -/
def Notifier.MarksNothing (s : Notifier) (id : ℕ) : Prop :=
  (∃ handle ∈ s.items, handle.id = id) → ∀ el ∈ s.deviceList, el.connected = false

/-- A message that writes the flags of every element finds no mark that waits. -/
def InTurn (mark : Bool) (s : Notifier) : HotMessage → Prop
  | .timerDeviceArrival slave => slave.isSome → ¬s.MarkWaits
  | .timerDevNodesChanged slave => slave.isSome → ¬s.MarkWaits
  | .notifyHotHandle =>
    ¬s.MarkWaits ∧ (mark = true → ∀ id ∈ s.posted.head?, s.MarksNothing id)
  | _ => True

/-! ### What the callbacks do to an element -/

namespace DevInfo

/-- An element between two messages: its mark waits only after a removal, and then it is
disconnected. -/
structure Settled (el : DevInfo) : Prop where
  kept : el.forgotten = false
  waiting : el.waiting = 0#32 ∨ el.connected = false ∧ el.waiting = SyncFlag.removed

variable {el : DevInfo} {mark : Bool}

theorem Swept.settled (h : el.Swept) : el.Settled := ⟨h.kept, Or.inl h.waiting⟩

theorem addForInit_addForInit : (el.addForInit mark).addForInit mark = el.addForInit mark := by
  cases mark <;> simp [addForInit, orSyncFlags, BitVec.or_assoc]

/-- Clearing the results overwrites nothing when no mark waits. -/
theorem Swept.clear (h : el.Swept) : (el.setSyncFlags SyncFlag.unchanged).Swept :=
  ⟨(h.setSyncFlags _).kept, show SyncFlag.unchanged &&& SyncFlag.marks = 0#32 by decide⟩

/-- A mark that waits is overwritten when the results are cleared. -/
theorem clear_forgotten (h : el.waiting &&& SyncFlag.marks ≠ 0#32) :
    (el.setSyncFlags SyncFlag.unchanged).forgotten = true := by
  apply setSyncFlags_forgotten_of_waiting
  intro hzero
  apply h
  -- the marks are among the flags that `UNCHANGED` clears
  rw [show SyncFlag.marks = ~~~SyncFlag.unchanged &&& SyncFlag.marks by decide,
    ← BitVec.and_assoc, hzero, BitVec.zero_and]

theorem Settled.clear_forgotten (h : el.Settled) (hwaiting : el.waiting ≠ 0#32) :
    (el.setSyncFlags SyncFlag.unchanged).forgotten = true := by
  apply DevInfo.clear_forgotten
  obtain hzero | ⟨-, hremoved⟩ := h.waiting
  · exact absurd hzero hwaiting
  · rw [hremoved]
    decide

/-- What an initial notification raises is overwritten when the results are cleared. -/
theorem addForInit_clear_forgotten :
    ((el.addForInit true).setSyncFlags SyncFlag.unchanged).forgotten = true := by
  apply DevInfo.clear_forgotten
  intro hzero
  change (el.waiting ||| SyncFlag.added &&& SyncFlag.marks) &&& SyncFlag.marks = 0#32 at hzero
  rw [BitVec.and_comm, BitVec.and_or_distrib_left] at hzero
  exact absurd (BitVec.or_eq_zero_iff.mp hzero).2 (by decide)

end DevInfo

section Notify

variable {pathMatchSpec : List Char → List Char → Bool} {mark : Bool}

/-- The handles change an element only when the notification is for one of them. -/
theorem plugWaiters_snd (hotHandle : Option ℕ) (hotInitCount : ℤ) (items : List HotHandle) :
    ∀ (ctx : NotifyContext) (el : DevInfo),
      (plugWaiters pathMatchSpec mark hotHandle hotInitCount items ctx el).2 =
        if ∃ handle ∈ items, hotHandle = some handle.id then el.addForInit mark else el := by
  induction items with
  | nil =>
    intro ctx el
    simp [plugWaiters]
  | cons handle items ih =>
    intro ctx el
    unfold plugWaiters
    cases hotHandle with
    | none => simp [ih]
    | some id =>
      dsimp only
      split
      next hne => simp [ih, hne]
      next heq =>
        rw [ih, DevInfo.addForInit_addForInit]
        simp [not_not.mp heq]

theorem enumerate_clearSyncResults (l : List DevInfo) :
    (enumerate devEnumClearSyncResults l ()).1 =
      l.map (DevInfo.setSyncFlags SyncFlag.unchanged) :=
  enumerate_eq_map (fun _ _ => rfl) (fun _ _ => rfl) l ()

theorem devEnumPlugWaiters_more (hotHandle : Option ℕ) (hotInitCount : ℤ)
    (items : List HotHandle) (ctx : NotifyContext) (el : DevInfo) :
    (devEnumPlugWaiters pathMatchSpec mark hotHandle hotInitCount items ctx el).more = true := by
  unfold devEnumPlugWaiters
  split <;> rfl

/-- The master list after a global sweep. -/
theorem deviceList_notifyWaiters_none (s : Notifier) :
    (notifyWaiters pathMatchSpec mark s none true).deviceList =
      s.deviceList.map fun el =>
        ({ el with waiting := 0#32 } : DevInfo).setSyncFlags SyncFlag.unchanged := by
  have hkept : ∀ (ctx : NotifyContext) (el : DevInfo),
      (devEnumPlugWaiters pathMatchSpec mark none s.hotInitCount s.items ctx el).kept =
        some { el with waiting := 0#32 } := by
    intro ctx el
    simp [devEnumPlugWaiters, plugWaiters_snd, DevInfo.visit]
  simp only [notifyWaiters, if_true, enumerate_clearSyncResults,
    enumerate_eq_map (devEnumPlugWaiters_more none s.hotInitCount s.items) hkept, List.map_map]
  rfl

/-- The element the notification of one handle leaves. -/
def DevInfo.plugged (mark : Bool) (items : List HotHandle) (id : ℕ) (el : DevInfo) : DevInfo :=
  if el.connected ∧ ∃ handle ∈ items, handle.id = id then el.addForInit mark else el

/-- The master list after the notification of one handle. -/
theorem deviceList_notifyWaiters_some (s : Notifier) (id : ℕ) :
    (notifyWaiters pathMatchSpec mark s (some id) true).deviceList =
      s.deviceList.map fun el => (el.plugged mark s.items id).setSyncFlags SyncFlag.unchanged := by
  have hkept : ∀ (ctx : NotifyContext) (el : DevInfo),
      (devEnumPlugWaiters pathMatchSpec mark (some id) s.hotInitCount s.items ctx el).kept =
        some (el.plugged mark s.items id) := by
    intro ctx el
    unfold devEnumPlugWaiters DevInfo.plugged
    by_cases hconnected : el.connected
    · simp [hconnected, plugWaiters_snd, DevInfo.visit, eq_comm]
    · simp [hconnected]
  simp only [notifyWaiters, if_true, enumerate_clearSyncResults,
    enumerate_eq_map (devEnumPlugWaiters_more (some id) s.hotInitCount s.items) hkept,
    List.map_map]
  rfl

/-- A global sweep visits every mark: it overwrites none, and leaves none that waits. -/
theorem notifyWaiters_none_swept {s : Notifier} (h : NoneForgotten s) :
    ∀ el ∈ (notifyWaiters pathMatchSpec mark s none true).deviceList, el.Swept := by
  rw [deviceList_notifyWaiters_none]
  refine List.forall_mem_map.mpr fun el hel => ?_
  have hvisited : ({ el with waiting := 0#32 } : DevInfo).Swept := ⟨h el hel, rfl⟩
  exact hvisited.clear

/-- What a sweep finds forgotten stays so. -/
theorem notifyWaiters_none_forgotten {s : Notifier} (h : ¬NoneForgotten s) :
    ¬NoneForgotten (notifyWaiters pathMatchSpec mark s none true) := by
  intro hafter
  apply h
  intro el hel
  unfold NoneForgotten at hafter
  rw [deviceList_notifyWaiters_none] at hafter
  have hclear := List.forall_mem_map.mp hafter el hel
  cases hforgotten : el.forgotten with
  | false => rfl
  | true =>
    have hstays : (({ el with waiting := 0#32 } : DevInfo).setSyncFlags
        SyncFlag.unchanged).forgotten = true := DevInfo.setSyncFlags_forgotten hforgotten
    rw [hstays] at hclear
    cases hclear

/-- The notification of one handle overwrites nothing when no mark waits and it raises none. -/
theorem notifyWaiters_some_swept {s : Notifier} {id : ℕ} (h : ∀ el ∈ s.deviceList, el.Swept)
    (hmark : mark = true → s.MarksNothing id) :
    ∀ el ∈ (notifyWaiters pathMatchSpec mark s (some id) true).deviceList, el.Swept := by
  rw [deviceList_notifyWaiters_some]
  refine List.forall_mem_map.mpr fun el hel => ?_
  apply DevInfo.Swept.clear
  unfold DevInfo.plugged
  split
  next hlisted =>
    cases mark with
    | false => exact ⟨(h el hel).kept, (h el hel).waiting⟩
    | true =>
      -- a listed handle, so nothing is connected
      have hoff := hmark rfl hlisted.2 el hel
      rw [hlisted.1] at hoff
      cases hoff
  · exact h el hel

/-- The notification of one handle forgets every mark that waits. -/
theorem notifyWaiters_some_forgotten {s : Notifier} {id : ℕ} (h : ∀ el ∈ s.deviceList, el.Settled)
    (hafter : NoneForgotten (notifyWaiters pathMatchSpec mark s (some id) true)) :
    ¬s.MarkWaits ∧ (mark = true → s.MarksNothing id) := by
  unfold NoneForgotten at hafter
  rw [deviceList_notifyWaiters_some] at hafter
  have hclear := List.forall_mem_map.mp hafter
  constructor
  · rintro ⟨el, hel, hwaiting⟩
    -- the element is disconnected, so the handles leave it alone
    have hoff : el.connected = false := by
      obtain hzero | ⟨hoff, -⟩ := (h el hel).waiting
      · exact absurd hzero hwaiting
      · exact hoff
    have hsame : el.plugged mark s.items id = el := by simp [DevInfo.plugged, hoff]
    have hkept := hclear el hel
    rw [hsame, (h el hel).clear_forgotten hwaiting] at hkept
    cases hkept
  · rintro rfl hlisted el hel
    cases hconnected : el.connected with
    | false => rfl
    | true =>
      have hkept := hclear el hel
      rw [DevInfo.plugged, if_pos ⟨hconnected, hlisted⟩,
        DevInfo.addForInit_clear_forgotten] at hkept
      cases hkept

end Notify

/-! ### Runs -/

section Runs

variable {pathMatchSpec : List Char → List Char → Bool} {mark : Bool}

/-- The state between two messages. -/
def Notifier.Inv (s : Notifier) : Prop := ∀ el ∈ s.deviceList, el.Settled

theorem Notifier.Inv.noneForgotten {s : Notifier} (h : s.Inv) : NoneForgotten s :=
  fun el hel => (h el hel).kept

theorem Notifier.Inv.swept {s : Notifier} (h : s.Inv) (hwaits : ¬s.MarkWaits) :
    ∀ el ∈ s.deviceList, el.Swept := by
  intro el hel
  refine ⟨(h el hel).kept, ?_⟩
  apply Classical.byContradiction
  intro hwaiting
  exact hwaits ⟨el, hel, hwaiting⟩

theorem inv_create (found : List TempItem) : (Notifier.create found).Inv :=
  List.forall_mem_map.mpr fun item _ => item.swept_devInfo.settled

/-- A synchronisation overwrites nothing when it comes in its turn. -/
theorem noneForgotten_lstKSyncDevices {s : Notifier} {slave : Option (List TempItem)}
    (h : s.Inv) (hturn : slave.isSome → ¬s.MarkWaits) :
    NoneForgotten (lstKSyncDevices pathMatchSpec s slave) := by
  cases slave with
  | none => exact h.noneForgotten
  | some slave =>
    intro el hel
    refine (lstKSync_marked SyncFlag.mask (h.swept (hturn rfl)) ?_ el hel).kept
    exact List.forall_mem_map.mpr fun item _ => item.swept_devInfo

theorem not_markWaits_of_lstKSyncDevices {s : Notifier} {slave : Option (List TempItem)}
    (h : NoneForgotten (lstKSyncDevices pathMatchSpec s slave)) (hslave : slave.isSome) :
    ¬s.MarkWaits := by
  obtain ⟨slave, rfl⟩ := Option.isSome_iff_exists.mp hslave
  intro hwaits
  have hlost : ∃ el ∈ (lstKSyncDevices pathMatchSpec s (some slave)).deviceList,
      el.forgotten = true := lstKSync_forgotten SyncFlag.mask hwaits
  obtain ⟨el, hel, hforgotten⟩ := hlost
  rw [h el hel] at hforgotten
  cases hforgotten

/-- The removal of one device overwrites nothing. -/
theorem settled_updateForRemoval (name : List Char) {l : List DevInfo}
    (h : ∀ el ∈ l, el.Settled) :
    ∀ el ∈ (enumerate (devEnumUpdateForRemoval pathMatchSpec name) l ()).1, el.Settled := by
  refine (enumerate_forall (P := DevInfo.Settled) (I := fun _ => True) ?_ l () trivial h).2
  intro ctx el _ hel
  refine ⟨trivial, ?_⟩
  unfold devEnumUpdateForRemoval
  split
  · rintro b hb
    cases hb
    exact hel
  next hconnected =>
    split
    · rintro b hb
      cases hb
      have hzero : el.waiting = 0#32 := by
        obtain hzero | ⟨hoff, -⟩ := hel.waiting
        · exact hzero
        · exact absurd hoff (by simpa using hconnected)
      have hremoved : SyncFlag.removed &&& SyncFlag.marks = SyncFlag.removed := by decide
      have hmarked := (DevInfo.Swept.mk hel.kept hzero).setSyncFlags SyncFlag.removed
      exact ⟨hmarked.kept, Or.inr ⟨rfl, hremoved⟩⟩
    · rintro b hb
      cases hb
      exact hel

/-- A timer that synchronises in its turn, and sweeps. -/
theorem inv_sync_sweep {s : Notifier} {slave : Option (List TempItem)} (h : s.Inv)
    (hturn : slave.isSome → ¬s.MarkWaits) :
    (notifyWaiters pathMatchSpec mark (lstKSyncDevices pathMatchSpec s slave) none true).Inv := by
  intro el hel
  exact (notifyWaiters_none_swept (noneForgotten_lstKSyncDevices h hturn) el hel).settled

theorem not_markWaits_of_sync_sweep {s : Notifier} {slave : Option (List TempItem)}
    (h : NoneForgotten
      (notifyWaiters pathMatchSpec mark (lstKSyncDevices pathMatchSpec s slave) none true))
    (hslave : slave.isSome) : ¬s.MarkWaits := by
  have hsync : NoneForgotten (lstKSyncDevices pathMatchSpec s slave) :=
    Classical.byContradiction fun hsync => notifyWaiters_none_forgotten hsync h
  exact not_markWaits_of_lstKSyncDevices hsync hslave

/-- A message in its turn. -/
theorem wndProc_inv {s s' : Notifier} {m : HotMessage} (h : s.Inv) (hturn : InTurn mark s m)
    (hstep : wndProc pathMatchSpec mark s m = some s') : s'.Inv := by
  cases m with
  | initHotHandle handle =>
    obtain ⟨-, rfl⟩ : _ ∧ _ = s' := by simpa [wndProc] using hstep
    exact h
  | notifyHotHandle =>
    cases hposted : s.posted with
    | nil => simp [wndProc, hposted] at hstep
    | cons id posted =>
      simp only [wndProc, hposted, Option.some.injEq] at hstep
      subst hstep
      obtain ⟨hwaits, hmark⟩ := hturn
      rw [hposted] at hmark
      intro el hel
      exact (notifyWaiters_some_swept (h.swept hwaits) (fun hm => hmark hm id rfl) el hel).settled
  | freeHotHandle id =>
    simp only [wndProc] at hstep
    split at hstep <;> cases hstep <;> exact h
  | timerDeviceArrival slave =>
    obtain ⟨-, rfl⟩ : _ ∧ _ = s' := by simpa [wndProc] using hstep
    exact inv_sync_sweep h hturn
  | timerDevNodesChanged slave =>
    obtain ⟨-, rfl⟩ : _ ∧ _ = s' := by simpa [wndProc] using hstep
    exact inv_sync_sweep h hturn
  | timerDeviceRemoval =>
    obtain ⟨-, rfl⟩ : _ ∧ _ = s' := by simpa [wndProc] using hstep
    intro el hel
    exact (notifyWaiters_none_swept h.noneForgotten el hel).settled
  | deviceArrival dbccName =>
    cases dbccName <;> cases hstep <;> exact h
  | deviceRemoveComplete dbccName =>
    match dbccName, hstep with
    | none, hstep =>
      cases hstep
      exact h
    | some [], hstep =>
      cases hstep
      exact h
    | some (c :: name), hstep =>
      cases hstep
      exact settled_updateForRemoval (c :: name) h
  | devNodesChanged =>
    cases hstep
    exact h

/-- A message out of turn overwrites a mark. -/
theorem inTurn_of_noneForgotten {s s' : Notifier} {m : HotMessage} (h : s.Inv)
    (hstep : wndProc pathMatchSpec mark s m = some s') (hafter : NoneForgotten s') :
    InTurn mark s m := by
  cases m with
  | notifyHotHandle =>
    cases hposted : s.posted with
    | nil => simp [wndProc, hposted] at hstep
    | cons id posted =>
      simp only [wndProc, hposted, Option.some.injEq] at hstep
      subst hstep
      obtain ⟨hwaits, hmark⟩ := notifyWaiters_some_forgotten h hafter
      refine ⟨hwaits, fun hm id' hid => ?_⟩
      rw [hposted] at hid
      cases hid
      exact hmark hm
  | timerDeviceArrival slave =>
    obtain ⟨-, rfl⟩ : _ ∧ _ = s' := by simpa [wndProc] using hstep
    intro hslave
    have hwaits := not_markWaits_of_sync_sweep hafter hslave
    exact hwaits
  | timerDevNodesChanged slave =>
    obtain ⟨-, rfl⟩ : _ ∧ _ = s' := by simpa [wndProc] using hstep
    intro hslave
    have hwaits := not_markWaits_of_sync_sweep hafter hslave
    exact hwaits
  | _ => trivial

/-- No mark is overwritten before a global sweep has visited it exactly in the runs in which
no message that writes the flags of every element comes while a mark waits.  The window does
not see to that: the timers are independent, and posted messages come before them. -/
theorem noneForgotten_iff (pathMatchSpec : List Char → List Char → Bool) (mark : Bool)
    (found : List TempItem) (messages : List HotMessage) :
    (hotPlug pathMatchSpec mark).Always NoneForgotten (Notifier.create found) messages ↔
      (hotPlug pathMatchSpec mark).Throughout (InTurn mark) (Notifier.create found) messages :=
  Machine.always_iff_throughout (I := Notifier.Inv) (fun _ h => h.noneForgotten)
    (fun _ _ _ h hturn hstep => wndProc_inv h hturn hstep)
    (fun _ _ _ h hstep hafter => inTurn_of_noneForgotten h hstep hafter) (inv_create found)

end Runs

/-! ### Two lost removals -/

/-- A device whose link and paths are short. -/
def aDevice : TempItem where
  symbolicLink := ['A']
  devicePath := ['A']
  deviceID := ['A']
  deviceInterfaceGUID := ['G']
  classGUID := ['C']
  connected := true

/-- A handle for all devices, notified of those present when it is made. -/
def aHotHandle (id : ℕ) : HotHandle where
  id := id
  userHwnd := false
  userMessage := 0
  flags := HotFlag.plugAllOnInit
  patternMatch := ⟨[], [], []⟩
  onHotPlug := true

/-- `PathMatchSpec` for names without wildcards, in one case. -/
def matchExactly (file spec : List Char) : Bool := decide (file = spec)

/-- The timer of an arrival expires before the one of a removal: the synchronisation clears
`REMOVED`, and finds a disconnected element unchanged. -/
def arrivalBeforeRemoval : List HotMessage :=
  [.deviceArrival (some ['B']), .deviceRemoveComplete (some ['A']), .timerDeviceArrival (some [])]

/-- A handle is made between a removal and its timer: its notification clears `REMOVED`. -/
def initBeforeRemoval : List HotMessage :=
  [.deviceRemoveComplete (some ['A']), .initHotHandle (aHotHandle 1), .notifyHotHandle,
    .timerDeviceRemoval]

/-- Both runs forget the removal, whether the flags of an initial notification count or not. -/
theorem not_noneForgotten_removal :
    ¬(hotPlug matchExactly true).Always NoneForgotten (Notifier.create [aDevice])
        arrivalBeforeRemoval ∧
      ¬(hotPlug matchExactly false).Always NoneForgotten (Notifier.create [aDevice])
        arrivalBeforeRemoval ∧
      ¬(hotPlug matchExactly false).Always NoneForgotten (Notifier.create [aDevice])
        initBeforeRemoval := by
  refine ⟨fun h => ?_, fun h => ?_, fun h => ?_⟩
  · obtain ⟨s, hs, hforgotten⟩ : ∃ s, (hotPlug matchExactly true).exec (Notifier.create [aDevice])
        arrivalBeforeRemoval = some s ∧ ¬NoneForgotten s := ⟨_, rfl, by decide⟩
    exact hforgotten (h.exec hs)
  · obtain ⟨s, hs, hforgotten⟩ : ∃ s, (hotPlug matchExactly false).exec (Notifier.create [aDevice])
        arrivalBeforeRemoval = some s ∧ ¬NoneForgotten s := ⟨_, rfl, by decide⟩
    exact hforgotten (h.exec hs)
  · obtain ⟨s, hs, hforgotten⟩ : ∃ s, (hotPlug matchExactly false).exec (Notifier.create [aDevice])
        initBeforeRemoval = some s ∧ ¬NoneForgotten s := ⟨_, rfl, by decide⟩
    exact hforgotten (h.exec hs)

end LibusbK
