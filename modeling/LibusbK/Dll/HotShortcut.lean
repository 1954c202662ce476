import LibusbK.Dll.SyncFilter
import LibusbK.Dll.HotRegister

/-!
# The shortcuts for a single handle

While there is one handle, `h_IsHotMatch` tests no pattern and the timers list the
devices with the pattern of that handle (`lusbk_hot_plug.c`).  The window is run beside
one that always tests the patterns and lists all devices: what the handles are told is
the same for as long as the list of the window fits its only handle.  Nothing in the
code sees to that when a handle is freed and one remains, or when a second one is
registered.

## Main definitions

* `Notifier.plainProc`, `hotKPlain` -- the window without the two shortcuts.
* `lockstep` -- the two windows side by side.
* `ListsAgree` -- the master list of the window against that of the other.
* `ShortcutSafe` -- the calls and messages after which the lists still agree.

## Main results

* `lockstepSafe_of_leavesNoneOut` -- nothing is asked when a second handle is registered
  in a run in which no listing left a device out.
* `notified_lockstep` -- in every run whose steps are safe, both windows tell the handles
  the same.
-/

namespace LibusbK

/-! ### The window without shortcuts -/

section Plain

variable (pathMatchSpec : List Char → List Char → Bool) (mark : Bool)

/-- `h_WndProc` when it tests every pattern and lists all devices: a count other than 1
takes neither shortcut. -/
def Notifier.plainProc (n : Notifier) (m : WindowMessage) : Option Notifier :=
  (wndProc pathMatchSpec mark { n with hotInitCount := 0 } (m.hotMessage none)).map
    fun n' => { n' with hotInitCount := n.hotInitCount }

/-- A call, or a message of the window without shortcuts. -/
def HotNotifierList.callPlain (s : HotNotifierList) : HotCall → Option HotNotifierList
  | .window m =>
    if s.hwnd then
      (s.toNotifier.plainProc pathMatchSpec mark m).map fun n => { s with toNotifier := n }
    else none
  | c => s.call pathMatchSpec mark c

/-- The hot-plug functions and the window without shortcuts. -/
def hotKPlain : Machine HotNotifierList HotCall := ⟨HotNotifierList.callPlain pathMatchSpec mark⟩

/-- The window, and beside it the one without shortcuts with the same calls and messages. -/
def lockstep : Machine (HotNotifierList × HotNotifierList) HotCall where
  step s c :=
    ((hotK pathMatchSpec mark).step s.1 c).map fun s₁ =>
      (s₁, ((hotKPlain pathMatchSpec mark).step s.2 c).getD s.2)

/-- The list of the window against that of the window without shortcuts.  With one handle,
they have the same elements that match it, and no other element of the list is connected or
changed. -/
def ListsAgree (items : List HotHandle) (l l' : List DevInfo) : Prop :=
  match items with
  | [handle] =>
    l.filter (patternMatches pathMatchSpec handle) =
        l'.filter (patternMatches pathMatchSpec handle) ∧
      ∀ el ∈ l, patternMatches pathMatchSpec handle el = false → el.Silent
  | _ => l = l'

/-- Connected elements that the name of a removed device matches also match the pattern
alike. -/
def NamesAlike (handle : HotHandle) (name : List Char) (l : List DevInfo) : Prop :=
  ∀ a ∈ l, ∀ b ∈ l, a.connected = true → b.connected = true →
    pathMatchSpec name a.symbolicLink = true → pathMatchSpec name b.symbolicLink = true →
      patternMatches pathMatchSpec handle a = patternMatches pathMatchSpec handle b

/-- Listing with the pattern of the handle finds those devices that match it. -/
def FindsMatching (handle : HotHandle) (found : Enumeration) : Prop :=
  found (some handle.patternMatch) = (found none).map fun items =>
    items.filter fun item => patternMatches pathMatchSpec handle item.devInfo

/-- A timer that lists the devices for a single handle. -/
def SyncSafe (handle : HotHandle) (l l' : List DevInfo) (found : Enumeration) : Prop :=
  FindsMatching pathMatchSpec handle found ∧
    ∀ items, found none = some items →
      LinksAlike pathMatchSpec handle (l ++ l' ++ items.map TempItem.devInfo)

/-- A message for a window with a single handle. -/
def WindowSafe (handle : HotHandle) (l l' : List DevInfo) : WindowMessage → Prop
  | .timerDeviceArrival found => SyncSafe pathMatchSpec handle l l' found
  | .timerDevNodesChanged found => SyncSafe pathMatchSpec handle l l' found
  | .deviceRemoveComplete (some (c :: name)) => NamesAlike pathMatchSpec handle (c :: name) l'
  | _ => True

/-- The calls and messages that keep the lists in agreement.  The window of the first handle
is made with a list of devices that match it; when a second handle is registered, the list is
the one that the run gives when all devices are listed every time; when one of two handles is
freed, the elements that do not match the other are neither connected nor changed. -/
def ShortcutSafe (s : HotNotifierList × HotNotifierList) : HotCall → Prop
  | .init handle creation refused =>
    (s.1.items = [] → ∀ found, creation = .created found →
      ∀ items, found handle.initPattern = some items →
        ∀ item ∈ items, patternMatches pathMatchSpec handle item.devInfo = true) ∧
      (s.1.items.length = 1 → refused = false → s.1.deviceList = s.2.deviceList)
  | .free (some id) => s.1.items.length = 2 →
    ∀ handle, (s.1.items.filter fun other => other.id ≠ id) = [handle] →
      ∀ el ∈ s.1.deviceList, patternMatches pathMatchSpec handle el = false → el.Silent
  | .window m => ∀ handle, s.1.items = [handle] →
    WindowSafe pathMatchSpec handle s.1.deviceList s.2.deviceList m
  | _ => True

end Plain

/-! ### What a sweep tells -/

section Told

variable {pathMatchSpec : List Char → List Char → Bool} {mark : Bool}

theorem isHotMatch_of_ne_one {hotInitCount : ℤ} (h : hotInitCount ≠ 1) (handle : HotHandle)
    (el : DevInfo) :
    isHotMatch pathMatchSpec hotInitCount handle el = patternMatches pathMatchSpec handle el := by
  rw [isHotMatch, decide_eq_false h, Bool.false_or, patternMatches]

theorem isHotMatch_addForInit (hotInitCount : ℤ) (handle : HotHandle) (el : DevInfo) :
    isHotMatch pathMatchSpec hotInitCount handle (el.addForInit mark) =
      isHotMatch pathMatchSpec hotInitCount handle el := by
  cases mark <;> rfl

theorem isHotMatch_visit (hotInitCount : ℤ) (handle : HotHandle) (el : DevInfo)
    (hotHandle : Option ℕ) :
    isHotMatch pathMatchSpec hotInitCount handle (el.visit hotHandle) =
      isHotMatch pathMatchSpec hotInitCount handle el := by
  cases hotHandle <;> rfl

/-- The count matters to the tests of the patterns only. -/
theorem plugWaiters_congr {hotHandle : Option ℕ} {k k' : ℤ} :
    ∀ {items : List HotHandle} (ctx : NotifyContext) (el : DevInfo),
      (∀ handle ∈ items, isHotMatch pathMatchSpec k handle el =
        isHotMatch pathMatchSpec k' handle el) →
      plugWaiters pathMatchSpec mark hotHandle k items ctx el =
        plugWaiters pathMatchSpec mark hotHandle k' items ctx el := by
  intro items
  induction items with
  | nil => exact fun _ _ _ => rfl
  | cons handle items ih =>
    intro ctx el h
    obtain ⟨hhandle, hitems⟩ := List.forall_mem_cons.mp h
    have hwaiter : ∀ el, isHotMatch pathMatchSpec k handle el =
        isHotMatch pathMatchSpec k' handle el →
        plugWaiter pathMatchSpec k handle ctx el = plugWaiter pathMatchSpec k' handle ctx el := by
      intro el hel
      unfold plugWaiter
      rw [hel]
    unfold plugWaiters
    cases hotHandle with
    | none =>
      dsimp only
      rw [hwaiter el hhandle, ih _ _ hitems]
    | some id =>
      dsimp only
      split
      · exact ih _ _ hitems
      · rw [hwaiter _ (by rw [isHotMatch_addForInit, isHotMatch_addForInit, hhandle])]
        refine ih _ _ fun other hother => ?_
        rw [isHotMatch_addForInit, isHotMatch_addForInit, hitems other hother]

theorem devEnumPlugWaiters_congr {hotHandle : Option ℕ} {k k' : ℤ} {items : List HotHandle}
    (ctx : NotifyContext) (el : DevInfo)
    (h : ∀ handle ∈ items, isHotMatch pathMatchSpec k handle el =
      isHotMatch pathMatchSpec k' handle el) :
    devEnumPlugWaiters pathMatchSpec mark hotHandle k items ctx el =
      devEnumPlugWaiters pathMatchSpec mark hotHandle k' items ctx el := by
  have hplug : plugWaiters pathMatchSpec mark hotHandle k items ctx (el.visit hotHandle) =
      plugWaiters pathMatchSpec mark hotHandle k' items ctx (el.visit hotHandle) := by
    refine plugWaiters_congr ctx _ fun handle hhandle => ?_
    rw [isHotMatch_visit, isHotMatch_visit, h handle hhandle]
  unfold devEnumPlugWaiters
  rw [hplug]

/-- A single handle that does not match an element is told nothing of it. -/
theorem devEnumPlugWaiters_ctx_of_not_match {hotHandle : Option ℕ} {k : ℤ} {handle : HotHandle}
    (ctx : NotifyContext) (el : DevInfo) (h : isHotMatch pathMatchSpec k handle el = false) :
    (devEnumPlugWaiters pathMatchSpec mark hotHandle k [handle] ctx el).ctx = ctx := by
  have hwaiter : ∀ el, isHotMatch pathMatchSpec k handle el = false →
      plugWaiter pathMatchSpec k handle ctx el = ctx := by
    intro el hel
    unfold plugWaiter
    rw [hel]
    simp
  unfold devEnumPlugWaiters
  split
  · rfl
  · cases hotHandle with
    | none => exact hwaiter _ h
    | some id =>
      simp only [plugWaiters]
      split
      · rfl
      · exact hwaiter _ (by rw [isHotMatch_addForInit, isHotMatch_visit, h])

/-- A silent element is told to nobody. -/
theorem DevInfo.Silent.devEnumPlugWaiters_ctx {el : DevInfo} (h : el.Silent)
    {hotHandle : Option ℕ} {k : ℤ} {handle : HotHandle} (ctx : NotifyContext) :
    (devEnumPlugWaiters pathMatchSpec mark hotHandle k [handle] ctx el).ctx = ctx := by
  unfold devEnumPlugWaiters
  cases hotHandle with
  | none =>
    have hunchanged := not_not.mp h.isChanged
    simp only [Option.isSome_none, Bool.false_eq_true, false_and, if_false]
    change plugWaiter pathMatchSpec k handle ctx (el.visit none) = ctx
    unfold plugWaiter
    rw [if_pos (by exact hunchanged)]
  | some id => rw [if_pos (by simp [h.connected])]

/-- What a sweep tells, with `k` for the count of the handles. -/
def told (pathMatchSpec : List Char → List Char → Bool) (mark : Bool) (hotHandle : Option ℕ)
    (k : ℤ) (items : List HotHandle) (l : List DevInfo) : List Notification :=
  (enumerate (devEnumPlugWaiters pathMatchSpec mark hotHandle k items) l ⟨[], []⟩).2.notified

/-- Agreeing lists are told alike. -/
theorem told_eq {hotHandle : Option ℕ} {items : List HotHandle} {l l' : List DevInfo}
    (h : ListsAgree pathMatchSpec items l l') :
    told pathMatchSpec mark hotHandle items.length items l =
      told pathMatchSpec mark hotHandle 0 items l' := by
  unfold told
  match items, h with
  | [], h =>
    obtain rfl : l = l' := h
    rfl
  | [handle], h =>
    obtain ⟨hfilter, hsilent⟩ := h
    rw [enumerate_ctx_filter (p := patternMatches pathMatchSpec handle)
        (devEnumPlugWaiters_more hotHandle _ [handle])
        (fun el hel hp ctx => (hsilent el hel hp).devEnumPlugWaiters_ctx ctx), hfilter,
      @enumerate_ctx_filter _ _ _ (patternMatches pathMatchSpec handle)
        (devEnumPlugWaiters_more hotHandle _ [handle]) l'
        (fun el _ hp ctx => devEnumPlugWaiters_ctx_of_not_match ctx el
          ((isHotMatch_of_ne_one (by decide) handle el).trans hp))]
    congr 2
    refine enumerate_congr (fun el hel ctx => devEnumPlugWaiters_congr ctx el ?_) _
    intro other hother
    cases List.mem_singleton.mp hother
    have hp := (List.mem_filter.mp hel).2
    rw [isHotMatch_of_patternMatches hp, isHotMatch_of_patternMatches hp]
  | first :: second :: rest, h =>
    obtain rfl : l = l' := h
    congr 2
    refine enumerate_congr (fun el _ ctx => devEnumPlugWaiters_congr ctx el fun other _ => ?_) _
    have hcount : ((first :: second :: rest).length : ℤ) ≠ 1 := by
      simp only [List.length_cons]
      omega
    rw [isHotMatch_of_ne_one hcount, isHotMatch_of_ne_one (by decide)]

/-! ### What the messages keep -/

/-- Without a single handle, the lists are the same. -/
theorem listsAgree_iff_eq {items : List HotHandle} {l l' : List DevInfo}
    (h : items.length ≠ 1) : ListsAgree pathMatchSpec items l l' ↔ l = l' := by
  match items, h with
  | [], _ => exact Iff.rfl
  | _ :: _ :: _, _ => exact Iff.rfl

theorem listsAgree_self {items : List HotHandle} {l : List DevInfo}
    (h : ∀ handle, items = [handle] → ∀ el ∈ l,
      patternMatches pathMatchSpec handle el = false → el.Silent) :
    ListsAgree pathMatchSpec items l l := by
  match items, h with
  | [], _ => rfl
  | [handle], h => exact ⟨rfl, h handle rfl⟩
  | _ :: _ :: _, _ => rfl

/-- An edit of all elements, after which those that were silent are. -/
theorem ListsAgree.map {items : List HotHandle} {l l' : List DevInfo} {f : DevInfo → DevInfo}
    (h : ListsAgree pathMatchSpec items l l') (hf : KeepsFields f)
    (hsilent : ∀ el, el.connected = false → (f el).Silent) :
    ListsAgree pathMatchSpec items (l.map f) (l'.map f) := by
  match items, h with
  | [], h => exact congrArg (List.map f) h
  | [handle], h =>
    obtain ⟨hfilter, hrest⟩ := h
    refine ⟨by rw [hf.filter_map, hf.filter_map, hfilter], List.forall_mem_map.mpr ?_⟩
    intro el hel hp
    rw [hf.patternMatches] at hp
    exact hsilent el (hrest el hel hp).connected
  | _ :: _ :: _, h => exact congrArg (List.map f) h

theorem keepsFields_plugged (mark : Bool) (items : List HotHandle) (id : ℕ) :
    KeepsFields (DevInfo.plugged mark items id) := by
  intro el
  unfold DevInfo.plugged
  split
  · cases mark <;> exact ⟨rfl, rfl, rfl, rfl⟩
  · exact ⟨rfl, rfl, rfl, rfl⟩

/-- The lists agree after a sweep. -/
theorem ListsAgree.notifyWaiters {n n' : Notifier} (hotHandle : Option ℕ)
    (hitems : n'.items = n.items)
    (h : ListsAgree pathMatchSpec n.items n.deviceList n'.deviceList) :
    ListsAgree pathMatchSpec n.items (notifyWaiters pathMatchSpec mark n hotHandle true).deviceList
      (LibusbK.notifyWaiters pathMatchSpec mark n' hotHandle true).deviceList := by
  cases hotHandle with
  | none =>
    rw [deviceList_notifyWaiters_none, deviceList_notifyWaiters_none]
    exact h.map (fun _ => ⟨rfl, rfl, rfl, rfl⟩) fun el hel => DevInfo.Silent.of_unchanged hel
  | some id =>
    rw [deviceList_notifyWaiters_some, deviceList_notifyWaiters_some, hitems]
    refine h.map (fun el => keepsFields_plugged mark n.items id el) fun el hel => ?_
    have hplugged : el.plugged mark n.items id = el := by simp [DevInfo.plugged, hel]
    rw [hplugged]
    exact DevInfo.Silent.of_unchanged hel

/-- The window without shortcuts, with its own list. -/
def Notifier.plain (n : Notifier) (l : List DevInfo) : Notifier :=
  { n with
    deviceList := l
    hotInitCount := 0 }

/-- A sweep of the window, and the same sweep without the shortcut. -/
theorem notifyWaiters_plain {n : Notifier} {l : List DevInfo} (hotHandle : Option ℕ)
    (hcount : n.hotInitCount = n.items.length)
    (h : ListsAgree pathMatchSpec n.items n.deviceList l) :
    ∃ l', notifyWaiters pathMatchSpec mark (n.plain l) hotHandle true =
        (notifyWaiters pathMatchSpec mark n hotHandle true).plain l' ∧
      ListsAgree pathMatchSpec n.items
        (notifyWaiters pathMatchSpec mark n hotHandle true).deviceList l' := by
  refine ⟨_, ?_, @ListsAgree.notifyWaiters _ _ n (n.plain l) hotHandle rfl h⟩
  have htold := @told_eq pathMatchSpec mark hotHandle _ _ _ h
  unfold told at htold
  rw [← hcount] at htold
  simp only [notifyWaiters, Notifier.plain, htold]

/-- The matching part of the fresh list, and the whole. -/
theorem listsAgree_lstKSync {handle : HotHandle} {l l' : List DevInfo} {fresh : List TempItem}
    (h : ListsAgree pathMatchSpec [handle] l l')
    (hlinks : LinksAlike pathMatchSpec handle (l ++ l' ++ fresh.map TempItem.devInfo)) :
    ListsAgree pathMatchSpec [handle]
      (lstKSync pathMatchSpec SyncFlag.mask l
        ((fresh.filter fun item => patternMatches pathMatchSpec handle item.devInfo).map
          TempItem.devInfo)).1
      (lstKSync pathMatchSpec SyncFlag.mask l' (fresh.map TempItem.devInfo)).1 := by
  obtain ⟨hfilter, hsilent⟩ := h
  have hslave : (fresh.filter fun item => patternMatches pathMatchSpec handle item.devInfo).map
        TempItem.devInfo =
      (fresh.map TempItem.devInfo).filter (patternMatches pathMatchSpec handle) := by
    rw [List.filter_map]
    rfl
  rw [hslave]
  have hleft : LinksAlike pathMatchSpec handle
      (l ++ (fresh.map TempItem.devInfo).filter (patternMatches pathMatchSpec handle)) := by
    refine hlinks.mono fun el hel => ?_
    rcases List.mem_append.mp hel with hel | hel
    · exact List.mem_append_left _ (List.mem_append_left _ hel)
    · exact List.mem_append_right _ (List.mem_filter.mp hel).1
  have hright : LinksAlike pathMatchSpec handle (l' ++ fresh.map TempItem.devInfo) := by
    refine hlinks.mono fun el hel => ?_
    rcases List.mem_append.mp hel with hel | hel
    · exact List.mem_append_left _ (List.mem_append_right _ hel)
    · exact List.mem_append_right _ hel
  constructor
  · rw [← filter_lstKSync _ hleft, ← filter_lstKSync _ hright, hfilter, List.filter_filter]
    simp only [Bool.and_self]
  · exact silent_lstKSync _ hleft (fun el hel => (List.mem_filter.mp hel).2)
      fun el hel hp => (hsilent el hel hp).connected

/-- The lists agree after a synchronisation. -/
theorem lstKSyncDevices_plain {n : Notifier} {l : List DevInfo} {found : Enumeration}
    (hcount : n.hotInitCount = n.items.length)
    (h : ListsAgree pathMatchSpec n.items n.deviceList l)
    (hsafe : ∀ handle, n.items = [handle] →
      SyncSafe pathMatchSpec handle n.deviceList l found) :
    ∃ l', lstKSyncDevices pathMatchSpec (n.plain l) (found none) =
        (lstKSyncDevices pathMatchSpec n (found n.syncPattern)).plain l' ∧
      ListsAgree pathMatchSpec n.items
        (lstKSyncDevices pathMatchSpec n (found n.syncPattern)).deviceList l' := by
  by_cases hone : n.items.length = 1
  · obtain ⟨handle, hitems⟩ := List.length_eq_one_iff.mp hone
    obtain ⟨hfound, hlinks⟩ := hsafe handle hitems
    have hpattern : n.syncPattern = some handle.patternMatch := by
      simp [Notifier.syncPattern, hcount, hitems]
    rw [hpattern, hfound]
    cases hnone : found none with
    | none => exact ⟨l, rfl, h⟩
    | some fresh =>
      refine ⟨_, rfl, ?_⟩
      rw [hitems] at h ⊢
      exact listsAgree_lstKSync h (hlinks fresh hnone)
  · -- no shortcut is taken, and the lists are the same
    obtain rfl := (listsAgree_iff_eq hone).mp h
    have hpattern : n.syncPattern = none := by
      unfold Notifier.syncPattern
      rw [if_neg (by omega)]
    rw [hpattern]
    refine ⟨_, ?_, (listsAgree_iff_eq hone).mpr rfl⟩
    cases found none <;> rfl

/-- What the name of a removed device finds. -/
def removalFinds (pathMatchSpec : List Char → List Char → Bool) (name : List Char)
    (el : DevInfo) : Bool :=
  el.connected && pathMatchSpec name el.symbolicLink

/-- What is done to it. -/
def DevInfo.remove (el : DevInfo) : DevInfo :=
  { el.setSyncFlags SyncFlag.removed with connected := false }

theorem keepsFields_remove : KeepsFields DevInfo.remove := fun _ => ⟨rfl, rfl, rfl, rfl⟩

theorem enumerate_updateForRemoval (name : List Char) (l : List DevInfo) :
    (enumerate (devEnumUpdateForRemoval pathMatchSpec name) l ()).1 =
      (editFirst (removalFinds pathMatchSpec name) DevInfo.remove l).getD l := by
  induction l with
  | nil => rfl
  | cons el l ih =>
    rw [enumerate_cons]
    unfold editFirst removalFinds
    cases hconnected : el.connected with
    | false =>
      simp only [devEnumUpdateForRemoval, hconnected, Bool.false_eq_true, not_false_eq_true,
        if_true, Option.toList_some, Bool.false_and, if_false]
      rw [ih]
      unfold removalFinds
      cases editFirst _ DevInfo.remove l <;> rfl
    | true =>
      cases hname : pathMatchSpec name el.symbolicLink with
      | false =>
        simp only [devEnumUpdateForRemoval, hconnected, not_true_eq_false, if_false, hname,
          Bool.false_eq_true, if_true, Option.toList_some, Bool.and_false]
        rw [ih]
        unfold removalFinds
        cases editFirst _ DevInfo.remove l <;> rfl
      | true => simp [devEnumUpdateForRemoval, hconnected, hname, DevInfo.remove]

/-- A removal, in a list where the name finds only elements that match the pattern. -/
theorem filter_removal {handle : HotHandle} {name : List Char} {l : List DevInfo}
    (h : ∀ el ∈ l, removalFinds pathMatchSpec name el = true →
      patternMatches pathMatchSpec handle el = true) :
    ((editFirst (removalFinds pathMatchSpec name) DevInfo.remove l).getD l).filter
        (patternMatches pathMatchSpec handle) =
      (editFirst (removalFinds pathMatchSpec name) DevInfo.remove
        (l.filter (patternMatches pathMatchSpec handle))).getD
          (l.filter (patternMatches pathMatchSpec handle)) := by
  rw [editFirst_filter (fun el => keepsFields_remove.patternMatches el) h]
  cases editFirst (removalFinds pathMatchSpec name) DevInfo.remove l <;> rfl

/-- The lists agree after the removal of a device. -/
theorem ListsAgree.updateForRemoval {items : List HotHandle} {l l' : List DevInfo}
    (name : List Char) (h : ListsAgree pathMatchSpec items l l')
    (hsafe : ∀ handle, items = [handle] → NamesAlike pathMatchSpec handle name l') :
    ListsAgree pathMatchSpec items
      (enumerate (devEnumUpdateForRemoval pathMatchSpec name) l ()).1
      (enumerate (devEnumUpdateForRemoval pathMatchSpec name) l' ()).1 := by
  by_cases hone : items.length = 1
  · obtain ⟨handle, rfl⟩ := List.length_eq_one_iff.mp hone
    obtain ⟨hfilter, hsilent⟩ := h
    rw [enumerate_updateForRemoval, enumerate_updateForRemoval]
    -- only elements that match are connected
    have hfinds : ∀ el ∈ l, removalFinds pathMatchSpec name el = true →
        patternMatches pathMatchSpec handle el = true := by
      intro el hel hfound
      by_contra hp
      have hoff := (hsilent el hel (by simpa using hp)).connected
      simp [removalFinds, hoff] at hfound
    constructor
    · rw [filter_removal hfinds, hfilter]
      by_cases hall : ∀ el ∈ l', removalFinds pathMatchSpec name el = true →
          patternMatches pathMatchSpec handle el = true
      · rw [filter_removal hall]
      · -- the name finds an element that does not match, so it finds none that does
        have hnone : ∀ el ∈ l', removalFinds pathMatchSpec name el = true →
            patternMatches pathMatchSpec handle el = false := by
          intro el hel hfound
          simp only [not_forall] at hall
          obtain ⟨a, ha, hfounda, hpa⟩ := hall
          simp only [removalFinds, Bool.and_eq_true] at hfound hfounda
          rw [hsafe handle rfl el hel a ha hfound.1 hfounda.1 hfound.2 hfounda.2]
          simpa using hpa
        have hmiss : editFirst (removalFinds pathMatchSpec name) DevInfo.remove
            (l'.filter (patternMatches pathMatchSpec handle)) = none := by
          refine editFirst_eq_none.mpr fun el hel => ?_
          obtain ⟨hel, hp⟩ := List.mem_filter.mp hel
          by_contra hfound
          rw [hnone el hel (by simpa using hfound)] at hp
          cases hp
        rw [hmiss, Option.getD_none]
        cases hedit : editFirst (removalFinds pathMatchSpec name) DevInfo.remove l' with
        | none => rfl
        | some bs =>
          exact (filter_of_editFirst (fun el => keepsFields_remove.patternMatches el) hedit
            hnone).symm
    · intro el hel hp
      cases hedit : editFirst (removalFinds pathMatchSpec name) DevInfo.remove l with
      | none =>
        rw [hedit] at hel
        exact hsilent el hel hp
      | some bs =>
        rw [hedit] at hel
        rcases of_mem_editFirst hedit el hel with hel | ⟨a, ha, hfound, rfl⟩
        · exact hsilent el hel hp
        · rw [keepsFields_remove.patternMatches, hfinds a ha hfound] at hp
          cases hp
  · obtain rfl := (listsAgree_iff_eq hone).mp h
    exact (listsAgree_iff_eq hone).mpr rfl

/-- A timer that synchronises and sweeps. -/
theorem sync_sweep_plain {n : Notifier} {l : List DevInfo} {found : Enumeration}
    (hcount : n.hotInitCount = n.items.length)
    (h : ListsAgree pathMatchSpec n.items n.deviceList l)
    (hsafe : ∀ handle, n.items = [handle] →
      SyncSafe pathMatchSpec handle n.deviceList l found) :
    ∃ l', notifyWaiters pathMatchSpec mark
          (lstKSyncDevices pathMatchSpec (n.plain l) (found none)) none true =
        (notifyWaiters pathMatchSpec mark
          (lstKSyncDevices pathMatchSpec n (found n.syncPattern)) none true).plain l' ∧
      ListsAgree pathMatchSpec (lstKSyncDevices pathMatchSpec n (found n.syncPattern)).items
        (notifyWaiters pathMatchSpec mark
          (lstKSyncDevices pathMatchSpec n (found n.syncPattern)) none true).deviceList l' := by
  obtain ⟨l₁, hsync, hagree⟩ := lstKSyncDevices_plain hcount h hsafe
  obtain ⟨hitems, hinit⟩ :=
    @lstKSyncDevices_items pathMatchSpec n (found n.syncPattern)
  rw [hsync]
  refine notifyWaiters_plain none ?_ (hitems ▸ hagree)
  rw [hitems, hinit, hcount]

/-- A message, and the same message without the shortcuts. -/
theorem wndProc_plain {n n' : Notifier} {l : List DevInfo} {m : WindowMessage}
    (hcount : n.hotInitCount = n.items.length)
    (h : ListsAgree pathMatchSpec n.items n.deviceList l)
    (hsafe : ∀ handle, n.items = [handle] →
      WindowSafe pathMatchSpec handle n.deviceList l m)
    (hproc : wndProc pathMatchSpec mark n (m.hotMessage n.syncPattern) = some n') :
    ∃ l', wndProc pathMatchSpec mark (n.plain l) (m.hotMessage none) = some (n'.plain l') ∧
      ListsAgree pathMatchSpec n'.items n'.deviceList l' := by
  cases m with
  | notifyHotHandle =>
    cases hposted : n.posted with
    | nil => simp [WindowMessage.hotMessage, wndProc, hposted] at hproc
    | cons id posted =>
      simp only [WindowMessage.hotMessage, wndProc, hposted, Option.some.injEq] at hproc
      subst hproc
      obtain ⟨l', hsweep, hagree⟩ :=
        @notifyWaiters_plain _ mark { n with posted := posted } _ (some id) hcount h
      refine ⟨l', ?_, hagree⟩
      rw [← hsweep]
      simp only [WindowMessage.hotMessage, wndProc, Notifier.plain, hposted]
  | timerDeviceArrival found =>
    obtain ⟨htimer, rfl⟩ : n.arrivalTimer = true ∧ _ = n' := by
      simpa [WindowMessage.hotMessage, wndProc] using hproc
    obtain ⟨l', hsweep, hagree⟩ := @sync_sweep_plain _ mark
      { n with arrivalTimer := false } _ _ hcount h hsafe
    refine ⟨l', ?_, hagree⟩
    have hplain : wndProc pathMatchSpec mark (n.plain l) (.timerDeviceArrival (found none)) =
        some (notifyWaiters pathMatchSpec mark (lstKSyncDevices pathMatchSpec
          (({ n with arrivalTimer := false } : Notifier).plain l) (found none)) none true) := by
      simp only [wndProc, Notifier.plain, htimer, if_true]
    exact hplain.trans (congrArg some hsweep)
  | timerDevNodesChanged found =>
    obtain ⟨htimer, rfl⟩ : n.devNodesTimer = true ∧ _ = n' := by
      simpa [WindowMessage.hotMessage, wndProc] using hproc
    obtain ⟨l', hsweep, hagree⟩ := @sync_sweep_plain _ mark
      { n with devNodesTimer := false } _ _ hcount h hsafe
    refine ⟨l', ?_, hagree⟩
    have hplain : wndProc pathMatchSpec mark (n.plain l) (.timerDevNodesChanged (found none)) =
        some (notifyWaiters pathMatchSpec mark (lstKSyncDevices pathMatchSpec
          (({ n with devNodesTimer := false } : Notifier).plain l) (found none)) none true) := by
      simp only [wndProc, Notifier.plain, htimer, if_true]
    exact hplain.trans (congrArg some hsweep)
  | timerDeviceRemoval =>
    obtain ⟨htimer, rfl⟩ : n.removalTimer = true ∧ _ = n' := by
      simpa [WindowMessage.hotMessage, wndProc] using hproc
    obtain ⟨l', hsweep, hagree⟩ := @notifyWaiters_plain _ mark
      { n with removalTimer := false } _ none hcount h
    refine ⟨l', ?_, hagree⟩
    rw [← hsweep]
    simp only [WindowMessage.hotMessage, wndProc, Notifier.plain, htimer, if_true]
  | deviceArrival dbccName =>
    cases dbccName <;> cases hproc <;> exact ⟨l, rfl, h⟩
  | deviceRemoveComplete dbccName =>
    cases dbccName with
    | none => cases hproc; exact ⟨l, rfl, h⟩
    | some name =>
      cases name with
      | nil => cases hproc; exact ⟨l, rfl, h⟩
      | cons c name =>
        cases hproc
        exact ⟨_, rfl, h.updateForRemoval (c :: name) hsafe⟩
  | devNodesChanged =>
    cases hproc
    exact ⟨l, rfl, h⟩

end Told

/-! ### The two windows side by side -/

section Lockstep

variable {pathMatchSpec : List Char → List Char → Bool} {mark : Bool}

/-- The same state with another master list. -/
def HotNotifierList.withList (s : HotNotifierList) (l : List DevInfo) : HotNotifierList :=
  { s with deviceList := l }

variable (pathMatchSpec) in
/-- The window without shortcuts differs in its master list only, and the lists agree. -/
structure LockstepInv (s : HotNotifierList × HotNotifierList) : Prop where
  inv : s.1.Inv
  lists : ∃ l, s.2 = s.1.withList l ∧ ListsAgree pathMatchSpec s.1.items s.1.deviceList l

variable (pathMatchSpec) in
/-- The counters stay right, and the lists in agreement. -/
def LockstepSafe (s : HotNotifierList × HotNotifierList) (c : HotCall) : Prop :=
  KeepsCount s.1 c ∧ ShortcutSafe pathMatchSpec s c

variable {s t : HotNotifierList} {l : List DevInfo}

/-- What the window without shortcuts does in one call, and that the lists agree after it. -/
def Follows (pathMatchSpec : List Char → List Char → Bool) (answer : Option HotNotifierList)
    (t : HotNotifierList) : Prop :=
  ∃ l', answer = some (t.withList l') ∧ ListsAgree pathMatchSpec t.items t.deviceList l'

/-- The window of the first handle is made with one list for both. -/
theorem follows_init_create (h : s.Inv) {handle : HotHandle} {found : Enumeration} {refused : Bool}
    (hitems : s.items = [])
    (hmatching : ∀ items, found handle.initPattern = some items →
      ∀ item ∈ items, patternMatches pathMatchSpec handle item.devInfo = true)
    (hinit : s.hotKInit pathMatchSpec mark handle (.created found) refused = some t) :
    Follows pathMatchSpec
      ((s.withList l).hotKInit pathMatchSpec mark handle (.created found) refused) t := by
  have hlock : s.hotLockCount = 0 := by simp [h.counted.hotLockCount, hitems]
  have hsame : (s.withList l).hotKInit pathMatchSpec mark handle (.created found) refused =
      s.hotKInit pathMatchSpec mark handle (.created found) refused := by
    simp [HotNotifierList.hotKInit, HotNotifierList.withList, hlock]
  refine ⟨t.deviceList, hsame.trans hinit, listsAgree_self ?_⟩
  intro only honly el hel hp
  unfold HotNotifierList.hotKInit at hinit
  simp only [hlock, Int.zero_add, if_true] at hinit
  cases hfound : found handle.initPattern with
  | none => simp [hfound] at hinit
  | some items =>
    simp only [hfound, HotNotifierList.sendInitHotHandle, if_true] at hinit
    split at hinit
    · -- refused: nothing is registered
      cases hinit
      simp [HotNotifierList.hotKFreeAll] at honly
    · obtain ⟨n, hn, rfl⟩ := Option.map_eq_some_iff.mp hinit
      obtain ⟨-, rfl⟩ : _ ∧ _ = n := by simpa [wndProc] using hn
      obtain rfl : handle = only := by simpa [hitems] using honly
      obtain ⟨item, hitem, rfl⟩ := List.mem_map.mp hel
      rw [hmatching items hfound item hitem] at hp
      cases hp

/-- A handle is registered beside others. -/
theorem follows_init_more (h : s.Inv) (hlists : ListsAgree pathMatchSpec s.items s.deviceList l)
    {handle : HotHandle} {found : Enumeration} {refused : Bool} (hitems : s.items ≠ [])
    (hsecond : s.items.length = 1 → refused = false → s.deviceList = l)
    (hinit : s.hotKInit pathMatchSpec mark handle (.created found) refused = some t) :
    Follows pathMatchSpec
      ((s.withList l).hotKInit pathMatchSpec mark handle (.created found) refused) t := by
  have hpos : 0 < s.items.length := List.length_pos_iff.mpr hitems
  have hlock := h.counted.hotLockCount
  have hwnd : s.hwnd = true := h.counted.hwnd.mpr hitems
  have hmore : ¬s.hotLockCount + 1 = 1 := by omega
  have hleft : ¬s.hotLockCount + 1 - 1 = 0 := by omega
  unfold HotNotifierList.hotKInit HotNotifierList.sendInitHotHandle at hinit ⊢
  simp only [HotNotifierList.withList, hmore, if_false, hwnd, if_true, hleft] at hinit ⊢
  cases refused with
  | true =>
    cases hinit
    exact ⟨l, rfl, hlists⟩
  | false =>
    simp only [Bool.false_eq_true, if_false] at hinit ⊢
    obtain ⟨n, hn, rfl⟩ := Option.map_eq_some_iff.mp hinit
    obtain ⟨hfree, rfl⟩ : _ ∧ _ = n := by simpa [wndProc] using hn
    have hsame : s.deviceList = l := by
      by_cases hone : s.items.length = 1
      · exact hsecond hone rfl
      · exact (listsAgree_iff_eq hone).mp hlists
    refine ⟨l, ?_, (listsAgree_iff_eq ?_).mpr hsame⟩
    · simp [HotNotifierList.send, wndProc, HotNotifierList.withList]
      exact hfree
    · simp only [List.length_append, List.length_singleton]
      omega

/-- A handle is freed. -/
theorem follows_free (h : s.Inv) (hlists : ListsAgree pathMatchSpec s.items s.deviceList l)
    {handle : HotHandle} (hitem : handle ∈ s.items)
    (hlast : s.items.length = 2 →
      ∀ other, (s.items.filter fun h => h.id ≠ handle.id) = [other] →
        ∀ el ∈ s.deviceList, patternMatches pathMatchSpec other el = false → el.Silent)
    (hfree : s.hotKFree pathMatchSpec mark (some handle.id) = some t) :
    Follows pathMatchSpec ((s.withList l).hotKFree pathMatchSpec mark (some handle.id)) t := by
  have hlength := length_filter_id h.registered hitem
  have hwnd : s.hwnd = true := h.counted.hwnd.mpr (List.ne_nil_of_mem hitem)
  have hlock := h.counted.hotLockCount
  have hmem : ∃ other ∈ s.items, other.id = handle.id := ⟨handle, hitem, rfl⟩
  have hnonneg : ¬s.hotLockCount - 1 < 0 := by omega
  unfold HotNotifierList.hotKFree at hfree ⊢
  simp only [HotNotifierList.withList, hwnd, not_true_eq_false, if_false, if_pos hmem, hnonneg,
    HotNotifierList.send, wndProc, Option.map_some, Option.some.injEq] at hfree ⊢
  subst hfree
  by_cases hzero : s.hotLockCount - 1 = 0
  · -- the last handle: nothing is left
    simp only [hzero, if_true, HotNotifierList.hotKFreeAll]
    exact ⟨[], rfl, rfl⟩
  · simp only [hzero, if_false]
    refine ⟨l, rfl, ?_⟩
    have hsame : s.deviceList = l := (listsAgree_iff_eq (by omega)).mp hlists
    rw [← hsame]
    refine listsAgree_self fun other honly => hlast ?_ other honly
    have hone : (s.items.filter fun h => h.id ≠ handle.id) = [other] := honly
    rw [← hlength, hone]
    rfl

/-- A message of the window. -/
theorem follows_window (h : s.Inv) (hlists : ListsAgree pathMatchSpec s.items s.deviceList l)
    {m : WindowMessage} (hsafe : ∀ handle, s.items = [handle] →
      WindowSafe pathMatchSpec handle s.deviceList l m)
    (hcall : s.window pathMatchSpec mark m = some t) :
    Follows pathMatchSpec ((s.withList l).callPlain pathMatchSpec mark (.window m)) t := by
  unfold HotNotifierList.window at hcall
  split at hcall
  next hwnd =>
    obtain ⟨n, hn, rfl⟩ := Option.map_eq_some_iff.mp hcall
    obtain ⟨l', hplain, hagree⟩ := wndProc_plain h.counted.hotInitCount hlists hsafe hn
    refine ⟨l', ?_, hagree⟩
    have hcount := (wndProc_hotMessage hn).2
    have hproc : (s.withList l).plainProc pathMatchSpec mark m =
        some { n with deviceList := l' } := by
      refine (congrArg (Option.map _) hplain).trans ?_
      change some ({ n with deviceList := l', hotInitCount := s.hotInitCount } : Notifier) = _
      rw [← hcount]
    unfold HotNotifierList.callPlain
    dsimp only
    rw [if_pos (show (s.withList l).hwnd = true from hwnd), hproc]
    rfl
  next => cases hcall

/-- Each step of the window is followed. -/
theorem follows_call (h : s.Inv) (hlists : ListsAgree pathMatchSpec s.items s.deviceList l)
    {c : HotCall} (hsafe : LockstepSafe pathMatchSpec (s, s.withList l) c)
    (hcall : s.call pathMatchSpec mark c = some t) :
    Follows pathMatchSpec ((s.withList l).callPlain pathMatchSpec mark c) t := by
  obtain ⟨hkeeps, hsafe⟩ := hsafe
  cases c with
  | init handle creation refused =>
    cases creation with
    | failed step => exact hkeeps.elim
    | created found =>
      by_cases hitems : s.items = []
      · exact follows_init_create h hitems (hsafe.1 hitems found rfl) hcall
      · exact follows_init_more h hlists hitems hsafe.2 hcall
  | free handle =>
    cases handle with
    | none =>
      cases hcall
      exact ⟨l, rfl, hlists⟩
    | some id =>
      by_cases hwnd : s.hwnd = true
      · obtain ⟨handle, hitem, rfl⟩ := hkeeps hwnd
        exact follows_free h hlists hitem hsafe hcall
      · have hsame : ∀ s : HotNotifierList, ¬s.hwnd = true →
            s.call pathMatchSpec mark (.free (some id)) = some s := by
          intro s hwnd
          simp only [HotNotifierList.call, HotNotifierList.hotKFree, if_pos hwnd]
        cases (hsame s hwnd).symm.trans hcall
        exact ⟨l, hsame (s.withList l) hwnd, hlists⟩
  | freeAll =>
    cases hcall
    -- there is no handle, so there is no window
    have hwnd : ¬s.hwnd = true := fun hwnd => h.counted.hwnd.mp hwnd hkeeps
    refine ⟨l, ?_, ?_⟩
    · simp [HotNotifierList.callPlain, HotNotifierList.call, HotNotifierList.hotKFreeAll,
        HotNotifierList.withList, hwnd]
    · rw [HotNotifierList.hotKFreeAll, if_neg hwnd]
      exact hlists
  | window m => exact follows_window h hlists hsafe hcall

/-- Both windows take the step. -/
theorem hotKPlain_step {s : HotNotifierList × HotNotifierList} {c : HotCall}
    (h : LockstepInv pathMatchSpec s) (hsafe : LockstepSafe pathMatchSpec s c)
    (hcall : (hotK pathMatchSpec mark).step s.1 c = some t) :
    ∃ t', (hotKPlain pathMatchSpec mark).step s.2 c = some t' ∧
      LockstepInv pathMatchSpec (t, t') := by
  obtain ⟨l, hsame, hlists⟩ := h.lists
  have hsafe' : LockstepSafe pathMatchSpec (s.1, s.1.withList l) c := by rwa [← hsame]
  obtain ⟨l', hplain, hagree⟩ := follows_call h.inv hlists hsafe' hcall
  rw [← hsame] at hplain
  exact ⟨t.withList l', hplain, call_inv h.inv hsafe.1 hcall, l', rfl, hagree⟩

theorem lockstep_step {s t : HotNotifierList × HotNotifierList} {c : HotCall}
    (h : LockstepInv pathMatchSpec s) (hsafe : LockstepSafe pathMatchSpec s c)
    (hstep : (lockstep pathMatchSpec mark).step s c = some t) : LockstepInv pathMatchSpec t := by
  obtain ⟨t₁, ht₁, rfl⟩ := Option.map_eq_some_iff.mp hstep
  obtain ⟨t₂, hplain, hinv⟩ := hotKPlain_step h hsafe ht₁
  rw [hplain]
  exact hinv

theorem lockstepInv_start :
    LockstepInv pathMatchSpec (HotNotifierList.start, HotNotifierList.start) :=
  ⟨inv_start, [], rfl, rfl⟩

theorem LockstepInv.notified {s : HotNotifierList × HotNotifierList}
    (h : LockstepInv pathMatchSpec s) : s.1.notified = s.2.notified := by
  obtain ⟨l, hsame, -⟩ := h.lists
  rw [hsame]
  rfl

/-- Both windows take every step of a run. -/
theorem hotKPlain_exec {calls : List HotCall} :
    ∀ {s : HotNotifierList × HotNotifierList} {t : HotNotifierList}, LockstepInv pathMatchSpec s →
      (lockstep pathMatchSpec mark).Throughout (LockstepSafe pathMatchSpec) s calls →
        (hotK pathMatchSpec mark).exec s.1 calls = some t →
          ∃ t', (hotKPlain pathMatchSpec mark).exec s.2 calls = some t' ∧
            t.notified = t'.notified := by
  induction calls with
  | nil =>
    intro s t hinv _ h
    cases h
    exact ⟨s.2, rfl, hinv.notified⟩
  | cons c calls ih =>
    intro s t hinv hsafe h
    obtain ⟨s₁, hs₁, hrest⟩ := Option.bind_eq_some_iff.mp h
    have hstep : (lockstep pathMatchSpec mark).step s c =
        some (s₁, ((hotKPlain pathMatchSpec mark).step s.2 c).getD s.2) :=
      congrArg (Option.map _) hs₁
    obtain ⟨hok, hsafe'⟩ := hsafe _ hstep
    obtain ⟨s₂, hplain, hinv'⟩ := hotKPlain_step hinv hok hs₁
    rw [hplain] at hsafe'
    obtain ⟨t', ht', htold⟩ := ih hinv' hsafe' hrest
    refine ⟨t', ?_, htold⟩
    simp only [Machine.exec, hplain, Option.bind_some]
    exact ht'

/-- In every run whose steps keep the counters right and the lists in agreement, the handles
are told the same as by a window that tests every pattern and lists all devices. -/
theorem notified_lockstep {pathMatchSpec : List Char → List Char → Bool} {mark : Bool}
    {calls : List HotCall}
    (hsafe : (lockstep pathMatchSpec mark).Throughout (LockstepSafe pathMatchSpec)
      (HotNotifierList.start, HotNotifierList.start) calls) :
    (lockstep pathMatchSpec mark).Always (fun s => s.1.notified = s.2.notified)
        (HotNotifierList.start, HotNotifierList.start) calls ∧
      ∀ t, (hotK pathMatchSpec mark).exec HotNotifierList.start calls = some t →
        ∃ t', (hotKPlain pathMatchSpec mark).exec HotNotifierList.start calls = some t' ∧
          t.notified = t'.notified :=
  ⟨hsafe.always (I := LockstepInv pathMatchSpec) (fun _ h => h.notified)
      (fun _ _ _ h hok hstep => lockstep_step h hok hstep) lockstepInv_start,
    fun _ h => hotKPlain_exec lockstepInv_start hsafe h⟩

/-- While there is a single handle, no listing with its pattern leaves a device out. -/
def LeavesNoneOut (s : HotNotifierList) : HotCall → Prop
  | .window m => ∀ handle, s.items = [handle] →
    m.hotMessage (some handle.patternMatch) = m.hotMessage none
  | _ => True

/-- The count of handles matters to what they are told, and not to the list. -/
theorem deviceList_wndProc_hotInitCount (n : Notifier) (k : ℤ) (m : HotMessage) :
    (wndProc pathMatchSpec mark { n with hotInitCount := k } m).map Notifier.deviceList =
      (wndProc pathMatchSpec mark n m).map Notifier.deviceList := by
  cases m with
  | initHotHandle handle =>
    simp only [wndProc]
    split_ifs <;> rfl
  | notifyHotHandle =>
    cases hposted : n.posted with
    | nil => simp only [wndProc, hposted]
    | cons id posted =>
      simp only [wndProc, hposted, Option.map_some, deviceList_notifyWaiters_some]
  | freeHotHandle id =>
    simp only [wndProc]
    split_ifs <;> rfl
  | timerDeviceArrival slave =>
    simp only [wndProc]
    split_ifs
    · cases slave <;> simp only [Option.map_some, deviceList_notifyWaiters_none] <;> rfl
    · rfl
  | timerDevNodesChanged slave =>
    simp only [wndProc]
    split_ifs
    · cases slave <;> simp only [Option.map_some, deviceList_notifyWaiters_none] <;> rfl
    · rfl
  | timerDeviceRemoval =>
    simp only [wndProc]
    split_ifs
    · simp only [Option.map_some, deviceList_notifyWaiters_none]
    · rfl
  | deviceArrival dbccName => cases dbccName <;> rfl
  | deviceRemoveComplete dbccName =>
    cases dbccName with
    | none => rfl
    | some name => cases name <;> rfl
  | devNodesChanged => rfl

theorem deviceList_callPlain (h : s.Inv) {c : HotCall} (hall : LeavesNoneOut s c) :
    (s.callPlain pathMatchSpec mark c).map (·.deviceList) =
      (s.call pathMatchSpec mark c).map (·.deviceList) := by
  cases c with
  | init | free | freeAll => rfl
  | window m =>
    have hmessage : m.hotMessage s.syncPattern = m.hotMessage none := by
      unfold Notifier.syncPattern
      split_ifs with hone
      · have hlength : s.items.length = 1 := by
          have hcount := h.counted.hotInitCount
          omega
        obtain ⟨handle, hitems⟩ := List.length_eq_one_iff.mp hlength
        rw [hitems]
        exact hall handle hitems
      · rfl
    have hlist := @deviceList_wndProc_hotInitCount pathMatchSpec mark s.toNotifier 0
      (m.hotMessage none)
    unfold HotNotifierList.callPlain HotNotifierList.call HotNotifierList.window
      HotNotifierList.send Notifier.plainProc
    dsimp only
    rw [hmessage]
    split_ifs
    · simp only [Option.map_map]
      exact hlist
    · rfl

/-- Where no listing leaves a device out, the lists are the same, so that nothing is asked when
a second handle is registered. -/
theorem lockstepSafe_of_leavesNoneOut {calls : List HotCall}
    (h : (lockstep pathMatchSpec mark).Throughout
      (fun s c => LeavesNoneOut s.1 c ∧
        (s.1.deviceList = s.2.deviceList → LockstepSafe pathMatchSpec s c))
      (HotNotifierList.start, HotNotifierList.start) calls) :
    (lockstep pathMatchSpec mark).Throughout (LockstepSafe pathMatchSpec)
      (HotNotifierList.start, HotNotifierList.start) calls := by
  refine h.imp (I := fun s => LockstepInv pathMatchSpec s ∧ s.1.deviceList = s.2.deviceList)
    ?_ ?_ ⟨lockstepInv_start, rfl⟩
  · exact fun s c hs hok => hok.2 hs.2
  · intro s c t hs hok hstep
    obtain ⟨t₁, ht₁, rfl⟩ := Option.map_eq_some_iff.mp hstep
    obtain ⟨t₂, ht₂, hinv⟩ := hotKPlain_step hs.1 (hok.2 hs.2) ht₁
    rw [ht₂]
    refine ⟨hinv, ?_⟩
    obtain ⟨l, hl, -⟩ := hs.1.lists
    have hsame : s.2 = s.1 := by
      rw [hl, HotNotifierList.withList]
      have hlist : s.1.deviceList = l := hs.2.trans (congrArg (·.deviceList) hl)
      rw [← hlist]
    have hlist := @deviceList_callPlain pathMatchSpec mark _ hs.1.inv c hok.1
    have hplain : s.1.callPlain pathMatchSpec mark c = some t₂ := hsame ▸ ht₂
    have hcall : s.1.call pathMatchSpec mark c = some t₁ := ht₁
    rw [hplain, hcall] at hlist
    exact (Option.some.inj hlist).symm

end Lockstep

/-! ### A handle that is left alone -/

/-- A handle for the devices of one class. -/
def classHandle (id : ℕ) (classGUID : List Char) : HotHandle :=
  { aHotHandle id with
    flags := 0#32
    patternMatch := ⟨[], [], classGUID⟩ }

/-- What `LstK_InitInternal` finds with a class, when there is one device. -/
def findADevice : Enumeration := fun pattern =>
  some ([aDevice].filter fun item =>
    applyPatternMatch matchExactly ((pattern.map PatternMatch.classGUID).getD []) item.classGUID)

/-- Two handles, of which the one that matches the device is freed, and a timer. -/
def freeThenSync : List HotCall :=
  [.init (classHandle 1 ['C']) (.created findADevice) false,
    .init (classHandle 2 ['D']) (.created findADevice) false,
    .free (some 1),
    .window (.deviceArrival (some ['B'])),
    .window (.timerDeviceArrival findADevice)]

/-- The handle that remains is told that a device it does not match was removed, while the
device is present. -/
theorem not_notified_freeThenSync :
    ∃ s, (lockstep matchExactly false).exec (HotNotifierList.start, HotNotifierList.start)
        freeThenSync = some s ∧
      s.1.notified = [.onHotPlug 2 { aDevice with connected := false } SyncFlag.removed] ∧
      s.2.notified = [] :=
  ⟨_, rfl, by decide, by decide⟩

/-- A single handle, a timer that finds a device, and a second handle. -/
def initThenSync : List HotCall :=
  [.init (classHandle 1 ['C']) (.created fun _ => some []) false,
    .window (.deviceArrival (some ['A'])),
    .window (.timerDeviceArrival findADevice),
    .init (classHandle 2 ['D']) (.created findADevice) false]

/-- What the handles are told of the device, which no listing has left out. -/
theorem notified_lockstep_initThenSync :
    (lockstep matchExactly false).Always (fun s => s.1.notified = s.2.notified)
        (HotNotifierList.start, HotNotifierList.start) initThenSync ∧
      ∀ t, (hotK matchExactly false).exec HotNotifierList.start initThenSync = some t →
        ∃ t', (hotKPlain matchExactly false).exec HotNotifierList.start initThenSync = some t' ∧
          t.notified = t'.notified := by
  refine notified_lockstep (lockstepSafe_of_leavesNoneOut ?_)
  refine Machine.Throughout.cons rfl ⟨trivial, fun _ => ⟨trivial, ?_, fun h => by cases h⟩⟩ ?_
  · rintro - found hfound items hitems item hitem
    cases hfound
    cases hitems
    cases hitem
  refine Machine.Throughout.cons rfl ⟨fun _ _ => rfl, fun _ => ⟨trivial, fun _ _ => trivial⟩⟩ ?_
  refine Machine.Throughout.cons rfl ⟨fun handle hitems => ?_, fun _ => ⟨trivial,
    fun handle hitems => ?_⟩⟩ ?_
  · cases hitems
    rfl
  · cases hitems
    refine ⟨rfl, fun items hitems => ?_⟩
    cases hitems
    intro a ha b hb _
    cases List.mem_singleton.mp ha
    cases List.mem_singleton.mp hb
    rfl
  · refine Machine.Throughout.cons rfl ⟨trivial, fun hlist => ⟨trivial, ?_, fun _ _ => hlist⟩⟩
      trivial
    rintro ⟨⟩

end LibusbK
