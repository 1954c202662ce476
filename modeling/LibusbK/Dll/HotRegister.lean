import LibusbK.Dll.HotNotify

/-!
# Registering and freeing hot-plug handles

`HotK_Init`, `HotK_Free` and `HotK_FreeAll` (`lusbk_hot_plug.c`) around the notifier
window.  `HotLockCount` is counted by the callers and decides when the window is made
and destroyed; `HotInitCount` is counted by the window.

The outcome of every call to the system is part of the call: which step of the creation
of the window fails, and whether the window refuses a handle.  `SendMessage` to a window
that does not exist returns 0, which `HotK_Init` takes for `ERROR_SUCCESS`.

## Main definitions

* `HotNotifierList` -- `g_HotNotifierList`.
* `hotKInit`, `hotKFree`, `hotKFreeAll`, `hotK` -- the three functions, and the machine
  they form with the messages of the window.
* `CountsHandles` -- both counters count the registered handles.
* `KeepsCount` -- the calls after which they still do.

## Main results

* `counted_iff` -- the counters are right all along a run exactly when every call keeps
  them.
-/

namespace LibusbK

/-! ### The notifier list -/

/-- `g_HotNotifierList`. -/
structure HotNotifierList extends Notifier where
  hotLockCount : ℤ
  /-- `Hwnd` is set. -/
  hwnd : Bool
  /-- `DeviceList` is set. -/
  masterList : Bool
deriving DecidableEq

/-- The list before the first call. -/
def HotNotifierList.start : HotNotifierList where
  toNotifier := Notifier.create []
  hotLockCount := 0
  hwnd := false
  masterList := false

/-- What `LstK_InitInternal` finds with a pattern or without one, when it succeeds. -/
abbrev Enumeration := Option PatternMatch → Option (List TempItem)

/-- The step of `HotK_Init` that fails: making the master list or the thread, starting the
thread, waiting for its window. -/
inductive CreateStep
  | initInternal
  | createThread
  | resumeThread
  | waitHwnd
deriving DecidableEq

/-- How the creation of the window ends. -/
inductive Creation
  | failed (step : CreateStep)
  | created (found : Enumeration)

/-- The messages that come to the window by themselves. -/
inductive WindowMessage
  | notifyHotHandle
  | timerDeviceArrival (found : Enumeration)
  | timerDevNodesChanged (found : Enumeration)
  | timerDeviceRemoval
  | deviceArrival (dbccName : Option (List Char))
  | deviceRemoveComplete (dbccName : Option (List Char))
  | devNodesChanged

/-- The message of the window, when the devices are listed with a pattern. -/
def WindowMessage.hotMessage (pattern : Option PatternMatch) : WindowMessage → HotMessage
  | notifyHotHandle => .notifyHotHandle
  | timerDeviceArrival found => .timerDeviceArrival (found pattern)
  | timerDevNodesChanged found => .timerDevNodesChanged (found pattern)
  | timerDeviceRemoval => .timerDeviceRemoval
  | deviceArrival dbccName => .deviceArrival dbccName
  | deviceRemoveComplete dbccName => .deviceRemoveComplete dbccName
  | devNodesChanged => .devNodesChanged

/-- The calls, and the messages of the window.  The handle of `HotK_Free` is absent when
the pointer is not one into the pool. -/
inductive HotCall
  | init (handle : HotHandle) (creation : Creation) (refused : Bool)
  | free (handle : Option ℕ)
  | freeAll
  | window (m : WindowMessage)

/-! ### The calls -/

section Calls

variable (pathMatchSpec : List Char → List Char → Bool) (mark : Bool)

/-- The pattern the master list is made with. -/
def HotHandle.initPattern (handle : HotHandle) : Option PatternMatch :=
  if handle.patternMatch.deviceInterfaceGUID = [] ∧ handle.patternMatch.deviceID = [] ∧
      handle.patternMatch.classGUID = [] then none
  else some handle.patternMatch

/-- The pattern a timer lists the devices with. -/
def Notifier.syncPattern (s : Notifier) : Option PatternMatch :=
  if s.hotInitCount = 1 then s.items.head?.map HotHandle.patternMatch else none

namespace HotNotifierList

/-- A message handled by `h_WndProc`. -/
def send (s : HotNotifierList) (m : HotMessage) : Option HotNotifierList :=
  (wndProc pathMatchSpec mark s.toNotifier m).map fun notifier => { s with toNotifier := notifier }

/-- `HotK_FreeAll`. -/
def hotKFreeAll (s : HotNotifierList) : HotNotifierList :=
  if s.hwnd then
    -- `WM_DESTROY`
    { s with
      items := []
      deviceList := []
      masterList := false
      hwnd := false
      posted := []
      arrivalTimer := false
      removalTimer := false
      devNodesTimer := false }
  else s

/-- `WM_USER_INIT_HOT_HANDLE` and what `HotK_Init` does with the answer. -/
def sendInitHotHandle (s : HotNotifierList) (handle : HotHandle) (refused : Bool) :
    Option HotNotifierList :=
  if s.hwnd then
    if refused then
      let s : HotNotifierList := { s with hotLockCount := s.hotLockCount - 1 }
      some (if s.hotLockCount = 0 then s.hotKFreeAll else s)
    else s.send pathMatchSpec mark (.initHotHandle handle)
  else if refused then none
  else some s

/-- `HotK_Init`. -/
def hotKInit (s : HotNotifierList) (handle : HotHandle) (creation : Creation) (refused : Bool) :
    Option HotNotifierList :=
  let s : HotNotifierList := { s with hotLockCount := s.hotLockCount + 1 }
  if s.hotLockCount = 1 then
    match creation with
    | .failed _ =>
      -- `Error:`
      some { s with
        deviceList := []
        masterList := false }
    | .created found =>
      match found handle.initPattern with
      | none => none
      | some found =>
        let s : HotNotifierList := { s with
          deviceList := found.map TempItem.devInfo
          masterList := true
          hwnd := true }
        s.sendInitHotHandle pathMatchSpec mark handle refused
  else
    match creation with
    | .failed _ => none
    | .created _ => s.sendInitHotHandle pathMatchSpec mark handle refused

/-- `HotK_Free`. -/
def hotKFree (s : HotNotifierList) : Option ℕ → Option HotNotifierList
  | none => some s
  | some id =>
    if ¬s.hwnd then some s
    else
      let locked : HotNotifierList := { s with hotLockCount := s.hotLockCount - 1 }
      if locked.hotLockCount < 0 then some s
      else if ∃ handle ∈ s.items, handle.id = id then
        (locked.send pathMatchSpec mark (.freeHotHandle id)).map fun s =>
          if s.hotLockCount = 0 then s.hotKFreeAll else s
      else
        -- `PoolHandle_Inc_HotK` fails: the handle is freed already
        some locked

/-- A message of the window. -/
def window (s : HotNotifierList) (m : WindowMessage) : Option HotNotifierList :=
  if s.hwnd then s.send pathMatchSpec mark (m.hotMessage s.syncPattern) else none

/-- A call, or a message of the window. -/
def call (s : HotNotifierList) : HotCall → Option HotNotifierList
  | .init handle creation refused => s.hotKInit pathMatchSpec mark handle creation refused
  | .free handle => s.hotKFree pathMatchSpec mark handle
  | .freeAll => some s.hotKFreeAll
  | .window m => s.window pathMatchSpec mark m

end HotNotifierList

/-- The hot-plug functions and the notifier window. -/
def hotK : Machine HotNotifierList HotCall := ⟨HotNotifierList.call pathMatchSpec mark⟩

end Calls

/-! ### What the counters count -/

/-- Both counters are the number of the registered handles, and there are a window and a
master list exactly when there is a handle. -/
structure CountsHandles (s : HotNotifierList) : Prop where
  hotLockCount : s.hotLockCount = s.items.length
  hotInitCount : s.hotInitCount = s.items.length
  hwnd : s.hwnd = true ↔ s.items ≠ []
  masterList : s.masterList = true ↔ s.items ≠ []

/-- The creation of the window does not fail, a handle that is freed is registered, and all
handles are freed together only when there is none. -/
def KeepsCount (s : HotNotifierList) : HotCall → Prop
  | .init _ (.failed _) _ => False
  | .free (some id) => s.hwnd = true → ∃ handle ∈ s.items, handle.id = id
  | .freeAll => s.items = []
  | _ => True

/-! ### What one call does -/

section Step

variable {pathMatchSpec : List Char → List Char → Bool} {mark : Bool} {s s' : HotNotifierList}

theorem lstKSyncDevices_items (n : Notifier) (slave : Option (List TempItem)) :
    (lstKSyncDevices pathMatchSpec n slave).items = n.items ∧
      (lstKSyncDevices pathMatchSpec n slave).hotInitCount = n.hotInitCount := by
  cases slave <;> exact ⟨rfl, rfl⟩

/-- A message that comes by itself registers and frees no handle. -/
theorem wndProc_hotMessage {n n' : Notifier} {pattern : Option PatternMatch} {m : WindowMessage}
    (h : wndProc pathMatchSpec mark n (m.hotMessage pattern) = some n') :
    n'.items = n.items ∧ n'.hotInitCount = n.hotInitCount := by
  cases m with
  | notifyHotHandle =>
    cases hposted : n.posted with
    | nil => simp [WindowMessage.hotMessage, wndProc, hposted] at h
    | cons id posted =>
      simp only [WindowMessage.hotMessage, wndProc, hposted, Option.some.injEq] at h
      subst h
      exact ⟨rfl, rfl⟩
  | timerDeviceArrival found =>
    obtain ⟨-, rfl⟩ : _ ∧ _ = n' := by simpa [WindowMessage.hotMessage, wndProc] using h
    exact lstKSyncDevices_items _ _
  | timerDevNodesChanged found =>
    obtain ⟨-, rfl⟩ : _ ∧ _ = n' := by simpa [WindowMessage.hotMessage, wndProc] using h
    exact lstKSyncDevices_items _ _
  | timerDeviceRemoval =>
    obtain ⟨-, rfl⟩ : _ ∧ _ = n' := by simpa [WindowMessage.hotMessage, wndProc] using h
    exact ⟨rfl, rfl⟩
  | deviceArrival dbccName => cases dbccName <;> cases h <;> exact ⟨rfl, rfl⟩
  | deviceRemoveComplete dbccName =>
    cases dbccName with
    | none => cases h; exact ⟨rfl, rfl⟩
    | some name =>
      cases name with
      | nil => cases h; exact ⟨rfl, rfl⟩
      | cons c name => cases h; exact ⟨rfl, rfl⟩
  | devNodesChanged => cases h; exact ⟨rfl, rfl⟩

/-- The handle that is being registered is counted by `HotLockCount` already. -/
structure Locked (s : HotNotifierList) : Prop where
  hotLockCount : s.hotLockCount = s.items.length + 1
  hotInitCount : s.hotInitCount = s.items.length
  hwnd : s.hwnd = true
  masterList : s.masterList = true

/-- Freeing all handles when none is counted. -/
theorem counted_freeAll (hlock : s.hotLockCount = 0) (hinit : s.hotInitCount = 0)
    (hwnd : s.hwnd = true) : CountsHandles s.hotKFreeAll := by
  unfold HotNotifierList.hotKFreeAll
  rw [if_pos hwnd]
  exact ⟨by simpa using hlock, by simpa using hinit, by simp, by simp⟩

/-- A handle that is refused is counted no more, one that is registered by both counters. -/
theorem Locked.sendInitHotHandle (h : Locked s) {handle : HotHandle} {refused : Bool}
    (hsend : s.sendInitHotHandle pathMatchSpec mark handle refused = some s') :
    CountsHandles s' := by
  have hlock := h.hotLockCount
  have hinit := h.hotInitCount
  unfold HotNotifierList.sendInitHotHandle at hsend
  rw [if_pos h.hwnd] at hsend
  cases refused with
  | true =>
    simp only [if_true, Option.some.injEq] at hsend
    subst hsend
    by_cases hzero : s.hotLockCount - 1 = 0
    · rw [if_pos hzero]
      exact counted_freeAll hzero (by change s.hotInitCount = 0; omega) h.hwnd
    · rw [if_neg hzero]
      have hitems : s.items ≠ [] := by
        intro hnil
        rw [hnil, List.length_nil] at hlock
        omega
      refine ⟨?_, hinit, iff_of_true h.hwnd hitems, iff_of_true h.masterList hitems⟩
      change s.hotLockCount - 1 = s.items.length
      omega
  | false =>
    obtain ⟨n, hn, rfl⟩ := Option.map_eq_some_iff.mp hsend
    obtain ⟨-, rfl⟩ : _ ∧ _ = n := by simpa [wndProc] using hn
    refine ⟨?_, ?_, by simpa using h.hwnd, by simpa using h.masterList⟩
    · simpa using hlock
    · simpa using hinit

/-- Registering a handle keeps the counters when the window is not to be made, or is made. -/
theorem counted_init (h : CountsHandles s) {handle : HotHandle} {found : Enumeration}
    {refused : Bool}
    (hinit : s.hotKInit pathMatchSpec mark handle (.created found) refused = some s') :
    CountsHandles s' := by
  unfold HotNotifierList.hotKInit at hinit
  dsimp only at hinit
  split at hinit
  next hone =>
    split at hinit
    next => cases hinit
    next found _ =>
      refine Locked.sendInitHotHandle ?_ hinit
      exact ⟨by simp [h.hotLockCount], h.hotInitCount, rfl, rfl⟩
  next hone =>
    -- a handle is registered, so there is a window
    have hitems : s.items ≠ [] := by
      intro hnil
      have hlock := h.hotLockCount
      rw [hnil] at hlock
      exact hone (by simp [hlock])
    refine Locked.sendInitHotHandle ?_ hinit
    exact ⟨by simp [h.hotLockCount], h.hotInitCount, h.hwnd.mpr hitems, h.masterList.mpr hitems⟩

/-- A window whose creation fails is counted all the same. -/
theorem hotLockCount_init_failed (h : CountsHandles s) {handle : HotHandle} {step : CreateStep}
    {refused : Bool}
    (hinit : s.hotKInit pathMatchSpec mark handle (.failed step) refused = some s') :
    s'.hotLockCount = s'.items.length + 1 := by
  unfold HotNotifierList.hotKInit at hinit
  dsimp only at hinit
  split at hinit
  · cases hinit
    simp [h.hotLockCount]
  · cases hinit

/-- A slot holds one handle. -/
theorem length_filter_id {n : Notifier} (hreg : n.Registered) {handle : HotHandle}
    (hitem : handle ∈ n.items) :
    (n.items.filter fun other => other.id ≠ handle.id).length + 1 = n.items.length := by
  have hone : n.items.filter (fun other => other.id = handle.id) = [handle] := by
    rw [← hreg.filter_eq hitem]
    refine List.filter_congr fun other hother => decide_eq_decide.mpr ?_
    exact ⟨fun hid => hreg.eq_of_id hother hitem hid, fun heq => by rw [heq]⟩
  have hsplit := List.length_eq_length_filter_add (l := n.items) fun other => other.id = handle.id
  rw [hone, List.length_singleton] at hsplit
  rw [Nat.add_comm] at hsplit
  simpa using hsplit.symm

/-- What a call does to the registered handles: some are freed, or one is registered in a
slot that was free. -/
def ItemsStep (items items' : List HotHandle) : Prop :=
  items'.Sublist items ∨
    ∃ handle, items' = items ++ [handle] ∧ ∀ other ∈ items, other.id ≠ handle.id

theorem hotKFreeAll_items (s : HotNotifierList) : s.hotKFreeAll.items.Sublist s.items := by
  unfold HotNotifierList.hotKFreeAll
  split
  · exact List.nil_sublist _
  · exact List.Sublist.refl _

theorem itemsStep_sendInitHotHandle {handle : HotHandle} {refused : Bool}
    (h : s.sendInitHotHandle pathMatchSpec mark handle refused = some s') :
    ItemsStep s.items s'.items := by
  unfold HotNotifierList.sendInitHotHandle at h
  split at h
  · split at h
    · cases h
      dsimp only
      split
      · exact Or.inl (hotKFreeAll_items _)
      · exact Or.inl (List.Sublist.refl _)
    · obtain ⟨n, hn, rfl⟩ := Option.map_eq_some_iff.mp h
      obtain ⟨hfree, rfl⟩ : _ ∧ _ = n := by simpa [wndProc] using hn
      exact Or.inr ⟨handle, rfl, hfree⟩
  · split at h
    · cases h
    · cases h
      exact Or.inl (List.Sublist.refl _)

theorem itemsStep_free {handle : Option ℕ} (h : s.hotKFree pathMatchSpec mark handle = some s') :
    ItemsStep s.items s'.items := by
  have hsame : ItemsStep s.items s.items := Or.inl (List.Sublist.refl _)
  cases handle with
  | none =>
    cases h
    exact hsame
  | some id =>
    unfold HotNotifierList.hotKFree at h
    dsimp only at h
    split at h
    · cases h
      exact hsame
    · split at h
      · cases h
        exact hsame
      · split at h
        next hmem =>
          obtain ⟨t, ht, rfl⟩ := Option.map_eq_some_iff.mp h
          obtain ⟨n, hn, rfl⟩ := Option.map_eq_some_iff.mp ht
          simp only [wndProc, if_pos hmem, Option.some.injEq] at hn
          subst hn
          left
          dsimp only
          split
          · exact (hotKFreeAll_items _).trans List.filter_sublist
          · exact List.filter_sublist
        · cases h
          exact hsame

theorem itemsStep_call {c : HotCall} (h : s.call pathMatchSpec mark c = some s') :
    ItemsStep s.items s'.items := by
  cases c with
  | init handle creation refused =>
    change s.hotKInit pathMatchSpec mark handle creation refused = some s' at h
    unfold HotNotifierList.hotKInit at h
    dsimp only at h
    split at h
    · split at h
      · cases h
        exact Or.inl (List.Sublist.refl _)
      · split at h
        · cases h
        · have hstep := itemsStep_sendInitHotHandle h
          exact hstep
    · split at h
      · cases h
      · have hstep := itemsStep_sendInitHotHandle h
        exact hstep
  | free handle => exact itemsStep_free h
  | freeAll =>
    cases h
    exact Or.inl (hotKFreeAll_items s)
  | window m =>
    change s.window pathMatchSpec mark m = some s' at h
    unfold HotNotifierList.window at h
    split at h
    · obtain ⟨n, hn, rfl⟩ := Option.map_eq_some_iff.mp h
      obtain ⟨hitems, -⟩ := wndProc_hotMessage hn
      exact Or.inl (by rw [hitems])
    · cases h

theorem ItemsStep.registered {n n' : Notifier} (h : ItemsStep n.items n'.items)
    (hreg : n.Registered) : n'.Registered := by
  rcases h with hsub | ⟨handle, hitems, hfresh⟩
  · exact List.Nodup.sublist (hsub.map HotHandle.id) hreg
  · unfold Notifier.Registered
    rw [hitems, List.map_append, List.map_singleton]
    refine List.nodup_append.mpr ⟨hreg, List.nodup_singleton _, ?_⟩
    intro id hid id' hid'
    obtain ⟨other, hother, rfl⟩ := List.mem_map.mp hid
    rw [List.mem_singleton.mp hid']
    exact hfresh other hother

/-- The state between two calls. -/
structure HotNotifierList.Inv (s : HotNotifierList) : Prop where
  counted : CountsHandles s
  registered : s.Registered

theorem inv_start : HotNotifierList.start.Inv :=
  ⟨⟨rfl, rfl, by decide, by decide⟩, by decide⟩

/-- Freeing a registered handle. -/
theorem counted_free (h : s.Inv) {handle : HotHandle} (hitem : handle ∈ s.items)
    (hfree : s.hotKFree pathMatchSpec mark (some handle.id) = some s') : CountsHandles s' := by
  have hlength := length_filter_id h.registered hitem
  have hwnd : s.hwnd = true := h.counted.hwnd.mpr (List.ne_nil_of_mem hitem)
  have hlock := h.counted.hotLockCount
  have hinit := h.counted.hotInitCount
  have hmem : ∃ other ∈ s.items, other.id = handle.id := ⟨handle, hitem, rfl⟩
  unfold HotNotifierList.hotKFree at hfree
  simp only [hwnd, not_true_eq_false, if_false, if_pos hmem] at hfree
  rw [if_neg (by omega)] at hfree
  obtain ⟨t, ht, rfl⟩ := Option.map_eq_some_iff.mp hfree
  obtain ⟨n, hn, rfl⟩ := Option.map_eq_some_iff.mp ht
  simp only [wndProc, if_pos hmem, Option.some.injEq] at hn
  subst hn
  by_cases hzero : s.hotLockCount - 1 = 0
  · rw [if_pos hzero]
    refine counted_freeAll hzero ?_ rfl
    change s.hotInitCount - 1 = 0
    omega
  · rw [if_neg hzero]
    have hitems : (s.items.filter fun other => other.id ≠ handle.id) ≠ [] := by
      intro hnil
      rw [hnil, List.length_nil] at hlength
      omega
    refine ⟨?_, ?_, iff_of_true rfl hitems, iff_of_true ?_ hitems⟩
    · change s.hotLockCount - 1 = ((s.items.filter fun other => other.id ≠ handle.id).length : ℤ)
      omega
    · change s.hotInitCount - 1 = ((s.items.filter fun other => other.id ≠ handle.id).length : ℤ)
      omega
    · exact h.counted.masterList.mpr (List.ne_nil_of_mem hitem)

/-- A call that keeps the counters. -/
theorem call_counted (h : s.Inv) {c : HotCall} (hok : KeepsCount s c)
    (hcall : s.call pathMatchSpec mark c = some s') : CountsHandles s' := by
  cases c with
  | init handle creation refused =>
    cases creation with
    | failed step => exact hok.elim
    | created found => exact counted_init h.counted hcall
  | free handle =>
    cases handle with
    | none =>
      cases hcall
      exact h.counted
    | some id =>
      by_cases hwnd : s.hwnd = true
      · obtain ⟨handle, hitem, rfl⟩ := hok hwnd
        exact counted_free h hitem hcall
      · simp only [HotNotifierList.call, HotNotifierList.hotKFree, if_pos hwnd] at hcall
        cases hcall
        exact h.counted
  | freeAll =>
    cases hcall
    -- there is no handle, so there is no window
    have hwnd : ¬s.hwnd = true := fun hwnd => h.counted.hwnd.mp hwnd hok
    rw [HotNotifierList.hotKFreeAll, if_neg hwnd]
    exact h.counted
  | window m =>
    change s.window pathMatchSpec mark m = some s' at hcall
    unfold HotNotifierList.window at hcall
    split at hcall
    · obtain ⟨n, hn, rfl⟩ := Option.map_eq_some_iff.mp hcall
      obtain ⟨hitems, hcount⟩ := wndProc_hotMessage hn
      refine ⟨?_, ?_, ?_, ?_⟩
      · exact h.counted.hotLockCount.trans (by rw [hitems])
      · exact hcount.trans (h.counted.hotInitCount.trans (by rw [hitems]))
      · exact h.counted.hwnd.trans (by rw [hitems])
      · exact h.counted.masterList.trans (by rw [hitems])
    · cases hcall

/-- A call that leaves the counters right. -/
theorem keepsCount_of_counted (h : s.Inv) {c : HotCall}
    (hcall : s.call pathMatchSpec mark c = some s') (hafter : CountsHandles s') :
    KeepsCount s c := by
  cases c with
  | init handle creation refused =>
    cases creation with
    | failed step =>
      change s.hotKInit pathMatchSpec mark handle (.failed step) refused = some s' at hcall
      have hlock := hotLockCount_init_failed h.counted hcall
      rw [hafter.hotLockCount] at hlock
      omega
    | created found => trivial
  | free handle =>
    cases handle with
    | none => trivial
    | some id =>
      intro hwnd
      by_contra hfreed
      have hitems : s.items ≠ [] := h.counted.hwnd.mp hwnd
      have hpos : 0 < s.items.length := List.length_pos_iff.mpr hitems
      have hlock := h.counted.hotLockCount
      simp only [HotNotifierList.call, HotNotifierList.hotKFree, hwnd, not_true_eq_false,
        if_false, if_neg hfreed] at hcall
      rw [if_neg (by omega)] at hcall
      cases hcall
      have hless := hafter.hotLockCount
      change s.hotLockCount - 1 = (s.items.length : ℤ) at hless
      omega
  | freeAll =>
    by_contra hitems
    cases hcall
    have hinit := hafter.hotInitCount
    rw [HotNotifierList.hotKFreeAll, if_pos (h.counted.hwnd.mpr hitems)] at hinit
    change s.hotInitCount = 0 at hinit
    rw [h.counted.hotInitCount] at hinit
    exact hitems (List.length_eq_zero_iff.mp (by omega))
  | window m => trivial

theorem call_inv (h : s.Inv) {c : HotCall} (hok : KeepsCount s c)
    (hcall : s.call pathMatchSpec mark c = some s') : s'.Inv :=
  ⟨call_counted h hok hcall, (itemsStep_call hcall).registered h.registered⟩

end Step

/-! ### Runs -/

/-- The counters are right after every call of a run exactly when in every call the creation
of the window does not fail, the handle that is freed is registered, and all handles are
freed together only when there is none. -/
theorem counted_iff (pathMatchSpec : List Char → List Char → Bool) (mark : Bool)
    (calls : List HotCall) :
    (hotK pathMatchSpec mark).Always CountsHandles HotNotifierList.start calls ↔
      (hotK pathMatchSpec mark).Throughout KeepsCount HotNotifierList.start calls :=
  Machine.always_iff_throughout (I := HotNotifierList.Inv) (fun _ h => h.counted)
    (fun _ _ _ h hok hcall => call_inv h hok hcall)
    (fun _ _ _ h hcall hafter => keepsCount_of_counted h hcall hafter) inv_start

/-- A device list that cannot be made once, and a handle registered when it could be. -/
def initAfterFailure : List HotCall :=
  [.init (aHotHandle 1) (.failed .initInternal) false,
    .init (aHotHandle 1) (.created fun _ => some [aDevice]) false]

/-- Two handles, of which one is freed twice. -/
def freeTwice : List HotCall :=
  [.init (aHotHandle 1) (.created fun _ => some [aDevice]) false,
    .init (aHotHandle 2) (.created fun _ => some [aDevice]) false,
    .free (some 1), .free (some 1), .free (some 2)]

/-- One handle, and all of them freed together. -/
def freeAllOfOne : List HotCall :=
  [.init (aHotHandle 1) (.created fun _ => some [aDevice]) false, .freeAll,
    .init (aHotHandle 1) (.created fun _ => some [aDevice]) false]

/-- After each of these runs `HotK_Init` registers no handle, or `HotK_Free` frees none,
and the counters are wrong. -/
theorem not_counted_hotK :
    (∃ s, (hotK matchExactly false).exec HotNotifierList.start initAfterFailure = some s ∧
        s.items = [] ∧ ¬CountsHandles s) ∧
      (∃ s, (hotK matchExactly false).exec HotNotifierList.start freeTwice = some s ∧
        s.items = [aHotHandle 2] ∧ ¬CountsHandles s) ∧
      (∃ s, (hotK matchExactly false).exec HotNotifierList.start freeAllOfOne = some s ∧
        s.items = [] ∧ ¬CountsHandles s) := by
  refine ⟨⟨_, rfl, rfl, fun h => ?_⟩, ⟨_, rfl, by decide, fun h => ?_⟩, ⟨_, rfl, rfl, fun h => ?_⟩⟩
  · exact absurd h.hotLockCount (by decide)
  · exact absurd h.hotLockCount (by decide)
  · exact absurd h.hotLockCount (by decide)

end LibusbK
