import LibusbK.Dll.HotBroadcast
import LibusbK.Dll.HotShortcut

/-!
# Which devices the window hears of

The window hears of the removal of a device by its interface only if the interface is
registered.  Registering a handle and the timer of the device nodes see to that; the timer of an
arrival lists new devices, and does not (`lusbk_hot_plug.c`).

## Main definitions

* `Uncovered` — an element that a handle matches, and whose interface is not in the list.
* `HotSystem.Covered` — there is no such element in the master list.
* `ListsUncovered` — the timer of an arrival lists one.

## Main result

* `covered_iff` — where no registration is refused and the counters count the handles, no
  element is uncovered all along a run exactly when that timer never lists one.
-/

namespace LibusbK

/-- What decides which handles match an element, and which interface it is of. -/
def DevInfo.interfaceKey (el : DevInfo) : List Char × List Char × List Char :=
  (el.deviceID, el.deviceInterfaceGUID, el.classGUID)

section Covered

variable (pathMatchSpec : List Char → List Char → Bool)

/-- The element matches a handle, and its interface is not in the list. -/
def Uncovered (items : List HotHandle) (b : Broadcasts) (el : DevInfo) : Prop :=
  (∃ handle ∈ items, patternMatches pathMatchSpec handle el = true) ∧
    ∃ guid ∈ el.interfaceGuid, guid ∉ b.guids

instance (items : List HotHandle) (b : Broadcasts) (el : DevInfo) :
    Decidable (Uncovered pathMatchSpec items b el) :=
  inferInstanceAs (Decidable (_ ∧ _))

/-- **Every device is covered**: the interface of every element that matches a handle is
registered. -/
def HotSystem.Covered (s : HotSystem) : Prop :=
  ∀ el ∈ s.list.deviceList, ¬Uncovered pathMatchSpec s.list.items s.broadcasts el

/-- The elements that the synchronisation with the present devices adds to the master list. -/
def Notifier.newlyListed (n : Notifier) (slave : Option (List TempItem)) : List DevInfo :=
  (lstKSyncDevices pathMatchSpec n slave).deviceList.drop n.deviceList.length

/-- The timer of an arrival lists a device that is not covered. -/
def ListsUncovered (s : HotSystem) : HotCall → Prop
  | .window (.timerDeviceArrival found) =>
    ∃ el ∈ s.list.newlyListed pathMatchSpec (found s.list.syncPattern),
      Uncovered pathMatchSpec s.list.items s.broadcasts el
  | _ => False

end Covered

section Keys

variable {pathMatchSpec : List Char → List Char → Bool} {mark : Bool} {f : DevInfo → DevInfo}
  {l l' : List DevInfo}

theorem KeepsFields.interfaceKey (h : KeepsFields f) (el : DevInfo) :
    (f el).interfaceKey = el.interfaceKey := by
  obtain ⟨-, hid, hguid, hclass⟩ := h el
  simp only [DevInfo.interfaceKey, hid, hguid, hclass]

theorem KeepsFields.map_interfaceKey (h : KeepsFields f) (l : List DevInfo) :
    (l.map f).map DevInfo.interfaceKey = l.map DevInfo.interfaceKey := by
  rw [List.map_map]
  exact List.map_congr_left fun el _ => h.interfaceKey el

theorem uncovered_congr {items : List HotHandle} {b : Broadcasts} {el el' : DevInfo}
    (h : el.interfaceKey = el'.interfaceKey) :
    Uncovered pathMatchSpec items b el ↔ Uncovered pathMatchSpec items b el' := by
  simp only [DevInfo.interfaceKey, Prod.mk.injEq] at h
  obtain ⟨hid, hguid, hclass⟩ := h
  simp only [Uncovered, patternMatches, DevInfo.interfaceGuid, hid, hguid, hclass]

/-- More handles and fewer interfaces leave more elements uncovered. -/
theorem Uncovered.mono {items items' : List HotHandle} {b b' : Broadcasts} {el : DevInfo}
    (h : Uncovered pathMatchSpec items b el) (hitems : ∀ handle ∈ items, handle ∈ items')
    (hguids : ∀ guid ∈ b'.guids, guid ∈ b.guids) : Uncovered pathMatchSpec items' b' el := by
  obtain ⟨⟨handle, hitem, hmatch⟩, guid, hguid, hnot⟩ := h
  exact ⟨⟨handle, hitems handle hitem, hmatch⟩, guid, hguid, fun hmem => hnot (hguids guid hmem)⟩

/-- Lists with the same keys have uncovered elements alike. -/
theorem forall_not_uncovered_congr {items : List HotHandle} {b : Broadcasts}
    (h : l'.map DevInfo.interfaceKey = l.map DevInfo.interfaceKey) :
    (∀ el ∈ l', ¬Uncovered pathMatchSpec items b el) ↔
      ∀ el ∈ l, ¬Uncovered pathMatchSpec items b el := by
  have hone : ∀ {l l' : List DevInfo}, l'.map DevInfo.interfaceKey = l.map DevInfo.interfaceKey →
      (∀ el ∈ l, ¬Uncovered pathMatchSpec items b el) →
        ∀ el ∈ l', ¬Uncovered pathMatchSpec items b el := by
    intro l l' h hall el' hel'
    have hmem : el'.interfaceKey ∈ l.map DevInfo.interfaceKey := h ▸ List.mem_map_of_mem hel'
    obtain ⟨el, hel, hkey⟩ := List.mem_map.mp hmem
    exact fun huncovered => hall el hel ((uncovered_congr hkey).mpr huncovered)
  exact ⟨hone h.symm, hone h⟩

/-! ### The keys of the master list -/

theorem keys_notifyWaiters (s : Notifier) (hotHandle : Option ℕ) :
    (notifyWaiters pathMatchSpec mark s hotHandle true).deviceList.map DevInfo.interfaceKey =
      s.deviceList.map DevInfo.interfaceKey := by
  cases hotHandle with
  | none =>
    rw [deviceList_notifyWaiters_none]
    apply KeepsFields.map_interfaceKey
    exact fun el => keepsFields_setSyncFlags _ _
  | some id =>
    rw [deviceList_notifyWaiters_some]
    apply KeepsFields.map_interfaceKey
    intro el
    obtain ⟨hlink, hid, hguid, hclass⟩ := keepsFields_plugged mark s.items id el
    exact ⟨hlink, hid, hguid, hclass⟩

/-- The elements of the slave list go behind those of the master list. -/
theorem exists_keys_syncSlave (mask : BitVec 32) (slave master : List DevInfo) :
    ∃ added, (enumerate (devEnumSyncSlave pathMatchSpec mask) slave master).2.map
      DevInfo.interfaceKey = master.map DevInfo.interfaceKey ++ added := by
  induction slave generalizing master with
  | nil => exact ⟨[], (List.append_nil _).symm⟩
  | cons el slave ih =>
    have hvisit : ∃ added, (devEnumSyncSlave pathMatchSpec mask master el).ctx.map
        DevInfo.interfaceKey = master.map DevInfo.interfaceKey ++ added := by
      unfold devEnumSyncSlave
      split
      · next master' hedit =>
        refine ⟨[], ?_⟩
        have hkeys := map_editHead (g := DevInfo.interfaceKey)
          (q := fun el' => matchSymbolicLink pathMatchSpec el' el)
          (fun el' => (keepsFields_syncSlaveFound mask el).interfaceKey el') master
        rw [editHead, hedit, Option.getD_some] at hkeys
        rw [hkeys, List.append_nil]
      · split
        · exact ⟨_, List.map_append⟩
        · exact ⟨[], (List.append_nil _).symm⟩
    obtain ⟨added, hadded⟩ := hvisit
    rw [enumerate_cons, if_pos (devEnumSyncSlave_more master el)]
    obtain ⟨added', hadded'⟩ := ih (devEnumSyncSlave pathMatchSpec mask master el).ctx
    exact ⟨added ++ added', by rw [hadded', hadded, List.append_assoc]⟩

/-- The master list keeps its elements, and new ones go behind them. -/
theorem exists_keys_lstKSyncDevices (n : Notifier) (slave : Option (List TempItem)) :
    ∃ added, (lstKSyncDevices pathMatchSpec n slave).deviceList.map DevInfo.interfaceKey =
      n.deviceList.map DevInfo.interfaceKey ++ added := by
  cases slave with
  | none => exact ⟨[], (List.append_nil _).symm⟩
  | some slave =>
    unfold lstKSyncDevices lstKSync
    dsimp only
    rw [enumerate_syncPrep, enumerate_syncMaster,
      (keepsFields_syncMaster _ _).map_interfaceKey]
    obtain ⟨added, hadded⟩ := @exists_keys_syncSlave pathMatchSpec
      (if SyncFlag.mask = 0#32 then SyncFlag.mask else SyncFlag.mask)
      (slave.map TempItem.devInfo) (n.deviceList.map (DevInfo.setSyncFlags SyncFlag.none))
    refine ⟨added, ?_⟩
    rw [hadded, (keepsFields_setSyncFlags _).map_interfaceKey]

/-- An element is uncovered after the synchronisation exactly if it was before, or is new. -/
theorem forall_not_uncovered_sync {items : List HotHandle} {b : Broadcasts} {n : Notifier}
    {slave : Option (List TempItem)}
    (hold : ∀ el ∈ n.deviceList, ¬Uncovered pathMatchSpec items b el) :
    (∀ el ∈ (lstKSyncDevices pathMatchSpec n slave).deviceList,
        ¬Uncovered pathMatchSpec items b el) ↔
      ∀ el ∈ n.newlyListed pathMatchSpec slave, ¬Uncovered pathMatchSpec items b el := by
  unfold Notifier.newlyListed
  obtain ⟨added, hadded⟩ := @exists_keys_lstKSyncDevices pathMatchSpec n slave
  generalize (lstKSyncDevices pathMatchSpec n slave).deviceList = l at hadded ⊢
  have htake : (l.take n.deviceList.length).map DevInfo.interfaceKey =
      n.deviceList.map DevInfo.interfaceKey := by
    rw [List.map_take, hadded]
    exact List.take_left' (by rw [List.length_map])
  constructor
  · exact fun hall el hel => hall el (List.mem_of_mem_drop hel)
  · intro hnew el hel
    rw [← List.take_append_drop n.deviceList.length l] at hel
    rcases List.mem_append.mp hel with hel | hel
    · exact (forall_not_uncovered_congr htake).mpr hold el hel
    · exact hnew el hel

end Keys

/-! ### Registering the interfaces -/

section Register

variable {pathMatchSpec : List Char → List Char → Bool}

/-- Nothing is taken out of the list. -/
theorem guids_registerHandle (s : Notifier) (handle : HotHandle)
    (ctx : Broadcasts × List RegisterAnswer) {guid : Guid} (h : guid ∈ ctx.1.guids) :
    guid ∈ (registerHandle pathMatchSpec s ctx handle).1.guids := by
  apply registerHandle_induction (P := fun b => guid ∈ b.guids) _ s handle h
  intro b guid' _ hmem
  rw [Broadcasts.guids_register]
  exact List.mem_append_left _ hmem

theorem guids_registerForBroadcast (s : Notifier) (b : Broadcasts)
    (answers : List RegisterAnswer) (hotHandle : Option HotHandle) {guid : Guid}
    (h : guid ∈ b.guids) :
    guid ∈ (registerForBroadcast pathMatchSpec s b answers hotHandle).guids := by
  apply registerForBroadcast_induction (P := fun b => guid ∈ b.guids) _ s answers hotHandle h
  intro b guid' _ hmem
  rw [Broadcasts.guids_register]
  exact List.mem_append_left _ hmem

/-- One element, when registrations are accepted. -/
theorem visit_registerForBroadcast (hotInitCount : ℤ) (handle : HotHandle) (b : Broadcasts)
    (el : DevInfo) : ∃ b',
      devEnumRegisterForBroadcast pathMatchSpec hotInitCount handle (b, []) el =
        ⟨some el, (b', []), true⟩ ∧ (∀ guid ∈ b.guids, guid ∈ b'.guids) ∧
      (isHotMatch pathMatchSpec hotInitCount handle el = true →
        ∀ guid ∈ el.interfaceGuid, guid ∈ b'.guids) := by
  unfold devEnumRegisterForBroadcast
  split
  · split
    · next hguid => exact ⟨b, rfl, fun _ h => h, fun _ guid h => by rw [hguid] at h; cases h⟩
    · next guid hguid =>
      split
      · next hmem =>
        refine ⟨b, rfl, fun _ h => h, fun _ guid' h => ?_⟩
        rw [hguid] at h
        cases h
        exact hmem
      · refine ⟨b.register guid, rfl, fun guid' h => ?_, fun _ guid' h => ?_⟩
        · rw [Broadcasts.guids_register]
          exact List.mem_append_left _ h
        · rw [hguid] at h
          cases h
          rw [Broadcasts.guids_register]
          exact List.mem_append_right _ (List.mem_singleton_self _)
  · next hmatch => exact ⟨b, rfl, fun _ h => h, fun h => absurd h hmatch⟩

/-- When registrations are accepted, the elements that a handle matches are covered. -/
theorem registerHandle_accepted (s : Notifier) (handle : HotHandle) (b : Broadcasts) :
    ∃ b', registerHandle pathMatchSpec s (b, []) handle = (b', []) ∧
      ∀ el ∈ s.deviceList, isHotMatch pathMatchSpec s.hotInitCount handle el = true →
        ∀ guid ∈ el.interfaceGuid, guid ∈ b'.guids := by
  unfold registerHandle
  generalize s.hotInitCount = k
  have hall : ∀ (l : List DevInfo) (b : Broadcasts), ∃ b',
      (enumerate (devEnumRegisterForBroadcast pathMatchSpec k handle) l (b, [])).2 = (b', []) ∧
        (∀ guid ∈ b.guids, guid ∈ b'.guids) ∧
        ∀ el ∈ l, isHotMatch pathMatchSpec k handle el = true →
          ∀ guid ∈ el.interfaceGuid, guid ∈ b'.guids := by
    intro l
    induction l with
    | nil => exact fun b => ⟨b, rfl, fun _ h => h, List.forall_mem_nil _⟩
    | cons el l ih =>
      intro b
      obtain ⟨b₁, hvisit, hmono₁, hel⟩ := visit_registerForBroadcast k handle b el
      obtain ⟨b₂, hrest, hmono₂, hl⟩ := ih b₁
      refine ⟨b₂, ?_, fun guid h => hmono₂ guid (hmono₁ guid h), ?_⟩
      · rw [enumerate_cons, hvisit]
        exact hrest
      · intro el' hel' hmatch guid hguid
        rcases List.mem_cons.mp hel' with rfl | hmem
        · exact hmono₂ guid (hel hmatch guid hguid)
        · exact hl el' hmem hmatch guid hguid
  obtain ⟨b', heq, -, hcover⟩ := hall s.deviceList b
  exact ⟨b', heq, hcover⟩

/-- The elements are covered for a handle that is registered. -/
theorem registerForBroadcast_some (s : Notifier) (b : Broadcasts) (handle : HotHandle)
    {el : DevInfo} (hel : el ∈ s.deviceList) :
    ¬Uncovered pathMatchSpec [handle] (registerForBroadcast pathMatchSpec s b [] (some handle))
      el := by
  obtain ⟨b', heq, hcover⟩ := @registerHandle_accepted pathMatchSpec s handle b
  rintro ⟨⟨handle', hitem, hmatch⟩, guid, hguid, hnot⟩
  obtain rfl := List.mem_singleton.mp hitem
  apply hnot
  unfold registerForBroadcast
  dsimp only
  rw [heq]
  exact hcover el hel (isHotMatch_of_patternMatches hmatch) guid hguid

/-- The elements are covered for all handles when the device nodes have changed. -/
theorem registerForBroadcast_none (s : Notifier) (b : Broadcasts) {el : DevInfo}
    (hel : el ∈ s.deviceList) :
    ¬Uncovered pathMatchSpec s.items (registerForBroadcast pathMatchSpec s b [] none) el := by
  have hall : ∀ (items : List HotHandle) (b : Broadcasts) (handle : HotHandle), handle ∈ items →
      patternMatches pathMatchSpec handle el = true → ∀ guid ∈ el.interfaceGuid,
        guid ∈ (items.foldl (registerHandle pathMatchSpec s) (b, [])).1.guids := by
    intro items
    induction items with
    | nil => exact fun _ _ h => by cases h
    | cons handle items ih =>
      intro b handle' hitem hmatch guid hguid
      obtain ⟨b', heq, hcover⟩ := @registerHandle_accepted pathMatchSpec s handle b
      rw [List.foldl_cons, heq]
      rcases List.mem_cons.mp hitem with rfl | hmem
      · -- the handles that follow take nothing out
        have hmem := hcover el hel (isHotMatch_of_patternMatches hmatch) guid hguid
        have hfold : ∀ (items : List HotHandle) (ctx : Broadcasts × List RegisterAnswer),
            guid ∈ ctx.1.guids →
              guid ∈ (items.foldl (registerHandle pathMatchSpec s) ctx).1.guids := by
          intro items
          induction items with
          | nil => exact fun _ h => h
          | cons handle items ih => exact fun ctx h => ih _ (guids_registerHandle s handle ctx h)
        exact hfold items (b', []) hmem
      · exact ih b' handle' hmem hmatch guid hguid
  rintro ⟨⟨handle, hitem, hmatch⟩, guid, hguid, hnot⟩
  exact hnot (hall s.items b handle hitem hmatch guid hguid)

end Register

/-! ### Steps -/

section Step

variable {pathMatchSpec : List Char → List Char → Bool} {mark : Bool} {s s' : HotNotifierList}
  {b : Broadcasts} {a : BroadcastAnswers}

/-- Every element of a list is covered. -/
def AllCovered (pathMatchSpec : List Char → List Char → Bool) (s : HotNotifierList)
    (b : Broadcasts) : Prop :=
  ∀ el ∈ s.deviceList, ¬Uncovered pathMatchSpec s.items b el

theorem AllCovered.of_items_nil (h : s.items = []) : AllCovered pathMatchSpec s b := by
  rintro el - ⟨⟨handle, hitem, -⟩, -⟩
  rw [h] at hitem
  cases hitem

theorem items_hotKFreeAll (h : s.hwnd = true) : s.hotKFreeAll.items = [] := by
  unfold HotNotifierList.hotKFreeAll
  rw [if_pos h]

/-- A handle is registered, and its interfaces with it. -/
theorem AllCovered.initHotHandle (h : AllCovered pathMatchSpec s b) {handle : HotHandle}
    (hsend : s.send pathMatchSpec mark (.initHotHandle handle) = some s') :
    AllCovered pathMatchSpec s'
      (registerForBroadcast pathMatchSpec s'.toNotifier b [] (some handle)) := by
  obtain ⟨n, hn, rfl⟩ := Option.map_eq_some_iff.mp hsend
  unfold wndProc at hn
  dsimp only at hn
  split at hn
  · cases hn
  · cases hn
    rintro el hel ⟨⟨other, hitem, hmatch⟩, guid, hguid, hnot⟩
    rcases List.mem_append.mp hitem with hitem | hitem
    · exact h el hel ⟨⟨other, hitem, hmatch⟩, guid, hguid,
        fun hmem => hnot (guids_registerForBroadcast _ _ _ _ hmem)⟩
    · exact registerForBroadcast_some _ b handle hel ⟨⟨other, hitem, hmatch⟩, guid, hguid, hnot⟩

theorem allCovered_init (hinv : s.Inv) (h : AllCovered pathMatchSpec s b) {handle : HotHandle}
    {found : Enumeration} {refused : Bool} (ha : a.registers = [])
    (hcall : s.hotKInit pathMatchSpec mark handle (.created found) refused = some s') :
    AllCovered pathMatchSpec s'
      (broadcastsAfter pathMatchSpec s s' b a (.init handle (.created found) refused)) := by
  unfold HotNotifierList.hotKInit at hcall
  unfold broadcastsAfter HotNotifierList.takesHandle
  dsimp only at hcall ⊢
  rw [ha]
  have hcount := hinv.counted.hotLockCount
  by_cases hlock : s.hotLockCount = 0
  · -- the window is created, and there was no handle
    have hitems : s.items = [] := by
      rw [hlock] at hcount
      exact List.length_eq_zero_iff.mp (by omega)
    rw [if_pos (by omega)] at hcall
    rw [if_pos hlock, if_pos rfl]
    cases hfound : found handle.initPattern with
    | none => simp [hfound] at hcall
    | some items =>
      simp only [hfound, HotNotifierList.sendInitHotHandle, if_true] at hcall
      cases refused with
      | true =>
        simp only [if_true, hlock] at hcall
        rw [if_pos (by decide)] at hcall
        cases hcall
        exact .of_items_nil (items_hotKFreeAll rfl)
      | false =>
        simp only [Bool.false_eq_true, if_false] at hcall ⊢
        refine AllCovered.initHotHandle ?_ hcall
        exact .of_items_nil hitems
  · have hwnd : s.hwnd = true := by
      rw [hinv.counted.hwnd]
      rintro hnil
      rw [hnil] at hcount
      exact hlock hcount
    rw [if_neg (by omega)] at hcall
    rw [if_neg hlock, if_pos hwnd]
    simp only [HotNotifierList.sendInitHotHandle, hwnd, if_true] at hcall
    cases refused with
    | true =>
      simp only [if_true] at hcall ⊢
      rw [if_neg (by omega)] at hcall
      cases hcall
      rw [if_neg hlock]
      exact h
    | false =>
      simp only [Bool.false_eq_true, if_false] at hcall ⊢
      refine AllCovered.initHotHandle ?_ hcall
      exact h

/-- Fewer handles, and the same list or none. -/
theorem allCovered_free (h : AllCovered pathMatchSpec s b) {handle : Option ℕ}
    (hcall : s.hotKFree pathMatchSpec mark handle = some s') :
    AllCovered pathMatchSpec s' (broadcastsAfter pathMatchSpec s s' b a (.free handle)) := by
  cases handle with
  | none =>
    cases hcall
    unfold broadcastsAfter
    dsimp only
    rw [if_neg fun hno => hno.2 hno.1]
    exact h
  | some id =>
    unfold HotNotifierList.hotKFree at hcall
    unfold broadcastsAfter
    dsimp only at hcall ⊢
    split at hcall
    · next hwnd =>
      cases hcall
      rw [if_neg fun hno => hwnd hno.1]
      exact h
    · next hwnd =>
      split at hcall
      · cases hcall
        rw [if_neg fun hno => hno.2 hno.1]
        exact h
      · split at hcall
        · next hitem =>
          obtain ⟨t, ht, rfl⟩ := Option.map_eq_some_iff.mp hcall
          have htwnd : t.hwnd = true := (hwnd_send ht).trans (not_not.mp hwnd)
          split
          · exact .of_items_nil (items_hotKFreeAll htwnd)
          · rw [if_neg fun hno => hno.2 htwnd]
            obtain ⟨n, hn, rfl⟩ := Option.map_eq_some_iff.mp ht
            unfold wndProc at hn
            dsimp only at hn
            rw [if_pos hitem] at hn
            cases hn
            intro el hel huncovered
            exact h el hel (huncovered.mono (fun handle hmem => List.mem_of_mem_filter hmem)
              fun guid hguid => hguid)
        · cases hcall
          rw [if_neg fun hno => hno.2 hno.1]
          exact h

/-- The master list, synchronised if the message is that of a timer that does it. -/
def Notifier.listedBy (pathMatchSpec : List Char → List Char → Bool) (n : Notifier)
    (pattern : Option PatternMatch) : WindowMessage → List DevInfo
  | .timerDeviceArrival found => (lstKSyncDevices pathMatchSpec n (found pattern)).deviceList
  | .timerDevNodesChanged found => (lstKSyncDevices pathMatchSpec n (found pattern)).deviceList
  | _ => n.deviceList

/-- A message that comes by itself keeps the keys of the list but for the synchronisation. -/
theorem keys_hotMessage {n n' : Notifier} {pattern : Option PatternMatch} {m : WindowMessage}
    (h : wndProc pathMatchSpec mark n (m.hotMessage pattern) = some n') :
    n'.deviceList.map DevInfo.interfaceKey =
      (n.listedBy pathMatchSpec pattern m).map DevInfo.interfaceKey := by
  cases m with
  | notifyHotHandle =>
    cases hposted : n.posted with
    | nil => simp [WindowMessage.hotMessage, wndProc, hposted] at h
    | cons id posted =>
      simp only [WindowMessage.hotMessage, wndProc, hposted, Option.some.injEq] at h
      rw [← h]
      exact keys_notifyWaiters _ _
  | timerDeviceArrival found =>
    simp only [WindowMessage.hotMessage, wndProc, Option.ite_none_right_eq_some,
      Option.some.injEq] at h
    rw [← h.2, keys_notifyWaiters]
    show _ = (lstKSyncDevices pathMatchSpec n (found pattern)).deviceList.map _
    cases found pattern <;> rfl
  | timerDevNodesChanged found =>
    simp only [WindowMessage.hotMessage, wndProc, Option.ite_none_right_eq_some,
      Option.some.injEq] at h
    rw [← h.2, keys_notifyWaiters]
    show _ = (lstKSyncDevices pathMatchSpec n (found pattern)).deviceList.map _
    cases found pattern <;> rfl
  | timerDeviceRemoval =>
    simp only [WindowMessage.hotMessage, wndProc, Option.ite_none_right_eq_some,
      Option.some.injEq] at h
    rw [← h.2]
    exact keys_notifyWaiters _ _
  | deviceArrival dbccName => cases dbccName <;> cases h <;> rfl
  | deviceRemoveComplete dbccName =>
    cases dbccName with
    | none =>
      cases h
      rfl
    | some name =>
      cases name with
      | nil =>
        cases h
        rfl
      | cons c name =>
        cases h
        dsimp only
        rw [enumerate_updateForRemoval]
        exact map_editHead (fun el => keepsFields_remove.interfaceKey el) _
  | devNodesChanged =>
    cases h
    rfl

theorem allCovered_window (h : AllCovered pathMatchSpec s b) {m : WindowMessage}
    (ha : a.registers = []) (hcall : s.window pathMatchSpec mark m = some s') :
    AllCovered pathMatchSpec s' (broadcastsAfter pathMatchSpec s s' b a (.window m)) ↔
      ¬ListsUncovered pathMatchSpec ⟨s, b⟩ (.window m) := by
  unfold HotNotifierList.window at hcall
  split at hcall
  · obtain ⟨n, hn, rfl⟩ := Option.map_eq_some_iff.mp hcall
    have hkeys := keys_hotMessage hn
    have hitems := (wndProc_hotMessage hn).1
    -- what is said of the keys is said of the elements
    have hsame : n.deviceList.map DevInfo.interfaceKey =
        s.deviceList.map DevInfo.interfaceKey →
          ∀ el ∈ n.deviceList, ¬Uncovered pathMatchSpec n.items b el := by
      intro hkeys
      rw [hitems]
      exact (forall_not_uncovered_congr hkeys).mpr h
    cases m with
    | timerDeviceArrival found =>
      change (∀ el ∈ n.deviceList, ¬Uncovered pathMatchSpec n.items b el) ↔ _
      rw [hitems, forall_not_uncovered_congr hkeys]
      refine (forall_not_uncovered_sync h).trans ?_
      simp only [ListsUncovered, not_exists, not_and]
    | timerDevNodesChanged found =>
      refine iff_of_true ?_ id
      intro el hel
      unfold broadcastsAfter
      dsimp only
      rw [ha]
      exact registerForBroadcast_none n b hel
    | notifyHotHandle => exact iff_of_true (hsame hkeys) id
    | timerDeviceRemoval => exact iff_of_true (hsame hkeys) id
    | deviceArrival dbccName => exact iff_of_true (hsame hkeys) id
    | deviceRemoveComplete dbccName => exact iff_of_true (hsame hkeys) id
    | devNodesChanged => exact iff_of_true (hsame hkeys) id
  · cases hcall

/-- From a state in which every device is covered, a step leaves one uncovered exactly if it is
the timer of an arrival and lists one. -/
theorem covered_step {s t : HotSystem} {c : HotCall × BroadcastAnswers} (hinv : s.list.Inv)
    (hs : s.Covered pathMatchSpec) (hkeeps : KeepsCount s.list c.1) (ha : c.2.registers = [])
    (hstep : (hotKBroadcast pathMatchSpec mark).step s c = some t) :
    t.Covered pathMatchSpec ↔ ¬ListsUncovered pathMatchSpec s c.1 := by
  obtain ⟨list', hcall, rfl⟩ := Option.map_eq_some_iff.mp hstep
  obtain ⟨call, answers⟩ := c
  change AllCovered pathMatchSpec list'
    (broadcastsAfter pathMatchSpec s.list list' s.broadcasts answers call) ↔ _
  cases call with
  | init handle creation refused =>
    cases creation with
    | failed step => exact hkeeps.elim
    | created found => exact iff_of_true (allCovered_init hinv hs ha hcall) id
  | free handle => exact iff_of_true (allCovered_free hs hcall) id
  | freeAll =>
    cases hcall
    refine iff_of_true (.of_items_nil ?_) id
    have hsub := hotKFreeAll_items s.list
    rw [show s.list.items = [] from hkeeps] at hsub
    exact List.sublist_nil.mp hsub
  | window m => exact allCovered_window hs ha hcall

/-- **Every device is covered, while no registration is refused and the counters count the
handles, in exactly the runs** in which the timer of an arrival lists no device that is not. -/
theorem covered_iff (pathMatchSpec : List Char → List Char → Bool) (mark : Bool)
    (calls : List (HotCall × BroadcastAnswers)) (haccepted : ∀ c ∈ calls, c.2.registers = [])
    (hkeeps : (hotKBroadcast pathMatchSpec mark).Throughout (fun s c => KeepsCount s.list c.1)
      .start calls) :
    (hotKBroadcast pathMatchSpec mark).Always (HotSystem.Covered pathMatchSpec) .start calls ↔
      (hotKBroadcast pathMatchSpec mark).Throughout
        (fun s c => ¬ListsUncovered pathMatchSpec s c.1) .start calls := by
  have hinv : HotSystem.start.list.Inv := inv_start
  have hstart : HotSystem.start.Covered pathMatchSpec := List.forall_mem_nil _
  generalize HotSystem.start = s at hkeeps hinv hstart
  induction calls generalizing s with
  | nil => exact iff_of_true hstart trivial
  | cons c calls ih =>
    have hc := haccepted c List.mem_cons_self
    have hrest : ∀ c ∈ calls, c.2.registers = [] := fun c h =>
      haccepted c (List.mem_cons_of_mem _ h)
    constructor
    · intro h t ht
      obtain ⟨hcount, hkeeps⟩ := hkeeps t ht
      have hlist : t.list.Inv := by
        obtain ⟨list', hcall, rfl⟩ := Option.map_eq_some_iff.mp ht
        exact call_inv hinv hcount hcall
      have ht' := (h.2 t ht).start
      exact ⟨(covered_step hinv hstart hcount hc ht).mp ht',
        (ih hrest t hkeeps hlist ht').mp (h.2 t ht)⟩
    · intro h
      refine ⟨hstart, fun t ht => ?_⟩
      obtain ⟨hcount, hkeeps⟩ := hkeeps t ht
      have hlist : t.list.Inv := by
        obtain ⟨list', hcall, rfl⟩ := Option.map_eq_some_iff.mp ht
        exact call_inv hinv hcount hcall
      obtain ⟨hok, hthroughout⟩ := h t ht
      have ht' := (covered_step hinv hstart hcount hc ht).mpr hok
      exact (ih hrest t hkeeps hlist ht').mpr hthroughout

end Step

/-- A device of the interface whose GUID begins with a digit. -/
def deviceOf (digit : Char) : TempItem where
  symbolicLink := [digit]
  devicePath := [digit]
  deviceID := [digit]
  deviceInterfaceGUID :=
    List.replicate 7 '0' ++ [digit, '-'] ++ List.replicate 4 '0' ++ ['-'] ++
      List.replicate 4 '0' ++ ['-'] ++ List.replicate 4 '0' ++ ['-'] ++ List.replicate 12 '0'
  classGUID := []
  connected := true

/-- A device arrives, and with it one of another interface. -/
def secondInterface : List (HotCall × BroadcastAnswers) :=
  [(.init (aHotHandle 1) (.created fun _ => some [deviceOf '1']) false, {}),
    (.window (.deviceArrival (some ['2'])), {}),
    (.window (.timerDeviceArrival fun _ => some [deviceOf '1', deviceOf '2']), {})]

/-- The second interface is not registered. -/
theorem not_covered_secondInterface :
    ¬(hotKBroadcast matchExactly false).Always (HotSystem.Covered matchExactly) .start
      secondInterface := by
  have hkeeps : (hotKBroadcast matchExactly false).Throughout
      (fun s c => KeepsCount s.list c.1) .start secondInterface :=
    .cons rfl trivial (.cons rfl trivial (.cons rfl trivial trivial))
  rw [covered_iff matchExactly false secondInterface (by decide) hkeeps]
  intro h
  obtain ⟨-, h⟩ := h _ rfl
  obtain ⟨-, h⟩ := h _ rfl
  apply (h _ rfl).1
  exact ⟨(deviceOf '2').devInfo.setSyncFlags SyncFlag.added, by decide, by decide +kernel⟩

end LibusbK
