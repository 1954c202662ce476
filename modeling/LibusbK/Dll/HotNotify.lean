import Mathlib.Data.List.Nodup
import LibusbK.Lib.FirstCome
import LibusbK.Dll.HotPlug

/-!
# Which handles a sweep tells of a device

`h_NotifyWaiters(NULL, TRUE)` shows every element of the master list to every
registered handle (`lusbk_hot_plug.c`).  A handle that matches an element whose flags
record a change asks for its device instance, and one list of the instances that were
asked for is kept for all handles: the first handle that asks consumes the instance,
and the others are told of it only when they pass duplicates.

## Main definitions

* `Notifier.requests`, `Notifier.firstRequest` -- what the handles ask for in a sweep,
  and the element and the handle an instance is consumed by.
* `Notifier.sweepTold`, `Notifier.sweepToldOf` -- what a sweep tells a handle.
* `ToldOnce` -- a handle is told exactly once of every instance it is interested in.

## Main results

* `sweepTold_of_passDupe`, `sweepToldOf_of_not_passDupe` -- what a sweep tells a
  handle that passes duplicates, and one that does not.
* `sweep_consumed` -- the first handle that matches an instance is told of it once, and
  nobody else but those that pass duplicates.
-/

namespace LibusbK

/-- The handle a notification goes to. -/
def Notification.handle : Notification → ℕ
  | onHotPlug handle _ _ => handle
  | postMessage handle _ _ => handle
  | sendMessage handle _ _ => handle

/-- The device a notification is about. -/
def Notification.device : Notification → TempItem
  | onHotPlug _ device _ => device
  | postMessage _ device _ => device
  | sendMessage _ device _ => device

namespace DevInfo

/-- The flags of the element say that it was added or removed. -/
def IsMarked (el : DevInfo) : Prop :=
  el.syncFlags &&& SyncFlag.added ≠ 0#32 ∨ el.syncFlags &&& SyncFlag.removed ≠ 0#32

instance (el : DevInfo) : Decidable el.IsMarked :=
  inferInstanceAs (Decidable (_ ∨ _))

/-- The flags of the element record a change. -/
def IsChanged (el : DevInfo) : Prop :=
  ¬(el.syncFlags = SyncFlag.none ∨ el.syncFlags = SyncFlag.unchanged)

instance (el : DevInfo) : Decidable el.IsChanged :=
  inferInstanceAs (Decidable (¬_))

theorem IsMarked.isChanged {el : DevInfo} (h : el.IsMarked) : el.IsChanged := by
  rintro (hnone | hunchanged)
  · rw [IsMarked, hnone] at h
    exact absurd h (by decide)
  · rw [IsMarked, hunchanged] at h
    exact absurd h (by decide)

/-- Clearing the results leaves no mark. -/
theorem not_isMarked_clear (el : DevInfo) :
    ¬(el.setSyncFlags SyncFlag.unchanged).IsMarked := by
  change ¬(SyncFlag.unchanged &&& SyncFlag.added ≠ 0#32 ∨
    SyncFlag.unchanged &&& SyncFlag.removed ≠ 0#32)
  decide

end DevInfo

namespace HotHandle

/-- The handle is told of an instance that another handle consumed. -/
def PassDupe (handle : HotHandle) : Prop := handle.flags &&& HotFlag.passDupeInstance ≠ 0#32

instance (handle : HotHandle) : Decidable handle.PassDupe := inferInstanceAs (Decidable (_ ≠ _))

theorem notifications_of_not_isMarked {handle : HotHandle} {el : DevInfo} (h : ¬el.IsMarked) :
    handle.notifications el = [] := by
  obtain ⟨hadded, hremoved⟩ := not_or.mp h
  rw [notifications, if_neg hadded, if_neg hremoved]

theorem of_mem_report {handle : HotHandle} {el : DevInfo} {plugType : BitVec 32} {offset : UInt32}
    {n : Notification} (h : n ∈ handle.report el plugType offset) :
    n.handle = handle.id ∧ n.device = el.toTempItem := by
  rcases List.mem_append.mp h with h | h
  · split at h
    · cases List.mem_singleton.mp h
      exact ⟨rfl, rfl⟩
    · cases h
  · unfold userNotifications at h
    split at h
    · split at h
      · cases List.mem_singleton.mp h
        exact ⟨rfl, rfl⟩
      · cases List.mem_singleton.mp h
        exact ⟨rfl, rfl⟩
    · cases h

/-- What a handle is told of an element goes to the handle, is about the element, and the
element is marked. -/
theorem of_mem_notifications {handle : HotHandle} {el : DevInfo} {n : Notification}
    (h : n ∈ handle.notifications el) :
    n.handle = handle.id ∧ n.device = el.toTempItem ∧ el.IsMarked := by
  unfold notifications at h
  split at h
  next hadded =>
    obtain ⟨hhandle, hdevice⟩ := of_mem_report h
    exact ⟨hhandle, hdevice, Or.inl hadded⟩
  · split at h
    next hremoved =>
      obtain ⟨hhandle, hdevice⟩ := of_mem_report h
      exact ⟨hhandle, hdevice, Or.inr hremoved⟩
    · cases h

end HotHandle

/-! ### The sweep as requests that are served first come -/

/-- A request names its instance by `DeviceID`. -/
def requestKey (r : DevInfo × HotHandle) : List Char := r.1.deviceID

/-- A request of a handle that passes duplicates. -/
def requestAgain (r : DevInfo × HotHandle) : Bool := decide r.2.PassDupe

/-- What the handle of a request is told. -/
def requestTold (r : DevInfo × HotHandle) : List Notification := r.2.notifications r.1

section Sweep

variable (pathMatchSpec : List Char → List Char → Bool) (mark : Bool)

/-- The tests of `h_IsHotMatch` when there is more than one handle. -/
def patternMatches (handle : HotHandle) (el : DevInfo) : Bool :=
  applyPatternMatch pathMatchSpec handle.patternMatch.deviceInterfaceGUID
      el.deviceInterfaceGUID &&
    applyPatternMatch pathMatchSpec handle.patternMatch.classGUID el.classGUID &&
    applyPatternMatch pathMatchSpec handle.patternMatch.deviceID el.deviceID

/-- What the handles ask for when they are shown an element. -/
def elementRequests (hotInitCount : ℤ) (items : List HotHandle) (el : DevInfo) :
    List (DevInfo × HotHandle) :=
  if el.IsChanged then
    (items.filter fun handle => isHotMatch pathMatchSpec hotInitCount handle el).map
      fun handle => (el, handle)
  else []

namespace Notifier

/-- What the handles ask for in a global sweep. -/
def requests (s : Notifier) : List (DevInfo × HotHandle) :=
  s.deviceList.flatMap (elementRequests pathMatchSpec s.hotInitCount s.items)

/-- The first request for a device instance: the element, and the handle that consumes
the instance. -/
def firstRequest (s : Notifier) (deviceID : List Char) : Option (DevInfo × HotHandle) :=
  (s.requests pathMatchSpec).find? fun r => requestKey r = deviceID

/-- What a global sweep tells the handle in slot `id`. -/
def sweepTold (s : Notifier) (id : ℕ) : List Notification :=
  (notifyWaiters pathMatchSpec mark { s with notified := [] } none true).notified.filter
    fun n => n.handle = id

/-- What a global sweep tells the handle in slot `id` of a device instance. -/
def sweepToldOf (s : Notifier) (id : ℕ) (deviceID : List Char) : List Notification :=
  (s.sweepTold pathMatchSpec mark id).filter fun n => n.device.deviceID = deviceID

end Notifier

end Sweep

section Sweep

variable {pathMatchSpec : List Char → List Char → Bool} {mark : Bool} {hotInitCount : ℤ}

/-- The context after the requests `rs`. -/
def NotifyContext.serve (ctx : NotifyContext) (rs : List (DevInfo × HotHandle)) :
    NotifyContext where
  devInstList := seenAfter requestKey ctx.devInstList rs
  notified :=
    ctx.notified ++ (served requestKey requestAgain ctx.devInstList rs).flatMap requestTold

theorem NotifyContext.serve_append (ctx : NotifyContext) (rs rs' : List (DevInfo × HotHandle)) :
    ctx.serve (rs ++ rs') = (ctx.serve rs).serve rs' := by
  simp [serve, seenAfter_append, served_append]

@[simp] theorem NotifyContext.serve_nil (ctx : NotifyContext) : ctx.serve [] = ctx := by
  simp [serve, seenAfter, served]

/-- One handle. -/
theorem plugWaiter_eq (handle : HotHandle) (ctx : NotifyContext) (el : DevInfo) :
    plugWaiter pathMatchSpec hotInitCount handle ctx el =
      ctx.serve (elementRequests pathMatchSpec hotInitCount [handle] el) := by
  unfold plugWaiter elementRequests
  by_cases hchanged : el.IsChanged
  · rw [if_neg hchanged, if_pos hchanged]
    cases hmatch : isHotMatch pathMatchSpec hotInitCount handle el with
    | false => simp [hmatch]
    | true =>
      by_cases hseen : el.deviceID ∈ ctx.devInstList
      · by_cases hdupe : handle.flags &&& HotFlag.passDupeInstance = 0#32
        · simp [hmatch, hseen, hdupe, NotifyContext.serve, served, seenAfter, requestKey,
            requestAgain, HotHandle.PassDupe]
        · simp [hmatch, hseen, hdupe, NotifyContext.serve, served, seenAfter, requestKey,
            requestAgain, requestTold, HotHandle.PassDupe]
      · simp [hmatch, hseen, NotifyContext.serve, served, seenAfter, requestKey, requestTold]
  · rw [if_pos (not_not.mp hchanged), if_neg hchanged, NotifyContext.serve_nil]

theorem elementRequests_cons (handle : HotHandle) (items : List HotHandle) (el : DevInfo) :
    elementRequests pathMatchSpec hotInitCount (handle :: items) el =
      elementRequests pathMatchSpec hotInitCount [handle] el ++
        elementRequests pathMatchSpec hotInitCount items el := by
  unfold elementRequests
  by_cases hchanged : el.IsChanged
  · cases hmatch : isHotMatch pathMatchSpec hotInitCount handle el <;> simp [hchanged, hmatch]
  · simp [hchanged]

/-- A visit changes no field the handles look at. -/
theorem plugWaiter_visit (handle : HotHandle) (ctx : NotifyContext) (el : DevInfo) :
    plugWaiter pathMatchSpec hotInitCount handle ctx (el.visit none) =
      plugWaiter pathMatchSpec hotInitCount handle ctx el := rfl

/-- All handles. -/
theorem plugWaiters_visit (items : List HotHandle) (ctx : NotifyContext) (el : DevInfo) :
    (plugWaiters pathMatchSpec mark none hotInitCount items ctx (el.visit none)).1 =
      ctx.serve (elementRequests pathMatchSpec hotInitCount items el) := by
  induction items generalizing ctx with
  | nil => simp [plugWaiters, elementRequests]
  | cons handle items ih =>
    rw [elementRequests_cons, NotifyContext.serve_append, ← plugWaiter_eq, ← plugWaiter_visit]
    exact ih _

/-- All elements. -/
theorem enumerate_plugWaiters (items : List HotHandle) (l : List DevInfo) (ctx : NotifyContext) :
    (enumerate (devEnumPlugWaiters pathMatchSpec mark none hotInitCount items) l ctx).2 =
      ctx.serve (l.flatMap (elementRequests pathMatchSpec hotInitCount items)) := by
  induction l generalizing ctx with
  | nil => simp
  | cons el l ih =>
    rw [enumerate_cons, if_pos (devEnumPlugWaiters_more none hotInitCount items ctx el),
      List.flatMap_cons, NotifyContext.serve_append, ← @plugWaiters_visit _ mark]
    exact ih _

/-- What a global sweep tells the handles: the requests are served first come. -/
theorem notified_notifyWaiters_none (s : Notifier) :
    (notifyWaiters pathMatchSpec mark s none true).notified =
      s.notified ++
        (served requestKey requestAgain [] (s.requests pathMatchSpec)).flatMap requestTold := by
  have hserve := @enumerate_plugWaiters pathMatchSpec mark s.hotInitCount s.items s.deviceList
    ⟨[], []⟩
  simp only [notifyWaiters, hserve]
  rfl

/-! ### What one handle is told -/

theorem mem_requests {s : Notifier} {el : DevInfo} {handle : HotHandle} :
    (el, handle) ∈ s.requests pathMatchSpec ↔
      el ∈ s.deviceList ∧ el.IsChanged ∧ handle ∈ s.items ∧
        isHotMatch pathMatchSpec s.hotInitCount handle el = true := by
  unfold Notifier.requests elementRequests
  constructor
  · intro h
    obtain ⟨el', hel', h⟩ := List.mem_flatMap.mp h
    split at h
    next hchanged =>
      obtain ⟨handle', hhandle', heq⟩ := List.mem_map.mp h
      obtain ⟨hitem, hmatch⟩ := List.mem_filter.mp hhandle'
      cases heq
      exact ⟨hel', hchanged, hitem, hmatch⟩
    · cases h
  · rintro ⟨hel, hchanged, hitem, hmatch⟩
    refine List.mem_flatMap.mpr ⟨el, hel, ?_⟩
    rw [if_pos hchanged]
    exact List.mem_map.mpr ⟨handle, List.mem_filter.mpr ⟨hitem, hmatch⟩, rfl⟩

/-- What a handle is told of an element goes to this handle only. -/
theorem filter_requestTold (r : DevInfo × HotHandle) (id : ℕ) :
    ((requestTold r).filter fun n => n.handle = id) =
      if r.2.id = id then requestTold r else [] := by
  split
  next hid =>
    refine List.filter_eq_self.mpr fun n hn => ?_
    simp [(HotHandle.of_mem_notifications hn).1, hid]
  next hid =>
    refine List.filter_eq_nil_iff.mpr fun n hn => ?_
    simp [(HotHandle.of_mem_notifications hn).1, hid]

/-- What a handle is told of an element is about its instance only. -/
theorem filter_requestTold_device (r : DevInfo × HotHandle) (k : List Char) :
    ((requestTold r).filter fun n => n.device.deviceID = k) =
      if requestKey r = k then requestTold r else [] := by
  split
  next hkey =>
    refine List.filter_eq_self.mpr fun n hn => ?_
    simpa [(HotHandle.of_mem_notifications hn).2.1, requestKey] using hkey
  next hkey =>
    refine List.filter_eq_nil_iff.mpr fun n hn => ?_
    simpa [(HotHandle.of_mem_notifications hn).2.1, requestKey] using hkey

/-- A filter that keeps what `f` gives for some elements and drops the rest. -/
theorem filter_flatMap_requestTold {p : Notification → Bool} {q : DevInfo × HotHandle → Bool}
    (h : ∀ r, (requestTold r).filter p = if q r then requestTold r else [])
    (rs : List (DevInfo × HotHandle)) :
    (rs.flatMap requestTold).filter p = (rs.filter q).flatMap requestTold := by
  induction rs with
  | nil => rfl
  | cons r rs ih =>
    rw [List.flatMap_cons, List.filter_append, h, ih]
    cases hq : q r <;> simp [hq]

/-- The handles occupy different slots of the pool. -/
def Notifier.Registered (s : Notifier) : Prop := (s.items.map HotHandle.id).Nodup

instance (s : Notifier) : Decidable s.Registered := inferInstanceAs (Decidable (List.Nodup _))

theorem Notifier.Registered.eq_of_id {s : Notifier} (h : s.Registered) {a b : HotHandle}
    (ha : a ∈ s.items) (hb : b ∈ s.items) (hid : a.id = b.id) : a = b :=
  List.inj_on_of_nodup_map h ha hb hid

/-- What a sweep tells a registered handle. -/
theorem sweepTold_eq {s : Notifier} (hreg : s.Registered) {handle : HotHandle}
    (hitem : handle ∈ s.items) :
    s.sweepTold pathMatchSpec mark handle.id =
      ((served requestKey requestAgain [] (s.requests pathMatchSpec)).filter
        fun r => r.2 = handle).flatMap requestTold := by
  unfold Notifier.sweepTold
  rw [notified_notifyWaiters_none, List.nil_append,
    filter_flatMap_requestTold (q := fun r => r.2.id = handle.id)
      (fun r => by simpa using filter_requestTold r handle.id)]
  congr 1
  refine List.filter_congr fun r hr => ?_
  have hrequest := mem_requests.mp ((served_sublist _ _).mem hr)
  exact decide_eq_decide.mpr
    ⟨fun hid => hreg.eq_of_id hrequest.2.2.1 hitem hid, fun heq => by rw [heq]⟩

theorem Notifier.Registered.filter_eq {s : Notifier} (h : s.Registered) {handle : HotHandle}
    (hitem : handle ∈ s.items) : (s.items.filter fun other => other = handle) = [handle] := by
  have hnodup : s.items.Nodup := List.Nodup.of_map _ h
  have hcount : s.items.count handle = 1 := List.count_eq_one_of_mem hnodup hitem
  rw [List.filter_eq, hcount]
  rfl

/-- What a handle asks for when it is shown an element. -/
theorem filter_elementRequests {s : Notifier} (hreg : s.Registered) {handle : HotHandle}
    (hitem : handle ∈ s.items) (el : DevInfo) :
    (elementRequests pathMatchSpec hotInitCount s.items el).filter (fun r => r.2 = handle) =
      if el.IsChanged ∧ isHotMatch pathMatchSpec hotInitCount handle el then [(el, handle)]
      else [] := by
  unfold elementRequests
  by_cases hchanged : el.IsChanged
  · rw [if_pos hchanged, List.filter_map]
    have hcomm : (s.items.filter fun h => isHotMatch pathMatchSpec hotInitCount h el).filter
        ((fun r : DevInfo × HotHandle => decide (r.2 = handle)) ∘ fun h => (el, h)) =
        [handle].filter fun h => isHotMatch pathMatchSpec hotInitCount h el := by
      rw [List.filter_filter, ← hreg.filter_eq hitem, List.filter_filter]
      exact List.filter_congr fun h _ => Bool.and_comm _ _
    rw [hcomm]
    cases hmatch : isHotMatch pathMatchSpec hotInitCount handle el <;> simp [hchanged, hmatch]
  · simp [hchanged]

/-- The elements a handle asks for. -/
theorem filter_requests {s : Notifier} (hreg : s.Registered) {handle : HotHandle}
    (hitem : handle ∈ s.items) :
    (s.requests pathMatchSpec).filter (fun r => r.2 = handle) =
      (s.deviceList.filter fun el =>
        el.IsChanged ∧ isHotMatch pathMatchSpec s.hotInitCount handle el).map
          fun el => (el, handle) := by
  unfold Notifier.requests
  induction s.deviceList with
  | nil => rfl
  | cons el l ih =>
    rw [List.flatMap_cons, List.filter_append, ih, filter_elementRequests hreg hitem]
    by_cases h : el.IsChanged ∧ isHotMatch pathMatchSpec s.hotInitCount handle el = true
    · simp [h]
    · rw [if_neg h, List.filter_cons_of_neg (by simpa using h), List.nil_append]

/-- What is told of a list depends on its changed elements only. -/
theorem flatMap_notifications_congr (handle : HotHandle) {p q : DevInfo → Bool} :
    ∀ {l : List DevInfo}, (∀ el ∈ l, el.IsChanged → p el = q el) →
      (l.filter p).flatMap handle.notifications = (l.filter q).flatMap handle.notifications := by
  intro l
  induction l with
  | nil => exact fun _ => rfl
  | cons el l ih =>
    intro h
    obtain ⟨hel, hl⟩ := List.forall_mem_cons.mp h
    by_cases hchanged : el.IsChanged
    · rw [List.filter_cons, List.filter_cons, hel hchanged]
      split
      · rw [List.flatMap_cons, List.flatMap_cons, ih hl]
      · exact ih hl
    · have hnone : handle.notifications el = [] :=
        HotHandle.notifications_of_not_isMarked fun hmarked => hchanged hmarked.isChanged
      rw [List.filter_cons, List.filter_cons]
      split <;> split <;> simpa [hnone] using ih hl

/-- A handle that passes duplicates is told of every element it matches. -/
theorem sweepTold_of_passDupe {s : Notifier} (hreg : s.Registered) {handle : HotHandle}
    (hitem : handle ∈ s.items) (hdupe : handle.PassDupe) :
    s.sweepTold pathMatchSpec mark handle.id =
      (s.deviceList.filter fun el => isHotMatch pathMatchSpec s.hotInitCount handle el).flatMap
        handle.notifications := by
  have hagain : ∀ r : DevInfo × HotHandle,
      decide (r.2 = handle) = true → requestAgain r = true := by
    intro r hr
    rw [requestAgain, of_decide_eq_true hr]
    exact decide_eq_true hdupe
  rw [sweepTold_eq hreg hitem, filter_served_of_again hagain, filter_requests hreg hitem,
    List.flatMap_map]
  exact flatMap_notifications_congr handle fun el _ hchanged => by simp [hchanged]

/-- A handle that does not pass duplicates is told of the instances it consumes, once. -/
theorem sweepToldOf_of_not_passDupe {s : Notifier} (hreg : s.Registered) {handle : HotHandle}
    (hitem : handle ∈ s.items) (hdupe : ¬handle.PassDupe) (k : List Char) :
    s.sweepToldOf pathMatchSpec mark handle.id k =
      ((s.firstRequest pathMatchSpec k).toList.filter fun r => r.2 = handle).flatMap
        requestTold := by
  have hagain : ∀ r : DevInfo × HotHandle, decide (r.2 = handle) = true →
      requestAgain r = false := by
    intro r hr
    rw [requestAgain, of_decide_eq_true hr]
    exact decide_eq_false hdupe
  unfold Notifier.sweepToldOf
  rw [sweepTold_eq hreg hitem, filter_flatMap_requestTold (q := fun r => requestKey r = k)
      (fun r => by simpa using filter_requestTold_device r k), List.filter_filter]
  unfold Notifier.firstRequest
  rw [← filter_served_key hagain k _ List.not_mem_nil]
  congr 1
  exact List.filter_congr fun r _ => Bool.and_comm _ _

/-! ### What a sweep tells the handles -/

/-- The shortcut for a single handle is right: the handle matches every element that is
changed. -/
def Notifier.ShortcutFits (pathMatchSpec : List Char → List Char → Bool) (s : Notifier) : Prop :=
  s.hotInitCount = 1 →
    ∀ handle ∈ s.items, ∀ el ∈ s.deviceList, el.IsChanged → patternMatches pathMatchSpec handle el

theorem isHotMatch_of_patternMatches {handle : HotHandle} {el : DevInfo}
    (h : patternMatches pathMatchSpec handle el = true) :
    isHotMatch pathMatchSpec hotInitCount handle el = true := by
  simp only [isHotMatch, Bool.or_eq_true]
  exact Or.inr h

theorem Notifier.ShortcutFits.patternMatches_of_isHotMatch {s : Notifier}
    (h : s.ShortcutFits pathMatchSpec) {handle : HotHandle} (hitem : handle ∈ s.items)
    {el : DevInfo} (hel : el ∈ s.deviceList) (hchanged : el.IsChanged)
    (hmatch : isHotMatch pathMatchSpec s.hotInitCount handle el = true) :
    patternMatches pathMatchSpec handle el = true := by
  simp only [isHotMatch, Bool.or_eq_true] at hmatch
  rcases hmatch with hone | hmatch
  · exact h (by simpa using hone) handle hitem el hel hchanged
  · exact hmatch

theorem requestKey_of_firstRequest {s : Notifier} {k : List Char} {r : DevInfo × HotHandle}
    (h : s.firstRequest pathMatchSpec k = some r) : requestKey r = k := by
  unfold Notifier.firstRequest at h
  have hkey := List.find?_some h
  exact of_decide_eq_true hkey

/-- Where the first request for an instance comes from. -/
theorem find_requests {items : List HotHandle} {k : List Char} {el : DevInfo} {handle : HotHandle} :
    ∀ {l : List DevInfo},
      (l.flatMap (elementRequests pathMatchSpec hotInitCount items)).find?
          (fun r => requestKey r = k) = some (el, handle) →
        ∃ before after, l = before ++ el :: after ∧
          ∀ earlier ∈ before, earlier.deviceID = k → earlier.IsChanged →
            ∀ other ∈ items, isHotMatch pathMatchSpec hotInitCount other earlier = false := by
  intro l
  induction l with
  | nil => simp
  | cons first l ih =>
    intro h
    rw [List.flatMap_cons, List.find?_append] at h
    cases hfirst : (elementRequests pathMatchSpec hotInitCount items first).find?
        (fun r => requestKey r = k) with
    | some r =>
      rw [hfirst, Option.some_or, Option.some.injEq] at h
      subst h
      have hmem := List.mem_of_find?_eq_some hfirst
      unfold elementRequests at hmem
      split at hmem
      · obtain ⟨other, -, heq⟩ := List.mem_map.mp hmem
        cases heq
        exact ⟨[], l, rfl, by simp⟩
      · cases hmem
    | none =>
      rw [hfirst, Option.none_or] at h
      obtain ⟨before, after, rfl, hbefore⟩ := ih h
      refine ⟨first :: before, after, rfl, ?_⟩
      refine List.forall_mem_cons.mpr ⟨fun hkey hchanged other hother => ?_, hbefore⟩
      -- a handle that matched `first` would have asked for the instance
      by_contra hmatch
      have hmem : (first, other) ∈ elementRequests pathMatchSpec hotInitCount items first := by
        rw [elementRequests, if_pos hchanged]
        exact List.mem_map.mpr
          ⟨other, List.mem_filter.mpr ⟨hother, by simpa using hmatch⟩, rfl⟩
      have hmiss := List.find?_eq_none.mp hfirst _ hmem
      exact hmiss (decide_eq_true hkey)

/-- A handle that consumes an instance in two sweeps of one list does so for the same
element. -/
theorem firstRequest_eq {s s' : Notifier} (hlist : s'.deviceList = s.deviceList) {k : List Char}
    {el el' : DevInfo} {handle : HotHandle} (hfits : s.ShortcutFits pathMatchSpec)
    (hfits' : s'.ShortcutFits pathMatchSpec)
    (h : s.firstRequest pathMatchSpec k = some (el, handle))
    (h' : s'.firstRequest pathMatchSpec k = some (el', handle)) : el = el' := by
  have hmem := mem_requests.mp (List.mem_of_find?_eq_some h)
  have hmem' := mem_requests.mp (List.mem_of_find?_eq_some h')
  obtain ⟨hel, hchanged, hitem, hmatch⟩ := hmem
  obtain ⟨hel', hchanged', hitem', hmatch'⟩ := hmem'
  have hpattern := hfits.patternMatches_of_isHotMatch hitem hel hchanged hmatch
  have hpattern' := hfits'.patternMatches_of_isHotMatch hitem' hel' hchanged' hmatch'
  have hkey : el.deviceID = k := requestKey_of_firstRequest h
  have hkey' : el'.deviceID = k := requestKey_of_firstRequest h'
  obtain ⟨before, after, hsplit, hbefore⟩ := find_requests h
  obtain ⟨before', after', hsplit', hbefore'⟩ := find_requests h'
  -- neither element comes before the other: the handle would have asked for it earlier
  have hnot : el' ∉ before := by
    intro hearlier
    have hmiss := hbefore el' hearlier hkey' hchanged' handle hitem
    rw [isHotMatch_of_patternMatches hpattern'] at hmiss
    cases hmiss
  have hnot' : el ∉ before' := by
    intro hearlier
    have hmiss := hbefore' el hearlier hkey hchanged handle hitem'
    rw [isHotMatch_of_patternMatches hpattern] at hmiss
    cases hmiss
  rw [hlist, hsplit] at hsplit'
  rcases List.append_eq_append_iff.mp hsplit' with ⟨mid, rfl, hmid⟩ | ⟨mid, rfl, hmid⟩
  · cases mid with
    | nil =>
      cases hmid
      rfl
    | cons first mid =>
      cases hmid
      exact absurd (List.mem_append_right _ List.mem_cons_self) hnot'
  · cases mid with
    | nil =>
      cases hmid
      rfl
    | cons first mid =>
      cases hmid
      exact absurd (List.mem_append_right _ List.mem_cons_self) hnot

end Sweep

/-! ### What a sweep tells a handle -/

section Told

variable (pathMatchSpec : List Char → List Char → Bool) (mark : Bool)

/-- A sweep calls the handle exactly once for every distinct device instance that is marked
and matches its pattern, more often only when the handle passes duplicates, and never for
another element. -/
structure ToldOnce (s : Notifier) (handle : HotHandle) : Prop where
  told : ∃ els : List DevInfo, els.Sublist s.deviceList ∧
    (∀ el ∈ els, el.IsMarked ∧ patternMatches pathMatchSpec handle el = true) ∧
    (∀ el ∈ s.deviceList, el.IsMarked → patternMatches pathMatchSpec handle el = true →
      el.deviceID ∈ els.map fun el => el.deviceID) ∧
    (¬handle.PassDupe → (els.map fun el => el.deviceID).Nodup) ∧
    s.sweepTold pathMatchSpec mark handle.id = els.flatMap handle.notifications

/-- What a sweep tells a handle: the handle that consumes an instance is told of it once,
one that passes duplicates is told of every element that matches it, and the others of
nothing. -/
structure Consumed (s : Notifier) (handle : HotHandle) : Prop where
  matching : ∀ n ∈ s.sweepTold pathMatchSpec mark handle.id, ∃ el ∈ s.deviceList,
    el.IsMarked ∧ patternMatches pathMatchSpec handle el = true ∧ n ∈ handle.notifications el
  passDupe : handle.PassDupe → s.sweepTold pathMatchSpec mark handle.id =
    (s.deviceList.filter fun el => patternMatches pathMatchSpec handle el).flatMap
      handle.notifications
  consumes : ¬handle.PassDupe → ∀ k el, s.firstRequest pathMatchSpec k = some (el, handle) →
    s.sweepToldOf pathMatchSpec mark handle.id k = handle.notifications el
  leaves : ¬handle.PassDupe → ∀ k, (∀ el, s.firstRequest pathMatchSpec k ≠ some (el, handle)) →
    s.sweepToldOf pathMatchSpec mark handle.id k = []

variable {pathMatchSpec mark}

/-- A handle is told only of what it asks for. -/
theorem of_mem_sweepTold {s : Notifier} (hreg : s.Registered) {handle : HotHandle}
    (hitem : handle ∈ s.items) {n : Notification}
    (hn : n ∈ s.sweepTold pathMatchSpec mark handle.id) :
    ∃ el, (el, handle) ∈ s.requests pathMatchSpec ∧ n ∈ handle.notifications el := by
  rw [sweepTold_eq hreg hitem] at hn
  obtain ⟨⟨el, other⟩, hr, htold⟩ := List.mem_flatMap.mp hn
  obtain ⟨hserved, hother⟩ := List.mem_filter.mp hr
  obtain rfl : other = handle := of_decide_eq_true hother
  exact ⟨el, (served_sublist _ _).mem hserved, htold⟩

theorem consumed_of_registered {s : Notifier} (hreg : s.Registered)
    (hfits : s.ShortcutFits pathMatchSpec) {handle : HotHandle} (hitem : handle ∈ s.items) :
    Consumed pathMatchSpec mark s handle where
  matching := by
    intro n hn
    obtain ⟨el, hrequest, hn⟩ := of_mem_sweepTold hreg hitem hn
    obtain ⟨hel, hchanged, -, hmatch⟩ := mem_requests.mp hrequest
    exact ⟨el, hel, (HotHandle.of_mem_notifications hn).2.2,
      hfits.patternMatches_of_isHotMatch hitem hel hchanged hmatch, hn⟩
  passDupe := by
    intro hdupe
    rw [sweepTold_of_passDupe hreg hitem hdupe]
    refine flatMap_notifications_congr handle fun el hel hchanged => Bool.eq_iff_iff.mpr ⟨?_, ?_⟩
    · exact hfits.patternMatches_of_isHotMatch hitem hel hchanged
    · exact isHotMatch_of_patternMatches
  consumes := by
    intro hdupe k el hfirst
    rw [sweepToldOf_of_not_passDupe hreg hitem hdupe, hfirst]
    simp [requestTold]
  leaves := by
    intro hdupe k hfirst
    rw [sweepToldOf_of_not_passDupe hreg hitem hdupe]
    cases h : s.firstRequest pathMatchSpec k with
    | none => rfl
    | some r =>
      have hne : r.2 ≠ handle := by
        rintro rfl
        exact hfirst r.1 h
      simp [hne]

/-- No element is marked after a sweep. -/
theorem not_isMarked_notifyWaiters_none (s : Notifier) :
    ∀ el ∈ (notifyWaiters pathMatchSpec mark s none true).deviceList, ¬el.IsMarked := by
  rw [deviceList_notifyWaiters_none]
  exact List.forall_mem_map.mpr fun el _ => DevInfo.not_isMarked_clear _

/-- The other handles change what a sweep tells a handle only by the instances they
consume. -/
theorem sweepTold_eq_of_deviceList_eq {s s' : Notifier} (hlist : s'.deviceList = s.deviceList)
    {handle : HotHandle} (h : Consumed pathMatchSpec mark s handle)
    (h' : Consumed pathMatchSpec mark s' handle) (hdupe : handle.PassDupe) :
    s'.sweepTold pathMatchSpec mark handle.id = s.sweepTold pathMatchSpec mark handle.id := by
  rw [h.passDupe hdupe, h'.passDupe hdupe, hlist]

/-- A sweep of the same list with two sets of handles.  A device instance is consumed by
the first handle, in the order of the elements and of the handles, that matches a changed
element of it: that handle is told of the instance once, if the element is marked.  A
handle that passes duplicates is told of every marked element that matches it, whatever
other handles there are; any other handle is told of the instances it consumes and of
nothing else, and what it is told of one does not depend on the other handles. -/
theorem sweep_consumed (pathMatchSpec : List Char → List Char → Bool) (mark : Bool)
    {s s' : Notifier} (hreg : s.Registered) (hreg' : s'.Registered)
    (hfits : s.ShortcutFits pathMatchSpec) (hfits' : s'.ShortcutFits pathMatchSpec)
    (hlist : s'.deviceList = s.deviceList) :
    (∀ handle ∈ s.items, Consumed pathMatchSpec mark s handle) ∧
      (∀ el ∈ (notifyWaiters pathMatchSpec mark s none true).deviceList, ¬el.IsMarked) ∧
      ∀ handle ∈ s.items, handle ∈ s'.items →
        (handle.PassDupe → s'.sweepTold pathMatchSpec mark handle.id =
          s.sweepTold pathMatchSpec mark handle.id) ∧
        (¬handle.PassDupe → ∀ k el el', s.firstRequest pathMatchSpec k = some (el, handle) →
          s'.firstRequest pathMatchSpec k = some (el', handle) →
            s'.sweepToldOf pathMatchSpec mark handle.id k =
              s.sweepToldOf pathMatchSpec mark handle.id k) := by
  have hconsumed : ∀ handle ∈ s.items, Consumed pathMatchSpec mark s handle :=
    fun handle hitem => consumed_of_registered hreg hfits hitem
  refine ⟨hconsumed, not_isMarked_notifyWaiters_none s, fun handle hitem hitem' => ?_⟩
  have hother : Consumed pathMatchSpec mark s' handle :=
    consumed_of_registered hreg' hfits' hitem'
  refine ⟨sweepTold_eq_of_deviceList_eq hlist (hconsumed handle hitem) hother, ?_⟩
  intro hdupe k el el' hfirst hfirst'
  rw [(hconsumed handle hitem).consumes hdupe k el hfirst, hother.consumes hdupe k el' hfirst',
    firstRequest_eq hlist hfits hfits' hfirst hfirst']

end Told

/-! ### Two handles for one device -/

/-- A list with one device, added, and handles for all devices in the slots `ids`. -/
def oneArrival (ids : List ℕ) : Notifier where
  deviceList := [aDevice.devInfo.setSyncFlags SyncFlag.added]
  items := ids.map aHotHandle
  hotInitCount := ids.length
  posted := []
  arrivalTimer := false
  removalTimer := false
  devNodesTimer := false
  notified := []

/-- The instance is consumed by the handle that was registered first. -/
theorem sweep_consumed_oneArrival :
    Consumed matchExactly false (oneArrival [1, 2]) (aHotHandle 1) :=
  (@sweep_consumed matchExactly false (oneArrival [1, 2]) (oneArrival [1, 2])
    (by decide) (by decide) (fun h => by cases h) (fun h => by cases h) rfl).1 _
    List.mem_cons_self

/-- The second of two handles for all devices is not told of an arrival that it is told of
when it is the only one. -/
theorem not_toldOnce_oneArrival :
    ¬ToldOnce matchExactly false (oneArrival [1, 2]) (aHotHandle 2) ∧
      (oneArrival [1, 2]).sweepTold matchExactly false 2 = [] ∧
      (oneArrival [2]).sweepTold matchExactly false 2 =
        [.onHotPlug 2 aDevice SyncFlag.added] := by
  refine ⟨fun h => ?_, by decide, by decide⟩
  obtain ⟨els, -, hmatch, hall, -, htold⟩ := h.told
  have hnone : (oneArrival [1, 2]).sweepTold matchExactly false (aHotHandle 2).id = [] := by decide
  rw [hnone] at htold
  have hmem := hall _ List.mem_cons_self (by decide) (by decide)
  obtain ⟨el, hel, -⟩ := List.mem_map.mp hmem
  have hreport : (aHotHandle 2).notifications el = [] :=
    List.flatMap_eq_nil_iff.mp htold.symm el hel
  unfold HotHandle.notifications at hreport
  rcases (hmatch el hel).1 with hadded | hremoved
  · rw [if_pos hadded] at hreport
    cases hreport
  · rw [if_pos hremoved] at hreport
    split at hreport <;> cases hreport

end LibusbK
