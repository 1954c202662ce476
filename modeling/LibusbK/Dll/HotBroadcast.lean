import LibusbK.Dll.GuidText
import LibusbK.Dll.HotRegister
import LibusbK.Lib.Objects

/-!
# The device notifications of the notifier window

The window asks the system for the arrivals and removals of one device interface at a time:
`h_RegisterForBroadcast` goes through the master list, and registers the interface of every
device that a handle matches and that is not in `BroadcastList` yet (`lusbk_hot_plug.c`).  It
is called for a handle when the handle is registered, and for all of them when the device nodes
have changed.  Nothing is unregistered before the window is destroyed.

## Main definitions

* `Broadcasts`, `registerForBroadcast` — the list, with the notifications the system holds for
  the window, and the registration.
* `hotKBroadcast` — the calls and the messages of the window, with both.
* `Accounts` — the list accounts for the notifications.

## Main results

* `accounts_iff` — the list accounts for the notifications all along a run exactly when none
  fails to be unregistered.
-/

namespace LibusbK

/-! ### The list -/

/-- `KHOT_BROADCAST_EL`. -/
structure BroadcastEl where
  notifyHandle : ℕ
  interfaceGUID : Guid
deriving DecidableEq

/-- `BroadcastList`, and the device notifications the system holds for the window. -/
structure Broadcasts where
  broadcastList : List BroadcastEl
  registered : Objects Guid

/-- What becomes of a registration: the element cannot be allocated, or
`RegisterDeviceNotificationA` answers. -/
inductive RegisterAnswer
  | noMemory
  | refused
  | accepted
deriving DecidableEq

namespace Broadcasts

/-- The interfaces in the list. -/
def guids (b : Broadcasts) : List Guid := b.broadcastList.map BroadcastEl.interfaceGUID

/-- A registration that is accepted. -/
def register (b : Broadcasts) (guid : Guid) : Broadcasts where
  broadcastList := b.broadcastList ++ [⟨b.registered.next, guid⟩]
  registered := b.registered.create guid

/-- `UnregisterDeviceNotification` for the elements of a list, with its answers. -/
def unregister : List BroadcastEl → List Bool → Objects Guid → Objects Guid
  | [], _, registered => registered
  | el :: els, answers, registered =>
    unregister els answers.tail
      (if answers.headD true then registered.delete el.notifyHandle else registered)

/-- `WM_DESTROY`: an element is deleted although its notification may remain. -/
def destroy (b : Broadcasts) (answers : List Bool) : Broadcasts where
  broadcastList := []
  registered := unregister b.broadcastList answers b.registered

end Broadcasts

/-- The GUID of the interface of a device, if its text is one. -/
def DevInfo.interfaceGuid (el : DevInfo) : Option Guid :=
  stringToGuid (el.deviceInterfaceGUID.map fun c => UInt8.ofNat c.toNat)

section Register

variable (pathMatchSpec : List Char → List Char → Bool)

/-- `h_DevEnum_RegisterForBroadcast`; the answers are those to the registrations to come. -/
def devEnumRegisterForBroadcast (hotInitCount : ℤ) (handle : HotHandle)
    (ctx : Broadcasts × List RegisterAnswer) (el : DevInfo) :
    Visited DevInfo (Broadcasts × List RegisterAnswer) :=
  if isHotMatch pathMatchSpec hotInitCount handle el then
    match el.interfaceGuid with
    | none => ⟨some el, ctx, true⟩
    | some guid =>
      if guid ∈ ctx.1.guids then ⟨some el, ctx, true⟩
      else
        match ctx.2.headD .accepted with
        | .noMemory => ⟨some el, (ctx.1, ctx.2.tail), false⟩
        | .refused => ⟨some el, (ctx.1, ctx.2.tail), true⟩
        | .accepted => ⟨some el, (ctx.1.register guid, ctx.2.tail), true⟩
  else ⟨some el, ctx, true⟩

/-- `h_RegisterForBroadcast` for one handle. -/
def registerHandle (s : Notifier) (ctx : Broadcasts × List RegisterAnswer) (handle : HotHandle) :
    Broadcasts × List RegisterAnswer :=
  (enumerate (devEnumRegisterForBroadcast pathMatchSpec s.hotInitCount handle) s.deviceList ctx).2

/-- `h_RegisterForBroadcast`, for all the handles if it is given none. -/
def registerForBroadcast (s : Notifier) (b : Broadcasts) (answers : List RegisterAnswer) :
    Option HotHandle → Broadcasts
  | some handle => (registerHandle pathMatchSpec s (b, answers) handle).1
  | none => (s.items.foldl (registerHandle pathMatchSpec s) (b, answers)).1

end Register

/-! ### The window -/

/-- What the system answers during a call. -/
structure BroadcastAnswers where
  registers : List RegisterAnswer := []
  unregisters : List Bool := []

/-- `g_HotNotifierList` with its notifications. -/
structure HotSystem where
  list : HotNotifierList
  broadcasts : Broadcasts

/-- Before the first call. -/
def HotSystem.start : HotSystem where
  list := .start
  broadcasts := ⟨[], .empty⟩

/-- There is a window that takes `WM_USER_INIT_HOT_HANDLE`: the one that has just been
created, or an earlier one. -/
def HotNotifierList.takesHandle (s : HotNotifierList) (creation : Creation) : Bool :=
  if s.hotLockCount = 0 then
    match creation with
    | .failed _ => false
    | .created _ => true
  else s.hwnd

section Window

variable (pathMatchSpec : List Char → List Char → Bool) (mark : Bool)

/-- What a call does to the notifications; `s` and `s'` are the list before and after it. -/
def broadcastsAfter (s s' : HotNotifierList) (b : Broadcasts) (a : BroadcastAnswers) :
    HotCall → Broadcasts
  | .init handle creation refused =>
    if s.takesHandle creation then
      if refused then
        -- the last handle that is not registered takes the window with it
        if s.hotLockCount = 0 then b.destroy a.unregisters else b
      else registerForBroadcast pathMatchSpec s'.toNotifier b a.registers (some handle)
    else b
  | .free _ => if s.hwnd ∧ ¬s'.hwnd then b.destroy a.unregisters else b
  | .freeAll => if s.hwnd then b.destroy a.unregisters else b
  | .window (.timerDevNodesChanged _) =>
    registerForBroadcast pathMatchSpec s'.toNotifier b a.registers none
  | .window _ => b

/-- The hot-plug functions and the notifier window, with the notifications. -/
def hotKBroadcast : Machine HotSystem (HotCall × BroadcastAnswers) where
  step s c := (s.list.call pathMatchSpec mark c.1).map fun list' =>
    ⟨list', broadcastsAfter pathMatchSpec s.list list' s.broadcasts c.2 c.1⟩

end Window

/-! ### What is registered -/

/-- **The list accounts for the notifications**: it has one element for each, and no two for
one interface. -/
structure Broadcasts.Accounts (b : Broadcasts) : Prop where
  nodup : b.guids.Nodup
  listed : ∀ el ∈ b.broadcastList, b.registered.get el.notifyHandle = some el.interfaceGUID
  held : ∀ handle guid, b.registered.get handle = some guid → ⟨handle, guid⟩ ∈ b.broadcastList

/-- The list accounts for the notifications, and there are none without a window. -/
structure HotSystem.Accounts (s : HotSystem) : Prop where
  broadcasts : s.broadcasts.Accounts
  window : s.list.hwnd = false → s.broadcasts.broadcastList = []

namespace Broadcasts

variable {b : Broadcasts}

theorem guids_register (b : Broadcasts) (guid : Guid) :
    (b.register guid).guids = b.guids ++ [guid] := by
  simp [guids, register]

theorem Accounts.register (h : b.Accounts) {guid : Guid} (hnew : guid ∉ b.guids) :
    (b.register guid).Accounts := by
  have hfresh : b.registered.get b.registered.next = none := b.registered.get_of_le _ le_rfl
  constructor
  · rw [guids_register]
    exact List.Nodup.append h.nodup (List.nodup_singleton guid)
      (List.disjoint_singleton.mpr hnew)
  · intro el hel
    rcases List.mem_append.mp hel with hel | hel
    · have hget := h.listed el hel
      have hne : el.notifyHandle ≠ b.registered.next := by
        intro heq
        rw [heq, hfresh] at hget
        cases hget
      exact (b.registered.get_create_of_ne guid hne).trans hget
    · obtain rfl := List.mem_singleton.mp hel
      exact b.registered.get_create_self guid
  · intro handle guid' hget
    change (b.registered.create guid).get handle = some guid' at hget
    by_cases heq : handle = b.registered.next
    · subst heq
      rw [Objects.get_create_self] at hget
      cases hget
      exact List.mem_append_right _ (List.mem_singleton_self _)
    · rw [b.registered.get_create_of_ne guid heq] at hget
      exact List.mem_append_left _ (h.held handle guid' hget)

/-- Two elements do not have one notification. -/
theorem Accounts.handles (h : b.Accounts) :
    (b.broadcastList.map BroadcastEl.notifyHandle).Nodup := by
  refine List.Nodup.map_on ?_ (List.Nodup.of_map _ h.nodup)
  intro el hel el' hel' heq
  have hget := h.listed el hel
  rw [heq, h.listed el' hel'] at hget
  exact List.inj_on_of_nodup_map h.nodup hel hel' (Option.some.inj hget).symm

/-- Other notifications stay. -/
theorem get_unregister_of_notMem {handle : ℕ} {els : List BroadcastEl}
    (h : handle ∉ els.map BroadcastEl.notifyHandle) (answers : List Bool)
    (registered : Objects Guid) :
    (unregister els answers registered).get handle = registered.get handle := by
  induction els generalizing answers registered with
  | nil => rfl
  | cons el els ih =>
    rw [List.map_cons, List.mem_cons, not_or] at h
    unfold unregister
    rw [ih h.2]
    split
    · exact registered.get_delete_of_ne h.1
    · rfl

/-- A notification that fails to be unregistered is left. -/
theorem exists_get_unregister {els : List BroadcastEl} {answers : List Bool}
    {registered : Objects Guid} (hhandles : (els.map BroadcastEl.notifyHandle).Nodup)
    (hlisted : ∀ el ∈ els, registered.get el.notifyHandle = some el.interfaceGUID)
    (hfails : false ∈ answers.take els.length) :
    ∃ handle guid, (unregister els answers registered).get handle = some guid := by
  induction els generalizing answers registered with
  | nil => simp at hfails
  | cons el els ih =>
    rw [List.map_cons, List.nodup_cons] at hhandles
    cases answers with
    | nil => simp at hfails
    | cons answer answers =>
      cases answer with
      | false =>
        refine ⟨el.notifyHandle, el.interfaceGUID, ?_⟩
        unfold unregister
        rw [get_unregister_of_notMem hhandles.1]
        exact hlisted el List.mem_cons_self
      | true =>
        have hrest : false ∈ answers.take els.length := by simpa using hfails
        refine ih hhandles.2 (fun el' hel' => ?_) hrest
        have hne : el'.notifyHandle ≠ el.notifyHandle := fun heq =>
          hhandles.1 (heq ▸ List.mem_map_of_mem hel')
        exact (registered.get_delete_of_ne hne).trans (hlisted el' (List.mem_cons_of_mem _ hel'))

/-- If none fails, those of the list are gone. -/
theorem get_unregister_of_mem {handle : ℕ} {els : List BroadcastEl} {answers : List Bool}
    (registered : Objects Guid) (h : handle ∈ els.map BroadcastEl.notifyHandle)
    (hnone : false ∉ answers.take els.length) :
    (unregister els answers registered).get handle = none := by
  have hdead : ∀ {els : List BroadcastEl} {answers : List Bool} {registered : Objects Guid},
      registered.get handle = none → (unregister els answers registered).get handle = none := by
    intro els
    induction els with
    | nil => exact id
    | cons el els ih =>
      intro answers registered hget
      apply ih
      split
      · by_cases heq : handle = el.notifyHandle
        · rw [heq, Objects.get_delete_self]
        · rw [registered.get_delete_of_ne heq, hget]
      · exact hget
  induction els generalizing answers registered with
  | nil => cases h
  | cons el els ih =>
    have hhead : answers.headD true = true := by
      cases answers with
      | nil => rfl
      | cons answer answers =>
        cases answer with
        | true => rfl
        | false => simp at hnone
    have htail : false ∉ answers.tail.take els.length := by
      cases answers with
      | nil => simp
      | cons answer answers =>
        intro hmem
        exact hnone (List.mem_cons_of_mem _ hmem)
    unfold unregister
    rw [if_pos hhead]
    rcases List.mem_cons.mp h with heq | hmem
    · apply hdead
      rw [heq, Objects.get_delete_self]
    · exact ih _ hmem htail

/-- The list still accounts for the notifications after `WM_DESTROY` if none fails to be
unregistered, and only then. -/
theorem Accounts.destroy_iff (h : b.Accounts) (answers : List Bool) :
    (b.destroy answers).Accounts ↔ false ∉ answers.take b.broadcastList.length := by
  constructor
  · intro hafter hfails
    obtain ⟨handle, guid, hget⟩ := exists_get_unregister h.handles h.listed hfails
    cases hafter.held handle guid hget
  · intro hnone
    refine ⟨List.nodup_nil, List.forall_mem_nil _, fun handle guid hget => ?_⟩
    change (unregister b.broadcastList answers b.registered).get handle = some guid at hget
    by_cases hmem : handle ∈ b.broadcastList.map BroadcastEl.notifyHandle
    · rw [get_unregister_of_mem _ hmem hnone] at hget
      cases hget
    · rw [get_unregister_of_notMem hmem] at hget
      exact absurd (List.mem_map_of_mem (h.held handle guid hget)) hmem

end Broadcasts

/-! ### Registering keeps the account -/

section Registered

variable {pathMatchSpec : List Char → List Char → Bool}

/-- A property of the list that a registration of a new interface keeps is kept by
`h_RegisterForBroadcast`. -/
theorem registerHandle_induction {P : Broadcasts → Prop}
    (hregister : ∀ b guid, guid ∉ b.guids → P b → P (b.register guid)) (s : Notifier)
    (handle : HotHandle) {ctx : Broadcasts × List RegisterAnswer} (h : P ctx.1) :
    P (registerHandle pathMatchSpec s ctx handle).1 := by
  unfold registerHandle
  generalize s.deviceList = l
  induction l generalizing ctx with
  | nil => exact h
  | cons el l ih =>
    rw [enumerate_cons]
    have hvisit :
        P (devEnumRegisterForBroadcast pathMatchSpec s.hotInitCount handle ctx el).ctx.1 := by
      unfold devEnumRegisterForBroadcast
      split
      · split
        · exact h
        · next guid _ =>
          split
          · exact h
          · next hnew =>
            split
            · exact h
            · exact h
            · exact hregister _ _ hnew h
      · exact h
    split
    · exact ih hvisit
    · exact hvisit

theorem registerForBroadcast_induction {P : Broadcasts → Prop}
    (hregister : ∀ b guid, guid ∉ b.guids → P b → P (b.register guid)) (s : Notifier)
    {b : Broadcasts} (answers : List RegisterAnswer) (hotHandle : Option HotHandle) (h : P b) :
    P (registerForBroadcast pathMatchSpec s b answers hotHandle) := by
  cases hotHandle with
  | some handle => exact registerHandle_induction hregister s handle h
  | none =>
    have hall : ∀ (items : List HotHandle) (ctx : Broadcasts × List RegisterAnswer), P ctx.1 →
        P (items.foldl (registerHandle pathMatchSpec s) ctx).1 := by
      intro items
      induction items with
      | nil => exact fun _ h => h
      | cons handle items ih =>
        exact fun ctx h => ih _ (registerHandle_induction hregister s handle h)
    exact hall s.items (b, answers) h

end Registered

/-! ### The account over a run -/

/-- The call destroys the window. -/
def HotNotifierList.Destroys (s : HotNotifierList) : HotCall → Prop
  | .init _ (.created _) refused => s.hotLockCount = 0 ∧ refused = true
  | .free (some id) => s.hwnd = true ∧ s.hotLockCount = 1 ∧ ∃ handle ∈ s.items, handle.id = id
  | .freeAll => s.hwnd = true
  | _ => False

/-- The window is destroyed, and a notification of the list fails to be unregistered. -/
def Leaks (s : HotSystem) (c : HotCall × BroadcastAnswers) : Prop :=
  s.list.Destroys c.1 ∧ false ∈ c.2.unregisters.take s.broadcasts.broadcastList.length

section Step

variable {pathMatchSpec : List Char → List Char → Bool} {mark : Bool}

/-- All that a call does to the notifications: it registers some, or leaves them as they are,
or destroys the window. -/
inductive BroadcastOutcome (pathMatchSpec : List Char → List Char → Bool) (s s' : HotNotifierList)
    (b : Broadcasts) (a : BroadcastAnswers) (c : HotCall) : Broadcasts → Prop
  | registers (hotHandle : Option HotHandle) (hkeeps : ¬s.Destroys c) (hwnd : s'.hwnd = true) :
    BroadcastOutcome pathMatchSpec s s' b a c
      (registerForBroadcast pathMatchSpec s'.toNotifier b a.registers hotHandle)
  | stays (hkeeps : ¬s.Destroys c) (hwnd : s'.hwnd = s.hwnd) :
    BroadcastOutcome pathMatchSpec s s' b a c b
  | destroyed (hdestroys : s.Destroys c) (hwnd : s'.hwnd = false) :
    BroadcastOutcome pathMatchSpec s s' b a c (b.destroy a.unregisters)

variable {s s' : HotNotifierList} {b : Broadcasts} {a : BroadcastAnswers}

theorem hwnd_send {m : HotMessage} (h : s.send pathMatchSpec mark m = some s') :
    s'.hwnd = s.hwnd := by
  obtain ⟨n, -, rfl⟩ := Option.map_eq_some_iff.mp h
  rfl

theorem broadcastOutcome_init {handle : HotHandle} {creation : Creation} {refused : Bool}
    (h : s.hotKInit pathMatchSpec mark handle creation refused = some s') :
    BroadcastOutcome pathMatchSpec s s' b a (.init handle creation refused)
      (broadcastsAfter pathMatchSpec s s' b a (.init handle creation refused)) := by
  unfold HotNotifierList.hotKInit at h
  unfold broadcastsAfter HotNotifierList.takesHandle
  dsimp only at h ⊢
  by_cases hlock : s.hotLockCount = 0
  · rw [if_pos (by omega)] at h
    rw [if_pos hlock]
    cases creation with
    | failed step =>
      cases h
      exact .stays id rfl
    | created found =>
      cases hfound : found handle.initPattern with
      | none => simp [hfound] at h
      | some items =>
        simp only [hfound, HotNotifierList.sendInitHotHandle, if_true] at h
        rw [if_pos rfl]
        cases refused with
        | true =>
          rw [if_pos rfl, if_pos hlock]
          simp only [if_true, hlock] at h
          rw [if_pos (by decide)] at h
          cases h
          have hdestroys : s.Destroys (.init handle (.created found) true) := ⟨hlock, rfl⟩
          exact .destroyed hdestroys rfl
        | false =>
          simp only [Bool.false_eq_true, if_false] at h ⊢
          have hkeeps : ¬s.Destroys (.init handle (.created found) false) := by
            intro hdestroys
            cases hdestroys.2
          exact .registers _ hkeeps (hwnd_send h)
  · rw [if_neg (by omega)] at h
    rw [if_neg hlock]
    cases creation with
    | failed step => cases h
    | created found =>
      have hkeeps : ¬s.Destroys (.init handle (.created found) refused) := fun h => hlock h.1
      simp only [HotNotifierList.sendInitHotHandle] at h
      cases hwnd : s.hwnd with
      | false =>
        simp only [hwnd, Bool.false_eq_true, if_false] at h ⊢
        split at h
        · cases h
        · cases h
          exact .stays hkeeps hwnd.symm
      | true =>
        simp only [hwnd, if_true] at h ⊢
        cases refused with
        | true =>
          simp only [if_true] at h ⊢
          rw [if_neg (by omega)] at h
          cases h
          rw [if_neg hlock]
          exact .stays hkeeps hwnd.symm
        | false =>
          simp only [Bool.false_eq_true, if_false] at h ⊢
          exact .registers _ hkeeps (hwnd_send h)

theorem broadcastOutcome_free {handle : Option ℕ}
    (h : s.hotKFree pathMatchSpec mark handle = some s') :
    BroadcastOutcome pathMatchSpec s s' b a (.free handle)
      (broadcastsAfter pathMatchSpec s s' b a (.free handle)) := by
  unfold broadcastsAfter
  dsimp only
  cases handle with
  | none =>
    cases h
    rw [if_neg fun hwnd => hwnd.2 hwnd.1]
    exact .stays id rfl
  | some id =>
    unfold HotNotifierList.hotKFree at h
    dsimp only at h
    by_cases hwnd : s.hwnd = true
    · rw [if_neg (not_not.mpr hwnd)] at h
      split at h
      · cases h
        rw [if_neg fun hno => hno.2 hno.1]
        exact .stays (fun hdestroys => by
          have := hdestroys.2.1
          omega) rfl
      · by_cases hitem : ∃ handle ∈ s.items, handle.id = id
        · rw [if_pos hitem] at h
          obtain ⟨t, ht, rfl⟩ := Option.map_eq_some_iff.mp h
          have htwnd : t.hwnd = true := (hwnd_send ht).trans hwnd
          have htlock : t.hotLockCount = s.hotLockCount - 1 := by
            obtain ⟨n, -, rfl⟩ := Option.map_eq_some_iff.mp ht
            rfl
          by_cases hzero : t.hotLockCount = 0
          · rw [if_pos hzero, HotNotifierList.hotKFreeAll, if_pos htwnd]
            rw [if_pos ⟨hwnd, by simp⟩]
            exact .destroyed ⟨hwnd, by omega, hitem⟩ rfl
          · rw [if_neg hzero, if_neg fun hno => hno.2 htwnd]
            exact .stays (fun hdestroys => hzero (by
              have := hdestroys.2.1
              omega)) (htwnd.trans hwnd.symm)
        · rw [if_neg hitem] at h
          cases h
          rw [if_neg fun hno => hno.2 hno.1]
          exact .stays (fun hdestroys => hitem hdestroys.2.2) rfl
    · rw [if_pos hwnd] at h
      cases h
      rw [if_neg fun hno => hno.2 hno.1]
      exact .stays (fun hdestroys => hwnd hdestroys.1) rfl

theorem broadcastOutcome_call {c : HotCall} (h : s.call pathMatchSpec mark c = some s') :
    BroadcastOutcome pathMatchSpec s s' b a c (broadcastsAfter pathMatchSpec s s' b a c) := by
  cases c with
  | init handle creation refused => exact broadcastOutcome_init h
  | free handle => exact broadcastOutcome_free h
  | freeAll =>
    cases h
    unfold broadcastsAfter HotNotifierList.hotKFreeAll
    dsimp only
    split
    · next hwnd => exact .destroyed hwnd rfl
    · next hwnd => exact .stays hwnd rfl
  | window m =>
    change s.window pathMatchSpec mark m = some s' at h
    unfold HotNotifierList.window at h
    split at h
    · next hwnd =>
      have hwnd' : s'.hwnd = s.hwnd := hwnd_send h
      cases m with
      | timerDevNodesChanged found => exact .registers none id (hwnd'.trans hwnd)
      | _ => exact .stays id hwnd'
    · cases h

/-- A step keeps the account, or leaks a notification and loses it. -/
theorem accounts_step {s t : HotSystem} {c : HotCall × BroadcastAnswers} (hs : s.Accounts)
    (hstep : (hotKBroadcast pathMatchSpec mark).step s c = some t) :
    ¬Leaks s c ∧ t.Accounts ∨ Leaks s c ∧ ¬t.Accounts := by
  obtain ⟨list', hcall, rfl⟩ := Option.map_eq_some_iff.mp hstep
  have houtcome := broadcastOutcome_call (b := s.broadcasts) (a := c.2) hcall
  generalize broadcastsAfter pathMatchSpec s.list list' s.broadcasts c.2 c.1 = b' at houtcome
  cases houtcome with
  | registers hotHandle hkeeps hwnd =>
    refine .inl ⟨fun hleaks => hkeeps hleaks.1, ?_, fun hno => ?_⟩
    · exact registerForBroadcast_induction (fun b guid hnew hb => hb.register hnew) _ _ _
        hs.broadcasts
    · rw [hwnd] at hno
      cases hno
  | stays hkeeps hwnd =>
    exact .inl ⟨fun hleaks => hkeeps hleaks.1, hs.broadcasts, fun hno => hs.window (hwnd ▸ hno)⟩
  | destroyed hdestroys hwnd =>
    by_cases hfails : false ∈ c.2.unregisters.take s.broadcasts.broadcastList.length
    · refine .inr ⟨⟨hdestroys, hfails⟩, fun hafter => ?_⟩
      exact (hs.broadcasts.destroy_iff _).mp hafter.broadcasts hfails
    · exact .inl ⟨fun hleaks => hfails hleaks.2, (hs.broadcasts.destroy_iff _).mpr hfails,
        fun _ => rfl⟩

theorem accounts_start : HotSystem.start.Accounts where
  broadcasts := ⟨List.nodup_nil, List.forall_mem_nil _, fun _ _ hget => by cases hget⟩
  window _ := rfl

/-- **The list accounts for the notifications of the system in exactly the runs** in which none
fails to be unregistered when the window is destroyed. -/
theorem accounts_iff (pathMatchSpec : List Char → List Char → Bool) (mark : Bool)
    (calls : List (HotCall × BroadcastAnswers)) :
    (hotKBroadcast pathMatchSpec mark).Always HotSystem.Accounts .start calls ↔
      (hotKBroadcast pathMatchSpec mark).Throughout (fun s c => ¬Leaks s c) .start calls :=
  Machine.always_iff_throughout_not (I := HotSystem.Accounts) (fun _ hs => hs)
    (fun _ _ _ hs hstep => accounts_step hs hstep) calls accounts_start

end Step

end LibusbK
