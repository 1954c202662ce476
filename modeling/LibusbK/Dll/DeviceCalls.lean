import LibusbK.Lib.Machine
import LibusbK.Dll.DeviceMoves
import LibusbK.Dll.SyncReconcile

/-!
# Attachment over any sequence of calls

Between two calls every list has one reference.  No call on live handles ends without
a meaning; each keeps the marks of every attachment, and the elements that are gone
after it are those it was to free.

## Main definitions

* `DevLists.Idle` — no call holds a list.
* `lstKCalls` — the machine of all calls on live handles.
* `CallKept` — what a call keeps.

## Main results

* `lstKCalls_kept` — every call in every state that is reached.
-/

namespace LibusbK

namespace DevLists

variable {s t u : DevLists} {list info : ℕ}

/-- No call holds a list. -/
def Idle (s : DevLists) : Prop := ∀ list b, s.base list = some b → b = .acquired

/-- The elements that are there. -/
def LiveInfo (s : DevLists) (info : ℕ) : Prop := (s.lstInfoK.get info).isSome

theorem idle_empty : empty.Idle := by
  intro list b h
  cases h

theorem Idle.of_base (h : s.Idle) (hbase : t.base = s.base) : t.Idle := by
  intro list b hb
  rw [hbase] at hb
  exact h list b hb

/-- What a call keeps: the marks of every attachment, and every element it does not free;
if it fails, everything. -/
structure CallKept (s : DevLists) (frees : ℕ → Prop) (success : Bool) (t : DevLists) : Prop where
  linked : t.Linked
  idle : t.Idle
  same : success = false → Same s t
  freed : ∀ info, s.LiveInfo info → (¬t.LiveInfo info ↔ frees info)

theorem CallKept.of_same (h : s.Linked) (hidle : s.Idle) (hsame : Same s t) {frees : ℕ → Prop}
    (hfrees : ∀ info, s.LiveInfo info → ¬frees info) (success : Bool) :
    CallKept s frees success t where
  linked := h.of_same hsame
  idle := hidle.of_base (by unfold base; rw [hsame.lists])
  same _ := hsame
  freed info hlive := by
    have hlive' : t.LiveInfo info := by
      unfold LiveInfo
      rw [hsame.infos]
      exact hlive
    exact iff_of_false (not_not_intro hlive') (hfrees info hlive)

theorem CallKept.of_frame {dst : ℕ} (ht : t.Linked) (hidle : s.Idle) (hframe : Frame dst s t)
    {frees : ℕ → Prop} (hfrees : ∀ info, s.LiveInfo info → ¬frees info) :
    CallKept s frees true t where
  linked := ht
  idle := hidle.of_base hframe.base
  same h := by cases h
  freed info hlive :=
    iff_of_false (not_not_intro (hframe.live info hlive)) (hfrees info hlive)

theorem Idle.base_of_live (h : s.Idle) (hlive : (s.base list).isSome) :
    s.base list = some .acquired := by
  obtain ⟨b, hb⟩ := Option.isSome_iff_exists.mp hlive
  rw [hb, h list b hb]

/-- A call takes a list that no call holds. -/
theorem incLstK_of_acquired (hb : s.base list = some .acquired) :
    s.incLstK list = some (s.rebase list .attached) := by
  obtain ⟨l, hl, hlb⟩ := Option.map_eq_some_iff.mp hb
  unfold incLstK
  rw [hl, Option.bind_some, hlb, ObjBase.inc_acquired, Option.map_some]
  rfl

/-- A call gives up the list it holds. -/
theorem decLstK_of_attached {cleanup : ℕ → DevLists → Option DevLists}
    (hb : s.base list = some .attached) :
    s.decLstK cleanup list = some (s.rebase list .acquired) :=
  decLstK_of_not_last hb ObjBase.not_last_attached

/-! ### `LstK_Free` -/

theorem lstKFree_of_live (h : s.Linked) (hidle : s.Idle) (hlive : (s.base list).isSome) :
    ∃ t, s.lstKFree list = some (true, t) ∧ Released list s t := by
  have hb := hidle.base_of_live hlive
  obtain ⟨t, hlast, hfree⟩ := decLstK_of_acquired h hb
  refine ⟨t, ?_, hfree⟩
  unfold lstKFree
  rw [incLstK_of_acquired hb]
  dsimp only
  rw [decLstK_of_attached (base_rebase_self hb), Option.bind_some, rebase_rebase,
    rebase_eq_self hb, hlast, Option.map_some]

theorem lstKFree_kept (h : s.Linked) (hidle : s.Idle) (hlive : (s.base list).isSome) :
    ∃ t, s.lstKFree list = some (true, t) ∧
      CallKept s (fun info => s.devListHandle info = some list) true t := by
  obtain ⟨t, hrun, hfree⟩ := lstKFree_of_live h hidle hlive
  refine ⟨t, hrun, hfree.linked, ?_, fun hfalse => Bool.noConfusion hfalse, fun info hinfo => ?_⟩
  -- the list is gone, and no other is held
  · intro other b hother
    rw [hfree.base] at hother
    split at hother
    · cases hother
    · exact hidle other b hother
  · unfold LiveInfo
    constructor
    · intro hgone
      by_contra hne
      rw [hfree.kept info hne] at hgone
      exact hgone hinfo
    · intro hlist
      rw [hfree.freed info hlist]
      simp

/-! ### `LstK_Clone` -/

theorem framed_devEnumCloneAll {b : ObjBase} (refused : ℕ → Bool) (hb : s.base list = some b)
    (husable : b.Usable) {xs : List ℕ} (hxs : ∀ x ∈ xs, s.LiveInfo x) :
    Framed list (devEnumCloneAll refused list) s xs := by
  intro x hx t ht hframe
  obtain ⟨el, hel⟩ := Option.isSome_iff_exists.mp (hframe.live x (hxs x hx))
  unfold devEnumCloneAll
  rw [lstKCloneInfo_of_live ht hel]
  cases refused x with
  | true => exact ⟨false, t, rfl, ht, .refl list t⟩
  | false =>
    have hget : (t.addInfo el.info).lstInfoK.get t.lstInfoK.next =
        some { toObjBase := .acquired, devListHandle := none, info := el.info } :=
      Objects.get_create_self _ _
    have hbase : (t.addInfo el.info).base list = some b := by
      change t.base list = some b
      rw [hframe.base, hb]
    obtain ⟨success, u, hattach, hu, hframe'⟩ :=
      lstKAttachInfo_frame cleanupDeviceList (ht.addInfo el.info) hbase husable hget
    refine ⟨true, u, ?_, hu, (frame_addInfo el.info list).trans hframe'⟩
    rw [if_neg Bool.false_ne_true]
    dsimp only
    rw [hattach, Option.map_some]

/-- The elements of a chain are there. -/
theorem Linked.live_of_mem_chain (h : s.Linked) (hmem : info ∈ s.chain list) : s.LiveInfo info := by
  obtain ⟨el, hel, -⟩ := Option.bind_eq_some_iff.mp ((h.mem_chain list info).mp hmem)
  exact Option.isSome_iff_exists.mpr ⟨el, hel⟩

theorem lstKClone_kept (h : s.Linked) (hidle : s.Idle) (hlive : (s.base list).isSome)
    (noHandle : Bool) (refused : ℕ → Bool) :
    ∃ success t, s.lstKClone list noHandle refused = some (success, t) ∧
      CallKept s (fun _ => False) success t := by
  have hb := hidle.base_of_live hlive
  unfold lstKClone
  rw [incLstK_of_acquired hb]
  dsimp only
  cases noHandle with
  | true =>
    refine ⟨false, s, ?_, .of_same h hidle (.refl s) (fun _ _ => not_false) false⟩
    rw [if_pos rfl, decLstK_of_attached (base_rebase_self hb), rebase_rebase, rebase_eq_self hb,
      Option.map_some]
  | false =>
    have hbusy : (s.rebase list .attached).base list = some .attached := base_rebase_self hb
    -- the source is held by the call, and the new list is not the source
    have hne : list ≠ (s.rebase list .attached).lstK.next := ne_next_of_base hbusy
    have hnew := base_acquireLstK_self (s.rebase list .attached)
    have hsrc := (base_acquireLstK_of_ne hne).trans hbusy
    have hchain : ∀ x ∈ (s.rebase list .attached).acquireLstK.chain list, s.LiveInfo x := by
      intro x hx
      rw [chain_acquireLstK, chain_rebase] at hx
      exact h.live_of_mem_chain hx
    obtain ⟨t, hrun, ht, hframe⟩ := lstKEnumerate_frame cleanupDeviceList _
      (h.rebase list .attached).acquireLstK hsrc (Or.inr (by decide)) fun b' _ =>
        framed_devEnumCloneAll refused ((base_rebase_of_ne b' hne.symm).trans hnew)
          ObjBase.usable_acquired hchain
    have hdone : t.base list = some .attached := by
      rw [hframe.base]
      exact hsrc
    refine ⟨true, t.rebase list .acquired, ?_, ⟨ht.rebase list _, ?_,
      fun hfalse => Bool.noConfusion hfalse, fun info hinfo => ?_⟩⟩
    · rw [if_neg Bool.false_ne_true, hrun, Option.bind_some, decLstK_of_attached hdone,
        Option.map_some]
    · intro other b hother
      by_cases heq : other = list
      · rw [heq, base_rebase_self hdone] at hother
        exact (Option.some_inj.mp hother).symm
      · rw [base_rebase_of_ne _ heq, hframe.base] at hother
        by_cases hdst : other = (s.rebase list .attached).lstK.next
        · rw [hdst, hnew] at hother
          exact (Option.some_inj.mp hother).symm
        · rw [base_acquireLstK_of_ne hdst, base_rebase_of_ne _ heq] at hother
          exact hidle other b hother
    · exact iff_of_false (not_not_intro (hframe.live info hinfo)) not_false

/-! ### `LstK_Sync` -/

section Sync

variable (pathMatchSpec : List Char → List Char → Bool) {master slave : ℕ}

/-- With two lists that are given. -/
theorem lstKSync_given_kept (h : s.Linked) (hidle : s.Idle) (hmaster : (s.base master).isSome)
    (hslave : (s.base slave).isSome) (syncFlags : BitVec 32) (outcome : InitOutcome) :
    ∃ t, s.lstKSync pathMatchSpec master (some slave) syncFlags outcome = some (true, t) ∧
      SyncsTo master (s.syncMoves pathMatchSpec (syncMask syncFlags) master slave) s t ∧
      CallKept s (fun _ => False) true t := by
  have hb := hidle.base_of_live hmaster
  have hbusy : (s.rebase master .attached).base master = some .attached := base_rebase_self hb
  unfold lstKSync
  rw [incLstK_of_acquired hb]
  dsimp only
  by_cases heq : slave = master
  · -- the list is its own slave list
    subst heq
    obtain ⟨c, hinc', hdec', hlast, husable⟩ := incLstK_of_usable hbusy (Or.inr (by decide))
    have hself : ((s.rebase slave .attached).rebase slave c).base slave = some c :=
      base_rebase_self hbusy
    obtain ⟨t, hsync, hrun⟩ := syncLists_syncsTo pathMatchSpec
      ((h.rebase slave .attached).rebase slave c) syncFlags hself husable hself husable
    have hdone : t.base slave = some c := by rw [hsync.frame.base, hself]
    rw [syncMoves_rebase, syncMoves_rebase, rebase_rebase] at hsync
    have hsync := hsync.rebase hb
    refine ⟨t.rebase slave .acquired, ?_, hsync,
      .of_frame hsync.linked hidle hsync.frame fun _ _ => not_false⟩
    rw [hinc']
    dsimp only
    rw [hrun, decLstK_of_not_last hdone hlast, hdec', Option.bind_some,
      decLstK_of_attached (base_rebase_self hdone), rebase_rebase, Option.map_some]
  · have hc := hidle.base_of_live hslave
    have hfree : (s.rebase master .attached).base slave = some .acquired :=
      (base_rebase_of_ne _ heq).trans hc
    have hslaveBusy := @base_rebase_self _ _ _ .attached hfree
    have hmasterBusy := (base_rebase_of_ne .attached (Ne.symm heq)).trans hbusy
    obtain ⟨t, hsync, hrun⟩ := syncLists_syncsTo pathMatchSpec
      ((h.rebase master .attached).rebase slave .attached) syncFlags hmasterBusy
      (Or.inr (by decide)) hslaveBusy (Or.inr (by decide))
    have hdone : t.base master = some .attached := by rw [hsync.frame.base, hmasterBusy]
    have hdone' : (t.rebase master .acquired).base slave = some .attached := by
      rw [base_rebase_of_ne _ heq, hsync.frame.base, hslaveBusy]
    rw [syncMoves_rebase, syncMoves_rebase, rebase_comm (Ne.symm heq)] at hsync
    have hmasterFree : (s.rebase slave .attached).base master = some .acquired :=
      (base_rebase_of_ne _ (Ne.symm heq)).trans hb
    have hsync := (hsync.rebase hmasterFree).rebase hc
    refine ⟨(t.rebase master .acquired).rebase slave .acquired, ?_, hsync,
      .of_frame hsync.linked hidle hsync.frame fun _ _ => not_false⟩
    rw [incLstK_of_acquired hfree]
    dsimp only
    rw [hrun, decLstK_of_attached hdone, Option.bind_some, decLstK_of_attached hdone',
      Option.map_some]

/-- With a slave list that is made for the synchronisation. -/
theorem lstKSync_new_kept (h : s.Linked) (hidle : s.Idle) (hmaster : (s.base master).isSome)
    (syncFlags : BitVec 32) (outcome : InitOutcome) :
    ∃ success t, s.lstKSync pathMatchSpec master none syncFlags outcome = some (success, t) ∧
      (∀ info list, s.devListHandle info = some list → t.devListHandle info = some list) ∧
      CallKept s (fun _ => False) success t := by
  have hb := hidle.base_of_live hmaster
  have hbusy : (s.rebase master .attached).base master = some .attached := base_rebase_self hb
  unfold lstKSync
  rw [incLstK_of_acquired hb]
  dsimp only
  obtain ⟨list, t, hinit, ⟨rfl, hsame⟩ | ⟨rfl, hbuilt⟩⟩ :=
    lstKInitInternal_spec (h.rebase master .attached) outcome
  -- no slave list could be made, and the master list is given up
  · have hdone : t.base master = some .attached := by
      unfold base
      rw [hsame.lists]
      exact hbusy
    refine ⟨false, t.rebase master .acquired, ?_, fun info list hlist => ?_,
      .of_same h hidle (hsame.rebase hb) (fun _ _ => not_false) false⟩
    · rw [hinit, Option.bind_some]
      dsimp only
      rw [decLstK_of_attached hdone, Option.map_some]
    · unfold devListHandle
      rw [(hsame.rebase hb).infos]
      exact hlist
  · have hne : master ≠ (s.rebase master .attached).lstK.next := ne_next_of_base hbusy
    have hmaster : t.base master = some .attached := by
      rw [hbuilt.base, base_acquireLstK_of_ne hne, hbusy]
    have hslave : t.base (s.rebase master .attached).lstK.next = some .acquired := by
      rw [hbuilt.base, base_acquireLstK_self]
    obtain ⟨u, hsync, hrun⟩ := syncLists_syncsTo pathMatchSpec hbuilt.linked syncFlags hmaster
      (Or.inr (by decide)) hslave ObjBase.usable_acquired
    have hmaster' : u.base master = some .attached := by rw [hsync.frame.base, hmaster]
    have hslave' : (u.rebase master .acquired).base (s.rebase master .attached).lstK.next =
        some .acquired := by
      rw [base_rebase_of_ne _ (Ne.symm hne), hsync.frame.base, hslave]
    -- the new list is freed, with the elements that were not moved
    obtain ⟨v, hdec, hfree⟩ := decLstK_of_acquired (hsync.linked.rebase master .acquired) hslave'
    -- nothing that was there before is in the new list
    have hold : ∀ info, s.LiveInfo info → t.devListHandle info = s.devListHandle info :=
      fun info hinfo => congrArg (Option.bind · DevInfoEL.devListHandle) (hbuilt.old info hinfo)
    have hother : ∀ info, s.LiveInfo info →
        t.devListHandle info ≠ some (s.rebase master .attached).lstK.next := by
      intro info hinfo hlist
      rw [hold info hinfo, ← h.mem_chain] at hlist
      have hempty : s.chain (s.rebase master .attached).lstK.next = [] := chain_next s
      rw [hempty] at hlist
      cases hlist
    have hstays : ∀ info, s.LiveInfo info → u.devListHandle info = s.devListHandle info := by
      intro info hinfo
      rw [hsync.handle, if_neg, hold info hinfo]
      intro hmoved
      exact hother info hinfo ((hbuilt.linked.mem_chain _ info).mp
        (mem_chain_of_mem_syncMoves pathMatchSpec hmoved))
    have hkept : ∀ info, s.LiveInfo info → v.lstInfoK.get info = u.lstInfoK.get info := by
      intro info hinfo
      refine hfree.kept info ?_
      rw [devListHandle_rebase, hstays info hinfo, ← hold info hinfo]
      exact hother info hinfo
    refine ⟨true, v, ?_, fun info list hlist => ?_, hfree.linked, ?_,
      fun hfalse => Bool.noConfusion hfalse, ?_⟩
    · rw [hinit, Option.bind_some]
      dsimp only
      rw [hrun, decLstK_of_attached hmaster', Option.bind_some, hdec, Option.map_some]
    · obtain ⟨el, hel, -⟩ := Option.bind_eq_some_iff.mp hlist
      have hinfo : s.LiveInfo info := Option.isSome_iff_exists.mpr ⟨el, hel⟩
      rw [← hlist, ← hstays info hinfo]
      exact congrArg (Option.bind · DevInfoEL.devListHandle) (hkept info hinfo)
    · intro other b hother
      rw [hfree.base] at hother
      split at hother
      · cases hother
      next hnext =>
        by_cases heq : other = master
        · rw [heq, base_rebase_self hmaster'] at hother
          exact (Option.some_inj.mp hother).symm
        · rw [base_rebase_of_ne _ heq, hsync.frame.base, hbuilt.base,
            base_acquireLstK_of_ne hnext, base_rebase_of_ne _ heq] at hother
          exact hidle other b hother
    · intro info hinfo
      have hlive : u.LiveInfo info := by
        refine hsync.frame.live info ?_
        rw [hbuilt.old info hinfo]
        exact hinfo
      refine iff_of_false (not_not_intro ?_) not_false
      unfold LiveInfo
      rw [hkept info hinfo]
      exact hlive

end Sync

/-! ### The other calls -/

theorem init_kept (h : s.Linked) (hidle : s.Idle) (outcome : InitOutcome) :
    ∃ result t, s.lstKInitInternal outcome = some (result, t) ∧
      CallKept s (fun _ => False) result.isSome t := by
  obtain ⟨list, t, hinit, ⟨rfl, hsame⟩ | ⟨rfl, hbuilt⟩⟩ := lstKInitInternal_spec h outcome
  · exact ⟨none, t, hinit, .of_same h hidle hsame (fun _ _ => not_false) _⟩
  · refine ⟨_, t, hinit, hbuilt.linked, ?_, fun hfalse => Bool.noConfusion hfalse, ?_⟩
    · intro other b hother
      rw [hbuilt.base] at hother
      by_cases heq : other = s.lstK.next
      · rw [heq, base_acquireLstK_self] at hother
        exact (Option.some_inj.mp hother).symm
      · rw [base_acquireLstK_of_ne heq] at hother
        exact hidle other b hother
    · intro info hinfo
      refine iff_of_false (not_not_intro ?_) not_false
      unfold LiveInfo
      rw [hbuilt.old info hinfo]
      exact hinfo

theorem cloneInfo_kept (h : s.Linked) (hidle : s.Idle) (hlive : s.LiveInfo info) (refused : Bool) :
    CallKept s (fun _ => False) (s.lstKCloneInfo info refused).1.isSome
      (s.lstKCloneInfo info refused).2 := by
  obtain ⟨el, hel⟩ := Option.isSome_iff_exists.mp hlive
  rw [lstKCloneInfo_of_live h hel]
  cases refused with
  | true => exact .of_same h hidle (.refl s) (fun _ _ => not_false) false
  | false => exact .of_frame (h.addInfo _) hidle (frame_addInfo el.info 0) fun _ _ => not_false

theorem attachInfo_kept (h : s.Linked) (hidle : s.Idle) (hlist : (s.base list).isSome)
    (hlive : s.LiveInfo info) :
    ∃ success t, s.lstKAttachInfo cleanupDeviceList list info = some (success, t) ∧
      CallKept s (fun _ => False) success t := by
  obtain ⟨el, hel⟩ := Option.isSome_iff_exists.mp hlive
  have hb := hidle.base_of_live hlist
  by_cases hnone : s.devListHandle info = none
  · exact ⟨true, _, lstKAttachInfo_of_detached h hb ObjBase.usable_acquired hel hnone,
      .of_frame (h.link hb hel hnone) hidle (frame_link hel) fun _ _ => not_false⟩
  · exact ⟨false, s, lstKAttachInfo_of_attached h hb ObjBase.usable_acquired hel hnone,
      .of_same h hidle (.refl s) (fun _ _ => not_false) false⟩

theorem detachInfo_kept (h : s.Linked) (hidle : s.Idle) (hlist : (s.base list).isSome)
    (hlive : s.LiveInfo info) :
    ∃ success t, s.lstKDetachInfo cleanupDeviceList list info = some (success, t) ∧
      CallKept s (fun _ => False) success t := by
  obtain ⟨el, hel⟩ := Option.isSome_iff_exists.mp hlive
  have hb := hidle.base_of_live hlist
  by_cases hhandle : s.devListHandle info = some list
  · exact ⟨true, _, lstKDetachInfo_of_attached h hb ObjBase.usable_acquired hel hhandle,
      .of_frame (h.unlink hb hel hhandle) hidle (frame_unlink hel list) fun _ _ => not_false⟩
  · exact ⟨false, s, lstKDetachInfo_of_not_attached h hb ObjBase.usable_acquired hel hhandle,
      .of_same h hidle (.refl s) (fun _ _ => not_false) false⟩

theorem freeInfo_kept (h : s.Linked) (hidle : s.Idle) (hlive : s.LiveInfo info) :
    CallKept s (fun i => i = info ∧ (s.lstKFreeInfo info).1 = true) (s.lstKFreeInfo info).1
      (s.lstKFreeInfo info).2 := by
  obtain ⟨el, hel⟩ := Option.isSome_iff_exists.mp hlive
  by_cases hnone : s.devListHandle info = none
  · rw [lstKFreeInfo_of_detached h hel hnone]
    refine ⟨h.dropInfo hnone, hidle, fun hfalse => Bool.noConfusion hfalse, fun i hi => ?_⟩
    unfold LiveInfo dropInfo
    by_cases heq : i = info
    · rw [heq, Objects.get_delete_self]
      simp
    · rw [Objects.get_delete_of_ne _ heq]
      exact iff_of_false (not_not_intro hi) fun hfrees => heq hfrees.1
  · rw [lstKFreeInfo_of_attached h hel hnone]
    exact .of_same h hidle (.refl s) (fun _ _ hfrees => Bool.noConfusion hfrees.2) false

end DevLists

/-! ### All calls -/

/-- The handles a call is given are live. -/
def LstKCall.live (s : DevLists) : LstKCall → Bool
  | init _ => true
  | clone srcList _ _ => (s.base srcList).isSome
  | cloneInfo srcInfo _ => (s.lstInfoK.get srcInfo).isSome
  | attachInfo deviceList deviceInfo | detachInfo deviceList deviceInfo =>
    (s.base deviceList).isSome && (s.lstInfoK.get deviceInfo).isSome
  | freeInfo deviceInfo => (s.lstInfoK.get deviceInfo).isSome
  | sync masterList slaveList _ _ =>
    (s.base masterList).isSome && slaveList.all fun slave => (s.base slave).isSome
  | free deviceList => (s.base deviceList).isSome

/-- The elements a call is to free: those attached to the list that is freed, and the one
`LstK_FreeInfo` succeeds on. -/
def LstKCall.frees (s : DevLists) (success : Bool) : LstKCall → ℕ → Prop
  | free deviceList, info => s.devListHandle info = some deviceList
  | freeInfo deviceInfo, info => info = deviceInfo ∧ success = true
  | _, _ => False

/-- The machine of all calls on live handles. -/
def lstKCalls (pathMatchSpec : List Char → List Char → Bool) : Machine DevLists LstKCall where
  step s call := if call.live s then (call.run pathMatchSpec s).map Prod.snd else none

section Calls

variable (pathMatchSpec : List Char → List Char → Bool) {s : DevLists}

/-- A call on live handles. -/
theorem LstKCall.kept (h : s.Linked) (hidle : s.Idle) (call : LstKCall)
    (hlive : call.live s = true) :
    ∃ success t, call.run pathMatchSpec s = some (success, t) ∧
      s.CallKept (call.frees s success) success t := by
  cases call with
  | init outcome =>
    obtain ⟨result, t, hrun, hkept⟩ := DevLists.init_kept h hidle outcome
    refine ⟨result.isSome, t, ?_, hkept⟩
    change (s.lstKInitInternal outcome).map _ = _
    rw [hrun, Option.map_some]
  | clone srcList noHandle refused => exact DevLists.lstKClone_kept h hidle hlive noHandle refused
  | cloneInfo srcInfo refused =>
    exact ⟨_, _, rfl, DevLists.cloneInfo_kept h hidle hlive refused⟩
  | attachInfo deviceList deviceInfo =>
    obtain ⟨hlist, hinfo⟩ := Bool.and_eq_true_iff.mp hlive
    exact DevLists.attachInfo_kept h hidle hlist hinfo
  | detachInfo deviceList deviceInfo =>
    obtain ⟨hlist, hinfo⟩ := Bool.and_eq_true_iff.mp hlive
    exact DevLists.detachInfo_kept h hidle hlist hinfo
  | freeInfo deviceInfo => exact ⟨_, _, rfl, DevLists.freeInfo_kept h hidle hlive⟩
  | sync masterList slaveList syncFlags outcome =>
    obtain ⟨hmaster, hslave⟩ := Bool.and_eq_true_iff.mp hlive
    cases slaveList with
    | none =>
      obtain ⟨success, t, hrun, -, hkept⟩ :=
        DevLists.lstKSync_new_kept pathMatchSpec h hidle hmaster syncFlags outcome
      exact ⟨success, t, hrun, hkept⟩
    | some slave =>
      obtain ⟨t, hrun, -, hkept⟩ :=
        DevLists.lstKSync_given_kept pathMatchSpec h hidle hmaster hslave syncFlags outcome
      exact ⟨true, t, hrun, hkept⟩
  -- the elements attached to the list go with it
  | free deviceList =>
    obtain ⟨t, hrun, hkept⟩ := DevLists.lstKFree_kept h hidle hlive
    exact ⟨true, t, hrun, hkept⟩

theorem lstKCalls_step {t : DevLists} {call : LstKCall} (h : s.Linked ∧ s.Idle)
    (hstep : (lstKCalls pathMatchSpec).step s call = some t) : t.Linked ∧ t.Idle := by
  have hlive : call.live s = true := by
    by_contra hdead
    simp [lstKCalls, hdead] at hstep
  obtain ⟨success, t', hrun, hkept⟩ := call.kept pathMatchSpec h.1 h.2 hlive
  simp only [lstKCalls, hlive, if_true, hrun, Option.map_some, Option.some_inj] at hstep
  subst hstep
  exact ⟨hkept.linked, hkept.idle⟩

/-- In every state that calls on live handles lead to, each element is in the chain of the
list it names and in no other, its count says whether it names one, and so it stays with
every further call. -/
theorem lstKCalls_kept {calls : List LstKCall}
    (hrun : (lstKCalls pathMatchSpec).exec .empty calls = some s) :
    s.Linked ∧ s.Idle ∧ ∀ call : LstKCall, call.live s = true →
      ∃ success t, call.run pathMatchSpec s = some (success, t) ∧
        s.CallKept (call.frees s success) success t := by
  have halways : (lstKCalls pathMatchSpec).Always (fun s => s.Linked ∧ s.Idle) .empty calls :=
    Machine.always_of_step (fun _ h => h)
      (fun _ _ _ h hstep => lstKCalls_step pathMatchSpec h hstep) calls
      ⟨DevLists.linked_empty, DevLists.idle_empty⟩
  obtain ⟨hlinked, hidle⟩ := halways.exec hrun
  exact ⟨hlinked, hidle, fun call hlive => call.kept pathMatchSpec hlinked hidle hlive⟩

/-- A list and its clone are made, and a clone of an element; another list is made and
synchronised with the first; the element of the clone is attached to that as well, and what is
left is freed. -/
def everyCall : List LstKCall :=
  [.init (.built [(aLink "A" true).toTempItem] true), .clone 0 false fun _ => false,
    .cloneInfo 1 false, .init (.built [(aLink "B" true).toTempItem] true),
    .sync 0 (some 2) SyncFlag.mask .noHandle, .detachInfo 1 1, .attachInfo 0 1, .freeInfo 2,
    .free 1]

theorem lstKCalls_kept_everyCall :
    ∃ s, (lstKCalls linkMatch).exec .empty everyCall = some s ∧
      s.chain 0 = [0, 3, 1] ∧ s.chain 2 = [] ∧ s.base 1 = none ∧ s.Linked ∧ s.Idle ∧
      ∃ success t, (LstKCall.free 0).run linkMatch s = some (success, t) ∧
        s.CallKept (fun info => s.devListHandle info = some 0) success t := by
  refine ⟨_, rfl, rfl, rfl, rfl, ?_⟩
  obtain ⟨hlinked, hidle, hkept⟩ := @lstKCalls_kept linkMatch _ everyCall rfl
  exact ⟨hlinked, hidle, hkept (.free 0) rfl⟩

end Calls

end LibusbK
