import LibusbK.Dll.DeviceClone

/-!
# The cursor of a list

`LstK_MoveNext`, `LstK_Current` and `LstK_MoveReset` keep the element a list is at in its
handle, as a pointer.  No other call looks at it: an element that is taken out of the list
stays the current one.

## Main definitions

* `ListCursors` — the lists with their current elements.
* `CursorCall`, `lstKCursorCalls` — the calls on cursors among those on lists and elements.
* `ListCursors.Attached` — every cursor is at an element of its list.
* `KeepsCursor` — a call takes no current element out of its list.

## Main results

* `lstKCursor_iff` — the cursors are at elements of their lists as long as no call takes one
  out; and from the start of a list `LstK_MoveNext` visits its elements in order.
-/

namespace LibusbK

/-- The lists, with `current` of each. -/
structure ListCursors where
  lists : DevLists
  current : ℕ → Option ℕ

namespace ListCursors

variable {s t : ListCursors} {list : ℕ}

/-- No list. -/
def empty : ListCursors := ⟨.empty, fun _ => none⟩

/-- Set `current` of a list. -/
def setCurrent (s : ListCursors) (list : ℕ) (info : Option ℕ) : ListCursors :=
  { s with current := Function.update s.current list info }

/-- The lists after a call that knows nothing of cursors.  `Init_Handle_LstK` clears the one
of a list that is made. -/
def withLists (s : ListCursors) (lists : DevLists) : ListCursors where
  lists := lists
  current list := if (s.lists.base list).isSome then s.current list else none

/-- What follows an element in a chain. -/
def after (info : ℕ) : List ℕ → Option ℕ
  | [] => none
  | x :: xs => if x = info then xs.head? else after info xs

/-- `next` of an element.  If it is in no list, `stale` is what is left there. -/
def next (s : ListCursors) (info : ℕ) (stale : Option ℕ) : Option ℕ :=
  match s.lists.devListHandle info with
  | some list => after info (s.lists.chain list)
  | none => stale

/-- `PoolHandle_Dec_LstK` at the end of a call. -/
def decLstK (s : ListCursors) (list : ℕ) : Option ListCursors :=
  (s.lists.decLstK DevLists.cleanupDeviceList list).map fun lists => { s with lists := lists }

/-- `LstK_MoveNext`; `deviceInfo` says whether there is a place for the element.  Returned are
the result and what is stored there; there is no outcome if it is stored nowhere. -/
def lstKMoveNext (deviceList : ℕ) (deviceInfo : Bool) (stale : Option ℕ) (s : ListCursors) :
    Option (Bool × Option ℕ × ListCursors) :=
  match s.lists.incLstK deviceList with
  | none => some (false, none, s)
  | some lists =>
    let s : ListCursors := { s with lists := lists }
    -- from the start, or from where the list is
    match s.current deviceList with
    | none =>
      match (s.lists.chain deviceList).head? with
      | none => (s.decLstK deviceList).map fun s => (false, none, s)
      | some head =>
        let s := s.setCurrent deviceList (some head)
        -- without a test for `NULL`
        if deviceInfo then (s.decLstK deviceList).map fun s => (true, some head, s)
        else none
    | some current =>
      let s' := s.setCurrent deviceList (s.next current stale)
      match s.next current stale with
      | none => (s'.decLstK deviceList).map fun s => (false, none, s)
      | some next =>
        (s'.decLstK deviceList).map fun s => (true, if deviceInfo then some next else none, s)

/-- `LstK_Current`. -/
def lstKCurrent (deviceList : ℕ) (s : ListCursors) : Option (Bool × Option ℕ × ListCursors) :=
  match s.lists.incLstK deviceList with
  | none => some (false, none, s)
  | some lists =>
    let s : ListCursors := { s with lists := lists }
    -- the current element is not asked whether it is still there
    (s.decLstK deviceList).map fun s' =>
      ((s.current deviceList).isSome, s.current deviceList, s')

/-- `LstK_MoveReset`. -/
def lstKMoveReset (deviceList : ℕ) (s : ListCursors) : Option ListCursors :=
  match s.lists.incLstK deviceList with
  | none => some s
  | some lists =>
    let s : ListCursors := { s with lists := lists }
    (s.setCurrent deviceList none).decLstK deviceList

end ListCursors

/-! ### The calls -/

/-- The calls on cursors, and the others. -/
inductive CursorCall
  | moveNext (deviceList : ℕ) (deviceInfo : Bool) (stale : Option ℕ)
  | moveReset (deviceList : ℕ)
  | current (deviceList : ℕ)
  | other (call : LstKCall)

/-- The machine of all calls on live handles. -/
def lstKCursorCalls (pathMatchSpec : List Char → List Char → Bool) :
    Machine ListCursors CursorCall where
  step s
    | .moveNext deviceList deviceInfo stale =>
      if (s.lists.base deviceList).isSome then
        (s.lstKMoveNext deviceList deviceInfo stale).map fun r => r.2.2
      else none
    | .moveReset deviceList =>
      if (s.lists.base deviceList).isSome then s.lstKMoveReset deviceList else none
    | .current deviceList =>
      if (s.lists.base deviceList).isSome then (s.lstKCurrent deviceList).map fun r => r.2.2
      else none
    | .other call => ((lstKCalls pathMatchSpec).step s.lists call).map s.withLists

/-- Every cursor of a list is `NULL` or at an element attached to it. -/
def ListCursors.Attached (s : ListCursors) : Prop :=
  ∀ list info, (s.lists.base list).isSome → s.current list = some info →
    info ∈ s.lists.chain list

/-- The calls that take an element out of a list that stays. -/
def LstKCall.Removes (pathMatchSpec : List Char → List Char → Bool) (s : DevLists) :
    LstKCall → ℕ → ℕ → Prop
  | detachInfo deviceList deviceInfo, list, info => list = deviceList ∧ info = deviceInfo
  | sync masterList (some slaveList) syncFlags _, list, info =>
    list = slaveList ∧ slaveList ≠ masterList ∧
      info ∈ s.syncMoves pathMatchSpec (DevLists.syncMask syncFlags) masterList slaveList
  | _, _, _ => False

/-- The call takes no current element out of its list. -/
def KeepsCursor (pathMatchSpec : List Char → List Char → Bool) (s : ListCursors) :
    CursorCall → Prop
  | .other call => ∀ list info, s.current list = some info →
    ¬call.Removes pathMatchSpec s.lists list info
  | _ => True

namespace ListCursors

/-- `LstK_MoveNext` once for every one of `deviceInfos`: the results, what is current after
each call, and what was stored. -/
def moveNexts (list : ℕ) (stale : Option ℕ) : List Bool → ListCursors →
    Option (List (Bool × Option ℕ × Option ℕ) × ListCursors)
  | [], s => some ([], s)
  | deviceInfo :: deviceInfos, s =>
    (s.lstKMoveNext list deviceInfo stale).bind fun (success, stored, s) =>
      (moveNexts list stale deviceInfos s).map fun (results, t) =>
        ((success, s.current list, stored) :: results, t)

/-- The elements in order, and then the end. -/
def visits (deviceInfos : List Bool) (infos : List ℕ) : List (Bool × Option ℕ × Option ℕ) :=
  List.zipWith (fun deviceInfo info => (info.isSome, info, if deviceInfo then info else none))
    deviceInfos (infos.map some ++ [none])

/-- From its start, the list is visited from end to end. -/
def VisitsAll (s : ListCursors) (list : ℕ) (stale : Option ℕ) (deviceInfos : List Bool) : Prop :=
  ∃ t u, s.lstKMoveReset list = some t ∧
    moveNexts list stale deviceInfos t = some (visits deviceInfos (s.lists.chain list), u) ∧
    u.lists = s.lists ∧ u.current list = none

/-! ### The calls on a cursor -/

section Moves

variable {s : ListCursors} {list info : ℕ}

/-- Where `LstK_MoveNext` moves the cursor. -/
def nextCurrent (s : ListCursors) (list : ℕ) (stale : Option ℕ) : Option ℕ :=
  match s.current list with
  | none => (s.lists.chain list).head?
  | some current => s.next current stale

theorem decLstK_setCurrent (hidle : s.lists.Idle) (hlive : (s.lists.base list).isSome)
    (other : ℕ) (info : Option ℕ) :
    (({ s with lists := s.lists.rebase list .attached } : ListCursors).setCurrent other
      info).decLstK list = some (s.setCurrent other info) := by
  have hb := hidle.base_of_live hlive
  have hheld : (s.lists.rebase list .attached).base list = some .attached :=
    DevLists.base_rebase_self hb
  unfold decLstK setCurrent
  dsimp only
  rw [DevLists.decLstK_of_attached hheld, DevLists.rebase_rebase, DevLists.rebase_eq_self hb,
    Option.map_some]

theorem current_setCurrent (s : ListCursors) (list : ℕ) (info : Option ℕ) :
    (s.setCurrent list info).current list = info :=
  Function.update_self _ _ _

theorem setCurrent_self (s : ListCursors) (list : ℕ) :
    s.setCurrent list (s.current list) = s := by
  unfold setCurrent
  rw [Function.update_eq_self]

theorem next_rebase (b : ObjBase) (info : ℕ) (stale : Option ℕ) :
    ({ s with lists := s.lists.rebase list b } : ListCursors).next info stale =
      s.next info stale := by
  unfold next
  dsimp only
  rw [DevLists.devListHandle_rebase]
  cases s.lists.devListHandle info with
  | none => rfl
  | some other => exact congrArg (after info) (DevLists.chain_rebase b other)

/-- What `LstK_MoveNext` does with a list that no call holds. -/
theorem lstKMoveNext_of_live (hidle : s.lists.Idle) (hlive : (s.lists.base list).isSome)
    (deviceInfo : Bool) (stale : Option ℕ) :
    s.lstKMoveNext list deviceInfo stale =
      if s.current list = none ∧ s.lists.chain list ≠ [] ∧ deviceInfo = false then none
      else some ((s.nextCurrent list stale).isSome,
        if deviceInfo then s.nextCurrent list stale else none,
        s.setCurrent list (s.nextCurrent list stale)) := by
  have hb := hidle.base_of_live hlive
  have hset := decLstK_setCurrent hidle hlive list
  unfold lstKMoveNext nextCurrent
  rw [DevLists.incLstK_of_acquired hb]
  dsimp only
  rw [DevLists.chain_rebase]
  cases hcurrent : s.current list with
  | none =>
    have hsame : s.setCurrent list none = s := by
      rw [← hcurrent]
      exact setCurrent_self s list
    cases s.lists.chain list with
    | nil =>
      -- an empty list stays at its start
      have hdec := hset (s.current list)
      rw [setCurrent_self s list] at hdec
      have hheld := setCurrent_self { s with lists := s.lists.rebase list .attached } list
      dsimp only [List.head?_nil] at hheld ⊢
      rw [← hheld, hdec, Option.map_some, if_neg (by simp), hsame, ite_self]
      rfl
    | cons head rest =>
      cases deviceInfo with
      | false => rfl
      | true =>
        dsimp only [List.head?_cons]
        rw [if_pos rfl, hset, Option.map_some, if_neg (by simp)]
        rfl
  | some current =>
    dsimp only
    rw [if_neg (by simp), next_rebase]
    cases s.next current stale with
    | none =>
      dsimp only
      rw [hset, Option.map_some, ite_self]
      rfl
    | some next =>
      dsimp only
      rw [hset, Option.map_some]
      rfl

theorem lstKMoveReset_of_live (hidle : s.lists.Idle) (hlive : (s.lists.base list).isSome) :
    s.lstKMoveReset list = some (s.setCurrent list none) := by
  unfold lstKMoveReset
  rw [DevLists.incLstK_of_acquired (hidle.base_of_live hlive)]
  exact decLstK_setCurrent hidle hlive list none

theorem lstKCurrent_of_live (hidle : s.lists.Idle) (hlive : (s.lists.base list).isSome) :
    s.lstKCurrent list = some ((s.current list).isSome, s.current list, s) := by
  have hdec := decLstK_setCurrent hidle hlive list (s.current list)
  have hheld := setCurrent_self { s with lists := s.lists.rebase list .attached } list
  rw [setCurrent_self s list] at hdec
  unfold lstKCurrent
  rw [DevLists.incLstK_of_acquired (hidle.base_of_live hlive)]
  dsimp only at hheld ⊢
  rw [hheld] at hdec
  rw [hdec, Option.map_some]

/-! ### What follows an element -/

theorem after_append_of_notMem {xs : List ℕ} (h : info ∉ xs) (ys : List ℕ) :
    after info (xs ++ ys) = after info ys := by
  induction xs with
  | nil => rfl
  | cons x xs ih =>
    rw [List.mem_cons, not_or] at h
    exact (if_neg (Ne.symm h.1)).trans (ih h.2)

theorem mem_of_after {other : ℕ} {xs : List ℕ} (h : after info xs = some other) :
    other ∈ xs := by
  induction xs with
  | nil => cases h
  | cons x xs ih =>
    unfold after at h
    split at h
    · exact List.mem_cons_of_mem x (List.mem_of_head? h)
    · exact List.mem_cons_of_mem x (ih h)

/-- The cursor stays in the list it is in. -/
theorem nextCurrent_mem (h : s.lists.Linked) (hmem : ∀ info, s.current list = some info →
    info ∈ s.lists.chain list) (stale : Option ℕ) {other : ℕ}
    (hnext : s.nextCurrent list stale = some other) : other ∈ s.lists.chain list := by
  unfold nextCurrent at hnext
  cases hcurrent : s.current list with
  | none =>
    rw [hcurrent] at hnext
    exact List.mem_of_head? hnext
  | some current =>
    rw [hcurrent] at hnext
    dsimp only at hnext
    unfold next at hnext
    rw [(h.mem_chain list current).mp (hmem current hcurrent)] at hnext
    exact mem_of_after hnext

/-- `LstK_MoveNext` when the cursor is at an element of the list. -/
theorem lstKMoveNext_at (h : s.lists.Linked) (hidle : s.lists.Idle)
    (hlive : (s.lists.base list).isSome) {t : ListCursors} (ht : t.lists = s.lists)
    {current : ℕ} (hcurrent : t.current list = some current) {visited rest : List ℕ}
    (hchain : s.lists.chain list = visited ++ current :: rest) (deviceInfo : Bool)
    (stale : Option ℕ) :
    t.lstKMoveNext list deviceInfo stale = some (rest.head?.isSome,
      if deviceInfo then rest.head? else none, t.setCurrent list rest.head?) := by
  have hmem : current ∈ s.lists.chain list := by simp [hchain]
  -- an element is in its chain once, so what follows it is what is left
  have hnew : current ∉ visited := by
    intro hvisited
    have hnodup := h.nodup list
    rw [hchain] at hnodup
    exact (List.nodup_append.mp hnodup).2.2 current hvisited current List.mem_cons_self rfl
  have hnext : t.nextCurrent list stale = rest.head? := by
    unfold nextCurrent
    rw [hcurrent]
    dsimp only
    unfold next
    rw [ht, (h.mem_chain list current).mp hmem]
    dsimp only
    rw [hchain, after_append_of_notMem hnew]
    exact if_pos rfl
  rw [lstKMoveNext_of_live (ht ▸ hidle) (ht ▸ hlive), if_neg (by simp [hcurrent]), hnext]

/-- From an element on, the rest of the list is visited. -/
theorem moveNexts_from (h : s.lists.Linked) (hidle : s.lists.Idle)
    (hlive : (s.lists.base list).isSome) (stale : Option ℕ) (rest : List ℕ) :
    ∀ {visited : List ℕ} {current : ℕ} {deviceInfos : List Bool} {t : ListCursors},
      t.lists = s.lists → t.current list = some current →
      s.lists.chain list = visited ++ current :: rest → deviceInfos.length = rest.length + 1 →
        ∃ u, moveNexts list stale deviceInfos t = some (visits deviceInfos rest, u) ∧
          u.lists = s.lists ∧ u.current list = none := by
  -- on what is left of the list, with what was visited before free
  induction rest with
  | nil =>
    intro visited current deviceInfos t ht hcurrent hchain hlength
    obtain ⟨deviceInfo, rfl⟩ := List.length_eq_one_iff.mp hlength
    have hmove := lstKMoveNext_at h hidle hlive ht hcurrent hchain deviceInfo stale
    refine ⟨t.setCurrent list none, ?_, ht, current_setCurrent t list none⟩
    unfold moveNexts
    rw [hmove, Option.bind_some]
    dsimp only [List.head?_nil]
    rw [current_setCurrent]
    rfl
  | cons y rest ih =>
    intro visited current deviceInfos t ht hcurrent hchain hlength
    obtain ⟨deviceInfo, deviceInfos, rfl⟩ := List.exists_cons_of_length_eq_add_one hlength
    have hmove := lstKMoveNext_at h hidle hlive ht hcurrent hchain deviceInfo stale
    have hset := current_setCurrent t list (some y)
    have hchain' : s.lists.chain list = (visited ++ [current]) ++ y :: rest := by
      rw [hchain, List.append_assoc]
      rfl
    obtain ⟨u, hrun, hu⟩ := @ih _ _ _ (t.setCurrent list (some y)) ht hset hchain'
      (Nat.succ_injective hlength)
    refine ⟨u, ?_, hu⟩
    unfold moveNexts
    rw [hmove, Option.bind_some]
    dsimp only [List.head?_cons]
    rw [hset, hrun, Option.map_some]
    rfl

/-- **`LstK_MoveNext` visits the elements of a list in order**, and ends; the first call needs
a place for the element. -/
theorem visitsAll_iff (h : s.lists.Linked) (hidle : s.lists.Idle)
    (hlive : (s.lists.base list).isSome) (stale : Option ℕ) {deviceInfos : List Bool}
    (hlength : deviceInfos.length = (s.lists.chain list).length + 1) :
    s.VisitsAll list stale deviceInfos ↔
      s.lists.chain list = [] ∨ deviceInfos.head? = some true := by
  obtain ⟨deviceInfo, deviceInfos, rfl⟩ := List.exists_cons_of_length_eq_add_one hlength
  have hreset := lstKMoveReset_of_live hidle hlive
  have hset := current_setCurrent s list none
  have hmove := @lstKMoveNext_of_live (s.setCurrent list none) list hidle hlive deviceInfo stale
  have hnext : (s.setCurrent list none).nextCurrent list stale = (s.lists.chain list).head? := by
    unfold nextCurrent
    rw [hset]
    rfl
  rw [hset, hnext] at hmove
  cases hchain : s.lists.chain list with
  | nil =>
    rw [hchain, List.length_cons, List.length_nil, Nat.zero_add, Nat.succ_inj,
      List.length_eq_zero_iff] at hlength
    subst hlength
    refine iff_of_true ⟨_, (s.setCurrent list none).setCurrent list none, hreset, ?_, rfl,
      current_setCurrent _ list none⟩ (.inl rfl)
    unfold moveNexts
    rw [hmove, hchain]
    dsimp only [List.head?_nil]
    rw [if_neg (by simp [setCurrent, hchain]), Option.bind_some]
    dsimp only
    rw [current_setCurrent]
    rfl
  | cons head rest =>
    cases deviceInfo with
    -- the head is stored without a test for `NULL`
    | false =>
      refine iff_of_false ?_ (by simp)
      rintro ⟨t, u, ht, hrun, -⟩
      cases hreset.symm.trans ht
      unfold moveNexts at hrun
      rw [hmove, if_pos (by simp [setCurrent, hchain])] at hrun
      cases hrun
    | true =>
      refine iff_of_true ?_ (.inr rfl)
      rw [hchain, List.length_cons, Nat.succ_inj] at hlength
      have hhead := current_setCurrent (s.setCurrent list none) list (some head)
      obtain ⟨u, hrun, hu⟩ := @moveNexts_from s list h hidle hlive stale rest [] head deviceInfos
        ((s.setCurrent list none).setCurrent list (some head)) rfl hhead hchain hlength
      refine ⟨_, u, hreset, ?_, hu⟩
      unfold moveNexts
      rw [hmove, hchain]
      dsimp only [List.head?_cons]
      rw [if_neg (by simp), Option.bind_some]
      dsimp only
      rw [hrun, Option.map_some, hhead]
      rfl

end Moves

end ListCursors

/-! ### The other calls -/

section Calls

variable (pathMatchSpec : List Char → List Char → Bool) {s t : DevLists} {list info : ℕ}

theorem devListHandle_of_get (h : t.lstInfoK.get info = s.lstInfoK.get info) :
    t.devListHandle info = s.devListHandle info :=
  congrArg (Option.bind · DevInfoEL.devListHandle) h

namespace DevLists

theorem handle_attachInfo (h : s.Linked) {deviceList deviceInfo : ℕ} {success : Bool}
    (hb : s.base deviceList = some .acquired) (hlive : s.LiveInfo deviceInfo)
    (hrun : s.lstKAttachInfo cleanupDeviceList deviceList deviceInfo = some (success, t))
    (hinfo : s.devListHandle info = some list) : t.devListHandle info = some list := by
  obtain ⟨el, hel⟩ := Option.isSome_iff_exists.mp hlive
  by_cases hnone : s.devListHandle deviceInfo = none
  · cases (lstKAttachInfo_of_detached h hb ObjBase.usable_acquired hel hnone).symm.trans hrun
    have hne : info ≠ deviceInfo := by
      rintro rfl
      rw [hnone] at hinfo
      cases hinfo
    rw [devListHandle_link hel, if_neg hne]
    exact hinfo
  · cases (lstKAttachInfo_of_attached h hb ObjBase.usable_acquired hel hnone).symm.trans hrun
    exact hinfo

theorem handle_detachInfo (h : s.Linked) {deviceList deviceInfo : ℕ} {success : Bool}
    (hb : s.base deviceList = some .acquired) (hlive : s.LiveInfo deviceInfo)
    (hrun : s.lstKDetachInfo cleanupDeviceList deviceList deviceInfo = some (success, t))
    (hinfo : s.devListHandle info = some list) :
    t.devListHandle info = some list ↔ ¬(list = deviceList ∧ info = deviceInfo) := by
  obtain ⟨el, hel⟩ := Option.isSome_iff_exists.mp hlive
  by_cases hhandle : s.devListHandle deviceInfo = some deviceList
  · cases (lstKDetachInfo_of_attached h hb ObjBase.usable_acquired hel hhandle).symm.trans hrun
    rw [devListHandle_unlink hel]
    by_cases heq : info = deviceInfo
    · subst heq
      rw [hhandle, Option.some_inj] at hinfo
      exact iff_of_false (by simp) (not_not_intro ⟨hinfo.symm, rfl⟩)
    · exact iff_of_true ((if_neg heq).trans hinfo) fun hremoves => heq hremoves.2
  · cases (lstKDetachInfo_of_not_attached h hb ObjBase.usable_acquired hel hhandle).symm.trans hrun
    refine iff_of_true hinfo ?_
    rintro ⟨rfl, rfl⟩
    exact hhandle hinfo

theorem handle_freeInfo (h : s.Linked) {deviceInfo : ℕ} (hlive : s.LiveInfo deviceInfo)
    (hinfo : s.devListHandle info = some list) :
    (s.lstKFreeInfo deviceInfo).2.devListHandle info = some list := by
  obtain ⟨el, hel⟩ := Option.isSome_iff_exists.mp hlive
  by_cases hnone : s.devListHandle deviceInfo = none
  · have hne : info ≠ deviceInfo := by
      rintro rfl
      rw [hnone] at hinfo
      cases hinfo
    rw [lstKFreeInfo_of_detached h hel hnone]
    exact (devListHandle_dropInfo info).trans ((if_neg hne).trans hinfo)
  · rw [lstKFreeInfo_of_attached h hel hnone]
    exact hinfo

theorem handle_cloneInfo (h : s.Linked) {srcInfo : ℕ} (hlive : s.LiveInfo srcInfo)
    (refused : Bool) (info : ℕ) :
    (s.lstKCloneInfo srcInfo refused).2.devListHandle info = s.devListHandle info := by
  obtain ⟨el, hel⟩ := Option.isSome_iff_exists.mp hlive
  rw [lstKCloneInfo_of_live h hel]
  cases refused with
  | true => rfl
  | false => exact devListHandle_addInfo el.info info

/-- An element that is moved leaves its list, unless that is the master list. -/
theorem SyncsTo.handle_iff {master slave : ℕ} {mask : BitVec 32} (h : s.Linked)
    (hsync : SyncsTo master (s.syncMoves pathMatchSpec mask master slave) s t)
    (hinfo : s.devListHandle info = some list) :
    t.devListHandle info = some list ↔ ¬(list = slave ∧ slave ≠ master ∧
      info ∈ s.syncMoves pathMatchSpec mask master slave) := by
  rw [hsync.handle]
  by_cases hmoved : info ∈ s.syncMoves pathMatchSpec mask master slave
  · have hchain := mem_chain_of_mem_syncMoves pathMatchSpec hmoved
    rw [h.mem_chain, hinfo, Option.some_inj] at hchain
    subst hchain
    rw [if_pos hmoved, Option.some_inj]
    constructor
    · rintro rfl hremoves
      exact hremoves.2.1 rfl
    · intro hstays
      by_contra hne
      exact hstays ⟨rfl, Ne.symm hne, hmoved⟩
  · exact iff_of_true ((if_neg hmoved).trans hinfo) fun hremoves => hmoved hremoves.2.2

end DevLists

/-- **An element names its list after a call unless the call removes it**, or frees the list. -/
theorem LstKCall.handle_iff (h : s.Linked) (hidle : s.Idle) {call : LstKCall}
    (hlive : call.live s = true) {success : Bool}
    (hrun : call.run pathMatchSpec s = some (success, t))
    (hinfo : s.devListHandle info = some list) (hlist : (t.base list).isSome) :
    t.devListHandle info = some list ↔ ¬call.Removes pathMatchSpec s list info := by
  obtain ⟨el, hel, -⟩ := Option.bind_eq_some_iff.mp hinfo
  have hinfoLive : s.LiveInfo info := Option.isSome_iff_exists.mpr ⟨el, hel⟩
  have hkeeps (hget : t.lstInfoK.get info = s.lstInfoK.get info) :
      t.devListHandle info = some list := (devListHandle_of_get hget).trans hinfo
  -- the calls are taken one by one; only two can take an element out of a list that stays
  cases call with
  | init outcome =>
    refine iff_of_true (hkeeps ?_) not_false
    obtain ⟨made, u, hinit, hspec⟩ := DevLists.lstKInitInternal_spec h outcome
    change (s.lstKInitInternal outcome).map _ = _ at hrun
    rw [hinit] at hrun
    cases hrun
    rcases hspec with ⟨-, hsame⟩ | ⟨-, hbuilt⟩
    · rw [hsame.infos]
    · exact hbuilt.old info hinfoLive
  | clone srcList noHandle refused =>
    refine iff_of_true (hkeeps ?_) not_false
    change s.lstKClone srcList noHandle refused = _ at hrun
    cases noHandle with
    | true =>
      cases (DevLists.lstKClone_of_noHandle hidle hlive refused).symm.trans hrun
      rfl
    | false =>
      obtain ⟨u, hclone, -, hkept, -⟩ := DevLists.lstKClone_of_live h hidle hlive refused
      cases hclone.symm.trans hrun
      exact hkept info hinfoLive
  | cloneInfo srcInfo refused =>
    refine iff_of_true ?_ not_false
    cases hrun
    exact (DevLists.handle_cloneInfo h hlive refused info).trans hinfo
  | attachInfo deviceList deviceInfo =>
    obtain ⟨hdst, hsrc⟩ := Bool.and_eq_true_iff.mp hlive
    exact iff_of_true (DevLists.handle_attachInfo h (hidle.base_of_live hdst) hsrc hrun hinfo)
      not_false
  | detachInfo deviceList deviceInfo =>
    obtain ⟨hsrc, hdst⟩ := Bool.and_eq_true_iff.mp hlive
    exact DevLists.handle_detachInfo h (hidle.base_of_live hsrc) hdst hrun hinfo
  | freeInfo deviceInfo =>
    refine iff_of_true ?_ not_false
    have hfreed := DevLists.handle_freeInfo h hlive hinfo
    rw [Option.some_inj.mp hrun] at hfreed
    exact hfreed
  | sync masterList slaveList syncFlags outcome =>
    obtain ⟨hmaster, hslave⟩ := Bool.and_eq_true_iff.mp hlive
    cases slaveList with
    | none =>
      obtain ⟨made, u, hsync, hstays, -⟩ :=
        DevLists.lstKSync_new_kept pathMatchSpec h hidle hmaster syncFlags outcome
      cases hsync.symm.trans hrun
      exact iff_of_true (hstays info list hinfo) not_false
    | some slave =>
      obtain ⟨u, hsync, hmoves, -⟩ :=
        DevLists.lstKSync_given_kept pathMatchSpec h hidle hmaster hslave syncFlags outcome
      cases hsync.symm.trans hrun
      exact hmoves.handle_iff pathMatchSpec h hinfo
  | free deviceList =>
    obtain ⟨u, hfree, hreleased⟩ := DevLists.lstKFree_of_live h hidle hlive
    cases hfree.symm.trans hrun
    -- the elements of the list that is freed are gone with it
    refine iff_of_true (hkeeps (hreleased.kept info fun hgone => ?_)) not_false
    rw [hinfo, Option.some_inj] at hgone
    subst hgone
    rw [hreleased.base, if_pos rfl] at hlist
    cases hlist

/-- The list an element is taken out of stays. -/
theorem LstKCall.Removes.base_isSome (h : s.Linked) (hidle : s.Idle) {call : LstKCall}
    (hlive : call.live s = true) {success : Bool}
    (hrun : call.run pathMatchSpec s = some (success, t))
    (hremoves : call.Removes pathMatchSpec s list info) :
    (s.base list).isSome ∧ (t.base list).isSome := by
  cases call with
  | detachInfo deviceList deviceInfo =>
    obtain ⟨rfl, rfl⟩ := hremoves
    obtain ⟨hsrc, hdst⟩ := Bool.and_eq_true_iff.mp hlive
    obtain ⟨src, hdst⟩ := Option.isSome_iff_exists.mp hdst
    obtain ⟨success', u, hdetach, -, hframe⟩ := DevLists.lstKDetachInfo_frame
      DevLists.cleanupDeviceList h (hidle.base_of_live hsrc) ObjBase.usable_acquired hdst list
    cases hdetach.symm.trans hrun
    rw [hframe.base]
    exact ⟨hsrc, hsrc⟩
  | sync masterList slaveList syncFlags outcome =>
    obtain ⟨hmaster, hslave⟩ := Bool.and_eq_true_iff.mp hlive
    cases slaveList with
    | none => cases hremoves
    | some slave =>
      obtain ⟨rfl, -⟩ := hremoves
      obtain ⟨u, hsync, hmoves, -⟩ :=
        DevLists.lstKSync_given_kept pathMatchSpec h hidle hmaster hslave syncFlags outcome
      cases hsync.symm.trans hrun
      rw [hmoves.frame.base]
      exact ⟨hslave, hslave⟩
  | _ => cases hremoves

end Calls

/-! ### Runs -/

section Runs

variable (pathMatchSpec : List Char → List Char → Bool) {s t : ListCursors} {call : CursorCall}

/-- What holds between calls as long as the cursors are at elements of their lists. -/
structure ListCursors.Kept (s : ListCursors) : Prop where
  linked : s.lists.Linked
  idle : s.lists.Idle
  attached : s.Attached

theorem ListCursors.kept_empty : empty.Kept :=
  ⟨DevLists.linked_empty, DevLists.idle_empty, fun _ _ _ h => nomatch h⟩

/-- The cursor of one list moves. -/
theorem ListCursors.Attached.setCurrent (h : s.Attached) {list : ℕ} {info : Option ℕ}
    (hmem : ∀ other, info = some other → other ∈ s.lists.chain list) :
    (s.setCurrent list info).Attached := by
  intro l i hl hi
  unfold ListCursors.setCurrent at hi
  dsimp only at hi
  by_cases heq : l = list
  · subst heq
    rw [Function.update_self] at hi
    exact hmem i hi
  · rw [Function.update_of_ne heq] at hi
    exact h l i hl hi

/-- What a call does. -/
theorem lstKCursorCalls_cases (hidle : s.lists.Idle)
    (hstep : (lstKCursorCalls pathMatchSpec).step s call = some t) :
    (∃ list deviceInfo stale, call = .moveNext list deviceInfo stale ∧
      (s.lists.base list).isSome ∧ t = s.setCurrent list (s.nextCurrent list stale)) ∨
    (∃ list, call = .moveReset list ∧ t = s.setCurrent list none) ∨
    (∃ list, call = .current list ∧ t = s) ∨
    ∃ other success lists, call = .other other ∧ other.live s.lists = true ∧
      other.run pathMatchSpec s.lists = some (success, lists) ∧ t = s.withLists lists := by
  unfold lstKCursorCalls at hstep
  dsimp only at hstep
  cases call with
  | moveNext list deviceInfo stale =>
    obtain ⟨hlive, hstep⟩ := Option.ite_none_right_eq_some.mp hstep
    rw [ListCursors.lstKMoveNext_of_live hidle hlive] at hstep
    split at hstep
    · cases hstep
    · exact .inl ⟨list, deviceInfo, stale, rfl, hlive, (Option.some_inj.mp hstep).symm⟩
  | moveReset list =>
    obtain ⟨hlive, hstep⟩ := Option.ite_none_right_eq_some.mp hstep
    rw [ListCursors.lstKMoveReset_of_live hidle hlive] at hstep
    exact .inr (.inl ⟨list, rfl, (Option.some_inj.mp hstep).symm⟩)
  | current list =>
    obtain ⟨hlive, hstep⟩ := Option.ite_none_right_eq_some.mp hstep
    rw [ListCursors.lstKCurrent_of_live hidle hlive] at hstep
    exact .inr (.inr (.inl ⟨list, rfl, (Option.some_inj.mp hstep).symm⟩))
  | other call =>
    obtain ⟨lists, hcall, rfl⟩ := Option.map_eq_some_iff.mp hstep
    obtain ⟨hlive, hcall⟩ := Option.ite_none_right_eq_some.mp hcall
    obtain ⟨⟨success, lists'⟩, hrun, rfl⟩ := Option.map_eq_some_iff.mp hcall
    exact .inr (.inr (.inr ⟨call, success, lists', rfl, hlive, hrun, rfl⟩))

theorem current_withLists {lists : DevLists} {list info : ℕ}
    (h : (s.withLists lists).current list = some info) :
    (s.lists.base list).isSome ∧ s.current list = some info :=
  Option.ite_none_right_eq_some.mp h

/-- Calls on cursors change no list. -/
theorem linked_idle_of_step (h : s.lists.Linked ∧ s.lists.Idle)
    (hstep : (lstKCursorCalls pathMatchSpec).step s call = some t) :
    t.lists.Linked ∧ t.lists.Idle := by
  obtain ⟨_, _, _, -, -, rfl⟩ | ⟨_, -, rfl⟩ | ⟨_, -, rfl⟩ | ⟨other, _, _, -, hlive, hrun, rfl⟩ :=
    lstKCursorCalls_cases pathMatchSpec h.2 hstep
  · exact h
  · exact h
  · exact h
  · obtain ⟨_, _, hrun', hkept⟩ := other.kept pathMatchSpec h.1 h.2 hlive
    cases hrun'.symm.trans hrun
    exact ⟨hkept.linked, hkept.idle⟩

/-- **A call that takes no current element out of its list** leaves the cursors at elements of
their lists. -/
theorem attached_of_step (h : s.Kept) (hkeeps : KeepsCursor pathMatchSpec s call)
    (hstep : (lstKCursorCalls pathMatchSpec).step s call = some t) : t.Attached := by
  obtain ⟨hlinked, -⟩ := linked_idle_of_step pathMatchSpec ⟨h.linked, h.idle⟩ hstep
  obtain ⟨list, _, stale, -, hlive, rfl⟩ | ⟨list, -, rfl⟩ | ⟨_, -, rfl⟩ |
      ⟨other, _, _, rfl, hlive, hrun, rfl⟩ := lstKCursorCalls_cases pathMatchSpec h.idle hstep
  -- a cursor that moves stays in its list
  · exact h.attached.setCurrent fun info hnext => ListCursors.nextCurrent_mem h.linked
      (fun i hi => h.attached list i hlive hi) stale hnext
  · exact h.attached.setCurrent fun _ hnone => nomatch hnone
  · exact h.attached
  -- for the other calls the cursors stay where they are, and the elements may go
  · intro list info hlist hcurrent
    obtain ⟨hold, hcurrent⟩ := current_withLists hcurrent
    have hinfo := (h.linked.mem_chain list info).mp (h.attached list info hold hcurrent)
    exact (hlinked.mem_chain list info).mpr
      ((LstKCall.handle_iff pathMatchSpec h.linked h.idle hlive hrun hinfo hlist).mpr
        (hkeeps list info hcurrent))

theorem keepsCursor_of_step (h : s.Kept)
    (hstep : (lstKCursorCalls pathMatchSpec).step s call = some t) (hattached : t.Attached) :
    KeepsCursor pathMatchSpec s call := by
  obtain ⟨hlinked, -⟩ := linked_idle_of_step pathMatchSpec ⟨h.linked, h.idle⟩ hstep
  obtain ⟨_, _, _, rfl, -⟩ | ⟨_, rfl, -⟩ | ⟨_, rfl, -⟩ |
      ⟨other, _, lists, rfl, hlive, hrun, rfl⟩ := lstKCursorCalls_cases pathMatchSpec h.idle hstep
  · trivial
  · trivial
  · trivial
  -- an element that is taken out stays the current one
  · intro list info hcurrent hremoves
    obtain ⟨hold, hnew⟩ := hremoves.base_isSome pathMatchSpec h.linked h.idle hlive hrun
    have hinfo := (h.linked.mem_chain list info).mp (h.attached list info hold hcurrent)
    have hcurrent' : (s.withLists lists).current list = some info := (if_pos hold).trans hcurrent
    have hstays := (hlinked.mem_chain list info).mp (hattached list info hnew hcurrent')
    exact (LstKCall.handle_iff pathMatchSpec h.linked h.idle hlive hrun hinfo hnew).mp hstays
      hremoves

/-- **When the cursors are at elements of their lists**, in a run of calls on live handles:
exactly if no call takes a current element out of its list.  In every state a run leads to,
`LstK_MoveNext` visits a list from its start to its end, in order; only its first call cannot
do without a place for the element. -/
theorem lstKCursor_iff (calls : List CursorCall) :
    ((lstKCursorCalls pathMatchSpec).Always ListCursors.Attached .empty calls ↔
      (lstKCursorCalls pathMatchSpec).Throughout (KeepsCursor pathMatchSpec) .empty calls) ∧
    (lstKCursorCalls pathMatchSpec).Always (fun s => ∀ list stale (deviceInfos : List Bool),
      (s.lists.base list).isSome → deviceInfos.length = (s.lists.chain list).length + 1 →
        (s.VisitsAll list stale deviceInfos ↔
          s.lists.chain list = [] ∨ deviceInfos.head? = some true)) .empty calls := by
  constructor
  · refine Machine.always_iff_throughout (I := ListCursors.Kept) (fun _ h => h.attached)
      (fun s call t h hkeeps hstep => ?_)
      (fun s call t h hstep hattached => keepsCursor_of_step pathMatchSpec h hstep hattached)
      ListCursors.kept_empty
    obtain ⟨hlinked, hidle⟩ := linked_idle_of_step pathMatchSpec ⟨h.linked, h.idle⟩ hstep
    exact ⟨hlinked, hidle, attached_of_step pathMatchSpec h hkeeps hstep⟩
  · refine Machine.always_of_step (fun s h list stale deviceInfos hlive hlength => ?_)
      (fun _ _ _ h hstep => linked_idle_of_step pathMatchSpec h hstep) calls
      ⟨DevLists.linked_empty, DevLists.idle_empty⟩
    exact ListCursors.visitsAll_iff h.1 h.2 hlive stale hlength

/-- A list of one element, which is visited, detached and freed. -/
def freedAtCursor : List CursorCall :=
  [.other (.init (.built [(aLink "A" true).toTempItem] true)), .moveNext 0 true none,
    .other (.detachInfo 0 0), .other (.freeInfo 0)]

/-- The element is gone, and `LstK_Current` returns it. -/
theorem not_attached_freedAtCursor :
    ¬(lstKCursorCalls fun _ _ => true).Always ListCursors.Attached .empty freedAtCursor ∧
      ∃ s, (lstKCursorCalls fun _ _ => true).exec .empty freedAtCursor = some s ∧
        s.lists.lstInfoK.get 0 = none ∧ ∃ t, s.lstKCurrent 0 = some (true, some 0, t) := by
  -- the cursor is at the element after it has been freed
  refine ⟨fun h => ?_, _, rfl, rfl, _, rfl⟩
  have hexec : ∃ s, (lstKCursorCalls fun _ _ => true).exec .empty freedAtCursor = some s ∧
      (s.lists.base 0).isSome ∧ s.current 0 = some 0 ∧ s.lists.chain 0 = [] :=
    ⟨_, rfl, rfl, rfl, rfl⟩
  obtain ⟨s, hrun, hlive, hcurrent, hchain⟩ := hexec
  have hmem := h.exec hrun 0 0 hlive hcurrent
  rw [hchain] at hmem
  cases hmem

end Runs

end LibusbK
