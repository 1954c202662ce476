import LibusbK.Dll.StreamApcs

/-!
# The transfer items of a stream

Every transfer item is in one list: one of the stream, one that a call has taken and not
handed over, or one that an APC carries.  When the stream thread has ended and no call is
under way, it should be in the `Queued` list or in the `Finished` list.

## Main definitions

* `StreamRun.held` — how often an item is in the lists.
* `Accounted` — what should hold when the thread has left its last loop.
* `StreamRun.unraced` — the steps that are taken under no race.

## Main results

* `held_user`, `held_pending` — a step moves items from list to list.
* `accounted_of_throughout` — the items are accounted for in every run without races.
-/

namespace LibusbK

open StreamRun

/-! ### Counting items -/

/-- The number of items with the index `i`. -/
def indexCount (i : ℕ) (items : List XferItem) : ℕ := items.countP fun item => item.index == i

@[simp] theorem indexCount_nil (i : ℕ) : indexCount i [] = 0 := rfl

@[simp] theorem indexCount_append (i : ℕ) (items items' : List XferItem) :
    indexCount i (items ++ items') = indexCount i items + indexCount i items' :=
  List.countP_append

theorem indexCount_cons (i : ℕ) (item : XferItem) (items : List XferItem) :
    indexCount i (item :: items) = indexCount i [item] + indexCount i items :=
  indexCount_append i [item] items

theorem indexCount_eq_count (i : ℕ) (items : List XferItem) :
    indexCount i items = (items.map XferItem.index).count i := by
  rw [List.count, List.countP_map]
  rfl

/-- Items count by their indices. -/
theorem indexCount_congr {items items' : List XferItem}
    (h : items.map XferItem.index = items'.map XferItem.index) (i : ℕ) :
    indexCount i items = indexCount i items' := by
  rw [indexCount_eq_count, indexCount_eq_count, h]

theorem indexCount_map (i : ℕ) {f : XferItem → XferItem} (hf : ∀ item, (f item).index = item.index)
    (items : List XferItem) : indexCount i (items.map f) = indexCount i items := by
  refine indexCount_congr ?_ i
  rw [List.map_map]
  exact List.map_congr_left fun item _ => hf item

theorem indexCount_reverse (i : ℕ) (items : List XferItem) :
    indexCount i items.reverse = indexCount i items :=
  List.countP_reverse

/-! ### What the loops of the calls take -/

/-- `StmK_Read` takes an item or leaves it. -/
theorem takeFinished_index (semCount : ℕ) (items : List XferItem) (semReady : Option ℕ)
    (length : ℕ) :
    ((takeFinished semCount items semReady length).xferSubmitList ++
      (takeFinished semCount items semReady length).finished).map XferItem.index =
      items.map XferItem.index := by
  induction items generalizing semCount semReady length with
  | nil => rfl
  | cons item items ih =>
    rw [takeFinished]
    split
    · rfl
    · dsimp only
      split
      · rfl
      split
      · rfl
      · rw [List.cons_append, List.map_cons, ih, List.map_cons]

theorem StreamCall.take_index (call : StreamCall) (handle : StmHandle) :
    ((call.take handle).xferSubmitList ++ (call.take handle).finished).map XferItem.index =
      handle.finished.map XferItem.index := by
  cases call with
  | read call => exact takeFinished_index 1 handle.finished handle.semReady _
  | write call => exact fillFinished_index 1 handle.finished handle.semReady _

/-! ### The items a stream holds -/

namespace StreamRun

variable (s : StreamRun)

/-- The number of items with the index `i` that the calls of the users have taken. -/
def usersHold (i : ℕ) (users : List (Option UserPc)) : ℕ :=
  Stacks.tally (fun item => item.index == i) (users.map userItems)

/-- The number of items with the index `i` in all lists. -/
def held (i : ℕ) : ℕ :=
  indexCount i s.handle.queued + indexCount i s.handle.finished +
    indexCount i s.handle.finishedTemp + indexCount i (s.stm.pendingList.map Prod.fst) +
    Stacks.tally (fun item => item.index == i) s.apcs + usersHold i s.users

theorem usersHold_set {users : List (Option UserPc)} {k : ℕ} {user : Option UserPc}
    (h : users[k]? = some user) (i : ℕ) (user' : Option UserPc) :
    usersHold i (users.set k user') + indexCount i (userItems user) =
      usersHold i users + indexCount i (userItems user') := by
  unfold usersHold
  rw [List.map_set]
  refine Stacks.tally_set _ ?_ _
  rw [List.getElem?_map, h]
  rfl

theorem tally_append (i : ℕ) (apcs : List (List XferItem)) (items : List XferItem) :
    Stacks.tally (fun item => item.index == i) (apcs ++ [items]) =
      Stacks.tally (fun item => item.index == i) apcs + indexCount i items := by
  unfold Stacks.tally indexCount
  rw [List.flatten_append, List.countP_append, List.flatten_singleton]

/-- The items stay when their contents change. -/
theorem held_mapItems {f : XferItem → XferItem} (hf : ∀ item, (f item).index = item.index)
    (i : ℕ) : (s.mapItems f).held i = s.held i := by
  have hlists : ∀ lists : List (List XferItem),
      Stacks.tally (fun item => item.index == i) (lists.map fun items => items.map f) =
        Stacks.tally (fun item => item.index == i) lists := by
    intro lists
    induction lists with
    | nil => rfl
    | cons items lists ih =>
      rw [List.map_cons, Stacks.tally_cons, Stacks.tally_cons, ih]
      exact congrArg (· + _) (indexCount_map i hf items)
  have husers : (s.mapItems f).users.map userItems =
      (s.users.map userItems).map fun items => items.map f := by
    rw [mapItems, List.map_map, List.map_map]
    refine List.map_congr_left fun user _ => ?_
    cases user with
    | none => rfl
    | some pc => cases pc <;> rfl
  have hpending : (s.mapItems f).stm.pendingList.map Prod.fst =
      (s.stm.pendingList.map Prod.fst).map f := by
    rw [mapItems, List.map_map, List.map_map]
    rfl
  unfold held usersHold
  rw [husers, hpending, hlists, indexCount_map i hf]
  simp only [mapItems, hlists, indexCount_map i hf]

theorem held_restore (backup : Option XferItem) (i : ℕ) :
    (s.restore backup).held i = s.held i := by
  cases backup with
  | none => rfl
  | some old =>
    refine held_mapItems s (fun item => ?_) i
    split <;> rfl

/-! ### Steps -/

variable {s : StreamRun} {s' : StreamRun}

/-- A step of a call moves items from list to list. -/
theorem held_user {k : ℕ} {pc : UserPc} (h : s.users[k]? = some (some pc))
    (hstep : UserStep s k pc s') (i : ℕ) : s'.held i = s.held i := by
  cases hstep with
  | quiet pc' semReady locked failed hpc hpc' hitems hfailed htaken hwaiting hsem =>
    have husers := usersHold_set h i pc'
    rw [hitems] at husers
    have hsame : indexCount i pc.items = indexCount i (userItems (some pc)) := rfl
    simp only [held, goOn, withHandle] at husers ⊢
    omega
  | takes call hpc hne =>
    subst hpc
    have husers := usersHold_set h i (some (.releases call (call.take s.handle)))
    have hitems : userItems (some (.takes call)) = [] := rfl
    have hitems' : userItems (some (.releases call (call.take s.handle))) =
        (call.take s.handle).xferSubmitList := rfl
    have htake := indexCount_congr (call.take_index s.handle) i
    rw [indexCount_append] at htake
    rw [hitems, hitems', indexCount_nil] at husers
    simp only [held, goOn, withHandle]
    omega
  | queues call taken hpc hqueue hlife =>
    subst hpc
    have husers := usersHold_set h i (some .counts)
    have hitems : userItems (some (.queues call taken)) = taken.xferSubmitList := rfl
    have hitems' : userItems (some UserPc.counts) = [] := rfl
    rw [hitems, hitems', indexCount_nil] at husers
    simp only [held, goOn, handle, tally_append]
    omega
  | counts hpc =>
    subst hpc
    have husers := usersHold_set h i none
    have hitems : userItems (some UserPc.counts) = [] := rfl
    have hitems' : userItems none = [] := rfl
    rw [hitems, hitems', indexCount_nil] at husers
    simp only [held, goOn, withHandle]
    omega
  | appends taken hpc =>
    subst hpc
    have husers := usersHold_set h i none
    have hitems : userItems (some (.appends taken)) = taken.xferSubmitList := rfl
    have hitems' : userItems none = [] := rfl
    rw [hitems, hitems', indexCount_nil] at husers
    simp only [held, goOn, withHandle, indexCount_append]
    omega
  | putsBack call taken hpc =>
    subst hpc
    -- the items go back after the context of the backup is restored, in whatever list it is
    have hrestore := held_restore s taken.backupXferItem i
    have hget : ∃ pc', (s.restore taken.backupXferItem).users[k]? = some (some pc') ∧
        indexCount i pc'.items = indexCount i taken.xferSubmitList := by
      cases hbackup : taken.backupXferItem with
      | none => exact ⟨_, h, rfl⟩
      | some old =>
        refine ⟨_, by rw [restore, mapItems, List.getElem?_map, h]; rfl, ?_⟩
        exact indexCount_map i (fun item => by split <;> rfl) taken.xferSubmitList
    obtain ⟨pc', hget, hitems⟩ := hget
    have husers := usersHold_set hget i (some (.releasesBack call))
    have hitems' : userItems (some pc') = pc'.items := rfl
    have hitems'' : userItems (some (.releasesBack call)) = [] := rfl
    rw [hitems', hitems'', hitems, indexCount_nil] at husers
    simp only [held, goOn, withHandle, putBack, List.foldl_flip_cons_eq_append',
      indexCount_append, indexCount_reverse] at hrestore ⊢
    omega

/-- What a transfer that ends does to the lists of the handle. -/
theorem Ends.indexCount {o : PendingOutcome} {item : XferItem} {handle : StmHandle}
    (h : s.Ends o item handle) (i : ℕ) :
    indexCount i handle.queued + indexCount i handle.finished + indexCount i handle.finishedTemp =
      indexCount i s.handle.queued + indexCount i s.handle.finished +
        indexCount i s.handle.finishedTemp + indexCount i [item] := by
  cases h with
  | requeued hcallback =>
    simp only [indexCount_append]
    omega
  | finished hfree =>
    simp only [StmHandle.synchronizeFinishedList, StmHandle.releaseSemaphore, indexCount_append,
      indexCount_nil, Option.toList_some]
    omega
  | temp hlocked =>
    simp only [indexCount_append]
    omega

/-- A transfer that ends leaves its item to another list. -/
theorem held_pending {o : PendingOutcome} {ovlList : DList ℕ}
    (h : s.pendingStep o ovlList = some s') (i : ℕ) : s'.held i = s.held i := by
  obtain ⟨-, -, hapcs, husers, -, -, -, hends⟩ := pendingStep_spec h
  rcases hends with ⟨-, hhandle, hpending⟩ | ⟨item, ovlNext, handle, hpending, -, hends, hhandle⟩
  · rw [held, held, hhandle, hpending, hapcs, husers]
  · have hcount := hends.indexCount i
    have hitem : LibusbK.indexCount i [o.ended s.handle.isIn item] =
        LibusbK.indexCount i [item] := rfl
    rw [held, held, hhandle, hpending, hapcs, husers, List.map_cons, indexCount_cons]
    dsimp only
    omega

/-- A transfer that is submitted, or not, keeps its item. -/
theorem held_queued {submit : UInt32} {ovlList : DList ℕ} (h : QueuedStep s submit ovlList s')
    (i : ℕ) : s'.held i = s.held i := by
  cases h with
  | idle hnone => rfl
  | fails item queued ovlNext hqueued hhead hsubmit =>
    have hreset : indexCount i (item.reset s.handle.isIn :: queued) =
        indexCount i s.handle.queued := by
      rw [hqueued]
      rfl
    dsimp only [held]
    rw [hreset]
  | submits item queued ovlNext hqueued hhead hsubmit =>
    have hreset : indexCount i [item.reset s.handle.isIn] + indexCount i queued =
        indexCount i s.handle.queued := by
      rw [hqueued]
      exact (indexCount_cons i (item.reset s.handle.isIn) queued).symm
    simp only [held, handle, List.map_append, List.map_singleton, indexCount_append] at hreset ⊢
    omega

/-- `Stm_SynchronizeFinishedList` without an item. -/
theorem indexCount_synchronize (h : StmHandle) (i : ℕ) :
    indexCount i (h.synchronizeFinishedList none).finished +
        indexCount i (h.synchronizeFinishedList none).finishedTemp =
      indexCount i h.finished + indexCount i h.finishedTemp := by
  simp only [StmHandle.synchronizeFinishedList, StmHandle.releaseSemaphore, indexCount_append,
    indexCount_nil, Option.toList_none]
  omega

/-! ### The items are accounted for -/

/-- **What should hold when the thread has left its last loop**: no APC carries items any
more, and when no call is under way, every item is queued or finished. -/
structure Accounted (n : ℕ) (s : StreamRun) : Prop where
  delivered : s.life = .left ∨ s.life = .ended → s.apcs = []
  kept : s.life = .ended → (∀ user ∈ s.users, user = none) →
    ((s.handle.queued ++ s.handle.finished).map XferItem.index).Perm (List.range n)

/-- The step is taken under no race: the thread misses no APC, and a transfer that ends in the
last loop finds the `Finished` list unlocked. -/
def unraced (s : StreamRun) (e : StreamEvent) : Bool :=
  s.apcInTime e &&
    match e with
    | .processPending _ => !(s.life == .draining && s.locked)
    | _ => true

/-- Every item is in one list, and not in `FinishedTemp` when that has been synchronized for the
last time. -/
structure ItemsInv (n : ℕ) (s : StreamRun) : Prop where
  apcs : s.ApcInv
  held : ∀ i, s.held i = if i < n then 1 else 0
  flushed : s.life.isFlushed = true → s.handle.finishedTemp = []

theorem usersHold_of_idle {users : List (Option UserPc)} (h : ∀ user ∈ users, user = none)
    (i : ℕ) : usersHold i users = 0 := by
  induction users with
  | nil => rfl
  | cons user users ih =>
    have huser := h user (List.mem_cons_self ..)
    subst huser
    exact ih fun user hmem => h user (List.mem_cons_of_mem _ hmem)

theorem ItemsInv.accounted {n : ℕ} (hs : ItemsInv n s) : Accounted n s where
  delivered hlife := by
    refine (hs.apcs.idle ?_).1
    rcases hlife with h | h <;> rw [h] <;> rfl
  kept hended hnone := by
    obtain ⟨hapcs, hpending⟩ := hs.apcs.idle (by rw [hended]; rfl)
    have htemp := hs.flushed (by rw [hended]; rfl)
    refine List.perm_iff_count.mpr fun i => ?_
    have hheld := hs.held i
    have hrange : (List.range n).count i = if i < n then 1 else 0 := by
      rw [List.nodup_range.count]
      simp only [List.mem_range]
    rw [StreamRun.held, hapcs, hpending, htemp, usersHold_of_idle hnone] at hheld
    rw [hrange, ← hheld, List.count, List.countP_map, List.countP_append]
    rfl

/-! ### Runs -/

/-- A user that is idle calls, or the call fails at once. -/
theorem held_call {k : ℕ} (hidle : s.users[k]? = some none) {pc : Option UserPc}
    (hitems : userItems pc = []) (i : ℕ) : (s.goOn k pc).held i = s.held i := by
  have husers := usersHold_set hidle i pc
  rw [hitems] at husers
  have hsame : usersHold i (s.users.set k pc) = usersHold i s.users := husers
  simp only [held, goOn, hsame]

/-- **A step moves items from list to list**: what a thread that ends leaves behind is lost. -/
theorem held_step {maxPendingIo : ℕ} {e : StreamEvent}
    (hleft : e.changesThread = true → s.apcs = [] ∧ s.stm.pendingList = [])
    (h : (streamRun maxPendingIo).step s e = some s') (i : ℕ) : s'.held i = s.held i := by
  cases Step.of_step h with
  | call k call hidle haccepted => exact held_call hidle rfl i
  | callFails k call hidle =>
    have hcall : (s.goOn k none).held i = s.held i := held_call hidle rfl i
    exact hcall
  | user k pc s' hpc hrun => exact held_user hpc (.of_run hrun) i
  | start hstopped hended => rw [StreamRun.held, StreamRun.held, (hleft rfl).2]
  | startFails hlife =>
    rw [StreamRun.held, StreamRun.held, (hleft rfl).1]
    rfl
  | exit hlife =>
    rw [StreamRun.held, StreamRun.held, (hleft rfl).1]
    rfl
  | deliver xferSubmitList apcs hapcs halertable =>
    rw [StreamRun.held, StreamRun.held, hapcs, Stacks.tally_cons]
    simp only [withHandle, StmHandle.transferListAPC, indexCount_append]
    unfold indexCount
    omega
  | flush hlife hphase hgoesOn hunlocked =>
    have hsync := indexCount_synchronize s.handle i
    rw [StreamRun.held, StreamRun.held]
    simp only [StmHandle.synchronizeFinishedList, StmHandle.releaseSemaphore] at hsync ⊢
    omega
  | processQueued submit ovlList s' hlife hphase hovl hstep => exact held_queued hstep i
  | processPending outcome ovlList s' hovl hstep => exact held_pending hstep i
  | synchronize hlife hunlocked =>
    have hsync := indexCount_synchronize s.handle i
    rw [StreamRun.held, StreamRun.held]
    simp only [withHandle, StmHandle.synchronizeFinishedList, StmHandle.releaseSemaphore]
      at hsync ⊢
    omega
  -- the other steps change the thread and its state only
  | _ => rfl

/-- A thread that ends leaves nothing behind if no APC has come too late. -/
theorem ApcInv.left {maxPendingIo : ℕ} (hs : s.ApcInv) {e : StreamEvent}
    (h : (streamRun maxPendingIo).step s e = some s') (he : e.changesThread = true) :
    s.apcs = [] ∧ s.stm.pendingList = [] := by
  refine hs.idle ?_
  cases Step.of_step h with
  | start hstopped hended => rw [hended]; rfl
  | startFails hlife => rw [hlife]; rfl
  | exit hlife => rw [hlife]; rfl
  | _ => cases he

/-- No step adds an item to a list without taking it from another. -/
theorem held_step_le {maxPendingIo : ℕ} {e : StreamEvent}
    (h : (streamRun maxPendingIo).step s e = some s') (i : ℕ) : s'.held i ≤ s.held i := by
  cases hthread : e.changesThread with
  | false => exact Nat.le_of_eq (held_step (fun htrue => by cases hthread.symm.trans htrue) h i)
  | true =>
    cases Step.of_step h with
    | start hstopped hended =>
      simp only [held, List.map_nil, indexCount_nil]
      omega
    | startFails hlife =>
      simp only [held, withHandle, Stacks.tally_nil]
      omega
    | exit hlife =>
      simp only [held, withHandle, Stacks.tally_nil]
      omega
    | _ => cases hthread

/-- A thread that submits is in its loop, or leaves it. -/
theorem isFlushed_queued {submit : UInt32} {ovlList : DList ℕ} (hrunning : s.life = .running)
    (h : QueuedStep s submit ovlList s') : s'.life.isFlushed = false := by
  cases h with
  | idle hnone =>
    rw [hrunning]
    rfl
  | fails item queued ovlNext hqueued hhead hsubmit => rfl
  | submits item queued ovlNext hqueued hhead hsubmit =>
    rw [hrunning]
    rfl

/-- The last loop leaves nothing in `FinishedTemp`, if it finds the lock free. -/
theorem flushed_step {maxPendingIo : ℕ} {e : StreamEvent}
    (hs : s.life.isFlushed = true → s.handle.finishedTemp = [])
    (hok : ∀ outcome, e = .processPending outcome → s.life = .draining → s.locked = false)
    (h : (streamRun maxPendingIo).step s e = some s') (hflushed : s'.life.isFlushed = true) :
    s'.handle.finishedTemp = [] := by
  cases Step.of_step h with
  | call k call hidle haccepted => exact hs hflushed
  | callFails k call hidle => exact hs hflushed
  | user k pc s' hpc hrun =>
    obtain ⟨hlife, -, -, -, htemp, -⟩ := (UserStep.of_run hrun).frame
    rw [hlife] at hflushed
    exact htemp (hs hflushed)
  | start hstopped hended => exact hs (by rw [hended]; rfl)
  | startFails hlife => exact hs (by rw [hlife]; rfl)
  | stop hstarted => exact hs hflushed
  | deliver xferSubmitList apcs hapcs halertable => exact hs hflushed
  | loop hlife hphase hgoesOn => exact hs hflushed
  | flush hlife hphase hgoesOn hunlocked => rfl
  | processQueued submit ovlList s' hlife hphase hovl hstep =>
    -- the thread is in its loop, or leaves it
    rw [isFlushed_queued hlife hstep] at hflushed
    cases hflushed
  | processPending outcome ovlList s' hovl hstep =>
    obtain ⟨hlife, -, -, -, -, -, -, hends⟩ := pendingStep_spec hstep
    have hdraining : s.life = .draining := by
      rcases hlife with ⟨-, h'⟩ | ⟨h', -⟩
      · rw [h'] at hflushed
        cases hflushed
      · exact h'
    have htemp := hs (by rw [hdraining]; rfl)
    rcases hends with ⟨-, hhandle, -⟩ | ⟨item, ovlNext, handle, -, -, hends, hhandle⟩
    · rw [hhandle]
      exact htemp
    · rw [hhandle]
      cases hends with
      | requeued hcallback => exact htemp
      | finished hfree => rfl
      | temp hlocked => cases (hok outcome rfl hdraining).symm.trans hlocked
  | synchronize hlife hunlocked => rfl
  | test hlife hmore => exact hs (by rw [hlife]; rfl)
  | endTest hlife hnone => exact hs (by rw [hlife]; rfl)
  | sleep hlife hnone => exact hs (by rw [hlife]; rfl)
  | exit hlife => exact hs (by rw [hlife]; rfl)
  -- the other steps lead to the states before the last synchronization
  | _ => cases hflushed

/-- **A step without a race keeps the items accounted for.** -/
theorem ItemsInv.step {n maxPendingIo : ℕ} (hs : ItemsInv n s) {e : StreamEvent}
    (hok : s.unraced e = true) (h : (streamRun maxPendingIo).step s e = some s') :
    ItemsInv n s' := by
  obtain ⟨hintime, hunlocked⟩ := Bool.and_eq_true_iff.mp hok
  refine ⟨hs.apcs.step hintime h, fun i => (held_step (hs.apcs.left h) h i).trans (hs.held i),
    flushed_step hs.flushed (fun outcome he hdraining => ?_) h⟩
  subst he
  simpa [hdraining] using hunlocked

theorem indexCount_newItems (maxTransferSize n i : ℕ) :
    indexCount i (newItems maxTransferSize n) = if i < n then 1 else 0 := by
  have hcount : indexCount i (newItems maxTransferSize n) = (List.range n).count i := by
    unfold indexCount newItems
    rw [List.countP_map]
    rfl
  rw [hcount, List.nodup_range.count]
  simp only [List.mem_range]

/-- Every item of a new stream is queued or finished. -/
theorem itemsInv_start (isIn noPartialXfers useTimeout : Bool) (maxTransferSize n users : ℕ) :
    ItemsInv n (start (stmKInit isIn noPartialXfers useTimeout maxTransferSize n) users) := by
  refine ⟨apcInv_start rfl rfl users, fun i => ?_, fun _ => rfl⟩
  have husers : usersHold i (List.replicate users none) = 0 :=
    usersHold_of_idle (fun _ => List.eq_of_mem_replicate) i
  rw [← indexCount_newItems maxTransferSize n i, StreamRun.held, start, husers]
  cases isIn with
  | true => rfl
  | false => simp [stmKInit, indexCount_nil]

end StreamRun

/-- **In every run without races the items are accounted for.** -/
theorem accounted_of_throughout (isIn noPartialXfers useTimeout : Bool)
    (maxTransferSize maxPendingTransfers maxPendingIo users : ℕ) {es : List StreamEvent}
    (h : (streamRun maxPendingIo).Throughout (fun s e => s.unraced e = true)
      (.start (stmKInit isIn noPartialXfers useTimeout maxTransferSize maxPendingTransfers) users)
      es) :
    (streamRun maxPendingIo).Always (Accounted maxPendingTransfers)
      (.start (stmKInit isIn noPartialXfers useTimeout maxTransferSize maxPendingTransfers) users)
      es :=
  h.always (fun _ hs => hs.accounted) (fun _ _ _ hs hok hstep => hs.step hok hstep)
    (itemsInv_start isIn noPartialXfers useTimeout maxTransferSize maxPendingTransfers users)

/-- A write of one byte. -/
def writeByte : StreamCall := .write { length := 1, data := [7] }

/-- A byte is written to a started stream, which is stopped when the APC is delivered. -/
theorem accounted_of_throughout_write :
    (streamRun 1).Always (Accounted 1) (.start (stmKInit false false false 4 1) 1)
      [.start, .started, .loop, .processQueued ERROR_SUCCESS, .call 0 writeByte, .user 0, .user 0,
        .user 0, .user 0, .user 0, .user 0, .user 0, .stop, .deliver, .processPending {}, .loop,
        .leave, .synchronize, .test, .exit] :=
  accounted_of_throughout false false false 4 1 1 1 (by decide +kernel)

/-- The stream is stopped between the test of its state and the APC: the APC comes when the
thread has left its last loop, and the item is in no list any more. -/
theorem not_accounted_lateApc :
    ¬(streamRun 1).Always (Accounted 1) (.start (stmKInit false false false 4 1) 1)
      [.start, .started, .loop, .processQueued ERROR_SUCCESS, .call 0 writeByte, .user 0, .user 0,
        .user 0, .user 0, .user 0, .stop, .processPending {}, .loop, .leave, .synchronize, .test,
        .user 0, .user 0, .exit] := by
  intro h
  have hlast := h.exec rfl
  have hperm := hlast.kept rfl (by decide)
  exact absurd hperm.length_eq (by decide)

/-! ### No item is lost or duplicated -/

/-- Each of the `n` items is in one list, and there once. -/
def ItemsConserved (n : ℕ) (s : StreamRun) : Prop := ∀ i, s.held i = if i < n then 1 else 0

/-- **The items are conserved** in every run in which no APC comes too late. -/
theorem itemsConserved_of_throughout (isIn noPartialXfers useTimeout : Bool)
    (maxTransferSize maxPendingTransfers maxPendingIo users : ℕ) {es : List StreamEvent}
    (h : (streamRun maxPendingIo).Throughout (fun s e => s.apcInTime e = true)
      (.start (stmKInit isIn noPartialXfers useTimeout maxTransferSize maxPendingTransfers) users)
      es) :
    (streamRun maxPendingIo).Always (ItemsConserved maxPendingTransfers)
      (.start (stmKInit isIn noPartialXfers useTimeout maxTransferSize maxPendingTransfers) users)
      es := by
  have hinit := itemsInv_start isIn noPartialXfers useTimeout maxTransferSize maxPendingTransfers
    users
  refine h.always (I := fun s => s.ApcInv ∧ ItemsConserved maxPendingTransfers s)
    (fun _ hs => hs.2) (fun s e s' hs hok hstep => ?_) ⟨hinit.apcs, hinit.held⟩
  exact ⟨hs.1.step hok hstep, fun i => (held_step (hs.1.left hstep) hstep i).trans (hs.2 i)⟩

/-- The user writes, starts the stream, writes again and stops it. -/
theorem itemsConserved_of_throughout_twoWrites :
    (streamRun 1).Always (ItemsConserved 2) (.start (stmKInit false false true 4 2) 1)
      [.call 0 writeByte, .user 0, .user 0, .user 0, .user 0, .user 0, .user 0, .start, .started,
        .loop, .call 0 writeByte, .user 0, .user 0, .user 0, .user 0, .user 0, .user 0, .user 0,
        .processQueued ERROR_SUCCESS, .processQueued ERROR_SUCCESS, .deliver, .processPending {},
        .stop, .loop, .leave, .synchronize, .test, .exit] :=
  itemsConserved_of_throughout false false true 4 2 1 1 (by decide +kernel)

/-- The first submission fails while the user writes again: its APC comes when the thread has
left its last loop, and the item is in no list any more. -/
theorem not_itemsConserved_failedSubmit :
    ¬(streamRun 1).Always (ItemsConserved 2) (.start (stmKInit false false false 4 2) 1)
      [.call 0 writeByte, .user 0, .user 0, .user 0, .user 0, .user 0, .user 0, .start, .started,
        .loop, .call 0 writeByte, .user 0, .user 0, .user 0, .user 0, .user 0, .processQueued 31,
        .leave, .synchronize, .test, .user 0, .exit] := by
  intro h
  have hlast := h.exec rfl 1
  exact absurd hlast (by decide)

end LibusbK
