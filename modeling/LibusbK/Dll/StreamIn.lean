import LibusbK.Dll.StreamIo
import LibusbK.Dll.StreamItems

/-!
# The bytes of an IN stream

The bytes that a transfer receives stand in its item, which is finished when the transfer is
taken off the pending list.  `StmK_Read` takes the items of the `Finished` list in order, and
of the last one a part if need be.

So the bytes of the transfers that were taken are, in order, those that were handed to the
reader, those that a call has copied, and those that are unread in the `Finished` list and in
`FinishedTemp` — if the items hold what their transfers have received.

## Main definitions

* `ReadsInOrder` — what was read is a prefix of what was received.
* `StreamRun.delivered` — the bytes of the transfers that were taken.
* `StreamIo.InInv` — the items hold what was received.

## Main results

* `readsInOrder_of_throughout` — the bytes are read in order in every run whose transfers are
  taken in time.
* `not_readsInOrder_stop` — a transfer that is taken before it has received anything.
-/

namespace LibusbK

open Function Window

/-- The bytes of an item that have not been read. -/
def XferItem.unread (item : XferItem) : List UInt8 := item.stage item.context.transferLength

/-- The bytes of the items of a list that have not been read. -/
def unread (items : List XferItem) : List UInt8 := items.flatMap XferItem.unread

@[simp] theorem unread_nil : unread [] = [] := rfl

@[simp] theorem unread_append (items items' : List XferItem) :
    unread (items ++ items') = unread items ++ unread items' :=
  List.flatMap_append

theorem unread_cons (item : XferItem) (items : List XferItem) :
    unread (item :: items) = item.unread ++ unread items :=
  List.flatMap_cons

/-- The bytes an operation has received. -/
def IoOperation.received (op : IoOperation) : List UInt8 := op.result.elim [] IoResult.data

/-- **The bytes are read in order**, unless a call has failed. -/
def ReadsInOrder (s : StreamIo) : Prop :=
  s.run.failed = false →
    s.run.transferred <+: (s.collected ++ s.pending).flatMap IoOperation.received

/-- The callbacks are not set. -/
def StreamIoEvent.usesDefaults : StreamIoEvent → Bool
  | .stream e => e.usesDefaults
  | _ => true

/-! ### Reading -/

/-- What is left of an item that is read in part follows what was read. -/
theorem stage_append_consume {item : XferItem} {stageSize : ℕ}
    (h : stageSize ≤ item.context.transferLength) :
    item.stage stageSize ++ (item.consume stageSize).unread = item.unread :=
  (window_split item.context.buffer item.data h).symm

/-- **What `StmK_Read` copies is followed by what it leaves.** -/
theorem takeFinished_unread (semCount : ℕ) (items : List XferItem) (semReady : Option ℕ)
    (length : ℕ) :
    (takeFinished semCount items semReady length).data ++
      unread (takeFinished semCount items semReady length).finished = unread items := by
  induction items generalizing semCount semReady length with
  | nil => rfl
  | cons item items ih =>
    have hstage : ¬0 < item.context.transferLength - min length item.context.transferLength →
        item.stage (min length item.context.transferLength) = item.unread := by
      intro hwhole
      have hmin : min length item.context.transferLength = item.context.transferLength := by omega
      rw [hmin]
      rfl
    rw [takeFinished]
    split
    · rfl
    · next semReady' _ =>
      dsimp only
      split
      · -- the rest of the item stays in front
        rw [unread_cons, unread_cons, ← List.append_assoc,
          stage_append_consume (Nat.min_le_right ..)]
      · next hwhole =>
        rw [hstage hwhole, unread_cons]
        split
        · rfl
        · rw [List.append_assoc, ih]

theorem StreamCall.unread_take {call : StreamCall} (h : call.isWrite = false)
    (handle : StmHandle) :
    (call.take handle).data ++ unread (call.take handle).finished = unread handle.finished := by
  cases call with
  | read call => exact takeFinished_unread 1 handle.finished handle.semReady _
  | write call => cases h

/-! ### One reader -/

namespace StreamRun

variable {s s' : StreamRun}

/-- The bytes that the call of a user has copied. -/
def copied (user : Option UserPc) : List UInt8 := (user.bind UserPc.taken).elim [] Taken.data

/-- The bytes of the transfers that were taken off the pending list: they were handed to the
reader, or copied, or they are unread. -/
def delivered (s : StreamRun) : List UInt8 :=
  s.transferred ++ s.users.flatMap copied ++ unread (s.handle.finished ++ s.handle.finishedTemp)

/-- An IN stream with one user. -/
structure Reading (s : StreamRun) : Prop where
  isIn : s.handle.isIn = true
  one : s.users.length = 1
  waiting : ∀ user ∈ s.users, ∀ call, user.bind UserPc.waiting = some call → call.isWrite = false

/-- A step that leaves the bytes that were delivered as they are. -/
structure Keeps (s s' : StreamRun) : Prop where
  reading : s'.Reading
  delivered : s'.delivered = s.delivered

/-- A call that has failed has failed. -/
theorem failed_step {maxPendingIo : ℕ} {e : StreamEvent}
    (h : (streamRun maxPendingIo).step s e = some s') (hok : s'.failed = false) :
    s.failed = false := by
  cases Step.of_step h with
  | callFails k call hidle => cases hok
  | user k pc s' hpc hrun =>
    cases UserStep.of_run hrun with
    | quiet pc' semReady locked failed hpc hpc' hitems hfailed htaken hwaiting hsem =>
      cases hbefore : s.failed with
      | false => rfl
      | true => cases (hfailed hbefore).symm.trans hok
    | putsBack call taken hpc => cases hok
    | _ => exact hok
  | processQueued submit ovlList s' hlife hphase hovl hstep => cases hstep <;> exact hok
  | processPending outcome ovlList s' hovl hstep =>
    obtain ⟨-, -, -, -, -, -, hfailed, -⟩ := pendingStep_spec hstep
    rw [← hfailed]
    exact hok
  | _ => exact hok

/-- The one user. -/
theorem Reading.users (hs : s.Reading) {k : ℕ} {user : Option UserPc}
    (huser : s.users[k]? = some user) : k = 0 ∧ s.users = [user] := by
  obtain ⟨hk, hget⟩ := List.getElem?_eq_some_iff.mp huser
  obtain ⟨user', heq⟩ := List.length_eq_one_iff.mp hs.one
  have hzero : k = 0 := by
    rw [heq, List.length_singleton] at hk
    omega
  refine ⟨hzero, ?_⟩
  subst hzero
  simp only [heq, List.getElem_cons_zero] at hget
  rw [heq, hget]

/-- A step that leaves the users, and the bytes they have not read, as they are. -/
theorem Reading.of_same (hs : s.Reading) (hisIn : s'.handle.isIn = s.handle.isIn)
    (husers : s'.users = s.users) (htransferred : s'.transferred = s.transferred)
    (hunread : unread (s'.handle.finished ++ s'.handle.finishedTemp) =
      unread (s.handle.finished ++ s.handle.finishedTemp)) : s.Keeps s' where
  reading := ⟨hisIn.trans hs.isIn, by rw [husers, hs.one], by rw [husers]; exact hs.waiting⟩
  delivered := by rw [delivered, delivered, husers, htransferred, hunread]

/-- A step of the user. -/
theorem Reading.set (hs : s.Reading) {user user' : Option UserPc}
    (huser : s.users = [user]) (husers : s'.users = [user'])
    (hisIn : s'.handle.isIn = s.handle.isIn)
    (hwaiting : ∀ call, user'.bind UserPc.waiting = some call → call.isWrite = false)
    (hbytes : s'.transferred ++ copied user' ++
        unread (s'.handle.finished ++ s'.handle.finishedTemp) =
      s.transferred ++ copied user ++ unread (s.handle.finished ++ s.handle.finishedTemp)) :
    s.Keeps s' where
  reading := by
    refine ⟨hisIn.trans hs.isIn, by rw [husers]; rfl, fun user hmem => ?_⟩
    rw [husers, List.mem_singleton] at hmem
    rw [hmem]
    exact hwaiting
  delivered := by
    rw [delivered, delivered, husers, huser, List.flatMap_singleton, List.flatMap_singleton]
    exact hbytes

/-- **What a step of a call does to the bytes.** -/
theorem Reading.user (hs : s.Reading) {k : ℕ} {pc : UserPc}
    (hpc : s.users[k]? = some (some pc)) (hstep : UserStep s k pc s') (hok : s'.failed = false) :
    s.Keeps s' ∧ s'.stm.pendingList = s.stm.pendingList := by
  obtain ⟨rfl, husers⟩ := hs.users hpc
  have hreads := hs.waiting (some pc) (List.mem_of_getElem? hpc)
  have hset : ∀ user' : Option UserPc, s.users.set 0 user' = [user'] := by
    intro user'
    rw [husers]
    rfl
  cases hstep with
  | quiet pc' semReady locked failed hpc hpc' hitems hfailed htaken hwaiting hsem =>
    refine ⟨hs.set husers (hset pc') rfl (fun call h => hreads call (hwaiting call h)) ?_, rfl⟩
    have hcopied : copied pc' = copied (some pc) := by
      unfold copied
      rw [htaken hok]
      rfl
    rw [hcopied]
    rfl
  | takes call hpc hne =>
    subst hpc
    refine ⟨hs.set husers (hset _) rfl (fun call h => by cases h) ?_, rfl⟩
    have htake := call.unread_take (hreads call rfl) s.handle
    have hcopied : copied (some (.releases call (call.take s.handle))) =
        (call.take s.handle).data := rfl
    have hcopied' : copied (some (.takes call)) = [] := rfl
    rw [hcopied, hcopied']
    dsimp only [goOn, withHandle]
    rw [unread_append, unread_append, ← htake]
    simp only [List.append_assoc, List.nil_append]
  | queues call taken hpc hqueue hlife =>
    subst hpc
    refine ⟨hs.set husers (hset _) rfl (fun call h => by cases h) ?_, rfl⟩
    have hcopied : copied (some (.queues call taken)) = taken.data := rfl
    rw [hcopied]
    exact congrArg (· ++ _) (List.append_nil _)
  | counts hpc =>
    subst hpc
    exact ⟨hs.set husers (hset _) rfl (fun call h => by cases h) rfl, rfl⟩
  | appends taken hpc =>
    subst hpc
    refine ⟨hs.set husers (hset _) rfl (fun call h => by cases h) ?_, rfl⟩
    have hcopied : copied (some (.appends taken)) = taken.data := rfl
    rw [hcopied]
    exact congrArg (· ++ _) (List.append_nil _)
  | putsBack call taken hpc => cases hok

/-- Synchronizing `FinishedTemp` moves its items behind the finished ones. -/
theorem unread_synchronize (h : StmHandle) :
    unread ((h.synchronizeFinishedList none).finished ++
        (h.synchronizeFinishedList none).finishedTemp) =
      unread (h.finished ++ h.finishedTemp) := by
  simp only [StmHandle.synchronizeFinishedList, StmHandle.releaseSemaphore, Option.toList_none,
    List.append_nil]

/-- **A step that does not touch the overlapped objects keeps the bytes.** -/
theorem Reading.keeps (hs : s.Reading) {maxPendingIo : ℕ} {e : StreamEvent}
    (he : e.keepsOverlapped = true) (h : (streamRun maxPendingIo).step s e = some s')
    (hok : s'.failed = false) : s.Keeps s' ∧ s'.stm.pendingList = s.stm.pendingList := by
  cases Step.of_step h with
  | start hstopped hended => cases he
  | processQueued submit ovlList s' hlife hphase hovl hstep => cases he
  | processPending outcome ovlList s' hovl hstep => cases he
  | call k call hidle haccepted =>
    obtain ⟨rfl, husers⟩ := hs.users hidle
    have hset : (s.goOn 0 (some (.waits call))).users = [some (.waits call)] := by
      rw [goOn, husers]
      rfl
    refine ⟨hs.set husers hset rfl (fun call' hcall => ?_) rfl, rfl⟩
    cases hcall
    rw [StreamCall.isWrite_of_accepted haccepted, hs.isIn]
    rfl
  | callFails k call hidle => cases hok
  | user k pc s' hpc hrun => exact hs.user hpc (.of_run hrun) hok
  | flush hlife hphase hgoesOn hunlocked =>
    exact ⟨hs.of_same rfl rfl rfl (unread_synchronize s.handle), rfl⟩
  | synchronize hlife hunlocked =>
    exact ⟨hs.of_same rfl rfl rfl (unread_synchronize s.handle), rfl⟩
  -- the other steps change the thread and its state only
  | _ => exact ⟨hs.of_same rfl rfl rfl rfl, rfl⟩

/-- A new thread. -/
theorem Reading.start (hs : s.Reading) {maxPendingIo : ℕ}
    (h : (streamRun maxPendingIo).step s .start = some s') : s.Keeps s' := by
  cases Step.of_step h with
  | start hstopped hended => exact hs.of_same rfl rfl rfl rfl

/-- A submission, or none. -/
theorem Reading.queuedStep (hs : s.Reading) {submit : UInt32} {ovlList : DList ℕ}
    (hstep : QueuedStep s submit ovlList s') : s.Keeps s' := by
  cases hstep with
  | idle hnone => exact hs.of_same rfl rfl rfl rfl
  | fails item queued ovlNext hqueued hhead hsubmit => exact hs.of_same rfl rfl rfl rfl
  | submits item queued ovlNext hqueued hhead hsubmit => exact hs.of_same rfl rfl rfl rfl

/-- A transfer that ends leaves its item behind the finished ones. -/
theorem Ends.unread {o : PendingOutcome} {item : XferItem} {handle : StmHandle}
    (h : s.Ends o item handle) (hdefault : o.beforeComplete = none) :
    handle.isIn = s.handle.isIn ∧
      unread (handle.finished ++ handle.finishedTemp) =
        unread (s.handle.finished ++ s.handle.finishedTemp) ++ item.unread := by
  cases h with
  | requeued hcallback => exact absurd hdefault hcallback
  | finished hfree =>
    refine ⟨rfl, ?_⟩
    simp only [StmHandle.synchronizeFinishedList, StmHandle.releaseSemaphore, Option.toList_some,
      unread_append, unread_cons, unread_nil, List.append_nil, List.append_assoc]
  | temp hlocked =>
    refine ⟨rfl, ?_⟩
    simp only [unread_append, unread_cons, unread_nil, List.append_nil, List.append_assoc]

/-! ### Items that change -/

theorem mapItems_waiting (f : XferItem → XferItem) (pc : UserPc) :
    (UserPc.mapItems f pc).waiting = pc.waiting := by
  cases pc <;> rfl

theorem copied_mapItems (f : XferItem → XferItem) (user : Option UserPc) :
    copied (user.map (UserPc.mapItems f)) = copied user := by
  cases user with
  | none => rfl
  | some pc => cases pc <;> rfl

/-- Items that are pending may change. -/
theorem Reading.mapItems (hs : s.Reading) {f : XferItem → XferItem}
    (hf : ∀ item ∈ s.handle.finished ++ s.handle.finishedTemp, f item = item) :
    s.Keeps (s.mapItems f) := by
  obtain ⟨user, husers⟩ := List.length_eq_one_iff.mp hs.one
  have hmap : (s.mapItems f).users = [user.map (UserPc.mapItems f)] := by
    rw [StreamRun.mapItems, husers]
    rfl
  have hsame : (s.handle.finished ++ s.handle.finishedTemp).map f =
      s.handle.finished ++ s.handle.finishedTemp :=
    (List.map_congr_left hf).trans (List.map_id _)
  refine hs.set husers hmap rfl (fun call hcall => ?_) ?_
  · refine hs.waiting user (by rw [husers]; exact List.mem_singleton_self _) call ?_
    cases user with
    | none => cases hcall
    | some pc => exact (mapItems_waiting f pc).symm.trans hcall
  · have hlists : (s.mapItems f).handle.finished ++ (s.mapItems f).handle.finishedTemp =
        s.handle.finished ++ s.handle.finishedTemp := by
      rw [← hsame, List.map_append]
      rfl
    rw [hlists, copied_mapItems]
    rfl

/-- An item that is pending is in no other list. -/
theorem index_ne_of_pending (hs : ∀ i, s.held i ≤ 1) {p : XferItem × ℕ}
    (hp : p ∈ s.stm.pendingList) {item : XferItem}
    (hitem : item ∈ s.handle.finished ++ s.handle.finishedTemp) : item.index ≠ p.1.index := by
  intro heq
  have hone := hs p.1.index
  have hpending : 0 < indexCount p.1.index (s.stm.pendingList.map Prod.fst) :=
    List.countP_pos_iff.mpr ⟨p.1, List.mem_map_of_mem hp, beq_self_eq_true _⟩
  have hfinished : 0 < indexCount p.1.index (s.handle.finished ++ s.handle.finishedTemp) :=
    List.countP_pos_iff.mpr ⟨item, hitem, beq_iff_eq.mpr heq⟩
  rw [indexCount_append] at hfinished
  rw [held] at hone
  omega

/-- No item is pending twice. -/
theorem eq_of_index_eq (hs : ∀ i, s.held i ≤ 1) {k k' : ℕ} {p p' : XferItem × ℕ}
    (hp : s.stm.pendingList[k]? = some p) (hp' : s.stm.pendingList[k']? = some p')
    (heq : p.1.index = p'.1.index) : k = k' := by
  have hnodup : ((s.stm.pendingList.map Prod.fst).map XferItem.index).Nodup := by
    refine List.nodup_iff_count_le_one.mpr fun i => ?_
    have hone := hs i
    rw [held] at hone
    rw [← indexCount_eq_count]
    omega
  have hk : k < ((s.stm.pendingList.map Prod.fst).map XferItem.index).length := by
    rw [List.length_map, List.length_map]
    exact (List.getElem?_eq_some_iff.mp hp).1
  refine (List.getElem?_inj hk hnodup).mp ?_
  rw [List.map_map, List.getElem?_map, List.getElem?_map, hp, hp']
  exact congrArg some heq

end StreamRun

/-! ### What the items hold -/

/-- The item is that of the operation, and holds what it has received. -/
structure IoOperation.Carried (op : IoOperation) (item : XferItem) : Prop where
  index : item.index = op.index
  buffer : item.context.buffer = 0
  data : ∀ result, op.result = some result → window 0 result.data.length item.data = result.data

namespace StreamIo

variable {s s' : StreamIo} {maxPendingIo : ℕ}

/-- The bytes that were delivered are those that the transfers that were taken have received. -/
structure Delivers (s : StreamIo) : Prop where
  reading : s.run.Reading
  held : ∀ i, s.run.held i ≤ 1
  status : ∀ op ∈ s.pending, s.status op.overlapped = op.result
  carried : ∀ (k : ℕ) (op : IoOperation) (p : XferItem × ℕ), s.pending[k]? = some op →
    s.run.stm.pendingList[k]? = some p → op.Carried p.1
  order : s.run.delivered = s.collected.flatMap IoOperation.received

/-- The operations are in order, and as long as no call has failed, so are the bytes. -/
structure InInv (s : StreamIo) : Prop where
  inv : Inv s
  delivers : s.run.failed = false → s.Delivers

theorem InInv.readsInOrder (hs : InInv s) : ReadsInOrder s := by
  intro hfailed
  have horder := (hs.delivers hfailed).order
  rw [StreamRun.delivered, List.append_assoc] at horder
  rw [List.flatMap_append, ← horder, List.append_assoc]
  exact List.prefix_append ..

/-- A step that leaves the operations as they are. -/
theorem Delivers.of_keeps (hs : Delivers s) {run : StreamRun} (hkeeps : s.run.Keeps run)
    (hheld : ∀ i, run.held i ≤ s.run.held i)
    (hpending : run.stm.pendingList = s.run.stm.pendingList) :
    Delivers { s with run := run } where
  reading := hkeeps.reading
  held i := Nat.le_trans (hheld i) (hs.held i)
  status := hs.status
  carried k op p hop hp := by
    dsimp only at hp
    rw [hpending] at hp
    exact hs.carried k op p hop hp
  order := hkeeps.delivered.trans hs.order

/-- The pending transfers have an operation each. -/
theorem length_pending (hinv : Inv s) :
    s.pending.length = s.run.stm.pendingList.length := by
  have hsame := congrArg List.length hinv.pending
  rwa [StmThread.overlappeds, List.length_map, List.length_map] at hsame

/-- The items after a submission, or none. -/
theorem Delivers.queued (hs : Delivers s) (hinv : Inv s) {submit : UInt32}
    {ovlList : DList ℕ} {run : StreamRun} (hovl : s.run.stm.ovlList = some ovlList)
    (hrunning : s.run.life = .running) (hstep : s.run.QueuedStep submit ovlList run) :
    Delivers { s.submits submit with run := run } := by
  have hkeeps := hs.reading.queuedStep hstep
  have hheld : ∀ i, run.held i ≤ s.run.held i := fun i =>
    Nat.le_of_eq (StreamRun.held_queued hstep i)
  cases hstep with
  | idle hnone =>
    rw [submits_of_idle hovl hnone]
    exact hs.of_keeps hkeeps hheld rfl
  | fails item queued ovlNext hqueued hhead hsubmit =>
    rw [submits_of_fails hovl hqueued hhead hsubmit]
    have hsame := hs.of_keeps hkeeps hheld rfl
    exact ⟨hsame.reading, hsame.held, hsame.status, hsame.carried, hsame.order⟩
  | submits item queued ovlNext hqueued hhead hsubmit =>
    have hlength := length_pending hinv
    have hfree := hinv.not_mem_of_head hovl hrunning hhead
    rw [submits_of_submits hovl hqueued hhead hsubmit]
    refine ⟨hkeeps.reading, fun i => Nat.le_trans (hheld i) (hs.held i), fun op hop => ?_,
      fun k op p hop hp => ?_, hkeeps.delivered.trans hs.order⟩
    · rcases List.mem_append.mp hop with hop | hop
      · have hne : op.overlapped ≠ ovlNext := fun heq => hfree (heq ▸ List.mem_map_of_mem hop)
        dsimp only
        rw [update_of_ne hne]
        exact hs.status op hop
      · rw [List.mem_singleton.mp hop]
        exact update_self ..
    · dsimp only at hop hp
      rcases Nat.lt_or_ge k s.pending.length with hlt | hge
      · rw [List.getElem?_append_left hlt] at hop
        rw [List.getElem?_append_left (hlength ▸ hlt)] at hp
        exact hs.carried k op p hop hp
      · -- the new operation has received nothing
        rw [List.getElem?_append_right hge, List.getElem?_singleton] at hop
        rw [List.getElem?_append_right (hlength ▸ hge), ← hlength,
          List.getElem?_singleton] at hp
        split at hop
        · next hzero =>
          rw [if_pos hzero] at hp
          cases hop
          cases hp
          exact ⟨rfl, rfl, fun result hresult => by cases hresult⟩
        · cases hop

/-- What `GetOverlappedResult` finds in the overlapped of a transfer that is done. -/
theorem getOverlappedResult_of_done {outcome : PendingOutcome} {item : XferItem} {ovlNext : ℕ}
    {pendingList : List (XferItem × ℕ)} {result : IoResult}
    (hlist : s.run.stm.pendingList = (item, ovlNext) :: pendingList)
    (hstatus : s.status ovlNext = some result) :
    s.getOverlappedResult outcome =
      { outcome with
        overlappedError := result.error
        transferLength := result.data.length
        data := item.data } := by
  unfold getOverlappedResult
  rw [hlist]
  dsimp only
  rw [hstatus]

/-- The oldest transfer is taken, with the bytes it has received, or none is. -/
theorem Delivers.pendingStep (hs : Delivers s) (hinv : Inv s)
    {outcome : PendingOutcome} {ovlList : DList ℕ} {run : StreamRun}
    (hwaits : s.waits outcome = true)
    (hintime : s.run.stm.noWaiting = true → ∀ op ∈ s.pending.head?, op.result.isSome)
    (hdefault : outcome.beforeComplete = none)
    (h : s.run.pendingStep (s.getOverlappedResult outcome) ovlList = some run) :
    Delivers { s.collects outcome with run := run } := by
  have hheld : ∀ i, run.held i ≤ s.run.held i := fun i =>
    Nat.le_of_eq (StreamRun.held_pending h i)
  obtain ⟨-, -, -, husers, htransferred, -, -, hends⟩ := StreamRun.pendingStep_spec h
  rw [completes_getOverlappedResult] at hends
  rcases hends with
    ⟨hnone, hhandle, hpending⟩ | ⟨item, ovlNext, handle, hlist, hdone, hends, hhandle⟩
  · have hsame : s.collects outcome = s := collects_of_waits fun hdone => by
      rcases hnone with hnil | hwait
      · exact hnil
      · cases hwait.symm.trans hdone
    rw [hsame]
    refine hs.of_keeps (hs.reading.of_same ?_ husers htransferred ?_) hheld hpending
    · rw [hhandle]
    · rw [hhandle]
  · have hops := hinv.pending
    rw [StmThread.overlappeds, hlist, List.map_cons] at hops
    obtain ⟨op, pending, hpending, hop, -⟩ := List.map_eq_cons_iff.mp hops
    obtain ⟨result, hresult⟩ :=
      Option.isSome_iff_exists.mp (hinv.taken hwaits hdone hintime hpending)
    have hcarried := hs.carried 0 op (item, ovlNext) (by rw [hpending]; rfl) (by rw [hlist]; rfl)
    have hstatus : s.status ovlNext = some result := by
      rw [← hresult, ← hs.status op (by rw [hpending]; exact List.mem_cons_self), hop]
    rw [getOverlappedResult_of_done hlist hstatus] at hends
    obtain ⟨hisIn, hunread⟩ := hends.unread hdefault
    -- the item holds what its transfer has received
    have hreceived : op.received = window 0 result.data.length item.data := by
      rw [hcarried.data result hresult, IoOperation.received, hresult]
      rfl
    have hitem : (PendingOutcome.ended
        { outcome with
          overlappedError := result.error
          transferLength := result.data.length
          data := item.data } s.run.handle.isIn item).unread = op.received := by
      rw [hreceived, hs.reading.isIn, ← hcarried.buffer]
      rfl
    rw [hitem] at hunread
    rw [collects_of_done hlist hpending hdone]
    refine ⟨⟨?_, by rw [husers]; exact hs.reading.one, by rw [husers]; exact hs.reading.waiting⟩,
      fun i => Nat.le_trans (hheld i) (hs.held i), fun op' hop' => ?_,
      fun k op' p hop' hp => ?_, ?_⟩
    · rw [hhandle]
      exact hisIn.trans hs.reading.isIn
    · exact hs.status op' (by rw [hpending]; exact List.mem_cons_of_mem _ hop')
    · refine hs.carried (k + 1) op' p ?_ ?_
      · rw [hpending]
        exact hop'
      · rw [hlist]
        exact hp
    · have horder := hs.order
      rw [StreamRun.delivered] at horder
      rw [List.flatMap_append, List.flatMap_singleton, ← horder, StreamRun.delivered, husers,
        htransferred, hhandle, List.append_assoc _ _ op.received]
      exact congrArg (s.run.transferred ++ s.run.users.flatMap StreamRun.copied ++ ·) hunread

theorem failed_receives (op : IoOperation) (result : IoResult) :
    (s.receives op result).run.failed = s.run.failed := by
  unfold receives
  dsimp only
  split <;> rfl

/-- The operation of a pending transfer is completed: its item holds what it has received. -/
theorem Delivers.completes (hs : Delivers s) (hinv : Inv s) {k : ℕ}
    {op : IoOperation} (hop : s.pending[k]? = some op) (result : IoResult) :
    Delivers
      { s.receives op result with
        pending := s.pending.set k { op with result := some result } } := by
  have hlength := length_pending hinv
  obtain ⟨hk, -⟩ := List.getElem?_eq_some_iff.mp hop
  have hget : s.run.stm.pendingList[k]? = some s.run.stm.pendingList[k] :=
    List.getElem?_eq_getElem (hlength ▸ hk)
  have hindex := (hs.carried k op _ hop hget).index
  have hindexed : ∀ item, (op.receive result item).index = item.index := by
    intro item
    unfold IoOperation.receive
    split <;> rfl
  have hother : ∀ item : XferItem, item.index ≠ op.index → op.receive result item = item :=
    fun item hne => if_neg hne
  have hkeeps : s.run.Keeps (s.run.mapItems (op.receive result)) := by
    refine hs.reading.mapItems fun item hitem => hother item ?_
    rw [← hindex]
    exact StreamRun.index_ne_of_pending hs.held (List.mem_of_getElem? hget) hitem
  have hrun : (s.receives op result).run = s.run.mapItems (op.receive result) :=
    if_pos hs.reading.isIn
  refine ⟨?_, fun i => ?_, fun op' hop' => ?_, fun k' op' p hop' hp => ?_, ?_⟩
  · dsimp only
    rw [hrun]
    exact hkeeps.reading
  · dsimp only
    rw [hrun, StreamRun.held_mapItems s.run hindexed]
    exact hs.held i
  · rcases hinv.mem_completed hop result hop' with rfl | ⟨hold, hne⟩
    · exact update_self ..
    · dsimp only [receives]
      rw [update_of_ne hne]
      exact hs.status op' hold
  · dsimp only at hop' hp
    rw [hrun] at hp
    rw [StreamRun.mapItems, List.getElem?_map] at hp
    obtain ⟨q, hq, rfl⟩ := Option.map_eq_some_iff.mp hp
    by_cases heq : k = k'
    · subst heq
      cases hget.symm.trans hq
      rw [List.getElem?_set_self hk] at hop'
      cases hop'
      have hreceive : op.receive result s.run.stm.pendingList[k].1 =
          { s.run.stm.pendingList[k].1 with
            data := writeAt 0 result.data s.run.stm.pendingList[k].1.data } := if_pos hindex
      dsimp only
      rw [hreceive]
      refine ⟨hindex, (hs.carried k op _ hop hget).buffer, fun result' hresult => ?_⟩
      cases hresult
      exact window_zero_writeAt ..
    · rw [List.getElem?_set_ne heq] at hop'
      have hne : q.1.index ≠ op.index := by
        rw [← hindex]
        exact fun hsame => heq (StreamRun.eq_of_index_eq hs.held hget hq hsame.symm)
      dsimp only
      rw [hother q.1 hne]
      exact hs.carried k' op' q hop' hq
  · dsimp only
    rw [hrun]
    exact hkeeps.delivered.trans hs.order

/-- **A step in time keeps the bytes in order.** -/
theorem InInv.step (hs : InInv s) {e : StreamIoEvent}
    (hdefault : e.usesDefaults = true)
    (hok : collectsInTime s e) (h : (streamIo maxPendingIo).step s e = some s') :
    InInv s' := by
  refine ⟨hs.inv.step hok h, fun hfailed => ?_⟩
  cases Step.of_step h with
  | keeps e run hkeeps hrun =>
    have hheld : ∀ i, run.held i ≤ s.run.held i := StreamRun.held_step_le hrun
    have hdelivers := hs.delivers (StreamRun.failed_step hrun hfailed)
    obtain ⟨hrun, hpending⟩ := hdelivers.reading.keeps hkeeps hrun hfailed
    exact hdelivers.of_keeps hrun hheld hpending
  | start run hrun =>
    have hheld : ∀ i, run.held i ≤ s.run.held i := StreamRun.held_step_le hrun
    have hdelivers := hs.delivers (StreamRun.failed_step hrun hfailed)
    have hnil := hs.inv.pending_of_start hrun
    have hrun := hdelivers.reading.start hrun
    refine ⟨hrun.reading, fun i => Nat.le_trans (hheld i) (hdelivers.held i), fun op hop => ?_,
      fun k op p hop hp => ?_, hrun.delivered.trans hdelivers.order⟩
    · dsimp only [allocates] at hop
      rw [hnil] at hop
      cases hop
    · dsimp only [allocates] at hop
      rw [hnil] at hop
      cases hop
  | processQueued submit run hrun =>
    have hdelivers := hs.delivers (StreamRun.failed_step hrun hfailed)
    cases StreamRun.Step.of_step hrun with
    | processQueued _ ovlList run hlife hphase hovl hstep =>
      exact hdelivers.queued hs.inv hovl hlife hstep
  | processPending outcome run hwaits hrun =>
    have hdelivers := hs.delivers (StreamRun.failed_step hrun hfailed)
    have hnone : outcome.beforeComplete = none := by
      simp only [StreamIoEvent.usesDefaults, StreamEvent.usesDefaults, Bool.and_eq_true,
        Option.isNone_iff_eq_none] at hdefault
      exact hdefault.1.2
    cases StreamRun.Step.of_step hrun with
    | processPending _ ovlList run hovl hstep =>
      exact hdelivers.pendingStep hs.inv hwaits hok.2 hnone hstep
  | completes k result op hop =>
    exact (hs.delivers ((failed_receives op result).symm.trans hfailed)).completes hs.inv hop
      result
  | completesLate k result op hop hnone => exact absurd hnone (hs.inv.not_completesLate hop)

theorem inInv_start (noPartialXfers useTimeout : Bool) (maxTransferSize n : ℕ) :
    InInv
      { run := .start (stmKInit true noPartialXfers useTimeout maxTransferSize n) 1 } where
  inv := inv_start rfl 1
  delivers _ := by
    refine ⟨⟨rfl, rfl, fun user hmem call hcall => ?_⟩, fun i => ?_, fun op hop => ?_,
      fun k op p hop hp => ?_, rfl⟩
    · rw [List.mem_singleton.mp hmem] at hcall
      cases hcall
    · have hheld := (StreamRun.itemsInv_start true noPartialXfers useTimeout maxTransferSize n
        1).held i
      dsimp only
      rw [hheld]
      split <;> omega
    · cases hop
    · cases hop

end StreamIo

/-- **An IN stream with default callbacks and one reader delivers the bytes in order** in every
run in which a transfer that is taken off the pending list has its operation completed. -/
theorem readsInOrder_of_throughout (noPartialXfers useTimeout : Bool)
    (maxTransferSize maxPendingTransfers maxPendingIo : ℕ) {es : List StreamIoEvent}
    (h : ((streamIo maxPendingIo).restrict StreamIoEvent.usesDefaults).Throughout collectsInTime
      { run := .start (stmKInit true noPartialXfers useTimeout maxTransferSize maxPendingTransfers)
          1 } es) :
    ((streamIo maxPendingIo).restrict StreamIoEvent.usesDefaults).Always ReadsInOrder
      { run := .start (stmKInit true noPartialXfers useTimeout maxTransferSize maxPendingTransfers)
          1 } es := by
  refine h.always (I := StreamIo.InInv) (fun _ hs => hs.readsInOrder)
    (fun s e s' hs hok hstep => ?_)
    (StreamIo.inInv_start noPartialXfers useTimeout maxTransferSize maxPendingTransfers)
  obtain ⟨hdefault, hstep⟩ := Machine.step_restrict_eq_some.mp hstep
  exact hs.step hdefault hok hstep

/-! ### A read, in time and not -/

/-- An IN stream with one transfer item, and a reader. -/
def oneReader : StreamIo :=
  { run := .start (stmKInit true false false 4 1) 1 }

/-- A read of four bytes, up to the test of `Thread.State`. -/
def readFour : List StreamIoEvent :=
  [.stream (.call 0 (.read { length := 4 })), .stream (.user 0), .stream (.user 0),
    .stream (.user 0), .stream (.user 0), .stream (.user 0)]

/-- A transfer receives two bytes, and a read of four returns them. -/
theorem readsInOrder_of_throughout_two :
    ((streamIo 1).restrict StreamIoEvent.usesDefaults).Always ReadsInOrder oneReader
      ([.stream .start, .stream .started, .stream .loop,
        .stream (.processQueued ERROR_IO_PENDING), .stream (.processQueued ERROR_IO_PENDING),
        .completes 0 { data := [5, 6] }, .stream (.processPending {})] ++ readFour ++
        [.stream (.user 0), .stream (.user 0)]) := by
  apply readsInOrder_of_throughout false false 4 1 1
  have hdone : ∀ {s : StreamIo}, s.run.stm.noWaiting = false →
      s.run.stm.noWaiting = true → ∀ op ∈ s.pending.head?, op.result.isSome :=
    fun hwaits hmode => absurd (hwaits.symm.trans hmode) (by decide)
  exact .cons rfl trivial (.cons rfl trivial (.cons rfl trivial (.cons rfl trivial
    (.cons rfl trivial (.cons rfl trivial (.cons rfl ⟨releasesItself_of_self rfl rfl rfl, hdone rfl⟩
    (.cons rfl trivial (.cons rfl trivial (.cons rfl trivial (.cons rfl trivial (.cons rfl trivial
    (.cons rfl trivial (.cons rfl trivial (.cons rfl trivial trivial))))))))))))))

/-- The stream is stopped before the transfer has received anything, and the wait of the last
loop times out: the transfer is taken as it is, and a read returns what its buffer held before. -/
theorem not_readsInOrder_stop :
    ¬((streamIo 1).restrict StreamIoEvent.usesDefaults).Always ReadsInOrder oneReader
      (stopTimesOut ++ [.stream (.processPending {}), .stream .test, .stream .exit] ++ readFour ++
        [.stream (.user 0)]) := by
  intro h
  have hlast := h.exec rfl rfl
  exact absurd hlast (by decide)

end LibusbK
