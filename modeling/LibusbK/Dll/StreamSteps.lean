import LibusbK.Dll.StreamCalls
import LibusbK.Lib.Stacks

/-!
# The steps of a stream

What the functions of the stream thread, and the steps of a call, can do: one lemma for each,
from which the invariants of a stream follow.

## Main results

* `processPending_spec`, `finishTransfer_spec`, `StreamRun.pendingStep_spec` — a transfer that
  ends.
* `StreamRun.QueuedStep.of_queuedStep` — a submission.
* `StreamRun.UserStep.of_run` — a call.
* `StreamRun.Step.of_step` — the stream.
-/

namespace LibusbK

/-! ### The stream thread -/

/-- The item of a transfer that has ended, as `GetOverlappedResult` leaves it. -/
def PendingOutcome.ended (o : PendingOutcome) (isIn : Bool) (item : XferItem) : XferItem :=
  { item with
    data := if isIn then o.data else item.data
    context := { item.context with transferLength := o.transferLength } }

/-- `Stm_Thread_ProcessPending` finds nothing that has ended, or takes the oldest transfer. -/
theorem processPending_spec (o : PendingOutcome) (stm : StmThread) (ovlList : DList ℕ) :
    (∃ errorCode, (stm.pendingList = [] ∨ o.completes stm = false) ∧
      processPending o stm ovlList = { stm with errorCode := errorCode, success := false }) ∨
    ∃ item ovlNext pendingList, stm.pendingList = (item, ovlNext) :: pendingList ∧
      o.completes stm = true ∧
      processPending o stm ovlList =
        finishTransfer o (o.ended stm.handle.isIn item) (overlappedResult o)
          { stm with ovlList := ovlList.readd ovlNext, pendingList := pendingList } := by
  unfold processPending
  split
  · next hnil => exact .inl ⟨ERROR_NO_MORE_ITEMS, .inl hnil, rfl⟩
  · next item ovlNext pendingList hpending =>
    split
    · next hwait => exact .inl ⟨_, .inr (by simpa using hwait), rfl⟩
    · next hdone =>
      exact .inr ⟨item, ovlNext, pendingList, hpending, by simpa using hdone, rfl⟩

/-- A transfer that has ended goes back to the queue, or to one of the finished lists. -/
theorem finishTransfer_spec (o : PendingOutcome) (item : XferItem) (result : UInt32 × Bool)
    (stm : StmThread) :
    ∃ handle errorCode success,
      finishTransfer o item result stm =
        { stm with
          handle := { handle with pendingIO := stm.handle.pendingIO - 1 }
          errorCode := errorCode
          success := success } ∧
      ((o.beforeComplete ≠ none ∧
          handle = { stm.handle with queued := stm.handle.queued ++ [item] }) ∨
        (o.tryLock = true ∧ handle = stm.handle.synchronizeFinishedList (some item)) ∨
        (o.tryLock = false ∧
          handle = { stm.handle with finishedTemp := stm.handle.finishedTemp ++ [item] })) := by
  unfold finishTransfer
  dsimp only
  split
  · next hrefuses =>
    refine ⟨_, _, _, rfl, .inl ⟨fun hnone => ?_, rfl⟩⟩
    rw [hnone] at hrefuses
    cases hrefuses
  · cases hlock : o.tryLock with
    | true =>
      exact ⟨stm.handle.synchronizeFinishedList (some item), _, _, rfl, .inr (.inl ⟨rfl, rfl⟩)⟩
    | false => exact ⟨_, _, _, rfl, .inr (.inr ⟨rfl, rfl⟩)⟩

namespace StreamRun

variable {s s' : StreamRun}

/-- What becomes of a transfer that has ended: `handle` is the handle, apart from
`PendingIO`, that `Stm_Thread_ProcessPending` leaves behind. -/
inductive Ends (s : StreamRun) (o : PendingOutcome) (item : XferItem) : StmHandle → Prop
  | requeued (hcallback : o.beforeComplete ≠ none) :
    Ends s o item { s.handle with queued := s.handle.queued ++ [item] }
  | finished (hfree : s.locked = false) :
    Ends s o item (s.handle.synchronizeFinishedList (some item))
  | temp (hlocked : s.locked = true) :
    Ends s o item { s.handle with finishedTemp := s.handle.finishedTemp ++ [item] }

/-- `Stm_Thread_ProcessPending` in a run: nothing but fields of the thread change, or the
oldest transfer ends. -/
theorem pendingStep_spec {o : PendingOutcome} {ovlList : DList ℕ}
    (h : s.pendingStep o ovlList = some s') :
    (s.life = .running ∧ s'.life = .running ∨ s.life = .draining ∧ s'.life = .testing) ∧
    s'.locked = s.locked ∧ s'.apcs = s.apcs ∧ s'.users = s.users ∧
    s'.transferred = s.transferred ∧ s'.submitted = s.submitted ∧ s'.failed = s.failed ∧
    (((s.stm.pendingList = [] ∨ o.completes s.stm = false) ∧ s'.handle = s.handle ∧
        s'.stm.pendingList = s.stm.pendingList) ∨
      ∃ item ovlNext handle, s.stm.pendingList = (item, ovlNext) :: s'.stm.pendingList ∧
        o.completes s.stm = true ∧ s.Ends o (o.ended s.handle.isIn item) handle ∧
        s'.handle = { handle with pendingIO := s.handle.pendingIO - 1 }) := by
  have hlast : ∀ stm : StmThread, (afterLastProcessPending stm).handle = stm.handle ∧
      (afterLastProcessPending stm).pendingList = stm.pendingList := by
    intro stm
    unfold afterLastProcessPending
    split <;> exact ⟨rfl, rfl⟩
  -- both loops keep the handle and the pending transfers of `Stm_Thread_ProcessPending`
  obtain ⟨stm, hstm, hs'⟩ : ∃ stm : StmThread,
      (stm.handle = (processPending { o with tryLock := !s.locked } s.stm ovlList).handle ∧
        stm.pendingList =
          (processPending { o with tryLock := !s.locked } s.stm ovlList).pendingList) ∧
      (s.life = .running ∧ s' = { s with stm := stm } ∨
        s.life = .draining ∧ s' = { s with stm := stm, life := .testing }) := by
    unfold pendingStep at h
    dsimp only at h
    split at h
    · next hrunning =>
      cases h
      exact ⟨afterProcessPending _, ⟨rfl, rfl⟩, .inl ⟨hrunning.1, rfl⟩⟩
    · split at h
      · next hdraining =>
        cases h
        exact ⟨_, hlast _, .inr ⟨hdraining.1, rfl⟩⟩
      · cases h
  have hframe : (s.life = .running ∧ s'.life = .running ∨
        s.life = .draining ∧ s'.life = .testing) ∧ s'.locked = s.locked ∧ s'.apcs = s.apcs ∧
      s'.users = s.users ∧ s'.transferred = s.transferred ∧ s'.submitted = s.submitted ∧
      s'.failed = s.failed ∧ s'.stm = stm := by
    rcases hs' with ⟨hlife, rfl⟩ | ⟨hlife, rfl⟩
    · exact ⟨.inl ⟨hlife, hlife⟩, rfl, rfl, rfl, rfl, rfl, rfl, rfl⟩
    · exact ⟨.inr ⟨hlife, rfl⟩, rfl, rfl, rfl, rfl, rfl, rfl, rfl⟩
  obtain ⟨hlife, hlocked, hapcs, husers, htransferred, hsubmitted, hfailed, hthread⟩ := hframe
  refine ⟨hlife, hlocked, hapcs, husers, htransferred, hsubmitted, hfailed, ?_⟩
  rw [handle, hthread, hstm.1, hstm.2]
  rcases processPending_spec { o with tryLock := !s.locked } s.stm ovlList with
    ⟨errorCode, hnone, heq⟩ | ⟨item, ovlNext, pendingList, hpending, hdone, heq⟩
  · rw [heq]
    exact .inl ⟨hnone, rfl, rfl⟩
  · rw [heq]
    obtain ⟨handle, errorCode, success, heq', hends⟩ := finishTransfer_spec
      { o with tryLock := !s.locked }
      (PendingOutcome.ended { o with tryLock := !s.locked } s.stm.handle.isIn item)
      (overlappedResult { o with tryLock := !s.locked })
      { s.stm with ovlList := ovlList.readd ovlNext, pendingList := pendingList }
    rw [heq']
    refine .inr ⟨item, ovlNext, handle, hpending, hdone, ?_, rfl⟩
    rcases hends with ⟨hcallback, rfl⟩ | ⟨hfree, rfl⟩ | ⟨hlocked', rfl⟩
    · exact .requeued hcallback
    · exact .finished (by simpa using hfree)
    · exact .temp (by simpa using hlocked')

/-! ### Calls -/

/-- The items the call of a user has taken. -/
def userItems (user : Option UserPc) : List XferItem := (user.elim [] UserPc.items)

/-- What a step of the call of user `k`, which is at `pc`, does. -/
inductive UserStep (s : StreamRun) (k : ℕ) (pc : UserPc) : StreamRun → Prop
  /-- The items stay where they are. -/
  | quiet (pc' : Option UserPc) (semReady : Option ℕ) (locked failed : Bool) (hpc : pc ≠ .counts)
      (hpc' : pc' ≠ some .counts) (hitems : userItems pc' = pc.items)
      (hfailed : s.failed = true → failed = true)
      (htaken : failed = false → pc'.bind UserPc.taken = pc.taken)
      (hwaiting : ∀ call, pc'.bind UserPc.waiting = some call → pc.waiting = some call)
      (hsem : semReady.map (· + (pc'.elim false UserPc.awaits).toNat) =
        s.handle.semReady.map (· + pc.awaits.toNat)) :
    UserStep s k pc
      { (s.withHandle { s.handle with semReady := semReady }).goOn k pc' with
        locked := locked
        failed := failed }
  | takes (call : StreamCall) (hpc : pc = .takes call) (hne : s.handle.finished ≠ []) :
    UserStep s k pc
      ((s.withHandle
        { s.handle with
          finished := (call.take s.handle).finished
          semReady := (call.take s.handle).semReady }).goOn k
        (some (.releases call (call.take s.handle))))
  | queues (call : StreamCall) (taken : Taken) (hpc : pc = .queues call taken)
      (hqueue : call.queueUserAPC = true) (hlife : s.life ≠ .ended) :
    UserStep s k pc
      { s.goOn k (some .counts) with
        apcs := s.apcs ++ [taken.xferSubmitList]
        transferred := s.transferred ++ taken.data }
  | counts (hpc : pc = .counts) :
    UserStep s k pc
      ((s.withHandle
        { s.handle with aPCTransferQueueCount := s.handle.aPCTransferQueueCount + 1 }).goOn k none)
  | appends (taken : Taken) (hpc : pc = .appends taken) :
    UserStep s k pc
      { (s.withHandle { s.handle with queued := s.handle.queued ++ taken.xferSubmitList }).goOn k
          none with
        transferred := s.transferred ++ taken.data }
  | putsBack (call : StreamCall) (taken : Taken) (hpc : pc = .putsBack call taken) :
    UserStep s k pc
      { ((s.restore taken.backupXferItem).putBack taken.xferSubmitList).goOn k
          (some (.releasesBack call)) with
        failed := true }

/-- A user calls: the call waits for items, or it fails. -/
theorem calls_spec {k : ℕ} {call : StreamCall} (h : s.calls k call = some s') :
    (call.accepted s.handle = true ∧ s' = s.goOn k (some (.waits call))) ∨
      s' = { s.goOn k none with failed := true } := by
  unfold calls at h
  split at h
  · split at h
    · next haccepted =>
      cases h
      exact .inl ⟨haccepted, rfl⟩
    · unfold fails at h
      split at h
      · cases h
        exact .inr rfl
      · cases h
  · cases h

/-- A call that fails, and holds no items. -/
theorem UserStep.of_fails {k : ℕ} {pc : UserPc} {call : StreamCall} (semReady : Option ℕ)
    (locked : Bool) (hpc : pc ≠ .counts) (hitems : pc.items = [])
    (hsem : semReady.map (· + 0) = s.handle.semReady.map (· + pc.awaits.toNat))
    (h : fails { s.withHandle { s.handle with semReady := semReady } with locked := locked } k
      call = some s') : UserStep s k pc s' := by
  unfold fails at h
  split at h
  · cases h
    exact .quiet none semReady locked true hpc nofun hitems.symm (fun _ => rfl) nofun nofun hsem
  · cases h

/-- A call that goes to its error label. -/
theorem UserStep.of_failsWith {k : ℕ} {pc : UserPc} {call : StreamCall} {taken : Taken}
    (hpc : pc ≠ .counts) (htaken : pc.taken = some taken) (hawaits : pc.awaits = false)
    (h : s.failsWith k call taken = some s') : UserStep s k pc s' := by
  have hitems : pc.items = taken.xferSubmitList := by
    unfold UserPc.items
    rw [htaken]
  unfold failsWith at h
  split at h
  · next hnil =>
    exact of_fails s.handle.semReady s.locked hpc (hitems.trans hnil) (by rw [hawaits]; rfl) h
  · cases h
    exact .quiet (some (.reacquires call taken)) s.handle.semReady s.locked true hpc nofun
      hitems.symm (fun _ => rfl) nofun nofun (by rw [hawaits]; rfl)

/-- **What a step of a call does.** -/
theorem UserStep.of_run {k : ℕ} {pc : UserPc} (h : pc.run s k = some s') : UserStep s k pc s' := by
  have hquiet : ∀ (pc' : UserPc) (semReady : Option ℕ) (locked : Bool), pc ≠ .counts →
      pc' ≠ .counts → pc'.taken = pc.taken →
      (∀ call, pc'.waiting = some call → pc.waiting = some call) →
      semReady.map (· + pc'.awaits.toNat) = s.handle.semReady.map (· + pc.awaits.toNat) →
      UserStep s k pc
        { (s.withHandle { s.handle with semReady := semReady }).goOn k (some pc') with
          locked := locked } := by
    intro pc' semReady locked hpc hpc' htaken hwaiting hsem
    refine .quiet (some pc') semReady locked s.failed hpc (fun heq => hpc' (Option.some.inj heq)) ?_
      id (fun _ => htaken) hwaiting hsem
    show pc'.items = pc.items
    unfold UserPc.items
    rw [htaken]
  cases pc with
  | waits call =>
    simp only [UserPc.run] at h
    split at h
    · next hnone =>
      split at h
      · exact .of_fails s.handle.semReady s.locked nofun rfl rfl h
      · cases h
        refine hquiet (.acquires call) s.handle.semReady s.locked nofun nofun rfl (fun _ => id) ?_
        rw [hnone]
        rfl
    · exact .of_fails s.handle.semReady s.locked nofun rfl rfl h
    · next n hsem =>
      cases h
      refine hquiet (.acquires call) (some n) s.locked nofun nofun rfl (fun _ => id) ?_
      rw [hsem]
      rfl
  | acquires call =>
    simp only [UserPc.run] at h
    split at h
    · cases h
    · cases h
      exact hquiet (.takes call) s.handle.semReady true nofun nofun rfl (fun _ => id) rfl
  | takes call =>
    simp only [UserPc.run] at h
    split at h
    · cases h
      exact hquiet (.releasesEmpty call) s.handle.semReady s.locked nofun nofun rfl nofun rfl
    · next hne =>
      cases h
      exact .takes call rfl hne
  | releasesEmpty call =>
    refine .of_fails (s.handle.semReady.map (· + 1)) false nofun rfl ?_ h
    rw [Option.map_map]
    rfl
  | releases call taken =>
    cases h
    exact hquiet (.tests call taken) s.handle.semReady false nofun nofun rfl nofun rfl
  | tests call taken =>
    simp only [UserPc.run] at h
    split at h
    · exact .of_failsWith nofun rfl rfl h
    · split at h
      · cases h
        exact hquiet (.queues call taken) s.handle.semReady s.locked nofun nofun rfl nofun rfl
      · cases h
        exact hquiet (.appends taken) s.handle.semReady s.locked nofun nofun rfl nofun rfl
  | queues call taken =>
    simp only [UserPc.run] at h
    split at h
    · next hqueue =>
      cases h
      exact .queues call taken rfl hqueue.1 hqueue.2
    · exact .of_failsWith nofun rfl rfl h
  | counts =>
    cases h
    exact .counts rfl
  | appends taken =>
    cases h
    exact .appends taken rfl
  | reacquires call taken =>
    simp only [UserPc.run] at h
    split at h
    · cases h
    · cases h
      exact hquiet (.putsBack call taken) s.handle.semReady true nofun nofun rfl nofun rfl
  | putsBack call taken =>
    cases h
    exact .putsBack call taken rfl
  | releasesBack call => exact .of_fails s.handle.semReady false nofun rfl rfl h

/-! ### The machine -/

/-- What `Stm_Thread_ProcessQueued` does in a run: nothing, or it fails to submit the oldest
queued item, or submits it. -/
inductive QueuedStep (s : StreamRun) (submit : UInt32) (ovlList : DList ℕ) : StreamRun → Prop
  | idle (hnone : ovlList.head = none ∨ s.handle.queued = []) :
    QueuedStep s submit ovlList { s with stm := { s.stm with phase := .pending } }
  | fails (item : XferItem) (queued : List XferItem) (ovlNext : ℕ)
      (hqueued : s.handle.queued = item :: queued) (hhead : ovlList.head = some ovlNext)
      (hsubmit : submit ≠ ERROR_IO_PENDING ∧ submit ≠ ERROR_SUCCESS) :
    QueuedStep s submit ovlList
      { s with
        stm :=
          { s.stm with
            handle := { s.handle with queued := item.reset s.handle.isIn :: queued }
            ovlList := (ovlList.delete ovlNext).map fun l => l.prepend ovlNext
            errorCode := submit
            exitCode := submit }
        life := .leaving }
  | submits (item : XferItem) (queued : List XferItem) (ovlNext : ℕ)
      (hqueued : s.handle.queued = item :: queued) (hhead : ovlList.head = some ovlNext)
      (hsubmit : ¬(submit ≠ ERROR_IO_PENDING ∧ submit ≠ ERROR_SUCCESS)) :
    QueuedStep s submit ovlList
      { s with
        stm :=
          { s.stm with
            handle := { s.handle with queued := queued, pendingIO := s.handle.pendingIO + 1 }
            ovlList := ovlList.delete ovlNext
            pendingList := s.stm.pendingList ++ [(item.reset s.handle.isIn, ovlNext)]
            errorCode := submit }
        submitted := s.submitted ++ item.payload }

theorem QueuedStep.of_queuedStep (s : StreamRun) (submit : UInt32) (ovlList : DList ℕ) :
    QueuedStep s submit ovlList (s.queuedStep submit ovlList) := by
  unfold queuedStep processQueued
  cases hhead : ovlList.head with
  | none => exact .idle (.inl hhead)
  | some ovlNext =>
    cases hqueued : s.stm.handle.queued with
    | nil => exact .idle (.inr hqueued)
    | cons item queued =>
      dsimp only
      by_cases hsubmit : submit ≠ ERROR_IO_PENDING ∧ submit ≠ ERROR_SUCCESS
      · rw [if_pos hsubmit]
        exact .fails item queued ovlNext hqueued hhead hsubmit
      · rw [if_neg hsubmit]
        have hstep := QueuedStep.submits item queued ovlNext hqueued hhead hsubmit
        simpa only [handle, hqueued, List.head?_cons, Option.elim_some] using hstep

/-- What a step of a stream does: one case for each branch of `streamRun`. -/
inductive Step (maxPendingIo : ℕ) (s : StreamRun) : StreamEvent → StreamRun → Prop
  | call (k : ℕ) (call : StreamCall) (hidle : s.users[k]? = some none)
      (haccepted : call.accepted s.handle = true) :
    Step maxPendingIo s (.call k call) (s.goOn k (some (.waits call)))
  | callFails (k : ℕ) (call : StreamCall) (hidle : s.users[k]? = some none) :
    Step maxPendingIo s (.call k call) { s.goOn k none with failed := true }
  | user (k : ℕ) (pc : UserPc) (s' : StreamRun) (hpc : s.users[k]? = some (some pc))
      (hrun : pc.run s k = some s') :
    Step maxPendingIo s (.user k) s'
  | start (hstopped : s.handle.threadState = .stopped) (hended : s.life = .ended) :
    Step maxPendingIo s .start
      { s with
        stm :=
          { handle := { s.handle with threadState := .starting }
            ovlList := allocOvl maxPendingIo }
        life := .starting }
  | startFails (hlife : s.life = .starting) :
    Step maxPendingIo s .startFails
      { s.withHandle { s.handle with threadState := .stopped } with
        life := .ended
        apcs := [] }
  | stop (hstarted : s.handle.threadState = .started) :
    Step maxPendingIo s .stop (s.withHandle { s.handle with threadState := .stopping })
  | deliver (xferSubmitList : List XferItem) (apcs : List (List XferItem))
      (hapcs : s.apcs = xferSubmitList :: apcs) (halertable : s.alertable = true) :
    Step maxPendingIo s .deliver
      { s.withHandle (s.handle.transferListAPC xferSubmitList) with apcs := apcs }
  | allocFails (hlife : s.life = .starting) :
    Step maxPendingIo s .allocFails { s with life := .leaving }
  | started (hlife : s.life = .starting) :
    Step maxPendingIo s .started
      { s.withHandle { s.handle with threadState := .started } with life := .running }
  | loop (hlife : s.life = .running) (hphase : s.stm.phase = .loop)
      (hgoesOn : s.handle.threadState = .started ∧ s.stm.exitCode = ERROR_SUCCESS) :
    Step maxPendingIo s .loop { s with stm := { s.stm with phase := .queued } }
  /-- The loop finds the `Finished` list unlocked. -/
  | flush (hlife : s.life = .running) (hphase : s.stm.phase = .loop)
      (hgoesOn : s.handle.threadState = .started ∧ s.stm.exitCode = ERROR_SUCCESS)
      (hunlocked : s.locked = false) :
    Step maxPendingIo s .loop
      { s with
        stm := { s.stm with handle := s.handle.synchronizeFinishedList none, phase := .queued } }
  | endLoop (hlife : s.life = .running) (hphase : s.stm.phase = .loop)
      (hends : ¬(s.handle.threadState = .started ∧ s.stm.exitCode = ERROR_SUCCESS)) :
    Step maxPendingIo s .loop { s with life := .leaving }
  | processQueued (submit : UInt32) (ovlList : DList ℕ) (s' : StreamRun)
      (hlife : s.life = .running) (hphase : s.stm.phase = .queued)
      (hovl : s.stm.ovlList = some ovlList) (hstep : QueuedStep s submit ovlList s') :
    Step maxPendingIo s (.processQueued submit) s'
  | processPending (outcome : PendingOutcome) (ovlList : DList ℕ) (s' : StreamRun)
      (hovl : s.stm.ovlList = some ovlList) (hstep : s.pendingStep outcome ovlList = some s') :
    Step maxPendingIo s (.processPending outcome) s'
  | leave (hlife : s.life = .leaving) :
    Step maxPendingIo s .leave
      { s.withHandle { s.handle with threadState := .stopping } with life := .synchronizing }
  | synchronize (hlife : s.life = .synchronizing) (hunlocked : s.locked = false) :
    Step maxPendingIo s .synchronize
      { s.withHandle (s.handle.synchronizeFinishedList none) with life := .testing }
  | test (hlife : s.life = .testing)
      (hmore : 0 < s.handle.pendingIO ∨ 0 < s.handle.aPCTransferQueueCount) :
    Step maxPendingIo s .test { s with life := .draining }
  | endTest (hlife : s.life = .testing)
      (hnone : ¬(0 < s.handle.pendingIO ∨ 0 < s.handle.aPCTransferQueueCount)) :
    Step maxPendingIo s .test { s with life := .left }
  | sleep (hlife : s.life = .draining) (hnone : s.handle.pendingIO = 0) :
    Step maxPendingIo s .sleep { s with life := .testing }
  | exit (hlife : s.life = .left) :
    Step maxPendingIo s .exit
      { s.withHandle { s.handle with threadState := .stopped } with
        life := .ended
        apcs := [] }

/-- **What a step of a stream does.** -/
theorem Step.of_step {maxPendingIo : ℕ} {e : StreamEvent}
    (h : (streamRun maxPendingIo).step s e = some s') : Step maxPendingIo s e s' := by
  cases e with
  | call k call =>
    simp only [streamRun] at h
    split at h
    · next hidle =>
      rcases calls_spec h with ⟨haccepted, rfl⟩ | rfl
      · exact .call k call hidle haccepted
      · exact .callFails k call hidle
    · cases h
  | user k =>
    simp only [streamRun] at h
    split at h
    · next pc hpc => exact .user k pc s' hpc h
    · cases h
  | deliver =>
    simp only [streamRun] at h
    split at h
    · cases h
    · next xferSubmitList apcs hapcs =>
      split at h
      · next halertable =>
        cases h
        exact .deliver xferSubmitList apcs hapcs halertable
      · cases h
  | loop =>
    simp only [streamRun] at h
    split at h
    · next hlife =>
      cases h
      unfold StreamRun.loop
      split
      · next hgoesOn =>
        split
        · next hflush =>
          have hunlocked : s.locked = false := by simpa using hflush.2
          exact .flush hlife.1 hlife.2 hgoesOn hunlocked
        · exact .loop hlife.1 hlife.2 hgoesOn
      · next hends => exact .endLoop hlife.1 hlife.2 hends
    · cases h
  | processQueued submit =>
    simp only [streamRun] at h
    split at h
    · next hlife =>
      obtain ⟨ovlList, hovl, rfl⟩ := Option.map_eq_some_iff.mp h
      exact .processQueued submit ovlList _ hlife.1 hlife.2 hovl (.of_queuedStep s submit ovlList)
    · cases h
  | processPending outcome =>
    obtain ⟨ovlList, hovl, h⟩ := Option.bind_eq_some_iff.mp h
    exact .processPending outcome ovlList s' hovl h
  | test =>
    simp only [streamRun] at h
    split at h
    · next hlife =>
      cases h
      split
      · next hmore => exact .test hlife hmore
      · next hnone => exact .endTest hlife hnone
    · cases h
  -- the other events have a guard and one effect
  | start =>
    obtain ⟨hended, ⟨⟩⟩ := Option.ite_none_right_eq_some.mp h
    exact .start hended.1 hended.2
  | synchronize =>
    obtain ⟨hlife, ⟨⟩⟩ := Option.ite_none_right_eq_some.mp h
    exact .synchronize hlife.1 (by simpa using hlife.2)
  | sleep =>
    obtain ⟨hlife, ⟨⟩⟩ := Option.ite_none_right_eq_some.mp h
    exact .sleep hlife.1 hlife.2
  | startFails =>
    obtain ⟨hlife, ⟨⟩⟩ := Option.ite_none_right_eq_some.mp h
    exact .startFails hlife
  | stop =>
    obtain ⟨hstarted, ⟨⟩⟩ := Option.ite_none_right_eq_some.mp h
    exact .stop hstarted
  | allocFails =>
    obtain ⟨hlife, ⟨⟩⟩ := Option.ite_none_right_eq_some.mp h
    exact .allocFails hlife
  | started =>
    obtain ⟨hlife, ⟨⟩⟩ := Option.ite_none_right_eq_some.mp h
    exact .started hlife
  | leave =>
    obtain ⟨hlife, ⟨⟩⟩ := Option.ite_none_right_eq_some.mp h
    exact .leave hlife
  | exit =>
    obtain ⟨hlife, ⟨⟩⟩ := Option.ite_none_right_eq_some.mp h
    exact .exit hlife

end StreamRun

end LibusbK
