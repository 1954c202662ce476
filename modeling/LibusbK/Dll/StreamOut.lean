import LibusbK.Dll.StreamItems

/-!
# The bytes of an OUT stream

The bytes that `StmK_Write` accepts reach the `Queued` list with their items, by an APC or
directly, and the stream thread submits the items in the order of that list.  A submission
that fails puts its item back in front, and a stream that is started again goes on with the
list as it is.

A call hands its items to the stream thread when it finds the stream started, and appends
them itself otherwise; a stream that is stopping counts as not started.

## Main definitions

* `SendsInOrder` — what was submitted is a prefix of what was accepted.
* `StreamRun.sendsInTime` — no APC comes too late, and none is overtaken.

## Main results

* `sendsInOrder_of_throughout` — the bytes are sent in order in every run in time.
* `not_sendsInOrder_failedSubmit` — a write that overtakes the one before it.
-/

namespace LibusbK

/-- **The bytes are sent in order.** -/
def SendsInOrder (s : StreamRun) : Prop := s.submitted <+: s.transferred

instance (s : StreamRun) : Decidable (SendsInOrder s) :=
  inferInstanceAs (Decidable (_ <+: _))

/-- The bytes the items of a list are submitted with. -/
def payloads (items : List XferItem) : List UInt8 := items.flatMap XferItem.payload

@[simp] theorem payloads_nil : payloads [] = [] := rfl

@[simp] theorem payloads_append (items items' : List XferItem) :
    payloads (items ++ items') = payloads items ++ payloads items' :=
  List.flatMap_append

/-- An item that is made ready for submission to an OUT pipe keeps its bytes. -/
theorem payload_reset (item : XferItem) : (item.reset false).payload = item.payload := rfl

theorem payloads_cons (item : XferItem) (items : List XferItem) :
    payloads (item :: items) = item.payload ++ payloads items :=
  List.flatMap_cons

/-- The loop of `StmK_Write` has no item to restore. -/
theorem fillFinished_backupXferItem (semCount : ℕ) (items : List XferItem) (semReady : Option ℕ)
    (bytes : List UInt8) : (fillFinished semCount items semReady bytes).backupXferItem = none := by
  induction items generalizing semCount semReady bytes with
  | nil => rfl
  | cons item items ih =>
    rw [fillFinished]
    split
    · rfl
    · dsimp only
      split
      · rfl
      · exact ih ..

/-- What was taken holds the bytes that were placed, and there is no item to restore. -/
structure Taken.Filled (taken : Taken) : Prop where
  payloads : payloads taken.xferSubmitList = taken.data
  backup : taken.backupXferItem = none

/-- The call writes, and what it has taken it has filled. -/
structure UserPc.Writes (pc : UserPc) : Prop where
  waiting : ∀ call, pc.waiting = some call → call.isWrite = true
  taken : ∀ taken, pc.taken = some taken → taken.Filled

theorem UserPc.Writes.of_waiting {pc : UserPc}
    (hwaiting : ∀ call, pc.waiting = some call → call.isWrite = true) (htaken : pc.taken = none) :
    pc.Writes :=
  ⟨hwaiting, fun taken h => by cases htaken.symm.trans h⟩

/-- A call that waits for nothing and holds nothing. -/
theorem UserPc.Writes.of_idle {pc : UserPc} (hwaiting : pc.waiting = none)
    (htaken : pc.taken = none) : pc.Writes :=
  .of_waiting (fun call h => by cases hwaiting.symm.trans h) htaken

theorem StreamCall.filled_take {call : StreamCall} (h : call.isWrite = true) (handle : StmHandle) :
    (call.take handle).Filled := by
  cases call with
  | read call => cases h
  | write call => exact ⟨fillFinished_payload .., fillFinished_backupXferItem ..⟩

namespace StreamRun

variable {s s' : StreamRun}

/-- A write that appends its items itself finds no APC undelivered. -/
def overtakesNone (s : StreamRun) : StreamEvent → Bool
  | .user k =>
    match s.users[k]? with
    | some (some (.appends taken)) => taken.xferSubmitList.isEmpty || s.apcs.isEmpty
    | _ => true
  | _ => true

/-- The thread misses no APC, and no write overtakes one. -/
def sendsInTime (s : StreamRun) (e : StreamEvent) : Bool := s.apcInTime e && s.overtakesNone e

/-- What is accepted is submitted, queued or carried by an APC, in this order. -/
structure OutInv (s : StreamRun) : Prop where
  apcs : s.ApcInv
  isOut : s.handle.isIn = false
  order : s.transferred = s.submitted ++ payloads (s.handle.queued ++ s.apcs.flatten)
  users : ∀ user ∈ s.users, ∀ pc ∈ user, pc.Writes

theorem OutInv.sendsInOrder (hs : s.OutInv) : SendsInOrder s := by
  rw [SendsInOrder, hs.order]
  exact List.prefix_append ..

/-! ### Calls -/

/-- The calls write, after user `k` has gone on. -/
theorem writes_set {users : List (Option UserPc)} (h : ∀ user ∈ users, ∀ pc ∈ user, pc.Writes)
    (k : ℕ) {user' : Option UserPc} (huser : ∀ pc ∈ user', pc.Writes) :
    ∀ user ∈ users.set k user', ∀ pc ∈ user, pc.Writes := by
  intro user hmem
  rcases List.mem_or_eq_of_mem_set hmem with hold | rfl
  · exact h user hold
  · exact huser

/-- A call that fails. -/
theorem users_fails {k : ℕ} {call : StreamCall} (h : s.fails k call = some s') :
    s'.users = s.users.set k none := by
  unfold fails at h
  split at h
  · cases h
    rfl
  · cases h

theorem users_failsWith {k : ℕ} {call : StreamCall} {taken : Taken}
    (h : s.failsWith k call taken = some s') :
    s'.users = s.users.set k none ∨ s'.users = s.users.set k (some (.reacquires call taken)) := by
  unfold failsWith at h
  split at h
  · exact .inl (users_fails h)
  · cases h
    exact .inr rfl

/-- A call that writes goes on writing, or is done. -/
theorem writes_run {k : ℕ} {pc : UserPc} (hw : pc.Writes) (h : pc.run s k = some s') :
    ∃ user', s'.users = s.users.set k user' ∧ ∀ pc' ∈ user', pc'.Writes := by
  have hdone : ∀ pc' ∈ (none : Option UserPc), pc'.Writes := fun pc' hpc' => by cases hpc'
  have hgoes : ∀ {pc' : UserPc}, pc'.Writes → ∀ pc'' ∈ some pc', pc''.Writes := by
    rintro pc' hw' pc'' hpc''
    cases hpc''
    exact hw'
  -- a call that has taken items keeps them
  have hkeeps : ∀ {pc' : UserPc}, pc'.waiting = none → pc'.taken = pc.taken → pc'.Writes := by
    intro pc' hwaiting htaken
    refine ⟨fun call hcall => ?_, fun taken hpc' => hw.taken taken (htaken ▸ hpc')⟩
    rw [hwaiting] at hcall
    cases hcall
  have hfailsWith : ∀ {call : StreamCall} {taken : Taken}, pc.taken = some taken →
      s.failsWith k call taken = some s' →
      ∃ user', s'.users = s.users.set k user' ∧ ∀ pc' ∈ user', pc'.Writes := by
    intro call taken htaken hfails
    rcases users_failsWith hfails with husers | husers
    · exact ⟨none, husers, hdone⟩
    · exact ⟨_, husers, hgoes (hkeeps rfl htaken.symm)⟩
  cases pc with
  | waits call =>
    have hacquires : (UserPc.acquires call).Writes := .of_waiting hw.waiting rfl
    simp only [UserPc.run] at h
    split at h
    · split at h
      · exact ⟨none, users_fails h, hdone⟩
      · cases h
        exact ⟨_, rfl, hgoes hacquires⟩
    · exact ⟨none, users_fails h, hdone⟩
    · cases h
      exact ⟨_, rfl, hgoes hacquires⟩
  | acquires call =>
    simp only [UserPc.run] at h
    split at h
    · cases h
    · cases h
      exact ⟨_, rfl, hgoes (.of_waiting hw.waiting rfl)⟩
  | takes call =>
    simp only [UserPc.run] at h
    split at h
    · cases h
      exact ⟨_, rfl, hgoes (.of_idle rfl rfl)⟩
    · cases h
      have hfilled := StreamCall.filled_take (hw.waiting call rfl) s.handle
      refine ⟨_, rfl, hgoes ⟨fun call hcall => ?_, fun taken htaken => ?_⟩⟩
      · cases hcall
      · cases htaken
        exact hfilled
  | releasesEmpty call =>
    have husers := users_fails h
    exact ⟨none, husers, hdone⟩
  | releases call taken =>
    cases h
    exact ⟨_, rfl, hgoes (hkeeps rfl rfl)⟩
  | tests call taken =>
    simp only [UserPc.run] at h
    split at h
    · exact hfailsWith rfl h
    · split at h
      · cases h
        exact ⟨_, rfl, hgoes (hkeeps rfl rfl)⟩
      · cases h
        exact ⟨_, rfl, hgoes (hkeeps rfl rfl)⟩
  | queues call taken =>
    simp only [UserPc.run] at h
    split at h
    · cases h
      exact ⟨_, rfl, hgoes (.of_idle rfl rfl)⟩
    · exact hfailsWith rfl h
  | counts =>
    cases h
    exact ⟨none, rfl, hdone⟩
  | appends taken =>
    cases h
    exact ⟨none, rfl, hdone⟩
  | reacquires call taken =>
    simp only [UserPc.run] at h
    split at h
    · cases h
    · cases h
      exact ⟨_, rfl, hgoes (hkeeps rfl rfl)⟩
  | putsBack call taken =>
    cases h
    have hbackup := (hw.taken taken rfl).backup
    refine ⟨some (.releasesBack call), ?_, hgoes (.of_idle rfl rfl)⟩
    rw [hbackup]
    rfl
  | releasesBack call =>
    have husers := users_fails h
    exact ⟨none, husers, hdone⟩

/-- What a call does to the order of the bytes. -/
theorem order_user {k : ℕ} {pc : UserPc} (hs : s.OutInv) (hpc : s.users[k]? = some (some pc))
    (hok : s.overtakesNone (.user k) = true) (hstep : UserStep s k pc s') :
    s'.handle.isIn = s.handle.isIn ∧
      s'.transferred = s'.submitted ++ payloads (s'.handle.queued ++ s'.apcs.flatten) := by
  have hw := hs.users (some pc) (List.mem_of_getElem? hpc) pc rfl
  have horder := hs.order
  cases hstep with
  | quiet pc' semReady locked failed hpc hpc' hitems hfailed htaken hwaiting hsem =>
    exact ⟨rfl, horder⟩
  | takes call hpc hne => exact ⟨rfl, horder⟩
  | queues call taken hpc hqueue hlife =>
    have hfilled := (hw.taken taken (by rw [hpc]; rfl)).payloads
    have hitems : payloads (s.handle.queued ++ (s.apcs ++ [taken.xferSubmitList]).flatten) =
        payloads (s.handle.queued ++ s.apcs.flatten) ++ taken.data := by
      rw [List.flatten_append, List.flatten_singleton, ← List.append_assoc, payloads_append,
        hfilled]
    refine ⟨rfl, ?_⟩
    dsimp only [goOn]
    rw [hitems, horder, List.append_assoc]
  | counts hpc => exact ⟨rfl, horder⟩
  | appends taken hpc' =>
    subst hpc'
    have hfilled := (hw.taken taken rfl).payloads
    refine ⟨rfl, ?_⟩
    dsimp only [goOn, withHandle]
    simp only [overtakesNone, hpc, Bool.or_eq_true, List.isEmpty_iff] at hok
    rcases hok with hnone | hnone
    · -- there is nothing to append
      rw [hnone, payloads_nil] at hfilled
      rw [hnone, ← hfilled, List.append_nil, List.append_nil]
      exact horder
    · rw [hnone, List.flatten_nil, List.append_nil] at horder ⊢
      have hitems : payloads (s.handle.queued ++ taken.xferSubmitList) =
          payloads s.handle.queued ++ taken.data := by
        rw [payloads_append, hfilled]
      rw [hitems, horder, List.append_assoc]
  | putsBack call taken hpc =>
    have hbackup := (hw.taken taken (by rw [hpc]; rfl)).backup
    rw [hbackup]
    exact ⟨rfl, horder⟩

/-- What a submission does to the order of the bytes: the bytes of the oldest queued item are
submitted, or they stay. -/
theorem order_queued (hs : s.OutInv) {submit : UInt32} {ovlList : DList ℕ}
    (hstep : QueuedStep s submit ovlList s') :
    s'.handle.isIn = s.handle.isIn ∧
      s'.transferred = s'.submitted ++ payloads (s'.handle.queued ++ s'.apcs.flatten) := by
  have horder := hs.order
  cases hstep with
  | idle hnone => exact ⟨rfl, horder⟩
  | fails item queued ovlNext hqueued hhead hsubmit =>
    refine ⟨rfl, ?_⟩
    rw [hqueued] at horder
    dsimp only
    rw [horder, hs.isOut, List.cons_append, List.cons_append, payloads_cons, payloads_cons,
      payload_reset]
  | submits item queued ovlNext hqueued hhead hsubmit =>
    refine ⟨rfl, ?_⟩
    rw [hqueued] at horder
    dsimp only
    rw [horder, List.cons_append, payloads_cons, List.append_assoc]

/-- What the end of a transfer does to the order of the bytes: its item is queued by none but
a callback. -/
theorem order_pending (hs : s.OutInv) {o : PendingOutcome} {ovlList : DList ℕ}
    (hdefault : o.beforeComplete = none) (h : s.pendingStep o ovlList = some s') :
    s'.handle.isIn = s.handle.isIn ∧
      s'.transferred = s'.submitted ++ payloads (s'.handle.queued ++ s'.apcs.flatten) := by
  obtain ⟨-, -, hapcs, -, htransferred, hsubmitted, -, hends⟩ := pendingStep_spec h
  rw [htransferred, hsubmitted, hapcs]
  have horder := hs.order
  rcases hends with ⟨-, hhandle, -⟩ | ⟨item, ovlNext, handle, -, -, hends, hhandle⟩
  · rw [hhandle]
    exact ⟨rfl, horder⟩
  · rw [hhandle]
    cases hends with
    | requeued hcallback => exact absurd hdefault hcallback
    | finished hfree => exact ⟨rfl, horder⟩
    | temp hlocked => exact ⟨rfl, horder⟩

/-- A step keeps the bytes in order. -/
theorem OutInv.order_step {maxPendingIo : ℕ} (hs : s.OutInv) {e : StreamEvent}
    (hdefault : e.usesDefaults = true) (hok : s.overtakesNone e = true)
    (h : (streamRun maxPendingIo).step s e = some s') :
    s'.handle.isIn = s.handle.isIn ∧
      s'.transferred = s'.submitted ++ payloads (s'.handle.queued ++ s'.apcs.flatten) := by
  have horder := hs.order
  have hleft := hs.apcs.left h
  cases Step.of_step h with
  | user k pc s' hpc hrun => exact order_user hs hpc hok (.of_run hrun)
  | startFails hlife =>
    rw [(hleft rfl).1] at horder
    exact ⟨rfl, horder⟩
  | exit hlife =>
    rw [(hleft rfl).1] at horder
    exact ⟨rfl, horder⟩
  | deliver xferSubmitList apcs hapcs halertable =>
    rw [hapcs, List.flatten_cons, ← List.append_assoc] at horder
    exact ⟨rfl, horder⟩
  | processQueued submit ovlList s' hlife hphase hovl hstep => exact order_queued hs hstep
  | processPending outcome ovlList s' hovl hstep =>
    have hnone : outcome.beforeComplete = none := by
      simp only [StreamEvent.usesDefaults, Bool.and_eq_true, Option.isNone_iff_eq_none] at hdefault
      exact hdefault.1.2
    exact order_pending hs hnone hstep
  -- the other steps touch neither the queue nor the APCs
  | _ => exact ⟨rfl, horder⟩

/-- The calls of the users are writes. -/
theorem OutInv.users_step {maxPendingIo : ℕ} (hs : s.OutInv) {e : StreamEvent}
    (h : (streamRun maxPendingIo).step s e = some s') :
    ∀ user ∈ s'.users, ∀ pc ∈ user, pc.Writes := by
  cases Step.of_step h with
  | call k call hidle haccepted =>
    refine writes_set hs.users k fun pc hpc => ?_
    cases hpc
    refine .of_waiting (fun call' hcall => ?_) rfl
    cases hcall
    rw [StreamCall.isWrite_of_accepted haccepted, hs.isOut]
    rfl
  | callFails k call hidle => exact writes_set hs.users k fun pc hpc => by cases hpc
  | user k pc s' hpc hrun =>
    have hw := hs.users (some pc) (List.mem_of_getElem? hpc) pc rfl
    obtain ⟨user', husers, huser⟩ := writes_run hw hrun
    rw [husers]
    exact writes_set hs.users k huser
  | processQueued submit ovlList s' hlife hphase hovl hstep =>
    cases hstep with
    | idle hnone => exact hs.users
    | fails item queued ovlNext hqueued hhead hsubmit => exact hs.users
    | submits item queued ovlNext hqueued hhead hsubmit => exact hs.users
  | processPending outcome ovlList s' hovl hstep =>
    obtain ⟨-, -, -, husers, -⟩ := pendingStep_spec hstep
    rw [husers]
    exact hs.users
  | _ => exact hs.users

/-- **A step in time keeps the bytes in order.** -/
theorem OutInv.step {maxPendingIo : ℕ} (hs : s.OutInv) {e : StreamEvent}
    (hdefault : e.usesDefaults = true) (hok : s.sendsInTime e = true)
    (h : (streamRun maxPendingIo).step s e = some s') : s'.OutInv := by
  obtain ⟨hintime, hnone⟩ := Bool.and_eq_true_iff.mp hok
  obtain ⟨hisIn, horder⟩ := hs.order_step hdefault hnone h
  exact ⟨hs.apcs.step hintime h, hisIn.trans hs.isOut, horder, hs.users_step h⟩

theorem outInv_start (noPartialXfers useTimeout : Bool) (maxTransferSize n users : ℕ) :
    (start (stmKInit false noPartialXfers useTimeout maxTransferSize n) users).OutInv where
  apcs := apcInv_start rfl rfl users
  isOut := rfl
  order := rfl
  users user hmem pc hpc := by
    rw [List.eq_of_mem_replicate hmem] at hpc
    cases hpc

end StreamRun

/-- **An OUT stream with default callbacks sends the bytes it accepts in order** in every run in
which no APC comes too late and none is overtaken by a write that appends its items itself. -/
theorem sendsInOrder_of_throughout (noPartialXfers useTimeout : Bool)
    (maxTransferSize maxPendingTransfers maxPendingIo users : ℕ) {es : List StreamEvent}
    (h : ((streamRun maxPendingIo).restrict StreamEvent.usesDefaults).Throughout
      (fun s e => s.sendsInTime e = true)
      (.start (stmKInit false noPartialXfers useTimeout maxTransferSize maxPendingTransfers) users)
      es) :
    ((streamRun maxPendingIo).restrict StreamEvent.usesDefaults).Always SendsInOrder
      (.start (stmKInit false noPartialXfers useTimeout maxTransferSize maxPendingTransfers) users)
      es := by
  refine h.always (fun _ hs => StreamRun.OutInv.sendsInOrder hs) (fun s e s' hs hok hstep => ?_)
    (StreamRun.outInv_start noPartialXfers useTimeout maxTransferSize maxPendingTransfers users)
  obtain ⟨hdefault, hstep⟩ := Machine.step_restrict_eq_some.mp hstep
  exact hs.step hdefault hok hstep

/-! ### A write that overtakes another -/

/-- A write of one byte. -/
def writeOf (byte : UInt8) : StreamCall := .write { length := 1, data := [byte] }

/-- A byte is written before the stream is started, one after; the submission of the first
fails, and the stream is started again. -/
def failsOnce : List StreamEvent :=
  [.call 0 (writeOf 1), .user 0, .user 0, .user 0, .user 0, .user 0, .user 0, .start, .started,
    .loop, .call 0 (writeOf 2), .user 0, .user 0, .user 0, .user 0, .user 0, .user 0, .user 0,
    .processQueued 31, .leave, .synchronize, .test, .deliver, .sleep, .test, .exit, .start,
    .started, .loop, .processQueued ERROR_IO_PENDING, .processQueued ERROR_IO_PENDING]

theorem sendsInOrder_of_throughout_failsOnce :
    ((streamRun 2).restrict StreamEvent.usesDefaults).Always SendsInOrder
      (.start (stmKInit false false false 4 2) 1) failsOnce :=
  sendsInOrder_of_throughout false false 4 2 2 1 (by decide +kernel)

/-- The same, with a third write that has passed the check of `Thread.State` when the
submission fails: it finds the stream stopping, and appends its item before the APC of the
second write is delivered. -/
def overtakes : List StreamEvent :=
  [.call 0 (writeOf 1), .user 0, .user 0, .user 0, .user 0, .user 0, .user 0, .start, .started,
    .loop, .call 0 (writeOf 2), .user 0, .user 0, .user 0, .user 0, .user 0, .user 0, .user 0,
    .call 0 (writeOf 3), .user 0, .user 0, .user 0, .user 0, .processQueued 31, .leave, .user 0,
    .user 0, .synchronize, .test, .deliver, .sleep, .test, .exit, .start, .started, .loop,
    .processQueued ERROR_IO_PENDING, .processQueued ERROR_IO_PENDING]

theorem not_sendsInOrder_failedSubmit :
    ¬((streamRun 2).restrict StreamEvent.usesDefaults).Always SendsInOrder
      (.start (stmKInit false false false 4 3) 1) overtakes := by
  intro h
  have hlast := h.exec rfl
  exact absurd hlast (by decide)

end LibusbK
