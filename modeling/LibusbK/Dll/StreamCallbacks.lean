import Mathlib.Data.List.Count
import LibusbK.Dll.StreamApcs

/-!
# The callbacks of a stream

`Stm_ThreadProc` calls `UserCB->Started` for the transfers of a stream before it goes to its
loop, and `UserCB->Stopped` when it has left it.  Both loops are bounded by `XferItemsCount`.
`POOLHANDLE_ACQUIRE` hands out memory that was zeroed once, and no function assigns this
field.

## Main definitions

* `StmCallbackCall`, `CallbackStream` — the calls of callbacks, and a stream that notes them.
* `streamCallbacks` — the machine.
* `CallbacksPaired` — every transfer is announced by `Started` and by `Stopped`, in time.

## Main results

* `callbacksPaired_iff_of_shape` — the calls are paired exactly if `XferItemsCount` is the
  number of transfers, or the callbacks are not set.
* `streamCallbacks_paired_iff` — when they are in a run of a stream.
-/

namespace LibusbK

/-- A call of a callback, with `XferContextIndex`. -/
inductive StmCallbackCall
  | started (i : ℕ)
  | submit (i : ℕ)
  | complete (i : ℕ)
  | stopped (i : ℕ)
  deriving DecidableEq, Repr

namespace StmCallbackCall

def isStarted : StmCallbackCall → Bool
  | started _ => true
  | _ => false

def isSubmit : StmCallbackCall → Bool
  | submit _ => true
  | _ => false

def isComplete : StmCallbackCall → Bool
  | complete _ => true
  | _ => false

def isStopped : StmCallbackCall → Bool
  | stopped _ => true
  | _ => false

/-- A call for a transfer in progress. -/
def isTransfer (call : StmCallbackCall) : Bool := call.isSubmit || call.isComplete

end StmCallbackCall

/-- `KSTM_CALLBACK`: whether `Started` and `Stopped` are set. -/
structure StmCallback where
  started : Bool
  stopped : Bool

/-- A stream with its callbacks.  The last two fields are what an observer notes of the cycle
that `StmK_Start` began. -/
structure CallbackStream where
  run : StreamRun
  userCB : StmCallback
  xferItemsCount : ℕ
  /-- The thread has set `STARTED`. -/
  reached : Bool := false
  calls : List StmCallbackCall := []

namespace CallbackStream

variable (s : CallbackStream)

/-- The loop over the transfers before the thread is started. -/
def startedLoop : List StmCallbackCall :=
  if s.userCB.started then (List.range s.xferItemsCount).map .started else []

/-- The loop over the transfers at the end of the thread. -/
def stoppedLoop : List StmCallbackCall :=
  if s.userCB.stopped then (List.range s.xferItemsCount).map .stopped else []

/-- `Stm_Thread_ProcessQueued` submits the oldest queued transfer if there is a free overlapped,
whatever `Submit` returns. -/
def submitCalls : List StmCallbackCall :=
  match s.run.stm.ovlList.bind DList.head, s.run.handle.queued with
  | some _, xferNext :: _ => [.submit xferNext.index]
  | _, _ => []

/-- `Stm_Thread_ProcessPending` calls `Complete` for a transfer that has ended and is not
refused. -/
def completeCalls (outcome : PendingOutcome) : List StmCallbackCall :=
  match s.run.stm.pendingList with
  | [] => []
  | (xferNext, _) :: _ =>
    -- `BeforeComplete` can keep a transfer that has ended from being completed
    if outcome.completes s.run.stm && (outcome.beforeComplete.getD (true, 0)).1 &&
        outcome.complete.isSome then [.complete xferNext.index]
    else []

/-- The callbacks that are called in a step. -/
def stepCalls : StreamEvent → List StmCallbackCall
  -- the thread runs the first loop before it sets `STARTED`, and the last one before it ends
  | .started => s.startedLoop
  | .processQueued _ => s.submitCalls
  | .processPending outcome => s.completeCalls outcome
  | .exit => s.stoppedLoop
  | _ => []

/-- What is noted of a step: a start begins a new cycle. -/
def note (e : StreamEvent) (run : StreamRun) : CallbackStream :=
  match e with
  | .start => { s with run := run, reached := false, calls := [] }
  | .started => { s with run := run, reached := true, calls := s.calls ++ s.stepCalls .started }
  | e => { s with run := run, calls := s.calls ++ s.stepCalls e }

end CallbackStream

/-- A stream with `maxPendingIo` overlapped objects, and its callbacks. -/
def streamCallbacks (maxPendingIo : ℕ) : Machine CallbackStream StreamEvent where
  step s e := ((streamRun maxPendingIo).step s.run e).map (s.note e)

/-- **What should hold** of a stream with `maxPendingTransfers` transfers: in a cycle that has
reached the started state, `Started` was called once for each of them and before the first
`Submit`; and once the thread has ended, so was `Stopped`, after the last `Complete`. -/
structure CallbacksPaired (maxPendingTransfers : ℕ) (s : CallbackStream) : Prop where
  started : s.reached = true → s.userCB.started = true →
    (∀ i, s.calls.count (.started i) = if i < maxPendingTransfers then 1 else 0) ∧
      s.calls.Pairwise fun a b => a.isSubmit = true → b.isStarted = false
  stopped : s.reached = true → s.run.life = .ended → s.userCB.stopped = true →
    (∀ i, s.calls.count (.stopped i) = if i < maxPendingTransfers then 1 else 0) ∧
      s.calls.Pairwise fun a b => a.isStopped = true → b.isComplete = false

/-! ### The calls of a cycle -/

namespace CallbackStream

variable {s : CallbackStream}

/-- The calls of a cycle in their order: `Started`, the transfers, and `Stopped` at the end. -/
structure Shape (s : CallbackStream) (mid tail : List StmCallbackCall) : Prop where
  inOrder : s.calls = (if s.reached then s.startedLoop else []) ++ mid ++ tail
  transfers : ∀ call ∈ mid, call.isTransfer = true
  last : tail = [] ∨ tail = s.stoppedLoop
  busy : s.run.life ≠ .ended → tail = []
  ended : s.reached = true → s.run.life = .ended → tail = s.stoppedLoop
  starting : s.run.life = .starting → s.reached = false ∧ mid = []

theorem count_range_map {f : ℕ → StmCallbackCall} (hf : Function.Injective f) (n i : ℕ) :
    ((List.range n).map f).count (f i) = if i < n then 1 else 0 := by
  rw [List.count_map_of_injective _ f hf, List.count_range]

/-- One bound gives the same calls as another only if it is the same. -/
theorem lt_iff_forall {m n : ℕ} :
    (∀ i, (if i < m then 1 else 0) = if i < n then 1 else (0 : ℕ)) ↔ m = n := by
  refine ⟨fun h => ?_, fun h _ => by rw [h]⟩
  have hm := h m
  have hn := h n
  grind

/-- Nothing in the first part is before anything, and nothing in the second is after it. -/
theorem pairwise_append_of_forall {p q : StmCallbackCall → Bool} {l l' : List StmCallbackCall}
    (hp : ∀ a ∈ l, p a = false) (hq : ∀ b ∈ l', q b = false) :
    (l ++ l').Pairwise fun a b => p a = true → q b = false := by
  refine List.pairwise_append.mpr ⟨?_, ?_, fun a ha b hb _ => hq b hb⟩
  · refine List.pairwise_of_forall_mem_list fun a ha b _ htrue => ?_
    rw [hp a ha] at htrue
    cases htrue
  · exact List.pairwise_of_forall_mem_list fun a _ b hb _ => hq b hb

theorem mem_startedLoop {call : StmCallbackCall} (h : call ∈ s.startedLoop) :
    ∃ i, call = .started i := by
  unfold startedLoop at h
  split at h
  · obtain ⟨i, -, rfl⟩ := List.mem_map.mp h
    exact ⟨i, rfl⟩
  · cases h

theorem mem_stoppedLoop {call : StmCallbackCall} (h : call ∈ s.stoppedLoop) :
    ∃ i, call = .stopped i := by
  unfold stoppedLoop at h
  split at h
  · obtain ⟨i, -, rfl⟩ := List.mem_map.mp h
    exact ⟨i, rfl⟩
  · cases h

section Shape

variable {mid tail : List StmCallbackCall}

theorem Shape.mem_tail (h : s.Shape mid tail) {call : StmCallbackCall} (hmem : call ∈ tail) :
    ∃ i, call = .stopped i := by
  rcases h.last with rfl | rfl
  · cases hmem
  · exact mem_stoppedLoop hmem

theorem mem_head {call : StmCallbackCall}
    (hmem : call ∈ if s.reached then s.startedLoop else []) : ∃ i, call = .started i := by
  split at hmem
  · exact mem_startedLoop hmem
  · cases hmem

theorem Shape.count_started (h : s.Shape mid tail) (hreached : s.reached = true)
    (hset : s.userCB.started = true) (i : ℕ) :
    s.calls.count (.started i) = if i < s.xferItemsCount then 1 else 0 := by
  have hmid : mid.count (.started i) = 0 :=
    List.count_eq_zero_of_not_mem fun hmem => Bool.noConfusion (h.transfers _ hmem)
  have htail : tail.count (.started i) = 0 :=
    List.count_eq_zero_of_not_mem fun hmem => nomatch h.mem_tail hmem
  rw [h.inOrder, if_pos hreached, List.count_append, List.count_append, hmid, htail]
  unfold startedLoop
  rw [if_pos hset]
  exact count_range_map (fun _ _ heq => StmCallbackCall.started.inj heq) _ i

theorem Shape.count_stopped (h : s.Shape mid tail) (hreached : s.reached = true)
    (hended : s.run.life = .ended) (hset : s.userCB.stopped = true) (i : ℕ) :
    s.calls.count (.stopped i) = if i < s.xferItemsCount then 1 else 0 := by
  have hhead : (if s.reached then s.startedLoop else []).count (.stopped i) = 0 :=
    List.count_eq_zero_of_not_mem fun hmem => nomatch mem_head hmem
  have hmid : mid.count (.stopped i) = 0 :=
    List.count_eq_zero_of_not_mem fun hmem => Bool.noConfusion (h.transfers _ hmem)
  rw [h.inOrder, List.count_append, List.count_append, hhead, hmid, h.ended hreached hended,
    Nat.zero_add]
  unfold stoppedLoop
  rw [if_pos hset]
  exact count_range_map (fun _ _ heq => StmCallbackCall.stopped.inj heq) _ i

theorem Shape.started_first (h : s.Shape mid tail) :
    s.calls.Pairwise fun a b => a.isSubmit = true → b.isStarted = false := by
  rw [h.inOrder, List.append_assoc]
  refine pairwise_append_of_forall (fun a ha => ?_) fun b hb => ?_
  · obtain ⟨i, rfl⟩ := mem_head ha
    rfl
  · rcases List.mem_append.mp hb with hb | hb
    · have htransfer := h.transfers b hb
      cases b <;> first | rfl | cases htransfer
    · obtain ⟨i, rfl⟩ := h.mem_tail hb
      rfl

theorem Shape.stopped_last (h : s.Shape mid tail) :
    s.calls.Pairwise fun a b => a.isStopped = true → b.isComplete = false := by
  rw [h.inOrder]
  refine pairwise_append_of_forall (fun a ha => ?_) fun b hb => ?_
  · rcases List.mem_append.mp ha with ha | ha
    · obtain ⟨i, rfl⟩ := mem_head ha
      rfl
    · have htransfer := h.transfers a ha
      cases a <;> first | rfl | cases htransfer
  · obtain ⟨i, rfl⟩ := h.mem_tail hb
    rfl

/-- **What decides whether the callbacks are paired**: how far the loops count. -/
theorem callbacksPaired_iff_of_shape (h : s.Shape mid tail) (n : ℕ) :
    CallbacksPaired n s ↔ s.reached = true →
      (s.userCB.started = true → s.xferItemsCount = n) ∧
        (s.run.life = .ended → s.userCB.stopped = true → s.xferItemsCount = n) := by
  constructor
  · refine fun hpaired hreached => ⟨fun hset => ?_, fun hended hset => ?_⟩
    · refine lt_iff_forall.mp fun i => ?_
      rw [← h.count_started hreached hset]
      exact (hpaired.started hreached hset).1 i
    · refine lt_iff_forall.mp fun i => ?_
      rw [← h.count_stopped hreached hended hset]
      exact (hpaired.stopped hreached hended hset).1 i
  · refine fun hcount => ⟨fun hreached hset => ⟨fun i => ?_, h.started_first⟩,
      fun hreached hended hset => ⟨fun i => ?_, h.stopped_last⟩⟩
    · rw [h.count_started hreached hset, (hcount hreached).1 hset]
    · rw [h.count_stopped hreached hended hset, (hcount hreached).2 hended hset]

/-! ### Steps -/

/-- A step in which no callback is called. -/
theorem Shape.quiet (h : s.Shape mid tail) {run : StreamRun}
    (hended : run.life = .ended ↔ s.run.life = .ended)
    (hstarting : run.life = .starting → s.run.life = .starting) :
    ({ s with run := run, calls := s.calls ++ [] } : CallbackStream).Shape mid tail where
  inOrder := by
    rw [List.append_nil]
    exact h.inOrder
  transfers := h.transfers
  last := h.last
  busy hne := h.busy fun heq => hne (hended.mpr heq)
  ended hreached heq := h.ended hreached (hended.mp heq)
  starting heq := h.starting (hstarting heq)

/-- A step in which callbacks are called for transfers. -/
theorem Shape.transfer (h : s.Shape mid tail) {run : StreamRun} {calls : List StmCallbackCall}
    (hcalls : ∀ call ∈ calls, call.isTransfer = true) (hbusy : s.run.life ≠ .ended)
    (hended : run.life ≠ .ended) (hstarting : run.life ≠ .starting) :
    ({ s with run := run, calls := s.calls ++ calls } : CallbackStream).Shape (mid ++ calls)
      [] where
  inOrder := by
    show s.calls ++ calls = _
    rw [h.inOrder, h.busy hbusy, List.append_nil, List.append_nil, List.append_assoc]
    rfl
  transfers call hcall := by
    rcases List.mem_append.mp hcall with hcall | hcall
    · exact h.transfers call hcall
    · exact hcalls call hcall
  last := .inl rfl
  busy _ := rfl
  ended _ heq := absurd heq hended
  starting heq := absurd heq hstarting

end Shape

theorem isTransfer_submitCalls : ∀ call ∈ s.submitCalls, call.isTransfer = true := by
  intro call hcall
  unfold submitCalls at hcall
  split at hcall
  · rw [List.mem_singleton.mp hcall]
    rfl
  · cases hcall

theorem isTransfer_completeCalls (outcome : PendingOutcome) :
    ∀ call ∈ s.completeCalls outcome, call.isTransfer = true := by
  intro call hcall
  unfold completeCalls at hcall
  split at hcall
  · cases hcall
  · split at hcall
    · rw [List.mem_singleton.mp hcall]
      rfl
    · cases hcall

/-- **The calls of a cycle are in order** after every step. -/
theorem Shape.step {maxPendingIo : ℕ} {t : CallbackStream} {e : StreamEvent}
    {mid tail : List StmCallbackCall} (h : s.Shape mid tail)
    (hstep : (streamCallbacks maxPendingIo).step s e = some t) :
    ∃ mid' tail', t.Shape mid' tail' := by
  obtain ⟨run, hrun, rfl⟩ := Option.map_eq_some_iff.mp hstep
  have hquiet {life : ThreadLife} (hlife : s.run.life = life) (hended : life ≠ .ended)
      (hlife' : run.life ≠ .ended) (hstarting : run.life ≠ .starting) :
      ({ s with run := run, calls := s.calls ++ [] } : CallbackStream).Shape mid tail :=
    h.quiet (iff_of_false hlife' fun heq => hended (hlife.symm.trans heq))
      fun heq => absurd heq hstarting
  -- what counts is whether the step calls callbacks, and whether the thread starts or ends
  cases StreamRun.Step.of_step hrun with
  | call k call hidle haccepted => exact ⟨mid, tail, h.quiet .rfl id⟩
  | callFails k call hidle => exact ⟨mid, tail, h.quiet .rfl id⟩
  | user k pc s' hpc hrun' =>
    have hlife := (StreamRun.UserStep.of_run hrun').frame.1
    exact ⟨mid, tail, h.quiet (by rw [hlife]) fun heq => hlife.symm.trans heq⟩
  | start hstopped hended =>
    refine ⟨[], [], ?_⟩
    exact
      { inOrder := rfl
        transfers := fun _ hcall => nomatch hcall
        last := .inl rfl
        busy := fun _ => rfl
        ended := fun hreached => nomatch hreached
        starting := fun _ => ⟨rfl, rfl⟩ }
  -- no thread: the cycle is over before anything is called
  | startFails hstarting =>
    obtain ⟨hreached, hmid⟩ := h.starting hstarting
    have hbusy : s.run.life ≠ .ended := fun heq => nomatch heq.symm.trans hstarting
    refine ⟨mid, tail, ?_⟩
    exact
      { inOrder := (List.append_nil _).trans h.inOrder
        transfers := h.transfers
        last := h.last
        busy := fun _ => h.busy hbusy
        ended := fun htrue => nomatch hreached.symm.trans htrue
        starting := fun heq => nomatch heq }
  | stop hstarted => exact ⟨mid, tail, h.quiet .rfl id⟩
  | deliver xferSubmitList apcs hapcs halertable => exact ⟨mid, tail, h.quiet .rfl id⟩
  | allocFails hstarting => exact ⟨mid, tail, hquiet hstarting (by decide) nofun nofun⟩
  | started hstarting =>
    obtain ⟨hreached, hmid⟩ := h.starting hstarting
    have hbusy : s.run.life ≠ .ended := fun heq => nomatch heq.symm.trans hstarting
    have hcalls : s.calls = [] := by
      rw [h.inOrder, hreached, hmid, h.busy hbusy]
      rfl
    refine ⟨[], [], ?_⟩
    exact
      { inOrder := by
          show s.calls ++ s.startedLoop = s.startedLoop ++ [] ++ []
          rw [hcalls, List.nil_append, List.append_nil, List.append_nil]
        transfers := fun _ hcall => nomatch hcall
        last := .inl rfl
        busy := fun _ => rfl
        ended := fun _ heq => nomatch heq
        starting := fun heq => nomatch heq }
  | loop hrunning hphase hgoesOn => exact ⟨mid, tail, h.quiet .rfl id⟩
  | flush hrunning hphase hgoesOn hunlocked => exact ⟨mid, tail, h.quiet .rfl id⟩
  | endLoop hrunning hphase hends => exact ⟨mid, tail, hquiet hrunning (by decide) nofun nofun⟩
  | processQueued submit ovlList s' hrunning hphase hovl hqueued =>
    -- a submission that fails has the thread leave its loop, after the call of `Submit`
    have hlife : run.life = .running ∨ run.life = .leaving := by
      cases hqueued with
      | idle => exact .inl hrunning
      | fails => exact .inr rfl
      | submits => exact .inl hrunning
    refine ⟨_, _, h.transfer isTransfer_submitCalls ?_ ?_ ?_⟩
    · exact fun heq => nomatch heq.symm.trans hrunning
    · rcases hlife with hlife | hlife <;> rw [hlife] <;> decide
    · rcases hlife with hlife | hlife <;> rw [hlife] <;> decide
  | processPending outcome ovlList s' hovl hpending =>
    -- an error in a transfer has the thread leave its loop too
    have htransfer := isTransfer_completeCalls (s := s) outcome
    rcases (StreamRun.pendingStep_spec hpending).1 with ⟨hlife, hlife'⟩ | ⟨hlife, hlife'⟩
    · exact ⟨_, _, h.transfer htransfer (by rw [hlife]; decide) (by rw [hlife']; decide)
        (by rw [hlife']; decide)⟩
    · exact ⟨_, _, h.transfer htransfer (by rw [hlife]; decide) (by rw [hlife']; decide)
        (by rw [hlife']; decide)⟩
  | leave hleft => exact ⟨mid, tail, hquiet hleft (by decide) nofun nofun⟩
  | synchronize hleft hunlocked => exact ⟨mid, tail, hquiet hleft (by decide) nofun nofun⟩
  | test hleft hmore => exact ⟨mid, tail, hquiet hleft (by decide) nofun nofun⟩
  | endTest hleft hnone => exact ⟨mid, tail, hquiet hleft (by decide) nofun nofun⟩
  | sleep hleft hnone => exact ⟨mid, tail, hquiet hleft (by decide) nofun nofun⟩
  | exit hleft =>
    have hbusy : s.run.life ≠ .ended := fun heq => nomatch heq.symm.trans hleft
    -- `Stopped` is called for all of them at once, after the transfers
    refine ⟨mid, s.stoppedLoop, ?_⟩
    exact
      { inOrder := by
          show s.calls ++ s.stoppedLoop = _
          rw [h.inOrder, h.busy hbusy, List.append_nil]
          rfl
        transfers := h.transfers
        last := .inr rfl
        busy := fun hne => absurd rfl hne
        ended := fun _ _ => rfl
        starting := fun heq => nomatch heq }

/-- A thread ends at its end, or when it could not be started. -/
theorem life_ended {maxPendingIo : ℕ} {run run' : StreamRun} {e : StreamEvent}
    (h : StreamRun.Step maxPendingIo run e run') (hended : run'.life = .ended) :
    run.life = .ended ∨ e = .exit ∨ e = .startFails ∧ run.life = .starting := by
  -- all other steps leave an ended thread ended, or lead to a life that is not
  cases h with
  | call k call hidle haccepted => exact .inl hended
  | callFails k call hidle => exact .inl hended
  | user k pc s' hpc hrun =>
    exact .inl ((StreamRun.UserStep.of_run hrun).frame.1.symm.trans hended)
  | startFails hstarting => exact .inr (.inr ⟨rfl, hstarting⟩)
  | stop hstarted => exact .inl hended
  | deliver xferSubmitList apcs hapcs halertable => exact .inl hended
  | loop hrunning hphase hgoesOn => exact .inl hended
  | flush hrunning hphase hgoesOn hunlocked => exact .inl hended
  | processQueued submit ovlList s' hrunning hphase hovl hqueued =>
    cases hqueued with
    | idle hnone => exact .inl hended
    | fails item queued ovlNext hqueued hhead hsubmit => cases hended
    | submits item queued ovlNext hqueued hhead hsubmit => exact .inl hended
  | processPending outcome ovlList s' hovl hpending =>
    rcases (StreamRun.pendingStep_spec hpending).1 with ⟨-, hlife⟩ | ⟨-, hlife⟩ <;>
      cases hlife.symm.trans hended
  | exit hleft => exact .inr (.inl rfl)
  | _ => cases hended

/-- The step calls the callbacks it is to call for as many transfers as there are. -/
def countsAll (maxPendingTransfers : ℕ) (s : CallbackStream) : StreamEvent → Bool
  | .started => !s.userCB.started || s.xferItemsCount == maxPendingTransfers
  | .exit => !(s.reached && s.userCB.stopped) || s.xferItemsCount == maxPendingTransfers
  | _ => true

/-- A step that is no part of a start, and at which no thread ends. -/
theorem callbacksPaired_of_same {n : ℕ} {mid tail mid' tail' : List StmCallbackCall}
    {t : CallbackStream} (hs : s.Shape mid tail) (hpaired : CallbacksPaired n s)
    (ht : t.Shape mid' tail') (hcb : t.userCB = s.userCB)
    (hcount : t.xferItemsCount = s.xferItemsCount) (hreached : t.reached = s.reached)
    (hlife : t.run.life = .ended → s.run.life = .ended ∨ s.reached = false) :
    CallbacksPaired n t := by
  rw [callbacksPaired_iff_of_shape ht, hcb, hcount, hreached]
  intro htrue
  obtain ⟨hstarted, hstopped⟩ := (callbacksPaired_iff_of_shape hs n).mp hpaired htrue
  refine ⟨hstarted, fun hended => ?_⟩
  rcases hlife hended with hended | hfalse
  · exact hstopped hended
  · cases hfalse.symm.trans htrue

/-- **One step** of a stream whose callbacks are paired leaves them paired exactly if it counts
all transfers. -/
theorem callbacksPaired_step_iff {n maxPendingIo : ℕ} {t : CallbackStream} {e : StreamEvent}
    {mid tail : List StmCallbackCall} (hs : s.Shape mid tail) (hpaired : CallbacksPaired n s)
    (hstep : (streamCallbacks maxPendingIo).step s e = some t) :
    CallbacksPaired n t ↔ s.countsAll n e = true := by
  obtain ⟨mid', tail', ht⟩ := hs.step hstep
  have hpaired' := (callbacksPaired_iff_of_shape hs n).mp hpaired
  obtain ⟨run, hrun, rfl⟩ := Option.map_eq_some_iff.mp hstep
  -- a thread that ends in another step has not set `STARTED`
  have hlife (hended : run.life = .ended) (hexit : e ≠ .exit) :
      s.run.life = .ended ∨ s.reached = false := by
    rcases life_ended (.of_step hrun) hended with h | h | ⟨-, h⟩
    · exact .inl h
    · exact absurd h hexit
    · exact .inr (hs.starting h).1
  cases e with
  | start =>
    refine iff_of_true ?_ rfl
    rw [callbacksPaired_iff_of_shape ht]
    exact fun hreached => nomatch hreached
  | started =>
    have hrunning : run.life = .running := by
      cases StreamRun.Step.of_step hrun with
      | started => rfl
    rw [callbacksPaired_iff_of_shape ht]
    unfold countsAll note
    dsimp only
    rw [hrunning]
    cases s.userCB.started <;> simp
  | exit =>
    have hended : run.life = .ended := by
      cases StreamRun.Step.of_step hrun with
      | exit => rfl
    rw [callbacksPaired_iff_of_shape ht]
    unfold countsAll note
    dsimp only
    rw [hended]
    cases hreached : s.reached with
    | false => simp
    | true =>
      rw [and_iff_right (hpaired' hreached).1]
      cases s.userCB.stopped <;> simp
  | _ =>
    exact iff_of_true (callbacksPaired_of_same hs hpaired ht rfl rfl rfl fun hended =>
      hlife hended nofun) rfl

/-- A stream that `StmK_Init` has made: `XferItemsCount` is as it was. -/
def start (handle : StmHandle) (users : ℕ) (userCB : StmCallback) : CallbackStream where
  run := .start handle users
  userCB := userCB
  xferItemsCount := 0

theorem shape_start (handle : StmHandle) (users : ℕ) (userCB : StmCallback) :
    (start handle users userCB).Shape [] [] where
  inOrder := rfl
  transfers _ hcall := nomatch hcall
  last := .inl rfl
  busy _ := rfl
  ended hreached := nomatch hreached
  starting heq := nomatch heq

/-- The step calls neither callback that is set, of a thread that was started. -/
def callsNone (s : CallbackStream) : StreamEvent → Bool
  | .started => !s.userCB.started
  | .exit => !(s.reached && s.userCB.stopped)
  | _ => true

theorem countsAll_eq_callsNone {n : ℕ} (hn : 0 < n) (hcount : s.xferItemsCount = 0)
    (e : StreamEvent) : s.countsAll n e = s.callsNone e := by
  have hne : (s.xferItemsCount == n) = false := by
    rw [hcount, beq_eq_false_iff_ne]
    exact Nat.ne_of_lt hn
  cases e <;> first | rfl | exact (congrArg (_ || ·) hne).trans (Bool.or_false _)

theorem xferItemsCount_step {maxPendingIo : ℕ} {t : CallbackStream} {e : StreamEvent}
    (hstep : (streamCallbacks maxPendingIo).step s e = some t) :
    t.xferItemsCount = s.xferItemsCount := by
  obtain ⟨run, -, rfl⟩ := Option.map_eq_some_iff.mp hstep
  cases e <;> rfl

end CallbackStream

open CallbackStream in
/-- **When the callbacks are paired** in a run of a stream: exactly if its thread sets `STARTED`
only without a `Started` callback, and ends after that only without a `Stopped` callback. -/
theorem streamCallbacks_paired_iff (handle : StmHandle) (users maxPendingIo : ℕ)
    {maxPendingTransfers : ℕ} (hpos : 0 < maxPendingTransfers) (userCB : StmCallback)
    (es : List StreamEvent) :
    (streamCallbacks maxPendingIo).Always (CallbacksPaired maxPendingTransfers)
        (.start handle users userCB) es ↔
      (streamCallbacks maxPendingIo).Throughout (fun s e => s.callsNone e = true)
        (.start handle users userCB) es := by
  refine Machine.always_iff_throughout
    (I := fun s => (∃ mid tail, s.Shape mid tail) ∧ s.xferItemsCount = 0 ∧
      CallbacksPaired maxPendingTransfers s) (fun _ h => h.2.2) ?_ ?_ ?_
  -- `XferItemsCount` stays zero, so a loop counts all transfers only when it is not run
  · rintro s e t ⟨⟨mid, tail, hs⟩, hcount, hpaired⟩ hcalls hstep
    rw [← countsAll_eq_callsNone hpos hcount] at hcalls
    exact ⟨hs.step hstep, (xferItemsCount_step hstep).trans hcount,
      (callbacksPaired_step_iff hs hpaired hstep).mpr hcalls⟩
  · rintro s e t ⟨⟨mid, tail, hs⟩, hcount, hpaired⟩ hstep ht
    rw [← countsAll_eq_callsNone hpos hcount]
    exact (callbacksPaired_step_iff hs hpaired hstep).mp ht
  · refine ⟨⟨[], [], shape_start handle users userCB⟩, rfl, ?_⟩
    rw [callbacksPaired_iff_of_shape (shape_start handle users userCB)]
    exact fun hreached => nomatch hreached

/-- A stream of one transfer is started and stopped, and nothing is sent. -/
def startsAndStops : List StreamEvent :=
  [.start, .started, .stop, .loop, .leave, .synchronize, .test, .exit]

theorem streamCallbacks_paired_noCallbacks :
    (streamCallbacks 1).Always (CallbacksPaired 1)
      (.start (stmKInit true false false 4 1) 0 ⟨false, false⟩) startsAndStops :=
  (streamCallbacks_paired_iff (stmKInit true false false 4 1) 0 1 Nat.one_pos ⟨false, false⟩
    startsAndStops).mpr (by decide +kernel)

/-- Both callbacks are set, and neither is called in a whole cycle. -/
theorem not_callbacksPaired_startsAndStops :
    ¬(streamCallbacks 1).Always (CallbacksPaired 1)
      (.start (stmKInit true false false 4 1) 0 ⟨true, true⟩) startsAndStops := by
  intro h
  have hexec : ∃ s, (streamCallbacks 1).exec
      (.start (stmKInit true false false 4 1) 0 ⟨true, true⟩) startsAndStops = some s ∧
        s.reached = true ∧ s.userCB.started = true ∧ s.calls = [] :=
    ⟨_, rfl, rfl, rfl, rfl⟩
  obtain ⟨s, hrun, hreached, hset, hcalls⟩ := hexec
  -- `Started` should have been called for the one transfer
  have hcount := ((h.exec hrun).started hreached hset).1 0
  rw [hcalls] at hcount
  cases hcount

end LibusbK
