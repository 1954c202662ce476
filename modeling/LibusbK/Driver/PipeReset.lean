import LibusbK.Driver.PipeInvariant
import LibusbK.Driver.PipeQueue

/-!
# Pipe resets on stall and on resume

A completion routine marks a queue context when a transfer failed under
`AutoClearStall`, `Device_OnD0Exit` marks the queue of every pipe with
`ResetPipeOnResume`, and the routines that submit a transfer reset a marked pipe
first.  Which of them look at the marks, and which of them set them, differs from
routine to routine.  The marks are gone when a pipe that is stopped and started, with its
queue dirty from a change of its policies, gets a new queue.

## Main definitions

* `QueueContext.marks` — the two marks, as the reasons for a reset they stand for.
* `deviceOnD0Exit`, `queueOnResume` — `Device_OnD0Exit` and `Queue_OnResume`.
* `pipeTraffic` — the transfers on one pipe, with the reasons there are for a reset, and
  the changes of its policies and of its queue in between.

## Main results

* `resetWhenDue_of_throughout` — transfers find the pipe reset when it has to be, and
  only then, as long as no raw transfer is sent while a reset is due, no failure is
  left unmarked, and the queue is not replaced while it is marked.
* `PipeTraffic.Represents` and its lemmas — the steps of the pipe are what the operations
  on the device do to it.
-/

namespace LibusbK

/-! ### Reasons and marks -/

/-- What has happened on a pipe, since it was last reset, that calls for a reset. -/
structure ResetReasons where
  /-- A transfer failed, and `AutoClearStall` was on for it. -/
  stall : Bool := false
  /-- The device left D0, and `ResetPipeOnResume` was on. -/
  resume : Bool := false
  deriving DecidableEq, Repr

/-- A request with these policies has the pipe reset first. -/
def ResetReasons.due (r : ResetReasons) (policies : PipePolicies) : Bool :=
  (r.resume && policies.resetPipeOnResume) || (r.stall && policies.autoClearStall)

/-- `ResetPipeForStall` and `ResetPipeForResume`. -/
def QueueContext.marks (qc : QueueContext) : ResetReasons :=
  ⟨qc.resetPipeForStall, qc.resetPipeForResume⟩

/-- The status of a transfer whose failure calls for a reset. -/
def stalls (status : NTSTATUS) (policies : PipePolicies) : Bool :=
  !ntSuccess status && policies.autoClearStall &&
    (status != STATUS_DEVICE_NOT_CONNECTED && status != STATUS_CANCELLED)

/-- The reasons after a transfer has ended with `status`. -/
def ResetReasons.ended (r : ResetReasons) (status : NTSTATUS) (policies : PipePolicies) :
    ResetReasons :=
  if stalls status policies then { r with stall := true } else r

/-- The effect is a reset, successful or not. -/
def Effect.isReset : Effect → Bool
  | .resetPipe _ => true
  | _ => false

/-- The effect is a successful reset. -/
def Effect.resets : Effect → Bool
  | .resetPipe status => ntSuccess status
  | _ => false

/-- A transfer is started before any reset is tried. -/
def sendsUnreset : List Effect → Bool
  | [] => false
  | .send _ _ :: _ => true
  | .resetPipe _ :: _ => false
  | _ :: es => sendsUnreset es

/-! ### D0 exit and resume -/

/-- The pipe is one whose queue `Device_OnD0Exit` looks at: it is valid, has its pipe
and its queue, and is not the default pipe. -/
def PipeContext.serves (pc : PipeContext) : Bool :=
  pc.isValid && pc.pipe.isSome && pc.queue.isSome && pc.pipeInformation.hasNumber

/-- What `Device_OnD0Exit` does to the queue context of a pipe. -/
def markForResume (pc : PipeContext) (qc : QueueContext) : QueueContext :=
  if pc.serves && PolicyFlag.resetPipeOnResume.isSet pc.policies then
    { qc with resetPipeForResume := true }
  else qc

/-- `Device_OnD0Exit`, for the pipe in slot `k`. -/
def markSlot (s : DeviceState) (k : Fin 32) : DeviceState :=
  s.modifyQueue (s.pipes k).queue (markForResume (s.pipes k))

/-- `Device_OnD0Exit`: the slots from 1 on. -/
def deviceOnD0Exit (s : DeviceState) : DeviceState :=
  ((List.finRange 32).drop 1).foldl markSlot s

/-- `Queue_OnResume`, for a request that was acknowledged when the queue stopped. -/
def queueOnResume (fw : Framework) (rc : RequestContext) (qc : QueueContext) :
    QueueContext × List Effect :=
  if !fw.queueContext || !fw.requestContext then (qc, []) else handlePipeResetScenarios fw rc qc

theorem markForResume_markForResume (pc : PipeContext) (qc : QueueContext) :
    markForResume pc (markForResume pc qc) = markForResume pc qc := by
  unfold markForResume
  split_ifs <;> rfl

@[simp] theorem pipes_markSlot (s : DeviceState) (k : Fin 32) : (markSlot s k).pipes = s.pipes := by
  unfold markSlot DeviceState.modifyQueue
  split <;> rfl

@[simp] theorem pipes_foldl_markSlot (ks : List (Fin 32)) (s : DeviceState) :
    (ks.foldl markSlot s).pipes = s.pipes := by
  induction ks generalizing s with
  | nil => rfl
  | cons k ks ih => rw [List.foldl_cons, ih, pipes_markSlot]

/-- The loop of `Device_OnD0Exit` reaches every slot but the first. -/
theorem mem_drop_finRange {k : Fin 32} (hk : k ≠ 0) : k ∈ (List.finRange 32).drop 1 := by
  have hall := List.mem_finRange k
  rw [← List.take_append_drop 1 (List.finRange 32)] at hall
  exact (List.mem_append.mp hall).resolve_left fun hzero => hk (List.mem_singleton.mp hzero)

/-- A queue that is not the pipe's is not marked. -/
theorem queue_markSlot_of_ne {s : DeviceState} {k : Fin 32} {q : ℕ}
    (h : (s.pipes k).queue ≠ some q) : (markSlot s k).queues.get q = s.queues.get q := by
  unfold markSlot DeviceState.modifyQueue
  split
  · rfl
  · next q' hq' =>
    refine Objects.get_modify_of_ne _ _ fun heq => h ?_
    rw [hq', heq]

theorem queue_markSlot_self {s : DeviceState} {k : Fin 32} {q : ℕ} {obj : QueueObject}
    (hq : (s.pipes k).queue = some q) (hobj : s.queues.get q = some obj) :
    (markSlot s k).queues.get q =
      some { obj with context := markForResume (s.pipes k) obj.context } := by
  unfold markSlot DeviceState.modifyQueue
  rw [hq]
  dsimp only
  rw [DeviceState.queues_withQueues, Objects.get_modify_self, hobj]
  rfl

section
variable {s : DeviceState} {k : Fin 32} {q : ℕ}

/-- The loop leaves the queue of a pipe alone, up to the mark of that pipe. -/
theorem queue_foldl_markSlot (hq : (s.pipes k).queue = some q)
    (hown : ∀ k', k' ≠ k → (s.pipes k').queue ≠ some q) (ks : List (Fin 32)) :
    ∀ {s' : DeviceState} {obj : QueueObject}, s'.pipes = s.pipes → s'.queues.get q = some obj →
      obj.context = markForResume (s.pipes k) obj.context ∨ k ∉ ks →
      (ks.foldl markSlot s').queues.get q = some obj := by
  induction ks with
  | nil => exact fun _ hobj _ => hobj
  | cons k' ks ih =>
    intro s' obj hpipes hobj hmarked
    rw [List.foldl_cons]
    refine ih (by rw [pipes_markSlot, hpipes]) ?_
      (hmarked.imp_right fun h => mt (List.mem_cons_of_mem _) h)
    by_cases heq : k' = k
    · subst heq
      have hself : obj.context = markForResume (s.pipes k') obj.context :=
        hmarked.resolve_right fun h => h (List.mem_cons_self ..)
      rw [queue_markSlot_self (hpipes ▸ hq) hobj, hpipes, ← hself]
    · rw [queue_markSlot_of_ne (by rw [hpipes]; exact hown k' heq), hobj]

/-- **`Device_OnD0Exit` marks the queue of every pipe that has a queue of its own**, as
`markForResume` says for that pipe. -/
theorem queue_deviceOnD0Exit {obj : QueueObject} (hk : k ≠ 0)
    (hq : (s.pipes k).queue = some q) (hobj : s.queues.get q = some obj)
    (hown : ∀ k', k' ≠ k → (s.pipes k').queue ≠ some q) :
    (deviceOnD0Exit s).queues.get q =
      some { obj with context := markForResume (s.pipes k) obj.context } := by
  obtain ⟨before, after, hsplit, hbefore⟩ := List.eq_append_cons_of_mem (mem_drop_finRange hk)
  unfold deviceOnD0Exit
  rw [hsplit, List.foldl_append, List.foldl_cons]
  have hreached := queue_foldl_markSlot hq hown before rfl hobj (.inr hbefore)
  refine queue_foldl_markSlot hq hown after (by rw [pipes_markSlot, pipes_foldl_markSlot]) ?_
    (.inl (markForResume_markForResume _ _).symm)
  rw [queue_markSlot_self (by rw [pipes_foldl_markSlot]; exact hq) hreached, pipes_foldl_markSlot]

end

/-! ### The transfers on a pipe -/

/-- The traffic on a pipe.  `reasons`, `skipped` and `unasked` are no part of the
driver: they are what an observer of the pipe notes. -/
structure PipeTraffic where
  pipe : PipeContext
  /-- The context of its queue, while it has one. -/
  qc : QueueContext
  /-- The requests the I/O target has, and the routine it calls for each. -/
  outstanding : List (RequestContext × Routine) := []
  reasons : ResetReasons := {}
  /-- A transfer was started with a reset due, and none was tried before it. -/
  skipped : Bool := false
  /-- The pipe was reset with no reset due. -/
  unasked : Bool := false

/-- A transfer that is sent. -/
def Effect.sent (rc : RequestContext) : Effect → Option (RequestContext × Routine)
  | .send routine _ => some (rc, routine)
  | _ => none

namespace PipeTraffic

variable (s : PipeTraffic)

/-- What was done to the pipe for a request with the policies `policies` is noted. -/
def note (policies : PipePolicies) (qc : QueueContext) (es : List Effect) : PipeTraffic :=
  { s with
    qc := qc
    reasons := if es.any Effect.resets then {} else s.reasons
    unasked := s.unasked || (es.any Effect.isReset && !s.reasons.due policies) }

/-- A request was delivered and served. -/
def delivered (rc : RequestContext) (served : Served) : PipeTraffic :=
  { s.note rc.policies served.queue served.effects with
    outstanding := s.outstanding ++ served.effects.filterMap (Effect.sent rc)
    skipped := s.skipped || (s.reasons.due rc.policies && sendsUnreset served.effects) }

/-- The I/O target ended the stage of the request at `i` with `status`.  A stage that
follows belongs to the same transfer. -/
def finished (i : ℕ) (rc : RequestContext) (status : NTSTATUS) (served : Served) : PipeTraffic :=
  { s.note rc.policies served.queue served.effects with
    outstanding := s.outstanding.eraseIdx i ++ served.effects.filterMap (Effect.sent rc)
    reasons := (s.note rc.policies served.queue served.effects).reasons.ended status rc.policies }

/-- The device leaves D0. -/
def leftD0 : PipeTraffic :=
  { s with
    qc := markForResume s.pipe s.qc
    reasons :=
      if PolicyFlag.resetPipeOnResume.isSet s.pipe.policies then { s.reasons with resume := true }
      else s.reasons }

/-- `Policy_SetPipe` for the pipe, as `case LIBUSB_IOCTL_SET_PIPE_POLICY` calls it. -/
def policySet (isHighSpeed : Bool) (policyType : UInt32) (value : ValueBytes)
    (valueLength : UInt32) : PipeTraffic :=
  if !s.pipe.isValid || s.pipe.queue.isNone then s
  else { s with pipe := (setPolicy isHighSpeed s.pipe policyType value valueLength).done }

/-- `Pipe_Stop`. -/
def stopped : PipeTraffic :=
  if s.pipe.isValid then { s with pipe := { s.pipe with isValid := false } } else s

/-- `Pipe_Start`; `queueNew` is the handle of the queue it creates, if it creates one. -/
def started (startIoTarget : Bool) (a : StartAnswers) (queueNew : ℕ) : PipeTraffic :=
  if s.pipe.isValid || !s.pipe.canStart then s
  else if s.pipe.needsQueue then
    let pc := { s.pipe with isQueueDirty := false }
    if a.creates pc.pipeInformation then
      { s with
        pipe :=
          { pc with
            queue := some queueNew
            isValid := a.starts pc.pipeInformation startIoTarget }
        qc := newQueueContext pc }
    else { s with pipe := { pc with queue := none, isValid := false } }
  else
    { s with
      pipe := { s.pipe with isValid := a.starts s.pipe.pipeInformation startIoTarget } }

end PipeTraffic

/-- What happens on a pipe. -/
inductive TrafficEvent
  /-- A request is delivered to a handler of the queue. -/
  | deliver (h : Handler) (d : Delivery)
  /-- The I/O target is done with the request at `i`. -/
  | finish (i : ℕ) (c : TargetCompletion)
  /-- A policy of the pipe is set. -/
  | setPolicy (isHighSpeed : Bool) (policyType : UInt32) (value : ValueBytes)
    (valueLength : UInt32)
  /-- The pipe is stopped, as by `Pipe_RefreshQueue`, a flush, or a reset of the device. -/
  | stop
  /-- The pipe is started. -/
  | start (startIoTarget : Bool) (a : StartAnswers) (queueNew : ℕ)
  /-- The device leaves D0. -/
  | d0Exit
  /-- The queue resumes with the request at `i` acknowledged. -/
  | resume (i : ℕ) (fw : Framework)

/-- The default queue forwards the request to the queue of a transfer pipe: control
transfers go to the default pipe. -/
def Handler.isTransfer : Handler → Bool
  | .onIoControl ioControlCode => !controlCodes.contains ioControlCode
  | .onRead => true
  | .onWrite => true

/-- The transfers on a pipe, in the order they happen.  A queue presents requests while the
pipe is valid, and its purge waits for all that are outstanding. -/
def pipeTraffic : Machine PipeTraffic TrafficEvent where
  step s
    | .deliver h d =>
      if h.isTransfer && s.pipe.isValid then
        (h.serve { d with qc := s.qc }).map (s.delivered d.rc)
      else none
    | .finish i c =>
      s.outstanding[i]?.map fun r =>
        s.finished i r.1 c.status (r.2.complete r.1 { c with qc := s.qc })
    | .setPolicy isHighSpeed policyType value valueLength =>
      some (s.policySet isHighSpeed policyType value valueLength)
    | .stop => if s.outstanding.isEmpty then some s.stopped else none
    | .start startIoTarget a queueNew => some (s.started startIoTarget a queueNew)
    | .d0Exit => some s.leftD0
    | .resume i fw =>
      s.outstanding[i]?.map fun r =>
        let resumed := queueOnResume fw r.1 s.qc
        s.note r.1.policies resumed.1 resumed.2

/-- Whenever a transfer was started with a reset due, a reset had been tried, and the
pipe was reset only when a reset was due. -/
def ResetWhenDue (s : PipeTraffic) : Prop := s.skipped = false ∧ s.unasked = false

/-! ### What the routines do to the marks -/

/-- An invocation that ends with the marks `m` and resets nothing. -/
structure Served.KeepsMarks (s : Served) (m : ResetReasons) : Prop where
  marks : s.queue.marks = m
  quiet : s.effects.any Effect.isReset = false

/-- An invocation that starts no transfer. -/
def Served.Sendless (s : Served) : Prop := s.effects.any Effect.isSend = false

section
variable (fw : Framework) (dc : DeviceContext) (rc : RequestContext) (qc : QueueContext)

theorem keepsMarks_exitWith (status : NTSTATUS) : (exitWith qc status).KeepsMarks qc.marks :=
  ⟨rfl, rfl⟩

theorem keepsMarks_complete (status : NTSTATUS) (n : ℕ) :
    (completeWithInformation qc status n).KeepsMarks qc.marks :=
  ⟨rfl, rfl⟩

theorem sendless_complete (status : NTSTATUS) (n : ℕ) :
    (completeWithInformation qc status n).Sendless :=
  rfl

theorem keepsMarks_submitStage (routine : Routine) (memory : StageMemory) :
    (submitStage fw rc qc routine memory).KeepsMarks qc.marks := by
  unfold submitStage
  split
  · exact keepsMarks_exitWith _ _
  · exact ⟨rfl, rfl⟩

theorem keepsMarks_submitNextRead : (submitNextRead fw rc qc).KeepsMarks qc.marks := by
  unfold submitNextRead
  dsimp only
  split_ifs
  · exact keepsMarks_exitWith _ _
  · exact keepsMarks_submitStage fw rc _ _ _
  · exact keepsMarks_submitStage fw rc _ _ _

theorem keepsMarks_submitNextWrite : (submitNextWrite fw rc qc).KeepsMarks qc.marks :=
  keepsMarks_submitStage fw rc _ _ _

theorem keepsMarks_exitTransferred (status : NTSTATUS) :
    (exitTransferred rc qc status).KeepsMarks qc.marks := by
  unfold exitTransferred
  split_ifs
  · exact ⟨rfl, rfl⟩
  · exact keepsMarks_exitWith _ _

theorem keepsMarks_readBulkFromUserMem : (readBulkFromUserMem fw rc qc).KeepsMarks qc.marks := by
  unfold readBulkFromUserMem copyPartialReadToUserMemory
  dsimp only
  split_ifs
  · exact keepsMarks_exitWith _ _
  · dsimp only
    split_ifs
    · exact keepsMarks_exitTransferred rc _ _
    · exact keepsMarks_submitNextRead fw rc _
  · exact keepsMarks_submitNextRead fw rc _

theorem keepsMarks_readBulkAfterReset : (readBulkAfterReset fw rc qc).KeepsMarks qc.marks := by
  unfold readBulkAfterReset
  split_ifs
  iterate 3 exact keepsMarks_exitWith _ _
  exact keepsMarks_readBulkFromUserMem fw rc _

theorem keepsMarks_writeBulkAfterReset : (writeBulkAfterReset fw rc qc).KeepsMarks qc.marks := by
  unfold writeBulkAfterReset
  dsimp only
  split_ifs
  · exact keepsMarks_exitWith _ _
  all_goals exact keepsMarks_submitNextWrite fw rc _

theorem keepsMarks_submitRaw (routine : Routine) (memory : StageMemory) :
    (submitRaw fw rc qc routine memory).KeepsMarks qc.marks := by
  unfold submitRaw
  split
  · exact keepsMarks_complete _ _ _
  · exact ⟨rfl, rfl⟩

theorem sendless_submitRaw (routine : Routine) (memory : StageMemory)
    (h : submissionFails fw rc = true) : (submitRaw fw rc qc routine memory).Sendless := by
  obtain ⟨status, herror⟩ := submissionFails_eq_true.mp h
  unfold submitRaw
  rw [herror]
  exact sendless_complete _ _ _

theorem marks_isoSetStartFrame (isHS : Bool) (urb : IsoUrb) :
    (isoSetStartFrame fw isHS rc urb qc).1.marks = qc.marks := by
  unfold isoSetStartFrame isoCheckInitNextFrameNumber isoAssignNextFrameNumber
  dsimp only
  split_ifs <;> rfl

theorem keepsMarks_submitUrb (routine : Routine) (urb : IsoUrb) :
    (submitUrb fw qc routine urb).KeepsMarks qc.marks := by
  unfold submitUrb
  split_ifs
  · exact keepsMarks_complete _ _ _
  · exact ⟨rfl, rfl⟩
  · exact keepsMarks_complete _ _ _

end

/-! ### Requests that are served -/

/-- What an invocation for a request with the policies `policies` does about a pipe with
the reasons `m`: it resets the pipe only if a reset is due, does so before it starts a
transfer unless `skips`, and its marks say what reasons are left. -/
structure Served.Respects (s : Served) (policies : PipePolicies) (m : ResetReasons)
    (skips : Prop) : Prop where
  marks : s.queue.marks = if s.effects.any Effect.resets then {} else m
  asked : s.effects.any Effect.isReset = true → m.due policies = true
  first : m.due policies = true → sendsUnreset s.effects = true → skips

theorem Effect.isReset_of_resets {e : Effect} (h : e.resets = true) : e.isReset = true := by
  cases e <;> first | rfl | cases h

theorem any_resets_eq_false {es : List Effect} (h : es.any Effect.isReset = false) :
    es.any Effect.resets = false := by
  rw [List.any_eq_false] at h ⊢
  exact fun e he hresets => h e he (Effect.isReset_of_resets hresets)

theorem sendsUnreset_eq_false {es : List Effect} (h : es.any Effect.isSend = false) :
    sendsUnreset es = false := by
  induction es with
  | nil => rfl
  | cons e es ih =>
    rw [List.any_cons, Bool.or_eq_false_iff] at h
    cases e with
    | send routine memory => cases h.1
    | resetPipe status => rfl
    | discard bytes => exact ih h.2
    | complete status n => exact ih h.2

/-- An invocation that resets nothing respects the marks if it may skip the reset. -/
theorem Served.KeepsMarks.respects {s : Served} {m : ResetReasons} (h : s.KeepsMarks m)
    (policies : PipePolicies) {skips : Prop}
    (hsend : m.due policies = true → sendsUnreset s.effects = true → skips) :
    s.Respects policies m skips where
  marks := by
    rw [any_resets_eq_false h.quiet]
    exact h.marks
  asked hreset := by
    rw [h.quiet] at hreset
    cases hreset
  first := hsend

theorem Served.KeepsMarks.respects_of_sendless {s : Served} {m : ResetReasons}
    (h : s.KeepsMarks m) (policies : PipePolicies) (hsend : s.Sendless) {skips : Prop} :
    s.Respects policies m skips :=
  h.respects policies fun _ hsends => by
    rw [sendsUnreset_eq_false hsend] at hsends
    cases hsends

section
variable (fw : Framework) (dc : DeviceContext) (rc : RequestContext) (qc : QueueContext)

theorem due_marks : qc.marks.due rc.policies =
    ((qc.resetPipeForResume && rc.policies.resetPipeOnResume) ||
      (qc.resetPipeForStall && rc.policies.autoClearStall)) :=
  rfl

/-- A pipe that is not to be reset is left alone. -/
theorem handlePipeResetScenarios_of_not_due (h : qc.marks.due rc.policies = false) :
    handlePipeResetScenarios fw rc qc = (qc, []) := by
  rw [due_marks] at h
  unfold handlePipeResetScenarios
  rw [if_neg (by rw [h]; exact Bool.false_ne_true)]

/-- A pipe that is to be reset is reset, and loses its marks if that succeeds. -/
theorem handlePipeResetScenarios_of_due (h : qc.marks.due rc.policies = true) :
    (handlePipeResetScenarios fw rc qc).2 = [.resetPipe fw.resetPipe] ∧
      (handlePipeResetScenarios fw rc qc).1.marks =
        if ntSuccess fw.resetPipe then {} else qc.marks := by
  rw [due_marks] at h
  unfold handlePipeResetScenarios
  rw [if_pos h]
  split_ifs
  · exact ⟨rfl, rfl⟩
  · exact ⟨rfl, rfl⟩

/-- What follows a reset as it should be respects the marks. -/
theorem respects_after_reset {s : Served}
    (h : s.KeepsMarks (handlePipeResetScenarios fw rc qc).1.marks) {skips : Prop} :
    (s.after (handlePipeResetScenarios fw rc qc).2).Respects rc.policies qc.marks skips := by
  cases hdue : qc.marks.due rc.policies with
  | false =>
    rw [handlePipeResetScenarios_of_not_due fw rc qc hdue] at h ⊢
    exact Served.KeepsMarks.respects (s := s) h _ fun htrue =>
      absurd (hdue.symm.trans htrue) (by decide)
  | true =>
    obtain ⟨heffects, hmarks⟩ := handlePipeResetScenarios_of_due fw rc qc hdue
    rw [hmarks] at h
    refine ⟨?_, fun _ => hdue, fun _ hsends => ?_⟩
    · rw [Served.queue_after, Served.effects_after, heffects, List.singleton_append,
        List.any_cons, any_resets_eq_false h.quiet, Bool.or_false]
      exact h.marks
    · rw [Served.effects_after, heffects] at hsends
      cases hsends

end

section
variable (fw : Framework) (dc : DeviceContext) (rc : RequestContext) (qc : QueueContext)

/-! ### The routines that submit a transfer -/

theorem respects_complete (status : NTSTATUS) (n : ℕ) (policies : PipePolicies) {skips : Prop} :
    (completeWithInformation qc status n).Respects policies qc.marks skips :=
  (keepsMarks_complete qc status n).respects_of_sendless _ rfl

theorem respects_exitWith (status : NTSTATUS) (policies : PipePolicies) {skips : Prop} :
    (exitWith qc status).Respects policies qc.marks skips :=
  (keepsMarks_exitWith qc status).respects_of_sendless _ rfl

theorem respects_xferReadBulk {skips : Prop} :
    (xferReadBulk fw rc qc).Respects rc.policies qc.marks skips := by
  unfold xferReadBulk
  dsimp only
  split_ifs
  iterate 2 exact respects_complete _ _ _ _
  iterate 2 exact respects_exitWith (qc.startXfer rc.length) _ _
  exact respects_after_reset fw rc (qc.startXfer rc.length) (keepsMarks_readBulkAfterReset fw rc _)

theorem respects_xferWriteBulk {skips : Prop} :
    (xferWriteBulk fw rc qc).Respects rc.policies qc.marks skips := by
  unfold xferWriteBulk
  dsimp only
  split_ifs
  iterate 2 exact respects_complete _ _ _ _
  · exact respects_exitWith (qc.startXfer rc.length) _ _
  · exact respects_after_reset fw rc (qc.startXfer rc.length)
      (keepsMarks_writeBulkAfterReset fw rc _)

/-- The request of a raw read can be submitted. -/
def RawReadGoesOut : Prop :=
  qc.info.maximumPacketSize ≠ 0 ∧ rc.length % qc.info.maximumPacketSize = 0 ∧
    ntSuccess fw.transferMemory = true ∧ submissionFails fw rc = false

/-- The request of a raw write can be submitted. -/
def RawWriteGoesOut : Prop :=
  (qc.info.maximumPacketSize ≠ 0 ∨ rc.length = 0) ∧
    (rc.length = 0 ∨ ntSuccess fw.transferMemory = true) ∧ submissionFails fw rc = false

/-- A raw read never resets the pipe. -/
theorem respects_xferReadBulkRaw :
    (xferReadBulkRaw fw rc qc).Respects rc.policies qc.marks
      (RawReadGoesOut fw rc qc) := by
  unfold xferReadBulkRaw
  dsimp only
  split_ifs with hvalid hqueue hsize hlength hmemory
  iterate 5 exact respects_complete _ _ _ _
  refine (keepsMarks_submitRaw fw rc qc _ _).respects _ fun _ hsends => ⟨hsize, ?_, ?_, ?_⟩
  · omega
  · simpa using hmemory
  · rw [Bool.eq_false_iff]
    intro hfails
    rw [sendsUnreset_eq_false (sendless_submitRaw fw rc qc _ _ hfails)] at hsends
    cases hsends

/-- A raw write never resets the pipe. -/
theorem respects_xferWriteBulkRaw :
    (xferWriteBulkRaw fw rc qc).Respects rc.policies qc.marks
      (RawWriteGoesOut fw rc qc) := by
  unfold xferWriteBulkRaw
  dsimp only
  split_ifs with hvalid hqueue hsize hmemory
  iterate 4 exact respects_complete _ _ _ _
  all_goals
    refine (keepsMarks_submitRaw fw rc qc _ _).respects _ fun _ hsends => ⟨?_, ?_, ?_⟩
    · by_contra hnone
      exact hsize ⟨by omega, by omega⟩
    · by_contra hnone
      rw [not_or, Bool.not_eq_true] at hnone
      exact hmemory ⟨hnone.1, by rw [hnone.2]; rfl⟩
    · rw [Bool.eq_false_iff]
      intro hfails
      rw [sendsUnreset_eq_false (sendless_submitRaw fw rc qc _ _ hfails)] at hsends
      cases hsends

theorem respects_submitUrb (isHS : Bool) (routine : Routine) (urb urb' : IsoUrb) {skips : Prop} :
    ((submitUrb fw
        (isoSetStartFrame fw isHS rc urb (handlePipeResetScenarios fw rc qc).1).1
        routine urb').after
      (handlePipeResetScenarios fw rc qc).2).Respects rc.policies qc.marks skips := by
  apply respects_after_reset
  rw [← marks_isoSetStartFrame fw rc (handlePipeResetScenarios fw rc qc).1 isHS urb]
  exact keepsMarks_submitUrb fw _ _ _

theorem respects_frameAndSubmit (routine : Routine) (urb : IsoUrb) {skips : Prop} :
    (frameAndSubmit fw dc rc qc routine urb).Respects rc.policies qc.marks skips :=
  respects_submitUrb fw rc qc dc.isHighSpeed routine urb _

theorem respects_xferIsoRead {skips : Prop} :
    (xferIsoRead fw dc rc qc).Respects rc.policies qc.marks skips := by
  rw [xferIsoRead_eq]
  cases isoReadUrb fw dc rc qc with
  | error status => exact respects_complete _ _ _ _
  | ok urb => exact respects_frameAndSubmit fw dc rc qc _ urb

theorem respects_xferIsoWrite {s : Served} (h : xferIsoWrite fw dc rc qc = some s)
    {skips : Prop} : s.Respects rc.policies qc.marks skips := by
  rw [xferIsoWrite_eq] at h
  obtain ⟨urb, -, rfl⟩ := Option.map_eq_some_iff.mp h
  cases urb with
  | error status => exact respects_complete _ _ _ _
  | ok urb => exact respects_frameAndSubmit fw dc rc qc _ urb

theorem respects_xferIsoEx (reads : IsoContextReads) {skips : Prop} :
    (xferIsoEx fw dc rc qc reads).1.Respects rc.policies qc.marks skips := by
  unfold xferIsoEx
  dsimp only
  split
  · exact respects_complete _ _ _ _
  · split
    · exact respects_after_reset fw rc qc (keepsMarks_complete _ _ _)
    · cases reads.hasStartFrame with
      | false => exact respects_submitUrb fw rc qc _ _ _ _
      | true => exact respects_after_reset fw rc qc (keepsMarks_submitUrb fw _ _ _)

end

/-! ### The handlers -/

theorem Served.Respects.mono {s : Served} {policies : PipePolicies} {m : ResetReasons}
    {skips skips' : Prop} (h : s.Respects policies m skips) (himp : skips → skips') :
    s.Respects policies m skips' :=
  ⟨h.marks, h.asked, fun hdue hsends => himp (h.first hdue hsends)⟩

/-- A completion after everything else changes nothing here. -/
theorem Served.Respects.complete {s : Served} {policies : PipePolicies} {m : ResetReasons}
    {skips : Prop} (h : s.Respects policies m skips) (status : NTSTATUS) (n : ℕ) :
    Served.Respects { s with effects := s.effects ++ [.complete status n] } policies m skips := by
  have hsends : ∀ es, sendsUnreset (es ++ [.complete status n]) = sendsUnreset es := by
    intro es
    induction es with
    | nil => rfl
    | cons e es ih => cases e <;> first | rfl | exact ih
  refine ⟨?_, fun hreset => h.asked ?_, fun hdue hfirst => h.first hdue ?_⟩
  · rw [h.marks, List.any_append]
    simp [Effect.resets]
  · rw [List.any_append] at hreset
    simpa [Effect.isReset] using hreset
  · rwa [hsends] at hfirst

/-- The request is one for data that is handed to a raw routine. -/
def Handler.asksForData (h : Handler) (d : Delivery) : Prop :=
  match h with
  | .onIoControl ioControlCode => ioControlCode ∈ transferCodes
  | .onRead => d.qc.pipeHandle = true ∧ d.isIn = true
  | .onWrite => d.qc.pipeHandle = true ∧ d.isIn = false

/-- The request is a raw transfer on a bulk or interrupt pipe, and can be submitted. -/
def Handler.SendsRaw (h : Handler) (d : Delivery) : Prop :=
  d.Valid ∧ h.asksForData d ∧ d.isBulk = true ∧ d.rc.policies.rawIO = true ∧
    if d.isIn then RawReadGoesOut d.fw d.rc d.qc else RawWriteGoesOut d.fw d.rc d.qc

theorem Delivery.respects_readBulk (d : Delivery) :
    d.readBulk.Respects d.rc.policies d.qc.marks
      (d.rc.policies.rawIO = true ∧ RawReadGoesOut d.fw d.rc d.qc) := by
  unfold Delivery.readBulk
  split_ifs with hraw
  · exact (respects_xferReadBulkRaw _ _ _).mono fun hout => ⟨hraw, hout⟩
  · exact respects_xferReadBulk _ _ _

theorem Delivery.respects_writeBulk (d : Delivery) :
    d.writeBulk.Respects d.rc.policies d.qc.marks
      (d.rc.policies.rawIO = true ∧ RawWriteGoesOut d.fw d.rc d.qc) := by
  unfold Delivery.writeBulk
  split_ifs with hraw
  · exact (respects_xferWriteBulkRaw _ _ _).mono fun hout => ⟨hraw, hout⟩
  · exact respects_xferWriteBulk _ _ _

theorem Delivery.respects_isoEx (d : Delivery) {skips : Prop} :
    d.isoEx.Respects d.rc.policies d.qc.marks skips := by
  unfold Delivery.isoEx
  split_ifs
  · exact respects_xferIsoEx _ _ _ _ _
  · exact respects_complete _ _ _ _

theorem Delivery.valid_of_not {d : Delivery}
    (hstatus : ¬(!ntSuccess (validateRequestContext d.fw d.rc)) = true)
    (hqueue : ¬(!d.fw.queueContext) = true) : d.Valid :=
  ⟨ntSuccess_validateRequestContext.mp (by simpa using hstatus), by simpa using hqueue⟩

theorem respects_pipeQueueOnIoControl {d : Delivery} {ioControlCode : UInt32} {served : Served}
    (h : pipeQueueOnIoControl d ioControlCode = some served)
    (hcode : ioControlCode ∉ controlCodes) :
    served.Respects d.rc.policies d.qc.marks
      (Handler.SendsRaw (.onIoControl ioControlCode) d) := by
  unfold pipeQueueOnIoControl at h
  dsimp only at h
  split at h
  · cases h
    exact respects_complete _ _ _ _
  next hstatus =>
  split at h
  · cases h
    exact respects_complete _ _ _ _
  next hqueue =>
  have hvalid : d.Valid := Delivery.valid_of_not hstatus hqueue
  split at h
  · next hplain =>
    split at h
    · split at h
      · cases h
        exact respects_xferIsoRead _ _ _ _
      · exact respects_xferIsoWrite _ _ _ _ h
    · split at h
      · next hbulk =>
        cases h
        split
        · next hin =>
          exact d.respects_readBulk.mono fun hraw =>
            ⟨hvalid, hplain, hbulk, hraw.1, by rw [if_pos hin]; exact hraw.2⟩
        · next hout =>
          exact d.respects_writeBulk.mono fun hraw =>
            ⟨hvalid, hplain, hbulk, hraw.1, by rw [if_neg hout]; exact hraw.2⟩
      · cases h
        exact d.respects_isoEx
  · split at h
    · cases h
      exact d.respects_isoEx
    · cases h
      exact respects_complete _ _ _ _

theorem respects_pipeQueueOnRead (d : Delivery) :
    (pipeQueueOnRead d).Respects d.rc.policies d.qc.marks (Handler.onRead.SendsRaw d) := by
  unfold pipeQueueOnRead
  dsimp only
  split_ifs with hstatus hqueue hpipe hiso hbulk
  iterate 3 exact respects_complete _ _ _ _
  · exact respects_xferIsoRead _ _ _ _
  · have hvalid : d.Valid := Delivery.valid_of_not hstatus hqueue
    exact d.respects_readBulk.mono fun hraw =>
      ⟨hvalid, ⟨by simpa using hpipe, hbulk.2⟩, hbulk.1, hraw.1,
        by rw [if_pos hbulk.2]; exact hraw.2⟩
  · exact respects_complete _ _ _ _

theorem respects_pipeQueueOnWrite {d : Delivery} {served : Served}
    (h : pipeQueueOnWrite d = some served) :
    served.Respects d.rc.policies d.qc.marks (Handler.onWrite.SendsRaw d) := by
  unfold pipeQueueOnWrite at h
  dsimp only at h
  split at h
  · cases h
    exact respects_complete _ _ _ _
  next hstatus =>
  split at h
  · cases h
    exact respects_complete _ _ _ _
  next hqueue =>
  split at h
  · cases h
    exact respects_complete _ _ _ _
  next hpipe =>
  have hvalid : d.Valid := Delivery.valid_of_not hstatus hqueue
  split at h
  · exact respects_xferIsoWrite _ _ _ _ h
  · split at h
    · next hbulk =>
      cases h
      have hout : d.isIn = false := by simpa using hbulk.2
      refine Served.Respects.complete (d.respects_writeBulk.mono fun hraw => ?_) _ _
      refine ⟨hvalid, ⟨by simpa using hpipe, hout⟩, hbulk.1, hraw.1, ?_⟩
      rw [if_neg (by simp [hout])]
      exact hraw.2
    · cases h
      exact respects_complete _ _ _ _

/-- **What a handler does about a marked pipe.** -/
theorem Handler.respects_serve {h : Handler} {d : Delivery} {served : Served}
    (hserve : h.serve d = some served) (htransfer : h.isTransfer = true) :
    served.Respects d.rc.policies d.qc.marks (h.SendsRaw d) := by
  cases h with
  | onIoControl ioControlCode =>
    apply respects_pipeQueueOnIoControl hserve
    intro hmem
    unfold Handler.isTransfer at htransfer
    dsimp only at htransfer
    rw [List.contains_iff_mem.mpr hmem] at htransfer
    cases htransfer
  | onRead =>
    cases hserve
    exact respects_pipeQueueOnRead d
  | onWrite => exact respects_pipeQueueOnWrite hserve

/-! ### The completion routines -/

section
variable (fw : Framework) (rc : RequestContext) (qc : QueueContext) (status : NTSTATUS)

theorem marks_handlePipeResetScenariosForComplete :
    (handlePipeResetScenariosForComplete status rc qc).marks =
      qc.marks.ended status rc.policies := by
  unfold handlePipeResetScenariosForComplete ResetReasons.ended stalls
  split_ifs <;> rfl

theorem ended_of_not_stalls {status : NTSTATUS} {policies : PipePolicies} (m : ResetReasons)
    (h : stalls status policies = false) : m.ended status policies = m := by
  unfold ResetReasons.ended
  rw [h]
  rfl

/-- A mark that is set already need not be set again. -/
theorem ended_of_stall {m : ResetReasons} {policies : PipePolicies} (h : m.stall = true) :
    m.ended status policies = m := by
  unfold ResetReasons.ended
  split_ifs
  · rw [← h]
  · rfl

theorem keepsMarks_nextReadUnlessShort :
    (nextReadUnlessShort fw rc qc status).KeepsMarks qc.marks := by
  unfold nextReadUnlessShort
  split_ifs
  · exact keepsMarks_exitWith _ _
  · exact keepsMarks_submitNextRead fw rc _

theorem keepsMarks_readBulkCopyReceived (n : ℕ) :
    (readBulkCopyReceived fw rc n qc).KeepsMarks qc.marks := by
  unfold readBulkCopyReceived copyPartialReadToUserMemory
  split_ifs
  · exact keepsMarks_exitWith _ _
  · dsimp only
    split_ifs
    · exact keepsMarks_exitTransferred rc _ _
    · exact keepsMarks_nextReadUnlessShort fw rc _ _

theorem keepsMarks_xferReadBulkComplete (n : ℕ) :
    (xferReadBulkComplete fw rc status n qc).KeepsMarks (qc.marks.ended status rc.policies) := by
  rw [← marks_handlePipeResetScenariosForComplete]
  unfold xferReadBulkComplete readBulkCompleteOver readBulkCompleteUser
  dsimp only
  split_ifs
  · exact keepsMarks_readBulkCopyReceived fw rc _ _
  · exact keepsMarks_exitWith _ _
  · exact keepsMarks_nextReadUnlessShort fw rc _ _
  · exact keepsMarks_exitWith _ _
  · exact keepsMarks_exitWith _ _
  · exact keepsMarks_submitNextRead fw rc _
  · exact keepsMarks_nextReadUnlessShort fw rc _ _

theorem keepsMarks_xferWriteBulkComplete (n : ℕ) :
    (xferWriteBulkComplete fw rc status n qc).KeepsMarks qc.marks := by
  unfold xferWriteBulkComplete
  dsimp only
  split_ifs
  · exact keepsMarks_exitWith _ _
  · exact keepsMarks_submitNextWrite fw rc _
  · exact keepsMarks_submitNextWrite fw rc _
  · exact keepsMarks_exitWith _ _

theorem keepsMarks_xferIsoRdComplete (length : ℕ) (urb : UrbResult) (buffer : List UInt8) :
    (xferIsoRdComplete fw rc length status urb buffer qc).1.KeepsMarks
      (qc.marks.ended status rc.policies) := by
  rw [← marks_handlePipeResetScenariosForComplete]
  unfold xferIsoRdComplete
  dsimp only
  split
  · split <;> exact keepsMarks_complete _ _ _
  · exact keepsMarks_complete _ _ _

end

/-- The completion routine does not look whether the transfer failed: it is that of a
write to a bulk or interrupt pipe, or a transfer with a packet context whose URB is
missing or reports an error itself. -/
def Routine.Misses (routine : Routine) (c : TargetCompletion) : Prop :=
  match routine with
  | .readBulk => False
  | .readBulkRaw => False
  | .writeBulk => True
  | .writeBulkRaw => True
  | .isoEx => (c.fw.urbBuffer = false ∨ c.fw.requestContext = false) ∨ c.isoExUrb.headerStatus ≠ 0
  | .isoRd => False
  | .isoWr => False
  | .ctrl => True

/-- An end of a transfer that leaves the marks alone, and may. -/
theorem Served.KeepsMarks.ended {s : Served} {m : ResetReasons} {status : NTSTATUS}
    {policies : PipePolicies} (h : s.KeepsMarks m)
    (hstall : stalls status policies = true → m.stall = true) :
    s.KeepsMarks (m.ended status policies) := by
  cases hfailed : stalls status policies with
  | false => rwa [ended_of_not_stalls m hfailed]
  | true => rwa [ended_of_stall status (hstall hfailed)]

theorem keepsMarks_xferIsoExComplete {rc : RequestContext} {c : TargetCompletion}
    (h : stalls c.status rc.policies = true → Routine.isoEx.Misses c → c.qc.marks.stall = true) :
    (xferIsoExComplete c.fw rc c.status c.isoExUrb c.updateLoop c.qc).served.KeepsMarks
      (c.qc.marks.ended c.status rc.policies) := by
  unfold xferIsoExComplete
  by_cases hnull : (!c.fw.urbBuffer || !c.fw.requestContext) = true
  · rw [if_pos hnull]
    refine (keepsMarks_complete _ _ _).ended fun hstall => h hstall (.inl ?_)
    simpa using hnull
  rw [if_neg hnull]
  by_cases hexempt : c.status = STATUS_CANCELLED ∨ c.status = STATUS_DEVICE_NOT_CONNECTED
  · rw [if_pos hexempt]
    -- these failures call for no reset
    refine (keepsMarks_complete _ _ _).ended fun hstall => ?_
    unfold stalls at hstall
    rcases hexempt with hexempt | hexempt <;> rw [hexempt] at hstall <;> simp at hstall
  rw [if_neg hexempt]
  by_cases hheader : (!ntSuccess c.status) = true ∧ c.isoExUrb.headerStatus ≠ 0
  · rw [if_pos hheader]
    exact (keepsMarks_complete _ _ _).ended fun hstall => h hstall (.inr hheader.2)
  · rw [if_neg hheader, ← marks_handlePipeResetScenariosForComplete]
    exact keepsMarks_complete _ _ _

/-- **A completion routine marks a failure**, or does not look at it. -/
theorem Routine.keepsMarks_complete {routine : Routine} {rc : RequestContext}
    {c : TargetCompletion}
    (h : stalls c.status rc.policies = true → routine.Misses c → c.qc.marks.stall = true) :
    (routine.complete rc c).KeepsMarks (c.qc.marks.ended c.status rc.policies) := by
  cases routine with
  | readBulk => exact keepsMarks_xferReadBulkComplete _ _ _ _ _
  | readBulkRaw =>
    rw [← marks_handlePipeResetScenariosForComplete]
    exact LibusbK.keepsMarks_complete _ _ _
  | writeBulk =>
    exact (keepsMarks_xferWriteBulkComplete _ _ _ _ _).ended fun hstall => h hstall trivial
  | writeBulkRaw =>
    exact (LibusbK.keepsMarks_complete _ _ _).ended fun hstall => h hstall trivial
  | isoEx => exact keepsMarks_xferIsoExComplete h
  | isoRd => exact keepsMarks_xferIsoRdComplete _ _ _ _ _ _ _
  | isoWr =>
    rw [← marks_handlePipeResetScenariosForComplete]
    exact LibusbK.keepsMarks_complete _ _ _
  | ctrl =>
    refine Served.KeepsMarks.ended ?_ fun hstall => h hstall trivial
    unfold Routine.complete xferCtrlComplete
    split_ifs <;> exact LibusbK.keepsMarks_complete _ _ _

/-! ### The traffic on a pipe -/

/-- The step is none of those after which a reset that is due is not made: no raw
transfer is sent while a reset is due; a failure that the completion routine does
not look at comes after another that was marked; no queue is replaced while there is a
reason for a reset; and the device leaves D0 with `ResetPipeOnResume` on only while the pipe
runs. -/
def MarksAndResets (s : PipeTraffic) : TrafficEvent → Prop
  | .deliver h d => s.reasons.due d.rc.policies = true → ¬h.SendsRaw { d with qc := s.qc }
  | .finish i c => ∀ r, s.outstanding[i]? = some r →
      stalls c.status r.1.policies = true → r.2.Misses c → s.reasons.stall = true
  | .setPolicy .. => True
  | .stop => True
  | .start .. => s.pipe.isValid = false → s.pipe.needsQueue = true → s.reasons = {}
  | .d0Exit => PolicyFlag.resetPipeOnResume.isSet s.pipe.policies = true → s.pipe.serves = true
  | .resume _ _ => True

/-- The marks of the queue are the reasons there are for a reset. -/
structure PipeTraffic.Marked (s : PipeTraffic) : Prop where
  marks : s.pipe.queue.isSome = true → s.qc.marks = s.reasons
  resets : ResetWhenDue s
  queue : s.pipe.isValid = true → s.pipe.queue.isSome = true
  idle : s.pipe.isValid = false → s.outstanding = []

theorem resetWhenDue_note {s : PipeTraffic} {policies : PipePolicies} {es : List Effect}
    (h : ResetWhenDue s) (qc : QueueContext)
    (hasked : es.any Effect.isReset = true → s.reasons.due policies = true) :
    ResetWhenDue (s.note policies qc es) := by
  refine ⟨h.1, ?_⟩
  unfold PipeTraffic.note
  dsimp only
  rw [h.2, Bool.false_or]
  cases hreset : es.any Effect.isReset with
  | false => rfl
  | true => rw [hasked hreset]; rfl

namespace PipeTraffic.Marked

variable {s : PipeTraffic}

/-- A pipe that runs, and whose queue is marked as it should be. -/
theorem of_isValid (hvalid : s.pipe.isValid = true) (hqueue : s.pipe.queue.isSome = true)
    (hmarks : s.qc.marks = s.reasons) (hresets : ResetWhenDue s) : s.Marked where
  marks _ := hmarks
  resets := hresets
  queue _ := hqueue
  idle hnot := by
    rw [hvalid] at hnot
    cases hnot

theorem marks_of_isValid (hs : s.Marked) (hvalid : s.pipe.isValid = true) :
    s.qc.marks = s.reasons :=
  hs.marks (hs.queue hvalid)

theorem isValid_of_outstanding (hs : s.Marked) {i : ℕ} {r : RequestContext × Routine}
    (hr : s.outstanding[i]? = some r) : s.pipe.isValid = true := by
  cases hvalid : s.pipe.isValid with
  | true => rfl
  | false =>
    rw [hs.idle hvalid] at hr
    cases hr

/-- A request that is served as it should be. -/
theorem delivered (hs : s.Marked) {rc : RequestContext} {served : Served} {skips : Prop}
    (hvalid : s.pipe.isValid = true) (h : served.Respects rc.policies s.qc.marks skips)
    (hskips : s.reasons.due rc.policies = true → ¬skips) : (s.delivered rc served).Marked := by
  rw [hs.marks_of_isValid hvalid] at h
  have hnote := resetWhenDue_note hs.resets served.queue h.asked
  refine of_isValid hvalid (hs.queue hvalid) h.marks ⟨?_, hnote.2⟩
  unfold PipeTraffic.delivered
  dsimp only
  rw [hs.resets.1, Bool.false_or]
  cases hdue : s.reasons.due rc.policies with
  | false => rfl
  | true =>
    rw [Bool.true_and, Bool.eq_false_iff]
    exact fun hsends => hskips hdue (h.first hdue hsends)

/-- A stage that ended, and whose failure is marked. -/
theorem finished (hs : s.Marked) (i : ℕ) {rc : RequestContext} {status : NTSTATUS}
    {served : Served} (hvalid : s.pipe.isValid = true)
    (h : served.KeepsMarks (s.qc.marks.ended status rc.policies)) :
    (s.finished i rc status served).Marked := by
  have hnote : ResetWhenDue (s.note rc.policies served.queue served.effects) :=
    resetWhenDue_note hs.resets served.queue
      (fun hreset => by rw [h.quiet] at hreset; cases hreset)
  refine of_isValid hvalid (hs.queue hvalid) ?_ hnote
  unfold PipeTraffic.finished PipeTraffic.note
  dsimp only
  rw [any_resets_eq_false h.quiet, h.marks, hs.marks_of_isValid hvalid]
  rfl

theorem leftD0 (hs : s.Marked)
    (hserves : PolicyFlag.resetPipeOnResume.isSet s.pipe.policies = true →
      s.pipe.serves = true) : s.leftD0.Marked := by
  refine ⟨fun hqueue => ?_, hs.resets, hs.queue, hs.idle⟩
  unfold PipeTraffic.leftD0 markForResume
  dsimp only
  rw [← hs.marks hqueue]
  cases hset : PolicyFlag.resetPipeOnResume.isSet s.pipe.policies with
  | false =>
    rw [Bool.and_false]
    rfl
  | true =>
    rw [hserves hset]
    rfl

theorem resumed (hs : s.Marked) (hvalid : s.pipe.isValid = true) (fw : Framework)
    (rc : RequestContext) :
    (s.note rc.policies (queueOnResume fw rc s.qc).1 (queueOnResume fw rc s.qc).2).Marked := by
  have hmarks := hs.marks_of_isValid hvalid
  have hnone : ∀ policies, ([] : List Effect).any Effect.isReset = true →
      s.reasons.due policies = true := by
    rintro _ ⟨⟩
  unfold queueOnResume
  split_ifs
  · exact of_isValid hvalid (hs.queue hvalid) hmarks (resetWhenDue_note hs.resets _ (hnone _))
  · cases hdue : s.qc.marks.due rc.policies with
    | false =>
      rw [handlePipeResetScenarios_of_not_due fw rc s.qc hdue]
      exact of_isValid hvalid (hs.queue hvalid) hmarks (resetWhenDue_note hs.resets _ (hnone _))
    | true =>
      obtain ⟨heffects, hafter⟩ := handlePipeResetScenarios_of_due fw rc s.qc hdue
      rw [heffects]
      rw [hmarks] at hdue
      refine of_isValid hvalid (hs.queue hvalid) ?_ (resetWhenDue_note hs.resets _ fun _ => hdue)
      unfold PipeTraffic.note
      dsimp only
      rw [hafter, hmarks, List.any_cons, List.any_nil, Bool.or_false]
      rfl

/-- A change of the policies leaves the queue and its marks alone, even if it makes the queue
dirty. -/
theorem policySet (hs : s.Marked) (isHighSpeed : Bool) (policyType : UInt32) (value : ValueBytes)
    (valueLength : UInt32) : (s.policySet isHighSpeed policyType value valueLength).Marked := by
  unfold PipeTraffic.policySet
  split_ifs
  · exact hs
  · obtain ⟨hsame, hvalid⟩ := samePipe_done isHighSpeed s.pipe policyType value valueLength
    refine ⟨fun hqueue => hs.marks ?_, hs.resets, fun hv => ?_, fun hv => hs.idle ?_⟩
    · rwa [hsame.queue] at hqueue
    · rw [hvalid] at hv
      exact (congrArg Option.isSome hsame.queue).trans (hs.queue hv)
    · rwa [hvalid] at hv

theorem stopped (hs : s.Marked) (hidle : s.outstanding = []) : s.stopped.Marked := by
  unfold PipeTraffic.stopped
  split_ifs
  · refine ⟨hs.marks, hs.resets, fun hv => ?_, fun _ => hidle⟩
    cases hv
  · exact hs

/-- A pipe that is started has a queue whose marks are right: the old one, or a new one
while there is no reason for a reset. -/
theorem started (hs : s.Marked) (startIoTarget : Bool) (a : StartAnswers) (queueNew : ℕ)
    (hfresh : s.pipe.isValid = false → s.pipe.needsQueue = true → s.reasons = {}) :
    (s.started startIoTarget a queueNew).Marked := by
  have hstopped (hstarts : ¬(s.pipe.isValid || !s.pipe.canStart) = true) :
      s.pipe.isValid = false := by
    rw [Bool.or_eq_true, not_or] at hstarts
    exact Bool.eq_false_iff.mpr hstarts.1
  unfold PipeTraffic.started
  dsimp only
  split_ifs with hrefused hneeds hcreates
  · exact hs
  · have hvalid := hstopped hrefused
    refine ⟨fun _ => ?_, hs.resets, fun _ => rfl, fun _ => hs.idle hvalid⟩
    exact (hfresh hvalid hneeds).symm
  · refine ⟨fun hqueue => ?_, hs.resets, fun hv => ?_, fun _ => hs.idle (hstopped hrefused)⟩
    · cases hqueue
    · cases hv
  · refine ⟨hs.marks, hs.resets, fun _ => ?_, fun _ => hs.idle (hstopped hrefused)⟩
    -- a pipe that needs no queue has one
    unfold PipeContext.needsQueue at hneeds
    rw [Bool.or_eq_true, not_or, Option.isNone_iff_eq_none, ← Ne,
      Option.ne_none_iff_isSome] at hneeds
    exact hneeds.1

/-- A step that marks what it has to, and resets the pipe when it has to, keeps the
marks right. -/
theorem step {t : PipeTraffic} {e : TrafficEvent} (hs : s.Marked) (hok : MarksAndResets s e)
    (h : pipeTraffic.step s e = some t) : t.Marked := by
  cases e with
  | deliver handler d =>
    simp only [pipeTraffic] at h
    split at h
    · next hruns =>
      rw [Bool.and_eq_true] at hruns
      obtain ⟨served, hserve, rfl⟩ := Option.map_eq_some_iff.mp h
      exact hs.delivered hruns.2 (handler.respects_serve hserve hruns.1) hok
    · cases h
  | finish i c =>
    simp only [pipeTraffic] at h
    obtain ⟨r, hr, rfl⟩ := Option.map_eq_some_iff.mp h
    have hvalid := hs.isValid_of_outstanding hr
    refine hs.finished i hvalid (Routine.keepsMarks_complete (c := { c with qc := s.qc })
      fun hstall hmisses => ?_)
    rw [hs.marks_of_isValid hvalid]
    exact hok r hr hstall hmisses
  | setPolicy isHighSpeed policyType value valueLength =>
    cases h
    exact hs.policySet isHighSpeed policyType value valueLength
  | stop =>
    simp only [pipeTraffic] at h
    split at h
    · next hidle =>
      cases h
      exact hs.stopped (List.isEmpty_iff.mp hidle)
    · cases h
  | start startIoTarget a queueNew =>
    cases h
    exact hs.started startIoTarget a queueNew hok
  | d0Exit =>
    cases h
    exact hs.leftD0 hok
  | resume i fw =>
    simp only [pipeTraffic] at h
    obtain ⟨r, hr, rfl⟩ := Option.map_eq_some_iff.mp h
    exact hs.resumed (hs.isValid_of_outstanding hr) fw r.1

end PipeTraffic.Marked

/-! ### The operations on the device -/

/-- The pipe is that of slot `k` of the device, with its queue. -/
structure PipeTraffic.Represents (t : PipeTraffic) (s : DeviceState) (k : Fin 32) : Prop where
  pipe : t.pipe = s.pipes k
  queue : ∀ q, t.pipe.queue = some q → ∃ obj, s.queues.get q = some obj ∧ obj.context = t.qc

namespace PipeTraffic.Represents

variable {t : PipeTraffic} {s : DeviceState} {k : Fin 32}

/-- Only the pipe context changes, and it keeps its queue. -/
theorem setPipe (h : t.Represents s k) {pc : PipeContext} (hqueue : pc.queue = t.pipe.queue) :
    PipeTraffic.Represents { t with pipe := pc } (s.setPipe k pc) k where
  pipe := by rw [DeviceState.pipes_setPipe, Function.update_self]
  queue q hq := h.queue q (hqueue.symm.trans hq)

theorem stopped (h : t.Represents s k) : t.stopped.Represents (pipeStop s k).1 k := by
  unfold PipeTraffic.stopped pipeStop
  rw [h.pipe]
  split_ifs
  · apply h.setPipe
    rw [h.pipe]
  · exact h

theorem started (h : t.Represents s k) (startIoTarget : Bool) (a : StartAnswers) :
    (t.started startIoTarget a s.queues.next).Represents (pipeStart s k startIoTarget a).1 k := by
  have hnext : (s.deleteQueue (s.pipes k).queue).queues.next = s.queues.next := by
    cases (s.pipes k).queue <;> rfl
  have hstarted := pipeStarted_pipeStart s k startIoTarget a
  unfold PipeTraffic.started
  dsimp only
  rw [h.pipe]
  generalize (pipeStart s k startIoTarget a).1 = s' at hstarted
  cases hstarted with
  | refused hvalid =>
    rw [hvalid, Bool.true_or, if_pos rfl]
    exact h
  | noPipe hvalid hstart =>
    rw [hstart, Bool.not_false, Bool.or_true, if_pos rfl]
    exact h
  | noQueue queues hvalid hstart hneeds hcreates hget =>
    rw [if_neg (by rw [hvalid, hstart]; exact Bool.false_ne_true), if_pos hneeds,
      if_neg (by rw [hcreates]; exact Bool.false_ne_true)]
    refine ⟨?_, fun q hq => ?_⟩
    · rw [DeviceState.pipes_setPipe, Function.update_self]
    · cases hq
  | created hvalid hstart hneeds hcreates =>
    rw [if_neg (by rw [hvalid, hstart]; exact Bool.false_ne_true), if_pos hneeds, if_pos hcreates]
    refine ⟨?_, fun q hq => ?_⟩
    · rw [DeviceState.pipes_setPipe, Function.update_self, hnext]
    · cases hq
      refine ⟨newQueue { s.pipes k with isQueueDirty := false } a, ?_, rfl⟩
      rw [DeviceState.queues_setPipe, DeviceState.queues_withQueues, ← hnext,
        Objects.get_create_self]
  | kept hvalid hstart hneeds =>
    rw [if_neg (by rw [hvalid, hstart]; exact Bool.false_ne_true),
      if_neg (by rw [hneeds]; exact Bool.false_ne_true)]
    apply h.setPipe
    rw [h.pipe]

/-- A request that finds the queue of the pipe dirty is preceded by a stop and a start. -/
theorem refreshed (h : t.Represents s k) {pipeID : UInt8} (hk : pipeSlot pipeID = k)
    (hvalid : t.pipe.isValid = true) (hqueue : t.pipe.queue.isSome = true)
    (hdirty : t.pipe.isQueueDirty = true) (a : StartAnswers) :
    (t.stopped.started false a s.queues.next).Represents (refreshForRequest s pipeID a).1 k := by
  rw [h.pipe] at hvalid hqueue hdirty
  have hstop : pipeStop s k =
      (s.setPipe k { s.pipes k with isValid := false }, STATUS_SUCCESS) := if_pos hvalid
  have hstarted := h.stopped.started false a
  have hready : ¬(!(s.pipes k).isValid || (s.pipes k).queue.isNone) = true := by
    rw [hvalid, ← Option.not_isSome, hqueue]
    exact Bool.false_ne_true
  have hstopped : ¬(!ntSuccess STATUS_SUCCESS) = true := by decide
  unfold refreshForRequest pipeRefreshQueue
  dsimp only
  rw [hk, if_neg hready, if_pos hdirty]
  rw [hstop] at hstarted ⊢
  rw [if_neg hstopped]
  exact hstarted

theorem policySet (h : t.Represents s k) {pipeID : UInt8} (hk : pipeSlot pipeID = k)
    (policyType : UInt32) (value : ValueBytes) (valueLength : UInt32) :
    (t.policySet s.device.isHighSpeed policyType value valueLength).Represents
      (setPipePolicy s pipeID policyType value valueLength).1 k := by
  unfold PipeTraffic.policySet setPipePolicy policySetPipe getPipeContextByID
  rw [hk, h.pipe]
  dsimp only
  split_ifs with hrefused hinvalid
  · exact h
  · rw [hinvalid, Bool.true_or] at hrefused
    exact absurd rfl hrefused
  · apply h.setPipe
    rw [(samePipe_done s.device.isHighSpeed (s.pipes k) policyType value valueLength).1.queue,
      h.pipe]

theorem leftD0 (h : t.Represents s k) (hk : k ≠ 0)
    (hown : ∀ k' q, k' ≠ k → (s.pipes k).queue = some q → (s.pipes k').queue ≠ some q) :
    t.leftD0.Represents (deviceOnD0Exit s) k where
  pipe := by
    unfold deviceOnD0Exit
    rw [pipes_foldl_markSlot]
    exact h.pipe
  queue q hq := by
    obtain ⟨obj, hobj, hcontext⟩ := h.queue q hq
    have hslot : (s.pipes k).queue = some q := by
      rw [← h.pipe]
      exact hq
    refine ⟨_, queue_deviceOnD0Exit hk hslot hobj fun k' hk' => hown k' q hk' hslot, ?_⟩
    rw [hcontext, ← h.pipe]
    rfl

end PipeTraffic.Represents

/-- The pipe of a run: it has its queue, which is not marked, and nothing has happened. -/
def PipeTraffic.start (pipe : PipeContext) (qc : QueueContext) : PipeTraffic where
  pipe := pipe
  qc := qc

theorem PipeTraffic.Marked.start {pipe : PipeContext} {qc : QueueContext}
    (hserves : pipe.serves = true) (hfresh : qc.marks = {}) :
    (PipeTraffic.start pipe qc).Marked := by
  unfold PipeContext.serves at hserves
  simp only [Bool.and_eq_true] at hserves
  exact of_isValid hserves.1.1.1 hserves.1.2 hfresh ⟨rfl, rfl⟩

/-- **Transfers find the pipe reset when it has to be, and only then**, along every run
in which no raw transfer is sent while a reset is due, no failure of a write or of a
transfer with a packet context goes unmarked, the pipe gets no new queue while there is a
reason for a reset, and it runs when the device leaves D0. -/
theorem resetWhenDue_of_throughout {pipe : PipeContext} {qc : QueueContext}
    (hserves : pipe.serves = true) (hfresh : qc.marks = {}) {es : List TrafficEvent}
    (h : pipeTraffic.Throughout MarksAndResets (PipeTraffic.start pipe qc) es) :
    pipeTraffic.Always ResetWhenDue (PipeTraffic.start pipe qc) es :=
  Machine.Throughout.always (I := PipeTraffic.Marked) (fun _ hs => hs.resets)
    (fun _ _ _ hs hok hstep => hs.step hok hstep) (.start hserves hfresh) h

/-- A started bulk IN pipe. -/
def resetPipe : PipeContext where
  queue := some 0
  isValid := true
  pipeInformation := ⟨8, 0x81, 0, .bulk, 4096⟩
  pipe := some 0

/-- The context of its queue. -/
def resetQueue : QueueContext where
  info := resetPipe.pipeInformation
  overBuf := List.replicate 8 0

/-- A read of one packet with `AutoClearStall` on. -/
def readPacket (isRaw : Bool) : Delivery where
  rc :=
    { length := 8
      buffer := List.replicate 8 0
      policies := { autoClearStall := true, rawIO := isRaw } }
  qc := resetQueue
  reads := ⟨0, 0, 0, 0, 0, fun _ => 0, fun _ => 0, fun _ => 0, false, false, 0⟩

/-- A transfer that ends with `STATUS_UNSUCCESSFUL`. -/
def stalled : TargetCompletion where
  status := 0xC0000001
  qc := resetQueue

/-- A read fails, and the next one resets the pipe; `RAW_IO` is set, and the pipe gets a new
queue for the raw read that follows. -/
theorem resetWhenDue_of_throughout_read :
    pipeTraffic.Always ResetWhenDue (PipeTraffic.start resetPipe resetQueue)
      [.deliver .onRead (readPacket false), .finish 0 stalled,
        .deliver .onRead (readPacket false), .finish 0 { stalled with status := STATUS_SUCCESS },
        .setPolicy true RAW_IO (fun _ => 1) 1, .stop, .start false {} 1,
        .deliver .onRead (readPacket true)] := by
  apply resetWhenDue_of_throughout (by decide) rfl
  refine fun s₁ h₁ => ⟨?_, fun s₂ h₂ => ⟨?_, fun s₃ h₃ => ⟨?_, fun s₄ h₄ => ⟨?_, fun s₅ h₅ =>
    ⟨trivial, fun s₆ h₆ => ⟨trivial, fun s₇ h₇ => ⟨?_, fun s₈ h₈ => ⟨?_, trivial⟩⟩⟩⟩⟩⟩⟩⟩
  all_goals cases h₁
  · rintro ⟨⟩
  all_goals cases h₂
  · rintro r hr - hmisses
    cases hr
    exact hmisses.elim
  all_goals cases h₃
  · rintro - hraw
    cases hraw.2.2.2.1
  all_goals cases h₄
  · rintro r hr ⟨⟩
  all_goals cases h₅
  all_goals cases h₆
  all_goals cases h₇
  · exact fun _ _ => rfl
  all_goals cases h₈
  · rintro ⟨⟩

/-- A raw read fails, and the next one is sent without a reset.  A raw read fails, `RAW_IO`
is cleared, and the next read finds a new queue without a mark. -/
theorem not_resetWhenDue_rawRead :
    (¬pipeTraffic.Always ResetWhenDue (PipeTraffic.start resetPipe resetQueue)
      [.deliver .onRead (readPacket true), .finish 0 stalled,
        .deliver .onRead (readPacket true)]) ∧
    ¬pipeTraffic.Always ResetWhenDue (PipeTraffic.start resetPipe resetQueue)
      [.setPolicy true RAW_IO (fun _ => 1) 1, .stop, .start false {} 1,
        .deliver .onRead (readPacket true), .finish 0 stalled,
        .setPolicy true RAW_IO (fun _ => 0) 1, .stop, .start false {} 2,
        .deliver .onRead (readPacket false)] := by
  constructor
  · intro h
    have hlast := (((h.2 _ rfl).2 _ rfl).2 _ rfl).start
    cases hlast.1
  · intro h
    have hlast := (((((((((h.2 _ rfl).2 _ rfl).2 _ rfl).2 _ rfl).2 _ rfl).2 _ rfl).2 _ rfl).2 _
      rfl).2 _ rfl).start
    cases hlast.1

end LibusbK
