import LibusbK.Driver.PipeReset

/-!
# Start frames of isochronous transfers

An isochronous queue counts frames in `NextFrameNumber` (`drv_xfer_iso.c`): the
first transfer after a reset of the pipe asks the device for the current frame,
and every transfer adds the frames its packets take.  The count is changed before
the transfer is known to be submitted, and whether a frame number was ever
retrieved is not kept.

## Main definitions

* `IsoJob.prepare` -- a transfer routine up to the start frame.
* `isoFrames` -- the machine of the transfers and resets of one queue.
* `StartFramesFollow` -- a start frame is the frame retrieved after the latest reset,
  with the latency, and the frames submitted since.

## Main results

* `serve_eq_prepare` -- the three routines set the start frame the same way.
* `startFramesFollow_iff` -- start frames are right in the runs in which a transfer
  that is submitted has a retrieved frame to count from and no transfer before it
  took frames that were not submitted.
-/

namespace LibusbK

/-! ### The transfers up to the start frame -/

/-- The transfers of an isochronous pipe. -/
inductive IsoJob
  | read
  | write
  | ex (reads : IsoContextReads)

section
variable (fw : Framework) (dc : DeviceContext) (rc : RequestContext) (qc : QueueContext)

/-- The routine the request is served by; `none` is a division by zero. -/
def IsoJob.serve : IsoJob → Option Served
  | read => some (xferIsoRead fw dc rc qc)
  | write => xferIsoWrite fw dc rc qc
  | ex reads => some (xferIsoEx fw dc rc qc reads).1

/-- The URB of `XferIsoEx` without its start frame, or what the routine does to a
request that gets none. -/
def isoExUrb (reads : IsoContextReads) : Except Served IsoUrb :=
  let status := isoExStatus fw dc rc reads
  if !ntSuccess status then .error (completeWithInformation qc status 0)
  else
    let reset := handlePipeResetScenarios fw rc qc
    match (isoPacketsToUrb reads rc.length 0).1 with
    | none => .error ((completeWithInformation reset.1 STATUS_INVALID_BUFFER_SIZE 0).after reset.2)
    | some offsets => .ok
        { numberOfPackets := reads.initUrb.toInt32.toUInt32
          transferBufferLength := rc.length
          directionIn := usbEndpointDirectionIn qc.info.endpointAddress
          offsets := offsets
          startAsap := false
          startFrame := if reads.setStartFrame then reads.startFrame else 0 }

/-- The request is completed without a change of the queue. -/
def completedOr : Except NTSTATUS IsoUrb → Except Served IsoUrb
  | .error status => .error (completeWithInformation qc status 0)
  | .ok urb => .ok urb

/-- A transfer up to the start frame. -/
def IsoJob.prepare : IsoJob → Option (Except Served IsoUrb)
  | read => some (completedOr qc (isoReadUrb fw dc rc qc))
  | write => (isoWriteUrb fw dc rc qc).map (completedOr qc)
  | ex reads => some (isoExUrb fw dc rc qc reads)

/-- The completion routine of a transfer. -/
def IsoJob.routine : IsoJob → Routine
  | read => .isoRd
  | write => .isoWr
  | ex _ => .isoEx

/-- The transfer comes with its start frame. -/
def IsoJob.hasStartFrame : IsoJob → Bool
  | read => false
  | write => false
  | ex reads => reads.hasStartFrame

theorem xferIsoEx_eq {reads : IsoContextReads} (h : reads.hasStartFrame = false) :
    (xferIsoEx fw dc rc qc reads).1 =
      match isoExUrb fw dc rc qc reads with
      | .error served => served
      | .ok urb => frameAndSubmit fw dc rc qc .isoEx urb := by
  unfold xferIsoEx isoExUrb
  dsimp only
  split
  · rfl
  · cases hpackets : isoPacketsToUrb reads rc.length 0 with
    | mk offsets accesses =>
      cases offsets with
      | none => rfl
      | some offsets =>
        dsimp only
        rw [h, if_neg Bool.false_ne_true]
        -- the offsets have no part in the start frame
        unfold frameAndSubmit isoSetStartFrame
        dsimp only
        split_ifs <;> rfl

/-- **The three routines set the start frame the same way.** -/
theorem serve_eq_prepare {job : IsoJob} (h : job.hasStartFrame = false) :
    job.serve fw dc rc qc = (job.prepare fw dc rc qc).map fun
      | .error served => served
      | .ok urb => frameAndSubmit fw dc rc qc job.routine urb := by
  cases job with
  | read =>
    refine congrArg some ((xferIsoRead_eq fw dc rc qc).trans ?_)
    cases isoReadUrb fw dc rc qc <;> rfl
  | write =>
    refine (xferIsoWrite_eq fw dc rc qc).trans ?_
    unfold IsoJob.prepare
    rw [Option.map_map]
    congr 1
    funext urb
    cases urb <;> rfl
  | ex reads => exact congrArg some (xferIsoEx_eq fw dc rc qc h)

end

/-! ### The frames a transfer takes -/

/-- The next multiple of 8. -/
def roundUpTo8 (n : UInt32) : UInt32 := if n % 8 = 0 then n else n + (8 - n % 8)

/-- The frame to start at after a frame number has been retrieved. -/
def firstFrame (isHS : Bool) (isoStartLatency : ℕ) (currentFrame : UInt32) : UInt32 :=
  let frame := currentFrame + UInt32.ofNat (isoStartLatency % 0x10000)
  if isHS then roundUpTo8 frame else frame

/-- The entry of a table for an interval; the one for the interval 0 is the last. -/
def framesPerPacket (isHS : Bool) (interval : UInt8) : UInt16 :=
  (if isHS then framesPerBIntervalHighSpeed else framesPerBIntervalFullSpeed).getD
    ((interval.toNat + 31) % 32) 0

/-- The frames a transfer takes; at high speed, a frame is for eight packets. -/
def framesTaken (isHS : Bool) (interval : UInt8) (numberOfPackets : UInt32) : UInt32 :=
  (if isHS then numberOfPackets >>> 3 else numberOfPackets) *
    (framesPerPacket isHS interval).toUInt32

theorem framesPerBInterval_eq (fw : Framework) (table : List UInt16) {interval : UInt8}
    (h : interval ≠ 0) :
    framesPerBInterval fw table interval = table.getD ((interval.toNat + 31) % 32) 0 := by
  have hpos : interval.toNat ≠ 0 := fun hzero => h (UInt8.toNat_inj.mp hzero)
  unfold framesPerBInterval
  rw [if_neg h]
  congr 1
  omega

/-- `mXfer_IsoAssignNextFrameNumber` counts the frames, if the interval is not 0. -/
theorem isoAssignNextFrameNumber_eq (fw : Framework) (isHS : Bool) (numberOfPackets : UInt32)
    {qc : QueueContext} (h : qc.info.interval ≠ 0) :
    isoAssignNextFrameNumber fw isHS numberOfPackets qc =
      { qc with nextFrameNumber :=
          qc.nextFrameNumber + framesTaken isHS qc.info.interval numberOfPackets } := by
  unfold isoAssignNextFrameNumber framesTaken framesPerPacket
  cases isHS with
  | true => simp only [if_true, framesPerBInterval_eq fw _ h]
  | false => simp only [Bool.false_eq_true, if_false, framesPerBInterval_eq fw _ h]

/-! ### The transfers of a queue -/

/-- What has happened since the latest reset of the pipe.  No part of the driver. -/
structure IsoHistory where
  /-- The frame to start at, if a frame number was retrieved. -/
  start : Option UInt32 := none
  /-- The frames of the transfers submitted since. -/
  total : UInt32 := 0
  /-- The frames of the transfers that came as far as their start frame and were not
  submitted. -/
  unsent : UInt32 := 0
  deriving DecidableEq, Repr

namespace IsoHistory

/-- A reset of the pipe. -/
def reset (h : IsoHistory) (es : List Effect) : IsoHistory := if es.any Effect.resets then {} else h

/-- A frame number is retrieved if the pipe is freshly reset. -/
def retrieve (h : IsoHistory) (isHS : Bool) (fw : Framework) (rc : RequestContext)
    (isFreshPipeReset : Bool) : IsoHistory :=
  if isFreshPipeReset && ntSuccess fw.currentFrame.1 then
    { start := some (firstFrame isHS rc.policies.isoStartLatency fw.currentFrame.2) }
  else h

/-- A transfer is submitted, or fails to be. -/
def submit (h : IsoHistory) (submitted : Bool) (frames : UInt32) : IsoHistory :=
  if submitted then { h with total := h.total + frames }
  else { h with unsent := h.unsent + frames }

end IsoHistory

/-- A submitted URB, and what had happened by then. -/
structure SentUrb where
  urb : IsoUrb
  start : Option UInt32
  total : UInt32
  deriving DecidableEq, Repr

/-- An isochronous queue.  `history` and `sent` are no part of the driver. -/
structure IsoFrames where
  qc : QueueContext
  history : IsoHistory := {}
  sent : List SentUrb := []
  deriving DecidableEq, Repr

/-- What can happen to the queue. -/
inductive IsoEvent
  /-- A transfer is presented. -/
  | transfer (job : IsoJob) (fw : Framework) (rc : RequestContext)
  /-- A transfer has ended with this status. -/
  | complete (rc : RequestContext) (status : NTSTATUS)
  /-- `Pipe_Reset`; the status is what the framework answers. -/
  | resetPipe (status : NTSTATUS)
  /-- `Device_OnD0Exit` marks the queue. -/
  | leaveD0

/-- The submission of an URB. -/
def isoSubmits (fw : Framework) : Bool := ntSuccess fw.formatRequest && fw.send

/-- The URBs that were sent. -/
def sentUrbs (es : List Effect) : List IsoUrb :=
  es.filterMap fun
    | .send _ (.urb urb) => some urb
    | _ => none

namespace IsoFrames

/-- A transfer routine is run. -/
def serve (dc : DeviceContext) (s : IsoFrames) (job : IsoJob) (fw : Framework)
    (rc : RequestContext) (served : Served) : IsoFrames :=
  let history := s.history.reset served.effects
  match job.prepare fw dc rc s.qc with
  | some (.ok urb) =>
    let history := history.retrieve dc.isHighSpeed fw rc
      (handlePipeResetScenarios fw rc s.qc).1.isFreshPipeReset
    { qc := served.queue
      history := history.submit (isoSubmits fw)
        (framesTaken dc.isHighSpeed s.qc.info.interval urb.numberOfPackets)
      sent := s.sent ++ (sentUrbs served.effects).map (⟨·, history.start, history.total⟩) }
  | _ => { s with qc := served.queue, history := history }

end IsoFrames

/-- The transfers and resets of a queue, with `IsoAlwaysStartAsap` off and without start
frames of the user. -/
def isoFrames (dc : DeviceContext) : Machine IsoFrames IsoEvent where
  step s e :=
    match e with
    | .transfer job fw rc =>
      if rc.policies.isoAlwaysStartAsap || job.hasStartFrame then none
      else (job.serve fw dc rc s.qc).map (s.serve dc job fw rc)
    | .complete rc status =>
      some { s with qc := handlePipeResetScenariosForComplete status rc s.qc }
    | .resetPipe status =>
      if ntSuccess status then
        some { s with qc := { s.qc with isFreshPipeReset := true }, history := {} }
      else some s
    | .leaveD0 => some { s with qc := { s.qc with resetPipeForResume := true } }

/-! ### The property and the condition -/

/-- A start frame is the frame after the latest reset and all the frames submitted since;
without a frame number, a transfer is to start as soon as possible. -/
def StartFramesFollow (s : IsoFrames) : Prop :=
  ∀ u ∈ s.sent, u.urb.startAsap = false →
    ∃ first, u.start = some first ∧ u.urb.startFrame = first + u.total

/-- The transfer gets a start frame and is submitted, and the pipe is not freshly reset. -/
def IsoJob.continues (dc : DeviceContext) (s : IsoFrames) (job : IsoJob) (fw : Framework)
    (rc : RequestContext) : Bool :=
  (match job.prepare fw dc rc s.qc with
    | some (.ok _) => true
    | _ => false) &&
    isoSubmits fw && !(handlePipeResetScenarios fw rc s.qc).1.isFreshPipeReset

/-- A transfer that continues the count has a retrieved frame to count from, no transfer
has taken frames in vain since, and the tables have an entry for the interval. -/
def IsoFrames.Continuable (dc : DeviceContext) (s : IsoFrames) : IsoEvent → Prop
  | .transfer job fw rc => job.continues dc s fw rc = true →
    s.history.start.isSome = true ∧ s.history.unsent = 0 ∧ s.qc.info.interval ≠ 0
  | _ => True

instance (dc : DeviceContext) (s : IsoFrames) : DecidablePred (s.Continuable dc)
  | .transfer job fw rc => inferInstanceAs (Decidable (job.continues dc s fw rc = true → _ ∧ _ ∧ _))
  | .complete _ _ => isTrue trivial
  | .resetPipe _ => isTrue trivial
  | .leaveD0 => isTrue trivial

/-! ### What a transfer routine does to the count -/

section
variable {fw : Framework} {dc : DeviceContext} {rc : RequestContext} {qc : QueueContext}

theorem startAsap_isoReadUrb {urb : IsoUrb} (h : isoReadUrb fw dc rc qc = .ok urb) :
    urb.startAsap = false := by
  unfold isoReadUrb at h
  dsimp only at h
  split_ifs at h
  all_goals exact (congrArg IsoUrb.startAsap (Except.ok.inj h)).symm

theorem startAsap_isoWriteUrb {urb : IsoUrb} (h : isoWriteUrb fw dc rc qc = some (.ok urb)) :
    urb.startAsap = false := by
  unfold isoWriteUrb at h
  dsimp only at h
  iterate 3
    split at h
    · cases h
  obtain ⟨count, -, h⟩ := Option.map_eq_some_iff.mp h
  cases count with
  | error status => cases h
  | ok count =>
    dsimp only at h
    split_ifs at h
    exact (congrArg IsoUrb.startAsap (Except.ok.inj h)).symm

theorem startAsap_isoExUrb {reads : IsoContextReads} {urb : IsoUrb}
    (h : isoExUrb fw dc rc qc reads = .ok urb) : urb.startAsap = false := by
  unfold isoExUrb at h
  dsimp only at h
  split at h
  · cases h
  · split at h
    · cases h
    · exact (congrArg IsoUrb.startAsap (Except.ok.inj h)).symm

theorem completedOr_eq_ok {prepared : Except NTSTATUS IsoUrb} {urb : IsoUrb} :
    completedOr qc prepared = .ok urb ↔ prepared = .ok urb := by
  cases prepared with
  | error status =>
    constructor
    · intro h
      cases h
    · intro h
      cases h
  | ok urb' => simp only [completedOr, Except.ok.injEq]

theorem startAsap_prepare {job : IsoJob} {urb : IsoUrb}
    (h : job.prepare fw dc rc qc = some (.ok urb)) : urb.startAsap = false := by
  cases job with
  | read => exact startAsap_isoReadUrb (completedOr_eq_ok.mp (Option.some.inj h))
  | write =>
    obtain ⟨prepared, hprepared, h⟩ := Option.map_eq_some_iff.mp h
    rw [completedOr_eq_ok] at h
    exact startAsap_isoWriteUrb (hprepared.trans (congrArg some h))
  | ex reads => exact startAsap_isoExUrb (Option.some.inj h)

theorem completedOr_eq_error {prepared : Except NTSTATUS IsoUrb} {served : Served}
    (h : completedOr qc prepared = .error served) :
    ∃ status, served = completeWithInformation qc status 0 := by
  cases prepared with
  | error status => exact ⟨status, (Except.error.inj h).symm⟩
  | ok urb => cases h

/-- A request that gets no start frame is completed, before the reset or after it. -/
theorem error_prepare {job : IsoJob} {served : Served}
    (h : job.prepare fw dc rc qc = some (.error served)) :
    ∃ status, served = completeWithInformation qc status 0 ∨
      served = (completeWithInformation (handlePipeResetScenarios fw rc qc).1 status 0).after
        (handlePipeResetScenarios fw rc qc).2 := by
  cases job with
  | read =>
    obtain ⟨status, hserved⟩ := completedOr_eq_error (Option.some.inj h)
    exact ⟨status, .inl hserved⟩
  | write =>
    obtain ⟨prepared, -, h⟩ := Option.map_eq_some_iff.mp h
    obtain ⟨status, hserved⟩ := completedOr_eq_error h
    exact ⟨status, .inl hserved⟩
  | ex reads =>
    have h := Option.some.inj h
    unfold isoExUrb at h
    dsimp only at h
    split at h
    · exact ⟨_, .inl (Except.error.inj h).symm⟩
    · split at h
      · exact ⟨_, .inr (Except.error.inj h).symm⟩
      · cases h

/-- A reset makes the pipe fresh; without one, the queue is left as it is. -/
theorem handlePipeResetScenarios_cases (fw : Framework) (rc : RequestContext) (qc : QueueContext) :
    ((handlePipeResetScenarios fw rc qc).1.isFreshPipeReset = true ∧
        (handlePipeResetScenarios fw rc qc).2.any Effect.resets = true) ∨
      ((handlePipeResetScenarios fw rc qc).1 = qc ∧
        (handlePipeResetScenarios fw rc qc).2.any Effect.resets = false) := by
  unfold handlePipeResetScenarios
  split_ifs with hdue hsuccess
  · exact .inl ⟨rfl, by simpa [Effect.resets] using hsuccess⟩
  · exact .inr ⟨rfl, by simpa [Effect.resets] using hsuccess⟩
  · exact .inr ⟨rfl, rfl⟩

theorem queue_submitUrb (routine : Routine) (urb : IsoUrb) :
    (submitUrb fw qc routine urb).queue = qc := by
  unfold submitUrb
  split_ifs <;> rfl

theorem resets_submitUrb (routine : Routine) (urb : IsoUrb) :
    (submitUrb fw qc routine urb).effects.any Effect.resets = false := by
  unfold submitUrb
  split_ifs <;> rfl

theorem sentUrbs_submitUrb (routine : Routine) (urb : IsoUrb) :
    sentUrbs (submitUrb fw qc routine urb).effects = if isoSubmits fw then [urb] else [] := by
  unfold submitUrb isoSubmits
  rw [ntSuccess_submitAsyncQueueRequest]
  cases ntSuccess fw.formatRequest <;> cases fw.send <;> rfl

theorem sentUrbs_handlePipeResetScenarios (fw : Framework) (rc : RequestContext)
    (qc : QueueContext) : sentUrbs (handlePipeResetScenarios fw rc qc).2 = [] := by
  unfold handlePipeResetScenarios
  split_ifs <;> rfl

theorem resets_frameAndSubmit (routine : Routine) (urb : IsoUrb) :
    (frameAndSubmit fw dc rc qc routine urb).effects.any Effect.resets =
      (handlePipeResetScenarios fw rc qc).2.any Effect.resets := by
  unfold frameAndSubmit
  rw [Served.effects_after, List.any_append, resets_submitUrb, Bool.or_false]

theorem sentUrbs_frameAndSubmit (routine : Routine) (urb : IsoUrb) :
    sentUrbs (frameAndSubmit fw dc rc qc routine urb).effects =
      if isoSubmits fw then
        [(isoSetStartFrame fw dc.isHighSpeed rc urb (handlePipeResetScenarios fw rc qc).1).2]
      else [] := by
  unfold frameAndSubmit
  rw [Served.effects_after, sentUrbs, List.filterMap_append, ← sentUrbs, ← sentUrbs,
    sentUrbs_handlePipeResetScenarios, sentUrbs_submitUrb, List.nil_append]

theorem queue_frameAndSubmit (routine : Routine) (urb : IsoUrb) :
    (frameAndSubmit fw dc rc qc routine urb).queue =
      (isoSetStartFrame fw dc.isHighSpeed rc urb (handlePipeResetScenarios fw rc qc).1).1 :=
  queue_submitUrb _ _

end

theorem firstFrame_eq (isHS : Bool) (latency : ℕ) (frame : UInt32) :
    (if isHS = true ∧ (frame + UInt32.ofNat (latency % 0x10000)) % 8 ≠ 0 then
        frame + UInt32.ofNat (latency % 0x10000) +
          (8 - (frame + UInt32.ofNat (latency % 0x10000)) % 8)
      else frame + UInt32.ofNat (latency % 0x10000)) = firstFrame isHS latency frame := by
  unfold firstFrame roundUpTo8
  cases isHS with
  | false => rfl
  | true =>
    simp only [true_and, if_true]
    split_ifs <;> first | rfl | contradiction

/-! ### The invariant -/

/-- The count of a queue is that of its history. -/
structure Counts (qc : QueueContext) (h : IsoHistory) : Prop where
  fresh : qc.isFreshPipeReset = true → h.start = none
  next : qc.info.interval ≠ 0 → ∀ first, h.start = some first →
    qc.nextFrameNumber = first + h.total + h.unsent

theorem Counts.submit {qc qc' : QueueContext} {h : IsoHistory} (hc : Counts qc h)
    (hfresh : qc'.isFreshPipeReset = false) (hinfo : qc'.info = qc.info) {frames : UInt32}
    (hnext : qc.info.interval ≠ 0 → h.start ≠ none →
      qc'.nextFrameNumber = qc.nextFrameNumber + frames) (submitted : Bool) :
    Counts qc' (h.submit submitted frames) where
  fresh hf := absurd (hfresh.symm.trans hf) Bool.false_ne_true
  next hinterval first hfirst := by
    rw [hinfo] at hinterval
    have hstart : h.start = some first := by
      rw [← hfirst]
      unfold IsoHistory.submit
      split_ifs <;> rfl
    rw [hnext hinterval (by rw [hstart]; exact Option.some_ne_none first),
      hc.next hinterval first hstart]
    unfold IsoHistory.submit
    cases submitted with
    | true => simp only [if_true]; ac_rfl
    | false => simp only [Bool.false_eq_true, if_false]; ac_rfl

/-- What `isoSetStartFrame` does: the three cases of its two tests. -/
inductive StartFrameSet (fw : Framework) (isHS : Bool) (rc : RequestContext) (urb : IsoUrb)
    (qc : QueueContext) : QueueContext × IsoUrb → Prop
  /-- No frame number could be retrieved. -/
  | asap (hfresh : qc.isFreshPipeReset = true) (hframe : ntSuccess fw.currentFrame.1 = false) :
    StartFrameSet fw isHS rc urb qc
      ({ qc with isFreshPipeReset := false, nextFrameNumber := 0 }, { urb with startAsap := true })
  /-- A frame number is retrieved. -/
  | first (hfresh : qc.isFreshPipeReset = true) (hframe : ntSuccess fw.currentFrame.1 = true) :
    StartFrameSet fw isHS rc urb qc
      (isoAssignNextFrameNumber fw isHS urb.numberOfPackets { qc with
          isFreshPipeReset := false
          nextFrameNumber := firstFrame isHS rc.policies.isoStartLatency fw.currentFrame.2 },
        { urb with startFrame := firstFrame isHS rc.policies.isoStartLatency fw.currentFrame.2 })
  /-- The count goes on. -/
  | next (hfresh : qc.isFreshPipeReset = false) :
    StartFrameSet fw isHS rc urb qc
      (isoAssignNextFrameNumber fw isHS urb.numberOfPackets qc,
        { urb with startFrame := qc.nextFrameNumber })

theorem startFrameSet_isoSetStartFrame (fw : Framework) (isHS : Bool) {rc : RequestContext}
    (urb : IsoUrb) (qc : QueueContext) (hasap : rc.policies.isoAlwaysStartAsap = false) :
    StartFrameSet fw isHS rc urb qc (isoSetStartFrame fw isHS rc urb qc) := by
  unfold isoSetStartFrame isoCheckInitNextFrameNumber
  rw [hasap, if_neg Bool.false_ne_true, Bool.not_false, if_pos rfl]
  cases hfresh : qc.isFreshPipeReset with
  | false => exact .next hfresh
  | true =>
    rw [if_pos rfl]
    cases hframe : ntSuccess fw.currentFrame.1 with
    | false => exact .asap hfresh hframe
    | true =>
      dsimp only
      rw [firstFrame_eq]
      exact .first hfresh hframe

theorem isoAssignNextFrameNumber_frame (fw : Framework) (isHS : Bool) (numberOfPackets : UInt32)
    (qc : QueueContext) :
    (isoAssignNextFrameNumber fw isHS numberOfPackets qc).isFreshPipeReset = qc.isFreshPipeReset ∧
      (isoAssignNextFrameNumber fw isHS numberOfPackets qc).info = qc.info := by
  unfold isoAssignNextFrameNumber
  split_ifs <;> exact ⟨rfl, rfl⟩

theorem StartFrameSet.info {fw : Framework} {isHS : Bool} {rc : RequestContext} {urb : IsoUrb}
    {qc : QueueContext} {r : QueueContext × IsoUrb} (h : StartFrameSet fw isHS rc urb qc r) :
    r.1.info = qc.info := by
  cases h with
  | asap => rfl
  | first => exact (isoAssignNextFrameNumber_frame fw _ _ _).2
  | next => exact (isoAssignNextFrameNumber_frame fw _ _ _).2

/-- The start frame is set, from a count that is that of the history. -/
theorem Counts.startFrameSet {fw : Framework} {isHS : Bool} {rc : RequestContext}
    {qc : QueueContext} {h : IsoHistory} {urb : IsoUrb} {r : QueueContext × IsoUrb}
    (hc : Counts qc h) (hr : StartFrameSet fw isHS rc urb qc r) (submitted : Bool) :
    Counts r.1 ((h.retrieve isHS fw rc qc.isFreshPipeReset).submit submitted
      (framesTaken isHS qc.info.interval urb.numberOfPackets)) := by
  cases hr with
  | asap hfresh hframe =>
    have hnone := hc.fresh hfresh
    unfold IsoHistory.retrieve
    rw [hframe, Bool.and_false, if_neg Bool.false_ne_true]
    refine ⟨fun hf => absurd hf Bool.false_ne_true, fun _ first hfirst => ?_⟩
    unfold IsoHistory.submit at hfirst
    split_ifs at hfirst
    · cases hnone.symm.trans hfirst
    · cases hnone.symm.trans hfirst
  | first hfresh hframe =>
    unfold IsoHistory.retrieve
    rw [hfresh, hframe, Bool.and_true, if_pos rfl]
    have hcounts : Counts { qc with
          isFreshPipeReset := false
          nextFrameNumber := firstFrame isHS rc.policies.isoStartLatency fw.currentFrame.2 }
        { start := some (firstFrame isHS rc.policies.isoStartLatency fw.currentFrame.2) } := by
      refine ⟨fun hf => absurd hf Bool.false_ne_true, fun _ first hfirst => ?_⟩
      cases hfirst
      simp
    obtain ⟨hkept, hinfo⟩ := isoAssignNextFrameNumber_frame fw isHS urb.numberOfPackets { qc with
      isFreshPipeReset := false
      nextFrameNumber := firstFrame isHS rc.policies.isoStartLatency fw.currentFrame.2 }
    refine hcounts.submit hkept hinfo (fun hinterval _ => ?_) submitted
    rw [isoAssignNextFrameNumber_eq fw isHS urb.numberOfPackets hinterval]
  | next hfresh =>
    unfold IsoHistory.retrieve
    rw [hfresh, Bool.false_and, if_neg Bool.false_ne_true]
    obtain ⟨hkept, hinfo⟩ := isoAssignNextFrameNumber_frame fw isHS urb.numberOfPackets qc
    refine hc.submit (hkept.trans hfresh) hinfo (fun hinterval _ => ?_) submitted
    rw [isoAssignNextFrameNumber_eq fw isHS urb.numberOfPackets hinterval]

/-- The reset before a transfer. -/
theorem Counts.handlePipeResetScenarios {qc : QueueContext} {h : IsoHistory} (hc : Counts qc h)
    (fw : Framework) (rc : RequestContext) :
    Counts (handlePipeResetScenarios fw rc qc).1
      (h.reset (LibusbK.handlePipeResetScenarios fw rc qc).2) := by
  unfold IsoHistory.reset
  rcases handlePipeResetScenarios_cases fw rc qc with ⟨-, hresets⟩ | ⟨hqc, hresets⟩
  · rw [hresets, if_pos rfl]
    exact ⟨fun _ => rfl, fun _ first hfirst => by cases hfirst⟩
  · rw [hresets, if_neg Bool.false_ne_true, hqc]
    exact hc

namespace IsoFrames

/-- The invariant of a queue. -/
structure Inv (s : IsoFrames) : Prop where
  counts : Counts s.qc s.history
  follows : StartFramesFollow s

variable {dc : DeviceContext} {s : IsoFrames} {job : IsoJob} {fw : Framework}
  {rc : RequestContext} {urb : IsoUrb}

/-- A transfer that comes as far as its start frame. -/
theorem serve_of_prepared (hprepare : job.prepare fw dc rc s.qc = some (.ok urb)) :
    let reset := handlePipeResetScenarios fw rc s.qc
    let framed := isoSetStartFrame fw dc.isHighSpeed rc urb reset.1
    let history := (s.history.reset reset.2).retrieve dc.isHighSpeed fw rc
      reset.1.isFreshPipeReset
    s.serve dc job fw rc (frameAndSubmit fw dc rc s.qc job.routine urb) =
      { qc := framed.1
        history := history.submit (isoSubmits fw)
          (framesTaken dc.isHighSpeed s.qc.info.interval urb.numberOfPackets)
        sent := s.sent ++
          if isoSubmits fw then [⟨framed.2, history.start, history.total⟩] else [] } := by
  dsimp only
  unfold serve
  dsimp only
  rw [hprepare]
  dsimp only
  rw [queue_frameAndSubmit, sentUrbs_frameAndSubmit]
  unfold IsoHistory.reset
  rw [resets_frameAndSubmit]
  congr 2
  cases isoSubmits fw <;> rfl

theorem continues_of_prepared (hprepare : job.prepare fw dc rc s.qc = some (.ok urb)) :
    job.continues dc s fw rc =
      (isoSubmits fw && !(handlePipeResetScenarios fw rc s.qc).1.isFreshPipeReset) := by
  unfold IsoJob.continues
  rw [hprepare]
  rfl

/-- The URB of a transfer that is submitted. -/
theorem Inv.follows_sent (h : s.Inv) (hasap : rc.policies.isoAlwaysStartAsap = false)
    (hprepare : job.prepare fw dc rc s.qc = some (.ok urb))
    (hok : s.Continuable dc (.transfer job fw rc)) :
    StartFramesFollow (s.serve dc job fw rc (frameAndSubmit fw dc rc s.qc job.routine urb)) := by
  rw [serve_of_prepared hprepare]
  have hset := startFrameSet_isoSetStartFrame fw dc.isHighSpeed urb
    (handlePipeResetScenarios fw rc s.qc).1 hasap
  generalize isoSetStartFrame fw dc.isHighSpeed rc urb (handlePipeResetScenarios fw rc s.qc).1 =
    framed at hset
  intro u hu hnot
  rcases List.mem_append.mp hu with hold | hnew
  · exact h.follows u hold hnot
  cases hsubmits : isoSubmits fw with
  | false =>
    rw [hsubmits] at hnew
    cases hnew
  | true =>
    rw [hsubmits, if_pos rfl, List.mem_singleton] at hnew
    subst hnew
    dsimp only at hnot ⊢
    cases hset with
    | asap hfresh hframe => cases hnot
    | first hfresh hframe =>
      unfold IsoHistory.retrieve
      rw [hfresh, hframe, Bool.and_true, if_pos rfl]
      exact ⟨_, rfl, by simp⟩
    | next hfresh =>
      -- no reset before this transfer
      rcases handlePipeResetScenarios_cases fw rc s.qc with ⟨hreset, -⟩ | ⟨hqc, hresets⟩
      · exact absurd (hfresh.symm.trans hreset) Bool.false_ne_true
      obtain ⟨hstart, hunsent, hinterval⟩ := hok (by
        rw [continues_of_prepared hprepare, hsubmits, hfresh]
        rfl)
      obtain ⟨first, hfirst⟩ := Option.isSome_iff_exists.mp hstart
      unfold IsoHistory.retrieve IsoHistory.reset
      rw [hfresh, Bool.false_and, if_neg Bool.false_ne_true, hresets, if_neg Bool.false_ne_true]
      refine ⟨first, hfirst, ?_⟩
      rw [hqc, h.counts.next hinterval first hfirst, hunsent]
      simp

theorem counts_prepared (h : Counts s.qc s.history)
    (hasap : rc.policies.isoAlwaysStartAsap = false)
    (hprepare : job.prepare fw dc rc s.qc = some (.ok urb)) :
    Counts (s.serve dc job fw rc (frameAndSubmit fw dc rc s.qc job.routine urb)).qc
      (s.serve dc job fw rc (frameAndSubmit fw dc rc s.qc job.routine urb)).history := by
  rw [serve_of_prepared hprepare]
  have hcounts := (h.handlePipeResetScenarios fw rc).startFrameSet
    (startFrameSet_isoSetStartFrame fw dc.isHighSpeed urb _ hasap) (isoSubmits fw)
  rwa [info_handlePipeResetScenarios] at hcounts

/-- A transfer that gets no start frame. -/
theorem serve_of_error {served : Served}
    (hprepare : job.prepare fw dc rc s.qc = some (.error served)) :
    s.serve dc job fw rc served =
      { s with qc := served.queue, history := s.history.reset served.effects } := by
  unfold serve
  dsimp only
  rw [hprepare]

theorem counts_error (h : Counts s.qc s.history) {served : Served}
    (hprepare : job.prepare fw dc rc s.qc = some (.error served)) :
    Counts served.queue (s.history.reset served.effects) := by
  obtain ⟨status, rfl | rfl⟩ := error_prepare hprepare
  · exact h
  · have hresets : ((handlePipeResetScenarios fw rc s.qc).2 ++ [Effect.complete status 0]).any
        Effect.resets = (handlePipeResetScenarios fw rc s.qc).2.any Effect.resets := by
      rw [List.any_append]
      exact Bool.or_false _
    have hcounts := h.handlePipeResetScenarios fw rc
    unfold IsoHistory.reset at hcounts ⊢
    rw [Served.queue_after, Served.effects_after, effects_completeWithInformation, hresets]
    exact hcounts

/-- All that a transfer can do. -/
theorem transfer_cases {s' : IsoFrames}
    (hs : (isoFrames dc).step s (.transfer job fw rc) = some s') :
    rc.policies.isoAlwaysStartAsap = false ∧
      ((∃ served, job.prepare fw dc rc s.qc = some (.error served) ∧
        s' = s.serve dc job fw rc served) ∨
      ∃ urb, job.prepare fw dc rc s.qc = some (.ok urb) ∧
        s' = s.serve dc job fw rc (frameAndSubmit fw dc rc s.qc job.routine urb)) := by
  simp only [isoFrames] at hs
  split at hs
  · cases hs
  · next hguard =>
    rw [Bool.or_eq_true, not_or] at hguard
    rw [serve_eq_prepare fw dc rc s.qc (eq_false_of_ne_true hguard.2), Option.map_map] at hs
    obtain ⟨prepared, hprepare, rfl⟩ := Option.map_eq_some_iff.mp hs
    refine ⟨eq_false_of_ne_true hguard.1, ?_⟩
    cases prepared with
    | error served => exact .inl ⟨served, hprepare, rfl⟩
    | ok urb => exact .inr ⟨urb, hprepare, rfl⟩

theorem Inv.step {s' : IsoFrames} {e : IsoEvent} (h : s.Inv) (hok : s.Continuable dc e)
    (hs : (isoFrames dc).step s e = some s') : s'.Inv := by
  cases e with
  | transfer job fw rc =>
    obtain ⟨hasap, ⟨served, hprepare, rfl⟩ | ⟨urb, hprepare, rfl⟩⟩ := transfer_cases hs
    · rw [serve_of_error hprepare]
      exact ⟨counts_error h.counts hprepare, h.follows⟩
    · exact ⟨counts_prepared h.counts hasap hprepare, h.follows_sent hasap hprepare hok⟩
  | complete rc status =>
    cases hs
    refine ⟨?_, h.follows⟩
    unfold handlePipeResetScenariosForComplete
    split_ifs
    · exact ⟨h.counts.fresh, h.counts.next⟩
    · exact h.counts
  | resetPipe status =>
    simp only [isoFrames] at hs
    split at hs
    · cases hs
      exact ⟨⟨fun _ => rfl, fun _ first hfirst => by cases hfirst⟩, h.follows⟩
    · cases hs
      exact h
  | leaveD0 =>
    cases hs
    exact ⟨⟨h.counts.fresh, h.counts.next⟩, h.follows⟩

/-- The pipe of a queue never changes. -/
theorem info_step {s' : IsoFrames} {e : IsoEvent}
    (hs : (isoFrames dc).step s e = some s') : s'.qc.info = s.qc.info := by
  cases e with
  | transfer job fw rc =>
    obtain ⟨hasap, ⟨served, hprepare, rfl⟩ | ⟨urb, hprepare, rfl⟩⟩ := transfer_cases hs
    · rw [serve_of_error hprepare]
      obtain ⟨status, rfl | rfl⟩ := error_prepare hprepare
      · rfl
      · exact info_handlePipeResetScenarios fw rc s.qc
    · rw [serve_of_prepared hprepare]
      have hset := startFrameSet_isoSetStartFrame fw dc.isHighSpeed urb
        (handlePipeResetScenarios fw rc s.qc).1 hasap
      exact hset.info.trans (info_handlePipeResetScenarios fw rc s.qc)
  | complete rc status =>
    cases hs
    exact info_handlePipeResetScenariosForComplete status rc s.qc
  | resetPipe status =>
    simp only [isoFrames] at hs
    split at hs <;> cases hs <;> rfl
  | leaveD0 =>
    cases hs
    rfl

/-- A start frame that is right was taken from a count that could be continued. -/
theorem continuable_of_follows {s' : IsoFrames} {e : IsoEvent} (h : s.Inv)
    (hinterval : s.qc.info.interval ≠ 0) (hs : (isoFrames dc).step s e = some s')
    (hfollows : StartFramesFollow s') : s.Continuable dc e := by
  cases e with
  | transfer job fw rc =>
    intro hcontinues
    obtain ⟨hasap, ⟨served, hprepare, rfl⟩ | ⟨urb, hprepare, rfl⟩⟩ := transfer_cases hs
    · unfold IsoJob.continues at hcontinues
      rw [hprepare] at hcontinues
      cases hcontinues
    · rw [continues_of_prepared hprepare, Bool.and_eq_true, Bool.not_eq_true'] at hcontinues
      obtain ⟨hsubmits, hfresh⟩ := hcontinues
      rcases handlePipeResetScenarios_cases fw rc s.qc with ⟨hreset, -⟩ | ⟨hqc, hresets⟩
      · exact absurd (hfresh.symm.trans hreset) Bool.false_ne_true
      rw [serve_of_prepared hprepare] at hfollows
      have hset := startFrameSet_isoSetStartFrame fw dc.isHighSpeed urb
        (handlePipeResetScenarios fw rc s.qc).1 hasap
      generalize isoSetStartFrame fw dc.isHighSpeed rc urb
        (handlePipeResetScenarios fw rc s.qc).1 = framed at hset hfollows
      rw [hsubmits, if_pos rfl] at hfollows
      have hurb := hfollows _ (List.mem_append_right _ (List.mem_singleton_self _))
      cases hset with
      | asap hfresh' | first hfresh' => exact absurd (hfresh.symm.trans hfresh') Bool.false_ne_true
      | next =>
        have hnot := startAsap_prepare hprepare
        obtain ⟨first, hfirst, hframe⟩ := hurb hnot
        unfold IsoHistory.retrieve IsoHistory.reset at hfirst hframe
        rw [hfresh, Bool.false_and, if_neg Bool.false_ne_true, hresets,
          if_neg Bool.false_ne_true] at hfirst hframe
        dsimp only at hframe
        rw [hqc, h.counts.next hinterval first hfirst] at hframe
        exact ⟨Option.isSome_of_eq_some hfirst, by simpa using hframe, hinterval⟩
  | complete | resetPipe | leaveD0 => trivial

/-- A queue of which nothing is known yet. -/
theorem inv_start (qc : QueueContext) : Inv { qc := qc } where
  counts := ⟨fun _ => rfl, fun _ first hfirst => by cases hfirst⟩
  follows u hu := by cases hu

end IsoFrames

/-- **Start frames follow the frame that was retrieved** in every run in which each transfer
that continues the count can do so; and, unless the interval is 0, in no other run. -/
theorem startFramesFollow_iff (dc : DeviceContext) (qc : QueueContext) (es : List IsoEvent) :
    ((isoFrames dc).Throughout (IsoFrames.Continuable dc) { qc := qc } es →
      (isoFrames dc).Always StartFramesFollow { qc := qc } es) ∧
    (qc.info.interval ≠ 0 → (isoFrames dc).Always StartFramesFollow { qc := qc } es →
      (isoFrames dc).Throughout (IsoFrames.Continuable dc) { qc := qc } es) := by
  constructor
  · intro hok
    exact hok.always (fun _ hs => hs.follows) (fun _ _ _ hs hok ht => hs.step hok ht)
      (IsoFrames.inv_start qc)
  · intro hinterval
    refine (Machine.always_iff_throughout (I := fun s : IsoFrames =>
      s.Inv ∧ s.qc.info.interval ≠ 0) (fun _ hs => hs.1.follows) (fun s e t hs hok ht => ?_)
      (fun s e t hs ht hfollows => ?_) ⟨IsoFrames.inv_start qc, hinterval⟩).mp
    · refine ⟨hs.1.step hok ht, ?_⟩
      rw [IsoFrames.info_step ht]
      exact hs.2
    · exact IsoFrames.continuable_of_follows hs.1 hs.2 ht hfollows

/-! ### Transfers of one millisecond -/

/-- The queue of a high-speed IN pipe with an interval of one microframe. -/
def isoInQueue : QueueContext where
  info := ⟨1, 0x81, 1, .isochronous, 64⟩

theorem length_le_oneMillisecond : 8 ≤ ([0, 0, 0, 0, 0, 0, 0, 0] : List UInt8).length := by decide

/-- A read of eight packets. -/
def oneMillisecond : RequestContext where
  length := 8
  buffer := [0, 0, 0, 0, 0, 0, 0, 0]
  length_le := length_le_oneMillisecond

/-- The second read starts one frame after the first. -/
theorem startFramesFollow_twoReads :
    (isoFrames {}).Always StartFramesFollow { qc := isoInQueue }
      [.transfer .read { currentFrame := (STATUS_SUCCESS, 100) } oneMillisecond,
        .transfer .read {} oneMillisecond] :=
  (startFramesFollow_iff {} isoInQueue _).1 (by decide)

/-- The start frame is not the one the history asks for. -/
def SentUrb.isWrong (u : SentUrb) : Bool :=
  !u.urb.startAsap && u.start.all fun first => u.urb.startFrame != first + u.total

theorem not_startFramesFollow_of_exec {dc : DeviceContext} {s : IsoFrames} {es : List IsoEvent}
    (hrun : ((isoFrames dc).exec s es).any (fun t => t.sent.any SentUrb.isWrong) = true) :
    ¬(isoFrames dc).Always StartFramesFollow s es := by
  intro h
  obtain ⟨t, ht, hany⟩ := (Option.any_eq_true _ _).mp hrun
  obtain ⟨u, hu, hwrong⟩ := List.any_eq_true.mp hany
  unfold SentUrb.isWrong at hwrong
  rw [Bool.and_eq_true, Bool.not_eq_true'] at hwrong
  obtain ⟨first, hfirst, hframe⟩ := h.exec ht u hu hwrong.1
  rw [hfirst, Option.all_some, bne_iff_ne] at hwrong
  exact hwrong.2 hframe

/-- After a frame number that cannot be retrieved, the next read starts at frame 0; after a
read that cannot be submitted, the next one starts as if it had been. -/
theorem not_startFramesFollow_failures :
    ¬(isoFrames {}).Always StartFramesFollow { qc := isoInQueue }
        [.transfer .read { currentFrame := (STATUS_IO_TIMEOUT, 0) } oneMillisecond,
          .transfer .read {} oneMillisecond] ∧
      ¬(isoFrames {}).Always StartFramesFollow { qc := isoInQueue }
        [.transfer .read
            { currentFrame := (STATUS_SUCCESS, 100), formatRequest := STATUS_IO_TIMEOUT }
            oneMillisecond,
          .transfer .read {} oneMillisecond] :=
  ⟨not_startFramesFollow_of_exec (by decide), not_startFramesFollow_of_exec (by decide)⟩

end LibusbK
