import LibusbK.Driver.DefaultQueue
import LibusbK.Driver.PipeInvariant
import LibusbK.Lib.Machine

/-!
# Policy changes among transfer requests

The default queue presents its requests in parallel, so the steps of a
`SET_PIPE_POLICY` (`Policy_SetPipe` of `drv_policy.c`) fall between those of
transfer requests (`mRequest_InitAndForwardToQueue` of `drv_queue_default.c`).
`Policy_SetPipe` works on a copy of the policy word, marks the queue dirty in its
switch and stores the word at the end; a transfer request tests the mark,
refreshes the queue, copies the word and is forwarded.  The dispatch type of a
queue is that of the word when the queue was made.

## Main definitions

* `QueuedPc`, `QueuedPc.run` -- the points a request can be at, and its next step.
* `defaultQueue` -- the machine of all the requests of a device.
* `NonRawOnSequential` -- what is not raw went to a queue with sequential dispatch.
* `NonRawApart` -- no two requests that are not raw use one queue context at a time.

## Main results

* `setPipePolicy_alone`, `transfer_alone` -- the steps of a request that nothing
  comes between make up the operation of the model.
* `nonRawOnSequential_of_throughout` -- non-raw requests go to sequential queues in
  every run in which a word without `RawIO` is stored while the queue is still
  dirty, and a queue is made raw while no non-raw request waits for its forward.
-/

namespace LibusbK

/-! ### The requests -/

/-- A `SET_PIPE_POLICY` request. -/
structure PolicyJob where
  pipeID : UInt8
  policyType : UInt32
  value : ValueBytes
  valueLength : UInt32

/-- A transfer request, and what it is forwarded as. -/
structure TransferJob where
  request : TransferRequest
  requestType : WdfRequestType
  actualRequestType : WdfRequestType
  ioControlCode : UInt32

/-- The slot of the request's pipe. -/
def TransferJob.slot (job : TransferJob) : Fin 32 := pipeSlot job.request.pipeID

/-- What a request does next. -/
inductive QueuedPc
  /-- The switch of `Policy_SetPipe`; `policies` is `pipePolicies`. -/
  | switch (job : PolicyJob) (policies : PolicyValues)
  /-- `Done:` of `Policy_SetPipe`. -/
  | commit (pipeID : UInt8) (policies : PolicyValues) (status : NTSTATUS)
  /-- The queue was found dirty. -/
  | refresh (job : TransferJob)
  /-- Fill in the request context. -/
  | copy (job : TransferJob)
  /-- `WdfRequestForwardToIoQueue`. -/
  | forward (job : TransferJob) (rc : RequestContext)

/-- The queue of a pipe. -/
def DeviceState.queueOf (s : DeviceState) (k : Fin 32) : Option QueueObject :=
  (s.pipes k).queue.bind s.queues.get

/-- A request that was delivered to the queue of a pipe of this type. -/
structure DeliveredRequest where
  pipeType : WdfUsbPipeType
  queue : WdfHandle
  forwarded : Forwarded

/-- The beginning of a `SET_PIPE_POLICY`; `none` is a request that is completed. -/
def setPolicyBegin (s : DeviceState) (job : PolicyJob) : Option QueuedPc :=
  let pc := getPipeContextByID s.pipes job.pipeID
  if !pc.isValid || pc.queue.isNone then none
  else some (.switch job pc.policies)

/-- The beginning of a transfer request. -/
def transferBegin (s : DeviceState) (job : TransferJob) : Option QueuedPc :=
  let pc := s.pipes job.slot
  if !pc.isValid || pc.queue.isNone then none
  else some (if pc.isQueueDirty then .refresh job else .copy job)

/-- What a step leaves: the device, the rest of the request unless it is done, and
what it delivered. -/
structure QueuedStep where
  device : DeviceState
  next : Option QueuedPc := none
  delivered : Option DeliveredRequest := none

/-- The next step of a request. -/
def QueuedPc.run (s : DeviceState) (a : DispatchAnswers) : QueuedPc → QueuedStep
  | switch job policies =>
    let pc := getPipeContextByID s.pipes job.pipeID
    let u := setPolicy s.device.isHighSpeed { pc with policies := policies } job.policyType
      job.value job.valueLength
    -- of the pipe context, the cases write what is not the policy word
    { device := s.setPipe (pipeSlot job.pipeID) { u.context with policies := pc.policies }
      next := some (.commit job.pipeID u.policies u.status) }
  | commit pipeID policies status =>
    if ntSuccess status then
      { device := s.setPipe (pipeSlot pipeID)
          { s.pipes (pipeSlot pipeID) with policies := policies } }
    else { device := s }
  | refresh job =>
    let r := pipeRefreshQueue s job.slot a.refresh
    { device := r.1, next := if ntSuccess r.2 then some (.copy job) else none }
  | copy job =>
    match s.queueOf job.slot with
    | none => { device := s }
    | some _ =>
      { device := s
        next := some (.forward job (job.request.context (s.pipes job.slot) job.requestType
          job.actualRequestType job.ioControlCode)) }
  | forward job rc =>
    match s.queueOf job.slot with
    | none => { device := s }
    | some queue =>
      if !ntSuccess a.forwardToIoQueue then { device := s }
      else
        { device := s
          delivered := some ⟨(s.pipes job.slot).pipeInformation.pipeType,
            (s.pipes job.slot).queue, ⟨queue, rc⟩⟩ }

/-- A request that nothing comes between takes its steps one after the other;
every request is done after three. -/
def QueuedPc.alone (a : DispatchAnswers) : ℕ → DeviceState → QueuedPc →
    DeviceState × Option DeliveredRequest
  | 0, s, _ => (s, none)
  | fuel + 1, s, pc =>
    match (pc.run s a).next with
    | none => ((pc.run s a).device, (pc.run s a).delivered)
    | some next => next.alone a fuel (pc.run s a).device

/-! ### Requests that are alone -/

/-- What the cases of `Policy_SetPipe` leave of the pipe context as it is. -/
structure KeptBySwitch (pc pc' : PipeContext) : Prop where
  samePipe : SamePipe pc pc'
  isValid : pc'.isValid = pc.isValid
  policies : pc'.policies = pc.policies
  isQueueDirty : pc.isQueueDirty = true → pc'.isQueueDirty = true

theorem KeptBySwitch.refl (pc : PipeContext) : KeptBySwitch pc pc :=
  ⟨.refl pc, rfl, rfl, fun h => h⟩

theorem keptBySwitch_setPolicy (isHighSpeed : Bool) (pc : PipeContext) (policyType : UInt32)
    (value : ValueBytes) (valueLength : UInt32) :
    KeptBySwitch pc (setPolicy isHighSpeed pc policyType value valueLength).context := by
  unfold setPolicy
  split
  · unfold setRawIo
    dsimp only
    split_ifs
    · exact .refl pc
    · exact .refl pc
    · exact ⟨⟨rfl, rfl, rfl⟩, rfl, rfl, fun _ => rfl⟩
    · exact ⟨⟨rfl, rfl, rfl⟩, rfl, rfl, fun _ => rfl⟩
    · exact .refl pc
  · unfold setFlag
    split_ifs <;> exact .refl pc
  · unfold setTransferTimeout
    split_ifs
    · exact .refl pc
    · exact ⟨⟨rfl, rfl, rfl⟩, rfl, rfl, fun h => h⟩
  · unfold setIsoStartLatency
    split_ifs <;> exact .refl pc
  · unfold setIsoNumFixedPackets
    dsimp only
    split_ifs <;> exact .refl pc
  · unfold setSimulParallelRequests
    split_ifs
    · exact .refl pc
    · exact ⟨⟨rfl, rfl, rfl⟩, rfl, rfl, fun _ => rfl⟩
    · exact .refl pc
  · exact .refl pc
  · exact .refl pc

/-- A `SET_PIPE_POLICY` that nothing comes between is the operation of the model. -/
theorem setPipePolicy_alone (s : DeviceState) (job : PolicyJob) (a : DispatchAnswers) :
    (setPipePolicy s job.pipeID job.policyType job.value job.valueLength).1 =
      match setPolicyBegin s job with
      | none => s
      | some pc => (pc.alone a 2 s).1 := by
  unfold setPolicyBegin setPipePolicy
  dsimp only
  split
  · rfl
  · next hvalid =>
    have hpipe : (getPipeContextByID s.pipes job.pipeID).isValid = true := by
      cases h : (getPipeContextByID s.pipes job.pipeID).isValid with
      | true => rfl
      | false =>
        rw [h] at hvalid
        exact absurd rfl hvalid
    unfold policySetPipe
    dsimp only
    rw [hpipe]
    have hkept := keptBySwitch_setPolicy s.device.isHighSpeed
      (getPipeContextByID s.pipes job.pipeID) job.policyType job.value job.valueLength
    generalize hu : setPolicy s.device.isHighSpeed (getPipeContextByID s.pipes job.pipeID)
      job.policyType job.value job.valueLength = u at hkept
    simp only [QueuedPc.alone, QueuedPc.run, hu]
    cases hstatus : ntSuccess u.status with
    | true =>
      simp only [if_true, PolicyUpdate.done, hstatus, DeviceState.setPipe,
        Function.update_idem, Function.update_self]
      rfl
    | false =>
      simp only [PolicyUpdate.done, hstatus, DeviceState.setPipe, ← hkept.policies]
      rfl

/-- What the copy and the forward give. -/
def TransferJob.forwardFrom (job : TransferJob) (s : DeviceState) (a : DispatchAnswers) :
    Option Forwarded :=
  if !ntSuccess a.forwardToIoQueue then none
  else (s.queueOf job.slot).map fun queue =>
    ⟨queue, job.request.context (s.pipes job.slot) job.requestType job.actualRequestType
      job.ioControlCode⟩

theorem copy_alone (s : DeviceState) (job : TransferJob) (a : DispatchAnswers) (fuel : ℕ) :
    (QueuedPc.alone a (fuel + 2) s (.copy job)).2.map DeliveredRequest.forwarded =
      job.forwardFrom s a := by
  unfold TransferJob.forwardFrom
  cases hqueue : s.queueOf job.slot with
  | none => simp [QueuedPc.alone, QueuedPc.run, hqueue]
  | some queue =>
    simp only [QueuedPc.alone, QueuedPc.run, hqueue]
    split_ifs <;> rfl

theorem initAndForwardToQueue_of_failure {s : DeviceState} {job : TransferJob}
    {a : DispatchAnswers}
    (h : ntSuccess (refreshForRequest s job.request.pipeID a.refresh).2 = false) :
    (initAndForwardToQueue s job.request job.requestType job.actualRequestType job.ioControlCode
      a).toOption = none := by
  unfold initAndForwardToQueue
  dsimp only
  rw [h]
  rfl

theorem initAndForwardToQueue_of_success {s : DeviceState} {job : TransferJob}
    {a : DispatchAnswers}
    (h : ntSuccess (refreshForRequest s job.request.pipeID a.refresh).2 = true) :
    (initAndForwardToQueue s job.request job.requestType job.actualRequestType job.ioControlCode
        a).toOption =
      job.forwardFrom (refreshForRequest s job.request.pipeID a.refresh).1 a := by
  unfold initAndForwardToQueue TransferJob.forwardFrom DeviceState.queueOf
  dsimp only [TransferJob.slot]
  rw [h]
  cases Option.bind _ (refreshForRequest s job.request.pipeID a.refresh).1.queues.get with
  | none => split_ifs <;> rfl
  | some queue =>
    simp only [Bool.not_true, Bool.false_eq_true, if_false]
    split_ifs <;> rfl

/-- A transfer request that nothing comes between is forwarded as in the model. -/
theorem transfer_alone (s : DeviceState) (job : TransferJob) (a : DispatchAnswers) :
    (initAndForwardToQueue s job.request job.requestType job.actualRequestType job.ioControlCode
        a).toOption =
      match transferBegin s job with
      | none => none
      | some pc => (pc.alone a 3 s).2.map DeliveredRequest.forwarded := by
  unfold transferBegin TransferJob.slot
  dsimp only
  have hlookup : refreshForRequest s job.request.pipeID a.refresh =
      if !(s.pipes (pipeSlot job.request.pipeID)).isValid ||
          (s.pipes (pipeSlot job.request.pipeID)).queue.isNone then (s, STATUS_NOT_FOUND)
      else if (s.pipes (pipeSlot job.request.pipeID)).isQueueDirty then
        pipeRefreshQueue s job.slot a.refresh
      else (s, STATUS_SUCCESS) := rfl
  by_cases hvalid : (!(s.pipes (pipeSlot job.request.pipeID)).isValid ||
      (s.pipes (pipeSlot job.request.pipeID)).queue.isNone) = true
  · rw [if_pos hvalid] at hlookup ⊢
    exact initAndForwardToQueue_of_failure (by rw [hlookup]; rfl)
  rw [if_neg hvalid] at hlookup ⊢
  by_cases hdirty : (s.pipes (pipeSlot job.request.pipeID)).isQueueDirty = true
  · rw [if_pos hdirty] at hlookup ⊢
    dsimp only
    rw [QueuedPc.alone]
    cases hstatus : ntSuccess (pipeRefreshQueue s job.slot a.refresh).2 with
    | false =>
      rw [initAndForwardToQueue_of_failure (by rw [hlookup]; exact hstatus)]
      simp only [QueuedPc.run, hstatus]
      rfl
    | true =>
      rw [initAndForwardToQueue_of_success (by rw [hlookup]; exact hstatus), hlookup]
      simp only [QueuedPc.run, hstatus, if_true]
      exact (copy_alone _ job a 0).symm
  · rw [if_neg hdirty] at hlookup ⊢
    rw [initAndForwardToQueue_of_success (by rw [hlookup]; rfl), hlookup]
    exact (copy_alone s job a 1).symm

/-! ### What a refresh does to the queues -/

/-- The queue of the pipe presents requests in parallel. -/
def DeviceState.isParallel (s : DeviceState) (k : Fin 32) : Bool :=
  (s.queueOf k).any fun queue => queue.config.parallel

/-- A refresh makes a queue that is parallel because of the policies. -/
def DeviceState.refreshMakesRaw (s : DeviceState) (k : Fin 32) (a : StartAnswers) : Bool :=
  let pc := s.pipes k
  pc.isValid && pc.isQueueDirty && pc.pipe.isSome && PolicyFlag.rawIO.isSet pc.policies &&
    pc.pipeInformation.pipeType != .isochronous && a.creates pc.pipeInformation

/-- All that a refresh changes of a pipe that is not isochronous. -/
inductive RefreshedPipe (s : DeviceState) (k : Fin 32) (a : StartAnswers) (s' : DeviceState)
    (status : NTSTATUS) : Prop
  /-- The queue is the old one. -/
  | kept (hparallel : s'.isParallel k = s.isParallel k)
    (hdirty : (s'.pipes k).isQueueDirty = (s.pipes k).isQueueDirty)
    (hclean : ntSuccess status = true → (s.pipes k).pipe.isSome = true →
      (s.pipes k).isQueueDirty = false)
  /-- There is no queue, or a new one that is sequential. -/
  | sequential (hparallel : s'.isParallel k = false)
  /-- There is a new queue, for the raw requests that the policies ask for. -/
  | raw (hraw : s.refreshMakesRaw k a = true)

/-- A refresh leaves this of every pipe. -/
structure KeptByRefresh (s : DeviceState) (k : Fin 32) (s' : DeviceState) : Prop where
  other : ∀ k', k' ≠ k → s'.pipes k' = s.pipes k' ∧ s'.queueOf k' = s.queueOf k'
  pipe : (s'.pipes k).pipe = (s.pipes k).pipe
  info : (s'.pipes k).pipeInformation = (s.pipes k).pipeInformation
  policies : (s'.pipes k).policies = (s.pipes k).policies

theorem parallel_pipeInitQueueConfig {pc : PipeContext} {a : StartAnswers}
    (h : (pipeInitQueueConfig pc a).parallel = true) :
    pc.pipe.isSome = true ∧
      (pc.pipeInformation.pipeType = .isochronous ∨ PolicyFlag.rawIO.isSet pc.policies = true) := by
  unfold pipeInitQueueConfig at h
  dsimp only at h
  cases hpipe : pc.pipe with
  | none =>
    rw [hpipe] at h
    cases h
  | some pipe =>
    rw [hpipe, if_neg (by simp)] at h
    by_cases hraw : pc.pipeInformation.pipeType = .isochronous ∨
        PolicyFlag.rawIO.isSet pc.policies = true
    · exact ⟨rfl, hraw⟩
    · rw [if_neg hraw] at h
      cases h

/-- Changing a pipe context, and not the queue it refers to. -/
theorem queueOf_setPipe {s : DeviceState} {k : Fin 32} {pc : PipeContext}
    (h : pc.queue = (s.pipes k).queue) (k' : Fin 32) :
    (s.setPipe k pc).queueOf k' = s.queueOf k' := by
  unfold DeviceState.queueOf
  rw [DeviceState.pipes_setPipe, DeviceState.queues_setPipe]
  by_cases hk : k' = k
  · rw [hk, Function.update_self, h]
  · rw [Function.update_of_ne hk]

/-- The other pipes do not refer to the queue that is deleted. -/
theorem get_deleteQueue {s : DeviceState} (h : PipesConsistent s) {k k' : Fin 32} (hk : k' ≠ k)
    {q : ℕ} (hq : (s.pipes k').queue = some q) :
    (s.deleteQueue (s.pipes k).queue).queues.get q = s.queues.get q := by
  cases hqueue : (s.pipes k).queue with
  | none => rfl
  | some q' =>
    apply Objects.get_delete_of_ne
    rintro rfl
    exact hk (h.distinct k' k q hq hqueue)

theorem keptByRefresh_started {s s' : DeviceState} (h : PipesConsistent s) {k : Fin 32}
    {a : StartAnswers} (hs : PipeStarted s k false a s') : KeptByRefresh s k s' := by
  cases hs with
  | refused | noPipe => exact ⟨fun _ _ => ⟨rfl, rfl⟩, rfl, rfl, rfl⟩
  | noQueue queues hvalid hstart hneeds hcreates hget =>
    refine ⟨fun k' hk => ?_, by simp, by simp, by simp⟩
    have hpipe : ((s.withQueues queues).setPipe k { s.pipes k with
        isQueueDirty := false, queue := none, isValid := false }).pipes k' = s.pipes k' := by
      rw [DeviceState.pipes_setPipe, Function.update_of_ne hk, DeviceState.pipes_withQueues]
    refine ⟨hpipe, ?_⟩
    unfold DeviceState.queueOf
    rw [hpipe, DeviceState.queues_setPipe, DeviceState.queues_withQueues, hget]
    cases hq : (s.pipes k').queue with
    | none => rfl
    | some q => exact get_deleteQueue h hk hq
  | created hvalid hstart hneeds hcreates =>
    refine ⟨fun k' hk => ?_, by simp, by simp, by simp⟩
    refine ⟨by rw [DeviceState.pipes_setPipe, Function.update_of_ne hk]; rfl, ?_⟩
    unfold DeviceState.queueOf
    rw [DeviceState.pipes_setPipe, Function.update_of_ne hk, DeviceState.queues_setPipe,
      DeviceState.pipes_withQueues, DeviceState.queues_withQueues]
    cases hq : (s.pipes k').queue with
    | none => rfl
    | some q =>
      obtain ⟨obj, hget, -⟩ := h.queue k' q hq
      have hlive := get_deleteQueue h hk hq
      -- the new handle is no handle of the other pipe
      refine (Objects.get_create_of_ne _ _ ?_).trans hlive
      exact Nat.ne_of_lt (Objects.lt_next_of_get _ (hlive.trans hget))
  | kept hvalid hstart hneeds =>
    refine ⟨fun k' hk => ⟨?_, ?_⟩, by simp, by simp, by simp⟩
    · rw [DeviceState.pipes_setPipe, Function.update_of_ne hk]
    · apply queueOf_setPipe
      rfl

theorem keptByRefresh_pipeRefreshQueue {s : DeviceState} (h : PipesConsistent s) (k : Fin 32)
    (a : StartAnswers) : KeptByRefresh s k (pipeRefreshQueue s k a).1 := by
  have hstop : KeptByRefresh s k (pipeStop s k).1 := by
    unfold pipeStop
    split_ifs
    · refine ⟨fun k' hk => ⟨?_, ?_⟩, by simp, by simp, by simp⟩
      · rw [DeviceState.pipes_setPipe, Function.update_of_ne hk]
      · apply queueOf_setPipe
        rfl
    · exact ⟨fun _ _ => ⟨rfl, rfl⟩, rfl, rfl, rfl⟩
  unfold pipeRefreshQueue
  dsimp only
  split_ifs
  · exact hstop
  · have hstart := keptByRefresh_started (h.pipeStop k)
      (pipeStarted_pipeStart (pipeStop s k).1 k false a)
    refine ⟨fun k' hk => ⟨?_, ?_⟩, hstart.pipe.trans hstop.pipe, hstart.info.trans hstop.info,
      hstart.policies.trans hstop.policies⟩
    · exact (hstart.other k' hk).1.trans (hstop.other k' hk).1
    · exact (hstart.other k' hk).2.trans (hstop.other k' hk).2

theorem refreshedPipe_pipeRefreshQueue {s : DeviceState} (h : PipesConsistent s) {k : Fin 32}
    (a : StartAnswers)
    (hnumber : (s.pipes k).pipe.isSome = true → (s.pipes k).pipeInformation.hasNumber = true)
    (hiso : (s.pipes k).pipeInformation.pipeType ≠ .isochronous) :
    RefreshedPipe s k a (pipeRefreshQueue s k a).1 (pipeRefreshQueue s k a).2 := by
  unfold pipeRefreshQueue pipeStop
  cases hvalid : (s.pipes k).isValid with
  | false =>
    -- another request has stopped the pipe
    simp only [Bool.false_eq_true, if_false]
    exact .kept rfl rfl fun hstatus => absurd (show ntSuccess STATUS_INVALID_PIPE_STATE = true from
      hstatus) (by decide)
  | true =>
    simp only [if_true]
    rw [if_neg (by decide)]
    have hstarted := pipeStarted_pipeStart (s.setPipe k { s.pipes k with isValid := false }) k
      false a
    have hstatus := ntSuccess_pipeStart (s.setPipe k { s.pipes k with isValid := false }) k a
    generalize pipeStart (s.setPipe k { s.pipes k with isValid := false }) k false a = r
      at hstarted hstatus ⊢
    obtain ⟨s', status⟩ := r
    have hkept : ∀ (pc : PipeContext), pc.queue = (s.pipes k).queue →
        (s.setPipe k pc).isParallel k = s.isParallel k := by
      intro pc hpc
      unfold DeviceState.isParallel
      rw [queueOf_setPipe hpc]
    dsimp only at hstarted hstatus ⊢
    cases hstarted with
    | refused hvalid' => simp at hvalid'
    | noPipe hvalid' hstart =>
      refine .kept (hkept _ rfl) (by simp) fun hsuccess => ?_
      rw [hstatus, PipeContext.starts, hstart] at hsuccess
      simp at hsuccess
    | noQueue queues hvalid' hstart hneeds hcreates hget =>
      apply RefreshedPipe.sequential
      simp [DeviceState.isParallel, DeviceState.queueOf]
    | created hvalid' hstart hneeds hcreates =>
      simp only [DeviceState.pipes_setPipe, Function.update_self] at hneeds hcreates
      generalize hpc : ({ s.pipes k with isValid := false, isQueueDirty := false } : PipeContext) =
        pc
      cases hparallel : (newQueue pc a).config.parallel with
      | false =>
        apply RefreshedPipe.sequential
        simp [DeviceState.isParallel, DeviceState.queueOf, hpc, hparallel]
      | true =>
        have hdirty : (s.pipes k).isQueueDirty = true := by
          have hqueue := h.valid k hvalid
          simp [PipeContext.needsQueue, ← Option.not_isSome, hqueue] at hneeds
          exact hneeds.2
        obtain ⟨hpipe, hraw⟩ := parallel_pipeInitQueueConfig hparallel
        rw [← hpc] at hpipe hraw
        apply RefreshedPipe.raw
        simp [DeviceState.refreshMakesRaw, hvalid, hdirty, hpipe, hraw.resolve_left hiso, hiso,
          hcreates]
    | kept hvalid' hstart hneeds =>
      rw [DeviceState.setPipe_setPipe]
      refine .kept (hkept _ ?_) (by simp) fun hsuccess hpipe => ?_
      · simp
      · simp [PipeContext.needsQueue, hnumber hpipe] at hneeds
        exact hneeds.2

/-! ### The requests of a device -/

/-- A device and the requests its default queue has presented.  `delivered` is no
part of the driver. -/
structure DefaultQueue where
  device : DeviceState
  handlers : List QueuedPc := []
  delivered : List DeliveredRequest := []

/-- What can happen next. -/
inductive QueuedEvent
  /-- A `SET_PIPE_POLICY` is presented. -/
  | setPolicy (job : PolicyJob)
  /-- A transfer request is presented. -/
  | transfer (job : TransferJob)
  /-- A request takes its next step. -/
  | run (i : ℕ) (a : DispatchAnswers)

/-- The request `i` has taken a step. -/
def DefaultQueue.apply (s : DefaultQueue) (i : ℕ) (r : QueuedStep) : DefaultQueue where
  device := r.device
  handlers :=
    match r.next with
    | none => s.handlers.eraseIdx i
    | some pc => s.handlers.set i pc
  delivered := s.delivered ++ r.delivered.toList

/-- The default queue presents requests in parallel. -/
def defaultQueue : Machine DefaultQueue QueuedEvent where
  step s e :=
    match e with
    | .setPolicy job =>
      some { s with handlers := s.handlers ++ (setPolicyBegin s.device job).toList }
    | .transfer job =>
      some { s with handlers := s.handlers ++ (transferBegin s.device job).toList }
    | .run i a => (s.handlers[i]?).map fun pc => s.apply i (pc.run s.device a)

/-! ### The property and the condition -/

/-- Requests that are not raw, for pipes of the types `covered`, were delivered to
queues with sequential dispatch. -/
def NonRawOnSequential (covered : WdfUsbPipeType → Prop) (s : DefaultQueue) : Prop :=
  ∀ d ∈ s.delivered, covered d.pipeType → d.forwarded.rc.policies.rawIO = false →
    d.forwarded.queue.config.parallel = false

/-- The framework may present these requests at a time: a queue with sequential dispatch
presents a request when the one before it is completed. -/
def PresentedTogether (ds : List DeliveredRequest) : Prop :=
  ds.Pairwise fun d d' => d.queue = d'.queue →
    d.forwarded.queue.config.parallel = true ∨ d'.forwarded.queue.config.parallel = true

/-- Of the requests that are presented at a time, no two that are not raw have the same
queue, and with it one queue context. -/
def NonRawApart (covered : WdfUsbPipeType → Prop) (s : DefaultQueue) : Prop :=
  ∀ ds, ds.Sublist s.delivered → PresentedTogether ds → ds.Pairwise fun d d' =>
    covered d.pipeType → covered d'.pipeType → d.forwarded.rc.policies.rawIO = false →
      d'.forwarded.rc.policies.rawIO = false → d.queue ≠ d'.queue

theorem NonRawOnSequential.apart {covered : WdfUsbPipeType → Prop} {s : DefaultQueue}
    (h : NonRawOnSequential covered s) : NonRawApart covered s := by
  intro ds hds htogether
  refine htogether.imp_of_mem fun {d d'} hd hd' hshared hcovered hcovered' hraw hraw' hqueue => ?_
  rcases hshared hqueue with hparallel | hparallel
  · rw [h d (hds.subset hd) hcovered hraw] at hparallel
    cases hparallel
  · rw [h d' (hds.subset hd') hcovered' hraw'] at hparallel
    cases hparallel

/-- The request is between its test of the queue and its copy of the policies. -/
def QueuedPc.copiesFor (k : Fin 32) : QueuedPc → Bool
  | copy job => job.slot == k
  | _ => false

/-- The request has copied policies without `RawIO` and is not forwarded yet. -/
def QueuedPc.nonRawFor (k : Fin 32) : QueuedPc → Bool
  | forward job rc => job.slot == k && !rc.policies.rawIO
  | _ => false

namespace DefaultQueue

/-- The word is stored in time: it asks for raw requests, or the queue is not
parallel, or the queue is still dirty and every request is yet to find it so. -/
def CommitsInTime (s : DefaultQueue) (k : Fin 32) (policies : PolicyValues) : Prop :=
  PolicyFlag.rawIO.isSet policies = true ∨
    (s.device.pipes k).pipeInformation.pipeType = .isochronous ∨
    s.device.isParallel k = false ∨
    (s.device.pipes k).isQueueDirty = true ∧ ∀ pc ∈ s.handlers, pc.copiesFor k = false

/-- A queue for raw requests is made in time: no other request waits for its
forward. -/
def RefreshesInTime (s : DefaultQueue) (k : Fin 32) (a : StartAnswers) : Prop :=
  s.device.refreshMakesRaw k a = true → ∀ pc ∈ s.handlers, pc.nonRawFor k = false

/-- The next step of a request comes in time. -/
def StepInTime (s : DefaultQueue) (a : DispatchAnswers) : QueuedPc → Prop
  | .switch _ _ => True
  | .commit pipeID policies status =>
    ntSuccess status = true → s.CommitsInTime (pipeSlot pipeID) policies
  | .refresh job => s.RefreshesInTime job.slot a.refresh
  | .copy _ => True
  | .forward _ _ => True

/-- The event comes in time. -/
def InTime (s : DefaultQueue) : QueuedEvent → Prop
  | .setPolicy _ => True
  | .transfer _ => True
  | .run i a => ∀ pc ∈ s.handlers[i]?, s.StepInTime a pc

instance (s : DefaultQueue) (k : Fin 32) (policies : PolicyValues) :
    Decidable (s.CommitsInTime k policies) :=
  inferInstanceAs (Decidable (_ ∨ _ ∨ _ ∨ _ ∧ _))

instance (s : DefaultQueue) (k : Fin 32) (a : StartAnswers) : Decidable (s.RefreshesInTime k a) :=
  inferInstanceAs (Decidable (_ → _))

instance (s : DefaultQueue) (a : DispatchAnswers) : DecidablePred (s.StepInTime a)
  | .switch _ _ => isTrue trivial
  | .commit pipeID policies status =>
    inferInstanceAs
      (Decidable (ntSuccess status = true → s.CommitsInTime (pipeSlot pipeID) policies))
  | .refresh job => inferInstanceAs (Decidable (s.RefreshesInTime job.slot a.refresh))
  | .copy _ => isTrue trivial
  | .forward _ _ => isTrue trivial

instance decidableInTime (s : DefaultQueue) : ∀ e, Decidable (s.InTime e)
  | .setPolicy _ => isTrue trivial
  | .transfer _ => isTrue trivial
  | .run i a => inferInstanceAs (Decidable (∀ pc ∈ s.handlers[i]?, s.StepInTime a pc))

end DefaultQueue

/-- The queues of a device at rest: each was made from the policies as they are. -/
structure QueuesMade (s : DeviceState) : Prop where
  consistent : PipesConsistent s
  /-- The control endpoint has no pipe handle. -/
  number : ∀ k, (s.pipes k).pipe.isSome = true → (s.pipes k).pipeInformation.hasNumber = true
  made : ∀ k queue, s.queueOf k = some queue →
    ∃ a, queue.config = pipeInitQueueConfig (s.pipes k) a

theorem QueuesMade.parallel {s : DeviceState} (h : QueuesMade s) {k : Fin 32}
    (hk : s.isParallel k = true) :
    (s.pipes k).pipe.isSome = true ∧ ((s.pipes k).pipeInformation.pipeType = .isochronous ∨
      PolicyFlag.rawIO.isSet (s.pipes k).policies = true) := by
  obtain ⟨queue, hqueue, hparallel⟩ := (Option.any_eq_true _ _).mp hk
  obtain ⟨a, hconfig⟩ := h.made k queue hqueue
  rw [hconfig] at hparallel
  exact parallel_pipeInitQueueConfig hparallel

/-! ### The invariant -/

namespace DefaultQueue

/-- The invariant: a parallel queue belongs to policies that ask for it, or will be
replaced before the next request copies them. -/
structure Inv (s : DefaultQueue) : Prop where
  consistent : PipesConsistent s.device
  number : ∀ k, (s.device.pipes k).pipe.isSome = true →
    (s.device.pipes k).pipeInformation.hasNumber = true
  noPipe : ∀ k, s.device.isParallel k = true →
    (s.device.pipes k).pipeInformation.pipeType ≠ .isochronous →
    (s.device.pipes k).pipe.isSome = true
  follows : ∀ k, s.device.isParallel k = true →
    (s.device.pipes k).pipeInformation.pipeType ≠ .isochronous →
    PolicyFlag.rawIO.isSet (s.device.pipes k).policies = true ∨
      (s.device.pipes k).isQueueDirty = true ∧ ∀ pc ∈ s.handlers, pc.copiesFor k = false
  nonRaw : ∀ k, s.device.isParallel k = true →
    (s.device.pipes k).pipeInformation.pipeType ≠ .isochronous →
    ∀ pc ∈ s.handlers, pc.nonRawFor k = false
  delivered : NonRawOnSequential (· ≠ .isochronous) s

theorem mem_handlers_apply {s : DefaultQueue} {i : ℕ} {r : QueuedStep} {pc : QueuedPc}
    (h : pc ∈ (s.apply i r).handlers) : r.next = some pc ∨ pc ∈ s.handlers := by
  unfold apply at h
  dsimp only at h
  split at h
  · exact .inr (List.mem_of_mem_eraseIdx h)
  · next next hnext =>
    rcases List.mem_or_eq_of_mem_set h with h' | rfl
    · exact .inr h'
    · exact .inl hnext

/-- What a step has to leave for the invariant to hold. -/
theorem Inv.apply {s : DefaultQueue} (h : s.Inv) {i : ℕ} {r : QueuedStep}
    (hconsistent : PipesConsistent r.device)
    (hpipe : ∀ k, (r.device.pipes k).pipe = (s.device.pipes k).pipe)
    (hinfo : ∀ k, (r.device.pipes k).pipeInformation = (s.device.pipes k).pipeInformation)
    (hparallel : ∀ k, r.device.isParallel k = true →
      (s.device.pipes k).pipeInformation.pipeType ≠ .isochronous →
      (PolicyFlag.rawIO.isSet (r.device.pipes k).policies = true ∨
        (r.device.pipes k).isQueueDirty = true ∧ (∀ pc ∈ s.handlers, pc.copiesFor k = false) ∧
          ∀ pc, r.next = some pc → pc.copiesFor k = false) ∧
      (∀ pc ∈ s.handlers, pc.nonRawFor k = false) ∧
        ∀ pc, r.next = some pc → pc.nonRawFor k = false)
    (hnoPipe : ∀ k, r.device.isParallel k = true →
      (s.device.pipes k).pipeInformation.pipeType ≠ .isochronous →
      (s.device.pipes k).pipe.isSome = true)
    (hdelivered : ∀ d, r.delivered = some d → d.pipeType ≠ .isochronous →
      d.forwarded.rc.policies.rawIO = false → d.forwarded.queue.config.parallel = false) :
    (s.apply i r).Inv where
  consistent := hconsistent
  number k hk := by
    change (r.device.pipes k).pipeInformation.hasNumber = true
    rw [hinfo]
    exact h.number k ((congrArg Option.isSome (hpipe k)).symm.trans hk)
  noPipe k hk hiso :=
    (congrArg Option.isSome (hpipe k)).trans (hnoPipe k hk ((hinfo k) ▸ hiso))
  follows k hk hiso := by
    obtain ⟨hfollows, -⟩ := hparallel k hk ((hinfo k) ▸ hiso)
    refine hfollows.imp_right fun hdirty => ⟨hdirty.1, fun pc hpc => ?_⟩
    rcases mem_handlers_apply hpc with hnext | hmem
    · exact hdirty.2.2 pc hnext
    · exact hdirty.2.1 pc hmem
  nonRaw k hk hiso pc hpc := by
    obtain ⟨-, hnonRaw⟩ := hparallel k hk ((hinfo k) ▸ hiso)
    rcases mem_handlers_apply hpc with hnext | hmem
    · exact hnonRaw.2 pc hnext
    · exact hnonRaw.1 pc hmem
  delivered d hd := by
    rcases List.mem_append.mp hd with hold | hnew
    · exact h.delivered d hold
    · exact hdelivered d (Option.mem_toList.mp hnew)

/-- A step that changes one pipe context, and not what its queue was made for. -/
theorem Inv.apply_setPipe {s : DefaultQueue} (h : s.Inv) {i : ℕ} {r : QueuedStep} {k : Fin 32}
    {pc : PipeContext} (hr : r.device = s.device.setPipe k pc)
    (hsame : SamePipe (s.device.pipes k) pc) (hvalid : pc.isValid = (s.device.pipes k).isValid)
    (hfollows : s.device.isParallel k = true →
      (s.device.pipes k).pipeInformation.pipeType ≠ .isochronous →
      PolicyFlag.rawIO.isSet pc.policies = true ∨
        pc.isQueueDirty = true ∧ ∀ pc ∈ s.handlers, pc.copiesFor k = false)
    (hnext : ∀ next, r.next = some next →
      ∀ k, next.copiesFor k = false ∧ next.nonRawFor k = false)
    (hdelivered : r.delivered = none) : (s.apply i r).Inv := by
  have hself : r.device.pipes k = pc := by
    rw [hr, DeviceState.pipes_setPipe, Function.update_self]
  have hother : ∀ k', k' ≠ k → r.device.pipes k' = s.device.pipes k' := by
    intro k' hk
    rw [hr, DeviceState.pipes_setPipe, Function.update_of_ne hk]
  have hparallel : ∀ k', r.device.isParallel k' = s.device.isParallel k' := by
    intro k'
    unfold DeviceState.isParallel
    rw [hr, queueOf_setPipe hsame.queue]
  refine h.apply ?_ (fun k' => ?_) (fun k' => ?_) (fun k' hk' hiso => ?_)
    (fun k' hk' hiso => ?_) fun d hd => ?_
  · rw [hr]
    exact h.consistent.setPipe_of_samePipe hsame fun hv => h.consistent.valid k (hvalid ▸ hv)
  · by_cases hk : k' = k
    · rw [hk, hself, hsame.pipe]
    · rw [hother k' hk]
  · by_cases hk : k' = k
    · rw [hk, hself, hsame.info]
    · rw [hother k' hk]
  · rw [hparallel] at hk'
    refine ⟨?_, h.nonRaw k' hk' hiso, fun next hnext' => (hnext next hnext' k').2⟩
    by_cases hk : k' = k
    · subst hk
      rw [hself]
      exact (hfollows hk' hiso).imp_right fun hdirty =>
        ⟨hdirty.1, hdirty.2, fun next hnext' => (hnext next hnext' k').1⟩
    · rw [hother k' hk]
      exact (h.follows k' hk' hiso).imp_right fun hdirty =>
        ⟨hdirty.1, hdirty.2, fun next hnext' => (hnext next hnext' k').1⟩
  · rw [hparallel] at hk'
    exact h.noPipe k' hk' hiso
  · rw [hdelivered] at hd
    cases hd

/-- A step that leaves the device as it is. -/
theorem Inv.apply_sameDevice {s : DefaultQueue} (h : s.Inv) {i : ℕ} {r : QueuedStep}
    (hr : r.device = s.device)
    (hnext : ∀ next, r.next = some next → ∀ k, next.copiesFor k = false ∧
      (s.device.isParallel k = true →
        (s.device.pipes k).pipeInformation.pipeType ≠ .isochronous → next.nonRawFor k = false))
    (hdelivered : ∀ d, r.delivered = some d → d.pipeType ≠ .isochronous →
      d.forwarded.rc.policies.rawIO = false → d.forwarded.queue.config.parallel = false) :
    (s.apply i r).Inv := by
  refine h.apply ?_ (fun k => by rw [hr]) (fun k => by rw [hr]) (fun k hk hiso => ?_)
    (fun k hk hiso => ?_) hdelivered
  · rw [hr]
    exact h.consistent
  · rw [hr] at hk ⊢
    refine ⟨?_, h.nonRaw k hk hiso, fun next hnext' => (hnext next hnext' k).2 hk hiso⟩
    exact (h.follows k hk hiso).imp_right fun hdirty =>
      ⟨hdirty.1, hdirty.2, fun next hnext' => (hnext next hnext' k).1⟩
  · rw [hr] at hk
    exact h.noPipe k hk hiso

theorem Inv.switch {s : DefaultQueue} (h : s.Inv) (i : ℕ) (a : DispatchAnswers) (job : PolicyJob)
    (policies : PolicyValues) :
    (s.apply i ((QueuedPc.switch job policies).run s.device a)).Inv := by
  have hkept := keptBySwitch_setPolicy s.device.device.isHighSpeed
    { getPipeContextByID s.device.pipes job.pipeID with policies := policies } job.policyType
    job.value job.valueLength
  refine h.apply_setPipe rfl ⟨hkept.samePipe.queue, hkept.samePipe.pipe, hkept.samePipe.info⟩
    hkept.isValid (fun hparallel hiso => ?_) (fun next hnext k => ?_) rfl
  · exact (h.follows _ hparallel hiso).imp_right fun hdirty =>
      ⟨hkept.isQueueDirty hdirty.1, hdirty.2⟩
  · cases hnext
    exact ⟨rfl, rfl⟩

theorem Inv.commit {s : DefaultQueue} (h : s.Inv) (i : ℕ) (a : DispatchAnswers) (pipeID : UInt8)
    (policies : PolicyValues) (status : NTSTATUS)
    (hok : ntSuccess status = true → s.CommitsInTime (pipeSlot pipeID) policies) :
    (s.apply i ((QueuedPc.commit pipeID policies status).run s.device a)).Inv := by
  unfold QueuedPc.run
  dsimp only
  split
  · next hstatus =>
    refine h.apply_setPipe rfl ⟨rfl, rfl, rfl⟩ rfl (fun hparallel hiso => ?_)
      (fun next hnext => by cases hnext) rfl
    rcases hok hstatus with hraw | hiso' | hsequential | hdirty
    · exact .inl hraw
    · exact absurd hiso' hiso
    · exact absurd (hsequential.symm.trans hparallel) Bool.false_ne_true
    · exact .inr hdirty
  · exact h.apply_sameDevice rfl (fun next hnext => by cases hnext) fun d hd => by cases hd

theorem Inv.copy {s : DefaultQueue} (h : s.Inv) (i : ℕ) (a : DispatchAnswers) (job : TransferJob)
    (hmem : QueuedPc.copy job ∈ s.handlers) :
    (s.apply i ((QueuedPc.copy job).run s.device a)).Inv := by
  have hclean : s.device.isParallel job.slot = true →
      (s.device.pipes job.slot).pipeInformation.pipeType ≠ .isochronous →
      PolicyFlag.rawIO.isSet (s.device.pipes job.slot).policies = true := by
    intro hparallel hiso
    refine (h.follows _ hparallel hiso).resolve_right fun hdirty => ?_
    have hnone := hdirty.2 _ hmem
    simp [QueuedPc.copiesFor] at hnone
  unfold QueuedPc.run
  dsimp only
  split
  · exact h.apply_sameDevice rfl (fun next hnext => by cases hnext) fun d hd => by cases hd
  · refine h.apply_sameDevice rfl (fun next hnext k => ?_) fun d hd => by cases hd
    cases hnext
    refine ⟨rfl, fun hparallel hiso => ?_⟩
    cases hslot : job.slot == k with
    | false => simp [QueuedPc.nonRawFor, hslot]
    | true =>
      have hraw := hclean (eq_of_beq hslot ▸ hparallel) (eq_of_beq hslot ▸ hiso)
      simp [QueuedPc.nonRawFor, TransferRequest.context, PipePolicies.ofValues, hraw]

theorem Inv.forward {s : DefaultQueue} (h : s.Inv) (i : ℕ) (a : DispatchAnswers)
    (job : TransferJob) (rc : RequestContext) (hmem : QueuedPc.forward job rc ∈ s.handlers) :
    (s.apply i ((QueuedPc.forward job rc).run s.device a)).Inv := by
  unfold QueuedPc.run
  dsimp only
  split
  · exact h.apply_sameDevice rfl (fun next hnext => by cases hnext) fun d hd => by cases hd
  · next queue hqueue =>
    split
    · exact h.apply_sameDevice rfl (fun next hnext => by cases hnext) fun d hd => by cases hd
    · refine h.apply_sameDevice rfl (fun next hnext => by cases hnext) fun d hd hiso hnot => ?_
      cases hd
      by_contra hparallel
      have hon : s.device.isParallel job.slot = true := by
        simpa [DeviceState.isParallel, hqueue] using hparallel
      have hnone := h.nonRaw _ hon hiso _ hmem
      simp [QueuedPc.nonRawFor, show rc.policies.rawIO = false from hnot] at hnone

theorem Inv.refresh {s : DefaultQueue} (h : s.Inv) (i : ℕ) (a : DispatchAnswers)
    (job : TransferJob) (hok : s.RefreshesInTime job.slot a.refresh) :
    (s.apply i ((QueuedPc.refresh job).run s.device a)).Inv := by
  have hkept := keptByRefresh_pipeRefreshQueue h.consistent job.slot a.refresh
  have hother : ∀ k, k ≠ job.slot →
      (pipeRefreshQueue s.device job.slot a.refresh).1.isParallel k = s.device.isParallel k := by
    intro k hk
    unfold DeviceState.isParallel
    rw [(hkept.other k hk).2]
  have hnext : ∀ next, ((QueuedPc.refresh job).run s.device a).next = some next →
      next = .copy job ∧
        ntSuccess (pipeRefreshQueue s.device job.slot a.refresh).2 = true := by
    intro next heq
    unfold QueuedPc.run at heq
    dsimp only at heq
    split at heq
    · next hstatus => exact ⟨(Option.some.inj heq).symm, hstatus⟩
    · cases heq
  -- of a pipe that is parallel after the refresh of its queue
  have hself : (pipeRefreshQueue s.device job.slot a.refresh).1.isParallel job.slot = true →
      (s.device.pipes job.slot).pipeInformation.pipeType ≠ .isochronous →
      s.device.isParallel job.slot = true ∧
          ((pipeRefreshQueue s.device job.slot a.refresh).1.pipes job.slot).isQueueDirty =
            (s.device.pipes job.slot).isQueueDirty ∧
          (ntSuccess (pipeRefreshQueue s.device job.slot a.refresh).2 = true →
            PolicyFlag.rawIO.isSet (s.device.pipes job.slot).policies = true) ∨
        s.device.refreshMakesRaw job.slot a.refresh = true := by
    intro hparallel hiso
    cases refreshedPipe_pipeRefreshQueue h.consistent a.refresh (h.number job.slot) hiso with
    | kept hold hdirty hclean =>
      rw [hold] at hparallel
      refine .inl ⟨hparallel, hdirty, fun hstatus => ?_⟩
      refine (h.follows _ hparallel hiso).resolve_right fun h' => ?_
      have hnot := hclean hstatus (h.noPipe _ hparallel hiso)
      exact Bool.false_ne_true (hnot.symm.trans h'.1)
    | sequential hnot => exact absurd (hnot.symm.trans hparallel) Bool.false_ne_true
    | raw hraw => exact .inr hraw
  have hmakes : s.device.refreshMakesRaw job.slot a.refresh = true →
      (s.device.pipes job.slot).pipe.isSome = true ∧
        PolicyFlag.rawIO.isSet (s.device.pipes job.slot).policies = true := by
    intro hraw
    simp only [DeviceState.refreshMakesRaw, Bool.and_eq_true] at hraw
    exact ⟨hraw.1.1.1.2, hraw.1.1.2⟩
  refine h.apply (h.consistent.pipeRefreshQueue job.slot a.refresh) (fun k => ?_) (fun k => ?_)
    (fun k hk hiso => ?_) (fun k hk hiso => ?_) fun d hd => by cases hd
  · by_cases hslot : k = job.slot
    · rw [hslot]
      exact hkept.pipe
    · exact congrArg PipeContext.pipe (hkept.other k hslot).1
  · by_cases hslot : k = job.slot
    · rw [hslot]
      exact hkept.info
    · exact congrArg PipeContext.pipeInformation (hkept.other k hslot).1
  · change (pipeRefreshQueue s.device job.slot a.refresh).1.isParallel k = true at hk
    by_cases hslot : k = job.slot
    · subst hslot
      have hpolicies : ∀ hraw : PolicyFlag.rawIO.isSet (s.device.pipes job.slot).policies = true,
          PolicyFlag.rawIO.isSet ((pipeRefreshQueue s.device job.slot a.refresh).1.pipes
            job.slot).policies = true := fun hraw => hkept.policies ▸ hraw
      rcases hself hk hiso with ⟨hold, hdirty, hclean⟩ | hraw
      · refine ⟨?_, h.nonRaw _ hold hiso, fun next heq => ?_⟩
        · rcases h.follows _ hold hiso with hraw | ⟨hmark, hnone⟩
          · exact .inl (hpolicies hraw)
          · cases hstatus : ntSuccess (pipeRefreshQueue s.device job.slot a.refresh).2 with
            | true => exact .inl (hpolicies (hclean hstatus))
            | false =>
              refine .inr ⟨hdirty.trans hmark, hnone, fun next heq => ?_⟩
              exact absurd (hstatus.symm.trans (hnext next heq).2) Bool.false_ne_true
        · rw [(hnext next heq).1]
          rfl
      · refine ⟨.inl (hpolicies (hmakes hraw).2), hok hraw, fun next heq => ?_⟩
        rw [(hnext next heq).1]
        rfl
    · rw [hother k hslot] at hk
      have hpipe : (pipeRefreshQueue s.device job.slot a.refresh).1.pipes k = s.device.pipes k :=
        (hkept.other k hslot).1
      refine ⟨?_, h.nonRaw k hk hiso, fun next heq => ?_⟩
      · change PolicyFlag.rawIO.isSet ((pipeRefreshQueue s.device job.slot a.refresh).1.pipes
            k).policies = true ∨ ((pipeRefreshQueue s.device job.slot a.refresh).1.pipes
            k).isQueueDirty = true ∧ _
        rw [hpipe]
        refine (h.follows k hk hiso).imp_right fun hdirty =>
          ⟨hdirty.1, hdirty.2, fun next heq => ?_⟩
        rw [(hnext next heq).1]
        simpa [QueuedPc.copiesFor] using Ne.symm hslot
      · rw [(hnext next heq).1]
        rfl
  · change (pipeRefreshQueue s.device job.slot a.refresh).1.isParallel k = true at hk
    by_cases hslot : k = job.slot
    · subst hslot
      rcases hself hk hiso with ⟨hold, -, -⟩ | hraw
      · exact h.noPipe _ hold hiso
      · exact (hmakes hraw).1
    · rw [hother k hslot] at hk
      exact h.noPipe k hk hiso

/-- A request that is presented is neither past its test of a queue that is dirty,
nor past its copy. -/
theorem Inv.present {s : DefaultQueue} (h : s.Inv) {pc : Option QueuedPc}
    (hcopies : ∀ next, pc = some next → ∀ k, next.copiesFor k = true →
      (s.device.pipes k).isQueueDirty = false)
    (hnonRaw : ∀ next, pc = some next → ∀ k, next.nonRawFor k = false) :
    Inv { s with handlers := s.handlers ++ pc.toList } where
  consistent := h.consistent
  number := h.number
  noPipe := h.noPipe
  follows k hk hiso := by
    rcases h.follows k hk hiso with hraw | ⟨hdirty, hnone⟩
    · exact .inl hraw
    · refine .inr ⟨hdirty, fun next hnext => ?_⟩
      rcases List.mem_append.mp hnext with hold | hnew
      · exact hnone next hold
      · cases hcopy : next.copiesFor k with
        | false => rfl
        | true =>
          have hclean := hcopies next (Option.mem_toList.mp hnew) k hcopy
          exact absurd (hclean.symm.trans hdirty) Bool.false_ne_true
  nonRaw k hk hiso next hnext := by
    rcases List.mem_append.mp hnext with hold | hnew
    · exact h.nonRaw k hk hiso next hold
    · exact hnonRaw next (Option.mem_toList.mp hnew) k
  delivered := h.delivered

theorem Inv.step {s s' : DefaultQueue} {e : QueuedEvent} (h : s.Inv) (hok : s.InTime e)
    (hs : defaultQueue.step s e = some s') : s'.Inv := by
  cases e with
  | setPolicy job =>
    cases hs
    have hbegin : ∀ next, setPolicyBegin s.device job = some next →
        ∃ policies, next = .switch job policies := by
      intro next hnext
      unfold setPolicyBegin at hnext
      dsimp only at hnext
      split_ifs at hnext
      cases hnext
      exact ⟨_, rfl⟩
    refine h.present (fun next hnext k hcopy => ?_) fun next hnext k => ?_
    · obtain ⟨policies, rfl⟩ := hbegin next hnext
      cases hcopy
    · obtain ⟨policies, rfl⟩ := hbegin next hnext
      rfl
  | transfer job =>
    cases hs
    have hbegin : ∀ next, transferBegin s.device job = some next →
        next = .refresh job ∨
          next = .copy job ∧ (s.device.pipes job.slot).isQueueDirty = false := by
      intro next hnext
      unfold transferBegin at hnext
      dsimp only at hnext
      split_ifs at hnext with hvalid hdirty
      · exact .inl (Option.some.inj hnext).symm
      · exact .inr ⟨(Option.some.inj hnext).symm, eq_false_of_ne_true hdirty⟩
    refine h.present (fun next hnext k hcopy => ?_) fun next hnext k => ?_
    · rcases hbegin next hnext with rfl | ⟨rfl, hclean⟩
      · cases hcopy
      · obtain rfl := eq_of_beq hcopy
        exact hclean
    · rcases hbegin next hnext with rfl | ⟨rfl, -⟩
      · rfl
      · rfl
  | run i a =>
    obtain ⟨pc, hpc, rfl⟩ := Option.map_eq_some_iff.mp hs
    have hmem := List.mem_of_getElem? hpc
    have hok := hok pc hpc
    cases pc with
    | switch job policies => exact h.switch i a job policies
    | commit pipeID policies status => exact h.commit i a pipeID policies status hok
    | refresh job => exact h.refresh i a job hok
    | copy job => exact h.copy i a job hmem
    | forward job rc => exact h.forward i a job rc hmem

/-- A device at rest. -/
theorem inv_of_queuesMade {s : DeviceState} (h : QueuesMade s) : Inv { device := s } where
  consistent := h.consistent
  number := h.number
  noPipe k hk _ := (h.parallel hk).1
  follows k hk hiso := .inl ((h.parallel hk).2.resolve_left hiso)
  nonRaw k _ _ pc hpc := by cases hpc
  delivered d hd := by cases hd

end DefaultQueue

/-- **Non-raw requests run on sequential queues** in every run whose steps come in
time, and so one at a time on a queue context; for isochronous pipes, all queues are
parallel. -/
theorem nonRawOnSequential_of_throughout {s : DeviceState} (h : QueuesMade s)
    (es : List QueuedEvent) (hok : defaultQueue.Throughout DefaultQueue.InTime { device := s } es) :
    defaultQueue.Always
      (fun t => NonRawOnSequential (· ≠ .isochronous) t ∧ NonRawApart (· ≠ .isochronous) t)
      { device := s } es :=
  hok.always (fun _ hs => ⟨hs.delivered, hs.delivered.apart⟩)
    (fun _ _ _ hs hok ht => hs.step hok ht) (DefaultQueue.inv_of_queuesMade h)

/-! ### Runs on a bulk pipe and on an isochronous pipe -/

/-- A device with one IN pipe, at the address `0x81`. -/
def deviceWithPipe (pipeType : WdfUsbPipeType) (policies : PolicyValues) : DeviceState :=
  let pc : PipeContext :=
    { queue := some 0
      isValid := true
      pipeInformation := ⟨64, 0x81, 0, pipeType, 64⟩
      pipe := some 0
      policies := policies }
  DeviceState.setPipe { queues := Objects.empty.create (newQueue pc {}) } 17 pc

theorem queuesMade_deviceWithPipe (pipeType : WdfUsbPipeType) (policies : PolicyValues) :
    QueuesMade (deviceWithPipe pipeType policies) := by
  have hother : ∀ k, k ≠ 17 → (deviceWithPipe pipeType policies).pipes k = {} := by
    intro k hk
    unfold deviceWithPipe
    dsimp only
    rw [DeviceState.pipes_setPipe, Function.update_of_ne hk]
  have hqueue : ∀ k q, ((deviceWithPipe pipeType policies).pipes k).queue = some q →
      k = 17 ∧ q = 0 := by
    intro k q hq
    by_cases hk : k = 17
    · subst hk
      exact ⟨rfl, (Option.some.inj hq).symm⟩
    · rw [hother k hk] at hq
      cases hq
  refine ⟨⟨fun k q hq => ?_, fun k k' q hq hq' => ?_, fun k hk => ?_, fun i k hk => ?_⟩,
    fun k hk => ?_, fun k queue hk => ?_⟩
  · obtain ⟨rfl, rfl⟩ := hqueue k q hq
    exact ⟨_, rfl, rfl, rfl, rfl⟩
  · exact (hqueue k q hq).1.trans (hqueue k' q hq').1.symm
  · by_cases hslot : k = 17
    · subst hslot
      rfl
    · rw [hother k hslot] at hk
      cases hk
  · cases hk
  · by_cases hslot : k = 17
    · subst hslot
      change ((0x81 : UInt8) &&& 0xF != 0) = true
      decide
    · rw [hother k hslot] at hk
      cases hk
  · obtain ⟨q, hq, hget⟩ := Option.bind_eq_some_iff.mp hk
    obtain ⟨rfl, rfl⟩ := hqueue k q hq
    cases hget
    exact ⟨{}, rfl⟩

/-- Set `RAW_IO` to this value. -/
def setRawIoJob (value : UInt8) : PolicyJob := ⟨0x81, RAW_IO, fun _ => value, 1⟩

/-- Read a byte from the pipe. -/
def readJob (ioControlCode : UInt32) : TransferJob where
  request :=
    { kind := .ioctl ioControlCode
      pipeID := 0x81
      buffer := [0] }
  requestType := .read
  actualRequestType := .deviceControl
  ioControlCode := ioControlCode

/-- A framework that refuses nothing. -/
def noRefusal : DispatchAnswers where
  reads :=
    { zeroTest := 0
      signTest := 0
      highSpeedTest := 0
      urbSize := 0
      initUrb := 0
      copyLoop _ := 0
      offsetTested _ := 0
      offsetAssigned _ := 0 }

/-- The word with `RawIO` set. -/
def rawPolicies : PolicyValues := PolicyFlag.rawIO.field.set 0 1

/-- `RAW_IO` is cleared before the next request tests the queue. -/
theorem nonRawOnSequential_of_throughout_cleared :
    defaultQueue.Always
      (fun t => NonRawOnSequential (· ≠ .isochronous) t ∧ NonRawApart (· ≠ .isochronous) t)
      { device := deviceWithPipe .bulk rawPolicies }
      [.setPolicy (setRawIoJob 0), .run 0 noRefusal, .run 0 noRefusal,
        .transfer (readJob LIBUSB_IOCTL_INTERRUPT_OR_BULK_READ), .run 0 noRefusal,
        .run 0 noRefusal, .run 0 noRefusal] :=
  nonRawOnSequential_of_throughout (queuesMade_deviceWithPipe _ _) _ (by decide)

/-- A run after which a request that is not raw has been delivered to the parallel queue
of a pipe of this type. -/
theorem not_nonRawOnSequential_of_exec {s : DefaultQueue} {es : List QueuedEvent}
    {covered : WdfUsbPipeType → Prop} (pipeType : WdfUsbPipeType) (hcovered : covered pipeType)
    (hrun : (defaultQueue.exec s es).any (fun t => t.delivered.any fun d =>
      d.pipeType == pipeType && !d.forwarded.rc.policies.rawIO &&
        d.forwarded.queue.config.parallel) = true) :
    ¬defaultQueue.Always (NonRawOnSequential covered) s es := by
  intro h
  obtain ⟨t, ht, hany⟩ := (Option.any_eq_true _ _).mp hrun
  obtain ⟨d, hd, hbad⟩ := List.any_eq_true.mp hany
  simp only [Bool.and_eq_true, beq_iff_eq, Bool.not_eq_true'] at hbad
  obtain ⟨⟨rfl, hraw⟩, hparallel⟩ := hbad
  have hsequential := h.exec ht d hd hcovered hraw
  exact Bool.false_ne_true (hsequential.symm.trans hparallel)

/-- `RAW_IO` is cleared while a request refreshes the queue: the queue is made for the old
policies, and the request copies the new ones.  The queue of an isochronous pipe is parallel
from the start. -/
theorem not_nonRawOnSequential_cleared_isochronous :
    ¬defaultQueue.Always (NonRawOnSequential (· ≠ .isochronous))
        { device := deviceWithPipe .bulk rawPolicies }
        [.setPolicy (setRawIoJob 0), .run 0 noRefusal,
          .transfer (readJob LIBUSB_IOCTL_INTERRUPT_OR_BULK_READ), .run 1 noRefusal,
          .run 0 noRefusal, .run 0 noRefusal, .run 0 noRefusal] ∧
      ¬defaultQueue.Always (NonRawOnSequential fun _ => True)
        { device := deviceWithPipe .isochronous 0 }
        [.transfer (readJob LIBUSB_IOCTL_ISOCHRONOUS_READ), .run 0 noRefusal,
          .run 0 noRefusal] := by
  constructor
  · exact not_nonRawOnSequential_of_exec .bulk (by decide) (by decide)
  · exact not_nonRawOnSequential_of_exec .isochronous trivial (by decide)

end LibusbK
