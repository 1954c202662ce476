import LibusbK.Driver.Bulk
import LibusbK.Driver.Control
import LibusbK.Driver.Iso
import LibusbK.Lib.Machine
import Mathlib.Tactic.SplitIfs

/-!
# Every request is finished exactly once

The handlers of `drv_queue_pipe.c`, which pick the transfer routine for a request
of a pipe queue, and the life of a request from its delivery to a handler to its
completion.

## Main definitions

* `Delivery`, `Handler` — a request and the handler it is delivered to.
* `PipeRequest`, `inFlight` — where a request is, and the machine that runs its
  completion routines.
* `FinishedOnce` — the request is either with the I/O target or completed, and
  only once.

## Main results

* `handler_finishesOnce_iff` — a request is finished exactly once, unless it is a
  write to a bulk or interrupt OUT pipe, or an isochronous write that divides by
  a packet size of zero.
-/

namespace LibusbK

/-! ### The handlers -/

/-- A request delivered to a pipe queue: its contexts, and what the framework and
the caller's packet context answer while the handler serves it. -/
structure Delivery where
  fw : Framework := {}
  dc : DeviceContext := {}
  rc : RequestContext
  qc : QueueContext
  reads : IsoContextReads
  outputBufferLength : ℕ := 0

/-- The codes of the plain transfers. -/
def transferCodes : List UInt32 :=
  [LIBUSB_IOCTL_ISOCHRONOUS_READ, LIBUSB_IOCTL_ISOCHRONOUS_WRITE,
    LIBUSB_IOCTL_INTERRUPT_OR_BULK_WRITE, LIBUSB_IOCTL_INTERRUPT_OR_BULK_READ]

/-- The codes of the transfers with a packet context. -/
def isoExCodes : List UInt32 := [LIBUSBK_IOCTL_ISOEX_READ, LIBUSBK_IOCTL_ISOEX_WRITE]

/-- The codes of the control transfers. -/
def controlCodes : List UInt32 :=
  [LIBUSB_IOCTL_SET_FEATURE, LIBUSB_IOCTL_CLEAR_FEATURE, LIBUSB_IOCTL_GET_DESCRIPTOR,
    LIBUSB_IOCTL_SET_DESCRIPTOR, LIBUSB_IOCTL_VENDOR_WRITE, LIBUSB_IOCTL_VENDOR_READ,
    LIBUSB_IOCTL_CONTROL_READ, LIBUSB_IOCTL_CONTROL_WRITE]

namespace Delivery

variable (d : Delivery)

/-- The pipe is an IN pipe. -/
def isIn : Bool := usbEndpointDirectionIn d.qc.info.endpointAddress

/-- The pipe moves bulk or interrupt transfers. -/
def isBulk : Bool := d.qc.info.pipeType == .bulk || d.qc.info.pipeType == .interrupt

/-- A read from a bulk or interrupt pipe. -/
def readBulk : Served :=
  if d.rc.policies.rawIO then xferReadBulkRaw d.fw d.rc d.qc else xferReadBulk d.fw d.rc d.qc

/-- A write to a bulk or interrupt pipe. -/
def writeBulk : Served :=
  if d.rc.policies.rawIO then xferWriteBulkRaw d.fw d.rc d.qc else xferWriteBulk d.fw d.rc d.qc

/-- The case of the codes with a packet context. -/
def isoEx : Served :=
  if d.qc.info.pipeType = .isochronous then (xferIsoEx d.fw d.dc d.rc d.qc d.reads).1
  else completeWithInformation d.qc STATUS_INVALID_PARAMETER 0

end Delivery

/-- `PipeQueue_OnIoControl`; `none` is a division by zero. -/
def pipeQueueOnIoControl (d : Delivery) (ioControlCode : UInt32) : Option Served :=
  let status := validateRequestContext d.fw d.rc
  if !ntSuccess status then some (completeWithInformation d.qc status 0)
  else if !d.fw.queueContext then
    some (completeWithInformation d.qc STATUS_INVALID_DEVICE_REQUEST 0)
  else if ioControlCode ∈ transferCodes then
    if d.qc.info.pipeType = .isochronous then
      if d.isIn then some (xferIsoRead d.fw d.dc d.rc d.qc)
      else xferIsoWrite d.fw d.dc d.rc d.qc
    else if d.isBulk then some (if d.isIn then d.readBulk else d.writeBulk)
    -- the `break` of the default case only leaves the inner switch
    else some d.isoEx
  else if ioControlCode ∈ isoExCodes then some d.isoEx
  else if ioControlCode ∈ controlCodes then
    some (xferCtrl d.fw d.dc d.rc d.qc d.outputBufferLength).1
  else some (completeWithInformation d.qc STATUS_INVALID_DEVICE_REQUEST 0)

/-- `PipeQueue_OnRead`. -/
def pipeQueueOnRead (d : Delivery) : Served :=
  let status := validateRequestContext d.fw d.rc
  if !ntSuccess status then completeWithInformation d.qc status 0
  else if !d.fw.queueContext then completeWithInformation d.qc STATUS_INVALID_DEVICE_REQUEST 0
  else if !d.qc.pipeHandle then completeWithInformation d.qc STATUS_INVALID_HANDLE 0
  else if d.qc.info.pipeType = .isochronous ∧ d.isIn then xferIsoRead d.fw d.dc d.rc d.qc
  else if d.isBulk ∧ d.isIn then d.readBulk
  else completeWithInformation d.qc STATUS_INVALID_DEVICE_REQUEST 0

/-- `PipeQueue_OnWrite`; `none` is a division by zero. -/
def pipeQueueOnWrite (d : Delivery) : Option Served :=
  let status := validateRequestContext d.fw d.rc
  if !ntSuccess status then some (completeWithInformation d.qc status 0)
  else if !d.fw.queueContext then
    some (completeWithInformation d.qc STATUS_INVALID_DEVICE_REQUEST 0)
  else if !d.qc.pipeHandle then some (completeWithInformation d.qc STATUS_INVALID_HANDLE 0)
  else if d.qc.info.pipeType = .isochronous ∧ !d.isIn then xferIsoWrite d.fw d.dc d.rc d.qc
  else if d.isBulk ∧ !d.isIn then
    -- no `return` after the transfer routine: the handler completes the request too
    some { d.writeBulk with
      effects := d.writeBulk.effects ++ [.complete STATUS_INVALID_DEVICE_REQUEST 0] }
  else some (completeWithInformation d.qc STATUS_INVALID_DEVICE_REQUEST 0)

/-- The handlers of a pipe queue. -/
inductive Handler
  | onIoControl (ioControlCode : UInt32)
  | onRead
  | onWrite
  deriving DecidableEq, Repr

/-- What a handler does with a request. -/
def Handler.serve (h : Handler) (d : Delivery) : Option Served :=
  match h with
  | .onIoControl ioControlCode => pipeQueueOnIoControl d ioControlCode
  | .onRead => some (pipeQueueOnRead d)
  | .onWrite => pipeQueueOnWrite d

/-! ### The completion routines -/

/-- The I/O target is done with a request: the status and the length it reports,
and what the completion routine finds.  Other requests of the queue may have run
since the submission, so the queue context is part of it; so is the length in the
request context, which a submission may have lowered. -/
structure TargetCompletion where
  fw : Framework := {}
  status : NTSTATUS
  length : ℕ := 0
  qc : QueueContext
  requestLength : ℕ := 0
  urb : UrbResult := {}
  buffer : List UInt8 := []
  isoExUrb : IsoExUrb := {}
  updateLoop : ℕ → Int16 := fun _ => 0

/-- The completion routine that was set for a request is called. -/
def Routine.complete (rc : RequestContext) (c : TargetCompletion) : Routine → Served
  | .readBulk => xferReadBulkComplete c.fw rc c.status c.length c.qc
  | .readBulkRaw => xferReadBulkRawComplete rc c.status c.length c.qc
  | .writeBulk => xferWriteBulkComplete c.fw rc c.status c.length c.qc
  | .writeBulkRaw => xferWriteBulkRawComplete c.status c.length c.qc
  | .isoEx => (xferIsoExComplete c.fw rc c.status c.isoExUrb c.updateLoop c.qc).served
  | .isoRd => (xferIsoRdComplete c.fw rc c.requestLength c.status c.urb c.buffer c.qc).1
  | .isoWr => xferIsoWrComplete rc c.status c.urb c.qc
  | .ctrl => xferCtrlComplete c.status c.length c.qc

/-- A completion routine gives the request away once, and sends it only to be
called again. -/
theorem Routine.handsOver_complete (rc : RequestContext) (c : TargetCompletion)
    (routine : Routine) : (routine.complete rc c).HandsOver routine := by
  cases routine with
  | readBulk => exact handsOver_xferReadBulkComplete _ _ _ _ _
  | readBulkRaw => exact handsOver_completeWithInformation _ _ _ _
  | writeBulk => exact handsOver_xferWriteBulkComplete _ _ _ _ _
  | writeBulkRaw => exact handsOver_completeWithInformation _ _ _ _
  | isoEx => exact handsOver_xferIsoExComplete _ _ _ _ _ _
  | isoRd => exact handsOver_xferIsoRdComplete _ _ _ _ _ _ _
  | isoWr => exact handsOver_xferIsoWrComplete _ _ _ _
  | ctrl => exact handsOver_xferCtrlComplete _ _ _

/-! ### The life of a request -/

/-- Where a request is: the completion routines the I/O target will call for it,
and how many times it has been completed. -/
structure PipeRequest where
  rc : RequestContext
  outstanding : List Routine := []
  completions : ℕ := 0
  deriving DecidableEq, Repr

namespace PipeRequest

/-- One effect, seen from the request. -/
def note (s : PipeRequest) : Effect → PipeRequest
  | .resetPipe _ => s
  | .discard _ => s
  | .send routine _ => { s with outstanding := routine :: s.outstanding }
  | .complete _ _ => { s with completions := s.completions + 1 }

/-- The request after a handler or a completion routine has run for it. -/
def run (s : PipeRequest) (served : Served) : PipeRequest := served.effects.foldl note s

/-- The number of times the request is somewhere. -/
def count (s : PipeRequest) : ℕ := s.outstanding.length + s.completions

theorem count_run (s : PipeRequest) (served : Served) :
    (s.run served).count = s.count + served.handoff.length := by
  have hnote : ∀ (es : List Effect) (s : PipeRequest),
      (es.foldl note s).count = s.count + (es.filter fun e => !e.isQuiet).length := by
    intro es
    induction es with
    | nil => exact fun s => rfl
    | cons e es ih =>
      intro s
      rw [List.foldl_cons, ih, List.filter_cons]
      cases e <;> simp [note, count, Effect.isQuiet] <;> omega
  exact hnote served.effects s

end PipeRequest

/-- A request that is with the I/O target or has been completed, and only once. -/
def FinishedOnce (s : PipeRequest) : Prop :=
  (s.outstanding.length = 1 ∧ s.completions = 0) ∨ (s.outstanding = [] ∧ s.completions = 1)

theorem finishedOnce_iff {s : PipeRequest} : FinishedOnce s ↔ s.count = 1 := by
  unfold FinishedOnce PipeRequest.count
  rw [← List.length_eq_zero_iff]
  omega

/-- A request that was handed out: whenever the I/O target is done with it, its
completion routine runs. -/
def inFlight : Machine PipeRequest TargetCompletion where
  step s c :=
    match s.outstanding with
    | [] => none
    | routine :: rest =>
      some (PipeRequest.run { s with outstanding := rest } (routine.complete s.rc c))

/-- A request in the state its handler leaves it in. -/
def Handler.deliver (h : Handler) (d : Delivery) : Option PipeRequest :=
  (h.serve d).map fun served => PipeRequest.run { rc := d.rc } served

/-- The handler returns, and from then on the request is with the I/O target or
completed, and only once. -/
def Handler.FinishesOnce (h : Handler) (d : Delivery) : Prop :=
  ∃ s, h.deliver d = some s ∧ ∀ cs, inFlight.Always FinishedOnce s cs

theorem length_handoff_of_handsOver {routine : Routine} {s : Served} (h : s.HandsOver routine) :
    s.handoff.length = 1 := by
  rcases h with ⟨memory, h⟩ | ⟨status, information, h⟩
  · rw [h]
    rfl
  · rw [h]
    rfl

/-- A completion routine keeps a request in one place. -/
theorem finishedOnce_step {s s' : PipeRequest} {c : TargetCompletion} (hs : FinishedOnce s)
    (hstep : inFlight.step s c = some s') : FinishedOnce s' := by
  rw [finishedOnce_iff] at *
  unfold inFlight at hstep
  dsimp only at hstep
  split at hstep
  · cases hstep
  · next routine rest hout =>
    cases hstep
    have hone := length_handoff_of_handsOver (routine.handsOver_complete s.rc c)
    rw [PipeRequest.count_run, hone]
    simp only [PipeRequest.count, hout, List.length_cons] at hs ⊢
    omega

/-- What is so when the handler returns stays so. -/
theorem Handler.finishesOnce_iff {h : Handler} {d : Delivery} :
    h.FinishesOnce d ↔ ∃ served, h.serve d = some served ∧ served.handoff.length = 1 := by
  unfold Handler.FinishesOnce Handler.deliver
  constructor
  · rintro ⟨s, hs, halways⟩
    obtain ⟨served, hserve, rfl⟩ := Option.map_eq_some_iff.mp hs
    have hone := finishedOnce_iff.mp (halways []).start
    rw [PipeRequest.count_run] at hone
    exact ⟨served, hserve, by simpa [PipeRequest.count] using hone⟩
  · rintro ⟨served, hserve, hone⟩
    refine ⟨_, by rw [hserve]; rfl, fun cs => ?_⟩
    apply Machine.always_of_step (I := FinishedOnce) (fun s hs => hs)
    · exact fun s c s' hs hstep => finishedOnce_step hs hstep
    · rw [finishedOnce_iff, PipeRequest.count_run, hone]
      rfl

/-! ### What goes wrong, and what does not -/

/-- The handler gets past its context checks. -/
def Delivery.Valid (d : Delivery) : Prop :=
  (d.fw.requestContext = true ∧ d.rc.queueContext = true) ∧ d.fw.queueContext = true

/-- The request is a write to an OUT pipe for bulk or interrupt transfers that has
a pipe handle. -/
def Handler.WritesBulkOut (h : Handler) (d : Delivery) : Prop :=
  h = .onWrite ∧ d.Valid ∧ d.qc.pipeHandle = true ∧ d.isBulk = true ∧ d.isIn = false

/-- The request is a write, or carries the code of a plain transfer. -/
def Handler.mayWrite (h : Handler) (d : Delivery) : Prop :=
  match h with
  | .onIoControl ioControlCode => ioControlCode ∈ transferCodes
  | .onRead => False
  | .onWrite => d.qc.pipeHandle = true

/-- The request is a transfer to an isochronous OUT pipe whose packets have no
room for data, and no number of packets is configured. -/
def Handler.WritesEmptyPackets (h : Handler) (d : Delivery) : Prop :=
  h.mayWrite d ∧ d.Valid ∧ d.qc.info.pipeType = .isochronous ∧ d.isIn = false ∧
    d.fw.wdmPipeHandle = true ∧ d.rc.policies.isoNumFixedPackets = 0 ∧
    d.qc.info.maximumPacketSize = 0

theorem Delivery.isBulk_of_isochronous {d : Delivery} (h : d.qc.info.pipeType = .isochronous) :
    d.isBulk = false := by
  unfold Delivery.isBulk
  rw [h]
  rfl

theorem Delivery.handsOver_readBulk (d : Delivery) : ∃ routine, d.readBulk.HandsOver routine := by
  unfold Delivery.readBulk
  split_ifs
  · exact ⟨_, handsOver_xferReadBulkRaw _ _ _⟩
  · exact ⟨_, handsOver_xferReadBulk _ _ _⟩

theorem Delivery.handsOver_writeBulk (d : Delivery) : ∃ routine, d.writeBulk.HandsOver routine := by
  unfold Delivery.writeBulk
  split_ifs
  · exact ⟨_, handsOver_xferWriteBulkRaw _ _ _⟩
  · exact ⟨_, handsOver_xferWriteBulk _ _ _⟩

theorem Delivery.handsOver_isoEx (d : Delivery) : ∃ routine, d.isoEx.HandsOver routine := by
  unfold Delivery.isoEx
  split_ifs
  · exact ⟨_, handsOver_xferIsoEx _ _ _ _ _⟩
  · exact ⟨.isoEx, handsOver_completeWithInformation _ _ _ _⟩

/-- Where an isochronous write divides by zero. -/
theorem xferIsoWrite_eq_none {fw : Framework} {dc : DeviceContext} {rc : RequestContext}
    {qc : QueueContext} :
    xferIsoWrite fw dc rc qc = none ↔
      ((fw.requestContext = true ∧ rc.queueContext = true) ∧ fw.queueContext = true) ∧
        fw.wdmPipeHandle = true ∧ rc.policies.isoNumFixedPackets = 0 ∧
          qc.info.maximumPacketSize = 0 := by
  have hpackets : isoWriteNumberOfPackets dc rc qc = none ↔
      rc.policies.isoNumFixedPackets = 0 ∧ qc.info.maximumPacketSize = 0 := by
    unfold isoWriteNumberOfPackets
    dsimp only
    split_ifs <;> simp_all
  unfold xferIsoWrite
  rw [← ntSuccess_validateRequestContext]
  dsimp only
  cases ntSuccess (validateRequestContext fw rc) <;> cases fw.queueContext <;>
    cases fw.wdmPipeHandle <;> simp [hpackets]

/-- A request served by a handler is given away once. -/
def GivenAwayOnce (served : Option Served) : Prop :=
  ∃ s, served = some s ∧ s.handoff.length = 1

theorem givenAwayOnce_of_handsOver {s : Served} (h : ∃ routine, s.HandsOver routine) :
    GivenAwayOnce (some s) := by
  obtain ⟨routine, h⟩ := h
  exact ⟨s, rfl, length_handoff_of_handsOver h⟩

theorem givenAwayOnce_complete (qc : QueueContext) (status : NTSTATUS) :
    GivenAwayOnce (some (completeWithInformation qc status 0)) :=
  ⟨_, rfl, rfl⟩

theorem givenAwayOnce_xferIsoWrite {fw : Framework} {dc : DeviceContext} {rc : RequestContext}
    {qc : QueueContext} :
    GivenAwayOnce (xferIsoWrite fw dc rc qc) ↔ xferIsoWrite fw dc rc qc ≠ none := by
  cases h : xferIsoWrite fw dc rc qc with
  | none => simp [GivenAwayOnce]
  | some s =>
    simp only [ne_eq, reduceCtorEq, not_false_eq_true, iff_true]
    exact givenAwayOnce_of_handsOver ⟨_, handsOver_xferIsoWrite _ _ _ _ h⟩

/-- The handlers of reads give every request away once. -/
theorem givenAwayOnce_pipeQueueOnRead (d : Delivery) :
    GivenAwayOnce (some (pipeQueueOnRead d)) := by
  unfold pipeQueueOnRead
  dsimp only
  split_ifs
  iterate 3 exact givenAwayOnce_complete _ _
  · exact givenAwayOnce_of_handsOver ⟨_, handsOver_xferIsoRead _ _ _ _⟩
  · exact givenAwayOnce_of_handsOver d.handsOver_readBulk
  · exact givenAwayOnce_complete _ _

/-- Writes are given away once, except those that are completed besides and those
that divide by zero. -/
theorem givenAwayOnce_pipeQueueOnWrite (d : Delivery) :
    GivenAwayOnce (pipeQueueOnWrite d) ↔
      ¬Handler.onWrite.WritesBulkOut d ∧ ¬Handler.onWrite.WritesEmptyPackets d := by
  unfold pipeQueueOnWrite
  dsimp only
  split
  · next hstatus =>
    -- a request without its contexts is completed by the handler
    have hvalid : ¬d.Valid := fun h => by
      rw [ntSuccess_validateRequestContext.mpr h.1] at hstatus
      cases hstatus
    exact iff_of_true (givenAwayOnce_complete _ _)
      ⟨fun h => hvalid h.2.1, fun h => hvalid h.2.1⟩
  split
  · next hqueue =>
    have hvalid : ¬d.Valid := fun h => by
      rw [h.2] at hqueue
      cases hqueue
    exact iff_of_true (givenAwayOnce_complete _ _)
      ⟨fun h => hvalid h.2.1, fun h => hvalid h.2.1⟩
  next hstatus hqueue =>
  have hvalid : d.Valid := ⟨ntSuccess_validateRequestContext.mp (by simpa using hstatus),
    by simpa using hqueue⟩
  split
  · next hpipe =>
    have hnone : d.qc.pipeHandle ≠ true := fun h => by
      rw [h] at hpipe
      cases hpipe
    exact iff_of_true (givenAwayOnce_complete _ _) ⟨fun h => hnone h.2.2.1, fun h => hnone h.1⟩
  next hpipe =>
  have hpipe : d.qc.pipeHandle = true := by simpa using hpipe
  split
  · next hiso =>
    obtain ⟨hiso, hout⟩ := hiso
    have hout : d.isIn = false := by simpa using hout
    rw [givenAwayOnce_xferIsoWrite, ne_eq, xferIsoWrite_eq_none]
    constructor
    · intro h
      constructor
      · intro hw
        rw [Handler.WritesBulkOut, Delivery.isBulk_of_isochronous hiso] at hw
        exact absurd hw.2.2.2.1 (by decide)
      · rintro ⟨-, -, -, -, hwdm, hfixed, hsize⟩
        exact h ⟨hvalid, hwdm, hfixed, hsize⟩
    · rintro ⟨-, h⟩ ⟨-, hwdm, hfixed, hsize⟩
      exact h ⟨hpipe, hvalid, hiso, hout, hwdm, hfixed, hsize⟩
  next hiso =>
  have hempty : ¬Handler.onWrite.WritesEmptyPackets d := by
    rintro ⟨-, -, h, hout, -⟩
    exact hiso ⟨h, by rw [hout]; rfl⟩
  split
  · next hbulk =>
    obtain ⟨hbulk, hout⟩ := hbulk
    have hout : d.isIn = false := by simpa using hout
    refine iff_of_false ?_ fun h => h.1 ⟨rfl, hvalid, hpipe, hbulk, hout⟩
    -- the routine gives the request away, and the handler completes it once more
    obtain ⟨routine, hgiven⟩ := d.handsOver_writeBulk
    have hone := length_handoff_of_handsOver hgiven
    rintro ⟨s, hs, hlength⟩
    cases hs
    simp only [Served.handoff, List.filter_append, List.length_append] at hone hlength
    rw [hone] at hlength
    exact absurd hlength (by decide)
  · next hbulk =>
    refine iff_of_true (givenAwayOnce_complete _ _) ⟨?_, hempty⟩
    rintro ⟨-, -, -, h, hout⟩
    exact hbulk ⟨h, by rw [hout]; rfl⟩

theorem givenAwayOnce_pipeQueueOnIoControl (d : Delivery) (ioControlCode : UInt32) :
    GivenAwayOnce (pipeQueueOnIoControl d ioControlCode) ↔
      ¬(Handler.onIoControl ioControlCode).WritesEmptyPackets d := by
  unfold pipeQueueOnIoControl
  dsimp only
  split
  · next hstatus =>
    refine iff_of_true (givenAwayOnce_complete _ _) fun h => ?_
    rw [ntSuccess_validateRequestContext.mpr h.2.1.1] at hstatus
    cases hstatus
  split
  · next hqueue =>
    refine iff_of_true (givenAwayOnce_complete _ _) fun h => ?_
    rw [h.2.1.2] at hqueue
    cases hqueue
  next hstatus hqueue =>
  have hvalid : d.Valid := ⟨ntSuccess_validateRequestContext.mp (by simpa using hstatus),
    by simpa using hqueue⟩
  split
  · next hcode =>
    split
    · next hiso =>
      split
      · next hin =>
        refine iff_of_true (givenAwayOnce_of_handsOver ⟨_, handsOver_xferIsoRead _ _ _ _⟩) ?_
        rintro ⟨_, _, _, hout, _⟩
        rw [hin] at hout
        cases hout
      · next hin =>
        have hout : d.isIn = false := by simpa using hin
        rw [givenAwayOnce_xferIsoWrite, ne_eq, xferIsoWrite_eq_none, not_iff_not]
        constructor
        · rintro ⟨-, hwdm, hfixed, hsize⟩
          exact ⟨hcode, hvalid, hiso, hout, hwdm, hfixed, hsize⟩
        · rintro ⟨-, -, -, -, hwdm, hfixed, hsize⟩
          exact ⟨hvalid, hwdm, hfixed, hsize⟩
    · next hiso =>
      have hempty : ¬(Handler.onIoControl ioControlCode).WritesEmptyPackets d := fun h =>
        hiso h.2.2.1
      split
      · refine iff_of_true (givenAwayOnce_of_handsOver ?_) hempty
        split
        · exact d.handsOver_readBulk
        · exact d.handsOver_writeBulk
      · exact iff_of_true (givenAwayOnce_of_handsOver d.handsOver_isoEx) hempty
  next hcode =>
  have hempty : ¬(Handler.onIoControl ioControlCode).WritesEmptyPackets d := fun h => hcode h.1
  split_ifs
  · exact iff_of_true (givenAwayOnce_of_handsOver d.handsOver_isoEx) hempty
  · exact iff_of_true (givenAwayOnce_of_handsOver ⟨_, handsOver_xferCtrl _ _ _ _ _⟩) hempty
  · exact iff_of_true (givenAwayOnce_complete _ _) hempty

/-- **A request is finished exactly once if and only if it is no write to an OUT
pipe for bulk or interrupt transfers, and no isochronous write that divides by
a packet size of zero.**  A write of the first kind is completed by the handler
besides what the transfer routine does with it. -/
theorem handler_finishesOnce_iff (h : Handler) (d : Delivery) :
    h.FinishesOnce d ↔ ¬h.WritesBulkOut d ∧ ¬h.WritesEmptyPackets d := by
  rw [Handler.finishesOnce_iff]
  cases h with
  | onIoControl ioControlCode =>
    have hcode := givenAwayOnce_pipeQueueOnIoControl d ioControlCode
    exact hcode.trans ⟨fun h => ⟨fun hw => Handler.noConfusion hw.1, h⟩, And.right⟩
  | onRead =>
    exact iff_of_true (givenAwayOnce_pipeQueueOnRead d)
      ⟨fun hw => Handler.noConfusion hw.1, fun hw => hw.1⟩
  | onWrite => exact givenAwayOnce_pipeQueueOnWrite d

/-! ### A write that is completed twice, and one that divides by zero -/

theorem length_le_oneByteWrite : 1 ≤ ([0] : List UInt8).length := by decide

/-- A write of one byte to a pipe. -/
def oneByteWrite (info : PipeInformation) : Delivery where
  rc :=
    { length := 1
      buffer := [0]
      length_le := length_le_oneByteWrite
      actualRequestType := .write
      requestType := .write }
  qc := { info }
  reads := ⟨0, 0, 0, 0, 0, fun _ => 0, fun _ => 0, fun _ => 0, false, false, 0⟩

/-- A write of one byte to a bulk OUT pipe. -/
def bulkWriteDelivery : Delivery := oneByteWrite ⟨64, 0x01, 0, .bulk, 64⟩

/-- A write of one byte to an isochronous OUT pipe of a setting without bandwidth. -/
def emptyPacketsDelivery : Delivery := oneByteWrite ⟨0, 0x01, 1, .isochronous, 64⟩

/-- The write is completed while it is with the I/O target, and once more when
the I/O target is done with it.  The write to the other pipe, which comes as a
control code, ends in a division by zero. -/
theorem not_finishesOnce_bulkWriteDelivery :
    (¬Handler.onWrite.FinishesOnce bulkWriteDelivery ∧
      ∃ s, Handler.onWrite.deliver bulkWriteDelivery = some s ∧
        s.outstanding = [.writeBulk] ∧ s.completions = 1 ∧
        ∃ t, inFlight.step s { status := STATUS_SUCCESS, length := 1, qc := bulkWriteDelivery.qc } =
          some t ∧ t.completions = 2) ∧
      ¬(Handler.onIoControl LIBUSB_IOCTL_ISOCHRONOUS_WRITE).FinishesOnce emptyPacketsDelivery ∧
      (Handler.onIoControl LIBUSB_IOCTL_ISOCHRONOUS_WRITE).deliver emptyPacketsDelivery = none := by
  refine ⟨⟨?_, _, rfl, rfl, rfl, _, rfl, rfl⟩, ?_, rfl⟩
  · rintro ⟨s, hs, halways⟩
    have hstart := (halways []).start
    cases hs
    exact absurd (finishedOnce_iff.mp hstart) (by decide)
  · rintro ⟨s, hs, -⟩
    cases hs

end LibusbK
