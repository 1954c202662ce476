import LibusbK.Driver.Framework
import LibusbK.Lib.Window
import Mathlib.Data.Int.Notation
import Mathlib.Tactic.SplitIfs

/-!
# Isochronous transfers

The transfer routines of `drv_xfer_iso.c` and their completion routines.
`XferIsoRead` and `XferIsoWrite` lay the packets out themselves; `XferIsoEx`
takes the layout from a `KISO_CONTEXT`.  `xferIsoRead_eq` and `xferIsoWrite_eq`
split the first two where the start frame is set.

The memory of a `KISO_CONTEXT` stays mapped to the process that owns it, so every
time the driver reads a field of it the field may have another value.
`IsoContextReads` has one value for each of these reads, and `XferIsoEx` and its
completion routine return, besides what they leave behind, the packet array
elements they touch.
-/

namespace LibusbK

open Window

/-! ### Frames -/

/-- `Frames_Per_bInterval_HighSpeed`. -/
def framesPerBIntervalHighSpeed : List UInt16 := [1, 2, 4, 8, 16] ++ List.replicate 27 32

/-- `Frames_Per_bInterval_FullSpeed`. -/
def framesPerBIntervalFullSpeed : List UInt16 :=
  [1, 2, 2, 4, 4, 4, 4] ++ List.replicate 8 8 ++ List.replicate 16 16 ++ [32]

/-- The entry at `(Interval - 1) % 32`.  The remainder is `-1` for the interval 0,
which reads the word in front of the table. -/
def framesPerBInterval (fw : Framework) (table : List UInt16) (interval : UInt8) : UInt16 :=
  if interval = 0 then fw.wordBeforeTable else table.getD ((interval.toNat - 1) % 32) 0

/-- `mXfer_IsoCheckInitNextFrameNumber`, with the value it leaves in
`useNextStartFrame`. -/
def isoCheckInitNextFrameNumber (fw : Framework) (isHS : Bool) (rc : RequestContext)
    (qc : QueueContext) : QueueContext × Bool :=
  if qc.isFreshPipeReset then
    if !rc.policies.isoAlwaysStartAsap then
      if !ntSuccess fw.currentFrame.1 then
        ({ qc with isFreshPipeReset := false, nextFrameNumber := 0 }, false)
      else
        let frame := fw.currentFrame.2 + UInt32.ofNat (rc.policies.isoStartLatency % 0x10000)
        let frame := if isHS ∧ frame % 8 ≠ 0 then frame + (8 - frame % 8) else frame
        ({ qc with isFreshPipeReset := false, nextFrameNumber := frame }, true)
    else ({ qc with isFreshPipeReset := false }, false)
  else (qc, true)

/-- `mXfer_IsoAssignNextFrameNumber`: the start frame of the URB is the old next
frame number. -/
def isoAssignNextFrameNumber (fw : Framework) (isHS : Bool) (numberOfPackets : UInt32)
    (qc : QueueContext) : QueueContext :=
  if isHS then
    { qc with nextFrameNumber := qc.nextFrameNumber + (numberOfPackets >>> 3) *
        (framesPerBInterval fw framesPerBIntervalHighSpeed qc.info.interval).toUInt32 }
  else
    { qc with nextFrameNumber := qc.nextFrameNumber + numberOfPackets *
        (framesPerBInterval fw framesPerBIntervalFullSpeed qc.info.interval).toUInt32 }

/-- The part of the transfer routines that sets the start frame of an URB, or
marks it to start as soon as possible. -/
def isoSetStartFrame (fw : Framework) (isHS : Bool) (rc : RequestContext) (urb : IsoUrb)
    (qc : QueueContext) : QueueContext × IsoUrb :=
  if rc.policies.isoAlwaysStartAsap then (qc, { urb with startAsap := true })
  else
    let init := isoCheckInitNextFrameNumber fw isHS rc qc
    if init.2 then
      (isoAssignNextFrameNumber fw isHS urb.numberOfPackets init.1,
        { urb with startFrame := init.1.nextFrameNumber })
    else (init.1, { urb with startAsap := true })

/-- The end of the transfer routines: format the URB and send it.  No timeout is
set. -/
def submitUrb (fw : Framework) (qc : QueueContext) (routine : Routine) (urb : IsoUrb) : Served :=
  if !ntSuccess fw.formatRequest then completeWithInformation qc fw.formatRequest 0
  else if ntSuccess (submitAsyncQueueRequest fw) then
    { queue := qc, effects := [.send routine (.urb urb)] }
  else completeWithInformation qc (submitAsyncQueueRequest fw) 0

/-- What the arithmetic of a `LONG` comes out at. -/
def longOf (z : ℤ) : ℤ := Int.bmod z 0x100000000

/-- The `LONG` a `ULONG` is converted to. -/
def asLong (n : ℕ) : ℤ := longOf n

theorem asLong_of_lt {n : ℕ} (h : n < 0x80000000) : asLong n = n := by
  unfold asLong longOf
  exact Int.bmod_eq_of_le (by omega) (by omega)

/-! ### Transfers laid out by the driver -/

/-- The offsets of `numberOfPackets` packets that are each `step` bytes long. -/
def isoReadOffsets (step numberOfPackets : ℕ) : List ℕ :=
  (List.range numberOfPackets).map fun posPacket => posPacket * step

/-- `XferIsoRead`. -/
def xferIsoRead (fw : Framework) (dc : DeviceContext) (rc : RequestContext) (qc : QueueContext) :
    Served :=
  let status := validateRequestContext fw rc
  if !ntSuccess status then completeWithInformation qc status 0
  else if !fw.queueContext then completeWithInformation qc STATUS_INVALID_DEVICE_REQUEST 0
  else if !fw.wdmPipeHandle then completeWithInformation qc STATUS_INVALID_DEVICE_REQUEST 0
  else if qc.info.maximumPacketSize = 0 then
    completeWithInformation qc STATUS_INVALID_BUFFER_SIZE 0
  else
    let numberOfPackets := asLong (rc.length / qc.info.maximumPacketSize)
    let numberOfPackets :=
      if dc.isHighSpeed then min (numberOfPackets - numberOfPackets.tmod 8) 1024
      else min numberOfPackets 256
    if numberOfPackets ≤ 0 then completeWithInformation qc STATUS_INVALID_DEVICE_REQUEST 0
    else if !ntSuccess fw.transferMdl then completeWithInformation qc fw.transferMdl 0
    else if !ntSuccess fw.memoryCreate then completeWithInformation qc fw.memoryCreate 0
    else
      let reset := handlePipeResetScenarios fw rc qc
      let count := numberOfPackets.toNat
      let urb : IsoUrb :=
        { numberOfPackets := UInt32.ofNat count
          transferBufferLength := count * qc.info.maximumPacketSize
          directionIn := true
          offsets := isoReadOffsets qc.info.maximumPacketSize count
          startAsap := false
          startFrame := 0 }
      let framed := isoSetStartFrame fw dc.isHighSpeed rc urb reset.1
      (submitUrb fw framed.1 .isoRd framed.2).after reset.2

/-- The loop of `XferIsoWrite` that assigns the packet offsets: the first
`remBytes` packets are one byte longer than the others. -/
def isoWriteOffsets (minBytesPerPacket : ℕ) : ℕ → ℕ → ℕ → List ℕ
  | 0, _, _ => []
  | n + 1, remBytes, offset =>
    offset ::
      if remBytes < 1 then isoWriteOffsets minBytesPerPacket n remBytes (offset + minBytesPerPacket)
      else isoWriteOffsets minBytesPerPacket n (remBytes - 1) (offset + minBytesPerPacket + 1)

/-- The number of packets of `XferIsoWrite`, or the status it fails with.  `none`
is the division by a packet size of zero. -/
def isoWriteNumberOfPackets (dc : DeviceContext) (rc : RequestContext) (qc : QueueContext) :
    Option (Except NTSTATUS ℕ) :=
  if rc.policies.isoNumFixedPackets ≠ 0 then
    if rc.length / rc.policies.isoNumFixedPackets > qc.info.maximumPacketSize then
      some (.error STATUS_INVALID_BUFFER_SIZE)
    else some (.ok rc.policies.isoNumFixedPackets)
  else if qc.info.maximumPacketSize = 0 then none
  else
    let numberOfPackets := asLong (rc.length / qc.info.maximumPacketSize)
    let numberOfPackets :=
      if rc.length % qc.info.maximumPacketSize > 0 then longOf (numberOfPackets + 1)
      else numberOfPackets
    let remPackets := numberOfPackets.tmod 8
    let numberOfPackets :=
      if dc.isHighSpeed ∧ remPackets > 0 then longOf (numberOfPackets + (8 - remPackets))
      else numberOfPackets
    if numberOfPackets > (if dc.isHighSpeed then 1024 else 256) then
      some (.error STATUS_INVALID_BUFFER_SIZE)
    else if numberOfPackets ≤ 0 then some (.error STATUS_INVALID_DEVICE_REQUEST)
    else some (.ok numberOfPackets.toNat)

/-- `XferIsoWrite`; `none` when it divides by zero. -/
def xferIsoWrite (fw : Framework) (dc : DeviceContext) (rc : RequestContext) (qc : QueueContext) :
    Option Served :=
  let status := validateRequestContext fw rc
  if !ntSuccess status then some (completeWithInformation qc status 0)
  else if !fw.queueContext then some (completeWithInformation qc STATUS_INVALID_DEVICE_REQUEST 0)
  else if !fw.wdmPipeHandle then some (completeWithInformation qc STATUS_INVALID_DEVICE_REQUEST 0)
  else (isoWriteNumberOfPackets dc rc qc).map fun
    | .error status => completeWithInformation qc status 0
    | .ok count =>
      if !ntSuccess fw.transferMdl then completeWithInformation qc fw.transferMdl 0
      else if !ntSuccess fw.memoryCreate then completeWithInformation qc fw.memoryCreate 0
      else
        let minBytesPerPacket := rc.length / count
        let remBytes := rc.length - minBytesPerPacket * count
        let reset := handlePipeResetScenarios fw rc qc
        let urb : IsoUrb :=
          { numberOfPackets := UInt32.ofNat count
            transferBufferLength := rc.length
            directionIn := false
            offsets := isoWriteOffsets minBytesPerPacket count remBytes 0
            startAsap := false
            startFrame := 0 }
        let framed := isoSetStartFrame fw dc.isHighSpeed rc urb reset.1
        (submitUrb fw framed.1 .isoWr framed.2).after reset.2

/-- The fields of a completed URB the completion routines of these transfers
read. -/
structure UrbResult where
  transferBufferLength : ℕ := 0
  /-- The offset and the length of each packet. -/
  packets : List (ℤ × ℤ) := []

/-- The loop of `XferIsoRdComplete` that moves the received bytes together, with
the status it leaves; `.error` is the failure to retrieve the output buffer. -/
def isoCompact (fw : Framework) :
    List (ℤ × ℤ) → ℤ → NTSTATUS → List UInt8 → Except NTSTATUS (NTSTATUS × List UInt8)
  | [], _, status, dataBuffer => .ok (status, dataBuffer)
  | (packetOffset, packetLength) :: packets, dataBufferOffset, status, dataBuffer =>
    if packetLength > 0 ∧ dataBufferOffset < packetOffset then
      if !ntSuccess fw.outputBuffer then .error fw.outputBuffer
      else
        isoCompact fw packets (dataBufferOffset + packetLength) fw.outputBuffer
          (writeAt dataBufferOffset.toNat
            (window packetOffset.toNat packetLength.toNat dataBuffer) dataBuffer)
    else isoCompact fw packets (dataBufferOffset + packetLength) status dataBuffer

/-- `XferIsoRdComplete`; `length` is the length the submission left in the request
context.  The second component is the user's buffer. -/
def xferIsoRdComplete (fw : Framework) (rc : RequestContext) (length : ℕ) (status : NTSTATUS)
    (urb : UrbResult) (buffer : List UInt8) (qc : QueueContext) : Served × List UInt8 :=
  let qc := handlePipeResetScenariosForComplete status rc qc
  if ntSuccess status ∧ 0 < urb.transferBufferLength ∧ urb.transferBufferLength < length ∧
      usbEndpointDirectionIn qc.info.endpointAddress then
    match isoCompact fw urb.packets 0 status buffer with
    | .error status => (completeWithInformation qc status urb.transferBufferLength, buffer)
    | .ok (status, buffer) =>
      (completeWithInformation qc status urb.transferBufferLength, buffer)
  else
    (completeWithInformation qc status (if ntSuccess status then urb.transferBufferLength else 0),
      buffer)

/-- `XferIsoWrComplete`. -/
def xferIsoWrComplete (rc : RequestContext) (status : NTSTATUS) (urb : UrbResult)
    (qc : QueueContext) : Served :=
  completeWithInformation (handlePipeResetScenariosForComplete status rc qc) status
    (if ntSuccess status then urb.transferBufferLength else 0)

/-! ### Transfers laid out by the user -/

/-- What the reads of a `KISO_CONTEXT` during `XferIsoEx` answer, one field for
each.  An answer that depends on the packet is a function of its position. -/
structure IsoContextReads where
  /-- `NumberOfPackets`, in the order of the statements that read it. -/
  zeroTest : Int16
  signTest : Int16
  highSpeedTest : Int16
  urbSize : Int16
  initUrb : Int16
  /-- `NumberOfPackets`, in the condition of the copy loop. -/
  copyLoop : ℕ → Int16
  /-- `IsoPackets[].Offset`, where it is compared with the length of the request. -/
  offsetTested : ℕ → ℕ
  /-- `IsoPackets[].Offset`, where it is assigned to the URB. -/
  offsetAssigned : ℕ → ℕ
  /-- `KISO_FLAG_SET_START_FRAME`, where the start frame is set. -/
  setStartFrame : Bool := false
  /-- `KISO_FLAG_SET_START_FRAME`, after the copy loop. -/
  hasStartFrame : Bool := false
  startFrame : UInt32 := 0

/-- An element of one of the two packet arrays, as an iteration of a loop touches
it. -/
inductive IsoAccess
  /-- An element of `IsoContext->IsoPackets` is read. -/
  | readContext (pos : ℕ)
  /-- The offset of an `IsoPacket` of the URB is set. -/
  | writeUrb (pos offset : ℕ)
  /-- An `IsoPacket` of the URB is read. -/
  | readUrb (pos : ℕ)
  /-- The length and the status of an `IsoContext->IsoPackets` are set. -/
  | writeContext (pos : ℕ) (length status : UInt16)
  deriving DecidableEq, Repr

/-- `mXfer_IsoPacketsToUrb` from the packet `mPos` on: the offsets the URB gets,
or `none` for the error action, and the elements touched. -/
def isoPacketsToUrb (reads : IsoContextReads) (dataLength mPos : ℕ) :
    Option (List ℕ) × List IsoAccess :=
  if (mPos : ℤ) < (reads.copyLoop mPos).toInt then
    if dataLength ≤ reads.offsetTested mPos then (none, [.readContext mPos])
    else
      let rest := isoPacketsToUrb reads dataLength (mPos + 1)
      (rest.1.map (reads.offsetAssigned mPos :: ·),
        .readContext mPos :: .writeUrb mPos (reads.offsetAssigned mPos) :: rest.2)
  else (some [], [])
termination_by 0x8000 - mPos
decreasing_by
  -- a `SHORT` count stops every position below 2^15
  have := Int16.toInt_lt (reads.copyLoop mPos)
  omega

/-- `XferIsoEx` up to the allocation of the URB: a status that is no success is the
one it completes the request with. -/
def isoExStatus (fw : Framework) (dc : DeviceContext) (rc : RequestContext)
    (reads : IsoContextReads) : NTSTATUS :=
  let status := validateRequestContext fw rc
  if !ntSuccess status then status
  else if !fw.queueContext then STATUS_INVALID_DEVICE_REQUEST
  else if rc.isoContextSize = none then STATUS_INVALID_DEVICE_REQUEST
  else if !fw.contextBuffer then STATUS_INVALID_DEVICE_REQUEST
  else if !fw.wdmPipeHandle then STATUS_INVALID_DEVICE_REQUEST
  else if reads.zeroTest = 0 ∨ reads.signTest.toInt < 0 then STATUS_INVALID_DEVICE_REQUEST
  else if dc.isHighSpeed ∧ reads.highSpeedTest.toInt.tmod 8 ≠ 0 then STATUS_INVALID_DEVICE_REQUEST
  else if !ntSuccess fw.transferMdl then fw.transferMdl
  else fw.memoryCreate

/-- `XferIsoEx`, with the packet array elements it touches. -/
def xferIsoEx (fw : Framework) (dc : DeviceContext) (rc : RequestContext) (qc : QueueContext)
    (reads : IsoContextReads) : Served × List IsoAccess :=
  let status := isoExStatus fw dc rc reads
  if !ntSuccess status then (completeWithInformation qc status 0, [])
  else
    let reset := handlePipeResetScenarios fw rc qc
    let urb : IsoUrb :=
      { numberOfPackets := reads.initUrb.toInt32.toUInt32
        transferBufferLength := rc.length
        directionIn := usbEndpointDirectionIn qc.info.endpointAddress
        offsets := []
        startAsap := false
        startFrame := if reads.setStartFrame then reads.startFrame else 0 }
    match isoPacketsToUrb reads rc.length 0 with
    | (none, accesses) =>
      ((completeWithInformation reset.1 STATUS_INVALID_BUFFER_SIZE 0).after reset.2, accesses)
    | (some offsets, accesses) =>
      let framed :=
        if reads.hasStartFrame then (reset.1, urb)
        else isoSetStartFrame fw dc.isHighSpeed rc urb reset.1
      ((submitUrb fw framed.1 .isoEx { framed.2 with offsets := offsets }).after reset.2, accesses)

/-- The fields of a completed URB `XferIsoExComplete` reads. -/
structure IsoExUrb where
  headerStatus : UInt32 := 0
  errorCount : UInt32 := 0
  startFrame : UInt32 := 0
  transferBufferLength : ℕ := 0
  /-- The length and the status of each packet. -/
  isoPacket : ℕ → UInt32 × UInt32 := fun _ => (0, 0)

/-- The fields of a `KISO_CONTEXT` header `XferIsoExComplete` sets. -/
structure IsoContextHeader where
  errorCount : UInt16
  startFrame : UInt32
  urbHdrStatus : UInt32
  deriving DecidableEq, Repr

/-- The loop of `XferIsoExComplete` from the packet `posPacket` on; `updateLoop` is
what its reads of `NumberOfPackets` answer. -/
def isoPacketsFromUrb (updateLoop : ℕ → Int16) (urb : IsoExUrb) (posPacket : ℕ) :
    List IsoAccess :=
  if (posPacket : ℤ) < (updateLoop posPacket).toInt then
    let packet := urb.isoPacket posPacket
    .readUrb posPacket ::
      .writeContext posPacket packet.1.toUInt16
        ((packet.2 &&& (0xFFFF : UInt32)) ||| (packet.2 >>> (16 : UInt32))).toUInt16 ::
      isoPacketsFromUrb updateLoop urb (posPacket + 1)
  else []
termination_by 0x8000 - posPacket
decreasing_by
  have := Int16.toInt_lt (updateLoop posPacket)
  omega

/-- What `XferIsoExComplete` leaves behind: besides the queue context and its
effects, the header it writes and the packet array elements it touches. -/
structure IsoExCompleted where
  served : Served
  header : Option IsoContextHeader := none
  accesses : List IsoAccess := []

/-- `XferIsoExComplete`.  Its context argument is the packet context the submission
passed, which is not null. -/
def xferIsoExComplete (fw : Framework) (rc : RequestContext) (status : NTSTATUS) (urb : IsoExUrb)
    (updateLoop : ℕ → Int16) (qc : QueueContext) : IsoExCompleted :=
  if !fw.urbBuffer || !fw.requestContext then
    { served := completeWithInformation qc
        (if ntSuccess status then STATUS_INVALID_ADDRESS else status) 0 }
  else if status = STATUS_CANCELLED ∨ status = STATUS_DEVICE_NOT_CONNECTED then
    { served := completeWithInformation qc status 0 }
  else if !ntSuccess status ∧ urb.headerStatus ≠ 0 then
    { served := completeWithInformation qc status 0 }
  else
    { served := completeWithInformation (handlePipeResetScenariosForComplete status rc qc) status
        (if ntSuccess status then urb.transferBufferLength else 0)
      header := some ⟨urb.errorCount.toUInt16, urb.startFrame, urb.headerStatus⟩
      accesses := isoPacketsFromUrb updateLoop urb 0 }

section
variable (fw : Framework) (dc : DeviceContext) (rc : RequestContext) (qc : QueueContext)

/-! ### The transfer routines up to the start frame -/

/-- The URB of `XferIsoRead` without its start frame, or the status of a request
that gets none. -/
def isoReadUrb : Except NTSTATUS IsoUrb :=
  let status := validateRequestContext fw rc
  if !ntSuccess status then .error status
  else if !fw.queueContext then .error STATUS_INVALID_DEVICE_REQUEST
  else if !fw.wdmPipeHandle then .error STATUS_INVALID_DEVICE_REQUEST
  else if qc.info.maximumPacketSize = 0 then .error STATUS_INVALID_BUFFER_SIZE
  else
    let numberOfPackets := asLong (rc.length / qc.info.maximumPacketSize)
    let numberOfPackets :=
      if dc.isHighSpeed then min (numberOfPackets - numberOfPackets.tmod 8) 1024
      else min numberOfPackets 256
    if numberOfPackets ≤ 0 then .error STATUS_INVALID_DEVICE_REQUEST
    else if !ntSuccess fw.transferMdl then .error fw.transferMdl
    else if !ntSuccess fw.memoryCreate then .error fw.memoryCreate
    else .ok
      { numberOfPackets := UInt32.ofNat numberOfPackets.toNat
        transferBufferLength := numberOfPackets.toNat * qc.info.maximumPacketSize
        directionIn := true
        offsets := isoReadOffsets qc.info.maximumPacketSize numberOfPackets.toNat
        startAsap := false
        startFrame := 0 }

/-- The URB of `XferIsoWrite` without its start frame. -/
def isoWriteUrb : Option (Except NTSTATUS IsoUrb) :=
  let status := validateRequestContext fw rc
  if !ntSuccess status then some (.error status)
  else if !fw.queueContext then some (.error STATUS_INVALID_DEVICE_REQUEST)
  else if !fw.wdmPipeHandle then some (.error STATUS_INVALID_DEVICE_REQUEST)
  else (isoWriteNumberOfPackets dc rc qc).map fun
    | .error status => .error status
    | .ok count =>
      if !ntSuccess fw.transferMdl then .error fw.transferMdl
      else if !ntSuccess fw.memoryCreate then .error fw.memoryCreate
      else
        let minBytesPerPacket := rc.length / count
        .ok
          { numberOfPackets := UInt32.ofNat count
            transferBufferLength := rc.length
            directionIn := false
            offsets := isoWriteOffsets minBytesPerPacket count
              (rc.length - minBytesPerPacket * count) 0
            startAsap := false
            startFrame := 0 }

/-- The rest of a transfer routine: the start frame, and the submission. -/
def frameAndSubmit (routine : Routine) (urb : IsoUrb) : Served :=
  let reset := handlePipeResetScenarios fw rc qc
  let framed := isoSetStartFrame fw dc.isHighSpeed rc urb reset.1
  (submitUrb fw framed.1 routine framed.2).after reset.2

theorem xferIsoRead_eq :
    xferIsoRead fw dc rc qc =
      match isoReadUrb fw dc rc qc with
      | .error status => completeWithInformation qc status 0
      | .ok urb => frameAndSubmit fw dc rc qc .isoRd urb := by
  unfold xferIsoRead isoReadUrb
  dsimp only
  split_ifs <;> rfl

theorem xferIsoWrite_eq :
    xferIsoWrite fw dc rc qc = (isoWriteUrb fw dc rc qc).map fun
      | .error status => completeWithInformation qc status 0
      | .ok urb => frameAndSubmit fw dc rc qc .isoWr urb := by
  unfold xferIsoWrite isoWriteUrb
  dsimp only
  iterate 3
    split
    · rfl
  rw [Option.map_map]
  congr 1
  funext count
  cases count with
  | error status => rfl
  | ok count =>
    dsimp only [Function.comp]
    split_ifs <;> rfl

/-- The direction and the packets of the URB that is laid out. -/
theorem exists_count_of_isoWriteUrb {fw : Framework} {dc : DeviceContext} {rc : RequestContext}
    {qc : QueueContext} {u : IsoUrb} (h : isoWriteUrb fw dc rc qc = some (.ok u)) :
    rc.queueContext = true ∧ ∃ count, isoWriteNumberOfPackets dc rc qc = some (.ok count) ∧
      u.directionIn = false ∧ u.numberOfPackets = UInt32.ofNat count ∧
      u.offsets = isoWriteOffsets (rc.length / count) count
        (rc.length - rc.length / count * count) 0 := by
  unfold isoWriteUrb at h
  dsimp only at h
  have hrc : rc.queueContext = true := Classical.byContradiction fun hne => by
    have hfail : ntSuccess (validateRequestContext fw rc) = false := by
      rw [← Bool.not_eq_true, ntSuccess_validateRequestContext]
      exact fun hok => hne hok.2
    rw [if_pos (by simp [hfail])] at h
    cases h
  refine ⟨hrc, ?_⟩
  iterate 3
    split at h
    · cases h
  obtain ⟨r, hcount, hr⟩ := Option.map_eq_some_iff.mp h
  cases r with
  | error status => cases hr
  | ok count =>
    dsimp only at hr
    iterate 2
      split at hr
      · cases hr
    cases hr
    exact ⟨count, hcount, rfl, rfl, rfl⟩

/-- With a framework that answers well, an URB is laid out for a number of packets. -/
theorem exists_isoWriteUrb_of_count {dc : DeviceContext} {rc : RequestContext} {qc : QueueContext}
    {count : ℕ} (hrc : rc.queueContext = true)
    (h : isoWriteNumberOfPackets dc rc qc = some (.ok count)) :
    ∃ u, isoWriteUrb {} dc rc qc = some (.ok u) := by
  have hvalid : ntSuccess (validateRequestContext {} rc) = true :=
    ntSuccess_validateRequestContext.mpr ⟨rfl, hrc⟩
  unfold isoWriteUrb
  dsimp only
  rw [if_neg (by simp [hvalid]), if_neg (by simp), if_neg (by simp), h]
  dsimp only [Option.map]
  rw [if_neg (by decide), if_neg (by decide)]
  exact ⟨_, rfl⟩

/-! ### The request is given away once -/

theorem handsOver_submitUrb (routine : Routine) (urb : IsoUrb) :
    (submitUrb fw qc routine urb).HandsOver routine := by
  unfold submitUrb
  split_ifs
  · exact handsOver_completeWithInformation _ _ _ _
  · exact .inl ⟨_, rfl⟩
  · exact handsOver_completeWithInformation _ _ _ _

theorem handsOver_frameAndSubmit (routine : Routine) (urb : IsoUrb) :
    (frameAndSubmit fw dc rc qc routine urb).HandsOver routine :=
  (handsOver_submitUrb fw _ _ _).after (isQuiet_of_mem_handlePipeResetScenarios fw rc qc)

theorem handsOver_xferIsoRead : (xferIsoRead fw dc rc qc).HandsOver .isoRd := by
  rw [xferIsoRead_eq]
  cases isoReadUrb fw dc rc qc with
  | error status => exact handsOver_completeWithInformation _ _ _ _
  | ok urb => exact handsOver_frameAndSubmit fw dc rc qc _ urb

theorem handsOver_xferIsoWrite {s : Served} (h : xferIsoWrite fw dc rc qc = some s) :
    s.HandsOver .isoWr := by
  rw [xferIsoWrite_eq] at h
  obtain ⟨urb, -, rfl⟩ := Option.map_eq_some_iff.mp h
  cases urb with
  | error status => exact handsOver_completeWithInformation _ _ _ _
  | ok urb => exact handsOver_frameAndSubmit fw dc rc qc _ urb

theorem handsOver_xferIsoEx (reads : IsoContextReads) :
    (xferIsoEx fw dc rc qc reads).1.HandsOver .isoEx := by
  have hreset := isQuiet_of_mem_handlePipeResetScenarios fw rc qc
  unfold xferIsoEx
  dsimp only
  split
  · exact handsOver_completeWithInformation _ _ _ _
  · split
    · exact (handsOver_completeWithInformation _ _ _ _).after hreset
    · exact (handsOver_submitUrb fw _ _ _).after hreset

theorem handsOver_xferIsoRdComplete (length : ℕ) (status : NTSTATUS) (urb : UrbResult)
    (buffer : List UInt8) :
    (xferIsoRdComplete fw rc length status urb buffer qc).1.HandsOver .isoRd := by
  unfold xferIsoRdComplete
  dsimp only
  split
  · split <;> exact handsOver_completeWithInformation _ _ _ _
  · exact handsOver_completeWithInformation _ _ _ _

theorem handsOver_xferIsoWrComplete (status : NTSTATUS) (urb : UrbResult) :
    (xferIsoWrComplete rc status urb qc).HandsOver .isoWr :=
  handsOver_completeWithInformation _ _ _ _

theorem handsOver_xferIsoExComplete (status : NTSTATUS) (urb : IsoExUrb) (updateLoop : ℕ → Int16) :
    (xferIsoExComplete fw rc status urb updateLoop qc).served.HandsOver .isoEx := by
  unfold xferIsoExComplete
  split_ifs <;> exact handsOver_completeWithInformation _ _ _ _

end

end LibusbK
