import LibusbK.Driver.BulkStatus
import LibusbK.Driver.BulkStream

/-!
# Refused reads

Without `AllowPartialReads` a read is moved in whole packets, straight into the
user's memory, and a length that leaves a part of a packet is refused with
`STATUS_INVALID_BUFFER_SIZE`.  A refused read should consume nothing: neither
bytes left over from an earlier read nor bytes of the device.

`Xfer_ReadBulkRaw` tests the length of the request before it does anything else.
In a non-raw read the test is part of `mXfer_SubmitNextRead`: it is made for the
stage that is next, after the left-over bytes have been copied and after each
stage that has succeeded.  A read that is refused there has consumed what was
moved before.

## Main definitions

* `Untouched` — the request left the over-run buffer as it found it and received
  nothing.
* `RefusedAfterData` — the event refuses a read that has moved bytes.
* `DirectRead` — the state of a read that moves whole packets.

## Main results

* `readOutcome_xferReadBulk`, `readOutcome_xferReadBulkComplete` — when one
  routine refuses a read that is not untouched.
* `readQueue_refusals_iff` — the reads a run refuses are untouched if and only
  if none of its events refuses one that has moved bytes.
-/

namespace LibusbK

/-! ### Refusals that consume nothing -/

/-- The request `t` has left the over-run buffer of `qc` as it found it, and the
device has delivered nothing for it. -/
def Untouched (t : Transfer) (qc : QueueContext) : Prop :=
  t.received = [] ∧ qc.overOfs = t.before.overOfs ∧ qc.overBuf = t.before.overBuf

/-- If the read that has just been completed was refused, then it is untouched. -/
def RefusalUntouched (s : BulkQueue) : Prop :=
  s.current = none → ∀ t, s.finished.getLast? = some t →
    t.request.policies.allowPartialReads = false →
      ∀ c, t.completion = some c → c.status = STATUS_INVALID_BUFFER_SIZE → Untouched t s.queue

/-- The event refuses a read that has moved bytes: bytes were left over for a
read whose remainder cannot be submitted, or a stage leaves a read with some
bytes moved and fails with that status or is followed by one that cannot be
submitted. -/
def RefusedAfterData (s : BulkQueue) : BulkEvent → Prop
  | .request fw rc =>
    rc.policies.allowPartialReads = false ∧ StartsRead fw rc s.queue ∧
      s.queue.info.maximumPacketSize ≠ 0 ∧ 0 < s.queue.overOfs.bufferLength ∧
        NextReadFailsWith fw rc s.queue.info (rc.length - s.queue.overOfs.bufferLength)
          STATUS_INVALID_BUFFER_SIZE
  | .stageDone fw status bytes =>
    ∃ t memory, s.current = some t ∧ t.pending = some memory ∧
      t.request.policies.allowPartialReads = false ∧
        s.queue.xfer.transferred + bytes.length ≠ 0 ∧
        (status = STATUS_INVALID_BUFFER_SIZE ∨
          ContinuesRead fw t.request s.queue status bytes.length memory ∧
            NextReadFailsWith fw t.request s.queue.info
              (t.request.length - (s.queue.xfer.transferred + bytes.length))
              STATUS_INVALID_BUFFER_SIZE)

/-! ### Reads in whole packets -/

/-- A read in progress that moves whole packets: the bytes it has so far are
those left over before it, all of them copied, and those of its stages. -/
structure DirectRead (t : Transfer) (qc : QueueContext) : Prop where
  length_eq : qc.xfer.length = t.request.length
  bufferLength : qc.overOfs.bufferLength = 0
  overOfs : t.before.overOfs.bufferLength = 0 → qc.overOfs = t.before.overOfs
  overBuf : qc.overBuf = t.before.overBuf
  transferred : qc.xfer.transferred = t.before.overOfs.bufferLength + t.received.length

/-- A read in whole packets is untouched as long as it has moved no byte. -/
theorem DirectRead.untouched_iff {t : Transfer} {qc : QueueContext} (h : DirectRead t qc) :
    Untouched t qc ↔ qc.xfer.transferred = 0 := by
  rw [h.transferred, Nat.add_eq_zero_iff, List.length_eq_zero_iff]
  constructor
  · rintro ⟨hreceived, hofs, _⟩
    exact ⟨hofs ▸ h.bufferLength, hreceived⟩
  · rintro ⟨hbefore, hreceived⟩
    exact ⟨hreceived, h.overOfs hbefore, h.overBuf⟩

theorem DirectRead.congr {t : Transfer} {qc q : QueueContext} (h : DirectRead t qc)
    (hofs : q.overOfs = qc.overOfs) (hbuf : q.overBuf = qc.overBuf)
    (hlength : q.xfer.length = qc.xfer.length)
    (htransferred : q.xfer.transferred = qc.xfer.transferred) : DirectRead t q where
  length_eq := hlength.trans h.length_eq
  bufferLength := hofs ▸ h.bufferLength
  overOfs h0 := hofs.trans (h.overOfs h0)
  overBuf := hbuf.trans h.overBuf
  transferred := htransferred.trans h.transferred

/-- What a routine leaves of the read `t`: it goes on in whole packets and `bad`
is false, or it is over, and `bad` says that it was refused with bytes moved. -/
inductive ReadOutcome (t : Transfer) (s : Served) (bad : Prop) : Prop
  | sent {ofs : MemoryOffset} (hsend : s.handoff = [.send .readBulk (.user ofs)])
      (hdirect : DirectRead t s.queue) (hofs : s.queue.xfer.userOfs = ofs) (hok : ¬bad)
  | ended {status : NTSTATUS} {n : ℕ} (hend : s.handoff = [.complete status n])
      (hbad : bad ↔ status = STATUS_INVALID_BUFFER_SIZE ∧ ¬Untouched t s.queue)

namespace ReadOutcome

variable {t : Transfer} {s : Served} {bad bad' : Prop}

theorem of_iff (h : ReadOutcome t s bad) (hiff : bad ↔ bad') : ReadOutcome t s bad' := by
  cases h with
  | sent hsend hdirect hofs hok => exact .sent hsend hdirect hofs (mt hiff.mpr hok)
  | ended hend hbad => exact .ended hend (hiff.symm.trans hbad)

theorem after {es : List Effect} (h : ReadOutcome t s bad) (hes : ∀ e ∈ es, e.isQuiet = true) :
    ReadOutcome t (s.after es) bad := by
  cases h with
  | sent hsend hdirect hofs hok =>
    exact .sent ((Served.handoff_after hes s).trans hsend) hdirect hofs hok
  | ended hend hbad => exact .ended ((Served.handoff_after hes s).trans hend) hbad

/-- A read that ends with another status was not refused. -/
theorem of_ne {status : NTSTATUS} {n : ℕ} (hend : s.handoff = [.complete status n])
    (hne : status ≠ STATUS_INVALID_BUFFER_SIZE) (hbad : ¬bad) : ReadOutcome t s bad :=
  .ended hend ⟨fun h => absurd h hbad, fun h => absurd h.1 hne⟩

/-- A read that ends untouched. -/
theorem of_untouched {status : NTSTATUS} {n : ℕ} (hend : s.handoff = [.complete status n])
    (h : Untouched t s.queue) (hbad : ¬bad) : ReadOutcome t s bad :=
  .ended hend ⟨fun hb => absurd hb hbad, fun hb => absurd h hb.2⟩

end ReadOutcome

theorem ntSuccess_ne_invalidBufferSize {status : NTSTATUS} (h : ntSuccess status = true) :
    status ≠ STATUS_INVALID_BUFFER_SIZE := by
  rintro rfl
  exact absurd h (by decide)

section

variable {t : Transfer} {qc : QueueContext} {fw : Framework}

theorem DirectRead.readOutcome_exitWith {status : NTSTATUS} (h : DirectRead t qc) :
    ReadOutcome t (exitWith qc status)
      (status = STATUS_INVALID_BUFFER_SIZE ∧ qc.xfer.transferred ≠ 0) :=
  .ended rfl (and_congr_right fun _ => (not_congr h.untouched_iff).symm)

theorem DirectRead.readOutcome_submitStage {ofs : MemoryOffset} (h : DirectRead t qc)
    (hofs : qc.xfer.userOfs = ofs) :
    ReadOutcome t (submitStage fw t.request qc .readBulk (.user ofs))
      (formatAndSubmit fw t.request = .error STATUS_INVALID_BUFFER_SIZE ∧
        qc.xfer.transferred ≠ 0) := by
  unfold submitStage
  cases hf : formatAndSubmit fw t.request with
  | ok => exact .sent rfl h hofs (by simp)
  | error status => exact h.readOutcome_exitWith.of_iff (by simp)

/-- The next stage of a read in whole packets is sent, or the read ends with the
bytes it has. -/
theorem DirectRead.readOutcome_submitNextRead (h : DirectRead t qc)
    (hwhole : t.request.policies.allowPartialReads = false) :
    ReadOutcome t (submitNextRead fw t.request qc)
      (NextReadFailsWith fw t.request qc.info (qc.xfer.length - qc.xfer.transferred)
          STATUS_INVALID_BUFFER_SIZE ∧
        qc.xfer.transferred ≠ 0) := by
  unfold submitNextRead NextReadFailsWith
  dsimp only
  by_cases hshort : min (qc.xfer.length - qc.xfer.transferred) qc.info.maximumTransferSize <
      qc.info.maximumPacketSize
  · simp only [hshort, hwhole, if_true, Bool.not_false, and_self]
    exact h.readOutcome_exitWith.of_iff (by simp)
  · simp only [hshort, if_false, false_and]
    have huser : ∀ ofs, DirectRead t (qc.setUserOfs ofs) := fun _ => h.congr rfl rfl rfl rfl
    exact (huser _).readOutcome_submitStage rfl

theorem DirectRead.readOutcome_nextReadUnlessShort {status : NTSTATUS} (h : DirectRead t qc)
    (hwhole : t.request.policies.allowPartialReads = false) (hok : ntSuccess status = true) :
    ReadOutcome t (nextReadUnlessShort fw t.request qc status)
      (t.request.policies.ignoreShortPackets = true ∧
        NextReadFailsWith fw t.request qc.info (qc.xfer.length - qc.xfer.transferred)
          STATUS_INVALID_BUFFER_SIZE ∧
        qc.xfer.transferred ≠ 0) := by
  unfold nextReadUnlessShort
  cases t.request.policies.ignoreShortPackets with
  | false => exact .of_ne rfl (ntSuccess_ne_invalidBufferSize hok) (by simp)
  | true => exact (h.readOutcome_submitNextRead hwhole).of_iff (by simp)

/-! ### The transfer routine -/

/-- A read as its transfer routine finds it: no stage has ended, and the over-run
buffer is the one it was handed. -/
structure FreshRead (t : Transfer) (qc : QueueContext) : Prop where
  received : t.received = []
  overOfs : qc.overOfs = t.before.overOfs
  overBuf : qc.overBuf = t.before.overBuf
  transferred : qc.xfer.transferred = 0
  length_eq : qc.xfer.length = t.request.length

theorem FreshRead.untouched (h : FreshRead t qc) : Untouched t qc :=
  ⟨h.received, h.overOfs, h.overBuf⟩

/-- With nothing left over, the first stage is a whole number of packets. -/
theorem FreshRead.directRead (h : FreshRead t qc) (h0 : qc.overOfs.bufferLength = 0) :
    DirectRead t qc where
  length_eq := h.length_eq
  bufferLength := h0
  overOfs _ := h.overOfs
  overBuf := h.overBuf
  transferred := by rw [h.transferred, h.received, ← h.overOfs, h0, List.length_nil]

/-- The left-over bytes, all of them copied, are the first bytes of the read. -/
theorem FreshRead.directRead_copied {buffer : List UInt8} (h : FreshRead t qc)
    (hpos : 0 < qc.overOfs.bufferLength) :
    DirectRead t (qc.copied buffer qc.overOfs.bufferLength) where
  length_eq := h.length_eq
  bufferLength := Nat.sub_self _
  overOfs h0 := absurd (h.overOfs ▸ h0) (Nat.ne_of_gt hpos)
  overBuf := h.overBuf
  transferred := by
    rw [QueueContext.transferred_copied, h.transferred, h.received, h.overOfs, List.length_nil]
    omega

theorem FreshRead.readOutcome_readBulkFromUserMem (h : FreshRead t qc)
    (hwhole : t.request.policies.allowPartialReads = false) :
    ReadOutcome t (readBulkFromUserMem fw t.request qc)
      (0 < qc.overOfs.bufferLength ∧ ntSuccess fw.copyFromBuffer = true ∧
        qc.overOfs.bufferLength < t.request.length ∧
        NextReadFailsWith fw t.request qc.info (t.request.length - qc.overOfs.bufferLength)
          STATUS_INVALID_BUFFER_SIZE) := by
  have hlen := h.length_eq
  have htransferred := h.transferred
  unfold readBulkFromUserMem
  dsimp only
  by_cases hpos : qc.overOfs.bufferLength > 0
  · rw [if_pos hpos, hlen, htransferred, Nat.sub_zero]
    cases hcopy : copyPartialReadToUserMemory fw qc (qc.overBuf.drop qc.overOfs.bufferOffset)
        (min qc.overOfs.bufferLength t.request.length) with
    | error status =>
      have hfail := copyPartialReadToUserMemory_error hcopy
      exact .of_untouched rfl h.untouched (by simp [hfail])
    | ok q =>
      obtain ⟨hok, rfl⟩ := copyPartialReadToUserMemory_ok hcopy
      dsimp only
      by_cases hdone : t.request.length ≤ qc.overOfs.bufferLength
      · have hall : (qc.copied (qc.overBuf.drop qc.overOfs.bufferOffset)
            (min qc.overOfs.bufferLength t.request.length)).xfer.transferred ≥
            (qc.copied (qc.overBuf.drop qc.overOfs.bufferOffset)
              (min qc.overOfs.bufferLength t.request.length)).xfer.length := by
          rw [QueueContext.transferred_copied, QueueContext.length_copied]
          omega
        rw [if_pos hall]
        exact .of_ne (handoff_exitTransferred _ _ _) (by decide) (by omega)
      · have hmin : min qc.overOfs.bufferLength t.request.length = qc.overOfs.bufferLength := by
          omega
        rw [hmin, if_neg (by
          rw [QueueContext.transferred_copied, QueueContext.length_copied]; omega)]
        refine ((h.directRead_copied hpos).readOutcome_submitNextRead hwhole).of_iff ?_
        rw [QueueContext.transferred_copied, QueueContext.length_copied, hlen, htransferred,
          Nat.zero_add]
        have hinfo : (qc.copied (qc.overBuf.drop qc.overOfs.bufferOffset)
            qc.overOfs.bufferLength).info = qc.info := rfl
        rw [hinfo]
        constructor
        · exact fun hbad => ⟨hpos, hok, by omega, hbad.1⟩
        · exact fun hbad => ⟨hbad.2.2.2, Nat.ne_of_gt hpos⟩
  · have h0 : qc.overOfs.bufferLength = 0 := by omega
    rw [if_neg hpos]
    exact ((h.directRead h0).readOutcome_submitNextRead hwhole).of_iff (by simp [h0, htransferred])

/-- `Xfer_ReadBulk` from the point where the pipe has been reset if needed. -/
theorem FreshRead.readOutcome_readBulkAfterReset (h : FreshRead t qc)
    (hwhole : t.request.policies.allowPartialReads = false) :
    ReadOutcome t (readBulkAfterReset fw t.request qc)
      (ntSuccess fw.transferMemory = true ∧ 0 < qc.overOfs.bufferLength ∧
        ntSuccess fw.copyFromBuffer = true ∧ qc.overOfs.bufferLength < t.request.length ∧
        NextReadFailsWith fw t.request qc.info (t.request.length - qc.overOfs.bufferLength)
          STATUS_INVALID_BUFFER_SIZE) := by
  unfold readBulkAfterReset
  by_cases hzero : qc.xfer.length = 0
  · rw [if_pos hzero]
    rw [h.length_eq] at hzero
    exact .of_untouched rfl h.untouched (by simp [hzero])
  · rw [if_neg hzero]
    cases htransfer : ntSuccess fw.transferMemory with
    | false => exact .of_untouched rfl h.untouched (by simp)
    | true =>
      have hfresh : FreshRead t (qc.setUserMem t.request.buffer) :=
        ⟨h.received, h.overOfs, h.overBuf, h.transferred, h.length_eq⟩
      exact (hfresh.readOutcome_readBulkFromUserMem hwhole).of_iff (by simp; exact Iff.rfl)

/-- `Xfer_ReadBulk` refuses a read with bytes moved only after it has copied what
was left over. -/
theorem readOutcome_xferReadBulk {rc : RequestContext}
    (hwhole : rc.policies.allowPartialReads = false) :
    ReadOutcome (.start rc qc) (xferReadBulk fw rc qc)
      (RefusedAfterData { queue := qc } (.request fw rc)) := by
  have huntouched : ∀ q : QueueContext, q.overOfs = qc.overOfs → q.overBuf = qc.overBuf →
      Untouched (.start rc qc) q := fun q hofs hbuf => ⟨rfl, hofs, hbuf⟩
  unfold xferReadBulk RefusedAfterData StartsRead
  dsimp only
  split_ifs with hvalid hqueue hmem hpacket
  · simp only [Bool.not_eq_true'] at hvalid
    exact .of_untouched rfl (huntouched _ rfl rfl) (by simp [hvalid])
  · simp only [Bool.not_eq_true'] at hqueue
    exact .of_untouched rfl (huntouched _ rfl rfl) (by simp [hqueue])
  · have hover : qc.overMem = false := by simpa [QueueContext.startXfer] using hmem
    exact .of_untouched rfl (huntouched _ rfl rfl) (by simp [hover])
  · have hzero : qc.info.maximumPacketSize = 0 := hpacket
    exact .of_untouched rfl (huntouched _ rfl rfl) (by simp [hzero])
  · have hover : qc.overMem = true := by simpa [QueueContext.startXfer] using hmem
    have hsize : qc.info.maximumPacketSize ≠ 0 := hpacket
    simp only [Bool.not_eq_true', Bool.not_eq_false] at hvalid hqueue
    refine ReadOutcome.after ?_ (isQuiet_of_mem_handlePipeResetScenarios fw rc _)
    generalize hreset : (handlePipeResetScenarios fw rc (qc.startXfer rc.length)).1 = q
    have hofs : q.overOfs = qc.overOfs := by rw [← hreset, overOfs_handlePipeResetScenarios]; rfl
    have hbuf : q.overBuf = qc.overBuf := by rw [← hreset, overBuf_handlePipeResetScenarios]; rfl
    have hinfo : q.info = qc.info := by rw [← hreset, info_handlePipeResetScenarios]; rfl
    have hlength : q.xfer.length = rc.length := by rw [← hreset, xfer_handlePipeResetScenarios]; rfl
    have htransferred : q.xfer.transferred = 0 := by
      rw [← hreset, xfer_handlePipeResetScenarios]
      rfl
    have hfresh : FreshRead (.start rc qc) q := ⟨rfl, hofs, hbuf, htransferred, hlength⟩
    refine (hfresh.readOutcome_readBulkAfterReset hwhole).of_iff ?_
    rw [hofs, hinfo, Transfer.request_start]
    constructor
    · rintro ⟨htransfer, hpos, hcopy, hlt, hnext⟩
      exact ⟨hwhole, ⟨hvalid, hqueue, hover, htransfer, .inr hcopy, hlt⟩, hsize, hpos, hnext⟩
    · rintro ⟨_, ⟨_, _, _, htransfer, hcopy, hlt⟩, _, hpos, hnext⟩
      exact ⟨htransfer, hpos, hcopy.resolve_left (Nat.ne_of_gt hpos), hlt, hnext⟩

/-! ### The completion routine -/

theorem DirectRead.addTransferred {memory : StageMemory} {status : NTSTATUS} {bytes : List UInt8}
    (h : DirectRead t qc) :
    DirectRead (t.endStage ⟨memory, status, bytes⟩) (qc.addTransferred bytes.length) where
  length_eq := h.length_eq
  bufferLength := h.bufferLength
  overOfs := h.overOfs
  overBuf := h.overBuf
  transferred := by
    rw [QueueContext.transferred_addTransferred, h.transferred, Transfer.received_endStage,
      List.length_append, Nat.add_assoc]
    rfl

/-- `Xfer_ReadBulkComplete` refuses a read in whole packets with the status of the
stage that ended, or when the read goes on with a part of a packet. -/
theorem readOutcome_xferReadBulkComplete {ofs : MemoryOffset} {status : NTSTATUS}
    {bytes : List UInt8} (h : DirectRead t qc)
    (hofs : qc.xfer.userOfs = ofs) (hwhole : t.request.policies.allowPartialReads = false) :
    ReadOutcome (t.endStage ⟨.user ofs, status, bytes⟩)
      (xferReadBulkComplete fw t.request status bytes.length qc)
      (qc.xfer.transferred + bytes.length ≠ 0 ∧
        (status = STATUS_INVALID_BUFFER_SIZE ∨
          ContinuesRead fw t.request qc status bytes.length (.user ofs) ∧
            NextReadFailsWith fw t.request qc.info
              (t.request.length - (qc.xfer.transferred + bytes.length))
              STATUS_INVALID_BUFFER_SIZE)) := by
  unfold xferReadBulkComplete
  dsimp only
  generalize hreset : handlePipeResetScenariosForComplete status t.request qc = q
  have hinfo : q.info = qc.info := by rw [← hreset, info_handlePipeResetScenariosForComplete]
  have hxfer : q.xfer = qc.xfer := by rw [← hreset, xfer_handlePipeResetScenariosForComplete]
  have hq : DirectRead t q := h.congr (by simp [← hreset]) (by simp [← hreset]) (by rw [hxfer])
    (by rw [hxfer])
  have hdone : DirectRead (t.endStage ⟨.user ofs, status, bytes⟩) (q.addTransferred bytes.length) :=
    hq.addTransferred
  have htransferred : (q.addTransferred bytes.length).xfer.transferred =
      qc.xfer.transferred + bytes.length := by rw [QueueContext.transferred_addTransferred, hxfer]
  have hlength : (q.addTransferred bytes.length).xfer.length = t.request.length := hdone.length_eq
  have huser : (q.addTransferred bytes.length).xfer.userOfs = ofs := by
    rw [← hofs, ← hxfer]
    rfl
  have hinfo' : (q.addTransferred bytes.length).info = qc.info := hinfo
  rw [if_neg (not_not.mpr hq.bufferLength)]
  unfold readBulkCompleteUser ContinuesRead
  dsimp only
  rw [htransferred, hlength, huser]
  cases hstatus : ntSuccess status with
  | false =>
    refine hdone.readOutcome_exitWith.of_iff ?_
    rw [htransferred]
    simp [and_comm]
  | true =>
    have hne := ntSuccess_ne_invalidBufferSize hstatus
    simp only [Bool.not_true, Bool.false_eq_true, if_false, hne, false_or, true_and]
    have hnext := @DirectRead.readOutcome_submitNextRead _ _ fw hdone hwhole
    have hshort := @DirectRead.readOutcome_nextReadUnlessShort _ _ fw status hdone hwhole hstatus
    rw [htransferred, hlength, hinfo'] at hnext hshort
    split_ifs with hend hfull
    · exact .of_ne rfl hne (by omega)
    · refine hnext.of_iff ?_
      have hlt : qc.xfer.transferred + bytes.length < t.request.length := by omega
      constructor
      · exact fun hbad => ⟨hbad.2, ⟨hlt, .inl hfull⟩, hbad.1⟩
      · exact fun hbad => ⟨hbad.2.2, hbad.1⟩
    · refine hshort.of_iff ?_
      have hlt : qc.xfer.transferred + bytes.length < t.request.length := by omega
      simp only [hlt, hfull, true_and, false_or]
      constructor
      · exact fun hbad => ⟨hbad.2.2, hbad.1, hbad.2.1⟩
      · exact fun hbad => ⟨hbad.2.1, hbad.2.2, hbad.1⟩

end

/-! ### The run -/

/-- The invariant: a read without `AllowPartialReads` that is in progress moves
whole packets. -/
structure RefusalInv (s : BulkQueue) : Prop where
  untouched : RefusalUntouched s
  completion : ∀ t, s.current = some t → t.completion = none
  direct : ∀ t, s.current = some t → t.request.policies.allowPartialReads = false →
    DirectRead t s.queue ∧ ∃ ofs, t.pending = some (.user ofs) ∧ s.queue.xfer.userOfs = ofs

theorem untouched_run {t : Transfer} {s : Served} {qc : QueueContext} :
    Untouched (t.run s) qc ↔ Untouched t qc := by
  rw [Untouched, Transfer.received_run, Transfer.before_run]
  rfl

theorem DirectRead.run {t : Transfer} {qc : QueueContext} (h : DirectRead t qc) (s : Served) :
    DirectRead (t.run s) qc where
  length_eq := by rw [Transfer.request_run, h.length_eq]
  bufferLength := h.bufferLength
  overOfs := by rw [Transfer.before_run]; exact h.overOfs
  overBuf := by rw [Transfer.before_run, h.overBuf]
  transferred := by rw [Transfer.before_run, Transfer.received_run, h.transferred]

section

variable {finished : List Transfer} {t : Transfer} {s : Served} {bad : Prop}

theorem refusalUntouched_settle_of_some {c : Completion} (h : (t.run s).completion = some c) :
    RefusalUntouched (.settle finished t s) ↔
      (t.request.policies.allowPartialReads = false → c.status = STATUS_INVALID_BUFFER_SIZE →
        Untouched t s.queue) := by
  rw [BulkQueue.settle_of_some h, RefusalUntouched]
  simp only [List.getLast?_append, List.getLast?_singleton, Option.some_or, Option.some.injEq,
    forall_const, forall_eq', Transfer.request_run, h, untouched_run]

theorem refusalInv_settle_of_some {c : Completion} (h : (t.run s).completion = some c)
    (hP : RefusalUntouched (.settle finished t s)) : RefusalInv (.settle finished t s) := by
  rw [BulkQueue.settle_of_some h] at hP ⊢
  exact ⟨hP, by simp, by simp⟩

theorem refusalInv_settle_of_none (h : (t.run s).completion = none)
    (hdirect : t.request.policies.allowPartialReads = false → DirectRead t s.queue ∧
      ∃ ofs, (t.run s).pending = some (.user ofs) ∧ s.queue.xfer.userOfs = ofs) :
    RefusalInv (.settle finished t s) := by
  rw [BulkQueue.settle_of_none h]
  refine ⟨fun hidle => ?_, fun u hu => ?_, fun u hu hwhole => ?_⟩
  · cases hidle
  · cases hu
    exact h
  · cases hu
    rw [Transfer.request_run] at hwhole
    obtain ⟨hread, hpend⟩ := hdirect hwhole
    exact ⟨hread.run s, hpend⟩

/-- What a routine makes of the request it served decides whether the invariant
is kept. -/
theorem refusal_settle (ht : t.completion = none)
    (hbad : bad → t.request.policies.allowPartialReads = false)
    (h : t.request.policies.allowPartialReads = false → ReadOutcome t s bad) :
    (¬bad ∧ RefusalInv (.settle finished t s)) ∨
      (bad ∧ ¬RefusalUntouched (.settle finished t s)) := by
  cases hwhole : t.request.policies.allowPartialReads with
  | true =>
    have hok : ¬bad := fun hb => by simp [hbad hb] at hwhole
    cases hc : (t.run s).completion with
    | some c =>
      have hP := @refusalUntouched_settle_of_some finished t s _ hc
      exact .inl ⟨hok, refusalInv_settle_of_some hc (hP.mpr (by simp [hwhole]))⟩
    | none =>
      refine .inl ⟨hok, refusalInv_settle_of_none hc fun hno => ?_⟩
      rw [hwhole] at hno
      cases hno
  | false =>
    cases h hwhole with
    | sent hsend hdirect hofs hok =>
      obtain ⟨hc, hpend⟩ := Transfer.run_of_send (t := t) hsend
      rw [ht] at hc
      exact .inl ⟨hok, refusalInv_settle_of_none hc fun _ => ⟨hdirect, _, hpend, hofs⟩⟩
    | ended hend hiff =>
      obtain ⟨hc, -⟩ := Transfer.run_of_complete (t := t) hend
      have hP := @refusalUntouched_settle_of_some finished t s _ hc
      by_cases hb : bad
      · obtain ⟨hstatus, htouched⟩ := hiff.mp hb
        exact .inr ⟨hb, fun hP' => htouched (hP.mp hP' hwhole hstatus)⟩
      · refine .inl ⟨hb, refusalInv_settle_of_some hc (hP.mpr fun _ hstatus => ?_)⟩
        by_contra htouched
        exact hb (hiff.mpr ⟨hstatus, htouched⟩)

end

/-- One step keeps the invariant unless it refuses a read that has moved bytes;
then it leaves a refused read that is not untouched. -/
theorem refusal_step {s s' : BulkQueue} {e : BulkEvent} (hinv : RefusalInv s)
    (hstep : readQueue.step s e = some s') :
    (¬RefusedAfterData s e ∧ RefusalInv s') ∨ (RefusedAfterData s e ∧ ¬RefusalUntouched s') := by
  rcases bulkQueue_step_cases hstep with
    ⟨fw, rc, rfl, hidle, rfl⟩ | ⟨fw, status, bytes, t, memory, rfl, hbusy, hpend, hmove, rfl⟩
  · exact refusal_settle rfl (fun hb => hb.1) fun hwhole => readOutcome_xferReadBulk hwhole
  · have hbad : RefusedAfterData s (.stageDone fw status bytes) ↔
        t.request.policies.allowPartialReads = false ∧
          s.queue.xfer.transferred + bytes.length ≠ 0 ∧
          (status = STATUS_INVALID_BUFFER_SIZE ∨
            ContinuesRead fw t.request s.queue status bytes.length memory ∧
              NextReadFailsWith fw t.request s.queue.info
                (t.request.length - (s.queue.xfer.transferred + bytes.length))
                STATUS_INVALID_BUFFER_SIZE) := by
      constructor
      · rintro ⟨u, m, hu, hm, h⟩
        cases hbusy.symm.trans hu
        cases hpend.symm.trans hm
        exact h
      · exact fun h => ⟨t, memory, hbusy, hpend, h⟩
    refine refusal_settle (hinv.completion t hbusy) (fun hb => (hbad.mp hb).1) fun hwhole => ?_
    rw [Transfer.request_endStage] at hwhole
    obtain ⟨hdirect, ofs, hofs, huser⟩ := hinv.direct t hbusy hwhole
    cases hpend.symm.trans hofs
    -- the stage writes to the user's memory, which no test of the routine reads
    have hread : DirectRead t (readRoutines.move s.queue (.user ofs) bytes) :=
      hdirect.congr rfl rfl rfl rfl
    refine (readOutcome_xferReadBulkComplete hread huser hwhole).of_iff ?_
    rw [hbad]
    simp only [hwhole, true_and]
    exact Iff.rfl

/-- **The reads a run refuses are untouched exactly as long as no event refuses
one that has moved bytes.** -/
theorem readQueue_refusals_iff (qc : QueueContext) (es : List BulkEvent) :
    readQueue.Always RefusalUntouched { queue := qc } es ↔
      readQueue.Throughout (fun s e => ¬RefusedAfterData s e) { queue := qc } es := by
  have hinit : RefusalInv { queue := qc } := ⟨by simp [RefusalUntouched], by simp, by simp⟩
  exact Machine.always_iff_throughout_not (fun s h => h.untouched)
    (fun s e s' hinv hstep => refusal_step hinv hstep) es hinit

theorem length_le_unevenRead : 6 ≤ ([0, 0, 0, 0, 0, 0] : List UInt8).length := by decide

/-- A six-byte read from a pipe with packets of four bytes, whose first packet
arrives. -/
def unevenRead : List BulkEvent :=
  [.request {}
      { length := 6
        buffer := [0, 0, 0, 0, 0, 0]
        length_le := length_le_unevenRead },
    .stageDone {} STATUS_SUCCESS [1, 2, 3, 4]]

/-- The read is refused when its first packet is already off the pipe. -/
theorem not_always_refusalUntouched_unevenRead :
    ¬readQueue.Always RefusalUntouched
      { queue := { info := ⟨4, 0x81, 0, .bulk, 4⟩, overBuf := [0, 0, 0, 0] } } unevenRead := by
  intro h
  have hrun : ((readQueue.exec
      { queue := { info := ⟨4, 0x81, 0, .bulk, 4⟩, overBuf := [0, 0, 0, 0] } }
      unevenRead).map fun s => (s.current, s.finished.map fun t =>
        (t.request.policies.allowPartialReads, t.received,
          t.completion.map Completion.status))) =
        some (none, [(false, [1, 2, 3, 4], some STATUS_INVALID_BUFFER_SIZE)]) := by
    decide
  obtain ⟨s, hs, hshape⟩ := Option.map_eq_some_iff.mp hrun
  obtain ⟨hidle, hfinished⟩ := Prod.mk.inj hshape
  obtain ⟨t, hone, ht⟩ := List.map_eq_singleton_iff.mp hfinished
  obtain ⟨hwhole, ht⟩ := Prod.mk.inj ht
  obtain ⟨hreceived, hcompletion⟩ := Prod.mk.inj ht
  obtain ⟨c, hc, hstatus⟩ := Option.map_eq_some_iff.mp hcompletion
  have huntouched := h.exec hs hidle t (by rw [hone]; rfl) hwhole c hc hstatus
  rw [huntouched.1] at hreceived
  cases hreceived

end LibusbK
