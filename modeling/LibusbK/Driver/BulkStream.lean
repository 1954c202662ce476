import LibusbK.Driver.BulkQueue
import Mathlib.Data.List.Infix
import Mathlib.Tactic.SplitIfs

/-!
# The byte stream of an IN pipe

What the device delivers on a bulk or interrupt IN pipe is a stream of bytes;
the users of the pipe should read it in order, none of it lost or repeated.  The
last part of a read that is shorter than a packet goes through the over-run
buffer, and `OverOfs` should denote what is left there for the next read.

`OverOfs` is also where a stage that uses the over-run buffer records the length
it asks for.  If that stage never receives anything, because it cannot be
submitted or because it ends with an error and no bytes, the record stays and
the next read takes old bytes of the buffer for new ones.

## Main definitions

* `InOrder` — what the users got so far is a prefix of what was delivered, and
  between requests `OverOfs` denotes exactly the rest.
* `OverRunLost` — the event makes a stage that uses the over-run buffer fail
  without a byte received.

## Main results

* `outcome_xferReadBulk`, `outcome_xferReadBulkComplete` — what one routine does
  with the bytes it found: it accounts for all of them exactly when the event
  does not make such a stage fail.
* `readQueue_inOrder_iff` — a run keeps the stream in order if and only if none
  of its events makes such a stage fail.
-/

namespace LibusbK

open Window

/-! ### The stream -/

/-- `OverOfs` stays inside the over-run buffer. -/
def QueueContext.OverOfsValid (qc : QueueContext) : Prop :=
  qc.overOfs.bufferOffset + qc.overOfs.bufferLength ≤ qc.overBuf.length

/-- The users of the pipe got a prefix of what the device delivered, and when no
request is in progress `OverOfs` denotes the rest. -/
structure InOrder (s : BulkQueue) : Prop where
  ordered : s.log <+: s.delivered
  leftover : s.current = none → s.delivered = s.log ++ s.queue.leftover
  valid : s.current = none → s.queue.OverOfsValid

/-- The shape of an IN pipe with an over-run buffer of one packet. -/
structure ReadPipe (qc : QueueContext) : Prop where
  packet_pos : 0 < qc.info.maximumPacketSize
  packet_le : qc.info.maximumPacketSize ≤ qc.info.maximumTransferSize
  length_overBuf : qc.overBuf.length = qc.info.maximumPacketSize

/-- A queue as it is created, for a bulk or interrupt IN pipe. -/
structure NewReadQueue where
  queue : QueueContext
  readPipe : ReadPipe queue
  overOfs : queue.overOfs = ⟨0, 0⟩

/-! ### When the record of an over-run stage is left behind -/

/-- With `transferred` bytes read, the next stage of the read `rc` would use the
over-run buffer, and it cannot be submitted. -/
def OverRunUnsent (fw : Framework) (rc : RequestContext) (qc : QueueContext)
    (transferred : ℕ) : Prop :=
  rc.length - transferred < qc.info.maximumPacketSize ∧
    rc.policies.allowPartialReads = true ∧ submissionFails fw rc = true

/-- `Xfer_ReadBulk` reaches the submission of its first stage. -/
def StartsRead (fw : Framework) (rc : RequestContext) (qc : QueueContext) : Prop :=
  ntSuccess (validateRequestContext fw rc) = true ∧ fw.queueContext = true ∧
    qc.overMem = true ∧ ntSuccess fw.transferMemory = true ∧
    (qc.overOfs.bufferLength = 0 ∨ ntSuccess fw.copyFromBuffer = true) ∧
    qc.overOfs.bufferLength < rc.length

/-- `Xfer_ReadBulkComplete` reaches the submission of one more stage. -/
def ContinuesRead (fw : Framework) (rc : RequestContext) (qc : QueueContext)
    (status : NTSTATUS) (n : ℕ) : StageMemory → Prop
  | .overrun =>
    (if n = 0 then ntSuccess status = true else ntSuccess fw.copyFromBuffer = true) ∧
      rc.policies.ignoreShortPackets = true ∧ qc.xfer.transferred + n < rc.length
  | .user ofs =>
    ntSuccess status = true ∧ qc.xfer.transferred + n < rc.length ∧
      (n ≠ 0 ∧ n = ofs.bufferLength ∨ rc.policies.ignoreShortPackets = true)
  | _ => False

/-- A stage that uses the over-run buffer ends with an error and no bytes. -/
def OverRunEmpty (status : NTSTATUS) (n : ℕ) (memory : StageMemory) : Prop :=
  memory = .overrun ∧ ntSuccess status = false ∧ n = 0

/-- The event makes a stage that uses the over-run buffer fail before a byte of
it is received: it cannot be submitted, or it ends with an error and no bytes. -/
def OverRunLost (s : BulkQueue) : BulkEvent → Prop
  | .request fw rc =>
    StartsRead fw rc s.queue ∧ OverRunUnsent fw rc s.queue s.queue.overOfs.bufferLength
  | .stageDone fw status bytes =>
    ∃ t memory, s.current = some t ∧ t.pending = some memory ∧
      (OverRunEmpty status bytes.length memory ∨
        ContinuesRead fw t.request s.queue status bytes.length memory ∧
          OverRunUnsent fw t.request s.queue (s.queue.xfer.transferred + bytes.length))

/-! ### What a routine does with the bytes it found -/

/-- How the queue context of a read stands to the memory of its pending stage. -/
inductive Staged (qc : QueueContext) : StageMemory → Prop
  | overrun (hofs : qc.overOfs = ⟨0, qc.xfer.length - qc.xfer.transferred⟩)
      (hlt : qc.xfer.length - qc.xfer.transferred < qc.info.maximumPacketSize) :
      Staged qc .overrun
  | user {n : ℕ} (hover : qc.overOfs.bufferLength = 0)
      (hofs : qc.xfer.userOfs = ⟨qc.xfer.transferred, n⟩)
      (hn : qc.xfer.transferred + n ≤ qc.xfer.length) :
      Staged qc (.user ⟨qc.xfer.transferred, n⟩)

/-- A read has bytes to go, and `data` is what its user's memory holds so far. -/
structure Reading (rc : RequestContext) (qc : QueueContext) (data : List UInt8) : Prop where
  pipe : ReadPipe qc
  valid : qc.OverOfsValid
  length_eq : qc.xfer.length = rc.length
  length_le : qc.xfer.length ≤ qc.xfer.userMem.length
  transferred_lt : qc.xfer.transferred < qc.xfer.length
  data_eq : qc.xfer.userMem.take qc.xfer.transferred = data

/-- All of `data` is accounted for: a read in progress has it in its user's
memory, a completed one returned it, discarded it or left it over. -/
def Accounted (t : Transfer) (qc : QueueContext) (data : List UInt8) : Prop :=
  match t.completion with
  | none =>
    Reading t.request qc data ∧ t.discarded = [] ∧ ∃ memory, t.pending = some memory ∧
      Staged qc memory
  | some c =>
    ReadPipe qc ∧ qc.OverOfsValid ∧ data = c.returned ++ t.discarded ++ qc.leftover

/-- The read is over with `data` returned or discarded, but `OverOfs` denotes
further bytes. -/
def Stale (t : Transfer) (qc : QueueContext) (data : List UInt8) : Prop :=
  ∃ c, t.completion = some c ∧ data = c.returned ++ t.discarded ∧ qc.leftover ≠ []

/-- What a routine that found `data` leaves behind: stale bytes if `lost`, and
otherwise all of `data` is accounted for. -/
def Outcome (lost : Prop) (t : Transfer) (data : List UInt8) (s : Served) : Prop :=
  (¬lost ∧ Accounted (t.run s) s.queue data) ∨ (lost ∧ Stale (t.run s) s.queue data)

theorem Outcome.of_iff {lost lost' : Prop} {t : Transfer} {data : List UInt8} {s : Served}
    (h : Outcome lost t data s) (hl : lost ↔ lost') : Outcome lost' t data s := by
  rwa [Outcome, ← hl]

/-- A request that has done nothing yet but end stages. -/
structure Transfer.Quiet (t : Transfer) : Prop where
  completion : t.completion = none
  discarded : t.discarded = []

namespace ReadPipe

variable {qc q : QueueContext}

theorem congr (h : ReadPipe qc) (hinfo : q.info = qc.info)
    (hbuf : q.overBuf.length = qc.overBuf.length) : ReadPipe q :=
  ⟨hinfo ▸ h.packet_pos, hinfo ▸ h.packet_le, by rw [hbuf, hinfo, h.length_overBuf]⟩

end ReadPipe

/-! ### The exits and the submissions -/

section

variable {t : Transfer} {qc : QueueContext} {data : List UInt8} {fw : Framework}

theorem outcome_exitWith {status : NTSTATUS} (ht : t.Quiet) (hp : ReadPipe qc)
    (hv : qc.OverOfsValid)
    (hdata : data = qc.xfer.userMem.take qc.xfer.transferred ++ qc.leftover) :
    Outcome False t data (exitWith qc status) := by
  refine .inl ⟨not_false, hp, hv, ?_⟩
  show data = qc.xfer.userMem.take qc.xfer.transferred ++ t.discarded ++ qc.leftover
  rw [ht.discarded, List.append_nil]
  exact hdata

theorem leftover_eq_nil (h : qc.overOfs.bufferLength = 0) : qc.leftover = [] := by
  rw [QueueContext.leftover, h, window_zero_length]

/-- A read that stops with nothing left in the over-run buffer. -/
theorem Reading.outcome_exitWith {status : NTSTATUS} (hr : Reading t.request qc data)
    (ht : t.Quiet) (h0 : qc.overOfs.bufferLength = 0) :
    Outcome False t data (exitWith qc status) := by
  refine LibusbK.outcome_exitWith ht hr.pipe hr.valid ?_
  rw [leftover_eq_nil h0, List.append_nil, hr.data_eq]

/-- A read that stops while `OverOfs` is the record of its pending stage. -/
theorem Reading.stale_exitWith {status : NTSTATUS} (hr : Reading t.request qc data)
    (ht : t.Quiet) (hofs : qc.overOfs = ⟨0, qc.xfer.length - qc.xfer.transferred⟩)
    (hlt : qc.xfer.length - qc.xfer.transferred < qc.info.maximumPacketSize) :
    Stale (t.run (exitWith qc status)) qc data := by
  refine ⟨⟨status, qc.xfer.transferred, _⟩, rfl, ?_, ?_⟩
  · show data = qc.xfer.userMem.take qc.xfer.transferred ++ t.discarded
    rw [ht.discarded, List.append_nil, hr.data_eq]
  · -- the record asks for at least one byte, and the buffer is long enough to show it
    have hbuf := hr.pipe.length_overBuf
    have hpos := hr.transferred_lt
    have hfits : 0 + (qc.xfer.length - qc.xfer.transferred) ≤ qc.overBuf.length := by omega
    have hlen : qc.leftover.length = qc.xfer.length - qc.xfer.transferred := by
      rw [QueueContext.leftover, hofs]
      exact length_window hfits
    intro hnil
    rw [hnil, List.length_nil] at hlen
    omega

theorem outcome_submitStage {memory : StageMemory} (ht : t.Quiet)
    (hr : Reading t.request qc data) (hs : Staged qc memory) :
    Outcome (memory = .overrun ∧ submissionFails fw t.request = true) t data
      (submitStage fw t.request qc .readBulk memory) := by
  unfold submitStage
  cases hf : formatAndSubmit fw t.request with
  | ok =>
    rw [← submissionFails_eq_false] at hf
    refine .inl ⟨by simp [hf], ?_⟩
    simp only [Accounted, Transfer.run, List.foldl_cons, List.foldl_nil, Transfer.note,
      ht.completion]
    exact ⟨hr, ht.discarded, memory, rfl, hs⟩
  | error status =>
    have hfail : submissionFails fw t.request = true := submissionFails_eq_true.mpr ⟨status, hf⟩
    cases hs with
    | user hover hofs hn => exact (hr.outcome_exitWith ht hover).of_iff (by simp)
    | overrun hofs hlt => exact .inr ⟨⟨rfl, hfail⟩, hr.stale_exitWith ht hofs hlt⟩

/-- The next stage of a read accounts for its bytes unless it would use the
over-run buffer and cannot be submitted. -/
theorem outcome_submitNextRead (ht : t.Quiet) (hr : Reading t.request qc data)
    (h0 : qc.overOfs.bufferLength = 0) :
    Outcome (OverRunUnsent fw t.request qc qc.xfer.transferred) t data
      (submitNextRead fw t.request qc) := by
  have hle := hr.pipe.packet_le
  have hpos := hr.pipe.packet_pos
  have hlen := hr.length_eq
  unfold submitNextRead OverRunUnsent
  dsimp only
  by_cases hshort : qc.xfer.length - qc.xfer.transferred < qc.info.maximumPacketSize
  · have hstage : min (qc.xfer.length - qc.xfer.transferred) qc.info.maximumTransferSize =
        qc.xfer.length - qc.xfer.transferred := by omega
    simp only [hstage, hshort, if_true, ← hlen, true_and]
    cases hallow : t.request.policies.allowPartialReads with
    | false => exact (hr.outcome_exitWith ht h0).of_iff (by simp)
    | true =>
      have hbuf := hr.pipe.length_overBuf
      have hfits : 0 + (qc.xfer.length - qc.xfer.transferred) ≤ qc.overBuf.length := by omega
      have hr' : Reading t.request
          (qc.setOverOfs ⟨0, qc.xfer.length - qc.xfer.transferred⟩) data :=
        { hr with
          pipe := hr.pipe.congr rfl rfl
          valid := hfits }
      exact (outcome_submitStage ht hr' (.overrun rfl hshort)).of_iff (by simp)
  · generalize hstage : min (qc.xfer.length - qc.xfer.transferred)
      qc.info.maximumTransferSize = stage
    have hstage_le : stage ≤ qc.xfer.length - qc.xfer.transferred := by omega
    have hstage_ge : ¬stage < qc.info.maximumPacketSize := by omega
    simp only [hstage_ge, if_false]
    have hlt := hr.transferred_lt
    have hfits : qc.xfer.transferred + (stage - stage % qc.info.maximumPacketSize) ≤
        qc.xfer.length := by omega
    have hr' : Reading t.request (qc.setUserOfs
        ⟨qc.xfer.transferred, stage - stage % qc.info.maximumPacketSize⟩) data :=
      { hr with pipe := hr.pipe.congr rfl rfl }
    refine (outcome_submitStage ht hr' (.user h0 rfl hfits)).of_iff ?_
    rw [← hlen]
    simp [hshort]

/-! ### Copying out of the over-run buffer -/

theorem copyPartialReadToUserMemory_ok {buffer : List UInt8} {n : ℕ} {q : QueueContext}
    (h : copyPartialReadToUserMemory fw qc buffer n = .ok q) :
    ntSuccess fw.copyFromBuffer = true ∧ q = qc.copied buffer n := by
  unfold copyPartialReadToUserMemory at h
  split_ifs at h with hc
  exact ⟨by simpa using hc, (Except.ok.inj h).symm⟩

theorem copyPartialReadToUserMemory_error {buffer : List UInt8} {n : ℕ} {status : NTSTATUS}
    (h : copyPartialReadToUserMemory fw qc buffer n = .error status) :
    ntSuccess fw.copyFromBuffer = false := by
  unfold copyPartialReadToUserMemory at h
  split_ifs at h with hc
  simpa using hc

/-- After a copy the user's memory holds what it held and the bytes copied. -/
theorem data_copied {buffer : List UInt8} {n : ℕ} (hn : n ≤ buffer.length)
    (hofs : qc.xfer.transferred ≤ qc.xfer.userMem.length) :
    (qc.copied buffer n).xfer.userMem.take (qc.copied buffer n).xfer.transferred =
      qc.xfer.userMem.take qc.xfer.transferred ++ buffer.take n := by
  have hlen : (buffer.take n).length = n := by rw [List.length_take]; omega
  have h := take_add_writeAt (buffer.take n) hofs
  rwa [hlen] at h

/-- A copy that does not run past the window of `OverOfs` leaves a window. -/
theorem overOfsValid_copied (buffer : List UInt8) {n : ℕ} (hv : qc.OverOfsValid)
    (hn : n ≤ qc.overOfs.bufferLength) : (qc.copied buffer n).OverOfsValid := by
  have h : qc.overOfs.bufferOffset + qc.overOfs.bufferLength ≤ qc.overBuf.length := hv
  show qc.overOfs.bufferOffset + n + (qc.overOfs.bufferLength - n) ≤ qc.overBuf.length
  omega

/-- A copy that leaves the read with bytes to go. -/
theorem reading_copied {rc : RequestContext} {buffer : List UInt8} {n : ℕ} (hp : ReadPipe qc)
    (hv : (qc.copied buffer n).OverOfsValid) (hlen : qc.xfer.length = rc.length)
    (hmem : qc.xfer.length ≤ qc.xfer.userMem.length) (hn : n ≤ buffer.length)
    (hlt : qc.xfer.transferred + n < qc.xfer.length) :
    Reading rc (qc.copied buffer n)
      (qc.xfer.userMem.take qc.xfer.transferred ++ buffer.take n) where
  pipe := hp.congr rfl rfl
  valid := hv
  length_eq := hlen
  length_le := by
    have hbytes : (buffer.take n).length = n := by rw [List.length_take]; omega
    show qc.xfer.length ≤ (writeAt _ _ qc.xfer.userMem).length
    rw [length_writeAt (by omega)]
    exact hmem
  transferred_lt := hlt
  data_eq := data_copied hn (by omega)

theorem outcome_exitTransferred {status : NTSTATUS} (ht : t.Quiet) (hp : ReadPipe qc)
    (hv : qc.OverOfsValid)
    (hdata : data = qc.xfer.userMem.take qc.xfer.transferred ++ qc.leftover) :
    Outcome False t data (exitTransferred t.request qc status) := by
  unfold exitTransferred
  split_ifs with hflush
  · refine .inl ⟨not_false, hp.congr rfl rfl, Nat.zero_le _, ?_⟩
    show data = qc.xfer.userMem.take qc.xfer.transferred ++ (t.discarded ++ qc.leftover) ++ _
    rw [ht.discarded, hdata]
    simp [QueueContext.leftover, QueueContext.setOverOfs]
  · exact outcome_exitWith ht hp hv hdata

/-! ### The routines -/

/-- `Xfer_ReadBulk` from the point where the user's memory is known: the bytes it
finds are those left over. -/
theorem outcome_readBulkFromUserMem (ht : t.Quiet) (hp : ReadPipe qc) (hv : qc.OverOfsValid)
    (h0 : qc.xfer.transferred = 0) (hlen : qc.xfer.length = t.request.length)
    (hmem : qc.xfer.length ≤ qc.xfer.userMem.length) (hpos : 0 < qc.xfer.length) :
    Outcome ((qc.overOfs.bufferLength = 0 ∨ ntSuccess fw.copyFromBuffer = true) ∧
        qc.overOfs.bufferLength < t.request.length ∧
        OverRunUnsent fw t.request qc qc.overOfs.bufferLength)
      t qc.leftover (readBulkFromUserMem fw t.request qc) := by
  unfold readBulkFromUserMem
  by_cases hover : qc.overOfs.bufferLength > 0
  · simp only [hover, if_true, h0, Nat.sub_zero]
    generalize hn : min qc.overOfs.bufferLength qc.xfer.length = n
    have hn_over : n ≤ qc.overOfs.bufferLength := by omega
    have hbuf : n ≤ (qc.overBuf.drop qc.overOfs.bufferOffset).length := by
      have : qc.overOfs.bufferOffset + qc.overOfs.bufferLength ≤ qc.overBuf.length := hv
      rw [List.length_drop]
      omega
    cases hcopy : copyPartialReadToUserMemory fw qc
        (qc.overBuf.drop qc.overOfs.bufferOffset) n with
    | error status =>
      have hfail := copyPartialReadToUserMemory_error hcopy
      refine (outcome_exitWith ht hp hv ?_).of_iff ?_
      · rw [h0, List.take_zero, List.nil_append]
      · simp [hfail, Nat.ne_of_gt hover]
    | ok q =>
      obtain ⟨hok, rfl⟩ := copyPartialReadToUserMemory_ok hcopy
      have hp' : ReadPipe (qc.copied (qc.overBuf.drop qc.overOfs.bufferOffset) n) :=
        hp.congr rfl rfl
      have hv' := overOfsValid_copied (qc.overBuf.drop qc.overOfs.bufferOffset) hv hn_over
      have hdata := data_copied hbuf (by omega : qc.xfer.transferred ≤ qc.xfer.userMem.length)
      rw [h0, List.take_zero, List.nil_append] at hdata
      dsimp only
      generalize hbuffer : qc.overBuf.drop qc.overOfs.bufferOffset = buffer at *
      by_cases hdone : (qc.copied buffer n).xfer.transferred ≥ (qc.copied buffer n).xfer.length
      · rw [if_pos hdone]
        rw [QueueContext.transferred_copied, QueueContext.length_copied] at hdone
        have hge : ¬qc.overOfs.bufferLength < t.request.length := by omega
        refine (outcome_exitTransferred ht hp' hv' ?_).of_iff ?_
        · rw [hdata, ← hbuffer]
          exact window_split _ qc.overBuf hn_over
        · simp [hge]
      · rw [if_neg hdone]
        rw [QueueContext.transferred_copied, QueueContext.length_copied] at hdone
        -- the read wants more, so all that was left over has been copied
        have hall : n = qc.overOfs.bufferLength := by omega
        have hlt : qc.xfer.transferred + n < qc.xfer.length := by omega
        have hr := reading_copied hp hv' hlen hmem hbuf hlt
        rw [h0, List.take_zero, List.nil_append] at hr
        subst hall
        have hleft : buffer.take qc.overOfs.bufferLength = qc.leftover := by rw [← hbuffer]; rfl
        rw [hleft] at hr
        refine (outcome_submitNextRead ht hr (Nat.sub_self _)).of_iff ?_
        have hlt' : qc.overOfs.bufferLength < t.request.length := by omega
        show OverRunUnsent fw t.request qc (qc.xfer.transferred + qc.overOfs.bufferLength) ↔ _
        simp [h0, hok, hlt']
  · have hzero : qc.overOfs.bufferLength = 0 := by omega
    simp only [hover, if_false]
    have hr : Reading t.request qc qc.leftover := by
      refine ⟨hp, hv, hlen, hmem, by omega, ?_⟩
      rw [h0, List.take_zero, leftover_eq_nil hzero]
    refine (outcome_submitNextRead ht hr hzero).of_iff ?_
    rw [h0, hzero, ← hlen]
    simp [hpos]

/-- `Xfer_ReadBulk` from the point where the pipe has been reset if needed. -/
theorem outcome_readBulkAfterReset (ht : t.Quiet) (hp : ReadPipe qc) (hv : qc.OverOfsValid)
    (h0 : qc.xfer.transferred = 0) (hlen : qc.xfer.length = t.request.length) :
    Outcome (ntSuccess fw.transferMemory = true ∧
        (qc.overOfs.bufferLength = 0 ∨ ntSuccess fw.copyFromBuffer = true) ∧
        qc.overOfs.bufferLength < t.request.length ∧
        OverRunUnsent fw t.request qc qc.overOfs.bufferLength)
      t qc.leftover (readBulkAfterReset fw t.request qc) := by
  have hdata : qc.leftover = qc.xfer.userMem.take qc.xfer.transferred ++ qc.leftover := by
    rw [h0, List.take_zero, List.nil_append]
  unfold readBulkAfterReset
  split_ifs with hzero _ htransfer
  · refine (outcome_exitWith ht hp hv hdata).of_iff ?_
    rw [hlen] at hzero
    simp [hzero]
  · refine (outcome_exitWith ht hp hv hdata).of_iff ?_
    rw [hlen] at hzero
    simp [hzero]
  · refine (outcome_exitWith ht hp hv hdata).of_iff ?_
    simp only [Bool.not_eq_true'] at htransfer
    simp [htransfer]
  · have hmem : qc.xfer.length ≤ t.request.buffer.length := by
      rw [hlen]
      exact t.request.length_le
    have hp' : ReadPipe (qc.setUserMem t.request.buffer) := hp.congr rfl rfl
    refine (outcome_readBulkFromUserMem ht hp' hv h0 hlen hmem
      (Nat.pos_of_ne_zero hzero)).of_iff ?_
    simp only [Bool.not_eq_true', Bool.not_eq_false] at htransfer
    simp only [htransfer, true_and]
    exact Iff.rfl

/-- `Xfer_ReadBulk` accounts for the bytes left over before it, unless its first
stage uses the over-run buffer and cannot be submitted. -/
theorem outcome_xferReadBulk (ht : t.Quiet) (hp : ReadPipe qc) (hv : qc.OverOfsValid) :
    Outcome (StartsRead fw t.request qc ∧
        OverRunUnsent fw t.request qc qc.overOfs.bufferLength)
      t qc.leftover (xferReadBulk fw t.request qc) := by
  have hcomplete : ∀ status : NTSTATUS,
      Outcome False t qc.leftover (completeWithInformation qc status 0) := by
    intro status
    refine .inl ⟨not_false, hp, hv, ?_⟩
    show qc.leftover = qc.xfer.userMem.take 0 ++ t.discarded ++ qc.leftover
    rw [ht.discarded, List.take_zero]
    rfl
  have hexit : ∀ status : NTSTATUS,
      Outcome False t qc.leftover (exitWith (qc.startXfer t.request.length) status) := by
    intro status
    refine outcome_exitWith ht (hp.congr rfl rfl) hv ?_
    rw [QueueContext.transferred_startXfer, List.take_zero]
    rfl
  unfold xferReadBulk
  dsimp only
  split_ifs with hvalid hqueue hmem hpacket
  · refine (hcomplete _).of_iff ?_
    simp only [Bool.not_eq_true'] at hvalid
    simp [StartsRead, hvalid]
  · refine (hcomplete _).of_iff ?_
    simp only [Bool.not_eq_true'] at hqueue
    simp [StartsRead, hqueue]
  · refine (hexit _).of_iff ?_
    have hover : qc.overMem = false := by simpa [QueueContext.startXfer] using hmem
    simp [StartsRead, hover]
  · exact absurd hpacket (Nat.ne_of_gt hp.packet_pos)
  · have hover : qc.overMem = true := by simpa [QueueContext.startXfer] using hmem
    simp only [Bool.not_eq_true', Bool.not_eq_false] at hvalid hqueue
    have hp' : ReadPipe (handlePipeResetScenarios fw t.request
        (qc.startXfer t.request.length)).1 :=
      hp.congr (info_handlePipeResetScenarios _ _ _) (by rw [overBuf_handlePipeResetScenarios]; rfl)
    have hv' : (handlePipeResetScenarios fw t.request
        (qc.startXfer t.request.length)).1.OverOfsValid := by
      simpa [QueueContext.OverOfsValid, QueueContext.startXfer] using hv
    have h : Outcome _ t _ (readBulkAfterReset fw t.request _) :=
      outcome_readBulkAfterReset ht hp' hv' (by simp) (by simp)
    simp only [QueueContext.leftover, overOfs_handlePipeResetScenarios, OverRunUnsent,
      overBuf_handlePipeResetScenarios, info_handlePipeResetScenarios] at h
    rw [Outcome, Transfer.run_after_handlePipeResetScenarios, Served.queue_after]
    refine h.of_iff ?_
    simp only [StartsRead, hvalid, hqueue, hover, true_and, and_assoc]
    exact Iff.rfl

theorem outcome_nextReadUnlessShort {status : NTSTATUS} (ht : t.Quiet)
    (hr : Reading t.request qc data) (h0 : qc.overOfs.bufferLength = 0) :
    Outcome (t.request.policies.ignoreShortPackets = true ∧
        OverRunUnsent fw t.request qc qc.xfer.transferred)
      t data (nextReadUnlessShort fw t.request qc status) := by
  unfold nextReadUnlessShort
  cases hshort : t.request.policies.ignoreShortPackets with
  | false => exact (hr.outcome_exitWith ht h0).of_iff (by simp)
  | true => exact (outcome_submitNextRead ht hr h0).of_iff (by simp)

/-- The completion of a stage that received `bytes` into the over-run buffer, once
`OverOfs` denotes them. -/
theorem outcome_readBulkCopyReceived {bytes : List UInt8} {n : ℕ} (ht : t.Quiet)
    (hr : Reading t.request qc data) (hofs : qc.overOfs = ⟨0, bytes.length⟩)
    (hbytes : qc.overBuf.take bytes.length = bytes)
    (hn : n = min bytes.length (qc.xfer.length - qc.xfer.transferred)) :
    Outcome (ntSuccess fw.copyFromBuffer = true ∧ t.request.policies.ignoreShortPackets = true ∧
        qc.xfer.transferred + bytes.length < t.request.length ∧
        OverRunUnsent fw t.request qc (qc.xfer.transferred + bytes.length))
      t (data ++ bytes) (readBulkCopyReceived fw t.request n qc) := by
  have hlen := hr.length_eq
  have hpos := hr.transferred_lt
  have hleft : qc.leftover = bytes := by
    rw [QueueContext.leftover, hofs]
    exact hbytes
  have hdata : data ++ bytes = qc.xfer.userMem.take qc.xfer.transferred ++ qc.leftover := by
    rw [hr.data_eq, hleft]
  unfold readBulkCopyReceived
  cases hcopy : copyPartialReadToUserMemory fw qc qc.overBuf n with
  | error status =>
    have hfail := copyPartialReadToUserMemory_error hcopy
    exact (outcome_exitWith ht hr.pipe hr.valid hdata).of_iff (by simp [hfail])
  | ok q =>
    obtain ⟨hok, rfl⟩ := copyPartialReadToUserMemory_ok hcopy
    have hn_over : n ≤ qc.overOfs.bufferLength := by rw [hofs]; show n ≤ bytes.length; omega
    have hp' : ReadPipe (qc.copied qc.overBuf n) := hr.pipe.congr rfl rfl
    have hv' : (qc.copied qc.overBuf n).OverOfsValid := overOfsValid_copied _ hr.valid hn_over
    have hn_buf : n ≤ qc.overBuf.length := by
      have : bytes.length ≤ qc.overBuf.length := by
        rw [← hbytes, List.length_take]; omega
      omega
    dsimp only
    by_cases hdone : (qc.copied qc.overBuf n).xfer.transferred ≥
        (qc.copied qc.overBuf n).xfer.length
    · rw [if_pos hdone]
      rw [QueueContext.transferred_copied, QueueContext.length_copied] at hdone
      have hge : ¬qc.xfer.transferred + bytes.length < t.request.length := by omega
      have hmem := hr.length_le
      have hrest : (qc.copied qc.overBuf n).leftover =
          window (qc.overOfs.bufferOffset + n) (qc.overOfs.bufferLength - n) qc.overBuf := rfl
      refine (outcome_exitTransferred ht hp' hv' ?_).of_iff ?_
      · rw [data_copied hn_buf (by omega), hdata, List.append_assoc, QueueContext.leftover,
          window_split _ qc.overBuf hn_over, hrest, hofs]
        rfl
      · simp [hge]
    · rw [if_neg hdone]
      rw [QueueContext.transferred_copied, QueueContext.length_copied] at hdone
      -- the stage was short, so all it received has been copied
      have hall : n = bytes.length := by omega
      subst hall
      have hr' := reading_copied hr.pipe hv' hlen hr.length_le hn_buf (by omega)
      rw [hr.data_eq, hbytes] at hr'
      rw [if_neg (by simp [hok])]
      refine (outcome_nextReadUnlessShort ht hr' ?_).of_iff ?_
      · show qc.overOfs.bufferLength - bytes.length = 0
        rw [hofs]
        exact Nat.sub_self _
      · have hlt : qc.xfer.transferred + bytes.length < t.request.length := by omega
        simp only [hok, hlt, true_and]
        exact Iff.rfl

/-- The completion of a stage that received `bytes` into the over-run buffer. -/
theorem outcome_readBulkCompleteOver {status : NTSTATUS} {bytes : List UInt8} (ht : t.Quiet)
    (hr : Reading t.request qc data)
    (hofs : qc.overOfs = ⟨0, qc.xfer.length - qc.xfer.transferred⟩)
    (hlt : qc.xfer.length - qc.xfer.transferred < qc.info.maximumPacketSize)
    (hbytes : qc.overBuf.take bytes.length = bytes) :
    Outcome (OverRunEmpty status bytes.length .overrun ∨
        ContinuesRead fw t.request qc status bytes.length .overrun ∧
          OverRunUnsent fw t.request qc (qc.xfer.transferred + bytes.length))
      t (data ++ bytes) (readBulkCompleteOver fw t.request status bytes.length qc) := by
  have hlen := hr.length_eq
  have hpos := hr.transferred_lt
  have hfits : bytes.length ≤ qc.overBuf.length := by
    rw [← hbytes, List.length_take]; omega
  unfold readBulkCompleteOver
  by_cases hn : bytes.length = 0
  · rw [if_neg (not_not.mpr hn)]
    have hnil : bytes = [] := List.length_eq_zero_iff.mp hn
    subst hnil
    rw [List.append_nil]
    cases hstatus : ntSuccess status with
    | false =>
      exact .inr ⟨.inl ⟨rfl, hstatus, rfl⟩, hr.stale_exitWith ht hofs hlt⟩
    | true =>
      have hr' : Reading t.request (qc.setOverOfs ⟨qc.overOfs.bufferOffset, 0⟩) data :=
        { hr with
          pipe := hr.pipe.congr rfl rfl
          valid := Nat.le_trans (Nat.add_le_add_left (Nat.zero_le _) _) hr.valid }
      refine (outcome_nextReadUnlessShort ht hr' rfl).of_iff ?_
      have hlt' : qc.xfer.transferred < t.request.length := by omega
      simp only [OverRunEmpty, ContinuesRead, hstatus, List.length_nil, if_true, true_and,
        Nat.add_zero, hlt', and_true, reduceCtorEq, and_false, false_or]
      exact Iff.rfl
  · rw [if_pos hn]
    have hr' : Reading t.request (qc.setOverOfs ⟨qc.overOfs.bufferOffset, bytes.length⟩) data :=
      { hr with
        pipe := hr.pipe.congr rfl rfl
        valid := by
          show qc.overOfs.bufferOffset + bytes.length ≤ qc.overBuf.length
          rw [hofs]
          exact (Nat.zero_add _).symm ▸ hfits }
    refine (outcome_readBulkCopyReceived ht hr' ?_ hbytes ?_).of_iff ?_
    · rw [hofs]; rfl
    · rw [hofs, Nat.min_comm]
      rfl
    · simp only [OverRunEmpty, ContinuesRead, hn, and_false, false_or, if_false, and_assoc]
      exact Iff.rfl

/-- The completion of a stage that received `bytes` into the user's memory. -/
theorem outcome_readBulkCompleteUser {status : NTSTATUS} {bytes : List UInt8} {n : ℕ}
    (ht : t.Quiet) (hr : Reading t.request qc data) (h0 : qc.overOfs.bufferLength = 0)
    (hofs : qc.xfer.userOfs = ⟨qc.xfer.transferred, n⟩)
    (hdata : qc.xfer.userMem.take (qc.xfer.transferred + bytes.length) = data ++ bytes) :
    Outcome (OverRunEmpty status bytes.length (.user ⟨qc.xfer.transferred, n⟩) ∨
        ContinuesRead fw t.request qc status bytes.length (.user ⟨qc.xfer.transferred, n⟩) ∧
          OverRunUnsent fw t.request qc (qc.xfer.transferred + bytes.length))
      t (data ++ bytes) (readBulkCompleteUser fw t.request status bytes.length qc) := by
  have hlen := hr.length_eq
  have hp' : ReadPipe (qc.addTransferred bytes.length) := hr.pipe.congr rfl rfl
  have hexit : ∀ status : NTSTATUS, Outcome False t (data ++ bytes)
      (exitWith (qc.addTransferred bytes.length) status) := by
    intro status
    refine outcome_exitWith ht hp' hr.valid ?_
    have hnil : (qc.addTransferred bytes.length).leftover = [] := leftover_eq_nil h0
    rw [hnil, List.append_nil]
    exact hdata.symm
  unfold readBulkCompleteUser OverRunEmpty ContinuesRead
  dsimp only
  cases hstatus : ntSuccess status with
  | false => exact (hexit _).of_iff (by simp)
  | true =>
    rw [if_neg (by simp)]
    by_cases hdone : (qc.addTransferred bytes.length).xfer.transferred ≥
        (qc.addTransferred bytes.length).xfer.length
    · rw [if_pos hdone]
      rw [QueueContext.transferred_addTransferred, QueueContext.length_addTransferred] at hdone
      have hge : ¬qc.xfer.transferred + bytes.length < t.request.length := by omega
      exact (hexit _).of_iff (by simp [hge])
    · rw [if_neg hdone]
      rw [QueueContext.transferred_addTransferred, QueueContext.length_addTransferred] at hdone
      have hlt : qc.xfer.transferred + bytes.length < t.request.length := by omega
      have hr' : Reading t.request (qc.addTransferred bytes.length) (data ++ bytes) :=
        { hr with
          pipe := hp'
          transferred_lt := Nat.lt_of_not_le hdone
          data_eq := hdata }
      have hwindow : (qc.addTransferred bytes.length).xfer.userOfs.bufferLength = n := by
        show qc.xfer.userOfs.bufferLength = n
        rw [hofs]
      rw [hwindow]
      by_cases hfull : bytes.length ≠ 0 ∧ bytes.length = n
      · rw [if_pos hfull]
        refine (outcome_submitNextRead ht hr' h0).of_iff ?_
        have hmore : bytes.length ≠ 0 ∧ bytes.length = n ∨
            t.request.policies.ignoreShortPackets = true := .inl hfull
        simp only [reduceCtorEq, false_and, hlt, hmore, true_and, false_or]
        exact Iff.rfl
      · rw [if_neg hfull]
        refine (outcome_nextReadUnlessShort ht hr' h0).of_iff ?_
        simp only [reduceCtorEq, false_and, hlt, hfull, true_and, false_or]
        exact Iff.rfl

/-- `Xfer_ReadBulkComplete` accounts for the bytes of the read and of the stage
that ended, unless a stage that uses the over-run buffer received nothing. -/
theorem outcome_xferReadBulkComplete {status : NTSTATUS} {bytes : List UInt8}
    {memory : StageMemory} (ht : t.Quiet) (hr : Reading t.request qc data)
    (hs : Staged qc memory) (hroom : bytes.length ≤ memory.room qc) :
    Outcome (OverRunEmpty status bytes.length memory ∨
        ContinuesRead fw t.request qc status bytes.length memory ∧
          OverRunUnsent fw t.request qc (qc.xfer.transferred + bytes.length))
      t (data ++ bytes)
      (xferReadBulkComplete fw t.request status bytes.length (memory.receive qc bytes)) := by
  have hpos := hr.transferred_lt
  have hlen := hr.length_eq
  unfold xferReadBulkComplete
  generalize hq : handlePipeResetScenariosForComplete status t.request (memory.receive qc bytes) = q
  have hinfo : q.info = (memory.receive qc bytes).info := by rw [← hq]; simp
  have hover : q.overOfs = (memory.receive qc bytes).overOfs := by rw [← hq]; simp
  have hbuf : q.overBuf = (memory.receive qc bytes).overBuf := by rw [← hq]; simp
  have hxfer : q.xfer = (memory.receive qc bytes).xfer := by rw [← hq]; simp
  cases hs with
  | overrun hofs hlt =>
    simp only [StageMemory.room] at hroom
    simp only [StageMemory.receive] at hinfo hover hbuf hxfer
    have hlenBuf : q.overBuf.length = qc.overBuf.length := by
      rw [hbuf, length_writeAt (by omega)]
    have hbytes : q.overBuf.take bytes.length = bytes := by
      rw [hbuf]
      exact window_zero_writeAt bytes qc.overBuf
    have hr' : Reading t.request q data := by
      refine ⟨hr.pipe.congr hinfo hlenBuf, ?_, ?_, ?_, ?_, ?_⟩
      · rw [QueueContext.OverOfsValid, hover, hlenBuf]
        exact hr.valid
      all_goals rw [hxfer]
      · exact hr.length_eq
      · exact hr.length_le
      · exact hr.transferred_lt
      · exact hr.data_eq
    have hne : q.overOfs.bufferLength ≠ 0 := by rw [hover, hofs]; dsimp only; omega
    rw [if_pos hne]
    refine (outcome_readBulkCompleteOver ht hr' (by rw [hover, hxfer, hofs])
      (by rw [hxfer, hinfo]; exact hlt) hbytes).of_iff ?_
    simp only [ContinuesRead, OverRunUnsent, hxfer, hinfo]
  | @user n hover0 hofs hn =>
    simp only [StageMemory.room] at hroom
    simp only [StageMemory.receive] at hinfo hover hbuf hxfer
    have hmem := hr.length_le
    have hr' : Reading t.request q data := by
      refine ⟨hr.pipe.congr hinfo (by rw [hbuf]), ?_, ?_, ?_, ?_, ?_⟩
      · rw [QueueContext.OverOfsValid, hover, hbuf]
        exact hr.valid
      all_goals rw [hxfer]
      · exact hr.length_eq
      · dsimp only
        rw [length_writeAt (by omega)]
        exact hr.length_le
      · exact hr.transferred_lt
      · dsimp only
        rw [take_writeAt _ (by omega), hr.data_eq]
    have hdata : q.xfer.userMem.take (q.xfer.transferred + bytes.length) = data ++ bytes := by
      rw [hxfer]
      dsimp only
      rw [take_add_writeAt _ (by omega), hr.data_eq]
    have hzero : q.overOfs.bufferLength = 0 := by rw [hover, hover0]
    rw [if_neg (not_not.mpr hzero)]
    refine (outcome_readBulkCompleteUser (n := n) ht hr' hzero (by rw [hxfer]; exact hofs)
      hdata).of_iff ?_
    simp only [OverRunEmpty, ContinuesRead, OverRunUnsent, hxfer, hinfo]

end

/-! ### The run -/

/-- The invariant: what the device delivered is what the users took, followed by
the bytes the queue still accounts for. -/
def StreamInv (s : BulkQueue) : Prop :=
  match s.current with
  | none => ReadPipe s.queue ∧ s.queue.OverOfsValid ∧ s.delivered = s.log ++ s.queue.leftover
  | some t =>
    t.Quiet ∧ ∃ memory data, t.pending = some memory ∧ Staged s.queue memory ∧
      Reading t.request s.queue data ∧ s.delivered = s.log ++ data

theorem StreamInv.inOrder {s : BulkQueue} (h : StreamInv s) : InOrder s := by
  obtain ⟨qc, current, finished⟩ := s
  cases current with
  | none => exact ⟨⟨_, h.2.2.symm⟩, fun _ => h.2.2, fun _ => h.2.1⟩
  | some t =>
    obtain ⟨_, memory, data, _, _, _, hdata⟩ := h
    exact ⟨⟨data, hdata.symm⟩, by simp, by simp⟩

section

variable {finished : List Transfer} {t : Transfer} {s : Served} {data : List UInt8}

/-- A routine that accounts for what it found keeps the invariant. -/
theorem streamInv_settle (hacc : Accounted (t.run s) s.queue data)
    (hold : finished.flatMap Transfer.received ++ t.received =
      finished.flatMap Transfer.consumed ++ data) :
    StreamInv (.settle finished t s) := by
  cases hc : (t.run s).completion with
  | some c =>
    rw [Accounted, hc] at hacc
    obtain ⟨hp, hv, hdata⟩ := hacc
    rw [BulkQueue.settle_of_some hc]
    refine ⟨hp, hv, ?_⟩
    rw [BulkQueue.delivered_idle, BulkQueue.log_idle, List.flatMap_append, List.flatMap_append,
      List.flatMap_singleton, List.flatMap_singleton, Transfer.received_run, hold, hdata,
      Transfer.consumed, hc, Option.elim_some]
    simp only [List.append_assoc]
  | none =>
    rw [Accounted, hc] at hacc
    obtain ⟨hr, hdisc, memory, hpend, hs⟩ := hacc
    rw [BulkQueue.settle_of_none hc]
    refine ⟨⟨hc, hdisc⟩, memory, data, hpend, hs, hr, ?_⟩
    rw [BulkQueue.delivered_busy, BulkQueue.log_busy, Transfer.received_run, hold,
      Transfer.consumed, hc, hdisc]
    simp

/-- A routine that leaves stale bytes ends with the stream out of order. -/
theorem not_inOrder_settle (hstale : Stale (t.run s) s.queue data)
    (hold : finished.flatMap Transfer.received ++ t.received =
      finished.flatMap Transfer.consumed ++ data) :
    ¬InOrder (.settle finished t s) := by
  obtain ⟨c, hc, hdata, hne⟩ := hstale
  rw [BulkQueue.settle_of_some hc]
  intro h
  have hleft := h.leftover rfl
  have hconsumed : (t.run s).consumed = data := by
    rw [Transfer.consumed, hc, hdata]
    rfl
  rw [BulkQueue.delivered_idle, BulkQueue.log_idle, List.flatMap_append, List.flatMap_append,
    List.flatMap_singleton, List.flatMap_singleton, Transfer.received_run, hold,
    hconsumed] at hleft
  exact hne (List.append_right_eq_self.mp hleft.symm)

theorem streamInv_or_of_outcome {lost : Prop} (h : Outcome lost t data s)
    (hold : finished.flatMap Transfer.received ++ t.received =
      finished.flatMap Transfer.consumed ++ data) :
    (¬lost ∧ StreamInv (.settle finished t s)) ∨
      (lost ∧ ¬InOrder (.settle finished t s)) := by
  rcases h with ⟨hlost, hacc⟩ | ⟨hlost, hstale⟩
  · exact .inl ⟨hlost, streamInv_settle hacc hold⟩
  · exact .inr ⟨hlost, not_inOrder_settle hstale hold⟩

end

/-- One step keeps the stream in order unless it makes a stage that uses the
over-run buffer fail without a byte; then it does not. -/
theorem streamInv_or_of_step {s s' : BulkQueue} {e : BulkEvent} (hinv : StreamInv s)
    (hstep : readQueue.step s e = some s') :
    (¬OverRunLost s e ∧ StreamInv s') ∨ (OverRunLost s e ∧ ¬InOrder s') := by
  rcases bulkQueue_step_cases hstep with
    ⟨fw, rc, rfl, hidle, rfl⟩ | ⟨fw, status, bytes, t, memory, rfl, hbusy, hpend, hmove, rfl⟩
  · obtain ⟨qc, current, finished⟩ := s
    cases hidle
    obtain ⟨hp, hv, hold⟩ := hinv
    rw [BulkQueue.delivered_idle, BulkQueue.log_idle] at hold
    have ht : (Transfer.start rc qc).Quiet := ⟨rfl, rfl⟩
    refine streamInv_or_of_outcome (outcome_xferReadBulk ht hp hv) ?_
    rw [← hold]
    exact List.append_nil _
  · obtain ⟨qc, current, finished⟩ := s
    cases hbusy
    obtain ⟨ht, memory', data, hpend', hs, hr, hold⟩ := hinv
    cases hpend.symm.trans hpend'
    have hconsumed : t.consumed = [] := by
      rw [Transfer.consumed, ht.completion, ht.discarded]
      rfl
    rw [BulkQueue.delivered_busy, BulkQueue.log_busy, hconsumed, List.append_nil] at hold
    -- the bytes of this request are the old ones, then those of the stage
    have hlost : OverRunLost ⟨qc, some t, finished⟩ (.stageDone fw status bytes) ↔
        OverRunEmpty status bytes.length memory ∨
          ContinuesRead fw t.request qc status bytes.length memory ∧
            OverRunUnsent fw t.request qc (qc.xfer.transferred + bytes.length) := by
      refine ⟨?_, fun h => ⟨t, memory, rfl, hpend, h⟩⟩
      rintro ⟨t', memory', ht', hpend', h⟩
      cases ht'
      cases hpend.symm.trans hpend'
      exact h
    rw [hlost]
    have hroom : bytes.length ≤ memory.room qc := of_decide_eq_true hmove
    have ht' : (t.endStage ⟨memory, status, bytes⟩).Quiet := ⟨ht.completion, ht.discarded⟩
    refine streamInv_or_of_outcome (outcome_xferReadBulkComplete ht' hr hs hroom) ?_
    rw [Transfer.received_endStage, ← List.append_assoc, hold, List.append_assoc]

/-- **The stream of an IN pipe stays in order exactly as long as no stage that
uses the over-run buffer fails without a byte received.** -/
theorem readQueue_inOrder_iff (q : NewReadQueue) (es : List BulkEvent) :
    readQueue.Always InOrder { queue := q.queue } es ↔
      readQueue.Throughout (fun s e => ¬OverRunLost s e) { queue := q.queue } es := by
  have hinit : StreamInv { queue := q.queue } := by
    refine ⟨q.readPipe, ?_, ?_⟩
    · rw [QueueContext.OverOfsValid, q.overOfs]
      exact Nat.zero_le _
    · rw [BulkQueue.delivered_idle, BulkQueue.log_idle, leftover_eq_nil (by rw [q.overOfs])]
      rfl
  exact Machine.always_iff_throughout_not (fun s h => h.inOrder)
    (fun s e s' hinv hstep => streamInv_or_of_step hinv hstep) es hinit

/-- A queue of four-byte packets, with old bytes in its over-run buffer. -/
def oldBytesQueue : NewReadQueue where
  queue :=
    { info := ⟨4, 0x81, 0, .bulk, 4⟩
      overBuf := [0xA0, 0xA1, 0xA2, 0xA3] }
  readPipe := ⟨by decide, by decide, rfl⟩
  overOfs := rfl

theorem length_le_twoByteRead : 2 ≤ ([0, 0] : List UInt8).length := by decide

/-- A read of two bytes that allows partial reads. -/
def twoByteRead : RequestContext where
  length := 2
  buffer := [0, 0]
  length_le := length_le_twoByteRead
  policies := { allowPartialReads := true }

/-- A two-byte read that times out before a byte is received, then another. -/
def timedOutRead : List BulkEvent :=
  [.request {} twoByteRead, .stageDone {} STATUS_IO_TIMEOUT [], .request {} twoByteRead]

/-- The second read returns two bytes the device never delivered. -/
theorem not_always_inOrder_timedOutRead :
    ¬readQueue.Always InOrder { queue := oldBytesQueue.queue } timedOutRead := by
  intro h
  have hrun : (readQueue.exec { queue := oldBytesQueue.queue } timedOutRead).map
      (fun s => (s.log, s.delivered)) = some ([0xA0, 0xA1], []) := by decide
  obtain ⟨s, hs, hlog⟩ := Option.map_eq_some_iff.mp hrun
  have hprefix := (h.exec hs).ordered
  obtain ⟨hl, hd⟩ := Prod.mk.inj hlog
  rw [hl, hd] at hprefix
  exact absurd hprefix.length_le (by decide)

end LibusbK
