import LibusbK.Driver.Bulk
import LibusbK.Lib.Tiling

/-!
# The stages of a write

`Xfer_WriteBulk` submits the first stage of a write, and `Xfer_WriteBulkComplete`
runs when a stage has ended and submits the next one.  `writeInFull` is the life
of a request all of whose submissions succeed and all of whose stages are moved
in full: what the routines give to the I/O target and to the user, in order.

## Main results

* `writeInFull_submitNextWrite` — from any point of a write on, the stages tile
  what is left of the buffer and the request is completed once.
* `writeInFull_covers` — a write on a pipe with packets covers its buffer; on a
  pipe without packets it is refused.
-/

namespace LibusbK

open Tiling

/-! ### Requests that go well -/

/-- Every call of the framework that a write makes succeeds. -/
structure WriteSubmits (fw : Framework) (rc : RequestContext) : Prop where
  requestContext : fw.requestContext = true
  queueContext : fw.queueContext = true
  ownQueueContext : rc.queueContext = true
  transferMemory : ntSuccess fw.transferMemory = true
  submit : formatAndSubmit fw rc = .ok ()

instance (fw : Framework) (rc : RequestContext) : Decidable (WriteSubmits fw rc) :=
  decidable_of_iff (fw.requestContext = true ∧ fw.queueContext = true ∧ rc.queueContext = true ∧
    ntSuccess fw.transferMemory = true ∧ submissionFails fw rc = false)
    ⟨fun ⟨h₁, h₂, h₃, h₄, h₅⟩ => ⟨h₁, h₂, h₃, h₄, submissionFails_eq_false.mp h₅⟩,
      fun h => ⟨h.1, h.2, h.3, h.4, submissionFails_eq_false.mpr h.5⟩⟩

/-- How the I/O target completes a stage that was moved in full, with the answers
of the framework to the routine that then runs. -/
structure FullStage (rc : RequestContext) where
  fw : Framework
  status : NTSTATUS
  submits : WriteSubmits fw rc
  success : ntSuccess status = true

/-- The bytes of a stage of a write. -/
def StageMemory.stageLength : StageMemory → ℕ
  | .user ofs => ofs.bufferLength
  | _ => 0

/-- What the routines do with a write from `s` on, pipe resets aside: for each
stage that is sent, the completion routine is called with all its bytes. -/
def writeInFull (rc : RequestContext) : Served → List (FullStage rc) → List Effect
  | s, [] => s.handoff
  | s, stage :: stages =>
    match s.handoff with
    | [.send routine memory] =>
      .send routine memory ::
        writeInFull rc (xferWriteBulkComplete stage.fw rc stage.status memory.stageLength s.queue)
          stages
    | handoff => handoff

/-- A stage of a write that moves data. -/
def sendWindow (ofs : MemoryOffset) : Effect := .send .writeBulk (.user ofs)

/-- A write that covers the bytes from `ofs` to `length`: stages that tile them, in
order, each of at most `limit` bytes and as few as there can be; then one
zero-length packet or none; then, once, its completion with success and all of
its bytes. -/
structure CoversFrom (limit ofs length : ℕ) (windows : List MemoryOffset) (es : List Effect) :
    Prop where
  tiles : Tiles ofs length (windows.map fun w => (w.bufferOffset, w.bufferLength))
  bounded : ∀ w ∈ windows, 0 < w.bufferLength ∧ w.bufferLength ≤ limit
  count : windows.length = (length - ofs) ⌈/⌉ limit
  trace : ∃ zlps status, es = windows.map sendWindow ++ (zlps ++ [.complete status length]) ∧
    (zlps = [] ∨ zlps = [.send .writeBulk .zlp]) ∧ ntSuccess status = true

/-- The whole buffer is covered. -/
def CoversBuffer (limit length : ℕ) (es : List Effect) : Prop :=
  ∃ windows, CoversFrom limit 0 length windows es

/-! ### From one stage to the next -/

section

variable {fw : Framework} {rc : RequestContext} {qc : QueueContext}

theorem handoff_submitNextWrite (hfw : WriteSubmits fw rc) :
    (submitNextWrite fw rc qc).handoff =
      [.send .writeBulk
        (if min (qc.xfer.length - qc.xfer.transferred) qc.info.maximumTransferSize ≠ 0 then
          .user ⟨qc.xfer.transferred,
            min (qc.xfer.length - qc.xfer.transferred) qc.info.maximumTransferSize⟩
        else .zlp)] := by
  unfold submitNextWrite submitStage
  rw [hfw.submit]
  rfl

theorem queue_submitNextWrite (hfw : WriteSubmits fw rc) :
    (submitNextWrite fw rc qc).queue =
      qc.setUserOfs ⟨qc.xfer.transferred,
        min (qc.xfer.length - qc.xfer.transferred) qc.info.maximumTransferSize⟩ := by
  unfold submitNextWrite submitStage
  rw [hfw.submit]

/-- A write that has been completed stays so. -/
theorem writeInFull_exitWith (status : NTSTATUS) (stages : List (FullStage rc)) :
    writeInFull rc (exitWith qc status) stages = [.complete status qc.xfer.transferred] := by
  cases stages <;> rfl

/-- One stage is sent and ends, and the completion routine runs. -/
theorem writeInFull_cons (hfw : WriteSubmits fw rc) (stage : FullStage rc)
    (stages : List (FullStage rc)) :
    writeInFull rc (submitNextWrite fw rc qc) (stage :: stages) =
      let n := min (qc.xfer.length - qc.xfer.transferred) qc.info.maximumTransferSize
      let memory := if n ≠ 0 then .user ⟨qc.xfer.transferred, n⟩ else .zlp
      .send .writeBulk memory ::
        writeInFull rc (xferWriteBulkComplete stage.fw rc stage.status n
          (qc.setUserOfs ⟨qc.xfer.transferred, n⟩)) stages := by
  rw [writeInFull, handoff_submitNextWrite hfw, queue_submitNextWrite hfw]
  dsimp only
  split_ifs with h
  · rfl
  · rw [not_not.mp h]
    rfl

/-- Once all the bytes are out, a zero-length packet may follow, and the write is
completed. -/
theorem writeInFull_done {status : NTSTATUS} {n : ℕ} (hstatus : ntSuccess status = true)
    (hn : qc.xfer.transferred + n = qc.xfer.length) (hreq : qc.xfer.zlpsRequired ≤ 1)
    (hfw : WriteSubmits fw rc) {stages : List (FullStage rc)} (hmany : stages ≠ []) :
    ∃ zlps status', writeInFull rc (xferWriteBulkComplete fw rc status n qc) stages =
      zlps ++ [.complete status' qc.xfer.length] ∧
      (zlps = [] ∨ zlps = [.send .writeBulk .zlp]) ∧ ntSuccess status' = true := by
  have hall : (qc.addTransferred n).xfer.transferred ≥ (qc.addTransferred n).xfer.length :=
    Nat.le_of_eq hn.symm
  unfold xferWriteBulkComplete
  dsimp only
  rw [if_pos hstatus, if_pos hall]
  by_cases hsent : (qc.addTransferred n).xfer.zlpsSent ≥ (qc.addTransferred n).xfer.zlpsRequired
  · refine ⟨[], status, ?_, .inl rfl, hstatus⟩
    rw [if_pos hsent, writeInFull_exitWith]
    show [Effect.complete status (qc.xfer.transferred + n)] = _
    rw [hn]
    rfl
  · rw [if_neg hsent]
    replace hsent : ¬qc.xfer.zlpsSent ≥ qc.xfer.zlpsRequired := hsent
    obtain ⟨stage, rest, rfl⟩ := List.exists_cons_of_ne_nil hmany
    refine ⟨[.send .writeBulk .zlp], stage.status, ?_, .inr rfl, stage.success⟩
    -- no byte is left for the stage, and the packet it sends is the last one required
    have hzero : min ((qc.addTransferred n).countZlp.xfer.length -
        (qc.addTransferred n).countZlp.xfer.transferred)
        (qc.addTransferred n).countZlp.info.maximumTransferSize = 0 := by
      show min (qc.xfer.length - (qc.xfer.transferred + n)) qc.info.maximumTransferSize = 0
      omega
    rw [writeInFull_cons hfw]
    dsimp only
    rw [hzero, if_neg (by simp)]
    unfold xferWriteBulkComplete
    dsimp only
    rw [if_pos stage.success, if_pos, if_pos, writeInFull_exitWith]
    · show _ :: [Effect.complete stage.status (qc.xfer.transferred + n + 0)] = _
      rw [Nat.add_zero, hn]
      rfl
    · show qc.xfer.zlpsSent + 1 ≥ qc.xfer.zlpsRequired
      omega
    · show qc.xfer.transferred + n + 0 ≥ qc.xfer.length
      omega

end

/-- **From any point of a write on**, the stages tile what is left. -/
theorem writeInFull_submitNextWrite {rc : RequestContext} :
    ∀ {stages : List (FullStage rc)} {fw : Framework} {qc : QueueContext},
      WriteSubmits fw rc → qc.xfer.zlpsRequired ≤ 1 → 0 < qc.info.maximumTransferSize →
      qc.xfer.transferred < qc.xfer.length →
      (qc.xfer.length - qc.xfer.transferred) ⌈/⌉ qc.info.maximumTransferSize < stages.length →
      ∃ windows, CoversFrom qc.info.maximumTransferSize qc.xfer.transferred qc.xfer.length windows
        (writeInFull rc (submitNextWrite fw rc qc) stages) := by
  intro stages
  induction stages with
  | nil => exact fun _ _ _ _ h => absurd h (Nat.not_lt_zero _)
  | cons stage stages ih =>
    intro fw qc hfw hreq hlimit hlt hmany
    rw [ceilDiv_sub_min hlimit hlt, List.length_cons, Nat.add_lt_add_iff_right] at hmany
    rw [writeInFull_cons hfw]
    dsimp only
    have hcount := ceilDiv_sub_min hlimit hlt
    generalize hn : min (qc.xfer.length - qc.xfer.transferred) qc.info.maximumTransferSize = n
      at hmany hcount
    have hpos : 0 < n := by omega
    have hle : n ≤ qc.info.maximumTransferSize := by omega
    rw [if_pos (by omega : n ≠ 0)]
    by_cases hlast : qc.xfer.transferred + n = qc.xfer.length
    · -- the stage takes the rest of the buffer
      have hrest : qc.xfer.length - (qc.xfer.transferred + n) = 0 := by omega
      rw [hrest, zero_ceilDiv] at hcount
      rw [hrest, zero_ceilDiv] at hmany
      obtain ⟨zlps, status, htrace, hzlps, hstatus⟩ :=
        @writeInFull_done _ _ (qc.setUserOfs ⟨qc.xfer.transferred, n⟩) _ _ stage.success hlast hreq
          stage.submits _ (List.ne_nil_of_length_pos hmany)
      refine ⟨[⟨qc.xfer.transferred, n⟩], ?_, ?_, ?_, zlps, status, ?_, hzlps, hstatus⟩
      · rw [← hlast]
        exact .cons _ (.nil _)
      · intro w hw
        rw [List.mem_singleton.mp hw]
        exact ⟨hpos, hle⟩
      · rw [hcount]
        rfl
      · rw [htrace]
        rfl
    · have hmore : qc.xfer.transferred + n < qc.xfer.length := by omega
      have hcomplete : xferWriteBulkComplete stage.fw rc stage.status n
          (qc.setUserOfs ⟨qc.xfer.transferred, n⟩) =
          submitNextWrite stage.fw rc
            ((qc.setUserOfs ⟨qc.xfer.transferred, n⟩).addTransferred n) := by
        unfold xferWriteBulkComplete
        dsimp only
        rw [if_pos stage.success, if_neg]
        show ¬qc.xfer.transferred + n ≥ qc.xfer.length
        omega
      obtain ⟨windows, htiles, hbounded, hlength, zlps, status, htrace, hzlps, hstatus⟩ :=
        @ih stage.fw ((qc.setUserOfs ⟨qc.xfer.transferred, n⟩).addTransferred n) stage.submits hreq
          hlimit hmore hmany
      refine ⟨⟨qc.xfer.transferred, n⟩ :: windows, .cons _ htiles, ?_, ?_, zlps, status, ?_, hzlps,
        hstatus⟩
      · intro w hw
        rcases List.mem_cons.mp hw with rfl | hw
        · exact ⟨hpos, hle⟩
        · exact hbounded w hw
      · rw [List.length_cons, hlength, hcount]
        rfl
      · rw [hcomplete, htrace]
        rfl

/-! ### The whole write -/

/-- `Xfer_WriteBulk` of at least one byte submits the first stage. -/
theorem exists_handoff_xferWriteBulk {fw : Framework} {rc : RequestContext} {qc : QueueContext}
    (hfw : WriteSubmits fw rc) (hlen : rc.length ≠ 0) (hpacket : qc.info.maximumPacketSize ≠ 0) :
    ∃ qc' : QueueContext, (xferWriteBulk fw rc qc).handoff = (submitNextWrite fw rc qc').handoff ∧
      (xferWriteBulk fw rc qc).queue = (submitNextWrite fw rc qc').queue ∧
      qc'.info = qc.info ∧ qc'.xfer.length = rc.length ∧ qc'.xfer.transferred = 0 ∧
      qc'.xfer.zlpsRequired ≤ 1 := by
  have hvalid := ntSuccess_validateRequestContext.mpr ⟨hfw.requestContext, hfw.ownQueueContext⟩
  have hquiet := isQuiet_of_mem_handlePipeResetScenarios fw rc (qc.startXfer rc.length)
  have hinfo := info_handlePipeResetScenarios fw rc (qc.startXfer rc.length)
  have hxfer := xfer_handlePipeResetScenarios fw rc (qc.startXfer rc.length)
  unfold xferWriteBulk
  dsimp only
  rw [if_neg (by simp [hvalid]), if_neg (by simp [hfw.queueContext]),
    if_neg (fun h => hpacket h.1), Served.handoff_after hquiet, Served.queue_after]
  generalize (handlePipeResetScenarios fw rc (qc.startXfer rc.length)).1 = reset at hinfo hxfer
  unfold writeBulkAfterReset
  dsimp only
  rw [if_pos (by rw [hxfer]; exact hlen), if_neg (by simp [hfw.transferMemory])]
  refine ⟨_, rfl, rfl, hinfo, ?_, ?_, ?_⟩
  · show reset.xfer.length = rc.length
    rw [hxfer]
    rfl
  · show reset.xfer.transferred = 0
    rw [hxfer]
    rfl
  · show (if rc.policies.shortPacketTerminate then 1 else 0) ≤ 1
    split_ifs <;> decide

/-- What happens to a write is decided by what it gives away and by the queue it
leaves. -/
theorem writeInFull_congr {rc : RequestContext} {s s' : Served} (h : s.handoff = s'.handoff)
    (hq : s.queue = s'.queue) (stages : List (FullStage rc)) :
    writeInFull rc s stages = writeInFull rc s' stages := by
  cases stages with
  | nil => exact h
  | cons stage stages => rw [writeInFull, writeInFull, h, hq]

/-- **Write staging covers the buffer** of a write of at least one byte, on a pipe
that has packets and can move bytes. -/
theorem writeInFull_covers {fw : Framework} {rc : RequestContext} {qc : QueueContext}
    (hlen : 0 < rc.length) (hlimit : 0 < qc.info.maximumTransferSize)
    (hpacket : qc.info.maximumPacketSize ≠ 0) (hfw : WriteSubmits fw rc)
    (stages : List (FullStage rc))
    (hmany : rc.length ⌈/⌉ qc.info.maximumTransferSize < stages.length) :
    CoversBuffer qc.info.maximumTransferSize rc.length
      (writeInFull rc (xferWriteBulk fw rc qc) stages) := by
  obtain ⟨qc', hhandoff, hqueue, hinfo, hlength, htransferred, hreq⟩ :=
    exists_handoff_xferWriteBulk hfw (Nat.ne_of_gt hlen) hpacket
  rw [writeInFull_congr hhandoff hqueue]
  have hcovers := @writeInFull_submitNextWrite rc stages _ _ hfw hreq
    (by rw [hinfo]; exact hlimit) (by rw [hlength, htransferred]; exact hlen)
    (by rw [hinfo, hlength, htransferred]; exact hmany)
  rw [hinfo, hlength, htransferred] at hcovers
  exact hcovers

theorem length_le_twoStageWrite : 3 ≤ ([1, 2, 3] : List UInt8).length := by decide

/-- A write of three bytes that asks for a zero-length packet. -/
def twoStageWrite : RequestContext where
  length := 3
  buffer := [1, 2, 3]
  length_le := length_le_twoStageWrite
  policies := { shortPacketTerminate := true }

/-- A queue that moves two bytes at a time in packets of `maximumPacketSize`. -/
def twoByteQueue (maximumPacketSize : ℕ) : QueueContext :=
  { info := ⟨maximumPacketSize, 0x01, 0, .bulk, 2⟩ }

theorem writeSubmits_twoStageWrite : WriteSubmits {} twoStageWrite := by decide

theorem ntSuccess_fullStage : ntSuccess STATUS_SUCCESS = true := by decide

/-- A stage that the I/O target moves in full. -/
def fullStage : FullStage twoStageWrite :=
  ⟨{}, STATUS_SUCCESS, writeSubmits_twoStageWrite, ntSuccess_fullStage⟩

/-- Two stages, a zero-length packet, and the completion. -/
theorem writeInFull_covers_twoStageWrite :
    CoversBuffer 2 3
      (writeInFull twoStageWrite (xferWriteBulk {} twoStageWrite (twoByteQueue 2))
        [fullStage, fullStage, fullStage]) :=
  @writeInFull_covers {} twoStageWrite (twoByteQueue 2) (by decide) (by decide) (by decide)
    writeSubmits_twoStageWrite [fullStage, fullStage, fullStage] (by decide)

/-- On a pipe whose `MaximumPacketSize` is zero a write is completed before
anything is submitted. -/
theorem not_coversBuffer_noPackets :
    ¬CoversBuffer 2 3
      (writeInFull twoStageWrite (xferWriteBulk {} twoStageWrite (twoByteQueue 0))
        [fullStage, fullStage, fullStage]) := by
  rintro ⟨windows, hcovers⟩
  obtain ⟨zlps, status, htrace, -, -⟩ := hcovers.trace
  have hlast := congrArg List.getLast? htrace
  rw [← List.append_assoc, List.getLast?_append] at hlast
  cases hlast

end LibusbK
