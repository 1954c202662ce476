import LibusbK.Driver.BulkQueue

/-!
# The status of a read

A read should report the first failure of its stages: it succeeds only if all of
them did, and the stage that fails is its last, with the status the read ends
with.

In `Xfer_ReadBulkComplete` one variable holds the status of the stage that ended
and then the status of the copy out of the over-run buffer.  A stage that fails
after some bytes were received into that buffer has its status overwritten.

## Main definitions

* `Transfer.Honest` — the request reports the failure of its stages.
* `FailureHidden` — the event makes a stage fail whose status is overwritten,
  and the request does not happen to end with that status for another reason.

## Main results

* `honest_step` — what one step does to the histories of the requests.
* `readQueue_honest_iff` — the reads of a run report the failures of their
  stages if and only if none of its events hides one.
-/

namespace LibusbK

/-! ### Honest requests -/

/-- The request succeeds only if all its stages did, and a stage that fails is
its last one and gives the request its status. -/
structure Transfer.Honest (t : Transfer) : Prop where
  success : ∀ c, t.completion = some c → ntSuccess c.status = true →
    ∀ stage ∈ t.stages, ntSuccess stage.status = true
  failure : ∀ before stage after, t.stages = before ++ stage :: after →
    ntSuccess stage.status = false →
    after = [] ∧ t.pending = none ∧ ∃ c, t.completion = some c ∧ c.status = stage.status

/-- All requests of the queue are honest. -/
def HonestReads (s : BulkQueue) : Prop := ∀ t ∈ s.requests, t.Honest

/-- The submission of the next stage of a read fails with `status`, when
`remaining` bytes are to be read. -/
def NextReadFailsWith (fw : Framework) (rc : RequestContext) (info : PipeInformation)
    (remaining : ℕ) (status : NTSTATUS) : Prop :=
  if min remaining info.maximumTransferSize < info.maximumPacketSize ∧
      rc.policies.allowPartialReads = false then
    status = STATUS_INVALID_BUFFER_SIZE
  else formatAndSubmit fw rc = .error status

/-- The read goes on after a stage that received `n` bytes into the over-run
buffer, and the submission of its next stage fails with `status`. -/
def ContinuesAndFailsWith (fw : Framework) (rc : RequestContext) (qc : QueueContext) (n : ℕ)
    (status : NTSTATUS) : Prop :=
  let transferred := qc.xfer.transferred + min qc.overOfs.bufferLength n
  ntSuccess fw.copyFromBuffer = true ∧ rc.policies.ignoreShortPackets = true ∧
    transferred < qc.xfer.length ∧
      NextReadFailsWith fw rc qc.info (qc.xfer.length - transferred) status

/-- A stage failed after `n` bytes were received into the over-run buffer, and
neither the copy of these bytes nor the submission of the next stage fails with
the same status. -/
def StatusOverwritten (fw : Framework) (rc : RequestContext) (qc : QueueContext)
    (status : NTSTATUS) (n : ℕ) : Prop :=
  ntSuccess status = false ∧ qc.overOfs.bufferLength ≠ 0 ∧ n ≠ 0 ∧
    fw.copyFromBuffer ≠ status ∧ ¬ContinuesAndFailsWith fw rc qc n status

/-- The event ends a stage whose failure the read does not report. -/
def FailureHidden (s : BulkQueue) : BulkEvent → Prop
  | .request _ _ => False
  | .stageDone fw status bytes =>
    ∃ t, s.current = some t ∧ StatusOverwritten fw t.request s.queue status bytes.length

/-! ### What a routine reports -/

/-- The routine completes the request with `status`. -/
def Reports (s : Served) (status : NTSTATUS) : Prop :=
  ∃ information, s.handoff = [.complete status information]

section

variable {fw : Framework} {rc : RequestContext} {qc : QueueContext} {status : NTSTATUS}

theorem reports_exitWith {st : NTSTATUS} : Reports (exitWith qc st) status ↔ st = status := by
  simp [Reports]

theorem reports_exitTransferred {st : NTSTATUS} :
    Reports (exitTransferred rc qc st) status ↔ st = status := by
  simp [Reports, handoff_exitTransferred]

theorem reports_submitStage {routine : Routine} {memory : StageMemory} :
    Reports (submitStage fw rc qc routine memory) status ↔
      formatAndSubmit fw rc = .error status := by
  rcases handoff_submitStage fw rc qc routine memory with ⟨hok, h⟩ | ⟨st, herr, h⟩
  · simp [Reports, h, hok]
  · simp [Reports, h, herr]

theorem reports_submitNextRead :
    Reports (submitNextRead fw rc qc) status ↔
      NextReadFailsWith fw rc qc.info (qc.xfer.length - qc.xfer.transferred) status := by
  unfold submitNextRead NextReadFailsWith
  dsimp only
  by_cases hshort : min (qc.xfer.length - qc.xfer.transferred) qc.info.maximumTransferSize <
      qc.info.maximumPacketSize
  · cases hallow : rc.policies.allowPartialReads with
    | false =>
      simp only [hshort, if_true, Bool.not_false, and_self, reports_exitWith]
      exact eq_comm
    | true => simp [hshort, reports_submitStage]
  · simp [hshort, reports_submitStage]

theorem reports_nextReadUnlessShort {st : NTSTATUS} :
    Reports (nextReadUnlessShort fw rc qc st) status ↔
      if rc.policies.ignoreShortPackets = true then
        NextReadFailsWith fw rc qc.info (qc.xfer.length - qc.xfer.transferred) status
      else st = status := by
  unfold nextReadUnlessShort
  cases rc.policies.ignoreShortPackets with
  | false => simp [reports_exitWith]
  | true => simp [reports_submitNextRead]

/-- Copying received bytes reports the failure of their stage only if the copy or
the submission of the next stage fails the same way. -/
theorem reports_readBulkCopyReceived {n : ℕ} (hstatus : ntSuccess status = false) :
    Reports (readBulkCopyReceived fw rc n qc) status ↔
      fw.copyFromBuffer = status ∨
        (ntSuccess fw.copyFromBuffer = true ∧ rc.policies.ignoreShortPackets = true ∧
          qc.xfer.transferred + n < qc.xfer.length ∧
          NextReadFailsWith fw rc qc.info (qc.xfer.length - (qc.xfer.transferred + n)) status) := by
  unfold readBulkCopyReceived copyPartialReadToUserMemory
  cases hcopy : ntSuccess fw.copyFromBuffer with
  | false => simp [reports_exitWith]
  | true =>
    have hne : fw.copyFromBuffer ≠ status := by
      intro h
      rw [h, hstatus] at hcopy
      cases hcopy
    simp only [Bool.not_true, Bool.false_eq_true, if_false, hcopy, hne, false_or, true_and]
    by_cases hdone : (qc.copied qc.overBuf n).xfer.transferred ≥
        (qc.copied qc.overBuf n).xfer.length
    · rw [if_pos hdone, reports_exitTransferred]
      rw [QueueContext.transferred_copied, QueueContext.length_copied] at hdone
      simp [hne, Nat.not_lt.mpr hdone]
    · rw [if_neg hdone, reports_nextReadUnlessShort]
      rw [QueueContext.transferred_copied, QueueContext.length_copied] at hdone
      simp only [QueueContext.transferred_copied, QueueContext.length_copied, hne,
        Nat.lt_of_not_le hdone, true_and]
      split_ifs with hshort
      · exact ⟨fun h => ⟨hshort, h⟩, fun h => h.2⟩
      · simp [hshort]

/-- `Xfer_ReadBulkComplete` reports the failure of the stage that ended, unless
its status is overwritten. -/
theorem reports_xferReadBulkComplete {n : ℕ} (hstatus : ntSuccess status = false) :
    Reports (xferReadBulkComplete fw rc status n qc) status ↔
      ¬StatusOverwritten fw rc qc status n := by
  unfold xferReadBulkComplete StatusOverwritten ContinuesAndFailsWith
  simp only [hstatus, true_and]
  generalize hq : handlePipeResetScenariosForComplete status rc qc = q
  have hover : q.overOfs = qc.overOfs := by rw [← hq]; simp
  have hxfer : q.xfer = qc.xfer := by rw [← hq]; simp
  have hinfo : q.info = qc.info := by rw [← hq]; simp
  rw [hover]
  by_cases hne : qc.overOfs.bufferLength ≠ 0
  · rw [if_pos hne]
    unfold readBulkCompleteOver
    by_cases hn : n ≠ 0
    · rw [if_pos hn, reports_readBulkCopyReceived hstatus, hover]
      have hx : (q.setOverOfs ⟨qc.overOfs.bufferOffset, n⟩).xfer = qc.xfer := hxfer
      have hi : (q.setOverOfs ⟨qc.overOfs.bufferOffset, n⟩).info = qc.info := hinfo
      rw [hx, hi]
      simp only [hne, hn, ne_eq, not_false_eq_true, true_and]
      rw [not_and_or, not_not, not_not]
    · rw [if_neg hn]
      simp [hstatus, reports_exitWith, hn]
  · rw [if_neg hne]
    simp [readBulkCompleteUser, hstatus, reports_exitWith, hne]

end

/-! ### The run -/

section

variable {t : Transfer} {s : Served} {stage : Stage}

theorem stages_run_endStage : ((t.endStage stage).run s).stages = t.stages ++ [stage] :=
  Transfer.stages_run _ s

/-- A request whose stages all succeeded is honest, whatever it ends with. -/
theorem honest_of_stages (h : ∀ stage ∈ t.stages, ntSuccess stage.status = true) : t.Honest where
  success _ _ _ := h
  failure before stage after hsplit hfail := by
    have hmem : stage ∈ t.stages := by rw [hsplit]; simp
    rw [h stage hmem] at hfail
    cases hfail

/-- When the stage that ended has failed, the request is honest if and only if
the completion routine reports the failure. -/
theorem honest_run_endStage_iff {routine : Routine} (hover : s.HandsOver routine)
    (hstages : ∀ stage ∈ t.stages, ntSuccess stage.status = true)
    (hfail : ntSuccess stage.status = false) :
    ((t.endStage stage).run s).Honest ↔ Reports s stage.status := by
  constructor
  · intro h
    obtain ⟨_, hpend, c, hc, hstatus⟩ := h.failure t.stages stage [] stages_run_endStage hfail
    rcases hover with ⟨memory, hsend⟩ | ⟨status, n, hend⟩
    · rw [(Transfer.run_of_send hsend).2] at hpend
      cases hpend
    · rw [(Transfer.run_of_complete hend).1] at hc
      cases hc
      exact ⟨n, hstatus ▸ hend⟩
  · rintro ⟨n, hend⟩
    obtain ⟨hc, hpend⟩ := Transfer.run_of_complete (t := t.endStage stage) hend
    refine ⟨fun c hc' hok => ?_, fun before st after hsplit hst => ?_⟩
    · rw [hc] at hc'
      cases hc'
      rw [hfail] at hok
      cases hok
    · rw [stages_run_endStage] at hsplit
      -- only the last stage has failed
      rcases List.eq_nil_or_concat after with rfl | ⟨init, last, rfl⟩
      · obtain ⟨_, hlast⟩ := List.append_inj' hsplit rfl
        cases hlast
        exact ⟨rfl, hpend, _, hc, rfl⟩
      · have hmem : st ∈ t.stages := by
          have hinit : t.stages = before ++ st :: init := by
            rw [List.concat_eq_append, ← List.cons_append, ← List.append_assoc] at hsplit
            exact List.append_inj_left' hsplit rfl
          rw [hinit]
          simp
        rw [hstages st hmem] at hst
        cases hst

end

/-- The invariant: the requests that are over are honest, and the one in progress
has had no failure. -/
structure StatusInv (s : BulkQueue) : Prop where
  finished : ∀ t ∈ s.finished, t.Honest
  stages : ∀ t, s.current = some t → ∀ stage ∈ t.stages, ntSuccess stage.status = true

theorem StatusInv.honestReads {s : BulkQueue} (h : StatusInv s) : HonestReads s := by
  intro t ht
  rw [BulkQueue.requests, List.mem_append, Option.mem_toList] at ht
  rcases ht with ht | ht
  · exact h.finished t ht
  · exact honest_of_stages (h.stages t ht)

theorem statusInv_settle {finished : List Transfer} {t : Transfer} {s : Served}
    (hfin : ∀ u ∈ finished, u.Honest) (hhonest : (t.run s).Honest)
    (hstages : (t.run s).completion = none →
      ∀ stage ∈ (t.run s).stages, ntSuccess stage.status = true) :
    StatusInv (.settle finished t s) := by
  cases hc : (t.run s).completion with
  | some c =>
    rw [BulkQueue.settle_of_some hc]
    refine ⟨fun u hu => ?_, by simp⟩
    rcases List.mem_append.mp hu with hu | hu
    · exact hfin u hu
    · rw [List.mem_singleton.mp hu]
      exact hhonest
  | none =>
    rw [BulkQueue.settle_of_none hc]
    refine ⟨hfin, fun u hu => ?_⟩
    cases hu
    exact hstages hc

/-- The request a routine ran for is among those of the queue. -/
theorem mem_requests_settle (finished : List Transfer) (t : Transfer) (s : Served) :
    t.run s ∈ (BulkQueue.settle finished t s).requests := by
  unfold BulkQueue.settle BulkQueue.requests
  dsimp only
  split_ifs <;> simp

/-- One step keeps the invariant unless it hides the failure of a stage; then a
request is left that is not honest. -/
theorem honest_step {s s' : BulkQueue} {e : BulkEvent} (hinv : StatusInv s)
    (hstep : readQueue.step s e = some s') :
    (¬FailureHidden s e ∧ StatusInv s') ∨ (FailureHidden s e ∧ ¬HonestReads s') := by
  rcases bulkQueue_step_cases hstep with
    ⟨fw, rc, rfl, hidle, rfl⟩ | ⟨fw, status, bytes, t, memory, rfl, hbusy, hpend, hmove, rfl⟩
  · have hnone :
        ((Transfer.start rc s.queue).run (readRoutines.submit fw rc s.queue)).stages = [] :=
      Transfer.stages_run _ _
    refine .inl ⟨not_false, statusInv_settle hinv.finished (honest_of_stages ?_) fun _ => ?_⟩
    · rw [hnone]
      simp
    · rw [hnone]
      simp
  · have hstages := hinv.stages t hbusy
    have hhidden : FailureHidden s (.stageDone fw status bytes) ↔
        StatusOverwritten fw t.request s.queue status bytes.length := by
      refine ⟨?_, fun h => ⟨t, hbusy, h⟩⟩
      rintro ⟨u, hu, h⟩
      cases hbusy.symm.trans hu
      exact h
    have hover : (readRoutines.complete fw t.request status bytes.length
        (readRoutines.move s.queue memory bytes)).HandsOver .readBulk :=
      handsOver_xferReadBulkComplete fw t.request _ status bytes.length
    cases hstatus : ntSuccess status with
    | true =>
      have hall : ∀ stage ∈ t.stages ++ [⟨memory, status, bytes⟩],
          ntSuccess stage.status = true := by
        intro stage hmem
        rcases List.mem_append.mp hmem with hmem | hmem
        · exact hstages stage hmem
        · rw [List.mem_singleton.mp hmem]
          exact hstatus
      refine .inl ⟨?_, statusInv_settle hinv.finished (honest_of_stages ?_) fun _ => ?_⟩
      · rw [hhidden]
        exact fun h => by rw [h.1] at hstatus; cases hstatus
      · rwa [stages_run_endStage]
      · rwa [stages_run_endStage]
    | false =>
      have hiff : ((t.endStage ⟨memory, status, bytes⟩).run _).Honest ↔ Reports _ status :=
        honest_run_endStage_iff hover hstages hstatus
      have hreport : Reports (readRoutines.complete fw t.request status bytes.length
          (readRoutines.move s.queue memory bytes)) status ↔
            ¬FailureHidden s (.stageDone fw status bytes) := by
        rw [hhidden]
        refine (reports_xferReadBulkComplete hstatus).trans (not_congr ?_)
        simp [StatusOverwritten, ContinuesAndFailsWith, readRoutines]
      rw [hreport] at hiff
      by_cases hhid : FailureHidden s (.stageDone fw status bytes)
      · refine .inr ⟨hhid, fun h => ?_⟩
        exact hiff.mp (h _ (mem_requests_settle _ _ _)) hhid
      · refine .inl ⟨hhid, statusInv_settle hinv.finished (hiff.mpr hhid) fun hnone => ?_⟩
        obtain ⟨_, _, c, hc, _⟩ :=
          (hiff.mpr hhid).failure t.stages _ [] stages_run_endStage hstatus
        rw [hnone] at hc
        cases hc

/-- **The reads of a run report the failures of their stages exactly as long as
no event overwrites one.** -/
theorem readQueue_honest_iff (qc : QueueContext) (es : List BulkEvent) :
    readQueue.Always HonestReads { queue := qc } es ↔
      readQueue.Throughout (fun s e => ¬FailureHidden s e) { queue := qc } es := by
  have hinit : StatusInv { queue := qc } := ⟨by simp, by simp⟩
  exact Machine.always_iff_throughout_not (fun s h => h.honestReads)
    (fun s e s' hinv hstep => honest_step hinv hstep) es hinit

theorem length_le_timedOutStage : 2 ≤ ([0, 0] : List UInt8).length := by decide

/-- A two-byte read whose only stage receives both bytes and times out. -/
def timedOutStage : List BulkEvent :=
  [.request {}
      { length := 2
        buffer := [0, 0]
        length_le := length_le_timedOutStage
        policies := { allowPartialReads := true } },
    .stageDone {} STATUS_IO_TIMEOUT [7, 8]]

/-- The read whose only stage timed out is completed with success. -/
theorem not_always_honestReads_timedOutStage :
    ¬readQueue.Always HonestReads
      { queue := { info := ⟨4, 0x81, 0, .bulk, 4⟩, overBuf := [0, 0, 0, 0] } } timedOutStage := by
  intro h
  have hrun : ((readQueue.exec
      { queue := { info := ⟨4, 0x81, 0, .bulk, 4⟩, overBuf := [0, 0, 0, 0] } }
      timedOutStage).map fun s => s.requests.map fun t => (t.stages, t.completion)) =
        some [([⟨.overrun, STATUS_IO_TIMEOUT, [7, 8]⟩], some ⟨STATUS_SUCCESS, 2, [7, 8]⟩)] := by
    decide
  obtain ⟨s, hs, hreq⟩ := Option.map_eq_some_iff.mp hrun
  obtain ⟨t, hone, ht⟩ := List.map_eq_singleton_iff.mp hreq
  obtain ⟨hstages, hcompl⟩ := Prod.mk.inj ht
  have hhonest := h.exec hs t (by rw [hone]; simp)
  have hok := hhonest.success _ hcompl (by decide) ⟨.overrun, STATUS_IO_TIMEOUT, [7, 8]⟩
    (by rw [hstages]; simp)
  exact absurd hok (by decide)

end LibusbK
