import LibusbK.Driver.BulkQueue

/-!
# Zero-length packets after a write

With `ShortPacketTerminate` set, a write is to be followed by a zero-length
packet.  `Xfer_WriteBulkComplete` decides that when the last data stage of the
write has ended, by comparing how many such packets the write requires with how
many count as sent; the second number lives in the queue context, and nothing
sets it back.

## Main definitions

* `Transfer.zlps` — the zero-length packets of a write.
* `ZlpRule` — a write sends at most one, only if its policy asks for it and after
  all its bytes; and it does send one before it succeeds, when none counted as
  sent before it.

## Main results

* `writeInv_step` — one step keeps the invariant behind the rule.
* `writeQueue_zlpRule` — the writes of every run keep the rule.
-/

namespace LibusbK

open Window

/-! ### The rule -/

namespace Transfer

/-- The memories of the stages submitted for this request, in order. -/
def sent (t : Transfer) : List StageMemory := t.stages.map Stage.memory ++ t.pending.toList

/-- The number of zero-length packets submitted for this request. -/
def zlps (t : Transfer) : ℕ := t.sent.count .zlp

end Transfer

/-- What a write of at least one byte does about zero-length packets. -/
structure ZlpRule (t : Transfer) : Prop where
  at_most_one : t.zlps ≤ 1
  policy : t.zlps ≠ 0 → t.request.policies.shortPacketTerminate = true
  after_data : t.zlps ≠ 0 → t.received.length = t.request.length ∧
    ∀ stage ∈ t.stages, stage.memory ≠ .zlp → ntSuccess stage.status = true
  sends_one : t.request.policies.shortPacketTerminate = true → t.before.xfer.zlpsSent = 0 →
    ∀ c, t.completion = some c → ntSuccess c.status = true → t.zlps = 1

/-- Every write of at least one byte keeps the rule. -/
def ZlpRules (s : BulkQueue) : Prop :=
  ∀ t ∈ s.requests, t.request.length ≠ 0 → ZlpRule t

/-- The queue of an OUT pipe that can move bytes if it has packets. -/
structure WriteQueue where
  queue : QueueContext
  transfer_pos : queue.info.maximumPacketSize ≠ 0 → 0 < queue.info.maximumTransferSize

/-! ### The write in progress -/

/-- A write whose stages so far moved data and succeeded. -/
structure Writing (t : Transfer) (qc : QueueContext) : Prop where
  completion : t.completion = none
  packet_ne : qc.info.maximumPacketSize ≠ 0
  length_eq : qc.xfer.length = t.request.length
  transferred_eq : qc.xfer.transferred = t.received.length
  required_eq : qc.xfer.zlpsRequired =
    if t.request.policies.shortPacketTerminate then 1 else 0
  stages_ok : ∀ stage ∈ t.stages, ntSuccess stage.status = true
  stages_data : ∀ stage ∈ t.stages, stage.memory ≠ .zlp

/-- The pending stage moves data, or it is the one zero-length packet. -/
inductive WritePhase (t : Transfer) (qc : QueueContext) : StageMemory → Prop
  | data {n : ℕ} (hn : 0 < n) (hle : qc.xfer.transferred + n ≤ qc.xfer.length)
      (hsent : qc.xfer.zlpsSent = t.before.xfer.zlpsSent) :
      WritePhase t qc (.user ⟨qc.xfer.transferred, n⟩)
  | zlp (hpolicy : t.request.policies.shortPacketTerminate = true)
      (hdone : qc.xfer.transferred = qc.xfer.length)
      (hsent : qc.xfer.zlpsRequired ≤ qc.xfer.zlpsSent) :
      WritePhase t qc .zlp

/-- The invariant: the rule holds of the writes that are over, and the one in
progress is moving data or sending its zero-length packet. -/
structure WriteInv (s : BulkQueue) : Prop where
  transfer_pos : s.queue.info.maximumPacketSize ≠ 0 → 0 < s.queue.info.maximumTransferSize
  finished : ∀ t ∈ s.finished, t.request.length ≠ 0 → ZlpRule t
  current : ∀ t, s.current = some t → t.request.length ≠ 0 →
    Writing t s.queue ∧ ∃ memory, t.pending = some memory ∧ WritePhase t s.queue memory

section

variable {t : Transfer} {qc : QueueContext}

/-- Data stages are no zero-length packets. -/
theorem count_zlp_eq_zero {stages : List Stage} (h : ∀ stage ∈ stages, stage.memory ≠ .zlp) :
    (stages.map Stage.memory).count .zlp = 0 := by
  rw [List.count_eq_zero]
  intro hmem
  obtain ⟨stage, hstage, hzlp⟩ := List.mem_map.mp hmem
  exact h stage hstage hzlp

theorem Writing.zlps_eq (h : Writing t qc) : t.zlps = t.pending.toList.count .zlp := by
  rw [Transfer.zlps, Transfer.sent, List.count_append, count_zlp_eq_zero h.stages_data,
    Nat.zero_add]

/-- The rule holds of the write in progress. -/
theorem Writing.zlpRule {memory : StageMemory} (h : Writing t qc)
    (hpend : t.pending = some memory) (hphase : WritePhase t qc memory) : ZlpRule t := by
  have hzlps := h.zlps_eq
  rw [hpend] at hzlps
  cases hphase with
  | data hn hle hsent =>
    have hzero : t.zlps = 0 := by rw [hzlps]; rfl
    refine ⟨by omega, fun hne => absurd hzero hne, fun hne => absurd hzero hne, ?_⟩
    intro _ _ c hc
    rw [h.completion] at hc
    cases hc
  | zlp hpolicy hdone hsent =>
    have hone : t.zlps = 1 := by rw [hzlps]; rfl
    refine ⟨by omega, fun _ => hpolicy, fun _ => ⟨?_, fun stage hs _ => h.stages_ok stage hs⟩,
      fun _ _ _ _ _ => hone⟩
    rw [← h.transferred_eq, hdone, h.length_eq]

end

theorem WriteInv.zlpRules {s : BulkQueue} (h : WriteInv s) : ZlpRules s := by
  intro t ht hne
  rw [BulkQueue.requests, List.mem_append, Option.mem_toList] at ht
  rcases ht with ht | ht
  · exact h.finished t ht hne
  · obtain ⟨hw, memory, hpend, hphase⟩ := h.current t ht hne
    exact hw.zlpRule hpend hphase

/-! ### What the routines do with a write -/

/-- What a routine did: it sent a stage of a write that is still in progress, or
it completed the write, with success only if the rule allows it. -/
def WriteOutcome (t : Transfer) (s : Served) : Prop :=
  (∃ memory, s.handoff = [.send .writeBulk memory] ∧ Writing t s.queue ∧
    WritePhase t s.queue memory) ∨
  ∃ status n, s.handoff = [.complete status n] ∧
    (t.request.policies.shortPacketTerminate = true → t.before.xfer.zlpsSent = 0 →
      ntSuccess status = true → t.zlps = 1)

section

variable {t : Transfer} {fw : Framework} {qc : QueueContext}

theorem writeOutcome_of_failure {s : Served} {status : NTSTATUS} {n : ℕ}
    (h : s.handoff = [.complete status n]) (hfail : ntSuccess status = false) :
    WriteOutcome t s := by
  refine .inr ⟨status, n, h, fun _ _ hok => ?_⟩
  rw [hfail] at hok
  cases hok

theorem WriteOutcome.after {s : Served} {es : List Effect} (h : WriteOutcome t s)
    (hes : ∀ e ∈ es, e.isQuiet = true) : WriteOutcome t (s.after es) := by
  rwa [WriteOutcome, Served.handoff_after hes]

/-- The next stage of a write moves data while there is some, and is a zero-length
packet when there is none. -/
theorem writeOutcome_submitNextWrite (hw : Writing t qc)
    (hpos : 0 < qc.info.maximumTransferSize)
    (hphase : qc.xfer.transferred < qc.xfer.length ∧
        qc.xfer.zlpsSent = t.before.xfer.zlpsSent ∨
      qc.xfer.transferred = qc.xfer.length ∧ qc.xfer.zlpsRequired ≤ qc.xfer.zlpsSent ∧
        t.request.policies.shortPacketTerminate = true) :
    WriteOutcome t (submitNextWrite fw t.request qc) := by
  unfold submitNextWrite
  dsimp only
  generalize hn : min (qc.xfer.length - qc.xfer.transferred) qc.info.maximumTransferSize = n
  generalize hm : (if n ≠ 0 then StageMemory.user ⟨qc.xfer.transferred, n⟩ else .zlp) = memory
  have hstage : WritePhase t (qc.setUserOfs ⟨qc.xfer.transferred, n⟩) memory := by
    rcases hphase with ⟨hlt, hsent⟩ | ⟨hdone, hsent, hpolicy⟩
    · have hn_pos : n ≠ 0 := by omega
      have hle : qc.xfer.transferred + n ≤ qc.xfer.length := by omega
      rw [if_pos hn_pos] at hm
      rw [← hm]
      exact .data (Nat.pos_of_ne_zero hn_pos) hle hsent
    · have hn_zero : n = 0 := by omega
      rw [if_neg (not_not.mpr hn_zero)] at hm
      rw [← hm]
      exact .zlp hpolicy hdone hsent
  unfold submitStage
  cases hf : formatAndSubmit fw t.request with
  | ok => exact .inl ⟨memory, rfl, { hw with }, hstage⟩
  | error status =>
    exact writeOutcome_of_failure rfl (ntSuccess_of_formatAndSubmit_error hf)

/-- `Xfer_WriteBulk` starts a write of at least one byte. -/
theorem writeOutcome_xferWriteBulk {rc : RequestContext} (hne : rc.length ≠ 0)
    (hpos : qc.info.maximumPacketSize ≠ 0 → 0 < qc.info.maximumTransferSize) :
    WriteOutcome (.start rc qc) (xferWriteBulk fw rc qc) := by
  unfold xferWriteBulk
  dsimp only
  split_ifs with hvalid hqueue hpacket
  · exact writeOutcome_of_failure rfl (by simpa using hvalid)
  · exact writeOutcome_of_failure rfl (by decide)
  · exact writeOutcome_of_failure rfl (by decide)
  · have hpacket' : qc.info.maximumPacketSize ≠ 0 := fun h => hpacket ⟨h, hne⟩
    generalize hq : handlePipeResetScenarios fw rc (qc.startXfer rc.length) = reset
    have hinfo : reset.1.info = qc.info := by rw [← hq]; simp [QueueContext.startXfer]
    have hxfer : reset.1.xfer = (qc.startXfer rc.length).xfer := by rw [← hq]; simp
    have hquiet : ∀ e ∈ reset.2, e.isQuiet = true := by
      rw [← hq]
      exact isQuiet_of_mem_handlePipeResetScenarios fw rc _
    refine WriteOutcome.after ?_ hquiet
    have hlen : reset.1.xfer.length = rc.length := by rw [hxfer]; rfl
    unfold writeBulkAfterReset
    dsimp only
    rw [if_pos (by rw [hlen]; exact hne)]
    by_cases hmem : ntSuccess fw.transferMemory = true
    · rw [if_neg (by simp [hmem])]
      generalize hr : (reset.1.setUserMem rc.buffer).requireZlps
        (if rc.policies.shortPacketTerminate then 1 else 0) = q
      have hinfo' : q.info = qc.info := by rw [← hr]; exact hinfo
      have hxfer' : q.xfer.transferred = 0 ∧ q.xfer.length = rc.length ∧
          q.xfer.zlpsSent = qc.xfer.zlpsSent := by
        rw [← hr]
        show reset.1.xfer.transferred = 0 ∧ reset.1.xfer.length = rc.length ∧
          reset.1.xfer.zlpsSent = qc.xfer.zlpsSent
        rw [hxfer]
        exact ⟨rfl, rfl, rfl⟩
      obtain ⟨htrans, hlen', hsent⟩ := hxfer'
      have hw : Writing (.start rc qc) q :=
        { completion := rfl
          packet_ne := by rw [hinfo']; exact hpacket'
          length_eq := hlen'
          transferred_eq := htrans
          required_eq := by rw [← hr]; rfl
          stages_ok := by simp [Transfer.start]
          stages_data := by simp [Transfer.start] }
      have hpos' : 0 < q.info.maximumTransferSize := by rw [hinfo']; exact hpos hpacket'
      exact writeOutcome_submitNextWrite hw hpos' (.inl ⟨by omega, hsent⟩)
    · rw [if_pos (by simpa using hmem)]
      exact writeOutcome_of_failure rfl (by simpa using hmem)

/-- A write after its pending stage has ended keeps the rule. -/
theorem Writing.zlpRule_endStage {memory : StageMemory} {status : NTSTATUS}
    {bytes : List UInt8} (hw : Writing t qc) (hphase : WritePhase t qc memory)
    (hmove : writeRoutines.canMove qc memory bytes = true) :
    ZlpRule (t.endStage ⟨memory, status, bytes⟩) := by
  have hnone : (t.endStage ⟨memory, status, bytes⟩).completion = none := hw.completion
  have hzlps : (t.endStage ⟨memory, status, bytes⟩).zlps = [memory].count .zlp := by
    simp [Transfer.zlps, Transfer.sent, Transfer.endStage, count_zlp_eq_zero hw.stages_data]
  cases hphase with
  | data hn hle hsent =>
    have hzero : (t.endStage ⟨.user ⟨qc.xfer.transferred, _⟩, status, bytes⟩).zlps = 0 := hzlps
    refine ⟨by omega, fun hne => absurd hzero hne, fun hne => absurd hzero hne, ?_⟩
    intro _ _ c hc
    rw [hnone] at hc
    cases hc
  | zlp hpolicy hdone hsent =>
    have hone : (t.endStage ⟨.zlp, status, bytes⟩).zlps = 1 := hzlps
    have hnil : bytes = [] := by
      cases bytes with
      | nil => rfl
      | cons b bs => cases hmove
    refine ⟨by omega, fun _ => hpolicy, fun _ => ⟨?_, ?_⟩, fun _ _ _ _ _ => hone⟩
    · rw [Transfer.received_endStage, hnil, List.append_nil, ← hw.transferred_eq, hdone,
        hw.length_eq]
      rfl
    · intro stage hstage hdata
      rcases List.mem_append.mp hstage with hstage | hstage
      · exact hw.stages_ok stage hstage
      · rw [List.mem_singleton.mp hstage] at hdata
        exact absurd rfl hdata

/-- A write goes on after a data stage that succeeded. -/
theorem Writing.endStage {ofs : MemoryOffset} {status : NTSTATUS} {bytes : List UInt8}
    (hw : Writing t qc) (hstatus : ntSuccess status = true) :
    Writing (t.endStage ⟨.user ofs, status, bytes⟩) (qc.addTransferred bytes.length) where
  completion := hw.completion
  packet_ne := hw.packet_ne
  length_eq := hw.length_eq
  transferred_eq := by
    rw [Transfer.received_endStage, List.length_append, ← hw.transferred_eq]
    rfl
  required_eq := hw.required_eq
  stages_ok stage hstage := by
    rcases List.mem_append.mp hstage with hstage | hstage
    · exact hw.stages_ok stage hstage
    · rw [List.mem_singleton.mp hstage]
      exact hstatus
  stages_data stage hstage := by
    rcases List.mem_append.mp hstage with hstage | hstage
    · exact hw.stages_data stage hstage
    · rw [List.mem_singleton.mp hstage]
      exact StageMemory.noConfusion

/-- `Xfer_WriteBulkComplete` goes on with a write, or completes it. -/
theorem writeOutcome_xferWriteBulkComplete {memory : StageMemory} {status : NTSTATUS}
    {bytes : List UInt8} (hw : Writing t qc) (hphase : WritePhase t qc memory)
    (hpos : 0 < qc.info.maximumTransferSize)
    (hmove : writeRoutines.canMove qc memory bytes = true) :
    WriteOutcome (t.endStage ⟨memory, status, bytes⟩)
      (xferWriteBulkComplete fw t.request status bytes.length qc) := by
  unfold xferWriteBulkComplete
  dsimp only
  cases hstatus : ntSuccess status with
  | false => exact writeOutcome_of_failure rfl hstatus
  | true =>
    rw [if_pos rfl]
    cases hphase with
    | zlp hpolicy hdone hsent =>
      have hge : (qc.addTransferred bytes.length).xfer.transferred ≥
          (qc.addTransferred bytes.length).xfer.length := by
        rw [QueueContext.transferred_addTransferred, QueueContext.length_addTransferred]
        omega
      have hall : (qc.addTransferred bytes.length).xfer.zlpsSent ≥
          (qc.addTransferred bytes.length).xfer.zlpsRequired := hsent
      rw [if_pos hge, if_pos hall]
      refine .inr ⟨_, _, rfl, fun _ _ _ => ?_⟩
      simp [Transfer.zlps, Transfer.sent, Transfer.endStage, count_zlp_eq_zero hw.stages_data]
    | @data n hn hle hsent =>
      have hbytes : bytes.length ≤ n := by
        have hprefix : bytes <+: window qc.xfer.transferred n qc.xfer.userMem :=
          List.isPrefixOf_iff_prefix.mp hmove
        have hle_window := hprefix.length_le
        rw [window, List.length_take] at hle_window
        omega
      have hw' : Writing (t.endStage ⟨.user ⟨qc.xfer.transferred, n⟩, status, bytes⟩)
          (qc.addTransferred bytes.length) := hw.endStage hstatus
      by_cases hge : (qc.addTransferred bytes.length).xfer.transferred ≥
          (qc.addTransferred bytes.length).xfer.length
      · rw [if_pos hge]
        rw [QueueContext.transferred_addTransferred, QueueContext.length_addTransferred] at hge
        have hreq := hw.required_eq
        by_cases hall : (qc.addTransferred bytes.length).xfer.zlpsSent ≥
            (qc.addTransferred bytes.length).xfer.zlpsRequired
        · -- nothing is required, or a packet counted as sent before this write
          rw [if_pos hall]
          refine .inr ⟨_, _, rfl, fun hpolicy hzero _ => absurd hall ?_⟩
          show ¬qc.xfer.zlpsSent ≥ qc.xfer.zlpsRequired
          replace hpolicy : t.request.policies.shortPacketTerminate = true := hpolicy
          replace hzero : t.before.xfer.zlpsSent = 0 := hzero
          rw [hreq, hsent, hzero, if_pos hpolicy]
          decide
        · rw [if_neg hall]
          have hpolicy : t.request.policies.shortPacketTerminate = true := by
            by_cases hpolicy : t.request.policies.shortPacketTerminate = true
            · exact hpolicy
            · rw [if_neg hpolicy] at hreq
              exact absurd (show qc.xfer.zlpsRequired ≤ qc.xfer.zlpsSent by omega) hall
          rw [if_pos hpolicy] at hreq
          have hw'' : Writing (t.endStage ⟨.user ⟨qc.xfer.transferred, n⟩, status, bytes⟩)
              (qc.addTransferred bytes.length).countZlp := { hw' with }
          refine writeOutcome_submitNextWrite hw'' hpos (.inr ⟨?_, ?_, hpolicy⟩)
          · show qc.xfer.transferred + bytes.length = qc.xfer.length
            omega
          · show qc.xfer.zlpsRequired ≤ qc.xfer.zlpsSent + 1
            omega
      · rw [if_neg hge]
        exact writeOutcome_submitNextWrite hw' hpos (.inl ⟨Nat.lt_of_not_le hge, hsent⟩)

end

/-! ### The run -/

section

variable (fw : Framework) (rc : RequestContext) (qc : QueueContext)

theorem info_submitNextWrite : (submitNextWrite fw rc qc).queue.info = qc.info := by
  unfold submitNextWrite submitStage
  dsimp only
  split <;> rfl

theorem info_xferWriteBulk : (xferWriteBulk fw rc qc).queue.info = qc.info := by
  have hstart : ∀ q, (writeBulkAfterReset fw rc q).queue.info = q.info := by
    intro q
    unfold writeBulkAfterReset
    dsimp only
    split_ifs
    · rfl
    all_goals exact info_submitNextWrite fw rc _
  unfold xferWriteBulk
  dsimp only
  split_ifs
  iterate 3 rfl
  rw [Served.queue_after, hstart, info_handlePipeResetScenarios]
  rfl

theorem info_xferWriteBulkComplete (status : NTSTATUS) (n : ℕ) :
    (xferWriteBulkComplete fw rc status n qc).queue.info = qc.info := by
  unfold xferWriteBulkComplete
  dsimp only
  split_ifs
  · rfl
  · exact info_submitNextWrite fw rc _
  · exact info_submitNextWrite fw rc _
  · rfl

end

/-- A request that ends keeps the rule it kept, if it ends as the rule allows. -/
theorem zlpRule_run {t : Transfer} {s : Served} {status : NTSTATUS} {n : ℕ} (hrule : ZlpRule t)
    (hend : s.handoff = [.complete status n])
    (hsends : t.request.policies.shortPacketTerminate = true → t.before.xfer.zlpsSent = 0 →
      ntSuccess status = true → t.zlps = 1) : ZlpRule (t.run s) := by
  obtain ⟨hc, hpend⟩ := Transfer.run_of_complete (t := t) hend
  have hzlps : (t.run s).zlps = t.zlps := by
    rw [Transfer.zlps, Transfer.zlps, Transfer.sent, Transfer.sent, Transfer.stages_run, hpend]
  refine ⟨?_, ?_, ?_, ?_⟩
  · rw [hzlps]
    exact hrule.at_most_one
  · rw [hzlps, Transfer.request_run]
    exact hrule.policy
  · rw [hzlps, Transfer.request_run, Transfer.received_run, Transfer.stages_run]
    exact hrule.after_data
  · rw [hzlps, Transfer.request_run, Transfer.before_run]
    intro hpolicy hzero c hc' hok
    rw [hc] at hc'
    cases hc'
    exact hsends hpolicy hzero hok

theorem Writing.run {t : Transfer} {s : Served} {qc : QueueContext} (hw : Writing t qc)
    (hnone : (t.run s).completion = none) : Writing (t.run s) qc where
  completion := hnone
  packet_ne := hw.packet_ne
  length_eq := by rw [Transfer.request_run]; exact hw.length_eq
  transferred_eq := by rw [Transfer.received_run]; exact hw.transferred_eq
  required_eq := by rw [Transfer.request_run]; exact hw.required_eq
  stages_ok := by rw [Transfer.stages_run]; exact hw.stages_ok
  stages_data := by rw [Transfer.stages_run]; exact hw.stages_data

theorem WritePhase.run {t : Transfer} {s : Served} {qc : QueueContext} {memory : StageMemory}
    (h : WritePhase t qc memory) : WritePhase (t.run s) qc memory := by
  cases h with
  | data hn hle hsent => exact .data hn hle (by rw [Transfer.before_run]; exact hsent)
  | zlp hpolicy hdone hsent => exact .zlp (by rw [Transfer.request_run]; exact hpolicy) hdone hsent

/-- A routine that does with its write what it should keeps the invariant. -/
theorem writeInv_settle {finished : List Transfer} {t : Transfer} {s : Served}
    (hpos : s.queue.info.maximumPacketSize ≠ 0 → 0 < s.queue.info.maximumTransferSize)
    (hfin : ∀ u ∈ finished, u.request.length ≠ 0 → ZlpRule u)
    (hout : t.request.length ≠ 0 → ZlpRule t ∧ WriteOutcome t s) :
    WriteInv (.settle finished t s) := by
  cases hc : (t.run s).completion with
  | some c =>
    rw [BulkQueue.settle_of_some hc]
    refine ⟨hpos, fun u hu hne => ?_, by simp⟩
    rcases List.mem_append.mp hu with hu | hu
    · exact hfin u hu hne
    · rw [List.mem_singleton.mp hu] at hne ⊢
      rw [Transfer.request_run] at hne
      obtain ⟨hrule, ⟨memory, hsend, hw, _⟩ | ⟨status, n, hend, hsends⟩⟩ := hout hne
      · rw [(Transfer.run_of_send hsend).1, hw.completion] at hc
        cases hc
      · exact zlpRule_run hrule hend hsends
  | none =>
    rw [BulkQueue.settle_of_none hc]
    refine ⟨hpos, hfin, fun u hu hne => ?_⟩
    cases hu
    rw [Transfer.request_run] at hne
    obtain ⟨_, ⟨memory, hsend, hw, hphase⟩ | ⟨status, n, hend, _⟩⟩ := hout hne
    · exact ⟨hw.run hc, memory, (Transfer.run_of_send hsend).2, hphase.run⟩
    · rw [(Transfer.run_of_complete hend).1] at hc
      cases hc

theorem writeInv_step {s s' : BulkQueue} {e : BulkEvent} (hinv : WriteInv s)
    (hstep : writeQueue.step s e = some s') : WriteInv s' := by
  rcases bulkQueue_step_cases hstep with
    ⟨fw, rc, rfl, hidle, rfl⟩ | ⟨fw, status, bytes, t, memory, rfl, hbusy, hpend, hmove, rfl⟩
  · refine writeInv_settle ?_ hinv.finished fun hne => ⟨?_, ?_⟩
    · have hinfo : (writeRoutines.submit fw rc s.queue).queue.info = s.queue.info :=
        info_xferWriteBulk fw rc s.queue
      rw [hinfo]
      exact hinv.transfer_pos
    · have hzero : (Transfer.start rc s.queue).zlps = 0 := rfl
      exact ⟨by omega, fun h => absurd hzero h, fun h => absurd hzero h,
        fun _ _ c hc => by cases hc⟩
    · exact writeOutcome_xferWriteBulk hne hinv.transfer_pos
  · refine writeInv_settle ?_ hinv.finished fun hne => ?_
    · have hinfo : (writeRoutines.complete fw t.request status bytes.length
          (writeRoutines.move s.queue memory bytes)).queue.info = s.queue.info :=
        info_xferWriteBulkComplete fw t.request s.queue status bytes.length
      rw [hinfo]
      exact hinv.transfer_pos
    · obtain ⟨hw, memory', hpend', hphase⟩ := hinv.current t hbusy hne
      cases hpend.symm.trans hpend'
      have hpos := hinv.transfer_pos hw.packet_ne
      exact ⟨hw.zlpRule_endStage hphase hmove,
        writeOutcome_xferWriteBulkComplete hw hphase hpos hmove⟩

/-- **A write sends a zero-length packet only under `ShortPacketTerminate`, only
after all its bytes and at most once; and it does so before it succeeds, if none
counted as sent before it.** -/
theorem writeQueue_zlpRule (q : WriteQueue) (es : List BulkEvent) :
    writeQueue.Always ZlpRules { queue := q.queue } es := by
  have hinit : WriteInv { queue := q.queue } := ⟨q.transfer_pos, by simp, by simp⟩
  exact Machine.always_of_step (fun s h => h.zlpRules)
    (fun s e s' hinv hstep => writeInv_step hinv hstep) es hinit

/-! ### Not only after whole packets, and not after every write -/

/-- The rule one might expect: a write that succeeds sends one zero-length packet
if its policy asks for it and its length is a multiple of the packet size, and
none otherwise. -/
def ZlpAfterWholePackets (s : BulkQueue) : Prop :=
  ∀ t ∈ s.requests, t.request.length ≠ 0 → t.completion.isSome = true →
    (∀ stage ∈ t.stages, ntSuccess stage.status = true) →
    t.zlps = if t.request.policies.shortPacketTerminate = true ∧
      t.request.length % t.before.info.maximumPacketSize = 0 then 1 else 0

/-- A queue of four-byte packets, as it is created. -/
def fourByteOutQueue : WriteQueue where
  queue := { info := ⟨4, 0x01, 0, .bulk, 64⟩ }
  transfer_pos := by decide

theorem length_le_threeByteWrite : 3 ≤ ([1, 2, 3] : List UInt8).length := by decide

theorem length_le_twoPacketWrites : 4 ≤ ([1, 2, 3, 4] : List UInt8).length := by decide

/-- A write of three bytes: its data, then a zero-length packet. -/
def threeByteWrite : List BulkEvent :=
  [.request {}
      { length := 3
        buffer := [1, 2, 3]
        length_le := length_le_threeByteWrite
        policies := { shortPacketTerminate := true } },
    .stageDone {} STATUS_SUCCESS [1, 2, 3], .stageDone {} STATUS_SUCCESS []]

/-- Two writes of one whole packet each; the second is over after its data. -/
def twoPacketWrites : List BulkEvent :=
  let rc : RequestContext :=
    { length := 4
      buffer := [1, 2, 3, 4]
      length_le := length_le_twoPacketWrites
      policies := { shortPacketTerminate := true } }
  [.request {} rc, .stageDone {} STATUS_SUCCESS [1, 2, 3, 4], .stageDone {} STATUS_SUCCESS [],
    .request {} rc, .stageDone {} STATUS_SUCCESS [1, 2, 3, 4]]

/-- A write that is no multiple of the packet size does get a zero-length packet,
and of two equal writes the second gets none. -/
theorem not_always_zlpAfterWholePackets :
    ¬writeQueue.Always ZlpAfterWholePackets { queue := fourByteOutQueue.queue } threeByteWrite ∧
    ¬writeQueue.Always ZlpAfterWholePackets { queue := fourByteOutQueue.queue }
      twoPacketWrites := by
  have hfail : ∀ (es : List BulkEvent) (s : BulkQueue),
      writeQueue.exec { queue := fourByteOutQueue.queue } es = some s →
      (∃ t ∈ s.requests, t.request.length ≠ 0 ∧ t.completion.isSome = true ∧
        (∀ stage ∈ t.stages, ntSuccess stage.status = true) ∧
        t.zlps ≠ if t.request.policies.shortPacketTerminate = true ∧
          t.request.length % t.before.info.maximumPacketSize = 0 then 1 else 0) →
      ¬writeQueue.Always ZlpAfterWholePackets { queue := fourByteOutQueue.queue } es := by
    rintro es s hs ⟨t, ht, hlen, hsome, hstages, hne⟩ h
    exact hne (h.exec hs t ht hlen hsome hstages)
  exact ⟨hfail _ _ rfl (by decide), hfail _ _ rfl (by decide)⟩

end LibusbK
