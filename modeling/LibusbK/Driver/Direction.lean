import LibusbK.Driver.DefaultQueue

/-!
# The direction of a transfer

A read or write code names a direction, and so does the address of the pipe the
request is forwarded to.  A pipe queue picks its transfer routine by the address
alone, so a request can be served by a transfer the other way.

## Main results

* `followsDirection_iff` — a request only leads to transfers in its own direction
  exactly when the pipe it finds has that direction or would move nothing.
-/

namespace LibusbK

/-! ### What a request leads to -/

/-- The direction of the transfer an effect starts: `true` is to the host. -/
def Effect.transferIn : Effect → Option Bool
  | .send .readBulk _ => some true
  | .send .readBulkRaw _ => some true
  | .send .writeBulk _ => some false
  | .send .writeBulkRaw _ => some false
  | .send _ (.urb urb) => some urb.directionIn
  | _ => none

/-- The completion routine an effect sets. -/
def Effect.routine : Effect → Option Routine
  | .send routine _ => some routine
  | _ => none

/-- All the effects of a request: those of its handlers, and those of the
completion routines as the I/O target calls them. -/
def life (rc : RequestContext) : List Effect → List TargetCompletion → List Effect
  | es, [] => es
  | es, c :: cs =>
    match es.findSome? Effect.routine with
    | none => es
    | some routine => es ++ life rc (routine.complete rc c).effects cs

/-- The caller wants data from the pipe. -/
def TransferKind.isRead : TransferKind → Bool
  | .ioctl ioControlCode => ioControlCode ∈ readCodes
  | .readFile _ => true
  | .writeFile _ => false

/-- The caller has data for the pipe. -/
def TransferKind.isWrite : TransferKind → Bool
  | .ioctl ioControlCode => ioControlCode ∈ writeCodes
  | .readFile _ => false
  | .writeFile _ => true

/-- A read never leads to an OUT transfer.  A write never leads to an IN transfer,
and is not completed with bytes that were in the over-run buffer already: no
handler reports any. -/
def FollowsDirection (s : DeviceState) (u : TransferRequest) : Prop :=
  ∀ a d, u.serve s a = some d →
    (u.kind.isRead = true → ∀ cs, ∀ e ∈ life d.rc d.effects cs, e.transferIn ≠ some false) ∧
      (u.kind.isWrite = true → (∀ cs, ∀ e ∈ life d.rc d.effects cs, e.transferIn ≠ some true) ∧
        ∀ status n, .complete status n ∈ d.effects → n = 0)

/-! ### The completion routines keep the direction -/

/-- The transfer a routine starts is the one it hands the request over to. -/
theorem Served.HandsOver.eq_send {routine : Routine} {s : Served} (h : s.HandsOver routine)
    {e : Effect} (he : e ∈ s.effects) {b : Bool} (hb : e.transferIn = some b) :
    ∃ memory, e = .send routine memory := by
  have hmem : e ∈ s.handoff := by
    refine List.mem_filter.mpr ⟨he, ?_⟩
    cases e <;> first | cases hb | rfl
  rcases h with ⟨memory, h⟩ | ⟨status, n, h⟩
  · rw [h, List.mem_singleton] at hmem
    exact ⟨memory, hmem⟩
  · rw [h, List.mem_singleton] at hmem
    rw [hmem] at hb
    cases hb

theorem transferIn_of_mem_complete {qc : QueueContext} {status : NTSTATUS} {n : ℕ} {e : Effect}
    (he : e ∈ (completeWithInformation qc status n).effects) : e.transferIn = none := by
  rw [effects_completeWithInformation, List.mem_singleton] at he
  rw [he]
  rfl

/-- A completion routine only starts transfers in the direction of its own. -/
theorem transferIn_complete {rc : RequestContext} {c : TargetCompletion} {routine : Routine}
    {e : Effect} (he : e ∈ (routine.complete rc c).effects) {b : Bool}
    (hb : e.transferIn = some b) (memory : StageMemory) :
    (Effect.send routine memory).transferIn = some b := by
  have hnot : ∀ {qc : QueueContext} {status : NTSTATUS} {n : ℕ},
      e ∈ (completeWithInformation qc status n).effects → False := by
    intro qc status n he
    rw [transferIn_of_mem_complete he] at hb
    cases hb
  cases routine with
  | readBulk =>
    obtain ⟨memory', rfl⟩ := (handsOver_xferReadBulkComplete _ _ _ _ _).eq_send he hb
    exact hb
  | writeBulk =>
    obtain ⟨memory', rfl⟩ := (handsOver_xferWriteBulkComplete _ _ _ _ _).eq_send he hb
    exact hb
  | readBulkRaw => exact (hnot he).elim
  | writeBulkRaw => exact (hnot he).elim
  | isoEx =>
    simp only [Routine.complete, xferIsoExComplete] at he
    split_ifs at he <;> exact (hnot he).elim
  | isoRd =>
    simp only [Routine.complete, xferIsoRdComplete] at he
    split at he
    · split at he <;> exact (hnot he).elim
    · exact (hnot he).elim
  | isoWr => exact (hnot he).elim
  | ctrl =>
    simp only [Routine.complete, xferCtrlComplete] at he
    split_ifs at he <;> exact (hnot he).elim

theorem transferIn_life {rc : RequestContext} {b : Bool} (cs : List TargetCompletion)
    {es : List Effect} (h : ∀ e ∈ es, e.transferIn ≠ some b) :
    ∀ e ∈ life rc es cs, e.transferIn ≠ some b := by
  induction cs generalizing es with
  | nil => exact h
  | cons c cs ih =>
    unfold life
    cases hfind : es.findSome? Effect.routine with
    | none => exact h
    | some routine =>
      intro e he
      rcases List.mem_append.mp he with he | he
      · exact h e he
      · refine ih (fun e' he' hb => ?_) e he
        obtain ⟨e₀, he₀, hroutine⟩ := List.exists_of_findSome?_eq_some hfind
        cases e₀ with
        | send r memory =>
          obtain rfl := Option.some.inj hroutine
          exact h _ he₀ (transferIn_complete he' hb memory)
        | _ => cases hroutine

/-! ### What a pipe queue moves -/

/-- An effect that moves no data and reports none moved. -/
def Effect.movesNothing : Effect → Bool
  | .resetPipe _ => true
  | .discard _ => true
  | .send _ _ => false
  | .complete _ n => n == 0

/-- A read from a bulk or interrupt pipe takes bytes from the over-run buffer or
from the device. -/
def ReadBulkMoves (rc : RequestContext) (qc : QueueContext) : Prop :=
  qc.info.maximumPacketSize ≠ 0 ∧
    if rc.policies.rawIO then rc.length % qc.info.maximumPacketSize = 0
    else qc.overMem = true ∧ rc.length ≠ 0 ∧
      (0 < qc.overOfs.bufferLength ∨ rc.policies.allowPartialReads = true ∨
        qc.info.maximumPacketSize ≤ min rc.length qc.info.maximumTransferSize)

/-- An isochronous read has room for a packet, or for a frame of them. -/
def IsoReadMoves (dc : DeviceContext) (rc : RequestContext) (qc : QueueContext) : Prop :=
  qc.info.maximumPacketSize ≠ 0 ∧
    (if dc.isHighSpeed then 8 else 1) ≤ asLong (rc.length / qc.info.maximumPacketSize)

/-- The pipe of a queue is an IN pipe. -/
abbrev QueueContext.isIn (qc : QueueContext) : Bool :=
  usbEndpointDirectionIn qc.info.endpointAddress

/-- A request with the given code moves data over the pipe of a queue, if the
framework plays along. -/
def MovesData (dc : DeviceContext) (rc : RequestContext) (qc : QueueContext)
    (ioControlCode : UInt32) : Prop :=
  if ioControlCode ∈ transferCodes then
    if qc.info.pipeType = .isochronous then
      if qc.isIn then IsoReadMoves dc rc qc
      else ∃ count, isoWriteNumberOfPackets dc rc qc = some (.ok count)
    else
      (qc.info.pipeType == .bulk || qc.info.pipeType == .interrupt) = true ∧
        if qc.isIn then ReadBulkMoves rc qc
        else qc.info.maximumPacketSize ≠ 0 ∨ rc.length = 0
  else ioControlCode ∈ isoExCodes ∧ qc.info.pipeType = .isochronous ∧ rc.isoContextSize ≠ none

section
variable (fw : Framework) (dc : DeviceContext) (rc : RequestContext) (qc : QueueContext)

/-- An invocation that moves nothing. -/
def Served.Idle (s : Served) : Prop := ∀ e ∈ s.effects, e.movesNothing = true

theorem idle_complete (status : NTSTATUS) : (completeWithInformation qc status 0).Idle := by
  intro e he
  rw [effects_completeWithInformation, List.mem_singleton] at he
  rw [he]
  rfl

theorem idle_exitWith {qc : QueueContext} (h : qc.xfer.transferred = 0) (status : NTSTATUS) :
    (exitWith qc status).Idle := by
  intro e he
  rw [effects_exitWith, List.mem_singleton, h] at he
  rw [he]
  rfl

theorem Served.Idle.after {s : Served} {es : List Effect} (h : s.Idle)
    (hes : ∀ e ∈ es, e.movesNothing = true) : (s.after es).Idle := by
  intro e he
  rcases List.mem_append.mp he with he | he
  · exact hes e he
  · exact h e he

theorem movesNothing_of_mem_handlePipeResetScenarios (e : Effect)
    (h : e ∈ (handlePipeResetScenarios fw rc qc).2) : e.movesNothing = true := by
  rw [eq_resetPipe_of_mem_handlePipeResetScenarios fw rc qc h]
  rfl

/-- A first stage that would not fill a packet, when partial reads are not allowed. -/
theorem idle_submitNextRead {qc : QueueContext} (hstart : qc.xfer.transferred = 0)
    (hshort : min qc.xfer.length qc.info.maximumTransferSize < qc.info.maximumPacketSize)
    (hallows : rc.policies.allowPartialReads = false) : (submitNextRead fw rc qc).Idle := by
  unfold submitNextRead
  dsimp only
  rw [hstart, Nat.sub_zero, if_pos hshort, if_pos (by simp [hallows])]
  exact idle_exitWith hstart _

theorem idle_xferReadBulk (h : ¬(qc.info.maximumPacketSize ≠ 0 ∧ qc.overMem = true ∧
    rc.length ≠ 0 ∧ (0 < qc.overOfs.bufferLength ∨ rc.policies.allowPartialReads = true ∨
      qc.info.maximumPacketSize ≤ min rc.length qc.info.maximumTransferSize))) :
    (xferReadBulk fw rc qc).Idle := by
  unfold xferReadBulk
  dsimp only
  split_ifs with _ _ hover hsize
  · exact idle_complete _ _
  · exact idle_complete _ _
  · exact idle_exitWith rfl _
  · exact idle_exitWith rfl _
  refine Served.Idle.after ?_ (movesNothing_of_mem_handlePipeResetScenarios _ _ _)
  have hxfer := xfer_handlePipeResetScenarios fw rc (qc.startXfer rc.length)
  have hinfo := info_handlePipeResetScenarios fw rc (qc.startXfer rc.length)
  have hofs := overOfs_handlePipeResetScenarios fw rc (qc.startXfer rc.length)
  generalize (handlePipeResetScenarios fw rc (qc.startXfer rc.length)).1 = qc' at *
  have hstart : qc'.xfer.transferred = 0 := congrArg Xfer.transferred hxfer
  have hlength : qc'.xfer.length = rc.length := congrArg Xfer.length hxfer
  unfold readBulkAfterReset
  split_ifs with hzero
  iterate 3 exact idle_exitWith hstart _
  have hover' : qc.overMem = true := by simpa [QueueContext.startXfer] using hover
  rw [hlength] at hzero
  have hnot : ¬(0 < qc.overOfs.bufferLength ∨ rc.policies.allowPartialReads = true ∨
      qc.info.maximumPacketSize ≤ min rc.length qc.info.maximumTransferSize) :=
    fun hor => h ⟨hsize, hover', hzero, hor⟩
  rw [not_or, not_or] at hnot
  obtain ⟨hleft, hallows, hshort⟩ := hnot
  unfold readBulkFromUserMem
  have hofs' : (qc'.setUserMem rc.buffer).overOfs = qc.overOfs := hofs
  rw [hofs', if_neg hleft]
  apply idle_submitNextRead
  · exact hstart
  · change min qc'.xfer.length qc'.info.maximumTransferSize < qc'.info.maximumPacketSize
    rw [hlength, hinfo]
    exact Nat.lt_of_not_le hshort
  · simpa using hallows

theorem idle_xferReadBulkRaw (h : ¬(qc.info.maximumPacketSize ≠ 0 ∧
    rc.length % qc.info.maximumPacketSize = 0)) : (xferReadBulkRaw fw rc qc).Idle := by
  unfold xferReadBulkRaw
  dsimp only
  split_ifs with _ _ hsize hmod
  iterate 5 exact idle_complete _ _
  exact absurd ⟨hsize, by omega⟩ h

theorem idle_readBulk {d : Delivery} (h : ¬ReadBulkMoves d.rc d.qc) : d.readBulk.Idle := by
  unfold ReadBulkMoves at h
  unfold Delivery.readBulk
  split_ifs with hraw
  · rw [if_pos hraw] at h
    exact idle_xferReadBulkRaw _ _ _ h
  · rw [if_neg hraw] at h
    exact idle_xferReadBulk _ _ _ h

theorem idle_writeBulk {d : Delivery}
    (h : ¬(d.qc.info.maximumPacketSize ≠ 0 ∨ d.rc.length = 0)) : d.writeBulk.Idle := by
  have hempty : d.qc.info.maximumPacketSize = 0 ∧ d.rc.length ≠ 0 := by
    rwa [not_or, ne_eq, not_not] at h
  unfold Delivery.writeBulk
  split_ifs
  · unfold xferWriteBulkRaw
    dsimp only
    rw [if_pos hempty]
    split_ifs <;> exact idle_complete _ _
  · unfold xferWriteBulk
    dsimp only
    rw [if_pos (show (d.qc.startXfer d.rc.length).info.maximumPacketSize = 0 ∧
      (d.qc.startXfer d.rc.length).xfer.length ≠ 0 from hempty)]
    split_ifs
    · exact idle_complete _ _
    · exact idle_complete _ _
    · exact idle_exitWith rfl _

/-- A number rounded down to a multiple of 8, as C rounds it, is positive from 8 on. -/
theorem sub_tmod_pos_iff {n : ℤ} : 0 < n - n.tmod 8 ↔ 8 ≤ n := by
  rcases Int.le_total 0 n with hn | hn
  · rw [Int.tmod_eq_emod_of_nonneg hn]
    omega
  · have hneg : n.tmod 8 = -((-n) % 8) := by
      rw [← Int.tmod_eq_emod_of_nonneg (by omega), Int.neg_tmod, Int.neg_neg]
    rw [hneg]
    omega

theorem isoReadMoves_of_isoReadUrb {fw : Framework} {dc : DeviceContext} {rc : RequestContext}
    {qc : QueueContext} {urb : IsoUrb}
    (h : isoReadUrb fw dc rc qc = .ok urb) :
    IsoReadMoves dc rc qc ∧ urb.directionIn = true := by
  unfold isoReadUrb at h
  dsimp only at h
  split_ifs at h with _ _ _ hsize hhs hcount hmdl hmem
  all_goals obtain rfl := Except.ok.inj h
  · refine ⟨⟨hsize, ?_⟩, rfl⟩
    rw [if_pos hhs]
    exact sub_tmod_pos_iff.mp (by omega)
  · refine ⟨⟨hsize, ?_⟩, rfl⟩
    rw [if_neg hhs]
    omega

theorem idle_xferIsoRead (h : ¬IsoReadMoves dc rc qc) : (xferIsoRead fw dc rc qc).Idle := by
  rw [xferIsoRead_eq]
  cases hurb : isoReadUrb fw dc rc qc with
  | error status => exact idle_complete _ _
  | ok urb => exact absurd (isoReadMoves_of_isoReadUrb hurb).1 h

theorem idle_xferIsoWrite {s : Served} (hs : xferIsoWrite fw dc rc qc = some s)
    (h : ¬∃ count, isoWriteNumberOfPackets dc rc qc = some (.ok count)) : s.Idle := by
  rw [xferIsoWrite_eq] at hs
  obtain ⟨urb, hurb, rfl⟩ := Option.map_eq_some_iff.mp hs
  cases urb with
  | error status => exact idle_complete _ _
  | ok urb =>
    obtain ⟨-, count, hcount, -⟩ := exists_count_of_isoWriteUrb hurb
    exact absurd ⟨count, hcount⟩ h

theorem idle_isoEx {d : Delivery}
    (h : ¬(d.qc.info.pipeType = .isochronous ∧ d.rc.isoContextSize ≠ none)) : d.isoEx.Idle := by
  unfold Delivery.isoEx
  split_ifs with hiso
  · have hnone : d.rc.isoContextSize = none := by
      by_contra hsome
      exact h ⟨hiso, hsome⟩
    have hfail : ntSuccess (isoExStatus d.fw d.dc d.rc d.reads) = false := by
      unfold isoExStatus
      dsimp only
      rw [if_pos hnone]
      split_ifs with hctx
      · simpa using hctx
      · rfl
      · rfl
    unfold xferIsoEx
    dsimp only
    rw [if_pos (by simp [hfail])]
    exact idle_complete _ _
  · exact idle_complete _ _

/-! ### What a pipe queue moves, it moves in its own direction -/

/-- An invocation that starts transfers in the direction `b` only, and an IN one
if it reports bytes. -/
structure Served.Toward (b : Bool) (s : Served) : Prop where
  transfers : ∀ e ∈ s.effects, e.transferIn ≠ some !b
  reports : b = false → ∀ status n, .complete status n ∈ s.effects → n = 0

theorem Served.Idle.toward {s : Served} (h : s.Idle) (b : Bool) : s.Toward b := by
  refine ⟨fun e he hb => ?_, fun _ status n he => ?_⟩
  · have := h e he
    cases e <;> first | cases hb | cases this
  · simpa [Effect.movesNothing] using h _ he

theorem Served.HandsOver.toward {routine : Routine} {s : Served} (h : s.HandsOver routine)
    {b : Bool} (hb : ∀ memory, (Effect.send routine memory).transferIn = some b)
    (hreports : b = false → ∀ status n, .complete status n ∈ s.effects → n = 0) : s.Toward b := by
  refine ⟨fun e he hnot => ?_, hreports⟩
  obtain ⟨memory, rfl⟩ := h.eq_send he hnot
  rw [hb memory] at hnot
  cases b <;> cases hnot

theorem Served.Toward.after {b : Bool} {s : Served} {es : List Effect} (h : s.Toward b)
    (hes : ∀ e ∈ es, e.movesNothing = true) : (s.after es).Toward b := by
  have hidle := Served.Idle.toward (s := ⟨s.queue, es⟩) hes b
  refine ⟨fun e he => ?_, fun hb status n he => ?_⟩
  · rcases List.mem_append.mp he with he | he
    · exact hidle.transfers e he
    · exact h.transfers e he
  · rcases List.mem_append.mp he with he | he
    · exact hidle.reports hb status n he
    · exact h.reports hb status n he

theorem Delivery.toward_readBulk (d : Delivery) : d.readBulk.Toward true := by
  unfold Delivery.readBulk
  split_ifs
  · exact (handsOver_xferReadBulkRaw _ _ _).toward (fun _ => rfl) (fun h => by cases h)
  · exact (handsOver_xferReadBulk _ _ _).toward (fun _ => rfl) (fun h => by cases h)

theorem toward_submitNextWrite {qc : QueueContext} (h : qc.xfer.transferred = 0) :
    (submitNextWrite fw rc qc).Toward false := by
  refine (handsOver_submitNextWrite fw rc qc).toward (fun _ => rfl) fun _ status n he => ?_
  unfold submitNextWrite submitStage at he
  split at he
  · exact (Served.Idle.toward (idle_exitWith h _) false).reports rfl status n he
  · rw [List.mem_singleton] at he
    cases he

theorem toward_submitRaw (memory : StageMemory) :
    (submitRaw fw rc qc .writeBulkRaw memory).Toward false := by
  refine (handsOver_submitRaw fw rc qc .writeBulkRaw memory).toward (fun _ => rfl)
    fun _ status n he => ?_
  unfold submitRaw at he
  split at he
  · exact (Served.Idle.toward (idle_complete _ _) false).reports rfl status n he
  · rw [List.mem_singleton] at he
    cases he

theorem Delivery.toward_writeBulk (d : Delivery) : d.writeBulk.Toward false := by
  unfold Delivery.writeBulk
  split_ifs
  · unfold xferWriteBulkRaw
    dsimp only
    split_ifs
    iterate 4 exact (idle_complete _ _).toward _
    all_goals exact toward_submitRaw _ _ _ _
  · unfold xferWriteBulk
    dsimp only
    split_ifs
    · exact (idle_complete _ _).toward _
    · exact (idle_complete _ _).toward _
    · exact (idle_exitWith rfl _).toward _
    · refine Served.Toward.after ?_ (movesNothing_of_mem_handlePipeResetScenarios _ _ _)
      have hxfer := xfer_handlePipeResetScenarios d.fw d.rc (d.qc.startXfer d.rc.length)
      have hstart := congrArg Xfer.transferred hxfer
      unfold writeBulkAfterReset
      dsimp only
      split_ifs
      · exact (idle_exitWith hstart _).toward _
      all_goals exact toward_submitNextWrite _ _ hstart

/-- An URB is sent in its own direction. -/
theorem toward_submitUrb {routine : Routine} {urb : IsoUrb} {b : Bool} (hb : urb.directionIn = b)
    (h : (Effect.send routine (.urb urb)).transferIn = some urb.directionIn) :
    (submitUrb fw qc routine urb).Toward b := by
  subst hb
  unfold submitUrb
  split_ifs
  · exact (idle_complete _ _).toward _
  · refine ⟨fun e he hnot => ?_, fun _ status n he => ?_⟩
    · rw [List.mem_singleton] at he
      rw [he, h] at hnot
      cases hb : urb.directionIn <;> simp [hb] at hnot
    · rw [List.mem_singleton] at he
      cases he
  · exact (idle_complete _ _).toward _

theorem directionIn_isoSetStartFrame (isHS : Bool) (urb : IsoUrb) :
    (isoSetStartFrame fw isHS rc urb qc).2.directionIn = urb.directionIn := by
  unfold isoSetStartFrame
  dsimp only
  split_ifs <;> rfl

theorem toward_frameAndSubmit {routine : Routine} {urb : IsoUrb} {b : Bool}
    (hb : urb.directionIn = b)
    (h : ∀ urb, (Effect.send routine (.urb urb)).transferIn = some urb.directionIn) :
    (frameAndSubmit fw dc rc qc routine urb).Toward b := by
  refine Served.Toward.after ?_ (movesNothing_of_mem_handlePipeResetScenarios _ _ _)
  exact toward_submitUrb _ _ ((directionIn_isoSetStartFrame _ _ _ _ _).trans hb) (h _)

theorem toward_xferIsoRead : (xferIsoRead fw dc rc qc).Toward true := by
  rw [xferIsoRead_eq]
  cases hurb : isoReadUrb fw dc rc qc with
  | error status => exact (idle_complete _ _).toward _
  | ok urb =>
    exact toward_frameAndSubmit _ _ _ _ (isoReadMoves_of_isoReadUrb hurb).2 fun _ => rfl

theorem toward_xferIsoWrite {s : Served} (hs : xferIsoWrite fw dc rc qc = some s) :
    s.Toward false := by
  rw [xferIsoWrite_eq] at hs
  obtain ⟨urb, hurb, rfl⟩ := Option.map_eq_some_iff.mp hs
  cases urb with
  | error status => exact (idle_complete _ _).toward _
  | ok urb =>
    obtain ⟨-, -, -, hdirection, -⟩ := exists_count_of_isoWriteUrb hurb
    exact toward_frameAndSubmit _ _ _ _ hdirection fun _ => rfl

theorem toward_xferIsoEx (reads : IsoContextReads) :
    (xferIsoEx fw dc rc qc reads).1.Toward (usbEndpointDirectionIn qc.info.endpointAddress) := by
  have hreset := movesNothing_of_mem_handlePipeResetScenarios fw rc qc
  unfold xferIsoEx
  dsimp only
  by_cases hstatus : (!ntSuccess (isoExStatus fw dc rc reads)) = true
  · rw [if_pos hstatus]
    exact (idle_complete _ _).toward _
  · rw [if_neg hstatus]
    split
    · exact ((idle_complete _ _).after hreset).toward _
    · refine Served.Toward.after (toward_submitUrb _ _ ?_ rfl) hreset
      cases reads.hasStartFrame with
      | false => exact directionIn_isoSetStartFrame _ _ _ _ _
      | true => rfl

theorem toward_isoEx (d : Delivery) : d.isoEx.Toward d.isIn := by
  unfold Delivery.isoEx
  split_ifs
  · exact toward_xferIsoEx _ _ _ _ _
  · exact (idle_complete _ _).toward _

end

/-- What a handler does is in the direction of the pipe, and nothing unless there
is data to move. -/
structure ServedToward (d : Delivery) (moves : Prop) (served : Served) : Prop where
  toward : served.Toward d.isIn
  idle : ¬moves → served.Idle

theorem Served.Idle.servedToward {served : Served} (h : served.Idle) (d : Delivery)
    (moves : Prop) : ServedToward d moves served :=
  ⟨h.toward _, fun _ => h⟩

theorem pipeQueueOnIoControl_toward {d : Delivery} {ioControlCode : UInt32} {served : Served}
    (h : pipeQueueOnIoControl d ioControlCode = some served)
    (hcode : ioControlCode ∉ controlCodes) :
    ServedToward d (MovesData d.dc d.rc d.qc ioControlCode) served := by
  unfold pipeQueueOnIoControl at h
  dsimp only at h
  split at h
  · cases h
    exact (idle_complete _ _).servedToward _ _
  split at h
  · cases h
    exact (idle_complete _ _).servedToward _ _
  unfold MovesData
  rw [show d.qc.isIn = d.isIn from rfl]
  by_cases hplain : ioControlCode ∈ transferCodes
  · rw [if_pos hplain] at h ⊢
    by_cases hiso : d.qc.info.pipeType = .isochronous
    · rw [if_pos hiso] at h ⊢
      cases hin : d.isIn with
      | true =>
        rw [hin, if_pos rfl] at h
        cases h
        exact ⟨hin ▸ toward_xferIsoRead _ _ _ _, idle_xferIsoRead _ _ _ _⟩
      | false =>
        rw [hin, if_neg (by simp)] at h
        rw [if_neg (by simp)]
        exact ⟨hin ▸ toward_xferIsoWrite _ _ _ _ h, idle_xferIsoWrite _ _ _ _ h⟩
    · rw [if_neg hiso] at h ⊢
      split at h
      · next hbulk =>
        rw [show (d.qc.info.pipeType == .bulk || d.qc.info.pipeType == .interrupt) = d.isBulk
          from rfl, and_iff_right hbulk]
        cases h
        cases hin : d.isIn with
        | true =>
          refine ⟨?_, idle_readBulk⟩
          rw [hin]
          exact d.toward_readBulk
        | false =>
          refine ⟨?_, idle_writeBulk⟩
          rw [hin]
          exact d.toward_writeBulk
      · cases h
        exact ⟨toward_isoEx d, fun _ => idle_isoEx fun hex => hiso hex.1⟩
  · rw [if_neg hplain] at h ⊢
    split at h
    · next hex =>
      cases h
      rw [and_iff_right hex]
      exact ⟨toward_isoEx d, idle_isoEx⟩
    · cases h
      exact (idle_complete _ _).servedToward _ _

/-! ### If there is data to move, it can move -/

/-- An invocation that starts a transfer in the direction `b`, or reports bytes
read. -/
def Served.Moves (b : Bool) (s : Served) : Prop :=
  (∃ e ∈ s.effects, e.transferIn = some b) ∨
    (b = true ∧ ∃ status n, .complete status n ∈ s.effects ∧ n ≠ 0)

section
variable {dc : DeviceContext} {rc : RequestContext} {qc : QueueContext}

theorem formatAndSubmit_default (rc : RequestContext) : formatAndSubmit {} rc = .ok () := by
  apply submissionFails_eq_false.mp
  unfold submissionFails setRequestTimeout
  split_ifs <;> rfl

theorem moves_submitStage {routine : Routine} {memory : StageMemory} {b : Bool}
    (h : (Effect.send routine memory).transferIn = some b) :
    (submitStage {} rc qc routine memory).Moves b := by
  unfold submitStage
  rw [formatAndSubmit_default]
  exact .inl ⟨_, List.mem_singleton_self _, h⟩

theorem moves_submitRaw {routine : Routine} {memory : StageMemory} {b : Bool}
    (h : (Effect.send routine memory).transferIn = some b) :
    (submitRaw {} rc qc routine memory).Moves b := by
  unfold submitRaw
  rw [formatAndSubmit_default]
  exact .inl ⟨_, List.mem_singleton_self _, h⟩

theorem Served.Moves.after {b : Bool} {s : Served} (h : s.Moves b) (es : List Effect) :
    (s.after es).Moves b := by
  rcases h with ⟨e, he, hb⟩ | ⟨hb, status, n, he, hn⟩
  · exact .inl ⟨e, List.mem_append_right _ he, hb⟩
  · exact .inr ⟨hb, status, n, List.mem_append_right _ he, hn⟩

theorem moves_exitWith (h : qc.xfer.transferred ≠ 0) (status : NTSTATUS) :
    (exitWith qc status).Moves true :=
  .inr ⟨rfl, status, _, List.mem_singleton_self _, h⟩

/-- Bytes are in the user's memory already, or the next stage can be submitted. -/
theorem moves_submitNextRead (h : qc.xfer.transferred ≠ 0 ∨ rc.policies.allowPartialReads = true ∨
    qc.info.maximumPacketSize ≤
      min (qc.xfer.length - qc.xfer.transferred) qc.info.maximumTransferSize) :
    (submitNextRead {} rc qc).Moves true := by
  unfold submitNextRead
  dsimp only
  split_ifs with hshort hallows
  · rcases h with h | h | h
    · exact moves_exitWith h _
    · simp [h] at hallows
    · omega
  · exact moves_submitStage rfl
  · exact moves_submitStage rfl

theorem moves_readBulkFromUserMem (hstart : qc.xfer.transferred = 0) (hlength : qc.xfer.length ≠ 0)
    (h : 0 < qc.overOfs.bufferLength ∨ rc.policies.allowPartialReads = true ∨
      qc.info.maximumPacketSize ≤ min qc.xfer.length qc.info.maximumTransferSize) :
    (readBulkFromUserMem {} rc qc).Moves true := by
  unfold readBulkFromUserMem
  dsimp only
  split_ifs with hover
  · have hcopied : (qc.copied (qc.overBuf.drop qc.overOfs.bufferOffset)
        (min qc.overOfs.bufferLength
          (qc.xfer.length - qc.xfer.transferred))).xfer.transferred ≠ 0 := by
      rw [QueueContext.transferred_copied]
      omega
    unfold copyPartialReadToUserMemory
    rw [if_neg (by decide)]
    dsimp only
    split_ifs
    · unfold exitTransferred
      split_ifs
      · exact (moves_exitWith hcopied _).after _
      · exact moves_exitWith hcopied _
    · exact moves_submitNextRead (.inl hcopied)
  · apply moves_submitNextRead
    rw [hstart, Nat.sub_zero]
    exact .inr (h.resolve_left hover)

theorem validateRequestContext_default (h : rc.queueContext = true) :
    ntSuccess (validateRequestContext {} rc) = true :=
  ntSuccess_validateRequestContext.mpr ⟨rfl, h⟩

theorem moves_xferReadBulk (hrc : rc.queueContext = true) (hsize : qc.info.maximumPacketSize ≠ 0)
    (hover : qc.overMem = true) (hlength : rc.length ≠ 0)
    (h : 0 < qc.overOfs.bufferLength ∨ rc.policies.allowPartialReads = true ∨
      qc.info.maximumPacketSize ≤ min rc.length qc.info.maximumTransferSize) :
    (xferReadBulk {} rc qc).Moves true := by
  unfold xferReadBulk
  dsimp only
  rw [if_neg (by simp [validateRequestContext_default hrc]), if_neg (by simp),
    if_neg (show ¬(!(qc.startXfer rc.length).overMem) = true by
      simp [QueueContext.startXfer, hover]),
    if_neg (show ¬(qc.startXfer rc.length).info.maximumPacketSize = 0 from hsize)]
  apply Served.Moves.after
  have hxfer := xfer_handlePipeResetScenarios {} rc (qc.startXfer rc.length)
  have hinfo := info_handlePipeResetScenarios {} rc (qc.startXfer rc.length)
  have hofs := overOfs_handlePipeResetScenarios {} rc (qc.startXfer rc.length)
  generalize (handlePipeResetScenarios {} rc (qc.startXfer rc.length)).1 = qc' at *
  have hstart : qc'.xfer.transferred = 0 := congrArg Xfer.transferred hxfer
  have hlength' : qc'.xfer.length = rc.length := congrArg Xfer.length hxfer
  unfold readBulkAfterReset
  rw [if_neg (by rwa [hlength']), if_neg (by decide)]
  apply moves_readBulkFromUserMem
  · exact hstart
  · rwa [QueueContext.length_setUserMem, hlength']
  · rw [show (qc'.setUserMem rc.buffer).overOfs = qc.overOfs from hofs,
      QueueContext.length_setUserMem, hlength',
      show (qc'.setUserMem rc.buffer).info = qc.info from hinfo]
    exact h

theorem moves_xferReadBulkRaw (hrc : rc.queueContext = true)
    (hsize : qc.info.maximumPacketSize ≠ 0) (hmod : rc.length % qc.info.maximumPacketSize = 0) :
    (xferReadBulkRaw {} rc qc).Moves true := by
  unfold xferReadBulkRaw
  dsimp only
  rw [if_neg (by simp [validateRequestContext_default hrc]), if_neg (by simp), if_neg hsize,
    if_neg (by omega), if_neg (by decide)]
  exact moves_submitRaw rfl

theorem moves_readBulk {reads : IsoContextReads} {n : ℕ} (hrc : rc.queueContext = true)
    (h : ReadBulkMoves rc qc) : (Delivery.mk {} dc rc qc reads n).readBulk.Moves true := by
  obtain ⟨hsize, h⟩ := h
  unfold Delivery.readBulk
  dsimp only
  split_ifs with hraw
  · rw [if_pos hraw] at h
    exact moves_xferReadBulkRaw hrc hsize h
  · rw [if_neg hraw] at h
    exact moves_xferReadBulk hrc hsize h.1 h.2.1 h.2.2

theorem moves_writeBulk {reads : IsoContextReads} {n : ℕ} (hrc : rc.queueContext = true)
    (h : qc.info.maximumPacketSize ≠ 0 ∨ rc.length = 0) :
    (Delivery.mk {} dc rc qc reads n).writeBulk.Moves false := by
  have hfits : ¬(qc.info.maximumPacketSize = 0 ∧ rc.length ≠ 0) := by
    rintro ⟨hsize, hlength⟩
    exact h.elim (fun h => h hsize) hlength
  unfold Delivery.writeBulk
  dsimp only
  split_ifs
  · unfold xferWriteBulkRaw
    dsimp only
    rw [if_neg (by simp [validateRequestContext_default hrc]), if_neg (by simp), if_neg hfits,
      if_neg (fun hfail => absurd hfail.2 (by decide))]
    exact moves_submitRaw rfl
  · unfold xferWriteBulk
    dsimp only
    rw [if_neg (by simp [validateRequestContext_default hrc]), if_neg (by simp),
      if_neg (show ¬((qc.startXfer rc.length).info.maximumPacketSize = 0 ∧
        (qc.startXfer rc.length).xfer.length ≠ 0) from hfits)]
    apply Served.Moves.after
    unfold writeBulkAfterReset
    dsimp only
    split_ifs with _ hmem
    · cases hmem
    all_goals exact moves_submitStage rfl

theorem moves_submitUrb {routine : Routine} {urb : IsoUrb} {b : Bool} (hb : urb.directionIn = b)
    (h : (Effect.send routine (.urb urb)).transferIn = some urb.directionIn) :
    (submitUrb {} qc routine urb).Moves b := by
  unfold submitUrb
  rw [if_neg (by decide), if_pos (by decide)]
  exact .inl ⟨_, List.mem_singleton_self _, hb ▸ h⟩

theorem moves_xferIsoRead (hrc : rc.queueContext = true) (h : IsoReadMoves dc rc qc) :
    (xferIsoRead {} dc rc qc).Moves true := by
  obtain ⟨hsize, h⟩ := h
  unfold xferIsoRead
  dsimp only
  rw [if_neg (by simp [validateRequestContext_default hrc]), if_neg (by simp), if_neg (by simp),
    if_neg hsize, if_neg, if_neg (by decide), if_neg (by decide)]
  · apply Served.Moves.after
    exact moves_submitUrb (directionIn_isoSetStartFrame _ _ _ _ _) rfl
  · split_ifs at h ⊢
    · have := sub_tmod_pos_iff.mpr h
      omega
    · omega

theorem moves_xferIsoWrite (hrc : rc.queueContext = true) {count : ℕ}
    (h : isoWriteNumberOfPackets dc rc qc = some (.ok count)) :
    ∃ served, xferIsoWrite {} dc rc qc = some served ∧ served.Moves false := by
  obtain ⟨urb, hurb⟩ := exists_isoWriteUrb_of_count hrc h
  obtain ⟨-, -, -, hdirection, -⟩ := exists_count_of_isoWriteUrb hurb
  rw [xferIsoWrite_eq, hurb]
  refine ⟨_, rfl, ?_⟩
  apply Served.Moves.after
  exact moves_submitUrb ((directionIn_isoSetStartFrame _ _ _ _ _).trans hdirection) rfl

/-- A packet context of eight packets that loses them before they are copied. -/
def vanishingPackets : IsoContextReads where
  zeroTest := 8
  signTest := 8
  highSpeedTest := 8
  urbSize := 8
  initUrb := 8
  copyLoop _ := 0
  offsetTested _ := 0
  offsetAssigned _ := 0

theorem moves_isoEx {n : ℕ} (hrc : rc.queueContext = true)
    (hiso : qc.info.pipeType = .isochronous) (h : rc.isoContextSize ≠ none) :
    (Delivery.mk {} dc rc qc vanishingPackets n).isoEx.Moves qc.isIn := by
  have hstatus : isoExStatus {} dc rc vanishingPackets = STATUS_SUCCESS := by
    unfold isoExStatus
    dsimp only
    rw [if_neg (by simp [validateRequestContext_default hrc]), if_neg (by simp), if_neg h,
      if_neg (by simp), if_neg (by simp), if_neg (by decide),
      if_neg (fun hhs => absurd hhs.2 (by decide)), if_neg (by decide)]
  have hcopy : isoPacketsToUrb vanishingPackets rc.length 0 = (some [], []) := by
    unfold isoPacketsToUrb
    rfl
  unfold Delivery.isoEx
  dsimp only
  rw [if_pos hiso]
  unfold xferIsoEx
  dsimp only
  rw [hstatus, if_neg (by simp), hcopy]
  apply Served.Moves.after
  exact moves_submitUrb (directionIn_isoSetStartFrame _ _ _ _ _) rfl

theorem moves_pipeQueueOnIoControl {ioControlCode : UInt32} (n : ℕ)
    (hrc : rc.queueContext = true) (h : MovesData dc rc qc ioControlCode) :
    ∃ served, pipeQueueOnIoControl ⟨{}, dc, rc, qc, vanishingPackets, n⟩ ioControlCode =
      some served ∧ served.Moves qc.isIn := by
  unfold MovesData at h
  unfold pipeQueueOnIoControl
  dsimp only
  rw [if_neg (by simp [validateRequestContext_default hrc]), if_neg (by simp)]
  by_cases hplain : ioControlCode ∈ transferCodes
  · rw [if_pos hplain] at h ⊢
    by_cases hiso : qc.info.pipeType = .isochronous
    · rw [if_pos hiso] at h ⊢
      change ∃ served, (if qc.isIn then _ else _) = _ ∧ _
      cases hin : qc.isIn with
      | true =>
        rw [hin, if_pos rfl] at h
        exact ⟨_, rfl, moves_xferIsoRead hrc h⟩
      | false =>
        rw [hin, if_neg (by simp)] at h
        obtain ⟨count, hcount⟩ := h
        rw [if_neg (by simp)]
        exact moves_xferIsoWrite hrc hcount
    · rw [if_neg hiso] at h ⊢
      obtain ⟨hbulk, h⟩ := h
      change ∃ served, (if (qc.info.pipeType == .bulk || qc.info.pipeType == .interrupt) = true
        then some (if qc.isIn then _ else _) else _) = _ ∧ _
      rw [if_pos hbulk]
      refine ⟨_, rfl, ?_⟩
      cases hin : qc.isIn with
      | true =>
        rw [hin, if_pos rfl] at h
        exact moves_readBulk hrc h
      | false =>
        rw [hin, if_neg (by simp)] at h
        exact moves_writeBulk hrc h
  · rw [if_neg hplain] at h ⊢
    rw [if_pos h.1]
    exact ⟨_, rfl, moves_isoEx hrc h.2.1 h.2.2⟩

end

/-! ### The queue a request finds -/

/-- The queue context a request for the pipe `k` finds: that of its queue, or a new
one if the queue is dirty and there is a pipe. -/
def foundContext (s : DeviceState) (k : Fin 32) : Option QueueContext :=
  let pc := s.pipes k
  let current := (pc.queue.bind s.queues.get).map QueueObject.context
  if !pc.isValid || pc.queue.isNone then none
  else if pc.isQueueDirty then
    if !pc.canStart then none
    else if pc.pipeInformation.hasNumber then some (newQueueContext pc)
    else current
  else current

/-- The pipe context of a request keeps what its request context is filled in from. -/
structure Refreshed (s : DeviceState) (k : Fin 32) (s' : DeviceState) : Prop where
  found : ((s'.pipes k).queue.bind s'.queues.get).map QueueObject.context = foundContext s k
  policies : (s'.pipes k).policies = (s.pipes k).policies
  timeoutPolicy : (s'.pipes k).timeoutPolicy = (s.pipes k).timeoutPolicy

theorem pipeRefreshQueue_of_valid {s : DeviceState} {k : Fin 32} (a : StartAnswers)
    (h : (s.pipes k).isValid = true) : pipeRefreshQueue s k a =
      pipeStart (s.setPipe k { s.pipes k with isValid := false }) k false a := by
  unfold pipeRefreshQueue pipeStop
  rw [if_pos h]
  rfl

theorem refreshed_pipeRefreshQueue {s : DeviceState} {k : Fin 32} {a : StartAnswers} {q : ℕ}
    (hvalid : (s.pipes k).isValid = true) (hq : (s.pipes k).queue = some q)
    (hdirty : (s.pipes k).isQueueDirty = true)
    (h : ntSuccess (pipeRefreshQueue s k a).2 = true) :
    Refreshed s k (pipeRefreshQueue s k a).1 := by
  rw [pipeRefreshQueue_of_valid a hvalid] at h ⊢
  let s₁ := s.setPipe k { s.pipes k with isValid := false }
  have hself : s₁.pipes k = { s.pipes k with isValid := false } := Function.update_self _ _ _
  have hneeds : (s₁.pipes k).needsQueue = (s.pipes k).pipeInformation.hasNumber := by
    unfold PipeContext.needsQueue
    rw [hself, hq, hdirty]
    simp
  rw [ntSuccess_pipeStart, Bool.and_eq_true] at h
  have hstarts : (s₁.pipes k).starts a = true := h.2
  unfold PipeContext.starts at hstarts
  rw [Bool.and_eq_true] at hstarts
  obtain ⟨hstart, hqueue⟩ := hstarts
  have hcan : (s.pipes k).canStart = true := by
    rw [hself] at hstart
    exact hstart
  have hfound : foundContext s k =
      if (s.pipes k).pipeInformation.hasNumber then some (newQueueContext (s.pipes k))
      else ((s.pipes k).queue.bind s.queues.get).map QueueObject.context := by
    unfold foundContext
    dsimp only
    rw [if_neg (by simp [hvalid, hq]), if_pos hdirty, if_neg (by simp [hcan])]
  have hs := pipeStarted_pipeStart s₁ k false a
  change Refreshed s k (pipeStart s₁ k false a).1
  generalize (pipeStart s₁ k false a).1 = s' at hs
  cases hs with
  | refused hinvalid =>
    rw [hself] at hinvalid
    cases hinvalid
  | noPipe _ hnot =>
    rw [hstart] at hnot
    cases hnot
  | noQueue queues _ _ hn hc hget => simp [hn, hc] at hqueue
  | created _ _ hn hc =>
    have hnumber : (s.pipes k).pipeInformation.hasNumber = true := hneeds.symm.trans hn
    rw [hself]
    refine ⟨?_, ?_, ?_⟩
    · rw [hfound, hnumber, DeviceState.pipes_setPipe, Function.update_self]
      exact congrArg (Option.map QueueObject.context) (Objects.get_create_self _ _)
    · rw [DeviceState.pipes_setPipe, Function.update_self]
    · rw [DeviceState.pipes_setPipe, Function.update_self]
  | kept _ _ hn =>
    have hnumber : (s.pipes k).pipeInformation.hasNumber = false := hneeds.symm.trans hn
    rw [hself]
    refine ⟨?_, ?_, ?_⟩
    · rw [hfound, hnumber, DeviceState.pipes_setPipe, Function.update_self]
      rfl
    · rw [DeviceState.pipes_setPipe, Function.update_self]
    · rw [DeviceState.pipes_setPipe, Function.update_self]

theorem refreshed_refreshForRequest {s : DeviceState} {pipeID : UInt8} {a : StartAnswers}
    (h : ntSuccess (refreshForRequest s pipeID a).2 = true) :
    Refreshed s (pipeSlot pipeID) (refreshForRequest s pipeID a).1 := by
  unfold refreshForRequest at h ⊢
  dsimp only at h ⊢
  generalize pipeSlot pipeID = k at h ⊢
  by_cases hnone : (!(s.pipes k).isValid || (s.pipes k).queue.isNone) = true
  · rw [if_pos hnone] at h
    cases h
  · rw [if_neg hnone] at h ⊢
    have hvalid : (s.pipes k).isValid = true := by
      cases hv : (s.pipes k).isValid <;> simp_all
    obtain ⟨q, hq⟩ : ∃ q, (s.pipes k).queue = some q := by
      cases hq : (s.pipes k).queue <;> simp_all
    by_cases hdirty : (s.pipes k).isQueueDirty = true
    · rw [if_pos hdirty] at h ⊢
      exact refreshed_pipeRefreshQueue hvalid hq hdirty h
    · rw [if_neg hdirty]
      refine ⟨?_, rfl, rfl⟩
      unfold foundContext
      dsimp only
      rw [if_neg hnone, if_neg hdirty]

/-- What a request that is forwarded finds. -/
theorem foundContext_of_forwarded {s : DeviceState} {u : TransferRequest}
    {requestType actualRequestType : WdfRequestType} {ioControlCode : UInt32} {a : DispatchAnswers}
    {f : Forwarded}
    (h : initAndForwardToQueue s u requestType actualRequestType ioControlCode a = .ok f) :
    foundContext s (pipeSlot u.pipeID) = some f.queue.context ∧
      f.rc =
        u.context (s.pipes (pipeSlot u.pipeID)) requestType actualRequestType ioControlCode := by
  unfold initAndForwardToQueue at h
  dsimp only at h
  by_cases hok : ntSuccess (refreshForRequest s u.pipeID a.refresh).2 = true
  · rw [if_neg (by simp [hok])] at h
    have hrefreshed := refreshed_refreshForRequest hok
    generalize (refreshForRequest s u.pipeID a.refresh).1 = s' at h hrefreshed
    split at h
    · cases h
    · next queue hqueue =>
      split_ifs at h
      obtain rfl := Except.ok.inj h
      refine ⟨?_, ?_⟩
      · rw [← hrefreshed.found, hqueue]
        rfl
      · unfold TransferRequest.context
        rw [hrefreshed.policies, hrefreshed.timeoutPolicy]
  · rw [if_pos (by simpa using hok)] at h
    cases h

/-- A request that finds a queue is forwarded to it, if the framework plays along. -/
theorem forwarded_of_foundContext {s : DeviceState} {u : TransferRequest} {qc : QueueContext}
    (requestType actualRequestType : WdfRequestType) (ioControlCode : UInt32)
    (reads : IsoContextReads) (h : foundContext s (pipeSlot u.pipeID) = some qc) :
    ∃ queue, queue.context = qc ∧
      initAndForwardToQueue s u requestType actualRequestType ioControlCode { reads := reads } =
        .ok ⟨queue, u.context (s.pipes (pipeSlot u.pipeID)) requestType actualRequestType
          ioControlCode⟩ := by
  have hok : ntSuccess (refreshForRequest s u.pipeID {}).2 = true := by
    unfold foundContext at h
    unfold refreshForRequest
    dsimp only at h ⊢
    generalize pipeSlot u.pipeID = k at h ⊢
    by_cases hnone : (!(s.pipes k).isValid || (s.pipes k).queue.isNone) = true
    · rw [if_pos hnone] at h
      cases h
    rw [if_neg hnone] at h ⊢
    by_cases hdirty : (s.pipes k).isQueueDirty = true
    · have hvalid : (s.pipes k).isValid = true := by
        cases hv : (s.pipes k).isValid <;> simp_all
      have hcan : (s.pipes k).canStart = true := by
        cases hc : (s.pipes k).canStart <;> simp_all
      rw [if_pos hdirty, pipeRefreshQueue_of_valid _ hvalid, ntSuccess_pipeStart,
        DeviceState.pipes_setPipe, Function.update_self]
      unfold PipeContext.starts
      rw [show ({ s.pipes k with isValid := false } : PipeContext).canStart = true from hcan]
      cases ({ s.pipes k with isValid := false } : PipeContext).needsQueue <;>
        simp [StartAnswers.creates]
    · rw [if_neg hdirty]
      rfl
  have hrefreshed := refreshed_refreshForRequest hok
  unfold initAndForwardToQueue
  dsimp only
  rw [if_neg (by simp [hok])]
  generalize (refreshForRequest s u.pipeID {}).1 = s' at hrefreshed
  obtain ⟨queue, hqueue, hcontext⟩ := Option.map_eq_some_iff.mp (hrefreshed.found.trans h)
  refine ⟨queue, hcontext, ?_⟩
  rw [hqueue]
  dsimp only
  rw [if_neg (by simp)]
  unfold TransferRequest.context
  rw [hrefreshed.policies, hrefreshed.timeoutPolicy]

/-! ### The exact condition -/

/-- The inputs on which a request keeps its direction: the pipe it finds, if any,
has that direction, or would move nothing. -/
structure KeepsDirection (s : DeviceState) (u : TransferRequest) : Prop where
  read : ∀ ioControlCode qc, u.kind = .ioctl ioControlCode → ioControlCode ∈ readCodes →
    foundContext s (pipeSlot u.pipeID) = some qc → qc.isIn = false →
      ¬MovesData s.device
        (u.context (s.pipes (pipeSlot u.pipeID)) .read .deviceControl ioControlCode)
        qc ioControlCode
  write : ∀ ioControlCode qc, u.kind = .ioctl ioControlCode → ioControlCode ∈ writeCodes →
    foundContext s (pipeSlot u.pipeID) = some qc → qc.isIn = true →
      ¬MovesData s.device
        (u.context (s.pipes (pipeSlot u.pipeID)) .write .deviceControl ioControlCode)
        qc ioControlCode

/-- Lists of codes share nothing as soon as a test of the first list says so. -/
theorem notMem_of_all {l m : List UInt32} (h : (l.all fun c => !m.contains c) = true) :
    ∀ c ∈ l, c ∉ m := by
  intro c hc hm
  have hfree := List.all_eq_true.mp h c hc
  rw [List.contains_iff_mem.mpr hm] at hfree
  cases hfree

theorem notMem_writeCodes_of_mem_readCodes : ∀ c ∈ readCodes, c ∉ writeCodes :=
  notMem_of_all rfl

theorem notMem_controlCodes_of_mem_readCodes : ∀ c ∈ readCodes, c ∉ controlCodes :=
  notMem_of_all rfl

theorem notMem_controlCodes_of_mem_writeCodes : ∀ c ∈ writeCodes, c ∉ controlCodes :=
  notMem_of_all rfl

/-- What was done for a request goes in the direction `b`. -/
def Dispatched.Toward (b : Bool) (d : Dispatched) : Prop :=
  ∃ served : Served, served.effects = d.effects ∧ served.Toward b

theorem toward_dispatchFailed {u : TransferRequest} {status : NTSTATUS} {d : Dispatched}
    (h : dispatchFailed u status = some d) (b : Bool) : d.Toward b := by
  obtain rfl := Option.some.inj h
  exact ⟨completeWithInformation (newQueueContext {}) status 0, rfl, (idle_complete _ _).toward b⟩

theorem toward_present {f : Forwarded} {dc : DeviceContext} {h : Handler} {a : DispatchAnswers}
    {d : Dispatched} {b : Bool} (hd : f.present dc h a = some d)
    (hserve : ∀ served, h.serve ⟨a.fw, dc, f.rc, f.queue.context, a.reads, f.rc.buffer.length⟩ =
      some served → served.Toward b) : d.Toward b := by
  obtain ⟨served, hserved, rfl⟩ := Option.map_eq_some_iff.mp hd
  exact ⟨served, rfl, hserve served hserved⟩

theorem toward_pipeQueueOnRead (d : Delivery) : (pipeQueueOnRead d).Toward true := by
  unfold pipeQueueOnRead
  dsimp only
  split_ifs
  iterate 3 exact (idle_complete _ _).toward _
  · exact toward_xferIsoRead _ _ _ _
  · exact d.toward_readBulk
  · exact (idle_complete _ _).toward _

theorem toward_pipeQueueOnWrite {d : Delivery} {served : Served}
    (h : pipeQueueOnWrite d = some served) : served.Toward false := by
  unfold pipeQueueOnWrite at h
  dsimp only at h
  split_ifs at h
  iterate 3
    cases h
    exact (idle_complete _ _).toward _
  · exact toward_xferIsoWrite _ _ _ _ h
  · cases h
    have hwrite := d.toward_writeBulk
    have hlast := (idle_complete d.qc STATUS_INVALID_DEVICE_REQUEST).toward false
    refine ⟨fun e he => ?_, fun _ status n he => ?_⟩
    · rcases List.mem_append.mp he with he | he
      · exact hwrite.transfers e he
      · exact hlast.transfers e he
    · rcases List.mem_append.mp he with he | he
      · exact hwrite.reports rfl status n he
      · exact hlast.reports rfl status n he
  · cases h
    exact (idle_complete _ _).toward _

/-- A request with a code goes in the direction `b` if the pipe it finds does, or
would move nothing. -/
theorem toward_ioctl {s : DeviceState} {u : TransferRequest} {requestType : WdfRequestType}
    {ioControlCode : UInt32} {a : DispatchAnswers} {f : Forwarded} {d : Dispatched} {b : Bool}
    (hcode : ioControlCode ∉ controlCodes)
    (hf : initAndForwardToQueue s u requestType .deviceControl ioControlCode a = .ok f)
    (hd : f.present s.device (.onIoControl ioControlCode) a = some d)
    (hkeeps : ∀ qc, foundContext s (pipeSlot u.pipeID) = some qc → qc.isIn = !b →
      ¬MovesData s.device
        (u.context (s.pipes (pipeSlot u.pipeID)) requestType .deviceControl ioControlCode)
        qc ioControlCode) : d.Toward b := by
  obtain ⟨hfound, hrc⟩ := foundContext_of_forwarded hf
  refine toward_present hd fun served hserved => ?_
  have htoward := pipeQueueOnIoControl_toward hserved hcode
  by_cases hin : f.queue.context.isIn = b
  · exact hin ▸ htoward.toward
  · apply Served.Idle.toward
    apply htoward.idle
    rw [hrc]
    exact hkeeps _ hfound (by cases b <;> simpa using hin)

/-- A read goes to the host if the request keeps its direction. -/
theorem toward_of_isRead {s : DeviceState} {u : TransferRequest} (hu : KeepsDirection s u)
    (hread : u.kind.isRead = true) {a : DispatchAnswers} {d : Dispatched}
    (hd : u.serve s a = some d) : d.Toward true := by
  unfold TransferRequest.serve at hd
  cases hkind : u.kind with
  | ioctl ioControlCode =>
    rw [hkind] at hd hread
    have hcode : ioControlCode ∈ readCodes := by simpa [TransferKind.isRead] using hread
    dsimp only at hd
    unfold defaultQueueOnIoControl at hd
    rw [if_pos hcode] at hd
    split at hd
    · exact toward_dispatchFailed hd true
    · next f hf =>
      exact toward_ioctl (notMem_controlCodes_of_mem_readCodes _ hcode) hf hd fun qc hfound hin =>
        hu.read ioControlCode qc hkind hcode hfound hin
  | readFile pipeType =>
    rw [hkind] at hd
    dsimp only at hd
    unfold defaultQueueOnRead at hd
    split_ifs at hd
    · exact toward_dispatchFailed hd true
    · split at hd
      · exact toward_dispatchFailed hd true
      · split_ifs at hd
        · refine toward_present hd fun served hserved => ?_
          obtain rfl := Option.some.inj hserved
          exact toward_pipeQueueOnRead _
        · exact toward_dispatchFailed hd true
  | writeFile pipeType =>
    rw [hkind] at hread
    cases hread

/-- A write goes to the device if the request keeps its direction. -/
theorem toward_of_isWrite {s : DeviceState} {u : TransferRequest} (hu : KeepsDirection s u)
    (hwrite : u.kind.isWrite = true) {a : DispatchAnswers} {d : Dispatched}
    (hd : u.serve s a = some d) : d.Toward false := by
  unfold TransferRequest.serve at hd
  cases hkind : u.kind with
  | ioctl ioControlCode =>
    rw [hkind] at hd hwrite
    have hcode : ioControlCode ∈ writeCodes := by simpa [TransferKind.isWrite] using hwrite
    have hread : ioControlCode ∉ readCodes :=
      fun hread => notMem_writeCodes_of_mem_readCodes _ hread hcode
    dsimp only at hd
    unfold defaultQueueOnIoControl at hd
    rw [if_neg hread, if_pos hcode] at hd
    split at hd
    · exact toward_dispatchFailed hd false
    · next f hf =>
      exact toward_ioctl (notMem_controlCodes_of_mem_writeCodes _ hcode) hf hd fun qc hfound hin =>
        hu.write ioControlCode qc hkind hcode hfound hin
  | readFile pipeType =>
    rw [hkind] at hwrite
    cases hwrite
  | writeFile pipeType =>
    rw [hkind] at hd
    dsimp only at hd
    unfold defaultQueueOnWrite at hd
    split_ifs at hd
    · exact toward_dispatchFailed hd false
    · split at hd
      · exact toward_dispatchFailed hd false
      · split_ifs at hd
        · exact toward_present hd fun served hserved => toward_pipeQueueOnWrite hserved
        · exact toward_dispatchFailed hd false

/-- If the pipe a request with a code finds has data to move, there are answers
with which it moves them. -/
theorem moves_of_foundContext {s : DeviceState} {u : TransferRequest}
    (requestType : WdfRequestType) {ioControlCode : UInt32} {qc : QueueContext}
    (hfound : foundContext s (pipeSlot u.pipeID) = some qc)
    (hmoves : MovesData s.device
      (u.context (s.pipes (pipeSlot u.pipeID)) requestType .deviceControl ioControlCode)
      qc ioControlCode) :
    ∃ f, ∃ served : Served, initAndForwardToQueue s u requestType .deviceControl ioControlCode
        { reads := vanishingPackets } = .ok f ∧
      f.present s.device (.onIoControl ioControlCode) { reads := vanishingPackets } =
        some ⟨f.rc, served.effects⟩ ∧ served.Moves qc.isIn := by
  obtain ⟨queue, rfl, hf⟩ := forwarded_of_foundContext requestType .deviceControl ioControlCode
    vanishingPackets hfound
  obtain ⟨served, hserved, hmoved⟩ := moves_pipeQueueOnIoControl u.buffer.length rfl hmoves
  refine ⟨_, served, hf, ?_, hmoved⟩
  unfold Forwarded.present
  exact congrArg (Option.map _) hserved

/-- **The direction of a transfer, and exactly when.**  For every device state and
request, all transfers are in the direction of the request precisely when the
pipe it finds has that direction, or would move nothing. -/
theorem followsDirection_iff (s : DeviceState) (u : TransferRequest) :
    FollowsDirection s u ↔ KeepsDirection s u := by
  constructor
  · intro h
    refine ⟨fun code qc hkind hcode hfound hin hmoves => ?_,
      fun code qc hkind hcode hfound hin hmoves => ?_⟩
    · obtain ⟨f, served, hf, hd, hmoved⟩ := moves_of_foundContext .read hfound hmoves
      have hserve : u.serve s { reads := vanishingPackets } = some ⟨f.rc, served.effects⟩ := by
        unfold TransferRequest.serve defaultQueueOnIoControl
        rw [hkind]
        dsimp only
        rw [if_pos hcode, hf]
        exact hd
      have hlaw := (h _ _ hserve).1 (by simpa [hkind, TransferKind.isRead] using hcode) []
      rcases hmoved with ⟨e, he, hdir⟩ | ⟨htrue, -⟩
      · exact hlaw e he (hdir.trans (by rw [hin]))
      · rw [hin] at htrue
        cases htrue
    · obtain ⟨f, served, hf, hd, hmoved⟩ := moves_of_foundContext .write hfound hmoves
      have hread : code ∉ readCodes :=
        fun hread => notMem_writeCodes_of_mem_readCodes _ hread hcode
      have hserve : u.serve s { reads := vanishingPackets } = some ⟨f.rc, served.effects⟩ := by
        unfold TransferRequest.serve defaultQueueOnIoControl
        rw [hkind]
        dsimp only
        rw [if_neg hread, if_pos hcode, hf]
        exact hd
      have hlaw := (h _ _ hserve).2 (by simpa [hkind, TransferKind.isWrite] using hcode)
      rcases hmoved with ⟨e, he, hdir⟩ | ⟨-, status, n, he, hn⟩
      · exact hlaw.1 [] e he (hdir.trans (by rw [hin]))
      · exact hn (hlaw.2 status n he)
  · intro hu a d hd
    refine ⟨fun hread cs => ?_, fun hwrite => ⟨fun cs => ?_, ?_⟩⟩
    · obtain ⟨served, heffects, htoward⟩ := toward_of_isRead hu hread hd
      exact transferIn_life cs (heffects ▸ htoward.transfers)
    · obtain ⟨served, heffects, htoward⟩ := toward_of_isWrite hu hwrite hd
      exact transferIn_life cs (heffects ▸ htoward.transfers)
    · obtain ⟨served, heffects, htoward⟩ := toward_of_isWrite hu hwrite hd
      exact heffects ▸ htoward.reports rfl

/-! ### A read that writes -/

/-- A device with a valid bulk OUT pipe at the address 1. -/
def bulkOutDevice : DeviceState :=
  let pc : PipeContext :=
    { queue := some 0
      isValid := true
      pipeInformation := ⟨64, 0x01, 0, .bulk, 64⟩
      pipe := some 0 }
  DeviceState.setPipe { queues := Objects.empty.create (newQueue pc {}) } 1 pc

/-- A bulk read of one byte from the address 1. -/
def readFromOutPipe : TransferRequest where
  kind := .ioctl LIBUSB_IOCTL_INTERRUPT_OR_BULK_READ
  pipeID := 0x01
  buffer := [0]

/-- The caller's read buffer is sent to the device. -/
theorem not_followsDirection_readFromOutPipe :
    ¬FollowsDirection bulkOutDevice readFromOutPipe := by
  intro h
  have hserve : readFromOutPipe.serve bulkOutDevice { reads := vanishingPackets } =
      some ⟨readFromOutPipe.context (bulkOutDevice.pipes 1) .read .deviceControl
        LIBUSB_IOCTL_INTERRUPT_OR_BULK_READ, [.send .writeBulk (.user ⟨0, 1⟩)]⟩ := by rfl
  have hlaw := (h _ _ hserve).1 (by decide) []
  exact hlaw _ (List.mem_singleton_self _) rfl

end LibusbK
