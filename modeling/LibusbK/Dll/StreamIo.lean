import Mathlib.Data.List.Nodup
import Mathlib.Logic.Function.Basic
import LibusbK.Dll.StreamApcs
import LibusbK.Dll.StreamOverlapped

/-!
# A stream and the I/O of the kernel

Every transfer that is submitted has an I/O operation, which the kernel completes when it
pleases, or never: it writes to the buffer of the transfer item, stores the result in the
overlapped and sets the event of the overlapped.  Until then it owns both.

`Stm_Thread_ProcessPending` waits for the event of the oldest transfer before it takes the
transfer, unless a wait of the last loop has timed out: from then on it takes one transfer
after the other as they are.  `CancelIo`, which is called at that point, only asks the kernel
to complete them.

## Main definitions

* `IoOperation`, `StreamIo` — an operation, and a stream with its operations.
* `streamIo` — the machine: the steps of the stream, and completions.
* `ReleasesNothingPending` — what the kernel owns is in use by a pending transfer.
* `collectsInTime` — the transfers that are taken.

## Main results

* `releasesNothingPending_of_throughout` — nothing is released that the kernel owns in a run
  whose transfers are taken in time.
* `not_releasesNothingPending_stop` — a stop that times out.
-/

namespace LibusbK

open Function

/-! ### Operations -/

/-- How an operation ends: its error, and the bytes it has moved. -/
structure IoResult where
  error : Option UInt32 := none
  data : List UInt8
  deriving DecidableEq, Repr

/-- An operation on `length` bytes of the buffer of item `index`, and its result once the
kernel has completed it. -/
structure IoOperation where
  index : ℕ
  overlapped : ℕ
  length : ℕ
  result : Option IoResult := none
  deriving DecidableEq, Repr

/-- The kernel writes to the buffer. -/
def IoOperation.receive (op : IoOperation) (result : IoResult) (item : XferItem) : XferItem :=
  if item.index = op.index then { item with data := Window.writeAt 0 result.data item.data }
  else item

/-- The kernel can complete the operation with this result. -/
def IoOperation.canComplete (op : IoOperation) (result : IoResult) : Bool :=
  op.result.isNone && decide (result.data.length ≤ op.length)

/-- A stream, the operations of its pending transfers, in their order, and those of the
transfers that have been taken off the pending list.  `event` says which overlapped objects
have their event set; `status` is what an overlapped holds, nothing while it says
`STATUS_PENDING`. -/
structure StreamIo where
  run : StreamRun
  pending : List IoOperation := []
  collected : List IoOperation := []
  event : ℕ → Bool := fun _ => true
  status : ℕ → Option IoResult := fun _ => some { data := [] }

/-- A step of the stream, or a completion: of the operation of pending transfer `k`, or of the
operation of a transfer that was taken off the pending list before. -/
inductive StreamIoEvent
  | stream (e : StreamEvent)
  | completes (k : ℕ) (result : IoResult)
  | completesLate (k : ℕ) (result : IoResult)

namespace StreamIo

variable (s : StreamIo)

/-- The kernel completes `op`. -/
def receives (op : IoOperation) (result : IoResult) : StreamIo :=
  { s with
    run := if s.run.handle.isIn then s.run.mapItems (op.receive result) else s.run
    event := update s.event op.overlapped true
    status := update s.status op.overlapped (some result) }

/-- What `Stm_Thread_ProcessQueued` does to the overlapped it takes, and the operation it
starts. -/
def submits (submit : UInt32) : StreamIo :=
  match s.run.stm.ovlList.bind DList.head, s.run.handle.queued with
  | some ovlNext, xferNext :: _ =>
    if submit ≠ ERROR_IO_PENDING ∧ submit ≠ ERROR_SUCCESS then
      { s with event := update s.event ovlNext true }
    else
      { s with
        pending := s.pending ++
          [{ index := xferNext.index
             overlapped := ovlNext
             length := (xferNext.reset s.run.handle.isIn).context.transferLength }]
        event := update s.event ovlNext false
        status := update s.status ovlNext none }
  | _, _ => s

/-- The wait of `Stm_Thread_ProcessPending` can end so: it finds an event only when it is
set. -/
def waits (outcome : PendingOutcome) : Bool :=
  match s.run.stm.pendingList with
  | [] => true
  | (_, ovlNext) :: _ => s.run.stm.noWaiting || outcome.wait != .object0 || s.event ovlNext

/-- `GetOverlappedResult` without waiting, for the oldest transfer: it fails, and leaves
`TransferLength` as it is, while the overlapped is pending. -/
def getOverlappedResult (outcome : PendingOutcome) : PendingOutcome :=
  match s.run.stm.pendingList with
  | [] => outcome
  | (xferNext, ovlNext) :: _ =>
    match s.status ovlNext with
    | none =>
      { outcome with
        overlappedError := some ERROR_IO_INCOMPLETE
        transferLength := xferNext.context.transferLength
        data := xferNext.data }
    | some result =>
      { outcome with
        overlappedError := result.error
        transferLength := result.data.length
        data := xferNext.data }

/-- `GetOverlappedResult` fails with an error other than a cancellation. -/
def setsEvent (outcome : PendingOutcome) : Bool :=
  match (s.getOverlappedResult outcome).overlappedError with
  | none => false
  | some errorCode => errorCode != ERROR_OPERATION_ABORTED && errorCode != ERROR_CANCELLED

/-- What `Stm_Thread_ProcessPending` does to the overlapped of the oldest transfer, if it takes
that. -/
def collects (outcome : PendingOutcome) : StreamIo :=
  match s.run.stm.pendingList, s.pending with
  | (_, ovlNext) :: _, op :: pending =>
    if outcome.completes s.run.stm then
      { s with
        pending := pending
        collected := s.collected ++ [op]
        event := if s.setsEvent outcome then update s.event ovlNext true else s.event }
    else s
  | _, _ => s

/-- A new thread has new overlapped objects. -/
def allocates : StreamIo :=
  { s with event := fun _ => true, status := fun _ => some { data := [] } }

/-- What a step of the stream does to the operations and the overlapped objects. -/
def accounts : StreamEvent → StreamIo
  | .start => s.allocates
  | .processQueued submit => s.submits submit
  | .processPending outcome => s.collects outcome
  | _ => s

/-- A step of the stream, with what the overlapped objects say. -/
def streamEvent : StreamEvent → Option StreamEvent
  | .processPending outcome =>
    if s.waits outcome then some (.processPending (s.getOverlappedResult outcome)) else none
  | e => some e

end StreamIo

/-- A stream with `maxPendingIo` overlapped objects, and the kernel. -/
def streamIo (maxPendingIo : ℕ) : Machine StreamIo StreamIoEvent where
  step s
    | .stream e =>
      (s.streamEvent e).bind fun e' =>
        ((streamRun maxPendingIo).step s.run e').map fun run => { s.accounts e with run := run }
    | .completes k result =>
      s.pending[k]?.bind fun op =>
        if op.canComplete result then
          some
            { s.receives op result with
              pending := s.pending.set k { op with result := some result } }
        else none
    | .completesLate k result =>
      s.collected[k]?.bind fun op =>
        if op.canComplete result then
          some
            { s.receives op result with
              collected := s.collected.set k { op with result := some result } }
        else none

/-! ### What the kernel owns -/

/-- **Nothing is released that the kernel owns.**  A transfer item is moved to another list, and
its overlapped is given back, when the transfer is taken off the pending list; the overlapped
objects in the free list are freed when the thread ends. -/
structure ReleasesNothingPending (s : StreamIo) : Prop where
  collected : ∀ op ∈ s.collected, op.result.isSome
  free : ∀ ovlList, s.run.stm.ovlList = some ovlList → ∀ op ∈ s.pending, op.result = none →
    ¬ovlList.Linked op.overlapped
  ended : s.run.life = .ended → ∀ op ∈ s.pending, op.result.isSome

/-- A transfer that is taken links no overlapped but its own into the list of the free ones, and
if it is not waited for, its operation has been completed. -/
def collectsInTime (s : StreamIo) : StreamIoEvent → Prop
  | .stream (.processPending outcome) =>
    ReleasesItself s.run.stm (.processPending outcome) ∧
      (s.run.stm.noWaiting = true → ∀ op ∈ s.pending.head?, op.result.isSome)
  | _ => True

/-! ### The stream thread -/

/-- The step does not touch the overlapped objects. -/
def StreamEvent.keepsOverlapped : StreamEvent → Bool
  | .start => false
  | .processQueued _ => false
  | .processPending _ => false
  | _ => true

namespace StreamRun

variable {s s' : StreamRun}

/-- The items of the pending transfers may change, their overlapped objects do not. -/
theorem overlappeds_mapItems (f : XferItem → XferItem) :
    (s.mapItems f).stm.overlappeds = s.stm.overlappeds := by
  unfold StmThread.overlappeds mapItems
  rw [List.map_map]
  rfl

/-- A call does nothing to the overlapped objects. -/
theorem UserStep.overlappeds {k : ℕ} {pc : UserPc} (h : UserStep s k pc s') :
    s'.stm.ovlList = s.stm.ovlList ∧ s'.stm.overlappeds = s.stm.overlappeds := by
  cases h with
  | putsBack call taken hpc =>
    cases hbackup : taken.backupXferItem with
    | none => exact ⟨rfl, rfl⟩
    | some old =>
      have hrestore : (s.restore (some old)).stm.overlappeds = s.stm.overlappeds :=
        overlappeds_mapItems _
      exact ⟨rfl, hrestore⟩
  | _ => exact ⟨rfl, rfl⟩

/-- What the overlapped objects are in a stream: `PendingIO` counts those in use, and a thread
that is at rest uses none. -/
structure OverlappedRun (s : StreamRun) : Prop where
  linked : s.life ≠ .ended → OverlappedInv List.Nodup s.stm
  pendingIO : s.handle.pendingIO = s.stm.overlappeds.length
  idle : s.life.isIdle = true → s.stm.overlappeds = []

/-- A step that leaves the overlapped objects as they are. -/
theorem OverlappedRun.of_same (hs : OverlappedRun s)
    (hlist : s'.stm.ovlList = s.stm.ovlList) (hused : s'.stm.overlappeds = s.stm.overlappeds)
    (hcount : s'.handle.pendingIO = s.handle.pendingIO)
    (hended : s'.life ≠ .ended → s.life ≠ .ended)
    (hidle : s'.life.isIdle = true → s.life.isIdle = true ∨ s.handle.pendingIO = 0) :
    OverlappedRun s' where
  linked hlife := (hs.linked (hended hlife)).of_same hlist hused
  pendingIO := by rw [hcount, hused, hs.pendingIO]
  idle h := by
    rw [hused]
    rcases hidle h with hidle | hzero
    · exact hs.idle hidle
    · rw [hs.pendingIO] at hzero
      exact List.length_eq_zero_iff.mp hzero

/-- A submission, or none. -/
theorem OverlappedRun.queuedStep (hs : OverlappedRun s)
    {submit : UInt32} {ovlList : DList ℕ} (hovl : s.stm.ovlList = some ovlList)
    (hrunning : s.life = .running) (hstep : QueuedStep s submit ovlList s') :
    OverlappedRun s' := by
  have hlinked := hs.linked (by rw [hrunning]; exact nofun)
  have hcount := hs.pendingIO
  cases hstep with
  | idle hnone => exact hs.of_same rfl rfl rfl id .inl
  | fails item queued ovlNext hqueued hhead hsubmit =>
    exact ⟨fun _ => hlinked.putBack hovl hhead rfl rfl, hcount, nofun⟩
  | submits item queued ovlNext hqueued hhead hsubmit =>
    have hperm : ∀ {os os' : List ℕ}, os.Perm os' → os'.Nodup → os.Nodup :=
      fun hperm => hperm.nodup_iff.mpr
    refine ⟨fun _ => hlinked.take hperm hovl hhead rfl ?_, ?_, fun hidle => ?_⟩
    · simp [StmThread.overlappeds]
    · rw [handle, StmThread.overlappeds, List.map_append, List.length_append]
      exact congrArg (· + 1) hcount
    · rw [hrunning] at hidle
      cases hidle

/-- What `Stm_Thread_ProcessPending` does to the overlapped objects in a run. -/
theorem pendingStep_overlappeds {o : PendingOutcome} {ovlList : DList ℕ}
    (h : s.pendingStep o ovlList = some s') :
    s'.life.isIdle = false ∧ s.life ≠ .ended ∧
      ((s'.stm.ovlList = s.stm.ovlList ∧ s'.stm.overlappeds = s.stm.overlappeds ∧
          s'.handle.pendingIO = s.handle.pendingIO ∧
          (o.completes s.stm = true → s.stm.overlappeds = [])) ∨
        ∃ ovlNext, o.completes s.stm = true ∧ s.stm.overlappeds = ovlNext :: s'.stm.overlappeds ∧
          s'.stm.ovlList = ovlList.readd ovlNext ∧
          s'.handle.pendingIO = s.handle.pendingIO - 1) := by
  have hlast : ∀ stm : StmThread, (afterLastProcessPending stm).ovlList = stm.ovlList ∧
      (afterLastProcessPending stm).overlappeds = stm.overlappeds := afterLastProcessPending_frame
  have hthread : s'.stm.ovlList =
        (processPending { o with tryLock := !s.locked } s.stm ovlList).ovlList ∧
      s'.stm.overlappeds =
        (processPending { o with tryLock := !s.locked } s.stm ovlList).overlappeds := by
    unfold StreamRun.pendingStep at h
    dsimp only at h
    split at h
    · cases h
      exact ⟨rfl, rfl⟩
    · split at h
      · cases h
        exact hlast _
      · cases h
  obtain ⟨hlife, -, -, -, -, -, -, hends⟩ := pendingStep_spec h
  have hbusy : s'.life.isIdle = false ∧ s.life ≠ .ended := by
    rcases hlife with ⟨h₁, h₂⟩ | ⟨h₁, h₂⟩ <;> rw [h₁, h₂] <;> exact ⟨rfl, nofun⟩
  refine ⟨hbusy.1, hbusy.2, ?_⟩
  rw [hthread.1, hthread.2]
  rcases processPending_cases { o with tryLock := !s.locked } s.stm ovlList with
    ⟨hlist, hused, hnone⟩ | ⟨hdone, ovlNext, hused, hlist⟩
  · refine .inl ⟨hlist, hused, ?_, hnone⟩
    rcases hends with ⟨-, hhandle, -⟩ | ⟨item, ovlNext, handle, hpending, hdone, -⟩
    · rw [hhandle]
    · -- a transfer that is taken was pending
      have hnil := hnone hdone
      rw [StmThread.overlappeds, hpending] at hnil
      cases hnil
  · refine .inr ⟨ovlNext, hdone, hused, hlist, ?_⟩
    rcases hends with ⟨hwaits, -, -⟩ | ⟨item, ovlNext, handle, -, -, -, hhandle⟩
    · rcases hwaits with hnil | hwaits
      · rw [StmThread.overlappeds, hnil] at hused
        cases hused
      · cases hwaits.symm.trans hdone
    · rw [hhandle]

/-- The oldest transfer is taken, and its overlapped given back, or none is. -/
theorem OverlappedRun.pendingStep (hs : OverlappedRun s)
    {o : PendingOutcome} {ovlList : DList ℕ} (hovl : s.stm.ovlList = some ovlList)
    (hsafe : ReleasesItself s.stm (.processPending o)) (h : s.pendingStep o ovlList = some s') :
    OverlappedRun s' := by
  obtain ⟨hbusy, hlive, hcases⟩ := pendingStep_overlappeds h
  have hcount := hs.pendingIO
  rcases hcases with ⟨hlist, hused, hpendingIo, -⟩ | ⟨ovlNext, hdone, hused, hlist, hpendingIo⟩
  · exact hs.of_same hlist hused hpendingIo (fun _ => hlive) fun hidle => by
      cases hbusy.symm.trans hidle
  · refine ⟨fun _ => ?_, ?_, fun hidle => by cases hbusy.symm.trans hidle⟩
    · refine (hs.linked hlive).giveBackItself hovl hused (fun free hpath => ?_) hlist
      have htakes : Completes s.stm (.processPending o) :=
        ⟨o, rfl, hdone, by rw [hused]; exact List.cons_ne_nil _ _⟩
      exact hsafe htakes ovlList free ovlNext hovl hpath (by rw [hused]; rfl)
    · rw [hpendingIo, hcount, hused]
      rfl

/-- The steps that do not touch the overlapped objects. -/
theorem overlappeds_step {maxPendingIo : ℕ} {e : StreamEvent} (he : e.keepsOverlapped = true)
    (h : (streamRun maxPendingIo).step s e = some s') :
    s'.stm.ovlList = s.stm.ovlList ∧ s'.stm.overlappeds = s.stm.overlappeds ∧
      s'.handle.pendingIO = s.handle.pendingIO ∧ (s'.life ≠ .ended → s.life ≠ .ended) ∧
      (s'.life.isIdle = true → s.life.isIdle = true ∨ s.handle.pendingIO = 0) := by
  -- a step between two states that are not at rest
  have hbusy : ∀ {life life' : ThreadLife}, s.life = life → life ≠ .ended →
      life'.isIdle = false → (life' ≠ .ended → s.life ≠ .ended) ∧
        (life'.isIdle = true → s.life.isIdle = true ∨ s.handle.pendingIO = 0) := by
    intro life life' hlife hlive hidle
    refine ⟨fun _ => by rw [hlife]; exact hlive, fun h => ?_⟩
    rw [hidle] at h
    cases h
  cases Step.of_step h with
  | start hstopped hended => cases he
  | processQueued submit ovlList s' hlife hphase hovl hstep => cases he
  | processPending outcome ovlList s' hovl hstep => cases he
  | call k call hidle haccepted => exact ⟨rfl, rfl, rfl, id, .inl⟩
  | callFails k call hidle => exact ⟨rfl, rfl, rfl, id, .inl⟩
  | user k pc s' hpc hrun =>
    have hstep := UserStep.of_run hrun
    obtain ⟨hlife, -, hpendingIo, -⟩ := hstep.frame
    rw [hlife]
    exact ⟨hstep.overlappeds.1, hstep.overlappeds.2, hpendingIo, id, .inl⟩
  | startFails hlife =>
    exact ⟨rfl, rfl, rfl, fun hlive => absurd rfl hlive, fun _ => .inl (by rw [hlife]; rfl)⟩
  | stop hstarted => exact ⟨rfl, rfl, rfl, id, .inl⟩
  | deliver xferSubmitList apcs hapcs halertable => exact ⟨rfl, rfl, rfl, id, .inl⟩
  | loop hlife hphase hgoesOn => exact ⟨rfl, rfl, rfl, id, .inl⟩
  | flush hlife hphase hgoesOn hunlocked => exact ⟨rfl, rfl, rfl, id, .inl⟩
  | endTest hlife hnone =>
    -- the last loop is left when nothing is pending
    exact ⟨rfl, rfl, rfl, fun _ => by rw [hlife]; exact nofun, fun _ =>
      .inr (Nat.eq_zero_of_not_pos fun hpos => hnone (.inl hpos))⟩
  | exit hlife =>
    exact ⟨rfl, rfl, rfl, fun hlive => absurd rfl hlive, fun _ => .inl (by rw [hlife]; rfl)⟩
  | allocFails hlife => exact ⟨rfl, rfl, rfl, hbusy hlife nofun rfl⟩
  | started hlife => exact ⟨rfl, rfl, rfl, hbusy hlife nofun rfl⟩
  | endLoop hlife hphase hends => exact ⟨rfl, rfl, rfl, hbusy hlife nofun rfl⟩
  | leave hlife => exact ⟨rfl, rfl, rfl, hbusy hlife nofun rfl⟩
  | synchronize hlife hunlocked => exact ⟨rfl, rfl, rfl, hbusy hlife nofun rfl⟩
  | test hlife hmore => exact ⟨rfl, rfl, rfl, hbusy hlife nofun rfl⟩
  | sleep hlife hnone => exact ⟨rfl, rfl, rfl, hbusy hlife nofun rfl⟩

/-- A new thread has new overlapped objects. -/
theorem OverlappedRun.start {maxPendingIo : ℕ} (hs : OverlappedRun s)
    (h : (streamRun maxPendingIo).step s .start = some s') :
    OverlappedRun s' ∧ s.stm.overlappeds = [] ∧ s'.stm.overlappeds = [] := by
  cases Step.of_step h with
  | start hstopped hended =>
    have hidle := hs.idle (by rw [hended]; rfl)
    have hnone : s.handle.pendingIO = 0 := by
      rw [hs.pendingIO, hidle]
      rfl
    obtain ⟨ovlList, halloc, hrepr⟩ := allocOvl_repr maxPendingIo
    refine ⟨⟨fun _ => ⟨ovlList, List.range maxPendingIo, halloc, hrepr, ?_⟩, hnone, fun _ => rfl⟩,
      hidle, rfl⟩
    rw [StmThread.overlappeds, List.map_nil, List.append_nil]
    exact List.nodup_range

end StreamRun

/-! ### Runs -/

namespace StreamIo

variable {s s' : StreamIo} {maxPendingIo : ℕ}

/-- The operations are those of the pending transfers, and the event of a pending transfer is
set when its operation has been completed. -/
structure Inv (s : StreamIo) : Prop where
  overlapped : s.run.OverlappedRun
  pending : s.pending.map IoOperation.overlapped = s.run.stm.overlappeds
  collected : ∀ op ∈ s.collected, op.result.isSome
  event : ∀ op ∈ s.pending, s.event op.overlapped = true → op.result.isSome

theorem Inv.releasesNothingPending (hs : Inv s) : ReleasesNothingPending s where
  collected := hs.collected
  free ovlList hovl op hop hnone hlinked := by
    have hmem : op.overlapped ∈ s.run.stm.overlappeds := by
      rw [← hs.pending]
      exact List.mem_map_of_mem hop
    have hlive : s.run.life ≠ .ended := by
      intro hended
      rw [hs.overlapped.idle (by rw [hended]; rfl)] at hmem
      cases hmem
    obtain ⟨ovlList', free, hovl', hrepr, hnodup⟩ := hs.overlapped.linked hlive
    cases hovl.symm.trans hovl'
    exact (List.nodup_append.mp hnodup).2.2 _ (hlinked.mem hrepr.path) _ hmem rfl
  ended hended op hop := by
    have hmem : op.overlapped ∈ s.run.stm.overlappeds := by
      rw [← hs.pending]
      exact List.mem_map_of_mem hop
    rw [hs.overlapped.idle (by rw [hended]; rfl)] at hmem
    cases hmem

/-- An overlapped is in use by one transfer. -/
theorem Inv.nodup (hs : Inv s) : (s.pending.map IoOperation.overlapped).Nodup := by
  rw [hs.pending]
  by_cases hlive : s.run.life = .ended
  · rw [hs.overlapped.idle (by rw [hlive]; rfl)]
    exact List.nodup_nil
  · obtain ⟨ovlList, free, -, -, hnodup⟩ := hs.overlapped.linked hlive
    exact (List.nodup_append.mp hnodup).2.1

/-- A step that leaves the operations and the overlapped objects as they are. -/
theorem Inv.of_same (hs : Inv s) {run : StreamRun}
    (hrun : run.OverlappedRun) (hused : run.stm.overlappeds = s.run.stm.overlappeds) :
    Inv { s with run := run } where
  overlapped := hrun
  pending := by rw [hs.pending, hused]
  collected := hs.collected
  event := hs.event

/-- The overlapped that is taken next is in use by no transfer. -/
theorem Inv.not_mem_of_head (hs : Inv s) {ovlList : DList ℕ}
    (hovl : s.run.stm.ovlList = some ovlList) (hrunning : s.run.life = .running) {ovlNext : ℕ}
    (hhead : ovlList.head = some ovlNext) : ovlNext ∉ s.pending.map IoOperation.overlapped := by
  have hlive : s.run.life ≠ .ended := by
    rw [hrunning]
    decide
  obtain ⟨taken, rest, -, -, -, hnodup⟩ := (hs.overlapped.linked hlive).taken hovl hhead
  rw [hs.pending]
  intro hmem
  exact (List.nodup_append.mp hnodup).2.2 _ List.mem_cons_self _ hmem rfl

/-- There is nothing to submit. -/
theorem submits_of_idle {submit : UInt32} {ovlList : DList ℕ}
    (hovl : s.run.stm.ovlList = some ovlList)
    (hnone : ovlList.head = none ∨ s.run.handle.queued = []) : s.submits submit = s := by
  unfold submits
  rw [hovl, Option.bind_some]
  rcases hnone with hnone | hnone
  · rw [hnone]
  · rw [hnone]
    split
    · next hnil => cases hnil
    · rfl

/-- The overlapped of a submission that fails is put back, with its event set. -/
theorem submits_of_fails {submit : UInt32} {ovlList : DList ℕ} {item : XferItem}
    {queued : List XferItem} {ovlNext : ℕ} (hovl : s.run.stm.ovlList = some ovlList)
    (hqueued : s.run.handle.queued = item :: queued) (hhead : ovlList.head = some ovlNext)
    (hsubmit : submit ≠ ERROR_IO_PENDING ∧ submit ≠ ERROR_SUCCESS) :
    s.submits submit = { s with event := update s.event ovlNext true } := by
  unfold submits
  rw [hovl, Option.bind_some, hhead, hqueued]
  exact if_pos hsubmit

/-- A submission starts an operation. -/
theorem submits_of_submits {submit : UInt32} {ovlList : DList ℕ} {item : XferItem}
    {queued : List XferItem} {ovlNext : ℕ} (hovl : s.run.stm.ovlList = some ovlList)
    (hqueued : s.run.handle.queued = item :: queued) (hhead : ovlList.head = some ovlNext)
    (hsubmit : ¬(submit ≠ ERROR_IO_PENDING ∧ submit ≠ ERROR_SUCCESS)) :
    s.submits submit =
      { s with
        pending := s.pending ++
          [{ index := item.index
             overlapped := ovlNext
             length := (item.reset s.run.handle.isIn).context.transferLength }]
        event := update s.event ovlNext false
        status := update s.status ovlNext none } := by
  unfold submits
  rw [hovl, Option.bind_some, hhead, hqueued]
  exact if_neg hsubmit

/-- The operations after a submission, or none. -/
theorem Inv.queued (hs : Inv s) {submit : UInt32} {ovlList : DList ℕ}
    {run : StreamRun} (hovl : s.run.stm.ovlList = some ovlList) (hrunning : s.run.life = .running)
    (hstep : s.run.QueuedStep submit ovlList run) :
    Inv { s.submits submit with run := run } := by
  have hrun := hs.overlapped.queuedStep hovl hrunning hstep
  cases hstep with
  | idle hnone =>
    rw [submits_of_idle hovl hnone]
    exact hs.of_same hrun rfl
  | fails item queued ovlNext hqueued hhead hsubmit =>
    have hfree := hs.not_mem_of_head hovl hrunning hhead
    rw [submits_of_fails hovl hqueued hhead hsubmit]
    refine ⟨hrun, hs.pending, hs.collected, fun op hop hevent => ?_⟩
    have hne : op.overlapped ≠ ovlNext := fun heq => hfree (heq ▸ List.mem_map_of_mem hop)
    dsimp only at hevent
    rw [update_of_ne hne] at hevent
    exact hs.event op hop hevent
  | submits item queued ovlNext hqueued hhead hsubmit =>
    rw [submits_of_submits hovl hqueued hhead hsubmit]
    refine ⟨hrun, ?_, hs.collected, fun op hop hevent => ?_⟩
    · rw [List.map_append, hs.pending, StmThread.overlappeds, StmThread.overlappeds,
        List.map_append]
      rfl
    · dsimp only at hop hevent
      by_cases heq : op.overlapped = ovlNext
      · rw [heq, update_self] at hevent
        cases hevent
      · rw [update_of_ne heq] at hevent
        rcases List.mem_append.mp hop with hop | hop
        · exact hs.event op hop hevent
        · rw [List.mem_singleton.mp hop] at heq
          exact absurd rfl heq

theorem completes_getOverlappedResult (outcome : PendingOutcome) (stm : StmThread) :
    (s.getOverlappedResult outcome).completes stm = outcome.completes stm := by
  unfold getOverlappedResult
  split
  · rfl
  · split <;> rfl

/-- `Stm_Thread_ProcessPending` takes no transfer. -/
theorem collects_of_waits {outcome : PendingOutcome}
    (h : outcome.completes s.run.stm = true → s.run.stm.pendingList = []) :
    s.collects outcome = s := by
  unfold collects
  split
  · next hlist _ =>
    refine if_neg fun hdone => ?_
    cases hlist.symm.trans (h hdone)
  · rfl

/-- `Stm_Thread_ProcessPending` takes the oldest transfer, and its operation. -/
theorem collects_of_done {outcome : PendingOutcome} {p : XferItem × ℕ}
    {pendingList : List (XferItem × ℕ)} {op : IoOperation} {pending : List IoOperation}
    (hlist : s.run.stm.pendingList = p :: pendingList) (hpending : s.pending = op :: pending)
    (hdone : outcome.completes s.run.stm = true) :
    s.collects outcome =
      { s with
        pending := pending
        collected := s.collected ++ [op]
        event := if s.setsEvent outcome then update s.event p.2 true else s.event } := by
  unfold collects
  rw [hlist, hpending]
  exact if_pos hdone

/-- A transfer that is taken in time has its operation completed. -/
theorem Inv.taken (hs : Inv s) {outcome : PendingOutcome} {op : IoOperation}
    {pending : List IoOperation} (hwaits : s.waits outcome = true)
    (hdone : outcome.completes s.run.stm = true)
    (hintime : s.run.stm.noWaiting = true → ∀ op ∈ s.pending.head?, op.result.isSome)
    (hpending : s.pending = op :: pending) : op.result.isSome := by
  cases hmode : s.run.stm.noWaiting with
  | true =>
    apply hintime hmode
    rw [hpending]
    rfl
  | false =>
    -- the wait has found the event set
    have hobject : outcome.wait = .object0 := by
      simpa [PendingOutcome.completes, hmode] using hdone
    have hused := hs.pending
    rw [hpending, List.map_cons] at hused
    apply hs.event op (by rw [hpending]; exact List.mem_cons_self)
    unfold waits at hwaits
    cases hlist : s.run.stm.pendingList with
    | nil =>
      rw [StmThread.overlappeds, hlist] at hused
      cases hused
    | cons p pendingList =>
      rw [StmThread.overlappeds, hlist, List.map_cons] at hused
      rw [hlist, hmode, hobject] at hwaits
      rw [(List.cons.inj hused).1]
      simpa using hwaits

/-- The oldest transfer is taken, or none is. -/
theorem Inv.pendingStep (hs : Inv s) {outcome : PendingOutcome}
    {ovlList : DList ℕ} {run : StreamRun} (hovl : s.run.stm.ovlList = some ovlList)
    (hwaits : s.waits outcome = true) (hok : collectsInTime s (.stream (.processPending outcome)))
    (h : s.run.pendingStep (s.getOverlappedResult outcome) ovlList = some run) :
    Inv { s.collects outcome with run := run } := by
  obtain ⟨hsafe, hintime⟩ := hok
  have hsafe' : ReleasesItself s.run.stm (.processPending (s.getOverlappedResult outcome)) := by
    rintro ⟨o, heq, hdone, hne⟩
    cases heq
    rw [completes_getOverlappedResult] at hdone
    exact hsafe ⟨outcome, rfl, hdone, hne⟩
  have hrun := hs.overlapped.pendingStep hovl hsafe' h
  obtain ⟨-, -, hcases⟩ := StreamRun.pendingStep_overlappeds h
  rw [completes_getOverlappedResult] at hcases
  rcases hcases with ⟨-, hused, -, hnone⟩ | ⟨ovlNext, hdone, hused, -, -⟩
  · rw [collects_of_waits fun hdone => List.map_eq_nil_iff.mp (hnone hdone)]
    exact hs.of_same hrun hused
  · have hops := hs.pending
    rw [hused] at hops
    have hlist := hused
    unfold StmThread.overlappeds at hlist
    obtain ⟨p, pendingList, hpendingList, rfl, -⟩ := List.map_eq_cons_iff.mp hlist
    obtain ⟨op, pending, hpending, hop, hrest⟩ := List.map_eq_cons_iff.mp hops
    have hresult := hs.taken hwaits hdone hintime hpending
    have hnodup := hs.nodup
    rw [hpending, List.map_cons, hop] at hnodup
    rw [collects_of_done hpendingList hpending hdone]
    refine ⟨hrun, hrest, fun op' hop' => ?_, fun op' hop' hevent => ?_⟩
    · rcases List.mem_append.mp hop' with hop' | hop'
      · exact hs.collected op' hop'
      · rw [List.mem_singleton.mp hop']
        exact hresult
    · apply hs.event op' (by rw [hpending]; exact List.mem_cons_of_mem _ hop')
      have hne : op'.overlapped ≠ p.2 := fun heq =>
        (List.nodup_cons.mp hnodup).1 (heq ▸ List.mem_map_of_mem hop')
      dsimp only at hevent
      split at hevent
      · rwa [update_of_ne hne] at hevent
      · exact hevent

theorem overlappedRun_receives (hs : s.run.OverlappedRun) (op : IoOperation)
    (result : IoResult) : (s.receives op result).run.OverlappedRun := by
  unfold receives
  dsimp only
  split
  · exact hs.of_same rfl (StreamRun.overlappeds_mapItems _) rfl id .inl
  · exact hs

theorem overlappeds_receives (op : IoOperation) (result : IoResult) :
    (s.receives op result).run.stm.overlappeds = s.run.stm.overlappeds := by
  unfold receives
  dsimp only
  split
  · exact StreamRun.overlappeds_mapItems _
  · rfl

/-- An operation that is completed keeps its overlapped. -/
theorem overlapped_set {k : ℕ} {op : IoOperation} (hop : s.pending[k]? = some op)
    (result : IoResult) :
    (s.pending.set k { op with result := some result }).map IoOperation.overlapped =
      s.pending.map IoOperation.overlapped := by
  obtain ⟨hk, rfl⟩ := List.getElem?_eq_some_iff.mp hop
  have hk' : k < (s.pending.map IoOperation.overlapped).length := by rwa [List.length_map]
  have hset := List.set_getElem_self hk'
  rw [List.getElem_map] at hset
  rw [List.map_set]
  exact hset

/-- The other operations have other overlapped objects. -/
theorem Inv.mem_completed (hs : Inv s) {k : ℕ} {op op' : IoOperation}
    (hop : s.pending[k]? = some op) (result : IoResult)
    (hop' : op' ∈ s.pending.set k { op with result := some result }) :
    op' = { op with result := some result } ∨
      op' ∈ s.pending ∧ op'.overlapped ≠ op.overlapped := by
  have hk := (List.getElem?_eq_some_iff.mp hop).1
  have hnew := List.mem_set hk { op with result := some result }
  have hnodup := hs.nodup
  rw [← overlapped_set hop result] at hnodup
  by_cases heq : op'.overlapped = op.overlapped
  · exact .inl (List.inj_on_of_nodup_map hnodup hop' hnew heq)
  · rcases List.mem_or_eq_of_mem_set hop' with hold | rfl
    · exact .inr ⟨hold, heq⟩
    · exact .inl rfl

/-- The operation of a pending transfer is completed. -/
theorem Inv.completes (hs : Inv s) {k : ℕ} {op : IoOperation}
    (hop : s.pending[k]? = some op) (result : IoResult) :
    Inv
      { s.receives op result with
        pending := s.pending.set k { op with result := some result } } := by
  refine ⟨overlappedRun_receives hs.overlapped _ result, ?_, hs.collected,
    fun op' hop' hevent => ?_⟩
  · exact ((overlapped_set hop result).trans hs.pending).trans
      (overlappeds_receives _ result).symm
  · dsimp only [receives] at hevent hop'
    rcases hs.mem_completed hop result hop' with rfl | ⟨hold, hne⟩
    · rfl
    · rw [update_of_ne hne] at hevent
      exact hs.event op' hold hevent

/-- What a step of a stream and the kernel does.  The steps that do not touch the overlapped
objects are one case. -/
inductive Step (maxPendingIo : ℕ) (s : StreamIo) : StreamIoEvent → StreamIo → Prop
  | keeps (e : StreamEvent) (run : StreamRun) (hkeeps : e.keepsOverlapped = true)
      (hrun : (streamRun maxPendingIo).step s.run e = some run) :
    Step maxPendingIo s (.stream e) { s with run := run }
  | start (run : StreamRun) (hrun : (streamRun maxPendingIo).step s.run .start = some run) :
    Step maxPendingIo s (.stream .start) { s.allocates with run := run }
  | processQueued (submit : UInt32) (run : StreamRun)
      (hrun : (streamRun maxPendingIo).step s.run (.processQueued submit) = some run) :
    Step maxPendingIo s (.stream (.processQueued submit)) { s.submits submit with run := run }
  | processPending (outcome : PendingOutcome) (run : StreamRun) (hwaits : s.waits outcome = true)
      (hrun : (streamRun maxPendingIo).step s.run
        (.processPending (s.getOverlappedResult outcome)) = some run) :
    Step maxPendingIo s (.stream (.processPending outcome))
      { s.collects outcome with run := run }
  | completes (k : ℕ) (result : IoResult) (op : IoOperation) (hop : s.pending[k]? = some op) :
    Step maxPendingIo s (.completes k result)
      { s.receives op result with
        pending := s.pending.set k { op with result := some result } }
  | completesLate (k : ℕ) (result : IoResult) (op : IoOperation)
      (hop : s.collected[k]? = some op) (hnone : op.result = none) :
    Step maxPendingIo s (.completesLate k result)
      { s.receives op result with
        collected := s.collected.set k { op with result := some result } }

/-- **What a step of a stream and the kernel does.** -/
theorem Step.of_step {e : StreamIoEvent} (h : (streamIo maxPendingIo).step s e = some s') :
    Step maxPendingIo s e s' := by
  cases e with
  | stream e =>
    obtain ⟨e', he, h⟩ := Option.bind_eq_some_iff.mp h
    obtain ⟨run, hrun, rfl⟩ := Option.map_eq_some_iff.mp h
    cases hkeeps : e.keepsOverlapped with
    | true =>
      have hevent : e' = e ∧ s.accounts e = s := by
        cases e <;> cases hkeeps <;> cases he <;> exact ⟨rfl, rfl⟩
      rw [hevent.1] at hrun
      rw [hevent.2]
      exact .keeps e run hkeeps hrun
    | false =>
      cases e with
      | start =>
        cases he
        exact .start run hrun
      | processQueued submit =>
        cases he
        exact .processQueued submit run hrun
      | processPending outcome =>
        unfold streamEvent at he
        dsimp only at he
        split at he
        · next hwaits =>
          cases he
          exact .processPending outcome run hwaits hrun
        · cases he
      | _ => cases hkeeps
  | completes k result =>
    obtain ⟨op, hop, h⟩ := Option.bind_eq_some_iff.mp h
    split at h
    · cases h
      exact .completes k result op hop
    · cases h
  | completesLate k result =>
    obtain ⟨op, hop, h⟩ := Option.bind_eq_some_iff.mp h
    split at h
    · next hcan =>
      cases h
      rw [IoOperation.canComplete, Bool.and_eq_true, Option.isNone_iff_eq_none] at hcan
      exact .completesLate k result op hop hcan.1
    · cases h

/-- Every transfer that was taken had its operation completed. -/
theorem Inv.not_completesLate (hs : Inv s) {k : ℕ} {op : IoOperation}
    (hop : s.collected[k]? = some op) : op.result ≠ none := by
  intro hnone
  have hdone := hs.collected op (List.mem_of_getElem? hop)
  rw [hnone] at hdone
  cases hdone

/-- When a thread starts, no operation is pending. -/
theorem Inv.pending_of_start (hs : Inv s) {run : StreamRun}
    (hrun : (streamRun maxPendingIo).step s.run .start = some run) : s.pending = [] := by
  have hpending := hs.pending
  rw [(hs.overlapped.start hrun).2.1] at hpending
  exact List.map_eq_nil_iff.mp hpending

/-- **A step in time keeps the operations in order.** -/
theorem Inv.step (hs : Inv s) {e : StreamIoEvent} (hok : collectsInTime s e)
    (h : (streamIo maxPendingIo).step s e = some s') : Inv s' := by
  cases Step.of_step h with
  | keeps e run hkeeps hrun =>
    obtain ⟨hlist, hused, hcount, hended, hidle⟩ := StreamRun.overlappeds_step hkeeps hrun
    exact hs.of_same (hs.overlapped.of_same hlist hused hcount hended hidle) hused
  | start run hrun =>
    obtain ⟨hstart, hnone, hnone'⟩ := hs.overlapped.start hrun
    refine ⟨hstart, ?_, hs.collected, fun op hop => ?_⟩
    · exact (hs.pending.trans hnone).trans hnone'.symm
    · dsimp only [allocates] at hop
      rw [hs.pending_of_start hrun] at hop
      cases hop
  | processQueued submit run hrun =>
    cases StreamRun.Step.of_step hrun with
    | processQueued _ ovlList run hlife hphase hovl hstep => exact hs.queued hovl hlife hstep
  | processPending outcome run hwaits hrun =>
    cases StreamRun.Step.of_step hrun with
    | processPending _ ovlList run hovl hstep => exact hs.pendingStep hovl hwaits hok hstep
  | completes k result op hop => exact hs.completes hop result
  | completesLate k result op hop hnone => exact absurd hnone (hs.not_completesLate hop)

theorem inv_start {handle : StmHandle} (hpendingIo : handle.pendingIO = 0) (users : ℕ) :
    Inv { run := .start handle users } where
  overlapped := ⟨fun hlive => absurd rfl hlive, hpendingIo, fun _ => rfl⟩
  pending := rfl
  collected _ hop := absurd hop List.not_mem_nil
  event _ hop := absurd hop List.not_mem_nil

end StreamIo

/-- **A stopping stream releases nothing that the kernel owns** in every run in which a transfer
that is taken off the pending list without a wait has its operation completed. -/
theorem releasesNothingPending_of_throughout (isIn noPartialXfers useTimeout : Bool)
    (maxTransferSize maxPendingTransfers maxPendingIo users : ℕ) {es : List StreamIoEvent}
    (h : (streamIo maxPendingIo).Throughout collectsInTime
      { run := .start (stmKInit isIn noPartialXfers useTimeout maxTransferSize maxPendingTransfers)
          users } es) :
    (streamIo maxPendingIo).Always ReleasesNothingPending
      { run := .start (stmKInit isIn noPartialXfers useTimeout maxTransferSize maxPendingTransfers)
          users } es :=
  h.always (fun _ hs => hs.releasesNothingPending) (fun _ _ _ hs hok hstep => hs.step hok hstep)
    (StreamIo.inv_start rfl users)

/-! ### A stop, in time and not -/

/-- An IN stream with one transfer item. -/
def oneTransfer : StreamIo :=
  { run := .start (stmKInit true false false 4 1) 0 }

/-- The transfer is submitted, the stream is stopped, and the wait of the last loop times out. -/
def stopTimesOut : List StreamIoEvent :=
  [.stream .start, .stream .started, .stream .loop, .stream (.processQueued ERROR_IO_PENDING),
    .stream (.processQueued ERROR_IO_PENDING), .stream .stop,
    .stream (.processPending { wait := .userApc }), .stream .loop, .stream .leave,
    .stream .synchronize, .stream .test, .stream (.processPending { wait := .timeout }),
    .stream .test]

section Takes

variable {stm : StmThread} {ovlList : DList ℕ} {outcome : PendingOutcome} {ovlNext : ℕ}
  {used : List ℕ}

/-- A transfer is taken whose overlapped points back to itself, such as the only one. -/
theorem releasesItself_of_self (hovl : stm.ovlList = some ovlList)
    (hused : stm.overlappeds = ovlNext :: used) (hprev : ovlList.prev ovlNext = some ovlNext) :
    ReleasesItself stm (.processPending outcome) := by
  intro _ ovlList' free ovlNext' hovl' hpath hfirst
  cases hovl.symm.trans hovl'
  rw [hused] at hfirst
  cases hfirst
  exact .inl hprev

/-- A transfer is taken while no overlapped is free. -/
theorem releasesItself_of_empty (hovl : stm.ovlList = some ovlList)
    (hused : stm.overlappeds = ovlNext :: used) (hhead : ovlList.head = none)
    (hprev : ovlList.prev ovlNext ≠ none) (hnext : ovlList.next ovlNext ≠ none) :
    ReleasesItself stm (.processPending outcome) := by
  intro _ ovlList' free ovlNext' hovl' hpath hfirst
  cases hovl.symm.trans hovl'
  rw [hused] at hfirst
  cases hfirst
  have hfree : free = [] := by
    rw [hhead] at hpath
    cases free with
    | nil => rfl
    | cons a free => cases hpath.1
  rw [hfree]
  exact .inr (DList.harmless_nil.mpr (.inr ⟨hprev, hnext⟩))

end Takes

/-- An IN stream with two transfer items. -/
def doubleBuffered : StreamIo :=
  { run := .start (stmKInit true false false 4 2) 0 }

/-- Both transfers are submitted, and completed and taken one after the other. -/
def bothTransfers : List StreamIoEvent :=
  [.stream .start, .stream .started, .stream .loop, .stream (.processQueued ERROR_IO_PENDING),
    .stream (.processQueued ERROR_IO_PENDING), .stream (.processQueued ERROR_IO_PENDING),
    .completes 0 { data := [1] }, .stream (.processPending {}), .stream .loop,
    .stream (.processQueued ERROR_IO_PENDING), .completes 0 { data := [2] },
    .stream (.processPending {})]

/-- The transfer is cancelled before the last loop comes back to it.  Of two transfers the
second one takes the overlapped of the first from the list, and no other. -/
theorem releasesNothingPending_of_throughout_cancelled :
    (streamIo 1).Always ReleasesNothingPending oneTransfer
        (stopTimesOut ++ [.completes 0 { error := some ERROR_OPERATION_ABORTED, data := [] },
          .stream (.processPending {}), .stream .test, .stream .exit]) ∧
      (streamIo 2).Always ReleasesNothingPending doubleBuffered bothTransfers := by
  have hdone : ∀ {s : StreamIo}, s.run.stm.noWaiting = false →
      s.run.stm.noWaiting = true → ∀ op ∈ s.pending.head?, op.result.isSome :=
    fun hwaits hmode => absurd (hwaits.symm.trans hmode) (by decide)
  constructor
  · apply releasesNothingPending_of_throughout true false false 4 1 1 0
    refine .cons rfl trivial (.cons rfl trivial (.cons rfl trivial (.cons rfl trivial
      (.cons rfl trivial (.cons rfl trivial
      (.cons rfl ⟨releasesItself_of_self rfl rfl rfl, hdone rfl⟩
      (.cons rfl trivial (.cons rfl trivial (.cons rfl trivial (.cons rfl trivial
      (.cons rfl ⟨releasesItself_of_self rfl rfl rfl, hdone rfl⟩ (.cons rfl trivial
      (.cons rfl trivial (.cons rfl ⟨releasesItself_of_self rfl rfl rfl, fun _ op hop => ?_⟩
      (.cons rfl trivial (.cons rfl trivial trivial))))))))))))))))
    cases hop
    rfl
  · apply releasesNothingPending_of_throughout true false false 4 2 2 0
    exact .cons rfl trivial (.cons rfl trivial (.cons rfl trivial (.cons rfl trivial
      (.cons rfl trivial (.cons rfl trivial (.cons rfl trivial
      (.cons rfl ⟨releasesItself_of_empty rfl rfl rfl (Option.some_ne_none _)
        (Option.some_ne_none _), hdone rfl⟩
      (.cons rfl trivial (.cons rfl trivial (.cons rfl trivial
      (.cons rfl ⟨releasesItself_of_self rfl rfl rfl, hdone rfl⟩ trivial)))))))))))

/-- An OUT stream with four transfer items. -/
def fourItems : StreamIo :=
  { run := .start (stmKInit false false false 1 4) 1 }

/-- Three bytes are written to a stopped stream; it is started, and the first two of the three
transfers end. -/
def threeTransfers : List StreamIoEvent :=
  [.stream (.call 0 (.write { length := 3, data := [1, 2, 3] })), .stream (.user 0),
    .stream (.user 0), .stream (.user 0), .stream (.user 0), .stream (.user 0), .stream (.user 0),
    .stream .start, .stream .started, .stream .loop, .stream (.processQueued ERROR_IO_PENDING),
    .stream (.processQueued ERROR_IO_PENDING), .stream (.processQueued ERROR_IO_PENDING),
    .stream (.processQueued ERROR_IO_PENDING), .completes 0 { data := [1] },
    .stream (.processPending {}), .stream .loop, .stream (.processQueued ERROR_IO_PENDING),
    .completes 0 { data := [2] }, .stream (.processPending {})]

/-- The last loop takes the transfer while its operation is pending: its item goes to the
`Finished` list, its overlapped is freed.  Without any timeout, the deletion of an overlapped
that is not linked any more links the overlapped of a pending transfer into the free list. -/
theorem not_releasesNothingPending_stop :
    ¬(streamIo 1).Always ReleasesNothingPending oneTransfer
        (stopTimesOut ++ [.stream (.processPending {})]) ∧
      ¬(streamIo 4).Always ReleasesNothingPending fourItems threeTransfers := by
  constructor
  · intro h
    have hlast := (h.exec rfl).collected
    exact absurd (hlast { index := 0, overlapped := 0, length := 4 } (by decide)) (by decide)
  · intro h
    have hlast := (h.exec rfl).free _ rfl { index := 2, overlapped := 2, length := 1 } (by decide)
      rfl
    exact hlast (.next (.head rfl) rfl)

end LibusbK
