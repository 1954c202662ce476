import LibusbK.Driver.Bulk
import LibusbK.Lib.Machine
import Mathlib.Tactic.SplitIfs

/-!
# A bulk pipe queue serving requests

A non-raw pipe queue dispatches sequentially: the next request is handed to its
transfer routine when the one before has been completed.  Between a submission
and its completion the stage is with the I/O target, which moves bytes between
the stage's memory and the device and then has the completion routine called.

`bulkQueue` is that system as a machine.  Its state keeps, besides the queue
context, what happened to each request: the stages it was moved in, what was
discarded for it, and how it was completed.

## Main definitions

* `Stage`, `Transfer`, `BulkQueue` — a stage, a request and a queue, with their
  histories.
* `bulkQueue` — the machine, for a pair of transfer and completion routines.
* `readQueue`, `writeQueue` — the queue of an IN pipe and of an OUT pipe.
-/

namespace LibusbK

open Window

/-! ### Stages -/

/-- A stage that has ended: its memory, the status the I/O target reported, and
the bytes that were moved. -/
structure Stage where
  memory : StageMemory
  status : NTSTATUS
  bytes : List UInt8
  deriving DecidableEq, Repr

namespace StageMemory

/-- The size of the memory a stage of the non-raw routines was given. -/
def room (qc : QueueContext) : StageMemory → ℕ
  | .overrun => qc.overBuf.length
  | .user ofs => ofs.bufferLength
  | .whole => qc.xfer.userMem.length
  | .urb _ => 0
  | .zlp => 0

/-- The I/O target stores received bytes in the memory of a stage. -/
def receive (qc : QueueContext) (bytes : List UInt8) : StageMemory → QueueContext
  | .overrun => { qc with overBuf := writeAt 0 bytes qc.overBuf }
  | .user ofs =>
    { qc with xfer := { qc.xfer with userMem := writeAt ofs.bufferOffset bytes qc.xfer.userMem } }
  | .whole => { qc with xfer := { qc.xfer with userMem := writeAt 0 bytes qc.xfer.userMem } }
  | .urb _ => qc
  | .zlp => qc

section
variable (qc : QueueContext) (bytes : List UInt8) (memory : StageMemory)

@[simp] theorem info_receive : (memory.receive qc bytes).info = qc.info := by
  cases memory <;> rfl

@[simp] theorem overOfs_receive : (memory.receive qc bytes).overOfs = qc.overOfs := by
  cases memory <;> rfl

@[simp] theorem length_receive : (memory.receive qc bytes).xfer.length = qc.xfer.length := by
  cases memory <;> rfl

@[simp] theorem transferred_receive :
    (memory.receive qc bytes).xfer.transferred = qc.xfer.transferred := by
  cases memory <;> rfl

end

/-- The bytes the memory of a stage offers for sending. -/
def outgoing (qc : QueueContext) : StageMemory → List UInt8
  | .overrun => qc.overBuf
  | .user ofs => window ofs.bufferOffset ofs.bufferLength qc.xfer.userMem
  | .whole => qc.xfer.userMem
  | .urb _ => []
  | .zlp => []

end StageMemory

/-! ### Requests -/

/-- How a request was completed: the status, the length reported, and the bytes
of the user's memory below that length. -/
structure Completion where
  status : NTSTATUS
  information : ℕ
  returned : List UInt8
  deriving DecidableEq, Repr

/-- What has happened to one request.  `before` is the queue context it found
and `pending` the memory of the stage that is with the I/O target. -/
structure Transfer where
  request : RequestContext
  before : QueueContext
  stages : List Stage := []
  pending : Option StageMemory := none
  discarded : List UInt8 := []
  completion : Option Completion := none
  deriving DecidableEq, Repr

namespace Transfer

/-- A request as the queue is handed it. -/
def start (rc : RequestContext) (qc : QueueContext) : Transfer := { request := rc, before := qc }

@[simp] theorem request_start (rc : RequestContext) (qc : QueueContext) :
    (start rc qc).request = rc := rfl

/-- The bytes the device delivered for this request. -/
def received (t : Transfer) : List UInt8 := t.stages.flatMap Stage.bytes

/-- The bytes this request took out of the stream: those it returned, then those
discarded for it. -/
def consumed (t : Transfer) : List UInt8 :=
  (t.completion.elim [] Completion.returned) ++ t.discarded

/-- One effect of a routine, seen from the request it serves; `qc` is the queue
context the routine leaves behind. -/
def note (qc : QueueContext) (t : Transfer) : Effect → Transfer
  | .resetPipe _ => t
  | .discard bytes => { t with discarded := t.discarded ++ bytes }
  | .send _ memory => { t with pending := some memory }
  | .complete status information =>
    { t with completion := some ⟨status, information, qc.xfer.userMem.take information⟩ }

/-- The request after a routine has run for it. -/
def run (t : Transfer) (s : Served) : Transfer := s.effects.foldl (note s.queue) t

/-- A routine does not touch the request, what it found, or the stages that have
ended. -/
theorem run_frame (t : Transfer) (s : Served) : (t.run s).request = t.request ∧
    (t.run s).before = t.before ∧ (t.run s).stages = t.stages := by
  have hnote : ∀ (es : List Effect) (t : Transfer),
      (es.foldl (note s.queue) t).request = t.request ∧
        (es.foldl (note s.queue) t).before = t.before ∧
        (es.foldl (note s.queue) t).stages = t.stages := by
    intro es
    induction es with
    | nil => exact fun t => ⟨rfl, rfl, rfl⟩
    | cons e es ih =>
      intro t
      obtain ⟨hreq, hbefore, hstages⟩ := ih (note s.queue t e)
      rw [List.foldl_cons, hreq, hbefore, hstages]
      cases e <;> exact ⟨rfl, rfl, rfl⟩
  exact hnote s.effects t

@[simp] theorem request_run (t : Transfer) (s : Served) : (t.run s).request = t.request :=
  (run_frame t s).1

@[simp] theorem before_run (t : Transfer) (s : Served) : (t.run s).before = t.before :=
  (run_frame t s).2.1

@[simp] theorem stages_run (t : Transfer) (s : Served) : (t.run s).stages = t.stages :=
  (run_frame t s).2.2

/-- What becomes of a request is decided by the effects that give it away. -/
theorem run_handoff (t : Transfer) (s : Served) :
    (t.run s).completion = (s.handoff.foldl (note s.queue) t).completion ∧
      (t.run s).pending = (s.handoff.foldl (note s.queue) t).pending := by
  have hnote : ∀ (es : List Effect) (t u : Transfer), t.completion = u.completion →
      t.pending = u.pending →
      (es.foldl (note s.queue) t).completion =
          ((es.filter fun e => !e.isQuiet).foldl (note s.queue) u).completion ∧
        (es.foldl (note s.queue) t).pending =
          ((es.filter fun e => !e.isQuiet).foldl (note s.queue) u).pending := by
    intro es
    induction es with
    | nil => exact fun t u hc hp => ⟨hc, hp⟩
    | cons e es ih =>
      intro t u hc hp
      cases e with
      | resetPipe status => exact ih _ _ hc hp
      | discard bytes => exact ih _ _ hc hp
      | send routine memory => exact ih _ _ hc rfl
      | complete status information => exact ih _ _ rfl hp
  exact hnote s.effects t t rfl rfl

/-- A routine that completes the request ends it. -/
theorem run_of_complete {t : Transfer} {s : Served} {status : NTSTATUS} {n : ℕ}
    (h : s.handoff = [.complete status n]) :
    (t.run s).completion = some ⟨status, n, s.queue.xfer.userMem.take n⟩ ∧
      (t.run s).pending = t.pending := by
  obtain ⟨hc, hp⟩ := t.run_handoff s
  rw [h] at hc hp
  exact ⟨hc, hp⟩

/-- A routine that sends a stage leaves the request in progress. -/
theorem run_of_send {t : Transfer} {s : Served} {routine : Routine} {memory : StageMemory}
    (h : s.handoff = [.send routine memory]) :
    (t.run s).completion = t.completion ∧ (t.run s).pending = some memory := by
  obtain ⟨hc, hp⟩ := t.run_handoff s
  rw [h] at hc hp
  exact ⟨hc, hp⟩

@[simp] theorem received_run (t : Transfer) (s : Served) : (t.run s).received = t.received := by
  rw [received, received, stages_run]

/-- A pipe reset leaves no trace in the request. -/
theorem run_after_handlePipeResetScenarios (t : Transfer) (fw : Framework) (rc : RequestContext)
    (qc : QueueContext) (s : Served) :
    t.run (s.after (handlePipeResetScenarios fw rc qc).2) = t.run s := by
  have hnote : ∀ (es : List Effect) (q : QueueContext), (∀ e ∈ es, e = .resetPipe fw.resetPipe) →
      es.foldl (note q) t = t := by
    intro es q hes
    induction es with
    | nil => rfl
    | cons e es ih =>
      rw [List.foldl_cons, hes e List.mem_cons_self]
      exact ih fun e he => hes e (List.mem_cons_of_mem _ he)
  rw [run, run, Served.effects_after, Served.queue_after, List.foldl_append,
    hnote _ _ fun _ => eq_resetPipe_of_mem_handlePipeResetScenarios fw rc qc]

/-- The request after its pending stage has ended. -/
def endStage (t : Transfer) (stage : Stage) : Transfer :=
  { t with stages := t.stages ++ [stage], pending := none }

@[simp] theorem request_endStage (t : Transfer) (stage : Stage) :
    (t.endStage stage).request = t.request := rfl

@[simp] theorem received_endStage (t : Transfer) (stage : Stage) :
    (t.endStage stage).received = t.received ++ stage.bytes := by
  simp [received, endStage]

end Transfer

/-! ### The queue -/

/-- A pipe queue: its context, the request in progress, and those completed. -/
structure BulkQueue where
  queue : QueueContext
  current : Option Transfer := none
  finished : List Transfer := []
  deriving DecidableEq, Repr

/-- What can happen at a queue: it is handed a request, or the stage of the
request in progress ends. -/
inductive BulkEvent
  | request (fw : Framework) (rc : RequestContext)
  | stageDone (fw : Framework) (status : NTSTATUS) (bytes : List UInt8)

namespace BulkQueue

/-- The queue after a routine has run for `t`, which is over when the routine
completed it. -/
def settle (finished : List Transfer) (t : Transfer) (s : Served) : BulkQueue :=
  let t := t.run s
  if t.completion.isSome then { queue := s.queue, finished := finished ++ [t] }
  else { queue := s.queue, current := some t, finished := finished }

/-- The requests in the order they arrived, the one in progress included. -/
def requests (s : BulkQueue) : List Transfer := s.finished ++ s.current.toList

/-- The bytes the device delivered. -/
def delivered (s : BulkQueue) : List UInt8 := s.requests.flatMap Transfer.received

/-- The bytes that were returned to a user or discarded. -/
def log (s : BulkQueue) : List UInt8 := s.requests.flatMap Transfer.consumed

theorem settle_of_some {finished : List Transfer} {t : Transfer} {s : Served} {c : Completion}
    (h : (t.run s).completion = some c) :
    settle finished t s = { queue := s.queue, finished := finished ++ [t.run s] } := by
  simp [settle, h]

theorem settle_of_none {finished : List Transfer} {t : Transfer} {s : Served}
    (h : (t.run s).completion = none) :
    settle finished t s =
      { queue := s.queue, current := some (t.run s), finished := finished } := by
  simp [settle, h]

section
variable (qc : QueueContext) (t : Transfer) (finished : List Transfer)

@[simp] theorem delivered_idle : (BulkQueue.mk qc none finished).delivered =
    finished.flatMap Transfer.received := by
  simp [delivered, requests]

@[simp] theorem delivered_busy : (BulkQueue.mk qc (some t) finished).delivered =
    finished.flatMap Transfer.received ++ t.received := by
  simp [delivered, requests]

@[simp] theorem log_idle : (BulkQueue.mk qc none finished).log =
    finished.flatMap Transfer.consumed := by
  simp [log, requests]

@[simp] theorem log_busy : (BulkQueue.mk qc (some t) finished).log =
    finished.flatMap Transfer.consumed ++ t.consumed := by
  simp [log, requests]

end

end BulkQueue

/-- The routines that serve the requests of a non-raw pipe queue, and the way
the I/O target moves bytes on that pipe. -/
structure BulkRoutines where
  submit : Framework → RequestContext → QueueContext → Served
  complete : Framework → RequestContext → NTSTATUS → ℕ → QueueContext → Served
  /-- The bytes a stage can move. -/
  canMove : QueueContext → StageMemory → List UInt8 → Bool
  /-- What moving them does to the memory of the queue. -/
  move : QueueContext → StageMemory → List UInt8 → QueueContext

/-- The queue that serves its requests with `r`. -/
def bulkQueue (r : BulkRoutines) : Machine BulkQueue BulkEvent where
  step
    | ⟨qc, none, finished⟩, .request fw rc =>
      some (.settle finished (.start rc qc) (r.submit fw rc qc))
    | ⟨qc, some t, finished⟩, .stageDone fw status bytes =>
      match t.pending with
      | none => none
      | some memory =>
        if r.canMove qc memory bytes then
          some (.settle finished (t.endStage ⟨memory, status, bytes⟩)
            (r.complete fw t.request status bytes.length (r.move qc memory bytes)))
        else none
    | _, _ => none

/-- What a step of the queue is: an idle queue serves a request, or the pending
stage of the request in progress ends and its completion routine runs. -/
theorem bulkQueue_step_cases {r : BulkRoutines} {s s' : BulkQueue} {e : BulkEvent}
    (h : (bulkQueue r).step s e = some s') :
    (∃ fw rc, e = .request fw rc ∧ s.current = none ∧
      s' = .settle s.finished (.start rc s.queue) (r.submit fw rc s.queue)) ∨
    (∃ fw status bytes t memory, e = .stageDone fw status bytes ∧ s.current = some t ∧
      t.pending = some memory ∧ r.canMove s.queue memory bytes = true ∧
      s' = .settle s.finished (t.endStage ⟨memory, status, bytes⟩)
        (r.complete fw t.request status bytes.length (r.move s.queue memory bytes))) := by
  obtain ⟨qc, current, finished⟩ := s
  cases current with
  | none =>
    cases e with
    | request fw rc => exact .inl ⟨fw, rc, rfl, rfl, (Option.some.inj h).symm⟩
    | stageDone fw status bytes => cases h
  | some t =>
    cases e with
    | request fw rc => cases h
    | stageDone fw status bytes =>
      simp only [bulkQueue] at h
      cases hpend : t.pending with
      | none =>
        rw [hpend] at h
        cases h
      | some memory =>
        rw [hpend] at h
        dsimp only at h
        split_ifs at h with hmove
        exact .inr ⟨fw, status, bytes, t, memory, rfl, rfl, hpend, hmove,
          (Option.some.inj h).symm⟩

/-- `Xfer_ReadBulk` and `Xfer_ReadBulkComplete` on an IN pipe: a stage receives
any bytes that fit its memory. -/
def readRoutines : BulkRoutines where
  submit := xferReadBulk
  complete := xferReadBulkComplete
  canMove qc memory bytes := bytes.length ≤ memory.room qc
  move qc memory bytes := memory.receive qc bytes

/-- `Xfer_WriteBulk` and `Xfer_WriteBulkComplete` on an OUT pipe: a stage sends
the first bytes of its memory. -/
def writeRoutines : BulkRoutines where
  submit := xferWriteBulk
  complete := xferWriteBulkComplete
  canMove qc memory bytes := bytes.isPrefixOf (memory.outgoing qc)
  move qc _ _ := qc

/-- The queue of a bulk or interrupt IN pipe. -/
def readQueue : Machine BulkQueue BulkEvent := bulkQueue readRoutines

/-- The queue of a bulk or interrupt OUT pipe. -/
def writeQueue : Machine BulkQueue BulkEvent := bulkQueue writeRoutines

end LibusbK
