import Mathlib.Data.Int.Notation
import Mathlib.Data.Nat.Notation

/-!
# The data of a stream

A stream owns a fixed set of transfer items.  An item is in one list at a time:
the `Queued` list of items to be submitted, the list of the submitted ones, which
is the stream thread's own, and the `Finished` list of the items the user may
fill or drain; `FinishedTemp` takes finished items while another thread holds the
lock of the `Finished` list.  These lists are used as a queue each, so they are
lists of items here.

A length is an `INT` that a check or the size of a buffer keeps at zero or above;
it is a natural number.  `APCTransferQueueCount` is an integer: an APC can be delivered
before its caller has counted it.
-/

namespace LibusbK

/-! ### Error codes -/

abbrev ERROR_SUCCESS : UInt32 := 0
abbrev ERROR_NO_MORE_ITEMS : UInt32 := 259
abbrev ERROR_OPERATION_ABORTED : UInt32 := 995
abbrev ERROR_IO_INCOMPLETE : UInt32 := 996
abbrev ERROR_IO_PENDING : UInt32 := 997
abbrev ERROR_CANCELLED : UInt32 := 1223
abbrev STATUS_USER_APC : UInt32 := 0xC0

/-! ### Transfer items -/

/-- `KSTM_XFER_CONTEXT`, without the state of the user.  `buffer` is the position
of `Public.Buffer` in the buffer of the item. -/
structure XferContext where
  buffer : ℕ := 0
  bufferSize : ℕ := 0
  transferLength : ℕ := 0
  deriving DecidableEq, Repr

/-- `KSTM_XFER_INTERNAL`, with the content of its buffer. -/
structure XferItem where
  index : ℕ
  bufferSize : ℕ
  data : List UInt8 := []
  context : XferContext := {}
  deriving DecidableEq, Repr

/-- The values of `Thread.State`. -/
inductive ThreadState
  | stopped
  | started
  | starting
  | stopping
  deriving DecidableEq, Repr

/-- `KSTM_HANDLE_INTERNAL`, as far as transfers depend on it.  `isIn` is the
direction of `Info->PipeID`, `noPartialXfers` is `KSTM_FLAG_NO_PARTIAL_XFERS` and
`semReady` the count of the semaphore, if there is one. -/
structure StmHandle where
  isIn : Bool := true
  noPartialXfers : Bool := false
  threadState : ThreadState := .stopped
  queued : List XferItem := []
  finished : List XferItem := []
  finishedTemp : List XferItem := []
  semReady : Option ℕ := none
  pendingIO : ℕ := 0
  aPCTransferQueueCount : ℤ := 0
  deriving DecidableEq, Repr

namespace StmHandle

/-- `ReleaseSemaphore`, if there is a semaphore. -/
def releaseSemaphore (h : StmHandle) (n : ℕ) : StmHandle :=
  { h with semReady := h.semReady.map (· + n) }

/-- `Stm_SynchronizeFinishedList`, when the lock was acquired. -/
def synchronizeFinishedList (h : StmHandle) (finishedXferItem : Option XferItem) : StmHandle :=
  let items := h.finishedTemp ++ finishedXferItem.toList
  { h with finishedTemp := [], finished := h.finished ++ items }.releaseSemaphore items.length

/-- `Stm_TransferListAPC`: the items a call of the user hands over are queued. -/
def transferListAPC (h : StmHandle) (xferSubmitList : List XferItem) : StmHandle :=
  { h with
    queued := h.queued ++ xferSubmitList
    aPCTransferQueueCount := h.aPCTransferQueueCount - 1 }

end StmHandle

end LibusbK
