import LibusbK.Dll.StreamRead

/-!
# Writing to a stream

The loop of `StmK_Write` of `lusbk_queued_stream.c`: it takes items off the `Finished` list
and fills them until it has placed all the bytes of the caller.

## Main definitions

* `fillFinished` — the loop.

## Main results

* `fillFinished_payload` — the items hold the bytes that were placed, in order.
* `fillFinished_index` — every item of the `Finished` list is either taken or left.
-/

namespace LibusbK

open Window

/-- `StmK_Write` copies `bytes` into an item. -/
def XferItem.fill (item : XferItem) (bytes : List UInt8) : XferItem :=
  { item with
    data := writeAt 0 bytes item.data
    context := { item.context with transferLength := bytes.length } }

/-- The bytes of an item that is submitted to an OUT pipe. -/
def XferItem.payload (item : XferItem) : List UInt8 :=
  window 0 item.context.transferLength item.data

/-- The arguments of a call of `StmK_Write`, and what the functions it calls return.  `data`
is what `Buffer` holds from `Offset` on; a `false` pointer is null. -/
structure StmKWriteCall where
  handleValid : Bool := true
  buffer : Bool := true
  offset : ℤ := 0
  length : ℤ
  data : List UInt8
  transferredLength : Bool := true
  poolHandleInc : Bool := true
  queueUserAPC : Bool := true
  deriving DecidableEq, Repr

/-- The checks of `StmK_Write` before it waits for an item. -/
def StmKWriteCall.accepted (call : StmKWriteCall) (handle : StmHandle) : Bool :=
  call.handleValid && call.buffer && decide (0 ≤ call.offset) && decide (0 < call.length) &&
    call.poolHandleInc && !handle.isIn &&
    (handle.threadState == .stopped || handle.threadState == .started)

/-- The loop of `StmK_Write`, with the bytes that are still to be placed. -/
def fillFinished : ℕ → List XferItem → Option ℕ → List UInt8 → Taken
  | _, [], semReady, bytes => { finished := [], semReady := semReady, length := bytes.length }
  | semCount, item :: finished, semReady, bytes =>
    match if 1 < semCount then waitSemaphore semReady else some semReady with
    | none => { finished := item :: finished, semReady := semReady, length := bytes.length }
    | some semReady =>
      let stage := bytes.take item.bufferSize
      let left := bytes.drop item.bufferSize
      if left.length = 0 then
        { finished := finished
          xferSubmitList := [item.fill stage]
          semReady := semReady
          length := 0
          data := stage }
      else
        let rest := fillFinished (semCount + 1) finished semReady left
        { rest with
          xferSubmitList := item.fill stage :: rest.xferSubmitList
          data := stage ++ rest.data }

@[simp] theorem index_fill (item : XferItem) (bytes : List UInt8) :
    (item.fill bytes).index = item.index := rfl

@[simp] theorem payload_fill (item : XferItem) (bytes : List UInt8) :
    (item.fill bytes).payload = bytes := window_zero_writeAt bytes item.data

/-- The items that are taken hold the bytes that were placed. -/
theorem fillFinished_payload (semCount : ℕ) (items : List XferItem) (semReady : Option ℕ)
    (bytes : List UInt8) :
    (fillFinished semCount items semReady bytes).xferSubmitList.flatMap XferItem.payload =
      (fillFinished semCount items semReady bytes).data := by
  induction items generalizing semCount semReady bytes with
  | nil => rfl
  | cons item items ih =>
    rw [fillFinished]
    split
    · rfl
    · next semReady' _ =>
      dsimp only
      split
      · rw [List.flatMap_singleton, payload_fill]
      · rw [List.flatMap_cons, payload_fill, ih]

/-- Every item is taken or left. -/
theorem fillFinished_index (semCount : ℕ) (items : List XferItem) (semReady : Option ℕ)
    (bytes : List UInt8) :
    ((fillFinished semCount items semReady bytes).xferSubmitList ++
      (fillFinished semCount items semReady bytes).finished).map XferItem.index =
      items.map XferItem.index := by
  induction items generalizing semCount semReady bytes with
  | nil => rfl
  | cons item items ih =>
    rw [fillFinished]
    split
    · rfl
    · next semReady' _ =>
      dsimp only
      split
      · rfl
      · rw [List.cons_append, List.map_cons, ih, List.map_cons, index_fill]

end LibusbK
