import LibusbK.Dll.StreamOut
import LibusbK.Dll.StreamSemaphore

/-!
# Writes that fail

`StmK_Write` of `lusbk_queued_stream.c`.  When it cannot go on after it took items, it puts
them back one by one and gives their counts back to the semaphore.  Then it stores zero to
`TransferredLength`, where `StmK_Read` asks first whether there is such a variable; a null
`TransferredLength` says that a part of the bytes is not to be sent.

## Main definitions

* `stmKWrite` — the function.
* `WriteUndone` — what a call that fails should leave behind.
* `WritesAtomically` — a call that cannot go on fails, and one that fails is undone.

## Main results

* `stmKWrite_handsOver` — a call hands over nothing but bytes of its own.
* `stmKWrite_writesAtomically_iff` — a call is atomic unless it reaches the error label with
  a null `TransferredLength`.
-/

namespace LibusbK

/-! ### `StmK_Write` -/

/-- What a call leaves behind: its result, the stream, what it stored in `TransferredLength`
if that is not null, and the list of items an APC carries to the stream thread. -/
structure StmKWriteResult where
  success : Bool
  handle : StmHandle
  transferredLength : ℕ := 0
  apc : Option (List XferItem) := none
  deriving DecidableEq, Repr

/-- The checks of `StmK_Write` that return at once. -/
def StmKWriteCall.entered (call : StmKWriteCall) : Bool :=
  call.handleValid && call.buffer && decide (0 ≤ call.offset) && decide (0 < call.length) &&
    call.poolHandleInc

/-- The items of `StmK_Write` go back, in the order its error path puts them. -/
def undoWrite (handle : StmHandle) (taken : Taken) : StmHandle :=
  { handle with
    finished := taken.xferSubmitList.foldl (fun list item => item :: list) taken.finished
    semReady := taken.semReady.map (· + taken.xferSubmitList.length) }

/-- The end of the error path of `StmK_Write`; there is no result when it stores to a null
`TransferredLength`. -/
def StmKWriteCall.fails (call : StmKWriteCall) (handle : StmHandle) : Option StmKWriteResult :=
  if call.transferredLength then some { success := false, handle := handle } else none

/-- `StmK_Write`, after its loop. -/
def writeTaken (call : StmKWriteCall) (handle : StmHandle) (taken : Taken) :
    Option StmKWriteResult :=
  let transferred := call.length.toNat - taken.length
  -- `mStm_CheckPartialTransfer`
  if 0 < taken.length ∧ (handle.noPartialXfers ∨ !call.transferredLength) then
    call.fails (undoWrite handle taken)
  -- `mStm_QueueTransferList`
  else if taken.xferSubmitList ≠ [] ∧ handle.threadState = .started then
    if !call.queueUserAPC then call.fails (undoWrite handle taken)
    else
      some
        { success := true
          handle :=
            { handle with
              finished := taken.finished
              semReady := taken.semReady
              aPCTransferQueueCount := handle.aPCTransferQueueCount + 1 }
          transferredLength := transferred
          apc := some taken.xferSubmitList }
  else
    some
      { success := true
        handle :=
          { handle with
            finished := taken.finished
            semReady := taken.semReady
            queued := handle.queued ++ taken.xferSubmitList }
        transferredLength := transferred }

/-- `StmK_Write`. -/
def stmKWrite (call : StmKWriteCall) (handle : StmHandle) : Option StmKWriteResult :=
  if !call.entered then some { success := false, handle := handle }
  -- an IN stream, or one that is starting or stopping
  else if !call.accepted handle then call.fails handle
  else
    match spinLockForTransferRequest handle with
    | none => call.fails handle
    | some semReady =>
      writeTaken call handle
        (fillFinished 1 handle.finished semReady (call.data.take call.length.toNat))

/-! ### What the loop takes -/

/-- The number of bytes that fit into a list of items. -/
def capacity (items : List XferItem) : ℕ := (items.map XferItem.bufferSize).sum

theorem capacity_cons (item : XferItem) (items : List XferItem) :
    capacity (item :: items) = item.bufferSize + capacity items := by
  rw [capacity, List.map_cons, List.sum_cons, capacity]

/-- The bytes that are left are those that the items to be had have no room for. -/
theorem fillFinished_length {semCount : ℕ} (hcount : 1 < semCount) (items : List XferItem)
    (semReady : Option ℕ) (bytes : List UInt8) :
    (fillFinished semCount items semReady bytes).length =
      bytes.length - capacity (obtainable semReady items) := by
  induction items generalizing semCount semReady bytes with
  | nil => cases semReady <;> simp [fillFinished, obtainable, capacity]
  | cons item items ih =>
    rw [fillFinished, if_pos hcount]
    -- the semaphore has nothing left, or an item is taken
    split
    · next hwait =>
      rw [waitSemaphore_eq_none.mp hwait]
      rfl
    · next semReady' hwait =>
      rw [obtainable_cons (waitSemaphore_eq_some hwait), capacity_cons]
      dsimp only
      split
      · next hleft =>
        rw [List.length_drop] at hleft
        dsimp only
        omega
      · dsimp only
        rw [ih (Nat.lt_succ_of_lt hcount), List.length_drop]
        omega

/-- The same for the whole loop, which has waited for its first item. -/
theorem fillFinished_first_length (item : XferItem) (items : List XferItem) (semReady : Option ℕ)
    (bytes : List UInt8) :
    (fillFinished 1 (item :: items) semReady bytes).length =
      bytes.length - capacity (item :: obtainable semReady items) := by
  rw [fillFinished, if_neg (by decide), capacity_cons]
  dsimp only
  split
  · next hleft =>
    rw [List.length_drop] at hleft
    dsimp only
    omega
  · dsimp only
    rw [fillFinished_length (Nat.lt_succ_self 1), List.length_drop]
    omega

/-- The loop takes the first item. -/
theorem fillFinished_first_ne_nil (item : XferItem) (items : List XferItem)
    (semReady : Option ℕ) (bytes : List UInt8) :
    (fillFinished 1 (item :: items) semReady bytes).xferSubmitList ≠ [] := by
  rw [fillFinished, if_neg (by decide)]
  dsimp only
  split <;> exact List.cons_ne_nil _ _

/-- The bytes are placed from the first one on. -/
theorem fillFinished_data (semCount : ℕ) (items : List XferItem) (semReady : Option ℕ)
    (bytes : List UInt8) : (fillFinished semCount items semReady bytes).data <+: bytes := by
  induction items generalizing semCount semReady bytes with
  | nil => exact List.nil_prefix
  | cons item items ih =>
    rw [fillFinished]
    split
    · exact List.nil_prefix
    · dsimp only
      split
      · exact List.take_prefix ..
      -- what the first item holds, and what was placed after it
      · have hrest := ih (semCount + 1) ‹_› (bytes.drop item.bufferSize)
        have hwhole := (List.prefix_append_right_inj (bytes.take item.bufferSize)).mpr hrest
        rwa [List.take_append_drop] at hwhole

/-! ### What a call hands over -/

/-- The items that a call hands over to the stream thread. -/
def handedOver (handle : StmHandle) (r : StmKWriteResult) : List XferItem :=
  r.apc.getD [] ++ r.handle.queued.drop handle.queued.length

theorem handedOver_of_fails {call : StmKWriteCall} {handle handle' : StmHandle}
    {r : StmKWriteResult} (h : call.fails handle' = some r)
    (hqueued : handle'.queued = handle.queued) : handedOver handle r = [] := by
  unfold StmKWriteCall.fails at h
  split at h
  · cases h
    rw [handedOver, hqueued, List.drop_length]
    rfl
  · cases h

theorem handedOver_writeTaken {call : StmKWriteCall} {handle : StmHandle} {taken : Taken}
    {r : StmKWriteResult} (h : writeTaken call handle taken = some r) :
    handedOver handle r = [] ∨ handedOver handle r = taken.xferSubmitList := by
  unfold writeTaken at h
  dsimp only at h
  split at h
  · exact .inl (handedOver_of_fails h rfl)
  split at h
  · split at h
    · exact .inl (handedOver_of_fails h rfl)
    · cases h
      refine .inr ?_
      rw [handedOver, List.drop_length, List.append_nil]
      rfl
  · cases h
    refine .inr ?_
    rw [handedOver, List.drop_left]
    rfl

/-- **A call hands over nothing but bytes of its own.** -/
theorem stmKWrite_handsOver {call : StmKWriteCall} {handle : StmHandle} {r : StmKWriteResult}
    (h : stmKWrite call handle = some r) : payloads (handedOver handle r) <+: call.data := by
  have hnone : handedOver handle r = [] → payloads (handedOver handle r) <+: call.data := by
    intro hnil
    rw [hnil]
    exact List.nil_prefix
  unfold stmKWrite at h
  split at h
  · cases h
    exact hnone (by rw [handedOver, List.drop_length]; rfl)
  split at h
  · exact hnone (handedOver_of_fails h rfl)
  split at h
  · exact hnone (handedOver_of_fails h rfl)
  · rcases handedOver_writeTaken h with hnil | htaken
    · exact hnone hnil
    · rw [htaken, payloads, fillFinished_payload]
      exact (fillFinished_data ..).trans (List.take_prefix ..)

/-! ### Failures -/

/-- **What a call that fails should leave behind**: the `Finished` list has the same items
again, the semaphore has its count, nothing else has changed, and what the call has written
into the items is not sent by the next call. -/
structure WriteUndone (handle : StmHandle) (r : StmKWriteResult) : Prop where
  finished : (r.handle.finished.map XferItem.index).Perm (handle.finished.map XferItem.index)
  semReady : r.handle.semReady = handle.semReady
  rest : { r.handle with finished := handle.finished, semReady := handle.semReady } = handle
  apc : r.apc = none
  unsent : ∀ call' r', stmKWrite call' r.handle = some r' →
    payloads (handedOver r.handle r') <+: call'.data

/-- The call cannot take all the bytes and must not take fewer, or it cannot queue the APC. -/
def StmKWriteCall.Refused (call : StmKWriteCall) (handle : StmHandle) : Prop :=
  (handle.noPartialXfers = true ∨ call.transferredLength = false) ∧
      capacity (obtainable handle.semReady handle.finished) < call.length.toNat ∨
    handle.threadState = .started ∧ call.queueUserAPC = false

/-- **The call returns; it fails when it is refused, and it is undone when it fails.** -/
def WritesAtomically (call : StmKWriteCall) (handle : StmHandle) : Prop :=
  ∃ r, stmKWrite call handle = some r ∧ (call.Refused handle → r.success = false) ∧
    (r.success = false → WriteUndone handle r)

/-- The call places all its bytes. -/
structure StmKWriteCall.Completes (call : StmKWriteCall) (handle : StmHandle) : Prop where
  accepted : call.accepted handle = true
  fits : call.length.toNat ≤ capacity (obtainable handle.semReady handle.finished)
  queued : handle.threadState = .started → call.queueUserAPC = true

section
variable {call : StmKWriteCall} {handle : StmHandle} {semReady : Option ℕ}

theorem WriteUndone.of_unchanged (handle : StmHandle) :
    WriteUndone handle { success := false, handle := handle } where
  finished := .refl _
  semReady := rfl
  rest := rfl
  apc := rfl
  unsent _ _ := stmKWrite_handsOver

/-- The error path gives back every item and every count that the loop has taken. -/
theorem writeUndone_undoWrite (hspin : spinLockForTransferRequest handle = some semReady)
    (bytes : List UInt8) :
    WriteUndone handle
      { success := false
        handle := undoWrite handle (fillFinished 1 handle.finished semReady bytes) } where
  finished := by
    have hindex := fillFinished_index 1 handle.finished semReady bytes
    generalize fillFinished 1 handle.finished semReady bytes = taken at hindex ⊢
    -- put back one by one, the items are in reverse order
    have hback : (undoWrite handle taken).finished =
        taken.xferSubmitList.reverse ++ taken.finished :=
      List.foldl_flip_cons_eq_append' ..
    rw [hback, ← hindex]
    exact ((List.reverse_perm _).append_right _).map _
  -- the wait before the lock is that of the first item
  semReady := by
    obtain ⟨⟨item, items, hfinished⟩, hsem⟩ := spinLockForTransferRequest_eq_some hspin
    have hfirst := fillFinished_first item items semReady bytes
    rw [← hfinished, ← hsem] at hfirst
    exact hfirst
  rest := rfl
  apc := rfl
  unsent _ _ := stmKWrite_handsOver

/-- A call that goes to the error label is atomic when it may store to `TransferredLength`. -/
theorem writesAtomically_iff_of_fails {handle' : StmHandle}
    (h : stmKWrite call handle = call.fails handle')
    (hundone : WriteUndone handle { success := false, handle := handle' }) :
    WritesAtomically call handle ↔ call.transferredLength = true := by
  unfold WritesAtomically
  rw [h, StmKWriteCall.fails]
  constructor
  · rintro ⟨r, hr, -⟩
    by_contra hnull
    rw [if_neg hnull] at hr
    cases hr
  · intro hlength
    exact ⟨_, if_pos hlength, fun _ => rfl, fun _ => hundone⟩

/-- A call that succeeds is atomic unless it is refused. -/
theorem writesAtomically_of_success {r : StmKWriteResult} (h : stmKWrite call handle = some r)
    (hsuccess : r.success = true) (hrefused : ¬call.Refused handle) :
    WritesAtomically call handle := by
  refine ⟨r, h, fun href => absurd href hrefused, fun hfalse => ?_⟩
  rw [hsuccess] at hfalse
  cases hfalse

/-- After its loop, a call goes to the error label exactly when it is refused. -/
theorem writeTaken_cases {taken : Taken} (hne : taken.xferSubmitList ≠ [])
    (hlength : taken.length =
      call.length.toNat - capacity (obtainable handle.semReady handle.finished)) :
    call.Refused handle ∧
        writeTaken call handle taken = call.fails (undoWrite handle taken) ∨
      ¬call.Refused handle ∧ ∃ r, writeTaken call handle taken = some r ∧ r.success = true := by
  have hpart : (0 < taken.length ∧ (handle.noPartialXfers ∨ !call.transferredLength)) ↔
      (handle.noPartialXfers = true ∨ call.transferredLength = false) ∧
        capacity (obtainable handle.semReady handle.finished) < call.length.toNat := by
    rw [hlength, Nat.sub_pos_iff_lt, and_comm, Bool.not_eq_true']
  unfold StmKWriteCall.Refused
  rw [← hpart, writeTaken]
  split
  · next hpartial => exact .inl ⟨.inl hpartial, rfl⟩
  · next hpartial =>
    split
    · next hstarted =>
      split
      · next hapc => exact .inl ⟨.inr ⟨hstarted.2, by simpa using hapc⟩, rfl⟩
      · next hapc =>
        refine .inr ⟨?_, _, rfl, rfl⟩
        rintro (h | ⟨-, h⟩)
        · exact hpartial h
        · exact hapc (by simp [h])
    · next hstarted =>
      refine .inr ⟨?_, _, rfl, rfl⟩
      rintro (h | ⟨h, -⟩)
      · exact hpartial h
      · exact hstarted ⟨hne, h⟩

/-- A call that gets an item goes to the error label exactly when it is refused. -/
theorem stmKWrite_cases (hentered : call.entered = true) (hacc : call.accepted handle = true)
    (hspin : spinLockForTransferRequest handle = some semReady)
    (hdata : call.length.toNat ≤ call.data.length) :
    call.Refused handle ∧
        stmKWrite call handle = call.fails (undoWrite handle
          (fillFinished 1 handle.finished semReady (call.data.take call.length.toNat))) ∨
      ¬call.Refused handle ∧ ∃ r, stmKWrite call handle = some r ∧ r.success = true := by
  obtain ⟨⟨item, items, hfinished⟩, hsem⟩ := spinLockForTransferRequest_eq_some hspin
  have hwrite : stmKWrite call handle = writeTaken call handle
      (fillFinished 1 handle.finished semReady (call.data.take call.length.toNat)) := by
    rw [stmKWrite, hentered, hacc, hspin]
    rfl
  have hne := fillFinished_first_ne_nil item items semReady (call.data.take call.length.toNat)
  have hlength := fillFinished_first_length item items semReady
    (call.data.take call.length.toNat)
  rw [List.length_take_of_le hdata, ← obtainable_cons hsem.symm, ← hfinished] at hlength
  rw [← hfinished] at hne
  rw [hwrite]
  exact writeTaken_cases hne hlength

theorem StmKWriteCall.Completes.not_refused (h : call.Completes handle) :
    ¬call.Refused handle := by
  rintro (⟨-, hshort⟩ | ⟨hstarted, hapc⟩)
  · exact Nat.not_lt.mpr h.fits hshort
  · rw [h.queued hstarted] at hapc
    cases hapc

/-- A call that is not refused, and must not send a part, places all its bytes. -/
theorem StmKWriteCall.completes_of_not_refused (hacc : call.accepted handle = true)
    (hnull : call.transferredLength = false) (h : ¬call.Refused handle) :
    call.Completes handle where
  accepted := hacc
  fits := by
    by_contra hshort
    exact h (.inl ⟨.inr hnull, Nat.not_le.mp hshort⟩)
  queued hstarted := by
    by_contra hapc
    exact h (.inr ⟨hstarted, Bool.not_eq_true _ ▸ hapc⟩)

/-- A call that places its bytes finds an item. -/
theorem StmKWriteCall.Completes.spinLock_ne_none (h : call.Completes handle) :
    spinLockForTransferRequest handle ≠ none := by
  intro hspin
  have hroom : capacity (obtainable handle.semReady handle.finished) = 0 := by
    rcases spinLockForTransferRequest_eq_none hspin with hnil | hzero
    · rw [hnil]
      cases handle.semReady <;> simp [obtainable, capacity]
    · rw [hzero]
      rfl
  have hlength : 0 < call.length := by
    have hacc := h.accepted
    simp only [StmKWriteCall.accepted, Bool.and_eq_true, decide_eq_true_eq] at hacc
    exact hacc.1.1.1.2
  have hfits := h.fits
  omega

end

/-- **A call of `StmK_Write` is atomic exactly when it may store to `TransferredLength`,
returns at once, or places all its bytes.** -/
theorem stmKWrite_writesAtomically_iff (call : StmKWriteCall) (handle : StmHandle)
    (hdata : call.length.toNat ≤ call.data.length) :
    WritesAtomically call handle ↔
      call.transferredLength = true ∨ call.entered = false ∨ call.Completes handle := by
  cases hentered : call.entered with
  | false =>
    refine iff_of_true ?_ (.inr (.inl rfl))
    have hwrite : stmKWrite call handle = some { success := false, handle := handle } := by
      rw [stmKWrite, hentered]
      rfl
    exact ⟨_, hwrite, fun _ => rfl, fun _ => .of_unchanged handle⟩
  | true =>
    -- a call that does not place its bytes is atomic only by its `TransferredLength`
    have hrhs : ¬call.Completes handle → (call.transferredLength = true ↔
        call.transferredLength = true ∨ true = false ∨ call.Completes handle) := by
      intro hnot
      simp [hnot]
    cases hacc : call.accepted handle with
    | false =>
      have hwrite : stmKWrite call handle = call.fails handle := by
        rw [stmKWrite, hentered, hacc]
        rfl
      rw [writesAtomically_iff_of_fails hwrite (.of_unchanged handle)]
      refine hrhs fun h => ?_
      rw [h.accepted] at hacc
      cases hacc
    | true =>
      cases hspin : spinLockForTransferRequest handle with
      | none =>
        have hwrite : stmKWrite call handle = call.fails handle := by
          rw [stmKWrite, hentered, hacc, hspin]
          rfl
        rw [writesAtomically_iff_of_fails hwrite (.of_unchanged handle)]
        exact hrhs fun h => h.spinLock_ne_none hspin
      | some semReady =>
        have hundone := writeUndone_undoWrite hspin (call.data.take call.length.toNat)
        -- the items are put back exactly if the call is refused
        rcases stmKWrite_cases hentered hacc hspin hdata with
          ⟨hrefused, hfails⟩ | ⟨hrefused, r, hr, htrue⟩
        · rw [writesAtomically_iff_of_fails hfails hundone]
          exact hrhs fun h => h.not_refused hrefused
        · refine iff_of_true (writesAtomically_of_success hr htrue hrefused) ?_
          cases hnull : call.transferredLength with
          | true => exact .inl rfl
          | false => exact .inr (.inr (call.completes_of_not_refused hacc hnull hrefused))

/-! ### A write that does not fit -/

/-- An item with one byte of room, of a stream to an OUT pipe with a semaphore. -/
def oneFinishedItem : StmHandle where
  isIn := false
  threadState := .started
  finished := [{ index := 0, bufferSize := 1, data := [0] }]
  semReady := some 1

/-- Two bytes that are to be sent both or not at all. -/
def bothOrNone : StmKWriteCall where
  length := 2
  data := [10, 11]
  transferredLength := false

/-- With a `TransferredLength` the same call is atomic, although it is refused. -/
theorem stmKWrite_writesAtomically_oneFinishedItem :
    WritesAtomically { bothOrNone with transferredLength := true }
      { oneFinishedItem with noPartialXfers := true } :=
  (stmKWrite_writesAtomically_iff { bothOrNone with transferredLength := true }
    { oneFinishedItem with noPartialXfers := true } (by decide)).mpr (.inl rfl)

/-- The call takes the item, cannot place its second byte, and stores to a null pointer. -/
theorem not_writesAtomically_bothOrNone :
    bothOrNone.accepted oneFinishedItem = true ∧ bothOrNone.Refused oneFinishedItem ∧
      stmKWrite bothOrNone oneFinishedItem = none ∧
      ¬WritesAtomically bothOrNone oneFinishedItem := by
  have hnone : stmKWrite bothOrNone oneFinishedItem = none := by decide
  refine ⟨by decide, .inl ⟨.inr rfl, by decide⟩, hnone, ?_⟩
  rintro ⟨r, hr, -⟩
  rw [hnone] at hr
  cases hr

end LibusbK
