import LibusbK.Dll.Stream
import LibusbK.Lib.Window
import Mathlib.Algebra.Ring.Nat
import Mathlib.Tactic.SplitIfs

/-!
# Reading from a stream

`StmK_Read` of `lusbk_queued_stream.c`.  It takes items off the `Finished` list
until it has the bytes asked for, leaves an item it needs only a part of in the
list, and hands the others to the stream thread.  When it fails after that, it
puts the items back.

## Main definitions

* `takeFinished` — the loop that takes the items.
* `stmKRead` — the function.
* `AtomicOnFailure` — a call that fails leaves the stream as it was.

## Main results

* `stmKRead_atomicOnFailure_iff` — a call leaves the stream as it was when it
  fails, unless it fails after taking two or more items: these are put back in
  reverse order.
-/

namespace LibusbK

open Window

/-! ### Taking items -/

/-- `WaitForSingleObject(SemReady, 0)`, where there is a semaphore. -/
def waitSemaphore : Option ℕ → Option (Option ℕ)
  | none => some none
  | some 0 => none
  | some (n + 1) => some (some n)

/-- The bytes of an item that `StmK_Read` copies for a stage of `stageSize` bytes. -/
def XferItem.stage (item : XferItem) (stageSize : ℕ) : List UInt8 :=
  window item.context.buffer stageSize item.data

/-- An item of which the first `stageSize` bytes have been read. -/
def XferItem.consume (item : XferItem) (stageSize : ℕ) : XferItem :=
  { item with
    context :=
      { buffer := item.context.buffer + stageSize
        bufferSize := item.context.bufferSize - stageSize
        transferLength := item.context.transferLength - stageSize } }

/-- What the loop of `StmK_Read` leaves behind: the lists, the semaphore, the bytes
still to be read, those copied, and the item it took a part of, as it was. -/
structure Taken where
  finished : List XferItem
  xferSubmitList : List XferItem := []
  semReady : Option ℕ
  length : ℕ
  data : List UInt8 := []
  backupXferItem : Option XferItem := none
  deriving DecidableEq, Repr

/-- The loop of `StmK_Read`. -/
def takeFinished : ℕ → List XferItem → Option ℕ → ℕ → Taken
  | _, [], semReady, length => { finished := [], semReady := semReady, length := length }
  | semCount, item :: finished, semReady, length =>
    match if 1 < semCount then waitSemaphore semReady else some semReady with
    | none => { finished := item :: finished, semReady := semReady, length := length }
    | some semReady =>
      let stageSize := min length item.context.transferLength
      if 0 < item.context.transferLength - stageSize then
        { finished := item.consume stageSize :: finished
          semReady := semReady.map (· + 1)
          length := length - stageSize
          data := item.stage stageSize
          backupXferItem := some item }
      else if length - stageSize = 0 then
        { finished := finished
          xferSubmitList := [item]
          semReady := semReady
          length := 0
          data := item.stage stageSize }
      else
        let rest := takeFinished (semCount + 1) finished semReady (length - stageSize)
        { rest with
          xferSubmitList := item :: rest.xferSubmitList
          data := item.stage stageSize ++ rest.data }

/-! ### `StmK_Read` -/

/-- The arguments of a call of `StmK_Read`, and what the functions it calls return.
A `false` pointer is null. -/
structure StmKReadCall where
  handleValid : Bool := true
  buffer : Bool := true
  offset : ℤ := 0
  length : ℤ
  transferredLength : Bool := true
  poolHandleInc : Bool := true
  queueUserAPC : Bool := true
  deriving DecidableEq, Repr

/-- What a call leaves behind: its result, the stream, the bytes it stored from
`Offset` on, what it stored in `TransferredLength`, and the list of items an APC
carries to the stream thread. -/
structure StmKReadResult where
  success : Bool
  handle : StmHandle
  data : List UInt8 := []
  transferredLength : ℕ := 0
  apc : Option (List XferItem) := none
  deriving DecidableEq, Repr

/-- `mStm_SpinLockForTransferRequest`: the semaphore after the wait, unless it goes
to its error label. -/
def spinLockForTransferRequest (handle : StmHandle) : Option (Option ℕ) :=
  (waitSemaphore handle.semReady).bind fun semReady =>
    if handle.finished = [] then none else some semReady

/-- The items and the backup of `StmK_Read` go back, in the order its error path
puts them. -/
def putBack (handle : StmHandle) (taken : Taken) : StmHandle :=
  match taken.xferSubmitList with
  | [] => { handle with finished := taken.finished, semReady := taken.semReady }
  | _ =>
    let finished :=
      match taken.backupXferItem with
      | none => taken.finished
      | some item => item :: taken.finished.tail
    { handle with
      finished := taken.xferSubmitList.foldl (fun list item => item :: list) finished
      semReady := taken.semReady.map (· + taken.xferSubmitList.length) }

/-- `StmK_Read`, after its loop. -/
def readTaken (call : StmKReadCall) (handle : StmHandle) (taken : Taken) : StmKReadResult :=
  let fail : StmKReadResult :=
    { success := false, handle := putBack handle taken, data := taken.data }
  let transferred := call.length.toNat - taken.length
  if 0 < taken.length ∧ handle.noPartialXfers then fail
  else if taken.xferSubmitList ≠ [] ∧ handle.threadState = .started then
    if !call.queueUserAPC then fail
    else
      { success := true
        handle :=
          { handle with
            finished := taken.finished
            semReady := taken.semReady
            aPCTransferQueueCount := handle.aPCTransferQueueCount + 1 }
        data := taken.data
        transferredLength := transferred
        apc := some taken.xferSubmitList }
  else
    { success := true
      handle :=
        { handle with
          finished := taken.finished
          semReady := taken.semReady
          queued := handle.queued ++ taken.xferSubmitList }
      data := taken.data
      transferredLength := transferred }

/-- The checks of `StmK_Read` before it waits for an item. -/
def StmKReadCall.accepted (call : StmKReadCall) (handle : StmHandle) : Bool :=
  call.handleValid && call.buffer && decide (0 ≤ call.offset) && decide (0 < call.length) &&
    call.transferredLength && call.poolHandleInc && handle.isIn &&
    (handle.threadState == .stopped || handle.threadState == .started)

/-- `StmK_Read`. -/
def stmKRead (call : StmKReadCall) (handle : StmHandle) : StmKReadResult :=
  if !call.accepted handle then { success := false, handle := handle }
  else
    match spinLockForTransferRequest handle with
    | none => { success := false, handle := handle }
    | some semReady =>
      readTaken call handle (takeFinished 1 handle.finished semReady call.length.toNat)

/-! ### What the loop takes, and what is left -/

/-- The `Finished` list with the item that was read in part as it was. -/
def Taken.restored (taken : Taken) : List XferItem :=
  match taken.backupXferItem with
  | none => taken.finished
  | some item => item :: taken.finished.tail

/-- The items the semaphore lets `StmK_Read` take after the first one. -/
def obtainable (semReady : Option ℕ) (items : List XferItem) : List XferItem :=
  match semReady with
  | none => items
  | some n => items.take n

/-- The number of bytes in a list of items. -/
def bytesIn (items : List XferItem) : ℕ := (items.map fun item => item.context.transferLength).sum

theorem waitSemaphore_eq_none {semReady : Option ℕ} :
    waitSemaphore semReady = none ↔ semReady = some 0 := by
  unfold waitSemaphore
  split <;> simp

/-- A wait that ends takes one from the count. -/
theorem waitSemaphore_eq_some {semReady semReady' : Option ℕ}
    (h : waitSemaphore semReady = some semReady') : semReady'.map (· + 1) = semReady := by
  unfold waitSemaphore at h
  split at h <;> cases h <;> rfl

/-- The semaphore lets one more item be had than after a wait. -/
theorem obtainable_cons {semReady semReady' : Option ℕ} (hsem : semReady'.map (· + 1) = semReady)
    (item : XferItem) (items : List XferItem) :
    obtainable semReady (item :: items) = item :: obtainable semReady' items := by
  subst hsem
  cases semReady' <;> rfl

theorem bytesIn_cons (item : XferItem) (items : List XferItem) :
    bytesIn (item :: items) = item.context.transferLength + bytesIn items := by
  rw [bytesIn, List.map_cons, List.sum_cons, bytesIn]

/-- No item is lost or changed, apart from the part of it that was read. -/
theorem takeFinished_restored (semCount : ℕ) (items : List XferItem) (semReady : Option ℕ)
    (length : ℕ) :
    (takeFinished semCount items semReady length).xferSubmitList ++
      (takeFinished semCount items semReady length).restored = items := by
  induction items generalizing semCount semReady length with
  | nil => rfl
  | cons item items ih =>
    rw [takeFinished]
    split
    · rfl
    · next semReady' _ =>
      dsimp only
      split
      · rfl
      split
      · rfl
      · exact congrArg (item :: ·) (ih (semCount + 1) semReady' _)

/-- After the first item, every item taken costs one count of the semaphore. -/
theorem takeFinished_semReady {semCount : ℕ} (hcount : 1 < semCount) (items : List XferItem)
    (semReady : Option ℕ) (length : ℕ) :
    (takeFinished semCount items semReady length).semReady.map
        (· + (takeFinished semCount items semReady length).xferSubmitList.length) = semReady := by
  induction items generalizing semCount semReady length with
  | nil => exact Option.map_id'
  | cons item items ih =>
    rw [takeFinished, if_pos hcount]
    split
    · exact Option.map_id'
    · next semReady' hwait =>
      have hsem := waitSemaphore_eq_some hwait
      dsimp only
      split
      · rw [← hsem]
        cases semReady' <;> rfl
      split
      · exact hsem
      · have hrest := ih (Nat.lt_succ_of_lt hcount) semReady'
          (length - min length item.context.transferLength)
        generalize takeFinished (semCount + 1) items semReady'
          (length - min length item.context.transferLength) = rest at hrest ⊢
        calc rest.semReady.map (· + (rest.xferSubmitList.length + 1))
            = (rest.semReady.map (· + rest.xferSubmitList.length)).map (· + 1) := by
              rw [Option.map_map]
              rfl
          _ = semReady := by rw [hrest, hsem]

/-- The bytes still to be read are those that cannot be had. -/
theorem takeFinished_length {semCount : ℕ} (hcount : 1 < semCount) (items : List XferItem)
    (semReady : Option ℕ) (length : ℕ) :
    (takeFinished semCount items semReady length).length =
      length - bytesIn (obtainable semReady items) := by
  induction items generalizing semCount semReady length with
  | nil =>
    cases semReady <;> simp [takeFinished, obtainable, bytesIn]
  | cons item items ih =>
    rw [takeFinished, if_pos hcount]
    split
    · next hwait =>
      rw [waitSemaphore_eq_none.mp hwait]
      rfl
    · next semReady' hwait =>
      rw [obtainable_cons (waitSemaphore_eq_some hwait), bytesIn_cons]
      dsimp only
      split
      · dsimp only
        omega
      split
      · dsimp only
        omega
      · rw [ih (Nat.lt_succ_of_lt hcount)]
        omega

/-- After the first item, another one is taken whole if there is one, the semaphore
lets it be taken, and all of it is asked for. -/
theorem takeFinished_ne_nil {semCount : ℕ} (hcount : 1 < semCount) (items : List XferItem)
    (semReady : Option ℕ) (length : ℕ) :
    (takeFinished semCount items semReady length).xferSubmitList ≠ [] ↔
      ∃ next rest, items = next :: rest ∧ semReady ≠ some 0 ∧
        next.context.transferLength ≤ length := by
  cases items with
  | nil => simp [takeFinished]
  | cons next rest =>
    rw [takeFinished, if_pos hcount]
    split
    · next hwait =>
      have hsem := waitSemaphore_eq_none.mp hwait
      simp [hsem]
    · next semReady' hwait =>
      have hsem : semReady ≠ some 0 := fun h => by
        rw [waitSemaphore_eq_none.mpr h] at hwait
        cases hwait
      dsimp only
      split
      · next hpart =>
        refine iff_of_false (by simp) ?_
        rintro ⟨_, _, heq, -, hle⟩
        cases heq
        omega
      split
      · exact iff_of_true (by simp) ⟨next, rest, rfl, hsem, by omega⟩
      · exact iff_of_true (by simp) ⟨next, rest, rfl, hsem, by omega⟩

/-- What `StmK_Read` takes of a `Finished` list that starts with `item`. -/
theorem takeFinished_first (item : XferItem) (items : List XferItem) (semReady : Option ℕ)
    (length : ℕ) :
    let taken := takeFinished 1 (item :: items) semReady length
    taken.semReady.map (· + taken.xferSubmitList.length) = semReady.map (· + 1) ∧
      taken.length = length - bytesIn (item :: obtainable semReady items) ∧
      (taken.xferSubmitList = [] → taken.length = 0) ∧
      (2 ≤ taken.xferSubmitList.length ↔ item.context.transferLength < length ∧
        ∃ next rest, items = next :: rest ∧ semReady ≠ some 0 ∧
          next.context.transferLength ≤ length - item.context.transferLength) := by
  rw [takeFinished, if_neg (by decide), bytesIn_cons]
  dsimp only
  split
  · next hpart =>
    refine ⟨by cases semReady <;> rfl, by dsimp only; omega, fun _ => (by dsimp only; omega), ?_⟩
    exact iff_of_false (by simp) fun h => (by omega)
  split
  · next hzero =>
    refine ⟨by cases semReady <;> rfl, by dsimp only; omega, fun _ => rfl, ?_⟩
    exact iff_of_false (by simp) fun h => (by omega)
  · next hpart hmore =>
    have hstage : min length item.context.transferLength = item.context.transferLength := by omega
    have hlt : item.context.transferLength < length := by omega
    rw [hstage]
    have hsem := takeFinished_semReady (Nat.lt_succ_self 1) items semReady
      (length - item.context.transferLength)
    have hlen := takeFinished_length (Nat.lt_succ_self 1) items semReady
      (length - item.context.transferLength)
    have hnext := takeFinished_ne_nil (Nat.lt_succ_self 1) items semReady
      (length - item.context.transferLength)
    generalize takeFinished (1 + 1) items semReady (length - item.context.transferLength) = rest
      at hsem hlen hnext ⊢
    refine ⟨?_, by dsimp only; omega, fun h => absurd h (List.cons_ne_nil _ _), ?_⟩
    · rw [← hsem, Option.map_map]
      rfl
    · rw [← hnext, List.length_cons, ← List.length_pos_iff]
      omega

/-! ### Failures -/

/-- The call fails without an effect on the stream, or it succeeds. -/
structure AtomicOnFailure (call : StmKReadCall) (handle : StmHandle) : Prop where
  finished : (stmKRead call handle).success = false →
    (stmKRead call handle).handle.finished = handle.finished
  semReady : (stmKRead call handle).success = false →
    (stmKRead call handle).handle.semReady = handle.semReady
  next : (stmKRead call handle).success = false →
    ∀ call', stmKRead call' (stmKRead call handle).handle = stmKRead call' handle

/-- The call asks for the whole of the first two items, and may take both. -/
def TakesTwo (call : StmKReadCall) (handle : StmHandle) : Prop :=
  ∃ first second rest, handle.finished = first :: second :: rest ∧
    first.context.transferLength < call.length.toNat ∧
    second.context.transferLength ≤ call.length.toNat - first.context.transferLength ∧
    handle.semReady ≠ some 0 ∧ handle.semReady ≠ some 1

/-- There are fewer bytes than the call asks for, and it must not return fewer. -/
def RefusesPartial (call : StmKReadCall) (handle : StmHandle) : Prop :=
  handle.noPartialXfers = true ∧
    bytesIn (obtainable handle.semReady handle.finished) < call.length.toNat

/-- The items cannot be queued to the running stream thread. -/
def QueueFails (call : StmKReadCall) (handle : StmHandle) : Prop :=
  handle.threadState = .started ∧ call.queueUserAPC = false

/-- The call takes two or more items, and fails afterwards. -/
def ReversesItems (call : StmKReadCall) (handle : StmHandle) : Prop :=
  call.accepted handle = true ∧ TakesTwo call handle ∧
    (RefusesPartial call handle ∨ QueueFails call handle)

theorem reverse_eq_self_iff {α : Type*} {l : List α} (hnodup : l.Nodup) :
    l.reverse = l ↔ l.length < 2 := by
  match l with
  | [] => simp
  | [a] => simp
  | a :: b :: l =>
    refine iff_of_false (fun h => ?_) (by simp)
    have hlast : (b :: l).getLast? = some a := by
      have := congrArg List.head? h
      rwa [List.head?_reverse, List.getLast?_cons_cons] at this
    exact (List.nodup_cons.mp hnodup).1 (List.mem_of_getLast? hlast)

/-- The error path puts the items it took back in front, in reverse order. -/
theorem putBack_eq {handle : StmHandle} {taken : Taken} (h : taken.xferSubmitList ≠ []) :
    putBack handle taken =
      { handle with
        finished := taken.xferSubmitList.reverse ++ taken.restored
        semReady := taken.semReady.map (· + taken.xferSubmitList.length) } := by
  unfold putBack Taken.restored
  split
  · next hnil => exact absurd hnil h
  · simp only [List.foldl_flip_cons_eq_append']

/-- How a call that took items ends. -/
theorem readTaken_cases (call : StmKReadCall) (handle : StmHandle) (taken : Taken) :
    let fails := (0 < taken.length ∧ handle.noPartialXfers = true) ∨
      (taken.xferSubmitList ≠ [] ∧ QueueFails call handle)
    (fails ∧ (readTaken call handle taken).success = false ∧
      (readTaken call handle taken).handle = putBack handle taken) ∨
      (¬fails ∧ (readTaken call handle taken).success = true) := by
  unfold readTaken QueueFails
  dsimp only
  split
  · next hpart => exact .inl ⟨.inl hpart, rfl, rfl⟩
  · next hpart =>
    split
    · next hqueue =>
      split
      · next hapc => exact .inl ⟨.inr ⟨hqueue.1, hqueue.2, by simpa using hapc⟩, rfl, rfl⟩
      · next hapc =>
        refine .inr ⟨?_, rfl⟩
        rintro (h | ⟨-, -, h⟩)
        · exact hpart h
        · exact hapc (by simp [h])
    · next hqueue =>
      refine .inr ⟨?_, rfl⟩
      rintro (h | ⟨h₁, h₂, -⟩)
      · exact hpart h
      · exact hqueue ⟨h₁, h₂⟩

theorem spinLockForTransferRequest_eq_some {handle : StmHandle} {semReady : Option ℕ}
    (h : spinLockForTransferRequest handle = some semReady) :
    (∃ item items, handle.finished = item :: items) ∧
      handle.semReady = semReady.map (· + 1) := by
  obtain ⟨sem, hwait, h⟩ := Option.bind_eq_some_iff.mp h
  split at h
  · cases h
  · next hne =>
    cases h
    exact ⟨List.exists_cons_of_ne_nil hne, (waitSemaphore_eq_some hwait).symm⟩

theorem spinLockForTransferRequest_eq_none {handle : StmHandle}
    (h : spinLockForTransferRequest handle = none) :
    handle.finished = [] ∨ handle.semReady = some 0 := by
  unfold spinLockForTransferRequest at h
  cases hwait : waitSemaphore handle.semReady with
  | none => exact .inr (waitSemaphore_eq_none.mp hwait)
  | some semReady =>
    rw [hwait, Option.bind_some] at h
    split at h
    · next hnil => exact .inl hnil
    · cases h

/-- A stream whose finished items are different items. -/
structure FinishedStream where
  handle : StmHandle
  distinct : handle.finished.Nodup

theorem atomicOnFailure_of_handle_eq {call : StmKReadCall} {handle : StmHandle}
    (h : (stmKRead call handle).success = false → (stmKRead call handle).handle = handle) :
    AtomicOnFailure call handle :=
  ⟨fun hf => by rw [h hf], fun hf => by rw [h hf], fun hf call' => by rw [h hf]⟩

section
variable {call : StmKReadCall} {handle : StmHandle} {item : XferItem} {items : List XferItem}
  {semReady : Option ℕ}

theorem takesTwo_iff (hfinished : handle.finished = item :: items)
    (hsem : handle.semReady = semReady.map (· + 1)) :
    TakesTwo call handle ↔ item.context.transferLength < call.length.toNat ∧
      ∃ next rest, items = next :: rest ∧ semReady ≠ some 0 ∧
        next.context.transferLength ≤ call.length.toNat - item.context.transferLength := by
  have hone : handle.semReady ≠ some 1 ↔ semReady ≠ some 0 := by
    rw [hsem]
    cases semReady <;> simp
  have hzero : handle.semReady ≠ some 0 := by
    rw [hsem]
    cases semReady <;> simp
  constructor
  · rintro ⟨first, second, rest, heq, hlt, hle, -, hsem'⟩
    cases hfinished.symm.trans heq
    exact ⟨hlt, second, rest, rfl, hone.mp hsem', hle⟩
  · rintro ⟨hlt, next, rest, rfl, hsem', hle⟩
    exact ⟨item, next, rest, hfinished, hlt, hle, hzero, hone.mpr hsem'⟩

/-- A call that takes items is atomic on failure unless it takes two and fails. -/
theorem atomicOnFailure_iff_of_taken (hnodup : handle.finished.Nodup)
    (hacc : call.accepted handle = true)
    (hspin : spinLockForTransferRequest handle = some semReady)
    (hfinished : handle.finished = item :: items)
    (hsem : handle.semReady = semReady.map (· + 1)) :
    AtomicOnFailure call handle ↔ ¬ReversesItems call handle := by
  have hread : stmKRead call handle = readTaken call handle
      (takeFinished 1 (item :: items) semReady call.length.toNat) := by
    simp [stmKRead, hacc, hspin, hfinished]
  have hrestored := takeFinished_restored 1 (item :: items) semReady call.length.toNat
  obtain ⟨hsem', hlength, hsome, htwo⟩ :=
    takeFinished_first item items semReady call.length.toNat
  rw [← takesTwo_iff hfinished hsem] at htwo
  generalize takeFinished 1 (item :: items) semReady call.length.toNat = taken at *
  have hobtain : item :: obtainable semReady items =
      obtainable handle.semReady handle.finished := by
    rw [hfinished, obtainable_cons hsem.symm]
  have hpart : (0 < taken.length ∧ handle.noPartialXfers = true) ↔
      RefusesPartial call handle := by
    rw [hlength, hobtain, RefusesPartial, and_comm, Nat.sub_pos_iff_lt]
  have hends := readTaken_cases call handle taken
  dsimp only at hends
  rw [hpart, ← hread] at hends
  rcases hends with ⟨hfails, hfalse, hback⟩ | ⟨hfails, htrue⟩
  · have hne : taken.xferSubmitList ≠ [] := by
      rcases hfails with h | h
      · intro hnil
        have := (hpart.mpr h).1
        rw [hsome hnil] at this
        exact Nat.lt_irrefl _ this
      · exact h.1
    have hreverses : ReversesItems call handle ↔ 2 ≤ taken.xferSubmitList.length := by
      rw [htwo]
      exact ⟨fun h => h.2.1, fun h => ⟨hacc, h, hfails.imp_right And.right⟩⟩
    rw [putBack_eq hne, hsem', ← hsem] at hback
    -- the list is restored exactly when the reversal does nothing
    have hsublist : taken.xferSubmitList.Nodup := by
      rw [← hrestored] at hfinished
      rw [hfinished] at hnodup
      exact (List.nodup_append.mp hnodup).1
    rw [hreverses, Nat.not_le, ← reverse_eq_self_iff hsublist]
    constructor
    · intro h
      have heq := h.finished hfalse
      rw [hback, hfinished, ← hrestored] at heq
      exact List.append_cancel_right heq
    · intro h
      refine atomicOnFailure_of_handle_eq fun _ => ?_
      rw [hback, h, hrestored, ← hfinished]
  · refine iff_of_true (atomicOnFailure_of_handle_eq fun h => ?_) ?_
    · rw [htrue] at h
      cases h
    · rintro ⟨-, htakes, h⟩
      have hne : taken.xferSubmitList ≠ [] := by
        intro hnil
        have := htwo.mpr htakes
        rw [hnil] at this
        exact absurd this (by decide)
      exact hfails (h.imp_right fun h => ⟨hne, h⟩)

end

/-- **A call of `StmK_Read` that fails leaves the stream as it was, unless it fails
after it took two or more items.** -/
theorem stmKRead_atomicOnFailure_iff (s : FinishedStream) (call : StmKReadCall) :
    AtomicOnFailure call s.handle ↔ ¬ReversesItems call s.handle := by
  cases hacc : call.accepted s.handle with
  | false =>
    refine iff_of_true (atomicOnFailure_of_handle_eq fun _ => by simp [stmKRead, hacc]) fun h => ?_
    rw [h.1] at hacc
    cases hacc
  | true =>
    cases hspin : spinLockForTransferRequest s.handle with
    | none =>
      refine iff_of_true
        (atomicOnFailure_of_handle_eq fun _ => by simp [stmKRead, hacc, hspin]) ?_
      rintro ⟨-, ⟨first, second, rest, hfinished, -, -, hsem, -⟩, -⟩
      rcases spinLockForTransferRequest_eq_none hspin with h | h
      · rw [hfinished] at h
        cases h
      · exact hsem h
    | some semReady =>
      obtain ⟨⟨item, items, hfinished⟩, hsem⟩ := spinLockForTransferRequest_eq_some hspin
      exact atomicOnFailure_iff_of_taken s.distinct hacc hspin hfinished hsem

/-! ### A refused partial read of two items -/

/-- Two items of one byte each, of a stream that refuses partial reads. -/
def twoFinishedItems : FinishedStream where
  handle :=
    { noPartialXfers := true
      finished :=
        [{ index := 0, bufferSize := 1, data := [10], context := ⟨0, 1, 1⟩ },
          { index := 1, bufferSize := 1, data := [11], context := ⟨0, 1, 1⟩ }] }
  distinct := by decide

/-- A read of three bytes fails, and has the next read return the bytes in the
wrong order. -/
theorem not_atomicOnFailure_twoFinishedItems :
    ¬AtomicOnFailure { length := 3 } twoFinishedItems.handle ∧
      (stmKRead { length := 2 } twoFinishedItems.handle).data = [10, 11] ∧
      (stmKRead { length := 2 } (stmKRead { length := 3 } twoFinishedItems.handle).handle).data =
        [11, 10] := by
  refine ⟨fun h => ?_, by decide, by decide⟩
  exact absurd (h.finished (by decide)) (by decide)

/-- The bytes that are there can be read, and no more may be asked for. -/
theorem stmKRead_atomicOnFailure_iff_twoFinishedItems :
    AtomicOnFailure { length := 2 } twoFinishedItems.handle ∧
      ¬AtomicOnFailure { length := 3 } twoFinishedItems.handle := by
  constructor
  · refine (stmKRead_atomicOnFailure_iff twoFinishedItems _).mpr ?_
    -- all that a read of two bytes asks for is there, and the stream is stopped
    rintro ⟨-, -, hpart | hqueue⟩
    · exact absurd hpart.2 (by decide)
    · exact absurd hqueue.1 (by decide)
  · intro h
    refine (stmKRead_atomicOnFailure_iff twoFinishedItems _).mp h ⟨by decide, ?_, .inl ?_⟩
    · exact ⟨_, _, [], rfl, by decide, by decide, by decide, by decide⟩
    · exact ⟨rfl, by decide⟩

end LibusbK
