import LibusbK.Lib.Machine
import LibusbK.Lib.Stacks
import Mathlib.Data.Int.Notation
import Mathlib.Logic.Function.Basic

/-!
# Handle pools

The functions `PoolHandle_Acquire`, `PoolHandle_Inc` and `PoolHandle_Dec` that
`FN_POOLHANDLE` defines for each section of the handle pools, called by any number of
threads on one section.  Every interlocked operation and every plain read or write of a
handle is a step of its own.  A thread is the number of its call stack; inside a
`Cleanup` callback it may call again.

A reference is *nested* when an `Inc` inside the `Cleanup` of the same handle gave it:
such an `Inc` counts nothing.

## Main definitions

* `SlotPc`, `SlotPc.run` — the points a call can be at, and what it does there.
* `poolHandles` — the machine of all calls on a section.
* `PoolSafe` — what callers rely on.
-/

namespace LibusbK

/-! ### The sections -/

/-- The sections of the handle pools. -/
inductive AllKSection
  | hotK
  | lstK
  | lstInfoK
  | usbK
  | devK
  | ovlK
  | ovlPoolK
  | stmK
  | isochK
  deriving DecidableEq, Repr

/-- `ALLK_HANDLE_COUNT`. -/
def AllKSection.handleCount : AllKSection → ℕ
  | hotK => 8
  | lstK => 64
  | lstInfoK => 2048
  | usbK => 128
  | devK => 64
  | ovlK => 2048
  | ovlPoolK => 64
  | stmK => 32
  | isochK => 2048

/-- The position in the section for a value of `Index`: the `long` becomes a `size_t`. -/
def AllKSection.position (sec : AllKSection) (index : BitVec 32) : ℕ :=
  (index.signExtend 64).toNat % sec.handleCount

/-- The value of a `long`. -/
def wrapLong (z : ℤ) : ℤ := Int.bmod z 0x100000000

/-! ### A handle and the calls on it -/

/-- `KOBJ_BASE`: `use` says that `Count.Use` is held, `cleanup` that `Evt.Cleanup` is
set.  The fields after it are no part of the handle: they are what an observer notes. -/
structure PoolSlot where
  use : Bool := false
  ref : ℤ := 0
  /-- The thread `Disposing` names. -/
  disposing : Option ℕ := none
  cleanup : Bool := false
  /-- The references callers hold that `Acquire` or `Inc` gave them. -/
  refs : ℕ := 0
  /-- The nested references callers hold. -/
  nested : ℕ := 0
  /-- The handle was acquired with a `Cleanup` callback. -/
  given : Bool := false
  /-- How often the callback has been called since the handle was taken. -/
  runs : ℕ := 0
  /-- The clean-up has started since the handle was taken. -/
  started : Bool := false
  deriving DecidableEq, Repr

/-- What a call on a handle does next. -/
inductive SlotPc
  /-- `mSpin_Try_Acquire`. -/
  | acqTry (evtCleanup : Bool) (startPos : ℕ)
  /-- `Init_Handle_ObjK`: `Evt.Cleanup`, `Count.Ref`, `Disposing`. -/
  | acqInitCleanup (evtCleanup : Bool)
  | acqInitRef (evtCleanup : Bool)
  | acqInitDisposing (evtCleanup : Bool)
  /-- Set `Evt.Cleanup` and return the handle. -/
  | acqSetCleanup (evtCleanup : Bool)
  | incUse
  | incDisposing
  /-- Compare `Disposing` with the thread. -/
  | incDisposingSelf
  | incRef
  | incUndo
  /-- `counted`: the reference that is given up is not a nested one. -/
  | decUse (counted : Bool)
  | decDisposing (counted : Bool)
  | decDisposingSelf (counted : Bool)
  | decRef (counted : Bool)
  | decSetDisposing
  | decReadCleanup
  /-- The callback is running. -/
  | decCleanup
  | decClearCleanup
  | decRelease
  deriving DecidableEq, Repr

/-- A frame of a call stack. -/
inductive PoolFrame
  /-- Increment `Index`, for the first position. -/
  | acqIndex (evtCleanup : Bool)
  /-- Increment `Index`, for the next position, and compare it with the first. -/
  | acqNext (evtCleanup : Bool) (startPos : ℕ)
  /-- At the handle `k`. -/
  | onSlot (k : ℕ) (pc : SlotPc)
  deriving DecidableEq, Repr

/-- What a step at a handle leaves behind: the handle, and the frame that follows unless
the call returns. -/
structure SlotStep where
  slot : PoolSlot
  next : Option PoolFrame
  /-- An `Inc` returned `TRUE` to another thread after the clean-up had started. -/
  badInc : Bool := false
  /-- The handle was released although its callback has not been called just once. -/
  missed : Bool := false
  /-- The handle was taken although a caller holds a reference to it. -/
  twice : Bool := false

/-- A step of thread `t` at the handle `x`, whose position is `k`; `own` says that the
thread is inside the `Cleanup` of the handle. -/
def SlotPc.run (t : ℕ) (own : Bool) (k : ℕ) (x : PoolSlot) : SlotPc → SlotStep
  | acqTry evtCleanup startPos =>
    if x.use then ⟨x, some (.acqNext evtCleanup startPos), false, false, false⟩
    else
      ⟨{ x with use := true, runs := 0, started := false },
        some (.onSlot k (acqInitCleanup evtCleanup)), false, false, decide (x.refs ≠ 0)⟩
  | acqInitCleanup evtCleanup =>
    ⟨{ x with cleanup := false }, some (.onSlot k (acqInitRef evtCleanup)), false, false, false⟩
  | acqInitRef evtCleanup =>
    ⟨{ x with ref := 1 }, some (.onSlot k (acqInitDisposing evtCleanup)), false, false, false⟩
  | acqInitDisposing evtCleanup =>
    ⟨{ x with disposing := none }, some (.onSlot k (acqSetCleanup evtCleanup)),
      false, false, false⟩
  | acqSetCleanup evtCleanup =>
    ⟨{ x with cleanup := evtCleanup, given := evtCleanup, refs := x.refs + 1 }, none,
      false, false, false⟩
  | incUse => ⟨x, if x.use then some (.onSlot k incDisposing) else none, false, false, false⟩
  | incDisposing =>
    ⟨x, some (.onSlot k (if x.disposing = none then incRef else incDisposingSelf)),
      false, false, false⟩
  | incDisposingSelf =>
    if x.disposing = some t then
      ⟨if own then { x with nested := x.nested + 1 } else { x with refs := x.refs + 1 }, none,
        x.started && !own, false, false⟩
    else ⟨x, none, false, false, false⟩
  | incRef =>
    if wrapLong (x.ref + 1) > 1 then
      ⟨{ x with ref := wrapLong (x.ref + 1), refs := x.refs + 1 }, none, x.started && !own,
        false, false⟩
    else ⟨{ x with ref := wrapLong (x.ref + 1) }, some (.onSlot k incUndo), false, false, false⟩
  | incUndo => ⟨{ x with ref := wrapLong (x.ref - 1) }, none, false, false, false⟩
  | decUse counted =>
    ⟨x, if x.use then some (.onSlot k (decDisposing counted)) else none, false, false, false⟩
  | decDisposing counted =>
    ⟨x, some (.onSlot k (if x.disposing = none then decRef counted else decDisposingSelf counted)),
      false, false, false⟩
  | decDisposingSelf _ => ⟨x, none, false, false, false⟩
  | decRef _ =>
    ⟨{ x with ref := wrapLong (x.ref - 1) },
      if wrapLong (x.ref - 1) = 0 then some (.onSlot k decSetDisposing) else none,
      false, false, false⟩
  | decSetDisposing =>
    ⟨{ x with disposing := some t }, some (.onSlot k decReadCleanup), false, false, false⟩
  | decReadCleanup =>
    if x.cleanup then
      ⟨{ x with started := true, runs := x.runs + 1 }, some (.onSlot k decCleanup),
        false, false, false⟩
    else ⟨{ x with started := true }, some (.onSlot k decRelease), false, false, false⟩
  | decCleanup => ⟨x, some (.onSlot k decClearCleanup), false, false, false⟩
  | decClearCleanup =>
    ⟨{ x with cleanup := false }, some (.onSlot k decRelease), false, false, false⟩
  | decRelease =>
    ⟨{ x with use := false }, none, false, decide (x.runs ≠ if x.given then 1 else 0), false⟩

/-! ### The machine -/

/-- The state of a section. -/
structure PoolState where
  index : BitVec 32
  slots : ℕ → PoolSlot := fun _ => {}
  /-- The call stacks of the threads. -/
  callStacks : List (List PoolFrame)
  badInc : Bool := false
  missed : Bool := false
  twice : Bool := false

/-- A thread calls from outside, or from a `Cleanup` callback. -/
def canCall : List PoolFrame → Bool
  | [] => true
  | .onSlot _ .decCleanup :: _ => true
  | _ => false

/-- The thread is inside the `Cleanup` of the handle `k`. -/
def insideCleanup (k : ℕ) (stack : List PoolFrame) : Bool :=
  stack.contains (.onSlot k .decCleanup)

namespace PoolState

variable (s : PoolState)

/-- The top frame of thread `t` is replaced. -/
def move (t : ℕ) (next : Option PoolFrame) (rest : List PoolFrame) : PoolState :=
  { s with callStacks := s.callStacks.set t (next.toList ++ rest) }

/-- A step at the handle `k` is noted. -/
def note (k : ℕ) (r : SlotStep) : PoolState :=
  { s with
    slots := Function.update s.slots k r.slot
    badInc := s.badInc || r.badInc
    missed := s.missed || r.missed
    twice := s.twice || r.twice }

/-- The caller of `Dec` gives up a reference. -/
def giveUp (k : ℕ) (counted : Bool) : PoolState :=
  { s with
    slots := Function.update s.slots k
      (if counted then { s.slots k with refs := (s.slots k).refs - 1 }
      else { s.slots k with nested := (s.slots k).nested - 1 }) }

/-- The next step of thread `t`, whose top frame is `frame`. -/
def runFrame (sec : AllKSection) (t : ℕ) (frame : PoolFrame) (rest : List PoolFrame) : PoolState :=
  match frame with
  | .acqIndex evtCleanup =>
    let startPos := sec.position (s.index + 1)
    PoolState.move { s with index := s.index + 1 } t
      (some (.onSlot startPos (.acqTry evtCleanup startPos))) rest
  | .acqNext evtCleanup startPos =>
    let nextPos := sec.position (s.index + 1)
    PoolState.move { s with index := s.index + 1 } t
      (if nextPos ≠ startPos then some (.onSlot nextPos (.acqTry evtCleanup startPos)) else none)
      rest
  | .onSlot k pc =>
    let r := pc.run t (insideCleanup k rest) k (s.slots k)
    (s.note k r).move t r.next rest

/-- The number of calls at the handle `k` whose frame satisfies `p`. -/
def calls (k : ℕ) (p : SlotPc → Bool) : ℕ :=
  Stacks.tally (fun frame => match frame with
    | .onSlot k' pc => k' == k && p pc
    | _ => false) s.callStacks

/-- `n` threads, and no handle in use. -/
def start (index : BitVec 32) (n : ℕ) : PoolState where
  index := index
  callStacks := List.replicate n []

end PoolState

/-- What threads do.  `counted` is about the reference the caller of `Dec` gives up. -/
inductive PoolEvent
  | acquire (t : ℕ) (evtCleanup : Bool)
  | inc (t k : ℕ)
  | dec (t k : ℕ) (counted : Bool)
  /-- Thread `t` takes its next step. -/
  | step (t : ℕ)
  deriving DecidableEq, Repr

/-- A caller holds a reference it can give up. -/
def PoolSlot.held (x : PoolSlot) (counted : Bool) : ℕ := if counted then x.refs else x.nested

/-- The calls on a section, in the order of their steps.  Callers give up references they
hold. -/
def poolHandles (sec : AllKSection) : Machine PoolState PoolEvent where
  step s
    | .acquire t evtCleanup =>
      s.callStacks[t]?.bind fun stack =>
        if canCall stack then some (s.move t (some (.acqIndex evtCleanup)) stack) else none
    | .inc t k =>
      s.callStacks[t]?.bind fun stack =>
        if canCall stack && decide (k < sec.handleCount) then
          some (s.move t (some (.onSlot k .incUse)) stack)
        else none
    | .dec t k counted =>
      s.callStacks[t]?.bind fun stack =>
        if canCall stack && decide (0 < (s.slots k).held counted) then
          some ((s.giveUp k counted).move t (some (.onSlot k (.decUse counted))) stack)
        else none
    | .step t =>
      s.callStacks[t]?.bind fun stack =>
        match stack with
        | [] => none
        | frame :: rest => some (s.runFrame sec t frame rest)

/-! ### What callers rely on -/

/-- What a call that is under way has to do with the life of its handle. -/
inductive PcClass
  /-- It has taken the handle and not counted its reference yet. -/
  | taking
  /-- It has counted its reference, and `Disposing` is that of an earlier life. -/
  | clearing
  /-- It is about to return the handle. -/
  | settling
  /-- It is about to give up a counted reference. -/
  | counted
  /-- It has given up the last reference. -/
  | opening
  /-- It is in the callback, or has returned from it. -/
  | cleaning
  /-- It is about to release the handle. -/
  | closing
  /-- It has incremented a count of zero. -/
  | undoing
  /-- It treats a counted reference as a nested one, or a nested one as counted. -/
  | astray
  deriving DecidableEq, Repr

/-- The class of a call at a point. -/
def SlotPc.kind : SlotPc → Option PcClass
  | acqTry _ _ => none
  | acqInitCleanup _ => some .taking
  | acqInitRef _ => some .taking
  | acqInitDisposing _ => some .clearing
  | acqSetCleanup _ => some .settling
  | incUse => none
  | incDisposing => none
  | incDisposingSelf => none
  | incRef => none
  | incUndo => some .undoing
  | decUse counted => if counted then some .counted else none
  | decDisposing counted => if counted then some .counted else none
  | decDisposingSelf counted => if counted then some .astray else none
  | decRef counted => if counted then some .counted else some .astray
  | decSetDisposing => some .opening
  | decReadCleanup => some .opening
  | decCleanup => some .cleaning
  | decClearCleanup => some .cleaning
  | decRelease => some .closing

/-- The call sets the handle up, gives a counted reference up, or disposes of the handle. -/
def SlotPc.settles (pc : SlotPc) : Bool :=
  pc.kind != none && pc.kind != some .undoing && pc.kind != some .astray

/-- The calls of a class at the handle `k`. -/
def PoolState.tally (s : PoolState) (k : ℕ) (c : PcClass) : ℕ :=
  s.calls k fun pc => pc.kind == some c

/-- **What callers rely on.** -/
structure PoolSafe (s : PoolState) : Prop where
  /-- No `Cleanup` runs while a caller holds a reference. -/
  quiet : ∀ k, 0 < s.calls k (· == .decCleanup) → (s.slots k).refs = 0
  /-- A `Cleanup` is called at most once, and was called once when its handle is released. -/
  once : (∀ k, (s.slots k).runs ≤ 1) ∧ s.missed = false
  /-- A handle without references is about to be handed out or to be released. -/
  reclaimed : ∀ k, (s.slots k).use = true → (s.slots k).refs = 0 → 0 < s.calls k SlotPc.settles
  /-- No `Inc` of another thread returns `TRUE` once the clean-up has started. -/
  refused : s.badInc = false
  /-- No handle is handed out with references around, or by two calls at once. -/
  single : s.twice = false ∧
    ∀ k, s.tally k .taking + s.tally k .clearing + s.tally k .settling ≤ 1

end LibusbK
