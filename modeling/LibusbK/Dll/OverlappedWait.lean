import LibusbK.Dll.OverlappedPool
import LibusbK.Dll.Stream
import LibusbK.Lib.Flags

/-!
# Waiting for an overlapped

`OvlK_Wait` of `lusbk_overlapped.c` and its variants.  A call waits for the event of the
overlapped, asks for the result without waiting, and when the operation has not completed it may
cancel it and do all this once more, with no timeout.

The operation ends at some moment, with success or an error, or it does not end during the call.
The moments are counted by what the call does: `2 n` is when pass `n` asks for the result and
`2 n + 1` is when it ends.  The wait of a pass may end early, and the event may have been set by
an earlier call, so a wait that succeeds does not say that the operation has ended.

## Main definitions

* `OvlIo`, `OvlPass` — the operation, and what happens during a pass.
* `ovlKWait` — `OvlK_Wait` and its variants.
* `WaitsSafely` — what callers rely on.

## Main results

* `ovlKWait_waitsSafely_iff` — exactly when a call does what its flags say.
-/

namespace LibusbK

abbrev ERROR_INVALID_HANDLE : UInt32 := 6
abbrev ERROR_INVALID_PARAMETER : UInt32 := 87
abbrev ERROR_SEM_TIMEOUT : UInt32 := 121

/-! ### `KOVL_WAIT_FLAG` -/

abbrev KOVL_WAIT_FLAG_RELEASE_ON_SUCCESS : BitVec 32 := 0x1
abbrev KOVL_WAIT_FLAG_RELEASE_ON_FAIL : BitVec 32 := 0x2
abbrev KOVL_WAIT_FLAG_CANCEL_ON_TIMEOUT : BitVec 32 := 0x4
abbrev KOVL_WAIT_FLAG_RELEASE_ON_TIMEOUT : BitVec 32 := 0xC
abbrev KOVL_WAIT_FLAG_RELEASE_ALWAYS : BitVec 32 := 0xF
abbrev KOVL_WAIT_FLAG_ALERTABLE : BitVec 32 := 0x10

/-! ### What happens during a call -/

/-- An error of a function that has failed, and not because the operation is pending. -/
abbrev IsFailure (error : UInt32) : Prop := error ≠ ERROR_SUCCESS ∧ error ≠ ERROR_IO_INCOMPLETE

/-- The operation: the moment it ends, if it ends during the call, and the error it ends with. -/
structure OvlIo where
  endsAt : Option ℕ
  error : Option UInt32
  isFailure : ∀ e, error = some e → IsFailure e

namespace OvlIo

variable (io : OvlIo)

/-- The kernel owns the overlapped. -/
def pending (moment : ℕ) : Bool :=
  match io.endsAt with
  | none => true
  | some endsAt => decide (moment < endsAt)

/-- The error `GetOverlappedResult` fails with, without waiting. -/
def overlappedResult (moment : ℕ) : Option UInt32 :=
  if io.pending moment then some ERROR_IO_INCOMPLETE else io.error

end OvlIo

/-- How the wait for the event ends. -/
inductive OvlWaitResult
  | object0
  | timeout
  | failed (error : UInt32) (isFailure : IsFailure error)

/-- What happens during a pass: `apc` says that an APC comes while the wait lasts, if it is
alertable, and `cancel` is the error the request to cancel fails with, if it does. -/
structure OvlPass where
  apc : Bool
  wait : OvlWaitResult
  cancel : Option UInt32

/-! ### `OvlK_Wait` -/

/-- The ways out of `OvlK_Wait`. -/
inductive OvlOutcome
  /-- The arguments are refused. -/
  | rejected
  | alert
  | success
  /-- The operation has failed or been cancelled. -/
  | failure
  /-- The operation has not completed in time. -/
  | timeout
  deriving DecidableEq, Repr

/-- What a call has done: how it came out, how often it asked to cancel the operation, and the
moment it called `OvlK_Release`, if it did. -/
structure OvlWaited where
  outcome : OvlOutcome
  errorCode : UInt32
  cancels : ℕ := 0
  release : Option ℕ := none
  deriving DecidableEq, Repr

/-- `OvlK_Release` at this moment, if one of the flags is set. -/
def releaseIf (mask waitFlags : BitVec 32) (moment : ℕ) : Option ℕ :=
  if Flags.Any mask waitFlags then some moment else none

/-- The error code of pass `n`, after the wait and `GetOverlappedResult`. -/
def OvlPass.errorCode (pass : OvlPass) (io : OvlIo) (n : ℕ) (userCancelled : Bool) : UInt32 :=
  match pass.wait with
  | .object0 => (io.overlappedResult (2 * n)).getD ERROR_SUCCESS
  | .timeout => if userCancelled then ERROR_CANCELLED else ERROR_IO_INCOMPLETE
  | .failed error _ => error

/-- `OvlK_Wait` from the label `CancelIoRetry` on, for the pass `n`. -/
def cancelIoRetry (io : OvlIo) (passes : ℕ → OvlPass) :
    ℕ → ℕ → Bool → BitVec 32 → Option OvlWaited
  | 0, _, _, _ => none
  | fuel + 1, n, userCancelled, waitFlags =>
    let pass := passes n
    if Flags.Any KOVL_WAIT_FLAG_ALERTABLE waitFlags ∧ !userCancelled ∧ pass.apc then
      some { outcome := .alert, errorCode := STATUS_USER_APC }
    else
      let errorCode := pass.errorCode io n userCancelled
      if errorCode = ERROR_SUCCESS then
        some
          { outcome := .success
            errorCode := errorCode
            release := releaseIf KOVL_WAIT_FLAG_RELEASE_ON_SUCCESS waitFlags (2 * n + 1) }
      else if errorCode = ERROR_IO_INCOMPLETE then
        if Flags.Any KOVL_WAIT_FLAG_CANCEL_ON_TIMEOUT waitFlags then
          match pass.cancel with
          | none =>
            (cancelIoRetry io passes fuel (n + 1) true
              (waitFlags ^^^ KOVL_WAIT_FLAG_CANCEL_ON_TIMEOUT)).map fun waited =>
                { waited with cancels := waited.cancels + 1 }
          | some error =>
            some
              { outcome := .timeout
                errorCode := error
                cancels := 1
                release := releaseIf KOVL_WAIT_FLAG_RELEASE_ON_TIMEOUT waitFlags (2 * n + 1) }
        else
          some
            { outcome := .timeout
              errorCode := errorCode
              release := releaseIf KOVL_WAIT_FLAG_RELEASE_ON_TIMEOUT waitFlags (2 * n + 1) }
      else
        some
          { outcome := .failure
            errorCode :=
              if errorCode = ERROR_OPERATION_ABORTED ∨ errorCode = ERROR_CANCELLED ∨
                  errorCode = ERROR_SEM_TIMEOUT then
                if userCancelled then ERROR_CANCELLED else ERROR_OPERATION_ABORTED
              else errorCode
            release := releaseIf KOVL_WAIT_FLAG_RELEASE_ON_FAIL waitFlags (2 * n + 1) }

/-- The functions that wait. -/
inductive OvlWaitFunction
  | wait (overlapped : ℕ) (waitFlags : BitVec 32)
  | waitOrCancel (overlapped : ℕ)
  | waitAndRelease (overlapped : ℕ)
  | waitOldest (pool : ℕ) (waitFlags : BitVec 32)
  deriving DecidableEq, Repr

namespace OvlWaitFunction

/-- The handle that is waited on. -/
def target (s : OvlPools) : OvlWaitFunction → Option ℕ
  | wait overlapped _ => some overlapped
  | waitOrCancel overlapped => some overlapped
  | waitAndRelease overlapped => some overlapped
  | waitOldest pool _ => ovlKWaitOldest s pool

/-- The flags `OvlK_Wait` is called with. -/
def waitFlags : OvlWaitFunction → BitVec 32
  | wait _ waitFlags => waitFlags
  | waitOrCancel _ => KOVL_WAIT_FLAG_CANCEL_ON_TIMEOUT
  | waitAndRelease _ => KOVL_WAIT_FLAG_RELEASE_ALWAYS
  | waitOldest _ waitFlags => waitFlags

end OvlWaitFunction

/-- A call: the function, whether the handle that is passed lies in its section and
`TransferredLength` is given, and what happens meanwhile. -/
structure OvlWaitCall where
  function : OvlWaitFunction
  handleValid : Bool := true
  transferredLength : Bool := true
  io : OvlIo
  passes : ℕ → OvlPass

/-- The error a call is refused with before it waits.  An element of an `AcquiredList` has a
handle. -/
def OvlWaitCall.refused (call : OvlWaitCall) (s : OvlPools) : Option UInt32 :=
  if !call.handleValid then some ERROR_INVALID_HANDLE
  else
    match call.function.target s with
    | none => some ERROR_NO_MORE_ITEMS
    | some h =>
      if !call.transferredLength ∨ (s.handles h).pool = none ∨ !(s.handles h).inUse then
        some ERROR_INVALID_PARAMETER
      else none

/-- `OvlK_Wait` and its variants, with as many passes as there is fuel. -/
def ovlKWait (fuel : ℕ) (call : OvlWaitCall) (s : OvlPools) : Option OvlWaited :=
  match call.refused s with
  | some errorCode => some { outcome := .rejected, errorCode := errorCode }
  | none => cancelIoRetry call.io call.passes fuel 0 false call.function.waitFlags

/-! ### What callers rely on -/

/-- The caller asked for a release when the call comes out so. -/
def OvlOutcome.asksRelease (waitFlags : BitVec 32) : OvlOutcome → Prop
  | rejected => False
  | alert => False
  | success => Flags.All KOVL_WAIT_FLAG_RELEASE_ON_SUCCESS waitFlags
  | failure => Flags.All KOVL_WAIT_FLAG_RELEASE_ON_FAIL waitFlags
  | timeout => Flags.All KOVL_WAIT_FLAG_RELEASE_ON_TIMEOUT waitFlags

/-- **What callers rely on**: the call comes to an end after one request to cancel at most, it
releases the handle when the caller asked for that, and not while the operation is pending
unless the caller asked for a release on timeout. -/
def WaitsSafely (call : OvlWaitCall) (s : OvlPools) : Prop :=
  ∃ waited, (∀ fuel, 2 ≤ fuel → ovlKWait fuel call s = some waited) ∧ waited.cancels ≤ 1 ∧
    (waited.release.isSome = true ↔ waited.outcome.asksRelease call.function.waitFlags) ∧
    ∀ moment, waited.release = some moment → call.io.pending moment = true →
      Flags.All KOVL_WAIT_FLAG_RELEASE_ON_TIMEOUT call.function.waitFlags

namespace OvlWaitCall

variable (call : OvlWaitCall)

/-- Pass `n` finds the operation pending: its wait has timed out, or the event was set without
the operation. -/
def FindsPending (n : ℕ) : Prop :=
  match (call.passes n).wait with
  | .object0 => call.io.pending (2 * n) = true
  | .timeout => True
  | .failed _ _ => False

/-- The wait of pass `n` does not come to the operation: it fails, or it is the one after the
request to cancel and it times out. -/
def GivesUp (n : ℕ) : Prop :=
  match (call.passes n).wait with
  | .object0 => False
  | .timeout => n ≠ 0
  | .failed _ _ => True

/-- An APC ends the first wait. -/
def Alerted : Prop :=
  Flags.Any KOVL_WAIT_FLAG_ALERTABLE call.function.waitFlags ∧ (call.passes 0).apc = true

/-- A release on failure that is not one on timeout finds the operation ended. -/
def FailsEnded (n : ℕ) : Prop :=
  Flags.Any KOVL_WAIT_FLAG_RELEASE_ON_FAIL call.function.waitFlags →
    ¬Flags.All KOVL_WAIT_FLAG_RELEASE_ON_TIMEOUT call.function.waitFlags →
    call.io.pending (2 * n + 1) = false

/-- **When the flags and the timing agree.** -/
structure Agrees : Prop where
  /-- The operation is pending and is not to be cancelled: no release on timeout is asked for
  by its second bit alone. -/
  kept : call.FindsPending 0 →
    ¬Flags.Any KOVL_WAIT_FLAG_CANCEL_ON_TIMEOUT call.function.waitFlags →
    ¬Flags.Any KOVL_WAIT_FLAG_RELEASE_ON_TIMEOUT call.function.waitFlags
  /-- The operation cannot be cancelled: a release on timeout is asked for. -/
  uncancelled : call.FindsPending 0 →
    Flags.Any KOVL_WAIT_FLAG_CANCEL_ON_TIMEOUT call.function.waitFlags →
    (call.passes 0).cancel ≠ none →
    Flags.All KOVL_WAIT_FLAG_RELEASE_ON_TIMEOUT call.function.waitFlags
  failed : call.GivesUp 0 → call.FailsEnded 0
  cancelled : call.FindsPending 0 →
    Flags.Any KOVL_WAIT_FLAG_CANCEL_ON_TIMEOUT call.function.waitFlags →
    (call.passes 0).cancel = none → call.GivesUp 1 → call.FailsEnded 1

end OvlWaitCall

/-! ### The flags -/

section WaitFlags

variable {waitFlags : BitVec 32}

theorem all_releaseOnSuccess : Flags.All KOVL_WAIT_FLAG_RELEASE_ON_SUCCESS waitFlags ↔
    Flags.Any KOVL_WAIT_FLAG_RELEASE_ON_SUCCESS waitFlags := Flags.all_iff_any (i := 0) (by decide)

theorem all_releaseOnFail : Flags.All KOVL_WAIT_FLAG_RELEASE_ON_FAIL waitFlags ↔
    Flags.Any KOVL_WAIT_FLAG_RELEASE_ON_FAIL waitFlags := Flags.all_iff_any (i := 1) (by decide)

/-- `KOVL_WAIT_FLAG_RELEASE_ON_TIMEOUT` is the flag to cancel and one more. -/
theorem releaseOnTimeout_eq : KOVL_WAIT_FLAG_RELEASE_ON_TIMEOUT =
    KOVL_WAIT_FLAG_CANCEL_ON_TIMEOUT ||| BitVec.twoPow 32 3 := by decide

theorem any_releaseOnTimeout_of_cancel
    (h : Flags.Any KOVL_WAIT_FLAG_CANCEL_ON_TIMEOUT waitFlags) :
    Flags.Any KOVL_WAIT_FLAG_RELEASE_ON_TIMEOUT waitFlags := by
  rw [releaseOnTimeout_eq]
  exact Flags.any_or.mpr (.inl h)

theorem any_cancel_of_all_releaseOnTimeout
    (h : Flags.All KOVL_WAIT_FLAG_RELEASE_ON_TIMEOUT waitFlags) :
    Flags.Any KOVL_WAIT_FLAG_CANCEL_ON_TIMEOUT waitFlags := by
  rw [releaseOnTimeout_eq] at h
  exact (Flags.all_iff_any (i := 2) (by decide)).mp (Flags.all_or.mp h).1

/-- After the flag to cancel is toggled off, the other one is left. -/
theorem any_releaseOnTimeout_toggled
    (h : Flags.Any KOVL_WAIT_FLAG_CANCEL_ON_TIMEOUT waitFlags) :
    Flags.Any KOVL_WAIT_FLAG_RELEASE_ON_TIMEOUT (waitFlags ^^^ KOVL_WAIT_FLAG_CANCEL_ON_TIMEOUT) ↔
      Flags.All KOVL_WAIT_FLAG_RELEASE_ON_TIMEOUT waitFlags := by
  have hcancel : ¬Flags.Any KOVL_WAIT_FLAG_CANCEL_ON_TIMEOUT
      (waitFlags ^^^ KOVL_WAIT_FLAG_CANCEL_ON_TIMEOUT) := fun htoggled =>
    (Flags.any_xor_self (i := 2) (by decide)).mp htoggled h
  rw [releaseOnTimeout_eq, Flags.any_or, or_iff_right hcancel,
    Flags.any_xor_of_disjoint (by decide), Flags.all_or, Flags.all_iff_any (by decide),
    and_iff_right]
  exact (Flags.all_iff_any (i := 2) (by decide)).mpr h

end WaitFlags

/-! ### The ways out -/

variable {call : OvlWaitCall} {s : OvlPools}

theorem isSome_releaseIf {mask waitFlags : BitVec 32} {moment : ℕ} :
    (releaseIf mask waitFlags moment).isSome = true ↔ Flags.Any mask waitFlags := by
  unfold releaseIf
  split
  · next h => exact iff_of_true rfl h
  · next h => exact iff_of_false Bool.false_ne_true h

theorem releaseIf_eq_some {mask waitFlags : BitVec 32} {moment moment' : ℕ} :
    releaseIf mask waitFlags moment = some moment' ↔
      Flags.Any mask waitFlags ∧ moment = moment' := by
  unfold releaseIf
  split
  · next h => rw [Option.some.injEq, and_iff_right h]
  · next h => exact iff_of_false nofun fun h' => h h'.1

/-- A call that releases the handle at the end of a pass. -/
theorem waitsSafely_iff_of_release {outcome : OvlOutcome} {errorCode : UInt32} {cancels : ℕ}
    {mask waitFlags : BitVec 32} {moment : ℕ} (hcancels : cancels ≤ 1)
    (h : ∀ fuel, ovlKWait (fuel + 2) call s =
      some ⟨outcome, errorCode, cancels, releaseIf mask waitFlags moment⟩) :
    WaitsSafely call s ↔
      (Flags.Any mask waitFlags ↔ outcome.asksRelease call.function.waitFlags) ∧
      (Flags.Any mask waitFlags → call.io.pending moment = true →
        Flags.All KOVL_WAIT_FLAG_RELEASE_ON_TIMEOUT call.function.waitFlags) := by
  constructor
  · rintro ⟨waited, hwaited, -, hasks, hpending⟩
    cases (h 0).symm.trans (hwaited 2 (Nat.le_refl 2))
    rw [isSome_releaseIf] at hasks
    exact ⟨hasks, fun hany => hpending moment (releaseIf_eq_some.mpr ⟨hany, rfl⟩)⟩
  · rintro ⟨hasks, hpending⟩
    refine ⟨⟨outcome, errorCode, cancels, releaseIf mask waitFlags moment⟩, fun fuel hfuel => ?_,
      hcancels, ?_, fun moment' hmoment => ?_⟩
    · obtain ⟨k, rfl⟩ := Nat.exists_eq_add_of_le' hfuel
      exact h k
    · rw [isSome_releaseIf]
      exact hasks
    · obtain ⟨hany, rfl⟩ := releaseIf_eq_some.mp hmoment
      exact hpending hany

/-- A call that does not come to a pass. -/
theorem waitsSafely_of_no_release (outcome : OvlOutcome) (errorCode : UInt32)
    (houtcome : outcome = .rejected ∨ outcome = .alert)
    (h : ∀ fuel, ovlKWait (fuel + 2) call s = some ⟨outcome, errorCode, 0, none⟩) :
    WaitsSafely call s := by
  refine ⟨⟨outcome, errorCode, 0, none⟩, fun fuel hfuel => ?_, Nat.zero_le 1, ?_, fun _ hnone => ?_⟩
  · obtain ⟨k, rfl⟩ := Nat.exists_eq_add_of_le' hfuel
    exact h k
  · refine iff_of_false Bool.false_ne_true fun hasks => ?_
    rcases houtcome with rfl | rfl <;> exact hasks
  · cases hnone

section Pass

variable {io : OvlIo} {passes : ℕ → OvlPass} {fuel n : ℕ} {userCancelled : Bool}
  {waitFlags : BitVec 32}

/-- The pass is not ended by an APC. -/
def Unalerted (passes : ℕ → OvlPass) (n : ℕ) (userCancelled : Bool) (waitFlags : BitVec 32) :
    Prop :=
  ¬(Flags.Any KOVL_WAIT_FLAG_ALERTABLE waitFlags ∧ !userCancelled ∧ (passes n).apc)

theorem cancelIoRetry_success (hapc : Unalerted passes n userCancelled waitFlags)
    (hcode : (passes n).errorCode io n userCancelled = ERROR_SUCCESS) :
    cancelIoRetry io passes (fuel + 1) n userCancelled waitFlags =
      some ⟨.success, ERROR_SUCCESS, 0,
        releaseIf KOVL_WAIT_FLAG_RELEASE_ON_SUCCESS waitFlags (2 * n + 1)⟩ := by
  rw [cancelIoRetry]
  dsimp only
  rw [if_neg hapc, if_pos hcode, hcode]

theorem cancelIoRetry_failure (hapc : Unalerted passes n userCancelled waitFlags)
    (hcode : IsFailure ((passes n).errorCode io n userCancelled)) :
    ∃ errorCode, ∀ fuel, cancelIoRetry io passes (fuel + 1) n userCancelled waitFlags =
      some ⟨.failure, errorCode, 0,
        releaseIf KOVL_WAIT_FLAG_RELEASE_ON_FAIL waitFlags (2 * n + 1)⟩ := by
  refine ⟨if (passes n).errorCode io n userCancelled = ERROR_OPERATION_ABORTED ∨
      (passes n).errorCode io n userCancelled = ERROR_CANCELLED ∨
      (passes n).errorCode io n userCancelled = ERROR_SEM_TIMEOUT then
      if userCancelled then ERROR_CANCELLED else ERROR_OPERATION_ABORTED
    else (passes n).errorCode io n userCancelled, fun fuel => ?_⟩
  rw [cancelIoRetry]
  dsimp only
  rw [if_neg hapc, if_neg hcode.1, if_neg hcode.2]

theorem cancelIoRetry_kept (hapc : Unalerted passes n userCancelled waitFlags)
    (hcode : (passes n).errorCode io n userCancelled = ERROR_IO_INCOMPLETE)
    (hcancel : ¬Flags.Any KOVL_WAIT_FLAG_CANCEL_ON_TIMEOUT waitFlags) :
    cancelIoRetry io passes (fuel + 1) n userCancelled waitFlags =
      some ⟨.timeout, ERROR_IO_INCOMPLETE, 0,
        releaseIf KOVL_WAIT_FLAG_RELEASE_ON_TIMEOUT waitFlags (2 * n + 1)⟩ := by
  rw [cancelIoRetry]
  dsimp only
  rw [if_neg hapc, hcode, if_neg (by decide), if_pos rfl, if_neg hcancel]

theorem cancelIoRetry_uncancelled (hapc : Unalerted passes n userCancelled waitFlags)
    (hcode : (passes n).errorCode io n userCancelled = ERROR_IO_INCOMPLETE)
    (hcancel : Flags.Any KOVL_WAIT_FLAG_CANCEL_ON_TIMEOUT waitFlags) {error : UInt32}
    (herror : (passes n).cancel = some error) :
    cancelIoRetry io passes (fuel + 1) n userCancelled waitFlags =
      some ⟨.timeout, error, 1,
        releaseIf KOVL_WAIT_FLAG_RELEASE_ON_TIMEOUT waitFlags (2 * n + 1)⟩ := by
  rw [cancelIoRetry]
  dsimp only
  rw [if_neg hapc, hcode, if_neg (by decide), if_pos rfl, if_pos hcancel, herror]

theorem cancelIoRetry_cancelled (hapc : Unalerted passes n userCancelled waitFlags)
    (hcode : (passes n).errorCode io n userCancelled = ERROR_IO_INCOMPLETE)
    (hcancel : Flags.Any KOVL_WAIT_FLAG_CANCEL_ON_TIMEOUT waitFlags)
    (herror : (passes n).cancel = none) :
    cancelIoRetry io passes (fuel + 1) n userCancelled waitFlags =
      (cancelIoRetry io passes fuel (n + 1) true
        (waitFlags ^^^ KOVL_WAIT_FLAG_CANCEL_ON_TIMEOUT)).map fun waited =>
          { waited with cancels := waited.cancels + 1 } := by
  rw [cancelIoRetry]
  dsimp only
  rw [if_neg hapc, hcode, if_neg (by decide), if_pos rfl, if_pos hcancel, herror]

end Pass

/-- An operation that has ended stays so. -/
theorem OvlIo.pending_succ {io : OvlIo} {moment : ℕ} (h : io.pending moment = false) :
    io.pending (moment + 1) = false := by
  unfold OvlIo.pending at h ⊢
  cases hends : io.endsAt with
  | none =>
    rw [hends] at h
    cases h
  | some endsAt =>
    rw [hends] at h
    exact decide_eq_false fun hlt => of_decide_eq_false h (Nat.lt_of_succ_lt hlt)

/-- What the error code of a pass says; the passes after the first are those after the request
to cancel. -/
theorem errorCode_cases (call : OvlWaitCall) (n : ℕ) (userCancelled : Bool)
    (hn : userCancelled = decide (n ≠ 0)) :
    ((call.passes n).errorCode call.io n userCancelled = ERROR_SUCCESS ∧ ¬call.GivesUp n ∧
        ¬call.FindsPending n ∧ call.io.pending (2 * n + 1) = false) ∨
      (IsFailure ((call.passes n).errorCode call.io n userCancelled) ∧
        (call.GivesUp n ∨ ¬call.GivesUp n ∧ call.io.pending (2 * n + 1) = false) ∧
        (n = 0 → ¬call.FindsPending n)) ∨
      ((call.passes n).errorCode call.io n userCancelled = ERROR_IO_INCOMPLETE ∧
        ¬call.GivesUp n ∧ call.FindsPending n) := by
  unfold OvlPass.errorCode OvlWaitCall.GivesUp OvlWaitCall.FindsPending
  cases (call.passes n).wait with
  | object0 =>
    dsimp only
    unfold OvlIo.overlappedResult
    cases hpending : call.io.pending (2 * n) with
    | true => exact .inr (.inr ⟨rfl, id, rfl⟩)
    | false =>
      cases herror : call.io.error with
      | none => exact .inl ⟨rfl, id, Bool.false_ne_true, OvlIo.pending_succ hpending⟩
      | some e =>
        exact .inr (.inl ⟨call.io.isFailure e herror,
          .inr ⟨id, OvlIo.pending_succ hpending⟩, fun _ => Bool.false_ne_true⟩)
  | timeout =>
    dsimp only
    by_cases h0 : n = 0
    · rw [hn, h0]
      exact .inr (.inr ⟨rfl, fun h => h rfl, trivial⟩)
    · rw [hn, decide_eq_true h0, if_pos rfl]
      exact .inr (.inl ⟨by decide, .inl h0, fun h => absurd h h0⟩)
  | failed error isFailure => exact .inr (.inl ⟨isFailure, .inl trivial, fun _ => id⟩)

/-- A release on failure is safe if the operation has ended or may be left pending. -/
theorem releaseOnFail_iff {n : ℕ}
    (h : call.GivesUp n ∨ ¬call.GivesUp n ∧ call.io.pending (2 * n + 1) = false) :
    (Flags.Any KOVL_WAIT_FLAG_RELEASE_ON_FAIL call.function.waitFlags →
      call.io.pending (2 * n + 1) = true →
        Flags.All KOVL_WAIT_FLAG_RELEASE_ON_TIMEOUT call.function.waitFlags) ↔
      (call.GivesUp n → call.FailsEnded n) := by
  rcases h with hgives | ⟨hends, hended⟩
  · constructor
    · intro h _ hfail hnot
      cases hpending : call.io.pending (2 * n + 1) with
      | false => rfl
      | true => exact absurd (h hfail hpending) hnot
    · intro h hfail hpending
      refine Decidable.byContradiction fun hnot => ?_
      cases (h hgives hfail hnot).symm.trans hpending
  · refine iff_of_true (fun _ hpending => ?_) fun hgives => absurd hgives hends
    cases hended.symm.trans hpending

/-! ### When a call waits safely -/

/-- A call whose first pass finds the operation pending. -/
theorem waitsSafely_iff_of_pending (haccepted : call.refused s = none)
    (hapc : Unalerted call.passes 0 false call.function.waitFlags)
    (hcode : (call.passes 0).errorCode call.io 0 false = ERROR_IO_INCOMPLETE)
    (hgives : ¬call.GivesUp 0) (hpending : call.FindsPending 0) :
    WaitsSafely call s ↔ call.Agrees := by
  have hwait : ∀ fuel, ovlKWait (fuel + 2) call s =
      cancelIoRetry call.io call.passes (fuel + 2) 0 false call.function.waitFlags := by
    intro fuel
    rw [ovlKWait, haccepted]
  by_cases hcancel : Flags.Any KOVL_WAIT_FLAG_CANCEL_ON_TIMEOUT call.function.waitFlags
  case neg =>
    rw [waitsSafely_iff_of_release (Nat.zero_le 1) fun fuel =>
      (hwait fuel).trans (cancelIoRetry_kept hapc hcode hcancel)]
    have hnot : ¬Flags.All KOVL_WAIT_FLAG_RELEASE_ON_TIMEOUT call.function.waitFlags :=
      fun hall => hcancel (any_cancel_of_all_releaseOnTimeout hall)
    constructor
    · rintro ⟨hasks, -⟩
      exact ⟨fun _ _ hany => hnot (hasks.mp hany), fun _ h => absurd h hcancel,
        fun h => absurd h hgives, fun _ h => absurd h hcancel⟩
    · intro h
      have hany := h.kept hpending hcancel
      exact ⟨iff_of_false hany hnot, fun h => absurd h hany⟩
  case pos =>
  cases herror : (call.passes 0).cancel with
  | some error =>
    rw [waitsSafely_iff_of_release (Nat.le_refl 1) fun fuel =>
      (hwait fuel).trans (cancelIoRetry_uncancelled hapc hcode hcancel herror)]
    have hany := any_releaseOnTimeout_of_cancel hcancel
    constructor
    · rintro ⟨hasks, -⟩
      exact ⟨fun _ h => absurd hcancel h, fun _ _ _ => hasks.mp hany, fun h => absurd h hgives,
        fun _ _ h => absurd (herror.symm.trans h) (Option.some_ne_none error)⟩
    · intro h
      have hall := h.uncancelled hpending hcancel (by rw [herror]; exact Option.some_ne_none error)
      exact ⟨iff_of_true hany hall, fun _ _ => hall⟩
  | none =>
    have hretry := fun fuel =>
      (hwait fuel).trans (cancelIoRetry_cancelled hapc hcode hcancel herror)
    have hunalerted : Unalerted call.passes 1 true
        (call.function.waitFlags ^^^ KOVL_WAIT_FLAG_CANCEL_ON_TIMEOUT) := fun h =>
      absurd h.2.1 (by decide)
    have hagrees : call.Agrees ↔ (call.GivesUp 1 → call.FailsEnded 1) := by
      constructor
      · exact fun h => h.cancelled hpending hcancel herror
      · exact fun h => ⟨fun _ h => absurd hcancel h, fun _ _ h => absurd herror h,
          fun h => absurd h hgives, fun _ _ _ => h⟩
    -- the second pass, with the flag to cancel toggled off
    rcases errorCode_cases call 1 true rfl with
      ⟨hsecond, hends, -, hended⟩ | ⟨hsecond, hends, -⟩ | ⟨hsecond, hends, -⟩
    · rw [waitsSafely_iff_of_release (Nat.le_refl 1) fun fuel =>
        (hretry fuel).trans (congrArg (Option.map _) (cancelIoRetry_success hunalerted hsecond)),
        Flags.any_xor_of_disjoint (by decide), hagrees]
      refine iff_of_true ⟨all_releaseOnSuccess.symm, fun _ h => ?_⟩ fun h => absurd h hends
      cases hended.symm.trans h
    · obtain ⟨errorCode, hfailure⟩ := cancelIoRetry_failure hunalerted hsecond
      rw [waitsSafely_iff_of_release (Nat.le_refl 1) fun fuel =>
        (hretry fuel).trans (congrArg (Option.map _) (hfailure fuel)),
        Flags.any_xor_of_disjoint (by decide), hagrees, releaseOnFail_iff hends]
      exact and_iff_right all_releaseOnFail.symm
    · have hoff : ¬Flags.Any KOVL_WAIT_FLAG_CANCEL_ON_TIMEOUT
          (call.function.waitFlags ^^^ KOVL_WAIT_FLAG_CANCEL_ON_TIMEOUT) := fun h =>
        (Flags.any_xor_self (i := 2) (by decide)).mp h hcancel
      rw [waitsSafely_iff_of_release (Nat.le_refl 1) fun fuel =>
        (hretry fuel).trans
          (congrArg (Option.map _) (cancelIoRetry_kept hunalerted hsecond hoff)),
        any_releaseOnTimeout_toggled hcancel, hagrees]
      exact iff_of_true ⟨Iff.rfl, fun h _ => h⟩ fun h => absurd h hends

/-- **`OvlK_Wait` and its variants do what callers rely on exactly when** they refuse the call,
an APC ends the wait, or the flags and the timing agree. -/
theorem ovlKWait_waitsSafely_iff (call : OvlWaitCall) (s : OvlPools) :
    WaitsSafely call s ↔ call.refused s ≠ none ∨ call.Alerted ∨ call.Agrees := by
  cases hrefused : call.refused s with
  | some errorCode =>
    refine iff_of_true (waitsSafely_of_no_release .rejected errorCode (.inl rfl)
      fun fuel => ?_) (.inl (Option.some_ne_none errorCode))
    rw [ovlKWait, hrefused]
  | none =>
    have hwait : ∀ fuel, ovlKWait (fuel + 2) call s =
        cancelIoRetry call.io call.passes (fuel + 2) 0 false call.function.waitFlags := by
      intro fuel
      rw [ovlKWait, hrefused]
    rw [or_iff_right fun h => h rfl]
    by_cases halert : call.Alerted
    · refine iff_of_true (waitsSafely_of_no_release .alert STATUS_USER_APC (.inr rfl)
        fun fuel => ?_) (.inl halert)
      rw [hwait, cancelIoRetry]
      exact if_pos ⟨halert.1, rfl, halert.2⟩
    rw [or_iff_right halert]
    have hapc : Unalerted call.passes 0 false call.function.waitFlags := fun h =>
      halert ⟨h.1, h.2.2⟩
    rcases errorCode_cases call 0 false rfl with
      ⟨hcode, hends, hfinds, hended⟩ | ⟨hcode, hends, hfinds⟩ | ⟨hcode, hends, hfinds⟩
    · rw [waitsSafely_iff_of_release (Nat.zero_le 1) fun fuel =>
        (hwait fuel).trans (cancelIoRetry_success hapc hcode)]
      refine iff_of_true ⟨all_releaseOnSuccess.symm, fun _ h => ?_⟩
        ⟨fun h => absurd h hfinds, fun h => absurd h hfinds, fun h => absurd h hends,
          fun h => absurd h hfinds⟩
      cases hended.symm.trans h
    · obtain ⟨errorCode, hfailure⟩ := cancelIoRetry_failure hapc hcode
      rw [waitsSafely_iff_of_release (Nat.zero_le 1) fun fuel =>
        (hwait fuel).trans (hfailure (fuel + 1)), releaseOnFail_iff hends]
      constructor
      · rintro ⟨-, hfails⟩
        exact ⟨fun h => absurd h (hfinds rfl), fun h => absurd h (hfinds rfl), hfails,
          fun h => absurd h (hfinds rfl)⟩
      · exact fun h => ⟨all_releaseOnFail.symm, h.failed⟩
    · exact waitsSafely_iff_of_pending hrefused hapc hcode hends hfinds

/-- `OvlK_WaitOrCancel` on handle 5, whose operation ends when the wait has timed out: the request
finds nothing to cancel. -/
def waitOrCancelFails : OvlWaitCall where
  function := .waitOrCancel 5
  io := { endsAt := some 1, error := none, isFailure := nofun }
  passes _ := { apc := false, wait := .timeout, cancel := some 1168 }

/-- The handle is released, although the flag says to cancel and not to release. -/
theorem not_waitsSafely_waitOrCancelFails :
    ¬WaitsSafely waitOrCancelFails
      { handles := fun _ => { inUse := true, pool := some 0, isAcquired := true } } := by
  rintro ⟨waited, hwaited, -, hasks, -⟩
  have hsome := hwaited 2 (Nat.le_refl 2)
  cases hsome
  have hall : Flags.All KOVL_WAIT_FLAG_RELEASE_ON_TIMEOUT KOVL_WAIT_FLAG_CANCEL_ON_TIMEOUT :=
    hasks.mp rfl
  exact absurd hall (by decide)

end LibusbK
