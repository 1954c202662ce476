import LibusbK.Driver.Context
import LibusbK.Lib.BitField
import Mathlib.Logic.Function.Basic

/-!
# Pipe contexts and the policy word

`PIPE_CONTEXT` and the array `PipeContextByID` of the device context.  A pipe's
policies live in one 32-bit word, the union `PIPE_POLICIES`; the transfer
routines see its bit-field view, `PipePolicies`.

A `WDFQUEUE` or `WDFUSBPIPE` is the number the framework gave it, and
`WDF_NO_HANDLE` is `none`.
-/

namespace LibusbK

/-- A framework handle; `none` is `WDF_NO_HANDLE`. -/
abbrev WdfHandle := Option ℕ

/-! ### `PIPE_POLICIES` -/

/-- `PIPE_POLICIES.values`. -/
abbrev PolicyValues := BitVec 32

/-- The policies that are one bit of the word. -/
inductive PolicyFlag
  | shortPacketTerminate
  | autoClearStall
  | ignoreShortPackets
  | allowPartialReads
  | autoFlush
  | rawIO
  | resetPipeOnResume
  | isoAlwaysStartAsap
  deriving DecidableEq, Repr

/-- `IsoStartLatency : 10`. -/
def isoStartLatencyField : BitField 10 := ⟨0⟩

/-- `IsoNumFixedPackets : 11`. -/
def isoNumFixedPacketsField : BitField 11 := ⟨16⟩

/-- The place of a flag in the word. -/
def PolicyFlag.field : PolicyFlag → BitField 1
  | isoAlwaysStartAsap => ⟨10⟩
  | autoClearStall => ⟨11⟩
  | allowPartialReads => ⟨12⟩
  | autoFlush => ⟨13⟩
  | ignoreShortPackets => ⟨14⟩
  | rawIO => ⟨15⟩
  | resetPipeOnResume => ⟨27⟩
  | shortPacketTerminate => ⟨28⟩

theorem PolicyFlag.offset_field_lt (f : PolicyFlag) : f.field.offset + 1 ≤ 32 := by
  cases f <;> decide

/-- Two flags are two bits. -/
theorem PolicyFlag.disjoint_field {f g : PolicyFlag} (h : f ≠ g) : f.field.Disjoint g.field := by
  have hne : f.field.offset ≠ g.field.offset := by
    cases f <;> cases g <;> first | exact absurd rfl h | decide
  rcases Nat.lt_or_gt_of_ne hne with h | h
  · exact .inl h
  · exact .inr h

theorem PolicyFlag.disjoint_isoStartLatency (f : PolicyFlag) :
    f.field.Disjoint isoStartLatencyField := by
  cases f <;> decide

theorem PolicyFlag.disjoint_isoNumFixedPackets (f : PolicyFlag) :
    f.field.Disjoint isoNumFixedPacketsField := by
  cases f <;> decide

theorem disjoint_isoStartLatency_isoNumFixedPackets :
    isoStartLatencyField.Disjoint isoNumFixedPacketsField := by
  decide

theorem BitField.Disjoint.symm {w w' : ℕ} {f : BitField w} {g : BitField w'}
    (h : f.Disjoint g) : g.Disjoint f :=
  Or.symm h

/-- Whether a flag is set. -/
def PolicyFlag.isSet (f : PolicyFlag) (values : PolicyValues) : Bool :=
  f.field.get values != 0

/-- The bit-field view of the policy word. -/
def PipePolicies.ofValues (values : PolicyValues) : PipePolicies where
  isoStartLatency := (isoStartLatencyField.get values).toNat
  isoAlwaysStartAsap := PolicyFlag.isoAlwaysStartAsap.isSet values
  autoClearStall := PolicyFlag.autoClearStall.isSet values
  allowPartialReads := PolicyFlag.allowPartialReads.isSet values
  autoFlush := PolicyFlag.autoFlush.isSet values
  ignoreShortPackets := PolicyFlag.ignoreShortPackets.isSet values
  rawIO := PolicyFlag.rawIO.isSet values
  isoNumFixedPackets := (isoNumFixedPacketsField.get values).toNat
  resetPipeOnResume := PolicyFlag.resetPipeOnResume.isSet values
  shortPacketTerminate := PolicyFlag.shortPacketTerminate.isSet values

/-! ### `PIPE_CONTEXT` -/

/-- `PIPE_CONTEXT`. -/
structure PipeContext where
  queue : WdfHandle := none
  timeoutPolicy : UInt32 := 0
  isValid : Bool := false
  pipePoliciesInitialized : Bool := false
  pipeInformation : PipeInformation := ⟨0, 0, 0, .invalid, 0⟩
  pipe : WdfHandle := none
  policies : PolicyValues := 0
  isQueueDirty : Bool := false
  simulParallelRequests : UInt32 := 0
  deriving DecidableEq, Repr

/-- A table of pipes has slots. -/
instance neZero_slots : @NeZero ℕ Zero.ofOfNat0 32 := ⟨by decide⟩

/-- `PipeContextByID`, all the pipe contexts of a device. -/
abbrev PipeTable := Fin 32 → PipeContext

/-- The slot of an endpoint address, as `GetPipeContextByID` computes it. -/
def pipeSlot (pipeID : UInt8) : Fin 32 :=
  if pipeID = 0x80 then 0
  else Fin.ofNat 32 ((pipeID &&& (0xF : UInt8)) ||| ((pipeID &&& (0x80 : UInt8)) >>> 3)).toNat

/-- `GetPipeContextByID`. -/
def getPipeContextByID (pipes : PipeTable) (pipeID : UInt8) : PipeContext :=
  pipes (pipeSlot pipeID)

end LibusbK
