import LibusbK.Driver.PipeContext
import Mathlib.Data.Int.Notation
import Mathlib.Tactic.SplitIfs

/-!
# Pipe policies

`Policy_InitPipe`, `Policy_GetPipe` and `Policy_SetPipe` of `drv_policy.c`.
A value buffer is the bytes from its address on; its length travels beside it,
and `Policy_SetPipe` does not always look at it.

## Main result

* `setPipe_readsBack_iff` — for every state of the pipe contexts, pipe, policy,
  value and length: a policy that was set reads back, and nothing else changes,
  exactly when the condition `ReadsBackWhen` on the input holds.
-/

namespace LibusbK

abbrev SHORT_PACKET_TERMINATE : UInt32 := 0x01
abbrev AUTO_CLEAR_STALL : UInt32 := 0x02
abbrev PIPE_TRANSFER_TIMEOUT : UInt32 := 0x03
abbrev IGNORE_SHORT_PACKETS : UInt32 := 0x04
abbrev ALLOW_PARTIAL_READS : UInt32 := 0x05
abbrev AUTO_FLUSH : UInt32 := 0x06
abbrev RAW_IO : UInt32 := 0x07
abbrev MAXIMUM_TRANSFER_SIZE : UInt32 := 0x08
abbrev RESET_PIPE_ON_RESUME : UInt32 := 0x09
abbrev ISO_START_LATENCY : UInt32 := 0x20
abbrev ISO_ALWAYS_START_ASAP : UInt32 := 0x21
abbrev ISO_NUM_FIXED_PACKETS : UInt32 := 0x22
abbrev SIMUL_PARALLEL_REQUESTS : UInt32 := 0x30

/-- The policies of the two switch statements, by where their value is kept. -/
inductive PipePolicy
  | flag (f : PolicyFlag)
  | pipeTransferTimeout
  | maximumTransferSize
  | isoStartLatency
  | isoNumFixedPackets
  | simulParallelRequests
  deriving DecidableEq, Repr

namespace PipePolicy

/-- The number a policy goes by. -/
def code : PipePolicy → UInt32
  | flag .shortPacketTerminate => SHORT_PACKET_TERMINATE
  | flag .autoClearStall => AUTO_CLEAR_STALL
  | flag .ignoreShortPackets => IGNORE_SHORT_PACKETS
  | flag .allowPartialReads => ALLOW_PARTIAL_READS
  | flag .autoFlush => AUTO_FLUSH
  | flag PolicyFlag.rawIO => RAW_IO
  | flag .resetPipeOnResume => RESET_PIPE_ON_RESUME
  | flag .isoAlwaysStartAsap => ISO_ALWAYS_START_ASAP
  | pipeTransferTimeout => PIPE_TRANSFER_TIMEOUT
  | maximumTransferSize => MAXIMUM_TRANSFER_SIZE
  | isoStartLatency => ISO_START_LATENCY
  | isoNumFixedPackets => ISO_NUM_FIXED_PACKETS
  | simulParallelRequests => SIMUL_PARALLEL_REQUESTS

/-- The case labels. -/
def labels : List PipePolicy :=
  [flag .shortPacketTerminate, flag .autoClearStall, pipeTransferTimeout,
    flag .ignoreShortPackets, flag .allowPartialReads, flag .autoFlush, flag PolicyFlag.rawIO,
    maximumTransferSize, flag .resetPipeOnResume, isoStartLatency, flag .isoAlwaysStartAsap,
    isoNumFixedPackets, simulParallelRequests]

/-- The case a policy type selects; `none` is `default`. -/
def ofCode (policyType : UInt32) : Option PipePolicy :=
  labels.find? fun p => p.code == policyType

theorem code_of_ofCode {policyType : UInt32} {p : PipePolicy} (h : ofCode policyType = some p) :
    p.code = policyType := by
  simpa using List.find?_some h

@[simp] theorem ofCode_code (p : PipePolicy) : ofCode p.code = some p := by
  rcases p with (_ | _ | _ | _ | _ | _ | _ | _) | _ | _ | _ | _ | _ <;> decide

/-- Two policy types select two cases. -/
theorem ofCode_ne {c c' : UInt32} {p p' : PipePolicy} (h : ofCode c = some p)
    (h' : ofCode c' = some p') (hne : c' ≠ c) : p' ≠ p := by
  rintro rfl
  exact hne ((code_of_ofCode h').symm.trans (code_of_ofCode h))

/-- The bytes a policy's value takes: a `UCHAR`, a `USHORT` or a `ULONG`. -/
def size : PipePolicy → ℕ
  | flag _ => 1
  | isoStartLatency => 2
  | isoNumFixedPackets => 2
  | pipeTransferTimeout => 4
  | maximumTransferSize => 4
  | simulParallelRequests => 4

end PipePolicy

/-! ### Value buffers -/

/-- The bytes from the address of a value on. -/
abbrev ValueBytes := ℕ → UInt8

namespace ValueBytes

/-- `((PUCHAR)value)[0]` -/
def uchar (value : ValueBytes) : UInt8 := value 0

/-- `((PUSHORT)value)[0]` -/
def ushort (value : ValueBytes) : UInt16 := (value 0).toUInt16 ||| (value 1).toUInt16 <<< 8

/-- `((PULONG)value)[0]` -/
def ulong (value : ValueBytes) : UInt32 :=
  (value 0).toUInt32 ||| (value 1).toUInt32 <<< 8 ||| (value 2).toUInt32 <<< 16 |||
    (value 3).toUInt32 <<< 24

end ValueBytes

/-- What is stored through the value pointer. -/
inductive PolicyValue
  | uchar (x : UInt8)
  | ushort (x : UInt16)
  | ulong (x : UInt32)
  deriving DecidableEq, Repr

/-- `mPipe_CheckValueLength`.  Both lengths are compared as `int`. -/
def checkValueLength (minValueLength : ℕ) (valueLength : UInt32) : NTSTATUS :=
  if (minValueLength : ℤ) > valueLength.toInt32.toInt then STATUS_INVALID_BUFFER_SIZE
  else STATUS_SUCCESS

/-! ### `Policy_InitPipe` -/

/-- The word `Policy_InitPipe` gives a pipe. -/
def defaultPolicies (isHighSpeed : Bool) (endpointAddress : UInt8) : PolicyValues :=
  let values := PolicyFlag.allowPartialReads.field.set 0 1
  let values := isoStartLatencyField.set values (if isHighSpeed then 32 else 8)
  PolicyFlag.isoAlwaysStartAsap.field.set values
    (if usbEndpointDirectionIn endpointAddress then 0 else 1)

/-- `Policy_InitPipe`. -/
def policyInitPipe (isHighSpeed : Bool) (pc : PipeContext) : PipeContext :=
  if pc.pipePoliciesInitialized then pc
  else { pc with
    policies := defaultPolicies isHighSpeed pc.pipeInformation.endpointAddress
    pipePoliciesInitialized := true }

/-! ### `Policy_GetPipe` -/

/-- `(UCHAR)` of a flag. -/
def flagByte (x : BitVec 1) : UInt8 := UInt8.ofNat x.toNat

/-- What each case of `Policy_GetPipe` stores. -/
def readPolicy (pc : PipeContext) : PipePolicy → PolicyValue
  | .flag f => .uchar (flagByte (f.field.get pc.policies))
  | .pipeTransferTimeout => .ulong pc.timeoutPolicy
  | .maximumTransferSize => .ulong (UInt32.ofNat pc.pipeInformation.maximumTransferSize)
  | .isoStartLatency => .ushort (UInt16.ofNat (isoStartLatencyField.get pc.policies).toNat)
  | .isoNumFixedPackets => .ushort (UInt16.ofNat (isoNumFixedPacketsField.get pc.policies).toNat)
  | .simulParallelRequests => .ulong pc.simulParallelRequests

/-- `Policy_GetPipe`: its status and what it stores.  `hasValue` says whether
`value` is not null, and a null `valueLength` is `none`. -/
def policyGetPipe (pipes : PipeTable) (pipeID : UInt8) (policyType : UInt32) (hasValue : Bool)
    (valueLength : Option UInt32) : NTSTATUS × Option PolicyValue :=
  let pc := getPipeContextByID pipes pipeID
  if !pc.isValid || pc.pipe.isNone || pc.queue.isNone then (STATUS_INVALID_PARAMETER, none)
  else
    match valueLength, PipePolicy.ofCode policyType with
    | none, _ => (STATUS_INVALID_BUFFER_SIZE, none)
    | some _, none => (STATUS_INVALID_PARAMETER, none)
    | some length, some p =>
      if !ntSuccess (checkValueLength p.size length) then (checkValueLength p.size length, none)
      else (STATUS_SUCCESS, if hasValue then some (readPolicy pc p) else none)

/-! ### `Policy_SetPipe` -/

/-- What stands at `Done:`: the pipe context as the cases left it, the local
copy of the policy word, and the status. -/
structure PolicyUpdate where
  context : PipeContext
  policies : PolicyValues
  status : NTSTATUS
  deriving DecidableEq, Repr

/-- A case that assigns `value ? 1 : 0` to a flag. -/
def setFlag (f : PolicyFlag) (pc : PipeContext) (value : ValueBytes) (valueLength : UInt32) :
    PolicyUpdate :=
  if !ntSuccess (checkValueLength 1 valueLength) then
    ⟨pc, pc.policies, checkValueLength 1 valueLength⟩
  else ⟨pc, f.field.set pc.policies (if value.uchar ≠ 0 then 1 else 0), STATUS_SUCCESS⟩

/-- `case RAW_IO`. -/
def setRawIo (pc : PipeContext) (value : ValueBytes) (valueLength : UInt32) : PolicyUpdate :=
  if pc.pipeInformation.pipeType ≠ .bulk ∧ pc.pipeInformation.pipeType ≠ .interrupt then
    ⟨pc, pc.policies, STATUS_INVALID_PARAMETER⟩
  else if !ntSuccess (checkValueLength 1 valueLength) then
    ⟨pc, pc.policies, checkValueLength 1 valueLength⟩
  else
    let tempVal := value.uchar
    if tempVal &&& 0x1 ≠ flagByte (BitField.get PolicyFlag.rawIO.field pc.policies) then
      ⟨{ pc with isQueueDirty := true },
        PolicyFlag.rawIO.field.set pc.policies (if value.uchar ≠ 0 then 1 else 0), STATUS_SUCCESS⟩
    else ⟨pc, pc.policies, STATUS_SUCCESS⟩

/-- `case PIPE_TRANSFER_TIMEOUT`: the length it checks is its own. -/
def setTransferTimeout (pc : PipeContext) (value : ValueBytes) : PolicyUpdate :=
  if !ntSuccess (checkValueLength 4 4) then ⟨pc, pc.policies, checkValueLength 4 4⟩
  else ⟨{ pc with timeoutPolicy := value.ulong }, pc.policies, STATUS_SUCCESS⟩

/-- `case ISO_START_LATENCY`. -/
def setIsoStartLatency (pc : PipeContext) (value : ValueBytes) (valueLength : UInt32) :
    PolicyUpdate :=
  if !ntSuccess (checkValueLength 2 valueLength) then
    ⟨pc, pc.policies, checkValueLength 2 valueLength⟩
  else ⟨pc, isoStartLatencyField.set pc.policies (BitVec.ofNat 10 value.ushort.toNat),
    STATUS_SUCCESS⟩

/-- The numbers of fixed packets a device of this speed is refused. -/
def fixedPacketsRefused (isHighSpeed : Bool) (n : ℕ) : Bool :=
  n != 0 && if isHighSpeed then n % 8 != 0 || decide (1024 < n) else decide (256 < n)

/-- `case ISO_NUM_FIXED_PACKETS`: the local copy is assigned before the checks. -/
def setIsoNumFixedPackets (isHighSpeed : Bool) (pc : PipeContext) (value : ValueBytes)
    (valueLength : UInt32) : PolicyUpdate :=
  if !ntSuccess (checkValueLength 2 valueLength) then
    ⟨pc, pc.policies, checkValueLength 2 valueLength⟩
  else
    let policies := isoNumFixedPacketsField.set pc.policies
      (BitVec.ofNat 11 (value.ushort &&& 0x7FF).toNat)
    if fixedPacketsRefused isHighSpeed (isoNumFixedPacketsField.get policies).toNat then
      ⟨pc, policies, STATUS_INVALID_PARAMETER⟩
    else ⟨pc, policies, STATUS_SUCCESS⟩

/-- `case SIMUL_PARALLEL_REQUESTS`. -/
def setSimulParallelRequests (pc : PipeContext) (value : ValueBytes) (valueLength : UInt32) :
    PolicyUpdate :=
  if !ntSuccess (checkValueLength 4 valueLength) then
    ⟨pc, pc.policies, checkValueLength 4 valueLength⟩
  else if pc.simulParallelRequests ≠ value.ulong then
    ⟨{ pc with simulParallelRequests := value.ulong, isQueueDirty := true }, pc.policies,
      STATUS_SUCCESS⟩
  else ⟨pc, pc.policies, STATUS_SUCCESS⟩

/-- The switch of `Policy_SetPipe`. -/
def setPolicy (isHighSpeed : Bool) (pc : PipeContext) (policyType : UInt32) (value : ValueBytes)
    (valueLength : UInt32) : PolicyUpdate :=
  match PipePolicy.ofCode policyType with
  | some (.flag PolicyFlag.rawIO) => setRawIo pc value valueLength
  | some (.flag f) => setFlag f pc value valueLength
  | some .pipeTransferTimeout => setTransferTimeout pc value
  | some .isoStartLatency => setIsoStartLatency pc value valueLength
  | some .isoNumFixedPackets => setIsoNumFixedPackets isHighSpeed pc value valueLength
  | some .simulParallelRequests => setSimulParallelRequests pc value valueLength
  | some .maximumTransferSize => ⟨pc, pc.policies, STATUS_INVALID_PARAMETER⟩
  | none => ⟨pc, pc.policies, STATUS_INVALID_PARAMETER⟩

/-- `Done:` of `Policy_SetPipe`: the policy word is stored on success. -/
def PolicyUpdate.done (u : PolicyUpdate) : PipeContext :=
  if ntSuccess u.status then { u.context with policies := u.policies } else u.context

/-- `Policy_SetPipe`: the pipe contexts it leaves and its status. -/
def policySetPipe (isHighSpeed : Bool) (pipes : PipeTable) (pipeID : UInt8) (policyType : UInt32)
    (value : ValueBytes) (valueLength : UInt32) : PipeTable × NTSTATUS :=
  let pc := getPipeContextByID pipes pipeID
  if !pc.isValid then (pipes, STATUS_INVALID_PARAMETER)
  else
    let u := setPolicy isHighSpeed pc policyType value valueLength
    (Function.update pipes (pipeSlot pipeID) u.done, u.status)

/-! ### The length check -/

theorem toInt_toInt32 (x : UInt32) :
    x.toInt32.toInt =
      if x.toNat < 0x80000000 then (x.toNat : ℤ) else (x.toNat : ℤ) - 0x100000000 := by
  have h : x.toInt32.toInt = x.toBitVec.toInt := rfl
  rw [h, BitVec.toInt_eq_toNat_cond]
  have hx : x.toBitVec.toNat = x.toNat := rfl
  rw [hx]
  split_ifs <;> omega

/-- A length that passes: long enough, and not negative as an `int`. -/
def LengthOk (minValueLength : ℕ) (valueLength : UInt32) : Prop :=
  minValueLength ≤ valueLength.toNat ∧ valueLength.toNat < 0x80000000

instance (m : ℕ) (n : UInt32) : Decidable (LengthOk m n) := inferInstanceAs (Decidable (_ ∧ _))

theorem ntSuccess_checkValueLength {m : ℕ} (hm : 0 < m) (n : UInt32) :
    ntSuccess (checkValueLength m n) = true ↔ LengthOk m n := by
  have hn := n.toNat_lt
  unfold checkValueLength LengthOk
  rw [toInt_toInt32]
  by_cases hneg : n.toNat < 0x80000000
  · rw [if_pos hneg]
    split_ifs with h
    · exact ⟨fun h' => absurd h' (by decide), fun h' => by omega⟩
    · exact ⟨fun _ => ⟨by omega, hneg⟩, fun _ => by decide⟩
  · rw [if_neg hneg, if_pos (by omega)]
    exact ⟨fun h => absurd h (by decide), fun h => absurd h.2 hneg⟩

/-! ### What a successful set changes -/

/-- `pc'` differs from `pc` in the policy `p` only, which reads `v`. -/
structure SetsOnly (p : PipePolicy) (v : PolicyValue) (pc pc' : PipeContext) : Prop where
  isValid : pc'.isValid = pc.isValid
  pipe : pc'.pipe = pc.pipe
  queue : pc'.queue = pc.queue
  self : readPolicy pc' p = v
  other : ∀ p', p' ≠ p → readPolicy pc' p' = readPolicy pc p'

/-- Storing the word with one field assigned changes the policy that reads this field. -/
theorem setsOnly_field {w : ℕ} (field : BitField w) (x : BitVec w) (dirty : Bool)
    (pc : PipeContext) {p : PipePolicy} {v : PolicyValue}
    (hself :
      readPolicy { pc with policies := field.set pc.policies x, isQueueDirty := dirty } p = v)
    (hflag : ∀ g, .flag g ≠ p → field.Disjoint g.field)
    (hlatency : .isoStartLatency ≠ p → field.Disjoint isoStartLatencyField)
    (hpackets : .isoNumFixedPackets ≠ p → field.Disjoint isoNumFixedPacketsField) :
    SetsOnly p v pc
      { pc with policies := field.set pc.policies x, isQueueDirty := dirty } := by
  refine ⟨rfl, rfl, rfl, hself, fun p' hp' => ?_⟩
  cases p' with
  | flag g =>
    simp only [readPolicy, BitField.get_set_of_disjoint field g.field pc.policies x
      g.offset_field_lt (hflag g hp')]
  | isoStartLatency =>
    simp only [readPolicy, BitField.get_set_of_disjoint field isoStartLatencyField pc.policies x
      (by decide) (hlatency hp')]
  | isoNumFixedPackets =>
    simp only [readPolicy, BitField.get_set_of_disjoint field isoNumFixedPacketsField pc.policies x
      (by decide) (hpackets hp')]
  | pipeTransferTimeout => rfl
  | maximumTransferSize => rfl
  | simulParallelRequests => rfl

/-- Storing the word with one flag assigned. -/
theorem setsOnly_flag (f : PolicyFlag) (x : BitVec 1) (dirty : Bool) (pc : PipeContext) :
    SetsOnly (.flag f) (.uchar (flagByte x)) pc
      { pc with policies := f.field.set pc.policies x, isQueueDirty := dirty } := by
  refine setsOnly_field f.field x dirty pc ?_ (fun g hg => PolicyFlag.disjoint_field ?_)
    (fun _ => f.disjoint_isoStartLatency) fun _ => f.disjoint_isoNumFixedPackets
  · simp only [readPolicy, BitField.get_set_self f.field pc.policies x f.offset_field_lt]
  · exact fun hsame => hg (hsame ▸ rfl)

theorem setsOnly_isoStartLatency (x : BitVec 10) (pc : PipeContext) :
    SetsOnly .isoStartLatency (.ushort (UInt16.ofNat x.toNat)) pc
      { pc with policies := isoStartLatencyField.set pc.policies x } := by
  refine setsOnly_field isoStartLatencyField x pc.isQueueDirty pc ?_
    (fun g _ => g.disjoint_isoStartLatency.symm) (fun hne => absurd rfl hne)
    fun _ => disjoint_isoStartLatency_isoNumFixedPackets
  simp only [readPolicy, BitField.get_set_self isoStartLatencyField pc.policies x (by decide)]

theorem setsOnly_isoNumFixedPackets (x : BitVec 11) (pc : PipeContext) :
    SetsOnly .isoNumFixedPackets (.ushort (UInt16.ofNat x.toNat)) pc
      { pc with policies := isoNumFixedPacketsField.set pc.policies x } := by
  refine setsOnly_field isoNumFixedPacketsField x pc.isQueueDirty pc ?_
    (fun g _ => g.disjoint_isoNumFixedPackets.symm)
    (fun _ => disjoint_isoStartLatency_isoNumFixedPackets.symm) fun hne => absurd rfl hne
  simp only [readPolicy, BitField.get_set_self isoNumFixedPacketsField pc.policies x (by decide)]

theorem setsOnly_pipeTransferTimeout (x : UInt32) (pc : PipeContext) :
    SetsOnly .pipeTransferTimeout (.ulong x) pc { pc with timeoutPolicy := x } := by
  refine ⟨rfl, rfl, rfl, rfl, fun p' hp' => ?_⟩
  cases p' with
  | pipeTransferTimeout => exact absurd rfl hp'
  | _ => rfl

theorem setsOnly_simulParallelRequests (x : UInt32) (dirty : Bool) (pc : PipeContext) :
    SetsOnly .simulParallelRequests (.ulong x) pc
      { pc with simulParallelRequests := x, isQueueDirty := dirty } := by
  refine ⟨rfl, rfl, rfl, rfl, fun p' hp' => ?_⟩
  cases p' with
  | simulParallelRequests => exact absurd rfl hp'
  | _ => rfl

theorem SetsOnly.refl (p : PipePolicy) (pc : PipeContext) :
    SetsOnly p (readPolicy pc p) pc pc :=
  ⟨rfl, rfl, rfl, rfl, fun _ _ => rfl⟩

/-! ### The law -/

/-- The value a buffer holds for a policy, a flag's normalised to 0 or 1. -/
def valueSet (value : ValueBytes) : PipePolicy → PolicyValue
  | .flag _ => .uchar (if value.uchar ≠ 0 then 1 else 0)
  | .isoStartLatency => .ushort value.ushort
  | .isoNumFixedPackets => .ushort value.ushort
  | .pipeTransferTimeout => .ulong value.ulong
  | .maximumTransferSize => .ulong value.ulong
  | .simulParallelRequests => .ulong value.ulong

/-- Set, then get.  If the policy was set, getting it with a buffer of `length`
bytes that are enough succeeds with the value that was set, and any other policy
of the pipe and any policy of another pipe reads as before; if it was not set,
every policy reads as before. -/
def SetReadsBack (isHighSpeed : Bool) (pipes : PipeTable) (pipeID : UInt8) (policyType : UInt32)
    (value : ValueBytes) (valueLength length : UInt32) : Prop :=
  let r := policySetPipe isHighSpeed pipes pipeID policyType value valueLength
  if ntSuccess r.2 then
    (∀ p, PipePolicy.ofCode policyType = some p → p.size ≤ length.toNat →
      policyGetPipe r.1 pipeID policyType true (some length) =
        (STATUS_SUCCESS, some (valueSet value p))) ∧
    ∀ pipeID' policyType' hasValue length',
      (pipeSlot pipeID', policyType') ≠ (pipeSlot pipeID, policyType) →
        policyGetPipe r.1 pipeID' policyType' hasValue length' =
          policyGetPipe pipes pipeID' policyType' hasValue length'
  else
    ∀ pipeID' policyType' hasValue length',
      policyGetPipe r.1 pipeID' policyType' hasValue length' =
        policyGetPipe pipes pipeID' policyType' hasValue length'

/-- The inputs that are refused: an unknown or read-only policy, a short buffer,
`RAW_IO` on a pipe that is neither bulk nor interrupt, a bad number of packets. -/
def PolicyRefused (isHighSpeed : Bool) (pc : PipeContext) (value : ValueBytes)
    (valueLength : UInt32) : Option PipePolicy → Prop
  | none => True
  | some .maximumTransferSize => True
  | some .pipeTransferTimeout => False
  | some (.flag PolicyFlag.rawIO) =>
    (pc.pipeInformation.pipeType ≠ .bulk ∧ pc.pipeInformation.pipeType ≠ .interrupt) ∨
      ¬LengthOk 1 valueLength
  | some (.flag _) => ¬LengthOk 1 valueLength
  | some .isoStartLatency => ¬LengthOk 2 valueLength
  | some .isoNumFixedPackets =>
    ¬LengthOk 2 valueLength ∨
      fixedPacketsRefused isHighSpeed (value.ushort &&& 0x7FF).toNat = true
  | some .simulParallelRequests => ¬LengthOk 4 valueLength

/-- The values the pipe context can hold: an even byte other than 0 turns
`RAW_IO` on only where it is on already, and the two isochronous numbers must
fit their bit-fields. -/
def ValueFits (pc : PipeContext) (value : ValueBytes) : PipePolicy → Prop
  | .flag PolicyFlag.rawIO =>
    value.uchar = 0 ∨ value.uchar &&& 1 = 1 ∨ PolicyFlag.rawIO.isSet pc.policies = true
  | .isoStartLatency => value.ushort.toNat < 1024
  | .isoNumFixedPackets => value.ushort.toNat < 2048
  | _ => True

/-- The inputs on which set and get agree: the pipe is not valid, or the set is
refused, or the buffer of the get is too short, or that buffer is shorter than
2 GiB, the pipe has a handle and a queue, and the value fits. -/
def ReadsBackWhen (isHighSpeed : Bool) (pipes : PipeTable) (pipeID : UInt8) (policyType : UInt32)
    (value : ValueBytes) (valueLength length : UInt32) : Prop :=
  let pc := getPipeContextByID pipes pipeID
  pc.isValid = false ∨
    PolicyRefused isHighSpeed pc value valueLength (PipePolicy.ofCode policyType) ∨
    ∀ p, PipePolicy.ofCode policyType = some p → p.size ≤ length.toNat →
      length.toNat < 0x80000000 ∧ pc.pipe.isSome = true ∧ pc.queue.isSome = true ∧
        ValueFits pc value p

/-! ### A refused set -/

theorem not_ntSuccess_checkValueLength {m : ℕ} (hm : 0 < m) {n : UInt32} (h : ¬LengthOk m n) :
    ntSuccess (checkValueLength m n) = false := by
  rw [← Bool.not_eq_true, ntSuccess_checkValueLength hm]
  exact h

theorem done_of_failure {u : PolicyUpdate} (h : ntSuccess u.status = false) :
    u.done = u.context := by
  unfold PolicyUpdate.done
  rw [if_neg (by simp [h])]

/-- The masked number of packets fits its bit-field. -/
theorem toNat_isoNumFixedPackets (values : PolicyValues) (x : UInt16) :
    (isoNumFixedPacketsField.get (isoNumFixedPacketsField.set values
      (BitVec.ofNat 11 (x &&& 0x7FF).toNat))).toNat = (x &&& 0x7FF).toNat := by
  rw [BitField.get_set_self _ _ _ (by decide), BitVec.toNat_ofNat]
  have hx : (x &&& 0x7FF).toNat = x.toNat % 2048 := by
    rw [UInt16.toNat_and]
    exact Nat.and_two_pow_sub_one_eq_mod x.toNat 11
  omega

/-- A refused set fails and leaves the pipe context as it was. -/
theorem setPolicy_refused {isHighSpeed : Bool} {pc : PipeContext} {policyType : UInt32}
    {value : ValueBytes} {valueLength : UInt32}
    (h : PolicyRefused isHighSpeed pc value valueLength (PipePolicy.ofCode policyType)) :
    ntSuccess (setPolicy isHighSpeed pc policyType value valueLength).status = false ∧
      (setPolicy isHighSpeed pc policyType value valueLength).context = pc := by
  unfold setPolicy
  split
  · next heq =>
    rw [heq] at h
    unfold setRawIo
    rcases h with htype | hlen
    · rw [if_pos htype]
      exact ⟨rfl, rfl⟩
    · have hfail := not_ntSuccess_checkValueLength (by decide) hlen
      split_ifs with h₁ h₂
      · exact ⟨rfl, rfl⟩
      · exact ⟨hfail, rfl⟩
      · simp [hfail] at h₂
      · simp [hfail] at h₂
  · next f hf heq =>
    rw [heq] at h
    have hlen : ¬LengthOk 1 valueLength := by
      cases f with
      | rawIO => exact absurd rfl hf
      | _ => exact h
    have hfail := not_ntSuccess_checkValueLength (by decide) hlen
    unfold setFlag
    rw [if_pos (by simp [hfail])]
    exact ⟨hfail, rfl⟩
  · next heq =>
    rw [heq] at h
    exact h.elim
  · next heq =>
    rw [heq] at h
    have hfail := not_ntSuccess_checkValueLength (by decide) h
    unfold setIsoStartLatency
    rw [if_pos (by simp [hfail])]
    exact ⟨hfail, rfl⟩
  · next heq =>
    rw [heq] at h
    simp only [setIsoNumFixedPackets, toNat_isoNumFixedPackets]
    rcases h with hlen | hbad
    · have hfail := not_ntSuccess_checkValueLength (by decide) hlen
      rw [if_pos (by simp [hfail])]
      exact ⟨hfail, rfl⟩
    · rw [if_pos hbad]
      split_ifs with h₁
      · exact ⟨by simpa using h₁, rfl⟩
      · exact ⟨rfl, rfl⟩
  · next heq =>
    rw [heq] at h
    have hfail := not_ntSuccess_checkValueLength (by decide) h
    unfold setSimulParallelRequests
    rw [if_pos (by simp [hfail])]
    exact ⟨hfail, rfl⟩
  · exact ⟨rfl, rfl⟩
  · exact ⟨rfl, rfl⟩

/-! ### An accepted set -/

/-- The value an accepted set leaves behind. -/
def storedValue (pc : PipeContext) (value : ValueBytes) : PipePolicy → PolicyValue
  | .flag PolicyFlag.rawIO =>
    .uchar (if value.uchar &&& 0x1 ≠ flagByte (BitField.get PolicyFlag.rawIO.field pc.policies) then
      flagByte (if value.uchar ≠ 0 then 1 else 0)
    else flagByte (BitField.get PolicyFlag.rawIO.field pc.policies))
  | .flag _ => .uchar (flagByte (if value.uchar ≠ 0 then 1 else 0))
  | .isoStartLatency => .ushort (UInt16.ofNat (BitVec.ofNat 10 value.ushort.toNat).toNat)
  | .isoNumFixedPackets =>
    .ushort (UInt16.ofNat (BitVec.ofNat 11 (value.ushort &&& 0x7FF).toNat).toNat)
  | .pipeTransferTimeout => .ulong value.ulong
  | .maximumTransferSize => .ulong value.ulong
  | .simulParallelRequests => .ulong value.ulong

theorem done_of_success {u : PolicyUpdate} (h : ntSuccess u.status = true) :
    u.done = { u.context with policies := u.policies } := by
  unfold PolicyUpdate.done
  rw [if_pos h]

theorem setFlag_accepted {f : PolicyFlag} {pc : PipeContext} {value : ValueBytes}
    {valueLength : UInt32} (h : LengthOk 1 valueLength) :
    ntSuccess (setFlag f pc value valueLength).status = true ∧
      SetsOnly (.flag f) (.uchar (flagByte (if value.uchar ≠ 0 then 1 else 0))) pc
        (setFlag f pc value valueLength).done := by
  have hok := (ntSuccess_checkValueLength (by decide) valueLength).mpr h
  have heq : setFlag f pc value valueLength =
      ⟨pc, f.field.set pc.policies (if value.uchar ≠ 0 then 1 else 0), STATUS_SUCCESS⟩ := by
    unfold setFlag
    rw [if_neg (by simp [hok])]
  rw [heq]
  refine ⟨rfl, ?_⟩
  rw [done_of_success rfl]
  exact setsOnly_flag f _ pc.isQueueDirty pc

theorem setRawIo_accepted {pc : PipeContext} {value : ValueBytes} {valueLength : UInt32}
    (htype : ¬(pc.pipeInformation.pipeType ≠ .bulk ∧ pc.pipeInformation.pipeType ≠ .interrupt))
    (h : LengthOk 1 valueLength) :
    ntSuccess (setRawIo pc value valueLength).status = true ∧
      SetsOnly (.flag PolicyFlag.rawIO) (storedValue pc value (.flag PolicyFlag.rawIO)) pc
        (setRawIo pc value valueLength).done := by
  have hok := (ntSuccess_checkValueLength (by decide) valueLength).mpr h
  unfold setRawIo storedValue
  rw [if_neg htype, if_neg (by simp [hok])]
  dsimp only
  by_cases hbit : value.uchar &&& 0x1 ≠ flagByte (BitField.get PolicyFlag.rawIO.field pc.policies)
  · rw [if_pos hbit, if_pos hbit]
    refine ⟨rfl, ?_⟩
    rw [done_of_success rfl]
    exact setsOnly_flag PolicyFlag.rawIO _ true pc
  · rw [if_neg hbit, if_neg hbit]
    refine ⟨rfl, ?_⟩
    rw [done_of_success rfl]
    exact SetsOnly.refl (.flag PolicyFlag.rawIO) pc

theorem setIsoNumFixedPackets_accepted {isHighSpeed : Bool} {pc : PipeContext}
    {value : ValueBytes} {valueLength : UInt32} (h : LengthOk 2 valueLength)
    (hn : ¬fixedPacketsRefused isHighSpeed (value.ushort &&& 0x7FF).toNat = true) :
    ntSuccess (setIsoNumFixedPackets isHighSpeed pc value valueLength).status = true ∧
      SetsOnly .isoNumFixedPackets (storedValue pc value .isoNumFixedPackets) pc
        (setIsoNumFixedPackets isHighSpeed pc value valueLength).done := by
  have hok := (ntSuccess_checkValueLength (by decide) valueLength).mpr h
  have heq : setIsoNumFixedPackets isHighSpeed pc value valueLength =
      ⟨pc, isoNumFixedPacketsField.set pc.policies
        (BitVec.ofNat 11 (value.ushort &&& 0x7FF).toNat), STATUS_SUCCESS⟩ := by
    simp only [setIsoNumFixedPackets, toNat_isoNumFixedPackets]
    rw [if_neg (by simp [hok]), if_neg hn]
  rw [heq]
  refine ⟨rfl, ?_⟩
  rw [done_of_success rfl]
  exact setsOnly_isoNumFixedPackets _ pc

theorem setSimulParallelRequests_accepted {pc : PipeContext} {value : ValueBytes}
    {valueLength : UInt32} (h : LengthOk 4 valueLength) :
    ntSuccess (setSimulParallelRequests pc value valueLength).status = true ∧
      SetsOnly .simulParallelRequests (.ulong value.ulong) pc
        (setSimulParallelRequests pc value valueLength).done := by
  have hok := (ntSuccess_checkValueLength (by decide) valueLength).mpr h
  unfold setSimulParallelRequests
  rw [if_neg (by simp [hok])]
  split_ifs with hne
  · refine ⟨rfl, ?_⟩
    rw [done_of_success rfl]
    exact setsOnly_simulParallelRequests _ true pc
  · refine ⟨rfl, ?_⟩
    rw [done_of_success rfl, ← not_not.mp hne]
    exact SetsOnly.refl .simulParallelRequests pc

/-- An accepted set succeeds and changes its own policy only. -/
theorem setPolicy_accepted {isHighSpeed : Bool} {pc : PipeContext} {policyType : UInt32}
    {value : ValueBytes} {valueLength : UInt32} {p : PipePolicy}
    (hp : PipePolicy.ofCode policyType = some p)
    (h : ¬PolicyRefused isHighSpeed pc value valueLength (some p)) :
    ntSuccess (setPolicy isHighSpeed pc policyType value valueLength).status = true ∧
      SetsOnly p (storedValue pc value p) pc
        (setPolicy isHighSpeed pc policyType value valueLength).done := by
  unfold setPolicy
  rw [hp]
  cases p with
  | flag f =>
    cases f with
    | rawIO =>
      obtain ⟨htype, hlen⟩ := not_or.mp h
      exact setRawIo_accepted htype (not_not.mp hlen)
    | _ => exact setFlag_accepted (not_not.mp h)
  | pipeTransferTimeout =>
    exact ⟨rfl, setsOnly_pipeTransferTimeout value.ulong pc⟩
  | maximumTransferSize => exact absurd trivial h
  | isoStartLatency =>
    have hok := (ntSuccess_checkValueLength (by decide) valueLength).mpr (not_not.mp h)
    have heq : setIsoStartLatency pc value valueLength =
        ⟨pc, isoStartLatencyField.set pc.policies (BitVec.ofNat 10 value.ushort.toNat),
          STATUS_SUCCESS⟩ := by
      unfold setIsoStartLatency
      rw [if_neg (by simp [hok])]
    dsimp only
    rw [heq]
    refine ⟨rfl, ?_⟩
    rw [done_of_success rfl]
    exact setsOnly_isoStartLatency _ pc
  | isoNumFixedPackets =>
    obtain ⟨hlen, hn⟩ := not_or.mp h
    exact setIsoNumFixedPackets_accepted (not_not.mp hlen) hn
  | simulParallelRequests => exact setSimulParallelRequests_accepted (not_not.mp h)

/-! ### When the stored value is the one that was set -/

theorem flagByte_ite {c : Prop} [Decidable c] :
    flagByte (if c then 1 else 0) = if c then 1 else 0 := by
  split_ifs <;> rfl

/-- A flag reads 1 if it is set and 0 if not. -/
theorem flagByte_get (f : PolicyFlag) (values : PolicyValues) :
    flagByte (f.field.get values) = if f.isSet values = true then 1 else 0 := by
  unfold PolicyFlag.isSet
  generalize f.field.get values = x
  revert x
  decide

theorem uchar_rawIO_iff (b : UInt8) (isSet : Bool) :
    (if b &&& 0x1 ≠ (if isSet = true then 1 else 0) then if b ≠ 0 then 1 else 0
      else if isSet = true then 1 else 0 : UInt8) = (if b ≠ 0 then 1 else 0) ↔
      b = 0 ∨ b &&& 1 = 1 ∨ isSet = true := by
  have hbit : b &&& 1 = 0 ∨ b &&& 1 = 1 := by
    rw [← UInt8.toNat_inj, ← UInt8.toNat_inj, UInt8.toNat_and]
    have h : b.toNat &&& UInt8.toNat 1 = b.toNat % 2 := Nat.and_two_pow_sub_one_eq_mod b.toNat 1
    have h₁ : UInt8.toNat 1 = 1 := rfl
    have h₀ : UInt8.toNat 0 = 0 := rfl
    omega
  by_cases hb : b = 0
  · subst hb
    cases isSet <;> decide
  · rcases hbit with hbit | hbit <;> cases isSet <;> simp [hb, hbit]

/-- An accepted value is stored as it was given exactly when it fits. -/
theorem storedValue_eq_valueSet_iff (pc : PipeContext) (value : ValueBytes) (p : PipePolicy) :
    storedValue pc value p = valueSet value p ↔ ValueFits pc value p := by
  cases p with
  | flag f =>
    cases f with
    | rawIO =>
      unfold storedValue valueSet ValueFits
      rw [flagByte_get, flagByte_ite, PolicyValue.uchar.injEq]
      exact uchar_rawIO_iff value.uchar _
    | _ => exact iff_of_true (congrArg PolicyValue.uchar flagByte_ite) trivial
  | isoStartLatency =>
    unfold storedValue valueSet ValueFits
    rw [PolicyValue.ushort.injEq, ← UInt16.toNat_inj, BitVec.toNat_ofNat, UInt16.toNat_ofNat']
    have hx := value.ushort.toNat_lt
    omega
  | isoNumFixedPackets =>
    unfold storedValue valueSet ValueFits
    rw [PolicyValue.ushort.injEq, ← UInt16.toNat_inj, BitVec.toNat_ofNat, UInt16.toNat_ofNat',
      UInt16.toNat_and]
    have hmask : value.ushort.toNat &&& (0x7FF : UInt16).toNat = value.ushort.toNat % 2048 :=
      Nat.and_two_pow_sub_one_eq_mod value.ushort.toNat 11
    have hx := value.ushort.toNat_lt
    omega
  | pipeTransferTimeout => exact iff_of_true rfl trivial
  | maximumTransferSize => exact iff_of_true rfl trivial
  | simulParallelRequests => exact iff_of_true rfl trivial

/-! ### Set, then get -/

/-- A get with enough room for the value succeeds on a pipe with a handle and a
queue, if its buffer is shorter than 2 GiB. -/
theorem policyGetPipe_eq_iff (pipes : PipeTable) {pipeID : UInt8} {policyType length : UInt32}
    {p : PipePolicy} (hp : PipePolicy.ofCode policyType = some p)
    (hvalid : (getPipeContextByID pipes pipeID).isValid = true)
    (hsize : p.size ≤ length.toNat) (v : PolicyValue) :
    policyGetPipe pipes pipeID policyType true (some length) = (STATUS_SUCCESS, some v) ↔
      length.toNat < 0x80000000 ∧ (getPipeContextByID pipes pipeID).pipe.isSome = true ∧
        (getPipeContextByID pipes pipeID).queue.isSome = true ∧
          readPolicy (getPipeContextByID pipes pipeID) p = v := by
  have hpos : 0 < p.size := by cases p <;> exact Nat.succ_pos _
  unfold policyGetPipe
  simp only [hp, hvalid]
  cases hpipe : (getPipeContextByID pipes pipeID).pipe with
  | none => simp
  | some pipe =>
    cases hqueue : (getPipeContextByID pipes pipeID).queue with
    | none => simp
    | some queue =>
      by_cases hlen : length.toNat < 0x80000000
      · have hok := (ntSuccess_checkValueLength hpos length).mpr ⟨hsize, hlen⟩
        simp [hok, hlen]
      · have hfail := not_ntSuccess_checkValueLength hpos (n := length) (fun h => hlen h.2)
        simp [hfail, hlen]

/-- A get sees a pipe context through its readiness and its policies only. -/
theorem policyGetPipe_congr {pipes pipes' : PipeTable} {pipeID : UInt8} {policyType : UInt32}
    (hvalid : (getPipeContextByID pipes' pipeID).isValid =
      (getPipeContextByID pipes pipeID).isValid)
    (hpipe : (getPipeContextByID pipes' pipeID).pipe = (getPipeContextByID pipes pipeID).pipe)
    (hqueue : (getPipeContextByID pipes' pipeID).queue = (getPipeContextByID pipes pipeID).queue)
    (hread : ∀ p, PipePolicy.ofCode policyType = some p →
      readPolicy (getPipeContextByID pipes' pipeID) p =
        readPolicy (getPipeContextByID pipes pipeID) p)
    (hasValue : Bool) (length : Option UInt32) :
    policyGetPipe pipes' pipeID policyType hasValue length =
      policyGetPipe pipes pipeID policyType hasValue length := by
  unfold policyGetPipe
  simp only [hvalid, hpipe, hqueue]
  cases hp : PipePolicy.ofCode policyType with
  | none => cases length <;> rfl
  | some p =>
    cases length with
    | none => rfl
    | some length => simp only [hread p hp]

theorem getPipeContextByID_update_of_eq (pipes : PipeTable) {pipeID pipeID' : UInt8}
    (h : pipeSlot pipeID' = pipeSlot pipeID) (pc : PipeContext) :
    getPipeContextByID (Function.update pipes (pipeSlot pipeID) pc) pipeID' = pc := by
  rw [getPipeContextByID, h, Function.update_self]

theorem getPipeContextByID_update_of_ne (pipes : PipeTable) {pipeID pipeID' : UInt8}
    (h : pipeSlot pipeID' ≠ pipeSlot pipeID) (pc : PipeContext) :
    getPipeContextByID (Function.update pipes (pipeSlot pipeID) pc) pipeID' =
      getPipeContextByID pipes pipeID' := by
  rw [getPipeContextByID, Function.update_of_ne h, getPipeContextByID]

/-- A set that changes one policy leaves the others of the pipe and all of the
other pipes alone. -/
theorem policyGetPipe_of_setsOnly {pipes : PipeTable} {pipeID pipeID' : UInt8}
    {policyType policyType' : UInt32} {p : PipePolicy} {v : PolicyValue} {pc' : PipeContext}
    (hp : PipePolicy.ofCode policyType = some p)
    (h : SetsOnly p v (getPipeContextByID pipes pipeID) pc')
    (hne : (pipeSlot pipeID', policyType') ≠ (pipeSlot pipeID, policyType))
    (hasValue : Bool) (length : Option UInt32) :
    policyGetPipe (Function.update pipes (pipeSlot pipeID) pc') pipeID' policyType' hasValue
        length =
      policyGetPipe pipes pipeID' policyType' hasValue length := by
  by_cases hslot : pipeSlot pipeID' = pipeSlot pipeID
  · have hsame : getPipeContextByID pipes pipeID' = getPipeContextByID pipes pipeID := by
      unfold getPipeContextByID
      rw [hslot]
    have htype : policyType' ≠ policyType := fun heq => hne (by rw [hslot, heq])
    apply policyGetPipe_congr <;>
      rw [getPipeContextByID_update_of_eq pipes hslot, hsame]
    · exact h.isValid
    · exact h.pipe
    · exact h.queue
    · intro p' hp'
      exact h.other p' (PipePolicy.ofCode_ne hp hp' htype)
  · apply policyGetPipe_congr <;>
      rw [getPipeContextByID_update_of_ne pipes hslot]
    exact fun _ _ => rfl

/-- A set that is accepted obeys the law exactly when a get that has room sees
the value. -/
theorem setReadsBack_iff_of_accepted {isHighSpeed : Bool} {pipes : PipeTable} {pipeID : UInt8}
    {policyType valueLength length : UInt32} {value : ValueBytes} {p : PipePolicy}
    (hvalid : (getPipeContextByID pipes pipeID).isValid = true)
    (hp : PipePolicy.ofCode policyType = some p)
    (h : ¬PolicyRefused isHighSpeed (getPipeContextByID pipes pipeID) value valueLength (some p)) :
    SetReadsBack isHighSpeed pipes pipeID policyType value valueLength length ↔
      (p.size ≤ length.toNat → length.toNat < 0x80000000 ∧
        (getPipeContextByID pipes pipeID).pipe.isSome = true ∧
        (getPipeContextByID pipes pipeID).queue.isSome = true ∧
        ValueFits (getPipeContextByID pipes pipeID) value p) := by
  obtain ⟨hok, honly⟩ := setPolicy_accepted hp h
  unfold SetReadsBack policySetPipe
  simp only [hvalid, Bool.not_true, Bool.false_eq_true, if_false, hok, if_true]
  generalize (setPolicy isHighSpeed (getPipeContextByID pipes pipeID) policyType value
    valueLength).done = pc' at honly
  have hself : getPipeContextByID (Function.update pipes (pipeSlot pipeID) pc') pipeID = pc' :=
    getPipeContextByID_update_of_eq pipes rfl pc'
  rw [and_iff_left fun pipeID' policyType' hasValue length' hne =>
    policyGetPipe_of_setsOnly hp honly hne hasValue length']
  -- what the get needs of the new pipe context, it needs of the old one
  have hget (hsize : p.size ≤ length.toNat) :=
    policyGetPipe_eq_iff (Function.update pipes (pipeSlot pipeID) pc') hp
      (by rw [hself, honly.isValid, hvalid]) hsize (valueSet value p)
  rw [hself, honly.pipe, honly.queue, honly.self, storedValue_eq_valueSet_iff] at hget
  constructor
  · intro hall hsize
    exact (hget hsize).mp (hall p hp hsize)
  · intro hfits p' hp' hsize
    obtain rfl : p' = p := Option.some.inj (hp'.symm.trans hp)
    exact (hget hsize).mpr (hfits hsize)

/-- **The set/get law, and exactly when it holds.**  Setting a policy and
getting it back with a buffer of `length` bytes agree, and no other policy of
any pipe moves, precisely on the inputs of `ReadsBackWhen`. -/
theorem setPipe_readsBack_iff (isHighSpeed : Bool) (pipes : PipeTable) (pipeID : UInt8)
    (policyType : UInt32) (value : ValueBytes) (valueLength length : UInt32) :
    SetReadsBack isHighSpeed pipes pipeID policyType value valueLength length ↔
      ReadsBackWhen isHighSpeed pipes pipeID policyType value valueLength length := by
  unfold ReadsBackWhen
  cases hvalid : (getPipeContextByID pipes pipeID).isValid with
  | false =>
    refine iff_of_true ?_ (.inl hvalid)
    unfold SetReadsBack policySetPipe
    simp only [hvalid]
    exact fun _ _ _ _ => rfl
  | true =>
    by_cases hrefused : PolicyRefused isHighSpeed (getPipeContextByID pipes pipeID) value
        valueLength (PipePolicy.ofCode policyType)
    · refine iff_of_true ?_ (.inr (.inl hrefused))
      obtain ⟨hfail, hctx⟩ := setPolicy_refused hrefused
      unfold SetReadsBack policySetPipe
      simp only [hvalid, Bool.not_true, Bool.false_eq_true, if_false, hfail,
        done_of_failure hfail, hctx]
      intro pipeID' policyType' hasValue length'
      rw [getPipeContextByID, Function.update_eq_self]
    · cases hp : PipePolicy.ofCode policyType with
      | none =>
        rw [hp] at hrefused
        exact absurd trivial hrefused
      | some p =>
        rw [hp] at hrefused
        rw [setReadsBack_iff_of_accepted hvalid hp hrefused]
        constructor
        · intro h
          refine .inr (.inr fun p' hp' hsize => ?_)
          obtain rfl : p = p' := Option.some.inj hp'
          exact h hsize
        · rintro (h | h | h)
          · rw [hvalid] at h
            cases h
          · exact absurd h hrefused
          · exact h p rfl

/-- The bulk IN pipe 81h of a high-speed device, as it is configured. -/
def bulkInPipes : PipeTable :=
  Function.update (fun _ => {}) (pipeSlot 0x81)
    { queue := some 1
      isValid := true
      pipePoliciesInitialized := true
      pipeInformation := ⟨512, 0x81, 0, .bulk, 4096 * 512⟩
      pipe := some 1
      policies := defaultPolicies true 0x81 }

/-- Setting `RAW_IO` to 2 succeeds and leaves it off. -/
theorem not_readsBack_rawIO_two :
    ¬SetReadsBack true bulkInPipes 0x81 RAW_IO (fun _ => 2) 1 1 := by
  intro h
  have hget := h.1 (.flag PolicyFlag.rawIO) rfl (by decide)
  exact absurd hget (by decide)

end LibusbK
