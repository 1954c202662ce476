import LibusbK.Driver.Framework
import LibusbK.Driver.PipePolicy

/-!
# Policy queries

`Policy_GetPower` and `Policy_GetDevice` of `drv_policy.c`, and the cases of
`DefaultQueue_OnIoControl` that answer `GET_PIPE_POLICY`, `GET_POWER_POLICY` and
`QUERY_DEVICE_INFORMATION`.  The three codes are buffered ones: the handler
stores its value at the start of the system buffer, and the I/O manager copies
as many bytes of that buffer back as the request is completed with.

## Main result

* `reportsWritten_iff` — a query reports the bytes that were written exactly
  when it is refused or its buffer is as long as the value.
-/

namespace LibusbK

abbrev AUTO_SUSPEND : UInt32 := 0x81
abbrev SUSPEND_DELAY : UInt32 := 0x83
abbrev DEVICE_SPEED : UInt32 := 0x01

/-! ### Values as bytes -/

namespace PolicyValue

/-- The bytes a store through the value pointer leaves in memory. -/
def bytes : PolicyValue → List UInt8
  | uchar x => [x]
  | ushort x => [x.toUInt8, (x >>> 8).toUInt8]
  | ulong x => [x.toUInt8, (x >>> 8).toUInt8, (x >>> 16).toUInt8, (x >>> 24).toUInt8]

/-- `sizeof` the type that is stored. -/
def size : PolicyValue → ℕ
  | uchar _ => 1
  | ushort _ => 2
  | ulong _ => 4

@[simp] theorem length_bytes (v : PolicyValue) : v.bytes.length = v.size := by cases v <;> rfl

theorem size_pos (v : PolicyValue) : 0 < v.size := by cases v <;> exact Nat.succ_pos _

end PolicyValue

theorem size_readPolicy (pc : PipeContext) (p : PipePolicy) :
    (readPolicy pc p).size = p.size := by
  cases p <;> rfl

/-! ### The handlers -/

/-- The fields of `DEVICE_CONTEXT` the three handlers read. -/
structure PolicyState where
  pipes : PipeTable
  defaultIdleState : UInt32
  defaultIdleTimeout : UInt32
  deviceSpeed : UInt32

/-- What a handler leaves: its status, the value it stored, and `valueLength[0]`. -/
structure PolicyAnswer where
  status : NTSTATUS
  value : Option PolicyValue
  valueLength : UInt32
  deriving DecidableEq, Repr

/-- What `mPipe_CheckValueLength` and its two copies assign to the length they
are given to update, on both branches: the length they checked. -/
def checkValueUpdateLength (checkValueLength : UInt32) : UInt32 := checkValueLength

/-- One case of the switches: the check of the length, and the store. -/
def answerValue (minValueLength : ℕ) (value : PolicyValue) (valueLength : UInt32) : PolicyAnswer :=
  let status := checkValueLength minValueLength valueLength
  if !ntSuccess status then ⟨status, none, checkValueUpdateLength valueLength⟩
  else ⟨STATUS_SUCCESS, some value, checkValueUpdateLength valueLength⟩

/-- The answer of `default`, or of a pipe that is not there. -/
def answerInvalid (valueLength : UInt32) : PolicyAnswer :=
  ⟨STATUS_INVALID_PARAMETER, none, valueLength⟩

/-- `Policy_GetPipe` with the length it leaves: the cases store the length they have checked, and
the others leave the one that was given. -/
def policyGetPipeLength (s : PolicyState) (pipeID : UInt8) (policyType : UInt32)
    (valueLength : UInt32) : PolicyAnswer :=
  let answer := policyGetPipe s.pipes pipeID policyType true (some valueLength)
  ⟨answer.1, answer.2, checkValueUpdateLength valueLength⟩

/-- `Policy_GetPower`. -/
def policyGetPower (s : PolicyState) (policyType : UInt32) (valueLength : UInt32) : PolicyAnswer :=
  if policyType = AUTO_SUSPEND then
    answerValue 1 (.uchar s.defaultIdleState.toUInt8) valueLength
  else if policyType = SUSPEND_DELAY then answerValue 4 (.ulong s.defaultIdleTimeout) valueLength
  else answerInvalid valueLength

/-- `Policy_GetDevice`. -/
def policyGetDevice (s : PolicyState) (policyType : UInt32) (valueLength : UInt32) :
    PolicyAnswer :=
  if policyType = DEVICE_SPEED then
    answerValue 1 (.uchar (s.deviceSpeed.toUInt8 + 1)) valueLength
  else answerInvalid valueLength

/-! ### The requests -/

/-- The three codes with the fields of the `libusb_request` they use. -/
inductive PolicyQuery
  | getPipePolicy (pipeID : UInt32) (policyType : UInt32)
  | getPowerPolicy (policyType : UInt32)
  | queryDeviceInformation (informationType : UInt32)
  deriving DecidableEq, Repr

/-- The handler of a code. -/
def PolicyQuery.answer (s : PolicyState) : PolicyQuery → UInt32 → PolicyAnswer
  | .getPipePolicy pipeID policyType => policyGetPipeLength s pipeID.toUInt8 policyType
  | .getPowerPolicy policyType => policyGetPower s policyType
  | .queryDeviceInformation informationType => policyGetDevice s informationType

/-- The output buffer of a request.  Its length is a `ULONG` of the IRP. -/
structure OutputBuffer where
  bytes : List UInt8
  length_lt : bytes.length < 0x100000000

/-- `(ULONG)outputBufferLen`. -/
def OutputBuffer.length (b : OutputBuffer) : UInt32 := UInt32.ofNat b.bytes.length

@[simp] theorem OutputBuffer.toNat_length (b : OutputBuffer) :
    b.length.toNat = b.bytes.length := UInt32.toNat_ofNat_of_lt' b.length_lt

/-- `WdfRequestRetrieveOutputBuffer` with a minimum of one byte. -/
def retrieveOutputBuffer (fw : Framework) (b : OutputBuffer) : NTSTATUS :=
  if b.bytes.length < 1 then STATUS_BUFFER_TOO_SMALL else fw.outputBuffer

/-- A query as it is completed: what it is completed with, and the bytes the
handler stored. -/
structure QueryCompletion where
  status : NTSTATUS
  information : ℕ
  written : List UInt8
  deriving DecidableEq, Repr

/-- The bytes that come back to the caller. -/
def QueryCompletion.received (r : QueryCompletion) (b : OutputBuffer) : List UInt8 :=
  (r.written ++ b.bytes.drop r.written.length).take r.information

/-- The three cases of `DefaultQueue_OnIoControl`. -/
def onPolicyQuery (fw : Framework) (s : PolicyState) (q : PolicyQuery) (b : OutputBuffer) :
    QueryCompletion :=
  if !ntSuccess (retrieveOutputBuffer fw b) then ⟨retrieveOutputBuffer fw b, 0, []⟩
  else
    let a := q.answer s b.length
    let written := a.value.elim [] PolicyValue.bytes
    if !ntSuccess a.status then ⟨a.status, 0, written⟩
    else ⟨a.status, a.valueLength.toNat, written⟩

/-! ### The value a query selects -/

/-- The value a query is about; `none` where no length would do. -/
def PolicyQuery.selected (s : PolicyState) : PolicyQuery → Option PolicyValue
  | .getPipePolicy pipeID policyType =>
    let pc := getPipeContextByID s.pipes pipeID.toUInt8
    if !pc.isValid || pc.pipe.isNone || pc.queue.isNone then none
    else (PipePolicy.ofCode policyType).map (readPolicy pc)
  | .getPowerPolicy policyType =>
    if policyType = AUTO_SUSPEND then some (.uchar s.defaultIdleState.toUInt8)
    else if policyType = SUSPEND_DELAY then some (.ulong s.defaultIdleTimeout)
    else none
  | .queryDeviceInformation informationType =>
    if informationType = DEVICE_SPEED then some (.uchar (s.deviceSpeed.toUInt8 + 1)) else none

/-- The seventeen cases check for the size of the value they store. -/
theorem answer_eq (s : PolicyState) (q : PolicyQuery) (valueLength : UInt32) :
    q.answer s valueLength =
      match q.selected s with
      | none => answerInvalid valueLength
      | some v => answerValue v.size v valueLength := by
  cases q with
  | getPipePolicy pipeID policyType =>
    unfold PolicyQuery.answer policyGetPipeLength policyGetPipe PolicyQuery.selected
    dsimp only
    split
    · rfl
    · cases PipePolicy.ofCode policyType with
      | none => rfl
      | some p =>
        dsimp only [Option.map]
        rw [size_readPolicy]
        unfold answerValue
        dsimp only
        split <;> rfl
  | getPowerPolicy policyType =>
    unfold PolicyQuery.answer policyGetPower PolicyQuery.selected
    dsimp only
    split_ifs <;> rfl
  | queryDeviceInformation informationType =>
    unfold PolicyQuery.answer policyGetDevice PolicyQuery.selected
    dsimp only
    split_ifs <;> rfl

theorem onPolicyQuery_of_selected_none {fw : Framework} {s : PolicyState} {q : PolicyQuery}
    {b : OutputBuffer} (hb : ntSuccess (retrieveOutputBuffer fw b) = true)
    (hq : q.selected s = none) :
    onPolicyQuery fw s q b = ⟨STATUS_INVALID_PARAMETER, 0, []⟩ := by
  unfold onPolicyQuery
  rw [answer_eq, hq, if_neg (by simp [hb])]
  rfl

theorem onPolicyQuery_of_short {fw : Framework} {s : PolicyState} {q : PolicyQuery}
    {b : OutputBuffer} {v : PolicyValue} (hb : ntSuccess (retrieveOutputBuffer fw b) = true)
    (hq : q.selected s = some v) (hlen : ¬LengthOk v.size b.length) :
    onPolicyQuery fw s q b = ⟨checkValueLength v.size b.length, 0, []⟩ := by
  have hfail := not_ntSuccess_checkValueLength v.size_pos hlen
  unfold onPolicyQuery
  rw [answer_eq, hq, if_neg (by simp [hb])]
  simp [answerValue, hfail]

theorem onPolicyQuery_of_lengthOk {fw : Framework} {s : PolicyState} {q : PolicyQuery}
    {b : OutputBuffer} {v : PolicyValue} (hb : ntSuccess (retrieveOutputBuffer fw b) = true)
    (hq : q.selected s = some v) (hlen : LengthOk v.size b.length) :
    onPolicyQuery fw s q b = ⟨STATUS_SUCCESS, b.bytes.length, v.bytes⟩ := by
  have hok := (ntSuccess_checkValueLength v.size_pos b.length).mpr hlen
  have hsuccess : ntSuccess STATUS_SUCCESS = true := by decide
  unfold onPolicyQuery
  rw [answer_eq, hq, if_neg (by simp [hb])]
  simp [answerValue, hok, hsuccess, checkValueUpdateLength]

/-! ### What is reported -/

/-- A query that succeeds is completed with the number of bytes that were
written, and those bytes are what the caller receives; one whose buffer is too
small for the value fails and returns nothing. -/
structure ReportsWritten (fw : Framework) (s : PolicyState) (q : PolicyQuery) (b : OutputBuffer) :
    Prop where
  information : ntSuccess (onPolicyQuery fw s q b).status = true →
    (onPolicyQuery fw s q b).information = (onPolicyQuery fw s q b).written.length
  received : ntSuccess (onPolicyQuery fw s q b).status = true →
    (onPolicyQuery fw s q b).received b = (onPolicyQuery fw s q b).written
  tooSmall : ∀ v, q.selected s = some v → b.bytes.length < v.size →
    ntSuccess (onPolicyQuery fw s q b).status = false ∧
      (onPolicyQuery fw s q b).received b = []

/-- The queries that are refused: the output buffer cannot be had, the type or
the pipe is not known, or the length of the buffer does not pass. -/
def QueryRefused (fw : Framework) (s : PolicyState) (q : PolicyQuery) (b : OutputBuffer) : Prop :=
  ntSuccess (retrieveOutputBuffer fw b) = false ∨
    ∀ v, q.selected s = some v → ¬LengthOk v.size b.length

/-- A refused query fails and is completed with nothing. -/
theorem onPolicyQuery_refused {fw : Framework} {s : PolicyState} {q : PolicyQuery}
    {b : OutputBuffer} (h : QueryRefused fw s q b) :
    ntSuccess (onPolicyQuery fw s q b).status = false ∧
      (onPolicyQuery fw s q b).information = 0 := by
  by_cases hb : ntSuccess (retrieveOutputBuffer fw b) = true
  · have hsel := h.resolve_left (by simp [hb])
    cases hq : q.selected s with
    | none =>
      rw [onPolicyQuery_of_selected_none hb hq]
      exact ⟨by decide, rfl⟩
    | some v =>
      rw [onPolicyQuery_of_short hb hq (hsel v hq)]
      exact ⟨not_ntSuccess_checkValueLength v.size_pos (hsel v hq), rfl⟩
  · have hfail : ntSuccess (retrieveOutputBuffer fw b) = false := by simpa using hb
    unfold onPolicyQuery
    rw [if_pos (by simp [hfail])]
    exact ⟨hfail, rfl⟩

/-- A query that is not refused has a value, and a buffer with room for it. -/
theorem exists_selected_of_not_refused {fw : Framework} {s : PolicyState} {q : PolicyQuery}
    {b : OutputBuffer} (h : ¬QueryRefused fw s q b) :
    ntSuccess (retrieveOutputBuffer fw b) = true ∧
      ∃ v, q.selected s = some v ∧ LengthOk v.size b.length := by
  obtain ⟨hb, hsel⟩ := not_or.mp h
  refine ⟨by simpa using hb, ?_⟩
  by_contra hnone
  exact hsel fun v hq hlen => hnone ⟨v, hq, hlen⟩

/-- **What a policy query reports.**  The length a query is completed with is
the number of bytes that were written exactly when the query is refused or the
buffer is just as long as the value. -/
theorem reportsWritten_iff (fw : Framework) (s : PolicyState) (q : PolicyQuery)
    (b : OutputBuffer) :
    ReportsWritten fw s q b ↔
      QueryRefused fw s q b ∨ ∃ v, q.selected s = some v ∧ b.bytes.length = v.size := by
  by_cases hrefused : QueryRefused fw s q b
  · obtain ⟨hfail, hinfo⟩ := onPolicyQuery_refused hrefused
    refine iff_of_true ⟨?_, ?_, ?_⟩ (.inl hrefused)
    · intro h
      rw [hfail] at h
      cases h
    · intro h
      rw [hfail] at h
      cases h
    · intro v hv hshort
      refine ⟨hfail, ?_⟩
      rw [QueryCompletion.received, hinfo, List.take_zero]
  · obtain ⟨hb, v, hq, hlen⟩ := exists_selected_of_not_refused hrefused
    have heq := onPolicyQuery_of_lengthOk hb hq hlen
    rw [or_iff_right hrefused]
    constructor
    · intro h
      refine ⟨v, hq, ?_⟩
      have hinfo := h.information (by
        rw [heq]; exact show ntSuccess STATUS_SUCCESS = true by decide)
      rw [heq] at hinfo
      exact hinfo.trans v.length_bytes
    · rintro ⟨v', hq', hsize⟩
      obtain rfl : v' = v := Option.some.inj (hq'.symm.trans hq)
      refine ⟨?_, ?_, ?_⟩
      · intro _
        rw [heq]
        exact hsize.trans v'.length_bytes.symm
      · intro _
        rw [heq, QueryCompletion.received, hsize, ← v'.length_bytes]
        exact List.take_left
      · intro v'' hq'' hshort
        obtain rfl : v'' = v' := Option.some.inj (hq''.symm.trans hq)
        omega

/-- A device that is at full speed and does not suspend. -/
def idleDevice : PolicyState where
  pipes := fun _ => {}
  defaultIdleState := 0
  defaultIdleTimeout := 5000
  deviceSpeed := 1

/-- Asked for the one byte of `AUTO_SUSPEND` with a buffer of four, the driver
reports four bytes. -/
theorem not_reportsWritten_autoSuspend :
    ¬ReportsWritten {} idleDevice (.getPowerPolicy AUTO_SUSPEND)
      ⟨[0xAA, 0xBB, 0xCC, 0xDD], by decide⟩ := by
  intro h
  exact absurd (h.information (by decide)) (by decide)

end LibusbK
