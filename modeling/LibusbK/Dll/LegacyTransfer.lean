import LibusbK.Dll.Descriptors
import LibusbK.Dll.OverlappedWait
import LibusbK.Driver.ControlDecode
import Mathlib.Tactic.SplitIfs

/-!
# Control transfers of the legacy backend

`LUsb0_ControlTransfer` hands a message to `usb_control_msg`, which copies the data for the
device behind the request in a block of its own, and that to `_usb_io_sync`, which waits for
the ioctl.  The length that is reported goes through an `int` that is negative for an error.

## Main definitions

* `LegacyIo` — what the system answers during a call.
* `usbIoSync`, `usbControlMsgRet`, `lUsb0ControlTransfer` — the functions.
* `LegacyMessage.Reports` — what callers rely on.

## Main results

* `reports_iff` — a call reports the length that was transferred unless data comes from the
  device at once, and less of it than there is room for.
-/

namespace LibusbK

open Window

abbrev ERROR_NOT_ENOUGH_MEMORY : UInt32 := 8
abbrev ERROR_RESOURCE_NOT_AVAILABLE : UInt32 := 5006

abbrev EINVAL : Int32 := 22
abbrev ENOMEM : Int32 := 12

/-! ### The system -/

/-- A function of the system that has failed, with its error. -/
abbrev WinResult (α : Type) := Except UInt32 α

/-- What the system answers during a call. -/
structure LegacyIo where
  /-- `CreateEvent`. -/
  createEvent : WinResult Unit := .ok ()
  /-- `DeviceIoControl`, with the number of bytes transferred if it completes at once. -/
  deviceIoControl : WinResult UInt32
  /-- `GetOverlappedResult`, which waits. -/
  getOverlappedResult : WinResult UInt32

namespace LegacyIo

variable (io : LegacyIo)

/-- How the transfer ends, if the ioctl is sent: with the number of bytes transferred, or with
an error. -/
def outcome : WinResult UInt32 :=
  match io.createEvent with
  | .error error => .error error
  | .ok () =>
    if io.deviceIoControl = .error ERROR_IO_PENDING then io.getOverlappedResult
    else io.deviceIoControl

/-- The same transfer, if it does not complete at once. -/
def later : LegacyIo :=
  if io.deviceIoControl = .error ERROR_IO_PENDING then io
  else
    { io with
      deviceIoControl := .error ERROR_IO_PENDING
      getOverlappedResult := io.deviceIoControl }

end LegacyIo

/-- A block that `malloc` returns for a size. -/
abbrev MallocBlock (size : ℕ) := { block : List UInt8 // block.length = size }

/-! ### The functions -/

/-- `_usb_io_sync`: what it leaves in `*ret`, or the error it fails with. -/
def usbIoSync (inSize : Int32) (io : LegacyIo) : WinResult Int32 :=
  match io.createEvent with
  | .error error => .error error
  | .ok () =>
    match io.deviceIoControl with
    | .ok _ => .ok inSize
    | .error error =>
      if error ≠ ERROR_IO_PENDING then .error error
      else io.getOverlappedResult.map UInt32.toInt32

/-- A range of bytes. -/
structure ByteRange where
  start : ℕ
  length : ℕ
  deriving DecidableEq, Repr

/-- All bytes of the range are bytes of the other. -/
def ByteRange.Within (r s : ByteRange) : Prop :=
  s.start ≤ r.start ∧ r.start + r.length ≤ s.start + s.length

/-- The bytes of a range of the caller's memory. -/
def ByteRange.bytes (r : ByteRange) (mem : Memory) : List UInt8 :=
  (List.range r.length).map fun i => mem (r.start + i)

/-- An `int` as a `size_t`. -/
def sizeT (n : Int32) : ℕ := (n.toInt % 2 ^ 64).toNat

/-- A message with what the caller and the system hold: `stack` is what is left in the
request before it is filled in, and `device` whether the device handle is not null. -/
structure LegacyMessage where
  setup : SetupPacket
  mem : Memory
  buffer : ℕ
  bufferLength : UInt32
  /-- There is a `LengthTransferred` to store to. -/
  lengthTransferred : Bool := true
  /-- `Pub_To_Priv_UsbK` finds the handle. -/
  handle : Bool := true
  /-- `PoolHandle_Inc_UsbK`. -/
  inc : Bool := true
  device : Bool := true
  stack : LibusbRequest
  malloc : (size : ℕ) → Option (MallocBlock size)

/-- What `usb_control_msg` returns and does: the error of the system, if it has failed, the
ioctl, what it reads of the caller's memory, the size of the block and what it writes there. -/
structure LegacySent where
  ret : Int32
  error : Option UInt32 := none
  sent : Option IoctlCall := none
  reads : List ByteRange := []
  block : ℕ := 0
  writes : List ByteRange := []

/-- The end of `usb_control_msg`, `size` being what it returns for data to the device. -/
def LegacySent.ofSync (toHost : Bool) (size : Int32) (r : WinResult Int32) : LegacySent :=
  match r with
  | .error error => { ret := -1, error := some error }
  | .ok read => { ret := if toHost then read else size }

namespace LegacyMessage

variable (m : LegacyMessage)

abbrev LIBUSB_DEFAULT_TIMEOUT : UInt32 := 1000

/-- The switch of `usb_control_msg`. -/
def split : Option (UInt32 × LibusbRequest) :=
  splitControlMsg (m.stack.set .timeout LIBUSB_DEFAULT_TIMEOUT) m.setup.requestType.toUInt32
    m.setup.request.toUInt32 m.setup.value.toUInt32 m.setup.index.toUInt32

/-- `usb_control_msg`. -/
def usbControlMsgRet (io : LegacyIo) : LegacySent :=
  let size := m.bufferLength.toInt32
  let toHost := m.setup.requestType.toUInt32 &&& USB_ENDPOINT_IN ≠ 0
  if !m.device then { ret := -EINVAL }
  else
    match m.split with
    | none => { ret := -EINVAL }
    | some (code, req) =>
      if toHost then
        { LegacySent.ofSync true size (usbIoSync size io) with
          sent := some ⟨code, req.bytes, size.toUInt32.toNat⟩ }
      else
        let blockSize := (sizeofLibusbRequest + sizeT size) % 2 ^ 64
        match m.malloc blockSize with
        | none => { ret := -ENOMEM }
        | some block =>
          let source : ByteRange := ⟨m.buffer, sizeT size⟩
          let outSize := (UInt32.ofNat sizeofLibusbRequest + size.toUInt32).toNat
          let out := writeAt sizeofLibusbRequest (source.bytes m.mem)
            (writeAt 0 req.bytes block.val)
          { LegacySent.ofSync false size (usbIoSync 0 io) with
            sent := some ⟨code, out.take outSize, 0⟩
            reads := [source]
            block := blockSize
            writes := [⟨0, sizeofLibusbRequest⟩, ⟨sizeofLibusbRequest, sizeT size⟩] }

/-- What `LUsb0_ControlTransfer` returns, stores and leaves for `GetLastError`. -/
structure Report where
  success : Bool
  lengthTransferred : Option UInt32 := none
  lastError : Option UInt32 := none
  deriving DecidableEq, Repr

/-- What `LUsb0_ControlTransfer` makes of the return value. -/
def reportOf (r : LegacySent) : Report :=
  if 0 ≤ r.ret then
    { success := true
      lengthTransferred := if m.lengthTransferred then some r.ret.toUInt32 else none }
  else if r.ret = -EINVAL then { success := false, lastError := some ERROR_INVALID_PARAMETER }
  else if r.ret = -ENOMEM then { success := false, lastError := some ERROR_NOT_ENOUGH_MEMORY }
  else { success := false, lastError := r.error }

/-- `LUsb0_ControlTransfer`. -/
def lUsb0ControlTransfer (io : LegacyIo) : Report :=
  if !m.handle then { success := false, lastError := some ERROR_INVALID_HANDLE }
  else if !m.inc then { success := false, lastError := some ERROR_RESOURCE_NOT_AVAILABLE }
  else m.reportOf (m.usbControlMsgRet io)

/-! ### What callers rely on -/

/-- Data comes from the device. -/
def toHost : Bool := m.setup.isDeviceToHost

/-- The caller's buffer. -/
def bufferRange : ByteRange := ⟨m.buffer, m.bufferLength.toNat⟩

/-- The message is one that can be split up, and there is memory for data to the device. -/
structure Accepted : Prop where
  device : m.device = true
  split : m.split.isSome = true
  malloc : m.toHost = false →
    (m.malloc (sizeofLibusbRequest + m.bufferLength.toNat)).isSome = true

/-- The ioctl is sent. -/
structure Sends : Prop where
  handle : m.handle = true
  inc : m.inc = true
  accepted : m.Accepted

/-- What is sent, and the memory that is read and written for it. -/
structure SendsData (r : LegacySent) : Prop where
  input : ∀ call, r.sent = some call → ∃ req : LibusbRequest, m.split = some (call.code, req) ∧
    call.input = req.bytes ++ (if m.toHost then [] else m.bufferRange.bytes m.mem)
  reads : ∀ range ∈ r.reads, range.Within m.bufferRange
  writes : ∀ range ∈ r.writes, range.Within ⟨0, r.block⟩

/-- **What callers rely on**: a call succeeds where the transfer does, reports the length of
it, whether or not it completes at once, and sends the caller's data, for which it has the
memory. -/
structure Reports (io : LegacyIo) : Prop where
  success : (m.lUsb0ControlTransfer io).success = true ↔ m.Sends ∧ ∃ n, io.outcome = .ok n
  length : ∀ n, io.outcome = .ok n → (m.lUsb0ControlTransfer io).success = true →
    m.lengthTransferred = true →
      (m.lUsb0ControlTransfer io).lengthTransferred =
        some (if m.toHost then n else m.bufferLength)
  later : m.lUsb0ControlTransfer io = m.lUsb0ControlTransfer io.later
  data : m.SendsData (m.usbControlMsgRet io)

/-- Data comes from the device at once, less of it than there is room for. -/
def ShortAtOnce (io : LegacyIo) : Prop :=
  m.Sends ∧ m.toHost = true ∧ m.lengthTransferred = true ∧ io.createEvent = .ok () ∧
    ∃ n, io.deviceIoControl = .ok n ∧ n ≠ m.bufferLength

end LegacyMessage

/-! ### Waiting for the ioctl -/

section Sync

variable {io : LegacyIo} {n : UInt32} {inSize : Int32}

/-- The ioctl completes at once. -/
def LegacyIo.AtOnce (io : LegacyIo) (n : UInt32) : Prop :=
  io.createEvent = .ok () ∧ io.deviceIoControl = .ok n

theorem LegacyIo.AtOnce.outcome (h : io.AtOnce n) : io.outcome = .ok n := by
  unfold LegacyIo.outcome
  rw [h.1, h.2]
  exact if_neg nofun

theorem LegacyIo.outcome_later (io : LegacyIo) : io.later.outcome = io.outcome := by
  unfold LegacyIo.later
  split_ifs with hpending
  · rfl
  · unfold LegacyIo.outcome
    rw [if_pos rfl, if_neg hpending]

theorem LegacyIo.not_atOnce_later (io : LegacyIo) (n : UInt32) : ¬io.later.AtOnce n := by
  rintro ⟨-, hn⟩
  unfold LegacyIo.later at hn
  split_ifs at hn with hpending
  cases hpending.symm.trans hn

theorem usbIoSync_of_atOnce (inSize : Int32) (h : io.AtOnce n) :
    usbIoSync inSize io = .ok inSize := by
  unfold usbIoSync
  rw [h.1, h.2]

/-- Otherwise the length is what has been transferred. -/
theorem usbIoSync_of_not_atOnce (inSize : Int32) (h : ∀ n, ¬io.AtOnce n) :
    usbIoSync inSize io = io.outcome.map UInt32.toInt32 := by
  unfold usbIoSync LegacyIo.outcome
  cases hevent : io.createEvent with
  | error error => rfl
  | ok =>
    cases hioctl : io.deviceIoControl with
    | ok n => exact absurd ⟨hevent, hioctl⟩ (h n)
    | error error =>
      dsimp only
      by_cases hpending : error = ERROR_IO_PENDING
      · rw [hpending, if_neg (not_not.mpr rfl), if_pos rfl]
      · rw [if_pos hpending, if_neg fun heq => hpending (Except.error.inj heq)]
        rfl

end Sync

/-! ### Lengths -/

/-- A length of 16 bits, as an `int`. -/
theorem toInt_length {n : UInt32} (h : n.toNat ≤ 65535) : n.toInt32.toInt = n.toNat := by
  rw [← Int32.toInt_toBitVec, UInt32.toBitVec_toInt32]
  refine BitVec.toInt_eq_toNat_of_lt ?_
  rw [UInt32.toNat_toBitVec]
  omega

theorem sizeT_length {n : UInt32} (h : n.toNat ≤ 65535) : sizeT n.toInt32 = n.toNat := by
  rw [sizeT, toInt_length h]
  omega

theorem length_nonneg {n : UInt32} (h : n.toNat ≤ 65535) : 0 ≤ n.toInt32 := by
  rw [Int32.le_iff_toInt_le, toInt_length h]
  exact Int.natCast_nonneg _

/-- The data stands behind the request in the block. -/
theorem take_block (req : LibusbRequest) {bytes block : List UInt8}
    (hblock : block.length = sizeofLibusbRequest + bytes.length) :
    (writeAt sizeofLibusbRequest bytes (writeAt 0 req.bytes block)).take
      (sizeofLibusbRequest + bytes.length) = req.bytes ++ bytes := by
  have hreq : (writeAt 0 req.bytes block).take sizeofLibusbRequest = req.bytes := by
    have htake := take_add_writeAt req.bytes (Nat.zero_le block.length)
    rw [Nat.zero_add, req.length_bytes] at htake
    exact htake
  have hlength : (writeAt 0 req.bytes block).length = block.length := by
    refine length_writeAt ?_
    rw [req.length_bytes, hblock]
    omega
  rw [take_add_writeAt bytes (by omega), hreq]

theorem ByteRange.length_bytes (r : ByteRange) (mem : Memory) :
    (r.bytes mem).length = r.length := by
  simp [ByteRange.bytes]

/-! ### What `usb_control_msg` does -/

namespace LegacyMessage

variable {m : LegacyMessage} {io : LegacyIo} {code : UInt32} {req : LibusbRequest}

theorem toHost_iff (m : LegacyMessage) :
    m.setup.requestType.toUInt32 &&& USB_ENDPOINT_IN ≠ 0 ↔ m.toHost = true := by
  have h := and_endpointIn_eq_zero m.setup.requestType
  rw [toHost, SetupPacket.isDeviceToHost, ← Bool.not_eq_false, ← h]

/-- A message with data from the device. -/
theorem usbControlMsgRet_read (hdevice : m.device = true) (hsplit : m.split = some (code, req))
    (hdir : m.toHost = true) (io : LegacyIo) :
    m.usbControlMsgRet io =
      { LegacySent.ofSync true m.bufferLength.toInt32
          (usbIoSync m.bufferLength.toInt32 io) with
        sent := some ⟨code, req.bytes, m.bufferLength.toNat⟩ } := by
  unfold usbControlMsgRet
  rw [hdevice, hsplit]
  exact if_pos ((toHost_iff m).mpr hdir)

/-- The size of the block. -/
theorem blockSize_eq (hlen : m.bufferLength.toNat ≤ 65535) :
    (sizeofLibusbRequest + sizeT m.bufferLength.toInt32) % 2 ^ 64 =
      sizeofLibusbRequest + m.bufferLength.toNat := by
  rw [sizeT_length hlen]
  unfold sizeofLibusbRequest
  omega

/-- A message with data for the device. -/
theorem usbControlMsgRet_write (hdevice : m.device = true) (hsplit : m.split = some (code, req))
    (hdir : m.toHost = false) (hlen : m.bufferLength.toNat ≤ 65535)
    (hmalloc : (m.malloc (sizeofLibusbRequest + m.bufferLength.toNat)).isSome = true)
    (io : LegacyIo) :
    m.usbControlMsgRet io =
      { LegacySent.ofSync false m.bufferLength.toInt32 (usbIoSync 0 io) with
        sent := some ⟨code, req.bytes ++ m.bufferRange.bytes m.mem, 0⟩
        reads := [m.bufferRange]
        block := sizeofLibusbRequest + m.bufferLength.toNat
        writes := [⟨0, sizeofLibusbRequest⟩, ⟨sizeofLibusbRequest, m.bufferLength.toNat⟩] } := by
  obtain ⟨block, hblock⟩ := Option.isSome_iff_exists.mp hmalloc
  have hsize := blockSize_eq hlen
  have hout : (UInt32.ofNat sizeofLibusbRequest + m.bufferLength).toNat =
      sizeofLibusbRequest + m.bufferLength.toNat := by
    rw [UInt32.toNat_add]
    unfold sizeofLibusbRequest
    simp
    omega
  have hnot : ¬(m.setup.requestType.toUInt32 &&& USB_ENDPOINT_IN ≠ 0) := by
    rw [toHost_iff, hdir]
    exact Bool.false_ne_true
  have hlength : block.val.length = sizeofLibusbRequest + (m.bufferRange.bytes m.mem).length := by
    rw [block.property, ByteRange.length_bytes]
    rfl
  have htake := take_block req hlength
  rw [ByteRange.length_bytes] at htake
  unfold usbControlMsgRet
  simp only [hdevice, hsplit, Bool.not_true, Bool.false_eq_true, if_false, if_neg hnot,
    UInt32.toUInt32_toInt32, hout]
  generalize (sizeofLibusbRequest + sizeT m.bufferLength.toInt32) % 2 ^ 64 = blockSize at hsize ⊢
  subst hsize
  rw [hblock, sizeT_length hlen]
  dsimp only
  rw [← htake]
  rfl

/-- A message that is refused. -/
theorem usbControlMsgRet_refused (hlen : m.bufferLength.toNat ≤ 65535) (h : ¬m.Accepted) :
    ∃ ret, (ret = -EINVAL ∨ ret = -ENOMEM) ∧ ∀ io, m.usbControlMsgRet io = { ret } := by
  unfold usbControlMsgRet
  cases hdevice : m.device with
  | false => exact ⟨_, .inl rfl, fun _ => rfl⟩
  | true =>
    cases hsplit : m.split with
    | none => exact ⟨_, .inl rfl, fun _ => rfl⟩
    | some sent =>
      have hsome : m.split.isSome = true := by rw [hsplit]; rfl
      have hdir : m.toHost = false := by
        refine Bool.eq_false_iff.mpr fun htrue => h ⟨hdevice, hsome, fun hfalse => ?_⟩
        cases htrue.symm.trans hfalse
      have hnone : m.malloc (sizeofLibusbRequest + m.bufferLength.toNat) = none := by
        rw [← Option.not_isSome_iff_eq_none]
        exact fun hmalloc => h ⟨hdevice, hsome, fun _ => hmalloc⟩
      have hnot : ¬(m.setup.requestType.toUInt32 &&& USB_ENDPOINT_IN ≠ 0) := by
        rw [toHost_iff, hdir]
        exact Bool.false_ne_true
      have hsize := blockSize_eq hlen
      simp only [Bool.not_true, Bool.false_eq_true, if_false, if_neg hnot]
      generalize (sizeofLibusbRequest + sizeT m.bufferLength.toInt32) % 2 ^ 64 = blockSize
        at hsize ⊢
      subst hsize
      rw [hnone]
      exact ⟨_, .inr rfl, fun _ => rfl⟩

/-- A message that is sent returns what `_usb_io_sync` leaves. -/
theorem ret_of_accepted (hlen : m.bufferLength.toNat ≤ 65535) (h : m.Accepted) (io : LegacyIo) :
    let r := LegacySent.ofSync m.toHost m.bufferLength.toInt32
      (usbIoSync (if m.toHost then m.bufferLength.toInt32 else 0) io)
    (m.usbControlMsgRet io).ret = r.ret ∧ (m.usbControlMsgRet io).error = r.error := by
  intro r
  obtain ⟨⟨code, req⟩, hsplit⟩ := Option.isSome_iff_exists.mp h.split
  cases hdir : m.toHost with
  | true =>
    rw [usbControlMsgRet_read h.device hsplit hdir]
    simp only [r, hdir, if_true, and_self]
  | false =>
    rw [usbControlMsgRet_write h.device hsplit hdir hlen (h.malloc hdir)]
    simp only [r, hdir, Bool.false_eq_true, if_false, and_self]

theorem sendsData (hlen : m.bufferLength.toNat ≤ 65535) (io : LegacyIo) :
    m.SendsData (m.usbControlMsgRet io) := by
  by_cases h : m.Accepted
  · obtain ⟨⟨code, req⟩, hsplit⟩ := Option.isSome_iff_exists.mp h.split
    cases hdir : m.toHost with
    | true =>
      rw [usbControlMsgRet_read h.device hsplit hdir]
      refine ⟨fun call hcall => ⟨req, ?_⟩, ?_, ?_⟩
      · cases hcall
        rw [hdir, if_pos rfl, List.append_nil]
        exact ⟨hsplit, rfl⟩
      · cases usbIoSync m.bufferLength.toInt32 io <;> exact nofun
      · cases usbIoSync m.bufferLength.toInt32 io <;> exact nofun
    | false =>
      rw [usbControlMsgRet_write h.device hsplit hdir hlen (h.malloc hdir)]
      refine ⟨fun call hcall => ⟨req, ?_⟩, fun range hrange => ?_, fun range hrange => ?_⟩
      · cases hcall
        rw [hdir, if_neg Bool.false_ne_true]
        exact ⟨hsplit, rfl⟩
      · rw [List.mem_singleton.mp hrange]
        exact ⟨Nat.le_refl _, Nat.le_refl _⟩
      · rcases List.mem_pair.mp hrange with rfl | rfl
        · exact ⟨Nat.le_refl _, by simp⟩
        · exact ⟨Nat.zero_le _, by simp⟩
  · obtain ⟨ret, -, hret⟩ := usbControlMsgRet_refused hlen h
    rw [hret]
    exact ⟨nofun, nofun, nofun⟩

/-! ### What is reported -/

theorem report_eq (hhandle : m.handle = true) (hinc : m.inc = true) (io : LegacyIo) :
    m.lUsb0ControlTransfer io = m.reportOf (m.usbControlMsgRet io) := by
  unfold lUsb0ControlTransfer
  rw [hhandle, hinc]
  rfl

/-- A return value that is a length is reported. -/
theorem report_of_length (h : m.Sends) {n : UInt32} (hn : n.toNat ≤ 65535)
    (hret : (m.usbControlMsgRet io).ret = n.toInt32) :
    m.lUsb0ControlTransfer io =
      { success := true
        lengthTransferred := if m.lengthTransferred then some n else none } := by
  rw [report_eq h.handle h.inc, reportOf, hret]
  exact if_pos (length_nonneg hn)

theorem report_of_error (hlen : m.bufferLength.toNat ≤ 65535) (h : m.Sends) {error : UInt32}
    (herror : io.outcome = .error error) :
    m.lUsb0ControlTransfer io = { success := false, lastError := some error } := by
  have hnot : ∀ n, ¬io.AtOnce n := fun n hn => by cases hn.outcome.symm.trans herror
  have hret := ret_of_accepted hlen h.accepted io
  rw [usbIoSync_of_not_atOnce _ hnot, herror] at hret
  rw [report_eq h.handle h.inc, reportOf, hret.1, hret.2]
  rfl

theorem report_of_atOnce (hlen : m.bufferLength.toNat ≤ 65535) (h : m.Sends) {n : UInt32}
    (hn : io.AtOnce n) :
    m.lUsb0ControlTransfer io =
      { success := true
        lengthTransferred := if m.lengthTransferred then some m.bufferLength else none } := by
  refine report_of_length h hlen ((ret_of_accepted hlen h.accepted io).1.trans ?_)
  rw [usbIoSync_of_atOnce _ hn]
  cases m.toHost <;> rfl

theorem report_of_waited (hlen : m.bufferLength.toNat ≤ 65535) (h : m.Sends) {n : UInt32}
    (hnot : ∀ n, ¬io.AtOnce n) (hn : io.outcome = .ok n) (hle : n ≤ m.bufferLength) :
    m.lUsb0ControlTransfer io =
      { success := true
        lengthTransferred :=
          if m.lengthTransferred then some (if m.toHost then n else m.bufferLength)
          else none } := by
  have hret := (ret_of_accepted hlen h.accepted io).1
  rw [usbIoSync_of_not_atOnce _ hnot, hn] at hret
  cases hdir : m.toHost with
  | true =>
    rw [hdir] at hret
    exact report_of_length h (Nat.le_trans (UInt32.le_iff_toNat_le.mp hle) hlen) hret
  | false =>
    rw [hdir] at hret
    exact report_of_length h hlen hret

/-- A call that sends nothing fails, whatever the system would have answered. -/
theorem report_of_not_sends (hlen : m.bufferLength.toNat ≤ 65535) (h : ¬m.Sends) :
    ∃ error, ∀ io, m.lUsb0ControlTransfer io = { success := false, lastError := some error } := by
  cases hhandle : m.handle with
  | false =>
    refine ⟨ERROR_INVALID_HANDLE, fun io => ?_⟩
    unfold lUsb0ControlTransfer
    rw [hhandle]
    rfl
  | true =>
    cases hinc : m.inc with
    | false =>
      refine ⟨ERROR_RESOURCE_NOT_AVAILABLE, fun io => ?_⟩
      unfold lUsb0ControlTransfer
      rw [hhandle, hinc]
      rfl
    | true =>
      obtain ⟨ret, hret, hall⟩ :=
        usbControlMsgRet_refused hlen fun hacc => h ⟨hhandle, hinc, hacc⟩
      rcases hret with rfl | rfl
      · refine ⟨ERROR_INVALID_PARAMETER, fun io => ?_⟩
        rw [report_eq hhandle hinc, hall]
        rfl
      · refine ⟨ERROR_NOT_ENOUGH_MEMORY, fun io => ?_⟩
        rw [report_eq hhandle hinc, hall]
        rfl

/-- **A call reports what was transferred exactly when** data does not come from the device at
once with less of it than there is room for. -/
theorem reports_iff (hlen : m.bufferLength.toNat ≤ 65535)
    (hn : ∀ n, io.outcome = .ok n → n ≤ m.bufferLength) :
    m.Reports io ↔ ¬m.ShortAtOnce io := by
  have hdata := sendsData (m := m) hlen io
  by_cases hsends : m.Sends
  · cases houtcome : io.outcome with
    | error error =>
      have hreport := report_of_error hlen hsends houtcome
      have hlater := report_of_error hlen hsends ((io.outcome_later).trans houtcome)
      refine iff_of_true ⟨?_, fun n hn => ?_, hreport.trans hlater.symm, hdata⟩ ?_
      · rw [hreport]
        refine iff_of_false Bool.false_ne_true ?_
        rintro ⟨-, n, hn⟩
        cases houtcome.symm.trans hn
      · cases houtcome.symm.trans hn
      · rintro ⟨-, -, -, hevent, n, hioctl, -⟩
        cases houtcome.symm.trans (LegacyIo.AtOnce.outcome ⟨hevent, hioctl⟩)
    | ok n =>
      have hle := hn n houtcome
      have hsuccess {report : Report} (h : report.success = true) :
          report.success = true ↔ m.Sends ∧ ∃ n, io.outcome = .ok n :=
        iff_of_true h ⟨hsends, n, houtcome⟩
      have hwaited {io' : LegacyIo} (hnot : ∀ n, ¬io'.AtOnce n) (hio' : io'.outcome = .ok n) :=
        report_of_waited hlen hsends hnot hio' hle
      have hlater := hwaited (LegacyIo.not_atOnce_later io) ((io.outcome_later).trans houtcome)
      by_cases hnot : ∀ n, ¬io.AtOnce n
      · have hreport := hwaited hnot houtcome
        refine iff_of_true ⟨?_, fun k hk _ hptr => ?_, hreport.trans hlater.symm, hdata⟩ ?_
        · exact hsuccess (by rw [hreport])
        · cases houtcome.symm.trans hk
          rw [hreport, hptr, if_pos rfl]
        · rintro ⟨-, -, -, hevent, k, hioctl, -⟩
          exact hnot k ⟨hevent, hioctl⟩
      · obtain ⟨k, hk⟩ := not_forall.mp hnot
        rw [not_not] at hk
        cases houtcome.symm.trans hk.outcome
        have hreport := report_of_atOnce hlen hsends hk
        by_cases hshort : m.toHost = true ∧ m.lengthTransferred = true ∧ n ≠ m.bufferLength
        · refine iff_of_false (fun h => ?_) (not_not.mpr ⟨hsends, hshort.1, hshort.2.1, hk.1, n,
            hk.2, hshort.2.2⟩)
          have hlength := h.length n houtcome (by rw [hreport]) hshort.2.1
          rw [hreport, hshort.1, hshort.2.1, if_pos rfl, if_pos rfl] at hlength
          exact hshort.2.2 (Option.some.inj hlength).symm
        · have hsame : m.lengthTransferred = true →
              m.bufferLength = if m.toHost then n else m.bufferLength := by
            intro hptr
            cases hdir : m.toHost with
            | false => rfl
            | true => exact (not_not.mp fun hne => hshort ⟨hdir, hptr, hne⟩).symm
          refine iff_of_true ⟨?_, fun j hj _ hptr => ?_, ?_, hdata⟩ ?_
          · exact hsuccess (by rw [hreport])
          · cases houtcome.symm.trans hj
            rw [hreport, hptr, if_pos rfl, ← hsame hptr]
          · rw [hreport, hlater]
            cases hptr : m.lengthTransferred with
            | false => rfl
            | true => rw [if_pos rfl, if_pos rfl, ← hsame hptr]
          · rintro ⟨-, hdir, hptr, -, j, hioctl, hne⟩
            cases hk.2.symm.trans hioctl
            exact hshort ⟨hdir, hptr, hne⟩
  · obtain ⟨error, herror⟩ := report_of_not_sends hlen hsends
    refine iff_of_true ⟨?_, ?_, ?_, hdata⟩ fun h => hsends h.1
    · rw [herror]
      exact iff_of_false Bool.false_ne_true fun h => hsends h.1
    · rw [herror]
      exact nofun
    · rw [herror, herror]

/-- A vendor message for up to four bytes from the device. -/
def vendorRead : LegacyMessage where
  setup := { requestType := 0xC0, request := 1 }
  mem _ := 0
  buffer := 0x1000
  bufferLength := 4
  stack := ⟨List.replicate sizeofLibusbRequest 0, List.length_replicate⟩
  malloc size := some ⟨List.replicate size 0, List.length_replicate⟩

/-- The device answers with two bytes, some time later. -/
theorem reports_vendorRead :
    vendorRead.Reports
      { deviceIoControl := .error ERROR_IO_PENDING, getOverlappedResult := .ok 2 } := by
  refine (reports_iff (by decide) fun n hn => ?_).mpr ?_
  · cases hn
    decide
  · rintro ⟨-, -, -, -, n, hioctl, -⟩
    cases hioctl

/-- It answers with two bytes at once, and four are reported. -/
theorem not_reports_vendorRead :
    ¬vendorRead.Reports { deviceIoControl := .ok 2, getOverlappedResult := .ok 2 } := by
  intro h
  have hlength := h.length 2 rfl rfl rfl
  exact absurd hlength (by decide)

end LegacyMessage

end LibusbK
