import Mathlib.Data.Nat.Notation

/-!
# The driver's contexts

The part of `drv_private.h` the transfer routines work on: the request context
a dispatcher fills in, the queue context that outlives the requests of one pipe
queue, and the status codes.

A `ULONG` or `size_t` count is a natural number: every one of them is bounded
by the length of a request, which is a `ULONG`, so none of the sums below can
wrap.  The bytes behind a `WDFMEMORY` handle are part of the context that holds
the handle.
-/

namespace LibusbK

/-! ### Status codes -/

/-- `NTSTATUS`, read as the unsigned number of its 32 bits. -/
abbrev NTSTATUS := UInt32

/-- `NT_SUCCESS`: the sign bit is clear. -/
def ntSuccess (status : NTSTATUS) : Bool := status < 0x80000000

abbrev STATUS_SUCCESS : NTSTATUS := 0x00000000
abbrev STATUS_NO_MORE_ENTRIES : NTSTATUS := 0x8000001A
abbrev STATUS_INVALID_HANDLE : NTSTATUS := 0xC0000008
abbrev STATUS_INVALID_PARAMETER : NTSTATUS := 0xC000000D
abbrev STATUS_INVALID_DEVICE_REQUEST : NTSTATUS := 0xC0000010
abbrev STATUS_BUFFER_TOO_SMALL : NTSTATUS := 0xC0000023
abbrev STATUS_DEVICE_NOT_CONNECTED : NTSTATUS := 0xC000009D
abbrev STATUS_IO_TIMEOUT : NTSTATUS := 0xC00000B5
abbrev STATUS_CANCELLED : NTSTATUS := 0xC0000120
abbrev STATUS_INVALID_ADDRESS : NTSTATUS := 0xC0000141
abbrev STATUS_PIPE_BROKEN : NTSTATUS := 0xC000014B
abbrev STATUS_INVALID_BUFFER_SIZE : NTSTATUS := 0xC0000206

/-! ### Pipes -/

/-- `WDF_USB_PIPE_TYPE`. -/
inductive WdfUsbPipeType
  | invalid
  | control
  | isochronous
  | bulk
  | interrupt
  deriving DecidableEq, Repr

/-- The fields of `WDF_USB_PIPE_INFORMATION` the transfer routines read. -/
structure PipeInformation where
  maximumPacketSize : ℕ
  endpointAddress : UInt8
  interval : UInt8
  pipeType : WdfUsbPipeType
  maximumTransferSize : ℕ
  deriving DecidableEq, Repr

/-- `USB_ENDPOINT_DIRECTION_IN`. -/
def usbEndpointDirectionIn (address : UInt8) : Bool := address &&& 0x80 != 0

/-- The bit-field view of `PIPE_POLICIES`. -/
structure PipePolicies where
  isoStartLatency : ℕ := 0
  isoAlwaysStartAsap : Bool := false
  autoClearStall : Bool := false
  allowPartialReads : Bool := false
  autoFlush : Bool := false
  ignoreShortPackets : Bool := false
  rawIO : Bool := false
  isoNumFixedPackets : ℕ := 0
  resetPipeOnResume : Bool := false
  shortPacketTerminate : Bool := false
  deriving DecidableEq, Repr

/-! ### Queues and requests -/

/-- `WDFMEMORY_OFFSET`. -/
structure MemoryOffset where
  bufferOffset : ℕ
  bufferLength : ℕ
  deriving DecidableEq, Repr

/-- `QUEUE_CONTEXT.Xfer`: the request the queue is working on.  `userMem` is the
content of the user's transfer buffer. -/
structure Xfer where
  userOfs : MemoryOffset := ⟨0, 0⟩
  userMem : List UInt8 := []
  zlpsRequired : ℕ := 0
  zlpsSent : ℕ := 0
  length : ℕ := 0
  transferred : ℕ := 0
  deriving DecidableEq, Repr

/-- `QUEUE_CONTEXT`.  `pipeHandle` and `overMem` say whether the handle is set;
`overBuf` is the content of the over-run buffer behind `OverMem`. -/
structure QueueContext where
  pipeHandle : Bool := true
  info : PipeInformation
  isFreshPipeReset : Bool := true
  nextFrameNumber : UInt32 := 0
  resetPipeForResume : Bool := false
  resetPipeForStall : Bool := false
  overOfs : MemoryOffset := ⟨0, 0⟩
  overMem : Bool := true
  overBuf : List UInt8 := []
  xfer : Xfer := {}
  deriving DecidableEq, Repr

/-- The fields of `WDF_USB_CONTROL_SETUP_PACKET` a dispatcher fills in. -/
structure SetupPacket where
  requestType : UInt8 := 0
  request : UInt8 := 0
  value : UInt16 := 0
  index : UInt16 := 0
  deriving DecidableEq, Repr

/-- `WDF_REQUEST_TYPE`, as far as it selects the transfer buffer. -/
inductive WdfRequestType
  | read
  | write
  | deviceControl
  deriving DecidableEq, Repr

/-- `REQUEST_CONTEXT`, filled in by the default queue before the request reaches
a pipe queue.  `queueContext` says whether `QueueContext` is set and `buffer` is
the content of the transfer buffer, whose size the dispatcher stores in
`Length`; an isochronous read may lower `Length` later, nothing raises it.
`isoContextSize` is the size of `IsoEx.ContextMemory`, if there is one. -/
structure RequestContext where
  length : ℕ
  buffer : List UInt8
  length_le : length ≤ buffer.length := by decide
  actualRequestType : WdfRequestType := .deviceControl
  requestType : WdfRequestType := .read
  queueContext : Bool := true
  policies : PipePolicies := {}
  timeout : ℕ := 0
  ioControlCode : UInt32 := 0
  setup : SetupPacket := {}
  isoContextSize : Option ℕ := none
  deriving DecidableEq, Repr

/-! ### The device -/

theorem length_zeroDeviceDescriptor : (List.replicate 18 (0 : UInt8)).length = 18 := by decide

/-- The fields of `DEVICE_CONTEXT` the transfer routines read.  An empty
configuration descriptor stands for the null pointer. -/
structure DeviceContext where
  isHighSpeed : Bool := true
  usbDeviceDescriptor : List UInt8 := List.replicate 18 0
  usbDeviceDescriptor_length : usbDeviceDescriptor.length = 18 := by
    first | exact length_zeroDeviceDescriptor | decide
  usbConfigurationDescriptor : List UInt8 := []
  deriving DecidableEq, Repr

end LibusbK
