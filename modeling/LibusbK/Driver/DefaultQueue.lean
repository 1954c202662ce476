import LibusbK.Driver.Configure
import LibusbK.Driver.PipeQueue

/-!
# The default queue hands transfers to the pipe queues

The transfer cases of `drv_queue_default.c`: the read and write codes of
`DefaultQueue_OnIoControl`, `DefaultQueue_OnRead` and `DefaultQueue_OnWrite`,
with `mRequest_InitAndForwardToQueue`, which looks the pipe up by its address,
fills in the request context and forwards the request.  The pipe queue presents
the request to its handler in the state it is forwarded in.
-/

namespace LibusbK

abbrev LIBUSBK_IOCTL_AUTOISOEX_WRITE : UInt32 := ctlCode 0x915 METHOD_IN_DIRECT
abbrev LIBUSBK_IOCTL_AUTOISOEX_READ : UInt32 := ctlCode 0x916 METHOD_OUT_DIRECT

/-- The codes that move data from a pipe to the caller. -/
def readCodes : List UInt32 :=
  [LIBUSB_IOCTL_ISOCHRONOUS_READ, LIBUSB_IOCTL_INTERRUPT_OR_BULK_READ, LIBUSBK_IOCTL_ISOEX_READ,
    LIBUSBK_IOCTL_AUTOISOEX_READ]

/-- The codes that move data from the caller to a pipe. -/
def writeCodes : List UInt32 :=
  [LIBUSB_IOCTL_ISOCHRONOUS_WRITE, LIBUSB_IOCTL_INTERRUPT_OR_BULK_WRITE, LIBUSBK_IOCTL_ISOEX_WRITE,
    LIBUSBK_IOCTL_AUTOISOEX_WRITE]

/-- How a transfer is requested. -/
inductive TransferKind
  /-- `DeviceIoControl` with one of the codes above. -/
  | ioctl (ioControlCode : UInt32)
  /-- `ReadFile`; the type is `PipeType` of the file context. -/
  | readFile (pipeType : WdfUsbPipeType)
  /-- `WriteFile`. -/
  | writeFile (pipeType : WdfUsbPipeType)
  deriving DecidableEq, Repr

/-- A transfer request as it arrives.  `pipeID` is the address byte of the
`libusb_request`, or `PipeID` of the file context; `buffer` is the caller's
transfer buffer. -/
structure TransferRequest where
  kind : TransferKind
  pipeID : UInt8
  buffer : List UInt8
  timeout : UInt32 := 0
  isoContextSize : ℕ := 0
  deriving DecidableEq, Repr

/-- What the framework and the caller's packet context answer while the request
is dispatched and served. -/
structure DispatchAnswers where
  /-- While a dirty queue is refreshed. -/
  refresh : StartAnswers := {}
  /-- `WdfRequestForwardToIoQueue`. -/
  forwardToIoQueue : NTSTATUS := STATUS_SUCCESS
  fw : Framework := {}
  reads : IsoContextReads

namespace TransferRequest

variable (u : TransferRequest)

theorem length_le_buffer : u.buffer.length % 0x100000000 ≤ u.buffer.length := Nat.mod_le _ _

/-- The request context as `mRequest_InitAndForwardToQueue` fills it in for the
pipe `pc`.  The length is cut to a `ULONG`; `Request_PreIoInitialize` has locked
the packet context of the codes that come with one. -/
def context (pc : PipeContext) (requestType actualRequestType : WdfRequestType)
    (ioControlCode : UInt32) : RequestContext where
  length := u.buffer.length % 0x100000000
  buffer := u.buffer
  length_le := u.length_le_buffer
  actualRequestType := actualRequestType
  requestType := requestType
  policies := .ofValues pc.policies
  timeout := if u.timeout ≠ 0 then u.timeout.toNat else pc.timeoutPolicy.toNat
  ioControlCode := ioControlCode
  isoContextSize := if ioControlCode ∈ isoExCodes then some u.isoContextSize else none

end TransferRequest

/-- A request that reached a pipe queue: the queue and the request context. -/
structure Forwarded where
  queue : QueueObject
  rc : RequestContext
  deriving DecidableEq, Repr

/-- `mRequest_InitAndForwardToQueue`; `.error` is its error action. -/
def initAndForwardToQueue (s : DeviceState) (u : TransferRequest)
    (requestType actualRequestType : WdfRequestType) (ioControlCode : UInt32)
    (a : DispatchAnswers) : Except NTSTATUS Forwarded :=
  let r := refreshForRequest s u.pipeID a.refresh
  if !ntSuccess r.2 then .error r.2
  else
    let pc := r.1.pipes (pipeSlot u.pipeID)
    match pc.queue.bind r.1.queues.get with
    | none => .error STATUS_INVALID_PARAMETER
    | some queue =>
      if !ntSuccess a.forwardToIoQueue then .error a.forwardToIoQueue
      else .ok ⟨queue, u.context pc requestType actualRequestType ioControlCode⟩

/-- A request whose handler has run: its context and what the handlers did. -/
structure Dispatched where
  rc : RequestContext
  effects : List Effect

/-- The request is completed before it reaches a pipe queue. -/
def dispatchFailed (u : TransferRequest) (status : NTSTATUS) : Option Dispatched :=
  some ⟨u.context {} .read .deviceControl 0, [.complete status 0]⟩

/-- The handler of the pipe queue runs. -/
def Forwarded.present (f : Forwarded) (dc : DeviceContext) (h : Handler) (a : DispatchAnswers) :
    Option Dispatched :=
  (h.serve ⟨a.fw, dc, f.rc, f.queue.context, a.reads, f.rc.buffer.length⟩).map fun served =>
    ⟨f.rc, served.effects⟩

/-- A file request was made for a pipe that moves transfers. -/
def isTransferPipe (pipeType : WdfUsbPipeType) : Bool :=
  pipeType == .isochronous || pipeType == .bulk || pipeType == .interrupt

/-- The transfer cases of `DefaultQueue_OnIoControl`. -/
def defaultQueueOnIoControl (s : DeviceState) (u : TransferRequest) (ioControlCode : UInt32)
    (a : DispatchAnswers) : Option Dispatched :=
  if ioControlCode ∈ readCodes then
    match initAndForwardToQueue s u .read .deviceControl ioControlCode a with
    | .error status => dispatchFailed u status
    | .ok f => f.present s.device (.onIoControl ioControlCode) a
  else if ioControlCode ∈ writeCodes then
    match initAndForwardToQueue s u .write .deviceControl ioControlCode a with
    | .error status => dispatchFailed u status
    | .ok f => f.present s.device (.onIoControl ioControlCode) a
  else dispatchFailed u STATUS_INVALID_DEVICE_REQUEST

/-- The code `DefaultQueue_OnRead` and `DefaultQueue_OnWrite` store. -/
def fileIoControlCode (pipeType : WdfUsbPipeType) : UInt32 :=
  if pipeType = .isochronous then LIBUSB_IOCTL_ISOCHRONOUS_READ
  else LIBUSB_IOCTL_INTERRUPT_OR_BULK_READ

/-- `DefaultQueue_OnRead`.  A queue without `EvtIoRead` takes no read requests. -/
def defaultQueueOnRead (s : DeviceState) (u : TransferRequest) (pipeType : WdfUsbPipeType)
    (a : DispatchAnswers) : Option Dispatched :=
  if u.pipeID &&& 0x0F = 0 ∨ u.pipeID &&& 0x80 = 0 ∨ isTransferPipe pipeType = false then
    dispatchFailed u STATUS_INVALID_PARAMETER
  else
    match initAndForwardToQueue s u .read .read (fileIoControlCode pipeType) a with
    | .error status => dispatchFailed u status
    | .ok f =>
      if f.queue.config.evtIoRead then f.present s.device .onRead a
      else dispatchFailed u STATUS_INVALID_DEVICE_REQUEST

/-- `DefaultQueue_OnWrite`. -/
def defaultQueueOnWrite (s : DeviceState) (u : TransferRequest) (pipeType : WdfUsbPipeType)
    (a : DispatchAnswers) : Option Dispatched :=
  if u.pipeID &&& 0x0F = 0 ∨ u.pipeID &&& 0x80 ≠ 0 ∨ isTransferPipe pipeType = false then
    dispatchFailed u STATUS_INVALID_PARAMETER
  else
    match initAndForwardToQueue s u .write .write (fileIoControlCode pipeType) a with
    | .error status => dispatchFailed u status
    | .ok f =>
      if f.queue.config.evtIoWrite then f.present s.device .onWrite a
      else dispatchFailed u STATUS_INVALID_DEVICE_REQUEST

/-- The default queue and then the pipe queue serve a transfer request; `none` is
a division by zero. -/
def TransferRequest.serve (u : TransferRequest) (s : DeviceState) (a : DispatchAnswers) :
    Option Dispatched :=
  match u.kind with
  | .ioctl ioControlCode => defaultQueueOnIoControl s u ioControlCode a
  | .readFile pipeType => defaultQueueOnRead s u pipeType a
  | .writeFile pipeType => defaultQueueOnWrite s u pipeType a

end LibusbK
