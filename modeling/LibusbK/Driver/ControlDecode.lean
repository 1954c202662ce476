import LibusbK.Dll.ControlMessage
import LibusbK.Driver.DefaultQueue
import Mathlib.Tactic.IntervalCases

/-!
# Legacy control messages in the driver

`DefaultQueue_OnIoControl` decodes the requests that `usb_control_msg` builds: the
formatting macros of `drv_request.h` turn the member of the union that belongs to
the code into a setup packet, and `XferCtrl` sends it from the queue of the default
pipe, with the data that follows the request.  A status request is sent by
`Request_Status` from the default queue.

The setup packet that arrives at the device should be the one of the message.

## Main definitions

* `onControlIoctl` — what the driver does with a call on one of these codes.
* `ControlMessage.DecodedAs` — however it is called, the driver sends this setup
  packet with the data of the message, or fails the call.

## Main result

* `decodedAs_carried` — the driver decodes a vendor or standard message into
  itself, without the value of a status request.
-/

namespace LibusbK

open Window

/-! ### Setup packets -/

/-- `bm.Request`: the direction bit, the type and the two bits of the recipient. -/
def bmRequest (toHost : Bool) (type : UInt8) (recipient : UInt32) : UInt8 :=
  (if toHost then (0x80 : UInt8) else 0) ||| (type <<< 5) ||| (recipient.toUInt8 &&& 3)

abbrev BmRequestStandard : UInt8 := 0
abbrev BmRequestVendor : UInt8 := 2

/-- `WDF_USB_CONTROL_SETUP_PACKET_INIT`. -/
def setupPacketInit (toHost : Bool) (recipient : UInt32) (request : UInt8)
    (value index : UInt16) : SetupPacket :=
  ⟨bmRequest toHost BmRequestStandard recipient, request, value, index⟩

/-- `WDF_USB_CONTROL_SETUP_PACKET_INIT_VENDOR`. -/
def setupPacketInitVendor (toHost : Bool) (recipient : UInt32) (request : UInt8)
    (value index : UInt16) : SetupPacket :=
  ⟨bmRequest toHost BmRequestVendor recipient, request, value, index⟩

/-- `WDF_USB_CONTROL_SETUP_PACKET_INIT_FEATURE`. -/
def setupPacketInitFeature (recipient : UInt32) (featureSelector index : UInt16)
    (setFeature : Bool) : SetupPacket :=
  setupPacketInit false recipient
    (if setFeature then USB_REQUEST_SET_FEATURE else USB_REQUEST_CLEAR_FEATURE) featureSelector
    index

/-- `WDF_USB_CONTROL_SETUP_PACKET_INIT_GET_STATUS`. -/
def setupPacketInitGetStatus (recipient : UInt32) (index : UInt16) : SetupPacket :=
  setupPacketInit true recipient USB_REQUEST_GET_STATUS 0 index

/-- `FormatDescriptorRequestAsControlTransfer`. -/
def formatDescriptorRequest (libusbRequest : List UInt8) (isSetDescriptor : Bool) : SetupPacket :=
  setupPacketInit (!isSetDescriptor) (RequestField.descriptorRecipient.get libusbRequest)
    (if isSetDescriptor then USB_REQUEST_SET_DESCRIPTOR else USB_REQUEST_GET_DESCRIPTOR)
    (((RequestField.descriptorType.get libusbRequest <<< 8) &&& 0xFF00) |||
      (RequestField.descriptorIndex.get libusbRequest &&& 0xFF)).toUInt16
    (RequestField.descriptorLanguageId.get libusbRequest).toUInt16

/-- `FormatVendorRequestAsControlTransfer`. -/
def formatVendorRequest (libusbRequest : List UInt8) (isVendorWrite : Bool) : SetupPacket :=
  setupPacketInitVendor (!isVendorWrite) (RequestField.vendorRecipient.get libusbRequest)
    (RequestField.vendorRequest.get libusbRequest).toUInt8
    (RequestField.vendorValue.get libusbRequest).toUInt16
    (RequestField.vendorIndex.get libusbRequest).toUInt16

/-- `FormatFeatureRequestAsControlTransfer`. -/
def formatFeatureRequest (libusbRequest : List UInt8) (isSetFeature : Bool) : SetupPacket :=
  setupPacketInitFeature (RequestField.featureRecipient.get libusbRequest)
    (RequestField.featureFeature.get libusbRequest).toUInt16
    (RequestField.featureIndex.get libusbRequest).toUInt16 isSetFeature

/-! ### The driver -/

/-- What the framework answers while a control message is served. -/
structure ControlAnswers where
  /-- `WdfRequestRetrieveInputBuffer`, for a buffer that is long enough. -/
  inputBuffer : NTSTATUS := STATUS_SUCCESS
  /-- `WdfDeviceEnqueueRequest`. -/
  enqueue : NTSTATUS := STATUS_SUCCESS
  /-- The device, request and file objects are there. -/
  contexts : Bool := true
  /-- `WdfRequestRetrieveOutputMemory`, for a status request. -/
  outputMemory : NTSTATUS := STATUS_SUCCESS
  dispatch : DispatchAnswers

/-- What becomes of a call: a control transfer is sent, with its setup packet and the
bytes for the device, or the request is completed. -/
inductive ControlEvent
  | sent (setup : SetupPacket) (data : List UInt8)
  | completed (status : NTSTATUS)
  deriving DecidableEq, Repr

/-- The bytes a control transfer takes to the device from its memory. -/
def outgoingData (rc : RequestContext) (memory : StageMemory) : List UInt8 :=
  if rc.setup.isDeviceToHost then []
  else
    match memory with
    | .user ofs => window ofs.bufferOffset ofs.bufferLength rc.buffer
    | .whole => rc.buffer
    | _ => []

/-- What the effects of `XferCtrl` are to the caller and the device. -/
def controlEvent (rc : RequestContext) : Effect → Option ControlEvent
  | .send _ memory => some (.sent rc.setup (outgoingData rc memory))
  | .complete status _ => some (.completed status)
  | _ => none

/-- `mRequest_InitAndForwardToQueue` for the default pipe, whose queue presents the
request to `PipeQueue_OnIoControl`.  `setup` is what the macros have stored in
`IoControlRequest.control`, and `buffer` the one whose length is stored. -/
def forwardControl (s : DeviceState) (call : IoctlCall) (setup : SetupPacket)
    (requestType : WdfRequestType) (buffer : List UInt8) (a : DispatchAnswers) :
    List ControlEvent :=
  let u : TransferRequest :=
    { kind := .ioctl call.code
      pipeID := 0
      buffer := buffer
      timeout := RequestField.timeout.get call.input }
  match initAndForwardToQueue s u requestType .deviceControl call.code a with
  | .error status => [.completed status]
  | .ok f =>
    let rc := { f.rc with setup := setup }
    let d : Delivery := ⟨a.fw, s.device, rc, f.queue.context, a.reads, call.outputLength⟩
    ((pipeQueueOnIoControl d call.code).elim [] Served.effects).filterMap (controlEvent rc)

/-- `case LIBUSB_IOCTL_GET_STATUS`, with `Request_Status`. -/
def onGetStatus (call : IoctlCall) (a : ControlAnswers) : List ControlEvent :=
  if call.outputLength < 2 then [.completed STATUS_INVALID_PARAMETER]
  else if !ntSuccess a.outputMemory then [.completed a.outputMemory]
  else
    [.sent (setupPacketInitGetStatus (RequestField.statusRecipient.get call.input)
      (RequestField.statusIndex.get call.input).toUInt16) []]

/-- The cases of `DefaultQueue_OnIoControl` for the codes that carry control
messages.  The output buffer of a read is as long as the caller's. -/
def defaultQueueOnControl (s : DeviceState) (call : IoctlCall) (a : ControlAnswers) :
    List ControlEvent :=
  let output := List.replicate call.outputLength (0 : UInt8)
  if call.code = LIBUSB_IOCTL_GET_DESCRIPTOR then
    forwardControl s call (formatDescriptorRequest call.input false) .read output a.dispatch
  else if call.code = LIBUSB_IOCTL_VENDOR_READ then
    forwardControl s call (formatVendorRequest call.input false) .read output a.dispatch
  else if call.code = LIBUSB_IOCTL_SET_DESCRIPTOR then
    forwardControl s call (formatDescriptorRequest call.input true) .write call.input a.dispatch
  else if call.code = LIBUSB_IOCTL_SET_FEATURE then
    forwardControl s call (formatFeatureRequest call.input true) .write call.input a.dispatch
  else if call.code = LIBUSB_IOCTL_CLEAR_FEATURE then
    forwardControl s call (formatFeatureRequest call.input false) .write call.input a.dispatch
  else if call.code = LIBUSB_IOCTL_VENDOR_WRITE then
    forwardControl s call (formatVendorRequest call.input true) .write call.input a.dispatch
  else if call.code = LIBUSB_IOCTL_GET_STATUS then onGetStatus call a
  else []

/-- `Request_PreIoInitialize`, then the default queue. -/
def onControlIoctl (s : DeviceState) (call : IoctlCall) (a : ControlAnswers) :
    List ControlEvent :=
  if !a.dispatch.fw.requestContext then [.completed STATUS_INVALID_DEVICE_REQUEST]
  else if call.input.length < sizeofLibusbRequest then [.completed STATUS_BUFFER_TOO_SMALL]
  else if !ntSuccess a.inputBuffer then [.completed a.inputBuffer]
  else if !ntSuccess a.enqueue then [.completed a.enqueue]
  else if !a.contexts then [.completed STATUS_INVALID_DEVICE_REQUEST]
  else defaultQueueOnControl s call a

/-! ### Messages -/

/-- A control message: its setup packet, and the data it sends or the buffer for the
data it receives. -/
structure ControlMessage where
  setup : SetupPacket
  data : List UInt8
  deriving DecidableEq, Repr

namespace ControlMessage

variable (m : ControlMessage)

/-- The message is handed to `usb_control_msg`. -/
def submit (stack : LibusbRequest) (allocates : Bool) (timeout : UInt32) : Option IoctlCall :=
  usbControlMsg stack allocates m.setup.requestType.toUInt32 m.setup.request.toUInt32
    m.setup.value.toUInt32 m.setup.index.toUInt32 m.data timeout

/-- The data the message sends. -/
def outgoing : List UInt8 := if m.setup.isDeviceToHost then [] else m.data

/-- A class request. -/
def IsClass : Prop := m.setup.requestType &&& 0x60 = 0x20

/-- A vendor request. -/
def IsVendor : Prop := m.setup.requestType &&& 0x60 = 0x40

/-- The standard requests that are sent as control transfers, with the matching
direction.  The device and configuration descriptors are left aside: the driver
answers requests for them. -/
inductive IsStandard : Prop
  | getStatus (hstd : m.setup.isStandard = true) (hdir : m.setup.isDeviceToHost = true)
      (hreq : m.setup.request = USB_REQUEST_GET_STATUS) (hlen : 2 ≤ m.data.length)
  | clearFeature (hstd : m.setup.isStandard = true) (hdir : m.setup.isDeviceToHost = false)
      (hreq : m.setup.request = USB_REQUEST_CLEAR_FEATURE)
  | setFeature (hstd : m.setup.isStandard = true) (hdir : m.setup.isDeviceToHost = false)
      (hreq : m.setup.request = USB_REQUEST_SET_FEATURE)
  | getDescriptor (hstd : m.setup.isStandard = true) (hdir : m.setup.isDeviceToHost = true)
      (hreq : m.setup.request = USB_REQUEST_GET_DESCRIPTOR)
      (hdevice : m.setup.descriptorType ≠ USB_DESCRIPTOR_TYPE_DEVICE)
      (hconfiguration : m.setup.descriptorType ≠ USB_DESCRIPTOR_TYPE_CONFIGURATION)
  | setDescriptor (hstd : m.setup.isStandard = true) (hdir : m.setup.isDeviceToHost = false)
      (hreq : m.setup.request = USB_REQUEST_SET_DESCRIPTOR)

/-- A message with one of the four recipients and a length of 16 bits. -/
structure WellFormed : Prop where
  recipient : m.setup.requestType &&& 0x1F < 4
  length : m.data.length ≤ 65535

/-- The setup packet without what the interface has no room for: a status request
carries no value. -/
def carried : SetupPacket :=
  if m.setup.isStandard && m.setup.request == USB_REQUEST_GET_STATUS then
    { m.setup with value := 0 }
  else m.setup

end ControlMessage

/-- The framework serves a control message: no call fails, and the default pipe has a
queue to forward it to.  A read of no bytes has no output memory. -/
structure ServesControl (m : ControlMessage) (s : DeviceState) (a : ControlAnswers) : Prop where
  requestContext : a.dispatch.fw.requestContext = true
  queueContext : a.dispatch.fw.queueContext = true
  inputBuffer : ntSuccess a.inputBuffer = true
  enqueue : ntSuccess a.enqueue = true
  contexts : a.contexts = true
  outputMemory : ntSuccess a.outputMemory = true
  refresh : ntSuccess (refreshForRequest s 0 a.dispatch.refresh).2 = true
  queue : ∃ queue, ((refreshForRequest s 0 a.dispatch.refresh).1.pipes 0).queue.bind
    (refreshForRequest s 0 a.dispatch.refresh).1.queues.get = some queue
  forward : ntSuccess a.dispatch.forwardToIoQueue = true
  transferMemory : ntSuccess a.dispatch.fw.transferMemory = true ∨
    m.setup.isDeviceToHost = true ∧ a.dispatch.fw.transferMemory = STATUS_BUFFER_TOO_SMALL
  formatRequest : ntSuccess a.dispatch.fw.formatRequest = true
  allocateTimer : ntSuccess a.dispatch.fw.allocateTimer = true
  send : a.dispatch.fw.send = true

/-- The transfer is sent once, with this setup packet and this data; or, if the
framework does not serve it, the call fails and nothing is sent. -/
def SentOrFailed (serves : Prop) (setup : SetupPacket) (data : List UInt8)
    (events : List ControlEvent) : Prop :=
  events = [.sent setup data] ∨
    (¬serves ∧ ∃ status, ntSuccess status = false ∧ events = [.completed status])

/-- The library accepts the message, and whatever it finds on its stack, the driver
decodes the call into a transfer with this setup packet and the data of the message. -/
def ControlMessage.DecodedAs (m : ControlMessage) (setup : SetupPacket) : Prop :=
  (∀ stack timeout, (m.submit stack true timeout).isSome = true) ∧
    ∀ stack allocates timeout call, m.submit stack allocates timeout = some call →
      ∀ s a, SentOrFailed (ServesControl m s a) setup m.outgoing (onControlIoctl s call a)

/-! ### Sending a control transfer -/

theorem SentOrFailed.fails {serves : Prop} {setup : SetupPacket} {data : List UInt8}
    {status : NTSTATUS} (hno : ¬serves) (hstatus : ntSuccess status = false) :
    SentOrFailed serves setup data [.completed status] :=
  .inr ⟨hno, status, hstatus, rfl⟩

theorem controlCodes_cases {code : UInt32} (h : code ∈ controlCodes) :
    code ∉ transferCodes ∧ code ∉ isoExCodes := by
  have hall : controlCodes.all (fun c => c ∉ transferCodes ∧ c ∉ isoExCodes) = true := by decide
  exact of_decide_eq_true (List.all_eq_true.mp hall code h)

section

variable {m : ControlMessage} {s : DeviceState} {a : ControlAnswers}

theorem ServesControl.formatAndSubmit_eq (h : ServesControl m s a) (rc : RequestContext) :
    formatAndSubmit a.dispatch.fw rc = .ok () := by
  have htimeout : ntSuccess (setRequestTimeout a.dispatch.fw rc) = true := by
    unfold setRequestTimeout
    split_ifs
    · exact h.allocateTimer
    · rfl
  rw [← submissionFails_eq_false]
  simp [submissionFails, h.formatRequest, htimeout, h.send]

/-- `XferCtrl` sends the transfer, if its memory is the data of the message. -/
theorem sentOrFailed_ctrlTransfer {rc : RequestContext} {qc : QueueContext} {data : List UInt8}
    (hmem : (∃ memory, ctrlTransferMemory a.dispatch.fw rc = .ok memory ∧
        outgoingData rc memory = data) ∨
      (¬ServesControl m s a ∧ ∃ status, ntSuccess status = false ∧
        ctrlTransferMemory a.dispatch.fw rc = .error status)) :
    SentOrFailed (ServesControl m s a) rc.setup data
      ((ctrlTransfer a.dispatch.fw rc qc).effects.filterMap (controlEvent rc)) := by
  unfold ctrlTransfer
  rcases hmem with ⟨memory, hok, hdata⟩ | ⟨hno, status, hstatus, herr⟩
  · rw [hok]
    dsimp only
    cases hsubmit : formatAndSubmit a.dispatch.fw rc with
    | ok => exact .inl (by rw [← hdata]; rfl)
    | error status =>
      refine .fails (fun h => ?_) (ntSuccess_of_formatAndSubmit_error hsubmit)
      rw [h.formatAndSubmit_eq] at hsubmit
      cases hsubmit
  · rw [herr]
    exact .fails hno hstatus

/-- A request that is forwarded to the default pipe is sent, if the driver keeps no
descriptor that answers it. -/
theorem sentOrFailed_forwardControl {call : IoctlCall} {setup : SetupPacket}
    {requestType : WdfRequestType} {buffer data : List UInt8}
    (hcode : call.code ∈ controlCodes)
    (hcache : ∀ rc, rc.setup = setup → cachedDescriptor s.device rc = .ok none)
    (hmem : ∀ rc : RequestContext, rc.setup = setup → rc.requestType = requestType →
      rc.ioControlCode = call.code → rc.buffer = buffer →
      rc.length = buffer.length % 0x100000000 →
        (∃ memory, ctrlTransferMemory a.dispatch.fw rc = .ok memory ∧
          outgoingData rc memory = data) ∨
        (¬ServesControl m s a ∧ ∃ status, ntSuccess status = false ∧
          ctrlTransferMemory a.dispatch.fw rc = .error status)) :
    SentOrFailed (ServesControl m s a) setup data
      (forwardControl s call setup requestType buffer a.dispatch) := by
  obtain ⟨htransfer, hiso⟩ := controlCodes_cases hcode
  have hslot : pipeSlot 0 = 0 := rfl
  unfold forwardControl initAndForwardToQueue
  dsimp only
  rw [hslot]
  cases hrefresh : ntSuccess (refreshForRequest s 0 a.dispatch.refresh).2 with
  | false =>
    rw [if_pos (by simp)]
    exact .fails (fun h => by simp [h.refresh] at hrefresh) hrefresh
  | true =>
    rw [if_neg (by simp)]
    cases hqueue : ((refreshForRequest s 0 a.dispatch.refresh).1.pipes 0).queue.bind
        (refreshForRequest s 0 a.dispatch.refresh).1.queues.get with
    | none =>
      refine .fails (fun h => ?_) (by decide)
      obtain ⟨queue, hq⟩ := h.queue
      rw [hqueue] at hq
      cases hq
    | some queue =>
      dsimp only
      cases hforward : ntSuccess a.dispatch.forwardToIoQueue with
      | false =>
        rw [if_pos (by simp)]
        exact .fails (fun h => by simp [h.forward] at hforward) hforward
      | true =>
        rw [if_neg (by simp)]
        dsimp only
        generalize hrc : ({ TransferRequest.context _ _ _ _ _ with setup := setup } :
          RequestContext) = rc
        have hsetup : rc.setup = setup := by rw [← hrc]
        have hrcqueue : rc.queueContext = true := by rw [← hrc]; rfl
        unfold pipeQueueOnIoControl
        dsimp only
        cases hvalid : ntSuccess (validateRequestContext a.dispatch.fw rc) with
        | false =>
          refine .fails (fun h => ?_) hvalid
          rw [ntSuccess_validateRequestContext.mpr ⟨h.requestContext, hrcqueue⟩] at hvalid
          cases hvalid
        | true =>
          cases hcontext : a.dispatch.fw.queueContext with
          | false =>
            refine .fails (fun h => ?_) (by decide)
            rw [h.queueContext] at hcontext
            cases hcontext
          | true =>
            simp only [Bool.not_true, Bool.false_eq_true, if_false, htransfer, hiso, hcode, if_true,
              Option.elim_some]
            unfold xferCtrl
            rw [hcache rc hsetup]
            dsimp only
            rw [← hsetup]
            refine sentOrFailed_ctrlTransfer (hmem rc hsetup ?_ ?_ ?_ ?_) <;> rw [← hrc] <;> rfl

/-- The checks before the default queue. -/
theorem sentOrFailed_onControlIoctl {call : IoctlCall} {setup : SetupPacket} {data : List UInt8}
    (hlen : sizeofLibusbRequest ≤ call.input.length)
    (h : SentOrFailed (ServesControl m s a) setup data (defaultQueueOnControl s call a)) :
    SentOrFailed (ServesControl m s a) setup data (onControlIoctl s call a) := by
  unfold onControlIoctl
  split_ifs with hcontext hshort hinput henqueue hcontexts
  · exact .fails (fun h => by simp [h.requestContext] at hcontext) (by decide)
  · omega
  · exact .fails (fun h => by simp [h.inputBuffer] at hinput) (by simpa using hinput)
  · exact .fails (fun h => by simp [h.enqueue] at henqueue) (by simpa using henqueue)
  · exact .fails (fun h => by simp [h.contexts] at hcontexts) (by decide)
  · exact h

/-! ### The memory of a transfer -/

/-- The memory of a write is what follows the request in the input buffer. -/
theorem ctrlTransferMemory_write {rc : RequestContext} {req : LibusbRequest} {data : List UInt8}
    (hmethod : methodFromCtlCode rc.ioControlCode = METHOD_BUFFERED)
    (hwrite : rc.requestType = .write) (hdir : rc.setup.isDeviceToHost = false)
    (hbuffer : rc.buffer = req.bytes ++ data)
    (hlength : rc.length = sizeofLibusbRequest + data.length) :
    (∃ memory, ctrlTransferMemory a.dispatch.fw rc = .ok memory ∧
        outgoingData rc memory = data) ∨
      (¬ntSuccess a.dispatch.fw.transferMemory = true ∧
        ctrlTransferMemory a.dispatch.fw rc = .error a.dispatch.fw.transferMemory) := by
  have hlen : rc.length - sizeofLibusbRequest = data.length := by omega
  unfold ctrlTransferMemory
  rw [if_pos ⟨hmethod, hwrite⟩, hlen, if_neg (by omega : ¬rc.length < sizeofLibusbRequest)]
  split_ifs with hmemory hzero
  · exact .inr ⟨by simpa using hmemory, rfl⟩
  · refine .inl ⟨_, rfl, ?_⟩
    rw [List.length_eq_zero_iff.mp hzero]
    simp [outgoingData, hdir]
  · refine .inl ⟨_, rfl, ?_⟩
    have hdrop : (req.bytes ++ data).drop sizeofLibusbRequest = data :=
      List.drop_left' req.length_bytes
    simp [outgoingData, hdir, hbuffer, window, hdrop]

/-- A read takes no data to the device. -/
theorem ctrlTransferMemory_read {rc : RequestContext} (hread : rc.requestType = .read)
    (hdir : rc.setup.isDeviceToHost = true) :
    (∃ memory, ctrlTransferMemory a.dispatch.fw rc = .ok memory ∧ outgoingData rc memory = []) ∨
      (¬ntSuccess a.dispatch.fw.transferMemory = true ∧
        a.dispatch.fw.transferMemory ≠ STATUS_BUFFER_TOO_SMALL ∧
        ctrlTransferMemory a.dispatch.fw rc = .error a.dispatch.fw.transferMemory) := by
  have hnone : ∀ memory, outgoingData rc memory = [] := fun memory => by
    simp [outgoingData, hdir]
  unfold ctrlTransferMemory
  rw [if_neg (by simp [hread])]
  split_ifs with hsmall hmemory
  · exact .inl ⟨_, rfl, hnone _⟩
  · exact .inr ⟨by simpa using hmemory, hsmall, rfl⟩
  · exact .inl ⟨_, rfl, hnone _⟩

end

/-! ### A message of each kind -/

/-- The switch of `usb_control_msg` for a message. -/
def ControlMessage.split (m : ControlMessage) (req : LibusbRequest) :
    Option (UInt32 × LibusbRequest) :=
  splitControlMsg req m.setup.requestType.toUInt32 m.setup.request.toUInt32
    m.setup.value.toUInt32 m.setup.index.toUInt32

/-- The direction bit, as the library and the driver test it. -/
theorem and_endpointIn_eq_zero (b : UInt8) :
    b.toUInt32 &&& USB_ENDPOINT_IN = 0 ↔ (b &&& 0x80 != 0) = false := by
  have hall : ∀ x : BitVec 8, ((UInt8.ofBitVec x).toUInt32 &&& USB_ENDPOINT_IN = 0 ↔
      (UInt8.ofBitVec x &&& 0x80 != 0) = false) := by decide
  exact hall b.toBitVec

section

variable {m : ControlMessage} {code : UInt32} {build : LibusbRequest → LibusbRequest}

theorem submit_write (hdir : m.setup.isDeviceToHost = false)
    (hsplit : ∀ req, m.split req = some (code, build req)) (stack : LibusbRequest)
    (allocates : Bool) (timeout : UInt32) :
    m.submit stack allocates timeout =
      if allocates then some ⟨code, (build (stack.set .timeout timeout)).bytes ++ m.data, 0⟩
      else none := by
  have h := hsplit (stack.set .timeout timeout)
  unfold ControlMessage.split at h
  unfold ControlMessage.submit usbControlMsg
  rw [h]
  dsimp only
  rw [if_pos ((and_endpointIn_eq_zero _).mpr hdir)]

theorem submit_read (hdir : m.setup.isDeviceToHost = true)
    (hsplit : ∀ req, m.split req = some (code, build req)) (stack : LibusbRequest)
    (allocates : Bool) (timeout : UInt32) :
    m.submit stack allocates timeout =
      some ⟨code, (build (stack.set .timeout timeout)).bytes, m.data.length⟩ := by
  have h := hsplit (stack.set .timeout timeout)
  unfold ControlMessage.split at h
  unfold ControlMessage.submit usbControlMsg
  rw [h]
  dsimp only
  rw [if_neg]
  rw [and_endpointIn_eq_zero]
  exact Bool.eq_false_iff.not.mpr (not_not.mpr hdir)

variable {setup : SetupPacket} (format : List UInt8 → SetupPacket)

/-- A message that sends data, by the code it is sent with and the way the driver
formats it. -/
theorem decodedAs_write (hm : m.WellFormed) (hdir : m.setup.isDeviceToHost = false)
    (hsplit : ∀ req, m.split req = some (code, build req)) (hcode : code ∈ controlCodes)
    (hmethod : methodFromCtlCode code = METHOD_BUFFERED)
    (hqueue : ∀ s call a, call.code = code → defaultQueueOnControl s call a =
      forwardControl s call (format call.input) .write call.input a.dispatch)
    (hformat : ∀ req rest, format ((build req).bytes ++ rest) = setup)
    (hsetup : setup.isDeviceToHost = false) : m.DecodedAs setup := by
  have hout : m.outgoing = m.data := by
    rw [ControlMessage.outgoing, hdir]
    rfl
  refine ⟨fun stack timeout => by rw [submit_write hdir hsplit]; rfl, ?_⟩
  intro stack allocates timeout call hcall s a
  rw [submit_write hdir hsplit, Option.ite_none_right_eq_some, Option.some.injEq] at hcall
  obtain ⟨-, rfl⟩ := hcall
  generalize hreq : build (stack.set .timeout timeout) = req
  have hlen : (req.bytes ++ m.data).length = sizeofLibusbRequest + m.data.length := by
    rw [List.length_append, req.length_bytes]
  refine sentOrFailed_onControlIoctl (by dsimp only; omega) ?_
  rw [hqueue s _ a rfl, hout]
  dsimp only
  rw [← hreq, hformat, hreq]
  refine sentOrFailed_forwardControl hcode (fun rc hrc => ?_) ?_
  · rw [cachedDescriptor, hrc, hsetup]
    rfl
  · intro rc hrc htype hcontrol hbuffer hlength
    have hsmall := hm.length
    have hfits : sizeofLibusbRequest + m.data.length < 0x100000000 := by
      unfold sizeofLibusbRequest
      omega
    rw [hlen, Nat.mod_eq_of_lt hfits] at hlength
    rcases ctrlTransferMemory_write (a := a) (hcontrol ▸ hmethod) htype (hrc ▸ hsetup) hbuffer
        hlength with h | ⟨hfail, herr⟩
    · exact .inl h
    · refine .inr ⟨fun hserves => ?_, _, by simpa using hfail, herr⟩
      rcases hserves.transferMemory with hok | ⟨hread, -⟩
      · exact hfail hok
      · rw [hdir] at hread
        cases hread

/-- A message that receives data. -/
theorem decodedAs_read (hdir : m.setup.isDeviceToHost = true)
    (hsplit : ∀ req, m.split req = some (code, build req)) (hcode : code ∈ controlCodes)
    (hqueue : ∀ s call a, call.code = code → defaultQueueOnControl s call a =
      forwardControl s call (format call.input) .read (List.replicate call.outputLength 0)
        a.dispatch)
    (hformat : ∀ req rest, format ((build req).bytes ++ rest) = setup)
    (hcache : ∀ dc rc, rc.setup = setup → cachedDescriptor dc rc = .ok none)
    (hsetup : setup.isDeviceToHost = true) : m.DecodedAs setup := by
  have hout : m.outgoing = [] := by
    rw [ControlMessage.outgoing, hdir]
    rfl
  refine ⟨fun stack timeout => by rw [submit_read hdir hsplit]; rfl, ?_⟩
  intro stack allocates timeout call hcall s a
  rw [submit_read hdir hsplit, Option.some.injEq] at hcall
  subst hcall
  generalize hreq : build (stack.set .timeout timeout) = req
  have hformatted : format req.bytes = setup := by
    rw [← hreq, ← hformat (stack.set .timeout timeout) [], List.append_nil]
  refine sentOrFailed_onControlIoctl (Nat.le_of_eq req.length_bytes.symm) ?_
  rw [hqueue s _ a rfl, hout]
  dsimp only
  rw [hformatted]
  refine sentOrFailed_forwardControl hcode (fun rc => hcache _ rc) ?_
  intro rc hrc htype hcontrol hbuffer hlength
  rcases ctrlTransferMemory_read (a := a) htype (hrc ▸ hsetup) with h | ⟨hfail, hlarge, herr⟩
  · exact .inl h
  · refine .inr ⟨fun hserves => ?_, _, by simpa using hfail, herr⟩
    rcases hserves.transferMemory with hok | ⟨-, hsmall⟩
    · exact hfail hok
    · exact hlarge hsmall

end

/-! ### The kinds of messages -/

/-- The type bits of the message, as the library reads them. -/
theorem toUInt32_and_type (b : UInt8) : b.toUInt32 &&& 0x60 = (b &&& 0x60).toUInt32 :=
  (UInt8.toUInt32_and b 0x60).symm

/-- A request type is put together again from its direction, type and recipient. -/
theorem bmRequest_split {b type : UInt8} (htype : b &&& (0x60 : UInt8) = type <<< 5)
    (hrecipient : b &&& 0x1F < 4) :
    bmRequest (b &&& 0x80 != 0) type (b.toUInt32 &&& 0x1F) = b := by
  have hall : ∀ x : BitVec 8, UInt8.ofBitVec x &&& 0x1F < 4 →
      (if UInt8.ofBitVec x &&& 0x80 != 0 then (0x80 : UInt8) else 0) |||
        (UInt8.ofBitVec x &&& 0x60) |||
        (((UInt8.ofBitVec x).toUInt32 &&& 0x1F).toUInt8 &&& 3) = UInt8.ofBitVec x := by decide
  unfold bmRequest
  rw [← htype]
  exact hall b.toBitVec hrecipient

/-- The value of a descriptor request is put together again from its type and index. -/
theorem descriptorValue_split (value : UInt16) :
    (((((value.toUInt32 >>> 8) &&& 0xFF) <<< 8) &&& 0xFF00) |||
      ((value.toUInt32 &&& 0xFF) &&& 0xFF)).toUInt16 = value := by
  rw [← UInt16.toBitVec_inj]
  ext i hi
  interval_cases i <;> simp

section

variable (req : LibusbRequest) (requesttype request value index : UInt32) (rest : List UInt8)

theorem formatVendorRequest_vendor (isVendorWrite : Bool) :
    formatVendorRequest ((req.vendor requesttype request value index).bytes ++ rest)
        isVendorWrite =
      setupPacketInitVendor (!isVendorWrite) (requesttype &&& 0x1F) request.toUInt8 value.toUInt16
        index.toUInt16 := by
  unfold formatVendorRequest LibusbRequest.vendor
  simp (disch := decide) only [LibusbRequest.get_append, LibusbRequest.get_set_self,
    LibusbRequest.get_set_of_ne]

theorem formatFeatureRequest_feature (isSetFeature : Bool) :
    formatFeatureRequest ((req.feature requesttype value index).bytes ++ rest) isSetFeature =
      setupPacketInitFeature (requesttype &&& 0x1F) value.toUInt16 index.toUInt16
        isSetFeature := by
  unfold formatFeatureRequest LibusbRequest.feature
  simp (disch := decide) only [LibusbRequest.get_append, LibusbRequest.get_set_self,
    LibusbRequest.get_set_of_ne]

theorem formatDescriptorRequest_descriptor (isSetDescriptor : Bool) :
    formatDescriptorRequest ((req.descriptor requesttype value index).bytes ++ rest)
        isSetDescriptor =
      setupPacketInit (!isSetDescriptor) (requesttype &&& 0x1F)
        (if isSetDescriptor then USB_REQUEST_SET_DESCRIPTOR else USB_REQUEST_GET_DESCRIPTOR)
        (((((value >>> 8) &&& 0xFF) <<< 8) &&& 0xFF00) |||
          ((value &&& 0xFF) &&& 0xFF)).toUInt16
        index.toUInt16 := by
  unfold formatDescriptorRequest LibusbRequest.descriptor
  simp (disch := decide) only [LibusbRequest.get_append, LibusbRequest.get_set_self,
    LibusbRequest.get_set_of_ne]

end

namespace ControlMessage

variable {m : ControlMessage}

theorem split_vendor (h : m.IsVendor) (req : LibusbRequest) :
    m.split req =
      some (if m.setup.isDeviceToHost then LIBUSB_IOCTL_VENDOR_READ
          else LIBUSB_IOCTL_VENDOR_WRITE,
        req.vendor m.setup.requestType.toUInt32 m.setup.request.toUInt32 m.setup.value.toUInt32
          m.setup.index.toUInt32) := by
  have htype : m.setup.requestType.toUInt32 &&& 0x60 = USB_TYPE_VENDOR := by
    rw [toUInt32_and_type, h]
    decide
  unfold split splitControlMsg
  rw [if_neg (by rw [htype]; decide), if_pos (.inl htype)]
  have hdir := and_endpointIn_eq_zero m.setup.requestType
  cases hin : m.setup.isDeviceToHost with
  | false => rw [if_neg (not_not.mpr (hdir.mpr hin))]; rfl
  | true => rw [if_pos (by rw [Ne, hdir]; simpa [SetupPacket.isDeviceToHost] using hin)]; rfl

theorem split_standard (h : m.setup.isStandard = true) (req : LibusbRequest) :
    m.split req = standardControlMsg req m.setup.requestType.toUInt32 m.setup.request.toUInt32
      m.setup.value.toUInt32 m.setup.index.toUInt32 := by
  have htype : m.setup.requestType.toUInt32 &&& 0x60 = USB_TYPE_STANDARD := by
    rw [toUInt32_and_type, eq_of_beq h]
    decide
  unfold split splitControlMsg
  rw [if_pos htype]

end ControlMessage

section

variable {m : ControlMessage} (hm : m.WellFormed)
include hm

/-- The packet of a vendor request is formatted again as it was. -/
theorem setupPacketInitVendor_eq (h : m.IsVendor) :
    setupPacketInitVendor m.setup.isDeviceToHost (m.setup.requestType.toUInt32 &&& 0x1F)
      m.setup.request.toUInt32.toUInt8 m.setup.value.toUInt32.toUInt16
      m.setup.index.toUInt32.toUInt16 = m.setup := by
  have hbm : bmRequest m.setup.isDeviceToHost BmRequestVendor
      (m.setup.requestType.toUInt32 &&& 0x1F) = m.setup.requestType :=
    bmRequest_split (h.trans (by decide)) hm.recipient
  unfold setupPacketInitVendor
  rw [hbm]
  simp

/-- The packet of a standard request is formatted again as it was. -/
theorem setupPacketInit_eq (h : m.setup.isStandard = true) {toHost : Bool} {request : UInt8}
    (hdir : m.setup.isDeviceToHost = toHost) (hreq : m.setup.request = request) :
    setupPacketInit toHost (m.setup.requestType.toUInt32 &&& 0x1F) request m.setup.value
      m.setup.index = m.setup := by
  have hbm : bmRequest m.setup.isDeviceToHost BmRequestStandard
      (m.setup.requestType.toUInt32 &&& 0x1F) = m.setup.requestType :=
    bmRequest_split ((eq_of_beq h).trans (by decide)) hm.recipient
  unfold setupPacketInit
  rw [← hdir, ← hreq, hbm]

theorem decodedAs_vendor (h : m.IsVendor) : m.DecodedAs m.setup := by
  have hsetup := setupPacketInitVendor_eq hm h
  cases hdir : m.setup.isDeviceToHost with
  | false =>
    have hsplit : ∀ req, m.split req = some (LIBUSB_IOCTL_VENDOR_WRITE, _) := fun req => by
      rw [ControlMessage.split_vendor h, hdir]
      rfl
    rw [hdir] at hsetup
    refine decodedAs_write (fun buffer => formatVendorRequest buffer true) hm hdir hsplit
      (by decide) (by decide) (fun s call a hcode => ?_) (fun req rest => ?_) hdir
    · unfold defaultQueueOnControl
      rw [hcode]
      rfl
    · rw [formatVendorRequest_vendor]
      exact hsetup
  | true =>
    have hsplit : ∀ req, m.split req = some (LIBUSB_IOCTL_VENDOR_READ, _) := fun req => by
      rw [ControlMessage.split_vendor h, hdir]
      rfl
    rw [hdir] at hsetup
    refine decodedAs_read (fun buffer => formatVendorRequest buffer false) hdir hsplit (by decide)
      (fun s call a hcode => ?_) (fun req rest => ?_) (fun dc rc hrc => ?_) hdir
    · unfold defaultQueueOnControl
      rw [hcode]
      rfl
    · rw [formatVendorRequest_vendor]
      exact hsetup
    · have hstd : m.setup.isStandard = false := by
        unfold SetupPacket.isStandard
        rw [h]
        rfl
      simp [cachedDescriptor, hrc, hstd]

/-- A feature request, which has no data phase of its own but takes what it is given. -/
theorem decodedAs_feature (hstd : m.setup.isStandard = true)
    (hdir : m.setup.isDeviceToHost = false) (isSetFeature : Bool)
    (hreq : m.setup.request =
      if isSetFeature then USB_REQUEST_SET_FEATURE else USB_REQUEST_CLEAR_FEATURE) :
    m.DecodedAs m.setup := by
  have hsetup := setupPacketInit_eq hm hstd hdir hreq
  have hsplit : ∀ req, m.split req =
      some (if isSetFeature then LIBUSB_IOCTL_SET_FEATURE else LIBUSB_IOCTL_CLEAR_FEATURE,
        req.feature m.setup.requestType.toUInt32 m.setup.value.toUInt32
          m.setup.index.toUInt32) :=
    fun req => by
      rw [ControlMessage.split_standard hstd, hreq]
      cases isSetFeature with
      | false => rfl
      | true => rfl
  refine decodedAs_write (fun buffer => formatFeatureRequest buffer isSetFeature) hm hdir hsplit
    (by cases isSetFeature <;> decide) (by cases isSetFeature <;> decide)
    (fun s call a hcode => ?_) (fun req rest => ?_) hdir
  · unfold defaultQueueOnControl
    rw [hcode]
    cases isSetFeature with
    | false => rfl
    | true => rfl
  · rw [formatFeatureRequest_feature, setupPacketInitFeature, UInt16.toUInt16_toUInt32,
      UInt16.toUInt16_toUInt32]
    exact hsetup

theorem decodedAs_setDescriptor (hstd : m.setup.isStandard = true)
    (hdir : m.setup.isDeviceToHost = false) (hreq : m.setup.request = USB_REQUEST_SET_DESCRIPTOR) :
    m.DecodedAs m.setup := by
  have hsetup := setupPacketInit_eq hm hstd hdir hreq
  have hsplit : ∀ req, m.split req = some (LIBUSB_IOCTL_SET_DESCRIPTOR, _) := fun req => by
    rw [ControlMessage.split_standard hstd, hreq]
    rfl
  refine decodedAs_write (fun buffer => formatDescriptorRequest buffer true) hm hdir hsplit
    (by decide) (by decide) (fun s call a hcode => ?_) (fun req rest => ?_) hdir
  · unfold defaultQueueOnControl
    rw [hcode]
    rfl
  · rw [formatDescriptorRequest_descriptor, descriptorValue_split, UInt16.toUInt16_toUInt32]
    exact hsetup

theorem decodedAs_getDescriptor (hstd : m.setup.isStandard = true)
    (hdir : m.setup.isDeviceToHost = true) (hreq : m.setup.request = USB_REQUEST_GET_DESCRIPTOR)
    (hdevice : m.setup.descriptorType ≠ USB_DESCRIPTOR_TYPE_DEVICE)
    (hconfiguration : m.setup.descriptorType ≠ USB_DESCRIPTOR_TYPE_CONFIGURATION) :
    m.DecodedAs m.setup := by
  have hsetup := setupPacketInit_eq hm hstd hdir hreq
  have hsplit : ∀ req, m.split req = some (LIBUSB_IOCTL_GET_DESCRIPTOR, _) := fun req => by
    rw [ControlMessage.split_standard hstd, hreq]
    rfl
  refine decodedAs_read (fun buffer => formatDescriptorRequest buffer false) hdir hsplit
    (by decide) (fun s call a hcode => ?_) (fun req rest => ?_) (fun dc rc hrc => ?_) hdir
  · unfold defaultQueueOnControl
    rw [hcode]
    rfl
  · rw [formatDescriptorRequest_descriptor, descriptorValue_split, UInt16.toUInt16_toUInt32]
    exact hsetup
  · simp [cachedDescriptor, hrc, hdevice, hconfiguration]

omit hm in
/-- The packet of a status request says what the request of the library says. -/
theorem getStatus_format (req : LibusbRequest) (requesttype index : UInt32) :
    setupPacketInitGetStatus
        (RequestField.statusRecipient.get
          ((req.set .statusRecipient (requesttype &&& 0x1F)).set .statusIndex index).bytes)
        (RequestField.statusIndex.get
          ((req.set .statusRecipient (requesttype &&& 0x1F)).set .statusIndex index).bytes).toUInt16
      = setupPacketInit true (requesttype &&& 0x1F) USB_REQUEST_GET_STATUS 0 index.toUInt16 := by
  unfold setupPacketInitGetStatus
  simp (disch := decide) only [LibusbRequest.get_set_self, LibusbRequest.get_set_of_ne]

/-- A status request, sent from the default queue without its value. -/
theorem decodedAs_getStatus (hstd : m.setup.isStandard = true)
    (hdir : m.setup.isDeviceToHost = true) (hreq : m.setup.request = USB_REQUEST_GET_STATUS)
    (hlen : 2 ≤ m.data.length) : m.DecodedAs { m.setup with value := 0 } := by
  have hsetup := setupPacketInit_eq hm hstd hdir hreq
  have hsplit : ∀ req, m.split req = some (LIBUSB_IOCTL_GET_STATUS, _) := fun req => by
    rw [ControlMessage.split_standard hstd, hreq]
    rfl
  have hout : m.outgoing = [] := by
    rw [ControlMessage.outgoing, hdir]
    rfl
  refine ⟨fun stack timeout => by rw [submit_read hdir hsplit]; rfl, ?_⟩
  intro stack allocates timeout call hcall s a
  rw [submit_read hdir hsplit, Option.some.injEq] at hcall
  subst hcall
  refine sentOrFailed_onControlIoctl (Nat.le_of_eq (LibusbRequest.length_bytes _).symm) ?_
  rw [hout]
  change SentOrFailed _ _ _ (onGetStatus _ a)
  unfold onGetStatus
  rw [if_neg (by dsimp only; omega)]
  cases hmemory : ntSuccess a.outputMemory with
  | false =>
    rw [if_pos (by simp)]
    exact .fails (fun h => by simp [h.outputMemory] at hmemory) hmemory
  | true =>
    rw [if_neg (by simp)]
    refine .inl ?_
    dsimp only
    rw [getStatus_format, UInt16.toUInt16_toUInt32]
    exact congrArg (fun setup => [ControlEvent.sent setup []])
      (congrArg (fun setup : SetupPacket => { setup with value := 0 }) hsetup)

end

/-- **The driver decodes a vendor or standard message into itself, without the value
of a status request.** -/
theorem decodedAs_carried (m : ControlMessage) (hm : m.WellFormed)
    (h : m.IsVendor ∨ m.IsStandard) : m.DecodedAs m.carried := by
  have hcarried : m.setup.isStandard = false ∨ m.setup.request ≠ USB_REQUEST_GET_STATUS →
      m.carried = m.setup := fun hne => by
    rw [ControlMessage.carried, if_neg]
    rcases hne with hne | hne <;> simp [hne]
  rcases h with h | h
  · have hstd : m.setup.isStandard = false := by
      unfold SetupPacket.isStandard
      rw [h]
      rfl
    rw [hcarried (.inl hstd)]
    exact decodedAs_vendor hm h
  · cases h with
    | getStatus hstd hdir hreq hlen =>
      have hc : m.carried = { m.setup with value := 0 } := by
        rw [ControlMessage.carried, hstd, hreq]
        rfl
      rw [hc]
      exact decodedAs_getStatus hm hstd hdir hreq hlen
    | clearFeature hstd hdir hreq =>
      rw [hcarried (.inr (by rw [hreq]; decide))]
      exact decodedAs_feature hm hstd hdir false hreq
    | setFeature hstd hdir hreq =>
      rw [hcarried (.inr (by rw [hreq]; decide))]
      exact decodedAs_feature hm hstd hdir true hreq
    | getDescriptor hstd hdir hreq hdevice hconfiguration =>
      rw [hcarried (.inr (by rw [hreq]; decide))]
      exact decodedAs_getDescriptor hm hstd hdir hreq hdevice hconfiguration
    | setDescriptor hstd hdir hreq =>
      rw [hcarried (.inr (by rw [hreq]; decide))]
      exact decodedAs_setDescriptor hm hstd hdir hreq

/-- A message of three bytes to the vendor of the device. -/
def vendorWrite : ControlMessage := ⟨⟨0x40, 0x10, 0x1234, 2⟩, [1, 2, 3]⟩

/-- A device whose default pipe has a queue. -/
def controlDevice : DeviceState :=
  let pc : PipeContext := { queue := some 0, isValid := true }
  DeviceState.setPipe { queues := Objects.empty.create (newQueue pc {}) } 0 pc

/-- A framework that refuses nothing. -/
def controlAnswers : ControlAnswers where
  dispatch :=
    { reads :=
        { zeroTest := 0
          signTest := 0
          highSpeedTest := 0
          urbSize := 0
          initUrb := 0
          copyLoop _ := 0
          offsetTested _ := 0
          offsetAssigned _ := 0 } }

theorem servesControl_controlAnswers (m : ControlMessage) :
    ServesControl m controlDevice controlAnswers where
  requestContext := rfl
  queueContext := rfl
  inputBuffer := by decide
  enqueue := by decide
  contexts := rfl
  outputMemory := by decide
  refresh := by decide
  queue := ⟨_, rfl⟩
  forward := by decide
  transferMemory := .inl (by decide)
  formatRequest := by decide
  allocateTimer := by decide
  send := rfl

theorem decodedAs_vendorWrite :
    vendorWrite.IsVendor ∧ ServesControl vendorWrite controlDevice controlAnswers ∧
      vendorWrite.DecodedAs ⟨0x40, 0x10, 0x1234, 2⟩ :=
  have hvendor : vendorWrite.IsVendor := by
    unfold ControlMessage.IsVendor
    decide
  ⟨hvendor, servesControl_controlAnswers _,
    decodedAs_carried vendorWrite ⟨by decide, by decide⟩ (.inl hvendor)⟩

/-- A status request with a value, which the request of the library has no field for. -/
def statusWithValue : ControlMessage := ⟨⟨0x80, 0, 1, 0⟩, [0, 0]⟩

/-- The value of a status request is lost. -/
theorem not_decodedAs_statusWithValue :
    ¬∀ m : ControlMessage, m.WellFormed → (m.IsClass ∨ m.IsVendor ∨ m.IsStandard) →
      m.DecodedAs m.setup := by
  intro h
  have hstatus : statusWithValue.IsStandard := .getStatus (by decide) (by decide) rfl (by decide)
  let stack : LibusbRequest := ⟨List.replicate 24 0, rfl⟩
  have hevents := (h statusWithValue ⟨by decide, by decide⟩ (.inr (.inr hstatus))).2 stack true 0 _
    rfl controlDevice controlAnswers
  have hsent : onControlIoctl controlDevice
      ⟨LIBUSB_IOCTL_GET_STATUS, List.replicate 24 0, 2⟩ controlAnswers =
        [.sent ⟨0x80, 0, 0, 0⟩ []] := by decide
  rcases hevents with hevents | ⟨-, status, -, hevents⟩
  · exact absurd (hsent.symm.trans hevents) (by decide)
  · exact absurd (hsent.symm.trans hevents) (by simp)

end LibusbK
