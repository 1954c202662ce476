import LibusbK.Driver.Framework
import Mathlib.Tactic.SplitIfs

/-!
# Control transfers

`XferCtrl` of `drv_xfer_control.c` and its completion routine, with the codes of
`drv_api.h` that come to a pipe queue.
-/

namespace LibusbK

/-! ### Codes -/

/-- `CTL_CODE(FILE_DEVICE_UNKNOWN, function, method, FILE_ANY_ACCESS)`. -/
def ctlCode (function method : UInt32) : UInt32 :=
  ((0x22 : UInt32) <<< 16) ||| (function <<< 2) ||| method

abbrev METHOD_BUFFERED : UInt32 := 0
abbrev METHOD_IN_DIRECT : UInt32 := 1
abbrev METHOD_OUT_DIRECT : UInt32 := 2

/-- `METHOD_FROM_CTL_CODE`. -/
def methodFromCtlCode (code : UInt32) : UInt32 := code &&& 3

abbrev LIBUSB_IOCTL_SET_FEATURE : UInt32 := ctlCode 0x805 METHOD_BUFFERED
abbrev LIBUSB_IOCTL_CLEAR_FEATURE : UInt32 := ctlCode 0x806 METHOD_BUFFERED
abbrev LIBUSB_IOCTL_SET_DESCRIPTOR : UInt32 := ctlCode 0x808 METHOD_BUFFERED
abbrev LIBUSB_IOCTL_GET_DESCRIPTOR : UInt32 := ctlCode 0x809 METHOD_BUFFERED
abbrev LIBUSB_IOCTL_INTERRUPT_OR_BULK_WRITE : UInt32 := ctlCode 0x80A METHOD_IN_DIRECT
abbrev LIBUSB_IOCTL_INTERRUPT_OR_BULK_READ : UInt32 := ctlCode 0x80B METHOD_OUT_DIRECT
abbrev LIBUSB_IOCTL_VENDOR_WRITE : UInt32 := ctlCode 0x80C METHOD_BUFFERED
abbrev LIBUSB_IOCTL_VENDOR_READ : UInt32 := ctlCode 0x80D METHOD_BUFFERED
abbrev LIBUSB_IOCTL_ISOCHRONOUS_WRITE : UInt32 := ctlCode 0x813 METHOD_IN_DIRECT
abbrev LIBUSB_IOCTL_ISOCHRONOUS_READ : UInt32 := ctlCode 0x814 METHOD_OUT_DIRECT
abbrev LIBUSB_IOCTL_CONTROL_WRITE : UInt32 := ctlCode 0x90A METHOD_IN_DIRECT
abbrev LIBUSB_IOCTL_CONTROL_READ : UInt32 := ctlCode 0x90B METHOD_OUT_DIRECT
abbrev LIBUSBK_IOCTL_ISOEX_WRITE : UInt32 := ctlCode 0x913 METHOD_IN_DIRECT
abbrev LIBUSBK_IOCTL_ISOEX_READ : UInt32 := ctlCode 0x914 METHOD_OUT_DIRECT

/-- `sizeof(libusb_request)`. -/
def sizeofLibusbRequest : ℕ := 24

abbrev USB_REQUEST_GET_DESCRIPTOR : UInt8 := 6
abbrev USB_DESCRIPTOR_TYPE_DEVICE : UInt16 := 1
abbrev USB_DESCRIPTOR_TYPE_CONFIGURATION : UInt16 := 2

/-! ### Setup packets -/

/-- `bm.Request.Dir == BMREQUEST_DEVICE_TO_HOST`. -/
def SetupPacket.isDeviceToHost (setup : SetupPacket) : Bool := setup.requestType &&& 0x80 != 0

/-- `bm.Request.Type == BMREQUEST_STANDARD`. -/
def SetupPacket.isStandard (setup : SetupPacket) : Bool := setup.requestType &&& 0x60 == 0

/-- `wValue.Bytes.HiByte`. -/
def SetupPacket.descriptorType (setup : SetupPacket) : UInt16 := setup.value >>> 8

/-- `wValue.Bytes.LowByte`. -/
def SetupPacket.descriptorIndex (setup : SetupPacket) : UInt16 := setup.value &&& 0xFF

/-! ### `XferCtrl` -/

/-- The descriptor the driver keeps that answers a request, if there is one;
`.error` is the request for a configuration it does not keep. -/
def cachedDescriptor (dc : DeviceContext) (rc : RequestContext) :
    Except NTSTATUS (Option (List UInt8)) :=
  if rc.setup.isDeviceToHost && rc.setup.isStandard &&
      rc.setup.request == USB_REQUEST_GET_DESCRIPTOR &&
      rc.ioControlCode == LIBUSB_IOCTL_GET_DESCRIPTOR then
    if rc.setup.descriptorType = USB_DESCRIPTOR_TYPE_DEVICE then .ok (some dc.usbDeviceDescriptor)
    else if rc.setup.descriptorType = USB_DESCRIPTOR_TYPE_CONFIGURATION then
      if rc.setup.descriptorIndex = 0 then
        if dc.usbConfigurationDescriptor.length ≠ 0 then .ok (some dc.usbConfigurationDescriptor)
        else .ok none
      else .error STATUS_NO_MORE_ENTRIES
    else .ok none
  else .ok none

/-- The memory of a control transfer, or the status `XferCtrl` exits with. -/
def ctrlTransferMemory (fw : Framework) (rc : RequestContext) : Except NTSTATUS StageMemory :=
  if methodFromCtlCode rc.ioControlCode = METHOD_BUFFERED ∧ rc.requestType = .write then
    if !ntSuccess fw.transferMemory then .error fw.transferMemory
    else if rc.length < sizeofLibusbRequest then .error STATUS_BUFFER_TOO_SMALL
    else if rc.length - sizeofLibusbRequest = 0 then .ok .zlp
    else .ok (.user ⟨sizeofLibusbRequest, rc.length - sizeofLibusbRequest⟩)
  else if fw.transferMemory = STATUS_BUFFER_TOO_SMALL then .ok .zlp
  else if !ntSuccess fw.transferMemory then .error fw.transferMemory
  else .ok .whole

/-- `XferCtrl` for a request that goes to the device. -/
def ctrlTransfer (fw : Framework) (rc : RequestContext) (qc : QueueContext) : Served :=
  match ctrlTransferMemory fw rc with
  | .error status => completeWithInformation qc status 0
  | .ok memory =>
    match formatAndSubmit fw rc with
    | .error status => completeWithInformation qc status 0
    | .ok () => { queue := qc, effects := [.send .ctrl memory] }

/-- `XferCtrl`, with the bytes it stores in the caller's output buffer. -/
def xferCtrl (fw : Framework) (dc : DeviceContext) (rc : RequestContext) (qc : QueueContext)
    (outputBufferLength : ℕ) : Served × List UInt8 :=
  match cachedDescriptor dc rc with
  | .error status => (completeWithInformation qc status 0, [])
  | .ok (some descriptor) =>
    if ntSuccess fw.outputBuffer then
      let descriptorSize := min descriptor.length outputBufferLength
      (completeWithInformation qc STATUS_SUCCESS descriptorSize, descriptor.take descriptorSize)
    else (completeWithInformation qc fw.outputBuffer 0, [])
  | .ok none => (ctrlTransfer fw rc qc, [])

/-- `XferCtrlComplete`. -/
def xferCtrlComplete (status : NTSTATUS) (length : ℕ) (qc : QueueContext) : Served :=
  if ntSuccess status then completeWithInformation qc status length
  else completeWithInformation qc status 0

/-! ### The request is given away once -/

theorem handsOver_ctrlTransfer (fw : Framework) (rc : RequestContext) (qc : QueueContext) :
    (ctrlTransfer fw rc qc).HandsOver .ctrl := by
  unfold ctrlTransfer
  split
  · exact handsOver_completeWithInformation _ _ _ _
  · next memory _ =>
    split
    · exact handsOver_completeWithInformation _ _ _ _
    · exact .inl ⟨memory, rfl⟩

theorem handsOver_xferCtrl (fw : Framework) (dc : DeviceContext) (rc : RequestContext)
    (qc : QueueContext) (outputBufferLength : ℕ) :
    (xferCtrl fw dc rc qc outputBufferLength).1.HandsOver .ctrl := by
  unfold xferCtrl
  split
  · exact handsOver_completeWithInformation _ _ _ _
  · split_ifs
    · exact handsOver_completeWithInformation _ _ _ _
    · exact handsOver_completeWithInformation _ _ _ _
  · exact handsOver_ctrlTransfer fw rc qc

theorem handsOver_xferCtrlComplete (status : NTSTATUS) (length : ℕ) (qc : QueueContext) :
    (xferCtrlComplete status length qc).HandsOver .ctrl := by
  unfold xferCtrlComplete
  split_ifs
  · exact handsOver_completeWithInformation _ _ _ _
  · exact handsOver_completeWithInformation _ _ _ _

end LibusbK
