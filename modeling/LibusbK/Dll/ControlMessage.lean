import LibusbK.Driver.Control
import LibusbK.Lib.LittleEndian

/-!
# Control messages of the legacy interface

`usb_control_msg` of `lusbk_bknd_libusb0.c`.  The driver takes no generic control
message on its legacy codes, so a message is split up: each kind of request has a
code of its own and a layout of its own in the union of `libusb_request`.  Data
for the device is appended to the request; data from the device comes back in the
output buffer.

## Main definitions

* `RequestField`, `LibusbRequest` — the fields of the packed request and its bytes.
* `usbControlMsg` — the code and the buffers a message is sent with.
-/

namespace LibusbK

open LittleEndian

abbrev LIBUSB_IOCTL_SET_CONFIGURATION : UInt32 := ctlCode 0x801 METHOD_BUFFERED
abbrev LIBUSB_IOCTL_GET_CONFIGURATION : UInt32 := ctlCode 0x802 METHOD_BUFFERED
abbrev LIBUSB_IOCTL_SET_INTERFACE : UInt32 := ctlCode 0x803 METHOD_BUFFERED
abbrev LIBUSB_IOCTL_GET_INTERFACE : UInt32 := ctlCode 0x804 METHOD_BUFFERED
abbrev LIBUSB_IOCTL_GET_STATUS : UInt32 := ctlCode 0x807 METHOD_BUFFERED

/-! ### `libusb_request` -/

/-- An `unsigned int` of `libusb_request`, which is packed and has room for six. -/
abbrev RequestField := Fin 6

namespace RequestField

/-- The offset of the field. -/
def offset (f : RequestField) : ℕ := 4 * f.val

theorem offset_add_le (f : RequestField) : f.offset + 4 ≤ sizeofLibusbRequest := by
  have h := f.isLt
  unfold offset sizeofLibusbRequest
  omega

theorem disjoint_of_ne {f g : RequestField} (h : f ≠ g) :
    f.offset + 4 ≤ g.offset ∨ g.offset + 4 ≤ f.offset := by
  have hval : f.val ≠ g.val := fun heq => h (Fin.ext heq)
  unfold offset
  omega

/-! The members of the union share the fields after the timeout. -/

abbrev timeout : RequestField := 0

abbrev vendorType : RequestField := 1
abbrev vendorRecipient : RequestField := 2
abbrev vendorRequest : RequestField := 3
abbrev vendorValue : RequestField := 4
abbrev vendorIndex : RequestField := 5

abbrev featureRecipient : RequestField := 1
abbrev featureFeature : RequestField := 2
abbrev featureIndex : RequestField := 3

abbrev statusRecipient : RequestField := 1
abbrev statusIndex : RequestField := 2

abbrev descriptorType : RequestField := 1
abbrev descriptorIndex : RequestField := 2
abbrev descriptorLanguageId : RequestField := 3
abbrev descriptorRecipient : RequestField := 4

abbrev configurationConfiguration : RequestField := 1

abbrev intfInterfaceNumber : RequestField := 1
abbrev intfAltsettingNumber : RequestField := 2

abbrev pipePolicyPipeId : RequestField := 2
abbrev pipePolicyPolicyType : RequestField := 3

abbrev powerPolicyPolicyType : RequestField := 1

/-- Read the field out of a buffer that begins with a request. -/
def get (f : RequestField) (buffer : List UInt8) : UInt32 :=
  UInt32.ofNat (load f.offset 4 buffer)

end RequestField

/-- The bytes of a `libusb_request`. -/
structure LibusbRequest where
  bytes : List UInt8
  length_bytes : bytes.length = sizeofLibusbRequest

namespace LibusbRequest

variable (req : LibusbRequest) (f : RequestField) (x : UInt32)

theorem length_store : (store f.offset 4 x.toNat req.bytes).length = sizeofLibusbRequest := by
  rw [LittleEndian.length_store (req.length_bytes ▸ f.offset_add_le), req.length_bytes]

/-- Assign to a field. -/
def set : LibusbRequest := ⟨store f.offset 4 x.toNat req.bytes, req.length_store f x⟩

@[simp] theorem get_set_self : f.get (req.set f x).bytes = x := by
  have hlt : x.toNat < 256 ^ 4 := x.toNat_lt
  unfold RequestField.get set
  rw [load_store_self (req.length_bytes ▸ f.offset_add_le) hlt, UInt32.ofNat_toNat]

variable {f}

theorem get_set_of_ne {g : RequestField} (h : g ≠ f) :
    g.get (req.set f x).bytes = g.get req.bytes := by
  unfold RequestField.get set
  rw [load_store_of_disjoint (req.length_bytes ▸ f.offset_add_le)
    (RequestField.disjoint_of_ne h)]

/-- The data that follows a request is not read as a part of it. -/
@[simp] theorem get_append (rest : List UInt8) : f.get (req.bytes ++ rest) = f.get req.bytes := by
  unfold RequestField.get
  rw [load_append (req.length_bytes ▸ f.offset_add_le)]

end LibusbRequest

/-! ### `usb_control_msg` -/

abbrev USB_TYPE_STANDARD : UInt32 := (0x00 : UInt32) <<< 5
abbrev USB_TYPE_CLASS : UInt32 := (0x01 : UInt32) <<< 5
abbrev USB_TYPE_VENDOR : UInt32 := (0x02 : UInt32) <<< 5
abbrev USB_ENDPOINT_IN : UInt32 := 0x80

abbrev USB_REQUEST_GET_STATUS : UInt8 := 0
abbrev USB_REQUEST_CLEAR_FEATURE : UInt8 := 1
abbrev USB_REQUEST_SET_FEATURE : UInt8 := 3
abbrev USB_REQUEST_SET_DESCRIPTOR : UInt8 := 7
abbrev USB_REQUEST_GET_CONFIGURATION : UInt8 := 8
abbrev USB_REQUEST_SET_CONFIGURATION : UInt8 := 9
abbrev USB_REQUEST_GET_INTERFACE : UInt8 := 10
abbrev USB_REQUEST_SET_INTERFACE : UInt8 := 11

/-- A call of `DeviceIoControl`. -/
structure IoctlCall where
  code : UInt32
  input : List UInt8
  outputLength : ℕ
  deriving DecidableEq, Repr

namespace LibusbRequest

/-- The feature member of the union. -/
def feature (req : LibusbRequest) (requesttype value index : UInt32) : LibusbRequest :=
  ((req.set .featureRecipient (requesttype &&& 0x1F)).set .featureFeature value).set
    .featureIndex index

/-- The descriptor member of the union. -/
def descriptor (req : LibusbRequest) (requesttype value index : UInt32) : LibusbRequest :=
  (((req.set .descriptorRecipient (requesttype &&& 0x1F)).set
    .descriptorType ((value >>> 8) &&& 0xFF)).set
    .descriptorIndex (value &&& 0xFF)).set .descriptorLanguageId index

/-- The vendor member of the union. -/
def vendor (req : LibusbRequest) (requesttype request value index : UInt32) : LibusbRequest :=
  ((((req.set .vendorType ((requesttype >>> 5) &&& 0x03)).set
    .vendorRecipient (requesttype &&& 0x1F)).set
    .vendorRequest request).set
    .vendorValue value).set .vendorIndex index

end LibusbRequest

/-- The cases of `usb_control_msg` for a standard request. -/
def standardControlMsg (req : LibusbRequest) (requesttype request value index : UInt32) :
    Option (UInt32 × LibusbRequest) :=
  if request = USB_REQUEST_GET_STATUS.toUInt32 then
    some (LIBUSB_IOCTL_GET_STATUS,
      (req.set .statusRecipient (requesttype &&& 0x1F)).set .statusIndex index)
  else if request = USB_REQUEST_CLEAR_FEATURE.toUInt32 then
    some (LIBUSB_IOCTL_CLEAR_FEATURE, req.feature requesttype value index)
  else if request = USB_REQUEST_SET_FEATURE.toUInt32 then
    some (LIBUSB_IOCTL_SET_FEATURE, req.feature requesttype value index)
  else if request = USB_REQUEST_GET_DESCRIPTOR.toUInt32 then
    some (LIBUSB_IOCTL_GET_DESCRIPTOR, req.descriptor requesttype value index)
  else if request = USB_REQUEST_SET_DESCRIPTOR.toUInt32 then
    some (LIBUSB_IOCTL_SET_DESCRIPTOR, req.descriptor requesttype value index)
  else if request = USB_REQUEST_GET_CONFIGURATION.toUInt32 then
    some (LIBUSB_IOCTL_GET_CONFIGURATION, req)
  else if request = USB_REQUEST_SET_CONFIGURATION.toUInt32 then
    some (LIBUSB_IOCTL_SET_CONFIGURATION, req.set .configurationConfiguration value)
  else if request = USB_REQUEST_GET_INTERFACE.toUInt32 then
    some (LIBUSB_IOCTL_GET_INTERFACE, req.set .intfInterfaceNumber index)
  else if request = USB_REQUEST_SET_INTERFACE.toUInt32 then
    some (LIBUSB_IOCTL_SET_INTERFACE,
      (req.set .intfInterfaceNumber index).set .intfAltsettingNumber value)
  else none

/-- The switch of `usb_control_msg`: the code and the request, or `-EINVAL`. -/
def splitControlMsg (req : LibusbRequest) (requesttype request value index : UInt32) :
    Option (UInt32 × LibusbRequest) :=
  let type := requesttype &&& 0x60
  if type = USB_TYPE_STANDARD then standardControlMsg req requesttype request value index
  else if type = USB_TYPE_VENDOR ∨ type = USB_TYPE_CLASS then
    some (if requesttype &&& USB_ENDPOINT_IN ≠ 0 then LIBUSB_IOCTL_VENDOR_READ
        else LIBUSB_IOCTL_VENDOR_WRITE,
      req.vendor requesttype request value index)
  else none

/-- `usb_control_msg` up to `_usb_io_sync`, on a device that is open; `none` is a
message that is not accepted.  `stack` is what the request holds before it is
filled in, and `allocates` what becomes of the `malloc` for data to the device. -/
def usbControlMsg (stack : LibusbRequest) (allocates : Bool)
    (requesttype request value index : UInt32) (bytes : List UInt8) (timeout : UInt32) :
    Option IoctlCall :=
  match splitControlMsg (stack.set .timeout timeout) requesttype request value index with
  | none => none
  | some (code, req) =>
    if requesttype &&& USB_ENDPOINT_IN = 0 then
      if allocates then some ⟨code, req.bytes ++ bytes, 0⟩ else none
    else some ⟨code, req.bytes, bytes.length⟩

end LibusbK
