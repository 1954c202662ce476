import LibusbK.Lib.Keyed
import Mathlib.Data.Int.Notation
import Mathlib.Data.Nat.Notation
import Mathlib.Logic.Function.Iterate

/-!
# The configuration descriptor walk

`u_Init_Config`, `u_Add_Interface` and `u_Add_Pipe` of `lusbk_stack_collection.c`:
two nested loops that move one iterator over a configuration descriptor and build
the stack of interface, alternate setting and pipe elements.

The walk is a machine that makes one call of `u_Desc_Next` a step; the frame says
which of the two loops makes it.  Elements are found by their ID, as the source
finds them, and a pointer to an element is the ID it was found by.

## Main definitions

* `uDescNext` — the iterator.
* `PipeEL`, `AltInterfaceEL`, `InterfaceEL`, `UsbStack`, `DevHandle` — the stack.
* `uAddInterface`, `uAddPipe` — the bodies of the loops.
* `Walker.step`, `walk` — the nested loops.
-/

namespace LibusbK

/-! ### The iterator -/

/-- Memory from the start of `Device->ConfigDescriptor` on; what stands behind the
buffer is arbitrary. -/
abbrev Memory := ℕ → UInt8

/-- `sizeof(USB_COMMON_DESCRIPTOR)`. -/
def usbCommonDescriptorSize : ℕ := 2

/-- `sizeof(USB_INTERFACE_DESCRIPTOR)`. -/
def usbInterfaceDescriptorSize : ℕ := 9

/-- `sizeof(USB_ENDPOINT_DESCRIPTOR)`. -/
def usbEndpointDescriptorSize : ℕ := 7

/-- `sizeof(USB_SUPERSPEED_ENDPOINT_COMPANION_DESCRIPTOR)`. -/
def usbSuperSpeedEndpointCompanionDescriptorSize : ℕ := 6

/-- `USB_DESCRIPTOR_TYPE_INTERFACE`. -/
def usbDescriptorTypeInterface : UInt8 := 0x04

/-- `USB_DESCRIPTOR_TYPE_ENDPOINT`. -/
def usbDescriptorTypeEndpoint : UInt8 := 0x05

/-- `USB_SUPERSPEED_ENDPOINT_COMPANION`. -/
def usbSuperSpeedEndpointCompanion : UInt8 := 0x30

/-- `DESCRIPTOR_ITERATOR`, with `Offset` as the distance from the start. -/
structure DescriptorIterator where
  remaining : ℤ
  offset : ℕ
  deriving DecidableEq, Repr

/-- A `LONG` as it is compared with a `sizeof`: modulo `2 ^ 32`, so that a negative
value is a large one.  Nothing else about `Remaining` matters, so that the integer
need not wrap around itself. -/
def asUnsigned (value : ℤ) : ℕ := (value % 0x100000000).toNat

/-- What a call of `u_Desc_Next` returns, leaves in the iterator, and reads. -/
structure DescNext where
  result : Bool
  desc : DescriptorIterator
  reads : List ℕ := []
  deriving DecidableEq, Repr

/-- `u_Desc_Next`.  A call that fails at its second comparison has taken `bLength`
off `Remaining` already. -/
def uDescNext (mem : Memory) (desc : DescriptorIterator) : DescNext :=
  if asUnsigned desc.remaining < usbCommonDescriptorSize then
    { result := false, desc := desc }
  else
    let remaining := desc.remaining - (mem desc.offset).toNat
    if usbCommonDescriptorSize ≤ asUnsigned remaining then
      { result := true
        desc := { remaining := remaining, offset := desc.offset + (mem desc.offset).toNat }
        reads := [desc.offset] }
    else
      { result := false
        desc := { desc with remaining := remaining }
        reads := [desc.offset] }

/-! ### The stack -/

/-- `KUSB_PIPE_EL`.  Descriptor pointers are distances from the start of the buffer. -/
structure PipeEL where
  id : UInt8
  index : UInt8
  descriptor : ℕ
  superSpeedCompanionDescriptor : Option ℕ := none
  deriving DecidableEq, Repr

/-- `KUSB_ALT_INTERFACE_EL`. -/
structure AltInterfaceEL where
  id : UInt8
  index : UInt8
  descriptor : ℕ
  pipeList : List PipeEL := []
  pipeCount : UInt8 := 0
  deriving DecidableEq, Repr

/-- `KUSB_INTERFACE_EL`; `sharedInterface` is the slot its pointer points to. -/
structure InterfaceEL where
  id : UInt8
  index : UInt8
  sharedInterface : ℕ
  altInterfaceList : List AltInterfaceEL := []
  altInterfaceCount : UInt8 := 0
  deriving DecidableEq, Repr

/-- `KUSB_INTERFACE_STACK`: the fields the parser writes. -/
structure UsbStack where
  interfaceList : List InterfaceEL := []
  interfaceCount : UInt8 := 0
  deriving DecidableEq, Repr

/-- `KDEV_SHARED_INTERFACE`: the fields the parser writes. -/
structure SharedInterface where
  id : UInt8 := 0
  index : UInt8 := 0
  deriving DecidableEq, Repr

/-- `KDEV_SHARED_INTERFACE_COUNT`. -/
def kdevSharedInterfaceCount : ℕ := 128

/-- What `Handle->Device` holds of the interfaces. -/
structure DevHandle where
  usbStack : UsbStack := {}
  sharedInterfaces : List SharedInterface := List.replicate kdevSharedInterfaceCount {}
  deriving DecidableEq, Repr

/-- `FindInterfaceEL`. -/
def UsbStack.findInterfaceEL (stack : UsbStack) (isIndex : Bool) (numberOrIndex : UInt8) :
    Option InterfaceEL :=
  Keyed.find (if isIndex then InterfaceEL.index else InterfaceEL.id) numberOrIndex
    stack.interfaceList

/-- `FindAltInterfaceEL`. -/
def InterfaceEL.findAltInterfaceEL (interfaceEL : InterfaceEL) (isIndex : Bool)
    (numberOrIndex : UInt8) : Option AltInterfaceEL :=
  Keyed.find (if isIndex then AltInterfaceEL.index else AltInterfaceEL.id) numberOrIndex
    interfaceEL.altInterfaceList

/-- `FindPipeEL`. -/
def AltInterfaceEL.findPipeEL (altInterfaceEL : AltInterfaceEL) (isIndex : Bool)
    (numberOrIndex : UInt8) : Option PipeEL :=
  Keyed.find (if isIndex then PipeEL.index else PipeEL.id) numberOrIndex
    altInterfaceEL.pipeList

/-- The alternate setting element that a number and an alternate setting lead to. -/
def UsbStack.altInterfaceAt (stack : UsbStack) (number alternate : UInt8) :
    Option AltInterfaceEL :=
  (stack.findInterfaceEL false number).bind fun el => el.findAltInterfaceEL false alternate

/-- The pipe element of an address in an alternate setting. -/
def UsbStack.pipeAt (stack : UsbStack) (number alternate address : UInt8) : Option PipeEL :=
  (stack.altInterfaceAt number alternate).bind fun el => el.findPipeEL false address

/-- Writes through a pointer to the interface element of `number`. -/
def UsbStack.updateInterface (stack : UsbStack) (number : UInt8)
    (f : InterfaceEL → InterfaceEL) : UsbStack :=
  { stack with interfaceList := Keyed.update InterfaceEL.id number f stack.interfaceList }

/-- Writes through a pointer to the alternate setting element of `alternate`. -/
def InterfaceEL.updateAlt (interfaceEL : InterfaceEL) (alternate : UInt8)
    (f : AltInterfaceEL → AltInterfaceEL) : InterfaceEL :=
  { interfaceEL with
    altInterfaceList :=
      Keyed.update AltInterfaceEL.id alternate f interfaceEL.altInterfaceList }

/-- Writes through a pointer to an alternate setting element of an interface. -/
def UsbStack.updateAlt (stack : UsbStack) (number alternate : UInt8)
    (f : AltInterfaceEL → AltInterfaceEL) : UsbStack :=
  stack.updateInterface number fun el => el.updateAlt alternate f

/-- Sets the companion of the pipe element of `address`. -/
def AltInterfaceEL.setCompanion (altInterfaceEL : AltInterfaceEL) (address : UInt8)
    (companion : ℕ) : AltInterfaceEL :=
  { altInterfaceEL with
    pipeList :=
      Keyed.update PipeEL.id address
        (fun el => { el with superSpeedCompanionDescriptor := some companion })
        altInterfaceEL.pipeList }

/-! ### New elements -/

/-- The interface element `u_Add_Interface` appends, with its shared slot. -/
def DevHandle.appendInterfaceEL (device : DevHandle) (number : UInt8) : DevHandle :=
  let index := device.usbStack.interfaceCount
  let slot := (index &&& 127).toNat
  { usbStack :=
      { interfaceList :=
          device.usbStack.interfaceList ++
            [{ id := number, index := index, sharedInterface := slot }]
        interfaceCount := index + 1 }
    sharedInterfaces := device.sharedInterfaces.set slot { id := number, index := index } }

/-- The alternate setting element `u_Add_Interface` appends. -/
def InterfaceEL.appendAltInterfaceEL (interfaceEL : InterfaceEL) (alternate : UInt8)
    (descriptor : ℕ) : InterfaceEL :=
  { interfaceEL with
    altInterfaceList :=
      interfaceEL.altInterfaceList ++
        [{ id := alternate, index := interfaceEL.altInterfaceCount, descriptor := descriptor }]
    altInterfaceCount := interfaceEL.altInterfaceCount + 1 }

/-- The pipe element `u_Add_Pipe` appends. -/
def AltInterfaceEL.appendPipeEL (altInterfaceEL : AltInterfaceEL) (address : UInt8)
    (descriptor : ℕ) : AltInterfaceEL :=
  { altInterfaceEL with
    pipeList :=
      altInterfaceEL.pipeList ++
        [{ id := address, index := altInterfaceEL.pipeCount, descriptor := descriptor }]
    pipeCount := altInterfaceEL.pipeCount + 1 }

/-- Whether the `Mem_Alloc` calls made at one descriptor return memory. -/
structure Allocs where
  interfaceEL : Bool := true
  altInterfaceEL : Bool := true
  pipeEL : Bool := true
  deriving DecidableEq, Repr

/-- The interface element of a number is found, or a new one appended. -/
def DevHandle.obtainInterfaceEL (device : DevHandle) (memAlloc : Bool) (number : UInt8) :
    Option DevHandle :=
  if (device.usbStack.findInterfaceEL false number).isSome then some device
  else if memAlloc then some (device.appendInterfaceEL number) else none

/-- The alternate setting element is found, or a new one appended. -/
def DevHandle.obtainAltInterfaceEL (device : DevHandle) (memAlloc : Bool)
    (number alternate : UInt8) (descriptor : ℕ) : Option DevHandle :=
  if (device.usbStack.altInterfaceAt number alternate).isSome then some device
  else if memAlloc then
    some { device with
      usbStack := device.usbStack.updateInterface number fun el =>
        el.appendAltInterfaceEL alternate descriptor }
  else none

/-- The pipe element is found, or a new one appended. -/
def DevHandle.obtainPipeEL (device : DevHandle) (memAlloc : Bool)
    (number alternate address : UInt8) (descriptor : ℕ) : Option DevHandle :=
  if (device.usbStack.pipeAt number alternate address).isSome then some device
  else if memAlloc then
    some { device with
      usbStack := device.usbStack.updateAlt number alternate fun el =>
        el.appendPipeEL address descriptor }
  else none

/-! ### The loop bodies -/

/-- The loop that makes the next call of `u_Desc_Next`: that of `u_Init_Config`, or
that of `u_Add_Pipe` with its alternate setting element and the pipe element a
companion would be attached to. -/
inductive Frame
  | config
  | pipe (number alternate : UInt8) (prevPipeELForCompanionAttach : Option UInt8)
  | done
  deriving DecidableEq, Repr

/-- What a loop body leaves behind at a descriptor, and the bytes it reads besides
the length and the type. -/
structure Visit where
  device : DevHandle
  frame : Frame
  reads : List ℕ := []
  deriving DecidableEq, Repr

/-- The reads of an ID at `offset` by a search of `list`: a search of an empty list
compares nothing. -/
def searchReads {α : Type} (list : List α) (offset : ℕ) : List ℕ :=
  if list.isEmpty then [] else [offset]

/-- The alternate setting elements of an interface. -/
def UsbStack.altInterfaceList (stack : UsbStack) (number : UInt8) : List AltInterfaceEL :=
  ((stack.findInterfaceEL false number).map (·.altInterfaceList)).getD []

/-- The pipe elements of an alternate setting. -/
def UsbStack.pipeList (stack : UsbStack) (number alternate : UInt8) : List PipeEL :=
  ((stack.altInterfaceAt number alternate).map (·.pipeList)).getD []

/-- `u_Add_Interface` at the descriptor at `desc`, up to the loop of `u_Add_Pipe`. -/
def uAddInterface (mem : Memory) (allocs : Allocs) (desc : ℕ) (device : DevHandle) : Visit :=
  let number := mem (desc + 2)
  let alternate := mem (desc + 3)
  match device.obtainInterfaceEL allocs.interfaceEL number with
  | none =>
    { device := device
      frame := .config
      reads := searchReads device.usbStack.interfaceList (desc + 2) }
  | some device =>
    match device.obtainAltInterfaceEL allocs.altInterfaceEL number alternate desc with
    | none =>
      { device := device
        frame := .config
        reads := (desc + 2) ::
          searchReads (device.usbStack.altInterfaceList number) (desc + 3) }
    | some device =>
      { device := device
        frame := .pipe number alternate none
        reads := [desc + 2, desc + 3] }

/-- The body of the loop of `u_Add_Pipe` at a descriptor that is no interface
descriptor. -/
def uAddPipe (mem : Memory) (allocs : Allocs) (desc : ℕ) (device : DevHandle)
    (number alternate : UInt8) (prevPipeELForCompanionAttach : Option UInt8) : Visit :=
  if mem (desc + 1) = usbDescriptorTypeEndpoint then
    let address := mem (desc + 2)
    match device.obtainPipeEL allocs.pipeEL number alternate address desc with
    | none =>
      { device := device
        frame := .config
        reads := searchReads (device.usbStack.pipeList number alternate) (desc + 2) }
    | some device =>
      { device := device
        frame := .pipe number alternate (some address)
        reads := [desc + 2] }
  else if mem (desc + 1) = usbSuperSpeedEndpointCompanion then
    match prevPipeELForCompanionAttach with
    | some address =>
      { device := { device with
          usbStack := device.usbStack.updateAlt number alternate fun el =>
            el.setCompanion address desc }
        frame := .pipe number alternate none }
    | none => { device := device, frame := .pipe number alternate none }
  else
    { device := device
      frame := .pipe number alternate prevPipeELForCompanionAttach }

/-- The body of the loop of `u_Init_Config`, up to the loop of `u_Add_Pipe`. -/
def uInitConfigBody (mem : Memory) (allocs : Allocs) (desc : ℕ) (device : DevHandle) : Visit :=
  if mem (desc + 1) = usbDescriptorTypeInterface then uAddInterface mem allocs desc device
  else { device := device, frame := .config }

/-! ### The nested loops -/

/-- A state of the walk.  `visited` counts the descriptors a loop body was run at, and
`reads` are the bytes read so far. -/
structure Walker where
  desc : DescriptorIterator
  device : DevHandle := {}
  frame : Frame := .config
  visited : ℕ := 0
  reads : List ℕ := []
  deriving DecidableEq, Repr

/-- The walk after a loop body. -/
def Walker.after (w : Walker) (next : DescNext) (visit : Visit) : Walker :=
  { desc := next.desc
    device := visit.device
    frame := visit.frame
    visited := w.visited + 1
    reads := visit.reads ++ (next.desc.offset + 1) :: next.reads ++ w.reads }

/-- One call of `u_Desc_Next` and what the loop that made it does next.  In
`u_Add_Pipe` `descPrev` is the iterator before the call. -/
def Walker.step (mem : Memory) (alloc : ℕ → Allocs) (w : Walker) : Walker :=
  let next := uDescNext mem w.desc
  match w.frame with
  | .done => w
  | .config =>
    if next.result then
      w.after next (uInitConfigBody mem (alloc w.visited) next.desc.offset w.device)
    else
      { w with desc := next.desc, frame := .done, reads := next.reads ++ w.reads }
  | .pipe number alternate prevPipe =>
    if next.result then
      if mem (next.desc.offset + 1) = usbDescriptorTypeInterface then
        -- `memcpy(desc, &descPrev, sizeof(*desc)); break;`
        { w with
          frame := .config
          reads := (next.desc.offset + 1) :: next.reads ++ w.reads }
      else
        w.after next
          (uAddPipe mem (alloc w.visited) next.desc.offset w.device number alternate prevPipe)
    else
      { w with desc := next.desc, frame := .config, reads := next.reads ++ w.reads }

/-- `cfg->wTotalLength`. -/
def wTotalLength (mem : Memory) : ℕ := (mem 2).toNat + 256 * (mem 3).toNat

/-- `u_Init_Config` before its first call of `u_Desc_Next`. -/
def uInitConfig (mem : Memory) (device : DevHandle) : Walker :=
  { desc := { remaining := wTotalLength mem, offset := 0 }
    device := device
    reads := [2, 3] }

/-- The walk of `u_Init_Config` after `calls` calls of `u_Desc_Next`, where the
allocations at the `i`-th descriptor visited go as `alloc i` says. -/
def walk (mem : Memory) (alloc : ℕ → Allocs) (calls : ℕ) : Walker :=
  (Walker.step mem alloc)^[calls] (uInitConfig mem {})

end LibusbK
