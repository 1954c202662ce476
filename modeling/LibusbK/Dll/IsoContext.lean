import LibusbK.Lib.AccessMemory
import LibusbK.Lib.LittleEndian
import LibusbK.Dll.IsochPackets
import LibusbK.Driver.IsoBounds

/-!
# Isochronous transfer contexts

The functions of `lusbk_usb_iso.c` on a `KISO_CONTEXT`, as code over its fields, the memory the
fields lie in, and what the driver does with the context of a transfer.  The packets follow the
header; nothing keeps an index from being negative, and packet `-1` is a part of the header.

## Main definitions

* `IsoField`, `isoLayout` — the fields of a `KISO_CONTEXT`, and where they lie.
* `isoKInit`, `IsoFunction.code` — the functions.
* `isoSubmit`, `isoComplete` — a transfer with the context.
* `IsoCall.run` — a call, in the memory of the context.
-/

namespace LibusbK

open Access

/-! ### The fields and their places -/

/-- The fields of a `KISO_CONTEXT`. -/
inductive IsoField
  | flags
  | startFrame
  | errorCount
  | numberOfPackets
  | urbHdrStatus
  | offset (packetIndex : ℤ)
  | length (packetIndex : ℤ)
  | status (packetIndex : ℤ)
  deriving DecidableEq

namespace IsoField

/-- What a field holds. -/
abbrev Val : IsoField → Type
  | flags | startFrame | urbHdrStatus | offset _ => UInt32
  | errorCount | length _ | status _ => UInt16
  | numberOfPackets => Int16

/-- The first byte of a field. -/
def start : IsoField → ℤ
  | flags => 0
  | startFrame => 4
  | errorCount => 8
  | numberOfPackets => 10
  | urbHdrStatus => 12
  | offset packetIndex => 16 + 8 * packetIndex
  | length packetIndex => 20 + 8 * packetIndex
  | status packetIndex => 22 + 8 * packetIndex

/-- The number of its bytes. -/
def width : IsoField → ℕ
  | flags | startFrame | urbHdrStatus | offset _ => 4
  | errorCount | length _ | status _ | numberOfPackets => 2

def toNat : ∀ f : IsoField, f.Val → ℕ
  | flags, v | startFrame, v | urbHdrStatus, v | offset _, v => UInt32.toNat v
  | errorCount, v | length _, v | status _, v => UInt16.toNat v
  | numberOfPackets, v => (Int16.toUInt16 v).toNat

def ofNat : ∀ f : IsoField, ℕ → f.Val
  | flags, n | startFrame, n | urbHdrStatus, n | offset _, n => UInt32.ofNat n
  | errorCount, n | length _, n | status _, n => UInt16.ofNat n
  | numberOfPackets, n => (UInt16.ofNat n).toInt16

/-- The field lies in a block of `size` bytes. -/
def Fits (size : ℕ) (f : IsoField) : Prop := 0 ≤ f.start ∧ f.start + f.width ≤ size

instance (size : ℕ) (f : IsoField) : Decidable (f.Fits size) :=
  inferInstanceAs (Decidable (_ ∧ _))

end IsoField

/-- The memory of a context.  An access outside of it fails. -/
def isoLayout : Layout IsoField.Val (List UInt8) where
  load f block :=
    if f.Fits block.length then
      some (f.ofNat (LittleEndian.load f.start.toNat f.width block))
    else none
  store f v block :=
    if f.Fits block.length then
      some (LittleEndian.store f.start.toNat f.width (f.toNat v) block)
    else none

/-- Code over the fields of a context. -/
abbrev IsoCode (α : Type) := Access IsoField.Val Empty α

/-! ### The functions -/

/-- The width of a `SIZE_T`. -/
inductive SizeT
  | bits32
  | bits64

/-- One more than the largest `SIZE_T`. -/
def SizeT.range : SizeT → ℕ
  | bits32 => 2 ^ 32
  | bits64 => 2 ^ 64

/-- `sizeof(KISO_CONTEXT) + sizeof(KISO_PACKET) * NumberOfPackets` -/
def SizeT.contextSize (sizeT : SizeT) (numberOfPackets : Int32) : ℕ :=
  ((16 + 8 * numberOfPackets.toInt) % sizeT.range).toNat

/-- The assignments of `IsoK_Init`. -/
def isoKInitCode (numberOfPackets startFrame : Int32) : IsoCode Unit := do
  put IsoField.numberOfPackets numberOfPackets.toInt16
  put IsoField.startFrame startFrame.toUInt32

/-- `IsoK_Init`, where the allocation succeeds: the block it returns, or `none` where it writes
outside of it. -/
def isoKInit (sizeT : SizeT) (numberOfPackets startFrame : Int32) : Option (List UInt8) :=
  ((isoKInitCode numberOfPackets startFrame).runIn isoLayout
    (List.replicate (sizeT.contextSize numberOfPackets) 0)).map Prod.snd

/-- The callback of `IsoK_EnumPackets`, with the user's state: what it leaves of the packet,
whether to go on, and the state. -/
abbrev IsoEnumCallback (U : Type) := ℤ → KisoPacket → U → KisoPacket × Bool × U

section Functions

variable {U : Type}

def loadIsoPacket (packetIndex : ℤ) : IsoCode KisoPacket := do
  let offset ← load (IsoField.offset packetIndex)
  let length ← load (IsoField.length packetIndex)
  let status ← load (IsoField.status packetIndex)
  return ⟨offset, length, status⟩

def storeIsoPacket (packetIndex : ℤ) (packet : KisoPacket) : IsoCode Unit := do
  put (IsoField.offset packetIndex) packet.offset
  put (IsoField.length packetIndex) packet.length
  put (IsoField.status packetIndex) packet.status

/-- `for (packetIndex; packetIndex < IsoContext->NumberOfPackets; packetIndex++)`, with a body
that says whether the loop goes on.  From an `INT` to a `SHORT` there are at most `2 ^ 32`
steps. -/
def packetLoop {α : Type} (body : ℤ → α → IsoCode (α × Bool)) : ℕ → ℤ → α → IsoCode α
  | 0, _, acc => return acc
  | fuel + 1, packetIndex, acc => do
    let numberOfPackets : Int16 ← load IsoField.numberOfPackets
    if packetIndex < numberOfPackets.toInt then
      let next ← body packetIndex acc
      if next.2 then packetLoop body fuel (packetIndex + 1) next.1
      else return next.1
    else return acc

/-- The loop of `IsoK_SetPackets`, over `nextOffSet`. -/
def setPacketsLoop (packetSize : UInt32) : IsoCode UInt32 :=
  packetLoop (fun packetIndex nextOffSet => do
    put (IsoField.offset packetIndex) nextOffSet
    return (nextOffSet + packetSize, true)) 0x100000000 0 0

/-- The loop of `IsoK_EnumPackets`. -/
def enumPacketsLoop (enumPackets : IsoEnumCallback U) (startPacketIndex : ℤ) (userState : U) :
    IsoCode U :=
  packetLoop (fun packetIndex userState => do
    let packet ← loadIsoPacket packetIndex
    let answer := enumPackets packetIndex packet userState
    storeIsoPacket packetIndex answer.1
    return (answer.2.2, answer.2.1)) 0x100000000 startPacketIndex userState

/-- The loop of `IsoK_ReUse`. -/
def reUseLoop : IsoCode Unit :=
  packetLoop (fun packetIndex _ => do
    put (IsoField.length packetIndex) 0
    put (IsoField.status packetIndex) 0
    return ((), true)) 0x100000000 0 ()

end Functions

/-! ### Transfers -/

/-- `KISO_FLAG_SET_START_FRAME` -/
def kisoFlagSetStartFrame (flags : UInt32) : Bool := flags &&& 1 ≠ 0

/-- What the driver reads of a context that nobody writes in the meantime. -/
def isoContextReads (numberOfPackets : Int16) (flags startFrame : UInt32)
    (offset : ℕ → UInt32) : IsoContextReads where
  zeroTest := numberOfPackets
  signTest := numberOfPackets
  highSpeedTest := numberOfPackets
  urbSize := numberOfPackets
  initUrb := numberOfPackets
  copyLoop _ := numberOfPackets
  offsetTested posPacket := (offset posPacket).toNat
  offsetAssigned posPacket := (offset posPacket).toNat
  setStartFrame := kisoFlagSetStartFrame flags
  hasStartFrame := kisoFlagSetStartFrame flags
  startFrame := startFrame

/-- `IsoContextSize` of `UsbK_IsoReadPipe` and `UsbK_IsoWritePipe`, which is a `ULONG`. -/
def isoContextSize (numberOfPackets : Int16) : ℕ :=
  ((16 + 8 * numberOfPackets.toInt) % 0x100000000).toNat

instance (contextRoom urbRoom : ℕ) :
    ∀ a : IsoAccess, Decidable (a.Inside contextRoom urbRoom)
  | .readContext _ | .writeUrb _ _ | .readUrb _ | .writeContext _ _ _ => Nat.decLt _ _

/-- The offsets of the packets of the URB that is sent. -/
def Served.sentOffsets (served : Served) : Option (List ℕ) :=
  served.effects.findSome? fun
    | .send _ (.urb urb) => some urb.offsets
    | _ => none

/-- The other arguments of a transfer, and what the framework answers. -/
structure IsoSubmission where
  /-- The memory of the context can be locked. -/
  locks : Bool
  fw : Framework
  dc : DeviceContext
  rc : RequestContext
  qc : QueueContext

/-- What the framework answers on completion, and the URB. -/
structure IsoCompletion where
  fw : Framework
  rc : RequestContext
  qc : QueueContext
  status : NTSTATUS
  urb : IsoExUrb

/-- `UsbK_IsoReadPipe` or `UsbK_IsoWritePipe` with a context, and `XferIsoEx`: the offsets of the
packets of the URB if it is sent, or `none` where it goes outside of the context, of the part of
it that has been locked, or of the URB, which has room for `NumberOfPackets` packets. -/
def isoSubmit (t : IsoSubmission) (block : List UInt8) : Option (Option (List ℕ)) := do
  let numberOfPackets : Int16 ← isoLayout.load .numberOfPackets block
  let flags : UInt32 ← isoLayout.load .flags block
  let startFrame : UInt32 ← isoLayout.load .startFrame block
  let size := isoContextSize numberOfPackets
  let reads := isoContextReads numberOfPackets flags startFrame fun posPacket =>
    (isoLayout.load (.offset posPacket) block).getD (0 : UInt32)
  let rc := { t.rc with isoContextSize := if t.locks then some size else none }
  let submission := xferIsoEx t.fw t.dc rc t.qc reads
  if ∀ a ∈ submission.2, a.Inside (min (isoContextRoom block.length) (isoContextRoom size))
      numberOfPackets.toInt.toNat then
    some submission.1.sentOffsets
  else none

/-- What `XferIsoExComplete` writes to the context. -/
def storeAccesses : List IsoAccess → IsoCode Unit
  | [] => return ()
  | .writeContext pos length status :: accesses => do
    put (IsoField.length pos) length
    put (IsoField.status pos) status
    storeAccesses accesses
  | _ :: accesses => storeAccesses accesses

/-- `XferIsoExComplete`, on the memory of the context. -/
def isoComplete (t : IsoCompletion) : IsoCode Unit := do
  let numberOfPackets : Int16 ← load IsoField.numberOfPackets
  let completed := xferIsoExComplete t.fw t.rc t.status t.urb (fun _ => numberOfPackets) t.qc
  match completed.header with
  | none => return ()
  | some header => do
    put IsoField.errorCount header.errorCount
    put IsoField.startFrame header.startFrame
    put IsoField.urbHdrStatus header.urbHdrStatus
    storeAccesses completed.accesses

/-- `XferIsoExComplete` goes to no packet outside of the part of the context that has been locked,
or of the URB. -/
def IsoCompletion.StaysInside (t : IsoCompletion) (numberOfPackets : Int16) : Prop :=
  ∀ a ∈ (xferIsoExComplete t.fw t.rc t.status t.urb (fun _ => numberOfPackets) t.qc).accesses,
    a.Inside (isoContextRoom (isoContextSize numberOfPackets)) numberOfPackets.toInt.toNat

instance (t : IsoCompletion) (numberOfPackets : Int16) :
    Decidable (t.StaysInside numberOfPackets) :=
  inferInstanceAs (Decidable (∀ a ∈ _, _))

/-! ### Calls -/

/-- A call of a function, or something else that reads or writes the fields of a context: the
application may assign `Flags` and `StartFrame` itself, and the driver completes a transfer. -/
inductive IsoFunction (U : Type)
  | setPackets (packetSize : Int32)
  | setPacket (packetIndex : ℤ) (packet : KisoPacket)
  | getPacket (packetIndex : ℤ)
  | enumPackets (enumPackets : IsoEnumCallback U) (startPacketIndex : ℤ) (userState : U)
  | reUse
  | assignFlags (flags : UInt32)
  | assignStartFrame (startFrame : UInt32)
  | complete (t : IsoCompletion)

/-- What it returns. -/
inductive IsoResult (U : Type)
  | failed
  | success
  | packet (packet : KisoPacket)
  | enumerated (userState : U)
  | submitted (offsets : Option (List ℕ))

section Calls

variable {U : Type}

def IsoFunction.code : IsoFunction U → IsoCode (IsoResult U)
  | setPackets packetSize => do
    let _ ← setPacketsLoop packetSize.toUInt32
    return .success
  | setPacket packetIndex packet => do
    let numberOfPackets : Int16 ← load IsoField.numberOfPackets
    if numberOfPackets.toInt ≤ packetIndex then return .failed
    else
      storeIsoPacket packetIndex packet
      return .success
  | getPacket packetIndex => do
    let numberOfPackets : Int16 ← load IsoField.numberOfPackets
    if numberOfPackets.toInt ≤ packetIndex then return .failed
    else
      let packet ← loadIsoPacket packetIndex
      return .packet packet
  | enumPackets cb startPacketIndex userState => do
    let numberOfPackets : Int16 ← load IsoField.numberOfPackets
    if numberOfPackets.toInt ≤ startPacketIndex then return .failed
    else
      let userState ← enumPacketsLoop cb startPacketIndex userState
      return .enumerated userState
  | reUse => do
    reUseLoop
    put IsoField.startFrame 0
    put IsoField.errorCount 0
    return .success
  | assignFlags flags => do
    put IsoField.flags flags
    return .success
  | assignStartFrame startFrame => do
    put IsoField.startFrame startFrame
    return .success
  | complete t => do
    isoComplete t
    return .success

/-- The driver, if the call is its own, stays inside. -/
def IsoFunction.staysInside (block : List UInt8) : IsoFunction U → Bool
  | complete t => (isoLayout.load .numberOfPackets block).all fun numberOfPackets =>
    decide (t.StaysInside numberOfPackets)
  | _ => true

/-- What is done with a context. -/
inductive IsoCall (U : Type)
  | function (f : IsoFunction U)
  | submit (t : IsoSubmission)

namespace IsoCall

/-- A call, in the memory of the context; `none` where it goes outside. -/
def run : IsoCall U → List UInt8 → Option (IsoResult U × List UInt8)
  | function f, block => if f.staysInside block then f.code.runIn isoLayout block else none
  | submit t, block => (isoSubmit t block).map fun offsets => (.submitted offsets, block)

/-- One call after the other, with what they return. -/
def runAll : List (IsoCall U) → List UInt8 → Option (List (IsoResult U) × List UInt8)
  | [], block => some ([], block)
  | call :: calls, block =>
    (call.run block).bind fun next =>
      (runAll calls next.2).map fun rest => (next.1 :: rest.1, rest.2)

end IsoCall

end Calls

/-! ### The memory of a context -/

namespace IsoField

/-- The field is in the header or in a packet with an index. -/
def Proper : IsoField → Prop
  | offset packetIndex | length packetIndex | status packetIndex => 0 ≤ packetIndex
  | _ => True

/-- The field lies in the block, and overlaps no other of this kind. -/
def Good (size : ℕ) (f : IsoField) : Prop := f.Fits size ∧ f.Proper

theorem toNat_lt (f : IsoField) (v : f.Val) : f.toNat v < 256 ^ f.width := by
  cases f with
  | flags | startFrame | urbHdrStatus | offset i => exact UInt32.toNat_lt v
  | errorCount | length i | status i => exact UInt16.toNat_lt v
  | numberOfPackets => exact (Int16.toUInt16 v).toNat_lt

theorem ofNat_toNat (f : IsoField) (v : f.Val) : f.ofNat (f.toNat v) = v := by
  cases f with
  | flags | startFrame | urbHdrStatus | offset i => exact UInt32.ofNat_toNat
  | errorCount | length i | status i => exact UInt16.ofNat_toNat
  | numberOfPackets =>
    show (UInt16.ofNat (Int16.toUInt16 v).toNat).toInt16 = v
    rw [UInt16.ofNat_toNat]
    exact Int16.toInt16_toUInt16 v

theorem disjoint_of_ne {f g : IsoField} (hf : f.Proper) (hg : g.Proper) (h : g ≠ f) :
    g.start + g.width ≤ f.start ∨ f.start + f.width ≤ g.start := by
  cases f <;> cases g <;> simp [start, width, Proper] at hf hg h ⊢ <;> omega

end IsoField

theorem separates_isoLayout (size : ℕ) :
    isoLayout.Separates (fun block => block.length = size) (IsoField.Good size) := by
  intro f v block hf hsize
  subst hsize
  obtain ⟨⟨hstart, hend⟩, hproper⟩ := hf
  have hfits : f.start.toNat + f.width ≤ block.length := by omega
  have hlength := LittleEndian.length_store (n := f.toNat v) hfits
  refine ⟨LittleEndian.store f.start.toNat f.width (f.toNat v) block, if_pos ⟨hstart, hend⟩,
    hlength, ?_, fun g hg hne => ?_⟩
  · show (if f.Fits _ then _ else none) = _
    rw [if_pos ⟨hstart, hlength ▸ hend⟩, LittleEndian.load_store_self hfits (f.toNat_lt v),
      f.ofNat_toNat]
  · show (if g.Fits _ then _ else none) = if g.Fits _ then _ else none
    rw [hlength, LittleEndian.load_store_of_disjoint hfits]
    have hdisjoint := IsoField.disjoint_of_ne hproper hg.2 hne
    obtain ⟨⟨hstart', -⟩, -⟩ := hg
    omega

end LibusbK
