import LibusbK.Lib.Access
import Mathlib.Data.Nat.Notation

/-!
# Packets of isochronous handles

The packet functions of `lusbk_usb_isoch.c`.  Each of them branches on the driver, and the
branches differ in the array they work on: `KISO_PACKET` of the libusbK driver keeps the
length and the status as a `USHORT` and the number of packets as a `SHORT`, the descriptors
of WinUSB keep all of them as a `ULONG`.  So a function is given once, over a format.

## Main definitions

* `PacketFormat`, `kisoFormat`, `usbdFormat` — how an array keeps packets.
* `IsochOp.code` — the functions.
* `SamePackets` — the contexts of both backends hold the same.

## Main results

* `isochPackets_same` — a packet reads back as the format keeps it, and the backends agree
  on what both formats can keep.
-/

namespace LibusbK

open Access

/-- The values of a packet, as the functions take and return them. -/
structure PacketValues where
  offset : UInt32
  length : UInt32
  status : UInt32
  deriving DecidableEq, Repr

/-- `KISO_PACKET`. -/
structure KisoPacket where
  offset : UInt32
  length : UInt16
  status : UInt16
  deriving DecidableEq, Repr

/-- `USBD_ISO_PACKET_DESCRIPTOR`. -/
structure UsbdIsoPacketDescriptor where
  offset : UInt32
  length : UInt32
  status : UInt32
  deriving DecidableEq, Repr

/-- `(UINT)(SHORT)` -/
def shortToUInt (n : UInt32) : UInt32 := n.toUInt16.toInt16.toInt32.toUInt32

/-- How a backend keeps packets and their number. -/
structure PacketFormat where
  Packet : Type
  read : Packet → PacketValues
  write : PacketValues → Packet
  Number : Type
  readNumber : Number → UInt32
  writeNumber : UInt32 → Number

/-- `KISO_CONTEXT`. -/
def kisoFormat : PacketFormat where
  Packet := KisoPacket
  read p := ⟨p.offset, p.length.toUInt32, p.status.toUInt32⟩
  write v := ⟨v.offset, v.length.toUInt16, v.status.toUInt16⟩
  Number := Int16
  readNumber n := n.toInt32.toUInt32
  writeNumber n := n.toUInt16.toInt16

/-- `WINUSB_ISO_CONTEXT`. -/
def usbdFormat : PacketFormat where
  Packet := UsbdIsoPacketDescriptor
  read p := ⟨p.offset, p.length, p.status⟩
  write v := ⟨v.offset, v.length, v.status⟩
  Number := UInt32
  readNumber := id
  writeNumber := id

/-- The fields of the context. -/
inductive IsochField
  | numberOfPackets
  | packet (index : ℕ)
  deriving DecidableEq, Repr

namespace PacketFormat

variable (F : PacketFormat)

/-- What a field holds. -/
abbrev Val : IsochField → Type
  | .numberOfPackets => F.Number
  | .packet _ => F.Packet

/-- A context, with the memory behind its packets. -/
abbrev Context : Type := ∀ f, F.Val f

/-- The values come back as they were stored. -/
def Stores (v : PacketValues) : Prop := F.read (F.write v) = v

variable {F} (s : F.Context)

/-- The values of a packet. -/
def values (index : ℕ) : PacketValues := F.read (s (.packet index))

/-- The number of packets in use. -/
def inUse : UInt32 := F.readNumber (s .numberOfPackets)

end PacketFormat

/-- Code of the packet functions. -/
abbrev IsochCode (F : PacketFormat) (α : Type) := Access F.Val Empty α

namespace IsochCode

variable {F : PacketFormat}

@[simp] def loadPacket (index : ℕ) : IsochCode F PacketValues := do
  let p ← load (IsochField.packet index)
  return F.read p

@[simp] def storePacket (index : ℕ) (v : PacketValues) : IsochCode F Unit :=
  put (IsochField.packet index) (F.write v)

@[simp] def loadNumber : IsochCode F UInt32 := do
  let n ← load IsochField.numberOfPackets
  return F.readNumber n

@[simp] def storeNumber (n : UInt32) : IsochCode F Unit :=
  put IsochField.numberOfPackets (F.writeNumber n)

end IsochCode

/-! ### The functions -/

/-- `KISOCH_ENUM_PACKETS_CB`, with the user's state: what it writes to the values, whether to
go on, and the state. -/
abbrev EnumCallback (U : Type) := ℕ → PacketValues → U → PacketValues × Bool × U

section Functions

variable {F : PacketFormat} {U : Type} (packetCount : UInt32)

open IsochCode

/-- The loop of `IsochK_SetPacketOffsets`, for `n` packets from `packetIndex` on. -/
def setOffsetsFrom (packetSize : UInt32) : ℕ → ℕ → UInt32 → IsochCode F Unit
  | 0, _, _ => return ()
  | n + 1, packetIndex, nextOffSet => do
    storePacket packetIndex ⟨nextOffSet, packetSize, 0⟩
    setOffsetsFrom packetSize n (packetIndex + 1) (nextOffSet + packetSize)

/-- The loop of `IsochK_EnumPackets`.  A `UINT` has at most `fuel` steps to go. -/
def enumFrom (enumPackets : EnumCallback U) : ℕ → ℕ → U → IsochCode F U
  | 0, _, userState => return userState
  | fuel + 1, index, userState => do
    let numberOfPackets ← loadNumber
    if index < numberOfPackets.toNat then
      let v ← loadPacket index
      let r := enumPackets index v userState
      -- the values of the callback are stored before its answer is looked at
      storePacket index r.1
      if r.2.1 then enumFrom enumPackets fuel (index + 1) r.2.2
      else return r.2.2
    else return userState

end Functions

/-- A call of a packet function.  The pointers to which `IsochK_GetPacket` stores are given. -/
inductive IsochOp (U : Type)
  | setPacketOffsets (packetSize : UInt32)
  | getPacket (packetIndex : UInt32)
  | setPacket (packetIndex : UInt32) (v : PacketValues)
  | setNumberOfPackets (numberOfPackets : UInt32)
  | getNumberOfPackets
  | enumPackets (enumPackets : EnumCallback U) (startPacketIndex : UInt32) (userState : U)

/-- What it returns. -/
inductive IsochResult (U : Type)
  | failed
  | success
  | packet (v : PacketValues)
  | numberOfPackets (n : UInt32)
  | enumerated (userState : U)
  deriving DecidableEq, Repr

open IsochCode in
/-- The functions, on a handle with a reference. -/
def IsochOp.code {F : PacketFormat} {U : Type} (packetCount : UInt32) :
    IsochOp U → IsochCode F (IsochResult U)
  | setPacketOffsets packetSize => do
    setOffsetsFrom packetSize packetCount.toNat 0 0
    return .success
  | getPacket packetIndex => do
    if packetCount ≤ packetIndex then return .failed
    else
      let v ← loadPacket packetIndex.toNat
      return .packet v
  | setPacket packetIndex v => do
    if packetCount ≤ packetIndex then return .failed
    else
      storePacket packetIndex.toNat v
      return .success
  | setNumberOfPackets numberOfPackets => do
    -- the number of packets there are may all be in use
    if packetCount < numberOfPackets then return .failed
    else
      storeNumber numberOfPackets
      return .success
  | getNumberOfPackets => do
    let n ← loadNumber
    return .numberOfPackets n
  | enumPackets cb startPacketIndex userState => do
    if packetCount ≤ startPacketIndex then return .failed
    else
      let userState ← enumFrom cb UInt32.size startPacketIndex.toNat userState
      return .enumerated userState

/-! ### What a format keeps -/

/-- The values that a `KISO_PACKET` can keep. -/
structure PacketValues.Narrow (v : PacketValues) : Prop where
  length : v.length < 0x10000
  status : v.status < 0x10000

theorem toUInt32_lt_of_uint16 (x : UInt16) : x.toUInt32 < 0x10000 := by
  rw [UInt32.lt_iff_toNat_lt, UInt16.toNat_toUInt32]
  exact x.toNat_lt

theorem toUInt32_toUInt16_of_lt {x : UInt32} (h : x < 0x10000) : x.toUInt16.toUInt32 = x := by
  rw [UInt32.toUInt32_toUInt16]
  exact UInt32.mod_eq_of_lt h

/-- A `SHORT` with a clear top bit is the number that was cast to it. -/
theorem shortToUInt_of_lt {n : UInt32} (h : n < 0x8000) : shortToUInt n = n := by
  have hlt : n.toBitVec.toNat < 0x8000 := UInt32.lt_iff_toNat_lt.mp h
  have hmsb : (n.toBitVec.setWidth 16).msb = false := by
    rw [BitVec.msb_eq_false_iff_two_mul_lt, BitVec.toNat_setWidth]
    omega
  apply UInt32.toBitVec_inj.mp
  show (n.toBitVec.setWidth 16).signExtend 32 = n.toBitVec
  rw [BitVec.signExtend_eq_setWidth_of_msb_false hmsb]
  apply BitVec.eq_of_toNat_eq
  rw [BitVec.toNat_setWidth, BitVec.toNat_setWidth]
  omega

theorem half_lt {x : UInt32} (h : x < 0x10000) : x / 2 < 0x10000 := by
  rw [UInt32.lt_iff_toNat_lt] at h ⊢
  rw [UInt32.toNat_div]
  exact Nat.lt_of_le_of_lt (Nat.div_le_self _ _) h

theorem toInt16_toUInt32 (m : Int16) : m.toInt32.toUInt32.toUInt16.toInt16 = m := by
  apply Int16.toBitVec_inj.mp
  show (m.toBitVec.signExtend 32).setWidth 16 = m.toBitVec
  rw [← BitVec.signExtend_eq_setWidth_of_le _ (by decide)]
  exact congrArg Int16.toBitVec (Int16.toInt16_toInt32 m)

theorem shortToUInt_idem (n : UInt32) : shortToUInt (shortToUInt n) = shortToUInt n :=
  congrArg (fun m : Int16 => m.toInt32.toUInt32) (toInt16_toUInt32 _)

theorem kisoFormat_stores {v : PacketValues} : kisoFormat.Stores v ↔ v.Narrow := by
  constructor
  · intro h
    have hlength : v.length.toUInt16.toUInt32 = v.length := congrArg PacketValues.length h
    have hstatus : v.status.toUInt16.toUInt32 = v.status := congrArg PacketValues.status h
    exact ⟨hlength ▸ toUInt32_lt_of_uint16 _, hstatus ▸ toUInt32_lt_of_uint16 _⟩
  · intro h
    show PacketValues.mk v.offset v.length.toUInt16.toUInt32 v.status.toUInt16.toUInt32 = v
    rw [toUInt32_toUInt16_of_lt h.length, toUInt32_toUInt16_of_lt h.status]

theorem narrow_values (s : kisoFormat.Context) (index : ℕ) :
    (kisoFormat.values s index).Narrow :=
  ⟨toUInt32_lt_of_uint16 _, toUInt32_lt_of_uint16 _⟩

/-! ### Setting a packet and getting it -/

section GetSet

variable {F : PacketFormat} {U : Type} {packetCount packetIndex : UInt32} {v : PacketValues}
  {s : F.Context}

theorem setPacket_final (h : packetIndex < packetCount) :
    ((IsochOp.setPacket packetIndex v : IsochOp U).code packetCount).final s =
      Function.update s (.packet packetIndex.toNat) (F.write v) := by
  simp [IsochOp.code, UInt32.not_le.mpr h]

theorem getPacket_result (h : packetIndex < packetCount) :
    ((IsochOp.getPacket packetIndex : IsochOp U).code packetCount).result s =
      .packet (F.values s packetIndex.toNat) := by
  simp [IsochOp.code, UInt32.not_le.mpr h, PacketFormat.values]

@[simp] theorem PacketFormat.values_update_self (index : ℕ) (p : F.Packet) :
    F.values (Function.update s (.packet index) p) index = F.read p := by
  simp [PacketFormat.values]

@[simp] theorem PacketFormat.values_update_of_ne {index index' : ℕ} (h : index' ≠ index)
    (p : F.Packet) : F.values (Function.update s (.packet index) p) index' = F.values s index' := by
  simp [PacketFormat.values, h]

@[simp] theorem PacketFormat.inUse_update (index : ℕ) (p : F.Packet) :
    F.inUse (Function.update s (.packet index) p) = F.inUse s := by
  simp [PacketFormat.inUse]

/-- The other packets are as they were. -/
theorem getPacket_result_update_of_ne {index : UInt32} (h : index ≠ packetIndex) (p : F.Packet) :
    ((IsochOp.getPacket index : IsochOp U).code packetCount).result
        (Function.update s (.packet packetIndex.toNat) p) =
      ((IsochOp.getPacket index : IsochOp U).code packetCount).result s := by
  -- an index that is refused reads no packet
  by_cases hlt : index < packetCount
  · have hne : index.toNat ≠ packetIndex.toNat := fun heq => h (UInt32.toNat_inj.mp heq)
    rw [getPacket_result hlt, getPacket_result hlt, PacketFormat.values_update_of_ne hne]
  · simp only [IsochOp.code, if_pos (UInt32.not_lt.mp hlt)]
    rfl

end GetSet

/-! ### The calls, field by field -/

section Calls

variable {F : PacketFormat} {U : Type} {packetCount packetIndex : UInt32} {v : PacketValues}
  {s : F.Context}

theorem setPacket_result (h : packetIndex < packetCount) :
    ((IsochOp.setPacket packetIndex v : IsochOp U).code packetCount).result s = .success := by
  simp [IsochOp.code, UInt32.not_le.mpr h]

theorem getPacket_final :
    ((IsochOp.getPacket packetIndex : IsochOp U).code packetCount).final s = s := by
  by_cases h : packetCount ≤ packetIndex <;> simp [IsochOp.code, h]

@[simp] theorem PacketFormat.values_update_number (index : ℕ) (n : F.Number) :
    F.values (Function.update s .numberOfPackets n) index = F.values s index := by
  simp [PacketFormat.values]

@[simp] theorem PacketFormat.inUse_update_number (n : F.Number) :
    F.inUse (Function.update s .numberOfPackets n) = F.readNumber n := by
  simp [PacketFormat.inUse]

variable {cb : EnumCallback U} {fuel index : ℕ} {userState : U}

theorem enumFrom_succ_result : (enumFrom cb (fuel + 1) index userState).result s =
    if index < (F.inUse s).toNat then
      if (cb index (F.values s index) userState).2.1 then
        (enumFrom cb fuel (index + 1) (cb index (F.values s index) userState).2.2).result
          (Function.update s (.packet index)
            (F.write (cb index (F.values s index) userState).1))
      else (cb index (F.values s index) userState).2.2
    else userState := by
  simp [enumFrom, PacketFormat.values, PacketFormat.inUse]
  rfl

theorem enumFrom_succ_final : (enumFrom cb (fuel + 1) index userState).final s =
    if index < (F.inUse s).toNat then
      if (cb index (F.values s index) userState).2.1 then
        (enumFrom cb fuel (index + 1) (cb index (F.values s index) userState).2.2).final
          (Function.update s (.packet index)
            (F.write (cb index (F.values s index) userState).1))
      else Function.update s (.packet index)
        (F.write (cb index (F.values s index) userState).1)
    else s := by
  simp [enumFrom, PacketFormat.values, PacketFormat.inUse]
  rfl

end Calls

/-! ### Two backends -/

/-- Both contexts hold the same packets, of which no more are in use than there are. -/
structure SamePackets (packetCount : UInt32) (s : kisoFormat.Context) (t : usbdFormat.Context) :
    Prop where
  values : ∀ index < packetCount.toNat, kisoFormat.values s index = usbdFormat.values t index
  inUse : kisoFormat.inUse s = usbdFormat.inUse t
  le : usbdFormat.inUse t ≤ packetCount

/-- The values that the call stores can be kept by both backends. -/
def IsochOp.Narrow {U : Type} : IsochOp U → Prop
  | setPacketOffsets packetSize => packetSize < 0x10000
  | setPacket _ v => v.Narrow
  | setNumberOfPackets numberOfPackets => numberOfPackets < 0x8000
  | enumPackets cb _ _ => ∀ index v userState, v.Narrow → (cb index v userState).1.Narrow
  | _ => True

/-- The results of calls, one after the other. -/
def isochRun {F : PacketFormat} {U : Type} (packetCount : UInt32) :
    List (IsochOp U) → IsochCode F (List (IsochResult U))
  | [] => return []
  | op :: ops => do
    let r ← op.code packetCount
    let rs ← isochRun packetCount ops
    return r :: rs

section Backends

variable {U : Type} {packetCount : UInt32} {s : kisoFormat.Context} {t : usbdFormat.Context}

/-- A packet is stored that both can keep. -/
theorem SamePackets.store (h : SamePackets packetCount s t) {v : PacketValues} (hv : v.Narrow)
    (index : ℕ) : SamePackets packetCount
      (Function.update s (.packet index) (kisoFormat.write v))
      (Function.update t (.packet index) (usbdFormat.write v)) := by
  refine ⟨fun index' hlt => ?_, ?_, ?_⟩
  · by_cases heq : index' = index
    · subst heq
      rw [PacketFormat.values_update_self, PacketFormat.values_update_self]
      exact kisoFormat_stores.mpr hv
    · rw [PacketFormat.values_update_of_ne heq, PacketFormat.values_update_of_ne heq]
      exact h.values index' hlt
  · rw [PacketFormat.inUse_update, PacketFormat.inUse_update]
    exact h.inUse
  · rw [PacketFormat.inUse_update]
    exact h.le

theorem SamePackets.setOffsetsFrom {packetSize : UInt32} (hsize : packetSize < 0x10000) (n : ℕ) :
    ∀ {s t} (packetIndex : ℕ) (nextOffSet : UInt32), SamePackets packetCount s t →
      SamePackets packetCount
        ((LibusbK.setOffsetsFrom packetSize n packetIndex nextOffSet).final s)
        ((LibusbK.setOffsetsFrom packetSize n packetIndex nextOffSet).final t) := by
  induction n with
  | zero => exact fun _ _ h => h
  | succ n ih =>
    intro s t packetIndex nextOffSet h
    have hv : PacketValues.Narrow ⟨nextOffSet, packetSize, 0⟩ :=
      ⟨hsize, show (0 : UInt32) < 0x10000 by decide⟩
    exact ih _ _ (h.store hv packetIndex)

/-- The loop of the enumeration on both. -/
theorem SamePackets.enumFrom {cb : EnumCallback U}
    (hcb : ∀ index v userState, v.Narrow → (cb index v userState).1.Narrow) (fuel : ℕ) :
    ∀ {s t} (index : ℕ) (userState : U), SamePackets packetCount s t →
      (LibusbK.enumFrom cb fuel index userState).result s =
          (LibusbK.enumFrom cb fuel index userState).result t ∧
        SamePackets packetCount ((LibusbK.enumFrom cb fuel index userState).final s)
          ((LibusbK.enumFrom cb fuel index userState).final t) := by
  induction fuel with
  | zero => exact fun _ _ h => ⟨rfl, h⟩
  | succ fuel ih =>
    intro s t index userState h
    rw [enumFrom_succ_result, enumFrom_succ_result, enumFrom_succ_final, enumFrom_succ_final,
      h.inUse]
    by_cases hlt : index < (usbdFormat.inUse t).toNat
    · -- The packet is one of the array's, as no more are in use than there are.
      have hcount : index < packetCount.toNat :=
        Nat.lt_of_lt_of_le hlt (UInt32.le_iff_toNat_le.mp h.le)
      have hnarrow := hcb index _ userState (narrow_values s index)
      rw [if_pos hlt, if_pos hlt, if_pos hlt, if_pos hlt, ← h.values index hcount]
      split
      · exact ih _ _ (h.store hnarrow index)
      · exact ⟨rfl, h.store hnarrow index⟩
    · rw [if_neg hlt, if_neg hlt, if_neg hlt, if_neg hlt]
      exact ⟨rfl, h⟩

/-- A number is stored that both can keep. -/
theorem SamePackets.storeNumber (h : SamePackets packetCount s t) {n : UInt32} (hn : n < 0x8000)
    (hle : n ≤ packetCount) : SamePackets packetCount
      (Function.update s .numberOfPackets (kisoFormat.writeNumber n))
      (Function.update t .numberOfPackets (usbdFormat.writeNumber n)) := by
  refine ⟨fun index hlt => ?_, ?_, ?_⟩
  · rw [PacketFormat.values_update_number, PacketFormat.values_update_number]
    exact h.values index hlt
  · rw [PacketFormat.inUse_update_number, PacketFormat.inUse_update_number]
    exact shortToUInt_of_lt hn
  · rw [PacketFormat.inUse_update_number]
    exact hle

/-- **A call does the same on both backends**, if both can keep what it stores. -/
theorem SamePackets.code (h : SamePackets packetCount s t) {op : IsochOp U} (hop : op.Narrow) :
    (op.code packetCount).result s = (op.code packetCount).result t ∧
      SamePackets packetCount ((op.code packetCount).final s)
        ((op.code packetCount).final t) := by
  -- each function refuses the same calls on both, and stores what both can keep
  cases op with
  | setPacketOffsets packetSize =>
    simp only [IsochOp.code, result_bind, final_bind]
    exact ⟨rfl, SamePackets.setOffsetsFrom hop _ 0 0 h⟩
  | getPacket packetIndex =>
    by_cases hlt : packetIndex < packetCount
    · have hvalues := h.values _ (UInt32.lt_iff_toNat_lt.mp hlt)
      rw [getPacket_result hlt, getPacket_result hlt, hvalues, getPacket_final, getPacket_final]
      exact ⟨rfl, h⟩
    · simp only [IsochOp.code, if_pos (UInt32.not_lt.mp hlt)]
      exact ⟨rfl, h⟩
  | setPacket packetIndex v =>
    by_cases hlt : packetIndex < packetCount
    · rw [setPacket_result hlt, setPacket_result hlt, setPacket_final hlt, setPacket_final hlt]
      exact ⟨rfl, h.store hop _⟩
    · simp only [IsochOp.code, if_pos (UInt32.not_lt.mp hlt)]
      exact ⟨rfl, h⟩
  | setNumberOfPackets n =>
    by_cases hlt : packetCount < n
    · simp only [IsochOp.code, if_pos hlt]
      exact ⟨rfl, h⟩
    · simp only [IsochOp.code, if_neg hlt]
      exact ⟨rfl, h.storeNumber hop (UInt32.not_lt.mp hlt)⟩
  | getNumberOfPackets =>
    exact ⟨congrArg IsochResult.numberOfPackets h.inUse, h⟩
  | enumPackets cb startPacketIndex userState =>
    by_cases hlt : startPacketIndex < packetCount
    · simp only [IsochOp.code, if_neg (UInt32.not_le.mpr hlt), result_bind, final_bind]
      obtain ⟨hresult, hsame⟩ :=
        SamePackets.enumFrom hop UInt32.size startPacketIndex.toNat userState h
      exact ⟨congrArg IsochResult.enumerated hresult, hsame⟩
    · simp only [IsochOp.code, if_pos (UInt32.not_lt.mp hlt)]
      exact ⟨rfl, h⟩

/-- **Runs do the same on both backends**. -/
theorem SamePackets.isochRun {ops : List (IsochOp U)} (hops : ∀ op ∈ ops, op.Narrow) :
    ∀ {s t}, SamePackets packetCount s t →
      (LibusbK.isochRun packetCount ops).result s =
        (LibusbK.isochRun packetCount ops).result t := by
  induction ops with
  | nil => exact fun _ => rfl
  | cons op ops ih =>
    intro s t h
    obtain ⟨hop, hops⟩ := List.forall_mem_cons.mp hops
    obtain ⟨hresult, hsame⟩ := h.code hop
    simp only [LibusbK.isochRun, result_bind, pure_eq_done, result]
    rw [hresult, ih hops hsame]

end Backends

/-! ### The backends agree -/

/-- What `IsochK_Init` leaves in a context for that many packets. -/
def PacketFormat.start (F : PacketFormat) (maxNumberOfPackets : UInt32) : F.Context
  | .numberOfPackets => F.writeNumber (shortToUInt maxNumberOfPackets)
  | .packet _ => F.write ⟨0, 0, 0⟩

/-- Handles start with the same packets, if their number is not negative as a `SHORT`. -/
theorem samePackets_start {maxNumberOfPackets : UInt32}
    (h : shortToUInt maxNumberOfPackets ≤ maxNumberOfPackets) :
    SamePackets maxNumberOfPackets (kisoFormat.start maxNumberOfPackets)
      (usbdFormat.start maxNumberOfPackets) where
  values _ _ := rfl
  inUse := by
    show (shortToUInt maxNumberOfPackets).toUInt16.toInt16.toInt32.toUInt32 =
      shortToUInt maxNumberOfPackets
    exact shortToUInt_idem maxNumberOfPackets
  le := h

/-- **Packets on both backends.**  A packet that was set reads back as the format keeps it,
which is as it was set on WinUSB and with 16 bits of the length and the status on libusbK, and
the other packets stay as they are.  Calls have the same results on both, if no more packets
are in use than there are, and both can keep what the calls store. -/
theorem isochPackets_same {U : Type} (packetCount : UInt32) :
    (∀ (F : PacketFormat) (s : F.Context) (packetIndex : UInt32) (v : PacketValues),
      packetIndex < packetCount →
        let t := ((IsochOp.setPacket packetIndex v : IsochOp U).code packetCount).final s
        ((IsochOp.getPacket packetIndex : IsochOp U).code packetCount).result t =
            .packet (F.read (F.write v)) ∧
          ∀ index ≠ packetIndex,
            ((IsochOp.getPacket index : IsochOp U).code packetCount).result t =
              ((IsochOp.getPacket index : IsochOp U).code packetCount).result s) ∧
      (∀ v : PacketValues,
        kisoFormat.read (kisoFormat.write v) = ⟨v.offset, v.length % 65536, v.status % 65536⟩ ∧
          usbdFormat.read (usbdFormat.write v) = v) ∧
      ∀ (s : kisoFormat.Context) (t : usbdFormat.Context), SamePackets packetCount s t →
        ∀ ops : List (IsochOp U), (∀ op ∈ ops, op.Narrow) →
          (isochRun packetCount ops).result s = (isochRun packetCount ops).result t := by
  refine ⟨fun F s packetIndex v h => ⟨?_, fun index hne => ?_⟩, fun v => ⟨rfl, rfl⟩,
    fun s t h ops hops => h.isochRun hops⟩
  · rw [setPacket_final h, getPacket_result h, PacketFormat.values_update_self]
  · rw [setPacket_final h]
    exact getPacket_result_update_of_ne hne _

theorem isochPackets_same_two :
    let halve : EnumCallback ℕ := fun _ v n => (⟨v.offset, v.length / 2, v.status⟩, true, n + 1)
    let ops : List (IsochOp ℕ) :=
      [.setPacketOffsets 512, .setPacket 1 ⟨7, 100, 3⟩, .enumPackets halve 0 0, .getPacket 1]
    (isochRun 2 ops).result (kisoFormat.start 2) =
      (isochRun 2 ops).result (usbdFormat.start 2) := by
  intro halve ops
  have hstart : shortToUInt 2 ≤ 2 := by decide
  have hops : ∀ op ∈ ops, op.Narrow := by
    intro op hop
    simp only [ops, List.mem_cons, List.not_mem_nil, or_false] at hop
    rcases hop with rfl | rfl | rfl | rfl
    · show (512 : UInt32) < 0x10000
      decide
    · exact ⟨by decide, by decide⟩
    -- half a length of 16 bits has 16 bits
    · exact fun _ _ _ hv => ⟨half_lt hv.length, hv.status⟩
    · trivial
  exact (isochPackets_same 2).2.2 _ _ (samePackets_start hstart) ops hops

/-- A length of 65536 reads back as it was set on WinUSB, and as zero on libusbK. -/
theorem not_isochPackets_same_wideLength :
    let ops : List (IsochOp Unit) := [.setPacket 0 ⟨0, 65536, 0⟩, .getPacket 0]
    (isochRun 1 ops).result (kisoFormat.start 1) = [.success, .packet ⟨0, 0, 0⟩] ∧
      (isochRun 1 ops).result (usbdFormat.start 1) = [.success, .packet ⟨0, 65536, 0⟩] :=
  ⟨rfl, rfl⟩

end LibusbK
