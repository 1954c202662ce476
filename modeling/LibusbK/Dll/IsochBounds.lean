import LibusbK.Lib.Machine
import LibusbK.Dll.IsoContext

/-!
# The number of packets in use

An isochronous handle has `PacketCount` packets.  `IsochK_SetNumberOfPackets` refuses to put
more of them in use; `IsochK_Init` and the transfers of both backends assign the number as it
comes, and the libusbK driver keeps it as a `SHORT`.  The memory of the packets may be for
fewer: its size is computed with the width of a `SIZE_T`, and for WinUSB nobody looks whether
it was allocated.

## Main definitions

* `IsochCode.Below` — code stays at packets below a bound.
* `IsochOp.Fits` — a packet function names no packet beyond a bound.
* `IsochBackend` — the packets a backend allocates, and its transfers with the number each
  puts in use.
* `isochMachine` — calls on a handle.
* `IsochState.InRange` — no more packets are in use than there are, and none was touched
  beyond them.

## Main results

* `IsochOp.below_code_iff` — a packet function stays below a bound, if the packets in use do,
  exactly when it names no packet beyond it.
* `isoch_inRange_iff` — the packets stay in range exactly if no call puts more in use, or
  names one beyond them.
-/

namespace LibusbK

open Access

/-! ### The packets that code touches -/

namespace IsochCode

variable {F : PacketFormat} {α β : Type}

/-- The code reads or writes the packet. -/
def Touches (p : IsochCode F α) (s : F.Context) (index : ℕ) : Prop :=
  p.Exposes s (.packet index) ∨ p.Assigns s (.packet index)

/-- The code touches packets below the bound only. -/
def Below (bound : ℕ) (p : IsochCode F α) (s : F.Context) : Prop :=
  ∀ index, Touches p s index → index < bound

variable {bound : ℕ} {s : F.Context}

theorem below_pure (a : α) : Below bound (pure a : IsochCode F α) s :=
  fun _ h => h.elim False.elim False.elim

theorem below_loadNumber : Below bound (loadNumber : IsochCode F UInt32) s := by
  intro index h
  simp [Touches] at h

theorem below_storeNumber (n : UInt32) : Below bound (storeNumber n : IsochCode F Unit) s := by
  intro index h
  simp [Touches] at h

theorem below_loadPacket {index : ℕ} (h : index < bound) :
    Below bound (loadPacket index : IsochCode F PacketValues) s := by
  intro i hi
  simp only [Touches, loadPacket, load, read_bind, done_bind, pure_eq_done, Exposes, Assigns,
    or_false, IsochField.packet.injEq] at hi
  exact hi ▸ h

theorem below_storePacket {index : ℕ} (h : index < bound) (v : PacketValues) :
    Below bound (storePacket index v : IsochCode F Unit) s := by
  intro i hi
  simp only [Touches, storePacket, put, Exposes, Assigns, and_false, or_false, false_or,
    IsochField.packet.injEq] at hi
  exact hi ▸ h

theorem Below.bind {p : IsochCode F α} {k : α → IsochCode F β} (hp : Below bound p s)
    (hk : Below bound (k (p.result s)) (p.final s)) : Below bound (p >>= k) s := by
  intro index h
  simp only [Touches, exposes_bind, assigns_bind] at h
  rcases h with (h | ⟨-, h⟩) | (h | h)
  · exact hp index (.inl h)
  · exact hk index (.inl h)
  · exact hp index (.inr h)
  · exact hk index (.inr h)

theorem Below.mono {bound' : ℕ} {p : IsochCode F α} (h : Below bound p s) (hle : bound ≤ bound') :
    Below bound' p s :=
  fun index hi => Nat.lt_of_lt_of_le (h index hi) hle

end IsochCode

section Functions

open IsochCode

variable {F : PacketFormat} {U : Type} {packetCount : UInt32}

theorem setOffsetsFrom_below (packetSize : UInt32) (n : ℕ) :
    ∀ (packetIndex : ℕ) (nextOffSet : UInt32) (s : F.Context),
      Below (packetIndex + n) (setOffsetsFrom packetSize n packetIndex nextOffSet) s := by
  induction n with
  | zero => exact fun _ _ _ => below_pure ()
  | succ n ih =>
    intro packetIndex nextOffSet s
    refine .bind (below_storePacket (by omega) _) ?_
    have h := ih (packetIndex + 1) (nextOffSet + packetSize)
    rw [Nat.add_right_comm] at h
    exact h _

theorem setOffsetsFrom_inUse (packetSize : UInt32) (n : ℕ) :
    ∀ (packetIndex : ℕ) (nextOffSet : UInt32) (s : F.Context),
      F.inUse ((setOffsetsFrom packetSize n packetIndex nextOffSet).final s) = F.inUse s := by
  induction n with
  | zero => exact fun _ _ _ => rfl
  | succ n ih => exact fun _ _ _ => (ih _ _ _).trans (PacketFormat.inUse_update _ _)

/-- The loop leaves the number as it is, as the callback cannot change it. -/
theorem enumFrom_inUse (cb : EnumCallback U) (fuel : ℕ) :
    ∀ (index : ℕ) (userState : U) (s : F.Context),
      F.inUse ((enumFrom cb fuel index userState).final s) = F.inUse s := by
  induction fuel with
  | zero => exact fun _ _ _ => rfl
  | succ fuel ih =>
    intro index userState s
    rw [enumFrom_succ_final]
    split
    · split
      · rw [ih, PacketFormat.inUse_update]
      · rw [PacketFormat.inUse_update]
    · rfl

theorem enumFrom_below (cb : EnumCallback U) (fuel : ℕ) :
    ∀ (index : ℕ) (userState : U) (s : F.Context),
      Below (F.inUse s).toNat (enumFrom cb fuel index userState) s := by
  induction fuel with
  | zero => exact fun _ _ _ => below_pure _
  | succ fuel ih =>
    intro index userState s
    refine .bind below_loadNumber ?_
    show Below _ (if index < (F.inUse s).toNat then _ else _) s
    split
    next hlt =>
      -- the packet is below the number in use, which the callback cannot change
      refine .bind (below_loadPacket hlt) (.bind (below_storePacket hlt _) ?_)
      split
      · have h := ih (index + 1) (cb index (F.values s index) userState).2.2
          (Function.update s (.packet index)
            (F.write (cb index (F.values s index) userState).1))
        rw [PacketFormat.inUse_update] at h
        exact h
      · exact below_pure _
    next => exact below_pure _

/-- The loop of `IsochK_SetPacketOffsets` touches every packet it passes. -/
theorem touches_setOffsetsFrom (packetSize : UInt32) {index : ℕ} (n : ℕ) :
    ∀ (packetIndex : ℕ) (nextOffSet : UInt32) (s : F.Context), packetIndex ≤ index →
      index < packetIndex + n →
      IsochCode.Touches (setOffsetsFrom packetSize n packetIndex nextOffSet) s index := by
  induction n with
  | zero => exact fun packetIndex _ _ hle hlt => absurd hlt (Nat.not_lt.mpr hle)
  | succ n ih =>
    intro packetIndex nextOffSet s hle hlt
    unfold setOffsetsFrom IsochCode.Touches
    rw [exposes_bind, assigns_bind]
    rcases Nat.eq_or_lt_of_le hle with rfl | hlt'
    · exact .inr (.inl (.inl rfl))
    · -- the packet is not the one that is assigned first
      have hne : ¬(storePacket packetIndex ⟨nextOffSet, packetSize, 0⟩ :
          IsochCode F Unit).Assigns s (.packet index) := by
        simp only [storePacket, put, Assigns, or_false, IsochField.packet.injEq]
        omega
      rcases ih (packetIndex + 1) (nextOffSet + packetSize) _ hlt' (by omega) with h | h
      · exact .inl (.inr ⟨hne, h⟩)
      · exact .inr (.inr h)

/-- The packets that a packet function names, apart from those in use, are below the bound. -/
def IsochOp.Fits (packetCount : UInt32) (bound : ℕ) : IsochOp U → Prop
  | setPacketOffsets _ => packetCount.toNat ≤ bound
  | getPacket packetIndex => packetIndex < packetCount → packetIndex.toNat < bound
  | setPacket packetIndex _ => packetIndex < packetCount → packetIndex.toNat < bound
  | setNumberOfPackets _ => True
  | getNumberOfPackets => True
  | enumPackets .. => True

/-- **The packets that a packet function touches**: those it names, and those in use. -/
theorem IsochOp.below_code_iff (op : IsochOp U) {s : F.Context} {bound : ℕ}
    (h : (F.inUse s).toNat ≤ bound) :
    Below bound (op.code packetCount) s ↔ op.Fits packetCount bound := by
  cases op with
  | setPacketOffsets packetSize =>
    have hbelow := setOffsetsFrom_below packetSize packetCount.toNat 0 0 s
    rw [Nat.zero_add] at hbelow
    constructor
    · intro hall
      by_contra hnot
      -- the first packet beyond the bound is touched
      have htouches := touches_setOffsetsFrom packetSize packetCount.toNat 0 0 s
        (Nat.zero_le bound) (by rw [Nat.zero_add]; exact Nat.not_le.mp hnot)
      refine Nat.lt_irrefl bound (hall bound ?_)
      rw [IsochOp.code, IsochCode.Touches, exposes_bind, assigns_bind]
      exact htouches.imp .inl .inl
    · exact fun hle => .bind (hbelow.mono hle) (below_pure _)
  | getPacket packetIndex =>
    by_cases hlt : packetCount ≤ packetIndex
    · rw [IsochOp.code, if_pos hlt]
      exact iff_of_true (below_pure _) fun hnot => absurd hlt (UInt32.not_le.mpr hnot)
    · rw [IsochOp.code, if_neg hlt]
      refine ⟨fun hall _ => hall _ (.inl (.inl rfl)), fun hfits => ?_⟩
      exact .bind (below_loadPacket (hfits (UInt32.not_le.mp hlt))) (below_pure _)
  | setPacket packetIndex v =>
    by_cases hlt : packetCount ≤ packetIndex
    · rw [IsochOp.code, if_pos hlt]
      exact iff_of_true (below_pure _) fun hnot => absurd hlt (UInt32.not_le.mpr hnot)
    · rw [IsochOp.code, if_neg hlt]
      refine ⟨fun hall _ => hall _ (.inr (.inl rfl)), fun hfits => ?_⟩
      exact .bind (below_storePacket (hfits (UInt32.not_le.mp hlt)) v) (below_pure _)
  | setNumberOfPackets n =>
    refine iff_of_true ?_ trivial
    by_cases hlt : packetCount < n
    · rw [IsochOp.code, if_pos hlt]
      exact below_pure _
    · rw [IsochOp.code, if_neg hlt]
      exact .bind (below_storeNumber n) (below_pure _)
  | getNumberOfPackets => exact iff_of_true (.bind below_loadNumber (below_pure _)) trivial
  | enumPackets cb startPacketIndex userState =>
    refine iff_of_true ?_ trivial
    by_cases hlt : packetCount ≤ startPacketIndex
    · rw [IsochOp.code, if_pos hlt]
      exact below_pure _
    · rw [IsochOp.code, if_neg hlt]
      -- it ends at the number in use
      have hbelow := enumFrom_below cb UInt32.size startPacketIndex.toNat userState s
      exact .bind (hbelow.mono h) (below_pure _)

/-- The number that a packet function puts in use. -/
def IsochOp.number (packetCount : UInt32) : IsochOp U → Option UInt32
  | setNumberOfPackets n => if packetCount < n then none else some n
  | _ => none

end Functions

/-- The number in use after code that puts `number` in use. -/
def PacketFormat.inUseAfter {F : PacketFormat} (number : Option UInt32) (s : F.Context) : UInt32 :=
  number.elim (F.inUse s) fun n => F.readNumber (F.writeNumber n)

theorem IsochOp.code_inUse {F : PacketFormat} {U : Type} {packetCount : UInt32} (op : IsochOp U)
    (s : F.Context) :
    F.inUse ((op.code packetCount).final s) = F.inUseAfter (op.number packetCount) s := by
  cases op with
  | setPacketOffsets packetSize =>
    rw [IsochOp.code, final_bind]
    exact setOffsetsFrom_inUse packetSize _ 0 0 s
  | getPacket packetIndex => rw [getPacket_final]; rfl
  | setPacket packetIndex v =>
    by_cases hlt : packetCount ≤ packetIndex
    · rw [IsochOp.code, if_pos hlt]
      rfl
    · rw [IsochOp.code, if_neg hlt]
      exact PacketFormat.inUse_update _ _
  | setNumberOfPackets n =>
    by_cases hlt : packetCount < n
    · rw [IsochOp.code, IsochOp.number, if_pos hlt, if_pos hlt]
      rfl
    · rw [IsochOp.code, IsochOp.number, if_neg hlt, if_neg hlt]
      exact PacketFormat.inUse_update_number _
  | getNumberOfPackets => rfl
  | enumPackets cb startPacketIndex userState =>
    by_cases hlt : packetCount ≤ startPacketIndex
    · rw [IsochOp.code, if_pos hlt]
      rfl
    · rw [IsochOp.code, if_neg hlt]
      exact (congrArg F.inUse (final_bind _ _)).trans (enumFrom_inUse cb _ _ userState s)

/-! ### Transfers -/

section Transfers

open IsochCode

variable {F : PacketFormat}

/-- A transfer of `n` packets from `index` on: the driver reads each and completes it. -/
def transferFrom (completed : ℕ → PacketValues) : ℕ → ℕ → IsochCode F Unit
  | 0, _ => return ()
  | n + 1, index => do
    let _ ← loadPacket index
    storePacket index (completed index)
    transferFrom completed n (index + 1)

/-- The driver is called with the packets in use. -/
def transferInUse (completed : ℕ → PacketValues) (answer : Bool) : IsochCode F Bool := do
  let numberOfPackets ← loadNumber
  transferFrom completed numberOfPackets.toNat 0
  return answer

/-- `if (NumberOfPackets) … = NumberOfPackets` -/
def assignNumber (numberOfPackets : UInt32) : IsochCode F Unit :=
  if numberOfPackets = 0 then return () else storeNumber numberOfPackets

/-- The arguments of `UsbK_IsochReadPipe` and `UsbK_IsochWritePipe` that matter to the packets,
with what the driver does. -/
structure UsbKTransfer where
  numberOfPackets : UInt32
  /-- `Overlapped` is valid. -/
  overlapped : Bool
  completed : ℕ → PacketValues
  answer : Bool

/-- `UsbK_IsochReadPipe` and `UsbK_IsochWritePipe`, which differ in the request only. -/
def UsbKTransfer.code (t : UsbKTransfer) : IsochCode kisoFormat Bool :=
  if t.overlapped then do
    assignNumber t.numberOfPackets
    transferInUse t.completed t.answer
  else return false

/-- The arguments of `WUsb_IsochReadPipe` and `WUsb_IsochWritePipe`, with what WinUSB does. -/
structure WUsbTransfer where
  numberOfPackets : UInt32
  /-- No `FrameNumber`, or the pipe is `isoasap`. -/
  asap : Bool
  /-- `WinUsb.ReadIsochPipe` or `WinUsb.WriteIsochPipe` was found. -/
  isochPipe : Bool
  /-- `WinUsb.ReadIsochPipeAsap` or `WinUsb.WriteIsochPipeAsap` was found. -/
  isochPipeAsap : Bool
  completed : ℕ → PacketValues
  answer : Bool

/-- `WUsb_IsochReadPipe` -/
def WUsbTransfer.readCode (t : WUsbTransfer) : IsochCode usbdFormat Bool :=
  if t.isochPipe then do
    assignNumber t.numberOfPackets
    -- the number is assigned before the routine is looked for
    if t.asap then
      if t.isochPipeAsap then transferInUse t.completed t.answer else return false
    else transferInUse t.completed t.answer
  else return false

/-- `WUsb_IsochWritePipe`, which has no use for the packets. -/
def WUsbTransfer.writeCode (t : WUsbTransfer) : IsochCode usbdFormat Bool := do
  assignNumber t.numberOfPackets
  if t.asap then
    return t.isochPipeAsap && t.answer
  else return t.isochPipe && t.answer

/-! #### What they do to the number, and which packets they touch -/

theorem transferFrom_inUse (completed : ℕ → PacketValues) (n : ℕ) :
    ∀ (index : ℕ) (s : F.Context),
      F.inUse ((transferFrom completed n index).final s) = F.inUse s := by
  induction n with
  | zero => exact fun _ _ => rfl
  | succ n ih => exact fun _ _ => (ih _ _).trans (PacketFormat.inUse_update _ _)

theorem transferFrom_below (completed : ℕ → PacketValues) (n : ℕ) :
    ∀ (index : ℕ) (s : F.Context), Below (index + n) (transferFrom completed n index) s := by
  induction n with
  | zero => exact fun _ _ => below_pure ()
  | succ n ih =>
    intro index s
    have h := ih (index + 1)
    rw [Nat.add_right_comm] at h
    exact .bind (below_loadPacket (by omega)) (.bind (below_storePacket (by omega) _) (h _))

/-- The number that a transfer puts in use. -/
def numberAssigned (numberOfPackets : UInt32) : Option UInt32 :=
  if numberOfPackets = 0 then none else some numberOfPackets

theorem assignNumber_inUse (n : UInt32) (s : F.Context) :
    F.inUse ((assignNumber n).final s) = F.inUseAfter (numberAssigned n) s := by
  unfold assignNumber numberAssigned
  split
  · rfl
  · exact PacketFormat.inUse_update_number _

theorem assignNumber_below (n : UInt32) (s : F.Context) (bound : ℕ) :
    Below bound (assignNumber n) s := by
  unfold assignNumber
  split
  · exact below_pure ()
  · exact below_storeNumber n

theorem transferInUse_inUse (completed : ℕ → PacketValues) (answer : Bool) (s : F.Context) :
    F.inUse ((transferInUse completed answer).final s) = F.inUse s := by
  rw [transferInUse, final_bind, final_bind]
  exact transferFrom_inUse completed _ 0 s

theorem transferInUse_below (completed : ℕ → PacketValues) (answer : Bool) (s : F.Context) :
    Below (F.inUse s).toNat (transferInUse completed answer) s := by
  have h := transferFrom_below completed (F.inUse s).toNat 0 s
  rw [Nat.zero_add] at h
  exact .bind below_loadNumber (.bind h (below_pure _))

/-- The number is assigned, and the packets in use are given to the driver. -/
theorem assign_transfer (n : UInt32) (p : IsochCode F Bool) (s : F.Context)
    (hinUse : ∀ s, F.inUse (p.final s) = F.inUse s)
    (hbelow : ∀ s, Below (F.inUse s).toNat p s) :
    F.inUse ((assignNumber n >>= fun _ => p).final s) = F.inUseAfter (numberAssigned n) s ∧
      Below (F.inUseAfter (numberAssigned n) s).toNat (assignNumber n >>= fun _ => p) s := by
  constructor
  · rw [final_bind, hinUse, assignNumber_inUse]
  · refine .bind (assignNumber_below n s _) ?_
    rw [← assignNumber_inUse]
    exact hbelow _

/-- What a transfer does: it puts the number in use and touches the packets in use. -/
def TransferSpec (p : IsochCode F Bool) (number : Option UInt32) : Prop :=
  ∀ s, F.inUse (p.final s) = F.inUseAfter number s ∧ Below (F.inUseAfter number s).toNat p s

theorem transferSpec_refused : TransferSpec (return false : IsochCode F Bool) none :=
  fun _ => ⟨rfl, below_pure _⟩

theorem transferSpec_pure (n : UInt32) (answer : Bool) :
    TransferSpec (assignNumber n >>= fun _ => return answer : IsochCode F Bool)
      (numberAssigned n) :=
  fun s => assign_transfer n _ s (fun _ => rfl) fun _ => below_pure _

theorem transferSpec_inUse (n : UInt32) (completed : ℕ → PacketValues) (answer : Bool) :
    TransferSpec (assignNumber n >>= fun _ => transferInUse completed answer : IsochCode F Bool)
      (numberAssigned n) :=
  fun s => assign_transfer n _ s (transferInUse_inUse completed answer)
    (transferInUse_below completed answer)

theorem UsbKTransfer.code_spec (t : UsbKTransfer) :
    TransferSpec t.code (if t.overlapped then numberAssigned t.numberOfPackets else none) := by
  unfold UsbKTransfer.code
  split
  · exact transferSpec_inUse _ _ _
  · exact transferSpec_refused

theorem WUsbTransfer.readCode_spec (t : WUsbTransfer) :
    TransferSpec t.readCode (if t.isochPipe then numberAssigned t.numberOfPackets else none) := by
  unfold WUsbTransfer.readCode
  split
  · split
    · split
      · exact transferSpec_inUse _ _ _
      · exact transferSpec_pure _ _
    · exact transferSpec_inUse _ _ _
  · exact transferSpec_refused

theorem WUsbTransfer.writeCode_spec (t : WUsbTransfer) :
    TransferSpec t.writeCode (numberAssigned t.numberOfPackets) := by
  unfold WUsbTransfer.writeCode
  split
  · exact transferSpec_pure _ _
  · exact transferSpec_pure _ _

end Transfers

/-! ### Calls on a handle -/

/-- A backend: its format, the number of packets that it allocates, its transfers, and the
number that each puts in use. -/
structure IsochBackend where
  format : PacketFormat
  /-- The packets there is memory for, if `IsochK_Init` goes on; the heap gives the block it is
  asked for, or does not. -/
  allocate : SizeT → Bool → UInt32 → Option ℕ
  Transfer : Type
  code : Transfer → IsochCode format Bool
  number : Transfer → Option UInt32
  spec : ∀ t, TransferSpec (code t) (number t)
  start : ∀ n, format.inUse (format.start n) = shortToUInt n

/-- libusbK.  `IsoK_Init` gets the number as an `INT`, and fails without its memory. -/
def IsochBackend.libusbK : IsochBackend where
  format := kisoFormat
  allocate sizeT heap maxNumberOfPackets :=
    if heap then some ((sizeT.contextSize maxNumberOfPackets.toInt32 - 16) / 8) else none
  Transfer := UsbKTransfer
  code := UsbKTransfer.code
  number t := if t.overlapped then numberAssigned t.numberOfPackets else none
  spec := UsbKTransfer.code_spec
  start n := shortToUInt_idem n

/-- A transfer of WinUSB. -/
inductive WUsbIsochPipe
  | read (t : WUsbTransfer)
  | write (t : WUsbTransfer)

/-- Its code. -/
def WUsbIsochPipe.code : WUsbIsochPipe → IsochCode usbdFormat Bool
  | read t => t.readCode
  | write t => t.writeCode

/-- The number it puts in use. -/
def WUsbIsochPipe.number : WUsbIsochPipe → Option UInt32
  | read t => if t.isochPipe then numberAssigned t.numberOfPackets else none
  | write t => numberAssigned t.numberOfPackets

theorem WUsbIsochPipe.code_spec : ∀ t : WUsbIsochPipe, TransferSpec t.code t.number
  | read t => t.readCode_spec
  | write t => t.writeCode_spec

/-- WinUSB.  Nobody looks at what `Mem_Alloc` returns. -/
def IsochBackend.winUsb : IsochBackend where
  format := usbdFormat
  allocate sizeT heap maxNumberOfPackets :=
    some (if heap then maxNumberOfPackets.toNat * 12 % sizeT.range / 12 else 0)
  Transfer := WUsbIsochPipe
  code := WUsbIsochPipe.code
  number := WUsbIsochPipe.number
  spec := WUsbIsochPipe.code_spec
  start _ := rfl

/-- A handle, with the packets that the last call touched. -/
structure IsochState (F : PacketFormat) where
  packetCount : UInt32
  /-- The packets there is memory for. -/
  allocated : ℕ
  context : F.Context
  touched : ℕ → Prop

/-- The packets there are: `PacketCount` of them, as far as there is memory for them. -/
def IsochState.room {F : PacketFormat} (s : IsochState F) : ℕ :=
  min s.packetCount.toNat s.allocated

/-- `IsochK_Init`, where what it calls before the allocation succeeds. -/
def initIsochState (B : IsochBackend) (sizeT : SizeT) (heap : Bool)
    (maxNumberOfPackets : UInt32) : Option (IsochState B.format) :=
  if maxNumberOfPackets ≤ 0 then none
  else (B.allocate sizeT heap maxNumberOfPackets).map fun allocated =>
    ⟨maxNumberOfPackets, allocated, B.format.start maxNumberOfPackets, fun _ => False⟩

/-- A call. -/
inductive IsochCall (B : IsochBackend) (U : Type)
  | packets (op : IsochOp U)
  | transfer (t : B.Transfer)

section Calls

open IsochCode

variable {B : IsochBackend} {U : Type}

/-- The handle after code. -/
def IsochState.after {F : PacketFormat} {α : Type} (s : IsochState F) (p : IsochCode F α) :
    IsochState F :=
  ⟨s.packetCount, s.allocated, p.final s.context, Touches p s.context⟩

/-- Calls on a handle. -/
def isochMachine (B : IsochBackend) (U : Type) :
    Machine (IsochState B.format) (IsochCall B U) where
  step s
    | .packets op => some (s.after (op.code s.packetCount))
    | .transfer t => some (s.after (B.code t))

/-- **The packets are in range**: those in use and those touched are packets there are. -/
structure IsochState.InRange {F : PacketFormat} (s : IsochState F) : Prop where
  inUse : (F.inUse s.context).toNat ≤ s.room
  touched : ∀ index, s.touched index → index < s.room

/-- The number that a call puts in use. -/
def IsochCall.number (packetCount : UInt32) : IsochCall B U → Option UInt32
  | packets op => op.number packetCount
  | transfer t => B.number t

/-- The packets that a call names are below the bound. -/
def IsochCall.Fits (packetCount : UInt32) (bound : ℕ) : IsochCall B U → Prop
  | packets op => op.Fits packetCount bound
  | transfer _ => True

/-- The number that a call puts in use, as the backend keeps it, is at most that of the packets
there are, and so are the packets it names. -/
def CallsInRange (s : IsochState B.format) (c : IsochCall B U) : Prop :=
  (∀ n ∈ c.number s.packetCount,
      (B.format.readNumber (B.format.writeNumber n)).toNat ≤ s.room) ∧
    c.Fits s.packetCount s.room

theorem inUseAfter_le {F : PacketFormat} {number : Option UInt32} {s : F.Context} {room : ℕ}
    (hs : (F.inUse s).toNat ≤ room)
    (h : ∀ n ∈ number, (F.readNumber (F.writeNumber n)).toNat ≤ room) :
    (F.inUseAfter number s).toNat ≤ room := by
  cases number with
  | none => exact hs
  | some n => exact h n rfl

variable {s t : IsochState B.format} {c : IsochCall B U}

theorem isochMachine_step (h : (isochMachine B U).step s c = some t) :
    t.packetCount = s.packetCount ∧ t.room = s.room ∧
      B.format.inUse t.context = B.format.inUseAfter (c.number s.packetCount) s.context := by
  cases c with
  | packets op =>
    cases h
    exact ⟨rfl, rfl, op.code_inUse s.context⟩
  | transfer tr =>
    cases h
    exact ⟨rfl, rfl, (B.spec tr s.context).1⟩

theorem IsochState.InRange.step (hs : s.InRange) (hok : CallsInRange s c)
    (h : (isochMachine B U).step s c = some t) : t.InRange := by
  obtain ⟨-, hroom, hinUse⟩ := isochMachine_step h
  have hle := inUseAfter_le hs.inUse hok.1
  refine ⟨by rw [hroom, hinUse]; exact hle, ?_⟩
  rw [hroom]
  -- a packet function touches packets that it names or that are in use, a transfer the latter
  cases c with
  | packets op =>
    cases h
    exact (op.below_code_iff hs.inUse).mpr hok.2
  | transfer tr =>
    cases h
    exact (B.spec tr s.context).2.mono hle

theorem CallsInRange.of_inRange (hs : s.InRange) (h : (isochMachine B U).step s c = some t)
    (ht : t.InRange) : CallsInRange s c := by
  obtain ⟨-, hroom, hinUse⟩ := isochMachine_step h
  constructor
  · intro n hn
    have hle := ht.inUse
    rw [hroom, hinUse, Option.mem_def.mp hn] at hle
    exact hle
  · cases c with
    | packets op =>
      have htouched := ht.touched
      rw [hroom] at htouched
      cases h
      exact (op.below_code_iff hs.inUse).mp htouched
    | transfer tr => trivial

/-- **Where the packets stay in range.**  From `IsochK_Init` on they do exactly if the number
it puts in use, a `SHORT`, is that of packets there are, and no call puts more packets in use or
names one beyond them. -/
theorem isoch_inRange_iff {sizeT : SizeT} {heap : Bool} {maxNumberOfPackets : UInt32}
    (h : initIsochState B sizeT heap maxNumberOfPackets = some s) (calls : List (IsochCall B U)) :
    (isochMachine B U).Always IsochState.InRange s calls ↔
      (shortToUInt maxNumberOfPackets).toNat ≤ s.room ∧
        (isochMachine B U).Throughout CallsInRange s calls := by
  have hstart : s.InRange ↔ (shortToUInt maxNumberOfPackets).toNat ≤ s.room := by
    unfold initIsochState at h
    split at h
    · cases h
    · obtain ⟨allocated, -, rfl⟩ := Option.map_eq_some_iff.mp h
      -- the number is in use as a `SHORT` from the start
      refine ⟨fun hs => B.start _ ▸ hs.inUse, fun hle => ⟨?_, fun _ hi => hi.elim⟩⟩
      rw [B.start]
      exact hle
  have hiff (hs : s.InRange) : (isochMachine B U).Always IsochState.InRange s calls ↔
      (isochMachine B U).Throughout CallsInRange s calls :=
    Machine.always_iff_throughout (I := IsochState.InRange) (fun _ hs => hs)
      (fun _ _ _ hs hok hstep => hs.step hok hstep)
      (fun _ _ _ hs hstep ht => CallsInRange.of_inRange hs hstep ht) hs
  constructor
  · intro halways
    have hs := halways.start
    exact ⟨hstart.mp hs, (hiff hs).mp halways⟩
  · rintro ⟨hle, hok⟩
    exact (hiff (hstart.mpr hle)).mpr hok

end Calls

/-- Two packets, all in use, with their offsets set, and then a transfer of one. -/
theorem isoch_inRange_two :
    (isochMachine .libusbK Unit).Always IsochState.InRange
      ⟨2, 2, kisoFormat.start 2, fun _ => False⟩
      [.packets (.setNumberOfPackets 2), .packets (.setPacketOffsets 64),
        .transfer ⟨1, true, fun _ => ⟨0, 0, 0⟩, true⟩] := by
  have hinit : initIsochState .libusbK .bits64 true 2 =
      some ⟨2, 2, kisoFormat.start 2, fun _ => False⟩ := rfl
  refine (isoch_inRange_iff hinit _).mpr ⟨by decide, ?_⟩
  intro t ht
  cases ht
  refine ⟨⟨fun n hn => ?_, trivial⟩, fun u hu => ⟨⟨fun n hn => ?_, ?_⟩, fun v hv =>
    ⟨⟨fun n hn => ?_, trivial⟩, trivial⟩⟩⟩
  · cases hn
    show (shortToUInt 2).toNat ≤ 2
    decide
  · cases hn
  · exact Nat.le_refl 2
  · cases hu
    cases hv
    cases hn
    show (shortToUInt 1).toNat ≤ 2
    decide

/-- One packet, and a transfer of two on either backend; 32768 packets, which are in use as
a negative `SHORT` from the start; more packets than a 32-bit `SIZE_T` has the size of, and
the second of them; and a packet of WinUSB that was not allocated. -/
theorem not_inRange_transferOfTwo :
    (∃ s, initIsochState .libusbK .bits64 true 1 = some s ∧
      ¬(isochMachine .libusbK Unit).Always IsochState.InRange s
        [.transfer ⟨2, true, fun _ => ⟨0, 0, 0⟩, true⟩]) ∧
      (∃ s, initIsochState .winUsb .bits64 true 1 = some s ∧
        ¬(isochMachine .winUsb Unit).Always IsochState.InRange s
          [.transfer (.read ⟨2, false, true, true, fun _ => ⟨0, 0, 0⟩, true⟩)]) ∧
      (∃ s, initIsochState .libusbK .bits64 true 0x8000 = some s ∧
        ¬(isochMachine .libusbK Unit).Always IsochState.InRange s []) ∧
      (∃ s, initIsochState .libusbK .bits32 true 0x20000001 = some s ∧
        ¬(isochMachine .libusbK Unit).Always IsochState.InRange s [.packets (.getPacket 1)]) ∧
      ∃ s, initIsochState .winUsb .bits64 false 1 = some s ∧
        ¬(isochMachine .winUsb Unit).Always IsochState.InRange s [] := by
  refine ⟨⟨_, rfl, fun h => ?_⟩, ⟨_, rfl, fun h => ?_⟩, ⟨_, rfl, fun h => ?_⟩,
    ⟨_, rfl, fun h => ?_⟩, ⟨_, rfl, fun h => ?_⟩⟩
  · have hle := (h.2 _ rfl).inUse
    exact absurd hle (by decide)
  · have hle := (h.2 _ rfl).inUse
    exact absurd hle (by decide)
  · have hle := h.inUse
    exact absurd hle (by decide)
  · have hlt := (h.2 _ rfl).touched 1 (.inl (.inl rfl))
    exact absurd hlt (by decide)
  · have hle := h.inUse
    exact absurd hle (by decide)

end LibusbK
