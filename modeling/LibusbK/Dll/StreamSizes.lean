import Mathlib.Data.List.Pairwise
import Mathlib.Data.Nat.Notation
import Mathlib.Tactic.Linarith

/-!
# Sizes of streams

`StmK_Init` takes the size of a transfer and the numbers of transfers and of requests as `INT`
and computes the sizes of its memory from them; `Stm_Thread_Alloc_Ovl` does so when the stream
thread starts.  Products of two `INT` wrap as the compiler's do.

## Main definitions

* `StmPlatform` — the sizes that differ between builds.
* `StmSizesInit.run`, `stmThreadAllocOvl` — the functions.
* `StmBuffers.Sound`, `OvlArrays.Sound` — the memory holds what it is for.
* `StmPlatform.Fits` — the sizes fit their types.

## Main results

* `StmSizesInit.run_cases` — what `StmK_Init` makes.
* `stmSizes_sound_iff` — its memory is sound exactly if transfers are not empty and the sizes
  fit.
-/

namespace LibusbK

/-! ### Memory -/

/-- What differs between builds: the number of values of a `size_t`, and the sizes of
`KSTM_XFER_INTERNAL` and `HANDLE`. -/
structure StmPlatform where
  sizeT : ℕ
  sizeofXferInternal : ℕ
  sizeofHandle : ℕ
  le_sizeT : 0x80000000 ≤ sizeT

theorem le_sizeT_x86 : 0x80000000 ≤ 0x100000000 := by decide

theorem le_sizeT_x64 : 0x80000000 ≤ 0x10000000000000000 := by decide

def StmPlatform.x86 : StmPlatform := ⟨0x100000000, 48, 4, le_sizeT_x86⟩

def StmPlatform.x64 : StmPlatform := ⟨0x10000000000000000, 88, 8, le_sizeT_x64⟩

/-- A block of `HeapAlloc`. -/
structure HeapBlock where
  base : ℤ
  size : ℕ
  deriving DecidableEq, Repr

namespace StmPlatform

variable (P : StmPlatform)

/-- A conversion to `size_t`. -/
def toSize (z : ℤ) : ℕ := (z % P.sizeT).toNat

/-- `Stm_Alloc`, which gives a block of the size, or fails. -/
def stmAlloc (answer : Option ℤ) (size : ℤ) : Option HeapBlock :=
  answer.map fun base => ⟨base, P.toSize size⟩

end StmPlatform

/-! ### The functions -/

/-- The `Buffer` and the `BufferSize` of a transfer. -/
structure XferBuffer where
  buffer : ℤ
  bufferSize : Int32
  deriving DecidableEq, Repr

/-- Where the buffer ends. -/
def XferBuffer.stop (x : XferBuffer) : ℤ := x.buffer + x.bufferSize.toInt

/-- What `StmK_Init` leaves: the sizes of `KSTM_INFO`, the transfers and their memory. -/
structure StmBuffers where
  maxTransferSize : Int32
  maxPendingTransfers : Int32
  maxPendingIo : Int32
  xferItems : HeapBlock
  bufferMemory : HeapBlock
  xfers : List XferBuffer
  deriving DecidableEq, Repr

/-- The arguments of `StmK_Init`, and the answers it gets. -/
structure StmSizesInit where
  pipeID : UInt8
  maxTransferSize : Int32
  maxPendingTransfers : Int32
  maxPendingIo : Int32
  useTimeout : Bool
  /-- `wMaxPacketSize`, if the selected interface has the endpoint. -/
  endpoint : Option UInt16
  acquire : Bool
  heapCreate : Bool
  allocInfo : Bool
  allocUserCB : Bool
  allocXferItems : Option ℤ
  allocBuffers : Option ℤ
  createSemaphore : Bool
  incUsbK : Bool

namespace StmSizesInit

variable (P : StmPlatform) (a : StmSizesInit)

/-- The tests of the arguments. -/
def accepts : Bool :=
  a.pipeID &&& 0x8F != 0 && !decide (a.maxPendingIo.toInt < 1) &&
    !decide (a.maxPendingTransfers.toInt < a.maxPendingIo.toInt) &&
    match a.endpoint with
    | none => false
    | some wMaxPacketSize =>
      wMaxPacketSize != 0 && !decide (0 < a.maxTransferSize.toInt.tmod wMaxPacketSize.toNat)

/-- `&bufferMemory[xferIndex * MaxTransferSize]`, and the size. -/
def xfer (bufferMemory : HeapBlock) (xferIndex : ℕ) : XferBuffer :=
  ⟨bufferMemory.base + (Int32.ofNat xferIndex * a.maxTransferSize).toInt, a.maxTransferSize⟩

/-- `StmK_Init`. -/
def run : Option StmBuffers := do
  guard a.accepts
  guard a.acquire
  guard a.heapCreate
  guard a.allocInfo
  guard a.allocUserCB
  let xferItems ← P.stmAlloc a.allocXferItems
    (P.sizeofXferInternal * a.maxPendingTransfers.toInt)
  -- the product of two `INT` is converted, not the product of two sizes
  let bufferMemory ← P.stmAlloc a.allocBuffers (a.maxTransferSize * a.maxPendingTransfers).toInt
  guard (!a.useTimeout || a.createSemaphore)
  guard a.incUsbK
  return {
    maxTransferSize := a.maxTransferSize
    maxPendingTransfers := a.maxPendingTransfers
    maxPendingIo := a.maxPendingIo
    xferItems, bufferMemory
    xfers := (List.range a.maxPendingTransfers.toInt.toNat).map (a.xfer bufferMemory) }

end StmSizesInit

/-- What `Stm_Thread_Alloc_Ovl` leaves. -/
structure OvlArrays where
  ovlEvents : HeapBlock
  /-- The events that were stored. -/
  events : List ℤ
  ovlList : List HeapBlock
  deriving DecidableEq, Repr

/-- The loop of `Stm_Thread_Alloc_Ovl`, for `n` more requests. -/
def allocOvlFrom (createEvent : ℕ → ℤ) (allocOvl : ℕ → Option HeapBlock) :
    ℕ → ℕ → OvlArrays → Option OvlArrays
  | 0, _, o => some o
  | n + 1, pos, o => do
    let o := { o with events := o.events ++ [createEvent pos] }
    let ovlNext ← allocOvl pos
    allocOvlFrom createEvent allocOvl n (pos + 1) { o with ovlList := o.ovlList ++ [ovlNext] }

/-- `Stm_Thread_Alloc_Ovl`; `none` is its failure. -/
def stmThreadAllocOvl (P : StmPlatform) (r : StmBuffers) (allocEvents : Option ℤ)
    (createEvent : ℕ → ℤ) (allocOvl : ℕ → Option HeapBlock) : Option OvlArrays := do
  let ovlEvents ← P.stmAlloc allocEvents (P.sizeofHandle * r.maxPendingIo.toInt)
  allocOvlFrom createEvent allocOvl r.maxPendingIo.toInt.toNat 0 ⟨ovlEvents, [], []⟩

/-! ### What the memory is for -/

/-- **The memory of a stream is sound.** -/
structure StmBuffers.Sound (P : StmPlatform) (r : StmBuffers) : Prop where
  length : (r.xfers.length : ℤ) = r.maxPendingTransfers.toInt
  holds : P.sizeofXferInternal * r.maxPendingTransfers.toInt ≤ r.xferItems.size
  pos : ∀ x ∈ r.xfers, 0 < x.bufferSize.toInt
  inside : ∀ x ∈ r.xfers, r.bufferMemory.base ≤ x.buffer ∧
    x.stop ≤ r.bufferMemory.base + r.bufferMemory.size
  disjoint : r.xfers.Pairwise fun x y => x.stop ≤ y.buffer ∨ y.stop ≤ x.buffer
  /-- The size of the buffers is the product of two `INT`. -/
  noWrap : (r.maxTransferSize * r.maxPendingTransfers).toInt =
    r.maxTransferSize.toInt * r.maxPendingTransfers.toInt

/-- The arrays hold the requests. -/
structure OvlArrays.Sound (P : StmPlatform) (r : StmBuffers) (o : OvlArrays) : Prop where
  holds : P.sizeofHandle * r.maxPendingIo.toInt ≤ o.ovlEvents.size
  events : (o.events.length : ℤ) = r.maxPendingIo.toInt
  ovlList : (o.ovlList.length : ℤ) = r.maxPendingIo.toInt

/-- Transfers are not empty, and the sizes fit: an `INT` for the buffers, a `size_t` for the
arrays. -/
structure StmPlatform.Fits (P : StmPlatform) (a : StmSizesInit) : Prop where
  pos : 0 < a.maxTransferSize.toInt
  buffers : a.maxTransferSize.toInt * a.maxPendingTransfers.toInt < 0x80000000
  xferItems : P.sizeofXferInternal * a.maxPendingTransfers.toInt < P.sizeT
  ovlEvents : P.sizeofHandle * a.maxPendingIo.toInt < P.sizeT

/-! ### Products that do not wrap -/

theorem Int32.toInt_mul_of_lt {x y : Int32} (h0 : 0 ≤ x.toInt * y.toInt)
    (hlt : x.toInt * y.toInt < 0x80000000) : (x * y).toInt = x.toInt * y.toInt := by
  rw [Int32.toInt_mul]
  exact Int.bmod_eq_of_le (by omega) (by omega)

namespace StmPlatform

variable (P : StmPlatform)

theorem toSize_of_lt {z : ℤ} (h0 : 0 ≤ z) (hlt : z < P.sizeT) : (P.toSize z : ℤ) = z := by
  unfold toSize
  rw [Int.emod_eq_of_lt h0 hlt, Int.toNat_of_nonneg h0]

/-- A size is at least what it was computed from exactly if it has not wrapped. -/
theorem le_toSize_iff {z : ℤ} (h0 : 0 ≤ z) : z ≤ P.toSize z ↔ z < P.sizeT := by
  have hle := P.le_sizeT
  constructor
  · intro h
    -- a size that has wrapped is below `sizeT`, and so below what it was computed from
    have hlt : z % P.sizeT < P.sizeT := Int.emod_lt_of_pos _ (by omega)
    unfold toSize at h
    omega
  · intro h
    rw [P.toSize_of_lt h0 h]

end StmPlatform

/-! ### What the functions make -/

namespace StmSizesInit

variable {P : StmPlatform} {a : StmSizesInit} {r : StmBuffers}

theorem one_le_of_accepts (h : a.accepts = true) :
    1 ≤ a.maxPendingIo.toInt ∧ a.maxPendingIo.toInt ≤ a.maxPendingTransfers.toInt := by
  simp only [accepts, Bool.and_eq_true, Bool.not_eq_true', decide_eq_false_iff_not] at h
  obtain ⟨⟨⟨-, hio⟩, htransfers⟩, -⟩ := h
  omega

/-- **What `StmK_Init` makes**, if it succeeds. -/
theorem run_cases (h : a.run P = some r) : a.accepts = true ∧ ∃ xferItems bufferMemory,
    r = {
      maxTransferSize := a.maxTransferSize
      maxPendingTransfers := a.maxPendingTransfers
      maxPendingIo := a.maxPendingIo
      xferItems := ⟨xferItems, P.toSize (P.sizeofXferInternal * a.maxPendingTransfers.toInt)⟩
      bufferMemory :=
        ⟨bufferMemory, P.toSize (a.maxTransferSize * a.maxPendingTransfers).toInt⟩
      xfers := (List.range a.maxPendingTransfers.toInt.toNat).map (a.xfer ⟨bufferMemory,
        P.toSize (a.maxTransferSize * a.maxPendingTransfers).toInt⟩) } := by
  simp only [run, StmPlatform.stmAlloc, Option.bind_eq_bind, Option.bind_eq_some_iff,
    Option.guard_eq_some', Option.map_eq_some_iff] at h
  obtain ⟨-, haccepts, -, -, -, -, -, -, -, -, -, ⟨xferItems, -, rfl⟩, -, ⟨bufferMemory, -, rfl⟩,
    -, -, -, -, hr⟩ := h
  exact ⟨haccepts, xferItems, bufferMemory, (Option.some.inj hr).symm⟩

end StmSizesInit

theorem allocOvlFrom_cases {createEvent : ℕ → ℤ} {allocOvl : ℕ → Option HeapBlock} {n : ℕ} :
    ∀ {pos : ℕ} {o o' : OvlArrays}, allocOvlFrom createEvent allocOvl n pos o = some o' →
      o'.ovlEvents = o.ovlEvents ∧ o'.events.length = o.events.length + n ∧
        o'.ovlList.length = o.ovlList.length + n := by
  induction n with
  | zero =>
    intro pos o o' h
    cases h
    exact ⟨rfl, rfl, rfl⟩
  | succ n ih =>
    intro pos o o' h
    simp only [allocOvlFrom, Option.bind_eq_bind, Option.bind_eq_some_iff] at h
    obtain ⟨ovlNext, -, h⟩ := h
    obtain ⟨hblock, hevents, hlist⟩ := ih h
    rw [List.length_append, List.length_singleton] at hevents hlist
    exact ⟨hblock, by omega, by omega⟩

theorem exists_allocOvlFrom (n : ℕ) : ∀ (pos : ℕ) (o : OvlArrays),
    ∃ o', allocOvlFrom (fun _ => 0) (fun _ => some ⟨0, 0⟩) n pos o = some o' := by
  induction n with
  | zero => exact fun _ o => ⟨o, rfl⟩
  | succ n ih => exact fun pos o => ih (pos + 1) _

/-- The thread can get all the memory it asks for. -/
theorem exists_stmThreadAllocOvl (P : StmPlatform) (r : StmBuffers) :
    ∃ (allocEvents : Option ℤ) (createEvent : ℕ → ℤ) (allocOvl : ℕ → Option HeapBlock)
      (o : OvlArrays), stmThreadAllocOvl P r allocEvents createEvent allocOvl = some o := by
  obtain ⟨o, ho⟩ := exists_allocOvlFrom r.maxPendingIo.toInt.toNat 0
    ⟨⟨0, P.toSize (P.sizeofHandle * r.maxPendingIo.toInt)⟩, [], []⟩
  exact ⟨some 0, _, _, o, ho⟩

/-- The arrays are sound exactly if the size of the first fits. -/
theorem stmThreadAllocOvl_sound_iff {P : StmPlatform} {r : StmBuffers} {allocEvents : Option ℤ}
    {createEvent : ℕ → ℤ} {allocOvl : ℕ → Option HeapBlock} {o : OvlArrays}
    (h : stmThreadAllocOvl P r allocEvents createEvent allocOvl = some o)
    (hio : 0 ≤ r.maxPendingIo.toInt) :
    o.Sound P r ↔ P.sizeofHandle * r.maxPendingIo.toInt < P.sizeT := by
  simp only [stmThreadAllocOvl, StmPlatform.stmAlloc, Option.bind_eq_bind, Option.bind_eq_some_iff,
    Option.map_eq_some_iff] at h
  obtain ⟨-, ⟨base, -, rfl⟩, h⟩ := h
  obtain ⟨hblock, hevents, hlist⟩ := allocOvlFrom_cases h
  have hiff := P.le_toSize_iff (Int.mul_nonneg (Int.natCast_nonneg P.sizeofHandle) hio)
  rw [← hiff]
  constructor
  · intro hsound
    have hholds := hsound.holds
    rw [hblock] at hholds
    exact hholds
  · intro hholds
    refine ⟨by rw [hblock]; exact hholds, ?_, ?_⟩
    · rw [hevents, List.length_nil]
      omega
    · rw [hlist, List.length_nil]
      omega

/-! ### Where the memory is sound -/

section Sound

variable {P : StmPlatform} {a : StmSizesInit} {r : StmBuffers}

/-- The buffer of a transfer is at its place. -/
theorem StmSizesInit.xfer_eq (h : P.Fits a) (bufferMemory : HeapBlock) {i : ℕ}
    (hi : i < a.maxPendingTransfers.toInt.toNat) :
    a.xfer bufferMemory i =
      ⟨bufferMemory.base + i * a.maxTransferSize.toInt, a.maxTransferSize⟩ := by
  have hpos := h.pos
  have hbuffers := h.buffers
  have hlt := a.maxPendingTransfers.toInt_lt
  -- neither the index nor its product with the size of a transfer wraps
  have hindex : (Int32.ofNat i).toInt = i := Int32.toInt_ofNat_of_lt (by omega)
  have hle : i * a.maxTransferSize.toInt ≤
      a.maxTransferSize.toInt * a.maxPendingTransfers.toInt := by
    rw [Int.mul_comm]
    exact Int.mul_le_mul_of_nonneg_left (by omega) (by omega)
  have h0 : 0 ≤ i * a.maxTransferSize.toInt := Int.mul_nonneg (by omega) (by omega)
  unfold StmSizesInit.xfer
  rw [Int32.toInt_mul_of_lt (by rw [hindex]; exact h0) (by rw [hindex]; omega), hindex]

theorem StmBuffers.sound_of_fits (hr : a.run P = some r) (h : P.Fits a) : r.Sound P := by
  obtain ⟨haccepts, xferItems, bufferMemory, rfl⟩ := StmSizesInit.run_cases hr
  obtain ⟨hio, htransfers⟩ := StmSizesInit.one_le_of_accepts haccepts
  have hpos := h.pos
  have hbuffers := h.buffers
  have hproduct : 0 ≤ a.maxTransferSize.toInt * a.maxPendingTransfers.toInt :=
    Int.mul_nonneg (by omega) (by omega)
  have hnoWrap := Int32.toInt_mul_of_lt hproduct hbuffers
  have hsize : (P.toSize (a.maxTransferSize * a.maxPendingTransfers).toInt : ℤ) =
      a.maxTransferSize.toInt * a.maxPendingTransfers.toInt := by
    have hle := P.le_sizeT
    rw [hnoWrap]
    exact P.toSize_of_lt hproduct (by omega)
  -- The products of the places of two transfers.
  have hplace {i : ℕ} {n : ℤ} (hin : (i : ℤ) < n) :
      i * a.maxTransferSize.toInt + a.maxTransferSize.toInt ≤ n * a.maxTransferSize.toInt := by
    have hle : ((i : ℤ) + 1) * a.maxTransferSize.toInt ≤ n * a.maxTransferSize.toInt :=
      Int.mul_le_mul_of_nonneg_right hin (by omega)
    rw [Int.add_mul, Int.one_mul] at hle
    exact hle
  refine ⟨?_, ?_, ?_, ?_, ?_, hnoWrap⟩
  · simp only [List.length_map, List.length_range]
    omega
  · have h0 : 0 ≤ (P.sizeofXferInternal : ℤ) * a.maxPendingTransfers.toInt :=
      Int.mul_nonneg (Int.natCast_nonneg _) (by omega)
    exact (P.le_toSize_iff h0).mpr h.xferItems
  · intro x hx
    obtain ⟨i, hi, rfl⟩ := List.mem_map.mp hx
    exact hpos
  · intro x hx
    obtain ⟨i, hi, rfl⟩ := List.mem_map.mp hx
    rw [List.mem_range] at hi
    have h0 : 0 ≤ i * a.maxTransferSize.toInt := Int.mul_nonneg (by omega) (by omega)
    have hstop := hplace (i := i) (n := a.maxPendingTransfers.toInt) (by omega)
    rw [StmSizesInit.xfer_eq h _ hi]
    unfold XferBuffer.stop
    dsimp only
    rw [hsize, Int.mul_comm a.maxTransferSize.toInt a.maxPendingTransfers.toInt]
    exact ⟨by omega, by omega⟩
  · dsimp only
    rw [List.pairwise_map]
    -- of two transfers the one before ends where the next begins, or earlier
    refine List.pairwise_lt_range.imp_of_mem fun hi hj hij => .inl ?_
    rw [List.mem_range] at hi hj
    have hstop := hplace (Int.ofNat_lt.mpr hij)
    rw [StmSizesInit.xfer_eq h _ hi, StmSizesInit.xfer_eq h _ hj]
    unfold XferBuffer.stop
    dsimp only
    omega

theorem StmPlatform.fits_of_sound (hr : a.run P = some r) (h : r.Sound P)
    (hovl : ∀ (allocEvents : Option ℤ) (createEvent : ℕ → ℤ) (allocOvl : ℕ → Option HeapBlock)
      (o : OvlArrays), stmThreadAllocOvl P r allocEvents createEvent allocOvl = some o →
        o.Sound P r) : P.Fits a := by
  obtain ⟨allocEvents, createEvent, allocOvl, o, ho⟩ := exists_stmThreadAllocOvl P r
  have hsound := hovl allocEvents createEvent allocOvl o ho
  obtain ⟨haccepts, xferItems, bufferMemory, rfl⟩ := StmSizesInit.run_cases hr
  obtain ⟨hio, htransfers⟩ := StmSizesInit.one_le_of_accepts haccepts
  -- there is a first transfer, whose size is that of all
  refine ⟨?_, ?_, ?_, ?_⟩
  · refine h.pos (a.xfer _ 0) (List.mem_map_of_mem ?_)
    rw [List.mem_range]
    omega
  · have hlt := (a.maxTransferSize * a.maxPendingTransfers).toInt_lt
    rw [h.noWrap] at hlt
    exact hlt
  · have h0 : 0 ≤ (P.sizeofXferInternal : ℤ) * a.maxPendingTransfers.toInt :=
      Int.mul_nonneg (Int.natCast_nonneg _) (by omega)
    exact (P.le_toSize_iff h0).mp h.holds
  · have h0 : 0 ≤ a.maxPendingIo.toInt := by omega
    exact (stmThreadAllocOvl_sound_iff ho h0).mp hsound

/-- **Where the memory of a stream is sound.**  The buffers of the transfers lie in their block
side by side, and the arrays hold what they are for, exactly if transfers are not empty and the
sizes fit their types. -/
theorem stmSizes_sound_iff (hr : a.run P = some r) :
    (r.Sound P ∧
        ∀ (allocEvents : Option ℤ) (createEvent : ℕ → ℤ) (allocOvl : ℕ → Option HeapBlock)
          (o : OvlArrays), stmThreadAllocOvl P r allocEvents createEvent allocOvl = some o →
            o.Sound P r) ↔
      P.Fits a := by
  constructor
  · rintro ⟨h, hovl⟩
    exact StmPlatform.fits_of_sound hr h hovl
  · intro h
    refine ⟨StmBuffers.sound_of_fits hr h, fun allocEvents createEvent allocOvl o ho => ?_⟩
    obtain ⟨haccepts, xferItems, bufferMemory, rfl⟩ := StmSizesInit.run_cases hr
    obtain ⟨hio, -⟩ := StmSizesInit.one_le_of_accepts haccepts
    have h0 : 0 ≤ a.maxPendingIo.toInt := by omega
    exact (stmThreadAllocOvl_sound_iff ho h0).mpr h.ovlEvents

end Sound

/-- With a `size_t` of 64 bits only the buffers can fail to fit. -/
theorem fits_x64_iff {a : StmSizesInit} : StmPlatform.x64.Fits a ↔ 0 < a.maxTransferSize.toInt ∧
    a.maxTransferSize.toInt * a.maxPendingTransfers.toInt < 0x80000000 := by
  have htransfers := a.maxPendingTransfers.toInt_lt
  have hio := a.maxPendingIo.toInt_lt
  constructor
  · exact fun h => ⟨h.pos, h.buffers⟩
  · rintro ⟨hpos, hbuffers⟩
    refine ⟨hpos, hbuffers, ?_, ?_⟩
    · show (88 : ℤ) * a.maxPendingTransfers.toInt < 0x10000000000000000
      omega
    · show (8 : ℤ) * a.maxPendingIo.toInt < 0x10000000000000000
      omega

/-- A stream for one request at a time, where nothing fails. -/
def stmSizesInit (maxTransferSize maxPendingTransfers : Int32) : StmSizesInit where
  pipeID := 0x81
  maxTransferSize := maxTransferSize
  maxPendingTransfers := maxPendingTransfers
  maxPendingIo := 1
  useTimeout := false
  endpoint := some 64
  acquire := true
  heapCreate := true
  allocInfo := true
  allocUserCB := true
  allocXferItems := some 0x10000
  allocBuffers := some 0x20000
  createSemaphore := true
  incUsbK := true

theorem stmSizes_sound_twoTransfers :
    StmBuffers.Sound .x64
      { maxTransferSize := 128
        maxPendingTransfers := 2
        maxPendingIo := 1
        xferItems := ⟨0x10000, 176⟩
        bufferMemory := ⟨0x20000, 256⟩
        xfers := [⟨0x20000, 128⟩, ⟨0x20080, 128⟩] } := by
  have hr : (stmSizesInit 128 2).run .x64 = some _ := rfl
  exact ((stmSizes_sound_iff hr).mpr (fits_x64_iff.mpr ⟨by decide, by decide⟩)).1

/-- Transfers of no bytes; and 65536 transfers of 65536 bytes, with a block of no bytes for
their buffers. -/
theorem not_stmSizes_sound :
    (∃ r, (stmSizesInit 0 1).run .x64 = some r ∧ ¬r.Sound .x64) ∧
      ∃ r, (stmSizesInit 65536 65536).run .x64 = some r ∧ r.bufferMemory.size = 0 ∧
        ¬r.Sound .x64 := by
  refine ⟨⟨_, rfl, fun h => ?_⟩, ⟨_, rfl, rfl, fun h => ?_⟩⟩
  · have hpos := h.pos ⟨0x20000, 0⟩ (by decide)
    exact absurd hpos (by decide)
  · exact absurd h.noWrap (by decide)

end LibusbK
