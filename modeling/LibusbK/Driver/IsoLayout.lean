import LibusbK.Driver.IsoFrames
import LibusbK.Driver.PipePolicy
import Mathlib.Algebra.Order.Floor.Div

/-!
# The packets of an isochronous write

`XferIsoWrite` divides the bytes of a request evenly among its packets.  How many
packets there are is a policy of the pipe, or is computed from the packet size.
The first of these is checked with a quotient that is rounded down, the second
divides by a packet size that may be zero.

## Main definitions

* `packetSizes` — the sizes the offsets of an URB imply.
* `LaidOut` — what the packets of an URB should be like.

## Main results

* `packetSizes_isoWriteOffsets` — the sizes the offset loop gives out.
* `isoWriteLaidOut_iff` — the requests that are laid out as they should be.
-/

namespace LibusbK

/-! ### Offsets and sizes -/

/-- The sizes of the packets at `offsets`: each ends where the next one begins,
and the last one at `length`. -/
def packetSizes (length : ℕ) : List ℕ → List ℕ
  | [] => []
  | [offset] => [length - offset]
  | offset :: next :: offsets => (next - offset) :: packetSizes length (next :: offsets)

theorem isoWriteOffsets_succ (minBytesPerPacket n remBytes offset : ℕ) :
    isoWriteOffsets minBytesPerPacket (n + 1) remBytes offset =
      offset :: isoWriteOffsets minBytesPerPacket n (remBytes - 1)
        (offset + (minBytesPerPacket + min remBytes 1)) := by
  rw [isoWriteOffsets]
  split_ifs with h
  · obtain rfl : remBytes = 0 := by omega
    rfl
  · have hone : min remBytes 1 = 1 := by omega
    rw [hone, Nat.add_assoc]

@[simp] theorem length_isoWriteOffsets (minBytesPerPacket n remBytes offset : ℕ) :
    (isoWriteOffsets minBytesPerPacket n remBytes offset).length = n := by
  induction n generalizing remBytes offset with
  | zero => rfl
  | succ n ih => rw [isoWriteOffsets_succ, List.length_cons, ih]

theorem le_of_mem_isoWriteOffsets {minBytesPerPacket n remBytes offset o : ℕ}
    (h : o ∈ isoWriteOffsets minBytesPerPacket n remBytes offset) : offset ≤ o := by
  induction n generalizing remBytes offset with
  | zero => cases h
  | succ n ih =>
    rw [isoWriteOffsets_succ] at h
    rcases List.mem_cons.mp h with rfl | h
    · exact Nat.le_refl _
    · exact Nat.le_trans (Nat.le_add_right _ _) (ih h)

theorem pairwise_isoWriteOffsets (minBytesPerPacket n remBytes offset : ℕ) :
    (isoWriteOffsets minBytesPerPacket n remBytes offset).Pairwise (· ≤ ·) := by
  induction n generalizing remBytes offset with
  | zero => exact .nil
  | succ n ih =>
    rw [isoWriteOffsets_succ]
    refine .cons (fun o ho => ?_) (ih _ _)
    exact Nat.le_trans (Nat.le_add_right _ _) (le_of_mem_isoWriteOffsets ho)

/-- **The sizes the loop gives out**: the bytes that remain go to the first
packets, one each. -/
theorem packetSizes_isoWriteOffsets (minBytesPerPacket : ℕ) {n remBytes : ℕ}
    (h : remBytes ≤ n) (offset : ℕ) :
    packetSizes (offset + (minBytesPerPacket * n + remBytes))
        (isoWriteOffsets minBytesPerPacket n remBytes offset) =
      List.replicate remBytes (minBytesPerPacket + 1) ++
        List.replicate (n - remBytes) minBytesPerPacket := by
  induction n generalizing remBytes offset with
  | zero =>
    obtain rfl : remBytes = 0 := by omega
    rfl
  | succ n ih =>
    have hend : offset + (minBytesPerPacket * (n + 1) + remBytes) =
        offset + (minBytesPerPacket + min remBytes 1) +
          (minBytesPerPacket * n + (remBytes - 1)) := by
      rw [Nat.mul_succ]
      omega
    have hsize : List.replicate remBytes (minBytesPerPacket + 1) ++
        List.replicate (n + 1 - remBytes) minBytesPerPacket =
        (minBytesPerPacket + min remBytes 1) ::
          (List.replicate (remBytes - 1) (minBytesPerPacket + 1) ++
            List.replicate (n - (remBytes - 1)) minBytesPerPacket) := by
      cases remBytes with
      | zero => rfl
      | succ r =>
        rw [List.replicate_succ, List.cons_append, Nat.add_sub_add_right]
        congr 2
        omega
    rw [hsize, hend, isoWriteOffsets_succ]
    cases n with
    | zero =>
      obtain hzero | rfl : remBytes = 0 ∨ remBytes = 1 := by omega
      · subst hzero
        simp [isoWriteOffsets, packetSizes]
      · simp [isoWriteOffsets, packetSizes]
    | succ n =>
      have hrest := ih (by omega : remBytes - 1 ≤ n + 1)
        (offset + (minBytesPerPacket + min remBytes 1))
      rw [isoWriteOffsets_succ] at hrest ⊢
      rw [packetSizes, hrest, Nat.add_sub_cancel_left]

theorem sum_sizes {n remBytes : ℕ} (h : remBytes ≤ n) (minBytesPerPacket : ℕ) :
    (List.replicate remBytes (minBytesPerPacket + 1) ++
      List.replicate (n - remBytes) minBytesPerPacket).sum =
        minBytesPerPacket * n + remBytes := by
  obtain ⟨m, rfl⟩ := Nat.exists_eq_add_of_le h
  rw [List.sum_append, List.sum_replicate_nat, List.sum_replicate_nat, Nat.add_sub_cancel_left,
    Nat.mul_comm minBytesPerPacket, Nat.add_mul, Nat.mul_succ]
  omega

/-! ### What the packets should be like -/

/-- The packets of a write of `length` bytes are laid out: the offsets start at 0
and do not decrease, the sizes add up to the request, differ by at most one and
fit a packet, and the device takes so many packets. -/
structure LaidOut (isHighSpeed : Bool) (length maximumPacketSize : ℕ) (urb : IsoUrb) : Prop where
  start : urb.offsets.head? = some 0
  ascending : urb.offsets.Pairwise (· ≤ ·)
  sum : (packetSizes length urb.offsets).sum = length
  even : ∀ n ∈ packetSizes length urb.offsets, ∀ m ∈ packetSizes length urb.offsets, n ≤ m + 1
  bounded : ∀ n ∈ packetSizes length urb.offsets, n ≤ maximumPacketSize
  number : urb.numberOfPackets.toNat = urb.offsets.length
  multiple : isHighSpeed = true → 8 ∣ urb.offsets.length
  within : urb.offsets.length ≤ if isHighSpeed then 1024 else 256

/-- The numbers of packets a device of this speed takes. -/
def PacketsOk (isHighSpeed : Bool) (count : ℕ) : Prop :=
  0 < count ∧ (isHighSpeed = true → 8 ∣ count) ∧ count ≤ if isHighSpeed then 1024 else 256

/-- The sizes of `count` packets fit exactly when the packets hold the request. -/
theorem bounded_iff {length count maximumPacketSize : ℕ} (hcount : 0 < count) :
    (∀ n ∈ List.replicate (length - length / count * count) (length / count + 1) ++
        List.replicate (count - (length - length / count * count)) (length / count),
      n ≤ maximumPacketSize) ↔ length ≤ count * maximumPacketSize := by
  have hdiv := Nat.div_add_mod' length count
  have hmod := Nat.mod_lt length hcount
  have hrem : length - length / count * count = length % count := by omega
  rw [hrem]
  constructor
  · intro h
    rcases Nat.eq_zero_or_pos (length % count) with hzero | hpos
    · have hle := h (length / count) (List.mem_append_right _
        (List.mem_replicate.mpr ⟨by omega, rfl⟩))
      have hmul := Nat.mul_le_mul_left count hle
      rw [Nat.mul_comm count (length / count)] at hmul
      omega
    · have hle := h (length / count + 1) (List.mem_append_left _
        (List.mem_replicate.mpr ⟨Nat.ne_of_gt hpos, rfl⟩))
      have hmul := Nat.mul_le_mul_left count hle
      rw [Nat.mul_add, Nat.mul_comm count (length / count)] at hmul
      omega
  · intro h n hn
    have hle : length / count ≤ maximumPacketSize := Nat.div_le_of_le_mul h
    rcases List.mem_append.mp hn with hn | hn
    · -- a byte is left over, so the packets are not all full
      obtain ⟨hpos, rfl⟩ := List.mem_replicate.mp hn
      rcases Nat.lt_or_eq_of_le hle with hlt | heq
      · exact hlt
      · rw [← heq, Nat.mul_comm] at h
        omega
    · obtain ⟨-, rfl⟩ := List.mem_replicate.mp hn
      exact hle

/-! ### How many packets there are -/

section

variable {dc : DeviceContext} {rc : RequestContext} {qc : QueueContext}

/-- The numbers of fixed packets that are not refused are numbers a device takes. -/
theorem packetsOk_of_fixed {isHighSpeed : Bool} {count : ℕ} (hne : count ≠ 0)
    (h : fixedPacketsRefused isHighSpeed count = false) : PacketsOk isHighSpeed count := by
  unfold fixedPacketsRefused at h
  refine ⟨Nat.pos_of_ne_zero hne, ?_, ?_⟩
  · rintro rfl
    simp [hne] at h
    omega
  · cases isHighSpeed with
    | true =>
      simp [hne] at h
      exact h.2
    | false =>
      simp [hne] at h
      exact h

theorem isoWriteNumberOfPackets_fixed (hfixed : rc.policies.isoNumFixedPackets ≠ 0) :
    isoWriteNumberOfPackets dc rc qc =
      if rc.length / rc.policies.isoNumFixedPackets > qc.info.maximumPacketSize then
        some (.error STATUS_INVALID_BUFFER_SIZE)
      else some (.ok rc.policies.isoNumFixedPackets) := by
  unfold isoWriteNumberOfPackets
  rw [if_pos hfixed]

theorem asLong_neg {n : ℕ} (h : n < 0x100000000) (hge : 0x80000000 ≤ n) : asLong n < 0 := by
  unfold asLong longOf
  rw [Int.bmod_def]
  omega

/-- A sum of two numbers of packets that is no `LONG` is negative. -/
theorem longOf_eq_or_neg {z : ℤ} (hlow : -0x80000000 ≤ z) (hhigh : z < 0x100000000) :
    longOf z = z ∨ longOf z < 0 := by
  unfold longOf
  rw [Int.bmod_def]
  split_ifs <;> omega

theorem longOf_bounds (z : ℤ) : -0x80000000 ≤ longOf z ∧ longOf z < 0x80000000 := by
  unfold longOf
  rw [Int.bmod_def]
  split_ifs <;> omega

/-- The `LONG` of a quotient of `ULONG`s is the quotient, or negative. -/
theorem asLong_eq_or_neg {n : ℕ} (h : n < 0x100000000) :
    asLong n = n ∧ n < 0x80000000 ∨ asLong n < 0 := by
  rcases Nat.lt_or_ge n 0x80000000 with hlt | hge
  · exact .inl ⟨asLong_of_lt hlt, hlt⟩
  · exact .inr (asLong_neg h hge)

/-- The number of packets, rounded up to whole frames at high speed. -/
def roundUpPackets (isHighSpeed : Bool) (numberOfPackets : ℤ) : ℤ :=
  if isHighSpeed ∧ numberOfPackets.tmod 8 > 0 then
    longOf (numberOfPackets + (8 - numberOfPackets.tmod 8))
  else numberOfPackets

theorem roundUpPackets_of_nonpos (isHighSpeed : Bool) {n : ℤ} (h : n ≤ 0) :
    roundUpPackets isHighSpeed n = n := by
  have hrem : 0 ≤ (-n).tmod 8 := Int.tmod_nonneg 8 (by omega)
  rw [Int.neg_tmod] at hrem
  unfold roundUpPackets
  rw [if_neg fun hround => absurd hround.2 (by omega)]

theorem le_roundUpPackets {isHighSpeed : Bool} {n : ℤ} (h : 0 ≤ n) (hn : n < 0x80000000)
    (hpos : 0 < roundUpPackets isHighSpeed n) : n ≤ roundUpPackets isHighSpeed n := by
  have hrem : n.tmod 8 = n % 8 := Int.tmod_eq_emod_of_nonneg h
  unfold roundUpPackets at hpos ⊢
  rw [hrem] at hpos ⊢
  split_ifs at hpos ⊢
  · rcases longOf_eq_or_neg (z := n + (8 - n % 8)) (by omega) (by omega) with h | h <;> omega
  · exact Int.le_refl n

theorem dvd_roundUpPackets {n : ℤ} (h : 0 ≤ n) (hn : n < 0x80000000)
    (hpos : 0 < roundUpPackets true n) : 8 ∣ roundUpPackets true n := by
  have hrem : n.tmod 8 = n % 8 := Int.tmod_eq_emod_of_nonneg h
  unfold roundUpPackets at hpos ⊢
  rw [hrem] at hpos ⊢
  split_ifs at hpos ⊢ with hround
  · rcases longOf_eq_or_neg (z := n + (8 - n % 8)) (by omega) (by omega) with h | h <;> omega
  · have hnot : ¬n % 8 > 0 := fun hpos => hround ⟨rfl, hpos⟩
    omega

/-- The number of packets before it is rounded. -/
def packetsNeeded (length maximumPacketSize : ℕ) : ℤ :=
  if length % maximumPacketSize > 0 then longOf (asLong (length / maximumPacketSize) + 1)
  else asLong (length / maximumPacketSize)

theorem packetsNeeded_lt (length maximumPacketSize : ℕ) :
    packetsNeeded length maximumPacketSize < 0x80000000 := by
  unfold packetsNeeded
  split_ifs
  · exact (longOf_bounds _).2
  · exact (longOf_bounds _).2

theorem isoWriteNumberOfPackets_computed (hfixed : rc.policies.isoNumFixedPackets = 0)
    (hpacket : qc.info.maximumPacketSize ≠ 0) :
    isoWriteNumberOfPackets dc rc qc =
      let numberOfPackets :=
        roundUpPackets dc.isHighSpeed (packetsNeeded rc.length qc.info.maximumPacketSize)
      if numberOfPackets > (if dc.isHighSpeed then 1024 else 256) then
        some (.error STATUS_INVALID_BUFFER_SIZE)
      else if numberOfPackets ≤ 0 then some (.error STATUS_INVALID_DEVICE_REQUEST)
      else some (.ok numberOfPackets.toNat) := by
  unfold isoWriteNumberOfPackets
  rw [if_neg (not_not.mpr hfixed), if_neg hpacket]
  rfl

/-- The packets that are needed hold the request, unless the quotient was no `LONG`. -/
theorem le_packetsNeeded {length maximumPacketSize : ℕ} (hpacket : maximumPacketSize ≠ 0)
    (hlength : length < 0x100000000) (hpos : 0 < packetsNeeded length maximumPacketSize) :
    length ≤ (packetsNeeded length maximumPacketSize).toNat * maximumPacketSize := by
  have hdiv := Nat.div_add_mod' length maximumPacketSize
  have hmod := Nat.mod_lt length (Nat.pos_of_ne_zero hpacket)
  have hquot : length / maximumPacketSize < 0x100000000 :=
    Nat.lt_of_le_of_lt (Nat.div_le_self _ _) hlength
  have hlow : -0x80000000 ≤ asLong (length / maximumPacketSize) := (longOf_bounds _).1
  unfold packetsNeeded at hpos ⊢
  obtain ⟨hlong, hlt⟩ | hlong := asLong_eq_or_neg hquot
  · rw [hlong] at hpos ⊢
    split_ifs at hpos ⊢ with hrem
    · -- one packet more is a `LONG`, as it is not negative
      have hsum : longOf ((length / maximumPacketSize : ℕ) + 1) =
          (length / maximumPacketSize : ℕ) + 1 := by
        rcases longOf_eq_or_neg (z := (length / maximumPacketSize : ℕ) + 1) (by omega) (by omega)
          with h | h <;> omega
      rw [hsum, show ((length / maximumPacketSize : ℕ) + 1 : ℤ).toNat =
        length / maximumPacketSize + 1 by omega, Nat.add_mul]
      omega
    · rw [Int.toNat_natCast]
      omega
  · have hneg : asLong (length / maximumPacketSize) + 1 ≤ 0 := by omega
    split_ifs at hpos
    · rcases longOf_eq_or_neg (z := asLong (length / maximumPacketSize) + 1) (by omega) (by omega)
        with h | h <;> omega
    · omega

/-- The number that is computed is one a device takes, and its packets hold the
request. -/
theorem packetsOk_of_computed {count : ℕ} (hlength : rc.length < 0x100000000)
    (hfixed : rc.policies.isoNumFixedPackets = 0) (hpacket : qc.info.maximumPacketSize ≠ 0)
    (h : isoWriteNumberOfPackets dc rc qc = some (.ok count)) :
    PacketsOk dc.isHighSpeed count ∧ rc.length ≤ count * qc.info.maximumPacketSize := by
  have hneeded := le_packetsNeeded hpacket hlength
  have hlt := packetsNeeded_lt rc.length qc.info.maximumPacketSize
  rw [isoWriteNumberOfPackets_computed hfixed hpacket] at h
  dsimp only at h
  generalize packetsNeeded rc.length qc.info.maximumPacketSize = n at h hneeded hlt
  by_cases hlimit :
      roundUpPackets dc.isHighSpeed n > (if dc.isHighSpeed then 1024 else 256)
  · rw [if_pos hlimit] at h
    cases h
  · rw [if_neg hlimit] at h
    by_cases hnonpos : roundUpPackets dc.isHighSpeed n ≤ 0
    · rw [if_pos hnonpos] at h
      cases h
    · rw [if_neg hnonpos] at h
      cases h
      have hpos : 0 < n := by
        by_contra hneg
        rw [roundUpPackets_of_nonpos dc.isHighSpeed (by omega)] at hnonpos
        omega
      have hle := le_roundUpPackets (Int.le_of_lt hpos) hlt (Int.not_le.mp hnonpos)
      have hcount : n.toNat ≤ (roundUpPackets dc.isHighSpeed n).toNat := Int.toNat_le_toNat hle
      refine ⟨⟨by omega, ?_, ?_⟩, ?_⟩
      · intro hhigh
        rw [hhigh] at hnonpos ⊢
        have hdvd := dvd_roundUpPackets (Int.le_of_lt hpos) hlt (Int.not_le.mp hnonpos)
        omega
      · split_ifs at hlimit ⊢ <;> omega
      · exact Nat.le_trans (hneeded hpos) (Nat.mul_le_mul_right _ hcount)

/-! ### The write -/

/-- The URB of a write of `count` packets. -/
theorem laidOut_iff {count : ℕ} (hcount : PacketsOk dc.isHighSpeed count) {urb : IsoUrb}
    (hnumber : urb.numberOfPackets = UInt32.ofNat count)
    (hoffsets : urb.offsets = isoWriteOffsets (rc.length / count) count
      (rc.length - rc.length / count * count) 0) :
    LaidOut dc.isHighSpeed rc.length qc.info.maximumPacketSize urb ↔
      rc.length ≤ count * qc.info.maximumPacketSize := by
  obtain ⟨hpos, hmultiple, hwithin⟩ := hcount
  have hdiv := Nat.div_add_mod' rc.length count
  have hmod := Nat.mod_lt rc.length hpos
  have hrem : rc.length - rc.length / count * count ≤ count := by omega
  have hlen : urb.offsets.length = count := by rw [hoffsets, length_isoWriteOffsets]
  have hsizes := packetSizes_isoWriteOffsets (rc.length / count) hrem 0
  have hend : 0 + (rc.length / count * count + (rc.length - rc.length / count * count)) =
    rc.length := by omega
  rw [hend, ← hoffsets] at hsizes
  rw [← bounded_iff hpos, ← hsizes]
  constructor
  · exact fun h => h.bounded
  · intro hbounded
    refine ⟨?_, ?_, ?_, ?_, hbounded, ?_, ?_, ?_⟩
    · obtain ⟨n, rfl⟩ := Nat.exists_eq_succ_of_ne_zero (Nat.ne_of_gt hpos)
      rw [hoffsets, isoWriteOffsets_succ]
      rfl
    · rw [hoffsets]
      exact pairwise_isoWriteOffsets _ _ _ _
    · rw [hsizes, sum_sizes hrem]
      omega
    · intro n hn m hm
      rw [hsizes, List.mem_append, List.mem_replicate, List.mem_replicate] at hn hm
      omega
    · rw [hnumber, hlen]
      refine UInt32.toNat_ofNat_of_lt' (Nat.lt_of_le_of_lt hwithin ?_)
      split_ifs <;> decide
    · rwa [hlen]
    · rwa [hlen]

/-- Every write of the request that is submitted is laid out, and no division by
zero stops one. -/
def IsoWriteLaidOut (dc : DeviceContext) (rc : RequestContext) (qc : QueueContext) : Prop :=
  ∀ fw, xferIsoWrite fw dc rc qc ≠ none ∧
    ∀ served urb, xferIsoWrite fw dc rc qc = some served →
      .send .isoWr (.urb urb) ∈ served.effects →
        LaidOut dc.isHighSpeed rc.length qc.info.maximumPacketSize urb

/-- The requests that are laid out: those without a queue context, which are
refused; with a fixed number of packets, those the packets hold and those that are
too long by a byte per packet; with a computed one, those on a pipe with packets. -/
def IsoWriteFits (rc : RequestContext) (qc : QueueContext) : Prop :=
  rc.queueContext = false ∨
    if rc.policies.isoNumFixedPackets ≠ 0 then
      rc.length ≤ rc.policies.isoNumFixedPackets * qc.info.maximumPacketSize ∨
        qc.info.maximumPacketSize < rc.length / rc.policies.isoNumFixedPackets
    else qc.info.maximumPacketSize ≠ 0

theorem packets_isoSetStartFrame (fw : Framework) (isHS : Bool) (rc : RequestContext)
    (u : IsoUrb) (qc : QueueContext) :
    (isoSetStartFrame fw isHS rc u qc).2.numberOfPackets = u.numberOfPackets ∧
      (isoSetStartFrame fw isHS rc u qc).2.offsets = u.offsets := by
  unfold isoSetStartFrame
  dsimp only
  split_ifs <;> exact ⟨rfl, rfl⟩

/-- The URB that is sent is the one that was laid out, with a start frame. -/
theorem of_mem_frameAndSubmit {fw : Framework} {u urb : IsoUrb} {routine : Routine}
    (h : .send routine (.urb urb) ∈ (frameAndSubmit fw dc rc qc routine u).effects) :
    urb.numberOfPackets = u.numberOfPackets ∧ urb.offsets = u.offsets := by
  unfold frameAndSubmit at h
  dsimp only at h
  rw [Served.effects_after, List.mem_append] at h
  rcases h with h | h
  · cases eq_resetPipe_of_mem_handlePipeResetScenarios fw rc qc h
  · have hpackets := packets_isoSetStartFrame fw dc.isHighSpeed rc u
      (handlePipeResetScenarios fw rc qc).1
    generalize isoSetStartFrame fw dc.isHighSpeed rc u (handlePipeResetScenarios fw rc qc).1 =
      framed at h hpackets
    unfold submitUrb at h
    split_ifs at h
    · cases List.mem_singleton.mp h
    · cases List.mem_singleton.mp h
      exact hpackets
    · cases List.mem_singleton.mp h

/-- With a framework that answers well, it is sent. -/
theorem exists_mem_frameAndSubmit (u : IsoUrb) (routine : Routine) :
    ∃ urb, .send routine (.urb urb) ∈ (frameAndSubmit {} dc rc qc routine u).effects := by
  unfold frameAndSubmit submitUrb
  dsimp only
  rw [if_neg (by decide), if_pos (by decide)]
  exact ⟨_, List.mem_append_right _ (List.mem_singleton_self _)⟩

/-- With a framework that answers well, a number of packets is laid out and sent. -/
theorem exists_served_of_count {count : ℕ} (hrc : rc.queueContext = true)
    (h : isoWriteNumberOfPackets dc rc qc = some (.ok count)) :
    ∃ served urb, xferIsoWrite {} dc rc qc = some served ∧
      .send .isoWr (.urb urb) ∈ served.effects ∧ urb.numberOfPackets = UInt32.ofNat count ∧
      urb.offsets = isoWriteOffsets (rc.length / count) count
        (rc.length - rc.length / count * count) 0 := by
  obtain ⟨u, hu⟩ := exists_isoWriteUrb_of_count hrc h
  obtain ⟨urb, hurb⟩ := @exists_mem_frameAndSubmit dc rc qc u .isoWr
  obtain ⟨hnumber, hoffsets⟩ := of_mem_frameAndSubmit hurb
  obtain ⟨-, count', hcount', -, hnumber', hoffsets'⟩ := exists_count_of_isoWriteUrb hu
  cases h.symm.trans hcount'
  refine ⟨_, urb, ?_, hurb, hnumber.trans hnumber', hoffsets.trans hoffsets'⟩
  rw [xferIsoWrite_eq, hu]
  rfl

end

/-- What is sent was laid out. -/
theorem exists_count_of_mem {fw : Framework} {dc : DeviceContext} {rc : RequestContext}
    {qc : QueueContext} {served : Served} {urb : IsoUrb}
    (h : xferIsoWrite fw dc rc qc = some served)
    (hurb : .send .isoWr (.urb urb) ∈ served.effects) :
    rc.queueContext = true ∧ ∃ count, isoWriteNumberOfPackets dc rc qc = some (.ok count) ∧
      urb.numberOfPackets = UInt32.ofNat count ∧
      urb.offsets = isoWriteOffsets (rc.length / count) count
        (rc.length - rc.length / count * count) 0 := by
  rw [xferIsoWrite_eq, Option.map_eq_some_iff] at h
  obtain ⟨r, hr, rfl⟩ := h
  cases r with
  | error status => cases List.mem_singleton.mp hurb
  | ok u =>
    obtain ⟨hnumber, hoffsets⟩ := of_mem_frameAndSubmit hurb
    obtain ⟨hrc, count, hcount, -, hnumber', hoffsets'⟩ := exists_count_of_isoWriteUrb hr
    exact ⟨hrc, count, hcount, hnumber.trans hnumber', hoffsets.trans hoffsets'⟩

/-- **The writes that are laid out.**  A request of any length, with a number of
fixed packets `Policy_SetPipe` accepts, is divided among packets as it should be
exactly when it fits. -/
theorem isoWriteLaidOut_iff (dc : DeviceContext) (rc : RequestContext) (qc : QueueContext)
    (hlength : rc.length < 0x100000000)
    (hpolicy : fixedPacketsRefused dc.isHighSpeed rc.policies.isoNumFixedPackets = false) :
    IsoWriteLaidOut dc rc qc ↔ IsoWriteFits rc qc := by
  unfold IsoWriteFits
  constructor
  · intro h
    cases hrc : rc.queueContext with
    | false => exact .inl rfl
    | true =>
      refine .inr ?_
      obtain ⟨hnone, hsent⟩ := h {}
      by_cases hfixed : rc.policies.isoNumFixedPackets = 0
      · rw [if_neg (not_not.mpr hfixed)]
        exact fun hpacket =>
          hnone (xferIsoWrite_eq_none.mpr ⟨⟨⟨rfl, hrc⟩, rfl⟩, rfl, hfixed, hpacket⟩)
      · rw [if_pos hfixed, or_iff_not_imp_right]
        intro hsmall
        have hcount := @isoWriteNumberOfPackets_fixed dc rc qc hfixed
        rw [if_neg hsmall] at hcount
        obtain ⟨served, urb, hserved, hurb, hnumber, hoffsets⟩ := exists_served_of_count hrc hcount
        exact (laidOut_iff (packetsOk_of_fixed hfixed hpolicy) hnumber hoffsets).mp
          (hsent served urb hserved hurb)
  · intro h fw
    refine ⟨fun hnone => ?_, fun served urb hserved hurb => ?_⟩
    · obtain ⟨⟨⟨-, hrc⟩, -⟩, -, hfixed, hpacket⟩ := xferIsoWrite_eq_none.mp hnone
      replace h := h.resolve_left (by simp [hrc])
      rw [if_neg (not_not.mpr hfixed)] at h
      exact h hpacket
    · obtain ⟨hrc, count, hcount, hnumber, hoffsets⟩ := exists_count_of_mem hserved hurb
      replace h := h.resolve_left (by simp [hrc])
      by_cases hfixed : rc.policies.isoNumFixedPackets = 0
      · rw [if_neg (not_not.mpr hfixed)] at h
        obtain ⟨hok, hholds⟩ := packetsOk_of_computed hlength hfixed h hcount
        exact (laidOut_iff hok hnumber hoffsets).mpr hholds
      · rw [if_pos hfixed] at h
        rw [isoWriteNumberOfPackets_fixed hfixed] at hcount
        split_ifs at hcount with hlong
        · cases hcount
        · cases hcount
          exact (laidOut_iff (packetsOk_of_fixed hfixed hpolicy) hnumber hoffsets).mpr
            (h.resolve_right hlong)

theorem length_le_nineByteWrite : 9 ≤ (List.replicate 9 (0 : UInt8)).length := by decide

/-- A write of nine bytes in `isoNumFixedPackets` packets. -/
def nineByteWrite (isoNumFixedPackets : ℕ) : RequestContext where
  length := 9
  buffer := List.replicate 9 0
  length_le := length_le_nineByteWrite
  requestType := .write
  policies := { isoNumFixedPackets := isoNumFixedPackets, isoAlwaysStartAsap := true }

/-- An isochronous OUT pipe of packets of `maximumPacketSize` bytes. -/
def isoOutQueue (maximumPacketSize : ℕ) : QueueContext :=
  { info := ⟨maximumPacketSize, 0x01, 1, .isochronous, 0⟩ }

/-- Nine bytes in eight packets of at most two bytes. -/
theorem isoWriteLaidOut_nineByteWrite : IsoWriteLaidOut {} (nineByteWrite 8) (isoOutQueue 2) :=
  (isoWriteLaidOut_iff {} (nineByteWrite 8) (isoOutQueue 2) (by decide) (by decide)).mpr
    (.inr (.inl (by decide)))

/-- Nine bytes in eight packets of one byte: the first packet gets two. -/
theorem not_isoWriteLaidOut_nineByteWrite :
    ¬IsoWriteLaidOut {} (nineByteWrite 8) (isoOutQueue 1) := by
  intro h
  obtain ⟨-, hsent⟩ := h {}
  obtain ⟨served, urb, hserved, hurb, -, hoffsets⟩ :=
    @exists_served_of_count {} (nineByteWrite 8) (isoOutQueue 1) 8 rfl rfl
  have hbounded := (hsent served urb hserved hurb).bounded
  rw [hoffsets] at hbounded
  exact absurd (hbounded 2 (by decide)) (by decide)

end LibusbK
