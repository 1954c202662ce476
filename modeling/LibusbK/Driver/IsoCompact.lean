import LibusbK.Driver.IsoFrames
import LibusbK.Lib.Compact

/-!
# The data of an isochronous read

A packet of an isochronous read is received where its offset says, and the bytes
behind a short packet are not data.  `XferIsoRdComplete` moves the data of the
packets together before it completes the request, unless the packets filled the
buffer.

## Main results

* `isoCompact_eq` — the loop compacts the packets.
* `spaced_isoReadOffsets` — the packets `XferIsoRead` lays out are spaced.
* `isoReadCompacted` — the data of a read that succeeds.
-/

namespace LibusbK

open Window

/-- The offset and the length of a packet, as the loop reads them. -/
def packetLongs (p : ℕ × ℕ) : ℤ × ℤ := (asLong p.1, asLong p.2)

/-- The completed URB of a read whose packets are `packets`. -/
def readResult (packets : List (ℕ × ℕ)) : UrbResult where
  transferBufferLength := total packets
  packets := packets.map packetLongs

/-- **The loop compacts the packets**, or fails to get at the buffer. -/
theorem isoCompact_eq (fw : Framework) {a b : ℕ} {packets : List (ℕ × ℕ)}
    (h : Spaced a b packets) (hlong : b < 0x80000000) :
    ∀ {dataBufferOffset : ℕ} (status : NTSTATUS) (buffer : List UInt8), dataBufferOffset ≤ a →
      (∃ status', isoCompact fw (packets.map packetLongs) dataBufferOffset status buffer =
        .error status' ∧ ntSuccess status' = false ∧ ntSuccess fw.outputBuffer = false) ∨
      ∃ status', isoCompact fw (packets.map packetLongs) dataBufferOffset status buffer =
        .ok (status', compact packets dataBufferOffset buffer) ∧
        (status' = status ∨ status' = fw.outputBuffer) := by
  induction h with
  | nil h => exact fun status buffer _ => .inr ⟨status, rfl, .inl rfl⟩
  | @cons a b ofs len packets h hps ih =>
    intro dataBufferOffset status buffer hle
    have hroom := hps.le
    have hofs : asLong ofs = ofs := asLong_of_lt (by omega)
    have hlen : asLong len = len := asLong_of_lt (by omega)
    rw [List.map_cons, packetLongs, isoCompact, compact, hofs, hlen]
    have hnext : (dataBufferOffset : ℤ) + len = (dataBufferOffset + len : ℕ) := by omega
    by_cases hmove : 0 < len ∧ dataBufferOffset < ofs
    · rw [if_pos (by omega), if_pos hmove]
      cases hbuffer : ntSuccess fw.outputBuffer with
      | false => exact .inl ⟨fw.outputBuffer, by simp, hbuffer, rfl⟩
      | true =>
        rw [if_neg (by simp), hnext, Int.toNat_natCast, Int.toNat_natCast, Int.toNat_natCast]
        rcases ih hlong fw.outputBuffer (writeAt dataBufferOffset (window ofs len buffer) buffer)
          (show dataBufferOffset + len ≤ ofs + len by omega) with hfail | ⟨status', hok, hstatus⟩
        · obtain ⟨_, _, _, hfalse⟩ := hfail
          rw [hbuffer] at hfalse
          cases hfalse
        · exact .inr ⟨status', hok, .inr (hstatus.elim id id)⟩
    · rw [if_neg (by omega), if_neg hmove, hnext]
      exact ih hlong status buffer (by omega)

/-! ### The packets of a read -/

/-- The packets at multiples of the packet size are spaced, whatever is received
into them. -/
theorem spaced_isoReadOffsets {step : ℕ} {lengths : List ℕ} (h : ∀ n ∈ lengths, n ≤ step) :
    Spaced 0 (lengths.length * step) ((isoReadOffsets step lengths.length).zip lengths) := by
  have hfrom : ∀ (lengths : List ℕ) (i : ℕ), (∀ n ∈ lengths, n ≤ step) →
      ∀ a ≤ i * step, Spaced a ((i + lengths.length) * step)
        (((List.range' i lengths.length).map fun posPacket => posPacket * step).zip lengths) := by
    intro lengths
    induction lengths with
    | nil => exact fun i _ a ha => .nil (by simpa using ha)
    | cons n lengths ih =>
      intro i h a ha
      rw [List.length_cons, List.range'_succ, List.map_cons, List.zip_cons_cons,
        Nat.add_comm lengths.length 1, ← Nat.add_assoc]
      refine .cons ha (ih (i + 1) (fun m hm => h m (List.mem_cons_of_mem _ hm)) _ ?_)
      rw [Nat.add_mul, Nat.one_mul]
      exact Nat.add_le_add_left (h n List.mem_cons_self) _
  have hall := hfrom lengths 0 h 0 (Nat.zero_le _)
  rwa [Nat.zero_add, ← List.range_eq_range'] at hall

/-- A read has a transfer buffer below 2 GiB. -/
theorem isoReadUrb_bounds {fw : Framework} {dc : DeviceContext} {rc : RequestContext}
    {qc : QueueContext} {u : IsoUrb} (h : isoReadUrb fw dc rc qc = .ok u)
    (hpacket : qc.info.maximumPacketSize < 0x10000) :
    u.transferBufferLength < 0x80000000 := by
  unfold isoReadUrb at h
  dsimp only at h
  generalize hn : (if dc.isHighSpeed then
    min (asLong (rc.length / qc.info.maximumPacketSize) -
      (asLong (rc.length / qc.info.maximumPacketSize)).tmod 8) 1024
    else min (asLong (rc.length / qc.info.maximumPacketSize)) 256) = n at h
  have hle : n.toNat ≤ 1024 := by split_ifs at hn <;> omega
  iterate 7
    split at h
    · cases h
  cases h
  have hmul : n.toNat * qc.info.maximumPacketSize ≤ 1024 * 0xFFFF :=
    Nat.mul_le_mul hle (by omega)
  exact Nat.lt_of_le_of_lt hmul (by decide)

/-! ### The completion -/

section

variable {fw : Framework} {rc : RequestContext} {qc : QueueContext} {length : ℕ}
  {status : NTSTATUS} {packets : List (ℕ × ℕ)} {buffer : List UInt8}

theorem xferIsoRdComplete_of_failure (h : ntSuccess status = false) :
    xferIsoRdComplete fw rc length status (readResult packets) buffer qc =
      (completeWithInformation (handlePipeResetScenariosForComplete status rc qc) status 0,
        buffer) := by
  have hnot : ¬ntSuccess status = true := by simp [h]
  unfold xferIsoRdComplete
  dsimp only
  rw [if_neg fun hmove => hnot hmove.1, if_neg hnot]

/-- A read without data, and one that filled its packets, is completed as it is. -/
theorem xferIsoRdComplete_of_not_short (h : ntSuccess status = true)
    (hshort : ¬(0 < total packets ∧ total packets < length)) :
    xferIsoRdComplete fw rc length status (readResult packets) buffer qc =
      (completeWithInformation (handlePipeResetScenariosForComplete status rc qc) status
        (total packets), buffer) := by
  unfold xferIsoRdComplete
  dsimp only
  rw [if_neg fun hmove => hshort ⟨hmove.2.1, hmove.2.2.1⟩, if_pos h]
  rfl

/-- A short read is completed after the loop. -/
theorem xferIsoRdComplete_of_short (h : ntSuccess status = true)
    (hshort : 0 < total packets ∧ total packets < length)
    (hin : usbEndpointDirectionIn qc.info.endpointAddress = true)
    {final : NTSTATUS} {compacted : List UInt8}
    (hloop : isoCompact fw (packets.map packetLongs) 0 status buffer = .error final ∧
        compacted = buffer ∨
      isoCompact fw (packets.map packetLongs) 0 status buffer = .ok (final, compacted)) :
    xferIsoRdComplete fw rc length status (readResult packets) buffer qc =
      (completeWithInformation (handlePipeResetScenariosForComplete status rc qc) final
        (total packets), compacted) := by
  have hmove : ntSuccess status = true ∧ 0 < total packets ∧ total packets < length ∧
      usbEndpointDirectionIn
        (handlePipeResetScenariosForComplete status rc qc).info.endpointAddress = true := by
    rw [info_handlePipeResetScenariosForComplete]
    exact ⟨h, hshort.1, hshort.2, hin⟩
  refine (if_pos hmove).trans ?_
  rcases hloop with ⟨hloop, rfl⟩ | hloop
  · rw [show (readResult packets).packets = packets.map packetLongs from rfl, hloop]
    rfl
  · rw [show (readResult packets).packets = packets.map packetLongs from rfl, hloop]
    rfl

end

/-- The data of a read is together: its length is reported, and the user's buffer
begins with the bytes the packets received, in the order of the packets. -/
structure IsoReadCompacted (completed : Served × List UInt8) (packets : List (ℕ × ℕ))
    (buffer : List UInt8) : Prop where
  reported : ∃ status, completed.1.effects = [.complete status (total packets)]
  content : completed.2.take (total packets) = pieces buffer packets

/-- **The data of an isochronous read.**  A read that was submitted is completed
once; if it succeeds, which it does when its URB succeeded and its output buffer
can be had, the data of its packets is together. -/
theorem isoReadCompacted {fw fw' : Framework} {dc : DeviceContext} {rc : RequestContext}
    {qc qc' : QueueContext} {u : IsoUrb} (hread : isoReadUrb fw dc rc qc = .ok u)
    (hpacket : qc.info.maximumPacketSize < 0x10000)
    (hin : usbEndpointDirectionIn qc'.info.endpointAddress = true) {packets : List (ℕ × ℕ)}
    (hspaced : Spaced 0 u.transferBufferLength packets) {buffer : List UInt8}
    (hbuffer : u.transferBufferLength ≤ buffer.length) (status : NTSTATUS) :
    let completed := xferIsoRdComplete fw' rc u.transferBufferLength status (readResult packets)
      buffer qc'
    ∃ final information, completed.1.effects = [.complete final information] ∧
      (ntSuccess status = true → ntSuccess fw'.outputBuffer = true → ntSuccess final = true) ∧
      (ntSuccess final = true → IsoReadCompacted completed packets buffer) := by
  have hcompact := take_compact hspaced (Nat.zero_le 0) hbuffer
  have hle := hspaced.le
  rw [Nat.zero_add] at hcompact hle
  dsimp only
  cases hstatus : ntSuccess status with
  | false =>
    rw [xferIsoRdComplete_of_failure hstatus]
    refine ⟨status, 0, rfl, fun h => Bool.noConfusion h, fun h => ?_⟩
    rw [hstatus] at h
    cases h
  | true =>
    by_cases hshort : 0 < total packets ∧ total packets < u.transferBufferLength
    · rcases isoCompact_eq fw' hspaced (isoReadUrb_bounds hread hpacket) status buffer
        (Nat.le_refl 0) with ⟨final, hloop, hfail, hout⟩ | ⟨final, hloop, hfinal⟩
      · rw [xferIsoRdComplete_of_short hstatus hshort hin (.inl ⟨hloop, rfl⟩)]
        refine ⟨final, _, rfl, fun _ h => ?_, fun h => ?_⟩
        · rw [hout] at h
          cases h
        · rw [hfail] at h
          cases h
      · rw [xferIsoRdComplete_of_short hstatus hshort hin (.inr hloop)]
        refine ⟨final, _, rfl, fun _ hout => ?_, fun _ => ⟨⟨final, rfl⟩, hcompact⟩⟩
        rcases hfinal with rfl | rfl
        · exact hstatus
        · exact hout
    · rw [xferIsoRdComplete_of_not_short hstatus hshort]
      refine ⟨status, _, rfl, fun _ _ => hstatus, fun _ => ⟨⟨status, rfl⟩, ?_⟩⟩
      -- nothing was received, or the packets are full and the loop would move none of them
      rcases Nat.eq_zero_or_pos (total packets) with hzero | hpos
      · rw [hzero, List.take_zero] at hcompact ⊢
        exact hcompact
      · have hfull : 0 + total packets = u.transferBufferLength := by omega
        rwa [compact_of_full hspaced buffer (Nat.le_refl 0) hfull] at hcompact

theorem length_le_twoPacketRead : 8 ≤ (List.replicate 8 (0 : UInt8)).length := by decide

/-- A read of eight bytes. -/
def twoPacketRead : RequestContext where
  length := 8
  buffer := List.replicate 8 0
  length_le := length_le_twoPacketRead
  policies := { isoAlwaysStartAsap := true }

/-- A full-speed isochronous IN pipe of packets of four bytes. -/
def fourByteIsoQueue : QueueContext := { info := ⟨4, 0x81, 1, .isochronous, 0⟩ }

/-- One byte in the first packet and two in the second. -/
def twoPackets : List (ℕ × ℕ) := (isoReadOffsets 4 2).zip [1, 2]

/-- What the I/O target leaves in the user's buffer. -/
def twoPacketBuffer : List UInt8 := [0xA0, 0, 0, 0, 0xB0, 0xB1, 0, 0]

theorem isoReadUrb_twoPacketRead :
    isoReadUrb {} { isHighSpeed := false } twoPacketRead fourByteIsoQueue =
      .ok ⟨2, 8, true, [0, 4], false, 0⟩ := by
  have hcount : asLong (twoPacketRead.length / fourByteIsoQueue.info.maximumPacketSize) = 2 :=
    asLong_of_lt (by decide)
  unfold isoReadUrb
  rw [hcount]
  rfl

theorem isoReadCompacted_twoPackets :
    IsoReadCompacted (xferIsoRdComplete {} twoPacketRead 8 STATUS_SUCCESS (readResult twoPackets)
      twoPacketBuffer fourByteIsoQueue) twoPackets twoPacketBuffer := by
  obtain ⟨final, information, -, hok, hcompacted⟩ :=
    @isoReadCompacted {} {} { isHighSpeed := false } twoPacketRead fourByteIsoQueue fourByteIsoQueue
      _ isoReadUrb_twoPacketRead (by decide) (by decide) twoPackets
      (@spaced_isoReadOffsets 4 [1, 2] (by decide)) twoPacketBuffer (by decide) STATUS_SUCCESS
  exact hcompacted (hok (by decide) (by decide))

/-- When the output buffer cannot be had, the read fails, with its length, and its
data stays where it was received. -/
theorem not_isoReadCompacted_noBuffer :
    ¬IsoReadCompacted (xferIsoRdComplete { outputBuffer := 0xC000009A } twoPacketRead 8
      STATUS_SUCCESS (readResult twoPackets) twoPacketBuffer fourByteIsoQueue) twoPackets
        twoPacketBuffer := by
  intro h
  exact absurd h.content (by decide)

end LibusbK
