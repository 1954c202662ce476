import LibusbK.Dll.IsoPackets

/-!
# Isochronous transfer contexts are lists of packets

A context lies in the block `IsoK_Init` allocates.  Whatever is done with it, in whatever order,
it stands for a list of packets as many as there were in the beginning, the functions and the
transfers do to the list what they are for, and no access goes outside of the block.

## Main definitions

* `IsoBlock` — a block holds a context with some fields.
* `IsoPackets.init` — a new context.

## Main results

* `isoSubmit_eq` — a submission.
* `isoK_refines` — every run.
-/

namespace LibusbK

open Access

/-- The block holds a context with these fields, and has room for its packets. -/
structure IsoBlock (block : List UInt8) (s : IsoFields) : Prop where
  holds : isoLayout.Holds (IsoField.Good block.length) block s
  header : 16 ≤ block.length
  room : 16 + 8 * s.count ≤ block.length

/-- What a block stands for. -/
def isoContextOf (block : List UInt8) : IsoPackets :=
  IsoFields.packets fun f => (isoLayout.load f block).getD (f.ofNat 0)

/-- A new context. -/
def IsoPackets.init (numberOfPackets startFrame : Int32) : IsoPackets where
  flags := 0
  startFrame := startFrame.toUInt32
  errorCount := 0
  urbHdrStatus := 0
  packets := List.replicate numberOfPackets.toInt16.toInt.toNat ⟨0, 0, 0⟩

namespace IsoBlock

variable {block : List UInt8} {s : IsoFields}

theorem good_of_within (h : IsoBlock block s) {f : IsoField} (hf : f.Within s.count) :
    f.Good block.length := by
  have hheader := h.header
  have hroom := h.room
  refine ⟨⟨?_, ?_⟩, ?_⟩ <;> cases f <;>
    simp [IsoField.Within, IsoField.Proper, IsoField.start, IsoField.width] at hf ⊢ <;> omega

theorem load_of_within (h : IsoBlock block s) {f : IsoField} (hf : f.Within s.count) :
    isoLayout.load f block = some (s f) := h.holds f (h.good_of_within hf)

theorem isoContextOf_eq (h : IsoBlock block s) : isoContextOf block = s.packets := by
  let s' : IsoFields := fun f => (isoLayout.load f block).getD (f.ofNat 0)
  have hfield {f : IsoField} (hf : f.Within s.count) : s' f = s f := by
    show (isoLayout.load f block).getD (f.ofNat 0) = s f
    rw [h.load_of_within hf]
    rfl
  have hcount : s'.count = s.count := congrArg Int16.toInt (hfield (f := .numberOfPackets) trivial)
  have hpacket : ∀ i ∈ List.range s.count.toNat, s'.packet i = s.packet i := by
    intro i hi
    have hi : (i : ℤ) < s.count := by
      have := List.mem_range.mp hi
      omega
    simp only [IsoFields.packet, KisoPacket.mk.injEq]
    exact ⟨hfield ⟨by omega, hi⟩, hfield ⟨by omega, hi⟩, hfield ⟨by omega, hi⟩⟩
  show s'.packets = s.packets
  simp only [IsoFields.packets, IsoPackets.mk.injEq, hcount]
  exact ⟨hfield (f := .flags) trivial, hfield (f := .startFrame) trivial,
    hfield (f := .errorCount) trivial, hfield (f := .urbHdrStatus) trivial,
    List.map_congr_left hpacket⟩

/-- The driver stays inside of what has been locked, and inside of the URB. -/
theorem staysInside_complete (t : IsoCompletion) (numberOfPackets : Int16) :
    t.StaysInside numberOfPackets := by
  unfold IsoCompletion.StaysInside
  rw [IsoExTransfer.accesses_xferIsoExComplete]
  split
  · rw [isoPacketsFromUrb_inside_iff]
    -- the count ends the loop at the end of either
    refine ⟨numberOfPackets.toInt.toNat, ?_, Int.self_le_toNat _⟩
    have hlt := Int16.toInt_lt numberOfPackets
    unfold isoContextRoom isoContextSize
    omega
  · intro a ha
    cases ha

theorem staysInside {U : Type} (h : IsoBlock block s) (f : IsoFunction U) :
    f.staysInside block = true := by
  cases f with
  | complete t =>
    have hnumber := h.load_of_within (f := .numberOfPackets) trivial
    rw [IsoFunction.staysInside, hnumber, Option.all_some]
    exact decide_eq_true (staysInside_complete t _)
  | _ => rfl

/-- A function, in the memory of the context. -/
theorem function {U : Type} (h : IsoBlock block s) {f : IsoFunction U} (hf : f.Indexed) :
    ∃ block' s', f.code.runIn isoLayout block = some ((s.packets.apply f).1, block') ∧
      block'.length = block.length ∧ IsoBlock block' s' ∧
      s'.packets = (s.packets.apply f).2 := by
  have hdoes := IsoFunction.does (s := s) hf
  obtain ⟨block', hrun, hlength, hholds⟩ :=
    runIn_eq (separates_isoLayout block.length) rfl h.holds
      fun g hg => h.good_of_within (hdoes.touches g hg)
  rw [hdoes.result] at hrun
  refine ⟨block', f.code.final s, hrun, hlength, ⟨?_, ?_, ?_⟩, hdoes.packets⟩
  · rw [hlength]
    exact hholds
  · rw [hlength]
    exact h.header
  · rw [hlength, hdoes.count]
    exact h.room

end IsoBlock

/-! ### Submissions -/

/-- The copy loop, where nobody writes the context in the meantime. -/
theorem fst_isoPacketsToUrb {reads : IsoContextReads} {n : ℕ}
    (hn : ∀ pos, reads.Counts pos ↔ pos < n) (length start : ℕ) :
    (isoPacketsToUrb reads length start).1 =
      if ∀ pos ∈ List.range' start (n - start), reads.offsetTested pos < length then
        some ((List.range' start (n - start)).map reads.offsetAssigned)
      else none := by
  fun_induction isoPacketsToUrb reads length start with
  | case1 start hcount hoffset =>
    have hlt : start < n := (hn start).mp hcount
    have hmem : start ∈ List.range' start (n - start) := by
      rw [List.mem_range'_1]
      omega
    rw [if_neg fun h => Nat.not_lt.mpr hoffset (h start hmem)]
  | case2 start hcount hoffset rest ih =>
    have hlt : start < n := (hn start).mp hcount
    have hinside : reads.offsetTested start < length := Nat.lt_of_not_le hoffset
    rw [show n - start = n - (start + 1) + 1 by omega, List.range'_succ]
    simp only [rest, ih, List.forall_mem_cons, hinside, true_and, List.map_cons]
    split <;> rfl
  | case3 start hcount =>
    have hle : n ≤ start := Nat.not_lt.mp (mt (hn start).mpr hcount)
    rw [Nat.sub_eq_zero_of_le hle]
    simp

theorem sentOffsets_after {es : List Effect} (h : ∀ e ∈ es, e.isQuiet = true) (served : Served) :
    (served.after es).sentOffsets = served.sentOffsets := by
  unfold Served.sentOffsets
  rw [Served.effects_after, List.findSome?_append, List.findSome?_eq_none_iff.mpr, Option.none_or]
  intro e he
  have hquiet := h e he
  cases e with
  | resetPipe status | discard bytes => rfl
  | send routine memory | complete status information => cases hquiet

/-- The URB that is sent. -/
theorem sentOffsets_submitUrb (fw : Framework) (qc : QueueContext) (routine : Routine)
    (urb : IsoUrb) :
    (submitUrb fw qc routine urb).sentOffsets =
      if ntSuccess fw.formatRequest = true ∧ fw.send = true then some urb.offsets else none := by
  unfold submitUrb
  rw [ntSuccess_submitAsyncQueueRequest]
  cases ntSuccess fw.formatRequest <;> cases fw.send <;> rfl

/-- The offsets of the URB `XferIsoEx` sends. -/
theorem sentOffsets_xferIsoEx (fw : Framework) (dc : DeviceContext) (rc : RequestContext)
    (qc : QueueContext) (reads : IsoContextReads) :
    (xferIsoEx fw dc rc qc reads).1.sentOffsets =
      if ntSuccess (isoExStatus fw dc rc reads) = true ∧
          ntSuccess fw.formatRequest = true ∧ fw.send = true then
        (isoPacketsToUrb reads rc.length 0).1
      else none := by
  have hquiet := isQuiet_of_mem_handlePipeResetScenarios fw rc qc
  unfold xferIsoEx
  cases hstatus : ntSuccess (isoExStatus fw dc rc reads) with
  | false =>
    simp only [Bool.false_eq_true, false_and, if_false]
    rw [if_pos (by simp [hstatus])]
    rfl
  | true =>
    simp only [hstatus, Bool.not_true, Bool.false_eq_true, if_false, true_and]
    split
    next hcopied =>
      rw [sentOffsets_after hquiet, hcopied, ite_self]
      rfl
    next offsets hcopied =>
      rw [sentOffsets_after hquiet, sentOffsets_submitUrb, hcopied]

/-- A submission, as the driver sees it, with a context of `numberOfPackets` packets. -/
def IsoSubmission.transfer (t : IsoSubmission) (numberOfPackets : Int16)
    (flags startFrame : UInt32) (offset : ℕ → UInt32) : IsoExTransfer where
  fw := t.fw
  dc := t.dc
  rc := { t.rc with
    isoContextSize := if t.locks then some (isoContextSize numberOfPackets) else none }
  qc := t.qc
  reads := isoContextReads numberOfPackets flags startFrame offset
  completeFw := t.fw
  status := STATUS_SUCCESS
  urb := {}
  updateLoop _ := numberOfPackets

section Transfer

variable {t : IsoSubmission} {numberOfPackets : Int16} {flags startFrame : UInt32}
  {offset : ℕ → UInt32}

theorem count_of_copies (h : (t.transfer numberOfPackets flags startFrame offset).Copies) :
    0 < numberOfPackets.toInt := by
  have hnonneg : 0 ≤ numberOfPackets.toInt := h.count_nonneg
  have hne : numberOfPackets.toInt ≠ 0 := fun h0 => h.count_ne_zero (Int16.toInt_inj.mp h0)
  omega

/-- A transfer that is taken is sent, unless there is something wrong with an offset. -/
theorem takes_iff :
    t.Takes numberOfPackets.toInt.toNat ↔
      (t.transfer numberOfPackets flags startFrame offset).Copies ∧
        ntSuccess t.fw.formatRequest = true ∧ t.fw.send = true := by
  constructor
  · rintro ⟨h₁, h₂, h₃, h₄, h₅, h₆, h₇, h₈, h₉, h₁₀, h₁₁, h₁₂⟩
    have hpos : 0 < numberOfPackets.toInt := by omega
    refine ⟨⟨h₂, h₃, h₄, ?_, h₅, h₆, ?_, Int.le_of_lt hpos, fun hs => ?_, h₉, h₁₀⟩, h₁₁, h₁₂⟩
    · show (if t.locks then some (isoContextSize numberOfPackets) else none) ≠ none
      rw [if_pos h₁]
      nofun
    · intro h0
      rw [show numberOfPackets = 0 from h0] at hpos
      exact absurd hpos (by decide)
    · have := h₈ hs
      show numberOfPackets.toInt.tmod 8 = 0
      rw [Int.tmod_eq_emod_of_nonneg (Int.le_of_lt hpos)]
      omega
  · rintro ⟨h, hformat, hsend⟩
    have hpos := count_of_copies h
    refine ⟨?_, h.requestContext, h.requestQueue, h.queueContext, h.contextBuffer,
      h.wdmPipeHandle, by omega, fun hs => ?_, h.transferMdl, h.memoryCreate, hformat, hsend⟩
    · cases hlocks : t.locks with
      | true => rfl
      | false => exact absurd (if_neg (by simp [hlocks])) h.contextMemory
    · have hmod : numberOfPackets.toInt.tmod 8 = 0 := h.count_mod hs
      rw [Int.tmod_eq_emod_of_nonneg (Int.le_of_lt hpos)] at hmod
      omega

/-- The driver stays inside the context and inside the URB. -/
theorem submission_inside {room : ℕ} (hroom : numberOfPackets.toInt.toNat ≤ room) :
    ∀ a ∈ (t.transfer numberOfPackets flags startFrame offset).submission.2,
      a.Inside (min room (isoContextRoom (isoContextSize numberOfPackets)))
        numberOfPackets.toInt.toNat := by
  rw [IsoExTransfer.submission_inside_iff]
  intro hcopies
  have hpos := count_of_copies hcopies
  have hlt := Int16.toInt_lt numberOfPackets
  have hmin : min room (isoContextRoom (isoContextSize numberOfPackets)) =
      numberOfPackets.toInt.toNat := by
    unfold isoContextRoom isoContextSize
    omega
  -- the count ends the copy loop at the end of either
  have hcount : ¬(t.transfer numberOfPackets flags startFrame offset).reads.Counts
      numberOfPackets.toInt.toNat := by
    show ¬((numberOfPackets.toInt.toNat : ℕ) : ℤ) < numberOfPackets.toInt
    omega
  rw [hmin]
  exact ⟨fun h => hcount h.2, fun h => hcount (h _ (Nat.lt_succ_self _)).1⟩

/-- What is sent. -/
theorem sentOffsets_transfer :
    (t.transfer numberOfPackets flags startFrame offset).submission.1.sentOffsets =
      if t.Takes numberOfPackets.toInt.toNat ∧
          ∀ i ∈ List.range numberOfPackets.toInt.toNat, (offset i).toNat < t.rc.length then
        some ((List.range numberOfPackets.toInt.toNat).map fun i => (offset i).toNat)
      else none := by
  have hcounts (pos : ℕ) : (t.transfer numberOfPackets flags startFrame offset).reads.Counts pos ↔
      pos < numberOfPackets.toInt.toNat := by
    show (pos : ℤ) < numberOfPackets.toInt ↔ _
    omega
  have hcopied := fst_isoPacketsToUrb hcounts t.rc.length 0
  rw [Nat.sub_zero, ← List.range_eq_range'] at hcopied
  have htakes := @takes_iff t numberOfPackets flags startFrame offset
  rw [IsoExTransfer.copies_iff] at htakes
  exact (sentOffsets_xferIsoEx _ _ _ _ _).trans
    ((if_congr htakes.symm hcopied rfl).trans (ite_and _ _ _ _).symm)

end Transfer

/-- **A submission** takes the places of the packets from the list the context stands for. -/
theorem isoSubmit_eq {block : List UInt8} {s : IsoFields} (h : IsoBlock block s)
    (t : IsoSubmission) : isoSubmit t block = some (s.packets.submit t) := by
  have hroom : (s .numberOfPackets).toInt.toNat ≤ isoContextRoom block.length := by
    have := h.room
    have hcount : s.count = (s .numberOfPackets).toInt := rfl
    unfold isoContextRoom
    omega
  have hnumber := h.load_of_within (f := .numberOfPackets) trivial
  have hflags := h.load_of_within (f := .flags) trivial
  have hstart := h.load_of_within (f := .startFrame) trivial
  have hinside := @submission_inside t _ (s .flags) (s .startFrame)
    (fun posPacket => (isoLayout.load (.offset posPacket) block).getD (0 : UInt32)) _ hroom
  simp only [isoSubmit, hnumber, hflags, hstart, Option.bind_eq_bind, Option.bind_some]
  refine (if_pos hinside).trans (congrArg some (sentOffsets_transfer.trans ?_))
  have hoffset : ∀ i ∈ List.range s.count.toNat,
      (isoLayout.load (.offset i) block).getD (0 : UInt32) = (s.packet i).offset := by
    intro i hi
    have hwithin : (IsoField.offset i).Within s.count := by
      have := List.mem_range.mp hi
      exact ⟨by omega, by omega⟩
    rw [h.load_of_within hwithin]
    rfl
  refine if_congr (and_congr ?_ ?_) (congrArg some ?_) rfl
  · rw [length_packets]
    rfl
  · show _ ↔ ∀ packet ∈ (List.range s.count.toNat).map s.packet, _
    rw [List.forall_mem_map]
    exact forall₂_congr fun i hi => by rw [hoffset i hi]
  · show _ = ((List.range s.count.toNat).map s.packet).map _
    rw [List.map_map]
    exact List.map_congr_left fun i hi => congrArg UInt32.toNat (hoffset i hi)

/-! ### Runs -/

section Runs

variable {U : Type} {block : List UInt8} {s : IsoFields}

/-- A call. -/
theorem IsoBlock.call (h : IsoBlock block s) {call : IsoCall U} (hcall : call.Indexed) :
    ∃ block' s', call.run block = some ((s.packets.run call).1, block') ∧
      block'.length = block.length ∧ IsoBlock block' s' ∧
      s'.packets = (s.packets.run call).2 := by
  cases call with
  | function f =>
    obtain ⟨block', s', hrun, h'⟩ := h.function hcall
    exact ⟨block', s', (if_pos (h.staysInside f)).trans hrun, h'⟩
  | submit t =>
    refine ⟨block, s, ?_, rfl, h, rfl⟩
    show (isoSubmit t block).map _ = _
    rw [isoSubmit_eq h]
    rfl

theorem IsoBlock.calls {calls : List (IsoCall U)} :
    ∀ {block : List UInt8} {s : IsoFields}, IsoBlock block s →
      (∀ call ∈ calls, call.Indexed) →
      ∃ block' s', IsoCall.runAll calls block = some ((s.packets.runAll calls).1, block') ∧
        block'.length = block.length ∧ IsoBlock block' s' ∧
        s'.packets = (s.packets.runAll calls).2 := by
  induction calls with
  | nil =>
    intro block s h _
    exact ⟨block, s, rfl, rfl, h, rfl⟩
  | cons call calls ih =>
    intro block s h hcalls
    obtain ⟨hcall, hcalls⟩ := List.forall_mem_cons.mp hcalls
    obtain ⟨block₁, s₁, hrun, hlength, h₁, hpackets⟩ := h.call hcall
    obtain ⟨block', s', hrest, hlength', h', hpackets'⟩ := ih h₁ hcalls
    rw [hpackets] at hrest hpackets'
    refine ⟨block', s', ?_, hlength'.trans hlength, h', hpackets'⟩
    show ((call.run block).bind fun next => _) = _
    rw [hrun, Option.bind_some, hrest]
    rfl

end Runs

/-! ### New contexts -/

section Init

variable {sizeT : SizeT} {numberOfPackets startFrame : Int32}

/-- A context has room for a header, or it has less than the half of one. -/
theorem contextSize_lt_iff :
    sizeT.contextSize numberOfPackets < 12 ↔
      (numberOfPackets.toInt + 2) % (sizeT.range / 8 : ℕ) < 2 := by
  cases sizeT <;> simp only [SizeT.contextSize, SizeT.range] <;> omega

theorem contextSize_room (h : ¬sizeT.contextSize numberOfPackets < 12) :
    16 ≤ sizeT.contextSize numberOfPackets ∧
      16 + 8 * numberOfPackets.toInt16.toInt ≤ sizeT.contextSize numberOfPackets := by
  have hcount : numberOfPackets.toInt16.toInt = numberOfPackets.toInt.bmod 0x10000 :=
    Int32.toInt_toInt16 numberOfPackets
  rw [hcount, Int.bmod_def]
  cases sizeT <;> simp only [SizeT.contextSize, SizeT.range] at h ⊢ <;> split <;> omega

/-- A new block is zero in every field. -/
theorem holds_replicate (size : ℕ) :
    isoLayout.Holds (IsoField.Good size) (List.replicate size 0) fun f => f.ofNat 0 := by
  intro f hf
  have hfits : f.Fits (List.replicate size (0 : UInt8)).length := by
    rw [List.length_replicate]
    exact hf.1
  show (if _ then _ else none) = _
  rw [if_pos hfits, LittleEndian.load_replicate_zero]

theorem isoKInit_of_room (h : 16 ≤ sizeT.contextSize numberOfPackets)
    (hroom : 16 + 8 * numberOfPackets.toInt16.toInt ≤ sizeT.contextSize numberOfPackets) :
    ∃ block s, isoKInit sizeT numberOfPackets startFrame = some block ∧ IsoBlock block s ∧
      s.packets = .init numberOfPackets startFrame := by
  have hgood : ∀ f, (isoKInitCode numberOfPackets startFrame).Touches (fun f => f.ofNat 0) f →
      f.Good (sizeT.contextSize numberOfPackets) := by
    intro f hf
    simp [isoKInitCode] at hf
    rcases hf with rfl | rfl <;>
      refine ⟨⟨by decide, ?_⟩, trivial⟩ <;> simp [IsoField.start, IsoField.width] <;> omega
  obtain ⟨block, hrun, hlength, hholds⟩ :=
    runIn_eq (separates_isoLayout _) List.length_replicate (holds_replicate _) hgood
  refine ⟨block, _, ?_, ⟨hlength.symm ▸ hholds, hlength.symm ▸ h, ?_⟩, ?_⟩
  · rw [isoKInit, hrun]
    rfl
  · rw [hlength]
    exact hroom
  · have hcount : IsoFields.count
        ((isoKInitCode numberOfPackets startFrame).final fun f => f.ofNat 0) =
        numberOfPackets.toInt16.toInt := by
      simp [isoKInitCode, IsoFields.count]
    have hpacket (i : ℕ) : IsoFields.packet
        ((isoKInitCode numberOfPackets startFrame).final fun f => f.ofNat 0) i = ⟨0, 0, 0⟩ := by
      simp [isoKInitCode, IsoFields.packet, IsoField.ofNat]
    simp only [IsoFields.packets, IsoPackets.init, IsoPackets.mk.injEq, hcount]
    refine ⟨rfl, by simp [isoKInitCode], rfl, rfl, ?_⟩
    rw [List.map_congr_left fun i _ => hpacket i, List.map_const', List.length_range]

/-- The header does not fit a block of eight bytes or none. -/
theorem isoKInit_of_lt (h : sizeT.contextSize numberOfPackets < 12) :
    isoKInit sizeT numberOfPackets startFrame = none := by
  have hfits : ¬IsoField.numberOfPackets.Fits
      (List.replicate (sizeT.contextSize numberOfPackets) (0 : UInt8)).length := by
    rw [List.length_replicate]
    intro hfits
    have : (10 : ℤ) + 2 ≤ sizeT.contextSize numberOfPackets := hfits.2
    omega
  have hstore : isoLayout.store .numberOfPackets numberOfPackets.toInt16
      (List.replicate (sizeT.contextSize numberOfPackets) 0) = none := if_neg hfits
  show ((isoLayout.store .numberOfPackets numberOfPackets.toInt16 _).bind _).map _ = none
  rw [hstore]
  rfl

end Init

/-- **A context is a list of packets.**  `IsoK_Init` writes outside of the block it allocates
exactly when the size of the block comes out at less than a header.  Otherwise, whatever is done
with the context in whatever order, with packets that have an index, nothing is read or written
outside of the block, and the calls return what they return of the list of packets and leave
what they leave of it. -/
theorem isoK_refines (U : Type) (sizeT : SizeT) (numberOfPackets startFrame : Int32) :
    (isoKInit sizeT numberOfPackets startFrame = none ↔
      (numberOfPackets.toInt + 2) % (sizeT.range / 8 : ℕ) < 2) ∧
    ∀ block, isoKInit sizeT numberOfPackets startFrame = some block →
      ∀ calls : List (IsoCall U), (∀ call ∈ calls, call.Indexed) →
        let run := (IsoPackets.init numberOfPackets startFrame).runAll calls
        ∃ block', IsoCall.runAll calls block = some (run.1, block') ∧
          block'.length = block.length ∧ isoContextOf block' = run.2 := by
  rw [← contextSize_lt_iff]
  by_cases hsize : sizeT.contextSize numberOfPackets < 12
  · rw [isoKInit_of_lt hsize]
    exact ⟨⟨fun _ => hsize, fun _ => rfl⟩, fun _ h => nomatch h⟩
  · obtain ⟨hheader, hroom⟩ := contextSize_room hsize
    obtain ⟨block, s, hinit, hblock, hpackets⟩ :=
      @isoKInit_of_room _ _ startFrame hheader hroom
    rw [hinit]
    refine ⟨⟨nofun, fun h => absurd h hsize⟩, ?_⟩
    rintro _ ⟨⟩ calls hcalls
    obtain ⟨block', s', hrun, hlength, hblock', hpackets'⟩ := hblock.calls hcalls
    rw [hpackets] at hrun hpackets'
    exact ⟨block', hrun, hlength, hblock'.isoContextOf_eq.trans hpackets'⟩

theorem length_le_eightBytes : 8 ≤ (List.replicate 8 (0 : UInt8)).length := by decide

/-- Eight bytes for a pipe of a full-speed device. -/
def eightBytes : IsoSubmission where
  locks := true
  fw := {}
  dc := { isHighSpeed := false }
  rc := { length := 8, buffer := List.replicate 8 0, length_le := length_le_eightBytes }
  qc := { info := ⟨4, 0x81, 1, .isochronous, 64⟩ }

/-- The second of two packets has received three bytes. -/
def secondPacket : IsoCompletion where
  fw := {}
  rc := eightBytes.rc
  qc := eightBytes.qc
  status := STATUS_SUCCESS
  urb := { isoPacket := fun pos => if pos = 1 then (3, 0) else (0, 0) }

theorem isoK_refines_transfer :
    ∃ block block', isoKInit .bits64 2 7 = some block ∧
      @IsoCall.runAll Unit [.function (.setPackets 4), .submit eightBytes,
          .function (.complete secondPacket), .function (.getPacket 1)] block =
        some ([.success, .submitted (some [0, 4]), .success, .packet ⟨4, 3, 0⟩], block') := by
  have hinit : isoKInit .bits64 2 7 ≠ none := by
    rw [ne_eq, (isoK_refines Unit .bits64 2 7).1]
    decide
  obtain ⟨block, hblock⟩ := Option.ne_none_iff_exists'.mp hinit
  have hcalls : ∀ call ∈ [IsoCall.function (.setPackets 4), .submit eightBytes,
      .function (.complete secondPacket), .function (.getPacket 1)],
      IsoCall.Indexed (U := Unit) call := by
    intro call hcall
    simp only [List.mem_cons, List.not_mem_nil, or_false] at hcall
    rcases hcall with rfl | rfl | rfl | rfl
    · trivial
    · trivial
    · trivial
    · show (0 : ℤ) ≤ 1
      decide
  obtain ⟨block', hrun, -⟩ := (isoK_refines Unit .bits64 2 7).2 block hblock _ hcalls
  exact ⟨block, block', hblock, hrun⟩

end LibusbK
