import LibusbK.Driver.Iso

/-!
# The packet arrays of an isochronous transfer

`XferIsoEx` copies packet offsets from the caller's context memory to the URB it
allocates, and `XferIsoExComplete` copies lengths and statuses back.  The size of
the context memory is never looked at, and the number of packets is fetched from
it again for every iteration of either loop.

## Main definitions

* `IsoExTransfer` — one transfer: its submission and, if it is sent, its
  completion, with every value fetched from the context memory.
* `IsoExTransfer.PacketsInside` — every packet array element touched lies inside
  the context memory or inside the URB.
* `IsoExTransfer.LoopsStop` — the loops meet a count or an offset that ends them
  before they get outside.

## Main results

* `isoEx_packetsInside_iff` — the two are the same.
-/

namespace LibusbK

/-! ### The two arrays -/

/-- The number of `KISO_PACKET` elements, of eight bytes each, in a context of
`size` bytes, of which the header takes sixteen. -/
def isoContextRoom (size : ℕ) : ℕ := (size - 16) / 8

/-- The element touched exists, in a context of `contextRoom` and an URB of
`urbRoom` elements. -/
def IsoAccess.Inside (contextRoom urbRoom : ℕ) : IsoAccess → Prop
  | .readContext pos => pos < contextRoom
  | .writeUrb pos _ => pos < urbRoom
  | .readUrb pos => pos < urbRoom
  | .writeContext pos _ _ => pos < contextRoom

/-! ### The loops -/

namespace IsoContextReads

variable (reads : IsoContextReads) (length : ℕ)

/-- The count fetched at `pos` lets the copy loop go on. -/
def Counts (pos : ℕ) : Prop := (pos : ℤ) < (reads.copyLoop pos).toInt

/-- The copy loop copies all packets before `pos`: their counts let it go on, and
their offsets are inside the transfer buffer. -/
def CopiesBefore (pos : ℕ) : Prop :=
  ∀ j < pos, reads.Counts j ∧ reads.offsetTested j < length

end IsoContextReads

/-- What the copy loop touches, started at `start`. -/
theorem mem_isoPacketsToUrb (reads : IsoContextReads) (length start : ℕ) (a : IsoAccess) :
    a ∈ (isoPacketsToUrb reads length start).2 ↔
      ∃ pos ≥ start, (∀ j, start ≤ j → j < pos → reads.Counts j ∧ reads.offsetTested j < length) ∧
        reads.Counts pos ∧ (a = .readContext pos ∨
          reads.offsetTested pos < length ∧ a = .writeUrb pos (reads.offsetAssigned pos)) := by
  fun_induction isoPacketsToUrb reads length start with
  | case1 start hcount hoffset =>
    simp only [List.mem_singleton]
    constructor
    · rintro rfl
      exact ⟨start, Nat.le_refl _, fun j h₁ h₂ => absurd h₁ (by omega), hcount, .inl rfl⟩
    · rintro ⟨pos, hpos, hbefore, -, ha⟩
      -- the offset at the start ends the loop, so nothing comes after it
      have : pos = start := by
        by_cases hlt : start < pos
        · exact absurd (hbefore start (Nat.le_refl _) hlt).2 (by omega)
        · omega
      subst this
      rcases ha with rfl | ⟨hlt, -⟩
      · rfl
      · omega
  | case2 start hcount hoffset rest ih =>
    simp only [List.mem_cons, rest, ih]
    constructor
    · rintro (rfl | rfl | ⟨pos, hpos, hbefore, h⟩)
      · exact ⟨start, Nat.le_refl _, fun j h₁ h₂ => absurd h₁ (by omega), hcount, .inl rfl⟩
      · exact ⟨start, Nat.le_refl _, fun j h₁ h₂ => absurd h₁ (by omega), hcount,
          .inr ⟨by omega, rfl⟩⟩
      · refine ⟨pos, by omega, fun j h₁ h₂ => ?_, h⟩
        rcases Nat.eq_or_lt_of_le h₁ with rfl | hlt
        · exact ⟨hcount, by omega⟩
        · exact hbefore j hlt h₂
    · rintro ⟨pos, hpos, hbefore, h⟩
      rcases Nat.eq_or_lt_of_le hpos with rfl | hlt
      · rcases h.2 with rfl | ⟨-, rfl⟩
        · exact .inl rfl
        · exact .inr (.inl rfl)
      · exact .inr (.inr ⟨pos, hlt, fun j h₁ h₂ => hbefore j (by omega) h₂, h⟩)
  | case3 start hcount =>
    simp only [List.not_mem_nil, false_iff]
    rintro ⟨pos, hpos, hbefore, hpos', -⟩
    rcases Nat.eq_or_lt_of_le hpos with rfl | hlt
    · exact hcount hpos'
    · exact hcount (hbefore start (Nat.le_refl _) hlt).1

/-- The copy loop stays inside if and only if it does not come to the first
element outside. -/
theorem isoPacketsToUrb_inside_iff (reads : IsoContextReads) (length contextRoom urbRoom : ℕ) :
    (∀ a ∈ (isoPacketsToUrb reads length 0).2, a.Inside contextRoom urbRoom) ↔
      ¬(reads.CopiesBefore length contextRoom ∧ reads.Counts contextRoom) ∧
        ¬reads.CopiesBefore length (urbRoom + 1) := by
  simp only [mem_isoPacketsToUrb]
  constructor
  · intro h
    constructor
    · rintro ⟨hbefore, hcount⟩
      have hin := h (.readContext contextRoom)
        ⟨contextRoom, Nat.zero_le _, fun j _ hj => hbefore j hj, hcount, .inl rfl⟩
      exact Nat.lt_irrefl _ hin
    · intro hbefore
      have hat := hbefore urbRoom (Nat.lt_succ_self _)
      have hin := h (.writeUrb urbRoom (reads.offsetAssigned urbRoom))
        ⟨urbRoom, Nat.zero_le _, fun j _ hj => hbefore j (Nat.lt_succ_of_lt hj), hat.1,
          .inr ⟨hat.2, rfl⟩⟩
      exact Nat.lt_irrefl _ hin
  · rintro ⟨hcontext, hurb⟩ a ⟨pos, -, hbefore, hcount, rfl | ⟨hoffset, rfl⟩⟩
    · show pos < contextRoom
      by_cases hlt : pos < contextRoom
      · exact hlt
      · refine absurd ⟨fun j hj => hbefore j (Nat.zero_le _) (by omega), ?_⟩ hcontext
        rcases Nat.eq_or_lt_of_le (Nat.le_of_not_lt hlt) with rfl | hgt
        · exact hcount
        · exact (hbefore contextRoom (Nat.zero_le _) hgt).1
    · show pos < urbRoom
      by_cases hlt : pos < urbRoom
      · exact hlt
      · refine absurd (fun j hj => ?_) hurb
        rcases Nat.eq_or_lt_of_le (show j ≤ pos by omega) with rfl | hjlt
        · exact ⟨hcount, hoffset⟩
        · exact hbefore j (Nat.zero_le _) hjlt

/-- When the copy loop ends without an error. -/
theorem isSome_isoPacketsToUrb (reads : IsoContextReads) (length start : ℕ) :
    (isoPacketsToUrb reads length start).1.isSome = true ↔
      ∃ pos ≥ start, (∀ j, start ≤ j → j < pos → reads.Counts j ∧ reads.offsetTested j < length) ∧
        ¬reads.Counts pos := by
  fun_induction isoPacketsToUrb reads length start with
  | case1 start hcount hoffset =>
    simp only [Option.isSome_none, Bool.false_eq_true, false_iff]
    rintro ⟨pos, hpos, hbefore, hstop⟩
    rcases Nat.eq_or_lt_of_le hpos with rfl | hlt
    · exact hstop hcount
    · exact absurd (hbefore start (Nat.le_refl _) hlt).2 (by omega)
  | case2 start hcount hoffset rest ih =>
    simp only [Option.isSome_map, rest, ih]
    constructor
    · rintro ⟨pos, hpos, hbefore, hstop⟩
      refine ⟨pos, by omega, fun j h₁ h₂ => ?_, hstop⟩
      rcases Nat.eq_or_lt_of_le h₁ with rfl | hlt
      · exact ⟨hcount, by omega⟩
      · exact hbefore j hlt h₂
    · rintro ⟨pos, hpos, hbefore, hstop⟩
      rcases Nat.eq_or_lt_of_le hpos with rfl | hlt
      · exact absurd hcount hstop
      · exact ⟨pos, hlt, fun j h₁ h₂ => hbefore j (by omega) h₂, hstop⟩
  | case3 start hcount =>
    simp only [Option.isSome_some, true_iff]
    exact ⟨start, Nat.le_refl _, fun j h₁ h₂ => absurd h₁ (by omega), hcount⟩

/-- What the update loop touches, started at `start`. -/
theorem forall_mem_isoPacketsFromUrb (updateLoop : ℕ → Int16) (urb : IsoExUrb) (start : ℕ)
    {contextRoom urbRoom : ℕ} :
    (∀ a ∈ isoPacketsFromUrb updateLoop urb start, a.Inside contextRoom urbRoom) ↔
      ∀ pos ≥ start, (∀ j, start ≤ j → j ≤ pos → (j : ℤ) < (updateLoop j).toInt) →
        pos < contextRoom ∧ pos < urbRoom := by
  fun_induction isoPacketsFromUrb updateLoop urb start with
  | case1 start hcount packet ih =>
    rw [List.forall_mem_cons, List.forall_mem_cons, ih]
    constructor
    · rintro ⟨hurb, hcontext, h⟩ pos hpos hbefore
      rcases Nat.eq_or_lt_of_le hpos with rfl | hlt
      · exact ⟨hcontext, hurb⟩
      · exact h pos hlt fun j h₁ h₂ => hbefore j (by omega) h₂
    · intro h
      have hstart := h start (Nat.le_refl _) fun j h₁ h₂ => by
        cases Nat.le_antisymm h₂ h₁
        exact hcount
      refine ⟨hstart.2, hstart.1, fun pos hpos hbefore => h pos (by omega) fun j h₁ h₂ => ?_⟩
      rcases Nat.eq_or_lt_of_le h₁ with rfl | hlt
      · exact hcount
      · exact hbefore j hlt h₂
  | case2 start hcount =>
    simp only [List.not_mem_nil, false_implies, implies_true, true_iff]
    exact fun pos hpos hbefore => absurd (hbefore start (Nat.le_refl _) hpos) hcount

/-- The update loop stays inside if and only if it is ended before it comes to
the first element outside. -/
theorem isoPacketsFromUrb_inside_iff (updateLoop : ℕ → Int16) (urb : IsoExUrb)
    (contextRoom urbRoom : ℕ) :
    (∀ a ∈ isoPacketsFromUrb updateLoop urb 0, a.Inside contextRoom urbRoom) ↔
      ∃ pos ≤ min contextRoom urbRoom, (updateLoop pos).toInt ≤ pos := by
  rw [forall_mem_isoPacketsFromUrb]
  constructor
  · intro h
    by_cases hstop : ∃ pos ≤ min contextRoom urbRoom, (updateLoop pos).toInt ≤ pos
    · exact hstop
    · have hgo : ∀ j ≤ min contextRoom urbRoom, (j : ℤ) < (updateLoop j).toInt := by
        intro j hj
        by_cases hlt : (j : ℤ) < (updateLoop j).toInt
        · exact hlt
        · exact absurd ⟨j, hj, by omega⟩ hstop
      have := h (min contextRoom urbRoom) (Nat.zero_le _) fun j _ hj => hgo j hj
      omega
  · rintro ⟨stop, hstop, hcount⟩ pos - hgo
    have hlt : pos < stop := by
      by_cases hlt : pos < stop
      · exact hlt
      · exact absurd (hgo stop (Nat.zero_le _) (by omega)) (by omega)
    omega

/-! ### One transfer -/

/-- A transfer with a packet context: what the framework and the context memory
answer during `XferIsoEx`, and what they answer during `XferIsoExComplete` should
the transfer be sent. -/
structure IsoExTransfer where
  fw : Framework
  dc : DeviceContext
  rc : RequestContext
  qc : QueueContext
  reads : IsoContextReads
  completeFw : Framework
  status : NTSTATUS
  urb : IsoExUrb
  updateLoop : ℕ → Int16

namespace IsoExTransfer

variable (t : IsoExTransfer)

/-- What `XferIsoEx` does. -/
def submission : Served × List IsoAccess := xferIsoEx t.fw t.dc t.rc t.qc t.reads

/-- What `XferIsoExComplete` touches, which is called if the transfer was sent. -/
def completion : List IsoAccess :=
  if t.submission.1.effects.any Effect.isSend then
    (xferIsoExComplete t.completeFw t.rc t.status t.urb t.updateLoop
      t.submission.1.queue).accesses
  else []

/-- The packet array elements the transfer touches. -/
def accesses : List IsoAccess := t.submission.2 ++ t.completion

/-- Every element touched lies inside the context memory or inside the URB, which
has room for as many elements as `getIsoUrbRoom` says for the number of packets
it was allocated for. -/
def PacketsInside (getIsoUrbRoom : Int16 → ℕ) : Prop :=
  ∀ a ∈ t.accesses,
    a.Inside (isoContextRoom (t.rc.isoContextSize.getD 0)) (getIsoUrbRoom t.reads.urbSize)

/-- `XferIsoEx` finds nothing wrong and gets to its copy loop. -/
structure Copies : Prop where
  requestContext : t.fw.requestContext = true
  requestQueue : t.rc.queueContext = true
  queueContext : t.fw.queueContext = true
  contextMemory : t.rc.isoContextSize ≠ none
  contextBuffer : t.fw.contextBuffer = true
  wdmPipeHandle : t.fw.wdmPipeHandle = true
  count_ne_zero : t.reads.zeroTest ≠ 0
  count_nonneg : 0 ≤ t.reads.signTest.toInt
  count_mod : t.dc.isHighSpeed = true → t.reads.highSpeedTest.toInt.tmod 8 = 0
  transferMdl : ntSuccess t.fw.transferMdl = true
  memoryCreate : ntSuccess t.fw.memoryCreate = true

/-- The transfer is sent: the copy loop ends with a count, and the framework takes
the request. -/
structure IsSent : Prop where
  copies : t.Copies
  copied : ∃ pos, t.reads.CopiesBefore t.rc.length pos ∧ ¬t.reads.Counts pos
  formatRequest : ntSuccess t.fw.formatRequest = true
  send : t.fw.send = true

/-- The transfer is sent and `XferIsoExComplete` gets to its update loop. -/
structure Updates : Prop where
  sent : t.IsSent
  urbBuffer : t.completeFw.urbBuffer = true
  requestContext : t.completeFw.requestContext = true
  not_cancelled : t.status ≠ STATUS_CANCELLED
  connected : t.status ≠ STATUS_DEVICE_NOT_CONNECTED
  succeeds : ntSuccess t.status = true ∨ t.urb.headerStatus = 0

/-- A loop that is run meets a count, or for the copy loop an offset outside the
transfer buffer, that ends it before it comes to the first element outside. -/
structure LoopsStop (getIsoUrbRoom : Int16 → ℕ) : Prop where
  copyContext : t.Copies →
    ¬(t.reads.CopiesBefore t.rc.length (isoContextRoom (t.rc.isoContextSize.getD 0)) ∧
      t.reads.Counts (isoContextRoom (t.rc.isoContextSize.getD 0)))
  copyUrb : t.Copies → ¬t.reads.CopiesBefore t.rc.length (getIsoUrbRoom t.reads.urbSize + 1)
  update : t.Updates →
    ∃ pos ≤ min (isoContextRoom (t.rc.isoContextSize.getD 0)) (getIsoUrbRoom t.reads.urbSize),
      (t.updateLoop pos).toInt ≤ pos

/-! ### From one invocation to the loops -/

theorem copies_iff : t.Copies ↔ ntSuccess (isoExStatus t.fw t.dc t.rc t.reads) = true := by
  unfold isoExStatus
  simp (disch := decide) only [ntSuccess_guard, ntSuccess_ite, ntSuccess_validateRequestContext]
  simp only [Bool.not_eq_true', Bool.not_eq_false, not_or, not_and]
  constructor
  · rintro ⟨h₁, h₂, h₃, h₄, h₅, h₆, h₇, h₈, h₉, h₁₀, h₁₁⟩
    exact ⟨⟨h₁, h₂⟩, h₃, h₄, h₅, h₆, ⟨h₇, by omega⟩, fun hs hne => hne (h₉ hs), h₁₀, h₁₁⟩
  · rintro ⟨⟨h₁, h₂⟩, h₃, h₄, h₅, h₆, ⟨h₇, h₈⟩, h₉, h₁₀, h₁₁⟩
    exact ⟨h₁, h₂, h₃, h₄, h₅, h₆, h₇, by omega, fun hs => Decidable.not_not.mp (h₉ hs), h₁₀, h₁₁⟩

/-- The submission touches what its copy loop touches, if it gets there. -/
theorem accesses_submission_of_copies (h : t.Copies) :
    t.submission.2 = (isoPacketsToUrb t.reads t.rc.length 0).2 := by
  rw [copies_iff] at h
  unfold submission xferIsoEx
  simp only [h, Bool.not_true, Bool.false_eq_true, if_false]
  split <;> simp [*]

theorem accesses_submission_of_not_copies (h : ¬t.Copies) : t.submission.2 = [] := by
  rw [copies_iff] at h
  unfold submission xferIsoEx
  simp [h]

theorem any_isSend_of_isQuiet {es : List Effect} (h : ∀ e ∈ es, e.isQuiet = true) :
    es.any Effect.isSend = false := by
  rw [List.any_eq_false]
  intro e he
  have := h e he
  cases e <;> simp_all [Effect.isQuiet, Effect.isSend]

theorem any_isSend_submitUrb (fw : Framework) (qc : QueueContext) (routine : Routine)
    (urb : IsoUrb) : (submitUrb fw qc routine urb).effects.any Effect.isSend =
      (ntSuccess fw.formatRequest && fw.send) := by
  unfold submitUrb
  rw [ntSuccess_submitAsyncQueueRequest]
  cases ntSuccess fw.formatRequest <;> cases fw.send <;> rfl

theorem isSent_iff : t.IsSent ↔ t.submission.1.effects.any Effect.isSend = true := by
  have hquiet := any_isSend_of_isQuiet (isQuiet_of_mem_handlePipeResetScenarios t.fw t.rc t.qc)
  have hcopied := isSome_isoPacketsToUrb t.reads t.rc.length 0
  by_cases hcopies : t.Copies
  · have hstatus := t.copies_iff.mp hcopies
    unfold submission xferIsoEx
    simp only [hstatus, Bool.not_true, Bool.false_eq_true, if_false]
    split
    · next heq =>
      simp only [heq, Option.isSome_none, Bool.false_eq_true, false_iff] at hcopied
      constructor
      · rintro ⟨-, ⟨pos, hbefore, hstop⟩, -, -⟩
        exact absurd ⟨pos, Nat.zero_le _, fun j _ hj => hbefore j hj, hstop⟩ hcopied
      · intro h
        simp [hquiet, Effect.isSend] at h
    · next heq =>
      simp only [heq, Option.isSome_some, true_iff] at hcopied
      obtain ⟨pos, -, hbefore, hstop⟩ := hcopied
      simp only [Served.effects_after, List.any_append, hquiet, any_isSend_submitUrb,
        Bool.false_or, Bool.and_eq_true]
      exact ⟨fun h => ⟨h.formatRequest, h.send⟩,
        fun h => ⟨hcopies, ⟨pos, fun j hj => hbefore j (Nat.zero_le _) hj, hstop⟩, h.1, h.2⟩⟩
  · have hstatus := mt t.copies_iff.mpr hcopies
    unfold submission xferIsoEx
    simp only [hstatus, Bool.not_false, if_true, effects_completeWithInformation]
    exact ⟨fun h => absurd h.copies hcopies, fun h => absurd h (by simp [Effect.isSend])⟩

/-- `XferIsoExComplete` touches what its update loop touches, if it gets there. -/
theorem accesses_xferIsoExComplete (fw : Framework) (rc : RequestContext) (status : NTSTATUS)
    (urb : IsoExUrb) (updateLoop : ℕ → Int16) (qc : QueueContext) :
    (xferIsoExComplete fw rc status urb updateLoop qc).accesses =
      if fw.urbBuffer = true ∧ fw.requestContext = true ∧ status ≠ STATUS_CANCELLED ∧
          status ≠ STATUS_DEVICE_NOT_CONNECTED ∧
          (ntSuccess status = true ∨ urb.headerStatus = 0) then
        isoPacketsFromUrb updateLoop urb 0
      else [] := by
  unfold xferIsoExComplete
  split_ifs <;> simp_all

theorem completion_of_updates (h : t.Updates) :
    t.completion = isoPacketsFromUrb t.updateLoop t.urb 0 := by
  unfold completion
  rw [if_pos (t.isSent_iff.mp h.sent), accesses_xferIsoExComplete,
    if_pos ⟨h.urbBuffer, h.requestContext, h.not_cancelled, h.connected, h.succeeds⟩]

theorem completion_of_not_updates (h : ¬t.Updates) : t.completion = [] := by
  unfold completion
  split
  · next hsent =>
    rw [accesses_xferIsoExComplete, if_neg]
    rintro ⟨h₁, h₂, h₃, h₄, h₅⟩
    exact h ⟨t.isSent_iff.mpr hsent, h₁, h₂, h₃, h₄, h₅⟩
  · rfl

variable {t} in
theorem submission_inside_iff {contextRoom urbRoom : ℕ} :
    (∀ a ∈ t.submission.2, a.Inside contextRoom urbRoom) ↔
      (t.Copies → ¬(t.reads.CopiesBefore t.rc.length contextRoom ∧ t.reads.Counts contextRoom) ∧
        ¬t.reads.CopiesBefore t.rc.length (urbRoom + 1)) := by
  by_cases h : t.Copies
  · rw [t.accesses_submission_of_copies h, isoPacketsToUrb_inside_iff]
    simp only [h, true_implies]
  · rw [t.accesses_submission_of_not_copies h]
    simp [h]

variable {t} in
theorem completion_inside_iff {contextRoom urbRoom : ℕ} :
    (∀ a ∈ t.completion, a.Inside contextRoom urbRoom) ↔
      (t.Updates → ∃ pos ≤ min contextRoom urbRoom, (t.updateLoop pos).toInt ≤ pos) := by
  by_cases h : t.Updates
  · rw [t.completion_of_updates h, isoPacketsFromUrb_inside_iff]
    simp only [h, true_implies]
  · rw [t.completion_of_not_updates h]
    simp [h]

end IsoExTransfer

/-! ### The packets stay inside exactly when the loops stop -/

/-- **Every packet array element an `XferIsoEx` transfer touches lies inside the
context memory and inside the URB if and only if each of its loops is ended,
by a count or an offset it fetches, before the first element outside.** -/
theorem isoEx_packetsInside_iff (getIsoUrbRoom : Int16 → ℕ) (t : IsoExTransfer) :
    t.PacketsInside getIsoUrbRoom ↔ t.LoopsStop getIsoUrbRoom := by
  unfold IsoExTransfer.PacketsInside IsoExTransfer.accesses
  rw [List.forall_mem_append, IsoExTransfer.submission_inside_iff,
    IsoExTransfer.completion_inside_iff]
  constructor
  · rintro ⟨hcopy, hupdate⟩
    exact ⟨fun h => (hcopy h).1, fun h => (hcopy h).2, hupdate⟩
  · intro h
    exact ⟨fun hc => ⟨h.copyContext hc, h.copyUrb hc⟩, h.update⟩

/-! ### A context that is too small, and a count that is raised -/

theorem length_le_onePacketTransfer : 4 ≤ ([0, 0, 0, 0] : List UInt8).length := by decide

/-- A context of `size` bytes that holds the count one, of which the copy loop
fetches `copyCount` and the update loop `updateCount`. -/
def onePacketTransfer (size : ℕ) (copyCount updateCount : Int16) : IsoExTransfer where
  fw := {}
  dc := { isHighSpeed := false }
  rc :=
    { length := 4
      buffer := [0, 0, 0, 0]
      length_le := length_le_onePacketTransfer
      isoContextSize := some size }
  qc := { info := ⟨4, 0x81, 1, .isochronous, 64⟩ }
  reads :=
    { zeroTest := 1, signTest := 1, highSpeedTest := 1, urbSize := 1, initUrb := 1
      copyLoop := fun _ => copyCount
      offsetTested := fun _ => 0
      offsetAssigned := fun _ => 0 }
  completeFw := {}
  status := STATUS_SUCCESS
  urb := {}
  updateLoop := fun _ => updateCount

theorem copies_onePacketTransfer (size : ℕ) (copyCount updateCount : Int16) :
    (onePacketTransfer size copyCount updateCount).Copies := by
  constructor <;> first | rfl | simp [onePacketTransfer]

theorem copiesBefore_onePacketTransfer {size pos : ℕ} {copyCount updateCount : Int16}
    (h : (pos : ℤ) ≤ copyCount.toInt) :
    (onePacketTransfer size copyCount updateCount).reads.CopiesBefore 4 pos := by
  intro j hj
  have hcount : (j : ℤ) < copyCount.toInt := by omega
  exact ⟨hcount, Nat.succ_pos 3⟩

/-- A context of sixteen bytes has no packets, and its count is one; a context of
one packet has its count raised to two before the copy loop, or before the update
loop.  The URB has one element more than it was allocated for. -/
theorem not_packetsInside_onePacketTransfer :
    ¬(onePacketTransfer 16 1 1).PacketsInside (fun n => n.toInt.toNat + 1) ∧
    ¬(onePacketTransfer 24 2 1).PacketsInside (fun n => n.toInt.toNat + 1) ∧
    ¬(onePacketTransfer 24 1 2).PacketsInside (fun n => n.toInt.toNat + 1) := by
  have hcopy : ∀ {size : ℕ} {copyCount : Int16},
      (isoContextRoom size : ℤ) < copyCount.toInt →
        ¬(onePacketTransfer size copyCount 1).PacketsInside (fun n => n.toInt.toNat + 1) := by
    intro size copyCount hlt h
    have hin := IsoExTransfer.submission_inside_iff.mp (List.forall_mem_append.mp h).1
      (copies_onePacketTransfer _ _ _)
    exact hin.1 ⟨copiesBefore_onePacketTransfer (Int.le_of_lt hlt), hlt⟩
  refine ⟨hcopy (by decide), hcopy (by decide), fun h => ?_⟩
  have hsent : (onePacketTransfer 24 1 2).IsSent :=
    ⟨copies_onePacketTransfer _ _ _, ⟨1, copiesBefore_onePacketTransfer (by decide),
      fun h : (1 : ℤ) < (1 : Int16).toInt => absurd h (by decide)⟩, rfl, rfl⟩
  have hupdates : (onePacketTransfer 24 1 2).Updates :=
    ⟨hsent, rfl, rfl, by decide, by decide, .inl rfl⟩
  obtain ⟨pos, hpos, hcount⟩ := IsoExTransfer.completion_inside_iff.mp
    (List.forall_mem_append.mp h).2 hupdates
  -- the count two goes on at the positions zero and one
  have hle : pos ≤ 1 := Nat.le_trans hpos (Nat.min_le_left _ _)
  have htwo : (2 : ℤ) ≤ pos := hcount
  omega

end LibusbK
