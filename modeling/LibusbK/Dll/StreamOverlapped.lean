import LibusbK.Dll.StreamThread
import Mathlib.Tactic.SplitIfs

/-!
# The overlapped objects of a stream

Every overlapped object should be free or in use by one pending transfer.  When a
transfer is submitted its overlapped is deleted from the list of the free ones,
and when it completes the overlapped is deleted from that list again, by the
pointers it had when it was taken.  What that does depends on the other
overlapped objects that were taken and given back in between.

## Main definitions

* `Conserved` — the free overlapped objects and those of the pending transfers
  are all overlapped objects, each once.
* `ReleasesSafely` — the second deletion does no damage.
* `ReleasesItself` — it links no other overlapped, but may lose free ones.

## Main results

* `stmThread_conserved_iff` — the overlapped objects are conserved in a run if
  and only if its second deletions do no damage.
-/

namespace LibusbK

open DList

/-! ### What the thread does to the overlapped objects -/

/-- What `Stm_Thread_ProcessQueued` does: nothing, or it takes the first free
overlapped, and puts it back if the transfer cannot be submitted. -/
theorem processQueued_cases (submit : UInt32) (stm : StmThread) (ovlList : DList ℕ) :
    let stm' := (processQueued submit stm ovlList).2
    (stm'.ovlList = stm.ovlList ∧ stm'.overlappeds = stm.overlappeds) ∨
      ∃ ovlNext, ovlList.head = some ovlNext ∧
        ((stm'.ovlList = ovlList.delete ovlNext ∧
            stm'.overlappeds = stm.overlappeds ++ [ovlNext]) ∨
          (stm'.ovlList = (ovlList.delete ovlNext).map (fun l => l.prepend ovlNext) ∧
            stm'.overlappeds = stm.overlappeds)) := by
  unfold processQueued
  split
  · exact .inl ⟨rfl, rfl⟩
  · exact .inl ⟨rfl, rfl⟩
  · next ovlNext xferNext queued hhead hqueued =>
    refine .inr ⟨ovlNext, hhead, ?_⟩
    dsimp only
    split
    · exact .inr ⟨rfl, rfl⟩
    · exact .inl ⟨rfl, by simp [StmThread.overlappeds]⟩

@[simp] theorem ovlList_finishTransfer (o : PendingOutcome) (item : XferItem)
    (result : UInt32 × Bool) (stm : StmThread) :
    (finishTransfer o item result stm).ovlList = stm.ovlList := by
  unfold finishTransfer
  dsimp only
  split <;> rfl

@[simp] theorem overlappeds_finishTransfer (o : PendingOutcome) (item : XferItem)
    (result : UInt32 × Bool) (stm : StmThread) :
    (finishTransfer o item result stm).overlappeds = stm.overlappeds := by
  unfold finishTransfer
  dsimp only
  split <;> rfl

/-- What `Stm_Thread_ProcessPending` does: nothing, or it deletes the overlapped of
the oldest transfer from the list of the free ones and appends it. -/
theorem processPending_cases (o : PendingOutcome) (stm : StmThread) (ovlList : DList ℕ) :
    let stm' := processPending o stm ovlList
    (stm'.ovlList = stm.ovlList ∧ stm'.overlappeds = stm.overlappeds ∧
      (o.completes stm = true → stm.overlappeds = [])) ∨
      o.completes stm = true ∧ ∃ ovlNext, stm.overlappeds = ovlNext :: stm'.overlappeds ∧
        stm'.ovlList = ovlList.readd ovlNext := by
  unfold processPending
  split
  · next hpending => exact .inl ⟨rfl, rfl, fun _ => by rw [StmThread.overlappeds, hpending]; rfl⟩
  · next xferNext ovlNext pendingList hpending =>
    dsimp only
    split
    · next hcompletes =>
      refine .inl ⟨rfl, rfl, fun h => ?_⟩
      rw [h] at hcompletes
      cases hcompletes
    · next hcompletes =>
      refine .inr ⟨by simpa using hcompletes, ovlNext, ?_, ?_⟩
      · rw [overlappeds_finishTransfer, StmThread.overlappeds, hpending]
        rfl
      · rw [ovlList_finishTransfer]

section
variable (stm : StmThread)

theorem afterProcessQueued_frame (r : ThreadResult × StmThread) :
    (afterProcessQueued r).ovlList = r.2.ovlList ∧
      (afterProcessQueued r).overlappeds = r.2.overlappeds := by
  obtain ⟨result, stm⟩ := r
  cases result <;> exact ⟨rfl, rfl⟩

theorem afterLastProcessPending_frame :
    (afterLastProcessPending stm).ovlList = stm.ovlList ∧
      (afterLastProcessPending stm).overlappeds = stm.overlappeds := by
  unfold afterLastProcessPending
  split <;> exact ⟨rfl, rfl⟩

end

/-- The oldest pending transfer completes at this event. -/
def Completes (stm : StmThread) (event : StmThreadEvent) : Prop :=
  ∃ outcome, event = .processPending outcome ∧ outcome.completes stm = true ∧
    stm.overlappeds ≠ []

/-- **What a step does to the overlapped objects**: nothing, or it takes the first
free one, or it takes it and puts it back in front, or it gives back that of the
oldest transfer. -/
theorem stmThread_step_cases {stm stm' : StmThread} {event : StmThreadEvent}
    (h : stmThread.step stm event = some stm') :
    ∃ ovlList, stm.ovlList = some ovlList ∧
      ((¬Completes stm event ∧ stm'.ovlList = stm.ovlList ∧
          stm'.overlappeds = stm.overlappeds) ∨
        (¬Completes stm event ∧ ∃ ovlNext, ovlList.head = some ovlNext ∧
          ((stm'.ovlList = ovlList.delete ovlNext ∧
              stm'.overlappeds = stm.overlappeds ++ [ovlNext]) ∨
            (stm'.ovlList = (ovlList.delete ovlNext).map (fun l => l.prepend ovlNext) ∧
              stm'.overlappeds = stm.overlappeds))) ∨
        (Completes stm event ∧ ∃ ovlNext, stm.overlappeds = ovlNext :: stm'.overlappeds ∧
          stm'.ovlList = ovlList.readd ovlNext)) := by
  have hpending : ∀ (o : PendingOutcome) (ovlList : DList ℕ) {m : StmThread},
      m.ovlList = (processPending o stm ovlList).ovlList →
      m.overlappeds = (processPending o stm ovlList).overlappeds →
      (¬Completes stm (.processPending o) ∧ m.ovlList = stm.ovlList ∧
          m.overlappeds = stm.overlappeds) ∨
        (Completes stm (.processPending o) ∧ ∃ ovlNext, stm.overlappeds = ovlNext :: m.overlappeds ∧
          m.ovlList = ovlList.readd ovlNext) := by
    intro o ovlList m hovl hused
    rw [hovl, hused]
    rcases processPending_cases o stm ovlList with ⟨h₁, h₂, hnone⟩ | ⟨hdone, ovlNext, h₁, h₂⟩
    · refine .inl ⟨?_, h₁, h₂⟩
      rintro ⟨_, heq, hdone, hne⟩
      cases heq
      exact hne (hnone hdone)
    · exact .inr ⟨⟨o, rfl, hdone, by rw [h₁]; exact List.cons_ne_nil _ _⟩, ovlNext, h₁, h₂⟩
  unfold stmThread at h
  dsimp only at h
  cases hovl : stm.ovlList with
  | none =>
    rw [hovl] at h
    cases h
  | some ovlList =>
    refine ⟨ovlList, rfl, ?_⟩
    rw [hovl] at h
    cases event with
    | callers finished semReady =>
      cases h
      exact .inl ⟨fun ⟨_, heq, _⟩ => (by cases heq), rfl, rfl⟩
    | transferListApc items =>
      cases hphase : stm.phase <;> rw [hphase] at h <;> cases h
      · exact .inl ⟨fun ⟨_, heq, _⟩ => (by cases heq), rfl, rfl⟩
      · exact .inl ⟨fun ⟨_, heq, _⟩ => (by cases heq), rfl, rfl⟩
    | stop =>
      cases h
      exact .inl ⟨fun ⟨_, heq, _⟩ => (by cases heq), rfl, rfl⟩
    | loop tryLock =>
      cases hphase : stm.phase <;> rw [hphase] at h <;> dsimp only at h
      · split at h <;> cases h
        · exact .inl ⟨fun ⟨_, heq, _⟩ => (by cases heq), rfl, rfl⟩
        · exact .inl ⟨fun ⟨_, heq, _⟩ => (by cases heq), hovl, rfl⟩
      all_goals cases h
    | processQueued submit =>
      cases hphase : stm.phase <;> rw [hphase] at h <;> cases h
      obtain ⟨h₁, h₂⟩ := afterProcessQueued_frame (processQueued submit stm ovlList)
      rw [h₁, h₂]
      rcases processQueued_cases submit stm ovlList with ⟨h₃, h₄⟩ | h₃
      · exact .inl ⟨fun ⟨_, heq, _⟩ => (by cases heq), h₃.trans hovl, h₄⟩
      · exact .inr (.inl ⟨fun ⟨_, heq, _⟩ => (by cases heq), h₃⟩)
    | processPending o =>
      cases hphase : stm.phase <;> rw [hphase] at h <;> dsimp only at h
      · cases h
      · cases h
      · cases h
        rcases hpending o ovlList rfl rfl with h | h
        · exact .inl ⟨h.1, h.2.1.trans hovl, h.2.2⟩
        · exact .inr (.inr h)
      · split at h
        · cases h
          obtain ⟨h₁, h₂⟩ := afterLastProcessPending_frame (processPending o stm ovlList)
          rcases hpending o ovlList h₁ h₂ with h | h
          · exact .inl ⟨h.1, h.2.1.trans hovl, h.2.2⟩
          · exact .inr (.inr h)
        · cases h

/-! ### Conservation -/

/-- The overlapped objects below `maxPendingIo` are each, and once, in the list of
the free ones or in use by a pending transfer. -/
def Conserved (maxPendingIo : ℕ) (stm : StmThread) : Prop :=
  ∃ ovlList free, stm.ovlList = some ovlList ∧ Path ovlList.next ovlList.head free ∧
    (free ++ stm.overlappeds).Perm (List.range maxPendingIo)

/-- These are the overlapped objects below `maxPendingIo`, each of them once. -/
def AreAll (maxPendingIo : ℕ) (overlappeds : List ℕ) : Prop :=
  overlappeds.Perm (List.range maxPendingIo)

theorem AreAll.nodup {maxPendingIo : ℕ} {overlappeds : List ℕ}
    (h : AreAll maxPendingIo overlappeds) : overlappeds.Nodup :=
  h.nodup_iff.mpr List.nodup_range

/-- The free overlapped objects are well linked, and `P` holds of them and those in use. -/
def OverlappedInv (P : List ℕ → Prop) (stm : StmThread) : Prop :=
  ∃ ovlList free, stm.ovlList = some ovlList ∧ ovlList.Repr free ∧ P (free ++ stm.overlappeds)

/-- If the event completes the oldest transfer, then the pointers its overlapped
has from the time it was taken do no damage to the list of the free ones. -/
def ReleasesSafely (stm : StmThread) (event : StmThreadEvent) : Prop :=
  Completes stm event → ∀ ovlList free ovlNext, stm.ovlList = some ovlList →
    Path ovlList.next ovlList.head free → stm.overlappeds.head? = some ovlNext →
      ovlList.Harmless free ovlNext

/-- If the event completes the oldest transfer, then its overlapped, deleted and
appended, links no other one into the list of the free ones. -/
def ReleasesItself (stm : StmThread) (event : StmThreadEvent) : Prop :=
  Completes stm event → ∀ ovlList free ovlNext, stm.ovlList = some ovlList →
    Path ovlList.next ovlList.head free → stm.overlappeds.head? = some ovlNext →
      ovlList.LinksNoOther free ovlNext

theorem OverlappedInv.conserved {maxPendingIo : ℕ} {stm : StmThread}
    (h : OverlappedInv (AreAll maxPendingIo) stm) : Conserved maxPendingIo stm := by
  obtain ⟨ovlList, free, hovl, hrepr, hperm⟩ := h
  exact ⟨ovlList, free, hovl, hrepr.path, hperm⟩

/-- An overlapped in use is not a free one. -/
theorem not_mem_free {ovlNext : ℕ} {free used : List ℕ} (h : (free ++ ovlNext :: used).Nodup) :
    ovlNext ∉ free := by
  intro hmem
  exact (List.nodup_append.mp h).2.2 ovlNext hmem ovlNext (by simp) rfl

section Moves

variable {P : List ℕ → Prop} {maxPendingIo ovlNext : ℕ} {stm stm' : StmThread}
  {ovlList : DList ℕ}

theorem OverlappedInv.of_same (hinv : OverlappedInv P stm)
    (hlist : stm'.ovlList = stm.ovlList) (hused : stm'.overlappeds = stm.overlappeds) :
    OverlappedInv P stm' := by
  obtain ⟨ovlList, free, hovl, hrepr, hall⟩ := hinv
  exact ⟨ovlList, free, hlist.trans hovl, hrepr, by rwa [hused]⟩

/-- The first free overlapped is taken: what is left of the free ones. -/
theorem OverlappedInv.taken (hinv : OverlappedInv P stm)
    (hovl : stm.ovlList = some ovlList) (hhead : ovlList.head = some ovlNext) :
    ∃ taken rest, ovlList.delete ovlNext = some taken ∧ taken.Repr rest ∧ ovlNext ∉ rest ∧
      P (ovlNext :: rest ++ stm.overlappeds) := by
  obtain ⟨_, free, hovl', hrepr, hall⟩ := hinv
  cases hovl.symm.trans hovl'
  obtain ⟨rest, rfl⟩ : ∃ rest, free = ovlNext :: rest := by
    have hfirst := hrepr.head_eq
    rw [hhead] at hfirst
    cases free with
    | nil => cases hfirst
    | cons o rest =>
      cases hfirst
      exact ⟨rest, rfl⟩
  obtain ⟨taken, htaken, hrest⟩ := hrepr.delete
  exact ⟨taken, rest, htaken, hrest, (List.nodup_cons.mp hrepr.nodup).1, hall⟩

/-- The first free overlapped is used for a transfer. -/
theorem OverlappedInv.take (hinv : OverlappedInv P stm)
    (hP : ∀ {os os' : List ℕ}, os.Perm os' → P os' → P os)
    (hovl : stm.ovlList = some ovlList) (hhead : ovlList.head = some ovlNext)
    (hlist : stm'.ovlList = ovlList.delete ovlNext)
    (hused : stm'.overlappeds = stm.overlappeds ++ [ovlNext]) : OverlappedInv P stm' := by
  obtain ⟨taken, rest, htaken, hrest, -, hall⟩ := hinv.taken hovl hhead
  refine ⟨taken, rest, hlist.trans htaken, hrest, ?_⟩
  rw [hused, ← List.append_assoc]
  exact hP (List.perm_append_singleton _ _) hall

/-- The first free overlapped is taken and put back in front. -/
theorem OverlappedInv.putBack (hinv : OverlappedInv P stm)
    (hovl : stm.ovlList = some ovlList) (hhead : ovlList.head = some ovlNext)
    (hlist : stm'.ovlList = (ovlList.delete ovlNext).map fun l => l.prepend ovlNext)
    (hused : stm'.overlappeds = stm.overlappeds) : OverlappedInv P stm' := by
  obtain ⟨taken, rest, htaken, hrest, hnotin, hall⟩ := hinv.taken hovl hhead
  refine ⟨taken.prepend ovlNext, ovlNext :: rest, ?_, hrest.prepend hnotin, by rwa [hused]⟩
  rw [hlist, htaken]
  rfl

/-- The overlapped of the oldest transfer is given back. -/
theorem OverlappedInv.giveBack (hinv : OverlappedInv (AreAll maxPendingIo) stm)
    (hovl : stm.ovlList = some ovlList) (hused : stm.overlappeds = ovlNext :: stm'.overlappeds)
    (hharmless : ∀ free, Path ovlList.next ovlList.head free → ovlList.Harmless free ovlNext)
    (hlist : stm'.ovlList = ovlList.readd ovlNext) :
    OverlappedInv (AreAll maxPendingIo) stm' := by
  obtain ⟨_, free, hovl', hrepr, hall⟩ := hinv
  cases hovl.symm.trans hovl'
  rw [hused] at hall
  obtain ⟨l, hl, hrepr'⟩ := hrepr.readd (not_mem_free hall.nodup) (hharmless free hrepr.path)
  refine ⟨l, free ++ [ovlNext], hlist.trans hl, hrepr', ?_⟩
  rwa [List.append_assoc]

/-- The overlapped of the oldest transfer is given back, and free ones may be lost. -/
theorem OverlappedInv.giveBackItself (hinv : OverlappedInv List.Nodup stm)
    (hovl : stm.ovlList = some ovlList) (hused : stm.overlappeds = ovlNext :: stm'.overlappeds)
    (hitself : ∀ free, Path ovlList.next ovlList.head free → ovlList.LinksNoOther free ovlNext)
    (hlist : stm'.ovlList = ovlList.readd ovlNext) : OverlappedInv List.Nodup stm' := by
  obtain ⟨_, free, hovl', hrepr, hnodup⟩ := hinv
  cases hovl.symm.trans hovl'
  rw [hused] at hnodup
  obtain ⟨l, left, hl, hrepr', hsub⟩ :=
    hrepr.readd_of_linksNoOther (not_mem_free hnodup) (hitself free hrepr.path)
  refine ⟨l, left ++ [ovlNext], hlist.trans hl, hrepr', ?_⟩
  rw [List.append_assoc]
  exact (hsub.append (List.Sublist.refl _)).nodup hnodup

end Moves

/-- A step that does no damage keeps the list of the free overlapped objects well
linked, and the overlapped objects conserved. -/
theorem overlappedInv_step {maxPendingIo : ℕ} {stm stm' : StmThread} {event : StmThreadEvent}
    (hinv : OverlappedInv (AreAll maxPendingIo) stm) (hsafe : ReleasesSafely stm event)
    (hstep : stmThread.step stm event = some stm') :
    OverlappedInv (AreAll maxPendingIo) stm' := by
  obtain ⟨ovlList, hovl, hcases⟩ := stmThread_step_cases hstep
  rcases hcases with ⟨-, h₁, h₂⟩ | ⟨-, ovlNext, hhead, ⟨h₁, h₂⟩ | ⟨h₁, h₂⟩⟩ |
    ⟨hdone, ovlNext, h₁, h₂⟩
  · exact hinv.of_same h₁ h₂
  · exact hinv.take (fun hperm hall => hperm.trans hall) hovl hhead h₁ h₂
  · exact hinv.putBack hovl hhead h₁ h₂
  · refine hinv.giveBack hovl h₁ (fun free hpath => ?_) h₂
    exact hsafe hdone ovlList free ovlNext hovl hpath (by rw [h₁]; rfl)

/-- A step that leaves the overlapped objects conserved did no damage. -/
theorem releasesSafely_of_conserved {maxPendingIo : ℕ} {stm stm' : StmThread}
    {event : StmThreadEvent} (hinv : OverlappedInv (AreAll maxPendingIo) stm)
    (hstep : stmThread.step stm event = some stm') (hafter : Conserved maxPendingIo stm') :
    ReleasesSafely stm event := by
  intro hdone ovlList free ovlNext hovl hpath hfirst
  obtain ⟨_, free', hovl', hrepr, hperm⟩ := hinv
  cases hovl.symm.trans hovl'
  cases hpath.unique hrepr.path
  obtain ⟨_, hovl'', hcases⟩ := stmThread_step_cases hstep
  cases hovl.symm.trans hovl''
  rcases hcases with ⟨hnot, -⟩ | ⟨hnot, -⟩ | ⟨-, ovlNext', h₁, h₂⟩
  · exact absurd hdone hnot
  · exact absurd hdone hnot
  rw [h₁] at hfirst hperm
  cases hfirst
  obtain ⟨l, free', hl, hpath', hperm'⟩ := hafter
  -- what is free afterwards is what was free before, and the overlapped given back
  have hfree : free'.Perm (free ++ [ovlNext]) := by
    rw [← List.perm_append_right_iff stm'.overlappeds]
    refine hperm'.trans (hperm.symm.trans ?_)
    rw [List.append_assoc]
    exact List.Perm.refl _
  refine harmless_of_readd hrepr (not_mem_free hperm.nodup) (h₂.symm.trans hl) hpath' fun o => ?_
  rw [hfree.mem_iff, List.mem_append, List.mem_singleton, or_comm]

/-! ### Runs -/

/-- The overlapped objects are well linked when they have been allocated. -/
theorem allocOvl_repr (maxPendingIo : ℕ) :
    ∃ ovlList, allocOvl maxPendingIo = some ovlList ∧ ovlList.Repr (List.range maxPendingIo) := by
  induction maxPendingIo with
  | zero => exact ⟨.empty, rfl, repr_empty⟩
  | succ n ih =>
    obtain ⟨ovlList, halloc, hrepr⟩ := ih
    obtain ⟨ovlList', happend, hrepr'⟩ := hrepr.append (a := n) (by simp)
    refine ⟨ovlList', ?_, ?_⟩
    · rw [allocOvl, halloc]
      exact happend
    · rwa [List.range_succ]

/-- The stream thread once it is started. -/
def startThread (maxPendingIo : ℕ) (handle : StmHandle) : StmThread :=
  { handle := { handle with threadState := .started }, ovlList := allocOvl maxPendingIo }

theorem overlappedInv_startThread (maxPendingIo : ℕ) (handle : StmHandle) :
    OverlappedInv (AreAll maxPendingIo) (startThread maxPendingIo handle) := by
  obtain ⟨ovlList, halloc, hrepr⟩ := allocOvl_repr maxPendingIo
  refine ⟨ovlList, List.range maxPendingIo, halloc, hrepr, ?_⟩
  rw [StmThread.overlappeds, startThread, List.map_nil, List.append_nil]
  exact List.Perm.refl _

/-- **The overlapped objects of a stream are conserved all along a run if and only
if, whenever a transfer completes in it, the pointers of its overlapped do no
damage.** -/
theorem stmThread_conserved_iff (maxPendingIo : ℕ) (handle : StmHandle)
    (es : List StmThreadEvent) :
    stmThread.Always (Conserved maxPendingIo) (startThread maxPendingIo handle) es ↔
      stmThread.Throughout ReleasesSafely (startThread maxPendingIo handle) es :=
  Machine.always_iff_throughout (fun _ h => h.conserved)
    (fun _ _ _ hinv hsafe hstep => overlappedInv_step hinv hsafe hstep)
    (fun _ _ _ hinv hstep hafter => releasesSafely_of_conserved hinv hstep hafter)
    (overlappedInv_startThread maxPendingIo handle)

/-! ### Two transfers, and an overlapped that is lost -/

/-- Two transfers are submitted, and both complete. -/
def twoTransfers : List StmThreadEvent :=
  [.loop true, .processQueued ERROR_IO_PENDING, .processQueued ERROR_IO_PENDING,
    .processQueued ERROR_IO_PENDING, .processPending {}, .loop true,
    .processQueued ERROR_IO_PENDING, .processPending {}]

/-- A stream with two items in its queue. -/
def twoItems : StmHandle where
  queued := [{ index := 0, bufferSize := 4 }, { index := 1, bufferSize := 4 }]

/-- The second overlapped was the only free one when it was taken, so its deletion
empties the list, which holds the first one by then. -/
theorem not_always_conserved_twoTransfers :
    ¬stmThread.Always (Conserved 2) (startThread 2 twoItems) twoTransfers := by
  intro h
  obtain ⟨ovlList, free, hovl, hpath, hperm⟩ := h.exec rfl
  cases hovl
  have hfree : free = [1] := hpath.unique ⟨rfl, rfl⟩
  rw [hfree] at hperm
  exact absurd hperm.length_eq (by decide)

end LibusbK
