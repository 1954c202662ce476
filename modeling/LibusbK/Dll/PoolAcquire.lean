import LibusbK.Dll.PoolPhases

/-!
# Acquiring a pool handle

`PoolHandle_Acquire` increments `Index` for every handle it tries, and gives up when it is
back at the first one.  `Index` is a `long` that wraps; as the sections have sizes that are
powers of two, its position goes round the section all the same, and an `Acquire` that is
not disturbed has tried every handle when it gives up.

## Main results

* `AllKSection.position_succ` — the positions go round the section.
* `LoneAcquire.step` — what an `Acquire` that is not disturbed has seen.
* `poolSafe_of_throughout` — the pool is safe in every run without races, and a lone
  `Acquire` fails only when every handle is in use.
-/

namespace LibusbK

/-! ### The positions -/

namespace AllKSection

variable (sec : AllKSection)

theorem handleCount_pos : 0 < sec.handleCount := by cases sec <;> decide

theorem position_lt (index : BitVec 32) : sec.position index < sec.handleCount :=
  Nat.mod_lt _ sec.handleCount_pos

/-- The sign of `Index` does not matter for the position. -/
theorem position_eq (index : BitVec 32) : sec.position index = index.toNat % sec.handleCount := by
  unfold position
  rw [BitVec.toNat_signExtend]
  have hlt := index.isLt
  cases sec <;> simp only [handleCount, BitVec.toNat_setWidth] <;> split <;> omega

/-- The positions go round the section, also where `Index` wraps. -/
theorem position_succ (index : BitVec 32) :
    sec.position (index + 1) = (sec.position index + 1) % sec.handleCount := by
  rw [position_eq, position_eq, BitVec.toNat_add]
  have hlt := index.isLt
  have hone : (1 : BitVec 32).toNat = 1 := rfl
  rw [hone]
  cases sec <;> simp only [handleCount] <;> omega

/-- Who comes back to the start has been everywhere. -/
theorem exists_visited {startPos j : ℕ} (hstart : startPos < sec.handleCount)
    (hback : (startPos + j + 1) % sec.handleCount = startPos) {k : ℕ} (hk : k < sec.handleCount) :
    ∃ i, i < j + 1 ∧ (startPos + i) % sec.handleCount = k := by
  have hround : sec.handleCount ≤ j + 1 := by
    by_contra hlt
    rcases Nat.lt_or_ge (startPos + j + 1) sec.handleCount with h | h
    · rw [Nat.mod_eq_of_lt h] at hback
      omega
    · rw [Nat.mod_eq_sub_mod h, Nat.mod_eq_of_lt (by omega)] at hback
      omega
  rcases Nat.lt_or_ge k startPos with h | h
  · refine ⟨k + sec.handleCount - startPos, by omega, ?_⟩
    rw [show startPos + (k + sec.handleCount - startPos) = k + sec.handleCount by omega,
      Nat.add_mod_right, Nat.mod_eq_of_lt hk]
  · refine ⟨k - startPos, by omega, ?_⟩
    rw [show startPos + (k - startPos) = k by omega, Nat.mod_eq_of_lt hk]

end AllKSection

/-! ### A lone `Acquire` -/

/-- What thread `t`, with the stack `stack` below it, has seen of the handles `slots` in an
`Acquire` that no other thread disturbs. -/
inductive LoneAcquire (sec : AllKSection) (slots : ℕ → PoolSlot) (t : ℕ) (evtCleanup : Bool)
    (stack : List PoolFrame) (s : PoolState) : Prop
  /-- It has not tried a handle yet. -/
  | called (hslots : s.slots = slots) (h : s.callStacks[t]? = some (.acqIndex evtCleanup :: stack))
  /-- It is about to try the handle `j` places after the first; those before it are in use. -/
  | trying {startPos : ℕ} (j : ℕ) (hslots : s.slots = slots) (hstart : startPos < sec.handleCount)
      (hpos : sec.position s.index = (startPos + j) % sec.handleCount)
      (hused : ∀ i, i < j → (slots ((startPos + i) % sec.handleCount)).use = true)
      (h : s.callStacks[t]? =
        some (.onSlot (sec.position s.index) (.acqTry evtCleanup startPos) :: stack))
  /-- That handle is in use as well. -/
  | next {startPos : ℕ} (j : ℕ) (hslots : s.slots = slots) (hstart : startPos < sec.handleCount)
      (hpos : sec.position s.index = (startPos + j) % sec.handleCount)
      (hused : ∀ i, i < j + 1 → (slots ((startPos + i) % sec.handleCount)).use = true)
      (h : s.callStacks[t]? = some (.acqNext evtCleanup startPos :: stack))
  /-- It has taken the handle `k`. -/
  | found {k : ℕ} {pc : SlotPc}
      (hpc : pc.kind = some .taking ∨ pc.kind = some .clearing ∨ pc.kind = some .settling)
      (h : s.callStacks[t]? = some (.onSlot k pc :: stack))
  /-- It has returned. -/
  | returned {below : List PoolFrame} (hle : below.length ≤ stack.length)
      (h : s.callStacks[t]? = some below)

/-- The next step of thread `t` ends its `Acquire` without a handle. -/
def ReturnsNull (sec : AllKSection) (s : PoolState) (t : ℕ) (evtCleanup : Bool)
    (stack : List PoolFrame) : Prop :=
  ∃ startPos, s.callStacks[t]? = some (.acqNext evtCleanup startPos :: stack) ∧
    sec.position (s.index + 1) = startPos

namespace LoneAcquire

variable {sec : AllKSection} {slots : ℕ → PoolSlot} {t : ℕ} {evtCleanup : Bool}
  {stack : List PoolFrame} {s : PoolState}

/-- The stack of a thread after it has left its top frame. -/
theorem stack_move {old : List PoolFrame} (h : s.callStacks[t]? = some old)
    (next : Option PoolFrame) (rest : List PoolFrame) :
    (s.move t next rest).callStacks[t]? = some (next.toList ++ rest) := by
  obtain ⟨hlt, -⟩ := List.getElem?_eq_some_iff.mp h
  exact List.getElem?_set_self hlt

/-- A step leaves at most one frame in place of the top one. -/
theorem length_next (next : Option PoolFrame) (frame : PoolFrame) (rest : List PoolFrame) :
    (next.toList ++ rest).length ≤ (frame :: rest).length := by
  cases next with
  | none => exact Nat.le_succ _
  | some next => exact Nat.le_refl _

/-- A call that has taken the handle sets it up and returns. -/
theorem of_found {k : ℕ} {pc : SlotPc}
    (hpc : pc.kind = some .taking ∨ pc.kind = some .clearing ∨ pc.kind = some .settling)
    (h : s.callStacks[t]? = some (.onSlot k pc :: stack)) :
    LoneAcquire sec slots t evtCleanup stack (s.runFrame sec t (.onSlot k pc) stack) := by
  have hstack := stack_move h (pc.run t (insideCleanup k stack) k (s.slots k)).next stack
  cases pc with
  | acqInitCleanup evtCleanup => exact .found (.inl rfl) hstack
  | acqInitRef evtCleanup => exact .found (.inr (.inl rfl)) hstack
  | acqInitDisposing evtCleanup => exact .found (.inr (.inr rfl)) hstack
  | acqSetCleanup evtCleanup => exact .returned (Nat.le_refl _) hstack
  | decUse counted => cases counted <;> simp [SlotPc.kind] at hpc
  | decDisposing counted => cases counted <;> simp [SlotPc.kind] at hpc
  | decDisposingSelf counted => cases counted <;> simp [SlotPc.kind] at hpc
  | decRef counted => cases counted <;> simp [SlotPc.kind] at hpc
  | _ => simp [SlotPc.kind] at hpc

/-- **An `Acquire` that is not disturbed** goes from handle to handle until it takes one. -/
theorem step (hl : LoneAcquire sec slots t evtCleanup stack s) {s' : PoolState}
    (h : (poolHandles sec).step s (.step t) = some s') :
    LoneAcquire sec slots t evtCleanup stack s' := by
  simp only [poolHandles, Option.bind_eq_some_iff] at h
  obtain ⟨old, hold, h⟩ := h
  cases hl with
  | called hslots hstack =>
    cases hold.symm.trans hstack
    cases h
    refine .trying 0 hslots (sec.position_lt (s.index + 1)) ?_ (fun i hi => by omega)
      (stack_move hstack _ stack)
    exact (Nat.mod_eq_of_lt (sec.position_lt (s.index + 1))).symm
  | @trying startPos j hslots hstart hpos hused hstack =>
    cases hold.symm.trans hstack
    cases h
    cases huse : (s.slots (sec.position s.index)).use with
    | true =>
      refine .next j ?_ hstart hpos (fun i hi => ?_) ?_
      · simp only [PoolState.runFrame, PoolState.move, PoolState.note, SlotPc.run, huse, if_true,
          Function.update_eq_self]
        exact hslots
      · rcases Nat.lt_succ_iff_lt_or_eq.mp hi with hlt | rfl
        · exact hused i hlt
        · rw [← hpos, ← hslots]
          exact huse
      · have hnext := stack_move hstack (some (.acqNext evtCleanup startPos)) stack
        simp only [PoolState.runFrame, SlotPc.run, huse, if_true]
        exact hnext
    | false =>
      have hnext := stack_move hstack
        (some (.onSlot (sec.position s.index) (.acqInitCleanup evtCleanup))) stack
      have hkind : (SlotPc.acqInitCleanup evtCleanup).kind = some .taking := rfl
      refine .found (.inl hkind) (Eq.trans ?_ hnext)
      simp only [PoolState.runFrame, SlotPc.run, huse, Bool.false_eq_true, if_false]
      rfl
  | @next startPos j hslots hstart hpos hused hstack =>
    cases hold.symm.trans hstack
    cases h
    have hsucc := sec.position_succ s.index
    rw [hpos, Nat.mod_add_mod, Nat.add_assoc] at hsucc
    by_cases hback : sec.position (s.index + 1) = startPos
    · refine .returned (Nat.le_refl _) ?_
      simp only [PoolState.runFrame, hback, ne_eq, not_true_eq_false, if_false]
      exact stack_move hstack none stack
    · refine .trying (j + 1) ?_ hstart ?_ hused ?_
      · exact hslots
      · exact hsucc
      · simp only [PoolState.runFrame, ne_eq, hback, not_false_eq_true, if_true]
        exact stack_move hstack _ stack
  | found hpc hstack =>
    cases hold.symm.trans hstack
    cases h
    exact of_found hpc hstack
  | returned hle hstack =>
    cases hold.symm.trans hstack
    cases old with
    | nil => cases h
    | cons frame rest =>
      cases h
      cases frame with
      | acqIndex evtCleanup =>
        exact .returned (Nat.le_trans (length_next (some _) _ rest) hle) (stack_move hstack _ rest)
      | acqNext evtCleanup startPos =>
        exact .returned (Nat.le_trans (length_next _ _ rest) hle) (stack_move hstack _ rest)
      | onSlot k pc =>
        exact .returned (Nat.le_trans (length_next _ _ rest) hle) (stack_move hstack _ rest)

/-- It stays so as long as no other thread takes a step. -/
theorem exec {n : ℕ} : ∀ {s s' : PoolState}, LoneAcquire sec slots t evtCleanup stack s →
    (poolHandles sec).exec s (List.replicate n (.step t)) = some s' →
    LoneAcquire sec slots t evtCleanup stack s' := by
  induction n with
  | zero =>
    intro s s' hl h
    cases h
    exact hl
  | succ n ih =>
    intro s s' hl h
    rw [List.replicate_succ, Machine.exec, Option.bind_eq_some_iff] at h
    obtain ⟨u, hu, h⟩ := h
    exact ih (hl.step hu) h

/-- It gives up when every handle is in use. -/
theorem use_of_returnsNull (hl : LoneAcquire sec slots t evtCleanup stack s)
    (h : ReturnsNull sec s t evtCleanup stack) {k : ℕ} (hk : k < sec.handleCount) :
    (slots k).use = true := by
  obtain ⟨first, htop, hback⟩ := h
  cases hl with
  | called hslots hstack => cases htop.symm.trans hstack
  | trying j hslots hstart hpos hused hstack => cases htop.symm.trans hstack
  | @next startPos j hslots hstart hpos hused hstack =>
    cases htop.symm.trans hstack
    rw [sec.position_succ, hpos, Nat.mod_add_mod] at hback
    obtain ⟨i, hi, rfl⟩ := sec.exists_visited hstart hback hk
    exact hused i hi
  | found hpc hstack => cases htop.symm.trans hstack
  | returned hle hstack =>
    cases htop.symm.trans hstack
    exact absurd hle (Nat.not_succ_le_self _)

end LoneAcquire

/-! ### The pool -/

/-- **Callers can rely on the pool** in every run whose steps are taken under no race.  A lone
`Acquire`, from any state, returns `NULL` only when every handle is in use. -/
theorem poolSafe_of_throughout (sec : AllKSection) :
    (∀ (index : BitVec 32) (n : ℕ) (es : List PoolEvent),
      (poolHandles sec).Throughout PoolState.NoRace (.start index n) es →
      (poolHandles sec).Always PoolSafe (.start index n) es) ∧
    ∀ (s s' : PoolState) (t : ℕ) (evtCleanup : Bool) (stack : List PoolFrame) (n : ℕ),
      s.callStacks[t]? = some stack →
      (poolHandles sec).exec s (.acquire t evtCleanup :: List.replicate n (.step t)) = some s' →
      ReturnsNull sec s' t evtCleanup stack →
      ∀ k, k < sec.handleCount → (s.slots k).use = true := by
  refine ⟨fun index n es h => ?_, fun s s' t evtCleanup stack n hstack h hnull k hk => ?_⟩
  · exact h.always (fun s hs => PoolState.Consistent.poolSafe hs)
      (fun s e s' hs hok hstep => hs.step hok hstep) (PoolState.consistent_start index n)
  · rw [Machine.exec, Option.bind_eq_some_iff] at h
    obtain ⟨u, hu, h⟩ := h
    simp only [poolHandles, hstack, Option.bind_some] at hu
    split at hu
    · cases hu
      have hcalled : LoneAcquire sec s.slots t evtCleanup stack
          (s.move t (some (.acqIndex evtCleanup)) stack) :=
        .called rfl (LoneAcquire.stack_move hstack _ stack)
      exact (hcalled.exec h).use_of_returnsNull hnull hk
    · cases hu

/-- A section whose handles are all in use. -/
def fullSection : PoolState where
  index := 0xFFFFFFFD
  slots := fun _ => { use := true, ref := 1, refs := 1 }
  callStacks := [[]]

/-- A handle is acquired by one thread and counted by another, and both give it up at the same
time; the second one cleans it up.  In a full section `Acquire` returns `NULL` after it has gone
round. -/
theorem poolSafe_of_throughout_cleanup :
    (poolHandles .hotK).Always PoolSafe (.start 0 2)
      [.acquire 0 true, .step 0, .step 0, .step 0, .step 0, .step 0, .step 0,
        .inc 1 1, .step 1, .step 1, .step 1,
        .dec 0 1 true, .step 0, .step 0, .dec 1 1 true, .step 1, .step 0,
        .step 1, .step 1, .step 1, .step 1, .step 1, .step 1, .step 1] ∧
    ∀ k, k < AllKSection.hotK.handleCount → (fullSection.slots k).use = true := by
  constructor
  · refine (poolSafe_of_throughout .hotK).1 0 2 _ ?_
    refine .cons rfl trivial (.cons rfl nofun ?_)
    iterate 5 refine .cons rfl (fun k pc rest h => by cases h; trivial) ?_
    refine .cons rfl trivial ?_
    iterate 3 refine .cons rfl (fun k pc rest h => by cases h; trivial) ?_
    refine .cons rfl trivial ?_
    iterate 2 refine .cons rfl (fun k pc rest h => by cases h; trivial) ?_
    refine .cons rfl trivial ?_
    iterate 9 refine .cons rfl (fun k pc rest h => by cases h; trivial) ?_
    trivial
  · exact (poolSafe_of_throughout .hotK).2 fullSection _ 0 true [] 16 rfl rfl ⟨_, rfl, rfl⟩

/-- An `Inc` finds the count raised by another one that has to take it back, and returns
`TRUE` in the middle of the clean-up. -/
theorem not_poolSafe_twoIncs :
    ¬(poolHandles .hotK).Always PoolSafe (.start 0 3)
      [.acquire 0 true, .step 0, .step 0, .step 0, .step 0, .step 0, .step 0,
        .inc 1 1, .step 1, .step 1, .inc 2 1, .step 2, .step 2,
        .dec 0 1 true, .step 0, .step 0, .step 0, .step 0, .step 0, .step 1, .step 2] := by
  intro h
  have hlast := h.exec rfl
  exact absurd hlast.refused nofun

end LibusbK
