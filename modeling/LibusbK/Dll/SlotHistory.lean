import LibusbK.Dll.PoolHandle
import LibusbK.Dll.SlotOvlPool
import LibusbK.Dll.SlotSections
import LibusbK.Dll.SlotStream

/-!
# What a slot remembers

Two histories of a slot are compared by the next life of the slot.  In seven of the nine
sections no history matters.  A slot of the overlapped pools forgets if its pools are freed
when every element has had a handle, and one of the streams if it never had a semaphore and
its counters end at zero.

## Main definitions

* `AllKSection.code` — the code of each section.
* `AllKSection.leavesNothing` — the steps after which a slot is as new.
* `SectionCode.PastIrrelevant` — after both histories the slot lives alike.

## Main results

* `slot_pastForgotten_iff` — a slot forgets all along exactly the histories of such steps.
* `stmKSlot_closes_again` — the semaphore of a stream that has been freed is closed again.
-/

namespace LibusbK

open SectionCode

/-- The code of a section. -/
def AllKSection.code : AllKSection → SectionCode
  | hotK => hotKCode
  | lstK => lstKCode
  | lstInfoK => lstInfoKCode
  | usbK => usbKCode
  | devK => devKCode
  | ovlK => ovlKCode
  | ovlPoolK => ovlPoolKCode
  | stmK => stmKCode
  | isochK => isochKCode

/-- The step leaves nothing in the slot. -/
def AllKSection.leavesNothing :
    (sec : AllKSection) → SlotState sec.code → SlotEvent sec.code → Prop
  | ovlPoolK => OvlPoolKSlot.leavesClean
  | stmK => StmKSlot.leavesClean
  | _ => fun _ _ => True

/-- After both histories, if the slot is free, its next life is the same, whatever the life. -/
def SectionCode.PastIrrelevant (P : SectionCode) (h₁ h₂ : List (SlotEvent P)) : Prop :=
  ∀ s₁ s₂, (slotLives P).exec (fresh P) h₁ = some s₁ → (slotLives P).exec (fresh P) h₂ = some s₂ →
    s₁.live = false → s₂.live = false → ∀ l, P.BehavesSame s₁.slot s₂.slot l

/-- A section in which every slot forgets. -/
theorem always_pastForgotten_iff {P : SectionCode} (hP : ∀ s : SlotState P, PastForgotten s)
    (h : List (SlotEvent P)) :
    (slotLives P).Always PastForgotten (fresh P) h ↔
      (slotLives P).Throughout (fun _ _ => True) (fresh P) h :=
  Machine.always_iff_throughout (I := fun _ => True) (fun s _ => hP s) (fun _ _ _ _ _ _ => trivial)
    (fun _ _ _ _ _ _ => trivial) trivial

theorem always_pastForgotten_iff_throughout (sec : AllKSection)
    (h : List (SlotEvent sec.code)) :
    (slotLives sec.code).Always PastForgotten (fresh sec.code) h ↔
      (slotLives sec.code).Throughout sec.leavesNothing (fresh sec.code) h := by
  cases sec with
  | hotK => exact always_pastForgotten_iff hotK_pastForgotten h
  | lstK => exact always_pastForgotten_iff lstK_pastForgotten h
  | lstInfoK => exact always_pastForgotten_iff lstInfoK_pastForgotten h
  | usbK => exact always_pastForgotten_iff usbK_pastForgotten h
  | devK => exact always_pastForgotten_iff devK_pastForgotten h
  | ovlK => exact always_pastForgotten_iff ovlK_pastForgotten h
  | ovlPoolK => exact OvlPoolKSlot.pastForgotten_iff_throughout h
  | stmK => exact StmKSlot.pastForgotten_iff_throughout h
  | isochK => exact always_pastForgotten_iff isochK_pastForgotten h

/-- Two histories that the slot has forgotten. -/
theorem SectionCode.PastIrrelevant.of_always {P : SectionCode} {h₁ h₂ : List (SlotEvent P)}
    (hs : (slotLives P).Always PastForgotten (fresh P) h₁)
    (ht : (slotLives P).Always PastForgotten (fresh P) h₂) : P.PastIrrelevant h₁ h₂ :=
  fun _ _ hexec hexec' hfree hfree' l =>
    PastForgotten.behavesSame (hs.exec hexec) (ht.exec hexec') hfree hfree' l

/-- **A slot forgets its past exactly in the histories of steps that leave nothing in it**, and
after any two of them it lives alike. -/
theorem slot_pastForgotten_iff (sec : AllKSection) :
    (∀ h, (slotLives sec.code).Always PastForgotten (fresh sec.code) h ↔
      (slotLives sec.code).Throughout sec.leavesNothing (fresh sec.code) h) ∧
    ∀ h₁ h₂,
      (slotLives sec.code).Throughout sec.leavesNothing (fresh sec.code) h₁ →
      (slotLives sec.code).Throughout sec.leavesNothing (fresh sec.code) h₂ →
      sec.code.PastIrrelevant h₁ h₂ := by
  refine ⟨always_pastForgotten_iff_throughout sec, fun h₁ h₂ hs ht => ?_⟩
  exact .of_always ((always_pastForgotten_iff_throughout sec h₁).mpr hs)
    ((always_pastForgotten_iff_throughout sec h₂).mpr ht)

/-- A stream with a timeout is made, whose semaphore is handle 7, and freed. -/
def timedStream : List (SlotEvent stmKCode) :=
  let init : StmKSlotInit := ⟨1, true, 1, KSTM_FLAG_USE_TIMEOUT, 1, 2, 3, 4, 5, 7, true⟩
  [.create { init := init, free := () }, .free 1 ()]

/-- `HeapCreate` fails for the next stream. -/
def heaplessStream : Life stmKCode :=
  let init : StmKSlotInit := ⟨1, true, 1, 0, 0, 0, 0, 0, 0, 0, false⟩
  { init := init, free := () }

/-- The semaphore of the first stream is closed again. -/
theorem stmKSlot_closes_again :
    (∃ s, (slotLives stmKCode).exec (fresh stmKCode) timedStream = some s ∧ s.live = false ∧
      (life heaplessStream).effects s.slot = [.closeHandle 7] ∧
      (life heaplessStream).effects stmKCode.zeroSlot = []) ∧
    ¬∀ (sec : AllKSection) h₁ h₂, sec.code.PastIrrelevant h₁ h₂ := by
  have hrun : ∃ s, (slotLives stmKCode).exec (fresh stmKCode) timedStream = some s ∧
      s.live = false ∧ (life heaplessStream).effects s.slot = [.closeHandle 7] ∧
      (life heaplessStream).effects stmKCode.zeroSlot = [] := ⟨_, rfl, rfl, rfl, rfl⟩
  refine ⟨hrun, fun h => ?_⟩
  obtain ⟨s, hs, hfree, heffects, hnone⟩ := hrun
  have hsame := (h .stmK timedStream [] s (fresh stmKCode) hs rfl hfree rfl heaplessStream).effects
  cases heffects.symm.trans (hsame.trans hnone)

end LibusbK
