import LibusbK.Lib.Access
import LibusbK.Lib.Machine
import Mathlib.Data.Int.Notation
import Mathlib.Data.Nat.Notation

/-!
# The lives of a slot

A slot of a section is used by one owner after the other.  `POOLHANDLE_ACQUIRE` resets the
base of the handle, and the fields that `Init_Handle_*` of the section names; what it does
not name an earlier owner has left behind.

A section is given by its code, as far as it works on the fields of the handle.  The answers
that the code gets from elsewhere are part of its arguments.

## Main definitions

* `SectionCode` — the code of a section.
* `SectionCode.life` — a handle that is acquired, used and cleaned up.
* `slotLives` — the lives of a slot, one after the other.
* `SectionCode.BehavesSame` — a life of one slot is as good as that of another.
* `SectionCode.PastForgotten` — a slot in which every life is as in a slot of zeros.
-/

namespace LibusbK

/-! ### Fields -/

/-- `KOBJ_BASE`, without `Count.Use`, which is the lock of the slot. -/
inductive BaseField
  | disposing
  | evtCleanup
  | ref
  | valid
  | cleanupCB
  | context
  deriving DecidableEq, Repr

/-- The fields of a handle with fields `F` of its own. -/
inductive SlotField (F : Type)
  | base (f : BaseField)
  | own (f : F)
  deriving DecidableEq, Repr

/-- The values of the fields.  Pointers, handles, flags and counts are integers. -/
abbrev SlotVal {F : Type} (V : F → Type) : SlotField F → Type
  | .base _ => ℤ
  | .own f => V f

/-- What the code does besides. -/
inductive SlotEffect
  | callback (cleanupCB context : ℤ)
  | decUsbK (handle : ℤ)
  | decOvlK (handle : ℤ)
  | closeHandle (handle : ℤ)
  | createEvent (handle : ℤ)
  | resetEvent (handle : ℤ)
  | wait (handle timeout : ℤ)
  | releaseSemaphore (handle : ℤ) (count : ℕ)
  | queueUserAPC (thread : ℤ)
  | heapDestroy (heap : ℤ)
  | heapFree (heap memory : ℤ)
  | memFree (memory : ℤ)
  | freeElements (elements : List ℕ)
  | isoKFree (context : ℤ)
  | unregisterIsochBuffer (handle : ℤ)
  /-- A callback of a stream, for a transfer. -/
  | streamCallback (userCB xferItems : ℤ) (index : ℕ)
  /-- A null pointer is followed. -/
  | fault
  /-- Any other call. -/
  | call (function : ℕ) (arguments : List ℤ)
  deriving DecidableEq, Repr

/-- Code of a section. -/
abbrev SlotCode {F : Type} (V : F → Type) (α : Type) := Access (SlotVal V) SlotEffect α

namespace SlotCode

variable {F : Type} {V : F → Type}

/-- A field of the base is read. -/
@[simp] def loadBase (f : BaseField) : SlotCode V ℤ := Access.load (SlotField.base f)

/-- A field of the base is written. -/
@[simp] def putBase (f : BaseField) (v : ℤ) : SlotCode V Unit :=
  Access.put (SlotField.base f) v

/-- A field of the section is read. -/
@[simp] def load (f : F) : SlotCode V (V f) := Access.load (SlotField.own f)

/-- A field of the section is written. -/
@[simp] def put (f : F) (v : V f) : SlotCode V Unit := Access.put (SlotField.own f) v

/-- An effect. -/
@[simp] def tell (e : SlotEffect) : SlotCode V Unit := Access.tell e

/-! ### The base -/

/-- `Init_Handle_ObjK`, and `Evt.Cleanup`, which `PoolHandle_Acquire` sets. -/
def initHandleObjK (evtCleanup defaultUserContext : ℤ) : SlotCode V Unit := do
  putBase .valid 0
  putBase .cleanupCB 0
  putBase .context 0
  putBase .evtCleanup 0
  putBase .ref 1
  putBase .disposing 0
  putBase .context defaultUserContext
  putBase .evtCleanup evtCleanup

/-- `PoolHandle_Live`. -/
def poolHandleLive : SlotCode V Unit := do
  if (← loadBase .valid) = 0 then
    putBase .valid 1

/-- `PoolHandle_Dead`. -/
def poolHandleDead : SlotCode V Unit := do
  if (← loadBase .valid) ≠ 0 then
    putBase .valid 0
    let cleanupCB ← loadBase .cleanupCB
    if cleanupCB ≠ 0 then
      let context ← loadBase .context
      tell (.callback cleanupCB context)
      putBase .cleanupCB 0

/-- `PoolHandle_Dec` that gives up the last reference, in thread `thread`.  The routine that
`Evt.Cleanup` points to is the `cleanup` of the section. -/
def poolHandleDec (thread : ℤ) (cleanup : SlotCode V Unit) : SlotCode V Unit := do
  let ref ← loadBase .ref
  putBase .ref (ref - 1)
  putBase .disposing thread
  let _ ← loadBase .evtCleanup
  cleanup
  putBase .evtCleanup 0

end SlotCode

/-- What is done with the base of a handle in use. -/
inductive BaseUse
  /-- `PoolHandle_Inc`. -/
  | inc
  /-- `PoolHandle_Dec` of a reference that is not the last. -/
  | dec
  /-- `LibK_SetContext`. -/
  | setContext (contextValue : ℤ)
  /-- `LibK_SetCleanupCallback`. -/
  | setCleanupCallback (cleanupCB : ℤ)
  deriving DecidableEq, Repr

namespace SlotCode

variable {F : Type} {V : F → Type}

/-- The reference count changes by `d`, unless the handle is in its clean-up. -/
def addRef (d : ℤ) : SlotCode V Unit := do
  if (← loadBase .disposing) = 0 then
    let ref ← loadBase .ref
    putBase .ref (ref + d)

/-- A field of the user is written if there is a reference. -/
def putUser (f : BaseField) (v : ℤ) : SlotCode V Unit := do
  if 1 ≤ (← loadBase .ref) then
    putBase f v

/-- A use of the base. -/
def useBase : BaseUse → SlotCode V Unit
  | .inc => addRef 1
  | .dec => addRef (-1)
  | .setContext contextValue => putUser .context contextValue
  | .setCleanupCallback cleanupCB => putUser .cleanupCB cleanupCB

variable [DecidableEq F] {s : ∀ f, SlotVal V f}

@[simp] theorem useBase_exposes_own (u : BaseUse) (f : F) :
    ¬(useBase u : SlotCode V Unit).Exposes s (.own f) := by
  cases u <;> simp [useBase, addRef, putUser]

@[simp] theorem useBase_assigns_own (u : BaseUse) (f : F) :
    ¬(useBase u : SlotCode V Unit).Assigns s (.own f) := by
  cases u <;> simp [useBase, addRef, putUser]

@[simp] theorem useBase_final_own (u : BaseUse) (f : F) :
    (useBase u : SlotCode V Unit).final s (.own f) = s (.own f) :=
  Access.final_of_not_assigns (useBase_assigns_own u f)

/-- `Init_Handle_ObjK` writes the whole base. -/
@[simp] theorem initHandleObjK_assigns (evtCleanup context : ℤ) (f : SlotField F) :
    (initHandleObjK evtCleanup context : SlotCode V Unit).Assigns s f ↔ ∃ b, f = .base b := by
  cases f with
  | base b => cases b <;> simp [initHandleObjK]
  | own f => simp [initHandleObjK]

@[simp] theorem initHandleObjK_exposes (evtCleanup context : ℤ) (f : SlotField F) :
    ¬(initHandleObjK evtCleanup context : SlotCode V Unit).Exposes s f := by
  cases f <;> simp [initHandleObjK]

@[simp] theorem initHandleObjK_final_own (evtCleanup context : ℤ) (f : F) :
    (initHandleObjK evtCleanup context : SlotCode V Unit).final s (.own f) = s (.own f) := by
  simp [initHandleObjK]

@[simp] theorem poolHandleLive_exposes_own (f : F) :
    ¬(poolHandleLive : SlotCode V Unit).Exposes s (.own f) := by
  simp [poolHandleLive]

@[simp] theorem poolHandleLive_assigns_own (f : F) :
    ¬(poolHandleLive : SlotCode V Unit).Assigns s (.own f) := by
  simp [poolHandleLive]

@[simp] theorem poolHandleLive_final_own (f : F) :
    (poolHandleLive : SlotCode V Unit).final s (.own f) = s (.own f) :=
  Access.final_of_not_assigns (poolHandleLive_assigns_own f)

@[simp] theorem poolHandleDead_exposes_own (f : F) :
    ¬(poolHandleDead : SlotCode V Unit).Exposes s (.own f) := by
  simp [poolHandleDead]

@[simp] theorem poolHandleDead_assigns_own (f : F) :
    ¬(poolHandleDead : SlotCode V Unit).Assigns s (.own f) := by
  simp [poolHandleDead]

@[simp] theorem poolHandleDead_final_own (f : F) :
    (poolHandleDead : SlotCode V Unit).final s (.own f) = s (.own f) :=
  Access.final_of_not_assigns (poolHandleDead_assigns_own f)

/-- The slot when the clean-up begins. -/
def disposing (thread : ℤ) (s : ∀ f, SlotVal V f) : ∀ f, SlotVal V f :=
  Function.update (Function.update s (.base .ref) (s (.base .ref) - 1)) (.base .disposing) thread

@[simp] theorem disposing_own (thread : ℤ) (f : F) : disposing thread s (.own f) = s (.own f) := by
  simp [disposing]

@[simp] theorem poolHandleDec_final_own (thread : ℤ) (cleanup : SlotCode V Unit) (f : F) :
    (poolHandleDec thread cleanup).final s (.own f) =
      cleanup.final (disposing thread s) (.own f) := by
  simp [poolHandleDec, disposing]

@[simp] theorem poolHandleDec_exposes_own (thread : ℤ) (cleanup : SlotCode V Unit) (f : F) :
    (poolHandleDec thread cleanup).Exposes s (.own f) ↔
      cleanup.Exposes (disposing thread s) (.own f) := by
  simp [poolHandleDec, disposing]

end SlotCode

/-! ### Sections -/

/-- The code of a section. -/
structure SectionCode where
  /-- The fields of its handles, besides the base. -/
  Field : Type
  decEq : DecidableEq Field
  Val : Field → Type
  /-- The memory of `AllK` is allocated as zeros. -/
  zero : ∀ f, Val f
  /-- `Init_Handle_*`. -/
  initHandle : SlotCode Val Unit
  /-- The arguments of the functions that create a handle. -/
  Init : Type
  /-- What they do with the handle they have acquired, up to their error label. -/
  init : Init → SlotCode Val Bool
  /-- What can be done with a handle. -/
  Use : Type
  use : Use → SlotCode Val Unit
  /-- The answers the clean-up routine gets. -/
  Free : Type
  cleanup : Free → SlotCode Val Unit

namespace SectionCode

variable (P : SectionCode)

instance : DecidableEq P.Field := P.decEq

/-- The contents of a slot. -/
abbrev Slot : Type := ∀ f, SlotVal P.Val f

/-- A slot that has not been used. -/
def zeroSlot : P.Slot
  | .base _ => (0 : ℤ)
  | .own f => P.zero f

/-- A handle is created: the `DefaultUserContext` of the section, the arguments, and what
the clean-up gets if the creation fails. -/
structure Creation where
  defaultUserContext : ℤ := 0
  thread : ℤ := 0
  init : P.Init
  free : P.Free

variable {P}

/-- The fields of the section are reset, and written by a function that creates a handle. -/
def prepare (a : P.Init) : SlotCode P.Val Bool := do
  P.initHandle
  P.init a

/-- A function that creates a handle.  Where it fails it gives up the handle. -/
def create (c : P.Creation) : SlotCode P.Val Bool := do
  SlotCode.initHandleObjK 1 c.defaultUserContext
  let success ← prepare c.init
  if success then
    return true
  else
    SlotCode.poolHandleDec c.thread (P.cleanup c.free)
    return false

/-- The uses of a handle. -/
def runUses : List P.Use → SlotCode P.Val Unit
  | [] => pure ()
  | u :: us => do
    P.use u
    runUses us

variable (P) in
/-- A life of a slot. -/
structure Life extends P.Creation where
  uses : List P.Use := []

/-- A handle is created, used and cleaned up. -/
def life (l : P.Life) : SlotCode P.Val Bool := do
  let success ← create l.toCreation
  if success then
    runUses l.uses
    SlotCode.poolHandleDec l.thread (P.cleanup l.free)
  return success

/-- The life is the same in both slots: what the code reads of a field before it writes it
has the same value, and it does and returns the same. -/
structure BehavesSame (s t : P.Slot) (l : P.Life) : Prop where
  reads : ∀ f, (life l).Exposes s f → s f = t f
  effects : (life l).effects s = (life l).effects t
  result : (life l).result s = (life l).result t

end SectionCode

/-! ### Histories -/

/-- A slot, and whether it is in use. -/
structure SlotState (P : SectionCode) where
  live : Bool
  slot : P.Slot

/-- What happens to a slot.  The last calls on a handle, and the thread of a stream, can be
late, when the handle has been cleaned up. -/
inductive SlotEvent (P : SectionCode)
  | create (c : P.Creation)
  | use (u : P.Use)
  | free (thread : ℤ) (x : P.Free)

/-- The lives of a slot. -/
def slotLives (P : SectionCode) : Machine (SlotState P) (SlotEvent P) where
  step s
    | .create c =>
      if s.live then none
      else some ⟨(SectionCode.create c).result s.slot, (SectionCode.create c).final s.slot⟩
    | .use u => some { s with slot := (P.use u).final s.slot }
    | .free thread x =>
      if s.live then
        some ⟨false, (SlotCode.poolHandleDec thread (P.cleanup x)).final s.slot⟩
      else none

namespace SectionCode

variable {P : SectionCode}

variable (P) in
/-- A slot that has not been used. -/
def fresh : SlotState P := ⟨false, P.zeroSlot⟩

/-- The next life of the slot is as in one that has not been used, whatever the life. -/
def PastForgotten (s : SlotState P) : Prop :=
  s.live = false → ∀ l, P.BehavesSame s.slot P.zeroSlot l

theorem behavesSame_iff {s t : P.Slot} {l : P.Life} :
    P.BehavesSame s t l ↔ (life l).SameFor s t := by
  constructor
  · exact fun h => h.reads
  · intro h
    exact ⟨h, Access.SameFor.effects h, Access.SameFor.result h⟩

theorem BehavesSame.symm {s t : P.Slot} {l : P.Life} (h : P.BehavesSame s t l) :
    P.BehavesSame t s l :=
  behavesSame_iff.mpr (behavesSame_iff.mp h).symm

theorem BehavesSame.trans {s t u : P.Slot} {l : P.Life} (h : P.BehavesSame s t l)
    (h' : P.BehavesSame t u l) : P.BehavesSame s u l :=
  behavesSame_iff.mpr ((behavesSame_iff.mp h).trans (behavesSame_iff.mp h'))

/-! ### The creation of a handle -/

/-- The slot after `Init_Handle_ObjK`. -/
def Creation.acquired (c : P.Creation) (s : P.Slot) : P.Slot :=
  (SlotCode.initHandleObjK 1 c.defaultUserContext).final s

@[simp] theorem Creation.acquired_own (c : P.Creation) (s : P.Slot) (f : P.Field) :
    c.acquired s (.own f) = s (.own f) :=
  SlotCode.initHandleObjK_final_own _ _ f

variable {c : P.Creation} {s : P.Slot} {f : P.Field}

theorem create_not_exposes_base (b : BaseField) : ¬(create c).Exposes s (.base b) := by
  simp [create]

theorem create_assigns_base (b : BaseField) : (create c).Assigns s (.base b) := by
  simp [create]

theorem create_result : (create c).result s = (prepare c.init).result (c.acquired s) := by
  cases h : (prepare c.init).result (c.acquired s) <;>
    simp [create, Creation.acquired] at h ⊢ <;> simp [h]

theorem create_final (h : (prepare c.init).result (c.acquired s) = true) :
    (create c).final s = (prepare c.init).final (c.acquired s) := by
  simp [create, Creation.acquired] at h ⊢
  simp [h]

theorem create_final_of_fails (h : (prepare c.init).result (c.acquired s) = false) :
    (create c).final s =
      (SlotCode.poolHandleDec c.thread (P.cleanup c.free)).final
        ((prepare c.init).final (c.acquired s)) := by
  simp [create, Creation.acquired] at h ⊢
  simp [h]

theorem assigns_create (h : (prepare c.init).Assigns (c.acquired s) (.own f)) :
    (create c).Assigns s (.own f) := by
  simp [create]
  exact .inl h

/-- The slot when the clean-up of a handle begins that cannot be created. -/
def Creation.failed (c : P.Creation) (s : P.Slot) : P.Slot :=
  SlotCode.disposing c.thread ((prepare c.init).final (c.acquired s))

@[simp] theorem Creation.failed_own (c : P.Creation) (s : P.Slot) (f : P.Field) :
    c.failed s (.own f) = (prepare c.init).final (c.acquired s) (.own f) :=
  SlotCode.disposing_own ..

/-- A creation exposes what preparing the handle exposes, or where it fails the clean-up. -/
theorem exposes_create_iff : (create c).Exposes s (.own f) ↔
    (prepare c.init).Exposes (c.acquired s) (.own f) ∨
      ¬(prepare c.init).Assigns (c.acquired s) (.own f) ∧
        (prepare c.init).result (c.acquired s) = false ∧
        (P.cleanup c.free).Exposes (c.failed s) (.own f) := by
  simp [create]
  rfl

/-- A life exposes what the creation of the handle exposes, and what it does not write. -/
theorem exposes_life {l : P.Life} {f : SlotField P.Field} (h : (life l).Exposes s f) :
    (create l.toCreation).Exposes s f ∨
      (create l.toCreation).result s = true ∧ ¬(create l.toCreation).Assigns s f ∧
        ((runUses l.uses).Exposes ((create l.toCreation).final s) f ∨
          (SlotCode.poolHandleDec l.thread (P.cleanup l.free)).Exposes
            ((runUses l.uses).final ((create l.toCreation).final s)) f) := by
  rw [life, Access.exposes_bind] at h
  rcases h with h | ⟨hassigns, h⟩
  · exact .inl h
  · cases hresult : (create l.toCreation).result s with
    | false => simp [hresult] at h
    | true =>
      simp [hresult] at h
      exact .inr ⟨rfl, hassigns, h.imp_right And.right⟩

theorem exposes_life_of_create {l : P.Life} {f : SlotField P.Field}
    (h : (create l.toCreation).Exposes s f) : (life l).Exposes s f :=
  (Access.exposes_bind ..).mpr (.inl h)

/-- A use exposes a field that the creation of the handle does not write. -/
theorem exposes_life_of_use {u : P.Use}
    (hresult : (prepare c.init).result (c.acquired s) = true)
    (hassigns : ¬(prepare c.init).Assigns (c.acquired s) (.own f))
    (h : (P.use u).Exposes ((prepare c.init).final (c.acquired s)) (.own f)) :
    (life { c with uses := [u] }).Exposes s (.own f) := by
  have hcreate : ¬(create c).Assigns s (.own f) := by
    simp [create, Creation.acquired] at hresult hassigns ⊢
    exact ⟨hassigns, by simp [hresult]⟩
  rw [life, Access.exposes_bind]
  refine .inr ⟨hcreate, ?_⟩
  simp [create_result.trans hresult, create_final hresult, runUses]
  exact .inl h

/-! ### The uses of a handle -/

/-- What every use keeps, the uses keep. -/
theorem final_runUses {I : P.Slot → Prop} (huse : ∀ u s, I s → I ((P.use u).final s))
    {us : List P.Use} : ∀ {s : P.Slot}, I s → I ((runUses us).final s) := by
  induction us with
  | nil => exact id
  | cons u us ih =>
    intro s hs
    rw [runUses, Access.final_bind]
    exact ih (huse u s hs)

/-- What every use exposes under an invariant, the uses expose. -/
theorem exposes_runUses {I : P.Slot → Prop} {Q : SlotField P.Field → Prop}
    (huse : ∀ u s, I s → I ((P.use u).final s))
    (hexposes : ∀ u s f, I s → (P.use u).Exposes s f → Q f) {us : List P.Use} :
    ∀ {s : P.Slot}, I s → ∀ f, (runUses us).Exposes s f → Q f := by
  induction us with
  | nil => exact fun _ _ h => h.elim
  | cons u us ih =>
    intro s hs f h
    rcases (Access.exposes_bind ..).mp h with h | ⟨-, h⟩
    · exact hexposes u s f hs h
    · exact ih (huse u s hs) f h

/-- A section that always forgets: to prepare a handle exposes nothing, and it writes every
field, but for those that the clean-up does not read where the handle cannot be created. -/
theorem PastForgotten.of_prepare
    (hexposes : ∀ (a : P.Init) s f, ¬(prepare a).Exposes s (.own f))
    (hassigns : ∀ (a : P.Init) s f, (prepare a).result s = true →
      (prepare a).Assigns s (.own f))
    (hcleanup : ∀ (a : P.Init) x (s t : P.Slot) f, (prepare a).result s = false →
      ¬(prepare a).Assigns s (.own f) → (∀ g, t (.own g) = (prepare a).final s (.own g)) →
      ¬(P.cleanup x).Exposes t (.own f))
    (s : SlotState P) : PastForgotten s := by
  intro _ l
  refine behavesSame_iff.mpr fun f hf => ?_
  rcases exposes_life hf with h | ⟨hresult, hnot, -⟩
  · cases f with
    | base b => exact absurd h (create_not_exposes_base b)
    | own f =>
      rcases exposes_create_iff.mp h with h | ⟨hnot, hfails, h⟩
      · exact (hexposes _ _ f h).elim
      · exact (hcleanup _ _ _ _ f hfails hnot (Creation.failed_own _ _) h).elim
  · cases f with
    | base b => exact absurd (create_assigns_base b) hnot
    | own f => exact absurd (assigns_create (hassigns _ _ f (create_result ▸ hresult))) hnot

/-- What a step does to a slot. -/
inductive Step (s : SlotState P) : SlotEvent P → SlotState P → Prop
  | creates (c : P.Creation) (hfree : s.live = false)
    (hresult : (prepare c.init).result (c.acquired s.slot) = true) :
    Step s (.create c) ⟨true, (prepare c.init).final (c.acquired s.slot)⟩
  | fails (c : P.Creation) (hfree : s.live = false)
    (hresult : (prepare c.init).result (c.acquired s.slot) = false) (t : P.Slot)
    (ht : ∀ f, t (.own f) = (P.cleanup c.free).final (c.failed s.slot) (.own f)) :
    Step s (.create c) ⟨false, t⟩
  | use (u : P.Use) : Step s (.use u) ⟨s.live, (P.use u).final s.slot⟩
  | frees (thread : ℤ) (x : P.Free) (hlive : s.live = true) (t : P.Slot)
    (ht : ∀ f, t (.own f) = (P.cleanup x).final (SlotCode.disposing thread s.slot) (.own f)) :
    Step s (.free thread x) ⟨false, t⟩

theorem Step.of_step {s t : SlotState P} {e : SlotEvent P} (h : (slotLives P).step s e = some t) :
    Step s e t := by
  cases e with
  | create c =>
    simp only [slotLives] at h
    split at h
    · cases h
    · next hfree =>
      cases h
      rw [create_result]
      cases hresult : (prepare c.init).result (c.acquired s.slot) with
      | false =>
        refine .fails c (by simpa using hfree) hresult _ fun f => ?_
        rw [create_final_of_fails hresult, SlotCode.poolHandleDec_final_own]
        rfl
      | true =>
        rw [create_final hresult]
        exact .creates c (by simpa using hfree) hresult
  | use u =>
    cases h
    exact .use u
  | free thread x =>
    simp only [slotLives] at h
    split at h
    · next hlive =>
      cases h
      exact .frees thread x hlive _ fun f => SlotCode.poolHandleDec_final_own ..
    · cases h

/-- Slots that have forgotten their past are the same for every life. -/
theorem PastForgotten.behavesSame {s t : SlotState P} (hs : PastForgotten s)
    (ht : PastForgotten t) (hsfree : s.live = false) (htfree : t.live = false) (l : P.Life) :
    P.BehavesSame s.slot t.slot l :=
  (hs hsfree l).trans (ht htfree l).symm

end SectionCode

end LibusbK
