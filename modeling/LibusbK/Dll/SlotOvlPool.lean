import LibusbK.Dll.SlotLives
import Mathlib.Data.List.Basic

/-!
# The slots of overlapped pools

`Init_Handle_OvlPoolK` resets `Flags` and `UsbHandle`.  The array of elements and the two lists
are reset by `Cleanup_OvlK`, when the last of the elements loses its handle; elements without
a handle are never counted down.

A list is kept as the elements in it, and the elements are numbered as they are allocated.
`OvlK_Release` is accepted for an acquired handle, which is that of an element of
`AcquiredList`.

## Main definitions

* `ovlPoolKCode` — the section.
* `OvlPoolKSlot.Clean` — a slot without elements.
* `OvlPoolKSlot.leavesClean` — what keeps a slot in this state between its lives.

## Main results

* `OvlPoolKSlot.pastForgotten_iff` — a slot has forgotten its past exactly if it is clean.
* `OvlPoolKSlot.pastForgotten_iff_throughout` — the same, of histories.
-/

namespace LibusbK

open SlotCode SectionCode

/-! ### The code -/

/-- `KOVL_POOL_HANDLE_INTERNAL`, and the `Handle` of each element. -/
inductive OvlPoolKField
  | masterListCount
  | masterArray
  | acquiredList
  | releasedList
  | flags
  | usbHandle
  | elHandle (e : ℕ)
  deriving DecidableEq, Repr

abbrev OvlPoolKVal : OvlPoolKField → Type
  | .masterArray => List ℕ
  | .acquiredList => List ℕ
  | .releasedList => List ℕ
  | _ => ℤ

/-- `Init_Handle_OvlPoolK`. -/
def initHandleOvlPoolK : SlotCode OvlPoolKVal Unit := do
  put .flags 0
  put .usbHandle 0

/-- What `Cleanup_OvlK` does with the pool. -/
def cleanupOvlKInPool : SlotCode OvlPoolKVal Unit := do
  let masterListCount ← load .masterListCount
  put .masterListCount (masterListCount - 1)
  if masterListCount - 1 = 0 then
    let masterArray ← load .masterArray
    tell (.freeElements masterArray)
    put .acquiredList []
    put .releasedList []
    put .masterListCount 0
    put .masterArray []

/-- The loop of `Cleanup_OvlPoolK`, from element `i` on.  `lastRef` says whether the
`PoolHandle_Dec_OvlK` gives up the last reference to the handle of an element. -/
def decElementsOf (lastRef : ℕ → Bool) : ℕ → ℕ → SlotCode OvlPoolKVal Unit
  | _, 0 => pure ()
  | i, n + 1 => do
    let masterArray ← load .masterArray
    match masterArray[i]? with
    | none => tell .fault
    | some e => do
      let handle ← load (.elHandle e)
      if handle ≠ 0 then
        tell (.decOvlK handle)
        if lastRef e then
          cleanupOvlKInPool
      decElementsOf lastRef (i + 1) n

/-- `Cleanup_OvlPoolK`. -/
def cleanupOvlPool (lastRef : ℕ → Bool) : SlotCode OvlPoolKVal Unit := do
  poolHandleDead
  let usbHandle ← load .usbHandle
  if usbHandle ≠ 0 then
    tell (.decUsbK usbHandle)
  let masterListCount ← load OvlPoolKField.masterListCount
  decElementsOf lastRef 0 masterListCount.toNat

/-- The arguments of `OvlK_Init`, and the answers it gets: the first of the elements that
`Mem_Alloc` returns, which fails for a negative size. -/
structure OvlPoolKInit where
  usbHandle : ℤ
  maxOverlappedCount : ℤ
  flags : ℤ
  incUsbK : Bool
  memAlloc : Option ℕ

/-- The elements of the new array, if there is one. -/
def OvlPoolKInit.elements (a : OvlPoolKInit) : Option (List ℕ) :=
  if a.maxOverlappedCount < 0 then none
  else a.memAlloc.map fun first =>
    (List.range a.maxOverlappedCount.toNat).map (first + ·)

/-- The memory of the elements is zeroed. -/
def zeroElements : List ℕ → SlotCode OvlPoolKVal Unit
  | [] => pure ()
  | e :: es => do
    put (.elHandle e) 0
    zeroElements es

/-- The loop of `OvlK_Init`. -/
def appendElements : List ℕ → SlotCode OvlPoolKVal Unit
  | [] => pure ()
  | e :: es => do
    let releasedList ← load .releasedList
    put .releasedList (releasedList ++ [e])
    appendElements es

/-- `OvlK_Init`, once it has acquired the slot. -/
def ovlPoolKInit (a : OvlPoolKInit) : SlotCode OvlPoolKVal Bool := do
  put .flags a.flags
  if a.incUsbK then
    put .usbHandle a.usbHandle
    match a.elements with
    | none => do
      put .masterArray []
      tell (.decUsbK a.usbHandle)
      return false
    | some elements => do
      zeroElements elements
      put .masterArray elements
      put .masterListCount a.maxOverlappedCount
      appendElements elements
      put .flags a.flags
      poolHandleLive
      return true
  else
    return false

/-- What is done with a pool.  `acquire` comes with the handle `PoolHandle_Acquire_OvlK`
returns, and `cleanupOvlK` is the clean-up of a handle outside of `Cleanup_OvlPoolK`. -/
inductive OvlPoolKUse
  | base (u : BaseUse)
  | acquire (handle : ℤ)
  | release (e : ℕ)
  | waitOldest (timeoutMS : ℤ)
  | wait
  | cleanupOvlK
  deriving DecidableEq, Repr

/-- `OvlK_Acquire` puts the element into `AcquiredList`. -/
def appendAcquired (e : ℕ) : SlotCode OvlPoolKVal Unit := do
  let acquiredList ← load .acquiredList
  put .acquiredList (acquiredList ++ [e])

/-- `OvlK_Acquire`, `OvlK_Release`, `OvlK_WaitOldest`, `OvlK_Wait` and `Cleanup_OvlK`, as far as
they work on the pool. -/
def OvlPoolKUse.code : OvlPoolKUse → SlotCode OvlPoolKVal Unit
  | base u => useBase u
  | acquire handle => do
    let releasedList ← load OvlPoolKField.releasedList
    match releasedList with
    | [] => pure ()
    | e :: rest => do
      put .releasedList rest
      let old ← load (.elHandle e)
      if old ≠ 0 then
        appendAcquired e
      else
        put (.elHandle e) handle
        if handle = 0 then
          put .releasedList (e :: rest)
        else
          appendAcquired e
  | release e => do
    let acquiredList ← load OvlPoolKField.acquiredList
    if e ∈ acquiredList then
      put .acquiredList (acquiredList.erase e)
      let releasedList ← load .releasedList
      put .releasedList (e :: releasedList)
  | waitOldest timeoutMS => do
    let acquiredList ← load OvlPoolKField.acquiredList
    match acquiredList with
    | [] => pure ()
    | e :: _ => do
      let handle ← load (.elHandle e)
      tell (.wait handle timeoutMS)
  | wait => do
    let usbHandle ← load .usbHandle
    tell (.call 0 [usbHandle])
  | cleanupOvlK => cleanupOvlKInPool

/-- The `OvlPoolK` section. -/
def ovlPoolKCode : SectionCode where
  Field := OvlPoolKField
  decEq := inferInstance
  Val := OvlPoolKVal
  zero
    | .masterListCount => 0
    | .masterArray => []
    | .acquiredList => []
    | .releasedList => []
    | .flags => 0
    | .usbHandle => 0
    | .elHandle _ => 0
  initHandle := initHandleOvlPoolK
  Init := OvlPoolKInit
  init := ovlPoolKInit
  Use := OvlPoolKUse
  use := OvlPoolKUse.code
  Free := ℕ → Bool
  cleanup := cleanupOvlPool

/-- A slot of the section. -/
abbrev OvlPoolKSlot : Type := ∀ f, SlotVal OvlPoolKVal f

namespace OvlPoolKSlot

variable (s : OvlPoolKSlot)

abbrev masterListCount : ℤ := s (.own .masterListCount)
abbrev masterArray : List ℕ := s (.own .masterArray)
abbrev acquiredList : List ℕ := s (.own .acquiredList)
abbrev releasedList : List ℕ := s (.own .releasedList)
abbrev elHandle (e : ℕ) : ℤ := s (.own (.elHandle e))

/-- There are no elements. -/
structure Clean : Prop where
  masterListCount : s.masterListCount = 0
  acquiredList : s.acquiredList = []
  releasedList : s.releasedList = []

variable {s} {t : OvlPoolKSlot}

theorem Clean.congr (h : ∀ f, s (.own f) = t (.own f)) : s.Clean ↔ t.Clean := by
  constructor
  · exact fun ⟨hcount, hacquired, hreleased⟩ =>
      ⟨(h _).symm.trans hcount, (h _).symm.trans hacquired, (h _).symm.trans hreleased⟩
  · exact fun ⟨hcount, hacquired, hreleased⟩ =>
      ⟨(h _).trans hcount, (h _).trans hacquired, (h _).trans hreleased⟩

/-! ### The clean-up -/

/-- The last element is counted down. -/
theorem cleanupOvlKInPool_clean (h : s.masterListCount = 1) :
    Clean (cleanupOvlKInPool.final s) := by
  constructor <;> simp [cleanupOvlKInPool, h]

/-- Another element is counted down. -/
theorem cleanupOvlKInPool_final (h : s.masterListCount ≠ 1) :
    cleanupOvlKInPool.final s =
      Function.update s (.own .masterListCount) (s.masterListCount - 1) := by
  have hne : s.masterListCount - 1 ≠ 0 := by omega
  simp [cleanupOvlKInPool, hne]

/-- **What the loop of `Cleanup_OvlPoolK` leaves.** -/
theorem decElementsOf_clean_iff (lastRef : ℕ → Bool) (n : ℕ) :
    ∀ (i : ℕ) (s : OvlPoolKSlot), (n : ℤ) ≤ s.masterListCount →
      i + n ≤ s.masterArray.length →
      (s.masterListCount = 0 → s.acquiredList = [] ∧ s.releasedList = []) →
      (Clean ((decElementsOf lastRef i n).final s) ↔
        s.masterListCount = n ∧
          ∀ e ∈ (s.masterArray.drop i).take n, s.elHandle e ≠ 0 ∧ lastRef e = true) := by
  induction n with
  | zero =>
    intro i s _ _ hnone
    refine ⟨fun h => ⟨h.masterListCount, fun e he => by simp at he⟩, fun h => ?_⟩
    exact ⟨h.1, (hnone h.1).1, (hnone h.1).2⟩
  | succ n ih =>
    intro i s hcount hlength hnone
    have hi : i < s.masterArray.length := by omega
    have hget : s.masterArray[i]? = some s.masterArray[i] := List.getElem?_eq_getElem hi
    have hdrop : s.masterArray.drop i = s.masterArray[i] :: s.masterArray.drop (i + 1) :=
      List.drop_eq_getElem_cons hi
    rw [hdrop, List.take_succ_cons, List.forall_mem_cons]
    generalize s.masterArray[i] = e at hget
    by_cases hgood : s.elHandle e ≠ 0 ∧ lastRef e = true
    · have hfinal : (decElementsOf lastRef i (n + 1)).final s =
          (decElementsOf lastRef (i + 1) n).final (cleanupOvlKInPool.final s) := by
        simp [decElementsOf, hget, hgood]
      rw [hfinal]
      by_cases hlast : s.masterListCount = 1
      · obtain rfl : n = 0 := by omega
        refine iff_of_true (cleanupOvlKInPool_clean hlast) ⟨hlast, hgood, fun e he => ?_⟩
        simp at he
      · rw [cleanupOvlKInPool_final hlast]
        refine (ih (i + 1) _ ?_ ?_ ?_).trans ?_
        · show (n : ℤ) ≤ s.masterListCount - 1
          omega
        · show i + 1 + n ≤ s.masterArray.length
          omega
        · show s.masterListCount - 1 = 0 → _
          omega
        · show s.masterListCount - 1 = n ∧ (∀ e ∈ (s.masterArray.drop (i + 1)).take n,
            s.elHandle e ≠ 0 ∧ lastRef e = true) ↔ _
          simp only [hgood, ne_eq, not_false_eq_true, and_self, true_and]
          exact and_congr_left fun _ => by omega
    · have hfinal : (decElementsOf lastRef i (n + 1)).final s =
          (decElementsOf lastRef (i + 1) n).final s := by
        rcases not_and_or.mp hgood with hnull | hshared
        · simp [decElementsOf, hget, not_not.mp hnull]
        · simp [decElementsOf, hget, Bool.not_eq_true _ ▸ hshared]
      rw [hfinal, ih (i + 1) s (by omega) (by omega) hnone]
      refine iff_of_false (fun h => ?_) fun h => hgood h.2.1
      omega

/-- **What the clean-up of a pool leaves.** -/
theorem cleanupOvlPool_clean_iff (lastRef : ℕ → Bool)
    (hlength : s.masterListCount ≤ s.masterArray.length)
    (hnone : s.masterListCount = 0 → s.acquiredList = [] ∧ s.releasedList = []) :
    Clean ((cleanupOvlPool lastRef).final s) ↔
      0 ≤ s.masterListCount ∧
        ∀ e ∈ s.masterArray.take s.masterListCount.toNat,
          s.elHandle e ≠ 0 ∧ lastRef e = true := by
  -- what is done before the loop does not concern the elements
  obtain ⟨t, ht, hfinal⟩ : ∃ t : OvlPoolKSlot, (∀ f, t (.own f) = s (.own f)) ∧
      (cleanupOvlPool lastRef).final s =
        (decElementsOf lastRef 0 s.masterListCount.toNat).final t := by
    simp [cleanupOvlPool]
    exact ⟨_, fun f => by simp, rfl⟩
  rw [hfinal]
  have hcount : t.masterListCount = s.masterListCount := ht _
  have harray : t.masterArray = s.masterArray := ht _
  have hhandle : ∀ e, t.elHandle e = s.elHandle e := fun e => ht _
  by_cases hneg : s.masterListCount < 0
  · rw [Int.toNat_of_nonpos (by omega)]
    refine iff_of_false (fun h => ?_) (by omega)
    have hzero : t.masterListCount = 0 := h.masterListCount
    omega
  · rw [decElementsOf_clean_iff lastRef _ 0 t (by omega) (by rw [harray]; omega)
      (by rw [hcount]; exact fun h => ⟨(ht _).trans (hnone h).1, (ht _).trans (hnone h).2⟩)]
    rw [hcount, harray, List.drop_zero]
    simp only [hhandle]
    exact and_congr_left fun _ => by omega

/-! ### Uses -/

/-- The elements in the lists. -/
def listed (s : OvlPoolKSlot) : List ℕ := s.acquiredList ++ s.releasedList

theorem appendAcquired_final (e : ℕ) :
    (appendAcquired e).final s =
      Function.update s (.own .acquiredList) (s.acquiredList ++ [e]) := by
  simp [appendAcquired]

/-- **What a use does with the elements**: it moves them between the lists. -/
theorem use_frame {u : OvlPoolKUse} (hu : u ≠ .cleanupOvlK) :
    masterListCount (u.code.final s) = s.masterListCount ∧
      masterArray (u.code.final s) = s.masterArray ∧
      listed (u.code.final s) ⊆ s.listed := by
  cases u with
  | base u => simp [OvlPoolKUse.code, listed]
  | acquire handle =>
    cases hreleased : s.releasedList with
    | nil => simp [OvlPoolKUse.code, hreleased]
    | cons e rest =>
      simp only [listed, hreleased]
      simp [OvlPoolKUse.code, hreleased, appendAcquired_final]
      split
      · split <;> simp
      · simp
  | release e =>
    by_cases he : e ∈ s.acquiredList
    · have hfinal : listed ((OvlPoolKUse.release e).code.final s) =
          s.acquiredList.erase e ++ e :: s.releasedList := by
        simp [OvlPoolKUse.code, listed, he]
      rw [hfinal]
      refine ⟨by simp [OvlPoolKUse.code, he], by simp [OvlPoolKUse.code, he], fun e' he' => ?_⟩
      rcases List.mem_append.mp he' with h | h
      · exact List.mem_append_left _ (List.mem_of_mem_erase h)
      · rcases List.mem_cons.mp h with rfl | h
        · exact List.mem_append_left _ he
        · exact List.mem_append_right _ h
    · simp [OvlPoolKUse.code, he]
  | waitOldest timeoutMS =>
    cases hacquired : s.acquiredList with
    | nil => simp [OvlPoolKUse.code, hacquired]
    | cons e rest => simp [OvlPoolKUse.code, hacquired]
  | wait => simp [OvlPoolKUse.code]
  | cleanupOvlK => exact absurd rfl hu

/-! ### Exposed reads -/

/-- The field is not the handle of an element that is not among `els`. -/
def Harmless (els : List ℕ) : OvlPoolKField → Prop
  | .elHandle e => e ∈ els
  | _ => True

/-- All elements are among `els`. -/
structure Within (els : List ℕ) (s : OvlPoolKSlot) : Prop where
  masterArray : s.masterArray ⊆ els
  listed : s.listed ⊆ els

variable {els : List ℕ}

theorem Within.cleanupOvlKInPool (hs : s.Within els) :
    Within els (cleanupOvlKInPool.final s) := by
  by_cases h : s.masterListCount = 1
  · constructor <;> simp [LibusbK.cleanupOvlKInPool, h, OvlPoolKSlot.listed]
  · rw [cleanupOvlKInPool_final h]
    exact ⟨hs.masterArray, hs.listed⟩

theorem Within.use (hs : s.Within els) (u : OvlPoolKUse) : Within els (u.code.final s) := by
  by_cases hu : u = .cleanupOvlK
  · subst hu
    exact hs.cleanupOvlKInPool
  · obtain ⟨-, harray, hlisted⟩ := use_frame (s := s) hu
    exact ⟨by rw [harray]; exact hs.masterArray, List.Subset.trans hlisted hs.listed⟩

theorem harmless_of_cleanupOvlKInPool {f : OvlPoolKField}
    (h : cleanupOvlKInPool.Exposes s (.own f)) : Harmless els f := by
  cases f with
  | elHandle e => simp [LibusbK.cleanupOvlKInPool] at h
  | _ => trivial

theorem Within.exposes_decElementsOf (lastRef : ℕ → Bool) (n : ℕ) :
    ∀ {i : ℕ} {s : OvlPoolKSlot} {f : OvlPoolKField}, s.Within els →
      (decElementsOf lastRef i n).Exposes s (.own f) → Harmless els f := by
  induction n with
  | zero => exact fun _ h => h.elim
  | succ n ih =>
    intro i s f hs h
    cases hget : s.masterArray[i]? with
    | none =>
      simp [decElementsOf, hget] at h
      rw [h]
      trivial
    | some e =>
      have he : e ∈ els := hs.masterArray (List.mem_of_getElem? hget)
      simp [decElementsOf, hget] at h
      rcases h with rfl | rfl | h
      · trivial
      · exact he
      · split at h
        · exact ih hs h
        · split at h
          · rcases h with h | ⟨-, h⟩
            · exact harmless_of_cleanupOvlKInPool h
            · exact ih hs.cleanupOvlKInPool h
          · exact ih hs h

/-- A use exposes nothing but what concerns the elements. -/
theorem Within.exposes_use (hs : s.Within els) {u : OvlPoolKUse} {f : OvlPoolKField}
    (h : u.code.Exposes s (.own f)) : Harmless els f := by
  cases u with
  | base u => exact absurd h (useBase_exposes_own u f)
  | acquire handle =>
    cases hreleased : s.releasedList with
    | nil =>
      simp [OvlPoolKUse.code, hreleased] at h
      rw [h]
      trivial
    | cons e rest =>
      have he : e ∈ els := hs.listed (by simp [OvlPoolKSlot.listed, hreleased])
      cases f with
      | elHandle e' =>
        simp [OvlPoolKUse.code, hreleased, appendAcquired] at h
        rw [h]
        exact he
      | _ => trivial
  | release e =>
    cases f with
    | elHandle e' => simp [OvlPoolKUse.code] at h
    | _ => trivial
  | waitOldest timeoutMS =>
    cases hacquired : s.acquiredList with
    | nil =>
      simp [OvlPoolKUse.code, hacquired] at h
      rw [h]
      trivial
    | cons e rest =>
      have he : e ∈ els := hs.listed (by simp [OvlPoolKSlot.listed, hacquired])
      simp [OvlPoolKUse.code, hacquired] at h
      rcases h with rfl | rfl
      · trivial
      · exact he
  | wait =>
    simp [OvlPoolKUse.code] at h
    rw [h]
    trivial
  | cleanupOvlK => exact harmless_of_cleanupOvlKInPool h

theorem Within.congr (h : ∀ f, t (.own f) = s (.own f)) (hs : s.Within els) : t.Within els where
  masterArray := by rw [OvlPoolKSlot.masterArray, h]; exact hs.masterArray
  listed := by
    rw [OvlPoolKSlot.listed, OvlPoolKSlot.acquiredList, OvlPoolKSlot.releasedList, h, h]
    exact hs.listed

theorem Within.exposes_cleanupOvlPool (hs : s.Within els) {lastRef : ℕ → Bool}
    {f : OvlPoolKField} (h : (cleanupOvlPool lastRef).Exposes s (.own f)) : Harmless els f := by
  simp [cleanupOvlPool] at h
  rcases h with rfl | rfl | h
  · trivial
  · trivial
  · exact exposes_decElementsOf _ _ (hs.congr fun f => poolHandleDead_final_own f) h

theorem exposes_cleanupOvlPool_of_none (hs : s.masterListCount = 0) {lastRef : ℕ → Bool}
    {f : OvlPoolKField} (h : (cleanupOvlPool lastRef).Exposes s (.own f)) :
    f = .usbHandle ∨ f = .masterListCount := by
  simp [cleanupOvlPool, hs, decElementsOf] at h
  exact h

/-! ### The creation of a pool -/

@[simp] theorem zeroElements_exposes (els : List ℕ) (f : OvlPoolKField) :
    ¬(zeroElements els).Exposes s (.own f) := by
  induction els generalizing s with
  | nil => exact id
  | cons e es ih => simp [zeroElements, ih]

@[simp] theorem zeroElements_assigns (els : List ℕ) (f : OvlPoolKField) :
    (zeroElements els).Assigns s (.own f) ↔ ∃ e ∈ els, f = .elHandle e := by
  induction els generalizing s with
  | nil => simp [zeroElements]
  | cons e es ih => simp [zeroElements, ih]

theorem appendElements_final (els : List ℕ) :
    (appendElements els).final s =
      Function.update s (.own .releasedList) (s.releasedList ++ els) := by
  induction els generalizing s with
  | nil => simp [appendElements]
  | cons e es ih => simp [appendElements, ih]

theorem appendElements_exposes {els : List ℕ} {f : OvlPoolKField}
    (h : (appendElements els).Exposes s (.own f)) : f = .releasedList := by
  induction els generalizing s with
  | nil => exact h.elim
  | cons e es ih =>
    simp [appendElements] at h
    rcases h with h | ⟨-, h⟩
    · exact h
    · exact ih h

variable {a : OvlPoolKInit}

/-- The slot is reset, and written by `OvlK_Init`. -/
def preparePool (a : OvlPoolKInit) : SlotCode OvlPoolKVal Bool := do
  initHandleOvlPoolK
  ovlPoolKInit a

theorem preparePool_exposes {f : OvlPoolKField} (h : (preparePool a).Exposes s (.own f)) :
    f = .releasedList := by
  cases hinc : a.incUsbK with
  | false => simp [preparePool, initHandleOvlPoolK, ovlPoolKInit, hinc] at h
  | true =>
    cases hels : a.elements with
    | none => simp [preparePool, initHandleOvlPoolK, ovlPoolKInit, hinc, hels] at h
    | some els =>
      simp [preparePool, initHandleOvlPoolK, ovlPoolKInit, hinc, hels] at h
      obtain ⟨-, -, -, -, -, -, -, h⟩ := h
      exact appendElements_exposes h

theorem preparePool_result :
    (preparePool a).result s = (a.incUsbK && a.elements.isSome) := by
  cases hinc : a.incUsbK with
  | false => simp [preparePool, initHandleOvlPoolK, ovlPoolKInit, hinc]
  | true =>
    cases hels : a.elements <;>
      simp [preparePool, initHandleOvlPoolK, ovlPoolKInit, hinc, hels]

/-- Where a pool cannot be created, the elements are as they were. -/
theorem preparePool_fails (h : (preparePool a).result s = false) :
    masterListCount ((preparePool a).final s) = s.masterListCount ∧
      acquiredList ((preparePool a).final s) = s.acquiredList ∧
      releasedList ((preparePool a).final s) = s.releasedList ∧
      (preparePool a).Assigns s (.own .usbHandle) := by
  rw [preparePool_result] at h
  cases hinc : a.incUsbK with
  | false => simp [preparePool, initHandleOvlPoolK, ovlPoolKInit, hinc]
  | true =>
    cases hels : a.elements with
    | none => simp [preparePool, initHandleOvlPoolK, ovlPoolKInit, hinc, hels]
    | some els => simp [hinc, hels] at h

/-- Where it is created, the new elements are appended to `ReleasedList`. -/
theorem preparePool_succeeds (h : (preparePool a).result s = true) :
    ∃ els, a.elements = some els ∧
      masterListCount ((preparePool a).final s) = a.maxOverlappedCount ∧
      masterArray ((preparePool a).final s) = els ∧
      acquiredList ((preparePool a).final s) = s.acquiredList ∧
      releasedList ((preparePool a).final s) = s.releasedList ++ els ∧
      ∀ f, Harmless els f → f = .acquiredList ∨ f = .releasedList ∨
        (preparePool a).Assigns s (.own f) := by
  rw [preparePool_result, Bool.and_eq_true, Option.isSome_iff_exists] at h
  obtain ⟨hinc, els, hels⟩ := h
  have hzero : ∀ (t : OvlPoolKSlot) f, (∀ e, f ≠ .elHandle e) →
      (zeroElements els).final t (.own f) = t (.own f) := by
    intro t f hf
    refine Access.final_of_not_assigns fun h => ?_
    obtain ⟨e, -, rfl⟩ := (zeroElements_assigns els f).mp h
    exact hf e rfl
  refine ⟨els, hels, ?_, ?_, ?_, ?_, fun f hf => ?_⟩
  · simp [preparePool, initHandleOvlPoolK, ovlPoolKInit, hinc, hels, appendElements_final]
  · simp [preparePool, initHandleOvlPoolK, ovlPoolKInit, hinc, hels, appendElements_final]
  · simp [preparePool, initHandleOvlPoolK, ovlPoolKInit, hinc, hels, appendElements_final, hzero]
  · simp [preparePool, initHandleOvlPoolK, ovlPoolKInit, hinc, hels, appendElements_final, hzero]
  · cases f with
    | acquiredList => exact .inl rfl
    | releasedList => exact .inr (.inl rfl)
    | elHandle e =>
      refine .inr (.inr ?_)
      simp [preparePool, initHandleOvlPoolK, ovlPoolKInit, hinc, hels]
      exact .inl hf
    | _ =>
      refine .inr (.inr ?_)
      simp [preparePool, initHandleOvlPoolK, ovlPoolKInit, hinc, hels]

/-! ### Clean slots -/

/-- A life of a clean slot exposes nothing but the number of elements and the lists. -/
theorem Clean.exposes_life (hs : s.Clean) {l : Life ovlPoolKCode} {f : SlotField OvlPoolKField}
    (h : (life l).Exposes s f) :
    f = .own .masterListCount ∨ f = .own .acquiredList ∨ f = .own .releasedList := by
  have hacquired : ∀ f, (l.acquired s) (.own f) = s (.own f) := Creation.acquired_own _ _
  rcases SectionCode.exposes_life h with h | ⟨hresult, hassigns, h⟩
  · cases f with
    | base b => exact absurd h (create_not_exposes_base b)
    | own f =>
      rcases exposes_create_iff.mp h with h | ⟨hassigns, hfails, h⟩
      · exact .inr (.inr (congrArg _ (preparePool_exposes h)))
      · obtain ⟨hcount, -, -, husb⟩ := preparePool_fails hfails
        have hzero : OvlPoolKSlot.masterListCount (l.failed s) = 0 :=
          (l.failed_own s _).trans (hcount.trans ((hacquired _).trans hs.masterListCount))
        rcases exposes_cleanupOvlPool_of_none hzero h with rfl | rfl
        · exact absurd husb hassigns
        · exact .inl rfl
  · have hprepare : (preparePool l.init).result (l.acquired s) = true :=
      create_result.symm.trans hresult
    have hfinal := create_final (P := ovlPoolKCode) hprepare
    obtain ⟨els, -, hcount, harray, hacq, hrel, hwrites⟩ := preparePool_succeeds hprepare
    have hwithin : Within els ((create l.toCreation).final s) := by
      rw [hfinal]
      refine ⟨harray ▸ List.Subset.refl _, ?_⟩
      have hlisted : listed ((preparePool l.init).final (l.acquired s)) = els := by
        rw [listed, hacq, hrel]
        show s.acquiredList ++ (s.releasedList ++ els) = els
        rw [hs.acquiredList, hs.releasedList]
        rfl
      exact hlisted ▸ List.Subset.refl _
    have hharmless : ∀ g, f = .own g → Harmless els g := by
      rintro g rfl
      rcases h with h | h
      · refine exposes_runUses (P := ovlPoolKCode) (I := Within els)
          (Q := fun f => ∀ g, f = .own g → Harmless els g) (fun u s hs => hs.use u) ?_ hwithin _ h
          g rfl
        rintro u s _ hs h g rfl
        exact hs.exposes_use h
      · have huses : Within els ((runUses l.uses).final ((create l.toCreation).final s)) :=
          final_runUses (P := ovlPoolKCode) (I := Within els) (fun u s hs => hs.use u) hwithin
        exact (huses.congr fun f => disposing_own l.thread f).exposes_cleanupOvlPool
          ((poolHandleDec_exposes_own ..).mp h)
    cases f with
    | base b => exact absurd (create_assigns_base b) hassigns
    | own f =>
      rcases hwrites f (hharmless f rfl) with rfl | rfl | h
      · exact .inr (.inl rfl)
      · exact .inr (.inr rfl)
      · exact absurd (assigns_create (P := ovlPoolKCode) h) hassigns

theorem Clean.behavesSame (hs : s.Clean) (l : Life ovlPoolKCode) :
    ovlPoolKCode.BehavesSame s ovlPoolKCode.zeroSlot l := by
  refine behavesSame_iff.mpr fun f hf => ?_
  rcases hs.exposes_life hf with rfl | rfl | rfl
  · exact hs.masterListCount
  · exact hs.acquiredList
  · exact hs.releasedList

/-- A pool that fails to take a reference to the USB handle. -/
def failing : OvlPoolKInit := ⟨0, 0, 0, false, none⟩

/-- A pool of `n` elements. -/
def succeeding (n : ℤ) : OvlPoolKInit := ⟨1, n, 0, true, some 0⟩

/-- A slot in which every life is as in a slot of zeros has no elements. -/
theorem Clean.of_behavesSame (h : ∀ l, ovlPoolKCode.BehavesSame s ovlPoolKCode.zeroSlot l) :
    s.Clean := by
  have hreads : ∀ (c : SectionCode.Creation ovlPoolKCode) f, (create c).Exposes s (.own f) →
      s (.own f) = ovlPoolKCode.zeroSlot (.own f) := fun c f hf =>
    (h { c with uses := [] }).reads (.own f) (exposes_life_of_create hf)
  -- a creation that fails reads the count, one that succeeds appends to the lists
  have hcount : ∀ t : OvlPoolKSlot,
      ¬(preparePool failing).Assigns t (.own .masterListCount) ∧
        (cleanupOvlPool fun _ => true).Exposes t (.own .masterListCount) := by
    simp [preparePool, initHandleOvlPoolK, ovlPoolKInit, failing, cleanupOvlPool]
  have hacquired : ∀ t : OvlPoolKSlot,
      ¬(preparePool (succeeding 0)).Assigns t (.own .acquiredList) ∧
        (OvlPoolKUse.release 0).code.Exposes t (.own .acquiredList) := by
    simp [preparePool, initHandleOvlPoolK, ovlPoolKInit, succeeding, OvlPoolKInit.elements,
      zeroElements, appendElements, OvlPoolKUse.code]
  have hreleased : ∀ t : OvlPoolKSlot,
      (preparePool (succeeding 1)).Exposes t (.own .releasedList) := by
    simp [preparePool, initHandleOvlPoolK, ovlPoolKInit, succeeding, OvlPoolKInit.elements,
      zeroElements, appendElements]
  constructor
  · exact hreads { init := failing, free := fun _ => true } .masterListCount
      (exposes_create_iff.mpr (.inr ⟨(hcount _).1, preparePool_result, (hcount _).2⟩))
  · exact (h _).reads (.own .acquiredList) (exposes_life_of_use (P := ovlPoolKCode)
      (c := { init := succeeding 0, free := fun _ => true }) (u := OvlPoolKUse.release 0)
      preparePool_result
      (hacquired _).1 (hacquired _).2)
  · exact hreads { init := succeeding 1, free := fun _ => true } .releasedList
      (exposes_create_iff.mpr (.inl (hreleased _)))

/-- **A slot has forgotten its past exactly if it is clean.** -/
theorem pastForgotten_iff {s : SlotState ovlPoolKCode} (hfree : s.live = false) :
    PastForgotten s ↔ OvlPoolKSlot.Clean s.slot :=
  ⟨fun h => .of_behavesSame (h hfree), fun h _ l => h.behavesSame l⟩

/-! ### Histories -/

/-- The step leaves no elements behind.  A pool is freed when each of its elements has been
handed out, so that it has a handle, and nothing else refers to the handle; and no handle
is cleaned up when the pool is gone. -/
def leavesClean (s : SlotState ovlPoolKCode) : SlotEvent ovlPoolKCode → Prop
  | .create _ => True
  | .use u => s.live = true ∨ u ≠ OvlPoolKUse.cleanupOvlK
  | .free _ lastRef =>
    0 ≤ OvlPoolKSlot.masterListCount s.slot ∧
      ∀ e ∈ (OvlPoolKSlot.masterArray s.slot).take (OvlPoolKSlot.masterListCount s.slot).toNat,
        OvlPoolKSlot.elHandle s.slot e ≠ 0 ∧ lastRef e = true

/-- A live pool counts elements of its array, and one without elements has empty lists. -/
structure Live (s : OvlPoolKSlot) : Prop where
  length : s.masterListCount ≤ s.masterArray.length
  listed : s.masterListCount = 0 → s.listed = []

/-- A slot between two steps. -/
def Inv (s : SlotState ovlPoolKCode) : Prop :=
  if s.live then Live s.slot else Clean s.slot

theorem Live.use (hs : s.Live) (u : OvlPoolKUse) : Live (u.code.final s) := by
  by_cases hu : u = .cleanupOvlK
  · subst hu
    by_cases hlast : s.masterListCount = 1
    · have hclean := cleanupOvlKInPool_clean hlast
      refine ⟨?_, fun _ => ?_⟩
      · show OvlPoolKSlot.masterListCount (cleanupOvlKInPool.final s) ≤ _
        rw [hclean.masterListCount]
        exact Int.natCast_nonneg _
      · show OvlPoolKSlot.listed (cleanupOvlKInPool.final s) = []
        rw [OvlPoolKSlot.listed, hclean.acquiredList, hclean.releasedList]
        rfl
    · show Live (cleanupOvlKInPool.final s)
      rw [cleanupOvlKInPool_final hlast]
      refine ⟨?_, fun h => ?_⟩
      · show s.masterListCount - 1 ≤ s.masterArray.length
        have := hs.length
        omega
      · replace h : s.masterListCount - 1 = 0 := h
        omega
  · obtain ⟨hcount, harray, hlisted⟩ := use_frame (s := s) hu
    refine ⟨by rw [hcount, harray]; exact hs.length, fun h => ?_⟩
    rw [hcount] at h
    rw [hs.listed h] at hlisted
    exact List.subset_nil.mp hlisted

theorem Clean.use (hs : s.Clean) {u : OvlPoolKUse} (hu : u ≠ .cleanupOvlK) :
    Clean (u.code.final s) := by
  obtain ⟨hcount, -, hlisted⟩ := use_frame (s := s) hu
  have hnil : s.listed = [] := by rw [listed, hs.acquiredList, hs.releasedList]; rfl
  rw [hnil] at hlisted
  have hnone := List.append_eq_nil_iff.mp (List.subset_nil.mp hlisted)
  exact ⟨hcount.trans hs.masterListCount, hnone.1, hnone.2⟩

theorem OvlPoolKInit.length_elements {a : OvlPoolKInit} {els : List ℕ}
    (h : a.elements = some els) : (els.length : ℤ) = a.maxOverlappedCount := by
  unfold OvlPoolKInit.elements at h
  split at h
  · cases h
  · obtain ⟨first, -, rfl⟩ := Option.map_eq_some_iff.mp h
    simp
    omega

/-- A handle that is cleaned up late counts an element that is not there. -/
theorem Clean.not_clean_cleanupOvlKInPool (hs : s.Clean) :
    ¬Clean (cleanupOvlKInPool.final s) := by
  have hzero := hs.masterListCount
  intro h
  rw [cleanupOvlKInPool_final (by omega)] at h
  have hcount : s.masterListCount - 1 = 0 := h.masterListCount
  omega

theorem Live.congr (h : ∀ f, t (.own f) = s (.own f)) (hs : s.Live) : t.Live := by
  have hcount : t.masterListCount = s.masterListCount := h _
  have harray : t.masterArray = s.masterArray := h _
  have hlisted : t.listed = s.listed := congrArg₂ _ (h _) (h _)
  exact ⟨by rw [hcount, harray]; exact hs.length, by rw [hcount, hlisted]; exact hs.listed⟩

/-- A live pool is cleaned up. -/
theorem Live.cleanup_clean_iff (hs : s.Live) (lastRef : ℕ → Bool) :
    Clean ((cleanupOvlPool lastRef).final s) ↔
      0 ≤ s.masterListCount ∧
        ∀ e ∈ s.masterArray.take s.masterListCount.toNat,
          s.elHandle e ≠ 0 ∧ lastRef e = true :=
  cleanupOvlPool_clean_iff lastRef hs.length fun h => List.append_eq_nil_iff.mp (hs.listed h)

/-- A pool is created in a clean slot. -/
theorem Clean.creates (hs : s.Clean) (ha : (preparePool a).result s = true) :
    Live ((preparePool a).final s) := by
  obtain ⟨els, hels, hcount, harray, hacq, hrel, -⟩ := preparePool_succeeds ha
  have hlength := OvlPoolKInit.length_elements hels
  refine ⟨?_, fun h => ?_⟩
  · rw [hcount, harray]
    omega
  · rw [hcount] at h
    have hnil : els = [] := List.length_eq_zero_iff.mp (by omega)
    rw [listed, hacq, hrel, hs.acquiredList, hs.releasedList, hnil]
    rfl

/-- The clean-up of a clean slot. -/
theorem Clean.cleanup (hs : s.Clean) (lastRef : ℕ → Bool) :
    Clean ((cleanupOvlPool lastRef).final s) := by
  refine (cleanupOvlPool_clean_iff lastRef ?_ fun _ => ⟨hs.acquiredList, hs.releasedList⟩).mpr ?_
  · rw [hs.masterListCount]
    exact Int.natCast_nonneg _
  · rw [hs.masterListCount]
    exact ⟨Int.le_refl _, fun e he => by simp at he⟩

/-- A pool cannot be created in a clean slot. -/
theorem Clean.fails (hs : s.Clean) (ha : (preparePool a).result s = false) :
    Clean ((preparePool a).final s) := by
  obtain ⟨hcount, hacq, hrel, -⟩ := preparePool_fails ha
  exact ⟨hcount.trans hs.masterListCount, hacq.trans hs.acquiredList,
    hrel.trans hs.releasedList⟩

theorem Inv.step {s t : SlotState ovlPoolKCode} {e : SlotEvent ovlPoolKCode} (hs : Inv s)
    (hok : leavesClean s e) (h : (slotLives ovlPoolKCode).step s e = some t) : Inv t := by
  obtain ⟨live, s⟩ := s
  cases Step.of_step h with
  | creates c hfree hresult =>
    obtain rfl : live = false := hfree
    have hclean : Clean s := hs
    exact ((Clean.congr (c.acquired_own s)).mpr hclean).creates hresult
  | fails c hfree hresult t ht =>
    obtain rfl : live = false := hfree
    have hclean : Clean s := hs
    refine (Clean.congr ht).mpr (Clean.cleanup ?_ c.free)
    exact (Clean.congr (c.failed_own s)).mpr
      (((Clean.congr (c.acquired_own s)).mpr hclean).fails hresult)
  | use u =>
    cases live with
    | false =>
      have hclean : Clean s := hs
      exact hclean.use (hok.resolve_left Bool.false_ne_true)
    | true =>
      have hlive : Live s := hs
      exact hlive.use u
  | frees thread x hlive t ht =>
    obtain rfl : live = true := hlive
    have hlive : Live s := hs
    refine (Clean.congr ht).mpr (((hlive.congr fun f => disposing_own thread f).cleanup_clean_iff
      x).mpr ?_)
    exact hok

/-- A step that is not as it should be leaves a slot that remembers. -/
theorem leavesClean_of_pastForgotten {s t : SlotState ovlPoolKCode}
    {e : SlotEvent ovlPoolKCode} (hs : Inv s)
    (h : (slotLives ovlPoolKCode).step s e = some t) (ht : PastForgotten t) :
    leavesClean s e := by
  obtain ⟨live, s⟩ := s
  cases Step.of_step h with
  | creates c hfree hresult => trivial
  | fails c hfree hresult t ht => trivial
  | use u =>
    cases live with
    | true => exact .inl rfl
    | false =>
      have hclean : Clean s := hs
      refine .inr fun hu => ?_
      subst hu
      exact hclean.not_clean_cleanupOvlKInPool ((pastForgotten_iff rfl).mp ht)
  | frees thread x hlive t heq =>
    obtain rfl : live = true := hlive
    have hlive : Live s := hs
    have hclean : Clean t := (pastForgotten_iff rfl).mp ht
    exact ((hlive.congr fun f => disposing_own thread f).cleanup_clean_iff x).mp
      ((Clean.congr heq).mp hclean)

theorem pastForgotten_iff_throughout (h : List (SlotEvent ovlPoolKCode)) :
    (slotLives ovlPoolKCode).Always PastForgotten (fresh ovlPoolKCode) h ↔
      (slotLives ovlPoolKCode).Throughout leavesClean (fresh ovlPoolKCode) h := by
  refine Machine.always_iff_throughout (I := Inv) (fun s hs => ?_) (fun _ _ _ => Inv.step)
    (fun _ _ _ => leavesClean_of_pastForgotten) ?_
  · intro hfree l
    obtain ⟨live, s⟩ := s
    obtain rfl : live = false := hfree
    have hclean : Clean s := hs
    exact hclean.behavesSame l
  · exact (⟨rfl, rfl, rfl⟩ : Clean ovlPoolKCode.zeroSlot)

end OvlPoolKSlot

end LibusbK
