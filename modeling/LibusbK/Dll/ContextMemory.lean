import LibusbK.Dll.LibContext
import Mathlib.Data.List.Infix

/-!
# The context that is filled in or taken down

What one call of `LibK_Context_Init` or `LibK_Context_Free` does to the context while it has the
lock, assignment by assignment.

## Main definitions

* `ContextMemory.Settled` — there is no context, or a complete one.
* `ContextMemory.Filling`, `ContextMemory.Freeing` — what is still to be done to it.
* `ContextMemory.Fits` — what the memory is like while a call is at some point.

## Main results

* `ContextMemory.Filling.assign`, `ContextMemory.Freeing.release` — what a step does.
* `ContextMemory.Fits.isReady_iff` — the context is complete unless the call is midway.
-/

namespace LibusbK

/-! ### What the memory is like -/

/-- How often the context has loaded a library. -/
def AllKContext.loads (c : AllKContext) (d : ContextDll) : ℤ := if c.dlls d then 1 else 0

/-- A context with the assignments `rest` still to be made. -/
structure AllKContext.Built (rest : List ContextAssignment) (c : AllKContext) : Prop where
  heapProcess : .heapProcess ∉ rest → c.heapProcess.isSome = true
  heapDynamic : .heapDefault ∉ rest → c.heapDynamic.isSome = true
  dlls : ∀ d, .dll d ∈ rest → c.dlls d = false
  index : ∀ sec, c.index sec = if .index sec ∈ rest then 0 else -1

/-- A context with the releases `rest` still to be made; `heap` is the variable of the call. -/
structure AllKContext.TakenDown (heap : Option ℕ) (rest : List ContextRelease) (c : AllKContext) :
    Prop where
  ready : c.isReady = decide (.clearHeapDynamic ∈ rest)
  heapProcess : .clearHeapProcess ∈ rest → c.heapProcess.isSome = true
  heap : .clearHeapProcess ∉ rest → heap.isSome = true

namespace ContextMemory

/-- There is no context, and nothing is loaded. -/
structure IsEmpty (m : ContextMemory) : Prop where
  contexts : ∀ h, m.contexts.get h = none
  loads : ∀ d, m.loads d = 0

/-- `AllK` points to the only context there is. -/
structure Has (m : ContextMemory) (c : AllKContext) : Prop where
  context : m.context = some c
  only : ∀ h x, m.contexts.get h = some x → m.allK = some h

/-- There is no context, or a complete one. -/
def Settled (m : ContextMemory) : Prop :=
  (m.allK = none ∧ m.IsEmpty) ∨
    ∃ c, m.Has c ∧ c.isReady = true ∧ c.heapProcess.isSome = true ∧ ∀ d, m.loads d = c.loads d

/-- A call of `LibK_Context_Init` is filling in the context. -/
def Filling (m : ContextMemory) (rest : List ContextAssignment) : Prop :=
  rest <:+ initAssignments ∧ ∃ c, m.Has c ∧ c.Built rest ∧ ∀ d, m.loads d = c.loads d

/-- A call of `LibK_Context_Free` is at work. -/
def Freeing (m : ContextMemory) (heap : Option ℕ) (rest : List ContextRelease) : Prop :=
  rest <:+ freeReleases ∧
    if .heapFree ∈ rest then
      ∃ c, m.Has c ∧ c.TakenDown heap rest ∧
        ∀ d, m.loads d = if .freeDll d ∈ rest then c.loads d else 0
    else m.IsEmpty ∧ (m.allK.isSome = true ↔ .clearAllK ∈ rest)

/-- What the memory is like while the thread inside is at this point, or nobody is. -/
def Fits (m : ContextMemory) : Option ContextPc → Prop
  | some (.initAlloc ..) => m.allK = none ∧ m.IsEmpty
  | some (.initAssign _ rest _) => m.Filling rest
  | some (.freeing heap rest) => m.Freeing heap rest
  | _ => m.Settled

variable {m : ContextMemory} {c : AllKContext}

theorem Has.exists_allK (h : m.Has c) : ∃ b, m.allK = some b ∧ m.contexts.get b = some c :=
  Option.bind_eq_some_iff.mp h.context

theorem Has.allK_isSome (h : m.Has c) : m.allK.isSome = true := by
  obtain ⟨b, hb, -⟩ := h.exists_allK
  rw [hb]
  rfl

theorem IsEmpty.context_eq_none (h : m.IsEmpty) : m.context = none := by
  unfold context
  cases m.allK with
  | none => rfl
  | some b => exact h.contexts b

theorem Has.modify_eq (h : m.Has c) (f : AllKContext → AllKContext) :
    ∃ b, m.allK = some b ∧ m.contexts.get b = some c ∧
      m.modify f = { m with contexts := m.contexts.modify b f } := by
  obtain ⟨b, hb, hget⟩ := h.exists_allK
  refine ⟨b, hb, hget, ?_⟩
  unfold modify
  rw [hb, h.context]

/-- A write to the context, and nothing else. -/
theorem Has.modify (h : m.Has c) (f : AllKContext → AllKContext) : (m.modify f).Has (f c) := by
  obtain ⟨b, hb, hget, heq⟩ := h.modify_eq f
  rw [heq]
  constructor
  · show m.allK.bind (m.contexts.modify b f).get = _
    rw [hb, Option.bind_some, Objects.get_modify_self, hget]
    rfl
  · intro k x hx
    by_cases hk : k = b
    · rw [hk]
      exact hb
    · refine h.only k x ?_
      rwa [Objects.get_modify_of_ne _ _ hk] at hx

theorem Has.loads_modify (h : m.Has c) (f : AllKContext → AllKContext) :
    (m.modify f).loads = m.loads := by
  obtain ⟨b, -, -, heq⟩ := h.modify_eq f
  rw [heq]

theorem Has.wildAccess_modify (h : m.Has c) (f : AllKContext → AllKContext) :
    (m.modify f).wildAccess = m.wildAccess := by
  obtain ⟨b, -, -, heq⟩ := h.modify_eq f
  rw [heq]

theorem Has.addLoads (h : m.Has c) (d : ContextDll) (n : ℤ) : (m.addLoads d n).Has c :=
  ⟨h.context, h.only⟩

/-- The new context is the only one. -/
theorem IsEmpty.has_alloc (h : m.IsEmpty) : m.alloc.Has {} := by
  constructor
  · exact Objects.get_create_self m.contexts {}
  · intro k x hx
    by_cases hk : k = m.contexts.next
    · rw [hk]
      rfl
    · rw [show m.alloc.contexts.get k = m.contexts.get k from Objects.get_create_of_ne _ _ hk,
        h.contexts k] at hx
      cases hx

/-- A context that is freed was the only one. -/
theorem Has.contexts_delete (h : m.Has c) {b : ℕ} (hb : m.allK = some b) (k : ℕ) :
    (m.contexts.delete b).get k = none := by
  by_cases hk : k = b
  · rw [hk]
    exact Objects.get_delete_self _ _
  · rw [Objects.get_delete_of_ne _ hk]
    cases hx : m.contexts.get k with
    | none => rfl
    | some x => exact absurd (Option.some.inj ((h.only k x hx).symm.trans hb)) hk

end ContextMemory

/-! ### The assignments of `LibK_Context_Init` -/

section Filling

variable {heap : Option ℕ} {answer : Bool} {c : AllKContext} {a : ContextAssignment}
  {rest : List ContextAssignment}

theorem not_mem_rest (h : a :: rest <:+ initAssignments) : a ∉ rest := by
  have hall : initAssignments.Nodup := by decide
  exact (List.nodup_cons.mp (hall.sublist h.sublist)).1

/-- The heap of the process is stored before it is taken for the other. -/
theorem heapProcess_not_mem (h : .heapDefault :: rest <:+ initAssignments) :
    ContextAssignment.heapProcess ∉ .heapDefault :: rest := by
  have hall : ∀ l ∈ initAssignments.tails, l.head? = some .heapDefault →
      ContextAssignment.heapProcess ∉ l := by decide
  exact hall _ ((List.mem_tails _ _).mpr h) rfl

theorem heapDefault_mem (h : .heapDynamic :: rest <:+ initAssignments) :
    ContextAssignment.heapDefault ∈ rest := by
  have hall : ∀ l ∈ initAssignments.tails, l.head? = some .heapDynamic →
      ContextAssignment.heapDefault ∈ l.tail := by decide
  exact hall _ ((List.mem_tails _ _).mpr h) rfl

/-- The last thing that is assigned is an index. -/
theorem lastIndex_mem (h : rest <:+ initAssignments) (hne : rest ≠ []) :
    ContextAssignment.index .isochK ∈ rest := by
  have hall : ∀ l ∈ initAssignments.tails, l ≠ [] →
      ContextAssignment.index .isochK ∈ l := by decide
  exact hall _ ((List.mem_tails _ _).mpr h) hne

theorem mem_rest_iff {x : ContextAssignment} (hne : a ≠ x) : x ∈ a :: rest ↔ x ∈ rest := by
  rw [List.mem_cons]
  exact or_iff_right fun h => hne h.symm

namespace ContextAssignment

theorem store_heapDefault : ContextAssignment.heapDefault.store heap answer c =
    if c.heapDynamic = none then { c with heapDynamic := c.heapProcess } else c := rfl

theorem heapProcess_store (hne : a ≠ .heapProcess) :
    (a.store heap answer c).heapProcess = c.heapProcess := by
  cases a with
  | heapProcess => exact absurd rfl hne
  | heapDefault =>
    rw [store_heapDefault]
    split <;> rfl
  | _ => rfl

theorem heapDynamic_store (hne : a ≠ .heapDynamic) (hne' : a ≠ .heapDefault) :
    (a.store heap answer c).heapDynamic = c.heapDynamic := by
  cases a with
  | heapDynamic => exact absurd rfl hne
  | heapDefault => exact absurd rfl hne'
  | _ => rfl

theorem dlls_store {d : ContextDll} (hne : a ≠ .dll d) :
    (a.store heap answer c).dlls d = c.dlls d := by
  cases a with
  | dll d' =>
    show Function.update c.dlls d' answer d = _
    refine Function.update_of_ne ?_ _ _
    rintro rfl
    exact hne rfl
  | heapDefault =>
    rw [store_heapDefault]
    split <;> rfl
  | _ => rfl

theorem index_store {sec : AllKSection} (hne : a ≠ .index sec) :
    (a.store heap answer c).index sec = c.index sec := by
  cases a with
  | index sec' =>
    show Function.update c.index sec' (-1) sec = _
    refine Function.update_of_ne ?_ _ _
    rintro rfl
    exact hne rfl
  | heapDefault =>
    rw [store_heapDefault]
    split <;> rfl
  | _ => rfl

end ContextAssignment

open ContextAssignment in
/-- An assignment is made. -/
theorem AllKContext.Built.store (h : c.Built (a :: rest)) (hrest : a :: rest <:+ initAssignments) :
    (a.store heap answer c).Built rest where
  heapProcess hnot := by
    by_cases ha : a = .heapProcess
    · rw [ha]
      rfl
    · rw [heapProcess_store ha]
      exact h.heapProcess fun hmem => hnot ((mem_rest_iff ha).mp hmem)
  heapDynamic hnot := by
    by_cases ha : a = .heapDefault
    · subst ha
      rw [store_heapDefault]
      split
      · exact h.heapProcess (heapProcess_not_mem hrest)
      next hsome => exact Option.isSome_iff_ne_none.mpr hsome
    · by_cases ha' : a = .heapDynamic
      · subst ha'
        exact absurd (heapDefault_mem hrest) hnot
      · rw [heapDynamic_store ha' ha]
        exact h.heapDynamic fun hmem => hnot ((mem_rest_iff ha).mp hmem)
  dlls d hmem := by
    have ha : a ≠ .dll d := by
      rintro rfl
      exact not_mem_rest hrest hmem
    rw [dlls_store ha]
    exact h.dlls d (List.mem_cons_of_mem _ hmem)
  index sec := by
    by_cases ha : a = .index sec
    · subst ha
      rw [if_neg (not_mem_rest hrest)]
      exact Function.update_self _ _ _
    · rw [index_store ha, h.index sec]
      exact if_congr (mem_rest_iff ha) rfl rfl

/-- A new context has nothing assigned. -/
theorem AllKContext.built_new : ({} : AllKContext).Built initAssignments where
  heapProcess hnot := absurd (by decide) hnot
  heapDynamic hnot := absurd (by decide) hnot
  dlls _ _ := rfl
  index sec := by cases sec <;> rfl

namespace ContextMemory

variable {m : ContextMemory}

theorem IsEmpty.filling_alloc (h : m.IsEmpty) : m.alloc.Filling initAssignments := by
  refine ⟨List.suffix_rfl, {}, h.has_alloc, AllKContext.built_new, fun d => ?_⟩
  exact h.loads d

/-- An assignment of `LibK_Context_Init`, on the context it is filling in. -/
theorem Filling.assign (h : m.Filling (a :: rest)) :
    (m.assign heap answer a).Filling rest ∧
      (m.assign heap answer a).wildAccess = m.wildAccess := by
  obtain ⟨hrest, c, hhas, hbuilt, hloads⟩ := h
  have hrest' : rest <:+ initAssignments := (List.suffix_cons a rest).trans hrest
  have hhas' := hhas.modify fun c => a.store heap answer c
  have hwild := hhas.wildAccess_modify fun c => a.store heap answer c
  have hsame := hhas.loads_modify fun c => a.store heap answer c
  -- Only a library that is found changes a count.
  by_cases hdll : ∃ d, a = .dll d ∧ answer = true
  · obtain ⟨d, rfl, rfl⟩ := hdll
    refine ⟨⟨hrest', _, hhas'.addLoads d 1, hbuilt.store hrest, fun d' => ?_⟩, hwild⟩
    show Function.update _ d _ d' = _
    rw [hsame]
    by_cases hd : d' = d
    · subst hd
      rw [Function.update_self, hloads d']
      unfold AllKContext.loads
      rw [hbuilt.dlls d' (List.mem_cons_self ..), if_neg Bool.false_ne_true]
      exact (if_pos (Function.update_self d' true c.dlls)).symm
    · rw [Function.update_of_ne hd, hloads d']
      unfold AllKContext.loads
      rw [ContextAssignment.dlls_store]
      rintro ⟨⟩
      exact hd rfl
  · have heq : m.assign heap answer a = m.modify fun c => a.store heap answer c := by
      cases a with
      | dll d =>
        cases answer with
        | false => rfl
        | true => exact absurd ⟨d, rfl, rfl⟩ hdll
      | _ => rfl
    rw [heq]
    refine ⟨⟨hrest', _, hhas', hbuilt.store hrest, fun d' => ?_⟩, hwild⟩
    rw [hsame, hloads d']
    unfold AllKContext.loads
    by_cases ha : a = .dll d'
    · subst ha
      have hfalse : answer = false := by
        cases answer with
        | false => rfl
        | true => exact absurd ⟨d', rfl, rfl⟩ hdll
      rw [hbuilt.dlls d' (List.mem_cons_self ..), hfalse]
      exact (if_neg (ne_true_of_eq_false (Function.update_self d' false c.dlls))).symm
    · rw [ContextAssignment.dlls_store ha]

/-- With nothing left to assign the context is complete. -/
theorem Filling.settled (h : m.Filling []) : m.Settled := by
  obtain ⟨-, c, hhas, hbuilt, hloads⟩ := h
  refine .inr ⟨c, hhas, ?_, hbuilt.heapProcess List.not_mem_nil, hloads⟩
  have hindex : (contextSections.all fun sec => c.index sec == -1) = true := by
    rw [List.all_eq_true]
    intro sec _
    rw [hbuilt.index sec, if_neg List.not_mem_nil]
    rfl
  unfold AllKContext.isReady
  rw [hbuilt.heapDynamic List.not_mem_nil, hindex]
  rfl

/-- Before that it is not. -/
theorem Filling.isReady_eq_false (h : m.Filling rest) (hne : rest ≠ []) {c : AllKContext}
    (hc : m.context = some c) : c.isReady = false := by
  obtain ⟨hrest, c', hhas, hbuilt, -⟩ := h
  obtain rfl : c' = c := Option.some.inj (hhas.context.symm.trans hc)
  have hindex : c'.index .isochK = 0 := by
    rw [hbuilt.index .isochK, if_pos (lastIndex_mem hrest hne)]
  rw [AllKContext.isReady, Bool.and_eq_false_iff]
  refine .inr (List.all_eq_false.mpr ⟨.isochK, by decide, ?_⟩)
  rw [hindex]
  decide

end ContextMemory

end Filling

/-! ### The releases of `LibK_Context_Free` -/

section Freeing

variable {heap : Option ℕ} {r : ContextRelease} {rest : List ContextRelease}

theorem not_mem_releases (h : r :: rest <:+ freeReleases) : r ∉ rest := by
  have hall : freeReleases.Nodup := by decide
  exact (List.nodup_cons.mp (hall.sublist h.sublist)).1

/-- The memory of the context is freed when everything else is released. -/
theorem heapFree_mem (h : r :: rest <:+ freeReleases) (hr : r ≠ .heapFree)
    (hr' : r ≠ .clearAllK) : ContextRelease.heapFree ∈ rest := by
  have hall : ∀ l ∈ freeReleases.tails, ∀ r ∈ l.head?, r ≠ .heapFree → r ≠ .clearAllK →
      ContextRelease.heapFree ∈ l.tail := by decide
  exact hall _ ((List.mem_tails _ _).mpr h) r rfl hr hr'

theorem rest_of_heapFree (h : .heapFree :: rest <:+ freeReleases) : rest = [.clearAllK] := by
  have hall : ∀ l ∈ freeReleases.tails, l.head? = some .heapFree → l.tail = [.clearAllK] := by
    decide
  exact hall _ ((List.mem_tails _ _).mpr h) rfl

theorem rest_of_clearAllK (h : .clearAllK :: rest <:+ freeReleases) : rest = [] := by
  have hall : ∀ l ∈ freeReleases.tails, l.head? = some .clearAllK → l.tail = [] := by decide
  exact hall _ ((List.mem_tails _ _).mpr h) rfl

/-- A library is freed before its handle is cleared. -/
theorem freeDll_not_mem {d : ContextDll} (h : .clearDll d :: rest <:+ freeReleases) :
    ContextRelease.freeDll d ∉ rest := by
  have hall : ∀ l ∈ freeReleases.tails, l.head? = some (.clearDll d) → .freeDll d ∉ l.tail := by
    cases d <;> decide
  exact hall _ ((List.mem_tails _ _).mpr h) rfl

theorem mem_releases_iff {x : ContextRelease} (hne : r ≠ x) : x ∈ r :: rest ↔ x ∈ rest := by
  rw [List.mem_cons]
  exact or_iff_right fun h => hne h.symm

/-- A release that is neither of the two of the heaps leaves the context as ready as it was. -/
theorem AllKContext.TakenDown.other {c c' : AllKContext} (h : c.TakenDown heap (r :: rest))
    (hready : c'.isReady = c.isReady) (hheap : c'.heapProcess = c.heapProcess)
    (hr : r ≠ .clearHeapDynamic) (hr' : r ≠ .clearHeapProcess) : c'.TakenDown heap rest where
  ready := by
    rw [hready, h.ready]
    exact decide_eq_decide.mpr (mem_releases_iff hr)
  heapProcess hmem := by
    rw [hheap]
    exact h.heapProcess ((mem_releases_iff hr').mpr hmem)
  heap hnot := h.heap fun hmem => hnot ((mem_releases_iff hr').mp hmem)

namespace ContextMemory

variable {m : ContextMemory}

/-- While the context has not been freed. -/
theorem Freeing.has (h : m.Freeing heap rest) (hmem : .heapFree ∈ rest) :
    ∃ c, m.Has c ∧ c.TakenDown heap rest ∧
      ∀ d, m.loads d = if .freeDll d ∈ rest then c.loads d else 0 := by
  have hif := h.2
  rwa [if_pos hmem] at hif

theorem Freeing.isEmpty (h : m.Freeing heap rest) (hnot : .heapFree ∉ rest) :
    m.IsEmpty ∧ (m.allK.isSome = true ↔ .clearAllK ∈ rest) := by
  have hif := h.2
  rwa [if_neg hnot] at hif

/-- What a release has to see to, but for the last two. -/
theorem Freeing.of_has {heap' : Option ℕ} {c' : AllKContext}
    (hrest : r :: rest <:+ freeReleases) (hr : r ≠ .heapFree) (hr' : r ≠ .clearAllK)
    {m' : ContextMemory} (hhas : m'.Has c') (htaken : c'.TakenDown heap' rest)
    (hloads : ∀ d, m'.loads d = if .freeDll d ∈ rest then c'.loads d else 0) :
    m'.Freeing heap' rest := by
  refine ⟨(List.suffix_cons r rest).trans hrest, ?_⟩
  rw [if_pos (heapFree_mem hrest hr hr')]
  exact ⟨c', hhas, htaken, hloads⟩

theorem Freeing.freeDll {d : ContextDll} (h : m.Freeing heap (.freeDll d :: rest)) :
    (m.freeDll d).Freeing heap rest ∧ (m.freeDll d).wildAccess = m.wildAccess := by
  have hrest := h.1
  have hr : ContextRelease.freeDll d ≠ .heapFree := by simp
  have hr' : ContextRelease.freeDll d ≠ .clearAllK := by simp
  obtain ⟨c, hhas, htaken, hloads⟩ :=
    h.has (List.mem_cons_of_mem _ (heapFree_mem hrest hr hr'))
  have htaken' : c.TakenDown heap rest := htaken.other rfl rfl (by simp) (by simp)
  have heq : m.freeDll d = if c.dlls d then m.addLoads d (-1) else m := by
    unfold ContextMemory.freeDll
    rw [hhas.context]
  have hd : m.loads d = c.loads d := (hloads d).trans (if_pos (List.mem_cons_self ..))
  have hother : ∀ d' ≠ d, m.loads d' = if .freeDll d' ∈ rest then c.loads d' else 0 := by
    intro d' hne
    rw [hloads d']
    refine if_congr (mem_releases_iff ?_) rfl rfl
    rintro ⟨⟩
    exact hne rfl
  rw [heq]
  unfold AllKContext.loads at hd
  split
  next hdll =>
    refine ⟨.of_has hrest hr hr' (hhas.addLoads d (-1)) htaken' fun d' => ?_, rfl⟩
    show Function.update m.loads d _ d' = _
    by_cases hd' : d' = d
    · rw [hd', Function.update_self, if_neg (not_mem_releases hrest), hd, if_pos hdll]
      rfl
    · rw [Function.update_of_ne hd', hother d' hd']
  next hdll =>
    refine ⟨.of_has hrest hr hr' hhas htaken' fun d' => ?_, rfl⟩
    by_cases hd' : d' = d
    · rw [hd', if_neg (not_mem_releases hrest), hd, if_neg hdll]
    · exact hother d' hd'

/-- A write of `LibK_Context_Free` to the context. -/
theorem Freeing.modify {heap' : Option ℕ} (h : m.Freeing heap (r :: rest)) (hr : r ≠ .heapFree)
    (hr' : r ≠ .clearAllK) (f : AllKContext → AllKContext)
    (htaken : ∀ c, m.context = some c → c.TakenDown heap (r :: rest) →
      (f c).TakenDown heap' rest)
    (hloads : ∀ c d, .freeDll d ∈ rest → (f c).loads d = c.loads d)
    (hmem : ∀ d, r ≠ .freeDll d) :
    (m.modify f).Freeing heap' rest ∧ (m.modify f).wildAccess = m.wildAccess := by
  have hrest := h.1
  obtain ⟨c, hhas, htaken', hloads'⟩ :=
    h.has (List.mem_cons_of_mem _ (heapFree_mem hrest hr hr'))
  refine ⟨.of_has hrest hr hr' (hhas.modify f) (htaken c hhas.context htaken') fun d => ?_,
    hhas.wildAccess_modify f⟩
  rw [hhas.loads_modify f, hloads' d]
  by_cases hd : .freeDll d ∈ rest
  · rw [if_pos hd, if_pos (List.mem_cons_of_mem _ hd), hloads c d hd]
  · rw [if_neg hd, if_neg fun hin => hd ((mem_releases_iff (hmem d)).mp hin)]

theorem Freeing.heapFree (h : m.Freeing heap (.heapFree :: rest)) :
    (m.heapFree heap).Freeing heap rest ∧ (m.heapFree heap).wildAccess = m.wildAccess := by
  obtain ⟨c, hhas, htaken, hloads⟩ := h.has (List.mem_cons_self ..)
  obtain rfl := rest_of_heapFree h.1
  obtain ⟨b, hb, -⟩ := hhas.exists_allK
  obtain ⟨p, hp⟩ := Option.isSome_iff_exists.mp (htaken.heap (by decide))
  have heq : m.heapFree heap = { m with contexts := m.contexts.delete b } := by
    unfold ContextMemory.heapFree
    rw [hp, hb, hhas.context]
  rw [heq]
  refine ⟨⟨(List.suffix_cons _ _).trans h.1, ?_⟩, rfl⟩
  rw [if_neg (by decide)]
  refine ⟨⟨fun k => hhas.contexts_delete hb k, fun d => ?_⟩, ?_⟩
  · exact (hloads d).trans (if_neg (by cases d <;> decide))
  · exact iff_of_true hhas.allK_isSome (List.mem_singleton_self _)

theorem Freeing.clearAllK (h : m.Freeing heap (.clearAllK :: rest)) :
    (m.release heap .clearAllK).1.Freeing heap rest := by
  obtain rfl := rest_of_clearAllK h.1
  have hempty := (h.isEmpty (by decide)).1
  refine ⟨List.nil_suffix, ?_⟩
  rw [if_neg List.not_mem_nil]
  exact ⟨⟨hempty.contexts, hempty.loads⟩, iff_of_false Bool.false_ne_true List.not_mem_nil⟩

/-- A release of `LibK_Context_Free`. -/
theorem Freeing.release (h : m.Freeing heap (r :: rest)) :
    (m.release heap r).1.Freeing (m.release heap r).2 rest ∧
      (m.release heap r).1.wildAccess = m.wildAccess := by
  cases r with
  | freeDll d => exact h.freeDll
  | clearDll d =>
    refine h.modify (by simp) (by simp) _ ?_ ?_ (by simp)
    · exact fun c _ htaken => htaken.other rfl rfl (by simp) (by simp)
    · intro c d' hmem
      have hne : d' ≠ d := by
        rintro rfl
        exact freeDll_not_mem h.1 hmem
      unfold AllKContext.loads
      show (if Function.update c.dlls d false d' then (1 : ℤ) else 0) = _
      rw [Function.update_of_ne hne]
  | clearHeapDynamic =>
    refine h.modify (by decide) (by decide) _ ?_ (fun _ _ _ => rfl) (by simp)
    intro c _ htaken
    refine ⟨?_, fun hmem => htaken.heapProcess (List.mem_cons_of_mem _ hmem),
      fun hnot => htaken.heap fun hmem => hnot ((mem_releases_iff (by decide)).mp hmem)⟩
    rw [decide_eq_false (not_mem_releases h.1)]
    rfl
  | clearHeapProcess =>
    refine h.modify (by decide) (by decide) _ ?_ (fun _ _ _ => rfl) (by simp)
    intro c hc htaken
    refine ⟨htaken.ready.trans (decide_eq_decide.mpr (mem_releases_iff (by decide))),
      fun hmem => absurd hmem (not_mem_releases h.1), fun _ => ?_⟩
    show (m.context.bind AllKContext.heapProcess).isSome = true
    rw [hc, Option.bind_some]
    exact htaken.heapProcess (List.mem_cons_self ..)
  | heapFree => exact h.heapFree
  | clearAllK => exact ⟨h.clearAllK, rfl⟩

/-- `LibK_Context_Free` has found a context. -/
theorem Settled.freeing (h : m.Settled) (hallK : m.allK.isSome = true) :
    m.Freeing none freeReleases := by
  rcases h with ⟨hnone, -⟩ | ⟨c, hhas, hready, hheap, hloads⟩
  · rw [hnone] at hallK
    cases hallK
  · refine ⟨List.suffix_rfl, ?_⟩
    rw [if_pos (by decide)]
    refine ⟨c, hhas, ⟨?_, fun _ => hheap, fun hnot => absurd (by decide) hnot⟩, fun d => ?_⟩
    · rw [hready]
      rfl
    · rw [hloads d, if_pos (by cases d <;> decide)]

/-- Everything is released. -/
theorem Freeing.settled (h : m.Freeing heap []) : m.Settled := by
  obtain ⟨hempty, hallK⟩ := h.isEmpty List.not_mem_nil
  refine .inl ⟨?_, hempty⟩
  rw [← Option.not_isSome_iff_eq_none, hallK]
  exact List.not_mem_nil

theorem Freeing.isReady_iff (h : m.Freeing heap rest) :
    m.context.any AllKContext.isReady = true ↔
      m.allK.isSome = true ∧ .clearHeapDynamic ∈ rest := by
  by_cases hmem : .heapFree ∈ rest
  · obtain ⟨c, hhas, htaken, -⟩ := h.has hmem
    rw [hhas.context, Option.any_some, htaken.ready, decide_eq_true_iff]
    exact (and_iff_right hhas.allK_isSome).symm
  · obtain ⟨hempty, -⟩ := h.isEmpty hmem
    rw [hempty.context_eq_none, Option.any_none]
    refine iff_of_false Bool.false_ne_true fun hboth => hmem ?_
    -- The heap is cleared before the memory is freed.
    have hall : ∀ l ∈ freeReleases.tails, ContextRelease.clearHeapDynamic ∈ l →
        ContextRelease.heapFree ∈ l := by decide
    exact hall _ ((List.mem_tails _ _).mpr h.1) hboth.2

end ContextMemory

end Freeing

/-! ### Between two steps -/

/-- The context is complete unless the thread inside is midway. -/
theorem ContextMemory.Fits.isReady_iff {m : ContextMemory} {p : Option ContextPc}
    (h : m.Fits p) :
    m.context.any AllKContext.isReady = true ↔
      m.allK.isSome = true ∧ ∀ pc, p = some pc → ¬pc.IsMidway := by
  have hsettled : m.Settled → (∀ pc, p = some pc → ¬pc.IsMidway) →
      (m.context.any AllKContext.isReady = true ↔
        m.allK.isSome = true ∧ ∀ pc, p = some pc → ¬pc.IsMidway) := by
    intro hm hnot
    rcases hm with ⟨hnone, hempty⟩ | ⟨c, hhas, hready, -⟩
    · rw [hempty.context_eq_none, hnone]
      exact iff_of_false Bool.false_ne_true fun hboth => Bool.false_ne_true hboth.1
    · rw [hhas.context, Option.any_some, hready]
      exact iff_of_true rfl ⟨hhas.allK_isSome, hnot⟩
  cases p with
  | none => exact hsettled h (by rintro _ ⟨⟩)
  | some pc =>
    cases pc with
    | initAlloc heap reads =>
      obtain ⟨hnone, hempty⟩ := h
      exact hsettled (.inl ⟨hnone, hempty⟩) (by rintro _ ⟨⟩; exact id)
    | initAssign heap rest reads =>
      by_cases hrest : rest = []
      · subst hrest
        refine hsettled (Filling.settled h) ?_
        rintro _ ⟨⟩
        exact fun hne => hne rfl
      · refine iff_of_false ?_ fun hboth => hboth.2 _ rfl hrest
        have hfilling : m.Filling rest := h
        obtain ⟨-, c, hhas, -⟩ := h
        rw [hhas.context, Option.any_some, hfilling.isReady_eq_false hrest hhas.context]
        exact Bool.false_ne_true
    | freeing heap rest =>
      rw [Freeing.isReady_iff h]
      refine and_congr_right fun _ => ⟨?_, fun hnot => ?_⟩
      · rintro hmem _ ⟨⟩
        exact fun hnot => hnot hmem
      · exact Decidable.not_not.mp (hnot _ rfl)
    | _ => exact hsettled h (by rintro _ ⟨⟩; exact id)

namespace ContextMemory

variable {m : ContextMemory}

theorem Has.unique {c : AllKContext} (h : m.Has c) {b b' : ℕ}
    (hb : (m.contexts.get b).isSome = true) (hb' : (m.contexts.get b').isSome = true) :
    b = b' := by
  obtain ⟨x, hx⟩ := Option.isSome_iff_exists.mp hb
  obtain ⟨y, hy⟩ := Option.isSome_iff_exists.mp hb'
  exact Option.some.inj ((h.only b x hx).symm.trans (h.only b' y hy))

theorem IsEmpty.unique (h : m.IsEmpty) {b b' : ℕ} (hb : (m.contexts.get b).isSome = true) :
    b = b' := by
  rw [h.contexts b] at hb
  cases hb

/-- There is never more than one context. -/
theorem Fits.unique {p : Option ContextPc} (h : m.Fits p) {b b' : ℕ}
    (hb : (m.contexts.get b).isSome = true) (hb' : (m.contexts.get b').isSome = true) :
    b = b' := by
  have hsettled : m.Settled → b = b' := by
    rintro (⟨-, hempty⟩ | ⟨c, hhas, -⟩)
    · exact hempty.unique hb
    · exact hhas.unique hb hb'
  cases p with
  | none => exact hsettled h
  | some pc =>
    cases pc with
    | initAlloc heap reads => exact h.2.unique hb
    | initAssign heap rest reads =>
      obtain ⟨-, c, hhas, -⟩ := h
      exact hhas.unique hb hb'
    | freeing heap rest =>
      by_cases hmem : .heapFree ∈ rest
      · obtain ⟨c, hhas, -⟩ := Freeing.has h hmem
        exact hhas.unique hb hb'
      · exact (Freeing.isEmpty h hmem).1.unique hb
    | _ => exact hsettled h

end ContextMemory

end LibusbK
