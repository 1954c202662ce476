import Mathlib.Data.List.Nodup
import LibusbK.Dll.DeviceLists

/-!
# How an element is linked

An element is in the chain of the list it names and in no other, and its count says
whether it names one.  Every call on one element keeps this, and what it does is one
of four changes: an element is linked, unlinked, added or dropped.

## Main definitions

* `DevLists.Linked` — the three marks of an attachment agree.
* `DevLists.link`, `DevLists.unlink`, `DevLists.addInfo`, `DevLists.dropInfo`.

## Main results

* `lstKDetachInfo_of_attached`, `lstKAttachInfo_of_detached`, `lstKFreeInfo_of_detached`,
  `lstKCloneInfo_of_live` — what the calls on one element do.
-/

namespace LibusbK

/-! ### Counts -/

namespace ObjBase

/-- `PoolHandle_Inc` succeeds. -/
def Usable (b : ObjBase) : Prop := b.disposing = true ∨ 0 < b.ref

/-- A reference that is taken and given up leaves the count as it was. -/
theorem inc_of_usable {b : ObjBase} (h : b.Usable) :
    ∃ b', b.inc = some b' ∧ b'.dec = b ∧ ¬b'.Last ∧ b'.Usable := by
  obtain ⟨ref, disposing⟩ := b
  cases disposing with
  | true => exact ⟨⟨ref, true⟩, rfl, rfl, fun hlast => Bool.noConfusion hlast.1, Or.inl rfl⟩
  | false =>
    have hpos : 0 < ref := h.resolve_left (by simp)
    refine ⟨⟨ref + 1, false⟩, ?_, ?_, fun hlast => ?_, Or.inr ?_⟩
    · simp only [inc, Bool.false_eq_true, if_false]
      exact if_pos (by omega)
    · have hne : ¬ref + 1 - 1 = 0 := by omega
      simp only [dec, Bool.false_eq_true, if_false, decide_eq_false hne]
      congr 1
      omega
    · have hzero : ref + 1 - 1 = 0 := hlast.2
      omega
    · change 0 < ref + 1
      omega

theorem usable_acquired : acquired.Usable := Or.inr Int.one_pos

/-- The count of an element that is attached. -/
def attached : ObjBase := ⟨2, false⟩

theorem not_last_attached : ¬attached.Last := by decide

theorem inc_acquired : acquired.inc = some attached := rfl

theorem inc_attached : attached.inc = some ⟨3, false⟩ := rfl

end ObjBase

namespace DevLists

variable {s : DevLists} {list info : ℕ}

/-! ### The counts of the lists -/

/-- The counts of a list. -/
def base (s : DevLists) (list : ℕ) : Option ObjBase := (s.lstK.get list).map DevList.toObjBase

/-- Change the counts of a list. -/
def rebase (s : DevLists) (list : ℕ) (b : ObjBase) : DevLists :=
  s.onLstK list fun l => { l with toObjBase := b }

@[simp] theorem lstInfoK_rebase (b : ObjBase) : (s.rebase list b).lstInfoK = s.lstInfoK := rfl

@[simp] theorem devListHandle_rebase (b : ObjBase) :
    (s.rebase list b).devListHandle info = s.devListHandle info := rfl

theorem base_rebase_self {b b' : ObjBase} (h : s.base list = some b) :
    (s.rebase list b').base list = some b' := by
  obtain ⟨l, hl, -⟩ := Option.map_eq_some_iff.mp h
  unfold base rebase onLstK
  rw [Objects.get_modify_self, hl]
  rfl

theorem base_rebase_of_ne {other : ℕ} (b : ObjBase) (h : other ≠ list) :
    (s.rebase list b).base other = s.base other := by
  unfold base rebase onLstK
  rw [Objects.get_modify_of_ne _ _ h]

theorem base_onHead (g : List ℕ → List ℕ) (other : ℕ) :
    (s.onLstK list fun l => { l with head := g l.head }).base other = s.base other := by
  unfold base onLstK
  rw [Objects.get_modify]
  split
  · rw [Option.map_map]
    rfl
  · rfl

@[simp] theorem chain_rebase (b : ObjBase) (other : ℕ) :
    (s.rebase list b).chain other = s.chain other := by
  unfold chain rebase onLstK
  rw [Objects.get_modify]
  split
  · rw [Option.map_map]
    rfl
  · rfl

theorem rebase_rebase (b b' : ObjBase) : (s.rebase list b).rebase list b' = s.rebase list b' := by
  unfold rebase onLstK
  rw [Objects.modify_modify]
  rfl

theorem rebase_comm {other : ℕ} (h : list ≠ other) (b b' : ObjBase) :
    (s.rebase list b).rebase other b' = (s.rebase other b').rebase list b := by
  unfold rebase onLstK
  rw [Objects.modify_comm h]

theorem rebase_eq_self {b : ObjBase} (h : s.base list = some b) : s.rebase list b = s := by
  unfold rebase onLstK
  rw [Objects.modify_eq_self]
  intro l hl
  unfold base at h
  rw [hl, Option.map_some, Option.some_inj] at h
  rw [← h]

theorem incLstK_of_usable {b : ObjBase} (h : s.base list = some b) (husable : b.Usable) :
    ∃ b', s.incLstK list = some (s.rebase list b') ∧ b'.dec = b ∧ ¬b'.Last ∧ b'.Usable := by
  obtain ⟨l, hl, rfl⟩ := Option.map_eq_some_iff.mp h
  obtain ⟨b', hinc, hrest⟩ := ObjBase.inc_of_usable husable
  refine ⟨b', ?_, hrest⟩
  unfold incLstK
  rw [hl, Option.bind_some, hinc]
  rfl

theorem decLstK_of_not_last {cleanup : ℕ → DevLists → Option DevLists} {b : ObjBase}
    (h : s.base list = some b) (hlast : ¬b.Last) :
    s.decLstK cleanup list = some (s.rebase list b.dec) := by
  obtain ⟨l, hl, rfl⟩ := Option.map_eq_some_iff.mp h
  unfold decLstK
  rw [hl]
  dsimp only
  rw [if_neg hlast]
  unfold rebase onLstK
  rw [Objects.modify_congr fun x hx => ?_]
  rw [hl] at hx
  cases hx
  rfl

/-- In its own cleanup a list is not counted. -/
theorem incLstK_of_disposing {b : ObjBase} (h : s.base list = some b)
    (hdisposing : b.disposing = true) : s.incLstK list = some s := by
  have hinc : b.inc = some b := by
    unfold ObjBase.inc
    rw [if_pos hdisposing]
  obtain ⟨l, hl, rfl⟩ := Option.map_eq_some_iff.mp h
  unfold incLstK
  rw [hl, Option.bind_some, hinc, Option.map_some]
  exact congrArg some (rebase_eq_self h)

theorem decLstK_of_disposing {cleanup : ℕ → DevLists → Option DevLists} {b : ObjBase}
    (h : s.base list = some b) (hdisposing : b.disposing = true) :
    s.decLstK cleanup list = some s := by
  have hlast : ¬b.Last := fun hlast => by simp [hlast.1] at hdisposing
  have hdec : b.dec = b := by
    unfold ObjBase.dec
    rw [if_pos hdisposing]
  rw [decLstK_of_not_last h hlast, hdec, rebase_eq_self h]

/-! ### The marks of an attachment -/

/-- An element is in the chain of the list it names and in no other, and its count says
whether it names one. -/
structure Linked (s : DevLists) : Prop where
  nodup : ∀ list, (s.chain list).Nodup
  mem_chain : ∀ list info, info ∈ s.chain list ↔ s.devListHandle info = some list
  counted : ∀ info el, s.lstInfoK.get info = some el →
    el.toObjBase = if el.devListHandle = none then .acquired else .attached

theorem linked_empty : empty.Linked where
  nodup _ := List.nodup_nil
  mem_chain _ _ := by simp [chain, devListHandle, empty]
  counted info el h := by simp [empty] at h

theorem Linked.rebase (h : s.Linked) (list : ℕ) (b : ObjBase) : (s.rebase list b).Linked where
  nodup other := by
    rw [chain_rebase]
    exact h.nodup other
  mem_chain other info := by
    rw [chain_rebase]
    exact h.mem_chain other info
  counted := h.counted

/-! ### The four changes -/

/-- An element that names no list is linked into a list. -/
def link (s : DevLists) (list info : ℕ) : DevLists where
  lstK := s.lstK.modify list fun l => { l with head := l.head ++ [info] }
  lstInfoK := s.lstInfoK.modify info fun el =>
    { el with
      toObjBase := .attached
      devListHandle := some list }

/-- An element is taken out of its list. -/
def unlink (s : DevLists) (list info : ℕ) : DevLists where
  lstK := s.lstK.modify list fun l => { l with head := l.head.erase info }
  lstInfoK := s.lstInfoK.modify info fun el =>
    { el with
      toObjBase := .acquired
      devListHandle := none }

/-- A new element, in no list. -/
def addInfo (s : DevLists) (info : DevInfo) : DevLists :=
  { s with
    lstInfoK := s.lstInfoK.create
      { toObjBase := .acquired
        devListHandle := none
        info := info } }

/-- An element is freed. -/
def dropInfo (s : DevLists) (info : ℕ) : DevLists :=
  { s with lstInfoK := s.lstInfoK.delete info }

section Changes

variable {b : ObjBase} {el : DevInfoEL}

theorem devListHandle_eq (h : s.lstInfoK.get info = some el) :
    s.devListHandle info = el.devListHandle := by
  unfold devListHandle
  rw [h]
  rfl

theorem chain_onLstK {f : DevList → DevList} {g : List ℕ → List ℕ} (hf : ∀ l, (f l).head = g l.head)
    (hb : s.base list = some b) (other : ℕ) :
    (s.onLstK list f).chain other = if other = list then g (s.chain other) else s.chain other := by
  obtain ⟨l, hl, -⟩ := Option.map_eq_some_iff.mp hb
  unfold chain onLstK
  rw [Objects.get_modify]
  split
  next heq =>
    subst heq
    rw [hl, Option.map_some, Option.map_some, Option.map_some, Option.getD_some, Option.getD_some,
      hf]
  · rfl

theorem devListHandle_onLstInfoK {f : DevInfoEL → DevInfoEL} {handle : Option ℕ}
    (hf : ∀ el, (f el).devListHandle = handle) (hel : s.lstInfoK.get info = some el) (other : ℕ) :
    (s.onLstInfoK info f).devListHandle other =
      if other = info then handle else s.devListHandle other := by
  unfold devListHandle onLstInfoK
  rw [Objects.get_modify]
  split
  next heq =>
    subst heq
    rw [hel, Option.map_some, Option.bind_some, hf]
  · rfl

theorem devListHandle_link (hel : s.lstInfoK.get info = some el) :
    ∀ other, (s.link list info).devListHandle other =
      if other = info then some list else s.devListHandle other :=
  devListHandle_onLstInfoK (fun _ => rfl) hel

theorem devListHandle_unlink (hel : s.lstInfoK.get info = some el) :
    ∀ other, (s.unlink list info).devListHandle other =
      if other = info then none else s.devListHandle other :=
  devListHandle_onLstInfoK (fun _ => rfl) hel

theorem chain_unlink (hb : s.base list = some b) :
    ∀ other, (s.unlink list info).chain other =
      if other = list then (s.chain other).erase info else s.chain other :=
  chain_onLstK (g := fun head => head.erase info) (fun _ => rfl) hb

/-- A change of one element that keeps its own marks right. -/
theorem Linked.counted_onLstInfoK (h : s.Linked) {f : DevInfoEL → DevInfoEL}
    (hf : ∀ el, s.lstInfoK.get info = some el →
      (f el).toObjBase = if (f el).devListHandle = none then .acquired else .attached) :
    ∀ other el, (s.onLstInfoK info f).lstInfoK.get other = some el →
      el.toObjBase = if el.devListHandle = none then .acquired else .attached := by
  intro other el hel
  unfold onLstInfoK at hel
  rw [Objects.get_modify] at hel
  split at hel
  next heq =>
    subst heq
    obtain ⟨el, hget, rfl⟩ := Option.map_eq_some_iff.mp hel
    exact hf el hget
  · exact h.counted other el hel

theorem Linked.link (h : s.Linked) (hb : s.base list = some b)
    (hel : s.lstInfoK.get info = some el) (hnone : s.devListHandle info = none) :
    (s.link list info).Linked := by
  have hfree : ∀ other, info ∉ s.chain other := by
    intro other hmem
    rw [h.mem_chain, hnone] at hmem
    cases hmem
  have hchain : ∀ other, (s.link list info).chain other =
      if other = list then s.chain other ++ [info] else s.chain other :=
    chain_onLstK (g := fun head => head ++ [info]) (fun _ => rfl) hb
  refine ⟨fun other => ?_, fun other i => ?_, h.counted_onLstInfoK fun _ _ => rfl⟩
  · rw [hchain]
    split
    · refine List.nodup_append.mpr ⟨h.nodup other, List.nodup_singleton info, ?_⟩
      intro a ha c hc heq
      cases List.mem_singleton.mp hc
      exact hfree other (heq ▸ ha)
    · exact h.nodup other
  · rw [hchain, devListHandle_link hel]
    by_cases hlist : other = list
    · subst hlist
      by_cases hinfo : i = info
      · simp [hinfo]
      · simp [hinfo, h.mem_chain]
    · by_cases hinfo : i = info
      · subst hinfo
        simp [hlist, Ne.symm hlist, hfree other]
      · simp [hlist, hinfo, h.mem_chain]

theorem Linked.unlink (h : s.Linked) (hb : s.base list = some b)
    (hel : s.lstInfoK.get info = some el) (hlist : s.devListHandle info = some list) :
    (s.unlink list info).Linked := by
  refine ⟨fun other => ?_, fun other i => ?_, h.counted_onLstInfoK fun _ _ => rfl⟩
  · rw [chain_unlink hb]
    split
    · exact (h.nodup other).erase info
    · exact h.nodup other
  · rw [chain_unlink hb, devListHandle_unlink hel]
    by_cases hother : other = list
    · subst hother
      rw [if_pos rfl, (h.nodup other).mem_erase_iff, h.mem_chain]
      by_cases hinfo : i = info
      · simp [hinfo]
      · simp [hinfo]
    · rw [if_neg hother, h.mem_chain]
      by_cases hinfo : i = info
      · subst hinfo
        simp [hlist, Ne.symm hother]
      · simp [hinfo]

theorem devListHandle_next (s : DevLists) : s.devListHandle s.lstInfoK.next = none := by
  unfold devListHandle
  rw [s.lstInfoK.get_of_le _ (Nat.le_refl _)]
  rfl

theorem devListHandle_addInfo (d : DevInfo) (other : ℕ) :
    (s.addInfo d).devListHandle other = s.devListHandle other := by
  by_cases heq : other = s.lstInfoK.next
  · subst heq
    rw [devListHandle_next]
    unfold devListHandle addInfo
    rw [Objects.get_create_self]
    rfl
  · unfold devListHandle addInfo
    rw [Objects.get_create_of_ne _ _ heq]

theorem Linked.addInfo (h : s.Linked) (d : DevInfo) : (s.addInfo d).Linked where
  nodup := h.nodup
  mem_chain other i := by
    rw [devListHandle_addInfo]
    exact h.mem_chain other i
  counted other el hel := by
    by_cases heq : other = s.lstInfoK.next
    · subst heq
      unfold DevLists.addInfo at hel
      rw [Objects.get_create_self] at hel
      cases hel
      rfl
    · unfold DevLists.addInfo at hel
      rw [Objects.get_create_of_ne _ _ heq] at hel
      exact h.counted other el hel

theorem devListHandle_dropInfo (other : ℕ) :
    (s.dropInfo info).devListHandle other =
      if other = info then none else s.devListHandle other := by
  unfold devListHandle dropInfo
  split
  next heq =>
    subst heq
    rw [Objects.get_delete_self]
    rfl
  next hne => rw [Objects.get_delete_of_ne _ hne]

theorem Linked.dropInfo (h : s.Linked) (hnone : s.devListHandle info = none) :
    (s.dropInfo info).Linked where
  nodup := h.nodup
  mem_chain other i := by
    rw [devListHandle_dropInfo]
    have hmem := h.mem_chain other i
    split
    next heq =>
      subst heq
      rw [hnone] at hmem
      exact hmem
    · exact hmem
  counted other el hel := by
    have hne : other ≠ info := by
      intro heq
      subst heq
      unfold DevLists.dropInfo at hel
      rw [Objects.get_delete_self] at hel
      cases hel
    unfold DevLists.dropInfo at hel
    rw [Objects.get_delete_of_ne _ hne] at hel
    exact h.counted other el hel

end Changes

/-! ### The calls on one element -/

section Calls

variable {b : ObjBase} {el : DevInfoEL} {cleanup : ℕ → DevLists → Option DevLists}

/-- Change the counts of an element. -/
def rebaseInfo (s : DevLists) (info : ℕ) (b : ObjBase) : DevLists :=
  s.onLstInfoK info fun el => { el with toObjBase := b }

theorem get_onLstInfoK (hel : s.lstInfoK.get info = some el) (f : DevInfoEL → DevInfoEL) :
    (s.onLstInfoK info f).lstInfoK.get info = some (f el) := by
  unfold onLstInfoK
  rw [Objects.get_modify_self, hel, Option.map_some]

theorem onLstInfoK_onLstInfoK (f g : DevInfoEL → DevInfoEL) :
    (s.onLstInfoK info f).onLstInfoK info g = s.onLstInfoK info (g ∘ f) := by
  unfold onLstInfoK
  rw [Objects.modify_modify]

theorem rebaseInfo_eq_self (hel : s.lstInfoK.get info = some el) :
    s.rebaseInfo info el.toObjBase = s := by
  unfold rebaseInfo onLstInfoK
  rw [Objects.modify_eq_self]
  intro x hx
  rw [hel] at hx
  cases hx
  rfl

theorem rebaseInfo_rebaseInfo (b b' : ObjBase) :
    (s.rebaseInfo info b).rebaseInfo info b' = s.rebaseInfo info b' :=
  onLstInfoK_onLstInfoK _ _

theorem get_rebaseInfo (hel : s.lstInfoK.get info = some el) (b : ObjBase) :
    (s.rebaseInfo info b).lstInfoK.get info = some { el with toObjBase := b } :=
  get_onLstInfoK hel _

theorem devListHandle_rebaseInfo (hel : s.lstInfoK.get info = some el) (b : ObjBase) :
    (s.rebaseInfo info b).devListHandle info = s.devListHandle info := by
  rw [devListHandle_eq (get_rebaseInfo hel b), devListHandle_eq hel]

theorem incLstInfoK_eq (hel : s.lstInfoK.get info = some el) (hinc : el.toObjBase.inc = some b) :
    s.incLstInfoK info = some (s.rebaseInfo info b) := by
  unfold incLstInfoK
  rw [hel, Option.bind_some, hinc]
  rfl

theorem decLstInfoK_of_not_last (hel : s.lstInfoK.get info = some el) (hlast : ¬el.Last) :
    s.decLstInfoK info = s.rebaseInfo info el.toObjBase.dec := by
  unfold decLstInfoK
  rw [hel]
  dsimp only
  rw [if_neg hlast]
  unfold rebaseInfo onLstInfoK
  rw [Objects.modify_congr fun x hx => ?_]
  rw [hel] at hx
  cases hx
  rfl

theorem decLstInfoK_of_last (hel : s.lstInfoK.get info = some el) (hlast : el.Last) :
    s.decLstInfoK info = s.dropInfo info := by
  unfold decLstInfoK
  rw [hel]
  dsimp only
  rw [if_pos hlast]
  rfl

theorem Linked.toObjBase_of_none (h : s.Linked) (hel : s.lstInfoK.get info = some el)
    (hnone : s.devListHandle info = none) : el.toObjBase = .acquired := by
  rw [devListHandle_eq hel] at hnone
  rw [h.counted info el hel, if_pos hnone]

theorem Linked.toObjBase_of_some (h : s.Linked) (hel : s.lstInfoK.get info = some el)
    (hne : s.devListHandle info ≠ none) : el.toObjBase = .attached := by
  rw [devListHandle_eq hel] at hne
  rw [h.counted info el hel, if_neg hne]

/-- A call that takes a reference to an element and gives it up. -/
theorem Linked.inc_dec_lstInfoK (h : s.Linked) (hel : s.lstInfoK.get info = some el) :
    ∃ b', s.incLstInfoK info = some (s.rebaseInfo info b') ∧
      ∀ (t : DevLists) (el' : DevInfoEL), t.lstInfoK.get info = some el' → el'.toObjBase = b' →
        t.decLstInfoK info = t.rebaseInfo info el.toObjBase := by
  have husable : el.toObjBase.Usable := by
    rw [h.counted info el hel]
    split
    · exact ObjBase.usable_acquired
    · exact Or.inr (by decide)
  obtain ⟨b', hinc, hdec, hlast, -⟩ := ObjBase.inc_of_usable husable
  refine ⟨b', incLstInfoK_eq hel hinc, fun t el' hel' hbase => ?_⟩
  subst hbase
  rw [decLstInfoK_of_not_last hel' hlast, hdec]

/-- A call that only looks at an element. -/
theorem Linked.inc_dec (h : s.Linked) (hel : s.lstInfoK.get info = some el) :
    ∃ b', s.incLstInfoK info = some (s.rebaseInfo info b') ∧
      (s.rebaseInfo info b').decLstInfoK info = s := by
  obtain ⟨b', hinc, hdec⟩ := h.inc_dec_lstInfoK hel
  refine ⟨b', hinc, ?_⟩
  rw [hdec _ _ (get_rebaseInfo hel b') rfl, rebaseInfo_rebaseInfo, rebaseInfo_eq_self hel]

/-- A call that takes a reference to a list and gives it up. -/
theorem inc_dec_lstK (cleanup : ℕ → DevLists → Option DevLists) (hb : s.base list = some b)
    (husable : b.Usable) :
    ∃ b', s.incLstK list = some (s.rebase list b') ∧
      ∀ t : DevLists, t.base list = some b' → t.decLstK cleanup list = some (t.rebase list b) := by
  obtain ⟨b', hinc, hdec, hlast, -⟩ := incLstK_of_usable hb husable
  refine ⟨b', hinc, fun t ht => ?_⟩
  rw [decLstK_of_not_last ht hlast, hdec]

/-- A call that takes a reference to a list and one to an element, and gives both up. -/
theorem Linked.inc_dec_both (h : s.Linked) (cleanup : ℕ → DevLists → Option DevLists)
    (hb : s.base list = some b) (husable : b.Usable) (hel : s.lstInfoK.get info = some el) :
    ∃ t u, s.incLstK list = some t ∧ t.incLstInfoK info = some u ∧
      u.devListHandle info = s.devListHandle info ∧
      (u.decLstInfoK info).decLstK cleanup list = some s := by
  obtain ⟨b', hinc, hdec⟩ := inc_dec_lstK cleanup hb husable
  obtain ⟨e', hincInfo, hdecInfo⟩ := (h.rebase list b').inc_dec hel
  refine ⟨_, _, hinc, hincInfo, devListHandle_rebaseInfo hel e', ?_⟩
  rw [hdecInfo, hdec _ (base_rebase_self hb), rebase_rebase, rebase_eq_self hb]

/-- The counts of a list are as they were, and its chain is changed. -/
theorem modify_rebased {b b' : ObjBase} (hb : s.base list = some b) (g : List ℕ → List ℕ) :
    (((s.lstK.modify list fun l => { l with toObjBase := b' }).modify list fun l =>
        { l with head := g l.head }).modify list fun l => { l with toObjBase := b }) =
      s.lstK.modify list fun l => { l with head := g l.head } := by
  rw [Objects.modify_modify, Objects.modify_modify]
  refine Objects.modify_congr fun l hl => ?_
  unfold base at hb
  rw [hl, Option.map_some, Option.some_inj] at hb
  rw [← hb]
  rfl

/-- The reference of a call and the one of the list are given up. -/
theorem dec_dec_lstInfoK (hel : s.lstInfoK.get info = some el)
    (hbase : el.toObjBase = ⟨3, false⟩) :
    (s.decLstInfoK info).decLstInfoK info = s.rebaseInfo info .acquired := by
  have hlast : ¬el.Last := by
    rw [hbase]
    decide
  have hdec : el.toObjBase.dec = .attached := by
    rw [hbase]
    rfl
  rw [decLstInfoK_of_not_last hel hlast, hdec,
    decLstInfoK_of_not_last (get_rebaseInfo hel .attached) ObjBase.not_last_attached,
    rebaseInfo_rebaseInfo]
  rfl

theorem lstKDetachInfo_of_attached (h : s.Linked) (hb : s.base list = some b) (husable : b.Usable)
    (hel : s.lstInfoK.get info = some el) (hlist : s.devListHandle info = some list) :
    s.lstKDetachInfo cleanup list info = some (true, s.unlink list info) := by
  obtain ⟨b', hinc, hdec⟩ := inc_dec_lstK cleanup hb husable
  have hbase : el.toObjBase = .attached := h.toObjBase_of_some hel (by simp [hlist])
  have hincInfo : (s.rebase list b').incLstInfoK info =
      some ((s.rebase list b').rebaseInfo info ⟨3, false⟩) :=
    incLstInfoK_eq hel (by rw [hbase]; exact ObjBase.inc_attached)
  have hhandle : ((s.rebase list b').rebaseInfo info ⟨3, false⟩).devListHandle info = some list :=
    (devListHandle_rebaseInfo hel _).trans hlist
  unfold lstKDetachInfo
  rw [hinc]
  dsimp only
  rw [hincInfo]
  dsimp only
  rw [if_pos hhandle]
  have hget := get_onLstInfoK (get_rebaseInfo (s := s.rebase list b') hel ⟨3, false⟩)
    fun el => { el with devListHandle := none }
  -- the element is in the chain
  have hmem : info ∈ (((s.rebase list b').rebaseInfo info ⟨3, false⟩).onLstInfoK info fun el =>
      { el with devListHandle := none }).chain list := by
    change info ∈ (s.rebase list b').chain list
    rw [chain_rebase]
    exact (h.mem_chain list info).mpr hlist
  unfold dlDelete
  rw [if_pos hmem, Option.bind_some, dec_dec_lstInfoK ?_ ?_, hdec, Option.map_some]
  · congr 2
    ext1
    · exact modify_rebased hb fun head => head.erase info
    · change (((s.lstInfoK.modify info _).modify info _).modify info _) = s.lstInfoK.modify info _
      rw [Objects.modify_modify, Objects.modify_modify]
      rfl
  · exact (base_onHead (fun head => head.erase info) list).trans (base_rebase_self hb)
  · exact { el with toObjBase := ⟨3, false⟩, devListHandle := none }
  · exact hget
  · rfl

theorem lstKDetachInfo_of_not_attached (h : s.Linked) (hb : s.base list = some b)
    (husable : b.Usable) (hel : s.lstInfoK.get info = some el)
    (hne : s.devListHandle info ≠ some list) :
    s.lstKDetachInfo cleanup list info = some (false, s) := by
  obtain ⟨t, u, hinc, hincInfo, hhandle, hdec⟩ := h.inc_dec_both cleanup hb husable hel
  unfold lstKDetachInfo
  rw [hinc]
  dsimp only
  rw [hincInfo]
  dsimp only
  rw [if_neg (hhandle ▸ hne), hdec, Option.map_some]

theorem lstKAttachInfo_of_detached (h : s.Linked) (hb : s.base list = some b) (husable : b.Usable)
    (hel : s.lstInfoK.get info = some el) (hnone : s.devListHandle info = none) :
    s.lstKAttachInfo cleanup list info = some (true, s.link list info) := by
  obtain ⟨b', hinc, hdec⟩ := inc_dec_lstK cleanup hb husable
  have hbase : el.toObjBase = .acquired := h.toObjBase_of_none hel hnone
  have hincInfo : (s.rebase list b').incLstInfoK info =
      some ((s.rebase list b').rebaseInfo info .attached) :=
    incLstInfoK_eq hel (by rw [hbase]; exact ObjBase.inc_acquired)
  have hhandle : ((s.rebase list b').rebaseInfo info .attached).devListHandle info = none :=
    (devListHandle_rebaseInfo hel _).trans hnone
  unfold lstKAttachInfo
  rw [hinc]
  dsimp only
  rw [hincInfo]
  dsimp only
  rw [if_pos hhandle, hdec, Option.map_some]
  · congr 2
    ext1
    · exact modify_rebased hb fun head => head ++ [info]
    · change ((s.lstInfoK.modify info _).modify info _) = s.lstInfoK.modify info _
      rw [Objects.modify_modify]
      rfl
  · exact (base_onHead (fun head => head ++ [info]) list).trans (base_rebase_self hb)

theorem lstKAttachInfo_of_attached (h : s.Linked) (hb : s.base list = some b) (husable : b.Usable)
    (hel : s.lstInfoK.get info = some el) (hne : s.devListHandle info ≠ none) :
    s.lstKAttachInfo cleanup list info = some (false, s) := by
  obtain ⟨t, u, hinc, hincInfo, hhandle, hdec⟩ := h.inc_dec_both cleanup hb husable hel
  unfold lstKAttachInfo
  rw [hinc]
  dsimp only
  rw [hincInfo]
  dsimp only
  rw [if_neg (hhandle ▸ hne), hdec, Option.map_some]

theorem lstKFreeInfo_of_detached (h : s.Linked) (hel : s.lstInfoK.get info = some el)
    (hnone : s.devListHandle info = none) :
    s.lstKFreeInfo info = (true, s.dropInfo info) := by
  have hbase : el.toObjBase = .acquired := h.toObjBase_of_none hel hnone
  have hlast : el.Last := by
    rw [hbase]
    decide
  obtain ⟨e', hincInfo, hdecInfo⟩ := h.inc_dec hel
  unfold lstKFreeInfo
  rw [hincInfo]
  dsimp only
  rw [if_pos ((devListHandle_rebaseInfo hel _).trans hnone), hdecInfo,
    decLstInfoK_of_last hel hlast]

theorem lstKFreeInfo_of_attached (h : s.Linked) (hel : s.lstInfoK.get info = some el)
    (hne : s.devListHandle info ≠ none) : s.lstKFreeInfo info = (false, s) := by
  obtain ⟨e', hincInfo, hdecInfo⟩ := h.inc_dec hel
  have hhandle : (s.rebaseInfo info e').devListHandle info ≠ none := by
    rw [devListHandle_rebaseInfo hel]
    exact hne
  unfold lstKFreeInfo
  rw [hincInfo]
  dsimp only
  rw [if_neg hhandle, hdecInfo]

theorem lstKCloneInfo_of_live (h : s.Linked) (hel : s.lstInfoK.get info = some el)
    (refused : Bool) :
    s.lstKCloneInfo info refused =
      if refused then (none, s) else (some s.lstInfoK.next, s.addInfo el.info) := by
  obtain ⟨e', hincInfo, hdecInfo⟩ := h.inc_dec_lstInfoK hel
  unfold lstKCloneInfo
  rw [hincInfo, hel]
  dsimp only
  cases refused with
  | true =>
    rw [if_pos rfl, if_pos rfl, hdecInfo _ _ (get_rebaseInfo hel e') rfl, rebaseInfo_rebaseInfo,
      rebaseInfo_eq_self hel]
  | false =>
    rw [if_neg Bool.false_ne_true, if_neg Bool.false_ne_true]
    have hne : info ≠ s.lstInfoK.next := Nat.ne_of_lt (s.lstInfoK.lt_next_of_get hel)
    congr 1
    have hget := (Objects.get_create_of_ne (s.rebaseInfo info e').lstInfoK
      { toObjBase := .acquired, devListHandle := none, info := el.info } hne).trans
      (get_rebaseInfo hel e')
    rw [hdecInfo _ _ hget rfl]
    ext1
    · rfl
    · change ((s.lstInfoK.modify info _).create _).modify info _ = s.lstInfoK.create _
      rw [← Objects.modify_create_of_ne hne, Objects.modify_modify, Objects.modify_create_of_ne hne,
        Objects.modify_eq_self]
      intro x hx
      rw [hel] at hx
      cases hx
      rfl

end Calls

end DevLists

end LibusbK
