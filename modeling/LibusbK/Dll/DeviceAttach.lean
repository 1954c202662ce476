import LibusbK.Dll.DeviceLinks

/-!
# Enumerating, making and freeing lists

The calls on whole lists are enumerations of calls on one element, and so is the
cleanup of a list.

## Main definitions

* `DevLists.Frame` — what the elements of other lists see of an enumeration.
* `DevLists.Released`, `DevLists.Built` — what is left when a list is freed, and what
  is there when one is made.

## Main results

* `lstKEnumerate_of_run`, `lstKEnumerate_frame` — an enumeration does what its callback does.
* `decLstK_of_acquired` — the last reference to a list frees its elements.
* `lstKInitInternal_spec` — a new list, or nothing.
-/

namespace LibusbK

namespace DevLists

variable {s t u : DevLists} {list info dst : ℕ} {b : ObjBase}

/-! ### What an enumeration leaves as it is -/

/-- No count of a list has changed, no element is gone, and an element that names a list
named it before, unless the list is `dst`. -/
structure Frame (dst : ℕ) (s t : DevLists) : Prop where
  base : t.base = s.base
  live : ∀ info, (s.lstInfoK.get info).isSome → (t.lstInfoK.get info).isSome
  moved : ∀ info list, t.devListHandle info = some list →
    list = dst ∨ s.devListHandle info = some list

theorem Frame.refl (dst : ℕ) (s : DevLists) : Frame dst s s :=
  ⟨rfl, fun _ h => h, fun _ _ h => Or.inr h⟩

theorem Frame.trans (h : Frame dst s t) (h' : Frame dst t u) : Frame dst s u where
  base := h'.base.trans h.base
  live info hlive := h'.live info (h.live info hlive)
  moved info list hlist := by
    rcases h'.moved info list hlist with heq | hlist
    · exact Or.inl heq
    · exact h.moved info list hlist

theorem Frame.rebase (h : Frame dst (s.rebase list b) t) {b' : ObjBase}
    (hb : s.base list = some b') : Frame dst s (t.rebase list b') where
  base := by
    have hold : t.base list = some b := by
      rw [h.base]
      exact base_rebase_self hb
    funext other
    by_cases heq : other = list
    · rw [heq, base_rebase_self hold, hb]
    · rw [base_rebase_of_ne _ heq, h.base, base_rebase_of_ne _ heq]
  live := h.live
  moved := h.moved

/-- A list that can be used before an enumeration can be used inside it. -/
theorem Frame.usable (h : Frame dst (s.rebase list b) t) (hnew : b.Usable) {other : ℕ}
    {c : ObjBase} (hc : s.base other = some c) (husable : c.Usable) :
    ∃ c', t.base other = some c' ∧ c'.Usable := by
  rw [h.base]
  by_cases heq : other = list
  · subst heq
    exact ⟨b, base_rebase_self hc, hnew⟩
  · exact ⟨c, (base_rebase_of_ne b heq).trans hc, husable⟩

theorem isSome_get_onLstInfoK (f : DevInfoEL → DevInfoEL) (other : ℕ) :
    ((s.onLstInfoK info f).lstInfoK.get other).isSome = (s.lstInfoK.get other).isSome := by
  unfold onLstInfoK
  rw [Objects.get_modify]
  split
  · rw [Option.isSome_map]
  · rfl

section Changes

variable {el : DevInfoEL}

theorem frame_link (hel : s.lstInfoK.get info = some el) : Frame list s (s.link list info) where
  base := by
    funext other
    exact base_onHead (fun head => head ++ [info]) other
  live other hlive := (@isSome_get_onLstInfoK s info _ other).trans hlive
  moved other l hl := by
    rw [devListHandle_link hel] at hl
    split at hl
    · exact Or.inl (Option.some_inj.mp hl).symm
    · exact Or.inr hl

theorem frame_unlink (hel : s.lstInfoK.get info = some el) (dst : ℕ) :
    Frame dst s (s.unlink list info) where
  base := by
    funext other
    exact base_onHead (fun head => head.erase info) other
  live other hlive := (@isSome_get_onLstInfoK s info _ other).trans hlive
  moved other l hl := by
    rw [devListHandle_unlink hel] at hl
    split at hl
    · cases hl
    · exact Or.inr hl

theorem frame_addInfo (d : DevInfo) (dst : ℕ) : Frame dst s (s.addInfo d) where
  base := rfl
  live other hlive := by
    have hne : other ≠ s.lstInfoK.next := by
      intro heq
      rw [heq, s.lstInfoK.get_of_le _ (Nat.le_refl _)] at hlive
      cases hlive
    unfold addInfo
    rw [Objects.get_create_of_ne _ _ hne]
    exact hlive
  moved other _ hl := Or.inr ((devListHandle_addInfo d other).symm.trans hl)

/-- A change of what an element says of its device. -/
def editInfo (s : DevLists) (info : ℕ) (f : DevInfo → DevInfo) : DevLists :=
  s.onLstInfoK info fun el => { el with info := f el.info }

theorem devListHandle_editInfo (f : DevInfo → DevInfo) (other : ℕ) :
    (s.editInfo info f).devListHandle other = s.devListHandle other := by
  unfold devListHandle editInfo onLstInfoK
  rw [Objects.get_modify]
  split
  · rw [Option.bind_map]
    rfl
  · rfl

theorem Linked.editInfo (h : s.Linked) (f : DevInfo → DevInfo) : (s.editInfo info f).Linked where
  nodup := h.nodup
  mem_chain other i := by
    rw [devListHandle_editInfo]
    exact h.mem_chain other i
  counted := h.counted_onLstInfoK fun el hel => h.counted info el hel

theorem frame_editInfo (f : DevInfo → DevInfo) (dst : ℕ) : Frame dst s (s.editInfo info f) where
  base := rfl
  live other hlive := (@isSome_get_onLstInfoK s info _ other).trans hlive
  moved other _ hl := Or.inr ((devListHandle_editInfo f other).symm.trans hl)

end Changes

/-! ### Enumerations -/

/-- A callback that can be run on the elements `xs` from `s` on. -/
def Framed (dst : ℕ) (cb : ℕ → DevLists → Option (Bool × DevLists)) (s : DevLists)
    (xs : List ℕ) : Prop :=
  ∀ x ∈ xs, ∀ t, t.Linked → Frame dst s t →
    ∃ more t', cb x t = some (more, t') ∧ t'.Linked ∧ Frame dst t t'

theorem foreachSafe_frame {cb : ℕ → DevLists → Option (Bool × DevLists)} (xs : List ℕ) :
    ∀ {s : DevLists}, s.Linked → Framed dst cb s xs →
      ∃ t, foreachSafe cb xs s = some t ∧ t.Linked ∧ Frame dst s t := by
  induction xs with
  | nil => exact fun h _ => ⟨_, rfl, h, .refl dst _⟩
  | cons x xs ih =>
    intro s h hcb
    obtain ⟨more, t, hx, ht, hframe⟩ := hcb x List.mem_cons_self s h (.refl dst s)
    unfold foreachSafe
    rw [hx, Option.bind_some]
    cases more with
    | false => exact ⟨t, rfl, ht, hframe⟩
    | true =>
      have hrest : Framed dst cb t xs := fun y hy u hu htu =>
        hcb y (List.mem_cons_of_mem x hy) u hu (hframe.trans htu)
      obtain ⟨u, hrun, hu, htu⟩ := ih ht hrest
      exact ⟨u, hrun, hu, hframe.trans htu⟩

/-- An enumeration of a list that can be used, whose callbacks give up what they take. -/
theorem lstKEnumerate_of_run (cleanup : ℕ → DevLists → Option DevLists)
    {cb : ℕ → DevLists → Option (Bool × DevLists)} {R : DevLists → DevLists → Prop}
    (hbase : ∀ s t, R s t → t.base = s.base) (hb : s.base list = some b) (husable : b.Usable)
    (hrun : ∀ b' : ObjBase, b'.Usable → ∃ t,
      foreachSafe cb (s.chain list) (s.rebase list b') = some t ∧ R (s.rebase list b') t) :
    ∃ b' t, R (s.rebase list b') t ∧
      s.lstKEnumerate cleanup cb list = some (true, t.rebase list b) := by
  obtain ⟨b', hinc, hdec, hlast, hnew⟩ := incLstK_of_usable hb husable
  obtain ⟨t, ht, hR⟩ := hrun b' hnew
  have hdone : t.base list = some b' := by
    rw [hbase _ _ hR]
    exact base_rebase_self hb
  refine ⟨b', t, hR, ?_⟩
  unfold lstKEnumerate
  rw [hinc]
  dsimp only
  rw [chain_rebase, ht, Option.bind_some, decLstK_of_not_last hdone hlast, hdec, Option.map_some]

/-- An enumeration whose callbacks can be run. -/
theorem lstKEnumerate_frame (cleanup : ℕ → DevLists → Option DevLists) (dst : ℕ)
    {cb : ℕ → DevLists → Option (Bool × DevLists)} (h : s.Linked) (hb : s.base list = some b)
    (husable : b.Usable)
    (hcb : ∀ b' : ObjBase, b'.Usable → Framed dst cb (s.rebase list b') (s.chain list)) :
    ∃ t, s.lstKEnumerate cleanup cb list = some (true, t) ∧ t.Linked ∧ Frame dst s t := by
  obtain ⟨b', t, ⟨ht, hframe⟩, hrun⟩ := lstKEnumerate_of_run cleanup
    (R := fun s t => t.Linked ∧ Frame dst s t) (fun _ _ hR => hR.2.base) hb husable
    fun b' hb' => foreachSafe_frame (s.chain list) (h.rebase list b') (hcb b' hb')
  exact ⟨t.rebase list b, hrun, ht.rebase list b, hframe.rebase hb⟩

/-! ### One element inside an enumeration -/

section Element

variable {el : DevInfoEL} (cleanup : ℕ → DevLists → Option DevLists)

theorem lstKDetachInfo_frame (h : s.Linked) (hb : s.base list = some b) (husable : b.Usable)
    (hel : s.lstInfoK.get info = some el) (dst : ℕ) :
    ∃ success t, s.lstKDetachInfo cleanup list info = some (success, t) ∧ t.Linked ∧
      Frame dst s t := by
  by_cases hlist : s.devListHandle info = some list
  · exact ⟨true, s.unlink list info, lstKDetachInfo_of_attached h hb husable hel hlist,
      h.unlink hb hel hlist, frame_unlink hel dst⟩
  · exact ⟨false, s, lstKDetachInfo_of_not_attached h hb husable hel hlist, h, .refl dst s⟩

theorem lstKAttachInfo_frame (h : s.Linked) (hb : s.base list = some b) (husable : b.Usable)
    (hel : s.lstInfoK.get info = some el) :
    ∃ success t, s.lstKAttachInfo cleanup list info = some (success, t) ∧ t.Linked ∧
      Frame list s t := by
  by_cases hnone : s.devListHandle info = none
  · exact ⟨true, s.link list info, lstKAttachInfo_of_detached h hb husable hel hnone,
      h.link hb hel hnone, frame_link hel⟩
  · exact ⟨false, s, lstKAttachInfo_of_attached h hb husable hel hnone, h, .refl list s⟩

end Element

/-! ### Freeing a list -/

/-- What is left when a list is freed: the elements that named it are gone, and everything
else is as it was. -/
structure Released (list : ℕ) (s t : DevLists) : Prop where
  linked : t.Linked
  lists : t.lstK.get = Function.update s.lstK.get list none
  freed : ∀ info, s.devListHandle info = some list → t.lstInfoK.get info = none
  kept : ∀ info, s.devListHandle info ≠ some list → t.lstInfoK.get info = s.lstInfoK.get info

theorem Released.base (h : Released list s t) (other : ℕ) :
    t.base other = if other = list then none else s.base other := by
  unfold DevLists.base
  rw [h.lists]
  split
  next heq =>
    rw [heq, Function.update_self]
    rfl
  next hne => rw [Function.update_of_ne hne]

/-- The cleanup of a list, from an element of the list on. -/
theorem foreachSafe_freeAll (cleanup : ℕ → DevLists → Option DevLists) (xs : List ℕ) :
    ∀ {s : DevLists}, s.Linked → s.base list = some ⟨0, true⟩ → s.chain list = xs →
      ∃ t, foreachSafe (devEnumFreeAll cleanup list) xs s = some t ∧ t.Linked ∧
        t.base list = some ⟨0, true⟩ ∧ t.chain list = [] ∧
        (∀ other, other ≠ list → t.lstK.get other = s.lstK.get other) ∧
        (∀ info, info ∈ xs → t.lstInfoK.get info = none) ∧
        ∀ info, info ∉ xs → t.lstInfoK.get info = s.lstInfoK.get info := by
  induction xs with
  | nil =>
    intro s h hb hchain
    exact ⟨s, rfl, h, hb, hchain, fun _ _ => rfl, fun _ hmem => absurd hmem List.not_mem_nil,
      fun _ _ => rfl⟩
  | cons x xs ih =>
    intro s h hb hchain
    have hlist : s.devListHandle x = some list := by
      rw [← h.mem_chain, hchain]
      exact List.mem_cons_self
    obtain ⟨el, hel, -⟩ := Option.bind_eq_some_iff.mp hlist
    have hfirst := h.unlink hb hel hlist
    have hnone : (s.unlink list x).devListHandle x = none := by
      rw [devListHandle_unlink hel, if_pos rfl]
    have hcb : devEnumFreeAll cleanup list x s = some (true, (s.unlink list x).dropInfo x) := by
      unfold devEnumFreeAll
      rw [lstKDetachInfo_of_attached h hb (Or.inl rfl) hel hlist, Option.map_some]
      dsimp only
      rw [lstKFreeInfo_of_detached hfirst (get_onLstInfoK hel _) hnone]
    have hnext : ((s.unlink list x).dropInfo x).chain list = xs := by
      refine (chain_unlink hb list).trans ?_
      rw [if_pos rfl, hchain, List.erase_cons_head]
    have hbase : ((s.unlink list x).dropInfo x).base list = some ⟨0, true⟩ :=
      (base_onHead (fun head => head.erase x) list).trans hb
    obtain ⟨t, hrun, ht, htb, htchain, hothers, hgone, hkept⟩ :=
      ih (hfirst.dropInfo hnone) hbase hnext
    have hget : ∀ info, info ≠ x →
        ((s.unlink list x).dropInfo x).lstInfoK.get info = s.lstInfoK.get info := by
      intro info hne
      unfold dropInfo unlink
      rw [Objects.get_delete_of_ne _ hne, Objects.get_modify_of_ne _ _ hne]
    refine ⟨t, ?_, ht, htb, htchain, fun other hne => ?_, fun info hmem => ?_, fun info hmem => ?_⟩
    · unfold foreachSafe
      rw [hcb, Option.bind_some]
      exact hrun
    · rw [hothers other hne]
      exact Objects.get_modify_of_ne _ _ hne
    · by_cases hxs : info ∈ xs
      · exact hgone info hxs
      · obtain rfl := (List.mem_cons.mp hmem).resolve_right hxs
        rw [hkept info hxs]
        exact Objects.get_delete_self _ _
    · rw [hkept info fun hxs => hmem (List.mem_cons_of_mem x hxs)]
      exact hget info fun heq => hmem (heq ▸ List.mem_cons_self)

/-- A list that holds no element is released. -/
theorem Linked.delete_lstK (h : s.Linked) (hempty : s.chain list = []) :
    ({ s with lstK := s.lstK.delete list } : DevLists).Linked := by
  have hchain : ∀ other, ({ s with lstK := s.lstK.delete list } : DevLists).chain other =
      s.chain other := by
    intro other
    by_cases heq : other = list
    · rw [heq, hempty]
      unfold chain
      rw [Objects.get_delete_self]
      rfl
    · unfold chain
      rw [Objects.get_delete_of_ne _ heq]
  refine ⟨fun other => ?_, fun other info => ?_, h.counted⟩
  · rw [hchain]
    exact h.nodup other
  · rw [hchain]
    exact h.mem_chain other info

/-- The last reference to a list frees the elements it holds. -/
theorem decLstK_of_acquired (h : s.Linked) (hb : s.base list = some .acquired) :
    ∃ t, s.decLstK cleanupDeviceList list = some t ∧ Released list s t := by
  obtain ⟨l, hl, hlb⟩ := Option.map_eq_some_iff.mp hb
  have hbase : (s.rebase list ⟨0, true⟩).base list = some ⟨0, true⟩ := base_rebase_self hb
  obtain ⟨t, hrun, ht, htb, htchain, hothers, hgone, hkept⟩ :=
    foreachSafe_freeAll (fun _ _ => none) (s.chain list) (h.rebase list ⟨0, true⟩) hbase
      (chain_rebase _ _)
  have hcleanup : cleanupDeviceList list (s.rebase list ⟨0, true⟩) = some t := by
    unfold cleanupDeviceList lstKEnumerate
    rw [incLstK_of_disposing hbase rfl]
    dsimp only
    rw [chain_rebase, hrun, Option.bind_some, decLstK_of_disposing htb rfl, Option.map_some,
      Option.map_some]
  refine ⟨{ t with lstK := t.lstK.delete list }, ?_, ?_⟩
  · have hlast : l.Last := by
      rw [hlb]
      decide
    have hstart : (s.onLstK list fun l => { l with toObjBase := l.dec }) =
        s.rebase list ⟨0, true⟩ := by
      unfold rebase onLstK
      rw [Objects.modify_congr fun x hx => ?_]
      rw [hl] at hx
      cases hx
      rw [hlb]
      rfl
    unfold decLstK
    rw [hl]
    dsimp only
    rw [if_pos hlast, hstart, hcleanup, Option.map_some]
  · refine ⟨ht.delete_lstK htchain, ?_, fun info hinfo => ?_, fun info hinfo => ?_⟩
    · funext other
      by_cases heq : other = list
      · rw [heq, Function.update_self]
        exact Objects.get_delete_self _ _
      · rw [Function.update_of_ne heq]
        refine (Objects.get_delete_of_ne _ heq).trans ((hothers other heq).trans ?_)
        exact Objects.get_modify_of_ne _ _ heq
    · exact hgone info ((h.mem_chain list info).mpr hinfo)
    · exact hkept info fun hmem => hinfo ((h.mem_chain list info).mp hmem)

/-! ### Making a list -/

/-- The same lists with the same elements. -/
structure Same (s t : DevLists) : Prop where
  lists : t.lstK.get = s.lstK.get
  infos : t.lstInfoK.get = s.lstInfoK.get

theorem Same.refl (s : DevLists) : Same s s := ⟨rfl, rfl⟩

theorem Same.rebase (h : Same (s.rebase list b) t) {b' : ObjBase} (hb : s.base list = some b') :
    Same s (t.rebase list b') where
  lists := by
    obtain ⟨l, hl, rfl⟩ := Option.map_eq_some_iff.mp hb
    funext other
    unfold DevLists.rebase onLstK at h ⊢
    rw [Objects.get_modify, h.lists, Objects.get_modify]
    split
    next heq =>
      rw [heq, hl]
      rfl
    · rfl
  infos := h.infos

theorem Linked.of_same (h : s.Linked) (hsame : Same s t) : t.Linked := by
  have hchain : ∀ list, t.chain list = s.chain list := by
    intro list
    unfold chain
    rw [hsame.lists]
  have hhandle : ∀ info, t.devListHandle info = s.devListHandle info := by
    intro info
    unfold devListHandle
    rw [hsame.infos]
  refine ⟨fun list => ?_, fun list info => ?_, fun info el hel => ?_⟩
  · rw [hchain]
    exact h.nodup list
  · rw [hchain, hhandle]
    exact h.mem_chain list info
  · rw [hsame.infos] at hel
    exact h.counted info el hel

theorem base_acquireLstK_self (s : DevLists) :
    s.acquireLstK.base s.lstK.next = some .acquired := by
  unfold base acquireLstK
  rw [Objects.get_create_self]
  rfl

theorem base_acquireLstK_of_ne {other : ℕ} (h : other ≠ s.lstK.next) :
    s.acquireLstK.base other = s.base other := by
  unfold base acquireLstK
  rw [Objects.get_create_of_ne _ _ h]

theorem base_next (s : DevLists) : s.base s.lstK.next = none := by
  unfold base
  rw [s.lstK.get_of_le _ (Nat.le_refl _)]
  rfl

/-- A list that is there is not the next one. -/
theorem ne_next_of_base (h : s.base list = some b) : list ≠ s.lstK.next := by
  intro heq
  rw [heq, base_next] at h
  cases h

theorem chain_next (s : DevLists) : s.chain s.lstK.next = [] := by
  unfold chain
  rw [s.lstK.get_of_le _ (Nat.le_refl _)]
  rfl

theorem chain_acquireLstK (other : ℕ) : s.acquireLstK.chain other = s.chain other := by
  by_cases heq : other = s.lstK.next
  · rw [heq, chain_next]
    unfold chain acquireLstK
    rw [Objects.get_create_self]
    rfl
  · unfold chain acquireLstK
    rw [Objects.get_create_of_ne _ _ heq]

theorem Linked.acquireLstK (h : s.Linked) : s.acquireLstK.Linked where
  nodup other := by
    rw [chain_acquireLstK]
    exact h.nodup other
  mem_chain other info := by
    rw [chain_acquireLstK]
    exact h.mem_chain other info
  counted := h.counted

theorem buildAddElement_eq (s : DevLists) (list : ℕ) (item : TempItem) :
    s.buildAddElement list item = (s.addInfo item.devInfo).link list s.lstInfoK.next := by
  have hget : (s.addInfo item.devInfo).lstInfoK.get s.lstInfoK.next =
      some { toObjBase := .acquired, devListHandle := none, info := item.devInfo } :=
    Objects.get_create_self _ _
  have hinc : (s.addInfo item.devInfo).incLstInfoK s.lstInfoK.next =
      some ((s.addInfo item.devInfo).rebaseInfo s.lstInfoK.next .attached) :=
    incLstInfoK_eq hget ObjBase.inc_acquired
  change (((((s.addInfo item.devInfo).incLstInfoK s.lstInfoK.next).getD
    (s.addInfo item.devInfo)).onLstInfoK s.lstInfoK.next _).dlAppend list s.lstInfoK.next) = _
  rw [hinc, Option.getD_some]
  ext1
  · rfl
  · exact Objects.modify_modify

/-- Elements are added to a list that is made; the others are as they were. -/
structure Built (list : ℕ) (s t : DevLists) : Prop where
  linked : t.Linked
  base : t.base = s.base
  others : ∀ other, other ≠ list → t.lstK.get other = s.lstK.get other
  old : ∀ info, (s.lstInfoK.get info).isSome → t.lstInfoK.get info = s.lstInfoK.get info
  new : ∀ info, s.lstInfoK.get info = none →
    t.lstInfoK.get info = none ∨ t.devListHandle info = some list

theorem Built.refl (h : s.Linked) (list : ℕ) : Built list s s :=
  ⟨h, rfl, fun _ _ => rfl, fun _ _ => rfl, fun _ hnone => Or.inl hnone⟩

theorem Built.trans (h : Built list s t) (h' : Built list t u) : Built list s u where
  linked := h'.linked
  base := h'.base.trans h.base
  others other hne := (h'.others other hne).trans (h.others other hne)
  old info hlive := by
    have hold := h.old info hlive
    exact (h'.old info (hold ▸ hlive)).trans hold
  new info hnone := by
    rcases h.new info hnone with hnone | hlist
    · exact h'.new info hnone
    · obtain ⟨el, hel, -⟩ := Option.bind_eq_some_iff.mp hlist
      right
      unfold devListHandle
      rw [h'.old info (by simp [hel])]
      exact hlist

theorem built_buildAddElement (h : s.Linked) (hb : s.base list = some b) (item : TempItem) :
    Built list s (s.buildAddElement list item) := by
  have hget : (s.addInfo item.devInfo).lstInfoK.get s.lstInfoK.next =
      some { toObjBase := .acquired, devListHandle := none, info := item.devInfo } :=
    Objects.get_create_self _ _
  have hnone : (s.addInfo item.devInfo).devListHandle s.lstInfoK.next = none := by
    rw [devListHandle_addInfo, devListHandle_next]
  have hother : ∀ info, info ≠ s.lstInfoK.next →
      ((s.addInfo item.devInfo).link list s.lstInfoK.next).lstInfoK.get info =
        s.lstInfoK.get info := by
    intro info hne
    exact (Objects.get_modify_of_ne _ _ hne).trans (Objects.get_create_of_ne _ _ hne)
  rw [buildAddElement_eq]
  refine ⟨(h.addInfo _).link hb hget hnone, ?_, fun other hne => ?_, fun info hlive => ?_,
    fun info hdead => ?_⟩
  · funext other
    exact base_onHead (fun head => head ++ [s.lstInfoK.next]) other
  · exact Objects.get_modify_of_ne _ _ hne
  · refine hother info fun heq => ?_
    rw [heq, s.lstInfoK.get_of_le _ (Nat.le_refl _)] at hlive
    cases hlive
  · by_cases heq : info = s.lstInfoK.next
    · right
      rw [devListHandle_link hget, if_pos heq]
    · exact Or.inl ((hother info heq).trans hdead)

theorem built_foldl (items : List TempItem) :
    ∀ {s : DevLists}, s.Linked → s.base list = some b →
      Built list s (items.foldl (fun s item => s.buildAddElement list item) s) := by
  induction items with
  | nil => exact fun h _ => .refl h list
  | cons item items ih =>
    intro s h hb
    have hfirst := built_buildAddElement h hb item
    exact hfirst.trans (ih hfirst.linked (by rw [hfirst.base, hb]))

/-- A list that is made and given up again leaves no trace. -/
theorem Released.same (h : s.Linked) (hbuilt : Built s.lstK.next s.acquireLstK t)
    (hfree : Released s.lstK.next t u) : Same s u := by
  constructor
  · funext other
    rw [hfree.lists]
    by_cases heq : other = s.lstK.next
    · rw [heq, Function.update_self, s.lstK.get_of_le _ (Nat.le_refl _)]
    · rw [Function.update_of_ne heq, hbuilt.others other heq]
      exact Objects.get_create_of_ne _ _ heq
  · funext info
    cases hget : s.lstInfoK.get info with
    | none =>
      rcases hbuilt.new info hget with hnone | hlist
      · have hne : t.devListHandle info ≠ some s.lstK.next := by
          unfold devListHandle
          simp [hnone]
        rw [hfree.kept info hne, hnone]
      · exact hfree.freed info hlist
    | some el =>
      have hold : t.lstInfoK.get info = some el := by
        rw [hbuilt.old info (by simp [acquireLstK, hget])]
        exact hget
      have hne : t.devListHandle info ≠ some s.lstK.next := by
        intro heq
        rw [devListHandle_eq hold, ← devListHandle_eq hget, ← h.mem_chain, chain_next] at heq
        cases heq
      rw [hfree.kept info hne, hold]

/-- A new list, or nothing. -/
theorem lstKInitInternal_spec (h : s.Linked) (outcome : InitOutcome) :
    ∃ list t, s.lstKInitInternal outcome = some (list, t) ∧
      (list = none ∧ Same s t ∨ list = some s.lstK.next ∧ Built s.lstK.next s.acquireLstK t) := by
  cases outcome with
  | noHandle => exact ⟨none, s, rfl, Or.inl ⟨rfl, .refl s⟩⟩
  | built items success =>
    have hbuilt := built_foldl items h.acquireLstK (base_acquireLstK_self s)
    cases success with
    | true => exact ⟨_, _, rfl, Or.inr ⟨rfl, hbuilt⟩⟩
    | false =>
      obtain ⟨u, hdec, hfree⟩ := decLstK_of_acquired hbuilt.linked
        (by rw [hbuilt.base, base_acquireLstK_self])
      refine ⟨none, u, ?_, Or.inl ⟨rfl, hfree.same h hbuilt⟩⟩
      unfold lstKInitInternal
      dsimp only
      rw [if_neg Bool.false_ne_true, hdec, Option.map_some]

end DevLists

end LibusbK
