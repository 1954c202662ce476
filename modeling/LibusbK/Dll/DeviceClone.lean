import Mathlib.Data.List.Forall2
import Mathlib.Data.List.TakeWhile
import LibusbK.Dll.DeviceCalls

/-!
# Cloning a list

`LstK_Clone` enumerates the source list with `l_DevEnum_Clone_All`, which stops at the first
element it cannot clone.  `LstK_Enumerate` succeeds all the same, and so does the clone.

## Main definitions

* `DevLists.publicPart` — what an element says of its device.
* `DevLists.ClonedTo` — a list holds a clone of every element of another.
* `DevLists.CompleteOrFails` — what a clone is to do.

## Main results

* `foreachSafe_cloneAll` — the elements up to the first that is refused are cloned.
* `lstKClone_completeOrFails_iff` — a clone does what it is to do exactly if there is no handle
  for the list, or no element is refused.
-/

namespace LibusbK

namespace DevLists

variable {s t u : DevLists} {list info dst : ℕ} {b : ObjBase}

/-- The `Public` part of an element. -/
def publicPart (s : DevLists) (info : ℕ) : Option DevInfo :=
  (s.lstInfoK.get info).map DevInfoEL.info

/-- The new list `dst` holds, in the order of `src`, a new element for every one of `src`, with
the same public part. -/
structure ClonedTo (s t : DevLists) (src dst : ℕ) : Prop where
  new : s.base dst = none ∧ (t.base dst).isSome
  same : List.Forall₂ (fun x y => t.publicPart y = s.publicPart x) (s.chain src) (t.chain dst)
  nodup : (t.chain dst).Nodup
  fresh : ∀ y ∈ t.chain dst, ¬s.LiveInfo y
  attached : ∀ y ∈ t.chain dst, t.devListHandle y = some dst

/-- **A clone is complete or fails**: the list that was made is a clone of the source, or
everything is as it was. -/
def CompleteOrFails (s : DevLists) (src : ℕ) : Bool × DevLists → Prop
  | (true, t) => ClonedTo s t src s.lstK.next
  | (false, t) => Same s t

/-! ### The enumeration -/

/-- The elements that are there are as they were. -/
def KeepsInfos (s t : DevLists) : Prop :=
  ∀ info, s.LiveInfo info → t.lstInfoK.get info = s.lstInfoK.get info

theorem KeepsInfos.refl (s : DevLists) : KeepsInfos s s := fun _ _ => rfl

theorem KeepsInfos.trans (h : KeepsInfos s t) (h' : KeepsInfos t u) : KeepsInfos s u := by
  intro info hinfo
  have hget := h info hinfo
  refine (h' info ?_).trans hget
  unfold LiveInfo
  rw [hget]
  exact hinfo

theorem KeepsInfos.publicPart (h : KeepsInfos s t) (hinfo : s.LiveInfo info) :
    t.publicPart info = s.publicPart info :=
  congrArg (Option.map DevInfoEL.info) (h info hinfo)

theorem LiveInfo.ne_next (h : s.LiveInfo info) : info ≠ s.lstInfoK.next := by
  obtain ⟨el, hel⟩ := Option.isSome_iff_exists.mp h
  exact Nat.ne_of_lt (s.lstInfoK.lt_next_of_get hel)

/-- An element is cloned into a list. -/
def cloneInto (s : DevLists) (dst : ℕ) (d : DevInfo) : DevLists :=
  (s.addInfo d).link dst s.lstInfoK.next

section CloneInto

variable {d : DevInfo}

theorem get_addInfo_next (d : DevInfo) : (s.addInfo d).lstInfoK.get s.lstInfoK.next =
    some { toObjBase := .acquired, devListHandle := none, info := d } :=
  Objects.get_create_self _ _

theorem devListHandle_addInfo_next (d : DevInfo) :
    (s.addInfo d).devListHandle s.lstInfoK.next = none :=
  (devListHandle_addInfo d _).trans (devListHandle_next s)

theorem Linked.cloneInto (h : s.Linked) (hb : s.base dst = some b) :
    (s.cloneInto dst d).Linked := by
  have hbase : (s.addInfo d).base dst = some b := hb
  exact (h.addInfo d).link hbase (get_addInfo_next d) (devListHandle_addInfo_next d)

theorem frame_cloneInto : Frame dst s (s.cloneInto dst d) :=
  (frame_addInfo d dst).trans (frame_link (get_addInfo_next d))

theorem chain_cloneInto (hb : s.base dst = some b) :
    (s.cloneInto dst d).chain dst = s.chain dst ++ [s.lstInfoK.next] := by
  have hbase : (s.addInfo d).base dst = some b := hb
  refine (chain_onLstK (g := fun head => head ++ [s.lstInfoK.next]) (fun _ => rfl) hbase
    dst).trans ?_
  rw [if_pos rfl]
  rfl

theorem keepsInfos_cloneInto : KeepsInfos s (s.cloneInto dst d) := fun _ h =>
  (Objects.get_modify_of_ne _ _ h.ne_next).trans (Objects.get_create_of_ne _ _ h.ne_next)

theorem get_cloneInto_next : (s.cloneInto dst d).lstInfoK.get s.lstInfoK.next =
    some { toObjBase := .attached, devListHandle := some dst, info := d } := by
  unfold cloneInto link
  rw [Objects.get_modify_self, get_addInfo_next]
  rfl

end CloneInto

theorem devEnumCloneAll_of_accepted (h : s.Linked) (hb : s.base dst = some b) (husable : b.Usable)
    {el : DevInfoEL} (hel : s.lstInfoK.get info = some el) {refused : ℕ → Bool}
    (haccepted : refused info = false) :
    devEnumCloneAll refused dst info s = some (true, s.cloneInto dst el.info) := by
  have hbase : (s.addInfo el.info).base dst = some b := hb
  unfold devEnumCloneAll
  rw [lstKCloneInfo_of_live h hel, haccepted, if_neg Bool.false_ne_true]
  dsimp only
  rw [lstKAttachInfo_of_detached (h.addInfo el.info) hbase husable (get_addInfo_next el.info)
    (devListHandle_addInfo_next el.info), Option.map_some]
  rfl

theorem devEnumCloneAll_of_refused (h : s.Linked) {el : DevInfoEL}
    (hel : s.lstInfoK.get info = some el) {refused : ℕ → Bool} (hrefused : refused info = true) :
    devEnumCloneAll refused dst info s = some (false, s) := by
  unfold devEnumCloneAll
  rw [lstKCloneInfo_of_live h hel, hrefused, if_pos rfl]

/-- Clones of `xs`, with the public parts `parts`, are at the end of the list. -/
structure Cloned (dst : ℕ) (parts : ℕ → Option DevInfo) (xs : List ℕ) (s t : DevLists) :
    Prop where
  linked : t.Linked
  frame : Frame dst s t
  keeps : KeepsInfos s t
  chain : ∃ ys, t.chain dst = s.chain dst ++ ys ∧
    List.Forall₂ (fun x y => t.publicPart y = parts x) xs ys ∧ ∀ y ∈ ys, ¬s.LiveInfo y

/-- **The elements up to the first that is refused are cloned.** -/
theorem foreachSafe_cloneAll (refused : ℕ → Bool) {parts : ℕ → Option DevInfo}
    (husable : b.Usable) (xs : List ℕ) :
    ∀ {s : DevLists}, s.Linked → s.base dst = some b →
      (∀ x ∈ xs, s.LiveInfo x ∧ s.publicPart x = parts x) →
        ∃ t, foreachSafe (devEnumCloneAll refused dst) xs s = some t ∧
          Cloned dst parts (xs.takeWhile fun x => !refused x) s t := by
  induction xs with
  | nil =>
    intro s h hb _
    exact ⟨s, rfl, h, .refl dst s, .refl s, [], (List.append_nil _).symm, .nil,
      fun _ hy => nomatch hy⟩
  | cons x xs ih =>
    intro s h hb hxs
    obtain ⟨⟨hlive, hpublic⟩, hrest⟩ := List.forall_mem_cons.mp hxs
    obtain ⟨el, hel⟩ := Option.isSome_iff_exists.mp hlive
    have hinfo : some el.info = parts x := by
      rw [← hpublic]
      unfold publicPart
      rw [hel]
      rfl
    unfold foreachSafe
    cases hrefused : refused x with
    -- the enumeration stops here, and what was cloned stays
    | true =>
      rw [devEnumCloneAll_of_refused h hel hrefused, Option.bind_some,
        List.takeWhile_cons_of_neg (by simp [hrefused])]
      exact ⟨s, rfl, h, .refl dst s, .refl s, [], (List.append_nil _).symm, .nil,
        fun _ hy => nomatch hy⟩
    | false =>
      rw [devEnumCloneAll_of_accepted h hb husable hel hrefused, Option.bind_some,
        List.takeWhile_cons_of_pos (by simp [hrefused])]
      have hframe : Frame dst s (s.cloneInto dst el.info) := frame_cloneInto
      have hbase : (s.cloneInto dst el.info).base dst = some b := by
        rw [hframe.base]
        exact hb
      -- the elements still to be cloned are as they were
      obtain ⟨t, hrun, ht⟩ := ih (h.cloneInto hb) hbase fun y hy =>
        ⟨hframe.live y (hrest y hy).1,
          (keepsInfos_cloneInto.publicPart (hrest y hy).1).trans (hrest y hy).2⟩
      obtain ⟨ys, hchain, hsame, hfresh⟩ := ht.chain
      -- the clones that follow leave this one alone
      have hnew : t.publicPart s.lstInfoK.next = parts x := by
        have hget := @get_cloneInto_next s dst el.info
        rw [ht.keeps.publicPart (Option.isSome_iff_exists.mpr ⟨_, hget⟩), ← hinfo]
        exact congrArg (Option.map DevInfoEL.info) hget
      refine ⟨t, hrun, ht.linked, hframe.trans ht.frame,
        keepsInfos_cloneInto.trans ht.keeps, s.lstInfoK.next :: ys, ?_,
        .cons hnew hsame, ?_⟩
      · rw [hchain, chain_cloneInto hb, List.append_assoc]
        rfl
      · rw [List.forall_mem_cons]
        exact ⟨fun hdead => hdead.ne_next rfl, fun y hy hdead =>
          hfresh y hy (hframe.live y hdead)⟩

/-! ### The call -/

variable {src : ℕ}

/-- What a clone of a live list makes, if there is a handle for it. -/
theorem lstKClone_of_live (h : s.Linked) (hidle : s.Idle) (hlive : (s.base src).isSome)
    (refused : ℕ → Bool) :
    ∃ t, s.lstKClone src false refused = some (true, t) ∧ t.Linked ∧ KeepsInfos s t ∧
      (t.base s.lstK.next).isSome ∧
      List.Forall₂ (fun x y => t.publicPart y = s.publicPart x)
        ((s.chain src).takeWhile fun x => !refused x) (t.chain s.lstK.next) ∧
      ∀ y ∈ t.chain s.lstK.next, ¬s.LiveInfo y := by
  have hb := hidle.base_of_live hlive
  have hbusy : (s.rebase src .attached).base src = some .attached := base_rebase_self hb
  have hne : src ≠ s.lstK.next := ne_next_of_base hb
  -- the source is held by the call, and the new list is there
  have hacquired : (s.rebase src .attached).acquireLstK.base src =
      (s.rebase src .attached).base src := base_acquireLstK_of_ne hne
  have hsrc := hacquired.trans hbusy
  have hnew : (s.rebase src .attached).acquireLstK.base s.lstK.next = some .acquired :=
    base_acquireLstK_self (s.rebase src .attached)
  have hchain (b' : ObjBase) (list : ℕ) :
      ((s.rebase src .attached).acquireLstK.rebase src b').chain list = s.chain list := by
    rw [chain_rebase, chain_acquireLstK, chain_rebase]
  have hbase (b' : ObjBase) : ((s.rebase src .attached).acquireLstK.rebase src b').base
      s.lstK.next = some .acquired := (base_rebase_of_ne b' hne.symm).trans hnew
  obtain ⟨b', t, ht, hrun⟩ := lstKEnumerate_of_run cleanupDeviceList
    (R := Cloned s.lstK.next s.publicPart ((s.chain src).takeWhile fun x => !refused x))
    (fun _ _ hcloned => hcloned.frame.base) hsrc (Or.inr (by decide)) fun b' _ => by
      rw [chain_acquireLstK, chain_rebase]
      exact foreachSafe_cloneAll refused ObjBase.usable_acquired (s.chain src)
        (((h.rebase src .attached).acquireLstK).rebase src b') (hbase b')
        fun x hx => ⟨h.live_of_mem_chain hx, rfl⟩
  obtain ⟨ys, hys, hsame, hfresh⟩ := ht.chain
  rw [hchain, chain_next, List.nil_append] at hys
  have hdone : t.base src = some b' := by
    rw [ht.frame.base]
    exact base_rebase_self hsrc
  have hheld : (t.rebase src .attached).base src = some .attached := base_rebase_self hdone
  have hchainDone (list : ℕ) : ((t.rebase src .attached).rebase src .acquired).chain list =
      t.chain list := by
    rw [chain_rebase, chain_rebase]
  refine ⟨(t.rebase src .attached).rebase src .acquired, ?_, (ht.linked.rebase _ _).rebase _ _,
    ht.keeps, ?_, ?_, ?_⟩
  · unfold lstKClone
    rw [incLstK_of_acquired hb]
    dsimp only
    have hnext : (s.rebase src .attached).lstK.next = s.lstK.next := rfl
    rw [if_neg Bool.false_ne_true, hnext, hrun, Option.bind_some]
    dsimp only
    rw [decLstK_of_attached hheld, Option.map_some]
  · rw [base_rebase_of_ne _ hne.symm, base_rebase_of_ne _ hne.symm, ht.frame.base, hbase]
    rfl
  · rw [hchainDone, hys]
    exact hsame
  · rw [hchainDone, hys]
    exact hfresh

theorem lstKClone_of_noHandle (hidle : s.Idle) (hlive : (s.base src).isSome)
    (refused : ℕ → Bool) : s.lstKClone src true refused = some (false, s) := by
  have hb := hidle.base_of_live hlive
  have hheld : (s.rebase src .attached).base src = some .attached := base_rebase_self hb
  unfold lstKClone
  rw [incLstK_of_acquired hb]
  dsimp only
  rw [if_pos rfl, decLstK_of_attached hheld, rebase_rebase, rebase_eq_self hb, Option.map_some]

/-- A list that is not there has no elements, and is not cloned. -/
theorem lstKClone_of_dead (hdead : s.base src = none) (noHandle : Bool) (refused : ℕ → Bool) :
    s.chain src = [] ∧ s.lstKClone src noHandle refused = some (false, s) := by
  have hget : s.lstK.get src = none := Option.map_eq_none_iff.mp hdead
  constructor
  · unfold chain
    rw [hget]
    rfl
  · unfold lstKClone incLstK
    rw [hget]
    rfl

/-- What is cloned is the whole list exactly if no element is refused. -/
theorem clonedTo_iff (ht : t.Linked) (hbase : (t.base s.lstK.next).isSome) {refused : ℕ → Bool}
    (hsame : List.Forall₂ (fun x y => t.publicPart y = s.publicPart x)
      ((s.chain src).takeWhile fun x => !refused x) (t.chain s.lstK.next))
    (hfresh : ∀ y ∈ t.chain s.lstK.next, ¬s.LiveInfo y) :
    ClonedTo s t src s.lstK.next ↔ ∀ x ∈ s.chain src, refused x = false := by
  have hall : (s.chain src).takeWhile (fun x => !refused x) = s.chain src ↔
      ∀ x ∈ s.chain src, refused x = false := by
    rw [List.takeWhile_eq_self_iff]
    simp only [Bool.not_eq_true']
  rw [← hall]
  -- as many clones as elements: none was left out
  constructor
  · intro h
    have hlength := hsame.length_eq.trans h.same.length_eq.symm
    exact (List.takeWhile_prefix _).eq_of_length hlength
  · intro h
    rw [h] at hsame
    exact ⟨⟨base_next s, hbase⟩, hsame, ht.nodup _, hfresh, fun y hy => (ht.mem_chain _ y).mp hy⟩

end DevLists

/-- **When a clone is complete or fails**, in any state that calls on live handles lead to:
exactly if there is no handle for the new list, or every element of the source can be cloned. -/
theorem lstKClone_completeOrFails_iff (pathMatchSpec : List Char → List Char → Bool)
    {calls : List LstKCall} {s : DevLists}
    (hrun : (lstKCalls pathMatchSpec).exec .empty calls = some s) (src : ℕ) (noHandle : Bool)
    (refused : ℕ → Bool) :
    (∃ r, s.lstKClone src noHandle refused = some r ∧ s.CompleteOrFails src r) ↔
      noHandle = true ∨ ∀ x ∈ s.chain src, refused x = false := by
  obtain ⟨hlinked, hidle, -⟩ := lstKCalls_kept pathMatchSpec hrun
  cases hbase : s.base src with
  | none =>
    obtain ⟨hchain, hclone⟩ := DevLists.lstKClone_of_dead hbase noHandle refused
    -- no list, no elements
    refine iff_of_true ⟨_, hclone, .refl s⟩ (.inr fun x hx => ?_)
    rw [hchain] at hx
    cases hx
  | some b =>
    have hlive : (s.base src).isSome := by simp [hbase]
    cases noHandle with
    | true =>
      exact iff_of_true ⟨_, DevLists.lstKClone_of_noHandle hidle hlive refused, .refl s⟩ (.inl rfl)
    | false =>
      obtain ⟨t, hclone, ht, -, hnew, hsame, hfresh⟩ :=
        DevLists.lstKClone_of_live hlinked hidle hlive refused
      rw [hclone, or_iff_right Bool.false_ne_true,
        ← DevLists.clonedTo_iff ht hnew hsame hfresh]
      constructor
      · rintro ⟨r, hr, hcomplete⟩
        cases hr
        exact hcomplete
      · exact fun h => ⟨_, rfl, h⟩

/-- A list of two elements. -/
def twoElements : List LstKCall :=
  [.init (.built [(aLink "A" true).toTempItem, (aLink "B" true).toTempItem] true)]

theorem lstKClone_completeOrFails_twoElements :
    ∃ s, (lstKCalls fun _ _ => true).exec .empty twoElements = some s ∧
      ∃ r, s.lstKClone 0 false (fun _ => false) = some r ∧ s.CompleteOrFails 0 r := by
  have hrun : (lstKCalls fun _ _ => true).exec .empty twoElements = some _ := rfl
  exact ⟨_, hrun, (lstKClone_completeOrFails_iff (fun _ _ => true) hrun 0 false
    fun _ => false).mpr (.inr fun _ _ => rfl)⟩

/-- There is no memory for a clone of the second element, and the call succeeds with a list of
one. -/
theorem not_completeOrFails_secondRefused :
    ∃ s, (lstKCalls fun _ _ => true).exec .empty twoElements = some s ∧
      ∃ t, s.lstKClone 0 false (fun x => x == 1) = some (true, t) ∧ t.chain 1 = [2] ∧
        s.chain 0 = [0, 1] ∧ ¬s.CompleteOrFails 0 (true, t) := by
  refine ⟨_, rfl, _, rfl, rfl, rfl, fun h => ?_⟩
  -- one clone for two elements
  have hlength := h.same.length_eq
  exact absurd hlength (by decide)

end LibusbK
