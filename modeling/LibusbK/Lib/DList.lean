import Mathlib.Logic.Function.Basic

/-!
# Doubly linked lists in memory

The heads of these lists have no node of their own: the head points to the first
node, the `prev` of the first node to the last one, and the `next` of the last
one is null.  The operations are those of `utlist`: they follow and overwrite
the pointers of whatever node they are given, linked or not, and stop where they
would follow a null pointer.

## Main definitions

* `DList`, `append`, `prepend`, `delete` — the pointers and the operations.
* `Path`, `Linked`, `Repr` — the nodes a list visits, and what makes it well linked.
* `Harmless` — deleting an unlinked node, and appending it, does no damage.
* `LinksNoOther` — it links no other node, but may lose nodes of the list.

## Main results

* `Repr.append`, `Repr.prepend`, `Repr.delete` — the operations on well linked
  lists.
* `Repr.readd`, `harmless_of_readd` — what deleting and appending a node that is
  not linked does.
-/

/-- A doubly linked list: its head and the pointers of all nodes, those of nodes
that are in no list included. -/
structure DList (α : Type*) where
  head : Option α
  next : α → Option α
  prev : α → Option α

namespace DList

variable {α : Type*} [DecidableEq α]

open Function

/-! ### Operations -/

/-- No nodes, all pointers null. -/
def empty : DList α := ⟨none, fun _ => none, fun _ => none⟩

/-- `DL_APPEND`; `none` follows a null pointer. -/
def append (l : DList α) (add : α) : Option (DList α) :=
  match l.head with
  | none =>
    some { head := some add, next := update l.next add none, prev := update l.prev add (some add) }
  | some h =>
    let prev := update l.prev add (l.prev h)
    (prev h).map fun last =>
      { head := some h
        next := update (update l.next last (some add)) add none
        prev := update prev h (some add) }

/-- `DL_PREPEND`. -/
def prepend (l : DList α) (add : α) : DList α :=
  { head := some add
    next := update l.next add l.head
    prev :=
      match l.head with
      | none => update l.prev add (some add)
      | some h => update (update l.prev add (l.prev h)) h (some add) }

/-- `DL_DELETE`; `none` follows a null pointer. -/
def delete (l : DList α) (del : α) : Option (DList α) :=
  if l.prev del = some del then some { l with head := none }
  else if l.head = some del then
    (l.next del).map fun n => { l with head := some n, prev := update l.prev n (l.prev del) }
  else
    (l.prev del).bind fun p =>
      let next := update l.next p (l.next del)
      match l.next del with
      | some n => some { l with next := next, prev := update l.prev n (l.prev del) }
      | none => l.head.map fun h => { l with next := next, prev := update l.prev h (l.prev del) }

/-- `DL_DELETE`, then `DL_APPEND` of the same node. -/
def readd (l : DList α) (a : α) : Option (DList α) := (l.delete a).bind fun l => l.append a

/-! ### Paths -/

/-- Following `next` from `p` visits `xs` and comes to an end. -/
def Path (next : α → Option α) : Option α → List α → Prop
  | p, [] => p = none
  | p, a :: xs => p = some a ∧ Path next (next a) xs

variable {next next' : α → Option α} {p : Option α} {xs ys : List α} {a b : α}

omit [DecidableEq α] in
theorem Path.head_eq (h : Path next p xs) : p = xs.head? := by
  cases xs with
  | nil => exact h
  | cons a xs => exact h.1

omit [DecidableEq α] in
theorem Path.congr (hnext : ∀ a ∈ xs, next a = next' a) (h : Path next p xs) :
    Path next' p xs := by
  induction xs generalizing p with
  | nil => exact h
  | cons a xs ih =>
    refine ⟨h.1, ?_⟩
    rw [← hnext a (List.mem_cons_self ..)]
    exact ih (fun b hb => hnext b (List.mem_cons_of_mem _ hb)) h.2

omit [DecidableEq α] in
/-- There is only one path. -/
theorem Path.unique (hx : Path next p xs) (hy : Path next p ys) : xs = ys := by
  induction xs generalizing p ys with
  | nil =>
    cases ys with
    | nil => rfl
    | cons b ys => cases hx.symm.trans hy.1
  | cons a xs ih =>
    cases ys with
    | nil => cases hx.1.symm.trans hy
    | cons b ys =>
      cases hx.1.symm.trans hy.1
      rw [ih hx.2 hy.2]

omit [DecidableEq α] in
/-- A node of a path points to the next node. -/
theorem Path.next_eq (h : Path next p (xs ++ a :: ys)) : next a = ys.head? := by
  induction xs generalizing p with
  | nil => exact h.2.head_eq
  | cons b xs ih => exact ih h.2

omit [DecidableEq α] in
theorem Path.next_mem (h : Path next p xs) (ha : a ∈ xs) (hab : next a = some b) : b ∈ xs := by
  obtain ⟨before, after, rfl⟩ := List.append_of_mem ha
  rw [h.next_eq] at hab
  have hb : b ∈ after := List.mem_of_mem_head? hab
  simp [hb]

omit [DecidableEq α] in
/-- A node of a path other than the first is pointed to. -/
theorem Path.exists_pred (h : Path next p xs) (hb : b ∈ xs) (hp : p ≠ some b) :
    ∃ a ∈ xs, next a = some b := by
  induction xs generalizing p with
  | nil => cases hb
  | cons a xs ih =>
    rcases List.mem_cons.mp hb with rfl | hb
    · exact absurd h.1 hp
    · by_cases hab : next a = some b
      · exact ⟨a, List.mem_cons_self .., hab⟩
      · obtain ⟨c, hc, hcb⟩ := ih h.2 hb hab
        exact ⟨c, List.mem_cons_of_mem _ hc, hcb⟩

omit [DecidableEq α] in
/-- No node of a path points to its first node. -/
theorem Path.next_ne_head (h : Path next p xs) (hnodup : xs.Nodup) (ha : a ∈ xs) :
    next a = none ∨ next a ≠ p := by
  cases xs with
  | nil => cases ha
  | cons c xs =>
    cases hab : next a with
    | none => exact .inl rfl
    | some b =>
      refine .inr fun hbp => ?_
      have hb : b ∈ xs := by
        rcases List.mem_cons.mp ha with rfl | ha
        · have := h.2.head_eq
          rw [hab] at this
          exact List.mem_of_mem_head? this.symm
        · exact h.2.next_mem ha hab
      cases hbp.trans h.1
      exact (List.nodup_cons.mp hnodup).1 hb

omit [DecidableEq α] in
/-- Two nodes of a path do not point to the same node. -/
theorem Path.next_inj (h : Path next p xs) (hnodup : xs.Nodup) (ha : a ∈ xs) {c : α} (hc : c ∈ xs)
    (hab : next a = some b) (hcb : next c = some b) : a = c := by
  induction xs generalizing p with
  | nil => cases ha
  | cons d xs ih =>
    obtain ⟨-, hnodup'⟩ := List.nodup_cons.mp hnodup
    have hhead : ∀ e ∈ xs, next d = some b → next e = some b → False := by
      intro e he hdb heb
      rcases h.2.next_ne_head hnodup' he with hnone | hne
      · rw [hnone] at heb
        cases heb
      · exact hne (heb.trans hdb.symm)
    rcases List.mem_cons.mp ha with rfl | ha'
    · rcases List.mem_cons.mp hc with rfl | hc'
      · rfl
      · exact (hhead c hc' hab hcb).elim
    · rcases List.mem_cons.mp hc with rfl | hc'
      · exact (hhead a ha' hcb hab).elim
      · exact ih h.2 hnodup' ha' hc'

omit [DecidableEq α] in
/-- A path gets longer by a node its last node is made to point to. -/
theorem Path.concat {t : α} (h : Path next p (xs ++ [t])) (hnext : ∀ b ∈ xs, next' b = next b)
    (ht : next' t = some a) (ha : next' a = none) : Path next' p (xs ++ [t, a]) := by
  induction xs generalizing p with
  | nil => exact ⟨h.1, by rw [ht]; exact ⟨rfl, ha⟩⟩
  | cons b xs ih =>
    refine ⟨h.1, ?_⟩
    rw [hnext b (List.mem_cons_self ..)]
    exact ih h.2 fun c hc => hnext c (List.mem_cons_of_mem _ hc)

/-- A node is found from the head. -/
inductive Linked (l : DList α) : α → Prop
  | head {a : α} (h : l.head = some a) : Linked l a
  | next {a b : α} (ha : Linked l a) (h : l.next a = some b) : Linked l b

omit [DecidableEq α] in
/-- The nodes found from the head are those of the path. -/
theorem Linked.mem {l : DList α} (h : l.Linked a) (hpath : Path l.next l.head xs) : a ∈ xs := by
  induction h with
  | head hhead =>
    apply List.mem_of_mem_head?
    rw [← hpath.head_eq]
    exact hhead
  | next _ hnext ih => exact hpath.next_mem ih hnext

/-! ### Well linked lists -/

/-- `l` is a well linked list of the nodes `xs`.  Of the `prev` pointers the
operations rely on that of the first node only, and overwrite the others before
they use them. -/
structure Repr (l : DList α) (xs : List α) : Prop where
  nodup : xs.Nodup
  path : Path l.next l.head xs
  prev_head : ∀ h, l.head = some h → l.prev h = xs.getLast?

variable {l : DList α}

omit [DecidableEq α] in
theorem repr_empty : (empty : DList α).Repr [] :=
  ⟨List.nodup_nil, rfl, fun h hh => by cases hh⟩

omit [DecidableEq α] in
theorem Repr.head_eq (h : l.Repr xs) : l.head = xs.head? := h.path.head_eq

omit [DecidableEq α] in
theorem nodup_concat (hnodup : xs.Nodup) (ha : a ∉ xs) : (xs ++ [a]).Nodup := by
  rw [List.nodup_append]
  refine ⟨hnodup, by simp, fun b hb c hc hbc => ?_⟩
  rw [List.mem_singleton.mp hc] at hbc
  exact ha (hbc ▸ hb)

omit [DecidableEq α] in
/-- What makes the list with `a` linked behind its last node well linked. -/
theorem Path.repr_concat {l' : DList α} {t : α} (h : Path l.next l.head (ys ++ [t]))
    (hnodup : (ys ++ [t]).Nodup) (ha : a ∉ ys ++ [t]) (hhead : l'.head = l.head)
    (hnext : ∀ b ∈ ys, l'.next b = l.next b) (ht : l'.next t = some a) (hnone : l'.next a = none)
    (hprev : ∀ h, l.head = some h → l'.prev h = some a) : l'.Repr (ys ++ [t] ++ [a]) := by
  refine ⟨nodup_concat hnodup ha, ?_, fun b hb => ?_⟩
  · rw [hhead, List.append_assoc]
    exact h.concat hnext ht hnone
  · rw [List.getLast?_concat]
    exact hprev b (hhead ▸ hb)

omit [DecidableEq α] in
theorem exists_head?_concat (ys : List α) (t : α) : ∃ first, (ys ++ [t]).head? = some first := by
  cases ys with
  | nil => exact ⟨t, rfl⟩
  | cons b ys => exact ⟨b, rfl⟩

/-- Appending a new node. -/
theorem Repr.append (h : l.Repr xs) (ha : a ∉ xs) :
    ∃ l', l.append a = some l' ∧ l'.Repr (xs ++ [a]) := by
  unfold DList.append
  rcases List.eq_nil_or_concat xs with rfl | ⟨ys, t, rfl⟩
  · rw [h.head_eq]
    refine ⟨_, rfl, nodup_concat List.nodup_nil ha, ⟨rfl, update_self ..⟩, fun b hb => ?_⟩
    cases hb
    exact update_self ..
  · rw [List.concat_eq_append] at *
    obtain ⟨first, hfirst⟩ := exists_head?_concat ys t
    have hhead := h.head_eq.trans hfirst
    have hne : first ≠ a := fun h => ha (h ▸ List.mem_of_mem_head? hfirst)
    have hprev := h.prev_head first hhead
    rw [List.getLast?_concat] at hprev
    have hta : t ≠ a := fun h => ha (by simp [h])
    rw [hhead]
    simp only [update_of_ne hne, hprev, Option.map_some]
    refine ⟨_, rfl, h.path.repr_concat h.nodup ha hhead.symm (fun b hb => ?_) ?_ ?_ fun b hb => ?_⟩
    · have hbt : b ≠ t := fun hbt => (List.nodup_append.mp h.nodup).2.2 b hb t (by simp) hbt
      have hba : b ≠ a := fun hba => ha (by simp [← hba, hb])
      exact (update_of_ne hba ..).trans (update_of_ne hbt ..)
    · exact (update_of_ne hta ..).trans (update_self ..)
    · exact update_self ..
    · cases hhead.symm.trans hb
      exact update_self ..

/-- Putting a new node in front. -/
theorem Repr.prepend (h : l.Repr xs) (ha : a ∉ xs) : (l.prepend a).Repr (a :: xs) := by
  refine ⟨List.nodup_cons.mpr ⟨ha, h.nodup⟩, ⟨rfl, ?_⟩, fun b hb => ?_⟩
  · show Path (update l.next a l.head) (update l.next a l.head a) xs
    rw [update_self]
    exact h.path.congr fun b hb => (update_of_ne (fun hba : b = a => ha (hba ▸ hb)) _ _).symm
  · cases hb
    show (l.prepend a).prev a = _
    unfold DList.prepend
    cases hxs : xs with
    | nil =>
      rw [h.head_eq, hxs]
      exact update_self ..
    | cons first rest =>
      have hne : a ≠ first := fun h => ha (by simp [h, hxs])
      have hhead : l.head = some first := by rw [h.head_eq, hxs]; rfl
      simp only [hhead]
      rw [update_of_ne hne, update_self, h.prev_head first hhead, hxs]
      rfl

/-- Deleting the first node. -/
theorem Repr.delete (h : l.Repr (a :: xs)) : ∃ l', l.delete a = some l' ∧ l'.Repr xs := by
  have hhead : l.head = some a := h.head_eq
  have hprev := h.prev_head a hhead
  obtain ⟨hnotin, hnodup⟩ := List.nodup_cons.mp h.nodup
  unfold DList.delete
  cases xs with
  | nil =>
    have hself : l.prev a = some a := hprev
    rw [if_pos hself]
    exact ⟨_, rfl, List.nodup_nil, rfl, fun b hb => by cases hb⟩
  | cons b xs =>
    have hlast : l.prev a ≠ some a := by
      rw [hprev, List.getLast?_cons_cons]
      exact fun h => hnotin (List.mem_of_getLast? h)
    have hnext : l.next a = some b := h.path.2.head_eq
    rw [if_neg hlast, if_pos hhead, hnext]
    refine ⟨_, rfl, hnodup, ?_, fun c hc => ?_⟩
    · have hpath := h.path.2
      rwa [hnext] at hpath
    · cases hc
      show update l.prev b (l.prev a) b = _
      rw [update_self, hprev, List.getLast?_cons_cons]

/-! ### Deleting a node that is not linked -/

/-- The pointers of `a`, a node that is not in the well linked list `xs`, are such
that deleting `a` and appending it is no worse than appending it. -/
def Harmless (l : DList α) (xs : List α) (a : α) : Prop :=
  match xs.head?, xs.getLast? with
  | some h, some t =>
    l.prev a ≠ some a ∧ l.prev a ≠ none ∧
      (l.prev a = some t ∨
        l.next a ≠ none ∧ l.next a ≠ some h ∧ ∀ p ∈ xs, l.prev a = some p → l.next p = l.next a)
  | _, _ => l.prev a = some a ∨ l.prev a ≠ none ∧ l.next a ≠ none

omit [DecidableEq α] in
theorem harmless_nil {a : α} :
    l.Harmless [] a ↔ l.prev a = some a ∨ l.prev a ≠ none ∧ l.next a ≠ none := Iff.rfl

omit [DecidableEq α] in
theorem harmless_concat {a h t : α} (hh : (ys ++ [t]).head? = some h) :
    l.Harmless (ys ++ [t]) a ↔
      l.prev a ≠ some a ∧ l.prev a ≠ none ∧
        (l.prev a = some t ∨ l.next a ≠ none ∧ l.next a ≠ some h ∧
          ∀ p ∈ ys ++ [t], l.prev a = some p → l.next p = l.next a) := by
  unfold Harmless
  rw [hh, List.getLast?_concat]

/-- In an empty list an appended node is alone. -/
theorem append_of_head_eq_none (hhead : l.head = none) (a : α) :
    ∃ l', l.append a = some l' ∧ l'.Repr [a] := by
  unfold append
  rw [hhead]
  refine ⟨_, rfl, nodup_concat List.nodup_nil List.not_mem_nil, ⟨rfl, update_self ..⟩,
    fun b hb => ?_⟩
  cases hb
  exact update_self ..

/-- Into an empty list, a node that is not linked comes back alone, or a null
pointer is followed. -/
theorem readd_of_head_eq_none (hhead : l.head = none) (a : α) :
    (l.Harmless [] a ∧ ∃ l', l.readd a = some l' ∧ l'.Repr [a]) ∨
      (¬l.Harmless [] a ∧ l.readd a = none) := by
  rw [harmless_nil]
  unfold readd delete
  by_cases hself : l.prev a = some a
  · rw [if_pos hself]
    refine .inl ⟨.inl hself, ?_⟩
    simp only [Option.bind_some]
    exact append_of_head_eq_none rfl a
  · rw [if_neg hself, hhead, if_neg (by simp)]
    cases hprev : l.prev a with
    | none => exact .inr ⟨by simp, rfl⟩
    | some p =>
      cases hnext : l.next a with
      | none => exact .inr ⟨by simp [← hprev, hself], rfl⟩
      | some n =>
        refine .inl ⟨.inr (by simp), ?_⟩
        simp only [Option.bind_some]
        exact append_of_head_eq_none rfl a

/-- What deleting and appending a node does to the pointers, when the list is not
empty, the node is not its head, and points back to `p`, another node. -/
theorem readd_of_head {a h p t : α} (hhead : l.head = some h) (hah : a ≠ h)
    (hprev : l.prev a = some p) (hpa : p ≠ a) (ht : l.prev h = some t) :
    let last := if l.next a = none ∨ l.next a = some h then p else t
    ∃ l', l.readd a = some l' ∧ l'.head = some h ∧ l'.prev h = some a ∧
      l'.next = update (update (update l.next p (l.next a)) last (some a)) a none := by
  have hself : l.prev a ≠ some a := by
    rw [hprev]
    exact fun h => hpa (Option.some.inj h)
  have hne : l.head ≠ some a := by
    rw [hhead]
    exact fun h => hah (Option.some.inj h).symm
  unfold readd delete
  rw [if_neg hself, if_neg hne, hprev, hhead]
  have hha : h ≠ a := hah.symm
  cases hnext : l.next a with
  | none =>
    simp only [Option.bind_some, Option.map_some, append, update_of_ne hha, update_self, true_or,
      if_true]
    exact ⟨_, rfl, rfl, update_self .., rfl⟩
  | some n =>
    by_cases hnh : n = h
    · subst hnh
      simp only [Option.bind_some, append, update_of_ne hha, update_self, Option.map_some, or_true,
        if_true]
      exact ⟨_, rfl, rfl, update_self .., rfl⟩
    · have hnot : ¬(some n = none ∨ some n = some h) := by
        rintro (h | h)
        · cases h
        · exact hnh (Option.some.inj h)
      simp only [Option.bind_some, append, update_of_ne hha, update_of_ne (Ne.symm hnh), ht,
        Option.map_some, if_neg hnot]
      exact ⟨_, rfl, rfl, update_self .., rfl⟩

/-- **A harmless deletion, followed by appending the node, has appended it.** -/
theorem Repr.readd (h : l.Repr xs) (ha : a ∉ xs) (hsafe : l.Harmless xs a) :
    ∃ l', l.readd a = some l' ∧ l'.Repr (xs ++ [a]) := by
  rcases List.eq_nil_or_concat xs with rfl | ⟨ys, t, rfl⟩
  · rcases readd_of_head_eq_none h.head_eq a with ⟨-, h⟩ | ⟨hnot, -⟩
    · exact h
    · exact absurd hsafe hnot
  rw [List.concat_eq_append] at *
  obtain ⟨first, hfirst⟩ := exists_head?_concat ys t
  have hhead := h.head_eq.trans hfirst
  have hah : a ≠ first := fun hah => ha (hah ▸ List.mem_of_mem_head? hfirst)
  have hta : t ≠ a := fun hta => ha (by simp [hta])
  have hlast := h.prev_head first hhead
  rw [List.getLast?_concat] at hlast
  rw [harmless_concat hfirst] at hsafe
  obtain ⟨hself, hnull, hcase⟩ := hsafe
  obtain ⟨p, hprev⟩ := Option.ne_none_iff_exists'.mp hnull
  have hpa : p ≠ a := fun hpa => hself (hprev.trans (congrArg some hpa))
  obtain ⟨l', hl', hhead', hprev', hnext'⟩ := readd_of_head hhead hah hprev hpa hlast
  -- the node `a` is appended behind is the last one in every harmless case
  have htail : (if l.next a = none ∨ l.next a = some first then p else t) = t := by
    split
    · next hn =>
      rcases hcase with hpt | ⟨h₁, h₂, -⟩
      · exact Option.some.inj (hprev.symm.trans hpt)
      · rcases hn with hn | hn
        · exact absurd hn h₁
        · exact absurd hn h₂
    · rfl
  rw [htail] at hnext'
  refine ⟨l', hl', h.path.repr_concat h.nodup ha (hhead'.trans hhead.symm) (fun b hb => ?_) ?_ ?_
    fun b hb => ?_⟩
  · have hbt : b ≠ t := fun hbt => (List.nodup_append.mp h.nodup).2.2 b hb t (by simp) hbt
    have hba : b ≠ a := fun hba => ha (by simp [← hba, hb])
    rw [hnext', update_of_ne hba, update_of_ne hbt]
    by_cases hbp : b = p
    · subst hbp
      rw [update_self]
      rcases hcase with hpt | ⟨-, -, hsame⟩
      · exact absurd (Option.some.inj (hprev.symm.trans hpt)) hbt
      · exact (hsame b (by simp [hb]) hprev).symm
    · rw [update_of_ne hbp]
  · rw [hnext', update_of_ne hta, update_self]
  · rw [hnext', update_self]
  · cases hhead.symm.trans hb
    exact hprev'

/-- The pointers of `a`, a node that is not in the well linked list `xs`, are such
that deleting `a` and appending it links no other node: they do no damage, or `a`
points back to itself, which has the list lose all its nodes. -/
def LinksNoOther (l : DList α) (xs : List α) (a : α) : Prop :=
  l.prev a = some a ∨ l.Harmless xs a

/-- **A deletion that links no other node, followed by appending the node, leaves a well
linked list.** -/
theorem Repr.readd_of_linksNoOther (h : l.Repr xs) (ha : a ∉ xs) (hsafe : l.LinksNoOther xs a) :
    ∃ l' ys, l.readd a = some l' ∧ l'.Repr (ys ++ [a]) ∧ ys.Sublist xs := by
  rcases hsafe with hself | hsafe
  · obtain ⟨l', hl', hrepr⟩ := append_of_head_eq_none (l := { l with head := none }) rfl a
    refine ⟨l', [], ?_, hrepr, List.nil_sublist xs⟩
    rw [DList.readd, DList.delete, if_pos hself]
    exact hl'
  · obtain ⟨l', hl', hrepr⟩ := h.readd ha hsafe
    exact ⟨l', xs, hl', hrepr, List.Sublist.refl xs⟩

/-- **Only a harmless deletion leaves a list of the old nodes and the appended
one.** -/
theorem harmless_of_readd (h : l.Repr xs) (ha : a ∉ xs) {l' : DList α}
    (hreadd : l.readd a = some l') (hpath : Path l'.next l'.head ys)
    (hys : ∀ b, b ∈ ys ↔ b = a ∨ b ∈ xs) : l.Harmless xs a := by
  rcases List.eq_nil_or_concat xs with rfl | ⟨zs, t, rfl⟩
  · rcases readd_of_head_eq_none h.head_eq a with ⟨hsafe, -⟩ | ⟨-, hnone⟩
    · exact hsafe
    · rw [hnone] at hreadd
      cases hreadd
  rw [List.concat_eq_append] at *
  obtain ⟨first, hfirst⟩ := exists_head?_concat zs t
  have hhead := h.head_eq.trans hfirst
  have hfirstmem : first ∈ zs ++ [t] := List.mem_of_mem_head? hfirst
  have hah : a ≠ first := fun hah => ha (hah ▸ hfirstmem)
  have hlast := h.prev_head first hhead
  rw [List.getLast?_concat] at hlast
  rw [harmless_concat hfirst]
  -- the deletion neither drops the list nor follows a null pointer
  have hself : l.prev a ≠ some a := by
    intro hself
    have happend : DList.append { l with head := none } a = some l' := by
      rw [← hreadd, DList.readd, DList.delete, if_pos hself]
      rfl
    cases happend
    have hy : ys = [a] := hpath.unique ⟨rfl, update_self ..⟩
    have := (hys first).mpr (.inr hfirstmem)
    rw [hy, List.mem_singleton] at this
    exact hah this.symm
  have hnull : l.prev a ≠ none := by
    intro hnull
    have hne : l.head ≠ some a := fun h => hah (Option.some.inj (hhead.symm.trans h)).symm
    rw [DList.readd, DList.delete, if_neg hself, if_neg hne, hnull] at hreadd
    cases hreadd
  obtain ⟨p, hprev⟩ := Option.ne_none_iff_exists'.mp hnull
  have hpa : p ≠ a := fun hpa => hself (hprev.trans (congrArg some hpa))
  obtain ⟨m, hm, hhead', -, hnext'⟩ := readd_of_head hhead hah hprev hpa hlast
  cases hreadd.symm.trans hm
  have hnone : l'.next a = none := by rw [hnext', update_self]
  have hpred : ∀ {b : α}, b ∈ ys → b ≠ first → ∃ c ∈ zs ++ [t], l'.next c = some b := by
    intro b hb hbf
    obtain ⟨c, hc, hcb⟩ := hpath.exists_pred hb (by
      rw [hhead']
      exact fun h => hbf (Option.some.inj h).symm)
    rcases (hys c).mp hc with rfl | hc
    · rw [hnone] at hcb
      cases hcb
    · exact ⟨c, hc, hcb⟩
  refine ⟨hself, hnull, ?_⟩
  by_cases hpt : p = t
  · exact .inl (hpt ▸ hprev)
  by_cases hp : p ∈ zs ++ [t]
  · -- the successor of `p` must not lose the pointer to it
    obtain ⟨b, hpb⟩ : ∃ b, l.next p = some b := by
      obtain ⟨before, after, hsplit⟩ := List.append_of_mem hp
      have hpath' := h.path
      rw [hsplit] at hpath'
      rw [hpath'.next_eq]
      cases after with
      | nil =>
        rw [List.append_inj_right' hsplit rfl |> List.singleton_inj.mp] at hpt
        exact absurd rfl hpt
      | cons b after => exact ⟨b, rfl⟩
    have hb : b ∈ zs ++ [t] := h.path.next_mem hp hpb
    have hbf : b ≠ first := by
      rcases h.path.next_ne_head h.nodup hp with hnil | hne
      · rw [hpb] at hnil
        cases hnil
      · rw [hpb, hhead] at hne
        exact fun hbf => hne (congrArg some hbf)
    obtain ⟨c, hc, hcb⟩ := hpred ((hys b).mpr (.inr hb)) hbf
    have hca : c ≠ a := fun hca => ha (hca ▸ hc)
    have hba : a ≠ b := fun hab => ha (hab ▸ hb)
    rw [hnext', update_of_ne hca] at hcb
    have hclast : c ≠ if l.next a = none ∨ l.next a = some first then p else t := by
      intro hclast
      rw [hclast, update_self] at hcb
      exact hba (Option.some.inj hcb)
    rw [update_of_ne hclast] at hcb
    have hcp : c = p := by
      by_cases hcp : c = p
      · exact hcp
      · rw [update_of_ne hcp] at hcb
        exact h.path.next_inj h.nodup hc hp hcb hpb
    subst hcp
    rw [update_self] at hcb
    have hn : ¬(l.next a = none ∨ l.next a = some first) := fun hn => hclast (if_pos hn).symm
    refine .inr ⟨fun h => hn (.inl h), fun h => hn (.inr h), fun q _ hq => ?_⟩
    cases hprev.symm.trans hq
    exact hpb.trans hcb.symm
  · -- nothing in the list may point to `a` when it is appended behind `p`
    have hn : ¬(l.next a = none ∨ l.next a = some first) := by
      intro hn
      obtain ⟨c, hc, hca'⟩ := hpred ((hys a).mpr (.inl rfl)) hah
      have hca : c ≠ a := fun hca => ha (hca ▸ hc)
      have hcp : c ≠ p := fun hcp => hp (hcp ▸ hc)
      rw [hnext', if_pos hn, update_of_ne hca, update_of_ne hcp, update_of_ne hcp] at hca'
      exact ha (h.path.next_mem hc hca')
    refine .inr ⟨fun h => hn (.inl h), fun h => hn (.inr h), fun q hq hqp => ?_⟩
    cases hprev.symm.trans hqp
    exact absurd hq hp

end DList
