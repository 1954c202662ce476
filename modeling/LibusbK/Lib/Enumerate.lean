import Mathlib.Data.Nat.Notation
import Mathlib.Logic.Basic

/-!
# Enumerating a list with a callback

A callback is shown the elements of a list one after the other.  It may edit the
element it is shown, take it out of the list and change its context, and it says
whether the enumeration goes on.

## Main definitions

* `Visited`, `enumerate` — what a callback leaves behind, and the loop around it.
* `editFirst`, `editHead` — a search that edits what it finds.

## Main results

* `enumerate_forall` — the properties of the elements and of the context a callback
  keeps.
* `enumerate_eq_map`, `enumerate_eq_mapIdx` — a callback that edits every element by itself.
* `enumerate_ctx_filter` — the elements a callback has nothing to do with.
* `editFirst_forall`, `editFirst_exists` — the same for an edit of the first element
  a search finds.
* `editFirst_filter`, `filter_of_editFirst` — an edit of some part of the list, and of
  the rest.
-/

/-- What a callback leaves behind. -/
structure Visited (α σ : Type*) where
  /-- The element, unless the callback took it out of the list. -/
  kept : Option α
  ctx : σ
  /-- The enumeration goes on. -/
  more : Bool

section Enumerate

variable {α σ : Type*} {cb : σ → α → Visited α σ} {P : α → Prop} {I : σ → Prop}

/-- The list and the context after `cb` has been shown the elements of the list. -/
def enumerate (cb : σ → α → Visited α σ) : List α → σ → List α × σ
  | [], ctx => ([], ctx)
  | a :: as, ctx =>
    let visit := cb ctx a
    if visit.more then
      let rest := enumerate cb as visit.ctx
      (visit.kept.toList ++ rest.1, rest.2)
    else (visit.kept.toList ++ as, visit.ctx)

@[simp] theorem enumerate_nil (ctx : σ) : enumerate cb [] ctx = ([], ctx) := rfl

theorem enumerate_cons (a : α) (as : List α) (ctx : σ) :
    enumerate cb (a :: as) ctx =
      if (cb ctx a).more then
        ((cb ctx a).kept.toList ++ (enumerate cb as (cb ctx a).ctx).1,
          (enumerate cb as (cb ctx a).ctx).2)
      else ((cb ctx a).kept.toList ++ as, (cb ctx a).ctx) := rfl

/-- A callback that keeps `P` of the element it is shown and `I` of its context keeps
both, whether it stops or not. -/
theorem enumerate_forall
    (hcb : ∀ ctx a, I ctx → P a → I (cb ctx a).ctx ∧ ∀ b ∈ (cb ctx a).kept, P b) :
    ∀ (as : List α) (ctx : σ), I ctx → (∀ a ∈ as, P a) →
      I (enumerate cb as ctx).2 ∧ ∀ b ∈ (enumerate cb as ctx).1, P b := by
  intro as
  induction as with
  | nil =>
    intro ctx hctx _
    exact ⟨hctx, fun b hb => absurd hb List.not_mem_nil⟩
  | cons a as ih =>
    intro ctx hctx has
    obtain ⟨hnext, hkept⟩ := hcb ctx a hctx (has a List.mem_cons_self)
    have htail : ∀ b ∈ as, P b := fun b hb => has b (List.mem_cons_of_mem a hb)
    rw [enumerate_cons]
    split
    · obtain ⟨hend, hrest⟩ := ih (cb ctx a).ctx hnext htail
      refine ⟨hend, fun b hb => ?_⟩
      rcases List.mem_append.mp hb with hb | hb
      · exact hkept b (Option.mem_toList.mp hb)
      · exact hrest b hb
    · -- the callback stopped: the rest of the list is as it was
      refine ⟨hnext, fun b hb => ?_⟩
      rcases List.mem_append.mp hb with hb | hb
      · exact hkept b (Option.mem_toList.mp hb)
      · exact htail b hb

/-- A callback that never stops and leaves `f a` for `a`, whatever its context. -/
theorem enumerate_eq_map {f : α → α} (hmore : ∀ ctx a, (cb ctx a).more = true)
    (hkept : ∀ ctx a, (cb ctx a).kept = some (f a)) :
    ∀ (as : List α) (ctx : σ), (enumerate cb as ctx).1 = as.map f := by
  intro as
  induction as with
  | nil =>
    intro ctx
    rfl
  | cons a as ih =>
    intro ctx
    rw [enumerate_cons, if_pos (hmore ctx a), hkept ctx a, ih]
    rfl

/-- A callback that never stops and counts along: it leaves `f i a` for the `i`-th element,
where its context is `c i`. -/
theorem enumerate_eq_mapIdx {f : ℕ → α → α} {c : ℕ → σ}
    (hcb : ∀ i a, cb (c i) a = ⟨some (f i a), c (i + 1), true⟩) :
    ∀ (as : List α) (i : ℕ), (enumerate cb as (c i)).1 = as.mapIdx fun j a => f (i + j) a := by
  intro as
  induction as with
  | nil =>
    intro i
    rfl
  | cons a as ih =>
    intro i
    rw [enumerate_cons, hcb, if_pos rfl, ih, List.mapIdx_cons]
    simp only [Option.toList_some, List.singleton_append, Nat.add_zero, Nat.add_assoc,
      Nat.add_comm 1]

/-- Callbacks that do the same with the elements of the list. -/
theorem enumerate_congr {cb' : σ → α → Visited α σ} :
    ∀ {as : List α}, (∀ a ∈ as, ∀ ctx, cb ctx a = cb' ctx a) →
      ∀ ctx : σ, enumerate cb as ctx = enumerate cb' as ctx := by
  intro as
  induction as with
  | nil => exact fun _ _ => rfl
  | cons a as ih =>
    intro h ctx
    obtain ⟨ha, has⟩ := List.forall_mem_cons.mp h
    rw [enumerate_cons, enumerate_cons, ha ctx, ih has]

/-- The elements for which a callback leaves its context alone make no difference to the
context. -/
theorem enumerate_ctx_filter {p : α → Bool} (hmore : ∀ ctx a, (cb ctx a).more = true) :
    ∀ {as : List α}, (∀ a ∈ as, p a = false → ∀ ctx, (cb ctx a).ctx = ctx) →
      ∀ ctx : σ, (enumerate cb as ctx).2 = (enumerate cb (as.filter p) ctx).2 := by
  intro as
  induction as with
  | nil => exact fun _ _ => rfl
  | cons a as ih =>
    intro h ctx
    obtain ⟨ha, has⟩ := List.forall_mem_cons.mp h
    rw [enumerate_cons, if_pos (hmore ctx a)]
    cases hp : p a with
    | true =>
      rw [List.filter_cons_of_pos hp, enumerate_cons, if_pos (hmore ctx a)]
      exact ih has _
    | false =>
      rw [List.filter_cons_of_neg (by simp [hp]), ha hp ctx]
      exact ih has ctx

/-! ### Editing what a search finds -/

/-- `f` applied to the first element with `p`; `none` if there is no such element. -/
def editFirst (p : α → Bool) (f : α → α) : List α → Option (List α)
  | [] => none
  | a :: as => if p a then some (f a :: as) else (editFirst p f as).map fun bs => a :: bs

theorem editFirst_forall {p : α → Bool} {f : α → α} (hf : ∀ a, P a → P (f a)) :
    ∀ {as bs : List α}, editFirst p f as = some bs → (∀ a ∈ as, P a) → ∀ b ∈ bs, P b := by
  intro as
  induction as with
  | nil =>
    intro bs h
    cases h
  | cons a as ih =>
    intro bs h has
    have htail : ∀ b ∈ as, P b := fun b hb => has b (List.mem_cons_of_mem a hb)
    unfold editFirst at h
    split at h
    · cases h
      exact List.forall_mem_cons.mpr ⟨hf a (has a List.mem_cons_self), htail⟩
    · obtain ⟨cs, hcs, rfl⟩ := Option.map_eq_some_iff.mp h
      exact List.forall_mem_cons.mpr ⟨has a List.mem_cons_self, ih hcs htail⟩

theorem editFirst_exists {p : α → Bool} {f : α → α} (hf : ∀ a, P a → P (f a)) :
    ∀ {as bs : List α}, editFirst p f as = some bs → (∃ a ∈ as, P a) → ∃ b ∈ bs, P b := by
  intro as
  induction as with
  | nil =>
    intro bs h
    cases h
  | cons a as ih =>
    rintro bs h ⟨c, hc, hp⟩
    unfold editFirst at h
    split at h
    · cases h
      rcases List.mem_cons.mp hc with rfl | hc
      · exact ⟨f c, List.mem_cons_self, hf c hp⟩
      · exact ⟨c, List.mem_cons_of_mem _ hc, hp⟩
    · obtain ⟨cs, hcs, rfl⟩ := Option.map_eq_some_iff.mp h
      rcases List.mem_cons.mp hc with rfl | hc
      · exact ⟨c, List.mem_cons_self, hp⟩
      · obtain ⟨b, hb, hpb⟩ := ih hcs ⟨c, hc, hp⟩
        exact ⟨b, List.mem_cons_of_mem _ hb, hpb⟩

section Filter

variable {p q : α → Bool} {f : α → α}

/-- A search for elements of one part of a list. -/
theorem editFirst_filter (hf : ∀ a, p (f a) = p a) :
    ∀ {as : List α}, (∀ a ∈ as, q a = true → p a = true) →
      editFirst q f (as.filter p) = (editFirst q f as).map fun bs => bs.filter p := by
  intro as
  induction as with
  | nil => exact fun _ => rfl
  | cons a as ih =>
    intro h
    obtain ⟨ha, has⟩ := List.forall_mem_cons.mp h
    cases hp : p a with
    | true =>
      rw [List.filter_cons_of_pos hp]
      unfold editFirst
      split
      · simp [hf a, hp]
      · rw [ih has]
        cases editFirst q f as <;> simp [hp]
    | false =>
      have hq : ¬q a = true := fun hq => by simp [ha hq] at hp
      rw [List.filter_cons_of_neg (by simp [hp]), ih has]
      have hskip : editFirst q f (a :: as) = (editFirst q f as).map fun bs => a :: bs := if_neg hq
      rw [hskip]
      cases editFirst q f as <;> simp [hp]

/-- An edit of an element of the rest. -/
theorem filter_of_editFirst (hf : ∀ a, p (f a) = p a) :
    ∀ {as bs : List α}, editFirst q f as = some bs → (∀ a ∈ as, q a = true → p a = false) →
      bs.filter p = as.filter p := by
  intro as
  induction as with
  | nil =>
    intro bs h
    cases h
  | cons a as ih =>
    intro bs h has
    obtain ⟨ha, has⟩ := List.forall_mem_cons.mp has
    unfold editFirst at h
    split at h
    next hq =>
      cases h
      simp [hf a, ha hq]
    · obtain ⟨cs, hcs, rfl⟩ := Option.map_eq_some_iff.mp h
      rw [List.filter_cons, List.filter_cons, ih hcs has]

/-- What an edit leaves is what was there, or an edit of something that was found. -/
theorem of_mem_editFirst :
    ∀ {as bs : List α}, editFirst q f as = some bs →
      ∀ b ∈ bs, b ∈ as ∨ ∃ a ∈ as, q a = true ∧ b = f a := by
  intro as
  induction as with
  | nil =>
    intro bs h
    cases h
  | cons a as ih =>
    intro bs h b hb
    unfold editFirst at h
    split at h
    next hq =>
      cases h
      rcases List.mem_cons.mp hb with rfl | hb
      · exact Or.inr ⟨a, List.mem_cons_self, hq, rfl⟩
      · exact Or.inl (List.mem_cons_of_mem a hb)
    · obtain ⟨cs, hcs, rfl⟩ := Option.map_eq_some_iff.mp h
      rcases List.mem_cons.mp hb with rfl | hb
      · exact Or.inl List.mem_cons_self
      · rcases ih hcs b hb with hb | ⟨c, hc, hq, rfl⟩
        · exact Or.inl (List.mem_cons_of_mem a hb)
        · exact Or.inr ⟨c, List.mem_cons_of_mem a hc, hq, rfl⟩

theorem editFirst_eq_none : ∀ {as : List α}, editFirst q f as = none ↔ ∀ a ∈ as, q a = false := by
  intro as
  induction as with
  | nil => simp [editFirst]
  | cons a as ih =>
    unfold editFirst
    cases hq : q a <;> simp [hq, ih]

end Filter

/-! ### Editing again and again -/

section EditHead

variable {q : α → Bool} {f : α → α}

/-- The list after an edit of the first element with `q`, if there is one. -/
def editHead (q : α → Bool) (f : α → α) (as : List α) : List α := (editFirst q f as).getD as

theorem editFirst_cons (a : α) (as : List α) :
    editFirst q f (a :: as) =
      if q a then some (f a :: as) else (editFirst q f as).map fun bs => a :: bs := rfl

theorem editHead_cons (a : α) (as : List α) :
    editHead q f (a :: as) = if q a then f a :: as else a :: editHead q f as := by
  rw [editHead, editFirst_cons]
  split
  · rfl
  · unfold editHead
    cases editFirst q f as <;> rfl

theorem map_editHead {β : Type*} {g : α → β} (hf : ∀ a, g (f a) = g a) (as : List α) :
    (editHead q f as).map g = as.map g := by
  induction as with
  | nil => rfl
  | cons a as ih =>
    rw [editHead_cons]
    split
    · rw [List.map_cons, List.map_cons, hf]
    · rw [List.map_cons, List.map_cons, ih]

theorem editHead_of_forall (h : ∀ a ∈ as, q a = false) : editHead q f as = as := by
  rw [editHead, editFirst_eq_none.mpr h, Option.getD_none]

/-- A search in two lists finds in the first, if it can. -/
theorem editFirst_append_of_exists {bs : List α} :
    ∀ {as : List α}, (∃ a ∈ as, q a = true) →
      editFirst q f (as ++ bs) = some (editHead q f as ++ bs) := by
  intro as
  induction as with
  | nil =>
    rintro ⟨a, ha, -⟩
    cases ha
  | cons a as ih =>
    intro h
    rw [List.cons_append, editFirst_cons, editHead_cons]
    split
    · rfl
    next hq =>
      have hrest : ∃ b ∈ as, q b = true := by
        obtain ⟨b, hb, hqb⟩ := h
        rcases List.mem_cons.mp hb with rfl | hb
        · exact absurd hqb hq
        · exact ⟨b, hb, hqb⟩
      rw [ih hrest]
      rfl

/-- Otherwise it finds in the second. -/
theorem editFirst_append_of_forall {bs : List α} :
    ∀ {as : List α}, (∀ a ∈ as, q a = false) →
      editFirst q f (as ++ bs) = (editFirst q f bs).map fun cs => as ++ cs := by
  intro as
  induction as with
  | nil =>
    intro _
    rw [List.nil_append]
    cases editFirst q f bs <;> rfl
  | cons a as ih =>
    intro h
    obtain ⟨ha, has⟩ := List.forall_mem_cons.mp h
    rw [List.cons_append, editFirst_cons, if_neg (by simp [ha]), ih has]
    cases editFirst q f bs <;> rfl

end EditHead

end Enumerate
