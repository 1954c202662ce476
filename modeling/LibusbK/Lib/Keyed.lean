import Mathlib.Data.List.Induction
import Mathlib.Data.List.Nodup

/-!
# Lists of elements found by a key

A list in which an element stands for its key: a search goes by the key, a write
goes to the element a search finds, and a new element goes to the end.  A list of
keys without repetitions, in the order they came, is `List.eraseDups`.

## Main definitions

* `Keyed.find`, `Keyed.update` — the search, and the write.

## Main results

* `Keyed.find_update` — what a search finds after a write.
* `Keyed.forall_update` — what a write has to show about the list.
* `Keyed.eraseDups_concat` — one more key.
-/

namespace Keyed

variable {α κ : Type*} [DecidableEq κ] {key : α → κ} {k : κ} {f : α → α} {l : List α}

/-- The first element with key `k`. -/
def find (key : α → κ) (k : κ) (l : List α) : Option α := l.find? fun a => key a = k

/-- `f` applied to the elements with key `k`. -/
def update (key : α → κ) (k : κ) (f : α → α) (l : List α) : List α :=
  l.map fun a => if key a = k then f a else a

@[simp] theorem find_nil (key : α → κ) (k : κ) : find key k [] = none := rfl

@[simp] theorem isSome_find : (find key k l).isSome = true ↔ k ∈ l.map key := by
  simp [find]

theorem mem_of_find {a : α} (h : find key k l = some a) : a ∈ l ∧ key a = k :=
  ⟨List.mem_of_find?_eq_some h, by simpa using List.find?_some h⟩

/-- A new element with a key that is not found comes only once. -/
theorem nodup_concat {a : α} (hnodup : (l.map key).Nodup) (hnone : find key (key a) l = none) :
    ((l ++ [a]).map key).Nodup := by
  have hnew : key a ∉ l.map key := by
    rw [← isSome_find, hnone]
    exact Bool.false_ne_true
  rw [List.map_append, List.map_singleton]
  exact List.nodup_append.mpr ⟨hnodup, List.nodup_singleton _, fun b hb c hc hbc =>
    hnew (List.mem_singleton.mp hc ▸ hbc ▸ hb)⟩

/-- Where no key comes twice, an element is what is found under its key. -/
theorem find_eq_some_of_mem {a : α} (hnodup : (l.map key).Nodup) (ha : a ∈ l) :
    find key (key a) l = some a := by
  obtain ⟨b, hb⟩ := Option.isSome_iff_exists.mp
    (isSome_find.mpr (List.mem_map_of_mem (f := key) ha))
  obtain ⟨hmem, hkey⟩ := mem_of_find hb
  rw [hb, List.inj_on_of_nodup_map hnodup hmem ha hkey]

/-- A write does not change the fields it does not write. -/
theorem map_update {β : Type*} {field : α → β} (hf : ∀ a, field (f a) = field a) :
    (update key k f l).map field = l.map field := by
  rw [update, List.map_map]
  refine List.map_congr_left fun a _ => ?_
  by_cases ha : key a = k <;> simp [ha, hf]

@[simp] theorem length_update : (update key k f l).length = l.length := by
  simp [update]

theorem find_update (hf : ∀ a, key (f a) = key a) :
    find key k (update key k f l) = (find key k l).map f := by
  induction l with
  | nil => rfl
  | cons a l ih =>
    simp only [find, update, List.map_cons, List.find?_cons] at ih ⊢
    by_cases ha : key a = k
    · simp [ha, hf]
    · simpa [ha] using ih

/-- What holds of every element holds of every element after a write, if `f` gives it
to those with key `k`. -/
theorem forall_update {P Q : α → Prop} (h : ∀ a ∈ l, P a)
    (hne : ∀ a, key a ≠ k → P a → Q a) (heq : ∀ a ∈ l, key a = k → P a → Q (f a)) :
    ∀ a ∈ update key k f l, Q a := by
  intro b hb
  obtain ⟨a, ha, rfl⟩ := List.mem_map.mp hb
  by_cases hk : key a = k
  · rw [if_pos hk]
    exact heq a ha hk (h a ha)
  · rw [if_neg hk]
    exact hne a hk (h a ha)

/-- One more key, in a list of keys without repetitions. -/
theorem eraseDups_concat (l : List κ) (k : κ) :
    (l ++ [k]).eraseDups = if k ∈ l then l.eraseDups else l.eraseDups ++ [k] := by
  rw [List.eraseDups_append]
  by_cases h : k ∈ l <;> simp [List.removeAll, List.eraseDups_cons, h]

theorem nodup_eraseDups (l : List κ) : l.eraseDups.Nodup := by
  induction l using List.reverseRecOn with
  | nil => simp
  | append_singleton l a ih =>
    rw [eraseDups_concat]
    by_cases ha : a ∈ l
    · rwa [if_pos ha]
    · rw [if_neg ha]
      refine List.nodup_append.mpr ⟨ih, by simp, fun b hb c hc hbc => ha ?_⟩
      rw [List.mem_singleton] at hc
      exact List.mem_eraseDups.mp (hc ▸ hbc ▸ hb)

end Keyed
