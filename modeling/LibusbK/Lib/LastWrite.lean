import Mathlib.Data.List.Basic
import Mathlib.Data.List.Induction
import Mathlib.Logic.Function.Basic

/-!
# The last writer of an entry

A table is written by a list of puts.  A put overwrites the entry of its key, or it
only fills an entry that is empty; what it writes may itself be empty.

## Main results

* `exists_putEntries` — an entry that is overwritten holds what one of those that
  overwrite it wrote.
* `putEntry_of_some` — what is not empty is only overwritten.
-/

/-- A put of a value, or of nothing, into the entry of a key. -/
structure Put (κ ν : Type*) where
  key : κ
  value : Option ν
  /-- The entry is written although it is not empty. -/
  overwrites : Bool

section LastWrite

variable {κ ν : Type*} [DecidableEq κ]

/-- A table after a put. -/
def putEntry (table : κ → Option ν) (p : Put κ ν) : κ → Option ν :=
  if p.overwrites ∨ table p.key = none then Function.update table p.key p.value else table

/-- A table after a list of puts. -/
def putEntries (table : κ → Option ν) (ps : List (Put κ ν)) : κ → Option ν :=
  ps.foldl putEntry table

theorem putEntries_cons (table : κ → Option ν) (p : Put κ ν) (ps : List (Put κ ν)) :
    putEntries table (p :: ps) = putEntries (putEntry table p) ps := rfl

theorem putEntries_append (table : κ → Option ν) (ps qs : List (Put κ ν)) :
    putEntries table (ps ++ qs) = putEntries (putEntries table ps) qs := List.foldl_append

theorem putEntry_of_ne {table : κ → Option ν} {p : Put κ ν} {k : κ} (h : k ≠ p.key) :
    putEntry table p k = table k := by
  unfold putEntry
  split
  · exact Function.update_of_ne h _ _
  · rfl

theorem putEntry_of_overwrites {table : κ → Option ν} {p : Put κ ν} (h : p.overwrites = true) :
    putEntry table p p.key = p.value := by
  unfold putEntry
  rw [if_pos (Or.inl h), Function.update_self]

/-- What is not empty is only overwritten. -/
theorem putEntry_of_some {table : κ → Option ν} {p : Put κ ν} {k : κ} {v : ν}
    (h : p.overwrites = false ∨ p.key ≠ k) (hk : table k = some v) :
    putEntry table p k = some v := by
  by_cases hkey : k = p.key
  · subst hkey
    have hfill : p.overwrites = false := h.resolve_right fun hne => hne rfl
    unfold putEntry
    rw [if_neg (by simp [hfill, hk]), hk]
  · rw [putEntry_of_ne hkey, hk]

/-- An entry that is overwritten, and never with nothing, holds what one of those that
overwrite it wrote. -/
theorem exists_putEntries {k : κ} {P : ν → Prop} (ps : List (Put κ ν)) (table : κ → Option ν)
    (hex : ∃ p ∈ ps, p.overwrites = true ∧ p.key = k)
    (hall : ∀ p ∈ ps, p.overwrites = true → p.key = k → ∃ v, p.value = some v ∧ P v) :
    ∃ v, putEntries table ps k = some v ∧ P v := by
  induction ps using List.reverseRecOn with
  | nil =>
    obtain ⟨p, hp, -⟩ := hex
    cases hp
  | append_singleton ps p ih =>
    rw [putEntries_append, putEntries_cons]
    by_cases hlast : p.overwrites = true ∧ p.key = k
    · -- the last writer
      obtain ⟨hover, rfl⟩ := hlast
      obtain ⟨v, hv, hPv⟩ := hall p (List.mem_append_right _ (List.mem_singleton_self p)) hover rfl
      exact ⟨v, (putEntry_of_overwrites hover).trans hv, hPv⟩
    · have hbefore : ∃ q ∈ ps, q.overwrites = true ∧ q.key = k := by
        obtain ⟨q, hq, hwrites⟩ := hex
        rcases List.mem_append.mp hq with hq | hq
        · exact ⟨q, hq, hwrites⟩
        · exact absurd (List.mem_singleton.mp hq ▸ hwrites) hlast
      obtain ⟨v, hv, hPv⟩ := ih hbefore fun q hq => hall q (List.mem_append_left _ hq)
      refine ⟨v, putEntry_of_some ?_ hv, hPv⟩
      cases hover : p.overwrites with
      | false => exact Or.inl rfl
      | true => exact Or.inr fun hkey => hlast ⟨hover, hkey⟩

end LastWrite
