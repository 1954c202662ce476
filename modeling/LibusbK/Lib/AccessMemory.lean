import LibusbK.Lib.Access

/-!
# Code over named fields, run in memory

The fields of an object lie in memory, where an access may fail, and a write to one field may
change another.  A run in memory does what the code does to an object with fields of their own
as long as it stays with fields that do not overlap.

## Main definitions

* `Access.Layout` — how fields are read from memory and written to it.
* `Access.runIn` — a run in memory; an access that fails ends it.
* `Access.Touches` — the fields a run reads or writes.
* `Access.Layout.Separates` — some fields are where memory can be accessed, and apart.

## Main results

* `Access.runIn_eq` — a run that touches only such fields.
-/

namespace Access

variable {F : Type} {V : F → Type} {E α β M : Type}

/-- How fields are read from memory and written to it. -/
structure Layout (V : F → Type) (M : Type) where
  load : ∀ f, M → Option (V f)
  store : ∀ f, V f → M → Option M

/-- A run in memory, which ends where an access fails. -/
def runIn (L : Layout V M) : Access V E α → M → Option (α × M)
  | done a, m => some (a, m)
  | read f k, m => (L.load f m).bind fun v => (k v).runIn L m
  | write f v k, m => (L.store f v m).bind (k.runIn L)
  | emit _ k, m => k.runIn L m

section Runs

variable [DecidableEq F] {L : Layout V M} {I : M → Prop} {good : F → Prop} {s : ∀ f, V f}
  {m : M} {g : F}

/-- A run reads or writes the field. -/
@[simp] def Touches : Access V E α → (∀ f, V f) → F → Prop
  | done _, _, _ => False
  | read f k, s, g => g = f ∨ (k (s f)).Touches s g
  | write f v k, s, g => g = f ∨ k.Touches (Function.update s f v) g
  | emit _ k, s, g => k.Touches s g

@[simp] theorem touches_bind (p : Access V E α) (k : α → Access V E β) :
    (p >>= k).Touches s g ↔ p.Touches s g ∨ (k (p.result s)).Touches (p.final s) g := by
  induction p generalizing s with
  | done a => exact (or_iff_right not_false).symm
  | read f p ih => exact (or_congr_right (ih (s f))).trans or_assoc.symm
  | write f v p ih => exact (or_congr_right ih).trans or_assoc.symm
  | emit e p ih => exact ih

@[simp] theorem touches_ite {c : Prop} [Decidable c] (p q : Access V E α) :
    (if c then p else q).Touches s g ↔ if c then p.Touches s g else q.Touches s g := by
  split <;> rfl

/-- The fields that are good can be accessed, and a write to one leaves the others alone.  `I`
is what a write to one of them keeps of the memory. -/
def Layout.Separates (L : Layout V M) (I : M → Prop) (good : F → Prop) : Prop :=
  ∀ {f} (v : V f) {m}, good f → I m →
    ∃ m', L.store f v m = some m' ∧ I m' ∧ L.load f m' = some v ∧
      ∀ g, good g → g ≠ f → L.load g m' = L.load g m

/-- The good fields have these values in memory. -/
def Layout.Holds (L : Layout V M) (good : F → Prop) (m : M) (s : ∀ f, V f) : Prop :=
  ∀ f, good f → L.load f m = some (s f)

/-- A write to a good field. -/
theorem Layout.Separates.store (hsep : L.Separates I good) {f : F} (v : V f) (hf : good f)
    (hI : I m) (hs : L.Holds good m s) :
    ∃ m', L.store f v m = some m' ∧ I m' ∧ L.Holds good m' (Function.update s f v) := by
  obtain ⟨m', hstore, hI', hself, hothers⟩ := hsep v hf hI
  refine ⟨m', hstore, hI', fun g hg => ?_⟩
  by_cases hgf : g = f
  · subst hgf
    rw [Function.update_self]
    exact hself
  · rw [Function.update_of_ne hgf, hothers g hg hgf]
    exact hs g hg

/-- **A run in memory that touches only good fields** does what it does to the fields. -/
theorem runIn_eq (hsep : L.Separates I good) {p : Access V E α} (hI : I m)
    (hs : L.Holds good m s) (ht : ∀ f, p.Touches s f → good f) :
    ∃ m', p.runIn L m = some (p.result s, m') ∧ I m' ∧ L.Holds good m' (p.final s) := by
  induction p generalizing m s with
  | done a => exact ⟨m, rfl, hI, hs⟩
  | read f k ih =>
    have hload := hs f (ht f (.inl rfl))
    obtain ⟨m', hrun, hm'⟩ := ih (s f) hI hs fun g hg => ht g (.inr hg)
    refine ⟨m', ?_, hm'⟩
    rw [runIn, hload]
    exact hrun
  | write f v p ih =>
    obtain ⟨m₁, hstore, hI₁, hs₁⟩ := hsep.store v (ht f (.inl rfl)) hI hs
    obtain ⟨m', hrun, hm'⟩ := ih hI₁ hs₁ fun g hg => ht g (.inr hg)
    refine ⟨m', ?_, hm'⟩
    rw [runIn, hstore]
    exact hrun
  | emit e p ih => exact ih hI hs ht

end Runs

end Access
