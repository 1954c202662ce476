import Mathlib.Logic.Function.Basic

/-!
# Code over named fields

A piece of code that reads and writes named fields of one object, and does other
things that are seen from outside, its effects.  What the code does depends on the
object only through the fields it reads before it writes them, its exposed reads.

## Main definitions

* `Access` — the code.
* `Access.final`, `Access.result`, `Access.effects` — what a run leaves, returns and does.
* `Access.Exposes`, `Access.Assigns` — the fields a run reads before it writes them,
  and those it writes.
* `Access.SameFor` — two objects have the same values where it matters.

## Main results

* `Access.exposes_bind` — the exposed reads of two pieces of code, one after the other.
* `Access.SameFor.effects` — the code does the same to objects that are the same for it.
-/

/-- Code over fields with values in `V` and effects `E`, which ends with a result. -/
inductive Access {F : Type} (V : F → Type) (E α : Type) : Type
  | done (a : α)
  | read (f : F) (k : V f → Access V E α)
  | write (f : F) (v : V f) (k : Access V E α)
  | emit (e : E) (k : Access V E α)

namespace Access

variable {F : Type} {V : F → Type} {E α β : Type}

/-- One piece of code after the other. -/
protected def bind : Access V E α → (α → Access V E β) → Access V E β
  | done a, k => k a
  | read f p, k => read f fun v => (p v).bind k
  | write f v p, k => write f v (p.bind k)
  | emit e p, k => emit e (p.bind k)

instance : Monad (Access V E) where
  pure := done
  bind := Access.bind

/-- A field is read. -/
@[simp] def load (f : F) : Access V E (V f) := read f done

/-- A field is written. -/
@[simp] def put (f : F) (v : V f) : Access V E Unit := write f v (done ())

/-- Something else is done. -/
@[simp] def tell (e : E) : Access V E Unit := emit e (done ())

/-! ### The parts of code -/

@[simp] theorem pure_eq_done (a : α) : (pure a : Access V E α) = done a := rfl

@[simp] theorem done_bind (a : α) (k : α → Access V E β) : done a >>= k = k a := rfl

@[simp] theorem read_bind (f : F) (p : V f → Access V E α) (k : α → Access V E β) :
    read f p >>= k = read f fun v => p v >>= k := rfl

@[simp] theorem write_bind (f : F) (v : V f) (p : Access V E α) (k : α → Access V E β) :
    write f v p >>= k = write f v (p >>= k) := rfl

@[simp] theorem emit_bind (e : E) (p : Access V E α) (k : α → Access V E β) :
    emit e p >>= k = emit e (p >>= k) := rfl

/-! ### Runs -/

section Runs

variable [DecidableEq F]

/-- The fields after a run. -/
@[simp] def final : Access V E α → (∀ f, V f) → ∀ f, V f
  | done _, s => s
  | read f k, s => (k (s f)).final s
  | write f v k, s => k.final (Function.update s f v)
  | emit _ k, s => k.final s

/-- The result of a run. -/
@[simp] def result : Access V E α → (∀ f, V f) → α
  | done a, _ => a
  | read f k, s => (k (s f)).result s
  | write f v k, s => k.result (Function.update s f v)
  | emit _ k, s => k.result s

/-- The effects of a run. -/
@[simp] def effects : Access V E α → (∀ f, V f) → List E
  | done _, _ => []
  | read f k, s => (k (s f)).effects s
  | write f v k, s => k.effects (Function.update s f v)
  | emit e k, s => e :: k.effects s

/-- A run reads the field before it writes it. -/
@[simp] def Exposes : Access V E α → (∀ f, V f) → F → Prop
  | done _, _, _ => False
  | read f k, s, g => g = f ∨ (k (s f)).Exposes s g
  | write f v k, s, g => g ≠ f ∧ k.Exposes (Function.update s f v) g
  | emit _ k, s, g => k.Exposes s g

/-- A run writes the field. -/
@[simp] def Assigns : Access V E α → (∀ f, V f) → F → Prop
  | done _, _, _ => False
  | read f k, s, g => (k (s f)).Assigns s g
  | write f v k, s, g => g = f ∨ k.Assigns (Function.update s f v) g
  | emit _ k, s, g => k.Assigns s g

/-- The objects have the same value in every field the code reads before it writes it. -/
def SameFor (p : Access V E α) (s t : ∀ f, V f) : Prop := ∀ f, p.Exposes s f → s f = t f

variable {s t : ∀ f, V f} {f g : F}

/-! ### Branches -/

section Branches

variable {c : Prop} [Decidable c] (p q : Access V E α)

@[simp] theorem final_ite :
    (if c then p else q).final s = if c then p.final s else q.final s := by split <;> rfl

@[simp] theorem result_ite :
    (if c then p else q).result s = if c then p.result s else q.result s := by split <;> rfl

@[simp] theorem exposes_ite :
    (if c then p else q).Exposes s g ↔ if c then p.Exposes s g else q.Exposes s g := by
  split <;> rfl

@[simp] theorem assigns_ite :
    (if c then p else q).Assigns s g ↔ if c then p.Assigns s g else q.Assigns s g := by
  split <;> rfl

end Branches

/-! ### One after the other -/

@[simp] theorem final_bind (p : Access V E α) (k : α → Access V E β) :
    (p >>= k).final s = (k (p.result s)).final (p.final s) := by
  induction p generalizing s with
  | done a => rfl
  | read f p ih => exact ih (s f)
  | write f v p ih => exact ih
  | emit e p ih => exact ih

@[simp] theorem result_bind (p : Access V E α) (k : α → Access V E β) :
    (p >>= k).result s = (k (p.result s)).result (p.final s) := by
  induction p generalizing s with
  | done a => rfl
  | read f p ih => exact ih (s f)
  | write f v p ih => exact ih
  | emit e p ih => exact ih

/-- What the first piece writes, the second one does not expose. -/
@[simp] theorem exposes_bind (p : Access V E α) (k : α → Access V E β) :
    (p >>= k).Exposes s g ↔
      p.Exposes s g ∨ ¬p.Assigns s g ∧ (k (p.result s)).Exposes (p.final s) g := by
  induction p generalizing s with
  | done a => exact ⟨fun h => .inr ⟨id, h⟩, fun h => h.elim False.elim And.right⟩
  | read f p ih => exact (or_congr_right (ih (s f))).trans or_assoc.symm
  | write f v p ih =>
    refine (and_congr_right' ih).trans ?_
    show _ ↔ (g ≠ f ∧ _) ∨ ¬(g = f ∨ _) ∧ _
    rw [and_or_left, not_or, and_assoc]
    rfl
  | emit e p ih => exact ih

@[simp] theorem assigns_bind (p : Access V E α) (k : α → Access V E β) :
    (p >>= k).Assigns s g ↔ p.Assigns s g ∨ (k (p.result s)).Assigns (p.final s) g := by
  induction p generalizing s with
  | done a => exact (or_iff_right not_false).symm
  | read f p ih => exact ih (s f)
  | write f v p ih => exact (or_congr_right ih).trans or_assoc.symm
  | emit e p ih => exact ih

/-- A field that is not written keeps its value. -/
theorem final_of_not_assigns {p : Access V E α} (h : ¬p.Assigns s g) : p.final s g = s g := by
  induction p generalizing s with
  | done a => rfl
  | read f p ih => exact ih (s f) h
  | write f v p ih =>
    obtain ⟨hne, h⟩ := not_or.mp h
    exact (ih h).trans (Function.update_of_ne hne v s)
  | emit e p ih => exact ih h

/-! ### Objects that are the same for the code -/

namespace SameFor

variable {p : Access V E α}

theorem of_write {v : V f} (h : (write f v p).SameFor s t) :
    p.SameFor (Function.update s f v) (Function.update t f v) := by
  intro g hg
  by_cases hgf : g = f
  · subst hgf
    rw [Function.update_self, Function.update_self]
  · rw [Function.update_of_ne hgf, Function.update_of_ne hgf]
    exact h g ⟨hgf, hg⟩

theorem of_read {k : V f → Access V E α} (h : (read f k).SameFor s t) :
    s f = t f ∧ (k (s f)).SameFor s t :=
  ⟨h f (.inl rfl), fun g hg => h g (.inr hg)⟩

/-- **The code does the same to both.** -/
theorem effects (h : p.SameFor s t) : p.effects s = p.effects t := by
  induction p generalizing s t with
  | done a => rfl
  | read f k ih =>
    obtain ⟨hf, hk⟩ := h.of_read
    show (k (s f)).effects s = (k (t f)).effects t
    rw [← hf]
    exact ih _ hk
  | write f v p ih => exact ih h.of_write
  | emit e p ih => exact congrArg (e :: ·) (ih h)

theorem result (h : p.SameFor s t) : p.result s = p.result t := by
  induction p generalizing s t with
  | done a => rfl
  | read f k ih =>
    obtain ⟨hf, hk⟩ := h.of_read
    show (k (s f)).result s = (k (t f)).result t
    rw [← hf]
    exact ih _ hk
  | write f v p ih => exact ih h.of_write
  | emit e p ih => exact ih h

/-- It exposes the same fields of both. -/
theorem exposes_iff (h : p.SameFor s t) (g : F) : p.Exposes s g ↔ p.Exposes t g := by
  induction p generalizing s t with
  | done a => exact Iff.rfl
  | read f k ih =>
    obtain ⟨hf, hk⟩ := h.of_read
    show g = f ∨ (k (s f)).Exposes s g ↔ g = f ∨ (k (t f)).Exposes t g
    rw [← hf]
    exact or_congr_right (ih _ hk)
  | write f v p ih => exact and_congr_right fun _ => ih h.of_write
  | emit e p ih => exact ih h

protected theorem symm (h : p.SameFor s t) : p.SameFor t s :=
  fun g hg => (h g ((h.exposes_iff g).mpr hg)).symm

protected theorem trans {u : ∀ f, V f} (h : p.SameFor s t) (h' : p.SameFor t u) :
    p.SameFor s u :=
  fun g hg => (h g hg).trans (h' g ((h.exposes_iff g).mp hg))

end SameFor

end Runs

end Access
