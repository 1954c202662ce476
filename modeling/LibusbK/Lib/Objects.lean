import Mathlib.Data.Nat.Notation
import Mathlib.Logic.Function.Basic

/-!
# Object tables

A table of objects behind handles, as a driver framework keeps them: creating an
object returns a handle that was never used before, and a deleted object's
handle stays dead.

## Main results

* `Objects.get_create_self`, `Objects.get_create_of_ne` — what a creation changes.
* `Objects.get_delete_of_ne` — a deletion kills its own handle only.
* `Objects.lt_next_of_get` — a live handle was given out before, so a new one is
  no handle of any object.
-/

/-- A table of objects.  No handle from `next` on has been given out. -/
structure Objects (α : Type*) where
  get : ℕ → Option α
  next : ℕ
  get_of_le : ∀ handle, next ≤ handle → get handle = none

namespace Objects

variable {α : Type*} (o : Objects α)

/-- The table before anything is created. -/
def empty : Objects α where
  get _ := none
  next := 0
  get_of_le _ _ := rfl

theorem get_of_le_create (x : α) (handle : ℕ) (h : o.next + 1 ≤ handle) :
    Function.update o.get o.next (some x) handle = none := by
  rw [Function.update_of_ne (by omega)]
  exact o.get_of_le handle (by omega)

/-- Create an object; its handle is `o.next`. -/
def create (x : α) : Objects α where
  get := Function.update o.get o.next (some x)
  next := o.next + 1
  get_of_le := o.get_of_le_create x

theorem get_of_le_delete (dead handle : ℕ) (h : o.next ≤ handle) :
    Function.update o.get dead none handle = none := by
  by_cases heq : handle = dead
  · rw [heq, Function.update_self]
  · rw [Function.update_of_ne heq]
    exact o.get_of_le handle h

/-- Delete an object. -/
def delete (dead : ℕ) : Objects α where
  get := Function.update o.get dead none
  next := o.next
  get_of_le := o.get_of_le_delete dead

theorem get_of_le_modify (handle : ℕ) (f : α → α) (h : ℕ) (hh : o.next ≤ h) :
    Function.update o.get handle ((o.get handle).map f) h = none := by
  by_cases heq : h = handle
  · rw [heq, Function.update_self, o.get_of_le handle (heq ▸ hh)]
    rfl
  · rw [Function.update_of_ne heq]
    exact o.get_of_le h hh

/-- Change the object behind a handle, if there is one. -/
def modify (handle : ℕ) (f : α → α) : Objects α where
  get := Function.update o.get handle ((o.get handle).map f)
  next := o.next
  get_of_le := o.get_of_le_modify handle f

@[simp] theorem get_empty (handle : ℕ) : (empty : Objects α).get handle = none := rfl

@[simp] theorem get_create_self (x : α) : (o.create x).get o.next = some x :=
  Function.update_self _ _ _

theorem get_create_of_ne (x : α) {handle : ℕ} (h : handle ≠ o.next) :
    (o.create x).get handle = o.get handle :=
  Function.update_of_ne h _ _

@[simp] theorem get_delete_self (dead : ℕ) : (o.delete dead).get dead = none :=
  Function.update_self _ _ _

theorem get_delete_of_ne {dead handle : ℕ} (h : handle ≠ dead) :
    (o.delete dead).get handle = o.get handle :=
  Function.update_of_ne h _ _

theorem get_modify_self (handle : ℕ) (f : α → α) :
    (o.modify handle f).get handle = (o.get handle).map f :=
  Function.update_self _ _ _

theorem get_modify_of_ne {handle h : ℕ} (f : α → α) (hne : h ≠ handle) :
    (o.modify handle f).get h = o.get h :=
  Function.update_of_ne hne _ _

theorem get_modify (handle : ℕ) (f : α → α) (h : ℕ) :
    (o.modify handle f).get h = if h = handle then (o.get h).map f else o.get h := by
  split
  next heq => rw [heq, get_modify_self]
  next hne => exact get_modify_of_ne o f hne

variable {o}

@[ext] theorem ext {o o' : Objects α} (hget : o.get = o'.get) (hnext : o.next = o'.next) :
    o = o' := by
  cases o
  cases o'
  cases hget
  cases hnext
  rfl

/-- Two changes of one object. -/
theorem modify_modify {handle : ℕ} {f g : α → α} :
    (o.modify handle f).modify handle g = o.modify handle (g ∘ f) := by
  ext1
  · funext h
    simp only [get_modify]
    split
    · rw [Option.map_map]
    · rfl
  · rfl

theorem modify_congr {handle : ℕ} {f g : α → α}
    (h : ∀ x, o.get handle = some x → f x = g x) : o.modify handle f = o.modify handle g := by
  ext1
  · funext other
    simp only [get_modify]
    split
    next heq => exact Option.map_congr fun x hx => h x (heq ▸ hx)
    · rfl
  · rfl

theorem modify_create_of_ne {x : α} {handle : ℕ} {f : α → α} (h : handle ≠ o.next) :
    (o.create x).modify handle f = (o.modify handle f).create x := by
  ext1
  · funext other
    by_cases heq : other = handle
    · subst heq
      rw [get_modify_self, get_create_of_ne o x h, get_create_of_ne (o.modify other f) x h,
        get_modify_self]
    · rw [get_modify_of_ne _ _ heq]
      by_cases hnext : other = o.next
      · subst hnext
        exact (get_create_self o x).trans (get_create_self (o.modify handle f) x).symm
      · rw [get_create_of_ne o x hnext, get_create_of_ne (o.modify handle f) x hnext,
          get_modify_of_ne _ _ heq]
  · rfl

theorem modify_comm {handle handle' : ℕ} (h : handle ≠ handle') (f g : α → α) :
    (o.modify handle f).modify handle' g = (o.modify handle' g).modify handle f := by
  ext1
  · funext other
    simp only [get_modify]
    by_cases heq : other = handle
    · simp [heq, h]
    · simp [heq]
  · rfl

theorem modify_eq_self {handle : ℕ} {f : α → α} (h : ∀ x, o.get handle = some x → f x = x) :
    o.modify handle f = o := by
  ext1
  · funext other
    rw [get_modify]
    split
    next heq =>
      cases hx : o.get other with
      | none => rfl
      | some x => rw [Option.map_some, h x (heq ▸ hx)]
    · rfl
  · rfl

variable (o)

/-- A handle with an object behind it has been given out. -/
theorem lt_next_of_get {handle : ℕ} {x : α} (h : o.get handle = some x) : handle < o.next := by
  by_contra hle
  rw [o.get_of_le handle (by omega)] at h
  cases h

/-- An object that is deleted at once leaves no trace but its handle. -/
theorem get_delete_create (x : α) : ((o.create x).delete o.next).get = o.get := by
  funext handle
  by_cases h : handle = o.next
  · rw [h, get_delete_self, o.get_of_le o.next (Nat.le_refl _)]
  · rw [get_delete_of_ne _ h, get_create_of_ne o x h]

end Objects
