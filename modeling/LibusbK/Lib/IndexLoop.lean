import Mathlib.Data.List.Basic
import Mathlib.Logic.Function.Iterate

/-!
# Loops that count an index up while a call succeeds

`while (call(index, &value)) { .. index++ }`: a call either hands out a value or fails, and
both may change a state.  Where the call stands for a loop of its own, it may not return at all.

## Main definitions

* `IndexLoop.run` — what the loop collects.

## Main results

* `IndexLoop.run_eq` — a call that hands out the elements of a list and then fails.
-/

namespace IndexLoop

variable {ι σ α β : Type*}

/-- What the loop collects from `index` on, and the state it ends in; `none` where `calls` calls
are not enough. -/
def run (next : ι → ι) (call : ι → σ → Option (Option α × σ)) :
    ℕ → ι → σ → Option (List α × σ)
  | 0, _, _ => none
  | calls + 1, index, s =>
    (call index s).bind fun answer =>
      match answer.1 with
      | none => some ([], answer.2)
      | some a => (run next call calls (next index) answer.2).map fun rest =>
          (a :: rest.1, rest.2)

variable {next : ι → ι} {call : ι → σ → Option (Option α × σ)} {R : α → β → Prop}
  {I : σ → Prop}

/-- **The loop collects a list**: its values stand for the elements one after the other, where
the call hands them out in this order, and then fails. -/
theorem run_eq : ∀ {bs : List β} {index : ι} {calls : ℕ},
    (∀ k (hk : k < bs.length) s, I s →
      ∃ a s', call (next^[k] index) s = some (some a, s') ∧ R a bs[k] ∧ I s') →
    (∀ s, I s → ∃ s', call (next^[bs.length] index) s = some (none, s') ∧ I s') →
    bs.length < calls → ∀ {s : σ}, I s →
    ∃ as s', run next call calls index s = some (as, s') ∧ List.Forall₂ R as bs ∧ I s' := by
  intro bs
  induction bs with
  | nil =>
    intro index calls _ hend hcalls s hs
    obtain ⟨calls, rfl⟩ := Nat.exists_eq_add_one_of_ne_zero (Nat.ne_of_gt hcalls)
    obtain ⟨s', hcall, hs'⟩ := hend s hs
    have hcall' : call index s = some (none, s') := hcall
    refine ⟨[], s', ?_, .nil, hs'⟩
    rw [run, hcall']
    rfl
  | cons b bs ih =>
    intro index calls hcall hend hcalls s hs
    obtain ⟨calls, rfl⟩ := Nat.exists_eq_add_one_of_ne_zero (Nat.ne_of_gt (Nat.lt_of_le_of_lt
      (Nat.zero_le _) hcalls))
    obtain ⟨a, s₁, hfirst, hR, hs₁⟩ := hcall 0 (Nat.zero_lt_succ _) s hs
    obtain ⟨as, s', hrest, hall, hs'⟩ := @ih (next index) calls
      (fun k hk => hcall (k + 1) (Nat.succ_lt_succ hk)) hend (Nat.lt_of_succ_lt_succ hcalls) _ hs₁
    have hfirst' : call index s = some (some a, s₁) := hfirst
    refine ⟨a :: as, s', ?_, .cons hR hall, hs'⟩
    rw [run, hfirst', Option.bind_some, hrest]
    rfl

end IndexLoop
