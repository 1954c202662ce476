import LibusbK.Lib.Machine
import Mathlib.Data.List.Induction
import Mathlib.Logic.Function.Basic

/-!
# Registers that the steps of a machine write

A step of a machine may put something out.  Where what it puts out are the writes to the
registers of the state, a register holds, at the end of a run, what was written to it last, or
what it held at the start.

## Main definitions

* `Machine.outputs` — what the steps of a run put out, in order.
* `writeAll`, `lastWritten` — a list of writes, and the last of them to one register.

## Main result

* `Machine.exec_writeAll` — the registers after a run.
-/

variable {σ ε ω κ ν : Type*}

/-- What the steps of a run put out, in order. -/
def Machine.outputs (M : Machine σ ε) (out : σ → ε → List ω) : σ → List ε → List ω
  | _, [] => []
  | s, e :: es => out s e ++ (M.step s e).elim [] fun t => M.outputs out t es

section Writes

variable [DecidableEq κ]

/-- The registers after a list of writes. -/
def writeAll (registers : κ → ν) (writes : List (κ × ν)) : κ → ν :=
  writes.foldl (fun registers w => Function.update registers w.1 w.2) registers

/-- The last value that is written to a register. -/
def lastWritten (k : κ) (writes : List (κ × ν)) : Option ν :=
  ((writes.filter fun w => w.1 = k).getLast?).map Prod.snd

@[simp] theorem writeAll_nil (registers : κ → ν) : writeAll registers [] = registers := rfl

theorem writeAll_singleton (registers : κ → ν) (w : κ × ν) :
    writeAll registers [w] = Function.update registers w.1 w.2 := rfl

theorem writeAll_append (registers : κ → ν) (ws ws' : List (κ × ν)) :
    writeAll registers (ws ++ ws') = writeAll (writeAll registers ws) ws' :=
  List.foldl_append

/-- A register holds what was written to it last. -/
theorem writeAll_apply (registers : κ → ν) (writes : List (κ × ν)) (k : κ) :
    writeAll registers writes k = (lastWritten k writes).getD (registers k) := by
  induction writes using List.reverseRecOn with
  | nil => rfl
  | append_singleton ws w ih =>
    rw [writeAll_append, writeAll_singleton]
    unfold lastWritten
    by_cases hk : w.1 = k
    · subst hk
      simp
    · rw [Function.update_of_ne (Ne.symm hk), ih]
      unfold lastWritten
      simp [List.filter_append, hk]

end Writes

/-- **The registers after a run** are those at its start after the writes of its steps. -/
theorem Machine.exec_writeAll [DecidableEq κ] {M : Machine σ ε} {registers : σ → κ → ν}
    {out : σ → ε → List (κ × ν)}
    (hstep : ∀ s e t, M.step s e = some t → registers t = writeAll (registers s) (out s e))
    {es : List ε} : ∀ {s t : σ}, M.exec s es = some t →
      registers t = writeAll (registers s) (M.outputs out s es) := by
  induction es with
  | nil =>
    intro s t hrun
    cases hrun
    rfl
  | cons e es ih =>
    intro s t hrun
    simp only [Machine.exec, Option.bind_eq_some_iff] at hrun
    obtain ⟨u, hu, hrun⟩ := hrun
    simp only [Machine.outputs, hu, Option.elim_some]
    rw [writeAll_append, ← hstep s e u hu]
    exact ih hrun
