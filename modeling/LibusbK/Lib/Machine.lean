import Mathlib.Logic.Basic

/-!
# Machines, their runs, and conditions that decide a run

A machine is a partial step function: an event is refused or leads to one next
state.  Two predicates on runs are used throughout: `Throughout ok s es` says
every step a run takes meets the condition `ok` in the state it is taken in,
and `Always P s es` says `P` holds in every state the run visits.

## Main results

* `Throughout.always` — an invariant kept by the steps that meet a condition
  holds all along a run whose steps meet it.
* `always_iff_throughout` — when moreover a step that misses the condition
  leaves a state without `P`, the condition is exact: it decides `P`.
* `always_of_step` — the unconditional form.
-/

/-- A machine: the state each event leads to, if the event can happen there. -/
structure Machine (σ ε : Type*) where
  /-- The next state, or `none` when the event cannot happen. -/
  step : σ → ε → Option σ

namespace Machine

variable {σ ε : Type*} (M : Machine σ ε)

/-- The state after the events `es`, if all of them can happen. -/
def exec : σ → List ε → Option σ
  | s, [] => some s
  | s, e :: es => (M.step s e).bind fun t => exec t es

/-- Every step of the run on `es` meets `ok` in the state it is taken in. -/
def Throughout (ok : σ → ε → Prop) : σ → List ε → Prop
  | _, [] => True
  | s, e :: es => ∀ t, M.step s e = some t → ok s e ∧ Throughout ok t es

/-- `P` holds in every state the run on `es` visits. -/
def Always (P : σ → Prop) : σ → List ε → Prop
  | s, [] => P s
  | s, e :: es => P s ∧ ∀ t, M.step s e = some t → Always P t es

/-- The machine, with no events but those that satisfy `p`. -/
def restrict (p : ε → Bool) : Machine σ ε where
  step s e := if p e then M.step s e else none

variable {M}

theorem throughout_of_step_eq_none {ok : σ → ε → Prop} {s : σ} {e : ε} (h : M.step s e = none)
    (es : List ε) : M.Throughout ok s (e :: es) := by
  intro t ht
  cases h.symm.trans ht

theorem throughout_cons_iff {ok : σ → ε → Prop} {s t : σ} {e : ε} (h : M.step s e = some t)
    (es : List ε) : M.Throughout ok s (e :: es) ↔ ok s e ∧ M.Throughout ok t es := by
  refine ⟨fun hrun => hrun t h, fun hrun u hu => ?_⟩
  cases h.symm.trans hu
  exact hrun

/-- A run can be checked step by step. -/
instance decidableThroughout {ok : σ → ε → Prop} [∀ s e, Decidable (ok s e)] :
    ∀ (s : σ) (es : List ε), Decidable (M.Throughout ok s es)
  | _, [] => isTrue trivial
  | s, e :: es =>
    match h : M.step s e with
    | none => isTrue (throughout_of_step_eq_none h es)
    | some t =>
      have : Decidable (M.Throughout ok t es) := decidableThroughout t es
      decidable_of_iff _ (throughout_cons_iff h es).symm

theorem step_restrict_eq_some {p : ε → Bool} {s t : σ} {e : ε} :
    (M.restrict p).step s e = some t ↔ p e = true ∧ M.step s e = some t := by
  unfold restrict
  cases h : p e with
  | false => simp [h]
  | true => simp [h]

theorem Always.start {P : σ → Prop} {s : σ} {es : List ε} (h : M.Always P s es) : P s := by
  cases es with
  | nil => exact h
  | cons e es => exact h.1

/-- What always holds holds in the state a run ends in. -/
theorem Always.exec {P : σ → Prop} {es : List ε} :
    ∀ {s t : σ}, M.Always P s es → M.exec s es = some t → P t := by
  induction es with
  | nil =>
    intro s t h hx
    cases hx
    exact h
  | cons e es ih =>
    intro s t h hx
    simp only [Machine.exec, Option.bind_eq_some_iff] at hx
    obtain ⟨u, hu, hx⟩ := hx
    exact ih (h.2 u hu) hx

theorem Throughout.cons {ok : σ → ε → Prop} {s t : σ} {e : ε} {es : List ε}
    (h : M.step s e = some t) (hok : ok s e) (hrest : M.Throughout ok t es) :
    M.Throughout ok s (e :: es) :=
  (throughout_cons_iff h es).mpr ⟨hok, hrest⟩

/-- An invariant kept by the steps that meet `ok`, and from which `P` follows,
gives `P` all along a run whose steps meet `ok`. -/
theorem Throughout.always {ok : σ → ε → Prop} {I P : σ → Prop} (hIP : ∀ s, I s → P s)
    (hstep : ∀ s e t, I s → ok s e → M.step s e = some t → I t) {es : List ε} :
    ∀ {s : σ}, I s → M.Throughout ok s es → M.Always P s es := by
  induction es with
  | nil => exact fun hs _ => hIP _ hs
  | cons e es ih =>
    intro s hs h
    refine ⟨hIP s hs, fun t ht => ?_⟩
    obtain ⟨hok, hrest⟩ := h t ht
    exact ih (hstep s e t hs hok ht) hrest

/-- Where an invariant kept by the steps that meet `ok` makes them meet `ok'`, so does a
run. -/
theorem Throughout.imp {ok ok' : σ → ε → Prop} {I : σ → Prop}
    (hok : ∀ s e, I s → ok s e → ok' s e)
    (hstep : ∀ s e t, I s → ok s e → M.step s e = some t → I t) {es : List ε} :
    ∀ {s : σ}, I s → M.Throughout ok s es → M.Throughout ok' s es := by
  induction es with
  | nil => exact fun _ _ => trivial
  | cons e es ih =>
    intro s hs h t ht
    obtain ⟨hmeets, hrest⟩ := h t ht
    exact ⟨hok s e hs hmeets, ih (hstep s e t hs hmeets ht) hrest⟩

/-- Where an invariant kept by the steps that meet `ok'` makes `ok` and `ok'` the
same condition, they are the same condition on runs. -/
theorem throughout_congr {ok ok' : σ → ε → Prop} {I : σ → Prop}
    (hok : ∀ s e t, I s → M.step s e = some t → (ok s e ↔ ok' s e))
    (hstep : ∀ s e t, I s → ok' s e → M.step s e = some t → I t) {es : List ε} :
    ∀ {s : σ}, I s → (M.Throughout ok s es ↔ M.Throughout ok' s es) := by
  induction es with
  | nil => exact fun _ => Iff.rfl
  | cons e es ih =>
    intro s hs
    refine forall₂_congr fun t ht => ?_
    rw [hok s e t hs ht]
    exact and_congr_right fun hmeets => ih (hstep s e t hs hmeets ht)

/-- **A condition that decides a property of runs.**  If the steps that meet
`ok` keep the invariant, and a step from an invariant state that leaves `P`
true meets `ok`, then `P` holds all along a run exactly when its steps meet
`ok`. -/
theorem always_iff_throughout {ok : σ → ε → Prop} {I P : σ → Prop} (hIP : ∀ s, I s → P s)
    (hstep : ∀ s e t, I s → ok s e → M.step s e = some t → I t)
    (hexact : ∀ s e t, I s → M.step s e = some t → P t → ok s e) {es : List ε} :
    ∀ {s : σ}, I s → (M.Always P s es ↔ M.Throughout ok s es) := by
  induction es with
  | nil => exact fun hs => ⟨fun _ => trivial, fun _ => hIP _ hs⟩
  | cons e es ih =>
    intro s hs
    refine ⟨fun h t ht => ?_, Throughout.always hIP hstep hs⟩
    have hok : ok s e := hexact s e t hs ht (h.2 t ht).start
    exact ⟨hok, (ih (hstep s e t hs hok ht)).mp (h.2 t ht)⟩

/-- The same, where every step is shown either to keep the invariant or to destroy `P`. -/
theorem always_iff_throughout_not {bad : σ → ε → Prop} {I P : σ → Prop} (hIP : ∀ s, I s → P s)
    (hstep : ∀ s e t, I s → M.step s e = some t → ¬bad s e ∧ I t ∨ bad s e ∧ ¬P t)
    (es : List ε) {s : σ} (hs : I s) :
    M.Always P s es ↔ M.Throughout (fun s e => ¬bad s e) s es := by
  refine always_iff_throughout hIP ?_ ?_ hs
  · intro s e t hs hok ht
    rcases hstep s e t hs ht with h | h
    · exact h.2
    · exact absurd h.1 hok
  · intro s e t hs ht hP
    rcases hstep s e t hs ht with h | h
    · exact h.1
    · exact absurd hP h.2

/-- An invariant kept by every step holds all along every run. -/
theorem always_of_step {I P : σ → Prop} (hIP : ∀ s, I s → P s)
    (hstep : ∀ s e t, I s → M.step s e = some t → I t) (es : List ε) {s : σ} (hs : I s) :
    M.Always P s es := by
  have hall : M.Throughout (fun _ _ => True) s es := by
    clear hs
    induction es generalizing s with
    | nil => trivial
    | cons e es ih => exact fun t _ => ⟨trivial, ih⟩
  exact hall.always hIP (fun s e t hs _ ht => hstep s e t hs ht) hs

end Machine
