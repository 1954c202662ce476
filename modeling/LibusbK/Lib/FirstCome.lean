import Mathlib.Data.Nat.Notation
import Mathlib.Tactic.TypeStar

/-!
# Requests served first come

Requests for keys are served in order.  The first request for a key is served and
uses the key up; a later request for the same key is served only if it asks for the
key again.

## Main definitions

* `seenAfter`, `served` — the keys that are used up after a list of requests, and the
  requests of the list that are served.
* `turnedAway` — the requests that are not served, when none asks again.

## Main results

* `filter_served_of_again` — of requests that ask again, all are served.
* `filter_served_key` — of requests that do not ask again, exactly the first request
  for a key is served, if it is among them.
-/

section FirstCome

variable {ρ κ : Type*} [DecidableEq κ] (key : ρ → κ) (again : ρ → Bool)

/-- The keys that are used up after the requests `rs`, when `seen` were before. -/
def seenAfter : List κ → List ρ → List κ
  | seen, [] => seen
  | seen, r :: rs => seenAfter (if key r ∈ seen then seen else seen ++ [key r]) rs

/-- The requests of `rs` that are served, when the keys `seen` are used up. -/
def served : List κ → List ρ → List ρ
  | _, [] => []
  | seen, r :: rs =>
    if key r ∈ seen then
      if again r then r :: served seen rs else served seen rs
    else r :: served (seen ++ [key r]) rs

variable {key again}

theorem seenAfter_append (rs rs' : List ρ) :
    ∀ seen : List κ,
      seenAfter key seen (rs ++ rs') = seenAfter key (seenAfter key seen rs) rs' := by
  induction rs with
  | nil => exact fun _ => rfl
  | cons r rs ih => exact fun seen => ih _

theorem served_append (rs rs' : List ρ) :
    ∀ seen : List κ, served key again seen (rs ++ rs') =
      served key again seen rs ++ served key again (seenAfter key seen rs) rs' := by
  induction rs with
  | nil => exact fun _ => rfl
  | cons r rs ih =>
    intro seen
    by_cases hseen : key r ∈ seen
    · cases hagain : again r <;> simp [served, seenAfter, hseen, hagain, ih]
    · simp [served, seenAfter, hseen, ih]

/-- No request is served that was not made. -/
theorem served_sublist (rs : List ρ) :
    ∀ seen : List κ, (served key again seen rs).Sublist rs := by
  induction rs with
  | nil => exact fun _ => List.Sublist.refl _
  | cons r rs ih =>
    intro seen
    unfold served
    split
    · split
      · exact (ih seen).cons_cons r
      · exact (ih seen).cons r
    · exact (ih _).cons_cons r

/-- Of requests that ask again, all are served. -/
theorem filter_served_of_again {p : ρ → Bool} (hp : ∀ r, p r = true → again r = true)
    (rs : List ρ) : ∀ seen : List κ, (served key again seen rs).filter p = rs.filter p := by
  induction rs with
  | nil => exact fun _ => rfl
  | cons r rs ih =>
    intro seen
    by_cases hseen : key r ∈ seen
    · cases hr : p r with
      | true => simp [served, hseen, hp r hr, hr, ih]
      | false => cases hagain : again r <;> simp [served, hseen, hagain, hr, ih]
    · cases hr : p r <;> simp [served, hseen, hr, ih]

section Once

variable {p : ρ → Bool} (hp : ∀ r, p r = true → again r = false) (k : κ)

include hp

/-- No request for a key that is used up is served, unless it asks again. -/
theorem filter_served_of_mem (rs : List ρ) :
    ∀ {seen : List κ}, k ∈ seen →
      (served key again seen rs).filter (fun r => p r && key r = k) = [] := by
  induction rs with
  | nil => exact fun _ => rfl
  | cons r rs ih =>
    intro seen hk
    by_cases hseen : key r ∈ seen
    · cases hr : p r with
      | true => simp [served, hseen, hp r hr, ih hk]
      | false => cases hagain : again r <;> simp [served, hseen, hagain, hr, ih hk]
    · have hne : key r ≠ k := fun heq => hseen (heq ▸ hk)
      have hused : k ∈ seen ++ [key r] := List.mem_append_left _ hk
      have hrest := ih hused
      simp [served, hseen, hne, hrest]

/-- Of requests that do not ask again, exactly the first request for a key is served, if
it is among them. -/
theorem filter_served_key (rs : List ρ) :
    ∀ {seen : List κ}, k ∉ seen →
      (served key again seen rs).filter (fun r => p r && key r = k) =
        ((rs.find? fun r => key r = k).toList).filter p := by
  induction rs with
  | nil => exact fun _ => rfl
  | cons r rs ih =>
    intro seen hk
    by_cases hkey : key r = k
    · -- the first request for `k`: none after it is served
      subst hkey
      have hused : key r ∈ seen ++ [key r] := List.mem_append_right _ (List.mem_singleton_self _)
      have hserve : served key again seen (r :: rs) =
          r :: served key again (seen ++ [key r]) rs := if_neg hk
      rw [hserve, List.filter_cons, filter_served_of_mem hp _ rs hused, List.find?_cons]
      cases hr : p r <;> simp [hr]
    · by_cases hseen : key r ∈ seen
      · cases hagain : again r <;> simp [served, hseen, hagain, hkey, ih hk]
      · have hfree : k ∉ seen ++ [key r] := by
          simpa [hk] using fun heq : k = key r => hkey heq.symm
        simp [served, hseen, hkey, ih hfree]

end Once

/-! ### Requests that never ask again -/

section Never

variable (key)

/-- The requests for keys that are used up, when none asks again. -/
def turnedAway : List κ → List ρ → List ρ
  | _, [] => []
  | seen, r :: rs =>
    if key r ∈ seen then r :: turnedAway seen rs else turnedAway (seen ++ [key r]) rs

variable {key}

/-- Every request is served or turned away. -/
theorem served_perm (rs : List ρ) :
    ∀ seen : List κ,
      (served key (fun _ => false) seen rs ++ turnedAway key seen rs).Perm rs := by
  induction rs with
  | nil => exact fun _ => List.Perm.refl _
  | cons r rs ih =>
    intro seen
    unfold served turnedAway
    split
    · exact List.perm_middle.trans ((ih seen).cons r)
    · exact (ih _).cons r

theorem turnedAway_sublist (rs : List ρ) :
    ∀ seen : List κ, (turnedAway key seen rs).Sublist rs := by
  induction rs with
  | nil => exact fun _ => List.Sublist.refl _
  | cons r rs ih =>
    intro seen
    unfold turnedAway
    split
    · exact (ih seen).cons_cons r
    · exact (ih _).cons r

/-- The first request for a key that is used up is turned away. -/
theorem find?_turnedAway {k : κ} (rs : List ρ) :
    ∀ {seen : List κ}, k ∈ seen →
      (turnedAway key seen rs).find? (fun r => key r = k) = rs.find? fun r => key r = k := by
  induction rs with
  | nil => exact fun _ => rfl
  | cons r rs ih =>
    intro seen hk
    unfold turnedAway
    split
    · rw [List.find?_cons, List.find?_cons, ih hk]
    next hseen =>
      have hne : key r ≠ k := fun heq => hseen (heq ▸ hk)
      rw [ih (List.mem_append_left _ hk), List.find?_cons_of_neg (by simpa using hne)]

/-- Served is the first request for a key that is not used up. -/
theorem mem_served_iff {r : ρ} (rs : List ρ) :
    ∀ {seen : List κ}, r ∈ served key (fun _ => false) seen rs ↔
      key r ∉ seen ∧ rs.find? (fun a => key a = key r) = some r := by
  induction rs with
  | nil => simp [served]
  | cons a rs ih =>
    intro seen
    unfold served
    split
    next hseen =>
      simp only [Bool.false_eq_true, if_false]
      rw [ih]
      refine and_congr_right fun hr => ?_
      have hne : key a ≠ key r := fun heq => hr (heq ▸ hseen)
      rw [List.find?_cons_of_neg (by simpa using hne)]
    next hseen =>
      rw [List.mem_cons, ih]
      by_cases hkey : key a = key r
      · rw [List.find?_cons_of_pos (by simpa using hkey)]
        simp only [List.mem_append, List.mem_singleton, hkey, or_true, not_true, false_and,
          or_false, Option.some.injEq]
        exact ⟨fun hr => ⟨hkey ▸ hseen, hr.symm⟩, fun hr => hr.2.symm⟩
      · have hne : r ≠ a := fun heq => hkey (heq ▸ rfl)
        rw [List.find?_cons_of_neg (by simpa using hkey)]
        simp [hne, Ne.symm hkey]

end Never

end FirstCome
