import Mathlib.Data.List.TakeWhile

/-!
# Lists of strings with terminators

A list of strings is written down as the strings one after the other, each with a terminator
behind it, and one more terminator, which is that of an empty string.  What is found in a buffer
may lack the last terminators.

## Main definitions

* `encode` — a list of strings, written down.
* `listed` — the strings that are listed in some data, terminated or not.
* `missing` — how many terminators the data lack.

## Main result

* `encode_listed_prefix_iff` — the data and what is behind them start with a list that is
  terminated if and only if the terminators that are missing are right behind the data.
-/

namespace MultiString

variable {α : Type*} [DecidableEq α] (z : α)

/-- The strings, each with its terminator, and the terminator of the empty string. -/
def encode (ss : List (List α)) : List α := ss.flatMap (· ++ [z]) ++ [z]

/-- The strings before the first empty one. -/
def listed (data : List α) : List (List α) := (data.splitOn z).takeWhile (· ≠ [])

/-- No terminator is missing if there is an empty string with its terminator, one if the last
string has its own, and else two. -/
def missing (data : List α) : ℕ :=
  if [] ∈ (data.splitOn z).dropLast then 0
  else if (data.splitOn z).getLast? = some [] then 1
  else 2

omit [DecidableEq α] in
@[simp] theorem encode_nil : encode z [] = [z] := rfl

omit [DecidableEq α] in
@[simp] theorem encode_cons (s : List α) (ss : List (List α)) :
    encode z (s :: ss) = s ++ z :: encode z ss := by
  unfold encode
  rw [List.flatMap_cons, List.append_assoc, List.append_assoc, List.singleton_append]

omit [DecidableEq α] in
theorem length_lt_length_encode (ss : List (List α)) : ss.length < (encode z ss).length := by
  induction ss with
  | nil => exact Nat.one_pos
  | cons s ss ih =>
    rw [encode_cons, List.length_append, List.length_cons, List.length_cons]
    omega

theorem missing_le (data : List α) : missing z data ≤ 2 := by
  unfold missing
  split_ifs <;> omega

variable {z} {s t data : List α}

/-! ### One string off the data -/

/-- Data without a terminator are one string. -/
theorem listed_of_not_mem (h : z ∉ data) : listed z data = if data = [] then [] else [data] := by
  rw [listed, List.splitOn_eq_singleton h]
  by_cases hnil : data = []
  · rw [List.takeWhile_cons_of_neg (by simpa using hnil), if_pos hnil]
  · rw [List.takeWhile_cons_of_pos (by simpa using hnil), List.takeWhile_nil, if_neg hnil]

theorem missing_of_not_mem (h : z ∉ data) : missing z data = if data = [] then 1 else 2 := by
  rw [missing, List.splitOn_eq_singleton h, List.dropLast_singleton, if_neg List.not_mem_nil,
    List.getLast?_singleton]
  simp only [Option.some.injEq]

theorem listed_append_cons (h : z ∉ s) :
    listed z (s ++ z :: t) = if s = [] then [] else s :: listed z t := by
  rw [listed, List.splitOn_append_cons_self_of_not_mem h]
  by_cases hnil : s = []
  · rw [List.takeWhile_cons_of_neg (by simpa using hnil), if_pos hnil]
  · rw [List.takeWhile_cons_of_pos (by simpa using hnil), if_neg hnil]
    rfl

theorem missing_append_cons (h : z ∉ s) :
    missing z (s ++ z :: t) = if s = [] then 0 else missing z t := by
  have hne : t.splitOn z ≠ [] := List.splitOn_ne_nil z t
  rw [missing, List.splitOn_append_cons_self_of_not_mem h, List.dropLast_cons_of_ne_nil hne,
    List.getLast?_cons, List.getLast?_eq_some_getLast hne, Option.getD_some]
  by_cases hnil : s = []
  · rw [if_pos (hnil ▸ List.mem_cons_self), if_pos hnil]
  · rw [if_neg hnil, missing, List.getLast?_eq_some_getLast hne]
    simp only [List.mem_cons, Ne.symm hnil, false_or]

/-- What is said of all data may be shown for one string, and for data with one string more. -/
theorem data_induction {P : List α → Prop} (hlast : ∀ s, z ∉ s → P s)
    (hcons : ∀ s t, z ∉ s → P t → P (s ++ z :: t)) (data : List α) : P data := by
  induction hn : data.length using Nat.strong_induction_on generalizing data with
  | _ n ih =>
    by_cases h : z ∈ data
    · obtain ⟨s, t, rfl, hs⟩ := List.eq_append_cons_of_mem h
      have hlt : t.length < n := by
        rw [← hn, List.length_append, List.length_cons]
        omega
      exact hcons s t hs (ih t.length hlt t rfl)
    · exact hlast data h

/-! ### The strings that are listed -/

/-- No string that is listed is empty or has a terminator in it. -/
theorem of_mem_listed (h : s ∈ listed z data) : s ≠ [] ∧ z ∉ s := by
  induction data using data_induction (z := z) with
  | hlast data hdata =>
    rw [listed_of_not_mem hdata] at h
    split_ifs at h with hnil
    · cases h
    · rw [List.mem_singleton.mp h]
      exact ⟨hnil, hdata⟩
  | hcons e t he ih =>
    rw [listed_append_cons he] at h
    split_ifs at h with hnil
    · cases h
    · rcases List.mem_cons.mp h with rfl | hmem
      · exact ⟨hnil, he⟩
      · exact ih hmem

/-- **The data and what is behind them start with a list that is terminated** if and only if
the terminators that are missing are right behind the data. -/
theorem encode_listed_prefix_iff (data behind : List α) :
    encode z (listed z data) <+: data ++ behind ↔
      List.replicate (missing z data) z <+: behind := by
  induction data using data_induction (z := z) with
  | hlast data hdata =>
    rw [listed_of_not_mem hdata, missing_of_not_mem hdata]
    by_cases hnil : data = []
    · rw [if_pos hnil, if_pos hnil, hnil, List.nil_append]
      rfl
    · rw [if_neg hnil, if_neg hnil, encode_cons, encode_nil, List.prefix_append_right_inj]
      rfl
  | hcons s t hs ih =>
    rw [listed_append_cons hs, missing_append_cons hs]
    by_cases hnil : s = []
    · rw [if_pos hnil, if_pos hnil, hnil]
      refine iff_of_true ?_ (List.nil_prefix)
      exact ⟨t ++ behind, rfl⟩
    · rw [if_neg hnil, if_neg hnil, encode_cons, List.append_assoc, List.cons_append,
        List.prefix_append_right_inj, List.cons_prefix_cons, and_iff_right rfl, ih]

end MultiString
