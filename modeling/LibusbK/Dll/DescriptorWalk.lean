import LibusbK.Dll.Descriptors
import Mathlib.Tactic.SplitIfs

/-!
# Where the descriptor walk goes, and when it ends

Whatever the two loops of `u_Init_Config` do with a descriptor, they move on by its
`bLength`.  So the offsets visited are a function of memory alone, and while the
walk is on its way `Remaining` is the distance to the end that `wTotalLength`
gives.

## Main definitions

* `nthOffset`, `Walked` — the offsets of the walk, and how far it goes.
* `Walker.AtDescriptor` — a walk on its way, as opposed to one at its end.
* `Terminates` — the walk makes finitely many calls of `u_Desc_Next`.

## Main results

* `Walker.step_visit`, `Walker.step_rewind`, `Walker.step_last` — what one call of
  `u_Desc_Next` does.
* `uInitConfig_terminates_iff` — a descriptor is walked in finitely many calls, in
  any memory it may stand in, exactly when the walk meets no `bLength` of zero and
  stays in the buffer.
-/

namespace LibusbK

variable {mem : Memory} {alloc : ℕ → Allocs} {w : Walker}

/-! ### The offsets of the walk -/

/-- The offset of the `k`-th descriptor; the configuration descriptor is the zeroth. -/
def nthOffset (mem : Memory) : ℕ → ℕ
  | 0 => 0
  | k + 1 => nthOffset mem k + (mem (nthOffset mem k)).toNat

@[simp] theorem nthOffset_zero (mem : Memory) : nthOffset mem 0 = 0 := rfl

theorem nthOffset_succ (mem : Memory) (k : ℕ) :
    nthOffset mem (k + 1) = nthOffset mem k + (mem (nthOffset mem k)).toNat := rfl

/-- By `wTotalLength` there is a descriptor at `offset`. -/
def StandsAt (mem : Memory) (offset : ℕ) : Prop :=
  2 ≤ asUnsigned ((wTotalLength mem : ℤ) - offset)

instance (mem : Memory) (offset : ℕ) : Decidable (StandsAt mem offset) :=
  inferInstanceAs (Decidable (2 ≤ _))

/-- The walk goes as far as the `k`-th descriptor. -/
def Walked (mem : Memory) (k : ℕ) : Prop := ∀ j ≤ k, StandsAt mem (nthOffset mem j)

theorem Walked.standsAt {k : ℕ} (h : Walked mem k) : StandsAt mem (nthOffset mem k) :=
  h k (Nat.le_refl k)

theorem Walked.mono {j k : ℕ} (h : Walked mem k) (hjk : j ≤ k) : Walked mem j :=
  fun i hi => h i (Nat.le_trans hi hjk)

theorem walked_zero : Walked mem 0 ↔ StandsAt mem 0 := by
  refine ⟨Walked.standsAt, fun h j hj => ?_⟩
  obtain rfl : j = 0 := Nat.le_zero.mp hj
  exact h

theorem walked_succ {k : ℕ} :
    Walked mem (k + 1) ↔ Walked mem k ∧ StandsAt mem (nthOffset mem (k + 1)) := by
  refine ⟨fun h => ⟨h.mono (Nat.le_succ k), h.standsAt⟩, fun ⟨hk, hs⟩ j hj => ?_⟩
  rcases Nat.lt_or_eq_of_le hj with hlt | rfl
  · exact hk j (Nat.le_of_lt_succ hlt)
  · exact hs

theorem nthOffset_le (mem : Memory) (k : ℕ) : nthOffset mem k ≤ 255 * k := by
  induction k with
  | zero => simp
  | succ k ih =>
    have hb := (mem (nthOffset mem k)).toNat_lt
    simp only [nthOffset_succ]
    omega

/-- Where no length is zero, the offsets grow. -/
theorem le_nthOffset {k : ℕ} (h : ∀ j < k, mem (nthOffset mem j) ≠ 0) :
    k ≤ nthOffset mem k := by
  induction k with
  | zero => simp
  | succ k ih =>
    have hk : mem (nthOffset mem k) ≠ 0 := h k (Nat.lt_succ_self k)
    have hpos : (mem (nthOffset mem k)).toNat ≠ 0 := fun h0 => hk (UInt8.toNat_inj.mp h0)
    have hle := ih fun j hj => h j (Nat.lt_succ_of_lt hj)
    simp only [nthOffset_succ]
    omega

/-- At a length of zero the walk stays for ever. -/
theorem walked_of_zero {k : ℕ} (hw : Walked mem k) (h0 : mem (nthOffset mem k) = 0) (j : ℕ) :
    Walked mem j := by
  have hstay : ∀ i, nthOffset mem (k + i) = nthOffset mem k := by
    intro i
    induction i with
    | zero => rfl
    | succ i ih => simp [← Nat.add_assoc, nthOffset_succ, ih, h0]
  intro i _
  by_cases hik : i ≤ k
  · exact hw i hik
  · have hi := hstay (i - k)
    rw [Nat.add_sub_cancel' (Nat.le_of_not_le hik)] at hi
    rw [hi]
    exact hw.standsAt

/-! ### One call of `u_Desc_Next` -/

/-- The iterator of a walk on its way. -/
def iteratorAt (mem : Memory) (offset : ℕ) : DescriptorIterator :=
  { remaining := wTotalLength mem - offset, offset := offset }

@[simp] theorem iteratorAt_offset (mem : Memory) (offset : ℕ) :
    (iteratorAt mem offset).offset = offset := rfl

/-- A walk on its way: its iterator is at the descriptor it visited last. -/
def Walker.AtDescriptor (mem : Memory) (w : Walker) : Prop :=
  Walked mem w.visited ∧ w.desc = iteratorAt mem (nthOffset mem w.visited)

/-- A walk at its end: no call of `u_Desc_Next` succeeds any more. -/
def Walker.Ended (w : Walker) : Prop := asUnsigned w.desc.remaining < 2

theorem Walker.AtDescriptor.not_ended (h : w.AtDescriptor mem) : ¬ w.Ended := by
  rw [Walker.Ended, h.2]
  exact Nat.not_lt.mpr h.1.standsAt

/-- The frame after a call of `u_Desc_Next` that failed. -/
def Frame.left : Frame → Frame
  | .config => .done
  | .pipe _ _ _ => .config
  | .done => .done

@[simp] theorem Frame.left_ne_pipe (frame : Frame) (number alternate : UInt8)
    (prevPipe : Option UInt8) : frame.left ≠ .pipe number alternate prevPipe := by
  cases frame <;> simp [Frame.left]

/-- What the loop body of a walk leaves behind at a descriptor. -/
def Walker.body (mem : Memory) (alloc : ℕ → Allocs) (w : Walker) (desc : ℕ) : Visit :=
  match w.frame with
  | .config => uInitConfigBody mem (alloc w.visited) desc w.device
  | .pipe number alternate prevPipe =>
    uAddPipe mem (alloc w.visited) desc w.device number alternate prevPipe
  | .done => { device := w.device, frame := .done }

theorem uDescNext_ended {desc : DescriptorIterator} (h : asUnsigned desc.remaining < 2) :
    uDescNext mem desc = { result := false, desc := desc } := if_pos h

/-- On its way, the iterator goes from each descriptor to the next. -/
theorem Walker.AtDescriptor.uDescNext_eq (hw : w.AtDescriptor mem) :
    uDescNext mem w.desc =
      if StandsAt mem (nthOffset mem (w.visited + 1)) then
        { result := true
          desc := iteratorAt mem (nthOffset mem (w.visited + 1))
          reads := [nthOffset mem w.visited] }
      else
        { result := false
          desc :=
            { remaining := (wTotalLength mem : ℤ) - nthOffset mem (w.visited + 1)
              offset := nthOffset mem w.visited }
          reads := [nthOffset mem w.visited] } := by
  have hr : (wTotalLength mem : ℤ) - nthOffset mem w.visited -
      (mem (nthOffset mem w.visited)).toNat =
        wTotalLength mem - nthOffset mem (w.visited + 1) := by
    rw [nthOffset_succ]
    omega
  have hlt : ¬ asUnsigned ((wTotalLength mem : ℤ) - nthOffset mem w.visited) < 2 :=
    Nat.not_lt.mpr hw.1.standsAt
  rw [hw.2]
  simp only [uDescNext, iteratorAt, usbCommonDescriptorSize, if_neg hlt, hr]
  rfl

/-- A call at the end of the walk leaves the loop that makes it. -/
theorem Walker.step_ended (he : w.Ended) (hd : w.frame ≠ .done) :
    w.step mem alloc = { w with frame := w.frame.left } := by
  have hnext : uDescNext mem w.desc = { result := false, desc := w.desc } := uDescNext_ended he
  cases hf : w.frame with
  | config => simp [Walker.step, hnext, hf, Frame.left]
  | pipe number alternate prevPipe => simp [Walker.step, hnext, hf, Frame.left]
  | done => exact absurd hf hd

/-- The call after the last descriptor leaves the loop that makes it, and the walk at
its end. -/
theorem Walker.step_last (hw : w.AtDescriptor mem) (hd : w.frame ≠ .done)
    (hl : ¬ StandsAt mem (nthOffset mem (w.visited + 1))) :
    w.step mem alloc =
      { w with
        desc :=
          { remaining := (wTotalLength mem : ℤ) - nthOffset mem (w.visited + 1)
            offset := nthOffset mem w.visited }
        frame := w.frame.left
        reads := nthOffset mem w.visited :: w.reads } := by
  have hnext := hw.uDescNext_eq
  rw [if_neg hl] at hnext
  cases hf : w.frame with
  | config => simp [Walker.step, hnext, hf, Frame.left]
  | pipe number alternate prevPipe => simp [Walker.step, hnext, hf, Frame.left]
  | done => exact absurd hf hd

/-- `u_Add_Pipe` returns at an interface descriptor, and goes back before it. -/
theorem Walker.step_rewind {number alternate : UInt8} {prevPipe : Option UInt8}
    (hw : w.AtDescriptor mem) (hf : w.frame = .pipe number alternate prevPipe)
    (hs : StandsAt mem (nthOffset mem (w.visited + 1)))
    (ht : mem (nthOffset mem (w.visited + 1) + 1) = usbDescriptorTypeInterface) :
    w.step mem alloc =
      { w with
        frame := .config
        reads := (nthOffset mem (w.visited + 1) + 1) :: nthOffset mem w.visited :: w.reads } := by
  have hnext := hw.uDescNext_eq
  rw [if_pos hs] at hnext
  simp [Walker.step, hnext, hf, ht]

/-- Every other call runs the loop body at the next descriptor. -/
theorem Walker.step_visit (hw : w.AtDescriptor mem) (hd : w.frame ≠ .done)
    (hs : StandsAt mem (nthOffset mem (w.visited + 1)))
    (ht : w.frame = .config ∨
      mem (nthOffset mem (w.visited + 1) + 1) ≠ usbDescriptorTypeInterface) :
    w.step mem alloc =
      { desc := iteratorAt mem (nthOffset mem (w.visited + 1))
        device := (w.body mem alloc (nthOffset mem (w.visited + 1))).device
        frame := (w.body mem alloc (nthOffset mem (w.visited + 1))).frame
        visited := w.visited + 1
        reads := (w.body mem alloc (nthOffset mem (w.visited + 1))).reads ++
          (nthOffset mem (w.visited + 1) + 1) :: nthOffset mem w.visited :: w.reads } := by
  have hnext := hw.uDescNext_eq
  rw [if_pos hs] at hnext
  cases hf : w.frame with
  | config => simp [Walker.step, Walker.after, Walker.body, hnext, hf]
  | pipe number alternate prevPipe =>
    have ht := ht.resolve_left fun h => by rw [hf] at h; cases h
    simp [Walker.step, Walker.after, Walker.body, hnext, hf, ht]
  | done => exact absurd hf hd

/-! ### Runs of the walk -/

/-- What one call of `u_Desc_Next`, and the loop that makes it, can do to a walk. -/
inductive Walker.Moves (mem : Memory) (alloc : ℕ → Allocs) (w : Walker) : Walker → Prop
  | stop (hf : w.frame = .done) : Moves mem alloc w w
  | ended (hd : w.frame ≠ .done) (he : w.Ended) :
    Moves mem alloc w { w with frame := w.frame.left }
  | last (hd : w.frame ≠ .done) (hw : w.AtDescriptor mem)
    (hl : ¬ StandsAt mem (nthOffset mem (w.visited + 1))) :
    Moves mem alloc w
      { w with
        desc :=
          { remaining := (wTotalLength mem : ℤ) - nthOffset mem (w.visited + 1)
            offset := nthOffset mem w.visited }
        frame := w.frame.left
        reads := nthOffset mem w.visited :: w.reads }
  | rewind (number alternate : UInt8) (prevPipe : Option UInt8)
    (hf : w.frame = .pipe number alternate prevPipe) (hw : w.AtDescriptor mem)
    (hs : StandsAt mem (nthOffset mem (w.visited + 1)))
    (ht : mem (nthOffset mem (w.visited + 1) + 1) = usbDescriptorTypeInterface) :
    Moves mem alloc w
      { w with
        frame := .config
        reads := (nthOffset mem (w.visited + 1) + 1) :: nthOffset mem w.visited :: w.reads }
  | visit (hd : w.frame ≠ .done) (hw : w.AtDescriptor mem)
    (hs : StandsAt mem (nthOffset mem (w.visited + 1)))
    (ht : w.frame = .config ∨
      mem (nthOffset mem (w.visited + 1) + 1) ≠ usbDescriptorTypeInterface) :
    Moves mem alloc w
      { desc := iteratorAt mem (nthOffset mem (w.visited + 1))
        device := (w.body mem alloc (nthOffset mem (w.visited + 1))).device
        frame := (w.body mem alloc (nthOffset mem (w.visited + 1))).frame
        visited := w.visited + 1
        reads := (w.body mem alloc (nthOffset mem (w.visited + 1))).reads ++
          (nthOffset mem (w.visited + 1) + 1) :: nthOffset mem w.visited :: w.reads }

/-- A walk is at its end or on its way. -/
def Walker.OnTheWay (mem : Memory) (w : Walker) : Prop := w.Ended ∨ w.AtDescriptor mem

theorem Walker.moves (h : w.OnTheWay mem) : w.Moves mem alloc (w.step mem alloc) := by
  by_cases hd : w.frame = .done
  · have hstop : w.step mem alloc = w := by simp only [Walker.step, hd]
    rw [hstop]
    exact .stop hd
  rcases h with he | hw
  · rw [Walker.step_ended he hd]
    exact .ended hd he
  by_cases hs : StandsAt mem (nthOffset mem (w.visited + 1))
  · by_cases ht : w.frame = .config ∨
        mem (nthOffset mem (w.visited + 1) + 1) ≠ usbDescriptorTypeInterface
    · rw [Walker.step_visit hw hd hs ht]
      exact .visit hd hw hs ht
    · obtain ⟨hc, ht⟩ := not_or.mp ht
      cases hf : w.frame with
      | config => exact absurd hf hc
      | pipe number alternate prevPipe =>
        rw [Walker.step_rewind hw hf hs (Decidable.not_not.mp ht)]
        exact .rewind number alternate prevPipe hf hw hs (Decidable.not_not.mp ht)
      | done => exact absurd hf hd
  · rw [Walker.step_last hw hd hs]
    exact .last hd hw hs

theorem Walker.Moves.onTheWay {w' : Walker} (hm : w.Moves mem alloc w')
    (h : w.OnTheWay mem) : w'.OnTheWay mem := by
  cases hm with
  | stop hf => exact h
  | ended hd he => exact .inl he
  | last hd hw hl => exact .inl (Nat.not_le.mp hl)
  | rewind number alternate prevPipe hf hw hs ht => exact .inr hw
  | visit hd hw hs ht => exact .inr ⟨walked_succ.mpr ⟨hw.1, hs⟩, rfl⟩

theorem uInitConfig_onTheWay (mem : Memory) (device : DevHandle) :
    (uInitConfig mem device).OnTheWay mem := by
  by_cases hs : StandsAt mem 0
  · refine .inr ⟨walked_zero.mpr hs, ?_⟩
    simp [uInitConfig, iteratorAt]
  · refine .inl (Nat.not_le.mp fun h => hs ?_)
    simpa [StandsAt, uInitConfig] using h

@[simp] theorem walk_zero (mem : Memory) (alloc : ℕ → Allocs) :
    walk mem alloc 0 = uInitConfig mem {} := rfl

theorem walk_succ (mem : Memory) (alloc : ℕ → Allocs) (n : ℕ) :
    walk mem alloc (n + 1) = (walk mem alloc n).step mem alloc :=
  Function.iterate_succ_apply' _ n _

theorem walk_onTheWay (mem : Memory) (alloc : ℕ → Allocs) (n : ℕ) :
    (walk mem alloc n).OnTheWay mem := by
  induction n with
  | zero => exact uInitConfig_onTheWay mem {}
  | succ n ih =>
    rw [walk_succ]
    exact (Walker.moves ih).onTheWay ih

theorem walk_moves (mem : Memory) (alloc : ℕ → Allocs) (n : ℕ) :
    (walk mem alloc n).Moves mem alloc (walk mem alloc (n + 1)) := by
  rw [walk_succ]
  exact Walker.moves (walk_onTheWay mem alloc n)

/-- What the start of the walk has and every call keeps holds all along the walk. -/
theorem walk_invariant {P : Walker → Prop} (h0 : P (uInitConfig mem {}))
    (hstep : ∀ w w', P w → w.Moves mem alloc w' → P w') (n : ℕ) : P (walk mem alloc n) := by
  induction n with
  | zero => exact h0
  | succ n ih => exact hstep _ _ ih (walk_moves mem alloc n)

/-! ### Termination -/

/-- `u_Init_Config` makes finitely many calls of `u_Desc_Next`, whatever the
allocations return. -/
def Terminates (mem : Memory) : Prop :=
  ∀ alloc, ∃ calls, (walk mem alloc calls).frame = .done

/-- The loops still to be left, as a bound on the calls that visit no descriptor. -/
def Frame.rank : Frame → ℕ
  | .config => 1
  | .pipe _ _ _ => 2
  | .done => 0

theorem Frame.rank_left {frame : Frame} (h : frame ≠ .done) :
    frame.left.rank + 1 = frame.rank := by
  cases frame <;> simp_all [Frame.left, Frame.rank]

theorem Frame.rank_le (frame : Frame) : frame.rank ≤ 2 := by
  cases frame <;> simp [Frame.rank]

theorem Frame.rank_pos {frame : Frame} (h : frame ≠ .done) : 1 ≤ frame.rank := by
  cases frame <;> simp_all [Frame.rank]

/-- After a visit from the frame of `u_Init_Config` there is at most one more loop to
leave, and after one from that of `u_Add_Pipe` no more than before. -/
theorem Walker.rank_body (mem : Memory) (alloc : ℕ → Allocs) (w : Walker) (desc : ℕ) :
    (w.body mem alloc desc).frame.rank ≤ w.frame.rank + 1 := by
  have hle := (w.body mem alloc desc).frame.rank_le
  cases hf : w.frame with
  | config => simpa [Frame.rank] using hle
  | pipe number alternate prevPipe => exact Nat.le_trans hle (Nat.le_succ 2)
  | done => simp [Walker.body, hf, Frame.rank]

/-- A walk that visits fewer than `bound` descriptors ends. -/
theorem terminates_of_bound (bound : ℕ) (h : ∀ k, Walked mem k → k < bound) :
    Terminates mem := by
  intro alloc
  -- Each call uses up one of the loops to be left, or a descriptor, which counts for two.
  have hmeasure : ∀ n, (walk mem alloc n).frame ≠ .done →
      2 * (bound - (walk mem alloc n).visited) + (walk mem alloc n).frame.rank + n ≤
        2 * bound + 1 := by
    intro n
    induction n with
    | zero =>
      intro _
      simp [uInitConfig, Frame.rank]
    | succ n ih =>
      intro hd'
      have hm := walk_moves mem alloc n
      generalize walk mem alloc n = w at *
      generalize walk mem alloc (n + 1) = w' at *
      cases hm with
      | stop hf => exact absurd hf hd'
      | ended hd he =>
        have hr := Frame.rank_left hd
        have hi := ih hd
        simp only
        omega
      | last hd hw hl =>
        have hr := Frame.rank_left hd
        have hi := ih hd
        simp only
        omega
      | rewind number alternate prevPipe hf hw hs ht =>
        have hi := ih (by rw [hf]; simp)
        simp only [hf, Frame.rank] at hi ⊢
        omega
      | visit hd hw hs ht =>
        have hr := Walker.rank_body mem alloc w (nthOffset mem (w.visited + 1))
        have hb := h (w.visited + 1) (walked_succ.mpr ⟨hw.1, hs⟩)
        have hi := ih hd
        simp only
        omega
  refine ⟨2 * bound + 1, Decidable.byContradiction fun hd => ?_⟩
  have hle := hmeasure (2 * bound + 1) hd
  have hpos := Frame.rank_pos hd
  omega

/-- A loop body goes on with one of the two loops. -/
theorem Walker.body_frame_ne_done (hd : w.frame ≠ .done) (desc : ℕ) :
    (w.body mem alloc desc).frame ≠ .done := by
  cases hf : w.frame with
  | config =>
    simp only [Walker.body, hf, uInitConfigBody, uAddInterface]
    split_ifs
    · split
      · simp
      · split <;> simp
    · simp
  | pipe number alternate prevPipe =>
    simp only [Walker.body, hf, uAddPipe]
    split_ifs
    · split <;> simp
    · split <;> simp
    · simp
  | done => exact absurd hf hd

/-- A walk that never runs out of descriptors never ends. -/
theorem walk_ne_done (h : ∀ k, Walked mem k) (n : ℕ) :
    (walk mem alloc n).frame ≠ .done ∧ (walk mem alloc n).AtDescriptor mem := by
  refine walk_invariant (P := fun w => w.frame ≠ .done ∧ w.AtDescriptor mem) ?_ ?_ n
  · refine ⟨by simp [uInitConfig], ?_⟩
    refine (uInitConfig_onTheWay mem {}).resolve_left fun he => ?_
    have hs := (h 0).standsAt
    simp only [StandsAt, nthOffset_zero, Int.ofNat_zero, Int.sub_zero] at hs
    exact absurd hs (Nat.not_le.mpr he)
  · intro w w' ⟨hd, hw⟩ hm
    cases hm with
    | stop hf => exact absurd hf hd
    | ended _ he => exact absurd he hw.not_ended
    | last _ _ hl => exact absurd (h (w.visited + 1)).standsAt hl
    | rewind number alternate prevPipe hf _ hs ht => exact ⟨by simp, hw⟩
    | visit _ _ hs ht =>
      exact ⟨Walker.body_frame_ne_done hd _, walked_succ.mpr ⟨hw.1, hs⟩, rfl⟩

/-- A walk that meets a length of zero never ends. -/
theorem not_terminates_of_zero {k : ℕ} (hw : Walked mem k) (h0 : mem (nthOffset mem k) = 0) :
    ¬ Terminates mem := by
  intro hterm
  obtain ⟨n, hn⟩ := hterm fun _ => {}
  exact (walk_ne_done (walked_of_zero hw h0) n).1 hn

/-! ### The buffer and the memory behind it -/

/-- `mem` holds the bytes of the buffer, and anything behind it. -/
def Extends (bytes : List UInt8) (mem : Memory) : Prop :=
  ∀ i (h : i < bytes.length), mem i = bytes[i]

/-- The buffer, with zeros behind it. -/
def zeroExtend (bytes : List UInt8) : Memory := fun i => bytes.getD i 0

theorem extends_zeroExtend (bytes : List UInt8) : Extends bytes (zeroExtend bytes) := by
  intro i h
  simp [zeroExtend, h]

theorem Extends.eq_zeroExtend {bytes : List UInt8} (h : Extends bytes mem) {i : ℕ}
    (hi : i < bytes.length) : mem i = zeroExtend bytes i := by
  rw [h i hi, extends_zeroExtend bytes i hi]

theorem lt_length_of_zeroExtend_ne {bytes : List UInt8} {i : ℕ}
    (h : zeroExtend bytes i ≠ 0) : i < bytes.length := by
  refine Decidable.byContradiction fun hi => h ?_
  simp [zeroExtend, Nat.not_lt.mp hi]

theorem Extends.wTotalLength_eq {bytes : List UInt8} (h : Extends bytes mem)
    (hlen : 4 ≤ bytes.length) : wTotalLength mem = wTotalLength (zeroExtend bytes) := by
  simp only [wTotalLength, h.eq_zeroExtend (Nat.lt_of_lt_of_le (by decide : 2 < 4) hlen),
    h.eq_zeroExtend (Nat.lt_of_lt_of_le (by decide : 3 < 4) hlen)]

/-- A walk that stays in the buffer does not see the memory behind it. -/
theorem Extends.walked {bytes : List UInt8} (h : Extends bytes mem) (hlen : 4 ≤ bytes.length)
    (hpos : ∀ k, Walked (zeroExtend bytes) k →
      zeroExtend bytes (nthOffset (zeroExtend bytes) k) ≠ 0) :
    ∀ k, Walked mem k →
      Walked (zeroExtend bytes) k ∧ nthOffset mem k = nthOffset (zeroExtend bytes) k := by
  have hstands : ∀ q, StandsAt mem q ↔ StandsAt (zeroExtend bytes) q := by
    intro q
    rw [StandsAt, StandsAt, h.wTotalLength_eq hlen]
  intro k
  induction k with
  | zero =>
    intro hw
    exact ⟨walked_zero.mpr ((hstands 0).mp hw.standsAt), rfl⟩
  | succ k ih =>
    intro hw
    obtain ⟨hw0, heq⟩ := ih (walked_succ.mp hw).1
    have hin := lt_length_of_zeroExtend_ne (hpos k hw0)
    have hnext : nthOffset mem (k + 1) = nthOffset (zeroExtend bytes) (k + 1) := by
      rw [nthOffset_succ, nthOffset_succ, heq, h.eq_zeroExtend hin]
    refine ⟨walked_succ.mpr ⟨hw0, ?_⟩, hnext⟩
    rw [← hnext]
    exact (hstands _).mp hw.standsAt

/-- What may stand behind a buffer of fewer than four bytes: a long `wTotalLength`, and
no further descriptor. -/
def longExtend (bytes : List UInt8) : Memory :=
  fun i => if h : i < bytes.length then bytes[i] else if i = 3 then 0xFF else 0

theorem extends_longExtend (bytes : List UInt8) : Extends bytes (longExtend bytes) := by
  intro i h
  simp [longExtend, h]

/-- A long `wTotalLength` with no descriptor behind it: the walk meets a zero. -/
theorem not_terminates_of_long (hlong : 65280 ≤ wTotalLength mem) (hzero : ∀ i, 4 ≤ i → mem i = 0) :
    ¬ Terminates mem := by
  have hlt := (mem 2).toNat_lt
  have hlt' := (mem 3).toNat_lt
  have hwalked : ∀ k ≤ 4, Walked mem k := by
    intro k hk j hj
    have hle := nthOffset_le mem j
    simp only [StandsAt, asUnsigned, wTotalLength] at hlong ⊢
    omega
  by_cases hex : ∃ k, k ≤ 4 ∧ mem (nthOffset mem k) = 0
  · obtain ⟨k, hk, h0⟩ := hex
    exact not_terminates_of_zero (hwalked k hk) h0
  · have hne : ∀ k ≤ 4, mem (nthOffset mem k) ≠ 0 := fun k hk h0 => hex ⟨k, hk, h0⟩
    have hfar : 4 ≤ nthOffset mem 4 := le_nthOffset fun j hj => hne j (Nat.le_of_lt hj)
    exact absurd (hzero _ hfar) (hne 4 (Nat.le_refl 4))

/-- **Which descriptors are walked in finitely many calls.**  A buffer is, in any
memory it may stand in, exactly when it has a `wTotalLength` and the walk over it
meets no length of zero, where the bytes behind the buffer count as zeros. -/
theorem uInitConfig_terminates_iff (bytes : List UInt8) :
    (∀ mem, Extends bytes mem → Terminates mem) ↔
      4 ≤ bytes.length ∧
        ∀ k, Walked (zeroExtend bytes) k →
          zeroExtend bytes (nthOffset (zeroExtend bytes) k) ≠ 0 := by
  refine ⟨fun h => ⟨?_, fun k hw h0 => ?_⟩, fun ⟨hlen, hpos⟩ mem hext => ?_⟩
  · refine Decidable.byContradiction fun hlen => ?_
    have h3 : ¬ 3 < bytes.length := fun h => hlen h
    refine not_terminates_of_long ?_ ?_ (h _ (extends_longExtend bytes))
    · simp only [wTotalLength, longExtend, h3, ↓reduceDIte, ↓reduceIte]
      exact Nat.le_add_left _ _
    · intro i hi
      simp only [longExtend]
      rw [dif_neg (by omega), if_neg (by omega)]
  · exact not_terminates_of_zero hw h0 (h _ (extends_zeroExtend bytes))
  · -- Every length is positive, so the `k`-th descriptor stands at `k` or further on.
    refine terminates_of_bound bytes.length fun k hw => ?_
    obtain ⟨hw0, -⟩ := hext.walked hlen hpos k hw
    have hin := lt_length_of_zeroExtend_ne (hpos k hw0)
    have hle := le_nthOffset fun j hj => hpos j (hw0.mono (Nat.le_of_lt hj))
    exact Nat.lt_of_le_of_lt hle hin

/-- A configuration descriptor with an interface descriptor whose `bLength` is zero. -/
def zeroLengthInterface : List UInt8 :=
  [9, 2, 18, 0, 1, 1, 0, 0x80, 50, 0, 4, 0, 0, 0, 0xFF, 0, 0, 0]

/-- The walk does not end for every byte array. -/
theorem not_terminates_zeroLengthInterface :
    ¬ ∀ bytes mem, Extends bytes mem → Terminates mem := by
  intro h
  have hw : Walked (zeroExtend zeroLengthInterface) 1 := by
    intro j hj
    rcases Nat.le_one_iff_eq_zero_or_eq_one.mp hj with rfl | rfl <;> decide
  exact not_terminates_of_zero hw (by decide) (h _ _ (extends_zeroExtend _))

end LibusbK
