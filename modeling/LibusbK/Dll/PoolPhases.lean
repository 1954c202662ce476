import LibusbK.Dll.PoolHandle
import Mathlib.Tactic.SplitIfs

/-!
# The life of a pool handle

Between one `Acquire` and the next a handle passes through four phases: it is free, a call
has taken it, its references are counted, and one call disposes of it.  Which calls can be
under way tells the phases apart, and says what the count is in each.  An `Inc` that comes
too late raises the count of a handle without references and takes that back; the phases
survive one such `Inc` at a time.

## Main definitions

* `SlotOk` — the phases of a handle, with the calls that are under way in each.
* `SlotPc.NoRace` — the steps that are taken under no race.
* `PoolState.Consistent` — every handle is in one of its phases.

## Main results

* `SlotOk.run` — what one step at a handle does.
* `PoolState.Consistent.step` — a step without a race keeps the section consistent.
* `PoolState.Consistent.poolSafe` — callers can rely on a consistent section.
-/

namespace LibusbK

/-! ### The phases of a handle -/

/-- No call is about to hand the handle out, or to dispose of it. -/
structure Unowned (n : PcClass → ℕ) : Prop where
  clearing : n .clearing = 0
  settling : n .settling = 0
  counted : n .counted = 0

/-- No call disposes of the handle. -/
structure Undisposed (n : PcClass → ℕ) : Prop where
  opening : n .opening = 0
  cleaning : n .cleaning = 0
  closing : n .closing = 0

/-- No reference is counted; the count is that of the increments to be undone. -/
structure Uncounted (x : PoolSlot) (n : PcClass → ℕ) : Prop where
  refs : x.refs = 0
  ref : x.ref = n .undoing
  undoing : n .undoing ≤ 1
  unowned : Unowned n

/-- The handle is not in use. -/
structure Free (x : PoolSlot) (n : PcClass → ℕ) : Prop where
  use : x.use = false
  taking : n .taking = 0
  uncounted : Uncounted x n
  undisposed : Undisposed n
  runs : x.runs ≤ 1

/-- A call has taken the handle. -/
structure Taking (x : PoolSlot) (n : PcClass → ℕ) : Prop where
  use : x.use = true
  taking : n .taking = 1
  uncounted : Uncounted x n
  undisposed : Undisposed n
  runs : x.runs = 0
  started : x.started = false

/-- The references are counted. -/
structure Live (x : PoolSlot) (n : PcClass → ℕ) : Prop where
  use : x.use = true
  taking : n .taking = 0
  undisposed : Undisposed n
  undoing : n .undoing = 0
  ref : x.ref = x.refs + n .counted + n .clearing + n .settling
  pos : 1 ≤ x.ref
  fits : x.ref ≤ 0x7FFFFFFF
  acquiring : n .clearing + n .settling ≤ 1
  disposing : n .clearing = 0 → x.disposing = none
  cleanup : n .clearing + n .settling = 0 → x.cleanup = x.given
  runs : x.runs = 0
  started : x.started = false

/-- One call disposes of the handle. -/
structure Disposing (x : PoolSlot) (n : PcClass → ℕ) : Prop where
  use : x.use = true
  taking : n .taking = 0
  uncounted : Uncounted x n
  single : n .opening + n .cleaning + n .closing = 1
  opening : n .opening = 1 → x.cleanup = x.given ∧ x.runs = 0
  cleaning : n .cleaning = 1 → x.given = true ∧ x.runs = 1
  closing : n .closing = 1 → x.runs = if x.given then 1 else 0

/-- The handle is in one of its phases, and no call has gone astray. -/
structure SlotOk (x : PoolSlot) (n : PcClass → ℕ) : Prop where
  astray : n .astray = 0
  phase : Free x n ∨ Taking x n ∨ Live x n ∨ Disposing x n

/-- The step is none of those that read or change the handle under a race: a count is
raised, or set, with no increment to be undone and below the largest `long`; `Disposing`
names the thread of an `Inc` in its own clean-up only, is clear for a counted reference and
set for a nested one. -/
def SlotPc.NoRace (t : ℕ) (own : Bool) (x : PoolSlot) (n : PcClass → ℕ) : SlotPc → Prop
  | acqInitRef _ => n .undoing = 0
  | incRef => n .undoing = 0 ∧ x.ref < 0x7FFFFFFF
  | incDisposingSelf => x.disposing = some t → own = true
  | decDisposing counted => if counted then x.disposing = none else x.disposing ≠ none
  | _ => True

/-- The calls at a handle after a call has moved from `kind` to `next`. -/
def Moved (kind next : Option PcClass) (n n' : PcClass → ℕ) : Prop :=
  ∀ c, n' c + (if kind = some c then 1 else 0) = n c + (if next = some c then 1 else 0)

/-- The class of the frame a call at a handle goes on with. -/
def nextKind : Option PoolFrame → Option PcClass
  | some (.onSlot _ pc) => pc.kind
  | _ => none

theorem wrapLong_of_fits {z : ℤ} (hlow : -0x80000000 ≤ z) (hhigh : z ≤ 0x7FFFFFFF) :
    wrapLong z = z := by
  unfold wrapLong
  rw [Int.bmod_def]
  split_ifs <;> omega

theorem Moved.same {kind : Option PcClass} {n n' : PcClass → ℕ} (h : Moved kind kind n n') :
    n' = n := by
  funext c
  have hc := h c
  omega

theorem Moved.of_ne {kind next : Option PcClass} {n n' : PcClass → ℕ} (h : Moved kind next n n')
    {c : PcClass} (hkind : kind ≠ some c) (hnext : next ≠ some c) : n' c = n c := by
  have hc := h c
  rw [if_neg hkind, if_neg hnext] at hc
  exact hc

/-- The counts after a move, class by class. -/
theorem Moved.counts {kind next : Option PcClass} {n n' : PcClass → ℕ} (h : Moved kind next n n') :
    (n' .taking + (if kind = some .taking then 1 else 0) =
        n .taking + (if next = some .taking then 1 else 0) ∧
      n' .clearing + (if kind = some .clearing then 1 else 0) =
        n .clearing + (if next = some .clearing then 1 else 0) ∧
      n' .settling + (if kind = some .settling then 1 else 0) =
        n .settling + (if next = some .settling then 1 else 0)) ∧
    (n' .counted + (if kind = some .counted then 1 else 0) =
        n .counted + (if next = some .counted then 1 else 0) ∧
      n' .opening + (if kind = some .opening then 1 else 0) =
        n .opening + (if next = some .opening then 1 else 0) ∧
      n' .cleaning + (if kind = some .cleaning then 1 else 0) =
        n .cleaning + (if next = some .cleaning then 1 else 0)) ∧
    (n' .closing + (if kind = some .closing then 1 else 0) =
        n .closing + (if next = some .closing then 1 else 0) ∧
      n' .undoing + (if kind = some .undoing then 1 else 0) =
        n .undoing + (if next = some .undoing then 1 else 0) ∧
      n' .astray + (if kind = some .astray then 1 else 0) =
        n .astray + (if next = some .astray then 1 else 0)) :=
  ⟨⟨h _, h _, h _⟩, ⟨h _, h _, h _⟩, ⟨h _, h _, h _⟩⟩

theorem Unowned.of_moved {kind next : Option PcClass} {n n' : PcClass → ℕ} (hu : Unowned n)
    (hm : Moved kind next n n') (hkind : kind ∉ [some .clearing, some .settling, some .counted])
    (hnext : next ∉ [some .clearing, some .settling, some .counted]) : Unowned n' := by
  have hsame : ∀ c, some c ∈ [some PcClass.clearing, some .settling, some .counted] →
      n' c = n c := fun c hc =>
    hm.of_ne (fun heq => hkind (heq ▸ hc)) (fun heq => hnext (heq ▸ hc))
  exact ⟨(hsame .clearing (by decide)).trans hu.clearing,
    (hsame .settling (by decide)).trans hu.settling, (hsame .counted (by decide)).trans hu.counted⟩

theorem Undisposed.of_moved {kind next : Option PcClass} {n n' : PcClass → ℕ} (hd : Undisposed n)
    (hm : Moved kind next n n') (hkind : kind ∉ [some .opening, some .cleaning, some .closing])
    (hnext : next ∉ [some .opening, some .cleaning, some .closing]) : Undisposed n' := by
  have hsame : ∀ c, some c ∈ [some PcClass.opening, some .cleaning, some .closing] →
      n' c = n c := fun c hc =>
    hm.of_ne (fun heq => hkind (heq ▸ hc)) (fun heq => hnext (heq ▸ hc))
  exact ⟨(hsame .opening (by decide)).trans hd.opening,
    (hsame .cleaning (by decide)).trans hd.cleaning, (hsame .closing (by decide)).trans hd.closing⟩

namespace SlotOk

variable {x : PoolSlot} {n n' : PcClass → ℕ}

/-- A handle that is not in use is free. -/
theorem free_of_not_use (h : SlotOk x n) (huse : x.use = false) : Free x n := by
  rcases h.phase with h | h | h | h
  · exact h
  · cases huse.symm.trans h.use
  · cases huse.symm.trans h.use
  · cases huse.symm.trans h.use

theorem taking_of_pos (h : SlotOk x n) (hpos : 0 < n .taking) : Taking x n := by
  rcases h.phase with h | h | h | h
  · have := h.taking; omega
  · exact h
  · have := h.taking; omega
  · have := h.taking; omega

/-- Who counts a reference has a live handle. -/
theorem live_of_pos (h : SlotOk x n)
    (hpos : 0 < n .clearing ∨ 0 < n .settling ∨ 0 < n .counted) : Live x n := by
  have hnone : Unowned n → False := fun hu => by
    have := hu.clearing
    have := hu.settling
    have := hu.counted
    omega
  rcases h.phase with h | h | h | h
  · exact (hnone h.uncounted.unowned).elim
  · exact (hnone h.uncounted.unowned).elim
  · exact h
  · exact (hnone h.uncounted.unowned).elim

theorem disposing_of_pos (h : SlotOk x n)
    (hpos : 0 < n .opening ∨ 0 < n .cleaning ∨ 0 < n .closing) : Disposing x n := by
  have hnone : Undisposed n → False := fun hu => by
    have := hu.opening
    have := hu.cleaning
    have := hu.closing
    omega
  rcases h.phase with h | h | h | h
  · exact (hnone h.undisposed).elim
  · exact (hnone h.undisposed).elim
  · exact (hnone h.undisposed).elim
  · exact h

theorem take (h : SlotOk x n) (huse : x.use = false) (hm : Moved none (some .taking) n n') :
    SlotOk { x with use := true, runs := 0, started := false } n' ∧ x.refs = 0 := by
  have hf := h.free_of_not_use huse
  have e := hm.counts
  simp at e
  have hastray := h.astray
  have htaking := hf.taking
  obtain ⟨hrefs, href, hundo, hun⟩ := hf.uncounted
  have hunowned := hun.of_moved hm (by decide) (by decide)
  have hundisposed := hf.undisposed.of_moved hm (by decide) (by decide)
  refine ⟨⟨by omega, .inr (.inl ⟨rfl, by omega, ⟨hrefs, ?_, by omega, hunowned⟩, hundisposed, rfl,
    rfl⟩)⟩, hrefs⟩
  dsimp only
  omega

/-- The handle gets its first reference. -/
theorem initRef (h : SlotOk x n) (hpos : 0 < n .taking) (hundo : n .undoing = 0)
    (hm : Moved (some .taking) (some .clearing) n n') : SlotOk { x with ref := 1 } n' := by
  have ht := h.taking_of_pos hpos
  have e := hm.counts
  simp at e
  have hastray := h.astray
  have htaking := ht.taking
  obtain ⟨hrefs, href, -, hclearing, hsettling, hcounted⟩ := ht.uncounted
  have hundisposed := ht.undisposed.of_moved hm (by decide) (by decide)
  refine ⟨by omega, .inr (.inr (.inl ⟨ht.use, by omega, hundisposed, by omega, ?_, ?_, ?_,
    by omega, fun hnone => ?_, fun hnone => ?_, ht.runs, ht.started⟩))⟩
  · dsimp only
    omega
  · exact Int.le_refl 1
  · dsimp only
    omega
  · omega
  · omega

/-- A handle that stays live, seen from a call that takes it. -/
theorem stayLive (h : SlotOk x n) (hl : Live x n) {x' : PoolSlot} {kind next : Option PcClass}
    (hm : Moved kind next n n') (hkind : kind = some .clearing ∨ kind = some .settling)
    (hnext : next = none ∨ next = some .settling) (huse : x'.use = x.use) (href : x'.ref = x.ref)
    (hruns : x'.runs = x.runs) (hstarted : x'.started = x.started)
    (hcount : x.ref = x'.refs + n' .counted + n' .clearing + n' .settling)
    (hdisposing : n' .clearing = 0 → x'.disposing = none)
    (hcleanup : n' .clearing + n' .settling = 0 → x'.cleanup = x'.given) : SlotOk x' n' := by
  have hsame : ∀ c, c ≠ .clearing → c ≠ .settling → n' c = n c := by
    intro c hclearing hsettling
    apply hm.of_ne
    · rcases hkind with rfl | rfl
      · exact fun heq => hclearing (Option.some.inj heq).symm
      · exact fun heq => hsettling (Option.some.inj heq).symm
    · rcases hnext with rfl | rfl
      · nofun
      · exact fun heq => hsettling (Option.some.inj heq).symm
  have hacquiring : n' .clearing + n' .settling ≤ n .clearing + n .settling := by
    have e := hm.counts
    rcases hkind with rfl | rfl <;> rcases hnext with rfl | rfl <;> simp at e <;> omega
  have hd := hl.undisposed
  refine ⟨(hsame .astray nofun nofun).trans h.astray, .inr (.inr (.inl ⟨huse.trans hl.use,
    (hsame .taking nofun nofun).trans hl.taking, ⟨?_, ?_, ?_⟩,
    (hsame .undoing nofun nofun).trans hl.undoing, href.trans hcount, href ▸ hl.pos,
    href ▸ hl.fits, Nat.le_trans hacquiring hl.acquiring, hdisposing, hcleanup,
    hruns.trans hl.runs, hstarted.trans hl.started⟩))⟩
  · exact (hsame .opening nofun nofun).trans hd.opening
  · exact (hsame .cleaning nofun nofun).trans hd.cleaning
  · exact (hsame .closing nofun nofun).trans hd.closing

/-- `Disposing` is cleared. -/
theorem clear (h : SlotOk x n) (hpos : 0 < n .clearing)
    (hm : Moved (some .clearing) (some .settling) n n') :
    SlotOk { x with disposing := none } n' := by
  have hl := h.live_of_pos (.inl hpos)
  have e := hm.counts
  simp at e
  have href := hl.ref
  refine h.stayLive hl hm (.inl rfl) (.inr rfl) rfl rfl rfl rfl ?_ (fun _ => rfl)
    fun hnone => ?_
  · dsimp only
    omega
  · omega

/-- The handle is returned to the caller of `Acquire`. -/
theorem settle (h : SlotOk x n) (hpos : 0 < n .settling)
    (hm : Moved (some .settling) none n n') (evtCleanup : Bool) :
    SlotOk { x with cleanup := evtCleanup, given := evtCleanup, refs := x.refs + 1 } n' := by
  have hl := h.live_of_pos (.inr (.inl hpos))
  have e := hm.counts
  simp at e
  have href := hl.ref
  have hacquiring := hl.acquiring
  refine h.stayLive hl hm (.inr rfl) (.inl rfl) rfl rfl rfl rfl ?_
    (fun _ => hl.disposing (by omega)) fun _ => rfl
  dsimp only
  omega

/-- Only the increments to be undone are counted anew. -/
theorem recount (h : SlotOk x n) (hlive : ¬Live x n) {r : ℤ}
    (hsame : ∀ c, c ≠ .undoing → n' c = n c) (hr : r = n' .undoing) (hle : n' .undoing ≤ 1) :
    SlotOk { x with ref := r } n' := by
  have hun : Unowned n → Unowned n' := fun hu =>
    ⟨(hsame .clearing nofun).trans hu.clearing, (hsame .settling nofun).trans hu.settling,
      (hsame .counted nofun).trans hu.counted⟩
  have hdis : Undisposed n → Undisposed n' := fun hd =>
    ⟨(hsame .opening nofun).trans hd.opening, (hsame .cleaning nofun).trans hd.cleaning,
      (hsame .closing nofun).trans hd.closing⟩
  refine ⟨(hsame .astray nofun).trans h.astray, ?_⟩
  rcases h.phase with hp | hp | hp | hp
  · exact .inl ⟨hp.use, (hsame .taking nofun).trans hp.taking,
      ⟨hp.uncounted.refs, hr, hle, hun hp.uncounted.unowned⟩, hdis hp.undisposed, hp.runs⟩
  · exact .inr (.inl ⟨hp.use, (hsame .taking nofun).trans hp.taking,
      ⟨hp.uncounted.refs, hr, hle, hun hp.uncounted.unowned⟩, hdis hp.undisposed, hp.runs,
      hp.started⟩)
  · exact absurd hp hlive
  · have hopening := hsame .opening nofun
    have hcleaning := hsame .cleaning nofun
    have hclosing := hsame .closing nofun
    have hsingle := hp.single
    exact .inr (.inr (.inr ⟨hp.use, (hsame .taking nofun).trans hp.taking,
      ⟨hp.uncounted.refs, hr, hle, hun hp.uncounted.unowned⟩, by omega,
      fun hone => hp.opening (by omega), fun hone => hp.cleaning (by omega),
      fun hone => hp.closing (by omega)⟩))

/-- Without references the count is that of the increments to be undone. -/
theorem ref_of_not_live (h : SlotOk x n) (hlive : ¬Live x n) :
    x.ref = n .undoing ∧ n .undoing ≤ 1 := by
  rcases h.phase with hp | hp | hp | hp
  · exact ⟨hp.uncounted.ref, hp.uncounted.undoing⟩
  · exact ⟨hp.uncounted.ref, hp.uncounted.undoing⟩
  · exact absurd hp hlive
  · exact ⟨hp.uncounted.ref, hp.uncounted.undoing⟩

/-- An `Inc` raises the count of a live handle. -/
theorem incRef_of_gt (h : SlotOk x n) (hundo : n .undoing = 0) (hlt : x.ref < 0x7FFFFFFF)
    (hgt : wrapLong (x.ref + 1) > 1) :
    SlotOk { x with ref := wrapLong (x.ref + 1), refs := x.refs + 1 } n ∧ x.started = false := by
  by_cases hlive : Live x n
  · have href := hlive.ref
    have hpos := hlive.pos
    rw [wrapLong_of_fits (by omega) (by omega)]
    refine ⟨⟨h.astray, .inr (.inr (.inl ⟨hlive.use, hlive.taking, hlive.undisposed, hundo, ?_, ?_,
      ?_, hlive.acquiring, hlive.disposing, hlive.cleanup, hlive.runs, hlive.started⟩))⟩,
      hlive.started⟩
    all_goals dsimp only; omega
  · have href := h.ref_of_not_live hlive
    rw [wrapLong_of_fits (by omega) (by omega)] at hgt
    omega

/-- An `Inc` that finds no reference has to undo its increment. -/
theorem incRef_of_le (h : SlotOk x n) (hundo : n .undoing = 0) (hlt : x.ref < 0x7FFFFFFF)
    (hle : ¬wrapLong (x.ref + 1) > 1) (hm : Moved none (some .undoing) n n') :
    SlotOk { x with ref := wrapLong (x.ref + 1) } n' := by
  have e := hm.counts
  simp at e
  by_cases hlive : Live x n
  · have hpos := hlive.pos
    rw [wrapLong_of_fits (by omega) (by omega)] at hle
    omega
  · have href := h.ref_of_not_live hlive
    rw [wrapLong_of_fits (by omega) (by omega)]
    refine h.recount hlive (fun c hc => Moved.of_ne hm nofun fun heq => hc ?_) ?_ ?_
    · exact (Option.some.inj heq).symm
    · omega
    · omega

theorem incUndo (h : SlotOk x n) (hpos : 0 < n .undoing)
    (hm : Moved (some .undoing) none n n') : SlotOk { x with ref := wrapLong (x.ref - 1) } n' := by
  have e := hm.counts
  simp at e
  have hlive : ¬Live x n := fun hlive => by
    have := hlive.undoing
    omega
  have href := h.ref_of_not_live hlive
  rw [wrapLong_of_fits (by omega) (by omega)]
  refine h.recount hlive (fun c hc => Moved.of_ne hm (fun heq => hc ?_) nofun) ?_ ?_
  · exact (Option.some.inj heq).symm
  · omega
  · omega

/-- A counted reference is given up: the handle stays live, or is disposed of. -/
theorem decRef (h : SlotOk x n) (hpos : 0 < n .counted)
    (hm : Moved (some .counted) (if wrapLong (x.ref - 1) = 0 then some .opening else none) n n') :
    SlotOk { x with ref := wrapLong (x.ref - 1) } n' := by
  have hl := h.live_of_pos (.inr (.inr hpos))
  have href := hl.ref
  have hfits := hl.fits
  have hlow := hl.pos
  rw [wrapLong_of_fits (by omega) (by omega)] at hm ⊢
  have hastray := h.astray
  have htaking := hl.taking
  have hundo := hl.undoing
  have hacquiring := hl.acquiring
  obtain ⟨hopening, hcleaning, hclosing⟩ := hl.undisposed
  have e := hm.counts
  by_cases hzero : x.ref - 1 = 0
  · rw [if_pos hzero] at e
    simp at e
    refine ⟨by omega, .inr (.inr (.inr ⟨hl.use, by omega, ⟨?_, ?_, by omega, ?_⟩, by omega,
      fun _ => ⟨hl.cleanup (by omega), hl.runs⟩, fun _ => by omega, fun _ => by omega⟩))⟩
    · dsimp only
      omega
    · dsimp only
      omega
    · exact ⟨by omega, by omega, by omega⟩
  · rw [if_neg hzero] at e
    simp at e
    refine ⟨by omega, .inr (.inr (.inl ⟨hl.use, by omega, ⟨?_, ?_, ?_⟩, by omega, ?_, ?_, ?_,
      by omega, fun hnone => hl.disposing (by omega), fun hnone => hl.cleanup (by omega), hl.runs,
      hl.started⟩))⟩
    iterate 3 omega
    all_goals dsimp only; omega

/-- A handle that is disposed of, seen from the call that does so. -/
theorem dispose (h : SlotOk x n) {x' : PoolSlot}
    (hpos : 0 < n .opening ∨ 0 < n .cleaning ∨ 0 < n .closing) (huse : x'.use = x.use)
    (href : x'.ref = x.ref) (hrefs : x'.refs = x.refs)
    (hsame : ∀ c, c ≠ .opening → c ≠ .cleaning → c ≠ .closing → n' c = n c)
    (hsum : n' .opening + n' .cleaning + n' .closing = n .opening + n .cleaning + n .closing)
    (hopening : n' .opening = 1 → x'.cleanup = x'.given ∧ x'.runs = 0)
    (hcleaning : n' .cleaning = 1 → x'.given = true ∧ x'.runs = 1)
    (hclosing : n' .closing = 1 → x'.runs = if x'.given then 1 else 0) : SlotOk x' n' := by
  have hd := h.disposing_of_pos hpos
  have hu := hd.uncounted
  have hundo := hsame .undoing nofun nofun nofun
  refine ⟨(hsame .astray nofun nofun nofun).trans h.astray, .inr (.inr (.inr ⟨huse.trans hd.use,
    (hsame .taking nofun nofun nofun).trans hd.taking, ⟨hrefs.trans hu.refs, ?_, ?_, ?_⟩,
    hsum.trans hd.single, hopening, hcleaning, hclosing⟩))⟩
  · rw [href, hu.ref, hundo]
  · rw [hundo]
    exact hu.undoing
  · exact ⟨(hsame .clearing nofun nofun nofun).trans hu.unowned.clearing,
      (hsame .settling nofun nofun nofun).trans hu.unowned.settling,
      (hsame .counted nofun nofun nofun).trans hu.unowned.counted⟩

/-- The handle is released. -/
theorem release (h : SlotOk x n) (hpos : 0 < n .closing)
    (hm : Moved (some .closing) none n n') :
    SlotOk { x with use := false } n' ∧ x.runs = if x.given then 1 else 0 := by
  have hd := h.disposing_of_pos (.inr (.inr hpos))
  have e := hm.counts
  simp at e
  have hastray := h.astray
  have hsingle := hd.single
  have htaking := hd.taking
  have hruns := hd.closing (by omega)
  obtain ⟨hrefs, href, hundo, hun⟩ := hd.uncounted
  have hunowned := hun.of_moved hm (by decide) (by decide)
  refine ⟨⟨by omega, .inl ⟨rfl, by omega, ⟨hrefs, ?_, by omega, hunowned⟩, ?_, ?_⟩⟩, hruns⟩
  · dsimp only
    omega
  · exact ⟨by omega, by omega, by omega⟩
  · dsimp only
    split at hruns <;> omega

/-- Nested references are not counted. -/
theorem withNested (h : SlotOk x n) (nested : ℕ) : SlotOk { x with nested := nested } n := by
  have hun : Uncounted x n → Uncounted { x with nested := nested } n :=
    fun hu => ⟨hu.refs, hu.ref, hu.undoing, hu.unowned⟩
  refine ⟨h.astray, ?_⟩
  rcases h.phase with hp | hp | hp | hp
  · exact .inl ⟨hp.use, hp.taking, hun hp.uncounted, hp.undisposed, hp.runs⟩
  · exact .inr (.inl ⟨hp.use, hp.taking, hun hp.uncounted, hp.undisposed, hp.runs, hp.started⟩)
  · exact .inr (.inr (.inl ⟨hp.use, hp.taking, hp.undisposed, hp.undoing, hp.ref, hp.pos, hp.fits,
      hp.acquiring, hp.disposing, hp.cleanup, hp.runs, hp.started⟩))
  · exact .inr (.inr (.inr ⟨hp.use, hp.taking, hun hp.uncounted, hp.single, hp.opening,
      hp.cleaning, hp.closing⟩))

/-- While a call takes the handle, its `Evt.Cleanup` is of no account. -/
theorem initCleanup (h : SlotOk x n) (hpos : 0 < n .taking) :
    SlotOk { x with cleanup := false } n := by
  have ht := h.taking_of_pos hpos
  have hu := ht.uncounted
  exact ⟨h.astray, .inr (.inl ⟨ht.use, ht.taking, ⟨hu.refs, hu.ref, hu.undoing, hu.unowned⟩,
    ht.undisposed, ht.runs, ht.started⟩)⟩

/-- A caller gives up a counted reference, and `Dec` has it from then on. -/
theorem giveUp (h : SlotOk x n) (hpos : 0 < x.refs) (hm : Moved none (some .counted) n n') :
    SlotOk { x with refs := x.refs - 1 } n' := by
  have e := hm.counts
  simp at e
  have hastray := h.astray
  have hl : Live x n := by
    rcases h.phase with hp | hp | hp | hp
    · have := hp.uncounted.refs
      omega
    · have := hp.uncounted.refs
      omega
    · exact hp
    · have := hp.uncounted.refs
      omega
  have htaking := hl.taking
  have hundo := hl.undoing
  have href := hl.ref
  have hacquiring := hl.acquiring
  have hundisposed := hl.undisposed.of_moved hm (by decide) (by decide)
  refine ⟨by omega, .inr (.inr (.inl ⟨hl.use, by omega, hundisposed, by omega,
    ?_, hl.pos, hl.fits, by omega, fun hnone => hl.disposing (by omega),
    fun hnone => hl.cleanup (by omega), hl.runs, hl.started⟩))⟩
  dsimp only
  omega

/-- The calls that matter to the handle are as before. -/
theorem of_same {k : Option PcClass} (h : SlotOk x n) (hm : Moved k k n n') :
    SlotOk x n' := by
  rw [hm.same]
  exact h

end SlotOk

/-- A step that breaks no promise to a caller. -/
structure SlotStep.Quiet (r : SlotStep) : Prop where
  badInc : r.badInc = false
  missed : r.missed = false
  twice : r.twice = false

/-- **A step without a race keeps a handle in its phases**, and breaks no promise. -/
theorem SlotOk.run {x : PoolSlot} {n n' : PcClass → ℕ} {t k : ℕ} {own : Bool} {pc : SlotPc}
    (h : SlotOk x n) (hin : ∀ c, pc.kind = some c → 0 < n c) (hok : pc.NoRace t own x n)
    (hm : Moved pc.kind (nextKind (pc.run t own k x).next) n n') :
    SlotOk (pc.run t own k x).slot n' ∧ (pc.run t own k x).Quiet := by
  cases pc with
  | acqTry evtCleanup startPos =>
    cases huse : x.use with
    | true =>
      simp only [SlotPc.run, huse, if_true] at hm ⊢
      exact ⟨h.of_same hm, ⟨rfl, rfl, rfl⟩⟩
    | false =>
      simp only [SlotPc.run, huse, Bool.false_eq_true, if_false] at hm ⊢
      obtain ⟨htaken, hrefs⟩ := h.take huse hm
      exact ⟨htaken, ⟨rfl, rfl, by simp [hrefs]⟩⟩
  | acqInitCleanup evtCleanup =>
    exact ⟨(h.initCleanup (hin _ rfl)).of_same hm, ⟨rfl, rfl, rfl⟩⟩
  | acqInitRef evtCleanup => exact ⟨h.initRef (hin _ rfl) hok hm, ⟨rfl, rfl, rfl⟩⟩
  | acqInitDisposing evtCleanup => exact ⟨h.clear (hin _ rfl) hm, ⟨rfl, rfl, rfl⟩⟩
  | acqSetCleanup evtCleanup => exact ⟨h.settle (hin _ rfl) hm evtCleanup, ⟨rfl, rfl, rfl⟩⟩
  | incUse =>
    refine ⟨SlotOk.of_same (k := none) h ?_, ⟨rfl, rfl, rfl⟩⟩
    simp only [SlotPc.run] at hm
    split at hm <;> exact hm
  | incDisposing =>
    refine ⟨SlotOk.of_same (k := none) h ?_, ⟨rfl, rfl, rfl⟩⟩
    simp only [SlotPc.run] at hm
    split at hm <;> exact hm
  | incDisposingSelf =>
    simp only [SlotPc.run] at hm ⊢
    split at hm
    · next hself =>
      rw [if_pos hself]
      have hown : own = true := hok hself
      subst hown
      exact ⟨(h.withNested _).of_same hm, ⟨Bool.and_false _, rfl, rfl⟩⟩
    · next hself =>
      rw [if_neg hself]
      exact ⟨h.of_same hm, ⟨rfl, rfl, rfl⟩⟩
  | incRef =>
    simp only [SlotPc.run] at hm ⊢
    split at hm
    · next hgt =>
      rw [if_pos hgt]
      obtain ⟨hcounted, hstarted⟩ := h.incRef_of_gt hok.1 hok.2 hgt
      exact ⟨hcounted.of_same hm, ⟨by rw [hstarted]; rfl, rfl, rfl⟩⟩
    · next hle =>
      rw [if_neg hle]
      exact ⟨h.incRef_of_le hok.1 hok.2 hle hm, ⟨rfl, rfl, rfl⟩⟩
  | incUndo => exact ⟨h.incUndo (hin _ rfl) hm, ⟨rfl, rfl, rfl⟩⟩
  | decUse counted =>
    simp only [SlotPc.run] at hm ⊢
    cases counted with
    | false =>
      refine ⟨SlotOk.of_same (k := none) h ?_, ⟨rfl, rfl, rfl⟩⟩
      split at hm <;> exact hm
    | true =>
      have hl := h.live_of_pos (.inr (.inr (hin _ rfl)))
      rw [if_pos hl.use] at hm
      exact ⟨h.of_same hm, ⟨rfl, rfl, rfl⟩⟩
  | decDisposing counted =>
    simp only [SlotPc.run] at hm ⊢
    cases counted with
    | false =>
      have hsome : x.disposing ≠ none := hok
      rw [if_neg hsome] at hm
      exact ⟨h.of_same hm, ⟨rfl, rfl, rfl⟩⟩
    | true =>
      have hclear : x.disposing = none := hok
      rw [if_pos hclear] at hm
      exact ⟨h.of_same hm, ⟨rfl, rfl, rfl⟩⟩
  | decDisposingSelf counted =>
    cases counted with
    | false => exact ⟨h.of_same hm, ⟨rfl, rfl, rfl⟩⟩
    | true =>
      have hnone := hin .astray rfl
      have hastray := h.astray
      omega
  | decRef counted =>
    cases counted with
    | false =>
      have hnone := hin .astray rfl
      have hastray := h.astray
      omega
    | true =>
      refine ⟨h.decRef (hin _ rfl) ?_, ⟨rfl, rfl, rfl⟩⟩
      simp only [SlotPc.run] at hm
      split at hm
      · next hzero => rwa [if_pos hzero]
      · next hzero => rwa [if_neg hzero]
  | decSetDisposing =>
    have hpos := hin .opening rfl
    have hd := h.disposing_of_pos (.inl hpos)
    have hsame : n' = n := hm.same
    subst hsame
    exact ⟨h.dispose (.inl hpos) rfl rfl rfl (fun _ _ _ _ => rfl) rfl hd.opening hd.cleaning
      hd.closing, ⟨rfl, rfl, rfl⟩⟩
  | decReadCleanup =>
    have hpos := hin .opening rfl
    have hd := h.disposing_of_pos (.inl hpos)
    have hsingle := hd.single
    obtain ⟨hgiven, hruns⟩ := hd.opening (by omega)
    cases hcleanup : x.cleanup with
    | true =>
      simp only [SlotPc.run, hcleanup, if_true] at hm ⊢
      have e := Moved.counts hm
      simp [nextKind, SlotPc.kind] at e
      refine ⟨h.dispose (.inl hpos) rfl rfl rfl (fun c ho hc hr => ?_) (by omega)
        (fun hone => by omega) (fun _ => ⟨by rw [← hgiven, hcleanup], ?_⟩) (fun hone => by omega),
        ⟨rfl, rfl, rfl⟩⟩
      · exact Moved.of_ne hm (fun heq => ho (Option.some.inj heq).symm)
          (fun heq => hc (Option.some.inj heq).symm)
      · dsimp only
        omega
    | false =>
      simp only [SlotPc.run, hcleanup, Bool.false_eq_true, if_false] at hm ⊢
      have e := Moved.counts hm
      simp [nextKind, SlotPc.kind] at e
      refine ⟨h.dispose (.inl hpos) rfl rfl rfl (fun c ho hc hr => ?_) (by omega)
        (fun hone => by omega) (fun hone => by omega) (fun _ => ?_), ⟨rfl, rfl, rfl⟩⟩
      · exact Moved.of_ne hm (fun heq => ho (Option.some.inj heq).symm)
          (fun heq => hr (Option.some.inj heq).symm)
      · rw [← hgiven, hcleanup]
        exact hruns
  | decCleanup =>
    have hsame : n' = n := hm.same
    subst hsame
    exact ⟨h, ⟨rfl, rfl, rfl⟩⟩
  | decClearCleanup =>
    have hpos := hin .cleaning rfl
    have hd := h.disposing_of_pos (.inr (.inl hpos))
    have hsingle := hd.single
    obtain ⟨hgiven, hruns⟩ := hd.cleaning (by omega)
    have e := hm.counts
    simp [nextKind, SlotPc.run, SlotPc.kind] at e
    refine ⟨h.dispose (.inr (.inl hpos)) rfl rfl rfl (fun c ho hc hr => ?_) (by omega)
      (fun hone => by omega) (fun hone => by omega) (fun _ => ?_), ⟨rfl, rfl, rfl⟩⟩
    · exact Moved.of_ne hm (fun heq => hc (Option.some.inj heq).symm)
        (fun heq => hr (Option.some.inj heq).symm)
    · simp [SlotPc.run, hgiven, hruns]
  | decRelease =>
    obtain ⟨hfree, hruns⟩ := h.release (hin _ rfl) hm
    exact ⟨hfree, ⟨rfl, by simp [SlotPc.run, hruns], rfl⟩⟩

/-- In every phase the callback has been called at most once. -/
theorem SlotOk.runs_le {x : PoolSlot} {n : PcClass → ℕ} (h : SlotOk x n) : x.runs ≤ 1 := by
  rcases h.phase with hp | hp | hp | hp
  · exact hp.runs
  · have hruns := hp.runs
    omega
  · have hruns := hp.runs
    omega
  · have hsingle := hp.single
    by_cases hone : n .opening = 1
    · have hruns := (hp.opening hone).2
      omega
    · by_cases htwo : n .cleaning = 1
      · have hruns := (hp.cleaning htwo).2
        omega
      · have hruns := hp.closing (by omega)
        split at hruns <;> omega

/-- At most one call sets a handle up. -/
theorem SlotOk.acquiring_le {x : PoolSlot} {n : PcClass → ℕ} (h : SlotOk x n) :
    n .taking + n .clearing + n .settling ≤ 1 := by
  have hnone : Unowned n → n .clearing + n .settling = 0 := fun hu => by
    rw [hu.clearing, hu.settling]
  rcases h.phase with hp | hp | hp | hp
  · have htaking := hp.taking
    have hidle := hnone hp.uncounted.unowned
    omega
  · have htaking := hp.taking
    have hidle := hnone hp.uncounted.unowned
    omega
  · have htaking := hp.taking
    have hacquiring := hp.acquiring
    omega
  · have htaking := hp.taking
    have hidle := hnone hp.uncounted.unowned
    omega

/-- A handle in use whose references are all given up has a call that settles what becomes
of it. -/
theorem SlotOk.settling_pos {x : PoolSlot} {n : PcClass → ℕ} (h : SlotOk x n)
    (huse : x.use = true) (hrefs : x.refs = 0) :
    ∃ c, c ≠ .undoing ∧ c ≠ .astray ∧ 0 < n c := by
  rcases h.phase with hp | hp | hp | hp
  · cases huse.symm.trans hp.use
  · exact ⟨.taking, nofun, nofun, by rw [hp.taking]; exact Nat.one_pos⟩
  · have href := hp.ref
    have hpos := hp.pos
    by_cases hcounted : 0 < n .counted
    · exact ⟨.counted, nofun, nofun, hcounted⟩
    · by_cases hclearing : 0 < n .clearing
      · exact ⟨.clearing, nofun, nofun, hclearing⟩
      · exact ⟨.settling, nofun, nofun, by omega⟩
  · have hsingle := hp.single
    by_cases hopening : 0 < n .opening
    · exact ⟨.opening, nofun, nofun, hopening⟩
    · by_cases hcleaning : 0 < n .cleaning
      · exact ⟨.cleaning, nofun, nofun, hcleaning⟩
      · exact ⟨.closing, nofun, nofun, by omega⟩

/-! ### The calls on all handles -/

/-- The class of a frame at the handle `k`. -/
def kindAt (k : ℕ) : Option PoolFrame → Option PcClass
  | some (.onSlot k' pc) => if k' = k then pc.kind else none
  | _ => none

theorem kindAt_of_ne {k k' : ℕ} (pc : SlotPc) (h : k' ≠ k) :
    kindAt k (some (.onSlot k' pc)) = none :=
  if_neg h

theorem kindAt_self (k : ℕ) (pc : SlotPc) : kindAt k (some (.onSlot k pc)) = pc.kind := if_pos rfl

/-- A call at a handle stays there, or looks for another one. -/
theorem next_run {t k : ℕ} {own : Bool} {x : PoolSlot} {pc : SlotPc} {frame : PoolFrame}
    (h : (pc.run t own k x).next = some frame) :
    (∃ pc', frame = .onSlot k pc') ∨
      ∃ evtCleanup startPos, frame = .acqNext evtCleanup startPos := by
  cases pc <;> simp only [SlotPc.run] at h <;> try split at h
  all_goals cases h
  all_goals first | exact .inl ⟨_, rfl⟩ | exact .inr ⟨_, _, rfl⟩

theorem kindAt_next_run (t k : ℕ) (own : Bool) (x : PoolSlot) (pc : SlotPc) :
    kindAt k (pc.run t own k x).next = nextKind (pc.run t own k x).next := by
  cases hnext : (pc.run t own k x).next with
  | none => rfl
  | some frame =>
    rcases next_run hnext with ⟨pc', rfl⟩ | ⟨evtCleanup, startPos, rfl⟩
    · exact kindAt_self k pc'
    · rfl

theorem kindAt_next_run_of_ne {t k k' : ℕ} {own : Bool} {x : PoolSlot} {pc : SlotPc}
    (h : k' ≠ k) : kindAt k (pc.run t own k' x).next = none := by
  cases hnext : (pc.run t own k' x).next with
  | none => rfl
  | some frame =>
    rcases next_run hnext with ⟨pc', rfl⟩ | ⟨evtCleanup, startPos, rfl⟩
    · exact kindAt_of_ne pc' h
    · rfl

namespace PoolState

variable {s : PoolState} {t k : ℕ}

theorem countP_kindAt (k : ℕ) (c : PcClass) (next : Option PoolFrame) :
    next.toList.countP (fun frame => match frame with
      | .onSlot k' pc => k' == k && pc.kind == some c
      | _ => false) = if kindAt k next = some c then 1 else 0 := by
  cases next with
  | none => rfl
  | some frame =>
    cases frame with
    | acqIndex evtCleanup => rfl
    | acqNext evtCleanup startPos => rfl
    | onSlot k' pc =>
      by_cases heq : k' = k
      · subst heq
        simp [kindAt]
      · simp [kindAt, heq]

/-- A thread leaves its top frame. -/
theorem moved_move {frame : PoolFrame} {rest : List PoolFrame}
    (h : s.callStacks[t]? = some (frame :: rest)) (k : ℕ) (next : Option PoolFrame) :
    Moved (kindAt k (some frame)) (kindAt k next) (s.tally k) ((s.move t next rest).tally k) := by
  intro c
  have hcount := Stacks.tally_next (fun frame => match frame with
    | .onSlot k' pc => k' == k && pc.kind == some c
    | _ => false) h next
  have htop := countP_kindAt k c (some frame)
  rw [countP_kindAt] at hcount
  rw [Option.toList_some, List.countP_singleton] at htop
  rw [htop] at hcount
  exact hcount

/-- A thread calls. -/
theorem moved_call {stack : List PoolFrame} (h : s.callStacks[t]? = some stack) (k : ℕ)
    (frame : PoolFrame) :
    Moved none (kindAt k (some frame)) (s.tally k) ((s.move t (some frame) stack).tally k) := by
  intro c
  have hcount := Stacks.tally_call (fun frame => match frame with
    | .onSlot k' pc => k' == k && pc.kind == some c
    | _ => false) h frame
  have htop := countP_kindAt k c (some frame)
  rw [Option.toList_some, List.countP_singleton] at htop
  rw [htop] at hcount
  exact hcount

/-- The frame of a call is counted in its class. -/
theorem tally_pos {pc : SlotPc} {rest : List PoolFrame}
    (h : s.callStacks[t]? = some (.onSlot k pc :: rest)) {c : PcClass} (hc : pc.kind = some c) :
    0 < s.tally k c := by
  refine Stacks.tally_pos h (List.mem_cons_self ..) ?_
  simp [hc]

/-- No promise is broken, and every handle is in one of its phases. -/
structure Consistent (s : PoolState) : Prop where
  slots : ∀ k, SlotOk (s.slots k) (s.tally k)
  badInc : s.badInc = false
  missed : s.missed = false
  twice : s.twice = false

/-- The step is none of those with a race. -/
def NoRace (s : PoolState) : PoolEvent → Prop
  | .step t => ∀ k pc rest, s.callStacks[t]? = some (.onSlot k pc :: rest) →
      pc.NoRace t (insideCleanup k rest) (s.slots k) (s.tally k)
  | _ => True

/-- A frame that is at no handle is left for another one, or is new. -/
theorem Consistent.of_moved {s' : PoolState} (hs : s.Consistent) (hslots : s'.slots = s.slots)
    (hm : ∀ k, Moved none none (s.tally k) (s'.tally k)) (hbad : s'.badInc = s.badInc)
    (hmissed : s'.missed = s.missed) (htwice : s'.twice = s.twice) : s'.Consistent where
  slots k := by
    rw [hslots]
    exact (hs.slots k).of_same (hm k)
  badInc := hbad.trans hs.badInc
  missed := hmissed.trans hs.missed
  twice := htwice.trans hs.twice

/-- A step at one handle. -/
theorem Consistent.onSlot (hs : s.Consistent) {pc : SlotPc} {rest : List PoolFrame}
    (h : s.callStacks[t]? = some (.onSlot k pc :: rest))
    (hok : pc.NoRace t (insideCleanup k rest) (s.slots k) (s.tally k)) :
    ((s.note k (pc.run t (insideCleanup k rest) k (s.slots k))).move t
      (pc.run t (insideCleanup k rest) k (s.slots k)).next rest).Consistent := by
  have hmoved : ∀ k', Moved (kindAt k' (some (.onSlot k pc)))
      (kindAt k' (pc.run t (insideCleanup k rest) k (s.slots k)).next) (s.tally k')
      (((s.note k (pc.run t (insideCleanup k rest) k (s.slots k))).move t
        (pc.run t (insideCleanup k rest) k (s.slots k)).next rest).tally k') :=
    fun k' => moved_move h k' _
  have hself := hmoved k
  rw [kindAt_self, kindAt_next_run] at hself
  obtain ⟨hslot, hquiet⟩ := (hs.slots k).run (fun c hc => tally_pos h hc) hok hself
  refine ⟨fun k' => ?_, ?_, ?_, ?_⟩
  · by_cases heq : k' = k
    · subst heq
      simp only [move, note, Function.update_self]
      exact hslot
    · have hother := hmoved k'
      rw [kindAt_of_ne pc (Ne.symm heq), kindAt_next_run_of_ne (Ne.symm heq)] at hother
      simp only [move, note, Function.update_of_ne heq]
      exact (hs.slots k').of_same hother
  · simp only [move, note, hs.badInc, hquiet.badInc, Bool.or_false]
  · simp only [move, note, hs.missed, hquiet.missed, Bool.or_false]
  · simp only [move, note, hs.twice, hquiet.twice, Bool.or_false]

/-- A caller gives up a reference, and calls `Dec`. -/
theorem Consistent.dec (hs : s.Consistent) {stack : List PoolFrame}
    (h : s.callStacks[t]? = some stack) {counted : Bool} (hheld : 0 < (s.slots k).held counted) :
    ((s.giveUp k counted).move t (some (.onSlot k (.decUse counted))) stack).Consistent := by
  have hmoved : ∀ k', Moved none (kindAt k' (some (.onSlot k (.decUse counted)))) (s.tally k')
      (((s.giveUp k counted).move t (some (.onSlot k (.decUse counted))) stack).tally k') :=
    fun k' => moved_call h k' _
  refine ⟨fun k' => ?_, hs.badInc, hs.missed, hs.twice⟩
  by_cases heq : k' = k
  · subst heq
    have hself := hmoved k'
    rw [kindAt_self] at hself
    simp only [move, giveUp, Function.update_self]
    cases counted with
    | true => exact (hs.slots k').giveUp hheld hself
    | false => exact ((hs.slots k').withNested _).of_same hself
  · have hother := hmoved k'
    rw [kindAt_of_ne _ (Ne.symm heq)] at hother
    simp only [move, giveUp, Function.update_of_ne heq]
    exact (hs.slots k').of_same hother

/-- **A step without a race keeps the section consistent.** -/
theorem Consistent.step (hs : s.Consistent) {sec : AllKSection} {s' : PoolState} {e : PoolEvent}
    (hok : s.NoRace e) (h : (poolHandles sec).step s e = some s') : s'.Consistent := by
  cases e with
  | acquire t evtCleanup =>
    simp only [poolHandles, Option.bind_eq_some_iff] at h
    obtain ⟨stack, hstack, h⟩ := h
    split at h
    · cases h
      exact hs.of_moved rfl (fun k => moved_call hstack k _) rfl rfl rfl
    · cases h
  | inc t k =>
    simp only [poolHandles, Option.bind_eq_some_iff] at h
    obtain ⟨stack, hstack, h⟩ := h
    split at h
    · cases h
      refine hs.of_moved rfl (fun k' => ?_) rfl rfl rfl
      have hmoved := moved_call hstack k' (.onSlot k .incUse)
      unfold kindAt at hmoved
      dsimp only at hmoved
      rwa [show SlotPc.incUse.kind = none from rfl, ite_self] at hmoved
    · cases h
  | dec t k counted =>
    simp only [poolHandles, Option.bind_eq_some_iff] at h
    obtain ⟨stack, hstack, h⟩ := h
    split at h
    · next hcall =>
      cases h
      rw [Bool.and_eq_true, decide_eq_true_eq] at hcall
      exact hs.dec hstack hcall.2
    · cases h
  | step t =>
    simp only [poolHandles, Option.bind_eq_some_iff] at h
    obtain ⟨stack, hstack, h⟩ := h
    cases stack with
    | nil => cases h
    | cons frame rest =>
      cases h
      cases frame with
      | onSlot k pc => exact hs.onSlot hstack (hok k pc rest hstack)
      | acqIndex evtCleanup =>
        refine hs.of_moved rfl (fun k => ?_) rfl rfl rfl
        have hmoved := moved_move hstack k (some (.onSlot (sec.position (s.index + 1))
          (.acqTry evtCleanup (sec.position (s.index + 1)))))
        unfold kindAt at hmoved
        dsimp only at hmoved
        rwa [show ∀ st, (SlotPc.acqTry evtCleanup st).kind = none from fun _ => rfl,
          ite_self] at hmoved
      | acqNext evtCleanup startPos =>
        refine hs.of_moved rfl (fun k => ?_) rfl rfl rfl
        have hmoved := moved_move hstack k (if sec.position (s.index + 1) ≠ startPos then
          some (.onSlot (sec.position (s.index + 1)) (.acqTry evtCleanup startPos)) else none)
        have hnone : kindAt k (if sec.position (s.index + 1) ≠ startPos then
            some (.onSlot (sec.position (s.index + 1)) (.acqTry evtCleanup startPos))
            else none) = none := by
          split
          · exact ite_self _
          · rfl
        rw [hnone] at hmoved
        exact hmoved

/-- A call that disposes of a handle, or sets it up, is counted. -/
theorem calls_settles_pos {c : PcClass} (hc : c ≠ .undoing) (hastray : c ≠ .astray)
    (h : 0 < s.tally k c) : 0 < s.calls k SlotPc.settles := by
  obtain ⟨t, stack, hstack, frame, hmem, hframe⟩ := Stacks.tally_pos_iff.mp h
  refine Stacks.tally_pos hstack hmem ?_
  cases frame with
  | acqIndex evtCleanup => cases hframe
  | acqNext evtCleanup startPos => cases hframe
  | onSlot k' pc =>
    simp only [Bool.and_eq_true, beq_iff_eq] at hframe ⊢
    refine ⟨hframe.1, ?_⟩
    simp [SlotPc.settles, hframe.2, hc, hastray]

/-- A callback that is running is a call that cleans the handle up. -/
theorem tally_cleaning_pos (h : 0 < s.calls k (· == .decCleanup)) : 0 < s.tally k .cleaning := by
  obtain ⟨t, stack, hstack, frame, hmem, hframe⟩ := Stacks.tally_pos_iff.mp h
  refine Stacks.tally_pos hstack hmem ?_
  cases frame with
  | acqIndex evtCleanup => cases hframe
  | acqNext evtCleanup startPos => cases hframe
  | onSlot k' pc =>
    simp only [Bool.and_eq_true, beq_iff_eq] at hframe ⊢
    exact ⟨hframe.1, by rw [hframe.2]; rfl⟩

theorem Consistent.poolSafe (hs : s.Consistent) : PoolSafe s where
  quiet k h := ((hs.slots k).disposing_of_pos (.inr (.inl (tally_cleaning_pos h)))).uncounted.refs
  once := ⟨fun k => (hs.slots k).runs_le, hs.missed⟩
  reclaimed k huse hrefs := by
    obtain ⟨c, hundo, hastray, hpos⟩ := (hs.slots k).settling_pos huse hrefs
    exact calls_settles_pos hundo hastray hpos
  refused := hs.badInc
  single := ⟨hs.twice, fun k => (hs.slots k).acquiring_le⟩

theorem consistent_start (index : BitVec 32) (n : ℕ) : (start index n).Consistent := by
  have hnone : ∀ k c, (start index n).tally k c = 0 := fun k c => by
    unfold tally calls start
    induction n with
    | zero => rfl
    | succ n ih => exact ih
  refine ⟨fun k => ⟨hnone k _, .inl ⟨rfl, hnone k _, ⟨rfl, ?_, ?_, ?_⟩, ?_, Nat.zero_le _⟩⟩,
    rfl, rfl, rfl⟩
  · rw [hnone k]
    rfl
  · rw [hnone k]
    exact Nat.zero_le _
  · exact ⟨hnone k _, hnone k _, hnone k _⟩
  · exact ⟨hnone k _, hnone k _, hnone k _⟩

end PoolState

end LibusbK
