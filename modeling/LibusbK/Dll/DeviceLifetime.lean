import LibusbK.Dll.HandleSteps
import Mathlib.Algebra.BigOperators.Group.Finset.Piecewise

/-!
# The lifetime of devices

## Main results

* `OpenHandles.Inv.step` — every step keeps the invariant.
* `always_safe` — what an application relies on holds in every run.
* `always_accounted_iff` — a handle gets lost exactly where `UsbStack_Init` gets no memory for
  the stack.
* `accounted_iff_and_nothingLeft` — where none gets lost, nothing is left when all have been
  freed.
-/

namespace LibusbK

open Tokens

namespace OpenHandles

section

variable {η δ : Type} {n : ℕ} {s : OpenHandles η δ n}

/-- Between two calls no thread holds anything. -/
theorem Quiet.total_eq_zero {α : Type} [DecidableEq α] {tokens : UsbPc η δ → List α}
    (hquiet : s.Quiet) (hidle : tokens .idle = []) (x : α) : total tokens s.threads x = 0 := by
  have hcount (t : Fin n) : (tokens (s.threads t)).count x = 0 := by
    rw [hquiet t, hidle, List.count_nil]
  simp [total, hcount]

/-! ### Handles that get lost -/

variable [DecidableEq η]

theorem lost_enter (s : OpenHandles η δ n) (t : Fin n) (h : η) (next failed : UsbPc η δ) :
    (s.enter t h next failed).1.lost = s.lost := by
  unfold enter incUsbK
  cases (s.usb h).base.inc t <;> rfl

variable {t : Fin n}

theorem lost_start {call : UsbCall η} {next : OpenHandles η δ n × UsbPc η δ}
    (hrun : call.start s t = some next) : next.1.lost = s.lost := by
  cases call with
  | init given =>
    cases hrun
    rfl
  | clone h | getAssociatedInterface h a | use h =>
    simp only [UsbCall.start, Option.ite_none_right_eq_some, Option.some.injEq] at hrun
    obtain ⟨-, rfl⟩ := hrun
    exact lost_enter ..
  | free h =>
    simp only [UsbCall.start, Option.ite_none_right_eq_some, Option.some.injEq] at hrun
    obtain ⟨-, rfl⟩ := hrun
    rfl

variable [DecidableEq δ] {p : UsbPc η δ}

/-- No other step loses a handle. -/
theorem lost_run {e : UsbEvent η δ n} {next : OpenHandles η δ n × UsbPc η δ}
    (hp : ∀ i d, p ≠ .extraMem i d) (hrun : p.run s t e = some next) :
    next.1.lost = s.lost := by
  cases p with
  | idle =>
    simp only [UsbPc.run, Option.bind_eq_some_iff] at hrun
    obtain ⟨call, -, hrun⟩ := hrun
    exact lost_start hrun
  | inCall h | cloneDevice c =>
    simp only [UsbPc.run, Option.map_eq_some_iff] at hrun
    obtain ⟨d, -, rfl⟩ := hrun
    rfl
  | findInterface h a =>
    simp only [UsbPc.run, Option.map_eq_some_iff] at hrun
    obtain ⟨d, -, rfl⟩ := hrun
    split <;> rfl
  | cloneInc h nextIndex =>
    cases hrun
    exact lost_enter ..
  | acquireClone c d | acquireUsbK given | acquireDevK given i =>
    simp only [UsbPc.run] at hrun
    split at hrun
    · cases hrun
      rfl
    · simp only [Option.ite_none_right_eq_some, Option.some.injEq] at hrun
      obtain ⟨-, rfl⟩ := hrun
      rfl
  | incDevK c d i =>
    cases hrun
    unfold incDevK
    cases (s.dev d).base.inc t <;> rfl
  | initBackend given i d | createFile i d | initConfig i d =>
    simp only [UsbPc.run] at hrun
    split at hrun <;> cases hrun <;> rfl
  | extraMem i d => exact absurd rfl (hp i d)
  | finish acts out =>
    cases acts with
    | nil =>
      cases hrun
      rfl
    | cons act acts =>
      cases act with
      | decUsbK h =>
        cases hrun
        unfold decUsbK
        split <;> rfl
      | copySelected h i | select i nextIndex =>
        cases hrun
        rfl
  | cleanupUsbK h device acts out =>
    cases device with
    | none =>
      cases hrun
      rfl
    | some d =>
      cases hrun
      unfold decDevK
      split <;> rfl
  | setDevice c d i | cleanupDevK d h acts out | releaseDevK d h acts out
  | releaseUsbK h acts out =>
    cases hrun
    rfl

end

/-! ### The invariant in a run -/

variable {η δ : Type} {n : ℕ} [Fintype η] [DecidableEq η] [Fintype δ] [DecidableEq δ]
  {s s' : OpenHandles η δ n} {p : UsbPc η δ} {h : η}

/-- **Every step keeps the invariant.** -/
theorem Inv.step (hs : s.Inv) {e : UsbEvent η δ n}
    (hstep : (openHandles η δ n).step s e = some s') : s'.Inv := by
  simp only [openHandles, Option.map_eq_some_iff] at hstep
  obtain ⟨next, hrun, rfl⟩ := hstep
  have hsteps := steps_run hs rfl hrun
  have hguarantee : Guarantee s { next.1 with
      threads := Function.update next.1.threads e.thread next.2 } (s.threads e.thread) :=
    ⟨hsteps.guarantee.usb, hsteps.guarantee.dev, hsteps.guarantee.free⟩
  refine ⟨hs.balanced.next rfl hsteps.moves, fun t => ?_, fun h hh => ?_, fun d hfree => ?_⟩
  · dsimp only
    by_cases ht : t = e.thread
    · subst ht
      rw [Function.update_self]
      exact hsteps.fact.withThreads
    · rw [Function.update_of_ne ht, congrFun hsteps.moves.threads t]
      exact Fact.stable hs.balanced rfl hguarantee ht (hs.facts t)
  · rcases hsteps.owned h hh with howned | hdevice
    · exact (hs.owned h howned).stable hs.balanced rfl hguarantee (.inl howned)
    · exact hdevice
  · change (next.1.dev d).resources = []
    rcases hsteps.guarantee.free d hfree with hsame | hnone
    · rw [hsame]
      refine hs.free d ?_
      rw [← hsame]
      exact hfree
    · exact hnone

theorem inv_initial : ({} : OpenHandles η δ n).Inv := by
  have hzero {ι σ α : Type} [Fintype ι] [DecidableEq α] (tokens : σ → List α) (holders : ι → σ)
      (x : α) (h : ∀ i, tokens (holders i) = []) : total tokens holders x = 0 := by
    simp [total, h]
  refine ⟨⟨fun h => ?_, fun h => ?_, fun d => ?_, fun d => ?_, fun r => ?_⟩, fun _ => trivial,
    nofun, fun _ _ => rfl⟩
  · rw [usbTokens, hzero _ _ h fun _ => rfl]
    rfl
  · exact (hzero UsbPc.ends (fun _ : Fin n => (.idle : UsbPc η δ)) h fun _ => rfl).symm
  · rw [devTokens, hzero _ _ d fun _ => rfl, hzero _ _ d fun _ => rfl]
    rfl
  · exact (hzero UsbPc.devEnds (fun _ : Fin n => (.idle : UsbPc η δ)) d fun _ => rfl).symm
  · rw [hzero _ _ r fun _ => rfl]
    rfl

/-! ### What follows -/

theorem Balanced.isOpen (hs : s.Balanced) (hpos : 0 < (s.usb h).base.ref) (hd : s.HasDevice h) :
    s.IsOpen h := by
  obtain ⟨d, hdevice, hready⟩ := hd
  refine ⟨hpos, d, hdevice, hs.dev_ref_pos hpos hdevice, hready, fun r hr hreleased => ?_⟩
  have hheld : 0 < total DevKObject.resources s.dev r := total_pos hr
  have hcount := List.count_pos_iff.mpr hreleased
  have hsum := hs.resources r
  split_ifs at hsum <;> omega

/-- **What an application relies on follows from the invariant.** -/
theorem safe_of_inv (hs : s.Inv) : s.Safe := by
  refine ⟨fun h hh => ?_, fun t h hh => ?_, List.nodup_iff_count.mpr fun r => ?_⟩
  · exact hs.balanced.isOpen (hs.balanced.ref_pos_of_owned hh) (hs.owned h hh)
  · obtain ⟨hdevice, hmem⟩ := (hs.facts t).hasDevice_of_reads hh
    exact hs.balanced.isOpen (hs.balanced.ref_pos hmem) hdevice
  · have hsum := hs.balanced.resources r
    split_ifs at hsum <;> omega

/-- **In every run, what the application has and what a call uses is open, and nothing is
freed or closed twice.** -/
theorem always_safe (η δ : Type) (n : ℕ) [Fintype η] [DecidableEq η] [Fintype δ] [DecidableEq δ]
    (es : List (UsbEvent η δ n)) :
    (openHandles η δ n).Always Safe {} es :=
  Machine.always_of_step (fun _ => safe_of_inv) (fun _ _ _ hs h => hs.step h) es inv_initial

/-- Between two calls, the count of a device is the number of its handles. -/
theorem ref_eq_card (hs : s.Inv) (hquiet : s.Quiet) (d : δ) :
    (s.dev d).base.ref =
      (Finset.univ.filter fun h => 0 < (s.usb h).base.ref ∧ (s.usb h).device = some d).card := by
  rw [hs.balanced.devRef, devTokens, hquiet.total_eq_zero rfl, Nat.add_zero, total,
    Finset.card_filter]
  refine Finset.sum_congr rfl fun h _ => ?_
  unfold UsbKObject.devRef
  cases hbase : (s.usb h).base with
  | counted others => cases hdevice : (s.usb h).device <;> simp [List.count_singleton]
  | _ => simp

/-- Where every handle in use is accounted for, nothing is left when all have been freed. -/
theorem nothingLeft_of_accounted (hs : s.Inv) (ha : s.Accounted) (hquiet : s.Quiet)
    (hnone : s.owned = []) : s.NothingLeft := by
  have husbRef (h : η) : (s.usb h).base.ref = 0 := by
    by_contra hne
    rcases ha h (Nat.pos_of_ne_zero hne) with hh | ⟨t, hh⟩
    · rw [hnone] at hh
      cases hh
    · rw [hquiet t] at hh
      cases hh
  have hfree {base : KObjBase} (href : base.ref = 0) (hending : base.ending = 0) :
      base = .free := by
    cases base with
    | free => rfl
    | counted others => cases href
    | disposing t => cases hending
  have husb (h : η) : (s.usb h).base = .free := by
    refine hfree (husbRef h) ?_
    rw [hs.balanced.usbEnd, hquiet.total_eq_zero rfl]
  have hdev (d : δ) : (s.dev d).base = .free := by
    refine hfree ?_ ?_
    · have hheld (h : η) : ((s.usb h).devRef).count d = 0 := by
        rw [UsbKObject.devRef, husb]
        rfl
      rw [hs.balanced.devRef, devTokens, hquiet.total_eq_zero rfl]
      simp [total, hheld]
    · rw [hs.balanced.devEnd, hquiet.total_eq_zero rfl]
  refine ⟨husb, hdev, fun r hr => ?_⟩
  have hsum := hs.balanced.resources r
  have hheld : total DevKObject.resources s.dev r = 0 := by
    have hcount (d : δ) : (s.dev d).resources.count r = 0 := by
      rw [hs.free d (hdev d), List.count_nil]
    simp [total, hcount]
  rw [if_pos hr, hheld] at hsum
  exact List.count_pos_iff.mp (by omega)

/-- With no handle lost, every handle in use is one that somebody can free. -/
theorem accounted_of_lost_eq_nil (hs : s.Inv) (hlost : s.lost = []) : s.Accounted := by
  intro h hpos
  rw [hs.balanced.usbRef, usbTokens, hlost, List.count_nil] at hpos
  by_cases hh : h ∈ s.owned
  · exact .inl hh
  · rw [List.count_eq_zero_of_not_mem hh] at hpos
    exact .inr (total_pos_iff.mp (by omega))

/-- Without memory for the stack, `UsbStack_Init` loses its handle. -/
theorem not_accounted_of_dropsHandle (hs : s.Inv) {e : UsbEvent η δ n} (hdrops : s.DropsHandle e)
    (hstep : (openHandles η δ n).step s e = some s') : ¬s'.Accounted := by
  obtain ⟨⟨i, d, hp⟩, hok⟩ := hdrops
  have hinv := hs.step hstep
  have hstep' : some ({ s with
      lost := i :: s.lost
      threads := Function.update s.threads e.thread (.finish [] none) } : OpenHandles η δ n) =
        some s' := by
    rw [← hstep]
    simp only [openHandles, hp, UsbPc.run, hok, Bool.false_eq_true, if_false, Option.map_some]
  cases hstep'
  obtain ⟨ctx, file, path, hb⟩ : s.Fact (.extraMem i d) := hp ▸ hs.facts e.thread
  have href : (s.usb i).base.ref = 1 := by
    rw [hb.1]
    rfl
  -- the count is the one of the lost reference
  have htokens := hinv.balanced.usbRef i
  unfold usbTokens at htokens
  dsimp only at htokens
  rw [href, List.count_cons_self] at htokens
  intro ha
  rcases ha i (by dsimp only; omega) with hh | ⟨t, hh⟩
  · have := List.count_pos_iff.mpr hh
    dsimp only at this
    omega
  · have htotal := total_pos_iff.mpr ⟨t, hh⟩
    dsimp only at htotal
    omega

/-- **A handle gets lost exactly where `UsbStack_Init` gets no memory for the stack.** -/
theorem always_accounted_iff (η δ : Type) (n : ℕ) [Fintype η] [DecidableEq η] [Fintype δ]
    [DecidableEq δ] (es : List (UsbEvent η δ n)) :
    (openHandles η δ n).Always Accounted {} es ↔
      (openHandles η δ n).Throughout (fun s e => ¬s.DropsHandle e) {} es := by
  refine Machine.always_iff_throughout_not (I := fun s => s.Inv ∧ s.lost = [])
    (fun s hs => accounted_of_lost_eq_nil hs.1 hs.2) (fun s e s' hs hstep => ?_) es
    ⟨inv_initial, rfl⟩
  by_cases hdrops : s.DropsHandle e
  · exact .inr ⟨hdrops, not_accounted_of_dropsHandle hs.1 hdrops hstep⟩
  · refine .inl ⟨hdrops, hs.1.step hstep, ?_⟩
    have hstep' := hstep
    simp only [openHandles, Option.map_eq_some_iff] at hstep'
    obtain ⟨next, hrun, rfl⟩ := hstep'
    dsimp only
    cases hp : s.threads e.thread with
    | extraMem i d =>
      cases hok : e.ok with
      | false => exact absurd ⟨⟨i, d, hp⟩, hok⟩ hdrops
      | true =>
        simp only [hp, UsbPc.run, hok, if_true, Option.some.injEq] at hrun
        subst hrun
        exact hs.2
    | _ =>
      rw [hp] at hrun
      refine (lost_run (fun i d => ?_) hrun).trans hs.2
      rintro ⟨⟩

/-- **When every handle has been freed, nothing is left, unless one got lost.**  Between two
calls the count of a device is the number of its handles. -/
theorem accounted_iff_and_nothingLeft (η δ : Type) (n : ℕ) [Fintype η] [DecidableEq η] [Fintype δ]
    [DecidableEq δ] (es : List (UsbEvent η δ n)) :
    ((openHandles η δ n).Always Accounted {} es ↔
        (openHandles η δ n).Throughout (fun s e => ¬s.DropsHandle e) {} es) ∧
      (openHandles η δ n).Always (fun s => s.Quiet →
        (∀ d, (s.dev d).base.ref = (Finset.univ.filter fun h =>
          0 < (s.usb h).base.ref ∧ (s.usb h).device = some d).card) ∧
        (s.Accounted → s.owned = [] → s.NothingLeft)) {} es :=
  ⟨always_accounted_iff η δ n es, Machine.always_of_step
    (fun _ hs hquiet => ⟨ref_eq_card hs hquiet, fun ha => nothingLeft_of_accounted hs ha hquiet⟩)
    (fun _ _ _ hs h => hs.step h) es inv_initial⟩

end OpenHandles

end LibusbK
