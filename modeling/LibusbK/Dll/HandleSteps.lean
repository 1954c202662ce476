import LibusbK.Dll.HandleFacts

/-!
# The steps of the calls

Every step of a call on USB handles moves tokens, leaves what other calls know, and gives
the call what it knows next.

## Main definitions

* `Steps` — all this of one step.
* `OpenHandles.Inv` — the invariant of all runs.

## Main result

* `steps_run` — every step of a call does it.
-/

namespace LibusbK

open Tokens

namespace OpenHandles

variable {η δ : Type} {n : ℕ} [Fintype η] [DecidableEq η] [Fintype δ] [DecidableEq δ]
  {s s' : OpenHandles η δ n} {t t' : Fin n} {p q : UsbPc η δ} {h i : η} {d : δ}

/-! ### What a step does -/

/-- A step from `s` to `s'`, with which a thread moves on from `p` to `q`. -/
structure Steps (s s' : OpenHandles η δ n) (p q : UsbPc η δ) : Prop where
  moves : Moves s s' p q
  guarantee : Guarantee s s' p
  fact : s'.Fact q
  owned : ∀ h ∈ s'.owned, h ∈ s.owned ∨ s'.HasDevice h

/-- A step that writes nothing. -/
theorem Steps.same (hrefs : ∀ h, q.refs.count h = p.refs.count h) (hends : q.ends = p.ends)
    (hdevRefs : q.devRefs = p.devRefs) (hdevEnds : q.devEnds = p.devEnds) (hf : s.Fact q) :
    Steps s s p q :=
  ⟨.same hrefs hends hdevRefs hdevEnds, .refl s p, hf, fun _ h => .inl h⟩

/-- A call takes a reference on its handle, or is refused. -/
theorem steps_enter {next failed : UsbPc η δ} (hpos : 0 < (s.usb h).base.ref)
    (hh : h ∈ p.refs ∨ h ∈ s.owned) (hnext : ∀ k, next.refs.count k = (h :: p.refs).count k)
    (hfailed : ∀ k, failed.refs.count k = p.refs.count k)
    (hends : next.ends = p.ends ∧ failed.ends = p.ends)
    (hdevRefs : next.devRefs = p.devRefs ∧ failed.devRefs = p.devRefs)
    (hdevEnds : next.devEnds = p.devEnds ∧ failed.devEnds = p.devEnds)
    (hf : ∀ base, (s.setUsbBase h base).Fact next) (hf' : s.Fact failed) :
    Steps s (s.enter t h next failed).1 p (s.enter t h next failed).2 := by
  unfold enter incUsbK
  cases hinc : (s.usb h).base.inc t with
  | none => exact .same hfailed hends.2 hdevRefs.2 hdevEnds.2 hf'
  | some base =>
    obtain ⟨others, hbase, rfl⟩ := KObjBase.inc_eq_some_of_ref_pos hinc hpos
    change Steps s (s.setUsbBase h (.counted (others + 1))) p next
    refine ⟨.setUsb (fun k => ?_) (fun k => ?_) (fun d => ?_) hdevEnds.1,
      .setUsb (.inr (.inr ⟨hh, .inl rfl⟩)), hf _, fun _ h => .inl h⟩
    · rw [hnext, hbase, List.count_cons]
      by_cases hkh : k = h
      · subst hkh
        simp
        omega
      · simp [hkh, Ne.symm hkh]
    · rw [hends.1, hbase]
      rfl
    · rw [hdevRefs.1, UsbKObject.devRef, hbase]
      rfl

/-- A call acquires a USB handle. -/
theorem steps_acquireUsbK (hfree : (s.usb i).base = .free) (hrefs : q.refs = i :: p.refs)
    (hends : q.ends = p.ends) (hdevRefs : q.devRefs = p.devRefs) (hdevEnds : q.devEnds = p.devEnds)
    (hf : (s.setUsb i { base := .counted 0 }).Fact q) :
    Steps s (s.setUsb i { base := .counted 0 }) p q := by
  refine ⟨.setUsb (fun k => ?_) (fun k => ?_) (fun d => ?_) hdevEnds, .setUsb (.inl hfree), hf,
    fun _ h => .inl h⟩
  · rw [hrefs, hfree, List.count_cons]
    by_cases hki : k = i
    · subst hki
      simp
      omega
    · simp [hki, Ne.symm hki]
  · rw [hends, hfree]
    rfl
  · rw [hdevRefs, UsbKObject.devRef, hfree]
    rfl

theorem count_range' (a k r : ℕ) :
    (if r < a then 1 else 0) + (List.range' a k).count r = if r < a + k then 1 else 0 := by
  rw [List.count_range_1']
  split_ifs <;> omega

/-- A resource is allocated for a device that is built. -/
theorem steps_allocate {x y : DevKObject} {k : ℕ} (hb : s.Builds i d x)
    (hrefs : p.refs = [i]) (hq : q.refs = [i]) (hends : q.ends = p.ends)
    (hdevRefs : q.devRefs = p.devRefs) (hdevEnds : q.devEnds = p.devEnds)
    (hbase : y.base = .counted 0)
    (hready : (s.dev d).IsReady → y.IsReady)
    (hresources : ∀ r, y.resources.count r =
      (s.dev d).resources.count r + (List.range' s.allocated k).count r)
    (hf : (s.allocate d k y).Fact q) : Steps s (s.allocate d k y) p q := by
  have hdevice : (s.usb i).device = some d := by rw [hb.1]
  have hguarantee : Guarantee s (s.setDev d y) p := by
    refine .setDev (.inr (.inr ⟨.inr ⟨i, ?_, hdevice⟩, hready⟩)) fun h => ?_
    · rw [hrefs]
      exact List.mem_singleton_self i
    · rw [hbase] at h
      cases h
  refine ⟨⟨rfl, fun h => ?_, fun h => ?_, fun e => ?_, fun e => ?_, fun r => ?_⟩,
    ⟨hguarantee.usb, hguarantee.dev, hguarantee.free⟩, hf, fun _ h => .inl h⟩
  · rw [hrefs, hq]
    rfl
  · rw [hends]
    rfl
  · rw [hdevRefs]
    change ((s.setDev d y).dev e).base.ref + _ = _ + (total UsbKObject.devRef s.usb e + _)
    rw [dev_setDev]
    split_ifs with hed
    · rw [hbase, hed, hb.2]
    · rfl
  · rw [hdevEnds]
    change ((s.setDev d y).dev e).base.ending + _ = _
    rw [dev_setDev]
    split_ifs with hed
    · rw [hbase, hed, hb.2]
    · rfl
  · have htotal := total_resources_setDev s d y r
    have hr := hresources r
    have hcount := count_range' s.allocated k r
    change s.released.count r + total DevKObject.resources (s.setDev d y).dev r + _ =
      _ + (if r < s.allocated + k then 1 else 0)
    omega

/-- A clone takes its reference on the device. -/
theorem steps_incDevK {c : CloneCall η} (hs : s.Balanced) (hp : s.threads t = .incDevK c d i)
    (hf : s.Fact (.incDevK c d i)) {base : KObjBase} (hinc : (s.dev d).base.inc t = some base) :
    Steps s (s.setDevBase d base) (.incDevK c d i) (.setDevice c d i) := by
  have hhandle : c.handle ∈ UsbPc.refs (.incDevK c d i : UsbPc η δ) :=
    List.mem_cons_of_mem i List.mem_cons_self
  have hpos : 0 < (s.usb c.handle).base.ref := hs.ref_pos (by rw [hp]; exact hhandle)
  obtain ⟨others, hbase, rfl⟩ :=
    KObjBase.inc_eq_some_of_ref_pos hinc (hs.dev_ref_pos hpos hf.1.1)
  refine ⟨.setDev rfl rfl (fun e => ?_) (fun e => ?_) rfl, .setDev (.inr (.inr ?_)) nofun,
    ⟨⟨hf.1.1, ?_⟩, hf.2⟩, fun _ h => .inl h⟩
  · rw [hbase]
    by_cases hed : e = d
    · subst hed
      simp [UsbPc.devRefs]
    · simp [UsbPc.devRefs, hed, Ne.symm hed]
  · rw [hbase]
    rfl
  · exact ⟨.inr ⟨c.handle, hhandle, hf.1.1⟩, fun hready => hready.base _⟩
  · have hready := hf.1.2.base (.counted (others + 1))
    rwa [setDevBase, dev_setDev, if_pos rfl]

/-- The clone is made. -/
theorem steps_setDevice {c : CloneCall η} (hf : s.Fact (.setDevice c d i)) :
    Steps s (s.setUsb i { s.usb i with device := some d, isClone := true })
      (.setDevice c d i) (.finish (c.made i) (some i)) := by
  have hnew : s.usb i = { base := .counted 0 } := hf.2
  have hi : i ∈ UsbPc.refs (.setDevice c d i : UsbPc η δ) := List.mem_cons_self
  refine ⟨.setUsb (fun h => ?_) (fun h => ?_) (fun e => ?_) rfl,
    .setUsb (.inr (.inr ⟨.inl hi, .inr ⟨?_, hi⟩⟩)), ⟨c.target_of_mem_made i, ?_⟩, fun _ h => .inl h⟩
  · change _ + (i :: c.refs).count h = _ + ((c.made i).flatMap UsbTail.refs ++ [i]).count h
    rw [c.flatMap_refs_made, List.count_append, List.count_cons, List.count_singleton, hnew]
  · rw [hnew]
    rfl
  · simp [hnew, UsbKObject.devRef, UsbPc.devRefs]
  · rw [hnew]
    rfl
  · rintro _ ⟨⟩
    refine ⟨d, ?_, hf.1.2⟩
    rw [usb_setUsb, if_pos rfl]

/-- A new handle acquires its device. -/
theorem steps_acquireDevK {given : Bool} (hf : s.Fact (.acquireDevK given i))
    (hfree : (s.dev d).base = .free) (hnone : (s.dev d).resources = []) :
    Steps s ((s.setDev d { base := .counted 0 }).setUsb i { s.usb i with device := some d })
      (.acquireDevK given i) (.initBackend given i d) := by
  have hnew : s.usb i = { base := .counted 0 } := hf
  rw [hnew]
  have hi : i ∈ UsbPc.refs (.acquireDevK given i : UsbPc η δ) := List.mem_singleton_self i
  have hone : (s.usb i).base.ref = 1 := by rw [hnew]; rfl
  have husb : Guarantee s (s.setUsb i { base := .counted 0, device := some d })
      (.acquireDevK given i) :=
    .setUsb (.inr (.inr ⟨.inl hi, .inr ⟨hone, hi⟩⟩))
  have hdev : Guarantee s (s.setDev d { base := .counted 0 }) (.acquireDevK given i) :=
    .setDev (.inl hfree) nofun
  refine ⟨⟨rfl, fun h => ?_, fun h => ?_, fun e => ?_, fun e => ?_, fun r => ?_⟩,
    ⟨husb.usb, hdev.dev, hdev.free⟩, ⟨?_, ?_⟩, fun _ h => .inl h⟩
  · rw [usb_setUsb]
    split_ifs with hhi
    · rw [hhi, hnew]
      rfl
    · rfl
  · rw [usb_setUsb]
    split_ifs with hhi
    · rw [hhi, hnew]
      rfl
    · rfl
  · have htotal := total_devRef_setUsb s i { base := .counted 0, device := some d } e
    rw [hnew] at htotal
    change ((s.setDev d { base := .counted 0 }).dev e).base.ref + _ =
      _ + (total UsbKObject.devRef (s.setUsb i { base := .counted 0, device := some d }).usb e + _)
    rw [dev_setDev]
    by_cases hed : e = d
    · subst hed
      simp only [UsbKObject.devRef, Option.toList_none, Option.toList_some, List.count_nil,
        List.count_singleton_self] at htotal
      rw [if_pos rfl, hfree, KObjBase.ref_free, KObjBase.ref_counted]
      change _ + (_ + 0) = _ + (_ + 0)
      omega
    · simp only [UsbKObject.devRef, Option.toList_none, Option.toList_some, List.count_nil,
        List.count_singleton, beq_iff_eq, Ne.symm hed, if_false] at htotal
      rw [if_neg hed]
      change _ + (_ + 0) = _ + (_ + 0)
      omega
  · change ((s.setDev d { base := .counted 0 }).dev e).base.ending + _ = _
    rw [dev_setDev]
    split_ifs with hed
    · rw [hed, hfree]
      rfl
    · rfl
  · have htotal := total_resources_setDev s d { base := .counted 0 } r
    rw [hnone] at htotal
    change s.released.count r +
      total DevKObject.resources (s.setDev d { base := .counted 0 }).dev r + _ =
        _ + (if r < s.allocated then 1 else 0)
    change _ + 0 = _ + 0 at htotal
    omega
  · rw [IsNew, usb_setUsb, if_pos rfl]
  · change (s.setDev d { base := .counted 0 }).dev d = _
    rw [dev_setDev, if_pos rfl]

/-- A reference on a handle is given up. -/
theorem steps_decUsbK {acts : List (UsbTail η)} {out : Option η} (hs : s.Balanced)
    (hp : s.threads t = .finish (.decUsbK h :: acts) out)
    (hf : s.Returns (.decUsbK h :: acts) out) :
    Steps s (s.decUsbK t h acts out).1 (.finish (.decUsbK h :: acts) out)
      (s.decUsbK t h acts out).2 := by
  have hh : h ∈ UsbPc.refs (.finish (.decUsbK h :: acts) out : UsbPc η δ) := List.mem_cons_self
  have hpos : 0 < (s.usb h).base.ref := hs.ref_pos (by rw [hp]; exact hh)
  obtain ⟨others, hbase⟩ := KObjBase.ref_pos_iff.mp hpos
  have hguarantee (base : KObjBase) :
      Guarantee s (s.setUsbBase h base) (.finish (.decUsbK h :: acts) out) :=
    .setUsb (.inr (.inr ⟨.inl hh, .inl rfl⟩))
  have hrefs (k : η) : (UsbPc.refs (.finish (.decUsbK h :: acts) out : UsbPc η δ)).count k =
      (acts.flatMap UsbTail.refs ++ out.toList).count k + if h = k then 1 else 0 := by
    change (h :: (acts.flatMap UsbTail.refs ++ out.toList)).count k = _
    rw [List.count_cons]
    simp only [beq_iff_eq]
  rw [decUsbK, hbase]
  cases others with
  | zero =>
    refine ⟨.setUsb (fun k => ?_) (fun k => ?_) (fun d => ?_) rfl, hguarantee _,
      hf.setUsb rfl, fun _ h => .inl h⟩
    · rw [hrefs, hbase]
      by_cases hkh : k = h
      · subst hkh
        simp only [if_true, KObjBase.ref_disposing, KObjBase.ref_counted, UsbPc.refs]
        omega
      · simp [hkh, Ne.symm hkh, UsbPc.refs]
    · rw [hbase]
      by_cases hkh : k = h
      · subst hkh
        simp [UsbPc.ends]
      · simp [hkh, Ne.symm hkh, UsbPc.ends]
    · rw [UsbKObject.devRef, hbase]
      simp [UsbKObject.devRef, UsbPc.devRefs]
  | succ others =>
    refine ⟨.setUsb (fun k => ?_) (fun k => ?_) (fun d => ?_) rfl, hguarantee _,
      hf.setUsb rfl, fun _ h => .inl h⟩
    · rw [hrefs, hbase]
      by_cases hkh : k = h
      · subst hkh
        simp only [if_true, KObjBase.ref_counted, UsbPc.refs]
        omega
      · simp [hkh, Ne.symm hkh, UsbPc.refs]
    · rw [hbase]
      rfl
    · rw [UsbKObject.devRef, hbase]
      rfl

/-- The clean-up of a handle gives up its reference on the device. -/
theorem steps_decDevK {acts : List (UsbTail η)} {out : Option η} (hs : s.Balanced)
    (hp : s.threads t = .cleanupUsbK h (some d) acts out) (hf : s.Returns acts out) :
    Steps s (s.decDevK t d h acts out).1 (.cleanupUsbK h (some d) acts out)
      (s.decDevK t d h acts out).2 := by
  have hd : d ∈ UsbPc.devRefs (.cleanupUsbK h (some d) acts out : UsbPc η δ) :=
    List.mem_singleton_self d
  have hpos : 0 < (s.dev d).base.ref := hs.dev_ref_pos_of_token (by rw [hp]; exact hd)
  obtain ⟨others, hbase⟩ := KObjBase.ref_pos_iff.mp hpos
  have hguarantee {base : KObjBase} (hbase : base ≠ .free) :
      Guarantee s (s.setDevBase d base) (.cleanupUsbK h (some d) acts out) :=
    .setDev (.inr (.inr ⟨.inl hd, fun hready => hready.base _⟩)) fun h => absurd h hbase
  rw [decDevK, hbase]
  cases others with
  | zero =>
    refine ⟨.setDev rfl rfl (fun e => ?_) (fun e => ?_) rfl, hguarantee nofun,
      hf.setDevBase _, fun _ h => .inl h⟩
    · rw [hbase]
      by_cases hed : e = d
      · subst hed
        simp [UsbPc.devRefs]
      · simp [hed, Ne.symm hed, UsbPc.devRefs]
    · rw [hbase]
      by_cases hed : e = d
      · subst hed
        simp [UsbPc.devEnds]
      · simp [hed, Ne.symm hed, UsbPc.devEnds]
  | succ others =>
    refine ⟨.setDev rfl rfl (fun e => ?_) (fun e => ?_) rfl, hguarantee nofun,
      hf.setDevBase _, fun _ h => .inl h⟩
    · rw [hbase]
      by_cases hed : e = d
      · subst hed
        simp [UsbPc.devRefs]
      · simp [hed, Ne.symm hed, UsbPc.devRefs]
    · rw [hbase]
      rfl

/-- The resources of a device in its clean-up are released. -/
theorem steps_cleanupDevK {acts : List (UsbTail η)} {out : Option η} (hs : s.Balanced)
    (hp : s.threads t = .cleanupDevK d h acts out) (hf : s.Returns acts out) :
    Steps s (s.cleanupDevK d) (.cleanupDevK d h acts out) (.releaseDevK d h acts out) := by
  have hd : d ∈ UsbPc.devEnds (.cleanupDevK d h acts out : UsbPc η δ) := List.mem_singleton_self d
  have hzero : (s.dev d).base.ref = 0 := hs.dev_ending_pos (t := t) (by rw [hp]; exact hd)
  have hguarantee : Guarantee s (s.setDev d (s.dev d).cleanup) (.cleanupDevK d h acts out) :=
    .setDev (.inr (.inl hd)) fun _ => rfl
  refine ⟨⟨rfl, fun _ => rfl, fun _ => rfl, fun e => ?_, fun e => ?_, fun r => ?_⟩,
    ⟨hguarantee.usb, hguarantee.dev, hguarantee.free⟩, ⟨?_, hf.target, fun i hi => ?_⟩,
    fun _ h => .inl h⟩
  · change ((s.setDev d (s.dev d).cleanup).dev e).base.ref + _ = _
    rw [dev_setDev]
    split_ifs with hed
    · rw [hed]
      rfl
    · rfl
  · change ((s.setDev d (s.dev d).cleanup).dev e).base.ending + _ = _
    rw [dev_setDev]
    split_ifs with hed
    · rw [hed]
      rfl
    · rfl
  · have htotal := total_resources_setDev s d (s.dev d).cleanup r
    rw [DevKObject.resources_cleanup, List.count_nil] at htotal
    change ((s.dev d).resources ++ s.released).count r +
      total DevKObject.resources (s.setDev d (s.dev d).cleanup).dev r + _ =
        _ + (if r < s.allocated then 1 else 0)
    rw [List.count_append]
    omega
  · change ((s.setDev d (s.dev d).cleanup).dev d).resources = []
    rw [dev_setDev, if_pos rfl, DevKObject.resources_cleanup]
  · obtain ⟨e, hdevice, hready⟩ := hf.hasDevice i hi
    have hmem : i ∈ (s.threads t).refs := by
      rw [hp]
      exact List.mem_append_right _ (Option.mem_toList.mpr hi)
    have hpos := hs.dev_ref_pos (hs.ref_pos hmem) hdevice
    refine ⟨e, hdevice, ?_⟩
    change ((s.setDev d (s.dev d).cleanup).dev e).IsReady
    rw [dev_setDev, if_neg]
    · exact hready
    · rintro rfl
      omega

theorem eq_disposing_of_ending {base : KObjBase} (h : 0 < base.ending) :
    ∃ t, base = .disposing t := by
  cases base with
  | free => exact absurd h (Nat.lt_irrefl 0)
  | counted others => exact absurd h (Nat.lt_irrefl 0)
  | disposing t => exact ⟨t, rfl⟩

/-- The device is free for others. -/
theorem steps_releaseDevK {acts : List (UsbTail η)} {out : Option η} (hs : s.Balanced)
    (hp : s.threads t = .releaseDevK d h acts out) (hf : s.Fact (.releaseDevK d h acts out)) :
    Steps s (s.setDevBase d .free) (.releaseDevK d h acts out) (.releaseUsbK h acts out) := by
  have hd : d ∈ UsbPc.devEnds (.releaseDevK d h acts out : UsbPc η δ) := List.mem_singleton_self d
  have hending : 0 < (s.dev d).base.ending := by
    rw [hs.devEnd]
    exact total_pos (i := t) (by rw [hp]; exact hd)
  obtain ⟨u, hbase⟩ := eq_disposing_of_ending hending
  refine ⟨.setDev rfl rfl (fun e => ?_) (fun e => ?_) rfl,
    .setDev (.inr (.inl hd)) fun _ => hf.1, hf.2.setDevBase _, fun _ h => .inl h⟩
  · rw [hbase]
    rfl
  · rw [hbase]
    by_cases hed : e = d
    · subst hed
      simp [UsbPc.devEnds]
    · simp [hed, Ne.symm hed, UsbPc.devEnds]

/-- The handle is free for others. -/
theorem steps_releaseUsbK {acts : List (UsbTail η)} {out : Option η} (hs : s.Balanced)
    (hp : s.threads t = .releaseUsbK h acts out) (hf : s.Returns acts out) :
    Steps s (s.setUsbBase h .free) (.releaseUsbK h acts out) (.finish acts out) := by
  have hh : h ∈ UsbPc.ends (.releaseUsbK h acts out : UsbPc η δ) := List.mem_singleton_self h
  have hending : 0 < (s.usb h).base.ending := by
    rw [hs.usbEnd]
    exact total_pos (i := t) (by rw [hp]; exact hh)
  obtain ⟨u, hbase⟩ := eq_disposing_of_ending hending
  refine ⟨.setUsb (fun k => ?_) (fun k => ?_) (fun d => ?_) rfl, .setUsb (.inr (.inl hh)),
    hf.setUsbBase _, fun _ h => .inl h⟩
  · rw [hbase]
    rfl
  · rw [hbase]
    by_cases hkh : k = h
    · subst hkh
      simp [UsbPc.ends]
    · simp [hkh, Ne.symm hkh, UsbPc.ends]
  · rw [UsbKObject.devRef, hbase]
    rfl

/-- The index of a handle is written. -/
theorem steps_select {act : UsbTail η} {acts : List (UsbTail η)} {out : Option η} {index : UInt8}
    (hact : act.refs = []) (htarget : act.target = some i) (hf : s.Returns (act :: acts) out) :
    Steps s (s.setUsb i { s.usb i with selected := index }) (.finish (act :: acts) out)
      (.finish acts out) := by
  have hrefs : UsbPc.refs (.finish (act :: acts) out : UsbPc η δ) =
      UsbPc.refs (.finish acts out : UsbPc η δ) := by
    change (act.refs ++ acts.flatMap UsbTail.refs) ++ out.toList = _
    rw [hact]
    rfl
  have hi : i ∈ UsbPc.refs (.finish (act :: acts) out : UsbPc η δ) :=
    List.mem_append_right _ (Option.mem_toList.mpr (hf.target act List.mem_cons_self i htarget))
  refine ⟨.setUsb (fun k => ?_) (fun k => rfl) (fun d => rfl) rfl,
    .setUsb (.inr (.inr ⟨.inl hi, .inl rfl⟩)), hf.setUsb rfl, fun _ h => .inl h⟩
  rw [hrefs]

/-- A call returns. -/
theorem steps_return {out : Option η} (hf : s.Returns [] out) :
    Steps s { s with owned := out.toList ++ s.owned } (.finish [] out) .idle := by
  refine ⟨⟨rfl, fun h => ?_, fun _ => rfl, fun _ => rfl, fun _ => rfl, fun _ => rfl⟩,
    ⟨fun _ => .inl rfl, fun _ => .inl rfl, fun _ _ => .inl rfl⟩, trivial, fun h hh => ?_⟩
  · change (s.usb h).base.ref + (s.owned.count h + s.lost.count h + out.toList.count h) =
      (s.usb h).base.ref + ((out.toList ++ s.owned).count h + s.lost.count h + 0)
    rw [List.count_append]
    omega
  · rcases List.mem_append.mp hh with hh | hh
    · exact .inr (hf.hasDevice h (Option.mem_toList.mp hh))
    · exact .inl hh

/-- `UsbStack_Init` returns without giving the handle back. -/
theorem steps_lost :
    Steps s { s with lost := i :: s.lost } (.extraMem i d) (.finish [] none) := by
  refine ⟨⟨rfl, fun h => ?_, fun _ => rfl, fun _ => rfl, fun _ => rfl, fun _ => rfl⟩,
    ⟨fun _ => .inl rfl, fun _ => .inl rfl, fun _ _ => .inl rfl⟩, ⟨nofun, nofun⟩, fun _ h => .inl h⟩
  change (s.usb h).base.ref + (s.owned.count h + s.lost.count h + [i].count h) =
    (s.usb h).base.ref + (s.owned.count h + (i :: s.lost).count h + 0)
  simp only [List.count_cons, List.count_nil]
  omega

/-- The application frees a handle. -/
theorem steps_free (hh : h ∈ s.owned) :
    Steps s { s with owned := s.owned.erase h } .idle (.finish [.decUsbK h] none) := by
  refine ⟨⟨rfl, fun k => ?_, fun _ => rfl, fun _ => rfl, fun _ => rfl, fun _ => rfl⟩,
    ⟨fun _ => .inl rfl, fun _ => .inl rfl, fun _ _ => .inl rfl⟩, .none (by simp [UsbTail.target]),
    fun _ h => .inl (List.mem_of_mem_erase h)⟩
  change (s.usb k).base.ref + (s.owned.count k + s.lost.count k + 0) =
    (s.usb k).base.ref + ((s.owned.erase h).count k + s.lost.count k + [h].count k)
  rw [List.count_singleton]
  by_cases hkh : h = k
  · subst hkh
    have hcount := List.count_pos_iff.mpr hh
    rw [List.count_erase_self]
    simp
    omega
  · rw [List.count_erase_of_ne (Ne.symm hkh)]
    simp [hkh]

/-! ### The invariant -/

/-- **The invariant of all runs.** -/
structure Inv (s : OpenHandles η δ n) : Prop where
  balanced : s.Balanced
  facts : ∀ t, s.Fact (s.threads t)
  owned : ∀ h ∈ s.owned, s.HasDevice h
  free : ∀ d, (s.dev d).base = .free → (s.dev d).resources = []

/-- The first step of a call. -/
theorem steps_start (hs : s.Inv) {call : UsbCall η}
    {next : OpenHandles η δ n × UsbPc η δ} (hrun : call.start s t = some next) :
    Steps s next.1 .idle next.2 := by
  have hcount : ∀ k : η, (UsbPc.refs (.idle : UsbPc η δ)).count k =
    (UsbPc.refs (.idle : UsbPc η δ)).count k := fun _ => rfl
  cases call with
  | init given =>
    cases hrun
    exact .same (fun _ => rfl) rfl rfl rfl trivial
  | clone h =>
    simp only [UsbCall.start, Option.ite_none_right_eq_some, Option.some.injEq] at hrun
    obtain ⟨hh, rfl⟩ := hrun
    exact steps_enter (hs.balanced.ref_pos_of_owned hh) (.inr hh) (fun _ => rfl) hcount ⟨rfl, rfl⟩
      ⟨rfl, rfl⟩ ⟨rfl, rfl⟩ (fun _ => (hs.owned h hh).setUsb rfl) trivial
  | getAssociatedInterface h a =>
    simp only [UsbCall.start, Option.ite_none_right_eq_some, Option.some.injEq] at hrun
    obtain ⟨hh, rfl⟩ := hrun
    exact steps_enter (hs.balanced.ref_pos_of_owned hh) (.inr hh) (fun _ => rfl) hcount ⟨rfl, rfl⟩
      ⟨rfl, rfl⟩ ⟨rfl, rfl⟩ (fun _ => (hs.owned h hh).setUsb rfl) trivial
  | use h =>
    simp only [UsbCall.start, Option.ite_none_right_eq_some, Option.some.injEq] at hrun
    obtain ⟨hh, rfl⟩ := hrun
    exact steps_enter (hs.balanced.ref_pos_of_owned hh) (.inr hh) (fun _ => rfl) hcount ⟨rfl, rfl⟩
      ⟨rfl, rfl⟩ ⟨rfl, rfl⟩ (fun _ => (hs.owned h hh).setUsb rfl) trivial
  | free h =>
    simp only [UsbCall.start, Option.ite_none_right_eq_some, Option.some.injEq] at hrun
    obtain ⟨hh, rfl⟩ := hrun
    exact steps_free hh

/-- **Every step of a call moves tokens, and leaves what other calls know.** -/
theorem steps_run (hs : s.Inv) {e : UsbEvent η δ n} (hp : s.threads t = p)
    {next : OpenHandles η δ n × UsbPc η δ} (hrun : p.run s t e = some next) :
    Steps s next.1 p next.2 := by
  have hf : s.Fact p := hp ▸ hs.facts t
  have hnone : ∀ {h : η}, ∀ act ∈ [UsbTail.decUsbK h], act.target = none := by
    simp [UsbTail.target]
  cases p with
  | idle =>
    simp only [UsbPc.run, Option.bind_eq_some_iff] at hrun
    obtain ⟨call, -, hrun⟩ := hrun
    exact steps_start hs hrun
  | inCall h =>
    simp only [UsbPc.run, Option.map_eq_some_iff] at hrun
    obtain ⟨d, -, rfl⟩ := hrun
    exact .same (fun _ => rfl) rfl rfl rfl (.none hnone)
  | findInterface h a =>
    simp only [UsbPc.run, Option.map_eq_some_iff] at hrun
    obtain ⟨d, -, rfl⟩ := hrun
    split_ifs
    · exact .same (fun _ => rfl) rfl rfl rfl hf
    · exact .same (fun _ => rfl) rfl rfl rfl (.none hnone)
  | cloneInc h nextIndex =>
    cases hrun
    have hh : h ∈ (s.threads t).refs := by
      rw [hp]
      exact List.mem_singleton_self h
    exact steps_enter (hs.balanced.ref_pos hh) (.inl (List.mem_singleton_self h)) (fun _ => rfl)
      (fun _ => rfl) ⟨rfl, rfl⟩ ⟨rfl, rfl⟩ ⟨rfl, rfl⟩ (fun _ => HasDevice.setUsb rfl hf)
      (.none hnone)
  | cloneDevice c =>
    simp only [UsbPc.run, Option.map_eq_some_iff] at hrun
    obtain ⟨d, hd, rfl⟩ := hrun
    refine .same (fun _ => rfl) rfl rfl rfl ⟨hd, ?_⟩
    obtain ⟨e, he, hready⟩ := hf
    cases hd.symm.trans he
    exact hready
  | acquireClone c d =>
    cases hfound : e.usbK with
    | none =>
      simp only [UsbPc.run, hfound, Option.some.injEq] at hrun
      subst hrun
      refine .same (fun k => ?_) rfl rfl rfl (.none c.target_of_mem_failed)
      change (c.refs ++ []).count k = _
      rw [List.append_nil]
      rfl
    | some i =>
      simp only [UsbPc.run, hfound, Option.ite_none_right_eq_some, Option.some.injEq] at hrun
      obtain ⟨hfree, rfl⟩ := hrun
      refine steps_acquireUsbK hfree rfl rfl rfl rfl ⟨⟨?_, hf.2⟩, ?_⟩
      · have hne : c.handle ≠ i := by
          rintro rfl
          have hpos : 0 < (s.usb c.handle).base.ref :=
            hs.balanced.ref_pos (t := t) (by rw [hp]; exact List.mem_cons_self)
          exact ne_free_of_ref_pos hpos hfree
        rw [usb_setUsb, if_neg hne]
        exact hf.1
      · rw [IsNew, usb_setUsb, if_pos rfl]
  | incDevK c d i =>
    cases hrun
    unfold incDevK
    cases hinc : (s.dev d).base.inc t with
    | none =>
      refine .same (fun k => ?_) rfl rfl rfl (.none ?_)
      · change (i :: c.refs ++ []).count k = _
        rw [List.append_nil]
        rfl
      · exact fun act hact => (List.mem_cons.mp hact).elim (fun h => h ▸ rfl)
          (c.target_of_mem_failed act)
    | some base => exact steps_incDevK hs.balanced hp hf hinc
  | setDevice c d i =>
    cases hrun
    exact steps_setDevice hf
  | acquireUsbK given =>
    cases hfound : e.usbK with
    | none =>
      simp only [UsbPc.run, hfound, Option.some.injEq] at hrun
      subst hrun
      exact .same (fun _ => rfl) rfl rfl rfl (.none (List.forall_mem_nil _))
    | some i =>
      simp only [UsbPc.run, hfound, Option.ite_none_right_eq_some, Option.some.injEq] at hrun
      obtain ⟨hfree, rfl⟩ := hrun
      refine steps_acquireUsbK hfree rfl rfl rfl rfl ?_
      change IsNew _ _ _
      rw [IsNew, usb_setUsb, if_pos rfl]
  | acquireDevK given i =>
    cases hfound : e.devK with
    | none =>
      simp only [UsbPc.run, hfound, Option.some.injEq] at hrun
      subst hrun
      exact .same (fun _ => rfl) rfl rfl rfl (.none hnone)
    | some d =>
      simp only [UsbPc.run, hfound, Option.ite_none_right_eq_some, Option.some.injEq] at hrun
      obtain ⟨hfree, rfl⟩ := hrun
      exact steps_acquireDevK hf hfree (hs.free d hfree)
  | initBackend given i d =>
    cases hok : e.ok with
    | false =>
      simp only [UsbPc.run, hok, Bool.false_eq_true, if_false, Option.some.injEq] at hrun
      subst hrun
      exact .same (fun _ => rfl) rfl rfl rfl (.none hnone)
    | true =>
      simp only [UsbPc.run, hok, if_true, Option.some.injEq] at hrun
      subst hrun
      have hb : s.Builds i d {} := hf
      have hresources (r : ℕ) :
          (DevKObject.resources { s.dev d with backendCtx := some s.allocated }).count r =
            (s.dev d).resources.count r + (List.range' s.allocated 1).count r := by
        rw [hb.2]
        simp [DevKObject.resources, List.range']
      cases given with
      | false =>
        exact steps_allocate hb rfl rfl rfl rfl rfl (by rw [hb.2])
          (fun hready => ⟨hready.usbStack, hready.configDescriptor, rfl⟩) hresources
          ⟨_, hb.allocate (by rw [hb.2])⟩
      | true =>
        exact steps_allocate hb rfl rfl rfl rfl rfl (by rw [hb.2])
          (fun hready => ⟨hready.usbStack, hready.configDescriptor, rfl⟩) hresources
          ⟨_, none, none, hb.allocate (by rw [hb.2])⟩
  | createFile i d =>
    cases hok : e.ok with
    | false =>
      simp only [UsbPc.run, hok, Bool.false_eq_true, if_false, Option.some.injEq] at hrun
      subst hrun
      exact .same (fun _ => rfl) rfl rfl rfl (.none hnone)
    | true =>
      simp only [UsbPc.run, hok, if_true, Option.some.injEq] at hrun
      subst hrun
      obtain ⟨ctx, hb⟩ := hf
      refine steps_allocate hb rfl rfl rfl rfl rfl (by rw [hb.2])
        (fun hready => ⟨hready.usbStack, hready.configDescriptor, hready.backendCtx⟩)
        (fun r => ?_) ⟨ctx, some s.allocated, some (s.allocated + 1), hb.allocate (by rw [hb.2])⟩
      rw [hb.2]
      simp only [DevKObject.resources, List.range', Option.elim, Option.toList, List.count_append,
        List.count_cons, List.count_nil]
      omega
  | extraMem i d =>
    cases hok : e.ok with
    | false =>
      simp only [UsbPc.run, hok, Bool.false_eq_true, if_false, Option.some.injEq] at hrun
      subst hrun
      exact steps_lost
    | true =>
      simp only [UsbPc.run, hok, if_true, Option.some.injEq] at hrun
      subst hrun
      obtain ⟨ctx, file, path, hb⟩ := hf
      refine steps_allocate hb rfl rfl rfl rfl rfl (by rw [hb.2])
        (fun hready => ⟨rfl, hready.configDescriptor, hready.backendCtx⟩)
        (fun r => ?_) ⟨ctx, file, path, s.allocated, hb.allocate (by rw [hb.2])⟩
      rw [hb.2]
      simp only [DevKObject.resources, List.range', Option.toList, List.count_append,
        List.count_cons, List.count_nil]
      omega
  | initConfig i d =>
    cases hok : e.ok with
    | false =>
      simp only [UsbPc.run, hok, Bool.false_eq_true, if_false, Option.some.injEq] at hrun
      subst hrun
      exact .same (fun _ => rfl) rfl rfl rfl (.none hnone)
    | true =>
      simp only [UsbPc.run, hok, if_true, Option.some.injEq] at hrun
      subst hrun
      obtain ⟨ctx, file, path, mem, hb⟩ := hf
      refine steps_allocate hb rfl rfl rfl rfl rfl (by rw [hb.2])
        (fun hready => ⟨hready.usbStack, rfl, hready.backendCtx⟩)
        (fun r => ?_) ⟨List.forall_mem_nil _, fun j hj => ?_⟩
      · rw [hb.2]
        simp only [DevKObject.resources, List.range', Option.toList, List.count_append,
          List.count_cons, List.count_nil]
        omega
      · cases hj
        refine ⟨d, ?_, ?_⟩
        · change (s.usb i).device = some d
          rw [hb.1]
        · change ((s.setDev d _).dev d).IsReady
          rw [dev_setDev, if_pos rfl, hb.2]
          exact ⟨rfl, rfl, rfl⟩
  | finish acts out =>
    cases acts with
    | nil =>
      cases hrun
      exact steps_return hf
    | cons act acts =>
      cases act with
      | decUsbK h =>
        cases hrun
        exact steps_decUsbK hs.balanced hp hf
      | copySelected h i =>
        cases hrun
        exact steps_select rfl rfl hf
      | select i nextIndex =>
        cases hrun
        exact steps_select rfl rfl hf
  | cleanupUsbK h device acts out =>
    cases device with
    | none =>
      cases hrun
      exact .same (fun _ => rfl) rfl rfl rfl hf
    | some d =>
      cases hrun
      exact steps_decDevK hs.balanced hp hf
  | cleanupDevK d h acts out =>
    cases hrun
    exact steps_cleanupDevK hs.balanced hp hf
  | releaseDevK d h acts out =>
    cases hrun
    exact steps_releaseDevK hs.balanced hp hf
  | releaseUsbK h acts out =>
    cases hrun
    exact steps_releaseUsbK hs.balanced hp hf

end OpenHandles

end LibusbK
