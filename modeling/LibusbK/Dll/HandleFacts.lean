import LibusbK.Dll.HandleLedger

/-!
# What calls know of the handles

A call knows the device of the handle it was given, and the handle and the device it is
making, which no other call can reach yet.  The steps of other threads leave all this as it
is, since they write only what they hold a token of.

## Main definitions

* `OpenHandles.Fact` — what a call knows where it is.
* `Guarantee` — what a step of a thread leaves as it is.

## Main result

* `Fact.stable` — what a call knows stays true under the steps of other threads.
-/

namespace LibusbK

open Tokens

theorem DevKObject.IsReady.base {x : DevKObject} (base : KObjBase) (h : x.IsReady) :
    ({ x with base } : DevKObject).IsReady := ⟨h.usbStack, h.configDescriptor, h.backendCtx⟩

theorem CloneCall.target_of_mem_made {η : Type} (c : CloneCall η) (i : η) :
    ∀ act ∈ c.made i, ∀ j, act.target = some j → j ∈ some i := by
  obtain ⟨h, nextIndex⟩ := c
  cases nextIndex <;> simp [made, UsbTail.target]

theorem CloneCall.target_of_mem_failed {η : Type} (c : CloneCall η) :
    ∀ act ∈ c.failed, act.target = none := by
  obtain ⟨h, nextIndex⟩ := c
  cases nextIndex <;> simp [failed, UsbTail.target]

namespace OpenHandles

section

variable {η δ : Type} {n : ℕ} (s : OpenHandles η δ n)

/-- The handle has the device `d`, and it is ready. -/
def HasDeviceOn (h : η) (d : δ) : Prop := (s.usb h).device = some d ∧ (s.dev d).IsReady

/-- The handle has a device that is ready. -/
def HasDevice (h : η) : Prop := ∃ d, s.HasDeviceOn h d

/-- The handle `i` has just been acquired; `device` is its device. -/
def IsNew (i : η) (device : Option δ) : Prop := s.usb i = { base := .counted 0, device }

/-- The handle `i` and the device `d` have just been acquired, and `x` has been built. -/
def Builds (i : η) (d : δ) (x : DevKObject) : Prop :=
  s.IsNew i (some d) ∧ s.dev d = { x with base := .counted 0 }

/-- A call that returns `out` writes no other handle before. -/
structure Returns (acts : List (UsbTail η)) (out : Option η) : Prop where
  target : ∀ act ∈ acts, ∀ i, act.target = some i → i ∈ out
  hasDevice : ∀ i ∈ out, s.HasDevice i

/-- What a call knows. -/
def Fact : UsbPc η δ → Prop
  | .idle | .acquireUsbK _ => True
  | .inCall h | .findInterface h _ | .cloneInc h _ => s.HasDevice h
  | .cloneDevice c => s.HasDevice c.handle
  | .acquireClone c d => s.HasDeviceOn c.handle d
  | .incDevK c d i | .setDevice c d i => s.HasDeviceOn c.handle d ∧ s.IsNew i none
  | .acquireDevK _ i => s.IsNew i none
  | .initBackend _ i d => s.Builds i d {}
  | .createFile i d => ∃ ctx, s.Builds i d { backendCtx := some ctx }
  | .extraMem i d => ∃ ctx masterDeviceHandle devicePath,
      s.Builds i d { backendCtx := some ctx, masterDeviceHandle, devicePath }
  | .initConfig i d => ∃ ctx masterDeviceHandle devicePath mem,
      s.Builds i d
        { backendCtx := some ctx, masterDeviceHandle, devicePath, usbStack := some mem }
  | .finish acts out | .cleanupUsbK _ _ acts out | .cleanupDevK _ _ acts out
  | .releaseUsbK _ acts out => s.Returns acts out
  | .releaseDevK d _ acts out => (s.dev d).resources = [] ∧ s.Returns acts out

end

/-! ### What a step leaves as it is -/

section

variable {η δ : Type} {n : ℕ} {s s' : OpenHandles η δ n} {p : UsbPc η δ} {h i : η} {d : δ}

/-- What a thread at `p` leaves as it is: a handle that is in use and that it has no token of,
and the device of a handle where it cannot give up the device's last reference. -/
structure Guarantee (s s' : OpenHandles η δ n) (p : UsbPc η δ) : Prop where
  usb : ∀ h, s'.usb h = s.usb h ∨ (s.usb h).base = .free ∨ h ∈ p.ends ∨
    (h ∈ p.refs ∨ h ∈ s.owned) ∧
      ((s'.usb h).device = (s.usb h).device ∨ (s.usb h).base.ref = 1 ∧ h ∈ p.refs)
  dev : ∀ d, s'.dev d = s.dev d ∨ (s.dev d).base = .free ∨ d ∈ p.devEnds ∨
    (d ∈ p.devRefs ∨ ∃ h ∈ p.refs, (s.usb h).device = some d) ∧
      ((s.dev d).IsReady → (s'.dev d).IsReady)
  free : ∀ d, (s'.dev d).base = .free → s'.dev d = s.dev d ∨ (s'.dev d).resources = []

theorem Guarantee.refl (s : OpenHandles η δ n) (p : UsbPc η δ) : Guarantee s s p :=
  ⟨fun _ => .inl rfl, fun _ => .inl rfl, fun _ _ => .inl rfl⟩

theorem Guarantee.setUsb [DecidableEq η] {x : UsbKObject δ}
    (hi : (s.usb i).base = .free ∨ i ∈ p.ends ∨ (i ∈ p.refs ∨ i ∈ s.owned) ∧
      (x.device = (s.usb i).device ∨ (s.usb i).base.ref = 1 ∧ i ∈ p.refs)) :
    Guarantee s (s.setUsb i x) p := by
  refine ⟨fun h => ?_, fun _ => .inl rfl, fun _ _ => .inl rfl⟩
  rw [usb_setUsb]
  split_ifs with hh
  · subst hh
    exact .inr hi
  · exact .inl rfl

theorem Guarantee.setDev [DecidableEq δ] {x : DevKObject}
    (hd : (s.dev d).base = .free ∨ d ∈ p.devEnds ∨
      (d ∈ p.devRefs ∨ ∃ h ∈ p.refs, (s.usb h).device = some d) ∧
        ((s.dev d).IsReady → x.IsReady))
    (hfree : x.base = .free → x.resources = []) : Guarantee s (s.setDev d x) p := by
  refine ⟨fun _ => .inl rfl, fun e => ?_, fun e he => ?_⟩
  · rw [dev_setDev]
    split_ifs with hed
    · subst hed
      exact .inr hd
    · exact .inl rfl
  · rw [dev_setDev] at he ⊢
    split_ifs at he ⊢ with hed
    · exact .inr (hfree he)
    · exact .inl rfl

/-- A handle keeps its device when the device stays, and nothing but the rest of the handle is
written. -/
theorem HasDevice.setUsb [DecidableEq η] {x : UsbKObject δ} (hx : x.device = (s.usb i).device)
    (hd : s.HasDevice h) : (s.setUsb i x).HasDevice h := by
  obtain ⟨d, hdevice, hready⟩ := hd
  refine ⟨d, ?_, hready⟩
  rw [usb_setUsb]
  split_ifs with hhi
  · rw [hx, ← hhi, hdevice]
  · exact hdevice

theorem HasDevice.setDev [DecidableEq δ] {x : DevKObject} (hx : (s.dev d).IsReady → x.IsReady)
    (hd : s.HasDevice h) : (s.setDev d x).HasDevice h := by
  obtain ⟨e, hdevice, hready⟩ := hd
  refine ⟨e, hdevice, ?_⟩
  rw [dev_setDev]
  split_ifs with hed
  · subst hed
    exact hx hready
  · exact hready

theorem Fact.withThreads {threads : Fin n → UsbPc η δ} (hf : s.Fact p) :
    ({ s with threads } : OpenHandles η δ n).Fact p := by
  cases p <;> first | exact hf | exact ⟨hf.target, hf.hasDevice⟩ |
    exact ⟨hf.1, hf.2.target, hf.2.hasDevice⟩

/-- A call has a reference on the handle through which it reads. -/
theorem Fact.hasDevice_of_reads (hf : s.Fact p) (hh : p.reads = some h) :
    s.HasDevice h ∧ h ∈ p.refs := by
  cases p with
  | inCall k | findInterface k a | cloneInc k nextIndex =>
    cases hh
    exact ⟨hf, List.mem_singleton_self h⟩
  | cloneDevice c =>
    cases hh
    exact ⟨hf, List.mem_cons_self⟩
  | acquireClone c d =>
    cases hh
    exact ⟨⟨d, hf⟩, List.mem_cons_self⟩
  | incDevK c d i | setDevice c d i =>
    cases hh
    exact ⟨⟨d, hf.1⟩, List.mem_cons_of_mem i List.mem_cons_self⟩
  | _ => cases hh

/-- A device that is built is written. -/
theorem Builds.allocate [DecidableEq δ] {x y z : DevKObject} {k : ℕ} (hb : s.Builds i d x)
    (hz : z = { y with base := .counted 0 }) : (s.allocate d k z).Builds i d y := by
  refine ⟨hb.1, ?_⟩
  change (s.setDev d z).dev d = _
  rw [dev_setDev, if_pos rfl, hz]

/-- A call that returns no handle writes none. -/
theorem Returns.none {acts : List (UsbTail η)} (h : ∀ act ∈ acts, act.target = Option.none) :
    s.Returns acts Option.none :=
  ⟨fun act hact i hi => (Option.some_ne_none i (hi.symm.trans (h act hact))).elim, nofun⟩

/-- What a call that is about to return knows stays true where its handle keeps its device. -/
theorem Returns.setUsb [DecidableEq η] {act : UsbTail η} {acts : List (UsbTail η)} {out : Option η}
    {x : UsbKObject δ} (hx : x.device = (s.usb i).device) (hr : s.Returns (act :: acts) out) :
    (s.setUsb i x).Returns acts out :=
  ⟨fun _ h => hr.target _ (List.mem_cons_of_mem act h), fun i hi => (hr.hasDevice i hi).setUsb hx⟩

theorem Returns.setUsbBase [DecidableEq η] {acts : List (UsbTail η)} {out : Option η}
    (base : KObjBase) (hr : s.Returns acts out) : (s.setUsbBase i base).Returns acts out :=
  ⟨hr.target, fun i hi => (hr.hasDevice i hi).setUsb rfl⟩

theorem Returns.setDevBase [DecidableEq δ] {acts : List (UsbTail η)} {out : Option η}
    (base : KObjBase) (hr : s.Returns acts out) : (s.setDevBase d base).Returns acts out :=
  ⟨hr.target, fun i hi => (hr.hasDevice i hi).setDev fun hready => hready.base base⟩

end

variable {η δ : Type} {n : ℕ} [Fintype η] [DecidableEq η] [Fintype δ] [DecidableEq δ]
  {s s' : OpenHandles η δ n} {t t' : Fin n} {p q : UsbPc η δ} {h i : η} {d : δ}

/-- Somebody besides thread `t` has a reference on the handle. -/
def Elsewhere (s : OpenHandles η δ n) (t : Fin n) (h : η) : Prop :=
  h ∈ s.owned ∨ ∃ t', t' ≠ t ∧ h ∈ (s.threads t').refs

theorem Elsewhere.ref_pos (hs : s.Balanced) (he : s.Elsewhere t h) : 0 < (s.usb h).base.ref := by
  rcases he with hh | ⟨t', -, hh⟩
  · exact hs.ref_pos_of_owned hh
  · exact hs.ref_pos hh

theorem Elsewhere.ref_ne_one (hs : s.Balanced) (he : s.Elsewhere t h)
    (hh : h ∈ (s.threads t).refs) : (s.usb h).base.ref ≠ 1 := by
  intro hone
  rcases he with ho | ⟨t', hne, ho⟩
  · have hcount := List.count_pos_iff.mpr ho
    have htotal : 0 < total UsbPc.refs s.threads h := total_pos hh
    rw [hs.usbRef, usbTokens] at hone
    omega
  · exact (hs.alone hone hh hne).1 ho

theorem not_mem_ends (hs : s.Balanced) (hpos : 0 < (s.usb h).base.ref) :
    h ∉ (s.threads t).ends := fun hh => by
  rw [hs.ending_pos hh] at hpos
  exact Nat.lt_irrefl 0 hpos

theorem not_mem_devEnds (hs : s.Balanced) (hpos : 0 < (s.dev d).base.ref) :
    d ∉ (s.threads t).devEnds := fun hd => by
  rw [hs.dev_ending_pos hd] at hpos
  exact Nat.lt_irrefl 0 hpos

theorem ne_free_of_ref_pos {base : KObjBase} (hpos : 0 < base.ref) : base ≠ .free := by
  rintro rfl
  exact Nat.lt_irrefl 0 hpos

/-! ### Steps of other threads -/

/-- The device of a handle stays while somebody else has a reference on the handle. -/
theorem HasDeviceOn.stable (hs : s.Balanced) (hp : s.threads t = p) (hg : Guarantee s s' p)
    (he : s.Elsewhere t h) (hd : s.HasDeviceOn h d) : s'.HasDeviceOn h d := by
  subst hp
  have hpos := he.ref_pos hs
  have hdpos := hs.dev_ref_pos hpos hd.1
  constructor
  · rcases hg.usb h with hsame | hfree | hend | ⟨-, hsame | ⟨hone, hmine⟩⟩
    · rw [hsame, hd.1]
    · exact absurd hfree (ne_free_of_ref_pos hpos)
    · exact absurd hend (not_mem_ends hs hpos)
    · rw [hsame, hd.1]
    · exact absurd hone (he.ref_ne_one hs hmine)
  · rcases hg.dev d with hsame | hfree | hend | ⟨-, hready⟩
    · rw [hsame]
      exact hd.2
    · exact absurd hfree (ne_free_of_ref_pos hdpos)
    · exact absurd hend (not_mem_devEnds hs hdpos)
    · exact hready hd.2

theorem HasDevice.stable (hs : s.Balanced) (hp : s.threads t = p) (hg : Guarantee s s' p)
    (he : s.Elsewhere t h) (hd : s.HasDevice h) : s'.HasDevice h :=
  hd.imp fun _ hd => hd.stable hs hp hg he

/-- A new handle is out of reach of the other threads. -/
theorem IsNew.stable {device : Option δ} (hs : s.Balanced) (hp : s.threads t = p)
    (hg : Guarantee s s' p) (hne : t' ≠ t) (hi : i ∈ (s.threads t').refs)
    (hnew : s.IsNew i device) : s'.IsNew i device := by
  subst hp
  have hone : (s.usb i).base.ref = 1 := by rw [hnew]; rfl
  have halone := hs.alone hone hi hne.symm
  rcases hg.usb i with hsame | hfree | hend | ⟨hmine | howned, -⟩
  · rw [IsNew, hsame, hnew]
  · exact absurd hfree (ne_free_of_ref_pos (by omega))
  · exact absurd hend (not_mem_ends hs (by omega))
  · exact absurd hmine halone.1
  · exact absurd howned halone.2

/-- So is the device that is built for it. -/
theorem Builds.stable {x : DevKObject} (hs : s.Balanced) (hp : s.threads t = p)
    (hg : Guarantee s s' p) (hne : t' ≠ t) (hi : i ∈ (s.threads t').refs)
    (hb : s.Builds i d x) : s'.Builds i d x := by
  refine ⟨hb.1.stable hs hp hg hne hi, ?_⟩
  subst hp
  have hone : (s.usb i).base.ref = 1 := by rw [hb.1]; rfl
  have hdone : (s.dev d).base.ref = 1 := by rw [hb.2]; rfl
  have hdevice : (s.usb i).device = some d := by rw [hb.1]
  have halone := hs.dev_alone hdone (by omega) hdevice
  rcases hg.dev d with hsame | hfree | hend | ⟨htoken | ⟨h, hh, hd⟩, -⟩
  · rw [hsame, hb.2]
  · exact absurd hfree (ne_free_of_ref_pos (by omega))
  · exact absurd hend (not_mem_devEnds hs (by omega))
  · exact absurd htoken (halone.2 t)
  · by_cases hih : h = i
    · subst hih
      exact absurd hh (hs.alone hone hi hne.symm).1
    · exact absurd hd (halone.1 h hih (hs.ref_pos hh))

/-- A device in its clean-up is left to it. -/
theorem resources_stable (hs : s.Balanced) (hp : s.threads t = p) (hg : Guarantee s s' p)
    (hne : t' ≠ t) (hd : d ∈ (s.threads t').devEnds) (hnone : (s.dev d).resources = []) :
    (s'.dev d).resources = [] := by
  subst hp
  have hzero := hs.dev_ending_pos hd
  have hcount := List.count_pos_iff.mpr hd
  have hending : (s.dev d).base.ending = total UsbPc.devEnds s.threads d := hs.devEnd d
  have htotal := count_le_total UsbPc.devEnds s.threads t' d
  rcases hg.dev d with hsame | hfree | hend | ⟨htoken | ⟨h, hh, hdevice⟩, -⟩
  · rw [hsame, hnone]
  · rw [hfree, KObjBase.ending_free] at hending
    omega
  · have htwo := count_add_count_le_total UsbPc.devEnds s.threads hne d
    have hother := List.count_pos_iff.mpr hend
    have hle : (s.dev d).base.ending ≤ 1 := by cases (s.dev d).base <;> simp
    omega
  · have := hs.dev_ref_pos_of_token htoken
    omega
  · have := hs.dev_ref_pos (hs.ref_pos hh) hdevice
    omega

/-- **What a call knows stays true** under the steps of other threads. -/
theorem Fact.stable (hs : s.Balanced) (hp : s.threads t = p) (hg : Guarantee s s' p)
    (hne : t' ≠ t) (hf : s.Fact (s.threads t')) : s'.Fact (s.threads t') := by
  have hdevice : ∀ {h}, h ∈ (s.threads t').refs → s.HasDevice h → s'.HasDevice h :=
    fun hh hd => hd.stable hs hp hg (.inr ⟨t', hne, hh⟩)
  have hdeviceOn : ∀ {h d}, h ∈ (s.threads t').refs → s.HasDeviceOn h d → s'.HasDeviceOn h d :=
    fun hh hd => hd.stable hs hp hg (.inr ⟨t', hne, hh⟩)
  have hnew : ∀ {i device}, i ∈ (s.threads t').refs → s.IsNew i device → s'.IsNew i device :=
    fun hi h => h.stable hs hp hg hne hi
  have hbuilds : ∀ {i d x}, i ∈ (s.threads t').refs → s.Builds i d x → s'.Builds i d x :=
    fun hi h => h.stable hs hp hg hne hi
  have hends : ∀ {d}, d ∈ (s.threads t').devEnds → (s.dev d).resources = [] →
      (s'.dev d).resources = [] := fun hd h => resources_stable hs hp hg hne hd h
  have hhandle (c : CloneCall η) : c.handle ∈ c.refs := List.mem_cons_self
  cases hpc : s.threads t' with
  | idle => trivial
  | acquireUsbK given => trivial
  | inCall h =>
    rw [hpc] at hf hdevice
    exact hdevice (List.mem_singleton_self h) hf
  | findInterface h a =>
    rw [hpc] at hf hdevice
    exact hdevice (List.mem_singleton_self h) hf
  | cloneInc h nextIndex =>
    rw [hpc] at hf hdevice
    exact hdevice (List.mem_singleton_self h) hf
  | cloneDevice c =>
    rw [hpc] at hf hdevice
    exact hdevice (hhandle c) hf
  | acquireClone c d =>
    rw [hpc] at hf hdeviceOn
    exact hdeviceOn (hhandle c) hf
  | incDevK c d i =>
    rw [hpc] at hf hdeviceOn hnew
    exact ⟨hdeviceOn (List.mem_cons_of_mem i (hhandle c)) hf.1, hnew List.mem_cons_self hf.2⟩
  | setDevice c d i =>
    rw [hpc] at hf hdeviceOn hnew
    exact ⟨hdeviceOn (List.mem_cons_of_mem i (hhandle c)) hf.1, hnew List.mem_cons_self hf.2⟩
  | acquireDevK given i =>
    rw [hpc] at hf hnew
    exact hnew (List.mem_singleton_self i) hf
  | initBackend given i d =>
    rw [hpc] at hf hbuilds
    exact hbuilds (List.mem_singleton_self i) hf
  | createFile i d =>
    rw [hpc] at hf hbuilds
    exact hf.imp fun _ hf => hbuilds (List.mem_singleton_self i) hf
  | extraMem i d =>
    rw [hpc] at hf hbuilds
    obtain ⟨ctx, file, path, hf⟩ := hf
    exact ⟨ctx, file, path, hbuilds (List.mem_singleton_self i) hf⟩
  | initConfig i d =>
    rw [hpc] at hf hbuilds
    obtain ⟨ctx, file, path, mem, hf⟩ := hf
    exact ⟨ctx, file, path, mem, hbuilds (List.mem_singleton_self i) hf⟩
  | finish acts out =>
    rw [hpc] at hf hdevice
    exact ⟨hf.target, fun i hi =>
      hdevice (List.mem_append_right _ (Option.mem_toList.mpr hi)) (hf.hasDevice i hi)⟩
  | cleanupUsbK h device acts out =>
    rw [hpc] at hf hdevice
    exact ⟨hf.target, fun i hi =>
      hdevice (List.mem_append_right _ (Option.mem_toList.mpr hi)) (hf.hasDevice i hi)⟩
  | cleanupDevK d h acts out =>
    rw [hpc] at hf hdevice
    exact ⟨hf.target, fun i hi =>
      hdevice (List.mem_append_right _ (Option.mem_toList.mpr hi)) (hf.hasDevice i hi)⟩
  | releaseDevK d h acts out =>
    rw [hpc] at hf hdevice hends
    exact ⟨hends (List.mem_singleton_self d) hf.1, hf.2.target, fun i hi =>
      hdevice (List.mem_append_right _ (Option.mem_toList.mpr hi)) (hf.2.hasDevice i hi)⟩
  | releaseUsbK h acts out =>
    rw [hpc] at hf hdevice
    exact ⟨hf.target, fun i hi =>
      hdevice (List.mem_append_right _ (Option.mem_toList.mpr hi)) (hf.hasDevice i hi)⟩

end OpenHandles

end LibusbK
