import LibusbK.Dll.OpenHandles

/-!
# The ledger of USB and device handles

A reference on a USB handle is a token of the application or of a thread, a reference on a
device one of a USB handle or of a thread, and a resource one of a device until it is
released.  A step moves tokens, and the counts follow.

## Main definitions

* `OpenHandles.Balanced` — the counts are those of the tokens.
* `Moves` — a step moves tokens.

## Main results

* `Balanced.next` — a step that moves tokens keeps the ledger balanced.
* `Balanced.alone` — with a count of one, nobody else has a token.
-/

namespace LibusbK

open Tokens

/-! ### Tokens -/

section

variable {η δ : Type}

/-- The references on devices that a call holds. -/
def UsbPc.devRefs : UsbPc η δ → List δ
  | setDevice _ d _ => [d]
  | cleanupUsbK _ device _ _ => device.toList
  | _ => []

/-- The handle whose clean-up the thread is in. -/
def UsbPc.ends : UsbPc η δ → List η
  | cleanupUsbK h _ _ _ | cleanupDevK _ h _ _ | releaseDevK _ h _ _ | releaseUsbK h _ _ => [h]
  | _ => []

/-- The device whose clean-up the thread is in. -/
def UsbPc.devEnds : UsbPc η δ → List δ
  | cleanupDevK d _ _ _ | releaseDevK d _ _ _ => [d]
  | _ => []

end

namespace KObjBase

@[simp] theorem ref_free : free.ref = 0 := rfl
@[simp] theorem ref_counted (others : ℕ) : (counted others).ref = others + 1 := rfl
@[simp] theorem ref_disposing (t : ℕ) : (disposing t).ref = 0 := rfl
@[simp] theorem ending_free : free.ending = 0 := rfl
@[simp] theorem ending_counted (others : ℕ) : (counted others).ending = 0 := rfl
@[simp] theorem ending_disposing (t : ℕ) : (disposing t).ending = 1 := rfl

theorem ref_pos_iff {base : KObjBase} : 0 < base.ref ↔ ∃ others, base = counted others := by
  cases base with
  | free => simp
  | counted others => simp
  | disposing t => simp

theorem ending_eq_zero_of_ref_pos {base : KObjBase} (h : 0 < base.ref) : base.ending = 0 := by
  obtain ⟨others, rfl⟩ := ref_pos_iff.mp h
  rfl

theorem inc_eq_some_of_ref_pos {base base' : KObjBase} {t : ℕ} (h : base.inc t = some base')
    (hpos : 0 < base.ref) : ∃ others, base = counted others ∧ base' = counted (others + 1) := by
  obtain ⟨others, rfl⟩ := ref_pos_iff.mp hpos
  simp only [inc, Option.ite_none_right_eq_some, Option.some.injEq] at h
  exact ⟨others, rfl, h.2.symm⟩

end KObjBase

@[simp] theorem DevKObject.resources_cleanup (x : DevKObject) : x.cleanup.resources = [] := rfl

@[simp] theorem DevKObject.resources_base (x : DevKObject) (base : KObjBase) :
    ({ x with base } : DevKObject).resources = x.resources := rfl

@[simp] theorem CloneCall.flatMap_refs_failed {η : Type} (c : CloneCall η) :
    c.failed.flatMap UsbTail.refs = c.refs := rfl

theorem CloneCall.flatMap_refs_made {η : Type} (c : CloneCall η) (i : η) :
    (c.made i).flatMap UsbTail.refs = c.refs := by
  obtain ⟨h, nextIndex⟩ := c
  cases nextIndex <;> rfl

theorem UsbKObject.devRef_of_pos {δ : Type} {x : UsbKObject δ} (hpos : 0 < x.base.ref) :
    x.devRef = x.device.toList := by
  obtain ⟨others, hbase⟩ := KObjBase.ref_pos_iff.mp hpos
  rw [UsbKObject.devRef, hbase]

/-! ### Writes -/

namespace OpenHandles

variable {η δ : Type} {n : ℕ} (s : OpenHandles η δ n)

@[simp] theorem usb_setUsb [DecidableEq η] (i : η) (x : UsbKObject δ) (h : η) :
    (s.setUsb i x).usb h = if h = i then x else s.usb h :=
  Function.update_apply ..

@[simp] theorem dev_setDev [DecidableEq δ] (d : δ) (x : DevKObject) (e : δ) :
    (s.setDev d x).dev e = if e = d then x else s.dev e :=
  Function.update_apply ..

/-- What a write of a USB handle does to the tokens of the devices. -/
theorem total_devRef_setUsb [Fintype η] [DecidableEq η] [DecidableEq δ] (i : η)
    (x : UsbKObject δ) (d : δ) :
    total UsbKObject.devRef (s.setUsb i x).usb d + (s.usb i).devRef.count d =
      total UsbKObject.devRef s.usb d + x.devRef.count d :=
  total_update ..

/-- What a write of a device does to its resources. -/
theorem total_resources_setDev [Fintype δ] [DecidableEq δ] (d : δ) (x : DevKObject) (r : ℕ) :
    total DevKObject.resources (s.setDev d x).dev r + (s.dev d).resources.count r =
      total DevKObject.resources s.dev r + x.resources.count r :=
  total_update ..

end OpenHandles

/-! ### Balance -/

namespace OpenHandles

variable {η δ : Type} {n : ℕ} [Fintype η] [DecidableEq η] [Fintype δ] [DecidableEq δ]

/-- The references on a USB handle that somebody holds, or that have been lost. -/
def usbTokens (s : OpenHandles η δ n) (h : η) : ℕ :=
  s.owned.count h + s.lost.count h + total UsbPc.refs s.threads h

/-- The references on a device that somebody holds. -/
def devTokens (s : OpenHandles η δ n) (d : δ) : ℕ :=
  total UsbKObject.devRef s.usb d + total UsbPc.devRefs s.threads d

/-- **The counts are those of the tokens**, and a resource is released or some device has it. -/
structure Balanced (s : OpenHandles η δ n) : Prop where
  usbRef : ∀ h, (s.usb h).base.ref = s.usbTokens h
  usbEnd : ∀ h, (s.usb h).base.ending = total UsbPc.ends s.threads h
  devRef : ∀ d, (s.dev d).base.ref = s.devTokens d
  devEnd : ∀ d, (s.dev d).base.ending = total UsbPc.devEnds s.threads d
  resources : ∀ r, s.released.count r + total DevKObject.resources s.dev r =
    if r < s.allocated then 1 else 0

/-- A step from `s` to `s'`, with which a thread moves on from `p` to `q`, moves tokens. -/
structure Moves (s s' : OpenHandles η δ n) (p q : UsbPc η δ) : Prop where
  threads : s'.threads = s.threads
  usbRef : ∀ h, (s'.usb h).base.ref + (s.owned.count h + s.lost.count h + p.refs.count h) =
    (s.usb h).base.ref + (s'.owned.count h + s'.lost.count h + q.refs.count h)
  usbEnd : ∀ h, (s'.usb h).base.ending + p.ends.count h = (s.usb h).base.ending + q.ends.count h
  devRef : ∀ d, (s'.dev d).base.ref + (total UsbKObject.devRef s.usb d + p.devRefs.count d) =
    (s.dev d).base.ref + (total UsbKObject.devRef s'.usb d + q.devRefs.count d)
  devEnd : ∀ d, (s'.dev d).base.ending + p.devEnds.count d =
    (s.dev d).base.ending + q.devEnds.count d
  resources : ∀ r, s'.released.count r + total DevKObject.resources s'.dev r +
      (if r < s.allocated then 1 else 0) =
    s.released.count r + total DevKObject.resources s.dev r +
      (if r < s'.allocated then 1 else 0)

variable {s s' : OpenHandles η δ n} {t t' : Fin n} {p q : UsbPc η δ} {h : η} {d : δ}

/-- **A step that moves tokens keeps the ledger balanced.** -/
theorem Balanced.next (hs : s.Balanced) (hp : s.threads t = p) (hm : Moves s s' p q) :
    ({ s' with threads := Function.update s'.threads t q } : OpenHandles η δ n).Balanced := by
  subst hp
  constructor
  · intro h
    have htotal := total_update UsbPc.refs s.threads t q h
    have hmove := hm.usbRef h
    have hbefore := hs.usbRef h
    unfold usbTokens at hbefore ⊢
    dsimp only
    rw [hm.threads]
    omega
  · intro h
    have htotal := total_update UsbPc.ends s.threads t q h
    have hmove := hm.usbEnd h
    have hbefore := hs.usbEnd h
    dsimp only
    rw [hm.threads]
    omega
  · intro d
    have htotal := total_update UsbPc.devRefs s.threads t q d
    have hmove := hm.devRef d
    have hbefore := hs.devRef d
    unfold devTokens at hbefore ⊢
    dsimp only
    rw [hm.threads]
    omega
  · intro d
    have htotal := total_update UsbPc.devEnds s.threads t q d
    have hmove := hm.devEnd d
    have hbefore := hs.devEnd d
    dsimp only
    rw [hm.threads]
    omega
  · intro r
    have hmove := hm.resources r
    have hbefore := hs.resources r
    dsimp only
    omega

/-! ### What the tokens say -/

/-- Whoever holds a token finds the handle in use. -/
theorem Balanced.ref_pos (hs : s.Balanced) (hh : h ∈ (s.threads t).refs) :
    0 < (s.usb h).base.ref := by
  have htotal : 0 < total UsbPc.refs s.threads h := total_pos hh
  rw [hs.usbRef, usbTokens]
  omega

theorem Balanced.ref_pos_of_owned (hs : s.Balanced) (hh : h ∈ s.owned) :
    0 < (s.usb h).base.ref := by
  have hcount := List.count_pos_iff.mpr hh
  rw [hs.usbRef, usbTokens]
  omega

theorem Balanced.ending_pos (hs : s.Balanced) (hh : h ∈ (s.threads t).ends) :
    (s.usb h).base.ref = 0 := by
  have htotal : 0 < total UsbPc.ends s.threads h := total_pos hh
  rw [← hs.usbEnd] at htotal
  by_contra hne
  rw [KObjBase.ending_eq_zero_of_ref_pos (Nat.pos_of_ne_zero hne)] at htotal
  exact Nat.lt_irrefl 0 htotal

/-- The device of a handle in use is in use. -/
theorem Balanced.dev_ref_pos (hs : s.Balanced) (hpos : 0 < (s.usb h).base.ref)
    (hdevice : (s.usb h).device = some d) : 0 < (s.dev d).base.ref := by
  have htoken : d ∈ (s.usb h).devRef := by
    rw [UsbKObject.devRef_of_pos hpos, hdevice]
    exact List.mem_singleton_self d
  have htotal : 0 < total UsbKObject.devRef s.usb d := total_pos htoken
  rw [hs.devRef, devTokens]
  omega

theorem Balanced.dev_ref_pos_of_token (hs : s.Balanced) (hd : d ∈ (s.threads t).devRefs) :
    0 < (s.dev d).base.ref := by
  have htotal : 0 < total UsbPc.devRefs s.threads d := total_pos hd
  rw [hs.devRef, devTokens]
  omega

theorem Balanced.dev_ending_pos (hs : s.Balanced) (hd : d ∈ (s.threads t).devEnds) :
    (s.dev d).base.ref = 0 := by
  have htotal : 0 < total UsbPc.devEnds s.threads d := total_pos hd
  rw [← hs.devEnd] at htotal
  by_contra hne
  rw [KObjBase.ending_eq_zero_of_ref_pos (Nat.pos_of_ne_zero hne)] at htotal
  exact Nat.lt_irrefl 0 htotal

/-- Where the count is one, a thread that holds it is the only one. -/
theorem Balanced.alone (hs : s.Balanced) (hone : (s.usb h).base.ref = 1)
    (hh : h ∈ (s.threads t).refs) (hne : t' ≠ t) : h ∉ (s.threads t').refs ∧ h ∉ s.owned := by
  have hcount := List.count_pos_iff.mpr hh
  have htwo := count_add_count_le_total UsbPc.refs s.threads hne h
  have htotal := count_le_total UsbPc.refs s.threads t h
  rw [hs.usbRef, usbTokens] at hone
  constructor
  · intro hother
    have := List.count_pos_iff.mpr hother
    omega
  · intro hother
    have := List.count_pos_iff.mpr hother
    omega

/-- Where the count of a device is one, the handle that holds it is the only one. -/
theorem Balanced.dev_alone (hs : s.Balanced) (hone : (s.dev d).base.ref = 1)
    (hpos : 0 < (s.usb h).base.ref) (hdevice : (s.usb h).device = some d) :
    (∀ i, i ≠ h → 0 < (s.usb i).base.ref → (s.usb i).device ≠ some d) ∧
      ∀ t, d ∉ (s.threads t).devRefs := by
  have htoken : ∀ i, 0 < (s.usb i).base.ref → (s.usb i).device = some d →
      0 < (s.usb i).devRef.count d := by
    intro i hi hd
    rw [UsbKObject.devRef_of_pos hi, hd]
    simp
  have hmine := htoken h hpos hdevice
  have htotal := count_le_total UsbKObject.devRef s.usb h d
  rw [hs.devRef, devTokens] at hone
  constructor
  · intro i hih hi hd
    have hother := htoken i hi hd
    have htwo := count_add_count_le_total UsbKObject.devRef s.usb hih d
    omega
  · intro t hd
    have hother : 0 < total UsbPc.devRefs s.threads d := total_pos hd
    omega

/-! ### Steps that move tokens -/

/-- Nothing changes but where the thread is. -/
theorem Moves.same (hrefs : ∀ h, q.refs.count h = p.refs.count h) (hends : q.ends = p.ends)
    (hdevRefs : q.devRefs = p.devRefs) (hdevEnds : q.devEnds = p.devEnds) : Moves s s p q := by
  refine ⟨rfl, fun h => ?_, fun h => ?_, fun d => ?_, fun d => ?_, fun r => rfl⟩
  · rw [hrefs]
  · rw [hends]
  · rw [hdevRefs]
  · rw [hdevEnds]

/-- A USB handle is written, and the tokens move with its count. -/
theorem Moves.setUsb {i : η} {x : UsbKObject δ}
    (href : ∀ h, (if h = i then x.base.ref else 0) + p.refs.count h =
      (if h = i then (s.usb i).base.ref else 0) + q.refs.count h)
    (hend : ∀ h, (if h = i then x.base.ending else 0) + p.ends.count h =
      (if h = i then (s.usb i).base.ending else 0) + q.ends.count h)
    (hdevRef : ∀ d, (s.usb i).devRef.count d + p.devRefs.count d =
      x.devRef.count d + q.devRefs.count d)
    (hdevEnds : q.devEnds = p.devEnds) : Moves s (s.setUsb i x) p q := by
  refine ⟨rfl, fun h => ?_, fun h => ?_, fun d => ?_, fun d => ?_, fun r => rfl⟩
  · have hh := href h
    rw [usb_setUsb]
    change _ = _ + (s.owned.count h + s.lost.count h + _)
    split_ifs at hh ⊢ with hi
    · subst hi
      omega
    · omega
  · have hh := hend h
    rw [usb_setUsb]
    split_ifs at hh ⊢ with hi
    · subst hi
      omega
    · omega
  · have hd := hdevRef d
    have htotal := total_devRef_setUsb s i x d
    change (s.dev d).base.ref + _ = _
    omega
  · rw [hdevEnds]
    rfl

/-- A device is written, and the tokens move with its count. -/
theorem Moves.setDev {d : δ} {x : DevKObject} (hrefs : q.refs = p.refs) (hends : q.ends = p.ends)
    (href : ∀ e, (if e = d then x.base.ref else 0) + p.devRefs.count e =
      (if e = d then (s.dev d).base.ref else 0) + q.devRefs.count e)
    (hend : ∀ e, (if e = d then x.base.ending else 0) + p.devEnds.count e =
      (if e = d then (s.dev d).base.ending else 0) + q.devEnds.count e)
    (hresources : x.resources = (s.dev d).resources) : Moves s (s.setDev d x) p q := by
  refine ⟨rfl, fun h => ?_, fun h => ?_, fun e => ?_, fun e => ?_, fun r => ?_⟩
  · rw [hrefs]
    rfl
  · rw [hends]
    rfl
  · have he := href e
    rw [dev_setDev]
    change _ + (total UsbKObject.devRef s.usb e + _) = _ + (total UsbKObject.devRef s.usb e + _)
    split_ifs at he ⊢ with hd
    · subst hd
      omega
    · omega
  · have he := hend e
    rw [dev_setDev]
    split_ifs at he ⊢ with hd
    · subst hd
      omega
    · omega
  · have htotal := total_resources_setDev s d x r
    rw [hresources] at htotal
    change s.released.count r + _ + (if r < s.allocated then 1 else 0) = _
    change _ = _ + (if r < s.allocated then 1 else 0)
    omega

end OpenHandles

end LibusbK
