import LibusbK.Dll.Descriptors
import Mathlib.Tactic.SplitIfs

/-!
# Finding and adding elements of the stack

What a search for an interface, alternate setting or pipe element finds after each
of the writes `u_Add_Interface` and `u_Add_Pipe` make.

## Main results

* `UsbStack.altInterfaceAt_updateAlt`, `UsbStack.pipeAt_updateAlt` — a write through
  the pointer to an alternate setting element.
* `DevHandle.obtainInterfaceEL_cases`, `DevHandle.obtainAltInterfaceEL_cases`,
  `DevHandle.obtainPipeEL_cases` — find or append.
* `KeptByWrites.walker`, `KeptByParser.walker` — what holds of a device all along the parser.
-/

namespace LibusbK

variable {stack : UsbStack} {device device' : DevHandle} {memAlloc : Bool}
  {number alternate address : UInt8} {descriptor : ℕ}

@[simp] theorem InterfaceEL.id_updateAlt (el : InterfaceEL) (alternate : UInt8)
    (f : AltInterfaceEL → AltInterfaceEL) : (el.updateAlt alternate f).id = el.id := rfl

@[simp] theorem InterfaceEL.id_appendAltInterfaceEL (el : InterfaceEL) (alternate : UInt8)
    (descriptor : ℕ) : (el.appendAltInterfaceEL alternate descriptor).id = el.id := rfl

@[simp] theorem AltInterfaceEL.id_setCompanion (el : AltInterfaceEL) (address : UInt8)
    (companion : ℕ) : (el.setCompanion address companion).id = el.id := rfl

@[simp] theorem AltInterfaceEL.id_appendPipeEL (el : AltInterfaceEL) (address : UInt8)
    (descriptor : ℕ) : (el.appendPipeEL address descriptor).id = el.id := rfl

/-! ### Searches after a write -/

theorem UsbStack.findInterfaceEL_updateInterface {f : InterfaceEL → InterfaceEL}
    (hf : ∀ el, (f el).id = el.id) :
    (stack.updateInterface number f).findInterfaceEL false number =
      (stack.findInterfaceEL false number).map f :=
  Keyed.find_update hf

theorem UsbStack.altInterfaceAt_updateInterface {f : InterfaceEL → InterfaceEL}
    (hf : ∀ el, (f el).id = el.id) :
    (stack.updateInterface number f).altInterfaceAt number alternate =
      (stack.findInterfaceEL false number).bind fun el =>
        (f el).findAltInterfaceEL false alternate := by
  rw [UsbStack.altInterfaceAt, UsbStack.findInterfaceEL_updateInterface hf]
  cases stack.findInterfaceEL false number <;> rfl

theorem UsbStack.altInterfaceAt_updateAlt {f : AltInterfaceEL → AltInterfaceEL}
    (hf : ∀ el, (f el).id = el.id) :
    (stack.updateAlt number alternate f).altInterfaceAt number alternate =
      (stack.altInterfaceAt number alternate).map f := by
  rw [UsbStack.updateAlt, UsbStack.altInterfaceAt_updateInterface fun el =>
    el.id_updateAlt alternate f, UsbStack.altInterfaceAt]
  cases stack.findInterfaceEL false number with
  | none => rfl
  | some el => exact Keyed.find_update hf

theorem UsbStack.pipeAt_updateAlt {f : AltInterfaceEL → AltInterfaceEL}
    (hf : ∀ el, (f el).id = el.id) :
    (stack.updateAlt number alternate f).pipeAt number alternate address =
      (stack.altInterfaceAt number alternate).bind fun el => (f el).findPipeEL false address := by
  rw [UsbStack.pipeAt, UsbStack.altInterfaceAt_updateAlt hf]
  cases stack.altInterfaceAt number alternate <;> rfl

theorem AltInterfaceEL.isSome_findPipeEL {el : AltInterfaceEL} :
    (el.findPipeEL false address).isSome = true ↔ address ∈ el.pipeList.map PipeEL.id :=
  Keyed.isSome_find

theorem AltInterfaceEL.isSome_findPipeEL_appendPipeEL {el : AltInterfaceEL} {x : UInt8} :
    ((el.appendPipeEL address descriptor).findPipeEL false x).isSome = true ↔
      (el.findPipeEL false x).isSome = true ∨ x = address := by
  simp [AltInterfaceEL.isSome_findPipeEL, AltInterfaceEL.appendPipeEL]

theorem AltInterfaceEL.map_id_setCompanion (el : AltInterfaceEL) (address : UInt8)
    (companion : ℕ) :
    (el.setCompanion address companion).pipeList.map PipeEL.id = el.pipeList.map PipeEL.id :=
  Keyed.map_update fun _ => rfl

/-- A pipe of an alternate setting is a pipe after a companion has been attached. -/
theorem UsbStack.isSome_pipeAt_setCompanion {x : UInt8} {companion : ℕ} :
    ((stack.updateAlt number alternate fun el =>
        el.setCompanion address companion).pipeAt number alternate x).isSome =
      (stack.pipeAt number alternate x).isSome := by
  rw [UsbStack.pipeAt_updateAlt fun el => el.id_setCompanion address companion,
    UsbStack.pipeAt]
  cases stack.altInterfaceAt number alternate with
  | none => rfl
  | some el =>
    rw [Bool.eq_iff_iff]
    simp only [Option.bind_some, AltInterfaceEL.isSome_findPipeEL,
      AltInterfaceEL.map_id_setCompanion]

/-! ### Find or append -/

theorem DevHandle.obtainInterfaceEL_cases
    (h : device.obtainInterfaceEL memAlloc number = some device') :
    (device.usbStack.findInterfaceEL false number).isSome = true ∧ device' = device ∨
      device.usbStack.findInterfaceEL false number = none ∧ memAlloc = true ∧
        device' = device.appendInterfaceEL number := by
  simp only [DevHandle.obtainInterfaceEL] at h
  split_ifs at h with hs hm
  · cases h
    exact .inl ⟨hs, rfl⟩
  · cases h
    exact .inr ⟨Option.not_isSome_iff_eq_none.mp hs, hm, rfl⟩

theorem DevHandle.obtainAltInterfaceEL_cases
    (h : device.obtainAltInterfaceEL memAlloc number alternate descriptor = some device') :
    (device.usbStack.altInterfaceAt number alternate).isSome = true ∧ device' = device ∨
      device.usbStack.altInterfaceAt number alternate = none ∧ memAlloc = true ∧
        device' = { device with
          usbStack := device.usbStack.updateInterface number fun el =>
            el.appendAltInterfaceEL alternate descriptor } := by
  simp only [DevHandle.obtainAltInterfaceEL] at h
  split_ifs at h with hs hm
  · cases h
    exact .inl ⟨hs, rfl⟩
  · cases h
    exact .inr ⟨Option.not_isSome_iff_eq_none.mp hs, hm, rfl⟩

theorem DevHandle.obtainPipeEL_cases
    (h : device.obtainPipeEL memAlloc number alternate address descriptor = some device') :
    (device.usbStack.pipeAt number alternate address).isSome = true ∧ device' = device ∨
      device.usbStack.pipeAt number alternate address = none ∧ memAlloc = true ∧
        device' = { device with
          usbStack := device.usbStack.updateAlt number alternate fun el =>
            el.appendPipeEL address descriptor } := by
  simp only [DevHandle.obtainPipeEL] at h
  split_ifs at h with hs hm
  · cases h
    exact .inl ⟨hs, rfl⟩
  · cases h
    exact .inr ⟨Option.not_isSome_iff_eq_none.mp hs, hm, rfl⟩

/-- After `u_Add_Interface` has found or appended it, the interface element is there. -/
theorem DevHandle.isSome_findInterfaceEL
    (h : device.obtainInterfaceEL memAlloc number = some device') :
    (device'.usbStack.findInterfaceEL false number).isSome = true := by
  rcases DevHandle.obtainInterfaceEL_cases h with ⟨hs, rfl⟩ | ⟨-, -, rfl⟩
  · exact hs
  · refine Keyed.isSome_find.mpr ?_
    simp [DevHandle.appendInterfaceEL]

/-- Likewise the alternate setting element, of an interface that is there. -/
theorem DevHandle.isSome_altInterfaceAt
    (hi : (device.usbStack.findInterfaceEL false number).isSome = true)
    (h : device.obtainAltInterfaceEL memAlloc number alternate descriptor = some device') :
    (device'.usbStack.altInterfaceAt number alternate).isSome = true := by
  rcases DevHandle.obtainAltInterfaceEL_cases h with ⟨hs, rfl⟩ | ⟨-, -, rfl⟩
  · exact hs
  · obtain ⟨el, hel⟩ := Option.isSome_iff_exists.mp hi
    rw [UsbStack.altInterfaceAt_updateInterface fun el =>
      el.id_appendAltInterfaceEL alternate descriptor, hel]
    refine Keyed.isSome_find.mpr ?_
    simp [InterfaceEL.appendAltInterfaceEL]

/-- The pipes of an alternate setting after one was found or appended. -/
theorem DevHandle.isSome_pipeAt {x : UInt8}
    (ha : (device.usbStack.altInterfaceAt number alternate).isSome = true)
    (h : device.obtainPipeEL memAlloc number alternate address descriptor = some device') :
    (device'.usbStack.altInterfaceAt number alternate).isSome = true ∧
      ((device'.usbStack.pipeAt number alternate x).isSome = true ↔
        (device.usbStack.pipeAt number alternate x).isSome = true ∨ x = address) := by
  rcases DevHandle.obtainPipeEL_cases h with ⟨hs, rfl⟩ | ⟨-, -, rfl⟩
  · exact ⟨ha, .inl, fun hx => hx.elim id fun hx => hx ▸ hs⟩
  · obtain ⟨el, hel⟩ := Option.isSome_iff_exists.mp ha
    have hid := fun el : AltInterfaceEL => el.id_appendPipeEL address descriptor
    rw [UsbStack.altInterfaceAt_updateAlt hid, UsbStack.pipeAt_updateAlt hid,
      UsbStack.pipeAt, hel]
    exact ⟨rfl, AltInterfaceEL.isSome_findPipeEL_appendPipeEL⟩

/-! ### What holds of a device all along the parser -/

/-- A property of a device that each write of the parser keeps: an element is appended where
none has been found, or a companion is set. -/
structure KeptByWrites (P : DevHandle → Prop) : Prop where
  interfaceEL : ∀ device number, P device →
    device.usbStack.findInterfaceEL false number = none → P (device.appendInterfaceEL number)
  altInterfaceEL : ∀ device number alternate descriptor, P device →
    device.usbStack.altInterfaceAt number alternate = none →
      P { device with
        usbStack := device.usbStack.updateInterface number fun el =>
          el.appendAltInterfaceEL alternate descriptor }
  pipeEL : ∀ device number alternate address descriptor, P device →
    device.usbStack.pipeAt number alternate address = none →
      P { device with
        usbStack := device.usbStack.updateAlt number alternate fun el =>
          el.appendPipeEL address descriptor }
  companion : ∀ device number alternate address descriptor, P device →
    P { device with
      usbStack := device.usbStack.updateAlt number alternate fun el =>
        el.setCompanion address descriptor }

namespace KeptByWrites

variable {P : DevHandle → Prop} {mem : Memory} {alloc : ℕ → Allocs}

theorem uAddInterface (h : KeptByWrites P) (hP : P device) (allocs : Allocs) (desc : ℕ) :
    P (uAddInterface mem allocs desc device).device := by
  unfold LibusbK.uAddInterface
  dsimp only
  cases hobtain : device.obtainInterfaceEL allocs.interfaceEL (mem (desc + 2)) with
  | none => exact hP
  | some found =>
    have hfound : P found := by
      rcases DevHandle.obtainInterfaceEL_cases hobtain with ⟨-, rfl⟩ | ⟨hnone, -, rfl⟩
      · exact hP
      · exact h.interfaceEL device _ hP hnone
    dsimp only
    split
    · exact hfound
    · rename_i halt
      rcases DevHandle.obtainAltInterfaceEL_cases halt with ⟨-, rfl⟩ | ⟨hnone, -, rfl⟩
      · exact hfound
      · exact h.altInterfaceEL found _ _ _ hfound hnone

theorem uAddPipe (h : KeptByWrites P) (hP : P device) (allocs : Allocs) (desc : ℕ)
    (prevPipe : Option UInt8) :
    P (uAddPipe mem allocs desc device number alternate prevPipe).device := by
  unfold LibusbK.uAddPipe
  dsimp only
  split
  · split
    · exact hP
    · rename_i hobtain
      rcases DevHandle.obtainPipeEL_cases hobtain with ⟨-, rfl⟩ | ⟨hnone, -, rfl⟩
      · exact hP
      · exact h.pipeEL device _ _ _ _ hP hnone
  · split
    · split
      · exact h.companion device _ _ _ _ hP
      · exact hP
    · exact hP

/-- One call of `u_Desc_Next`, and the loop that makes it. -/
theorem step (h : KeptByWrites P) {w : Walker} (hP : P w.device) :
    P (w.step mem alloc).device := by
  unfold Walker.step
  dsimp only
  split
  · exact hP
  · split
    · unfold Walker.after uInitConfigBody
      dsimp only
      split
      · exact h.uAddInterface hP _ _
      · exact hP
    · exact hP
  · split
    · split
      · exact hP
      · exact h.uAddPipe hP _ _ _
    · exact hP

/-- The parser on a device that has the property. -/
theorem walker (h : KeptByWrites P) (hP : P device) (calls : ℕ) :
    P ((Walker.step mem alloc)^[calls] (uInitConfig mem device)).device := by
  induction calls with
  | zero => exact hP
  | succ calls ih =>
    rw [Function.iterate_succ_apply']
    exact h.step ih

end KeptByWrites

/-- A property of a device that does not depend on the alternate settings and the pipes of
its interfaces, and stays true when an interface element is appended. -/
structure KeptByParser (P : DevHandle → Prop) : Prop where
  append : ∀ device number, P device → device.usbStack.findInterfaceEL false number = none →
    P (device.appendInterfaceEL number)
  update : ∀ device number f, P device → (∀ el : InterfaceEL, (f el).id = el.id) →
    (∀ el, (f el).index = el.index) → (∀ el, (f el).sharedInterface = el.sharedInterface) →
    P { device with usbStack := device.usbStack.updateInterface number f }

namespace KeptByParser

variable {P : DevHandle → Prop} {mem : Memory} {alloc : ℕ → Allocs}

theorem updateAlt (h : KeptByParser P) (hP : P device) (f : AltInterfaceEL → AltInterfaceEL) :
    P { device with usbStack := device.usbStack.updateAlt number alternate f } :=
  h.update device number _ hP (fun _ => rfl) (fun _ => rfl) fun _ => rfl

theorem keptByWrites (h : KeptByParser P) : KeptByWrites P where
  interfaceEL := h.append
  altInterfaceEL _ _ _ _ hP _ := h.update _ _ _ hP (fun _ => rfl) (fun _ => rfl) fun _ => rfl
  pipeEL _ _ _ _ _ hP _ := h.updateAlt hP _
  companion _ _ _ _ _ hP := h.updateAlt hP _

/-- The parser on a device that has the property. -/
theorem walker (h : KeptByParser P) (hP : P device) (calls : ℕ) :
    P ((Walker.step mem alloc)^[calls] (uInitConfig mem device)).device :=
  h.keptByWrites.walker hP calls

end KeptByParser

end LibusbK
