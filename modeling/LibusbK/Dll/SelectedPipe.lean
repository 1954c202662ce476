import LibusbK.Dll.UsbHandles
import LibusbK.Dll.StackRebuild
import LibusbK.Dll.IsochFrames
import LibusbK.Dll.StackGrouping

/-!
# Selected endpoints and pipes

`UsbStack_QuerySelectedEndpoint` and `UsbStack_QuerySelectedPipe` of
`lusbk_stack_collection.c` look for the same pipe.  The first copies its descriptor; the second
asks `UsbStack_QueryPipeEx` for the pipe with the index of what it has found.  The parser gives
every pipe of an alternate setting an index of its own, so that is the same pipe.

## Main definitions

* `EndpointDescriptor`, `selectedEndpoint`, `selectedPipe` — the queries with what they return.
* `IsProjection` — what pipe information is of a descriptor.
* `UsbStack.Indexed` — what the parser keeps.

## Main results

* `UsbStack.Indexed.keptByWrites`, `indexed_walkOn` — every stack the parser builds is indexed.
* `queriesAgree` — the queries agree up to the alternate setting `0x7F` and the index `0x1F`.
-/

namespace LibusbK

/-! ### What the queries return -/

/-- `USB_ENDPOINT_DESCRIPTOR` -/
structure EndpointDescriptor where
  bLength : UInt8
  bDescriptorType : UInt8
  bEndpointAddress : UInt8
  bmAttributes : UInt8
  wMaxPacketSize : UInt16
  bInterval : UInt8
  deriving DecidableEq, Repr

/-- `WINUSB_PIPE_INFORMATION_EX`, with all its fields. -/
structure SelectedPipeInformation extends PipeInformationEx where
  pipeType : UInt8
  pipeId : UInt8
  deriving DecidableEq, Repr

section Query

variable (mem : Memory)

/-- A word, the low byte first. -/
def wordAt (offset : ℕ) : UInt16 :=
  UInt16.ofNat ((mem offset).toNat + 256 * (mem (offset + 1)).toNat)

def endpointDescriptorAt (offset : ℕ) : EndpointDescriptor where
  bLength := mem offset
  bDescriptorType := mem (offset + 1)
  bEndpointAddress := mem (offset + 2)
  bmAttributes := mem (offset + 3)
  wMaxPacketSize := wordAt mem (offset + 4)
  bInterval := mem (offset + 6)

/-- `wBytesPerInterval` of a companion descriptor. -/
def bytesPerIntervalAt (companion : Option ℕ) : Option UInt16 :=
  companion.map fun offset => wordAt mem (offset + 4)

/-- What `UsbStack_QueryPipeEx` makes of a pipe. -/
def pipeInformationAt (descriptor : ℕ) (companion : Option ℕ) : SelectedPipeInformation where
  toPipeInformationEx :=
    IsochEndpoint.pipeInformationEx
      { wMaxPacketSize := wordAt mem (descriptor + 4)
        bInterval := mem (descriptor + 6)
        wBytesPerInterval := bytesPerIntervalAt mem companion }
  pipeType := mem (descriptor + 3) &&& 0x03
  pipeId := mem (descriptor + 2)

variable (stack : UsbStack) (s : UsbHandles) (handle : ℕ) (endpointAddressOrIndex : UInt8)
  (isIndex : Bool)

/-- `UsbStack_QuerySelectedEndpoint` -/
def selectedEndpoint : Except UsbError EndpointDescriptor :=
  (s.querySelectedEndpoint stack handle endpointAddressOrIndex isIndex).result.map
    (endpointDescriptorAt mem)

/-- `UsbStack_QuerySelectedPipe` -/
def selectedPipe : Except UsbError SelectedPipeInformation :=
  (s.querySelectedPipe stack handle endpointAddressOrIndex isIndex).result.map fun pipe =>
    pipeInformationAt mem pipe.1 pipe.2

/-- Pipe information is the projection of a descriptor, with the bytes of the companion. -/
structure SelectedPipeInformation.IsProjection (info : SelectedPipeInformation)
    (d : EndpointDescriptor) (wBytesPerInterval : Option UInt16) : Prop where
  pipeType : info.pipeType.toNat = d.bmAttributes.toNat % 4
  pipeId : info.pipeId = d.bEndpointAddress
  interval : info.interval = d.bInterval
  maximumPacketSize : info.maximumPacketSize.toNat =
    d.wMaxPacketSize.toNat % 2048 * (d.wMaxPacketSize.toNat / 2048 % 4 + 1)
  maximumBytesPerInterval : info.maximumBytesPerInterval.toNat =
    match wBytesPerInterval with
    | some bytes => if bytes = 0 then info.maximumPacketSize.toNat else bytes.toNat
    | none => info.maximumPacketSize.toNat

/-- **The queries agree**: the second one succeeds where the first does and the pipe is within
the limits, and then it returns the projection of what the first returns. -/
structure QueriesAgree (within : UInt8 → PipeEL → Prop) : Prop where
  succeeds : (∃ info, selectedPipe mem stack s handle endpointAddressOrIndex isIndex = .ok info) ↔
    (∃ d, selectedEndpoint mem stack s handle endpointAddressOrIndex isIndex = .ok d) ∧
      ∀ altSetting pipeEL,
        (s.findSelectedPipe stack handle endpointAddressOrIndex isIndex).result =
          .ok (altSetting, pipeEL) → within altSetting pipeEL
  projection : ∀ info,
    selectedPipe mem stack s handle endpointAddressOrIndex isIndex = .ok info →
      ∃ d altSetting pipeEL,
        selectedEndpoint mem stack s handle endpointAddressOrIndex isIndex = .ok d ∧
        (s.findSelectedPipe stack handle endpointAddressOrIndex isIndex).result =
          .ok (altSetting, pipeEL) ∧
        info.IsProjection d (bytesPerIntervalAt mem pipeEL.superSpeedCompanionDescriptor)

end Query

/-- The limits of `UsbStack_QueryPipeEx`. -/
def WithinLimits (altSetting : UInt8) (pipeEL : PipeEL) : Prop :=
  altSetting ≤ 0x7F ∧ pipeEL.index ≤ 0x1F

/-! ### Indices of pipes -/

/-- The pipes of an alternate setting have their positions for indices, and no address comes
twice. -/
structure AltInterfaceEL.PipesCounted (el : AltInterfaceEL) : Prop where
  nodup : (el.pipeList.map PipeEL.id).Nodup
  counted : Counted PipeEL.id PipeEL.index el.pipeList el.pipeCount (el.pipeList.map PipeEL.id)

/-- No alternate setting of an interface comes twice, and their pipes are counted. -/
structure InterfaceEL.AltsCounted (el : InterfaceEL) : Prop where
  alts : (el.altInterfaceList.map AltInterfaceEL.id).Nodup
  pipes : ∀ altfEL ∈ el.altInterfaceList, altfEL.PipesCounted

/-- No interface comes twice, and so on. -/
structure UsbStack.Indexed (stack : UsbStack) : Prop where
  interfaces : (stack.interfaceList.map InterfaceEL.id).Nodup
  alts : ∀ intfEL ∈ stack.interfaceList, intfEL.AltsCounted

namespace AltInterfaceEL.PipesCounted

variable {el : AltInterfaceEL} {address : UInt8}

theorem appendPipeEL (h : el.PipesCounted) (hnone : el.findPipeEL false address = none)
    (descriptor : ℕ) : (el.appendPipeEL address descriptor).PipesCounted := by
  have hnew : address ∉ el.pipeList.map PipeEL.id := by
    rw [← AltInterfaceEL.isSome_findPipeEL, hnone]
    exact Bool.false_ne_true
  refine ⟨Keyed.nodup_concat h.nodup hnone, ?_⟩
  have hcounted : Counted PipeEL.id PipeEL.index (el.appendPipeEL address descriptor).pipeList
      (el.pipeCount + 1) (el.pipeList.map PipeEL.id ++ [address]) :=
    h.counted.concat hnew rfl h.nodup
  rwa [← hcounted.ids] at hcounted

theorem setCompanion (h : el.PipesCounted) (companion : ℕ) :
    (el.setCompanion address companion).PipesCounted := by
  have hmap := el.map_id_setCompanion address companion
  refine ⟨hmap ▸ h.nodup, ?_⟩
  rw [hmap]
  exact h.counted.update (fun _ => rfl) fun _ => rfl

/-- A pipe is what is found under its index. -/
theorem findPipeEL_index (h : el.PipesCounted) {pipeEL : PipeEL} (hmem : pipeEL ∈ el.pipeList) :
    el.findPipeEL true pipeEL.index = some pipeEL := by
  refine Keyed.find_eq_some_of_mem ?_ hmem
  refine List.Nodup.of_map UInt8.toNat ?_
  rw [List.map_map]
  exact h.counted.indices ▸ List.nodup_range

end AltInterfaceEL.PipesCounted

namespace InterfaceEL.AltsCounted

variable {el : InterfaceEL} {alternate : UInt8}

theorem appendAltInterfaceEL (h : el.AltsCounted)
    (hnone : el.findAltInterfaceEL false alternate = none) (descriptor : ℕ) :
    (el.appendAltInterfaceEL alternate descriptor).AltsCounted := by
  refine ⟨Keyed.nodup_concat h.alts hnone, fun altfEL hmem => ?_⟩
  rcases List.mem_append.mp hmem with hold | hnew
  · exact h.pipes altfEL hold
  · obtain rfl := List.mem_singleton.mp hnew
    exact ⟨List.nodup_nil, Counted.empty _ _⟩

/-- A write to an alternate setting that keeps its number and what is said of its pipes. -/
theorem updateAlt (h : el.AltsCounted) {f : AltInterfaceEL → AltInterfaceEL}
    (hid : ∀ altfEL, (f altfEL).id = altfEL.id)
    (hf : ∀ altfEL, el.findAltInterfaceEL false alternate = some altfEL →
      altfEL.PipesCounted → (f altfEL).PipesCounted) :
    (el.updateAlt alternate f).AltsCounted := by
  refine ⟨?_, Keyed.forall_update h.pipes (fun _ _ hpipes => hpipes) ?_⟩
  · show ((Keyed.update AltInterfaceEL.id alternate f el.altInterfaceList).map
      AltInterfaceEL.id).Nodup
    rw [Keyed.map_update hid]
    exact h.alts
  · rintro altfEL hmem rfl hpipes
    exact hf altfEL (Keyed.find_eq_some_of_mem h.alts hmem) hpipes

end InterfaceEL.AltsCounted

namespace UsbStack.Indexed

variable {stack : UsbStack} {number : UInt8}

/-- A write to an interface that keeps its number and what is said of its settings. -/
theorem updateInterface (h : stack.Indexed) {f : InterfaceEL → InterfaceEL}
    (hid : ∀ intfEL, (f intfEL).id = intfEL.id)
    (hf : ∀ intfEL, stack.findInterfaceEL false number = some intfEL → intfEL.AltsCounted →
      (f intfEL).AltsCounted) : (stack.updateInterface number f).Indexed := by
  refine ⟨?_, Keyed.forall_update h.alts (fun _ _ halts => halts) ?_⟩
  · show ((Keyed.update InterfaceEL.id number f stack.interfaceList).map InterfaceEL.id).Nodup
    rw [Keyed.map_update hid]
    exact h.interfaces
  · rintro intfEL hmem rfl halts
    exact hf intfEL (Keyed.find_eq_some_of_mem h.interfaces hmem) halts

/-- **What the writes of the parser keep.** -/
theorem keptByWrites : KeptByWrites fun device => device.usbStack.Indexed where
  interfaceEL device number h hnone := by
    refine ⟨Keyed.nodup_concat h.interfaces hnone, fun intfEL hmem => ?_⟩
    rcases List.mem_append.mp hmem with hold | hnew
    · exact h.alts intfEL hold
    · obtain rfl := List.mem_singleton.mp hnew
      exact ⟨List.nodup_nil, fun _ hmem => (List.not_mem_nil hmem).elim⟩
  altInterfaceEL device number alternate descriptor h hnone := by
    refine h.updateInterface (fun _ => rfl) fun intfEL hfound halts => ?_
    rw [UsbStack.altInterfaceAt, hfound] at hnone
    exact halts.appendAltInterfaceEL hnone descriptor
  pipeEL device number alternate address descriptor h hnone := by
    refine h.updateInterface (fun _ => rfl) fun intfEL hfound halts =>
      halts.updateAlt (fun _ => rfl) fun altfEL halt hpipes => ?_
    rw [UsbStack.pipeAt, UsbStack.altInterfaceAt, hfound, Option.bind_some, halt] at hnone
    exact hpipes.appendPipeEL hnone descriptor
  companion device number alternate address descriptor h :=
    h.updateInterface (fun _ => rfl) fun intfEL _ halts =>
      halts.updateAlt (fun _ => rfl) fun altfEL _ hpipes => hpipes.setCompanion descriptor

end UsbStack.Indexed

/-- **Every stack the parser builds is indexed**, that of a new device and that of a device
whose stack has been cleared. -/
theorem indexed_walkOn (mem : Memory) (alloc : ℕ → Allocs) (device : DevHandle) (calls : ℕ) :
    (walkOn mem alloc { device with usbStack := device.usbStack.clear }
      calls).device.usbStack.Indexed := by
  refine UsbStack.Indexed.keptByWrites.walker ?_ calls
  exact ⟨List.nodup_nil, fun _ hmem => (List.not_mem_nil hmem).elim⟩

/-! ### The queries -/

section Agree

variable {mem : Memory} {stack : UsbStack} {s : UsbHandles} {handle : ℕ}
  {endpointAddressOrIndex altSetting : UInt8} {isIndex : Bool} {pipeEL : PipeEL}

/-- Where a pipe has been found. -/
theorem of_findSelectedPipe
    (h : (s.findSelectedPipe stack handle endpointAddressOrIndex isIndex).result =
      .ok (altSetting, pipeEL)) :
    ∃ selected intfEL altfEL, s.selected[handle]? = some selected ∧
      stack.findInterfaceEL true selected = some intfEL ∧
      intfEL.findAltInterfaceEL false altSetting = some altfEL ∧ pipeEL ∈ altfEL.pipeList := by
  unfold UsbHandles.findSelectedPipe UsbHandles.withHandle at h
  cases hselected : s.selected[handle]? with
  | none => rw [hselected] at h; cases h
  | some selected =>
    rw [hselected] at h
    dsimp only [UsbHandles.withInterface] at h
    cases hintf : stack.findInterfaceEL true selected with
    | none => rw [hintf] at h; cases h
    | some intfEL =>
      rw [hintf] at h
      dsimp only at h
      cases halt : intfEL.findAltInterfaceEL false
          (s.sharedInterfaces selected.toNat).currentAltSetting with
      | none => rw [halt] at h; cases h
      | some altfEL =>
        rw [halt] at h
        dsimp only at h
        cases hpipe : altfEL.findPipeEL isIndex endpointAddressOrIndex with
        | none => rw [hpipe] at h; cases h
        | some found =>
          rw [hpipe] at h
          obtain ⟨rfl, rfl⟩ := Prod.mk.inj (Except.ok.inj h)
          exact ⟨selected, intfEL, altfEL, rfl, hintf, halt, (Keyed.mem_of_find hpipe).1⟩

/-- **The second query comes to the pipe that has been found**, within its limits. -/
theorem queryPipeEx_of_found (hindexed : stack.Indexed)
    (h : (s.findSelectedPipe stack handle endpointAddressOrIndex isIndex).result =
      .ok (altSetting, pipeEL)) :
    (s.queryPipeEx stack handle altSetting pipeEL.index).result =
      if altSetting > 0x7F ∨ pipeEL.index > 0x1F then .error .invalidParameter
      else .ok (pipeEL.descriptor, pipeEL.superSpeedCompanionDescriptor) := by
  obtain ⟨selected, intfEL, altfEL, hselected, hintf, halt, hmem⟩ := of_findSelectedPipe h
  have hcounted := (hindexed.alts intfEL (Keyed.mem_of_find hintf).1).pipes altfEL
    (Keyed.mem_of_find halt).1
  unfold UsbHandles.queryPipeEx
  by_cases hlimits : altSetting > 0x7F ∨ pipeEL.index > 0x1F
  · rw [if_pos hlimits, if_pos hlimits]
  · rw [if_neg hlimits, if_neg hlimits, UsbHandles.withHandle, hselected]
    dsimp only [UsbHandles.withInterface]
    rw [hintf]
    dsimp only
    rw [halt]
    dsimp only
    rw [hcounted.findPipeEL_index hmem]

theorem not_withinLimits_iff :
    ¬WithinLimits altSetting pipeEL ↔ altSetting > 0x7F ∨ pipeEL.index > 0x1F := by
  unfold WithinLimits
  rw [not_and_or, UInt8.not_le, UInt8.not_le]

/-- The packet size times the transactions of a microframe. -/
theorem toNat_packetSize (w : UInt16) :
    ((w &&& (0x7FF : UInt16)) * (((w >>> 11) &&& (0x3 : UInt16)) + 1)).toNat =
      w.toNat % 2048 * (w.toNat / 2048 % 4 + 1) := by
  have hsize : (w &&& (0x7FF : UInt16)).toNat = w.toNat % 2048 := by
    rw [UInt16.toNat_and]
    exact Nat.and_two_pow_sub_one_eq_mod _ 11
  have hshift : (w >>> 11).toNat = w.toNat / 2048 := by
    rw [UInt16.toNat_shiftRight]
    exact Nat.shiftRight_eq_div_pow _ 11
  have hmult : ((w >>> 11) &&& (0x3 : UInt16)).toNat = w.toNat / 2048 % 4 := by
    rw [UInt16.toNat_and, hshift]
    exact Nat.and_two_pow_sub_one_eq_mod _ 2
  have hsucc : (((w >>> 11) &&& (0x3 : UInt16)) + 1).toNat = w.toNat / 2048 % 4 + 1 := by
    rw [UInt16.toNat_add, hmult]
    have hone : (1 : UInt16).toNat = 1 := rfl
    exact Nat.mod_eq_of_lt (by omega)
  rw [UInt16.toNat_mul, hsize, hsucc]
  refine Nat.mod_eq_of_lt ?_
  calc w.toNat % 2048 * (w.toNat / 2048 % 4 + 1)
      ≤ 2047 * 4 := Nat.mul_le_mul (by omega) (by omega)
    _ < 2 ^ 16 := by decide

/-- What `UsbStack_QueryPipeEx` returns is the projection of the descriptor. -/
theorem isProjection_pipeInformationAt (mem : Memory) (descriptor : ℕ) (companion : Option ℕ) :
    (pipeInformationAt mem descriptor companion).IsProjection
      (endpointDescriptorAt mem descriptor) (bytesPerIntervalAt mem companion) where
  pipeType := by
    show (mem (descriptor + 3) &&& 0x03).toNat = _
    rw [UInt8.toNat_and]
    exact Nat.and_two_pow_sub_one_eq_mod _ 2
  pipeId := rfl
  interval := rfl
  maximumPacketSize := toNat_packetSize _
  maximumBytesPerInterval := by
    unfold pipeInformationAt IsochEndpoint.pipeInformationEx
    dsimp only
    cases bytesPerIntervalAt mem companion with
    | none => exact UInt16.toNat_toUInt32 _
    | some bytes =>
      dsimp only
      split_ifs
      · exact UInt16.toNat_toUInt32 _
      · exact UInt16.toNat_toUInt32 _

theorem selectedEndpoint_of_error (mem : Memory) {error : UsbError}
    (h : (s.findSelectedPipe stack handle endpointAddressOrIndex isIndex).result =
      .error error) :
    selectedEndpoint mem stack s handle endpointAddressOrIndex isIndex = .error error := by
  unfold selectedEndpoint UsbHandles.querySelectedEndpoint
  dsimp only
  rw [h]
  rfl

theorem selectedEndpoint_of_found (mem : Memory)
    (h : (s.findSelectedPipe stack handle endpointAddressOrIndex isIndex).result =
      .ok (altSetting, pipeEL)) :
    selectedEndpoint mem stack s handle endpointAddressOrIndex isIndex =
      .ok (endpointDescriptorAt mem pipeEL.descriptor) := by
  unfold selectedEndpoint UsbHandles.querySelectedEndpoint
  dsimp only
  rw [h]
  rfl

theorem selectedPipe_of_error (mem : Memory) {error : UsbError}
    (h : (s.findSelectedPipe stack handle endpointAddressOrIndex isIndex).result =
      .error error) :
    selectedPipe mem stack s handle endpointAddressOrIndex isIndex = .error error := by
  unfold selectedPipe UsbHandles.querySelectedPipe
  dsimp only
  rw [h]
  rfl

theorem selectedPipe_of_found (mem : Memory) (hindexed : stack.Indexed)
    (h : (s.findSelectedPipe stack handle endpointAddressOrIndex isIndex).result =
      .ok (altSetting, pipeEL)) :
    selectedPipe mem stack s handle endpointAddressOrIndex isIndex =
      if altSetting > 0x7F ∨ pipeEL.index > 0x1F then .error .invalidParameter
      else .ok (pipeInformationAt mem pipeEL.descriptor
        pipeEL.superSpeedCompanionDescriptor) := by
  unfold selectedPipe UsbHandles.querySelectedPipe
  dsimp only
  rw [h]
  dsimp only
  rw [queryPipeEx_of_found hindexed h]
  split_ifs <;> rfl

/-- The queries of a stack that is indexed. -/
theorem queriesAgree_of_indexed (hindexed : stack.Indexed) :
    QueriesAgree mem stack s handle endpointAddressOrIndex isIndex WithinLimits := by
  cases hfound : (s.findSelectedPipe stack handle endpointAddressOrIndex isIndex).result with
  | error error =>
    have hpipe := selectedPipe_of_error mem hfound
    refine ⟨iff_of_false ?_ ?_, fun info hinfo => ?_⟩
    · rintro ⟨info, hinfo⟩
      cases hpipe.symm.trans hinfo
    · rintro ⟨⟨d, hd⟩, -⟩
      cases (selectedEndpoint_of_error mem hfound).symm.trans hd
    · cases hpipe.symm.trans hinfo
  | ok found =>
    obtain ⟨altSetting, pipeEL⟩ := found
    have hendpoint := selectedEndpoint_of_found mem hfound
    have hpipe := selectedPipe_of_found mem hindexed hfound
    by_cases hlimits : altSetting > 0x7F ∨ pipeEL.index > 0x1F
    · rw [if_pos hlimits] at hpipe
      refine ⟨iff_of_false ?_ ?_, fun info hinfo => ?_⟩
      · rintro ⟨info, hinfo⟩
        cases hpipe.symm.trans hinfo
      · rintro ⟨-, hwithin⟩
        exact not_withinLimits_iff.mpr hlimits (hwithin altSetting pipeEL hfound)
      · cases hpipe.symm.trans hinfo
    · rw [if_neg hlimits] at hpipe
      refine ⟨iff_of_true ⟨_, hpipe⟩ ⟨⟨_, hendpoint⟩, ?_⟩, fun info hinfo => ?_⟩
      · intro altSetting' pipeEL' hfound'
        obtain ⟨rfl, rfl⟩ := Prod.mk.inj (Except.ok.inj (hfound.symm.trans hfound'))
        exact not_not.mp (mt not_withinLimits_iff.mp hlimits)
      · obtain rfl := Except.ok.inj (hpipe.symm.trans hinfo)
        exact ⟨_, altSetting, pipeEL, hendpoint, hfound,
          isProjection_pipeInformationAt mem pipeEL.descriptor _⟩

end Agree

/-- **The queries agree on every stack the parser builds**, for every handle, whatever is
selected and whatever the alternate settings are, up to the alternate setting `0x7F` and the
index `0x1F`. -/
theorem queriesAgree (mem : Memory) (alloc : ℕ → Allocs) (device : DevHandle) (calls : ℕ)
    (s : UsbHandles) (handle : ℕ) (endpointAddressOrIndex : UInt8) (isIndex : Bool) :
    QueriesAgree mem
      (walkOn mem alloc { device with usbStack := device.usbStack.clear } calls).device.usbStack
      s handle endpointAddressOrIndex isIndex WithinLimits :=
  queriesAgree_of_indexed (indexed_walkOn mem alloc device calls)

/-- A configuration whose interface has the alternate setting `0x80` with an endpoint. -/
def highAltSetting : Memory :=
  zeroExtend [9, 2, 25, 0, 1, 1, 0, 0x80, 50, 9, 4, 0, 0x80, 1, 0xFF, 0, 0, 0,
    7, 5, 0x81, 2, 0x40, 0, 0]

/-- The alternate setting is current. -/
def highAltHandles : UsbHandles where
  sharedInterfaces := fun _ => { clearedSetting with currentAltSetting := 0x80 }

/-- There the endpoint is found and the pipe is not. -/
theorem not_queriesAgree_highAltSetting :
    ¬QueriesAgree highAltSetting (walkOn highAltSetting (fun _ => {}) {} 8).device.usbStack
      highAltHandles 0 0x81 false fun _ _ => True := by
  intro h
  obtain ⟨info, hinfo⟩ := h.succeeds.mpr ⟨⟨_, rfl⟩, fun _ _ _ => trivial⟩
  cases hinfo

end LibusbK
