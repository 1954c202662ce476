import LibusbK.Lib.IndexLoop
import LibusbK.Dll.DescriptorPointers
import LibusbK.Dll.SelectedPipe

/-!
# Listing a device by index

The calls of `lusbk_stack_collection.c` that an application lists a device with:
`UsbStack_SelectInterface`, `UsbStack_QueryInterfaceSettings`, `UsbStack_QueryPipe` and its
relatives take an index, and fail where there is nothing under it.  An application counts the
index up until a call fails.

## Main definitions

* `queryInterfaceSettings`, `queryPipe`, `getSuperSpeedPipeCompanionDescriptor` — the calls.
* `listPipes`, `listSettings`, `listInterfaces` — the loops of an application.
* `ListedInterface.Describes` — what an application has listed is what the device describes.

## Main results

* `listInterfaces_describes` — the loops list a configuration, up to the limits of the calls.
-/

namespace LibusbK

/-! ### What the calls return -/

/-- `USB_INTERFACE_DESCRIPTOR` -/
structure InterfaceDescriptor where
  bLength : UInt8
  bDescriptorType : UInt8
  bInterfaceNumber : UInt8
  bAlternateSetting : UInt8
  bNumEndpoints : UInt8
  bInterfaceClass : UInt8
  bInterfaceSubClass : UInt8
  bInterfaceProtocol : UInt8
  iInterface : UInt8
  deriving DecidableEq, Repr

/-- `USB_SUPERSPEED_ENDPOINT_COMPANION_DESCRIPTOR` -/
structure CompanionDescriptor where
  bLength : UInt8
  bDescriptorType : UInt8
  bMaxBurst : UInt8
  bmAttributes : UInt8
  wBytesPerInterval : UInt16
  deriving DecidableEq, Repr

/-- `WINUSB_PIPE_INFORMATION` -/
structure WinUsbPipeInformation where
  pipeType : UInt8
  pipeId : UInt8
  maximumPacketSize : UInt16
  interval : UInt8
  deriving DecidableEq, Repr

section At

variable (mem : Memory) (offset : ℕ)

def interfaceDescriptorAt : InterfaceDescriptor where
  bLength := mem offset
  bDescriptorType := mem (offset + 1)
  bInterfaceNumber := mem (offset + 2)
  bAlternateSetting := mem (offset + 3)
  bNumEndpoints := mem (offset + 4)
  bInterfaceClass := mem (offset + 5)
  bInterfaceSubClass := mem (offset + 6)
  bInterfaceProtocol := mem (offset + 7)
  iInterface := mem (offset + 8)

def companionDescriptorAt : CompanionDescriptor where
  bLength := mem offset
  bDescriptorType := mem (offset + 1)
  bMaxBurst := mem (offset + 2)
  bmAttributes := mem (offset + 3)
  wBytesPerInterval := wordAt mem (offset + 4)

/-- What `UsbStack_QueryPipe` makes of a pipe. -/
def winUsbPipeInformationAt : WinUsbPipeInformation where
  pipeType := mem (offset + 3) &&& 0x03
  pipeId := mem (offset + 2)
  maximumPacketSize :=
    (wordAt mem (offset + 4) &&& (0x7FF : UInt16)) *
      (((wordAt mem (offset + 4) >>> 11) &&& (0x3 : UInt16)) + 1)
  interval := mem (offset + 6)

end At

/-! ### The calls -/

namespace UsbHandles

/-- `UsbStack_QueryInterfaceSettings`; the result is where the descriptor stands. -/
def queryInterfaceSettings (stack : UsbStack) (s : UsbHandles) (handle : ℕ)
    (altSettingIndex : UInt8) : HandleResult ℕ :=
  if altSettingIndex > 0x7F then { handles := s, result := .error .invalidParameter }
  else
    s.withHandle handle fun selected =>
      s.withInterface stack true selected .noMoreItems fun intfEL =>
        { handles := s
          result :=
            match intfEL.findAltInterfaceEL true altSettingIndex with
            | none => .error .noMoreItems
            | some altfEL => .ok altfEL.descriptor }

/-- What `UsbStack_QueryPipe` and `UsbStack_GetSuperSpeedPipeCompanionDescriptor` do before they
look at the pipe. -/
def findPipeAt (stack : UsbStack) (s : UsbHandles) (handle : ℕ)
    (altSettingNumber pipeIndex : UInt8) : HandleResult PipeEL :=
  if altSettingNumber > 0x7F ∨ pipeIndex > 0x1F then
    { handles := s, result := .error .invalidParameter }
  else
    s.withHandle handle fun selected =>
      s.withInterface stack true selected .noMoreItems fun intfEL =>
        { handles := s
          result :=
            match intfEL.findAltInterfaceEL false altSettingNumber with
            | none => .error .noMoreItems
            | some altfEL =>
              match altfEL.findPipeEL true pipeIndex with
              | none => .error .noMoreItems
              | some pipeEL => .ok pipeEL }

variable (stack : UsbStack) (s : UsbHandles) (handle : ℕ) (altSettingNumber pipeIndex : UInt8)

/-- `UsbStack_QueryPipe`; the result is where the descriptor stands. -/
def queryPipe : HandleResult ℕ :=
  let found := findPipeAt stack s handle altSettingNumber pipeIndex
  { handles := found.handles, result := found.result.map PipeEL.descriptor }

/-- `UsbStack_GetSuperSpeedPipeCompanionDescriptor`; the result is where the descriptor stands,
and `none` where it fails with `ERROR_NOT_FOUND`. -/
def getSuperSpeedPipeCompanionDescriptor : HandleResult (Option ℕ) :=
  let found := findPipeAt stack s handle altSettingNumber pipeIndex
  { handles := found.handles, result := found.result.map PipeEL.superSpeedCompanionDescriptor }

end UsbHandles

/-! ### The loops of an application -/

/-- What an application learns of a pipe from `UsbStack_QueryPipe`, `UsbStack_QueryPipeEx` and
`UsbStack_GetSuperSpeedPipeCompanionDescriptor`. -/
structure ListedPipe where
  pipe : WinUsbPipeInformation
  pipeEx : Except UsbError SelectedPipeInformation
  companion : Except UsbError (Option CompanionDescriptor)

/-- An alternate setting with its pipes. -/
structure ListedSetting where
  descriptor : InterfaceDescriptor
  pipes : List ListedPipe

/-- The alternate settings of an interface. -/
abbrev ListedInterface := List ListedSetting

section Loops

variable (mem : Memory) (stack : UsbStack) (handle : ℕ)

/-- A call in a loop: it hands out a value or fails. -/
def HandleResult.toLoop {α β : Type} (r : HandleResult α)
    (body : α → UsbHandles → Option (β × UsbHandles)) : Option (Option β × UsbHandles) :=
  match r.result with
  | .error _ => some (none, r.handles)
  | .ok a => (body a r.handles).map fun next => (some next.1, next.2)

/-- `QueryPipe(handle, altSettingNumber, index, &pipe)`, and where there is a pipe, what else
there is to know of it. -/
def listPipe (altSettingNumber index : UInt8) (s : UsbHandles) :
    Option (Option ListedPipe × UsbHandles) :=
  (s.queryPipe stack handle altSettingNumber index).toLoop fun offset s =>
    let pipeEx := s.queryPipeEx stack handle altSettingNumber index
    let companion :=
      pipeEx.handles.getSuperSpeedPipeCompanionDescriptor stack handle altSettingNumber index
    some ({ pipe := winUsbPipeInformationAt mem offset
            pipeEx := pipeEx.result.map fun pipe => pipeInformationAt mem pipe.1 pipe.2
            companion := companion.result.map fun found =>
              found.map (companionDescriptorAt mem) }, companion.handles)

/-- `while (QueryPipe(handle, altSettingNumber, index, &pipe)) index++` -/
def listPipes (calls : ℕ) (altSettingNumber : UInt8) (s : UsbHandles) :
    Option (List ListedPipe × UsbHandles) :=
  IndexLoop.run (· + 1) (listPipe mem stack handle altSettingNumber) calls 0 s

/-- `QueryInterfaceSettings(handle, index, &descriptor)`, and the pipes of the alternate
setting. -/
def listSetting (calls : ℕ) (index : UInt8) (s : UsbHandles) :
    Option (Option ListedSetting × UsbHandles) :=
  (s.queryInterfaceSettings stack handle index).toLoop fun offset s =>
    let descriptor := interfaceDescriptorAt mem offset
    (listPipes mem stack handle calls descriptor.bAlternateSetting s).map fun pipes =>
      ({ descriptor, pipes := pipes.1 }, pipes.2)

/-- `while (QueryInterfaceSettings(handle, index, &descriptor)) index++` -/
def listSettings (calls : ℕ) (s : UsbHandles) : Option (ListedInterface × UsbHandles) :=
  IndexLoop.run (· + 1) (listSetting mem stack handle calls) calls 0 s

/-- `SelectInterface(handle, index, TRUE)`, and what there is of the interface. -/
def listInterface (calls : ℕ) (index : UInt8) (s : UsbHandles) :
    Option (Option ListedInterface × UsbHandles) :=
  (s.selectInterface stack handle index true).toLoop fun _ s =>
    listSettings mem stack handle calls s

/-- `while (SelectInterface(handle, index, TRUE)) index++` -/
def listInterfaces (calls : ℕ) (s : UsbHandles) : Option (List ListedInterface × UsbHandles) :=
  IndexLoop.run (· + 1) (listInterface mem stack handle calls) calls 0 s

end Loops

/-! ### What a device describes -/

section Describes

variable (gs : List InterfaceGroup) (number alternate address : UInt8)

/-- What has been learned of a pipe is what the first endpoint descriptor of the address says,
with a companion descriptor where there is one. -/
structure ListedPipe.Describes (listed : ListedPipe) : Prop where
  pipe : ∃ d info companion,
    endpointDescriptor gs number alternate address = some d ∧
    listed.pipeEx = .ok info ∧ listed.companion = .ok companion ∧
    info.IsProjection (endpointDescriptorAt (zeroExtend d.bytes) 0)
      (companion.map CompanionDescriptor.wBytesPerInterval) ∧
    listed.pipe =
      { pipeType := info.pipeType
        pipeId := info.pipeId
        maximumPacketSize := info.maximumPacketSize
        interval := info.interval }
  companion : ∀ companion, listed.companion = .ok companion →
    (companion.isSome = true ↔ (grouping gs).companions number alternate address) ∧
    ∀ c, companion = some c → ∃ d, CompanionAt gs number alternate address d ∧
      c = companionDescriptorAt (zeroExtend d.bytes) 0

/-- An alternate setting with its first interface descriptor and the first 32 of its pipes.  No
pipes are to be had of an alternate setting behind `0x7F`. -/
structure ListedSetting.Describes (listed : ListedSetting) : Prop where
  descriptor : ∃ d, interfaceDescriptor gs number alternate = some d ∧
    listed.descriptor = interfaceDescriptorAt (zeroExtend d.bytes) 0
  pipes : List.Forall₂ (fun pipe address => pipe.Describes gs number alternate address)
    listed.pipes
    (if alternate ≤ 0x7F then ((grouping gs).addresses number alternate).take 32 else [])

/-- The first 128 alternate settings of an interface. -/
def ListedInterface.Describes (listed : ListedInterface) : Prop :=
  List.Forall₂ (fun setting alternate => setting.Describes gs number alternate) listed
    (((grouping gs).settings number).take 128)

end Describes

/-! ### Searches by index -/

theorem Counted.find_index_of_mem {α : Type} {id index : α → UInt8} {list : List α}
    {count : UInt8} {ids : List UInt8} (h : Counted id index list count ids) {el : α}
    (hmem : el ∈ list) : Keyed.find index (index el) list = some el := by
  refine Keyed.find_eq_some_of_mem (List.Nodup.of_map UInt8.toNat ?_) hmem
  rw [List.map_map]
  exact h.indices ▸ List.nodup_range

/-- An index is a position. -/
theorem Counted.find_index {α : Type} {id index : α → UInt8} {list : List α} {count : UInt8}
    {ids : List UInt8} (h : Counted id index list count ids) (k : UInt8) :
    Keyed.find index k list = list[k.toNat]? := by
  have hindex {i : ℕ} (hi : i < list.length) : (index list[i]).toNat = i := by
    have hmap : (list.map fun el => (index el).toNat)[i]? = some i := by
      rw [h.indices, List.getElem?_range hi]
    rw [List.getElem?_map, List.getElem?_eq_getElem hi, Option.map_some] at hmap
    exact Option.some.inj hmap
  by_cases hk : k.toNat < list.length
  · rw [List.getElem?_eq_getElem hk]
    have hkey : index list[k.toNat] = k := UInt8.toNat_inj.mp (hindex hk)
    have hfind := h.find_index_of_mem (List.getElem_mem hk)
    rwa [hkey] at hfind
  · rw [List.getElem?_eq_none (Nat.not_lt.mp hk)]
    cases hfind : Keyed.find index k list with
    | none => rfl
    | some el =>
      obtain ⟨hmem, rfl⟩ := Keyed.mem_of_find hfind
      obtain ⟨i, hi, rfl⟩ := List.mem_iff_getElem.mp hmem
      rw [hindex hi] at hk
      exact absurd hi hk

/-! ### Descriptors in memory -/

section Lies

variable {mem : Memory} {offset : ℕ} {d : Descriptor} {ds : List Descriptor}
  {gs : List InterfaceGroup} {number alternate address : UInt8}

/-- The fields of the structure a descriptor is used as lie in memory. -/
theorem Descriptor.LiesAt.read (h : d.LiesAt mem offset) {bDescriptorType : UInt8}
    (ht : d.bDescriptorType = bDescriptorType) {j : ℕ} (hj : j < structureSize bDescriptorType) :
    mem (offset + j) = zeroExtend d.bytes (0 + j) := by
  subst ht
  rw [Nat.zero_add]
  exact Extends.eq_zeroExtend h (Nat.lt_of_lt_of_le hj d.sized)

theorem isInterface_of_mem_groups : ∀ {ds : List Descriptor} {group : InterfaceGroup},
    group ∈ groups ds → group.descriptor.isInterface = true := by
  intro ds
  induction ds with
  | nil => exact fun h => (List.not_mem_nil h).elim
  | cons d ds ih =>
    intro group h
    rw [groups] at h
    split at h
    next hd =>
      rcases List.mem_cons.mp h with rfl | h
      · exact hd
      · exact ih h
    · exact ih h

/-- The interface descriptor of an alternate setting. -/
theorem of_interfaceDescriptor (h : interfaceDescriptor (groups ds) number alternate = some d) :
    d.isInterface = true ∧ d.bInterfaceNumber = number ∧ d.bAlternateSetting = alternate := by
  obtain ⟨group, hgroup, rfl⟩ := Option.map_eq_some_iff.mp h
  have hmem := List.mem_of_mem_head? (Option.mem_def.mpr hgroup)
  obtain ⟨hmem, halt⟩ := List.mem_filter.mp hmem
  obtain ⟨hmem, hnumber⟩ := mem_groupsOfInterface.mp hmem
  exact ⟨isInterface_of_mem_groups hmem, hnumber, of_decide_eq_true halt⟩

/-- The endpoint descriptor of a pipe. -/
theorem of_endpointDescriptor (h : endpointDescriptor gs number alternate address = some d) :
    d.isEndpoint = true ∧ d.bEndpointAddress = address := by
  obtain ⟨hmem, hkey⟩ := Keyed.mem_of_find h
  obtain ⟨group, -, hmem⟩ := List.mem_flatMap.mp hmem
  exact ⟨(List.mem_filter.mp hmem).2, hkey⟩

theorem Descriptor.LiesAt.interfaceDescriptorAt_eq (h : d.LiesAt mem offset)
    (hi : d.isInterface = true) :
    interfaceDescriptorAt mem offset = interfaceDescriptorAt (zeroExtend d.bytes) 0 := by
  have hread (j : ℕ) (hj : j < 9) := h.read (of_decide_eq_true hi) (j := j) hj
  simp only [interfaceDescriptorAt, InterfaceDescriptor.mk.injEq]
  exact ⟨hread 0 (by decide), hread 1 (by decide), hread 2 (by decide), hread 3 (by decide),
    hread 4 (by decide), hread 5 (by decide), hread 6 (by decide), hread 7 (by decide),
    hread 8 (by decide)⟩

theorem wordAt_eq {offset' : ℕ} {mem' : Memory} (hlow : mem offset = mem' offset')
    (hhigh : mem (offset + 1) = mem' (offset' + 1)) : wordAt mem offset = wordAt mem' offset' := by
  rw [wordAt, wordAt, hlow, hhigh]

theorem Descriptor.LiesAt.endpointDescriptorAt_eq (h : d.LiesAt mem offset)
    (he : d.isEndpoint = true) :
    endpointDescriptorAt mem offset = endpointDescriptorAt (zeroExtend d.bytes) 0 := by
  have hread (j : ℕ) (hj : j < 7) := h.read (of_decide_eq_true he) (j := j) hj
  simp only [endpointDescriptorAt, EndpointDescriptor.mk.injEq]
  exact ⟨hread 0 (by decide), hread 1 (by decide), hread 2 (by decide), hread 3 (by decide),
    wordAt_eq (hread 4 (by decide)) (hread 5 (by decide)), hread 6 (by decide)⟩

theorem Descriptor.LiesAt.companionDescriptorAt_eq (h : d.LiesAt mem offset)
    (hc : d.isCompanion = true) :
    companionDescriptorAt mem offset = companionDescriptorAt (zeroExtend d.bytes) 0 := by
  have hread (j : ℕ) (hj : j < 6) := h.read (of_decide_eq_true hc) (j := j) hj
  simp only [companionDescriptorAt, CompanionDescriptor.mk.injEq]
  exact ⟨hread 0 (by decide), hread 1 (by decide), hread 2 (by decide), hread 3 (by decide),
    wordAt_eq (hread 4 (by decide)) (hread 5 (by decide))⟩

end Lies

/-! ### The calls -/

section Calls

variable {mem : Memory} {stack : UsbStack} {s : UsbHandles} {handle : ℕ}
  {gs : List InterfaceGroup} {selected altSettingNumber pipeIndex number : UInt8}
  {intfEL : InterfaceEL} {pipeEL : PipeEL} {g : Grouping}

/-- `UsbStack_QueryPipeEx` looks for the same pipe. -/
theorem queryPipeEx_eq (stack : UsbStack) (s : UsbHandles) (handle : ℕ)
    (altSettingNumber pipeIndex : UInt8) :
    s.queryPipeEx stack handle altSettingNumber pipeIndex =
      { handles := s
        result := (s.findPipeAt stack handle altSettingNumber pipeIndex).result.map fun pipeEL =>
          (pipeEL.descriptor, pipeEL.superSpeedCompanionDescriptor) } := by
  unfold UsbHandles.queryPipeEx UsbHandles.findPipeAt
  split
  · rfl
  · unfold UsbHandles.withHandle
    cases s.selected[handle]? with
    | none => rfl
    | some selected =>
      dsimp only [UsbHandles.withInterface]
      cases stack.findInterfaceEL true selected with
      | none => rfl
      | some intfEL =>
        dsimp only
        cases intfEL.findAltInterfaceEL false altSettingNumber with
        | none => rfl
        | some altfEL =>
          dsimp only
          cases altfEL.findPipeEL true pipeIndex <;> rfl

theorem handles_findPipeAt (stack : UsbStack) (s : UsbHandles) (handle : ℕ)
    (altSettingNumber pipeIndex : UInt8) :
    (s.findPipeAt stack handle altSettingNumber pipeIndex).handles = s := by
  unfold UsbHandles.findPipeAt
  split
  · rfl
  · unfold UsbHandles.withHandle
    cases s.selected[handle]? with
    | none => rfl
    | some selected =>
      dsimp only [UsbHandles.withInterface]
      cases stack.findInterfaceEL true selected <;> rfl

/-- The pipes that can be had of an alternate setting. -/
def InterfaceEL.pipesOf (intfEL : InterfaceEL) (altSettingNumber : UInt8) : List PipeEL :=
  if altSettingNumber ≤ 0x7F then
    match intfEL.findAltInterfaceEL false altSettingNumber with
    | none => []
    | some altfEL => altfEL.pipeList.take 32
  else []

/-- **The pipe under an index.** -/
theorem findPipeAt_ok_iff (hs : s.selected[handle]? = some selected)
    (hintf : stack.findInterfaceEL true selected = some intfEL)
    (hrep : intfEL.Represents (grouping gs)) :
    (s.findPipeAt stack handle altSettingNumber pipeIndex).result = .ok pipeEL ↔
      (intfEL.pipesOf altSettingNumber)[pipeIndex.toNat]? = some pipeEL := by
  unfold UsbHandles.findPipeAt InterfaceEL.pipesOf
  by_cases halt : altSettingNumber ≤ 0x7F
  · have hindex : altSettingNumber > 0x7F ∨ pipeIndex > 0x1F ↔ ¬pipeIndex.toNat < 32 := by
      rw [or_iff_right (UInt8.not_lt.mpr halt), gt_iff_lt, UInt8.lt_iff_toNat_lt, Nat.not_lt]
      exact Iff.rfl
    rw [if_pos halt]
    by_cases hlimit : pipeIndex.toNat < 32
    · rw [if_neg (mt hindex.mp (not_not.mpr hlimit)), UsbHandles.withHandle, hs]
      dsimp only [UsbHandles.withInterface]
      rw [hintf]
      dsimp only
      cases hfound : intfEL.findAltInterfaceEL false altSettingNumber with
      | none => simp
      | some altfEL =>
        have hpipes := (hrep.pipes altfEL (Keyed.mem_of_find hfound).1).pipes
        have hpipe : altfEL.findPipeEL true pipeIndex = altfEL.pipeList[pipeIndex.toNat]? :=
          hpipes.find_index pipeIndex
        dsimp only
        rw [hpipe, List.getElem?_take_of_lt hlimit]
        cases altfEL.pipeList[pipeIndex.toNat]? <;> simp
    · rw [if_pos (hindex.mpr hlimit)]
      have hnone : (match intfEL.findAltInterfaceEL false altSettingNumber with
          | none => []
          | some altfEL => altfEL.pipeList.take 32)[pipeIndex.toNat]? = none := by
        cases intfEL.findAltInterfaceEL false altSettingNumber with
        | none => rfl
        | some altfEL => exact List.getElem?_take_eq_none (Nat.not_lt.mp hlimit)
      rw [hnone]
      simp
  · rw [if_neg halt, if_pos (.inl (UInt8.not_le.mp halt))]
    simp

/-- They are the pipes of the alternate setting with this number. -/
theorem map_id_pipesOf (hrep : intfEL.Represents (grouping gs)) :
    (intfEL.pipesOf altSettingNumber).map PipeEL.id =
      if altSettingNumber ≤ 0x7F then
        ((grouping gs).addresses intfEL.id altSettingNumber).take 32
      else [] := by
  unfold InterfaceEL.pipesOf
  split
  · cases hfound : intfEL.findAltInterfaceEL false altSettingNumber with
    | none =>
      have hnew : altSettingNumber ∉ (grouping gs).settings intfEL.id := by
        rw [← hrep.alts.isSome_find]
        exact Option.not_isSome_iff_eq_none.mpr hfound
      rw [(grouping_valid gs).addresses_empty _ _ hnew]
      rfl
    | some altfEL =>
      obtain ⟨hmem, rfl⟩ := Keyed.mem_of_find hfound
      dsimp only
      rw [List.map_take, (hrep.pipes altfEL hmem).pipes.ids]
      rfl
  · rfl

theorem pipe_of_mem_pipesOf (hrep : intfEL.Represents (grouping gs))
    (hpoints : intfEL.Points mem gs) (h : pipeEL ∈ intfEL.pipesOf altSettingNumber) :
    pipeEL.Points mem gs intfEL.id altSettingNumber ∧
      (pipeEL.superSpeedCompanionDescriptor.isSome = true ↔
        (grouping gs).companions intfEL.id altSettingNumber pipeEL.id) := by
  unfold InterfaceEL.pipesOf at h
  split at h
  · split at h
    · cases h
    next altfEL hfound =>
      obtain ⟨hmem, rfl⟩ := Keyed.mem_of_find hfound
      have hpipe := List.mem_of_mem_take h
      exact ⟨(hpoints altfEL hmem).pipes pipeEL hpipe,
        (hrep.pipes altfEL hmem).companions pipeEL hpipe⟩
  · cases h

/-! ### The loops -/

theorem toNat_iterate {k : ℕ} (hk : k < 256) :
    ((fun i : UInt8 => i + 1)^[k] 0).toNat = k := by
  have hiterate (k : ℕ) : (fun i : UInt8 => i + 1)^[k] 0 = UInt8.ofNat k := by
    induction k with
    | zero => rfl
    | succ k ih =>
      rw [Function.iterate_succ_apply', ih]
      exact (UInt8.ofNat_add k 1).symm
  rw [hiterate]
  exact UInt8.toNat_ofNat_of_lt' hk

theorem length_pipesOf (altSettingNumber : UInt8) :
    (intfEL.pipesOf altSettingNumber).length ≤ 32 := by
  unfold InterfaceEL.pipesOf
  split
  · split
    · exact Nat.zero_le _
    · exact List.length_take_le ..
  · exact Nat.zero_le _

/-- What an application learns of a pipe. -/
theorem describes_pipe (hpoints : pipeEL.Points mem gs number altSettingNumber)
    (hcompanion : pipeEL.superSpeedCompanionDescriptor.isSome = true ↔
      (grouping gs).companions number altSettingNumber pipeEL.id) :
    ListedPipe.Describes gs number altSettingNumber pipeEL.id
      { pipe := winUsbPipeInformationAt mem pipeEL.descriptor
        pipeEx := .ok (pipeInformationAt mem pipeEL.descriptor
          pipeEL.superSpeedCompanionDescriptor)
        companion := .ok
          (pipeEL.superSpeedCompanionDescriptor.map (companionDescriptorAt mem)) } := by
  obtain ⟨d, hd, hlies⟩ := hpoints.endpoint
  refine ⟨⟨d, _, _, hd, rfl, rfl, ?_, rfl⟩, fun companion h => ?_⟩
  · have hprojection := isProjection_pipeInformationAt mem pipeEL.descriptor
      pipeEL.superSpeedCompanionDescriptor
    rw [hlies.endpointDescriptorAt_eq (of_endpointDescriptor hd).1] at hprojection
    rw [Option.map_map]
    exact hprojection
  · obtain rfl := Except.ok.inj h
    refine ⟨by rw [Option.isSome_map, hcompanion], fun c hc => ?_⟩
    obtain ⟨offset, hoffset, rfl⟩ := Option.map_eq_some_iff.mp hc
    obtain ⟨e, he, hlies⟩ := hpoints.companion offset hoffset
    refine ⟨e, he, ?_⟩
    obtain ⟨group, -, before, endpoint, between, after, -, -, -, hcomp, -⟩ := he
    exact hlies.companionDescriptorAt_eq hcomp

theorem listPipe_of_error {error : UsbError} {index : UInt8}
    (h : (s.findPipeAt stack handle altSettingNumber index).result = .error error) :
    listPipe mem stack handle altSettingNumber index s = some (none, s) := by
  have hhandles := handles_findPipeAt stack s handle altSettingNumber index
  simp only [listPipe, UsbHandles.queryPipe, HandleResult.toLoop, h, Except.map, hhandles]

theorem listPipe_of_ok {index : UInt8}
    (h : (s.findPipeAt stack handle altSettingNumber index).result = .ok pipeEL) :
    listPipe mem stack handle altSettingNumber index s =
      some (some
        { pipe := winUsbPipeInformationAt mem pipeEL.descriptor
          pipeEx := .ok (pipeInformationAt mem pipeEL.descriptor
            pipeEL.superSpeedCompanionDescriptor)
          companion := .ok
            (pipeEL.superSpeedCompanionDescriptor.map (companionDescriptorAt mem)) }, s) := by
  have hhandles := handles_findPipeAt stack s handle altSettingNumber index
  simp only [listPipe, UsbHandles.queryPipe, HandleResult.toLoop, h, Except.map, hhandles,
    queryPipeEx_eq, UsbHandles.getSuperSpeedPipeCompanionDescriptor, Option.map_some]

/-- **The loop over the pipes** of an alternate setting. -/
theorem listPipes_describes (hs : s.selected[handle]? = some selected)
    (hintf : stack.findInterfaceEL true selected = some intfEL)
    (hrep : intfEL.Represents (grouping gs)) (hpoints : intfEL.Points mem gs) {calls : ℕ}
    (hcalls : 32 < calls) :
    ∃ pipes, listPipes mem stack handle calls altSettingNumber s = some (pipes, s) ∧
      List.Forall₂ (fun pipe address => pipe.Describes gs intfEL.id altSettingNumber address) pipes
        (if altSettingNumber ≤ 0x7F then
          ((grouping gs).addresses intfEL.id altSettingNumber).take 32
        else []) := by
  have hlength : (intfEL.pipesOf altSettingNumber).length ≤ 32 := length_pipesOf altSettingNumber
  have hpipe {k : ℕ} (hk : k ≤ 32) (pipeEL : PipeEL) :
      (s.findPipeAt stack handle altSettingNumber ((fun i : UInt8 => i + 1)^[k] 0)).result =
        .ok pipeEL ↔ (intfEL.pipesOf altSettingNumber)[k]? = some pipeEL := by
    rw [findPipeAt_ok_iff hs hintf hrep, toNat_iterate (by omega)]
  have hall : ∃ pipes s', listPipes mem stack handle calls altSettingNumber s = some (pipes, s') ∧
      List.Forall₂ (fun (pipe : ListedPipe) (pipeEL : PipeEL) =>
          pipe.Describes gs intfEL.id altSettingNumber pipeEL.id) pipes
        (intfEL.pipesOf altSettingNumber) ∧ s' = s := by
    refine IndexLoop.run_eq (I := (· = s)) ?_ ?_ (Nat.lt_of_le_of_lt hlength hcalls) rfl
    · intro k hk s' hs'
      rw [hs']
      have hfound := (hpipe (by omega) _).mpr (List.getElem?_eq_getElem hk)
      obtain ⟨hpipePoints, hcompanion⟩ :=
        pipe_of_mem_pipesOf hrep hpoints (List.getElem_mem hk)
      exact ⟨_, _, listPipe_of_ok hfound, describes_pipe hpipePoints hcompanion, rfl⟩
    · intro s' hs'
      rw [hs']
      cases hfound : (s.findPipeAt stack handle altSettingNumber
          ((fun i : UInt8 => i + 1)^[(intfEL.pipesOf altSettingNumber).length] 0)).result with
      | error error => exact ⟨_, listPipe_of_error hfound, rfl⟩
      | ok pipeEL =>
        have hget := (hpipe hlength pipeEL).mp hfound
        rw [List.getElem?_eq_none (Nat.le_refl _)] at hget
        cases hget
  obtain ⟨pipes, s', hrun, hall, rfl⟩ := hall
  refine ⟨pipes, hrun, ?_⟩
  rw [← map_id_pipesOf hrep, List.forall₂_map_right_iff]
  exact hall

theorem settings_take_length (hrep : intfEL.Represents (grouping gs)) :
    (intfEL.altInterfaceList.take 128).map AltInterfaceEL.id =
      ((grouping gs).settings intfEL.id).take 128 := by
  rw [List.map_take, hrep.alts.ids]

/-- The alternate setting under an index. -/
theorem queryInterfaceSettings_eq (hs : s.selected[handle]? = some selected)
    (hintf : stack.findInterfaceEL true selected = some intfEL)
    (hrep : intfEL.Represents (grouping gs)) {k : ℕ} (hk : k ≤ 128) :
    ∃ result, s.queryInterfaceSettings stack handle ((fun i : UInt8 => i + 1)^[k] 0) =
        { handles := s, result } ∧
      ∀ offset, result = .ok offset ↔
        (intfEL.altInterfaceList.take 128)[k]?.map AltInterfaceEL.descriptor = some offset := by
  have hindex := toNat_iterate (k := k) (by omega)
  have hlimit : (fun i : UInt8 => i + 1)^[k] 0 > 0x7F ↔ ¬k < 128 := by
    rw [gt_iff_lt, UInt8.lt_iff_toNat_lt, hindex, Nat.not_lt]
    exact Iff.rfl
  unfold UsbHandles.queryInterfaceSettings
  by_cases hlt : k < 128
  · rw [if_neg (mt hlimit.mp (not_not.mpr hlt)), UsbHandles.withHandle, hs]
    dsimp only [UsbHandles.withInterface]
    rw [hintf]
    dsimp only
    have hfind : intfEL.findAltInterfaceEL true ((fun i : UInt8 => i + 1)^[k] 0) =
        intfEL.altInterfaceList[k]? :=
      (hrep.alts.find_index _).trans (by rw [hindex])
    refine ⟨_, rfl, fun offset => ?_⟩
    rw [hfind, List.getElem?_take_of_lt hlt]
    cases intfEL.altInterfaceList[k]? <;> simp
  · rw [if_pos (hlimit.mpr hlt)]
    refine ⟨_, rfl, fun offset => ?_⟩
    rw [List.getElem?_take_eq_none (Nat.not_lt.mp hlt)]
    simp

/-- **The loop over the alternate settings** of the selected interface. -/
theorem listSettings_describes {ds : List Descriptor}
    (hs : s.selected[handle]? = some selected)
    (hintf : stack.findInterfaceEL true selected = some intfEL)
    (hrep : intfEL.Represents (grouping (groups ds))) (hpoints : intfEL.Points mem (groups ds))
    {calls : ℕ} (hcalls : 128 < calls) :
    ∃ listed, listSettings mem stack handle calls s = some (listed, s) ∧
      ListedInterface.Describes (groups ds) intfEL.id listed := by
  have hlength : (intfEL.altInterfaceList.take 128).length ≤ 128 := List.length_take_le ..
  have hall : ∃ listed s', listSettings mem stack handle calls s = some (listed, s') ∧
      List.Forall₂ (fun (setting : ListedSetting) (altfEL : AltInterfaceEL) =>
          setting.Describes (groups ds) intfEL.id altfEL.id) listed
        (intfEL.altInterfaceList.take 128) ∧ s' = s := by
    refine IndexLoop.run_eq (I := (· = s)) ?_ ?_ (Nat.lt_of_le_of_lt hlength hcalls) rfl
    · intro k hk s' hs'
      rw [hs']
      obtain ⟨result, hquery, hresult⟩ := queryInterfaceSettings_eq hs hintf hrep (k := k)
        (by omega)
      obtain rfl := (hresult _).mpr (by rw [List.getElem?_eq_getElem hk]; rfl)
      have hmem := List.mem_of_mem_take (List.getElem_mem hk)
      obtain ⟨d, hd, hlies⟩ := (hpoints _ hmem).interface
      obtain ⟨hi, -, halternate⟩ := of_interfaceDescriptor hd
      have hcalls' : 32 < calls := by omega
      obtain ⟨pipes, hpipes, hdescribes⟩ :
          ∃ pipes, listPipes mem stack handle calls (intfEL.altInterfaceList.take 128)[k].id s =
            some (pipes, s) ∧ _ :=
        listPipes_describes hs hintf hrep hpoints hcalls'
      refine ⟨{ descriptor := interfaceDescriptorAt mem _, pipes }, s, ?_,
        ⟨⟨d, hd, hlies.interfaceDescriptorAt_eq hi⟩, hdescribes⟩, rfl⟩
      have hnumber : (interfaceDescriptorAt mem
          (intfEL.altInterfaceList.take 128)[k].descriptor).bAlternateSetting =
            (intfEL.altInterfaceList.take 128)[k].id :=
        (hlies.standsIn.bAlternateSetting hi).trans halternate
      simp only [listSetting, hquery, HandleResult.toLoop, hnumber, hpipes, Option.map_some]
    · intro s' hs'
      rw [hs']
      obtain ⟨result, hquery, hresult⟩ := queryInterfaceSettings_eq hs hintf hrep hlength
      cases result with
      | error error =>
        refine ⟨s, ?_, rfl⟩
        simp only [listSetting, hquery, HandleResult.toLoop]
      | ok offset =>
        have hget := (hresult offset).mp rfl
        rw [List.getElem?_eq_none (Nat.le_refl _)] at hget
        cases hget
  obtain ⟨listed, s', hrun, hall, rfl⟩ := hall
  refine ⟨listed, hrun, ?_⟩
  rw [ListedInterface.Describes, ← settings_take_length hrep, List.forall₂_map_right_iff]
  exact hall

/-- The interface under an index gets selected. -/
theorem listInterface_of_lt (hvalid : handle < s.selected.length) (hrep : stack.Represents g)
    {k : ℕ} (hk : k < 128) {calls : ℕ} :
    listInterface mem stack handle calls ((fun i : UInt8 => i + 1)^[k] 0) s =
      match stack.interfaceList[k]? with
      | none => some (none, s)
      | some intfEL =>
        (listSettings mem stack handle calls
          { s with selected := s.selected.set handle intfEL.index }).map fun next =>
            (some next.1, next.2) := by
  have hindex := toNat_iterate (k := k) (by omega)
  have hlimit : ¬(fun i : UInt8 => i + 1)^[k] 0 > 0x7F := by
    rw [gt_iff_lt, UInt8.lt_iff_toNat_lt, hindex]
    exact Nat.not_lt.mpr (Nat.le_of_lt_succ hk)
  have hfind : stack.findInterfaceEL true ((fun i : UInt8 => i + 1)^[k] 0) =
      stack.interfaceList[k]? :=
    (hrep.interfaces.find_index _).trans (by rw [hindex])
  rw [listInterface, UsbHandles.selectInterface, if_neg hlimit, UsbHandles.withHandle,
    List.getElem?_eq_getElem hvalid]
  dsimp only [UsbHandles.withInterface]
  rw [hfind]
  cases stack.interfaceList[k]? <;> rfl

theorem listInterface_of_ge {k : ℕ} (hk : k = 128) {calls : ℕ} :
    listInterface mem stack handle calls ((fun i : UInt8 => i + 1)^[k] 0) s =
      some (none, s) := by
  have hlimit : (fun i : UInt8 => i + 1)^[k] 0 > 0x7F := by
    rw [gt_iff_lt, UInt8.lt_iff_toNat_lt, toNat_iterate (k := k) (by omega), hk]
    decide
  rw [listInterface, UsbHandles.selectInterface, if_pos hlimit]
  rfl

end Calls

/-! ### The whole device -/

/-- **The loops of an application list the configuration.**  However often the handle has been
used, where the walk over a well-formed configuration descriptor has ended and nobody else
uses the handle, the loops end; they come to every interface once, in the order of the
configuration, and of each to the first 128 alternate settings, with their first interface
descriptors; of each of these up to `0x7F` to the first 32 endpoint addresses, with the first
endpoint descriptor of each, and with a companion where the configuration has one. -/
theorem listInterfaces_describes (config : ConfigDescriptor) (mem : Memory)
    (hext : Extends config.bytes mem) :
    ∃ steps, (walk mem (fun _ => {}) steps).frame = .done ∧
      ∀ (s : UsbHandles) (handle calls : ℕ), handle < s.selected.length → 128 < calls →
        ∃ listed s', listInterfaces mem (walk mem (fun _ => {}) steps).device.usbStack handle
            calls s = some (listed, s') ∧
          List.Forall₂
            (fun (interface : ListedInterface) number =>
              interface.Describes (groups config.descriptors) number)
            listed (grouping (groups config.descriptors)).numbers := by
  obtain ⟨steps, hdone, hrep, hpoints⟩ := walk_points hext
  refine ⟨steps, hdone, fun s handle calls hvalid hcalls => ?_⟩
  generalize (walk mem (fun _ => {}) steps).device.usbStack = stack at hrep hpoints ⊢
  have hlength : stack.interfaceList.length ≤ 128 := by
    rw [hrep.interfaces.length_eq]
    exact config.interfaces
  have hall : ∃ listed s', listInterfaces mem stack handle calls s = some (listed, s') ∧
      List.Forall₂ (fun (interface : ListedInterface) (intfEL : InterfaceEL) =>
          interface.Describes (groups config.descriptors) intfEL.id) listed
        stack.interfaceList ∧ handle < s'.selected.length := by
    refine IndexLoop.run_eq (I := fun s : UsbHandles => handle < s.selected.length) ?_ ?_
      (Nat.lt_of_le_of_lt hlength hcalls) hvalid
    · intro k hk s' hs'
      have hmem := List.getElem_mem hk
      have hintf : stack.findInterfaceEL true stack.interfaceList[k].index =
          some stack.interfaceList[k] :=
        hrep.interfaces.find_index_of_mem hmem
      let next : UsbHandles :=
        { s' with selected := s'.selected.set handle stack.interfaceList[k].index }
      obtain ⟨listed, hlisted, hdescribes⟩ := listSettings_describes (s := next)
        (List.getElem?_set_self hs') hintf (hrep.alts _ hmem) (hpoints _ hmem) hcalls
      refine ⟨listed, next, ?_, hdescribes, ?_⟩
      · rw [listInterface_of_lt hs' hrep (by omega), List.getElem?_eq_getElem hk]
        change (listSettings mem stack handle calls next).map _ = _
        rw [hlisted]
        rfl
      · rwa [List.length_set]
    · intro s' hs'
      refine ⟨s', ?_, hs'⟩
      rcases Nat.lt_or_eq_of_le hlength with hlt | heq
      · rw [listInterface_of_lt hs' hrep hlt, List.getElem?_eq_none (Nat.le_refl _)]
      · exact listInterface_of_ge heq
  obtain ⟨listed, s', hrun, hall, -⟩ := hall
  refine ⟨listed, s', hrun, ?_⟩
  rw [← hrep.interfaces.ids, List.forall₂_map_right_iff]
  exact hall

/-- The handle of a new device, with a SuperSpeed endpoint. -/
theorem listInterfaces_describes_superSpeedInterface :
    ∃ steps, (walk (zeroExtend superSpeedInterface.bytes) (fun _ => {}) steps).frame = .done ∧
      ∃ listed s', listInterfaces (zeroExtend superSpeedInterface.bytes)
          (walk (zeroExtend superSpeedInterface.bytes) (fun _ => {}) steps).device.usbStack 0 129
          { sharedInterfaces := fun _ => clearedSetting } = some (listed, s') ∧
        List.Forall₂
          (fun (interface : ListedInterface) number =>
            interface.Describes (groups superSpeedInterface.descriptors) number)
          listed [0] := by
  obtain ⟨steps, hdone, hlist⟩ := listInterfaces_describes superSpeedInterface
    (zeroExtend superSpeedInterface.bytes) (extends_zeroExtend superSpeedInterface.bytes)
  exact ⟨steps, hdone, hlist { sharedInterfaces := fun _ => clearedSetting } 0 129 (by decide)
    (by decide)⟩

end LibusbK
