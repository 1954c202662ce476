import LibusbK.Dll.DescriptorStack

/-!
# What the stack points to

The elements of the stack point into the configuration descriptor.  An alternate setting element
points to the first interface descriptor of its interface and number, a pipe element to the
first endpoint descriptor of its address in that alternate setting, and where it has a companion,
to a companion descriptor that belongs to such an endpoint.

## Main definitions

* `interfaceDescriptor`, `endpointDescriptor`, `IsCompanion` — the descriptors of a grouping.
* `UsbStack.Points` — the elements of a stack point to them.

## Main results

* `Walker.Points.moves` — one call of `u_Desc_Next`.
* `walk_points` — the stack of a well-formed configuration descriptor.
-/

namespace LibusbK

/-! ### The descriptors of a grouping -/

/-- The first interface descriptor of an alternate setting. -/
def interfaceDescriptor (gs : List InterfaceGroup) (number alternate : UInt8) :
    Option Descriptor :=
  (groupsOfAlt gs number alternate).head?.map InterfaceGroup.descriptor

/-- The endpoint descriptors of an alternate setting. -/
def endpointDescriptors (gs : List InterfaceGroup) (number alternate : UInt8) :
    List Descriptor :=
  (groupsOfAlt gs number alternate).flatMap fun group =>
    group.following.filter Descriptor.isEndpoint

/-- The first endpoint descriptor of an address. -/
def endpointDescriptor (gs : List InterfaceGroup) (number alternate address : UInt8) :
    Option Descriptor :=
  Keyed.find Descriptor.bEndpointAddress address (endpointDescriptors gs number alternate)

/-- A companion descriptor follows an endpoint descriptor of `address` before the next endpoint
descriptor. -/
def IsCompanion (ds : List Descriptor) (address : UInt8) (companion : Descriptor) : Prop :=
  ∃ before endpoint between after,
    ds = before ++ endpoint :: between ++ companion :: after ∧
      endpoint.isEndpoint = true ∧ endpoint.bEndpointAddress = address ∧
      companion.isCompanion = true ∧ ∀ d ∈ between, d.isEndpoint = false

/-- A companion descriptor of an endpoint of an alternate setting. -/
def CompanionAt (gs : List InterfaceGroup) (number alternate address : UInt8)
    (companion : Descriptor) : Prop :=
  ∃ group ∈ groupsOfAlt gs number alternate, IsCompanion group.following address companion

/-- The bytes of a descriptor lie in memory at an offset. -/
def Descriptor.LiesAt (mem : Memory) (offset : ℕ) (d : Descriptor) : Prop :=
  Extends d.bytes fun j => mem (offset + j)

theorem Descriptor.LiesAt.standsIn {mem : Memory} {offset : ℕ} {d : Descriptor}
    (h : d.LiesAt mem offset) : d.StandsIn mem offset := standsIn_of_extends h

theorem ConfigDescriptor.liesAt {mem : Memory} {config : ConfigDescriptor}
    {pre post : List Descriptor} {d : Descriptor} (hext : Extends config.bytes mem)
    (hds : config.descriptors = pre ++ d :: post) :
    d.LiesAt mem (nthOffset mem (pre.length + 1)) := by
  have hbytes : config.bytes =
      (config.header.bytes ++ descriptorBytes pre) ++ d.bytes ++ descriptorBytes post := by
    simp [ConfigDescriptor.bytes, hds, descriptorBytes]
  rw [config.nthOffset_eq hext hds]
  rw [hbytes] at hext
  unfold Descriptor.LiesAt
  simpa [ConfigDescriptor.offsetAfter] using hext.middle

/-! ### Elements that point to them -/

/-- A pipe element points to the descriptors of its endpoint. -/
structure PipeEL.Points (mem : Memory) (gs : List InterfaceGroup) (number alternate : UInt8)
    (pipe : PipeEL) : Prop where
  endpoint : ∃ d, endpointDescriptor gs number alternate pipe.id = some d ∧
    d.LiesAt mem pipe.descriptor
  companion : ∀ offset, pipe.superSpeedCompanionDescriptor = some offset →
    ∃ d, CompanionAt gs number alternate pipe.id d ∧ d.LiesAt mem offset

/-- An alternate setting element and its pipes point to their descriptors. -/
structure AltInterfaceEL.Points (mem : Memory) (gs : List InterfaceGroup) (number : UInt8)
    (alt : AltInterfaceEL) : Prop where
  interface : ∃ d, interfaceDescriptor gs number alt.id = some d ∧ d.LiesAt mem alt.descriptor
  pipes : ∀ pipe ∈ alt.pipeList, pipe.Points mem gs number alt.id

/-- The elements of an interface do. -/
def InterfaceEL.Points (mem : Memory) (gs : List InterfaceGroup) (el : InterfaceEL) : Prop :=
  ∀ alt ∈ el.altInterfaceList, alt.Points mem gs el.id

/-- The elements of a stack do. -/
def UsbStack.Points (mem : Memory) (gs : List InterfaceGroup) (stack : UsbStack) : Prop :=
  ∀ el ∈ stack.interfaceList, el.Points mem gs

/-! ### More descriptors -/

/-- The descriptors of `gs` are those of `gs'`, which may have more. -/
structure Grows (gs gs' : List InterfaceGroup) : Prop where
  interface : ∀ {number alternate d}, interfaceDescriptor gs number alternate = some d →
    interfaceDescriptor gs' number alternate = some d
  endpoint : ∀ {number alternate address d},
    endpointDescriptor gs number alternate address = some d →
      endpointDescriptor gs' number alternate address = some d
  companion : ∀ {number alternate address d}, CompanionAt gs number alternate address d →
    CompanionAt gs' number alternate address d

section Grows

variable {gs gs' : List InterfaceGroup} {mem : Memory} {number alternate address : UInt8}
  {ds : List Descriptor} {d i : Descriptor}

theorem PipeEL.Points.grows {pipe : PipeEL} (h : pipe.Points mem gs number alternate)
    (hg : Grows gs gs') : pipe.Points mem gs' number alternate := by
  obtain ⟨d, hd, hlies⟩ := h.endpoint
  refine ⟨⟨d, hg.endpoint hd, hlies⟩, fun offset hoffset => ?_⟩
  obtain ⟨c, hc, hlies⟩ := h.companion offset hoffset
  exact ⟨c, hg.companion hc, hlies⟩

theorem AltInterfaceEL.Points.grows {alt : AltInterfaceEL} (h : alt.Points mem gs number)
    (hg : Grows gs gs') : alt.Points mem gs' number := by
  obtain ⟨d, hd, hlies⟩ := h.interface
  exact ⟨⟨d, hg.interface hd, hlies⟩, fun pipe hpipe => (h.pipes pipe hpipe).grows hg⟩

theorem InterfaceEL.Points.grows {el : InterfaceEL} (h : el.Points mem gs) (hg : Grows gs gs') :
    el.Points mem gs' := fun alt halt => (h alt halt).grows hg

theorem UsbStack.Points.grows {stack : UsbStack} (h : stack.Points mem gs) (hg : Grows gs gs') :
    stack.Points mem gs' := fun el hel => (h el hel).grows hg

/-- One more group. -/
theorem endpointDescriptors_concat (gs : List InterfaceGroup) (group : InterfaceGroup)
    (number alternate : UInt8) :
    endpointDescriptors (gs ++ [group]) number alternate =
      endpointDescriptors gs number alternate ++
        if group.descriptor.bInterfaceNumber = number ∧
            group.descriptor.bAlternateSetting = alternate then
          group.following.filter Descriptor.isEndpoint
        else [] := by
  rw [endpointDescriptors, groupsOfAlt_concat, List.flatMap_append]
  split
  · rw [List.flatMap_singleton]
    rfl
  · rfl

theorem find_append_of_some {l l' : List Descriptor}
    (h : Keyed.find Descriptor.bEndpointAddress address l = some d) :
    Keyed.find Descriptor.bEndpointAddress address (l ++ l') = some d := by
  rw [Keyed.find, List.find?_append, ← Keyed.find, h, Option.some_or]

theorem grows_concat (gs : List InterfaceGroup) (group : InterfaceGroup) :
    Grows gs (gs ++ [group]) where
  interface := by
    intro number alternate d h
    rw [interfaceDescriptor, groupsOfAlt_concat]
    obtain ⟨first, hfirst, rfl⟩ := Option.map_eq_some_iff.mp h
    rw [List.head?_append, hfirst]
    rfl
  endpoint := by
    intro number alternate address d h
    rw [endpointDescriptor, endpointDescriptors_concat]
    exact find_append_of_some h
  companion := by
    rintro number alternate address d ⟨first, hfirst, h⟩
    refine ⟨first, ?_, h⟩
    rw [groupsOfAlt_concat]
    exact List.mem_append_left _ hfirst

theorem IsCompanion.concat (h : IsCompanion ds address d) (e : Descriptor) :
    IsCompanion (ds ++ [e]) address d := by
  obtain ⟨before, endpoint, between, after, rfl, h⟩ := h
  exact ⟨before, endpoint, between, after ++ [e], by simp, h⟩

/-- One more descriptor in the last group. -/
theorem endpointDescriptors_following (gs : List InterfaceGroup) (i : Descriptor)
    (ds : List Descriptor) (d : Descriptor) (number alternate : UInt8) :
    endpointDescriptors (gs ++ [{ descriptor := i, following := ds ++ [d] }]) number alternate =
      endpointDescriptors (gs ++ [{ descriptor := i, following := ds }]) number alternate ++
        if (i.bInterfaceNumber = number ∧ i.bAlternateSetting = alternate) ∧
          d.isEndpoint = true then [d] else [] := by
  rw [endpointDescriptors_concat, endpointDescriptors_concat]
  by_cases h : i.bInterfaceNumber = number ∧ i.bAlternateSetting = alternate
  · cases he : d.isEndpoint <;> simp [h, he]
  · simp [h]

theorem grows_following (gs : List InterfaceGroup) (i : Descriptor) (ds : List Descriptor)
    (d : Descriptor) :
    Grows (gs ++ [{ descriptor := i, following := ds }])
      (gs ++ [{ descriptor := i, following := ds ++ [d] }]) where
  interface := by
    intro number alternate first h
    rw [← h, interfaceDescriptor, interfaceDescriptor, groupsOfAlt_concat, groupsOfAlt_concat,
      List.head?_append, List.head?_append]
    cases (groupsOfAlt gs number alternate).head? with
    | some group => rfl
    | none =>
      dsimp only
      split <;> rfl
  endpoint := by
    intro number alternate address first h
    rw [endpointDescriptor, endpointDescriptors_following]
    exact find_append_of_some h
  companion := by
    rintro number alternate address companion ⟨group, hgroup, h⟩
    rw [groupsOfAlt_concat] at hgroup
    rcases List.mem_append.mp hgroup with hold | hlast
    · refine ⟨group, ?_, h⟩
      rw [groupsOfAlt_concat]
      exact List.mem_append_left _ hold
    · dsimp only at hlast
      split at hlast
      next hmatch =>
        obtain rfl := List.mem_singleton.mp hlast
        refine ⟨{ descriptor := i, following := ds ++ [d] }, ?_, h.concat d⟩
        rw [groupsOfAlt_concat, if_pos hmatch]
        exact List.mem_append_right _ (List.mem_singleton_self _)
      · cases hlast

end Grows

/-! ### The writes of the parser -/

section Writes

variable {gs : List InterfaceGroup} {mem : Memory} {stack : UsbStack} {device : DevHandle}
  {number alternate address : UInt8} {ds : List Descriptor} {d i : Descriptor} {offset : ℕ}

theorem UsbStack.Points.updateInterface (h : stack.Points mem gs)
    {f : InterfaceEL → InterfaceEL}
    (hf : ∀ el ∈ stack.interfaceList, el.id = number → el.Points mem gs → (f el).Points mem gs) :
    (stack.updateInterface number f).Points mem gs :=
  Keyed.forall_update h (fun _ _ hel => hel) hf

theorem UsbStack.Points.updateAlt (h : stack.Points mem gs)
    {f : AltInterfaceEL → AltInterfaceEL}
    (hf : ∀ alt : AltInterfaceEL, alt.id = alternate → alt.Points mem gs number →
      (f alt).Points mem gs number) :
    (stack.updateAlt number alternate f).Points mem gs := by
  refine h.updateInterface fun el _ hnumber hel => ?_
  refine Keyed.forall_update hel (fun _ _ halt => halt) fun alt _ halternate halt => ?_
  subst hnumber
  exact hf alt halternate halt

/-- A search among the pipes of a new alternate setting finds nothing. -/
theorem groupsOfAlt_eq_nil (h : alternate ∉ (grouping gs).settings number) :
    groupsOfAlt gs number alternate = [] := by
  refine List.filter_eq_nil_iff.mpr fun group hgroup halt => h ?_
  exact mem_settings.mpr ⟨group, hgroup, by simpa using halt⟩

/-- The first interface descriptor of an alternate setting. -/
theorem interfaceDescriptor_concat (h : groupsOfAlt gs number alternate = [])
    (hn : d.bInterfaceNumber = number) (ha : d.bAlternateSetting = alternate) :
    interfaceDescriptor (gs ++ [{ descriptor := d, following := ds }]) number alternate =
      some d := by
  rw [interfaceDescriptor, groupsOfAlt_concat, h, if_pos ⟨hn, ha⟩]
  rfl

/-- The addresses of an alternate setting are those of its endpoint descriptors. -/
theorem mem_addresses :
    address ∈ (grouping gs).addresses number alternate ↔
      address ∈ (endpointDescriptors gs number alternate).map Descriptor.bEndpointAddress := by
  rw [endpointDescriptors, List.map_flatMap]
  exact List.mem_eraseDups

/-- The first endpoint descriptor of an address. -/
theorem endpointDescriptor_following (he : d.isEndpoint = true)
    (hnew : d.bEndpointAddress ∉
      (grouping (gs ++ [{ descriptor := i, following := ds }])).addresses
        i.bInterfaceNumber i.bAlternateSetting) :
    endpointDescriptor (gs ++ [{ descriptor := i, following := ds ++ [d] }]) i.bInterfaceNumber
      i.bAlternateSetting d.bEndpointAddress = some d := by
  have hnone : Keyed.find Descriptor.bEndpointAddress d.bEndpointAddress
      (endpointDescriptors (gs ++ [{ descriptor := i, following := ds }]) i.bInterfaceNumber
        i.bAlternateSetting) = none := by
    rw [← Option.not_isSome_iff_eq_none, Keyed.isSome_find]
    exact fun hmem => hnew (mem_addresses.mpr hmem)
  rw [endpointDescriptor, endpointDescriptors_following, if_pos ⟨⟨rfl, rfl⟩, he⟩, Keyed.find,
    List.find?_append, ← Keyed.find, hnone, Option.none_or]
  simp

/-- A write of a companion. -/
theorem AltInterfaceEL.Points.setCompanion {alt : AltInterfaceEL}
    (h : alt.Points mem gs number) (hc : CompanionAt gs number alt.id address d)
    (hs : d.LiesAt mem offset) : (alt.setCompanion address offset).Points mem gs number := by
  refine ⟨h.interface, Keyed.forall_update h.pipes (fun _ _ hpipe => hpipe) ?_⟩
  rintro pipe hpipe rfl hpoints
  refine ⟨hpoints.endpoint, fun _ hoffset => ?_⟩
  cases hoffset
  exact ⟨d, hc, hs⟩

/-- An interface descriptor, in the loop of `u_Init_Config`. -/
theorem points_interface (hrep : device.usbStack.Represents (grouping gs))
    (h : device.usbStack.Points mem gs) (hs : d.LiesAt mem offset) (hi : d.isInterface = true) :
    (uInitConfigBody mem {} offset device).device.usbStack.Points mem
      (gs ++ [{ descriptor := d, following := [] }]) := by
  have hstands := hs.standsIn
  have ht : mem (offset + 1) = usbDescriptorTypeInterface := by
    rw [hstands.bDescriptorType]
    simpa [Descriptor.isInterface] using hi
  obtain ⟨found, hfound, hrep'⟩ :=
    hrep.obtainInterfaceEL (grouping_valid gs) d.bInterfaceNumber
  have hpoints : found.usbStack.Points mem (gs ++ [{ descriptor := d, following := [] }]) := by
    refine UsbStack.Points.grows ?_ (grows_concat gs _)
    rcases DevHandle.obtainInterfaceEL_cases hfound with ⟨-, rfl⟩ | ⟨-, -, rfl⟩
    · exact h
    · intro el hel
      rcases List.mem_append.mp hel with hold | hnew
      · exact h el hold
      · obtain rfl := List.mem_singleton.mp hnew
        exact fun _ halt => (List.not_mem_nil halt).elim
  simp only [uInitConfigBody, if_pos ht, uAddInterface, hstands.bInterfaceNumber hi,
    hstands.bAlternateSetting hi, hfound]
  split
  · exact hpoints
  next device' hobtain =>
    rcases DevHandle.obtainAltInterfaceEL_cases hobtain with ⟨-, rfl⟩ | ⟨hnone, -, rfl⟩
    · exact hpoints
    · have hn : d.bInterfaceNumber ∈
          ((grouping gs).addNumber d.bInterfaceNumber).numbers := mem_addNew.mpr (.inr rfl)
      have hempty : groupsOfAlt gs d.bInterfaceNumber d.bAlternateSetting = [] := by
        refine groupsOfAlt_eq_nil fun hmem => ?_
        have hsome := (hrep'.isSome_altInterfaceAt hn).mpr hmem
        rw [hnone] at hsome
        cases hsome
      refine hpoints.updateInterface fun el _ hid hel alt halt => ?_
      rcases List.mem_append.mp halt with hold | hnew
      · exact hel alt hold
      · obtain rfl := List.mem_singleton.mp hnew
        rw [InterfaceEL.id_appendAltInterfaceEL, hid]
        exact ⟨⟨d, interfaceDescriptor_concat hempty rfl rfl, hs⟩,
          fun _ hpipe => (List.not_mem_nil hpipe).elim⟩

/-- Any other descriptor, in the loop of `u_Add_Pipe`. -/
theorem points_following
    (hrep : device.usbStack.Represents
      (grouping (gs ++ [{ descriptor := i, following := ds }])))
    (h : device.usbStack.Points mem (gs ++ [{ descriptor := i, following := ds }]))
    (hs : d.LiesAt mem offset) :
    (uAddPipe mem {} offset device i.bInterfaceNumber i.bAlternateSetting
        (prevPipeOf ds)).device.usbStack.Points mem
      (gs ++ [{ descriptor := i, following := ds ++ [d] }]) := by
  have hstands := hs.standsIn
  have hpoints := h.grows (grows_following gs i ds d)
  unfold uAddPipe
  dsimp only
  split
  next ht =>
    have he : d.isEndpoint = true := by
      simpa [Descriptor.isEndpoint, ← hstands.bDescriptorType] using ht
    split
    · exact hpoints
    next device' hobtain =>
      rw [hstands.bEndpointAddress he] at hobtain
      rcases DevHandle.obtainPipeEL_cases hobtain with ⟨-, rfl⟩ | ⟨hnone, -, rfl⟩
      · exact hpoints
      · obtain ⟨hn, ha⟩ := mem_grouping_concat gs i ds
        have hnew : d.bEndpointAddress ∉
            (grouping (gs ++ [{ descriptor := i, following := ds }])).addresses
              i.bInterfaceNumber i.bAlternateSetting := by
          intro hmem
          have hsome := (hrep.isSome_pipeAt hn ha).mpr hmem
          rw [hnone] at hsome
          cases hsome
        refine hpoints.updateAlt fun alt hid halt => ⟨halt.interface, fun pipe hpipe => ?_⟩
        rcases List.mem_append.mp hpipe with hold | hnewPipe
        · exact halt.pipes pipe hold
        · obtain rfl := List.mem_singleton.mp hnewPipe
          rw [AltInterfaceEL.id_appendPipeEL, hid]
          exact ⟨⟨d, endpointDescriptor_following he hnew, hs⟩, by rintro _ ⟨⟩⟩
  · split
    next hne ht =>
      have hc : d.isCompanion = true := by
        simpa [Descriptor.isCompanion, ← hstands.bDescriptorType] using ht
      cases hprev : prevPipeOf ds with
      | none => exact hpoints
      | some address =>
        obtain ⟨before, endpoint, between, hds, he, haddress, hbetween⟩ :=
          exists_endpoint_of_prevPipeOf hprev
        refine hpoints.updateAlt fun alt hid halt => halt.setCompanion ?_ hs
        refine ⟨{ descriptor := i, following := ds ++ [d] }, ?_, ?_⟩
        · rw [groupsOfAlt_concat, if_pos ⟨rfl, hid.symm⟩]
          exact List.mem_append_right _ (List.mem_singleton_self _)
        · exact ⟨before, endpoint, between, [], by rw [hds], he, haddress, hc, hbetween⟩
    · exact hpoints

end Writes

/-! ### The walk -/

section Walk

variable {mem : Memory} {config : ConfigDescriptor} {w w' : Walker}

/-- The elements point to the descriptors visited. -/
def Walker.Points (mem : Memory) (config : ConfigDescriptor) (w : Walker) : Prop :=
  w.device.usbStack.Points mem (groups (config.descriptors.take w.visited))

/-- A descriptor that the loop of `u_Init_Config` passes over comes before the first interface
descriptor: the loop of `u_Add_Pipe` leaves no other. -/
theorem FrameAt.free_of_config {pre post : List Descriptor} {d : Descriptor}
    (h : FrameAt mem w pre (d :: post)) (hf : w.frame = .config) (hi : d.isInterface = false) :
    ∀ e ∈ pre, e.isInterface = false := by
  simp only [FrameAt, hf] at h
  rcases h with ⟨-, hnil⟩ | ⟨-, hfree | ⟨e, rest, heq, he⟩⟩
  · cases hnil
  · exact hfree
  · cases heq
    rw [hi] at he
    cases he

/-- The loop body at the next descriptor. -/
theorem Walker.Points.visit (hext : Extends config.bytes mem) (hfollows : w.Follows mem config)
    (h : w.Points mem config) (hd : w.frame ≠ .done)
    (hs : StandsAt mem (nthOffset mem (w.visited + 1)))
    (ht : w.frame = .config ∨
      mem (nthOffset mem (w.visited + 1) + 1) ≠ usbDescriptorTypeInterface) {reads : List ℕ} :
    Walker.Points mem config
      { desc := iteratorAt mem (nthOffset mem (w.visited + 1))
        device := (w.body mem (fun _ => {}) (nthOffset mem (w.visited + 1))).device
        frame := (w.body mem (fun _ => {}) (nthOffset mem (w.visited + 1))).frame
        visited := w.visited + 1
        reads := reads } := by
  obtain ⟨pre, post, hds, hv, hrep, hframe⟩ := hfollows
  unfold Walker.Points at h ⊢
  rw [hv] at hs ht h ⊢
  obtain ⟨d, post, rfl⟩ :=
    List.exists_cons_of_ne_nil ((config.standsAt_iff hext hds).mp hs)
  have hlies := config.liesAt hext hds
  have hpre : config.descriptors.take pre.length = pre := by rw [hds, List.take_left]
  have hnext : config.descriptors.take (pre.length + 1) = pre ++ [d] := by
    rw [hds, List.take_length_add_append]
    rfl
  rw [hpre] at h
  dsimp only
  rw [hnext]
  cases hf : w.frame with
  | config =>
    simp only [Walker.body, hf]
    cases hi : d.isInterface with
    | true =>
      rw [groups_append_interface pre hi (by simp)]
      exact points_interface hrep h hlies hi
    | false =>
      have hfree := hframe.free_of_config hf hi
      have hfree' : ∀ e ∈ pre ++ [d], e.isInterface = false :=
        List.forall_mem_append.mpr ⟨hfree, List.forall_mem_singleton.mpr hi⟩
      have hother : mem (nthOffset mem (pre.length + 1) + 1) ≠ usbDescriptorTypeInterface := by
        rw [hlies.standsIn.bDescriptorType]
        simpa [Descriptor.isInterface] using hi
      rw [uInitConfigBody, if_neg hother, groups_eq_nil hfree']
      rwa [groups_eq_nil hfree] at h
  | pipe number alternate prevPipe =>
    simp only [FrameAt, hf] at hframe
    simp only [Walker.body, hf]
    obtain ⟨before, i, following, rfl, hint, rfl, rfl, hfree, rfl⟩ := hframe.2
    have hi : d.isInterface = false := by
      have hother := ht.resolve_left (by rw [hf]; simp)
      rw [hlies.standsIn.bDescriptorType] at hother
      simpa [Descriptor.isInterface] using hother
    have hfree' : ∀ e ∈ following ++ [d], e.isInterface = false :=
      List.forall_mem_append.mpr ⟨hfree, List.forall_mem_singleton.mpr hi⟩
    rw [groups_append_interface before hint hfree] at hrep h
    rw [List.append_assoc, List.cons_append, groups_append_interface before hint hfree']
    exact points_following hrep h hlies
  | done => exact absurd hf hd

/-- **One call of `u_Desc_Next`.** -/
theorem Walker.Points.moves (hext : Extends config.bytes mem) (hfollows : w.Follows mem config)
    (h : w.Points mem config) (hm : w.Moves mem (fun _ => {}) w') : w'.Points mem config := by
  cases hm with
  | stop => exact h
  | ended => exact h
  | last => exact h
  | rewind => exact h
  | visit hd hw hs ht => exact h.visit hext hfollows hd hs ht

theorem follows_uInitConfig (hext : Extends config.bytes mem) :
    (uInitConfig mem {}).Follows mem config := by
  refine ⟨[], config.descriptors, rfl, rfl, ⟨Counted.empty _ _, by simp [uInitConfig]⟩, .inr ?_⟩
  refine ⟨(uInitConfig_onTheWay mem {}).resolve_left fun he => ?_, .inl (by simp)⟩
  have hs := (config.walked hext (List.nil_append _).symm).standsAt
  simp only [StandsAt, List.length_nil, nthOffset_zero, Int.ofNat_zero, Int.sub_zero] at hs
  exact absurd hs (Nat.not_le.mpr he)

theorem walk_follows_points (hext : Extends config.bytes mem) (calls : ℕ) :
    (walk mem (fun _ => {}) calls).Follows mem config ∧
      (walk mem (fun _ => {}) calls).Points mem config := by
  refine walk_invariant (P := fun w => w.Follows mem config ∧ w.Points mem config)
    ⟨follows_uInitConfig hext, fun _ hel => (List.not_mem_nil hel).elim⟩ (fun w w' h hm => ?_) calls
  exact ⟨h.1.moves hext hm, h.2.moves hext h.1 hm⟩

/-- **The stack of a well-formed configuration descriptor.**  Where allocations succeed, the walk
ends with a stack that stands for the grouping of the descriptors, and whose elements point to
those the grouping is of. -/
theorem walk_points (hext : Extends config.bytes mem) :
    ∃ calls, (walk mem (fun _ => {}) calls).frame = .done ∧
      (walk mem (fun _ => {}) calls).device.usbStack.Represents
        (grouping (groups config.descriptors)) ∧
      (walk mem (fun _ => {}) calls).device.usbStack.Points mem (groups config.descriptors) := by
  obtain ⟨calls, hdone⟩ := config.terminates hext fun _ => {}
  obtain ⟨⟨pre, post, hds, hv, hrep, hframe⟩, hpoints⟩ := walk_follows_points hext calls
  simp only [FrameAt, hdone] at hframe
  rw [hframe, List.append_nil] at hds
  refine ⟨calls, hdone, hds ▸ hrep, ?_⟩
  rwa [Walker.Points, hv, ← hds, List.take_length] at hpoints

end Walk

end LibusbK
