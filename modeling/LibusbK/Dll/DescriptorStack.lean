import LibusbK.Dll.DescriptorGroups
import LibusbK.Dll.DescriptorWalk

/-!
# The stack of a well-formed configuration descriptor

The walk over a well-formed configuration descriptor visits its descriptors one after
the other, and each time the stack stands for the grouping of those visited.

## Main definitions

* `ConfigDescriptor` — well-formed configuration descriptors.
* `Walker.Follows` — what the walk keeps.

## Main results

* `uInitConfig_represents_grouping` — the walk over a well-formed configuration
  descriptor ends, with a stack that stands for the grouping of its descriptors.
-/

namespace LibusbK

variable {pre ds : List Descriptor} {d i : Descriptor} {number alternate : UInt8}

/-! ### Well-formed configuration descriptors -/

/-- A well-formed configuration descriptor: its descriptors tile `wTotalLength`, and there
are at most 128 interfaces. -/
structure ConfigDescriptor where
  header : Descriptor
  descriptors : List Descriptor
  header_sized : 9 ≤ header.bytes.length
  tiles : wTotalLength (zeroExtend header.bytes) =
    header.bytes.length + (descriptorBytes descriptors).length
  interfaces : (grouping (groups descriptors)).numbers.length ≤ 128

/-- The bytes of a configuration descriptor. -/
def ConfigDescriptor.bytes (config : ConfigDescriptor) : List UInt8 :=
  config.header.bytes ++ descriptorBytes config.descriptors

/-! ### The bytes in memory -/

variable {mem : Memory} {alloc : ℕ → Allocs} {w : Walker} {config : ConfigDescriptor}
  {post : List Descriptor}

theorem Extends.middle {l r p : List UInt8} (h : Extends (p ++ l ++ r) mem) :
    Extends l fun j => mem (p.length + j) := by
  intro j hj
  have hlt : p.length + j < (p ++ l ++ r).length := by
    simp only [List.length_append]
    omega
  have hget := h (p.length + j) hlt
  simp only [hget, List.append_assoc]
  rw [List.getElem_append_right (Nat.le_add_right _ _), List.getElem_append_left (by omega)]
  simp

/-- The offset behind the header and the descriptors `pre`. -/
def ConfigDescriptor.offsetAfter (config : ConfigDescriptor) (pre : List Descriptor) : ℕ :=
  config.header.bytes.length + (descriptorBytes pre).length

/-- A descriptor stands in memory at an offset. -/
structure Descriptor.StandsIn (mem : Memory) (offset : ℕ) (d : Descriptor) : Prop where
  bLength : (mem offset).toNat = d.bytes.length
  bDescriptorType : mem (offset + 1) = d.bDescriptorType
  bInterfaceNumber : d.isInterface = true → mem (offset + 2) = d.bInterfaceNumber
  bAlternateSetting : d.isInterface = true → mem (offset + 3) = d.bAlternateSetting
  bEndpointAddress : d.isEndpoint = true → mem (offset + 2) = d.bEndpointAddress

theorem standsIn_of_extends {offset : ℕ} (h : Extends d.bytes fun j => mem (offset + j)) :
    d.StandsIn mem offset := by
  have hget : ∀ j, j < d.bytes.length → mem (offset + j) = d.bytes.getD j 0 := by
    intro j hj
    refine (h j hj).trans ?_
    rw [List.getD_eq_getElem?_getD, List.getElem?_eq_getElem hj]
    rfl
  have hsized := d.sized
  have hfits := d.fits
  refine ⟨?_, ?_, fun hi => hget 2 ?_, fun hi => hget 3 ?_, fun he => hget 2 ?_⟩
  · rw [← Nat.add_zero offset, hget 0 (by simp)]
    simp only [Descriptor.bytes, List.getD_cons_zero]
    rw [UInt8.toNat_ofNat_of_lt' (by simpa [UInt8.size] using hfits)]
    simp
  · exact hget 1 (by simp)
  · simp only [Descriptor.isInterface, decide_eq_true_eq] at hi
    simp only [structureSize, hi, if_true, usbInterfaceDescriptorSize] at hsized
    rw [Descriptor.length_bytes]
    omega
  · simp only [Descriptor.isInterface, decide_eq_true_eq] at hi
    simp only [structureSize, hi, if_true, usbInterfaceDescriptorSize] at hsized
    rw [Descriptor.length_bytes]
    omega
  · simp only [Descriptor.isEndpoint, decide_eq_true_eq] at he
    have h7 : structureSize d.bDescriptorType = 7 := by rw [he]; rfl
    rw [Descriptor.length_bytes]
    omega

theorem ConfigDescriptor.standsIn (hext : Extends config.bytes mem)
    (hds : config.descriptors = pre ++ d :: post) :
    d.StandsIn mem (config.offsetAfter pre) := by
  apply standsIn_of_extends
  have hbytes : config.bytes =
      (config.header.bytes ++ descriptorBytes pre) ++ d.bytes ++ descriptorBytes post := by
    simp [ConfigDescriptor.bytes, hds, descriptorBytes]
  rw [hbytes] at hext
  simpa [ConfigDescriptor.offsetAfter] using hext.middle

theorem ConfigDescriptor.headerStandsIn (hext : Extends config.bytes mem) :
    config.header.StandsIn mem 0 := by
  apply standsIn_of_extends
  have hbytes : config.bytes = [] ++ config.header.bytes ++ descriptorBytes config.descriptors :=
    rfl
  rw [hbytes] at hext
  simpa using hext.middle

theorem ConfigDescriptor.wTotalLength_eq (hext : Extends config.bytes mem) :
    wTotalLength mem =
      config.header.bytes.length + (descriptorBytes config.descriptors).length := by
  rw [← config.tiles]
  have h9 := config.header_sized
  have hget : ∀ i < config.header.bytes.length, mem i = zeroExtend config.header.bytes i := by
    intro i hi
    have hlt : i < config.bytes.length := by
      simp only [ConfigDescriptor.bytes, List.length_append]
      omega
    rw [hext i hlt, extends_zeroExtend _ i hi]
    simp only [ConfigDescriptor.bytes]
    rw [List.getElem_append_left hi]
  simp only [wTotalLength, hget 2 (by omega), hget 3 (by omega)]

/-! ### The walk over a well-formed descriptor -/

@[simp] theorem descriptorBytes_append (ds ds' : List Descriptor) :
    descriptorBytes (ds ++ ds') = descriptorBytes ds ++ descriptorBytes ds' := by
  simp [descriptorBytes]

theorem ConfigDescriptor.offsetAfter_concat (config : ConfigDescriptor) (pre : List Descriptor)
    (d : Descriptor) :
    config.offsetAfter (pre ++ [d]) = config.offsetAfter pre + d.bytes.length := by
  simp [ConfigDescriptor.offsetAfter, descriptorBytes, Nat.add_assoc]

/-- The walk goes from each descriptor of the list to the next. -/
theorem ConfigDescriptor.nthOffset_eq (hext : Extends config.bytes mem)
    (hds : config.descriptors = pre ++ post) :
    nthOffset mem (pre.length + 1) = config.offsetAfter pre := by
  induction pre using List.reverseRecOn generalizing post with
  | nil =>
    rw [List.length_nil, nthOffset_succ, nthOffset_zero, Nat.zero_add,
      (config.headerStandsIn hext).bLength]
    rfl
  | append_singleton pre d ih =>
    have hds' : config.descriptors = pre ++ d :: post := by rw [hds]; simp
    rw [List.length_append, List.length_singleton, nthOffset_succ, ih hds',
      (config.standsIn hext hds').bLength, config.offsetAfter_concat]

/-- There is a descriptor behind `pre` as long as the list goes on. -/
theorem ConfigDescriptor.standsAt_iff (hext : Extends config.bytes mem)
    (hds : config.descriptors = pre ++ post) :
    StandsAt mem (nthOffset mem (pre.length + 1)) ↔ post ≠ [] := by
  have htotal := config.wTotalLength_eq hext
  rw [hds, descriptorBytes_append, List.length_append] at htotal
  have hrem : (wTotalLength mem : ℤ) - config.offsetAfter pre =
      ((descriptorBytes post).length : ℕ) := by
    simp only [htotal, ConfigDescriptor.offsetAfter]
    omega
  have hsmall : (descriptorBytes post).length < 0x100000000 := by
    have h2 := (mem 2).toNat_lt
    have h3 := (mem 3).toNat_lt
    simp only [wTotalLength] at htotal
    omega
  rw [config.nthOffset_eq hext hds, StandsAt, hrem]
  have hmod : asUnsigned ((descriptorBytes post).length : ℕ) = (descriptorBytes post).length := by
    simp only [asUnsigned]
    omega
  rw [hmod]
  cases post with
  | nil => simp [descriptorBytes]
  | cons d post =>
    have h2 : 2 ≤ d.bytes.length := Nat.le_add_left 2 _
    simp only [descriptorBytes, List.flatMap_cons, List.length_append, ne_eq, reduceCtorEq,
      not_false_eq_true, iff_true]
    omega

theorem ConfigDescriptor.walked (hext : Extends config.bytes mem)
    (hds : config.descriptors = pre ++ post) : Walked mem pre.length := by
  induction pre using List.reverseRecOn generalizing post with
  | nil =>
    have htotal := config.wTotalLength_eq hext
    have h9 := config.header_sized
    have h2 := (mem 2).toNat_lt
    have h3 := (mem 3).toNat_lt
    refine walked_zero.mpr ?_
    simp only [StandsAt, asUnsigned]
    simp only [wTotalLength] at htotal ⊢
    omega
  | append_singleton pre d ih =>
    have hds' : config.descriptors = pre ++ d :: post := by rw [hds]; simp
    rw [List.length_append, List.length_singleton]
    exact walked_succ.mpr ⟨ih hds', (config.standsAt_iff hext hds').mpr (by simp)⟩

/-- The walk visits no more descriptors than there are. -/
theorem ConfigDescriptor.terminates (hext : Extends config.bytes mem) : Terminates mem := by
  refine terminates_of_bound (config.descriptors.length + 1) fun k hw => ?_
  refine Nat.lt_succ_of_le (Nat.le_of_not_lt fun hlt => ?_)
  have hstands := (hw.mono hlt).standsAt
  have hds : config.descriptors = config.descriptors ++ [] := (List.append_nil _).symm
  exact (config.standsAt_iff hext hds).mp hstands rfl

/-- Where the loop of `u_Add_Pipe` is in the descriptors `pre`: behind the interface
descriptor of its alternate setting, and before the next. -/
def InScope (pre : List Descriptor) (number alternate : UInt8) (prevPipe : Option UInt8) : Prop :=
  ∃ before i following, pre = before ++ i :: following ∧ i.isInterface = true ∧
    i.bInterfaceNumber = number ∧ i.bAlternateSetting = alternate ∧
    (∀ d ∈ following, d.isInterface = false) ∧ prevPipeOf following = prevPipe

/-- The frame of a walk behind the descriptors `pre` and before `post`. -/
def FrameAt (mem : Memory) (w : Walker) (pre post : List Descriptor) : Prop :=
  match w.frame with
  | .done => post = []
  | .config =>
    w.Ended ∧ post = [] ∨
      w.AtDescriptor mem ∧ ((∀ d ∈ pre, d.isInterface = false) ∨
        ∃ d rest, post = d :: rest ∧ d.isInterface = true)
  | .pipe number alternate prevPipe =>
    w.AtDescriptor mem ∧ InScope pre number alternate prevPipe

/-- What the walk over a well-formed descriptor keeps: its stack stands for the grouping
of the descriptors visited. -/
def Walker.Follows (mem : Memory) (config : ConfigDescriptor) (w : Walker) : Prop :=
  ∃ pre post, config.descriptors = pre ++ post ∧ w.visited = pre.length ∧
    w.device.usbStack.Represents (grouping (groups pre)) ∧ FrameAt mem w pre post

/-- An interface descriptor, in the loop of `u_Init_Config`. -/
theorem represents_interface {device : DevHandle} {offset : ℕ}
    (h : device.usbStack.Represents (grouping (groups pre))) (hs : d.StandsIn mem offset)
    (hi : d.isInterface = true) :
    let visit := uInitConfigBody mem {} offset device
    visit.frame = .pipe d.bInterfaceNumber d.bAlternateSetting none ∧
      visit.device.usbStack.Represents (grouping (groups (pre ++ [d]))) := by
  have ht : mem (offset + 1) = usbDescriptorTypeInterface := by
    rw [hs.bDescriptorType]
    simpa [Descriptor.isInterface] using hi
  obtain ⟨hframe, hrep⟩ := h.uAddInterface (grouping_valid _) mem offset
  rw [hs.bInterfaceNumber hi, hs.bAlternateSetting hi] at hframe hrep
  rw [groups_append_interface pre hi (by simp), grouping_concat_interface, uInitConfigBody,
    if_pos ht]
  exact ⟨hframe, hrep⟩

/-- Any other descriptor, in the loop of `u_Add_Pipe`. -/
theorem represents_following {device : DevHandle} {offset : ℕ} {prevPipe : Option UInt8}
    (h : device.usbStack.Represents (grouping (groups pre)))
    (hscope : InScope pre number alternate prevPipe) (hs : d.StandsIn mem offset)
    (hi : d.isInterface = false) :
    let visit := uAddPipe mem {} offset device number alternate prevPipe
    ∃ prev, visit.frame = .pipe number alternate prev ∧
      InScope (pre ++ [d]) number alternate prev ∧
      visit.device.usbStack.Represents (grouping (groups (pre ++ [d]))) := by
  obtain ⟨before, i, following, rfl, hint, rfl, rfl, hfree, rfl⟩ := hscope
  have hfree' : ∀ e ∈ following ++ [d], e.isInterface = false := by
    intro e he
    rcases List.mem_append.mp he with he | he
    · exact hfree e he
    · exact List.mem_singleton.mp he ▸ hi
  have hscope' : InScope (before ++ i :: following ++ [d]) i.bInterfaceNumber
      i.bAlternateSetting (prevPipeAfter (prevPipeOf following) d) :=
    ⟨before, i, following ++ [d], by simp, hint, rfl, rfl, hfree', prevPipeOf_concat _ _⟩
  have hgroups := groups_append_interface before hint hfree
  have hgroups' : groups (before ++ i :: following ++ [d]) =
      groups before ++ [{ descriptor := i, following := following ++ [d] }] := by
    rw [List.append_assoc, List.cons_append]
    exact groups_append_interface before hint hfree'
  rw [hgroups] at h
  rw [hgroups']
  by_cases he : d.isEndpoint = true
  · have ht : mem (offset + 1) = usbDescriptorTypeEndpoint := by
      rw [hs.bDescriptorType]
      simpa [Descriptor.isEndpoint] using he
    obtain ⟨hn, ha⟩ := mem_grouping_concat (groups before) i following
    obtain ⟨device', ho, hrep⟩ :=
      h.obtainPipeEL (grouping_valid _) hn ha d.bEndpointAddress offset
    rw [prevPipeAfter, if_pos he] at hscope'
    rw [grouping_concat_endpoint he]
    simp only [LibusbK.uAddPipe, if_pos ht, hs.bEndpointAddress he, ho]
    exact ⟨_, rfl, hscope', hrep⟩
  rw [prevPipeAfter, if_neg he] at hscope'
  have ht : mem (offset + 1) ≠ usbDescriptorTypeEndpoint := by
    rw [hs.bDescriptorType]
    simpa [Descriptor.isEndpoint] using he
  by_cases hc : d.isCompanion = true
  · have ht' : mem (offset + 1) = usbSuperSpeedEndpointCompanion := by
      rw [hs.bDescriptorType]
      simpa [Descriptor.isCompanion] using hc
    rw [if_pos hc] at hscope'
    rw [grouping_concat_companion hc]
    simp only [LibusbK.uAddPipe, if_neg ht, if_pos ht']
    cases prevPipeOf following with
    | none => exact ⟨none, rfl, hscope', h⟩
    | some address => exact ⟨none, rfl, hscope', h.setCompanion _ _ address offset⟩
  · have ht' : mem (offset + 1) ≠ usbSuperSpeedEndpointCompanion := by
      rw [hs.bDescriptorType]
      simpa [Descriptor.isCompanion] using hc
    rw [if_neg hc] at hscope'
    rw [grouping_concat_other (by simpa using he) (by simpa using hc)]
    simp only [LibusbK.uAddPipe, if_neg ht, if_neg ht']
    exact ⟨_, rfl, hscope', h⟩

/-- Any other descriptor before the first interface descriptor. -/
theorem represents_leading {device : DevHandle} {offset : ℕ}
    (h : device.usbStack.Represents (grouping (groups pre)))
    (hfree : ∀ e ∈ pre, e.isInterface = false) (hs : d.StandsIn mem offset)
    (hi : d.isInterface = false) :
    let visit := uInitConfigBody mem {} offset device
    visit.frame = .config ∧ (∀ e ∈ pre ++ [d], e.isInterface = false) ∧
      visit.device.usbStack.Represents (grouping (groups (pre ++ [d]))) := by
  have hfree' : ∀ e ∈ pre ++ [d], e.isInterface = false := by
    intro e he
    rcases List.mem_append.mp he with he | he
    · exact hfree e he
    · exact List.mem_singleton.mp he ▸ hi
  have ht : mem (offset + 1) ≠ usbDescriptorTypeInterface := by
    rw [hs.bDescriptorType]
    simpa [Descriptor.isInterface] using hi
  rw [groups_eq_nil hfree] at h
  rw [groups_eq_nil hfree', uInitConfigBody, if_neg ht]
  exact ⟨rfl, hfree', h⟩

/-- The loop body at the next descriptor. -/
theorem Walker.Follows.visit (hext : Extends config.bytes mem) (h : w.Follows mem config)
    (hd : w.frame ≠ .done) (hw : w.AtDescriptor mem)
    (hs : StandsAt mem (nthOffset mem (w.visited + 1)))
    (ht : w.frame = .config ∨
      mem (nthOffset mem (w.visited + 1) + 1) ≠ usbDescriptorTypeInterface) {reads : List ℕ} :
    Walker.Follows mem config
      { desc := iteratorAt mem (nthOffset mem (w.visited + 1))
        device := (w.body mem (fun _ => {}) (nthOffset mem (w.visited + 1))).device
        frame := (w.body mem (fun _ => {}) (nthOffset mem (w.visited + 1))).frame
        visited := w.visited + 1
        reads := reads } := by
  obtain ⟨pre, post, hds, hv, hrep, hframe⟩ := h
  rw [hv] at hs ht ⊢
  have hwalked := walked_succ.mpr ⟨hv ▸ hw.1, hs⟩
  obtain ⟨d, post, rfl⟩ :=
    List.exists_cons_of_ne_nil ((config.standsAt_iff hext hds).mp hs)
  have hstands := config.standsIn hext hds
  rw [← config.nthOffset_eq hext hds] at hstands
  have hds' : config.descriptors = (pre ++ [d]) ++ post := by rw [hds]; simp
  cases hf : w.frame with
  | config =>
    have hbody : ∀ q, w.body mem (fun _ => {}) q = uInitConfigBody mem {} q w.device := by
      intro q
      simp only [Walker.body, hf]
    simp only [FrameAt, hf] at hframe
    rw [hbody]
    by_cases hi : d.isInterface = true
    · obtain ⟨hfr, hrep'⟩ := represents_interface hrep hstands hi
      refine ⟨pre ++ [d], post, hds', by simp, hrep', ?_⟩
      simp only [FrameAt, hfr]
      exact ⟨⟨hwalked, rfl⟩, pre, d, [], rfl, hi, rfl, rfl, by simp, rfl⟩
    · have hi : d.isInterface = false := by simpa using hi
      -- Before the first interface descriptor: the loop of `u_Add_Pipe` left no other.
      have hfree : ∀ e ∈ pre, e.isInterface = false := by
        rcases hframe with ⟨-, hnil⟩ | ⟨-, hfree | ⟨e, rest, heq, he⟩⟩
        · cases hnil
        · exact hfree
        · cases heq
          rw [hi] at he
          cases he
      obtain ⟨hfr, hfree', hrep'⟩ := represents_leading hrep hfree hstands hi
      refine ⟨pre ++ [d], post, hds', by simp, hrep', ?_⟩
      simp only [FrameAt, hfr]
      exact .inr ⟨⟨hwalked, rfl⟩, .inl hfree'⟩
  | pipe number alternate prevPipe =>
    have hbody : ∀ q, w.body mem (fun _ => {}) q =
        uAddPipe mem {} q w.device number alternate prevPipe := by
      intro q
      simp only [Walker.body, hf]
    simp only [FrameAt, hf] at hframe
    have hi : d.isInterface = false := by
      have ht := ht.resolve_left (by rw [hf]; simp)
      rw [hstands.bDescriptorType] at ht
      simpa [Descriptor.isInterface] using ht
    obtain ⟨prev, hfr, hscope, hrep'⟩ := represents_following hrep hframe.2 hstands hi
    rw [hbody]
    refine ⟨pre ++ [d], post, hds', by simp, hrep', ?_⟩
    simp only [FrameAt, hfr]
    exact ⟨⟨hwalked, rfl⟩, hscope⟩
  | done => exact absurd hf hd

/-- One call of `u_Desc_Next`. -/
theorem Walker.Follows.moves (hext : Extends config.bytes mem) {w' : Walker}
    (h : w.Follows mem config) (hm : w.Moves mem (fun _ => {}) w') : w'.Follows mem config := by
  cases hm with
  | stop hf => exact h
  | ended hd he =>
    obtain ⟨pre, post, hds, hv, hrep, hframe⟩ := h
    refine ⟨pre, post, hds, hv, hrep, ?_⟩
    cases hf : w.frame with
    | config =>
      simp only [FrameAt, hf, Frame.left] at hframe ⊢
      rcases hframe with ⟨-, hnil⟩ | ⟨hat, -⟩
      · exact hnil
      · exact absurd he hat.not_ended
    | pipe number alternate prevPipe =>
      simp only [FrameAt, hf] at hframe
      exact absurd he hframe.1.not_ended
    | done => exact absurd hf hd
  | last hd hw hl =>
    obtain ⟨pre, post, hds, hv, hrep, hframe⟩ := h
    have hnil : post = [] := by
      rw [hv, config.standsAt_iff hext hds] at hl
      exact Decidable.not_not.mp fun h => hl h
    refine ⟨pre, post, hds, hv, hrep, ?_⟩
    cases hf : w.frame with
    | config =>
      simp only [FrameAt, Frame.left]
      exact hnil
    | pipe number alternate prevPipe =>
      simp only [FrameAt, Frame.left]
      exact .inl ⟨Nat.not_le.mp hl, hnil⟩
    | done => exact absurd hf hd
  | rewind number alternate prevPipe hf hw hs ht =>
    obtain ⟨pre, post, hds, hv, hrep, hframe⟩ := h
    refine ⟨pre, post, hds, hv, hrep, .inr ⟨hw, .inr ?_⟩⟩
    rw [hv] at hs ht
    obtain ⟨d, post, rfl⟩ :=
      List.exists_cons_of_ne_nil ((config.standsAt_iff hext hds).mp hs)
    have hstands := config.standsIn hext hds
    rw [← config.nthOffset_eq hext hds] at hstands
    rw [hstands.bDescriptorType] at ht
    exact ⟨d, post, rfl, by simpa [Descriptor.isInterface] using ht⟩
  | visit hd hw hs ht => exact h.visit hext hd hw hs ht

/-- The walk over a well-formed descriptor ends with a stack that stands for the grouping of
its descriptors. -/
theorem walk_represents (hext : Extends config.bytes mem) :
    ∃ calls, (walk mem (fun _ => {}) calls).frame = .done ∧
      (walk mem (fun _ => {}) calls).device.usbStack.Represents
        (grouping (groups config.descriptors)) := by
  have hfollows : ∀ calls, (walk mem (fun _ => {}) calls).Follows mem config := by
    refine walk_invariant ⟨[], config.descriptors, rfl, rfl, ?_, .inr ⟨?_, .inl (by simp)⟩⟩
      fun w w' h hm => h.moves hext hm
    · exact ⟨Counted.empty _ _, by simp [uInitConfig]⟩
    · refine (uInitConfig_onTheWay mem {}).resolve_left fun he => ?_
      have hs := (config.walked hext (List.nil_append _).symm).standsAt
      simp only [StandsAt, List.length_nil, nthOffset_zero, Int.ofNat_zero, Int.sub_zero] at hs
      exact absurd hs (Nat.not_le.mpr he)
  obtain ⟨calls, hdone⟩ := config.terminates hext fun _ => {}
  obtain ⟨pre, post, hds, -, hrep, hframe⟩ := hfollows calls
  simp only [FrameAt, hdone] at hframe
  refine ⟨calls, hdone, ?_⟩
  rw [hds, hframe, List.append_nil]
  exact hrep

/-- **The stack of a well-formed configuration descriptor.**  Where allocations succeed the
walk ends, and its stack stands for the grouping of the descriptors: the elements are
those of the grouping, in its order, each with its position for an index.  The counts are
the lengths modulo 256, and that of the interfaces is their number. -/
theorem uInitConfig_represents_grouping (config : ConfigDescriptor) (mem : Memory)
    (hext : Extends config.bytes mem) :
    ∃ calls, (walk mem (fun _ => {}) calls).frame = .done ∧
      (walk mem (fun _ => {}) calls).device.usbStack.Represents
        (grouping (groups config.descriptors)) ∧
      (walk mem (fun _ => {}) calls).device.usbStack.interfaceCount.toNat =
        (walk mem (fun _ => {}) calls).device.usbStack.interfaceList.length := by
  obtain ⟨calls, hdone, hrep⟩ := walk_represents hext
  refine ⟨calls, hdone, hrep, ?_⟩
  have hle := config.interfaces
  rw [← hrep.interfaces.length_eq] at hle
  rw [hrep.interfaces.count, Nat.mod_eq_of_lt (by omega)]

/-- An interface with a SuperSpeed endpoint. -/
def superSpeedInterface : ConfigDescriptor where
  header :=
    { bDescriptorType := 2, body := [31, 0, 1, 1, 0, 0x80, 50]
      fits := by decide, sized := by decide }
  descriptors :=
    [{ bDescriptorType := 4, body := [0, 0, 1, 0xFF, 0, 0, 0]
       fits := by decide, sized := by decide },
     { bDescriptorType := 5, body := [0x81, 2, 0, 4, 0], fits := by decide, sized := by decide },
     { bDescriptorType := 0x30, body := [0, 0, 0, 0], fits := by decide, sized := by decide }]
  header_sized := by decide
  tiles := by decide
  interfaces := by decide

theorem superSpeedInterface_represents_grouping :
    ∃ calls, (walk (zeroExtend superSpeedInterface.bytes) (fun _ => {}) calls).frame = .done ∧
      (walk (zeroExtend superSpeedInterface.bytes) (fun _ => {}) calls).device.usbStack.Represents
        (grouping (groups superSpeedInterface.descriptors)) ∧
      (walk (zeroExtend superSpeedInterface.bytes)
          (fun _ => {}) calls).device.usbStack.interfaceCount.toNat =
        (walk (zeroExtend superSpeedInterface.bytes)
          (fun _ => {}) calls).device.usbStack.interfaceList.length :=
  uInitConfig_represents_grouping superSpeedInterface (zeroExtend superSpeedInterface.bytes)
    (extends_zeroExtend superSpeedInterface.bytes)

/-- An interface descriptor of interface 0. -/
def altDescriptor (alternate : UInt8) : Descriptor where
  bDescriptorType := usbDescriptorTypeInterface
  body := [0, alternate, 0, 0xFF, 0, 0, 0]
  fits := by simp
  sized := by simp [structureSize, usbInterfaceDescriptorSize]

/-- An interface with every alternate setting a byte can name. -/
def allAlternates : ConfigDescriptor where
  header :=
    { bDescriptorType := 2, body := [9, 9, 1, 1, 0, 0x80, 50]
      fits := by decide, sized := by decide }
  descriptors := (List.range 256).map fun a => altDescriptor (UInt8.ofNat a)
  header_sized := by decide
  tiles := by decide +kernel
  interfaces := by decide +kernel

/-- The counts are not the lengths of the lists for every well-formed descriptor. -/
theorem not_countsExact_allAlternates :
    ¬ ∀ (config : ConfigDescriptor) (mem : Memory), Extends config.bytes mem →
      ∃ calls, (walk mem (fun _ => {}) calls).frame = .done ∧
        (walk mem (fun _ => {}) calls).device.usbStack.Represents
          (grouping (groups config.descriptors)) ∧
        ∀ el ∈ (walk mem (fun _ => {}) calls).device.usbStack.interfaceList,
          el.altInterfaceCount.toNat = el.altInterfaceList.length ∧
            ∀ alt ∈ el.altInterfaceList, alt.pipeCount.toNat = alt.pipeList.length := by
  intro h
  obtain ⟨calls, -, hrep, hcounts⟩ := h allAlternates _ (extends_zeroExtend _)
  have hgroup : ∀ a : UInt8, ∃ group ∈ groups allAlternates.descriptors,
      group.descriptor = altDescriptor a := by
    intro a
    refine mem_groups (List.mem_map.mpr ⟨a.toNat, List.mem_range.mpr a.toNat_lt, ?_⟩) rfl
    rw [UInt8.ofNat_toNat]
  have hn : (0 : UInt8) ∈ (grouping (groups allAlternates.descriptors)).numbers := by
    obtain ⟨group, hg, hd⟩ := hgroup 0
    exact mem_numbers.mpr ⟨group, hg, by rw [hd]; rfl⟩
  have hs : ∀ a : UInt8, a ∈ (grouping (groups allAlternates.descriptors)).settings 0 := by
    intro a
    obtain ⟨group, hg, hd⟩ := hgroup a
    refine mem_settings.mpr ⟨group, mem_groupsOfInterface.mpr ⟨hg, ?_⟩, ?_⟩
    · rw [hd]
      rfl
    · rw [hd]
      rfl
  obtain ⟨el, hel⟩ := Option.isSome_iff_exists.mp (hrep.isSome_findInterfaceEL.mpr hn)
  have hmem := (Keyed.mem_of_find hel).1
  have hid : el.id = 0 := (Keyed.mem_of_find hel).2
  -- All 256 alternate settings are in the list, and the count is a byte.
  have hlong := length_ge_of_forall_mem hs
  have hlen := (hrep.alts el hmem).alts.length_eq
  rw [hid] at hlen
  have hcount := (hcounts el hmem).1
  have hlt := el.altInterfaceCount.toNat_lt
  omega

end LibusbK
