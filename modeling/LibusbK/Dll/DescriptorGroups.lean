import LibusbK.Dll.StackGrouping
import Mathlib.Data.List.TakeWhile

/-!
# Grouping a list of descriptors

What the stack of a list of descriptors should be, said without the parser: the
interface descriptors, each with the descriptors up to the next one; per interface
number and alternate setting, the endpoint addresses among these; and the endpoints
that a companion descriptor follows.

## Main definitions

* `Descriptor` — a descriptor with a `bLength` that is its size, and at least that of
  its structure.
* `groups`, `grouping` — the declarative grouping of a list of descriptors.
* `HasCompanion` — a companion descriptor follows an endpoint descriptor.

## Main results

* `grouping_concat_interface`, `grouping_concat_endpoint`, `grouping_concat_companion`,
  `grouping_concat_other` — one more descriptor.
* `grouping_valid` — groupings are valid.
-/

namespace LibusbK

/-! ### Well-formed descriptors -/

/-- The size of the structure a descriptor of a type is used as. -/
def structureSize (bDescriptorType : UInt8) : ℕ :=
  if bDescriptorType = usbDescriptorTypeInterface then usbInterfaceDescriptorSize
  else if bDescriptorType = usbDescriptorTypeEndpoint then usbEndpointDescriptorSize
  else if bDescriptorType = usbSuperSpeedEndpointCompanion then
    usbSuperSpeedEndpointCompanionDescriptorSize
  else usbCommonDescriptorSize

/-- A well-formed descriptor: its type, the bytes behind it, and a `bLength` that is its
size. -/
structure Descriptor where
  bDescriptorType : UInt8
  body : List UInt8
  fits : body.length + 2 < 256
  sized : structureSize bDescriptorType ≤ body.length + 2

namespace Descriptor

/-- The bytes of a descriptor. -/
def bytes (d : Descriptor) : List UInt8 :=
  UInt8.ofNat (d.body.length + 2) :: d.bDescriptorType :: d.body

def bInterfaceNumber (d : Descriptor) : UInt8 := d.bytes.getD 2 0

def bAlternateSetting (d : Descriptor) : UInt8 := d.bytes.getD 3 0

def bEndpointAddress (d : Descriptor) : UInt8 := d.bytes.getD 2 0

def isInterface (d : Descriptor) : Bool := d.bDescriptorType = usbDescriptorTypeInterface

def isEndpoint (d : Descriptor) : Bool := d.bDescriptorType = usbDescriptorTypeEndpoint

def isCompanion (d : Descriptor) : Bool := d.bDescriptorType = usbSuperSpeedEndpointCompanion

@[simp] theorem length_bytes (d : Descriptor) : d.bytes.length = d.body.length + 2 := rfl

end Descriptor

/-- The bytes of a list of descriptors. -/
def descriptorBytes (ds : List Descriptor) : List UInt8 := ds.flatMap Descriptor.bytes

/-! ### The grouping of a list of descriptors -/

/-- An interface descriptor and the descriptors up to the next one. -/
structure InterfaceGroup where
  descriptor : Descriptor
  following : List Descriptor

/-- The interface descriptors, each with the descriptors up to the next one. -/
def groups : List Descriptor → List InterfaceGroup
  | [] => []
  | d :: ds =>
    if d.isInterface then
      { descriptor := d, following := ds.takeWhile fun d => !d.isInterface } :: groups ds
    else groups ds

/-- The endpoint addresses of a group. -/
def InterfaceGroup.addresses (group : InterfaceGroup) : List UInt8 :=
  (group.following.filter Descriptor.isEndpoint).map Descriptor.bEndpointAddress

/-- A companion descriptor follows an endpoint descriptor of `address` before the next
endpoint descriptor. -/
def HasCompanion (ds : List Descriptor) (address : UInt8) : Prop :=
  ∃ before endpoint between companion after,
    ds = before ++ endpoint :: between ++ companion :: after ∧
      endpoint.isEndpoint = true ∧ endpoint.bEndpointAddress = address ∧
      companion.isCompanion = true ∧ ∀ d ∈ between, d.isEndpoint = false

/-- The groups of an interface. -/
def groupsOfInterface (gs : List InterfaceGroup) (number : UInt8) : List InterfaceGroup :=
  gs.filter fun group => group.descriptor.bInterfaceNumber = number

/-- The groups of an alternate setting. -/
def groupsOfAlt (gs : List InterfaceGroup) (number alternate : UInt8) : List InterfaceGroup :=
  (groupsOfInterface gs number).filter fun group => group.descriptor.bAlternateSetting = alternate

/-- The declarative grouping: interface numbers, alternate settings and endpoint addresses
in the order they appear first, and the endpoints followed by a companion. -/
def grouping (gs : List InterfaceGroup) : Grouping where
  numbers := (gs.map (·.descriptor.bInterfaceNumber)).eraseDups
  settings number :=
    ((groupsOfInterface gs number).map (·.descriptor.bAlternateSetting)).eraseDups
  addresses number alternate :=
    ((groupsOfAlt gs number alternate).flatMap InterfaceGroup.addresses).eraseDups
  companions number alternate address :=
    ∃ group ∈ groupsOfAlt gs number alternate, HasCompanion group.following address

/-! ### One more descriptor -/

variable {pre ds : List Descriptor} {d i : Descriptor} {gs : List InterfaceGroup}
  {number alternate address : UInt8}

theorem groups_eq_nil (h : ∀ d ∈ ds, d.isInterface = false) : groups ds = [] := by
  induction ds with
  | nil => rfl
  | cons d ds ih =>
    rw [groups, h d List.mem_cons_self]
    exact ih fun d hd => h d (List.mem_cons_of_mem _ hd)

theorem mem_groups (hd : d ∈ ds) (hi : d.isInterface = true) :
    ∃ group ∈ groups ds, group.descriptor = d := by
  induction ds with
  | nil => cases hd
  | cons e ds ih =>
    rcases List.mem_cons.mp hd with rfl | hd
    · rw [groups, if_pos hi]
      exact ⟨_, List.mem_cons_self, rfl⟩
    · obtain ⟨group, hg, hgd⟩ := ih hd
      refine ⟨group, ?_, hgd⟩
      rw [groups]
      split
      · exact List.mem_cons_of_mem _ hg
      · exact hg

/-- The last group, of the last interface descriptor. -/
theorem groups_append_interface (pre : List Descriptor) (hi : i.isInterface = true)
    (ht : ∀ d ∈ ds, d.isInterface = false) :
    groups (pre ++ i :: ds) = groups pre ++ [{ descriptor := i, following := ds }] := by
  induction pre with
  | nil =>
    have htake : ds.takeWhile (fun d => !d.isInterface) = ds :=
      List.takeWhile_eq_self_iff.mpr fun d hd => by rw [ht d hd]; rfl
    simp only [List.nil_append, groups, if_pos hi, htake, groups_eq_nil ht]
  | cons e pre ih =>
    have htake : (pre ++ i :: ds).takeWhile (fun d => !d.isInterface) =
        pre.takeWhile fun d => !d.isInterface := by
      clear ih
      induction pre with
      | nil => simp [hi]
      | cons e pre ih =>
        simp only [List.cons_append, List.takeWhile_cons, ih]
    simp only [List.cons_append, groups, ih, htake]
    split <;> rfl

/-! A group at the end, and one more descriptor in it. -/

theorem groupsOfInterface_concat (gs : List InterfaceGroup) (group : InterfaceGroup)
    (number : UInt8) :
    groupsOfInterface (gs ++ [group]) number =
      groupsOfInterface gs number ++
        if group.descriptor.bInterfaceNumber = number then [group] else [] := by
  by_cases h : group.descriptor.bInterfaceNumber = number <;> simp [groupsOfInterface, h]

theorem groupsOfAlt_concat (gs : List InterfaceGroup) (group : InterfaceGroup)
    (number alternate : UInt8) :
    groupsOfAlt (gs ++ [group]) number alternate =
      groupsOfAlt gs number alternate ++
        if group.descriptor.bInterfaceNumber = number ∧
          group.descriptor.bAlternateSetting = alternate then [group] else [] := by
  rw [groupsOfAlt, groupsOfInterface_concat]
  by_cases hn : group.descriptor.bInterfaceNumber = number
  · by_cases ha : group.descriptor.bAlternateSetting = alternate <;>
      simp [groupsOfAlt, hn, ha]
  · simp [groupsOfAlt, hn]

theorem eraseDups_concat_eq_addNew (l : List UInt8) (k : UInt8) :
    (l ++ [k]).eraseDups = addNew k l.eraseDups := by
  rw [Keyed.eraseDups_concat]
  simp only [addNew, List.mem_eraseDups]

theorem not_hasCompanion_nil (address : UInt8) : ¬ HasCompanion [] address := by
  rintro ⟨before, endpoint, between, companion, after, heq, -⟩
  simp at heq

/-- A new interface descriptor adds its number and its alternate setting. -/
theorem grouping_concat_interface (gs : List InterfaceGroup) (i : Descriptor) :
    grouping (gs ++ [{ descriptor := i, following := [] }]) =
      ((grouping gs).addNumber i.bInterfaceNumber).addSetting i.bInterfaceNumber
        i.bAlternateSetting := by
  refine Grouping.ext ?_ (funext fun n => ?_) (funext fun n => funext fun a => ?_)
    (funext fun n => funext fun a => funext fun x => ?_)
  · simp only [grouping, Grouping.addSetting, Grouping.addNumber, List.map_append, List.map_cons,
      List.map_nil, eraseDups_concat_eq_addNew]
  · simp only [grouping, Grouping.addSetting, Grouping.addNumber, groupsOfInterface_concat]
    by_cases hn : i.bInterfaceNumber = n
    · rw [if_pos hn, if_pos hn.symm, List.map_append, List.map_singleton,
        eraseDups_concat_eq_addNew]
    · rw [if_neg hn, if_neg fun h => hn h.symm, List.append_nil]
  · simp only [grouping, Grouping.addSetting, Grouping.addNumber, groupsOfAlt_concat]
    split
    · simp [InterfaceGroup.addresses]
    · rw [List.append_nil]
  · simp only [grouping, Grouping.addSetting, Grouping.addNumber, groupsOfAlt_concat]
    split
    · simp [not_hasCompanion_nil]
    · rw [List.append_nil]

/-! ### Companions -/

/-- `prevPipeELForCompanionAttach` after a descriptor. -/
def prevPipeAfter (prevPipe : Option UInt8) (d : Descriptor) : Option UInt8 :=
  if d.isEndpoint then some d.bEndpointAddress else if d.isCompanion then none else prevPipe

/-- `prevPipeELForCompanionAttach` after the descriptors since the interface descriptor. -/
def prevPipeOf (ds : List Descriptor) : Option UInt8 := ds.foldl prevPipeAfter none

theorem prevPipeOf_concat (ds : List Descriptor) (d : Descriptor) :
    prevPipeOf (ds ++ [d]) = prevPipeAfter (prevPipeOf ds) d := by
  simp [prevPipeOf]

theorem exists_endpoint_of_prevPipeOf (h : prevPipeOf ds = some address) :
    ∃ before endpoint between, ds = before ++ endpoint :: between ∧
      endpoint.isEndpoint = true ∧ endpoint.bEndpointAddress = address ∧
      ∀ d ∈ between, d.isEndpoint = false := by
  induction ds using List.reverseRecOn with
  | nil => cases h
  | append_singleton ds d ih =>
    rw [prevPipeOf_concat, prevPipeAfter] at h
    split at h
    · next he => exact ⟨ds, d, [], rfl, he, Option.some.inj h, by simp⟩
    · next he =>
      split at h
      · cases h
      · obtain ⟨before, endpoint, between, rfl, hend, haddr, hbetween⟩ := ih h
        refine ⟨before, endpoint, between ++ [d], by simp, hend, haddr, fun d' hd' => ?_⟩
        rcases List.mem_append.mp hd' with hd' | hd'
        · exact hbetween d' hd'
        · obtain rfl := List.mem_singleton.mp hd'
          simpa using he

theorem isEndpoint_of_isCompanion (h : d.isCompanion = true) : d.isEndpoint = false := by
  simp only [Descriptor.isCompanion, Descriptor.isEndpoint, decide_eq_true_eq] at h ⊢
  rw [h]
  rfl

/-- After an endpoint descriptor and no other, a companion would be attached unless one
has been. -/
theorem prevPipe_or_hasCompanion {before between : List Descriptor} {endpoint : Descriptor}
    (he : endpoint.isEndpoint = true) (hb : ∀ d ∈ between, d.isEndpoint = false) :
    prevPipeOf (before ++ endpoint :: between) = some endpoint.bEndpointAddress ∨
      HasCompanion (before ++ endpoint :: between) endpoint.bEndpointAddress := by
  induction between using List.reverseRecOn with
  | nil =>
    refine .inl ?_
    rw [prevPipeOf_concat, prevPipeAfter, if_pos he]
  | append_singleton between d ih =>
    have hd : d.isEndpoint = false := hb d (by simp)
    have hb' : ∀ d ∈ between, d.isEndpoint = false := fun d hd => hb d (by simp [hd])
    by_cases hc : d.isCompanion = true
    · exact .inr ⟨before, endpoint, between, d, [], by simp, he, rfl, hc, hb'⟩
    · rw [← List.cons_append, ← List.append_assoc, prevPipeOf_concat, prevPipeAfter, hd]
      simp only [Bool.false_eq_true, if_false, if_neg hc]
      refine (ih hb').imp id ?_
      rintro ⟨b, e, m, c, a, heq, hrest⟩
      exact ⟨b, e, m, c, a ++ [d], by rw [heq]; simp, hrest⟩

theorem hasCompanion_concat_companion (hc : d.isCompanion = true) :
    HasCompanion (ds ++ [d]) address ↔
      HasCompanion ds address ∨ prevPipeOf ds = some address := by
  constructor
  · rintro ⟨before, endpoint, between, companion, after, heq, he, rfl, hcomp, hb⟩
    induction after using List.reverseRecOn with
    | nil =>
      obtain ⟨rfl, -⟩ := List.append_inj' heq rfl
      exact (prevPipe_or_hasCompanion he hb).symm
    | append_singleton after e _ =>
      rw [← List.cons_append, ← List.append_assoc] at heq
      obtain ⟨rfl, -⟩ := List.append_inj' heq rfl
      exact .inl ⟨before, endpoint, between, companion, after, rfl, he, rfl, hcomp, hb⟩
  · rintro (⟨before, endpoint, between, companion, after, rfl, hrest⟩ | hp)
    · exact ⟨before, endpoint, between, companion, after ++ [d], by simp, hrest⟩
    · obtain ⟨before, endpoint, between, rfl, he, haddr, hb⟩ := exists_endpoint_of_prevPipeOf hp
      exact ⟨before, endpoint, between, d, [], rfl, he, haddr, hc, hb⟩

theorem hasCompanion_concat_other (hc : d.isCompanion = false) :
    HasCompanion (ds ++ [d]) address ↔ HasCompanion ds address := by
  constructor
  · rintro ⟨before, endpoint, between, companion, after, heq, he, rfl, hcomp, hb⟩
    induction after using List.reverseRecOn with
    | nil =>
      obtain ⟨-, hd⟩ := List.append_inj' heq rfl
      obtain rfl : d = companion := List.singleton_inj.mp hd
      rw [hc] at hcomp
      cases hcomp
    | append_singleton after e _ =>
      rw [← List.cons_append, ← List.append_assoc] at heq
      obtain ⟨rfl, -⟩ := List.append_inj' heq rfl
      exact ⟨before, endpoint, between, companion, after, rfl, he, rfl, hcomp, hb⟩
  · rintro ⟨before, endpoint, between, companion, after, rfl, hrest⟩
    exact ⟨before, endpoint, between, companion, after ++ [d], by simp, hrest⟩

theorem HasCompanion.mem_addresses (h : HasCompanion ds address) :
    address ∈ (ds.filter Descriptor.isEndpoint).map Descriptor.bEndpointAddress := by
  obtain ⟨before, endpoint, between, companion, after, rfl, he, rfl, -⟩ := h
  exact List.mem_map_of_mem (List.mem_filter.mpr ⟨by simp, he⟩)

/-! ### One more descriptor in the last group -/

/-- The grouping with a group at the end. -/
theorem grouping_concat (gs : List InterfaceGroup) (i : Descriptor) (ds : List Descriptor) :
    grouping (gs ++ [{ descriptor := i, following := ds }]) =
      { grouping (gs ++ [{ descriptor := i, following := [] }]) with
        addresses := fun n a =>
          ((groupsOfAlt gs n a).flatMap InterfaceGroup.addresses ++
            if i.bInterfaceNumber = n ∧ i.bAlternateSetting = a then
              (ds.filter Descriptor.isEndpoint).map Descriptor.bEndpointAddress
            else []).eraseDups
        companions := fun n a x =>
          (∃ group ∈ groupsOfAlt gs n a, HasCompanion group.following x) ∨
            (i.bInterfaceNumber = n ∧ i.bAlternateSetting = a) ∧ HasCompanion ds x } := by
  refine Grouping.ext ?_ (funext fun n => ?_) (funext fun n => funext fun a => ?_)
    (funext fun n => funext fun a => funext fun x => propext ?_)
  · simp only [grouping, List.map_append, List.map_cons, List.map_nil]
  · simp only [grouping, groupsOfInterface_concat]
    split <;> simp
  · simp only [grouping, groupsOfAlt_concat]
    split <;> simp [InterfaceGroup.addresses]
  · simp only [grouping, groupsOfAlt_concat]
    by_cases h : i.bInterfaceNumber = n ∧ i.bAlternateSetting = a
    · simp [h, or_and_right, exists_or]
    · simp [h]

/-- An endpoint descriptor adds its address. -/
theorem grouping_concat_endpoint (he : d.isEndpoint = true) :
    grouping (gs ++ [{ descriptor := i, following := ds ++ [d] }]) =
      (grouping (gs ++ [{ descriptor := i, following := ds }])).addAddress i.bInterfaceNumber
        i.bAlternateSetting d.bEndpointAddress := by
  have hc : d.isCompanion = false := by
    cases h : d.isCompanion with
    | false => rfl
    | true => rw [isEndpoint_of_isCompanion h] at he; cases he
  rw [grouping_concat, grouping_concat gs i ds]
  refine Grouping.ext rfl rfl (funext fun n => funext fun a => ?_)
    (funext fun n => funext fun a => funext fun x => ?_)
  · simp only [Grouping.addAddress]
    by_cases h : i.bInterfaceNumber = n ∧ i.bAlternateSetting = a
    · rw [if_pos h, if_pos h, if_pos ⟨h.1.symm, h.2.symm⟩, ← eraseDups_concat_eq_addNew]
      simp [he]
    · rw [if_neg h, if_neg h, if_neg fun h' => h ⟨h'.1.symm, h'.2.symm⟩]
  · simp only [hasCompanion_concat_other hc, Grouping.addAddress]

/-- A companion descriptor adds the companion of the endpoint descriptor before it, if that
has none yet. -/
theorem grouping_concat_companion (hc : d.isCompanion = true) :
    grouping (gs ++ [{ descriptor := i, following := ds ++ [d] }]) =
      match prevPipeOf ds with
      | some address =>
        (grouping (gs ++ [{ descriptor := i, following := ds }])).addCompanion i.bInterfaceNumber
          i.bAlternateSetting address
      | none => grouping (gs ++ [{ descriptor := i, following := ds }]) := by
  have he : d.isEndpoint = false := isEndpoint_of_isCompanion hc
  rw [grouping_concat, grouping_concat gs i ds]
  cases hp : prevPipeOf ds with
  | none =>
    refine Grouping.ext rfl rfl (by simp [he]) ?_
    simp only [hasCompanion_concat_companion hc, hp, reduceCtorEq, or_false]
  | some address =>
    refine Grouping.ext rfl rfl (by simp [he, Grouping.addCompanion])
      (funext fun n => funext fun a => funext fun x => propext ?_)
    simp only [hasCompanion_concat_companion hc, hp, Option.some.injEq, Grouping.addCompanion]
    constructor
    · rintro (hgs | ⟨⟨rfl, rfl⟩, hds | rfl⟩)
      · exact .inl (.inl hgs)
      · exact .inl (.inr ⟨⟨rfl, rfl⟩, hds⟩)
      · exact .inr ⟨rfl, rfl, rfl⟩
    · rintro ((hgs | ⟨hk, hds⟩) | ⟨rfl, rfl, rfl⟩)
      · exact .inl hgs
      · exact .inr ⟨hk, .inl hds⟩
      · exact .inr ⟨⟨rfl, rfl⟩, .inr rfl⟩

/-- Any other descriptor changes nothing. -/
theorem grouping_concat_other (he : d.isEndpoint = false) (hc : d.isCompanion = false) :
    grouping (gs ++ [{ descriptor := i, following := ds ++ [d] }]) =
      grouping (gs ++ [{ descriptor := i, following := ds }]) := by
  rw [grouping_concat, grouping_concat gs i ds]
  refine Grouping.ext rfl rfl (by simp [he]) ?_
  simp only [hasCompanion_concat_other hc]

theorem mem_grouping_concat (gs : List InterfaceGroup) (i : Descriptor) (ds : List Descriptor) :
    i.bInterfaceNumber ∈ (grouping (gs ++ [{ descriptor := i, following := ds }])).numbers ∧
      i.bAlternateSetting ∈
        (grouping (gs ++ [{ descriptor := i, following := ds }])).settings i.bInterfaceNumber := by
  simp [grouping, groupsOfInterface_concat, List.mem_eraseDups]

/-! ### Groupings are valid -/

theorem mem_groupsOfInterface {group : InterfaceGroup} :
    group ∈ groupsOfInterface gs number ↔
      group ∈ gs ∧ group.descriptor.bInterfaceNumber = number := by
  simp [groupsOfInterface]

theorem mem_numbers {gs : List InterfaceGroup} :
    number ∈ (grouping gs).numbers ↔ ∃ group ∈ gs, group.descriptor.bInterfaceNumber = number := by
  simp [grouping, List.mem_eraseDups]

theorem mem_settings {gs : List InterfaceGroup} :
    alternate ∈ (grouping gs).settings number ↔
      ∃ group ∈ groupsOfInterface gs number,
        group.descriptor.bAlternateSetting = alternate := by
  simp [grouping, List.mem_eraseDups]

theorem grouping_valid (gs : List InterfaceGroup) : (grouping gs).Valid where
  numbers := Keyed.nodup_eraseDups _
  settings _ := Keyed.nodup_eraseDups _
  addresses _ _ := Keyed.nodup_eraseDups _
  settings_empty n hn := by
    have hempty : groupsOfInterface gs n = [] := by
      refine List.filter_eq_nil_iff.mpr fun group hg hk => hn ?_
      exact mem_numbers.mpr ⟨group, hg, by simpa using hk⟩
    simp [grouping, hempty]
  addresses_empty n a ha := by
    have hempty : groupsOfAlt gs n a = [] := by
      refine List.filter_eq_nil_iff.mpr fun group hg hk => ha ?_
      exact mem_settings.mpr ⟨group, hg, by simpa using hk⟩
    simp [grouping, hempty]
  companions n a x := by
    rintro ⟨group, hg, hc⟩
    exact List.mem_eraseDups.mpr (List.mem_flatMap.mpr ⟨group, hg, hc.mem_addresses⟩)

end LibusbK
