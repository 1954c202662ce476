import LibusbK.Dll.PatternListing

/-!
# What a pattern should list

`LstK_InitEx` with a pattern, and `LstK_Init` filtered by `PathMatchSpec` afterwards.

## Main definitions

* `SameListing` — a pattern lists what passes it in the full listing.
* `RecordSet.Keys` — a listing as what it has of each interface.
* `ExactGuidAgrees` — what is taken for an exact GUID stands for what the pattern matches.

## Main results

* `mem_map_filter_lstKInit` — the full listing, filtered.
* `sameListing_iff` — when a pattern lists what it should.
-/

namespace LibusbK

namespace PatternListing

open HexFormat

/-! ### What a pattern is for -/

/-- The fields that are compared, the GUID less its case. -/
def ListItem.key (item : ListItem) : Text × Option DriverId × Text × Text × Bool :=
  (item.deviceID, item.driverID, strupr item.deviceInterfaceGUID, item.symbolicLink,
    item.connected)

/-- Whether an item passes a pattern. -/
def PatternText.passes (p : PatternText) (item : ListItem) : Bool :=
  applyPatternMatch p.deviceInterfaceGUID item.deviceInterfaceGUID &&
    applyPatternMatch p.classGUID item.classGUID && applyPatternMatch p.deviceID item.deviceID

/-- **A pattern lists what passes it in the full listing**, in whatever order and however
often. -/
def SameListing (records : RecordSet) (flags : UInt32) (p : PatternText) : Prop :=
  ∀ key, key ∈ (lstKInitEx records flags p).map ListItem.key ↔
    key ∈ ((lstKInit records flags).filter p.passes).map ListItem.key

/-! ### Keys -/

/-- What is listed of an interface: drivers and upper-case texts. -/
abbrev Entries := DeviceRecord → InterfaceRecord → Option DriverId → Text → Prop

/-- The keys of what is listed. -/
def RecordSet.Keys (records : RecordSet) (entries : Entries)
    (key : Text × Option DriverId × Text × Text × Bool) : Prop :=
  ∃ d ∈ records.devices, ∃ i ∈ d.interfaces, ∃ driver text, entries d i driver text ∧
    key = (d.instanceID, driver, text, i.devicePath, i.active)

section Keys

variable {records : RecordSet} {flags : UInt32} {p : PatternText}

/-- A key tells the device and the interface. -/
theorem keys_iff {entries : Entries} {d : DeviceRecord} (hd : d ∈ records.devices)
    {i : InterfaceRecord} (hi : i ∈ d.interfaces) (driver : Option DriverId) (text : Text) :
    records.Keys entries (d.instanceID, driver, text, i.devicePath, i.active) ↔
      entries d i driver text := by
  constructor
  · rintro ⟨d', hd', i', hi', driver', text', hentry, hkey⟩
    simp only [Prod.mk.injEq] at hkey
    obtain ⟨hid, rfl, rfl, hpath, -⟩ := hkey
    obtain rfl := List.inj_on_of_nodup_map records.nodup_ids hd hd' hid
    obtain rfl := List.inj_on_of_nodup_map d.nodup_paths hi hi' hpath
    exact hentry
  · exact fun hentry => ⟨d, hd, i, hi, driver, text, hentry, rfl⟩

/-- **Listings are the same if they list the same of each interface.** -/
theorem keys_congr_iff {entries entries' : Entries} :
    (∀ key, records.Keys entries key ↔ records.Keys entries' key) ↔
      ∀ d ∈ records.devices, ∀ i ∈ d.interfaces, ∀ driver text,
        entries d i driver text ↔ entries' d i driver text := by
  constructor
  · intro h d hd i hi driver text
    exact (keys_iff hd hi driver text).symm.trans ((h _).trans (keys_iff hd hi driver text))
  · intro h key
    constructor
    · rintro ⟨d, hd, i, hi, driver, text, hentry, rfl⟩
      exact (keys_iff hd hi driver text).mpr ((h d hd i hi driver text).mp hentry)
    · rintro ⟨d, hd, i, hi, driver, text, hentry, rfl⟩
      exact (keys_iff hd hi driver text).mpr ((h d hd i hi driver text).mpr hentry)

/-- What is listed of an interface under the labels that pass a pattern. -/
def LabelEntry (flags : UInt32) (p : PatternText) (d : DeviceRecord) (i : InterfaceRecord)
    (driver : Option DriverId) (text : Text) : Prop :=
  applyPatternMatch p.deviceID d.instanceID = true ∧
    ∃ service l, Labelled flags d service l i ∧
      applyPatternMatch p.deviceInterfaceGUID l.text = true ∧ driver = some l.driver ∧
      text = strupr l.text

/-- The class of a device passes a pattern. -/
def PatternText.ClassPasses (p : PatternText) (d : DeviceRecord) : Prop :=
  applyPatternMatch p.classGUID (guidToString d.classGuid).1 = true

/-- **The full listing**, filtered. -/
theorem mem_map_filter_lstKInit {key : Text × Option DriverId × Text × Text × Bool} :
    key ∈ ((lstKInit records flags).filter p.passes).map ListItem.key ↔
      records.Keys (fun d i driver text => p.ClassPasses d ∧ LabelEntry flags p d i driver text)
        key := by
  have hmem (x : ListItem) :=
    mem_enumKeyGuids_neither { records, flags, patternMatch := none } (x := x) rfl
  simp only [List.mem_map, List.mem_filter, lstKInit, hmem]
  constructor
  · rintro ⟨x, ⟨⟨d, hd, -, -, service, l, i, h, -, rfl⟩, hpasses⟩, rfl⟩
    obtain ⟨hrest, hid⟩ := Bool.and_eq_true_iff.mp hpasses
    obtain ⟨hguid, hclass⟩ := Bool.and_eq_true_iff.mp hrest
    exact ⟨d, hd, i, h.mem, some l.driver, strupr l.text,
      ⟨hclass, hid, service, l, h, hguid, rfl, rfl⟩, rfl⟩
  · rintro ⟨d, hd, i, hi, driver, text, ⟨hclass, hid, service, l, h, hguid, rfl, rfl⟩, rfl⟩
    refine ⟨_, ⟨⟨d, hd, rfl, rfl, service, l, i, h, rfl, rfl⟩, ?_⟩, rfl⟩
    exact Bool.and_eq_true_iff.mpr ⟨Bool.and_eq_true_iff.mpr ⟨hguid, hclass⟩, hid⟩

/-- The keys of a listing by labels, of the devices of some class. -/
theorem exists_key_iff {C : DeviceRecord → Prop} {classText : DeviceRecord → Text}
    {key : Text × Option DriverId × Text × Text × Bool} :
    (∃ x : ListItem, (∃ d ∈ records.devices, C d ∧
        applyPatternMatch p.deviceID d.instanceID = true ∧
        ∃ service l i, Labelled flags d service l i ∧
          applyPatternMatch p.deviceInterfaceGUID l.text = true ∧
          x = d.item service (classText d) (some l.driver) l.text i) ∧ x.key = key) ↔
      records.Keys (fun d i driver text => C d ∧ LabelEntry flags p d i driver text) key := by
  constructor
  · rintro ⟨x, ⟨d, hd, hclass, hid, service, l, i, h, hguid, rfl⟩, rfl⟩
    exact ⟨d, hd, i, h.mem, some l.driver, strupr l.text,
      ⟨hclass, hid, service, l, h, hguid, rfl, rfl⟩, rfl⟩
  · rintro ⟨d, hd, i, hi, driver, text, ⟨hclass, hid, service, l, h, hguid, rfl, rfl⟩, rfl⟩
    exact ⟨_, ⟨d, hd, hclass, hid, service, l, i, h, hguid, rfl⟩, rfl⟩

/-- **The listing by a pattern without an exact GUID.** -/
theorem mem_map_lstKInitEx_neither (h : p.exclusive = .neither)
    {key : Text × Option DriverId × Text × Text × Bool} :
    key ∈ (lstKInitEx records flags p).map ListItem.key ↔
      records.Keys (fun d i driver text => p.ClassPasses d ∧ LabelEntry flags p d i driver text)
        key := by
  simp only [List.mem_map, lstKInitEx, mem_enumKeyGuids_neither
    { records, flags, patternMatch := some p } h]
  exact exists_key_iff

/-- **The listing by an exact class GUID.** -/
theorem mem_map_lstKInitEx_class {guid : Guid} (h : p.exclusive = .classGuid guid)
    {key : Text × Option DriverId × Text × Text × Bool} :
    key ∈ (lstKInitEx records flags p).map ListItem.key ↔
      records.Keys (fun d i driver text => d.classGuid = guid ∧ LabelEntry flags p d i driver text)
        key := by
  simp only [List.mem_map, lstKInitEx, mem_enumKeyGuids_class
    { records, flags, patternMatch := some p } h]
  exact exists_key_iff

/-- What is listed of an interface by its GUID. -/
def DirectEntry (flags : UInt32) (p : PatternText) (guid : Guid) (d : DeviceRecord)
    (i : InterfaceRecord) (driver : Option DriverId) (text : Text) : Prop :=
  applyPatternMatch p.deviceID d.instanceID = true ∧
    ∃ service, d.Listable flags service ∧ i.interfaceClassGuid = guid ∧
      shown flags (assignDrvIdFromService service) i = true ∧
      driver = assignDrvIdFromService service ∧ text = strupr p.deviceInterfaceGUID

/-- **The listing by an exact interface GUID.** -/
theorem mem_map_lstKInitEx_interface {guid : Guid} (h : p.exclusive = .devInterfaceGuid guid)
    {key : Text × Option DriverId × Text × Text × Bool} :
    key ∈ (lstKInitEx records flags p).map ListItem.key ↔
      records.Keys (fun d i driver text =>
        p.ClassPasses d ∧ DirectEntry flags p guid d i driver text) key := by
  have hstart {params : EnumParams} (hpattern : params.patternMatch = some p) :
      params.startItem.deviceInterfaceGUID = p.deviceInterfaceGUID := by
    unfold EnumParams.startItem EnumParams.exclusive
    rw [hpattern, Option.map_some, Option.getD_some, h]
    rfl
  simp only [List.mem_map, lstKInitEx, mem_enumKeyGuids_interface
    { records, flags, patternMatch := some p } h, hstart]
  constructor
  · rintro ⟨x, ⟨d, hd, hclass, hid, service, hlistable, i, hi, hguid, hshown, rfl⟩, rfl⟩
    exact ⟨d, hd, i, hi, _, _, ⟨hclass, hid, service, hlistable, hguid, hshown, rfl, rfl⟩, rfl⟩
  · rintro ⟨d, hd, i, hi, driver, text,
      ⟨hclass, hid, service, hlistable, hguid, hshown, rfl, rfl⟩, rfl⟩
    exact ⟨_, ⟨d, hd, hclass, hid, service, hlistable, i, hi, hguid, hshown, rfl⟩, rfl⟩

end Keys

/-! ### When a pattern lists what it should -/

section Agree

variable {records : RecordSet} {flags : UInt32} {p : PatternText} {d : DeviceRecord}
  {service : Text} {i : InterfaceRecord}

/-- An interface is listed by an exact GUID as it is under the labels of its device.  A device
whose driver is unknown must not have the GUID at all, as its driver would be `-1`. -/
def InterfaceAgrees (flags : UInt32) (p : PatternText) (guid : Guid) (d : DeviceRecord)
    (service : Text) (i : InterfaceRecord) : Prop :=
  match assignDrvIdFromService service with
  | none =>
    (shown flags none i = true → i.interfaceClassGuid ≠ guid) ∧
      (shown flags (some .libusb0Filter) i = true → i.interfaceClassGuid = libusb0FilterGuid →
        ¬applyPatternMatch p.deviceInterfaceGUID libusb0FilterGuidA = true)
  | some driver =>
    shown flags (some driver) i = true →
      (i.interfaceClassGuid = guid ↔ ∃ l ∈ d.labels service, i.interfaceClassGuid = l.guid ∧
        applyPatternMatch p.deviceInterfaceGUID l.text = true) ∧
      ∀ l ∈ d.labels service, i.interfaceClassGuid = l.guid →
        applyPatternMatch p.deviceInterfaceGUID l.text = true →
          strupr l.text = strupr p.deviceInterfaceGUID

/-- The full listing has something of the device that passes the pattern but for the class. -/
def PatternText.Finds (p : PatternText) (flags : UInt32) (d : DeviceRecord) : Prop :=
  applyPatternMatch p.deviceID d.instanceID = true ∧
    ∃ service l i, Labelled flags d service l i ∧
      applyPatternMatch p.deviceInterfaceGUID l.text = true

/-- What is taken for an exact GUID stands for the devices or interfaces the pattern matches. -/
def ExactGuidAgrees (records : RecordSet) (flags : UInt32) (p : PatternText) : Prop :=
  match p.exclusive with
  | .neither => True
  | .classGuid guid => ∀ d ∈ records.devices, p.Finds flags d →
      (d.classGuid = guid ↔ p.ClassPasses d)
  | .devInterfaceGuid guid => ∀ d ∈ records.devices, p.ClassPasses d →
      applyPatternMatch p.deviceID d.instanceID = true → ∀ service, d.Listable flags service →
        ∀ i ∈ d.interfaces, InterfaceAgrees flags p guid d service i

theorem driver_of_mem_labels {l : GuidLabel} {driver : DriverId}
    (hdriver : assignDrvIdFromService service = some driver) (h : l ∈ d.labels service) :
    l.driver = driver := by
  unfold DeviceRecord.labels at h
  rw [hdriver] at h
  dsimp only at h
  cases hkey : d.registryKey with
  | none =>
    rw [hkey] at h
    cases h
  | some value =>
    rw [hkey] at h
    obtain ⟨s, -, hs⟩ := List.mem_filterMap.mp h
    obtain ⟨guid, -, rfl⟩ := Option.map_eq_some_iff.mp hs
    rfl

/-- A device has one service. -/
theorem DeviceRecord.Listable.unique {service' : Text} (h : d.Listable flags service)
    (h' : d.Listable flags service') : service' = service :=
  Option.some.inj (h'.service.symm.trans h.service)

theorem directEntry_iff {guid : Guid} (hid : applyPatternMatch p.deviceID d.instanceID = true)
    (h : d.Listable flags service) (driver : Option DriverId) (text : Text) :
    DirectEntry flags p guid d i driver text ↔ i.interfaceClassGuid = guid ∧
      shown flags (assignDrvIdFromService service) i = true ∧
      driver = assignDrvIdFromService service ∧ text = strupr p.deviceInterfaceGUID := by
  constructor
  · rintro ⟨-, service', h', hentry⟩
    rwa [h.unique h'] at hentry
  · exact fun hentry => ⟨hid, service, h, hentry⟩

theorem labelEntry_iff (hid : applyPatternMatch p.deviceID d.instanceID = true)
    (h : d.Listable flags service) (hi : i ∈ d.interfaces) (driver : Option DriverId)
    (text : Text) :
    LabelEntry flags p d i driver text ↔ ∃ l ∈ d.labels service, i.interfaceClassGuid = l.guid ∧
      shown flags (some l.driver) i = true ∧
      applyPatternMatch p.deviceInterfaceGUID l.text = true ∧ driver = some l.driver ∧
      text = strupr l.text := by
  constructor
  · rintro ⟨-, service', l, hl, hentry⟩
    obtain rfl := h.unique hl.listable
    exact ⟨l, hl.label, hl.guid, hl.shown, hentry⟩
  · rintro ⟨l, hl, hguid, hshown, hentry⟩
    exact ⟨hid, service, l, ⟨h, hl, hi, hguid, hshown⟩, hentry⟩

/-- **One interface is listed the same both ways.** -/
theorem interfaceAgrees_iff {guid : Guid}
    (hid : applyPatternMatch p.deviceID d.instanceID = true) (h : d.Listable flags service)
    (hi : i ∈ d.interfaces) :
    (∀ driver text, DirectEntry flags p guid d i driver text ↔
        LabelEntry flags p d i driver text) ↔ InterfaceAgrees flags p guid d service i := by
  simp only [directEntry_iff hid h, labelEntry_iff hid h hi]
  unfold InterfaceAgrees
  cases hdriver : assignDrvIdFromService service with
  | none =>
    have hlabels : d.labels service =
        [⟨libusb0FilterGuid, libusb0FilterGuidA, .libusb0Filter⟩] := by
      unfold DeviceRecord.labels
      rw [hdriver]
    simp only [hlabels, List.mem_singleton, exists_eq_left]
    constructor
    · intro hsame
      refine ⟨fun hshown hguid => ?_, fun hshown hguid hpasses => ?_⟩
      · have hentry := (hsame none (strupr p.deviceInterfaceGUID)).mp ⟨hguid, hshown, rfl, rfl⟩
        cases hentry.2.2.2.1
      · have hentry := (hsame (some .libusb0Filter) (strupr libusb0FilterGuidA)).mpr
          ⟨hguid, hshown, hpasses, rfl, rfl⟩
        cases hentry.2.2.1
    · rintro ⟨hdirect, hlabel⟩ driver text
      refine iff_of_false ?_ ?_
      · rintro ⟨hguid, hshown, -⟩
        exact hdirect hshown hguid
      · rintro ⟨hguid, hshown, hpasses, -⟩
        exact hlabel hshown hguid hpasses
  | some driver =>
    constructor
    · intro hsame hshown
      have hlisted (l : GuidLabel) (hl : l ∈ d.labels service)
          (hguid : i.interfaceClassGuid = l.guid)
          (hpasses : applyPatternMatch p.deviceInterfaceGUID l.text = true) :=
        (hsame (some l.driver) (strupr l.text)).mpr
          ⟨l, hl, hguid, (driver_of_mem_labels hdriver hl).symm ▸ hshown, hpasses, rfl, rfl⟩
      refine ⟨⟨fun hguid => ?_, ?_⟩, fun l hl hguid hpasses => ?_⟩
      · obtain ⟨l, hl, hlguid, -, hpasses, -⟩ :=
          (hsame (some driver) (strupr p.deviceInterfaceGUID)).mp ⟨hguid, hshown, rfl, rfl⟩
        exact ⟨l, hl, hlguid, hpasses⟩
      · rintro ⟨l, hl, hguid, hpasses⟩
        exact (hlisted l hl hguid hpasses).1
      · exact (hlisted l hl hguid hpasses).2.2.2
    · intro hagrees driver' text
      constructor
      · rintro ⟨hguid, hshown, rfl, rfl⟩
        obtain ⟨hiff, htext⟩ := hagrees hshown
        obtain ⟨l, hl, hlguid, hpasses⟩ := hiff.mp hguid
        have hsame := driver_of_mem_labels hdriver hl
        exact ⟨l, hl, hlguid, hsame.symm ▸ hshown, hpasses, by rw [hsame],
          (htext l hl hlguid hpasses).symm⟩
      · rintro ⟨l, hl, hlguid, hshown, hpasses, rfl, rfl⟩
        have hsame := driver_of_mem_labels hdriver hl
        rw [hsame] at hshown
        obtain ⟨hiff, htext⟩ := hagrees hshown
        exact ⟨hiff.mpr ⟨l, hl, hlguid, hpasses⟩, hshown, by rw [hsame],
          htext l hl hlguid hpasses⟩

/-- The listing by an exact interface GUID. -/
theorem sameListing_interface_iff {guid : Guid} (h : p.exclusive = .devInterfaceGuid guid) :
    SameListing records flags p ↔ ∀ d ∈ records.devices, p.ClassPasses d →
      applyPatternMatch p.deviceID d.instanceID = true → ∀ service, d.Listable flags service →
        ∀ i ∈ d.interfaces, InterfaceAgrees flags p guid d service i := by
  simp only [SameListing, mem_map_lstKInitEx_interface h, mem_map_filter_lstKInit, keys_congr_iff]
  refine forall₂_congr fun d hd => ?_
  constructor
  · intro hsame hclass hid service hlistable i hi
    refine (interfaceAgrees_iff hid hlistable hi).mp fun driver text => ?_
    have hentries := hsame i hi driver text
    rwa [and_iff_right hclass, and_iff_right hclass] at hentries
  · intro hagrees i hi driver text
    refine and_congr_right fun hclass => ?_
    constructor
    · rintro ⟨hid, service, hlistable, hentry⟩
      exact ((interfaceAgrees_iff hid hlistable hi).mpr
        (hagrees hclass hid service hlistable i hi) driver text).mp
          ⟨hid, service, hlistable, hentry⟩
    · rintro ⟨hid, service, l, hl, hentry⟩
      exact ((interfaceAgrees_iff hid hl.listable hi).mpr
        (hagrees hclass hid service hl.listable i hi) driver text).mpr
          ⟨hid, service, l, hl, hentry⟩

/-- The listing by an exact class GUID. -/
theorem sameListing_class_iff {guid : Guid} (h : p.exclusive = .classGuid guid) :
    SameListing records flags p ↔ ∀ d ∈ records.devices, p.Finds flags d →
      (d.classGuid = guid ↔ p.ClassPasses d) := by
  simp only [SameListing, mem_map_lstKInitEx_class h, mem_map_filter_lstKInit, keys_congr_iff]
  refine forall₂_congr fun d hd => ?_
  constructor
  · rintro hsame ⟨hid, service, l, i, hl, hpasses⟩
    have hentry : LabelEntry flags p d i (some l.driver) (strupr l.text) :=
      ⟨hid, service, l, hl, hpasses, rfl, rfl⟩
    have hentries := hsame i hl.mem (some l.driver) (strupr l.text)
    rwa [and_iff_left hentry, and_iff_left hentry] at hentries
  · intro hagrees i hi driver text
    refine and_congr_left fun hentry => hagrees ?_
    obtain ⟨hid, service, l, hl, hpasses, -⟩ := hentry
    exact ⟨hid, service, l, i, hl, hpasses⟩

/-- **A pattern lists what passes it in the full listing exactly when** what is taken for an
exact GUID in it stands for what the pattern matches. -/
theorem sameListing_iff (records : RecordSet) (flags : UInt32) (p : PatternText) :
    SameListing records flags p ↔ ExactGuidAgrees records flags p := by
  unfold ExactGuidAgrees
  cases h : p.exclusive with
  | devInterfaceGuid guid => exact sameListing_interface_iff h
  | classGuid guid => exact sameListing_class_iff h
  | neither =>
    refine iff_of_true (fun key => ?_) trivial
    rw [mem_map_lstKInitEx_neither h, mem_map_filter_lstKInit]

end Agree

/-- The pattern for devices with a filter. -/
def filterPattern : PatternText where
  deviceID := []
  deviceInterfaceGUID := libusb0FilterGuidA
  classGUID := []

/-- A connected interface of the filter. -/
def filterInterface : InterfaceRecord where
  interfaceClassGuid := libusb0FilterGuid
  active := true
  removed := false
  devicePath := [0x5C, 0x5C, 0x3F, 0x5C, 0x75, 0x73, 0x62]
  hasKey := true

/-- A device with the function driver `HidUsb` and a filter. -/
def filteredDevice : DeviceRecord where
  instanceID := usbVidText ++ [0x30, 0x34, 0x44, 0x38, 0x5C, 0x31]
  classGuid := ⟨0x745A17A0, 0x74D3, 0x11D0, #v[0xB6, 0xFE, 0x00, 0xA0, 0xC9, 0x0F, 0x57, 0xDA]⟩
  present := true
  service := some [0x48, 0x69, 0x64, 0x55, 0x73, 0x62]
  registryKey := none
  interfaces := [filterInterface]
  nodup_paths := List.nodup_singleton _

def filteredDevices : RecordSet where
  devices := [filteredDevice]
  nodup_ids := List.nodup_singleton _

/-- The pattern lists the device with the driver `-1`. -/
theorem not_sameListing_filterPattern : ¬SameListing filteredDevices 0 filterPattern := by
  have hexclusive : filterPattern.exclusive = .devInterfaceGuid libusb0FilterGuid := by decide
  rw [sameListing_interface_iff hexclusive]
  intro h
  have hagrees := h filteredDevice List.mem_cons_self rfl rfl _ ⟨by decide, .inl rfl, rfl⟩
    filterInterface List.mem_cons_self
  exact hagrees.1 (by decide) rfl

end PatternListing

end LibusbK
