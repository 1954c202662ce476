import LibusbK.Dll.PathMatch
import LibusbK.Dll.RegistryGuids
import LibusbK.Lib.Appending

/-!
# Listing devices by a pattern

`l_EnumKey_Guids`, `l_EnumKey_Instances` and `LstK_InitInternal` of `lusbk_device_list.c`.  The
devices and interfaces that SetupAPI and the registry report are a set of records, no allocation
fails, and every text fits its buffer.  Fields of a device that neither decide what is listed
nor are compared are left out.

## Main definitions

* `RecordSet` — the records, with the queries `classDevs` and `deviceInterfaces`.
* `enumKeyInstances`, `enumDevice`, `enumKeyGuids` — the functions, with the scratch item.
* `Labelled` — what the full listing lists a device for.

## Main results

* `like_enumKeyInstances`, `adds_enumService` — what the routines append for a device.
* `mem_enumKeyGuids_neither`, `mem_enumKeyGuids_class`, `mem_enumKeyGuids_interface` — what each
  strategy lists.
-/

namespace LibusbK

namespace PatternListing

open HexFormat MultiString Appending

/-! ### Records -/

/-- A device interface: `SP_DEVICE_INTERFACE_DATA`, with its detail. -/
structure InterfaceRecord where
  interfaceClassGuid : Guid
  /-- `SPINT_ACTIVE` -/
  active : Bool
  /-- `SPINT_REMOVED` -/
  removed : Bool
  devicePath : Text
  /-- Whether `SetupDiOpenDeviceInterfaceRegKey` opens its key. -/
  hasKey : Bool

/-- A device, with its interfaces. -/
structure DeviceRecord where
  instanceID : Text
  classGuid : Guid
  present : Bool
  /-- `SPDRP_SERVICE` -/
  service : Option Text
  /-- The key that `SetupDiOpenDevRegKey` opens, if it does, and the value in it that lists the
  interface GUIDs, if there is one. -/
  registryKey : Option (Option (List UInt8))
  interfaces : List InterfaceRecord
  nodup_paths : (interfaces.map InterfaceRecord.devicePath).Nodup

/-- All devices. -/
structure RecordSet where
  devices : List DeviceRecord
  nodup_ids : (devices.map DeviceRecord.instanceID).Nodup

/-- `USB` -/
def usbEnumerator : Text := [0x55, 0x53, 0x42]

/-- `USB\VID_` -/
def usbVidText : Text := [0x55, 0x53, 0x42, 0x5C, 0x56, 0x49, 0x44, 0x5F]

/-- `{F9F3FF14-AE21-48A0-8A25-8011A7A931D9}`: `Libusb0FilterGuidA` -/
def libusb0FilterGuidA : Text :=
  [0x7B, 0x46, 0x39, 0x46, 0x33, 0x46, 0x46, 0x31, 0x34, 0x2D, 0x41, 0x45, 0x32, 0x31, 0x2D, 0x34,
    0x38, 0x41, 0x30, 0x2D, 0x38, 0x41, 0x32, 0x35, 0x2D, 0x38, 0x30, 0x31, 0x31, 0x41, 0x37, 0x41,
    0x39, 0x33, 0x31, 0x44, 0x39, 0x7D]

/-- `Libusb0FilterGuid` -/
def libusb0FilterGuid : Guid where
  data1 := 0xF9F3FF14
  data2 := 0xAE21
  data3 := 0x48A0
  data4 := #v[0x8A, 0x25, 0x80, 0x11, 0xA7, 0xA9, 0x31, 0xD9]

/-- What the instance id is of before its first backslash. -/
def DeviceRecord.enumerator (d : DeviceRecord) : Text :=
  d.instanceID.takeWhile (· ≠ CHAR_BACKSLASH)

namespace RecordSet

variable (records : RecordSet)

/-- `SetupDiGetClassDevsA` with the enumerator `USB`, for all classes or one, and
`SetupDiEnumDeviceInfo`; `onlyPresent` is `DIGCF_PRESENT`. -/
def classDevs (setupClassGuid : Option Guid) (onlyPresent : Bool) : List DeviceRecord :=
  records.devices.filter fun d =>
    strupr d.enumerator == usbEnumerator && (d.present || !onlyPresent) &&
      setupClassGuid.all (d.classGuid == ·)

/-- `SetupDiGetClassDevsA` with `DIGCF_DEVICEINTERFACE`, for all devices or for the one whose id
is the enumerator, and `SetupDiEnumDeviceInterfaces`. -/
def deviceInterfaces (guid : Guid) (enumerator : Option Text) (onlyPresent : Bool) :
    List (DeviceRecord × InterfaceRecord) :=
  (records.devices.filter fun d =>
    (d.present || !onlyPresent) && enumerator.all (d.instanceID == ·)).flatMap fun d =>
      (d.interfaces.filter fun i => i.interfaceClassGuid == guid).map fun i => (d, i)

end RecordSet

/-! ### Patterns -/

/-- `KLST_PATTERN_MATCH` -/
structure PatternText where
  deviceID : Text
  deviceInterfaceGUID : Text
  classGUID : Text

/-- `mLst_ApplyPatternMatch` with one field of a pattern. -/
def applyPatternMatch (spec value : Text) : Bool := spec == [] || LibusbK.scan spec value

/-- `Exclusive`, of which at most one is set, with the GUID that has been read. -/
inductive Exclusive
  | devInterfaceGuid (guid : Guid)
  | classGuid (guid : Guid)
  | neither
  deriving DecidableEq, Repr

/-- A field of a pattern that is taken for an exact GUID. -/
def exactGuid (text : Text) : Option Guid :=
  if text ≠ [] ∧ text.length = GUID_STRING_LENGTH then stringToGuid text else none

/-- What a pattern is exclusive for. -/
def PatternText.exclusive (p : PatternText) : Exclusive :=
  match exactGuid p.deviceInterfaceGUID with
  | some guid => .devInterfaceGuid guid
  | none =>
    match exactGuid p.classGUID with
    | some guid => .classGuid guid
    | none => .neither

/-! ### The enumeration -/

/-- The fields of `KLST_DEVINFO`, first those of the scratch item; `none` is the driver `-1`. -/
structure ListItem where
  driverID : Option DriverId
  deviceInterfaceGUID : Text
  deviceID : Text
  classGUID : Text
  service : Text
  symbolicLink : Text
  connected : Bool
  deriving DecidableEq, Repr

/-- The scratch item after `Mem_Zero`. -/
def blankItem : ListItem where
  driverID := some .libusbK
  deviceInterfaceGUID := []
  deviceID := []
  classGUID := []
  service := []
  symbolicLink := []
  connected := false

/-- The fields of `KUSB_ENUM_REGKEY_PARAMS` that stay as they are. -/
structure EnumParams where
  records : RecordSet
  flags : UInt32
  patternMatch : Option PatternText

/-- Those that change. -/
structure EnumState where
  tempItem : ListItem
  list : List ListItem := []

/-- `KLST_FLAG_INCLUDE_DISCONNECT` -/
def includesDisconnected (flags : UInt32) : Bool := flags &&& 0x0002 != 0

/-- The services of `DrvIdMap_Services`. -/
def drvIdMapServices : List (Text × DriverId) :=
  [([0x4C, 0x49, 0x42, 0x55, 0x53, 0x42, 0x4B], .libusbK),
    ([0x4C, 0x49, 0x42, 0x55, 0x53, 0x42, 0x30], .libusb0),
    ([0x57, 0x49, 0x4E, 0x55, 0x53, 0x42], .winUsb)]

/-- `mLst_Assign_DrvId_From_Service` -/
def assignDrvIdFromService (service : Text) : Option DriverId :=
  (drvIdMapServices.find? fun entry => strupr service == entry.1).map Prod.snd

/-- The strings the walk over the registry value comes to, as in `Walks`. -/
def guidStrings (driver : DriverId) (value : Option (List UInt8)) : List Text :=
  ((value.or driver.defaultGuid).map (listed 0)).getD []

namespace EnumParams

variable (params : EnumParams)

def onlyPresent : Bool := !includesDisconnected params.flags

/-- `mLst_ApplyPatternMatch` -/
def applies (field : PatternText → Text) (value : Text) : Bool :=
  params.patternMatch.all fun p => applyPatternMatch (field p) value

def exclusive : Exclusive := (params.patternMatch.map PatternText.exclusive).getD .neither

/-- The scratch item when the enumeration starts. -/
def startItem : ListItem :=
  match params.exclusive with
  | .devInterfaceGuid _ =>
    { blankItem with
      deviceInterfaceGUID := (params.patternMatch.map (·.deviceInterfaceGUID)).getD [] }
  | .classGuid _ =>
    { blankItem with classGUID := (params.patternMatch.map (·.classGUID)).getD [] }
  | .neither => blankItem

end EnumParams

section Enumeration

variable (params : EnumParams)

/-- `mLst_HandleConnectScenario`, and the rest unless it skips the interface. -/
def handleConnectScenario (i : InterfaceRecord) (rest : EnumState → EnumState) (s : EnumState) :
    EnumState :=
  if i.removed then s
  else
    let s := { s with tempItem := { s.tempItem with connected := i.active } }
    if !s.tempItem.connected && !includesDisconnected params.flags then s else rest s

/-- The body of the loop of `l_EnumKey_Instances`, from the test for filter devices on. -/
def addInterface (isExclusive : Bool) (i : InterfaceRecord) (s : EnumState) : EnumState :=
  if !s.tempItem.connected && s.tempItem.driverID == some .libusb0Filter then s
  else
    let s :=
      if isExclusive then s
      else { s with tempItem := { s.tempItem with symbolicLink := i.devicePath } }
    -- the index of a filter is in a key of the interface
    if s.tempItem.connected && (s.tempItem.driverID == some .libusb0 ||
        s.tempItem.driverID == some .libusb0Filter) && !i.hasKey then s
    else { s with list := s.list ++ [s.tempItem] }

/-- `l_EnumKey_Instances`.  Where the listing is exclusive for an interface GUID, `current` is
the interface it has come to. -/
def enumKeyInstances (current : Option InterfaceRecord) (guid : Guid) (s : EnumState) :
    EnumState :=
  match current with
  | some i => addInterface true i s
  | none =>
    if params.applies (·.deviceInterfaceGUID) s.tempItem.deviceInterfaceGUID then
      (params.records.deviceInterfaces guid (some s.tempItem.deviceID) params.onlyPresent).foldl
        (fun s found => handleConnectScenario params found.2 (addInterface false found.2) s) s
    else s

/-- The scratch item with the text of a GUID in it. -/
def ListItem.named (item : ListItem) (guidString : Text) : ListItem :=
  { item with deviceInterfaceGUID := guidString }

/-- One string of the registry value. -/
def enumGuidString (s : EnumState) (guidString : Text) : EnumState :=
  let s := { s with tempItem := s.tempItem.named guidString }
  match stringToGuid guidString with
  | some guid => enumKeyInstances params none guid s
  | none => s

/-- The scratch item where the function driver of a device is unknown. -/
def ListItem.asFilter (item : ListItem) : ListItem :=
  { item with deviceInterfaceGUID := libusb0FilterGuidA, driverID := some .libusb0Filter }

/-- The end of the loop of `l_EnumKey_Guids`, for a device whose service is known. -/
def enumService (current : Option InterfaceRecord) (d : DeviceRecord) (s : EnumState) :
    EnumState :=
  match params.exclusive with
  | .devInterfaceGuid guid => enumKeyInstances params current guid s
  | _ =>
    match s.tempItem.driverID with
    | none =>
      enumKeyInstances params none libusb0FilterGuid { s with tempItem := s.tempItem.asFilter }
    | some driver =>
      match d.registryKey with
      | none => s
      | some value => (guidStrings driver value).foldl (enumGuidString params) s

/-- The loop of `l_EnumKey_Guids`, from the class GUID on. -/
def enumDevice (current : Option InterfaceRecord) (d : DeviceRecord) (s : EnumState) :
    EnumState :=
  match params.exclusive with
  | .classGuid _ => enumID s
  | _ =>
    let (guidString, ok) := guidToString d.classGuid
    let s := { s with tempItem := { s.tempItem with classGUID := guidString } }
    if ok && params.applies (·.classGUID) s.tempItem.classGUID then enumID s else s
where
  /-- From the instance id on. -/
  enumID (s : EnumState) : EnumState :=
    let s := { s with tempItem := { s.tempItem with deviceID := d.instanceID } }
    if strupr (s.tempItem.deviceID.take usbVidText.length) == usbVidText &&
        params.applies (·.deviceID) s.tempItem.deviceID then
      match d.service with
      | none => s
      | some service =>
        enumService params current d
          { s with
            tempItem :=
              { s.tempItem with service, driverID := assignDrvIdFromService service } }
    else s

/-- `l_EnumKey_Guids` -/
def enumKeyGuids : EnumState :=
  let start : EnumState := { tempItem := params.startItem }
  match params.exclusive with
  | .devInterfaceGuid guid =>
    (params.records.deviceInterfaces guid none params.onlyPresent).foldl (fun s found =>
      handleConnectScenario params found.2 (enumDevice params (some found.2) found.1)
        { s with tempItem := { s.tempItem with symbolicLink := found.2.devicePath } }) start
  | .classGuid guid =>
    (params.records.classDevs (some guid) params.onlyPresent).foldl
      (fun s d => enumDevice params none d s) start
  | .neither =>
    (params.records.classDevs none params.onlyPresent).foldl
      (fun s d => enumDevice params none d s) start

end Enumeration

/-- `LstK_InitEx` -/
def lstKInitEx (records : RecordSet) (flags : UInt32) (p : PatternText) : List ListItem :=
  (enumKeyGuids { records, flags, patternMatch := some p }).list

/-- `LstK_Init` -/
def lstKInit (records : RecordSet) (flags : UInt32) : List ListItem :=
  (enumKeyGuids { records, flags, patternMatch := none }).list

/-! ### One interface -/

/-- Whether an interface is listed under a driver. -/
def shown (flags : UInt32) (driver : Option DriverId) (i : InterfaceRecord) : Bool :=
  !i.removed && (i.active || includesDisconnected flags) &&
    (i.active || driver != some .libusb0Filter) &&
    !(i.active && (driver == some .libusb0 || driver == some .libusb0Filter) && !i.hasKey)

/-- An item for an interface. -/
def ListItem.on (item : ListItem) (i : InterfaceRecord) : ListItem :=
  { item with symbolicLink := i.devicePath, connected := i.active }

/-- An item that differs in what is written for each interface. -/
def ListItem.Like (item item' : ListItem) : Prop :=
  ∃ symbolicLink connected, item' = { item with symbolicLink, connected }

theorem ListItem.Like.refl (item : ListItem) : item.Like item := ⟨_, _, rfl⟩

section Instances

variable {params : EnumParams} {item : ListItem} {s : EnumState}

/-- **One interface of the loop of `l_EnumKey_Instances`.** -/
theorem like_handleConnectScenario (params : EnumParams) (i : InterfaceRecord)
    (h : item.Like s.tempItem) :
    item.Like (handleConnectScenario params i (addInterface false i) s).tempItem ∧
      Adds EnumState.list s (handleConnectScenario params i (addInterface false i) s) fun x =>
        shown params.flags item.driverID i = true ∧ x = item.on i := by
  obtain ⟨link, connected, hitem⟩ := h
  obtain ⟨tempItem, list⟩ := s
  obtain rfl : tempItem = { item with symbolicLink := link, connected } := hitem
  unfold handleConnectScenario addInterface shown Adds ListItem.on
  cases i.removed <;> cases i.active <;> cases includesDisconnected params.flags <;>
    cases i.hasKey <;> cases hfilter : item.driverID == some .libusb0Filter <;>
    cases husb0 : item.driverID == some .libusb0 <;>
    simp [hfilter, husb0, bne, ListItem.Like]

variable {d : DeviceRecord}

/-- A device is found under its instance id. -/
theorem mem_deviceInterfaces (guid : Guid) (hd : d ∈ params.records.devices)
    (hpresent : d.present = true ∨ includesDisconnected params.flags = true)
    (found : DeviceRecord × InterfaceRecord) :
    found ∈ params.records.deviceInterfaces guid (some d.instanceID) params.onlyPresent ↔
      found.1 = d ∧ found.2 ∈ d.interfaces ∧ found.2.interfaceClassGuid = guid := by
  obtain ⟨d', i⟩ := found
  simp only [RecordSet.deviceInterfaces, List.mem_flatMap, List.mem_filter, List.mem_map,
    Bool.and_eq_true, Option.all_some, beq_iff_eq, Prod.mk.injEq, EnumParams.onlyPresent,
    Bool.not_not, Bool.or_eq_true]
  constructor
  · rintro ⟨d'', ⟨hmem, -, hid⟩, i', ⟨hi, hguid⟩, rfl, rfl⟩
    obtain rfl := List.inj_on_of_nodup_map params.records.nodup_ids hmem hd hid
    exact ⟨rfl, hi, hguid⟩
  · rintro ⟨rfl, hi, hguid⟩
    exact ⟨d', ⟨hd, hpresent, rfl⟩, i, ⟨hi, hguid⟩, rfl, rfl⟩

/-- **`l_EnumKey_Instances` for a device**, in a listing that is not exclusive for an interface
GUID. -/
theorem like_enumKeyInstances (guid : Guid) (hd : d ∈ params.records.devices)
    (hpresent : d.present = true ∨ includesDisconnected params.flags = true)
    (h : item.Like s.tempItem) (hid : item.deviceID = d.instanceID) :
    item.Like (enumKeyInstances params none guid s).tempItem ∧
      Adds EnumState.list s (enumKeyInstances params none guid s) fun x =>
        params.applies (·.deviceInterfaceGUID) item.deviceInterfaceGUID = true ∧
          ∃ i ∈ d.interfaces, i.interfaceClassGuid = guid ∧
            shown params.flags item.driverID i = true ∧ x = item.on i := by
  have hname : s.tempItem.deviceInterfaceGUID = item.deviceInterfaceGUID := by
    obtain ⟨link, connected, hitem⟩ := h
    rw [hitem]
  have hsame : s.tempItem.deviceID = d.instanceID := by
    obtain ⟨link, connected, hitem⟩ := h
    rw [hitem]
    exact hid
  unfold enumKeyInstances
  dsimp only
  rw [hname, hsame]
  by_cases happlies : params.applies (·.deviceInterfaceGUID) item.deviceInterfaceGUID = true
  · rw [if_pos happlies]
    obtain ⟨hlike, hadds⟩ := adds_foldl EnumState.list (fun s => item.Like s.tempItem)
      (fun (found : DeviceRecord × InterfaceRecord) _ s hs =>
        like_handleConnectScenario params found.2 hs) h
    refine ⟨hlike, hadds.congr fun x => ⟨?_, ?_⟩⟩
    · rintro ⟨found, hmem, hshown, rfl⟩
      obtain ⟨-, hi, hguid⟩ := (mem_deviceInterfaces guid hd hpresent found).mp hmem
      exact ⟨happlies, found.2, hi, hguid, hshown, rfl⟩
    · rintro ⟨-, i, hi, hguid, hshown, rfl⟩
      exact ⟨(d, i), (mem_deviceInterfaces guid hd hpresent (d, i)).mpr ⟨rfl, hi, hguid⟩,
        hshown, rfl⟩
  · rw [if_neg happlies]
    exact ⟨h, .nothing rfl fun x hx => happlies hx.1⟩

end Instances

/-! ### One device -/

/-- What a device is looked for under in the full listing: an interface GUID, its text and the
driver. -/
structure GuidLabel where
  guid : Guid
  text : Text
  driver : DriverId
  deriving DecidableEq, Repr

/-- The labels of a device that has a service: the strings of the registry that are GUIDs if
the service is that of a driver, and else the GUID of the filter. -/
def DeviceRecord.labels (d : DeviceRecord) (service : Text) : List GuidLabel :=
  match assignDrvIdFromService service with
  | none => [⟨libusb0FilterGuid, libusb0FilterGuidA, .libusb0Filter⟩]
  | some driver =>
    match d.registryKey with
    | none => []
    | some value =>
      (guidStrings driver value).filterMap fun s => (stringToGuid s).map (⟨·, s, driver⟩)

/-- The item that is listed for an interface. -/
def DeviceRecord.item (d : DeviceRecord) (service classText : Text) (driver : Option DriverId)
    (guidText : Text) (i : InterfaceRecord) : ListItem where
  driverID := driver
  deviceInterfaceGUID := guidText
  deviceID := d.instanceID
  classGUID := classText
  service := service
  symbolicLink := i.devicePath
  connected := i.active

/-- A USB device that is listed with this service, if any of its interfaces is. -/
structure DeviceRecord.Listable (flags : UInt32) (d : DeviceRecord) (service : Text) : Prop where
  usb : strupr (d.instanceID.take usbVidText.length) = usbVidText
  present : d.present = true ∨ includesDisconnected flags = true
  service : d.service = some service

/-- **What the full listing lists a device for**: a label and an interface with its GUID. -/
structure Labelled (flags : UInt32) (d : DeviceRecord) (service : Text) (l : GuidLabel)
    (i : InterfaceRecord) : Prop where
  listable : d.Listable flags service
  label : l ∈ d.labels service
  mem : i ∈ d.interfaces
  guid : i.interfaceClassGuid = l.guid
  shown : shown flags (some l.driver) i = true

section Device

variable {params : EnumParams} {d : DeviceRecord} {s : EnumState} {item : ListItem}

/-- An item that differs in the GUID too. -/
def ListItem.LikeNamed (item item' : ListItem) : Prop :=
  ∃ guidString, (item.named guidString).Like item'

/-- **One string of the registry.** -/
theorem likeNamed_enumGuidString (hd : d ∈ params.records.devices)
    (hpresent : d.present = true ∨ includesDisconnected params.flags = true)
    (h : item.LikeNamed s.tempItem) (hid : item.deviceID = d.instanceID) (guidString : Text) :
    item.LikeNamed (enumGuidString params s guidString).tempItem ∧
      Adds EnumState.list s (enumGuidString params s guidString) fun x =>
        ∃ guid, stringToGuid guidString = some guid ∧
          params.applies (·.deviceInterfaceGUID) guidString = true ∧
          ∃ i ∈ d.interfaces, i.interfaceClassGuid = guid ∧
            shown params.flags item.driverID i = true ∧
            x = (item.named guidString).on i := by
  obtain ⟨name, link, connected, hitem⟩ := h
  have hlike : (item.named guidString).Like (s.tempItem.named guidString) := by
    rw [hitem]
    exact ⟨link, connected, rfl⟩
  unfold enumGuidString
  dsimp only
  cases hguid : stringToGuid guidString with
  | none =>
    refine ⟨⟨guidString, hlike⟩, .nothing rfl fun x => ?_⟩
    rintro ⟨guid, hsome, -⟩
    cases hsome
  | some guid =>
    obtain ⟨hlike', hadds⟩ := like_enumKeyInstances guid
      (s := { s with tempItem := s.tempItem.named guidString })
      hd hpresent hlike hid
    refine ⟨⟨guidString, hlike'⟩, fun x => (hadds x).trans (or_congr_right ?_)⟩
    constructor
    · exact fun hx => ⟨guid, rfl, hx⟩
    · rintro ⟨guid', hsome, hx⟩
      cases hsome
      exact hx

theorem ListItem.on_eq {service : Text} (hid : item.deviceID = d.instanceID)
    (hservice : item.service = service) (i : InterfaceRecord) :
    item.on i = d.item service item.classGUID item.driverID item.deviceInterfaceGUID i := by
  rw [← hservice]
  unfold ListItem.on DeviceRecord.item
  rw [hid]

/-- What is listed under the labels of a device. -/
def Listed (params : EnumParams) (d : DeviceRecord) (service classText : Text) (x : ListItem) :
    Prop :=
  ∃ l ∈ d.labels service, params.applies (·.deviceInterfaceGUID) l.text = true ∧
    ∃ i ∈ d.interfaces, i.interfaceClassGuid = l.guid ∧
      shown params.flags (some l.driver) i = true ∧
      x = d.item service classText (some l.driver) l.text i

theorem enumService_of_unknown (hexclusive : ∀ guid, params.exclusive ≠ .devInterfaceGuid guid)
    (hdriver : s.tempItem.driverID = none) :
    enumService params none d s = enumKeyInstances params none libusb0FilterGuid
      { s with tempItem := s.tempItem.asFilter } := by
  unfold enumService
  cases hex : params.exclusive with
  | devInterfaceGuid guid => exact absurd hex (hexclusive guid)
  | classGuid guid => simp only [hdriver]
  | neither => simp only [hdriver]

theorem enumService_of_driver (hexclusive : ∀ guid, params.exclusive ≠ .devInterfaceGuid guid)
    {driver : DriverId} (hdriver : s.tempItem.driverID = some driver) :
    enumService params none d s =
      match d.registryKey with
      | none => s
      | some value => (guidStrings driver value).foldl (enumGuidString params) s := by
  unfold enumService
  cases hex : params.exclusive with
  | devInterfaceGuid guid => exact absurd hex (hexclusive guid)
  | classGuid guid => simp only [hdriver]
  | neither => simp only [hdriver]

/-- **The end of the loop for a device** whose id and service are in the scratch item. -/
theorem adds_enumService (hd : d ∈ params.records.devices)
    (hpresent : d.present = true ∨ includesDisconnected params.flags = true)
    (hexclusive : ∀ guid, params.exclusive ≠ .devInterfaceGuid guid) {service : Text}
    (hid : s.tempItem.deviceID = d.instanceID) (hservice : s.tempItem.service = service)
    (hdriver : s.tempItem.driverID = assignDrvIdFromService service) :
    (enumService params none d s).tempItem.classGUID = s.tempItem.classGUID ∧
      Adds EnumState.list s (enumService params none d s)
        (Listed params d service s.tempItem.classGUID) := by
  unfold Listed DeviceRecord.labels
  cases hassign : assignDrvIdFromService service with
  | none =>
    rw [enumService_of_unknown hexclusive (hdriver.trans hassign)]
    obtain ⟨⟨link, connected, hlike⟩, hadds⟩ :=
      like_enumKeyInstances (s := { s with tempItem := s.tempItem.asFilter })
        libusb0FilterGuid hd hpresent (.refl s.tempItem.asFilter) hid
    refine ⟨by rw [hlike]; rfl, hadds.congr fun x => ?_⟩
    simp only [List.mem_singleton, exists_eq_left, s.tempItem.asFilter.on_eq hid hservice]
    rfl
  | some driver =>
    have hdriver := hdriver.trans hassign
    rw [enumService_of_driver hexclusive hdriver]
    cases d.registryKey with
    | none => exact ⟨rfl, .nothing rfl fun x ⟨l, hl, _⟩ => List.not_mem_nil hl⟩
    | some value =>
      obtain ⟨⟨name, link, connected, hlike⟩, hadds⟩ := adds_foldl EnumState.list
        (fun t => s.tempItem.LikeNamed t.tempItem)
        (fun guidString _ t ht => likeNamed_enumGuidString hd hpresent ht hid guidString)
        (l := guidStrings driver value) ⟨_, .refl _⟩
      have hitem (guidString : Text) (i : InterfaceRecord) :
          (s.tempItem.named guidString).on i =
            d.item service s.tempItem.classGUID (some driver) guidString i := by
        rw [← hdriver]
        exact (s.tempItem.named guidString).on_eq hid hservice i
      refine ⟨by rw [hlike]; rfl, hadds.congr fun x => ?_⟩
      simp only [List.mem_filterMap, Option.map_eq_some_iff, hitem, hdriver]
      constructor
      · rintro ⟨guidString, hmem, guid, hguid, hx⟩
        exact ⟨⟨guid, guidString, driver⟩, ⟨guidString, hmem, guid, hguid, rfl⟩, hx⟩
      · rintro ⟨l, ⟨guidString, hmem, guid, hguid, rfl⟩, hx⟩
        exact ⟨guidString, hmem, guid, hguid, hx⟩

/-- What is listed of a USB device whose class passes. -/
def Selected (params : EnumParams) (d : DeviceRecord) (classText : Text) (x : ListItem) : Prop :=
  strupr (d.instanceID.take usbVidText.length) = usbVidText ∧
    params.applies (·.deviceID) d.instanceID = true ∧
    ∃ service, d.service = some service ∧ Listed params d service classText x

/-- The state in which the end of the loop is reached for a device. -/
def EnumState.entered (s : EnumState) (d : DeviceRecord) (service : Text) : EnumState :=
  { s with
    tempItem :=
      { s.tempItem with
        deviceID := d.instanceID
        service
        driverID := assignDrvIdFromService service } }

/-- **The loop from the instance id on**, by what its end appends.  It keeps a text of the
scratch item if the end does. -/
theorem adds_enumID (text : ListItem → Text) {current : Option InterfaceRecord}
    {P : Text → ListItem → Prop}
    (htext : text { s.tempItem with deviceID := d.instanceID } = text s.tempItem)
    (hend : ∀ service,
      text (enumService params current d (s.entered d service)).tempItem = text s.tempItem ∧
        Adds EnumState.list s (enumService params current d (s.entered d service)) (P service)) :
    text (enumDevice.enumID params current d s).tempItem = text s.tempItem ∧
      Adds EnumState.list s (enumDevice.enumID params current d s) fun x =>
        strupr (d.instanceID.take usbVidText.length) = usbVidText ∧
          params.applies (·.deviceID) d.instanceID = true ∧
          ∃ service, d.service = some service ∧ P service x := by
  unfold enumDevice.enumID
  dsimp only
  by_cases hpasses : (strupr (d.instanceID.take usbVidText.length) == usbVidText &&
      params.applies (·.deviceID) d.instanceID) = true
  · rw [if_pos hpasses]
    obtain ⟨husb, hid⟩ := Bool.and_eq_true_iff.mp hpasses
    have husb := eq_of_beq husb
    cases hservice : d.service with
    | none =>
      refine ⟨htext, .nothing rfl fun x => ?_⟩
      rintro ⟨-, -, service, hsome, -⟩
      cases hsome
    | some service =>
      obtain ⟨hkept, hadds⟩ := hend service
      refine ⟨hkept, hadds.congr fun x => ?_⟩
      constructor
      · exact fun hx => ⟨husb, hid, service, rfl, hx⟩
      · rintro ⟨-, -, service', hsome, hx⟩
        cases hsome
        exact hx
  · rw [if_neg hpasses]
    refine ⟨htext, .nothing rfl fun x => ?_⟩
    rintro ⟨husb, hid, -⟩
    exact hpasses (Bool.and_eq_true_iff.mpr ⟨beq_iff_eq.mpr husb, hid⟩)

theorem adds_enumID_selected (hd : d ∈ params.records.devices)
    (hpresent : d.present = true ∨ includesDisconnected params.flags = true)
    (hexclusive : ∀ guid, params.exclusive ≠ .devInterfaceGuid guid) :
    (enumDevice.enumID params none d s).tempItem.classGUID = s.tempItem.classGUID ∧
      Adds EnumState.list s (enumDevice.enumID params none d s)
        (Selected params d s.tempItem.classGUID) :=
  adds_enumID ListItem.classGUID rfl fun service =>
    adds_enumService (s := s.entered d service) hd hpresent hexclusive rfl rfl rfl

/-- **One device of a listing of all classes.** -/
theorem adds_enumDevice_neither (hexclusive : params.exclusive = .neither)
    (hd : d ∈ params.records.devices)
    (hpresent : d.present = true ∨ includesDisconnected params.flags = true) :
    Adds EnumState.list s (enumDevice params none d s) fun x =>
      params.applies (·.classGUID) (guidToString d.classGuid).1 = true ∧
        Selected params d (guidToString d.classGuid).1 x := by
  unfold enumDevice
  rw [hexclusive]
  dsimp only
  rw [guidToString_ok, Bool.true_and]
  by_cases happlies : params.applies (·.classGUID) (guidToString d.classGuid).1 = true
  · rw [if_pos happlies]
    obtain ⟨-, hadds⟩ := adds_enumID_selected (s :=
      { s with tempItem := { s.tempItem with classGUID := (guidToString d.classGuid).1 } })
      hd hpresent (by rw [hexclusive]; exact fun _ => nofun)
    exact hadds.congr fun x => (and_iff_right happlies).symm
  · rw [if_neg happlies]
    exact .nothing rfl fun x hx => happlies hx.1

/-- **One device of a listing of one class.** -/
theorem adds_enumDevice_class {guid : Guid} (hexclusive : params.exclusive = .classGuid guid)
    (hd : d ∈ params.records.devices)
    (hpresent : d.present = true ∨ includesDisconnected params.flags = true) :
    (enumDevice params none d s).tempItem.classGUID = s.tempItem.classGUID ∧
      Adds EnumState.list s (enumDevice params none d s)
        (Selected params d s.tempItem.classGUID) := by
  unfold enumDevice
  rw [hexclusive]
  exact adds_enumID_selected hd hpresent (by rw [hexclusive]; exact fun _ => nofun)

/-- The only pass of `l_EnumKey_Instances` in a listing of one interface GUID. -/
theorem adds_addInterface {flags : UInt32} {i : InterfaceRecord}
    (hconnected : s.tempItem.connected = i.active) (hremoved : i.removed = false)
    (hincluded : i.active = true ∨ includesDisconnected flags = true) :
    (addInterface true i s).tempItem = s.tempItem ∧
      Adds EnumState.list s (addInterface true i s) fun x =>
        shown flags s.tempItem.driverID i = true ∧ x = s.tempItem := by
  have hincluded : (i.active || includesDisconnected flags) = true :=
    Bool.or_eq_true_iff.mpr hincluded
  unfold addInterface shown Adds
  rw [hconnected, hremoved, hincluded]
  cases hactive : i.active <;> cases i.hasKey <;>
    cases hfilter : s.tempItem.driverID == some .libusb0Filter <;>
    cases husb0 : s.tempItem.driverID == some .libusb0 <;>
    simp [hfilter, husb0, bne, hconnected, hactive]

/-- A device of a listing of one interface GUID, where an interface of it is not skipped. -/
theorem adds_enumDevice_current {guid : Guid} {i : InterfaceRecord}
    (hexclusive : params.exclusive = .devInterfaceGuid guid)
    (hconnected : s.tempItem.connected = i.active)
    (hlink : s.tempItem.symbolicLink = i.devicePath) (hremoved : i.removed = false)
    (hincluded : i.active = true ∨ includesDisconnected params.flags = true) :
    (enumDevice params (some i) d s).tempItem.deviceInterfaceGUID =
        s.tempItem.deviceInterfaceGUID ∧
      Adds EnumState.list s (enumDevice params (some i) d s) fun x =>
        params.applies (·.classGUID) (guidToString d.classGuid).1 = true ∧
          strupr (d.instanceID.take usbVidText.length) = usbVidText ∧
          params.applies (·.deviceID) d.instanceID = true ∧
          ∃ service, d.service = some service ∧
            shown params.flags (assignDrvIdFromService service) i = true ∧
            x = d.item service (guidToString d.classGuid).1 (assignDrvIdFromService service)
              s.tempItem.deviceInterfaceGUID i := by
  unfold enumDevice
  rw [hexclusive]
  dsimp only
  rw [guidToString_ok, Bool.true_and]
  by_cases hclass : params.applies (·.classGUID) (guidToString d.classGuid).1 = true
  · rw [if_pos hclass]
    -- the class text is written before the id
    let s' : EnumState :=
      { s with tempItem := { s.tempItem with classGUID := (guidToString d.classGuid).1 } }
    have hend (service : Text) :
        (enumService params (some i) d (s'.entered d service)).tempItem.deviceInterfaceGUID =
            s'.tempItem.deviceInterfaceGUID ∧
          Adds EnumState.list s' (enumService params (some i) d (s'.entered d service)) fun x =>
            shown params.flags (assignDrvIdFromService service) i = true ∧
              x = d.item service (guidToString d.classGuid).1 (assignDrvIdFromService service)
                s.tempItem.deviceInterfaceGUID i := by
      unfold enumService enumKeyInstances
      rw [hexclusive]
      dsimp only
      obtain ⟨htemp, hadds⟩ :=
        adds_addInterface (s := s'.entered d service) hconnected hremoved hincluded
      have hitem : d.item service (guidToString d.classGuid).1 (assignDrvIdFromService service)
          s.tempItem.deviceInterfaceGUID i = (s'.entered d service).tempItem := by
        unfold DeviceRecord.item
        rw [← hconnected, ← hlink]
        rfl
      refine ⟨(congrArg ListItem.deviceInterfaceGUID htemp).trans rfl, ?_⟩
      rw [hitem]
      exact hadds
    obtain ⟨hname, hadds⟩ := adds_enumID ListItem.deviceInterfaceGUID rfl hend
    exact ⟨hname, hadds.congr fun x => (and_iff_right hclass).symm⟩
  · rw [if_neg hclass]
    exact ⟨rfl, .nothing rfl fun x hx => hclass hx.1⟩

/-- **One interface of a listing of one interface GUID.** -/
theorem adds_enumDevice_interface {guid : Guid} (i : InterfaceRecord)
    (hexclusive : params.exclusive = .devInterfaceGuid guid) {guidText : Text}
    (hname : s.tempItem.deviceInterfaceGUID = guidText) :
    (handleConnectScenario params i (enumDevice params (some i) d)
        { s with
          tempItem :=
            { s.tempItem with
              symbolicLink := i.devicePath } }).tempItem.deviceInterfaceGUID = guidText ∧
      Adds EnumState.list s
        (handleConnectScenario params i (enumDevice params (some i) d)
          { s with tempItem := { s.tempItem with symbolicLink := i.devicePath } }) fun x =>
        params.applies (·.classGUID) (guidToString d.classGuid).1 = true ∧
          strupr (d.instanceID.take usbVidText.length) = usbVidText ∧
          params.applies (·.deviceID) d.instanceID = true ∧
          ∃ service, d.service = some service ∧
            shown params.flags (assignDrvIdFromService service) i = true ∧
            x = d.item service (guidToString d.classGuid).1 (assignDrvIdFromService service)
              guidText i := by
  subst hname
  have hhidden (h : i.removed = true ∨
      (!i.active && !includesDisconnected params.flags) = true) (driver : Option DriverId) :
      shown params.flags driver i = false := by
    unfold shown
    rcases h with h | h
    · rw [h]
      rfl
    · rw [Bool.and_eq_true_iff, Bool.not_eq_true', Bool.not_eq_true'] at h
      rw [h.1, h.2]
      simp
  unfold handleConnectScenario
  dsimp only
  by_cases hremoved : i.removed = true
  · rw [if_pos hremoved]
    refine ⟨rfl, .nothing rfl fun x => ?_⟩
    rintro ⟨-, -, -, service, -, hshown, -⟩
    rw [hhidden (.inl hremoved)] at hshown
    cases hshown
  · rw [if_neg hremoved]
    by_cases hskip : (!i.active && !includesDisconnected params.flags) = true
    · rw [if_pos hskip]
      refine ⟨rfl, .nothing rfl fun x => ?_⟩
      rintro ⟨-, -, -, service, -, hshown, -⟩
      rw [hhidden (.inr hskip)] at hshown
      cases hshown
    · rw [if_neg hskip]
      have hincluded : i.active = true ∨ includesDisconnected params.flags = true := by
        revert hskip
        cases i.active <;> cases includesDisconnected params.flags <;> simp
      exact adds_enumDevice_current (s :=
        { s with
          tempItem :=
            { s.tempItem with symbolicLink := i.devicePath, connected := i.active } })
        hexclusive rfl rfl (Bool.eq_false_iff.mpr hremoved) hincluded

end Device

/-! ### The three strategies -/

/-- A device with such an id has the enumerator `USB`. -/
theorem enumerator_of_usb {d : DeviceRecord}
    (h : strupr (d.instanceID.take usbVidText.length) = usbVidText) :
    strupr d.enumerator = usbEnumerator := by
  have hsep (c : UInt8) : upperChar c = CHAR_BACKSLASH ↔ c = CHAR_BACKSLASH := by
    have hall : ∀ x : BitVec 8, upperChar (UInt8.ofBitVec x) = CHAR_BACKSLASH ↔
        UInt8.ofBitVec x = CHAR_BACKSLASH := by decide
    exact hall c.toBitVec
  unfold DeviceRecord.enumerator
  match hid : d.instanceID with
  | [] | [_] | [_, _] | [_, _, _] =>
    rw [hid] at h
    have hlength := congrArg List.length h
    simp [strupr, usbVidText] at hlength
  | c0 :: c1 :: c2 :: c3 :: rest =>
    rw [hid] at h
    simp only [strupr, usbVidText, List.length_cons, List.length_nil, List.take_succ_cons,
      List.map_cons, List.cons.injEq] at h
    obtain ⟨h0, h1, h2, h3, -⟩ := h
    have hne {c u : UInt8} (hc : upperChar c = u) (hu : u ≠ CHAR_BACKSLASH) :
        c ≠ CHAR_BACKSLASH := fun heq => hu (hc ▸ (hsep c).mpr heq)
    have hne0 : c0 ≠ CHAR_BACKSLASH := hne h0 (by decide)
    have hne1 : c1 ≠ CHAR_BACKSLASH := hne h1 (by decide)
    have hne2 : c2 ≠ CHAR_BACKSLASH := hne h2 (by decide)
    simp [strupr, usbEnumerator, hne0, hne1, hne2, (hsep c3).mp h3, h0, h1, h2]

section Strategies

variable {params : EnumParams} {x : ListItem}

theorem mem_classDevs {setupClassGuid : Option Guid} {d : DeviceRecord} :
    d ∈ params.records.classDevs setupClassGuid params.onlyPresent ↔
      d ∈ params.records.devices ∧ strupr d.enumerator = usbEnumerator ∧
        (d.present = true ∨ includesDisconnected params.flags = true) ∧
        ∀ guid, setupClassGuid = some guid → d.classGuid = guid := by
  unfold RecordSet.classDevs EnumParams.onlyPresent
  rw [List.mem_filter, Bool.and_eq_true, Bool.and_eq_true, Bool.or_eq_true, Bool.not_not,
    beq_iff_eq, and_assoc]
  refine and_congr_right fun _ => and_congr_right fun _ => and_congr_right fun _ => ?_
  cases setupClassGuid <;> simp

/-- What is listed of a device, by its labels. -/
theorem selected_iff {d : DeviceRecord} {classText : Text} :
    (d.present = true ∨ includesDisconnected params.flags = true) ∧
        Selected params d classText x ↔
      params.applies (·.deviceID) d.instanceID = true ∧
        ∃ service l i, Labelled params.flags d service l i ∧
          params.applies (·.deviceInterfaceGUID) l.text = true ∧
          x = d.item service classText (some l.driver) l.text i := by
  constructor
  · rintro ⟨hpresent, husb, hid, service, hservice, l, hl, happlies, i, hi, hguid, hshown, rfl⟩
    exact ⟨hid, service, l, i, ⟨⟨husb, hpresent, hservice⟩, hl, hi, hguid, hshown⟩, happlies, rfl⟩
  · rintro ⟨hid, service, l, i, h, happlies, rfl⟩
    exact ⟨h.listable.present, h.listable.usb, hid, service, h.listable.service, l, h.label,
      happlies, i, h.mem, h.guid, h.shown, rfl⟩

/-- **A listing of devices**, where those of which anything is listed are told by `passes`. -/
theorem mem_foldl_enumDevice (setupClassGuid : Option Guid) (Inv : EnumState → Prop)
    (passes : DeviceRecord → Prop) {classText : DeviceRecord → Text} {s : EnumState} (hs : Inv s)
    (hnil : s.list = [])
    (hstep : ∀ d ∈ params.records.devices,
      d.present = true ∨ includesDisconnected params.flags = true → ∀ s, Inv s →
        Inv (enumDevice params none d s) ∧ Adds EnumState.list s (enumDevice params none d s)
          fun x => passes d ∧ Selected params d (classText d) x) :
    x ∈ ((params.records.classDevs setupClassGuid params.onlyPresent).foldl
        (fun s d => enumDevice params none d s) s).list ↔
      ∃ d ∈ params.records.devices, (∀ guid, setupClassGuid = some guid → d.classGuid = guid) ∧
        passes d ∧ params.applies (·.deviceID) d.instanceID = true ∧
        ∃ service l i, Labelled params.flags d service l i ∧
          params.applies (·.deviceInterfaceGUID) l.text = true ∧
          x = d.item service (classText d) (some l.driver) l.text i := by
  have hpass (d : DeviceRecord)
      (hd : d ∈ params.records.classDevs setupClassGuid params.onlyPresent) :=
    hstep d (mem_classDevs.mp hd).1 (mem_classDevs.mp hd).2.2.1
  obtain ⟨-, hadds⟩ := adds_foldl EnumState.list Inv
    (f := fun s d => enumDevice params none d s) hpass hs
  rw [hadds.mem_iff hnil]
  constructor
  · rintro ⟨d, hd, hpasses, hselected⟩
    obtain ⟨hmem, -, hpresent, hclass⟩ := mem_classDevs.mp hd
    exact ⟨d, hmem, hclass, hpasses, selected_iff.mp ⟨hpresent, hselected⟩⟩
  · rintro ⟨d, hmem, hclass, hpasses, hlabelled⟩
    obtain ⟨hpresent, hselected⟩ := selected_iff.mpr hlabelled
    exact ⟨d, mem_classDevs.mpr ⟨hmem, enumerator_of_usb hselected.1, hpresent, hclass⟩, hpasses,
      hselected⟩

/-- **A listing of all classes.** -/
theorem mem_enumKeyGuids_neither (params : EnumParams) (hexclusive : params.exclusive = .neither) :
    x ∈ (enumKeyGuids params).list ↔ ∃ d ∈ params.records.devices,
      params.applies (·.classGUID) (guidToString d.classGuid).1 = true ∧
      params.applies (·.deviceID) d.instanceID = true ∧
      ∃ service l i, Labelled params.flags d service l i ∧
        params.applies (·.deviceInterfaceGUID) l.text = true ∧
        x = d.item service (guidToString d.classGuid).1 (some l.driver) l.text i := by
  unfold enumKeyGuids
  rw [hexclusive]
  dsimp only
  have hmem := mem_foldl_enumDevice (x := x) none (fun _ => True)
    (fun d => params.applies (·.classGUID) (guidToString d.classGuid).1 = true)
    (s := { tempItem := params.startItem }) trivial rfl
    fun d hd hpresent s _ => ⟨trivial, adds_enumDevice_neither hexclusive hd hpresent⟩
  simpa using hmem

/-- **A listing of one class.** -/
theorem mem_enumKeyGuids_class (params : EnumParams) {guid : Guid}
    (hexclusive : params.exclusive = .classGuid guid) :
    x ∈ (enumKeyGuids params).list ↔ ∃ d ∈ params.records.devices, d.classGuid = guid ∧
      params.applies (·.deviceID) d.instanceID = true ∧
      ∃ service l i, Labelled params.flags d service l i ∧
        params.applies (·.deviceInterfaceGUID) l.text = true ∧
        x = d.item service params.startItem.classGUID (some l.driver) l.text i := by
  unfold enumKeyGuids
  rw [hexclusive]
  dsimp only
  -- the class text of the pattern stays in the scratch item
  have hstep (d : DeviceRecord) (hd : d ∈ params.records.devices)
      (hpresent : d.present = true ∨ includesDisconnected params.flags = true) (s : EnumState)
      (hs : s.tempItem.classGUID = params.startItem.classGUID) :
      (enumDevice params none d s).tempItem.classGUID = params.startItem.classGUID ∧
        Adds EnumState.list s (enumDevice params none d s) fun x =>
          True ∧ Selected params d params.startItem.classGUID x := by
    obtain ⟨hkept, hadds⟩ := adds_enumDevice_class (s := s) hexclusive hd hpresent
    rw [hs] at hadds
    exact ⟨hkept.trans hs, hadds.congr fun x => (and_iff_right trivial).symm⟩
  have hmem := mem_foldl_enumDevice (x := x) (some guid)
    (fun s => s.tempItem.classGUID = params.startItem.classGUID) (fun _ => True)
    (s := { tempItem := params.startItem }) rfl rfl hstep
  simpa using hmem

/-- **A listing of one interface GUID.** -/
theorem mem_enumKeyGuids_interface (params : EnumParams) {guid : Guid}
    (hexclusive : params.exclusive = .devInterfaceGuid guid) :
    x ∈ (enumKeyGuids params).list ↔ ∃ d ∈ params.records.devices,
      params.applies (·.classGUID) (guidToString d.classGuid).1 = true ∧
      params.applies (·.deviceID) d.instanceID = true ∧
      ∃ service, d.Listable params.flags service ∧ ∃ i ∈ d.interfaces,
        i.interfaceClassGuid = guid ∧
        shown params.flags (assignDrvIdFromService service) i = true ∧
        x = d.item service (guidToString d.classGuid).1 (assignDrvIdFromService service)
          params.startItem.deviceInterfaceGUID i := by
  unfold enumKeyGuids
  rw [hexclusive]
  dsimp only
  obtain ⟨-, hadds⟩ := adds_foldl EnumState.list
    (fun s => s.tempItem.deviceInterfaceGUID = params.startItem.deviceInterfaceGUID)
    (fun (found : DeviceRecord × InterfaceRecord) _ s hs =>
      adds_enumDevice_interface (d := found.1) found.2 hexclusive hs)
    (l := params.records.deviceInterfaces guid none params.onlyPresent)
    (s := { tempItem := params.startItem }) rfl
  rw [hadds.mem_iff rfl]
  have hmem (found : DeviceRecord × InterfaceRecord) :
      found ∈ params.records.deviceInterfaces guid none params.onlyPresent ↔
        found.1 ∈ params.records.devices ∧
          (found.1.present = true ∨ includesDisconnected params.flags = true) ∧
          found.2 ∈ found.1.interfaces ∧ found.2.interfaceClassGuid = guid := by
    obtain ⟨d, i⟩ := found
    simp only [RecordSet.deviceInterfaces, List.mem_flatMap, List.mem_filter, List.mem_map,
      Bool.and_eq_true, Option.all_none, beq_iff_eq, Prod.mk.injEq, EnumParams.onlyPresent,
      Bool.not_not, Bool.or_eq_true, and_true]
    constructor
    · rintro ⟨d, ⟨hd, hpresent⟩, i, ⟨hi, hguid⟩, rfl, rfl⟩
      exact ⟨hd, hpresent, hi, hguid⟩
    · rintro ⟨hd, hpresent, hi, hguid⟩
      exact ⟨d, ⟨hd, hpresent⟩, i, ⟨hi, hguid⟩, rfl, rfl⟩
  constructor
  · rintro ⟨found, hfound, hclass, husb, hid, service, hservice, hshown, hx⟩
    obtain ⟨hd, hpresent, hi, hguid⟩ := (hmem found).mp hfound
    exact ⟨found.1, hd, hclass, hid, service, ⟨husb, hpresent, hservice⟩, found.2, hi, hguid,
      hshown, hx⟩
  · rintro ⟨d, hd, hclass, hid, service, hlistable, i, hi, hguid, hshown, hx⟩
    exact ⟨(d, i), (hmem (d, i)).mpr ⟨hd, hlistable.present, hi, hguid⟩, hclass, hlistable.usb,
      hid, service, hlistable.service, hshown, hx⟩

end Strategies

end PatternListing

end LibusbK
