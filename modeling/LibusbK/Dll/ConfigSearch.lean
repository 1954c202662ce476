import LibusbK.Dll.DescriptorStack
import LibusbK.Dll.StackRebuild

/-!
# The configuration of a handle

`k_Init_Config` asks the driver which configuration is active, looks for its descriptor among
those of the device, one index after the other, and reads it whole.  The search also stops at a
descriptor with the value of the one before it.

## Main definitions

* `ConfigDriver`, `kInitConfig` — what the driver answers, and the code.
* `serves` — a driver that hands out the configurations of a device.
* `activeConfig` — the configuration the code looks for.

## Main results

* `configSearch_serves` — the search, over the configurations of a device.
* `kInitConfig_active_iff` — when the handle gets the active configuration.
-/

namespace LibusbK

/-! ### The code -/

/-- What the driver answers. -/
structure ConfigDriver where
  /-- `LIBUSB_IOCTL_GET_VERSION` succeeds. -/
  getVersion : Bool
  /-- The bytes `LIBUSB_IOCTL_GET_CACHED_CONFIGURATION` returns, if it succeeds. -/
  getCachedConfiguration : Option (List UInt8)
  /-- `LIBUSB_IOCTL_SET_CONFIGURATION` succeeds. -/
  setConfiguration : Bool
  /-- The bytes `LIBUSB_IOCTL_GET_DESCRIPTOR` returns of the configuration descriptor with an
  index, for a buffer of some size. -/
  getDescriptor : UInt8 → ℕ → Option (List UInt8)
  /-- `Mem_Alloc` succeeds. -/
  memAlloc : Bool

/-- The buffer after some bytes have been written to it. -/
def overwrite (bytes buffer : List UInt8) : List UInt8 :=
  bytes.take buffer.length ++ buffer.drop bytes.length

/-- `bConfigurationValue` -/
def bConfigurationValue (buffer : List UInt8) : UInt8 := buffer.getD 5 0

/-- The loop: the index and the `configCheck` it breaks with, if it does.  `configIndex` is a
`UCHAR`, and 255 steps bring it to `UCHAR_MAX`. -/
def configSearch (driver : ConfigDriver) (currentConfigNumber : UInt8) :
    ℕ → UInt8 → UInt8 → List UInt8 → Option (UInt8 × List UInt8)
  | 0, _, _, _ => none
  | steps + 1, configIndex, lastConfigValue, configCheck =>
    if configIndex + 1 = 255 then none
    else
      match driver.getDescriptor configIndex 9 with
      | none => none
      | some bytes =>
        let configCheck := overwrite bytes configCheck
        if currentConfigNumber = 0 ∨ bConfigurationValue configCheck = currentConfigNumber ∨
            bConfigurationValue configCheck = lastConfigValue then
          some (configIndex, configCheck)
        else
          configSearch driver currentConfigNumber steps (configIndex + 1)
            (bConfigurationValue configCheck) configCheck

/-- `currentConfigNumber`, which is 0 where the driver names no configuration. -/
def currentConfigNumber (driver : ConfigDriver) : UInt8 :=
  match driver.getCachedConfiguration with
  | some (value :: _) => value
  | _ => 0

/-- `k_Init_Config`: the descriptor it stores, if it succeeds. -/
def kInitConfig (driver : ConfigDriver) : Option (List UInt8) :=
  if !driver.getVersion then none
  else if currentConfigNumber driver = 0 ∧ driver.setConfiguration = false then none
  else
    match configSearch driver (currentConfigNumber driver) 255 0 0 (List.replicate 9 0) with
    | none => none
    | some (configIndex, configCheck) =>
      let length := wTotalLength (zeroExtend configCheck)
      if driver.memAlloc then
        (driver.getDescriptor configIndex length).map fun bytes =>
          overwrite bytes (List.replicate length 0)
      else none

/-! ### The configurations of a device -/

/-- `bConfigurationValue` -/
def ConfigDescriptor.value (config : ConfigDescriptor) : UInt8 :=
  bConfigurationValue config.header.bytes

/-- A driver that hands out the configurations of a device, one of which may be active. -/
def serves (configs : List ConfigDescriptor) (active : UInt8) : ConfigDriver where
  getVersion := true
  getCachedConfiguration := some [active]
  setConfiguration := true
  getDescriptor index size := configs[index.toNat]?.map fun config => config.bytes.take size
  memAlloc := true

/-- The active configuration, or the first one if none is active.  Only the first 254 can be
asked for. -/
def activeConfig (configs : List ConfigDescriptor) (active : UInt8) : Option ConfigDescriptor :=
  if active = 0 then configs.head?
  else (configs.take 254).find? fun config => config.value = active

/-- The configuration the search stops at, if `configs` come at the indices from `index` on and
`last` is the value of the one before. -/
def stopsAt (active : UInt8) : UInt8 → ℕ → List ConfigDescriptor → Option (ℕ × ConfigDescriptor)
  | _, _, [] => none
  | last, index, config :: configs =>
    if active = 0 ∨ config.value = active ∨ config.value = last then some (index, config)
    else stopsAt active config.value (index + 1) configs

section Search

variable {configs : List ConfigDescriptor} {active : UInt8}

theorem overwrite_of_length_eq {bytes buffer : List UInt8} (h : bytes.length = buffer.length) :
    overwrite bytes buffer = bytes := by
  rw [overwrite, ← h, List.take_length, h, List.drop_length, List.append_nil]

theorem length_take_bytes (config : ConfigDescriptor) : (config.bytes.take 9).length = 9 := by
  have hheader := config.header_sized
  have hlength : config.header.bytes.length ≤ config.bytes.length := by
    rw [ConfigDescriptor.bytes, List.length_append]
    omega
  rw [List.length_take_of_le (by omega)]

theorem getD_take_bytes (config : ConfigDescriptor) {i : ℕ} (hi : i < 9) :
    (config.bytes.take 9).getD i 0 = config.header.bytes.getD i 0 := by
  have hheader := config.header_sized
  rw [List.getD_eq_getElem?_getD, List.getD_eq_getElem?_getD, List.getElem?_take_of_lt hi,
    ConfigDescriptor.bytes, List.getElem?_append_left (by omega)]

theorem bConfigurationValue_take_bytes (config : ConfigDescriptor) :
    bConfigurationValue (config.bytes.take 9) = config.value := getD_take_bytes config (by decide)

/-- The search, over the configurations of a device. -/
theorem configSearch_serves {steps : ℕ} :
    ∀ {i : ℕ} {last : UInt8} {configCheck : List UInt8}, steps + i = 255 →
      configCheck.length = 9 →
      configSearch (serves configs active) active steps (UInt8.ofNat i) last configCheck =
        (stopsAt active last i ((configs.take 254).drop i)).map fun stop =>
          (UInt8.ofNat stop.1, stop.2.bytes.take 9) := by
  induction steps with
  | zero =>
    intro i last configCheck hi _
    rw [List.drop_eq_nil_of_le ((List.length_take_le _ _).trans (by omega))]
    rfl
  | succ steps ih =>
    intro i last configCheck hi hcheck
    unfold configSearch
    have hindex : (UInt8.ofNat i).toNat = i := UInt8.toNat_ofNat_of_lt' (show i < 256 by omega)
    have hlast : UInt8.ofNat i + 1 = 255 ↔ i = 254 := by
      rw [← UInt8.toNat_inj, UInt8.toNat_add, hindex]
      show (i + 1) % 256 = 255 ↔ i = 254
      omega
    by_cases h254 : i = 254
    · rw [if_pos (hlast.mpr h254),
        List.drop_eq_nil_of_le ((List.length_take_le _ _).trans (by omega))]
      rfl
    · rw [if_neg (mt hlast.mp h254)]
      have hanswer : (serves configs active).getDescriptor (UInt8.ofNat i) 9 =
          configs[i]?.map fun config => config.bytes.take 9 := by
        show configs[(UInt8.ofNat i).toNat]?.map _ = _
        rw [hindex]
      have htake : (configs.take 254)[i]? = configs[i]? := List.getElem?_take_of_lt (by omega)
      rw [hanswer]
      cases hconfig : configs[i]? with
      | none =>
        rw [hconfig] at htake
        rw [List.drop_eq_nil_of_le (List.getElem?_eq_none_iff.mp htake)]
        rfl
      | some config =>
        rw [hconfig] at htake
        obtain ⟨hlt, hget⟩ := List.getElem?_eq_some_iff.mp htake
        have hcheck' : overwrite (config.bytes.take 9) configCheck = config.bytes.take 9 :=
          overwrite_of_length_eq ((length_take_bytes config).trans hcheck.symm)
        rw [List.drop_eq_getElem_cons hlt, hget]
        simp only [Option.map_some, hcheck', bConfigurationValue_take_bytes, stopsAt]
        have hnext : UInt8.ofNat i + 1 = UInt8.ofNat (i + 1) := by
          rw [UInt8.ofNat_add]
          rfl
        split
        · rfl
        · rw [hnext]
          exact ih (by omega) (length_take_bytes config)

/-- The configuration the search stops at is one of those, at its index. -/
theorem getElem?_of_stopsAt {stop : ℕ × ConfigDescriptor} :
    ∀ {configs : List ConfigDescriptor} {last : UInt8} {index : ℕ},
      stopsAt active last index configs = some stop →
        ∃ i, stop.1 = index + i ∧ configs[i]? = some stop.2 := by
  intro configs
  induction configs with
  | nil =>
    intro last index h
    cases h
  | cons config configs ih =>
    intro last index h
    unfold stopsAt at h
    split at h
    · cases h
      exact ⟨0, rfl, rfl⟩
    · obtain ⟨i, hi, hconfig⟩ := ih h
      exact ⟨i + 1, by omega, hconfig⟩

theorem wTotalLength_take_bytes (config : ConfigDescriptor) :
    wTotalLength (zeroExtend (config.bytes.take 9)) = config.bytes.length := by
  have htake : wTotalLength (zeroExtend (config.bytes.take 9)) =
      wTotalLength (zeroExtend config.header.bytes) := by
    unfold wTotalLength zeroExtend
    rw [getD_take_bytes config (by decide), getD_take_bytes config (by decide)]
  rw [htake, config.tiles, ConfigDescriptor.bytes, List.length_append]

/-- What is stored. -/
theorem kInitConfig_serves (configs : List ConfigDescriptor) (active : UInt8) :
    kInitConfig (serves configs active) =
      (stopsAt active 0 0 (configs.take 254)).map fun stop => stop.2.bytes := by
  have hcurrent : currentConfigNumber (serves configs active) = active := rfl
  have hsearch : configSearch (serves configs active) active 255 0 0 (List.replicate 9 0) =
      (stopsAt active 0 0 (configs.take 254)).map fun stop =>
        (UInt8.ofNat stop.1, stop.2.bytes.take 9) :=
    configSearch_serves (i := 0) rfl rfl
  unfold kInitConfig
  rw [hcurrent, hsearch]
  cases hstop : stopsAt active 0 0 (configs.take 254) with
  | none => simp [serves]
  | some stop =>
    obtain ⟨index, config⟩ := stop
    obtain ⟨i, hi, hconfig⟩ := getElem?_of_stopsAt hstop
    obtain rfl : index = i := hi.trans (Nat.zero_add i)
    obtain ⟨hlt, -⟩ := List.getElem?_eq_some_iff.mp hconfig
    have h254 : index < 254 := Nat.lt_of_lt_of_le hlt (List.length_take_le _ _)
    have hindex : (UInt8.ofNat index).toNat = index :=
      UInt8.toNat_ofNat_of_lt' (show index < 256 by omega)
    have hanswer : (serves configs active).getDescriptor (UInt8.ofNat index)
        config.bytes.length = some config.bytes := by
      show configs[(UInt8.ofNat index).toNat]?.map _ = _
      rw [hindex, ← List.getElem?_take_of_lt h254, hconfig, Option.map_some, List.take_length]
    simp only [Option.map_some, wTotalLength_take_bytes, hanswer]
    rw [overwrite_of_length_eq (by rw [List.length_replicate])]
    simp [serves]

theorem value_eq_of_bytes_eq {config config' : ConfigDescriptor}
    (h : config.bytes = config'.bytes) : config.value = config'.value := by
  rw [← bConfigurationValue_take_bytes, h, bConfigurationValue_take_bytes]

/-- The search stops at the active configuration, if no value comes twice in a row before. -/
theorem stopsAt_eq_find_iff (hactive : active ≠ 0) :
    ∀ {configs : List ConfigDescriptor} {last : UInt8} {index : ℕ},
      (stopsAt active last index configs).map (fun stop => stop.2.bytes) =
          (configs.find? fun config => config.value = active).map ConfigDescriptor.bytes ↔
        List.IsChain (· ≠ ·)
          (last :: (configs.map ConfigDescriptor.value).takeWhile (· ≠ active)) := by
  intro configs
  induction configs with
  | nil =>
    intro last index
    simp [stopsAt]
  | cons config configs ih =>
    intro last index
    by_cases hvalue : config.value = active
    · simp [stopsAt, hvalue]
    · rw [List.find?_cons_of_neg (by simpa using hvalue), List.map_cons,
        List.takeWhile_cons_of_pos (by simpa using hvalue), List.isChain_cons_cons]
      by_cases hlast : config.value = last
      · refine iff_of_false ?_ fun h => h.1 hlast.symm
        rw [stopsAt, if_pos (.inr (.inr hlast)), Option.map_some]
        intro h
        obtain ⟨config', hfind, hbytes⟩ := Option.map_eq_some_iff.mp h.symm
        have hvalue' : config'.value = active := by simpa using List.find?_some hfind
        exact hvalue ((value_eq_of_bytes_eq hbytes).symm.trans hvalue')
      · rw [stopsAt, if_neg (by simp [hactive, hvalue, hlast]), ih]
        exact (and_iff_right (Ne.symm hlast)).symm

end Search

/-! ### What a handle gets -/

/-- The parser makes a stack of a configuration of the device. -/
theorem usbStackInit_represents (config : ConfigDescriptor) :
    ∃ calls fresh, usbStackInit (zeroExtend config.bytes) (fun _ => {}) calls = some fresh ∧
      fresh.device.usbStack.Represents (grouping (groups config.descriptors)) := by
  obtain ⟨calls, hdone, hrep⟩ := walk_represents (extends_zeroExtend config.bytes)
  exact ⟨calls, _, if_pos hdone, hrep⟩

/-- **The configuration of a handle.**  The code stores the descriptor of the active configuration
exactly if no value comes twice in a row before it, zero being the value before the first;
so it does for a device whose values are distinct and not zero.  Whatever it stores, the parser
makes a stack of that configuration of the device. -/
theorem kInitConfig_active_iff (configs : List ConfigDescriptor) (active : UInt8) :
    (kInitConfig (serves configs active) =
        (activeConfig configs active).map ConfigDescriptor.bytes ↔
      active = 0 ∨ List.IsChain (· ≠ ·)
        (0 :: ((configs.take 254).map ConfigDescriptor.value).takeWhile (· ≠ active))) ∧
    ((∀ config ∈ configs, config.value ≠ 0) → (configs.map ConfigDescriptor.value).Nodup →
      kInitConfig (serves configs active) =
        (activeConfig configs active).map ConfigDescriptor.bytes) ∧
    ∀ bytes, kInitConfig (serves configs active) = some bytes →
      ∃ config ∈ configs, bytes = config.bytes ∧
        ∃ calls fresh, usbStackInit (zeroExtend bytes) (fun _ => {}) calls = some fresh ∧
          fresh.device.usbStack.Represents (grouping (groups config.descriptors)) := by
  have hiff : kInitConfig (serves configs active) =
        (activeConfig configs active).map ConfigDescriptor.bytes ↔
      active = 0 ∨ List.IsChain (· ≠ ·)
        (0 :: ((configs.take 254).map ConfigDescriptor.value).takeWhile (· ≠ active)) := by
    rw [kInitConfig_serves, activeConfig]
    by_cases hactive : active = 0
    · refine iff_of_true ?_ (.inl hactive)
      rw [if_pos hactive]
      cases configs with
      | nil => rfl
      | cons config configs =>
        rw [List.take_succ_cons, stopsAt, if_pos (.inl hactive)]
        rfl
    · rw [if_neg hactive, stopsAt_eq_find_iff hactive]
      exact (or_iff_right hactive).symm
  refine ⟨hiff, fun hne hnodup => hiff.mpr ?_, fun bytes hbytes => ?_⟩
  · right
    have hsub : (((configs.take 254).map ConfigDescriptor.value).takeWhile (· ≠ active)).Sublist
        (configs.map ConfigDescriptor.value) :=
      (List.takeWhile_sublist _).trans ((List.take_sublist _ _).map _)
    refine (List.pairwise_cons.mpr ⟨fun value hvalue => ?_, hnodup.sublist hsub⟩).isChain
    obtain ⟨config, hconfig, rfl⟩ := List.mem_map.mp (hsub.mem hvalue)
    exact (hne config hconfig).symm
  · rw [kInitConfig_serves] at hbytes
    obtain ⟨⟨index, config⟩, hstop, rfl⟩ := Option.map_eq_some_iff.mp hbytes
    obtain ⟨i, -, hconfig⟩ := getElem?_of_stopsAt hstop
    have hmem : config ∈ configs := List.mem_of_mem_take (List.mem_of_getElem? hconfig)
    exact ⟨config, hmem, rfl, usbStackInit_represents config⟩

theorem kInitConfig_active_iff_superSpeedInterface :
    kInitConfig (serves [superSpeedInterface] 1) = some superSpeedInterface.bytes := by
  have h := (kInitConfig_active_iff [superSpeedInterface] 1).2.1 (by decide) (by decide)
  rw [h]
  rfl

end LibusbK
