import Mathlib.Data.Nat.Notation
import LibusbK.Lib.Enumerate

/-!
# Synchronising device lists

`LstK_Sync` (`lusbk_device_list.c`): the flags of the master list are cleared,
the elements of the slave list are merged into the master list or moved to it,
and the elements of the master list that were not merged are looked up in what is
left of the slave list.  `SyncFlags` is the only record of a change; the two
callbacks of the merge leave an element alone whose flags are set.

An element also carries what became of its `ADDED` and `REMOVED` marks: those no
global sweep has visited yet, and whether one of them was overwritten.  No code
reads these two fields.

## Main definitions

* `DevInfo`, `DevInfo.setSyncFlags`, `DevInfo.orSyncFlags` -- an element and the two
  ways its flags are written.
* `lstKSync` -- the synchronisation.
* `DevInfo.Marked` -- nothing was overwritten and a waiting mark still stands in the
  flags.

## Main results

* `lstKSync_marked` -- from a list on which no mark waits, a synchronisation
  overwrites none.
* `lstKSync_forgotten` -- a mark that waits when it starts is overwritten.
-/

namespace LibusbK

/-! ### Flags and elements -/

/-- `KLST_SYNC_FLAG_NONE`. -/
def SyncFlag.none : BitVec 32 := 0x0000#32

/-- `KLST_SYNC_FLAG_UNCHANGED`. -/
def SyncFlag.unchanged : BitVec 32 := 0x0001#32

/-- `KLST_SYNC_FLAG_ADDED`. -/
def SyncFlag.added : BitVec 32 := 0x0002#32

/-- `KLST_SYNC_FLAG_REMOVED`. -/
def SyncFlag.removed : BitVec 32 := 0x0004#32

/-- `KLST_SYNC_FLAG_CONNECT_CHANGE`. -/
def SyncFlag.connectChange : BitVec 32 := 0x0008#32

/-- `KLST_SYNC_FLAG_MASK`. -/
def SyncFlag.mask : BitVec 32 := 0x000F#32

/-- The two flags that report a change to the hot-plug handles. -/
def SyncFlag.marks : BitVec 32 := SyncFlag.added ||| SyncFlag.removed

/-- What an enumeration of the present devices reports of one (`TempItem`). -/
structure TempItem where
  symbolicLink : List Char
  devicePath : List Char
  deviceID : List Char
  deviceInterfaceGUID : List Char
  classGUID : List Char
  connected : Bool
deriving DecidableEq

/-- `KLST_DEVINFO`: an element of a device list. -/
structure DevInfo extends TempItem where
  syncFlags : BitVec 32
  /-- The marks in `syncFlags` that no global sweep has visited. -/
  waiting : BitVec 32
  /-- A mark was overwritten while it waited. -/
  forgotten : Bool
deriving DecidableEq

/-- A new element: `TempItem` is zeroed before it is filled. -/
def TempItem.devInfo (item : TempItem) : DevInfo where
  toTempItem := item
  syncFlags := SyncFlag.none
  waiting := 0#32
  forgotten := false

namespace DevInfo

/-- `SyncFlags = flags`. -/
def setSyncFlags (flags : BitVec 32) (el : DevInfo) : DevInfo :=
  { el with
    syncFlags := flags
    waiting := flags &&& SyncFlag.marks
    forgotten := el.forgotten || decide (el.waiting &&& ~~~flags ≠ 0#32) }

/-- `SyncFlags |= flags`. -/
def orSyncFlags (flags : BitVec 32) (el : DevInfo) : DevInfo :=
  { el with
    syncFlags := el.syncFlags ||| flags
    waiting := el.waiting ||| flags &&& SyncFlag.marks }

/-- What both merge callbacks do with an element of the master list that has its
counterpart in the slave list. -/
def merge (el : DevInfo) (mask : BitVec 32) (slave : DevInfo) : DevInfo :=
  let el := { el with devicePath := slave.devicePath }
  if slave.connected ≠ el.connected then
    let el := el.orSyncFlags (SyncFlag.connectChange &&& mask)
    let el := { el with connected := slave.connected }
    if slave.connected then el.orSyncFlags (SyncFlag.added &&& mask)
    else el.orSyncFlags (SyncFlag.removed &&& mask)
  else el.setSyncFlags SyncFlag.unchanged

end DevInfo

/-! ### `LstK_Sync` -/

section Sync

variable (pathMatchSpec : List Char → List Char → Bool)

/-- `mLst_DL_Match_SymbolicLink`, with the element of the list that is searched
first. -/
def matchSymbolicLink (pattern el : DevInfo) : Bool :=
  pathMatchSpec el.symbolicLink pattern.symbolicLink

/-- `l_DevEnum_SyncPrep`. -/
def devEnumSyncPrep (_ : Unit) (el : DevInfo) : Visited DevInfo Unit :=
  ⟨some (el.setSyncFlags SyncFlag.none), (), true⟩

/-- What `l_DevEnum_Sync_Slave` does with the element of the master list it finds. -/
def syncSlaveFound (mask : BitVec 32) (slave el : DevInfo) : DevInfo :=
  -- skip elements already processed by previous sync operations
  if el.syncFlags ≠ SyncFlag.none then el else el.merge mask slave

/-- `l_DevEnum_Sync_Slave`: shown an element of the slave list, with the master list as
its context. -/
def devEnumSyncSlave (mask : BitVec 32) (master : List DevInfo) (slave : DevInfo) :
    Visited DevInfo (List DevInfo) :=
  match editFirst (fun el => matchSymbolicLink pathMatchSpec el slave)
      (syncSlaveFound mask slave) master with
  | some master => ⟨some slave, master, true⟩
  | none =>
    if SyncFlag.added &&& mask ≠ 0#32 then
      -- moved to the master list
      let flags := if slave.connected then SyncFlag.added else SyncFlag.unchanged
      ⟨none, master ++ [slave.setSyncFlags flags], true⟩
    else ⟨some slave, master, true⟩

/-- What `l_DevEnum_Sync_Master` does with an element that is in no slave list. -/
def DevInfo.syncMasterOnly (mask : BitVec 32) (el : DevInfo) : DevInfo :=
  if el.connected then
    let el := el.orSyncFlags (SyncFlag.removed &&& mask)
    let el := if el.syncFlags = 0#32 then el.setSyncFlags SyncFlag.unchanged else el
    { el with connected := false }
  else el.setSyncFlags SyncFlag.unchanged

/-- What `l_DevEnum_Sync_Master` makes of an element of the master list. -/
def syncMaster (mask : BitVec 32) (slave : List DevInfo) (el : DevInfo) : DevInfo :=
  -- skip elements already processed by previous sync operations
  if el.syncFlags ≠ SyncFlag.none then el
  else
    match slave.find? fun slave => matchSymbolicLink pathMatchSpec slave el with
    | some slave => el.merge mask slave
    | none => el.syncMasterOnly mask

/-- `l_DevEnum_Sync_Master`. -/
def devEnumSyncMaster (mask : BitVec 32) (slave : List DevInfo) (_ : Unit) (el : DevInfo) :
    Visited DevInfo Unit :=
  ⟨some (syncMaster pathMatchSpec mask slave el), (), true⟩

/-- `LstK_Sync` once it has its slave list: the master list, and what is left of the slave
list. -/
def lstKSync (syncFlags : BitVec 32) (master slave : List DevInfo) :
    List DevInfo × List DevInfo :=
  let mask := if syncFlags = 0#32 then SyncFlag.mask else syncFlags
  let prepared := (enumerate devEnumSyncPrep master ()).1
  let merged := enumerate (devEnumSyncSlave pathMatchSpec mask) slave prepared
  ((enumerate (devEnumSyncMaster pathMatchSpec mask merged.1) merged.2 ()).1, merged.1)

end Sync

/-! ### The marks of an element -/

namespace DevInfo

/-- Nothing was overwritten, and an element whose flags are `NONE` has no mark that
waits. -/
structure Marked (el : DevInfo) : Prop where
  kept : el.forgotten = false
  waiting : el.syncFlags = SyncFlag.none → el.waiting = 0#32

/-- Nothing was overwritten, and no mark waits. -/
structure Swept (el : DevInfo) : Prop where
  kept : el.forgotten = false
  waiting : el.waiting = 0#32

variable {el slave : DevInfo} {flags mask : BitVec 32}

theorem Swept.marked (h : el.Swept) : el.Marked := ⟨h.kept, fun _ => h.waiting⟩

theorem Marked.orSyncFlags (h : el.Marked) (flags : BitVec 32) : (el.orSyncFlags flags).Marked := by
  refine ⟨h.kept, fun hnone => ?_⟩
  obtain ⟨hel, hflags⟩ := BitVec.or_eq_zero_iff.mp hnone
  change el.waiting ||| flags &&& SyncFlag.marks = 0#32
  rw [h.waiting hel, hflags, BitVec.zero_and, BitVec.or_zero]

theorem Marked.withConnected (h : el.Marked) (connected : Bool) :
    ({ el with connected := connected } : DevInfo).Marked :=
  ⟨h.kept, h.waiting⟩

/-- An assignment over flags on which no mark waits. -/
theorem Swept.setSyncFlags (h : el.Swept) (flags : BitVec 32) : (el.setSyncFlags flags).Marked := by
  constructor
  · simp [DevInfo.setSyncFlags, h.kept, h.waiting]
  · intro hnone
    change flags &&& SyncFlag.marks = 0#32
    rw [show flags = 0#32 from hnone, BitVec.zero_and]

theorem setSyncFlags_forgotten (h : el.forgotten = true) :
    (el.setSyncFlags flags).forgotten = true := by
  simp [setSyncFlags, h]

/-- An assignment without marks forgets what waits. -/
theorem setSyncFlags_forgotten_of_waiting (h : el.waiting &&& ~~~flags ≠ 0#32) :
    (el.setSyncFlags flags).forgotten = true := by
  simp [setSyncFlags, h]

theorem Marked.merge (h : el.Marked) (hnone : el.syncFlags = SyncFlag.none) (mask : BitVec 32)
    (slave : DevInfo) : (el.merge mask slave).Marked := by
  have hswept : el.Swept := ⟨h.kept, h.waiting hnone⟩
  have hpath : ({ el with devicePath := slave.devicePath } : DevInfo).Swept :=
    ⟨hswept.kept, hswept.waiting⟩
  unfold DevInfo.merge
  dsimp only
  split
  · have hchange := hpath.marked.orSyncFlags (SyncFlag.connectChange &&& mask)
    split
    · exact (hchange.withConnected _).orSyncFlags _
    · exact (hchange.withConnected _).orSyncFlags _
  · exact hpath.setSyncFlags _

theorem merge_forgotten (h : el.forgotten = true) : (el.merge mask slave).forgotten = true := by
  unfold merge
  dsimp only
  split
  · split <;> exact h
  · exact setSyncFlags_forgotten h

theorem Marked.syncMasterOnly (h : el.Marked) (hnone : el.syncFlags = SyncFlag.none)
    (mask : BitVec 32) : (el.syncMasterOnly mask).Marked := by
  unfold DevInfo.syncMasterOnly
  dsimp only
  split
  · have hremoved := h.orSyncFlags (SyncFlag.removed &&& mask)
    refine Marked.withConnected ?_ false
    split
    next hzero =>
      -- the mask leaves `REMOVED` out, so the flags are still clear
      exact (Swept.mk hremoved.kept (hremoved.waiting hzero)).setSyncFlags _
    · exact hremoved
  · exact (Swept.mk h.kept (h.waiting hnone)).setSyncFlags _

theorem syncMasterOnly_forgotten (h : el.forgotten = true) :
    (el.syncMasterOnly mask).forgotten = true := by
  unfold syncMasterOnly
  dsimp only
  split
  · split
    · exact setSyncFlags_forgotten h
    · exact h
  · exact setSyncFlags_forgotten h

end DevInfo

/-- No mark waits on a new element. -/
theorem TempItem.swept_devInfo (item : TempItem) : item.devInfo.Swept := ⟨rfl, rfl⟩

/-! ### The marks across a synchronisation -/

section Sync

variable {pathMatchSpec : List Char → List Char → Bool} {mask : BitVec 32}
  {master slave : List DevInfo}

theorem marked_syncSlaveFound (el slave : DevInfo) (h : el.Marked) :
    (syncSlaveFound mask slave el).Marked := by
  unfold syncSlaveFound
  split
  · exact h
  next hnone => exact h.merge (not_not.mp hnone) mask slave

theorem syncSlaveFound_forgotten (el slave : DevInfo) (h : el.forgotten = true) :
    (syncSlaveFound mask slave el).forgotten = true := by
  unfold syncSlaveFound
  split
  · exact h
  · exact DevInfo.merge_forgotten h

theorem marked_syncMaster (el : DevInfo) (h : el.Marked) :
    (syncMaster pathMatchSpec mask slave el).Marked := by
  unfold syncMaster
  split
  · exact h
  next hnone =>
    split
    · exact h.merge (not_not.mp hnone) mask _
    · exact h.syncMasterOnly (not_not.mp hnone) mask

theorem syncMaster_forgotten (el : DevInfo) (h : el.forgotten = true) :
    (syncMaster pathMatchSpec mask slave el).forgotten = true := by
  unfold syncMaster
  split
  · exact h
  · split
    · exact DevInfo.merge_forgotten h
    · exact DevInfo.syncMasterOnly_forgotten h

theorem enumerate_syncPrep :
    (enumerate devEnumSyncPrep master ()).1 = master.map (DevInfo.setSyncFlags SyncFlag.none) :=
  enumerate_eq_map (fun _ _ => rfl) (fun _ _ => rfl) master ()

theorem enumerate_syncMaster :
    (enumerate (devEnumSyncMaster pathMatchSpec mask slave) master ()).1 =
      master.map (syncMaster pathMatchSpec mask slave) :=
  enumerate_eq_map (fun _ _ => rfl) (fun _ _ => rfl) master ()

theorem syncSlave_marked (hmaster : ∀ el ∈ master, el.Marked) (hslave : ∀ el ∈ slave, el.Swept) :
    ∀ el ∈ (enumerate (devEnumSyncSlave pathMatchSpec mask) slave master).2, el.Marked := by
  refine (enumerate_forall (P := DevInfo.Swept) (I := fun master => ∀ el ∈ master, el.Marked)
    ?_ slave master hmaster hslave).1
  intro master el hmaster hel
  unfold devEnumSyncSlave
  split
  next master' hedit =>
    refine ⟨editFirst_forall (fun m => marked_syncSlaveFound m el) hedit hmaster, ?_⟩
    rintro b hb
    cases hb
    exact hel
  · split
    · -- the element moves to the end of the master list
      refine ⟨fun b hb => ?_, fun b hb => by cases hb⟩
      rcases List.mem_append.mp hb with hb | hb
      · exact hmaster b hb
      · cases List.mem_singleton.mp hb
        exact hel.setSyncFlags _
    · refine ⟨hmaster, ?_⟩
      rintro b hb
      cases hb
      exact hel

theorem syncSlave_forgotten (h : ∃ el ∈ master, el.forgotten = true) :
    ∃ el ∈ (enumerate (devEnumSyncSlave pathMatchSpec mask) slave master).2,
      el.forgotten = true := by
  refine (enumerate_forall (P := fun _ => True)
    (I := fun master => ∃ el ∈ master, el.forgotten = true) ?_ slave master h
    fun _ _ => trivial).1
  intro master el hmaster _
  refine ⟨?_, fun _ _ => trivial⟩
  unfold devEnumSyncSlave
  split
  next master' hedit =>
    exact editFirst_exists (P := fun el => el.forgotten = true)
      (fun m => syncSlaveFound_forgotten m el) hedit hmaster
  · obtain ⟨m, hm, hforgotten⟩ := hmaster
    split
    · exact ⟨m, List.mem_append_left _ hm, hforgotten⟩
    · exact ⟨m, hm, hforgotten⟩

/-- From a list on which no mark waits, a synchronisation overwrites none. -/
theorem lstKSync_marked (syncFlags : BitVec 32) (hmaster : ∀ el ∈ master, el.Swept)
    (hslave : ∀ el ∈ slave, el.Swept) :
    ∀ el ∈ (lstKSync pathMatchSpec syncFlags master slave).1, el.Marked := by
  unfold lstKSync
  dsimp only
  rw [enumerate_syncPrep, enumerate_syncMaster]
  refine List.forall_mem_map.mpr fun el hel => ?_
  apply marked_syncMaster
  refine syncSlave_marked (List.forall_mem_map.mpr fun el hel => ?_) hslave el hel
  exact (hmaster el hel).setSyncFlags _

/-- A mark that waits when a synchronisation starts is overwritten by the preparation,
and what the merge does afterwards does not bring it back. -/
theorem lstKSync_forgotten (syncFlags : BitVec 32) (h : ∃ el ∈ master, el.waiting ≠ 0#32) :
    ∃ el ∈ (lstKSync pathMatchSpec syncFlags master slave).1, el.forgotten = true := by
  obtain ⟨el, hel, hwaiting⟩ := h
  have hprep : ∃ el ∈ master.map (DevInfo.setSyncFlags SyncFlag.none), el.forgotten = true := by
    refine ⟨_, List.mem_map_of_mem hel, DevInfo.setSyncFlags_forgotten_of_waiting ?_⟩
    rwa [show ~~~SyncFlag.none = BitVec.allOnes 32 by decide, BitVec.and_allOnes]
  unfold lstKSync
  dsimp only
  rw [enumerate_syncPrep, enumerate_syncMaster]
  obtain ⟨m, hm, hforgotten⟩ := syncSlave_forgotten hprep
  exact ⟨_, List.mem_map_of_mem hm, syncMaster_forgotten m hforgotten⟩

end Sync

end LibusbK
