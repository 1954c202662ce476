import Mathlib.Data.List.Forall2
import LibusbK.Lib.FirstCome
import LibusbK.Dll.DeviceSync

/-!
# What a synchronisation makes of two lists

`LstK_Sync` (`lusbk_device_list.c`) when symbolic links match if they are equal up to
case.  The elements of the master list stay in their order, and behind them come those
of the slave list whose links were not there.  An element whose change the mask
suppresses altogether keeps the flags that mean it is not processed yet, and is
processed again for every other element of the slave list with its link.

## Main definitions

* `linkMatch`, `DevInfo.linkKey` -- links up to case.
* `Reconciled` -- what becomes of an element of the master list.
* `movedFrom`, `leftIn` -- the elements of the slave list that are moved, and the others.

## Main results

* `lstKSync_reconciles` -- the two lists after a synchronisation.
-/

namespace LibusbK

/-! ### Links up to case -/

/-- `PathMatchSpec` for links: equality up to case. -/
def linkMatch (file spec : List Char) : Bool :=
  decide (file.map Char.toLower = spec.map Char.toLower)

/-- The link of an element, in lower case. -/
def DevInfo.linkKey (el : DevInfo) : List Char := el.symbolicLink.map Char.toLower

/-- The fields of an element that a synchronisation never writes. -/
def DevInfo.identity (el : DevInfo) : List Char × List Char × List Char × List Char :=
  (el.symbolicLink, el.deviceID, el.deviceInterfaceGUID, el.classGUID)

theorem matchSymbolicLink_linkMatch (pattern el : DevInfo) :
    matchSymbolicLink linkMatch pattern el = decide (el.linkKey = pattern.linkKey) := rfl

theorem linkKey_of_identity {a b : DevInfo} (h : a.identity = b.identity) :
    a.linkKey = b.linkKey := by
  have hlink : a.symbolicLink = b.symbolicLink := congrArg Prod.fst h
  rw [DevInfo.linkKey, hlink, DevInfo.linkKey]

/-! ### What must become of the elements -/

/-- The flags of a change, when `found` is the first element of the slave list with the link:
an element that is in no slave list can only be removed. -/
def changeFlags : Option DevInfo → BitVec 32
  | some slave =>
    SyncFlag.connectChange ||| if slave.connected then SyncFlag.added else SyncFlag.removed
  | none => SyncFlag.removed

/-- The first element of the slave list with the link of an element. -/
def DevInfo.counterpart (slave : List DevInfo) (el : DevInfo) : Option DevInfo :=
  slave.find? fun other => other.linkKey = el.linkKey

/-- What becomes of an element of the master list. -/
structure Reconciled (mask : BitVec 32) (slave : List DevInfo) (el el' : DevInfo) : Prop where
  identity : el'.identity = el.identity
  connected : el'.connected = (el.counterpart slave).elim false fun other => other.connected
  unchanged : el'.connected = el.connected → el'.syncFlags = SyncFlag.unchanged
  changed : el'.connected ≠ el.connected → changeFlags (el.counterpart slave) &&& mask ≠ 0#32 →
    el'.syncFlags = changeFlags (el.counterpart slave) &&& mask
  suppressed : el'.connected ≠ el.connected → changeFlags (el.counterpart slave) &&& mask = 0#32 →
    el'.syncFlags = SyncFlag.none ∨ el'.syncFlags = SyncFlag.unchanged

/-- The elements of the slave list that are moved: the first of each link that is not in the
master list. -/
def movedFrom (mask : BitVec 32) (master slave : List DevInfo) : List DevInfo :=
  if SyncFlag.added &&& mask ≠ 0#32 then
    served DevInfo.linkKey (fun _ => false) (master.map DevInfo.linkKey) slave
  else []

/-- The elements of the slave list that stay there. -/
def leftIn (mask : BitVec 32) (master slave : List DevInfo) : List DevInfo :=
  if SyncFlag.added &&& mask ≠ 0#32 then
    turnedAway DevInfo.linkKey (master.map DevInfo.linkKey) slave
  else slave

/-- A moved element: it is as it was but for its flags. -/
structure SyncMoved (el el' : DevInfo) : Prop where
  toTempItem : el'.toTempItem = el.toTempItem
  syncFlags : el'.syncFlags = if el.connected then SyncFlag.added else SyncFlag.unchanged

/-- The two lists after a synchronisation of `master` with `slave`. -/
structure Reconciliation (mask : BitVec 32) (master slave master' slave' : List DevInfo) :
    Prop where
  lists : ∃ kept added, master' = kept ++ added ∧
    List.Forall₂ (Reconciled mask slave) master kept ∧
    List.Forall₂ SyncMoved (movedFrom mask master slave) added
  moved : ∀ el, el ∈ movedFrom mask master slave ↔ SyncFlag.added &&& mask ≠ 0#32 ∧
    el.linkKey ∉ master.map DevInfo.linkKey ∧ el.counterpart slave = some el
  left : slave' = leftIn mask master slave
  moved_sublist : (movedFrom mask master slave).Sublist slave
  left_sublist : slave'.Sublist slave
  perm : (movedFrom mask master slave ++ slave').Perm slave

/-- The flags of an element are the bits of its change that the mask lets through. -/
def ChangedExactly (mask : BitVec 32) (slave : List DevInfo) (el el' : DevInfo) : Prop :=
  el'.syncFlags =
    if el'.connected = el.connected then SyncFlag.unchanged
    else changeFlags (el.counterpart slave) &&& mask

/-- The elements of the slave list with the link of an element are connected alike, unless
the mask lets the change to the first of them through. -/
def SlavesAgree (mask : BitVec 32) (slave : List DevInfo) (el : DevInfo) : Prop :=
  ∀ other ∈ el.counterpart slave,
    changeFlags (some other) &&& mask ≠ 0#32 ∨ other.connected = el.connected ∨
      ∀ b ∈ slave, b.linkKey = el.linkKey → b.connected = other.connected

/-! ### One element -/

section Element

variable {mask : BitVec 32}

theorem identity_merge (el slave : DevInfo) : (el.merge mask slave).identity = el.identity := by
  unfold DevInfo.merge
  dsimp only
  split
  · split <;> rfl
  · rfl

theorem identity_syncSlaveFound (slave el : DevInfo) :
    (syncSlaveFound mask slave el).identity = el.identity := by
  unfold syncSlaveFound
  split
  · rfl
  · exact identity_merge el slave

theorem connected_merge (el slave : DevInfo) :
    (el.merge mask slave).connected = slave.connected := by
  unfold DevInfo.merge
  dsimp only
  split
  · split <;> rfl
  next h => exact (not_not.mp h).symm

/-- The flags of a merge into an element whose flags are clear. -/
theorem syncFlags_merge {el : DevInfo} (hnone : el.syncFlags = SyncFlag.none) (slave : DevInfo) :
    (el.merge mask slave).syncFlags =
      if slave.connected = el.connected then SyncFlag.unchanged
      else changeFlags (some slave) &&& mask := by
  unfold DevInfo.merge
  dsimp only
  by_cases hsame : slave.connected = el.connected
  · rw [if_neg (not_not.mpr hsame), if_pos hsame]
    rfl
  · rw [if_pos hsame, if_neg hsame]
    have hor : ∀ flags : BitVec 32,
        SyncFlag.none ||| SyncFlag.connectChange &&& mask ||| flags &&& mask =
          (SyncFlag.connectChange ||| flags) &&& mask := by
      intro flags
      rw [SyncFlag.none, BitVec.zero_or, BitVec.and_comm _ mask, BitVec.and_comm flags mask,
        ← BitVec.and_or_distrib_left, BitVec.and_comm mask]
    have hchange : changeFlags (some slave) =
        SyncFlag.connectChange |||
          if slave.connected then SyncFlag.added else SyncFlag.removed := rfl
    rw [hchange, ← hor, ← hnone]
    cases slave.connected <;> rfl

/-- What the merge callbacks leave of an element whose flags were clear, when `slave` is the
first element of the slave list with its link. -/
structure Merged (mask : BitVec 32) (slave el el' : DevInfo) : Prop where
  identity : el'.identity = el.identity
  connected : el'.connected = slave.connected
  unchanged : slave.connected = el.connected → el'.syncFlags = SyncFlag.unchanged
  changed : slave.connected ≠ el.connected → changeFlags (some slave) &&& mask ≠ 0#32 →
    el'.syncFlags = changeFlags (some slave) &&& mask
  suppressed : slave.connected ≠ el.connected → changeFlags (some slave) &&& mask = 0#32 →
    el'.syncFlags = SyncFlag.none ∨ el'.syncFlags = SyncFlag.unchanged

theorem merged_merge {el : DevInfo} (hnone : el.syncFlags = SyncFlag.none) (slave : DevInfo) :
    Merged mask slave el (el.merge mask slave) := by
  have hflags := @syncFlags_merge mask _ hnone slave
  refine ⟨identity_merge el slave, connected_merge el slave, fun h => ?_, fun h _ => ?_,
    fun h hzero => ?_⟩
  · rw [hflags, if_pos h]
  · rw [hflags, if_neg h]
  · rw [hflags, if_neg h]
    exact Or.inl hzero

/-- Only an element whose change is suppressed is still to be processed. -/
theorem Merged.of_syncFlags_none {slave el el' : DevInfo} (h : Merged mask slave el el')
    (hnone : el'.syncFlags = SyncFlag.none) :
    slave.connected ≠ el.connected ∧ changeFlags (some slave) &&& mask = 0#32 := by
  have hne : slave.connected ≠ el.connected := by
    intro hsame
    have hunchanged := (h.unchanged hsame).symm.trans hnone
    exact absurd hunchanged (by decide)
  refine ⟨hne, ?_⟩
  by_contra hbits
  exact hbits ((h.changed hne hbits).symm.trans hnone)

/-- Processing an element again, for one of the slave list that is connected like the first. -/
theorem Merged.again {slave el el' : DevInfo} (h : Merged mask slave el el')
    (hnone : el'.syncFlags = SyncFlag.none) {other : DevInfo}
    (hother : other.connected = slave.connected) :
    Merged mask slave el (el'.merge mask other) := by
  obtain ⟨hne, hbits⟩ := h.of_syncFlags_none hnone
  refine ⟨(identity_merge el' other).trans h.identity, (connected_merge el' other).trans hother,
    fun hsame => absurd hsame hne, fun _ hset => absurd hbits hset, fun _ _ => Or.inr ?_⟩
  rw [syncFlags_merge hnone, if_pos (hother.trans h.connected.symm)]

/-- All the elements of the slave list that are left, one after the other. -/
theorem Merged.foldl {slave el : DevInfo} {l : List DevInfo}
    (hl : changeFlags (some slave) &&& mask = 0#32 → slave.connected ≠ el.connected →
      ∀ b ∈ l, b.connected = slave.connected) :
    ∀ {el' : DevInfo}, Merged mask slave el el' →
      Merged mask slave el (l.foldl (fun m b => syncSlaveFound mask b m) el') := by
  induction l with
  | nil => exact fun h => h
  | cons b l ih =>
    intro el' h
    have hnext : Merged mask slave el (syncSlaveFound mask b el') := by
      unfold syncSlaveFound
      split
      · exact h
      next hnone =>
        have hclear := not_not.mp hnone
        obtain ⟨hne, hbits⟩ := h.of_syncFlags_none hclear
        exact h.again hclear (hl hbits hne b List.mem_cons_self)
    exact ih (fun hbits hne c hc => hl hbits hne c (List.mem_cons_of_mem b hc)) hnext

/-- An element that is in no slave list. -/
theorem reconciled_syncMasterOnly {slave : List DevInfo} {el el₀ : DevInfo}
    (hnone : el.syncFlags = SyncFlag.none) (hidentity : el.identity = el₀.identity)
    (hconnected : el.connected = el₀.connected) (hfind : el₀.counterpart slave = none) :
    Reconciled mask slave el₀ (el.syncMasterOnly mask) := by
  unfold DevInfo.syncMasterOnly
  cases hold : el.connected with
  | false =>
    rw [if_neg (by simp)]
    refine ⟨hidentity, by rw [hfind]; exact hold, fun _ => rfl, fun h => ?_, fun h => ?_⟩
    · exact absurd hconnected h
    · exact absurd hconnected h
  | true =>
    rw [if_pos rfl]
    have hnot : el₀.connected ≠ false := by simp [← hconnected, hold]
    have hremoved : (el.orSyncFlags (SyncFlag.removed &&& mask)).syncFlags =
        SyncFlag.removed &&& mask := by
      change el.syncFlags ||| SyncFlag.removed &&& mask = _
      rw [hnone, SyncFlag.none, BitVec.zero_or]
    dsimp only
    rw [hremoved]
    split
    next hzero =>
      refine ⟨hidentity, by rw [hfind]; rfl, fun _ => rfl, fun _ hset => ?_, fun _ _ => Or.inr rfl⟩
      rw [hfind] at hset
      exact absurd hzero hset
    next hset =>
      refine ⟨hidentity, by rw [hfind]; rfl, fun h => absurd h.symm hnot, fun _ _ => ?_,
        fun _ hzero => ?_⟩
      · rw [hfind]
        exact hremoved
      · rw [hfind] at hzero
        exact absurd hzero hset

/-- The last pass over an element of the master list. -/
theorem reconciled_syncMaster {slave rest : List DevInfo} {el₀ el el' : DevInfo}
    (hnone : el.syncFlags = SyncFlag.none) (hidentity : el.identity = el₀.identity)
    (hconnected : el.connected = el₀.connected)
    (hrest : ∀ other : DevInfo, other.linkKey = el₀.linkKey →
      other.counterpart rest = el₀.counterpart slave)
    (h : el' = el ∨ ∃ other ∈ el₀.counterpart slave, Merged mask other el el') :
    Reconciled mask slave el₀ (syncMaster linkMatch mask rest el') := by
  have hidentity' : el'.identity = el₀.identity := by
    rcases h with rfl | ⟨other, -, hmerged⟩
    · exact hidentity
    · exact hmerged.identity.trans hidentity
  have hfind : rest.find? (fun other => matchSymbolicLink linkMatch other el') =
      el₀.counterpart slave := by
    rw [← hrest el' (linkKey_of_identity hidentity')]
    unfold DevInfo.counterpart
    congr 1
    funext other
    rw [matchSymbolicLink_linkMatch]
    exact decide_eq_decide.mpr eq_comm
  -- what a merge leaves is right, when nothing else comes
  have hdone : ∀ other ∈ el₀.counterpart slave, ∀ final, Merged mask other el final →
      Reconciled mask slave el₀ final := by
    intro other hother final hfinal
    rw [Option.mem_def] at hother
    refine ⟨hfinal.identity.trans hidentity, ?_, fun hsame => ?_, fun hne hset => ?_,
      fun hne hzero => ?_⟩
    · rw [hother]
      exact hfinal.connected
    · exact hfinal.unchanged (by rw [← hfinal.connected, hsame, hconnected])
    · rw [hother] at hset ⊢
      exact hfinal.changed (by rw [← hfinal.connected, hconnected]; exact hne) hset
    · rw [hother] at hzero
      exact hfinal.suppressed (by rw [← hfinal.connected, hconnected]; exact hne) hzero
  unfold syncMaster
  rw [hfind]
  rcases h with rfl | ⟨other, hother, hmerged⟩
  · rw [if_neg (not_not.mpr hnone)]
    cases hslave : el₀.counterpart slave with
    | none => exact reconciled_syncMasterOnly hnone hidentity hconnected hslave
    | some other => exact hdone other hslave _ (merged_merge hnone other)
  · split
    · exact hdone other hother _ hmerged
    next hclear =>
      rw [Option.mem_def] at hother
      rw [hother]
      exact hdone other hother _ (hmerged.again (not_not.mp hclear) rfl)

end Element

/-! ### The passes over the lists -/

section Passes

variable {mask : BitVec 32}

/-- What one element of the slave list does to the master list, when its link is there. -/
def syncSlaveEdit (mask : BitVec 32) (master : List DevInfo) (slave : DevInfo) : List DevInfo :=
  editHead (fun el => matchSymbolicLink linkMatch el slave) (syncSlaveFound mask slave) master

theorem linkKey_syncSlaveFound (slave el : DevInfo) :
    (syncSlaveFound mask slave el).linkKey = el.linkKey :=
  linkKey_of_identity (identity_syncSlaveFound slave el)

theorem map_linkKey_syncSlaveEdit (master : List DevInfo) (slave : DevInfo) :
    (syncSlaveEdit mask master slave).map DevInfo.linkKey = master.map DevInfo.linkKey :=
  map_editHead (linkKey_syncSlaveFound slave) master

theorem syncSlaveEdit_cons (el slave : DevInfo) (master : List DevInfo) :
    syncSlaveEdit mask (el :: master) slave =
      if slave.linkKey = el.linkKey then syncSlaveFound mask slave el :: master
      else el :: syncSlaveEdit mask master slave := by
  rw [syncSlaveEdit, editHead_cons, matchSymbolicLink_linkMatch]
  by_cases h : slave.linkKey = el.linkKey
  · rw [if_pos (decide_eq_true h), if_pos h]
  · rw [if_neg (by simpa using h), if_neg h, syncSlaveEdit]

/-- The first element of a list takes the elements of the slave list with its link, and the
rest of the list takes the others. -/
theorem foldl_syncSlaveEdit_cons (slave : List DevInfo) :
    ∀ (el : DevInfo) (master : List DevInfo),
      slave.foldl (syncSlaveEdit mask) (el :: master) =
        (slave.filter fun b => b.linkKey = el.linkKey).foldl
            (fun m b => syncSlaveFound mask b m) el ::
          (slave.filter fun b => b.linkKey ≠ el.linkKey).foldl (syncSlaveEdit mask) master := by
  induction slave with
  | nil => exact fun _ _ => rfl
  | cons b slave ih =>
    intro el master
    rw [List.foldl_cons, syncSlaveEdit_cons]
    by_cases h : b.linkKey = el.linkKey
    · rw [if_pos h, ih, linkKey_syncSlaveFound]
      simp [h]
    · rw [if_neg h, ih]
      simp [h]

/-- Every element of the master list takes no element of the slave list, or all with its
link. -/
theorem forall₂_foldl_syncSlaveEdit :
    ∀ (master slave : List DevInfo),
      List.Forall₂ (fun el el' => el' = el ∨
          el' = (slave.filter fun b => b.linkKey = el.linkKey).foldl
            (fun m b => syncSlaveFound mask b m) el)
        master (slave.foldl (syncSlaveEdit mask) master) := by
  intro master
  induction master with
  | nil =>
    intro slave
    have hnil : slave.foldl (syncSlaveEdit mask) [] = [] := by
      induction slave with
      | nil => rfl
      | cons b slave ih => exact ih
    rw [hnil]
    exact List.Forall₂.nil
  | cons el master ih =>
    intro slave
    rw [foldl_syncSlaveEdit_cons]
    refine List.Forall₂.cons (Or.inr rfl) ((ih _).imp ?_)
    rintro m m' (rfl | rfl)
    · exact Or.inl rfl
    · by_cases h : m.linkKey = el.linkKey
      · -- the elements with its link went to an earlier element
        left
        rw [List.filter_filter, List.filter_eq_nil_iff.mpr]
        · rfl
        · intro b _ hb
          simp [h] at hb
      · right
        rw [List.filter_filter]
        congr 1
        refine List.filter_congr fun b _ => ?_
        by_cases hb : b.linkKey = m.linkKey
        · simp [hb, h]
        · simp [hb]

/-- An element as it is moved to the master list. -/
def syncSlaveMoved (slave : DevInfo) : DevInfo :=
  slave.setSyncFlags (if slave.connected then SyncFlag.added else SyncFlag.unchanged)

theorem syncSlaveMoved_ne_none (slave : DevInfo) :
    (syncSlaveMoved slave).syncFlags ≠ SyncFlag.none := by
  change (if slave.connected then SyncFlag.added else SyncFlag.unchanged) ≠ SyncFlag.none
  split <;> decide

theorem mem_linkKeys_iff {slave : DevInfo} {l : List DevInfo} :
    slave.linkKey ∈ l.map DevInfo.linkKey ↔
      ∃ el ∈ l, matchSymbolicLink linkMatch el slave = true := by
  rw [List.mem_map]
  refine exists_congr fun el => and_congr_right fun _ => ?_
  rw [matchSymbolicLink_linkMatch, decide_eq_true_iff]
  exact eq_comm

theorem forall_of_not_mem_linkKeys {slave : DevInfo} {l : List DevInfo}
    (h : slave.linkKey ∉ l.map DevInfo.linkKey) :
    ∀ el ∈ l, matchSymbolicLink linkMatch el slave = false := by
  intro el hel
  by_contra hmatch
  exact h (mem_linkKeys_iff.mpr ⟨el, hel, by simpa using hmatch⟩)

/-- An element of the slave list whose link is in the master list. -/
theorem devEnumSyncSlave_of_mem {slave : DevInfo} {master moved : List DevInfo}
    (hmoved : ∀ a ∈ moved, a.syncFlags ≠ SyncFlag.none)
    (h : slave.linkKey ∈ (master ++ moved).map DevInfo.linkKey) :
    devEnumSyncSlave linkMatch mask (master ++ moved) slave =
      ⟨some slave, syncSlaveEdit mask master slave ++ moved, true⟩ := by
  unfold devEnumSyncSlave
  by_cases hmaster : slave.linkKey ∈ master.map DevInfo.linkKey
  · rw [editFirst_append_of_exists (mem_linkKeys_iff.mp hmaster)]
    rfl
  · have hnone := forall_of_not_mem_linkKeys hmaster
    rw [List.map_append, List.mem_append] at h
    have hfound := mem_linkKeys_iff.mp (h.resolve_left hmaster)
    rw [editFirst_append_of_forall hnone]
    -- what was moved is processed already
    have hsame : editHead (fun el => matchSymbolicLink linkMatch el slave)
        (syncSlaveFound mask slave) moved = moved := by
      clear h hfound
      induction moved with
      | nil => rfl
      | cons a moved ih =>
        obtain ⟨ha, hrest⟩ := List.forall_mem_cons.mp hmoved
        rw [editHead_cons]
        split
        · rw [syncSlaveFound, if_pos ha]
        · rw [ih hrest]
    have hedit := @editFirst_append_of_exists _ _ (syncSlaveFound mask slave) [] _ hfound
    rw [List.append_nil, List.append_nil, hsame] at hedit
    rw [hedit, syncSlaveEdit, editHead_of_forall hnone]
    rfl

/-- The merge of a slave list, when new elements are moved. -/
theorem enumerate_syncSlave_added (hmask : SyncFlag.added &&& mask ≠ 0#32) (slave : List DevInfo) :
    ∀ (master moved : List DevInfo), (∀ a ∈ moved, a.syncFlags ≠ SyncFlag.none) →
      enumerate (devEnumSyncSlave linkMatch mask) slave (master ++ moved) =
        (turnedAway DevInfo.linkKey ((master ++ moved).map DevInfo.linkKey) slave,
          slave.foldl (syncSlaveEdit mask) master ++ (moved ++
            (served DevInfo.linkKey (fun _ => false) ((master ++ moved).map DevInfo.linkKey)
              slave).map syncSlaveMoved)) := by
  induction slave with
  | nil =>
    intro master moved _
    simp [turnedAway, served]
  | cons b slave ih =>
    intro master moved hmoved
    by_cases h : b.linkKey ∈ (master ++ moved).map DevInfo.linkKey
    · have hkeys : (syncSlaveEdit mask master b ++ moved).map DevInfo.linkKey =
          (master ++ moved).map DevInfo.linkKey := by
        rw [List.map_append, List.map_append, map_linkKey_syncSlaveEdit]
      rw [enumerate_cons, devEnumSyncSlave_of_mem hmoved h, if_pos rfl]
      dsimp only
      rw [ih _ _ hmoved, hkeys, turnedAway, if_pos h, served, if_pos h]
      rfl
    · have hnone := forall_of_not_mem_linkKeys h
      have hvisit : devEnumSyncSlave linkMatch mask (master ++ moved) b =
          ⟨none, master ++ (moved ++ [syncSlaveMoved b]), true⟩ := by
        unfold devEnumSyncSlave
        rw [editFirst_eq_none.mpr hnone]
        dsimp only
        rw [if_pos hmask, List.append_assoc]
        rfl
      have hedit : syncSlaveEdit mask master b = master :=
        editHead_of_forall fun el hel => hnone el (List.mem_append_left _ hel)
      have hkeys : (master ++ (moved ++ [syncSlaveMoved b])).map DevInfo.linkKey =
          (master ++ moved).map DevInfo.linkKey ++ [b.linkKey] := by
        rw [← List.append_assoc, List.map_append]
        rfl
      have hmoved' : ∀ a ∈ moved ++ [syncSlaveMoved b], a.syncFlags ≠ SyncFlag.none := by
        intro a ha
        rcases List.mem_append.mp ha with ha | ha
        · exact hmoved a ha
        · rw [List.mem_singleton.mp ha]
          exact syncSlaveMoved_ne_none b
      rw [enumerate_cons, hvisit, if_pos rfl]
      dsimp only
      rw [ih _ _ hmoved', hkeys, turnedAway, if_neg h, served, if_neg h, List.foldl_cons, hedit]
      simp

/-- The merge of a slave list, when no element is moved. -/
theorem enumerate_syncSlave_not_added (hmask : ¬SyncFlag.added &&& mask ≠ 0#32)
    (slave : List DevInfo) :
    ∀ master : List DevInfo, enumerate (devEnumSyncSlave linkMatch mask) slave master =
      (slave, slave.foldl (syncSlaveEdit mask) master) := by
  induction slave with
  | nil => exact fun _ => rfl
  | cons b slave ih =>
    intro master
    have hvisit : devEnumSyncSlave linkMatch mask master b =
        ⟨some b, syncSlaveEdit mask master b, true⟩ := by
      unfold devEnumSyncSlave syncSlaveEdit editHead
      cases editFirst (fun el => matchSymbolicLink linkMatch el b) (syncSlaveFound mask b)
          master with
      | some master' => rfl
      | none =>
        dsimp only
        rw [if_neg hmask]
        rfl
    rw [enumerate_cons, hvisit, if_pos rfl]
    dsimp only
    rw [ih]
    rfl

end Passes

/-! ### The two lists -/

section Reconcile

variable {mask : BitVec 32} {master slave : List DevInfo}

/-- What the merge of the slave list leaves of an element of the master list. -/
theorem merged_foldl_syncSlaveFound {el : DevInfo} (hagree : SlavesAgree mask slave el) :
    let cleared := el.setSyncFlags SyncFlag.none
    let merged := (slave.filter fun b => b.linkKey = el.linkKey).foldl
      (fun m b => syncSlaveFound mask b m) cleared
    merged = cleared ∨ ∃ other ∈ el.counterpart slave, Merged mask other cleared merged := by
  dsimp only
  generalize hcleared : el.setSyncFlags SyncFlag.none = cleared
  have hnone : cleared.syncFlags = SyncFlag.none := by rw [← hcleared]; rfl
  have hconnected' : cleared.connected = el.connected := by rw [← hcleared]; rfl
  cases hsame : slave.filter fun b => b.linkKey = el.linkKey with
  | nil =>
    exact Or.inl rfl
  | cons other others =>
    right
    have hother : el.counterpart slave = some other := by
      rw [DevInfo.counterpart, ← List.head?_filter, hsame]
      rfl
    refine ⟨other, hother, ?_⟩
    have hfirst : syncSlaveFound mask other cleared = cleared.merge mask other := by
      rw [syncSlaveFound, if_neg (not_not.mpr hnone)]
    rw [List.foldl_cons, hfirst]
    refine (merged_merge hnone other).foldl fun hzero hne b hb => ?_
    have hfilter : b ∈ slave.filter fun b => b.linkKey = el.linkKey := by
      rw [hsame]
      exact List.mem_cons_of_mem other hb
    obtain ⟨hslave, hkey⟩ := List.mem_filter.mp hfilter
    rcases hagree other hother with hset | hconnected | hall
    · exact absurd hzero hset
    · exact absurd (hconnected.trans hconnected'.symm) hne
    · exact hall b hslave (by simpa using hkey)

/-- An element of the master list finds the same counterpart in what the merge leaves of the
slave list. -/
theorem counterpart_leftIn {el other : DevInfo} (hel : el ∈ master)
    (hkey : other.linkKey = el.linkKey) :
    other.counterpart (leftIn mask master slave) = el.counterpart slave := by
  unfold leftIn DevInfo.counterpart
  rw [hkey]
  split
  · exact find?_turnedAway slave (List.mem_map_of_mem hel)
  · rfl

/-- The merge of the slave list. -/
theorem enumerate_syncSlave_prepared :
    enumerate (devEnumSyncSlave linkMatch mask) slave
        (master.map (DevInfo.setSyncFlags SyncFlag.none)) =
      (leftIn mask master slave,
        slave.foldl (syncSlaveEdit mask) (master.map (DevInfo.setSyncFlags SyncFlag.none)) ++
          (movedFrom mask master slave).map syncSlaveMoved) := by
  have hkeys : (master.map (DevInfo.setSyncFlags SyncFlag.none)).map DevInfo.linkKey =
      master.map DevInfo.linkKey := by
    rw [List.map_map]
    rfl
  unfold leftIn movedFrom
  split
  next hadded =>
    have hmerge := enumerate_syncSlave_added hadded slave
      (master.map (DevInfo.setSyncFlags SyncFlag.none)) [] (by simp)
    rw [List.append_nil, hkeys] at hmerge
    exact hmerge
  next hadded =>
    rw [enumerate_syncSlave_not_added hadded]
    simp

/-- A moved element is left alone by the last pass. -/
theorem moved_syncMaster (rest : List DevInfo) (el : DevInfo) :
    SyncMoved el (syncMaster linkMatch mask rest (syncSlaveMoved el)) := by
  unfold syncMaster
  rw [if_pos (syncSlaveMoved_ne_none el)]
  exact ⟨rfl, rfl⟩

/-- The elements of the master list stay in their order, and behind them come the first
elements of the slave list with a new link. -/
theorem lstKSync_reconciles (hmask : mask ≠ 0#32)
    (hagree : ∀ el ∈ master, SlavesAgree mask slave el) :
    Reconciliation mask master slave (lstKSync linkMatch mask master slave).1
      (lstKSync linkMatch mask master slave).2 := by
  have hsync : lstKSync linkMatch mask master slave =
      ((slave.foldl (syncSlaveEdit mask) (master.map (DevInfo.setSyncFlags SyncFlag.none))).map
          (syncMaster linkMatch mask (leftIn mask master slave)) ++
        (movedFrom mask master slave).map
          (syncMaster linkMatch mask (leftIn mask master slave) ∘ syncSlaveMoved),
        leftIn mask master slave) := by
    unfold lstKSync
    dsimp only
    rw [if_neg hmask, enumerate_syncPrep, enumerate_syncSlave_prepared, enumerate_syncMaster,
      List.map_append, List.map_map]
  rw [hsync]
  refine ⟨⟨_, _, rfl, ?_, ?_⟩, fun el => ?_, rfl, ?_, ?_, ?_⟩
  · rw [List.forall₂_map_right_iff]
    have hmembers : ∀ el ∈ master, el ∈ master := fun _ hel => hel
    have hpasses := List.forall₂_map_left_iff.mp (@forall₂_foldl_syncSlaveEdit mask
      (master.map (DevInfo.setSyncFlags SyncFlag.none)) slave)
    refine ((List.forall₂_and_left _ _).mpr ⟨hmembers, hpasses⟩).imp ?_
    rintro el el' ⟨hel, hpass⟩
    refine @reconciled_syncMaster _ _ _ _ (el.setSyncFlags SyncFlag.none) _ rfl rfl rfl
      (fun other hkey => counterpart_leftIn hel hkey) ?_
    rcases hpass with hpass | hpass
    · exact Or.inl hpass
    · rw [hpass]
      exact merged_foldl_syncSlaveFound (hagree el hel)
  · rw [List.forall₂_map_right_iff, List.forall₂_same]
    exact fun el _ => moved_syncMaster _ el
  · unfold movedFrom
    split
    next hadded =>
      rw [mem_served_iff slave]
      exact (and_iff_right hadded).symm
    next hadded => simp [not_not.mp hadded]
  · unfold movedFrom
    split
    · exact served_sublist slave _
    · exact List.nil_sublist slave
  · unfold leftIn
    split
    · exact turnedAway_sublist slave _
    · exact List.Sublist.refl slave
  · unfold movedFrom leftIn
    split
    · exact served_perm slave _
    · exact List.Perm.refl slave

end Reconcile

/-! ### A mask that suppresses a change -/

/-- A device with its connection, as a list without flags holds it. -/
def aLink (name : String) (connected : Bool) : DevInfo :=
  TempItem.devInfo
    { symbolicLink := name.toList
      devicePath := []
      deviceID := []
      deviceInterfaceGUID := []
      classGUID := []
      connected := connected }

instance (mask : BitVec 32) (slave : List DevInfo) (el : DevInfo) :
    Decidable (SlavesAgree mask slave el) :=
  inferInstanceAs (Decidable (∀ other ∈ el.counterpart slave,
    changeFlags (some other) &&& mask ≠ 0#32 ∨ other.connected = el.connected ∨
      ∀ b ∈ slave, b.linkKey = el.linkKey → b.connected = other.connected))

/-- One device is gone, one is there again, and one is new. -/
theorem lstKSync_reconciles_threeLinks :
    Reconciliation SyncFlag.mask [aLink "A" true, aLink "B" false]
      [aLink "b" true, aLink "C" true]
      (lstKSync linkMatch SyncFlag.mask [aLink "A" true, aLink "B" false]
        [aLink "b" true, aLink "C" true]).1
      (lstKSync linkMatch SyncFlag.mask [aLink "A" true, aLink "B" false]
        [aLink "b" true, aLink "C" true]).2 :=
  lstKSync_reconciles (by decide) (by decide)

/-- With `REMOVED` alone, a device that comes back is marked as unchanged. -/
theorem not_changedExactly_removed :
    ¬List.Forall₂ (ChangedExactly SyncFlag.removed [aLink "A" true]) [aLink "A" false]
      (lstKSync linkMatch SyncFlag.removed [aLink "A" false] [aLink "A" true]).1 := by
  have hsync : (lstKSync linkMatch SyncFlag.removed [aLink "A" false] [aLink "A" true]).1 =
      [(aLink "A" true).setSyncFlags SyncFlag.unchanged] := by decide
  rw [hsync]
  rintro (_ | ⟨hflags, -⟩)
  revert hflags
  unfold ChangedExactly
  decide

end LibusbK
