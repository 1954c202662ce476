import Mathlib.Data.List.Find
import LibusbK.Dll.HotNotify

/-!
# Synchronising the matching part of two lists

A synchronisation of those elements of a master list and of a slave list that match a
pattern, against the synchronisation of the whole lists: the matching part of the
result is the same, as long as no element that matches the pattern is taken by its
symbolic link for one that does not (`lusbk_device_list.c`).

## Main definitions

* `LinksAlike` -- elements whose symbolic links match also match the pattern alike.
* `DevInfo.Silent` -- an element that no sweep has anything to tell of.

## Main results

* `filter_lstKSync` -- the matching part of a synchronisation.
* `silent_lstKSync` -- what the elements that do not match become when the slave list
  has none of them.
-/

namespace LibusbK

section Filter

variable (pathMatchSpec : List Char → List Char → Bool) (handle : HotHandle)

/-- Elements whose symbolic links match also match the pattern alike. -/
def LinksAlike (pool : List DevInfo) : Prop :=
  ∀ a ∈ pool, ∀ b ∈ pool, matchSymbolicLink pathMatchSpec a b = true →
    patternMatches pathMatchSpec handle a = patternMatches pathMatchSpec handle b

/-- An element with the link of one in the pool, that matches the pattern as that one. -/
def Pooled (pool : List DevInfo) (el : DevInfo) : Prop :=
  ∃ x ∈ pool, x.symbolicLink = el.symbolicLink ∧
    patternMatches pathMatchSpec handle x = patternMatches pathMatchSpec handle el

/-- An element that is neither connected nor changed. -/
structure DevInfo.Silent (el : DevInfo) : Prop where
  connected : el.connected = false
  isChanged : ¬el.IsChanged

variable {pathMatchSpec handle} {pool : List DevInfo} {mask : BitVec 32}

theorem pooled_of_mem {el : DevInfo} (h : el ∈ pool) : Pooled pathMatchSpec handle pool el :=
  ⟨el, h, rfl, rfl⟩

theorem LinksAlike.mono {pool' : List DevInfo} (h : LinksAlike pathMatchSpec handle pool)
    (hsub : ∀ el ∈ pool', el ∈ pool) : LinksAlike pathMatchSpec handle pool' :=
  fun a ha b hb => h a (hsub a ha) b (hsub b hb)

theorem LinksAlike.eq (h : LinksAlike pathMatchSpec handle pool) {a b : DevInfo}
    (ha : Pooled pathMatchSpec handle pool a) (hb : Pooled pathMatchSpec handle pool b)
    (hmatch : matchSymbolicLink pathMatchSpec a b = true) :
    patternMatches pathMatchSpec handle a = patternMatches pathMatchSpec handle b := by
  obtain ⟨x, hx, hlink, hpx⟩ := ha
  obtain ⟨y, hy, hlink', hpy⟩ := hb
  rw [← hpx, ← hpy]
  apply h x hx y hy
  rw [← hmatch, matchSymbolicLink, matchSymbolicLink, hlink, hlink']

/-! ### What the edits keep -/

/-- An edit that keeps the fields the patterns and the searches look at. -/
def KeepsFields (f : DevInfo → DevInfo) : Prop :=
  ∀ el, (f el).symbolicLink = el.symbolicLink ∧ (f el).deviceID = el.deviceID ∧
    (f el).deviceInterfaceGUID = el.deviceInterfaceGUID ∧ (f el).classGUID = el.classGUID

theorem KeepsFields.patternMatches {f : DevInfo → DevInfo} (h : KeepsFields f) (el : DevInfo) :
    patternMatches pathMatchSpec handle (f el) = patternMatches pathMatchSpec handle el := by
  obtain ⟨-, hid, hguid, hclass⟩ := h el
  rw [LibusbK.patternMatches, LibusbK.patternMatches, hid, hguid, hclass]

theorem KeepsFields.pooled {f : DevInfo → DevInfo} (h : KeepsFields f) {el : DevInfo}
    (hel : Pooled pathMatchSpec handle pool el) : Pooled pathMatchSpec handle pool (f el) := by
  obtain ⟨x, hx, hlink, hp⟩ := hel
  exact ⟨x, hx, hlink.trans (h el).1.symm, hp.trans (h.patternMatches el).symm⟩

/-- The part of a list that matches, after an edit of all elements. -/
theorem KeepsFields.filter_map {f : DevInfo → DevInfo} (h : KeepsFields f) (l : List DevInfo) :
    (l.map f).filter (LibusbK.patternMatches pathMatchSpec handle) =
      (l.filter (LibusbK.patternMatches pathMatchSpec handle)).map f := by
  rw [List.filter_map]
  congr 1
  exact List.filter_congr fun el _ => h.patternMatches el

theorem keepsFields_setSyncFlags (flags : BitVec 32) : KeepsFields (DevInfo.setSyncFlags flags) :=
  fun _ => ⟨rfl, rfl, rfl, rfl⟩

theorem keepsFields_merge (mask : BitVec 32) (slave : DevInfo) :
    KeepsFields fun el => el.merge mask slave := by
  intro el
  unfold DevInfo.merge
  dsimp only
  split
  · split <;> exact ⟨rfl, rfl, rfl, rfl⟩
  · exact ⟨rfl, rfl, rfl, rfl⟩

theorem keepsFields_syncSlaveFound (mask : BitVec 32) (slave : DevInfo) :
    KeepsFields (syncSlaveFound mask slave) := by
  intro el
  unfold syncSlaveFound
  split
  · exact ⟨rfl, rfl, rfl, rfl⟩
  · exact keepsFields_merge mask slave el

theorem keepsFields_syncMaster (mask : BitVec 32) (slave : List DevInfo) :
    KeepsFields (syncMaster pathMatchSpec mask slave) := by
  intro el
  unfold syncMaster
  split
  · exact ⟨rfl, rfl, rfl, rfl⟩
  · split
    · exact keepsFields_merge mask _ el
    · unfold DevInfo.syncMasterOnly
      dsimp only
      split
      · split <;> exact ⟨rfl, rfl, rfl, rfl⟩
      · exact ⟨rfl, rfl, rfl, rfl⟩

/-! ### The matching part of the merge -/

/-- One element of the slave list that matches. -/
theorem filter_syncSlave_of_pos (h : LinksAlike pathMatchSpec handle pool) {slave : DevInfo}
    {master : List DevInfo} (hslave : Pooled pathMatchSpec handle pool slave)
    (hmaster : ∀ el ∈ master, Pooled pathMatchSpec handle pool el)
    (hp : patternMatches pathMatchSpec handle slave = true) :
    let visit := devEnumSyncSlave pathMatchSpec mask master slave
    let part := devEnumSyncSlave pathMatchSpec mask
      (master.filter (patternMatches pathMatchSpec handle)) slave
    part.ctx = visit.ctx.filter (patternMatches pathMatchSpec handle) ∧
      part.kept = visit.kept ∧ ∀ b ∈ visit.kept, b = slave := by
  have hmatches : ∀ el ∈ master, matchSymbolicLink pathMatchSpec el slave = true →
      patternMatches pathMatchSpec handle el = true := by
    intro el hel hmatch
    rw [h.eq (hmaster el hel) hslave hmatch, hp]
  have hedit := editFirst_filter (f := syncSlaveFound mask slave)
    (fun el => (keepsFields_syncSlaveFound mask slave).patternMatches el) hmatches
  simp only [devEnumSyncSlave, hedit]
  cases editFirst (fun el => matchSymbolicLink pathMatchSpec el slave)
      (syncSlaveFound mask slave) master with
  | some master' => exact ⟨rfl, rfl, fun b hb => (Option.mem_some.mp hb).symm⟩
  | none =>
    dsimp only [Option.map_none]
    split
    · refine ⟨?_, rfl, fun b hb => by cases hb⟩
      have hmoved : ∀ flags, patternMatches pathMatchSpec handle (slave.setSyncFlags flags) =
          true := fun flags => ((keepsFields_setSyncFlags flags).patternMatches slave).trans hp
      simp [List.filter_append, hmoved]
    · exact ⟨rfl, rfl, fun b hb => (Option.mem_some.mp hb).symm⟩

/-- One element of the slave list that does not match. -/
theorem filter_syncSlave_of_neg (h : LinksAlike pathMatchSpec handle pool) {slave : DevInfo}
    {master : List DevInfo} (hslave : Pooled pathMatchSpec handle pool slave)
    (hmaster : ∀ el ∈ master, Pooled pathMatchSpec handle pool el)
    (hp : patternMatches pathMatchSpec handle slave = false) :
    let visit := devEnumSyncSlave pathMatchSpec mask master slave
    visit.ctx.filter (patternMatches pathMatchSpec handle) =
        master.filter (patternMatches pathMatchSpec handle) ∧
      visit.kept.toList.filter (patternMatches pathMatchSpec handle) = [] := by
  unfold devEnumSyncSlave
  cases hedit : editFirst (fun el => matchSymbolicLink pathMatchSpec el slave)
      (syncSlaveFound mask slave) master with
  | some master' =>
    refine ⟨?_, by simp [hp]⟩
    refine filter_of_editFirst
      (fun el => (keepsFields_syncSlaveFound mask slave).patternMatches el) hedit ?_
    intro el hel hmatch
    rw [h.eq (hmaster el hel) hslave hmatch, hp]
  | none =>
    dsimp only
    split
    · have hmoved : ∀ flags, patternMatches pathMatchSpec handle (slave.setSyncFlags flags) =
          false := fun flags => ((keepsFields_setSyncFlags flags).patternMatches slave).trans hp
      simp [List.filter_append, hmoved]
    · exact ⟨rfl, by simp [hp]⟩

/-- What one element of the slave list leaves in the lists comes from them. -/
theorem pooled_syncSlave {slave : DevInfo} {master : List DevInfo}
    (hslave : Pooled pathMatchSpec handle pool slave)
    (hmaster : ∀ el ∈ master, Pooled pathMatchSpec handle pool el) :
    (∀ el ∈ (devEnumSyncSlave pathMatchSpec mask master slave).ctx,
        Pooled pathMatchSpec handle pool el) ∧
      ∀ b ∈ (devEnumSyncSlave pathMatchSpec mask master slave).kept,
        Pooled pathMatchSpec handle pool b := by
  unfold devEnumSyncSlave
  split
  next master' hedit =>
    refine ⟨editFirst_forall (fun _ h => (keepsFields_syncSlaveFound mask slave).pooled h) hedit
      hmaster, fun b hb => ?_⟩
    cases hb
    exact hslave
  · split
    · refine ⟨fun el hel => ?_, fun b hb => by cases hb⟩
      rcases List.mem_append.mp hel with hel | hel
      · exact hmaster el hel
      · cases List.mem_singleton.mp hel
        exact (keepsFields_setSyncFlags _).pooled hslave
    · refine ⟨hmaster, fun b hb => ?_⟩
      cases hb
      exact hslave

theorem devEnumSyncSlave_more (master : List DevInfo) (slave : DevInfo) :
    (devEnumSyncSlave pathMatchSpec mask master slave).more = true := by
  unfold devEnumSyncSlave
  split
  · rfl
  · split <;> rfl

/-- The matching part of the merge of a slave list. -/
theorem filter_enumerate_syncSlave (h : LinksAlike pathMatchSpec handle pool) :
    ∀ {slave master : List DevInfo}, (∀ el ∈ slave, Pooled pathMatchSpec handle pool el) →
      (∀ el ∈ master, Pooled pathMatchSpec handle pool el) →
        enumerate (devEnumSyncSlave pathMatchSpec mask)
            (slave.filter (patternMatches pathMatchSpec handle))
            (master.filter (patternMatches pathMatchSpec handle)) =
          ((enumerate (devEnumSyncSlave pathMatchSpec mask) slave master).1.filter
              (patternMatches pathMatchSpec handle),
            (enumerate (devEnumSyncSlave pathMatchSpec mask) slave master).2.filter
              (patternMatches pathMatchSpec handle)) := by
  intro slave
  induction slave with
  | nil => exact fun _ _ => rfl
  | cons el slave ih =>
    intro master hslave hmaster
    obtain ⟨hel, hslave⟩ := List.forall_mem_cons.mp hslave
    have hnext := (@pooled_syncSlave _ _ _ mask _ _ hel hmaster).1
    rw [enumerate_cons el slave, if_pos (devEnumSyncSlave_more _ _)]
    cases hp : patternMatches pathMatchSpec handle el with
    | true =>
      obtain ⟨hctx, hkept, hsame⟩ := @filter_syncSlave_of_pos _ _ _ mask h _ _ hel hmaster hp
      have hrest : (devEnumSyncSlave pathMatchSpec mask master el).kept.toList.filter
          (patternMatches pathMatchSpec handle) =
          (devEnumSyncSlave pathMatchSpec mask master el).kept.toList := by
        refine List.filter_eq_self.mpr fun b hb => ?_
        rw [hsame b (Option.mem_toList.mp hb), hp]
      rw [List.filter_cons_of_pos hp, enumerate_cons, if_pos (devEnumSyncSlave_more _ _), hctx,
        hkept, ih hslave hnext, List.filter_append, hrest]
    | false =>
      obtain ⟨hctx, hkept⟩ := @filter_syncSlave_of_neg _ _ _ mask h _ _ hel hmaster hp
      rw [List.filter_cons_of_neg (by simp [hp]), ← hctx, ih hslave hnext, List.filter_append,
        hkept, List.nil_append]

theorem pooled_enumerate_syncSlave {slave master : List DevInfo}
    (hslave : ∀ el ∈ slave, Pooled pathMatchSpec handle pool el)
    (hmaster : ∀ el ∈ master, Pooled pathMatchSpec handle pool el) :
    (∀ el ∈ (enumerate (devEnumSyncSlave pathMatchSpec mask) slave master).2,
        Pooled pathMatchSpec handle pool el) ∧
      ∀ el ∈ (enumerate (devEnumSyncSlave pathMatchSpec mask) slave master).1,
        Pooled pathMatchSpec handle pool el :=
  enumerate_forall (P := Pooled pathMatchSpec handle pool)
    (I := fun master => ∀ el ∈ master, Pooled pathMatchSpec handle pool el)
    (fun _ _ hmaster hel => pooled_syncSlave hel hmaster) slave master hmaster hslave

/-- An element that matches is looked up among those that match. -/
theorem syncMaster_filter (h : LinksAlike pathMatchSpec handle pool) {slave : List DevInfo}
    {el : DevInfo} (hslave : ∀ el ∈ slave, Pooled pathMatchSpec handle pool el)
    (hel : Pooled pathMatchSpec handle pool el)
    (hp : patternMatches pathMatchSpec handle el = true) :
    syncMaster pathMatchSpec mask (slave.filter (patternMatches pathMatchSpec handle)) el =
      syncMaster pathMatchSpec mask slave el := by
  have hfind : (slave.filter (patternMatches pathMatchSpec handle)).find?
        (fun other => matchSymbolicLink pathMatchSpec other el) =
      slave.find? fun other => matchSymbolicLink pathMatchSpec other el := by
    rw [List.find?_filter]
    refine List.find?_congr fun other hother => ?_
    cases hmatch : matchSymbolicLink pathMatchSpec other el with
    | false => simp
    | true => simp [h.eq (hslave other hother) hel hmatch, hp]
  unfold syncMaster
  rw [hfind]

/-- The matching part of a synchronisation. -/
theorem filter_lstKSync {master slave : List DevInfo} (syncFlags : BitVec 32)
    (h : LinksAlike pathMatchSpec handle (master ++ slave)) :
    (lstKSync pathMatchSpec syncFlags (master.filter (patternMatches pathMatchSpec handle))
        (slave.filter (patternMatches pathMatchSpec handle))).1 =
      (lstKSync pathMatchSpec syncFlags master slave).1.filter
        (patternMatches pathMatchSpec handle) := by
  unfold lstKSync
  dsimp only
  simp only [enumerate_syncPrep, enumerate_syncMaster]
  have hslave : ∀ el ∈ slave, Pooled pathMatchSpec handle (master ++ slave) el :=
    fun el hel => pooled_of_mem (List.mem_append_right _ hel)
  have hmaster : ∀ el ∈ master.map (DevInfo.setSyncFlags SyncFlag.none),
      Pooled pathMatchSpec handle (master ++ slave) el :=
    List.forall_mem_map.mpr fun el hel =>
      (keepsFields_setSyncFlags _).pooled (pooled_of_mem (List.mem_append_left _ hel))
  rw [← (keepsFields_setSyncFlags SyncFlag.none).filter_map,
    filter_enumerate_syncSlave h hslave hmaster, (keepsFields_syncMaster _ _).filter_map]
  obtain ⟨hmerged, hrest⟩ := @pooled_enumerate_syncSlave pathMatchSpec _ _
    (if syncFlags = 0#32 then SyncFlag.mask else syncFlags) _ _ hslave hmaster
  refine List.map_congr_left fun el hel => ?_
  obtain ⟨hel, hp⟩ := List.mem_filter.mp hel
  exact syncMaster_filter h hrest (hmerged el hel) hp

/-! ### The rest of the master list -/

/-- An element that does not match is left alone by the elements of the slave list that
do. -/
theorem mem_of_syncSlave (h : LinksAlike pathMatchSpec handle pool) {slave : DevInfo}
    {master : List DevInfo} (hslave : Pooled pathMatchSpec handle pool slave)
    (hmaster : ∀ el ∈ master, Pooled pathMatchSpec handle pool el)
    (hp : patternMatches pathMatchSpec handle slave = true) {el : DevInfo}
    (hel : el ∈ (devEnumSyncSlave pathMatchSpec mask master slave).ctx)
    (hpel : patternMatches pathMatchSpec handle el = false) : el ∈ master := by
  unfold devEnumSyncSlave at hel
  split at hel
  next master' hedit =>
    rcases of_mem_editFirst hedit el hel with hel | ⟨m, hm, hmatch, rfl⟩
    · exact hel
    · rw [(keepsFields_syncSlaveFound _ _).patternMatches, h.eq (hmaster m hm) hslave hmatch,
        hp] at hpel
      cases hpel
  · split at hel
    · rcases List.mem_append.mp hel with hel | hel
      · exact hel
      · cases List.mem_singleton.mp hel
        rw [(keepsFields_setSyncFlags _).patternMatches, hp] at hpel
        cases hpel
    · exact hel

theorem DevInfo.Silent.of_unchanged {el : DevInfo} (hconnected : el.connected = false) :
    (el.setSyncFlags SyncFlag.unchanged).Silent :=
  ⟨hconnected, fun h => h (Or.inr rfl)⟩

/-- The elements that do not match, when the elements of the slave list all do. -/
theorem silent_lstKSync {master slave : List DevInfo} (syncFlags : BitVec 32)
    (h : LinksAlike pathMatchSpec handle (master ++ slave))
    (hslave : ∀ el ∈ slave, patternMatches pathMatchSpec handle el = true)
    (hmaster : ∀ el ∈ master, patternMatches pathMatchSpec handle el = false →
      el.connected = false) :
    ∀ el ∈ (lstKSync pathMatchSpec syncFlags master slave).1,
      patternMatches pathMatchSpec handle el = false → el.Silent := by
  unfold lstKSync
  dsimp only
  generalize (if syncFlags = 0#32 then SyncFlag.mask else syncFlags) = mask
  simp only [enumerate_syncPrep, enumerate_syncMaster]
  -- until the last pass, their flags are clear
  have hmerge := @enumerate_forall _ _ (devEnumSyncSlave pathMatchSpec mask)
    (fun el => Pooled pathMatchSpec handle (master ++ slave) el ∧
      patternMatches pathMatchSpec handle el = true)
    (fun merged => ∀ el ∈ merged, Pooled pathMatchSpec handle (master ++ slave) el ∧
      (patternMatches pathMatchSpec handle el = false →
        el.connected = false ∧ el.syncFlags = SyncFlag.none)) ?_ slave
    (master.map (DevInfo.setSyncFlags SyncFlag.none)) ?_ ?_
  · obtain ⟨hmerged, hrest⟩ := hmerge
    refine List.forall_mem_map.mpr fun el hel hp => ?_
    rw [(keepsFields_syncMaster _ _).patternMatches] at hp
    obtain ⟨hpool, hclear⟩ := hmerged el hel
    obtain ⟨hconnected, hnone⟩ := hclear hp
    have hfind : (enumerate (devEnumSyncSlave pathMatchSpec mask) slave
        (master.map (DevInfo.setSyncFlags SyncFlag.none))).1.find?
          (fun other => matchSymbolicLink pathMatchSpec other el) = none := by
      refine List.find?_eq_none.mpr fun other hother hmatch => ?_
      obtain ⟨hother, hmatches⟩ := hrest other hother
      rw [h.eq hother hpool hmatch, hp] at hmatches
      cases hmatches
    unfold syncMaster
    rw [if_neg (not_not.mpr hnone), hfind]
    dsimp only
    unfold DevInfo.syncMasterOnly
    rw [if_neg (by simp [hconnected])]
    exact DevInfo.Silent.of_unchanged hconnected
  · rintro merged el hmerged ⟨hpool, hp⟩
    have hpooled : ∀ el ∈ merged, Pooled pathMatchSpec handle (master ++ slave) el :=
      fun el hel => (hmerged el hel).1
    have hkept := @pooled_syncSlave _ _ _ mask _ _ hpool hpooled
    refine ⟨fun a ha => ⟨hkept.1 a ha, fun hpa => ?_⟩, fun b hb => ?_⟩
    · exact (hmerged a (mem_of_syncSlave h hpool hpooled hp ha hpa)).2 hpa
    · obtain ⟨-, -, hsame⟩ := @filter_syncSlave_of_pos _ _ _ mask h _ _ hpool hpooled hp
      rw [hsame b hb]
      exact ⟨hpool, hp⟩
  · refine List.forall_mem_map.mpr fun el hel => ⟨?_, fun hp => ⟨?_, rfl⟩⟩
    · exact (keepsFields_setSyncFlags _).pooled (pooled_of_mem (List.mem_append_left _ hel))
    · exact hmaster el hel hp
  · exact fun el hel => ⟨pooled_of_mem (List.mem_append_right _ hel), hslave el hel⟩

end Filter

end LibusbK
