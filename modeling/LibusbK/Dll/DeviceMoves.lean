import LibusbK.Dll.DeviceAttach

/-!
# What a synchronisation moves

`l_DevEnum_Sync_Slave` detaches the elements of the slave list that have no counterpart in
the master list, and attaches them there.  Every element it moves is a counterpart for those
that follow.

## Main definitions

* `DevLists.unmatched`, `DevLists.syncMoves` — the elements that are moved.
* `DevLists.SyncsTo` — which list every element names after them.

## Main results

* `foreachSafe_syncSlave` — the enumeration of the slave list moves these elements.
* `syncLists_syncsTo` — and so does the synchronisation.
-/

namespace LibusbK

namespace DevLists

variable {s t u : DevLists} {master slave list info : ℕ} {b c : ObjBase}

/-- `SymbolicLink` of an element. -/
def symbolicLink (s : DevLists) (info : ℕ) : Option (List Char) :=
  (s.lstInfoK.get info).map fun el => el.info.symbolicLink

/-- The elements `xs` that have no counterpart in the list `master`, which each of them
joins. -/
def unmatched (found : ℕ → ℕ → Bool) (master : List ℕ) : List ℕ → List ℕ
  | [] => []
  | x :: xs =>
    if master.any fun y => found y x then unmatched found master xs
    else x :: unmatched found (x :: master) xs

theorem mem_of_mem_unmatched {found : ℕ → ℕ → Bool} {x : ℕ} {xs : List ℕ} :
    ∀ {master : List ℕ}, x ∈ unmatched found master xs → x ∈ xs := by
  induction xs with
  | nil => exact fun h => h
  | cons y ys ih =>
    intro master h
    unfold unmatched at h
    split at h
    · exact List.mem_cons_of_mem y (ih h)
    · rcases List.mem_cons.mp h with rfl | h
      · exact List.mem_cons_self
      · exact List.mem_cons_of_mem y (ih h)

/-- `SyncFlags` of the context. -/
def syncMask (syncFlags : BitVec 32) : BitVec 32 :=
  if syncFlags = 0#32 then SyncFlag.mask else syncFlags

section Moves

variable (pathMatchSpec : List Char → List Char → Bool)

/-- `mLst_DL_Match_SymbolicLink` for an element of the list that is searched. -/
def matchesLink (s : DevLists) (other info : ℕ) : Bool :=
  (s.symbolicLink other).any fun link => (s.symbolicLink info).any fun pattern =>
    pathMatchSpec pattern link

/-- The elements of the slave list that `LstK_Sync` moves to the master list. -/
def syncMoves (s : DevLists) (mask : BitVec 32) (master slave : ℕ) : List ℕ :=
  if SyncFlag.added &&& mask ≠ 0#32 then
    unmatched (s.matchesLink pathMatchSpec) (s.chain master) (s.chain slave)
  else []

@[simp] theorem syncMoves_rebase (b : ObjBase) (mask : BitVec 32) (master slave : ℕ) :
    (s.rebase list b).syncMoves pathMatchSpec mask master slave =
      s.syncMoves pathMatchSpec mask master slave := by
  unfold syncMoves
  rw [chain_rebase, chain_rebase]
  rfl

theorem mem_chain_of_mem_syncMoves {mask : BitVec 32}
    (h : info ∈ s.syncMoves pathMatchSpec mask master slave) : info ∈ s.chain slave := by
  unfold syncMoves at h
  split at h
  · exact mem_of_mem_unmatched h
  · cases h

end Moves

/-! ### The list an element names -/

/-- The elements `moved` name the master list, and nothing else has changed but what the
elements say of their devices. -/
structure SyncsTo (master : ℕ) (moved : List ℕ) (s t : DevLists) : Prop where
  linked : t.Linked
  frame : Frame master s t
  link : t.symbolicLink = s.symbolicLink
  handle : ∀ x, t.devListHandle x = if x ∈ moved then some master else s.devListHandle x

theorem SyncsTo.refl (h : s.Linked) (master : ℕ) : SyncsTo master [] s s where
  linked := h
  frame := .refl master s
  link := rfl
  handle _ := (if_neg List.not_mem_nil).symm

theorem SyncsTo.trans {moved moved' : List ℕ} (h : SyncsTo master moved s t)
    (h' : SyncsTo master moved' t u) : SyncsTo master (moved ++ moved') s u where
  linked := h'.linked
  frame := h.frame.trans h'.frame
  link := h'.link.trans h.link
  handle x := by
    rw [h'.handle, h.handle]
    by_cases hx' : x ∈ moved'
    · rw [if_pos hx', if_pos (List.mem_append_right moved hx')]
    · rw [if_neg hx']
      by_cases hx : x ∈ moved
      · rw [if_pos hx, if_pos (List.mem_append_left moved' hx)]
      · rw [if_neg hx, if_neg fun hmem => (List.mem_append.mp hmem).elim hx hx']

theorem SyncsTo.rebase {moved : List ℕ} (h : SyncsTo master moved (s.rebase list b) t)
    {b' : ObjBase} (hb : s.base list = some b') : SyncsTo master moved s (t.rebase list b') where
  linked := h.linked.rebase list b'
  frame := h.frame.rebase hb
  link := h.link
  handle := h.handle

theorem SyncsTo.mem_chain {moved : List ℕ} (hs : s.Linked) (h : SyncsTo master moved s t)
    (x : ℕ) : x ∈ t.chain master ↔ x ∈ moved ∨ x ∈ s.chain master := by
  rw [h.linked.mem_chain, hs.mem_chain, h.handle]
  by_cases hx : x ∈ moved
  · simp [hx]
  · simp [hx]

theorem symbolicLink_onLstInfoK {f : DevInfoEL → DevInfoEL}
    (hf : ∀ el, (f el).info.symbolicLink = el.info.symbolicLink) :
    (s.onLstInfoK info f).symbolicLink = s.symbolicLink := by
  funext other
  unfold symbolicLink onLstInfoK
  rw [Objects.get_modify]
  split
  · rw [Option.map_map]
    congr 1
    funext el
    exact hf el
  · rfl

theorem symbolicLink_link : (s.link list info).symbolicLink = s.symbolicLink :=
  @symbolicLink_onLstInfoK s info
    (fun el => { el with toObjBase := .attached, devListHandle := some list }) fun _ => rfl

theorem symbolicLink_unlink : (s.unlink list info).symbolicLink = s.symbolicLink :=
  @symbolicLink_onLstInfoK s info
    (fun el => { el with toObjBase := .acquired, devListHandle := none }) fun _ => rfl

theorem syncsTo_editInfo (h : s.Linked) {f : DevInfo → DevInfo}
    (hf : ∀ el, (f el).symbolicLink = el.symbolicLink) (master : ℕ) :
    SyncsTo master [] s (s.editInfo info f) where
  linked := h.editInfo f
  frame := frame_editInfo f master
  link := symbolicLink_onLstInfoK fun el => hf el.info
  handle x := by
    rw [if_neg List.not_mem_nil]
    exact devListHandle_editInfo f x

theorem symbolicLink_setSyncFlags (flags : BitVec 32) (el : DevInfo) :
    (el.setSyncFlags flags).symbolicLink = el.symbolicLink := rfl

theorem symbolicLink_merge (mask : BitVec 32) (slave el : DevInfo) :
    (el.merge mask slave).symbolicLink = el.symbolicLink := by
  unfold DevInfo.merge
  dsimp only
  split
  · split
    · rfl
    · rfl
  · rfl

theorem symbolicLink_syncSlaveFound (mask : BitVec 32) (slave el : DevInfo) :
    (syncSlaveFound mask slave el).symbolicLink = el.symbolicLink := by
  unfold syncSlaveFound
  split
  · rfl
  · exact symbolicLink_merge mask slave el

theorem symbolicLink_syncMaster (pathMatchSpec : List Char → List Char → Bool)
    (mask : BitVec 32) (slave : List DevInfo) (el : DevInfo) :
    (syncMaster pathMatchSpec mask slave el).symbolicLink = el.symbolicLink := by
  unfold syncMaster
  split
  · rfl
  · split
    · exact symbolicLink_merge mask _ el
    · unfold DevInfo.syncMasterOnly
      dsimp only
      split
      · split
        · rfl
        · rfl
      · rfl

/-! ### The enumerations -/

/-- A callback that changes what elements say of their devices moves nothing. -/
theorem foreachSafe_editInfo (cb : ℕ → DevLists → Option (Bool × DevLists)) (master : ℕ)
    (hcb : ∀ x t, ∃ other f, cb x t = some (true, t.editInfo other f) ∧
      ∀ el, (f el).symbolicLink = el.symbolicLink) (xs : List ℕ) :
    ∀ {s : DevLists}, s.Linked → ∃ t, foreachSafe cb xs s = some t ∧ SyncsTo master [] s t ∧
      t.lstK = s.lstK := by
  induction xs with
  | nil => exact fun h => ⟨_, rfl, .refl h master, rfl⟩
  | cons x xs ih =>
    intro s h
    obtain ⟨other, f, hx, hf⟩ := hcb x s
    have hedit := @syncsTo_editInfo s other h f hf master
    obtain ⟨t, hrun, ht, hlists⟩ := ih hedit.linked
    refine ⟨t, ?_, hedit.trans ht, hlists⟩
    unfold foreachSafe
    rw [hx, Option.bind_some]
    exact hrun

section Slave

variable (pathMatchSpec : List Char → List Char → Bool) {mask : BitVec 32}

/-- The search for the counterpart of an element. -/
theorem dlSearch_eq_none_iff {el : DevInfoEL} (hel : s.lstInfoK.get info = some el) :
    s.dlSearch pathMatchSpec master el.info = none ↔
      ∀ y ∈ s.chain master, s.matchesLink pathMatchSpec y info = false := by
  unfold dlSearch
  rw [List.find?_eq_none]
  refine forall₂_congr fun y _ => ?_
  unfold matchesLink symbolicLink
  rw [hel, Option.any_map, Bool.not_eq_true]
  rfl

/-- An element that has its counterpart in the master list, or is not to be moved, stays. -/
theorem devEnumSyncSlave_of_stays (slave : ℕ) (h : s.Linked) (hlive : (s.lstInfoK.get info).isSome)
    (hstays : SyncFlag.added &&& mask ≠ 0#32 →
      ∃ y ∈ s.chain master, s.matchesLink pathMatchSpec y info = true) :
    ∃ t, devEnumSyncSlave pathMatchSpec mask master slave info s = some (true, t) ∧
      SyncsTo master [] s t := by
  obtain ⟨el, hel⟩ := Option.isSome_iff_exists.mp hlive
  unfold devEnumSyncSlave
  rw [hel, Option.bind_some]
  cases hsearch : s.dlSearch pathMatchSpec master el.info with
  | some other =>
    exact ⟨_, rfl, syncsTo_editInfo h (symbolicLink_syncSlaveFound mask el.info) master⟩
  | none =>
    have hmask : ¬SyncFlag.added &&& mask ≠ 0#32 := by
      intro hadded
      obtain ⟨y, hy, hmatch⟩ := hstays hadded
      rw [(dlSearch_eq_none_iff pathMatchSpec hel).mp hsearch y hy] at hmatch
      cases hmatch
    dsimp only
    rw [if_neg hmask]
    exact ⟨s, rfl, .refl h master⟩

theorem devEnumSyncSlave_of_moves (h : s.Linked) (hmaster : s.base master = some b)
    (hmasterUsable : b.Usable) (hslave : s.base slave = some c) (hslaveUsable : c.Usable)
    (hinfo : s.devListHandle info = some slave) (hmask : SyncFlag.added &&& mask ≠ 0#32)
    (hmoves : ∀ y ∈ s.chain master, s.matchesLink pathMatchSpec y info = false) :
    ∃ t, devEnumSyncSlave pathMatchSpec mask master slave info s = some (true, t) ∧
      SyncsTo master [info] s t := by
  obtain ⟨el, hel, -⟩ := Option.bind_eq_some_iff.mp hinfo
  have hsearch := (dlSearch_eq_none_iff pathMatchSpec hel).mpr hmoves
  -- detached from the slave list, and attached to the master list
  have hframe : Frame master s (s.unlink slave info) := frame_unlink hel master
  have hu := h.unlink hslave hel hinfo
  obtain ⟨el', hel'⟩ := Option.isSome_iff_exists.mp (hframe.live info (by simp [hel]))
  have hmaster' : (s.unlink slave info).base master = some b := by
    rw [hframe.base]
    exact hmaster
  have hnone : (s.unlink slave info).devListHandle info = none :=
    (devListHandle_unlink hel info).trans (if_pos rfl)
  have hhandle : ∀ x, ((s.unlink slave info).link master info).devListHandle x =
      if x ∈ [info] then some master else s.devListHandle x := by
    intro x
    rw [devListHandle_link hel', devListHandle_unlink hel]
    by_cases hx : x = info
    · rw [if_pos hx, if_pos (List.mem_singleton.mpr hx)]
    · rw [if_neg hx, if_neg hx, if_neg fun hmem => hx (List.mem_singleton.mp hmem)]
  have hmoved : SyncsTo master [info] s ((s.unlink slave info).link master info) :=
    ⟨hu.link hmaster' hel' hnone, hframe.trans (frame_link hel'),
      symbolicLink_link.trans symbolicLink_unlink, hhandle⟩
  unfold devEnumSyncSlave
  rw [hel, Option.bind_some, hsearch]
  dsimp only
  rw [if_pos hmask, lstKDetachInfo_of_attached h hslave hslaveUsable hel hinfo, Option.bind_some]
  dsimp only
  rw [lstKAttachInfo_of_detached hu hmaster' hmasterUsable hel' hnone, Option.map_some]
  exact ⟨_, rfl, hmoved.trans (syncsTo_editInfo hmoved.linked (symbolicLink_setSyncFlags _) master)⟩

/-- Without `ADDED` nothing is moved. -/
theorem foreachSafe_syncSlave_of_not_added (hmask : ¬SyncFlag.added &&& mask ≠ 0#32)
    (xs : List ℕ) :
    ∀ {s : DevLists}, s.Linked → (∀ x ∈ xs, (s.lstInfoK.get x).isSome) →
      ∃ t, foreachSafe (devEnumSyncSlave pathMatchSpec mask master slave) xs s = some t ∧
        SyncsTo master [] s t := by
  -- no element is detached, and the chains stay
  induction xs with
  | nil => exact fun h _ => ⟨_, rfl, .refl h master⟩
  | cons x xs ih =>
    intro s h hxs
    obtain ⟨hx, hrest⟩ := List.forall_mem_cons.mp hxs
    obtain ⟨t, hrun, ht⟩ := devEnumSyncSlave_of_stays pathMatchSpec slave h hx
      fun hadded => absurd hadded hmask
    obtain ⟨u, hrest, hu⟩ := ih ht.linked fun y hy => ht.frame.live y (hrest y hy)
    refine ⟨u, ?_, ht.trans hu⟩
    unfold foreachSafe
    rw [hrun, Option.bind_some]
    exact hrest

/-- **The elements without a counterpart are moved.** -/
theorem foreachSafe_syncSlave (hmask : SyncFlag.added &&& mask ≠ 0#32) (hmasterUsable : b.Usable)
    (hslaveUsable : c.Usable) (xs : List ℕ) :
    ∀ {s : DevLists} {found : List ℕ}, s.Linked → s.base master = some b →
      s.base slave = some c → (∀ x ∈ xs, s.devListHandle x = some slave) → xs.Nodup →
      (∀ y, y ∈ found ↔ y ∈ s.chain master) →
        ∃ t, foreachSafe (devEnumSyncSlave pathMatchSpec mask master slave) xs s = some t ∧
          SyncsTo master (unmatched (s.matchesLink pathMatchSpec) found xs) s t := by
  induction xs with
  | nil => exact fun h _ _ _ _ _ => ⟨_, rfl, .refl h master⟩
  | cons x xs ih =>
    intro s found h hmaster hslave hxs hnodup hfound
    obtain ⟨hx, hxs⟩ := List.forall_mem_cons.mp hxs
    obtain ⟨hnew, hnodup⟩ := List.nodup_cons.mp hnodup
    -- `found` holds the elements of the master list, in any order
    have hany : (found.any fun y => s.matchesLink pathMatchSpec y x) = true ↔
        ∃ y ∈ s.chain master, s.matchesLink pathMatchSpec y x = true := by
      rw [List.any_eq_true]
      exact exists_congr fun y => and_congr_left fun _ => hfound y
    -- what the rest of the list does after the first element
    have hafter : ∀ {t : DevLists} {moved found' : List ℕ}, SyncsTo master moved s t →
        x ∉ xs → (∀ y ∈ moved, y = x) → (∀ y, y ∈ found' ↔ y ∈ t.chain master) →
          ∃ u, foreachSafe (devEnumSyncSlave pathMatchSpec mask master slave) xs t = some u ∧
            SyncsTo master (moved ++ unmatched (s.matchesLink pathMatchSpec) found' xs) s u := by
      intro t moved found' ht hx hmoved hfound'
      have hlinks : t.matchesLink pathMatchSpec = s.matchesLink pathMatchSpec := by
        unfold matchesLink
        rw [ht.link]
      have hxs' : ∀ y ∈ xs, t.devListHandle y = some slave := by
        intro y hy
        rw [ht.handle, if_neg fun hmem => hx (hmoved y hmem ▸ hy)]
        exact hxs y hy
      obtain ⟨u, hrun, hu⟩ := ih ht.linked (by rw [ht.frame.base, hmaster])
        (by rw [ht.frame.base, hslave]) hxs' hnodup hfound'
      rw [hlinks] at hu
      exact ⟨u, hrun, ht.trans hu⟩
    unfold foreachSafe unmatched
    by_cases hmatch : (found.any fun y => s.matchesLink pathMatchSpec y x) = true
    · obtain ⟨el, hel, -⟩ := Option.bind_eq_some_iff.mp hx
      obtain ⟨t, hrun, ht⟩ := devEnumSyncSlave_of_stays pathMatchSpec slave h
        (by simp [hel]) fun _ => hany.mp hmatch
      rw [hrun, Option.bind_some, if_pos hmatch]
      refine hafter ht hnew (fun _ hy => absurd hy List.not_mem_nil) fun y => ?_
      rw [hfound, ht.mem_chain h]
      exact (or_iff_right List.not_mem_nil).symm
    -- the element joins the master list, where those that follow may find it
    · have hmoves : ∀ y ∈ s.chain master, s.matchesLink pathMatchSpec y x = false :=
        fun y hy => Bool.eq_false_iff.mpr fun htrue => hmatch (hany.mpr ⟨y, hy, htrue⟩)
      obtain ⟨t, hrun, ht⟩ := devEnumSyncSlave_of_moves pathMatchSpec h hmaster hmasterUsable
        hslave hslaveUsable hx hmask hmoves
      rw [hrun, Option.bind_some, if_neg hmatch]
      refine hafter ht hnew (fun _ hy => List.mem_singleton.mp hy) fun y => ?_
      rw [List.mem_cons, hfound, ht.mem_chain h, List.mem_singleton]

/-- The pass over the slave list, which the call holds. -/
theorem foreachSafe_merge (h : s.Linked) (hmaster : s.base master = some b)
    (hmasterUsable : b.Usable) (hslave : s.base slave = some c) {c' : ObjBase}
    (husable : c'.Usable) :
    ∃ t, foreachSafe (devEnumSyncSlave pathMatchSpec mask master slave) (s.chain slave)
        (s.rebase slave c') = some t ∧
      SyncsTo master (s.syncMoves pathMatchSpec mask master slave) (s.rebase slave c') t := by
  have hhandle : ∀ x ∈ s.chain slave, (s.rebase slave c').devListHandle x = some slave :=
    fun x hx => (h.mem_chain slave x).mp hx
  unfold syncMoves
  split
  next hmask =>
    obtain ⟨m, hm, hmUsable⟩ := (Frame.refl master (s.rebase slave c')).usable husable hmaster
      hmasterUsable
    refine foreachSafe_syncSlave pathMatchSpec hmask hmUsable husable (s.chain slave)
      (h.rebase slave c') hm (base_rebase_self hslave) hhandle (h.nodup slave) fun y => ?_
    rw [chain_rebase]
  next hmask =>
    refine foreachSafe_syncSlave_of_not_added pathMatchSpec hmask (s.chain slave)
      (h.rebase slave c') fun x hx => ?_
    obtain ⟨el, hel, -⟩ := Option.bind_eq_some_iff.mp (hhandle x hx)
    exact Option.isSome_iff_exists.mpr ⟨el, hel⟩

/-- **The three passes of a synchronisation** move the elements without a counterpart. -/
theorem syncLists_syncsTo (h : s.Linked) (syncFlags : BitVec 32)
    (hmaster : s.base master = some b) (hmasterUsable : b.Usable)
    (hslave : s.base slave = some c) (hslaveUsable : c.Usable) :
    ∃ t, SyncsTo master (s.syncMoves pathMatchSpec (syncMask syncFlags) master slave) s t ∧
      s.syncLists pathMatchSpec master slave syncFlags =
        (t.decLstK cleanupDeviceList master).bind fun t =>
          (t.decLstK cleanupDeviceList slave).map fun t => (true, t) := by
  have hedited : ∀ u v : DevLists, SyncsTo master [] u v ∧ v.lstK = u.lstK → v.base = u.base :=
    fun _ _ hsync => hsync.1.frame.base
  obtain ⟨b₁, t, ⟨ht, hlists⟩, hprep⟩ := lstKEnumerate_of_run cleanupDeviceList hedited hmaster
    hmasterUsable fun b' _ => foreachSafe_editInfo devEnumSyncPrep master
      (fun x t => ⟨x, DevInfo.setSyncFlags SyncFlag.none, rfl, symbolicLink_setSyncFlags _⟩)
      (s.chain master) (h.rebase master b')
  -- the first pass writes only what the elements say of their devices
  have hprepared := ht.rebase hmaster
  have hmoves : (t.rebase master b).syncMoves pathMatchSpec (syncMask syncFlags) master slave =
      s.syncMoves pathMatchSpec (syncMask syncFlags) master slave := by
    have hchain (list : ℕ) : t.chain list = s.chain list := by
      refine Eq.trans ?_ (@chain_rebase s master b₁ list)
      unfold chain
      rw [hlists]
    have hlinks : t.matchesLink pathMatchSpec = s.matchesLink pathMatchSpec := by
      unfold matchesLink
      rw [ht.link]
      rfl
    rw [syncMoves_rebase]
    unfold syncMoves
    rw [hchain, hchain, hlinks]
  have hmaster' : (t.rebase master b).base master = some b := by
    rw [hprepared.frame.base, hmaster]
  have hslave' : (t.rebase master b).base slave = some c := by rw [hprepared.frame.base, hslave]
  generalize t.rebase master b = t at hprep hprepared hmoves hmaster' hslave'
  obtain ⟨b₂, u, hu, hmerge⟩ := lstKEnumerate_of_run cleanupDeviceList
    (R := SyncsTo master (t.syncMoves pathMatchSpec (syncMask syncFlags) master slave))
    (fun _ _ hsync => hsync.frame.base) hslave' hslaveUsable fun c' hc' =>
      foreachSafe_merge pathMatchSpec hprepared.linked hmaster' hmasterUsable hslave' hc'
  -- the second pass, over the slave list, is the one that moves
  have hmerged := hu.rebase hslave'
  have hmaster'' : (u.rebase slave c).base master = some b := by
    rw [hmerged.frame.base, hmaster']
  generalize u.rebase slave c = u at hmerge hmerged hmaster''
  obtain ⟨b₃, v, ⟨hv, -⟩, hlast⟩ := lstKEnumerate_of_run cleanupDeviceList hedited hmaster''
    hmasterUsable fun b' _ => foreachSafe_editInfo
      (devEnumSyncMaster pathMatchSpec (syncMask syncFlags) slave) master
      (fun x _ => ⟨x, _, rfl, symbolicLink_syncMaster pathMatchSpec _ _⟩) (u.chain master)
      (hmerged.linked.rebase master b')
  refine ⟨v.rebase master b, ?_, ?_⟩
  · have hall := (hprepared.trans hmerged).trans (hv.rebase hmaster'')
    rw [List.nil_append, List.append_nil, hmoves] at hall
    exact hall
  · unfold syncLists
    dsimp only
    rw [hprep, Option.bind_some]
    dsimp only
    unfold syncMask at hmerge hlast
    rw [hmerge, Option.bind_some]
    dsimp only
    rw [hlast, Option.bind_some]

end Slave

end DevLists

end LibusbK
