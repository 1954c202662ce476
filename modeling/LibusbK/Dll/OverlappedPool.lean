import LibusbK.Lib.Machine
import Mathlib.Data.Int.Notation
import Mathlib.Data.List.Nodup
import Mathlib.Logic.Function.Basic

/-!
# Overlapped pools

`OvlK_Init`, `OvlK_Acquire`, `OvlK_Release` and `OvlK_Free` of `lusbk_overlapped.c`, called one
after the other on any number of pools.  A pool is a slot of the `OvlPoolK` section, an
overlapped handle a slot of the `OvlK` section; both are used again when they have been freed,
and `Init_Handle_OvlPoolK` does not touch the lists of the slot.

Between calls every handle in use has one reference, so `PoolHandle_Inc` succeeds exactly on a
handle in use, and the `PoolHandle_Dec` of `OvlK_Free` calls the clean-up.  Elements of the
arrays are numbered as they are allocated.

## Main definitions

* `OvlPools` — the state of both sections.
* `cleanupOvlPoolK`, `cleanupOvlK` — the clean-up of a pool and of a handle.
* `ovlPools` — the calls as a machine.
* `OvlPoolsOk` — what holds of the live pools and their handles.

## Main results

* `ovlPoolsOk_of_throughout` — the pools are conserved in every run in which `OvlK_Init` is
  given slots that have been reset.
-/

namespace LibusbK

/-! ### The state -/

/-- `KOVL_HANDLE_INTERNAL`: the slot of an overlapped handle.  `acquiredAt` is what an observer
notes: the number of the call that acquired it. -/
structure OvlHandle where
  inUse : Bool := false
  pool : Option ℕ := none
  isAcquired : Bool := false
  masterLink : Option ℕ := none
  acquiredAt : ℕ := 0
  deriving DecidableEq, Repr

/-- `KOVL_POOL_HANDLE_INTERNAL`: the slot of a pool.  `size` is what an observer notes: the
number of overlappeds the pool was made for. -/
structure OvlPool where
  inUse : Bool := false
  masterListCount : ℤ := 0
  masterArray : List ℕ := []
  acquiredList : List ℕ := []
  releasedList : List ℕ := []
  size : ℕ := 0
  deriving DecidableEq, Repr

/-- Both sections, and the elements: `el e` is the `Handle` of element `e`, and the elements
below `nextEl` have been allocated. -/
structure OvlPools where
  pools : ℕ → OvlPool := fun _ => {}
  handles : ℕ → OvlHandle := fun _ => {}
  el : ℕ → Option ℕ := fun _ => none
  nextEl : ℕ := 0
  calls : ℕ := 0

namespace OvlPools

variable (s : OvlPools)

/-- The slot of a pool is written. -/
def setPool (p : ℕ) (pool : OvlPool) : OvlPools :=
  { s with pools := Function.update s.pools p pool }

/-- The slot of a handle is written. -/
def setHandle (h : ℕ) (handle : OvlHandle) : OvlPools :=
  { s with handles := Function.update s.handles h handle }

variable {s}

@[simp] theorem setPool_pools_self (p : ℕ) (pool : OvlPool) :
    (s.setPool p pool).pools p = pool := Function.update_self ..

theorem setPool_pools_of_ne {p q : ℕ} (h : q ≠ p) (pool : OvlPool) :
    (s.setPool p pool).pools q = s.pools q := Function.update_of_ne h _ _

@[simp] theorem setHandle_handles_self (h : ℕ) (handle : OvlHandle) :
    (s.setHandle h handle).handles h = handle := Function.update_self ..

theorem setHandle_handles_of_ne {h k : ℕ} (hk : k ≠ h) (handle : OvlHandle) :
    (s.setHandle h handle).handles k = s.handles k := Function.update_of_ne hk _ _

theorem setPool_setPool (p : ℕ) (pool pool' : OvlPool) :
    (s.setPool p pool).setPool p pool' = s.setPool p pool' := by
  unfold setPool
  rw [Function.update_idem]

end OvlPools

/-! ### Clean-up -/

/-- `Cleanup_OvlK`: the pool of the last handle is reset. -/
def cleanupOvlK (s : OvlPools) (h : ℕ) : OvlPools :=
  let handle := s.handles h
  let s := s.setHandle h { handle with inUse := false, pool := none }
  match handle.pool with
  | none => s
  | some p =>
    let pool := s.pools p
    let masterListCount := pool.masterListCount - 1
    if masterListCount = 0 then
      s.setPool p
        { pool with
          masterListCount := 0, masterArray := [], acquiredList := [], releasedList := [] }
    else s.setPool p { pool with masterListCount := masterListCount }

/-- `PoolHandle_Dec_OvlK`. -/
def decOvlK (s : OvlPools) (h : ℕ) : OvlPools :=
  if (s.handles h).inUse then cleanupOvlK s h else s

/-- The loop of `Cleanup_OvlPoolK` over the elements of `MasterArray`. -/
def decElements : List ℕ → OvlPools → OvlPools
  | [], s => s
  | e :: elements, s =>
    match s.el e with
    | none => decElements elements s
    | some h => decElements elements (decOvlK s h)

/-- `PoolHandle_Dec_OvlPoolK`, with `Cleanup_OvlPoolK`. -/
def cleanupOvlPoolK (s : OvlPools) (p : ℕ) : OvlPools :=
  let masterListCount := (s.pools p).masterListCount.toNat
  let s := decElements ((s.pools p).masterArray.take masterListCount) s
  s.setPool p { s.pools p with inUse := false }

/-! ### The calls -/

/-- `OvlK_Init`, with the slot `PoolHandle_Acquire_OvlPoolK` returns; `usbHandle` says that
`PoolHandle_Inc_UsbK` succeeds and `memAlloc` that `Mem_Alloc` does, which it cannot for a
negative count.  A clean-up that follows the null pointer of a failed allocation ends the
process. -/
def ovlKInit (s : OvlPools) (p : ℕ) (maxOverlappedCount : ℤ) (usbHandle memAlloc : Bool) :
    Option OvlPools :=
  if 256 < maxOverlappedCount then some s
  else
    let pool := { s.pools p with inUse := true }
    if !usbHandle then some (cleanupOvlPoolK (s.setPool p pool) p)
    else if !memAlloc ∨ maxOverlappedCount < 0 then
      if 0 < pool.masterListCount then none
      else some (cleanupOvlPoolK (s.setPool p { pool with masterArray := [] }) p)
    else
      let n := maxOverlappedCount.toNat
      let masterArray := (List.range n).map (s.nextEl + ·)
      some
        { s.setPool p
            { pool with
              masterListCount := maxOverlappedCount
              masterArray := masterArray
              releasedList := pool.releasedList ++ masterArray
              size := n } with
          nextEl := s.nextEl + n }

/-- `OvlK_Acquire`; `handle` is the slot `PoolHandle_Acquire_OvlK` returns, if it is called. -/
def ovlKAcquire (s : OvlPools) (p : ℕ) (handle : Option ℕ) : OvlPools :=
  let pool := s.pools p
  if !pool.inUse then s
  else
    match pool.releasedList with
    | [] => s
    | e :: released =>
      -- the handle of the element, and whether it is new
      let h := (s.el e).or handle
      match h with
      | none => s
      | some h =>
        let old := if (s.el e).isSome then s.handles h else { inUse := true }
        { (s.setPool p
            { pool with
              releasedList := released
              acquiredList := pool.acquiredList ++ [e] }).setHandle h
            { old with
              pool := some p
              isAcquired := true
              masterLink := some e
              acquiredAt := s.calls } with
          el := Function.update s.el e (some h) }

/-- `OvlK_Release`.  A null pointer ends the process. -/
def ovlKRelease (s : OvlPools) (h : ℕ) : Option OvlPools :=
  let handle := s.handles h
  if !handle.inUse then some s
  else
    match handle.pool, handle.isAcquired with
    | none, _ => some s
    | some _, false => some s
    | some p, true =>
      handle.masterLink.map fun e =>
        let pool := s.pools p
        (s.setHandle h { handle with isAcquired := false }).setPool p
          { pool with
            acquiredList := pool.acquiredList.erase e
            releasedList := e :: pool.releasedList }

/-- `OvlK_Free`. -/
def ovlKFree (s : OvlPools) (p : ℕ) : OvlPools :=
  if (s.pools p).inUse then cleanupOvlPoolK s p else s

/-- The handle `OvlK_WaitOldest` waits on. -/
def ovlKWaitOldest (s : OvlPools) (p : ℕ) : Option ℕ := (s.pools p).acquiredList.head?.bind s.el

/-- A call on the pools, with the slots the sections give out. -/
inductive OvlPoolsEvent
  | init (p : ℕ) (maxOverlappedCount : ℤ) (usbHandle memAlloc : Bool)
  | acquire (p : ℕ) (handle : Option ℕ)
  | release (h : ℕ)
  | free (p : ℕ)

/-- The calls on the pools. -/
def ovlPools : Machine OvlPools OvlPoolsEvent where
  step s event :=
    let s := { s with calls := s.calls + 1 }
    match event with
    | .init p maxOverlappedCount usbHandle memAlloc =>
      if (s.pools p).inUse then none else ovlKInit s p maxOverlappedCount usbHandle memAlloc
    | .acquire p handle =>
      match handle with
      | none => some (ovlKAcquire s p none)
      | some h => if (s.handles h).inUse then none else some (ovlKAcquire s p (some h))
    | .release h => ovlKRelease s h
    | .free p => some (ovlKFree s p)

/-! ### What should hold -/

/-- **What should hold of the live pools.** -/
structure OvlPoolsOk (s : OvlPools) : Prop where
  /-- Each of the `n` elements of a pool is in one of its lists, and there once. -/
  conserved : ∀ p, (s.pools p).inUse = true → (s.pools p).masterArray.Nodup ∧
    (s.pools p).masterArray.length = (s.pools p).size ∧
    ((s.pools p).acquiredList ++ (s.pools p).releasedList).Perm (s.pools p).masterArray
  /-- `IsAcquired` says that the handle is in an `AcquiredList`. -/
  acquired : ∀ h, ((s.handles h).inUse = true ∧ (s.handles h).isAcquired = true) ↔
    ∃ p, (s.pools p).inUse = true ∧ ∃ e ∈ (s.pools p).acquiredList, s.el e = some h
  outstanding : ∀ p, (s.pools p).inUse = true →
    (s.pools p).acquiredList.length ≤ (s.pools p).size
  /-- A handle belongs to one live pool. -/
  exclusive : ∀ p q h, (s.pools p).inUse = true → (s.pools q).inUse = true →
    (∃ e ∈ (s.pools p).acquiredList ++ (s.pools p).releasedList, s.el e = some h) →
    (∃ e ∈ (s.pools q).acquiredList ++ (s.pools q).releasedList, s.el e = some h) → p = q
  /-- `OvlK_WaitOldest` waits on the handle that was acquired first. -/
  oldest : ∀ p, (s.pools p).inUse = true → (s.pools p).acquiredList ≠ [] →
    ∃ h, ovlKWaitOldest s p = some h ∧ ∀ e ∈ (s.pools p).acquiredList, ∃ h', s.el e = some h' ∧
      (s.handles h).acquiredAt ≤ (s.handles h').acquiredAt

namespace OvlPools

variable {s : OvlPools}

/-- When the handle of an element was acquired. -/
def acquiredAt (s : OvlPools) (e : ℕ) : ℕ := (s.el e).elim 0 fun h => (s.handles h).acquiredAt

/-- A live pool, its elements and their handles. -/
structure PoolInv (s : OvlPools) (p : ℕ) : Prop where
  nodup : (s.pools p).masterArray.Nodup
  length : (s.pools p).masterArray.length = (s.pools p).size
  count : (s.pools p).masterListCount = (s.pools p).masterArray.length
  perm : ((s.pools p).acquiredList ++ (s.pools p).releasedList).Perm (s.pools p).masterArray
  below : ∀ e ∈ (s.pools p).masterArray, e < s.nextEl
  handled : ∀ e ∈ (s.pools p).acquiredList, s.el e ≠ none
  owned : ∀ e ∈ (s.pools p).masterArray, ∀ h, s.el e = some h →
    (s.handles h).inUse = true ∧ (s.handles h).pool = some p ∧
      (s.handles h).masterLink = some e ∧
      ((s.handles h).isAcquired = true ↔ e ∈ (s.pools p).acquiredList)
  sorted : (s.pools p).acquiredList.Pairwise fun e f => s.acquiredAt e ≤ s.acquiredAt f

/-- Every live pool is as it should be, and they share no elements. -/
structure Inv (s : OvlPools) : Prop where
  pool : ∀ p, (s.pools p).inUse = true → s.PoolInv p
  disjoint : ∀ p q e, (s.pools p).inUse = true → (s.pools q).inUse = true →
    e ∈ (s.pools p).masterArray → e ∈ (s.pools q).masterArray → p = q
  fresh : ∀ e, s.nextEl ≤ e → s.el e = none
  linked : ∀ h, (s.handles h).inUse = true →
    ∃ p, (s.pools p).inUse = true ∧ ∃ e ∈ (s.pools p).masterArray, s.el e = some h
  stamped : ∀ h, (s.handles h).acquiredAt ≤ s.calls

/-- A handle is that of one element. -/
theorem Inv.element_unique (hs : s.Inv) {p q e f h : ℕ} (hp : (s.pools p).inUse = true)
    (hq : (s.pools q).inUse = true) (he : e ∈ (s.pools p).masterArray)
    (hf : f ∈ (s.pools q).masterArray) (heh : s.el e = some h) (hfh : s.el f = some h) :
    p = q ∧ e = f := by
  obtain ⟨-, hpool, hlink, -⟩ := (hs.pool p hp).owned e he h heh
  obtain ⟨-, hpool', hlink', -⟩ := (hs.pool q hq).owned f hf h hfh
  rw [hpool] at hpool'
  rw [hlink] at hlink'
  exact ⟨Option.some.inj hpool', Option.some.inj hlink'⟩

theorem PoolInv.mem_acquired {p : ℕ} (hp : s.PoolInv p) {e : ℕ}
    (he : e ∈ (s.pools p).acquiredList) : e ∈ (s.pools p).masterArray :=
  hp.perm.subset (List.mem_append_left _ he)

theorem PoolInv.mem_released {p : ℕ} (hp : s.PoolInv p) {e : ℕ}
    (he : e ∈ (s.pools p).releasedList) : e ∈ (s.pools p).masterArray :=
  hp.perm.subset (List.mem_append_right _ he)

theorem PoolInv.nodup_lists {p : ℕ} (hp : s.PoolInv p) :
    ((s.pools p).acquiredList ++ (s.pools p).releasedList).Nodup :=
  hp.perm.nodup_iff.mpr hp.nodup

theorem Inv.ok (hs : s.Inv) : OvlPoolsOk s where
  conserved p hp := ⟨(hs.pool p hp).nodup, (hs.pool p hp).length, (hs.pool p hp).perm⟩
  acquired h := by
    constructor
    · rintro ⟨huse, hacquired⟩
      obtain ⟨p, hp, e, he, heh⟩ := hs.linked h huse
      exact ⟨p, hp, e, ((hs.pool p hp).owned e he h heh).2.2.2.mp hacquired, heh⟩
    · rintro ⟨p, hp, e, he, heh⟩
      obtain ⟨huse, -, -, hiff⟩ := (hs.pool p hp).owned e ((hs.pool p hp).mem_acquired he) h heh
      exact ⟨huse, hiff.mpr he⟩
  outstanding p hp := by
    have hlength := (hs.pool p hp).perm.length_eq
    rw [List.length_append, (hs.pool p hp).length] at hlength
    omega
  exclusive p q h hp hq := by
    rintro ⟨e, he, heh⟩ ⟨f, hf, hfh⟩
    exact (hs.element_unique hp hq ((hs.pool p hp).perm.subset he)
      ((hs.pool q hq).perm.subset hf) heh hfh).1
  oldest p hp hne := by
    obtain ⟨e, acquired, heq⟩ := List.exists_cons_of_ne_nil hne
    have hhandle : ∀ f ∈ (s.pools p).acquiredList, ∃ h, s.el f = some h := fun f hf =>
      Option.ne_none_iff_exists'.mp ((hs.pool p hp).handled f hf)
    obtain ⟨h, heh⟩ := hhandle e (by rw [heq]; exact List.mem_cons_self ..)
    refine ⟨h, by rw [ovlKWaitOldest, heq]; exact heh, fun f hf => ?_⟩
    obtain ⟨h', hfh⟩ := hhandle f hf
    refine ⟨h', hfh, ?_⟩
    have hsorted := (hs.pool p hp).sorted
    rw [heq] at hsorted hf
    rcases List.mem_cons.mp hf with rfl | hf
    · cases heh.symm.trans hfh
      exact Nat.le_refl _
    · have hle := List.rel_of_pairwise_cons hsorted hf
      simpa only [acquiredAt, heh, hfh, Option.elim_some] using hle

/-! ### Frames -/

variable {t : OvlPools}

/-- A pool that a call does not touch. -/
theorem PoolInv.frame {p : ℕ} (hp : s.PoolInv p) (hpool : t.pools p = s.pools p)
    (hnext : s.nextEl ≤ t.nextEl) (hel : ∀ e ∈ (s.pools p).masterArray, t.el e = s.el e)
    (hhandle : ∀ e ∈ (s.pools p).masterArray, ∀ h, s.el e = some h →
      t.handles h = s.handles h) : t.PoolInv p := by
  have hstamp : ∀ e ∈ (s.pools p).masterArray, t.acquiredAt e = s.acquiredAt e := by
    intro e he
    unfold acquiredAt
    rw [hel e he]
    cases heh : s.el e with
    | none => rfl
    | some h => rw [Option.elim_some, Option.elim_some, hhandle e he h heh]
  constructor
  · rw [hpool]
    exact hp.nodup
  · rw [hpool]
    exact hp.length
  · rw [hpool]
    exact hp.count
  · rw [hpool]
    exact hp.perm
  · rw [hpool]
    exact fun e he => Nat.lt_of_lt_of_le (hp.below e he) hnext
  · rw [hpool]
    intro e he
    rw [hel e (hp.mem_acquired he)]
    exact hp.handled e he
  · rw [hpool]
    intro e he h heh
    rw [hel e he] at heh
    rw [hhandle e he h heh]
    exact hp.owned e he h heh
  · rw [hpool]
    refine hp.sorted.imp_of_mem fun {e f} he hf hle => ?_
    rw [hstamp e (hp.mem_acquired he), hstamp f (hp.mem_acquired hf)]
    exact hle

/-- The slot of a pool that is not in use, before and after, does not matter. -/
theorem Inv.setPool (hs : s.Inv) {p : ℕ} (hfree : (s.pools p).inUse = false) {pool : OvlPool}
    (hpool : pool.inUse = false) : (s.setPool p pool).Inv := by
  have hother : ∀ q, ((s.setPool p pool).pools q).inUse = true →
      (s.setPool p pool).pools q = s.pools q := by
    intro q hq
    by_cases heq : q = p
    · subst heq
      rw [setPool_pools_self] at hq
      cases hpool.symm.trans hq
    · exact setPool_pools_of_ne heq pool
  constructor
  · intro q hq
    have hsame := hother q hq
    rw [hsame] at hq
    exact (hs.pool q hq).frame hsame (Nat.le_refl _) (fun _ _ => rfl) fun _ _ _ _ => rfl
  · intro q r e hq hr
    have hsame := hother q hq
    have hsame' := hother r hr
    rw [hsame] at hq ⊢
    rw [hsame'] at hr ⊢
    exact hs.disjoint q r e hq hr
  · exact hs.fresh
  · intro h hh
    obtain ⟨q, hq, e, he, heh⟩ := hs.linked h hh
    have hne : q ≠ p := by
      rintro rfl
      cases hfree.symm.trans hq
    have hsame : (s.setPool p pool).pools q = s.pools q := setPool_pools_of_ne hne pool
    exact ⟨q, by rw [hsame]; exact hq, e, by rw [hsame]; exact he, heh⟩
  · exact hs.stamped

/-- A call is made. -/
theorem Inv.tick (hs : s.Inv) : Inv { s with calls := s.calls + 1 } where
  pool p hp := (hs.pool p hp).frame rfl (Nat.le_refl _) (fun _ _ => rfl) fun _ _ _ _ => rfl
  disjoint := hs.disjoint
  fresh := hs.fresh
  linked := hs.linked
  stamped h := Nat.le_succ_of_le (hs.stamped h)

/-! ### `OvlK_Init` -/

/-- The slot is as a new one: no handle counts, and the lists are empty. -/
def isReset (s : OvlPools) (p : ℕ) : Bool :=
  decide ((s.pools p).masterListCount = 0) && (s.pools p).acquiredList.isEmpty &&
    (s.pools p).releasedList.isEmpty

/-- The clean-up of a slot that is reset frees nothing. -/
theorem cleanupOvlPoolK_of_count {p : ℕ} (hcount : (s.pools p).masterListCount = 0) :
    cleanupOvlPoolK s p = s.setPool p { s.pools p with inUse := false } := by
  unfold cleanupOvlPoolK
  rw [hcount]
  rfl

/-- A slot with empty lists becomes a pool of `n` new elements. -/
theorem Inv.alloc (hs : s.Inv) {p : ℕ} (hfree : (s.pools p).inUse = false) (n : ℕ) :
    Inv
      { s.setPool p
          { inUse := true
            masterListCount := n
            masterArray := (List.range n).map (s.nextEl + ·)
            releasedList := (List.range n).map (s.nextEl + ·)
            size := n } with
        nextEl := s.nextEl + n } := by
  have hrange : ∀ e ∈ (List.range n).map (s.nextEl + ·), s.nextEl ≤ e ∧ e < s.nextEl + n := by
    intro e he
    obtain ⟨i, hi, rfl⟩ := List.mem_map.mp he
    have hlt := List.mem_range.mp hi
    omega
  have hnew : ∀ e ∈ (List.range n).map (s.nextEl + ·), s.el e = none := fun e he =>
    hs.fresh e (hrange e he).1
  constructor
  · intro q hq
    by_cases heq : q = p
    · subst heq
      constructor
      all_goals simp only [setPool_pools_self]
      · exact List.nodup_range.map fun i j hij => Nat.add_left_cancel hij
      · rw [List.length_map, List.length_range]
      · rw [List.length_map, List.length_range]
      · exact .refl _
      · exact fun e he => (hrange e he).2
      · exact nofun
      · intro e he h heh
        cases (hnew e he).symm.trans heh
      · exact .nil
    · simp only [setPool_pools_of_ne heq] at hq
      exact (hs.pool q hq).frame (setPool_pools_of_ne heq _) (Nat.le_add_right ..)
        (fun _ _ => rfl) fun _ _ _ _ => rfl
  · -- the new elements are above those of the other pools
    intro q r e hq hr heq her
    by_cases hqp : q = p <;> by_cases hrp : r = p
    · rw [hqp, hrp]
    · subst hqp
      simp only [setPool_pools_self, setPool_pools_of_ne hrp] at heq her hr
      have hlt := (hs.pool r hr).below e her
      have hle := (hrange e heq).1
      omega
    · subst hrp
      simp only [setPool_pools_self, setPool_pools_of_ne hqp] at heq her hq
      have hlt := (hs.pool q hq).below e heq
      have hle := (hrange e her).1
      omega
    · simp only [setPool_pools_of_ne hqp, setPool_pools_of_ne hrp] at heq her hq hr
      exact hs.disjoint q r e hq hr heq her
  · exact fun e he => hs.fresh e (Nat.le_of_add_right_le he)
  · intro h hh
    obtain ⟨q, hq, e, he, heh⟩ := hs.linked h hh
    have hne : q ≠ p := by
      rintro rfl
      cases hfree.symm.trans hq
    exact ⟨q, by simp only [setPool_pools_of_ne hne]; exact hq, e,
      by simp only [setPool_pools_of_ne hne]; exact he, heh⟩
  · exact hs.stamped

theorem Inv.init (hs : s.Inv) {p : ℕ} {maxOverlappedCount : ℤ} {usbHandle memAlloc : Bool}
    (hfree : (s.pools p).inUse = false)
    (hreset : (decide (256 < maxOverlappedCount) || s.isReset p) = true)
    (h : ovlKInit s p maxOverlappedCount usbHandle memAlloc = some t) : t.Inv := by
  unfold ovlKInit at h
  split at h
  · cases h
    exact hs
  next hcount =>
  rw [decide_eq_false hcount, Bool.false_or] at hreset
  simp only [isReset, Bool.and_eq_true, decide_eq_true_eq, List.isEmpty_iff] at hreset
  obtain ⟨⟨hcount, hacquired⟩, hreleased⟩ := hreset
  dsimp only at h
  split at h
  · cases h
    rw [cleanupOvlPoolK_of_count (by rw [setPool_pools_self]; exact hcount), setPool_setPool]
    exact hs.setPool hfree rfl
  split at h
  · split at h
    · cases h
    · cases h
      rw [cleanupOvlPoolK_of_count (by rw [setPool_pools_self]; exact hcount), setPool_setPool]
      exact hs.setPool hfree rfl
  · next hnonneg =>
    cases h
    have hcast : (maxOverlappedCount.toNat : ℤ) = maxOverlappedCount := by omega
    have halloc := hs.alloc hfree maxOverlappedCount.toNat
    rw [hcast] at halloc
    rwa [hacquired, hreleased]

/-! ### Moving an element -/

/-- From `s` to `t` element `e` of pool `p` goes to another list of its pool, with the
handle `h`. -/
structure MovesElement (s t : OvlPools) (p e h : ℕ) : Prop where
  inUse : (t.pools p).inUse = (s.pools p).inUse
  masterArray : (t.pools p).masterArray = (s.pools p).masterArray
  pools : ∀ q, q ≠ p → t.pools q = s.pools q
  handles : ∀ k, k ≠ h → t.handles k = s.handles k
  el : t.el e = some h
  els : ∀ f, f ≠ e → t.el f = s.el f
  nextEl : t.nextEl = s.nextEl
  calls : t.calls = s.calls

section MovesElement

variable {p e h : ℕ}

/-- The handle of an element, or one that is new for it, is that of no other element. -/
theorem Inv.handle_ne (hs : s.Inv) (hp : (s.pools p).inUse = true)
    (he : e ∈ (s.pools p).masterArray)
    (hel : s.el e = some h ∨ s.el e = none ∧ (s.handles h).inUse = false) {q f k : ℕ}
    (hq : (s.pools q).inUse = true) (hf : f ∈ (s.pools q).masterArray) (hne : f ≠ e)
    (hfk : s.el f = some k) : k ≠ h := by
  rintro rfl
  rcases hel with hsame | ⟨-, hfree⟩
  · exact hne (hs.element_unique hp hq he hf hsame hfk).2.symm
  · cases hfree.symm.trans ((hs.pool q hq).owned f hf k hfk).1

/-- The pools are as they should be after the move if the pool of the element is, and the
handle is not stamped with a later call. -/
theorem Inv.movesElement (hs : s.Inv) (hmoves : MovesElement s t p e h)
    (hp : (s.pools p).inUse = true) (he : e ∈ (s.pools p).masterArray)
    (hel : s.el e = some h ∨ s.el e = none ∧ (s.handles h).inUse = false)
    (hpool : t.PoolInv p) (hstamp : (t.handles h).acquiredAt ≤ s.calls) : t.Inv := by
  have hshape : ∀ q, (t.pools q).inUse = (s.pools q).inUse ∧
      (t.pools q).masterArray = (s.pools q).masterArray := by
    intro q
    by_cases hqp : q = p
    · rw [hqp]
      exact ⟨hmoves.inUse, hmoves.masterArray⟩
    · rw [hmoves.pools q hqp]
      exact ⟨rfl, rfl⟩
  constructor
  · intro q hq
    rw [(hshape q).1] at hq
    by_cases hqp : q = p
    · rw [hqp]
      exact hpool
    · have hne : ∀ f ∈ (s.pools q).masterArray, f ≠ e := by
        rintro f hf rfl
        exact hqp (hs.disjoint q p f hq hp hf he)
      exact (hs.pool q hq).frame (hmoves.pools q hqp) (Nat.le_of_eq hmoves.nextEl.symm)
        (fun f hf => hmoves.els f (hne f hf))
        fun f hf k hfk => hmoves.handles k (hs.handle_ne hp he hel hq hf (hne f hf) hfk)
  · intro q r f hq hr hfq hfr
    rw [(hshape q).1] at hq
    rw [(hshape r).1] at hr
    rw [(hshape q).2] at hfq
    rw [(hshape r).2] at hfr
    exact hs.disjoint q r f hq hr hfq hfr
  · intro f hf
    rw [hmoves.nextEl] at hf
    have hlt := (hs.pool p hp).below e he
    have hne : f ≠ e := by
      rintro rfl
      exact absurd hf (Nat.not_le_of_lt hlt)
    rw [hmoves.els f hne]
    exact hs.fresh f hf
  · intro k hk
    by_cases hkh : k = h
    · rw [hkh]
      exact ⟨p, by rw [(hshape p).1]; exact hp, e, by rw [(hshape p).2]; exact he, hmoves.el⟩
    · rw [hmoves.handles k hkh] at hk
      obtain ⟨q, hq, f, hf, hfk⟩ := hs.linked k hk
      have hne : f ≠ e := by
        rintro rfl
        rcases hel with hsame | ⟨hnone, -⟩
        · exact hkh (Option.some.inj (hfk.symm.trans hsame))
        · cases hnone.symm.trans hfk
      exact ⟨q, by rw [(hshape q).1]; exact hq, f, by rw [(hshape q).2]; exact hf,
        by rw [hmoves.els f hne]; exact hfk⟩
  · intro k
    rw [hmoves.calls]
    by_cases hkh : k = h
    · rw [hkh]
      exact hstamp
    · rw [hmoves.handles k hkh]
      exact hs.stamped k

end MovesElement

/-! ### `OvlK_Acquire` -/

/-- Element `e` of pool `p` goes to the end of the `AcquiredList`, with the handle `h`. -/
def moveToAcquired (s : OvlPools) (p e h : ℕ) (released : List ℕ) : OvlPools :=
  { (s.setPool p
      { s.pools p with
        releasedList := released
        acquiredList := (s.pools p).acquiredList ++ [e] }).setHandle h
      { inUse := true
        pool := some p
        isAcquired := true
        masterLink := some e
        acquiredAt := s.calls } with
    el := Function.update s.el e (some h) }

section MoveToAcquired

variable {p e h : ℕ} {released : List ℕ}

theorem moveToAcquired_el_self : (s.moveToAcquired p e h released).el e = some h :=
  Function.update_self ..

theorem moveToAcquired_el_of_ne {f : ℕ} (hf : f ≠ e) :
    (s.moveToAcquired p e h released).el f = s.el f := Function.update_of_ne hf _ _

theorem moveToAcquired_handles_of_ne {k : ℕ} (hk : k ≠ h) :
    (s.moveToAcquired p e h released).handles k = s.handles k := setHandle_handles_of_ne hk _

theorem moveToAcquired_pools_of_ne {q : ℕ} (hq : q ≠ p) :
    (s.moveToAcquired p e h released).pools q = s.pools q := setPool_pools_of_ne hq _

theorem moveToAcquired_handles_self : (s.moveToAcquired p e h released).handles h =
    { inUse := true
      pool := some p
      isAcquired := true
      masterLink := some e
      acquiredAt := s.calls } := setHandle_handles_self ..

theorem moveToAcquired_pools_self : (s.moveToAcquired p e h released).pools p =
    { s.pools p with
      releasedList := released
      acquiredList := (s.pools p).acquiredList ++ [e] } := setPool_pools_self ..

/-- The pool of the element. -/
theorem PoolInv.moveToAcquired (hp : s.PoolInv p)
    (hreleased : (s.pools p).releasedList = e :: released)
    (hother : ∀ f ∈ (s.pools p).masterArray, f ≠ e → ∀ k, s.el f = some k → k ≠ h)
    (hstamped : ∀ k, (s.handles k).acquiredAt ≤ s.calls) :
    (s.moveToAcquired p e h released).PoolInv p := by
  have hnotin : e ∉ (s.pools p).acquiredList := by
    intro hmem
    have hnodup := hp.nodup_lists
    rw [hreleased] at hnodup
    exact List.disjoint_of_nodup_append hnodup hmem (List.mem_cons_self ..)
  have hne : ∀ f ∈ (s.pools p).acquiredList, f ≠ e := by
    rintro f hf rfl
    exact hnotin hf
  have hkeeps : ∀ f ∈ (s.pools p).masterArray, f ≠ e → ∀ k, s.el f = some k →
      (s.moveToAcquired p e h released).handles k = s.handles k := fun f hf hfe k hfk =>
    moveToAcquired_handles_of_ne (hother f hf hfe k hfk)
  have hstamp : ∀ f ∈ (s.pools p).acquiredList,
      (s.moveToAcquired p e h released).acquiredAt f = s.acquiredAt f := by
    intro f hf
    unfold acquiredAt
    rw [moveToAcquired_el_of_ne (hne f hf)]
    cases hfk : s.el f with
    | none => rfl
    | some k =>
      rw [Option.elim_some, Option.elim_some, hkeeps f (hp.mem_acquired hf) (hne f hf) k hfk]
  constructor
  all_goals simp only [moveToAcquired_pools_self]
  · exact hp.nodup
  · exact hp.length
  · exact hp.count
  · have hperm := hp.perm
    rw [hreleased] at hperm
    rwa [List.append_assoc]
  · exact hp.below
  · intro f hf
    rcases List.mem_append.mp hf with hf | hf
    · rw [moveToAcquired_el_of_ne (hne f hf)]
      exact hp.handled f hf
    · rw [List.mem_singleton.mp hf, moveToAcquired_el_self]
      exact Option.some_ne_none h
  · intro f hf k hfk
    by_cases hfe : f = e
    · subst hfe
      cases moveToAcquired_el_self.symm.trans hfk
      rw [moveToAcquired_handles_self]
      exact ⟨rfl, rfl, rfl, iff_of_true rfl (List.mem_append_right _ (List.mem_singleton_self f))⟩
    · rw [moveToAcquired_el_of_ne hfe] at hfk
      rw [hkeeps f hf hfe k hfk]
      obtain ⟨huse, hpool, hlink, hiff⟩ := hp.owned f hf k hfk
      refine ⟨huse, hpool, hlink, hiff.trans ?_⟩
      simp [hfe]
  · -- the new element has been acquired last
    refine List.pairwise_append.mpr ⟨?_, List.pairwise_singleton _ _, fun f hf g hg => ?_⟩
    · refine hp.sorted.imp_of_mem fun {f g} hf hg hle => ?_
      rwa [hstamp f hf, hstamp g hg]
    · rw [List.mem_singleton.mp hg, hstamp f hf]
      unfold acquiredAt
      rw [moveToAcquired_el_self, Option.elim_some, moveToAcquired_handles_self]
      cases s.el f with
      | none => exact Nat.zero_le _
      | some k => exact hstamped k

theorem Inv.moveToAcquired (hs : s.Inv) (hp : (s.pools p).inUse = true)
    (hreleased : (s.pools p).releasedList = e :: released)
    (hel : s.el e = some h ∨ s.el e = none ∧ (s.handles h).inUse = false) :
    (s.moveToAcquired p e h released).Inv := by
  have hpool := hs.pool p hp
  have he : e ∈ (s.pools p).masterArray :=
    hpool.mem_released (by rw [hreleased]; exact List.mem_cons_self ..)
  have hmoves : MovesElement s (s.moveToAcquired p e h released) p e h :=
    { inUse := by rw [moveToAcquired_pools_self]
      masterArray := by rw [moveToAcquired_pools_self]
      pools := fun _ hq => moveToAcquired_pools_of_ne hq
      handles := fun _ hk => moveToAcquired_handles_of_ne hk
      el := moveToAcquired_el_self
      els := fun _ hf => moveToAcquired_el_of_ne hf
      nextEl := rfl
      calls := rfl }
  refine hs.movesElement hmoves hp he hel ?_ ?_
  · exact hpool.moveToAcquired hreleased
      (fun f hf hne k hfk => hs.handle_ne hp he hel hp hf hne hfk) hs.stamped
  · exact Nat.le_of_eq (congrArg (·.acquiredAt) moveToAcquired_handles_self)

end MoveToAcquired

theorem Inv.acquire (hs : s.Inv) (p : ℕ) {handle : Option ℕ}
    (hnew : ∀ h, handle = some h → (s.handles h).inUse = false) :
    (ovlKAcquire s p handle).Inv := by
  unfold ovlKAcquire
  dsimp only
  split
  · exact hs
  next hp =>
  have hp : (s.pools p).inUse = true := by simpa using hp
  split
  · exact hs
  next e released hreleased =>
  have he : e ∈ (s.pools p).masterArray :=
    (hs.pool p hp).mem_released (by rw [hreleased]; exact List.mem_cons_self ..)
  split
  · exact hs
  next h hor =>
  cases hel : s.el e with
  | none =>
    rw [hel, Option.none_or] at hor
    exact hs.moveToAcquired hp hreleased (.inr ⟨hel, hnew h hor⟩)
  | some h' =>
    rw [hel, Option.some_or] at hor
    cases hor
    have huse := ((hs.pool p hp).owned e he h hel).1
    have hmoved := hs.moveToAcquired hp hreleased (.inl hel)
    simpa only [OvlPools.moveToAcquired, Option.isSome_some, if_true, huse] using hmoved

/-! ### `OvlK_Release` -/

/-- Element `e` of pool `p`, whose handle is `h`, goes to the front of the `ReleasedList`. -/
def moveToReleased (s : OvlPools) (p e h : ℕ) : OvlPools :=
  (s.setHandle h { s.handles h with isAcquired := false }).setPool p
    { s.pools p with
      acquiredList := (s.pools p).acquiredList.erase e
      releasedList := e :: (s.pools p).releasedList }

section MoveToReleased

variable {p e h : ℕ}

theorem moveToReleased_handles_self : (s.moveToReleased p e h).handles h =
    { s.handles h with isAcquired := false } := setHandle_handles_self ..

theorem moveToReleased_handles_of_ne {k : ℕ} (hk : k ≠ h) :
    (s.moveToReleased p e h).handles k = s.handles k := setHandle_handles_of_ne hk _

theorem moveToReleased_pools_self : (s.moveToReleased p e h).pools p =
    { s.pools p with
      acquiredList := (s.pools p).acquiredList.erase e
      releasedList := e :: (s.pools p).releasedList } := setPool_pools_self ..

theorem moveToReleased_pools_of_ne {q : ℕ} (hq : q ≠ p) :
    (s.moveToReleased p e h).pools q = s.pools q := setPool_pools_of_ne hq _

theorem moveToReleased_acquiredAt (f : ℕ) :
    (s.moveToReleased p e h).acquiredAt f = s.acquiredAt f := by
  show (s.el f).elim 0 _ = (s.el f).elim 0 _
  cases s.el f with
  | none => rfl
  | some k =>
    rw [Option.elim_some, Option.elim_some]
    by_cases hkh : k = h
    · rw [hkh, moveToReleased_handles_self]
    · rw [moveToReleased_handles_of_ne hkh]

/-- The pool of the element. -/
theorem PoolInv.moveToReleased (hp : s.PoolInv p) (he : e ∈ (s.pools p).acquiredList)
    (heh : s.el e = some h)
    (hother : ∀ f ∈ (s.pools p).masterArray, f ≠ e → ∀ k, s.el f = some k → k ≠ h) :
    (s.moveToReleased p e h).PoolInv p := by
  have hnodup : (s.pools p).acquiredList.Nodup := (List.nodup_append.mp hp.nodup_lists).1
  constructor
  all_goals simp only [moveToReleased_pools_self]
  · exact hp.nodup
  · exact hp.length
  · exact hp.count
  · have hmove : ((s.pools p).acquiredList.erase e ++ e :: (s.pools p).releasedList).Perm
        ((s.pools p).acquiredList ++ (s.pools p).releasedList) :=
      List.perm_middle.trans ((List.perm_cons_erase he).symm.append_right _)
    exact hmove.trans hp.perm
  · exact hp.below
  · exact fun f hf => hp.handled f (List.mem_of_mem_erase hf)
  · intro f hf k hfk
    obtain ⟨huse, hpool, hlink, hiff⟩ := hp.owned f hf k hfk
    by_cases hfe : f = e
    · subst hfe
      cases heh.symm.trans hfk
      rw [moveToReleased_handles_self]
      exact ⟨huse, hpool, hlink, iff_of_false Bool.false_ne_true hnodup.not_mem_erase⟩
    · rw [moveToReleased_handles_of_ne (hother f hf hfe k hfk)]
      exact ⟨huse, hpool, hlink, hiff.trans (List.mem_erase_of_ne hfe).symm⟩
  · refine (hp.sorted.imp fun {f g} hle => ?_).sublist List.erase_sublist
    rwa [moveToReleased_acquiredAt, moveToReleased_acquiredAt]

theorem Inv.moveToReleased (hs : s.Inv) (hp : (s.pools p).inUse = true)
    (he : e ∈ (s.pools p).acquiredList) (heh : s.el e = some h) :
    (s.moveToReleased p e h).Inv := by
  have hpool := hs.pool p hp
  have hmem := hpool.mem_acquired he
  have hmoves : MovesElement s (s.moveToReleased p e h) p e h :=
    { inUse := by rw [moveToReleased_pools_self]
      masterArray := by rw [moveToReleased_pools_self]
      pools := fun _ hq => moveToReleased_pools_of_ne hq
      handles := fun _ hk => moveToReleased_handles_of_ne hk
      el := heh
      els := fun _ _ => rfl
      nextEl := rfl
      calls := rfl }
  refine hs.movesElement hmoves hp hmem (.inl heh) ?_ ?_
  · exact hpool.moveToReleased he heh
      fun f hf hne k hfk => hs.handle_ne hp hmem (.inl heh) hp hf hne hfk
  · rw [moveToReleased_handles_self]
    exact hs.stamped h

end MoveToReleased

theorem Inv.release (hs : s.Inv) {h : ℕ} (ht : ovlKRelease s h = some t) : t.Inv := by
  unfold ovlKRelease at ht
  dsimp only at ht
  split at ht
  · cases ht
    exact hs
  next huse =>
  have huse : (s.handles h).inUse = true := by simpa using huse
  split at ht
  · cases ht
    exact hs
  · cases ht
    exact hs
  next p hpool hacquired =>
  obtain ⟨q, hq, e, he, heh⟩ := hs.linked h huse
  obtain ⟨-, hpool', hlink, hiff⟩ := (hs.pool q hq).owned e he h heh
  cases hpool.symm.trans hpool'
  obtain ⟨e', hlink', rfl⟩ := Option.map_eq_some_iff.mp ht
  cases hlink.symm.trans hlink'
  exact hs.moveToReleased hq (hiff.mp hacquired) heh

/-! ### `OvlK_Free` -/

/-- From `s` to `t` the handles of some elements of pool `p` are given up, and no other pool is
touched. -/
structure GivesUp (s t : OvlPools) (p : ℕ) (elements : List ℕ) : Prop where
  el : t.el = s.el
  nextEl : t.nextEl = s.nextEl
  calls : t.calls = s.calls
  pools : ∀ q, q ≠ p → t.pools q = s.pools q
  handles : ∀ h, (∀ e ∈ elements, s.el e ≠ some h) → t.handles h = s.handles h
  acquiredAt : ∀ h, (t.handles h).acquiredAt = (s.handles h).acquiredAt
  inUse : ∀ h, (t.handles h).inUse = true → (s.handles h).inUse = true
  pool : ∀ h, (t.handles h).inUse = true → (t.handles h).pool = (s.handles h).pool
  freed : ∀ e ∈ elements, ∀ h, s.el e = some h → (t.handles h).inUse = false

/-- A handle of pool `p` is given up. -/
theorem cleanupOvlK_spec {p h : ℕ} (hpool : (s.handles h).pool = some p) :
    (cleanupOvlK s h).el = s.el ∧ (cleanupOvlK s h).nextEl = s.nextEl ∧
      (cleanupOvlK s h).calls = s.calls ∧
      (∀ q, q ≠ p → (cleanupOvlK s h).pools q = s.pools q) ∧
      (cleanupOvlK s h).handles =
        Function.update s.handles h { s.handles h with inUse := false, pool := none } := by
  obtain ⟨pool, heq⟩ : ∃ pool, cleanupOvlK s h =
      (s.setHandle h { s.handles h with inUse := false, pool := none }).setPool p pool := by
    unfold cleanupOvlK
    simp only [hpool]
    split
    · exact ⟨_, rfl⟩
    · exact ⟨_, rfl⟩
  rw [heq]
  exact ⟨rfl, rfl, rfl, fun q hq => setPool_pools_of_ne hq _, rfl⟩

theorem decOvlK_spec {p e h : ℕ} (heh : s.el e = some h)
    (hpool : (s.handles h).inUse = true → (s.handles h).pool = some p) :
    s.GivesUp (decOvlK s h) p [e] := by
  unfold decOvlK
  split
  · next huse =>
    obtain ⟨hel, hnext, hcalls, hpools, hhandles⟩ := cleanupOvlK_spec (hpool huse)
    have hself : (cleanupOvlK s h).handles h =
        { s.handles h with inUse := false, pool := none } := by
      rw [hhandles, Function.update_self]
    have hne : ∀ k, k ≠ h → (cleanupOvlK s h).handles k = s.handles k := by
      intro k hk
      rw [hhandles, Function.update_of_ne hk]
    refine ⟨hel, hnext, hcalls, hpools, fun k hk => hne k ?_, fun k => ?_, fun k hk => ?_,
      fun k hk => ?_, fun f hf k hfk => ?_⟩
    · rintro rfl
      exact hk e (List.mem_singleton_self e) heh
    · by_cases hkh : k = h
      · rw [hkh, hself]
      · rw [hne k hkh]
    · by_cases hkh : k = h
      · rw [hkh, hself] at hk
        cases hk
      · rwa [hne k hkh] at hk
    · by_cases hkh : k = h
      · rw [hkh, hself] at hk
        cases hk
      · rw [hne k hkh]
    · rw [List.mem_singleton.mp hf] at hfk
      cases heh.symm.trans hfk
      rw [hself]
  · next huse =>
    refine ⟨rfl, rfl, rfl, fun _ _ => rfl, fun _ _ => rfl, fun _ => rfl, fun _ => id,
      fun _ _ => rfl, fun f hf k hfk => ?_⟩
    rw [List.mem_singleton.mp hf] at hfk
    cases heh.symm.trans hfk
    simpa using huse

theorem GivesUp.trans {u : OvlPools} {p : ℕ} {elements elements' : List ℕ}
    (h : s.GivesUp t p elements) (h' : t.GivesUp u p elements') :
    s.GivesUp u p (elements ++ elements') where
  el := h'.el.trans h.el
  nextEl := h'.nextEl.trans h.nextEl
  calls := h'.calls.trans h.calls
  pools q hq := (h'.pools q hq).trans (h.pools q hq)
  handles k hk := by
    rw [h'.handles k fun e he => ?_, h.handles k fun e he => hk e (List.mem_append_left _ he)]
    rw [h.el]
    exact hk e (List.mem_append_right _ he)
  acquiredAt k := (h'.acquiredAt k).trans (h.acquiredAt k)
  inUse k hk := h.inUse k (h'.inUse k hk)
  pool k hk := (h'.pool k hk).trans (h.pool k (h'.inUse k hk))
  freed e he k hek := by
    rcases List.mem_append.mp he with he | he
    · cases hu : (u.handles k).inUse with
      | false => rfl
      | true => cases (h.freed e he k hek).symm.trans (h'.inUse k hu)
    · exact h'.freed e he k (by rw [h.el]; exact hek)

/-- What the loop of `Cleanup_OvlPoolK` does. -/
theorem decElements_spec {p : ℕ} (elements : List ℕ)
    (hpool : ∀ e ∈ elements, ∀ h, s.el e = some h → (s.handles h).inUse = true →
      (s.handles h).pool = some p) : s.GivesUp (decElements elements s) p elements := by
  induction elements generalizing s with
  | nil => exact ⟨rfl, rfl, rfl, fun _ _ => rfl, fun _ _ => rfl, fun _ => rfl, fun _ => id,
      fun _ _ => rfl, nofun⟩
  | cons e elements ih =>
    rw [decElements]
    split
    · next hnone =>
      have hrest := ih fun f hf => hpool f (List.mem_cons_of_mem _ hf)
      refine ⟨hrest.el, hrest.nextEl, hrest.calls, hrest.pools,
        fun k hk => hrest.handles k fun f hf => hk f (List.mem_cons_of_mem _ hf),
        hrest.acquiredAt, hrest.inUse, hrest.pool, fun f hf k hfk => ?_⟩
      rcases List.mem_cons.mp hf with rfl | hf
      · cases hnone.symm.trans hfk
      · exact hrest.freed f hf k hfk
    · next h heh =>
      have hfirst := decOvlK_spec heh (hpool e (List.mem_cons_self ..) h heh)
      refine hfirst.trans (ih fun f hf k hfk huse => ?_)
      rw [hfirst.el] at hfk
      rw [hfirst.pool k huse]
      exact hpool f (List.mem_cons_of_mem _ hf) k hfk (hfirst.inUse k huse)

theorem Inv.free (hs : s.Inv) (p : ℕ) : (ovlKFree s p).Inv := by
  unfold ovlKFree
  split
  · next hp =>
    have hpool := hs.pool p hp
    unfold cleanupOvlPoolK
    rw [hpool.count, Int.toNat_natCast]
    dsimp only
    rw [List.take_length]
    have hgone := decElements_spec (p := p) (s.pools p).masterArray fun e he h heh _ =>
      (hpool.owned e he h heh).2.1
    generalize decElements (s.pools p).masterArray s = t at hgone ⊢
    have hother : ∀ q, ((t.setPool p { t.pools p with inUse := false }).pools q).inUse = true →
        q ≠ p ∧ (t.setPool p { t.pools p with inUse := false }).pools q = s.pools q := by
      intro q hq
      have hne : q ≠ p := by
        rintro rfl
        rw [setPool_pools_self] at hq
        cases hq
      rw [setPool_pools_of_ne hne]
      exact ⟨hne, hgone.pools q hne⟩
    have hback : ∀ q, q ≠ p →
        (t.setPool p { t.pools p with inUse := false }).pools q = s.pools q := fun q hq => by
      rw [setPool_pools_of_ne hq, hgone.pools q hq]
    constructor
    · intro q hq
      obtain ⟨hne, hsame⟩ := hother q hq
      rw [hsame] at hq
      refine (hs.pool q hq).frame hsame (Nat.le_of_eq hgone.nextEl.symm)
        (fun e _ => congrFun hgone.el e) fun e he h heh => hgone.handles h fun f hf hfh => ?_
      exact hne (hs.element_unique hq hp he hf heh hfh).1
    · intro q r e hq hr heq her
      obtain ⟨-, hsame⟩ := hother q hq
      obtain ⟨-, hsame'⟩ := hother r hr
      rw [hsame] at hq heq
      rw [hsame'] at hr her
      exact hs.disjoint q r e hq hr heq her
    · intro e he
      show t.el e = none
      rw [hgone.el]
      exact hs.fresh e (Nat.le_trans (Nat.le_of_eq hgone.nextEl.symm) he)
    · -- a handle that is still in use is not one of the pool
      intro h huse
      obtain ⟨q, hq, e, he, heh⟩ := hs.linked h (hgone.inUse h huse)
      have hne : q ≠ p := by
        rintro rfl
        cases (hgone.freed e he h heh).symm.trans huse
      refine ⟨q, by rw [hback q hne]; exact hq, e, by rw [hback q hne]; exact he, ?_⟩
      show t.el e = some h
      rw [hgone.el, heh]
    · intro h
      show (t.handles h).acquiredAt ≤ t.calls
      rw [hgone.acquiredAt, hgone.calls]
      exact hs.stamped h
  · exact hs

/-! ### Runs -/

/-- `OvlK_Init` takes a slot that is as a new one, if it takes one. -/
def initsReset (s : OvlPools) : OvlPoolsEvent → Bool
  | .init p maxOverlappedCount _ _ => decide (256 < maxOverlappedCount) || s.isReset p
  | _ => true

theorem Inv.step (hs : s.Inv) {e : OvlPoolsEvent} (hok : s.initsReset e = true)
    (h : ovlPools.step s e = some t) : t.Inv := by
  have htick := hs.tick
  cases e with
  | init p maxOverlappedCount usbHandle memAlloc =>
    simp only [ovlPools] at h
    split at h
    · cases h
    · next hfree => exact htick.init (by simpa using hfree) hok h
  | acquire p handle =>
    simp only [ovlPools] at h
    split at h
    · cases h
      exact htick.acquire p nofun
    · next k =>
      split at h
      · cases h
      · next hfree =>
        cases h
        refine htick.acquire p fun k' hk' => ?_
        cases hk'
        simpa using hfree
  | release k => exact htick.release h
  | free p =>
    cases h
    exact htick.free p

theorem inv_empty : Inv {} where
  pool p hp := by cases hp
  disjoint p q e hp := by cases hp
  fresh _ _ := rfl
  linked h hh := by cases hh
  stamped _ := Nat.le_refl _

end OvlPools

/-- **The pools are conserved** in every run in which a slot is used again only when it has been
reset. -/
theorem ovlPoolsOk_of_throughout {es : List OvlPoolsEvent}
    (h : ovlPools.Throughout (fun s e => s.initsReset e = true) {} es) :
    ovlPools.Always OvlPoolsOk {} es :=
  h.always (fun _ hs => hs.ok) (fun _ _ _ hs hok hstep => hs.step hok hstep) OvlPools.inv_empty

/-- A pool of two is used up and freed, and its slot used again. -/
theorem ovlPoolsOk_of_throughout_reuse :
    ovlPools.Always OvlPoolsOk {}
      [.init 0 2 true true, .acquire 0 (some 5), .acquire 0 (some 6), .release 5, .free 0,
        .init 0 1 true true, .acquire 0 (some 6)] :=
  ovlPoolsOk_of_throughout (by decide +kernel)

/-- A pool that is freed before its handle was created leaves its element to the next pool. -/
theorem not_ovlPoolsOk_unusedPool :
    ¬ovlPools.Always OvlPoolsOk {} [.init 0 1 true true, .free 0, .init 0 1 true true] := by
  intro h
  have hlast := (h.exec rfl).conserved 0 rfl
  exact absurd hlast.2.2.length_eq (by decide)

end LibusbK
