import LibusbK.Dll.StreamItems
import Mathlib.Data.List.Perm.Subperm

/-!
# The semaphore of a stream

A stream with `KSTM_FLAG_USE_TIMEOUT` counts its finished items with a semaphore.  A call waits
once before it takes the lock and once for each further item; it gives a wait back when it finds
the list empty, when it takes a part of an item, and when it puts items back.

`ReleaseSemaphore` fails when the count would pass `MaxPendingTransfers`; the bound below says
that it does not come to that.

## Main definitions

* `StreamRun.awaiting` — the calls that have waited for an item they have not come to.
* `SemReadyCounts` — what the semaphore counts.

## Main results

* `semReadyCounts` — the semaphore counts the finished items but for those calls.
-/

namespace LibusbK

open StreamRun

/-! ### What the loops of the calls take -/

/-- `StmK_Write` waits once for each item after the first. -/
theorem fillFinished_semReady {semCount : ℕ} (hcount : 1 < semCount) (items : List XferItem)
    (semReady : Option ℕ) (bytes : List UInt8) :
    (fillFinished semCount items semReady bytes).semReady.map
        (· + (fillFinished semCount items semReady bytes).xferSubmitList.length) = semReady := by
  induction items generalizing semCount semReady bytes with
  | nil => exact Option.map_id'
  | cons item items ih =>
    rw [fillFinished, if_pos hcount]
    split
    · exact Option.map_id'
    · next semReady' hwait =>
      have hsem := waitSemaphore_eq_some hwait
      dsimp only
      split
      · exact hsem
      · have hrest := ih (Nat.lt_succ_of_lt hcount) semReady' (bytes.drop item.bufferSize)
        generalize fillFinished (semCount + 1) items semReady' (bytes.drop item.bufferSize) = rest
          at hrest ⊢
        rw [← hsem, ← hrest, Option.map_map]
        rfl

/-- What the loop of `StmK_Write` takes, when there is an item. -/
theorem fillFinished_first (item : XferItem) (items : List XferItem) (semReady : Option ℕ)
    (bytes : List UInt8) :
    (fillFinished 1 (item :: items) semReady bytes).semReady.map
        (· + (fillFinished 1 (item :: items) semReady bytes).xferSubmitList.length) =
      semReady.map (· + 1) := by
  rw [fillFinished, if_neg (by decide)]
  dsimp only
  split
  · rfl
  · have hrest := fillFinished_semReady (Nat.lt_succ_self 1) items semReady
      (bytes.drop item.bufferSize)
    generalize fillFinished (1 + 1) items semReady (bytes.drop item.bufferSize) = rest at hrest ⊢
    rw [← hrest, Option.map_map]
    rfl

/-- A call spends a wait on each item it takes, the one before the lock among them. -/
theorem StreamCall.take_semReady (call : StreamCall) {handle : StmHandle}
    (hne : handle.finished ≠ []) :
    (call.take handle).semReady.map (· + (call.take handle).xferSubmitList.length) =
      handle.semReady.map (· + 1) := by
  obtain ⟨item, items, hfinished⟩ := List.exists_cons_of_ne_nil hne
  unfold StreamCall.take
  rw [hfinished]
  cases call with
  | read call => exact (takeFinished_first item items handle.semReady call.length.toNat).1
  | write call => exact fillFinished_first item items handle.semReady _

theorem StreamCall.take_length (call : StreamCall) (handle : StmHandle) :
    (call.take handle).xferSubmitList.length + (call.take handle).finished.length =
      handle.finished.length := by
  have hindex := congrArg List.length (call.take_index handle)
  rwa [List.length_map, List.length_map, List.length_append] at hindex

namespace StreamRun

/-! ### The count of the semaphore -/

/-- The number of calls that have waited for an item they have not come to. -/
def awaiting (users : List (Option UserPc)) : ℕ :=
  Stacks.tally UserPc.awaits (users.map Option.toList)

variable {s s' : StreamRun}

/-- The semaphore counts the finished items, but for those that calls have waited for. -/
def SemInv (s : StreamRun) : Prop :=
  s.handle.semReady.map (· + awaiting s.users) = some s.handle.finished.length

theorem awaiting_set {users : List (Option UserPc)} {k : ℕ} {user : Option UserPc}
    (h : users[k]? = some user) (user' : Option UserPc) :
    awaiting (users.set k user') + (user.elim false UserPc.awaits).toNat =
      awaiting users + (user'.elim false UserPc.awaits).toNat :=
  tally_users_set UserPc.awaits h user'

theorem awaiting_mapItems (f : XferItem → XferItem) (users : List (Option UserPc)) :
    awaiting (users.map fun user => user.map (UserPc.mapItems f)) = awaiting users :=
  tally_users_mapItems UserPc.awaits f (fun pc => by cases pc <;> rfl) users

/-- `Stm_SynchronizeFinishedList` counts the items it moves. -/
theorem semInv_synchronize {handle : StmHandle} {n : ℕ} (item : Option XferItem)
    (h : handle.semReady.map (· + n) = some handle.finished.length) :
    (handle.synchronizeFinishedList item).semReady.map (· + n) =
      some (handle.synchronizeFinishedList item).finished.length := by
  obtain ⟨m, hm, hlength⟩ := Option.map_eq_some_iff.mp h
  simp only [StmHandle.synchronizeFinishedList, StmHandle.releaseSemaphore, hm, Option.map_some,
    List.length_append, Option.some.injEq] at hlength ⊢
  omega

/-- A call goes on, and is not waiting before or after. -/
theorem SemInv.goOn (hs : s.SemInv) {k : ℕ} {user : Option UserPc} (h : s.users[k]? = some user)
    (user' : Option UserPc)
    (hsame : user'.elim false UserPc.awaits = user.elim false UserPc.awaits) :
    s.handle.semReady.map (· + awaiting (s.users.set k user')) = some s.handle.finished.length := by
  have hset := awaiting_set h user'
  rw [hsame] at hset
  rw [Nat.add_right_cancel hset]
  exact hs

/-- The contexts of items do not count. -/
theorem SemInv.restore (hs : s.SemInv) (backup : Option XferItem) :
    (s.restore backup).SemInv := by
  cases backup with
  | none => exact hs
  | some old =>
    have hmap := awaiting_mapItems (fun item =>
      if item.index = old.index then { item with context := old.context } else item) s.users
    simp only [SemInv, StreamRun.restore, mapItems, handle, List.length_map] at hs hmap ⊢
    rw [hmap]
    exact hs

theorem restore_users {k : ℕ} {pc : UserPc} (h : s.users[k]? = some (some pc))
    (backup : Option XferItem) : ∃ pc', (s.restore backup).users[k]? = some (some pc') ∧
      pc'.awaits = pc.awaits := by
  cases backup with
  | none => exact ⟨pc, h, rfl⟩
  | some old =>
    refine ⟨_, by rw [StreamRun.restore, mapItems, List.getElem?_map, h]; rfl, ?_⟩
    cases pc <;> rfl

/-- A step of a call. -/
theorem SemInv.user {k : ℕ} {pc : UserPc} (hs : s.SemInv) (h : s.users[k]? = some (some pc))
    (hstep : UserStep s k pc s') : s'.SemInv := by
  obtain ⟨m, hm, hlength⟩ := Option.map_eq_some_iff.mp hs
  cases hstep with
  | quiet pc' semReady locked failed hpc hpc' hitems hfailed htaken hwaiting hsem =>
    have hset := awaiting_set h pc'
    rw [hm] at hsem
    obtain ⟨m', hm', hsum⟩ := Option.map_eq_some_iff.mp hsem
    simp only [SemInv, StreamRun.goOn, withHandle, hm', Option.map_some, Option.some.injEq,
      Option.elim_some] at hset hsum hlength ⊢
    omega
  | takes call hpc hne =>
    have hset := awaiting_set h (some (.releases call (call.take s.handle)))
    have htake := call.take_semReady hne
    have hcount := call.take_length s.handle
    rw [hm] at htake
    obtain ⟨m', hm', hsum⟩ := Option.map_eq_some_iff.mp htake
    simp only [hpc, SemInv, StreamRun.goOn, withHandle, hm', Option.map_some,
      Option.some.injEq, Option.elim_some, UserPc.awaits, Bool.toNat_true, Bool.toNat_false]
      at hset hsum hlength ⊢
    omega
  | queues call taken hpc hqueue hlife =>
    rw [hpc] at h
    exact hs.goOn h (some .counts) rfl
  | counts hpc =>
    rw [hpc] at h
    exact hs.goOn h none rfl
  | appends taken hpc =>
    rw [hpc] at h
    exact hs.goOn h none rfl
  | putsBack call taken hpc =>
    have hrestored := hs.restore taken.backupXferItem
    obtain ⟨pc', hget, hawaits⟩ := restore_users h taken.backupXferItem
    have hset := awaiting_set hget (some (.releasesBack call))
    obtain ⟨m', hm', hlength'⟩ := Option.map_eq_some_iff.mp hrestored
    rw [Option.elim_some, hawaits, hpc] at hset
    simp only [SemInv, StreamRun.goOn, withHandle, putBack, hm', Option.map_some, Option.some.injEq,
      Option.elim_some, UserPc.awaits, Bool.toNat_false, List.foldl_flip_cons_eq_append',
      List.length_append, List.length_reverse] at hset hlength' ⊢
    omega

/-- **Every step keeps the count.** -/
theorem SemInv.step {maxPendingIo : ℕ} (hs : s.SemInv) {e : StreamEvent}
    (h : (streamRun maxPendingIo).step s e = some s') : s'.SemInv := by
  cases Step.of_step h with
  | call k call hidle haccepted => exact hs.goOn hidle (some (.waits call)) rfl
  | callFails k call hidle => exact hs.goOn hidle none rfl
  | user k pc s' hpc hrun => exact hs.user hpc (.of_run hrun)
  | flush hlife hphase hgoesOn hunlocked => exact semInv_synchronize none hs
  | processQueued submit ovlList s' hlife hphase hovl hstep =>
    cases hstep with
    | idle hnone => exact hs
    | fails item queued ovlNext hqueued hhead hsubmit => exact hs
    | submits item queued ovlNext hqueued hhead hsubmit => exact hs
  | processPending outcome ovlList s' hovl hstep =>
    obtain ⟨-, -, -, husers, -, -, -, hends⟩ := pendingStep_spec hstep
    rcases hends with ⟨-, hhandle, -⟩ | ⟨item, ovlNext, handle, -, -, hends, hhandle⟩
    · rw [SemInv, hhandle, husers]
      exact hs
    · rw [SemInv, hhandle, husers]
      cases hends with
      | requeued hcallback => exact hs
      | finished hfree => exact semInv_synchronize _ hs
      | temp hlocked => exact hs
  | synchronize hlife hunlocked => exact semInv_synchronize none hs
  -- the other steps change the thread and its state only
  | _ => exact hs

/-! ### The bound -/

/-- Items that are counted once at most are `n` at most. -/
theorem length_le_of_indexCount_le {n : ℕ} {items : List XferItem}
    (h : ∀ i, indexCount i items ≤ if i < n then 1 else 0) : items.length ≤ n := by
  have hsub : (items.map XferItem.index).Subperm (List.range n) := by
    refine List.subperm_ext_iff.mpr fun i _ => ?_
    rw [← indexCount_eq_count, List.nodup_range.count]
    simpa only [List.mem_range] using h i
  simpa using hsub.length_le

theorem finished_length_le {n : ℕ} (h : ∀ i, s.held i ≤ if i < n then 1 else 0) :
    s.handle.finished.length ≤ n := by
  refine length_le_of_indexCount_le fun i => Nat.le_trans ?_ (h i)
  unfold held
  omega

end StreamRun

/-! ### Runs -/

/-- **What the semaphore of a stream with `n` items counts**: the finished items, but for those
that calls have waited for and not come to. -/
structure SemReadyCounts (n : ℕ) (s : StreamRun) : Prop where
  idle : (∀ user ∈ s.users, user = none) →
    s.handle.semReady = some s.handle.finished.length
  inside : ∃ m, s.handle.semReady = some m ∧ m + awaiting s.users = s.handle.finished.length
  bound : ∃ m, s.handle.semReady = some m ∧ m ≤ n

theorem awaiting_of_idle {users : List (Option UserPc)} (h : ∀ user ∈ users, user = none) :
    awaiting users = 0 := by
  induction users with
  | nil => rfl
  | cons user users ih =>
    obtain rfl := h user (List.mem_cons_self ..)
    exact ih fun user hmem => h user (List.mem_cons_of_mem _ hmem)

theorem StreamRun.SemInv.counts {n : ℕ} {s : StreamRun} (hs : s.SemInv)
    (h : ∀ i, s.held i ≤ if i < n then 1 else 0) : SemReadyCounts n s := by
  obtain ⟨m, hm, hlength⟩ := Option.map_eq_some_iff.mp hs
  refine ⟨fun hidle => ?_, ⟨m, hm, hlength⟩, ⟨m, hm, ?_⟩⟩
  · rw [awaiting_of_idle hidle] at hlength
    rw [hm, ← hlength]
    rfl
  · have hbound := finished_length_le h
    omega

theorem semInv_start (isIn noPartialXfers : Bool) (maxTransferSize n users : ℕ) :
    SemInv (start (stmKInit isIn noPartialXfers true maxTransferSize n) users) := by
  have hidle : awaiting (List.replicate users none) = 0 :=
    awaiting_of_idle fun _ => List.eq_of_mem_replicate
  simp only [SemInv, start, hidle]
  cases isIn <;> simp [stmKInit, newItems]

/-- **In every run of a stream with a semaphore it counts the finished items.** -/
theorem semReadyCounts (isIn noPartialXfers : Bool)
    (maxTransferSize maxPendingTransfers maxPendingIo users : ℕ) (es : List StreamEvent) :
    (streamRun maxPendingIo).Always (SemReadyCounts maxPendingTransfers)
      (.start (stmKInit isIn noPartialXfers true maxTransferSize maxPendingTransfers) users)
      es := by
  have hinit := itemsInv_start isIn noPartialXfers true maxTransferSize maxPendingTransfers users
  refine Machine.always_of_step
    (I := fun s => s.SemInv ∧ ∀ i, s.held i ≤ if i < maxPendingTransfers then 1 else 0)
    (fun s hs => hs.1.counts hs.2) (fun s e s' hs h => ?_) es
    ⟨semInv_start isIn noPartialXfers maxTransferSize maxPendingTransfers users,
      fun i => Nat.le_of_eq (hinit.held i)⟩
  exact ⟨hs.1.step h, fun i => Nat.le_trans (held_step_le h i) (hs.2 i)⟩

/-- The waits a call has taken and not given back: one for an item it has not come to, and one
for each item it has taken off the list. -/
def UserPc.waitsTaken (pc : UserPc) : ℕ := pc.awaits.toNat + pc.items.length

/-- The count and all the waits of the call under way make up the finished items. -/
def CountsWaitsTaken (s : StreamRun) : Prop :=
  ∀ pc ∈ s.users[0]?.join,
    s.handle.semReady.map (· + pc.waitsTaken) = some s.handle.finished.length

/-- A write has taken the only item off the list: the wait for it is spent. -/
theorem not_countsWaitsTaken_write :
    ¬(streamRun 1).Always CountsWaitsTaken (.start (stmKInit false false true 4 1) 1)
      [.call 0 writeByte, .user 0, .user 0, .user 0] := by
  intro h
  exact absurd (h.exec rfl _ rfl) (by decide)

end LibusbK
