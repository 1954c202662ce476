import LibusbK.Dll.StreamSteps

/-!
# The APCs of a stream

`APCTransferQueueCount` is what the stream thread knows of the APCs that carry items to it.
A call counts its APC after it has queued it, so the count lags behind by the calls that are
between these two steps.

## Main definitions

* `StreamRun.counting` — the number of these calls.
* `StreamRun.apcInTime` — the steps that keep the thread from missing an APC.

## Main results

* `StreamRun.ApcInv.step` — a thread that has left its last loop leaves no APC behind.
-/

namespace LibusbK

namespace StreamRun

/-- The number of calls that have queued their APC and not counted it. -/
def counting (users : List (Option UserPc)) : ℕ :=
  Stacks.tally (fun pc => pc == .counts) (users.map Option.toList)

/-- The APCs that are counted or will be, less those that are undelivered. -/
def balance (s : StreamRun) : ℤ :=
  s.handle.aPCTransferQueueCount + counting s.users - s.apcs.length

/-- The calls that satisfy `p`, after user `k` has gone on. -/
theorem tally_users_set (p : UserPc → Bool) {users : List (Option UserPc)} {k : ℕ}
    {user : Option UserPc} (h : users[k]? = some user) (user' : Option UserPc) :
    Stacks.tally p ((users.set k user').map Option.toList) + (user.elim false p).toNat =
      Stacks.tally p (users.map Option.toList) + (user'.elim false p).toNat := by
  have hget : (users.map Option.toList)[k]? = some user.toList := by
    rw [List.getElem?_map, h]
    rfl
  have hset := Stacks.tally_set p hget user'.toList
  have hone : ∀ user : Option UserPc, user.toList.countP p = (user.elim false p).toNat := by
    intro user
    cases user with
    | none => rfl
    | some pc =>
      rw [Option.toList_some, List.countP_singleton]
      cases hp : p pc <;> simp [hp]
  rw [List.map_set]
  rwa [hone, hone] at hset

/-- The calls that satisfy `p` do not depend on what the items hold. -/
theorem tally_users_mapItems (p : UserPc → Bool) (f : XferItem → XferItem)
    (hp : ∀ pc, p (UserPc.mapItems f pc) = p pc) (users : List (Option UserPc)) :
    Stacks.tally p ((users.map fun user => user.map (UserPc.mapItems f)).map Option.toList) =
      Stacks.tally p (users.map Option.toList) := by
  induction users with
  | nil => rfl
  | cons user users ih =>
    have hhead : (user.map (UserPc.mapItems f)).toList.countP p = user.toList.countP p := by
      cases user with
      | none => rfl
      | some pc =>
        rw [Option.map_some, Option.toList_some, Option.toList_some, List.countP_singleton,
          List.countP_singleton, hp]
    rw [List.map_cons, List.map_cons, List.map_cons, Stacks.tally_cons, Stacks.tally_cons, hhead,
      ih]

theorem counting_set {users : List (Option UserPc)} {k : ℕ} {user : Option UserPc}
    (h : users[k]? = some user) (user' : Option UserPc) :
    counting (users.set k user') + (if user = some .counts then 1 else 0) =
      counting users + (if user' = some .counts then 1 else 0) := by
  have hset := tally_users_set (fun pc => pc == UserPc.counts) h user'
  have hone : ∀ user : Option UserPc,
      (user.elim false fun pc => pc == UserPc.counts).toNat =
        if user = some .counts then 1 else 0 := by
    intro user
    cases user with
    | none => rfl
    | some pc => by_cases hpc : pc = .counts <;> simp [hpc]
  rwa [hone, hone] at hset

theorem counting_mapItems (f : XferItem → XferItem) (users : List (Option UserPc)) :
    counting (users.map fun user => user.map (UserPc.mapItems f)) = counting users :=
  tally_users_mapItems _ f (fun pc => by cases pc <;> rfl) users

/-! ### Steps -/

variable {s s' : StreamRun}

/-- A step of a call keeps `APCTransferQueueCount` in step with the APCs. -/
theorem balance_user {k : ℕ} {pc : UserPc} (h : s.users[k]? = some (some pc))
    (hstep : UserStep s k pc s') : s'.balance = s.balance := by
  cases hstep with
  | quiet pc' semReady locked failed hpc hpc' hitems hfailed htaken hwaiting hsem =>
    have hset := counting_set h pc'
    rw [if_neg (fun heq => hpc (Option.some.inj heq)), if_neg hpc'] at hset
    simp only [balance, goOn, withHandle]
    omega
  | takes call hpc hne =>
    have hset := counting_set h (some (.releases call (call.take s.handle)))
    rw [hpc, if_neg nofun, if_neg nofun] at hset
    simp only [balance, goOn, withHandle]
    omega
  | queues call taken hpc hqueue hlife =>
    have hset := counting_set h (some .counts)
    rw [hpc, if_neg nofun, if_pos rfl] at hset
    simp only [balance, goOn, handle, List.length_append, List.length_singleton]
    omega
  | counts hpc =>
    have hset := counting_set h none
    rw [hpc, if_pos rfl, if_neg nofun] at hset
    simp only [balance, goOn, withHandle]
    omega
  | appends taken hpc =>
    have hset := counting_set h none
    rw [hpc, if_neg nofun, if_neg nofun] at hset
    simp only [balance, goOn, withHandle]
    omega
  | putsBack call taken hpc =>
    cases hbackup : taken.backupXferItem with
    | none =>
      have hset := counting_set h (some (.releasesBack call))
      rw [hpc, if_neg nofun, if_neg nofun] at hset
      simp only [balance, goOn, withHandle, putBack, restore]
      omega
    | some old =>
      have hget : (s.restore (some old)).users[k]? = some (some (UserPc.putsBack call
          (taken.mapItems fun item =>
            if item.index = old.index then { item with context := old.context } else item))) := by
        rw [restore, mapItems, List.getElem?_map, h, hpc]
        rfl
      have hset := counting_set hget (some (.releasesBack call))
      have hmap := counting_mapItems (fun item =>
        if item.index = old.index then { item with context := old.context } else item) s.users
      rw [if_neg nofun, if_neg nofun] at hset
      simp only [balance, goOn, withHandle, putBack, restore, mapItems, handle, List.length_map]
        at hset ⊢
      omega

/-- What a step of a call does not touch. -/
theorem UserStep.frame {k : ℕ} {pc : UserPc} (h : UserStep s k pc s') :
    s'.life = s.life ∧ s'.handle.threadState = s.handle.threadState ∧
      s'.handle.pendingIO = s.handle.pendingIO ∧
      s'.stm.pendingList.length = s.stm.pendingList.length ∧
      (s.handle.finishedTemp = [] → s'.handle.finishedTemp = []) ∧
      ((∀ call taken, pc = .queues call taken → call.queueUserAPC = false) → s.apcs = [] →
        s'.apcs = []) := by
  cases h with
  | quiet pc' semReady locked failed hpc hpc' hitems hfailed htaken hwaiting hsem =>
    exact ⟨rfl, rfl, rfl, rfl, id, fun _ => id⟩
  | takes call hpc hne => exact ⟨rfl, rfl, rfl, rfl, id, fun _ => id⟩
  | queues call taken hpc hqueue hlife =>
    refine ⟨rfl, rfl, rfl, rfl, id, fun hno => ?_⟩
    rw [hno call taken hpc] at hqueue
    cases hqueue
  | counts hpc => exact ⟨rfl, rfl, rfl, rfl, id, fun _ => id⟩
  | appends taken hpc => exact ⟨rfl, rfl, rfl, rfl, id, fun _ => id⟩
  | putsBack call taken hpc =>
    cases hbackup : taken.backupXferItem with
    | none => exact ⟨rfl, rfl, rfl, rfl, id, fun _ => id⟩
    | some old =>
      refine ⟨rfl, rfl, rfl, List.length_map .., fun hnil => ?_, fun _ hnil => ?_⟩
      · exact List.map_eq_nil_iff.mpr hnil
      · exact List.map_eq_nil_iff.mpr hnil

/-- The step does not make the thread miss an APC: a call queues its APC to a thread that has
not left its last loop, and the thread leaves that loop when no call has still to count its
APC. -/
def apcInTime (s : StreamRun) : StreamEvent → Bool
  | .user k =>
    match s.users[k]? with
    | some (some (.queues call _)) => !call.queueUserAPC || !s.life.isIdle
    | _ => true
  | .test =>
    decide (0 < s.handle.pendingIO ∨ 0 < s.handle.aPCTransferQueueCount) || counting s.users == 0
  | _ => true

/-- `APCTransferQueueCount` is that of the APCs but for the calls that have not counted theirs,
and a thread at rest leaves nothing behind. -/
structure ApcInv (s : StreamRun) : Prop where
  balance : s.balance = 0
  pendingIO : s.handle.pendingIO = s.stm.pendingList.length
  idle : s.life.isIdle = true → s.apcs = [] ∧ s.stm.pendingList = []

/-- The thread goes on, and nothing else happens. -/
theorem ApcInv.withLife (hs : s.ApcInv) (threadState : ThreadState) (life : ThreadLife)
    (hidle : life.isIdle = true → s.life.isIdle = true) :
    ApcInv { s.withHandle { s.handle with threadState := threadState } with life := life } where
  balance := hs.balance
  pendingIO := hs.pendingIO
  idle h := hs.idle (hidle h)

/-- The thread goes on, and is in its loops. -/
theorem ApcInv.withBusyLife (hs : s.ApcInv) (threadState : ThreadState) (life : ThreadLife)
    (hbusy : life.isIdle = false) :
    ApcInv { s.withHandle { s.handle with threadState := threadState } with life := life } :=
  hs.withLife threadState life fun hidle => absurd (hbusy.symm.trans hidle) Bool.false_ne_true

/-- The thread ends. -/
theorem ApcInv.ended (hs : s.ApcInv) (hidle : s.life.isIdle = true) :
    ApcInv
      { s.withHandle { s.handle with threadState := .stopped } with
        life := .ended
        apcs := [] } := by
  obtain ⟨hapcs, hpending⟩ := hs.idle hidle
  refine ⟨?_, hs.pendingIO, fun _ => ⟨rfl, hpending⟩⟩
  rw [← hs.balance, StreamRun.balance, StreamRun.balance, hapcs]
  rfl

/-- A step of a call. -/
theorem ApcInv.user {k : ℕ} {pc : UserPc} (hs : s.ApcInv) (h : s.users[k]? = some (some pc))
    (hok : ∀ call taken, pc = .queues call taken → call.queueUserAPC = true →
      s.life.isIdle = false) (hstep : UserStep s k pc s') : s'.ApcInv := by
  obtain ⟨hlife, -, hpendingIo, hpending, -, hapcs⟩ := hstep.frame
  refine ⟨(balance_user h hstep).trans hs.balance, ?_, fun hidle => ?_⟩
  · rw [hpendingIo, hpending]
    exact hs.pendingIO
  · rw [hlife] at hidle
    obtain ⟨hnil, hnone⟩ := hs.idle hidle
    refine ⟨hapcs (fun call taken hpc => ?_) hnil, ?_⟩
    · cases hqueue : call.queueUserAPC with
      | false => rfl
      | true => cases (hok call taken hpc hqueue).symm.trans hidle
    · rw [hnone] at hpending
      exact List.length_eq_zero_iff.mp hpending

/-- A step of the stream thread that submits a transfer, or not. -/
theorem ApcInv.queuedStep (hs : s.ApcInv) {submit : UInt32} {ovlList : DList ℕ}
    (hrunning : s.life = .running) (hstep : QueuedStep s submit ovlList s') : s'.ApcInv := by
  have hpending := hs.pendingIO
  cases hstep with
  | idle hnone => exact ⟨hs.balance, hpending, hs.idle⟩
  | fails item queued ovlNext hqueued hhead hsubmit => exact ⟨hs.balance, hpending, nofun⟩
  | submits item queued ovlNext hqueued hhead hsubmit =>
    refine ⟨hs.balance, ?_, fun hidle => ?_⟩
    · dsimp only
      rw [List.length_append, List.length_singleton]
      exact congrArg (· + 1) hpending
    · rw [hrunning] at hidle
      cases hidle

/-- A step of the stream thread that waits for a transfer. -/
theorem ApcInv.pendingStep (hs : s.ApcInv) {o : PendingOutcome} {ovlList : DList ℕ}
    (h : s.pendingStep o ovlList = some s') : s'.ApcInv := by
  have hpendingIo := hs.pendingIO
  have hbalance := hs.balance
  obtain ⟨hlife, -, hapcs, husers, -, -, -, hends⟩ := pendingStep_spec h
  have hbusy : s'.life.isIdle = false := by
    rcases hlife with ⟨-, h'⟩ | ⟨-, h'⟩ <;> rw [h'] <;> rfl
  rcases hends with ⟨-, hhandle, hpending⟩ | ⟨item, ovlNext, handle, hpending, -, hends, hhandle⟩
  · refine ⟨?_, ?_, fun hidle => absurd (hbusy.symm.trans hidle) (by decide)⟩
    · rw [StreamRun.balance, hhandle, hapcs, husers]
      exact hbalance
    · rw [hhandle, hpending, hpendingIo]
  · have hcount : handle.aPCTransferQueueCount = s.handle.aPCTransferQueueCount := by
      cases hends <;> rfl
    refine ⟨?_, ?_, fun hidle => absurd (hbusy.symm.trans hidle) (by decide)⟩
    · rw [StreamRun.balance, hhandle, hapcs, husers]
      dsimp only
      rw [hcount]
      exact hbalance
    · rw [hhandle]
      dsimp only
      rw [hpendingIo, hpending]
      rfl

/-- A user that is idle calls, or the call fails at once. -/
theorem ApcInv.call (hs : s.ApcInv) {k : ℕ} (hidle : s.users[k]? = some none) {pc : Option UserPc}
    (hpc : pc ≠ some .counts) : (s.goOn k pc).ApcInv := by
  have hcount := counting_set hidle pc
  rw [if_neg nofun, if_neg hpc, Nat.add_zero, Nat.add_zero] at hcount
  refine ⟨?_, hs.pendingIO, hs.idle⟩
  have hbalance := hs.balance
  rw [StreamRun.balance] at hbalance ⊢
  dsimp only [goOn]
  rw [hcount]
  exact hbalance

/-- An APC is delivered. -/
theorem ApcInv.deliver (hs : s.ApcInv) {xferSubmitList : List XferItem}
    {apcs : List (List XferItem)} (hapcs : s.apcs = xferSubmitList :: apcs) :
    ApcInv { s.withHandle (s.handle.transferListAPC xferSubmitList) with apcs := apcs } := by
  have hbalance := hs.balance
  refine ⟨?_, hs.pendingIO, fun hidle => ?_⟩
  · rw [StreamRun.balance, hapcs, List.length_cons] at hbalance
    simp only [StreamRun.balance, withHandle, StmHandle.transferListAPC]
    omega
  · have hnil := (hs.idle hidle).1
    rw [hapcs] at hnil
    cases hnil

/-- The last loop is left: nothing is pending and no APC is counted, so no APC is undelivered
either. -/
theorem ApcInv.endTest (hs : s.ApcInv)
    (hnone : ¬(0 < s.handle.pendingIO ∨ 0 < s.handle.aPCTransferQueueCount))
    (hcounting : counting s.users = 0) : ApcInv { s with life := .left } := by
  have hbalance := hs.balance
  have hpendingIo := hs.pendingIO
  rw [StreamRun.balance, hcounting] at hbalance
  have hapcs : s.apcs.length = 0 := by omega
  have hpending : s.stm.pendingList.length = 0 := by omega
  exact ⟨hs.balance, hs.pendingIO, fun _ =>
    ⟨List.length_eq_zero_iff.mp hapcs, List.length_eq_zero_iff.mp hpending⟩⟩

/-- **A step in time keeps the count in step with the APCs**, and leaves none behind when the
thread leaves its last loop. -/
theorem ApcInv.step {maxPendingIo : ℕ} (hs : s.ApcInv) {e : StreamEvent}
    (hok : s.apcInTime e = true) (h : (streamRun maxPendingIo).step s e = some s') : s'.ApcInv := by
  cases Step.of_step h with
  | call k call hidle haccepted => exact hs.call hidle nofun
  | callFails k call hidle =>
    have hcall : (s.goOn k none).ApcInv := hs.call hidle nofun
    exact ⟨hcall.balance, hcall.pendingIO, hcall.idle⟩
  | user k pc s' hpc hrun =>
    refine hs.user hpc (fun call taken heq hqueue => ?_) (.of_run hrun)
    simp only [apcInTime, hpc, heq, hqueue] at hok
    simpa using hok
  | start hstopped hended =>
    obtain ⟨hapcs, hpending⟩ := hs.idle (by rw [hended]; rfl)
    have hnone := hs.pendingIO
    rw [hpending] at hnone
    exact ⟨hs.balance, hnone, fun _ => ⟨hapcs, rfl⟩⟩
  | startFails hlife => exact hs.ended (by rw [hlife]; rfl)
  | stop hstarted => exact hs.withLife .stopping s.life id
  | deliver xferSubmitList apcs hapcs halertable => exact hs.deliver hapcs
  | allocFails hlife => exact hs.withBusyLife s.handle.threadState .leaving rfl
  | started hlife => exact hs.withBusyLife .started .running rfl
  | loop hlife hphase hgoesOn => exact ⟨hs.balance, hs.pendingIO, hs.idle⟩
  | flush hlife hphase hgoesOn hunlocked => exact ⟨hs.balance, hs.pendingIO, hs.idle⟩
  | endLoop hlife hphase hends => exact hs.withBusyLife s.handle.threadState .leaving rfl
  | processQueued submit ovlList s' hlife hphase hovl hstep => exact hs.queuedStep hlife hstep
  | processPending outcome ovlList s' hovl hstep => exact hs.pendingStep hstep
  | leave hlife => exact hs.withBusyLife .stopping .synchronizing rfl
  | synchronize hlife hunlocked =>
    exact ⟨hs.balance, hs.pendingIO, fun hidle => absurd hidle Bool.false_ne_true⟩
  | test hlife hmore => exact hs.withBusyLife s.handle.threadState .draining rfl
  | endTest hlife hnone =>
    refine hs.endTest hnone ?_
    simp only [apcInTime, decide_eq_false hnone] at hok
    simpa using hok
  | sleep hlife hnone => exact hs.withBusyLife s.handle.threadState .testing rfl
  | exit hlife => exact hs.ended (by rw [hlife]; rfl)

theorem apcInv_start {handle : StmHandle} (hpendingIo : handle.pendingIO = 0)
    (hcount : handle.aPCTransferQueueCount = 0) (users : ℕ) : (start handle users).ApcInv := by
  have hcounting : ∀ m, counting (List.replicate m none) = 0 := by
    intro m
    induction m with
    | zero => rfl
    | succ m ih => exact ih
  refine ⟨?_, hpendingIo, fun _ => ⟨rfl, rfl⟩⟩
  rw [StreamRun.balance, start, hcounting, hcount]
  rfl

end StreamRun

end LibusbK
