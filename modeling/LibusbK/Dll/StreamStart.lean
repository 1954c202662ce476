import LibusbK.Dll.StreamApcs

/-!
# Starting and stopping a stream

`StmK_Start` sets `Thread.State` to `STARTING`, creates the stream thread and polls the state
until it is `STARTED`; `StmK_Stop` sets it to `STOPPING` and polls until it is `STOPPED`.  The
thread goes through these states by itself.  Any number of callers start and stop the stream
while others read and write.

The thread is created suspended, and as long as the state is `STARTING` no other call touches
it, so that `StmK_Start` up to its loop is one step.

## Main definitions

* `StartPc`, `StreamStart` — where a caller is, and the stream with its callers.
* `streamStart` — the machine.
* `NoLostStart` — no caller waits for a thread that is gone.
* `StreamStart.keepsStarted` — the steps that do not take the thread past its state `STARTED`
  before a waiting caller has seen it.

## Main results

* `noLostStart_of_throughout` — no start is lost in a run of such steps.
-/

namespace LibusbK

/-- The wait loop a caller is in. -/
inductive StartPc
  /-- `StmK_Start`, until the state is `STARTED`. -/
  | waitsStarted
  /-- `Stm_StopInternal`, until the state is `STOPPED`. -/
  | waitsStopped
  deriving DecidableEq, Repr

/-- A stream, and the callers that start and stop it. -/
structure StreamStart where
  run : StreamRun
  callers : List (Option StartPc)

/-- What happens: a caller starts the stream, or fails to, or stops it, or looks at the state in
its wait loop; or the stream takes a step of another kind. -/
inductive StartEvent
  | start (k : ℕ)
  | startFails (k : ℕ)
  | stop (k : ℕ)
  | poll (k : ℕ)
  | stream (event : StreamEvent)

/-- An event of the stream that is no part of a start or a stop. -/
def StreamEvent.isOther : StreamEvent → Bool
  | .start => false
  | .startFails => false
  | .stop => false
  | _ => true

/-- A caller whose wait loop sees the state leaves it. -/
def StartPc.poll (state : ThreadState) (pc : StartPc) : Option StartPc :=
  match pc, state with
  | waitsStarted, .started => none
  | waitsStopped, .stopped => none
  | pc, _ => some pc

/-- A stream with `maxPendingIo` overlapped objects, and its callers. -/
def streamStart (maxPendingIo : ℕ) : Machine StreamStart StartEvent where
  step s
    | .start k =>
      if s.callers[k]? = some none then
        ((streamRun maxPendingIo).step s.run .start).map fun run =>
          { run := run, callers := s.callers.set k (some .waitsStarted) }
      else none
    | .startFails k =>
      if s.callers[k]? = some none then
        ((streamRun maxPendingIo).exec s.run [.start, .startFails]).map fun run =>
          { s with run := run }
      else none
    | .stop k =>
      if s.callers[k]? = some none then
        ((streamRun maxPendingIo).step s.run .stop).map fun run =>
          { run := run, callers := s.callers.set k (some .waitsStopped) }
      else none
    | .poll k =>
      match s.callers[k]? with
      | some (some pc) =>
        some { s with callers := s.callers.set k (pc.poll s.run.handle.threadState) }
      | _ => none
    | .stream event =>
      if event.isOther then
        ((streamRun maxPendingIo).step s.run event).map fun run => { s with run := run }
      else none

/-- **What should hold**: no caller is in the wait loop of `StmK_Start` when the thread has set
`STOPPED` and ended. -/
def NoLostStart (s : StreamStart) : Prop :=
  some .waitsStarted ∈ s.callers →
    ¬(s.run.life = .ended ∧ s.run.handle.threadState = .stopped)

instance : DecidablePred NoLostStart := fun _ => inferInstanceAs (Decidable (_ → _))

/-- The thread is on its way to its loop, in it, or at the label `Done` behind it. -/
def ThreadLife.isUpToDone : ThreadLife → Bool
  | .starting => true
  | .running => true
  | .leaving => true
  | _ => false

namespace StreamStart

/-- As long as a caller waits for the thread to be started, `Stm_Thread_Alloc_Ovl` succeeds and
the thread does not get past the label `Done`, where it sets `STOPPING`. -/
def keepsStarted (s : StreamStart) (e : StartEvent) : Bool :=
  !decide (some .waitsStarted ∈ s.callers) ||
    match e with
    | .stream .allocFails => false
    | .stream .leave => false
    | _ => true

/-- While a caller waits for the thread to be started, the thread has not set `STOPPING`. -/
def Inv (s : StreamStart) : Prop :=
  some .waitsStarted ∈ s.callers → s.run.life.isUpToDone = true

theorem Inv.noLostStart {s : StreamStart} (hs : s.Inv) : NoLostStart s := by
  rintro hwaits ⟨hended, -⟩
  have hlife := hs hwaits
  rw [hended] at hlife
  cases hlife

/-- A caller that goes on otherwise makes no other wait. -/
theorem mem_of_mem_set {callers : List (Option StartPc)} {k : ℕ} {pc : Option StartPc}
    (hpc : pc ≠ some .waitsStarted) (h : some .waitsStarted ∈ callers.set k pc) :
    some .waitsStarted ∈ callers := by
  rcases List.mem_or_eq_of_mem_set h with h | h
  · exact h
  · exact absurd h.symm hpc

theorem poll_eq_waitsStarted {state : ThreadState} {pc : StartPc}
    (h : pc.poll state = some .waitsStarted) : pc = .waitsStarted := by
  unfold StartPc.poll at h
  split at h
  · cases h
  · cases h
  · exact Option.some.inj h

theorem exec_startFails {maxPendingIo : ℕ} {run run' : StreamRun}
    (h : (streamRun maxPendingIo).exec run [.start, .startFails] = some run') :
    run.life = .ended := by
  simp only [Machine.exec, Option.bind_eq_some_iff] at h
  obtain ⟨run₁, hstart, -⟩ := h
  cases StreamRun.Step.of_step hstart with
  | start hstopped hended => exact hended

/-- A step of the stream takes the thread past `Done` only from there. -/
theorem life_step {maxPendingIo : ℕ} {run run' : StreamRun} {e : StreamEvent}
    (hother : e.isOther = true) (hleave : e ≠ .leave) (hlife : run.life.isUpToDone = true)
    (h : (streamRun maxPendingIo).step run e = some run') : run'.life.isUpToDone = true := by
  have hbusy : ∀ {life : ThreadLife}, life.isUpToDone = false → run.life ≠ life := by
    rintro _ hnot rfl
    rw [hnot] at hlife
    cases hlife
  cases StreamRun.Step.of_step h with
  | call k call hidle haccepted => exact hlife
  | callFails k call hidle => exact hlife
  | user k pc s' hpc hrun =>
    rw [(StreamRun.UserStep.of_run hrun).frame.1]
    exact hlife
  | start hstopped hended => cases hother
  | startFails hstarting => cases hother
  | stop hstarted => cases hother
  | deliver xferSubmitList apcs hapcs halertable => exact hlife
  | allocFails hstarting => rfl
  | started hstarting => rfl
  | loop hrunning hphase hgoesOn => exact hlife
  | flush hrunning hphase hgoesOn hunlocked => exact hlife
  | endLoop hrunning hphase hends => rfl
  | processQueued submit ovlList s' hrunning hphase hovl hstep =>
    cases hstep with
    | idle hnone => exact hlife
    | fails item queued ovlNext hqueued hhead hfails => rfl
    | submits item queued ovlNext hqueued hhead hsubmits => exact hlife
  | processPending outcome ovlList s' hovl hstep =>
    rcases (StreamRun.pendingStep_spec hstep).1 with ⟨-, hrunning⟩ | ⟨hdraining, -⟩
    · rw [hrunning]
      rfl
    · exact absurd hdraining (hbusy rfl)
  | leave hleft => exact absurd rfl hleave
  -- the other steps are those of a thread that is past it
  | synchronize hleft hunlocked => exact absurd hleft (hbusy rfl)
  | test hleft hmore => exact absurd hleft (hbusy rfl)
  | endTest hleft hnone => exact absurd hleft (hbusy rfl)
  | sleep hleft hnone => exact absurd hleft (hbusy rfl)
  | exit hleft => exact absurd hleft (hbusy rfl)

theorem Inv.step {maxPendingIo : ℕ} {s s' : StreamStart} (hs : s.Inv) {e : StartEvent}
    (hok : s.keepsStarted e = true) (h : (streamStart maxPendingIo).step s e = some s') :
    s'.Inv := by
  cases e with
  | start k =>
    simp only [streamStart] at h
    split at h
    · obtain ⟨run, hrun, rfl⟩ := Option.map_eq_some_iff.mp h
      cases StreamRun.Step.of_step hrun with
      | start hstopped hended => exact fun _ => rfl
    · cases h
  | startFails k =>
    simp only [streamStart] at h
    split at h
    · obtain ⟨run, hrun, rfl⟩ := Option.map_eq_some_iff.mp h
      intro hwaits
      have hlife := hs hwaits
      rw [exec_startFails hrun] at hlife
      cases hlife
    · cases h
  | stop k =>
    simp only [streamStart] at h
    split at h
    · obtain ⟨run, hrun, rfl⟩ := Option.map_eq_some_iff.mp h
      intro hwaits
      cases StreamRun.Step.of_step hrun with
      | stop hstarted =>
        have hstops : some StartPc.waitsStopped ≠ some .waitsStarted := by decide
        exact hs (mem_of_mem_set hstops hwaits)
    · cases h
  | poll k =>
    simp only [streamStart] at h
    split at h
    · next pc hpc =>
      cases h
      intro hwaits
      refine hs ?_
      by_cases hself : pc = .waitsStarted
      · rw [hself] at hpc
        exact List.mem_of_getElem? hpc
      · exact mem_of_mem_set (fun hpoll => hself (poll_eq_waitsStarted hpoll)) hwaits
    · cases h
  | stream event =>
    simp only [streamStart] at h
    split at h
    · next hother =>
      obtain ⟨run, hrun, rfl⟩ := Option.map_eq_some_iff.mp h
      intro hwaits
      have hwaits' : some .waitsStarted ∈ s.callers := hwaits
      unfold keepsStarted at hok
      rw [decide_eq_true hwaits', Bool.not_true, Bool.false_or] at hok
      refine life_step hother ?_ (hs hwaits') hrun
      rintro rfl
      cases hok
    · cases h

theorem inv_start (handle : StmHandle) (users callers : ℕ) :
    Inv { run := .start handle users, callers := List.replicate callers none } := by
  intro hwaits
  cases List.eq_of_mem_replicate hwaits

end StreamStart

/-- **No start is lost** in a run in which the thread does not set `STOPPING` before it has been
seen started. -/
theorem noLostStart_of_throughout (handle : StmHandle) (users callers maxPendingIo : ℕ)
    {es : List StartEvent}
    (h : (streamStart maxPendingIo).Throughout (fun s e => s.keepsStarted e = true)
      { run := .start handle users, callers := List.replicate callers none } es) :
    (streamStart maxPendingIo).Always NoLostStart
      { run := .start handle users, callers := List.replicate callers none } es :=
  h.always (fun _ hs => hs.noLostStart) (fun _ _ _ hs hok hstep => hs.step hok hstep)
    (StreamStart.inv_start handle users callers)

/-- The first submission of a stream fails, but the caller sees it started all the same; then it is
started again, seen started, and stopped. -/
theorem noLostStart_of_throughout_stop :
    (streamStart 1).Always NoLostStart
      { run := .start (stmKInit true false false 4 1) 0, callers := List.replicate 2 none }
      [.start 0, .stream .started, .stream .loop, .stream (.processQueued 31), .poll 0,
        .stream .leave, .stream .synchronize, .stream .test, .stream .exit,
        .start 0, .stream .started, .stream .loop, .poll 0, .stop 1, .stream (.processQueued 0),
        .stream (.processQueued 0), .stream (.processPending {}), .stream .loop, .stream .leave,
        .stream .synchronize, .stream .test, .stream .exit, .poll 1] :=
  noLostStart_of_throughout (stmKInit true false false 4 1) 0 2 1 (by decide +kernel)

/-- The overlapped objects cannot be allocated: the thread ends without having been started. -/
theorem not_noLostStart_allocFails :
    ¬(streamStart 1).Always NoLostStart
      { run := .start (stmKInit true false false 4 1) 0, callers := [none] }
      [.start 0, .stream .allocFails, .stream .leave, .stream .synchronize, .stream .test,
        .stream .exit] := by
  intro h
  exact h.exec rfl (List.mem_singleton_self _) ⟨rfl, rfl⟩

end LibusbK
