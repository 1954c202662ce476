import LibusbK.Driver.Configure
import LibusbK.Lib.Registers

/-!
# The timeouts of the pipe contexts

`TimeoutPolicy` stays in its pipe context when the pipe is stopped, deleted, read back for
another alternate setting or given a new queue: of all that changes a pipe context, only
`SET_PIPE_POLICY` and the first preparation of the hardware write it.

## Main definitions

* `DeviceState.timeouts` — `TimeoutPolicy` of every pipe context.
* `PipeOperation.timeoutWrites` — the timeouts an operation writes.

## Main result

* `timeouts_step` — an operation writes these and no others.
-/

namespace LibusbK

/-- `TimeoutPolicy` of every pipe context. -/
def DeviceState.timeouts (s : DeviceState) (k : Fin 32) : UInt32 := (s.pipes k).timeoutPolicy

section Kept

variable {s s' : DeviceState}

theorem timeouts_of_pipes (h : s'.pipes = s.pipes) : s'.timeouts = s.timeouts := by
  unfold DeviceState.timeouts
  rw [h]

theorem timeouts_setPipe (s : DeviceState) (k : Fin 32) (pc : PipeContext) :
    (s.setPipe k pc).timeouts = Function.update s.timeouts k pc.timeoutPolicy := by
  funext k'
  unfold DeviceState.timeouts
  by_cases hk : k' = k
  · subst hk
    simp
  · simp [hk]

/-- A pipe context that keeps its timeout is assigned. -/
theorem timeouts_setPipe_of_eq {k : Fin 32} {pc : PipeContext}
    (h : pc.timeoutPolicy = s.timeouts k) : (s.setPipe k pc).timeouts = s.timeouts := by
  rw [timeouts_setPipe, h, Function.update_eq_self]

/-- A list of steps that keep the timeouts. -/
theorem timeouts_foldl {ι : Type*} {f : DeviceState → ι → DeviceState}
    (h : ∀ s i, (f s i).timeouts = s.timeouts) (is : List ι) (s : DeviceState) :
    (is.foldl f s).timeouts = s.timeouts := by
  induction is generalizing s with
  | nil => rfl
  | cons i is ih => rw [List.foldl_cons, ih, h]

/-! ### One pipe -/

theorem timeouts_pipeStop (s : DeviceState) (k : Fin 32) :
    (pipeStop s k).1.timeouts = s.timeouts := by
  unfold pipeStop
  split
  · exact timeouts_setPipe_of_eq rfl
  · rfl

theorem pipes_pipeInitQueue (s : DeviceState) (pc : PipeContext) (a : StartAnswers) :
    (pipeInitQueue s pc a).1.pipes = s.pipes := by
  unfold pipeInitQueue
  dsimp only
  split_ifs <;> simp

theorem timeouts_pipeInitContextWithQueue (s : DeviceState) (k : Fin 32) (status : NTSTATUS)
    (startIoTarget : Bool) (a : StartAnswers) :
    (pipeInitContextWithQueue s k status startIoTarget a).1.timeouts = s.timeouts := by
  rw [pipeInitContextWithQueue_fst]
  exact timeouts_setPipe_of_eq rfl

theorem timeouts_pipeInitContext (s : DeviceState) (k : Fin 32) (startIoTarget : Bool)
    (a : StartAnswers) : (pipeInitContext s k startIoTarget a).1.timeouts = s.timeouts := by
  unfold pipeInitContext
  dsimp only
  split
  · rfl
  · split
    · -- the queue is replaced
      generalize hr : pipeInitQueue (s.deleteQueue (s.pipes k).queue)
        { s.pipes k with isQueueDirty := false } a = r
      have hpipes : r.1.pipes = s.pipes := by
        rw [← hr, pipes_pipeInitQueue, DeviceState.pipes_deleteQueue]
      have hkeeps (queue : WdfHandle) (valid : Bool) :
          (r.1.setPipe k { s.pipes k with
            isQueueDirty := false, queue := queue, isValid := valid }).timeouts = s.timeouts := by
        rw [timeouts_setPipe_of_eq, timeouts_of_pipes hpipes]
        rw [timeouts_of_pipes hpipes]
        rfl
      split
      · exact hkeeps none false
      · split
        · rw [DeviceState.setPipe_setPipe]
          exact hkeeps none false
        · rw [timeouts_pipeInitContextWithQueue]
          exact hkeeps r.2.2 (s.pipes k).isValid
    · exact timeouts_pipeInitContextWithQueue _ _ _ _ _

theorem timeouts_pipeStart (s : DeviceState) (k : Fin 32) (startIoTarget : Bool)
    (a : StartAnswers) : (pipeStart s k startIoTarget a).1.timeouts = s.timeouts := by
  unfold pipeStart
  split
  · rfl
  · exact timeouts_pipeInitContext s k startIoTarget a

theorem timeouts_pipeRefreshQueue (s : DeviceState) (k : Fin 32) (a : StartAnswers) :
    (pipeRefreshQueue s k a).1.timeouts = s.timeouts := by
  unfold pipeRefreshQueue
  dsimp only
  split
  · exact timeouts_pipeStop s k
  · rw [timeouts_pipeStart, timeouts_pipeStop]

theorem timeouts_modifyQueue (s : DeviceState) (queue : WdfHandle)
    (f : QueueContext → QueueContext) : (s.modifyQueue queue f).timeouts = s.timeouts := by
  cases queue <;> rfl

theorem timeouts_pipeReset (s : DeviceState) (pipeID : UInt8) (status : NTSTATUS) :
    (pipeReset s pipeID status).1.timeouts = s.timeouts := by
  unfold pipeReset
  dsimp only
  split
  · rfl
  · split
    · rfl
    · exact timeouts_modifyQueue _ _ _

theorem timeouts_flushPipe (s : DeviceState) (pipeID : UInt8) (a : StartAnswers) :
    (flushPipe s pipeID a).1.timeouts = s.timeouts := by
  unfold flushPipe
  dsimp only
  split
  · rfl
  · split
    · exact timeouts_pipeStop _ _
    · rw [timeouts_pipeStart]
      split
      · rw [timeouts_modifyQueue, timeouts_pipeStop]
      · exact timeouts_pipeStop _ _

theorem timeouts_refreshForRequest (s : DeviceState) (pipeID : UInt8) (a : StartAnswers) :
    (refreshForRequest s pipeID a).1.timeouts = s.timeouts := by
  unfold refreshForRequest
  dsimp only
  split
  · rfl
  · split
    · exact timeouts_pipeRefreshQueue _ _ _
    · rfl

/-! ### The pipes of an interface -/

theorem timeouts_stopPipes (s : DeviceState) (ks : List (Fin 32)) :
    (stopPipes s ks).timeouts = s.timeouts :=
  timeouts_foldl timeouts_pipeStop ks s

theorem timeouts_startPipes (start : ℕ → StartAnswers) (startIoTarget : Bool) (s : DeviceState)
    (n : ℕ) (ks : List (Fin 32)) :
    (startPipes start startIoTarget s n ks).timeouts = s.timeouts := by
  induction ks generalizing s n with
  | nil => rfl
  | cons k ks ih => rw [startPipes, ih, timeouts_pipeStart]

theorem timeouts_deletePipe (s : DeviceState) (k : Fin 32) :
    (deletePipe s k).timeouts = s.timeouts := by
  unfold deletePipe
  dsimp only
  split
  · have hpipes := DeviceState.pipes_deleteQueue s (s.pipes k).queue
    rw [timeouts_setPipe_of_eq, timeouts_of_pipes hpipes]
    rw [timeouts_of_pipes hpipes]
    rfl
  · exact timeouts_setPipe_of_eq rfl

theorem timeouts_interfaceDeletePipesAndQueues (s : DeviceState) (i : ℕ) :
    (interfaceDeletePipesAndQueues s i).timeouts = s.timeouts :=
  timeouts_foldl timeouts_deletePipe _ s

theorem timeoutPolicy_configurePipe (isHS : Bool) (pc : PipeContext) (pipe : ℕ)
    (info : PipeInformation) : (configurePipe isHS pc pipe info).timeoutPolicy =
      pc.timeoutPolicy := by
  unfold configurePipe policyInitPipe
  dsimp only
  split <;> rfl

theorem timeouts_initPipes (pipes : List (Option (ℕ × PipeInformation))) (s : DeviceState) :
    (initPipes s pipes).1.timeouts = s.timeouts := by
  induction pipes generalizing s with
  | nil => rfl
  | cons entry rest ih =>
    cases entry with
    | none => rfl
    | some pipe =>
      simp only [initPipes]
      rw [ih, timeouts_setPipe_of_eq (timeoutPolicy_configurePipe _ _ _ _)]

theorem timeouts_interfaceInitContext (s : DeviceState) (i : ℕ) (a : InterfaceAnswers) :
    (interfaceInitContext s i a).1.timeouts = s.timeouts := by
  unfold interfaceInitContext
  dsimp only
  split
  · rfl
  · exact timeouts_initPipes a.configuredPipes s

theorem timeouts_interfaceStart (s : DeviceState) (i : ℕ) (start : ℕ → StartAnswers) :
    (interfaceStart s i start).1.timeouts = s.timeouts :=
  timeouts_startPipes start false s 0 _

theorem timeouts_settingSelected (s : DeviceState) (i : ℕ) (a : InterfaceAnswers) :
    (settingSelected s i a).1.timeouts = s.timeouts := by
  unfold settingSelected
  dsimp only
  split
  · rw [timeouts_interfaceInitContext, timeouts_interfaceDeletePipesAndQueues]
    rfl
  · rw [timeouts_interfaceStart, timeouts_interfaceInitContext,
      timeouts_interfaceDeletePipesAndQueues]
    rfl

theorem timeouts_changeAltSetting (s : DeviceState) (i : ℕ) (a : InterfaceAnswers) :
    (changeAltSetting s i a).1.timeouts = s.timeouts := by
  unfold changeAltSetting
  dsimp only
  split
  · exact timeouts_stopPipes _ _
  · split
    · rw [timeouts_interfaceStart]
      exact timeouts_stopPipes _ _
    · rw [timeouts_settingSelected]
      exact timeouts_stopPipes _ _

theorem timeouts_interfaceSetAltSetting (s : DeviceState) (intf : InterfaceRequest)
    (a : InterfaceAnswers) : (interfaceSetAltSetting s intf a).1.timeouts = s.timeouts := by
  unfold interfaceSetAltSetting
  split
  · rfl
  · split
    · rfl
    · split
      · rfl
      · split
        · rfl
        · exact timeouts_changeAltSetting _ _ _

theorem timeouts_deviceReset (s : DeviceState) (start : ℕ → ℕ → StartAnswers) :
    (deviceReset s start).timeouts = s.timeouts := by
  have hstop : ∀ (s : DeviceState) (i : ℕ),
      (stopPipes s (s.interfaces i).pipeContextByIndex).timeouts = s.timeouts :=
    fun s i => timeouts_stopPipes s _
  have hstart : ∀ (s : DeviceState) (i : ℕ),
      (startPipes (start i) true s 0 (s.interfaces i).pipeContextByIndex).timeouts = s.timeouts :=
    fun s i => timeouts_startPipes _ _ s 0 _
  unfold deviceReset forInterfaces
  dsimp only
  rw [timeouts_foldl hstart, timeouts_foldl hstop]

end Kept

/-! ### `SET_PIPE_POLICY` -/

/-- The timeout a `SET_PIPE_POLICY` writes.  Its length is not looked at. -/
def setPolicyWrites (s : DeviceState) (pipeID : UInt8) (policyType : UInt32)
    (value : ValueBytes) : List (Fin 32 × UInt32) :=
  let pc := getPipeContextByID s.pipes pipeID
  if pc.isValid ∧ pc.queue.isSome ∧ policyType = PIPE_TRANSFER_TIMEOUT then
    [(pipeSlot pipeID, value.ulong)]
  else []

theorem PolicyUpdate.timeoutPolicy_done (u : PolicyUpdate) :
    u.done.timeoutPolicy = u.context.timeoutPolicy := by
  unfold PolicyUpdate.done
  split <;> rfl

theorem timeoutPolicy_setPolicy (isHighSpeed : Bool) (pc : PipeContext) (policyType : UInt32)
    (value : ValueBytes) (valueLength : UInt32) :
    (setPolicy isHighSpeed pc policyType value valueLength).context.timeoutPolicy =
      if policyType = PIPE_TRANSFER_TIMEOUT then value.ulong else pc.timeoutPolicy := by
  by_cases htype : policyType = PIPE_TRANSFER_TIMEOUT
  · rw [if_pos htype, htype]
    rfl
  · rw [if_neg htype]
    have hcode : PipePolicy.ofCode policyType ≠ some .pipeTransferTimeout :=
      fun h => htype (PipePolicy.code_of_ofCode h).symm
    unfold setPolicy
    split
    · unfold setRawIo
      dsimp only
      split_ifs <;> rfl
    · unfold setFlag
      split_ifs <;> rfl
    · next h => exact absurd h hcode
    · unfold setIsoStartLatency
      split_ifs <;> rfl
    · unfold setIsoNumFixedPackets
      dsimp only
      split_ifs <;> rfl
    · unfold setSimulParallelRequests
      split_ifs <;> rfl
    · rfl
    · rfl

theorem timeouts_setPipePolicy (s : DeviceState) (pipeID : UInt8) (policyType : UInt32)
    (value : ValueBytes) (valueLength : UInt32) :
    (setPipePolicy s pipeID policyType value valueLength).1.timeouts =
      writeAll s.timeouts (setPolicyWrites s pipeID policyType value) := by
  unfold setPipePolicy setPolicyWrites policySetPipe
  dsimp only
  generalize hpc : getPipeContextByID s.pipes pipeID = pc
  by_cases hserves : pc.isValid = true ∧ pc.queue.isSome = true
  · obtain ⟨hvalid, hqueue⟩ := hserves
    obtain ⟨q, hq⟩ := Option.isSome_iff_exists.mp hqueue
    rw [if_neg (by simp [hvalid, hq]), if_neg (by simp [hvalid])]
    change (s.setPipe (pipeSlot pipeID) _).timeouts = _
    rw [timeouts_setPipe, PolicyUpdate.timeoutPolicy_done, timeoutPolicy_setPolicy]
    by_cases htype : policyType = PIPE_TRANSFER_TIMEOUT
    · rw [if_pos htype, if_pos ⟨hvalid, hqueue, htype⟩]
      rfl
    · -- another policy: the pipe context keeps its timeout
      rw [if_neg htype, if_neg fun h => htype h.2.2, ← hpc]
      exact Function.update_eq_self _ _
  · rw [if_pos, if_neg fun h => hserves ⟨h.1, h.2.1⟩]
    · rfl
    · simp only [Bool.or_eq_true, Bool.not_eq_true', Option.isNone_iff_eq_none]
      by_contra hno
      simp only [not_or, Bool.not_eq_false] at hno
      exact hserves ⟨hno.1, Option.isSome_iff_ne_none.mpr hno.2⟩

/-! ### Preparing the hardware -/

/-- `Device_Configure` comes to `Pipe_InitDefaultContext`. -/
def ConfigureAnswers.setsDefaultPipe (a : ConfigureAnswers) : Bool :=
  (a.numInterfaces == 1 || a.allocates) && ntSuccess a.selectConfig

/-- `Device_OnPrepareHardware` does. -/
def PrepareAnswers.setsDefaultPipe (a : PrepareAnswers) : Bool :=
  ntSuccess a.targetDeviceCreate && ntSuccess a.retrieveInformation &&
    ntSuccess a.fetchConfigDescriptor && a.configure.setsDefaultPipe

theorem timeouts_pipeInitDefaultContext (s : DeviceState) (a : StartAnswers) :
    (pipeInitDefaultContext s a).1.timeouts = Function.update s.timeouts 0 5000 := by
  unfold pipeInitDefaultContext
  dsimp only
  rw [timeouts_pipeInitContext, timeouts_setPipe]
  rfl

theorem timeouts_configureInterface (a : ConfigureAnswers) (s : DeviceState) (i : ℕ) :
    (configureInterface a s i).1.timeouts = s.timeouts := by
  unfold configureInterface
  dsimp only
  have hinit : (interfaceInitContext (assignInterface a s i) i (a.interface i)).1.timeouts =
      s.timeouts := timeouts_interfaceInitContext _ _ _
  split
  · exact hinit
  · split
    · exact (timeouts_interfaceStart _ _ _).trans hinit
    · exact (timeouts_interfaceStart _ _ _).trans hinit

theorem timeouts_configureInterfaces (a : ConfigureAnswers) (n i : ℕ)
    (r : DeviceState × NTSTATUS) :
    (configureInterfaces a n i r).1.timeouts = r.1.timeouts := by
  induction n generalizing i r with
  | zero => rfl
  | succ n ih =>
    simp only [configureInterfaces]
    split
    · exact timeouts_configureInterface a r.1 i
    · rw [ih, timeouts_configureInterface]

theorem timeouts_deviceConfigure (s : DeviceState) (a : ConfigureAnswers) :
    (deviceConfigure s a).1.timeouts =
      writeAll s.timeouts (if a.setsDefaultPipe then [(0, 5000)] else []) := by
  unfold deviceConfigure ConfigureAnswers.setsDefaultPipe
  dsimp only
  by_cases hallocates : a.numInterfaces ≠ 1 ∧ a.allocates = false
  · rw [if_pos hallocates, if_neg (by simp [hallocates])]
    rfl
  · have hfits : (a.numInterfaces == 1 || a.allocates) = true := by
      rw [Bool.or_eq_true, beq_iff_eq]
      by_cases hone : a.numInterfaces = 1
      · exact .inl hone
      · exact .inr (by simpa [hone] using hallocates)
    rw [if_neg hallocates]
    cases hselect : ntSuccess a.selectConfig with
    | false =>
      simp only [Bool.not_false, if_true, Bool.and_false]
      rfl
    | true =>
      simp only [Bool.not_true, Bool.false_eq_true, if_false, hfits, Bool.and_true, if_true]
      have hdefault := timeouts_pipeInitDefaultContext
        ((s.withInterfaceCount a.numInterfaces.toNat).withInterfaceCount
          a.numInterfacesAfter.toNat) a.defaultPipe
      split
      · exact hdefault
      · exact (timeouts_configureInterfaces _ _ _ _).trans hdefault

theorem timeouts_deviceOnPrepareHardware (d : UsbDevice) (a : PrepareAnswers) :
    (deviceOnPrepareHardware d a).1.state.timeouts =
      writeAll d.state.timeouts
        (if !d.prepared && a.setsDefaultPipe then [(0, 5000)] else []) := by
  unfold deviceOnPrepareHardware PrepareAnswers.setsDefaultPipe
  cases hprepared : d.prepared with
  | true => rfl
  | false =>
    cases hcreate : ntSuccess a.targetDeviceCreate with
    | false => rfl
    | true =>
      cases hretrieve : ntSuccess a.retrieveInformation with
      | false => rfl
      | true =>
        cases hfetch : ntSuccess a.fetchConfigDescriptor with
        | false => rfl
        | true =>
          simp only [Bool.not_true, Bool.not_false, Bool.false_eq_true, if_false, Bool.true_and]
          exact timeouts_deviceConfigure { d.state with device := a.device } a.configure

/-! ### Operations -/

/-- The timeouts an operation writes. -/
def PipeOperation.timeoutWrites (d : UsbDevice) : PipeOperation → List (Fin 32 × UInt32)
  | .prepareHardware a => if !d.prepared && a.setsDefaultPipe then [(0, 5000)] else []
  | .setPolicy pipeID policyType value _ => setPolicyWrites d.state pipeID policyType value
  | _ => []

/-- **An operation writes these timeouts and no others.** -/
theorem timeouts_step {d d' : UsbDevice} {op : PipeOperation}
    (h : pipeMachine.step d op = some d') :
    d'.state.timeouts = writeAll d.state.timeouts (op.timeoutWrites d) := by
  obtain ⟨a, rfl, rfl⟩ | ⟨-, rfl⟩ := pipeMachine_step h
  · exact timeouts_deviceOnPrepareHardware d a
  · cases op with
    | prepareHardware a =>
      simp only [pipeMachine, Option.some.injEq] at h
      rw [← h]
      exact timeouts_deviceOnPrepareHardware d a
    | setAltSetting intf a => exact timeouts_interfaceSetAltSetting _ _ _
    | flushPipe pipeID a => exact timeouts_flushPipe _ _ _
    | refreshForRequest pipeID a => exact timeouts_refreshForRequest _ _ _
    | resetPipe pipeID status => exact timeouts_pipeReset _ _ _
    | setPolicy pipeID policyType value valueLength => exact timeouts_setPipePolicy _ _ _ _ _
    | resetDevice start => exact timeouts_deviceReset _ _

end LibusbK
