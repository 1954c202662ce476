import LibusbK.Driver.PipeObjects
import Mathlib.Order.Fin.Basic
import Mathlib.Tactic.SplitIfs

/-!
# Alternate settings

`Interface_SetAltSetting` of `drv_interface.c` and the routines it is made of.
`InterfaceAnswers` holds what the framework answers while the setting of one
interface is changed: about the interface as it is once the call is over, and
during the start of each of its pipes.

## Main result

* `setAltSetting_allOrNothing_iff` — the change is all or nothing exactly when
  `AllOrNothingWhen` holds of the state, the request and the answers.
-/

namespace LibusbK

abbrev STATUS_INSUFFICIENT_RESOURCES : NTSTATUS := 0xC000009A
abbrev STATUS_FILE_CORRUPT_ERROR : NTSTATUS := 0xC0000102
abbrev STATUS_INVALID_DEVICE_STATE : NTSTATUS := 0xC0000184

/-! ### Finding the interface and the setting -/

/-- `interface_request_t`. -/
structure InterfaceRequest where
  interfaceNumber : UInt32 := 0
  altsettingNumber : UInt32 := 0
  intfUseIndex : Bool := false
  altfUseIndex : Bool := false
  interfaceIndex : Int16 := 0
  altsettingIndex : Int16 := 0
  deriving DecidableEq, Repr

/-- `Interface_GetContextByNumber`. -/
def interfaceGetContextByNumber (s : DeviceState) (interfaceNumber : UInt8) : Option ℕ :=
  (List.range s.interfaceCount).find? fun i =>
    (s.interfaces i).interfaceDescriptor.bInterfaceNumber == interfaceNumber

/-- `Interface_GetContextByIndex`. -/
def interfaceGetContextByIndex (s : DeviceState) (interfaceIndex : UInt8) : Option ℕ :=
  if s.interfaceCount ≤ interfaceIndex.toNat then none else some interfaceIndex.toNat

/-- `GetInterfaceContextFromRequest`. -/
def getInterfaceContextFromRequest (s : DeviceState) (intf : InterfaceRequest) :
    Except NTSTATUS ℕ :=
  if s.device.usbConfigurationDescriptor = [] then .error STATUS_INVALID_DEVICE_STATE
  else
    let found :=
      if intf.intfUseIndex then interfaceGetContextByIndex s intf.interfaceIndex.toInt8.toUInt8
      else interfaceGetContextByNumber s intf.interfaceNumber.toUInt8
    match found with
    | none => .error STATUS_NO_MORE_ENTRIES
    | some i => .ok i

/-- What the framework answers while the setting of an interface is changed. -/
structure InterfaceAnswers where
  /-- `WdfUsbInterfaceGetNumSettings`. -/
  numSettings : UInt8 := 1
  /-- `WdfUsbInterfaceGetDescriptor`. -/
  descriptor : UInt8 → UsbInterfaceDescriptor := fun _ => {}
  /-- `WdfUsbInterfaceSelectSetting`. -/
  selectSetting : NTSTATUS := STATUS_SUCCESS
  /-- `WdfUsbInterfaceGetConfiguredSettingIndex`. -/
  configuredSettingIndex : UInt8 := 0
  /-- `WdfUsbInterfaceGetConfiguredPipe`, for each of the configured pipes. -/
  configuredPipes : List (Option (ℕ × PipeInformation)) := []
  /-- The answers while the pipe at an index is started. -/
  start : ℕ → StartAnswers := fun _ => {}

/-- `GetInterfaceAltSettingIndexFromRequest`. -/
def getInterfaceAltSettingIndexFromRequest (intf : InterfaceRequest) (a : InterfaceAnswers) :
    Except NTSTATUS UInt8 :=
  if intf.altfUseIndex ∧ intf.altsettingIndex.toInt ≥ a.numSettings.toNat then
    .error STATUS_NO_MORE_ENTRIES
  else
    let altIndex : UInt8 :=
      if intf.altfUseIndex then intf.altsettingIndex.toInt8.toUInt8
      else
        let altPos := (List.range a.numSettings.toNat).find? fun altPos =>
          (a.descriptor (UInt8.ofNat altPos)).bAlternateSetting.toUInt32 == intf.altsettingNumber
        (altPos.map UInt8.ofNat).getD 0xFF
    if altIndex = 0xFF then .error STATUS_NO_MORE_ENTRIES else .ok altIndex

/-! ### Stopping, starting and deleting pipes -/

/-- The loop of `Interface_Stop`. -/
def stopPipes (s : DeviceState) (ks : List (Fin 32)) : DeviceState :=
  ks.foldl (fun s k => (pipeStop s k).1) s

/-- `Interface_Stop`. -/
def interfaceStop (s : DeviceState) (i : ℕ) : DeviceState × NTSTATUS :=
  (stopPipes s (s.interfaces i).pipeContextByIndex, STATUS_SUCCESS)

/-- The loop of `Interface_Start` from the index `pipeIndex` on: what becomes of
each pipe is not looked at. -/
def startPipes (start : ℕ → StartAnswers) (startIoTarget : Bool) :
    DeviceState → ℕ → List (Fin 32) → DeviceState
  | s, _, [] => s
  | s, pipeIndex, k :: ks =>
    startPipes start startIoTarget (pipeStart s k startIoTarget (start pipeIndex)).1
      (pipeIndex + 1) ks

/-- `Interface_Start`. -/
def interfaceStart (s : DeviceState) (i : ℕ) (start : ℕ → StartAnswers) : DeviceState × NTSTATUS :=
  (startPipes start false s 0 (s.interfaces i).pipeContextByIndex, STATUS_SUCCESS)

/-- `Interface_DeletePipesAndQueues`, for one pipe. -/
def deletePipe (s : DeviceState) (k : Fin 32) : DeviceState :=
  let pc := s.pipes k
  if !pc.isValid && pc.queue.isSome && pc.pipeInformation.hasNumber then
    (s.deleteQueue pc.queue).setPipe k { pc with queue := none, pipe := none }
  else s.setPipe k { pc with pipe := none }

/-- `Interface_DeletePipesAndQueues`. -/
def interfaceDeletePipesAndQueues (s : DeviceState) (i : ℕ) : DeviceState :=
  let ic := s.interfaces i
  (ic.pipeContextByIndex.foldl deletePipe s).setInterface i { ic with pipeContextByIndex := [] }

/-! ### Reading the pipes back -/

/-- `Pipe_CalcMaxTransferSize`. -/
def pipeCalcMaxTransferSize (isHS : Bool) (pipeType : WdfUsbPipeType)
    (maxPacketSize originalMaxTransferSize : ℕ) : ℕ :=
  match pipeType with
  | .isochronous =>
    min (if isHS then 1024 * maxPacketSize else 255 * maxPacketSize) originalMaxTransferSize
  | .bulk => min (maxPacketSize * 4096) originalMaxTransferSize
  | .interrupt => min (maxPacketSize * 4096) originalMaxTransferSize
  | _ => originalMaxTransferSize

/-- What `Interface_InitContext` stores about a configured pipe. -/
def configurePipe (isHS : Bool) (pc : PipeContext) (pipe : ℕ) (info : PipeInformation) :
    PipeContext :=
  let pc := policyInitPipe isHS { pc with pipeInformation := info }
  { pc with
    pipe := some pipe
    pipeInformation := { info with
      maximumTransferSize := pipeCalcMaxTransferSize isHS info.pipeType info.maximumPacketSize
        info.maximumTransferSize } }

/-- The loop of `Interface_InitContext`: the entries of `PipeContextByIndex` it
fills in, and its status. -/
def initPipes (s : DeviceState) :
    List (Option (ℕ × PipeInformation)) → DeviceState × List (Fin 32) × NTSTATUS
  | [] => (s, [], STATUS_SUCCESS)
  | none :: _ => (s, [], STATUS_INSUFFICIENT_RESOURCES)
  | some (pipe, info) :: rest =>
    let k := pipeSlot info.endpointAddress
    let r := initPipes (s.setPipe k (configurePipe s.device.isHighSpeed (s.pipes k) pipe info)) rest
    (r.1, k :: r.2.1, r.2.2)

/-- `Interface_InitContext`. -/
def interfaceInitContext (s : DeviceState) (i : ℕ) (a : InterfaceAnswers) :
    DeviceState × NTSTATUS :=
  let ic := s.interfaces i
  if !ic.hasInterface then (s, STATUS_FILE_CORRUPT_ERROR)
  else
    let r := initPipes s a.configuredPipes
    (r.1.setInterface i { ic with
        settingIndex := a.configuredSettingIndex
        interfaceDescriptor := a.descriptor a.configuredSettingIndex
        pipeContextByIndex := r.2.1 },
      r.2.2)

/-- `Interface_SetAltSetting`, from the point where the setting has been selected. -/
def settingSelected (s : DeviceState) (i : ℕ) (a : InterfaceAnswers) : DeviceState × NTSTATUS :=
  let s := s.setInterface i { s.interfaces i with settingIndex := a.configuredSettingIndex }
  let r := interfaceInitContext (interfaceDeletePipesAndQueues s i) i a
  if !ntSuccess r.2 then r else interfaceStart r.1 i a.start

/-- `Interface_SetAltSetting`, from the point where the setting differs from the
one that is selected. -/
def changeAltSetting (s : DeviceState) (i : ℕ) (a : InterfaceAnswers) : DeviceState × NTSTATUS :=
  let r := interfaceStop s i
  if !ntSuccess r.2 then r
  else if !ntSuccess a.selectSetting then ((interfaceStart r.1 i a.start).1, a.selectSetting)
  else settingSelected r.1 i a

/-- `Interface_SetAltSetting`. -/
def interfaceSetAltSetting (s : DeviceState) (intf : InterfaceRequest) (a : InterfaceAnswers) :
    DeviceState × NTSTATUS :=
  match getInterfaceContextFromRequest s intf with
  | .error status => (s, status)
  | .ok i =>
    if !(s.interfaces i).hasInterface then (s, STATUS_NO_MORE_ENTRIES)
    else
      match getInterfaceAltSettingIndexFromRequest intf a with
      | .error status => (s, status)
      | .ok altIndex =>
        if (s.interfaces i).settingIndex = altIndex then (s, STATUS_SUCCESS)
        else changeAltSetting s i a

/-! ### Lookups -/

theorem lt_of_getInterfaceContextFromRequest {s : DeviceState} {intf : InterfaceRequest} {i : ℕ}
    (h : getInterfaceContextFromRequest s intf = .ok i) : i < s.interfaceCount := by
  have hnumber : ∀ n i, interfaceGetContextByNumber s n = some i → i < s.interfaceCount := by
    intro n i hfound
    exact List.mem_range.mp (List.mem_of_find?_eq_some hfound)
  have hindex : ∀ n i, interfaceGetContextByIndex s n = some i → i < s.interfaceCount := by
    intro n i hfound
    unfold interfaceGetContextByIndex at hfound
    split at hfound
    · cases hfound
    · next hlt =>
      cases hfound
      exact Nat.not_le.mp hlt
  unfold getInterfaceContextFromRequest at h
  split at h
  · cases h
  · dsimp only at h
    split at h
    · cases h
    · next j hfound =>
      cases h
      split at hfound
      · exact hindex _ _ hfound
      · exact hnumber _ _ hfound

/-! ### What the loops do to one pipe context -/

theorem pipes_pipeStop (s : DeviceState) (k : Fin 32) :
    (pipeStop s k).1.pipes = Function.update s.pipes k { s.pipes k with isValid := false } := by
  unfold pipeStop
  split_ifs with h
  · rfl
  · have hv : (s.pipes k).isValid = false := by simpa using h
    have heq : ({ s.pipes k with isValid := false } : PipeContext) = s.pipes k := by
      rw [← hv]
    rw [heq, Function.update_eq_self]

theorem interfaces_pipeStop (s : DeviceState) (k : Fin 32) :
    (pipeStop s k).1.interfaces = s.interfaces := by
  unfold pipeStop
  split_ifs <;> rfl

/-- A loop over the pipes of an interface that changes one pipe context at a
time, in a way that does nothing when it is done again. -/
theorem pipes_foldl {f : PipeContext → PipeContext} {step : DeviceState → Fin 32 → DeviceState}
    (hstep : ∀ s k, (step s k).pipes = Function.update s.pipes k (f (s.pipes k)))
    (hf : ∀ pc, f (f pc) = f pc) (ks : List (Fin 32)) (s : DeviceState) (k : Fin 32) :
    (ks.foldl step s).pipes k = if k ∈ ks then f (s.pipes k) else s.pipes k := by
  induction ks generalizing s with
  | nil => rfl
  | cons k' ks ih =>
    rw [List.foldl_cons, ih, hstep]
    by_cases hk : k = k'
    · subst hk
      simp [hf]
    · simp [hk]

theorem pipes_stopPipes (s : DeviceState) (ks : List (Fin 32)) (k : Fin 32) :
    (stopPipes s ks).pipes k =
      if k ∈ ks then { s.pipes k with isValid := false } else s.pipes k :=
  pipes_foldl (f := fun pc => { pc with isValid := false }) pipes_pipeStop (fun _ => rfl) ks s k

theorem interfaces_stopPipes (s : DeviceState) (ks : List (Fin 32)) :
    (stopPipes s ks).interfaces = s.interfaces := by
  unfold stopPipes
  induction ks generalizing s with
  | nil => rfl
  | cons k ks ih => rw [List.foldl_cons, ih, interfaces_pipeStop]

/-- A pipe context without its pipe and, if it can be deleted, its queue. -/
def deletedPipe (pc : PipeContext) : PipeContext :=
  { pc with
    pipe := none
    queue := if !pc.isValid && pc.pipeInformation.hasNumber then none else pc.queue }

theorem deletedPipe_eq (pc : PipeContext) :
    deletedPipe pc =
      if !pc.isValid && pc.queue.isSome && pc.pipeInformation.hasNumber then
        { pc with queue := none, pipe := none }
      else { pc with pipe := none } := by
  obtain ⟨queue, _, isValid, _, info, _, _, _, _⟩ := pc
  unfold deletedPipe
  dsimp only
  cases queue with
  | none => simp
  | some q => cases isValid <;> cases info.hasNumber <;> rfl

theorem pipes_deletePipe (s : DeviceState) (k : Fin 32) :
    (deletePipe s k).pipes = Function.update s.pipes k (deletedPipe (s.pipes k)) := by
  rw [deletedPipe_eq]
  unfold deletePipe
  dsimp only
  split_ifs
  · rw [DeviceState.pipes_setPipe, DeviceState.pipes_deleteQueue]
  · rfl

theorem interfaces_deletePipe (s : DeviceState) (k : Fin 32) :
    (deletePipe s k).interfaces = s.interfaces := by
  unfold deletePipe
  dsimp only
  split_ifs <;> simp

theorem deletedPipe_deletedPipe (pc : PipeContext) :
    deletedPipe (deletedPipe pc) = deletedPipe pc := by
  unfold deletedPipe
  cases pc.isValid <;> cases pc.pipeInformation.hasNumber <;> rfl

theorem pipes_deletePipes (s : DeviceState) (ks : List (Fin 32)) (k : Fin 32) :
    (ks.foldl deletePipe s).pipes k =
      if k ∈ ks then deletedPipe (s.pipes k) else s.pipes k :=
  pipes_foldl pipes_deletePipe deletedPipe_deletedPipe ks s k

theorem interfaces_deletePipes (s : DeviceState) (ks : List (Fin 32)) :
    (ks.foldl deletePipe s).interfaces = s.interfaces := by
  induction ks generalizing s with
  | nil => rfl
  | cons k ks ih => rw [List.foldl_cons, ih, interfaces_deletePipe]

/-! ### Reading the pipes back, for one pipe context -/

/-- The slots of the configured pipes. -/
def InterfaceAnswers.slots (a : InterfaceAnswers) : List (Option (Fin 32)) :=
  a.configuredPipes.map fun p => p.map fun q => pipeSlot q.2.endpointAddress

/-- The information the configured pipes leave in the slot `k`, if it was `info`. -/
def infoAfter : List (Option (ℕ × PipeInformation)) → Fin 32 → PipeInformation → PipeInformation
  | [], _, info => info
  | none :: rest, k, info => infoAfter rest k info
  | some q :: rest, k, info =>
    infoAfter rest k (if pipeSlot q.2.endpointAddress = k then q.2 else info)

/-- The context of the slot `k` when the configured pipes have been read back. -/
structure ReadBack (pipes : List (Option (ℕ × PipeInformation))) (k : Fin 32)
    (pc pc' : PipeContext) : Prop where
  isValid : pc'.isValid = pc.isValid
  queue : pc'.queue = pc.queue
  isQueueDirty : pc'.isQueueDirty = pc.isQueueDirty
  hasNumber : pc'.pipeInformation.hasNumber = (infoAfter pipes k pc.pipeInformation).hasNumber
  needsOverMem :
    pc'.pipeInformation.needsOverMem = (infoAfter pipes k pc.pipeInformation).needsOverMem
  pipe : some k ∈ pipes.map (fun p => p.map fun q => pipeSlot q.2.endpointAddress) →
    pc'.pipe.isSome = true
  other : some k ∉ pipes.map (fun p => p.map fun q => pipeSlot q.2.endpointAddress) → pc' = pc

theorem hasNumber_configurePipe (isHS : Bool) (pc : PipeContext) (pipe : ℕ)
    (info : PipeInformation) :
    (configurePipe isHS pc pipe info).pipeInformation.hasNumber = info.hasNumber := rfl

theorem needsOverMem_configurePipe (isHS : Bool) (pc : PipeContext) (pipe : ℕ)
    (info : PipeInformation) :
    (configurePipe isHS pc pipe info).pipeInformation.needsOverMem = info.needsOverMem := rfl

theorem isValid_configurePipe (isHS : Bool) (pc : PipeContext) (pipe : ℕ)
    (info : PipeInformation) : (configurePipe isHS pc pipe info).isValid = pc.isValid := by
  unfold configurePipe policyInitPipe
  dsimp only
  split_ifs <;> rfl

theorem queue_configurePipe (isHS : Bool) (pc : PipeContext) (pipe : ℕ)
    (info : PipeInformation) : (configurePipe isHS pc pipe info).queue = pc.queue := by
  unfold configurePipe policyInitPipe
  dsimp only
  split_ifs <;> rfl

theorem isQueueDirty_configurePipe (isHS : Bool) (pc : PipeContext) (pipe : ℕ)
    (info : PipeInformation) :
    (configurePipe isHS pc pipe info).isQueueDirty = pc.isQueueDirty := by
  unfold configurePipe policyInitPipe
  dsimp only
  split_ifs <;> rfl

/-- What is left of the old information is only the information itself. -/
theorem infoAfter_congr {β : Type*} (f : PipeInformation → β) {info info' : PipeInformation}
    (h : f info = f info') (pipes : List (Option (ℕ × PipeInformation))) (k : Fin 32) :
    f (infoAfter pipes k info) = f (infoAfter pipes k info') := by
  induction pipes generalizing info info' with
  | nil => exact h
  | cons p rest ih =>
    cases p with
    | none => exact ih h
    | some q =>
      rw [infoAfter, infoAfter]
      apply ih
      split_ifs
      · rfl
      · exact h

/-- Reading the pipes back fills in their slots, if no pipe handle is null. -/
theorem readBack_initPipes {pipes : List (Option (ℕ × PipeInformation))} (h : none ∉ pipes)
    (s : DeviceState) (k : Fin 32) :
    ReadBack pipes k (s.pipes k) ((initPipes s pipes).1.pipes k) := by
  induction pipes generalizing s with
  | nil => exact ⟨rfl, rfl, rfl, rfl, rfl, fun h => absurd h List.not_mem_nil, fun _ => rfl⟩
  | cons p rest ih =>
    have hrest : none ∉ rest := fun hm => h (List.mem_cons_of_mem p hm)
    cases p with
    | none => exact absurd List.mem_cons_self h
    | some q =>
      obtain ⟨pipe, info⟩ := q
      have hrec := ih hrest (s.setPipe (pipeSlot info.endpointAddress)
        (configurePipe s.device.isHighSpeed (s.pipes (pipeSlot info.endpointAddress)) pipe info))
      by_cases hk : pipeSlot info.endpointAddress = k
      · subst hk
        rw [DeviceState.pipes_setPipe, Function.update_self] at hrec
        refine ⟨?_, ?_, ?_, ?_, ?_, fun _ => ?_, fun hmem => absurd List.mem_cons_self hmem⟩
        · exact hrec.isValid.trans (isValid_configurePipe _ _ _ _)
        · exact hrec.queue.trans (queue_configurePipe _ _ _ _)
        · exact hrec.isQueueDirty.trans (isQueueDirty_configurePipe _ _ _ _)
        · rw [infoAfter, if_pos rfl]
          exact hrec.hasNumber.trans (infoAfter_congr _ (hasNumber_configurePipe _ _ _ _) _ _)
        · rw [infoAfter, if_pos rfl]
          exact hrec.needsOverMem.trans (infoAfter_congr _ (needsOverMem_configurePipe _ _ _ _) _ _)
        · by_cases hin : some (pipeSlot info.endpointAddress) ∈
              rest.map (fun p => p.map fun q => pipeSlot q.2.endpointAddress)
          · exact hrec.pipe hin
          · have heq := hrec.other hin
            simp only [initPipes]
            rw [heq]
            rfl
      · rw [DeviceState.pipes_setPipe, Function.update_of_ne (Ne.symm hk)] at hrec
        have hmem : some k ∈ (some (pipe, info) :: rest).map
            (fun p => p.map fun q => pipeSlot q.2.endpointAddress) ↔
            some k ∈ rest.map (fun p => p.map fun q => pipeSlot q.2.endpointAddress) := by
          simp [Ne.symm hk]
        have hinfo : infoAfter (some (pipe, info) :: rest) k (s.pipes k).pipeInformation =
            infoAfter rest k (s.pipes k).pipeInformation := by
          rw [infoAfter, if_neg hk]
        exact ⟨hrec.isValid, hrec.queue, hrec.isQueueDirty, hinfo ▸ hrec.hasNumber,
          hinfo ▸ hrec.needsOverMem, fun h => hrec.pipe (hmem.mp h),
          fun h => hrec.other fun h' => h (hmem.mpr h')⟩

theorem interfaces_initPipes (s : DeviceState) (pipes : List (Option (ℕ × PipeInformation))) :
    (initPipes s pipes).1.interfaces = s.interfaces := by
  induction pipes generalizing s with
  | nil => rfl
  | cons p rest ih =>
    cases p with
    | none => rfl
    | some q => exact ih _

/-- The loop succeeds if no pipe handle is null, and then fills in every entry. -/
theorem initPipes_of_some {pipes : List (Option (ℕ × PipeInformation))} (h : none ∉ pipes)
    (s : DeviceState) :
    (initPipes s pipes).2.2 = STATUS_SUCCESS ∧
      (initPipes s pipes).2.1.map some =
        pipes.map fun p => p.map fun q => pipeSlot q.2.endpointAddress := by
  induction pipes generalizing s with
  | nil => exact ⟨rfl, rfl⟩
  | cons p rest ih =>
    have hrest : none ∉ rest := fun hm => h (List.mem_cons_of_mem p hm)
    cases p with
    | none => exact absurd List.mem_cons_self h
    | some q =>
      obtain ⟨hstatus, hslots⟩ := ih hrest (s.setPipe (pipeSlot q.2.endpointAddress)
        (configurePipe s.device.isHighSpeed (s.pipes (pipeSlot q.2.endpointAddress)) q.1 q.2))
      exact ⟨hstatus, congrArg (some (pipeSlot q.2.endpointAddress) :: ·) hslots⟩

theorem initPipes_of_none {pipes : List (Option (ℕ × PipeInformation))} (h : none ∈ pipes)
    (s : DeviceState) : (initPipes s pipes).2.2 = STATUS_INSUFFICIENT_RESOURCES := by
  induction pipes generalizing s with
  | nil => exact absurd h List.not_mem_nil
  | cons p rest ih =>
    cases p with
    | none => rfl
    | some q =>
      have hrest : none ∈ rest := by simpa using h
      exact ih hrest _

/-! ### Starting the pipes, for one pipe context -/

theorem interfaces_pipeStart (s : DeviceState) (k : Fin 32) (startIoTarget : Bool)
    (a : StartAnswers) : (pipeStart s k startIoTarget a).1.interfaces = s.interfaces := by
  have h := pipeStarted_pipeStart s k startIoTarget a
  generalize (pipeStart s k startIoTarget a).1 = s' at h
  cases h <;> rfl

theorem interfaces_startPipes (start : ℕ → StartAnswers) (startIoTarget : Bool)
    (ks : List (Fin 32)) (s : DeviceState) (n : ℕ) :
    (startPipes start startIoTarget s n ks).interfaces = s.interfaces := by
  induction ks generalizing s n with
  | nil => rfl
  | cons k ks ih => exact (ih _ _).trans (interfaces_pipeStart _ _ _ _)

/-- Starting one pipe leaves the other pipe contexts alone. -/
theorem pipes_pipeStart_of_ne (s : DeviceState) {k k' : Fin 32} (h : k' ≠ k)
    (startIoTarget : Bool) (a : StartAnswers) :
    (pipeStart s k startIoTarget a).1.pipes k' = s.pipes k' := by
  have hs := pipeStarted_pipeStart s k startIoTarget a
  generalize (pipeStart s k startIoTarget a).1 = s' at hs
  cases hs <;> first | rfl | exact Function.update_of_ne h _ _

/-- One start without the I/O target, seen from the context of its pipe. -/
inductive StartOutcome (pc : PipeContext) (a : StartAnswers) : PipeContext → Prop
  | stays (hvalid : pc.isValid = true) : StartOutcome pc a pc
  | goesThrough (pc' : PipeContext) (hvalid : pc.isValid = false) (hstarts : pc.starts a = true)
    (hvalid' : pc'.isValid = true) (hqueue' : pc'.queue.isSome = true)
    (hpipe : pc'.pipe = pc.pipe) :
    StartOutcome pc a pc'
  | fails (pc' : PipeContext) (hvalid : pc.isValid = false) (hstarts : pc.starts a = false)
    (hvalid' : pc'.isValid = false) (hsame : ∀ a', pc'.starts a' = pc.starts a')
    (hpipe : pc'.pipe = pc.pipe) : StartOutcome pc a pc'

theorem startOutcome_pipeStart (s : DeviceState) (k : Fin 32) (a : StartAnswers) :
    StartOutcome (s.pipes k) a ((pipeStart s k false a).1.pipes k) := by
  have hs := pipeStarted_pipeStart s k false a
  generalize (pipeStart s k false a).1 = s' at hs
  cases hs with
  | refused hvalid => exact .stays hvalid
  | noPipe hvalid hstart =>
    exact .fails _ hvalid (by simp [PipeContext.starts, hstart]) hvalid (fun _ => rfl) rfl
  | noQueue queues hvalid hstart hneeds hcreates hget =>
    rw [DeviceState.pipes_setPipe, Function.update_self]
    refine .fails _ hvalid (by simp [PipeContext.starts, hneeds, hcreates]) rfl (fun a' => ?_) rfl
    unfold PipeContext.starts
    rw [hneeds]
    rfl
  | created hvalid hstart hneeds hcreates =>
    rw [DeviceState.pipes_setPipe, Function.update_self]
    exact .goesThrough _ hvalid (by simp [PipeContext.starts, hstart, hcreates])
      (by simp [StartAnswers.starts]) rfl rfl
  | kept hvalid hstart hneeds =>
    rw [DeviceState.pipes_setPipe, Function.update_self]
    refine .goesThrough _ hvalid (by simp [PipeContext.starts, hstart, hneeds])
      (by simp [StartAnswers.starts]) ?_ rfl
    unfold PipeContext.needsQueue at hneeds
    cases hq : (s.pipes k).queue with
    | none => simp [hq] at hneeds
    | some q => rfl

/-- A valid pipe stays as it is while pipes are started. -/
theorem pipes_startPipes_of_valid (start : ℕ → StartAnswers) (ks : List (Fin 32))
    {s : DeviceState} {k : Fin 32} (n : ℕ) (hvalid : (s.pipes k).isValid = true) :
    (startPipes start false s n ks).pipes k = s.pipes k := by
  induction ks generalizing s n with
  | nil => rfl
  | cons k' ks ih =>
    have hsame : (pipeStart s k' false (start n)).1.pipes k = s.pipes k := by
      by_cases hk : k = k'
      · subst hk
        unfold pipeStart
        rw [if_pos hvalid]
      · exact pipes_pipeStart_of_ne s hk false (start n)
    exact (ih (n + 1) (hsame ▸ hvalid)).trans hsame

/-- A pipe that is not valid becomes valid exactly when one of the starts the
loop makes for it goes through, and then it has a queue. -/
theorem isValid_startPipes (start : ℕ → StartAnswers) (ks : List (Fin 32))
    {s : DeviceState} {k : Fin 32} (n : ℕ) (hvalid : (s.pipes k).isValid = false) :
    (((startPipes start false s n ks).pipes k).isValid = true ↔
        ∃ j, ks[j]? = some k ∧ (s.pipes k).starts (start (n + j)) = true) ∧
      (((startPipes start false s n ks).pipes k).isValid = true →
        ((startPipes start false s n ks).pipes k).queue.isSome = true) ∧
      ((startPipes start false s n ks).pipes k).pipe = (s.pipes k).pipe := by
  induction ks generalizing s n with
  | nil =>
    simp only [startPipes]
    exact ⟨⟨fun h => by simp [hvalid] at h, fun ⟨j, hj, _⟩ => by simp at hj⟩,
      fun h => by simp [hvalid] at h, trivial⟩
  | cons k' ks ih =>
    have hshift : (∃ j, (k' :: ks)[j]? = some k ∧ (s.pipes k).starts (start (n + j)) = true) ↔
        (k' = k ∧ (s.pipes k).starts (start n) = true) ∨
          ∃ j, ks[j]? = some k ∧ (s.pipes k).starts (start (n + 1 + j)) = true := by
      constructor
      · rintro ⟨j, hj, hstarts⟩
        cases j with
        | zero => exact .inl ⟨by simpa using hj, hstarts⟩
        | succ j =>
          exact .inr ⟨j, by simpa using hj, by rwa [show n + 1 + j = n + (j + 1) by omega]⟩
      · rintro (⟨hk, hstarts⟩ | ⟨j, hj, hstarts⟩)
        · exact ⟨0, by simp [hk], hstarts⟩
        · exact ⟨j + 1, by simpa using hj, by rwa [show n + (j + 1) = n + 1 + j by omega]⟩
    rw [hshift]
    simp only [startPipes]
    by_cases hk : k' = k
    · subst hk
      have hout := startOutcome_pipeStart s k' (start n)
      generalize hs' : (pipeStart s k' false (start n)).1 = s' at hout ⊢
      generalize hpc : s'.pipes k' = pc at hout
      cases hout with
      | stays h => simp [hvalid] at h
      | goesThrough _ _ hstarts hvalid' hqueue' hpipe =>
        rw [pipes_startPipes_of_valid start ks (n + 1) (by rw [hpc, hvalid']), hpc]
        exact ⟨iff_of_true hvalid' (.inl ⟨rfl, hstarts⟩), fun _ => hqueue', hpipe⟩
      | fails _ _ hstarts hvalid' hsame hpipe =>
        obtain ⟨hiff, hqueue, hpipe'⟩ :=
          ih (n + 1) (by rw [hpc, hvalid'] : (s'.pipes k').isValid = false)
        rw [hpc] at hiff hpipe'
        refine ⟨hiff.trans ?_, hqueue, hpipe'.trans hpipe⟩
        simp [hsame, hstarts]
    · have hsame := pipes_pipeStart_of_ne s (Ne.symm hk) false (start n)
      obtain ⟨hiff, hqueue, hpipe⟩ := ih (n + 1) (by rw [hsame, hvalid] :
        ((pipeStart s k' false (start n)).1.pipes k).isValid = false)
      rw [hsame] at hiff hpipe
      exact ⟨by simpa [hk] using hiff, hqueue, hpipe⟩

/-! ### All or nothing -/

/-- A pipe that can be used: valid, with a pipe and a queue. -/
def PipeContext.IsReady (pc : PipeContext) : Prop :=
  pc.isValid = true ∧ pc.pipe.isSome = true ∧ pc.queue.isSome = true

/-- The interface context describes the setting the framework has configured. -/
def InterfaceContext.Describes (ic : InterfaceContext) (a : InterfaceAnswers) : Prop :=
  ic.settingIndex = a.configuredSettingIndex ∧
    ic.interfaceDescriptor = a.descriptor a.configuredSettingIndex ∧
      ic.pipeContextByIndex.map some = a.slots

/-- The change is all or nothing.  If it reports success, the interface context
describes the setting that is now selected and every pipe of it is ready; if it
reports failure because the setting could not be selected, no setting index has
changed and every pipe that was valid is valid again. -/
def AllOrNothing (s : DeviceState) (intf : InterfaceRequest) (a : InterfaceAnswers) : Prop :=
  let r := interfaceSetAltSetting s intf a
  (ntSuccess r.2 = true →
    ∃ i, getInterfaceContextFromRequest s intf = .ok i ∧ (r.1.interfaces i).Describes a ∧
      ∀ k ∈ (r.1.interfaces i).pipeContextByIndex, (r.1.pipes k).IsReady) ∧
  (ntSuccess r.2 = false → ntSuccess a.selectSetting = false →
    (∀ j, (r.1.interfaces j).settingIndex = (s.interfaces j).settingIndex) ∧
      ∀ k, (s.pipes k).isValid = true → (r.1.pipes k).isValid = true)

/-- The setting could not be selected, and every pipe of the interface that was
valid can be started again: one of the starts made for it goes through. -/
def RestartsOld (s : DeviceState) (i : ℕ) (a : InterfaceAnswers) : Prop :=
  ∀ k ∈ (s.interfaces i).pipeContextByIndex, (s.pipes k).isValid = true →
    ∃ j, (s.interfaces i).pipeContextByIndex[j]? = some k ∧ (s.pipes k).starts (a.start j) = true

/-- The old queue of the slot `k` outlives the change: its endpoint number is
zero, or it was no pipe of the interface and is not dirty. -/
def KeepsQueue (s : DeviceState) (i : ℕ) (a : InterfaceAnswers) (k : Fin 32) : Prop :=
  (s.pipes k).queue.isSome = true ∧
    ¬(k ∈ (s.interfaces i).pipeContextByIndex ∧ (s.pipes k).pipeInformation.hasNumber = true) ∧
      ¬((infoAfter a.configuredPipes k (s.pipes k).pipeInformation).hasNumber = true ∧
        (s.pipes k).isQueueDirty = true)

/-- The slot `k` is valid for another interface, which keeps it so. -/
def ValidElsewhere (s : DeviceState) (i : ℕ) (k : Fin 32) : Prop :=
  k ∉ (s.interfaces i).pipeContextByIndex ∧ (s.pipes k).isValid = true

/-- Every pipe of the new setting gets a queue: it keeps one, or one of the
starts made for it creates one. -/
def StartsNew (s : DeviceState) (i : ℕ) (a : InterfaceAnswers) : Prop :=
  ∀ k, some k ∈ a.slots →
    (ValidElsewhere s i k → (s.pipes k).queue.isSome = true) ∧
      (¬ValidElsewhere s i k → KeepsQueue s i a k ∨
        ∃ j, a.slots[j]? = some (some k) ∧
          (a.start j).creates (infoAfter a.configuredPipes k (s.pipes k).pipeInformation) = true)

/-- The inputs on which the change is all or nothing: the request names no
interface or setting; or the setting is selected already and in order; or it
cannot be selected and the old pipes start again; or it is selected, and then a
pipe handle is null or every pipe of it gets a queue. -/
def AllOrNothingWhen (s : DeviceState) (intf : InterfaceRequest) (a : InterfaceAnswers) : Prop :=
  ∀ i altIndex, getInterfaceContextFromRequest s intf = .ok i →
    (s.interfaces i).hasInterface = true →
      getInterfaceAltSettingIndexFromRequest intf a = .ok altIndex →
        if (s.interfaces i).settingIndex = altIndex then
          (s.interfaces i).Describes a ∧
            ∀ k ∈ (s.interfaces i).pipeContextByIndex, (s.pipes k).IsReady
        else if ntSuccess a.selectSetting = false then RestartsOld s i a
        else none ∈ a.configuredPipes ∨ StartsNew s i a

@[simp] theorem ntSuccess_STATUS_SUCCESS : ntSuccess STATUS_SUCCESS = true := by decide

/-! ### The setting cannot be selected -/

theorem changeAltSetting_of_not_selected {s : DeviceState} {i : ℕ} {a : InterfaceAnswers}
    (h : ntSuccess a.selectSetting = false) :
    changeAltSetting s i a =
      (startPipes a.start false (stopPipes s (s.interfaces i).pipeContextByIndex) 0
        (s.interfaces i).pipeContextByIndex, a.selectSetting) := by
  unfold changeAltSetting interfaceStart interfaceStop
  rw [if_neg (by simp), if_pos (by simp [h])]
  dsimp only
  rw [interfaces_stopPipes]

/-- The old pipes are valid again exactly when they can be started again. -/
theorem valid_again_iff {s : DeviceState} {i : ℕ} {a : InterfaceAnswers} :
    (∀ k, (s.pipes k).isValid = true →
      ((startPipes a.start false (stopPipes s (s.interfaces i).pipeContextByIndex) 0
        (s.interfaces i).pipeContextByIndex).pipes k).isValid = true) ↔ RestartsOld s i a := by
  have hold (k : Fin 32) (hk : k ∈ (s.interfaces i).pipeContextByIndex) :
      ((startPipes a.start false (stopPipes s (s.interfaces i).pipeContextByIndex) 0
        (s.interfaces i).pipeContextByIndex).pipes k).isValid = true ↔
        ∃ j, (s.interfaces i).pipeContextByIndex[j]? = some k ∧
          (s.pipes k).starts (a.start j) = true := by
    have hstopped := pipes_stopPipes s (s.interfaces i).pipeContextByIndex k
    rw [if_pos hk] at hstopped
    have hiff := (isValid_startPipes a.start (s.interfaces i).pipeContextByIndex
      (s := stopPipes s (s.interfaces i).pipeContextByIndex) (k := k) 0 (by rw [hstopped])).1
    rw [hiff, hstopped]
    simp only [Nat.zero_add]
    exact Iff.rfl
  constructor
  · intro h k hk hvalid
    exact (hold k hk).mp (h k hvalid)
  · intro h k hvalid
    by_cases hk : k ∈ (s.interfaces i).pipeContextByIndex
    · exact (hold k hk).mpr (h k hk hvalid)
    · have hstopped := pipes_stopPipes s (s.interfaces i).pipeContextByIndex k
      rw [if_neg hk] at hstopped
      rw [pipes_startPipes_of_valid a.start _ 0 (by rw [hstopped, hvalid]), hstopped, hvalid]

/-! ### The setting is selected -/

/-- The state in which the pipes of the new setting are read back. -/
def beforeInit (s : DeviceState) (i : ℕ) (a : InterfaceAnswers) : DeviceState :=
  interfaceDeletePipesAndQueues ((interfaceStop s i).1.setInterface i
    { (interfaceStop s i).1.interfaces i with settingIndex := a.configuredSettingIndex }) i

theorem interfaces_beforeInit (s : DeviceState) (i : ℕ) (a : InterfaceAnswers) :
    (beforeInit s i a).interfaces =
      Function.update s.interfaces i { s.interfaces i with
        settingIndex := a.configuredSettingIndex, pipeContextByIndex := [] } := by
  unfold beforeInit interfaceDeletePipesAndQueues interfaceStop
  simp [interfaces_stopPipes, interfaces_deletePipes]

/-- The pipes of the old setting are stopped and have lost their pipe handles
and, unless the endpoint number is zero, their queues. -/
theorem pipes_beforeInit (s : DeviceState) (i : ℕ) (a : InterfaceAnswers) (k : Fin 32) :
    (beforeInit s i a).pipes k =
      if k ∈ (s.interfaces i).pipeContextByIndex then
        deletedPipe { s.pipes k with isValid := false }
      else s.pipes k := by
  unfold beforeInit interfaceDeletePipesAndQueues interfaceStop
  simp only [DeviceState.interfaces_setInterface, Function.update_self, interfaces_stopPipes,
    DeviceState.pipes_setInterface, pipes_deletePipes, pipes_stopPipes]
  split_ifs <;> rfl

theorem changeAltSetting_eq {s : DeviceState} {i : ℕ} {a : InterfaceAnswers}
    (h : ntSuccess a.selectSetting = true) : changeAltSetting s i a =
      if !ntSuccess (interfaceInitContext (beforeInit s i a) i a).2 then
        interfaceInitContext (beforeInit s i a) i a
      else interfaceStart (interfaceInitContext (beforeInit s i a) i a).1 i a.start := by
  unfold changeAltSetting settingSelected
  rw [if_neg (by simp [interfaceStop]), if_neg (by simp [h])]
  rfl

/-- Reading a setting back stores it, with the pipes there are before a null one. -/
theorem interfaceInitContext_eq {s : DeviceState} {i : ℕ} {a : InterfaceAnswers}
    (hif : (s.interfaces i).hasInterface = true) :
    interfaceInitContext s i a =
      ((initPipes s a.configuredPipes).1.setInterface i
        { s.interfaces i with
          settingIndex := a.configuredSettingIndex
          interfaceDescriptor := a.descriptor a.configuredSettingIndex
          pipeContextByIndex := (initPipes s a.configuredPipes).2.1 },
        (initPipes s a.configuredPipes).2.2) := by
  unfold interfaceInitContext
  dsimp only
  rw [if_neg (by simp [hif])]

theorem interfaceInitContext_beforeInit {s : DeviceState} {i : ℕ} {a : InterfaceAnswers}
    (hif : (s.interfaces i).hasInterface = true) :
    interfaceInitContext (beforeInit s i a) i a =
      ((initPipes (beforeInit s i a) a.configuredPipes).1.setInterface i
        { s.interfaces i with
          settingIndex := a.configuredSettingIndex
          interfaceDescriptor := a.descriptor a.configuredSettingIndex
          pipeContextByIndex := (initPipes (beforeInit s i a) a.configuredPipes).2.1 },
        (initPipes (beforeInit s i a) a.configuredPipes).2.2) := by
  have hself : (beforeInit s i a).interfaces i =
      { s.interfaces i with
        settingIndex := a.configuredSettingIndex, pipeContextByIndex := [] } := by
    rw [interfaces_beforeInit, Function.update_self]
  rw [interfaceInitContext_eq (by rw [hself]; exact hif), hself]

/-- A setting that is selected: either a pipe handle is null and the call fails,
or it succeeds, having read the pipes back and tried to start each. -/
theorem changeAltSetting_of_selected {s : DeviceState} {i : ℕ} {a : InterfaceAnswers}
    (hif : (s.interfaces i).hasInterface = true) (h : ntSuccess a.selectSetting = true) :
    (none ∈ a.configuredPipes ∧ ntSuccess (changeAltSetting s i a).2 = false) ∨
      (none ∉ a.configuredPipes ∧ (changeAltSetting s i a).2 = STATUS_SUCCESS ∧
        ((changeAltSetting s i a).1.interfaces i).Describes a ∧
          ∃ s', s'.pipes = (initPipes (beforeInit s i a) a.configuredPipes).1.pipes ∧
            (changeAltSetting s i a).1.pipes =
              (startPipes a.start false s' 0
                ((changeAltSetting s i a).1.interfaces i).pipeContextByIndex).pipes) := by
  rw [changeAltSetting_eq h, interfaceInitContext_beforeInit hif]
  by_cases hnone : none ∈ a.configuredPipes
  · refine .inl ⟨hnone, ?_⟩
    rw [initPipes_of_none hnone]
    rfl
  · obtain ⟨hstatus, hslots⟩ := initPipes_of_some hnone (beforeInit s i a)
    refine .inr ⟨hnone, ?_⟩
    rw [hstatus, if_neg (by simp)]
    unfold interfaceStart
    simp only [interfaces_startPipes, DeviceState.interfaces_setInterface, Function.update_self]
    refine ⟨trivial, ⟨rfl, rfl, hslots⟩, _, ?_, rfl⟩
    rfl

theorem mem_iff_of_map_some {α : Type*} {ks : List α} {l : List (Option α)}
    (h : ks.map some = l) (k : α) : k ∈ ks ↔ some k ∈ l := by
  rw [← h]
  simp

theorem getElem?_iff_of_map_some {α : Type*} {ks : List α} {l : List (Option α)}
    (h : ks.map some = l) (k : α) (j : ℕ) : ks[j]? = some k ↔ l[j]? = some (some k) := by
  rw [← h]
  simp

/-- What is left in the slot `k` when the pipes of the new setting are started. -/
theorem readBack_beforeInit {s : DeviceState} {i : ℕ} {a : InterfaceAnswers}
    (h : none ∉ a.configuredPipes) (k : Fin 32) :
    ReadBack a.configuredPipes k
      (if k ∈ (s.interfaces i).pipeContextByIndex then
        deletedPipe { s.pipes k with isValid := false } else s.pipes k)
      ((initPipes (beforeInit s i a) a.configuredPipes).1.pipes k) := by
  rw [← pipes_beforeInit s i a k]
  exact readBack_initPipes h (beforeInit s i a) k

/-- A slot of the new setting that is not valid elsewhere can be started once its
queue can be kept or made. -/
theorem starts_readBack {s : DeviceState} {i : ℕ} {a : InterfaceAnswers} {k : Fin 32}
    {pc : PipeContext} (hk : some k ∈ a.slots)
    (h : ReadBack a.configuredPipes k
      (if k ∈ (s.interfaces i).pipeContextByIndex then
        deletedPipe { s.pipes k with isValid := false } else s.pipes k) pc)
    (b : StartAnswers) :
    pc.starts b = true ↔ KeepsQueue s i a k ∨
      b.creates (infoAfter a.configuredPipes k (s.pipes k).pipeInformation) = true := by
  have hstart : pc.canStart = true := by
    unfold PipeContext.canStart
    rw [h.pipe hk]
    rfl
  have hinfo : ∀ info : PipeInformation,
      info.needsOverMem =
        (infoAfter a.configuredPipes k (s.pipes k).pipeInformation).needsOverMem →
      b.creates info = b.creates (infoAfter a.configuredPipes k (s.pipes k).pipeInformation) := by
    intro info hmem
    unfold StartAnswers.creates
    rw [hmem]
  have hcreates := hinfo pc.pipeInformation
  unfold PipeContext.starts PipeContext.needsQueue KeepsQueue
  by_cases hold : k ∈ (s.interfaces i).pipeContextByIndex
  · rw [if_pos hold] at h
    rw [hstart, hcreates h.needsOverMem, h.queue, h.isQueueDirty, h.hasNumber]
    unfold deletedPipe
    cases (s.pipes k).queue <;> cases (s.pipes k).pipeInformation.hasNumber <;>
      cases (infoAfter a.configuredPipes k (s.pipes k).pipeInformation).hasNumber <;>
      cases (s.pipes k).isQueueDirty <;> simp [hold]
  · rw [if_neg hold] at h
    rw [hstart, hcreates h.needsOverMem, h.queue, h.isQueueDirty, h.hasNumber]
    cases (s.pipes k).queue <;>
      cases (infoAfter a.configuredPipes k (s.pipes k).pipeInformation).hasNumber <;>
      cases (s.pipes k).isQueueDirty <;> simp [hold]

/-- The pipes of the new setting end up ready exactly when each gets a queue. -/
theorem ready_startPipes_iff {s s' : DeviceState} {i : ℕ} {a : InterfaceAnswers}
    {ks : List (Fin 32)} (hnone : none ∉ a.configuredPipes) (hks : ks.map some = a.slots)
    (hpipes : s'.pipes = (initPipes (beforeInit s i a) a.configuredPipes).1.pipes) :
    (∀ k ∈ ks, ((startPipes a.start false s' 0 ks).pipes k).IsReady) ↔ StartsNew s i a := by
  have hslot : ∀ k ∈ ks, ((startPipes a.start false s' 0 ks).pipes k).IsReady ↔
      (ValidElsewhere s i k → (s.pipes k).queue.isSome = true) ∧
      (¬ValidElsewhere s i k → KeepsQueue s i a k ∨
        ∃ j, a.slots[j]? = some (some k) ∧
          (a.start j).creates
            (infoAfter a.configuredPipes k (s.pipes k).pipeInformation) = true) := by
    intro k hk
    have hin := (mem_iff_of_map_some hks k).mp hk
    have hread := readBack_beforeInit (s := s) (i := i) hnone k
    rw [← hpipes] at hread
    have hpipe := hread.pipe hin
    by_cases helse : ValidElsewhere s i k
    · obtain ⟨hold, hvalid⟩ := id helse
      have hread' := hread
      rw [if_neg hold] at hread'
      have hv : (s'.pipes k).isValid = true := hread'.isValid.trans hvalid
      rw [pipes_startPipes_of_valid a.start ks 0 hv]
      unfold PipeContext.IsReady
      rw [hv, hpipe, hread'.queue]
      simp [helse]
    · have hv : (s'.pipes k).isValid = false := by
        rw [hread.isValid]
        by_cases hold : k ∈ (s.interfaces i).pipeContextByIndex
        · rw [if_pos hold]
          rfl
        · rw [if_neg hold]
          simpa [ValidElsewhere, hold] using helse
      obtain ⟨hiff, hqueue, hsame⟩ := isValid_startPipes a.start ks (s := s') (k := k) 0 hv
      have hready : ((startPipes a.start false s' 0 ks).pipes k).IsReady ↔
          ((startPipes a.start false s' 0 ks).pipes k).isValid = true :=
        ⟨fun h => h.1, fun h => ⟨h, by rw [hsame, hpipe], hqueue h⟩⟩
      rw [hready, hiff, and_iff_right fun h => absurd h helse]
      simp only [Nat.zero_add, starts_readBack hin hread]
      constructor
      · rintro ⟨j, hj, hkeeps | hcreates⟩ _
        · exact .inl hkeeps
        · exact .inr ⟨j, (getElem?_iff_of_map_some hks k j).mp hj, hcreates⟩
      · intro h
        rcases h helse with hkeeps | ⟨j, hj, hcreates⟩
        · obtain ⟨j, hj⟩ := List.getElem?_of_mem hk
          exact ⟨j, hj, .inl hkeeps⟩
        · exact ⟨j, (getElem?_iff_of_map_some hks k j).mpr hj, .inr hcreates⟩
  constructor
  · intro h k hk
    have hmem := (mem_iff_of_map_some hks k).mpr hk
    exact (hslot k hmem).mp (h k hmem)
  · intro h k hk
    exact (hslot k hk).mpr (h k ((mem_iff_of_map_some hks k).mp hk))

/-! ### The exact condition -/

/-- A call that leaves the state as it was and succeeds is all or nothing exactly
when the interface is in order already. -/
theorem allOrNothing_of_unchanged_success {s : DeviceState} {intf : InterfaceRequest}
    {a : InterfaceAnswers} {i : ℕ} (hi : getInterfaceContextFromRequest s intf = .ok i)
    (h : interfaceSetAltSetting s intf a = (s, STATUS_SUCCESS)) :
    AllOrNothing s intf a ↔ (s.interfaces i).Describes a ∧
      ∀ k ∈ (s.interfaces i).pipeContextByIndex, (s.pipes k).IsReady := by
  unfold AllOrNothing
  rw [h]
  constructor
  · rintro ⟨hsuccess, -⟩
    obtain ⟨i', hi', hrest⟩ := hsuccess (by simp)
    obtain rfl : i = i' := Except.ok.inj (hi.symm.trans hi')
    exact hrest
  · exact fun hrest => ⟨fun _ => ⟨i, hi, hrest⟩, fun hfail => absurd hfail (by simp)⟩

/-- A call that fails and leaves the state as it was is all or nothing. -/
theorem allOrNothing_of_unchanged_failure {s : DeviceState} {intf : InterfaceRequest}
    {a : InterfaceAnswers} {status : NTSTATUS} (hfail : ntSuccess status = false)
    (h : interfaceSetAltSetting s intf a = (s, status)) : AllOrNothing s intf a := by
  unfold AllOrNothing
  rw [h]
  exact ⟨fun hok => absurd hok (by simp [hfail]), fun _ _ => ⟨fun _ => rfl, fun _ hk => hk⟩⟩

theorem not_ntSuccess_of_getInterfaceContextFromRequest {s : DeviceState}
    {intf : InterfaceRequest} {status : NTSTATUS}
    (h : getInterfaceContextFromRequest s intf = .error status) : ntSuccess status = false := by
  unfold getInterfaceContextFromRequest at h
  by_cases hconf : s.device.usbConfigurationDescriptor = []
  · rw [if_pos hconf] at h
    cases h
    rfl
  · rw [if_neg hconf] at h
    dsimp only at h
    generalize (if intf.intfUseIndex = true then _ else _ : Option ℕ) = found at h
    cases found with
    | none =>
      cases h
      rfl
    | some i => cases h

theorem not_ntSuccess_of_getInterfaceAltSettingIndexFromRequest {intf : InterfaceRequest}
    {a : InterfaceAnswers} {status : NTSTATUS}
    (h : getInterfaceAltSettingIndexFromRequest intf a = .error status) :
    ntSuccess status = false := by
  unfold getInterfaceAltSettingIndexFromRequest at h
  dsimp only at h
  generalize (if intf.altfUseIndex = true then _ else _ : UInt8) = altIndex at h
  split_ifs at h <;> cases h <;> rfl

/-- A request that finds an interface and a setting. -/
structure Found (s : DeviceState) (intf : InterfaceRequest) (a : InterfaceAnswers) (i : ℕ)
    (altIndex : UInt8) : Prop where
  interface : getInterfaceContextFromRequest s intf = .ok i
  hasInterface : (s.interfaces i).hasInterface = true
  setting : getInterfaceAltSettingIndexFromRequest intf a = .ok altIndex

/-- A request that finds none fails and changes nothing. -/
theorem interfaceSetAltSetting_of_not_found {s : DeviceState} {intf : InterfaceRequest}
    {a : InterfaceAnswers} (h : ∀ i altIndex, ¬Found s intf a i altIndex) :
    ∃ status, ntSuccess status = false ∧ interfaceSetAltSetting s intf a = (s, status) := by
  unfold interfaceSetAltSetting
  cases hi : getInterfaceContextFromRequest s intf with
  | error status => exact ⟨status, not_ntSuccess_of_getInterfaceContextFromRequest hi, rfl⟩
  | ok i =>
    cases hif : (s.interfaces i).hasInterface with
    | false => exact ⟨STATUS_NO_MORE_ENTRIES, rfl, by simp [hif]⟩
    | true =>
      cases halt : getInterfaceAltSettingIndexFromRequest intf a with
      | error status =>
        refine ⟨status, not_ntSuccess_of_getInterfaceAltSettingIndexFromRequest halt, ?_⟩
        simp [hif]
      | ok altIndex => exact absurd ⟨hi, hif, halt⟩ (h i altIndex)

section
variable {s : DeviceState} {intf : InterfaceRequest} {a : InterfaceAnswers} {i : ℕ}
  {altIndex : UInt8} (h : Found s intf a i altIndex)

include h

theorem Found.interfaceSetAltSetting_eq : interfaceSetAltSetting s intf a =
    if (s.interfaces i).settingIndex = altIndex then (s, STATUS_SUCCESS)
    else changeAltSetting s i a := by
  unfold interfaceSetAltSetting
  simp [h.interface, h.hasInterface, h.setting]

theorem Found.allOrNothingWhen_iff : AllOrNothingWhen s intf a ↔
    if (s.interfaces i).settingIndex = altIndex then
      (s.interfaces i).Describes a ∧
        ∀ k ∈ (s.interfaces i).pipeContextByIndex, (s.pipes k).IsReady
    else if ntSuccess a.selectSetting = false then RestartsOld s i a
    else none ∈ a.configuredPipes ∨ StartsNew s i a := by
  constructor
  · intro hwhen
    exact hwhen i altIndex h.interface h.hasInterface h.setting
  · intro hwhen i' altIndex' hi' _ halt'
    obtain rfl : i = i' := Except.ok.inj (h.interface.symm.trans hi')
    obtain rfl : altIndex = altIndex' := Except.ok.inj (h.setting.symm.trans halt')
    exact hwhen

/-- If the setting cannot be selected, all depends on the old pipes. -/
theorem Found.allOrNothing_of_not_selected (hne : (s.interfaces i).settingIndex ≠ altIndex)
    (hselect : ntSuccess a.selectSetting = false) :
    AllOrNothing s intf a ↔ RestartsOld s i a := by
  unfold AllOrNothing
  rw [h.interfaceSetAltSetting_eq, if_neg hne, changeAltSetting_of_not_selected hselect,
    ← valid_again_iff]
  dsimp only
  rw [interfaces_startPipes, interfaces_stopPipes]
  constructor
  · rintro ⟨-, hfail⟩
    exact (hfail hselect hselect).2
  · intro hvalid
    exact ⟨fun hok => absurd hok (by simp [hselect]), fun _ _ => ⟨fun _ => rfl, hvalid⟩⟩

/-- If the setting is selected, all depends on the new pipes. -/
theorem Found.allOrNothing_of_selected (hne : (s.interfaces i).settingIndex ≠ altIndex)
    (hselect : ntSuccess a.selectSetting = true) :
    AllOrNothing s intf a ↔ none ∈ a.configuredPipes ∨ StartsNew s i a := by
  unfold AllOrNothing
  rw [h.interfaceSetAltSetting_eq, if_neg hne]
  dsimp only
  rcases changeAltSetting_of_selected h.hasInterface hselect with
    ⟨hnone, hfail⟩ | ⟨hnone, hok, hdescribes, s', hpipes, hstarted⟩
  · refine iff_of_true ⟨fun hsuccess => ?_, fun _ hnot => ?_⟩ (.inl hnone)
    · simp [hfail] at hsuccess
    · simp [hselect] at hnot
  · have hready := ready_startPipes_iff hnone hdescribes.2.2 hpipes
    rw [← hstarted] at hready
    rw [or_iff_right hnone, ← hready]
    constructor
    · rintro ⟨hsuccess, -⟩
      obtain ⟨i', hi', -, hrest⟩ := hsuccess (by simp [hok])
      obtain rfl : i = i' := Except.ok.inj (h.interface.symm.trans hi')
      exact hrest
    · intro hrest
      exact ⟨fun _ => ⟨i, h.interface, hdescribes, hrest⟩, fun hfail => by simp [hok] at hfail⟩

end

/-- **All or nothing, and exactly when.**  For every interface, request and
outcome of the framework calls, the change of an alternate setting is all or
nothing precisely when `AllOrNothingWhen` holds. -/
theorem setAltSetting_allOrNothing_iff (s : DeviceState) (intf : InterfaceRequest)
    (a : InterfaceAnswers) : AllOrNothing s intf a ↔ AllOrNothingWhen s intf a := by
  by_cases hfound : ∃ i altIndex, Found s intf a i altIndex
  · obtain ⟨i, altIndex, h⟩ := hfound
    rw [h.allOrNothingWhen_iff]
    by_cases heq : (s.interfaces i).settingIndex = altIndex
    · rw [if_pos heq]
      apply allOrNothing_of_unchanged_success h.interface
      rw [h.interfaceSetAltSetting_eq, if_pos heq]
    · rw [if_neg heq]
      cases hselect : ntSuccess a.selectSetting with
      | false => exact h.allOrNothing_of_not_selected heq hselect
      | true => exact h.allOrNothing_of_selected heq hselect
  · have hnot : ∀ i altIndex, ¬Found s intf a i altIndex :=
      fun i altIndex h => hfound ⟨i, altIndex, h⟩
    obtain ⟨status, hfail, heq⟩ := interfaceSetAltSetting_of_not_found hnot
    refine iff_of_true (allOrNothing_of_unchanged_failure hfail heq) ?_
    intro i altIndex hi hif halt
    exact absurd ⟨hi, hif, halt⟩ (hnot i altIndex)

/-- A device with one interface, set up, with no pipe and two settings. -/
def oneInterface : DeviceState where
  device := { usbConfigurationDescriptor := [9] }
  interfaces := fun _ => { hasInterface := true }
  interfaceCount := 1

/-- The setting 1 is selected, it has a bulk pipe, and there is no memory for
the queue of the pipe. -/
def noQueueForPipe : InterfaceAnswers where
  numSettings := 2
  descriptor := fun j => { bAlternateSetting := j }
  configuredSettingIndex := 1
  configuredPipes :=
    [some (1,
      { pipeType := .bulk, endpointAddress := 0x81, maximumPacketSize := 64, interval := 0,
        maximumTransferSize := 4096 })]
  start := fun _ => { queueCreate := STATUS_INSUFFICIENT_RESOURCES }

/-- Success is reported although the pipe of the new setting has no queue. -/
theorem not_allOrNothing_noQueueForPipe :
    ¬AllOrNothing oneInterface { altsettingNumber := 1 } noQueueForPipe := by
  rintro ⟨hsuccess, -⟩
  have hok : ntSuccess (interfaceSetAltSetting oneInterface { altsettingNumber := 1 }
      noQueueForPipe).2 = true := by decide
  obtain ⟨i, hi, -, hready⟩ := hsuccess hok
  obtain rfl : 0 = i := Except.ok.inj hi
  have hmem : (17 : Fin 32) ∈ ((interfaceSetAltSetting oneInterface { altsettingNumber := 1 }
      noQueueForPipe).1.interfaces 0).pipeContextByIndex := by decide
  have hvalid : ((interfaceSetAltSetting oneInterface { altsettingNumber := 1 }
      noQueueForPipe).1.pipes 17).isValid = false := by decide
  have := (hready 17 hmem).1
  rw [hvalid] at this
  cases this

end LibusbK
