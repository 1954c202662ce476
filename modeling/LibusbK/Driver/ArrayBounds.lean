import LibusbK.Driver.SettingRequests

/-!
# The arrays of the device context

`DEVICE_CONTEXT` has room for `LIBUSB_MAX_INTERFACE_COUNT` interface contexts and
each of them for `LIBUSB_MAX_ENDPOINT_COUNT` pipes.  How many of these there are
is up to the device: `Device_Configure` stores the number of interfaces and
`Interface_InitContext` the number of configured pipes, as the framework answers
them, and every loop over interfaces or pipes runs up to these counts.  Neither
is compared with the size of its array.

`GetPipeContextByID` masks its index.

The indexes a routine uses are listed beside the routine, in the order it uses
them.

## Main definitions

* `ArrayAccess`, `InBounds` — an element of an array, and when it exists.
* `StartedDevice.accesses` — the elements an operation reads or writes.
* `arrayMachine` — the operations on a device whose preparation has succeeded.
* `DeviceFits` — the operation stores no count above the size of its array.

## Main results

* `inBounds_accesses_iff` — when one operation stays inside the arrays.
* `arrayMachine_inBounds_iff` — a run stays inside the arrays if and only if all
  its operations fit.
-/

namespace LibusbK

/-- `LIBUSB_MAX_INTERFACE_COUNT`. -/
abbrev LIBUSB_MAX_INTERFACE_COUNT : ℕ := 32

/-- `LIBUSB_MAX_ENDPOINT_COUNT`. -/
abbrev LIBUSB_MAX_ENDPOINT_COUNT : ℕ := 32

/-! ### Accesses -/

/-- An element of `InterfaceContext`, of the `PipeContextByIndex` of an interface,
or of `PipeContextByID`. -/
inductive ArrayAccess
  | interfaceContext (interfaceIndex : ℕ)
  | pipeContextByIndex (interfaceIndex pipeIndex : ℕ)
  | pipeContextByID (slot : ℕ)
  deriving DecidableEq, Repr

/-- The index is below the declared size of its array. -/
def ArrayAccess.InBounds : ArrayAccess → Prop
  | .interfaceContext interfaceIndex => interfaceIndex < LIBUSB_MAX_INTERFACE_COUNT
  | .pipeContextByIndex _ pipeIndex => pipeIndex < LIBUSB_MAX_ENDPOINT_COUNT
  | .pipeContextByID slot => slot < LIBUSB_MAX_ENDPOINT_COUNT

instance : DecidablePred ArrayAccess.InBounds
  | .interfaceContext _ => inferInstanceAs (Decidable (_ < _))
  | .pipeContextByIndex _ _ => inferInstanceAs (Decidable (_ < _))
  | .pipeContextByID _ => inferInstanceAs (Decidable (_ < _))

/-- All accesses of a routine are inside their arrays. -/
def InBounds (accesses : List ArrayAccess) : Prop := ∀ access ∈ accesses, access.InBounds

/-- The index `GetPipeContextByID` computes. -/
def pipeContextIndex (pipeID : UInt8) : ℕ :=
  if pipeID = 0x80 then 0
  else ((pipeID &&& (0xF : UInt8)) ||| ((pipeID &&& (0x80 : UInt8)) >>> 3)).toNat

/-- A loop over the interfaces below `interfaceCount`. -/
def interfaceLoop (interfaceCount : ℕ) : List ArrayAccess :=
  (List.range interfaceCount).map .interfaceContext

/-- A loop over the first `pipeCount` pipes of the interface `i`. -/
def pipeLoop (i pipeCount : ℕ) : List ArrayAccess :=
  (List.range pipeCount).map (.pipeContextByIndex i)

/-- `PipeCount` of the interface `i`. -/
def DeviceState.pipeCount (s : DeviceState) (i : ℕ) : ℕ :=
  (s.interfaces i).pipeContextByIndex.length

/-- A loop over the interfaces with a loop over their pipes in it: `Pipe_AbortAll`,
`Pipe_StopAll`, `Pipe_StartAll`, `Policy_SetAllPipesToDefault`. -/
def allPipesAccesses (s : DeviceState) : List ArrayAccess :=
  (List.range s.interfaceCount).flatMap fun i => .interfaceContext i :: pipeLoop i (s.pipeCount i)

/-! ### Finding an interface -/

/-- `Interface_GetContextByNumber`: the loop ends at the interface it finds. -/
def getContextByNumberAccesses (s : DeviceState) (interfaceNumber : UInt8) : List ArrayAccess :=
  match interfaceGetContextByNumber s interfaceNumber with
  | none => interfaceLoop s.interfaceCount
  | some i => interfaceLoop (i + 1)

/-- `Interface_GetContextByIndex`. -/
def getContextByIndexAccesses (s : DeviceState) (interfaceIndex : UInt8) : List ArrayAccess :=
  (interfaceGetContextByIndex s interfaceIndex).toList.map .interfaceContext

/-- `GetInterfaceContextFromRequest`. -/
def getContextFromRequestAccesses (s : DeviceState) (intf : InterfaceRequest) :
    List ArrayAccess :=
  if s.device.usbConfigurationDescriptor = [] then []
  else if intf.intfUseIndex then
    getContextByIndexAccesses s intf.interfaceIndex.toInt8.toUInt8
  else getContextByNumberAccesses s intf.interfaceNumber.toUInt8

/-! ### Configuring an interface -/

/-- The loop of `Interface_InitContext` from the index `pipeIndex` on. -/
def initPipesAccesses (i : ℕ) : ℕ → List (Option (ℕ × PipeInformation)) → List ArrayAccess
  | _, [] => []
  | _, none :: _ => []
  | pipeIndex, some (_, info) :: rest =>
    .pipeContextByID (pipeContextIndex info.endpointAddress) :: .pipeContextByIndex i pipeIndex ::
      initPipesAccesses i (pipeIndex + 1) rest

/-- `Interface_InitContext`. -/
def initContextAccesses (s : DeviceState) (i : ℕ) (a : InterfaceAnswers) : List ArrayAccess :=
  if !(s.interfaces i).hasInterface then [] else initPipesAccesses i 0 a.configuredPipes

/-- `Interface_InitContext`, and `Interface_Start` if it succeeds. -/
def initAndStartAccesses (s : DeviceState) (i : ℕ) (a : InterfaceAnswers) : List ArrayAccess :=
  let r := interfaceInitContext s i a
  initContextAccesses s i a ++ if !ntSuccess r.2 then [] else pipeLoop i (r.1.pipeCount i)

/-- `Interface_SetAltSetting`, from the point where the setting has been selected. -/
def settingSelectedAccesses (s : DeviceState) (i : ℕ) (a : InterfaceAnswers) :
    List ArrayAccess :=
  let s := s.setInterface i { s.interfaces i with settingIndex := a.configuredSettingIndex }
  pipeLoop i (s.pipeCount i) ++ initAndStartAccesses (interfaceDeletePipesAndQueues s i) i a

/-- `Interface_SetAltSetting`, from the point where the setting differs from the
one that is selected. -/
def changeAltSettingAccesses (s : DeviceState) (i : ℕ) (a : InterfaceAnswers) :
    List ArrayAccess :=
  let r := interfaceStop s i
  pipeLoop i (s.pipeCount i) ++
    if !ntSuccess r.2 then []
    else if !ntSuccess a.selectSetting then pipeLoop i (r.1.pipeCount i)
    else settingSelectedAccesses r.1 i a

/-- `Interface_SetAltSetting`. -/
def setAltSettingAccesses (s : DeviceState) (intf : InterfaceRequest) (a : InterfaceAnswers) :
    List ArrayAccess :=
  getContextFromRequestAccesses s intf ++
    match getInterfaceContextFromRequest s intf with
    | .error _ => []
    | .ok i =>
      if !(s.interfaces i).hasInterface then []
      else
        match getInterfaceAltSettingIndexFromRequest intf a with
        | .error _ => []
        | .ok altsettingIndex =>
          if (s.interfaces i).settingIndex = altsettingIndex then []
          else changeAltSettingAccesses s i a

/-! ### Configuring the device -/

/-- One pass of the loop of `Device_Configure`. -/
def configureInterfaceAccesses (a : ConfigureAnswers) (s : DeviceState) (i : ℕ) :
    List ArrayAccess :=
  .interfaceContext i :: initAndStartAccesses (assignInterface a s i) i (a.interface i)

/-- The loop of `Device_Configure`, with `n` interfaces to go from `i` on. -/
def configureInterfacesAccesses (a : ConfigureAnswers) : ℕ → ℕ → DeviceState → List ArrayAccess
  | 0, _, _ => []
  | n + 1, i, s =>
    let r := configureInterface a s i
    configureInterfaceAccesses a s i ++
      if !ntSuccess r.2 then [] else configureInterfacesAccesses a n (i + 1) r.1

/-- `Device_Configure`. -/
def deviceConfigureAccesses (s : DeviceState) (a : ConfigureAnswers) : List ArrayAccess :=
  let s := s.withInterfaceCount a.numInterfaces.toNat
  if a.numInterfaces ≠ 1 ∧ a.allocates = false then []
  else if !ntSuccess a.selectConfig then []
  else
    let s := s.withInterfaceCount a.numInterfacesAfter.toNat
    let r := pipeInitDefaultContext s a.defaultPipe
    .pipeContextByID (pipeContextIndex 0) ::
      if !ntSuccess r.2 then [] else configureInterfacesAccesses a a.numInterfacesAfter.toNat 0 r.1

/-- `Device_OnPrepareHardware`. -/
def prepareHardwareAccesses (d : UsbDevice) (a : PrepareAnswers) : List ArrayAccess :=
  if d.prepared then []
  else if !ntSuccess a.targetDeviceCreate then []
  else if !ntSuccess a.retrieveInformation then []
  else if !ntSuccess a.fetchConfigDescriptor then []
  else deviceConfigureAccesses { d.state with device := a.device } a.configure

/-! ### The operations of a device -/

/-- `Device_Reset`: the pipes are stopped, then started. -/
def deviceResetAccesses (s : DeviceState) : List ArrayAccess :=
  allPipesAccesses s ++
    allPipesAccesses (forInterfaces (fun s i => stopPipes s (s.interfaces i).pipeContextByIndex) s)

/-- The accesses of an operation on pipes. -/
def PipeOperation.accesses (d : UsbDevice) : PipeOperation → List ArrayAccess
  | .prepareHardware a => prepareHardwareAccesses d a
  | .setAltSetting intf a => setAltSettingAccesses d.state intf a
  | .flushPipe pipeID _ => [.pipeContextByID (pipeContextIndex pipeID)]
  | .refreshForRequest pipeID _ => [.pipeContextByID (pipeContextIndex pipeID)]
  | .resetPipe pipeID _ => [.pipeContextByID (pipeContextIndex pipeID)]
  | .setPolicy pipeID _ _ _ => [.pipeContextByID (pipeContextIndex pipeID)]
  | .resetDevice _ => deviceResetAccesses d.state

/-- The operations that use the arrays: those that change pipes, the search for an
interface that the other interface requests begin with, `Interface_ReleaseAll`,
`Pipe_AbortAll` and `Policy_SetAllPipesToDefault`. -/
inductive ArrayOperation
  | pipe (op : PipeOperation)
  | getContext (intf : InterfaceRequest)
  | releaseAll
  | abortAll
  | setAllPipesToDefault

/-- `Policy_SetAllPipesToDefault`. -/
def policySetAllPipesToDefault (s : DeviceState) : DeviceState :=
  forInterfaces (fun s i => (s.interfaces i).pipeContextByIndex.foldl
    (fun s k => s.setPipe k (policyInitPipe s.device.isHighSpeed (s.pipes k))) s) s

/-- A device; `started` says whether its hardware has been prepared with success. -/
structure StartedDevice where
  device : UsbDevice := {}
  started : Bool := false

namespace StartedDevice

/-- The accesses of an operation. -/
def accesses (d : StartedDevice) : ArrayOperation → List ArrayAccess
  | .pipe op => op.accesses d.device
  | .getContext intf => getContextFromRequestAccesses d.device.state intf
  | .releaseAll => interfaceLoop d.device.state.interfaceCount
  | .abortAll => allPipesAccesses d.device.state
  | .setAllPipesToDefault => allPipesAccesses d.device.state

/-- The device after an operation that does not prepare it. -/
def run (d : StartedDevice) : ArrayOperation → StartedDevice
  | .pipe op => { d with device.state := op.onState d.device.state }
  | .setAllPipesToDefault =>
    { d with device.state := policySetAllPipesToDefault d.device.state }
  | _ => d

end StartedDevice

/-- The device under the operations that use its arrays.  A device whose
preparation fails is not started, and nothing else arrives for it. -/
def arrayMachine : Machine StartedDevice ArrayOperation where
  step d op :=
    match op with
    | .pipe (.prepareHardware a) =>
      if d.device.prepared && !d.started then none
      else
        let r := deviceOnPrepareHardware d.device a
        some ⟨r.1, ntSuccess r.2⟩
    | op => if d.started then some (d.run op) else none

/-! ### When the device fits the arrays -/

/-- The configured pipes before the first null one have room in
`PipeContextByIndex`. -/
def InterfaceAnswers.PipesFit (a : InterfaceAnswers) : Prop :=
  (a.configuredPipes.takeWhile Option.isSome).length ≤ LIBUSB_MAX_ENDPOINT_COUNT

namespace ConfigureAnswers

variable (a : ConfigureAnswers)

/-- `Device_Configure` gets as far as the interfaces. -/
def ReachesInterfaces : Prop :=
  (a.numInterfaces ≠ 1 → a.allocates = true) ∧ ntSuccess a.selectConfig = true ∧
    ntSuccess a.defaultPipe.queueCreate = true

/-- The interface `i` can be configured. -/
def Configures (i : ℕ) : Prop :=
  a.hasInterface i = true ∧ none ∉ (a.interface i).configuredPipes

/-- The interface `i` and its pipes have room in their arrays. -/
def InterfaceFits (i : ℕ) : Prop :=
  i < LIBUSB_MAX_INTERFACE_COUNT ∧ (a.hasInterface i = true → (a.interface i).PipesFit)

/-- The interfaces up to the first that cannot be configured fit. -/
def InterfacesFit : Prop :=
  ∀ i < a.numInterfacesAfter.toNat, (∀ j < i, a.Configures j) → a.InterfaceFits i

end ConfigureAnswers

/-- `Device_OnPrepareHardware` gets as far as `Device_Configure`. -/
def PrepareAnswers.ReachesConfigure (a : PrepareAnswers) : Prop :=
  ntSuccess a.targetDeviceCreate = true ∧ ntSuccess a.retrieveInformation = true ∧
    ntSuccess a.fetchConfigDescriptor = true

/-- `Interface_SetAltSetting` selects another setting of an interface. -/
def SelectsSetting (s : DeviceState) (intf : InterfaceRequest) (a : InterfaceAnswers) : Prop :=
  ∃ i altsettingIndex, Found s intf a i altsettingIndex ∧
    (s.interfaces i).settingIndex ≠ altsettingIndex ∧ ntSuccess a.selectSetting = true

/-- The device that is prepared, and the setting that is selected, fit the arrays. -/
def DeviceFits (d : StartedDevice) : ArrayOperation → Prop
  | .pipe (.prepareHardware a) =>
    d.device.prepared = false → a.ReachesConfigure → a.configure.ReachesInterfaces →
      a.configure.InterfacesFit
  | .pipe (.setAltSetting intf a) =>
    SelectsSetting d.device.state intf a → a.PipesFit
  | _ => True

/-! ### The loops -/

section

variable {xs ys : List ArrayAccess} {x : ArrayAccess}

@[simp] theorem inBounds_nil : InBounds [] := by simp [InBounds]

@[simp] theorem inBounds_cons : InBounds (x :: xs) ↔ x.InBounds ∧ InBounds xs := by
  simp [InBounds]

@[simp] theorem inBounds_append : InBounds (xs ++ ys) ↔ InBounds xs ∧ InBounds ys := by
  simp [InBounds, or_imp, forall_and]

theorem forall_lt_iff_le {m n : ℕ} : (∀ i < n, i < m) ↔ n ≤ m := by
  constructor
  · intro h
    by_contra hlt
    exact absurd (h m (by omega)) (Nat.lt_irrefl m)
  · exact fun h i hi => Nat.lt_of_lt_of_le hi h

@[simp] theorem inBounds_interfaceLoop {n : ℕ} :
    InBounds (interfaceLoop n) ↔ n ≤ LIBUSB_MAX_INTERFACE_COUNT := by
  rw [← forall_lt_iff_le]
  simp [InBounds, interfaceLoop, ArrayAccess.InBounds]

@[simp] theorem inBounds_pipeLoop {i n : ℕ} :
    InBounds (pipeLoop i n) ↔ n ≤ LIBUSB_MAX_ENDPOINT_COUNT := by
  rw [← forall_lt_iff_le]
  simp [InBounds, pipeLoop, ArrayAccess.InBounds]

end

/-- `GetPipeContextByID` is safe. -/
@[simp] theorem inBounds_pipeContextByID (pipeID : UInt8) :
    (ArrayAccess.pipeContextByID (pipeContextIndex pipeID)).InBounds := by
  have hall : ∀ b : BitVec 8, pipeContextIndex (UInt8.ofBitVec b) < 32 := by decide
  exact hall pipeID.toBitVec

theorem inBounds_getPipeContextByID (pipeID : UInt8) :
    InBounds [.pipeContextByID (pipeContextIndex pipeID)] :=
  inBounds_cons.mpr ⟨inBounds_pipeContextByID pipeID, inBounds_nil⟩

/-! ### Configuring an interface -/

/-- The loop of `Interface_InitContext` from `pipeIndex` on, for which there is
room up to that index. -/
theorem inBounds_initPipesAccesses {i pipeIndex : ℕ} {pipes : List (Option (ℕ × PipeInformation))}
    (h : pipeIndex ≤ LIBUSB_MAX_ENDPOINT_COUNT) : InBounds (initPipesAccesses i pipeIndex pipes) ↔
      pipeIndex + (pipes.takeWhile Option.isSome).length ≤ LIBUSB_MAX_ENDPOINT_COUNT := by
  induction pipes generalizing pipeIndex with
  | nil => simpa [initPipesAccesses] using h
  | cons p rest ih =>
    cases p with
    | none => simpa [initPipesAccesses] using h
    | some q =>
      rw [initPipesAccesses, inBounds_cons, inBounds_cons]
      simp only [inBounds_pipeContextByID, true_and, List.takeWhile_cons, Option.isSome_some,
        if_true, List.length_cons]
      by_cases hlt : pipeIndex < LIBUSB_MAX_ENDPOINT_COUNT
      · rw [@ih (pipeIndex + 1) hlt, Nat.add_right_comm, Nat.add_assoc]
        exact and_iff_right hlt
      · constructor
        · exact fun hboth => absurd hboth.1 hlt
        · exact fun hle => absurd (show pipeIndex < LIBUSB_MAX_ENDPOINT_COUNT by omega) hlt

/-- The entries the loop fills in are those before the first null pipe. -/
theorem length_initPipes (s : DeviceState) (pipes : List (Option (ℕ × PipeInformation))) :
    (initPipes s pipes).2.1.length = (pipes.takeWhile Option.isSome).length := by
  induction pipes generalizing s with
  | nil => rfl
  | cons p rest ih =>
    cases p with
    | none => rfl
    | some q => exact congrArg (· + 1) (ih _)

theorem ntSuccess_initPipes (s : DeviceState) (pipes : List (Option (ℕ × PipeInformation))) :
    ntSuccess (initPipes s pipes).2.2 = true ↔ none ∉ pipes := by
  by_cases h : none ∈ pipes
  · rw [initPipes_of_none h]
    exact ⟨fun hok => absurd hok (by decide), fun hn => absurd h hn⟩
  · rw [(initPipes_of_some h s).1]
    exact ⟨fun _ => h, fun _ => rfl⟩

section

variable {s : DeviceState} {i : ℕ} {a : InterfaceAnswers}

theorem ntSuccess_interfaceInitContext : ntSuccess (interfaceInitContext s i a).2 = true ↔
    (s.interfaces i).hasInterface = true ∧ none ∉ a.configuredPipes := by
  cases hif : (s.interfaces i).hasInterface with
  | false =>
    rw [interfaceInitContext, if_pos (by simp [hif])]
    simp only [Bool.false_eq_true, false_and, iff_false]
    exact (by decide : ntSuccess STATUS_FILE_CORRUPT_ERROR ≠ true)
  | true =>
    rw [interfaceInitContext_eq hif]
    exact (ntSuccess_initPipes s _).trans (by simp)

theorem interfaces_interfaceInitContext (hif : (s.interfaces i).hasInterface = true) :
    (interfaceInitContext s i a).1.pipeCount i =
        (a.configuredPipes.takeWhile Option.isSome).length ∧
      ∀ j ≠ i, (interfaceInitContext s i a).1.pipeCount j = s.pipeCount j := by
  rw [interfaceInitContext_eq hif]
  unfold DeviceState.pipeCount
  simp only [DeviceState.interfaces_setInterface, interfaces_initPipes, Function.update_self,
    length_initPipes, true_and]
  intro j hj
  rw [Function.update_of_ne hj]

theorem inBounds_initAndStartAccesses : InBounds (initAndStartAccesses s i a) ↔
    ((s.interfaces i).hasInterface = true → a.PipesFit) := by
  unfold initAndStartAccesses initContextAccesses
  cases hif : (s.interfaces i).hasInterface with
  | false =>
    have hfail : ntSuccess (interfaceInitContext s i a).2 = false := by
      have h := @ntSuccess_interfaceInitContext s i a
      rw [hif] at h
      simpa using h
    simp [hfail]
  | true =>
    have hpipes := @inBounds_initPipesAccesses i 0 a.configuredPipes (Nat.zero_le _)
    rw [Nat.zero_add] at hpipes
    simp only [Bool.not_true, Bool.false_eq_true, if_false, inBounds_append, hpipes, forall_const]
    -- the pipes that are started are among those that have been read back
    refine and_iff_left_of_imp fun hfit => ?_
    split_ifs
    · exact inBounds_nil
    · rw [inBounds_pipeLoop, (interfaces_interfaceInitContext hif).1]
      exact hfit

end

/-! ### Configuring the device -/

/-- The first `n` interfaces have no more pipes than there is room for. -/
def PipeCountsFit (s : DeviceState) (n : ℕ) : Prop :=
  ∀ i < n, s.pipeCount i ≤ LIBUSB_MAX_ENDPOINT_COUNT

section

variable {a : ConfigureAnswers} {s : DeviceState} {i : ℕ}

theorem hasInterface_assignInterface :
    ((assignInterface a s i).interfaces i).hasInterface = a.hasInterface i := by
  unfold assignInterface
  rw [DeviceState.interfaces_setInterface, Function.update_self]

theorem pipeCount_assignInterface (j : ℕ) :
    (assignInterface a s i).pipeCount j = s.pipeCount j := by
  unfold assignInterface DeviceState.pipeCount
  rw [DeviceState.interfaces_setInterface]
  by_cases h : j = i
  · rw [h, Function.update_self]
  · rw [Function.update_of_ne h]

theorem inBounds_configureInterfaceAccesses :
    InBounds (configureInterfaceAccesses a s i) ↔ a.InterfaceFits i := by
  rw [configureInterfaceAccesses, inBounds_cons, inBounds_initAndStartAccesses,
    hasInterface_assignInterface]
  rfl

theorem ntSuccess_configureInterface :
    ntSuccess (configureInterface a s i).2 = true ↔ a.Configures i := by
  have hinit := @ntSuccess_interfaceInitContext (assignInterface a s i) i (a.interface i)
  rw [hasInterface_assignInterface] at hinit
  refine Iff.trans ?_ hinit
  unfold configureInterface
  dsimp only
  cases h : ntSuccess (interfaceInitContext (assignInterface a s i) i (a.interface i)).2 with
  | false => rw [if_pos (by simp), h]
  | true =>
    rw [if_neg (by simp)]
    unfold interfaceStart
    exact ⟨fun _ => rfl, fun _ => rfl⟩

/-- One pass that succeeds stores the number of pipes of its interface. -/
theorem pipeCount_configureInterface (h : a.Configures i) :
    (configureInterface a s i).1.pipeCount i =
        ((a.interface i).configuredPipes.takeWhile Option.isSome).length ∧
      ∀ j ≠ i, (configureInterface a s i).1.pipeCount j = s.pipeCount j := by
  have hif : ((assignInterface a s i).interfaces i).hasInterface = true := by
    rw [hasInterface_assignInterface]
    exact h.1
  obtain ⟨hself, hother⟩ := @interfaces_interfaceInitContext _ i (a.interface i) hif
  have hok := ntSuccess_interfaceInitContext.mpr ⟨hif, h.2⟩
  have hcount : ∀ j, (configureInterface a s i).1.pipeCount j =
      (interfaceInitContext (assignInterface a s i) i (a.interface i)).1.pipeCount j := by
    intro j
    unfold configureInterface interfaceStart
    dsimp only
    rw [if_neg (by simp [hok]), if_neg (by decide)]
    unfold DeviceState.pipeCount
    rw [interfaces_startPipes]
  refine ⟨(hcount i).trans hself, fun j hj => ?_⟩
  rw [hcount, hother j hj, pipeCount_assignInterface]

/-- A condition on what a loop reaches, less its first pass. -/
theorem forall_reached_succ {goesOn holds : ℕ → Prop} {n i : ℕ} :
    (∀ k < n + 1, (∀ j < k, goesOn (i + j)) → holds (i + k)) ↔
      holds i ∧ (goesOn i → ∀ k < n, (∀ j < k, goesOn (i + 1 + j)) → holds (i + 1 + k)) := by
  have hshift : ∀ k, i + 1 + k = i + (k + 1) := by omega
  simp only [hshift]
  constructor
  · intro h
    refine ⟨h 0 (by omega) fun j hj => absurd hj (Nat.not_lt_zero j), fun hi k hk hbefore => ?_⟩
    refine h (k + 1) (by omega) fun j hj => ?_
    cases j with
    | zero => exact hi
    | succ j => exact hbefore j (by omega)
  · rintro ⟨hfirst, hrest⟩ k hk hbefore
    cases k with
    | zero => exact hfirst
    | succ k =>
      exact hrest (hbefore 0 (by omega)) k (by omega) fun j hj => hbefore (j + 1) (by omega)

/-- The loop of `Device_Configure` stays inside the arrays if and only if the
interfaces it reaches fit. -/
theorem inBounds_configureInterfacesAccesses (n : ℕ) :
    InBounds (configureInterfacesAccesses a n i s) ↔
      ∀ k < n, (∀ j < k, a.Configures (i + j)) → a.InterfaceFits (i + k) := by
  induction n generalizing i s with
  | zero => simp [configureInterfacesAccesses]
  | succ n ih =>
    rw [configureInterfacesAccesses, inBounds_append, inBounds_configureInterfaceAccesses,
      forall_reached_succ]
    refine and_congr_right fun _ => ?_
    by_cases hpass : a.Configures i
    · rw [if_neg (by simp [ntSuccess_configureInterface.mpr hpass]), ih]
      exact ⟨fun h _ => h, fun h => h hpass⟩
    · have hfail : ntSuccess (configureInterface a s i).2 = false := by
        simpa using mt ntSuccess_configureInterface.mp hpass
      rw [if_pos (by simp [hfail])]
      exact ⟨fun _ h => absurd h hpass, fun _ => inBounds_nil⟩

/-- The loop, if it succeeds on interfaces that fit. -/
theorem pipeCountsFit_configureInterfaces (n : ℕ) {r : DeviceState × NTSTATUS}
    (hi : i ≤ LIBUSB_MAX_INTERFACE_COUNT) (hbelow : PipeCountsFit r.1 i)
    (hfit : ∀ k < n, (∀ j < k, a.Configures (i + j)) → a.InterfaceFits (i + k))
    (h : ntSuccess (configureInterfaces a n i r).2 = true) :
    i + n ≤ LIBUSB_MAX_INTERFACE_COUNT ∧ PipeCountsFit (configureInterfaces a n i r).1 (i + n) := by
  induction n generalizing i r with
  | zero => exact ⟨hi, hbelow⟩
  | succ n ih =>
    obtain ⟨hfirst, hrest⟩ := forall_reached_succ.mp hfit
    unfold configureInterfaces at h ⊢
    dsimp only at h ⊢
    by_cases hpass : a.Configures i
    · have hok := (@ntSuccess_configureInterface a r.1 i).mpr hpass
      rw [if_neg (by simp [hok])] at h ⊢
      obtain ⟨hself, hother⟩ := @pipeCount_configureInterface a r.1 i hpass
      have hnext : PipeCountsFit (configureInterface a r.1 i).1 (i + 1) := by
        intro j hj
        by_cases heq : j = i
        · rw [heq, hself]
          exact hfirst.2 hpass.1
        · rw [hother j heq]
          exact hbelow j (by omega)
      have hlt : i + 1 ≤ LIBUSB_MAX_INTERFACE_COUNT := hfirst.1
      have hall := ih hlt hnext (hrest hpass) h
      rwa [Nat.add_right_comm, Nat.add_assoc] at hall
    · have hfail : ntSuccess (configureInterface a r.1 i).2 = false := by
        simpa using mt ntSuccess_configureInterface.mp hpass
      rw [if_pos (by simp [hfail])] at h
      exact absurd (hfail.symm.trans h) (by decide)

/-- The default pipe has no over-run buffer and no I/O target, so that starting it
fails only if its queue cannot be created. -/
theorem ntSuccess_pipeInitDefaultContext {b : StartAnswers} :
    ntSuccess (pipeInitDefaultContext s b).2 = true ↔ ntSuccess b.queueCreate = true := by
  unfold pipeInitDefaultContext
  dsimp only
  generalize hpc : defaultPipe s.device.isHighSpeed
    (s.device.usbDeviceDescriptor.getD 7 0).toNat (s.pipes 0) = pc
  have htype : pc.pipeInformation.pipeType = .control := by rw [← hpc]; rfl
  have hnone : pc.queue = none := by rw [← hpc]; rfl
  have hmem : pc.pipeInformation.needsOverMem = false := by
    simp [PipeInformation.needsOverMem, htype]
  unfold pipeInitContext pipeInitQueue
  cases hcreate : ntSuccess b.queueCreate with
  | false => simp [PipeContext.needsQueue, htype, hnone, hcreate]
  | true =>
    unfold pipeInitContextWithQueue
    simp [PipeContext.needsQueue, htype, hnone, hmem, hcreate]

/-- Past the exits of `Device_Configure`, the interfaces are reached. -/
theorem reachesInterfaces_of_branches (halloc : ¬(a.numInterfaces ≠ 1 ∧ a.allocates = false))
    (hselect : ¬(!ntSuccess a.selectConfig) = true)
    (hdefault : ¬(!ntSuccess (pipeInitDefaultContext s a.defaultPipe).2) = true) :
    a.ReachesInterfaces := by
  simp only [Bool.not_eq_true', Bool.not_eq_false] at hselect hdefault
  refine ⟨fun hne => ?_, hselect, ntSuccess_pipeInitDefaultContext.mp hdefault⟩
  by_contra hfalse
  exact halloc ⟨hne, by simpa using hfalse⟩

theorem inBounds_deviceConfigureAccesses :
    InBounds (deviceConfigureAccesses s a) ↔ (a.ReachesInterfaces → a.InterfacesFit) := by
  unfold deviceConfigureAccesses
  dsimp only
  split_ifs with halloc hselect hdefault
  · refine iff_of_true inBounds_nil fun h => ?_
    exact absurd (halloc.2.symm.trans (h.1 halloc.1)) (by decide)
  · refine iff_of_true inBounds_nil fun h => ?_
    rw [h.2.1] at hselect
    cases hselect
  · rw [inBounds_cons]
    refine iff_of_true ⟨inBounds_pipeContextByID 0, inBounds_nil⟩ fun h => ?_
    rw [ntSuccess_pipeInitDefaultContext.mpr h.2.2] at hdefault
    cases hdefault
  · have hreach := reachesInterfaces_of_branches halloc hselect hdefault
    rw [inBounds_cons, inBounds_configureInterfacesAccesses]
    simp only [Nat.zero_add, inBounds_pipeContextByID, true_and]
    exact ⟨fun h _ => h, fun h => h hreach⟩

/-- The counts that the driver has stored are those of its arrays at most. -/
structure DeviceState.ArraysFit (s : DeviceState) : Prop where
  interfaceCount : s.interfaceCount ≤ LIBUSB_MAX_INTERFACE_COUNT
  pipeCount : PipeCountsFit s s.interfaceCount

/-- A device that fits and is configured with success has counts that fit. -/
theorem arraysFit_deviceConfigure (hfit : a.ReachesInterfaces → a.InterfacesFit)
    (h : ntSuccess (deviceConfigure s a).2 = true) : (deviceConfigure s a).1.ArraysFit := by
  unfold deviceConfigure at h ⊢
  dsimp only at h ⊢
  split_ifs at h ⊢ with halloc hselect hdefault
  · exact absurd h (show ntSuccess STATUS_INSUFFICIENT_RESOURCES ≠ true by decide)
  · rw [h] at hselect
    cases hselect
  · rw [h] at hdefault
    cases hdefault
  · have hall := hfit (reachesInterfaces_of_branches halloc hselect hdefault)
    have hcount : ∀ b s, (pipeInitDefaultContext s b).1.interfaceCount = s.interfaceCount :=
      fun b s => interfaceCount_pipeInitContext _ _ _ _
    have hinit := hcount a.defaultPipe
      ((s.withInterfaceCount a.numInterfaces.toNat).withInterfaceCount a.numInterfacesAfter.toNat)
    generalize pipeInitDefaultContext _ a.defaultPipe = r at h hinit ⊢
    obtain ⟨hle, hcounts⟩ := pipeCountsFit_configureInterfaces a.numInterfacesAfter.toNat
      (Nat.zero_le _) (fun j hj => absurd hj (Nat.not_lt_zero j))
      (fun k hk hbefore => by simpa using hall k hk (by simpa using hbefore)) h
    obtain ⟨-, hsame⟩ := configureInterfaces_of_success a.numInterfacesAfter.toNat
      (fun j hj => absurd hj (Nat.not_lt_zero j)) h
    rw [Nat.zero_add] at hle hcounts
    have hfinal := hsame.trans hinit
    exact ⟨hfinal ▸ hle, hfinal ▸ hcounts⟩

end

/-! ### Preparing the hardware -/

section

variable {d : UsbDevice} {a : PrepareAnswers}

theorem inBounds_prepareHardwareAccesses : InBounds (prepareHardwareAccesses d a) ↔
    (d.prepared = false → a.ReachesConfigure → a.configure.ReachesInterfaces →
      a.configure.InterfacesFit) := by
  unfold prepareHardwareAccesses PrepareAnswers.ReachesConfigure
  cases hprepared : d.prepared with
  | true => simp
  | false =>
    simp only [Bool.false_eq_true, if_false, forall_const]
    split_ifs with hcreate hretrieve hfetch
    · refine iff_of_true inBounds_nil fun h => ?_
      rw [h.1] at hcreate
      cases hcreate
    · refine iff_of_true inBounds_nil fun h => ?_
      rw [h.2.1] at hretrieve
      cases hretrieve
    · refine iff_of_true inBounds_nil fun h => ?_
      rw [h.2.2] at hfetch
      cases hfetch
    · simp only [Bool.not_eq_true', Bool.not_eq_false] at hcreate hretrieve hfetch
      simp only [hcreate, hretrieve, hfetch, and_self, forall_const]
      exact inBounds_deviceConfigureAccesses

/-- A preparation that succeeds leaves counts that fit, if it was made for a device
that fits. -/
theorem arraysFit_deviceOnPrepareHardware (hprepared : d.prepared = false)
    (hfit : a.ReachesConfigure → a.configure.ReachesInterfaces → a.configure.InterfacesFit)
    (h : ntSuccess (deviceOnPrepareHardware d a).2 = true) :
    (deviceOnPrepareHardware d a).1.prepared = true ∧
      (deviceOnPrepareHardware d a).1.state.ArraysFit := by
  unfold deviceOnPrepareHardware at h ⊢
  simp only [hprepared, Bool.false_eq_true, if_false] at h ⊢
  split_ifs at h ⊢ with hcreate hretrieve hfetch
  · rw [h] at hcreate
    cases hcreate
  · rw [h] at hretrieve
    cases hretrieve
  · rw [h] at hfetch
    cases hfetch
  · simp only [Bool.not_eq_true', Bool.not_eq_false] at hcreate hretrieve hfetch
    exact ⟨rfl, arraysFit_deviceConfigure (hfit ⟨hcreate, hretrieve, hfetch⟩) h⟩

end

/-! ### Selecting a setting -/

section

variable {s : DeviceState} {i : ℕ}

theorem pipeCount_congr {s' : DeviceState} (h : s'.interfaces = s.interfaces) (i : ℕ) :
    s'.pipeCount i = s.pipeCount i := by
  unfold DeviceState.pipeCount
  rw [h]

theorem DeviceState.ArraysFit.congr {s' : DeviceState} (hs : s.ArraysFit)
    (h : s'.interfaces = s.interfaces) (hcount : s'.interfaceCount = s.interfaceCount) :
    s'.ArraysFit where
  interfaceCount := hcount ▸ hs.interfaceCount
  pipeCount := by
    intro i hi
    rw [pipeCount_congr h]
    exact hs.pipeCount i (hcount ▸ hi)

theorem inBounds_getContextFromRequestAccesses (hs : s.ArraysFit) (intf : InterfaceRequest) :
    InBounds (getContextFromRequestAccesses s intf) := by
  have hle := hs.interfaceCount
  have hnumber : ∀ n, InBounds (getContextByNumberAccesses s n) := by
    intro n
    unfold getContextByNumberAccesses
    cases hfound : interfaceGetContextByNumber s n with
    | none => exact inBounds_interfaceLoop.mpr hle
    | some i =>
      have hlt : i < s.interfaceCount := List.mem_range.mp (List.mem_of_find?_eq_some hfound)
      exact inBounds_interfaceLoop.mpr (by omega)
  have hindex : ∀ n, InBounds (getContextByIndexAccesses s n) := by
    intro n
    unfold getContextByIndexAccesses interfaceGetContextByIndex
    split_ifs with hge
    · exact inBounds_nil
    · rw [Option.toList_some, List.map_cons, List.map_nil, inBounds_cons]
      exact ⟨Nat.lt_of_lt_of_le (Nat.not_le.mp hge) hle, inBounds_nil⟩
  unfold getContextFromRequestAccesses
  split_ifs
  · exact inBounds_nil
  · exact hindex _
  · exact hnumber _

theorem inBounds_allPipesAccesses (hs : s.ArraysFit) : InBounds (allPipesAccesses s) := by
  intro access hmem
  obtain ⟨i, hi, hmem⟩ := List.mem_flatMap.mp hmem
  rw [List.mem_range] at hi
  have hall : InBounds (.interfaceContext i :: pipeLoop i (s.pipeCount i)) :=
    inBounds_cons.mpr ⟨Nat.lt_of_lt_of_le hi hs.interfaceCount,
      inBounds_pipeLoop.mpr (hs.pipeCount i hi)⟩
  exact hall access hmem

variable {a : InterfaceAnswers}

/-- Changing the setting of an interface whose pipes fit stays inside the arrays if
and only if the pipes of the new setting fit. -/
theorem inBounds_changeAltSettingAccesses (hfit : s.pipeCount i ≤ LIBUSB_MAX_ENDPOINT_COUNT)
    (hif : (s.interfaces i).hasInterface = true) : InBounds (changeAltSettingAccesses s i a) ↔
      (ntSuccess a.selectSetting = true → a.PipesFit) := by
  have hstop : (interfaceStop s i).1.interfaces = s.interfaces := interfaces_stopPipes s _
  have hcount := pipeCount_congr hstop i
  unfold changeAltSettingAccesses
  dsimp only
  rw [inBounds_append, inBounds_pipeLoop, if_neg (by simp [interfaceStop]), hcount]
  cases hselect : ntSuccess a.selectSetting with
  | false => simp [hfit]
  | true =>
    simp only [Bool.not_true, Bool.false_eq_true, if_false, forall_const]
    have hcount' : ((interfaceStop s i).1.setInterface i
        { (interfaceStop s i).1.interfaces i with
          settingIndex := a.configuredSettingIndex }).pipeCount i = s.pipeCount i := by
      unfold DeviceState.pipeCount
      rw [DeviceState.interfaces_setInterface, Function.update_self, hstop]
    have hif' : ((beforeInit s i a).interfaces i).hasInterface = true := by
      rw [interfaces_beforeInit, Function.update_self]
      exact hif
    have hinit := @inBounds_initAndStartAccesses (beforeInit s i a) i a
    unfold settingSelectedAccesses
    dsimp only
    rw [inBounds_append, inBounds_pipeLoop, hcount']
    unfold beforeInit at hinit hif'
    rw [hinit]
    simp [hfit, hif']

/-- A change of setting keeps the counts within the arrays if the pipes of the
setting it selects fit. -/
theorem arraysFit_changeAltSetting (hs : s.ArraysFit) (hif : (s.interfaces i).hasInterface = true)
    (hfit : ntSuccess a.selectSetting = true → a.PipesFit) :
    (changeAltSetting s i a).1.ArraysFit := by
  cases hselect : ntSuccess a.selectSetting with
  | false =>
    obtain ⟨hinterfaces, hcount⟩ := @interfaces_changeAltSetting_of_not_selected s i a hselect
    exact hs.congr hinterfaces hcount
  | true =>
    obtain ⟨hinterfaces, hcount⟩ := interfaces_changeAltSetting_of_selected hif hselect
    refine ⟨hcount ▸ hs.interfaceCount, fun j hj => ?_⟩
    rw [hcount] at hj
    unfold DeviceState.pipeCount
    rw [hinterfaces]
    by_cases heq : j = i
    · rw [heq, Function.update_self]
      dsimp only
      rw [length_initPipes]
      exact hfit hselect
    · rw [Function.update_of_ne heq]
      exact hs.pipeCount j hj

variable {intf : InterfaceRequest} {altsettingIndex : UInt8}

theorem Found.selectsSetting_iff (h : Found s intf a i altsettingIndex) :
    SelectsSetting s intf a ↔
      (s.interfaces i).settingIndex ≠ altsettingIndex ∧ ntSuccess a.selectSetting = true := by
  constructor
  · rintro ⟨j, index, hfound, hselects⟩
    cases h.interface.symm.trans hfound.interface
    cases h.setting.symm.trans hfound.setting
    exact hselects
  · exact fun hselects => ⟨i, altsettingIndex, h, hselects⟩

/-- The accesses after the search for the interface. -/
theorem Found.setAltSettingAccesses_eq (h : Found s intf a i altsettingIndex) :
    setAltSettingAccesses s intf a = getContextFromRequestAccesses s intf ++
      if (s.interfaces i).settingIndex = altsettingIndex then []
      else changeAltSettingAccesses s i a := by
  unfold setAltSettingAccesses
  simp [h.interface, h.hasInterface, h.setting]

theorem setAltSettingAccesses_of_not_found (h : ∀ i altIndex, ¬Found s intf a i altIndex) :
    setAltSettingAccesses s intf a = getContextFromRequestAccesses s intf := by
  unfold setAltSettingAccesses
  cases hi : getInterfaceContextFromRequest s intf with
  | error status => simp
  | ok i =>
    cases hif : (s.interfaces i).hasInterface with
    | false => simp [hif]
    | true =>
      cases halt : getInterfaceAltSettingIndexFromRequest intf a with
      | error status => simp
      | ok altIndex => exact absurd ⟨hi, hif, halt⟩ (h i altIndex)

theorem inBounds_setAltSettingAccesses (hs : s.ArraysFit) :
    InBounds (setAltSettingAccesses s intf a) ↔ (SelectsSetting s intf a → a.PipesFit) := by
  have hfind := inBounds_getContextFromRequestAccesses hs intf
  by_cases hfound : ∃ i altIndex, Found s intf a i altIndex
  · obtain ⟨i, altIndex, h⟩ := hfound
    have hpipes := hs.pipeCount i (lt_of_getInterfaceContextFromRequest h.interface)
    rw [h.setAltSettingAccesses_eq, inBounds_append, h.selectsSetting_iff]
    by_cases heq : (s.interfaces i).settingIndex = altIndex
    · simp [heq, hfind]
    · rw [if_neg heq, inBounds_changeAltSettingAccesses hpipes h.hasInterface]
      simp [heq, hfind]
  · have hnot : ∀ i altIndex, ¬Found s intf a i altIndex :=
      fun i altIndex h => hfound ⟨i, altIndex, h⟩
    rw [setAltSettingAccesses_of_not_found hnot]
    refine iff_of_true hfind fun hselects => ?_
    obtain ⟨i, altIndex, h, -⟩ := hselects
    exact absurd h (hnot i altIndex)

theorem arraysFit_interfaceSetAltSetting (hs : s.ArraysFit)
    (hfit : SelectsSetting s intf a → a.PipesFit) :
    (interfaceSetAltSetting s intf a).1.ArraysFit := by
  by_cases hfound : ∃ i altIndex, Found s intf a i altIndex
  · obtain ⟨i, altIndex, h⟩ := hfound
    rw [h.interfaceSetAltSetting_eq]
    split_ifs with heq
    · exact hs
    · exact arraysFit_changeAltSetting hs h.hasInterface fun hselect =>
        hfit (h.selectsSetting_iff.mpr ⟨heq, hselect⟩)
  · obtain ⟨status, -, heq⟩ := interfaceSetAltSetting_of_not_found
      fun i altIndex h => hfound ⟨i, altIndex, h⟩
    rw [heq]
    exact hs

end

/-! ### Operations that leave the counts alone -/

/-- The interface contexts and their number are the same. -/
def SameInterfaces (s s' : DeviceState) : Prop :=
  s'.interfaces = s.interfaces ∧ s'.interfaceCount = s.interfaceCount

namespace SameInterfaces

variable {s s' s'' : DeviceState}

theorem refl (s : DeviceState) : SameInterfaces s s := ⟨rfl, rfl⟩

theorem trans (h : SameInterfaces s s') (h' : SameInterfaces s' s'') : SameInterfaces s s'' :=
  ⟨h'.1.trans h.1, h'.2.trans h.2⟩

theorem arraysFit (h : SameInterfaces s s') (hs : s.ArraysFit) : s'.ArraysFit :=
  hs.congr h.1 h.2

theorem pipeStart (s : DeviceState) (k : Fin 32) (startIoTarget : Bool) (a : StartAnswers) :
    SameInterfaces s (pipeStart s k startIoTarget a).1 := by
  have h := pipeStarted_pipeStart s k startIoTarget a
  generalize (LibusbK.pipeStart s k startIoTarget a).1 = s' at h
  cases h <;> exact ⟨rfl, rfl⟩

theorem pipeStop (s : DeviceState) (k : Fin 32) : SameInterfaces s (pipeStop s k).1 := by
  unfold LibusbK.pipeStop
  split_ifs <;> exact ⟨rfl, rfl⟩

theorem stopPipes (s : DeviceState) (ks : List (Fin 32)) : SameInterfaces s (stopPipes s ks) :=
  ⟨interfaces_stopPipes s ks, interfaceCount_stopPipes s ks⟩

theorem startPipes (start : ℕ → StartAnswers) (startIoTarget : Bool) (s : DeviceState) (n : ℕ)
    (ks : List (Fin 32)) : SameInterfaces s (startPipes start startIoTarget s n ks) :=
  ⟨interfaces_startPipes start startIoTarget ks s n,
    interfaceCount_startPipes start startIoTarget ks s n⟩

theorem modifyQueue (s : DeviceState) (queue : WdfHandle) (f : QueueContext → QueueContext) :
    SameInterfaces s (s.modifyQueue queue f) := by
  cases queue <;> exact ⟨rfl, rfl⟩

theorem pipeRefreshQueue (s : DeviceState) (k : Fin 32) (a : StartAnswers) :
    SameInterfaces s (pipeRefreshQueue s k a).1 := by
  unfold LibusbK.pipeRefreshQueue
  dsimp only
  split_ifs
  · exact pipeStop s k
  · exact (pipeStop s k).trans (pipeStart _ k false a)

theorem flushPipe (s : DeviceState) (pipeID : UInt8) (a : StartAnswers) :
    SameInterfaces s (flushPipe s pipeID a).1 := by
  unfold LibusbK.flushPipe
  dsimp only
  split_ifs
  · exact refl s
  · exact pipeStop s _
  · exact ((pipeStop s _).trans (modifyQueue _ _ _)).trans (pipeStart _ _ true a)
  · exact (pipeStop s _).trans (pipeStart _ _ true a)

theorem refreshForRequest (s : DeviceState) (pipeID : UInt8) (a : StartAnswers) :
    SameInterfaces s (refreshForRequest s pipeID a).1 := by
  unfold LibusbK.refreshForRequest
  dsimp only
  split_ifs
  · exact refl s
  · exact pipeRefreshQueue s _ a
  · exact refl s

theorem pipeReset (s : DeviceState) (pipeID : UInt8) (status : NTSTATUS) :
    SameInterfaces s (pipeReset s pipeID status).1 := by
  unfold LibusbK.pipeReset
  dsimp only
  split_ifs
  · exact refl s
  · exact refl s
  · exact modifyQueue s _ _

theorem setPipePolicy (s : DeviceState) (pipeID : UInt8) (policyType : UInt32)
    (value : ValueBytes) (valueLength : UInt32) :
    SameInterfaces s (setPipePolicy s pipeID policyType value valueLength).1 := by
  unfold LibusbK.setPipePolicy
  dsimp only
  split_ifs <;> exact ⟨rfl, rfl⟩

theorem foldl {α : Type*} {f : DeviceState → α → DeviceState}
    (h : ∀ s x, SameInterfaces s (f s x)) (xs : List α) (s : DeviceState) :
    SameInterfaces s (xs.foldl f s) := by
  induction xs generalizing s with
  | nil => exact refl s
  | cons x xs ih => exact (h s x).trans (ih _)

theorem deviceReset (s : DeviceState) (start : ℕ → ℕ → StartAnswers) :
    SameInterfaces s (deviceReset s start) :=
  (foldl (fun s _ => stopPipes s _) _ s).trans (foldl (fun s _ => startPipes _ true s 0 _) _ _)

theorem policySetAllPipesToDefault (s : DeviceState) :
    SameInterfaces s (policySetAllPipesToDefault s) := by
  refine foldl (fun s i => ?_) _ s
  exact foldl (f := fun s k => s.setPipe k (policyInitPipe s.device.isHighSpeed (s.pipes k)))
    (fun _ _ => ⟨rfl, rfl⟩) _ s

end SameInterfaces

/-! ### The run -/

/-- What one step does: it prepares the hardware, or it is an operation on a device
that is started. -/
theorem arrayMachine_step_cases {d d' : StartedDevice} {op : ArrayOperation}
    (h : arrayMachine.step d op = some d') :
    (∃ a, op = .pipe (.prepareHardware a) ∧ (d.device.prepared = true → d.started = true) ∧
      d' = ⟨(deviceOnPrepareHardware d.device a).1,
        ntSuccess (deviceOnPrepareHardware d.device a).2⟩) ∨
      ((∀ a, op ≠ .pipe (.prepareHardware a)) ∧ d.started = true ∧ d' = d.run op) := by
  by_cases hop : ∃ a, op = .pipe (.prepareHardware a)
  · obtain ⟨a, rfl⟩ := hop
    simp only [arrayMachine, Option.ite_none_left_eq_some, Option.some.injEq] at h
    refine .inl ⟨a, rfl, fun hprepared => ?_, h.2.symm⟩
    simpa [hprepared] using h.1
  · have hne : ∀ a, op ≠ .pipe (.prepareHardware a) := fun a heq => hop ⟨a, heq⟩
    have hstep : arrayMachine.step d op = if d.started then some (d.run op) else none := by
      cases op with
      | pipe op =>
        cases op with
        | prepareHardware a => exact absurd rfl (hne a)
        | _ => rfl
      | _ => rfl
    rw [hstep, Option.ite_none_right_eq_some, Option.some.injEq] at h
    exact .inr ⟨hne, h.1, h.2.symm⟩

/-- The invariant: a device that is started has been prepared, and its counts fit. -/
structure StartedDevice.Inv (d : StartedDevice) : Prop where
  prepared : d.started = true → d.device.prepared = true
  arraysFit : d.started = true → d.device.state.ArraysFit

/-- On a device whose counts fit, an operation stays inside the arrays if and only
if what it configures fits. -/
theorem inBounds_accesses_iff {d : StartedDevice} (hs : d.device.state.ArraysFit)
    (op : ArrayOperation) : InBounds (d.accesses op) ↔ DeviceFits d op := by
  cases op with
  | pipe op =>
    cases op with
    | prepareHardware a => exact inBounds_prepareHardwareAccesses
    | setAltSetting intf a => exact inBounds_setAltSettingAccesses hs
    | resetDevice start =>
      refine iff_of_true (inBounds_append.mpr ⟨inBounds_allPipesAccesses hs, ?_⟩) trivial
      have hsame := SameInterfaces.foldl
        (fun s i => SameInterfaces.stopPipes s (s.interfaces i).pipeContextByIndex)
        (List.range d.device.state.interfaceCount) d.device.state
      exact inBounds_allPipesAccesses (hsame.arraysFit hs)
    | flushPipe pipeID a => exact iff_of_true (inBounds_getPipeContextByID pipeID) trivial
    | refreshForRequest pipeID a => exact iff_of_true (inBounds_getPipeContextByID pipeID) trivial
    | resetPipe pipeID status => exact iff_of_true (inBounds_getPipeContextByID pipeID) trivial
    | setPolicy pipeID policyType value valueLength =>
      exact iff_of_true (inBounds_getPipeContextByID pipeID) trivial
  | getContext intf => exact iff_of_true (inBounds_getContextFromRequestAccesses hs intf) trivial
  | releaseAll => exact iff_of_true (inBounds_interfaceLoop.mpr hs.interfaceCount) trivial
  | abortAll => exact iff_of_true (inBounds_allPipesAccesses hs) trivial
  | setAllPipesToDefault => exact iff_of_true (inBounds_allPipesAccesses hs) trivial

/-- An operation that does not prepare the device keeps its counts within the
arrays, if it fits. -/
theorem arraysFit_run {d : StartedDevice} (hs : d.device.state.ArraysFit) {op : ArrayOperation}
    (hop : ∀ a, op ≠ .pipe (.prepareHardware a)) (hfit : DeviceFits d op) :
    (d.run op).device.state.ArraysFit := by
  cases op with
  | pipe op =>
    cases op with
    | prepareHardware a => exact absurd rfl (hop a)
    | setAltSetting intf a => exact arraysFit_interfaceSetAltSetting hs hfit
    | flushPipe pipeID a => exact (SameInterfaces.flushPipe _ pipeID a).arraysFit hs
    | refreshForRequest pipeID a => exact (SameInterfaces.refreshForRequest _ pipeID a).arraysFit hs
    | resetPipe pipeID status => exact (SameInterfaces.pipeReset _ pipeID status).arraysFit hs
    | setPolicy pipeID policyType value valueLength =>
      exact (SameInterfaces.setPipePolicy _ pipeID policyType value valueLength).arraysFit hs
    | resetDevice start => exact (SameInterfaces.deviceReset _ start).arraysFit hs
  | getContext intf => exact hs
  | releaseAll => exact hs
  | abortAll => exact hs
  | setAllPipesToDefault => exact (SameInterfaces.policySetAllPipesToDefault _).arraysFit hs

theorem StartedDevice.Inv.step {d d' : StartedDevice} {op : ArrayOperation} (hinv : d.Inv)
    (hfit : DeviceFits d op) (hstep : arrayMachine.step d op = some d') : d'.Inv := by
  rcases arrayMachine_step_cases hstep with ⟨a, rfl, hstarted, rfl⟩ | ⟨hop, hstarted, rfl⟩
  · cases hprepared : d.device.prepared with
    | true =>
      have hsame : (deviceOnPrepareHardware d.device a).1 = d.device := by
        rw [deviceOnPrepareHardware, if_pos hprepared]
      have hfits := hinv.arraysFit (hstarted hprepared)
      exact ⟨fun _ => by rw [hsame]; exact hprepared, fun _ => by rw [hsame]; exact hfits⟩
    | false =>
      have hdone : ntSuccess (deviceOnPrepareHardware d.device a).2 = true → _ :=
        arraysFit_deviceOnPrepareHardware hprepared (hfit hprepared)
      exact ⟨fun h => (hdone h).1, fun h => (hdone h).2⟩
  · have hfits := arraysFit_run (hinv.arraysFit hstarted) hop hfit
    have hdevice : (d.run op).device.prepared = d.device.prepared := by cases op <;> rfl
    exact ⟨fun _ => hdevice.trans (hinv.prepared hstarted), fun _ => hfits⟩

/-- **A run stays inside the arrays of the device context exactly when everything
it configures fits them.** -/
theorem arrayMachine_inBounds_iff (ops : List ArrayOperation) :
    arrayMachine.Throughout (fun d op => InBounds (d.accesses op)) {} ops ↔
      arrayMachine.Throughout DeviceFits {} ops := by
  have hinit : StartedDevice.Inv {} := ⟨fun h => (by cases h), fun h => (by cases h)⟩
  refine Machine.throughout_congr ?_ (fun d op d' hinv hfit => hinv.step hfit) hinit
  intro d op d' hinv hstep
  rcases arrayMachine_step_cases hstep with ⟨a, rfl, -, -⟩ | ⟨-, hstarted, -⟩
  · exact inBounds_prepareHardwareAccesses
  · exact inBounds_accesses_iff (hinv.arraysFit hstarted) op

/-- A device with 33 interfaces, none of which has a pipe. -/
def crowdedDevice : PrepareAnswers where
  configure := { numInterfaces := 33, numInterfacesAfter := 33 }

/-- Its configuration writes past the end of `InterfaceContext`. -/
theorem not_inBounds_crowdedDevice :
    ¬arrayMachine.Throughout (fun d op => InBounds (d.accesses op)) {}
      [.pipe (.prepareHardware crowdedDevice)] := by
  intro h
  have hbounds := (h _ rfl).1
  have hmem : ArrayAccess.interfaceContext 32 ∈
      StartedDevice.accesses {} (.pipe (.prepareHardware crowdedDevice)) := by decide
  exact absurd (hbounds _ hmem) (by decide)

end LibusbK
