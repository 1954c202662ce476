import LibusbK.Dll.PipeCache

/-!
# The handles of a device

The calls of `lusbk_stack_collection.c` that select an interface for a handle or ask
for what is selected, and those of the backends that claim an interface or change its
alternate setting.  What the backend makes of a request is an argument of the call.

## Main definitions

* `UsbHandles` — what the handles of a device share, and what each has selected.
* `HandleResult` — a call, with the entries of `SharedInterfaces` it accesses.
* `selectInterface`, `getAssociatedInterface`, `querySelectedEndpoint`,
  `querySelectedPipe` — the calls of the stack.
* `claimOrReleaseInterface`, `setAltInterface`, `setCurrentAlternateSetting` and their
  kin — those of the backends.
-/

namespace LibusbK

/-! ### Handles and calls -/

/-- The errors of the calls. -/
inductive UsbError
  | invalidHandle
  | invalidParameter
  | noMoreItems
  | resourceNotFound
  | resourceNotAvailable
  /-- What the backend left in `GetLastError`. -/
  | backend
  deriving DecidableEq, Repr

/-- The open handles of a device, each with its `Selected_SharedInterface_Index`, and
the `SharedInterfaces` of the device.  What is selected is always a `UCHAR`. -/
structure UsbHandles where
  selected : List UInt8 := [0]
  sharedInterfaces : ℕ → SharedSetting

/-- A call with its result. -/
structure HandleResult (α : Type) where
  handles : UsbHandles
  result : Except UsbError α
  /-- The indices at which it accesses `SharedInterfaces`. -/
  accesses : List ℕ := []

/-- The call without its result. -/
def HandleResult.forget {α : Type} (r : HandleResult α) : HandleResult Unit :=
  { handles := r.handles, result := r.result.map fun _ => (), accesses := r.accesses }

namespace UsbHandles

variable {α : Type}

/-- `Pub_To_Priv_UsbK`, and the call on the selected index of a valid handle. -/
def withHandle (s : UsbHandles) (handle : ℕ) (call : UInt8 → HandleResult α) :
    HandleResult α :=
  match s.selected[handle]? with
  | none => { handles := s, result := .error .invalidHandle }
  | some selected => call selected

/-- `FindInterfaceEL`, and the call on what it finds. -/
def withInterface (s : UsbHandles) (stack : UsbStack) (isIndex : Bool) (numberOrIndex : UInt8)
    (error : UsbError) (call : InterfaceEL → HandleResult α) : HandleResult α :=
  match stack.findInterfaceEL isIndex numberOrIndex with
  | none => { handles := s, result := .error error }
  | some intfEL => call intfEL

/-! ### The calls of the stack -/

/-- `UsbStack_SelectInterface`. -/
def selectInterface (stack : UsbStack) (s : UsbHandles) (handle : ℕ) (indexOrNumber : UInt8)
    (isIndex : Bool) : HandleResult Unit :=
  if indexOrNumber > 0x7F then { handles := s, result := .error .invalidParameter }
  else
    s.withHandle handle fun _ =>
      s.withInterface stack isIndex indexOrNumber .noMoreItems fun intfEL =>
        { handles := { s with selected := s.selected.set handle intfEL.index }
          result := .ok () }

/-- `UsbStack_CloneHandle`; `pool` is whether there is a handle left to acquire. -/
def cloneHandle (s : UsbHandles) (handle : ℕ) (pool : Bool) : HandleResult ℕ :=
  s.withHandle handle fun selected =>
    if pool then
      { handles := { s with selected := s.selected ++ [selected] }
        result := .ok s.selected.length }
    else { handles := s, result := .error .resourceNotAvailable }

/-- `UsbStack_GetAssociatedInterface`; the sum is taken modulo 256. -/
def getAssociatedInterface (stack : UsbStack) (s : UsbHandles) (handle : ℕ)
    (associatedInterfaceIndex : UInt8) (pool : Bool) : HandleResult ℕ :=
  s.withHandle handle fun selected =>
    let nextIndex := selected + 1 + associatedInterfaceIndex
    s.withInterface stack true nextIndex .noMoreItems fun _ =>
      let cloned := s.cloneHandle handle pool
      match cloned.result with
      | .error error => { cloned with result := .error error }
      | .ok associatedHandle =>
        { handles :=
            { cloned.handles with
              selected := cloned.handles.selected.set associatedHandle nextIndex }
          result := .ok associatedHandle }

/-- The pipe element that `UsbStack_QuerySelectedEndpoint` and
`UsbStack_QuerySelectedPipe` look for, with the alternate setting.  The index of
`SharedInterfaces` is not masked. -/
def findSelectedPipe (stack : UsbStack) (s : UsbHandles) (handle : ℕ)
    (endpointAddressOrIndex : UInt8) (isIndex : Bool) : HandleResult (UInt8 × PipeEL) :=
  s.withHandle handle fun selected =>
    s.withInterface stack true selected .noMoreItems fun intfEL =>
      let altSetting := (s.sharedInterfaces selected.toNat).currentAltSetting
      { handles := s
        result :=
          match intfEL.findAltInterfaceEL false altSetting with
          | none => .error .noMoreItems
          | some altfEL =>
            match altfEL.findPipeEL isIndex endpointAddressOrIndex with
            | none => .error .noMoreItems
            | some pipeEL => .ok (altSetting, pipeEL)
        accesses := [selected.toNat] }

/-- `UsbStack_QuerySelectedEndpoint`; the result is where the descriptor stands. -/
def querySelectedEndpoint (stack : UsbStack) (s : UsbHandles) (handle : ℕ)
    (endpointAddressOrIndex : UInt8) (isIndex : Bool) : HandleResult ℕ :=
  let found := findSelectedPipe stack s handle endpointAddressOrIndex isIndex
  { handles := found.handles
    result := found.result.map fun pipe => pipe.2.descriptor
    accesses := found.accesses }

/-- `UsbStack_QueryPipeEx`; the result is where the descriptors of the pipe stand. -/
def queryPipeEx (stack : UsbStack) (s : UsbHandles) (handle : ℕ)
    (altSettingNumber pipeIndex : UInt8) : HandleResult (ℕ × Option ℕ) :=
  if altSettingNumber > 0x7F ∨ pipeIndex > 0x1F then
    { handles := s, result := .error .invalidParameter }
  else
    s.withHandle handle fun selected =>
      s.withInterface stack true selected .noMoreItems fun intfEL =>
        { handles := s
          result :=
            match intfEL.findAltInterfaceEL false altSettingNumber with
            | none => .error .noMoreItems
            | some altfEL =>
              match altfEL.findPipeEL true pipeIndex with
              | none => .error .noMoreItems
              | some pipeEL => .ok (pipeEL.descriptor, pipeEL.superSpeedCompanionDescriptor) }

/-- `UsbStack_QuerySelectedPipe`. -/
def querySelectedPipe (stack : UsbStack) (s : UsbHandles) (handle : ℕ)
    (endpointAddressOrIndex : UInt8) (isIndex : Bool) : HandleResult (ℕ × Option ℕ) :=
  let found := findSelectedPipe stack s handle endpointAddressOrIndex isIndex
  match found.result with
  | .error error => { found with result := .error error }
  | .ok (altSetting, pipeEL) =>
    let query := queryPipeEx stack s handle altSetting pipeEL.index
    { query with accesses := found.accesses ++ query.accesses }

/-! ### The calls of the backends -/

/-- A write of `Claimed`. -/
def setClaimed (s : UsbHandles) (intfIndex : UInt8) (claimed : Bool) : UsbHandles :=
  { s with
    sharedInterfaces :=
      Function.update s.sharedInterfaces (sharedSlot intfIndex)
        { getSharedInterface s.sharedInterfaces intfIndex with claimed } }

/-- `k_ClaimOrReleaseInterface`, and `w_ClaimOrReleaseInterface`, which makes no request:
`success` is that of the request. -/
def claimOrReleaseInterface (stack : UsbStack) (s : UsbHandles) (handle : ℕ)
    (numberOrIndex : UInt8) (isClaim isIndex success : Bool) : HandleResult Unit :=
  s.withHandle handle fun _ =>
    s.withInterface stack isIndex numberOrIndex .resourceNotFound fun intfEL =>
      { handles :=
          if isClaim && success then
            { s.setClaimed intfEL.index true with
              selected := s.selected.set handle intfEL.index }
          else s.setClaimed intfEL.index false
        result := if success then .ok () else .error .backend
        accesses := [sharedSlot intfEL.index] }

/-- What the calls below do with the alternate setting of a slot: `answer` is what the
backend says that it is, where the request succeeds.  The result is what is stored. -/
def storeAltSetting (s : UsbHandles) (intfIndex : UInt8) (answer : Option UInt8) :
    HandleResult UInt8 :=
  match answer with
  | none => { handles := s, result := .error .backend, accesses := [sharedSlot intfIndex] }
  | some altSetting =>
    { handles :=
        { s with sharedInterfaces := updateAltSetting s.sharedInterfaces intfIndex altSetting }
      result := .ok altSetting
      accesses := [sharedSlot intfIndex] }

/-- `UsbK_SetAltInterface` and `WUsb_SetAltInterface`. -/
def setAltInterface (stack : UsbStack) (s : UsbHandles) (handle : ℕ) (numberOrIndex : UInt8)
    (isIndex : Bool) (altSettingNumber : UInt8) (success : Bool) : HandleResult UInt8 :=
  s.withHandle handle fun _ =>
    s.withInterface stack isIndex numberOrIndex .resourceNotFound fun intfEL =>
      s.storeAltSetting intfEL.index (if success then some altSettingNumber else none)

/-- `UsbK_GetAltInterface` and `WUsb_GetAltInterface`. -/
def getAltInterface (stack : UsbStack) (s : UsbHandles) (handle : ℕ) (numberOrIndex : UInt8)
    (isIndex : Bool) (answer : Option UInt8) : HandleResult UInt8 :=
  s.withHandle handle fun _ =>
    s.withInterface stack isIndex numberOrIndex .noMoreItems fun intfEL =>
      s.storeAltSetting intfEL.index answer

/-- `UsbK_SetCurrentAlternateSetting` and `WUsb_SetCurrentAlternateSetting`. -/
def setCurrentAlternateSetting (s : UsbHandles) (handle : ℕ) (altSettingNumber : UInt8)
    (success : Bool) : HandleResult UInt8 :=
  s.withHandle handle fun selected =>
    s.storeAltSetting selected (if success then some altSettingNumber else none)

/-- `UsbK_GetCurrentAlternateSetting` and `WUsb_GetCurrentAlternateSetting`. -/
def getCurrentAlternateSetting (s : UsbHandles) (handle : ℕ) (answer : Option UInt8) :
    HandleResult UInt8 :=
  s.withHandle handle fun selected => s.storeAltSetting selected answer

end UsbHandles

/-! ### Runs -/

/-- A call on the handles of a device. -/
inductive HandleCall
  | selectInterface (handle : ℕ) (indexOrNumber : UInt8) (isIndex : Bool)
  | cloneHandle (handle : ℕ) (pool : Bool)
  | getAssociatedInterface (handle : ℕ) (associatedInterfaceIndex : UInt8) (pool : Bool)
  | querySelectedEndpoint (handle : ℕ) (endpointAddressOrIndex : UInt8) (isIndex : Bool)
  | querySelectedPipe (handle : ℕ) (endpointAddressOrIndex : UInt8) (isIndex : Bool)
  | claimOrReleaseInterface (handle : ℕ) (numberOrIndex : UInt8) (isClaim isIndex success : Bool)
  | setAltInterface (handle : ℕ) (numberOrIndex : UInt8) (isIndex : Bool)
    (altSettingNumber : UInt8) (success : Bool)
  | getAltInterface (handle : ℕ) (numberOrIndex : UInt8) (isIndex : Bool) (answer : Option UInt8)
  | setCurrentAlternateSetting (handle : ℕ) (altSettingNumber : UInt8) (success : Bool)
  | getCurrentAlternateSetting (handle : ℕ) (answer : Option UInt8)

namespace HandleCall

/-- The call, its result left out. -/
def run (stack : UsbStack) (s : UsbHandles) : HandleCall → HandleResult Unit
  | selectInterface handle indexOrNumber isIndex =>
    (s.selectInterface stack handle indexOrNumber isIndex).forget
  | cloneHandle handle pool => (s.cloneHandle handle pool).forget
  | getAssociatedInterface handle associatedInterfaceIndex pool =>
    (s.getAssociatedInterface stack handle associatedInterfaceIndex pool).forget
  | querySelectedEndpoint handle endpointAddressOrIndex isIndex =>
    (s.querySelectedEndpoint stack handle endpointAddressOrIndex isIndex).forget
  | querySelectedPipe handle endpointAddressOrIndex isIndex =>
    (s.querySelectedPipe stack handle endpointAddressOrIndex isIndex).forget
  | claimOrReleaseInterface handle numberOrIndex isClaim isIndex success =>
    (s.claimOrReleaseInterface stack handle numberOrIndex isClaim isIndex success).forget
  | setAltInterface handle numberOrIndex isIndex altSettingNumber success =>
    (s.setAltInterface stack handle numberOrIndex isIndex altSettingNumber success).forget
  | getAltInterface handle numberOrIndex isIndex answer =>
    (s.getAltInterface stack handle numberOrIndex isIndex answer).forget
  | setCurrentAlternateSetting handle altSettingNumber success =>
    (s.setCurrentAlternateSetting handle altSettingNumber success).forget
  | getCurrentAlternateSetting handle answer =>
    (s.getCurrentAlternateSetting handle answer).forget

/-- The interface whose slot a call is for. -/
def target (stack : UsbStack) (s : UsbHandles) : HandleCall → Option InterfaceEL
  | claimOrReleaseInterface _ numberOrIndex _ isIndex _ =>
    stack.findInterfaceEL isIndex numberOrIndex
  | setAltInterface _ numberOrIndex isIndex _ _ => stack.findInterfaceEL isIndex numberOrIndex
  | getAltInterface _ numberOrIndex isIndex _ => stack.findInterfaceEL isIndex numberOrIndex
  | setCurrentAlternateSetting handle _ _ =>
    (s.selected[handle]?).bind (stack.findInterfaceEL true)
  | getCurrentAlternateSetting handle _ =>
    (s.selected[handle]?).bind (stack.findInterfaceEL true)
  | _ => none

/-- The handles after a sequence of calls. -/
def runAll (stack : UsbStack) (s : UsbHandles) (calls : List HandleCall) : UsbHandles :=
  calls.foldl (fun s call => (call.run stack s).handles) s

end HandleCall

/-! ### What a call leaves alone -/

/-- A call that selects only indices of interfaces, accesses `SharedInterfaces` inside it
or at what is selected, and writes no slot but that of `written`. -/
structure HandleResult.Follows {α : Type} (stack : UsbStack) (s : UsbHandles)
    (written : Option UInt8) (r : HandleResult α) : Prop where
  selected : ∀ index ∈ r.handles.selected,
    index ∈ s.selected ∨ index ∈ stack.interfaceList.map InterfaceEL.index
  accesses : ∀ i ∈ r.accesses,
    i < kdevSharedInterfaceCount ∨ ∃ index ∈ s.selected, i = index.toNat
  slots : ∀ slot, (∀ index, written = some index → slot ≠ sharedSlot index) →
    r.handles.sharedInterfaces slot = s.sharedInterfaces slot

/-- The index whose slot a call writes. -/
def HandleCall.written (stack : UsbStack) (s : UsbHandles) : HandleCall → Option UInt8
  | .claimOrReleaseInterface _ numberOrIndex _ isIndex _ =>
    (stack.findInterfaceEL isIndex numberOrIndex).map InterfaceEL.index
  | .setAltInterface _ numberOrIndex isIndex _ _ =>
    (stack.findInterfaceEL isIndex numberOrIndex).map InterfaceEL.index
  | .getAltInterface _ numberOrIndex isIndex _ =>
    (stack.findInterfaceEL isIndex numberOrIndex).map InterfaceEL.index
  | .setCurrentAlternateSetting handle _ _ => s.selected[handle]?
  | .getCurrentAlternateSetting handle _ => s.selected[handle]?
  | _ => none

/-- A mask of seven bits. -/
theorem sharedSlot_eq_mod (intfIndex : UInt8) : sharedSlot intfIndex = intfIndex.toNat % 128 := by
  unfold sharedSlot
  rw [UInt8.toNat_and]
  exact Nat.and_two_pow_sub_one_eq_mod _ 7

theorem sharedSlot_lt (intfIndex : UInt8) : sharedSlot intfIndex < kdevSharedInterfaceCount := by
  rw [sharedSlot_eq_mod]
  exact Nat.mod_lt _ (by decide)

section Follows

variable {α : Type} {stack : UsbStack} {s : UsbHandles} {written : Option UInt8}
  {handle : ℕ} {isIndex : Bool} {numberOrIndex : UInt8}

theorem mem_of_findInterfaceEL {intfEL : InterfaceEL}
    (h : stack.findInterfaceEL isIndex numberOrIndex = some intfEL) :
    intfEL ∈ stack.interfaceList :=
  List.mem_of_find?_eq_some h

namespace HandleResult

theorem Follows.unchanged (result : Except UsbError α) :
    Follows stack s written { handles := s, result } :=
  ⟨fun _ h => .inl h, fun _ h => (List.not_mem_nil h).elim, fun _ _ => rfl⟩

theorem Follows.withHandle {call : UInt8 → HandleResult α}
    (h : ∀ selected, s.selected[handle]? = some selected →
      (call selected).Follows stack s written) :
    (s.withHandle handle call).Follows stack s written := by
  unfold UsbHandles.withHandle
  cases hselected : s.selected[handle]? with
  | none => exact .unchanged _
  | some selected => exact h selected hselected

theorem Follows.withInterface {error : UsbError} {call : InterfaceEL → HandleResult α}
    (h : ∀ intfEL, stack.findInterfaceEL isIndex numberOrIndex = some intfEL →
      (call intfEL).Follows stack s written) :
    (s.withInterface stack isIndex numberOrIndex error call).Follows stack s written := by
  unfold UsbHandles.withInterface
  cases hfound : stack.findInterfaceEL isIndex numberOrIndex with
  | none => exact .unchanged _
  | some intfEL => exact h intfEL hfound

theorem Follows.forget {r : HandleResult α} (h : r.Follows stack s written) :
    r.forget.Follows stack s written := ⟨h.selected, h.accesses, h.slots⟩

end HandleResult

open HandleResult

theorem follows_selectInterface (indexOrNumber : UInt8) :
    (s.selectInterface stack handle indexOrNumber isIndex).Follows stack s written := by
  unfold UsbHandles.selectInterface
  split
  · exact .unchanged _
  · refine .withHandle fun _ _ => .withInterface fun intfEL hfound => ⟨?_, ?_, fun _ _ => rfl⟩
    · intro index hindex
      rcases List.mem_or_eq_of_mem_set hindex with hold | rfl
      · exact .inl hold
      · exact .inr (List.mem_map_of_mem (mem_of_findInterfaceEL hfound))
    · exact fun _ h => (List.not_mem_nil h).elim

theorem follows_cloneHandle (pool : Bool) :
    (s.cloneHandle handle pool).Follows stack s written := by
  unfold UsbHandles.cloneHandle
  refine .withHandle fun selected hselected => ?_
  split
  · refine ⟨?_, fun _ h => (List.not_mem_nil h).elim, fun _ _ => rfl⟩
    intro index hindex
    rcases List.mem_append.mp hindex with hold | hnew
    · exact .inl hold
    · obtain rfl := List.mem_singleton.mp hnew
      exact .inl (List.mem_of_getElem? hselected)
  · exact .unchanged _

theorem follows_getAssociatedInterface (associatedInterfaceIndex : UInt8) (pool : Bool) :
    (s.getAssociatedInterface stack handle associatedInterfaceIndex pool).Follows
      stack s written := by
  unfold UsbHandles.getAssociatedInterface
  refine .withHandle fun selected hselected => .withInterface fun intfEL hfound => ?_
  have hcloned : (s.cloneHandle handle pool).Follows stack s written := follows_cloneHandle pool
  have hindex : selected + 1 + associatedInterfaceIndex ∈
      stack.interfaceList.map InterfaceEL.index := by
    obtain ⟨hmem, hkey⟩ := Keyed.mem_of_find hfound
    exact hkey ▸ List.mem_map_of_mem hmem
  simp only
  split
  · exact ⟨hcloned.selected, hcloned.accesses, hcloned.slots⟩
  · refine ⟨?_, fun _ h => (List.not_mem_nil h).elim, hcloned.slots⟩
    intro index hmem
    rcases List.mem_or_eq_of_mem_set hmem with hold | rfl
    · exact hcloned.selected index hold
    · exact .inr hindex

theorem follows_findSelectedPipe (endpointAddressOrIndex : UInt8) :
    (s.findSelectedPipe stack handle endpointAddressOrIndex isIndex).Follows stack s written := by
  unfold UsbHandles.findSelectedPipe
  refine .withHandle fun selected hselected => .withInterface fun intfEL _ =>
    ⟨fun _ h => .inl h, ?_, fun _ _ => rfl⟩
  intro i hi
  obtain rfl := List.mem_singleton.mp hi
  exact .inr ⟨selected, List.mem_of_getElem? hselected, rfl⟩

theorem follows_querySelectedEndpoint (endpointAddressOrIndex : UInt8) :
    (s.querySelectedEndpoint stack handle endpointAddressOrIndex isIndex).Follows
      stack s written := by
  have hfound : (s.findSelectedPipe stack handle endpointAddressOrIndex isIndex).Follows
    stack s written := follows_findSelectedPipe endpointAddressOrIndex
  exact ⟨hfound.selected, hfound.accesses, hfound.slots⟩

theorem follows_queryPipeEx (altSettingNumber pipeIndex : UInt8) :
    (s.queryPipeEx stack handle altSettingNumber pipeIndex).Follows stack s written := by
  unfold UsbHandles.queryPipeEx
  split
  · exact .unchanged _
  · exact .withHandle fun _ _ => .withInterface fun _ _ => .unchanged _

theorem follows_querySelectedPipe (endpointAddressOrIndex : UInt8) :
    (s.querySelectedPipe stack handle endpointAddressOrIndex isIndex).Follows stack s written := by
  have hfound : (s.findSelectedPipe stack handle endpointAddressOrIndex isIndex).Follows
    stack s written := follows_findSelectedPipe endpointAddressOrIndex
  unfold UsbHandles.querySelectedPipe
  simp only
  split
  · exact ⟨hfound.selected, hfound.accesses, hfound.slots⟩
  · rename_i altSetting pipeEL _
    have hquery : (s.queryPipeEx stack handle altSetting pipeEL.index).Follows stack s written :=
      follows_queryPipeEx altSetting pipeEL.index
    refine ⟨hquery.selected, fun i hi => ?_, hquery.slots⟩
    rcases List.mem_append.mp hi with hi | hi
    · exact hfound.accesses i hi
    · exact hquery.accesses i hi

theorem slots_update {slot : ℕ} {index : UInt8} {shared : SharedSetting}
    (h : ∀ i, some index = some i → slot ≠ sharedSlot i) :
    Function.update s.sharedInterfaces (sharedSlot index) shared slot =
      s.sharedInterfaces slot :=
  Function.update_of_ne (h index rfl) _ _

theorem accesses_sharedSlot (index : UInt8) :
    ∀ i ∈ [sharedSlot index],
      i < kdevSharedInterfaceCount ∨ ∃ index ∈ s.selected, i = index.toNat := by
  intro i hi
  obtain rfl := List.mem_singleton.mp hi
  exact .inl (sharedSlot_lt index)

theorem follows_claimOrReleaseInterface (isClaim success : Bool) :
    (s.claimOrReleaseInterface stack handle numberOrIndex isClaim isIndex success).Follows stack s
      ((stack.findInterfaceEL isIndex numberOrIndex).map InterfaceEL.index) := by
  refine .withHandle fun _ _ => .withInterface fun intfEL hfound => ?_
  rw [hfound, Option.map_some]
  refine ⟨?_, accesses_sharedSlot intfEL.index, ?_⟩
  · cases hclaimed : isClaim && success with
    | false => exact fun _ h => .inl h
    | true =>
      intro index hindex
      rcases List.mem_or_eq_of_mem_set hindex with hold | rfl
      · exact .inl hold
      · exact .inr (List.mem_map_of_mem (mem_of_findInterfaceEL hfound))
  · intro slot hslot
    cases hclaimed : isClaim && success with
    | false => exact slots_update hslot
    | true => exact slots_update hslot

theorem follows_storeAltSetting (intfIndex : UInt8) (answer : Option UInt8) :
    (s.storeAltSetting intfIndex answer).Follows stack s (some intfIndex) := by
  cases answer with
  | none => exact ⟨fun _ h => .inl h, accesses_sharedSlot intfIndex, fun _ _ => rfl⟩
  | some altSetting =>
    exact ⟨fun _ h => .inl h, accesses_sharedSlot intfIndex, fun _ h => slots_update h⟩

theorem follows_storeAltSetting_found (error : UsbError) (answer : InterfaceEL → Option UInt8) :
    (s.withHandle handle fun _ =>
      s.withInterface stack isIndex numberOrIndex error fun intfEL =>
        s.storeAltSetting intfEL.index (answer intfEL)).Follows stack s
      ((stack.findInterfaceEL isIndex numberOrIndex).map InterfaceEL.index) := by
  refine .withHandle fun _ _ => .withInterface fun intfEL hfound => ?_
  rw [hfound]
  exact follows_storeAltSetting intfEL.index _

theorem follows_storeAltSetting_selected (answer : Option UInt8) :
    (s.withHandle handle fun selected => s.storeAltSetting selected answer).Follows stack s
      s.selected[handle]? := by
  refine .withHandle fun selected hselected => ?_
  rw [hselected]
  exact follows_storeAltSetting selected answer

theorem HandleCall.follows (stack : UsbStack) (s : UsbHandles) (call : HandleCall) :
    (call.run stack s).Follows stack s (call.written stack s) := by
  cases call with
  | selectInterface handle indexOrNumber isIndex =>
    exact (follows_selectInterface indexOrNumber).forget
  | cloneHandle handle pool => exact (follows_cloneHandle pool).forget
  | getAssociatedInterface handle associatedInterfaceIndex pool =>
    exact (follows_getAssociatedInterface associatedInterfaceIndex pool).forget
  | querySelectedEndpoint handle endpointAddressOrIndex isIndex =>
    exact (follows_querySelectedEndpoint endpointAddressOrIndex).forget
  | querySelectedPipe handle endpointAddressOrIndex isIndex =>
    exact (follows_querySelectedPipe endpointAddressOrIndex).forget
  | claimOrReleaseInterface handle numberOrIndex isClaim isIndex success =>
    exact (follows_claimOrReleaseInterface isClaim success).forget
  | setAltInterface handle numberOrIndex isIndex altSettingNumber success =>
    exact (follows_storeAltSetting_found _ _).forget
  | getAltInterface handle numberOrIndex isIndex answer =>
    exact (follows_storeAltSetting_found _ _).forget
  | setCurrentAlternateSetting handle altSettingNumber success =>
    exact (follows_storeAltSetting_selected _).forget
  | getCurrentAlternateSetting handle answer =>
    exact (follows_storeAltSetting_selected _).forget

/-- What is selected after a run is what was selected before it, or an interface. -/
theorem HandleCall.mem_selected_runAll {index : UInt8} (calls : List HandleCall) :
    ∀ {s : UsbHandles}, index ∈ (runAll stack s calls).selected →
      index ∈ s.selected ∨ index ∈ stack.interfaceList.map InterfaceEL.index := by
  induction calls with
  | nil => exact fun h => .inl h
  | cons call calls ih =>
    intro s h
    rcases ih h with hold | hnew
    · exact (call.follows stack s).selected index hold
    · exact .inr hnew

/-- The slot a call writes is that of what is selected, or of an interface. -/
theorem HandleCall.mem_of_written {call : HandleCall} {index : UInt8}
    (h : call.written stack s = some index) :
    index ∈ s.selected ∨ index ∈ stack.interfaceList.map InterfaceEL.index := by
  have hfound {isIndex : Bool} {numberOrIndex : UInt8}
      (hmap : (stack.findInterfaceEL isIndex numberOrIndex).map InterfaceEL.index = some index) :
      index ∈ s.selected ∨ index ∈ stack.interfaceList.map InterfaceEL.index := by
    obtain ⟨el, hel, rfl⟩ := Option.map_eq_some_iff.mp hmap
    exact .inr (List.mem_map_of_mem (mem_of_findInterfaceEL hel))
  cases call with
  | selectInterface handle indexOrNumber isIndex => cases h
  | cloneHandle handle pool => cases h
  | getAssociatedInterface handle associatedInterfaceIndex pool => cases h
  | querySelectedEndpoint handle endpointAddressOrIndex isIndex => cases h
  | querySelectedPipe handle endpointAddressOrIndex isIndex => cases h
  | claimOrReleaseInterface handle numberOrIndex isClaim isIndex success => exact hfound h
  | setAltInterface handle numberOrIndex isIndex altSettingNumber success => exact hfound h
  | getAltInterface handle numberOrIndex isIndex answer => exact hfound h
  | setCurrentAlternateSetting handle altSettingNumber success =>
    exact .inl (List.mem_of_getElem? h)
  | getCurrentAlternateSetting handle answer => exact .inl (List.mem_of_getElem? h)

end Follows

end LibusbK
