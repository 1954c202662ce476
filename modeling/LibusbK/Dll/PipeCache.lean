import Mathlib.Data.List.Pairwise
import LibusbK.Lib.LastWrite
import LibusbK.Dll.Descriptors

/-!
# The pipe cache

`UsbStack_RefreshPipeCache` (`lusbk_stack_collection.c`) writes the handle of every
interface into the cache entries of its endpoints: those of the current alternate
setting overwrite, and the others fill what is empty.

## Main definitions

* `pipeIdToIdx`, `getSharedInterface` — the entry of a pipe, the slot of an interface.
* `UsbStack.refreshPipeCache` — the refresh.
* `SharedPipes.changeAltSetting` — a change of an alternate setting, and the refresh
  after it.

## Main results

* `exists_refreshPipeCache` — the entry of an active endpoint.
* `pipeCache_changeAltSettings` — the entries after any sequence of changes.
-/

namespace LibusbK

/-! ### Slots and entries -/

/-- `PIPEID_TO_IDX`. -/
def pipeIdToIdx (pipeNumber : UInt8) : UInt8 :=
  ((pipeNumber &&& 0xF) ||| (pipeNumber.shiftRight 3 &&& 0x10)) &&& 0x1F

/-- The number and the direction of an endpoint address. -/
def endpointKey (address : UInt8) : UInt8 := address &&& 0x8F

/-- The entry of a pipe is that of its endpoint number and direction. -/
theorem pipeIdToIdx_eq_iff {p q : UInt8} :
    pipeIdToIdx p = pipeIdToIdx q ↔ endpointKey p = endpointKey q := by
  have hindex : ∀ n : Fin 256, pipeIdToIdx (UInt8.ofNat n.val) =
      pipeIdToIdx (endpointKey (UInt8.ofNat n.val)) := by
    decide +kernel
  have hkey : ∀ n : Fin 256, endpointKey (UInt8.ofNat n.val) =
      (pipeIdToIdx (UInt8.ofNat n.val) &&& 0xF) |||
        (pipeIdToIdx (UInt8.ofNat n.val) &&& 0x10).shiftLeft 3 := by
    decide +kernel
  have hcast : ∀ a : UInt8, UInt8.ofNat a.toNat = a := fun _ => UInt8.ofNat_toNat
  constructor
  · intro h
    have hp := hkey ⟨p.toNat, p.toNat_lt⟩
    have hq := hkey ⟨q.toNat, q.toNat_lt⟩
    simp only [hcast] at hp hq
    rw [hp, hq, h]
  · intro h
    have hp := hindex ⟨p.toNat, p.toNat_lt⟩
    have hq := hindex ⟨q.toNat, q.toNat_lt⟩
    simp only [hcast] at hp hq
    rw [hp, hq, h]

/-- `KDEV_SHARED_INTERFACE`: the fields the backends write. -/
structure SharedSetting where
  interfaceHandle : Option ℕ
  currentAltSetting : UInt8
  claimed : Bool
deriving DecidableEq

/-- The slot of `Get_SharedInterface`. -/
def sharedSlot (intfIndex : UInt8) : ℕ := (intfIndex &&& 127).toNat

/-- `Get_SharedInterface`. -/
def getSharedInterface (sharedInterfaces : ℕ → SharedSetting) (intfIndex : UInt8) :
    SharedSetting :=
  sharedInterfaces (sharedSlot intfIndex)

/-! ### The refresh -/

/-- `UsbStack_RefreshPipeCache` at one pipe. -/
def refreshPipe (master : Option ℕ) (shared : SharedSetting) (altfEL : AltInterfaceEL)
    (pipeCache : UInt8 → Option ℕ) (pipeEL : PipeEL) : UInt8 → Option ℕ :=
  let item := pipeIdToIdx pipeEL.id
  if altfEL.id = shared.currentAltSetting then
    Function.update pipeCache item shared.interfaceHandle
  else if pipeCache item = none then
    if shared.interfaceHandle.isSome then
      Function.update pipeCache item shared.interfaceHandle
    else Function.update pipeCache item master
  else pipeCache

/-- `UsbStack_RefreshPipeCache`; `master` is `MasterInterfaceHandle`. -/
def UsbStack.refreshPipeCache (stack : UsbStack) (master : Option ℕ)
    (sharedInterfaces : ℕ → SharedSetting) (pipeCache : UInt8 → Option ℕ) : UInt8 → Option ℕ :=
  stack.interfaceList.foldl (fun pipeCache intfEL =>
    let shared := getSharedInterface sharedInterfaces intfEL.index
    intfEL.altInterfaceList.foldl (fun pipeCache altfEL =>
      altfEL.pipeList.foldl (refreshPipe master shared altfEL) pipeCache) pipeCache) pipeCache

/-- A pipe of the stack, with its interface and its alternate setting. -/
structure StackPipe where
  intfEL : InterfaceEL
  altfEL : AltInterfaceEL
  pipeEL : PipeEL
deriving DecidableEq

/-- The pipes of the stack in the order of its lists. -/
def UsbStack.pipes (stack : UsbStack) : List StackPipe :=
  stack.interfaceList.flatMap fun intfEL =>
    intfEL.altInterfaceList.flatMap fun altfEL =>
      altfEL.pipeList.map fun pipeEL => ⟨intfEL, altfEL, pipeEL⟩

/-- A pipe of a current alternate setting. -/
def StackPipe.Active (sharedInterfaces : ℕ → SharedSetting) (pipe : StackPipe) : Prop :=
  pipe.altfEL.id = (getSharedInterface sharedInterfaces pipe.intfEL.index).currentAltSetting

instance (sharedInterfaces : ℕ → SharedSetting) (pipe : StackPipe) :
    Decidable (pipe.Active sharedInterfaces) :=
  inferInstanceAs (Decidable (_ = _))

/-- The pipes of the current alternate settings. -/
def UsbStack.activePipes (stack : UsbStack) (sharedInterfaces : ℕ → SharedSetting) :
    List StackPipe :=
  stack.pipes.filter fun pipe => pipe.Active sharedInterfaces

section Refresh

variable {stack : UsbStack} {master : Option ℕ} {sharedInterfaces : ℕ → SharedSetting}
  {pipeCache : UInt8 → Option ℕ}

/-- What the refresh does at a pipe. -/
def StackPipe.put (master : Option ℕ) (sharedInterfaces : ℕ → SharedSetting)
    (pipe : StackPipe) : Put UInt8 ℕ :=
  let shared := getSharedInterface sharedInterfaces pipe.intfEL.index
  { key := pipeIdToIdx pipe.pipeEL.id
    value :=
      if pipe.Active sharedInterfaces ∨ shared.interfaceHandle.isSome then shared.interfaceHandle
      else master
    overwrites := decide (pipe.Active sharedInterfaces) }

theorem refreshPipe_eq_putEntry (intfEL : InterfaceEL) (altfEL : AltInterfaceEL)
    (pipeCache : UInt8 → Option ℕ) (pipeEL : PipeEL) :
    refreshPipe master (getSharedInterface sharedInterfaces intfEL.index) altfEL pipeCache pipeEL =
      putEntry pipeCache (StackPipe.put master sharedInterfaces ⟨intfEL, altfEL, pipeEL⟩) := by
  unfold refreshPipe putEntry StackPipe.put StackPipe.Active
  by_cases hactive : altfEL.id =
      (getSharedInterface sharedInterfaces intfEL.index).currentAltSetting
  · simp [hactive]
  · by_cases hempty : pipeCache (pipeIdToIdx pipeEL.id) = none
    · by_cases hhandle :
          (getSharedInterface sharedInterfaces intfEL.index).interfaceHandle.isSome = true
      · simp [hactive, hempty, hhandle]
      · simp [hactive, hempty, hhandle]
    · simp [hactive, hempty]

/-- The refresh is one put for each pipe, in the order of the lists. -/
theorem refreshPipeCache_eq_putEntries :
    stack.refreshPipeCache master sharedInterfaces pipeCache =
      putEntries pipeCache (stack.pipes.map (StackPipe.put master sharedInterfaces)) := by
  unfold UsbStack.refreshPipeCache putEntries UsbStack.pipes
  rw [List.foldl_map, List.foldl_flatMap]
  refine List.foldl_ext _ _ _ fun cache intfEL _ => ?_
  rw [List.foldl_flatMap]
  refine List.foldl_ext _ _ _ fun cache altfEL _ => ?_
  rw [List.foldl_map]
  exact List.foldl_ext _ _ _ fun cache pipeEL _ =>
    refreshPipe_eq_putEntry intfEL altfEL cache pipeEL

/-- The handle of a pipe's interface. -/
def StackPipe.handle (sharedInterfaces : ℕ → SharedSetting) (pipe : StackPipe) : Option ℕ :=
  (getSharedInterface sharedInterfaces pipe.intfEL.index).interfaceHandle

theorem intfEL_mem_of_mem_pipes {pipe : StackPipe} (h : pipe ∈ stack.pipes) :
    pipe.intfEL ∈ stack.interfaceList := by
  obtain ⟨intfEL, hintfEL, hpipe⟩ := List.mem_flatMap.mp h
  obtain ⟨altfEL, -, hpipe⟩ := List.mem_flatMap.mp hpipe
  obtain ⟨pipeEL, -, rfl⟩ := List.mem_map.mp hpipe
  exact hintfEL

theorem mem_activePipes {pipe : StackPipe} :
    pipe ∈ stack.activePipes sharedInterfaces ↔
      pipe ∈ stack.pipes ∧ pipe.Active sharedInterfaces := by
  unfold UsbStack.activePipes
  rw [List.mem_filter, decide_eq_true_iff]

/-- After a refresh the entry of an active endpoint holds the handle of an interface on
which an endpoint of that number and direction is active. -/
theorem exists_refreshPipeCache
    (hhandles : ∀ pipe ∈ stack.activePipes sharedInterfaces, pipe.handle sharedInterfaces ≠ none)
    {pipe : StackPipe} (hpipe : pipe ∈ stack.activePipes sharedInterfaces) :
    ∃ other ∈ stack.activePipes sharedInterfaces,
      endpointKey other.pipeEL.id = endpointKey pipe.pipeEL.id ∧
        stack.refreshPipeCache master sharedInterfaces pipeCache (pipeIdToIdx pipe.pipeEL.id) =
          other.handle sharedInterfaces := by
  obtain ⟨hmem, hactive⟩ := mem_activePipes.mp hpipe
  have hwritten : ∃ p ∈ stack.pipes.map (StackPipe.put master sharedInterfaces),
      p.overwrites = true ∧ p.key = pipeIdToIdx pipe.pipeEL.id :=
    ⟨_, List.mem_map_of_mem hmem, decide_eq_true hactive, rfl⟩
  -- what an active pipe writes is the handle of its interface
  have hwrites : ∀ p ∈ stack.pipes.map (StackPipe.put master sharedInterfaces),
      p.overwrites = true → p.key = pipeIdToIdx pipe.pipeEL.id → ∃ v, p.value = some v ∧
        ∃ other ∈ stack.activePipes sharedInterfaces,
          endpointKey other.pipeEL.id = endpointKey pipe.pipeEL.id ∧
            other.handle sharedInterfaces = some v := by
    intro p hp hover hkey
    obtain ⟨other, hother, rfl⟩ := List.mem_map.mp hp
    have hactive' : other.Active sharedInterfaces := of_decide_eq_true hover
    have hother' := mem_activePipes.mpr ⟨hother, hactive'⟩
    obtain ⟨v, hv⟩ := Option.ne_none_iff_exists'.mp (hhandles other hother')
    have hvalue : (other.put master sharedInterfaces).value = some v := by
      rw [← hv]
      exact if_pos (Or.inl hactive')
    exact ⟨v, hvalue, other, hother', pipeIdToIdx_eq_iff.mp hkey, hv⟩
  obtain ⟨v, hv, other, hother, hkey, hhandle⟩ :=
    exists_putEntries _ pipeCache hwritten hwrites
  refine ⟨other, hother, hkey, ?_⟩
  rw [refreshPipeCache_eq_putEntries, hv, ← hhandle]

end Refresh

/-! ### Changes of alternate settings -/

/-- What the backends keep of the interfaces of a device: `SharedInterfaces` and
`PipeCache`. -/
structure SharedPipes where
  sharedInterfaces : ℕ → SharedSetting
  pipeCache : UInt8 → Option ℕ

/-- `Update_SharedInterface_AltSetting` for the interface of an index. -/
def updateAltSetting (sharedInterfaces : ℕ → SharedSetting) (intfIndex altSettingNumber : UInt8) :
    ℕ → SharedSetting :=
  Function.update sharedInterfaces (sharedSlot intfIndex)
    { getSharedInterface sharedInterfaces intfIndex with currentAltSetting := altSettingNumber }

/-- A change of the alternate setting of an interface, and the refresh after it. -/
def SharedPipes.changeAltSetting (stack : UsbStack) (master : Option ℕ) (pipes : SharedPipes)
    (change : UInt8 × UInt8) : SharedPipes :=
  let sharedInterfaces := updateAltSetting pipes.sharedInterfaces change.1 change.2
  { sharedInterfaces
    pipeCache := stack.refreshPipeCache master sharedInterfaces pipes.pipeCache }

/-- A sequence of such changes. -/
def SharedPipes.changeAltSettings (stack : UsbStack) (master : Option ℕ) (pipes : SharedPipes)
    (changes : List (UInt8 × UInt8)) : SharedPipes :=
  changes.foldl (SharedPipes.changeAltSetting stack master) pipes

section Changes

variable {stack : UsbStack} {master : Option ℕ}

/-- A change of an alternate setting leaves every handle as it is. -/
theorem interfaceHandle_updateAltSetting (sharedInterfaces : ℕ → SharedSetting)
    (intfIndex altSettingNumber : UInt8) (slot : ℕ) :
    (updateAltSetting sharedInterfaces intfIndex altSettingNumber slot).interfaceHandle =
      (sharedInterfaces slot).interfaceHandle := by
  unfold updateAltSetting
  by_cases hslot : slot = sharedSlot intfIndex
  · rw [hslot, Function.update_self]
    rfl
  · rw [Function.update_of_ne hslot]

theorem getSharedInterface_updateAltSetting_self (sharedInterfaces : ℕ → SharedSetting)
    (intfIndex altSettingNumber : UInt8) :
    getSharedInterface (updateAltSetting sharedInterfaces intfIndex altSettingNumber) intfIndex =
      { getSharedInterface sharedInterfaces intfIndex with
        currentAltSetting := altSettingNumber } :=
  Function.update_self _ _ _

theorem getSharedInterface_updateAltSetting_of_ne (sharedInterfaces : ℕ → SharedSetting)
    {intfIndex other : UInt8} (altSettingNumber : UInt8)
    (h : sharedSlot other ≠ sharedSlot intfIndex) :
    getSharedInterface (updateAltSetting sharedInterfaces intfIndex altSettingNumber) other =
      getSharedInterface sharedInterfaces other :=
  Function.update_of_ne h _ _

theorem interfaceHandle_changeAltSettings (pipes : SharedPipes)
    (changes : List (UInt8 × UInt8)) (slot : ℕ) :
    ((pipes.changeAltSettings stack master changes).sharedInterfaces slot).interfaceHandle =
      (pipes.sharedInterfaces slot).interfaceHandle := by
  induction changes generalizing pipes with
  | nil => rfl
  | cons change changes ih =>
    exact (ih _).trans (interfaceHandle_updateAltSetting _ _ _ _)

/-- After the last of the changes the entries are refreshed. -/
theorem exists_pipeCache_changeAltSettings (pipes : SharedPipes)
    {changes : List (UInt8 × UInt8)} (hchanges : changes ≠ []) :
    ∃ stale, (pipes.changeAltSettings stack master changes).pipeCache =
      stack.refreshPipeCache master
        (pipes.changeAltSettings stack master changes).sharedInterfaces stale := by
  obtain ⟨earlier, last, rfl⟩ := (List.eq_nil_or_concat' changes).resolve_left hchanges
  have hlast : pipes.changeAltSettings stack master (earlier ++ [last]) =
      (pipes.changeAltSettings stack master earlier).changeAltSetting stack master last :=
    List.foldl_append
  rw [hlast]
  exact ⟨(pipes.changeAltSettings stack master earlier).pipeCache, rfl⟩

/-- After any changes of alternate settings the entry of every active endpoint holds the
handle of its interface. -/
theorem pipeCache_changeAltSettings (stack : UsbStack) (master : Option ℕ) (pipes : SharedPipes)
    (changes : List (UInt8 × UInt8)) (hchanges : changes ≠ [])
    (hhandles : ∀ intfEL ∈ stack.interfaceList,
      (getSharedInterface pipes.sharedInterfaces intfEL.index).interfaceHandle ≠ none)
    (hdistinct : (stack.activePipes
      (pipes.changeAltSettings stack master changes).sharedInterfaces).Pairwise
        fun p q => endpointKey p.pipeEL.id ≠ endpointKey q.pipeEL.id) :
    ∀ pipe ∈ stack.pipes,
      pipe.Active (pipes.changeAltSettings stack master changes).sharedInterfaces →
        (pipes.changeAltSettings stack master changes).pipeCache (pipeIdToIdx pipe.pipeEL.id) =
          (getSharedInterface pipes.sharedInterfaces pipe.intfEL.index).interfaceHandle := by
  intro pipe hmem hactive
  set after := pipes.changeAltSettings stack master changes with hafter
  have hsame (intfEL : InterfaceEL) :
      (getSharedInterface after.sharedInterfaces intfEL.index).interfaceHandle =
        (getSharedInterface pipes.sharedInterfaces intfEL.index).interfaceHandle :=
    interfaceHandle_changeAltSettings pipes changes _
  have hpipe := mem_activePipes.mpr ⟨hmem, hactive⟩
  obtain ⟨stale, hrefresh⟩ := @exists_pipeCache_changeAltSettings stack master pipes _ hchanges
  have hactive_handles : ∀ pipe ∈ stack.activePipes after.sharedInterfaces,
      pipe.handle after.sharedInterfaces ≠ none := by
    intro pipe hpipe
    rw [StackPipe.handle, hsame]
    exact hhandles _ (intfEL_mem_of_mem_pipes (mem_activePipes.mp hpipe).1)
  obtain ⟨other, hother, hkey, hentry⟩ := exists_refreshPipeCache hactive_handles hpipe
  have hpipe_eq : other = pipe := by
    by_contra hne
    have : Std.Symm fun p q : StackPipe => endpointKey p.pipeEL.id ≠ endpointKey q.pipeEL.id :=
      ⟨fun _ _ h => h.symm⟩
    exact hdistinct.forall hother hpipe hne hkey
  rw [hrefresh, hentry, hpipe_eq]
  exact hsame pipe.intfEL

/-- Two interfaces of two settings each, the endpoint `0x82` on one or the other. -/
theorem pipeCache_changeAltSettings_twoInterfaces :
    let alt (number address : UInt8) : AltInterfaceEL :=
      { id := number, index := number, descriptor := 0,
        pipeList := [{ id := address, index := 0, descriptor := 0 }] }
    let stack : UsbStack :=
      { interfaceList :=
          [{ id := 0, index := 0, sharedInterface := 0,
             altInterfaceList := [alt 0 0x81, alt 1 0x82] },
           { id := 1, index := 1, sharedInterface := 1,
             altInterfaceList := [alt 0 0x82, alt 1 0x83] }] }
    let pipes : SharedPipes :=
      { sharedInterfaces := fun slot => ⟨some (10 + slot), 0, false⟩
        pipeCache := fun _ => some 11 }
    (pipes.changeAltSettings stack (some 10) [(1, 1), (0, 1)]).pipeCache (pipeIdToIdx 0x82) =
      some 10 := by
  intro alt stack pipes
  let first : InterfaceEL :=
    { id := 0, index := 0, sharedInterface := 0, altInterfaceList := [alt 0 0x81, alt 1 0x82] }
  refine (pipeCache_changeAltSettings stack (some 10) pipes [(1, 1), (0, 1)] ?_ ?_ ?_
    ⟨first, alt 1 0x82, { id := 0x82, index := 0, descriptor := 0 }⟩ ?_ ?_).trans ?_
  · decide
  · decide
  · decide
  · decide
  · decide
  · decide

end Changes

end LibusbK
