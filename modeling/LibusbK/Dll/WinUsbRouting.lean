import LibusbK.Dll.InterfaceSlots
import LibusbK.Dll.WinUsb

/-!
# On which handle a request is made

The pipe cache has, after every call, the handle of an interface an endpoint is active
on.  The pipe policies do not ask it: they are set and read on the master handle, which
is that of the first interface.

## Main definitions

* `WUsbDevice.activePlaces` — the interfaces an endpoint is active on.
* `Routed` — a request is made on the handle of such an interface.
* `WUsbDevice.Tracks` — the slots and the cache agree with WinUSB.

## Main results

* `WUsbDevice.Tracks.run` — every call keeps them so.
* `routed_of_throughout` — requests are routed in a run that sets and reads policies of
  the first interface only.
-/

namespace LibusbK

variable {stack : UsbStack} {d : WUsbDevice}

/-! ### Active endpoints -/

/-- The pipes of an endpoint that are of a setting WinUSB has selected. -/
def WUsbDevice.activePlaces (stack : UsbStack) (d : WUsbDevice) (pipeID : UInt8) :
    List StackPipe :=
  stack.pipes.filter fun pipe =>
    pipe.altfEL.id = d.altSettings pipe.intfEL.index.toNat ∧
      endpointKey pipe.pipeEL.id = endpointKey pipeID

theorem mem_activePlaces {pipeID : UInt8} {pipe : StackPipe} :
    pipe ∈ d.activePlaces stack pipeID ↔
      pipe ∈ stack.pipes ∧ pipe.altfEL.id = d.altSettings pipe.intfEL.index.toNat ∧
        endpointKey pipe.pipeEL.id = endpointKey pipeID := by
  unfold WUsbDevice.activePlaces
  rw [List.mem_filter, decide_eq_true_iff]

/-- A request about an endpoint that is active is made on the handle of an interface it
is active on. -/
def WinUsbRequest.Routed (stack : UsbStack) (d : WUsbDevice) (request : WinUsbRequest) : Prop :=
  d.activePlaces stack request.pipeID ≠ [] →
    ∃ pipe ∈ d.activePlaces stack request.pipeID,
      request.interfaceHandle = some pipe.intfEL.index.toNat

/-- So is the request of a call, if it makes one. -/
def WUsbResult.Routed (stack : UsbStack) (d : WUsbDevice) (r : WUsbResult) : Prop :=
  ∀ request ∈ r.request, request.Routed stack d

/-- A call on a device makes its request on such a handle. -/
def Routed (stack : UsbStack) (d : WUsbDevice) (call : WUsbCall) : Prop :=
  (call.run stack d).Routed stack d

/-- The calls that do not ask the pipe cache: WinUSB is asked for policies of endpoints of
the first interface only, and isochronous transfers are of endpoints that are where their
buffer was registered. -/
def RoutedWhen (stack : UsbStack) (d : WUsbDevice) : WUsbCall → Prop
  | .setPipePolicy _ pipeID policyType valueLength value _ =>
    (policyType = ISO_ALWAYS_START_ASAP ∧ value.isSome ∧ valueLength ≠ 0) ∨
      ∀ pipe ∈ d.activePlaces stack pipeID, pipe.intfEL.index = 0
  | .getPipePolicy _ pipeID policyType hasValue _ =>
    (policyType = ISO_ALWAYS_START_ASAP ∧ hasValue) ∨
      ∀ pipe ∈ d.activePlaces stack pipeID, pipe.intfEL.index = 0
  | .isochReadPipe isochHandle _ _ =>
    ∀ isoch ∈ d.isochs[isochHandle]?, ∀ pipe ∈ d.activePlaces stack isoch.pipeID,
      isoch.interfaceHandle = some pipe.intfEL.index.toNat
  | .isochWritePipe isochHandle _ _ =>
    ∀ isoch ∈ d.isochs[isochHandle]?, ∀ pipe ∈ d.activePlaces stack isoch.pipeID,
      isoch.interfaceHandle = some pipe.intfEL.index.toNat
  | _ => True

/-! ### What the slots and the cache know of WinUSB -/

/-- Every interface has its handle and WinUSB's alternate setting in its slot, handles
select interfaces, and the entry of an active endpoint has the handle of an interface it
is active on. -/
structure WUsbDevice.Tracks (stack : UsbStack) (d : WUsbDevice) : Prop where
  handles : ∀ el ∈ stack.interfaceList,
    (getSharedInterface d.handles.sharedInterfaces el.index).interfaceHandle =
      some el.index.toNat
  settings : ∀ el ∈ stack.interfaceList,
    (getSharedInterface d.handles.sharedInterfaces el.index).currentAltSetting =
      d.altSettings el.index.toNat
  selected : ∀ index ∈ d.handles.selected, stack.interfaceList ≠ [] →
    index ∈ stack.interfaceList.map InterfaceEL.index
  cached : ∀ pipe ∈ stack.pipes, pipe.altfEL.id = d.altSettings pipe.intfEL.index.toNat →
    ∃ other ∈ d.activePlaces stack pipe.pipeEL.id,
      d.getPipeInterfaceHandle pipe.pipeEL.id = some other.intfEL.index.toNat

namespace WUsbDevice

/-- A refresh makes the cache right. -/
theorem tracks_refreshPipeCache
    (hhandles : ∀ el ∈ stack.interfaceList,
      (getSharedInterface d.handles.sharedInterfaces el.index).interfaceHandle =
        some el.index.toNat)
    (hsettings : ∀ el ∈ stack.interfaceList,
      (getSharedInterface d.handles.sharedInterfaces el.index).currentAltSetting =
        d.altSettings el.index.toNat)
    (hselected : ∀ index ∈ d.handles.selected, stack.interfaceList ≠ [] →
      index ∈ stack.interfaceList.map InterfaceEL.index) :
    (d.refreshPipeCache stack).Tracks stack := by
  refine ⟨hhandles, hsettings, hselected, fun pipe hpipe hactive => ?_⟩
  have hiff : ∀ pipe ∈ stack.pipes, (pipe.Active d.handles.sharedInterfaces ↔
      pipe.altfEL.id = d.altSettings pipe.intfEL.index.toNat) := by
    intro pipe hpipe
    unfold StackPipe.Active
    rw [hsettings _ (intfEL_mem_of_mem_pipes hpipe)]
  have hactive' : pipe ∈ stack.activePipes d.handles.sharedInterfaces :=
    mem_activePipes.mpr ⟨hpipe, (hiff pipe hpipe).mpr hactive⟩
  have hsome : ∀ pipe ∈ stack.activePipes d.handles.sharedInterfaces,
      pipe.handle d.handles.sharedInterfaces ≠ none := by
    intro pipe hpipe
    rw [StackPipe.handle, hhandles _ (intfEL_mem_of_mem_pipes (mem_activePipes.mp hpipe).1)]
    exact Option.some_ne_none _
  obtain ⟨other, hother, hkey, hentry⟩ :=
    @exists_refreshPipeCache stack masterInterfaceHandle _ d.pipeCache hsome pipe hactive'
  obtain ⟨hmem, hother⟩ := mem_activePipes.mp hother
  refine ⟨other, mem_activePlaces.mpr ⟨hmem, (hiff other hmem).mp hother, hkey⟩, ?_⟩
  exact hentry.trans (hhandles _ (intfEL_mem_of_mem_pipes hmem))

namespace Tracks

variable {ids : List UInt8} {device : DevHandle}

/-- Other handles that select interfaces, and slots that differ in nothing but whether they
are claimed. -/
theorem congr (h : d.Tracks stack) {handles : UsbHandles}
    (hshared : ∀ slot,
      (handles.sharedInterfaces slot).interfaceHandle =
          (d.handles.sharedInterfaces slot).interfaceHandle ∧
        (handles.sharedInterfaces slot).currentAltSetting =
          (d.handles.sharedInterfaces slot).currentAltSetting)
    (hselected : ∀ index ∈ handles.selected,
      index ∈ d.handles.selected ∨ index ∈ stack.interfaceList.map InterfaceEL.index) :
    WUsbDevice.Tracks stack { d with handles } where
  handles := fun el hel => (hshared _).1.trans (h.handles el hel)
  settings := fun el hel => (hshared _).2.trans (h.settings el hel)
  selected := fun index hindex hne => (hselected index hindex).elim (h.selected index · hne) id
  cached := h.cached

/-- A call that makes no request to WinUSB and no write to a slot but to `Claimed`. -/
theorem ofHandles {α : Type} (h : d.Tracks stack) {r : HandleResult α} {written : Option UInt8}
    (hfollows : r.Follows stack d.handles written)
    (hshared : ∀ slot,
      (r.handles.sharedInterfaces slot).interfaceHandle =
          (d.handles.sharedInterfaces slot).interfaceHandle ∧
        (r.handles.sharedInterfaces slot).currentAltSetting =
          (d.handles.sharedInterfaces slot).currentAltSetting) :
    (d.ofHandles r).device.Tracks stack :=
  h.congr hshared hfollows.selected

theorem ofHandles_unwritten {α : Type} (h : d.Tracks stack) {r : HandleResult α}
    (hfollows : r.Follows stack d.handles none) : (d.ofHandles r).device.Tracks stack := by
  refine h.ofHandles hfollows fun slot => ?_
  rw [hfollows.slots slot fun index hindex => by cases hindex]
  exact ⟨rfl, rfl⟩

theorem fields_setClaimed (s : UsbHandles) (intfIndex : UInt8) (claimed : Bool) (slot : ℕ) :
    ((s.setClaimed intfIndex claimed).sharedInterfaces slot).interfaceHandle =
        (s.sharedInterfaces slot).interfaceHandle ∧
      ((s.setClaimed intfIndex claimed).sharedInterfaces slot).currentAltSetting =
        (s.sharedInterfaces slot).currentAltSetting := by
  unfold UsbHandles.setClaimed
  by_cases hslot : slot = sharedSlot intfIndex
  · simp only [hslot, Function.update_self]
    exact ⟨rfl, rfl⟩
  · simp only [Function.update_of_ne hslot, and_self]

theorem claimOrRelease (h : d.Tracks stack) (handle : ℕ) (numberOrIndex : UInt8)
    (isClaim isIndex : Bool) :
    (d.ofHandles (d.handles.claimOrReleaseInterface stack handle numberOrIndex isClaim isIndex
      true)).device.Tracks stack := by
  refine h.ofHandles (follows_claimOrReleaseInterface isClaim true) fun slot => ?_
  unfold UsbHandles.claimOrReleaseInterface UsbHandles.withHandle UsbHandles.withInterface
  cases d.handles.selected[handle]? with
  | none => exact ⟨rfl, rfl⟩
  | some selected =>
    cases stack.findInterfaceEL isIndex numberOrIndex with
    | none => exact ⟨rfl, rfl⟩
    | some intfEL =>
      cases isClaim with
      | false => exact fields_setClaimed _ _ _ _
      | true => exact fields_setClaimed _ _ _ _

end Tracks

/-! ### A change of an alternate setting -/

section AltSetting

variable {ids : List UInt8} {device : DevHandle} {index : UInt8} {altSettingNumber : UInt8}

/-- WinUSB has answered what the slot of an interface is to hold. -/
theorem Tracks.setAltSetting (h : d.Tracks device.usbStack) (hn : device.Numbered ids)
    (hlen : ids.length ≤ 128)
    (hindex : device.usbStack.interfaceList ≠ [] →
      index ∈ device.usbStack.interfaceList.map InterfaceEL.index) (accepts : Bool) :
    (d.setAltSetting device.usbStack index altSettingNumber accepts).device.Tracks
      device.usbStack := by
  unfold WUsbDevice.setAltSetting
  split
  · rename_i k hhandle
    refine tracks_refreshPipeCache (fun el hel => ?_) (fun el hel => ?_) h.selected
    · exact (interfaceHandle_updateAltSetting _ _ _ _).trans (h.handles el hel)
    · obtain ⟨other, hother, rfl⟩ := List.mem_map.mp (hindex (List.ne_nil_of_mem hel))
      have hk : k = other.index.toNat :=
        Option.some_inj.mp (hhandle.symm.trans (h.handles other hother))
      by_cases heq : el.index = other.index
      · rw [heq, hk]
        exact (congrArg _ (getSharedInterface_updateAltSetting_self _ _ _)).trans
          (Function.update_self other.index.toNat altSettingNumber d.altSettings).symm
      · have hslot : sharedSlot el.index ≠ sharedSlot other.index := fun hsame =>
          heq (hn.sharedSlot_inj hlen hel (hn.index_lt hlen hother) hsame)
        have hne : el.index.toNat ≠ k := fun hsame => heq (UInt8.toNat_inj.mp (hsame.trans hk))
        refine (congrArg _ (getSharedInterface_updateAltSetting_of_ne _ _ hslot)).trans ?_
        exact (h.settings el hel).trans (Function.update_of_ne hne _ _).symm
  · exact h

theorem Tracks.getAltSetting (h : d.Tracks device.usbStack) (hn : device.Numbered ids)
    (hlen : ids.length ≤ 128)
    (hindex : device.usbStack.interfaceList ≠ [] →
      index ∈ device.usbStack.interfaceList.map InterfaceEL.index) (accepts : Bool) :
    (d.getAltSetting device.usbStack index accepts).device.Tracks device.usbStack := by
  cases hhandle : (getSharedInterface d.handles.sharedInterfaces index).interfaceHandle with
  | none =>
    unfold WUsbDevice.getAltSetting
    rw [hhandle]
    exact h
  | some k =>
    -- WinUSB goes on with the setting it has
    have hset : (d.getAltSetting device.usbStack index accepts).device =
        (d.setAltSetting device.usbStack index (d.altSettings k) accepts).device := by
      unfold WUsbDevice.getAltSetting WUsbDevice.setAltSetting
      rw [hhandle]
      cases accepts with
      | false => rfl
      | true => simp only [Function.update_eq_self]
    rw [hset]
    exact h.setAltSetting hn hlen hindex accepts

end AltSetting

/-! ### Every call keeps the slots and the cache right -/

theorem withHandle_induction {P : WUsbResult → Prop} {handle : ℕ} {call : UInt8 → WUsbResult}
    (hnone : P { device := d, success := false })
    (h : ∀ selected, d.handles.selected[handle]? = some selected → P (call selected)) :
    P (d.withHandle handle call) := by
  unfold WUsbDevice.withHandle
  cases hselected : d.handles.selected[handle]? with
  | none => exact hnone
  | some selected => exact h selected hselected

theorem withInterface_induction {P : WUsbResult → Prop} {isIndex : Bool} {numberOrIndex : UInt8}
    {call : InterfaceEL → WUsbResult} (hnone : P { device := d, success := false })
    (h : ∀ intfEL, stack.findInterfaceEL isIndex numberOrIndex = some intfEL → P (call intfEL)) :
    P (d.withInterface stack isIndex numberOrIndex call) := by
  unfold WUsbDevice.withInterface
  cases hfound : stack.findInterfaceEL isIndex numberOrIndex with
  | none => exact hnone
  | some intfEL => exact h intfEL hfound

theorem Tracks.updatePolicy (h : d.Tracks stack) (pipeID : UInt8)
    (f : UserPipePolicy → UserPipePolicy) : (d.updatePolicy pipeID f).Tracks stack :=
  ⟨h.handles, h.settings, h.selected, h.cached⟩

theorem device_isochTransfer (asap inFrame : WinUsbFunction) (isoch : IsochHandle)
    (frameNumber accepts : Bool) :
    (d.isochTransfer asap inFrame isoch frameNumber accepts).device = d := by
  unfold WUsbDevice.isochTransfer
  generalize (if !frameNumber || (d.pipePolicies (pipeIdToIdx isoch.pipeID)).isoasap ≠ 0 then asap
    else inFrame) = function
  dsimp only
  split
  · rfl
  · rfl

variable {ids : List UInt8} {device : DevHandle}

theorem Tracks.run (h : d.Tracks device.usbStack) (hn : device.Numbered ids)
    (hlen : ids.length ≤ 128) (call : WUsbCall) :
    (call.run device.usbStack d).device.Tracks device.usbStack := by
  have hselected {handle : ℕ} {selected : UInt8}
      (hsome : d.handles.selected[handle]? = some selected) :
      device.usbStack.interfaceList ≠ [] →
        selected ∈ device.usbStack.interfaceList.map InterfaceEL.index :=
    h.selected selected (List.mem_of_getElem? hsome)
  have hfound {isIndex : Bool} {numberOrIndex : UInt8} {intfEL : InterfaceEL}
      (hsome : device.usbStack.findInterfaceEL isIndex numberOrIndex = some intfEL) :
      device.usbStack.interfaceList ≠ [] →
        intfEL.index ∈ device.usbStack.interfaceList.map InterfaceEL.index :=
    fun _ => List.mem_map_of_mem (mem_of_findInterfaceEL hsome)
  have hpipe {function : WinUsbFunction} {handle : ℕ} {pipeID : UInt8} {accepts : Bool} :
      (d.pipeRequest function handle pipeID accepts).device.Tracks device.usbStack :=
    withHandle_induction (P := fun r => r.device.Tracks device.usbStack) h fun _ _ => h
  cases call with
  | claimInterface handle numberOrIndex isIndex => exact h.claimOrRelease _ _ _ _
  | releaseInterface handle numberOrIndex isIndex => exact h.claimOrRelease _ _ _ _
  | selectInterface handle numberOrIndex isIndex =>
    exact h.ofHandles_unwritten (follows_selectInterface numberOrIndex)
  | cloneHandle handle pool => exact h.ofHandles_unwritten (follows_cloneHandle pool)
  | getAssociatedInterface handle associatedInterfaceIndex pool =>
    exact h.ofHandles_unwritten (follows_getAssociatedInterface associatedInterfaceIndex pool)
  | setCurrentAlternateSetting handle altSettingNumber accepts =>
    exact withHandle_induction (P := fun r => r.device.Tracks device.usbStack) h
      fun selected hsome => h.setAltSetting hn hlen (hselected hsome) accepts
  | getCurrentAlternateSetting handle accepts =>
    exact withHandle_induction (P := fun r => r.device.Tracks device.usbStack) h
      fun selected hsome => h.getAltSetting hn hlen (hselected hsome) accepts
  | setAltInterface handle numberOrIndex isIndex altSettingNumber accepts =>
    exact withHandle_induction (P := fun r => r.device.Tracks device.usbStack) h fun _ _ =>
      withInterface_induction (P := fun r => r.device.Tracks device.usbStack) h
        fun intfEL hsome => h.setAltSetting hn hlen (hfound hsome) accepts
  | getAltInterface handle numberOrIndex isIndex accepts =>
    exact withHandle_induction (P := fun r => r.device.Tracks device.usbStack) h fun _ _ =>
      withInterface_induction (P := fun r => r.device.Tracks device.usbStack) h
        fun intfEL hsome => h.getAltSetting hn hlen (hfound hsome) accepts
  | setPipePolicy handle pipeID policyType valueLength value accepts =>
    refine withHandle_induction (P := fun r => r.device.Tracks device.usbStack) h fun _ _ => ?_
    split
    · dsimp only
      exact h.updatePolicy pipeID _
    · dsimp only
      split
      · exact h.updatePolicy pipeID _
      · exact h
  | getPipePolicy handle pipeID policyType hasValue accepts =>
    refine withHandle_induction (P := fun r => r.device.Tracks device.usbStack) h fun _ _ => ?_
    split
    · exact h
    · exact h
  | resetPipe handle pipeID accepts => exact hpipe
  | abortPipe handle pipeID accepts => exact hpipe
  | flushPipe handle pipeID accepts => exact hpipe
  | readPipe handle pipeID accepts => exact hpipe
  | writePipe handle pipeID accepts => exact hpipe
  | isochInit handle pipeID ready accepts =>
    refine withHandle_induction (P := fun r => r.device.Tracks device.usbStack) h fun _ _ => ?_
    split
    · exact h
    · simp only
      split
      · exact ⟨h.handles, h.settings, h.selected, h.cached⟩
      · exact h
  | isochReadPipe isochHandle frameNumber accepts =>
    unfold WUsbCall.run WUsbDevice.isochReadPipe
    simp only
    split
    · exact h
    · split
      · exact h
      · rw [device_isochTransfer]
        exact h
  | isochWritePipe isochHandle frameNumber accepts =>
    unfold WUsbCall.run WUsbDevice.isochWritePipe
    simp only
    split
    · exact h
    · rw [device_isochTransfer]
      exact h

/-! ### A device that has been opened -/

theorem wInitConfig_apply (interfaceCount slot : ℕ) :
    wInitConfig interfaceCount slot =
      { interfaceHandle := if slot < interfaceCount then some slot else none
        currentAltSetting := 0
        claimed := false } := by
  induction interfaceCount with
  | zero => rfl
  | succ count ih =>
    unfold wInitConfig at ih ⊢
    rw [List.range_succ, List.foldl_append]
    by_cases hslot : slot = count
    · subst hslot
      simp [ih]
    · have hlt : slot < count + 1 ↔ slot < count := by omega
      simp [Function.update_of_ne hslot, ih, hlt]

theorem tracks_wUsbInitialize (hn : device.Numbered ids) (hlen : ids.length ≤ 128)
    (supports : WinUsbFunction → Bool) :
    (wUsbInitialize device.usbStack supports).Tracks device.usbStack := by
  have hslot : ∀ el ∈ device.usbStack.interfaceList,
      getSharedInterface (wInitConfig device.usbStack.interfaceList.length) el.index =
        { interfaceHandle := some el.index.toNat, currentAltSetting := 0, claimed := false } := by
    intro el hel
    have hlt := hn.index_lt hlen hel
    obtain ⟨i, hi, rfl⟩ := List.mem_iff_getElem.mp hel
    have hindex := hn.index_eq hi
    rw [getSharedInterface, sharedSlot_eq_mod, Nat.mod_eq_of_lt hlt, hindex, wInitConfig_apply,
      if_pos hi]
  refine tracks_refreshPipeCache (fun el hel => ?_) (fun el hel => ?_) fun index hindex hne => ?_
  · exact congrArg SharedSetting.interfaceHandle (hslot el hel)
  · exact congrArg SharedSetting.currentAltSetting (hslot el hel)
  · obtain rfl := List.mem_singleton.mp hindex
    have hpos : 0 < device.usbStack.interfaceList.length := List.length_pos_iff.mpr hne
    have hzero : (device.usbStack.interfaceList[0]).index = 0 :=
      UInt8.toNat_inj.mp (hn.index_eq hpos)
    exact hzero ▸ List.mem_map_of_mem (List.getElem_mem hpos)

/-! ### Requests -/

/-- The entry of an active endpoint is the handle of an interface it is active on. -/
theorem Tracks.routed_cached (h : d.Tracks stack) (function : WinUsbFunction) (pipeID : UInt8) :
    WinUsbRequest.Routed stack d ⟨function, d.getPipeInterfaceHandle pipeID, pipeID⟩ := by
  intro hne
  obtain ⟨pipe, hpipe⟩ := List.exists_mem_of_ne_nil _ hne
  obtain ⟨hmem, hactive, hkey⟩ := mem_activePlaces.mp hpipe
  obtain ⟨other, hother, hentry⟩ := h.cached pipe hmem hactive
  obtain ⟨hmem', hactive', hkey'⟩ := mem_activePlaces.mp hother
  refine ⟨other, mem_activePlaces.mpr ⟨hmem', hactive', hkey'.trans hkey⟩, ?_⟩
  rw [← hentry, getPipeInterfaceHandle, getPipeInterfaceHandle, pipeIdToIdx_eq_iff.mpr hkey]

/-- The master handle is that of the first interface. -/
theorem routed_master (function : WinUsbFunction) {pipeID : UInt8}
    (hfirst : ∀ pipe ∈ d.activePlaces stack pipeID, pipe.intfEL.index = 0) :
    WinUsbRequest.Routed stack d ⟨function, masterInterfaceHandle, pipeID⟩ := by
  intro hne
  obtain ⟨pipe, hpipe⟩ := List.exists_mem_of_ne_nil _ hne
  exact ⟨pipe, hpipe, by rw [hfirst pipe hpipe]; rfl⟩

theorem routed_isochTransfer (asap inFrame : WinUsbFunction) {isoch : IsochHandle}
    (frameNumber accepts : Bool)
    (hplace : ∀ pipe ∈ d.activePlaces stack isoch.pipeID,
      isoch.interfaceHandle = some pipe.intfEL.index.toNat) :
    (d.isochTransfer asap inFrame isoch frameNumber accepts).Routed stack d := by
  intro request hrequest hne
  unfold WUsbDevice.isochTransfer at hrequest
  generalize (if !frameNumber || (d.pipePolicies (pipeIdToIdx isoch.pipeID)).isoasap ≠ 0 then asap
    else inFrame) = function at hrequest
  dsimp only at hrequest
  split at hrequest
  · cases hrequest
    obtain ⟨pipe, hpipe⟩ := List.exists_mem_of_ne_nil _ hne
    exact ⟨pipe, hpipe, hplace pipe hpipe⟩
  · cases hrequest

theorem request_setAltSetting (index altSettingNumber : UInt8) (accepts : Bool) :
    (d.setAltSetting stack index altSettingNumber accepts).request = none := by
  unfold WUsbDevice.setAltSetting
  split
  · rfl
  · rfl

theorem request_getAltSetting (index : UInt8) (accepts : Bool) :
    (d.getAltSetting stack index accepts).request = none := by
  unfold WUsbDevice.getAltSetting
  split
  · rfl
  · rfl

/-- A call that meets the condition. -/
theorem Tracks.routed (h : d.Tracks stack) {call : WUsbCall} (hwhen : RoutedWhen stack d call) :
    LibusbK.Routed stack d call := by
  have hnone {r : WUsbResult} (hr : r.request = none) : r.Routed stack d := by
    intro request hrequest
    rw [hr] at hrequest
    cases hrequest
  have hpipe {function : WinUsbFunction} {handle : ℕ} {pipeID : UInt8} {accepts : Bool} :
      (d.pipeRequest function handle pipeID accepts).Routed stack d := by
    refine withHandle_induction (P := WUsbResult.Routed stack d) (hnone rfl)
      fun _ _ request hrequest => ?_
    cases hrequest
    exact h.routed_cached function pipeID
  unfold LibusbK.Routed
  cases call with
  | claimInterface handle numberOrIndex isIndex => exact hnone rfl
  | releaseInterface handle numberOrIndex isIndex => exact hnone rfl
  | selectInterface handle numberOrIndex isIndex => exact hnone rfl
  | cloneHandle handle pool => exact hnone rfl
  | getAssociatedInterface handle associatedInterfaceIndex pool => exact hnone rfl
  | setCurrentAlternateSetting handle altSettingNumber accepts =>
    refine withHandle_induction (P := WUsbResult.Routed stack d) (hnone rfl) fun _ _ => ?_
    exact hnone (request_setAltSetting _ _ _)
  | getCurrentAlternateSetting handle accepts =>
    refine withHandle_induction (P := WUsbResult.Routed stack d) (hnone rfl) fun _ _ => ?_
    exact hnone (request_getAltSetting _ _)
  | setAltInterface handle numberOrIndex isIndex altSettingNumber accepts =>
    refine withHandle_induction (P := WUsbResult.Routed stack d) (hnone rfl) fun _ _ =>
      withInterface_induction (P := WUsbResult.Routed stack d) (hnone rfl) fun _ _ => ?_
    exact hnone (request_setAltSetting _ _ _)
  | getAltInterface handle numberOrIndex isIndex accepts =>
    refine withHandle_induction (P := WUsbResult.Routed stack d) (hnone rfl) fun _ _ =>
      withInterface_induction (P := WUsbResult.Routed stack d) (hnone rfl) fun _ _ => ?_
    exact hnone (request_getAltSetting _ _)
  | setPipePolicy handle pipeID policyType valueLength value accepts =>
    refine withHandle_induction (P := WUsbResult.Routed stack d) (hnone rfl) fun _ _ => ?_
    by_cases hlocal : policyType = ISO_ALWAYS_START_ASAP ∧ value.isSome ∧ valueLength ≠ 0
    · rw [if_pos hlocal]
      exact hnone rfl
    · rw [if_neg hlocal]
      intro request hrequest
      cases hrequest
      exact routed_master _ (hwhen.resolve_left hlocal)
  | getPipePolicy handle pipeID policyType hasValue accepts =>
    refine withHandle_induction (P := WUsbResult.Routed stack d) (hnone rfl) fun _ _ => ?_
    by_cases hlocal : policyType = ISO_ALWAYS_START_ASAP ∧ hasValue = true
    · rw [if_pos hlocal]
      exact hnone rfl
    · rw [if_neg hlocal]
      intro request hrequest
      cases hrequest
      exact routed_master _ (hwhen.resolve_left hlocal)
  | resetPipe handle pipeID accepts => exact hpipe
  | abortPipe handle pipeID accepts => exact hpipe
  | flushPipe handle pipeID accepts => exact hpipe
  | readPipe handle pipeID accepts => exact hpipe
  | writePipe handle pipeID accepts => exact hpipe
  | isochInit handle pipeID ready accepts =>
    refine withHandle_induction (P := WUsbResult.Routed stack d) (hnone rfl) fun _ _ => ?_
    split
    · exact hnone rfl
    · intro request hrequest
      cases hrequest
      exact h.routed_cached _ pipeID
  | isochReadPipe isochHandle frameNumber accepts =>
    unfold WUsbCall.run WUsbDevice.isochReadPipe
    dsimp only
    split
    · exact hnone rfl
    · cases hisoch : d.isochs[isochHandle]? with
      | none => exact hnone rfl
      | some isoch =>
        exact routed_isochTransfer _ _ frameNumber accepts (hwhen isoch hisoch)
  | isochWritePipe isochHandle frameNumber accepts =>
    unfold WUsbCall.run WUsbDevice.isochWritePipe
    dsimp only
    cases hisoch : d.isochs[isochHandle]? with
    | none => exact hnone rfl
    | some isoch =>
      exact routed_isochTransfer _ _ frameNumber accepts (hwhen isoch hisoch)

end WUsbDevice

/-- **WinUSB is asked on the right handle.**  A device with at most 128 interfaces is
opened.  In a run whose calls meet `RoutedWhen` every request about an active endpoint is
made on the handle of an interface the endpoint is active on. -/
theorem routed_of_throughout (mem : Memory) (n : ℕ) (supports : WinUsbFunction → Bool)
    (calls : List WUsbCall)
    (hcount : ∀ k, Walked mem k → (interfaceNumbers mem k).length ≤ kdevSharedInterfaceCount)
    (hcalls :
      let stack := (walk mem (fun _ => {}) n).device.usbStack
      (wUsbCalls stack).Throughout (RoutedWhen stack) (wUsbInitialize stack supports) calls) :
    let stack := (walk mem (fun _ => {}) n).device.usbStack
    (wUsbCalls stack).Throughout (Routed stack) (wUsbInitialize stack supports) calls := by
  have hn := walk_numbered mem (fun _ => {}) n
  have hlen := length_numbersAdded_visited_le hcount (fun _ => {}) n
  refine Machine.Throughout.imp (fun d call h hwhen => h.routed hwhen) (fun d call t h _ ht => ?_)
    (WUsbDevice.tracks_wUsbInitialize hn hlen supports) hcalls
  cases ht
  exact h.run hn hlen call

/-- Two interfaces with a bulk endpoint each. -/
def twoInterfaces : Memory :=
  zeroExtend
    [9, 2, 41, 0, 2, 1, 0, 0x80, 50,
      9, 4, 0, 0, 1, 0xFF, 0, 0, 0, 7, 5, 0x81, 2, 64, 0, 0,
      9, 4, 1, 0, 1, 0xFF, 0, 0, 0, 7, 5, 0x82, 2, 64, 0, 0]

theorem routed_of_throughout_twoInterfaces :
    let stack := (walk twoInterfaces (fun _ => {}) 7).device.usbStack
    (wUsbCalls stack).Throughout (Routed stack) (wUsbInitialize stack fun _ => true)
      [.claimInterface 0 1 true, .setCurrentAlternateSetting 0 0 true, .readPipe 0 0x82 true,
        .setPipePolicy 0 0x81 PIPE_TRANSFER_TIMEOUT 4 (some fun _ => 1) true] := by
  refine routed_of_throughout twoInterfaces 7 (fun _ => true) _ (fun k hk => ?_) ?_
  · have hshort : ∀ k < 5, (interfaceNumbers twoInterfaces k).length ≤ 128 := by decide
    have hend : ¬ StandsAt twoInterfaces (nthOffset twoInterfaces 5) := by decide
    exact hshort k (Nat.lt_of_not_le fun hle => hend (hk.mono hle).standsAt)
  · refine .cons rfl trivial (.cons rfl trivial (.cons rfl trivial (.cons rfl (.inr ?_) trivial)))
    decide +kernel

/-- The timeout of an endpoint of the second interface is set on the handle of the first. -/
theorem not_routed_twoInterfaces :
    let stack := (walk twoInterfaces (fun _ => {}) 7).device.usbStack
    (walk twoInterfaces (fun _ => {}) 7).frame = .done ∧
      ¬ (wUsbCalls stack).Throughout (Routed stack) (wUsbInitialize stack fun _ => true)
        [.setPipePolicy 0 0x82 PIPE_TRANSFER_TIMEOUT 4 (some fun _ => 1) true] := by
  intro stack
  refine ⟨by decide +kernel, fun h => ?_⟩
  obtain ⟨hrouted, -⟩ := h _ rfl
  have hactive : (wUsbInitialize stack fun _ => true).activePlaces stack 0x82 ≠ [] := by
    decide +kernel
  obtain ⟨pipe, hpipe, hhandle⟩ :=
    hrouted ⟨.setPipePolicy, masterInterfaceHandle, 0x82⟩ rfl hactive
  have hplaces : ∀ pipe ∈ (wUsbInitialize stack fun _ => true).activePlaces stack 0x82,
      pipe.intfEL.index = 1 := by
    decide +kernel
  rw [hplaces pipe hpipe] at hhandle
  exact absurd hhandle (by decide)

end LibusbK
