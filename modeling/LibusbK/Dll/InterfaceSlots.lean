import LibusbK.Dll.DescriptorBounds
import LibusbK.Dll.StackGrouping
import LibusbK.Dll.UsbHandles

/-!
# The slots of the interfaces

`u_Add_Interface` gives every interface element the count of those before it for an
index, and the slot of `SharedInterfaces` at that index, which `Get_SharedInterface`
takes modulo `KDEV_SHARED_INTERFACE_COUNT`.

## Main definitions

* `interfaceNumbers` — the interface numbers of the descriptors of a walk.
* `DevHandle.Numbered` — the elements of a device are numbered in order.
* `SlotsApart` — no two interfaces share a slot, in the parser or in a run of calls.

## Main results

* `walk_numbered` — the parser numbers the elements in order.
* `slotsApart_iff` — slots are apart where there are at most 128 interface numbers.
-/

namespace LibusbK

variable {mem : Memory} {alloc : ℕ → Allocs} {device : DevHandle} {ids : List UInt8}

/-! ### The interface numbers of a descriptor -/

/-- The interface numbers of the first `k` descriptors after the configuration descriptor. -/
def interfaceNumbers (mem : Memory) : ℕ → List UInt8
  | 0 => []
  | k + 1 =>
    if mem (nthOffset mem (k + 1) + 1) = usbDescriptorTypeInterface then
      addNew (mem (nthOffset mem (k + 1) + 2)) (interfaceNumbers mem k)
    else interfaceNumbers mem k

/-- Those of them that `u_Add_Interface` got memory for. -/
def numbersAdded (mem : Memory) (alloc : ℕ → Allocs) : ℕ → List UInt8
  | 0 => []
  | k + 1 =>
    if mem (nthOffset mem (k + 1) + 1) = usbDescriptorTypeInterface ∧
        (alloc k).interfaceEL = true then
      addNew (mem (nthOffset mem (k + 1) + 2)) (numbersAdded mem alloc k)
    else numbersAdded mem alloc k

theorem numbersAdded_of_memory (mem : Memory) (k : ℕ) :
    numbersAdded mem (fun _ => {}) k = interfaceNumbers mem k := by
  induction k with
  | zero => rfl
  | succ k ih => simp [numbersAdded, interfaceNumbers, ih]

theorem nodup_addNew {number : UInt8} {l : List UInt8} (h : l.Nodup) : (addNew number l).Nodup := by
  by_cases hn : number ∈ l
  · rwa [addNew_of_mem hn]
  · rw [addNew_of_not_mem hn]
    exact List.nodup_append.mpr ⟨h, by simp, fun a ha b hb hab =>
      hn (List.mem_singleton.mp hb ▸ hab ▸ ha)⟩

theorem nodup_numbersAdded (mem : Memory) (alloc : ℕ → Allocs) (k : ℕ) :
    (numbersAdded mem alloc k).Nodup := by
  induction k with
  | zero => exact List.nodup_nil
  | succ k ih =>
    unfold numbersAdded
    split
    · exact nodup_addNew ih
    · exact ih

theorem numbersAdded_subset (mem : Memory) (alloc : ℕ → Allocs) (k : ℕ) :
    numbersAdded mem alloc k ⊆ interfaceNumbers mem k := by
  induction k with
  | zero => exact List.nil_subset _
  | succ k ih =>
    intro number h
    unfold numbersAdded at h
    unfold interfaceNumbers
    by_cases ht : mem (nthOffset mem (k + 1) + 1) = usbDescriptorTypeInterface
    · rw [if_pos ht, mem_addNew]
      split at h
      · exact (mem_addNew.mp h).imp_left fun h => ih h
      · exact .inl (ih h)
    · rw [if_neg ht]
      rw [if_neg fun hand => ht hand.1] at h
      exact ih h

theorem length_numbersAdded_le (mem : Memory) (alloc : ℕ → Allocs) (k : ℕ) :
    (numbersAdded mem alloc k).length ≤ (interfaceNumbers mem k).length :=
  ((nodup_numbersAdded mem alloc k).subperm (numbersAdded_subset mem alloc k)).length_le

/-! ### The parser numbers the interfaces in order -/

/-- The interface elements have the numbers `ids`, their positions for indices, and the
slots of these. -/
structure DevHandle.Numbered (device : DevHandle) (ids : List UInt8) : Prop where
  interfaces : Counted InterfaceEL.id InterfaceEL.index device.usbStack.interfaceList
    device.usbStack.interfaceCount ids
  nodup : ids.Nodup
  slots : ∀ el ∈ device.usbStack.interfaceList, el.sharedInterface = sharedSlot el.index

namespace DevHandle.Numbered

variable {number : UInt8}

theorem empty : DevHandle.Numbered {} [] :=
  ⟨Counted.empty _ _, List.nodup_nil, fun _ h => (List.not_mem_nil h).elim⟩

theorem appendInterfaceEL (h : device.Numbered ids) (hn : number ∉ ids) :
    (device.appendInterfaceEL number).Numbered (addNew number ids) := by
  refine ⟨?_, nodup_addNew h.nodup, fun el hel => ?_⟩
  · rw [addNew_of_not_mem hn]
    exact h.interfaces.concat hn rfl h.nodup
  · rcases List.mem_append.mp hel with hel | hel
    · exact h.slots el hel
    · obtain rfl := List.mem_singleton.mp hel
      rfl

/-- A write to an interface element, but for its number, its index and its slot. -/
theorem updateInterface (h : device.Numbered ids) {f : InterfaceEL → InterfaceEL}
    (hid : ∀ el, (f el).id = el.id) (hindex : ∀ el, (f el).index = el.index)
    (hslot : ∀ el, (f el).sharedInterface = el.sharedInterface) :
    DevHandle.Numbered { device with usbStack := device.usbStack.updateInterface number f }
      ids := by
  refine ⟨h.interfaces.update hid hindex, h.nodup, ?_⟩
  refine Keyed.forall_update h.slots (fun el _ hel => hel) fun el _ _ hel => ?_
  rw [hslot, hindex]
  exact hel

theorem updateAlt (h : device.Numbered ids) {alternate : UInt8}
    {f : AltInterfaceEL → AltInterfaceEL} :
    DevHandle.Numbered { device with usbStack := device.usbStack.updateAlt number alternate f }
      ids :=
  h.updateInterface (fun _ => rfl) (fun _ => rfl) fun _ => rfl

theorem mem_iff_find (h : device.Numbered ids) :
    (device.usbStack.findInterfaceEL false number).isSome = true ↔ number ∈ ids :=
  h.interfaces.isSome_find

/-- The interface element of a number, where it is found or appended. -/
theorem obtainInterfaceEL (h : device.Numbered ids) {memAlloc : Bool} {found : DevHandle}
    (hobtain : device.obtainInterfaceEL memAlloc number = some found) :
    found.Numbered (if memAlloc = true then addNew number ids else ids) := by
  rcases DevHandle.obtainInterfaceEL_cases hobtain with ⟨hsome, rfl⟩ | ⟨hnone, rfl, rfl⟩
  · rw [addNew_of_mem (h.mem_iff_find.mp hsome), ite_self]
    exact h
  · rw [if_pos rfl]
    refine h.appendInterfaceEL fun hn => ?_
    rw [← h.mem_iff_find, hnone] at hn
    cases hn

theorem obtainAltInterfaceEL (h : device.Numbered ids) {memAlloc : Bool} {alternate : UInt8}
    {descriptor : ℕ} {found : DevHandle}
    (hobtain : device.obtainAltInterfaceEL memAlloc number alternate descriptor = some found) :
    found.Numbered ids := by
  rcases DevHandle.obtainAltInterfaceEL_cases hobtain with ⟨-, rfl⟩ | ⟨-, -, rfl⟩
  · exact h
  · exact h.updateInterface (fun _ => rfl) (fun _ => rfl) fun _ => rfl

theorem obtainPipeEL (h : device.Numbered ids) {memAlloc : Bool} {alternate address : UInt8}
    {descriptor : ℕ} {found : DevHandle}
    (hobtain : device.obtainPipeEL memAlloc number alternate address descriptor = some found) :
    found.Numbered ids := by
  rcases DevHandle.obtainPipeEL_cases hobtain with ⟨-, rfl⟩ | ⟨-, -, rfl⟩
  · exact h
  · exact h.updateAlt

theorem uAddInterface (h : device.Numbered ids) (mem : Memory) (allocs : Allocs) (desc : ℕ) :
    (uAddInterface mem allocs desc device).device.Numbered
      (if allocs.interfaceEL = true then addNew (mem (desc + 2)) ids else ids) := by
  unfold LibusbK.uAddInterface
  simp only
  cases hobtain : device.obtainInterfaceEL allocs.interfaceEL (mem (desc + 2)) with
  | none =>
    have hmemory : allocs.interfaceEL = false := by
      unfold DevHandle.obtainInterfaceEL at hobtain
      split_ifs at hobtain with hs hm
      exact Bool.not_eq_true _ ▸ hm
    rw [hmemory, if_neg (by decide)]
    exact h
  | some found =>
    have hfound := h.obtainInterfaceEL hobtain
    simp only
    split
    · exact hfound
    · rename_i halt
      exact hfound.obtainAltInterfaceEL halt

theorem uAddPipe (h : device.Numbered ids) (mem : Memory) (allocs : Allocs) (desc : ℕ)
    (number alternate : UInt8) (prevPipe : Option UInt8) :
    (uAddPipe mem allocs desc device number alternate prevPipe).device.Numbered ids := by
  unfold LibusbK.uAddPipe
  simp only
  split
  · split
    · exact h
    · rename_i hobtain
      exact h.obtainPipeEL hobtain
  · split
    · split
      · exact h.updateAlt
      · exact h
    · exact h

end DevHandle.Numbered

/-- The loop body at the next descriptor. -/
theorem Walker.numbered_body {w : Walker}
    (h : w.device.Numbered (numbersAdded mem alloc w.visited)) (hd : w.frame ≠ .done)
    (ht : w.frame = .config ∨
      mem (nthOffset mem (w.visited + 1) + 1) ≠ usbDescriptorTypeInterface) :
    (w.body mem alloc (nthOffset mem (w.visited + 1))).device.Numbered
      (numbersAdded mem alloc (w.visited + 1)) := by
  unfold Walker.body numbersAdded
  cases hf : w.frame with
  | done => exact absurd hf hd
  | config =>
    simp only [uInitConfigBody]
    by_cases hi : mem (nthOffset mem (w.visited + 1) + 1) = usbDescriptorTypeInterface
    · simp only [hi, true_and]
      exact h.uAddInterface mem (alloc w.visited) (nthOffset mem (w.visited + 1))
    · rw [if_neg hi, if_neg fun hand => hi hand.1]
      exact h
  | pipe number alternate prevPipe =>
    have hi := ht.resolve_left fun hc => by rw [hf] at hc; cases hc
    rw [if_neg fun hand => hi hand.1]
    exact h.uAddPipe mem (alloc w.visited) (nthOffset mem (w.visited + 1)) number alternate prevPipe

/-- The walk numbers the elements it adds in order. -/
theorem walk_numbered (mem : Memory) (alloc : ℕ → Allocs) (n : ℕ) :
    (walk mem alloc n).device.Numbered (numbersAdded mem alloc (walk mem alloc n).visited) := by
  refine walk_invariant (P := fun w => w.device.Numbered (numbersAdded mem alloc w.visited))
    .empty (fun w w' h hm => ?_) n
  cases hm with
  | stop hf => exact h
  | ended hd he => exact h
  | last hd hw hl => exact h
  | rewind number alternate prevPipe hf hw hs ht => exact h
  | visit hd hw hs ht => exact Walker.numbered_body h hd ht

/-- A walk visits every descriptor it goes as far as. -/
theorem exists_walk_visited {k : ℕ} (alloc : ℕ → Allocs) (hw : Walked mem k) :
    ∃ n, (walk mem alloc n).AtDescriptor mem ∧ (walk mem alloc n).visited = k ∧
      (walk mem alloc n).frame ≠ .done := by
  induction k with
  | zero =>
    refine ⟨0, (uInitConfig_onTheWay mem {}).resolve_left fun he => ?_, rfl, by simp [uInitConfig]⟩
    have hs := hw.standsAt
    simp only [StandsAt, nthOffset_zero, Int.ofNat_zero, Int.sub_zero] at hs
    exact absurd hs (Nat.not_le.mpr he)
  | succ k ih =>
    obtain ⟨n, hat, hv, hd⟩ := ih (walked_succ.mp hw).1
    -- `u_Add_Pipe` first goes back before an interface descriptor
    obtain ⟨n, hat, hv, hd, ht⟩ : ∃ n, (walk mem alloc n).AtDescriptor mem ∧
        (walk mem alloc n).visited = k ∧ (walk mem alloc n).frame ≠ .done ∧
        ((walk mem alloc n).frame = .config ∨
          mem (nthOffset mem (k + 1) + 1) ≠ usbDescriptorTypeInterface) := by
      by_cases ht : (walk mem alloc n).frame = .config ∨
          mem (nthOffset mem (k + 1) + 1) ≠ usbDescriptorTypeInterface
      · exact ⟨n, hat, hv, hd, ht⟩
      · obtain ⟨hc, hi⟩ := not_or.mp ht
        cases hf : (walk mem alloc n).frame with
        | config => exact absurd hf hc
        | done => exact absurd hf hd
        | pipe number alternate prevPipe =>
          refine ⟨n + 1, ?_⟩
          rw [walk_succ, Walker.step_rewind hat hf (by rw [hv]; exact hw.standsAt)
            (by rw [hv]; exact Decidable.not_not.mp hi)]
          exact ⟨hat, hv, by simp, .inl rfl⟩
    refine ⟨n + 1, ?_⟩
    rw [walk_visit hat hv hw hd ht]
    exact ⟨⟨hw, rfl⟩, rfl, Walker.body_frame_ne_done hd _⟩

/-- A walk has gone as far as it has visited. -/
theorem walked_visited (mem : Memory) (alloc : ℕ → Allocs) (n : ℕ) :
    Walked mem (walk mem alloc n).visited ∨ (walk mem alloc n).visited = 0 := by
  refine walk_invariant (P := fun w => Walked mem w.visited ∨ w.visited = 0) (.inr rfl)
    (fun w w' h hm => ?_) n
  cases hm with
  | stop hf => exact h
  | ended hd he => exact h
  | last hd hw hl => exact h
  | rewind number alternate prevPipe hf hw hs ht => exact h
  | visit hd hw hs ht => exact .inl (walked_succ.mpr ⟨hw.1, hs⟩)

/-- The parser adds no more interfaces than the descriptor has numbers. -/
theorem length_numbersAdded_visited_le {bound : ℕ}
    (h : ∀ k, Walked mem k → (interfaceNumbers mem k).length ≤ bound) (alloc : ℕ → Allocs)
    (n : ℕ) : (numbersAdded mem alloc (walk mem alloc n).visited).length ≤ bound := by
  refine Nat.le_trans (length_numbersAdded_le mem alloc _) ?_
  rcases walked_visited mem alloc n with hw | hzero
  · exact h _ hw
  · rw [hzero]
    exact Nat.zero_le bound

/-! ### Slots apart -/

/-- In the parser no two interface elements have one slot.  In every run of calls on the
opened device every access to `SharedInterfaces` is inside it, and a call that claims
an interface or changes its alternate setting leaves the slots of the others alone. -/
def SlotsApart (mem : Memory) : Prop :=
  ∀ alloc n,
    ((walk mem alloc n).device.usbStack.interfaceList.Pairwise fun a b =>
      a.sharedInterface ≠ b.sharedInterface) ∧
    ((walk mem alloc n).frame = .done →
      ∀ (sharedInterfaces : ℕ → SharedSetting) (calls : List HandleCall) (call : HandleCall),
        let stack := (walk mem alloc n).device.usbStack
        let s := HandleCall.runAll stack { sharedInterfaces } calls
        (∀ i ∈ (call.run stack s).accesses, i < kdevSharedInterfaceCount) ∧
          ∀ el ∈ stack.interfaceList, call.target stack s ≠ some el →
            getSharedInterface (call.run stack s).handles.sharedInterfaces el.index =
              getSharedInterface s.sharedInterfaces el.index)

namespace DevHandle.Numbered

variable {i : ℕ}

/-- The index of an element is its position. -/
theorem index_eq (h : device.Numbered ids) (hi : i < device.usbStack.interfaceList.length) :
    (device.usbStack.interfaceList[i]).index.toNat = i := by
  have hrange := congrArg (·[i]?) h.interfaces.indices
  simpa [hi] using hrange

theorem sharedInterface_eq (h : device.Numbered ids)
    (hi : i < device.usbStack.interfaceList.length) :
    (device.usbStack.interfaceList[i]).sharedInterface = i % 128 := by
  rw [h.slots _ (List.getElem_mem hi), sharedSlot_eq_mod, h.index_eq hi]

theorem eq_of_index_eq (h : device.Numbered ids) {a b : InterfaceEL}
    (ha : a ∈ device.usbStack.interfaceList) (hb : b ∈ device.usbStack.interfaceList)
    (heq : a.index = b.index) : a = b := by
  obtain ⟨i, hi, rfl⟩ := List.mem_iff_getElem.mp ha
  obtain ⟨j, hj, rfl⟩ := List.mem_iff_getElem.mp hb
  have hij : i = j := by rw [← h.index_eq hi, heq, h.index_eq hj]
  simp only [hij]

theorem index_lt (h : device.Numbered ids) (hlen : ids.length ≤ 128) {el : InterfaceEL}
    (hel : el ∈ device.usbStack.interfaceList) : el.index.toNat < 128 := by
  obtain ⟨i, hi, rfl⟩ := List.mem_iff_getElem.mp hel
  rw [h.index_eq hi]
  rw [h.interfaces.length_eq] at hi
  omega

theorem pairwise_slots_iff (h : device.Numbered ids) :
    (device.usbStack.interfaceList.Pairwise fun a b => a.sharedInterface ≠ b.sharedInterface) ↔
      ids.length ≤ 128 := by
  rw [List.pairwise_iff_getElem, ← h.interfaces.length_eq]
  constructor
  · intro hslots
    by_contra hlong
    refine hslots 0 128 (by omega) (by omega) (by omega) ?_
    rw [h.sharedInterface_eq (by omega), h.sharedInterface_eq (by omega)]
  · intro hlen i j hi hj hij
    rw [h.sharedInterface_eq hi, h.sharedInterface_eq hj]
    omega

/-- The slot of another interface is another one. -/
theorem sharedSlot_inj (h : device.Numbered ids) (hlen : ids.length ≤ 128) {el : InterfaceEL}
    (hel : el ∈ device.usbStack.interfaceList) {index : UInt8} (hindex : index.toNat < 128)
    (heq : sharedSlot el.index = sharedSlot index) : el.index = index := by
  have hlt := h.index_lt hlen hel
  rw [sharedSlot_eq_mod, sharedSlot_eq_mod, Nat.mod_eq_of_lt hlt, Nat.mod_eq_of_lt hindex] at heq
  exact UInt8.toNat_inj.mp heq

/-- A call that writes the slot of an index is for the interface of that index. -/
theorem target_of_written (h : device.Numbered ids) {el : InterfaceEL}
    (hel : el ∈ device.usbStack.interfaceList) {s : UsbHandles} {call : HandleCall}
    (hwritten : call.written device.usbStack s = some el.index) :
    call.target device.usbStack s = some el := by
  have hfound {isIndex : Bool} {numberOrIndex : UInt8}
      (hmap : (device.usbStack.findInterfaceEL isIndex numberOrIndex).map InterfaceEL.index =
        some el.index) :
      device.usbStack.findInterfaceEL isIndex numberOrIndex = some el := by
    obtain ⟨other, hother, hindex⟩ := Option.map_eq_some_iff.mp hmap
    rw [hother, h.eq_of_index_eq (mem_of_findInterfaceEL hother) hel hindex]
  have hselected {handle : ℕ} (hsome : s.selected[handle]? = some el.index) :
      (s.selected[handle]?).bind (device.usbStack.findInterfaceEL true) = some el := by
    rw [hsome]
    have hsearch : (device.usbStack.findInterfaceEL true el.index).isSome = true :=
      Keyed.isSome_find.mpr (List.mem_map_of_mem hel)
    obtain ⟨other, hother⟩ := Option.isSome_iff_exists.mp hsearch
    have hkey : other.index = el.index := (Keyed.mem_of_find hother).2
    exact hfound (by rw [hother, Option.map_some, hkey])
  cases call with
  | selectInterface handle indexOrNumber isIndex => cases hwritten
  | cloneHandle handle pool => cases hwritten
  | getAssociatedInterface handle associatedInterfaceIndex pool => cases hwritten
  | querySelectedEndpoint handle endpointAddressOrIndex isIndex => cases hwritten
  | querySelectedPipe handle endpointAddressOrIndex isIndex => cases hwritten
  | claimOrReleaseInterface handle numberOrIndex isClaim isIndex success => exact hfound hwritten
  | setAltInterface handle numberOrIndex isIndex altSettingNumber success => exact hfound hwritten
  | getAltInterface handle numberOrIndex isIndex answer => exact hfound hwritten
  | setCurrentAlternateSetting handle altSettingNumber success => exact hselected hwritten
  | getCurrentAlternateSetting handle answer => exact hselected hwritten

/-- What is selected in a run of calls on the opened device. -/
theorem selected_lt (h : device.Numbered ids) (hlen : ids.length ≤ 128)
    {sharedInterfaces : ℕ → SharedSetting} {calls : List HandleCall} {index : UInt8}
    (hmem : index ∈
      (HandleCall.runAll device.usbStack { sharedInterfaces } calls).selected) :
    index.toNat < 128 := by
  rcases HandleCall.mem_selected_runAll calls hmem with hfirst | hlater
  · obtain rfl := List.mem_singleton.mp hfirst
    decide
  · obtain ⟨el, hel, rfl⟩ := List.mem_map.mp hlater
    exact h.index_lt hlen hel

end DevHandle.Numbered

theorem SlotsApart.length_interfaceNumbers_le {k : ℕ} (h : SlotsApart mem) (hk : Walked mem k) :
    (interfaceNumbers mem k).length ≤ kdevSharedInterfaceCount := by
  obtain ⟨n, -, hv, -⟩ := exists_walk_visited (fun _ => {}) hk
  have hnumbered := walk_numbered mem (fun _ => {}) n
  rw [hv, numbersAdded_of_memory] at hnumbered
  exact hnumbered.pairwise_slots_iff.mp (h _ n).1

/-- **The slots are apart** where the descriptor has at most 128 interface numbers, and
nowhere else. -/
theorem slotsApart_iff (mem : Memory) :
    SlotsApart mem ↔
      ∀ k, Walked mem k → (interfaceNumbers mem k).length ≤ kdevSharedInterfaceCount := by
  constructor
  · exact fun h k hk => h.length_interfaceNumbers_le hk
  · intro h alloc n
    have hnumbered := walk_numbered mem alloc n
    have hlen := length_numbersAdded_visited_le h alloc n
    refine ⟨hnumbered.pairwise_slots_iff.mpr hlen, fun _ sharedInterfaces calls call => ?_⟩
    intro stack s
    have hfollows := call.follows stack s
    refine ⟨fun i hi => ?_, fun el hel htarget => ?_⟩
    · rcases hfollows.accesses i hi with hinside | ⟨index, hindex, rfl⟩
      · exact hinside
      · exact hnumbered.selected_lt hlen hindex
    · refine hfollows.slots _ fun index hwritten heq => htarget ?_
      have hindex : index.toNat < 128 := by
        rcases HandleCall.mem_of_written hwritten with hselected | hinterface
        · exact hnumbered.selected_lt hlen hselected
        · obtain ⟨other, hother, rfl⟩ := List.mem_map.mp hinterface
          exact hnumbered.index_lt hlen hother
      obtain rfl := hnumbered.sharedSlot_inj hlen hel hindex heq
      exact hnumbered.target_of_written hel hwritten

/-- A configuration descriptor with 129 interface descriptors, of the numbers from zero
on. -/
def manyInterfaces : Memory := fun i =>
  if i < 9 then [9, 2, 0x92, 4, 129, 1, 0, 0x80, 50].getD i 0
  else [9, 4, UInt8.ofNat (i / 9 - 1), 0, 0, 0xFF, 0, 0, 0].getD (i % 9) 0

theorem manyInterfaces_add {k i : ℕ} (hi : i < 9) :
    manyInterfaces (9 * (k + 1) + i) = [9, 4, UInt8.ofNat k, 0, 0, 0xFF, 0, 0, 0].getD i 0 := by
  have hdiv : (9 * (k + 1) + i) / 9 - 1 = k := by omega
  have hmod : (9 * (k + 1) + i) % 9 = i := by omega
  unfold manyInterfaces
  rw [if_neg (by omega), hdiv, hmod]

theorem nthOffset_manyInterfaces (k : ℕ) : nthOffset manyInterfaces k = 9 * k := by
  induction k with
  | zero => rfl
  | succ k ih =>
    have hlength : manyInterfaces (9 * k) = 9 := by
      cases k with
      | zero => rfl
      | succ k => exact manyInterfaces_add (i := 0) (by decide)
    rw [nthOffset_succ, ih, hlength]
    rfl

theorem length_interfaceNumbers_manyInterfaces :
    (interfaceNumbers manyInterfaces 129).length = 129 := by
  have hnumbers : ∀ k ≤ 256,
      interfaceNumbers manyInterfaces k = (List.range k).map UInt8.ofNat := by
    intro k hk
    induction k with
    | zero => rfl
    | succ k ih =>
      have hnew : UInt8.ofNat k ∉ (List.range k).map UInt8.ofNat := by
        intro hmem
        obtain ⟨j, hj, heq⟩ := List.mem_map.mp hmem
        rw [List.mem_range] at hj
        have hjk : j % 256 = k % 256 := by simpa using congrArg UInt8.toNat heq
        omega
      have htype : manyInterfaces (9 * (k + 1) + 1) = usbDescriptorTypeInterface :=
        manyInterfaces_add (by decide)
      have hnumber : manyInterfaces (9 * (k + 1) + 2) = UInt8.ofNat k :=
        manyInterfaces_add (by decide)
      rw [interfaceNumbers, nthOffset_manyInterfaces, if_pos htype, hnumber, ih (by omega),
        addNew_of_not_mem hnew, List.range_succ, List.map_append]
      rfl
  rw [hnumbers 129 (by decide), List.length_map, List.length_range]

theorem not_slotsApart_manyInterfaces : ¬ SlotsApart manyInterfaces := by
  intro h
  have hwalked : Walked manyInterfaces 129 := by
    intro j hj
    have htotal : wTotalLength manyInterfaces = 1170 := by simp [wTotalLength, manyInterfaces]
    have hrem : (wTotalLength manyInterfaces : ℤ) - (9 * j : ℕ) = (1170 - 9 * j : ℕ) := by
      omega
    rw [nthOffset_manyInterfaces, StandsAt, hrem]
    have hmod : asUnsigned (1170 - 9 * j : ℕ) = 1170 - 9 * j := by
      simp only [asUnsigned]
      omega
    omega
  have hlen := h.length_interfaceNumbers_le hwalked
  rw [length_interfaceNumbers_manyInterfaces] at hlen
  exact absurd hlen (by decide)

end LibusbK
