import LibusbK.Dll.UsbStack
import Mathlib.Data.List.Perm.Subperm
import Mathlib.Data.List.Range

/-!
# What the stack stands for

The stack without its pointers, indices and counts: the interface numbers, the
alternate settings of an interface, the endpoint addresses of an alternate setting,
each in a list without repetitions, and the endpoints with a companion.  The
operations of the parser are the evident ones on it.

## Main definitions

* `Grouping` — what a stack stands for, with `addNumber`, `addSetting`, `addAddress`
  and `addCompanion`.
* `Counted` — a list of elements with the IDs, indices and count it should have.
* `UsbStack.Represents` — a stack stands for a grouping.

## Main results

* `UsbStack.Represents.uAddInterface`, `UsbStack.Represents.obtainPipeEL`,
  `UsbStack.Represents.setCompanion` — the operations of the parser do on the stack
  what those of the grouping say, where allocations succeed.
-/

namespace LibusbK

variable {number alternate address : UInt8}

/-! ### Groupings -/

/-- `k` at the end of a list, unless the list has it. -/
def addNew (k : UInt8) (l : List UInt8) : List UInt8 := if k ∈ l then l else l ++ [k]

theorem addNew_of_mem {k : UInt8} {l : List UInt8} (h : k ∈ l) : addNew k l = l := if_pos h

theorem addNew_of_not_mem {k : UInt8} {l : List UInt8} (h : k ∉ l) : addNew k l = l ++ [k] :=
  if_neg h

@[simp] theorem mem_addNew {k x : UInt8} {l : List UInt8} :
    x ∈ addNew k l ↔ x ∈ l ∨ x = k := by
  by_cases h : k ∈ l
  · rw [addNew_of_mem h]
    exact ⟨.inl, fun hx => hx.elim id fun hx => hx ▸ h⟩
  · simp [addNew_of_not_mem h]

/-- What a stack stands for. -/
@[ext] structure Grouping where
  numbers : List UInt8
  settings : UInt8 → List UInt8
  addresses : UInt8 → UInt8 → List UInt8
  companions : UInt8 → UInt8 → UInt8 → Prop

namespace Grouping

/-- An interface number. -/
def addNumber (g : Grouping) (number : UInt8) : Grouping :=
  { g with numbers := addNew number g.numbers }

/-- An alternate setting of an interface. -/
def addSetting (g : Grouping) (number alternate : UInt8) : Grouping :=
  { g with
    settings := fun n => if n = number then addNew alternate (g.settings n) else g.settings n }

/-- An endpoint address of an alternate setting. -/
def addAddress (g : Grouping) (number alternate address : UInt8) : Grouping :=
  { g with
    addresses := fun n a =>
      if n = number ∧ a = alternate then addNew address (g.addresses n a) else g.addresses n a }

/-- A companion of an endpoint. -/
def addCompanion (g : Grouping) (number alternate address : UInt8) : Grouping :=
  { g with
    companions := fun n a x =>
      g.companions n a x ∨ n = number ∧ a = alternate ∧ x = address }

/-- The lists have no repetitions, and what is listed belongs to something listed. -/
structure Valid (g : Grouping) : Prop where
  numbers : g.numbers.Nodup
  settings : ∀ n, (g.settings n).Nodup
  addresses : ∀ n a, (g.addresses n a).Nodup
  settings_empty : ∀ n, n ∉ g.numbers → g.settings n = []
  addresses_empty : ∀ n a, a ∉ g.settings n → g.addresses n a = []
  companions : ∀ n a x, g.companions n a x → x ∈ g.addresses n a

end Grouping

/-! ### Lists with indices and a count -/

/-- A list of elements with IDs `ids`, each with its position as its index, and
`count` for the length.  The count is a `UCHAR`. -/
structure Counted {α : Type} (id index : α → UInt8) (list : List α) (count : UInt8)
    (ids : List UInt8) : Prop where
  ids : list.map id = ids
  indices : list.map (fun el => (index el).toNat) = List.range list.length
  count : count.toNat = list.length % 256

theorem length_le_of_nodup {l : List UInt8} (h : l.Nodup) : l.length ≤ 256 := by
  have hmap : (l.map UInt8.toNat).Nodup :=
    List.Pairwise.map _ (fun a b hab heq => hab (UInt8.toNat_inj.mp heq)) h
  have hsub : l.map UInt8.toNat ⊆ List.range 256 := by
    intro n hn
    obtain ⟨x, -, rfl⟩ := List.mem_map.mp hn
    exact List.mem_range.mpr x.toNat_lt
  simpa using (List.subperm_of_subset hmap hsub).length_le

theorem length_ge_of_forall_mem {l : List UInt8} (h : ∀ x, x ∈ l) : 256 ≤ l.length := by
  have hsub : List.range 256 ⊆ l.map UInt8.toNat := by
    intro n hn
    refine List.mem_map.mpr ⟨UInt8.ofNat n, h _, ?_⟩
    exact UInt8.toNat_ofNat_of_lt' (List.mem_range.mp hn)
  simpa using (List.subperm_of_subset List.nodup_range hsub).length_le

namespace Counted

variable {α : Type} {id index : α → UInt8} {list : List α} {count : UInt8} {ids : List UInt8}

theorem length_eq (h : Counted id index list count ids) : list.length = ids.length := by
  rw [← h.ids, List.length_map]

theorem empty (id index : α → UInt8) : Counted id index [] 0 [] := ⟨rfl, rfl, rfl⟩

/-- The new element has the count for its index, and the count goes up by one.  The
count has not wrapped around before: the IDs are bytes without repetitions. -/
theorem concat (h : Counted id index list count ids) {el : α} (hnew : id el ∉ ids)
    (hindex : index el = count) (hnodup : ids.Nodup) :
    Counted id index (list ++ [el]) (count + 1) (ids ++ [id el]) := by
  have hlt : list.length < 256 := by
    have hcons : (id el :: ids).Nodup := List.nodup_cons.mpr ⟨hnew, hnodup⟩
    have hle := length_le_of_nodup hcons
    rw [List.length_cons, ← h.length_eq] at hle
    exact hle
  have hcount : count.toNat = list.length := by
    rw [h.count, Nat.mod_eq_of_lt hlt]
  refine ⟨by simp [h.ids], ?_, ?_⟩
  · simp [h.indices, hindex, hcount, List.range_succ]
  · rw [UInt8.toNat_add, hcount, List.length_append]
    rfl

/-- A write to the other fields changes nothing of it. -/
theorem update (h : Counted id index list count ids) {key : α → UInt8} {k : UInt8} {f : α → α}
    (hid : ∀ el, id (f el) = id el) (hindex : ∀ el, index (f el) = index el) :
    Counted id index (Keyed.update key k f list) count ids := by
  refine ⟨?_, ?_, ?_⟩
  · rw [Keyed.map_update hid]
    exact h.ids
  · have htoNat : ∀ el, (index (f el)).toNat = (index el).toNat :=
      fun el => congrArg UInt8.toNat (hindex el)
    rw [Keyed.length_update]
    exact (Keyed.map_update htoNat).trans h.indices
  · rw [Keyed.length_update]
    exact h.count

theorem isSome_find (h : Counted id index list count ids) {k : UInt8} :
    (Keyed.find id k list).isSome = true ↔ k ∈ ids := by
  rw [Keyed.isSome_find, h.ids]

end Counted

/-! ### The stack of a grouping -/

/-- The pipe elements of an alternate setting are those of a grouping. -/
structure AltInterfaceEL.Represents (g : Grouping) (number : UInt8) (alt : AltInterfaceEL) :
    Prop where
  pipes : Counted PipeEL.id PipeEL.index alt.pipeList alt.pipeCount (g.addresses number alt.id)
  companions : ∀ pipe ∈ alt.pipeList,
    pipe.superSpeedCompanionDescriptor.isSome = true ↔ g.companions number alt.id pipe.id

/-- The alternate setting elements of an interface are those of a grouping. -/
structure InterfaceEL.Represents (g : Grouping) (el : InterfaceEL) : Prop where
  alts : Counted AltInterfaceEL.id AltInterfaceEL.index el.altInterfaceList el.altInterfaceCount
    (g.settings el.id)
  pipes : ∀ alt ∈ el.altInterfaceList, alt.Represents g el.id

/-- The elements of a stack are those of a grouping. -/
structure UsbStack.Represents (stack : UsbStack) (g : Grouping) : Prop where
  interfaces : Counted InterfaceEL.id InterfaceEL.index stack.interfaceList stack.interfaceCount
    g.numbers
  alts : ∀ el ∈ stack.interfaceList, el.Represents g

variable {device : DevHandle} {g g' : Grouping} {stack : UsbStack}

theorem AltInterfaceEL.Represents.congr {alt : AltInterfaceEL} (h : alt.Represents g number)
    (ha : g'.addresses number alt.id = g.addresses number alt.id)
    (hc : ∀ x, g'.companions number alt.id x ↔ g.companions number alt.id x) :
    alt.Represents g' number := by
  refine ⟨?_, fun pipe hpipe => ?_⟩
  · rw [ha]
    exact h.pipes
  · rw [hc]
    exact h.companions pipe hpipe

theorem InterfaceEL.Represents.congr {el : InterfaceEL} (h : el.Represents g)
    (hs : g'.settings el.id = g.settings el.id)
    (ha : ∀ a, g'.addresses el.id a = g.addresses el.id a)
    (hc : ∀ a x, g'.companions el.id a x ↔ g.companions el.id a x) : el.Represents g' := by
  refine ⟨?_, fun alt halt => (h.pipes alt halt).congr (ha alt.id) (hc alt.id)⟩
  rw [hs]
  exact h.alts

namespace UsbStack.Represents

/-! ### What a search finds -/

theorem isSome_findInterfaceEL (h : stack.Represents g) :
    (stack.findInterfaceEL false number).isSome = true ↔ number ∈ g.numbers :=
  h.interfaces.isSome_find

theorem isSome_altInterfaceAt (h : stack.Represents g) (hn : number ∈ g.numbers) :
    (stack.altInterfaceAt number alternate).isSome = true ↔ alternate ∈ g.settings number := by
  obtain ⟨el, hel⟩ := Option.isSome_iff_exists.mp (h.isSome_findInterfaceEL.mpr hn)
  obtain ⟨hmem, rfl⟩ := Keyed.mem_of_find hel
  rw [UsbStack.altInterfaceAt, hel]
  exact (h.alts el hmem).alts.isSome_find

theorem isSome_pipeAt (h : stack.Represents g) (hn : number ∈ g.numbers)
    (ha : alternate ∈ g.settings number) :
    (stack.pipeAt number alternate address).isSome = true ↔
      address ∈ g.addresses number alternate := by
  obtain ⟨alt, halt⟩ := Option.isSome_iff_exists.mp ((h.isSome_altInterfaceAt hn).mpr ha)
  rw [UsbStack.pipeAt, halt]
  rw [UsbStack.altInterfaceAt, Option.bind_eq_some_iff] at halt
  obtain ⟨el, hel, halt⟩ := halt
  obtain ⟨hmem, rfl⟩ := Keyed.mem_of_find hel
  obtain ⟨hmem', rfl⟩ := Keyed.mem_of_find halt
  exact ((h.alts el hmem).pipes alt hmem').pipes.isSome_find

/-! ### A write to one alternate setting -/

/-- A write to the alternate setting elements of an interface, or to them alone. -/
theorem updateInterface (h : stack.Represents g) {f : InterfaceEL → InterfaceEL}
    (hid : ∀ el, (f el).id = el.id) (hindex : ∀ el, (f el).index = el.index)
    (hnumbers : g'.numbers = g.numbers)
    (hne : ∀ el : InterfaceEL, el.id ≠ number → el.Represents g → el.Represents g')
    (heq : ∀ el : InterfaceEL, el.id = number → el.Represents g → (f el).Represents g') :
    (stack.updateInterface number f).Represents g' := by
  refine ⟨?_, Keyed.forall_update h.alts hne fun el _ hk hel => heq el hk hel⟩
  rw [hnumbers]
  exact h.interfaces.update hid hindex

/-- A write to the pipes of one alternate setting. -/
theorem updateAlt (h : stack.Represents g) {f : AltInterfaceEL → AltInterfaceEL}
    (hid : ∀ alt, (f alt).id = alt.id) (hindex : ∀ alt, (f alt).index = alt.index)
    (hnumbers : g'.numbers = g.numbers) (hsettings : g'.settings = g.settings)
    (haddresses : ∀ n a, ¬ (n = number ∧ a = alternate) → g'.addresses n a = g.addresses n a)
    (hcompanions : ∀ n a x, ¬ (n = number ∧ a = alternate) →
      (g'.companions n a x ↔ g.companions n a x))
    (heq : ∀ alt : AltInterfaceEL, alt.id = alternate → alt.Represents g number →
      (f alt).Represents g' number) :
    (stack.updateAlt number alternate f).Represents g' := by
  refine h.updateInterface (fun _ => rfl) (fun _ => rfl) hnumbers (fun el hk hel => ?_)
    fun el hk hel => ⟨?_, ?_⟩
  · have hother : ∀ a, ¬ (el.id = number ∧ a = alternate) := fun a ha => hk ha.1
    exact hel.congr (by rw [hsettings]) (fun a => haddresses _ a (hother a))
      fun a x => hcompanions _ a x (hother a)
  · rw [hsettings]
    exact hel.alts.update hid hindex
  · subst hk
    refine Keyed.forall_update hel.pipes (fun alt ha halt => ?_)
      fun alt _ ha halt => heq alt ha halt
    have hother : ¬ (el.id = el.id ∧ alt.id = alternate) := fun h => ha h.2
    exact halt.congr (haddresses _ _ hother) fun x => hcompanions _ _ x hother

/-! ### The operations of the parser -/

/-- The interface element of a number, found or appended. -/
theorem obtainInterfaceEL (h : device.usbStack.Represents g) (hv : g.Valid) (number : UInt8) :
    ∃ device', device.obtainInterfaceEL true number = some device' ∧
      device'.usbStack.Represents (g.addNumber number) := by
  by_cases hn : number ∈ g.numbers
  · refine ⟨device, ?_, ?_⟩
    · rw [DevHandle.obtainInterfaceEL, if_pos (h.isSome_findInterfaceEL.mpr hn)]
    · rw [Grouping.addNumber, addNew_of_mem hn]
      exact h
  · refine ⟨device.appendInterfaceEL number, ?_, ?_, fun el hel => ?_⟩
    · rw [DevHandle.obtainInterfaceEL, if_neg fun hs => hn (h.isSome_findInterfaceEL.mp hs)]
      rfl
    · simp only [Grouping.addNumber, addNew_of_not_mem hn]
      exact h.interfaces.concat hn rfl hv.numbers
    · rcases List.mem_append.mp hel with hel | hel
      · exact (h.alts el hel).congr rfl (fun a => rfl) fun a x => Iff.rfl
      · obtain rfl := List.mem_singleton.mp hel
        refine ⟨?_, by simp⟩
        simp only [Grouping.addNumber, hv.settings_empty number hn]
        exact Counted.empty _ _

/-- The alternate setting element of an interface, found or appended. -/
theorem obtainAltInterfaceEL (h : device.usbStack.Represents g) (hn : number ∈ g.numbers)
    (hs : (g.settings number).Nodup)
    (hempty : alternate ∉ g.settings number → g.addresses number alternate = [])
    (descriptor : ℕ) :
    ∃ device', device.obtainAltInterfaceEL true number alternate descriptor = some device' ∧
      device'.usbStack.Represents (g.addSetting number alternate) := by
  by_cases ha : alternate ∈ g.settings number
  · refine ⟨device, ?_, ?_⟩
    · rw [DevHandle.obtainAltInterfaceEL, if_pos ((h.isSome_altInterfaceAt hn).mpr ha)]
    · have hsame : g.addSetting number alternate = g := by
        refine Grouping.ext rfl (funext fun n => ?_) rfl rfl
        by_cases hk : n = number
        · simp [Grouping.addSetting, hk, addNew_of_mem ha]
        · simp [Grouping.addSetting, hk]
      rw [hsame]
      exact h
  · have hnone : ¬ (device.usbStack.altInterfaceAt number alternate).isSome = true :=
      fun hsome => ha ((h.isSome_altInterfaceAt hn).mp hsome)
    refine ⟨_, by rw [DevHandle.obtainAltInterfaceEL, if_neg hnone, if_pos rfl], ?_⟩
    refine h.updateInterface (fun _ => rfl) (fun _ => rfl) rfl (fun el hk hel => ?_)
      fun el hk hel => ⟨?_, fun alt halt => ?_⟩
    · exact hel.congr (if_neg hk) (fun a => rfl) fun a x => Iff.rfl
    · subst hk
      have hset : (g.addSetting el.id alternate).settings el.id =
          g.settings el.id ++ [alternate] := by
        simp [Grouping.addSetting, addNew_of_not_mem ha]
      rw [InterfaceEL.id_appendAltInterfaceEL, hset]
      exact hel.alts.concat ha rfl hs
    · rcases List.mem_append.mp halt with halt | halt
      · exact (hel.pipes alt halt).congr rfl fun x => Iff.rfl
      · obtain rfl := List.mem_singleton.mp halt
        subst hk
        refine ⟨?_, by simp⟩
        simp only [Grouping.addSetting, InterfaceEL.id_appendAltInterfaceEL, hempty ha]
        exact Counted.empty _ _

/-- `u_Add_Interface`, where allocations succeed. -/
theorem uAddInterface (h : device.usbStack.Represents g) (hv : g.Valid) (mem : Memory)
    (desc : ℕ) :
    let visit := uAddInterface mem {} desc device
    visit.frame = .pipe (mem (desc + 2)) (mem (desc + 3)) none ∧
      visit.device.usbStack.Represents
        ((g.addNumber (mem (desc + 2))).addSetting (mem (desc + 2)) (mem (desc + 3))) := by
  obtain ⟨d, hd, hrep⟩ := h.obtainInterfaceEL hv (mem (desc + 2))
  have hn : mem (desc + 2) ∈ (g.addNumber (mem (desc + 2))).numbers := by
    simp [Grouping.addNumber]
  obtain ⟨d', hd', hrep'⟩ := hrep.obtainAltInterfaceEL hn (hv.settings _)
    (hv.addresses_empty _ (mem (desc + 3))) desc
  simp only [LibusbK.uAddInterface, hd, hd']
  exact ⟨trivial, hrep'⟩

/-- The pipe element of an endpoint, found or appended. -/
theorem obtainPipeEL (h : device.usbStack.Represents g) (hv : g.Valid) (hn : number ∈ g.numbers)
    (ha : alternate ∈ g.settings number) (address : UInt8) (descriptor : ℕ) :
    ∃ device', device.obtainPipeEL true number alternate address descriptor = some device' ∧
      device'.usbStack.Represents (g.addAddress number alternate address) := by
  by_cases hx : address ∈ g.addresses number alternate
  · refine ⟨device, ?_, ?_⟩
    · rw [DevHandle.obtainPipeEL, if_pos ((h.isSome_pipeAt hn ha).mpr hx)]
    · have hsame : g.addAddress number alternate address = g := by
        refine Grouping.ext rfl rfl (funext fun n => funext fun a => ?_) rfl
        by_cases hk : n = number ∧ a = alternate
        · simp [Grouping.addAddress, hk, addNew_of_mem hx]
        · simp [Grouping.addAddress, hk]
      rw [hsame]
      exact h
  · have hnone : ¬ (device.usbStack.pipeAt number alternate address).isSome = true :=
      fun hsome => hx ((h.isSome_pipeAt hn ha).mp hsome)
    refine ⟨_, by rw [DevHandle.obtainPipeEL, if_neg hnone, if_pos rfl], ?_⟩
    refine h.updateAlt (fun _ => rfl) (fun _ => rfl) rfl rfl (fun n a hk => if_neg hk)
      (fun n a x hk => Iff.rfl) fun alt hk halt => ⟨?_, fun pipe hpipe => ?_⟩
    · subst hk
      have haddr : (g.addAddress number alt.id address).addresses number alt.id =
          g.addresses number alt.id ++ [address] := by
        simp [Grouping.addAddress, addNew_of_not_mem hx]
      rw [AltInterfaceEL.id_appendPipeEL, haddr]
      exact halt.pipes.concat hx rfl (hv.addresses _ _)
    · rcases List.mem_append.mp hpipe with hpipe | hpipe
      · exact halt.companions pipe hpipe
      · -- A new pipe has no companion: its address is not listed yet.
        obtain rfl := List.mem_singleton.mp hpipe
        subst hk
        exact ⟨fun hs => (by cases hs), fun hc => absurd (hv.companions _ _ _ hc) hx⟩

/-- The companion of an endpoint, attached to its pipe element. -/
theorem setCompanion (h : stack.Represents g) (number alternate address : UInt8)
    (companion : ℕ) :
    (stack.updateAlt number alternate fun el => el.setCompanion address companion).Represents
      (g.addCompanion number alternate address) := by
  refine h.updateAlt (fun _ => rfl) (fun _ => rfl) rfl rfl (fun n a hk => rfl)
    (fun n a x hk => ?_) fun alt hk halt => ⟨?_, ?_⟩
  · exact ⟨fun hc => hc.resolve_right fun hc => hk ⟨hc.1, hc.2.1⟩, .inl⟩
  · exact halt.pipes.update (fun _ => rfl) fun _ => rfl
  · subst hk
    refine Keyed.forall_update halt.companions (fun pipe hx hp => ?_) fun pipe _ hx hp => ?_
    · rw [hp]
      exact ⟨.inl, fun hc => hc.resolve_right fun hc => hx hc.2.2⟩
    · exact ⟨fun _ => .inr ⟨rfl, rfl, hx⟩, fun _ => rfl⟩

end UsbStack.Represents

end LibusbK
