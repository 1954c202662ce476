import LibusbK.Dll.DescriptorWalk
import LibusbK.Dll.UsbStack

/-!
# What the descriptor walk reads and points to

The bytes that `u_Desc_Next`, `u_Init_Config`, `u_Add_Interface` and `u_Add_Pipe`
read, and the descriptor pointers they store, each of which is later copied with
the whole size of its structure.  Nothing compares `bLength` with the size of the
structure, or an offset with the end of the buffer.

## Main definitions

* `Walker.StaysInside` — the bytes read, and the structures pointed to, are inside
  the buffer.
* `scopeAt` — what the endpoint descriptors since the last interface descriptor say.
* `need` — the bytes the parser uses of a descriptor.

## Main results

* `uInitConfig_staysInside_iff` — the walk stays inside a buffer, whatever the
  allocations return, exactly when the bytes it needs of each descriptor are inside.
-/

namespace LibusbK

variable {mem : Memory} {alloc : ℕ → Allocs} {allocs : Allocs} {w : Walker} {size : ℕ}
  {device : DevHandle} {number alternate address : UInt8} {prevPipe : Option UInt8}

/-! ### Inside the buffer -/

/-- The structures a pipe element points to end inside the buffer. -/
def PipeEL.Inside (size : ℕ) (el : PipeEL) : Prop :=
  el.descriptor + usbEndpointDescriptorSize ≤ size ∧
    ∀ companion ∈ el.superSpeedCompanionDescriptor,
      companion + usbSuperSpeedEndpointCompanionDescriptorSize ≤ size

/-- The structures an alternate setting element and its pipes point to do. -/
def AltInterfaceEL.Inside (size : ℕ) (el : AltInterfaceEL) : Prop :=
  el.descriptor + usbInterfaceDescriptorSize ≤ size ∧ ∀ pipe ∈ el.pipeList, pipe.Inside size

/-- The structures that the elements of a stack point to do. -/
def UsbStack.Inside (size : ℕ) (stack : UsbStack) : Prop :=
  ∀ el ∈ stack.interfaceList, ∀ alt ∈ el.altInterfaceList, alt.Inside size

/-- The bytes read so far, and the structures pointed to, are inside the buffer. -/
structure Walker.StaysInside (size : ℕ) (w : Walker) : Prop where
  reads : ∀ offset ∈ w.reads, offset < size
  pointers : w.device.usbStack.Inside size

theorem UsbStack.Inside.updateInterface {stack : UsbStack} {f : InterfaceEL → InterfaceEL}
    (h : stack.Inside size)
    (hf : ∀ el, (∀ alt ∈ el.altInterfaceList, alt.Inside size) →
      ∀ alt ∈ (f el).altInterfaceList, alt.Inside size) :
    (stack.updateInterface number f).Inside size :=
  Keyed.forall_update h (fun _ _ hel => hel) fun el _ _ hel => hf el hel

theorem UsbStack.Inside.updateAlt {stack : UsbStack} {f : AltInterfaceEL → AltInterfaceEL}
    (h : stack.Inside size) (hf : ∀ alt, alt.Inside size → (f alt).Inside size) :
    (stack.updateAlt number alternate f).Inside size :=
  h.updateInterface fun _ hel =>
    Keyed.forall_update hel (fun _ _ halt => halt) fun alt _ _ halt => hf alt halt

theorem InterfaceEL.inside_append {el : InterfaceEL} {descriptor : ℕ}
    (h : ∀ alt ∈ el.altInterfaceList, alt.Inside size)
    (hd : descriptor + usbInterfaceDescriptorSize ≤ size) :
    ∀ alt ∈ (el.appendAltInterfaceEL alternate descriptor).altInterfaceList, alt.Inside size := by
  intro alt halt
  rcases List.mem_append.mp halt with halt | halt
  · exact h alt halt
  · obtain rfl := List.mem_singleton.mp halt
    exact ⟨hd, by simp⟩

theorem AltInterfaceEL.Inside.appendPipeEL {el : AltInterfaceEL} {descriptor : ℕ}
    (h : el.Inside size) (hd : descriptor + usbEndpointDescriptorSize ≤ size) :
    (el.appendPipeEL address descriptor).Inside size := by
  refine ⟨h.1, fun pipe hpipe => ?_⟩
  rcases List.mem_append.mp hpipe with hpipe | hpipe
  · exact h.2 pipe hpipe
  · obtain rfl := List.mem_singleton.mp hpipe
    exact ⟨hd, by simp⟩

theorem AltInterfaceEL.Inside.setCompanion {el : AltInterfaceEL} {companion : ℕ}
    (h : el.Inside size)
    (hc : companion + usbSuperSpeedEndpointCompanionDescriptorSize ≤ size) :
    (el.setCompanion address companion).Inside size := by
  refine ⟨h.1, Keyed.forall_update h.2 (fun _ _ hp => hp) fun pipe _ _ hp => ⟨hp.1, ?_⟩⟩
  intro c hcm
  obtain rfl := Option.some.inj hcm
  exact hc

/-! ### The bytes the parser uses of a descriptor -/

/-- The endpoint descriptors since the last interface descriptor: their addresses, and
whether a companion descriptor would be attached to the last of them. -/
structure EndpointScope where
  seen : List UInt8 := []
  attachable : Bool := false
  deriving DecidableEq, Repr

/-- The scope after the descriptor at `offset`. -/
def scopeAfter (mem : Memory) (offset : ℕ) (scope : Option EndpointScope) :
    Option EndpointScope :=
  if mem (offset + 1) = usbDescriptorTypeInterface then some {}
  else scope.map fun s =>
    if mem (offset + 1) = usbDescriptorTypeEndpoint then
      { seen := mem (offset + 2) :: s.seen, attachable := true }
    else if mem (offset + 1) = usbSuperSpeedEndpointCompanion then { s with attachable := false }
    else s

/-- The scope after the first `k` descriptors. -/
def scopeAt (mem : Memory) : ℕ → Option EndpointScope
  | 0 => none
  | k + 1 => scopeAfter mem (nthOffset mem (k + 1)) (scopeAt mem k)

theorem scopeAt_succ (mem : Memory) (k : ℕ) :
    scopeAt mem (k + 1) = scopeAfter mem (nthOffset mem (k + 1)) (scopeAt mem k) := rfl

/-- The bytes the parser uses of the descriptor at `offset`: a whole structure where it
stores a pointer to it, the address of an endpoint it has seen, and else the length
and the type. -/
def need (mem : Memory) (offset : ℕ) (scope : Option EndpointScope) : ℕ :=
  if mem (offset + 1) = usbDescriptorTypeInterface then usbInterfaceDescriptorSize
  else
    match scope with
    | none => usbCommonDescriptorSize
    | some s =>
      if mem (offset + 1) = usbDescriptorTypeEndpoint then
        if mem (offset + 2) ∈ s.seen then 3 else usbEndpointDescriptorSize
      else if mem (offset + 1) = usbSuperSpeedEndpointCompanion ∧ s.attachable = true then
        usbSuperSpeedEndpointCompanionDescriptorSize
      else usbCommonDescriptorSize

theorem need_interface {offset : ℕ} (h : mem (offset + 1) = usbDescriptorTypeInterface)
    (scope : Option EndpointScope) : need mem offset scope = usbInterfaceDescriptorSize :=
  if_pos h

theorem need_endpoint {offset : ℕ} (h : mem (offset + 1) = usbDescriptorTypeEndpoint)
    (s : EndpointScope) :
    need mem offset (some s) =
      if mem (offset + 2) ∈ s.seen then 3 else usbEndpointDescriptorSize := by
  simp only [need, h]
  rfl

theorem need_companion {offset : ℕ} (h : mem (offset + 1) = usbSuperSpeedEndpointCompanion)
    (s : EndpointScope) :
    need mem offset (some s) =
      if s.attachable = true then usbSuperSpeedEndpointCompanionDescriptorSize
      else usbCommonDescriptorSize := by
  simp [need, h, usbSuperSpeedEndpointCompanion, usbDescriptorTypeInterface,
    usbDescriptorTypeEndpoint]

theorem need_other {offset : ℕ} (hi : mem (offset + 1) ≠ usbDescriptorTypeInterface)
    (he : mem (offset + 1) ≠ usbDescriptorTypeEndpoint)
    (hc : mem (offset + 1) ≠ usbSuperSpeedEndpointCompanion) (s : EndpointScope) :
    need mem offset (some s) = usbCommonDescriptorSize := by
  simp [need, hi, he, hc]

theorem two_le_need (mem : Memory) (offset : ℕ) (scope : Option EndpointScope) :
    2 ≤ need mem offset scope := by
  simp only [need, usbInterfaceDescriptorSize, usbCommonDescriptorSize,
    usbEndpointDescriptorSize, usbSuperSpeedEndpointCompanionDescriptorSize]
  split
  · decide
  · split
    · decide
    · split_ifs <;> decide

/-! ### The condition is enough -/

/-- What the loop of `u_Add_Pipe` knows of the endpoint descriptors it has seen: each
has a pipe element, and `prevPipeELForCompanionAttach` is only set where a companion
would be attached. -/
structure Tracks (stack : UsbStack) (number alternate : UInt8) (prevPipe : Option UInt8)
    (scope : EndpointScope) : Prop where
  alt : (stack.altInterfaceAt number alternate).isSome = true
  seen : ∀ x ∈ scope.seen, (stack.pipeAt number alternate x).isSome = true
  attachable : prevPipe.isSome = true → scope.attachable = true

theorem uAddInterface_inside (mem : Memory) (allocs : Allocs) {desc : ℕ}
    (h : device.usbStack.Inside size)
    (hd : desc + usbInterfaceDescriptorSize ≤ size) :
    (uAddInterface mem allocs desc device).device.usbStack.Inside size ∧
      ∀ r ∈ (uAddInterface mem allocs desc device).reads, r < size := by
  have hread : ∀ {α : Type} (l : List α), ∀ i ≤ 3, ∀ r ∈ searchReads l (desc + i), r < size := by
    intro α l i hi r hr
    simp only [searchReads] at hr
    split at hr
    · cases hr
    · obtain rfl := List.mem_singleton.mp hr
      exact Nat.lt_of_lt_of_le (by simp only [usbInterfaceDescriptorSize]; omega) hd
  have hread2 : desc + 2 < size :=
    Nat.lt_of_lt_of_le (by simp only [usbInterfaceDescriptorSize]; omega) hd
  have hread3 : desc + 3 < size :=
    Nat.lt_of_lt_of_le (by simp only [usbInterfaceDescriptorSize]; omega) hd
  simp only [uAddInterface]
  cases hi : device.obtainInterfaceEL allocs.interfaceEL (mem (desc + 2)) with
  | none => exact ⟨h, hread _ 2 (by decide)⟩
  | some d =>
    have hd' : d.usbStack.Inside size := by
      rcases DevHandle.obtainInterfaceEL_cases hi with ⟨-, rfl⟩ | ⟨-, -, rfl⟩
      · exact h
      · intro el hel
        rcases List.mem_append.mp hel with hel | hel
        · exact h el hel
        · obtain rfl := List.mem_singleton.mp hel
          simp
    simp only
    cases ha : d.obtainAltInterfaceEL allocs.altInterfaceEL (mem (desc + 2))
        (mem (desc + 3)) desc with
    | none =>
      refine ⟨hd', fun r hr => ?_⟩
      rcases List.mem_cons.mp hr with rfl | hr
      · exact hread2
      · exact hread _ 3 (by decide) r hr
    | some d' =>
      refine ⟨?_, by simp [hread2, hread3]⟩
      rcases DevHandle.obtainAltInterfaceEL_cases ha with ⟨-, rfl⟩ | ⟨-, -, rfl⟩
      · exact hd'
      · exact hd'.updateInterface fun el hel => InterfaceEL.inside_append hel hd

/-- `u_Add_Interface` ends in the loop of `u_Add_Pipe` with an alternate setting element
of the stack, or goes back to `u_Init_Config`. -/
theorem uAddInterface_frame {desc : ℕ}
    (h : (uAddInterface mem allocs desc device).frame = .pipe number alternate prevPipe) :
    prevPipe = none ∧
      ((uAddInterface mem allocs desc device).device.usbStack.altInterfaceAt
        number alternate).isSome = true := by
  simp only [uAddInterface] at h ⊢
  cases hi : device.obtainInterfaceEL allocs.interfaceEL (mem (desc + 2)) with
  | none => simp [hi] at h
  | some d =>
    simp only [hi] at h ⊢
    cases ha : d.obtainAltInterfaceEL allocs.altInterfaceEL (mem (desc + 2))
        (mem (desc + 3)) desc with
    | none => simp [ha] at h
    | some d' =>
      simp only [ha] at h ⊢
      cases h
      exact ⟨rfl, DevHandle.isSome_altInterfaceAt (DevHandle.isSome_findInterfaceEL hi) ha⟩

/-- One descriptor in the loop of `u_Add_Pipe`. -/
theorem Tracks.uAddPipe {desc : ℕ} {scope : EndpointScope}
    (h : Tracks device.usbStack number alternate prevPipe scope)
    (hin : device.usbStack.Inside size) (ht : mem (desc + 1) ≠ usbDescriptorTypeInterface)
    (hneed : desc + need mem desc (some scope) ≤ size) :
    let visit := uAddPipe mem allocs desc device number alternate prevPipe
    visit.device.usbStack.Inside size ∧ (∀ r ∈ visit.reads, r < size) ∧
      ∀ n a p, visit.frame = .pipe n a p →
        ∃ s, scopeAfter mem desc (some scope) = some s ∧ Tracks visit.device.usbStack n a p s := by
  by_cases he : mem (desc + 1) = usbDescriptorTypeEndpoint
  · rw [need_endpoint he] at hneed
    have hread : desc + 2 < size := by
      simp only [usbEndpointDescriptorSize] at hneed
      split at hneed <;> omega
    simp only [LibusbK.uAddPipe, if_pos he, scopeAfter, if_neg ht, Option.map_some]
    cases ho : device.obtainPipeEL allocs.pipeEL number alternate (mem (desc + 2)) desc with
    | none =>
      refine ⟨hin, fun r hr => ?_, fun n a p hf => by cases hf⟩
      simp only [searchReads] at hr
      split at hr
      · cases hr
      · exact List.mem_singleton.mp hr ▸ hread
    | some d =>
      refine ⟨?_, by simpa using hread, fun n a p hf => ⟨_, rfl, ?_⟩⟩
      · rcases DevHandle.obtainPipeEL_cases ho with ⟨-, rfl⟩ | ⟨hnone, -, rfl⟩
        · exact hin
        · -- A new pipe element is made only for an address not seen before.
          have hnew : mem (desc + 2) ∉ scope.seen := by
            intro hseen
            have hsome := h.seen _ hseen
            rw [hnone] at hsome
            cases hsome
          rw [if_neg hnew] at hneed
          exact hin.updateAlt fun el hel => hel.appendPipeEL hneed
      · cases hf
        refine ⟨(DevHandle.isSome_pipeAt (x := 0) h.alt ho).1, fun x hx => ?_, fun _ => rfl⟩
        refine (DevHandle.isSome_pipeAt h.alt ho).2.mpr ?_
        rcases List.mem_cons.mp hx with rfl | hx
        · exact .inr rfl
        · exact .inl (h.seen x hx)
  by_cases hc : mem (desc + 1) = usbSuperSpeedEndpointCompanion
  · simp only [LibusbK.uAddPipe, if_neg he, if_pos hc, scopeAfter, if_neg ht, Option.map_some]
    cases hp : prevPipe with
    | none =>
      refine ⟨hin, by simp, fun n a p hf => ⟨_, rfl, ?_⟩⟩
      cases hf
      exact ⟨h.alt, h.seen, by simp⟩
    | some address =>
      have hatt : scope.attachable = true := h.attachable (by rw [hp]; rfl)
      rw [need_companion hc, if_pos hatt] at hneed
      refine ⟨hin.updateAlt fun el hel => hel.setCompanion hneed, by simp, fun n a p hf =>
        ⟨_, rfl, ?_⟩⟩
      cases hf
      refine ⟨?_, fun x hx => ?_, by simp⟩
      · rw [UsbStack.altInterfaceAt_updateAlt fun el => el.id_setCompanion address desc]
        simpa using h.alt
      · rw [UsbStack.isSome_pipeAt_setCompanion]
        exact h.seen x hx
  · simp only [LibusbK.uAddPipe, if_neg he, if_neg hc, scopeAfter, if_neg ht, Option.map_some]
    refine ⟨hin, by simp, fun n a p hf => ⟨_, rfl, ?_⟩⟩
    cases hf
    exact h

/-- The bytes of every descriptor that the parser uses are inside the buffer. -/
def NeedsInside (mem : Memory) (size : ℕ) : Prop :=
  4 ≤ size ∧ ∀ k, Walked mem (k + 1) →
    nthOffset mem (k + 1) + need mem (nthOffset mem (k + 1)) (scopeAt mem k) ≤ size

theorem NeedsInside.offset_lt (h : NeedsInside mem size) {k : ℕ} (hw : Walked mem k) :
    nthOffset mem k + 1 < size := by
  cases k with
  | zero => exact Nat.lt_of_lt_of_le (by simp) h.1
  | succ k =>
    have hk := h.2 k hw
    have h2 := two_le_need mem (nthOffset mem (k + 1)) (scopeAt mem k)
    omega

/-- What the walk keeps while the bytes it needs are inside the buffer. -/
structure Walker.Bounded (mem : Memory) (size : ℕ) (w : Walker) : Prop where
  inside : w.StaysInside size
  tracks : ∀ number alternate prevPipe, w.frame = .pipe number alternate prevPipe →
    ∃ scope, scopeAt mem w.visited = some scope ∧
      Tracks w.device.usbStack number alternate prevPipe scope

/-- The loop body keeps it. -/
theorem Walker.Bounded.body (alloc : ℕ → Allocs) (hn : NeedsInside mem size)
    (h : w.Bounded mem size) (hw : Walked mem (w.visited + 1))
    (ht : w.frame = .config ∨
      mem (nthOffset mem (w.visited + 1) + 1) ≠ usbDescriptorTypeInterface) :
    let visit := w.body mem alloc (nthOffset mem (w.visited + 1))
    visit.device.usbStack.Inside size ∧ (∀ r ∈ visit.reads, r < size) ∧
      ∀ n a p, visit.frame = .pipe n a p →
        ∃ s, scopeAt mem (w.visited + 1) = some s ∧ Tracks visit.device.usbStack n a p s := by
  have hneed := hn.2 w.visited hw
  rw [scopeAt_succ]
  cases hf : w.frame with
  | config =>
    simp only [Walker.body, hf, uInitConfigBody]
    by_cases hi : mem (nthOffset mem (w.visited + 1) + 1) = usbDescriptorTypeInterface
    · rw [need_interface hi] at hneed
      rw [if_pos hi]
      obtain ⟨hin, hreads⟩ :=
        uAddInterface_inside mem (alloc w.visited) h.inside.pointers hneed
      refine ⟨hin, hreads, fun n a p hp => ?_⟩
      obtain ⟨rfl, halt⟩ := uAddInterface_frame hp
      exact ⟨{}, by rw [scopeAfter, if_pos hi], halt, by simp, by simp⟩
    · rw [if_neg hi]
      exact ⟨h.inside.pointers, by simp, fun n a p hp => by cases hp⟩
  | pipe number alternate prevPipe =>
    have ht := ht.resolve_left (by rw [hf]; simp)
    obtain ⟨scope, hs, htr⟩ := h.tracks number alternate prevPipe hf
    rw [hs] at hneed ⊢
    simp only [Walker.body, hf]
    exact htr.uAddPipe h.inside.pointers ht hneed
  | done =>
    simp only [Walker.body, hf]
    exact ⟨h.inside.pointers, by simp, fun n a p hp => by cases hp⟩

theorem Walker.Bounded.moves (hn : NeedsInside mem size) {w' : Walker}
    (h : w.Bounded mem size) (hm : w.Moves mem alloc w') : w'.Bounded mem size := by
  have hcons : ∀ {offset : ℕ} {reads : List ℕ}, offset < size → (∀ r ∈ reads, r < size) →
      ∀ r ∈ offset :: reads, r < size := by
    intro offset reads ho hr r hmem
    rcases List.mem_cons.mp hmem with rfl | hmem
    · exact ho
    · exact hr r hmem
  cases hm with
  | stop hf => exact h
  | ended hd he =>
    exact ⟨⟨h.inside.reads, h.inside.pointers⟩, fun n a p hp => absurd hp (by simp)⟩
  | last hd hw hl =>
    have hq := Nat.lt_of_succ_lt (hn.offset_lt hw.1)
    exact ⟨⟨hcons hq h.inside.reads, h.inside.pointers⟩, fun n a p hp => absurd hp (by simp)⟩
  | rewind number alternate prevPipe hf hw hs ht =>
    have hq := Nat.lt_of_succ_lt (hn.offset_lt hw.1)
    have hq' := hn.offset_lt (walked_succ.mpr ⟨hw.1, hs⟩)
    exact ⟨⟨hcons hq' (hcons hq h.inside.reads), h.inside.pointers⟩, fun n a p hp => by cases hp⟩
  | visit hd hw hs ht =>
    have hw' := walked_succ.mpr ⟨hw.1, hs⟩
    have hq := Nat.lt_of_succ_lt (hn.offset_lt hw.1)
    have hq' := hn.offset_lt hw'
    obtain ⟨hin, hreads, htr⟩ := h.body alloc hn hw' ht
    refine ⟨⟨fun r hr => ?_, hin⟩, htr⟩
    rcases List.mem_append.mp hr with hr | hr
    · exact hreads r hr
    · exact hcons hq' (hcons hq h.inside.reads) r hr

theorem NeedsInside.staysInside (hn : NeedsInside mem size) (alloc : ℕ → Allocs) (n : ℕ) :
    (walk mem alloc n).StaysInside size := by
  have hbounded : (walk mem alloc n).Bounded mem size := by
    refine walk_invariant ⟨⟨?_, by simp [uInitConfig, UsbStack.Inside]⟩, by simp [uInitConfig]⟩
      (fun w w' h hm => h.moves hn hm) n
    have h4 := hn.1
    simp only [uInitConfig, List.mem_cons, List.not_mem_nil, or_false, forall_eq_or_imp,
      forall_eq]
    omega
  exact hbounded.inside

/-! ### The condition is necessary -/

/-- No `Mem_Alloc` returns memory. -/
def noAllocs : Allocs := { interfaceEL := false, altInterfaceEL := false, pipeEL := false }

/-- No `Mem_Alloc` returns memory before the `k`-th descriptor, and all do from there on. -/
def allocsFrom (k : ℕ) : ℕ → Allocs := fun i => if i < k then noAllocs else {}

theorem allocsFrom_of_lt {i k : ℕ} (h : i < k) : allocsFrom k i = noAllocs := if_pos h

theorem allocsFrom_of_le {i k : ℕ} (h : k ≤ i) : allocsFrom k i = {} := if_neg (Nat.not_lt.mpr h)

/-- A walk that gets no memory stays in `u_Init_Config`, with an empty stack. -/
theorem walk_noAllocs {k : ℕ} (alloc : ℕ → Allocs) (ha : ∀ i < k, alloc i = noAllocs)
    (hw : Walked mem k) :
    (walk mem alloc k).AtDescriptor mem ∧ (walk mem alloc k).visited = k ∧
      (walk mem alloc k).frame = .config ∧ (walk mem alloc k).device = {} := by
  induction k with
  | zero =>
    refine ⟨(uInitConfig_onTheWay mem {}).resolve_left fun he => ?_, rfl, rfl, rfl⟩
    have hs := hw.standsAt
    simp only [StandsAt, nthOffset_zero, Int.ofNat_zero, Int.sub_zero] at hs
    exact absurd hs (Nat.not_le.mpr he)
  | succ k ih =>
    obtain ⟨hat, hv, hf, hdev⟩ :=
      ih (fun i hi => ha i (Nat.lt_succ_of_lt hi)) (walked_succ.mp hw).1
    have hs : StandsAt mem (nthOffset mem ((walk mem alloc k).visited + 1)) := by
      rw [hv]
      exact hw.standsAt
    rw [walk_succ, Walker.step_visit hat (by rw [hf]; simp) hs (.inl hf)]
    have hbody : ∀ desc, (walk mem alloc k).body mem alloc desc =
        { device := {}, frame := .config } := by
      intro desc
      simp only [Walker.body, hf, hv, ha k (Nat.lt_succ_self k), hdev, uInitConfigBody,
        uAddInterface, noAllocs]
      split <;> rfl
    simp only [hbody]
    refine ⟨⟨?_, rfl⟩, by rw [hv], trivial, trivial⟩
    simp only [hv]
    exact hw

theorem UsbStack.Inside.altInterfaceAt {stack : UsbStack} {el : AltInterfaceEL}
    (h : stack.Inside size) (hel : stack.altInterfaceAt number alternate = some el) :
    el.Inside size := by
  rw [UsbStack.altInterfaceAt, Option.bind_eq_some_iff] at hel
  obtain ⟨i, hi, hel⟩ := hel
  exact h i (Keyed.mem_of_find hi).1 el (Keyed.mem_of_find hel).1

theorem UsbStack.Inside.of_updateAlt {stack : UsbStack} {f : AltInterfaceEL → AltInterfaceEL}
    {el : AltInterfaceEL} (h : (stack.updateAlt number alternate f).Inside size)
    (hel : stack.altInterfaceAt number alternate = some el) (hf : ∀ el, (f el).id = el.id) :
    (f el).Inside size := by
  apply h.altInterfaceAt
  rw [UsbStack.altInterfaceAt_updateAlt hf, hel]
  rfl

theorem AltInterfaceEL.Inside.of_appendPipeEL {el : AltInterfaceEL} {descriptor : ℕ}
    (h : (el.appendPipeEL address descriptor).Inside size) :
    descriptor + usbEndpointDescriptorSize ≤ size :=
  (h.2 _ (List.mem_append_right _ (List.mem_singleton_self _))).1

theorem AltInterfaceEL.Inside.of_setCompanion {el : AltInterfaceEL} {companion : ℕ}
    (h : (el.setCompanion address companion).Inside size)
    (hel : (el.findPipeEL false address).isSome = true) :
    companion + usbSuperSpeedEndpointCompanionDescriptorSize ≤ size := by
  obtain ⟨pipe, hpipe, hid⟩ := List.mem_map.mp (AltInterfaceEL.isSome_findPipeEL.mp hel)
  have hmem := List.mem_map_of_mem (f := fun pipe : PipeEL =>
    if pipe.id = address then { pipe with superSpeedCompanionDescriptor := some companion }
    else pipe) hpipe
  rw [if_pos hid] at hmem
  exact (h.2 _ hmem).2 companion rfl

/-- The pipes of a fresh alternate setting element are the endpoint descriptors seen
since its interface descriptor. -/
structure Mirrors (stack : UsbStack) (number alternate : UInt8) (prevPipe : Option UInt8)
    (scope : EndpointScope) : Prop where
  alt : (stack.altInterfaceAt number alternate).isSome = true
  seen : ∀ x, (stack.pipeAt number alternate x).isSome = true → x ∈ scope.seen
  attachable : scope.attachable = true →
    ∃ x, prevPipe = some x ∧ (stack.pipeAt number alternate x).isSome = true

/-- An interface descriptor met with an empty stack makes a fresh element that points
to it. -/
theorem uAddInterface_fresh (mem : Memory) (desc size : ℕ) :
    let visit := uAddInterface mem {} desc {}
    (visit.device.usbStack.Inside size → desc + usbInterfaceDescriptorSize ≤ size) ∧
      visit.frame = .pipe (mem (desc + 2)) (mem (desc + 3)) none ∧
      Mirrors visit.device.usbStack (mem (desc + 2)) (mem (desc + 3)) none {} := by
  have hvisit : uAddInterface mem {} desc {} =
      { device := { ({} : DevHandle).appendInterfaceEL (mem (desc + 2)) with
          usbStack := (({} : DevHandle).appendInterfaceEL (mem (desc + 2))).usbStack.updateInterface
            (mem (desc + 2)) fun el => el.appendAltInterfaceEL (mem (desc + 3)) desc }
        frame := .pipe (mem (desc + 2)) (mem (desc + 3)) none
        reads := [desc + 2, desc + 3] } := by
    simp [uAddInterface, DevHandle.obtainInterfaceEL, DevHandle.obtainAltInterfaceEL,
      UsbStack.findInterfaceEL, UsbStack.altInterfaceAt, DevHandle.appendInterfaceEL,
      InterfaceEL.findAltInterfaceEL, Keyed.find]
  have halt : (uAddInterface mem {} desc {}).device.usbStack.altInterfaceAt
      (mem (desc + 2)) (mem (desc + 3)) =
        some { id := mem (desc + 3), index := 0, descriptor := desc } := by
    rw [hvisit]
    simp [UsbStack.altInterfaceAt, UsbStack.findInterfaceEL, UsbStack.updateInterface,
      DevHandle.appendInterfaceEL, InterfaceEL.findAltInterfaceEL,
      InterfaceEL.appendAltInterfaceEL, Keyed.find, Keyed.update]
  refine ⟨fun hin => (hin.altInterfaceAt halt).1, by rw [hvisit], ?_, fun x hx => ?_, by simp⟩
  · rw [halt]
    rfl
  · rw [UsbStack.pipeAt, halt] at hx
    cases hx

/-- One descriptor in the loop of `u_Add_Pipe` where memory is to be had: what it needs of
the descriptor it reads or points to. -/
theorem Mirrors.uAddPipe {desc : ℕ} (size : ℕ) {scope : EndpointScope}
    (h : Mirrors device.usbStack number alternate prevPipe scope)
    (ht : mem (desc + 1) ≠ usbDescriptorTypeInterface) :
    let visit := uAddPipe mem {} desc device number alternate prevPipe
    (desc + usbCommonDescriptorSize ≤ size → visit.device.usbStack.Inside size →
        (∀ r ∈ visit.reads, r < size) → desc + need mem desc (some scope) ≤ size) ∧
      ∃ prev s, visit.frame = .pipe number alternate prev ∧
        scopeAfter mem desc (some scope) = some s ∧
        Mirrors visit.device.usbStack number alternate prev s := by
  obtain ⟨el, hel⟩ := Option.isSome_iff_exists.mp h.alt
  by_cases he : mem (desc + 1) = usbDescriptorTypeEndpoint
  · rw [need_endpoint he]
    simp only [LibusbK.uAddPipe, if_pos he, scopeAfter, if_neg ht, Option.map_some]
    cases ho : device.obtainPipeEL true number alternate (mem (desc + 2)) desc with
    | none =>
      simp only [DevHandle.obtainPipeEL, if_true] at ho
      split at ho <;> cases ho
    | some d =>
      refine ⟨fun _ hin hreads => ?_, _, _, rfl, rfl, ?_⟩
      · split
        · exact hreads (desc + 2) (by simp)
        · next hnew =>
          rcases DevHandle.obtainPipeEL_cases ho with ⟨hsome, rfl⟩ | ⟨-, -, rfl⟩
          · exact absurd (h.seen _ hsome) hnew
          · exact (hin.of_updateAlt hel fun el => el.id_appendPipeEL _ desc).of_appendPipeEL
      · refine ⟨(DevHandle.isSome_pipeAt (x := 0) h.alt ho).1, fun x hx => ?_, fun _ =>
          ⟨_, rfl, (DevHandle.isSome_pipeAt h.alt ho).2.mpr (.inr rfl)⟩⟩
        rcases (DevHandle.isSome_pipeAt h.alt ho).2.mp hx with hx | rfl
        · exact List.mem_cons_of_mem _ (h.seen x hx)
        · exact List.mem_cons_self
  by_cases hc : mem (desc + 1) = usbSuperSpeedEndpointCompanion
  · rw [need_companion hc]
    simp only [LibusbK.uAddPipe, if_neg he, if_pos hc, scopeAfter, if_neg ht, Option.map_some]
    cases hp : prevPipe with
    | none =>
      refine ⟨fun h2 _ _ => ?_, none, _, rfl, rfl, h.alt, h.seen, by simp⟩
      rw [if_neg fun hatt => ?_]
      · exact h2
      · obtain ⟨x, hx, -⟩ := h.attachable hatt
        rw [hp] at hx
        cases hx
    | some address =>
      have hid := fun el : AltInterfaceEL => el.id_setCompanion address desc
      refine ⟨fun h2 hin _ => ?_, none, _, rfl, rfl, ?_, fun x hx => ?_, by simp⟩
      · split
        · next hatt =>
          obtain ⟨x, hx, hsome⟩ := h.attachable hatt
          obtain rfl : address = x := Option.some.inj (hp ▸ hx)
          rw [UsbStack.pipeAt, hel] at hsome
          exact (hin.of_updateAlt hel hid).of_setCompanion hsome
        · exact h2
      · rw [UsbStack.altInterfaceAt_updateAlt hid]
        simpa using h.alt
      · rw [UsbStack.isSome_pipeAt_setCompanion] at hx
        exact h.seen x hx
  · rw [need_other ht he hc]
    simp only [LibusbK.uAddPipe, if_neg he, if_neg hc, scopeAfter, if_neg ht, Option.map_some]
    exact ⟨fun h2 _ _ => h2, prevPipe, _, rfl, rfl, h⟩

/-- A walk that visits the next descriptor. -/
theorem walk_visit {n k : ℕ} (hat : (walk mem alloc n).AtDescriptor mem)
    (hv : (walk mem alloc n).visited = k) (hw : Walked mem (k + 1))
    (hd : (walk mem alloc n).frame ≠ .done)
    (ht : (walk mem alloc n).frame = .config ∨
      mem (nthOffset mem (k + 1) + 1) ≠ usbDescriptorTypeInterface) :
    walk mem alloc (n + 1) =
      { desc := iteratorAt mem (nthOffset mem (k + 1))
        device := ((walk mem alloc n).body mem alloc (nthOffset mem (k + 1))).device
        frame := ((walk mem alloc n).body mem alloc (nthOffset mem (k + 1))).frame
        visited := k + 1
        reads := ((walk mem alloc n).body mem alloc (nthOffset mem (k + 1))).reads ++
          (nthOffset mem (k + 1) + 1) :: nthOffset mem k :: (walk mem alloc n).reads } := by
  subst hv
  rw [walk_succ]
  exact Walker.step_visit hat hd hw.standsAt ht

/-- The loop body of `u_Init_Config` at an interface descriptor, before which there was
no memory. -/
theorem body_allocsFrom {k : ℕ} (hv : w.visited = k) (hf : w.frame = .config)
    (hdev : w.device = {}) (ht : mem (nthOffset mem (k + 1) + 1) = usbDescriptorTypeInterface) :
    w.body mem (allocsFrom k) (nthOffset mem (k + 1)) =
      uAddInterface mem {} (nthOffset mem (k + 1)) {} := by
  simp only [Walker.body, hf, hv, hdev, uInitConfigBody, if_pos ht,
    allocsFrom_of_le (Nat.le_refl k)]

/-- A walk that has seen an interface descriptor is in the loop of `u_Add_Pipe`, with
fresh elements, if memory is to be had from that descriptor on. -/
theorem exists_walk_mirrors {k : ℕ} (hw : Walked mem k) {scope : EndpointScope}
    (hs : scopeAt mem k = some scope) :
    ∃ t ≤ k, ∃ n number alternate prevPipe,
      (walk mem (allocsFrom t) n).AtDescriptor mem ∧
        (walk mem (allocsFrom t) n).visited = k ∧
        (walk mem (allocsFrom t) n).frame = .pipe number alternate prevPipe ∧
        Mirrors (walk mem (allocsFrom t) n).device.usbStack number alternate prevPipe scope := by
  induction k generalizing scope with
  | zero => cases hs
  | succ k ih =>
    have hwk : Walked mem k := (walked_succ.mp hw).1
    rw [scopeAt_succ] at hs
    by_cases ht : mem (nthOffset mem (k + 1) + 1) = usbDescriptorTypeInterface
    · -- The scope starts here: there is memory from this descriptor on.
      obtain ⟨hat, hv, hf, hdev⟩ :=
        walk_noAllocs (allocsFrom k) (fun i hi => allocsFrom_of_lt hi) hwk
      obtain ⟨-, hframe, hmir⟩ := uAddInterface_fresh mem (nthOffset mem (k + 1)) 0
      rw [scopeAfter, if_pos ht] at hs
      obtain rfl := Option.some.inj hs
      refine ⟨k, Nat.le_succ k, k + 1, mem (nthOffset mem (k + 1) + 2),
        mem (nthOffset mem (k + 1) + 3), none, ?_⟩
      rw [walk_visit hat hv hw (by rw [hf]; simp) (.inl hf), body_allocsFrom hv hf hdev ht]
      exact ⟨⟨hw, rfl⟩, rfl, hframe, hmir⟩
    · -- The walk of the scope so far goes on by one descriptor.
      cases hsk : scopeAt mem k with
      | none => simp [scopeAfter, ht, hsk] at hs
      | some s =>
        obtain ⟨t, htk, n, number, alternate, prevPipe, hat, hv, hf, hmir⟩ := ih hwk hsk
        obtain ⟨-, prev, s', hframe, hs', hmir'⟩ := hmir.uAddPipe 0 ht
        rw [hsk, hs'] at hs
        obtain rfl := Option.some.inj hs
        refine ⟨t, Nat.le_succ_of_le htk, n + 1, number, alternate, prev, ?_⟩
        rw [walk_visit hat hv hw (by rw [hf]; simp) (.inr ht)]
        simp only [Walker.body, hf, hv, allocsFrom_of_le htk]
        exact ⟨⟨hw, rfl⟩, trivial, hframe, hmir'⟩

/-- A walk that stays inside the buffer where it visits a descriptor. -/
theorem Walker.StaysInside.visit {visit : Visit} {desc : DescriptorIterator} {offset k : ℕ}
    {reads : List ℕ}
    (h : Walker.StaysInside size
      { desc := desc
        device := visit.device
        frame := visit.frame
        visited := k
        reads := visit.reads ++ (offset + 1) :: reads }) :
    offset + usbCommonDescriptorSize ≤ size ∧ visit.device.usbStack.Inside size ∧
      ∀ r ∈ visit.reads, r < size := by
  refine ⟨h.reads (offset + 1) ?_, h.pointers, fun r hr => h.reads r ?_⟩
  · exact List.mem_append_right _ List.mem_cons_self
  · exact List.mem_append_left _ hr

/-- **Where the parser stays inside the buffer.**  Whatever the allocations return,
the walk reads and points to nothing outside a buffer of `size` bytes exactly when
the buffer has a `wTotalLength` and the bytes the parser needs of each descriptor
that the lengths lead to are inside it. -/
theorem uInitConfig_staysInside_iff (mem : Memory) (size : ℕ) :
    (∀ alloc calls, (walk mem alloc calls).StaysInside size) ↔ NeedsInside mem size := by
  refine ⟨fun h => ⟨?_, fun k hw => ?_⟩, fun hn => hn.staysInside⟩
  · have hreads := (h (fun _ => {}) 0).reads 3 (by simp [uInitConfig])
    exact hreads
  have hwk : Walked mem k := (walked_succ.mp hw).1
  by_cases ht : mem (nthOffset mem (k + 1) + 1) = usbDescriptorTypeInterface
  · obtain ⟨hat, hv, hf, hdev⟩ :=
      walk_noAllocs (allocsFrom k) (fun i hi => allocsFrom_of_lt hi) hwk
    have hin := h (allocsFrom k) (k + 1)
    rw [walk_visit hat hv hw (by rw [hf]; simp) (.inl hf), body_allocsFrom hv hf hdev ht] at hin
    rw [need_interface ht]
    exact (uAddInterface_fresh mem (nthOffset mem (k + 1)) size).1 hin.visit.2.1
  · cases hs : scopeAt mem k with
    | none =>
      obtain ⟨hat, hv, hf, -⟩ := walk_noAllocs (fun _ => noAllocs) (fun i hi => rfl) hwk
      have hin := h (fun _ => noAllocs) (k + 1)
      rw [walk_visit hat hv hw (by rw [hf]; simp) (.inl hf)] at hin
      simp only [need, if_neg ht]
      exact hin.visit.1
    | some scope =>
      obtain ⟨t, htk, n, number, alternate, prevPipe, hat, hv, hf, hmir⟩ :=
        exists_walk_mirrors hwk hs
      have hin := h (allocsFrom t) (n + 1)
      rw [walk_visit hat hv hw (by rw [hf]; simp) (.inr ht)] at hin
      simp only [Walker.body, hf, hv, allocsFrom_of_le htk] at hin
      obtain ⟨h2, hpointers, hreads⟩ := hin.visit
      exact (hmir.uAddPipe size ht).1 h2 hpointers hreads

/-- A configuration descriptor of as many bytes as its `wTotalLength` says, whose
interface descriptor has a `bLength` of 4. -/
def shortInterface : List UInt8 :=
  [9, 2, 13, 0, 1, 1, 0, 0x80, 50, 4, 4, 0, 0]

/-- The walk does not stay inside every buffer. -/
theorem not_staysInside_shortInterface :
    ¬ ∀ bytes mem, Extends bytes mem →
      ∀ alloc calls, (walk mem alloc calls).StaysInside bytes.length := by
  intro h
  have hin := h shortInterface _ (extends_zeroExtend _) (fun _ => {}) 1
  have halt : ((walk (zeroExtend shortInterface) (fun _ => {}) 1).device.usbStack.altInterfaceAt
      0 0).map (·.descriptor) = some 9 := by decide
  obtain ⟨el, hel, hdesc⟩ := Option.map_eq_some_iff.mp halt
  have hle := (hin.pointers.altInterfaceAt hel).1
  rw [hdesc] at hle
  exact absurd hle (by decide)

end LibusbK
