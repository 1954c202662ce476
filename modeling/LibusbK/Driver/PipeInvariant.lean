import LibusbK.Driver.Configure

/-!
# The pipe contexts over whole runs

Pipe contexts are shared by all interfaces, while queues come and go with the
settings.  The invariant ties each context to the queue it refers to, and says
that no two contexts refer to one queue.

## Main results

* `pipeContextsOk_of_throughout` — all along every run of operations, the pipe
  contexts are in order as long as no setting reports a pipe without an endpoint
  number or one whose context is in use for another interface.
-/

namespace LibusbK

/-! ### The property and the invariant -/

/-- The pipe contexts are in order. -/
structure PipeContextsOk (s : DeviceState) : Prop where
  queue : ∀ k, (s.pipes k).isValid = true → ∃ q obj, (s.pipes k).queue = some q ∧
    s.queues.get q = some obj ∧ obj.pipeHandle = (s.pipes k).pipe ∧
      obj.context.info = (s.pipes k).pipeInformation
  pipe : ∀ k, (s.pipes k).isValid = true →
    (s.pipes k).pipe.isSome = true ∨ (s.pipes k).pipeInformation.pipeType = .control
  deleted : ∀ k q, s.queues.get q = none → (s.pipes k).queue ≠ some q

/-- A queue was made for the pipe context as it is. -/
structure MadeFor (pc : PipeContext) (obj : QueueObject) : Prop where
  canStart : pc.canStart = true
  pipeHandle : obj.pipeHandle = pc.pipe
  info : obj.context.info = pc.pipeInformation

/-- The invariant of the pipe contexts. -/
structure PipesConsistent (s : DeviceState) : Prop where
  queue : ∀ k q, (s.pipes k).queue = some q →
    ∃ obj, s.queues.get q = some obj ∧ MadeFor (s.pipes k) obj
  distinct : ∀ k k' q, (s.pipes k).queue = some q → (s.pipes k').queue = some q → k = k'
  valid : ∀ k, (s.pipes k).isValid = true → (s.pipes k).queue.isSome = true
  number : ∀ i, ∀ k ∈ (s.interfaces i).pipeContextByIndex,
    k ≠ 0 ∧ (s.pipes k).pipeInformation.hasNumber = true

theorem PipesConsistent.pipeContextsOk {s : DeviceState} (h : PipesConsistent s) :
    PipeContextsOk s := by
  have hqueue : ∀ k, (s.pipes k).isValid = true → ∃ q obj, (s.pipes k).queue = some q ∧
      s.queues.get q = some obj ∧ MadeFor (s.pipes k) obj := by
    intro k hvalid
    obtain ⟨q, hq⟩ := Option.isSome_iff_exists.mp (h.valid k hvalid)
    obtain ⟨obj, hget, hmade⟩ := h.queue k q hq
    exact ⟨q, obj, hq, hget, hmade⟩
  refine ⟨fun k hvalid => ?_, fun k hvalid => ?_, fun k q hdead hq => ?_⟩
  · obtain ⟨q, obj, hq, hget, hmade⟩ := hqueue k hvalid
    exact ⟨q, obj, hq, hget, hmade.pipeHandle, hmade.info⟩
  · obtain ⟨q, obj, -, -, hmade⟩ := hqueue k hvalid
    simpa [PipeContext.canStart] using hmade.canStart
  · obtain ⟨obj, hget, -⟩ := h.queue k q hq
    rw [hdead] at hget
    cases hget

/-! ### Steps that leave the queues alone -/

/-- The same pipe, the same queue. -/
structure SamePipe (pc pc' : PipeContext) : Prop where
  queue : pc'.queue = pc.queue
  pipe : pc'.pipe = pc.pipe
  info : pc'.pipeInformation = pc.pipeInformation

theorem SamePipe.refl (pc : PipeContext) : SamePipe pc pc := ⟨rfl, rfl, rfl⟩

theorem SamePipe.trans {pc pc' pc'' : PipeContext} (h : SamePipe pc pc') (h' : SamePipe pc' pc'') :
    SamePipe pc pc'' :=
  ⟨h'.queue.trans h.queue, h'.pipe.trans h.pipe, h'.info.trans h.info⟩

theorem MadeFor.of_samePipe {pc pc' : PipeContext} {obj : QueueObject} (h : MadeFor pc obj)
    (hsame : SamePipe pc pc') : MadeFor pc' obj := by
  refine ⟨?_, h.pipeHandle.trans hsame.pipe.symm, h.info.trans hsame.info.symm⟩
  have := h.canStart
  unfold PipeContext.canStart at this ⊢
  rwa [hsame.pipe, hsame.info]

/-- The queues keep what the pipe contexts have to agree with. -/
def KeepsQueues (s s' : DeviceState) : Prop :=
  ∀ q obj, s.queues.get q = some obj → ∃ obj', s'.queues.get q = some obj' ∧
    obj'.pipeHandle = obj.pipeHandle ∧ obj'.context.info = obj.context.info

/-- A step that keeps every pipe and every queue, and makes no context valid that
has no queue. -/
theorem PipesConsistent.of_samePipe {s s' : DeviceState} (h : PipesConsistent s)
    (hsame : ∀ k, SamePipe (s.pipes k) (s'.pipes k)) (hqueues : KeepsQueues s s')
    (hvalid : ∀ k, (s'.pipes k).isValid = true → (s.pipes k).queue.isSome = true)
    (hif : s'.interfaces = s.interfaces) : PipesConsistent s' := by
  refine ⟨fun k q hq => ?_, fun k k' q hq hq' => ?_, fun k hv => ?_, fun i k hk => ?_⟩
  · rw [(hsame k).queue] at hq
    obtain ⟨obj, hget, hmade⟩ := h.queue k q hq
    obtain ⟨obj', hget', hhandle, hinfo⟩ := hqueues q obj hget
    have hmade' := hmade.of_samePipe (hsame k)
    exact ⟨obj', hget', hmade'.canStart, hhandle.trans hmade'.pipeHandle,
      hinfo.trans hmade'.info⟩
  · rw [(hsame k).queue] at hq
    rw [(hsame k').queue] at hq'
    exact h.distinct k k' q hq hq'
  · rw [(hsame k).queue]
    exact hvalid k hv
  · rw [hif] at hk
    rw [(hsame k).info]
    exact h.number i k hk

theorem KeepsQueues.of_eq {s s' : DeviceState} (h : s'.queues = s.queues) : KeepsQueues s s' := by
  intro q obj hget
  rw [h]
  exact ⟨obj, hget, rfl, rfl⟩

/-- Only one context changes, and it stays the same pipe. -/
theorem PipesConsistent.setPipe_of_samePipe {s : DeviceState} (h : PipesConsistent s) {k : Fin 32}
    {pc : PipeContext} (hsame : SamePipe (s.pipes k) pc)
    (hvalid : pc.isValid = true → (s.pipes k).queue.isSome = true) :
    PipesConsistent (s.setPipe k pc) := by
  refine h.of_samePipe (fun k' => ?_) (.of_eq rfl) (fun k' hv => ?_) rfl
  · by_cases hk : k' = k
    · subst hk
      rwa [DeviceState.pipes_setPipe, Function.update_self]
    · rw [DeviceState.pipes_setPipe, Function.update_of_ne hk]
      exact .refl _
  · by_cases hk : k' = k
    · subst hk
      rw [DeviceState.pipes_setPipe, Function.update_self] at hv
      exact hvalid hv
    · rw [DeviceState.pipes_setPipe, Function.update_of_ne hk] at hv
      exact h.valid k' hv

/-! ### A queue goes, a queue comes -/

section
variable {s s' : DeviceState} {k : Fin 32} {pc : PipeContext}

/-- A context loses its queue, and perhaps gets another pipe. -/
theorem PipesConsistent.withoutQueue (h : PipesConsistent s)
    (hget : s'.queues.get = (s.deleteQueue (s.pipes k).queue).queues.get)
    (hpipes : s'.pipes = Function.update s.pipes k pc) (hif : s'.interfaces = s.interfaces)
    (hnone : pc.queue = none) (hvalid : pc.isValid = false)
    (hnumber : k ≠ 0 → (s.pipes k).pipeInformation.hasNumber = true →
      pc.pipeInformation.hasNumber = true) : PipesConsistent s' := by
  have hself : s'.pipes k = pc := by rw [hpipes, Function.update_self]
  have hother : ∀ k', k' ≠ k → s'.pipes k' = s.pipes k' := by
    intro k' hk
    rw [hpipes, Function.update_of_ne hk]
  have hne : ∀ k' q, (s'.pipes k').queue = some q → k' ≠ k := by
    rintro k' q hq rfl
    rw [hself, hnone] at hq
    cases hq
  have hlive : ∀ k' q, k' ≠ k → (s.pipes k').queue = some q →
      s'.queues.get q = s.queues.get q := by
    intro k' q hk hq
    rw [hget]
    cases hold : (s.pipes k).queue with
    | none => rfl
    | some dead =>
      apply Objects.get_delete_of_ne
      rintro rfl
      exact hk (h.distinct k' k q hq hold)
  refine ⟨fun k' q hq => ?_, fun k' k'' q hq hq' => ?_, fun k' hv => ?_, fun i k' hk' => ?_⟩
  · have hk := hne k' q hq
    rw [hother k' hk] at hq ⊢
    rw [hlive k' q hk hq]
    exact h.queue k' q hq
  · have hk := hne k' q hq
    have hk' := hne k'' q hq'
    rw [hother k' hk] at hq
    rw [hother k'' hk'] at hq'
    exact h.distinct k' k'' q hq hq'
  · by_cases hk : k' = k
    · rw [hk, hself, hvalid] at hv
      cases hv
    · rw [hother k' hk] at hv ⊢
      exact h.valid k' hv
  · rw [hif] at hk'
    obtain ⟨hzero, hnum⟩ := h.number i k' hk'
    by_cases hk : k' = k
    · subst hk
      rw [hself]
      exact ⟨hzero, hnumber hzero hnum⟩
    · rw [hother k' hk]
      exact ⟨hzero, hnum⟩

/-- A context without a queue gets one that is made for it. -/
theorem PipesConsistent.withQueue {obj : QueueObject} (h : PipesConsistent s)
    (hnone : (s.pipes k).queue = none) (hget : s'.queues.get = (s.queues.create obj).get)
    (hpipes : s'.pipes = Function.update s.pipes k pc) (hif : s'.interfaces = s.interfaces)
    (hq : pc.queue = some s.queues.next) (hmade : MadeFor pc obj)
    (hinfo : pc.pipeInformation = (s.pipes k).pipeInformation) : PipesConsistent s' := by
  have hself : s'.pipes k = pc := by rw [hpipes, Function.update_self]
  have hother : ∀ k', k' ≠ k → s'.pipes k' = s.pipes k' := by
    intro k' hk
    rw [hpipes, Function.update_of_ne hk]
  -- the new handle is no handle of any other context
  have hfresh : ∀ k' q, (s.pipes k').queue = some q → q ≠ s.queues.next := by
    intro k' q hq'
    obtain ⟨obj', hlive, -⟩ := h.queue k' q hq'
    exact Nat.ne_of_lt (s.queues.lt_next_of_get hlive)
  refine ⟨fun k' q hq' => ?_, fun k' k'' q hq' hq'' => ?_, fun k' hv => ?_, fun i k' hk' => ?_⟩
  · by_cases hk : k' = k
    · subst hk
      rw [hself, hq] at hq'
      obtain rfl := Option.some.inj hq'
      rw [hself, hget, Objects.get_create_self]
      exact ⟨obj, rfl, hmade⟩
    · rw [hother k' hk] at hq' ⊢
      rw [hget, Objects.get_create_of_ne _ _ (hfresh k' q hq')]
      exact h.queue k' q hq'
  · by_cases hk : k' = k <;> by_cases hk' : k'' = k
    · rw [hk, hk']
    · rw [hk, hself, hq] at hq'
      obtain rfl := Option.some.inj hq'
      rw [hother k'' hk'] at hq''
      exact absurd rfl (hfresh k'' _ hq'')
    · rw [hk', hself, hq] at hq''
      obtain rfl := Option.some.inj hq''
      rw [hother k' hk] at hq'
      exact absurd rfl (hfresh k' _ hq')
    · rw [hother k' hk] at hq'
      rw [hother k'' hk'] at hq''
      exact h.distinct k' k'' q hq' hq''
  · by_cases hk : k' = k
    · rw [hk, hself, hq]
      rfl
    · rw [hother k' hk] at hv ⊢
      exact h.valid k' hv
  · rw [hif] at hk'
    by_cases hk : k' = k
    · subst hk
      rw [hself, hinfo]
      exact h.number i k' hk'
    · rw [hother k' hk]
      exact h.number i k' hk'

end

/-! ### Starting and stopping -/

theorem PipesConsistent.pipeStarted {s s' : DeviceState} {k : Fin 32} {startIoTarget : Bool}
    {a : StartAnswers} (h : PipesConsistent s) (hs : PipeStarted s k startIoTarget a s') :
    PipesConsistent s' := by
  cases hs with
  | refused | noPipe => exact h
  | noQueue queues hvalid hstart hneeds hcreates hget =>
    exact h.withoutQueue hget rfl rfl rfl rfl fun _ hnum => hnum
  | created hvalid hstart hneeds hcreates =>
    -- first the old queue goes
    let gone := (s.deleteQueue (s.pipes k).queue).setPipe k
      { s.pipes k with queue := none, isValid := false }
    have hpipes : gone.pipes = Function.update s.pipes k
        { s.pipes k with queue := none, isValid := false } := by
      rw [DeviceState.pipes_setPipe, DeviceState.pipes_deleteQueue]
    have hif : gone.interfaces = s.interfaces := DeviceState.interfaces_deleteQueue _ _
    have hgone : PipesConsistent gone :=
      h.withoutQueue rfl hpipes hif rfl rfl fun _ hnum => hnum
    have hself : gone.pipes k = { s.pipes k with queue := none, isValid := false } := by
      rw [hpipes, Function.update_self]
    -- then the new one is made
    have hpipes' : Function.update s.pipes k { s.pipes k with
          isQueueDirty := false
          queue := some (s.deleteQueue (s.pipes k).queue).queues.next
          isValid := a.starts (s.pipes k).pipeInformation startIoTarget } =
        Function.update gone.pipes k { s.pipes k with
          isQueueDirty := false
          queue := some (s.deleteQueue (s.pipes k).queue).queues.next
          isValid := a.starts (s.pipes k).pipeInformation startIoTarget } := by
      rw [hpipes, Function.update_idem]
    exact hgone.withQueue (by rw [hself]) rfl hpipes' hif.symm rfl ⟨hstart, rfl, rfl⟩
      (by rw [hself])
  | kept hvalid hstart hneeds =>
    refine h.setPipe_of_samePipe ⟨rfl, rfl, rfl⟩ fun _ => ?_
    unfold PipeContext.needsQueue at hneeds
    cases hq : (s.pipes k).queue with
    | none => simp [hq] at hneeds
    | some q => rfl

theorem PipesConsistent.pipeStart {s : DeviceState} (h : PipesConsistent s) (k : Fin 32)
    (startIoTarget : Bool) (a : StartAnswers) :
    PipesConsistent (pipeStart s k startIoTarget a).1 :=
  h.pipeStarted (pipeStarted_pipeStart s k startIoTarget a)

theorem PipesConsistent.pipeStop {s : DeviceState} (h : PipesConsistent s) (k : Fin 32) :
    PipesConsistent (pipeStop s k).1 := by
  unfold LibusbK.pipeStop
  split_ifs
  · exact h.setPipe_of_samePipe ⟨rfl, rfl, rfl⟩ fun hv => by cases hv
  · exact h

theorem PipesConsistent.stopPipes {s : DeviceState} (h : PipesConsistent s) (ks : List (Fin 32)) :
    PipesConsistent (stopPipes s ks) := by
  unfold LibusbK.stopPipes
  induction ks generalizing s with
  | nil => exact h
  | cons k ks ih => exact ih (h.pipeStop k)

theorem PipesConsistent.startPipes {s : DeviceState} (h : PipesConsistent s)
    (start : ℕ → StartAnswers) (startIoTarget : Bool) (n : ℕ) (ks : List (Fin 32)) :
    PipesConsistent (startPipes start startIoTarget s n ks) := by
  induction ks generalizing s n with
  | nil => exact h
  | cons k ks ih => exact ih (h.pipeStart k startIoTarget (start n)) (n + 1)

/-- A change of queue contexts that keeps the pipe information. -/
theorem PipesConsistent.modifyQueue {s : DeviceState} (h : PipesConsistent s) (q : WdfHandle)
    {f : QueueContext → QueueContext} (hf : ∀ qc, (f qc).info = qc.info) :
    PipesConsistent (s.modifyQueue q f) := by
  cases q with
  | none => exact h
  | some q =>
    refine h.of_samePipe (fun k => .refl _) (fun q' obj hget => ?_) h.valid rfl
    by_cases hq : q' = q
    · subst hq
      refine ⟨{ obj with context := f obj.context }, ?_, rfl, hf _⟩
      exact (Objects.get_modify_self _ _ _).trans (by rw [hget]; rfl)
    · exact ⟨obj, (Objects.get_modify_of_ne _ _ hq).trans hget, rfl, rfl⟩

/-! ### Changing a setting -/

theorem PipesConsistent.deletePipe {s : DeviceState} (h : PipesConsistent s) {k : Fin 32}
    (hvalid : (s.pipes k).isValid = false)
    (hnumber : (s.pipes k).pipeInformation.hasNumber = true) :
    PipesConsistent (deletePipe s k) := by
  refine h.withoutQueue ?_ (pipes_deletePipe s k) (interfaces_deletePipe s k) ?_ hvalid
    fun _ hnum => hnum
  · unfold LibusbK.deletePipe
    cases hq : (s.pipes k).queue with
    | none =>
      simp only [hvalid, hq]
      rfl
    | some q => simp [hvalid, hnumber, hq]
  · unfold deletedPipe
    simp [hvalid, hnumber]

theorem PipesConsistent.deletePipes {s : DeviceState} (h : PipesConsistent s) {ks : List (Fin 32)}
    (hks : ∀ k ∈ ks, (s.pipes k).isValid = false ∧ (s.pipes k).pipeInformation.hasNumber = true) :
    PipesConsistent (ks.foldl LibusbK.deletePipe s) := by
  induction ks generalizing s with
  | nil => exact h
  | cons k ks ih =>
    obtain ⟨hvalid, hnumber⟩ := hks k List.mem_cons_self
    apply ih (h.deletePipe hvalid hnumber)
    intro k' hk'
    rw [pipes_deletePipe]
    by_cases hk : k' = k
    · subst hk
      rw [Function.update_self]
      exact ⟨hvalid, hnumber⟩
    · rw [Function.update_of_ne hk]
      exact hks k' (List.mem_cons_of_mem k hk')

/-- Storing an interface context whose pipes have endpoint numbers. -/
theorem PipesConsistent.setInterface {s : DeviceState} (h : PipesConsistent s) (i : ℕ)
    {ic : InterfaceContext} (hic : ∀ k ∈ ic.pipeContextByIndex,
      k ≠ 0 ∧ (s.pipes k).pipeInformation.hasNumber = true) :
    PipesConsistent (s.setInterface i ic) := by
  refine ⟨h.queue, h.distinct, h.valid, fun j k hk => ?_⟩
  rw [DeviceState.interfaces_setInterface] at hk
  by_cases hj : j = i
  · subst hj
    rw [Function.update_self] at hk
    exact hic k hk
  · rw [Function.update_of_ne hj] at hk
    exact h.number j k hk

theorem pipeSlot_ne_zero {address : UInt8} (h : address &&& 0xF ≠ 0) : pipeSlot address ≠ 0 := by
  have hall : ∀ n : Fin 256, UInt8.ofNat n.val &&& 0xF ≠ 0 → pipeSlot (UInt8.ofNat n.val) ≠ 0 := by
    decide +kernel
  have heq : UInt8.ofNat address.toNat = address := UInt8.ofNat_toNat
  have := hall ⟨address.toNat, address.toNat_lt⟩
  dsimp only at this
  rw [heq] at this
  exact this h

theorem PipeInformation.pipeSlot_ne_zero {info : PipeInformation} (h : info.hasNumber = true) :
    pipeSlot info.endpointAddress ≠ 0 := by
  apply LibusbK.pipeSlot_ne_zero
  simpa [PipeInformation.hasNumber] using h

theorem hasNumber_initPipes {pipes : List (Option (ℕ × PipeInformation))} {s : DeviceState}
    (hnew : ∀ pipe info, some (pipe, info) ∈ pipes → info.hasNumber = true) {k : Fin 32}
    (h : (s.pipes k).pipeInformation.hasNumber = true) :
    ((initPipes s pipes).1.pipes k).pipeInformation.hasNumber = true := by
  induction pipes generalizing s with
  | nil => exact h
  | cons p rest ih =>
    cases p with
    | none => exact h
    | some q =>
      obtain ⟨pipe, info⟩ := q
      apply ih fun pipe info hmem => hnew pipe info (List.mem_cons_of_mem _ hmem)
      by_cases hk : k = pipeSlot info.endpointAddress
      · subst hk
        rw [DeviceState.pipes_setPipe, Function.update_self, hasNumber_configurePipe]
        exact hnew pipe info List.mem_cons_self
      · rwa [DeviceState.pipes_setPipe, Function.update_of_ne hk]

/-- Reading the configured pipes back, if each has an endpoint number and a
context without a queue. -/
theorem PipesConsistent.initPipes {pipes : List (Option (ℕ × PipeInformation))}
    {s : DeviceState} (h : PipesConsistent s)
    (hnew : ∀ pipe info, some (pipe, info) ∈ pipes → info.hasNumber = true ∧
      (s.pipes (pipeSlot info.endpointAddress)).queue = none) :
    PipesConsistent (initPipes s pipes).1 ∧ ∀ k ∈ (initPipes s pipes).2.1,
      k ≠ 0 ∧ ((initPipes s pipes).1.pipes k).pipeInformation.hasNumber = true := by
  induction pipes generalizing s with
  | nil => exact ⟨h, fun k hk => absurd hk List.not_mem_nil⟩
  | cons p rest ih =>
    cases p with
    | none => exact ⟨h, fun k hk => absurd hk List.not_mem_nil⟩
    | some q =>
      obtain ⟨pipe, info⟩ := q
      obtain ⟨hnumber, hnone⟩ := hnew pipe info List.mem_cons_self
      have hrest : ∀ pipe info, some (pipe, info) ∈ rest → info.hasNumber = true ∧
          (s.pipes (pipeSlot info.endpointAddress)).queue = none :=
        fun pipe info hmem => hnew pipe info (List.mem_cons_of_mem _ hmem)
      let k := pipeSlot info.endpointAddress
      let s' := s.setPipe k (configurePipe s.device.isHighSpeed (s.pipes k) pipe info)
      have hinvalid : (s.pipes k).isValid = false := by
        cases hv : (s.pipes k).isValid with
        | false => rfl
        | true =>
          have := h.valid k hv
          rw [hnone] at this
          cases this
      have hs' : PipesConsistent s' := by
        refine h.withoutQueue ?_ (DeviceState.pipes_setPipe _ _ _)
          (DeviceState.interfaces_setPipe _ _ _) ?_ ?_ ?_
        · rw [hnone]
          rfl
        · rw [queue_configurePipe, hnone]
        · rw [isValid_configurePipe, hinvalid]
        · intro _ _
          rwa [hasNumber_configurePipe]
      have hqueue : ∀ k', (s'.pipes k').queue = (s.pipes k').queue := by
        intro k'
        by_cases hk : k' = k
        · rw [hk, DeviceState.pipes_setPipe, Function.update_self, queue_configurePipe]
        · rw [DeviceState.pipes_setPipe, Function.update_of_ne hk]
      obtain ⟨hdone, hslots⟩ := ih hs' fun pipe info hmem =>
        ⟨(hrest pipe info hmem).1, (hqueue _).trans (hrest pipe info hmem).2⟩
      refine ⟨hdone, fun k' hk' => ?_⟩
      rcases List.mem_cons.mp hk' with rfl | hk'
      · refine ⟨info.pipeSlot_ne_zero hnumber, ?_⟩
        apply hasNumber_initPipes fun pipe info hmem => (hrest pipe info hmem).1
        rwa [DeviceState.pipes_setPipe, Function.update_self, hasNumber_configurePipe]
      · exact hslots k' hk'

theorem PipesConsistent.interfaceInitContext {s : DeviceState} (h : PipesConsistent s) (i : ℕ)
    {a : InterfaceAnswers}
    (hnew : ∀ pipe info, some (pipe, info) ∈ a.configuredPipes → info.hasNumber = true ∧
      (s.pipes (pipeSlot info.endpointAddress)).queue = none) :
    PipesConsistent (interfaceInitContext s i a).1 := by
  unfold LibusbK.interfaceInitContext
  dsimp only
  split_ifs
  · exact h
  · obtain ⟨hdone, hslots⟩ := h.initPipes hnew
    exact hdone.setInterface i hslots

/-- The pipes that the setting selected for the interface `i` reports have
endpoint numbers, and contexts that are in use for this interface or for none. -/
def ReportsOwnPipes (s : DeviceState) (i : ℕ) (a : InterfaceAnswers) : Prop :=
  ∀ pipe info, some (pipe, info) ∈ a.configuredPipes → info.hasNumber = true ∧
    ((s.pipes (pipeSlot info.endpointAddress)).queue = none ∨
      pipeSlot info.endpointAddress ∈ (s.interfaces i).pipeContextByIndex)

/-- The old pipes are stopped and their queues deleted. -/
theorem PipesConsistent.beforeInit {s : DeviceState} (h : PipesConsistent s) (i : ℕ)
    (a : InterfaceAnswers) : PipesConsistent (beforeInit s i a) := by
  have hstopped := h.stopPipes (s.interfaces i).pipeContextByIndex
  have hselected : PipesConsistent ((interfaceStop s i).1.setInterface i
      { (interfaceStop s i).1.interfaces i with settingIndex := a.configuredSettingIndex }) :=
    hstopped.setInterface i (hstopped.number i)
  unfold LibusbK.beforeInit interfaceDeletePipesAndQueues
  refine (hselected.deletePipes ?_).setInterface i fun k hk => absurd hk List.not_mem_nil
  intro k hk
  refine ⟨?_, (hselected.number i k hk).2⟩
  simp only [interfaceStop, DeviceState.interfaces_setInterface, Function.update_self,
    interfaces_stopPipes] at hk
  rw [DeviceState.pipes_setInterface]
  simp only [interfaceStop]
  rw [pipes_stopPipes, if_pos hk]

theorem queue_beforeInit {s : DeviceState} (h : PipesConsistent s) {i : ℕ} {a : InterfaceAnswers}
    {k : Fin 32} (hk : (s.pipes k).queue = none ∨ k ∈ (s.interfaces i).pipeContextByIndex) :
    ((LibusbK.beforeInit s i a).pipes k).queue = none := by
  rw [pipes_beforeInit]
  by_cases hmem : k ∈ (s.interfaces i).pipeContextByIndex
  · rw [if_pos hmem]
    unfold deletedPipe
    simp [(h.number i k hmem).2]
  · rw [if_neg hmem]
    exact hk.resolve_right hmem

theorem PipesConsistent.changeAltSetting {s : DeviceState} (h : PipesConsistent s) {i : ℕ}
    {a : InterfaceAnswers} (hnew : ntSuccess a.selectSetting = true → ReportsOwnPipes s i a) :
    PipesConsistent (changeAltSetting s i a).1 := by
  cases hselect : ntSuccess a.selectSetting with
  | false =>
    rw [changeAltSetting_of_not_selected hselect]
    exact (h.stopPipes _).startPipes _ _ _ _
  | true =>
    have hinit :
        PipesConsistent (LibusbK.interfaceInitContext (LibusbK.beforeInit s i a) i a).1 := by
      apply (h.beforeInit i a).interfaceInitContext
      intro pipe info hmem
      obtain ⟨hnumber, hown⟩ := hnew hselect pipe info hmem
      exact ⟨hnumber, queue_beforeInit h hown⟩
    rw [changeAltSetting_eq hselect]
    split_ifs
    · exact hinit
    · exact hinit.startPipes _ _ _ _

theorem PipesConsistent.interfaceSetAltSetting {s : DeviceState} (h : PipesConsistent s)
    {intf : InterfaceRequest} {a : InterfaceAnswers}
    (hnew : ∀ i altIndex, Found s intf a i altIndex → (s.interfaces i).settingIndex ≠ altIndex →
      ntSuccess a.selectSetting = true → ReportsOwnPipes s i a) :
    PipesConsistent (interfaceSetAltSetting s intf a).1 := by
  by_cases hfound : ∃ i altIndex, Found s intf a i altIndex
  · obtain ⟨i, altIndex, hf⟩ := hfound
    rw [hf.interfaceSetAltSetting_eq]
    split_ifs with heq
    · exact h
    · exact h.changeAltSetting (hnew i altIndex hf heq)
  · obtain ⟨status, -, heq⟩ := interfaceSetAltSetting_of_not_found
      fun i altIndex hf => hfound ⟨i, altIndex, hf⟩
    rw [heq]
    exact h

/-! ### The operations on one pipe -/

theorem PipesConsistent.pipeRefreshQueue {s : DeviceState} (h : PipesConsistent s) (k : Fin 32)
    (a : StartAnswers) : PipesConsistent (pipeRefreshQueue s k a).1 := by
  unfold LibusbK.pipeRefreshQueue
  dsimp only
  split_ifs
  · exact h.pipeStop k
  · exact (h.pipeStop k).pipeStart k false a

theorem PipesConsistent.refreshForRequest {s : DeviceState} (h : PipesConsistent s)
    (pipeID : UInt8) (a : StartAnswers) : PipesConsistent (refreshForRequest s pipeID a).1 := by
  unfold LibusbK.refreshForRequest
  dsimp only
  split_ifs
  · exact h
  · exact h.pipeRefreshQueue _ a
  · exact h

theorem PipesConsistent.flushPipe {s : DeviceState} (h : PipesConsistent s) (pipeID : UInt8)
    (a : StartAnswers) : PipesConsistent (flushPipe s pipeID a).1 := by
  unfold LibusbK.flushPipe
  dsimp only
  split_ifs
  · exact h
  · exact h.pipeStop _
  · apply PipesConsistent.pipeStart
    apply (h.pipeStop _).modifyQueue
    intro qc
    rfl
  · exact (h.pipeStop _).pipeStart _ _ _

theorem PipesConsistent.pipeReset {s : DeviceState} (h : PipesConsistent s) (pipeID : UInt8)
    (status : NTSTATUS) : PipesConsistent (pipeReset s pipeID status).1 := by
  unfold LibusbK.pipeReset
  dsimp only
  split_ifs
  · exact h
  · exact h
  · dsimp only
    apply h.modifyQueue
    intro qc
    rfl

/-- No case of `Policy_SetPipe` touches the pipe or its queue. -/
theorem samePipe_setPolicy (isHighSpeed : Bool) (pc : PipeContext) (policyType : UInt32)
    (value : ValueBytes) (valueLength : UInt32) :
    SamePipe pc (setPolicy isHighSpeed pc policyType value valueLength).context ∧
      (setPolicy isHighSpeed pc policyType value valueLength).context.isValid = pc.isValid := by
  unfold setPolicy
  split
  · unfold setRawIo
    dsimp only
    split_ifs <;> exact ⟨⟨rfl, rfl, rfl⟩, rfl⟩
  · unfold setFlag
    split_ifs <;> exact ⟨⟨rfl, rfl, rfl⟩, rfl⟩
  · unfold setTransferTimeout
    split_ifs <;> exact ⟨⟨rfl, rfl, rfl⟩, rfl⟩
  · unfold setIsoStartLatency
    split_ifs <;> exact ⟨⟨rfl, rfl, rfl⟩, rfl⟩
  · unfold setIsoNumFixedPackets
    dsimp only
    split_ifs <;> exact ⟨⟨rfl, rfl, rfl⟩, rfl⟩
  · unfold setSimulParallelRequests
    split_ifs <;> exact ⟨⟨rfl, rfl, rfl⟩, rfl⟩
  · exact ⟨.refl _, rfl⟩
  · exact ⟨.refl _, rfl⟩

/-- Neither does storing the policy word. -/
theorem samePipe_done (isHighSpeed : Bool) (pc : PipeContext) (policyType : UInt32)
    (value : ValueBytes) (valueLength : UInt32) :
    SamePipe pc (setPolicy isHighSpeed pc policyType value valueLength).done ∧
      (setPolicy isHighSpeed pc policyType value valueLength).done.isValid = pc.isValid := by
  obtain ⟨hsame, hvalid⟩ := samePipe_setPolicy isHighSpeed pc policyType value valueLength
  unfold PolicyUpdate.done
  split_ifs
  · exact ⟨⟨hsame.queue, hsame.pipe, hsame.info⟩, hvalid⟩
  · exact ⟨hsame, hvalid⟩

theorem PipesConsistent.setPipePolicy {s : DeviceState} (h : PipesConsistent s) (pipeID : UInt8)
    (policyType : UInt32) (value : ValueBytes) (valueLength : UInt32) :
    PipesConsistent (setPipePolicy s pipeID policyType value valueLength).1 := by
  unfold LibusbK.setPipePolicy policySetPipe
  dsimp only
  split_ifs
  · exact h
  · exact h
  · obtain ⟨hsame, hvalid⟩ := samePipe_done s.device.isHighSpeed
      (getPipeContextByID s.pipes pipeID) policyType value valueLength
    refine h.setPipe_of_samePipe hsame fun hv => h.valid _ ?_
    rwa [hvalid] at hv

theorem PipesConsistent.deviceReset {s : DeviceState} (h : PipesConsistent s)
    (start : ℕ → ℕ → StartAnswers) : PipesConsistent (deviceReset s start) := by
  have hloop : ∀ {f : DeviceState → ℕ → DeviceState},
      (∀ s i, PipesConsistent s → PipesConsistent (f s i)) → ∀ (is : List ℕ) {s : DeviceState},
        PipesConsistent s → PipesConsistent (is.foldl f s) := by
    intro f hf is
    induction is with
    | nil => exact fun h => h
    | cons i is ih => exact fun h => ih (hf _ i h)
  exact hloop (fun s i h => h.startPipes _ _ _ _) _ (hloop (fun s i h => h.stopPipes _) _ h)

/-! ### Configuring the device -/

theorem PipesConsistent.isValid_of_queue_none {s : DeviceState} (h : PipesConsistent s)
    {k : Fin 32} (hnone : (s.pipes k).queue = none) : (s.pipes k).isValid = false := by
  cases hv : (s.pipes k).isValid with
  | false => rfl
  | true =>
    have := h.valid k hv
    rw [hnone] at this
    cases this

/-- The default pipe is started like any other. -/
theorem pipeInitDefaultContext_eq {s : DeviceState} (a : StartAnswers)
    (hinvalid : (s.pipes 0).isValid = false) : pipeInitDefaultContext s a =
      pipeStart (s.setPipe 0 (defaultPipe s.device.isHighSpeed
        (s.device.usbDeviceDescriptor.getD 7 0).toNat (s.pipes 0))) 0 false a := by
  have hstill : (defaultPipe s.device.isHighSpeed
      (s.device.usbDeviceDescriptor.getD 7 0).toNat (s.pipes 0)).isValid = false := by
    rw [← hinvalid]
    unfold defaultPipe policyInitPipe
    dsimp only
    split_ifs <;> rfl
  unfold pipeInitDefaultContext pipeStart
  rw [DeviceState.pipes_setPipe, Function.update_self, hstill]
  rfl

theorem PipesConsistent.pipeInitDefaultContext {s : DeviceState} (h : PipesConsistent s)
    (hnone : (s.pipes 0).queue = none) (a : StartAnswers) :
    PipesConsistent (pipeInitDefaultContext s a).1 := by
  have hinvalid := h.isValid_of_queue_none hnone
  rw [pipeInitDefaultContext_eq a hinvalid]
  apply PipesConsistent.pipeStart
  refine h.withoutQueue ?_ (DeviceState.pipes_setPipe _ _ _) rfl rfl ?_ ?_
  · rw [hnone]
    rfl
  · rw [← hinvalid]
    unfold defaultPipe policyInitPipe
    dsimp only
    split_ifs <;> rfl
  · intro hzero
    exact absurd rfl hzero

theorem pipes_pipeInitDefaultContext_of_ne {s : DeviceState} (a : StartAnswers)
    (hinvalid : (s.pipes 0).isValid = false) {k : Fin 32} (hk : k ≠ 0) :
    (LibusbK.pipeInitDefaultContext s a).1.pipes k = s.pipes k := by
  rw [pipeInitDefaultContext_eq a hinvalid, pipes_pipeStart_of_ne _ hk,
    DeviceState.pipes_setPipe, Function.update_of_ne hk]

/-- The slot `k` is none of those the configured pipes report. -/
def NotReported (pipes : List (Option (ℕ × PipeInformation))) (k : Fin 32) : Prop :=
  ∀ pipe info, some (pipe, info) ∈ pipes → pipeSlot info.endpointAddress ≠ k

theorem pipes_initPipes_of_notReported {pipes : List (Option (ℕ × PipeInformation))}
    {k : Fin 32} (h : NotReported pipes k) (s : DeviceState) :
    (LibusbK.initPipes s pipes).1.pipes k = s.pipes k ∧ k ∉ (LibusbK.initPipes s pipes).2.1 := by
  induction pipes generalizing s with
  | nil => exact ⟨rfl, List.not_mem_nil⟩
  | cons p rest ih =>
    cases p with
    | none => exact ⟨rfl, List.not_mem_nil⟩
    | some q =>
      obtain ⟨pipe, info⟩ := q
      have hne : k ≠ pipeSlot info.endpointAddress := Ne.symm (h pipe info List.mem_cons_self)
      obtain ⟨hsame, hmem⟩ := ih (fun pipe info hp => h pipe info (List.mem_cons_of_mem _ hp))
        (s.setPipe (pipeSlot info.endpointAddress) (configurePipe s.device.isHighSpeed
          (s.pipes (pipeSlot info.endpointAddress)) pipe info))
      refine ⟨hsame.trans ?_, fun hk => ?_⟩
      · rw [DeviceState.pipes_setPipe, Function.update_of_ne hne]
      · rcases List.mem_cons.mp hk with heq | hk
        · exact hne heq
        · exact hmem hk

theorem pipes_startPipes_of_notMem (start : ℕ → StartAnswers) (startIoTarget : Bool)
    {ks : List (Fin 32)} {k : Fin 32} (h : k ∉ ks) (s : DeviceState) (n : ℕ) :
    (LibusbK.startPipes start startIoTarget s n ks).pipes k = s.pipes k := by
  induction ks generalizing s n with
  | nil => rfl
  | cons k' ks ih =>
    rw [List.mem_cons, not_or] at h
    exact (ih h.2 _ _).trans (pipes_pipeStart_of_ne s h.1 startIoTarget (start n))

theorem PipesConsistent.withInterfaceCount {s : DeviceState} (h : PipesConsistent s) (n : ℕ) :
    PipesConsistent (s.withInterfaceCount n) :=
  ⟨h.queue, h.distinct, h.valid, h.number⟩

theorem interfaceInitContext_of_notReported {s : DeviceState} {i : ℕ} {a : InterfaceAnswers}
    {k : Fin 32} (hk : NotReported a.configuredPipes k) :
    (LibusbK.interfaceInitContext s i a).1.pipes k = s.pipes k ∧
      (ntSuccess (LibusbK.interfaceInitContext s i a).2 = true →
        k ∉ ((LibusbK.interfaceInitContext s i a).1.interfaces i).pipeContextByIndex) := by
  obtain ⟨hsame, hmem⟩ := pipes_initPipes_of_notReported hk s
  unfold LibusbK.interfaceInitContext
  dsimp only
  split_ifs
  · exact ⟨rfl, fun hok => by cases hok⟩
  · refine ⟨hsame, fun _ => ?_⟩
    rwa [DeviceState.interfaces_setInterface, Function.update_self]

/-- Configuring one interface, if the contexts of its pipes have no queues. -/
theorem PipesConsistent.configureInterface {s : DeviceState} (h : PipesConsistent s)
    {a : ConfigureAnswers} {i : ℕ}
    (hnew : ∀ pipe info, some (pipe, info) ∈ (a.interface i).configuredPipes →
      info.hasNumber = true ∧ (s.pipes (pipeSlot info.endpointAddress)).queue = none) :
    PipesConsistent (configureInterface a s i).1 ∧
      ∀ k, NotReported (a.interface i).configuredPipes k →
        (LibusbK.configureInterface a s i).1.pipes k = s.pipes k := by
  have hassigned : PipesConsistent (assignInterface a s i) := h.setInterface i (h.number i)
  have hinit := hassigned.interfaceInitContext i hnew
  unfold LibusbK.configureInterface
  dsimp only
  cases hok : ntSuccess (LibusbK.interfaceInitContext (assignInterface a s i) i
      (a.interface i)).2 with
  | false =>
    refine ⟨hinit.withInterfaceCount i, fun k hk => ?_⟩
    exact (interfaceInitContext_of_notReported hk).1
  | true =>
    refine ⟨hinit.startPipes _ _ _ _, fun k hk => ?_⟩
    obtain ⟨hsame, hmem⟩ := interfaceInitContext_of_notReported hk (s := assignInterface a s i)
      (i := i)
    exact (pipes_startPipes_of_notMem _ _ (hmem hok) _ _).trans hsame

/-- The interface `i` is there and reports a pipe. -/
def ConfigureAnswers.Reports (a : ConfigureAnswers) (i pipe : ℕ) (info : PipeInformation) : Prop :=
  i < a.numInterfacesAfter.toNat ∧ some (pipe, info) ∈ (a.interface i).configuredPipes

/-- The interfaces report pipes with endpoint numbers, and no two of them report
pipes with one context. -/
structure ReportsDistinctPipes (a : ConfigureAnswers) : Prop where
  number : ∀ i pipe info, a.Reports i pipe info → info.hasNumber = true
  distinct : ∀ i j pipe info pipe' info', a.Reports i pipe info → a.Reports j pipe' info' →
    pipeSlot info.endpointAddress = pipeSlot info'.endpointAddress → i = j

/-- The contexts of the pipes that the interfaces from `i` on report have no queues. -/
def UnusedFrom (a : ConfigureAnswers) (s : DeviceState) (i : ℕ) : Prop :=
  ∀ j, i ≤ j → ∀ pipe info, a.Reports j pipe info →
    (s.pipes (pipeSlot info.endpointAddress)).queue = none

theorem PipesConsistent.configureInterfaces {a : ConfigureAnswers} (ha : ReportsDistinctPipes a)
    (n i : ℕ) (r : DeviceState × NTSTATUS) (hn : i + n ≤ a.numInterfacesAfter.toNat)
    (h : PipesConsistent r.1) (hfree : UnusedFrom a r.1 i) :
    PipesConsistent (configureInterfaces a n i r).1 := by
  induction n generalizing i r with
  | zero => exact h
  | succ n ih =>
    have hi : i < a.numInterfacesAfter.toNat := by omega
    obtain ⟨hdone, hframe⟩ := h.configureInterface fun pipe info hmem =>
      ⟨ha.number i pipe info ⟨hi, hmem⟩, hfree i (Nat.le_refl _) pipe info ⟨hi, hmem⟩⟩
    unfold LibusbK.configureInterfaces
    dsimp only
    split_ifs
    · exact hdone
    · apply ih (i + 1) _ (by omega) hdone
      intro j hj pipe info hreport
      rw [hframe]
      · exact hfree j (by omega) pipe info hreport
      · intro pipe' info' hmem' heq
        have := ha.distinct i j pipe' info' pipe info ⟨hi, hmem'⟩ hreport heq
        omega

theorem PipesConsistent.deviceConfigure {s : DeviceState} (h : PipesConsistent s)
    {a : ConfigureAnswers} (hfresh : ∀ k, (s.pipes k).queue = none)
    (ha : ReportsDistinctPipes a) : PipesConsistent (deviceConfigure s a).1 := by
  have hcount := (h.withInterfaceCount a.numInterfaces.toNat).withInterfaceCount
    a.numInterfacesAfter.toNat
  have hnone := hcount.isValid_of_queue_none (hfresh 0)
  have hdefault := hcount.pipeInitDefaultContext (hfresh 0) a.defaultPipe
  unfold LibusbK.deviceConfigure
  dsimp only
  split_ifs
  · exact h.withInterfaceCount _
  · exact h.withInterfaceCount _
  · exact hdefault
  · apply PipesConsistent.configureInterfaces ha _ _ _ (by omega) hdefault
    intro j _ pipe info hreport
    rw [pipes_pipeInitDefaultContext_of_ne _ hnone
      (info.pipeSlot_ne_zero (ha.number j pipe info hreport))]
    exact hfresh _

/-! ### Whole runs -/

/-- A step configures pipes that have endpoint numbers and whose contexts are in
use for no other interface. -/
def ConfiguresOwnPipes (d : UsbDevice) : PipeOperation → Prop
  | .prepareHardware a => d.prepared = false → ReportsDistinctPipes a.configure
  | .setAltSetting intf a => ∀ i altIndex, Found d.state intf a i altIndex →
    (d.state.interfaces i).settingIndex ≠ altIndex → ntSuccess a.selectSetting = true →
      ReportsOwnPipes d.state i a
  | _ => True

/-- The invariant of a device: before the hardware is prepared there are no
queues, and the pipes are consistent throughout. -/
structure DeviceConsistent (d : UsbDevice) : Prop where
  pipes : PipesConsistent d.state
  unprepared : d.prepared = false → ∀ k, (d.state.pipes k).queue = none

theorem PipesConsistent.withDevice {s : DeviceState} (h : PipesConsistent s)
    (device : DeviceContext) : PipesConsistent { s with device := device } :=
  ⟨h.queue, h.distinct, h.valid, h.number⟩

theorem DeviceConsistent.deviceOnPrepareHardware {d : UsbDevice} (h : DeviceConsistent d)
    {a : PrepareAnswers} (ha : d.prepared = false → ReportsDistinctPipes a.configure) :
    DeviceConsistent (deviceOnPrepareHardware d a).1 := by
  unfold LibusbK.deviceOnPrepareHardware
  dsimp only
  split_ifs with hprepared
  · exact h
  · exact h
  · exact ⟨h.pipes.withDevice _, fun hnot => by cases hnot⟩
  · exact ⟨h.pipes.withDevice _, fun hnot => by cases hnot⟩
  · have hnot : d.prepared = false := by simpa using hprepared
    have hdone := (h.pipes.withDevice a.device).deviceConfigure (h.unprepared hnot) (ha hnot)
    exact ⟨hdone, fun hnot => by cases hnot⟩

theorem PipesConsistent.onState {s : DeviceState} (h : PipesConsistent s) {op : PipeOperation}
    {prepared : Bool} (hok : ConfiguresOwnPipes ⟨prepared, s⟩ op) :
    PipesConsistent (op.onState s) := by
  cases op with
  | prepareHardware a => exact h
  | setAltSetting intf a => exact h.interfaceSetAltSetting hok
  | flushPipe pipeID a => exact h.flushPipe pipeID a
  | refreshForRequest pipeID a => exact h.refreshForRequest pipeID a
  | resetPipe pipeID status => exact h.pipeReset pipeID status
  | setPolicy pipeID policyType value valueLength =>
    exact h.setPipePolicy pipeID policyType value valueLength
  | resetDevice start => exact h.deviceReset start

theorem DeviceConsistent.step {d d' : UsbDevice} {op : PipeOperation} (h : DeviceConsistent d)
    (hok : ConfiguresOwnPipes d op) (hd : pipeMachine.step d op = some d') :
    DeviceConsistent d' := by
  rcases pipeMachine_step hd with ⟨a, rfl, rfl⟩ | ⟨hprepared, rfl⟩
  · exact h.deviceOnPrepareHardware hok
  · refine ⟨h.pipes.onState hok, fun hnot => ?_⟩
    rw [hprepared] at hnot
    cases hnot

theorem deviceConsistent_start : DeviceConsistent {} := by
  refine ⟨⟨?_, ?_, ?_, ?_⟩, fun _ _ => rfl⟩
  · intro k q hq
    cases hq
  · intro k k' q hq
    cases hq
  · intro k hv
    cases hv
  · intro i k hk
    cases hk

/-- **The pipe contexts stay in order.**  From a new device on, in every state of
every run whose steps only configure pipes with endpoint numbers and contexts
that no other interface uses. -/
theorem pipeContextsOk_of_throughout (ops : List PipeOperation)
    (h : pipeMachine.Throughout ConfiguresOwnPipes {} ops) :
    pipeMachine.Always (fun d => PipeContextsOk d.state) {} ops :=
  h.always (fun _ hd => hd.pipes.pipeContextsOk) (fun _ _ _ hd hok hstep => hd.step hok hstep)
    deviceConsistent_start

/-- A bulk pipe at the address `0x81`. -/
def bulkIn : PipeInformation where
  maximumPacketSize := 64
  endpointAddress := 0x81
  interval := 0
  pipeType := .bulk
  maximumTransferSize := 4096

/-- A device with `n` interfaces, each of which reports the pipe `0x81`. -/
def preparedWith (n : UInt8) : PrepareAnswers where
  device := { usbConfigurationDescriptor := [9] }
  configure := {
    numInterfaces := n
    numInterfacesAfter := n
    interface := fun i => { configuredPipes := [some (i, bulkIn)] } }

theorem reportsDistinctPipes_preparedWith_one :
    ReportsDistinctPipes (preparedWith 1).configure := by
  have hinfo : ∀ i pipe info, (preparedWith 1).configure.Reports i pipe info →
      i = 0 ∧ info = bulkIn := by
    rintro i pipe info ⟨hi, hmem⟩
    have hcount : (preparedWith 1).configure.numInterfacesAfter.toNat = 1 := rfl
    simp only [preparedWith, List.mem_singleton, Option.some.injEq, Prod.mk.injEq] at hmem
    exact ⟨by omega, hmem.2⟩
  refine ⟨fun i pipe info h => ?_, fun i j pipe info pipe' info' h h' _ => ?_⟩
  · rw [(hinfo i pipe info h).2]
    decide
  · rw [(hinfo i pipe info h).1, (hinfo j pipe' info' h').1]

/-- A device with one interface is prepared and its pipe flushed. -/
theorem pipeContextsOk_of_throughout_flush :
    pipeMachine.Always (fun d => PipeContextsOk d.state) {}
      [.prepareHardware (preparedWith 1), .flushPipe 0x81 {}] := by
  apply pipeContextsOk_of_throughout
  intro d hd
  refine ⟨fun _ => reportsDistinctPipes_preparedWith_one, fun d' hd' => ?_⟩
  exact ⟨trivial, trivial⟩

/-- Two interfaces with one address: the queue belongs to the pipe of the first,
the context to that of the second. -/
theorem not_pipeContextsOk_sharedAddress :
    ¬pipeMachine.Always (fun d => PipeContextsOk d.state) {}
      [.prepareHardware (preparedWith 2)] := by
  intro h
  obtain ⟨q, obj, hq, hobj, hhandle, -⟩ := (h.2 _ rfl).start.queue 17 (by decide)
  have hpipe : ((deviceOnPrepareHardware {} (preparedWith 2)).1.state.pipes 17).pipe = some 1 := by
    decide
  have hqueue :
      ((deviceOnPrepareHardware {} (preparedWith 2)).1.state.pipes 17).queue = some 1 := by
    decide
  have hold : ((deviceOnPrepareHardware {} (preparedWith 2)).1.state.queues.get 1).map
      QueueObject.pipeHandle = some (some 0) := by decide
  obtain rfl : 1 = q := Option.some.inj (hqueue.symm.trans hq)
  rw [hobj, Option.map_some, hhandle, hpipe] at hold
  cases hold

end LibusbK
