import LibusbK.Dll.ContextMemory
import LibusbK.Lib.Guarded

/-!
# Threads that make, use and free the context

The calls of all threads in any order.  `AllKInitLock` guards the context against the calls of
`LibK_Context_Init` and `LibK_Context_Free`, and against nothing else: a thread that finds
`AllK` set uses the context although it may still be filled in, or may be taken down already.

## Main results

* `LibContext.always_consistent` — one thread at most is inside, no call of the two functions
  touches a context that is not there, and nothing is leaked.
* `LibContext.uses_ready_iff` — whoever uses the context finds it complete exactly when nobody
  is midway then, and it has not been freed.
-/

namespace LibusbK

namespace ContextPc

theorem not_inside_afterInit (result reads : Bool) : ¬(afterInit result reads).Inside := by
  unfold afterInit
  split <;> exact id

theorem not_inside_ite {b : Bool} {p q : ContextPc} (hp : ¬p.Inside) (hq : ¬q.Inside) :
    ¬(if b then p else q).Inside := by
  split
  · exact hp
  · exact hq

theorem not_isMidway_of_not_inside {p : ContextPc} (h : ¬p.Inside) : ¬p.IsMidway := by
  cases p with
  | initAssign heap rest reads => exact absurd trivial h
  | freeing heap rest => exact absurd trivial h
  | _ => exact id

end ContextPc

/-- What the lock guards. -/
def ContextMemory.Guards (m : ContextMemory) (p : Option ContextPc) : Prop :=
  m.wildAccess = false ∧ m.Fits p

namespace LibContext

open ContextPc

variable {s s' : LibContext} {t : ℕ} {answer : Bool}

/-- The invariant: the lock guards what the memory is like. -/
def Inv (s : LibContext) : Prop :=
  Guarded Inside s.memory.Guards s.allKInitLock s.threads

theorem inv_start : Inv {} where
  unique _ _ hi := hi.elim
  held_iff := iff_of_false Bool.false_ne_true fun ⟨_, hi⟩ => hi
  free _ := ⟨rfl, .inl ⟨rfl, fun _ => rfl, fun _ => rfl⟩⟩
  taken _ hi := hi.elim

theorem Inv.goto {pc : ContextPc} (h : s.Inv) (hi : ¬(s.threads t).Inside) (hpc : ¬pc.Inside) :
    (s.goto t pc).Inv :=
  Guarded.outside h hi hpc

theorem Inv.move {pc : ContextPc} {m : ContextMemory} (h : s.Inv) (hi : (s.threads t).Inside)
    (hpc : pc.Inside) (hm : s.memory.Guards (some (s.threads t)) → m.Guards (some pc)) :
    Inv { s.goto t pc with memory := m } :=
  Guarded.move h hi hpc hm

theorem Inv.unlock {pc : ContextPc} (h : s.Inv) (hi : (s.threads t).Inside) (hpc : ¬pc.Inside)
    (hm : s.memory.Fits (some (s.threads t)) → s.memory.Settled) : (s.unlock t pc).Inv :=
  Guarded.leave h hi hpc fun hguards => ⟨hguards.1, hm hguards.2⟩

theorem Inv.lock {pc : ContextPc} (h : s.Inv) (hpc : pc.Inside)
    (hm : s.memory.Settled → s.memory.Fits (some pc)) : (s.lock t pc).Inv := by
  unfold LibContext.lock
  cases hlock : s.allKInitLock with
  | true => exact h
  | false =>
    have hfree : Guarded Inside s.memory.Guards false s.threads := hlock ▸ h
    exact hfree.enter t hpc fun hguards => ⟨hguards.1, hm hguards.2⟩

/-- `LibK_Context_Init` gets its memory, or does not. -/
theorem Inv.allocate {heap : Option ℕ} {reads : Bool} (h : s.Inv)
    (hp : s.threads t = .initAlloc heap reads) : (s.allocate t heap reads answer).Inv := by
  have hin : (s.threads t).Inside := by
    rw [hp]
    trivial
  unfold LibContext.allocate
  cases answer with
  | true =>
    refine h.move hin trivial fun hguards => ?_
    rw [hp] at hguards
    obtain ⟨hwild, -, hempty⟩ := hguards
    exact ⟨hwild, hempty.filling_alloc⟩
  | false =>
    refine h.move hin trivial fun hguards => ?_
    rw [hp] at hguards
    obtain ⟨hwild, -, hempty⟩ := hguards
    exact ⟨hwild, .inl ⟨rfl, hempty.contexts, hempty.loads⟩⟩

/-- The second look at `AllK`. -/
theorem Inv.recheck {pc pc' : ContextPc} (h : s.Inv) (hin : (s.threads t).Inside)
    (hsettled : s.memory.Fits (some (s.threads t)) → s.memory.Settled)
    (hpc : pc.Inside) (hpc' : pc'.Inside)
    (hsome : s.memory.Settled → s.memory.allK.isSome = true → s.memory.Fits (some pc))
    (hnone : s.memory.Settled → s.memory.allK = none → s.memory.Fits (some pc')) :
    (s.goto t (if s.memory.allK.isSome then pc else pc')).Inv := by
  split
  next hallK =>
    exact h.move hin hpc fun hguards => ⟨hguards.1, hsome (hsettled hguards.2) hallK⟩
  next hallK =>
    refine h.move hin hpc' fun hguards => ⟨hguards.1, hnone (hsettled hguards.2) ?_⟩
    exact Option.not_isSome_iff_eq_none.mp hallK

/-- A step of a call keeps the invariant. -/
theorem Inv.run (h : s.Inv) (hrun : s.run t answer = some s') : s'.Inv := by
  have hout : ∀ {p}, s.threads t = p → ¬p.Inside → ¬(s.threads t).Inside := by
    rintro p rfl hp
    exact hp
  have hin : ∀ {p}, s.threads t = p → p.Inside → (s.threads t).Inside := by
    rintro p rfl hp
    exact hp
  unfold LibContext.run at hrun
  cases hp : s.threads t with
  | idle =>
    rw [hp] at hrun
    cases hrun
  | initCheck heap reads =>
    rw [hp] at hrun
    cases hrun
    exact h.goto (hout hp id) (not_inside_ite (not_inside_afterInit true reads) id)
  | initAcquire heap reads =>
    rw [hp] at hrun
    cases hrun
    exact h.lock trivial id
  | initRecheck heap reads =>
    rw [hp] at hrun
    cases hrun
    refine h.recheck (hin hp trivial) ?_ trivial trivial (fun hm _ => hm) ?_
    · rw [hp]
      exact id
    · rintro (hnone | ⟨c, hhas, -⟩) hallK
      · exact hnone
      · rw [← Option.not_isSome_iff_eq_none, hhas.allK_isSome] at hallK
        exact absurd rfl hallK
  | initAlloc heap reads =>
    rw [hp] at hrun
    cases hrun
    exact h.allocate hp
  | initAssign heap rest reads =>
    rw [hp] at hrun
    cases rest with
    | nil =>
      cases hrun
      refine h.unlock (hin hp trivial) (not_inside_afterInit true reads) ?_
      rw [hp]
      exact ContextMemory.Filling.settled
    | cons a rest =>
      cases hrun
      refine h.move (hin hp trivial) trivial fun hguards => ?_
      rw [hp] at hguards
      obtain ⟨hfilling, hwild⟩ := ContextMemory.Filling.assign hguards.2
      exact ⟨hwild.trans hguards.1, hfilling⟩
  | initRelease result reads =>
    rw [hp] at hrun
    cases hrun
    refine h.unlock (hin hp trivial) (not_inside_afterInit result reads) ?_
    rw [hp]
    exact id
  | useCheck =>
    rw [hp] at hrun
    cases hrun
    exact h.goto (hout hp id) (not_inside_ite id id)
  | checkLibInit =>
    rw [hp] at hrun
    cases hrun
    exact h.goto (hout hp id) (not_inside_ite id id)
  | use =>
    rw [hp] at hrun
    cases hrun
    have hidle : ¬ContextPc.Inside .idle := id
    exact h.goto (hout hp id) hidle
  | freeCheck =>
    rw [hp] at hrun
    cases hrun
    exact h.goto (hout hp id) (not_inside_ite id id)
  | freeAcquire =>
    rw [hp] at hrun
    cases hrun
    exact h.lock trivial id
  | freeRecheck =>
    rw [hp] at hrun
    cases hrun
    refine h.recheck (hin hp trivial) ?_ trivial trivial (fun hm hallK => hm.freeing hallK)
      (fun hm _ => hm)
    rw [hp]
    exact id
  | freeing heap rest =>
    rw [hp] at hrun
    cases rest with
    | nil =>
      cases hrun
      refine h.unlock (hin hp trivial) id ?_
      rw [hp]
      exact ContextMemory.Freeing.settled
    | cons r rest =>
      cases hrun
      refine h.move (hin hp trivial) trivial fun hguards => ?_
      rw [hp] at hguards
      obtain ⟨hfreeing, hwild⟩ := ContextMemory.Freeing.release hguards.2
      exact ⟨hwild.trans hguards.1, hfreeing⟩
  | freeRelease =>
    rw [hp] at hrun
    cases hrun
    refine h.unlock (hin hp trivial) id ?_
    rw [hp]
    exact id

theorem Inv.call {pc : ContextPc} (h : s.Inv) (hpc : ¬pc.Inside)
    (hcall : s.call t pc = some s') : s'.Inv := by
  unfold LibContext.call at hcall
  split at hcall
  next hp =>
    cases hcall
    refine h.goto ?_ hpc
    rw [hp]
    exact id
  next => cases hcall

theorem Inv.step {e : ContextEvent} (h : s.Inv) (hs : libContext.step s e = some s') :
    s'.Inv := by
  cases e with
  | init t heap => exact h.call id hs
  | needs t => exact h.call id hs
  | free t => exact h.call id hs
  | step t answer => exact h.run hs

/-- What the two functions see to: one thread at most is inside; they do not touch a context
that is not there; there is one context at most; and when nobody is inside, there is none and
nothing is loaded, or `AllK` points to one that is complete, with its libraries loaded once. -/
structure Consistent (s : LibContext) : Prop where
  oneInside : ∀ t u, (s.threads t).Inside → (s.threads u).Inside → t = u
  noWildAccess : s.memory.wildAccess = false
  oneContext : ∀ b b', (s.memory.contexts.get b).isSome = true →
    (s.memory.contexts.get b').isSome = true → b = b'
  settled : (∀ t, ¬(s.threads t).Inside) → s.memory.Settled

/-- Wherever the one thread inside is, the memory fits it. -/
theorem Inv.exists_guards (h : s.Inv) : ∃ p, s.memory.Guards p :=
  Guarded.elim h (fun _ hguards => ⟨none, hguards⟩) fun _ _ hguards => ⟨_, hguards⟩

theorem Inv.consistent (h : s.Inv) : s.Consistent where
  oneInside := h.unique
  noWildAccess := by
    obtain ⟨p, hguards⟩ := h.exists_guards
    exact hguards.1
  oneContext b b' hb hb' := by
    obtain ⟨p, hguards⟩ := h.exists_guards
    exact hguards.2.unique hb hb'
  settled hnone := (h.free hnone).2

/-- **The functions that make and free the context are safe.**  In every run of the threads of
a process, whatever the system answers, one thread at most is between taking `AllKInitLock` and
giving it back; no call of `LibK_Context_Init` or `LibK_Context_Free` accesses a context that
has been freed or is not there, or frees one twice; there is one context at most; and whenever
nobody is inside, the context and its libraries are all there or all released. -/
theorem always_consistent (es : List ContextEvent) : libContext.Always Consistent {} es :=
  Machine.always_of_step (I := Inv) (fun _ h => h.consistent) (fun _ _ _ h hs => h.step hs) es
    inv_start

/-- The context is complete just when there is one and nobody is midway. -/
theorem Inv.isReady_iff (h : s.Inv) :
    s.memory.context.any AllKContext.isReady = true ↔
      s.memory.allK.isSome = true ∧ ∀ u, ¬(s.threads u).IsMidway := by
  refine Guarded.elim h ?_ ?_
  · intro hnone hguards
    refine hguards.2.isReady_iff.trans (and_congr_right fun _ => iff_of_true ?_ fun u => ?_)
    · rintro _ ⟨⟩
    · exact ContextPc.not_isMidway_of_not_inside (hnone u)
  · intro t ht hguards
    refine hguards.2.isReady_iff.trans (and_congr_right fun _ => ⟨fun hnot u => ?_, ?_⟩)
    · by_cases hu : u = t
      · rw [hu]
        exact hnot _ rfl
      · exact ContextPc.not_isMidway_of_not_inside (Guarded.not_inside_of_ne h ht hu)
    · rintro hnot _ ⟨⟩
      exact hnot t

/-- A step that uses the context: there is one, and nobody is midway. -/
def UsesInTime (s : LibContext) (e : ContextEvent) : Prop :=
  ∀ t answer, e = .step t answer → s.threads t = .use →
    s.memory.allK.isSome = true ∧ ∀ u, ¬(s.threads u).IsMidway

theorem unreadyUse_lock (t : ℕ) (pc : ContextPc) : (s.lock t pc).unreadyUse = s.unreadyUse := by
  unfold LibContext.lock
  split <;> rfl

theorem unreadyUse_call {t : ℕ} {pc : ContextPc} (h : s.call t pc = some s') :
    s'.unreadyUse = s.unreadyUse := by
  unfold LibContext.call at h
  split at h
  · cases h
    rfl
  · cases h

/-- No step of a call but a use changes what has been noted. -/
theorem unreadyUse_run (hrun : s.run t answer = some s') (hnot : s.threads t ≠ .use) :
    s'.unreadyUse = s.unreadyUse := by
  unfold LibContext.run at hrun
  cases hp : s.threads t with
  | use => exact absurd hp hnot
  | idle =>
    rw [hp] at hrun
    cases hrun
  | initAcquire heap reads =>
    rw [hp] at hrun
    cases hrun
    exact unreadyUse_lock t _
  | freeAcquire =>
    rw [hp] at hrun
    cases hrun
    exact unreadyUse_lock t _
  | initAlloc heap reads =>
    rw [hp] at hrun
    cases hrun
    unfold LibContext.allocate
    split <;> rfl
  | initAssign heap rest reads =>
    rw [hp] at hrun
    cases rest <;> cases hrun <;> rfl
  | freeing heap rest =>
    rw [hp] at hrun
    cases rest <;> cases hrun <;> rfl
  | _ =>
    rw [hp] at hrun
    cases hrun
    rfl

theorem unreadyUse_step {e : ContextEvent} (hs : libContext.step s e = some s')
    (hnot : ∀ t answer, e = .step t answer → s.threads t ≠ .use) :
    s'.unreadyUse = s.unreadyUse := by
  cases e with
  | init t heap => exact unreadyUse_call hs
  | needs t => exact unreadyUse_call hs
  | free t => exact unreadyUse_call hs
  | step t answer => exact unreadyUse_run hs (hnot t answer rfl)

theorem unreadyUse_use (hp : s.threads t = .use)
    (hs : libContext.step s (.step t answer) = some s') :
    s'.unreadyUse = (s.unreadyUse || !s.memory.context.any AllKContext.isReady) := by
  have hrun : s.run t answer = some s' := hs
  unfold run at hrun
  rw [hp] at hrun
  cases hrun
  rfl

/-- **Who finds the context complete.**  The functions of the library look at `AllK` without
the lock, and use the context they find.  In a run all of them find it complete, with a heap and
with its sections ready, exactly when at each use there is a context and no other thread is
midway: filling it in, or taking it down and past the point where it has no heap any more. -/
theorem uses_ready_iff (es : List ContextEvent) :
    libContext.Always (fun s => s.unreadyUse = false) {} es ↔
      libContext.Throughout UsesInTime {} es := by
  refine Machine.always_iff_throughout (I := fun s : LibContext => s.Inv ∧ s.unreadyUse = false)
    (fun _ h => h.2) ?_ ?_ ⟨inv_start, rfl⟩
  · rintro s e s' ⟨hinv, hnoted⟩ hok hs
    refine ⟨hinv.step hs, ?_⟩
    by_cases huse : ∃ t answer, e = .step t answer ∧ s.threads t = .use
    · obtain ⟨t, answer, rfl, hp⟩ := huse
      rw [unreadyUse_use hp hs, hnoted, hinv.isReady_iff.mpr (hok t answer rfl hp)]
      rfl
    · rw [unreadyUse_step hs fun t answer he hp => huse ⟨t, answer, he, hp⟩]
      exact hnoted
  · rintro s e s' ⟨hinv, hnoted⟩ hs hgood t answer rfl hp
    rw [unreadyUse_use hp hs, Bool.or_eq_false_iff, Bool.not_eq_false'] at hgood
    exact hinv.isReady_iff.mp hgood.2

end LibContext

end LibusbK
