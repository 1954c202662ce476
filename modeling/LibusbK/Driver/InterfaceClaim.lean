import LibusbK.Driver.Control
import LibusbK.Driver.InterfaceSetting
import LibusbK.Lib.Machine

/-!
# Interface claims

`Interface_Claim`, `Interface_Release` and `Interface_ReleaseAll` of
`drv_interface.c`, run by requests of a queue that presents them in parallel and
by the close of a file object.  Each read and each write of `ClaimedByFileObject`
is a step of its own, and so is the completion of a request, so the handlers can
interleave in every order.

## Main definitions

* `ClaimPc`, `ClaimState.handlerStep` — the points a handler can be at, and what it does there.
* `interfaceClaims` — the machine of all handlers of a device.
* `ClaimsExclusive` — one owner at most, no stolen claim, nothing owned by a closed file.
* `StepsOutside` — the handler that takes a step does not step in between a test and an act
  of another.

## Main result

* `claimsExclusive_of_throughout` — claims are exclusive in every run in which no handler
  assigns a field that another has tested and is about to act on.
-/

namespace LibusbK

abbrev STATUS_OBJECT_NAME_COLLISION : NTSTATUS := 0xC0000035

abbrev LIBUSB_IOCTL_CLAIM_INTERFACE : UInt32 := ctlCode 0x815 METHOD_BUFFERED
abbrev LIBUSB_IOCTL_RELEASE_INTERFACE : UInt32 := ctlCode 0x816 METHOD_BUFFERED
abbrev LIBUSBK_IOCTL_CLAIM_INTERFACE : UInt32 := ctlCode 0x90D METHOD_BUFFERED
abbrev LIBUSBK_IOCTL_RELEASE_INTERFACE : UInt32 := ctlCode 0x90E METHOD_BUFFERED
abbrev LIBUSBK_IOCTL_RELEASE_ALL_INTERFACES : UInt32 := ctlCode 0x90F METHOD_BUFFERED

/-! ### Where a handler can be -/

/-- The loop of `Interface_ReleaseAll`. -/
inductive ReleaseAllPc
  /-- Interface `i` is about to be tested, if there is one. -/
  | test (i : ℕ)
  /-- Interface `i` was found to be the file's. -/
  | assign (i : ℕ)
  deriving DecidableEq, Repr

/-- The interfaces the loop is done with are those below this one. -/
def ReleaseAllPc.pos : ReleaseAllPc → ℕ
  | test i => i
  | assign i => i

/-- What a handler does next. -/
inductive ClaimPc
  /-- Test whether the file owns the interface. -/
  | claimTestSelf (i : ℕ)
  /-- Test whether anybody does. -/
  | claimTestFree (i : ℕ)
  /-- Assign the field. -/
  | claimAssign (i : ℕ)
  | releaseTestFree (i : ℕ)
  | releaseTestOwner (i : ℕ)
  | releaseAssign (i : ℕ)
  | releaseAll (pc : ReleaseAllPc)
  /-- Complete the request: `claimed` is the interface a successful claim was for. -/
  | complete (claimed : Option ℕ) (status : NTSTATUS)
  deriving DecidableEq, Repr

/-- The interface the handler looks at is one of the first `count`. -/
def ClaimPc.InRange (count : ℕ) : ClaimPc → Prop
  | claimTestSelf i => i < count
  | claimTestFree i => i < count
  | claimAssign i => i < count
  | releaseTestFree _ => True
  | releaseTestOwner _ => True
  | releaseAssign _ => True
  | releaseAll _ => True
  | complete _ _ => True

/-- The start of `Interface_Claim`. -/
def interfaceClaim (s : DeviceState) (intf : InterfaceRequest) : ClaimPc :=
  match getInterfaceContextFromRequest s intf with
  | .error status => .complete none status
  | .ok i => .claimTestSelf i

/-- The start of `Interface_Release`. -/
def interfaceRelease (s : DeviceState) (intf : InterfaceRequest) : ClaimPc :=
  match getInterfaceContextFromRequest s intf with
  | .error status => .complete none status
  | .ok i => .releaseTestFree i

/-- The request looks up its interface by number. -/
def InterfaceRequest.byNumber (intf : InterfaceRequest) : InterfaceRequest :=
  { intf with intfUseIndex := false, altfUseIndex := false }

/-- `DefaultQueue_OnIoControl` for the codes that touch `ClaimedByFileObject`;
`outputBuffer` is what `WdfRequestRetrieveOutputBuffer` answers. -/
def claimDispatch (s : DeviceState) (ioControlCode : UInt32) (intf : InterfaceRequest)
    (outputBuffer : NTSTATUS) : Option ClaimPc :=
  if ioControlCode = LIBUSBK_IOCTL_RELEASE_ALL_INTERFACES then some (.releaseAll (.test 0))
  else if ioControlCode = LIBUSBK_IOCTL_CLAIM_INTERFACE then
    if !ntSuccess outputBuffer then some (.complete none outputBuffer)
    else some (interfaceClaim s intf)
  else if ioControlCode = LIBUSBK_IOCTL_RELEASE_INTERFACE then
    if !ntSuccess outputBuffer then some (.complete none outputBuffer)
    else some (interfaceRelease s intf)
  else if ioControlCode = LIBUSB_IOCTL_CLAIM_INTERFACE then some (interfaceClaim s intf.byNumber)
  else if ioControlCode = LIBUSB_IOCTL_RELEASE_INTERFACE then
    some (interfaceRelease s intf.byNumber)
  else none

/-! ### The state -/

/-- A request of the queue that is being handled, and the file object it came from. -/
structure ClaimHandler (F : Type*) where
  file : F
  pc : ClaimPc

/-- A file object.  It is closed once its last request is completed, and sends no
more then. -/
inductive FileState
  | isOpen
  /-- `Device_OnFileClose` is at this point of `Interface_ReleaseAll`. -/
  | closing (pc : ReleaseAllPc)
  | closed
  deriving DecidableEq, Repr

/-- The interfaces of a device with their `ClaimedByFileObject`, and the handlers at
work.  `told` and `stolen` are no part of the driver. -/
structure ClaimState (F : Type*) where
  device : DeviceState
  owner : ℕ → Option F
  handlers : List (ClaimHandler F)
  files : F → FileState
  /-- The file object was told that it owns the interface, and has not released it since. -/
  told : ℕ → F → Bool
  /-- A release or a close cleared the claim of another file object. -/
  stolen : Bool

section
variable {F : Type*} [DecidableEq F]

namespace ClaimState

variable (s : ClaimState F)

/-- `ClaimedByFileObject = fileObject`. -/
def assign (i : ℕ) (f : F) : ClaimState F :=
  { s with owner := Function.update s.owner i (some f) }

/-- The claim of another file object is there to be cleared. -/
def ownedByOther (i : ℕ) (f : F) : Bool :=
  match s.owner i with
  | none => false
  | some g => decide (g ≠ f)

/-- `ClaimedByFileObject = NULL`, for a release by `f`. -/
def release (i : ℕ) (f : F) : ClaimState F :=
  { s with
    owner := Function.update s.owner i none
    told := fun j g => if j = i ∧ g = f then false else s.told j g
    stolen := s.stolen || s.ownedByOther i f }

/-- The claim of `f` is reported. -/
def tell (i : ℕ) (f : F) : ClaimState F :=
  { s with told := fun j g => if j = i ∧ g = f then true else s.told j g }

/-- A step of `Interface_ReleaseAll`; `none` is its end. -/
def releaseAllStep (f : F) : ReleaseAllPc → ClaimState F × Option ReleaseAllPc
  | .test i =>
    if i < s.device.interfaceCount then
      if s.owner i = some f then (s, some (.assign i)) else (s, some (.test (i + 1)))
    else (s, none)
  | .assign i => (s.release i f, some (.test (i + 1)))

/-- A step of a handler; `none` is its end. -/
def handlerStep (f : F) : ClaimPc → ClaimState F × Option ClaimPc
  | .claimTestSelf i =>
    if s.owner i = some f then (s, some (.complete (some i) STATUS_SUCCESS))
    else (s, some (.claimTestFree i))
  | .claimTestFree i =>
    if s.owner i ≠ none then (s, some (.complete none STATUS_OBJECT_NAME_COLLISION))
    else (s, some (.claimAssign i))
  | .claimAssign i => (s.assign i f, some (.complete (some i) STATUS_SUCCESS))
  | .releaseTestFree i =>
    if s.owner i = none then (s, some (.complete none STATUS_SUCCESS))
    else (s, some (.releaseTestOwner i))
  | .releaseTestOwner i =>
    if s.owner i ≠ some f then (s, some (.complete none STATUS_OBJECT_NAME_COLLISION))
    else (s, some (.releaseAssign i))
  | .releaseAssign i => (s.release i f, some (.complete none STATUS_SUCCESS))
  | .releaseAll pc =>
    match s.releaseAllStep f pc with
    | (s, some pc) => (s, some (.releaseAll pc))
    | (s, none) => (s, some (.complete none STATUS_SUCCESS))
  | .complete (some i) _ => (s.tell i f, none)
  | .complete none _ => (s, none)

/-- The handlers after the one at `k` has taken a step. -/
def withHandler (k : ℕ) (f : F) : Option ClaimPc → ClaimState F
  | some pc => { s with handlers := s.handlers.set k ⟨f, pc⟩ }
  | none => { s with handlers := s.handlers.eraseIdx k }

/-- `f` after its close has taken a step. -/
def withClose (f : F) : Option ReleaseAllPc → ClaimState F
  | some pc => { s with files := Function.update s.files f (.closing pc) }
  | none => { s with files := Function.update s.files f .closed }

/-- Nothing is claimed, and no file object has sent a request yet. -/
def start (device : DeviceState) : ClaimState F where
  device := device
  owner _ := none
  handlers := []
  files _ := .isOpen
  told _ _ := false
  stolen := false

end ClaimState

/-- What happens to a device. -/
inductive ClaimEvent (F : Type*)
  /-- A request is presented to a handler. -/
  | request (f : F) (ioControlCode : UInt32) (intf : InterfaceRequest) (outputBuffer : NTSTATUS)
  /-- The handler at `k` takes its next step. -/
  | run (k : ℕ)
  /-- The file object is closed. -/
  | close (f : F)
  /-- `Device_OnFileClose` takes its next step. -/
  | runClose (f : F)
  /-- The interface contexts change, as when a setting is selected. -/
  | setInterfaces (interfaces : ℕ → InterfaceContext)

/-- The handlers of a device, in the order of their steps. -/
def interfaceClaims (F : Type*) [DecidableEq F] : Machine (ClaimState F) (ClaimEvent F) where
  step s
    | .request f ioControlCode intf outputBuffer =>
      if s.files f = .isOpen then
        (claimDispatch s.device ioControlCode intf outputBuffer).map fun pc =>
          { s with handlers := s.handlers ++ [⟨f, pc⟩] }
      else none
    | .run k =>
      s.handlers[k]?.map fun h =>
        let r := s.handlerStep h.file h.pc
        r.1.withHandler k h.file r.2
    | .close f =>
      if s.files f = .isOpen ∧ (s.handlers.all fun h => decide (h.file ≠ f)) = true then
        some { s with files := Function.update s.files f (.closing (.test 0)) }
      else none
    | .runClose f =>
      match s.files f with
      | .closing pc =>
        let r := s.releaseAllStep f pc
        some (r.1.withClose f r.2)
      | .isOpen => none
      | .closed => none
    | .setInterfaces interfaces =>
      some { s with device := { s.device with interfaces := interfaces } }

/-- **Claims are exclusive.**  At most one file object has been told that it owns an
interface and has not released it since, no release has cleared the claim of another file
object, and a closed file object owns nothing. -/
structure ClaimsExclusive (s : ClaimState F) : Prop where
  exclusive : ∀ i f g, s.told i f = true → s.told i g = true → f = g
  kept : s.stolen = false
  closed : ∀ f, s.files f = .closed → ∀ i, s.owner i ≠ some f

/-! ### Steps between a test and the act it allows -/

/-- The interface whose field the handler has tested and is about to assign. -/
def ClaimPc.acting : ClaimPc → Option ℕ
  | claimAssign i => some i
  | releaseAssign i => some i
  | releaseAll (.assign i) => some i
  | _ => none

/-- The interface whose claim the handler is about to report. -/
def ClaimPc.reporting : ClaimPc → Option ℕ
  | complete claimed _ => claimed
  | _ => none

/-- A handler of `f` at this point does not step in between a test of `h` and what `h` does
next.  It assigns the interface to `f` only if `h`, when it has tested the same interface and
is about to assign it, is another handler of `f`; and it clears the field only if `h` is not
about to report a claim of `f`. -/
def ClaimPc.StaysOut (f : F) (h : ClaimHandler F) : ClaimPc → Prop
  | claimAssign i => h.pc.acting = some i → h.file = f
  | releaseAssign i => h.pc.reporting = some i → h.file ≠ f
  | releaseAll (.assign i) => h.pc.reporting = some i → h.file ≠ f
  | _ => True

/-- The handler that takes the step stays out of what the others have begun. -/
def StepsOutside (s : ClaimState F) : ClaimEvent F → Prop
  | .run k => ∀ h ∈ s.handlers[k]?, ∀ h' ∈ s.handlers.eraseIdx k, h.pc.StaysOut h.file h'
  | _ => True

instance decidableStaysOut (f : F) (h : ClaimHandler F) :
    ∀ pc : ClaimPc, Decidable (pc.StaysOut f h)
  | .claimAssign i => inferInstanceAs (Decidable (h.pc.acting = some i → h.file = f))
  | .releaseAssign i => inferInstanceAs (Decidable (h.pc.reporting = some i → h.file ≠ f))
  | .releaseAll (.assign i) => inferInstanceAs (Decidable (h.pc.reporting = some i → h.file ≠ f))
  | .releaseAll (.test _) => isTrue trivial
  | .claimTestSelf _ => isTrue trivial
  | .claimTestFree _ => isTrue trivial
  | .releaseTestFree _ => isTrue trivial
  | .releaseTestOwner _ => isTrue trivial
  | .complete _ _ => isTrue trivial

instance decidableStepsOutside (s : ClaimState F) :
    ∀ e : ClaimEvent F, Decidable (StepsOutside s e)
  | .run k => inferInstanceAs (Decidable
      (∀ h ∈ s.handlers[k]?, ∀ h' ∈ s.handlers.eraseIdx k, h.pc.StaysOut h.file h'))
  | .request .. => isTrue trivial
  | .close _ => isTrue trivial
  | .runClose _ => isTrue trivial
  | .setInterfaces _ => isTrue trivial

/-- What the handler of `f` found in its tests is still so: an interface it assigns is
nobody's but its own, and an interface it reports is its own. -/
def FindingHolds (s : ClaimState F) (f : F) : ClaimPc → Prop
  | .claimAssign i => s.owner i = none ∨ s.owner i = some f
  | .releaseAssign i => s.owner i = none ∨ s.owner i = some f
  | .releaseAll (.assign i) => s.owner i = none ∨ s.owner i = some f
  | .complete (some i) _ => s.owner i = some f
  | _ => True

omit [DecidableEq F] in
theorem findingHolds_iff {s : ClaimState F} {f : F} {pc : ClaimPc} :
    FindingHolds s f pc ↔
      (∀ i, pc.acting = some i → s.owner i = none ∨ s.owner i = some f) ∧
        ∀ i, pc.reporting = some i → s.owner i = some f := by
  cases pc with
  | releaseAll pc => cases pc <;> simp [FindingHolds, ClaimPc.acting, ClaimPc.reporting]
  | complete claimed status =>
    cases claimed <;> simp [FindingHolds, ClaimPc.acting, ClaimPc.reporting]
  | _ => simp [FindingHolds, ClaimPc.acting, ClaimPc.reporting]

end

/-! ### Where a handler starts -/

/-- Where a handler starts. -/
theorem claimDispatch_start {s : DeviceState} {ioControlCode : UInt32} {intf : InterfaceRequest}
    {outputBuffer : NTSTATUS} {pc : ClaimPc} {P : ClaimPc → Prop}
    (h : claimDispatch s ioControlCode intf outputBuffer = some pc)
    (hall : P (.releaseAll (.test 0))) (hfailed : ∀ status, P (.complete none status))
    (hclaim : ∀ intf i, getInterfaceContextFromRequest s intf = .ok i → P (.claimTestSelf i))
    (hrelease : ∀ i, P (.releaseTestFree i)) : P pc := by
  have hclaimed : ∀ intf, P (interfaceClaim s intf) := by
    intro intf
    unfold interfaceClaim
    split
    · exact hfailed _
    · next i hi => exact hclaim intf i hi
  have hreleased : ∀ intf, P (interfaceRelease s intf) := by
    intro intf
    unfold interfaceRelease
    split
    · exact hfailed _
    · exact hrelease _
  unfold claimDispatch at h
  split_ifs at h <;> cases h
  · exact hall
  · exact hfailed _
  · exact hclaimed _
  · exact hfailed _
  · exact hreleased _
  · exact hclaimed _
  · exact hreleased _

/-- A handler looks at an interface there is. -/
theorem inRange_claimDispatch {s : DeviceState} {ioControlCode : UInt32} {intf : InterfaceRequest}
    {outputBuffer : NTSTATUS} {pc : ClaimPc}
    (h : claimDispatch s ioControlCode intf outputBuffer = some pc) :
    pc.InRange s.interfaceCount := by
  apply claimDispatch_start h
  · trivial
  · intro status
    trivial
  · intro intf i hi
    exact lt_of_getInterfaceContextFromRequest hi
  · intro i
    trivial

section
variable {F : Type*} [DecidableEq F]

/-! ### What a step of a handler does -/

/-- What a step of a handler leaves alone. -/
structure ClaimState.SameFiles (s t : ClaimState F) : Prop where
  device : t.device = s.device
  files : t.files = s.files
  handlers : t.handlers = s.handlers

theorem ClaimState.sameFiles_releaseAllStep (s : ClaimState F) (f : F) (pc : ReleaseAllPc) :
    s.SameFiles (s.releaseAllStep f pc).1 := by
  cases pc with
  | test i =>
    simp only [ClaimState.releaseAllStep]
    split_ifs <;> exact ⟨rfl, rfl, rfl⟩
  | assign i => exact ⟨rfl, rfl, rfl⟩

/-- `Interface_ReleaseAll` as a handler runs it. -/
theorem ClaimState.handlerStep_releaseAll (s : ClaimState F) (f : F) (pc : ReleaseAllPc) :
    s.handlerStep f (.releaseAll pc) =
      ((s.releaseAllStep f pc).1,
        some ((s.releaseAllStep f pc).2.elim (.complete none STATUS_SUCCESS) .releaseAll)) := by
  simp only [ClaimState.handlerStep]
  split <;> next heq => rw [heq]; rfl

theorem ClaimState.sameFiles_handlerStep (s : ClaimState F) (f : F) (pc : ClaimPc) :
    s.SameFiles (s.handlerStep f pc).1 := by
  cases pc with
  | releaseAll pc =>
    rw [ClaimState.handlerStep_releaseAll]
    exact s.sameFiles_releaseAllStep f pc
  | complete claimed status => cases claimed <;> exact ⟨rfl, rfl, rfl⟩
  | claimAssign i => exact ⟨rfl, rfl, rfl⟩
  | releaseAssign i => exact ⟨rfl, rfl, rfl⟩
  | _ =>
    simp only [ClaimState.handlerStep]
    split_ifs <;> exact ⟨rfl, rfl, rfl⟩

theorem inRange_handlerStep (s : ClaimState F) (f : F) {count : ℕ} {pc pc' : ClaimPc}
    (hrange : pc.InRange count) (h : (s.handlerStep f pc).2 = some pc') : pc'.InRange count := by
  cases pc with
  | releaseAll pc =>
    rw [ClaimState.handlerStep_releaseAll] at h
    cases h
    cases (s.releaseAllStep f pc).2 <;> trivial
  | complete claimed status => cases claimed <;> cases h
  | claimAssign i =>
    cases h
    trivial
  | releaseAssign i =>
    cases h
    trivial
  | _ =>
    simp only [ClaimState.handlerStep] at h
    split_ifs at h <;> cases h <;> first | exact hrange | trivial

namespace ClaimState

variable {s : ClaimState F} {f g : F} {i : ℕ}

/-- **What a step of a handler can do to the field**: `Interface_Claim` assigns its file
object, a release clears it, and every other step leaves it alone. -/
theorem owner_handlerStep_cases (s : ClaimState F) (f : F) (pc : ClaimPc) :
    (∃ i, pc = .claimAssign i ∧
        (s.handlerStep f pc).1.owner = Function.update s.owner i (some f)) ∨
      (∃ i, (pc = .releaseAssign i ∨ pc = .releaseAll (.assign i)) ∧
        (s.handlerStep f pc).1.owner = Function.update s.owner i none) ∨
      (s.handlerStep f pc).1.owner = s.owner := by
  cases pc with
  | claimAssign i => exact .inl ⟨i, rfl, rfl⟩
  | releaseAssign i => exact .inr (.inl ⟨i, .inl rfl, rfl⟩)
  | releaseAll pc =>
    rw [handlerStep_releaseAll]
    cases pc with
    | assign i => exact .inr (.inl ⟨i, .inr rfl, rfl⟩)
    | test i =>
      simp only [releaseAllStep]
      split_ifs <;> exact .inr (.inr rfl)
  | complete claimed status => cases claimed <;> exact .inr (.inr rfl)
  | _ =>
    simp only [handlerStep]
    split_ifs <;> exact .inr (.inr rfl)

/-- What `f` owns is the same. -/
def SameFor (s t : ClaimState F) (f : F) : Prop :=
  t.device = s.device ∧ ∀ i, t.owner i = some f ↔ s.owner i = some f

omit [DecidableEq F] in
theorem SameFor.refl (s : ClaimState F) (f : F) : s.SameFor s f := ⟨rfl, fun _ => Iff.rfl⟩

omit [DecidableEq F] in
theorem SameFor.trans {t u : ClaimState F} (hst : s.SameFor t f) (htu : t.SameFor u f) :
    s.SameFor u f :=
  ⟨htu.1.trans hst.1, fun i => (htu.2 i).trans (hst.2 i)⟩

omit [DecidableEq F] in
/-- A write to the owner of an interface that is not the file object's. -/
theorem sameFor_update (hne : g ≠ f) (hown : s.owner i = none ∨ s.owner i = some g)
    {owner : Option F} (howner : owner = none ∨ owner = some g) (j : ℕ) :
    Function.update s.owner i owner j = some f ↔ s.owner j = some f := by
  have hnot {x : Option F} (hx : x = none ∨ x = some g) : x ≠ some f := by
    rintro rfl
    rcases hx with hx | hx
    · cases hx
    · exact hne (Option.some.inj hx).symm
  by_cases hj : j = i
  · rw [hj, Function.update_self]
    exact iff_of_false (hnot howner) (hnot hown)
  · rw [Function.update_of_ne hj]

/-- A handler that acts on what it found changes nothing for another file object. -/
theorem sameFor_handlerStep {pc : ClaimPc} (hne : g ≠ f) (hfind : FindingHolds s g pc) :
    s.SameFor (s.handlerStep g pc).1 f := by
  refine ⟨(s.sameFiles_handlerStep g pc).device, fun j => ?_⟩
  rcases s.owner_handlerStep_cases g pc with ⟨i, rfl, howner⟩ | ⟨i, hpc, howner⟩ | howner
  · rw [howner]
    exact sameFor_update hne hfind (.inr rfl) j
  · rw [howner]
    rcases hpc with rfl | rfl
    · exact sameFor_update hne hfind (.inl rfl) j
    · exact sameFor_update hne hfind (.inl rfl) j
  · rw [howner]

/-- **What a handler finds**: the tests it has passed let it do what it does next. -/
theorem findingHolds_handlerStep_self (s : ClaimState F) (f : F) {pc pc' : ClaimPc}
    (h : (s.handlerStep f pc).2 = some pc') : FindingHolds (s.handlerStep f pc).1 f pc' := by
  cases pc with
  | claimTestSelf i =>
    simp only [handlerStep] at h ⊢
    split_ifs at h ⊢ with hmine
    · cases h
      exact hmine
    · cases h
      trivial
  | claimTestFree i =>
    simp only [handlerStep] at h ⊢
    split_ifs at h ⊢ with htaken
    · cases h
      trivial
    · cases h
      exact .inl (not_not.mp htaken)
  | claimAssign i =>
    cases h
    exact Function.update_self ..
  | releaseTestFree i =>
    simp only [handlerStep] at h ⊢
    split_ifs at h ⊢ <;> cases h <;> trivial
  | releaseTestOwner i =>
    simp only [handlerStep] at h ⊢
    split_ifs at h ⊢ with hother
    · cases h
      trivial
    · cases h
      exact .inr (not_not.mp hother)
  | releaseAssign i =>
    cases h
    trivial
  | releaseAll pc =>
    rw [handlerStep_releaseAll] at h ⊢
    cases h
    cases pc with
    | assign i => trivial
    | test i =>
      simp only [releaseAllStep]
      split_ifs with hlt hmine
      · exact .inr hmine
      · trivial
      · trivial
  | complete claimed status => cases claimed <;> cases h

omit [DecidableEq F] in
/-- What a handler has found after the field of an interface is assigned. -/
theorem findingHolds_update {t : ClaimState F} {owner : Option F} {pc : ClaimPc}
    (ht : t.owner = Function.update s.owner i owner) (h : FindingHolds s f pc)
    (hacts : pc.acting = some i → owner = none ∨ owner = some f)
    (hreports : pc.reporting = some i → owner = some f) : FindingHolds t f pc := by
  rw [findingHolds_iff] at h ⊢
  rw [ht]
  refine ⟨fun j hj => ?_, fun j hj => ?_⟩
  · by_cases hji : j = i
    · rw [hji, Function.update_self]
      exact hacts (hji ▸ hj)
    · rw [Function.update_of_ne hji]
      exact h.1 j hj
  · by_cases hji : j = i
    · rw [hji, Function.update_self]
      exact hreports (hji ▸ hj)
    · rw [Function.update_of_ne hji]
      exact h.2 j hj

/-- **What another handler has found outlasts a step that stays out of it.** -/
theorem findingHolds_handlerStep_of_staysOut {pc : ClaimPc} {h : ClaimHandler F}
    (hfind : FindingHolds s f pc) (hout : pc.StaysOut f h) (hother : FindingHolds s h.file h.pc) :
    FindingHolds (s.handlerStep f pc).1 h.file h.pc := by
  have hreports := (findingHolds_iff.mp hother).2
  -- an interface that the other handler reports, and this one found free or its file's own
  have hmine {i : ℕ} (hfree : s.owner i = none ∨ s.owner i = some f)
      (hi : h.pc.reporting = some i) : h.file = f := by
    rw [hreports i hi] at hfree
    rcases hfree with hfree | hfree
    · cases hfree
    · exact Option.some.inj hfree
  rcases s.owner_handlerStep_cases f pc with ⟨i, rfl, howner⟩ | ⟨i, hpc, howner⟩ | howner
  · refine findingHolds_update howner hother (fun hi => ?_) fun hi => ?_
    · exact .inr (congrArg some (hout hi).symm)
    · exact congrArg some (hmine hfind hi).symm
  · refine findingHolds_update howner hother (fun _ => .inl rfl) fun hi => ?_
    rcases hpc with rfl | rfl
    · exact absurd (hmine hfind hi) (hout hi)
    · exact absurd (hmine hfind hi) (hout hi)
  · rw [findingHolds_iff, howner]
    exact findingHolds_iff.mp hother

end ClaimState

omit [DecidableEq F] in
/-- A handler has found nothing before its first step. -/
theorem findingHolds_claimDispatch {s : ClaimState F} {f : F} {device : DeviceState}
    {ioControlCode : UInt32} {intf : InterfaceRequest} {outputBuffer : NTSTATUS} {pc : ClaimPc}
    (h : claimDispatch device ioControlCode intf outputBuffer = some pc) :
    FindingHolds s f pc := by
  apply claimDispatch_start h
  · trivial
  · intro status
    trivial
  · intro intf i _
    trivial
  · intro i
    trivial

/-! ### The invariant -/

/-- The field and what clients were told agree. -/
structure ClaimState.Sound (s : ClaimState F) : Prop where
  told : ∀ i f, s.told i f = true → s.owner i = some f
  kept : s.stolen = false
  inRange : ∀ i f, s.owner i = some f → i < s.device.interfaceCount

namespace ClaimState.Sound

variable {s : ClaimState F} {f : F} {i : ℕ}

omit [DecidableEq F] in
theorem assign (hs : s.Sound) (hi : i < s.device.interfaceCount)
    (hfree : s.owner i = none ∨ s.owner i = some f) : (s.assign i f).Sound := by
  have howner : ∀ j, (s.assign i f).owner j = if j = i then some f else s.owner j :=
    fun j => Function.update_apply ..
  refine ⟨fun j g hg => ?_, hs.kept, fun j g hg => ?_⟩
  · have hold := hs.told j g hg
    rw [howner]
    split
    · next heq =>
      -- whoever was told so before is the owner, that is `f`
      rw [heq] at hold
      rcases hfree with hfree | hfree <;> rw [hfree] at hold
      · cases hold
      · exact hold
    · exact hold
  · rw [howner] at hg
    split at hg
    · next heq => exact heq ▸ hi
    · exact hs.inRange j g hg

theorem release (hs : s.Sound) (hown : s.owner i = none ∨ s.owner i = some f) :
    (s.release i f).Sound := by
  have howner : ∀ j, (s.release i f).owner j = if j = i then none else s.owner j :=
    fun j => Function.update_apply ..
  refine ⟨fun j g hg => ?_, ?_, fun j g hg => ?_⟩
  · simp only [ClaimState.release] at hg
    split at hg
    · cases hg
    · next hne =>
      have hold := hs.told j g hg
      rw [howner, if_neg]
      · exact hold
      · intro heq
        -- another file object would have been told that it owns the interface
        rw [heq] at hold
        rcases hown with hown | hown <;> rw [hown] at hold
        · cases hold
        · exact hne ⟨heq, (Option.some.inj hold).symm⟩
  · simp only [ClaimState.release, hs.kept, Bool.false_or, ClaimState.ownedByOther]
    rcases hown with hown | hown <;> rw [hown]
    simp
  · rw [howner] at hg
    split at hg
    · cases hg
    · exact hs.inRange j g hg

theorem tell (hs : s.Sound) (hown : s.owner i = some f) : (s.tell i f).Sound := by
  refine ⟨fun j g hg => ?_, hs.kept, hs.inRange⟩
  simp only [ClaimState.tell] at hg
  split at hg
  · next heq => rw [heq.1, heq.2]; exact hown
  · exact hs.told j g hg

theorem releaseAllStep (hs : s.Sound) {pc : ReleaseAllPc}
    (hfind : FindingHolds s f (.releaseAll pc)) : (s.releaseAllStep f pc).1.Sound := by
  cases pc with
  | test i =>
    simp only [ClaimState.releaseAllStep]
    split_ifs <;> exact hs
  | assign i => exact hs.release hfind

/-- A handler that acts on what it found keeps the field and what was told in agreement. -/
theorem handlerStep (hs : s.Sound) {pc : ClaimPc} (hrange : pc.InRange s.device.interfaceCount)
    (hfind : FindingHolds s f pc) : (s.handlerStep f pc).1.Sound := by
  cases pc with
  | claimAssign i => exact hs.assign hrange hfind
  | releaseAssign i => exact hs.release hfind
  | releaseAll pc =>
    rw [ClaimState.handlerStep_releaseAll]
    exact hs.releaseAllStep hfind
  | complete claimed status =>
    cases claimed with
    | none => exact hs
    | some i => exact hs.tell hfind
  | _ =>
    simp only [ClaimState.handlerStep]
    split_ifs <;> exact hs

end ClaimState.Sound

/-- Where the close of `f` is: the interface it is about to clear is the file's, and those it
has passed are not. -/
structure ClaimState.Closing (s : ClaimState F) (f : F) (pc : ReleaseAllPc) : Prop where
  mine : ∀ i, pc = .assign i → s.owner i = some f
  passed : ∀ i < pc.pos, s.owner i ≠ some f

omit [DecidableEq F] in
theorem ClaimState.Closing.congr {s t : ClaimState F} {f : F} {pc : ReleaseAllPc}
    (howner : ∀ i, t.owner i = some f ↔ s.owner i = some f) (h : s.Closing f pc) :
    t.Closing f pc where
  mine i hpc := (howner i).mpr (h.mine i hpc)
  passed i hi := mt (howner i).mp (h.passed i hi)

omit [DecidableEq F] in
/-- The close of a file object acts on what it found as a handler does. -/
theorem ClaimState.Closing.findingHolds {s : ClaimState F} {f : F} {pc : ReleaseAllPc}
    (h : s.Closing f pc) : FindingHolds s f (.releaseAll pc) := by
  cases pc with
  | test i => trivial
  | assign i => exact .inr (h.mine i rfl)

/-- A step of the loop moves on past an interface that is not the file's, and ends past
all of them. -/
theorem ClaimState.Closing.step {s : ClaimState F} {f : F} {pc : ReleaseAllPc}
    (h : s.Closing f pc) :
    match (s.releaseAllStep f pc).2 with
    | some pc' => (s.releaseAllStep f pc).1.Closing f pc'
    | none => ∀ i < s.device.interfaceCount, (s.releaseAllStep f pc).1.owner i ≠ some f := by
  cases pc with
  | test i =>
    simp only [ClaimState.releaseAllStep]
    split_ifs with hlt hmine
    · refine ⟨fun j hj => ?_, h.passed⟩
      cases hj
      exact hmine
    · refine ⟨fun j hj => ?_, fun j hj => ?_⟩
      · cases hj
      · rcases Nat.lt_succ_iff_lt_or_eq.mp hj with hj | rfl
        · exact h.passed j hj
        · exact hmine
    · exact fun j hj => h.passed j (Nat.lt_of_lt_of_le hj (Nat.not_lt.mp hlt))
  | assign i =>
    refine ⟨fun j hj => ?_, fun j hj => ?_⟩
    · cases hj
    · have howner : (s.release i f).owner j = if j = i then none else s.owner j :=
        Function.update_apply ..
      change (s.release i f).owner j ≠ some f
      rw [howner]
      split
      · rintro ⟨⟩
      · next hne => exact h.passed j (Nat.lt_of_le_of_ne (Nat.lt_succ_iff.mp hj) hne)

/-- A handler at work: its file object is open, and it can act on what it has found. -/
structure ClaimState.AtWork (s : ClaimState F) (h : ClaimHandler F) : Prop where
  isOpen : s.files h.file = .isOpen
  inRange : h.pc.InRange s.device.interfaceCount
  finding : FindingHolds s h.file h.pc

/-- A file object that is closed, or is being closed, owns nothing it should not. -/
def ClaimState.Disowned (s : ClaimState F) (f : F) : Prop :=
  match s.files f with
  | .isOpen => True
  | .closing pc => s.Closing f pc
  | .closed => ∀ i, s.owner i ≠ some f

omit [DecidableEq F] in
theorem ClaimState.Disowned.congr {s t : ClaimState F} {f : F} (hfiles : t.files f = s.files f)
    (howner : ∀ i, t.owner i = some f ↔ s.owner i = some f) (h : s.Disowned f) :
    t.Disowned f := by
  unfold ClaimState.Disowned at h ⊢
  rw [hfiles]
  split at h
  · trivial
  · exact h.congr howner
  · exact fun i => mt (howner i).mp (h i)

omit [DecidableEq F] in
theorem ClaimState.disowned_of_isOpen {s : ClaimState F} {f : F} (h : s.files f = .isOpen) :
    s.Disowned f := by
  unfold ClaimState.Disowned
  rw [h]
  trivial

omit [DecidableEq F] in
theorem ClaimState.disowned_of_closing {s : ClaimState F} {f : F} {pc : ReleaseAllPc}
    (h : s.files f = .closing pc) : s.Disowned f ↔ s.Closing f pc := by
  unfold ClaimState.Disowned
  rw [h]

omit [DecidableEq F] in
theorem ClaimState.disowned_of_closed {s : ClaimState F} {f : F} (h : s.files f = .closed) :
    s.Disowned f ↔ ∀ i, s.owner i ≠ some f := by
  unfold ClaimState.Disowned
  rw [h]

/-- The invariant of the handlers and the file objects. -/
structure ClaimState.Consistent (s : ClaimState F) : Prop where
  sound : s.Sound
  handler : ∀ h ∈ s.handlers, s.AtWork h
  file : ∀ f, s.Disowned f

namespace ClaimState.Consistent

variable {s t : ClaimState F} {f : F}

omit [DecidableEq F] in
theorem exclusive (hs : s.Consistent) : ClaimsExclusive s where
  exclusive i f g hf hg :=
    Option.some.inj ((hs.sound.told i f hf).symm.trans (hs.sound.told i g hg))
  kept := hs.sound.kept
  closed f hf := (ClaimState.disowned_of_closed hf).mp (hs.file f)

omit [DecidableEq F] in
/-- No request of a file object that is not open is at work. -/
theorem ne_of_not_isOpen (hs : s.Consistent) (hf : s.files f ≠ .isOpen) {h : ClaimHandler F}
    (hmem : h ∈ s.handlers) : h.file ≠ f := by
  rintro rfl
  exact hf (hs.handler h hmem).isOpen

/-- Another handler, after a step that stays out of what it has begun. -/
theorem atWork_handlerStep (hs : s.Consistent) {pc : ClaimPc} {h : ClaimHandler F}
    (hmem : h ∈ s.handlers) (hfind : FindingHolds s f pc) (hout : pc.StaysOut f h) :
    (s.handlerStep f pc).1.AtWork h where
  isOpen := by
    rw [(s.sameFiles_handlerStep f pc).files]
    exact (hs.handler h hmem).isOpen
  inRange := by
    rw [(s.sameFiles_handlerStep f pc).device]
    exact (hs.handler h hmem).inRange
  finding := findingHolds_handlerStep_of_staysOut hfind hout (hs.handler h hmem).finding

/-- A file object, after a step for another one. -/
theorem disowned_handlerStep (hs : s.Consistent) {pc : ClaimPc} {g : F} (hne : f ≠ g)
    (hfind : FindingHolds s f pc) : (s.handlerStep f pc).1.Disowned g :=
  (hs.file g).congr (congrFun (s.sameFiles_handlerStep f pc).files g)
    (sameFor_handlerStep hne hfind).2

omit [DecidableEq F] in
/-- Which requests are at work says nothing about the interfaces and the files. -/
theorem of_withHandlers {handlers : List (ClaimHandler F)} (hsound : s.Sound)
    (hhandler : ∀ h ∈ handlers, s.AtWork h) (hfile : ∀ g, s.Disowned g) :
    ClaimState.Consistent { s with handlers := handlers } where
  sound := ⟨hsound.told, hsound.kept, hsound.inRange⟩
  handler h hmem := ⟨(hhandler h hmem).isOpen, (hhandler h hmem).inRange, (hhandler h hmem).finding⟩
  file g := ClaimState.Disowned.congr (s := s) rfl (fun _ => Iff.rfl) (hfile g)

omit [DecidableEq F] in
/-- The handlers once the one at `k` has moved on. -/
theorem of_withHandler {k : ℕ} {next : Option ClaimPc} (hsound : s.Sound)
    (hothers : ∀ h ∈ s.handlers.eraseIdx k, s.AtWork h)
    (hself : ∀ pc, next = some pc → s.AtWork ⟨f, pc⟩) (hfile : ∀ g, s.Disowned g) :
    (s.withHandler k f next).Consistent := by
  cases next with
  | none => exact of_withHandlers hsound hothers hfile
  | some pc =>
    refine of_withHandlers hsound (fun h hmem => ?_) hfile
    obtain ⟨j, hj⟩ := List.getElem?_of_mem hmem
    rw [List.getElem?_set] at hj
    split at hj
    · split at hj
      · cases hj
        exact hself pc rfl
      · cases hj
    · next hne => exact hothers h (List.mem_eraseIdx_iff_getElem?.mpr ⟨j, Ne.symm hne, hj⟩)

/-- A handler takes a step that stays out of what the others have begun. -/
theorem run (hs : s.Consistent) {k : ℕ} {handler : ClaimHandler F}
    (hk : s.handlers[k]? = some handler)
    (hout : ∀ h ∈ s.handlers.eraseIdx k, handler.pc.StaysOut handler.file h) :
    ((s.handlerStep handler.file handler.pc).1.withHandler k handler.file
      (s.handlerStep handler.file handler.pc).2).Consistent := by
  obtain ⟨hopen, hrange, hfind⟩ := hs.handler handler (List.mem_of_getElem? hk)
  have hsame := s.sameFiles_handlerStep handler.file handler.pc
  rw [← hsame.files] at hopen
  refine of_withHandler (hs.sound.handlerStep hrange hfind) (fun h hmem => ?_)
    (fun pc' hpc' => ⟨hopen, ?_, findingHolds_handlerStep_self s handler.file hpc'⟩) fun g => ?_
  · rw [hsame.handlers] at hmem
    exact hs.atWork_handlerStep (List.mem_of_mem_eraseIdx hmem) hfind (hout h hmem)
  · rw [hsame.device]
    exact inRange_handlerStep s handler.file hrange hpc'
  · by_cases hg : handler.file = g
    · exact ClaimState.disowned_of_isOpen (hg ▸ hopen)
    · exact hs.disowned_handlerStep hg hfind

/-- A file object that no handler is at work for is about to be closed, or is closed. -/
theorem of_withFile {x : FileState} (hsound : s.Sound)
    (hhandler : ∀ h ∈ s.handlers, s.AtWork h) (hidle : ∀ h ∈ s.handlers, h.file ≠ f)
    (hothers : ∀ g, f ≠ g → s.Disowned g)
    (hfile : ClaimState.Disowned { s with files := Function.update s.files f x } f) :
    ClaimState.Consistent { s with files := Function.update s.files f x } where
  sound := ⟨hsound.told, hsound.kept, hsound.inRange⟩
  handler h hmem :=
    ⟨(Function.update_of_ne (hidle h hmem) ..).trans (hhandler h hmem).isOpen,
      (hhandler h hmem).inRange, (hhandler h hmem).finding⟩
  file g := by
    by_cases hg : f = g
    · rw [← hg]
      exact hfile
    · exact (hothers g hg).congr (Function.update_of_ne (Ne.symm hg) ..) fun _ => Iff.rfl

/-- `Device_OnFileClose` takes a step. -/
theorem runClose (hs : s.Consistent) {pc : ReleaseAllPc} (hpc : s.files f = .closing pc) :
    ((s.releaseAllStep f pc).1.withClose f (s.releaseAllStep f pc).2).Consistent := by
  have hclosing := (ClaimState.disowned_of_closing hpc).mp (hs.file f)
  have hidle : ∀ h ∈ s.handlers, h.file ≠ f := by
    intro h hmem
    apply hs.ne_of_not_isOpen ?_ hmem
    rw [hpc]
    rintro ⟨⟩
  have hfind := hclosing.findingHolds
  have hsame := s.sameFiles_releaseAllStep f pc
  have hsound := hs.sound.releaseAllStep hfind
  have hhandler : ∀ h ∈ s.handlers, (s.releaseAllStep f pc).1.AtWork h := by
    intro h hmem
    have hat := hs.atWork_handlerStep hmem hfind ?_
    · rwa [ClaimState.handlerStep_releaseAll] at hat
    · cases pc with
      | test i => trivial
      | assign i => exact fun _ => hidle h hmem
  have hothers : ∀ g, f ≠ g → (s.releaseAllStep f pc).1.Disowned g := by
    intro g hg
    have hfile := hs.disowned_handlerStep hg hfind
    rwa [ClaimState.handlerStep_releaseAll] at hfile
  rw [← hsame.handlers] at hhandler hidle
  have hnext := hclosing.step
  rw [← hsame.device] at hnext
  unfold ClaimState.withClose
  split at hnext
  · next pc' _ =>
    refine of_withFile hsound hhandler hidle hothers ?_
    rw [ClaimState.disowned_of_closing (Function.update_self ..)]
    exact ⟨hnext.mine, hnext.passed⟩
  · refine of_withFile hsound hhandler hidle hothers ?_
    rw [ClaimState.disowned_of_closed (Function.update_self ..)]
    exact fun i hi => hnext i (hsound.inRange i f hi) hi

/-- **A step that stays out of what the other handlers have begun keeps the state
consistent.** -/
theorem step (hs : s.Consistent) {e : ClaimEvent F} (hok : StepsOutside s e)
    (h : (interfaceClaims F).step s e = some t) : t.Consistent := by
  cases e with
  | request f ioControlCode intf outputBuffer =>
    simp only [interfaceClaims] at h
    split at h
    · next hopen =>
      obtain ⟨pc, hpc, rfl⟩ := Option.map_eq_some_iff.mp h
      refine of_withHandlers hs.sound (fun handler hmem => ?_) hs.file
      rcases List.mem_append.mp hmem with hmem | hmem
      · exact hs.handler handler hmem
      · cases List.mem_singleton.mp hmem
        exact ⟨hopen, inRange_claimDispatch hpc, findingHolds_claimDispatch hpc⟩
    · cases h
  | run k =>
    simp only [interfaceClaims] at h
    obtain ⟨handler, hk, rfl⟩ := Option.map_eq_some_iff.mp h
    exact hs.run hk (hok handler hk)
  | close f =>
    simp only [interfaceClaims] at h
    split at h
    · next hclose =>
      cases h
      refine of_withFile hs.sound hs.handler ?_ (fun g _ => hs.file g) ?_
      · intro handler hmem
        exact of_decide_eq_true (List.all_eq_true.mp hclose.2 handler hmem)
      · rw [ClaimState.disowned_of_closing (Function.update_self ..)]
        refine ⟨fun i hi => ?_, fun i hi => absurd hi (Nat.not_lt_zero i)⟩
        cases hi
    · cases h
  | runClose f =>
    simp only [interfaceClaims] at h
    split at h
    · next pc hpc =>
      cases h
      exact hs.runClose hpc
    · cases h
    · cases h
  | setInterfaces interfaces =>
    cases h
    refine ⟨⟨hs.sound.told, hs.sound.kept, hs.sound.inRange⟩, fun handler hmem => ?_,
      fun g => ClaimState.Disowned.congr (s := s) rfl (fun _ => Iff.rfl) (hs.file g)⟩
    obtain ⟨hopen, hrange, hfind⟩ := hs.handler handler hmem
    exact ⟨hopen, hrange, findingHolds_iff.mpr (findingHolds_iff.mp hfind)⟩

omit [DecidableEq F] in
theorem start (device : DeviceState) : (ClaimState.start device : ClaimState F).Consistent where
  sound := by
    refine ⟨?_, rfl, ?_⟩
    · rintro _ _ ⟨⟩
    · rintro _ _ ⟨⟩
  handler := List.forall_mem_nil _
  file _ := trivial

end ClaimState.Consistent

/-- **Claims are exclusive**, in every run in which no handler assigns an interface to its
file object between the test and the assignment of a handler of another, or clears it between
a claim of its own file object and the report of that claim. -/
theorem claimsExclusive_of_throughout {device : DeviceState} {es : List (ClaimEvent F)}
    (h : (interfaceClaims F).Throughout StepsOutside (ClaimState.start device) es) :
    (interfaceClaims F).Always ClaimsExclusive (ClaimState.start device) es :=
  Machine.Throughout.always (I := ClaimState.Consistent) (fun _ hs => hs.exclusive)
    (fun _ _ _ hs hok hstep => hs.step hok hstep) (ClaimState.Consistent.start device) h

/-- A configured device with one interface. -/
def claimedDevice : DeviceState where
  device := { usbConfigurationDescriptor := [9, 2] }
  interfaceCount := 1

/-- Two files claim the interface, and their handlers take turns.  The one that comes second
is refused; it gets the interface when the first has released it, and gives it back when it
is closed. -/
theorem claimsExclusive_of_throughout_claim :
    (interfaceClaims Bool).Always ClaimsExclusive (ClaimState.start claimedDevice)
      [.request true LIBUSB_IOCTL_CLAIM_INTERFACE {} STATUS_SUCCESS,
        .request false LIBUSB_IOCTL_CLAIM_INTERFACE {} STATUS_SUCCESS,
        .run 0, .run 1, .run 0, .run 0, .run 1, .run 0, .run 0,
        .request true LIBUSB_IOCTL_RELEASE_INTERFACE {} STATUS_SUCCESS,
        .run 0, .run 0, .run 0, .run 0,
        .request false LIBUSB_IOCTL_CLAIM_INTERFACE {} STATUS_SUCCESS,
        .run 0, .run 0, .run 0, .run 0, .close false, .runClose false, .runClose false,
        .runClose false] :=
  claimsExclusive_of_throughout (by decide +kernel)

/-- Two files find the interface free, both assign it, and both are told it is theirs. -/
theorem not_claimsExclusive_twoClaims :
    ¬(interfaceClaims Bool).Always ClaimsExclusive (ClaimState.start claimedDevice)
      [.request true LIBUSB_IOCTL_CLAIM_INTERFACE {} STATUS_SUCCESS,
        .request false LIBUSB_IOCTL_CLAIM_INTERFACE {} STATUS_SUCCESS,
        .run 0, .run 0, .run 1, .run 1, .run 0, .run 1, .run 0, .run 0] := by
  intro h
  have hlast := ((((((((((h.2 _ rfl).2 _ rfl).2 _ rfl).2 _ rfl).2 _ rfl).2 _ rfl).2 _ rfl).2 _
    rfl).2 _ rfl).2 _ rfl).start
  have heq := hlast.exclusive 0 true false rfl rfl
  cases heq

end

end LibusbK
