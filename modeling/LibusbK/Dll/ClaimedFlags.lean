import LibusbK.Dll.SettingMirror
import LibusbK.Driver.InterfaceClaim
import LibusbK.Driver.SettingRequests
import LibusbK.Lib.Machine
import Mathlib.Data.List.Nodup

/-!
# The `Claimed` flags

`k_ClaimOrReleaseInterface` sends one request to the driver, and keeps in the
`SharedInterface` of the interface whether it is claimed.  The calls on a device handle
come one after another.  Between them other file objects claim and release interfaces, each
request of theirs running to its end.

## Main definitions

* `ClaimState.serve`, `ClaimState.submit` — a handler of the driver from its start to its
  end, and the request of a call.
* `claimRuns` — the machine of all calls on a device handle.
* `FlagsTrack` — a flag is set where the file object holds the claim, and nowhere else.

## Main results

* `submit_cases` — what a request does.
* `always_flagsTrack_iff` — the flags track the claims exactly in the runs in which no
  request is lost that is for an interface held already, and none claims an interface that
  shares its slot.
-/

namespace LibusbK

variable {F : Type*} [DecidableEq F]

/-! ### The request of a call -/

/-- The status a handler that is about to end completes its request with. -/
def ClaimPc.status : ClaimPc → Option NTSTATUS
  | complete _ status => some status
  | _ => none

/-- What becomes of the request of a call on its way to the driver. -/
structure SimpleRequest where
  /-- It is presented to a handler. -/
  presented : Bool := true
  /-- `WdfRequestRetrieveOutputBuffer`. -/
  outputBuffer : NTSTATUS := STATUS_SUCCESS
  deriving DecidableEq, Repr

/-- The request gets as far as `Interface_Claim` or `Interface_Release`. -/
def SimpleRequest.delivered (request : SimpleRequest) : Bool :=
  request.presented && ntSuccess request.outputBuffer

namespace ClaimState

/-- The handler of a request of `f`, from `pc` to its end, with no other at work.  It takes
at most `n` steps. -/
def serve (f : F) : ℕ → ClaimPc → ClaimState F → ClaimState F × Option NTSTATUS
  | 0, _, s => (s, none)
  | n + 1, pc, s =>
    match s.handlerStep f pc with
    | (t, some pc') => serve f n pc' t
    | (t, none) => (t, pc.status)

/-- The steps a handler may take: `Interface_ReleaseAll` takes two for an interface. -/
def fuel (s : ClaimState F) : ℕ := 2 * s.device.interfaceCount + 4

/-- `SubmitSimpleSyncRequest`, with `request.intf.interface_number` all that is set, and
whether it succeeds. -/
def submit (s : ClaimState F) (f : F) (ioControlCode : UInt32) (interfaceNumber : UInt8)
    (request : SimpleRequest) : ClaimState F × Bool :=
  if request.presented then
    match claimDispatch s.device ioControlCode (requestByNumber interfaceNumber 0)
        request.outputBuffer with
    | none => (s, false)
    | some pc =>
      let r := serve f s.fuel pc s
      (r.1, r.2.elim false ntSuccess)
  else (s, false)

/-- A request of another file object. -/
def serveOther (s : ClaimState F) (g : F) (ioControlCode : UInt32) (intf : InterfaceRequest)
    (outputBuffer : NTSTATUS) : ClaimState F :=
  (claimDispatch s.device ioControlCode intf outputBuffer).elim s fun pc => (serve g s.fuel pc s).1

/-- The interface context of a number. -/
def contextOf (s : ClaimState F) (interfaceNumber : UInt8) : Except NTSTATUS ℕ :=
  getInterfaceContextFromRequest s.device (requestByNumber interfaceNumber 0)

/-- **The driver holds the claim** on the interface of a number for the file object. -/
def Holds (s : ClaimState F) (f : F) (interfaceNumber : UInt8) : Prop :=
  ∃ i, s.contextOf interfaceNumber = .ok i ∧ s.owner i = some f

/-- The interface of a number is claimed by no other file object. -/
def Available (s : ClaimState F) (f : F) (interfaceNumber : UInt8) : Prop :=
  ∃ i, s.contextOf interfaceNumber = .ok i ∧ (s.owner i = none ∨ s.owner i = some f)

end ClaimState

/-- The code of the request. -/
def claimOrReleaseCode (isClaim : Bool) : UInt32 :=
  if isClaim then LIBUSBK_IOCTL_CLAIM_INTERFACE else LIBUSBK_IOCTL_RELEASE_INTERFACE

/-! ### Runs -/

/-- The handles of a device handle, and the driver below it. -/
structure ClaimRun (F : Type*) where
  handles : UsbHandles
  driver : ClaimState F

/-- The interface element that a call with a valid handle finds. -/
def ClaimRun.findInterface (s : ClaimRun F) (stack : UsbStack) (handle : ℕ)
    (numberOrIndex : UInt8) (isIndex : Bool) : Option InterfaceEL :=
  (s.handles.selected[handle]?).bind fun _ => stack.findInterfaceEL isIndex numberOrIndex

/-- `k_ClaimOrReleaseInterface` on a handle of the file object `f`. -/
def ClaimRun.claimOrRelease (s : ClaimRun F) (stack : UsbStack) (f : F) (handle : ℕ)
    (numberOrIndex : UInt8) (isClaim isIndex : Bool) (request : SimpleRequest) : ClaimRun F :=
  match s.findInterface stack handle numberOrIndex isIndex with
  | none => s
  | some intfEL =>
    let sent := s.driver.submit f (claimOrReleaseCode isClaim) intfEL.id request
    { handles :=
        (s.handles.claimOrReleaseInterface stack handle numberOrIndex isClaim isIndex
          sent.2).handles
      driver := sent.1 }

/-- What happens to a device. -/
inductive ClaimRunEvent (F : Type*)
  /-- `UsbK_ClaimInterface` or `UsbK_ReleaseInterface`. -/
  | call (handle : ℕ) (numberOrIndex : UInt8) (isClaim isIndex : Bool) (request : SimpleRequest)
  /-- Another file object sends a request. -/
  | other (g : F) (ioControlCode : UInt32) (intf : InterfaceRequest) (outputBuffer : NTSTATUS)

/-- The calls on the handles of a device, whose file object is `f`. -/
def claimRuns (stack : UsbStack) (f : F) : Machine (ClaimRun F) (ClaimRunEvent F) where
  step s
    | .call handle numberOrIndex isClaim isIndex request =>
      some (s.claimOrRelease stack f handle numberOrIndex isClaim isIndex request)
    | .other g ioControlCode intf outputBuffer =>
      if g = f then none
      else some { s with driver := s.driver.serveOther g ioControlCode intf outputBuffer }

/-- `Get_SharedInterface(handle, intfIndex).Claimed`. -/
def UsbHandles.claimed (s : UsbHandles) (intfIndex : UInt8) : Bool :=
  (getSharedInterface s.sharedInterfaces intfIndex).claimed

/-- **The flags track the claims.** -/
def FlagsTrack (stack : UsbStack) (f : F) (s : ClaimRun F) : Prop :=
  ∀ el ∈ stack.interfaceList,
    s.handles.claimed el.index = true ↔ s.driver.Holds f el.id

/-- The slot of an interface is that of another one too. -/
def UsbStack.SharesSlot (stack : UsbStack) (el : InterfaceEL) : Prop :=
  ∃ other ∈ stack.interfaceList, other ≠ el ∧ sharedSlot other.index = sharedSlot el.index

/-- The call is for an interface that the file object holds, and its request is lost on the
way; or it claims an interface that shares its slot with another one. -/
def Mistracks (stack : UsbStack) (f : F) (s : ClaimRun F) : ClaimRunEvent F → Prop
  | .call handle numberOrIndex isClaim isIndex request =>
    ∃ el, s.findInterface stack handle numberOrIndex isIndex = some el ∧
      (request.delivered = false ∧ s.driver.Holds f el.id ∨
        isClaim = true ∧ request.delivered = true ∧ s.driver.Available f el.id ∧
          stack.SharesSlot el)
  | .other _ _ _ _ => False

/-! ### What a request does -/

section
variable {s : ClaimState F} {f g : F} {i n : ℕ} {interfaceNumber : UInt8}

namespace ClaimState

/-- What a handler leaves behind that has ended with a status. -/
structure Served (s : ClaimState F) (owner : ℕ → Option F) (success : Bool)
    (r : ClaimState F × Option NTSTATUS) : Prop where
  device : r.1.device = s.device
  owner : r.1.owner = owner
  status : r.2.elim false ntSuccess = success

theorem serve_complete (s : ClaimState F) (f : F) (n : ℕ) (claimed : Option ℕ) {status : NTSTATUS}
    {success : Bool} (h : ntSuccess status = success) :
    s.Served s.owner success (serve f (n + 1) (.complete claimed status) s) := by
  cases claimed <;> exact ⟨rfl, rfl, h⟩

/-- A handler takes a step. -/
theorem serve_succ {pc pc' : ClaimPc} {t : ClaimState F}
    (h : s.handlerStep f pc = (t, some pc')) : serve f (n + 1) pc s = serve f n pc' t := by
  rw [serve, h]

/-- `Interface_Claim`. -/
theorem serve_claim (hfree : s.owner i = none ∨ s.owner i = some f) :
    s.Served (Function.update s.owner i (some f)) true (serve f (n + 4) (.claimTestSelf i) s) := by
  rcases hfree with hnone | hmine
  · have hself : s.handlerStep f (.claimTestSelf i) = (s, some (.claimTestFree i)) := by
      simp [handlerStep, hnone]
    have hfree : s.handlerStep f (.claimTestFree i) = (s, some (.claimAssign i)) := by
      simp [handlerStep, hnone]
    have hassign : s.handlerStep f (.claimAssign i) =
      (s.assign i f, some (.complete (some i) STATUS_SUCCESS)) := rfl
    rw [serve_succ hself, serve_succ hfree, serve_succ hassign]
    have hsuccess : ntSuccess STATUS_SUCCESS = true := rfl
    have hserved := serve_complete (s.assign i f) f n (some i) hsuccess
    exact ⟨hserved.device, hserved.owner, hserved.status⟩
  · have hself : s.handlerStep f (.claimTestSelf i) =
        (s, some (.complete (some i) STATUS_SUCCESS)) := by
      simp [handlerStep, hmine]
    have hsame : Function.update s.owner i (some f) = s.owner := by
      rw [← hmine, Function.update_eq_self]
    rw [serve_succ hself, hsame]
    exact serve_complete s f _ _ rfl

theorem serve_claim_of_other (hother : ¬(s.owner i = none ∨ s.owner i = some f)) :
    s.Served s.owner false (serve f (n + 4) (.claimTestSelf i) s) := by
  obtain ⟨hnone, hmine⟩ := not_or.mp hother
  have hself : s.handlerStep f (.claimTestSelf i) = (s, some (.claimTestFree i)) := by
    simp [handlerStep, hmine]
  have hfree : s.handlerStep f (.claimTestFree i) =
      (s, some (.complete none STATUS_OBJECT_NAME_COLLISION)) := by
    simp [handlerStep, hnone]
  rw [serve_succ hself, serve_succ hfree]
  exact serve_complete s f _ _ rfl

/-- `Interface_Release`. -/
theorem serve_release (hfree : s.owner i = none ∨ s.owner i = some f) :
    s.Served (Function.update s.owner i none) true (serve f (n + 4) (.releaseTestFree i) s) := by
  rcases hfree with hnone | hmine
  · have hfree : s.handlerStep f (.releaseTestFree i) =
        (s, some (.complete none STATUS_SUCCESS)) := by
      simp [handlerStep, hnone]
    have hsame : Function.update s.owner i none = s.owner := by
      rw [← hnone, Function.update_eq_self]
    rw [serve_succ hfree, hsame]
    exact serve_complete s f _ _ rfl
  · have hfree : s.handlerStep f (.releaseTestFree i) = (s, some (.releaseTestOwner i)) := by
      simp [handlerStep, hmine]
    have howner : s.handlerStep f (.releaseTestOwner i) = (s, some (.releaseAssign i)) := by
      simp [handlerStep, hmine]
    have hassign : s.handlerStep f (.releaseAssign i) =
      (s.release i f, some (.complete none STATUS_SUCCESS)) := rfl
    rw [serve_succ hfree, serve_succ howner, serve_succ hassign]
    have hsuccess : ntSuccess STATUS_SUCCESS = true := rfl
    have hserved := serve_complete (s.release i f) f n none hsuccess
    exact ⟨hserved.device, hserved.owner, hserved.status⟩

theorem serve_release_of_other (hother : ¬(s.owner i = none ∨ s.owner i = some f)) :
    s.Served s.owner false (serve f (n + 4) (.releaseTestFree i) s) := by
  obtain ⟨hnone, hmine⟩ := not_or.mp hother
  have hfree : s.handlerStep f (.releaseTestFree i) = (s, some (.releaseTestOwner i)) := by
    simp [handlerStep, hnone]
  have howner : s.handlerStep f (.releaseTestOwner i) =
      (s, some (.complete none STATUS_OBJECT_NAME_COLLISION)) := by
    simp [handlerStep, hmine]
  rw [serve_succ hfree, serve_succ howner]
  exact serve_complete s f _ _ rfl

theorem serve_of_refused (isClaim : Bool) (hother : ¬(s.owner i = none ∨ s.owner i = some f)) :
    s.Served s.owner false
      (serve f (n + 4) (if isClaim then .claimTestSelf i else .releaseTestFree i) s) := by
  cases isClaim with
  | true => exact serve_claim_of_other hother
  | false => exact serve_release_of_other hother

/-- The code that a call sends is one of its own. -/
theorem claimDispatch_claimOrReleaseCode (isClaim : Bool) (device : DeviceState)
    (intf : InterfaceRequest) (outputBuffer : NTSTATUS) :
    claimDispatch device (claimOrReleaseCode isClaim) intf outputBuffer =
      some (if !ntSuccess outputBuffer then .complete none outputBuffer
        else if isClaim then interfaceClaim device intf else interfaceRelease device intf) := by
  unfold claimDispatch claimOrReleaseCode
  cases isClaim <;> cases ntSuccess outputBuffer <;> rfl

/-- **What a request does**: the claim is made or given back, or nothing happens. -/
theorem submit_cases (s : ClaimState F) (f : F) (isClaim : Bool) (interfaceNumber : UInt8)
    (request : SimpleRequest) :
    let r := s.submit f (claimOrReleaseCode isClaim) interfaceNumber request
    r.1.device = s.device ∧
      ((request.delivered = true ∧ r.2 = true ∧
          ∃ i, s.contextOf interfaceNumber = .ok i ∧ (s.owner i = none ∨ s.owner i = some f) ∧
            r.1.owner = Function.update s.owner i (if isClaim then some f else none)) ∨
        (¬(request.delivered = true ∧ s.Available f interfaceNumber) ∧ r.2 = false ∧
          r.1.owner = s.owner)) := by
  intro r
  obtain ⟨presented, outputBuffer⟩ := request
  cases presented with
  | false => exact ⟨rfl, .inr ⟨fun hand => Bool.noConfusion hand.1, rfl, rfl⟩⟩
  | true =>
    -- the handler that the request is presented to
    have hserve {pc : ClaimPc} {owner : ℕ → Option F} {success : Bool}
        (hpc : claimDispatch s.device (claimOrReleaseCode isClaim)
          (requestByNumber interfaceNumber 0) outputBuffer = some pc)
        (hserved : s.Served owner success (serve f s.fuel pc s)) :
        r.1.device = s.device ∧ r.1.owner = owner ∧ r.2 = success := by
      have hr : r = ((serve f s.fuel pc s).1, (serve f s.fuel pc s).2.elim false ntSuccess) := by
        simp only [r, submit, if_true, hpc]
      rw [hr]
      exact ⟨hserved.device, hserved.owner, hserved.status⟩
    rw [claimDispatch_claimOrReleaseCode] at hserve
    cases hbuffer : ntSuccess outputBuffer with
    | false =>
      obtain ⟨hdevice, howner, hfailed⟩ :=
        hserve (by rw [hbuffer]; rfl) (serve_complete s f _ none rfl)
      refine ⟨hdevice, .inr ⟨fun hand => ?_, hfailed.trans hbuffer, howner⟩⟩
      have hdelivered : ntSuccess outputBuffer = true := hand.1
      rw [hbuffer] at hdelivered
      cases hdelivered
    | true =>
      have hdelivered : (SimpleRequest.mk true outputBuffer).delivered = true := hbuffer
      rw [hbuffer] at hserve
      simp only [Bool.not_true, Bool.false_eq_true, if_false] at hserve
      cases hcontext : s.contextOf interfaceNumber with
      | error status =>
        have hfail := not_ntSuccess_of_getInterfaceContextFromRequest hcontext
        have hpc : (if isClaim = true then
            interfaceClaim s.device (requestByNumber interfaceNumber 0)
          else interfaceRelease s.device (requestByNumber interfaceNumber 0)) =
            .complete none status := by
          rw [contextOf] at hcontext
          rw [interfaceClaim, interfaceRelease, hcontext, ite_self]
        obtain ⟨hdevice, howner, hfailed⟩ :=
          hserve (congrArg some hpc) (serve_complete s f _ none hfail)
        refine ⟨hdevice, .inr ⟨?_, hfailed, howner⟩⟩
        rintro ⟨-, i, hi, -⟩
        cases hcontext.symm.trans hi
      | ok i =>
        rw [contextOf] at hcontext
        rw [interfaceClaim, interfaceRelease, hcontext] at hserve
        by_cases hfree : s.owner i = none ∨ s.owner i = some f
        · cases isClaim with
          | true =>
            obtain ⟨hdevice, howner, hok⟩ := hserve rfl (serve_claim hfree)
            exact ⟨hdevice, .inl ⟨hdelivered, hok, i, rfl, hfree, howner⟩⟩
          | false =>
            obtain ⟨hdevice, howner, hok⟩ := hserve rfl (serve_release hfree)
            exact ⟨hdevice, .inl ⟨hdelivered, hok, i, rfl, hfree, howner⟩⟩
        · obtain ⟨hdevice, howner, hfailed⟩ := hserve rfl (serve_of_refused isClaim hfree)
          refine ⟨hdevice, .inr ⟨?_, hfailed, howner⟩⟩
          rintro ⟨-, j, hj, hfree'⟩
          rw [contextOf, hcontext] at hj
          cases hj
          exact hfree hfree'

/-! ### What other file objects do -/

omit [DecidableEq F] in
theorem SameFor.holds_iff {t : ClaimState F} (h : s.SameFor t f) :
    t.Holds f interfaceNumber ↔ s.Holds f interfaceNumber := by
  unfold Holds contextOf
  rw [h.1]
  exact exists_congr fun i => and_congr_right fun _ => h.2 i

theorem serve_sameFor (hne : g ≠ f) (n : ℕ) :
    ∀ {pc : ClaimPc} {s : ClaimState F}, FindingHolds s g pc → s.SameFor (serve g n pc s).1 f := by
  induction n with
  | zero => exact fun {_ s} _ => .refl s f
  | succ n ih =>
    intro pc s hfind
    have hsame := sameFor_handlerStep hne hfind
    have hnext : ∀ pc', (s.handlerStep g pc).2 = some pc' →
        FindingHolds (s.handlerStep g pc).1 g pc' :=
      fun _ => findingHolds_handlerStep_self s g
    rw [serve]
    generalize s.handlerStep g pc = r at hsame hnext
    obtain ⟨t, next⟩ := r
    cases next with
    | none => exact hsame
    | some pc' => exact hsame.trans (ih (hnext pc' rfl))

theorem serveOther_sameFor (hne : g ≠ f) (ioControlCode : UInt32) (intf : InterfaceRequest)
    (outputBuffer : NTSTATUS) :
    s.SameFor (s.serveOther g ioControlCode intf outputBuffer) f := by
  unfold serveOther
  cases hpc : claimDispatch s.device ioControlCode intf outputBuffer with
  | none => exact .refl s f
  | some pc => exact serve_sameFor hne _ (findingHolds_claimDispatch hpc)

omit [DecidableEq F] in
/-- Interface contexts of different numbers are different. -/
theorem eq_of_contextOf {n m : UInt8} (hn : s.contextOf n = .ok i) (hm : s.contextOf m = .ok i) :
    n = m := by
  have hnumber {k : UInt8} (hk : s.contextOf k = .ok i) :
      (s.device.interfaces i).interfaceDescriptor.bInterfaceNumber = k := by
    have hfind := getContextByNumber_of_requestByNumber hk
    simpa using List.find?_some hfind
  rw [← hnumber hn, hnumber hm]

omit [DecidableEq F] in
/-- What the file object holds once it has claimed an interface or given it back. -/
theorem holds_update {t : ClaimState F} {n m : UInt8} {isClaim : Bool}
    (hdevice : t.device = s.device) (hn : s.contextOf n = .ok i)
    (howner : t.owner = Function.update s.owner i (if isClaim then some f else none)) :
    t.Holds f m ↔ if m = n then isClaim = true else s.Holds f m := by
  have hcontext : t.contextOf m = s.contextOf m := by rw [contextOf, contextOf, hdevice]
  unfold Holds
  rw [hcontext, howner]
  by_cases hmn : m = n
  · subst hmn
    rw [if_pos rfl]
    constructor
    · rintro ⟨j, hj, hown⟩
      obtain rfl : i = j := Except.ok.inj (hn.symm.trans hj)
      rw [Function.update_self] at hown
      cases isClaim with
      | true => rfl
      | false => cases hown
    · rintro rfl
      exact ⟨i, hn, Function.update_self ..⟩
  · rw [if_neg hmn]
    refine exists_congr fun j => and_congr_right fun hj => ?_
    have hji : j ≠ i := by
      rintro rfl
      exact hmn (eq_of_contextOf hj hn)
    rw [Function.update_of_ne hji]

end ClaimState

end

/-! ### The flags in a run -/

section
variable {stack : UsbStack} {f : F} {s : ClaimRun F} {el : InterfaceEL}

/-- What a call leaves in the flags. -/
theorem claimed_claimOrReleaseInterface {s : UsbHandles} {handle : ℕ} {numberOrIndex : UInt8}
    {isClaim isIndex : Bool} (success : Bool) (index : UInt8)
    (h : ((s.selected[handle]?).bind fun _ => stack.findInterfaceEL isIndex numberOrIndex) =
      some el) :
    (s.claimOrReleaseInterface stack handle numberOrIndex isClaim isIndex
        success).handles.claimed index =
      if sharedSlot index = sharedSlot el.index then isClaim && success else s.claimed index := by
  obtain ⟨selected, hselected, hfound⟩ := Option.bind_eq_some_iff.mp h
  have hset (claimed : Bool) : (s.setClaimed el.index claimed).claimed index =
      if sharedSlot index = sharedSlot el.index then claimed else s.claimed index := by
    unfold UsbHandles.claimed UsbHandles.setClaimed getSharedInterface
    dsimp only
    split_ifs with hslot
    · rw [hslot, Function.update_self]
    · rw [Function.update_of_ne hslot]
  unfold UsbHandles.claimOrReleaseInterface UsbHandles.withHandle UsbHandles.withInterface
  rw [hselected, hfound]
  cases hc : isClaim && success with
  | true => exact hset true
  | false => exact hset false

/-- The flags track the claims, and no interface is held that shares its slot. -/
structure ClaimRun.Tracked (stack : UsbStack) (f : F) (s : ClaimRun F) : Prop where
  flags : FlagsTrack stack f s
  apart : ∀ el ∈ stack.interfaceList, s.driver.Holds f el.id → ¬stack.SharesSlot el

omit [DecidableEq F] in
/-- Another interface of the slot is not held. -/
theorem ClaimRun.Tracked.not_holds (hs : s.Tracked stack f) {other : InterfaceEL}
    (hel : el ∈ stack.interfaceList) (hother : other ∈ stack.interfaceList) (hne : other ≠ el)
    (hslot : sharedSlot other.index = sharedSlot el.index) : ¬s.driver.Holds f other.id :=
  fun hholds => hs.apart other hother hholds ⟨el, hel, hne.symm, hslot.symm⟩

/-- **A call keeps the flags in step exactly when** its request is not lost while the
interface is held, and it claims no interface that shares its slot. -/
theorem tracked_claimOrRelease (hids : (stack.interfaceList.map InterfaceEL.id).Nodup)
    (hs : s.Tracked stack f) (handle : ℕ) (numberOrIndex : UInt8) (isClaim isIndex : Bool)
    (request : SimpleRequest) :
    let e := ClaimRunEvent.call handle numberOrIndex isClaim isIndex request
    let t := s.claimOrRelease stack f handle numberOrIndex isClaim isIndex request
    ¬Mistracks stack f s e ∧ t.Tracked stack f ∨ Mistracks stack f s e ∧ ¬FlagsTrack stack f t := by
  intro e t
  cases hfound : s.findInterface stack handle numberOrIndex isIndex with
  | none =>
    have ht : t = s := by simp only [t, ClaimRun.claimOrRelease, hfound]
    refine .inl ⟨?_, ht ▸ hs⟩
    rintro ⟨el, hel, -⟩
    cases hfound.symm.trans hel
  | some el =>
    have hel : el ∈ stack.interfaceList := by
      obtain ⟨_, -, hfind⟩ := Option.bind_eq_some_iff.mp hfound
      exact mem_of_findInterfaceEL hfind
    have hid {x : InterfaceEL} (hx : x ∈ stack.interfaceList) : x.id = el.id ↔ x = el :=
      ⟨fun heq => List.inj_on_of_nodup_map hids hx hel heq, fun heq => heq ▸ rfl⟩
    let r := s.driver.submit f (claimOrReleaseCode isClaim) el.id request
    have hdriver : t.driver = r.1 := by simp only [t, r, ClaimRun.claimOrRelease, hfound]
    have hclaimed (index : UInt8) : t.handles.claimed index =
        if sharedSlot index = sharedSlot el.index then isClaim && r.2
        else s.handles.claimed index := by
      simp only [t, r, ClaimRun.claimOrRelease, hfound]
      exact claimed_claimOrReleaseInterface _ index hfound
    have hmiss : Mistracks stack f s e ↔ request.delivered = false ∧ s.driver.Holds f el.id ∨
        isClaim = true ∧ request.delivered = true ∧ s.driver.Available f el.id ∧
          stack.SharesSlot el := by
      refine ⟨?_, fun h => ⟨el, hfound, h⟩⟩
      rintro ⟨el', hel', h⟩
      cases hfound.symm.trans hel'
      exact h
    rw [hmiss]
    rcases ClaimState.submit_cases s.driver f isClaim el.id request with
      ⟨hdevice, ⟨hdelivered, hok, i, hi, hfree, howner⟩ | ⟨hrefused, hfailed, howner⟩⟩
    · -- the interface is claimed or given back
      have hholds {x : InterfaceEL} (hx : x ∈ stack.interfaceList) :
          t.driver.Holds f x.id ↔ if x = el then isClaim = true else s.driver.Holds f x.id := by
        rw [hdriver, ClaimState.holds_update hdevice hi howner, if_congr (hid hx) rfl rfl]
      rw [hok, Bool.and_true] at hclaimed
      by_cases hshares : isClaim = true ∧ stack.SharesSlot el
      · obtain ⟨rfl, other, hother, hne, hslot⟩ := hshares
        refine .inr ⟨.inr ⟨rfl, hdelivered, ⟨i, hi, hfree⟩, other, hother, hne, hslot⟩, ?_⟩
        intro hflags
        have hset : t.handles.claimed other.index = true := by rw [hclaimed, if_pos hslot]
        have hheld := (hflags other hother).mp hset
        rw [hholds hother, if_neg hne] at hheld
        exact hs.not_holds hel hother hne hslot hheld
      · refine .inl ⟨?_, fun x hx => ?_, fun x hx hheld => ?_⟩
        · rintro (⟨hlost, -⟩ | ⟨hclaim, -, -, hslot⟩)
          · rw [hdelivered] at hlost
            cases hlost
          · exact hshares ⟨hclaim, hslot⟩
        · rw [hclaimed, hholds hx]
          by_cases hxel : x = el
          · rw [if_pos hxel, hxel, if_pos rfl]
          · rw [if_neg hxel]
            split_ifs with hslot
            · -- the interface that is claimed shares its slot with none
              refine iff_of_false (fun hclaim => hshares ⟨hclaim, x, hx, hxel, hslot⟩) ?_
              exact hs.not_holds hel hx hxel hslot
            · exact hs.flags x hx
        · rw [hholds hx] at hheld
          by_cases hxel : x = el
          · rw [if_pos hxel] at hheld
            rw [hxel]
            exact fun hslot => hshares ⟨hheld, hslot⟩
          · rw [if_neg hxel] at hheld
            exact hs.apart x hx hheld
    · -- the request fails
      have hholds (x : InterfaceEL) : t.driver.Holds f x.id ↔ s.driver.Holds f x.id := by
        rw [hdriver]
        exact ClaimState.SameFor.holds_iff ⟨hdevice, fun j => by rw [howner]⟩
      rw [hfailed, Bool.and_false] at hclaimed
      by_cases hheld : s.driver.Holds f el.id
      · have havailable : s.driver.Available f el.id := hheld.imp fun j hj => ⟨hj.1, .inr hj.2⟩
        have hlost : request.delivered = false :=
          Bool.eq_false_iff.mpr fun hdelivered => hrefused ⟨hdelivered, havailable⟩
        refine .inr ⟨.inl ⟨hlost, hheld⟩, fun hflags => ?_⟩
        have hset := (hflags el hel).mpr ((hholds el).mpr hheld)
        rw [hclaimed, if_pos rfl] at hset
        cases hset
      · refine .inl ⟨?_, fun x hx => ?_, fun x hx h => hs.apart x hx ((hholds x).mp h)⟩
        · rintro (⟨-, h⟩ | ⟨-, hdelivered, havailable, -⟩)
          · exact hheld h
          · exact hrefused ⟨hdelivered, havailable⟩
        · rw [hclaimed, hholds x]
          split_ifs with hslot
          · refine iff_of_false not_false ?_
            by_cases hxel : x = el
            · rw [hxel]
              exact hheld
            · exact hs.not_holds hel hx hxel hslot
          · exact hs.flags x hx

/-- An event of a run. -/
theorem tracked_step (hids : (stack.interfaceList.map InterfaceEL.id).Nodup)
    (hs : s.Tracked stack f) {e : ClaimRunEvent F} {t : ClaimRun F}
    (h : (claimRuns stack f).step s e = some t) :
    ¬Mistracks stack f s e ∧ t.Tracked stack f ∨ Mistracks stack f s e ∧ ¬FlagsTrack stack f t := by
  cases e with
  | call handle numberOrIndex isClaim isIndex request =>
    cases h
    exact tracked_claimOrRelease hids hs handle numberOrIndex isClaim isIndex request
  | other g ioControlCode intf outputBuffer =>
    simp only [claimRuns] at h
    split at h
    · cases h
    · next hne =>
      cases h
      have hsame : s.driver.SameFor _ f :=
        ClaimState.serveOther_sameFor hne ioControlCode intf outputBuffer
      refine .inl ⟨id, fun x hx => ?_, fun x hx hheld => hs.apart x hx (hsame.holds_iff.mp hheld)⟩
      exact (hs.flags x hx).trans hsame.holds_iff.symm

/-- A device that has just been opened: no flag is set, and the file object has claimed
nothing. -/
structure ClaimRun.JustOpened (f : F) (s : ClaimRun F) : Prop where
  flags : ∀ slot, (s.handles.sharedInterfaces slot).claimed = false
  owner : ∀ i, s.driver.owner i ≠ some f

omit [DecidableEq F] in
theorem ClaimRun.JustOpened.tracked (hs : s.JustOpened f) (stack : UsbStack) :
    s.Tracked stack f := by
  have hnone (number : UInt8) : ¬s.driver.Holds f number := fun ⟨i, _, hi⟩ => hs.owner i hi
  refine ⟨fun el _ => iff_of_false ?_ (hnone el.id), fun el _ h => absurd h (hnone el.id)⟩
  rw [UsbHandles.claimed, getSharedInterface, hs.flags]
  exact Bool.false_ne_true

/-- **The flags track the claims in exactly the runs** in which no request is lost that is
for an interface the file object holds, and no interface is claimed that shares its slot. -/
theorem always_flagsTrack_iff (mem : Memory) (alloc : ℕ → Allocs) (calls : ℕ)
    (hs : s.JustOpened f) (es : List (ClaimRunEvent F)) :
    let stack := (walk mem alloc calls).device.usbStack
    (claimRuns stack f).Always (FlagsTrack stack f) s es ↔
      (claimRuns stack f).Throughout (fun s e => ¬Mistracks stack f s e) s es := by
  intro stack
  have hnumbered := walk_numbered mem alloc calls
  have hids : (stack.interfaceList.map InterfaceEL.id).Nodup := by
    rw [hnumbered.interfaces.ids]
    exact hnumbered.nodup
  exact Machine.always_iff_throughout_not (fun _ hs => hs.flags)
    (fun _ _ _ hs h => tracked_step hids hs h) es (hs.tracked stack)

/-- A device whose interface nobody has claimed. -/
def unclaimedRun : ClaimRun Bool where
  handles := { sharedInterfaces := fun _ => ⟨none, 0, false⟩ }
  driver := ClaimState.start claimedDevice

theorem justOpened_unclaimedRun : unclaimedRun.JustOpened true := ⟨fun _ => rfl, nofun⟩

/-- A claim, a claim of another file object, and a release, of the one interface. -/
theorem always_flagsTrack_unclaimedRun :
    let stack := (walk twoSettingsDescriptor (fun _ => {}) 5).device.usbStack
    (claimRuns stack true).Always (FlagsTrack stack true) unclaimedRun
      [.call 0 0 true false {}, .other false LIBUSBK_IOCTL_CLAIM_INTERFACE {} STATUS_SUCCESS,
        .call 0 0 false false {}] := by
  intro stack
  obtain ⟨a, ha⟩ := List.length_eq_one_iff.mp (by decide : stack.interfaceList.length = 1)
  refine (always_flagsTrack_iff twoSettingsDescriptor _ 5 justOpened_unclaimedRun _).mpr ?_
  have hdelivered {s : ClaimRun Bool} (isClaim : Bool) :
      ¬Mistracks stack true s (.call 0 0 isClaim false {}) := by
    rintro ⟨el, hfound, ⟨hlost, -⟩ | ⟨-, -, -, other, hother, hne, -⟩⟩
    · cases hlost
    · obtain ⟨_, -, hel⟩ := Option.bind_eq_some_iff.mp hfound
      have hmem := mem_of_findInterfaceEL hel
      rw [ha, List.mem_singleton] at hother hmem
      exact hne (hother.trans hmem.symm)
  exact .cons rfl (hdelivered true) (.cons rfl id (.cons rfl (hdelivered false) trivial))

/-- The interface is claimed, and then claimed again with a request that is lost. -/
theorem not_flagsTrack_lostClaim :
    let stack := (walk twoSettingsDescriptor (fun _ => {}) 5).device.usbStack
    ¬(claimRuns stack true).Always (FlagsTrack stack true) unclaimedRun
      [.call 0 0 true false {}, .call 0 0 true false { presented := false }] := by
  intro stack h
  have hend := h.exec rfl
  have hflag := (hend _ (List.mem_singleton.mpr rfl)).mpr ⟨0, rfl, rfl⟩
  exact absurd hflag (by decide)

end

end LibusbK
