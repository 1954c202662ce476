import LibusbK.Dll.PoolHandle
import Mathlib.Tactic.SplitIfs

/-!
# Clean-up callbacks

`LibK_SetCleanupCallback` stores a callback in a handle, and `PoolHandle_Dead` calls it
from the clean-up routine of the handle, if `PoolHandle_Live` has marked the handle.  The
mark is made where a handle is created, and each backend brings routines of its own.

An `Inc` or a `Dec` is one step; a clean-up takes three, so that anything may happen while
the callback runs.  Whoever holds a reference may give it up at any time.

## Main definitions

* `KObj` — a handle with the user's part of its base.
* `KlibHandle`, `libGetBase` — what users name handles by.
* `handleLives` — handles are created, used and cleaned up.
* `KObj.CalledOnce` — the callback has been called once since the last reference was given
  up, and not before.

## Main result

* `calledOnce_iff_throughout` — this holds in a run exactly when every handle that is
  cleaned up with a callback was created and is cleaned up by functions that do their part.
-/

namespace LibusbK

/-! ### Handles -/

/-- The backends that open devices. -/
inductive UsbBackend
  | libusbK
  | libusb0
  | winUsb
  deriving DecidableEq, Repr

/-- The functions that create handles, except those of `UsbStack`. -/
inductive PlainCreation
  /-- `WM_USER_INIT_HOT_HANDLE`. -/
  | hotKInit
  /-- `LstK_InitInternal`, for the list. -/
  | lstKInit
  | lstKClone
  /-- `LstK_InitInternal`, for an element of the list. -/
  | lstInfoKEnumerate
  | lstKCloneInfo
  | ovlKAcquire
  | ovlKInit
  | stmKInit
  | isochKInit
  deriving DecidableEq, Repr

/-- How a USB handle came into being. -/
inductive UsbCreation
  | init
  | clone
  | associated
  deriving DecidableEq, Repr

/-- How a handle came into being. -/
inductive HandleCreation
  | plain (p : PlainCreation)
  | usbK (backend : UsbBackend) (how : UsbCreation)
  | devK (backend : UsbBackend)
  deriving DecidableEq, Repr

/-- The section of a handle. -/
def HandleCreation.sec : HandleCreation → AllKSection
  | plain .hotKInit => .hotK
  | plain .lstKInit => .lstK
  | plain .lstKClone => .lstK
  | plain .lstInfoKEnumerate => .lstInfoK
  | plain .lstKCloneInfo => .lstInfoK
  | plain .ovlKAcquire => .ovlK
  | plain .ovlKInit => .ovlPoolK
  | plain .stmKInit => .stmK
  | plain .isochKInit => .isochK
  | usbK _ _ => .usbK
  | devK _ => .devK

/-- The clean-up routines. -/
inductive CleanupRoutine
  | hotK
  | deviceList
  | devInfo
  | kUsbK
  | kDevK
  | wUsbK
  | wDevK
  | ovlK
  | ovlPoolK
  | stm
  | isoch
  deriving DecidableEq, Repr

/-- The routine calls `PoolHandle_Dead`.  `Cleanup_HotK` does if it finds the handle among
the items of the notifier; those of WinUSB never do. -/
def CleanupRoutine.callsDead (listed : Bool) : CleanupRoutine → Bool
  | hotK => listed
  | wUsbK => false
  | wDevK => false
  | _ => true

def UsbBackend.cleanupUsbK : UsbBackend → CleanupRoutine
  | libusbK => .kUsbK
  | libusb0 => .kUsbK
  | winUsb => .wUsbK

def UsbBackend.cleanupDevK : UsbBackend → CleanupRoutine
  | libusbK => .kDevK
  | libusb0 => .kDevK
  | winUsb => .wDevK

/-- The values of a `KLIB_HANDLE`. -/
inductive KlibHandle
  /-- The address of the handle `i` in its section. -/
  | pool (i : ℕ)
  /-- The `KLST_DEVINFO_EL` of the handle `i`. -/
  | devInfoEl (i : ℕ)
  deriving DecidableEq, Repr

/-- A call of a clean-up callback. -/
structure CallbackCall where
  callback : ℕ
  handle : KlibHandle
  handleType : AllKSection
  context : ℕ
  deriving DecidableEq, Repr

/-- Where the life of a handle stands. -/
inductive LifeStage
  /-- There are references. -/
  | held
  /-- The last one has been given up. -/
  | opening
  /-- The callback is running. -/
  | inCallback
  | closing
  | released
  deriving DecidableEq, Repr

/-- The callback should not have been called yet. -/
def LifeStage.before : LifeStage → Bool
  | held => true
  | opening => true
  | _ => false

/-- A handle.  `made`, `wanted` and `calls` are what an observer notes: how the handle came
into being, the callback last set with the name that was used for the handle, and the calls
of callbacks. -/
structure KObj where
  made : HandleCreation
  cleanup : CleanupRoutine
  ref : ℕ := 1
  stage : LifeStage := .held
  valid : Bool := false
  cleanupCB : Option ℕ := none
  context : ℕ
  /-- The `Device` of a USB handle. -/
  device : Option ℕ := none
  /-- The handle is among the items of the hot-plug notifier. -/
  listed : Bool := false
  wanted : Option (ℕ × KlibHandle) := none
  calls : List CallbackCall := []

namespace KObj

/-- `PoolHandle_Acquire`, with `Init_Handle_ObjK`: `context` is the `DefaultUserContext` of
the section. -/
def acquire (made : HandleCreation) (evtCleanup : CleanupRoutine) (context : ℕ) : KObj where
  made := made
  cleanup := evtCleanup
  context := context

/-- `PoolHandle_Live`. -/
def live (x : KObj) : KObj := { x with valid := true }

/-- `PoolHandle_Inc`. -/
def inc (x : KObj) : KObj :=
  match x.stage with
  | .held => { x with ref := x.ref + 1 }
  | _ => x

/-- `PoolHandle_Dec`, up to the clean-up. -/
def dec (x : KObj) : KObj :=
  match x.stage with
  | .held =>
    if 1 < x.ref then { x with ref := x.ref - 1 } else { x with ref := 0, stage := .opening }
  | _ => x

/-- The clean-up of the handle `i` goes on: to the call in `PoolHandle_Dead`, to the end of
the routine, and to `mSpin_Release`. -/
def goOn (i : ℕ) (x : KObj) : KObj :=
  match x.stage with
  | .held => x
  | .opening =>
    if x.cleanup.callsDead x.listed && x.valid then
      match x.cleanupCB with
      | none => { x with valid := false, stage := .closing }
      | some cb =>
        { x with
          valid := false
          stage := .inCallback
          calls := x.calls ++ [⟨cb, .pool i, x.made.sec, x.context⟩] }
    else { x with stage := .closing }
  | .inCallback => { x with cleanupCB := none, stage := .closing }
  | .closing => { x with stage := .released }
  | .released => x

end KObj

/-! ### HandleCreation -/

/-- The functions that create handles, as far as the base of the handle is concerned.  Each
acquires the handle with its routine and marks it when nothing more can fail, except
`LstK_Clone`, which does not mark it. -/
def PlainCreation.create (context : ℕ) : PlainCreation → KObj
  | hotKInit => { (KObj.acquire (.plain .hotKInit) .hotK context) with listed := true }.live
  | lstKInit => (KObj.acquire (.plain .lstKInit) .deviceList context).live
  | lstKClone => KObj.acquire (.plain .lstKClone) .deviceList context
  | lstInfoKEnumerate => (KObj.acquire (.plain .lstInfoKEnumerate) .devInfo context).live
  | lstKCloneInfo => (KObj.acquire (.plain .lstKCloneInfo) .devInfo context).live
  | ovlKAcquire => (KObj.acquire (.plain .ovlKAcquire) .ovlK context).live
  | ovlKInit => (KObj.acquire (.plain .ovlKInit) .ovlPoolK context).live
  | stmKInit => (KObj.acquire (.plain .stmKInit) .stm context).live
  | isochKInit => (KObj.acquire (.plain .isochKInit) .isoch context).live

/-- The handles of all sections, in the order of their creation. -/
structure HandleLives where
  handles : ℕ → Option KObj := fun _ => none
  next : ℕ := 0

namespace HandleLives

variable (s : HandleLives)

/-- A handle is created. -/
def add (x : KObj) : HandleLives := ⟨Function.update s.handles s.next (some x), s.next + 1⟩

/-- A handle is written. -/
def modify (i : ℕ) (f : KObj → KObj) : HandleLives :=
  { s with handles := Function.update s.handles i ((s.handles i).map f) }

/-- `UsbStack_Init` without a shared device. -/
def usbStackInit (backend : UsbBackend) (context devContext : ℕ) : HandleLives :=
  let device := (KObj.acquire (.devK backend) backend.cleanupDevK devContext).live
  let handle :=
    { (KObj.acquire (.usbK backend .init) backend.cleanupUsbK context) with device := some s.next }
  (s.add device).add handle.live

/-- `UsbStack_CloneHandle` and, with `how`, `UsbStack_GetAssociatedInterface`, which clones
the handle and marks the clone again.  The clone shares the device and has the routine of
the handle. -/
def usbStackCloneHandle (src : ℕ) (how : UsbCreation) (context : ℕ) : HandleLives :=
  match s.handles src with
  | none => s
  | some x =>
    match x.made with
    | .usbK backend _ =>
      if x.stage = .released then s
      else
        let clone :=
          { (KObj.acquire (.usbK backend how) x.cleanup context) with device := x.device }
        (x.device.elim s fun device => s.modify device KObj.inc).add clone.live
    | _ => s

/-! ### What users do -/

/-- `Lib_GetBase`: the handle a `KLIB_HANDLE` of this type names. -/
def libGetBase (handle : KlibHandle) (handleType : AllKSection) : Option ℕ :=
  match handleType, handle with
  | .lstInfoK, .devInfoEl i => some i
  | .lstInfoK, .pool _ => none
  | .devK, .pool u =>
    (s.handles u).bind fun x => if x.made.sec = .usbK then x.device else none
  | .devK, .devInfoEl _ => none
  | _, .pool i => some i
  | _, .devInfoEl _ => none

/-- The check of `LibK_SetCleanupCallback` and `LibK_SetContext`, for a handle that is of
the type the caller says. -/
def accepts (x : KObj) (handleType : AllKSection) : Bool :=
  x.made.sec == handleType && decide (1 ≤ x.ref) && x.stage != .released

/-- `LibK_SetCleanupCallback`. -/
def setCleanupCallback (handle : KlibHandle) (handleType : AllKSection)
    (cleanupCB : Option ℕ) : HandleLives :=
  match s.libGetBase handle handleType with
  | none => s
  | some i =>
    s.modify i fun x =>
      if accepts x handleType then
        { x with cleanupCB := cleanupCB, wanted := cleanupCB.map fun cb => (cb, handle) }
      else x

/-- `LibK_SetContext`. -/
def setContext (handle : KlibHandle) (handleType : AllKSection) (contextValue : ℕ) :
    HandleLives :=
  match s.libGetBase handle handleType with
  | none => s
  | some i =>
    s.modify i fun x => if accepts x handleType then { x with context := contextValue } else x

end HandleLives

/-- What happens to handles.  A context that comes with a creation is the default of its
section. -/
inductive HandleEvent
  | create (p : PlainCreation) (context : ℕ)
  | usbInit (backend : UsbBackend) (context devContext : ℕ)
  | usbClone (src : ℕ) (context : ℕ)
  | usbAssociated (src : ℕ) (context : ℕ)
  | inc (i : ℕ)
  | dec (i : ℕ)
  | setCleanupCallback (handle : KlibHandle) (handleType : AllKSection) (cleanupCB : Option ℕ)
  | setContext (handle : KlibHandle) (handleType : AllKSection) (contextValue : ℕ)
  /-- The thread in the clean-up of the handle takes its next step. -/
  | goOn (i : ℕ)

/-- The lives of the handles. -/
def handleLives : Machine HandleLives HandleEvent where
  step s
    | .create p context => some (s.add (p.create context))
    | .usbInit backend context devContext => some (s.usbStackInit backend context devContext)
    | .usbClone src context => some (s.usbStackCloneHandle src .clone context)
    | .usbAssociated src context => some (s.usbStackCloneHandle src .associated context)
    | .inc i => some (s.modify i KObj.inc)
    | .dec i => some (s.modify i KObj.dec)
    | .setCleanupCallback handle handleType cleanupCB =>
      some (s.setCleanupCallback handle handleType cleanupCB)
    | .setContext handle handleType contextValue =>
      some (s.setContext handle handleType contextValue)
    | .goOn i => some (s.modify i (KObj.goOn i))

/-! ### What should hold -/

/-- The handle a callback is called with, from the handle it was set on and the name that was
used for it. -/
abbrev HandleArgument := ℕ → KlibHandle → KlibHandle

/-- The handle itself. -/
def itself : HandleArgument := fun i _ => .pool i

/-- The name that was used for it. -/
def asNamed : HandleArgument := fun _ handle => handle

namespace KObj

/-- The call of the callback that was set last. -/
def expected (arg : HandleArgument) (i : ℕ) (x : KObj) : List CallbackCall :=
  (x.wanted.map fun w => ⟨w.1, arg i w.2, x.made.sec, x.context⟩).toList

/-- **What should hold of a handle.**  Its callback has not been called before the last
reference is given up, and just once from then on. -/
def CalledOnce (arg : HandleArgument) (i : ℕ) (x : KObj) : Prop :=
  x.calls = if x.stage.before then [] else x.expected arg i

end KObj

/-- What should hold of all handles. -/
def HandleLives.CalledOnce (arg : HandleArgument) (s : HandleLives) : Prop :=
  ∀ i x, s.handles i = some x → x.CalledOnce arg i

/-- The function that creates the handle marks it, and the routine that cleans it up calls
`PoolHandle_Dead`. -/
def HandleCreation.fires : HandleCreation → Bool
  | plain .lstKClone => false
  | plain _ => true
  | usbK backend _ => backend != .winUsb
  | devK backend => backend != .winUsb

/-- The internal handle is what users name it by. -/
def HandleCreation.namedItself (made : HandleCreation) : Bool :=
  made.sec != .lstInfoK && made.sec != .devK

/-- A clean-up that comes to `PoolHandle_Dead` with a callback set is that of a handle with
the property. -/
def HandleLives.CleanedUp (ok : ℕ → KObj → KlibHandle → Prop) (s : HandleLives) :
    HandleEvent → Prop
  | .goOn i => ∀ x, s.handles i = some x → x.stage = .opening →
      ∀ cb handle, x.wanted = some (cb, handle) → ok i x handle
  | _ => True

/-! ### The invariant -/

/-- What is kept of a handle. -/
structure KObj.Ok (arg : HandleArgument) (i : ℕ) (x : KObj) : Prop where
  fires : x.stage.before = true →
    (x.cleanup.callsDead x.listed && x.valid) = x.made.fires
  routine : ∀ backend how, x.made = .usbK backend how → x.cleanup = backend.cleanupUsbK
  cleanupCB : x.stage.before = true → x.cleanupCB = x.wanted.map Prod.fst
  ref : x.stage ≠ .held → x.ref = 0
  calledOnce : x.CalledOnce arg i

section

variable {arg : HandleArgument} {s : HandleLives} {i : ℕ} {x : KObj}

theorem ok_create (p : PlainCreation) (context : ℕ) : (p.create context).Ok arg i := by
  cases p <;> exact ⟨fun _ => rfl, nofun, fun _ => rfl, fun h => absurd rfl h, rfl⟩

/-- The callback has not been called before the last reference is given up. -/
theorem KObj.Ok.calls_eq_nil (h : x.Ok arg i) (hbefore : x.stage.before = true) :
    x.calls = [] := by
  have hcalled := h.calledOnce
  rwa [KObj.CalledOnce, hbefore] at hcalled

theorem KObj.Ok.inc (h : x.Ok arg i) : x.inc.Ok arg i := by
  unfold KObj.inc
  split
  · next hstage =>
    exact ⟨h.fires, h.routine, h.cleanupCB, fun hne => absurd hstage hne, h.calledOnce⟩
  · exact h

theorem KObj.Ok.dec (h : x.Ok arg i) : x.dec.Ok arg i := by
  unfold KObj.dec
  split
  · next hstage =>
    have hbefore : x.stage.before = true := by rw [hstage]; rfl
    split_ifs
    · exact ⟨h.fires, h.routine, h.cleanupCB, fun hne => absurd hstage hne, h.calledOnce⟩
    · exact ⟨fun _ => h.fires hbefore, h.routine, fun _ => h.cleanupCB hbefore, fun _ => rfl,
        h.calls_eq_nil hbefore⟩
  · exact h

/-- A handle that accepts a callback or a context is held. -/
theorem KObj.Ok.held (h : x.Ok arg i) {handleType : AllKSection}
    (haccepts : HandleLives.accepts x handleType = true) : x.stage = .held := by
  by_contra hne
  have hzero := h.ref hne
  simp [HandleLives.accepts, hzero] at haccepts

/-- Nothing has been called yet, whatever is to be called. -/
theorem KObj.Ok.calledOnce_of_accepts (h : x.Ok arg i) {handleType : AllKSection}
    (haccepts : HandleLives.accepts x handleType = true) (expected : List CallbackCall) :
    x.calls = if x.stage.before then [] else expected := by
  have hbefore : x.stage.before = true := by rw [h.held haccepts]; rfl
  rw [hbefore, if_pos rfl]
  exact h.calls_eq_nil hbefore

/-- The clean-up goes on. -/
theorem KObj.Ok.goOn (h : x.Ok arg i) (hok : x.stage = .opening →
    ∀ cb handle, x.wanted = some (cb, handle) → x.made.fires = true ∧ arg i handle = .pool i) :
    (x.goOn i).Ok arg i := by
  have hcalled := h.calledOnce
  unfold KObj.CalledOnce at hcalled
  unfold KObj.goOn
  split
  · exact h
  · next hstage =>
    have hbefore : x.stage.before = true := by rw [hstage]; rfl
    rw [hbefore, if_pos rfl] at hcalled
    have hzero := h.ref (by rw [hstage]; nofun)
    have hcb := h.cleanupCB hbefore
    rcases Option.eq_none_or_eq_some x.wanted with hwanted | ⟨w, hwanted⟩
    · rw [hwanted, Option.map_none] at hcb
      have hexpected : x.calls = x.expected arg i := by
        rw [hcalled, KObj.expected, hwanted]
        rfl
      rw [hcb]
      dsimp only
      split_ifs
      · exact ⟨nofun, h.routine, nofun, fun _ => hzero, hexpected⟩
      · exact ⟨nofun, h.routine, nofun, fun _ => hzero, hexpected⟩
    · obtain ⟨hfires, harg⟩ := hok hstage w.1 w.2 hwanted
      rw [hwanted, Option.map_some] at hcb
      rw [hcb, h.fires hbefore, hfires, if_pos rfl]
      refine ⟨nofun, h.routine, nofun, fun _ => hzero, ?_⟩
      change x.calls ++ [_] = (x.wanted.map _).toList
      rw [hcalled, hwanted, Option.map_some, harg]
      rfl
  · next hstage =>
    have hzero := h.ref (by rw [hstage]; nofun)
    rw [hstage] at hcalled
    exact ⟨nofun, h.routine, nofun, fun _ => hzero, hcalled⟩
  · next hstage =>
    have hzero := h.ref (by rw [hstage]; nofun)
    rw [hstage] at hcalled
    exact ⟨nofun, h.routine, nofun, fun _ => hzero, hcalled⟩
  · exact h

/-- A clean-up that goes on to the right calls is that of a handle with the property. -/
theorem KObj.Ok.fires_of_goOn (h : x.Ok arg i) (hstage : x.stage = .opening)
    (hnext : (x.goOn i).CalledOnce arg i) {cb : ℕ} {handle : KlibHandle}
    (hwanted : x.wanted = some (cb, handle)) :
    x.made.fires = true ∧ arg i handle = .pool i := by
  have hbefore : x.stage.before = true := by rw [hstage]; rfl
  have hcalled := h.calls_eq_nil hbefore
  have hcb : x.cleanupCB = some cb := by rw [h.cleanupCB hbefore, hwanted]; rfl
  unfold KObj.goOn at hnext
  rw [hstage] at hnext
  dsimp only at hnext
  rw [h.fires hbefore, hcb] at hnext
  cases hfires : x.made.fires with
  | false =>
    rw [hfires, if_neg Bool.false_ne_true] at hnext
    change x.calls = (x.wanted.map _).toList at hnext
    rw [hcalled, hwanted] at hnext
    cases hnext
  | true =>
    rw [hfires, if_pos rfl] at hnext
    change x.calls ++ [_] = (x.wanted.map _).toList at hnext
    rw [hcalled, hwanted, Option.map_some, Option.toList_some, List.nil_append,
      List.singleton_inj] at hnext
    exact ⟨rfl, (congrArg CallbackCall.handle hnext).symm⟩

/-- The handles are as they should be. -/
def HandleLives.Ok (arg : HandleArgument) (s : HandleLives) : Prop :=
  ∀ i x, s.handles i = some x → x.Ok arg i

theorem HandleLives.forall_add {P : ℕ → KObj → Prop} (hs : ∀ i x, s.handles i = some x → P i x)
    {y : KObj} (hy : ∀ i, P i y) : ∀ i x, (s.add y).handles i = some x → P i x := by
  intro i x hx
  by_cases hi : i = s.next
  · subst hi
    have hself : (s.add y).handles s.next = some y := Function.update_self ..
    rw [hself, Option.some.injEq] at hx
    exact hx ▸ hy _
  · have hne : (s.add y).handles i = s.handles i := Function.update_of_ne hi _ _
    rw [hne] at hx
    exact hs i x hx

theorem HandleLives.forall_modify {P : ℕ → KObj → Prop}
    (hs : ∀ i x, s.handles i = some x → P i x) {j : ℕ} {f : KObj → KObj}
    (hf : ∀ x, s.handles j = some x → P j x → P j (f x)) :
    ∀ i x, (s.modify j f).handles i = some x → P i x := by
  intro i x hx
  by_cases hi : i = j
  · subst hi
    have hself : (s.modify i f).handles i = (s.handles i).map f := Function.update_self ..
    rw [hself] at hx
    obtain ⟨y, hy, rfl⟩ := Option.map_eq_some_iff.mp hx
    exact hf y hy (hs i y hy)
  · have hne : (s.modify j f).handles i = s.handles i := Function.update_of_ne hi _ _
    rw [hne] at hx
    exact hs i x hx

theorem HandleLives.Ok.add (hs : s.Ok arg) {y : KObj} (hy : ∀ i, y.Ok arg i) :
    (s.add y).Ok arg :=
  HandleLives.forall_add hs hy

theorem HandleLives.Ok.modify (hs : s.Ok arg) {j : ℕ} {f : KObj → KObj}
    (hf : ∀ x, s.handles j = some x → x.Ok arg j → (f x).Ok arg j) : (s.modify j f).Ok arg :=
  HandleLives.forall_modify hs hf

theorem HandleLives.Ok.usbStackInit (hs : s.Ok arg) (backend : UsbBackend)
    (context devContext : ℕ) : (s.usbStackInit backend context devContext).Ok arg := by
  refine (hs.add fun i => ?_).add fun i => ?_
  · cases backend <;> exact ⟨fun _ => rfl, nofun, fun _ => rfl, fun h => absurd rfl h, rfl⟩
  · refine ⟨fun _ => ?_, fun b how h => ?_, fun _ => rfl, fun h => absurd rfl h, rfl⟩
    · cases backend <;> rfl
    · cases h
      rfl

theorem HandleLives.Ok.usbStackCloneHandle (hs : s.Ok arg) (src : ℕ) (how : UsbCreation)
    (context : ℕ) : (s.usbStackCloneHandle src how context).Ok arg := by
  unfold HandleLives.usbStackCloneHandle
  split
  · exact hs
  · next y hy =>
    split
    · next backend _ hmade =>
      split_ifs
      · exact hs
      · have hroutine : y.cleanup = backend.cleanupUsbK := (hs src y hy).routine _ _ hmade
        have hinc : (y.device.elim s fun device => s.modify device KObj.inc).Ok arg := by
          cases y.device with
          | none => exact hs
          | some device => exact hs.modify fun x _ h => h.inc
        refine hinc.add fun i => ?_
        refine ⟨fun _ => ?_, fun b how h => ?_, fun _ => rfl, fun h => absurd rfl h, rfl⟩
        · change (CleanupRoutine.callsDead false y.cleanup && true) = (backend != .winUsb)
          rw [hroutine]
          cases backend <;> rfl
        · cases h
          exact hroutine
    · exact hs

theorem HandleLives.Ok.setCleanupCallback (hs : s.Ok arg) (handle : KlibHandle)
    (handleType : AllKSection) (cleanupCB : Option ℕ) :
    (s.setCleanupCallback handle handleType cleanupCB).Ok arg := by
  unfold HandleLives.setCleanupCallback
  split
  · exact hs
  · refine hs.modify fun x _ h => ?_
    split_ifs with haccepts
    · refine ⟨h.fires, h.routine, fun _ => ?_, h.ref, h.calledOnce_of_accepts haccepts _⟩
      cases cleanupCB <;> rfl
    · exact h

theorem HandleLives.Ok.setContext (hs : s.Ok arg) (handle : KlibHandle)
    (handleType : AllKSection) (contextValue : ℕ) :
    (s.setContext handle handleType contextValue).Ok arg := by
  unfold HandleLives.setContext
  split
  · exact hs
  · refine hs.modify fun x _ h => ?_
    split_ifs with haccepts
    · exact ⟨h.fires, h.routine, h.cleanupCB, h.ref, h.calledOnce_of_accepts haccepts _⟩
    · exact h

/-- The property of a handle that a clean-up with a callback needs. -/
abbrev FiresWith (arg : HandleArgument) (i : ℕ) (x : KObj) (handle : KlibHandle) : Prop :=
  x.made.fires = true ∧ arg i handle = .pool i

/-- **What one event preserves.** -/
theorem HandleLives.Ok.step (hs : s.Ok arg) {e : HandleEvent} {s' : HandleLives}
    (hok : s.CleanedUp (FiresWith arg) e) (h : handleLives.step s e = some s') : s'.Ok arg := by
  cases e with
  | create p context =>
    cases h
    exact hs.add fun _ => ok_create p context
  | usbInit backend context devContext =>
    cases h
    exact hs.usbStackInit backend context devContext
  | usbClone src context =>
    cases h
    exact hs.usbStackCloneHandle src .clone context
  | usbAssociated src context =>
    cases h
    exact hs.usbStackCloneHandle src .associated context
  | inc i =>
    cases h
    exact hs.modify fun x _ h => h.inc
  | dec i =>
    cases h
    exact hs.modify fun x _ h => h.dec
  | setCleanupCallback handle handleType cleanupCB =>
    cases h
    exact hs.setCleanupCallback handle handleType cleanupCB
  | setContext handle handleType contextValue =>
    cases h
    exact hs.setContext handle handleType contextValue
  | goOn i =>
    cases h
    exact hs.modify fun x hx h => h.goOn fun hstage => hok x hx hstage

theorem ok_start (arg : HandleArgument) : HandleLives.Ok arg {} := by
  intro i x hx
  cases hx

/-- Called once, in a run, by the property of the handles that are cleaned up. -/
theorem calledOnce_iff_firesWith (arg : HandleArgument) (es : List HandleEvent) :
    handleLives.Always (HandleLives.CalledOnce arg) {} es ↔
      handleLives.Throughout (HandleLives.CleanedUp (FiresWith arg)) {} es := by
  refine Machine.always_iff_throughout (fun s hs i x hx => (hs i x hx).calledOnce)
    (fun s e t hs hok h => hs.step hok h) (fun s e t hs h hnext => ?_) (ok_start arg)
  cases e with
  | goOn i =>
    intro x hx hstage cb handle hwanted
    cases h
    have hself : (s.modify i (KObj.goOn i)).handles i = some (x.goOn i) := by
      have hmap : (s.modify i (KObj.goOn i)).handles i = (s.handles i).map (KObj.goOn i) :=
        Function.update_self ..
      rw [hmap, hx]
      rfl
    exact (hs i x hx).fires_of_goOn hstage (hnext i _ hself) hwanted
  | _ => trivial

/-! ### The names of handles -/

/-- The name a callback was set with is the handle itself, unless the type has names of its
own. -/
def KObj.Named (i : ℕ) (x : KObj) : Prop :=
  ∀ cb handle, x.wanted = some (cb, handle) → (handle = .pool i ↔ x.made.namedItself = true)

/-- All callbacks were set so. -/
def HandleLives.Named (s : HandleLives) : Prop := ∀ i x, s.handles i = some x → x.Named i

theorem KObj.Named.congr {y : KObj} (h : x.Named i) (hmade : y.made = x.made)
    (hwanted : y.wanted = x.wanted) : y.Named i := by
  unfold KObj.Named
  rw [hmade, hwanted]
  exact h

theorem HandleLives.Named.add (hs : s.Named) {y : KObj} (hy : y.wanted = none) :
    (s.add y).Named := by
  refine HandleLives.forall_add hs fun i cb handle hwanted => ?_
  rw [hy] at hwanted
  cases hwanted

theorem HandleLives.Named.modify (hs : s.Named) {j : ℕ} {f : KObj → KObj}
    (hf : ∀ x, s.handles j = some x → x.Named j → (f x).Named j) : (s.modify j f).Named :=
  HandleLives.forall_modify hs hf

theorem made_goOn (i : ℕ) (x : KObj) : (x.goOn i).made = x.made ∧ (x.goOn i).wanted = x.wanted := by
  unfold KObj.goOn
  split
  · exact ⟨rfl, rfl⟩
  · split_ifs
    · split <;> exact ⟨rfl, rfl⟩
    · exact ⟨rfl, rfl⟩
  · exact ⟨rfl, rfl⟩
  · exact ⟨rfl, rfl⟩
  · exact ⟨rfl, rfl⟩

theorem made_dec (x : KObj) : x.dec.made = x.made ∧ x.dec.wanted = x.wanted := by
  unfold KObj.dec
  split
  · split_ifs <;> exact ⟨rfl, rfl⟩
  · exact ⟨rfl, rfl⟩

theorem made_inc (x : KObj) : x.inc.made = x.made ∧ x.inc.wanted = x.wanted := by
  unfold KObj.inc
  split <;> exact ⟨rfl, rfl⟩

/-- A handle is named by its own address exactly if its type has no other names. -/
theorem pool_iff_of_libGetBase {handle : KlibHandle} {handleType : AllKSection}
    (h : s.libGetBase handle handleType = some i) (hx : s.handles i = some x)
    (htype : x.made.sec = handleType) : handle = .pool i ↔ x.made.namedItself = true := by
  unfold HandleCreation.namedItself
  rw [htype]
  unfold HandleLives.libGetBase at h
  split at h
  · exact iff_of_false nofun (by decide)
  · cases h
  · next u =>
    refine iff_of_false (fun hu => ?_) (by decide)
    obtain rfl := KlibHandle.pool.inj hu
    rw [hx, Option.bind_some, htype, if_neg (by decide)] at h
    cases h
  · cases h
  · next hinfo hdev =>
    refine iff_of_true (congrArg KlibHandle.pool (Option.some.inj h)) ?_
    simpa using ⟨fun heq => hinfo heq, fun heq => hdev heq⟩
  · cases h

theorem HandleLives.Named.step (hs : s.Named) {e : HandleEvent} {s' : HandleLives}
    (h : handleLives.step s e = some s') : s'.Named := by
  have hclone : ∀ src how context, (s.usbStackCloneHandle src how context).Named := by
    intro src how context
    unfold HandleLives.usbStackCloneHandle
    split
    · exact hs
    · next y _ =>
      split
      · split_ifs
        · exact hs
        · refine HandleLives.Named.add ?_ rfl
          cases y.device with
          | none => exact hs
          | some device => exact hs.modify fun x _ hx => hx.congr (made_inc x).1 (made_inc x).2
      · exact hs
  cases e with
  | create p context =>
    cases h
    exact hs.add (by cases p <;> rfl)
  | usbInit backend context devContext =>
    cases h
    exact (hs.add rfl).add rfl
  | usbClone src context =>
    cases h
    exact hclone _ _ _
  | usbAssociated src context =>
    cases h
    exact hclone _ _ _
  | inc i =>
    cases h
    exact hs.modify fun x _ hx => hx.congr (made_inc x).1 (made_inc x).2
  | dec i =>
    cases h
    exact hs.modify fun x _ hx => hx.congr (made_dec x).1 (made_dec x).2
  | setCleanupCallback handle handleType cleanupCB =>
    cases h
    unfold HandleLives.setCleanupCallback
    split
    · exact hs
    · next i hbase =>
      refine hs.modify fun x hx hnamed => ?_
      split_ifs with haccepts
      · intro cb handle' hwanted
        obtain ⟨cb', rfl, hpair⟩ := Option.map_eq_some_iff.mp hwanted
        obtain ⟨rfl, rfl⟩ := Prod.mk.inj hpair
        have htype : x.made.sec = handleType := by
          simp only [HandleLives.accepts, Bool.and_eq_true, beq_iff_eq] at haccepts
          exact haccepts.1.1
        exact pool_iff_of_libGetBase (x := x) hbase hx htype
      · exact hnamed
  | setContext handle handleType contextValue =>
    cases h
    unfold HandleLives.setContext
    split
    · exact hs
    · refine hs.modify fun x _ hnamed => ?_
      split_ifs
      · exact hnamed.congr rfl rfl
      · exact hnamed
  | goOn i =>
    cases h
    exact hs.modify fun x _ hx => hx.congr (made_goOn i x).1 (made_goOn i x).2

theorem named_start : HandleLives.Named {} := by
  intro i x hx
  cases hx

/-- Two properties of the handles that are cleaned up are one, if they are where the names
are as they should be. -/
theorem throughout_cleanedUp_congr {ok ok' : ℕ → KObj → KlibHandle → Prop}
    (h : ∀ i x cb handle, x.Named i → x.wanted = some (cb, handle) →
      (ok i x handle ↔ ok' i x handle)) (es : List HandleEvent) :
    handleLives.Throughout (HandleLives.CleanedUp ok) {} es ↔
      handleLives.Throughout (HandleLives.CleanedUp ok') {} es := by
  refine Machine.throughout_congr (I := HandleLives.Named) (fun s e t hs _ => ?_)
    (fun s e t hs _ hstep => hs.step hstep) named_start
  cases e with
  | goOn i =>
    exact forall₃_congr fun x hx _ => forall₃_congr fun cb handle hwanted =>
      h i x cb handle (hs i x hx) hwanted
  | _ => exact Iff.rfl

/-- **The callbacks are called once**, with the handle and the context, exactly if every
handle that is cleaned up with a callback was marked when it was created and has a routine
that calls `PoolHandle_Dead`; and they are called with the name that was used for the handle
exactly if, moreover, its type has no names of its own. -/
theorem calledOnce_iff_throughout (es : List HandleEvent) :
    (handleLives.Always (HandleLives.CalledOnce itself) {} es ↔
      handleLives.Throughout (HandleLives.CleanedUp fun _ x _ => x.made.fires = true) {} es) ∧
    (handleLives.Always (HandleLives.CalledOnce asNamed) {} es ↔
      handleLives.Throughout (HandleLives.CleanedUp fun _ x _ =>
        x.made.fires = true ∧ x.made.namedItself = true) {} es) := by
  constructor
  · rw [calledOnce_iff_firesWith]
    exact throughout_cleanedUp_congr (fun i x cb handle _ _ => and_iff_left rfl) es
  · rw [calledOnce_iff_firesWith]
    exact throughout_cleanedUp_congr
      (fun i x cb handle hnamed hwanted => and_congr_right' (hnamed cb handle hwanted)) es

/-- The callback of a cloned list is never called, nor that of a USB handle of WinUSB. -/
theorem not_calledOnce_clonedList :
    ¬(∀ es, handleLives.Always (HandleLives.CalledOnce itself) {} es) ∧
      ¬∀ es, handleLives.Always (HandleLives.CalledOnce asNamed) {} es := by
  constructor
  · intro h
    have hlast := (h [.create .lstKClone 0, .setCleanupCallback (.pool 0) .lstK (some 1), .dec 0,
      .goOn 0]).exec rfl
    have hcalled := hlast 0 _ rfl
    unfold KObj.CalledOnce at hcalled
    exact absurd hcalled (by decide)
  · intro h
    have hlast := (h [.usbInit .winUsb 0 0, .setCleanupCallback (.pool 1) .usbK (some 1), .dec 1,
      .goOn 1]).exec rfl
    have hcalled := hlast 1 _ rfl
    unfold KObj.CalledOnce at hcalled
    exact absurd hcalled (by decide)

end

end LibusbK
