import LibusbK.Dll.PoolHandle
import LibusbK.Lib.Machine
import LibusbK.Lib.Objects

/-!
# The context of the library

`AllK` points to the context that everything in the library uses.  `LibK_Context_Init` makes it
and `LibK_Context_Free` frees it (`lusbk_usb.c`), any number of threads at a time; both look at
`AllK` before they take the lock `AllKInitLock` and again when they have it.  The functions of
the library that need the context look at `AllK` without the lock, and call
`LibK_Context_Init` only where they find nothing (`CheckLibInit` in `lusbk_handles.c`).

`LibK_Context_Init` stores the new context in `AllK` before it fills it in.

## Main definitions

* `ContextMemory` — `AllK`, the contexts, and the libraries that are loaded for them.
* `ContextPc`, `libContext` — the points a call can be at, and the machine of all calls.
* `ContextPc.IsMidway` — a context is being filled in, or has no heap any more.
-/

namespace LibusbK

/-! ### The context -/

/-- The libraries that are loaded for the context. -/
inductive ContextDll
  | winTrust
  | cfgMgr32
  deriving DecidableEq, Repr

/-- The sections, in the order in which `LibK_Context_Init` comes to them. -/
def contextSections : List AllKSection :=
  [.devK, .hotK, .lstInfoK, .lstK, .ovlK, .ovlPoolK, .stmK, .usbK, .isochK]

/-- `ALLK_CONTEXT`, without the handles.  Heaps are known by numbers, and of a library or a
function it is known whether there is one. -/
structure AllKContext where
  heapProcess : Option ℕ := none
  heapDynamic : Option ℕ := none
  dlls : ContextDll → Bool := fun _ => false
  cancelIoEx : Bool := false
  cmGetDeviceID : Bool := false
  cmGetParent : Bool := false
  index : AllKSection → ℤ := fun _ => 0

/-- There is a heap to allocate from, and the sections are ready. -/
def AllKContext.isReady (c : AllKContext) : Bool :=
  c.heapDynamic.isSome && contextSections.all fun sec => c.index sec == -1

/-- The heap of the process. -/
def processHeap : ℕ := 0

/-- The assignments to the context in `LibK_Context_Init`. -/
inductive ContextAssignment
  | heapProcess
  | heapDynamic
  /-- `if (AllK->HeapDynamic == NULL) AllK->HeapDynamic = AllK->HeapProcess` -/
  | heapDefault
  | dll (d : ContextDll)
  | cancelIoEx
  | cmGetDeviceID
  | cmGetParent
  | index (sec : AllKSection)
  deriving DecidableEq, Repr

/-- Their order. -/
def initAssignments : List ContextAssignment :=
  [.heapProcess, .heapDynamic, .heapDefault, .dll .winTrust, .dll .cfgMgr32, .cancelIoEx,
    .cmGetDeviceID, .cmGetParent] ++ contextSections.map .index

/-- What an assignment stores: `heap` is the argument of the call, and `answer` says whether
`LoadLibraryA` or `GetProcAddress` finds something. -/
def ContextAssignment.store (heap : Option ℕ) (answer : Bool) (c : AllKContext) :
    ContextAssignment → AllKContext
  | heapProcess => { c with heapProcess := some processHeap }
  | heapDynamic => { c with heapDynamic := heap }
  | heapDefault => if c.heapDynamic = none then { c with heapDynamic := c.heapProcess } else c
  | dll d => { c with dlls := Function.update c.dlls d answer }
  | cancelIoEx => { c with cancelIoEx := answer }
  | cmGetDeviceID => { c with cmGetDeviceID := answer }
  | cmGetParent => { c with cmGetParent := answer }
  | index sec => { c with index := Function.update c.index sec (-1) }

/-- What `LibK_Context_Free` does to the context. -/
inductive ContextRelease
  | freeDll (d : ContextDll)
  | clearDll (d : ContextDll)
  | clearHeapDynamic
  /-- The heap is kept in a variable of the call. -/
  | clearHeapProcess
  | heapFree
  | clearAllK
  deriving DecidableEq, Repr

/-- In this order. -/
def freeReleases : List ContextRelease :=
  [.freeDll .cfgMgr32, .clearDll .cfgMgr32, .freeDll .winTrust, .clearDll .winTrust,
    .clearHeapDynamic, .clearHeapProcess, .heapFree, .clearAllK]

/-! ### Memory -/

/-- `AllK`, the contexts that are allocated, and how often each library is loaded.  An access
through `AllK` that comes to no context is noted in `wildAccess`. -/
structure ContextMemory where
  allK : Option ℕ := none
  contexts : Objects AllKContext := .empty
  loads : ContextDll → ℤ := fun _ => 0
  wildAccess : Bool := false

namespace ContextMemory

variable (m : ContextMemory)

/-- The context that `AllK` points to, if there is one. -/
def context : Option AllKContext := m.allK.bind m.contexts.get

/-- A write to the context. -/
def modify (f : AllKContext → AllKContext) : ContextMemory :=
  match m.allK, m.context with
  | some b, some _ => { m with contexts := m.contexts.modify b f }
  | _, _ => { m with wildAccess := true }

/-- A library is loaded `n` more times. -/
def addLoads (d : ContextDll) (n : ℤ) : ContextMemory :=
  { m with loads := Function.update m.loads d (m.loads d + n) }

/-- `AllK = HeapAlloc(…)`, which clears the memory. -/
def alloc : ContextMemory :=
  { m with allK := some m.contexts.next, contexts := m.contexts.create {} }

/-- An assignment of `LibK_Context_Init`. -/
def assign (heap : Option ℕ) (answer : Bool) (a : ContextAssignment) : ContextMemory :=
  let m' := m.modify fun c => a.store heap answer c
  match a, answer with
  | .dll d, true => m'.addLoads d 1
  | _, _ => m'

/-- `FreeLibrary`, if the context has a handle of the library. -/
def freeDll (d : ContextDll) : ContextMemory :=
  match m.context with
  | some c => if c.dlls d then m.addLoads d (-1) else m
  | none => { m with wildAccess := true }

/-- `HeapFree` of the context, unless it had no heap. -/
def heapFree (heap : Option ℕ) : ContextMemory :=
  match heap, m.allK, m.context with
  | some _, some b, some _ => { m with contexts := m.contexts.delete b }
  | some _, _, _ => { m with wildAccess := true }
  | none, _, _ => m

/-- A release of `LibK_Context_Free`, with the heap in its variable after it. -/
def release (heap : Option ℕ) : ContextRelease → ContextMemory × Option ℕ
  | .freeDll d => (m.freeDll d, heap)
  | .clearDll d => (m.modify fun c => { c with dlls := Function.update c.dlls d false }, heap)
  | .clearHeapDynamic => (m.modify fun c => { c with heapDynamic := none }, heap)
  | .clearHeapProcess =>
    (m.modify fun c => { c with heapProcess := none }, m.context.bind AllKContext.heapProcess)
  | .heapFree => (m.heapFree heap, heap)
  | .clearAllK => ({ m with allK := none }, heap)

end ContextMemory

/-! ### The calls -/

/-- The points of the calls.  `reads` says that the caller of `LibK_Context_Init` goes on to use
the context. -/
inductive ContextPc
  | idle
  /-- `LibK_Context_Init`: the first look at `AllK`, the lock, the second look. -/
  | initCheck (heap : Option ℕ) (reads : Bool)
  | initAcquire (heap : Option ℕ) (reads : Bool)
  | initRecheck (heap : Option ℕ) (reads : Bool)
  | initAlloc (heap : Option ℕ) (reads : Bool)
  /-- The assignments that are still to be made; the lock is given back after the last. -/
  | initAssign (heap : Option ℕ) (rest : List ContextAssignment) (reads : Bool)
  | initRelease (result reads : Bool)
  /-- A function that needs the context: `AllK == NULL`, then `CheckLibInit`. -/
  | useCheck
  | checkLibInit
  | use
  /-- `LibK_Context_Free`. -/
  | freeCheck
  | freeAcquire
  | freeRecheck
  | freeing (heap : Option ℕ) (rest : List ContextRelease)
  | freeRelease

namespace ContextPc

/-- The thread has the lock. -/
def Inside : ContextPc → Prop
  | initRecheck .. | initAlloc .. | initAssign .. | initRelease .. => True
  | freeRecheck | freeing .. | freeRelease => True
  | _ => False

/-- The context is there and not complete: something is still to be assigned, or its heap has been
cleared already.  Until then a context that is taken down can be used. -/
def IsMidway : ContextPc → Prop
  | initAssign _ rest _ => rest ≠ []
  | freeing _ rest => ContextRelease.clearHeapDynamic ∉ rest
  | _ => False

/-- `LibK_Context_Init` has returned. -/
def afterInit (result reads : Bool) : ContextPc := if result && reads then use else idle

end ContextPc

/-- The library and the threads that use it.  A use that does not find the context complete is
noted in `unreadyUse`. -/
structure LibContext where
  memory : ContextMemory := {}
  allKInitLock : Bool := false
  threads : ℕ → ContextPc := fun _ => .idle
  unreadyUse : Bool := false

/-- A thread calls `LibK_Context_Init`, `LibK_Context_Free` or a function that needs the
context, or goes on; `answer` is what a function of the system returns. -/
inductive ContextEvent
  | init (t : ℕ) (heap : Option ℕ)
  | needs (t : ℕ)
  | free (t : ℕ)
  | step (t : ℕ) (answer : Bool)

namespace LibContext

variable (s : LibContext)

/-- Thread `t` goes on at `pc`. -/
def goto (t : ℕ) (pc : ContextPc) : LibContext :=
  { s with threads := Function.update s.threads t pc }

/-- Thread `t` gives the lock back. -/
def unlock (t : ℕ) (pc : ContextPc) : LibContext :=
  { s.goto t pc with allKInitLock := false }

/-- `mSpin_Acquire`: one try. -/
def lock (t : ℕ) (pc : ContextPc) : LibContext :=
  if s.allKInitLock then s else { s.goto t pc with allKInitLock := true }

/-- `LibK_Context_Init` up to its assignments. -/
def allocate (t : ℕ) (heap : Option ℕ) (reads answer : Bool) : LibContext :=
  if answer then { s.goto t (.initAssign heap initAssignments reads) with memory := s.memory.alloc }
  else { s.goto t (.initRelease false reads) with memory := { s.memory with allK := none } }

/-- The next step of thread `t`. -/
def run (t : ℕ) (answer : Bool) : Option LibContext :=
  match s.threads t with
  | .idle => none
  | .initCheck heap reads =>
    some (s.goto t (if s.memory.allK.isSome then .afterInit true reads
      else .initAcquire heap reads))
  | .initAcquire heap reads => some (s.lock t (.initRecheck heap reads))
  | .initRecheck heap reads =>
    some (s.goto t (if s.memory.allK.isSome then .initRelease true reads
      else .initAlloc heap reads))
  | .initAlloc heap reads => some (s.allocate t heap reads answer)
  | .initAssign heap (a :: rest) reads =>
    some { s.goto t (.initAssign heap rest reads) with memory := s.memory.assign heap answer a }
  | .initAssign _ [] reads => some (s.unlock t (.afterInit true reads))
  | .initRelease result reads => some (s.unlock t (.afterInit result reads))
  | .useCheck => some (s.goto t (if s.memory.allK.isSome then .use else .checkLibInit))
  | .checkLibInit => some (s.goto t (if s.memory.allK.isSome then .use else .initCheck none true))
  | .use =>
    some { s.goto t .idle with
      unreadyUse := s.unreadyUse || !s.memory.context.any AllKContext.isReady }
  | .freeCheck => some (s.goto t (if s.memory.allK.isSome then .freeAcquire else .idle))
  | .freeAcquire => some (s.lock t .freeRecheck)
  | .freeRecheck =>
    some (s.goto t (if s.memory.allK.isSome then .freeing none freeReleases else .freeRelease))
  | .freeing heap (r :: rest) =>
    some { s.goto t (.freeing (s.memory.release heap r).2 rest) with
      memory := (s.memory.release heap r).1 }
  | .freeing _ [] => some (s.unlock t .idle)
  | .freeRelease => some (s.unlock t .idle)

/-- A thread that is idle calls. -/
def call (t : ℕ) (pc : ContextPc) : Option LibContext :=
  match s.threads t with
  | .idle => some (s.goto t pc)
  | _ => none

end LibContext

/-- The calls of all threads, step by step. -/
def libContext : Machine LibContext ContextEvent where
  step s
    | .init t heap => s.call t (.initCheck heap false)
    | .needs t => s.call t .useCheck
    | .free t => s.call t .freeCheck
    | .step t answer => s.run t answer

end LibusbK
