import Mathlib

/-
  The reduction buffers of `reduce_quda.cu` and their lifecycle.

  Three file-scope pointers hold the buffers the reduction kernels
  use: the device buffer `d_reduce`, the host buffer `h_reduce`, and
  `hd_reduce`, the device address kernels write their partial sums
  through.  `initReduce` allocates each buffer only while its
  pointer is null, but creates the completion event `reduceEnd`
  unconditionally; `endReduce` frees and nulls the buffers and
  destroys the event without nulling it.

  The CUDA runtime is modelled by the handles it has handed out:
  handles are fresh, `0` is the null handle, and releasing a handle
  that is not live is recorded as a fault and leaves an error
  pending for the next `checkCudaError()`.

  Main declarations:
    * `Runtime`, `ReduceState`
    * `initReduce`, `endReduce`, `runReduce`
    * `HandlesOk`
-/

------------------------------------------------------------
-- The Runtime
------------------------------------------------------------

namespace Quda

/- What a runtime handle names. -/
inductive Kind
  /- `device_malloc` -/
  | device
  /- `mapped_malloc`: page-locked host memory with a device alias -/
  | mapped
  /- `pinned_malloc` -/
  | pinned
  /- `cudaEventCreateWithFlags` -/
  | event
deriving DecidableEq, Repr

/- A live allocation or event. -/
structure Resource where
  handle : Nat
  kind : Kind
  bytes : Nat
deriving DecidableEq, Repr

/- The handles the runtime has handed out and not taken back. -/
structure Runtime where
  /- The next fresh handle. -/
  next : Nat
  live : List Resource
  /- Handles released while not live, in order. -/
  faults : List Nat
  /- An error `cudaGetLastError()` would report. -/
  pendingError : Bool
deriving DecidableEq, Repr

namespace Runtime

/- Nothing handed out yet. -/
def init : Runtime :=
  ⟨1, [], [], false⟩

/- Hand out a fresh handle for a resource of `kind`. -/
def alloc
    (rt : Runtime)
    (kind : Kind)
    (bytes : Nat) :
    Nat × Runtime :=
  (rt.next, { rt with next := rt.next + 1, live := ⟨rt.next, kind, bytes⟩ :: rt.live })

/- Take a handle back: `device_free`, `host_free`, `cudaEventDestroy`. -/
def release
    (rt : Runtime)
    (h : Nat) :
    Runtime :=
  if rt.live.any (·.handle == h) then
    { rt with live := rt.live.filter (·.handle != h) }
  else
    { rt with faults := rt.faults ++ [h], pendingError := true }

/- `h` names a live resource of `kind`. -/
def Holds
    (rt : Runtime)
    (h : Nat)
    (kind : Kind) :
    Prop :=
  ∃ r ∈ rt.live, r.handle = h ∧ r.kind = kind

/- Live events. -/
def liveEvents
    (rt : Runtime) :
    Nat :=
  (rt.live.filter (·.kind == .event)).length

theorem holds_alloc
    {rt : Runtime}
    {h : Nat}
    {kind : Kind}
    (hHolds : rt.Holds h kind)
    (kind' : Kind)
    (bytes : Nat) :
    (rt.alloc kind' bytes).2.Holds h kind := by
  obtain ⟨r, hMem, hHandle⟩ := hHolds
  exact ⟨r, List.mem_cons_of_mem _ hMem, hHandle⟩

theorem holds_alloc_self
    (rt : Runtime)
    (kind : Kind)
    (bytes : Nat) :
    (rt.alloc kind bytes).2.Holds (rt.alloc kind bytes).1 kind :=
  ⟨_, List.mem_cons_self _ _, rfl, rfl⟩

@[simp]
theorem mem_live_alloc
    {rt : Runtime}
    {kind : Kind}
    {bytes : Nat}
    {r : Resource} :
    r ∈ (rt.alloc kind bytes).2.live ↔ r = ⟨rt.next, kind, bytes⟩ ∨ r ∈ rt.live :=
  List.mem_cons

/- After a release no live resource has the released handle. -/
theorem mem_live_release
    {rt : Runtime}
    {h : Nat}
    {r : Resource}
    (hr : r ∈ (rt.release h).live) :
    r ∈ rt.live ∧ r.handle ≠ h := by
  unfold release at hr
  split_ifs at hr with hAny
  · simpa using hr
  · exact ⟨hr, fun hEq => hAny (List.any_eq_true.2 ⟨r, hr, by simp [hEq]⟩)⟩

/- Releasing a live handle is no fault. -/
theorem faults_release_of_holds
    {rt : Runtime}
    {h : Nat}
    {kind : Kind}
    (hHolds : rt.Holds h kind) :
    (rt.release h).faults = rt.faults := by
  obtain ⟨r, hMem, hHandle, -⟩ := hHolds
  rw [release, if_pos (List.any_eq_true.2 ⟨r, hMem, by simp [hHandle]⟩)]

/- Releasing one handle keeps every other handle live. -/
theorem holds_release
    {rt : Runtime}
    {h h' : Nat}
    {kind : Kind}
    (hHolds : rt.Holds h kind)
    (hNe : h ≠ h') :
    (rt.release h').Holds h kind := by
  obtain ⟨r, hMem, hHandle, hKind⟩ := hHolds
  refine ⟨r, ?_, hHandle, hKind⟩
  unfold release
  split_ifs
  · exact List.mem_filter.2 ⟨hMem, by simp [hHandle, hNe]⟩
  · exact hMem

theorem faults_release
    (rt : Runtime)
    (h : Nat) :
    (rt.release h).faults = rt.faults ∨ (rt.release h).faults = rt.faults ++ [h] := by
  unfold release
  split_ifs
  · exact .inl rfl
  · exact .inr rfl

end Runtime

------------------------------------------------------------
-- The Buffers
------------------------------------------------------------

/- A device address: a device allocation, or the device alias of mapped memory. -/
inductive DevicePtr
  | buffer (handle : Nat)
  | mapped (handle : Nat)
deriving DecidableEq, Repr

/- What `initReduce` reads of the device, the build and the environment. -/
structure Platform where
  /- `deviceProp.multiProcessorCount` -/
  multiProcessorCount : Nat
  /- `deviceProp.canMapHostMemory` -/
  canMapHostMemory : Bool
  /- A 64-bit build: `_WIN64` or `__LP64__`. -/
  lp64 : Bool
  /- `getenv("QUDA_ENABLE_FAST_REDUCE")` -/
  fastReduceEnv : Option String
  /- `sizeof(QudaSumFloat)`, a build setting. -/
  sizeofQudaSumFloat : Nat
  /- `MAX_MULTI_BLAS_N`, a build setting. -/
  maxMultiBlasN : Nat

/- The buffer size: room for the regular and the multi-reductions. -/
def reduceBytes
    (p : Platform) :
    Nat :=
  let reduceSize := 4 * p.sizeofQudaSumFloat
  let maxReduceBlocks := 2 * p.multiProcessorCount
  let maxReduce := 2 * maxReduceBlocks * reduceSize
  let maxMultiReduce := 2 * p.maxMultiBlasN * p.maxMultiBlasN * maxReduceBlocks * reduceSize
  if maxReduce > maxMultiReduce then maxReduce else maxMultiReduce

/- The file-scope globals of the reductions, and the runtime. -/
structure ReduceState where
  dReduce : Option Nat
  hReduce : Option Nat
  hdReduce : Option DevicePtr
  /- `cudaEvent_t reduceEnd`: zero-initialised, never reset. -/
  reduceEnd : Nat
  fastReduceEnabled : Bool
  runtime : Runtime
deriving DecidableEq, Repr

/- Process start: null pointers, no handles. -/
def ReduceState.init : ReduceState :=
  ⟨none, none, none, 0, false, Runtime.init⟩

/- `if (!d_reduce) d_reduce = device_malloc(bytes)` -/
def allocDeviceBuffer
    (bytes : Nat)
    (s : ReduceState) :
    ReduceState :=
  match s.dReduce with
  | some _ => s
  | none =>
      let (d, rt) := s.runtime.alloc .device bytes
      { s with dReduce := some d, runtime := rt }

/-
  `if (!h_reduce)`: mapped memory and its device alias on a 64-bit
  build of a device that can map host memory, pinned memory and
  `hd_reduce = d_reduce` otherwise.
-/
def allocHostBuffer
    (p : Platform)
    (bytes : Nat)
    (s : ReduceState) :
    ReduceState :=
  match s.hReduce with
  | some _ => s
  | none =>
      if p.lp64 ∧ p.canMapHostMemory then
        let (h, rt) := s.runtime.alloc .mapped bytes
        { s with hReduce := some h, hdReduce := some (.mapped h), runtime := rt }
      else
        let (h, rt) := s.runtime.alloc .pinned bytes
        { s with hReduce := some h, hdReduce := s.dReduce.map .buffer, runtime := rt }

/--
  Modelled from the spec: `checkCudaError()`, a macro of the
  runtime headers; a pending runtime error is fatal.
-/
def checkCudaError
    (s : ReduceState) :
    Except String ReduceState :=
  if s.runtime.pendingError then .error "(CUDA) invalid resource handle" else .ok s

/-
  `initReduce()`: the buffers when missing, a new event always,
  fast reductions when `QUDA_ENABLE_FAST_REDUCE` is `"1"`.
-/
def initReduce
    (p : Platform)
    (s : ReduceState) :
    Except String ReduceState :=
  let s := allocHostBuffer p (reduceBytes p) (allocDeviceBuffer (reduceBytes p) s)
  let (e, rt) := s.runtime.alloc .event 0
  let s := { s with reduceEnd := e, runtime := rt }
  let s := if p.fastReduceEnv = some "1" then { s with fastReduceEnabled := true } else s
  checkCudaError s

/- `endReduce()`: free and null the buffers, destroy `reduceEnd`. -/
def endReduce
    (s : ReduceState) :
    ReduceState :=
  let s := match s.dReduce with
    | some d => { s with dReduce := none, runtime := s.runtime.release d }
    | none => s
  let s := match s.hReduce with
    | some h => { s with hReduce := none, runtime := s.runtime.release h }
    | none => s
  let s := { s with hdReduce := none }
  { s with runtime := s.runtime.release s.reduceEnd }

/- The two calls of the buffer lifecycle. -/
inductive ReduceCall
  | initReduce
  | endReduce
deriving DecidableEq, Repr

def ReduceCall.apply
    (p : Platform)
    (s : ReduceState) :
    ReduceCall → Except String ReduceState
  | .initReduce => Quda.initReduce p s
  | .endReduce => .ok (Quda.endReduce s)

/- A sequence of calls from process start; an error ends the process. -/
def runReduce
    (p : Platform)
    (calls : List ReduceCall) :
    Except String ReduceState :=
  calls.foldlM (ReduceCall.apply p) ReduceState.init

/- What every call keeps holds after any sequence of calls. -/
theorem foldlM_apply_induction
    (p : Platform)
    (Inv : ReduceState → Prop)
    (hStep : ∀ (call : ReduceCall) s s', Inv s → call.apply p s = .ok s' → Inv s') :
    ∀ (calls : List ReduceCall) {s s' : ReduceState}, Inv s →
      calls.foldlM (ReduceCall.apply p) s = .ok s' → Inv s'
  | [], _, _, hInv, h => by cases h; exact hInv
  | call :: calls, s, s', hInv, h => by
      simp only [List.foldlM_cons] at h
      cases hCall : call.apply p s with
      | error e => rw [hCall] at h; cases h
      | ok t =>
          rw [hCall] at h
          exact foldlM_apply_induction p Inv hStep calls (hStep call s t hInv hCall) h

/- An invariant of the initial state that every call keeps holds in every reachable state. -/
theorem runReduce_induction
    (p : Platform)
    (Inv : ReduceState → Prop)
    (hInit : Inv ReduceState.init)
    (hStep : ∀ (call : ReduceCall) s s', Inv s → call.apply p s = .ok s' → Inv s')
    {calls : List ReduceCall}
    {s : ReduceState}
    (hRun : runReduce p calls = .ok s) :
    Inv s :=
  foldlM_apply_induction p Inv hStep calls hInit hRun

------------------------------------------------------------
-- The Pointers Stay in Step
------------------------------------------------------------

/-
  `d_reduce`, `h_reduce` and `hd_reduce` are all null, or all set:
  both buffers are live, and `hd_reduce` is the device buffer when
  the host buffer is pinned and the device alias of the host buffer
  when it is mapped.
-/
def HandlesOk
    (s : ReduceState) :
    Prop :=
  (s.dReduce = none ∧ s.hReduce = none ∧ s.hdReduce = none) ∨
  ∃ d h, s.dReduce = some d ∧ s.hReduce = some h ∧ s.runtime.Holds d .device ∧
    ((s.runtime.Holds h .pinned ∧ s.hdReduce = some (.buffer d)) ∨
      (s.runtime.Holds h .mapped ∧ s.hdReduce = some (.mapped h)))

theorem handlesOk_init : HandlesOk ReduceState.init :=
  .inl ⟨rfl, rfl, rfl⟩

/- Keeping the pointers and every live handle keeps the invariant. -/
theorem HandlesOk.mono
    {s s' : ReduceState}
    (hOk : HandlesOk s)
    (hd : s'.dReduce = s.dReduce)
    (hh : s'.hReduce = s.hReduce)
    (hhd : s'.hdReduce = s.hdReduce)
    (hLive : ∀ h kind, s.runtime.Holds h kind → s'.runtime.Holds h kind) :
    HandlesOk s' := by
  rw [HandlesOk, hd, hh, hhd]
  rcases hOk with hNull | ⟨d, h, hD, hH, hDev, hPinned | hMapped⟩
  · exact .inl hNull
  · exact .inr ⟨d, h, hD, hH, hLive _ _ hDev, .inl ⟨hLive _ _ hPinned.1, hPinned.2⟩⟩
  · exact .inr ⟨d, h, hD, hH, hLive _ _ hDev, .inr ⟨hLive _ _ hMapped.1, hMapped.2⟩⟩

/- The buffer allocations of `initReduce` set all three pointers, or none. -/
theorem handlesOk_allocBuffers
    (p : Platform)
    (bytes : Nat)
    {s : ReduceState}
    (hOk : HandlesOk s) :
    HandlesOk (allocHostBuffer p bytes (allocDeviceBuffer bytes s)) := by
  rcases hOk with ⟨hD, hH, -⟩ | ⟨d, h, hD, hH, hOk⟩
  · have hDev := s.runtime.holds_alloc_self .device bytes
    simp only [allocHostBuffer, allocDeviceBuffer, hD, hH]
    split_ifs
    · exact .inr ⟨_, _, rfl, rfl, Runtime.holds_alloc hDev _ _,
        .inr ⟨Runtime.holds_alloc_self _ _ _, rfl⟩⟩
    · exact .inr ⟨_, _, rfl, rfl, Runtime.holds_alloc hDev _ _,
        .inl ⟨Runtime.holds_alloc_self _ _ _, rfl⟩⟩
  · simp only [allocHostBuffer, allocDeviceBuffer, hD, hH]
    exact .inr ⟨d, h, hD, hH, hOk⟩

/- `initReduce` keeps the pointers in step. -/
theorem handlesOk_initReduce
    (p : Platform)
    {s s' : ReduceState}
    (hOk : HandlesOk s)
    (hInit : initReduce p s = .ok s') :
    HandlesOk s' := by
  have hBuffers := handlesOk_allocBuffers p (reduceBytes p) hOk
  simp only [initReduce, checkCudaError] at hInit
  split_ifs at hInit <;> cases hInit
  all_goals exact hBuffers.mono rfl rfl rfl fun _ _ hHolds => Runtime.holds_alloc hHolds _ _

/- `endReduce` nulls all three pointers. -/
theorem handlesOk_endReduce
    (s : ReduceState) :
    HandlesOk (endReduce s) := by
  rcases s with ⟨_ | d, _ | h⟩ <;> exact .inl ⟨rfl, rfl, rfl⟩

/- Every call keeps the pointers in step. -/
theorem handlesOk_apply
    (p : Platform)
    {s s' : ReduceState}
    (hOk : HandlesOk s) :
    ∀ call : ReduceCall, call.apply p s = .ok s' → HandlesOk s'
  | .initReduce, h => handlesOk_initReduce p hOk h
  | .endReduce, h => by cases h; exact handlesOk_endReduce s

/--
  In every state a run of `initReduce` and `endReduce` calls reaches,
  the three pointers are all null or all set, and `hd_reduce` is the
  live device buffer or the device alias of the live mapped host
  buffer.
-/
theorem reduceBuffers_handlesOk
    (p : Platform)
    (calls : List ReduceCall)
    (s : ReduceState)
    (hRun : runReduce p calls = .ok s) :
    HandlesOk s :=
  runReduce_induction p HandlesOk handlesOk_init
    (fun call _ _ hOk => handlesOk_apply p hOk call) hRun

/- A 64-bit build on a device that cannot map host memory. -/
def pinnedPlatform : Platform :=
  ⟨80, false, true, none, 16, 4⟩

/- The state after initialisation, teardown and a second initialisation. -/
def reinitialised : ReduceState :=
  ⟨some 4, some 5, some (.buffer 4), 6, false,
    ⟨7, [⟨6, .event, 0⟩, ⟨5, .pinned, reduceBytes pinnedPlatform⟩,
      ⟨4, .device, reduceBytes pinnedPlatform⟩], [], false⟩⟩

theorem reduceBuffers_handlesOk_pinned :
    runReduce pinnedPlatform [.initReduce, .endReduce, .initReduce] = .ok reinitialised ∧
    HandlesOk reinitialised :=
  ⟨rfl, reduceBuffers_handlesOk pinnedPlatform [.initReduce, .endReduce, .initReduce] _ rfl⟩

------------------------------------------------------------
-- The Completion Event
------------------------------------------------------------

/-
  `reduceEnd` is created by every `initReduce` and destroyed by every
  `endReduce` without being nulled: a second `initReduce` succeeds and
  creates a second event, which outlives the teardown, and a second
  `endReduce` destroys the destroyed event again.
-/
theorem reduceEnd_leaks_and_is_destroyed_twice
    (p : Platform) :
    (runReduce p [.initReduce, .initReduce]).map (·.runtime.liveEvents) = .ok 2 ∧
    (runReduce p [.initReduce, .initReduce, .endReduce]).map (·.runtime.liveEvents) = .ok 1 ∧
    (runReduce p [.initReduce, .endReduce, .endReduce]).map (·.runtime.faults) = .ok [3] := by
  simp only [runReduce, List.foldlM_cons, List.foldlM_nil, ReduceCall.apply, initReduce,
    allocDeviceBuffer, allocHostBuffer, ReduceState.init]
  split_ifs <;> simp [checkCudaError, Runtime.init, Runtime.alloc, Runtime.release, endReduce,
    Runtime.liveEvents, Except.map, bind, Except.bind, pure, Except.pure]

------------------------------------------------------------
-- The Buffers Neither Leak Nor Are Freed Twice
------------------------------------------------------------

/- Every live allocation that is not an event is the one a pointer holds. -/
def BuffersOwned
    (s : ReduceState) :
    Prop :=
  ∀ r ∈ s.runtime.live, r.kind ≠ .event →
    s.dReduce = some r.handle ∨ s.hReduce = some r.handle

/- The host buffer is allocated right after the device buffer. -/
def PairedHandles
    (s : ReduceState) :
    Prop :=
  ∀ d, s.dReduce = some d → s.hReduce = some (d + 1)

/- The invariant of the buffers, with the pointers' own. -/
def BuffersSound
    (s : ReduceState) :
    Prop :=
  HandlesOk s ∧ PairedHandles s ∧ BuffersOwned s

theorem buffersSound_init : BuffersSound ReduceState.init :=
  ⟨handlesOk_init, fun _ h => Option.noConfusion h, fun _ h => absurd h (List.not_mem_nil _)⟩

theorem buffersSound_allocBuffers
    (p : Platform)
    (bytes : Nat)
    {s : ReduceState}
    (hSound : BuffersSound s) :
    BuffersSound (allocHostBuffer p bytes (allocDeviceBuffer bytes s)) := by
  obtain ⟨hOk, hPair, hOwn⟩ := hSound
  refine ⟨handlesOk_allocBuffers p bytes hOk, ?_⟩
  rcases hOk with ⟨hD, hH, -⟩ | ⟨d, h, hD, hH, -⟩
  · simp only [allocHostBuffer, allocDeviceBuffer, hD, hH]
    split_ifs
    all_goals
      refine ⟨fun d hd => by cases hd; rfl, fun r hr hKind => ?_⟩
      simp only [Runtime.alloc, List.mem_cons] at hr
      rcases hr with rfl | rfl | hr
      · exact .inr rfl
      · exact .inl rfl
      · simpa [hD, hH] using hOwn r hr hKind
  · simp only [allocHostBuffer, allocDeviceBuffer, hD, hH]
    exact ⟨hPair, hOwn⟩

theorem buffersSound_initReduce
    (p : Platform)
    {s s' : ReduceState}
    (hSound : BuffersSound s)
    (hInit : initReduce p s = .ok s') :
    BuffersSound s' := by
  obtain ⟨-, hPair, hOwn⟩ := buffersSound_allocBuffers p (reduceBytes p) hSound
  refine ⟨handlesOk_initReduce p hSound.1 hInit, ?_⟩
  simp only [initReduce, checkCudaError] at hInit
  split_ifs at hInit <;> cases hInit
  all_goals
    refine ⟨hPair, fun r hr hKind => ?_⟩
    simp only [Runtime.alloc, List.mem_cons] at hr
    rcases hr with rfl | hr
    · exact absurd rfl hKind
    · exact hOwn r hr hKind

/- `endReduce` leaves only events live. -/
theorem live_endReduce
    {s : ReduceState}
    (hOwn : BuffersOwned s) :
    ∀ r ∈ (endReduce s).runtime.live, r.kind = .event := by
  intro r hr
  by_contra hKind
  obtain ⟨hr, -⟩ := Runtime.mem_live_release hr
  rcases s with ⟨_ | d, _ | h, hd, e, f, rt⟩
  · simpa using hOwn r hr hKind
  · obtain ⟨hr, hNe⟩ := Runtime.mem_live_release hr
    simpa [Ne.symm hNe] using hOwn r hr hKind
  · obtain ⟨hr, hNe⟩ := Runtime.mem_live_release hr
    simpa [Ne.symm hNe] using hOwn r hr hKind
  · obtain ⟨hr, hNe⟩ := Runtime.mem_live_release hr
    obtain ⟨hr, hNe'⟩ := Runtime.mem_live_release hr
    simpa [Ne.symm hNe, Ne.symm hNe'] using hOwn r hr hKind

theorem buffersSound_endReduce
    {s : ReduceState}
    (hSound : BuffersSound s) :
    BuffersSound (endReduce s) := by
  refine ⟨handlesOk_endReduce s, ?_,
    fun r hr hKind => absurd (live_endReduce hSound.2.2 r hr) hKind⟩
  rcases s with ⟨_ | d, _ | h⟩ <;> exact fun _ hd => nomatch hd

/- `endReduce` releases both buffers while they are live: its only fault can be the event. -/
theorem faults_endReduce
    {s : ReduceState}
    (hSound : BuffersSound s) :
    (endReduce s).runtime.faults = s.runtime.faults ∨
      (endReduce s).runtime.faults = s.runtime.faults ++ [s.reduceEnd] := by
  obtain ⟨hOk, hPair, -⟩ := hSound
  rcases hOk with ⟨hD, hH, -⟩ | ⟨d, h, hD, hH, hDev, hHost⟩
  · simpa [endReduce, hD, hH] using Runtime.faults_release s.runtime s.reduceEnd
  · obtain ⟨kind, hHolds⟩ : ∃ kind, s.runtime.Holds h kind :=
      hHost.elim (fun hPinned => ⟨_, hPinned.1⟩) fun hMapped => ⟨_, hMapped.1⟩
    have hNe : h ≠ d := by
      have := hPair d hD
      rw [hH, Option.some_inj] at this
      omega
    have hBuffers : ((s.runtime.release d).release h).faults = s.runtime.faults := by
      rw [Runtime.faults_release_of_holds (Runtime.holds_release hHolds hNe),
        Runtime.faults_release_of_holds hDev]
    simpa [endReduce, hD, hH, hBuffers] using
      Runtime.faults_release ((s.runtime.release d).release h) s.reduceEnd

theorem buffersSound_apply
    (p : Platform)
    {s s' : ReduceState}
    (hSound : BuffersSound s) :
    ∀ call : ReduceCall, call.apply p s = .ok s' → BuffersSound s'
  | .initReduce, h => buffersSound_initReduce p hSound h
  | .endReduce, h => by cases h; exact buffersSound_endReduce hSound

/--
  The buffers keep the contract the event breaks: in every reachable
  state each live allocation is an event or a buffer a pointer holds,
  the next `endReduce` leaves only events live, and it releases no
  buffer that is not live.
-/
theorem reduceBuffers_owned
    (p : Platform)
    (calls : List ReduceCall)
    (s : ReduceState)
    (hRun : runReduce p calls = .ok s) :
    BuffersOwned s ∧ (∀ r ∈ (endReduce s).runtime.live, r.kind = .event) ∧
      ((endReduce s).runtime.faults = s.runtime.faults ∨
        (endReduce s).runtime.faults = s.runtime.faults ++ [s.reduceEnd]) :=
  have hSound := runReduce_induction p BuffersSound buffersSound_init
    (fun call _ _ hSound => buffersSound_apply p hSound call) hRun
  ⟨hSound.2.2, live_endReduce hSound.2.2, faults_endReduce hSound⟩

theorem reduceBuffers_owned_pinned :
    runReduce pinnedPlatform [.initReduce, .endReduce, .initReduce] = .ok reinitialised ∧
    BuffersOwned reinitialised ∧
    (∀ r ∈ (endReduce reinitialised).runtime.live, r.kind = .event) ∧
    ((endReduce reinitialised).runtime.faults = reinitialised.runtime.faults ∨
      (endReduce reinitialised).runtime.faults =
        reinitialised.runtime.faults ++ [reinitialised.reduceEnd]) :=
  ⟨rfl, reduceBuffers_owned pinnedPlatform [.initReduce, .endReduce, .initReduce] _ rfl⟩

end Quda
