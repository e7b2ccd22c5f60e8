import Quda.Blas.Field

/-
  The dispatch of `block_orthogonalize.cu`.  `BlockOrthogonalize` picks
  the storage types from the precisions of `V` and `B[0]`, the spin
  blocking from `V.Nspin()` and `spin_bs`, and the colours and the
  number of vectors from `V.Ncolor()` and `B.size()`; it then builds
  `BlockOrtho`, which checks the colours against the storage, counts
  the blocks and launches on the CPU or the GPU.  The kernel itself
  (`kernels/block_orthogonalize.cuh`) is not under `src/`: the model
  ends at the launch it would run.

  Every launch the dispatch reaches is one of the instantiations the
  file lists and agrees with the fields it was given, and its blocks
  split the degrees of freedom of `V`, one chiral block for each coarse
  spin.  The count `BlockOrtho` keeps for `flops()` takes two chiral
  blocks for every field of one spin: twice the blocks of the Laplace
  coarsening (`nSpin = 1`, `spin_bs = 1`).

  Main declarations:
    * `BlockOrthogonalize`, `BlockOrtho.init`, `BlockOrtho.apply`
    * `BlockOrthogonalize_launch`, `BlockOrthogonalize_blocks`
-/

namespace Quda

namespace Multigrid

------------------------------------------------------------
-- Build, Fields and Instantiations
------------------------------------------------------------

/-
  The build options the file tests, and the values of the two field
  orders it accepts.  `GPU_MULTIGRID_DOUBLE` is not among them: its
  branch calls `BlockOrthogonalize<double>`, one template argument
  where every template of the file takes at least two that the call's
  arguments cannot deduce, so no build that defines it compiles.
-/
structure Build where
  /- `GPU_MULTIGRID` -/
  multigrid : Bool
  /- `GPU_WILSON_DIRAC` -/
  wilsonDirac : Bool
  /- `GPU_STAGGERED_DIRAC` -/
  staggeredDirac : Bool
  /- `__COMPUTE_CAPABILITY__ >= 300` -/
  computeCapability300 : Bool
  /- `QUDA_SPACE_SPIN_COLOR_FIELD_ORDER` and `QUDA_FLOAT2_FIELD_ORDER` -/
  spaceSpinColorOrder : Int
  float2Order : Int

/- The types `vFloat` and `bFloat` hold a field in. -/
inductive Store
  | double
  | float
  | short
deriving DecidableEq, Repr

/- `isFixed<T>::value` -/
def Store.isFixed : Store → Bool
  | .short => true
  | _ => false

/- `sizeof(T)`, which the colour error prints. -/
def Store.size : Store → Nat
  | .double => 8
  | .float => 4
  | .short => 2

/- `QudaFieldLocation` -/
inductive Location
  | cpu
  | cuda
deriving DecidableEq, Repr

/- What the dispatch reads of a field: of `V`, or of `B[0]`. -/
structure OrthoField where
  precision : QudaPrecision
  /- `Nspin()` -/
  nSpin : Nat
  /- `Ncolor()` -/
  nColor : Nat
  /- `Ndim()` -/
  nDim : Nat
  /- `Volume()` -/
  volume : Nat
  /- `VolumeCB()` -/
  volumeCB : Nat
  /- `SiteSubset()` -/
  siteSubset : Nat
  /- `Location()` -/
  location : Location
  /- `FieldOrder()`, as its enumeration value -/
  order : Int

/- The template arguments `vFloat, bFloat, nSpin, spinBlockSize, nColor, nVec`. -/
structure Instance where
  vFloat : Store
  bFloat : Store
  nSpin : Nat
  spinBlockSize : Nat
  nColor : Nat
  nVec : Nat
deriving DecidableEq, Repr

/- The calls of `errorQuda` in the file. -/
inductive OrthoError
  | notBuilt
  | doubleNotEnabled
  | precision (v b : QudaPrecision)
  | spin (nSpin spinBs : Nat)
  | nVec (nVec : Nat)
  | nColor (nColor : Nat)
  | colorPrecision (nColor size : Nat)
  | cpuOrder (v : Int)
  | gpuOrder (v b : Int)
  | architecture
deriving DecidableEq, Repr

/- The text each error prints. -/
def OrthoError.message : OrthoError → String
  | .notBuilt => "Multigrid has not been built"
  | .doubleNotEnabled => "Double precision multigrid has not been enabled"
  | .precision v b =>
    let vp := v.toNat
    let bp := b.toNat
    s!"Unsupported precision combination V={vp} B={bp}\n"
  | .spin nSpin spinBs => s!"Unsupported nSpin {nSpin} and spinBlockSize {spinBs} combination.\n"
  | .nVec n => s!"Unsupported nVec {n}\n"
  | .nColor n => s!"Unsupported nColor {n}\n"
  | .colorPrecision n size => s!"Number of colors {n} not supported with this precision {size}\n"
  | .cpuOrder v => s!"Unsupported field order {v}\n"
  | .gpuOrder v b => s!"Unsupported field order V={v} B={b}\n"
  | .architecture => "GPU block orthogonalization not supported on this GPU architecture"

------------------------------------------------------------
-- BlockOrtho
------------------------------------------------------------

/- `for (d < Ndim) geo_blocksize *= geo_bs[d]` -/
def geoBlocksize
    (geoBs : Nat → Nat)
    (nDim : Nat) :
    Nat :=
  (List.range nDim).foldl (fun size d => size * geoBs d) 1

/- The members of `BlockOrtho` the launch reads. -/
structure BlockOrtho where
  inst : Instance
  geoBlockSize : Nat
  nBlock : Nat

/-
  The constructor of `BlockOrtho`: a fixed-point `bFloat` holds three
  colours only; `nBlock` counts two chiral blocks for every field of
  one spin.
-/
def BlockOrtho.init
    (inst : Instance)
    (V : OrthoField)
    (geoBs : Nat → Nat) :
    Except OrthoError BlockOrtho :=
  let nColor := if inst.bFloat.isFixed then 3 else inst.nColor
  if inst.nColor ≠ nColor then .error (.colorPrecision inst.nColor inst.bFloat.size)
  else
    let geoBlockSize := geoBlocksize geoBs V.nDim
    let chiralBlocks := if inst.nSpin = 1 then 2 else V.nSpin / inst.spinBlockSize
    .ok ⟨inst, geoBlockSize, V.volume / geoBlockSize * chiralBlocks⟩

/- `apply`: `blockOrthoCPU` (true) or `blockOrthoGPU` (false), by location and field order. -/
def BlockOrtho.apply
    (build : Build)
    (V B0 : OrthoField) :
    Except OrthoError Bool :=
  match V.location with
  | .cpu =>
    if V.order = build.spaceSpinColorOrder ∧ B0.order = build.spaceSpinColorOrder then .ok true
    else .error (.cpuOrder V.order)
  | .cuda =>
    if build.computeCapability300 then
      if V.order = build.float2Order ∧ B0.order = build.float2Order then .ok false
      else .error (.gpuOrder V.order B0.order)
    else .error .architecture

/-
  `defaultTuneParam`: `geoBlockSize/2` threads of each parity in x,
  the parities in y, and enough blocks for `VolumeCB()` threads.
-/
def BlockOrtho.defaultBlock
    (ortho : BlockOrtho)
    (V : OrthoField) :
    Nat × Nat :=
  (ortho.geoBlockSize / 2, V.siteSubset)

def BlockOrtho.defaultGrid
    (ortho : BlockOrtho)
    (V : OrthoField) :
    Nat :=
  (V.volumeCB + ortho.geoBlockSize / 2 - 1) / (ortho.geoBlockSize / 2)

/- The default grid has a thread in x for every site of a parity once a block holds two sites. -/
theorem BlockOrtho.volumeCB_le_defaultGrid
    (ortho : BlockOrtho)
    (V : OrthoField)
    (hGeo : 2 ≤ ortho.geoBlockSize) :
    V.volumeCB ≤ ortho.defaultGrid V * (ortho.defaultBlock V).1 := by
  unfold BlockOrtho.defaultGrid BlockOrtho.defaultBlock
  have hHalf : 0 < ortho.geoBlockSize / 2 := by omega
  generalize ortho.geoBlockSize / 2 = b at hHalf ⊢
  have hDiv := Nat.div_add_mod (V.volumeCB + b - 1) b
  have hMod := Nat.mod_lt (V.volumeCB + b - 1) hHalf
  rw [Nat.mul_comm]
  dsimp only
  omega

------------------------------------------------------------
-- The Dispatch
------------------------------------------------------------

/- What the dispatch launches, and the two numbers its verbose message prints. -/
structure Launch where
  ortho : BlockOrtho
  /- `coarseSpin` -/
  coarseSpin : Nat
  /- `numblocks` and `blocksize` of "Block Orthogonalizing %d blocks of %d length" -/
  numblocks : Nat
  blocksize : Nat
  /- `blockOrthoCPU` rather than `blockOrthoGPU` -/
  onCPU : Bool

/- `BlockOrthogonalize<vFloat, bFloat, nSpin, spinBlockSize, nColor, nVec>` -/
def BlockOrthogonalizeInst
    (build : Build)
    (inst : Instance)
    (V B0 : OrthoField)
    (geoBs : Nat → Nat) :
    Except OrthoError Launch := do
  let geoSize := geoBlocksize geoBs V.nDim
  let blocksize := if inst.spinBlockSize = 0 then geoSize * V.nColor / 2
    else geoSize * V.nColor * inst.spinBlockSize
  let chiralBlocks := if inst.spinBlockSize = 0 then 2 else V.nSpin / inst.spinBlockSize
  let numblocks := V.volume / geoSize * chiralBlocks
  let coarseSpin := if inst.nSpin = 4 ∨ inst.nSpin = 2 ∨ inst.spinBlockSize = 0 then 2 else 1
  let ortho ← BlockOrtho.init inst V geoBs
  let onCPU ← BlockOrtho.apply build V B0
  pure ⟨ortho, coarseSpin, numblocks, blocksize, onCPU⟩

/- The vector counts instantiated for each colour count. -/
def nVecs : Nat → List Nat
  | 3 => [6, 24, 32, 48]
  | 6 => [6]
  | 24 => [24, 32]
  | 32 => [32]
  | _ => []

/- `BlockOrthogonalize<vFloat, bFloat, nSpin, spinBlockSize>`: colours `V.Ncolor()/Nvec`. -/
def BlockOrthogonalizeColor
    (build : Build)
    (vFloat bFloat : Store)
    (nSpin spinBlockSize : Nat)
    (V B0 : OrthoField)
    (nVec : Nat)
    (geoBs : Nat → Nat) :
    Except OrthoError Launch :=
  let nColor := V.nColor / nVec
  if nColor = 3 ∨ nColor = 6 ∨ nColor = 24 ∨ nColor = 32 then
    if nVec ∈ nVecs nColor then
      BlockOrthogonalizeInst build ⟨vFloat, bFloat, nSpin, spinBlockSize, nColor, nVec⟩ V B0 geoBs
    else .error (.nVec nVec)
  else .error (.nColor nColor)

/- `BlockOrthogonalize<vFloat, bFloat>`: the spin blocking. -/
def BlockOrthogonalizeSpin
    (build : Build)
    (vFloat bFloat : Store)
    (V B0 : OrthoField)
    (nVec : Nat)
    (geoBs : Nat → Nat)
    (spinBs : Nat) :
    Except OrthoError Launch :=
  if V.nSpin = 2 ∧ spinBs = 1 then
    BlockOrthogonalizeColor build vFloat bFloat 2 1 V B0 nVec geoBs
  else if build.wilsonDirac ∧ V.nSpin = 4 ∧ spinBs = 2 then
    BlockOrthogonalizeColor build vFloat bFloat 4 2 V B0 nVec geoBs
  else if build.staggeredDirac ∧ V.nSpin = 1 ∧ spinBs = 0 then
    BlockOrthogonalizeColor build vFloat bFloat 1 0 V B0 nVec geoBs
  else if build.staggeredDirac ∧ V.nSpin = 1 ∧ spinBs = 1 then
    BlockOrthogonalizeColor build vFloat bFloat 1 1 V B0 nVec geoBs
  else .error (.spin V.nSpin spinBs)

/-
  `BlockOrthogonalize(V, B, fine_to_coarse, coarse_to_fine, geo_bs,
  spin_bs)`, with `B[0]` and `B.size()`, as every build that compiles
  has it: without `GPU_MULTIGRID_DOUBLE`, so double precision stops at
  its `errorQuda`.
-/
def BlockOrthogonalize
    (build : Build)
    (V B0 : OrthoField)
    (nVec : Nat)
    (geoBs : Nat → Nat)
    (spinBs : Nat) :
    Except OrthoError Launch :=
  if ¬build.multigrid then .error .notBuilt
  else if V.precision = .double ∧ B0.precision = .double then .error .doubleNotEnabled
  else if V.precision = .single ∧ B0.precision = .single then
    BlockOrthogonalizeSpin build .float .float V B0 nVec geoBs spinBs
  else if V.precision = .half ∧ B0.precision = .single then
    BlockOrthogonalizeSpin build .short .float V B0 nVec geoBs spinBs
  else if V.precision = .half ∧ B0.precision = .half then
    BlockOrthogonalizeSpin build .short .short V B0 nVec geoBs spinBs
  else .error (.precision V.precision B0.precision)

------------------------------------------------------------
-- What a Launch Is
------------------------------------------------------------

/- The storage `BlockOrthogonalize` picks for the precisions of `V` and `B[0]`. -/
def StoreFor : QudaPrecision → QudaPrecision → Store → Store → Prop
  | .single, .single, .float, .float => True
  | .half, .single, .short, .float => True
  | .half, .half, .short, .short => True
  | _, _, _, _ => False

/- The spin blockings the build instantiates. -/
def SpinFor
    (build : Build)
    (nSpin spinBlockSize : Nat) :
    Prop :=
  nSpin = 2 ∧ spinBlockSize = 1 ∨ build.wilsonDirac = true ∧ nSpin = 4 ∧ spinBlockSize = 2 ∨
    build.staggeredDirac = true ∧ nSpin = 1 ∧ spinBlockSize = 0 ∨
    build.staggeredDirac = true ∧ nSpin = 1 ∧ spinBlockSize = 1

/- The instantiations of `BlockOrtho` the file can launch. -/
structure Instance.Launchable (build : Build) (inst : Instance) : Prop where
  spin : SpinFor build inst.nSpin inst.spinBlockSize
  color : inst.nColor = 3 ∨ inst.nColor = 6 ∨ inst.nColor = 24 ∨ inst.nColor = 32
  nVec : inst.nVec ∈ nVecs inst.nColor
  fixed : inst.bFloat.isFixed = true → inst.nColor = 3

section Inversion

variable {build : Build} {V B0 : OrthoField} {geoBs : Nat → Nat} {L : Launch}

theorem BlockOrtho.init_ok
    {inst : Instance}
    {ortho : BlockOrtho}
    (h : BlockOrtho.init inst V geoBs = .ok ortho) :
    (inst.bFloat.isFixed = true → inst.nColor = 3) ∧
      ortho = ⟨inst, geoBlocksize geoBs V.nDim, V.volume / geoBlocksize geoBs V.nDim *
        (if inst.nSpin = 1 then 2 else V.nSpin / inst.spinBlockSize)⟩ := by
  unfold BlockOrtho.init at h
  by_cases hColor : inst.nColor ≠ if inst.bFloat.isFixed then 3 else inst.nColor
  · rw [if_pos hColor] at h
    cases h
  · rw [if_neg hColor] at h
    cases h
    exact ⟨fun hFixed => by simpa [hFixed] using hColor, rfl⟩

theorem BlockOrtho.apply_ok
    {onCPU : Bool}
    (h : BlockOrtho.apply build V B0 = .ok onCPU) :
    (onCPU = true ↔ V.location = .cpu) := by
  unfold BlockOrtho.apply at h
  split at h <;> split_ifs at h <;> cases h <;> simp_all

theorem BlockOrthogonalizeInst_ok
    {inst : Instance}
    (h : BlockOrthogonalizeInst build inst V B0 geoBs = .ok L) :
    (inst.bFloat.isFixed = true → inst.nColor = 3) ∧ (L.onCPU = true ↔ V.location = .cpu) ∧
      L.ortho = ⟨inst, geoBlocksize geoBs V.nDim, V.volume / geoBlocksize geoBs V.nDim *
        (if inst.nSpin = 1 then 2 else V.nSpin / inst.spinBlockSize)⟩ ∧
      L.coarseSpin = (if inst.nSpin = 4 ∨ inst.nSpin = 2 ∨ inst.spinBlockSize = 0 then 2 else 1) ∧
      L.numblocks = V.volume / geoBlocksize geoBs V.nDim *
        (if inst.spinBlockSize = 0 then 2 else V.nSpin / inst.spinBlockSize) ∧
      L.blocksize = (if inst.spinBlockSize = 0 then geoBlocksize geoBs V.nDim * V.nColor / 2
        else geoBlocksize geoBs V.nDim * V.nColor * inst.spinBlockSize) := by
  simp only [BlockOrthogonalizeInst, bind, Except.bind] at h
  split at h
  · cases h
  rename_i ortho hInit
  split at h
  · cases h
  rename_i onCPU hApply
  cases h
  obtain ⟨hFixed, rfl⟩ := BlockOrtho.init_ok hInit
  exact ⟨hFixed, BlockOrtho.apply_ok hApply, rfl, rfl, rfl, rfl⟩

theorem BlockOrthogonalizeColor_ok
    {vFloat bFloat : Store}
    {nSpin spinBlockSize nVec : Nat}
    (h : BlockOrthogonalizeColor build vFloat bFloat nSpin spinBlockSize V B0 nVec geoBs = .ok L) :
    (V.nColor / nVec = 3 ∨ V.nColor / nVec = 6 ∨ V.nColor / nVec = 24 ∨ V.nColor / nVec = 32) ∧
      nVec ∈ nVecs (V.nColor / nVec) ∧
      BlockOrthogonalizeInst build ⟨vFloat, bFloat, nSpin, spinBlockSize, V.nColor / nVec, nVec⟩
        V B0 geoBs = .ok L := by
  dsimp only [BlockOrthogonalizeColor] at h
  split_ifs at h with hColor hVec
  exact ⟨hColor, hVec, h⟩

theorem BlockOrthogonalizeSpin_ok
    {vFloat bFloat : Store}
    {nVec spinBs : Nat}
    (h : BlockOrthogonalizeSpin build vFloat bFloat V B0 nVec geoBs spinBs = .ok L) :
    SpinFor build V.nSpin spinBs ∧
      BlockOrthogonalizeColor build vFloat bFloat V.nSpin spinBs V B0 nVec geoBs = .ok L := by
  unfold BlockOrthogonalizeSpin at h
  split_ifs at h with h1 h2 h3 h4
  · obtain ⟨hS, rfl⟩ := h1
    exact ⟨.inl ⟨hS, rfl⟩, hS ▸ h⟩
  · obtain ⟨hW, hS, rfl⟩ := h2
    exact ⟨.inr (.inl ⟨hW, hS, rfl⟩), hS ▸ h⟩
  · obtain ⟨hG, hS, rfl⟩ := h3
    exact ⟨.inr (.inr (.inl ⟨hG, hS, rfl⟩)), hS ▸ h⟩
  · obtain ⟨hG, hS, rfl⟩ := h4
    exact ⟨.inr (.inr (.inr ⟨hG, hS, rfl⟩)), hS ▸ h⟩

theorem BlockOrthogonalize_ok
    {nVec spinBs : Nat}
    (h : BlockOrthogonalize build V B0 nVec geoBs spinBs = .ok L) :
    ∃ vFloat bFloat, StoreFor V.precision B0.precision vFloat bFloat ∧
      BlockOrthogonalizeSpin build vFloat bFloat V B0 nVec geoBs spinBs = .ok L := by
  unfold BlockOrthogonalize at h
  split_ifs at h with hBuilt hDouble hSingle hHalfSingle hHalf
  · exact ⟨_, _, by rw [hSingle.1, hSingle.2]; trivial, h⟩
  · exact ⟨_, _, by rw [hHalfSingle.1, hHalfSingle.2]; trivial, h⟩
  · exact ⟨_, _, by rw [hHalf.1, hHalf.2]; trivial, h⟩

end Inversion

------------------------------------------------------------
-- Launches and Their Blocks
------------------------------------------------------------

section Launches

variable {build : Build} {V B0 : OrthoField} {nVec : Nat} {geoBs : Nat → Nat} {spinBs : Nat}
  {L : Launch}

/-
  A launch of `BlockOrthogonalize` is one of the instantiations the file
  lists, with the storage of the precisions of `V` and `B[0]`, the spin
  blocking `V.Nspin()` and `spin_bs`, `B.size()` vectors and
  `V.Ncolor()/B.size()` colours (the integer quotient: `Ncolor()` need
  not be a multiple of `B.size()`), and it runs on the CPU exactly for
  a field there.
-/
theorem BlockOrthogonalize_launch
    (h : BlockOrthogonalize build V B0 nVec geoBs spinBs = .ok L) :
    L.ortho.inst.Launchable build ∧
      StoreFor V.precision B0.precision L.ortho.inst.vFloat L.ortho.inst.bFloat ∧
      L.ortho.inst.nSpin = V.nSpin ∧ L.ortho.inst.spinBlockSize = spinBs ∧
      L.ortho.inst.nVec = nVec ∧ L.ortho.inst.nColor = V.nColor / nVec ∧
      (L.onCPU = true ↔ V.location = .cpu) := by
  obtain ⟨vFloat, bFloat, hStore, h⟩ := BlockOrthogonalize_ok h
  obtain ⟨hSpin, h⟩ := BlockOrthogonalizeSpin_ok h
  obtain ⟨hColor, hVec, h⟩ := BlockOrthogonalizeColor_ok h
  obtain ⟨hFixed, hCPU, hOrtho, -⟩ := BlockOrthogonalizeInst_ok h
  rw [hOrtho]
  exact ⟨⟨hSpin, hColor, hVec, hFixed⟩, hStore, rfl, rfl, rfl, rfl, hCPU⟩

/- A build with every option but double-precision multigrid; the field orders are placeholders. -/
def sampleBuild : Build := ⟨true, true, true, true, 5, 2⟩

/- Twenty-four Wilson null vectors of three colours in `V`, on 256 sites in single precision. -/
def sampleV : OrthoField := ⟨.single, 4, 72, 4, 256, 128, 2, .cuda, 2⟩

def sampleB : OrthoField := ⟨.single, 4, 3, 4, 256, 128, 2, .cuda, 2⟩

/- Blocks of 2^4 sites and two spins: 32 blocks of 2304 entries. -/
def sampleLaunch : Launch := ⟨⟨⟨.float, .float, 4, 2, 3, 24⟩, 16, 32⟩, 2, 32, 2304, false⟩

theorem BlockOrthogonalize_launch_wilson :
    BlockOrthogonalize sampleBuild sampleV sampleB 24 (fun _ => 2) 2 = .ok sampleLaunch ∧
      sampleLaunch.ortho.inst.Launchable sampleBuild ∧
      StoreFor sampleV.precision sampleB.precision sampleLaunch.ortho.inst.vFloat
        sampleLaunch.ortho.inst.bFloat ∧
      sampleLaunch.ortho.inst.nSpin = sampleV.nSpin ∧ sampleLaunch.ortho.inst.spinBlockSize = 2 ∧
      sampleLaunch.ortho.inst.nVec = 24 ∧ sampleLaunch.ortho.inst.nColor = sampleV.nColor / 24 ∧
      (sampleLaunch.onCPU = true ↔ sampleV.location = .cpu) :=
  have h : BlockOrthogonalize sampleBuild sampleV sampleB 24 (fun _ => 2) 2 =
      .ok sampleLaunch := rfl
  ⟨h, BlockOrthogonalize_launch h⟩

/-
  The blocks of a launch split the degrees of freedom of `V` when the
  geometric block divides the volume (and, for the staggered blocking,
  holds an even number of colour entries): `numblocks` blocks of
  `blocksize` entries, one chiral block for each coarse spin.  The
  `nBlock` of `BlockOrtho`, which `flops()` counts, is `numblocks`
  except for the Laplace blocking (`nSpin = 1`, `spin_bs = 1`), where
  it is twice that.
-/
theorem BlockOrthogonalize_blocks
    (h : BlockOrthogonalize build V B0 nVec geoBs spinBs = .ok L)
    (hGeo : geoBlocksize geoBs V.nDim ∣ V.volume)
    (hEven : spinBs = 0 → 2 ∣ geoBlocksize geoBs V.nDim * V.nColor) :
    L.numblocks = V.volume / L.ortho.geoBlockSize * L.coarseSpin ∧
      L.numblocks * L.blocksize = V.volume * V.nColor * V.nSpin ∧
      L.ortho.nBlock = (if V.nSpin = 1 ∧ spinBs = 1 then 2 else 1) * L.numblocks := by
  obtain ⟨vFloat, bFloat, -, h⟩ := BlockOrthogonalize_ok h
  obtain ⟨hSpin, h⟩ := BlockOrthogonalizeSpin_ok h
  obtain ⟨-, -, h⟩ := BlockOrthogonalizeColor_ok h
  obtain ⟨-, -, hOrtho, hCoarse, hNum, hSize⟩ := BlockOrthogonalizeInst_ok h
  rw [hOrtho, hCoarse, hNum, hSize]
  dsimp only
  clear hOrtho hCoarse hNum hSize h
  have hVol := Nat.mul_div_cancel' hGeo
  generalize geoBlocksize geoBs V.nDim = g at hVol hEven ⊢
  generalize V.volume / g = q at hVol ⊢
  rw [← hVol]
  rcases hSpin with ⟨hS, rfl⟩ | ⟨-, hS, rfl⟩ | ⟨-, hS, rfl⟩ | ⟨-, hS, rfl⟩
  · -- a coarse field: two chiral blocks of one spin
    simp only [hS]
    refine ⟨by norm_num, by norm_num; ring, by norm_num⟩
  · -- a Wilson field: two chiral blocks of two spins
    simp only [hS]
    refine ⟨by norm_num, by norm_num; ring, by norm_num⟩
  · -- the staggered blocking halves the colour entries of a block
    obtain ⟨m, hm⟩ := hEven rfl
    simp only [hS, hm, Nat.mul_div_cancel_left m two_pos]
    refine ⟨by norm_num, ?_, by norm_num⟩
    rw [show g * q * V.nColor * 1 = q * (g * V.nColor) by ring, hm]
    norm_num
    ring
  · -- the Laplace blocking: one chiral block, counted twice in `nBlock`
    simp only [hS]
    refine ⟨by norm_num, by norm_num; ring, by norm_num; ring⟩

/- The Laplace blocking of a one-spin `V`: 16 blocks, which `nBlock` counts as 32. -/
def sampleLaplaceV : OrthoField := ⟨.single, 1, 72, 4, 256, 128, 2, .cuda, 2⟩

def sampleLaplaceLaunch : Launch := ⟨⟨⟨.float, .float, 1, 1, 3, 24⟩, 16, 32⟩, 1, 16, 1152, false⟩

theorem BlockOrthogonalize_blocks_laplace :
    BlockOrthogonalize sampleBuild sampleLaplaceV sampleB 24 (fun _ => 2) 1 =
        .ok sampleLaplaceLaunch ∧
      geoBlocksize (fun _ => 2) sampleLaplaceV.nDim ∣ sampleLaplaceV.volume ∧
      (1 = 0 → 2 ∣ geoBlocksize (fun _ => 2) sampleLaplaceV.nDim * sampleLaplaceV.nColor) ∧
      sampleLaplaceLaunch.numblocks =
        sampleLaplaceV.volume / sampleLaplaceLaunch.ortho.geoBlockSize *
          sampleLaplaceLaunch.coarseSpin ∧
      sampleLaplaceLaunch.numblocks * sampleLaplaceLaunch.blocksize =
        sampleLaplaceV.volume * sampleLaplaceV.nColor * sampleLaplaceV.nSpin ∧
      sampleLaplaceLaunch.ortho.nBlock =
        (if sampleLaplaceV.nSpin = 1 ∧ 1 = 1 then 2 else 1) * sampleLaplaceLaunch.numblocks :=
  have h : BlockOrthogonalize sampleBuild sampleLaplaceV sampleB 24 (fun _ => 2) 1 =
      .ok sampleLaplaceLaunch := rfl
  have hGeo : geoBlocksize (fun _ => 2) sampleLaplaceV.nDim ∣ sampleLaplaceV.volume := by decide
  have hEven : 1 = 0 → 2 ∣ geoBlocksize (fun _ => 2) sampleLaplaceV.nDim * sampleLaplaceV.nColor :=
    by decide
  ⟨h, hGeo, hEven, BlockOrthogonalize_blocks h hGeo hEven⟩

end Launches

end Multigrid

end Quda
