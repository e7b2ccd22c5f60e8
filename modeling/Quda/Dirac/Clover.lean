import Quda.Blas.Field

/-
  The clover Wilson dslash (`CloverDslashCuda` and `cloverDslashCuda`).
  The kernels, `DslashCuda` and the dslash policy that runs the
  kernels are not under `src/`.  What is here is the dispatch that
  sets a clover dslash up and the clover terms that its `flops()` and
  `bytes()` add to those of `DslashCuda`.

  A dslash split over its communicated dimensions runs the interior
  kernel and one exterior kernel for each communicated dimension.  The
  interior kernel leaves out `2 GhostFace()[d]` sites of every
  communicated dimension `d`, and the exterior kernel of `d` does them.
  Over such a run the clover bytes add up to those of the whole
  volume.  The clover flops of an exterior kernel count one face of
  its dimension only, so the run counts `504 GhostFace()[d]` flops too
  few for each communicated dimension.  The fused exterior kernel
  counts the faces of all four dimensions, communicated or not.

  Main declarations:
    * `cloverCount`, `CloverDslashCuda.flops`, `CloverDslashCuda.bytes`,
      `IntProductsFit`
    * `cloverDslashCuda`
    * `cloverDslash_split_counts`, `cloverDslash_fused_counts`,
      `cloverDslash_policy_flops_wrap`
-/

namespace Quda

namespace CloverDslash

------------------------------------------------------------
-- Kernels and Their Counts
------------------------------------------------------------

/- `dslashParam.kernel_type`; `EXTERIOR_KERNEL_X` to `_T` index `GhostFace()` by their value. -/
inductive KernelType
  | interior
  | exterior (d : Fin 4)
  | exteriorAll
  | policy
deriving DecidableEq, Repr

/- What `flops()` and `bytes()` read of the input spinor `in`. -/
structure CloverSpinor where
  precision : QudaPrecision
  /- `VolumeCB()` -/
  volumeCB : Nat
  /- `GhostFace()`: the sites of one face of each dimension -/
  ghostFace : Fin 4 → Nat

/-
  `for (d < 4) if (dslashParam.commDim[d]) ghost_sites += 2 * in->GhostFace()[d]`:
  a `long long` sum of `int` products.
-/
def ghostSites
    (commDim : Fin 4 → Bool)
    (ghostFace : Fin 4 → Nat) :
    Int :=
  (List.finRange 4).foldl
    (fun sites d => if commDim d then sites + intMul 2 (ghostFace d) else sites) 0

/-
  The clover term of `flops()` and of `bytes()`: `perSite` for each
  site, and `faces` faces of its dimension for an exterior kernel.
  The interior kernel takes out the ghost sites of the communicated
  dimensions; `KERNEL_POLICY` counts the whole volume.  The products
  with `GhostFace()` and `VolumeCB()` are of C `int`s; the `int` sum of
  the four faces wraps as the product does, so wrapping the exact
  product once gives the value the code computes.
-/
def cloverCount
    (perSite : Int)
    (faces : Nat)
    (inp : CloverSpinor)
    (commDim : Fin 4 → Bool) :
    KernelType → Int
  | .exterior d => intMul (perSite * faces) (inp.ghostFace d)
  | .exteriorAll => intMul (perSite * 2)
      (inp.ghostFace 0 + inp.ghostFace 1 + inp.ghostFace 2 + inp.ghostFace 3)
  | .interior => intMul perSite inp.volumeCB - perSite * ghostSites commDim inp.ghostFace
  | .policy => intMul perSite inp.volumeCB

/- `clover_flops` -/
def cloverFlops : Int := 504

/- `clover_bytes`: 72 numbers a site, and two `float` norms in half precision. -/
def cloverBytes
    (precision : QudaPrecision) :
    Int :=
  72 * precision.toNat + (if precision.toNat = 2 then 2 * 4 else 0)

/- `CloverDslashCuda::flops()`: one face of an exterior kernel's dimension. -/
def CloverDslashCuda.flops
    (dslashFlops : Int)
    (inp : CloverSpinor)
    (commDim : Fin 4 → Bool)
    (kernelType : KernelType) :
    Int :=
  dslashFlops + cloverCount cloverFlops 1 inp commDim kernelType

/- `CloverDslashCuda::bytes()`: both faces of an exterior kernel's dimension. -/
def CloverDslashCuda.bytes
    (dslashBytes : Int)
    (inp : CloverSpinor)
    (commDim : Fin 4 → Bool)
    (kernelType : KernelType) :
    Int :=
  dslashBytes + cloverCount (cloverBytes inp.precision) 2 inp commDim kernelType

/-
  The kernels of a dslash split over its communicated dimensions, as
  the interior kernel's correction takes them: the interior kernel and
  one exterior kernel for each communicated dimension.
-/
def splitKernels
    (commDim : Fin 4 → Bool) :
    List KernelType :=
  .interior :: ((List.finRange 4).filter commDim).map .exterior

/- The interior kernel and the fused exterior kernel. -/
def fusedKernels : List KernelType :=
  [.interior, .exteriorAll]

/- The sites of one face of each communicated dimension. -/
def commFaces
    (inp : CloverSpinor)
    (commDim : Fin 4 → Bool) :
    Int :=
  ∑ d, if commDim d then (inp.ghostFace d : Int) else 0

/- The sites of one face of each dimension that is not communicated. -/
def localFaces
    (inp : CloverSpinor)
    (commDim : Fin 4 → Bool) :
    Int :=
  ∑ d, if commDim d then 0 else (inp.ghostFace d : Int)

/-
  The `int` products of a clover count with `perSite` a site do not
  wrap: the one with the volume and the one with all four faces are
  below `2^31`, and so are those with fewer faces.
-/
def IntProductsFit
    (perSite : Int)
    (inp : CloverSpinor) :
    Prop :=
  0 < perSite ∧ perSite * inp.volumeCB < 2 ^ 31 ∧
    perSite * 2 * (inp.ghostFace 0 + inp.ghostFace 1 + inp.ghostFace 2 + inp.ghostFace 3) <
      2 ^ 31

instance (perSite : Int) (inp : CloverSpinor) : Decidable (IntProductsFit perSite inp) :=
  inferInstanceAs (Decidable (_ ∧ _ ∧ _))

section Counts

variable {commDim : Fin 4 → Bool} {inp : CloverSpinor} {perSite : Int}

/- A face is at most the four faces together. -/
theorem ghostFace_le_sum
    (inp : CloverSpinor)
    (d : Fin 4) :
    (inp.ghostFace d : Int) ≤
      inp.ghostFace 0 + inp.ghostFace 1 + inp.ghostFace 2 + inp.ghostFace 3 := by
  fin_cases d <;> simp only [Fin.zero_eta, Fin.mk_one, Fin.reduceFinMk] <;> omega

/- Up to two faces of one dimension fit when all four faces do. -/
theorem IntProductsFit.face_lt
    (hFit : IntProductsFit perSite inp)
    {faces : Nat}
    (hFaces : faces ≤ 2)
    (d : Fin 4) :
    perSite * faces * inp.ghostFace d < 2 ^ 31 :=
  calc perSite * faces * inp.ghostFace d
      ≤ perSite * 2 * (inp.ghostFace 0 + inp.ghostFace 1 + inp.ghostFace 2 + inp.ghostFace 3) :=
        mul_le_mul (mul_le_mul_of_nonneg_left (by exact_mod_cast hFaces) hFit.1.le)
          (ghostFace_le_sum inp d) (by positivity) (by linarith [hFit.1])
    _ < 2 ^ 31 := hFit.2.2

/- With no product wrapping, `ghost_sites` is two faces of each communicated dimension. -/
theorem ghostSites_eq
    (hFit : IntProductsFit perSite inp) :
    ghostSites commDim inp.ghostFace = 2 * commFaces inp commDim := by
  have hStep : ∀ (l : List (Fin 4)) (init : Int),
      l.foldl (fun sites d => if commDim d then sites + intMul 2 (inp.ghostFace d) else sites)
        init =
          init + 2 * (l.map fun d => if commDim d then (inp.ghostFace d : Int) else 0).sum := by
    intro l
    induction l with
    | nil => simp
    | cons d l ih =>
      intro init
      have hTwo : intMul 2 (inp.ghostFace d) = 2 * inp.ghostFace d := by
        refine intMul_of_lt (by positivity) (lt_of_le_of_lt ?_ (hFit.face_lt (le_refl 2) d))
        push_cast
        rw [mul_assoc]
        exact le_mul_of_one_le_left (by positivity) (by have := hFit.1; omega)
      rw [List.foldl_cons, ih, List.map_cons, List.sum_cons]
      split_ifs
      · rw [hTwo]
        ring
      · ring
  rw [ghostSites, hStep, commFaces, Fin.sum_univ_def, zero_add]

/- A sum over the communicated dimensions, as a sum over all four. -/
theorem sum_map_filter_finRange
    (commDim : Fin 4 → Bool)
    (h : Fin 4 → Int) :
    (((List.finRange 4).filter commDim).map h).sum = ∑ d, if commDim d then h d else 0 := by
  rw [Fin.sum_univ_def, List.sum_map_ite, List.map_const', List.sum_replicate, smul_zero,
    add_zero]
  simp only [Bool.decide_eq_true]

/- Every dimension is communicated or local. -/
theorem commFaces_add_localFaces
    (commDim : Fin 4 → Bool)
    (inp : CloverSpinor) :
    commFaces inp commDim + localFaces inp commDim =
      inp.ghostFace 0 + inp.ghostFace 1 + inp.ghostFace 2 + inp.ghostFace 3 := by
  rw [commFaces, localFaces, ← Finset.sum_add_distrib, Fin.sum_univ_four]
  simp only [ite_add_ite, zero_add, add_zero, ite_self]

/- With no product wrapping, the volume term is exact. -/
theorem intMul_volumeCB
    (hFit : IntProductsFit perSite inp) :
    intMul perSite inp.volumeCB = perSite * inp.volumeCB :=
  intMul_of_lt (mul_nonneg hFit.1.le (by positivity)) hFit.2.1

/-
  The clover term over a split dslash with no product wrapping:
  `2 - faces` faces of each communicated dimension short of the whole
  volume.
-/
theorem sum_cloverCount_splitKernels
    (hFit : IntProductsFit perSite inp)
    {faces : Nat}
    (hFaces : faces ≤ 2) :
    ((splitKernels commDim).map (cloverCount perSite faces inp commDim)).sum =
      perSite * inp.volumeCB - perSite * (2 - faces) * commFaces inp commDim := by
  have hExterior : ((((List.finRange 4).filter commDim).map .exterior).map
      (cloverCount perSite faces inp commDim)).sum = perSite * faces * commFaces inp commDim := by
    rw [List.map_map, sum_map_filter_finRange, commFaces, Finset.mul_sum]
    refine Finset.sum_congr rfl fun d _ => ?_
    split_ifs
    · exact intMul_of_lt (mul_nonneg (mul_nonneg hFit.1.le (by positivity)) (by positivity))
        (hFit.face_lt hFaces d)
    · exact (mul_zero _).symm
  rw [splitKernels, List.map_cons, List.sum_cons, hExterior]
  simp only [cloverCount, intMul_volumeCB hFit, ghostSites_eq hFit]
  ring

/-
  The clover term over a fused dslash with no product wrapping: two
  faces too many of each local dimension.
-/
theorem sum_cloverCount_fusedKernels
    (hFit : IntProductsFit perSite inp)
    (faces : Nat) :
    (fusedKernels.map (cloverCount perSite faces inp commDim)).sum =
      perSite * inp.volumeCB + perSite * 2 * localFaces inp commDim := by
  have hAll : intMul (perSite * 2)
      (inp.ghostFace 0 + inp.ghostFace 1 + inp.ghostFace 2 + inp.ghostFace 3) =
        perSite * 2 * (commFaces inp commDim + localFaces inp commDim) := by
    rw [commFaces_add_localFaces]
    exact intMul_of_lt (mul_nonneg (by linarith [hFit.1]) (by positivity)) hFit.2.2
  simp only [fusedKernels, List.map_cons, List.map_nil, List.sum_cons, List.sum_nil, cloverCount,
    intMul_volumeCB hFit, ghostSites_eq hFit, hAll]
  ring

end Counts

------------------------------------------------------------
-- Counts of One Dslash
------------------------------------------------------------

section Dslash

variable (dslashFlops dslashBytes : KernelType → Int) {inp : CloverSpinor}
  (commDim : Fin 4 → Bool)

/-
  Over a dslash split into its interior kernel and one exterior kernel
  for each communicated dimension, and while no `int` product of the
  counts wraps, the clover bytes add up to those of the whole volume,
  as `KERNEL_POLICY` counts them.  The clover flops fall short of that
  by `504 GhostFace()[d]` for each communicated dimension `d`: an
  exterior kernel counts one face of its dimension, where its bytes
  and the interior kernel's correction take two.
-/
theorem cloverDslash_split_counts
    (hFlops : IntProductsFit cloverFlops inp)
    (hBytes : IntProductsFit (cloverBytes inp.precision) inp) :
    ((splitKernels commDim).map fun k => CloverDslashCuda.bytes (dslashBytes k) inp commDim k).sum =
        ((splitKernels commDim).map dslashBytes).sum + cloverBytes inp.precision * inp.volumeCB ∧
      ((splitKernels commDim).map fun k =>
          CloverDslashCuda.flops (dslashFlops k) inp commDim k).sum =
        ((splitKernels commDim).map dslashFlops).sum +
          cloverFlops * (inp.volumeCB - commFaces inp commDim) := by
  simp only [CloverDslashCuda.bytes, CloverDslashCuda.flops, List.sum_map_add,
    sum_cloverCount_splitKernels hBytes le_rfl, sum_cloverCount_splitKernels hFlops one_le_two]
  constructor <;> ring

/- A 16^4 lattice, in single precision. -/
def sampleSpinor : CloverSpinor :=
  ⟨.single, 32768, fun _ => 2048⟩

/- The lattice partitioned in t. -/
theorem cloverDslash_split_counts_sample :
    IntProductsFit cloverFlops sampleSpinor ∧
      IntProductsFit (cloverBytes sampleSpinor.precision) sampleSpinor ∧
      ((splitKernels (· == 3)).map fun k =>
          CloverDslashCuda.bytes 0 sampleSpinor (· == 3) k).sum =
        ((splitKernels (· == 3)).map fun _ => 0).sum +
          cloverBytes sampleSpinor.precision * sampleSpinor.volumeCB ∧
      ((splitKernels (· == 3)).map fun k =>
          CloverDslashCuda.flops 0 sampleSpinor (· == 3) k).sum =
        ((splitKernels (· == 3)).map fun _ => 0).sum +
          cloverFlops * (sampleSpinor.volumeCB - commFaces sampleSpinor (· == 3)) :=
  have hFlops : IntProductsFit cloverFlops sampleSpinor := by decide
  have hBytes : IntProductsFit (cloverBytes sampleSpinor.precision) sampleSpinor := by decide
  ⟨hFlops, hBytes, cloverDslash_split_counts (fun _ => 0) (fun _ => 0) (· == 3) hFlops hBytes⟩

/- The split run counts `504 * 2048` clover flops too few there. -/
example : cloverFlops * commFaces sampleSpinor (· == 3) = 1032192 := by
  decide

/-
  Over a dslash with the fused exterior kernel, and while no `int`
  product of the counts wraps, both clover counts add up to those of
  the whole volume and of two faces of each dimension that is not
  communicated: the fused kernel counts the faces of all four
  dimensions.
-/
theorem cloverDslash_fused_counts
    (hFlops : IntProductsFit cloverFlops inp)
    (hBytes : IntProductsFit (cloverBytes inp.precision) inp) :
    (fusedKernels.map fun k => CloverDslashCuda.bytes (dslashBytes k) inp commDim k).sum =
        (fusedKernels.map dslashBytes).sum +
          cloverBytes inp.precision * (inp.volumeCB + 2 * localFaces inp commDim) ∧
      (fusedKernels.map fun k => CloverDslashCuda.flops (dslashFlops k) inp commDim k).sum =
        (fusedKernels.map dslashFlops).sum +
          cloverFlops * (inp.volumeCB + 2 * localFaces inp commDim) := by
  simp only [CloverDslashCuda.bytes, CloverDslashCuda.flops, List.sum_map_add,
    sum_cloverCount_fusedKernels hBytes, sum_cloverCount_fusedKernels hFlops]
  constructor <;> ring

theorem cloverDslash_fused_counts_sample :
    IntProductsFit cloverFlops sampleSpinor ∧
      IntProductsFit (cloverBytes sampleSpinor.precision) sampleSpinor ∧
      (fusedKernels.map fun k => CloverDslashCuda.bytes 0 sampleSpinor (· == 3) k).sum =
        (fusedKernels.map fun _ => 0).sum + cloverBytes sampleSpinor.precision *
          (sampleSpinor.volumeCB + 2 * localFaces sampleSpinor (· == 3)) ∧
      (fusedKernels.map fun k => CloverDslashCuda.flops 0 sampleSpinor (· == 3) k).sum =
        (fusedKernels.map fun _ => 0).sum +
          cloverFlops * (sampleSpinor.volumeCB + 2 * localFaces sampleSpinor (· == 3)) :=
  have hFlops : IntProductsFit cloverFlops sampleSpinor := by decide
  have hBytes : IntProductsFit (cloverBytes sampleSpinor.precision) sampleSpinor := by decide
  ⟨hFlops, hBytes, cloverDslash_fused_counts (fun _ => 0) (fun _ => 0) (· == 3) hFlops hBytes⟩

/- A `48^3 x 96` lattice held by one GPU, in single precision. -/
def sampleLargeSpinor : CloverSpinor :=
  ⟨.single, 5308416, fun d => if d = 3 then 55296 else 110592⟩

/- The policy kernel there reports a negative flop count. -/
example : CloverDslashCuda.flops 0 sampleLargeSpinor (fun _ => false) .policy = -1619525632 := by
  decide

end Dslash

------------------------------------------------------------
-- Setting a Dslash Up
------------------------------------------------------------

/- `CloverDslashCuda::apply`: `tProjScale`, and the block and grid of each dimension. -/
structure ApplyParam where
  tProjScale : Nat
  block : Fin 4 → Nat
  grid : Fin 4 → Nat

/- `CloverDslashCuda::apply`, from `getKernelPackT()`, `tp.aux` and `in->X()`. -/
def CloverDslashCuda.apply
    (kernelPackT : Bool)
    (aux X : Fin 4 → Nat) :
    ApplyParam :=
  ⟨if kernelPackT then 1 else 2, aux, fun i => (if i = 0 then 2 else 1) * X i / aux i⟩

/- A block that divides the extent of its dimension (twice `X(0)` in x) tiles it with the grid. -/
theorem CloverDslashCuda.apply_grid_mul_block
    (kernelPackT : Bool)
    (aux X : Fin 4 → Nat)
    (i : Fin 4)
    (hDvd : aux i ∣ (if i = 0 then 2 else 1) * X i) :
    (CloverDslashCuda.apply kernelPackT aux X).grid i *
        (CloverDslashCuda.apply kernelPackT aux X).block i =
      (if i = 0 then 2 else 1) * X i :=
  Nat.div_mul_cancel hDvd

/- The vector types `CloverDslashCuda<sFloat, gFloat, cFloat>` is instantiated with. -/
inductive VecType
  | double2
  | float4
  | short4
deriving DecidableEq, Repr

/- The calls of `errorQuda` in `cloverDslashCuda`. -/
inductive CloverError
  | gaugePrecision
  | cloverPrecision
  | notBuilt
deriving DecidableEq, Repr

/- The text each error prints. -/
def CloverError.message : CloverError → String
  | .gaugePrecision => "Mixing gauge and spinor precision not supported"
  | .cloverPrecision => "Mixing clover and spinor precision not supported"
  | .notBuilt => "Clover dslash has not been built"

/- What `cloverDslashCuda` sets in `dslashParam` and hands to the dslash policy. -/
structure CloverSetup where
  /- `dslashParam.ghostDim` -/
  ghostDim : Fin 4 → Bool
  /- `dslashParam.commDim` -/
  commDim : Fin 4 → Bool
  /- `sFloat`, `gFloat` and `cFloat` of the `CloverDslashCuda` built -/
  vecType : VecType
  /- `regSize` -/
  regSize : Nat

/-
  `cloverDslashCuda`, from `GPU_CLOVER_DIRAC`, the precisions of `in`,
  `gauge` and the clover field, `comm_dim_partitioned` and
  `commOverride`.
-/
def cloverDslashCuda
    (cloverDirac : Bool)
    (inPrecision gaugePrecision cloverPrecision : QudaPrecision)
    (partitioned : Fin 4 → Bool)
    (commOverride : Fin 4 → Int) :
    Except CloverError CloverSetup :=
  if cloverDirac then
    let commDim := fun i => if commOverride i = 0 then false else partitioned i
    if inPrecision ≠ gaugePrecision then .error .gaugePrecision
    else if inPrecision ≠ cloverPrecision then .error .cloverPrecision
    else match inPrecision with
      | .double => .ok ⟨partitioned, commDim, .double2, 8⟩
      | .single => .ok ⟨partitioned, commDim, .float4, 4⟩
      | .half => .ok ⟨partitioned, commDim, .short4, 4⟩
  else .error .notBuilt

/- The dimensions a clover dslash communicates: partitioned, and not switched off. -/
theorem cloverDslashCuda_commDim
    {cloverDirac : Bool}
    {inPrecision gaugePrecision cloverPrecision : QudaPrecision}
    {partitioned : Fin 4 → Bool}
    {commOverride : Fin 4 → Int}
    {setup : CloverSetup}
    (h : cloverDslashCuda cloverDirac inPrecision gaugePrecision cloverPrecision partitioned
      commOverride = .ok setup)
    (d : Fin 4) :
    setup.commDim d = true ↔ partitioned d = true ∧ commOverride d ≠ 0 := by
  unfold cloverDslashCuda at h
  split_ifs at h
  cases inPrecision <;> cases h <;> by_cases hOff : commOverride d = 0 <;> simp [hOff]

end CloverDslash

end Quda
