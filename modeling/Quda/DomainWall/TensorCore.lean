import Quda.DomainWall.M5InvDagger

/-
  The rest of the tensor-core kernel `dw_dslash5inv_dagger_core_sm_tc.h`:
  each trip of its grid-stride loop reads one four-dimensional site of
  every fifth-dimension slice into the matrix B of `sm_b`, multiplies
  it by the matrix A of `sm_a` with `wmma` tiles, and reads the product
  back from `sm_c`.

  `sm_c` is `sm_b`: the product overwrites its own factor.  The warps
  of the block take the 16 by 16 tiles of the product in trips
  (`warp_cycle`); inside a trip every load precedes the
  `__syncthreads()` and every store follows it, but nothing orders
  the stores of one trip before the loads of the next.  The product
  is right when no tile stored in a trip shares its column block with
  a tile stored in a later trip (`NoStaleLoad`), and complete when
  every tile is taken (`Complete`).  Both hold for a block of 12
  threads in y and any multiple of 8 in x, the width that makes `N` a
  whole number of tiles.  "Construct matrix A" assumes 32 threads in
  x: a block of at least 32 (`BlockWidth`) builds all of A, and a
  narrower one leaves rows of `sm_a` as they were before the kernel.

  Arithmetic is exact, as in `M5InvDagger`: the `half` rounding of the
  loads, of `mma_sync` and of the stores is not modelled, and the
  `float` divisions of the tile schedule are `Nat` divisions.

  Main declarations:
    * `fullIndex`, `wmmaGemm`, `dslash5invTrip`, `BlockWidth`
    * `fullIndex_checkerboard`, `wmmaGemm_product`, `wmmaGemm_width`, `dslash5invTrip_eq`
    * `dslash5invTrip_reads_uninitialised`, `dslash5invTrip_narrow_reads_uninitialised`
-/

open scoped Matrix

namespace Quda

namespace M5InvDagger

variable {K : Type*} [Field K]

------------------------------------------------------------
-- Index Arithmetic of the Checkerboard
------------------------------------------------------------

/- What the loop reads of `param` besides the block of A. -/
structure LatticeParam where
  /- `param.dc.X[0..3]` -/
  dims : Fin 4 → Nat
  /- `param.dc.Xh[0]` -/
  xh0 : Nat
  /- `param.threads`: the sites of one parity of a slice -/
  threads : Nat
  /- `param.parity` -/
  parity : Nat

/- `X[0] X[1] X[2] X[3]`: the sites of a slice. -/
def LatticeParam.volume4
    (lp : LatticeParam) :
    Nat :=
  lp.dims 0 * lp.dims 1 * lp.dims 2 * lp.dims 3

/-
  `X = 2*sid + (boundaryCrossing + param.parity) % 2`: the full index of
  checkerboard index `sid`, when `param.partial_length` is off.
-/
def fullIndex
    (lp : LatticeParam)
    (sid : Nat) :
    Nat :=
  let boundaryCrossing := sid / lp.xh0 + sid / (lp.dims 1 * lp.xh0) +
    sid / (lp.dims 2 * lp.dims 1 * lp.xh0)
  2 * sid + (boundaryCrossing + lp.parity) % 2

/- `coord[4] = X / (X[0] X[1] X[2] X[3])`: the slice of full index `X`. -/
def coord4
    (lp : LatticeParam)
    (X : Nat) :
    Nat :=
  X / lp.volume4

/- The parity of a site of a slice, `x0 + x1 + x2 + x3`, in lexicographic order. -/
def siteParity
    (lp : LatticeParam)
    (y : Nat) :
    Nat :=
  (y % lp.dims 0 + y / lp.dims 0 % lp.dims 1 + y / (lp.dims 0 * lp.dims 1) % lp.dims 2 +
    y / (lp.dims 0 * lp.dims 1 * lp.dims 2)) % 2

/- The lattices the kernel runs on: even extents, `Xh[0]` half of `X[0]`. -/
structure LatticeParam.Checkerboard (lp : LatticeParam) : Prop where
  dims0_eq : lp.dims 0 = 2 * lp.xh0
  dims_even : ∀ i, lp.dims i % 2 = 0
  threads_eq : 2 * lp.threads = lp.volume4
  parity_lt : lp.parity < 2

/- Reading a mixed-radix digit: `r + n q` has quotient `q` and remainder `r` by `n > r`. -/
theorem div_add_mul_of_lt
    {r n : Nat}
    (q : Nat)
    (h : r < n) :
    (r + n * q) / n = q := by
  rw [Nat.add_mul_div_left _ _ (by omega), Nat.div_eq_of_lt h, Nat.zero_add]

theorem mod_add_mul_of_lt
    {r n : Nat}
    (q : Nat)
    (h : r < n) :
    (r + n * q) % n = r := by
  rw [Nat.add_mul_mod_self_left, Nat.mod_eq_of_lt h]

/- A number below `a b c d` in mixed radix `(a, b, c, d)`. -/
theorem exists_digits
    {a b c d s : Nat}
    (hs : s < a * b * c * d) :
    ∃ x0 < a, ∃ x1 < b, ∃ x2 < c, ∃ x3 < d, s = x0 + a * (x1 + b * (x2 + c * x3)) := by
  have ha : 0 < a := Nat.pos_of_ne_zero fun h => by simp [h] at hs
  have hb : 0 < b := Nat.pos_of_ne_zero fun h => by simp [h] at hs
  have hc : 0 < c := Nat.pos_of_ne_zero fun h => by simp [h] at hs
  refine ⟨s % a, Nat.mod_lt _ ha, s / a % b, Nat.mod_lt _ hb, s / a / b % c, Nat.mod_lt _ hc,
    s / a / b / c, ?_, ?_⟩
  · rw [Nat.div_div_eq_div_mul, Nat.div_div_eq_div_mul, Nat.div_lt_iff_lt_mul (by positivity)]
    simpa only [Nat.mul_assoc, Nat.mul_comm d] using hs
  · rw [Nat.mod_add_div (s / a / b) c, Nat.mod_add_div (s / a) b, Nat.mod_add_div s a]

/- Mixed-radix numbers stay below the product of the radices. -/
theorem add_mul_lt_mul
    {x n y m : Nat}
    (hx : x < n)
    (hy : y < m) :
    x + n * y < n * m :=
  calc x + n * y < n * (y + 1) := by rw [Nat.mul_succ]; omega
    _ ≤ n * m := Nat.mul_le_mul_left n hy

theorem digits_lt
    {a b c d x0 x1 x2 x3 : Nat}
    (h0 : x0 < a)
    (h1 : x1 < b)
    (h2 : x2 < c)
    (h3 : x3 < d) :
    x0 + a * (x1 + b * (x2 + c * x3)) < a * b * c * d := by
  rw [Nat.mul_assoc, Nat.mul_assoc]
  exact add_mul_lt_mul h0 (add_mul_lt_mul h1 (add_mul_lt_mul h2 h3))

theorem LatticeParam.Checkerboard.threads_eq_mul
    {lp : LatticeParam}
    (hLp : lp.Checkerboard) :
    lp.threads = lp.xh0 * lp.dims 1 * lp.dims 2 * lp.dims 3 := by
  have := hLp.threads_eq
  rw [LatticeParam.volume4, hLp.dims0_eq] at this
  rw [← Nat.mul_right_inj (show 2 ≠ 0 by omega), this]
  ring

/- The parity of the site with digits `(x0, x1, x2, x3)` of a slice. -/
theorem siteParity_digits
    (lp : LatticeParam)
    {x0 x1 x2 x3 : Nat}
    (h0 : x0 < lp.dims 0)
    (h1 : x1 < lp.dims 1)
    (h2 : x2 < lp.dims 2) :
    siteParity lp (x0 + lp.dims 0 * (x1 + lp.dims 1 * (x2 + lp.dims 2 * x3))) =
      (x0 + x1 + x2 + x3) % 2 := by
  simp only [siteParity, ← Nat.div_div_eq_div_mul, mod_add_mul_of_lt _ h0,
    div_add_mul_of_lt _ h0, mod_add_mul_of_lt _ h1, div_add_mul_of_lt _ h1,
    mod_add_mul_of_lt _ h2, div_add_mul_of_lt _ h2]

/- `sid` of the site with digits `(x0h, x1, x2, x3)` of slice `s5`. -/
theorem sid_digits
    {lp : LatticeParam}
    (hLp : lp.Checkerboard)
    (s5 x0h x1 x2 x3 : Nat) :
    s5 * lp.threads + (x0h + lp.xh0 * (x1 + lp.dims 1 * (x2 + lp.dims 2 * x3))) =
      x0h + lp.xh0 * (x1 + lp.dims 1 * (x2 + lp.dims 2 * (x3 + lp.dims 3 * s5))) := by
  rw [hLp.threads_eq_mul]
  ring

/-
  The kernel's full index of the site with digits `(x0h, x1, x2, x3)`
  of slice `s5`: its first coordinate is `2 x0h` plus the bit that
  makes the parity of the site `param.parity`.
-/
theorem fullIndex_digits
    {lp : LatticeParam}
    (hLp : lp.Checkerboard)
    (s5 x0h x1 x2 x3 : Nat)
    (h0 : x0h < lp.xh0)
    (h1 : x1 < lp.dims 1)
    (h2 : x2 < lp.dims 2) :
    fullIndex lp (s5 * lp.threads + (x0h + lp.xh0 * (x1 + lp.dims 1 * (x2 + lp.dims 2 * x3)))) =
      (2 * x0h + (x1 + x2 + x3 + lp.parity) % 2) + lp.dims 0 * (x1 + lp.dims 1 *
        (x2 + lp.dims 2 * (x3 + lp.dims 3 * s5))) := by
  have hSid := sid_digits hLp s5 x0h x1 x2 x3
  have hQ1 := div_add_mul_of_lt (x1 + lp.dims 1 * (x2 + lp.dims 2 * (x3 + lp.dims 3 * s5))) h0
  have hQ2 := div_add_mul_of_lt (x2 + lp.dims 2 * (x3 + lp.dims 3 * s5)) h1
  have hQ3 := div_add_mul_of_lt (x3 + lp.dims 3 * s5) h2
  have hD1 : (x0h + lp.xh0 * (x1 + lp.dims 1 * (x2 + lp.dims 2 * (x3 + lp.dims 3 * s5)))) /
      (lp.dims 1 * lp.xh0) = x2 + lp.dims 2 * (x3 + lp.dims 3 * s5) := by
    rw [Nat.mul_comm (lp.dims 1) lp.xh0, ← Nat.div_div_eq_div_mul, hQ1, hQ2]
  have hD2 : (x0h + lp.xh0 * (x1 + lp.dims 1 * (x2 + lp.dims 2 * (x3 + lp.dims 3 * s5)))) /
      (lp.dims 2 * lp.dims 1 * lp.xh0) = x3 + lp.dims 3 * s5 := by
    rw [show lp.dims 2 * lp.dims 1 * lp.xh0 = lp.xh0 * lp.dims 1 * lp.dims 2 by ring,
      ← Nat.div_div_eq_div_mul, ← Nat.div_div_eq_div_mul, hQ1, hQ2, hQ3]
  have hEven1 : lp.dims 1 * (x2 + lp.dims 2 * (x3 + lp.dims 3 * s5)) % 2 = 0 := by
    rw [Nat.mul_mod, hLp.dims_even 1, Nat.zero_mul, Nat.zero_mod]
  have hEven2 : lp.dims 2 * (x3 + lp.dims 3 * s5) % 2 = 0 := by
    rw [Nat.mul_mod, hLp.dims_even 2, Nat.zero_mul, Nat.zero_mod]
  have hEven3 : lp.dims 3 * s5 % 2 = 0 := by
    rw [Nat.mul_mod, hLp.dims_even 3, Nat.zero_mul, Nat.zero_mod]
  rw [hSid]
  simp only [fullIndex]
  rw [hQ1, hD1, hD2, hLp.dims0_eq, Nat.mul_assoc 2 lp.xh0]
  omega

/-
  Thread `s4 < param.threads` of slice `s5` reads and writes the full
  index `X` of a site of parity `param.parity` in slice `coord[4] = s5`,
  at checkerboard index `X / 2 = sid`.
-/
theorem fullIndex_thread
    {lp : LatticeParam}
    (hLp : lp.Checkerboard)
    (s5 : Nat)
    {s4 : Nat}
    (hs4 : s4 < lp.threads) :
    fullIndex lp (s5 * lp.threads + s4) / 2 = s5 * lp.threads + s4 ∧
      coord4 lp (fullIndex lp (s5 * lp.threads + s4)) = s5 ∧
      siteParity lp (fullIndex lp (s5 * lp.threads + s4) % lp.volume4) = lp.parity := by
  have hDims0 := hLp.dims0_eq
  have hPar := hLp.parity_lt
  rw [hLp.threads_eq_mul] at hs4
  obtain ⟨x0h, h0, x1, h1, x2, h2, x3, h3, rfl⟩ := exists_digits hs4
  have hLow : 2 * x0h + (x1 + x2 + x3 + lp.parity) % 2 < lp.dims 0 := by omega
  have hSlice : _ < lp.volume4 := digits_lt hLow h1 h2 h3
  have hX : fullIndex lp (s5 * lp.threads + (x0h + lp.xh0 * (x1 + lp.dims 1 *
      (x2 + lp.dims 2 * x3)))) = (2 * x0h + (x1 + x2 + x3 + lp.parity) % 2 + lp.dims 0 *
        (x1 + lp.dims 1 * (x2 + lp.dims 2 * x3))) + lp.volume4 * s5 := by
    rw [fullIndex_digits hLp s5 x0h x1 x2 x3 h0 h1 h2, LatticeParam.volume4]
    ring
  refine ⟨?_, ?_, ?_⟩
  · rw [fullIndex_digits hLp s5 x0h x1 x2 x3 h0 h1 h2, sid_digits hLp, hDims0,
      Nat.mul_assoc 2 lp.xh0]
    omega
  · rw [coord4, hX, div_add_mul_of_lt _ hSlice]
  · rw [hX, mod_add_mul_of_lt _ hSlice, siteParity_digits lp hLow h1 h2]
    omega

/- Every site `y` of parity `param.parity` of slice `s5` is the one of thread `y / 2`. -/
theorem fullIndex_site
    {lp : LatticeParam}
    (hLp : lp.Checkerboard)
    (s5 : Nat)
    {y : Nat}
    (hy : y < lp.volume4)
    (hY : siteParity lp y = lp.parity) :
    fullIndex lp (s5 * lp.threads + y / 2) = s5 * lp.volume4 + y := by
  have hDims0 := hLp.dims0_eq
  have hPar := hLp.parity_lt
  obtain ⟨x0, h0, x1, h1, x2, h2, x3, h3, rfl⟩ := exists_digits hy
  rw [siteParity_digits lp h0 h1 h2] at hY
  have hHalf : (x0 + lp.dims 0 * (x1 + lp.dims 1 * (x2 + lp.dims 2 * x3))) / 2 =
      x0 / 2 + lp.xh0 * (x1 + lp.dims 1 * (x2 + lp.dims 2 * x3)) := by
    rw [hDims0, Nat.mul_assoc 2 lp.xh0]
    omega
  rw [hHalf, fullIndex_digits hLp s5 (x0 / 2) x1 x2 x3 (by omega) h1 h2,
    show 2 * (x0 / 2) + (x1 + x2 + x3 + lp.parity) % 2 = x0 by omega, LatticeParam.volume4]
  ring

/-
  The checkerboard index of the loop is a bijection: thread `s4` of
  slice `s5` holds a site of parity `param.parity` of slice
  `coord[4] = s5` at `X / 2 = sid`, and every such site is held by a thread.
-/
theorem fullIndex_checkerboard
    {lp : LatticeParam}
    (hLp : lp.Checkerboard)
    (s5 : Nat) :
    (∀ s4 < lp.threads,
      fullIndex lp (s5 * lp.threads + s4) / 2 = s5 * lp.threads + s4 ∧
      coord4 lp (fullIndex lp (s5 * lp.threads + s4)) = s5 ∧
      siteParity lp (fullIndex lp (s5 * lp.threads + s4) % lp.volume4) = lp.parity) ∧
    (∀ y < lp.volume4, siteParity lp y = lp.parity →
      fullIndex lp (s5 * lp.threads + y / 2) = s5 * lp.volume4 + y) :=
  ⟨fun _ => fullIndex_thread hLp s5, fun _ => fullIndex_site hLp s5⟩

/- A slice of two sites in every direction, even parity: eight threads. -/
def sampleLattice : LatticeParam := ⟨fun _ => 2, 1, 8, 0⟩

theorem sampleLattice_checkerboard : sampleLattice.Checkerboard :=
  ⟨rfl, fun _ => Nat.mod_self 2, rfl, by decide⟩

theorem fullIndex_checkerboard_sample :
    sampleLattice.Checkerboard ∧
    (∀ s4 < sampleLattice.threads,
      fullIndex sampleLattice (3 * sampleLattice.threads + s4) / 2 =
          3 * sampleLattice.threads + s4 ∧
        coord4 sampleLattice (fullIndex sampleLattice (3 * sampleLattice.threads + s4)) = 3 ∧
        siteParity sampleLattice
            (fullIndex sampleLattice (3 * sampleLattice.threads + s4) % sampleLattice.volume4) =
          sampleLattice.parity) ∧
    (∀ y < sampleLattice.volume4, siteParity sampleLattice y = sampleLattice.parity →
      fullIndex sampleLattice (3 * sampleLattice.threads + y / 2) =
        3 * sampleLattice.volume4 + y) :=
  ⟨sampleLattice_checkerboard, fullIndex_checkerboard sampleLattice_checkerboard 3⟩

------------------------------------------------------------
-- The Tile Schedule
------------------------------------------------------------

/- `M = 12*4`: the rows of A and of B. -/
def dimM : Nat := 12 * 4

/- `N = 6*blockDim.x`: the columns of B, six halves for each thread. -/
def dimN
    (blockDimX : Nat) :
    Nat := 6 * blockDimX

/- `N_sm = N + sm_n_pad_size`: the leading dimension of `sm_b` and `sm_c`. -/
def nSm
    (blockDimX : Nat) :
    Nat := dimN blockDimX + 16

/- `tm_dim = M >> 4` -/
def tmDim : Nat := dimM >>> 4

/- `tn_dim = N >> 4` -/
def tnDim
    (blockDimX : Nat) :
    Nat := dimN blockDimX >>> 4

/- `total_warp = (blockDim.x*blockDim.y) >> 5` -/
def totalWarp
    (blockDimX blockDimY : Nat) :
    Nat := (blockDimX * blockDimY) >>> 5

/- `total_tile = tm_dim*tn_dim` -/
def totalTile
    (blockDimX : Nat) :
    Nat := tmDim * tnDim blockDimX

/- `warp_cycle = float(total_tile)/total_warp`, truncated. -/
def warpCycle
    (blockDimX blockDimY : Nat) :
    Nat :=
  totalTile blockDimX / totalWarp blockDimX blockDimY

/- `warp_m = float(this_warp)*warp_cycle/tn_dim`, truncated, set once before the trips. -/
def warpM
    (blockDimX blockDimY w : Nat) :
    Nat :=
  w * warpCycle blockDimX blockDimY / tnDim blockDimX

/- `warp_n = phys_warp_index - warp_m*tn_dim`, `phys_warp_index = this_warp*warp_cycle + c`. -/
def warpN
    (blockDimX blockDimY w c : Nat) :
    Nat :=
  w * warpCycle blockDimX blockDimY + c - warpM blockDimX blockDimY w * tnDim blockDimX

/- The guard `c_row < M && c_col < N` of the store of warp `w` in trip `c`. -/
def Stored
    (blockDimX blockDimY w c : Nat) :
    Prop :=
  warpM blockDimX blockDimY w * 16 < dimM ∧ warpN blockDimX blockDimY w c * 16 < dimN blockDimX

instance (blockDimX blockDimY w c : Nat) : Decidable (Stored blockDimX blockDimY w c) :=
  inferInstanceAs (Decidable (_ ∧ _))

/- No tile stored in trip `c'` has the column block of a tile stored in trip `c`. -/
def TripsApart
    (blockDimX blockDimY c c' : Nat) :
    Prop :=
  ∀ w < totalWarp blockDimX blockDimY, ∀ w' < totalWarp blockDimX blockDimY,
    Stored blockDimX blockDimY w c → Stored blockDimX blockDimY w' c' →
      warpN blockDimX blockDimY w' c' ≠ warpN blockDimX blockDimY w c

instance (blockDimX blockDimY c c' : Nat) : Decidable (TripsApart blockDimX blockDimY c c') :=
  inferInstanceAs (Decidable (∀ w < totalWarp blockDimX blockDimY,
    ∀ w' < totalWarp blockDimX blockDimY, Stored blockDimX blockDimY w c →
      Stored blockDimX blockDimY w' c' →
        warpN blockDimX blockDimY w' c' ≠ warpN blockDimX blockDimY w c))

/-
  No warp loads, for a tile it stores, a column block of `sm_c` that a
  tile of an earlier trip overwrote: the stores of a trip race with
  the loads of the next one, and this makes the race harmless.
-/
def NoStaleLoad
    (blockDimX blockDimY : Nat) :
    Prop :=
  ∀ c < warpCycle blockDimX blockDimY, ∀ c' < c, TripsApart blockDimX blockDimY c c'

instance (blockDimX blockDimY : Nat) : Decidable (NoStaleLoad blockDimX blockDimY) :=
  inferInstanceAs (Decidable (∀ c < warpCycle blockDimX blockDimY, ∀ c' < c,
    TripsApart blockDimX blockDimY c c'))

/- Every tile of the product is taken by some warp in some trip. -/
def Complete
    (blockDimX blockDimY : Nat) :
    Prop :=
  ∀ m < tmDim, ∀ n < tnDim blockDimX, ∃ w < totalWarp blockDimX blockDimY,
    ∃ c < warpCycle blockDimX blockDimY,
      warpM blockDimX blockDimY w = m ∧ warpN blockDimX blockDimY w c = n

instance (blockDimX blockDimY : Nat) : Decidable (Complete blockDimX blockDimY) :=
  inferInstanceAs (Decidable (∀ m < tmDim, ∀ n < tnDim blockDimX,
    ∃ w < totalWarp blockDimX blockDimY, ∃ c < warpCycle blockDimX blockDimY,
      warpM blockDimX blockDimY w = m ∧ warpN blockDimX blockDimY w c = n))

------------------------------------------------------------
-- The In-Place Product
------------------------------------------------------------

/- Index `idx` of `sm_c` lies in tile `(m, n)`: rows `16m ..` and columns `16n ..`. -/
def InTile
    (blockDimX m n idx : Nat) :
    Prop :=
  m * 16 ≤ idx / nSm blockDimX ∧ idx / nSm blockDimX < m * 16 + 16 ∧
    n * 16 ≤ idx % nSm blockDimX ∧ idx % nSm blockDimX < n * 16 + 16

instance (blockDimX m n idx : Nat) : Decidable (InTile blockDimX m n idx) :=
  inferInstanceAs (Decidable (_ ∧ _ ∧ _ ∧ _))

/-
  `c_frag` of tile `(m, n)` at row `i` and column `j`, after the three
  `mma_sync` over `k`: `a_frag` is read column-major from `sm_a` with
  leading dimension `M_sm`, `b_frag` row-major from `sm_c` with `N_sm`.
-/
def tileProduct
    (blockDimX : Nat)
    (smA smC : Nat → K)
    (m n i j : Nat) :
    K :=
  ∑ k ∈ Finset.range 3, ∑ l ∈ Finset.range 16,
    smA (m * 16 + i + (k * 16 + l) * mSm) * smC ((k * 16 + l) * nSm blockDimX + (n * 16 + j))

/- `store_matrix_sync(sm_c + c_col + c_row*N_sm, c_frag, N_sm, mem_row_major)`. -/
def storeTile
    (blockDimX : Nat)
    (smC : Nat → K)
    (m n : Nat)
    (frag : Nat → Nat → K) :
    Nat → K :=
  fun idx => if InTile blockDimX m n idx then
    frag (idx / nSm blockDimX - m * 16) (idx % nSm blockDimX - n * 16) else smC idx

/-
  The store of warp `w` in trip `c`, after the `__syncthreads()`: its
  tile as computed from `smT`, the `sm_c` the trip began with, when
  the tile is inside the product.
-/
def warpStore
    (blockDimX blockDimY : Nat)
    (smA smT : Nat → K)
    (c : Nat)
    (mem : Nat → K)
    (w : Nat) :
    Nat → K :=
  if Stored blockDimX blockDimY w c then
    storeTile blockDimX mem (warpM blockDimX blockDimY w) (warpN blockDimX blockDimY w c)
      (tileProduct blockDimX smA smT (warpM blockDimX blockDimY w)
        (warpN blockDimX blockDimY w c))
  else mem

/-
  Trip `c` of the loop over `warp_cycle`: every warp loads its tile
  from `sm_c` as the trip finds it, then the warps store.
-/
def gemmTrip
    (blockDimX blockDimY : Nat)
    (smA smC : Nat → K)
    (c : Nat) :
    Nat → K :=
  (List.range (totalWarp blockDimX blockDimY)).foldl (warpStore blockDimX blockDimY smA smC c) smC

/- The `wmma` block: the trips one after another, on `sm_c` holding B. -/
def wmmaGemm
    (blockDimX blockDimY : Nat)
    (smA smB : Nat → K) :
    Nat → K :=
  (List.range (warpCycle blockDimX blockDimY)).foldl (gemmTrip blockDimX blockDimY smA) smB

/- Entry `(row, col)` of `A B`, for the row and column of index `idx` of `sm_c`. -/
def productEntry
    (blockDimX : Nat)
    (smA smB : Nat → K)
    (idx : Nat) :
    K :=
  ∑ q ∈ Finset.range dimM,
    smA (idx / nSm blockDimX + q * mSm) * smB (q * nSm blockDimX + idx % nSm blockDimX)

/- Index `idx` was stored by a warp in one of the first `c` trips. -/
def Covered
    (blockDimX blockDimY c idx : Nat) :
    Prop :=
  ∃ c' < c, ∃ w < totalWarp blockDimX blockDimY, Stored blockDimX blockDimY w c' ∧
    InTile blockDimX (warpM blockDimX blockDimY w) (warpN blockDimX blockDimY w c') idx

/- The three `mma_sync` of 16 columns run over the 48 columns of A. -/
theorem sum_range_mul_add
    {M : Type*}
    [AddCommMonoid M]
    (a b : Nat)
    (f : Nat → M) :
    ∑ k ∈ Finset.range a, ∑ l ∈ Finset.range b, f (k * b + l) =
      ∑ q ∈ Finset.range (a * b), f q := by
  induction a with
  | zero => simp
  | succ a ih => rw [Finset.sum_range_succ, ih, Nat.succ_mul, Finset.sum_range_add]

section Product

variable (blockDimX blockDimY : Nat) (smA smB : Nat → K)

theorem nSm_pos : 0 < nSm blockDimX := Nat.succ_pos _

/- The row and the column of an index of `sm_c` inside the padded rows. -/
theorem cell_div
    (q : Nat)
    {col : Nat}
    (h : col < nSm blockDimX) :
    (q * nSm blockDimX + col) / nSm blockDimX = q := by
  rw [Nat.add_comm, Nat.mul_comm, div_add_mul_of_lt _ h]

theorem cell_mod
    (q : Nat)
    {col : Nat}
    (h : col < nSm blockDimX) :
    (q * nSm blockDimX + col) % nSm blockDimX = col := by
  rw [Nat.add_comm, Nat.mul_comm, mod_add_mul_of_lt _ h]

/- On each index of its tile, a fragment is the entry of the product. -/
theorem tileProduct_eq
    {m n idx : Nat}
    (hIn : InTile blockDimX m n idx) :
    tileProduct blockDimX smA smB m n (idx / nSm blockDimX - m * 16)
        (idx % nSm blockDimX - n * 16) =
      productEntry blockDimX smA smB idx := by
  obtain ⟨hRow, -, hCol, -⟩ := hIn
  rw [tileProduct, productEntry, dimM, show 12 * 4 = 3 * 16 from rfl, ← sum_range_mul_add]
  simp only [Nat.add_sub_cancel' hRow, Nat.add_sub_cancel' hCol]

/- After the first `c` trips: what was stored holds `A B`, the rest still B. -/
def TripInv
    (c : Nat)
    (mem : Nat → K) :
    Prop :=
  ∀ idx, (Covered blockDimX blockDimY c idx → mem idx = productEntry blockDimX smA smB idx) ∧
    (¬ Covered blockDimX blockDimY c idx → mem idx = smB idx)

variable {blockDimX blockDimY smA smB}

/- A tile stored in trip `c` reads a column block that no earlier trip overwrote. -/
theorem productEntry_of_tripInv
    (hApart : NoStaleLoad blockDimX blockDimY)
    {c w idx : Nat}
    (hc : c < warpCycle blockDimX blockDimY)
    (hw : w < totalWarp blockDimX blockDimY)
    (hStored : Stored blockDimX blockDimY w c)
    (hIn : InTile blockDimX (warpM blockDimX blockDimY w) (warpN blockDimX blockDimY w c) idx)
    {mem : Nat → K}
    (hInv : TripInv blockDimX blockDimY smA smB c mem) :
    productEntry blockDimX smA mem idx = productEntry blockDimX smA smB idx := by
  have hCol : idx % nSm blockDimX < nSm blockDimX := Nat.mod_lt _ (nSm_pos blockDimX)
  refine Finset.sum_congr rfl fun q _ => congrArg _ ((hInv _).2 ?_)
  rintro ⟨c', hc', w', hw', hStored', hIn'⟩
  rw [InTile, cell_div blockDimX _ hCol, cell_mod blockDimX _ hCol] at hIn'
  obtain ⟨-, -, hLo, hHi⟩ := hIn
  exact hApart c hc c' hc' w hw w' hw' hStored hStored' (by omega)

theorem warpStore_apply
    (smT mem : Nat → K)
    (c w idx : Nat) :
    warpStore blockDimX blockDimY smA smT c mem w idx =
      if Stored blockDimX blockDimY w c ∧ InTile blockDimX (warpM blockDimX blockDimY w)
          (warpN blockDimX blockDimY w c) idx then
        productEntry blockDimX smA smT idx
      else mem idx := by
  unfold warpStore
  by_cases hS : Stored blockDimX blockDimY w c
  · by_cases hT : InTile blockDimX (warpM blockDimX blockDimY w) (warpN blockDimX blockDimY w c) idx
    · rw [if_pos hS, if_pos ⟨hS, hT⟩, storeTile, if_pos hT, tileProduct_eq blockDimX smA smT hT]
    · rw [if_pos hS, if_neg (fun h => hT h.2), storeTile, if_neg hT]
  · rw [if_neg hS, if_neg (fun h => hS h.1)]

/- Index `idx` was stored by one of the first `W` warps in trip `c`. -/
def StoredBy
    (blockDimX blockDimY c W idx : Nat) :
    Prop :=
  ∃ w < W, Stored blockDimX blockDimY w c ∧
    InTile blockDimX (warpM blockDimX blockDimY w) (warpN blockDimX blockDimY w c) idx

/- The first `W` warps of trip `c` leave `A B` where they store, and the trip's memory elsewhere. -/
theorem foldl_warpStore
    (hApart : NoStaleLoad blockDimX blockDimY)
    {c : Nat}
    (hc : c < warpCycle blockDimX blockDimY)
    {smT : Nat → K}
    (hInv : TripInv blockDimX blockDimY smA smB c smT) :
    ∀ W ≤ totalWarp blockDimX blockDimY, ∀ idx,
      (StoredBy blockDimX blockDimY c W idx →
        (List.range W).foldl (warpStore blockDimX blockDimY smA smT c) smT idx =
          productEntry blockDimX smA smB idx) ∧
      (¬ StoredBy blockDimX blockDimY c W idx →
        (List.range W).foldl (warpStore blockDimX blockDimY smA smT c) smT idx = smT idx)
  | 0, _, idx => ⟨fun ⟨_, h, _⟩ => absurd h (Nat.not_lt_zero _), fun _ => rfl⟩
  | W + 1, hW, idx => by
      have hPrev := foldl_warpStore hApart hc hInv W (by omega) idx
      rw [List.range_succ, List.foldl_append, List.foldl_cons, List.foldl_nil, warpStore_apply]
      by_cases hNew : Stored blockDimX blockDimY W c ∧ InTile blockDimX
          (warpM blockDimX blockDimY W) (warpN blockDimX blockDimY W c) idx
      · rw [if_pos hNew, productEntry_of_tripInv hApart hc hW hNew.1 hNew.2 hInv]
        exact ⟨fun _ => rfl, fun hNone => absurd ⟨W, Nat.lt_succ_self W, hNew⟩ hNone⟩
      · have hIff : StoredBy blockDimX blockDimY c (W + 1) idx ↔
            StoredBy blockDimX blockDimY c W idx :=
          ⟨fun ⟨w, hw, hS⟩ =>
              ⟨w, lt_of_le_of_ne (Nat.lt_succ_iff.1 hw) (fun h => hNew (h ▸ hS)), hS⟩,
            fun ⟨w, hw, hS⟩ => ⟨w, Nat.lt_succ_of_lt hw, hS⟩⟩
        rw [if_neg hNew, hIff]
        exact hPrev

/- Trip `c` keeps the invariant. -/
theorem gemmTrip_tripInv
    (hApart : NoStaleLoad blockDimX blockDimY)
    {c : Nat}
    (hc : c < warpCycle blockDimX blockDimY)
    {mem : Nat → K}
    (hInv : TripInv blockDimX blockDimY smA smB c mem) :
    TripInv blockDimX blockDimY smA smB (c + 1) (gemmTrip blockDimX blockDimY smA mem c) := by
  intro idx
  have hTrip := foldl_warpStore hApart hc hInv _ le_rfl idx
  have hIff : Covered blockDimX blockDimY (c + 1) idx ↔
      Covered blockDimX blockDimY c idx ∨
        StoredBy blockDimX blockDimY c (totalWarp blockDimX blockDimY) idx :=
    ⟨fun ⟨c', hc', hS⟩ => (Nat.lt_succ_iff_lt_or_eq.1 hc').imp (fun h => ⟨c', h, hS⟩)
        (fun (h : c' = c) => by subst h; exact hS),
      fun h => h.elim (fun ⟨c', hc', hS⟩ => ⟨c', Nat.lt_succ_of_lt hc', hS⟩)
        (fun hS => ⟨c, Nat.lt_succ_self c, hS⟩)⟩
  rw [gemmTrip, hIff]
  by_cases hNew : StoredBy blockDimX blockDimY c (totalWarp blockDimX blockDimY) idx
  · exact ⟨fun _ => hTrip.1 hNew, fun h => absurd (.inr hNew) h⟩
  · rw [hTrip.2 hNew, or_iff_left hNew]
    exact hInv idx

/-
  With no stale load, the in-place product leaves `A B` at every
  index some trip stored, and B at every other index.
-/
theorem wmmaGemm_tripInv
    (hApart : NoStaleLoad blockDimX blockDimY) :
    TripInv blockDimX blockDimY smA smB (warpCycle blockDimX blockDimY)
      (wmmaGemm blockDimX blockDimY smA smB) := by
  have hRun : ∀ c ≤ warpCycle blockDimX blockDimY, TripInv blockDimX blockDimY smA smB c
      ((List.range c).foldl (gemmTrip blockDimX blockDimY smA) smB) := by
    intro c
    induction c with
    | zero => exact fun _ idx => ⟨fun ⟨_, h, _⟩ => absurd h (Nat.not_lt_zero _), fun _ => rfl⟩
    | succ c ih =>
      intro hc
      rw [List.range_succ, List.foldl_append, List.foldl_cons, List.foldl_nil]
      exact gemmTrip_tripInv hApart hc (ih (by omega))
  exact hRun _ le_rfl

/- Every index of the product is stored by some trip when every tile is taken. -/
theorem covered_of_complete
    (hAll : Complete blockDimX blockDimY)
    {idx : Nat}
    (hRow : idx / nSm blockDimX < dimM)
    (hCol : idx % nSm blockDimX < tnDim blockDimX * 16) :
    Covered blockDimX blockDimY (warpCycle blockDimX blockDimY) idx := by
  have hM : idx / nSm blockDimX / 16 < tmDim := by
    rw [tmDim, Nat.shiftRight_eq_div_pow]
    exact Nat.div_lt_div_of_lt_of_dvd (by decide) hRow
  obtain ⟨w, hw, c, hc, hWm, hWn⟩ := hAll _ hM (idx % nSm blockDimX / 16) (by omega)
  have hN : tnDim blockDimX * 16 ≤ dimN blockDimX := by
    rw [tnDim, Nat.shiftRight_eq_div_pow]
    exact Nat.div_mul_le_self _ _
  refine ⟨c, hc, w, hw, ⟨?_, ?_⟩, ?_⟩
  · rw [hWm]
    unfold dimM at hRow ⊢
    omega
  · rw [hWn]
    omega
  · rw [InTile, hWm, hWn]
    omega

end Product

/-
  The in-place product, for any block whose schedule has no stale load
  and takes every tile, and whose `N` is a whole number of tiles: it
  leaves `A B` in the product's `M` rows and `N` columns of `sm_c`, and
  every other index as it was.
-/
theorem wmmaGemm_apply
    {blockDimX blockDimY : Nat}
    (smA smB : Nat → K)
    (hApart : NoStaleLoad blockDimX blockDimY)
    (hAll : Complete blockDimX blockDimY)
    (hTiles : tnDim blockDimX * 16 = dimN blockDimX)
    (idx : Nat) :
    wmmaGemm blockDimX blockDimY smA smB idx =
      if idx / nSm blockDimX < dimM ∧ idx % nSm blockDimX < dimN blockDimX then
        productEntry blockDimX smA smB idx
      else smB idx := by
  have hInv : TripInv blockDimX blockDimY smA smB _ (wmmaGemm blockDimX blockDimY smA smB) :=
    wmmaGemm_tripInv hApart
  split_ifs with hIn
  · exact (hInv idx).1 (covered_of_complete hAll hIn.1 (hTiles ▸ hIn.2))
  · refine (hInv idx).2 fun ⟨c, _, w, _, ⟨hM, hN⟩, hT⟩ => hIn ⟨?_, ?_⟩
    · obtain ⟨-, hRow, -, -⟩ := hT
      unfold dimM at hM ⊢
      omega
    · obtain ⟨-, -, -, hCol⟩ := hT
      omega

/- A width the kernel handles: the 32 threads that build A, and `N` a whole number of tiles. -/
structure BlockWidth (blockDimX : Nat) : Prop where
  builds : 32 ≤ blockDimX
  tiles : 8 ∣ blockDimX

theorem tnDim_eight_mul
    (k : Nat) :
    tnDim (8 * k) = 3 * k := by
  unfold tnDim dimN
  rw [Nat.shiftRight_eq_div_pow]
  omega

theorem totalWarp_eight_mul
    (k : Nat) :
    totalWarp (8 * k) 12 = 3 * k := by
  unfold totalWarp
  rw [Nat.shiftRight_eq_div_pow]
  omega

theorem warpCycle_eight_mul
    {k : Nat}
    (hk : 0 < k) :
    warpCycle (8 * k) 12 = 3 := by
  rw [warpCycle, totalTile, totalWarp_eight_mul, tnDim_eight_mul,
    show tmDim * (3 * k) = 3 * (3 * k) from rfl, Nat.mul_div_cancel _ (by omega)]

/- Warp `w` takes row block `w / k` and, trip by trip, the three column blocks from `3 (w % k)`. -/
theorem warpM_eight_mul
    {k : Nat}
    (hk : 0 < k)
    (w : Nat) :
    warpM (8 * k) 12 w = w / k := by
  rw [warpM, warpCycle_eight_mul hk, tnDim_eight_mul, Nat.mul_comm 3 k,
    Nat.mul_div_mul_right _ _ (by norm_num)]

theorem warpN_eight_mul
    {k : Nat}
    (hk : 0 < k)
    (w c : Nat) :
    warpN (8 * k) 12 w c = 3 * (w % k) + c := by
  have hSplit := Nat.div_add_mod w k
  rw [warpN, warpM_eight_mul hk, warpCycle_eight_mul hk, tnDim_eight_mul,
    show w / k * (3 * k) = 3 * (k * (w / k)) by ring]
  omega

/- The trips of a warp take distinct column blocks, so no load is stale. -/
theorem noStaleLoad_eight_mul
    {k : Nat}
    (hk : 0 < k) :
    NoStaleLoad (8 * k) 12 := by
  intro c hc c' hc' w _ w' _ _ _ hEq
  rw [warpCycle_eight_mul hk] at hc
  rw [warpN_eight_mul hk, warpN_eight_mul hk] at hEq
  omega

/- Tile `(m, n)` is taken by warp `n / 3 + k m` in trip `n % 3`. -/
theorem complete_eight_mul
    {k : Nat}
    (hk : 0 < k) :
    Complete (8 * k) 12 := by
  intro m hm n hn
  rw [tnDim_eight_mul] at hn
  have hRow : n / 3 < k := by omega
  refine ⟨n / 3 + k * m, ?_, n % 3, ?_, ?_, ?_⟩
  · rw [totalWarp_eight_mul]
    have : k * m ≤ k * 2 := Nat.mul_le_mul_left k (by unfold tmDim dimM at hm; omega)
    omega
  · rw [warpCycle_eight_mul hk]; omega
  · rw [warpM_eight_mul hk, div_add_mul_of_lt m hRow]
  · rw [warpN_eight_mul hk, mod_add_mul_of_lt m hRow]; omega

/- The block of 32 by 12 threads the kernel is written for takes every tile without a stale load. -/
theorem noStaleLoad_block : NoStaleLoad 32 12 :=
  (noStaleLoad_eight_mul (show 0 < 4 by norm_num) : NoStaleLoad (8 * 4) 12)

theorem complete_block : Complete 32 12 :=
  (complete_eight_mul (show 0 < 4 by norm_num) : Complete (8 * 4) 12)

/-
  For a block of 12 threads in y and a multiple of 8 in x, the in-place
  tensor-core product leaves `A B` in the 48 rows and `N` columns of
  the product in `sm_c`, and the padding as it was, for every A and
  every B.
-/
theorem wmmaGemm_width
    {blockDimX : Nat}
    (hX : BlockWidth blockDimX)
    (smA smB : Nat → K)
    (idx : Nat) :
    wmmaGemm blockDimX 12 smA smB idx =
      if idx / nSm blockDimX < dimM ∧ idx % nSm blockDimX < dimN blockDimX then
        productEntry blockDimX smA smB idx
      else smB idx := by
  have hBuilds := hX.builds
  obtain ⟨k, rfl⟩ := hX.tiles
  have hk : 0 < k := by omega
  refine wmmaGemm_apply smA smB (noStaleLoad_eight_mul hk) (complete_eight_mul hk) ?_ idx
  rw [tnDim_eight_mul, dimN]
  ring

/-
  What the kernel computes with the tensor cores: read as a matrix of
  `M` rows and `N` columns, `sm_c` holds the product of A, column-major
  in `sm_a`, and B, row-major in `sm_b`; the padding columns and the
  rows below are left as they were.
-/
theorem wmmaGemm_product
    {blockDimX blockDimY : Nat}
    (smA smB : Nat → K)
    (hApart : NoStaleLoad blockDimX blockDimY)
    (hAll : Complete blockDimX blockDimY)
    (hTiles : tnDim blockDimX * 16 = dimN blockDimX) :
    (Matrix.of fun (i : Fin dimM) (j : Fin (dimN blockDimX)) =>
        wmmaGemm blockDimX blockDimY smA smB (i * nSm blockDimX + j)) =
      (Matrix.of fun (i q : Fin dimM) => smA (i + q * mSm)) *
        (Matrix.of fun (q : Fin dimM) (j : Fin (dimN blockDimX)) => smB (q * nSm blockDimX + j)) ∧
    ∀ idx, dimM ≤ idx / nSm blockDimX ∨ dimN blockDimX ≤ idx % nSm blockDimX →
      wmmaGemm blockDimX blockDimY smA smB idx = smB idx := by
  refine ⟨Matrix.ext fun i j => ?_, fun idx hOut => ?_⟩
  · have hj : (j : Nat) < nSm blockDimX := by unfold nSm; omega
    rw [Matrix.of_apply, wmmaGemm_apply smA smB hApart hAll hTiles, cell_div _ _ hj,
      cell_mod _ _ hj, if_pos ⟨i.2, j.2⟩, productEntry, cell_div _ _ hj, cell_mod _ _ hj,
      Matrix.mul_apply, ← Fin.sum_univ_eq_sum_range]
    rfl
  · rw [wmmaGemm_apply smA smB hApart hAll hTiles, if_neg (by omega)]

theorem wmmaGemm_product_block :
    NoStaleLoad 32 12 ∧ Complete 32 12 ∧ tnDim 32 * 16 = dimN 32 ∧
    ((Matrix.of fun (i : Fin dimM) (j : Fin (dimN 32)) =>
        wmmaGemm 32 12 (fun n => (n : ℚ)) (fun _ => 1) (i * nSm 32 + j)) =
      (Matrix.of fun (i q : Fin dimM) => ((i + q * mSm : Nat) : ℚ)) *
        (Matrix.of fun (_ : Fin dimM) (_ : Fin (dimN 32)) => (1 : ℚ)) ∧
    ∀ idx, dimM ≤ idx / nSm 32 ∨ dimN 32 ≤ idx % nSm 32 →
      wmmaGemm 32 12 (fun n => (n : ℚ)) (fun _ => 1) idx = 1) :=
  ⟨noStaleLoad_block, complete_block, by decide,
    wmmaGemm_product _ _ noStaleLoad_block complete_block (by decide)⟩

------------------------------------------------------------
-- The Stores of the Threads
------------------------------------------------------------

/- The stores of the block into a shared array, one after another. -/
def applyStores
    (mem : Nat → K)
    (stores : List (Nat × K)) :
    Nat → K :=
  stores.foldl (fun m st => Function.update m st.1 st.2) mem

omit [Field K] in
/- An index no store names keeps its value. -/
theorem applyStores_of_forall_ne
    {idx : Nat} :
    ∀ {mem : Nat → K} {stores : List (Nat × K)}, (∀ st ∈ stores, st.1 ≠ idx) →
      applyStores mem stores idx = mem idx
  | _, [], _ => rfl
  | mem, st :: stores, h => by
      rw [applyStores, List.foldl_cons, ← applyStores,
        applyStores_of_forall_ne fun st' hMem => h st' (List.mem_cons_of_mem _ hMem),
        Function.update_noteq (h st (List.mem_cons_self _ _)).symm]

omit [Field K] in
/- An index that some store names, and that every store naming it sets to `v`, holds `v`. -/
theorem applyStores_of_forall_eq
    {idx : Nat}
    {v : K} :
    ∀ {mem : Nat → K} {stores : List (Nat × K)}, (∀ st ∈ stores, st.1 = idx → st.2 = v) →
      (∃ st ∈ stores, st.1 = idx) → applyStores mem stores idx = v
  | _, [], _, ⟨_, hMem, _⟩ => absurd hMem (List.not_mem_nil _)
  | mem, st :: stores, hAll, hSome => by
      have hRest : ∀ st' ∈ stores, st'.1 = idx → st'.2 = v :=
        fun st' hMem => hAll st' (List.mem_cons_of_mem _ hMem)
      rw [applyStores, List.foldl_cons, ← applyStores]
      by_cases hLater : ∃ st' ∈ stores, st'.1 = idx
      · exact applyStores_of_forall_eq hRest hLater
      · obtain ⟨st', hMem, hIdx⟩ := hSome
        have hHead : st.1 = idx := by
          rcases List.mem_cons.1 hMem with rfl | hMem
          · exact hIdx
          · exact absurd ⟨st', hMem, hIdx⟩ hLater
        rw [applyStores_of_forall_ne fun st' hMem hEq => hLater ⟨st', hMem, hEq⟩, ← hHead,
          Function.update_same, hAll st (List.mem_cons_self _ _) hHead]

/- The threads `(threadIdx.x, threadIdx.y)` of a block. -/
def blockThreads
    (blockDimX blockDimY : Nat) :
    List (Nat × Nat) :=
  (List.range blockDimY).flatMap fun ty => (List.range blockDimX).map fun tx => (tx, ty)

@[simp] theorem mem_blockThreads
    {blockDimX blockDimY : Nat}
    {t : Nat × Nat} :
    t ∈ blockThreads blockDimX blockDimY ↔ t.1 < blockDimX ∧ t.2 < blockDimY := by
  obtain ⟨tx, ty⟩ := t
  simp only [blockThreads, List.mem_flatMap, List.mem_range, List.mem_map, Prod.mk.injEq]
  exact ⟨fun ⟨_, hy, _, hx, hEq⟩ => hEq.1 ▸ hEq.2 ▸ ⟨hx, hy⟩,
    fun ⟨hx, hy⟩ => ⟨ty, hy, tx, hx, rfl, rfl⟩⟩

/- The stores of every thread of the block into `sm_a`, before the `__syncthreads()`. -/
def constructStores
    (p : DslashParam K)
    (blockDimX blockDimY : Nat) :
    List (Nat × K) :=
  (blockThreads blockDimX blockDimY).flatMap fun t => constructA p t.1 t.2

/- `sm_a` after "Construct matrix A", from what it held before. -/
def constructSmA
    (p : DslashParam K)
    (blockDimX blockDimY : Nat)
    (smA0 : Nat → K) :
    Nat → K :=
  applyStores smA0 (constructStores p blockDimX blockDimY)

/- Each store of a block body is at a row of its `one_or_zero`, with the value of its place. -/
theorem mem_blockStores
    {h c r : Nat}
    {R L v : K}
    (hh : h < 2)
    (hMem : ((c, r), v) ∈ blockStores h R L) :
    c < 4 ∧ r / 2 = h ∧ v = if c % 2 = r % 2 then R + (if c = r then 1 else -1) * L else 0 := by
  interval_cases h <;>
    simp only [blockStores, List.mem_cons, List.mem_singleton, Prod.mk.injEq,
      List.not_mem_nil, or_false] at hMem <;>
    rcases hMem with ⟨⟨rfl, rfl⟩, rfl⟩ | ⟨⟨rfl, rfl⟩, rfl⟩ | ⟨⟨rfl, rfl⟩, rfl⟩ | ⟨⟨rfl, rfl⟩, rfl⟩ |
      ⟨⟨rfl, rfl⟩, rfl⟩ | ⟨⟨rfl, rfl⟩, rfl⟩ | ⟨⟨rfl, rfl⟩, rfl⟩ | ⟨⟨rfl, rfl⟩, rfl⟩ <;>
    norm_num

/- The body for `one_or_zero = r / 2` stores at every column `c` and row `r`. -/
theorem exists_mem_blockStores
    (R L : K)
    {c r : Nat}
    (hc : c < 4) :
    ∃ v, ((c, r), v) ∈ blockStores (r / 2) R L := by
  have hKey : (c, r) ∈ (blockStores (r / 2) R L).map Prod.fst := by
    simp only [blockStores, List.map_cons, List.map_nil, List.mem_cons, Prod.mk.injEq,
      List.not_mem_nil, or_false]
    omega
  obtain ⟨⟨_, v⟩, hMem, rfl⟩ := List.mem_map.1 hKey
  exact ⟨v, hMem⟩

/- An entry of A, from the value the block body stores at its place. -/
theorem matrixA_apply_lookup
    (p : DslashParam K)
    (s t : Fin p.Ls)
    (i j : Fin 4) :
    matrixA p (s, i) (t, j) =
      if j.val % 2 = i.val % 2 then
        factorR p (kappaAt p s) s t +
          (if j.val = i.val then 1 else -1) * factorL p (kappaAt p s) s t
      else 0 := by
  have hBounds : ∀ q ∈
      blockStores 0 (factorR p (kappaAt p s) s t) (factorL p (kappaAt p s) s t) ++
        blockStores 1 (factorR p (kappaAt p s) s t) (factorL p (kappaAt p s) s t),
      q.1.1 < 4 ∧ q.1.2 < 4 := by
    rintro ⟨⟨c, r⟩, v⟩ hq
    rcases List.mem_append.1 hq with hq | hq <;>
      obtain ⟨hc, hr, -⟩ := mem_blockStores (by decide) hq <;> exact ⟨hc, show r < 4 by omega⟩
  rw [matrixA, Matrix.of_apply, storeA, storeA, ← List.map_append,
    lookup_map_storeIndex s t hBounds j.2 i.2, lookup_blockStores _ _ _ _ j.2 i.2]

/-
  With `Ls <= 12` and blocks of at least 32 threads in x, `sm_a` holds
  A after "Construct matrix A" at every place of a column block the
  block covers, whatever it held before: exactly one thread stores
  there.
-/
theorem constructSmA_apply
    (p : DslashParam K)
    (hLs : p.Ls ≤ 12)
    {blockDimX blockDimY : Nat}
    (hX : 32 ≤ blockDimX)
    (smA0 : Nat → K)
    (s t : Fin p.Ls)
    (ht : t.val < blockDimY)
    (i j : Fin 4) :
    constructSmA p blockDimX blockDimY smA0 ((4 * t + j) * mSm + (4 * s + i)) =
      matrixA p (s, i) (t, j) := by
  have hs := s.2
  have hi := i.2
  have hj := j.2
  apply applyStores_of_forall_eq
  · intro st hSt hIdx
    obtain ⟨⟨tx, ty⟩, hThread, hSt⟩ := List.mem_flatMap.1 hSt
    obtain ⟨htx, -⟩ := mem_blockThreads.1 hThread
    simp only [constructA] at hSt
    split_ifs at hSt with hBody
    · obtain ⟨⟨⟨c, r⟩, v⟩, hMem, rfl⟩ := List.mem_map.1 hSt
      have hh : tx >>> 4 < 2 := by rw [Nat.shiftRight_eq_div_pow]; omega
      obtain ⟨hc, hr, rfl⟩ := mem_blockStores hh hMem
      simp only [storeIndex, mSm] at hIdx
      obtain ⟨rfl, rfl, hxxx, rfl⟩ : ty = t ∧ c = j ∧ tx - (tx >>> 4) * 16 = s ∧ r = i := by
        omega
      simp only [storeIndex]
      rw [hxxx, matrixA_apply_lookup]
    · exact absurd hSt (List.not_mem_nil _)
  · obtain ⟨v, hMem⟩ := exists_mem_blockStores (factorR p (kappaAt p s) s t)
      (factorL p (kappaAt p s) s t) j.2
    refine ⟨((4 * t + j) * mSm + (4 * s + i), v), List.mem_flatMap.2 ⟨(s + 16 * (i / 2), t),
      mem_blockThreads.2 ⟨by omega, ht⟩, ?_⟩, rfl⟩
    rw [constructA_eq_storeA p s.2 (by omega) (by omega)]
    exact List.mem_map.2 ⟨_, hMem, by simp only [storeIndex]; ring_nf⟩

------------------------------------------------------------
-- One Trip of the Grid-Stride Loop
------------------------------------------------------------

/- `scale = 1e4f`: B is stored scaled up and the product read back scaled down. -/
def scale : K := 10000

/-
  `sid = s5 * param.threads + s4`, with `s5 = blockIdx.y*blockDim.y +
  threadIdx.y` and `s4 = s4_base + threadIdx.x`.
-/
def threadSid
    (lp : LatticeParam)
    (blockDimY blockIdxY s4Base threadIdxX threadIdxY : Nat) :
    Nat :=
  (blockIdxY * blockDimY + threadIdxY) * lp.threads + (s4Base + threadIdxX)

/-
  The `sm_b` stores of a thread holding slice `slice`: for each spin and
  colour, `__floats2half2_rn(re*scale, im*scale)` at `half2` index
  `(offset_pre_m + offset_pre_n)/2 + c`, as its two halves.
-/
def storeB
    (blockDimX slice threadIdxX : Nat)
    (spinor : Fin 4 → Fin 3 → K × K) :
    List (Nat × K) :=
  (List.finRange 4).flatMap fun spin => (List.finRange 3).flatMap fun c =>
    let half2 := ((slice * 4 + spin) * nSm blockDimX + threadIdxX * 6) / 2 + c
    [(2 * half2, (spinor spin c).1 * scale), (2 * half2 + 1, (spinor spin c).2 * scale)]

/-
  The `sm_b` stores of the threads that are not idle in the trip from
  `s4_base`; `spinorIn` is what `READ_SPINOR` reads at a checkerboard
  index.
-/
def loadStores
    (lp : LatticeParam)
    (blockDimX blockDimY blockIdxY s4Base : Nat)
    (spinorIn : Nat → Fin 4 → Fin 3 → K × K) :
    List (Nat × K) :=
  (blockThreads blockDimX blockDimY).flatMap fun t =>
    if s4Base + t.1 < lp.threads then
      let X := fullIndex lp (threadSid lp blockDimY blockIdxY s4Base t.1 t.2)
      storeB blockDimX (coord4 lp X) t.1 (spinorIn (X / 2))
    else []

/- `o{spin}{c}_re` and `o{spin}{c}_im`: the product read back from `sm_c`, scaled down. -/
def readBack
    (blockDimX slice threadIdxX : Nat)
    (smC : Nat → K) :
    Fin 4 → Fin 3 → K × K :=
  fun spin c =>
    (smC ((slice * 4 + spin) * nSm blockDimX + threadIdxX * 6 + 2 * c) / scale,
      smC ((slice * 4 + spin) * nSm blockDimX + threadIdxX * 6 + 2 * c + 1) / scale)

/-
  `sm_c` after the tensor-core product of the trip from `s4_base`: what
  the thread reads back, and what the next trip starts from.
-/
def tripProduct
    (lp : LatticeParam)
    (blockDimX blockDimY blockIdxY s4Base : Nat)
    (smA smC : Nat → K)
    (spinorIn : Nat → Fin 4 → Fin 3 → K × K) :
    Nat → K :=
  wmmaGemm blockDimX blockDimY smA
    (applyStores smC (loadStores lp blockDimX blockDimY blockIdxY s4Base spinorIn))

/-
  One trip of the `while` loop from `s4_base`, on `sm_a` holding A and
  `sm_c` as the last trip left it: the spinor thread `(threadIdx.x,
  threadIdx.y)` writes back with `WRITE_SPINOR`, none for an idle one.
-/
def dslash5invTrip
    (lp : LatticeParam)
    (blockDimX blockDimY blockIdxY s4Base : Nat)
    (smA smC : Nat → K)
    (spinorIn : Nat → Fin 4 → Fin 3 → K × K)
    (threadIdxX threadIdxY : Nat) :
    Option (Fin 4 → Fin 3 → K × K) :=
  if s4Base + threadIdxX < lp.threads then
    let X := fullIndex lp (threadSid lp blockDimY blockIdxY s4Base threadIdxX threadIdxY)
    some (readBack blockDimX (coord4 lp X) threadIdxX
      (tripProduct lp blockDimX blockDimY blockIdxY s4Base smA smC spinorIn))
  else none

/- Two places of `sm_c` inside the padded rows are equal only at the same row and column. -/
theorem cell_inj
    {blockDimX row col row' col' : Nat}
    (hCol : col < nSm blockDimX)
    (hCol' : col' < nSm blockDimX)
    (h : row' * nSm blockDimX + col' = row * nSm blockDimX + col) :
    row' = row ∧ col' = col :=
  ⟨by rw [← cell_div blockDimX row' hCol', h, cell_div blockDimX row hCol],
    by rw [← cell_mod blockDimX row' hCol', h, cell_mod blockDimX row hCol]⟩

/- The halves of `half2` index `(offset_pre_m + offset_pre_n)/2 + c`. -/
theorem storeB_index
    (blockDimX row threadIdxX c : Nat) :
    2 * ((row * nSm blockDimX + threadIdxX * 6) / 2 + c) =
      row * nSm blockDimX + (threadIdxX * 6 + 2 * c) := by
  have hEven : row * nSm blockDimX % 2 = 0 := by
    rw [Nat.mul_mod, show nSm blockDimX % 2 = 0 by unfold nSm dimN; omega, Nat.mul_zero,
      Nat.zero_mod]
  omega

/- The stores of a thread are its spinor's real and imaginary parts, in its row and columns. -/
theorem mem_storeB
    {blockDimX slice threadIdxX : Nat}
    {spinor : Fin 4 → Fin 3 → K × K}
    {st : Nat × K}
    (hMem : st ∈ storeB blockDimX slice threadIdxX spinor) :
    ∃ spin : Fin 4, ∃ c : Fin 3,
      st = ((slice * 4 + spin) * nSm blockDimX + (threadIdxX * 6 + 2 * c),
        (spinor spin c).1 * scale) ∨
      st = ((slice * 4 + spin) * nSm blockDimX + (threadIdxX * 6 + 2 * c + 1),
        (spinor spin c).2 * scale) := by
  simp only [storeB, List.mem_flatMap, List.mem_finRange, true_and, List.mem_cons,
    List.mem_singleton, List.not_mem_nil, or_false, storeB_index] at hMem
  obtain ⟨spin, c, hSt⟩ := hMem
  exact ⟨spin, c, by simpa only [Nat.add_assoc] using hSt⟩

/- Every load of a trip is a store of a thread that is not idle, of the spinor of its site. -/
theorem mem_loadStores
    {lp : LatticeParam}
    (hLp : lp.Checkerboard)
    {blockDimX blockDimY : Nat}
    {s4Base : Nat}
    {spinorIn : Nat → Fin 4 → Fin 3 → K × K}
    {st : Nat × K}
    (hMem : st ∈ loadStores lp blockDimX blockDimY 0 s4Base spinorIn) :
    ∃ tx < blockDimX, ∃ ty < blockDimY, s4Base + tx < lp.threads ∧
      st ∈ storeB blockDimX ty tx (spinorIn (ty * lp.threads + (s4Base + tx))) := by
  obtain ⟨⟨tx, ty⟩, hThread, hSt⟩ := List.mem_flatMap.1 hMem
  obtain ⟨htx, hty⟩ := mem_blockThreads.1 hThread
  dsimp only at hSt htx hty
  split_ifs at hSt with hSite
  · obtain ⟨hHalf, hSlice, -⟩ := fullIndex_thread hLp ty hSite
    simp only [threadSid, Nat.zero_mul, Nat.zero_add, hHalf, hSlice] at hSt
    exact ⟨tx, htx, ty, hty, hSite, hSt⟩
  · exact absurd hSt (List.not_mem_nil _)

/-
  After the loads of a trip, `sm_b` holds every spin and colour of a
  thread that is not idle, scaled, in row `4 s5 + spin` and the
  thread's six columns, whatever `sm_c` held before.
-/
theorem loadStores_apply
    {lp : LatticeParam}
    (hLp : lp.Checkerboard)
    {blockDimX blockDimY : Nat}
    (s4Base : Nat)
    (smC : Nat → K)
    (spinorIn : Nat → Fin 4 → Fin 3 → K × K)
    {tx ty : Nat}
    (htx : tx < blockDimX)
    (hty : ty < blockDimY)
    (hSite : s4Base + tx < lp.threads)
    (spin : Fin 4)
    (c : Fin 3) :
    applyStores smC (loadStores lp blockDimX blockDimY 0 s4Base spinorIn)
        ((ty * 4 + spin) * nSm blockDimX + (tx * 6 + 2 * c)) =
      (spinorIn (ty * lp.threads + (s4Base + tx)) spin c).1 * scale ∧
    applyStores smC (loadStores lp blockDimX blockDimY 0 s4Base spinorIn)
        ((ty * 4 + spin) * nSm blockDimX + (tx * 6 + 2 * c + 1)) =
      (spinorIn (ty * lp.threads + (s4Base + tx)) spin c).2 * scale := by
  have hSpin := spin.2
  have hC := c.2
  have hMine : storeB blockDimX ty tx (spinorIn (ty * lp.threads + (s4Base + tx))) ⊆
      loadStores lp blockDimX blockDimY 0 s4Base spinorIn := fun st hSt => by
    obtain ⟨hHalf, hSlice, -⟩ := fullIndex_thread hLp ty hSite
    refine List.mem_flatMap.2 ⟨(tx, ty), mem_blockThreads.2 ⟨htx, hty⟩, ?_⟩
    simp only [if_pos hSite, threadSid, Nat.zero_mul, Nat.zero_add, hHalf, hSlice]
    exact hSt
  have hEntries : ∀ v ∈ [((ty * 4 + spin) * nSm blockDimX + (tx * 6 + 2 * c),
        (spinorIn (ty * lp.threads + (s4Base + tx)) spin c).1 * scale),
      ((ty * 4 + spin) * nSm blockDimX + (tx * 6 + 2 * c + 1),
        (spinorIn (ty * lp.threads + (s4Base + tx)) spin c).2 * scale)],
      v ∈ storeB blockDimX ty tx (spinorIn (ty * lp.threads + (s4Base + tx))) := fun v hv => by
    simp only [storeB, List.mem_flatMap, List.mem_finRange, true_and, storeB_index]
    exact ⟨spin, c, by simpa only [Nat.add_assoc] using hv⟩
  refine ⟨applyStores_of_forall_eq (fun st hSt hIdx => ?_)
      ⟨_, hMine (hEntries _ (List.mem_cons_self _ _)), rfl⟩,
    applyStores_of_forall_eq (fun st hSt hIdx => ?_)
      ⟨_, hMine (hEntries _ (List.mem_cons_of_mem _ (List.mem_cons_self _ _))), rfl⟩⟩ <;>
  obtain ⟨tx', htx', ty', hty', -, hSt'⟩ := mem_loadStores hLp hSt <;>
  obtain ⟨spin', c', rfl | rfl⟩ := mem_storeB hSt' <;>
  obtain ⟨hRow, hCol⟩ := cell_inj (by unfold nSm dimN; omega) (by unfold nSm dimN; omega) hIdx
  all_goals first
    | (exfalso; omega)
    | (obtain ⟨rfl, rfl⟩ : ty' = ty ∧ tx' = tx := ⟨by omega, by omega⟩
       obtain rfl : spin' = spin := Fin.ext (by omega)
       obtain rfl : c' = c := Fin.ext (by omega)
       rfl)

/-
  For a block of 12 threads in y and a width the kernel handles, and
  `Ls = 12`, row `4 s + spin` of the product in `sm_c` is row
  `(s, spin)` of A applied to the columns of B, whatever `sm_a` held
  before the kernel.
-/
theorem wmmaGemm_row
    (p : DslashParam K)
    (hLs : p.Ls = 12)
    {blockDimX : Nat}
    (hX : BlockWidth blockDimX)
    (smA0 smB : Nat → K)
    {s : Nat}
    (hs : s < p.Ls)
    (spin : Fin 4)
    {col : Nat}
    (hCol : col < dimN blockDimX) :
    wmmaGemm blockDimX 12 (constructSmA p blockDimX 12 smA0) smB
        ((s * 4 + spin) * nSm blockDimX + col) =
      ∑ t : Fin p.Ls, ∑ j : Fin 4, matrixA p (⟨s, hs⟩, spin) (t, j) *
        smB ((t * 4 + j) * nSm blockDimX + col) := by
  have hColSm : col < nSm blockDimX := by unfold nSm; omega
  have hRow := spin.2
  let F := fun q => constructSmA p blockDimX 12 smA0 ((s * 4 + spin) + q * mSm) *
    smB (q * nSm blockDimX + col)
  calc _ = ∑ q ∈ Finset.range (12 * 4), F q := by
        rw [wmmaGemm_width hX, cell_div blockDimX _ hColSm, cell_mod blockDimX _ hColSm,
          if_pos ⟨by unfold dimM; omega, hCol⟩, productEntry, cell_div blockDimX _ hColSm,
          cell_mod blockDimX _ hColSm]
        rfl
    _ = ∑ t ∈ Finset.range p.Ls, ∑ j ∈ Finset.range 4, F (t * 4 + j) := by
        rw [← sum_range_mul_add, hLs]
    _ = _ := by
        rw [Finset.sum_range]
        refine Finset.sum_congr rfl fun t _ => ?_
        rw [Finset.sum_range]
        refine Finset.sum_congr rfl fun j _ => ?_
        simp only [F]
        rw [← constructSmA_apply p hLs.le hX.builds smA0 ⟨s, hs⟩ t (show t.val < 12 by omega)
          spin j]
        congr 2
        unfold mSm
        ring

/-
  What the kernel is for at one site: `s4` of slice `s5` gets the row
  `(s5, spin)` of A applied to the spinors of `s4` in every slice,
  colour by colour.
-/
def Spec.dslash5invSite
    (p : DslashParam K)
    (lp : LatticeParam)
    (spinorIn : Nat → Fin 4 → Fin 3 → K × K)
    (s5 : Fin p.Ls)
    (s4 : Nat) :
    Fin 4 → Fin 3 → K × K :=
  fun spin c =>
    ((matrixA p *ᵥ fun tj => (spinorIn (tj.1 * lp.threads + s4) tj.2 c).1) (s5, spin),
      (matrixA p *ᵥ fun tj => (spinorIn (tj.1 * lp.threads + s4) tj.2 c).2) (s5, spin))

section Exact

variable [CharZero K]

/-
  One trip of the kernel, for a block of 12 threads in y and a width it
  handles, and `Ls = 12`: every thread that is not idle writes back its
  row of A applied to the spinors its site has in the twelve slices,
  read at `sid`, whatever `sm_a` held before the kernel and `sm_c`
  before the trip.
-/
theorem dslash5invTrip_eq
    (p : DslashParam K)
    (hLs : p.Ls = 12)
    {lp : LatticeParam}
    (hLp : lp.Checkerboard)
    {blockDimX : Nat}
    (hX : BlockWidth blockDimX)
    (s4Base : Nat)
    (smA0 smC : Nat → K)
    (spinorIn : Nat → Fin 4 → Fin 3 → K × K)
    {tx ty : Nat}
    (htx : tx < blockDimX)
    (hty : ty < 12)
    (hSite : s4Base + tx < lp.threads) :
    dslash5invTrip lp blockDimX 12 0 s4Base (constructSmA p blockDimX 12 smA0) smC spinorIn tx ty =
      some (Spec.dslash5invSite p lp spinorIn ⟨ty, by omega⟩ (s4Base + tx)) := by
  obtain ⟨-, hSlice, -⟩ := fullIndex_thread hLp ty hSite
  have hScale : (scale : K) ≠ 0 := by norm_num [scale]
  rw [dslash5invTrip, if_pos hSite]
  simp only [threadSid, tripProduct, Nat.zero_mul, Nat.zero_add, hSlice]
  congr 1
  funext spin c
  have hc := c.2
  simp only [readBack, Spec.dslash5invSite, Matrix.mulVec, Matrix.dotProduct,
    Fintype.sum_prod_type]
  rw [Nat.add_assoc _ (tx * 6) (2 * c), Nat.add_assoc _ (tx * 6 + 2 * c) 1,
    wmmaGemm_row p hLs hX smA0 _ (by omega) spin (by unfold dimN; omega),
    wmmaGemm_row p hLs hX smA0 _ (by omega) spin (by unfold dimN; omega)]
  refine Prod.ext ?_ ?_ <;> simp only [Finset.sum_div] <;>
    refine Finset.sum_congr rfl fun t _ => Finset.sum_congr rfl fun j _ => ?_
  · rw [(loadStores_apply hLp s4Base smC spinorIn htx (show t.val < 12 by omega) hSite j c).1,
      ← mul_assoc, mul_div_cancel_right₀ _ hScale]
  · rw [(loadStores_apply hLp s4Base smC spinorIn htx (show t.val < 12 by omega) hSite j c).2,
      ← mul_assoc, mul_div_cancel_right₀ _ hScale]

end Exact

------------------------------------------------------------
-- Fewer Slices Than Rows of A
------------------------------------------------------------

/- The rows of `sm_a` the block builds, at its first column, do not depend on what it held. -/
theorem constructSmA_congr_of_lt
    (p : DslashParam K)
    (hLs : p.Ls ≤ 12)
    {blockDimY : Nat}
    (smA0 smA0' : Nat → K)
    {q : Nat}
    (hqLs : q < 4 * p.Ls)
    (hqY : q < 4 * blockDimY) :
    constructSmA p 32 blockDimY smA0 (q * mSm) = constructSmA p 32 blockDimY smA0' (q * mSm) := by
  have hIdx : q * mSm = (4 * (q / 4) + q % 4) * mSm + (4 * 0 + 0) := by
    rw [Nat.div_add_mod]; rfl
  have hs : 0 < p.Ls := by omega
  rw [hIdx]
  exact (constructSmA_apply p hLs le_rfl smA0 ⟨0, hs⟩ ⟨q / 4, by omega⟩
      (show q / 4 < blockDimY by omega) ⟨0, by decide⟩ ⟨q % 4, by omega⟩).trans
    (constructSmA_apply p hLs le_rfl smA0' ⟨0, hs⟩ ⟨q / 4, by omega⟩
      (show q / 4 < blockDimY by omega) ⟨0, by decide⟩ ⟨q % 4, by omega⟩).symm

/-
  "Construct matrix A" writes the columns of the first `4 blockDim.y`
  rows of `sm_a` only; the later ones keep what `sm_a` held before
  the kernel, as the `memset` of `sm_a` is commented out.
-/
theorem constructSmA_of_le
    (p : DslashParam K)
    (hLs : p.Ls ≤ 12)
    {blockDimY : Nat}
    (smA0 : Nat → K)
    {q col : Nat}
    (hq : 4 * blockDimY ≤ q)
    (hCol : col < mSm) :
    constructSmA p 32 blockDimY smA0 (q * mSm + col) = smA0 (q * mSm + col) := by
  apply applyStores_of_forall_ne
  intro st hSt hIdx
  obtain ⟨⟨tx, ty⟩, hThread, hSt⟩ := List.mem_flatMap.1 hSt
  obtain ⟨htx, hty⟩ := mem_blockThreads.1 hThread
  simp only [constructA] at hSt
  split_ifs at hSt with hBody
  · obtain ⟨⟨⟨c, r⟩, v⟩, hMem, rfl⟩ := List.mem_map.1 hSt
    have hh : tx >>> 4 < 2 := by rw [Nat.shiftRight_eq_div_pow]; omega
    obtain ⟨hc, hr, -⟩ := mem_blockStores hh hMem
    simp only [storeIndex, mSm] at hIdx hCol
    omega
  · exact absurd hSt (List.not_mem_nil _)

/- The loads of a trip write the rows of the slices of the block only. -/
theorem loadStores_of_le
    {lp : LatticeParam}
    (hLp : lp.Checkerboard)
    {blockDimX blockDimY : Nat}
    (s4Base : Nat)
    (smC : Nat → K)
    (spinorIn : Nat → Fin 4 → Fin 3 → K × K)
    {q col : Nat}
    (hq : 4 * blockDimY ≤ q)
    (hCol : col < nSm blockDimX) :
    applyStores smC (loadStores lp blockDimX blockDimY 0 s4Base spinorIn)
        (q * nSm blockDimX + col) =
      smC (q * nSm blockDimX + col) := by
  apply applyStores_of_forall_ne
  intro st hSt hIdx
  obtain ⟨tx, htx, ty, hty, -, hB⟩ := mem_loadStores hLp hSt
  have hSpinCol : ∀ spin : Fin 4, ∀ c : Fin 3, tx * 6 + 2 * c + 1 < nSm blockDimX := fun _ c => by
    have := c.2
    unfold nSm dimN
    omega
  obtain ⟨spin, c, rfl | rfl⟩ := mem_storeB hB
  · have := (cell_inj hCol (by have := hSpinCol spin c; omega) hIdx).1
    omega
  · have := (cell_inj hCol (hSpinCol spin c) hIdx).1
    omega

/-
  With `Ls = 6` and the block of 32 by 6 threads, whose tile schedule
  takes every tile without a stale load, every entry of the product in
  `sm_c` adds to the 24 columns of A the block builds the 24 it never
  writes, against rows of `sm_b` no thread loads: what `sm_a` and
  `sm_c` held before the kernel.
-/
theorem tripProduct_six
    (p : DslashParam K)
    (hLs : p.Ls = 6)
    {lp : LatticeParam}
    (hLp : lp.Checkerboard)
    (s4Base : Nat)
    (smA0 smC : Nat → K)
    (spinorIn : Nat → Fin 4 → Fin 3 → K × K)
    {row col : Nat}
    (hRow : row < dimM)
    (hCol : col < dimN 32) :
    tripProduct lp 32 6 0 s4Base (constructSmA p 32 6 smA0) smC spinorIn (row * nSm 32 + col) =
      (∑ q ∈ Finset.range 24, constructSmA p 32 6 smA0 (row + q * mSm) *
        applyStores smC (loadStores lp 32 6 0 s4Base spinorIn) (q * nSm 32 + col)) +
      ∑ q ∈ Finset.range 24, smA0 ((24 + q) * mSm + row) * smC ((24 + q) * nSm 32 + col) := by
  have hNoStale : NoStaleLoad 32 6 := by decide
  have hComplete : Complete 32 6 := by decide
  have hColN : col < nSm 32 := by unfold nSm; omega
  rw [tripProduct, wmmaGemm_apply _ _ hNoStale hComplete (by decide), cell_div _ _ hColN,
    cell_mod _ _ hColN, if_pos ⟨hRow, hCol⟩, productEntry, cell_div _ _ hColN,
    cell_mod _ _ hColN,
    show dimM = 24 + 24 from rfl, Finset.sum_range_add]
  refine congrArg₂ (· + ·) rfl (Finset.sum_congr rfl fun q _ => ?_)
  rw [Nat.add_comm row, constructSmA_of_le p (by omega) _ (by omega) hRow,
    loadStores_of_le hLp s4Base _ _ (by omega) hColN]

/- Six slices of the sample parameters of `M5InvDagger`. -/
def sampleParam6 : DslashParam ℚ :=
  { sampleParam with Ls := 6 }

/-
  So for `Ls = 6` the spinor a thread writes back depends on what
  `sm_a` held before the kernel: two runs that differ only there write
  different spinors.
-/
theorem dslash5invTrip_reads_uninitialised :
    sampleParam6.Ls = 6 ∧ sampleLattice.Checkerboard ∧
      dslash5invTrip sampleLattice 32 6 0 0 (constructSmA sampleParam6 32 6 fun _ => 0)
          (fun _ => 1) (fun _ _ _ => (0, 0)) 0 0 ≠
        dslash5invTrip sampleLattice 32 6 0 0 (constructSmA sampleParam6 32 6 fun _ => 1)
          (fun _ => 1) (fun _ _ _ => (0, 0)) 0 0 := by
  -- the columns of A the block builds do not depend on `sm_a` before
  have hFirst : ∀ a : ℚ,
      ∑ q ∈ Finset.range 24, constructSmA sampleParam6 32 6 (fun _ => a) (0 + q * mSm) *
        applyStores (fun _ => 1) (loadStores sampleLattice 32 6 0 0 fun _ _ _ => (0, 0))
          (q * nSm 32 + 0) =
      ∑ q ∈ Finset.range 24, constructSmA sampleParam6 32 6 (fun _ => 0) (0 + q * mSm) *
        applyStores (fun _ => 1) (loadStores sampleLattice 32 6 0 0 fun _ _ _ => (0, 0))
          (q * nSm 32 + 0) := fun a => Finset.sum_congr rfl fun q hq => by
    have hq := Finset.mem_range.1 hq
    rw [Nat.zero_add, constructSmA_congr_of_lt sampleParam6 (by decide) _ (fun _ => 0)
      (show q < 4 * 6 by omega) (by omega)]
  refine ⟨rfl, sampleLattice_checkerboard, fun h => ?_⟩
  have hSite : 0 + 0 < sampleLattice.threads := by decide
  rw [dslash5invTrip, dslash5invTrip, if_pos hSite, if_pos hSite] at h
  have hRe := congrArg (fun o => (o 0 0).1) (Option.some.inj h)
  have hSlice :
      coord4 sampleLattice (fullIndex sampleLattice (threadSid sampleLattice 6 0 0 0 0)) = 0 := by
    decide
  simp only [readBack, hSlice] at hRe
  rw [show (0 * 4 + ((0 : Fin 4) : Nat)) * nSm 32 + 0 * 6 + 2 * ((0 : Fin 3) : Nat) =
      0 * nSm 32 + 0 from rfl,
    tripProduct_six _ rfl sampleLattice_checkerboard _ _ _ _ (by decide) (by decide),
    tripProduct_six _ rfl sampleLattice_checkerboard _ _ _ _ (by decide) (by decide), hFirst 1,
    div_left_inj' (by norm_num [scale])] at hRe
  simp at hRe

------------------------------------------------------------
-- Blocks Narrower Than 32 Threads
------------------------------------------------------------

/-
  "Construct matrix A" assumes 32 threads in x: thread `xxx` builds
  rows `4 xxx` and `4 xxx + 1` of row block `xxx`, and thread
  `xxx + 16` rows `4 xxx + 2` and `4 xxx + 3`.  A block of at most 16
  threads in x builds no row `4 s + 2` or `4 s + 3`: there `sm_a` keeps
  what it held before the kernel.
-/
theorem constructSmA_of_narrow
    (p : DslashParam K)
    {blockDimX blockDimY : Nat}
    (hX : blockDimX ≤ 16)
    (smA0 : Nat → K)
    {q row : Nat}
    (hRow : 2 ≤ row % 4) :
    constructSmA p blockDimX blockDimY smA0 (q * mSm + row) = smA0 (q * mSm + row) := by
  apply applyStores_of_forall_ne
  intro st hSt hIdx
  obtain ⟨⟨tx, ty⟩, hThread, hSt⟩ := List.mem_flatMap.1 hSt
  obtain ⟨htx, -⟩ := mem_blockThreads.1 hThread
  simp only [constructA] at hSt
  split_ifs at hSt with hBody
  · obtain ⟨⟨⟨c, r⟩, v⟩, hMem, rfl⟩ := List.mem_map.1 hSt
    have hZero : tx >>> 4 = 0 := by rw [Nat.shiftRight_eq_div_pow]; omega
    obtain ⟨hc, hr, -⟩ := mem_blockStores (hZero ▸ Nat.zero_lt_two) hMem
    simp only [storeIndex, mSm] at hIdx
    omega
  · exact absurd hSt (List.not_mem_nil _)

/-
  With at most 16 threads in x (8 or 16, so that the columns of B tile),
  the tile schedule takes every tile without a stale load, and every
  row `4 s + 2` or `4 s + 3` of the product in `sm_c` is that row of
  what `sm_a` held before the kernel applied to the loaded B, for every
  `Ls`.
-/
theorem tripProduct_narrow
    (p : DslashParam K)
    (lp : LatticeParam)
    {blockDimX : Nat}
    (hTiles : 8 ∣ blockDimX)
    (hPos : 0 < blockDimX)
    (hNarrow : blockDimX ≤ 16)
    (s4Base : Nat)
    (smA0 smC : Nat → K)
    (spinorIn : Nat → Fin 4 → Fin 3 → K × K)
    {row col : Nat}
    (hRow : row < dimM)
    (hUnbuilt : 2 ≤ row % 4)
    (hCol : col < dimN blockDimX) :
    tripProduct lp blockDimX 12 0 s4Base (constructSmA p blockDimX 12 smA0) smC spinorIn
        (row * nSm blockDimX + col) =
      ∑ q ∈ Finset.range dimM, smA0 (q * mSm + row) *
        applyStores smC (loadStores lp blockDimX 12 0 s4Base spinorIn)
          (q * nSm blockDimX + col) := by
  obtain ⟨k, rfl⟩ := hTiles
  have hk : 0 < k := by omega
  have hColN : col < nSm (8 * k) := by unfold nSm; omega
  have hTnDim : tnDim (8 * k) * 16 = dimN (8 * k) := by
    rw [tnDim_eight_mul]
    unfold dimN
    ring
  rw [tripProduct, wmmaGemm_apply _ _ (noStaleLoad_eight_mul hk) (complete_eight_mul hk) hTnDim,
    cell_div _ _ hColN, cell_mod _ _ hColN, if_pos ⟨hRow, hCol⟩, productEntry,
    cell_div _ _ hColN,
    cell_mod _ _ hColN]
  refine Finset.sum_congr rfl fun q _ => ?_
  rw [Nat.add_comm row, constructSmA_of_narrow p hNarrow smA0 hUnbuilt]

/- Twelve slices of the sample parameters of `M5InvDagger`. -/
def sampleParam12 : DslashParam ℚ :=
  { sampleParam with Ls := 12 }

/-
  So with 16 threads in x, even with `Ls = 12`, the spinor a thread
  writes back depends on what `sm_a` held before the kernel: two runs
  that differ only there write different spinors.
-/
theorem dslash5invTrip_narrow_reads_uninitialised :
    dslash5invTrip sampleLattice 16 12 0 0 (constructSmA sampleParam12 16 12 fun _ => 0)
        (fun _ => 0) (fun _ _ _ => (1, 0)) 0 0 ≠
      dslash5invTrip sampleLattice 16 12 0 0 (constructSmA sampleParam12 16 12 fun _ => 1)
        (fun _ => 0) (fun _ _ _ => (1, 0)) 0 0 := by
  -- every row of B that thread 0 loads holds `scale` in its first column
  have hLoad : ∀ q ∈ Finset.range dimM, applyStores (fun _ => (0 : ℚ))
      (loadStores sampleLattice 16 12 0 0 fun _ _ _ => ((1 : ℚ), 0)) (q * nSm 16 + 0) =
        scale := by
    intro q hq
    have hq := Finset.mem_range.1 hq
    have h := (loadStores_apply sampleLattice_checkerboard 0 (fun _ => (0 : ℚ))
      (fun _ _ _ => ((1 : ℚ), 0)) (show 0 < 16 by norm_num)
      (show q / 4 < 12 by unfold dimM at hq; omega) (by decide) ⟨q % 4, by omega⟩ 0).1
    simpa only [Nat.div_add_mod', Fin.val_zero, Nat.mul_zero, Nat.zero_mul, Nat.add_zero,
      one_mul] using h
  intro h
  have hSite : 0 + 0 < sampleLattice.threads := by decide
  rw [dslash5invTrip, dslash5invTrip, if_pos hSite, if_pos hSite] at h
  have hRe := congrArg (fun o => (o 2 0).1) (Option.some.inj h)
  have hSlice :
      coord4 sampleLattice (fullIndex sampleLattice (threadSid sampleLattice 12 0 0 0 0)) = 0 := by
    decide
  simp only [readBack, hSlice] at hRe
  rw [show (0 * 4 + ((2 : Fin 4) : Nat)) * nSm 16 + 0 * 6 + 2 * ((0 : Fin 3) : Nat) =
      2 * nSm 16 + 0 from rfl,
    tripProduct_narrow _ _ (by norm_num) (by norm_num) le_rfl _ _ _ _ (by decide) le_rfl
      (by decide),
    tripProduct_narrow _ _ (by norm_num) (by norm_num) le_rfl _ _ _ _ (by decide) le_rfl
      (by decide),
    div_left_inj' (by norm_num [scale])] at hRe
  simp only [zero_mul, one_mul, Finset.sum_const_zero, Finset.sum_congr rfl hLoad] at hRe
  norm_num [scale, dimM] at hRe

end M5InvDagger

end Quda
