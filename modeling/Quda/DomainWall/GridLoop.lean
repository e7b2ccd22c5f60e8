import Quda.DomainWall.TensorCore

/-
  The grid of the tensor-core kernel `dw_dslash5inv_dagger_core_sm_tc.h`.
  Block `blockIdx.x` builds A in its own `sm_a` and runs the
  grid-stride `while` loop from `s4_base = blockIdx.x*blockDim.x`: each
  trip starts from the `sm_c` the last one left and moves `s4_base` on
  by `gridDim.x*blockDim.x`.  Every thread that is not idle hands its
  `sid` and the spinor it read back to `WRITE_SPINOR`.

  For `Ls = 12`, blocks of 12 threads in y and a width the kernel
  handles in x (`BlockWidth`: a multiple of 8, and at least the 32
  threads that build A), and any number of blocks, the writes of the
  whole grid are those of the five-dimensional operator, in some
  order: every checkerboard site of every slice once, with its row of
  A applied to the spinors of the site.  No site is lost, none is
  written twice, and since each write is the operator's own, the
  order in which blocks and trips run does not matter.

  Main declarations:
    * `tripWrites`, `blockLoop`, `dslash5invKernel`, `Spec.dslash5invWrites`
    * `dslash5invKernel_perm`
-/

open scoped Matrix

namespace Quda

namespace M5InvDagger

variable {K : Type*} [Field K]

------------------------------------------------------------
-- The Loop and the Grid
------------------------------------------------------------

/- The `sid` and spinor of every thread of the trip from `s4_base` that writes back. -/
def tripWrites
    (lp : LatticeParam)
    (blockDimX blockDimY blockIdxY s4Base : Nat)
    (smA smC : Nat → K)
    (spinorIn : Nat → Fin 4 → Fin 3 → K × K) :
    List (Nat × (Fin 4 → Fin 3 → K × K)) :=
  (blockThreads blockDimX blockDimY).filterMap fun t =>
    (dslash5invTrip lp blockDimX blockDimY blockIdxY s4Base smA smC spinorIn t.1 t.2).map
      fun o => (threadSid lp blockDimY blockIdxY s4Base t.1 t.2, o)

/-
  `while (s4_base < param.threads)` of one block, from `s4_base` with
  `sm_c` as the last trip left it, for at most `fuel` trips.
-/
def blockLoop
    (lp : LatticeParam)
    (blockDimX blockDimY gridDimX blockIdxY : Nat)
    (smA : Nat → K)
    (spinorIn : Nat → Fin 4 → Fin 3 → K × K) :
    Nat → Nat → (Nat → K) → List (Nat × (Fin 4 → Fin 3 → K × K))
  | 0, _, _ => []
  | fuel + 1, s4Base, smC =>
    if s4Base < lp.threads then
      tripWrites lp blockDimX blockDimY blockIdxY s4Base smA smC spinorIn ++
        blockLoop lp blockDimX blockDimY gridDimX blockIdxY smA spinorIn fuel
          (s4Base + gridDimX * blockDimX)
          (tripProduct lp blockDimX blockDimY blockIdxY s4Base smA smC spinorIn)
    else []

/-
  The kernel on `gridDim.x` blocks of one row (`blockIdx.y = 0`: the
  slices fit one block): block `blockIdx.x` builds A over what
  `smA0 blockIdx.x` held in its `sm_a` and loops from
  `s4_base = blockIdx.x*blockDim.x` with `smC0 blockIdx.x` in its
  `sm_c`.  A loop whose trips each move `s4_base` on ends within
  `param.threads` trips.
-/
def dslash5invKernel
    (p : DslashParam K)
    (lp : LatticeParam)
    (blockDimX blockDimY gridDimX : Nat)
    (smA0 smC0 : Nat → Nat → K)
    (spinorIn : Nat → Fin 4 → Fin 3 → K × K) :
    List (Nat × (Fin 4 → Fin 3 → K × K)) :=
  (List.range gridDimX).flatMap fun blockIdxX =>
    blockLoop lp blockDimX blockDimY gridDimX 0
      (constructSmA p blockDimX blockDimY (smA0 blockIdxX)) spinorIn lp.threads
      (blockIdxX * blockDimX) (smC0 blockIdxX)

/- The writes of the five-dimensional operator: every site of every slice, slice by slice. -/
def Spec.dslash5invWrites
    (p : DslashParam K)
    (lp : LatticeParam)
    (spinorIn : Nat → Fin 4 → Fin 3 → K × K) :
    List (Nat × (Fin 4 → Fin 3 → K × K)) :=
  (List.finRange p.Ls).flatMap fun s5 => (List.range lp.threads).map fun s4 =>
    (s5 * lp.threads + s4, Spec.dslash5invSite p lp spinorIn s5 s4)

/- `w` is the operator's write at site `s4` of some slice. -/
def SiteWrite
    (p : DslashParam K)
    (lp : LatticeParam)
    (spinorIn : Nat → Fin 4 → Fin 3 → K × K)
    (s4 : Nat)
    (w : Nat × (Fin 4 → Fin 3 → K × K)) :
    Prop :=
  ∃ s5 : Fin p.Ls, w = (s5 * lp.threads + s4, Spec.dslash5invSite p lp spinorIn s5 s4)

------------------------------------------------------------
-- Sites of the Writes
------------------------------------------------------------

/- `s5 * param.threads + s4` with `s4 < param.threads` gives back `s5` and `s4`. -/
theorem slice_site_inj
    {T a b s s' : Nat}
    (hs : s < T)
    (hs' : s' < T)
    (h : a * T + s = b * T + s') :
    a = b ∧ s = s' := by
  rw [Nat.add_comm (a * T), Nat.add_comm (b * T)] at h
  have hDiv := congrArg (· / T) h
  have hMod := congrArg (· % T) h
  simp only [Nat.add_mul_div_right _ _ (Nat.zero_lt_of_lt hs), Nat.div_eq_of_lt hs,
    Nat.div_eq_of_lt hs', Nat.add_mul_mod_self_right, Nat.mod_eq_of_lt hs,
    Nat.mod_eq_of_lt hs'] at hDiv hMod
  omega

theorem SiteWrite.site_eq
    {p : DslashParam K}
    {lp : LatticeParam}
    {spinorIn : Nat → Fin 4 → Fin 3 → K × K}
    {s4 s4' : Nat}
    {w : Nat × (Fin 4 → Fin 3 → K × K)}
    (hs4 : s4 < lp.threads)
    (hs4' : s4' < lp.threads)
    (hW : SiteWrite p lp spinorIn s4 w)
    (hW' : SiteWrite p lp spinorIn s4' w) :
    s4 = s4' := by
  obtain ⟨s5, rfl⟩ := hW
  obtain ⟨s5', hEq⟩ := hW'
  exact (slice_site_inj hs4' hs4 (congrArg Prod.fst hEq).symm).2.symm

theorem blockThreads_nodup
    (blockDimX blockDimY : Nat) :
    (blockThreads blockDimX blockDimY).Nodup := by
  refine List.nodup_flatMap.2 ⟨fun ty _ => (List.nodup_range _).map fun tx tx' h =>
    (Prod.mk.inj h).1, (List.nodup_range _).pairwise_of_forall_ne fun ty _ ty' _ hne =>
      List.disjoint_left.2 fun t ht ht' => hne ?_⟩
  simp only [List.mem_map] at ht ht'
  obtain ⟨tx, -, rfl⟩ := ht
  obtain ⟨tx', -, hEq⟩ := ht'
  exact (Prod.mk.inj hEq).2.symm

theorem active_of_dslash5invTrip
    {lp : LatticeParam}
    {blockDimX blockDimY blockIdxY s4Base : Nat}
    {smA smC : Nat → K}
    {spinorIn : Nat → Fin 4 → Fin 3 → K × K}
    {tx ty : Nat}
    {o : Fin 4 → Fin 3 → K × K}
    (h : dslash5invTrip lp blockDimX blockDimY blockIdxY s4Base smA smC spinorIn tx ty = some o) :
    s4Base + tx < lp.threads := by
  by_contra hIdle
  simp [dslash5invTrip, hIdle] at h

/- Two threads of a trip never hand the same `sid` to `WRITE_SPINOR`. -/
theorem tripWrites_nodup
    (lp : LatticeParam)
    (blockDimX blockDimY blockIdxY s4Base : Nat)
    (smA smC : Nat → K)
    (spinorIn : Nat → Fin 4 → Fin 3 → K × K) :
    (tripWrites lp blockDimX blockDimY blockIdxY s4Base smA smC spinorIn).Nodup := by
  refine List.Nodup.filterMap ?_ (blockThreads_nodup blockDimX blockDimY)
  rintro ⟨tx, ty⟩ ⟨tx', ty'⟩ w hw hw'
  simp only [Option.mem_def, Option.map_eq_some'] at hw hw'
  obtain ⟨o, hTrip, rfl⟩ := hw
  obtain ⟨o', hTrip', hEq⟩ := hw'
  have hSid := slice_site_inj (active_of_dslash5invTrip hTrip')
    (active_of_dslash5invTrip hTrip) (congrArg Prod.fst hEq)
  simp only [Prod.mk.injEq]
  omega

theorem mem_dslash5invWrites
    {p : DslashParam K}
    {lp : LatticeParam}
    {spinorIn : Nat → Fin 4 → Fin 3 → K × K}
    {w : Nat × (Fin 4 → Fin 3 → K × K)} :
    w ∈ Spec.dslash5invWrites p lp spinorIn ↔ ∃ s4 < lp.threads, SiteWrite p lp spinorIn s4 w := by
  simp only [Spec.dslash5invWrites, List.mem_flatMap, List.mem_finRange, List.mem_map,
    List.mem_range, true_and, SiteWrite]
  constructor
  · rintro ⟨s5, s4, hs4, rfl⟩
    exact ⟨s4, hs4, s5, rfl⟩
  · rintro ⟨s4, hs4, s5, rfl⟩
    exact ⟨s5, s4, hs4, rfl⟩

/- The operator writes each site of each slice once. -/
theorem dslash5invWrites_nodup
    (p : DslashParam K)
    (lp : LatticeParam)
    (spinorIn : Nat → Fin 4 → Fin 3 → K × K) :
    (Spec.dslash5invWrites p lp spinorIn).Nodup := by
  refine List.nodup_flatMap.2 ⟨fun s5 _ => (List.nodup_range _).map_on fun s4 hs4 s4' hs4' h =>
    (slice_site_inj (List.mem_range.1 hs4) (List.mem_range.1 hs4') (congrArg Prod.fst h)).2,
      (List.nodup_finRange _).pairwise_of_forall_ne fun s5 _ s5' _ hne =>
        List.disjoint_left.2 fun w hw hw' => hne ?_⟩
  simp only [List.mem_map, List.mem_range] at hw hw'
  obtain ⟨s4, hs4, rfl⟩ := hw
  obtain ⟨s4', hs4', hEq⟩ := hw'
  exact Fin.ext (slice_site_inj hs4' hs4 (congrArg Prod.fst hEq)).1.symm

------------------------------------------------------------
-- The Writes of a Trip, a Block and the Grid
------------------------------------------------------------

section Grid

variable [CharZero K] {p : DslashParam K} {lp : LatticeParam}
  {spinorIn : Nat → Fin 4 → Fin 3 → K × K}

/-
  A trip from `s4_base` writes the operator at the sites
  `s4_base + threadIdx.x` below `param.threads`.
-/
theorem mem_tripWrites
    (hLs : p.Ls = 12)
    (hLp : lp.Checkerboard)
    {blockDimX : Nat}
    (hX : BlockWidth blockDimX)
    {s4Base : Nat}
    {smA0 smC : Nat → K}
    {w : Nat × (Fin 4 → Fin 3 → K × K)} :
    w ∈ tripWrites lp blockDimX 12 0 s4Base (constructSmA p blockDimX 12 smA0) smC spinorIn ↔
      ∃ tx < blockDimX, s4Base + tx < lp.threads ∧ SiteWrite p lp spinorIn (s4Base + tx) w := by
  simp only [tripWrites, List.mem_filterMap, mem_blockThreads, Option.map_eq_some']
  constructor
  · rintro ⟨⟨tx, ty⟩, ⟨htx, hty⟩, o, hTrip, rfl⟩
    have hSite := active_of_dslash5invTrip hTrip
    rw [dslash5invTrip_eq p hLs hLp hX s4Base smA0 smC spinorIn htx hty hSite] at hTrip
    cases hTrip
    exact ⟨tx, htx, hSite, ⟨ty, by omega⟩, by simp [threadSid]⟩
  · rintro ⟨tx, htx, hSite, s5, rfl⟩
    exact ⟨(tx, s5), ⟨htx, by omega⟩, _,
      dslash5invTrip_eq p hLs hLp hX s4Base smA0 smC spinorIn htx (by omega) hSite,
      by simp [threadSid]⟩

/-
  The loop of a block writes, in its trip `k`, the operator at the sites
  `s4_base + k*gridDim.x*blockDim.x + threadIdx.x` below
  `param.threads`, whatever `sm_c` it starts from.
-/
theorem mem_blockLoop
    (hLs : p.Ls = 12)
    (hLp : lp.Checkerboard)
    {blockDimX : Nat}
    (hX : BlockWidth blockDimX)
    {gridDimX : Nat}
    {smA0 : Nat → K}
    {w : Nat × (Fin 4 → Fin 3 → K × K)}
    (fuel s4Base : Nat)
    (smC : Nat → K) :
    w ∈ blockLoop lp blockDimX 12 gridDimX 0 (constructSmA p blockDimX 12 smA0) spinorIn fuel
        s4Base smC ↔
      ∃ k < fuel, ∃ tx < blockDimX, s4Base + k * (gridDimX * blockDimX) + tx < lp.threads ∧
        SiteWrite p lp spinorIn (s4Base + k * (gridDimX * blockDimX) + tx) w := by
  induction fuel generalizing s4Base smC with
  | zero => simp [blockLoop]
  | succ fuel ih =>
    have hNext : ∀ k, s4Base + gridDimX * blockDimX + k * (gridDimX * blockDimX) =
        s4Base + (k + 1) * (gridDimX * blockDimX) := fun k => by ring
    rw [blockLoop]
    split_ifs with hBase
    · rw [List.mem_append, mem_tripWrites hLs hLp hX, ih]
      constructor
      · rintro (⟨tx, htx, hW⟩ | ⟨k, hk, tx, htx, hW⟩)
        · exact ⟨0, by omega, tx, htx, by simpa using hW⟩
        · exact ⟨k + 1, by omega, tx, htx, hNext k ▸ hW⟩
      · rintro ⟨_ | k, hk, tx, htx, hW⟩
        · exact .inl ⟨tx, htx, by simpa using hW⟩
        · exact .inr ⟨k, by omega, tx, htx, (hNext k).symm ▸ hW⟩
    · simp only [List.not_mem_nil, false_iff, not_exists, not_and]
      intro k _ tx _ hSite
      omega

/- The loop of a block writes each site once: its trips hold disjoint runs of `s4`. -/
theorem blockLoop_nodup
    (hLs : p.Ls = 12)
    (hLp : lp.Checkerboard)
    {blockDimX : Nat}
    (hX : BlockWidth blockDimX)
    {gridDimX : Nat}
    (hGrid : 0 < gridDimX)
    (smA0 : Nat → K)
    (fuel s4Base : Nat)
    (smC : Nat → K) :
    (blockLoop lp blockDimX 12 gridDimX 0 (constructSmA p blockDimX 12 smA0) spinorIn fuel s4Base
      smC).Nodup := by
  induction fuel generalizing s4Base smC with
  | zero => exact List.nodup_nil
  | succ fuel ih =>
    rw [blockLoop]
    split_ifs
    · refine List.nodup_append.2 ⟨tripWrites_nodup .., ih _ _,
        List.disjoint_left.2 fun w hw hw' => ?_⟩
      obtain ⟨tx, htx, hSite, hW⟩ := (mem_tripWrites hLs hLp hX).1 hw
      obtain ⟨k, -, tx', htx', hSite', hW'⟩ := (mem_blockLoop hLs hLp hX _ _ _).1 hw'
      have hEq := hW.site_eq hSite hSite' hW'
      have hStride : blockDimX ≤ gridDimX * blockDimX := Nat.le_mul_of_pos_left _ hGrid
      omega
    · exact List.nodup_nil

/-
  Block `blockIdx.x` is the one whose trips reach site `s4`:
  `s4 / blockDim.x` is `blockIdx.x` modulo `gridDim.x`.
-/
theorem block_of_site
    {blockDimX gridDimX blockIdxX k tx : Nat}
    (hBlock : blockIdxX < gridDimX)
    (htx : tx < blockDimX) :
    (blockIdxX * blockDimX + k * (gridDimX * blockDimX) + tx) / blockDimX % gridDimX =
      blockIdxX := by
  rw [show blockIdxX * blockDimX + k * (gridDimX * blockDimX) + tx =
      tx + blockDimX * (blockIdxX + gridDimX * k) by ring,
    div_add_mul_of_lt _ htx, Nat.add_mul_mod_self_left, Nat.mod_eq_of_lt hBlock]

/- The grid writes the operator at every site below `param.threads` and nowhere else. -/
theorem mem_dslash5invKernel
    (hLs : p.Ls = 12)
    (hLp : lp.Checkerboard)
    {blockDimX : Nat}
    (hX : BlockWidth blockDimX)
    {gridDimX : Nat}
    (hGrid : 0 < gridDimX)
    {smA0 smC0 : Nat → Nat → K}
    {w : Nat × (Fin 4 → Fin 3 → K × K)} :
    w ∈ dslash5invKernel p lp blockDimX 12 gridDimX smA0 smC0 spinorIn ↔
      ∃ s4 < lp.threads, SiteWrite p lp spinorIn s4 w := by
  simp only [dslash5invKernel, List.mem_flatMap, List.mem_range, mem_blockLoop hLs hLp hX]
  constructor
  · rintro ⟨_, -, _, -, _, -, hSite, hW⟩
    exact ⟨_, hSite, hW⟩
  · rintro ⟨s4, hs4, hW⟩
    -- trip `k` of block `blockIdx.x` holds `s4` at thread `s4 % blockDim.x`
    have hSplit := Nat.div_add_mod s4 blockDimX
    have hRow := Nat.div_add_mod (s4 / blockDimX) gridDimX
    have hTrip : s4 / blockDimX % gridDimX * blockDimX +
        s4 / blockDimX / gridDimX * (gridDimX * blockDimX) =
        blockDimX * (gridDimX * (s4 / blockDimX / gridDimX) + s4 / blockDimX % gridDimX) := by
      ring
    rw [hRow] at hTrip
    have hk := Nat.div_le_self (s4 / blockDimX) gridDimX
    have hq := Nat.div_le_self s4 blockDimX
    refine ⟨s4 / blockDimX % gridDimX, Nat.mod_lt _ hGrid, s4 / blockDimX / gridDimX, by omega,
      s4 % blockDimX, Nat.mod_lt _ (by have := hX.builds; omega), ?_⟩
    rw [hTrip, hSplit]
    exact ⟨hs4, hW⟩

/- Two blocks never write the same site, and none writes a site twice. -/
theorem dslash5invKernel_nodup
    (hLs : p.Ls = 12)
    (hLp : lp.Checkerboard)
    {blockDimX : Nat}
    (hX : BlockWidth blockDimX)
    {gridDimX : Nat}
    (hGrid : 0 < gridDimX)
    (smA0 smC0 : Nat → Nat → K) :
    (dslash5invKernel p lp blockDimX 12 gridDimX smA0 smC0 spinorIn).Nodup := by
  refine List.nodup_flatMap.2 ⟨fun _ _ => blockLoop_nodup hLs hLp hX hGrid .., ?_⟩
  refine (List.nodup_range _).pairwise_of_forall_ne fun b hb b' hb' hne =>
    List.disjoint_left.2 fun w hw hw' => hne ?_
  obtain ⟨k, -, tx, htx, hSite, hW⟩ := (mem_blockLoop hLs hLp hX _ _ _).1 hw
  obtain ⟨k', -, tx', htx', hSite', hW'⟩ := (mem_blockLoop hLs hLp hX _ _ _).1 hw'
  rw [← block_of_site (List.mem_range.1 hb) htx,
    ← block_of_site (k := k') (List.mem_range.1 hb') htx', hW.site_eq hSite hSite' hW']

/-
  The kernel computes the five-dimensional operator: for `Ls = 12`, a
  block of 12 threads in y and any width in x that is a multiple of 8
  and at least the 32 threads that build A, any number of blocks, on
  every checkerboard lattice, the `sid`s and spinors its grid hands to
  `WRITE_SPINOR` are those of `Spec.dslash5invWrites` up to order,
  whatever the shared memory of each block held before the kernel.
-/
theorem dslash5invKernel_perm
    (p : DslashParam K)
    (hLs : p.Ls = 12)
    {lp : LatticeParam}
    (hLp : lp.Checkerboard)
    {blockDimX : Nat}
    (hX : BlockWidth blockDimX)
    {gridDimX : Nat}
    (hGrid : 0 < gridDimX)
    (smA0 smC0 : Nat → Nat → K)
    (spinorIn : Nat → Fin 4 → Fin 3 → K × K) :
    (dslash5invKernel p lp blockDimX 12 gridDimX smA0 smC0 spinorIn).Perm
      (Spec.dslash5invWrites p lp spinorIn) :=
  (List.perm_ext_iff_of_nodup (dslash5invKernel_nodup hLs hLp hX hGrid smA0 smC0)
    (dslash5invWrites_nodup p lp spinorIn)).2 fun _ => by
      rw [mem_dslash5invKernel hLs hLp hX hGrid, mem_dslash5invWrites]

theorem dslash5invKernel_perm_sample :
    sampleParam12.Ls = 12 ∧ sampleLattice.Checkerboard ∧ BlockWidth 48 ∧ 0 < 3 ∧
    (dslash5invKernel sampleParam12 sampleLattice 48 12 3 0 0
        fun n _ _ => ((n : ℚ), 1)).Perm
      (Spec.dslash5invWrites sampleParam12 sampleLattice fun n _ _ => ((n : ℚ), 1)) :=
  have hX : BlockWidth 48 := ⟨by norm_num, by norm_num⟩
  ⟨rfl, sampleLattice_checkerboard, hX, by decide,
    dslash5invKernel_perm sampleParam12 rfl sampleLattice_checkerboard hX (by decide) 0 0 _⟩

------------------------------------------------------------
-- What the Kernel Solves
------------------------------------------------------------

end Grid

end M5InvDagger

end Quda
