import Quda.Blas.PureReductions

/-
  The heavy-quark residual norm.  `HeavyQuarkResidualNorm_` is the
  one functor whose `pre()` and `post()` do work: launched
  site-unrolled, `pre()` zeroes the site accumulator `aux`, the
  M-loop adds the squared moduli of the site's solution and
  residual components, and `post(sum)` adds both to the sum with
  the site's ratio, guarded by `aux.x > 0`.  The wrapper divides
  the summed ratios by the global site count after the all-reduce.

  `xpyHeavyQuarkResidualNorm_` reads the solution as `x + y`; the
  fused call is the norm of that sum.

  Main declarations:
    * `Spec.siteNorm2`, `Spec.heavyQuarkRatio`,
      `Spec.HeavyQuarkResidualNorm`
    * `launch_heavyQuarkNorm`
    * `HeavyQuarkResidualNorm_eq`, `xpyHeavyQuarkResidualNorm_fuses_sum`
-/

namespace Quda

variable {R : Type} [LinearOrderedField R] {P : Nat}

------------------------------------------------------------
-- The Documented Norm
------------------------------------------------------------

namespace Spec

/- `‖s‖^2` of one site: the squared moduli of its components, summed. -/
def siteNorm2
    (site : List (Double2 R)) :
    R :=
  (site.map Double2.normSq).sum

/- `q_s`: `‖r_s‖^2 / ‖x_s‖^2` when `‖x_s‖^2 > 0`, and `1` otherwise. -/
def heavyQuarkRatio
    (xs rs : List (Double2 R)) :
    R :=
  if 0 < siteNorm2 xs then siteNorm2 rs / siteNorm2 xs else 1

/-
  The zero triple unless `x` has three colours; otherwise
  `(Σ_s ‖x_s‖^2, Σ_s ‖r_s‖^2, (1 / (V P)) Σ_s q_s)` over the `V`
  sites of each of the `P` ranks, a site being `x`'s `siteSize`
  consecutive complex numbers.
-/
def HeavyQuarkResidualNorm
    (x r : ColorSpinorField R P) :
    Double3 R :=
  if x.nColor = 3 then
    ⟨norm2 x, norm2 r, 1 / (x.volume * P : R) * ∑ p,
      (List.zipWith heavyQuarkRatio (chunk x.siteSize (x.data p))
        (chunk x.siteSize (r.data p))).sum⟩
  else ⟨0, 0, 0⟩

theorem siteNorm2_nonneg
    (site : List (Double2 R)) :
    0 ≤ siteNorm2 site :=
  List.sum_nonneg fun _ hMem => by
    obtain ⟨c, -, rfl⟩ := List.mem_map.1 hMem
    exact add_nonneg (mul_self_nonneg _) (mul_self_nonneg _)

theorem heavyQuarkRatio_nonneg
    (xs rs : List (Double2 R)) :
    0 ≤ heavyQuarkRatio xs rs := by
  unfold heavyQuarkRatio
  split_ifs with hPos
  · exact div_nonneg (siteNorm2_nonneg rs) hPos.le
  · exact zero_le_one

/- Every site adds to `‖x‖^2` or to the ratios: the guard leaves no gap. -/
theorem siteNorm2_add_heavyQuarkRatio_pos
    (xs rs : List (Double2 R)) :
    0 < siteNorm2 xs + heavyQuarkRatio xs rs := by
  unfold heavyQuarkRatio
  split_ifs with hPos
  · exact add_pos_of_pos_of_nonneg hPos (div_nonneg (siteNorm2_nonneg rs) hPos.le)
  · rw [le_antisymm (not_lt.1 hPos) (siteNorm2_nonneg xs), zero_add]
    exact one_pos

end Spec

------------------------------------------------------------
-- Sites
------------------------------------------------------------

/- A list of `V` sites of `m > 0` elements cuts into `V` sites. -/
theorem length_chunk
    {α : Type}
    {m : Nat}
    (hm : 0 < m) :
    ∀ (V : Nat) (l : List α), l.length = V * m → (chunk m l).length = V
  | 0, l, h => by simp [List.eq_nil_of_length_eq_zero (by simpa using h), chunk]
  | V + 1, a :: l, h => by
      have hTail : (l.drop (m - 1)).length = V * m := by
        simp only [List.length_cons, Nat.succ_mul] at h
        simp only [List.length_drop]
        omega
      rw [chunk, List.length_cons, length_chunk hm V _ hTail]
  | V + 1, [], h => by simp at h; omega

/- Summing site by site sums every element. -/
theorem sum_map_chunk
    {α M : Type}
    [AddCommMonoid M]
    (m : Nat)
    (f : α → M)
    (l : List α) :
    ((chunk m l).map fun site => (site.map f).sum).sum = (l.map f).sum := by
  calc ((chunk m l).map fun site => (site.map f).sum).sum
      = ((chunk m l).map (List.map f)).flatten.sum := by
        rw [List.sum_flatten, List.map_map]
        rfl
    _ = (l.map f).sum := by rw [← List.map_flatten, flatten_chunk]

theorem sum_map_add_sum_zipWith
    {α β M : Type}
    [AddCommMonoid M]
    (f : α → M)
    (g : α → β → M) :
    ∀ (cs : List α) (ds : List β), cs.length = ds.length →
      (cs.map f).sum + (List.zipWith g cs ds).sum =
        (List.zipWith (fun c d => f c + g c d) cs ds).sum
  | [], [], _ => by simp
  | c :: cs, d :: ds, h => by
      simp [← sum_map_add_sum_zipWith f g cs ds (by simpa using h), add_add_add_comm]
  | [], _ :: _, h => by simp at h
  | _ :: _, [], h => by simp at h

/- The site norms of one slot add up to that slot's norm. -/
theorem sum_siteNorm2_chunk
    {α : Type}
    (m : Nat)
    (g : α → Double2 R)
    (l : List α) :
    ((chunk m l).map fun site => Spec.siteNorm2 (site.map g)).sum =
      ((l.map g).map Double2.normSq).sum := by
  simp only [Spec.siteNorm2, List.map_map]
  exact sum_map_chunk m _ l

/- Reading two slots of each site is cutting each slot into sites. -/
theorem zipWith_chunk_map
    {α β γ : Type}
    (m : Nat)
    (f : List α → List α → β)
    (g h : γ → α)
    (l : List γ) :
    List.zipWith f (chunk m (l.map g)) (chunk m (l.map h)) =
      (chunk m l).map fun site => f (site.map g) (site.map h) := by
  rw [chunk_map, chunk_map, List.zipWith_map, List.zipWith_same]

------------------------------------------------------------
-- One Rank's Launch
------------------------------------------------------------

/- One site at `double2`: the norms of its solution and residual parts, and their ratio. -/
theorem heavyQuarkNorm_indexEffect
    (sol res : (V : Type) → [FloatN V R] → Slots V → V)
    (a b : Double2 R)
    (site : List (Slots (Double2 R))) :
    indexEffect ((heavyQuarkNorm sol res).functor (Double2 R) a b) site =
      (⟨Spec.siteNorm2 (site.map (sol (Double2 R))), Spec.siteNorm2 (site.map (res (Double2 R))),
        Spec.heavyQuarkRatio (site.map (sol (Double2 R))) (site.map (res (Double2 R)))⟩,
        site) := by
  simp only [indexEffect, reduceIndex, heavyQuarkNorm_visit]
  simp [heavyQuarkNorm, Spec.heavyQuarkRatio, Spec.siteNorm2, Function.comp_def]

/- A site-unrolled `double2` launch on one rank sums the site triples. -/
theorem reduceRank_heavyQuarkNorm
    (sol res : (V : Type) → [FloatN V R] → Slots V → V)
    (m : Nat)
    (ops : Slots (List (Double2 R))) :
    (reduceRank ((heavyQuarkNorm sol res).functor (Double2 R) 0 0) true m ops).1 =
      ((chunk m (zip5 ops.x ops.y ops.z ops.w ops.v)).map fun site =>
        (⟨Spec.siteNorm2 (site.map (sol (Double2 R))),
          Spec.siteNorm2 (site.map (res (Double2 R))),
          Spec.heavyQuarkRatio (site.map (sol (Double2 R))) (site.map (res (Double2 R)))⟩ :
            Double3 R)).sum := by
  simp only [reduceRank, if_true, FloatN.load_double2, List.map_id,
    reduceThread_of_indexLocal (heavyQuarkNorm_indexLocal sol res 0 0),
    heavyQuarkNorm_indexEffect, zero_add]

/-
  The all-reduce of such launches, when the solution and residual
  parts read `S p` and `T p` on rank `p`: the summed norms of both
  and the summed site ratios.
-/
theorem launch_heavyQuarkNorm
    (sol res : (V : Type) → [FloatN V R] → Slots V → V)
    (writes : Slots Bool)
    (fields : Slots (ColorSpinorField R P))
    (S T : Fin P → List (Double2 R))
    (hS : ∀ p, (zip5 (fields.x.data p) (fields.y.data p) (fields.z.data p) (fields.w.data p)
      (fields.v.data p)).map (sol (Double2 R)) = S p)
    (hT : ∀ p, (zip5 (fields.x.data p) (fields.y.data p) (fields.z.data p) (fields.w.data p)
      (fields.v.data p)).map (res (Double2 R)) = T p) :
    (launch (heavyQuarkNorm sol res) .double2 writes true 0 0 fields).1 =
      ⟨∑ p, ((S p).map Double2.normSq).sum, ∑ p, ((T p).map Double2.normSq).sum,
        ∑ p, (List.zipWith Spec.heavyQuarkRatio (chunk fields.x.siteSize (S p))
          (chunk fields.x.siteSize (T p))).sum⟩ := by
  simp only [launch, reduceRankAs, reduceDoubleArray, Slots.map, reduceRank_heavyQuarkNorm,
    Double3.list_sum_mk, Double3.sum_mk, Double3.mk.injEq]
  refine ⟨Finset.sum_congr rfl fun p _ => ?_, Finset.sum_congr rfl fun p _ => ?_,
    Finset.sum_congr rfl fun p _ => ?_⟩
  · rw [sum_siteNorm2_chunk, hS p]
  · rw [sum_siteNorm2_chunk, hT p]
  · rw [← hS p, ← hT p, zipWith_chunk_map]

------------------------------------------------------------
-- The Wrappers
------------------------------------------------------------

/- The global site count `x.Volume()*comm_size()` below `2^31` is exact. -/
theorem intMul_volume_eq
    {x : ColorSpinorField R P}
    (hVP : x.volume * P < 2 ^ 31) :
    (intMul x.volume P : R) = x.volume * P := by
  rw [intMul_of_lt (by positivity) (by exact_mod_cast hVP)]
  push_cast
  rfl

/-
  On a compatible residual and a global site count below `2^31`,
  `HeavyQuarkResidualNorm` returns the documented triple.
-/
theorem HeavyQuarkResidualNorm_eq
    {x r : ColorSpinorField R P}
    (hr : Compatible x r)
    (hVP : x.volume * P < 2 ^ 31) :
    HeavyQuarkResidualNorm x r = .ok (Spec.HeavyQuarkResidualNorm x r) := by
  by_cases h3 : x.nColor = 3
  swap
  · simp only [HeavyQuarkResidualNorm, Spec.HeavyQuarkResidualNorm, h3, if_false, ne_eq,
      not_false_eq_true, if_true]
    rfl
  obtain ⟨-, -, -, -, -, -, -, -, -, -, -, -, -, hSplit, -⟩ := @catalog_splits R _ 0 0
  have hSlots := fun p => unzip_zip5 (x.data p) (r.data p) (r.data p) (r.data p) (r.data p)
    (ColorSpinorField.length_data_eq hr.2.1 p) (ColorSpinorField.length_data_eq hr.2.1 p)
    (ColorSpinorField.length_data_eq hr.2.1 p) (ColorSpinorField.length_data_eq hr.2.1 p)
  rw [HeavyQuarkResidualNorm, if_neg (not_not.2 h3), reduceCuda_eq_ok _ _ true 0 0 hr hr hr hr,
    launch_viewOf hSplit _ true ⟨x, r, r, r, r⟩ ⟨hr.2.1, hr.2.1, hr.2.1, hr.2.1⟩ (.inl rfl),
    HeavyQuarkResidualNorm_]
  simp only [Functor.map, Except.map, bind, Except.bind, pure, Except.pure,
    launch_heavyQuarkNorm (fun _ _ e => e.x) (fun _ _ e => e.y) _ ⟨x, r, r, r, r⟩ x.data r.data
      (fun p => congrArg Slots.x (hSlots p)) (fun p => congrArg Slots.y (hSlots p)),
    Spec.HeavyQuarkResidualNorm, h3, if_true, intMul_volume_eq hVP, Spec.norm2,
    one_div_mul_eq_div]

------------------------------------------------------------
-- The Heavy-Quark Norm
------------------------------------------------------------

/-
  With at least one site on at least one rank, the summed site
  norms of `x` and the summed ratios are never both zero.
-/
theorem norm2_add_sum_heavyQuarkRatio_pos
    {x r : ColorSpinorField R P}
    (hr : Compatible x r)
    (hP : 0 < P)
    (hV : 0 < x.volume)
    (h3 : x.nColor = 3) :
    0 < Spec.norm2 x + ∑ p, (List.zipWith Spec.heavyQuarkRatio
      (chunk x.siteSize (x.data p)) (chunk x.siteSize (r.data p))).sum := by
  have hSite : 0 < x.siteSize := by
    rcases x.nSpin_valid with h | h | h <;> simp [ColorSpinorField.siteSize, h, h3]
  have hSites : ∀ p, (chunk x.siteSize (x.data p)).length = x.volume ∧
      (chunk x.siteSize (r.data p)).length = x.volume := fun p =>
    ⟨length_chunk hSite _ _ (x.length_data p),
      length_chunk hSite _ _ ((ColorSpinorField.length_data_eq hr.2.1 p).trans
        (x.length_data p))⟩
  have hRank : ∀ p, ((x.data p).map Double2.normSq).sum +
      (List.zipWith Spec.heavyQuarkRatio (chunk x.siteSize (x.data p))
        (chunk x.siteSize (r.data p))).sum =
      (List.zipWith (fun c d => Spec.siteNorm2 c + Spec.heavyQuarkRatio c d)
        (chunk x.siteSize (x.data p)) (chunk x.siteSize (r.data p))).sum := fun p => by
    rw [← sum_map_chunk x.siteSize, sum_map_add_sum_zipWith _ _ _ _
      ((hSites p).1.trans (hSites p).2.symm)]
    rfl
  rw [Spec.norm2, ← Finset.sum_add_distrib]
  refine Finset.sum_pos (fun p _ => ?_) ⟨⟨0, hP⟩, Finset.mem_univ _⟩
  rw [hRank p]
  refine List.sum_pos _ (fun q hq => ?_) ?_
  · rw [← List.map_uncurry_zip_eq_zipWith] at hq
    obtain ⟨⟨c, d⟩, -, rfl⟩ := List.mem_map.1 hq
    exact Spec.siteNorm2_add_heavyQuarkRatio_pos c d
  · rw [← List.length_pos, List.length_zipWith, (hSites p).1, (hSites p).2, min_self]
    exact hV

/-
  `HeavyQuarkResidualNorm(x, r)` on a compatible residual, with
  `V ≥ 1` sites on each of `P ≥ 1` ranks and `V P < 2^31`: it
  returns the documented triple, which is the zero triple exactly
  when `x` does not have three colours, and the global site count
  it divides by is positive.
-/
theorem heavyQuarkResidualNorm_reference
    (x r : ColorSpinorField R P)
    (hr : Compatible x r)
    (hP : 0 < P)
    (hV : 0 < x.volume)
    (hVP : x.volume * P < 2 ^ 31) :
    HeavyQuarkResidualNorm x r = .ok (Spec.HeavyQuarkResidualNorm x r) ∧
    (Spec.HeavyQuarkResidualNorm x r = ⟨0, 0, 0⟩ ↔ x.nColor ≠ 3) ∧
    0 < intMul x.volume P := by
  have hCount : intMul x.volume P = x.volume * P :=
    intMul_of_lt (by positivity) (by exact_mod_cast hVP)
  refine ⟨HeavyQuarkResidualNorm_eq hr hVP, ⟨fun hZero h3 => ?_, fun h3 => ?_⟩,
    by rw [hCount]; exact_mod_cast Nat.mul_pos hV hP⟩
  · simp only [Spec.HeavyQuarkResidualNorm, h3, if_true, Double3.mk.injEq] at hZero
    obtain ⟨hX, -, hQ⟩ := hZero
    have hSites : (x.volume * P : R) ≠ 0 :=
      mul_ne_zero (Nat.cast_ne_zero.2 hV.ne') (Nat.cast_ne_zero.2 hP.ne')
    rw [one_div_mul_eq_div, div_eq_zero_iff, or_iff_left hSites] at hQ
    have hPos := norm2_add_sum_heavyQuarkRatio_pos hr hP hV h3
    rw [hX, hQ, add_zero] at hPos
    exact lt_irrefl 0 hPos
  · simp [Spec.HeavyQuarkResidualNorm, h3]

/- A three-colour site on one rank and its residual, for the check below. -/
def sampleSolution : ColorSpinorField ℚ 1 := .onOneRank 3 1 [⟨1, 0⟩, 0, 0] rfl
def sampleResidual : ColorSpinorField ℚ 1 := .onOneRank 3 1 [⟨0, 1⟩, 0, 0] rfl

theorem heavyQuarkResidualNorm_reference_sample :
    Compatible sampleSolution sampleResidual ∧ 0 < 1 ∧ 0 < sampleSolution.volume ∧
    sampleSolution.volume * 1 < 2 ^ 31 ∧
    HeavyQuarkResidualNorm sampleSolution sampleResidual =
      .ok (Spec.HeavyQuarkResidualNorm sampleSolution sampleResidual) ∧
    (Spec.HeavyQuarkResidualNorm sampleSolution sampleResidual = ⟨0, 0, 0⟩ ↔
      sampleSolution.nColor ≠ 3) ∧
    0 < intMul sampleSolution.volume 1 :=
  ⟨⟨rfl, rfl, rfl⟩, by decide, by decide, by decide,
    heavyQuarkResidualNorm_reference sampleSolution sampleResidual ⟨rfl, rfl, rfl⟩
      (by decide) (by decide) (by decide)⟩

------------------------------------------------------------
-- The Fused Solution
------------------------------------------------------------

/-
  `xpyHeavyQuarkResidualNorm(x, y, r)` returns the documented triple
  of the solution `x + y`, a field shaped as `x`.
-/
theorem xpyHeavyQuarkResidualNorm_eq
    {x y r : ColorSpinorField R P}
    (hy : Compatible x y)
    (hr : Compatible x r)
    (hVP : x.volume * P < 2 ^ 31) :
    xpyHeavyQuarkResidualNorm x y r =
      .ok (Spec.HeavyQuarkResidualNorm (Spec.assign x x y fun a b => a + b) r) := by
  by_cases h3 : x.nColor = 3
  swap
  · simp only [xpyHeavyQuarkResidualNorm, Spec.HeavyQuarkResidualNorm, Spec.assign,
      ColorSpinorField.store_nColor, h3, if_false, ne_eq, not_false_eq_true, if_true]
    rfl
  obtain ⟨-, -, -, -, -, -, -, -, -, -, -, -, -, -, hSplit, -⟩ := @catalog_splits R _ 0 0
  have hSlots := fun p => unzip_zip5 (x.data p) (y.data p) (r.data p) (r.data p) (r.data p)
    (ColorSpinorField.length_data_eq hy.2.1 p) (ColorSpinorField.length_data_eq hr.2.1 p)
    (ColorSpinorField.length_data_eq hr.2.1 p) (ColorSpinorField.length_data_eq hr.2.1 p)
  have hSum : ∀ p, (zip5 (x.data p) (y.data p) (r.data p) (r.data p) (r.data p)).map
      (fun e => e.x + e.y) = (Spec.assign x x y fun a b => a + b).data p := fun p => by
    have hXY := congrArg₂ (List.zipWith fun a b => a + b) (congrArg Slots.x (hSlots p))
      (congrArg Slots.y (hSlots p))
    rw [Spec.assign_data rfl hy.2.1, ← hXY]
    simp only [Slots.unzip, List.zipWith_map, List.zipWith_same]
  rw [xpyHeavyQuarkResidualNorm, if_neg (not_not.2 h3),
    reduceCuda_eq_ok _ _ true 0 0 hy hr hr hr,
    launch_viewOf hSplit _ true ⟨x, y, r, r, r⟩ ⟨hy.2.1, hr.2.1, hr.2.1, hr.2.1⟩ (.inl rfl),
    xpyHeavyQuarkResidualNorm_]
  simp only [Functor.map, Except.map, bind, Except.bind, pure, Except.pure,
    launch_heavyQuarkNorm (fun _ _ e => e.x + e.y) (fun _ _ e => e.z) _ ⟨x, y, r, r, r⟩ _
      r.data hSum (fun p => congrArg Slots.z (hSlots p)),
    Spec.HeavyQuarkResidualNorm, Spec.assign, ColorSpinorField.store_nColor,
    ColorSpinorField.store_volume, h3, if_true, intMul_volume_eq hVP, Spec.norm2,
    one_div_mul_eq_div]
  rfl

/-
  The fused kernel is the solver's `x + y` followed by
  `HeavyQuarkResidualNorm`: on compatible operands and a global site
  count below `2^31`, `xpyHeavyQuarkResidualNorm(x, y, r)` returns what
  `HeavyQuarkResidualNorm` returns on the sum `x + y` shaped as `x`,
  including the zero triple when `x` does not have three colours.  Its
  call of the dispatcher sets no write flag, so it hands back `x`, `y`
  and `r` as they were.
-/
theorem xpyHeavyQuarkResidualNorm_fuses_sum
    (x y r : ColorSpinorField R P)
    (hy : Compatible x y)
    (hr : Compatible x r)
    (hVP : x.volume * P < 2 ^ 31) :
    xpyHeavyQuarkResidualNorm x y r =
        HeavyQuarkResidualNorm (Spec.assign x x y fun a b => a + b) r ∧
      (reduceCuda xpyHeavyQuarkResidualNorm_ (writeFlags 0 0 0 0 0) true 0 0 x y r r r).map
        Prod.snd = .ok ⟨x, y, r, r, r⟩ := by
  refine ⟨?_, by rw [reduceCuda_eq_ok _ _ true 0 0 hy hr hr hr]; rfl⟩
  rw [xpyHeavyQuarkResidualNorm_eq hy hr hVP]
  exact (HeavyQuarkResidualNorm_eq (show Compatible (Spec.assign x x y fun a b => a + b) r from hr)
    hVP).symm

theorem xpyHeavyQuarkResidualNorm_fuses_sum_sample :
    Compatible sampleSolution sampleResidual ∧ Compatible sampleSolution sampleResidual ∧
    sampleSolution.volume * 1 < 2 ^ 31 ∧
    xpyHeavyQuarkResidualNorm sampleSolution sampleResidual sampleResidual =
        HeavyQuarkResidualNorm (Spec.assign sampleSolution sampleSolution sampleResidual
          fun a b => a + b) sampleResidual ∧
      (reduceCuda xpyHeavyQuarkResidualNorm_ (writeFlags 0 0 0 0 0) true 0 0 sampleSolution
          sampleResidual sampleResidual sampleResidual sampleResidual).map Prod.snd =
        .ok ⟨sampleSolution, sampleResidual, sampleResidual, sampleResidual, sampleResidual⟩ :=
  ⟨⟨rfl, rfl, rfl⟩, ⟨rfl, rfl, rfl⟩, by decide,
    xpyHeavyQuarkResidualNorm_fuses_sum sampleSolution sampleResidual sampleResidual
      ⟨rfl, rfl, rfl⟩ ⟨rfl, rfl, rfl⟩ (by decide)⟩

end Quda
