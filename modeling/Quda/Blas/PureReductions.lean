import Quda.Blas.Reference
import Quda.Blas.Reduce

/-
  The pure reductions against their documented sums.  Each wrapper
  on compatible operands returns the reference value of `Spec`, so
  the conjugate symmetry of `cDotProduct` and `norm2 = reDotProduct`
  on equal operands follow from the reference.

  `quadrupleCGReduction` is documented to return `norm(z)` fourth,
  but it binds `x` to the functor's `w` slot and returns `norm(x)`.

  Main declarations:
    * `norm1_eq`, `norm2_eq`, `reDotProduct_eq`, `cDotProduct_eq`,
      `cDotProductNormA_eq`, `tripleCGReduction_eq`,
      `quadrupleCGReduction_eq`
-/

namespace Quda

variable {R : Type} [LinearOrderedField R] {P : Nat}

------------------------------------------------------------
-- The Functors Are Element-Local
------------------------------------------------------------

theorem Norm1_local :
    ElementLocal (Norm1 : Reducer R R) 0 0 (fun e => |e.x.x| + |e.x.y|) id :=
  .ofOp (fun _ _ _ => by simp [joinSlots, Slots.zipWith, norm1_join, add_assoc])
    fun _ _ => rfl

theorem Norm2_local : ElementLocal (Norm2 : Reducer R R) 0 0 (fun e => e.x.normSq) id :=
  .ofOp (fun _ _ _ => rfl) fun _ _ => by simp

theorem Dot_local :
    ElementLocal (Dot : Reducer R R) 0 0 (fun e => (e.x.conj * e.y).x) id :=
  .ofOp (fun _ _ _ => rfl) fun _ _ => by simp

theorem Cdot_local :
    ElementLocal (Cdot : Reducer R (Double2 R)) 0 0 (fun e => e.x.conj * e.y) id :=
  .ofOp (fun _ _ _ => rfl) fun _ _ => by simp

theorem CdotNormA_local :
    ElementLocal (CdotNormA : Reducer R (Double3 R)) 0 0
      (fun e => ⟨(e.x.conj * e.y).x, (e.x.conj * e.y).y, e.x.normSq⟩) id :=
  .ofOp (fun _ _ _ => rfl) fun _ _ => by ext <;> simp [cdotNormA_]

theorem tripleCGReduction_local :
    ElementLocal (tripleCGReduction_ : Reducer R (Double3 R)) 0 0
      (fun e => ⟨e.x.normSq, e.y.normSq, (e.y.conj * e.z).x⟩) id :=
  .ofOp (fun _ _ _ => rfl) fun _ _ => by ext <;> simp

theorem quadrupleCGReduction_local :
    ElementLocal (quadrupleCGReduction_ : Reducer R (Double4 R)) 0 0
      (fun e => ⟨e.x.normSq, e.y.normSq, (e.y.conj * e.z).x, e.w.normSq⟩) id :=
  .ofOp (fun _ _ _ => rfl) fun _ _ => by ext <;> simp

------------------------------------------------------------
-- The Wrappers Compute the Reference
------------------------------------------------------------

theorem norm1_eq
    (x : ColorSpinorField R P) :
    norm1 x = .ok (Spec.norm1 x) := by
  have hx := Compatible.refl x
  rw [norm1, reduceCuda_of_local Norm1_local _ hx hx hx hx]
  simp only [Spec.norm1, Functor.map, Except.map, Except.ok.injEq]
  refine Finset.sum_congr rfl fun p _ => congrArg List.sum ?_
  exact map_zip5_data_eq hx hx hx hx p (by simp) fun k _ _ => by simp

theorem norm2_eq
    (x : ColorSpinorField R P) :
    norm2 x = .ok (Spec.norm2 x) := by
  have hx := Compatible.refl x
  rw [norm2, reduceCuda_of_local Norm2_local _ hx hx hx hx]
  simp only [Spec.norm2, Functor.map, Except.map, Except.ok.injEq]
  refine Finset.sum_congr rfl fun p _ => congrArg List.sum ?_
  exact map_zip5_data_eq hx hx hx hx p (by simp) fun k _ _ => by simp

theorem reDotProduct_eq
    {x y : ColorSpinorField R P}
    (hy : Compatible x y) :
    reDotProduct x y = .ok (Spec.reDotProduct x y) := by
  have hx := Compatible.refl x
  rw [reDotProduct, reduceCuda_of_local Dot_local _ hy hx hx hx]
  simp only [Spec.reDotProduct, Functor.map, Except.map, Except.ok.injEq]
  refine Finset.sum_congr rfl fun p _ => congrArg List.sum ?_
  exact map_zip5_data_eq hy hx hx hx p (by simp [hy.length_data p])
    fun k _ _ => by simp

theorem cDotProduct_eq
    {x y : ColorSpinorField R P}
    (hy : Compatible x y) :
    cDotProduct x y = .ok (Spec.cDotProduct x y) := by
  have hx := Compatible.refl x
  rw [cDotProduct, reduceCuda_of_local Cdot_local _ hy hx hx hx]
  simp only [Spec.cDotProduct, Functor.map, Except.map, Except.ok.injEq]
  refine Finset.sum_congr rfl fun p _ => congrArg List.sum ?_
  exact map_zip5_data_eq hy hx hx hx p (by simp [hy.length_data p])
    fun k _ _ => by simp

theorem cDotProductNormA_eq
    {x y : ColorSpinorField R P}
    (hy : Compatible x y) :
    cDotProductNormA x y =
      .ok ⟨(Spec.cDotProduct x y).x, (Spec.cDotProduct x y).y, Spec.norm2 x⟩ := by
  have hx := Compatible.refl x
  rw [cDotProductNormA, reduceCuda_of_local CdotNormA_local _ hy hx hx hx]
  simp only [Spec.cDotProduct, Spec.norm2, Functor.map, Except.map, Except.ok.injEq,
    Double3.list_sum_mk, Double3.sum_mk, Double2.sum_x, Double2.sum_y,
    Double2.list_sum_x, Double2.list_sum_y, Double3.mk.injEq]
  refine ⟨Finset.sum_congr rfl fun p _ => congrArg List.sum ?_,
    Finset.sum_congr rfl fun p _ => congrArg List.sum ?_,
    Finset.sum_congr rfl fun p _ => congrArg List.sum ?_⟩ <;>
  exact map_zip5_data_eq hy hx hx hx p (by simp [hy.length_data p])
    fun k _ _ => by simp

theorem tripleCGReduction_eq
    {x y z : ColorSpinorField R P}
    (hy : Compatible x y)
    (hz : Compatible x z) :
    tripleCGReduction x y z =
      .ok ⟨Spec.norm2 x, Spec.norm2 y, Spec.reDotProduct y z⟩ := by
  have hx := Compatible.refl x
  rw [tripleCGReduction, reduceCuda_of_local tripleCGReduction_local _ hy hz hx hx]
  simp only [Spec.norm2, Spec.reDotProduct, Functor.map, Except.map, Except.ok.injEq,
    Double3.list_sum_mk, Double3.sum_mk, Double3.mk.injEq]
  refine ⟨Finset.sum_congr rfl fun p _ => congrArg List.sum ?_,
    Finset.sum_congr rfl fun p _ => congrArg List.sum ?_,
    Finset.sum_congr rfl fun p _ => congrArg List.sum ?_⟩ <;>
  exact map_zip5_data_eq hy hz hx hx p (by simp [hy.length_data p, hz.length_data p])
    fun k _ _ => by simp

/-
  The fourth component reads the functor's `w` slot, which the
  wrapper binds to `x`.
-/
theorem quadrupleCGReduction_eq
    {x y z : ColorSpinorField R P}
    (hy : Compatible x y)
    (hz : Compatible x z) :
    quadrupleCGReduction x y z =
      .ok ⟨Spec.norm2 x, Spec.norm2 y, Spec.reDotProduct y z, Spec.norm2 x⟩ := by
  have hx := Compatible.refl x
  rw [quadrupleCGReduction, reduceCuda_of_local quadrupleCGReduction_local _ hy hz hx hx]
  simp only [Spec.norm2, Spec.reDotProduct, Functor.map, Except.map, Except.ok.injEq,
    Double4.list_sum_mk, Double4.sum_mk, Double4.mk.injEq]
  refine ⟨Finset.sum_congr rfl fun p _ => congrArg List.sum ?_,
    Finset.sum_congr rfl fun p _ => congrArg List.sum ?_,
    Finset.sum_congr rfl fun p _ => congrArg List.sum ?_,
    Finset.sum_congr rfl fun p _ => congrArg List.sum ?_⟩ <;>
  exact map_zip5_data_eq hy hz hx hx p (by simp [hy.length_data p, hz.length_data p])
    fun k _ _ => by simp

------------------------------------------------------------
-- The Pure Reductions
------------------------------------------------------------

/-
  On compatible operands every pure reduction returns its reference
  sum; hence `cDotProduct` is conjugate symmetric and `norm2` is the
  real dot product of a field with itself.
-/
theorem pureReductions_reference
    (x y z : ColorSpinorField R P)
    (hy : Compatible x y)
    (hz : Compatible x z) :
    norm1 x = .ok (Spec.norm1 x) ∧
    norm2 x = .ok (Spec.norm2 x) ∧
    reDotProduct x y = .ok (Spec.reDotProduct x y) ∧
    cDotProduct x y = .ok (Spec.cDotProduct x y) ∧
    cDotProductNormA x y =
      .ok ⟨(Spec.cDotProduct x y).x, (Spec.cDotProduct x y).y, Spec.norm2 x⟩ ∧
    tripleCGReduction x y z = .ok ⟨Spec.norm2 x, Spec.norm2 y, Spec.reDotProduct y z⟩ ∧
    cDotProduct x y = Double2.conj <$> cDotProduct y x ∧
    norm2 x = reDotProduct x x := by
  refine ⟨norm1_eq x, norm2_eq x, reDotProduct_eq hy, cDotProduct_eq hy,
    cDotProductNormA_eq hy, tripleCGReduction_eq hy hz, ?_, ?_⟩
  · rw [cDotProduct_eq hy, cDotProduct_eq hy.symm, Spec.cDotProduct_comm]
    rfl
  · rw [norm2_eq, reDotProduct_eq (Compatible.refl x), Spec.norm2_eq_reDotProduct]

/- One-site single-colour fields for the checks below. -/
def sampleX : ColorSpinorField ℚ 1 := .onOneRank 1 1 [⟨1, 0⟩] rfl
def sampleY : ColorSpinorField ℚ 1 := .onOneRank 1 1 [⟨0, 0⟩] rfl
def sampleZ : ColorSpinorField ℚ 1 := .onOneRank 1 1 [⟨0, 0⟩] rfl

theorem pureReductions_reference_sample :
    Compatible sampleX sampleY ∧ Compatible sampleX sampleZ ∧
    norm1 sampleX = .ok (Spec.norm1 sampleX) ∧
    norm2 sampleX = .ok (Spec.norm2 sampleX) ∧
    reDotProduct sampleX sampleY = .ok (Spec.reDotProduct sampleX sampleY) ∧
    cDotProduct sampleX sampleY = .ok (Spec.cDotProduct sampleX sampleY) ∧
    cDotProductNormA sampleX sampleY =
      .ok ⟨(Spec.cDotProduct sampleX sampleY).x, (Spec.cDotProduct sampleX sampleY).y,
        Spec.norm2 sampleX⟩ ∧
    tripleCGReduction sampleX sampleY sampleZ =
      .ok ⟨Spec.norm2 sampleX, Spec.norm2 sampleY, Spec.reDotProduct sampleY sampleZ⟩ ∧
    cDotProduct sampleX sampleY = Double2.conj <$> cDotProduct sampleY sampleX ∧
    norm2 sampleX = reDotProduct sampleX sampleX :=
  ⟨⟨rfl, rfl, rfl⟩, ⟨rfl, rfl, rfl⟩,
    pureReductions_reference sampleX sampleY sampleZ ⟨rfl, rfl, rfl⟩ ⟨rfl, rfl, rfl⟩⟩

/-
  `quadrupleCGReduction` returns `norm(x)`, not the documented
  `norm(z)`, fourth: on `x = (1)`, `y = z = (0)` it returns
  `(1, 0, 0, 1)`.
-/
theorem quadrupleCGReduction_fourth_not_normZ :
    quadrupleCGReduction sampleX sampleY sampleZ = .ok ⟨1, 0, 0, 1⟩ ∧
    quadrupleCGReduction sampleX sampleY sampleZ ≠
      .ok ⟨Spec.norm2 sampleX, Spec.norm2 sampleY, Spec.reDotProduct sampleY sampleZ,
        Spec.norm2 sampleZ⟩ := by
  have hy : Compatible sampleX sampleY := ⟨rfl, rfl, rfl⟩
  have hz : Compatible sampleX sampleZ := ⟨rfl, rfl, rfl⟩
  rw [quadrupleCGReduction_eq hy hz]
  norm_num [Spec.norm2, Spec.reDotProduct, Double2.normSq, sampleX, sampleY, sampleZ,
    ColorSpinorField.onOneRank]

end Quda
