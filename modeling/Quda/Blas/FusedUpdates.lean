import Quda.Blas.PureReductions

/-
  The fused update-and-reduce entry points against the whole-field
  updates they are documented to perform.  `Spec.axpbyzNorm` and
  its siblings apply the updates one after another to whole fields
  and reduce the result; each wrapper, on compatible operands,
  stores the same fields, leaves the others as they were, and
  returns the same value.

  Main declarations:
    * `Spec.axpbyzNorm` ... `Spec.axpyCGNorm`
    * `axpbyzNorm_eq` ... `axpyCGNorm_eq`
-/

namespace Quda

variable {R : Type} [LinearOrderedField R] {P : Nat}

------------------------------------------------------------
-- The Documented Updates
------------------------------------------------------------

namespace Spec

/- `z ← a x + b y`; returns `‖z‖^2`, and `x, y, z`. -/
def axpbyzNorm
    (a : R)
    (x : ColorSpinorField R P)
    (b : R)
    (y z : ColorSpinorField R P) :
    R × ColorSpinorField R P × ColorSpinorField R P × ColorSpinorField R P :=
  let z := assign z x y fun xk yk => a • xk + b • yk
  (norm2 z, x, y, z)

/- `y ← y + a x`; returns `Σ Re(conj(x) y)`, and `x, y`. -/
def axpyReDot
    (a : R)
    (x y : ColorSpinorField R P) :
    R × ColorSpinorField R P × ColorSpinorField R P :=
  let y := assign y y x fun yk xk => yk + a • xk
  (reDotProduct x y, x, y)

/- `y ← a x + y`; returns `‖y‖^2`, and `x, y`. -/
def caxpyNorm
    (a : Double2 R)
    (x y : ColorSpinorField R P) :
    R × ColorSpinorField R P × ColorSpinorField R P :=
  let y := assign y x y fun xk yk => a * xk + yk
  (norm2 y, x, y)

/- `y ← a x + y`, then `x ← x - a z`; returns `‖x‖^2`, and `x, y, z`. -/
def caxpyXmazNormX
    (a : Double2 R)
    (x y z : ColorSpinorField R P) :
    R × ColorSpinorField R P × ColorSpinorField R P × ColorSpinorField R P :=
  let y := assign y x y fun xk yk => a * xk + yk
  let x := assign x x z fun xk zk => xk - a * zk
  (norm2 x, x, y, z)

/- `x ← a x`, then `z ← y + b x`; returns `‖z‖^2`, and `x, y, z`. -/
def cabxpyzAxNorm
    (a : R)
    (b : Double2 R)
    (x y z : ColorSpinorField R P) :
    R × ColorSpinorField R P × ColorSpinorField R P × ColorSpinorField R P :=
  let x := assign x x x fun xk _ => a • xk
  let z := assign z y x fun yk xk => yk + b * xk
  (norm2 z, x, y, z)

/- `y ← a x + y`; returns `Σ conj(z) y`, and `x, y, z`. -/
def caxpyDotzy
    (a : Double2 R)
    (x y z : ColorSpinorField R P) :
    Double2 R × ColorSpinorField R P × ColorSpinorField R P × ColorSpinorField R P :=
  let y := assign y x y fun xk yk => a * xk + yk
  (cDotProduct z y, x, y, z)

/-
  `z ← z + a x + b y`, then `y ← y - b w`; returns
  `(Σ conj(u) y, ‖y‖^2)`, and `x, y, z, w, u`.
-/
def caxpbypzYmbwcDotProductUYNormY
    (a : Double2 R)
    (x : ColorSpinorField R P)
    (b : Double2 R)
    (y z w u : ColorSpinorField R P) :
    Double3 R × ColorSpinorField R P × ColorSpinorField R P × ColorSpinorField R P ×
      ColorSpinorField R P × ColorSpinorField R P :=
  let z' := assign z x z fun xk zk => zk + a * xk
  let z := assign z y z' fun yk zk => zk + b * yk
  let y := assign y y w fun yk wk => yk - b * wk
  (⟨(cDotProduct u y).x, (cDotProduct u y).y, norm2 y⟩, x, y, z, w, u)

/- `y' ← y + a x`; returns `(‖y'‖^2, Σ Re(conj(y') (y' - y)))`, and `x, y'`. -/
def axpyCGNorm
    (a : R)
    (x y : ColorSpinorField R P) :
    Double2 R × ColorSpinorField R P × ColorSpinorField R P :=
  let y' := assign y y x fun yk xk => yk + a • xk
  (⟨norm2 y', reDotProduct y' (assign y y' y fun yk' yk => yk' - yk)⟩, x, y')

end Spec

------------------------------------------------------------
-- The Functors Are Element-Local
------------------------------------------------------------

theorem axpbyzNorm2_local
    (a b : R) :
    ElementLocal (axpbyzNorm2 : Reducer R R) ⟨a, 0⟩ ⟨b, 0⟩
      (fun e => (a • e.x + b • e.y).normSq) fun e => { e with z := a • e.x + b • e.y } :=
  .ofOp (fun _ _ _ => rfl) fun _ _ => by simp

theorem AxpyReDot_local
    (a : R) :
    ElementLocal (AxpyReDot : Reducer R R) ⟨a, 0⟩ 0
      (fun e => (e.x.conj * (e.y + a • e.x)).x) fun e => { e with y := e.y + a • e.x } :=
  .ofOp (fun _ _ _ => rfl) fun _ _ => by simp

theorem caxpyNorm2_local
    (a : Double2 R) :
    ElementLocal (caxpyNorm2 : Reducer R R) a 0
      (fun e => (a * e.x + e.y).normSq) fun e => { e with y := a * e.x + e.y } :=
  .ofOp (fun _ _ _ => rfl) fun _ _ => by simp

theorem caxpyxmaznormx_local
    (a : Double2 R) :
    ElementLocal (caxpyxmaznormx : Reducer R R) a 0
      (fun e => (e.x - a * e.z).normSq)
      fun e => { e with x := e.x - a * e.z, y := a * e.x + e.y } :=
  .ofOp (fun _ _ _ => rfl) fun _ _ => by simp

theorem cabxpyzaxnorm_local
    (a : R)
    (b : Double2 R) :
    ElementLocal (cabxpyzaxnorm : Reducer R R) ⟨a, 0⟩ b
      (fun e => (e.y + b * a • e.x).normSq)
      fun e => { e with x := a • e.x, y := e.y + b * a • e.x, z := e.y + b * a • e.x } :=
  .ofOp (fun _ _ _ => rfl) fun _ _ => by simp [add_comm]

theorem caxpydotzy_local
    (a : Double2 R) :
    ElementLocal (caxpydotzy : Reducer R (Double2 R)) a 0
      (fun e => e.z.conj * (a * e.x + e.y)) fun e => { e with y := a * e.x + e.y } :=
  .ofOp (fun _ _ _ => rfl) fun _ _ => by simp

theorem caxpbypzYmbwcDotProductUYNormY_local
    (a b : Double2 R) :
    ElementLocal (caxpbypzYmbwcDotProductUYNormY_ : Reducer R (Double3 R)) a b
      (fun e => ⟨(e.v.conj * (e.y - b * e.w)).x, (e.v.conj * (e.y - b * e.w)).y,
        (e.y - b * e.w).normSq⟩)
      fun e => { e with y := e.y - b * e.w, z := e.z + a * e.x + b * e.y } := by
  refine .ofOp (fun _ _ _ => rfl) fun _ _ => ?_
  simp only [caxpy_double2, Double2.neg_mul_add, cdotNormB_, cdot_double2, norm2_double2,
    Prod.mk.injEq]
  refine ⟨by ext <;> simp, ?_⟩
  ext <;> simp <;> ring

theorem axpyCGNorm2_local
    (a : R) :
    ElementLocal (axpyCGNorm2 : Reducer R (Double2 R)) ⟨a, 0⟩ 0
      (fun e => ⟨(e.z + a • e.x).normSq,
        ((e.z + a • e.x).conj * (e.z + a • e.x - e.z)).x⟩)
      fun e => { e with z := e.z + a • e.x } :=
  .ofOp (fun _ _ _ => rfl) fun _ _ => by ext <;> simp

------------------------------------------------------------
-- The Wrappers Perform the Documented Updates
------------------------------------------------------------

theorem axpbyzNorm_eq
    (a b : R)
    {x y z : ColorSpinorField R P}
    (hy : Compatible x y)
    (hz : Compatible x z) :
    axpbyzNorm a x b y z = .ok (Spec.axpbyzNorm a x b y z) := by
  have hx := Compatible.refl x
  rw [axpbyzNorm, reduceCuda_of_local (axpbyzNorm2_local a b) _ hy hz hx hx]
  simp only [Spec.axpbyzNorm, bind, Except.bind, pure, Except.pure, Except.ok.injEq, Prod.mk.injEq,
    writeBack, storeIf, writeFlags, decide_eq_true_eq, zero_ne_one, if_true, if_false, true_and,
    Slots.unzip_z, List.map_map]
  have hzx : z.length = x.length := hz.2.1.symm
  have hzy : z.length = y.length := hz.2.1.symm.trans hy.2.1
  refine ⟨?_, congrArg z.store (funext fun p => ?_)⟩
  · simp only [Spec.norm2, Spec.assign_data hzx hzy]
    refine Finset.sum_congr rfl fun p _ => congrArg List.sum ?_
    exact map_zip5_data_eq hy hz hx hx p (by simp [hy.length_data p, hz.length_data p])
      fun k _ _ => by simp
  · exact map_zip5_data_eq hy hz hx hx p (by simp [hy.length_data p, hz.length_data p])
      fun k _ _ => by simp

theorem axpyReDot_eq
    (a : R)
    {x y : ColorSpinorField R P}
    (hy : Compatible x y) :
    axpyReDot a x y = .ok (Spec.axpyReDot a x y) := by
  have hx := Compatible.refl x
  rw [axpyReDot, reduceCuda_of_local (AxpyReDot_local a) _ hy hx hx hx]
  simp only [Spec.axpyReDot, bind, Except.bind, pure, Except.pure, Except.ok.injEq, Prod.mk.injEq,
    writeBack, storeIf, writeFlags, decide_eq_true_eq, zero_ne_one, if_true, if_false, true_and,
    Slots.unzip_y, List.map_map]
  have hyx : y.length = x.length := hy.2.1.symm
  refine ⟨?_, congrArg y.store (funext fun p => ?_)⟩
  · simp only [Spec.reDotProduct, Spec.assign_data rfl hyx]
    refine Finset.sum_congr rfl fun p _ => congrArg List.sum ?_
    exact map_zip5_data_eq hy hx hx hx p (by simp [hy.length_data p])
      fun k _ _ => by simp
  · exact map_zip5_data_eq hy hx hx hx p (by simp [hy.length_data p])
      fun k _ _ => by simp

theorem caxpyNorm_eq
    (a : Double2 R)
    {x y : ColorSpinorField R P}
    (hy : Compatible x y) :
    caxpyNorm a x y = .ok (Spec.caxpyNorm a x y) := by
  have hx := Compatible.refl x
  rw [caxpyNorm, reduceCuda_of_local (caxpyNorm2_local a) _ hy hx hx hx]
  simp only [Spec.caxpyNorm, bind, Except.bind, pure, Except.pure, Except.ok.injEq, Prod.mk.injEq,
    writeBack, storeIf, writeFlags, decide_eq_true_eq, zero_ne_one, if_true, if_false, true_and,
    Slots.unzip_y, List.map_map]
  have hyx : y.length = x.length := hy.2.1.symm
  refine ⟨?_, congrArg y.store (funext fun p => ?_)⟩
  · simp only [Spec.norm2, Spec.assign_data hyx rfl]
    refine Finset.sum_congr rfl fun p _ => congrArg List.sum ?_
    exact map_zip5_data_eq hy hx hx hx p (by simp [hy.length_data p])
      fun k _ _ => by simp
  · exact map_zip5_data_eq hy hx hx hx p (by simp [hy.length_data p])
      fun k _ _ => by simp

theorem caxpyXmazNormX_eq
    (a : Double2 R)
    {x y z : ColorSpinorField R P}
    (hy : Compatible x y)
    (hz : Compatible x z) :
    caxpyXmazNormX a x y z = .ok (Spec.caxpyXmazNormX a x y z) := by
  have hx := Compatible.refl x
  rw [caxpyXmazNormX, reduceCuda_of_local (caxpyxmaznormx_local a) _ hy hz hx hx]
  simp only [Spec.caxpyXmazNormX, bind, Except.bind, pure, Except.pure, Except.ok.injEq,
    Prod.mk.injEq, writeBack, storeIf, writeFlags, decide_eq_true_eq, zero_ne_one, if_true,
    if_false, and_true, Slots.unzip_x, Slots.unzip_y, List.map_map]
  have hyx : y.length = x.length := hy.2.1.symm
  refine ⟨?_, congrArg x.store (funext fun p => ?_), congrArg y.store (funext fun p => ?_)⟩
  · simp only [Spec.norm2, Spec.assign_data rfl hz.2.1]
    refine Finset.sum_congr rfl fun p _ => congrArg List.sum ?_
    exact map_zip5_data_eq hy hz hx hx p (by simp [hy.length_data p, hz.length_data p])
      fun k _ _ => by simp
  all_goals
    exact map_zip5_data_eq hy hz hx hx p (by simp [hy.length_data p, hz.length_data p])
      fun k _ _ => by simp

theorem cabxpyzAxNorm_eq
    (a : R)
    (b : Double2 R)
    {x y z : ColorSpinorField R P}
    (hy : Compatible x y)
    (hz : Compatible x z) :
    cabxpyzAxNorm a b x y z = .ok (Spec.cabxpyzAxNorm a b x y z) := by
  have hx := Compatible.refl x
  rw [cabxpyzAxNorm, reduceCuda_of_local (cabxpyzaxnorm_local a b) _ hy hz hx hx]
  simp only [Spec.cabxpyzAxNorm, bind, Except.bind, pure, Except.pure, Except.ok.injEq,
    Prod.mk.injEq, writeBack, storeIf, writeFlags, decide_eq_true_eq, zero_ne_one, if_true,
    if_false, true_and, Slots.unzip_x, Slots.unzip_z, List.map_map]
  refine ⟨?_, congrArg x.store (funext fun p => ?_), congrArg z.store (funext fun p => ?_)⟩
  · simp only [Spec.norm2, Spec.assign_data, Spec.assign_length, hy.2.1.symm,
      hz.2.1.symm]
    refine Finset.sum_congr rfl fun p _ => congrArg List.sum ?_
    exact map_zip5_data_eq hy hz hx hx p (by simp [hy.length_data p, hz.length_data p])
      fun k _ _ => by simp
  · exact map_zip5_data_eq hy hz hx hx p (by simp [hy.length_data p, hz.length_data p])
      fun k _ _ => by simp
  · simp only [Spec.assign_data rfl rfl]
    exact map_zip5_data_eq hy hz hx hx p (by simp [hy.length_data p, hz.length_data p])
      fun k _ _ => by simp

theorem caxpyDotzy_eq
    (a : Double2 R)
    {x y z : ColorSpinorField R P}
    (hy : Compatible x y)
    (hz : Compatible x z) :
    caxpyDotzy a x y z = .ok (Spec.caxpyDotzy a x y z) := by
  have hx := Compatible.refl x
  rw [caxpyDotzy, reduceCuda_of_local (caxpydotzy_local a) _ hy hz hx hx]
  simp only [Spec.caxpyDotzy, bind, Except.bind, pure, Except.pure, Except.ok.injEq, Prod.mk.injEq,
    writeBack, storeIf, writeFlags, decide_eq_true_eq, zero_ne_one, if_true, if_false, true_and,
    and_true, Slots.unzip_y, List.map_map]
  have hyx : y.length = x.length := hy.2.1.symm
  refine ⟨?_, congrArg y.store (funext fun p => ?_)⟩
  · simp only [Spec.cDotProduct, Spec.assign_data hyx rfl]
    refine Finset.sum_congr rfl fun p _ => congrArg List.sum ?_
    exact map_zip5_data_eq hy hz hx hx p (by simp [hy.length_data p, hz.length_data p])
      fun k _ _ => by simp
  · exact map_zip5_data_eq hy hz hx hx p (by simp [hy.length_data p, hz.length_data p])
      fun k _ _ => by simp

theorem caxpbypzYmbwcDotProductUYNormY_eq
    (a b : Double2 R)
    {x y z w u : ColorSpinorField R P}
    (hy : Compatible x y)
    (hz : Compatible x z)
    (hw : Compatible x w)
    (hu : Compatible x u) :
    caxpbypzYmbwcDotProductUYNormY a x b y z w u =
      .ok (Spec.caxpbypzYmbwcDotProductUYNormY a x b y z w u) := by
  rw [caxpbypzYmbwcDotProductUYNormY, if_neg (not_not.2 hz.1),
    reduceCuda_of_local (caxpbypzYmbwcDotProductUYNormY_local a b) _ hy hz hw hu]
  simp only [Spec.caxpbypzYmbwcDotProductUYNormY, bind, Except.bind, pure, Except.pure,
    Except.ok.injEq, Prod.mk.injEq, writeBack, storeIf, writeFlags, decide_eq_true_eq, zero_ne_one,
    if_true, if_false, true_and, and_true, Slots.unzip_y, Slots.unzip_z, List.map_map]
  refine ⟨?_, congrArg y.store (funext fun p => ?_), congrArg z.store (funext fun p => ?_)⟩
  · simp only [Spec.norm2, Spec.cDotProduct, Spec.assign_data, Spec.assign_length,
      hy.2.1.symm, hw.2.1.symm, Double3.list_sum_mk, Double3.sum_mk, Double2.sum_x,
      Double2.sum_y, Double2.list_sum_x, Double2.list_sum_y, Double3.mk.injEq]
    refine ⟨Finset.sum_congr rfl fun p _ => congrArg List.sum ?_,
      Finset.sum_congr rfl fun p _ => congrArg List.sum ?_,
      Finset.sum_congr rfl fun p _ => congrArg List.sum ?_⟩
    all_goals
      exact map_zip5_data_eq hy hz hw hu p
        (by simp [hy.length_data p, hw.length_data p, hu.length_data p, hz.length_data p])
        fun k _ _ => by simp
  · exact map_zip5_data_eq hy hz hw hu p
      (by simp [hy.length_data p, hw.length_data p, hu.length_data p, hz.length_data p])
      fun k _ _ => by simp
  · simp only [Spec.assign_data, Spec.assign_length, hz.2.1.symm]
    exact map_zip5_data_eq hy hz hw hu p
      (by simp [hy.length_data p, hw.length_data p, hu.length_data p, hz.length_data p])
      fun k _ _ => by simp

theorem axpyCGNorm_eq
    (a : R)
    {x y : ColorSpinorField R P}
    (hy : Compatible x y) :
    axpyCGNorm a x y = .ok (Spec.axpyCGNorm a x y) := by
  have hx := Compatible.refl x
  rw [axpyCGNorm, if_neg (not_not.2 hy.1),
    reduceCuda_of_local (axpyCGNorm2_local a) _ hx hy hx hx]
  simp only [Spec.axpyCGNorm, bind, Except.bind, pure, Except.pure, Except.ok.injEq, Prod.mk.injEq,
    writeBack, storeIf, writeFlags, decide_eq_true_eq, zero_ne_one, if_true, if_false, true_and,
    Slots.unzip_z, List.map_map]
  refine ⟨?_, congrArg y.store (funext fun p => ?_)⟩
  · simp only [Spec.norm2, Spec.reDotProduct, Spec.assign_data, Spec.assign_length,
      hy.2.1.symm, Double2.list_sum_mk, Double2.sum_mk, Double2.mk.injEq]
    refine ⟨Finset.sum_congr rfl fun p _ => congrArg List.sum ?_,
      Finset.sum_congr rfl fun p _ => congrArg List.sum ?_⟩
    · exact map_zip5_data_eq hx hy hx hx p (by simp [hy.length_data p])
        fun k _ _ => by simp
    · apply map_zip5_data_eq hx hy hx hx p (by simp [hy.length_data p])
      intro k _ _
      simp
      ring
  · exact map_zip5_data_eq hx hy hx hx p (by simp [hy.length_data p])
      fun k _ _ => by simp

------------------------------------------------------------
-- The Fused Entry Points
------------------------------------------------------------

/-
  On compatible operands every fused entry point stores what the
  documented whole-field updates give, in their order, leaves its
  other operands as they were, and returns the documented
  reduction of the updated fields.
-/
theorem fusedUpdates_reference
    (a b : R)
    (ca cb : Double2 R)
    (x y z w u : ColorSpinorField R P)
    (hy : Compatible x y)
    (hz : Compatible x z)
    (hw : Compatible x w)
    (hu : Compatible x u) :
    axpbyzNorm a x b y z = .ok (Spec.axpbyzNorm a x b y z) ∧
    axpyReDot a x y = .ok (Spec.axpyReDot a x y) ∧
    caxpyNorm ca x y = .ok (Spec.caxpyNorm ca x y) ∧
    caxpyXmazNormX ca x y z = .ok (Spec.caxpyXmazNormX ca x y z) ∧
    cabxpyzAxNorm a cb x y z = .ok (Spec.cabxpyzAxNorm a cb x y z) ∧
    caxpyDotzy ca x y z = .ok (Spec.caxpyDotzy ca x y z) ∧
    caxpbypzYmbwcDotProductUYNormY ca x cb y z w u =
      .ok (Spec.caxpbypzYmbwcDotProductUYNormY ca x cb y z w u) ∧
    axpyCGNorm a x y = .ok (Spec.axpyCGNorm a x y) :=
  ⟨axpbyzNorm_eq a b hy hz, axpyReDot_eq a hy, caxpyNorm_eq ca hy,
    caxpyXmazNormX_eq ca hy hz, cabxpyzAxNorm_eq a cb hy hz, caxpyDotzy_eq ca hy hz,
    caxpbypzYmbwcDotProductUYNormY_eq ca cb hy hz hw hu, axpyCGNorm_eq a hy⟩

theorem fusedUpdates_reference_sample :
    Compatible sampleX sampleY ∧ Compatible sampleX sampleZ ∧
    Compatible sampleX sampleY ∧ Compatible sampleX sampleZ ∧
    axpbyzNorm 2 sampleX 3 sampleY sampleZ =
      .ok (Spec.axpbyzNorm 2 sampleX 3 sampleY sampleZ) ∧
    axpyReDot 2 sampleX sampleY = .ok (Spec.axpyReDot 2 sampleX sampleY) ∧
    caxpyNorm ⟨1, 1⟩ sampleX sampleY = .ok (Spec.caxpyNorm ⟨1, 1⟩ sampleX sampleY) ∧
    caxpyXmazNormX ⟨1, 1⟩ sampleX sampleY sampleZ =
      .ok (Spec.caxpyXmazNormX ⟨1, 1⟩ sampleX sampleY sampleZ) ∧
    cabxpyzAxNorm 2 ⟨0, 1⟩ sampleX sampleY sampleZ =
      .ok (Spec.cabxpyzAxNorm 2 ⟨0, 1⟩ sampleX sampleY sampleZ) ∧
    caxpyDotzy ⟨1, 1⟩ sampleX sampleY sampleZ =
      .ok (Spec.caxpyDotzy ⟨1, 1⟩ sampleX sampleY sampleZ) ∧
    caxpbypzYmbwcDotProductUYNormY ⟨1, 1⟩ sampleX ⟨0, 1⟩ sampleY sampleZ sampleY sampleZ =
      .ok (Spec.caxpbypzYmbwcDotProductUYNormY ⟨1, 1⟩ sampleX ⟨0, 1⟩ sampleY sampleZ
        sampleY sampleZ) ∧
    axpyCGNorm 2 sampleX sampleY = .ok (Spec.axpyCGNorm 2 sampleX sampleY) :=
  ⟨⟨rfl, rfl, rfl⟩, ⟨rfl, rfl, rfl⟩, ⟨rfl, rfl, rfl⟩, ⟨rfl, rfl, rfl⟩,
    fusedUpdates_reference 2 3 ⟨1, 1⟩ ⟨0, 1⟩ sampleX sampleY sampleZ sampleY sampleZ
      ⟨rfl, rfl, rfl⟩ ⟨rfl, rfl, rfl⟩ ⟨rfl, rfl, rfl⟩ ⟨rfl, rfl, rfl⟩⟩

end Quda
