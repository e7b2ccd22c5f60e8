import Quda.Blas.PureReductions

/-
  The update-and-reduce entry points of the three-term CG solver
  (`quadrupleCG3InitNorm`, `quadrupleCG3UpdateNorm`,
  `doubleCG3InitNorm`, `doubleCG3UpdateNorm`) against the
  whole-field recurrences they perform.  Each call moves the
  current iterates into the fields of the previous ones and
  overwrites the current ones in the same pass.

  The doc comment of `quadrupleCG3UpdateNorm` writes the residual
  update as `y = b*(y + a*v) + (1-b)*w`; the functor subtracts,
  `y - a*v`, as `quadrupleCG3InitNorm` does, and the recurrence
  here follows the code.

  Main declarations:
    * `Spec.quadrupleCG3InitNorm` ... `Spec.doubleCG3UpdateNorm`
    * `cg3Updates_reference`
-/

namespace Quda

variable {R : Type} [LinearOrderedField R] {P : Nat}

------------------------------------------------------------
-- The Recurrences
------------------------------------------------------------

namespace Spec

/-
  `z ← x`, `w ← y`, `x ← x + a y`, `y ← y - a v`; returns `‖y‖^2`,
  and `x, y, z, w, v`.
-/
def quadrupleCG3InitNorm
    (a : R)
    (x y z w v : ColorSpinorField R P) :
    R × ColorSpinorField R P × ColorSpinorField R P × ColorSpinorField R P ×
      ColorSpinorField R P × ColorSpinorField R P :=
  let z' := assign z x x fun xk _ => xk
  let w' := assign w y y fun yk _ => yk
  let x' := assign x x y fun xk yk => xk + a • yk
  let y' := assign y y v fun yk vk => yk - a • vk
  (norm2 y', x', y', z', w', v)

/-
  `x ← b (x + a y) + (1 - b) z`, `y ← b (y - a v) + (1 - b) w`, and
  `z, w ←` the old `x, y`; returns `‖y‖^2`, and `x, y, z, w, v`.
-/
def quadrupleCG3UpdateNorm
    (a b : R)
    (x y z w v : ColorSpinorField R P) :
    R × ColorSpinorField R P × ColorSpinorField R P × ColorSpinorField R P ×
      ColorSpinorField R P × ColorSpinorField R P :=
  let x' := assign x (assign x x y fun xk yk => xk + a • yk) z
    fun tk zk => b • tk + (1 - b) • zk
  let y' := assign y (assign y y v fun yk vk => yk - a • vk) w
    fun tk wk => b • tk + (1 - b) • wk
  let z' := assign z x x fun xk _ => xk
  let w' := assign w y y fun yk _ => yk
  (norm2 y', x', y', z', w', v)

/- `y ← x`, `x ← x - a z`; returns `‖x‖^2`, and `x, y, z`. -/
def doubleCG3InitNorm
    (a : R)
    (x y z : ColorSpinorField R P) :
    R × ColorSpinorField R P × ColorSpinorField R P × ColorSpinorField R P :=
  let y' := assign y x x fun xk _ => xk
  let x' := assign x x z fun xk zk => xk - a • zk
  (norm2 x', x', y', z)

/-
  `x ← b (x - a z) + (1 - b) y` and `y ←` the old `x`; returns
  `‖x‖^2`, and `x, y, z`.
-/
def doubleCG3UpdateNorm
    (a b : R)
    (x y z : ColorSpinorField R P) :
    R × ColorSpinorField R P × ColorSpinorField R P × ColorSpinorField R P :=
  let x' := assign x (assign x x z fun xk zk => xk - a • zk) y
    fun tk yk => b • tk + (1 - b) • yk
  let y' := assign y x x fun xk _ => xk
  (norm2 x', x', y', z)

end Spec

------------------------------------------------------------
-- The Functors Are Element-Local
------------------------------------------------------------

theorem quadrupleCG3InitNorm_local
    (a : R) :
    ElementLocal (quadrupleCG3InitNorm_ : Reducer R R) ⟨a, 0⟩ 0
      (fun e => (e.y - a • e.v).normSq)
      fun e => ⟨e.x + a • e.y, e.y - a • e.v, e.x, e.y, e.v⟩ :=
  .ofOp (fun _ _ _ => rfl) fun _ _ => by simp

/- `tmpx` and `tmpy` are written before they are read: they carry nothing between elements. -/
theorem quadrupleCG3UpdateNorm_local
    (a b : R) :
    ElementLocal (quadrupleCG3UpdateNorm_ : Reducer R R) ⟨a, 0⟩ ⟨b, 1 - b⟩
      (fun e => (b • (e.y - a • e.v) + (1 - b) • e.w).normSq)
      fun e => ⟨b • (e.x + a • e.y) + (1 - b) • e.z, b • (e.y - a • e.v) + (1 - b) • e.w,
        e.x, e.y, e.v⟩ :=
  ⟨⟨fun _ _ => True, trivial, fun _ _ _ => trivial, fun _ _ _ _ _ _ => ⟨trivial, rfl⟩,
      fun _ _ _ _ => rfl⟩,
    ⟨fun _ => rfl, fun _ _ => rfl⟩, ⟨fun _ => rfl, fun _ _ => rfl⟩,
    fun _ _ _ => by simp [quadrupleCG3UpdateNorm_]⟩

theorem doubleCG3InitNorm_local
    (a : R) :
    ElementLocal (doubleCG3InitNorm_ : Reducer R R) ⟨a, 0⟩ 0
      (fun e => (e.x - a • e.z).normSq) fun e => { e with x := e.x - a • e.z, y := e.x } :=
  .ofOp (fun _ _ _ => rfl) fun _ _ => by simp

theorem doubleCG3UpdateNorm_local
    (a b : R) :
    ElementLocal (doubleCG3UpdateNorm_ : Reducer R R) ⟨a, 0⟩ ⟨b, 1 - b⟩
      (fun e => (b • (e.x - a • e.z) + (1 - b) • e.y).normSq)
      fun e => { e with x := b • (e.x - a • e.z) + (1 - b) • e.y, y := e.x } :=
  ⟨⟨fun _ _ => True, trivial, fun _ _ _ => trivial, fun _ _ _ _ _ _ => ⟨trivial, rfl⟩,
      fun _ _ _ _ => rfl⟩,
    ⟨fun _ => rfl, fun _ _ => rfl⟩, ⟨fun _ => rfl, fun _ _ => rfl⟩,
    fun _ _ _ => by simp [doubleCG3UpdateNorm_]⟩

------------------------------------------------------------
-- The Wrappers Perform the Recurrences
------------------------------------------------------------

theorem quadrupleCG3InitNorm_eq
    (a : R)
    {x y z w v : ColorSpinorField R P}
    (hy : Compatible x y)
    (hz : Compatible x z)
    (hw : Compatible x w)
    (hv : Compatible x v) :
    quadrupleCG3InitNorm a x y z w v = .ok (Spec.quadrupleCG3InitNorm a x y z w v) := by
  rw [quadrupleCG3InitNorm, reduceCuda_of_local (quadrupleCG3InitNorm_local a) _ hy hz hw hv]
  simp only [Spec.quadrupleCG3InitNorm, bind, Except.bind, pure, Except.pure, Except.ok.injEq,
    Prod.mk.injEq, writeBack, storeIf, writeFlags, decide_eq_true_eq, zero_ne_one, if_true,
    if_false, true_and, and_true, Slots.unzip_x, Slots.unzip_y, Slots.unzip_z, Slots.unzip_w,
    List.map_map]
  refine ⟨?_, congrArg x.store (funext fun p => ?_), congrArg y.store (funext fun p => ?_),
    congrArg z.store (funext fun p => ?_), congrArg w.store (funext fun p => ?_)⟩
  · simp only [Spec.norm2, Spec.assign_data rfl (hy.2.1.symm.trans hv.2.1)]
    refine Finset.sum_congr rfl fun p _ => congrArg List.sum ?_
    exact map_zip5_data_eq hy hz hw hv p
      (by simp [hy.length_data p, hz.length_data p, hw.length_data p, hv.length_data p])
      fun k _ _ => by simp
  all_goals
    exact map_zip5_data_eq hy hz hw hv p
      (by simp [hy.length_data p, hz.length_data p, hw.length_data p, hv.length_data p])
      fun k _ _ => by simp

theorem quadrupleCG3UpdateNorm_eq
    (a b : R)
    {x y z w v : ColorSpinorField R P}
    (hy : Compatible x y)
    (hz : Compatible x z)
    (hw : Compatible x w)
    (hv : Compatible x v) :
    quadrupleCG3UpdateNorm a b x y z w v = .ok (Spec.quadrupleCG3UpdateNorm a b x y z w v) := by
  rw [quadrupleCG3UpdateNorm,
    reduceCuda_of_local (quadrupleCG3UpdateNorm_local a b) _ hy hz hw hv]
  simp only [Spec.quadrupleCG3UpdateNorm, bind, Except.bind, pure, Except.pure, Except.ok.injEq,
    Prod.mk.injEq, writeBack, storeIf, writeFlags, decide_eq_true_eq, zero_ne_one, if_true,
    if_false, true_and, and_true, Slots.unzip_x, Slots.unzip_y, Slots.unzip_z, Slots.unzip_w,
    List.map_map]
  refine ⟨?_, congrArg x.store (funext fun p => ?_), congrArg y.store (funext fun p => ?_),
    congrArg z.store (funext fun p => ?_), congrArg w.store (funext fun p => ?_)⟩
  · simp only [Spec.norm2, Spec.assign_data, Spec.assign_length, hy.2.1.symm, hw.2.1.symm,
      hv.2.1.symm]
    refine Finset.sum_congr rfl fun p _ => congrArg List.sum ?_
    exact map_zip5_data_eq hy hz hw hv p
      (by simp [hy.length_data p, hz.length_data p, hw.length_data p, hv.length_data p])
      fun k _ _ => by simp
  all_goals
    simp only [Spec.assign_data, Spec.assign_length, hy.2.1.symm, hz.2.1.symm, hw.2.1.symm,
      hv.2.1.symm, List.zipWith_same]
    exact map_zip5_data_eq hy hz hw hv p
      (by simp [hy.length_data p, hz.length_data p, hw.length_data p, hv.length_data p])
      fun k _ _ => by simp

theorem doubleCG3InitNorm_eq
    (a : R)
    {x y z : ColorSpinorField R P}
    (hy : Compatible x y)
    (hz : Compatible x z) :
    doubleCG3InitNorm a x y z = .ok (Spec.doubleCG3InitNorm a x y z) := by
  rw [doubleCG3InitNorm, reduceCuda_of_local (doubleCG3InitNorm_local a) _ hy hz hz hz]
  simp only [Spec.doubleCG3InitNorm, bind, Except.bind, pure, Except.pure, Except.ok.injEq,
    Prod.mk.injEq, writeBack, storeIf, writeFlags, decide_eq_true_eq, zero_ne_one, if_true,
    if_false, true_and, and_true, Slots.unzip_x, Slots.unzip_y, List.map_map]
  refine ⟨?_, congrArg x.store (funext fun p => ?_), congrArg y.store (funext fun p => ?_)⟩
  · simp only [Spec.norm2, Spec.assign_data rfl hz.2.1]
    refine Finset.sum_congr rfl fun p _ => congrArg List.sum ?_
    exact map_zip5_data_eq hy hz hz hz p (by simp [hy.length_data p, hz.length_data p])
      fun k _ _ => by simp
  all_goals
    exact map_zip5_data_eq hy hz hz hz p (by simp [hy.length_data p, hz.length_data p])
      fun k _ _ => by simp

theorem doubleCG3UpdateNorm_eq
    (a b : R)
    {x y z : ColorSpinorField R P}
    (hy : Compatible x y)
    (hz : Compatible x z) :
    doubleCG3UpdateNorm a b x y z = .ok (Spec.doubleCG3UpdateNorm a b x y z) := by
  rw [doubleCG3UpdateNorm, reduceCuda_of_local (doubleCG3UpdateNorm_local a b) _ hy hz hz hz]
  simp only [Spec.doubleCG3UpdateNorm, bind, Except.bind, pure, Except.pure, Except.ok.injEq,
    Prod.mk.injEq, writeBack, storeIf, writeFlags, decide_eq_true_eq, zero_ne_one, if_true,
    if_false, true_and, and_true, Slots.unzip_x, Slots.unzip_y, List.map_map]
  refine ⟨?_, congrArg x.store (funext fun p => ?_), congrArg y.store (funext fun p => ?_)⟩
  · simp only [Spec.norm2, Spec.assign_data, Spec.assign_length, hy.2.1.symm, hz.2.1.symm]
    refine Finset.sum_congr rfl fun p _ => congrArg List.sum ?_
    exact map_zip5_data_eq hy hz hz hz p (by simp [hy.length_data p, hz.length_data p])
      fun k _ _ => by simp
  all_goals
    simp only [Spec.assign_data, Spec.assign_length, hy.2.1.symm, hz.2.1.symm,
      List.zipWith_same]
    exact map_zip5_data_eq hy hz hz hz p (by simp [hy.length_data p, hz.length_data p])
      fun k _ _ => by simp

------------------------------------------------------------
-- The Three-Term Recurrence Entry Points
------------------------------------------------------------

/-
  On compatible operands each of the four entry points moves the
  current iterates into the previous ones, stores the three-term
  recurrence of the code (with the residual updated as `y - a v`),
  and returns the norm of the new residual.
-/
theorem cg3Updates_reference
    (a b : R)
    (x y z w v : ColorSpinorField R P)
    (hy : Compatible x y)
    (hz : Compatible x z)
    (hw : Compatible x w)
    (hv : Compatible x v) :
    quadrupleCG3InitNorm a x y z w v = .ok (Spec.quadrupleCG3InitNorm a x y z w v) ∧
    quadrupleCG3UpdateNorm a b x y z w v = .ok (Spec.quadrupleCG3UpdateNorm a b x y z w v) ∧
    doubleCG3InitNorm a x y z = .ok (Spec.doubleCG3InitNorm a x y z) ∧
    doubleCG3UpdateNorm a b x y z = .ok (Spec.doubleCG3UpdateNorm a b x y z) :=
  ⟨quadrupleCG3InitNorm_eq a hy hz hw hv, quadrupleCG3UpdateNorm_eq a b hy hz hw hv,
    doubleCG3InitNorm_eq a hy hz, doubleCG3UpdateNorm_eq a b hy hz⟩

theorem cg3Updates_reference_sample :
    Compatible sampleX sampleY ∧ Compatible sampleX sampleZ ∧
    Compatible sampleX sampleY ∧ Compatible sampleX sampleZ ∧
    quadrupleCG3InitNorm 2 sampleX sampleY sampleZ sampleY sampleZ =
      .ok (Spec.quadrupleCG3InitNorm 2 sampleX sampleY sampleZ sampleY sampleZ) ∧
    quadrupleCG3UpdateNorm 2 3 sampleX sampleY sampleZ sampleY sampleZ =
      .ok (Spec.quadrupleCG3UpdateNorm 2 3 sampleX sampleY sampleZ sampleY sampleZ) ∧
    doubleCG3InitNorm 2 sampleX sampleY sampleZ =
      .ok (Spec.doubleCG3InitNorm 2 sampleX sampleY sampleZ) ∧
    doubleCG3UpdateNorm 2 3 sampleX sampleY sampleZ =
      .ok (Spec.doubleCG3UpdateNorm 2 3 sampleX sampleY sampleZ) :=
  ⟨⟨rfl, rfl, rfl⟩, ⟨rfl, rfl, rfl⟩, ⟨rfl, rfl, rfl⟩, ⟨rfl, rfl, rfl⟩,
    cg3Updates_reference 2 3 sampleX sampleY sampleZ sampleY sampleZ
      ⟨rfl, rfl, rfl⟩ ⟨rfl, rfl, rfl⟩ ⟨rfl, rfl, rfl⟩ ⟨rfl, rfl, rfl⟩⟩

end Quda
