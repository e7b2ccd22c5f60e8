import Quda.Blas.ReduceCore

/-
  Launch-geometry independence of the reduction functors.

  The autotuner picks the block and grid shape, and with it which
  array indices share a thread, in which order a thread visits
  them, and how the block partial sums are combined.  A functor is
  index-local when one index adds to the partial sum, and writes,
  values that depend on the index's operands and the coefficients
  only, never on the incoming sum or the member state left by
  earlier indices.  Index-locality gives independence from every
  geometry, and every functor of the catalog is index-local.

  Main declarations:
    * `IndexLocal`, `reduceThread_of_indexLocal`
    * `CombineTree`, `GeometryIndependent`
    * `geometryIndependent_of_indexLocal`
    * `catalog_launchGeometry`
-/

------------------------------------------------------------
-- Index-Local Functors
------------------------------------------------------------

namespace Quda

variable {R : Type} [LinearOrderedField R]
variable {S V T : Type} [AddCommMonoid T]

/- What one index yields to a fresh functor copy with a zero sum. -/
def indexEffect
    (F : ReduceFunctor S V T)
    (index : List (Slots V)) :
    T × List (Slots V) :=
  (reduceIndex F F.init 0 index).2

/-
  One index adds `(indexEffect F index).1` to any partial sum and
  writes `(indexEffect F index).2`, from any member state.
-/
def IndexLocal
    (F : ReduceFunctor S V T) :
    Prop :=
  ∀ st sum index, (reduceIndex F st sum index).2 =
    (sum + (indexEffect F index).1, (indexEffect F index).2)

/- A thread of an index-local functor adds up the index effects. -/
theorem reduceThread_of_indexLocal
    {F : ReduceFunctor S V T}
    (hF : IndexLocal F)
    (st : S)
    (sum : T)
    (indices : List (List (Slots V))) :
    (reduceThread F st sum indices).2 =
      (sum + (indices.map fun i => (indexEffect F i).1).sum,
        indices.map fun i => (indexEffect F i).2) :=
  visit_of_local _ _ _ hF indices st sum

/-
  A functor whose `post` returns the sum and whose `operator()`
  adds to the sum and writes what it does from the initial state
  and a zero sum is index-local.
-/
theorem indexLocal_of_op
    (F : ReduceFunctor S V T)
    (hPost : ∀ st sum, F.post st sum = sum)
    (hOp : ∀ st sum e, (F.op st sum e).2 =
      (sum + (F.op F.init 0 e).2.1, (F.op F.init 0 e).2.2)) :
    IndexLocal F := by
  intro st sum index
  have hVisit := fun st sum =>
    visit_of_local F.op (fun e => (F.op F.init 0 e).2.1)
      (fun e => (F.op F.init 0 e).2.2) hOp index st sum
  simp only [indexEffect, reduceIndex, hPost, Prod.ext_iff] at hVisit ⊢
  simp [hVisit]

/- A functor without member state whose step adds to the sum is index-local. -/
theorem ReduceFunctor.ofOp_indexLocal
    (step : T → Slots V → T × Slots V)
    (hStep : ∀ sum e, step sum e = (sum + (step 0 e).1, (step 0 e).2)) :
    IndexLocal (ReduceFunctor.ofOp step) :=
  indexLocal_of_op _ (fun _ _ => rfl) fun _ sum e => hStep sum e

------------------------------------------------------------
-- Geometry Independence
------------------------------------------------------------

/-
  A combining order for group partial sums: a binary tree whose
  leaves name groups.
-/
inductive CombineTree
  | leaf (group : Nat)
  | node (left right : CombineTree)

namespace CombineTree

/- The groups a tree combines, left to right. -/
def leaves : CombineTree → List Nat
  | leaf g => [g]
  | node l r => l.leaves ++ r.leaves

/- Combine the partial sums as the tree says. -/
def eval
    (partials : List T) :
    CombineTree → T
  | leaf g => partials.getD g 0
  | node l r => l.eval partials + r.eval partials

/- A tree adds up the partial sums of its leaves. -/
theorem eval_eq_sum
    (partials : List T) :
    ∀ t : CombineTree, t.eval partials = (t.leaves.map (partials.getD · 0)).sum
  | leaf g => by simp [eval, leaves]
  | node l r => by
      simp [eval, leaves, eval_eq_sum partials l, eval_eq_sum partials r]

/- A tree with every group as exactly one leaf adds up all partial sums. -/
theorem eval_of_perm
    (partials : List T)
    (t : CombineTree)
    (hLeaves : t.leaves.Perm (List.range partials.length)) :
    t.eval partials = partials.sum := by
  rw [eval_eq_sum, (hLeaves.map _).sum_eq]
  congr 1
  apply List.ext_getElem (by simp)
  intro n hn _
  simp [List.getElem?_eq_getElem (by simpa using hn)]

end CombineTree

/-
  However the indices are split into groups, each group visited in
  its own order by its own functor copy from its own member state
  and a zero sum, and the group sums combined by any tree using
  every group once, the combined sum and the stored operands are
  those of one thread visiting all indices in order.
-/
def GeometryIndependent
    (F : ReduceFunctor S V T) :
    Prop :=
  ∀ (indices : List (List (Slots V)))
    (groups : List (S × List (Fin indices.length))) (tree : CombineTree),
    (groups.map Prod.snd).flatten.Perm (List.finRange indices.length) →
    tree.leaves.Perm (List.range groups.length) →
    tree.eval (groups.map fun g =>
        (reduceThread F g.1 0 (g.2.map indices.get)).2.1) =
      (reduceThread F F.init 0 indices).2.1 ∧
    ∀ g ∈ groups, (reduceThread F g.1 0 (g.2.map indices.get)).2.2 =
      g.2.map fun i => (reduceThread F F.init 0 indices).2.2.getD i.1 []

/- Index-locality gives independence from the launch geometry. -/
theorem geometryIndependent_of_indexLocal
    {F : ReduceFunctor S V T}
    (hF : IndexLocal F) :
    GeometryIndependent F := by
  intro indices groups tree hGroups hLeaves
  let inc := fun i : Fin indices.length => (indexEffect F (indices.get i)).1
  have hPartial : ∀ g : S × List (Fin indices.length),
      (reduceThread F g.1 0 (g.2.map indices.get)).2.1 = (g.2.map inc).sum := by
    intro g
    rw [reduceThread_of_indexLocal hF, zero_add, List.map_map]
    rfl
  constructor
  · rw [CombineTree.eval_of_perm _ _ (by simpa using hLeaves),
      List.map_congr_left fun g _ => hPartial g,
      reduceThread_of_indexLocal hF]
    calc ((groups.map fun g => (g.2.map inc).sum)).sum
        = ((groups.map Prod.snd).flatten.map inc).sum := by
          simp [List.sum_flatten, List.map_flatten, Function.comp_def]
      _ = ((List.finRange indices.length).map inc).sum :=
          (hGroups.map inc).sum_eq
      _ = 0 + (indices.map fun i => (indexEffect F i).1).sum := by
          have hGet := congrArg (fun l => (l.map fun i => (indexEffect F i).1).sum)
            (List.finRange_map_get indices)
          dsimp only at hGet
          rw [zero_add, ← hGet, List.map_map]
          rfl
  · intro g _
    rw [reduceThread_of_indexLocal hF, reduceThread_of_indexLocal hF]
    dsimp only
    rw [List.map_map]
    apply List.map_congr_left
    intro i _
    simp

------------------------------------------------------------
-- The Catalog Is Index-Local
------------------------------------------------------------

/- Index-locality together with the geometry independence it gives. -/
def LaunchInvariant
    (F : ReduceFunctor S V T) :
    Prop :=
  IndexLocal F ∧ GeometryIndependent F

theorem launchInvariant_of_indexLocal
    {F : ReduceFunctor S V T}
    (hF : IndexLocal F) :
    LaunchInvariant F :=
  ⟨hF, geometryIndependent_of_indexLocal hF⟩

section Catalog

variable {V : Type} [FloatN V R] [FloatN.Additive V R]

open FloatN.Additive

theorem cdotNormA_add
    (sum : Double3 R)
    (a b : V) :
    cdotNormA_ sum a b = sum + cdotNormA_ 0 a b := by
  have hCdot := cdot_add (⟨sum.x, sum.y⟩ : Double2 R) a b
  simp only [Double2.ext_iff, Double2.add_x, Double2.add_y] at hCdot
  ext <;> simp [cdotNormA_, hCdot, norm2_add sum.z] <;> rfl

theorem cdotNormB_add
    (sum : Double3 R)
    (a b : V) :
    cdotNormB_ sum a b = sum + cdotNormB_ 0 a b := by
  have hCdot := cdot_add (⟨sum.x, sum.y⟩ : Double2 R) a b
  simp only [Double2.ext_iff, Double2.add_x, Double2.add_y] at hCdot
  ext <;> simp [cdotNormB_, hCdot, norm2_add sum.z] <;> rfl

variable {T : Type} [AddCommMonoid T]

/- A template without member state whose step adds to the sum. -/
omit [FloatN.Additive V R] in
theorem Reducer.ofOp_indexLocal
    (step : (V : Type) → [FloatN V R] → Double2 R → Double2 R →
      T → Slots V → T × Slots V) (a b : Double2 R)
    (hStep : ∀ sum e, step V a b sum e =
      (sum + (step V a b 0 e).1, (step V a b 0 e).2)) :
    IndexLocal ((Reducer.ofOp step).functor V a b) := by
  rw [Reducer.ofOp_functor]
  exact ReduceFunctor.ofOp_indexLocal _ hStep

/-
  The heavy-quark M-loop adds the element norms into `aux.x` and
  `aux.y` and leaves the sum, the operands and `aux.z` alone.
-/
theorem heavyQuarkNorm_visit
    (sol res : (V : Type) → [FloatN V R] → Slots V → V)
    (a b : Double2 R) :
    ∀ (index : List (Slots V)) (aux sum : Double3 R),
      visit ((heavyQuarkNorm sol res).functor V a b).op aux sum index =
        (⟨aux.x + (index.map fun e => norm2_ 0 (sol V e)).sum,
          aux.y + (index.map fun e => norm2_ 0 (res V e)).sum, aux.z⟩,
          sum, index)
  | [], aux, sum => by simp
  | e :: index, aux, sum => by
      rw [visit_cons, heavyQuarkNorm_visit sol res a b index]
      simp only [heavyQuarkNorm, norm2_add aux.x, norm2_add aux.y,
        List.map_cons, List.sum_cons, add_assoc]

theorem heavyQuarkNorm_indexLocal
    (sol res : (V : Type) → [FloatN V R] → Slots V → V)
    (a b : Double2 R) :
    IndexLocal ((heavyQuarkNorm sol res).functor V a b) := by
  intro st sum index
  simp only [indexEffect, reduceIndex, heavyQuarkNorm_visit]
  simp only [heavyQuarkNorm, Prod.mk.injEq, and_true]
  ext <;> simp

/-
  Every functor of the catalog, at every vector type whose
  accumulating overloads add to the sum, is index-local and so
  independent of the launch geometry.
-/
theorem catalog_launchGeometry
    (a b : Double2 R) :
    LaunchInvariant ((Norm1 : Reducer R R).functor V a b) ∧
    LaunchInvariant ((Norm2 : Reducer R R).functor V a b) ∧
    LaunchInvariant ((Dot : Reducer R R).functor V a b) ∧
    LaunchInvariant ((axpbyzNorm2 : Reducer R R).functor V a b) ∧
    LaunchInvariant ((AxpyReDot : Reducer R R).functor V a b) ∧
    LaunchInvariant ((caxpyNorm2 : Reducer R R).functor V a b) ∧
    LaunchInvariant ((caxpyxmaznormx : Reducer R R).functor V a b) ∧
    LaunchInvariant ((cabxpyzaxnorm : Reducer R R).functor V a b) ∧
    LaunchInvariant ((Cdot : Reducer R (Double2 R)).functor V a b) ∧
    LaunchInvariant ((caxpydotzy : Reducer R (Double2 R)).functor V a b) ∧
    LaunchInvariant ((CdotNormA : Reducer R (Double3 R)).functor V a b) ∧
    LaunchInvariant
      ((caxpbypzYmbwcDotProductUYNormY_ : Reducer R (Double3 R)).functor V a b) ∧
    LaunchInvariant ((axpyCGNorm2 : Reducer R (Double2 R)).functor V a b) ∧
    LaunchInvariant
      ((HeavyQuarkResidualNorm_ : Reducer R (Double3 R)).functor V a b) ∧
    LaunchInvariant
      ((xpyHeavyQuarkResidualNorm_ : Reducer R (Double3 R)).functor V a b) ∧
    LaunchInvariant ((tripleCGReduction_ : Reducer R (Double3 R)).functor V a b) ∧
    LaunchInvariant
      ((quadrupleCGReduction_ : Reducer R (Double4 R)).functor V a b) ∧
    LaunchInvariant ((quadrupleCG3InitNorm_ : Reducer R R).functor V a b) ∧
    LaunchInvariant ((quadrupleCG3UpdateNorm_ : Reducer R R).functor V a b) ∧
    LaunchInvariant ((doubleCG3InitNorm_ : Reducer R R).functor V a b) ∧
    LaunchInvariant ((doubleCG3UpdateNorm_ : Reducer R R).functor V a b) := by
  refine ⟨?norm1, ?norm2, ?dot, ?axpbyz, ?axpyReDot, ?caxpy, ?caxpyXmaz,
    ?cabxpyz, ?cdot, ?caxpyDot, ?cdotNormA, ?caxpbypz, ?axpyCG, ?hq, ?xpyHq,
    ?triple, ?quadruple, ?q3Init, ?q3Update, ?d3Init, ?d3Update⟩ <;>
    apply launchInvariant_of_indexLocal
  case norm1 =>
    exact Reducer.ofOp_indexLocal _ a b fun sum e => by simp [add_assoc]
  case norm2 =>
    exact Reducer.ofOp_indexLocal _ a b fun sum e => by simp [norm2_add sum]
  case dot =>
    exact Reducer.ofOp_indexLocal _ a b fun sum e => by simp [dot_add sum]
  case axpbyz =>
    exact Reducer.ofOp_indexLocal _ a b fun sum e => by simp [norm2_add sum]
  case axpyReDot =>
    exact Reducer.ofOp_indexLocal _ a b fun sum e => by simp [dot_add sum]
  case caxpy =>
    exact Reducer.ofOp_indexLocal _ a b fun sum e => by simp [norm2_add sum]
  case caxpyXmaz =>
    exact Reducer.ofOp_indexLocal _ a b fun sum e => by simp [norm2_add sum]
  case cabxpyz =>
    exact Reducer.ofOp_indexLocal _ a b fun sum e => by simp [norm2_add sum]
  case cdot =>
    exact Reducer.ofOp_indexLocal _ a b fun sum e => by simp [cdot_add sum]
  case caxpyDot =>
    exact Reducer.ofOp_indexLocal _ a b fun sum e => by simp [cdot_add sum]
  case cdotNormA =>
    exact Reducer.ofOp_indexLocal _ a b fun sum e => by simp [cdotNormA_add sum]
  case caxpbypz =>
    exact Reducer.ofOp_indexLocal _ a b fun sum e => by simp [cdotNormB_add sum]
  case axpyCG =>
    refine Reducer.ofOp_indexLocal _ a b fun sum e => ?_
    simp only [Prod.mk.injEq, and_true]
    ext <;> simp [norm2_add sum.x, dot_add sum.y]
  case hq => exact heavyQuarkNorm_indexLocal _ _ a b
  case xpyHq => exact heavyQuarkNorm_indexLocal _ _ a b
  case triple =>
    refine Reducer.ofOp_indexLocal _ a b fun sum e => ?_
    simp only [Prod.mk.injEq, and_true]
    ext <;> simp [norm2_add sum.x, norm2_add sum.y, dot_add sum.z]
  case quadruple =>
    refine Reducer.ofOp_indexLocal _ a b fun sum e => ?_
    simp only [Prod.mk.injEq, and_true]
    ext <;> simp [norm2_add sum.x, norm2_add sum.y, dot_add sum.z,
      norm2_add sum.w]
  case q3Init =>
    exact Reducer.ofOp_indexLocal _ a b fun sum e => by simp [norm2_add sum]
  case q3Update =>
    exact indexLocal_of_op _ (fun _ _ => rfl) fun _ sum e => by
      simp [quadrupleCG3UpdateNorm_, norm2_add sum]
  case d3Init =>
    exact Reducer.ofOp_indexLocal _ a b fun sum e => by simp [norm2_add sum]
  case d3Update =>
    exact indexLocal_of_op _ (fun _ _ => rfl) fun _ sum e => by
      simp [doubleCG3UpdateNorm_, norm2_add sum]

/- The catalog read through the `float4` overloads, at zero coefficients. -/
theorem catalog_launchGeometry_float4 :
    LaunchInvariant ((Norm1 : Reducer ℚ ℚ).functor (Float4 ℚ) 0 0) ∧
    LaunchInvariant ((Norm2 : Reducer ℚ ℚ).functor (Float4 ℚ) 0 0) ∧
    LaunchInvariant ((Dot : Reducer ℚ ℚ).functor (Float4 ℚ) 0 0) ∧
    LaunchInvariant ((axpbyzNorm2 : Reducer ℚ ℚ).functor (Float4 ℚ) 0 0) ∧
    LaunchInvariant ((AxpyReDot : Reducer ℚ ℚ).functor (Float4 ℚ) 0 0) ∧
    LaunchInvariant ((caxpyNorm2 : Reducer ℚ ℚ).functor (Float4 ℚ) 0 0) ∧
    LaunchInvariant ((caxpyxmaznormx : Reducer ℚ ℚ).functor (Float4 ℚ) 0 0) ∧
    LaunchInvariant ((cabxpyzaxnorm : Reducer ℚ ℚ).functor (Float4 ℚ) 0 0) ∧
    LaunchInvariant ((Cdot : Reducer ℚ (Double2 ℚ)).functor (Float4 ℚ) 0 0) ∧
    LaunchInvariant ((caxpydotzy : Reducer ℚ (Double2 ℚ)).functor (Float4 ℚ) 0 0) ∧
    LaunchInvariant ((CdotNormA : Reducer ℚ (Double3 ℚ)).functor (Float4 ℚ) 0 0) ∧
    LaunchInvariant
      ((caxpbypzYmbwcDotProductUYNormY_ : Reducer ℚ (Double3 ℚ)).functor (Float4 ℚ) 0 0) ∧
    LaunchInvariant ((axpyCGNorm2 : Reducer ℚ (Double2 ℚ)).functor (Float4 ℚ) 0 0) ∧
    LaunchInvariant
      ((HeavyQuarkResidualNorm_ : Reducer ℚ (Double3 ℚ)).functor (Float4 ℚ) 0 0) ∧
    LaunchInvariant
      ((xpyHeavyQuarkResidualNorm_ : Reducer ℚ (Double3 ℚ)).functor (Float4 ℚ) 0 0) ∧
    LaunchInvariant ((tripleCGReduction_ : Reducer ℚ (Double3 ℚ)).functor (Float4 ℚ) 0 0) ∧
    LaunchInvariant
      ((quadrupleCGReduction_ : Reducer ℚ (Double4 ℚ)).functor (Float4 ℚ) 0 0) ∧
    LaunchInvariant ((quadrupleCG3InitNorm_ : Reducer ℚ ℚ).functor (Float4 ℚ) 0 0) ∧
    LaunchInvariant ((quadrupleCG3UpdateNorm_ : Reducer ℚ ℚ).functor (Float4 ℚ) 0 0) ∧
    LaunchInvariant ((doubleCG3InitNorm_ : Reducer ℚ ℚ).functor (Float4 ℚ) 0 0) ∧
    LaunchInvariant ((doubleCG3UpdateNorm_ : Reducer ℚ ℚ).functor (Float4 ℚ) 0 0) :=
  catalog_launchGeometry 0 0

end Catalog

end Quda
