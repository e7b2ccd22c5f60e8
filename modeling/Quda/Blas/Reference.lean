import Quda.Blas.VectorWidth

/-
  What the reductions are documented to compute.  A `double2` is a
  complex number, a field the list of complex numbers on each rank,
  and the documentation speaks of whole-field updates `z ← a x + b y`
  and of global sums `Σ_k |x_k|^2`, `Σ_k conj(x_k) y_k`.  These are
  written here from the documentation's words, in the namespace
  `Spec`, apart from the functors that compute them.

  The bridge to the code: on `double2`-read operands, a launch of a
  functor whose `operator()` adds to the sum and writes values that
  depend on the element alone sums those values over all elements
  of all ranks and stores the written ones (`launch_of_local`).

  Main declarations:
    * `Double2.conj`, `Double2.normSq`, complex multiplication
    * `Spec.norm1`, `Spec.norm2`, `Spec.reDotProduct`,
      `Spec.cDotProduct`, `Spec.assign`
    * `reduceRank_of_local`, `launch_of_local`, `reduceCuda_of_local`
-/

------------------------------------------------------------
-- Complex Numbers
------------------------------------------------------------

namespace Quda

namespace Double2

variable {R : Type} [LinearOrderedField R]

/- Complex multiplication. -/
instance : Mul (Double2 R) :=
  ⟨fun a b => ⟨a.x * b.x - a.y * b.y, a.x * b.y + a.y * b.x⟩⟩

@[simp] theorem mul_x
    (a b : Double2 R) :
    (a * b).x = a.x * b.x - a.y * b.y := rfl
@[simp] theorem mul_y
    (a b : Double2 R) :
    (a * b).y = a.x * b.y + a.y * b.x := rfl

/- The complex conjugate. -/
def conj
    (a : Double2 R) :
    Double2 R :=
  ⟨a.x, -a.y⟩

@[simp] theorem conj_x
    (a : Double2 R) :
    a.conj.x = a.x := rfl
@[simp] theorem conj_y
    (a : Double2 R) :
    a.conj.y = -a.y := rfl

/- The squared modulus `|a|^2`. -/
def normSq
    (a : Double2 R) :
    R :=
  a.x * a.x + a.y * a.y

theorem conj_sum
    {ι : Type}
    (s : Finset ι)
    (f : ι → Double2 R) :
    (∑ i ∈ s, f i).conj = ∑ i ∈ s, (f i).conj := by
  induction s using Finset.cons_induction with
  | empty => ext <;> simp [conj]
  | cons i s hi ih =>
      rw [Finset.sum_cons, Finset.sum_cons, ← ih]
      ext <;> simp [conj, add_comm]

theorem conj_list_sum
    (l : List (Double2 R)) :
    l.sum.conj = (l.map conj).sum := by
  induction l with
  | nil => ext <;> simp [conj]
  | cons a l ih =>
      rw [List.sum_cons, List.map_cons, List.sum_cons, ← ih]
      ext <;> simp [conj, add_comm]

end Double2

------------------------------------------------------------
-- The Overloads on One Complex Number
------------------------------------------------------------

variable {R : Type} [LinearOrderedField R]

@[simp] theorem norm1_double2
    (a : Double2 R) :
    norm1_ a = |a.x| + |a.y| := rfl

@[simp] theorem norm2_double2
    (sum : R)
    (a : Double2 R) :
    norm2_ sum a = sum + a.normSq := by
  show sum + a.x * a.x + a.y * a.y = _
  rw [Double2.normSq, add_assoc]

@[simp] theorem dot_double2
    (sum : R)
    (a b : Double2 R) :
    dot_ sum a b = sum + (a.conj * b).x := by
  show sum + a.x * b.x + a.y * b.y = _
  simp only [Double2.mul_x, Double2.conj_x, Double2.conj_y]
  ring

@[simp] theorem cdot_double2
    (sum a b : Double2 R) :
    cdot_ sum a b = sum + a.conj * b := by
  ext
  · show sum.x + a.x * b.x + a.y * b.y = _
    simp only [Double2.add_x, Double2.mul_x, Double2.conj_x, Double2.conj_y]
    ring
  · show sum.y + a.x * b.y - a.y * b.x = _
    simp only [Double2.add_y, Double2.mul_y, Double2.conj_x, Double2.conj_y]
    ring

@[simp] theorem caxpy_double2
    (a x y : Double2 R) :
    caxpy_ a x y = a * x + y := by
  ext
  · show y.x + a.x * x.x - a.y * x.y = _
    simp only [Double2.add_x, Double2.mul_x]
    ring
  · show y.y + a.y * x.x + a.x * x.y = _
    simp only [Double2.add_y, Double2.mul_y]
    ring

/- `Caxpy_(-a, z, x)` subtracts `a z` from `x`. -/
@[simp] theorem Double2.neg_mul_add
    (a z x : Double2 R) :
    -a * z + x = x - a * z := by
  ext <;> simp <;> ring

------------------------------------------------------------
-- Reference Reductions and Updates
------------------------------------------------------------

namespace Spec

variable {P : Nat}

/- `Σ_k (|Re x_k| + |Im x_k|)` over every rank's part of `x`. -/
def norm1
    (x : ColorSpinorField R P) :
    R :=
  ∑ p, ((x.data p).map fun c => |c.x| + |c.y|).sum

/- `Σ_k |x_k|^2`. -/
def norm2
    (x : ColorSpinorField R P) :
    R :=
  ∑ p, ((x.data p).map Double2.normSq).sum

/- `Σ_k Re(conj(x_k) y_k)`. -/
def reDotProduct
    (x y : ColorSpinorField R P) :
    R :=
  ∑ p, (List.zipWith (fun a b => (a.conj * b).x) (x.data p) (y.data p)).sum

/- `Σ_k conj(x_k) y_k`. -/
def cDotProduct
    (x y : ColorSpinorField R P) :
    Double2 R :=
  ∑ p, (List.zipWith (fun a b => a.conj * b) (x.data p) (y.data p)).sum

/- Conjugate symmetry: `Σ conj(x_k) y_k = conj(Σ conj(y_k) x_k)`. -/
theorem cDotProduct_comm
    (x y : ColorSpinorField R P) :
    cDotProduct x y = (cDotProduct y x).conj := by
  simp only [cDotProduct, Double2.conj_sum, Double2.conj_list_sum, List.map_zipWith]
  refine Finset.sum_congr rfl fun p _ => ?_
  rw [List.zipWith_comm]
  congr 2
  funext u v
  ext <;> simp [Double2.conj] <;> ring

/- `Σ |x_k|^2 = Σ Re(conj(x_k) x_k)`. -/
theorem norm2_eq_reDotProduct
    (x : ColorSpinorField R P) :
    norm2 x = reDotProduct x x := by
  simp only [norm2, reDotProduct, List.zipWith_same]
  refine Finset.sum_congr rfl fun p _ => congrArg List.sum (List.map_congr_left fun a _ => ?_)
  simp [Double2.normSq]

/- The whole-field update `target_k ← f(u_k, v_k)`. -/
def assign
    (target u v : ColorSpinorField R P)
    (f : Double2 R → Double2 R → Double2 R) :
    ColorSpinorField R P :=
  target.store fun p => List.zipWith f (u.data p) (v.data p)

omit [LinearOrderedField R] in
@[simp] theorem assign_precision
    (target u v : ColorSpinorField R P)
    (f : Double2 R → Double2 R → Double2 R) :
    (assign target u v f).precision = target.precision := rfl
omit [LinearOrderedField R] in
@[simp] theorem assign_length
    (target u v : ColorSpinorField R P)
    (f : Double2 R → Double2 R → Double2 R) :
    (assign target u v f).length = target.length := rfl
omit [LinearOrderedField R] in
@[simp] theorem assign_stride
    (target u v : ColorSpinorField R P)
    (f : Double2 R → Double2 R → Double2 R) :
    (assign target u v f).stride = target.stride := rfl

/- On operands of the target's length the update replaces every element. -/
omit [LinearOrderedField R] in
theorem assign_data
    {target u v : ColorSpinorField R P}
    (hu : target.length = u.length)
    (hv : target.length = v.length)
    (f : Double2 R → Double2 R → Double2 R)
    (p : Fin P) :
    (assign target u v f).data p = List.zipWith f (u.data p) (v.data p) := by
  refine overwrite_of_length _ _ ?_
  rw [List.length_zipWith, ColorSpinorField.length_data_eq hu,
    ColorSpinorField.length_data_eq hv, min_self]

end Spec

------------------------------------------------------------
-- Element-Local Launches
------------------------------------------------------------

section Local

variable {S T : Type} [AddCommMonoid T] {P : Nat}

/-
  With empty brackets and an `operator()` that adds `inc e` and
  writes `out e` whatever the member state and the sum, one rank's
  `double2` launch adds up the increments of its elements and
  stores their outputs.
-/
theorem reduceRank_of_local
    {F : ReduceFunctor S (Double2 R) T}
    (hF : TrivialBrackets F)
    (inc : Slots (Double2 R) → T)
    (out : Slots (Double2 R) → Slots (Double2 R))
    (hOp : ∀ st sum e, (F.op st sum e).2 = (sum + inc e, out e))
    (siteUnroll : Bool)
    (siteSize : Nat)
    (ops : Slots (List (Double2 R))) :
    reduceRank F siteUnroll siteSize ops =
      (((zip5 ops.x ops.y ops.z ops.w ops.v).map inc).sum,
        Slots.unzip ((zip5 ops.x ops.y ops.z ops.w ops.v).map out)) := by
  obtain ⟨-, hSum, hOut⟩ := reduceThread_flatten hF
    (chunk (if siteUnroll then siteSize else 1) (zip5 ops.x ops.y ops.z ops.w ops.v))
    F.init 0
  rw [flatten_chunk] at hSum hOut
  have hVisit := visit_of_local F.op inc out hOp (zip5 ops.x ops.y ops.z ops.w ops.v)
    F.init 0
  simp only [Prod.ext_iff, zero_add] at hVisit
  simp only [reduceRank, FloatN.width_double2, FloatN.load_double2,
    FloatN.save_double2, List.map_id]
  rw [hSum, hVisit.1, ← hVisit.2, ← hOut]

/- The launch on every rank, summed over the ranks. -/
theorem launch_of_local
    {F : Reducer R T}
    {a b : Double2 R}
    (hF : TrivialBrackets (F.functor (Double2 R) a b))
    (inc : Slots (Double2 R) → T)
    (out : Slots (Double2 R) → Slots (Double2 R))
    (hOp : ∀ st sum e, ((F.functor (Double2 R) a b).op st sum e).2 = (sum + inc e, out e))
    (writes : Slots Bool)
    (siteUnroll : Bool)
    (fields : Slots (ColorSpinorField R P)) :
    launch F .double2 writes siteUnroll a b fields =
      (∑ p, ((zip5 (fields.x.data p) (fields.y.data p) (fields.z.data p)
          (fields.w.data p) (fields.v.data p)).map inc).sum,
        writeBack writes fields fun p => Slots.unzip
          ((zip5 (fields.x.data p) (fields.y.data p) (fields.z.data p)
            (fields.w.data p) (fields.v.data p)).map out)) := by
  simp only [launch, reduceRankAs, reduceRank_of_local hF inc out hOp, reduceDoubleArray]
  rfl

/-
  At coefficients `a, b` every element adds `inc e` to the sum and
  writes `out e`, and `F` has empty brackets and agrees across the
  vector widths.
-/
structure ElementLocal (F : Reducer R T) (a b : Double2 R)
    (inc : Slots (Double2 R) → T) (out : Slots (Double2 R) → Slots (Double2 R)) :
    Prop where
  splits : ∃ rel, Splits (F.functor (Float4 R) a b) (F.functor (Double2 R) a b) rel
  brackets₄ : TrivialBrackets (F.functor (Float4 R) a b)
  brackets₂ : TrivialBrackets (F.functor (Double2 R) a b)
  op : ∀ st sum e, ((F.functor (Double2 R) a b).op st sum e).2 = (sum + inc e, out e)

/- A template without member state whose `double2` step is local. -/
theorem ElementLocal.ofOp
    {step : (V : Type) → [FloatN V R] → Double2 R → Double2 R → T → Slots V → T × Slots V}
    {a b : Double2 R}
    {inc : Slots (Double2 R) → T}
    {out : Slots (Double2 R) → Slots (Double2 R)}
    (hSplit : ∀ sum p q, step (Float4 R) a b sum (joinSlots p q) =
      ((step (Double2 R) a b (step (Double2 R) a b sum p).1 q).1,
        joinSlots (step (Double2 R) a b sum p).2
          (step (Double2 R) a b (step (Double2 R) a b sum p).1 q).2))
    (hStep : ∀ sum e, step (Double2 R) a b sum e = (sum + inc e, out e)) :
    ElementLocal (Reducer.ofOp step) a b inc out :=
  ⟨⟨_, ofOp_splits _ _ hSplit⟩, ⟨fun _ => rfl, fun _ _ => rfl⟩,
    ⟨fun _ => rfl, fun _ _ => rfl⟩, fun _ sum e => hStep sum e⟩

/-
  A call of an element-local functor on compatible operands, read
  through either vector type.
-/
theorem reduceCuda_of_local
    {F : Reducer R T}
    {a b : Double2 R}
    {inc : Slots (Double2 R) → T}
    {out : Slots (Double2 R) → Slots (Double2 R)}
    (hF : ElementLocal F a b inc out)
    (writes : Slots Bool)
    {x y z w v : ColorSpinorField R P}
    (hy : Compatible x y)
    (hz : Compatible x z)
    (hw : Compatible x w)
    (hv : Compatible x v) :
    reduceCuda F writes false a b x y z w v =
      .ok (∑ p, ((zip5 (x.data p) (y.data p) (z.data p) (w.data p) (v.data p)).map inc).sum,
        writeBack writes ⟨x, y, z, w, v⟩ fun p => Slots.unzip
          ((zip5 (x.data p) (y.data p) (z.data p) (w.data p) (v.data p)).map out)) := by
  obtain ⟨rel, hSplit⟩ := hF.splits
  rw [reduceCuda_eq_ok F writes false a b hy hz hw hv,
    launch_viewOf hSplit writes false ⟨x, y, z, w, v⟩ ⟨hy.2.1, hz.2.1, hw.2.1, hv.2.1⟩
      (.inr ⟨hF.brackets₄, hF.brackets₂⟩),
    launch_of_local hF.brackets₂ inc out hF.op]

/-
  An elementwise update of compatible fields: what a launch reads off
  their zipped data, site by site, is any list of the operands' length
  that agrees with it at every site.
-/
omit [LinearOrderedField R] in
theorem map_zip5_data_eq
    {x y z w v : ColorSpinorField R P}
    (hy : Compatible x y)
    (hz : Compatible x z)
    (hw : Compatible x w)
    (hv : Compatible x v)
    (p : Fin P)
    {β : Type}
    {g : Slots (Double2 R) → β}
    {l : List β}
    (hl : l.length = (x.data p).length)
    (hk : ∀ k (h₁ : k < (zip5 (x.data p) (y.data p) (z.data p) (w.data p) (v.data p)).length)
      (h₂ : k < l.length),
      g (zip5 (x.data p) (y.data p) (z.data p) (w.data p) (v.data p))[k] = l[k]) :
    (zip5 (x.data p) (y.data p) (z.data p) (w.data p) (v.data p)).map g = l := by
  refine List.ext_getElem ?_ fun k h₁ h₂ => ?_
  · rw [List.length_map, length_zip5 _ _ _ _ _ (hy.length_data p) (hz.length_data p)
      (hw.length_data p) (hv.length_data p), hl]
  · rw [List.getElem_map]
    exact hk k _ h₂

end Local

end Quda
