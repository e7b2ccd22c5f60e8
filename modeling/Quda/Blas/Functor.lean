import Quda.Blas.FloatVector

/-
  The reduction functors of `reduce_quda.cu`.

  A functor is built from two coefficients `a, b` (each a
  `Float2`, i.e. a complex number) and carries member state `S`
  (`aux`, `tmpx`, ... ; `Unit` when it has none).  Its
  `operator()` sees the running sum of type `T` (`ReduceType`)
  and the five operands of one element, and returns the new
  member state, sum and operands; which operands reach memory is
  decided by the dispatcher's write flags.  `pre()` and `post()`
  bracket the M-loop over the vectors of one array index.

  A `Reducer` is the functor template the dispatcher receives,
  `Reducer<ReduceType, Float2, FloatN>`: it builds the functor at
  every vector type.

  Main declarations:
    * `ReduceFunctor`, `ReduceFunctor.ofOp`
    * `Reducer`, `Reducer.ofOp`
    * the catalog, `Norm1` ... `doubleCG3UpdateNorm_`
-/

------------------------------------------------------------
-- Reduction Functors
------------------------------------------------------------

namespace Quda

/- `ReduceFunctor`: the base class every reduction derives from. -/
structure ReduceFunctor (S V T : Type) where
  /- Member state right after construction. -/
  init : S
  /- `pre()`, called before the M-loop. -/
  pre : S → S
  /- `operator()(sum, x, y, z, w, v)`. -/
  op : S → T → Slots V → S × T × Slots V
  /- `post(sum)`, called after the M-loop. -/
  post : S → T → T

namespace ReduceFunctor

variable {V T : Type}

/-
  A functor without member state: the base class's empty `pre()`
  and `post()`, and `operator()` given by `step`.
-/
def ofOp
    (step : T → Slots V → T × Slots V) :
    ReduceFunctor Unit V T where
  init := ()
  pre := id
  op := fun st sum e => (st, step sum e)
  post := fun _ sum => sum

@[simp] theorem ofOp_init
    (step : T → Slots V → T × Slots V) :
    (ofOp step).init = () := rfl
@[simp] theorem ofOp_pre
    (step : T → Slots V → T × Slots V)
    (st : Unit) :
    (ofOp step).pre st = st := rfl
@[simp] theorem ofOp_op
    (step : T → Slots V → T × Slots V)
    (st : Unit)
    (sum : T)
    (e : Slots V) :
    (ofOp step).op st sum e = (st, step sum e) := rfl
@[simp] theorem ofOp_post
    (step : T → Slots V → T × Slots V)
    (st : Unit)
    (sum : T) :
    (ofOp step).post st sum = sum := rfl

end ReduceFunctor

variable {R : Type} [LinearOrderedField R]

/-
  A functor template `Reducer<ReduceType, Float2, FloatN>` with
  `ReduceType = T`: for every vector type `V` and coefficients
  `a, b`, the functor `Reducer<T, double2, V> r(a, b)`.
-/
structure Reducer (R T : Type) [LinearOrderedField R] where
  /- Member state of the functor at vector type `V`. -/
  State : Type → Type
  /- The functor at vector type `V` built from `a` and `b`. -/
  functor : (V : Type) → [FloatN V R] → Double2 R → Double2 R →
    ReduceFunctor (State V) V T

/- A template without member state. -/
def Reducer.ofOp
    {T : Type}
    (step : (V : Type) → [FloatN V R] → Double2 R → Double2 R →
      T → Slots V → T × Slots V) :
    Reducer R T where
  State _ := Unit
  functor V _ a b := .ofOp (step V a b)

@[simp] theorem Reducer.ofOp_functor
    {T : Type}
    (step : (V : Type) → [FloatN V R] → Double2 R → Double2 R →
      T → Slots V → T × Slots V)
    (V : Type)
    [FloatN V R]
    (a b : Double2 R) :
    (Reducer.ofOp step).functor V a b = .ofOp (step V a b) := rfl

------------------------------------------------------------
-- The Catalog
------------------------------------------------------------

/- `Norm1`: `sum += norm1_(x)`. -/
def Norm1 : Reducer R R :=
  .ofOp fun _ _ _ _ sum e => (sum + norm1_ e.x, e)

/- `Norm2`: `norm2_(sum, x)`. -/
def Norm2 : Reducer R R :=
  .ofOp fun _ _ _ _ sum e => (norm2_ sum e.x, e)

/- `Dot`: `dot_(sum, x, y)`. -/
def Dot : Reducer R R :=
  .ofOp fun _ _ _ _ sum e => (dot_ sum e.x e.y, e)

/- `axpbyzNorm2`: `z = a.x*x + b.x*y; norm2_(sum, z)`. -/
def axpbyzNorm2 : Reducer R R :=
  .ofOp fun _ _ a b sum e =>
    let z := a.x • e.x + b.x • e.y
    (norm2_ sum z, { e with z := z })

/- `AxpyReDot`: `y += a.x*x; dot_(sum, x, y)`. -/
def AxpyReDot : Reducer R R :=
  .ofOp fun _ _ a _ sum e =>
    let y := e.y + a.x • e.x
    (dot_ sum e.x y, { e with y := y })

/- `caxpyNorm2`: `Caxpy_(a, x, y); norm2_(sum, y)`. -/
def caxpyNorm2 : Reducer R R :=
  .ofOp fun _ _ a _ sum e =>
    let y := caxpy_ a e.x e.y
    (norm2_ sum y, { e with y := y })

/- `caxpyxmaznormx`: `Caxpy_(a, x, y); Caxpy_(-a, z, x); norm2_(sum, x)`. -/
def caxpyxmaznormx : Reducer R R :=
  .ofOp fun _ _ a _ sum e =>
    let y := caxpy_ a e.x e.y
    let x := caxpy_ (-a) e.z e.x
    (norm2_ sum x, { e with x := x, y := y })

/- `cabxpyzaxnorm`: `x *= a.x; Caxpy_(b, x, y); z = y; norm2_(sum, z)`. -/
def cabxpyzaxnorm : Reducer R R :=
  .ofOp fun _ _ a b sum e =>
    let x := a.x • e.x
    let y := caxpy_ b x e.y
    let z := y
    (norm2_ sum z, { e with x := x, y := y, z := z })

/- `Cdot`: `cdot_(sum, x, y)`. -/
def Cdot : Reducer R (Double2 R) :=
  .ofOp fun _ _ _ _ sum e => (cdot_ sum e.x e.y, e)

/- `caxpydotzy`: `Caxpy_(a, x, y); cdot_(sum, z, y)`. -/
def caxpydotzy : Reducer R (Double2 R) :=
  .ofOp fun _ _ a _ sum e =>
    let y := caxpy_ a e.x e.y
    (cdot_ sum e.z y, { e with y := y })

section

variable {V : Type} [FloatN V R]

/- `cdotNormA_`: `cdot_` into `(sum.x, sum.y)`, `norm2_(sum.z, a)`. -/
def cdotNormA_
    (sum : Double3 R)
    (a b : V) :
    Double3 R :=
  let c := cdot_ ⟨sum.x, sum.y⟩ a b
  ⟨c.x, c.y, norm2_ sum.z a⟩

/- `cdotNormB_`: `cdot_` into `(sum.x, sum.y)`, `norm2_(sum.z, b)`. -/
def cdotNormB_
    (sum : Double3 R)
    (a b : V) :
    Double3 R :=
  let c := cdot_ ⟨sum.x, sum.y⟩ a b
  ⟨c.x, c.y, norm2_ sum.z b⟩

end

/- `CdotNormA`: `cdotNormA_(sum, x, y)`. -/
def CdotNormA : Reducer R (Double3 R) :=
  .ofOp fun _ _ _ _ sum e => (cdotNormA_ sum e.x e.y, e)

/-
  `caxpbypzYmbwcDotProductUYNormY_`: `Caxpy_(a, x, z);
  Caxpy_(b, y, z); Caxpy_(-b, w, y); cdotNormB_(sum, v, y)`.
-/
def caxpbypzYmbwcDotProductUYNormY_ : Reducer R (Double3 R) :=
  .ofOp fun _ _ a b sum e =>
    let z := caxpy_ a e.x e.z
    let z := caxpy_ b e.y z
    let y := caxpy_ (-b) e.w e.y
    (cdotNormB_ sum e.v y, { e with y := y, z := z })

/-
  `axpyCGNorm2`: `z_new = z + a.x*x; norm2_(sum.x, z_new);
  dot_(sum.y, z_new, z_new - z); z = z_new`.
-/
def axpyCGNorm2 : Reducer R (Double2 R) :=
  .ofOp fun _ _ a _ sum e =>
    let zNew := e.z + a.x • e.x
    let sx := norm2_ sum.x zNew
    let sy := dot_ sum.y zNew (zNew - e.z)
    (⟨sx, sy⟩, { e with z := zNew })

/-
  The two heavy-quark functors: `aux` is zero-initialised,
  `pre()` zeroes `aux.x, aux.y`, `operator()` adds the squared
  norms of the element's solution `sol` and residual `res` into
  them, and `post(sum)` folds `aux` into the sum, the ratio
  guarded by `aux.x > 0`.
-/
def heavyQuarkNorm
    (sol res : (V : Type) → [FloatN V R] → Slots V → V) :
    Reducer R (Double3 R) where
  State _ := Double3 R
  functor V _ _ _ :=
    { init := 0
      pre := fun aux => { aux with x := 0, y := 0 }
      op := fun aux sum e =>
        ({ aux with x := norm2_ aux.x (sol V e), y := norm2_ aux.y (res V e) },
          sum, e)
      post := fun aux sum =>
        ⟨sum.x + aux.x, sum.y + aux.y,
          sum.z + if 0 < aux.x then aux.y / aux.x else 1⟩ }

/- `HeavyQuarkResidualNorm_`: solution `x`, residual `y`. -/
def HeavyQuarkResidualNorm_ : Reducer R (Double3 R) :=
  heavyQuarkNorm (fun _ _ e => e.x) (fun _ _ e => e.y)

/- `xpyHeavyQuarkResidualNorm_`: solution `x + y`, residual `z`. -/
def xpyHeavyQuarkResidualNorm_ : Reducer R (Double3 R) :=
  heavyQuarkNorm (fun _ _ e => e.x + e.y) (fun _ _ e => e.z)

/-
  `tripleCGReduction_`: `norm2_(sum.x, x); norm2_(sum.y, y);
  dot_(sum.z, y, z)`.
-/
def tripleCGReduction_ : Reducer R (Double3 R) :=
  .ofOp fun _ _ _ _ sum e =>
    (⟨norm2_ sum.x e.x, norm2_ sum.y e.y, dot_ sum.z e.y e.z⟩, e)

/-
  `quadrupleCGReduction_`: the three sums of `tripleCGReduction_`
  and `norm2_(sum.w, w)`.
-/
def quadrupleCGReduction_ : Reducer R (Double4 R) :=
  .ofOp fun _ _ _ _ sum e =>
    (⟨norm2_ sum.x e.x, norm2_ sum.y e.y, dot_ sum.z e.y e.z,
      norm2_ sum.w e.w⟩, e)

/-
  `quadrupleCG3InitNorm_`: `z = x; w = y; x += a.x*y;
  y -= a.x*v; norm2_(sum, y)`.
-/
def quadrupleCG3InitNorm_ : Reducer R R :=
  .ofOp fun _ _ a _ sum e =>
    let z := e.x
    let w := e.y
    let x := e.x + a.x • e.y
    let y := e.y - a.x • e.v
    (norm2_ sum y, ⟨x, y, z, w, e.v⟩)

/-
  `quadrupleCG3UpdateNorm_`: `tmpx = x; tmpy = y;
  x = b.x*(x + a.x*y) + b.y*z; y = b.x*(y - a.x*v) + b.y*w;
  z = tmpx; w = tmpy; norm2_(sum, y)`, with `tmpx{}, tmpy{}`
  zero-initialised members.
-/
def quadrupleCG3UpdateNorm_ : Reducer R R where
  State V := V × V
  functor _ _ a b :=
    { init := (0, 0)
      pre := id
      op := fun _ sum e =>
        let tmpx := e.x
        let tmpy := e.y
        let x := b.x • (e.x + a.x • e.y) + b.y • e.z
        let y := b.x • (e.y - a.x • e.v) + b.y • e.w
        ((tmpx, tmpy), norm2_ sum y, ⟨x, y, tmpx, tmpy, e.v⟩)
      post := fun _ sum => sum }

/- `doubleCG3InitNorm_`: `y = x; x -= a.x*z; norm2_(sum, x)`. -/
def doubleCG3InitNorm_ : Reducer R R :=
  .ofOp fun _ _ a _ sum e =>
    let y := e.x
    let x := e.x - a.x • e.z
    (norm2_ sum x, { e with x := x, y := y })

/-
  `doubleCG3UpdateNorm_`: `tmp = x; x = b.x*(x - a.x*z) + b.y*y;
  y = tmp; norm2_(sum, x)`, with a zero-initialised member `tmp{}`.
-/
def doubleCG3UpdateNorm_ : Reducer R R where
  State V := V
  functor _ _ a b :=
    { init := 0
      pre := id
      op := fun _ sum e =>
        let tmp := e.x
        let x := b.x • (e.x - a.x • e.z) + b.y • e.y
        (tmp, norm2_ sum x, { e with x := x, y := tmp })
      post := fun _ sum => sum }

end Quda
