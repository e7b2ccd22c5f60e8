import Quda.Blas.ReduceCore

/-
  The BLAS reduction entry points of `reduce_quda.cu`.

  Each entry point builds its coefficients, binds its fields to
  the functor slots `x, y, z, w, v`, sets the write flags and calls
  the dispatcher.  Fused entry points return their result together
  with their field arguments as they are after the call; pure
  reductions write nothing and return only the result.  A
  `Complex` coefficient or result is a `Double2`.

  Main declarations:
    * `norm1`, `norm2`, `reDotProduct`, `cDotProduct`,
      `cDotProductNormA`, `tripleCGReduction`,
      `quadrupleCGReduction`
    * `axpbyzNorm`, `axpyReDot`, `caxpyNorm`, `caxpyXmazNormX`,
      `cabxpyzAxNorm`, `caxpyDotzy`,
      `caxpbypzYmbwcDotProductUYNormY`, `axpyCGNorm`
    * `HeavyQuarkResidualNorm`, `xpyHeavyQuarkResidualNorm`
    * `quadrupleCG3InitNorm`, `quadrupleCG3UpdateNorm`,
      `doubleCG3InitNorm`, `doubleCG3UpdateNorm`
-/

------------------------------------------------------------
-- Write Flags
------------------------------------------------------------

namespace Quda

/- The template flags `writeX, ..., writeV` of an instantiation. -/
def writeFlags
    (wx wy wz ww wv : Nat) :
    Slots Bool :=
  ⟨wx = 1, wy = 1, wz = 1, ww = 1, wv = 1⟩

variable {R : Type} [LinearOrderedField R] {P : Nat}

------------------------------------------------------------
-- Pure Reductions
------------------------------------------------------------

/- `norm1(x)`. -/
def norm1
    (x : ColorSpinorField R P) :
    Except String R :=
  Prod.fst <$> reduceCuda Norm1 (writeFlags 0 0 0 0 0) false 0 0 x x x x x

/- `norm2(x)`. -/
def norm2
    (x : ColorSpinorField R P) :
    Except String R :=
  Prod.fst <$> reduceCuda Norm2 (writeFlags 0 0 0 0 0) false 0 0 x x x x x

/- `reDotProduct(x, y)`. -/
def reDotProduct
    (x y : ColorSpinorField R P) :
    Except String R :=
  Prod.fst <$> reduceCuda Dot (writeFlags 0 0 0 0 0) false 0 0 x y x x x

/- `cDotProduct(x, y)`. -/
def cDotProduct
    (x y : ColorSpinorField R P) :
    Except String (Double2 R) :=
  Prod.fst <$> reduceCuda Cdot (writeFlags 0 0 0 0 0) false 0 0 x y x x x

/- `cDotProductNormA(x, y)`. -/
def cDotProductNormA
    (x y : ColorSpinorField R P) :
    Except String (Double3 R) :=
  Prod.fst <$> reduceCuda CdotNormA (writeFlags 0 0 0 0 0) false 0 0 x y x x x

/- `tripleCGReduction(x, y, z)`. -/
def tripleCGReduction
    (x y z : ColorSpinorField R P) :
    Except String (Double3 R) :=
  Prod.fst <$>
    reduceCuda tripleCGReduction_ (writeFlags 0 0 0 0 0) false 0 0 x y z x x

/- `quadrupleCGReduction(x, y, z)`: the functor's `w` slot is bound to `x`. -/
def quadrupleCGReduction
    (x y z : ColorSpinorField R P) :
    Except String (Double4 R) :=
  Prod.fst <$>
    reduceCuda quadrupleCGReduction_ (writeFlags 0 0 0 0 0) false 0 0 x y z x x

/-
  `HeavyQuarkResidualNorm(x, r)`: the zero triple unless
  `x.Ncolor() == 3`; otherwise the site-unrolled reduction, with
  the summed ratios divided by the global site count after the
  all-reduce.
-/
def HeavyQuarkResidualNorm
    (x r : ColorSpinorField R P) :
    Except String (Double3 R) :=
  if x.nColor ≠ 3 then pure ⟨0, 0, 0⟩ else do
    let rtn ← Prod.fst <$> reduceCuda HeavyQuarkResidualNorm_
      (writeFlags 0 0 0 0 0) true 0 0 x r r r r
    pure { rtn with z := rtn.z / (intMul x.volume P : R) }

/- `xpyHeavyQuarkResidualNorm(x, y, r)`: `HeavyQuarkResidualNorm(x + y, r)`. -/
def xpyHeavyQuarkResidualNorm
    (x y r : ColorSpinorField R P) :
    Except String (Double3 R) :=
  if x.nColor ≠ 3 then pure ⟨0, 0, 0⟩ else do
    let rtn ← Prod.fst <$> reduceCuda xpyHeavyQuarkResidualNorm_
      (writeFlags 0 0 0 0 0) true 0 0 x y r r r
    pure { rtn with z := rtn.z / (intMul x.volume P : R) }

------------------------------------------------------------
-- Fused Updates
------------------------------------------------------------

/- `axpbyzNorm(a, x, b, y, z)`; returns the norm and `x, y, z`. -/
def axpbyzNorm
    (a : R)
    (x : ColorSpinorField R P)
    (b : R)
    (y z : ColorSpinorField R P) :
    Except String (R × ColorSpinorField R P × ColorSpinorField R P ×
      ColorSpinorField R P) := do
  let r ← reduceCuda axpbyzNorm2 (writeFlags 0 0 1 0 0) false ⟨a, 0⟩ ⟨b, 0⟩
    x y z x x
  pure (r.1, r.2.x, r.2.y, r.2.z)

/- `axpyReDot(a, x, y)`; returns the dot product and `x, y`. -/
def axpyReDot
    (a : R)
    (x y : ColorSpinorField R P) :
    Except String (R × ColorSpinorField R P × ColorSpinorField R P) := do
  let r ← reduceCuda AxpyReDot (writeFlags 0 1 0 0 0) false ⟨a, 0⟩ 0 x y x x x
  pure (r.1, r.2.x, r.2.y)

/- `caxpyNorm(a, x, y)`; returns the norm and `x, y`. -/
def caxpyNorm
    (a : Double2 R)
    (x y : ColorSpinorField R P) :
    Except String (R × ColorSpinorField R P × ColorSpinorField R P) := do
  let r ← reduceCuda caxpyNorm2 (writeFlags 0 1 0 0 0) false a 0 x y x x x
  pure (r.1, r.2.x, r.2.y)

/- `caxpyXmazNormX(a, x, y, z)`; returns the norm and `x, y, z`. -/
def caxpyXmazNormX
    (a : Double2 R)
    (x y z : ColorSpinorField R P) :
    Except String (R × ColorSpinorField R P × ColorSpinorField R P ×
      ColorSpinorField R P) := do
  let r ← reduceCuda caxpyxmaznormx (writeFlags 1 1 0 0 0) false a 0 x y z x x
  pure (r.1, r.2.x, r.2.y, r.2.z)

/- `cabxpyzAxNorm(a, b, x, y, z)`; returns the norm and `x, y, z`. -/
def cabxpyzAxNorm
    (a : R)
    (b : Double2 R)
    (x y z : ColorSpinorField R P) :
    Except String (R × ColorSpinorField R P × ColorSpinorField R P ×
      ColorSpinorField R P) := do
  let r ← reduceCuda cabxpyzaxnorm (writeFlags 1 0 1 0 0) false ⟨a, 0⟩ b
    x y z x x
  pure (r.1, r.2.x, r.2.y, r.2.z)

/- `caxpyDotzy(a, x, y, z)`; returns the dot product and `x, y, z`. -/
def caxpyDotzy
    (a : Double2 R)
    (x y z : ColorSpinorField R P) :
    Except String (Double2 R × ColorSpinorField R P × ColorSpinorField R P ×
      ColorSpinorField R P) := do
  let r ← reduceCuda caxpydotzy (writeFlags 0 1 0 0 0) false a 0 x y z x x
  pure (r.1, r.2.x, r.2.y, r.2.z)

/-
  `caxpbypzYmbwcDotProductUYNormY(a, x, b, y, z, w, u)`, through
  the mixed-precision dispatcher when `x` and `z` differ in
  precision; returns the result and `x, y, z, w, u`.
-/
def caxpbypzYmbwcDotProductUYNormY
    (a : Double2 R)
    (x : ColorSpinorField R P)
    (b : Double2 R)
    (y z w u : ColorSpinorField R P) :
    Except String (Double3 R × ColorSpinorField R P × ColorSpinorField R P ×
      ColorSpinorField R P × ColorSpinorField R P × ColorSpinorField R P) := do
  let r ← if x.precision ≠ z.precision then
      mixed.reduceCuda caxpbypzYmbwcDotProductUYNormY_ (writeFlags 0 1 1 0 0)
        false a b x y z w u
    else
      reduceCuda caxpbypzYmbwcDotProductUYNormY_ (writeFlags 0 1 1 0 0)
        false a b x y z w u
  pure (r.1, r.2.x, r.2.y, r.2.z, r.2.w, r.2.v)

/-
  `axpyCGNorm(a, x, y)`, with `y` bound to the functor's `z` slot
  and the mixed-precision dispatcher when `x` and `y` differ in
  precision; returns the result and `x, y`.
-/
def axpyCGNorm
    (a : R)
    (x y : ColorSpinorField R P) :
    Except String (Double2 R × ColorSpinorField R P × ColorSpinorField R P) := do
  let r ← if x.precision ≠ y.precision then
      mixed.reduceCuda axpyCGNorm2 (writeFlags 0 0 1 0 0) false ⟨a, 0⟩ 0
        x x y x x
    else
      reduceCuda axpyCGNorm2 (writeFlags 0 0 1 0 0) false ⟨a, 0⟩ 0 x x y x x
  pure (r.1, r.2.x, r.2.z)

/- `quadrupleCG3InitNorm(a, x, y, z, w, v)`; returns the norm and `x, ..., v`. -/
def quadrupleCG3InitNorm
    (a : R)
    (x y z w v : ColorSpinorField R P) :
    Except String (R × ColorSpinorField R P × ColorSpinorField R P ×
      ColorSpinorField R P × ColorSpinorField R P × ColorSpinorField R P) := do
  let r ← reduceCuda quadrupleCG3InitNorm_ (writeFlags 1 1 1 1 0) false
    ⟨a, 0⟩ 0 x y z w v
  pure (r.1, r.2.x, r.2.y, r.2.z, r.2.w, r.2.v)

/-
  `quadrupleCG3UpdateNorm(a, b, x, y, z, w, v)` with coefficients
  `(a, 0)` and `(b, 1 - b)`; returns the norm and `x, ..., v`.
-/
def quadrupleCG3UpdateNorm
    (a b : R)
    (x y z w v : ColorSpinorField R P) :
    Except String (R × ColorSpinorField R P × ColorSpinorField R P ×
      ColorSpinorField R P × ColorSpinorField R P × ColorSpinorField R P) := do
  let r ← reduceCuda quadrupleCG3UpdateNorm_ (writeFlags 1 1 1 1 0) false
    ⟨a, 0⟩ ⟨b, 1 - b⟩ x y z w v
  pure (r.1, r.2.x, r.2.y, r.2.z, r.2.w, r.2.v)

/- `doubleCG3InitNorm(a, x, y, z)`; returns the norm and `x, y, z`. -/
def doubleCG3InitNorm
    (a : R)
    (x y z : ColorSpinorField R P) :
    Except String (R × ColorSpinorField R P × ColorSpinorField R P ×
      ColorSpinorField R P) := do
  let r ← reduceCuda doubleCG3InitNorm_ (writeFlags 1 1 0 0 0) false
    ⟨a, 0⟩ 0 x y z z z
  pure (r.1, r.2.x, r.2.y, r.2.z)

/-
  `doubleCG3UpdateNorm(a, b, x, y, z)` with coefficients `(a, 0)`
  and `(b, 1 - b)`; returns the norm and `x, y, z`.
-/
def doubleCG3UpdateNorm
    (a b : R)
    (x y z : ColorSpinorField R P) :
    Except String (R × ColorSpinorField R P × ColorSpinorField R P ×
      ColorSpinorField R P) := do
  let r ← reduceCuda doubleCG3UpdateNorm_ (writeFlags 1 1 0 0 0) false
    ⟨a, 0⟩ ⟨b, 1 - b⟩ x y z z z
  pure (r.1, r.2.x, r.2.y, r.2.z)

end Quda
