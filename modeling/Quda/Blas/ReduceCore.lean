import Quda.Blas.Functor
import Quda.Blas.Field

/-
  The generic reduction dispatcher.  `reduce_quda.cu` includes
  `reduce_core.h`, `reduce_core.cuh` and `reduce_mixed_core.h`,
  which are not among the sources; `reduceCuda`,
  `mixed.reduceCuda` and `reduceDoubleArray` are modelled from the
  spec (§4.3, §4.5), the rest is the per-thread loop they run.

  A kernel launch is a grid-stride loop: each thread owns a copy
  of the functor and a partial sum that starts at zero, and visits
  array indices; at each index it calls `pre()`, runs the M-loop
  of `operator()` over the index's vectors, calls `post(sum)` and
  stores the operands the write flags select.  `reduceThread` is
  one thread visiting a list of indices; a launch in which one
  thread visits all indices in order is `reduceRank`.  The launch
  geometry theorem (`Quda.Blas.LaunchGeometry`) shows every other
  geometry gives the same result.

  Main declarations:
    * `visit`, `reduceIndex`, `reduceThread`
    * `chunk`, `reduceRank`
    * `reduceDoubleArray`, `launch`, `reduceCuda`, `mixed.reduceCuda`
-/

------------------------------------------------------------
-- The Per-Thread Loop
------------------------------------------------------------

namespace Quda

section Visit

variable {S T α : Type}

/- Visit items in order, threading member state and partial sum. -/
def visit
    (f : S → T → α → S × T × α) :
    S → T → List α → S × T × List α
  | st, sum, [] => (st, sum, [])
  | st, sum, a :: as =>
      let r := f st sum a
      let rs := visit f r.1 r.2.1 as
      (rs.1, rs.2.1, r.2.2 :: rs.2.2)

@[simp] theorem visit_nil
    (f : S → T → α → S × T × α)
    (st : S)
    (sum : T) :
    visit f st sum [] = (st, sum, []) := rfl

theorem visit_cons
    (f : S → T → α → S × T × α)
    (st : S)
    (sum : T)
    (a : α)
    (as : List α) :
    visit f st sum (a :: as) =
      ((visit f (f st sum a).1 (f st sum a).2.1 as).1,
        (visit f (f st sum a).1 (f st sum a).2.1 as).2.1,
        (f st sum a).2.2 :: (visit f (f st sum a).1 (f st sum a).2.1 as).2.2) :=
  rfl

/-
  If a visit adds `inc a` to the sum and writes `out a`, whatever
  the state and sum it meets, a whole pass adds the sum of the
  increments and writes every output.
-/
theorem visit_of_local
    [AddCommMonoid T]
    (f : S → T → α → S × T × α)
    (inc : α → T)
    (out : α → α)
    (hLocal : ∀ st sum a, (f st sum a).2 = (sum + inc a, out a)) :
    ∀ (as : List α) (st : S) (sum : T),
      (visit f st sum as).2 = (sum + (as.map inc).sum, as.map out)
  | [], _, _ => by simp
  | a :: as, st, sum => by
      have hHead := hLocal st sum a
      simp only [Prod.ext_iff] at hHead
      rw [visit_cons, hHead.1, hHead.2,
        visit_of_local f inc out hLocal as]
      simp [add_assoc]

end Visit

variable {R : Type} [LinearOrderedField R]
variable {S V T : Type}

/-
  One thread at one array index: `pre()`, the M-loop of
  `operator()` over the index's vectors, `post(sum)`.
-/
def reduceIndex
    (F : ReduceFunctor S V T)
    (st : S)
    (sum : T)
    (index : List (Slots V)) :
    S × T × List (Slots V) :=
  let r := visit F.op (F.pre st) sum index
  (r.1, F.post r.1 r.2.1, r.2.2)

/- One thread visiting its array indices in order. -/
def reduceThread
    (F : ReduceFunctor S V T) :
    S → T → List (List (Slots V)) → S × T × List (List (Slots V)) :=
  visit (reduceIndex F)

------------------------------------------------------------
-- Array Indices
------------------------------------------------------------

/-
  Cut a list into pieces of `m` (the last may be shorter); `m = 0`
  cuts as `m = 1`.
-/
def chunk
    {α : Type}
    (m : Nat) :
    List α → List (List α)
  | [] => []
  | a :: l => (a :: l.take (m - 1)) :: chunk m (l.drop (m - 1))
termination_by l => l.length
decreasing_by simp_wf; omega

theorem flatten_chunk
    {α : Type}
    (m : Nat)
    (l : List α) :
    (chunk m l).flatten = l := by
  induction l using chunk.induct m with
  | case1 => simp [chunk]
  | case2 a l ih =>
      rw [chunk, List.flatten_cons, ih, List.cons_append,
        List.take_append_drop]

theorem chunk_map
    {α β : Type}
    (m : Nat)
    (f : α → β)
    (l : List α) :
    chunk m (l.map f) = (chunk m l).map (List.map f) := by
  induction l using chunk.induct m with
  | case1 => simp [chunk]
  | case2 a l ih =>
      rw [List.map_cons, chunk, chunk, ← List.map_drop, ih]
      simp [List.map_take]

/-
  One rank's launch, with one thread visiting all indices: the
  operands are read as vectors `V`, an index is a site when
  site-unrolled and one vector otherwise, and the new operand
  values are returned in place of the old.
-/
def reduceRank
    [FloatN V R]
    (F : ReduceFunctor S V T)
    [AddCommMonoid T]
    (siteUnroll : Bool)
    (siteSize : Nat)
    (ops : Slots (List (Double2 R))) :
    T × Slots (List (Double2 R)) :=
  let m := if siteUnroll then siteSize else FloatN.width V
  let indices := (chunk m (zip5 ops.x ops.y ops.z ops.w ops.v)).map FloatN.load
  let r := reduceThread F F.init 0 indices
  (r.2.1, Slots.unzip (r.2.2.map FloatN.save).flatten)

------------------------------------------------------------
-- The Dispatcher
------------------------------------------------------------

variable {P : Nat}

/- The vector type a field is read as. -/
inductive View
  | double2
  | float4
deriving DecidableEq, Repr

/-
  `double2` for double precision, `float4` for single and half
  precision Wilson-type (four-spin) fields, `float2` (which shares
  `double2`) otherwise.
-/
def viewOf
    (x : ColorSpinorField R P) :
    View :=
  if x.precision ≠ .double ∧ x.nSpin = 4 then .float4 else .double2

/- One rank's launch with the functor of `F` read through `view`. -/
def reduceRankAs
    [AddCommMonoid T]
    (F : Reducer R T)
    (view : View)
    (siteUnroll : Bool)
    (a b : Double2 R)
    (siteSize : Nat)
    (ops : Slots (List (Double2 R))) :
    T × Slots (List (Double2 R)) :=
  match view with
  | .double2 => reduceRank (F.functor (Double2 R) a b) siteUnroll siteSize ops
  | .float4 => reduceRank (F.functor (Float4 R) a b) siteUnroll siteSize ops

/- Store `new` into the field when its write flag is set. -/
def storeIf
    (flag : Bool)
    (f : ColorSpinorField R P)
    (new : Fin P → List (Double2 R)) :
    ColorSpinorField R P :=
  if flag then f.store new else f

/- The operands after every rank stored the slots `writes` selects. -/
def writeBack
    (writes : Slots Bool)
    (fields : Slots (ColorSpinorField R P))
    (new : Fin P → Slots (List (Double2 R))) :
    Slots (ColorSpinorField R P) :=
  ⟨storeIf writes.x fields.x fun p => (new p).x,
    storeIf writes.y fields.y fun p => (new p).y,
    storeIf writes.z fields.z fun p => (new p).z,
    storeIf writes.w fields.w fun p => (new p).w,
    storeIf writes.v fields.v fun p => (new p).v⟩

/- Every operand has `x`'s `Length()`, as the operand checks ensure. -/
def LengthsMatch
    (fields : Slots (ColorSpinorField R P)) :
    Prop :=
  fields.x.length = fields.y.length ∧ fields.x.length = fields.z.length ∧
    fields.x.length = fields.w.length ∧ fields.x.length = fields.v.length

/- On every rank the element tuples of matching operands cover `x`. -/
omit [LinearOrderedField R] in
theorem LengthsMatch.length_zip5
    {fields : Slots (ColorSpinorField R P)}
    (h : LengthsMatch fields)
    (p : Fin P) :
    (zip5 (fields.x.data p) (fields.y.data p) (fields.z.data p)
      (fields.w.data p) (fields.v.data p)).length = (fields.x.data p).length :=
  Quda.length_zip5 _ _ _ _ _ (ColorSpinorField.length_data_eq h.1 p)
    (ColorSpinorField.length_data_eq h.2.1 p)
    (ColorSpinorField.length_data_eq h.2.2.1 p)
    (ColorSpinorField.length_data_eq h.2.2.2 p)

/--
  Modelled from the spec: `reduceDoubleArray`, the sum-all-reduce
  over the ranks applied to each rank's result (§4.5, §6).
-/
def reduceDoubleArray
    [AddCommMonoid T]
    (sums : Fin P → T) :
    T :=
  ∑ p, sums p

/-
  The launch on every rank through `view`, then the all-reduce of
  the local results and the stores.
-/
def launch
    [AddCommMonoid T]
    (F : Reducer R T)
    (view : View)
    (writes : Slots Bool)
    (siteUnroll : Bool)
    (a b : Double2 R)
    (fields : Slots (ColorSpinorField R P)) :
    T × Slots (ColorSpinorField R P) :=
  let rank := fun p =>
    reduceRankAs F view siteUnroll a b fields.x.siteSize (fields.map (·.data p))
  (reduceDoubleArray fun p => (rank p).1, writeBack writes fields fun p => (rank p).2)

/--
  Modelled from the spec: `reduceCuda<doubleN, ReduceType, Reducer,
  writeX, writeY, writeZ, writeW, writeV, siteUnroll>` of
  `reduce_core.h` (§4.3).  The operands must pass `checkSpinor`
  against `x` before the launch; the kernel reads them as `double2`
  or `float4` by `x`'s precision and spin count, every rank reduces
  its part, the results are summed over the ranks, and the operands
  whose write flag is set are stored.
-/
def reduceCuda
    [AddCommMonoid T]
    (F : Reducer R T)
    (writes : Slots Bool)
    (siteUnroll : Bool)
    (a b : Double2 R)
    (x y z w v : ColorSpinorField R P) :
    Except String (T × Slots (ColorSpinorField R P)) := do
  checkSpinor x y
  checkSpinor x z
  checkSpinor x w
  checkSpinor x v
  pure (launch F (viewOf x) writes siteUnroll a b ⟨x, y, z, w, v⟩)

/--
  Modelled from the spec: `mixed::reduceCuda` of
  `reduce_mixed_core.h` (§4.3), chosen when the operands'
  precisions differ.  It has `reduceCuda`'s contract, with only
  lengths and strides checked and the operands read through
  precision-converting accessors, which in exact arithmetic read
  every operand as `double2`.
-/
def mixed.reduceCuda
    [AddCommMonoid T]
    (F : Reducer R T)
    (writes : Slots Bool)
    (siteUnroll : Bool)
    (a b : Double2 R)
    (x y z w v : ColorSpinorField R P) :
    Except String (T × Slots (ColorSpinorField R P)) := do
  checkLength x y
  checkLength x z
  checkLength x w
  checkLength x v
  pure (launch F .double2 writes siteUnroll a b ⟨x, y, z, w, v⟩)

variable [AddCommMonoid T] (F : Reducer R T) (writes : Slots Bool)
  (siteUnroll : Bool) (a b : Double2 R) {x y z w v : ColorSpinorField R P}

/- On operands compatible with `x`, `reduceCuda` is the launch. -/
theorem reduceCuda_eq_ok
    (hy : Compatible x y)
    (hz : Compatible x z)
    (hw : Compatible x w)
    (hv : Compatible x v) :
    reduceCuda F writes siteUnroll a b x y z w v =
      .ok (launch F (viewOf x) writes siteUnroll a b ⟨x, y, z, w, v⟩) := by
  simp only [reduceCuda, (checkSpinor_eq_ok_iff _ _).2, hy, hz, hw, hv]
  rfl

/- On operands of `x`'s length and stride, `mixed.reduceCuda` is the launch. -/
theorem mixed.reduceCuda_eq_ok
    (hy : checkLength x y = .ok ())
    (hz : checkLength x z = .ok ())
    (hw : checkLength x w = .ok ())
    (hv : checkLength x v = .ok ()) :
    mixed.reduceCuda F writes siteUnroll a b x y z w v =
      .ok (launch F .double2 writes siteUnroll a b ⟨x, y, z, w, v⟩) := by
  simp only [mixed.reduceCuda, hy, hz, hw, hv]
  rfl

end Quda
