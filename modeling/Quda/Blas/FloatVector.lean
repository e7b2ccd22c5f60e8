import Mathlib

/-
  Short vector types of the BLAS reductions, the five operand
  slots of a reduction functor, and the per-type overloads
  `norm1_`, `norm2_`, `dot_`, `cdot_` and `Caxpy_` of
  `reduce_quda.cu`.

  A `double2` (and a `float2`, which shares `Double2`) holds one
  complex number, a `float4` two.  Arithmetic is exact: `R` is an
  ordered field standing for the reals.  Accumulating overloads
  take the running sum and return the updated one, one `+=` at a
  time as the source writes them.

  Main declarations:
    * `Double2`, `Float4`, `Double3`, `Double4`
    * `Slots`, `zip5`
    * `FloatN`, with instances for `Double2` and `Float4`
    * `FloatN.Additive`
-/

------------------------------------------------------------
-- Vector Types
------------------------------------------------------------

namespace Quda

/- A `double2`: one complex number `(x, y) = x + i y`. -/
@[ext]
structure Double2 (R : Type) where
  x : R
  y : R
deriving DecidableEq, Repr

/- A `float4`: two complex numbers `(x, y)` and `(z, w)`. -/
@[ext]
structure Float4 (R : Type) where
  x : R
  y : R
  z : R
  w : R
deriving DecidableEq, Repr

/- A `double3` accumulator. -/
@[ext]
structure Double3 (R : Type) where
  x : R
  y : R
  z : R
deriving DecidableEq, Repr

/- A `double4` accumulator. -/
@[ext]
structure Double4 (R : Type) where
  x : R
  y : R
  z : R
  w : R
deriving DecidableEq, Repr

namespace Float4

variable {R : Type}

/- The `float4` holding `p` in `(x, y)` and `q` in `(z, w)`. -/
def join
    (p q : Double2 R) :
    Float4 R :=
  ⟨p.x, p.y, q.x, q.y⟩

/- The first complex number of a `float4`. -/
def lo
    (a : Float4 R) :
    Double2 R :=
  ⟨a.x, a.y⟩

/- The second complex number of a `float4`. -/
def hi
    (a : Float4 R) :
    Double2 R :=
  ⟨a.z, a.w⟩

@[simp] theorem lo_join
    (p q : Double2 R) :
    (join p q).lo = p := rfl
@[simp] theorem hi_join
    (p q : Double2 R) :
    (join p q).hi = q := rfl
@[simp] theorem join_lo_hi
    (a : Float4 R) :
    join a.lo a.hi = a := rfl

end Float4

variable {R : Type} [LinearOrderedField R]

namespace Double2

instance : Zero (Double2 R) := ⟨⟨0, 0⟩⟩
instance : Add (Double2 R) := ⟨fun a b => ⟨a.x + b.x, a.y + b.y⟩⟩
instance : Neg (Double2 R) := ⟨fun a => ⟨-a.x, -a.y⟩⟩
instance : Sub (Double2 R) := ⟨fun a b => ⟨a.x - b.x, a.y - b.y⟩⟩
instance : SMul R (Double2 R) := ⟨fun r a => ⟨r * a.x, r * a.y⟩⟩

@[simp] theorem zero_x : (0 : Double2 R).x = 0 := rfl
@[simp] theorem zero_y : (0 : Double2 R).y = 0 := rfl
@[simp] theorem add_x
    (a b : Double2 R) :
    (a + b).x = a.x + b.x := rfl
@[simp] theorem add_y
    (a b : Double2 R) :
    (a + b).y = a.y + b.y := rfl
@[simp] theorem neg_x
    (a : Double2 R) :
    (-a).x = -a.x := rfl
@[simp] theorem neg_y
    (a : Double2 R) :
    (-a).y = -a.y := rfl
@[simp] theorem sub_x
    (a b : Double2 R) :
    (a - b).x = a.x - b.x := rfl
@[simp] theorem sub_y
    (a b : Double2 R) :
    (a - b).y = a.y - b.y := rfl
@[simp] theorem smul_x
    (r : R)
    (a : Double2 R) :
    (r • a).x = r * a.x := rfl
@[simp] theorem smul_y
    (r : R)
    (a : Double2 R) :
    (r • a).y = r * a.y := rfl

instance : AddCommMonoid (Double2 R) where
  add_assoc a b c := by ext <;> simp [add_assoc]
  zero_add a := by ext <;> simp
  add_zero a := by ext <;> simp
  add_comm a b := by ext <;> simp [add_comm]
  nsmul := nsmulRec

/- Sums are taken component by component. -/
theorem sum_mk
    {ι : Type}
    (s : Finset ι)
    (f g : ι → R) :
    ∑ i ∈ s, (⟨f i, g i⟩ : Double2 R) = ⟨∑ i ∈ s, f i, ∑ i ∈ s, g i⟩ := by
  induction s using Finset.cons_induction with
  | empty => rfl
  | cons i s hi ih => rw [Finset.sum_cons, ih]; ext <;> simp [Finset.sum_cons]

theorem sum_x
    {ι : Type}
    (s : Finset ι)
    (f : ι → Double2 R) :
    (∑ i ∈ s, f i).x = ∑ i ∈ s, (f i).x :=
  map_sum (AddMonoidHom.mk' Double2.x fun _ _ => rfl) f s

theorem sum_y
    {ι : Type}
    (s : Finset ι)
    (f : ι → Double2 R) :
    (∑ i ∈ s, f i).y = ∑ i ∈ s, (f i).y :=
  map_sum (AddMonoidHom.mk' Double2.y fun _ _ => rfl) f s

theorem list_sum_x
    (l : List (Double2 R)) :
    l.sum.x = (l.map Double2.x).sum :=
  map_list_sum (AddMonoidHom.mk' Double2.x fun _ _ => rfl) l

theorem list_sum_y
    (l : List (Double2 R)) :
    l.sum.y = (l.map Double2.y).sum :=
  map_list_sum (AddMonoidHom.mk' Double2.y fun _ _ => rfl) l

theorem list_sum_mk
    {α : Type}
    (l : List α)
    (f g : α → R) :
    (l.map fun a => (⟨f a, g a⟩ : Double2 R)).sum = ⟨(l.map f).sum, (l.map g).sum⟩ := by
  induction l with
  | nil => rfl
  | cons a l ih => rw [List.map_cons, List.sum_cons, ih]; ext <;> simp

end Double2

namespace Float4

instance : Zero (Float4 R) := ⟨⟨0, 0, 0, 0⟩⟩
instance : Add (Float4 R) :=
  ⟨fun a b => ⟨a.x + b.x, a.y + b.y, a.z + b.z, a.w + b.w⟩⟩
instance : Sub (Float4 R) :=
  ⟨fun a b => ⟨a.x - b.x, a.y - b.y, a.z - b.z, a.w - b.w⟩⟩
instance : SMul R (Float4 R) :=
  ⟨fun r a => ⟨r * a.x, r * a.y, r * a.z, r * a.w⟩⟩

theorem add_join
    (p q p' q' : Double2 R) :
    join p q + join p' q' = join (p + p') (q + q') := rfl

theorem sub_join
    (p q p' q' : Double2 R) :
    join p q - join p' q' = join (p - p') (q - q') := rfl

theorem smul_join
    (r : R)
    (p q : Double2 R) :
    r • join p q = join (r • p) (r • q) := rfl

theorem zero_eq_join : (0 : Float4 R) = join 0 0 := rfl

end Float4

namespace Double3

instance : Zero (Double3 R) := ⟨⟨0, 0, 0⟩⟩
instance : Add (Double3 R) := ⟨fun a b => ⟨a.x + b.x, a.y + b.y, a.z + b.z⟩⟩

@[simp] theorem zero_x : (0 : Double3 R).x = 0 := rfl
@[simp] theorem zero_y : (0 : Double3 R).y = 0 := rfl
@[simp] theorem zero_z : (0 : Double3 R).z = 0 := rfl
@[simp] theorem add_x
    (a b : Double3 R) :
    (a + b).x = a.x + b.x := rfl
@[simp] theorem add_y
    (a b : Double3 R) :
    (a + b).y = a.y + b.y := rfl
@[simp] theorem add_z
    (a b : Double3 R) :
    (a + b).z = a.z + b.z := rfl

instance : AddCommMonoid (Double3 R) where
  add_assoc a b c := by ext <;> simp [add_assoc]
  zero_add a := by ext <;> simp
  add_zero a := by ext <;> simp
  add_comm a b := by ext <;> simp [add_comm]
  nsmul := nsmulRec

/- Sums are taken component by component. -/
theorem sum_mk
    {ι : Type}
    (s : Finset ι)
    (f g h : ι → R) :
    ∑ i ∈ s, (⟨f i, g i, h i⟩ : Double3 R) = ⟨∑ i ∈ s, f i, ∑ i ∈ s, g i, ∑ i ∈ s, h i⟩ := by
  induction s using Finset.cons_induction with
  | empty => rfl
  | cons i s hi ih => rw [Finset.sum_cons, ih]; ext <;> simp [Finset.sum_cons]

theorem list_sum_mk
    {α : Type}
    (l : List α)
    (f g h : α → R) :
    (l.map fun a => (⟨f a, g a, h a⟩ : Double3 R)).sum = ⟨(l.map f).sum, (l.map g).sum, (l.map h).sum⟩ := by
  induction l with
  | nil => rfl
  | cons a l ih => rw [List.map_cons, List.sum_cons, ih]; ext <;> simp

end Double3

namespace Double4

instance : Zero (Double4 R) := ⟨⟨0, 0, 0, 0⟩⟩
instance : Add (Double4 R) :=
  ⟨fun a b => ⟨a.x + b.x, a.y + b.y, a.z + b.z, a.w + b.w⟩⟩

@[simp] theorem zero_x : (0 : Double4 R).x = 0 := rfl
@[simp] theorem zero_y : (0 : Double4 R).y = 0 := rfl
@[simp] theorem zero_z : (0 : Double4 R).z = 0 := rfl
@[simp] theorem zero_w : (0 : Double4 R).w = 0 := rfl
@[simp] theorem add_x
    (a b : Double4 R) :
    (a + b).x = a.x + b.x := rfl
@[simp] theorem add_y
    (a b : Double4 R) :
    (a + b).y = a.y + b.y := rfl
@[simp] theorem add_z
    (a b : Double4 R) :
    (a + b).z = a.z + b.z := rfl
@[simp] theorem add_w
    (a b : Double4 R) :
    (a + b).w = a.w + b.w := rfl

instance : AddCommMonoid (Double4 R) where
  add_assoc a b c := by ext <;> simp [add_assoc]
  zero_add a := by ext <;> simp
  add_zero a := by ext <;> simp
  add_comm a b := by ext <;> simp [add_comm]
  nsmul := nsmulRec

/- Sums are taken component by component. -/
theorem sum_mk
    {ι : Type}
    (s : Finset ι)
    (f g h k : ι → R) :
    ∑ i ∈ s, (⟨f i, g i, h i, k i⟩ : Double4 R) = ⟨∑ i ∈ s, f i, ∑ i ∈ s, g i, ∑ i ∈ s, h i, ∑ i ∈ s, k i⟩ := by
  induction s using Finset.cons_induction with
  | empty => rfl
  | cons i s hi ih => rw [Finset.sum_cons, ih]; ext <;> simp [Finset.sum_cons]

theorem list_sum_mk
    {α : Type}
    (l : List α)
    (f g h k : α → R) :
    (l.map fun a => (⟨f a, g a, h a, k a⟩ : Double4 R)).sum = ⟨(l.map f).sum, (l.map g).sum, (l.map h).sum, (l.map k).sum⟩ := by
  induction l with
  | nil => rfl
  | cons a l ih => rw [List.map_cons, List.sum_cons, ih]; ext <;> simp

end Double4

------------------------------------------------------------
-- Operand Slots
------------------------------------------------------------

/-
  The five operands `x, y, z, w, v` a functor's `operator()`
  receives for one element.
-/
@[ext]
structure Slots (V : Type) where
  x : V
  y : V
  z : V
  w : V
  v : V
deriving DecidableEq, Repr

namespace Slots

/- Apply `f` to every slot. -/
def map
    {α β : Type}
    (f : α → β)
    (s : Slots α) :
    Slots β :=
  ⟨f s.x, f s.y, f s.z, f s.w, f s.v⟩

/- Combine two slot tuples slot by slot. -/
def zipWith
    {α β γ : Type}
    (f : α → β → γ)
    (s : Slots α)
    (t : Slots β) :
    Slots γ :=
  ⟨f s.x t.x, f s.y t.y, f s.z t.z, f s.w t.w, f s.v t.v⟩

/- Split a list of slot tuples into one list per slot. -/
def unzip
    {α : Type}
    (l : List (Slots α)) :
    Slots (List α) :=
  ⟨l.map (·.x), l.map (·.y), l.map (·.z), l.map (·.w), l.map (·.v)⟩

@[simp] theorem unzip_x
    {α : Type}
    (l : List (Slots α)) :
    (unzip l).x = l.map (·.x) := rfl
@[simp] theorem unzip_y
    {α : Type}
    (l : List (Slots α)) :
    (unzip l).y = l.map (·.y) := rfl
@[simp] theorem unzip_z
    {α : Type}
    (l : List (Slots α)) :
    (unzip l).z = l.map (·.z) := rfl
@[simp] theorem unzip_w
    {α : Type}
    (l : List (Slots α)) :
    (unzip l).w = l.map (·.w) := rfl
@[simp] theorem unzip_v
    {α : Type}
    (l : List (Slots α)) :
    (unzip l).v = l.map (·.v) := rfl

end Slots

/- The element-wise tuples of five operand lists. -/
def zip5
    {α : Type} :
    List α → List α → List α → List α → List α →
      List (Slots α)
  | a :: as, b :: bs, c :: cs, d :: ds, e :: es =>
      ⟨a, b, c, d, e⟩ :: zip5 as bs cs ds es
  | _, _, _, _, _ => []

/- Unzipping the tuples of five equally long lists gives them back. -/
theorem unzip_zip5
    {α : Type} :
    ∀ (as bs cs ds es : List α),
      bs.length = as.length → cs.length = as.length →
      ds.length = as.length → es.length = as.length →
      Slots.unzip (zip5 as bs cs ds es) = ⟨as, bs, cs, ds, es⟩
  | [], [], [], [], [], _, _, _, _ => rfl
  | a :: as, b :: bs, c :: cs, d :: ds, e :: es, hb, hc, hd, he => by
      have hTail := unzip_zip5 as bs cs ds es
        (by simpa using hb) (by simpa using hc)
        (by simpa using hd) (by simpa using he)
      simp only [Slots.unzip, zip5, List.map_cons] at hTail ⊢
      simp only [Slots.mk.injEq] at hTail
      simp [hTail]
  | [], _ :: _, _, _, _, hb, _, _, _ => by simp at hb
  | [], [], _ :: _, _, _, _, hc, _, _ => by simp at hc
  | [], [], [], _ :: _, _, _, _, hd, _ => by simp at hd
  | [], [], [], [], _ :: _, _, _, _, he => by simp at he
  | _ :: _, [], _, _, _, hb, _, _, _ => by simp at hb
  | _ :: _, _ :: _, [], _, _, _, hc, _, _ => by simp at hc
  | _ :: _, _ :: _, _ :: _, [], _, _, _, hd, _ => by simp at hd
  | _ :: _, _ :: _, _ :: _, _ :: _, [], _, _, _, he => by simp at he

theorem length_zip5
    {α : Type}
    (as bs cs ds es : List α)
    (hb : bs.length = as.length)
    (hc : cs.length = as.length)
    (hd : ds.length = as.length)
    (he : es.length = as.length) :
    (zip5 as bs cs ds es).length = as.length := by
  simpa [Slots.unzip] using
    congrArg (fun s => s.x.length) (unzip_zip5 as bs cs ds es hb hc hd he)

@[simp] theorem length_zip5_eq_min
    {α : Type} :
    ∀ (as bs cs ds es : List α), (zip5 as bs cs ds es).length =
      min as.length (min bs.length (min cs.length (min ds.length es.length)))
  | [], _, _, _, _ => (Nat.zero_min _).symm
  | _ :: _, [], _, _, _ | _ :: _, _ :: _, [], _, _ | _ :: _, _ :: _, _ :: _, [], _
  | _ :: _, _ :: _, _ :: _, _ :: _, [] => by
      simp only [zip5, List.length_nil, List.length_cons, Nat.zero_min, Nat.min_zero]
  | _ :: as, _ :: bs, _ :: cs, _ :: ds, _ :: es => by
      simp only [zip5, List.length_cons, length_zip5_eq_min as bs cs ds es, Nat.succ_min_succ]

theorem lt_length_of_zip5
    {α : Type}
    {as bs cs ds es : List α}
    {k : Nat}
    (h : k < (zip5 as bs cs ds es).length) :
    k < as.length ∧ k < bs.length ∧ k < cs.length ∧ k < ds.length ∧ k < es.length := by
  simp only [length_zip5_eq_min, Nat.lt_min] at h
  omega

/- The `k`-th tuple holds the `k`-th element of every list. -/
@[simp] theorem getElem_zip5
    {α : Type} :
    ∀ {as bs cs ds es : List α} {k : Nat} {h : k < (zip5 as bs cs ds es).length},
      (zip5 as bs cs ds es)[k] =
        ⟨as.get ⟨k, (lt_length_of_zip5 h).1⟩, bs.get ⟨k, (lt_length_of_zip5 h).2.1⟩,
          cs.get ⟨k, (lt_length_of_zip5 h).2.2.1⟩,
          ds.get ⟨k, (lt_length_of_zip5 h).2.2.2.1⟩,
          es.get ⟨k, (lt_length_of_zip5 h).2.2.2.2⟩⟩
  | _ :: _, _ :: _, _ :: _, _ :: _, _ :: _, 0, _ => rfl
  | _ :: as, _ :: bs, _ :: cs, _ :: ds, _ :: es, k + 1, h =>
      @getElem_zip5 α as bs cs ds es k (Nat.lt_of_succ_lt_succ h)
  | [], _, _, _, _, _, h | _ :: _, [], _, _, _, _, h | _ :: _, _ :: _, [], _, _, _, h
  | _ :: _, _ :: _, _ :: _, [], _, _, h | _ :: _, _ :: _, _ :: _, _ :: _, [], _, h =>
      absurd h (Nat.not_lt_zero _)

------------------------------------------------------------
-- Overloads
------------------------------------------------------------

/-
  The overloads a functor body uses on its vector type `FloatN`,
  as `reduce_quda.cu` writes them for `double2`, `float2` and
  `float4`, with the field accessor that loads the complex
  numbers of one array index as `FloatN` values and stores them
  back.
-/
class FloatN (V : Type) (R : outParam Type) extends
    Zero V, Add V, Sub V, SMul R V where
  /- Complex numbers held by one vector. -/
  width : Nat
  /- `norm1_(a)`: the L1 norm of `a`. -/
  norm1_ : V → R
  /- `norm2_(sum, a)`: add the squares of the entries of `a`. -/
  norm2_ : R → V → R
  /- `dot_(sum, a, b)`: add the real dot product of `a` and `b`. -/
  dot_ : R → V → V → R
  /- `cdot_(sum, a, b)`: add the complex dot product of `a` and `b`. -/
  cdot_ : Double2 R → V → V → Double2 R
  /- `Caxpy_(a, x, y)`: `y + a x` for a complex `a`. -/
  caxpy_ : Double2 R → V → V → V
  /- Load the operand tuples of one index. -/
  load : List (Slots (Double2 R)) → List (Slots V)
  /- Store the operand tuples of one index. -/
  save : List (Slots V) → List (Slots (Double2 R))

export FloatN (norm1_ norm2_ dot_ cdot_ caxpy_)

/-
  Pair consecutive complex numbers of every slot into `float4`s.
  An odd last one is padded with zero; a `float4` field never
  has one.
-/
def pairSlots : List (Slots (Double2 R)) → List (Slots (Float4 R))
  | p :: q :: rest => Slots.zipWith Float4.join p q :: pairSlots rest
  | [p] => [Slots.zipWith Float4.join p ⟨0, 0, 0, 0, 0⟩]
  | [] => []

/- Split every `float4` slot back into its two complex numbers. -/
def unpairSlots
    (l : List (Slots (Float4 R))) :
    List (Slots (Double2 R)) :=
  l.flatMap fun f => [f.map Float4.lo, f.map Float4.hi]

instance : FloatN (Double2 R) R where
  width := 1
  norm1_ a := |a.x| + |a.y|
  norm2_ sum a :=
    let sum := sum + a.x * a.x
    sum + a.y * a.y
  dot_ sum a b :=
    let sum := sum + a.x * b.x
    sum + a.y * b.y
  cdot_ sum a b :=
    let sx := sum.x + a.x * b.x
    let sx := sx + a.y * b.y
    let sy := sum.y + a.x * b.y
    let sy := sy - a.y * b.x
    ⟨sx, sy⟩
  caxpy_ a x y :=
    let yx := y.x + a.x * x.x
    let yx := yx - a.y * x.y
    let yy := y.y + a.y * x.x
    let yy := yy + a.x * x.y
    ⟨yx, yy⟩
  load := id
  save := id

instance : FloatN (Float4 R) R where
  width := 2
  norm1_ a := |a.x| + |a.y| + |a.z| + |a.w|
  norm2_ sum a :=
    let sum := sum + a.x * a.x
    let sum := sum + a.y * a.y
    let sum := sum + a.z * a.z
    sum + a.w * a.w
  dot_ sum a b :=
    let sum := sum + a.x * b.x
    let sum := sum + a.y * b.y
    let sum := sum + a.z * b.z
    sum + a.w * b.w
  cdot_ sum a b :=
    let sx := sum.x + a.x * b.x
    let sx := sx + a.y * b.y
    let sx := sx + a.z * b.z
    let sx := sx + a.w * b.w
    let sy := sum.y + a.x * b.y
    let sy := sy - a.y * b.x
    let sy := sy + a.z * b.w
    let sy := sy - a.w * b.z
    ⟨sx, sy⟩
  caxpy_ a x y :=
    let yx := y.x + a.x * x.x
    let yx := yx - a.y * x.y
    let yy := y.y + a.y * x.x
    let yy := yy + a.x * x.y
    let yz := y.z + a.x * x.z
    let yz := yz - a.y * x.w
    let yw := y.w + a.y * x.z
    let yw := yw + a.x * x.w
    ⟨yx, yy, yz, yw⟩
  load := pairSlots
  save := unpairSlots

@[simp] theorem FloatN.width_double2 : FloatN.width (Double2 R) = 1 := rfl
@[simp] theorem FloatN.width_float4 : FloatN.width (Float4 R) = 2 := rfl
@[simp] theorem FloatN.load_double2 :
    (FloatN.load : _ → List (Slots (Double2 R))) = id := rfl
@[simp] theorem FloatN.save_double2 :
    (FloatN.save : List (Slots (Double2 R)) → _) = id := rfl
@[simp] theorem FloatN.load_float4 :
    (FloatN.load : _ → List (Slots (Float4 R))) = pairSlots := rfl
@[simp] theorem FloatN.save_float4 :
    (FloatN.save : List (Slots (Float4 R)) → _) = unpairSlots := rfl

/-
  The accumulating overloads add to the running sum a value that
  does not depend on it.
-/
class FloatN.Additive (V : Type) (R : Type) [LinearOrderedField R]
    [FloatN V R] : Prop where
  norm2_add (sum : R) (a : V) : norm2_ sum a = sum + norm2_ 0 a
  dot_add (sum : R) (a b : V) : dot_ sum a b = sum + dot_ 0 a b
  cdot_add (sum : Double2 R) (a b : V) : cdot_ sum a b = sum + cdot_ 0 a b

instance : FloatN.Additive (Double2 R) R where
  norm2_add sum a := by
    show sum + _ + _ = sum + (0 + _ + _)
    ring
  dot_add sum a b := by
    show sum + _ + _ = sum + (0 + _ + _)
    ring
  cdot_add sum a b := by
    ext
    · show sum.x + _ + _ = sum.x + (0 + _ + _)
      ring
    · show sum.y + _ - _ = sum.y + (0 + _ - _)
      ring

instance : FloatN.Additive (Float4 R) R where
  norm2_add sum a := by
    show sum + _ + _ + _ + _ = sum + (0 + _ + _ + _ + _)
    ring
  dot_add sum a b := by
    show sum + _ + _ + _ + _ = sum + (0 + _ + _ + _ + _)
    ring
  cdot_add sum a b := by
    ext
    · show sum.x + _ + _ + _ + _ = sum.x + (0 + _ + _ + _ + _)
      ring
    · show sum.y + _ - _ + _ - _ = sum.y + (0 + _ - _ + _ - _)
      ring

end Quda
