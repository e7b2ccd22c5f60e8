import Quda.Blas.FloatVector

/-
  The part of `ColorSpinorField` the reductions consume, and the
  operand checks `checkSpinor` and `checkLength` of
  `reduce_quda.cu`.

  A field lives on the `P` ranks of the communicator: every rank
  holds `volume` sites of `nSpin * nColor` complex numbers, stored
  here as one list per rank in site order.  Precision, stride,
  colours and spins are the same on every rank.

  Main declarations:
    * `QudaPrecision`, `intMul`, `ColorSpinorField`
    * `ColorSpinorField.length`, `ColorSpinorField.store`
    * `checkSpinor`, `checkLength`
-/

------------------------------------------------------------
-- Fields
------------------------------------------------------------

namespace Quda

/- Numeric precision of a field. -/
inductive QudaPrecision
  | half
  | single
  | double
deriving DecidableEq, Repr

/- The value `%d` prints for a precision: its size in bytes. -/
def QudaPrecision.toNat : QudaPrecision → Nat
  | .half => 2
  | .single => 4
  | .double => 8

/-
  A product of two C `int`s, such as `x.Volume()*comm_size()`: it
  wraps modulo `2^32` into `[-2^31, 2^31)`.
-/
def intMul
    (a b : Int) :
    Int :=
  Int.bmod (a * b) (2 ^ 32)

/- A product in `[0, 2^31)` does not wrap. -/
theorem intMul_of_lt
    {a b : Int}
    (h0 : 0 ≤ a * b)
    (h : a * b < 2 ^ 31) :
    intMul a b = a * b := by
  unfold intMul Int.bmod
  rw [Int.emod_eq_of_lt h0 (by omega)]
  exact if_pos (by omega)

/- A spinor field distributed over `P` ranks. -/
structure ColorSpinorField (R : Type) (P : Nat) where
  precision : QudaPrecision
  nColor : Nat
  nSpin : Nat
  /- `Volume()`: sites held by each rank. -/
  volume : Nat
  stride : Nat
  /- The complex numbers each rank holds, site after site. -/
  data : Fin P → List (Double2 R)
  nSpin_valid : nSpin = 1 ∨ nSpin = 2 ∨ nSpin = 4
  length_data : ∀ p, (data p).length = volume * (nSpin * nColor)

namespace ColorSpinorField

variable {R : Type} {P : Nat}

/- `Length()`: real numbers held by each rank. -/
def length
    (f : ColorSpinorField R P) :
    Nat :=
  f.volume * (f.nSpin * f.nColor) * 2

/- Complex numbers in one site. -/
def siteSize
    (f : ColorSpinorField R P) :
    Nat :=
  f.nSpin * f.nColor

/-
  A double precision single-spin field on one rank holding `data`,
  `nColor` complex numbers a site.
-/
def onOneRank
    (nColor volume : Nat)
    (data : List (Double2 R))
    (h : data.length = volume * nColor) :
    ColorSpinorField R 1 where
  precision := .double
  nColor := nColor
  nSpin := 1
  volume := volume
  stride := volume
  data := fun _ => data
  nSpin_valid := .inl rfl
  length_data := fun _ => by rw [h, Nat.one_mul]

end ColorSpinorField

/-
  Overwrite the head of `old` with `new`, keeping the length of
  `old`: a kernel's stores into a field of fixed size.
-/
def overwrite
    {α : Type} :
    List α → List α → List α
  | [], _ => []
  | o :: os, [] => o :: os
  | _ :: os, n :: ns => n :: overwrite os ns

@[simp] theorem length_overwrite
    {α : Type} :
    ∀ (old new : List α), (overwrite old new).length = old.length
  | [], _ => rfl
  | _ :: _, [] => rfl
  | _ :: os, _ :: ns => by simp [overwrite, length_overwrite os ns]

theorem overwrite_of_length
    {α : Type} :
    ∀ (old new : List α), new.length = old.length → overwrite old new = new
  | [], [], _ => rfl
  | _ :: os, n :: ns, h => by
      simp [overwrite, overwrite_of_length os ns (by simpa using h)]
  | [], _ :: _, h => by simp at h
  | _ :: _, [], h => by simp at h

namespace ColorSpinorField

variable {R : Type} {P : Nat}

/- The field after a kernel stored `new` on every rank. -/
def store
    (f : ColorSpinorField R P)
    (new : Fin P → List (Double2 R)) :
    ColorSpinorField R P :=
  { f with
    data := fun p => overwrite (f.data p) (new p)
    length_data := fun p => by simp [f.length_data p] }

@[simp] theorem store_precision
    (f : ColorSpinorField R P)
    (new : Fin P → List (Double2 R)) :
    (f.store new).precision = f.precision := rfl
@[simp] theorem store_volume
    (f : ColorSpinorField R P)
    (new : Fin P → List (Double2 R)) :
    (f.store new).volume = f.volume := rfl
@[simp] theorem store_nColor
    (f : ColorSpinorField R P)
    (new : Fin P → List (Double2 R)) :
    (f.store new).nColor = f.nColor := rfl
@[simp] theorem store_nSpin
    (f : ColorSpinorField R P)
    (new : Fin P → List (Double2 R)) :
    (f.store new).nSpin = f.nSpin := rfl
@[simp] theorem store_stride
    (f : ColorSpinorField R P)
    (new : Fin P → List (Double2 R)) :
    (f.store new).stride = f.stride := rfl

theorem store_data
    (f : ColorSpinorField R P)
    (new : Fin P → List (Double2 R))
    (p : Fin P) :
    (f.store new).data p = overwrite (f.data p) (new p) := rfl

end ColorSpinorField

------------------------------------------------------------
-- Operand Checks
------------------------------------------------------------

variable {R : Type} {P : Nat}

/-
  The text `errorQuda` prints when attribute `what` of two fields
  differs: `"<what> do not match: %d %d"`.
-/
def mismatch
    (what : String)
    (u v : Nat) :
    String :=
  s!"{what} do not match: {u} {v}"

/- `checkSpinor`: precisions, lengths and strides must match. -/
def checkSpinor
    (a b : ColorSpinorField R P) :
    Except String Unit :=
  if a.precision ≠ b.precision then
    .error (mismatch "precisions" a.precision.toNat b.precision.toNat)
  else if a.length ≠ b.length then
    .error (mismatch "lengths" a.length b.length)
  else if a.stride ≠ b.stride then
    .error (mismatch "strides" a.stride b.stride)
  else .ok ()

/- `checkLength`: lengths and strides must match. -/
def checkLength
    (a b : ColorSpinorField R P) :
    Except String Unit :=
  if a.length ≠ b.length then
    .error (mismatch "lengths" a.length b.length)
  else if a.stride ≠ b.stride then
    .error (mismatch "strides" a.stride b.stride)
  else .ok ()

/- Fields `checkSpinor` accepts. -/
def Compatible
    (a b : ColorSpinorField R P) :
    Prop :=
  a.precision = b.precision ∧ a.length = b.length ∧ a.stride = b.stride

instance (a b : ColorSpinorField R P) : Decidable (Compatible a b) :=
  inferInstanceAs (Decidable (_ ∧ _ ∧ _))

theorem Compatible.refl
    (a : ColorSpinorField R P) :
    Compatible a a :=
  ⟨rfl, rfl, rfl⟩

theorem Compatible.symm
    {a b : ColorSpinorField R P}
    (h : Compatible a b) :
    Compatible b a :=
  ⟨h.1.symm, h.2.1.symm, h.2.2.symm⟩

theorem Compatible.trans
    {a b c : ColorSpinorField R P}
    (hab : Compatible a b)
    (hbc : Compatible b c) :
    Compatible a c :=
  ⟨hab.1.trans hbc.1, hab.2.1.trans hbc.2.1, hab.2.2.trans hbc.2.2⟩

/- `checkSpinor` passes exactly on compatible fields. -/
theorem checkSpinor_eq_ok_iff
    (a b : ColorSpinorField R P) :
    checkSpinor a b = .ok () ↔ Compatible a b := by
  unfold checkSpinor Compatible
  split_ifs <;> simp_all

/- A failed `checkSpinor` names the first mismatching attribute. -/
theorem checkSpinor_error
    (a b : ColorSpinorField R P)
    (msg : String)
    (h : checkSpinor a b = .error msg) :
    (a.precision ≠ b.precision ∧
        msg = mismatch "precisions" a.precision.toNat b.precision.toNat) ∨
      (a.precision = b.precision ∧ a.length ≠ b.length ∧
        msg = mismatch "lengths" a.length b.length) ∨
      (a.precision = b.precision ∧ a.length = b.length ∧
        a.stride ≠ b.stride ∧ msg = mismatch "strides" a.stride b.stride) := by
  unfold checkSpinor at h
  split_ifs at h <;> simp_all

/- Fields of equal `Length()` hold equally many complex numbers on every rank. -/
theorem ColorSpinorField.length_data_eq
    {a b : ColorSpinorField R P}
    (h : a.length = b.length)
    (p : Fin P) :
    (b.data p).length = (a.data p).length := by
  rw [a.length_data, b.length_data]
  unfold ColorSpinorField.length at h
  omega

theorem Compatible.length_data
    {a b : ColorSpinorField R P}
    (h : Compatible a b)
    (p : Fin P) :
    (b.data p).length = (a.data p).length :=
  ColorSpinorField.length_data_eq h.2.1 p

end Quda
