import Mathlib

/-
  The matrix A that the tensor-core kernel
  `dw_dslash5inv_dagger_core_sm_tc.h` builds in shared memory, and
  the fifth-dimension operator it inverts.

  Thread `(threadIdx.x, threadIdx.y)` of the block takes the row
  block `xxx` and the column block `threadIdx.y` of A and stores
  eight of its sixteen entries into the column-major `sm_a`, with
  leading dimension `M_sm`; `one_or_zero` picks the upper or the
  lower two rows.  Arithmetic is exact here: `half` is a field of
  characteristic zero.

  The block of A at `(s, t)` is `2 R P_+ + 2 L P_-`, where `R` and `L`
  are the closed forms of `factorR` and `factorL`, and `2 R` is the
  inverse of `1 - kappa S` for the twisted shift `S` of the fifth
  dimension: a geometric series `sum_n kappa^n S^n` with `S^Ls =
  -m_f`.  `L` is the transpose of `R`, and the backward shift the
  transpose of `S`, so one inverse gives both halves.

  Main declarations:
    * `DslashParam`, `constructA`, `storeA`, `matrixA`
    * `Spec.m5Dagger`
    * `matrixA_eq`, `geomR_inverse`
-/

open scoped Kronecker Matrix

namespace Quda

namespace M5InvDagger

variable {K : Type*} [Field K]

------------------------------------------------------------
-- The Block's Parameters
------------------------------------------------------------

/- What the block reads of `param`, and the `MDWF_mode` build option. -/
structure DslashParam (K : Type*) where
  /- `param.dc.Ls` -/
  Ls : Nat
  /- `param.a` -/
  a : K
  /- `param.m5_f` -/
  m5 : K
  /- `param.mdwf_b5_f`, `param.mdwf_c5_f`: one value for each `s` -/
  mdwfB5 : Nat → K
  mdwfC5 : Nat → K
  /- `param.mferm_f` -/
  mferm : K
  /- `MDWF_mode` -/
  mdwfMode : Bool

/- `M_sm = M + sm_m_pad_size`, with the fixed `M = 12*4`: the leading dimension of `sm_a`. -/
def mSm : Nat := 12 * 4 + 0

/- `kappa` of row block `xxx`: from `b5`, `c5` and `m5` under `MDWF_mode`, `2a` otherwise. -/
def kappaAt
    (p : DslashParam K)
    (xxx : Nat) :
    K :=
  if p.mdwfMode then
    -(p.mdwfC5 xxx * (4 + p.m5) - 1) / (p.mdwfB5 xxx * (4 + p.m5) + 1)
  else 2 * p.a

/- `inv_d_n = 0.5 / (1 + kappa^Ls mferm)` -/
def invDN
    (p : DslashParam K)
    (kappa : K) :
    K :=
  1 / 2 / (1 + kappa ^ p.Ls * p.mferm)

/- `factorR` of row block `xxx` and column block `y`. -/
def factorR
    (p : DslashParam K)
    (kappa : K)
    (xxx y : Nat) :
    K :=
  let exponent := if xxx > y then p.Ls - xxx + y else y - xxx
  invDN p kappa * kappa ^ exponent * (if xxx > y then -p.mferm else 1)

/- `factorL` of row block `xxx` and column block `y`. -/
def factorL
    (p : DslashParam K)
    (kappa : K)
    (xxx y : Nat) :
    K :=
  let exponent2 := if xxx < y then p.Ls - y + xxx else xxx - y
  invDN p kappa * kappa ^ exponent2 * (if xxx < y then -p.mferm else 1)

------------------------------------------------------------
-- The Stores into `sm_a`
------------------------------------------------------------

/-
  The eight stores of one thread, each at column `offset_k + c` and
  row `offset_m + r` of `sm_a`, given as `((c, r), value)`.
-/
def blockStores
    (oneOrZero : Nat)
    (factorR factorL : K) :
    List ((Nat × Nat) × K) :=
  [((0, 0 + oneOrZero * 2), factorR + ((-2 * oneOrZero + 1 : Int) : K) * factorL),
   ((1, 1 + oneOrZero * 2), factorR + ((-2 * oneOrZero + 1 : Int) : K) * factorL),
   ((2, 0 + oneOrZero * 2), factorR + ((2 * oneOrZero - 1 : Int) : K) * factorL),
   ((3, 1 + oneOrZero * 2), factorR + ((2 * oneOrZero - 1 : Int) : K) * factorL),
   ((0, 1 + oneOrZero * 2), 0),
   ((1, 0 + oneOrZero * 2), 0),
   ((2, 1 + oneOrZero * 2), 0),
   ((3, 0 + oneOrZero * 2), 0)]

/- The index into `sm_a` of a store: `(offset_k + c) * M_sm + (offset_m + r)`. -/
def storeIndex
    (xxx y : Nat)
    (store : (Nat × Nat) × K) :
    Nat × K :=
  ((y * 4 + store.1.1) * mSm + (xxx * 4 + store.1.2), store.2)

/- The body of the block for row block `xxx` and column block `threadIdx.y = y`. -/
def storeA
    (p : DslashParam K)
    (oneOrZero xxx y : Nat) :
    List (Nat × K) :=
  let kappa := kappaAt p xxx
  (blockStores oneOrZero (factorR p kappa xxx y) (factorL p kappa xxx y)).map (storeIndex xxx y)

/-
  The stores of thread `(threadIdx.x, threadIdx.y)`: the body, for the
  threads whose `xxx` is a row block.
-/
def constructA
    (p : DslashParam K)
    (threadIdxX threadIdxY : Nat) :
    List (Nat × K) :=
  let oneOrZero := threadIdxX >>> 4
  let xxx := threadIdxX - oneOrZero * 16
  if xxx < p.Ls ∧ threadIdxX < 32 then storeA p oneOrZero xxx threadIdxY else []

/- Thread `s + 16 h` runs the body for row block `s`: the rows `2h` and `2h + 1`. -/
theorem constructA_eq_storeA
    (p : DslashParam K)
    {s h : Nat}
    (hs : s < p.Ls)
    (hs16 : s < 16)
    (h2 : h < 2)
    (y : Nat) :
    constructA p (s + 16 * h) y = storeA p h s y := by
  have hShift : (s + 16 * h) >>> 4 = h := by
    rw [Nat.shiftRight_eq_div_pow]
    omega
  simp only [constructA, hShift, show s + 16 * h - h * 16 = s by omega]
  exact if_pos ⟨hs, by omega⟩

/-
  The matrix A: its entry at row `4s + i` and column `4t + j` is what
  the body for `xxx = s` and `threadIdx.y = t` stores at
  `sm_a[(4t + j) * M_sm + 4s + i]`.
-/
def matrixA
    (p : DslashParam K) :
    Matrix (Fin p.Ls × Fin 4) (Fin p.Ls × Fin 4) K :=
  Matrix.of fun si tj =>
    ((storeA p 0 si.1 tj.1 ++ storeA p 1 si.1 tj.1).lookup
      ((4 * tj.1.val + tj.2.val) * mSm + (4 * si.1.val + si.2.val))).getD 0

------------------------------------------------------------
-- The Operator A Inverts
------------------------------------------------------------

namespace Spec

/- `gamma5`, exchanging spin components (0, 1) with (2, 3): the permutation `i ↦ i + 2`. -/
def gamma5 : Matrix (Fin 4) (Fin 4) K :=
  (Equiv.addRight (2 : Fin 4)).toPEquiv.toMatrix

/- `P_+ = (1 + gamma5) / 2` -/
def projPlus : Matrix (Fin 4) (Fin 4) K :=
  (1 / 2 : K) • (1 + gamma5)

/- `P_- = (1 - gamma5) / 2` -/
def projMinus : Matrix (Fin 4) (Fin 4) K :=
  (1 / 2 : K) • (1 - gamma5)

/- `psi_{s+1}`, with `psi_Ls = -m_f psi_0`. -/
def shiftPlus
    (Ls : Nat)
    (mf : K) :
    Matrix (Fin Ls) (Fin Ls) K :=
  Matrix.of fun s t =>
    if s.val + 1 = Ls then (if t.val = 0 then -mf else 0) else (if t.val = s.val + 1 then 1 else 0)

/- `psi_{s-1}`, with `psi_{-1} = -m_f psi_{Ls-1}`. -/
def shiftMinus
    (Ls : Nat)
    (mf : K) :
    Matrix (Fin Ls) (Fin Ls) K :=
  Matrix.of fun s t =>
    if s.val = 0 then (if t.val + 1 = Ls then -mf else 0) else (if t.val + 1 = s.val then 1 else 0)

/-
  The dagger of the domain-wall fifth-dimension operator:
  `(D psi)_s = psi_s - kappa (P_+ psi_{s+1} + P_- psi_{s-1})`.
-/
def m5Dagger
    (Ls : Nat)
    (kappa mf : K) :
    Matrix (Fin Ls × Fin 4) (Fin Ls × Fin 4) K :=
  1 - kappa • (shiftPlus Ls mf ⊗ₖ projPlus + shiftMinus Ls mf ⊗ₖ projMinus)

/-
  Modelled from the spec: `kappa` is `2a`, or under `MDWF_mode` the
  value `(1 - c5 (4 + m5)) / (b5 (4 + m5) + 1)` of the `b5` and `c5`
  that every slice shares.
-/
def kappa
    (p : DslashParam K) :
    K :=
  if p.mdwfMode then (1 - p.mdwfC5 0 * (4 + p.m5)) / (p.mdwfB5 0 * (4 + p.m5) + 1)
  else 2 * p.a

end Spec

------------------------------------------------------------
-- A Is the Inverse
------------------------------------------------------------

omit [Field K] in
/- Inside a block, the index of a store determines its column and row. -/
theorem lookup_map_storeIndex
    (s t : Nat) :
    ∀ {l : List ((Nat × Nat) × K)}, (∀ q ∈ l, q.1.1 < 4 ∧ q.1.2 < 4) →
      ∀ {c r : Nat}, c < 4 → r < 4 →
        (l.map (storeIndex s t)).lookup ((4 * t + c) * mSm + (4 * s + r)) = l.lookup (c, r)
  | [], _, _, _, _, _ => rfl
  | ⟨⟨c', r'⟩, v⟩ :: l, hl, c, r, hc, hr => by
      obtain ⟨hc', hr'⟩ : c' < 4 ∧ r' < 4 := hl _ (List.mem_cons_self _ _)
      have hKey : ((4 * t + c) * mSm + (4 * s + r) == (t * 4 + c') * mSm + (s * 4 + r')) =
          ((c, r) == (c', r')) := by
        rw [Bool.eq_iff_iff, beq_iff_eq, beq_iff_eq, Prod.mk.injEq, mSm]
        omega
      rw [List.map_cons, storeIndex, List.lookup_cons, List.lookup_cons, hKey]
      cases (c, r) == (c', r')
      · exact lookup_map_storeIndex s t (fun q hq => hl q (List.mem_cons_of_mem _ hq)) hc hr
      · rfl

/- `==` on pairs compares the components. -/
theorem beq_pair
    (a b c d : Nat) :
    ((a, b) == (c, d)) = (a == c && b == d) := rfl

/- The value the two threads of a block store at column `c` and row `r`. -/
theorem lookup_blockStores
    (R L : K)
    (c r : Nat)
    (hc : c < 4)
    (hr : r < 4) :
    ((blockStores 0 R L ++ blockStores 1 R L).lookup (c, r)).getD 0 =
      if c % 2 = r % 2 then R + (if c = r then 1 else -1) * L else 0 := by
  simp only [blockStores, List.cons_append, List.nil_append, Nat.zero_mul, Nat.add_zero,
    Nat.one_mul, Nat.zero_add, Nat.reduceAdd, Nat.reduceMul, Nat.cast_zero, Nat.cast_one, mul_zero,
    mul_one, zero_add, Int.reduceNeg, Int.reduceMul, Int.reduceAdd, Int.reduceSub, Int.cast_one,
    Int.cast_neg, one_mul, neg_mul]
  interval_cases c <;> interval_cases r <;>
    simp only [List.lookup_cons, beq_pair, Nat.reduceBEq, Bool.and_false, Bool.false_and,
      Bool.and_self, Option.getD_some, Nat.reduceMod, Nat.reduceEqDiff, if_true, if_false, one_mul,
      neg_mul, ← sub_eq_add_neg]

theorem gamma5_apply
    (i j : Fin 4) :
    (Spec.gamma5 : Matrix (Fin 4) (Fin 4) K) i j = if j.val = (i.val + 2) % 4 then 1 else 0 := by
  simp [Spec.gamma5, Equiv.toPEquiv_apply, Fin.ext_iff, Fin.val_add, eq_comm]

theorem gamma5_mul_self : Spec.gamma5 * Spec.gamma5 = (1 : Matrix (Fin 4) (Fin 4) K) := by
  rw [Spec.gamma5, ← PEquiv.toMatrix_trans, ← Equiv.toPEquiv_trans,
    show (Equiv.addRight (2 : Fin 4)).trans (Equiv.addRight 2) = Equiv.refl _ from
      Equiv.ext fun i => by fin_cases i <;> rfl,
    Equiv.toPEquiv_refl, PEquiv.toMatrix_refl]

/-
  The entry `(s, t)` of `sum_n kappa^n S^n`: `kappa^((t - s) mod Ls)`,
  times `-m_f` below the diagonal.
-/
def geomTerm
    (Ls : Nat)
    (kappa mf : K)
    (s t : Nat) :
    K :=
  if t < s then -mf * kappa ^ (Ls - s + t) else kappa ^ (t - s)

/- `2 factorR`, the row-block `R` of A. -/
def geomR
    (p : DslashParam K)
    (kappa : K) :
    Matrix (Fin p.Ls) (Fin p.Ls) K :=
  Matrix.of fun s t => 2 * factorR p kappa s t

theorem factorL_eq_factorR
    (p : DslashParam K)
    (kappa : K)
    (s t : Nat) :
    factorL p kappa s t = factorR p kappa t s := by
  simp only [factorL, factorR, gt_iff_lt]

/- Row `s` of `S M` is row `s + 1` of `M`, or `-m_f` times row `0` for the last `s`. -/
theorem shiftPlus_mul_apply
    {n : Nat}
    {m : Type*}
    (mf : K)
    (M : Matrix (Fin n) m K)
    (s : Fin n)
    (j : m) :
    (Spec.shiftPlus n mf * M) s j =
      if h : s.val + 1 = n then -mf * M ⟨0, by omega⟩ j else M ⟨s.val + 1, by omega⟩ j := by
  rw [Matrix.mul_apply]
  split_ifs with h
  · rw [Finset.sum_eq_single ⟨0, by omega⟩ (fun u _ hu => ?_) (by simp)]
    · simp [Spec.shiftPlus, h]
    · simp [Spec.shiftPlus, h, Fin.ext_iff.not.1 hu]
  · rw [Finset.sum_eq_single ⟨s.val + 1, by omega⟩ (fun u _ hu => ?_) (by simp)]
    · simp [Spec.shiftPlus, h]
    · simp [Spec.shiftPlus, h, Fin.ext_iff.not.1 hu]

/-
  The geometric series against `1 - kappa S`, row by row: everything
  cancels but the diagonal, where the wrap leaves `1 + kappa^Ls m_f`.
-/
theorem geomTerm_row
    (n : Nat)
    (kappa mf : K)
    {s t : Nat}
    (hs : s < n)
    (ht : t < n) :
    geomTerm n kappa mf s t -
        kappa * (if s + 1 = n then -mf * geomTerm n kappa mf 0 t
          else geomTerm n kappa mf (s + 1) t) =
      if s = t then 1 + kappa ^ n * mf else 0 := by
  have hPow : ∀ e, kappa * kappa ^ e = kappa ^ (e + 1) := fun e => (pow_succ' kappa e).symm
  simp only [geomTerm, Nat.not_lt_zero, if_false, Nat.sub_zero]
  rcases lt_trichotomy t s with hts | rfl | hst
  · have hts' : t < s + 1 := by omega
    simp only [if_pos hts, if_pos hts', if_neg (Nat.ne_of_gt hts)]
    split_ifs with hLast
    · rw [show n - s + t = t + 1 by omega, ← hPow]
      ring
    · rw [show n - s + t = n - (s + 1) + t + 1 by omega, ← hPow]
      ring
  · simp only [lt_self_iff_false, if_false, Nat.sub_self, pow_zero, if_true, Nat.lt_succ_self]
    split_ifs with hLast
    · rw [← hLast, ← hPow]
      ring
    · rw [show kappa ^ n = kappa ^ (n - (t + 1) + t + 1) by congr 1; omega, ← hPow]
      ring
  · have hLast : s + 1 ≠ n := by omega
    simp only [hLast, if_neg (Nat.not_lt.2 hst.le), if_neg (Nat.not_lt.2 hst), Nat.ne_of_lt hst,
      if_false]
    rw [show t - s = t - (s + 1) + 1 by omega, ← hPow]
    ring

/- The backward shift is the transpose of the forward one. -/
theorem shiftMinus_eq_transpose
    (n : Nat)
    (mf : K) :
    Spec.shiftMinus n mf = (Spec.shiftPlus n mf)ᵀ := by
  ext s t
  simp only [Spec.shiftMinus, Spec.shiftPlus, Matrix.transpose_apply, Matrix.of_apply]
  split_ifs <;> first | rfl | omega

section Exact

variable [CharZero K]

theorem matrixA_apply
    (p : DslashParam K)
    (s t : Fin p.Ls)
    (i j : Fin 4) :
    matrixA p (s, i) (t, j) =
      2 * factorR p (kappaAt p s) s t * Spec.projPlus i j +
        2 * factorL p (kappaAt p s) s t * Spec.projMinus i j := by
  have hBounds : ∀ q ∈
      blockStores 0 (factorR p (kappaAt p s) s t) (factorL p (kappaAt p s) s t) ++
        blockStores 1 (factorR p (kappaAt p s) s t) (factorL p (kappaAt p s) s t),
      q.1.1 < 4 ∧ q.1.2 < 4 := by
    simp [blockStores]
  rw [matrixA, Matrix.of_apply, storeA, storeA, ← List.map_append,
    lookup_map_storeIndex s t hBounds j.2 i.2, lookup_blockStores _ _ _ _ j.2 i.2]
  simp only [Spec.projPlus, Spec.projMinus, Matrix.smul_apply, Matrix.add_apply, Matrix.sub_apply,
    Matrix.one_apply, gamma5_apply, smul_eq_mul, Fin.ext_iff]
  split_ifs <;> first | (exfalso; omega) | ring

theorem two_mul_factorR
    (p : DslashParam K)
    (kappa : K)
    (s t : Nat) :
    2 * factorR p kappa s t = geomTerm p.Ls kappa p.mferm s t / (1 + kappa ^ p.Ls * p.mferm) := by
  simp only [factorR, invDN, geomTerm, gt_iff_lt]
  split_ifs <;> ring

/- `2R` is the inverse of `1 - kappa S`. -/
theorem geomR_inverse
    (p : DslashParam K)
    (kappa : K)
    (hDen : 1 + kappa ^ p.Ls * p.mferm ≠ 0) :
    (1 - kappa • Spec.shiftPlus p.Ls p.mferm) * geomR p kappa = 1 := by
  ext s t
  have hRow := geomTerm_row p.Ls kappa p.mferm s.2 t.2
  rw [Matrix.sub_mul, Matrix.smul_mul, Matrix.one_mul, Matrix.sub_apply, Matrix.smul_apply,
    shiftPlus_mul_apply, Matrix.one_apply, smul_eq_mul]
  simp only [geomR, Matrix.of_apply, two_mul_factorR, Fin.ext_iff, dite_eq_ite]
  calc _ = (geomTerm p.Ls kappa p.mferm s t -
          kappa * (if (s : Nat) + 1 = p.Ls then -p.mferm * geomTerm p.Ls kappa p.mferm 0 t
            else geomTerm p.Ls kappa p.mferm (s + 1) t)) / (1 + kappa ^ p.Ls * p.mferm) := by
        split_ifs <;> ring
    _ = _ := by
        rw [hRow]
        split_ifs
        exacts [div_self hDen, zero_div _]

/- `2L`, the transpose of `2R`, is the inverse of `1 - kappa S^T`. -/
theorem geomR_transpose_inverse
    (p : DslashParam K)
    (kappa : K)
    (hDen : 1 + kappa ^ p.Ls * p.mferm ≠ 0) :
    (geomR p kappa)ᵀ * (1 - kappa • (Spec.shiftPlus p.Ls p.mferm)ᵀ) = 1 := by
  rw [← Matrix.transpose_one, ← Matrix.transpose_smul, ← Matrix.transpose_sub,
    ← Matrix.transpose_mul, geomR_inverse p kappa hDen]

/- The entries of A are the blocks `2R P_+ + 2L P_-`. -/
theorem matrixA_eq
    (p : DslashParam K)
    (kappa : K)
    (hKappa : ∀ s : Fin p.Ls, kappaAt p s = kappa) :
    matrixA p = geomR p kappa ⊗ₖ Spec.projPlus + (geomR p kappa)ᵀ ⊗ₖ Spec.projMinus := by
  ext ⟨s, i⟩ ⟨t, j⟩
  rw [matrixA_apply, hKappa s, factorL_eq_factorR]
  rfl

theorem projMinus_eq_one_sub :
    Spec.projMinus = 1 - (Spec.projPlus : Matrix (Fin 4) (Fin 4) K) := by
  simp only [Spec.projPlus, Spec.projMinus]
  module

theorem projPlus_mul_self :
    Spec.projPlus * Spec.projPlus = (Spec.projPlus : Matrix (Fin 4) (Fin 4) K) := by
  simp only [Spec.projPlus, Matrix.smul_mul, Matrix.mul_smul, add_mul, mul_add, Matrix.one_mul,
    Matrix.mul_one, gamma5_mul_self, smul_smul]
  module

theorem projPlus_mul_projMinus :
    Spec.projPlus * Spec.projMinus = (0 : Matrix (Fin 4) (Fin 4) K) := by
  rw [projMinus_eq_one_sub, mul_sub, mul_one, projPlus_mul_self, sub_self]

theorem projMinus_mul_projPlus :
    Spec.projMinus * Spec.projPlus = (0 : Matrix (Fin 4) (Fin 4) K) := by
  rw [projMinus_eq_one_sub, sub_mul, one_mul, projPlus_mul_self, sub_self]

theorem projMinus_mul_self :
    Spec.projMinus * Spec.projMinus = (Spec.projMinus : Matrix (Fin 4) (Fin 4) K) := by
  rw [projMinus_eq_one_sub, mul_sub, sub_mul, sub_mul, one_mul, mul_one, one_mul, projPlus_mul_self,
    sub_self, sub_zero]

theorem projPlus_add_projMinus :
    Spec.projPlus + Spec.projMinus = (1 : Matrix (Fin 4) (Fin 4) K) := by
  rw [projMinus_eq_one_sub, add_sub_cancel]

/- Blocks along `P_+` and `P_-` multiply block by block. -/
theorem blocks_mul
    {n : Nat}
    (X Y X' Y' : Matrix (Fin n) (Fin n) K) :
    (X ⊗ₖ Spec.projPlus + Y ⊗ₖ Spec.projMinus) *
        (X' ⊗ₖ Spec.projPlus + Y' ⊗ₖ Spec.projMinus) =
      (X * X') ⊗ₖ Spec.projPlus + (Y * Y') ⊗ₖ Spec.projMinus := by
  simp only [add_mul, mul_add, ← Matrix.mul_kronecker_mul, projPlus_mul_self, projMinus_mul_self,
    projPlus_mul_projMinus, projMinus_mul_projPlus, Matrix.kronecker_zero, add_zero, zero_add]

/- The fifth-dimension operator along `P_+` and `P_-`. -/
theorem m5Dagger_eq_blocks
    (n : Nat)
    (kappa mf : K) :
    Spec.m5Dagger n kappa mf =
      (1 - kappa • Spec.shiftPlus n mf) ⊗ₖ Spec.projPlus +
        (1 - kappa • (Spec.shiftPlus n mf)ᵀ) ⊗ₖ Spec.projMinus := by
  have hOne :
      (1 : Matrix (Fin n) (Fin n) K) ⊗ₖ Spec.projPlus + 1 ⊗ₖ Spec.projMinus = 1 := by
    rw [← Matrix.kronecker_add, projPlus_add_projMinus, Matrix.one_kronecker_one]
  rw [Spec.m5Dagger, shiftMinus_eq_transpose, ← hOne]
  simp only [sub_eq_add_neg, ← neg_smul, Matrix.add_kronecker, Matrix.smul_kronecker]
  module

omit [CharZero K] in
/-
  Under `MDWF_mode` with one `b5` and one `c5` for every slice, `kappa`
  is the same in every slice.
-/
theorem kappaAt_uniform
    (p : DslashParam K)
    (hUniform : p.mdwfMode = true →
      ∀ s, s < p.Ls → p.mdwfB5 s = p.mdwfB5 0 ∧ p.mdwfC5 s = p.mdwfC5 0)
    (s : Fin p.Ls) :
    kappaAt p s = kappaAt p 0 := by
  unfold kappaAt
  split_ifs with hMdwf
  · rw [(hUniform hMdwf s s.2).1, (hUniform hMdwf s s.2).2]
  · rfl

omit [CharZero K] in
/- The `kappa` of the first row block is the one the operator is written with. -/
theorem kappaAt_zero
    (p : DslashParam K) :
    kappaAt p 0 = Spec.kappa p := by
  unfold kappaAt Spec.kappa
  split_ifs <;> ring

/- A inverts the fifth-dimension operator with the `kappa` it is built from. -/
theorem matrixA_mul_m5Dagger
    (p : DslashParam K)
    (hUniform : p.mdwfMode = true →
      ∀ s, s < p.Ls → p.mdwfB5 s = p.mdwfB5 0 ∧ p.mdwfC5 s = p.mdwfC5 0)
    (hDen : 1 + kappaAt p 0 ^ p.Ls * p.mferm ≠ 0) :
    matrixA p * Spec.m5Dagger p.Ls (kappaAt p 0) p.mferm = 1 := by
  rw [matrixA_eq p _ (kappaAt_uniform p hUniform), m5Dagger_eq_blocks, blocks_mul,
    Matrix.mul_eq_one_comm.1 (geomR_inverse p _ hDen), geomR_transpose_inverse p _ hDen,
    ← Matrix.kronecker_add, projPlus_add_projMinus, Matrix.one_kronecker_one]

/-
  The matrix the block builds inverts the fifth-dimension operator,
  on both sides, for every `Ls`, `kappa` and `m_f` with
  `1 + kappa^Ls m_f ≠ 0`.
-/
theorem m5InvDagger_inverse
    (p : DslashParam K)
    (hUniform : p.mdwfMode = true →
      ∀ s, s < p.Ls → p.mdwfB5 s = p.mdwfB5 0 ∧ p.mdwfC5 s = p.mdwfC5 0)
    (hDen : 1 + Spec.kappa p ^ p.Ls * p.mferm ≠ 0) :
    matrixA p * Spec.m5Dagger p.Ls (Spec.kappa p) p.mferm = 1 ∧
      Spec.m5Dagger p.Ls (Spec.kappa p) p.mferm * matrixA p = 1 := by
  rw [← kappaAt_zero] at hDen ⊢
  have hInv := matrixA_mul_m5Dagger p hUniform hDen
  exact ⟨hInv, Matrix.mul_eq_one_comm.1 hInv⟩

/- Two slices, `m5 = -3`, `b5 = 1`, `c5 = 0` and `m_f = 1/2` under `MDWF_mode`: `kappa = 1/2`. -/
def sampleParam : DslashParam ℚ :=
  ⟨2, 0, -3, fun _ => 1, fun _ => 0, 1 / 2, true⟩

theorem m5InvDagger_inverse_mdwf :
    (sampleParam.mdwfMode = true → ∀ s, s < sampleParam.Ls →
      sampleParam.mdwfB5 s = sampleParam.mdwfB5 0 ∧
        sampleParam.mdwfC5 s = sampleParam.mdwfC5 0) ∧
    1 + Spec.kappa sampleParam ^ sampleParam.Ls * sampleParam.mferm ≠ 0 ∧
    matrixA sampleParam *
        Spec.m5Dagger sampleParam.Ls (Spec.kappa sampleParam) sampleParam.mferm = 1 ∧
    Spec.m5Dagger sampleParam.Ls (Spec.kappa sampleParam) sampleParam.mferm *
        matrixA sampleParam = 1 := by
  have hDen : 1 + Spec.kappa sampleParam ^ sampleParam.Ls * sampleParam.mferm ≠ 0 := by
    norm_num [Spec.kappa, sampleParam]
  exact ⟨fun _ _ _ => ⟨rfl, rfl⟩, hDen,
    m5InvDagger_inverse sampleParam (fun _ _ _ => ⟨rfl, rfl⟩) hDen⟩

end Exact

end M5InvDagger

end Quda
