import Mathlib

/-
  The Wilson Dirac operator of `dirac_wilson.cpp` and its even-odd
  preconditioned form.

  A parity spinor is a vector of a module `V` over the scalars `R`,
  and a full spinor is a pair of parity spinors.  `Dslash` applies
  the hopping term `D_p`, which reads the sites of the other parity
  and writes those of parity `p`; the gauge field and the dagger flag
  fix it, and every result here holds for every linear `D_p`.

  `DiracWilsonPC::prepare` writes the preconditioned source into the
  half of `x` that the solve does not use, the solver writes the
  solution parity, and `reconstruct` fills in the other parity.  The
  preconditioned operator is the Schur complement of the full one, so
  the three steps solve the full system.

  Main declarations:
    * `DiracWilson.M`
    * `DiracWilsonPC.M`, `DiracWilsonPC.prepare`, `DiracWilsonPC.reconstruct`
    * `DiracWilsonPC.M_eq_iff_evenEven`, `DiracWilsonPC.M_eq_iff_oddOdd`
-/

namespace Quda

------------------------------------------------------------
-- Parities and Options
------------------------------------------------------------

/- `QudaParity` -/
inductive QudaParity
  | even
  | odd
deriving DecidableEq, Repr

/-
  `QudaMatPCType`: the two values the Wilson operator accepts, and
  every other value by the number the error message prints.
-/
inductive MatPCType
  | evenEven
  | oddOdd
  | other (value : Int)
deriving DecidableEq, Repr

/- `QudaSolutionType`: the two preconditioned solutions, and every other value. -/
inductive SolutionType
  | matpc
  | matpcdagMatpc
  | other (value : Int)
deriving DecidableEq, Repr

/- `solType == QUDA_MATPC_SOLUTION || solType == QUDA_MATPCDAG_MATPC_SOLUTION` -/
def SolutionType.preconditioned : SolutionType → Bool
  | .matpc | .matpcdagMatpc => true
  | .other _ => false

/- A full spinor: `x.Even()` and `x.Odd()`. -/
structure FullSpinor (V : Type*) where
  even : V
  odd : V
deriving DecidableEq, Repr

theorem FullSpinor.ext_iff'
    {V : Type*}
    {x y : FullSpinor V} :
    x = y ↔ x.even = y.even ∧ x.odd = y.odd := by
  cases x; cases y; simp

------------------------------------------------------------
-- The Wilson Operator
------------------------------------------------------------

/- The Wilson operator: `kappa`, and the hopping term of the gauge field. -/
structure DiracWilson (R V : Type*) [CommRing R] [AddCommGroup V] [Module R V] where
  kappa : R
  /- `wilsonDslashCuda` with this gauge field and dagger flag, writing parity `p`. -/
  hop : QudaParity → V →ₗ[R] V

namespace DiracWilson

variable {R V : Type*} [CommRing R] [AddCommGroup V] [Module R V]

/- `Dslash(out, in, parity)`: `out = D_parity in`. -/
def Dslash
    (d : DiracWilson R V)
    (input : V)
    (parity : QudaParity) :
    V :=
  d.hop parity input

/- `DslashXpay(out, in, parity, x, k)`: `out = x + k D_parity in`. -/
def DslashXpay
    (d : DiracWilson R V)
    (input : V)
    (parity : QudaParity)
    (x : V)
    (k : R) :
    V :=
  x + k • d.hop parity input

/- `M(out, in)`: `out = in - kappa D in`, the odd half first. -/
def M
    (d : DiracWilson R V)
    (input : FullSpinor V) :
    FullSpinor V :=
  let odd := d.DslashXpay input.even .odd input.odd (-d.kappa)
  let even := d.DslashXpay input.odd .even input.even (-d.kappa)
  ⟨even, odd⟩

/-
  `prepare` of the unpreconditioned operator: a preconditioned
  solution type is an error.  Its `src` and `sol` are pointers passed
  by value, so the assignments to them do not reach the caller.
-/
def prepare
    (_d : DiracWilson R V)
    (solType : SolutionType) :
    Except String Unit :=
  if solType.preconditioned then
    .error "Preconditioned solution requires a preconditioned solve_type"
  else .ok ()

end DiracWilson

/- The even-odd preconditioned Wilson operator. -/
structure DiracWilsonPC (R V : Type*) [CommRing R] [AddCommGroup V] [Module R V]
    extends DiracWilson R V where
  matpcType : MatPCType

namespace DiracWilsonPC

variable {R V : Type*} [CommRing R] [AddCommGroup V] [Module R V]

/- The error of every method of `DiracWilsonPC` on any other `matpcType`. -/
def notValid
    (value : Int) :
    String :=
  s!"MatPCType {value} not valid for DiracWilsonPC"

/-
  `M(out, in)` on the solution parity: `in - kappa^2 D D in`, through
  the other parity.
-/
def M
    (d : DiracWilsonPC R V)
    (input : V) :
    Except String V :=
  let kappa2 := -d.kappa * d.kappa
  match d.matpcType with
  | .evenEven =>
      let tmp1 := d.Dslash input .odd
      .ok (d.DslashXpay tmp1 .even input kappa2)
  | .oddOdd =>
      let tmp1 := d.Dslash input .even
      .ok (d.DslashXpay tmp1 .odd input kappa2)
  | .other value => .error (notValid value)

/-
  `prepare(src, sol, x, b, solType)`: for a full solution, the
  preconditioned source `b_e + kappa D_eo b_o` (resp. `b_o + kappa
  D_oe b_e`) into `x.Odd()` (resp. `x.Even()`).  As in `DiracWilson`,
  the assignments to `src` and `sol` do not reach the caller.
-/
def prepare
    (d : DiracWilsonPC R V)
    (x b : FullSpinor V)
    (solType : SolutionType) :
    Except String (FullSpinor V) :=
  if solType.preconditioned then .ok x
  else
    match d.matpcType with
    | .evenEven => .ok { x with odd := d.DslashXpay b.odd .even b.even d.kappa }
    | .oddOdd => .ok { x with even := d.DslashXpay b.even .odd b.odd d.kappa }
    | .other value => .error (notValid value)

/-
  `reconstruct(x, b, solType)`: for a full solution, the other parity
  `x_o = b_o + kappa D_oe x_e` (resp. `x_e = b_e + kappa D_eo x_o`).
-/
def reconstruct
    (d : DiracWilsonPC R V)
    (x b : FullSpinor V)
    (solType : SolutionType) :
    Except String (FullSpinor V) :=
  if solType.preconditioned then .ok x
  else
    match d.matpcType with
    | .evenEven => .ok { x with odd := d.DslashXpay x.even .odd b.odd d.kappa }
    | .oddOdd => .ok { x with even := d.DslashXpay x.odd .even b.even d.kappa }
    | .other value => .error (notValid value)

section Equations

variable (d : DiracWilsonPC R V) (x b : FullSpinor V) {solType : SolutionType}

theorem M_evenEven
    (h : d.matpcType = .evenEven)
    (s : V) :
    d.M s = .ok (s + (-d.kappa * d.kappa) • d.hop .even (d.hop .odd s)) := by
  simp [M, h, DiracWilson.Dslash, DiracWilson.DslashXpay]

theorem M_oddOdd
    (h : d.matpcType = .oddOdd)
    (s : V) :
    d.M s = .ok (s + (-d.kappa * d.kappa) • d.hop .odd (d.hop .even s)) := by
  simp [M, h, DiracWilson.Dslash, DiracWilson.DslashXpay]

theorem prepare_evenEven
    (h : d.matpcType = .evenEven)
    (hFull : solType.preconditioned = false) :
    d.prepare x b solType = .ok { x with odd := b.even + d.kappa • d.hop .even b.odd } := by
  simp [prepare, h, hFull, DiracWilson.DslashXpay]

theorem prepare_oddOdd
    (h : d.matpcType = .oddOdd)
    (hFull : solType.preconditioned = false) :
    d.prepare x b solType = .ok { x with even := b.odd + d.kappa • d.hop .odd b.even } := by
  simp [prepare, h, hFull, DiracWilson.DslashXpay]

theorem reconstruct_evenEven
    (h : d.matpcType = .evenEven)
    (hFull : solType.preconditioned = false) :
    d.reconstruct x b solType = .ok { x with odd := b.odd + d.kappa • d.hop .odd x.even } := by
  simp [reconstruct, h, hFull, DiracWilson.DslashXpay]

theorem reconstruct_oddOdd
    (h : d.matpcType = .oddOdd)
    (hFull : solType.preconditioned = false) :
    d.reconstruct x b solType = .ok { x with even := b.even + d.kappa • d.hop .even x.odd } := by
  simp [reconstruct, h, hFull, DiracWilson.DslashXpay]

/- Every method rejects any other `matpcType`, with the value in the message. -/
theorem notValid_of_other
    {value : Int}
    (h : d.matpcType = .other value)
    (s : V)
    (hFull : solType.preconditioned = false) :
    d.M s = .error (notValid value) ∧ d.prepare x b solType = .error (notValid value) ∧
      d.reconstruct x b solType = .error (notValid value) := by
  simp [M, prepare, reconstruct, h, hFull]

end Equations

------------------------------------------------------------
-- The Schur Complement
------------------------------------------------------------

/-
  Even-odd elimination for any two hopping maps: `u - kappa A v = f`
  and `v - kappa B u = g` hold together exactly when `u` solves the
  Schur complement `u - kappa^2 A B u = f + kappa A g` and `v` is
  `g + kappa B u`.
-/
theorem schur_iff
    (kappa : R)
    (A B : V →ₗ[R] V)
    (u v f g : V) :
    (u + (-kappa) • A v = f ∧ v + (-kappa) • B u = g) ↔
      (u + (-kappa * kappa) • A (B u) = f + kappa • A g ∧ v = g + kappa • B u) := by
  constructor
  · rintro ⟨rfl, rfl⟩
    refine ⟨?_, by module⟩
    rw [map_add, map_smul]
    module
  · rintro ⟨hSchur, rfl⟩
    refine ⟨?_, by module⟩
    rw [eq_sub_of_add_eq hSchur.symm, map_add, map_smul]
    module

/-
  For `QUDA_MATPC_EVEN_EVEN`, `x` solves the full system exactly when
  its even half solves the preconditioned system for `prepare`'s
  source and its odd half is what `reconstruct` writes.
-/
theorem M_eq_iff_evenEven
    (d : DiracWilsonPC R V)
    (h : d.matpcType = .evenEven)
    (x b : FullSpinor V) :
    d.toDiracWilson.M x = b ↔
      d.M x.even = .ok (b.even + d.kappa • d.hop .even b.odd) ∧
        x.odd = b.odd + d.kappa • d.hop .odd x.even := by
  rw [M_evenEven d h, Except.ok.injEq, FullSpinor.ext_iff', ← schur_iff]
  simp [DiracWilson.M, DiracWilson.DslashXpay]

/- The same for `QUDA_MATPC_ODD_ODD`, with the parities exchanged. -/
theorem M_eq_iff_oddOdd
    (d : DiracWilsonPC R V)
    (h : d.matpcType = .oddOdd)
    (x b : FullSpinor V) :
    d.toDiracWilson.M x = b ↔
      d.M x.odd = .ok (b.odd + d.kappa • d.hop .odd b.even) ∧
        x.even = b.even + d.kappa • d.hop .even x.odd := by
  rw [M_oddOdd d h, Except.ok.injEq, FullSpinor.ext_iff', ← schur_iff, and_comm]
  simp [DiracWilson.M, DiracWilson.DslashXpay]

------------------------------------------------------------
-- Solving the Full System
------------------------------------------------------------

/-
  For a full solution type, `prepare`, a solve of the preconditioned
  system on the solution parity, and `reconstruct` give a solution of
  the full system: for every `kappa`, every linear hopping term and
  every source.
-/
theorem prepare_solve_reconstruct
    (d : DiracWilsonPC R V)
    (solType : SolutionType)
    (hFull : solType.preconditioned = false)
    (x b : FullSpinor V)
    (s : V) :
    (d.matpcType = .evenEven →
      ∃ x', d.prepare x b solType = .ok x' ∧
        (d.M s = .ok x'.odd →
          ∃ y, d.reconstruct { x' with even := s } b solType = .ok y ∧
            d.toDiracWilson.M y = b)) ∧
    (d.matpcType = .oddOdd →
      ∃ x', d.prepare x b solType = .ok x' ∧
        (d.M s = .ok x'.even →
          ∃ y, d.reconstruct { x' with odd := s } b solType = .ok y ∧
            d.toDiracWilson.M y = b)) :=
  ⟨fun h => ⟨_, d.prepare_evenEven x b h hFull, fun hs =>
      ⟨_, d.reconstruct_evenEven _ b h hFull, (d.M_eq_iff_evenEven h _ b).2 ⟨hs, rfl⟩⟩⟩,
    fun h => ⟨_, d.prepare_oddOdd x b h hFull, fun hs =>
      ⟨_, d.reconstruct_oddOdd _ b h hFull, (d.M_eq_iff_oddOdd h _ b).2 ⟨hs, rfl⟩⟩⟩⟩

/- `kappa = 1/2` and the identity as hopping term, preconditioned on the even sites. -/
def sampleWilsonPC : DiracWilsonPC ℚ ℚ :=
  ⟨⟨1 / 2, fun _ => LinearMap.id⟩, .evenEven⟩

/- The same operator, preconditioned on the odd sites. -/
def sampleWilsonPCOdd : DiracWilsonPC ℚ ℚ :=
  { sampleWilsonPC with matpcType := .oddOdd }

theorem prepare_solve_reconstruct_sample :
    (SolutionType.other 0).preconditioned = false ∧
    (sampleWilsonPC.matpcType = .evenEven ∧
      sampleWilsonPC.prepare ⟨0, 0⟩ ⟨1, 2⟩ (.other 0) = .ok ⟨0, 2⟩ ∧
      sampleWilsonPC.M (8 / 3) = .ok 2 ∧
      ∃ y, sampleWilsonPC.reconstruct ⟨8 / 3, 2⟩ ⟨1, 2⟩ (.other 0) = .ok y ∧
        sampleWilsonPC.toDiracWilson.M y = ⟨1, 2⟩) ∧
    (sampleWilsonPCOdd.matpcType = .oddOdd ∧
      sampleWilsonPCOdd.prepare ⟨0, 0⟩ ⟨1, 2⟩ (.other 0) = .ok ⟨5 / 2, 0⟩ ∧
      sampleWilsonPCOdd.M (10 / 3) = .ok (5 / 2) ∧
      ∃ y, sampleWilsonPCOdd.reconstruct ⟨5 / 2, 10 / 3⟩ ⟨1, 2⟩ (.other 0) = .ok y ∧
        sampleWilsonPCOdd.toDiracWilson.M y = ⟨1, 2⟩) := by
  have hPrepEven : sampleWilsonPC.prepare ⟨0, 0⟩ ⟨1, 2⟩ (.other 0) = .ok ⟨0, 2⟩ := by
    norm_num [prepare, sampleWilsonPC, DiracWilson.DslashXpay, SolutionType.preconditioned]
  have hMEven : sampleWilsonPC.M (8 / 3) = .ok 2 := by
    norm_num [M, sampleWilsonPC, DiracWilson.DslashXpay, DiracWilson.Dslash]
  have hPrepOdd :
      sampleWilsonPCOdd.prepare ⟨0, 0⟩ ⟨1, 2⟩ (.other 0) = .ok ⟨5 / 2, 0⟩ := by
    norm_num [prepare, sampleWilsonPCOdd, sampleWilsonPC, DiracWilson.DslashXpay,
      SolutionType.preconditioned]
  have hMOdd : sampleWilsonPCOdd.M (10 / 3) = .ok (5 / 2) := by
    norm_num [M, sampleWilsonPCOdd, sampleWilsonPC, DiracWilson.DslashXpay, DiracWilson.Dslash]
  obtain ⟨x', hX', hSolveEven⟩ :=
    (prepare_solve_reconstruct sampleWilsonPC (.other 0) rfl ⟨0, 0⟩ ⟨1, 2⟩ (8 / 3)).1 rfl
  obtain ⟨x'', hX'', hSolveOdd⟩ :=
    (prepare_solve_reconstruct sampleWilsonPCOdd (.other 0) rfl ⟨0, 0⟩ ⟨1, 2⟩
      (10 / 3)).2 rfl
  rw [hPrepEven, Except.ok.injEq] at hX'
  rw [hPrepOdd, Except.ok.injEq] at hX''
  subst hX' hX''
  exact ⟨rfl, ⟨rfl, hPrepEven, hMEven, hSolveEven hMEven⟩,
    ⟨rfl, hPrepOdd, hMOdd, hSolveOdd hMOdd⟩⟩

/-
  Conversely, every solution of the full system is one the three
  steps produce: `x` solves it exactly when its solution parity
  solves the preconditioned system for `prepare`'s source and
  `reconstruct` leaves it unchanged.
-/
theorem full_solution_iff_preconditioned
    (d : DiracWilsonPC R V)
    (solType : SolutionType)
    (hFull : solType.preconditioned = false)
    (x b : FullSpinor V) :
    (d.matpcType = .evenEven →
      (d.toDiracWilson.M x = b ↔
        d.M x.even = (d.prepare x b solType).map (·.odd) ∧
          d.reconstruct x b solType = .ok x)) ∧
    (d.matpcType = .oddOdd →
      (d.toDiracWilson.M x = b ↔
        d.M x.odd = (d.prepare x b solType).map (·.even) ∧
          d.reconstruct x b solType = .ok x)) := by
  refine ⟨fun h => ?_, fun h => ?_⟩
  · rw [d.M_eq_iff_evenEven h, d.prepare_evenEven x b h hFull, d.reconstruct_evenEven x b h hFull]
    simp [Except.map, FullSpinor.ext_iff', eq_comm]
  · rw [d.M_eq_iff_oddOdd h, d.prepare_oddOdd x b h hFull, d.reconstruct_oddOdd x b h hFull]
    simp [Except.map, FullSpinor.ext_iff', eq_comm]

theorem full_solution_iff_preconditioned_sample :
    (SolutionType.other 0).preconditioned = false ∧
    (sampleWilsonPC.matpcType = .evenEven ∧
      (sampleWilsonPC.toDiracWilson.M ⟨1, 2⟩ = ⟨0, 3 / 2⟩ ↔
        sampleWilsonPC.M 1 =
            (sampleWilsonPC.prepare ⟨1, 2⟩ ⟨0, 3 / 2⟩ (.other 0)).map (·.odd) ∧
          sampleWilsonPC.reconstruct ⟨1, 2⟩ ⟨0, 3 / 2⟩ (.other 0) = .ok ⟨1, 2⟩)) ∧
    (sampleWilsonPCOdd.matpcType = .oddOdd ∧
      (sampleWilsonPCOdd.toDiracWilson.M ⟨1, 2⟩ = ⟨0, 3 / 2⟩ ↔
        sampleWilsonPCOdd.M 2 =
            (sampleWilsonPCOdd.prepare ⟨1, 2⟩ ⟨0, 3 / 2⟩ (.other 0)).map (·.even) ∧
          sampleWilsonPCOdd.reconstruct ⟨1, 2⟩ ⟨0, 3 / 2⟩ (.other 0) = .ok ⟨1, 2⟩)) :=
  ⟨rfl,
    ⟨rfl,
      (full_solution_iff_preconditioned sampleWilsonPC (.other 0) rfl ⟨1, 2⟩ ⟨0, 3 / 2⟩).1
        rfl⟩,
    ⟨rfl,
      (full_solution_iff_preconditioned sampleWilsonPCOdd (.other 0) rfl ⟨1, 2⟩ ⟨0, 3 / 2⟩).2
        rfl⟩⟩

end DiracWilsonPC

end Quda
