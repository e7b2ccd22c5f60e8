import Quda.Blas.LaunchGeometry

/-
  Vector-width independence.  Single and half precision Wilson
  fields are read as `float4`, two complex numbers per vector, and
  double precision as `double2`, one.  The `float4` overloads of
  `norm1_`, `norm2_`, `dot_`, `cdot_` and `Caxpy_` are written out
  by hand; each does to `join p q` what its `double2` overload does
  to `p` and then to `q`.  So every functor of the catalog
  processes one `float4` element as it processes its two halves in
  turn, and a launch returns the same result and stores the same
  operands whichever vector type it reads.

  Main declarations:
    * `norm1_join`, `norm2_join`, `dot_join`, `cdot_join`, `caxpy_join`
    * `Splits`, `catalog_splits`
    * `launch_float4_eq_double2`
    * `VectorWidthAgrees`, `catalog_vectorWidth`
-/

------------------------------------------------------------
-- The Overloads Split
------------------------------------------------------------

namespace Quda

variable {R : Type} [LinearOrderedField R]

/- The operand tuple of `float4`s holding `p` and `q` in every slot. -/
def joinSlots
    (p q : Slots (Double2 R)) :
    Slots (Float4 R) :=
  Slots.zipWith Float4.join p q

theorem norm1_join
    (p q : Double2 R) :
    norm1_ (Float4.join p q) = norm1_ p + norm1_ q := by
  show |p.x| + |p.y| + |q.x| + |q.y| = |p.x| + |p.y| + (|q.x| + |q.y|)
  ring

theorem norm2_join
    (sum : R)
    (p q : Double2 R) :
    norm2_ sum (Float4.join p q) = norm2_ (norm2_ sum p) q := rfl

theorem dot_join
    (sum : R)
    (p q p' q' : Double2 R) :
    dot_ sum (Float4.join p q) (Float4.join p' q') = dot_ (dot_ sum p p') q q' :=
  rfl

theorem cdot_join
    (sum : Double2 R)
    (p q p' q' : Double2 R) :
    cdot_ sum (Float4.join p q) (Float4.join p' q') =
      cdot_ (cdot_ sum p p') q q' :=
  rfl

theorem caxpy_join
    (a p q p' q' : Double2 R) :
    caxpy_ a (Float4.join p q) (Float4.join p' q') =
      Float4.join (caxpy_ a p p') (caxpy_ a q q') :=
  rfl

------------------------------------------------------------
-- The Functors Split
------------------------------------------------------------

section Splits

variable {S₄ S₂ T : Type}

/-
  `F₄`, reading `float4`s, does to the element `joinSlots p q` what
  `F₂`, reading `double2`s, does to `p` and then to `q`: member
  states related by `rel` stay related, and the sums and the
  operands agree.
-/
structure Splits (F₄ : ReduceFunctor S₄ (Float4 R) T)
    (F₂ : ReduceFunctor S₂ (Double2 R) T) (rel : S₄ → S₂ → Prop) : Prop where
  init : rel F₄.init F₂.init
  pre : ∀ s₄ s₂, rel s₄ s₂ → rel (F₄.pre s₄) (F₂.pre s₂)
  op : ∀ s₄ s₂ sum p q, rel s₄ s₂ →
    let r₁ := F₂.op s₂ sum p
    let r₂ := F₂.op r₁.1 r₁.2.1 q
    rel (F₄.op s₄ sum (joinSlots p q)).1 r₂.1 ∧
      (F₄.op s₄ sum (joinSlots p q)).2 = (r₂.2.1, joinSlots r₁.2.2 r₂.2.2)
  post : ∀ s₄ s₂ sum, rel s₄ s₂ → F₄.post s₄ sum = F₂.post s₂ sum

/- Functors without member state split when their steps do. -/
omit [LinearOrderedField R] in
theorem ofOp_splits
    (step₄ : T → Slots (Float4 R) → T × Slots (Float4 R))
    (step₂ : T → Slots (Double2 R) → T × Slots (Double2 R))
    (hStep : ∀ sum p q, step₄ sum (joinSlots p q) =
      ((step₂ (step₂ sum p).1 q).1, joinSlots (step₂ sum p).2 (step₂ (step₂ sum p).1 q).2)) :
    Splits (ReduceFunctor.ofOp step₄) (ReduceFunctor.ofOp step₂) fun _ _ => True :=
  ⟨trivial, fun _ _ _ => trivial, fun _ _ sum p q _ => ⟨trivial, hStep sum p q⟩,
    fun _ _ _ _ => rfl⟩

end Splits

/-
  Every functor of the catalog processes a `float4` element as it
  processes its two complex numbers in turn; the heavy-quark
  functors keep equal `aux` members, the others' members carry
  nothing between elements.
-/
theorem catalog_splits
    (a b : Double2 R) :
    Splits ((Norm1 : Reducer R R).functor (Float4 R) a b)
      (Norm1.functor (Double2 R) a b) (fun _ _ => True) ∧
    Splits ((Norm2 : Reducer R R).functor (Float4 R) a b)
      (Norm2.functor (Double2 R) a b) (fun _ _ => True) ∧
    Splits ((Dot : Reducer R R).functor (Float4 R) a b)
      (Dot.functor (Double2 R) a b) (fun _ _ => True) ∧
    Splits ((axpbyzNorm2 : Reducer R R).functor (Float4 R) a b)
      (axpbyzNorm2.functor (Double2 R) a b) (fun _ _ => True) ∧
    Splits ((AxpyReDot : Reducer R R).functor (Float4 R) a b)
      (AxpyReDot.functor (Double2 R) a b) (fun _ _ => True) ∧
    Splits ((caxpyNorm2 : Reducer R R).functor (Float4 R) a b)
      (caxpyNorm2.functor (Double2 R) a b) (fun _ _ => True) ∧
    Splits ((caxpyxmaznormx : Reducer R R).functor (Float4 R) a b)
      (caxpyxmaznormx.functor (Double2 R) a b) (fun _ _ => True) ∧
    Splits ((cabxpyzaxnorm : Reducer R R).functor (Float4 R) a b)
      (cabxpyzaxnorm.functor (Double2 R) a b) (fun _ _ => True) ∧
    Splits ((Cdot : Reducer R (Double2 R)).functor (Float4 R) a b)
      (Cdot.functor (Double2 R) a b) (fun _ _ => True) ∧
    Splits ((caxpydotzy : Reducer R (Double2 R)).functor (Float4 R) a b)
      (caxpydotzy.functor (Double2 R) a b) (fun _ _ => True) ∧
    Splits ((CdotNormA : Reducer R (Double3 R)).functor (Float4 R) a b)
      (CdotNormA.functor (Double2 R) a b) (fun _ _ => True) ∧
    Splits ((caxpbypzYmbwcDotProductUYNormY_ : Reducer R (Double3 R)).functor
        (Float4 R) a b)
      (caxpbypzYmbwcDotProductUYNormY_.functor (Double2 R) a b) (fun _ _ => True) ∧
    Splits ((axpyCGNorm2 : Reducer R (Double2 R)).functor (Float4 R) a b)
      (axpyCGNorm2.functor (Double2 R) a b) (fun _ _ => True) ∧
    Splits ((HeavyQuarkResidualNorm_ : Reducer R (Double3 R)).functor (Float4 R) a b)
      (HeavyQuarkResidualNorm_.functor (Double2 R) a b) Eq ∧
    Splits ((xpyHeavyQuarkResidualNorm_ : Reducer R (Double3 R)).functor
        (Float4 R) a b)
      (xpyHeavyQuarkResidualNorm_.functor (Double2 R) a b) Eq ∧
    Splits ((tripleCGReduction_ : Reducer R (Double3 R)).functor (Float4 R) a b)
      (tripleCGReduction_.functor (Double2 R) a b) (fun _ _ => True) ∧
    Splits ((quadrupleCGReduction_ : Reducer R (Double4 R)).functor (Float4 R) a b)
      (quadrupleCGReduction_.functor (Double2 R) a b) (fun _ _ => True) ∧
    Splits ((quadrupleCG3InitNorm_ : Reducer R R).functor (Float4 R) a b)
      (quadrupleCG3InitNorm_.functor (Double2 R) a b) (fun _ _ => True) ∧
    Splits ((quadrupleCG3UpdateNorm_ : Reducer R R).functor (Float4 R) a b)
      (quadrupleCG3UpdateNorm_.functor (Double2 R) a b) (fun _ _ => True) ∧
    Splits ((doubleCG3InitNorm_ : Reducer R R).functor (Float4 R) a b)
      (doubleCG3InitNorm_.functor (Double2 R) a b) (fun _ _ => True) ∧
    Splits ((doubleCG3UpdateNorm_ : Reducer R R).functor (Float4 R) a b)
      (doubleCG3UpdateNorm_.functor (Double2 R) a b) (fun _ _ => True) := by
  refine ⟨?norm1, ?norm2, ?dot, ?axpbyz, ?axpyReDot, ?caxpy, ?caxpyXmaz,
    ?cabxpyz, ?cdot, ?caxpyDot, ?cdotNormA, ?caxpbypz, ?axpyCG, ?hq, ?xpyHq,
    ?triple, ?quadruple, ?q3Init, ?q3Update, ?d3Init, ?d3Update⟩
  case norm1 =>
    refine ofOp_splits _ _ fun sum p q => ?_
    simp [Norm1, joinSlots, Slots.zipWith, norm1_join, add_assoc]
  case hq => exact ⟨rfl, fun _ _ h => h ▸ rfl, fun _ _ _ _ _ h => h ▸ ⟨rfl, rfl⟩,
    fun _ _ _ h => h ▸ rfl⟩
  case xpyHq => exact ⟨rfl, fun _ _ h => h ▸ rfl, fun _ _ _ _ _ h => h ▸ ⟨rfl, rfl⟩,
    fun _ _ _ h => h ▸ rfl⟩
  case q3Update => exact ⟨trivial, fun _ _ _ => trivial,
    fun _ _ _ _ _ _ => ⟨trivial, rfl⟩, fun _ _ _ _ => rfl⟩
  case d3Update => exact ⟨trivial, fun _ _ _ => trivial,
    fun _ _ _ _ _ _ => ⟨trivial, rfl⟩, fun _ _ _ _ => rfl⟩
  all_goals exact ofOp_splits _ _ fun _ _ _ => rfl

------------------------------------------------------------
-- Pairing Operands
------------------------------------------------------------

section Pairing

theorem pairSlots_cons_cons
    (p q : Slots (Double2 R))
    (l : List (Slots (Double2 R))) :
    pairSlots (p :: q :: l) = joinSlots p q :: pairSlots l := rfl

theorem pairSlots_append :
    ∀ (l₁ l₂ : List (Slots (Double2 R))), Even l₁.length →
      pairSlots (l₁ ++ l₂) = pairSlots l₁ ++ pairSlots l₂
  | [], _, _ => rfl
  | [_], _, h => by simp at h
  | p :: q :: l₁, l₂, h => by
      rw [List.cons_append, List.cons_append, pairSlots_cons_cons,
        pairSlots_cons_cons, pairSlots_append l₁ l₂ (by simpa [parity_simps] using h),
        List.cons_append]

theorem unpairSlots_pairSlots :
    ∀ l : List (Slots (Double2 R)), Even l.length → unpairSlots (pairSlots l) = l
  | [], _ => rfl
  | [_], h => by simp at h
  | p :: q :: l, h => by
      rw [pairSlots_cons_cons, unpairSlots, List.flatMap_cons, ← unpairSlots,
        unpairSlots_pairSlots l (by simpa [parity_simps] using h)]
      rfl

omit [LinearOrderedField R] in
theorem unpairSlots_flatten
    (ls : List (List (Slots (Float4 R)))) :
    unpairSlots ls.flatten = (ls.map unpairSlots).flatten := by
  induction ls with
  | nil => rfl
  | cons l ls ih =>
      rw [List.flatten_cons, List.map_cons, List.flatten_cons, ← ih]
      simp [unpairSlots]

/- Pairing chunks of even length pairs their concatenation. -/
theorem pairSlots_flatten
    (cs : List (List (Slots (Double2 R))))
    (hEven : ∀ c ∈ cs, Even c.length) :
    (cs.map pairSlots).flatten = pairSlots cs.flatten := by
  induction cs with
  | nil => rfl
  | cons c cs ih =>
      rw [List.map_cons, List.flatten_cons, List.flatten_cons,
        pairSlots_append _ _ (hEven c (List.mem_cons_self _ _)),
        ih fun c hc => hEven c (List.mem_cons_of_mem _ hc)]

/- Cutting an even list into pieces of an even size leaves even pieces. -/
theorem chunk_even
    {α : Type}
    (m : Nat)
    (hm : Even m)
    (l : List α)
    (hPos : l ≠ [] → 0 < m)
    (hl : Even l.length) :
    ∀ c ∈ chunk m l, Even c.length := by
  induction l using chunk.induct m with
  | case1 => simp [chunk]
  | case2 a l ih =>
      have hPos := hPos (List.cons_ne_nil a l)
      rw [Nat.even_iff] at hm hl
      rw [chunk]
      intro c hc
      rcases List.mem_cons.mp hc with rfl | hc
      · simp only [List.length_cons, List.length_take, Nat.min_def] at hl ⊢
        rw [Nat.even_iff]
        split_ifs <;> omega
      · refine ih (fun _ => hPos) ?_ c hc
        simp only [List.length_cons, List.length_drop] at hl ⊢
        rw [Nat.even_iff]
        omega

end Pairing

------------------------------------------------------------
-- Runs Split
------------------------------------------------------------

section Runs

variable {S₄ S₂ T : Type}

/- A `float4` run and a `double2` run agree: states, sums, operands. -/
def RunsAgree
    (rel : S₄ → S₂ → Prop)
    {α β : Type}
    (unpair : α → β)
    (r₄ : S₄ × T × α)
    (r₂ : S₂ × T × β) :
    Prop :=
  rel r₄.1 r₂.1 ∧ r₄.2.1 = r₂.2.1 ∧ unpair r₄.2.2 = r₂.2.2

variable {F₄ : ReduceFunctor S₄ (Float4 R) T} {F₂ : ReduceFunctor S₂ (Double2 R) T}
variable {rel : S₄ → S₂ → Prop}

/- The M-loop over the paired operands agrees with the loop over them. -/
theorem visit_pairSlots
    (hSplit : Splits F₄ F₂ rel) :
    ∀ (l : List (Slots (Double2 R))) (s₄ : S₄) (s₂ : S₂) (sum : T),
      Even l.length → rel s₄ s₂ →
      RunsAgree rel unpairSlots (visit F₄.op s₄ sum (pairSlots l)) (visit F₂.op s₂ sum l)
  | [], _, _, _, _, hRel => ⟨hRel, rfl, rfl⟩
  | [_], _, _, _, h, _ => by simp at h
  | p :: q :: l, s₄, s₂, sum, h, hRel => by
      obtain ⟨hRel', hOp⟩ := hSplit.op s₄ s₂ sum p q hRel
      obtain ⟨hRelTail, hSum, hOut⟩ := visit_pairSlots hSplit l _ _ _
        (by simpa [parity_simps] using h) hRel'
      rw [pairSlots_cons_cons, visit_cons, visit_cons, visit_cons, hOp]
      refine ⟨hRelTail, hSum, ?_⟩
      rw [← hOut]
      rfl

/- One index read as `float4`s agrees with it read as `double2`s. -/
theorem reduceIndex_pairSlots
    (hSplit : Splits F₄ F₂ rel)
    (c : List (Slots (Double2 R)))
    (s₄ : S₄)
    (s₂ : S₂)
    (sum : T)
    (hEven : Even c.length)
    (hRel : rel s₄ s₂) :
    RunsAgree rel unpairSlots (reduceIndex F₄ s₄ sum (pairSlots c))
      (reduceIndex F₂ s₂ sum c) := by
  obtain ⟨hRel', hSum, hOut⟩ :=
    visit_pairSlots hSplit c _ _ sum hEven (hSplit.pre s₄ s₂ hRel)
  exact ⟨hRel', by simp only [reduceIndex, hSum, hSplit.post _ _ _ hRel'], hOut⟩

/- A thread over indices read as `float4`s agrees with it over `double2`s. -/
theorem reduceThread_pairSlots
    (hSplit : Splits F₄ F₂ rel) :
    ∀ (cs : List (List (Slots (Double2 R)))) (s₄ : S₄) (s₂ : S₂) (sum : T),
      (∀ c ∈ cs, Even c.length) → rel s₄ s₂ →
      RunsAgree rel (fun l => l.map unpairSlots)
        (reduceThread F₄ s₄ sum (cs.map pairSlots)) (reduceThread F₂ s₂ sum cs)
  | [], _, _, _, _, hRel => ⟨hRel, rfl, rfl⟩
  | c :: cs, s₄, s₂, sum, hEven, hRel => by
      obtain ⟨hRel', hSum, hOut⟩ := reduceIndex_pairSlots hSplit c s₄ s₂ sum
        (hEven c (List.mem_cons_self _ _)) hRel
      obtain ⟨hRelTail, hSumTail, hOutTail⟩ := reduceThread_pairSlots hSplit cs
        _ _ _ (fun c hc => hEven c (List.mem_cons_of_mem _ hc)) hRel'
      simp only [reduceThread] at hRelTail hSumTail hOutTail ⊢
      rw [List.map_cons, visit_cons, visit_cons, ← hSum]
      exact ⟨hRelTail, hSumTail, by simp only [List.map_cons, hOut, hOutTail]⟩

end Runs

------------------------------------------------------------
-- Launches Agree
------------------------------------------------------------

section Launch

variable {S₄ S₂ T : Type}

/- `pre()` and `post()` do nothing, as in the base class. -/
def TrivialBrackets
    {S V : Type}
    (F : ReduceFunctor S V T) :
    Prop :=
  (∀ st, F.pre st = st) ∧ ∀ st sum, F.post st sum = sum

omit [LinearOrderedField R] in
theorem visit_append
    {S α : Type}
    (f : S → T → α → S × T × α) :
    ∀ (l₁ l₂ : List α) (st : S) (sum : T),
      visit f st sum (l₁ ++ l₂) =
        ((visit f (visit f st sum l₁).1 (visit f st sum l₁).2.1 l₂).1,
          (visit f (visit f st sum l₁).1 (visit f st sum l₁).2.1 l₂).2.1,
          (visit f st sum l₁).2.2 ++
            (visit f (visit f st sum l₁).1 (visit f st sum l₁).2.1 l₂).2.2)
  | [], _, _, _ => rfl
  | a :: l₁, l₂, st, sum => by
      rw [List.cons_append, visit_cons, visit_append f l₁ l₂, visit_cons]
      rfl

/-
  With empty brackets, how the elements are grouped into indices
  does not matter: a thread runs the M-loop over all of them.
-/
omit [LinearOrderedField R] in
theorem reduceThread_flatten
    {S V : Type}
    {F : ReduceFunctor S V T}
    (hF : TrivialBrackets F) :
    ∀ (cs : List (List (Slots V))) (st : S) (sum : T),
      RunsAgree Eq List.flatten (reduceThread F st sum cs)
        (visit F.op st sum cs.flatten)
  | [], _, _ => ⟨rfl, rfl, rfl⟩
  | c :: cs, st, sum => by
      obtain ⟨hState, hSum, hOut⟩ := reduceThread_flatten hF cs
        (visit F.op st sum c).1 (visit F.op st sum c).2.1
      simp only [reduceThread] at hState hSum hOut ⊢
      rw [List.flatten_cons, visit_append, visit_cons]
      simp only [reduceIndex, hF.1, hF.2]
      exact ⟨hState, hSum, by rw [List.flatten_cons, hOut]⟩

variable {F₄ : ReduceFunctor S₄ (Float4 R) T} {F₂ : ReduceFunctor S₂ (Double2 R) T}
variable {rel : S₄ → S₂ → Prop}

/-
  One rank's launch reads the same through `float4`s and through
  `double2`s, when every index is a whole number of `float4`s:
  site-unrolled with sites of even size, or one vector per index
  with empty brackets.
-/
theorem reduceRank_float4_eq_double2
    [AddCommMonoid T]
    (hSplit : Splits F₄ F₂ rel)
    (siteUnroll : Bool)
    (siteSize : Nat)
    (ops : Slots (List (Double2 R)))
    (hLength : Even (zip5 ops.x ops.y ops.z ops.w ops.v).length)
    (hSites : (siteUnroll = true ∧ Even siteSize ∧
        (zip5 ops.x ops.y ops.z ops.w ops.v ≠ [] → 0 < siteSize)) ∨
      (siteUnroll = false ∧ TrivialBrackets F₄ ∧ TrivialBrackets F₂)) :
    reduceRank F₄ siteUnroll siteSize ops = reduceRank F₂ siteUnroll siteSize ops := by
  rcases hSites with ⟨rfl, hEven, hPos⟩ | ⟨rfl, hBr₄, hBr₂⟩
  · obtain ⟨-, hSum, hOut⟩ := reduceThread_pairSlots hSplit
      (chunk siteSize (zip5 ops.x ops.y ops.z ops.w ops.v)) F₄.init F₂.init 0
      (chunk_even _ hEven _ hPos hLength) hSplit.init
    simp only [reduceRank, if_true, FloatN.load_float4, FloatN.load_double2,
      FloatN.save_float4, FloatN.save_double2, List.map_id, Prod.mk.injEq]
    beta_reduce at hOut
    exact ⟨hSum, by rw [hOut]⟩
  · have hChunks := chunk_even 2 even_two (zip5 ops.x ops.y ops.z ops.w ops.v)
      (fun _ => two_pos) hLength
    obtain ⟨-, hSum₄, hOut₄⟩ := reduceThread_flatten hBr₄
      ((chunk 2 (zip5 ops.x ops.y ops.z ops.w ops.v)).map pairSlots) F₄.init 0
    obtain ⟨-, hSum₂, hOut₂⟩ := reduceThread_flatten hBr₂
      (chunk 1 (zip5 ops.x ops.y ops.z ops.w ops.v)) F₂.init 0
    rw [pairSlots_flatten _ hChunks, flatten_chunk] at hSum₄ hOut₄
    rw [flatten_chunk] at hSum₂ hOut₂
    obtain ⟨-, hSum, hOut⟩ := visit_pairSlots hSplit _ F₄.init F₂.init 0
      hLength hSplit.init
    simp only [reduceRank, Bool.false_eq_true, if_false, FloatN.width_float4,
      FloatN.width_double2, FloatN.load_float4, FloatN.load_double2,
      FloatN.save_float4, FloatN.save_double2, List.map_id, Prod.mk.injEq]
    refine ⟨by rw [hSum₄, hSum₂, hSum], ?_⟩
    rw [← unpairSlots_flatten, hOut₄, hOut₂, hOut]

/-
  A launch over four-spin operands of matching lengths reads the
  same through `float4` as through `double2`: a site holds a whole
  number of `float4`s, and so does a rank's part of a field.
-/
theorem launch_float4_eq_double2
    {P : Nat}
    [AddCommMonoid T]
    {F : Reducer R T}
    {a b : Double2 R}
    {rel : F.State (Float4 R) → F.State (Double2 R) → Prop}
    (hSplit : Splits (F.functor (Float4 R) a b) (F.functor (Double2 R) a b) rel)
    (writes : Slots Bool)
    (siteUnroll : Bool)
    (fields : Slots (ColorSpinorField R P))
    (hSpin : fields.x.nSpin = 4)
    (hLengths : LengthsMatch fields)
    (hBrackets : siteUnroll = true ∨ (TrivialBrackets (F.functor (Float4 R) a b) ∧
      TrivialBrackets (F.functor (Double2 R) a b))) :
    launch F .float4 writes siteUnroll a b fields =
      launch F .double2 writes siteUnroll a b fields := by
  have hRank : ∀ p : Fin P,
      reduceRankAs F .float4 siteUnroll a b fields.x.siteSize (fields.map (·.data p)) =
        reduceRankAs F .double2 siteUnroll a b fields.x.siteSize
          (fields.map (·.data p)) := by
    intro p
    have hLength : (zip5 (fields.map (·.data p)).x (fields.map (·.data p)).y
        (fields.map (·.data p)).z (fields.map (·.data p)).w
        (fields.map (·.data p)).v).length = fields.x.volume * (4 * fields.x.nColor) := by
      rw [← hSpin, ← fields.x.length_data p]
      exact hLengths.length_zip5 p
    refine reduceRank_float4_eq_double2 hSplit _ _ _ ?_ ?_
    · rw [hLength]
      exact ((even_two.mul_right 2).mul_right _).mul_left _
    · cases siteUnroll with
      | false => exact .inr ⟨rfl, hBrackets.resolve_left Bool.false_ne_true⟩
      | true =>
        refine .inl ⟨rfl, ?_, fun hNil => ?_⟩
        · rw [ColorSpinorField.siteSize, hSpin]
          exact (even_two.mul_right 2).mul_right _
        · rw [ColorSpinorField.siteSize, hSpin]
          refine Nat.pos_of_ne_zero fun h0 => hNil (List.eq_nil_of_length_eq_zero ?_)
          rw [hLength, h0, Nat.mul_zero]
  simp only [launch, hRank]

/- Hence the dispatcher's choice of vector type by `x` changes nothing. -/
theorem launch_viewOf
    {P : Nat}
    [AddCommMonoid T]
    {F : Reducer R T}
    {a b : Double2 R}
    {rel : F.State (Float4 R) → F.State (Double2 R) → Prop}
    (hSplit : Splits (F.functor (Float4 R) a b) (F.functor (Double2 R) a b) rel)
    (writes : Slots Bool)
    (siteUnroll : Bool)
    (fields : Slots (ColorSpinorField R P))
    (hLengths : LengthsMatch fields)
    (hBrackets : siteUnroll = true ∨ (TrivialBrackets (F.functor (Float4 R) a b) ∧
      TrivialBrackets (F.functor (Double2 R) a b))) :
    launch F (viewOf fields.x) writes siteUnroll a b fields =
      launch F .double2 writes siteUnroll a b fields := by
  unfold viewOf
  split_ifs with hView
  · exact launch_float4_eq_double2 hSplit writes siteUnroll fields hView.2 hLengths hBrackets
  · rfl

end Launch

------------------------------------------------------------
-- The Catalog
------------------------------------------------------------

section Catalog

variable {T : Type} [AddCommMonoid T]

/-
  At coefficients `a, b`, `F` processes a `float4` element as its
  two halves in turn, and hence every launch at site-unrolling
  `siteUnroll` over four-spin operands of matching lengths returns
  the same result and stores the same operands through `float4`
  reads as through `double2` reads.
-/
def VectorWidthAgrees
    (F : Reducer R T)
    (siteUnroll : Bool)
    (a b : Double2 R) :
    Prop :=
  (∃ rel, Splits (F.functor (Float4 R) a b) (F.functor (Double2 R) a b) rel) ∧
    ∀ (P : Nat) (writes : Slots Bool) (fields : Slots (ColorSpinorField R P)),
      fields.x.nSpin = 4 → LengthsMatch fields →
        launch F .float4 writes siteUnroll a b fields =
          launch F .double2 writes siteUnroll a b fields

theorem VectorWidthAgrees.of_splits
    {F : Reducer R T}
    {siteUnroll : Bool}
    {a b : Double2 R}
    {rel : F.State (Float4 R) → F.State (Double2 R) → Prop}
    (hSplit : Splits (F.functor (Float4 R) a b) (F.functor (Double2 R) a b) rel)
    (hBrackets : siteUnroll = true ∨ (TrivialBrackets (F.functor (Float4 R) a b) ∧
      TrivialBrackets (F.functor (Double2 R) a b))) :
    VectorWidthAgrees F siteUnroll a b :=
  ⟨⟨rel, hSplit⟩, fun _ writes fields hSpin hLengths =>
    launch_float4_eq_double2 hSplit writes siteUnroll fields hSpin hLengths hBrackets⟩

/-
  Every functor of the catalog agrees across vector widths: the
  heavy-quark functors at the site-unrolled launch their wrappers
  make, the others, whose `pre()` and `post()` are empty, at any.
-/
theorem catalog_vectorWidth
    (a b : Double2 R)
    (siteUnroll : Bool) :
    VectorWidthAgrees (Norm1 : Reducer R R) siteUnroll a b ∧
    VectorWidthAgrees (Norm2 : Reducer R R) siteUnroll a b ∧
    VectorWidthAgrees (Dot : Reducer R R) siteUnroll a b ∧
    VectorWidthAgrees (axpbyzNorm2 : Reducer R R) siteUnroll a b ∧
    VectorWidthAgrees (AxpyReDot : Reducer R R) siteUnroll a b ∧
    VectorWidthAgrees (caxpyNorm2 : Reducer R R) siteUnroll a b ∧
    VectorWidthAgrees (caxpyxmaznormx : Reducer R R) siteUnroll a b ∧
    VectorWidthAgrees (cabxpyzaxnorm : Reducer R R) siteUnroll a b ∧
    VectorWidthAgrees (Cdot : Reducer R (Double2 R)) siteUnroll a b ∧
    VectorWidthAgrees (caxpydotzy : Reducer R (Double2 R)) siteUnroll a b ∧
    VectorWidthAgrees (CdotNormA : Reducer R (Double3 R)) siteUnroll a b ∧
    VectorWidthAgrees (caxpbypzYmbwcDotProductUYNormY_ : Reducer R (Double3 R))
      siteUnroll a b ∧
    VectorWidthAgrees (axpyCGNorm2 : Reducer R (Double2 R)) siteUnroll a b ∧
    VectorWidthAgrees (HeavyQuarkResidualNorm_ : Reducer R (Double3 R)) true a b ∧
    VectorWidthAgrees (xpyHeavyQuarkResidualNorm_ : Reducer R (Double3 R)) true a b ∧
    VectorWidthAgrees (tripleCGReduction_ : Reducer R (Double3 R)) siteUnroll a b ∧
    VectorWidthAgrees (quadrupleCGReduction_ : Reducer R (Double4 R)) siteUnroll a b ∧
    VectorWidthAgrees (quadrupleCG3InitNorm_ : Reducer R R) siteUnroll a b ∧
    VectorWidthAgrees (quadrupleCG3UpdateNorm_ : Reducer R R) siteUnroll a b ∧
    VectorWidthAgrees (doubleCG3InitNorm_ : Reducer R R) siteUnroll a b ∧
    VectorWidthAgrees (doubleCG3UpdateNorm_ : Reducer R R) siteUnroll a b := by
  obtain ⟨hNorm1, hNorm2, hDot, hAxpbyz, hAxpyReDot, hCaxpy, hCaxpyXmaz, hCabxpyz,
    hCdot, hCaxpyDot, hCdotNormA, hCaxpbypz, hAxpyCG, hHq, hXpyHq, hTriple,
    hQuadruple, hQ3Init, hQ3Update, hD3Init, hD3Update⟩ := catalog_splits a b
  refine ⟨.of_splits hNorm1 ?_, .of_splits hNorm2 ?_, .of_splits hDot ?_,
    .of_splits hAxpbyz ?_, .of_splits hAxpyReDot ?_, .of_splits hCaxpy ?_,
    .of_splits hCaxpyXmaz ?_, .of_splits hCabxpyz ?_, .of_splits hCdot ?_,
    .of_splits hCaxpyDot ?_, .of_splits hCdotNormA ?_, .of_splits hCaxpbypz ?_,
    .of_splits hAxpyCG ?_, .of_splits hHq (.inl rfl), .of_splits hXpyHq (.inl rfl),
    .of_splits hTriple ?_, .of_splits hQuadruple ?_, .of_splits hQ3Init ?_,
    .of_splits hQ3Update ?_, .of_splits hD3Init ?_, .of_splits hD3Update ?_⟩ <;>
  exact .inr ⟨⟨fun _ => rfl, fun _ _ => rfl⟩, fun _ => rfl, fun _ _ => rfl⟩

end Catalog

end Quda
