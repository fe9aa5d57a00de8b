import Mathlib.Data.List.Basic

/-!
# Refinement of an abstract data type

An implementation is a state type with operations that return a result, or panic (`none`). A
specification is a relation between abstract states: what an operation may return and do.
`Refines` says that, through an abstraction function and under an invariant, every operation
returns, and does what the specification allows. `Refines.runAll` carries this to all sequences
of operations.
-/

namespace Refinement

/-- The operations of a list, in order: the results and the last state, unless one panics. -/
def runAll {σ ι ρ : Type} (apply : σ → ι → Option (ρ × σ)) : σ → List ι → Option (List ρ × σ)
  | s, [] => some ([], s)
  | s, i :: is =>
    match apply s i with
    | none => none
    | some (r, s') => (runAll apply s' is).map fun x => (r :: x.1, x.2)

/-- The results that a specification allows for a list of operations. -/
inductive Behaves {α ι ρ : Type} (spec : α → ι → ρ → α → Prop) : α → List ι → List ρ → α → Prop
  | nil (a : α) : Behaves spec a [] [] a
  | cons {a a' a'' : α} {i : ι} {r : ρ} {is : List ι} {rs : List ρ} :
      spec a i r a' → Behaves spec a' is rs a'' → Behaves spec a (i :: is) (r :: rs) a''

/-- From a state with the invariant, every operation returns, keeps the invariant, and does what
the specification says of the abstract state. -/
def Refines {σ α ι ρ : Type} (apply : σ → ι → Option (ρ × σ)) (I : σ → Prop) (abs : σ → α)
    (spec : α → ι → ρ → α → Prop) : Prop :=
  ∀ s i, I s → ∃ r s', apply s i = some (r, s') ∧ I s' ∧ spec (abs s) i r (abs s')

variable {σ α ι ρ : Type} {apply : σ → ι → Option (ρ × σ)} {I : σ → Prop} {abs : σ → α}
  {spec : α → ι → ρ → α → Prop}

/-- **Refinement rule.** No sequence of operations panics, and its results are those of a
behaviour of the specification. -/
theorem Refines.runAll (h : Refines apply I abs spec) (is : List ι) {s : σ} (hs : I s) :
    ∃ rs s', Refinement.runAll apply s is = some (rs, s') ∧ I s' ∧
      Behaves spec (abs s) is rs (abs s') := by
  induction is generalizing s with
  | nil => exact ⟨[], s, rfl, hs, .nil _⟩
  | cons i is ih =>
    obtain ⟨r, s₁, happly, hs₁, hspec⟩ := h s i hs
    obtain ⟨rs, s', hrun, hs', hbeh⟩ := ih hs₁
    refine ⟨r :: rs, s', ?_, hs', .cons hspec hbeh⟩
    rw [Refinement.runAll, happly]
    show (Refinement.runAll apply s₁ is).map _ = _
    rw [hrun]
    rfl

/-- **Invariants of a specification** hold after each of its behaviours. -/
theorem Behaves.invariant {P : α → Prop} (hP : ∀ {a i r a'}, P a → spec a i r a' → P a')
    {a a' : α} {is : List ι} {rs : List ρ} (h : Behaves spec a is rs a') (ha : P a) : P a' := by
  induction h with
  | nil => exact ha
  | cons hspec _ ih => exact ih (hP ha hspec)

end Refinement
