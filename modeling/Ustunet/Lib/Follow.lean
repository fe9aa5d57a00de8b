import Ustunet.Lib.Flow

/-!
# Parties that follow a run

A party, such as a task that uses a system, has a state of its own, which each step of a run moves
on. `follow` is its state at the end of a history, or `none` if some step is not one that the party
takes.

* `follow_sublist`: what the party has given away and what it still holds is, in order, among what
  it was given;
* `follow_exact_iff`: it is all of it exactly if no step has lost anything.
-/

namespace Transition

variable {σ ℓ τ β : Type}

/-- The state of a party at the end of a history, if the party takes all of its steps. -/
def follow (move : τ → σ → ℓ → Option τ) (t₀ : τ) : List (σ × ℓ) → Option τ
  | [] => some t₀
  | x :: hist => (follow move t₀ hist).bind fun t => move t x.1 x.2

variable {move : τ → σ → ℓ → Option τ} {t₀ t : τ} {hist : List (σ × ℓ)} {c : τ → List β}
  {into out : σ → ℓ → List β}

/-- The party has taken the last step from the state that it had before it. -/
lemma follow_cons {x : σ × ℓ} (h : follow move t₀ (x :: hist) = some t) :
    ∃ t', follow move t₀ hist = some t' ∧ move t' x.1 x.2 = some t :=
  Option.bind_eq_some_iff.mp h

/-- **What a party passes on.** If each step gives it `into`, takes `out` from it and may lose some
of what it holds, what was taken and what it holds is among what it was given, in order. -/
theorem follow_sublist (h : follow move t₀ hist = some t) (h₀ : c t₀ = [])
    (hmove : ∀ {t s l t'}, move t s l = some t' → (out s l ++ c t').Sublist (c t ++ into s l)) :
    (collect out hist ++ c t).Sublist (collect into hist) := by
  induction hist generalizing t with
  | nil =>
    obtain rfl := Option.some.inj h
    simp [h₀]
  | cons x hist ih =>
    obtain ⟨t', ht', hx⟩ := follow_cons h
    calc collect out (x :: hist) ++ c t
        = collect out hist ++ (out x.1 x.2 ++ c t) := by simp
      List.Sublist _ (collect out hist ++ (c t' ++ into x.1 x.2)) := (hmove hx).append_left _
      _ = (collect out hist ++ c t') ++ into x.1 x.2 := by simp
      List.Sublist _ (collect into hist ++ into x.1 x.2) := (ih ht').append_right _

/-- **Nothing is lost** exactly if each step loses nothing. -/
theorem follow_exact_iff {G : σ → ℓ → Prop} (h : follow move t₀ hist = some t) (h₀ : c t₀ = [])
    (hmove : ∀ {t s l t'}, move t s l = some t' → (out s l ++ c t').Sublist (c t ++ into s l))
    (hG : ∀ {t s l t'}, move t s l = some t' → (out s l ++ c t' = c t ++ into s l ↔ G s l)) :
    collect out hist ++ c t = collect into hist ↔ ∀ x ∈ hist, G x.1 x.2 := by
  induction hist generalizing t with
  | nil =>
    obtain rfl := Option.some.inj h
    simp [h₀]
  | cons x hist ih =>
    obtain ⟨t', ht', hx⟩ := follow_cons h
    have hsub : (collect out hist ++ c t').Sublist (collect into hist) :=
      follow_sublist ht' h₀ hmove
    rw [List.forall_mem_cons, ← ih ht', ← hG hx]
    constructor
    · intro heq
      -- nothing was lost in all, so neither before the step nor in it
      have hlen := congrArg List.length heq
      have hbefore := hsub.length_le
      have hstep := (hmove hx).length_le
      simp only [collect_cons, List.length_append] at hlen hbefore hstep
      refine ⟨(hmove hx).eq_of_length ?_, hsub.eq_of_length ?_⟩
      · rw [List.length_append, List.length_append]
        omega
      · rw [List.length_append]
        omega
    · rintro ⟨hlast, hall⟩
      rw [collect_cons, collect_cons, List.append_assoc, hlast, ← List.append_assoc, hall]

end Transition
