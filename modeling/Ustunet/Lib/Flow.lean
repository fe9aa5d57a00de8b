import Ustunet.Lib.Run
import Mathlib.Order.Defs.PartialOrder

/-!
# What a run puts out

`collect f hist` is what the steps of a run put out, earliest first. Three rules say what can be
told of it:

* `Run.conserves`: what goes through a first-in, first-out queue comes out once, in the order in
  which it went in, and the rest is in the queue (`Run.conserves_until`, if it may be reset);
* `Run.sublist`: what is kept of what went in is in the order in which it went in;
* `Run.sorted`: what is put out is sorted if it follows a quantity that never decreases.

Two bound how long something takes: `Run.budget` how often something can happen before it, and
`Run.served_within` how many elements of such a queue have come out.
-/

namespace Transition

variable {σ ℓ ε β σ' ℓ' : Type}

/-- What the steps of a run put out, earliest first. -/
def collect (f : σ → ℓ → List β) : List (σ × ℓ) → List β
  | [] => []
  | x :: hist => collect f hist ++ f x.1 x.2

@[simp] lemma collect_nil (f : σ → ℓ → List β) : collect f [] = [] := rfl

@[simp] lemma collect_cons (f : σ → ℓ → List β) (x : σ × ℓ) (hist : List (σ × ℓ)) :
    collect f (x :: hist) = collect f hist ++ f x.1 x.2 := rfl

lemma mem_collect {f : σ → ℓ → List β} {hist : List (σ × ℓ)} {b : β} :
    b ∈ collect f hist ↔ ∃ x ∈ hist, b ∈ f x.1 x.2 := by
  induction hist with
  | nil => simp
  | cons x hist ih => simp [ih, or_comm]

/-- What an observer of a run collects, collected from the run itself. -/
lemma collect_observe (f : σ' → ℓ' → List β) (g : σ → σ') (ev : σ → ℓ → Option ℓ')
    (hist : List (σ × ℓ)) :
    collect f (observe g ev hist)
      = collect (fun s l => ((ev s l).map (f (g s))).getD []) hist := by
  induction hist with
  | nil => rfl
  | cons x hist ih =>
    cases hev : ev x.1 x.2 with
    | none =>
      have hobs : observe g ev (x :: hist) = observe g ev hist := by simp [observe, hev]
      simp [hobs, ih, hev]
    | some e =>
      have hobs : observe g ev (x :: hist) = (g x.1, e) :: observe g ev hist := by
        simp [observe, hev]
      simp [hobs, ih, hev]

variable {step : σ → ℓ → Except ε σ} {s₀ s : σ} {hist : List (σ × ℓ)}

/-- **Conservation rule.** If every step takes `out` from the head of the queue `c` and appends
`into` to it, what has gone in is what has come out, in order, and then the queue. -/
theorem Run.conserves {c : σ → List β} {into out : σ → ℓ → List β} {I : σ → Prop} (hI₀ : I s₀)
    (hI : ∀ {s l s'}, I s → step s l = .ok s' → I s')
    (hstep : ∀ {s l s'}, I s → step s l = .ok s' → c s ++ into s l = out s l ++ c s')
    (r : Run step s₀ hist s) : c s₀ ++ collect into hist = collect out hist ++ c s := by
  induction r with
  | start => simp
  | @next hist s s' l r hs ih =>
    have hIs : I s := r.reachable.invariant hI₀ hI
    calc c s₀ ++ collect into ((s, l) :: hist)
        = (c s₀ ++ collect into hist) ++ into s l := by simp
      _ = (collect out hist ++ c s) ++ into s l := by rw [ih]
      _ = collect out hist ++ (out s l ++ c s') := by rw [List.append_assoc, hstep hIs hs]
      _ = collect out ((s, l) :: hist) ++ c s' := by simp

/-- **Conservation up to a reset.** As before, but a step may also throw the queue away, after which
nothing goes in any more. What has gone in is what has come out, in order, then what was thrown
away, then the queue. -/
theorem Run.conserves_until {c : σ → List β} {into out lost : σ → ℓ → List β} {closed I : σ → Prop}
    (hI₀ : I s₀) (h₀ : c s₀ = []) (hI : ∀ {s l s'}, I s → step s l = .ok s' → I s')
    (hstep : ∀ {s l s'}, I s → step s l = .ok s' →
      (c s ++ into s l = out s l ++ c s' ∧ lost s l = [] ∧ (closed s → closed s' ∧ into s l = [])) ∨
        (into s l = [] ∧ out s l = [] ∧ c s' = [] ∧ lost s l = c s ∧ closed s'))
    (r : Run step s₀ hist s) :
    collect into hist = collect out hist ++ collect lost hist ++ c s ∧
      (collect lost hist ≠ [] → closed s ∧ c s = []) := by
  induction r with
  | start => exact ⟨by simp [h₀], fun h => absurd rfl h⟩
  | @next hist s s' l r hs ih =>
    obtain ⟨hflow, hlost⟩ := ih
    have hIs : I s := r.reachable.invariant hI₀ hI
    rw [collect_cons, collect_cons, collect_cons, hflow]
    rcases hstep hIs hs with ⟨hmove, hnil, hclosed⟩ | ⟨hinto, hout, hnil, hdrop, hcl⟩
    · rw [hnil, List.append_nil]
      by_cases hl : collect lost hist = []
      · refine ⟨?_, fun h => absurd hl h⟩
        rw [hl, List.append_nil, List.append_nil, List.append_assoc, hmove, List.append_assoc]
      · -- the queue is empty, and nothing goes in
        obtain ⟨hcl, hempty⟩ := hlost hl
        obtain ⟨hcl', hinto⟩ := hclosed hcl
        rw [hempty, hinto, List.nil_append] at hmove
        obtain ⟨hout, hempty'⟩ := List.append_eq_nil_iff.mp hmove.symm
        rw [hempty, hinto, hout, hempty']
        exact ⟨by simp, fun _ => ⟨hcl', rfl⟩⟩
    · refine ⟨?_, fun _ => ⟨hcl, hnil⟩⟩
      rw [hinto, hout, hnil, hdrop]
      simp

/-- **Order rule.** If every step adds to the end of a list, and may leave some of it out, the list
is in the order in which its elements were added. -/
theorem Run.sublist {c : σ → List β} {into : σ → ℓ → List β} {I : σ → Prop} (hI₀ : I s₀)
    (hI : ∀ {s l s'}, I s → step s l = .ok s' → I s')
    (hstep : ∀ {s l s'}, I s → step s l = .ok s' → (c s').Sublist (c s ++ into s l))
    (r : Run step s₀ hist s) : (c s).Sublist (c s₀ ++ collect into hist) := by
  induction r with
  | start => simp
  | @next hist s s' l r hs ih =>
    have hIs : I s := r.reachable.invariant hI₀ hI
    rw [collect_cons, ← List.append_assoc]
    exact (hstep hIs hs).trans (ih.append_right _)

/-- **Sorting rule.** What a run puts out is sorted if each step puts out a sorted list between
the values that `m` has before and after it. `J` is a condition that holds all along a run that ends
with it. -/
theorem Run.sorted [Preorder β] {m : σ → β} {f : σ → ℓ → List β} {I J : σ → Prop} (hI₀ : I s₀)
    (hI : ∀ {s l s'}, I s → step s l = .ok s' → I s')
    (hJ : ∀ {s l s'}, I s → step s l = .ok s' → J s' → J s)
    (hm : ∀ {s l s'}, I s → J s' → step s l = .ok s' → m s ≤ m s')
    (hf : ∀ {s l s'}, I s → J s' → step s l = .ok s' →
      (f s l).Pairwise (· ≤ ·) ∧ ∀ b ∈ f s l, m s ≤ b ∧ b ≤ m s')
    (r : Run step s₀ hist s) (hs : J s) :
    (collect f hist).Pairwise (· ≤ ·) ∧ ∀ b ∈ collect f hist, b ≤ m s := by
  induction r with
  | start => simp
  | @next hist s s' l r hl ih =>
    have hIs : I s := r.reachable.invariant hI₀ hI
    obtain ⟨hsorted, hbound⟩ := ih (hJ hIs hl hs)
    obtain ⟨hnew, hbetween⟩ := hf hIs hs hl
    rw [collect_cons]
    refine ⟨List.pairwise_append.mpr ⟨hsorted, hnew, fun a ha b hb => ?_⟩, fun b hb => ?_⟩
    · exact le_trans (hbound a ha) (hbetween b hb).1
    · rcases List.mem_append.mp hb with hb | hb
      · exact le_trans (hbound b hb) (hm hIs hs hl)
      · exact (hbetween b hb).2

/-- **Budget rule.** `Φ` is a budget from which each tick takes one and to which only `into` adds.
Until `D` happens, there are no more ticks than the budget pays for. -/
theorem Run.budget (Φ : σ → ℕ) (tick : σ → ℓ → Bool) (into : σ → ℓ → List β) {D : σ → ℓ → Prop}
    {P : σ → Prop} (hP₀ : P s₀)
    (hstep : ∀ {s l s'}, P s → step s l = .ok s' →
      D s l ∨ (P s' ∧ Φ s' + (tick s l).toNat ≤ Φ s + (into s l).length))
    (r : Run step s₀ hist s) :
    (∃ x ∈ hist, D x.1 x.2) ∨
      (P s ∧ Φ s + hist.countP (fun x => tick x.1 x.2) ≤ Φ s₀ + (collect into hist).length) := by
  induction r with
  | start => exact Or.inr ⟨hP₀, by simp⟩
  | @next hist s s' l r hs ih =>
    rcases ih with ⟨x, hx, hD⟩ | ⟨hP, hle⟩
    · exact Or.inl ⟨x, List.mem_cons_of_mem _ hx, hD⟩
    rcases hstep hP hs with hD | ⟨hP', hcost⟩
    · exact Or.inl ⟨(s, l), List.mem_cons_self, hD⟩
    · refine Or.inr ⟨hP', ?_⟩
      rw [List.countP_cons, collect_cons, List.length_append]
      cases htick : tick s l with
      | false =>
        rw [htick] at hcost
        simp only [Bool.toNat_false] at hcost
        simp only [Bool.false_eq_true, if_false]
        omega
      | true =>
        rw [htick] at hcost
        simp only [Bool.toNat_true] at hcost
        simp only [if_true]
        omega

/-- **Service rule.** Every step takes `out` from the head of the queue `c` and may append to it,
and a `tick` that finds the queue not empty takes something. Then `n` ticks take at least the first
`n` elements that the queue had, in order. -/
theorem Run.served_within (c : σ → List β) (out : σ → ℓ → List β) (tick : σ → ℓ → Bool)
    {I : σ → Prop} {G : σ → ℓ → Prop} (hI₀ : I s₀)
    (hI : ∀ {s l s'}, I s → step s l = .ok s' → I s')
    (hmove : ∀ {s l s'}, I s → G s l → step s l = .ok s' →
      ∃ more, c s ++ more = out s l ++ c s')
    (htick : ∀ {s l s'}, I s → tick s l = true → c s ≠ [] → step s l = .ok s' → out s l ≠ [])
    (r : Run step s₀ hist s) (hG : ∀ x ∈ hist, G x.1 x.2) :
    (c s₀).take (hist.countP fun x => tick x.1 x.2) <+: collect out hist := by
  -- either each tick has taken something, or all that the queue had is out
  have hall : (∃ more, c s₀ ++ more = collect out hist ++ c s) ∧
      ((hist.countP fun x => tick x.1 x.2) ≤ (collect out hist).length ∨
        c s₀ <+: collect out hist) := by
    induction r with
    | start => exact ⟨⟨[], by simp⟩, Or.inl (Nat.zero_le _)⟩
    | @next hist s s' l r hs ih =>
      have hIs : I s := r.reachable.invariant hI₀ hI
      obtain ⟨⟨more, hflow⟩, hserved⟩ := ih fun x hx => hG x (List.mem_cons_of_mem _ hx)
      obtain ⟨more', happ⟩ := hmove hIs (hG _ List.mem_cons_self) hs
      rw [collect_cons, List.countP_cons, List.length_append]
      refine ⟨⟨more ++ more', ?_⟩, ?_⟩
      · rw [← List.append_assoc, hflow, List.append_assoc, happ, List.append_assoc]
      · rcases hserved with hle | hpre
        · by_cases ht : tick s l = true
          · rw [if_pos ht]
            by_cases hc : c s = []
            · rw [hc, List.append_nil] at hflow
              exact Or.inr ((hflow ▸ List.prefix_append _ more).trans (List.prefix_append _ _))
            · have hpos : 0 < (out s l).length := List.length_pos_iff.mpr (htick hIs ht hc hs)
              exact Or.inl (Nat.add_le_add hle hpos)
          · rw [if_neg ht]
            exact Or.inl (Nat.le_add_right_of_le hle)
        · exact Or.inr (hpre.trans (List.prefix_append _ _))
  obtain ⟨⟨more, hflow⟩, hle | hpre⟩ := hall
  · refine List.prefix_of_prefix_length_le ((List.take_prefix _ _).trans ⟨more, hflow⟩)
      (List.prefix_append _ _) ?_
    exact Nat.le_trans (List.length_take_le _ _) hle
  · exact (List.take_prefix _ _).trans hpre

end Transition
