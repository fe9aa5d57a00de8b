import Mathlib.Data.List.Basic

/-!
# Runs of a labelled step function

A system is a function `step` from a state and a label to the next state; a label that the
state does not allow, or that crashes, is an error. All nondeterminism (the environment, the
scheduler) is in the choice of the labels, so a run is a list of labels.

Runs keep their history: the steps taken so far, latest first, each with the state it was
taken in. Four rules are proved once:

* `Run.invariant`: what holds at the start and is kept by every guarded step holds at the end
  of every run whose steps meet the guard;
* `Run.since`: what a step brings about and every step keeps holds from then on;
* `Run.forall_visited_iff`: where a step keeps a property exactly when it meets the guard, a
  property holds in all states of a run exactly when all its steps meet the guard;
* `Run.simulate`: a run of one system read through a projection is a run of another.
-/

namespace Transition

variable {σ ℓ ε σ' ℓ' ε' : Type}

/-- The runs of `step` from `s₀`: the history, latest step first, and the state reached. -/
inductive Run (step : σ → ℓ → Except ε σ) (s₀ : σ) : List (σ × ℓ) → σ → Prop
  | start : Run step s₀ [] s₀
  | next {hist : List (σ × ℓ)} {s s' : σ} {l : ℓ} :
      Run step s₀ hist s → step s l = .ok s' → Run step s₀ ((s, l) :: hist) s'

/-- The states that some run reaches. -/
def Reachable (step : σ → ℓ → Except ε σ) (s₀ s : σ) : Prop :=
  ∃ hist, Run step s₀ hist s

/-- The states a run goes through: the one it ends in and those its steps were taken in. -/
def visited (hist : List (σ × ℓ)) (s : σ) : List σ :=
  s :: hist.map Prod.fst

/-- Run a list of labels, earliest first, on from a history and its end. -/
def record (step : σ → ℓ → Except ε σ) (hist : List (σ × ℓ)) (s : σ) :
    List ℓ → Except ε (List (σ × ℓ) × σ)
  | [] => .ok (hist, s)
  | l :: ls =>
    match step s l with
    | .ok s' => record step ((s, l) :: hist) s' ls
    | .error e => .error e

/-- A computation that succeeds goes through a value of its first part. -/
lemma bind_ok {α β : Type} {x : Except ε α} {f : α → Except ε β} {b : β}
    (h : (x >>= f) = .ok b) : ∃ a, x = .ok a ∧ f a = .ok b := by
  cases x with
  | error e => cases h
  | ok a => exact ⟨a, rfl, h⟩

/-- A computation that fails does so in its first part, or after it. -/
lemma bind_error {α β : Type} {x : Except ε α} {f : α → Except ε β} {e : ε}
    (h : (x >>= f) = .error e) : x = .error e ∨ ∃ a, x = .ok a ∧ f a = .error e := by
  cases x with
  | error e' =>
    cases h
    exact Or.inl rfl
  | ok a => exact Or.inr ⟨a, rfl, h⟩

variable {step : σ → ℓ → Except ε σ} {s₀ : σ}

/-- **Invariant rule.** A property of the start that every guarded step keeps holds at the end
of a run whose steps all meet the guard. -/
theorem Run.invariant {I : σ → Prop} {G : σ → ℓ → Prop} (h₀ : I s₀)
    (hstep : ∀ {s l s'}, I s → G s l → step s l = .ok s' → I s')
    {hist : List (σ × ℓ)} {s : σ} (r : Run step s₀ hist s)
    (hG : ∀ x ∈ hist, G x.1 x.2) : I s := by
  induction r with
  | start => exact h₀
  | next r hs ih =>
    refine hstep (ih fun x hx => hG x (List.mem_cons_of_mem _ hx)) ?_ hs
    exact hG _ List.mem_cons_self

/-- The invariant rule with no guard, for reachable states. -/
theorem Reachable.invariant {I : σ → Prop} (h₀ : I s₀)
    (hstep : ∀ {s l s'}, I s → step s l = .ok s' → I s')
    {s : σ} (h : Reachable step s₀ s) : I s := by
  obtain ⟨hist, r⟩ := h
  exact r.invariant (G := fun _ _ => True) h₀ (fun hI _ hs => hstep hI hs) fun _ _ => trivial

lemma Run.reachable {hist : List (σ × ℓ)} {s : σ} (r : Run step s₀ hist s) :
    Reachable step s₀ s := ⟨hist, r⟩

/-- Every state a run goes through is the end of a run with a shorter history. -/
lemma Run.visited_run {hist : List (σ × ℓ)} {s x : σ} (r : Run step s₀ hist s)
    (hx : x ∈ visited hist s) : ∃ hist', hist' <:+ hist ∧ Run step s₀ hist' x := by
  induction r with
  | start =>
    rw [visited, List.map_nil, List.mem_singleton] at hx
    exact ⟨[], List.nil_suffix, hx ▸ .start⟩
  | @next hist s s' l r hs ih =>
    rcases List.mem_cons.mp hx with rfl | hx
    · exact ⟨(s, l) :: hist, List.suffix_rfl, .next r hs⟩
    · obtain ⟨hist', hsuf, r'⟩ := ih hx
      exact ⟨hist', hsuf.trans (List.suffix_cons _ _), r'⟩

lemma mem_visited_of_mem {hist : List (σ × ℓ)} {s : σ} {x : σ × ℓ} (hx : x ∈ hist) :
    x.1 ∈ visited hist s :=
  List.mem_cons_of_mem _ (List.mem_map_of_mem hx)

/-- A run from the state after a step is a run from the state before it. -/
lemma Run.after_step {hist : List (σ × ℓ)} {s s₁ : σ} {l : ℓ} (hl : step s₀ l = .ok s₁)
    (r : Run step s₁ hist s) : Run step s₀ (hist ++ [(s₀, l)]) s := by
  induction r with
  | start => exact .next .start hl
  | next r hs ih => exact .next ih hs

/-- A run goes on from where another one ends. -/
lemma Run.trans {hist hist' : List (σ × ℓ)} {s s' : σ} (r : Run step s₀ hist s)
    (r' : Run step s hist' s') : Run step s₀ (hist' ++ hist) s' := by
  induction r' with
  | start => exact r
  | next r' hs ih => exact .next ih hs

/-- A run, taken apart at one of its steps: what comes before the step is a run, and the step is
one of the system. -/
lemma Run.split {after before : List (σ × ℓ)} {s x : σ} {l : ℓ}
    (r : Run step s₀ (after ++ (x, l) :: before) s) :
    Run step s₀ before x ∧ ∃ x', step x l = .ok x' := by
  induction after generalizing s with
  | nil =>
    cases r with
    | next r hs => exact ⟨r, _, hs⟩
  | cons y after ih =>
    cases r with
    | next r hs => exact ih r

/-- Every step of a run is taken in a reachable state. -/
lemma Run.reachable_of_mem {hist : List (σ × ℓ)} {s : σ} {x : σ × ℓ} (r : Run step s₀ hist s)
    (hx : x ∈ hist) : Reachable step s₀ x.1 := by
  obtain ⟨after, before, rfl⟩ := List.append_of_mem hx
  exact r.split.1.reachable

/-- A step in the history of a run is a step of the system. -/
lemma Run.mem_step {hist : List (σ × ℓ)} {s x : σ} {l : ℓ} (r : Run step s₀ hist s)
    (hx : (x, l) ∈ hist) : ∃ x', step x l = .ok x' := by
  obtain ⟨after, before, rfl⟩ := List.append_of_mem hx
  exact r.split.2

/-- The state that a step in the history of a run leads to is one that the run goes through. -/
lemma Run.mem_visited {hist : List (σ × ℓ)} {s x : σ} {l : ℓ} (r : Run step s₀ hist s)
    (hx : (x, l) ∈ hist) : ∃ x' ∈ visited hist s, step x l = .ok x' := by
  induction r with
  | start => cases hx
  | @next hist s s' l' r hs ih =>
    rcases List.mem_cons.mp hx with he | hx
    · cases he
      exact ⟨s', List.mem_cons_self, hs⟩
    · obtain ⟨x', hmem, hstep⟩ := ih hx
      exact ⟨x', List.mem_cons_of_mem _ hmem, hstep⟩

/-- **Since rule.** What a step with `E` brings about and every step keeps holds from then on. -/
theorem Run.since {I P : σ → Prop} {E : σ → ℓ → Prop} (hI₀ : I s₀)
    (hI : ∀ {s l s'}, I s → step s l = .ok s' → I s')
    (hE : ∀ {s l s'}, I s → E s l → step s l = .ok s' → P s')
    (hP : ∀ {s l s'}, I s → P s → step s l = .ok s' → P s')
    {hist : List (σ × ℓ)} {s : σ} (r : Run step s₀ hist s) (h : ∃ x ∈ hist, E x.1 x.2) : P s := by
  induction r with
  | start =>
    obtain ⟨x, hx, -⟩ := h
    cases hx
  | @next hist s s' l r hs ih =>
    have hIs : I s := r.reachable.invariant hI₀ hI
    obtain ⟨x, hx, he⟩ := h
    rcases List.mem_cons.mp hx with rfl | hx
    · exact hE hIs he hs
    · exact hP hIs (ih ⟨x, hx, he⟩) hs

/-- **Exactness rule.** Where, in the states with `I`, a step with `H` keeps `P` exactly when it
meets the guard, `P` holds all along a run of such steps exactly when all its steps meet the
guard. -/
theorem Run.forall_visited_iff {I P : σ → Prop} {G H : σ → ℓ → Prop} (hI₀ : I s₀) (hP₀ : P s₀)
    (hI : ∀ {s l s'}, I s → step s l = .ok s' → I s')
    (hP : ∀ {s l s'}, I s → P s → H s l → step s l = .ok s' → (P s' ↔ G s l))
    {hist : List (σ × ℓ)} {s : σ} (r : Run step s₀ hist s) (hH : ∀ x ∈ hist, H x.1 x.2) :
    (∀ x ∈ visited hist s, P x) ↔ ∀ x ∈ hist, G x.1 x.2 := by
  induction r with
  | start => simpa [visited] using hP₀
  | @next hist s s' l r hs ih =>
    have hIs : I s := r.reachable.invariant hI₀ hI
    have hHs : H s l := hH (s, l) List.mem_cons_self
    have hvis : (∀ x ∈ visited ((s, l) :: hist) s', P x) ↔ P s' ∧ ∀ x ∈ visited hist s, P x := by
      simp [visited]
    rw [hvis, List.forall_mem_cons, ← ih fun x hx => hH x (List.mem_cons_of_mem _ hx)]
    -- `P s` is among the visited states, so the equivalence of the last step applies
    constructor
    · rintro ⟨hs', hall⟩
      exact ⟨(hP hIs (hall s List.mem_cons_self) hHs hs).mp hs', hall⟩
    · rintro ⟨hg, hall⟩
      exact ⟨(hP hIs (hall s List.mem_cons_self) hHs hs).mpr hg, hall⟩

/-- What a history says to an observer that sees states through `f` and steps through `ev`. -/
def observe (f : σ → σ') (ev : σ → ℓ → Option ℓ') (hist : List (σ × ℓ)) : List (σ' × ℓ') :=
  hist.filterMap fun x => (ev x.1 x.2).map fun e => (f x.1, e)

/-- The system stays where it is, or makes the step with the given label. -/
def Follows (step : σ → ℓ → Except ε σ) (s : σ) (e : Option ℓ) (s' : σ) : Prop :=
  match e with
  | none => s' = s
  | some e => step s e = .ok s'

/-- **Simulation rule.** If each step out of a state with the invariant `I` is seen through `f`
either as nothing or as the step of another system that `ev` names, every run is seen as a run
of that system. -/
theorem Run.simulate {step' : σ' → ℓ' → Except ε' σ'} {f : σ → σ'} {ev : σ → ℓ → Option ℓ'}
    {I : σ → Prop} (hI₀ : I s₀) (hI : ∀ {s l s'}, I s → step s l = .ok s' → I s')
    (hsim : ∀ {s l s'}, I s → step s l = .ok s' → Follows step' (f s) (ev s l) (f s'))
    {hist : List (σ × ℓ)} {s : σ} (r : Run step s₀ hist s) :
    Run step' (f s₀) (observe f ev hist) (f s) := by
  induction r with
  | start => exact .start
  | @next hist s s' l r hs ih =>
    have h := hsim (r.reachable.invariant hI₀ hI) hs
    cases hev : ev s l with
    | none =>
      rw [hev] at h
      have hobs : observe f ev ((s, l) :: hist) = observe f ev hist := by
        simp [observe, hev]
      rw [hobs, show f s' = f s from h]
      exact ih
    | some e =>
      rw [hev] at h
      have hobs : observe f ev ((s, l) :: hist) = (f s, e) :: observe f ev hist := by
        simp [observe, hev]
      rw [hobs]
      exact .next ih h

/-- The labels that an observer sees. -/
lemma observe_labels (f : σ → σ') (ev : σ → ℓ → Option ℓ') (hist : List (σ × ℓ)) :
    (observe f ev hist).map Prod.snd = hist.filterMap fun x => ev x.1 x.2 := by
  rw [observe, List.map_filterMap]
  refine List.filterMap_congr fun x _ => ?_
  rw [Option.map_map]
  exact congrFun Option.map_id _

/-- Two runs with the same labels go through the same states. -/
lemma Run.deterministic {hist hist' : List (σ × ℓ)} {s s' : σ} (r : Run step s₀ hist s)
    (r' : Run step s₀ hist' s') (h : hist.map Prod.snd = hist'.map Prod.snd) :
    hist = hist' ∧ s = s' := by
  induction r generalizing hist' s' with
  | start =>
    cases r' with
    | start => exact ⟨rfl, rfl⟩
    | next => cases h
  | @next hist s₁ s₂ l r hs ih =>
    cases r' with
    | start => cases h
    | @next hist' s₁' _ l' r' hs' =>
      rw [List.map_cons, List.map_cons, List.cons.injEq] at h
      obtain ⟨rfl, rfl⟩ := ih r' h.2
      obtain rfl : l = l' := h.1
      rw [hs] at hs'
      exact ⟨rfl, Except.ok.inj hs'⟩

/-- What `record` returns is a run. -/
lemma run_of_record {ls : List ℓ} {hist hist' : List (σ × ℓ)} {s s' : σ}
    (r : Run step s₀ hist s) (h : record step hist s ls = .ok (hist', s')) :
    Run step s₀ hist' s' := by
  induction ls generalizing s hist with
  | nil =>
    cases h
    exact r
  | cons l ls ih =>
    rw [record] at h
    cases hl : step s l with
    | error e => rw [hl] at h; cases h
    | ok s₁ =>
      rw [hl] at h
      exact ih (.next r hl) h

/-- Whether the labels make a run with the given property. -/
def tests (step : σ → ℓ → Except ε σ) (s₀ : σ) (ls : List ℓ)
    (f : List (σ × ℓ) → σ → Bool) : Bool :=
  match record step [] s₀ ls with
  | .ok (hist, s) => f hist s
  | .error _ => false

lemma run_of_tests (ls : List ℓ) (f : List (σ × ℓ) → σ → Bool)
    (h : tests step s₀ ls f = true) : ∃ hist s, Run step s₀ hist s ∧ f hist s = true := by
  unfold tests at h
  split at h
  · next hist s hr => exact ⟨hist, s, run_of_record .start hr, h⟩
  · cases h

end Transition
