import Ustunet.IoLoop
import Ustunet.Lib.Run

/-!
# What the selector delivers

`SelectorFuture` holds nothing but a reference to the `Selector`, so dropping one and making
another between two polls changes nothing: a history of a selector is a list of insertions and
polls. `selector_delivers` is about all of them.

To tell the futures of a history apart they are numbered in the order of their insertion, and the
surroundings keep a record of the polls. The selector is generic in its futures and sees neither
(`erase_poll`).
-/

namespace Ustunet

/-! ## Numbered futures -/

/-- A future with the number of its insertion. -/
structure Numbered (F : Type) where
  number : ℕ
  future : F

/-- Surroundings with a record of the polls, latest first: the number of the future, and whether
it was ready. -/
structure Logged (W : Type) where
  surroundings : W
  polls : List (ℕ × Bool)

instance {F W O : Type} [Future F W O] : Future (Numbered F) (Logged W) (ℕ × O) where
  poll f w :=
    match Future.poll f.future w.surroundings with
    | (.ready x, future, w') =>
      (.ready (f.number, x), { f with future }, ⟨w', (f.number, true) :: w.polls⟩)
    | (.pending, future, w') =>
      (.pending, { f with future }, ⟨w', (f.number, false) :: w.polls⟩)

/-- The futures that polls which returned `Pending` lead to. -/
inductive Advanced (W : Type) {F O : Type} [Future F W O] : F → F → Prop
  | refl (f : F) : Advanced W f f
  | poll {f g g' : F} {w w' : W} :
      Advanced W f g → Future.poll g w = (.pending, g', w') → Advanced W f g'

/-- The output is one that the future can come to. -/
def Completes (W : Type) {F O : Type} [Future F W O] (f : F) (x : O) : Prop :=
  ∃ (g g' : F) (w w' : W), Advanced W f g ∧ Future.poll g w = (.ready x, g', w')

section Slot

variable {F W O : Type} [Future F W O]

/-- What the poll of a slot does: nothing, if it is empty; else it polls the future in it, which
stays if it is pending and is taken out if it is ready. -/
inductive PollsSlot : Option (Numbered F) → Logged W → Option (ℕ × O) → Option (Numbered F) →
    Logged W → Prop
  | empty (w : Logged W) : PollsSlot none w none none w
  | pending {n : ℕ} {f f' : F} {w : Logged W} {w' : W}
      (h : Future.poll f w.surroundings = (.pending, f', w')) :
      PollsSlot (some ⟨n, f⟩) w none (some ⟨n, f'⟩) ⟨w', (n, false) :: w.polls⟩
  | ready {n : ℕ} {f f' : F} {x : O} {w : Logged W} {w' : W}
      (h : Future.poll f w.surroundings = (.ready x, f', w')) :
      PollsSlot (some ⟨n, f⟩) w (some (n, x)) none ⟨w', (n, true) :: w.polls⟩

lemma pollSlot_cases {slot slot' : Option (Numbered F)} {w w' : Logged W} {r : Option (ℕ × O)}
    (h : pollSlot slot w = (r, slot', w')) : PollsSlot slot w r slot' w' := by
  cases slot with
  | none =>
    cases h
    exact .empty w
  | some f =>
    obtain ⟨n, f⟩ := f
    generalize hp : Future.poll f w.surroundings = p
    obtain ⟨x, f', w₁⟩ := p
    cases x with
    | ready x =>
      simp only [pollSlot, Future.poll, hp] at h
      cases h
      exact .ready hp
    | pending =>
      simp only [pollSlot, Future.poll, hp] at h
      cases h
      exact .pending hp

/-- The numbers of the futures that were ready, latest first. -/
def readied (polls : List (ℕ × Bool)) : List ℕ := (polls.filter Prod.snd).map Prod.fst

lemma mem_readied {polls : List (ℕ × Bool)} {n : ℕ} : n ∈ readied polls ↔ (n, true) ∈ polls := by
  simp [readied]

/-- No future was polled after it was ready. -/
def NeverAgain (polls : List (ℕ × Bool)) : Prop :=
  polls.Pairwise fun later earlier => earlier.2 = true → later.1 ≠ earlier.1

lemma NeverAgain.nodup {polls : List (ℕ × Bool)} (h : NeverAgain polls) :
    (readied polls).Nodup := by
  unfold readied
  rw [List.Nodup, List.pairwise_map]
  refine (List.Pairwise.filter _ h).imp_of_mem fun {later earlier} _ he hne => ?_
  rw [List.mem_filter] at he
  exact hne he.2

/-- The bookkeeping of one slot, among all the futures inserted so far; `inj` marks those of the
slot. -/
structure SlotOk {X : Type} (inj : F → X) (inserted : List X) (slot : Option (Numbered F))
    (polls : List (ℕ × Bool)) : Prop where
  /-- What is in the slot was inserted into it, and has only been polled in vain since. -/
  held : ∀ f ∈ slot, ∃ f₀, inserted[f.number]? = some (inj f₀) ∧ Advanced W f₀ f.future
  waiting : ∀ f ∈ slot, (f.number, true) ∉ polls
  /-- What was inserted into the slot is still in it, or was ready. -/
  kept : ∀ n f₀, inserted[n]? = some (inj f₀) →
    (n, true) ∈ polls ∨ ∃ f ∈ slot, f.number = n

variable {X : Type} {inj : F → X} {inserted : List X} {slot slot' : Option (Numbered F)}
  {polls : List (ℕ × Bool)}

/-- A future that was inserted was ready, or it is in the slot, advanced by polls in vain. -/
lemma SlotOk.holds (h : SlotOk (W := W) inj inserted slot polls) (hinj : Function.Injective inj)
    {n : ℕ} {f₀ : F} (hn : inserted[n]? = some (inj f₀)) :
    (n, true) ∈ polls ∨ ∃ f, slot = some ⟨n, f⟩ ∧ Advanced W f₀ f := by
  rcases h.kept n f₀ hn with hold | ⟨⟨m, f⟩, hf, rfl⟩
  · exact Or.inl hold
  · obtain ⟨f₁, hf₁, hadv⟩ := h.held _ hf
    obtain rfl := hinj (Option.some.inj (hn.symm.trans hf₁))
    exact Or.inr ⟨f, hf, hadv⟩

/-- The bookkeeping of a slot does not change with the polls of other slots. -/
lemma SlotOk.other (h : SlotOk (W := W) inj inserted slot polls) {polls' : List (ℕ × Bool)}
    (hsub : ∀ p ∈ polls, p ∈ polls')
    (hnew : ∀ n, (n, true) ∈ polls' → (n, true) ∈ polls ∨ ∀ f₀, inserted[n]? ≠ some (inj f₀)) :
    SlotOk (W := W) inj inserted slot polls' where
  held := h.held
  waiting f hf hmem := by
    rcases hnew _ hmem with hold | hother
    · exact h.waiting f hf hold
    · obtain ⟨f₀, hf₀, -⟩ := h.held f hf
      exact hother f₀ hf₀
  kept n f₀ hn := (h.kept n f₀ hn).imp_left (hsub _)

/-- The slot that is polled. -/
lemma SlotOk.poll {w w' : Logged W} {r : Option (ℕ × O)}
    (h : SlotOk (W := W) inj inserted slot w.polls) (hp : PollsSlot slot w r slot' w') :
    SlotOk (W := W) inj inserted slot' w'.polls := by
  cases hp with
  | empty => exact h
  | @pending n f f' _ w₁ hf =>
    obtain ⟨f₀, hf₀, hadv⟩ := h.held _ rfl
    refine ⟨?_, ?_, ?_⟩
    · rintro g hg
      obtain rfl := Option.some.inj hg
      exact ⟨f₀, hf₀, hadv.poll hf⟩
    · rintro g hg hmem
      obtain rfl := Option.some.inj hg
      rcases List.mem_cons.mp hmem with he | hmem
      · cases he
      · exact h.waiting _ rfl hmem
    · intro m g hm
      rcases h.kept m g hm with hold | ⟨f, hf, rfl⟩
      · exact Or.inl (List.mem_cons_of_mem _ hold)
      · obtain rfl := Option.some.inj hf
        exact Or.inr ⟨_, rfl, rfl⟩
  | @ready n f f' x _ w₁ hf =>
    refine ⟨fun g hg => (by cases hg), fun g hg => (by cases hg), ?_⟩
    intro m g hm
    rcases h.kept m g hm with hold | ⟨f, hf, rfl⟩
    · exact Or.inl (List.mem_cons_of_mem _ hold)
    · obtain rfl := Option.some.inj hf
      exact Or.inl List.mem_cons_self

/-- What is added to the record by the poll of a slot. -/
lemma SlotOk.record {w w' : Logged W} {r : Option (ℕ × O)}
    (h : SlotOk (W := W) inj inserted slot w.polls) (hp : PollsSlot slot w r slot' w') :
    ∃ made, w'.polls = made ++ w.polls ∧
      ∀ p ∈ made, ∃ f₀, inserted[p.1]? = some (inj f₀) ∧ (p.1, true) ∉ w.polls := by
  cases hp with
  | empty => exact ⟨[], rfl, fun p hp => by cases hp⟩
  | pending | ready =>
    obtain ⟨f₀, hf₀, -⟩ := h.held _ rfl
    refine ⟨[_], rfl, fun p hp => ?_⟩
    obtain rfl := List.mem_singleton.mp hp
    exact ⟨f₀, hf₀, h.waiting _ rfl⟩

/-- A future that is polled was not ready before, so the record stays in order. -/
lemma SlotOk.neverAgain {w w' : Logged W} {r : Option (ℕ × O)}
    (h : SlotOk (W := W) inj inserted slot w.polls) (hn : NeverAgain w.polls)
    (hp : PollsSlot slot w r slot' w') : NeverAgain w'.polls := by
  cases hp with
  | empty => exact hn
  | pending | ready =>
    refine List.Pairwise.cons ?_ hn
    rintro ⟨m, b⟩ hmem rfl rfl
    exact h.waiting _ rfl hmem

/-- A future that is taken out was inserted into the slot, and this is its output. -/
lemma SlotOk.completes {w w' : Logged W} {n : ℕ} {x : O}
    (h : SlotOk (W := W) inj inserted slot w.polls)
    (hp : PollsSlot slot w (some (n, x)) slot' w') :
    ∃ f₀, inserted[n]? = some (inj f₀) ∧ Completes W f₀ x := by
  cases hp with
  | ready hf =>
    obtain ⟨f₀, hf₀, hadv⟩ := h.held _ rfl
    exact ⟨f₀, hf₀, _, _, _, _, hadv, hf⟩

/-- The bookkeeping of a slot that is not polled. -/
lemma SlotOk.frame {G P : Type} [Future G W P] {injG : G → X} {slotG : Option (Numbered G)}
    {w w' : Logged W} {r : Option (ℕ × O)} (hG : SlotOk (W := W) injG inserted slotG w.polls)
    (h : SlotOk (W := W) inj inserted slot w.polls) (hne : ∀ f g, inj f ≠ injG g)
    (hp : PollsSlot slot w r slot' w') : SlotOk (W := W) injG inserted slotG w'.polls := by
  obtain ⟨made, hmade, hslot⟩ := h.record hp
  rw [hmade]
  refine hG.other (fun p hp => List.mem_append_right _ hp) fun n hn => ?_
  rcases List.mem_append.mp hn with hn | hn
  · obtain ⟨f₀, hf₀, -⟩ := hslot _ hn
    refine Or.inr fun g hg => hne f₀ g ?_
    exact Option.some.inj (hf₀.symm.trans hg)
  · exact Or.inl hn

/-- A future goes into a free slot, with the next number. -/
lemma SlotOk.insert (h : SlotOk (W := W) inj inserted none polls)
    (hbound : ∀ p ∈ polls, p.1 < inserted.length) (f : F) :
    SlotOk (W := W) inj (inserted ++ [inj f]) (some ⟨inserted.length, f⟩) polls where
  held g hg := by
    obtain rfl := Option.some.inj hg
    exact ⟨f, by simp, .refl f⟩
  waiting g hg hmem := by
    obtain rfl := Option.some.inj hg
    exact lt_irrefl _ (hbound _ hmem)
  kept n f₀ hn := by
    by_cases hlt : n < inserted.length
    · rw [List.getElem?_append_left hlt] at hn
      rcases h.kept n f₀ hn with hold | ⟨g, hg, -⟩
      · exact Or.inl hold
      · cases hg
    · have hle : n < (inserted ++ [inj f]).length := (List.getElem?_eq_some_iff.mp hn).1
      rw [List.length_append, List.length_singleton] at hle
      refine Or.inr ⟨_, rfl, ?_⟩
      show inserted.length = n
      omega

/-- A future goes into another slot. -/
lemma SlotOk.insert_other (h : SlotOk (W := W) inj inserted slot polls) {x : X}
    (hne : ∀ f, x ≠ inj f) : SlotOk (W := W) inj (inserted ++ [x]) slot polls where
  held g hg := by
    obtain ⟨f₀, hf₀, hadv⟩ := h.held g hg
    refine ⟨f₀, ?_, hadv⟩
    rw [List.getElem?_append_left (List.getElem?_eq_some_iff.mp hf₀).1]
    exact hf₀
  waiting := h.waiting
  kept n f₀ hn := by
    by_cases hlt : n < inserted.length
    · rw [List.getElem?_append_left hlt] at hn
      exact h.kept n f₀ hn
    · rw [List.getElem?_append_right (Nat.le_of_not_lt hlt), List.getElem?_singleton] at hn
      split at hn
      · exact absurd (Option.some.inj hn) (hne f₀)
      · cases hn

lemma PollsSlot.number {w w' : Logged W} (hp : PollsSlot slot w none slot' w') :
    slot'.map Numbered.number = slot.map Numbered.number := by
  cases hp <;> rfl

lemma PollsSlot.number_ready {w w' : Logged W} {n : ℕ} {x : O}
    (hp : PollsSlot slot w (some (n, x)) slot' w') :
    slot.map Numbered.number = some n ∧ slot'.map Numbered.number = none := by
  cases hp
  exact ⟨rfl, rfl⟩

/-- A slot that did not have anything ready was polled, if there was something in it. -/
lemma PollsSlot.made {w w' : Logged W} (hp : PollsSlot slot w none slot' w') :
    w'.polls = (slot.map fun f => (f.number, false)).toList ++ w.polls := by
  cases hp <;> rfl

lemma PollsSlot.readied {w w' : Logged W} {r : Option (ℕ × O)}
    (hp : PollsSlot slot w r slot' w') :
    Ustunet.readied w'.polls = (r.map Prod.fst).toList ++ Ustunet.readied w.polls := by
  cases hp <;> rfl

end Slot

/-! ## The four slots -/

/-- The name of a slot. -/
inductive Slot
  | a | b | c | d
deriving DecidableEq

def Selected.slot {A B C D : Type} : Selected A B C D → Slot
  | .a _ => .a
  | .b _ => .b
  | .c _ => .c
  | .d _ => .d

/-- The number of the future whose output was selected. -/
def Selected.number {A B C D : Type} : Selected (ℕ × A) (ℕ × B) (ℕ × C) (ℕ × D) → ℕ
  | .a x => x.1
  | .b x => x.1
  | .c x => x.1
  | .d x => x.1

namespace Selector

variable {A B C D W OA OB OC OD : Type}

/-- The number of the future in a slot. -/
def numberAt (sel : Selector (Numbered A) (Numbered B) (Numbered C) (Numbered D)) :
    Slot → Option ℕ
  | .a => sel.a.map Numbered.number
  | .b => sel.b.map Numbered.number
  | .c => sel.c.map Numbered.number
  | .d => sel.d.map Numbered.number

/-- The selector without the numbers. -/
def erase (sel : Selector (Numbered A) (Numbered B) (Numbered C) (Numbered D)) :
    Selector A B C D :=
  ⟨sel.a.map Numbered.future, sel.b.map Numbered.future, sel.c.map Numbered.future,
    sel.d.map Numbered.future⟩

variable [Future A W OA] [Future B W OB] [Future C W OC] [Future D W OD]

/-- What a poll does: it polls the slots in order, up to the first future that is ready. -/
inductive Polls (sel : Selector A B C D) (w : W) :
    Poll (Selected OA OB OC OD) → Selector A B C D → W → Prop
  | a {x : OA} {a : Option A} {w₁ : W} (ha : pollSlot sel.a w = (some x, a, w₁)) :
      Polls sel w (.ready (.a x)) { sel with a } w₁
  | b {x : OB} {a : Option A} {b : Option B} {w₁ w₂ : W}
      (ha : pollSlot sel.a w = (none, a, w₁)) (hb : pollSlot sel.b w₁ = (some x, b, w₂)) :
      Polls sel w (.ready (.b x)) { sel with a, b } w₂
  | c {x : OC} {a : Option A} {b : Option B} {c : Option C} {w₁ w₂ w₃ : W}
      (ha : pollSlot sel.a w = (none, a, w₁)) (hb : pollSlot sel.b w₁ = (none, b, w₂))
      (hc : pollSlot sel.c w₂ = (some x, c, w₃)) :
      Polls sel w (.ready (.c x)) { sel with a, b, c } w₃
  | d {x : OD} {a : Option A} {b : Option B} {c : Option C} {d : Option D} {w₁ w₂ w₃ w₄ : W}
      (ha : pollSlot sel.a w = (none, a, w₁)) (hb : pollSlot sel.b w₁ = (none, b, w₂))
      (hc : pollSlot sel.c w₂ = (none, c, w₃)) (hd : pollSlot sel.d w₃ = (some x, d, w₄)) :
      Polls sel w (.ready (.d x)) ⟨a, b, c, d⟩ w₄
  | pending {a : Option A} {b : Option B} {c : Option C} {d : Option D} {w₁ w₂ w₃ w₄ : W}
      (ha : pollSlot sel.a w = (none, a, w₁)) (hb : pollSlot sel.b w₁ = (none, b, w₂))
      (hc : pollSlot sel.c w₂ = (none, c, w₃)) (hd : pollSlot sel.d w₃ = (none, d, w₄)) :
      Polls sel w .pending ⟨a, b, c, d⟩ w₄

lemma poll_cases {sel sel' : Selector A B C D} {w w' : W} {r : Poll (Selected OA OB OC OD)}
    (h : sel.poll w = (r, sel', w')) : Polls sel w r sel' w' := by
  unfold poll at h
  split at h
  · next ha =>
    cases h
    exact .a ha
  · next ha =>
    split at h
    · next hb =>
      cases h
      exact .b ha hb
    · next hb =>
      split at h
      · next hc =>
        cases h
        exact .c ha hb hc
      · next hc =>
        split at h
        · next hd =>
          cases h
          exact .d ha hb hc hd
        · next hd =>
          cases h
          exact .pending ha hb hc hd

/-- The output without the number. -/
def eraseOutput :
    Poll (Selected (ℕ × OA) (ℕ × OB) (ℕ × OC) (ℕ × OD)) → Poll (Selected OA OB OC OD)
  | .ready (.a x) => .ready (.a x.2)
  | .ready (.b x) => .ready (.b x.2)
  | .ready (.c x) => .ready (.c x.2)
  | .ready (.d x) => .ready (.d x.2)
  | .pending => .pending

lemma erase_pollSlot {F O : Type} [Future F W O] {slot slot' : Option (Numbered F)}
    {w w' : Logged W} {r : Option (ℕ × O)} (h : pollSlot slot w = (r, slot', w')) :
    pollSlot (slot.map Numbered.future) w.surroundings
      = (r.map Prod.snd, slot'.map Numbered.future, w'.surroundings) := by
  cases pollSlot_cases h with
  | empty => rfl
  | pending hf | ready hf =>
    simp only [Option.map_some, pollSlot, hf]
    rfl

/-- **The selector does not see the numbers.** -/
lemma erase_poll {sel sel' : Selector (Numbered A) (Numbered B) (Numbered C) (Numbered D)}
    {w w' : Logged W} {r : Poll (Selected (ℕ × OA) (ℕ × OB) (ℕ × OC) (ℕ × OD))}
    (h : sel.poll w = (r, sel', w')) :
    sel.erase.poll w.surroundings = (eraseOutput r, sel'.erase, w'.surroundings) := by
  unfold poll erase
  cases poll_cases h with
  | a ha => simp only [erase_pollSlot ha, Option.map_some, eraseOutput]
  | b ha hb =>
    simp only [erase_pollSlot ha, erase_pollSlot hb, Option.map_none, Option.map_some, eraseOutput]
  | c ha hb hc =>
    simp only [erase_pollSlot ha, erase_pollSlot hb, erase_pollSlot hc, Option.map_none,
      Option.map_some, eraseOutput]
  | d ha hb hc hd =>
    simp only [erase_pollSlot ha, erase_pollSlot hb, erase_pollSlot hc, erase_pollSlot hd,
      Option.map_none, Option.map_some, eraseOutput]
  | pending ha hb hc hd =>
    simp only [erase_pollSlot ha, erase_pollSlot hb, erase_pollSlot hc, erase_pollSlot hd,
      Option.map_none, eraseOutput]

end Selector

/-! ## Histories of a selector -/

/-- A selector with its history: what was inserted, in order, so that the position of a future is
its number; the record of the polls; and what the polls returned, latest first. -/
structure Session (A B C D OA OB OC OD : Type) where
  selector : Selector (Numbered A) (Numbered B) (Numbered C) (Numbered D)
  inserted : List (Selected A B C D)
  polls : List (ℕ × Bool)
  returned : List (Selected (ℕ × OA) (ℕ × OB) (ℕ × OC) (ℕ × OD))

namespace Session

variable {A B C D W OA OB OC OD : Type}

def init : Session A B C D OA OB OC OD := ⟨.new, [], [], []⟩

/-- `insert_a` to `insert_d`: the slot has to be free. -/
def insert (s : Session A B C D OA OB OC OD) (f : Selected A B C D) :
    Except Stop (Session A B C D OA OB OC OD) :=
  let number := s.inserted.length
  let inserted := s.inserted ++ [f]
  match f with
  | .a f => do
    let a ← fillSlot s.selector.a ⟨number, f⟩
    return { s with selector := { s.selector with a }, inserted }
  | .b f => do
    let b ← fillSlot s.selector.b ⟨number, f⟩
    return { s with selector := { s.selector with b }, inserted }
  | .c f => do
    let c ← fillSlot s.selector.c ⟨number, f⟩
    return { s with selector := { s.selector with c }, inserted }
  | .d f => do
    let d ← fillSlot s.selector.d ⟨number, f⟩
    return { s with selector := { s.selector with d }, inserted }

variable [Future A W OA] [Future B W OB] [Future C W OC] [Future D W OD]

/-- One poll of a `SelectorFuture`, in surroundings that may be any. -/
def poll (s : Session A B C D OA OB OC OD) (w : W) : Session A B C D OA OB OC OD :=
  let (r, selector, w') := s.selector.poll (⟨w, s.polls⟩ : Logged W)
  { s with
    selector, polls := w'.polls
    returned := match r with
      | .ready x => x :: s.returned
      | .pending => s.returned }

/-- An insertion, or a poll. -/
inductive Op (A B C D W : Type)
  | insert (f : Selected A B C D)
  | poll (w : W)

def step (s : Session A B C D OA OB OC OD) (op : Op A B C D W) :
    Except Stop (Session A B C D OA OB OC OD) :=
  match op with
  | .insert f => s.insert f
  | .poll w => .ok (s.poll w)

/-! ### The bookkeeping -/

/-- What was returned is the output of the future with that number, which was inserted into the
slot of the tag. -/
def Delivered (W : Type) [Future A W OA] [Future B W OB] [Future C W OC] [Future D W OD]
    (inserted : List (Selected A B C D)) :
    Selected (ℕ × OA) (ℕ × OB) (ℕ × OC) (ℕ × OD) → Prop
  | .a x => ∃ f, inserted[x.1]? = some (.a f) ∧ Completes W f x.2
  | .b x => ∃ f, inserted[x.1]? = some (.b f) ∧ Completes W f x.2
  | .c x => ∃ f, inserted[x.1]? = some (.c f) ∧ Completes W f x.2
  | .d x => ∃ f, inserted[x.1]? = some (.d f) ∧ Completes W f x.2

/-- The bookkeeping of the slots. -/
structure SlotsOk (W : Type) [Future A W OA] [Future B W OB] [Future C W OC] [Future D W OD]
    (inserted : List (Selected A B C D))
    (sel : Selector (Numbered A) (Numbered B) (Numbered C) (Numbered D))
    (polls : List (ℕ × Bool)) : Prop where
  a : SlotOk (W := W) Selected.a inserted sel.a polls
  b : SlotOk (W := W) Selected.b inserted sel.b polls
  c : SlotOk (W := W) Selected.c inserted sel.c polls
  d : SlotOk (W := W) Selected.d inserted sel.d polls
  bound : ∀ p ∈ polls, p.1 < inserted.length
  once : NeverAgain polls

section Slots

variable {inserted : List (Selected A B C D)}
  {sel : Selector (Numbered A) (Numbered B) (Numbered C) (Numbered D)} {w w' : Logged W}

/-- Only futures that were inserted are polled. -/
private lemma bound_of_polls {F O : Type} [Future F W O] {inj : F → Selected A B C D}
    {slot slot' : Option (Numbered F)} {r : Option (ℕ × O)}
    (h : SlotOk (W := W) inj inserted slot w.polls)
    (hb : ∀ p ∈ w.polls, p.1 < inserted.length) (hp : PollsSlot slot w r slot' w') :
    ∀ p ∈ w'.polls, p.1 < inserted.length := by
  obtain ⟨made, hmade, hslot⟩ := h.record hp
  intro p hmem
  rw [hmade] at hmem
  rcases List.mem_append.mp hmem with hmem | hmem
  · obtain ⟨f, hf, -⟩ := hslot p hmem
    exact (List.getElem?_eq_some_iff.mp hf).1
  · exact hb p hmem

lemma SlotsOk.pollA (h : SlotsOk W inserted sel w.polls) {r : Option (ℕ × OA)}
    {a : Option (Numbered A)} (hp : PollsSlot sel.a w r a w') :
    SlotsOk W inserted { sel with a } w'.polls where
  a := h.a.poll hp
  b := h.b.frame h.a (by simp) hp
  c := h.c.frame h.a (by simp) hp
  d := h.d.frame h.a (by simp) hp
  bound := bound_of_polls h.a h.bound hp
  once := h.a.neverAgain h.once hp

lemma SlotsOk.pollB (h : SlotsOk W inserted sel w.polls) {r : Option (ℕ × OB)}
    {b : Option (Numbered B)} (hp : PollsSlot sel.b w r b w') :
    SlotsOk W inserted { sel with b } w'.polls where
  a := h.a.frame h.b (by simp) hp
  b := h.b.poll hp
  c := h.c.frame h.b (by simp) hp
  d := h.d.frame h.b (by simp) hp
  bound := bound_of_polls h.b h.bound hp
  once := h.b.neverAgain h.once hp

lemma SlotsOk.pollC (h : SlotsOk W inserted sel w.polls) {r : Option (ℕ × OC)}
    {c : Option (Numbered C)} (hp : PollsSlot sel.c w r c w') :
    SlotsOk W inserted { sel with c } w'.polls where
  a := h.a.frame h.c (by simp) hp
  b := h.b.frame h.c (by simp) hp
  c := h.c.poll hp
  d := h.d.frame h.c (by simp) hp
  bound := bound_of_polls h.c h.bound hp
  once := h.c.neverAgain h.once hp

lemma SlotsOk.pollD (h : SlotsOk W inserted sel w.polls) {r : Option (ℕ × OD)}
    {d : Option (Numbered D)} (hp : PollsSlot sel.d w r d w') :
    SlotsOk W inserted { sel with d } w'.polls where
  a := h.a.frame h.d (by simp) hp
  b := h.b.frame h.d (by simp) hp
  c := h.c.frame h.d (by simp) hp
  d := h.d.poll hp
  bound := bound_of_polls h.d h.bound hp
  once := h.d.neverAgain h.once hp

/-- A poll that returns an output has taken its future out; the other slots keep theirs. -/
structure Takes (sel sel' : Selector (Numbered A) (Numbered B) (Numbered C) (Numbered D))
    (x : Selected (ℕ × OA) (ℕ × OB) (ℕ × OC) (ℕ × OD)) : Prop where
  was : sel.numberAt x.slot = some x.number
  free : sel'.numberAt x.slot = none
  others : ∀ slot, slot ≠ x.slot → sel'.numberAt slot = sel.numberAt slot

/-- A poll that returns `Pending` has polled every future, all in vain, and keeps them all. -/
structure Waits (sel sel' : Selector (Numbered A) (Numbered B) (Numbered C) (Numbered D))
    (polls polls' : List (ℕ × Bool)) : Prop where
  keeps : ∀ slot, sel'.numberAt slot = sel.numberAt slot
  polled : ∃ made, polls' = made ++ polls ∧ (∀ p ∈ made, p.2 = false) ∧
    ∀ slot n, sel.numberAt slot = some n → (n, false) ∈ made

/-- What a poll does, with the bookkeeping. -/
structure Outcome (W : Type) [Future A W OA] [Future B W OB] [Future C W OC] [Future D W OD]
    (inserted : List (Selected A B C D))
    (sel sel' : Selector (Numbered A) (Numbered B) (Numbered C) (Numbered D))
    (polls polls' : List (ℕ × Bool))
    (r : Poll (Selected (ℕ × OA) (ℕ × OB) (ℕ × OC) (ℕ × OD))) : Prop where
  ready : ∀ x, r = .ready x → readied polls' = x.number :: readied polls ∧
    Delivered W inserted x ∧ Takes sel sel' x
  pending : r = .pending → readied polls' = readied polls ∧ Waits sel sel' polls polls'

/-- Four slots that are polled in vain. -/
lemma Waits.of_polls {a : Option (Numbered A)} {b : Option (Numbered B)} {c : Option (Numbered C)}
    {d : Option (Numbered D)} {w₁ w₂ w₃ : Logged W}
    (pa : PollsSlot sel.a w none a w₁) (pb : PollsSlot sel.b w₁ none b w₂)
    (pc : PollsSlot sel.c w₂ none c w₃) (pd : PollsSlot sel.d w₃ none d w') :
    Waits sel ⟨a, b, c, d⟩ w.polls w'.polls where
  keeps slot := by
    cases slot with
    | a => exact pa.number
    | b => exact pb.number
    | c => exact pc.number
    | d => exact pd.number
  polled := by
    rw [pd.made, pc.made, pb.made, pa.made]
    simp only [← List.append_assoc]
    refine ⟨_, rfl, ?_, ?_⟩
    · intro p hmem
      simp only [List.mem_append, Option.mem_toList, Option.map_eq_some_iff] at hmem
      rcases hmem with ((⟨f, -, rfl⟩ | ⟨f, -, rfl⟩) | ⟨f, -, rfl⟩) | ⟨f, -, rfl⟩ <;> rfl
    · intro slot n hn
      simp only [List.mem_append, Option.mem_toList, Option.map_eq_some_iff, Prod.mk.injEq,
        and_true]
      cases slot with
      | a => exact Or.inr (Option.map_eq_some_iff.mp hn)
      | b => exact Or.inl (Or.inr (Option.map_eq_some_iff.mp hn))
      | c => exact Or.inl (Or.inl (Or.inr (Option.map_eq_some_iff.mp hn)))
      | d => exact Or.inl (Or.inl (Or.inl (Option.map_eq_some_iff.mp hn)))

/-- The poll of a selector, as a sequence of polls of its slots. -/
lemma SlotsOk.poll {sel' : Selector (Numbered A) (Numbered B) (Numbered C) (Numbered D)}
    {r : Poll (Selected (ℕ × OA) (ℕ × OB) (ℕ × OC) (ℕ × OD))}
    (h : SlotsOk W inserted sel w.polls) (hp : sel.poll w = (r, sel', w')) :
    SlotsOk W inserted sel' w'.polls ∧
      Outcome W inserted sel sel' w.polls w'.polls r := by
  cases Selector.poll_cases hp with
  | a ha =>
    have pa := pollSlot_cases ha
    refine ⟨h.pollA pa, ?_, fun he => by cases he⟩
    rintro _ ⟨⟩
    refine ⟨pa.readied, h.a.completes pa, pa.number_ready.1, pa.number_ready.2, ?_⟩
    intro slot hne
    cases slot with
    | a => exact absurd rfl hne
    | b | c | d => rfl
  | b ha hb =>
    have pa := pollSlot_cases ha
    have pb := pollSlot_cases hb
    have h₁ := h.pollA pa
    refine ⟨h₁.pollB pb, ?_, fun he => by cases he⟩
    rintro _ ⟨⟩
    refine ⟨?_, h₁.b.completes pb, pb.number_ready.1, pb.number_ready.2, ?_⟩
    · rw [pb.readied, pa.readied]
      rfl
    · intro slot hne
      cases slot with
      | a => exact pa.number
      | b => exact absurd rfl hne
      | c | d => rfl
  | c ha hb hc =>
    have pa := pollSlot_cases ha
    have pb := pollSlot_cases hb
    have pc := pollSlot_cases hc
    have h₂ := (h.pollA pa).pollB pb
    refine ⟨h₂.pollC pc, ?_, fun he => by cases he⟩
    rintro _ ⟨⟩
    refine ⟨?_, h₂.c.completes pc, pc.number_ready.1, pc.number_ready.2, ?_⟩
    · rw [pc.readied, pb.readied, pa.readied]
      rfl
    · intro slot hne
      cases slot with
      | a => exact pa.number
      | b => exact pb.number
      | c => exact absurd rfl hne
      | d => rfl
  | d ha hb hc hd =>
    have pa := pollSlot_cases ha
    have pb := pollSlot_cases hb
    have pc := pollSlot_cases hc
    have pd := pollSlot_cases hd
    have h₃ := ((h.pollA pa).pollB pb).pollC pc
    refine ⟨h₃.pollD pd, ?_, fun he => by cases he⟩
    rintro _ ⟨⟩
    refine ⟨?_, h₃.d.completes pd, pd.number_ready.1, pd.number_ready.2, ?_⟩
    · rw [pd.readied, pc.readied, pb.readied, pa.readied]
      rfl
    · intro slot hne
      cases slot with
      | a => exact pa.number
      | b => exact pb.number
      | c => exact pc.number
      | d => exact absurd rfl hne
  | pending ha hb hc hd =>
    have pa := pollSlot_cases ha
    have pb := pollSlot_cases hb
    have pc := pollSlot_cases hc
    have pd := pollSlot_cases hd
    refine ⟨(((h.pollA pa).pollB pb).pollC pc).pollD pd, fun x he => (by cases he), fun _ => ?_⟩
    refine ⟨?_, .of_polls pa pb pc pd⟩
    rw [pd.readied, pc.readied, pb.readied, pa.readied]
    rfl

end Slots

/-- The bookkeeping of a history. -/
structure Ok (W : Type) [Future A W OA] [Future B W OB] [Future C W OC] [Future D W OD]
    (s : Session A B C D OA OB OC OD) : Prop where
  slots : SlotsOk W s.inserted s.selector s.polls
  returned : s.returned.map Selected.number = readied s.polls
  delivered : ∀ x ∈ s.returned, Delivered W s.inserted x

variable {s s' : Session A B C D OA OB OC OD}

lemma ok_init : (init : Session A B C D OA OB OC OD).Ok W where
  slots := by
    constructor
    case bound => simp [init]
    case once => exact List.Pairwise.nil
    all_goals exact ⟨by simp [init, Selector.new], by simp [init, Selector.new], by simp [init]⟩
  returned := rfl
  delivered := by simp [init]

/-- What was delivered stays so when more is inserted. -/
lemma Delivered.append {inserted : List (Selected A B C D)}
    {x : Selected (ℕ × OA) (ℕ × OB) (ℕ × OC) (ℕ × OD)} (h : Delivered W inserted x)
    (f : Selected A B C D) : Delivered W (inserted ++ [f]) x := by
  have keep : ∀ {n : ℕ} {g : Selected A B C D}, inserted[n]? = some g →
      (inserted ++ [f])[n]? = some g := by
    intro n g hn
    rw [List.getElem?_append_left (List.getElem?_eq_some_iff.mp hn).1]
    exact hn
  cases x with
  | a x | b x | c x | d x =>
    obtain ⟨g, hg, hc⟩ := h
    exact ⟨g, keep hg, hc⟩

omit [Future A W OA] [Future B W OB] [Future C W OC] [Future D W OD] in
lemma fillSlot_ok {F : Type} {slot slot' : Option F} {f : F} (h : fillSlot slot f = .ok slot') :
    slot = none ∧ slot' = some f := by
  cases slot with
  | none =>
    cases h
    exact ⟨rfl, rfl⟩
  | some g => cases h

lemma Ok.insert (h : s.Ok W) {f : Selected A B C D} (hs : s.insert f = .ok s') : s'.Ok W := by
  have hbound : ∀ p ∈ s.polls, p.1 < (s.inserted ++ [f]).length := by
    intro p hp
    have := h.slots.bound p hp
    rw [List.length_append]
    omega
  have hdel : ∀ x ∈ s.returned, Delivered W (s.inserted ++ [f]) x :=
    fun x hx => (h.delivered x hx).append f
  cases f with
  | a f =>
    obtain ⟨a, ha, hs⟩ := Transition.bind_ok hs
    cases hs
    obtain ⟨hfree, rfl⟩ := fillSlot_ok ha
    refine ⟨⟨?_, ?_, ?_, ?_, hbound, h.slots.once⟩, h.returned, hdel⟩
    · exact (hfree ▸ h.slots.a).insert h.slots.bound f
    · exact h.slots.b.insert_other (by simp)
    · exact h.slots.c.insert_other (by simp)
    · exact h.slots.d.insert_other (by simp)
  | b f =>
    obtain ⟨b, hb, hs⟩ := Transition.bind_ok hs
    cases hs
    obtain ⟨hfree, rfl⟩ := fillSlot_ok hb
    refine ⟨⟨?_, ?_, ?_, ?_, hbound, h.slots.once⟩, h.returned, hdel⟩
    · exact h.slots.a.insert_other (by simp)
    · exact (hfree ▸ h.slots.b).insert h.slots.bound f
    · exact h.slots.c.insert_other (by simp)
    · exact h.slots.d.insert_other (by simp)
  | c f =>
    obtain ⟨c, hc, hs⟩ := Transition.bind_ok hs
    cases hs
    obtain ⟨hfree, rfl⟩ := fillSlot_ok hc
    refine ⟨⟨?_, ?_, ?_, ?_, hbound, h.slots.once⟩, h.returned, hdel⟩
    · exact h.slots.a.insert_other (by simp)
    · exact h.slots.b.insert_other (by simp)
    · exact (hfree ▸ h.slots.c).insert h.slots.bound f
    · exact h.slots.d.insert_other (by simp)
  | d f =>
    obtain ⟨d, hd, hs⟩ := Transition.bind_ok hs
    cases hs
    obtain ⟨hfree, rfl⟩ := fillSlot_ok hd
    refine ⟨⟨?_, ?_, ?_, ?_, hbound, h.slots.once⟩, h.returned, hdel⟩
    · exact h.slots.a.insert_other (by simp)
    · exact h.slots.b.insert_other (by simp)
    · exact h.slots.c.insert_other (by simp)
    · exact (hfree ▸ h.slots.d).insert h.slots.bound f

lemma Ok.poll (h : s.Ok W) (w : W) : (s.poll w).Ok W := by
  unfold Session.poll
  generalize hp : s.selector.poll (⟨w, s.polls⟩ : Logged W) = p
  obtain ⟨r, sel', w'⟩ := p
  obtain ⟨hslots, hout⟩ := SlotsOk.poll (w := ⟨w, s.polls⟩) h.slots hp
  cases r with
  | ready x =>
    obtain ⟨hready, hdel, -⟩ := hout.ready x rfl
    refine ⟨hslots, ?_, ?_⟩
    · show x.number :: s.returned.map Selected.number = readied w'.polls
      rw [h.returned, hready]
    · intro y hy
      rcases List.mem_cons.mp hy with rfl | hy
      · exact hdel
      · exact h.delivered y hy
  | pending =>
    refine ⟨hslots, ?_, h.delivered⟩
    show s.returned.map Selected.number = readied w'.polls
    rw [h.returned, (hout.pending rfl).1]

theorem Ok.step (h : s.Ok W) {op : Op A B C D W} (hs : s.step op = .ok s') : s'.Ok W := by
  cases op with
  | insert f => exact h.insert hs
  | poll w =>
    cases hs
    exact h.poll w

/-- A future is still in the slot that it was inserted into, and has only been polled in vain. -/
def Holds (W : Type) [Future A W OA] [Future B W OB] [Future C W OC] [Future D W OD]
    (s : Session A B C D OA OB OC OD) (n : ℕ) : Selected A B C D → Prop
  | .a f => ∃ g, s.selector.a = some ⟨n, g⟩ ∧ Advanced W f g
  | .b f => ∃ g, s.selector.b = some ⟨n, g⟩ ∧ Advanced W f g
  | .c f => ∃ g, s.selector.c = some ⟨n, g⟩ ∧ Advanced W f g
  | .d f => ∃ g, s.selector.d = some ⟨n, g⟩ ∧ Advanced W f g

/-- Every future is in its slot until it is returned. -/
lemma Ok.holds (h : s.Ok W) {n : ℕ} {f : Selected A B C D} (hn : s.inserted[n]? = some f) :
    n ∈ s.returned.map Selected.number ∨ Holds W s n f := by
  rw [h.returned, mem_readied]
  cases f with
  | a f => exact h.slots.a.holds (fun _ _ he => by cases he; rfl) hn
  | b f => exact h.slots.b.holds (fun _ _ he => by cases he; rfl) hn
  | c f => exact h.slots.c.holds (fun _ _ he => by cases he; rfl) hn
  | d f => exact h.slots.d.holds (fun _ _ he => by cases he; rfl) hn

lemma Ok.not_holds (h : s.Ok W) {n : ℕ} (hn : n ∈ s.returned.map Selected.number)
    (f : Selected A B C D) : ¬ Holds W s n f := by
  rw [h.returned, mem_readied] at hn
  intro hf
  cases f with
  | a f =>
    obtain ⟨g, hg, -⟩ := hf
    exact h.slots.a.waiting _ hg hn
  | b f =>
    obtain ⟨g, hg, -⟩ := hf
    exact h.slots.b.waiting _ hg hn
  | c f =>
    obtain ⟨g, hg, -⟩ := hf
    exact h.slots.c.waiting _ hg hn
  | d f =>
    obtain ⟨g, hg, -⟩ := hf
    exact h.slots.d.waiting _ hg hn

/-- **The selector delivers each future once.** After any history of insertions into free slots
and polls: what was returned are outputs of different futures, each with the tag of its slot; no
future was polled after it was ready; every other future is still in its slot, advanced only by
polls that returned `Pending`. And the next poll frees exactly the slot of what it returns, or
has polled all the futures there are, each of them in vain. All this is about the selector
itself, to which the numbers make no difference. -/
theorem selector_delivers {hist : List (Session A B C D OA OB OC OD × Op A B C D W)}
    (run : Transition.Run step init hist s) :
    (s.returned.map Selected.number).Nodup ∧
    (∀ x ∈ s.returned, Delivered W s.inserted x) ∧
    NeverAgain s.polls ∧
    (∀ n, n ∈ s.returned.map Selected.number ↔ (n, true) ∈ s.polls) ∧
    (∀ n f, s.inserted[n]? = some f →
      (Holds W s n f ↔ n ∉ s.returned.map Selected.number)) ∧
    ∀ (w : W) r sel' w', s.selector.poll (⟨w, s.polls⟩ : Logged W) = (r, sel', w') →
      (∀ x, r = .ready x → x.number ∉ s.returned.map Selected.number ∧
        Delivered W s.inserted x ∧ Takes s.selector sel' x) ∧
      (r = .pending → Waits s.selector sel' s.polls w'.polls) ∧
      s.selector.erase.poll w = (Selector.eraseOutput r, sel'.erase, w'.surroundings) := by
  have h : s.Ok W :=
    run.reachable.invariant (I := fun s => Ok W s) ok_init fun h hs => h.step hs
  refine ⟨?_, h.delivered, h.slots.once, ?_, ?_, ?_⟩
  · rw [h.returned]
    exact h.slots.once.nodup
  · intro n
    rw [h.returned, mem_readied]
  · intro n f hn
    constructor
    · intro hf hret
      exact h.not_holds hret f hf
    · exact (h.holds hn).resolve_left
  · intro w r sel' w' hp
    obtain ⟨hslots, hout⟩ := SlotsOk.poll (w := ⟨w, s.polls⟩) h.slots hp
    refine ⟨?_, fun he => (hout.pending he).2, Selector.erase_poll hp⟩
    intro x hx
    obtain ⟨hready, hdel, htakes⟩ := hout.ready x hx
    refine ⟨?_, hdel, htakes⟩
    rw [h.returned]
    have hnodup := hslots.once.nodup
    rw [hready] at hnodup
    exact (List.nodup_cons.mp hnodup).1

/-- A future that is pending a number of times and then ready. -/
structure Countdown where
  left : ℕ

instance : Future Countdown Unit ℕ where
  poll f w :=
    match f.left with
    | 0 => (.ready 0, f, w)
    | n + 1 => (.pending, ⟨n⟩, w)

/-- The second future is ready first, and its slot is used again; then the first is ready. -/
def countdowns : List (Op Countdown Countdown Countdown Countdown Unit) :=
  [.insert (.a ⟨1⟩), .insert (.b ⟨0⟩), .poll (), .insert (.b ⟨3⟩), .poll ()]

/-- Both are delivered once, and the third future is still in its slot. -/
theorem selector_delivers_countdowns :
    ∃ hist, ∃ s : Session Countdown Countdown Countdown Countdown ℕ ℕ ℕ ℕ,
      Transition.Run (step (W := Unit)) init hist s ∧ hist.length = countdowns.length ∧
      s.returned.map Selected.number = [0, 1] ∧
      (s.returned.map Selected.number).Nodup ∧ Holds Unit s 2 (.b ⟨3⟩) := by
  have run : Transition.Run (step (W := Unit)) init _ _ := Transition.run_of_record .start
    (show Transition.record step []
      (init : Session Countdown Countdown Countdown Countdown ℕ ℕ ℕ ℕ) countdowns = .ok _ from rfl)
  have h := selector_delivers run
  exact ⟨_, _, run, rfl, rfl, h.1, (h.2.2.2.2.1 2 (.b ⟨3⟩) rfl).mpr (by decide)⟩

end Session

end Ustunet
