import Ustunet.Tcp
import Mathlib.Logic.Function.Basic

/-!
# The dispatch queue

`dispatch/poll_queue.rs`: a queue of deadlines, at most one for each socket. `Delays` keeps a
`DelayQueue` of tokio-util and the key of each socket's entry in it. Both are updated
separately, and an operation on a key that is not in use panics, so the model of `Delays`
returns `none` for a panic.

`Delays.Bijective` says that the two sides agree. `DispatchQueue` carries it as a field, so a
queue whose operations could panic cannot be built, and everything above this file sees a
queue only through `DispatchQueue.deadline`.
-/

namespace Ustunet

/-- The key of an entry of a `DelayQueue`. -/
abbrev Key := ℕ

/-- `tokio_util::time::DelayQueue<V>`, with what its documentation promises. `entry` is the
value and the deadline of a live entry. Keys of entries that have gone may be used again. -/
class DelayQueue (V : outParam Type) (Q : Type) where
  new : Q
  entry : Q → Key → Option (V × Instant)
  insertAt : Q → V → Instant → Key × Q
  /-- Panics (`none`) on a key that is not in use. -/
  resetAt : Q → Key → Instant → Option Q
  /-- Panics (`none`) on a key that is not in use. -/
  remove : Q → Key → Option Q
  pollExpired : Q → Instant → Option (V × Q)
  entry_new : ∀ k, entry new k = none
  insertAt_fresh : ∀ q v t, entry q (insertAt q v t).1 = none
  entry_insertAt : ∀ q v t k,
    entry (insertAt q v t).2 k = if k = (insertAt q v t).1 then some (v, t) else entry q k
  resetAt_live : ∀ {q k v t₀} t, entry q k = some (v, t₀) →
    ∃ q', resetAt q k t = some q' ∧
      ∀ k', entry q' k' = if k' = k then some (v, t) else entry q k'
  remove_live : ∀ {q k e}, entry q k = some e →
    ∃ q', remove q k = some q' ∧ ∀ k', entry q' k' = if k' = k then none else entry q k'
  pollExpired_due : ∀ {q now v q'}, pollExpired q now = some (v, q') →
    ∃ k t, entry q k = some (v, t) ∧ t ≤ now ∧
      ∀ k', entry q' k' = if k' = k then none else entry q k'

structure Delays (V Q : Type) where
  queue : Q
  keys : V → Option Key

namespace Delays

variable {V Q : Type} [DecidableEq V] [DelayQueue V Q]

def new : Delays V Q := ⟨DelayQueue.new, fun _ => none⟩

/-- One poll of `next`: the socket whose deadline has passed, if there is one. Panics where
the expired socket has no key. -/
def next (d : Delays V Q) (now : Instant) : Option (Option (V × Delays V Q)) :=
  match DelayQueue.pollExpired d.queue now with
  | none => some none
  | some (s, queue) =>
    -- `self.keys.remove(s).unwrap()`
    match d.keys s with
    | none => none
    | some _ => some (some (s, ⟨queue, Function.update d.keys s none⟩))

def insert (d : Delays V Q) (socket : V) (instant : Instant) : Option (Delays V Q) :=
  match d.keys socket with
  | some k => (DelayQueue.resetAt d.queue k instant).map fun queue => { d with queue }
  | none =>
    let (k, queue) := DelayQueue.insertAt d.queue socket instant
    some ⟨queue, Function.update d.keys socket (some k)⟩

def containsKey (d : Delays V Q) (socket : V) : Bool := (d.keys socket).isSome

def remove (d : Delays V Q) (socket : V) : Option (Delays V Q) :=
  match d.keys socket with
  | some key =>
    (DelayQueue.remove d.queue key).map fun queue =>
      ⟨queue, Function.update d.keys socket none⟩
  | none => some d

/-- The two sides agree: a socket's key is the key of the live entry that holds it. -/
def Bijective (d : Delays V Q) : Prop :=
  ∀ s k, d.keys s = some k ↔ ∃ t, DelayQueue.entry d.queue k = some (s, t)

/-- The map that `Delays` stands for: each socket's deadline. -/
def deadline (d : Delays V Q) (socket : V) : Option Instant :=
  (d.keys socket).bind fun k => (DelayQueue.entry d.queue k).map Prod.snd

omit [DecidableEq V] in
lemma new_bijective : (new : Delays V Q).Bijective := by
  intro s k
  simp [new, DelayQueue.entry_new]

variable {d : Delays V Q}

omit [DecidableEq V] in
/-- The key of a socket leads to an entry that holds the socket. -/
lemma Bijective.entry_of_keys (h : d.Bijective) {s : V} {k : Key} (hk : d.keys s = some k) :
    ∃ t, DelayQueue.entry d.queue k = some (s, t) := (h s k).mp hk

omit [DecidableEq V] in
/-- Distinct sockets have distinct keys. -/
lemma Bijective.keys_inj (h : d.Bijective) {s s' : V} {k : Key}
    (hs : d.keys s = some k) (hs' : d.keys s' = some k) : s = s' := by
  obtain ⟨t, ht⟩ := h.entry_of_keys hs
  obtain ⟨t', ht'⟩ := h.entry_of_keys hs'
  rw [ht] at ht'
  exact congrArg Prod.fst (Option.some.inj ht')

omit [DecidableEq V] in
lemma containsKey_iff (h : d.Bijective) (s : V) :
    d.containsKey s = (d.deadline s).isSome := by
  unfold containsKey deadline
  cases hk : d.keys s with
  | none => rfl
  | some k =>
    obtain ⟨t, ht⟩ := h.entry_of_keys hk
    simp [ht]

/-- Overwriting the entry under a socket's own key changes that socket's deadline only. -/
private lemma deadline_of_entry (h : d.Bijective) {s : V} {k : Key} (hk : d.keys s = some k)
    {queue : Q} {t : Instant}
    (hq : ∀ k', DelayQueue.entry queue k'
      = if k' = k then some (s, t) else DelayQueue.entry d.queue k') (s' : V) :
    (⟨queue, d.keys⟩ : Delays V Q).deadline s' = if s' = s then some t else d.deadline s' := by
  unfold deadline
  by_cases hs : s' = s
  · subst hs
    simp [hk, hq]
  · rw [if_neg hs]
    cases hk' : d.keys s' with
    | none => rfl
    | some k' =>
      have hne : k' ≠ k := fun e => hs (h.keys_inj (e ▸ hk') hk)
      simp [hq, hne]

/-- `insert` never panics, keeps the two sides in agreement and sets exactly one deadline. -/
theorem insert_spec (h : d.Bijective) (s : V) (t : Instant) :
    ∃ d', d.insert s t = some d' ∧ d'.Bijective ∧
      ∀ s', d'.deadline s' = if s' = s then some t else d.deadline s' := by
  unfold insert
  cases hk : d.keys s with
  | some k =>
    obtain ⟨t₀, ht₀⟩ := h.entry_of_keys hk
    obtain ⟨queue, hreset, hq⟩ := DelayQueue.resetAt_live t ht₀
    refine ⟨{ d with queue }, by simp [hreset], ?_, deadline_of_entry h hk hq⟩
    intro s' k'
    show d.keys s' = some k' ↔ _
    rw [h s' k', hq]
    by_cases hkk : k' = k
    · subst hkk
      simp [ht₀]
    · simp [hkk]
  | none =>
    -- a fresh key: it belonged to no live entry, so to no socket
    have hfresh := DelayQueue.insertAt_fresh d.queue s t
    have hentry := DelayQueue.entry_insertAt d.queue s t
    generalize DelayQueue.insertAt d.queue s t = r at hfresh hentry
    obtain ⟨k, queue⟩ := r
    have hno : ∀ s', d.keys s' ≠ some k := by
      intro s' hs'
      obtain ⟨t', ht'⟩ := h.entry_of_keys hs'
      rw [hfresh] at ht'
      cases ht'
    refine ⟨⟨queue, Function.update d.keys s (some k)⟩, rfl, ?_, ?_⟩
    · intro s' k'
      show Function.update d.keys s (some k) s' = some k' ↔ _
      rw [hentry]
      by_cases hs : s' = s
      · subst hs
        rw [Function.update_self]
        by_cases hkk : k' = k
        · simp [hkk]
        · have : ¬ ∃ t, DelayQueue.entry d.queue k' = some (s', t) := by
            rw [← h s' k', hk]; simp
          simp [hkk, Ne.symm hkk, not_exists.mp this]
      · rw [Function.update_of_ne hs]
        by_cases hkk : k' = k
        · subst hkk
          simp [hno s', Ne.symm hs]
        · simp [hkk, h s' k']
    · intro s'
      show (Function.update d.keys s (some k) s').bind _ = _
      by_cases hs : s' = s
      · subst hs
        simp [hentry]
      · rw [Function.update_of_ne hs, if_neg hs]
        unfold deadline
        cases hk' : d.keys s' with
        | none => rfl
        | some k' =>
          have hne : k' ≠ k := fun e => hno s' (e ▸ hk')
          simp [hentry, hne]

/-- Dropping the live entry of `s` together with the key of `s` erases exactly `s`. -/
private lemma erase_spec (h : d.Bijective) {s : V} {k : Key} (hk : d.keys s = some k) {queue : Q}
    (hq : ∀ k', DelayQueue.entry queue k'
      = if k' = k then none else DelayQueue.entry d.queue k') :
    (⟨queue, Function.update d.keys s none⟩ : Delays V Q).Bijective ∧
      ∀ s', (⟨queue, Function.update d.keys s none⟩ : Delays V Q).deadline s'
        = if s' = s then none else d.deadline s' := by
  obtain ⟨t₀, ht₀⟩ := h.entry_of_keys hk
  constructor
  · intro s' k'
    show Function.update d.keys s none s' = some k' ↔ _
    rw [hq]
    by_cases hs : s' = s
    · subst hs
      rw [Function.update_self]
      by_cases hkk : k' = k
      · simp [hkk]
      · have : ¬ ∃ t, DelayQueue.entry d.queue k' = some (s', t) := by
          rw [← h s' k', hk]; simpa using Ne.symm hkk
        simp [hkk, not_exists.mp this]
    · rw [Function.update_of_ne hs]
      by_cases hkk : k' = k
      · subst hkk
        have : d.keys s' ≠ some k' := fun e => hs (h.keys_inj e hk)
        simp [this]
      · simp [hkk, h s' k']
  · intro s'
    show (Function.update d.keys s none s').bind _ = _
    by_cases hs : s' = s
    · subst hs
      simp
    · rw [Function.update_of_ne hs, if_neg hs]
      unfold deadline
      cases hk' : d.keys s' with
      | none => rfl
      | some k' =>
        have hne : k' ≠ k := fun e => hs (h.keys_inj (e ▸ hk') hk)
        simp [hq, hne]

/-- `remove` never panics and erases exactly the given socket. -/
theorem remove_spec (h : d.Bijective) (s : V) :
    ∃ d', d.remove s = some d' ∧ d'.Bijective ∧
      ∀ s', d'.deadline s' = if s' = s then none else d.deadline s' := by
  unfold remove
  cases hk : d.keys s with
  | none =>
    refine ⟨d, rfl, h, fun s' => ?_⟩
    split
    · next hs => subst hs; simp [deadline, hk]
    · rfl
  | some k =>
    obtain ⟨t₀, ht₀⟩ := h.entry_of_keys hk
    obtain ⟨queue, hrem, hq⟩ := DelayQueue.remove_live ht₀
    obtain ⟨hb, hd⟩ := erase_spec h hk hq
    exact ⟨_, by simp [hrem], hb, hd⟩

/-- `next` never panics; what it returns was in the map, due, and is erased, alone. -/
theorem next_spec (h : d.Bijective) (now : Instant) :
    d.next now = some none ∨
      ∃ s d' t, d.next now = some (some (s, d')) ∧ d'.Bijective ∧
        d.deadline s = some t ∧ t ≤ now ∧
        ∀ s', d'.deadline s' = if s' = s then none else d.deadline s' := by
  unfold next
  cases hp : DelayQueue.pollExpired d.queue now with
  | none => exact Or.inl rfl
  | some r =>
    obtain ⟨s, queue⟩ := r
    obtain ⟨k, t, hentry, hle, hq⟩ := DelayQueue.pollExpired_due hp
    have hk : d.keys s = some k := (h s k).mpr ⟨t, hentry⟩
    obtain ⟨hb, hd⟩ := erase_spec h hk hq
    refine Or.inr ⟨s, _, t, by simp [hk], hb, ?_, hle, hd⟩
    simp [deadline, hk, hentry]

end Delays

/-! ## `DispatchQueue` -/

structure DispatchQueue (V Q : Type) [DelayQueue V Q] where
  clock : Clock
  delayed : Delays V Q
  bijective : delayed.Bijective

namespace DispatchQueue

variable {V Q : Type} [DecidableEq V] [DelayQueue V Q]

def new (clock : Clock) : DispatchQueue V Q := ⟨clock, Delays.new, Delays.new_bijective⟩

/-- A socket's deadline, if it is in the queue. -/
def deadline (q : DispatchQueue V Q) (socket : V) : Option Instant := q.delayed.deadline socket

/-- The instant a `PollAt` stands for; `Ingress` stands for none. -/
def instant (clock : Clock) : PollAt → Option Instant
  | .now => some clock.origin
  | .time millis => some (clock.resolve millis)
  | .ingress => none

def send (q : DispatchQueue V Q) (socket : V) (pollAt : PollAt) : DispatchQueue V Q :=
  match instant q.clock pollAt with
  | none => q
  | some i =>
    match h : q.delayed.insert socket i with
    | some delayed =>
      ⟨q.clock, delayed, by
        obtain ⟨d', hd', hb, -⟩ := Delays.insert_spec q.bijective socket i
        rw [h] at hd'
        exact Option.some.inj hd' ▸ hb⟩
    -- a panic: `insert_spec` says that it cannot happen
    | none => q

/-- One poll of `poll`: an expired socket and the queue without it. -/
def poll (q : DispatchQueue V Q) (now : Instant) : Option (V × DispatchQueue V Q) :=
  match h : q.delayed.next now with
  | some (some (s, delayed)) =>
    some (s, ⟨q.clock, delayed, by
      rcases Delays.next_spec q.bijective now with hn | ⟨s', d', t, hn, hb, -⟩
      · rw [h] at hn; cases hn
      · rw [h] at hn
        cases hn
        exact hb⟩)
  | _ => none

def remove (q : DispatchQueue V Q) (socket : V) : DispatchQueue V Q :=
  match h : q.delayed.remove socket with
  | some delayed =>
    ⟨q.clock, delayed, by
      obtain ⟨d', hd', hb, -⟩ := Delays.remove_spec q.bijective socket
      rw [h] at hd'
      exact Option.some.inj hd' ▸ hb⟩
  -- a panic: `remove_spec` says that it cannot happen
  | none => q

def contains (q : DispatchQueue V Q) (socket : V) : Bool := q.delayed.containsKey socket

omit [DecidableEq V] in
@[simp] lemma contains_eq (q : DispatchQueue V Q) (s : V) :
    q.contains s = (q.deadline s).isSome := Delays.containsKey_iff q.bijective s

@[simp] lemma clock_send (q : DispatchQueue V Q) (s : V) (p : PollAt) :
    (q.send s p).clock = q.clock := by
  unfold send
  split
  · rfl
  · split <;> rfl

/-- `send` sets the deadline of its socket, unless it is told `Ingress`, which it ignores. -/
lemma deadline_send (q : DispatchQueue V Q) (s : V) (p : PollAt) (s' : V) :
    (q.send s p).deadline s'
      = if s' = s then (instant q.clock p).or (q.deadline s) else q.deadline s' := by
  unfold send
  split
  · next hi =>
    rw [hi, Option.none_or]
    split
    · next h => rw [h]
    · rfl
  · next i hi =>
    obtain ⟨d', hd', -, hdl⟩ := Delays.insert_spec q.bijective s i
    split
    · next delayed h =>
      rw [h] at hd'
      obtain rfl := Option.some.inj hd'
      rw [hi, Option.some_or]
      exact hdl s'
    · next h => rw [h] at hd'; cases hd'

@[simp] lemma clock_remove (q : DispatchQueue V Q) (s : V) : (q.remove s).clock = q.clock := by
  unfold remove
  split <;> rfl

lemma deadline_remove (q : DispatchQueue V Q) (s s' : V) :
    (q.remove s).deadline s' = if s' = s then none else q.deadline s' := by
  unfold remove
  obtain ⟨d', hd', -, hdl⟩ := Delays.remove_spec q.bijective s
  split
  · next delayed h =>
    rw [h] at hd'
    obtain rfl := Option.some.inj hd'
    exact hdl s'
  · next h => rw [h] at hd'; cases hd'

/-- An expired socket was in the queue with a deadline that has passed; the others stay. -/
lemma poll_some {q q' : DispatchQueue V Q} {now : Instant} {s : V}
    (h : q.poll now = some (s, q')) :
    q'.clock = q.clock ∧ (∃ t, q.deadline s = some t ∧ t ≤ now) ∧
      ∀ s', q'.deadline s' = if s' = s then none else q.deadline s' := by
  unfold poll at h
  split at h
  · next s₁ delayed hn =>
    rcases Delays.next_spec q.bijective now with hn' | ⟨s₂, d', t, hn', -, hdl, hle, hall⟩
    · rw [hn] at hn'; cases hn'
    · rw [hn] at hn'
      cases hn'
      cases h
      exact ⟨rfl, ⟨t, hdl, hle⟩, hall⟩
  · cases h

end DispatchQueue

end Ustunet
