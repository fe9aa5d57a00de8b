import Ustunet.LoopInvariant
import Ustunet.Ownership

/-!
# Waiting for the application

`create_syn` awaits the accept channel, which has room for one stream. While it does, the loop does
nothing else. `handling_completes_iff`: the handling of a packet that has begun can always be
finished by the loop alone, except while the loop waits for room in the channel; then one `accept`
is enough, and so is dropping the listener.
-/

namespace Ustunet

/-- Whether a label is a step of the loop. -/
def Label.ofLoop : Label → Bool
  | .turn | .poll _ | .resume | .unwind _ => true
  | _ => false

namespace State

open Transition

variable {T Q : Type} [TcpSocket T] [DelayQueue AddrPair Q]

/-- The handling of a packet has begun and not come to its end. -/
inductive Handling (s : State T Q) : Prop
  | sending {a : Arrival} (h : s.pc = .sending a)
  | inserting {a : Arrival} (h : s.pc = .inserting a)
  | processing {a : Arrival} (h : s.pc = .processing a)

/-- The loop waits for room in the accept channel. -/
structure AwaitsAccept (s : State T Q) : Prop where
  pc : ∃ a, s.pc = .sending a
  listening : s.world.listening = true
  full : acceptCapacity ≤ s.world.incoming.length

/-- The handling of a packet can be finished by the loop alone. -/
def Completes (wire : Wire) (s : State T Q) : Prop :=
  ∃ hist s', Run (step wire) s hist s' ∧ (∀ x ∈ hist, x.2 = .resume) ∧ s'.pc = .top

variable {wire : Wire} {clock : Clock} {s s' : State T Q}

lemma Completes.of_resume (h : s.step wire .resume = .ok s') (hc : s'.Completes wire) :
    s.Completes wire := by
  obtain ⟨hist, s₁, r, hall, hpc⟩ := hc
  refine ⟨hist ++ [(s, .resume)], s₁, r.after_step h, fun x hx => ?_, hpc⟩
  rcases List.mem_append.mp hx with hx | hx
  · exact hall x hx
  · rw [List.mem_singleton.mp hx]

/-! ## Each part of `create_syn` -/

/-- A pooled connection takes a packet. -/
lemma process_total {w : World T Q} (ho : w.Owned) {pair : AddrPair} {c : Connection}
    (hc : w.sockets pair = some c) (ts : SmolInstant) (ip : IpRepr) (tcp : TcpRepr) :
    ∃ reply w', w.process pair ts ip tcp = .ok (reply, w') := by
  obtain ⟨sh, hsh⟩ :=
    Option.isSome_iff_exists.mp (ho.live (ho.fresh (World.connOf_of_sockets hc)))
  unfold World.process
  rw [hc]
  dsimp only
  rw [hsh]
  exact ⟨_, _, rfl⟩

omit [TcpSocket T] in
/-- The read future goes back to its free slot. -/
lemma finishRead_total (hb : s.selector.b = none) (r : Except Error (Option Packet)) :
    ∃ s', s.finishRead r = .ok s' ∧ s'.pc = .top := by
  unfold finishRead fillSlot
  rw [hb]
  exact ⟨_, rfl, rfl⟩

lemma resume_processing (h : LoopReachable wire clock s) {a : Arrival}
    (hpc : s.pc = .processing a) : ∃ s', s.step wire .resume = .ok s' ∧ s'.pc = .top := by
  have hcons := LoopReachable.consistent h
  unfold Consistent at hcons
  rw [hpc] at hcons
  obtain ⟨c, hc⟩ := Option.isSome_iff_exists.mp hcons.2.2
  obtain ⟨reply, w', hp⟩ :=
    process_total (LoopReachable.owned h).1 hc a.timestamp a.ipRepr a.tcpRepr
  have hb : s.selector.b = none := by
    rcases LoopReachable.armed h with hret | hs
    · rw [hret] at hpc
      cases hpc
    · exact hs.reader_none (by rw [hpc]; rfl)
  obtain ⟨s', hs', htop⟩ := finishRead_total (s := { s with world := w' }) hb reply
  refine ⟨s', ?_, htop⟩
  show s.resume wire = .ok s'
  unfold resume
  rw [hpc]
  dsimp only
  rw [hp]
  exact hs'

lemma resume_inserting (h : LoopReachable wire clock s) {a : Arrival}
    (hpc : s.pc = .inserting a) :
    ∃ s', s.step wire .resume = .ok s' ∧ s'.pc = .processing a := by
  have hcons := LoopReachable.consistent h
  unfold Consistent at hcons
  rw [hpc] at hcons
  obtain ⟨⟨id, hid⟩, -⟩ := hcons
  have hfree : s.world.sockets a.pair = none := (LoopReachable.owned h).1.free hid
  have hw : ∃ w', s.world.step wire .insert = .ok w' := by
    simp [World.step, hid, hfree]
  obtain ⟨w', hw⟩ := hw
  refine ⟨{ s with world := w', pc := .processing a }, ?_, rfl⟩
  show s.resume wire = _
  unfold resume
  rw [hpc]
  dsimp only
  rw [hw]
  rfl

lemma resume_sending (h : LoopReachable wire clock s) {a : Arrival} (hpc : s.pc = .sending a)
    (hno : ¬ s.AwaitsAccept) : ∃ s', s.step wire .resume = .ok s' ∧ s'.pc = .inserting a := by
  have hcons := LoopReachable.consistent h
  unfold Consistent at hcons
  rw [hpc] at hcons
  obtain ⟨⟨id, hid⟩, -⟩ := hcons
  have hw : ∃ w', s.world.step wire (if s.world.listening then .handOver else .refuse)
      = .ok w' := by
    cases hl : s.world.listening with
    | true =>
      have hroom : s.world.incoming.length < acceptCapacity := by
        by_contra hfull
        exact hno ⟨⟨a, hpc⟩, hl, Nat.not_lt.mp hfull⟩
      simp [World.step, hid, hl, hroom]
    | false => simp [World.step, hid, hl]
  obtain ⟨w', hw⟩ := hw
  refine ⟨{ s with world := w', pc := .inserting a }, ?_, rfl⟩
  show s.resume wire = _
  unfold resume
  rw [hpc]
  dsimp only
  rw [hw]
  rfl

/-- **The loop goes on by itself** unless it waits for room in the accept channel. -/
lemma completes (h : LoopReachable wire clock s) (hs : s.Handling) (hno : ¬ s.AwaitsAccept) :
    s.Completes wire := by
  have processing : ∀ {s : State T Q} {a : Arrival}, LoopReachable wire clock s →
      s.pc = .processing a → s.Completes wire := by
    intro s a h hpc
    obtain ⟨s', hs', htop⟩ := resume_processing h hpc
    exact .of_resume hs' ⟨[], s', .start, fun x hx => (nomatch hx), htop⟩
  have inserting : ∀ {s : State T Q} {a : Arrival}, LoopReachable wire clock s →
      s.pc = .inserting a → s.Completes wire := by
    intro s a h hpc
    obtain ⟨s', hs', hpc'⟩ := resume_inserting h hpc
    exact .of_resume hs' (processing (h.after hs') hpc')
  cases hs with
  | processing hpc => exact processing h hpc
  | inserting hpc => exact inserting h hpc
  | sending hpc =>
    obtain ⟨s', hs', hpc'⟩ := resume_sending h hpc hno
    exact .of_resume hs' (inserting (h.after hs') hpc')

/-! ## While the loop waits -/

/-- **No step of the loop is possible** while it waits for room in the accept channel. -/
lemma AwaitsAccept.disabled (h : s.AwaitsAccept) {l : Label} (hl : l.ofLoop = true) :
    s.step wire l = .error .disabled := by
  obtain ⟨⟨a, hpc⟩, hlist, hfull⟩ := h
  have hw : s.world.step wire (if s.world.listening then .handOver else .refuse)
      = .error .disabled := by
    rw [hlist, if_pos rfl, World.step]
    split
    · exact if_neg fun hc => Nat.not_lt.mpr hfull hc.2.2
    · rfl
  have hres : s.resume wire = .error .disabled := by
    unfold resume
    rw [hpc]
    dsimp only
    rw [hw]
    rfl
  cases l with
  | elapse nanos => cases hl
  | app a => cases hl
  | turn => simp [step, turn, hpc, throw, throwThe, MonadExceptOf.throw, bind, Except.bind]
  | poll dev => simp [step, poll, hpc]
  | resume => exact hres
  -- a step that waits does not panic
  | unwind dev => simp [step, unwind, advance, hpc, hres]

lemma AwaitsAccept.not_completes (h : s.AwaitsAccept) : ¬ s.Completes wire := by
  rintro ⟨hist, s', r, hall, htop⟩
  have heq : s' = s := by
    refine r.invariant (I := fun x => x = s) (G := fun _ l => l = .resume) rfl ?_ hall
    rintro x l x' rfl rfl hstep
    rw [h.disabled rfl] at hstep
    cases hstep
  obtain ⟨a, hpc⟩ := h.pc
  rw [heq, hpc] at htop
  cases htop

/-! ## What the application can do about it -/

/-- The accept channel holds no more than its capacity. -/
lemma LoopReachable.incoming_le (h : LoopReachable wire clock s) :
    s.world.incoming.length ≤ acceptCapacity := by
  refine LoopReachable.invariant (I := fun w => w.incoming.length ≤ acceptCapacity)
    (Nat.zero_le _) ?_ h
  intro w e w' _ _ hw hstep
  cases hstep with
  | accept hin =>
    rw [hin, List.length_cons] at hw
    exact Nat.le_of_succ_le hw
  | closeListener => exact Nat.zero_le _
  | handOver hcr hlist hroom =>
    show (w.incoming ++ [_]).length ≤ acceptCapacity
    rw [List.length_append]
    exact hroom
  | _ => exact hw

/-- Taking a stream makes room. -/
lemma AwaitsAccept.accept (h : LoopReachable wire clock s) (hs : s.AwaitsAccept) :
    ∃ s', s.step wire (.app .accept) = .ok s' ∧ s'.Completes wire := by
  have hle := LoopReachable.incoming_le h
  obtain ⟨⟨a, hpc⟩, hlist, hfull⟩ := hs
  have hone : s.world.incoming.length = 1 := Nat.le_antisymm hle hfull
  obtain ⟨id, hid⟩ := List.length_eq_one_iff.mp hone
  have hstep : s.step wire (.app .accept)
      = .ok { s with world := { s.world with incoming := [] } } := by
    simp [step, World.step, World.act, hid, bind, Except.bind, pure, Except.pure]
  refine ⟨_, hstep, completes (h.after hstep) (.sending hpc) ?_⟩
  intro hawait
  exact Nat.not_lt.mpr hawait.full (Nat.zero_lt_one)

/-- Dropping the listener lets the loop refuse the stream. -/
lemma AwaitsAccept.closeListener (h : LoopReachable wire clock s) (hs : s.AwaitsAccept) :
    ∃ s', s.step wire (.app .closeListener) = .ok s' ∧ s'.Completes wire := by
  obtain ⟨⟨a, hpc⟩, -, -⟩ := hs
  have hrun : s.world.running = true := by
    have hcons := LoopReachable.consistent h
    unfold Consistent at hcons
    rw [hpc] at hcons
    exact hcons.2
  have hstep : s.step wire (.app .closeListener) = .ok { s with
      world := { s.world.dropStreams s.world.incoming with
        incoming := [], listening := false } } := by
    simp [step, World.step, World.act, hrun, bind, Except.bind, pure, Except.pure]
  refine ⟨_, hstep, completes (h.after hstep) (.sending hpc) ?_⟩
  intro hawait
  cases hawait.listening

/-! ## Where the handling of a packet begins -/

lemma ingress_total {packet : List UInt8} (hb : s.selector.b = none) (ho : s.world.Owned) :
    ∃ s', s.ingress wire packet = .ok s' ∧ (s'.pc = .top ∨ s'.Handling) := by
  have fin : ∀ r, ∃ s', s.finishRead r = .ok s' ∧ (s'.pc = .top ∨ s'.Handling) := by
    intro r
    obtain ⟨s', hs', htop⟩ := finishRead_total hb r
    exact ⟨s', hs', Or.inl htop⟩
  unfold ingress
  split
  · exact fin _
  · exact fin _
  · split
    · exact fin _
    · next a ha =>
      split
      · next c hc =>
        obtain ⟨reply, w', hp⟩ := process_total ho hc a.timestamp a.ipRepr a.tcpRepr
        obtain ⟨s', hs', htop⟩ := finishRead_total (s := { s with world := w' }) hb reply
        rw [hp]
        exact ⟨s', hs', Or.inl htop⟩
      · split
        · split
          · exact ⟨_, rfl, Or.inr (.sending rfl)⟩
          · exact fin _
        · exact fin _

/-- **The handling of a packet begins**: nothing in it fails. -/
lemma read_total (h : LoopReachable wire clock s) {dev : Device} {packet : List UInt8}
    (hpc : s.pc = .select) (hsel : s.selects dev = .ready (.b (.ok packet))) :
    ∃ s', s.step wire (.poll dev) = .ok s' ∧ (s'.pc = .top ∨ s'.Handling) := by
  have ho := (LoopReachable.owned h).1
  show ∃ s', s.poll wire dev = .ok s' ∧ _
  unfold poll
  rw [if_pos hpc]
  generalize hpoll : s.selector.poll (s.cx dev) = r
  obtain ⟨x, sel, w⟩ := r
  obtain rfl : x = .ready (.b (.ok packet)) := by
    rw [← hsel]
    exact (congrArg Prod.fst hpoll).symm
  cases selects_of_poll hpoll with
  | read hb hr =>
    cases packet with
    | nil =>
      obtain ⟨s', hs', htop⟩ := finishRead_total
        (s := { s with selector := { s.selector with b := none } }) rfl (.ok none)
      exact ⟨s', hs', Or.inl htop⟩
    | cons b bytes =>
      exact ingress_total
        (s := { s with selector := { s.selector with b := none } }) rfl ho

/-- **What the loop waits for.** In every reachable state: the handling of any packet that the
selector returns begins; once it has begun it can be finished by the loop alone exactly if the loop
does not wait for room in the accept channel. While it does, no step of the loop is possible, and
it can be finished by the loop alone once the application has accepted a stream or dropped the
listener. -/
theorem handling_completes_iff (h : LoopReachable wire clock s) :
    (∀ (dev : Device) (packet : List UInt8), s.pc = .select →
      s.selects dev = .ready (.b (.ok packet)) →
      ∃ s', s.step wire (.poll dev) = .ok s' ∧ (s'.pc = .top ∨ s'.Handling)) ∧
    (s.Handling → (s.Completes wire ↔ ¬ s.AwaitsAccept)) ∧
    (s.AwaitsAccept →
      (∀ l : Label, l.ofLoop = true → s.step wire l = .error .disabled) ∧
      (∃ s', s.step wire (.app .accept) = .ok s' ∧ s'.Completes wire) ∧
      ∃ s', s.step wire (.app .closeListener) = .ok s' ∧ s'.Completes wire) := by
  refine ⟨fun dev packet hpc hsel => read_total h hpc hsel, fun hs => ⟨fun hc ha => ?_, ?_⟩,
    fun ha => ⟨fun l hl => ha.disabled hl, ha.accept h, ha.closeListener h⟩⟩
  · exact ha.not_completes hc
  · exact completes h hs

/-- Whether the loop waits for room in the accept channel. -/
def awaitsAccept (s : State T Q) : Bool :=
  match s.pc with
  | .sending _ => s.world.listening && decide (acceptCapacity ≤ s.world.incoming.length)
  | _ => false

omit [TcpSocket T] in
lemma awaits_of_awaitsAccept (h : s.awaitsAccept = true) : s.AwaitsAccept := by
  unfold awaitsAccept at h
  split at h
  · next a hpc =>
    rw [Bool.and_eq_true, decide_eq_true_eq] at h
    exact ⟨⟨a, hpc⟩, h.1, h.2⟩
  · cases h

/-- A third connection waits for the application, which accepts the second. -/
theorem handling_completes_crowded :
    ∃ s s' : Reference.Loop, LoopReachable Reference.wire Reference.clock s ∧ s.AwaitsAccept ∧
      s.step Reference.wire (.app .accept) = .ok s' ∧ s'.Completes Reference.wire := by
  obtain ⟨hist, s, r, hs⟩ := Reference.run_of_check Reference.crowded
    (fun _ s => s.awaitsAccept) (by decide +kernel)
  have hawait := awaits_of_awaitsAccept hs
  obtain ⟨-, -, hwait⟩ := handling_completes_iff r.reachable
  obtain ⟨-, ⟨s', hs', hc⟩, -⟩ := hwait hawait
  exact ⟨s, s', r.reachable, hawait, hs', hc⟩

/-- The loop waits for the application to accept, while an update and a half-close message of the
stream that it serves are under way; no step of the loop is possible, so the handling of the SYN
cannot come to its end. -/
theorem loop_awaits_accept :
    ∃ s : Reference.Loop, LoopReachable Reference.wire Reference.clock s ∧ s.Handling ∧
      ¬ s.Completes Reference.wire ∧
      s.world.accepted Reference.writer.conn = true ∧ Reference.writer ∈ s.world.halves ∧
      s.world.polls = [(Reference.pair, .now)] ∧ s.world.closing = [Reference.reader] ∧
      ∀ l : Label, l.ofLoop = true → s.step Reference.wire l = .error .disabled := by
  obtain ⟨hist, s, r, hs⟩ := Reference.run_of_check Reference.crowded
    (fun _ s => s.awaitsAccept && s.world.accepted Reference.writer.conn &&
      decide (Reference.writer ∈ s.world.halves) &&
      decide (s.world.polls = [(Reference.pair, .now)]) &&
      decide (s.world.closing = [Reference.reader])) (by decide +kernel)
  simp only [Bool.and_eq_true, decide_eq_true_eq] at hs
  obtain ⟨⟨⟨⟨hawait, hacc⟩, hmem⟩, hpolls⟩, hclosing⟩ := hs
  have hawait := awaits_of_awaitsAccept hawait
  obtain ⟨a, hpc⟩ := hawait.pc
  exact ⟨s, r.reachable, .sending hpc, hawait.not_completes, hacc, hmem, hpolls, hclosing,
    fun l hl => hawait.disabled hl⟩

end State
end Ustunet
