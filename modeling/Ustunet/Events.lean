import Ustunet.IoLoop
import Ustunet.Steps
import Ustunet.Lib.Run

/-!
# The loop as a scheduler of the world

Every step of `io_loop` is at most one event of the world: `event` says which, and
`world_of_step` proves it. So a run of the loop, seen through `State.world`, is a run of the
world (`Run.world`), and what holds in every run of the world holds in every run of the loop.

The world allows a stream to be created only while no other is being created, and `create_syn`
runs to its end before the loop goes on; `Consistent` is the link between where the loop is and
`World.creating`.
-/

namespace Ustunet
namespace State

open Transition

variable {T Q : Type} [TcpSocket T] [DelayQueue AddrPair Q]

/-! ## The event of a step -/

/-- The event that the handling of a packet starts with. -/
def ingressEvent (wire : Wire) (w : World T Q) (packet : List UInt8) : Option Event :=
  match parse wire packet with
  | .ok (some (ipRepr, tcpRepr)) =>
    match arrival w ipRepr tcpRepr with
    | .ok a =>
      match w.sockets a.pair with
      | some _ => some (.process a.pair a.timestamp a.ipRepr a.tcpRepr)
      | none =>
        if tcpRepr.control = .syn then
          match w.create a.pair with
          | .ok _ => some (.create a.pair)
          | .error _ => none
        else none
    | .error _ => none
  | _ => none

/-- The event of the handling of what the selector returned. -/
def handleEvent (wire : Wire) (w : World T Q) : IoSelected → Option Event
  | .a (.error _, _) => some .stop
  | .a (.ok _, _) => none
  | .b (.error _) => some .stop
  | .b (.ok []) => none
  | .b (.ok (b :: bytes)) => ingressEvent wire w (b :: bytes)
  | .c half => some (.dropHalf half)
  | .d (socket, pollAt) => some (.update socket pollAt)

/-- The event of the head of the loop: a dispatch, if the writer is at hand and no reply fills
its buffer. -/
def turnEvent (wire : Wire) (s : State T Q) : Option Event :=
  match s.writing with
  | none => none
  | some writeBuf =>
    match s.serialised wire writeBuf with
    | .ok ([], _) => s.world.nextPoll.map .dispatch
    | _ => none

/-- The event of one poll. -/
def pollEvent (wire : Wire) (s : State T Q) (dev : Device) : Option Event :=
  match (s.selector.poll (s.cx dev)).1 with
  | .ready x => handleEvent wire s.world x
  | .pending =>
    if s.world.nextPoll = none then
      (s.world.queue.poll s.world.now).map fun r => .expire r.1
    else none

/-- The event of the world that a step of the loop is, if it is one. -/
def event (wire : Wire) (s : State T Q) : Label → Option Event
  | .elapse nanos => some (.elapse nanos)
  | .app a => some (.app a)
  | .turn => s.turnEvent wire
  | .poll dev => s.pollEvent wire dev
  | .resume =>
    match s.pc with
    | .sending _ => some (if s.world.listening then .handOver else .refuse)
    | .inserting _ => some .insert
    | .processing a => some (.process a.pair a.timestamp a.ipRepr a.tcpRepr)
    | _ => none
  | .unwind _ => some .stop

/-! ## Where the loop is -/

/-- Where the loop is says how far `create_syn` is and whether the loop still runs. -/
def Consistent (s : State T Q) : Prop :=
  match s.pc with
  | .top | .select => s.world.creating = none ∧ s.world.running = true
  | .sending a => (∃ id, s.world.creating = some ⟨a.pair, id, false⟩) ∧ s.world.running = true
  | .inserting a => (∃ id, s.world.creating = some ⟨a.pair, id, true⟩) ∧ s.world.running = true
  | .processing a =>
    s.world.creating = none ∧ s.world.running = true ∧ (s.world.sockets a.pair).isSome
  | .halted => s.world.creating = none ∧ s.world.running = false

/-- The loop is between two iterations, or at the selector. -/
def BetweenIterations (s : State T Q) : Prop := s.pc = .top ∨ s.pc = .select

omit [TcpSocket T] in
lemma Consistent.idle {s : State T Q} (h : s.Consistent) (hpc : s.BetweenIterations) :
    s.world.creating = none ∧ s.world.running = true := by
  unfold Consistent at h
  rcases hpc with hpc | hpc <;> rw [hpc] at h <;> exact h

omit [TcpSocket T] in
lemma consistent_init (clock : Clock) : (init clock : State T Q).Consistent := ⟨rfl, rfl⟩

/-! ## The selector's answer -/

/-- Polling the write future leaves the receivers alone. -/
lemma pollSlot_write {slot slot' : Option WriteFuture} {w w' : Cx}
    {r : Option (Except IoError ℕ × List UInt8)} (h : pollSlot slot w = (r, slot', w')) :
    w'.closing = w.closing ∧ w'.polls = w.polls := by
  cases slot with
  | none => cases h; exact ⟨rfl, rfl⟩
  | some f =>
    cases hw : w.written with
    | none => simp only [pollSlot, Future.poll, hw] at h; cases h; exact ⟨rfl, rfl⟩
    | some n => simp only [pollSlot, Future.poll, hw] at h; cases h; exact ⟨rfl, rfl⟩

/-- Polling the read future leaves the receivers alone. -/
lemma pollSlot_read {slot slot' : Option ReadFuture} {w w' : Cx}
    {r : Option (Except IoError (List UInt8))} (h : pollSlot slot w = (r, slot', w')) :
    w'.closing = w.closing ∧ w'.polls = w.polls := by
  cases slot with
  | none => cases h; exact ⟨rfl, rfl⟩
  | some f =>
    cases hw : w.read with
    | none => simp only [pollSlot, Future.poll, hw] at h; cases h; exact ⟨rfl, rfl⟩
    | some n => simp only [pollSlot, Future.poll, hw] at h; cases h; exact ⟨rfl, rfl⟩

/-- Polling the receiver of half-close messages takes the oldest one, if it takes one. -/
lemma pollSlot_close {slot slot' : Option RecvClose} {w w' : Cx} {r : Option Half}
    (h : pollSlot slot w = (r, slot', w')) :
    w.closing = r.toList ++ w'.closing ∧ w'.polls = w.polls := by
  cases slot with
  | none => cases h; exact ⟨rfl, rfl⟩
  | some f =>
    cases hw : w.closing with
    | nil => simp only [pollSlot, Future.poll, hw] at h; cases h; exact ⟨hw.symm, rfl⟩
    | cons m rest => simp only [pollSlot, Future.poll, hw] at h; cases h; exact ⟨rfl, rfl⟩

/-- Polling the receiver of poll updates takes the oldest one, if it takes one. -/
lemma pollSlot_poll {slot slot' : Option RecvPoll} {w w' : Cx} {r : Option PollUpdate}
    (h : pollSlot slot w = (r, slot', w')) :
    w'.closing = w.closing ∧ w.polls = r.toList ++ w'.polls := by
  cases slot with
  | none => cases h; exact ⟨rfl, rfl⟩
  | some f =>
    cases hw : w.polls with
    | nil => simp only [pollSlot, Future.poll, hw] at h; cases h; exact ⟨rfl, hw.symm⟩
    | cons u rest => simp only [pollSlot, Future.poll, hw] at h; cases h; exact ⟨rfl, rfl⟩

/-- The message that an answer of the selector carries is the oldest of its channel, and no
other message is taken. -/
lemma selector_ready {sel sel' : IoSelector} {w w' : Cx} {x : IoSelected}
    (h : sel.poll w = (.ready x, sel', w')) :
    match x with
    | .c half => w.closing = half :: w'.closing ∧ w'.polls = w.polls
    | .d u => w'.closing = w.closing ∧ w.polls = u :: w'.polls
    | _ => w'.closing = w.closing ∧ w'.polls = w.polls := by
  unfold Selector.poll at h
  split at h
  · next ra a wa ha =>
    cases h
    exact pollSlot_write ha
  · next a wa ha =>
    obtain ⟨ca, pa⟩ := pollSlot_write ha
    split at h
    · next rb b wb hb =>
      cases h
      obtain ⟨cb, pb⟩ := pollSlot_read hb
      exact ⟨cb.trans ca, pb.trans pa⟩
    · next b wb hb =>
      obtain ⟨cb, pb⟩ := pollSlot_read hb
      rw [ca] at cb
      rw [pa] at pb
      split at h
      · next rc c wc hc =>
        cases h
        obtain ⟨cc, pc⟩ := pollSlot_close hc
        exact ⟨cb ▸ cc, pc.trans pb⟩
      · next c wc hc =>
        obtain ⟨cc, pc⟩ := pollSlot_close hc
        simp only [Option.toList_none, List.nil_append] at cc
        split at h
        · next rd d wd hd =>
          cases h
          obtain ⟨cd, pd⟩ := pollSlot_poll hd
          refine ⟨?_, ?_⟩
          · rw [cd, ← cc, cb]
          · rw [← pb, ← pc, pd]; rfl
        · cases h

/-! ## Each step of the loop is its event -/

variable {wire : Wire} {s s' : State T Q}

omit [TcpSocket T] in
lemma finishRead_ok {r : Except Error (Option Packet)} (h : s.finishRead r = .ok s') :
    s'.world = s.world ∧ s'.pc = .top := by
  obtain ⟨b, -, h⟩ := bind_ok h
  cases h
  exact ⟨rfl, rfl⟩

/-- A packet processed on a pooled connection changes neither the set of the pairs nor what the
loop is doing. -/
lemma process_frame {pair : AddrPair} {ts : SmolInstant} {ip : IpRepr} {tcp : TcpRepr}
    {reply : Except Error (Option Packet)} {w w' : World T Q}
    (h : w.process pair ts ip tcp = .ok (reply, w')) :
    w'.creating = w.creating ∧ w'.running = w.running := by
  unfold World.process at h
  split at h
  · cases h
  · split at h
    · cases h
    · cases h
      exact ⟨rfl, rfl⟩

lemma process_step {pair : AddrPair} {ts : SmolInstant} {ip : IpRepr} {tcp : TcpRepr}
    {reply : Except Error (Option Packet)} {w w' : World T Q}
    (h : w.process pair ts ip tcp = .ok (reply, w')) :
    w.step wire (.process pair ts ip tcp) = .ok w' := by
  rw [World.step, h]
  rfl

/-- The handling of a packet between two iterations is its event. -/
lemma ingress_ok {packet : List UInt8} (hcr : s.world.creating = none)
    (hrun : s.world.running = true) (h : s.ingress wire packet = .ok s') :
    Follows (World.step wire) s.world (ingressEvent wire s.world packet) s'.world ∧
      s'.Consistent := by
  -- every way out of the packet path but two leaves the world alone
  have out : ∀ {r}, s.finishRead r = .ok s' → s'.world = s.world ∧ s'.Consistent := by
    intro r hr
    obtain ⟨hw, hpc⟩ := finishRead_ok hr
    exact ⟨hw, by unfold Consistent; rw [hpc, hw]; exact ⟨hcr, hrun⟩⟩
  unfold ingress at h
  unfold ingressEvent
  cases hparse : parse wire packet with
  | error e => rw [hparse] at h; exact out h
  | ok p =>
    rw [hparse] at h
    match p with
    | none => exact out h
    | some (ipRepr, tcpRepr) =>
      dsimp only at h ⊢
      cases harr : arrival s.world ipRepr tcpRepr with
      | error e => rw [harr] at h; exact out h
      | ok a =>
        rw [harr] at h
        dsimp only at h ⊢
        cases hsock : s.world.sockets a.pair with
        | some c =>
          rw [hsock] at h
          obtain ⟨⟨reply, world⟩, hp, h⟩ := bind_ok h
          obtain ⟨hw, hpc⟩ := finishRead_ok h
          obtain ⟨hcr', hrun'⟩ := process_frame hp
          dsimp only at hw
          refine ⟨by rw [hw]; exact process_step hp, ?_⟩
          unfold Consistent
          rw [hpc, hw]
          exact ⟨hcr'.trans hcr, hrun'.trans hrun⟩
        | none =>
          rw [hsock] at h
          dsimp only at h ⊢
          by_cases hsyn : tcpRepr.control = .syn
          · rw [if_pos hsyn] at h
            rw [if_pos hsyn]
            cases hcreate : s.world.create a.pair with
            | error e => rw [hcreate] at h; exact out h
            | ok world =>
              rw [hcreate] at h
              cases h
              refine ⟨?_, ?_⟩
              · simp [Follows, World.step, hsock, hcr, hrun, hcreate]
              · have hsteps : World.Steps wire s.world (.create a.pair) world :=
                  World.create_ok hsock hcr hrun hcreate
                cases hsteps
                exact ⟨⟨_, rfl⟩, hrun⟩
          · rw [if_neg hsyn] at h
            rw [if_neg hsyn]
            exact out h

lemma ret_ok (h : s.ret wire = .ok s') :
    s.world.step wire .stop = .ok s'.world ∧ s'.Consistent := by
  obtain ⟨world, hw, h⟩ := bind_ok h
  cases h
  refine ⟨hw, ?_⟩
  cases World.steps_of_step hw with
  | stop hcr => exact ⟨hcr, rfl⟩

/-- The return of the loop does not panic. -/
lemma ret_panic {p : Panic} : s.ret wire ≠ .error (.panic p) := by
  intro h
  rcases bind_error h with h | ⟨w, -, h⟩
  · cases World.panics_of_step h
  · cases h

/-- Nor does its unwinding. -/
lemma unwind_panic {dev : Device} {p : Panic} : s.unwind wire dev ≠ .error (.panic p) := by
  intro h
  unfold unwind at h
  split at h
  · exact ret_panic h
  · cases h

/-- A loop that unwinds is one whose next step panics, and it ends as if it had returned. -/
lemma unwind_cases {dev : Device} (h : s.unwind wire dev = .ok s') :
    (∃ p, s.advance wire dev = .error (.panic p)) ∧ s.ret wire = .ok s' := by
  unfold unwind at h
  split at h
  · next p hp => exact ⟨⟨p, hp⟩, h⟩
  · cases h

/-- The handling of what the selector returned is its event; `closing` and `polls` are the
channels with the message that was returned still in them. -/
lemma handle_ok {x : IoSelected} (closing : List Half) (polls : List PollUpdate)
    (hcr : s.world.creating = none) (hrun : s.world.running = true)
    (hx : match x with
      | .c half => closing = half :: s.world.closing ∧ s.world.polls = polls
      | .d u => s.world.closing = closing ∧ polls = u :: s.world.polls
      | _ => s.world.closing = closing ∧ s.world.polls = polls)
    (h : s.handle wire x = .ok s') :
    Follows (World.step wire) { s.world with closing, polls }
      (handleEvent wire { s.world with closing, polls } x) s'.world ∧ s'.Consistent := by
  match x with
  | .a (.error e, b) =>
    obtain ⟨rfl, rfl⟩ := hx
    exact ret_ok h
  | .a (.ok n, b) =>
    obtain ⟨rfl, rfl⟩ := hx
    cases h
    exact ⟨rfl, hcr, hrun⟩
  | .b (.error e) =>
    obtain ⟨rfl, rfl⟩ := hx
    exact ret_ok h
  | .b (.ok []) =>
    obtain ⟨rfl, rfl⟩ := hx
    have h : s.finishRead (.ok none) = .ok s' := h
    obtain ⟨hw, hpc⟩ := finishRead_ok h
    refine ⟨hw, ?_⟩
    unfold Consistent
    rw [hpc, hw]
    exact ⟨hcr, hrun⟩
  | .b (.ok (b :: bytes)) =>
    obtain ⟨rfl, rfl⟩ := hx
    exact ingress_ok hcr hrun h
  | .c half =>
    obtain ⟨rfl, rfl⟩ := hx
    obtain ⟨world, hw, h⟩ := bind_ok h
    obtain ⟨c, -, h⟩ := bind_ok h
    cases h
    refine ⟨by simpa [Follows, handleEvent, World.step] using hw, ?_⟩
    have hsteps : World.Steps wire { s.world with closing := half :: s.world.closing }
        (.dropHalf half) world := World.dropTcpHalf_ok rfl hw
    cases hsteps
    exact ⟨hcr, hrun⟩
  | .d (socket, pollAt) =>
    obtain ⟨rfl, rfl⟩ := hx
    obtain ⟨d, -, h⟩ := bind_ok h
    cases h
    exact ⟨by simp [Follows, handleEvent, World.step], hcr, hrun⟩

lemma poll_ok {dev : Device} (hcons : s.Consistent) (h : s.poll wire dev = .ok s') :
    Follows (World.step wire) s.world (s.pollEvent wire dev) s'.world ∧ s'.Consistent := by
  unfold poll at h
  by_cases hpc : s.pc = .select
  · rw [if_pos hpc] at h
    obtain ⟨hcr, hrun⟩ := hcons.idle (Or.inr hpc)
    unfold pollEvent
    generalize hsel : s.selector.poll (s.cx dev) = r at h
    obtain ⟨p, sel, w⟩ := r
    match p with
    | .ready x =>
      have hx := selector_ready hsel
      -- the selector has taken the message already: put it back to compare with the event
      refine handle_ok s.world.closing s.world.polls
        (s := { s with
          selector := sel, world := { s.world with closing := w.closing, polls := w.polls } })
        hcr hrun ?_ h
      cases x <;> exact hx
    | .pending =>
      dsimp only at h ⊢
      by_cases hnext : s.world.nextPoll = none
      · rw [if_pos hnext] at h
        rw [if_pos hnext]
        cases hq : s.world.queue.poll s.world.now with
        | none =>
          rw [hq] at h
          cases h
          exact ⟨rfl, hcons⟩
        | some r =>
          obtain ⟨addr, queue⟩ := r
          rw [hq] at h
          cases h
          exact ⟨by simp [Follows, World.step, hnext, hq], hcr, hrun⟩
      · rw [if_neg hnext] at h
        rw [if_neg hnext]
        cases h
        exact ⟨rfl, hcons⟩
  · rw [if_neg hpc] at h
    cases h

lemma turn_ok (hcons : s.Consistent) (h : s.turn wire = .ok s') :
    Follows (World.step wire) s.world (s.turnEvent wire) s'.world ∧ s'.Consistent := by
  unfold turn at h
  by_cases hpc : s.pc = .top
  · obtain ⟨hcr, hrun⟩ := hcons.idle (Or.inl hpc)
    simp only [ne_eq, hpc, not_true_eq_false, if_false] at h
    by_cases hb : s.selector.b.isNone = true
    · rw [if_pos hb] at h; cases h
    · rw [if_neg hb] at h
      unfold turnEvent
      cases hwr : s.writing with
      | none =>
        rw [hwr] at h
        cases h
        exact ⟨rfl, hcr, hrun⟩
      | some writeBuf =>
        rw [hwr] at h
        obtain ⟨⟨buf, replies⟩, hser, h⟩ := bind_ok h
        obtain ⟨⟨buf', world⟩, hdisp, h⟩ := bind_ok h
        -- whatever becomes of the buffer, the world is `world`
        have hend : s'.world = world ∧ s'.pc = .select := by
          dsimp only at h
          by_cases hne : buf' ≠ []
          · rw [if_pos hne] at h
            obtain ⟨a, -, h⟩ := bind_ok h
            cases h
            exact ⟨rfl, rfl⟩
          · rw [if_neg hne] at h
            cases h
            exact ⟨rfl, rfl⟩
        obtain ⟨hw, hpc'⟩ := hend
        have hcons' : world.creating = none ∧ world.running = true → s'.Consistent := by
          intro hh
          unfold Consistent
          rw [hpc', hw]
          exact hh
        dsimp only
        rw [hser]
        -- a dispatch, if the buffer is empty and a pair is in `next_poll`
        unfold dispatchNext at hdisp
        match buf, hn : s.world.nextPoll with
        | [], some addr =>
          rw [hn] at hdisp
          have hdisp : s.world.dispatch wire addr = .ok (buf', world) := hdisp
          have hsteps := World.dispatch_ok hn hdisp
          refine ⟨?_, hcons' ?_⟩
          · simp only [Follows, Option.map_some, World.step, hn, if_true]
            rw [hdisp, hw]
            rfl
          · cases hsteps <;> exact ⟨hcr, hrun⟩
        | [], none =>
          rw [hn] at hdisp
          cases hdisp
          exact ⟨hw, hcons' ⟨hcr, hrun⟩⟩
        | b :: bs, _ =>
          cases hdisp
          exact ⟨hw, hcons' ⟨hcr, hrun⟩⟩
  · simp only [ne_eq, hpc, not_false_eq_true, if_true] at h
    cases h

/-- **The loop follows its events.** A step of the loop changes the world as its event does,
and leaves the loop where `create_syn` is. -/
theorem world_of_step {l : Label} (hcons : s.Consistent) (h : s.step wire l = .ok s') :
    Follows (World.step wire) s.world (s.event wire l) s'.world ∧ s'.Consistent := by
  cases l with
  | elapse nanos =>
    cases h
    refine ⟨rfl, ?_⟩
    unfold Consistent at hcons ⊢
    exact hcons
  | app a =>
    obtain ⟨world, hw, h⟩ := bind_ok h
    cases h
    refine ⟨hw, ?_⟩
    obtain ⟨hs, hcr, hrun⟩ := (World.steps_of_step hw).app_frame
    unfold Consistent at hcons ⊢
    dsimp only
    rw [hs, hcr, hrun]
    exact hcons
  | turn => exact turn_ok hcons h
  | poll dev => exact poll_ok hcons h
  | resume =>
    simp only [step, resume] at h
    unfold Consistent at hcons
    split at h
    · next a hpc =>
      rw [hpc] at hcons
      simp only [event, hpc]
      obtain ⟨world, hw, h⟩ := bind_ok h
      cases h
      refine ⟨hw, ?_⟩
      obtain ⟨⟨id, hid⟩, hrun⟩ := hcons
      cases hl : s.world.listening with
      | true =>
        rw [hl] at hw
        cases World.steps_of_step hw with
        | handOver hcr _ _ =>
          rw [hid] at hcr
          cases hcr
          exact ⟨⟨id, rfl⟩, hrun⟩
      | false =>
        rw [hl] at hw
        cases World.steps_of_step hw with
        | refuse hcr _ =>
          rw [hid] at hcr
          cases hcr
          exact ⟨⟨id, rfl⟩, hrun⟩
    · next a hpc =>
      rw [hpc] at hcons
      simp only [event, hpc]
      obtain ⟨world, hw, h⟩ := bind_ok h
      cases h
      refine ⟨hw, ?_⟩
      obtain ⟨⟨id, hid⟩, hrun⟩ := hcons
      cases World.steps_of_step hw with
      | insert hcr _ =>
        rw [hid] at hcr
        cases hcr
        exact ⟨rfl, hrun, by simp [World.setSocket]⟩
    · next a hpc =>
      rw [hpc] at hcons
      simp only [event, hpc]
      obtain ⟨⟨reply, world⟩, hp, h⟩ := bind_ok h
      obtain ⟨hw, hpc'⟩ := finishRead_ok h
      obtain ⟨hcr, hrun⟩ := process_frame hp
      dsimp only at hw
      refine ⟨by rw [hw]; exact process_step hp, ?_⟩
      unfold Consistent
      rw [hpc', hw]
      exact ⟨hcr.trans hcons.1, hrun.trans hcons.2.1⟩
    · cases h
  | unwind dev => exact ret_ok (unwind_cases h).2

/-! ## Panics -/

/-- The panics of the pool: the other panics are the loop's own. -/
def ofPool : Panic → Bool
  | .dispatchAfterDropping | .dropHalfOfUnknown | .processUnknown | .insertTwice => true
  | _ => false

omit [TcpSocket T] in
lemma finishRead_panic {r : Except Error (Option Packet)} {p : Panic} (hp : ofPool p = true) :
    s.finishRead r ≠ .error (.panic p) := by
  intro h
  unfold finishRead fillSlot at h
  cases hb : s.selector.b with
  | none => rw [hb] at h; cases h
  | some f => rw [hb] at h; cases h; cases hp

lemma drainReplies_panic {rs : List Packet} {p : Panic} (hp : ofPool p = true) :
    drainReplies wire rs ≠ .error (.panic p) := by
  induction rs with
  | nil => intro h; cases h
  | cons r rest ih =>
    intro h
    rw [drainReplies] at h
    split at h
    · cases h; cases hp
    · exact ih h
    · cases h

lemma fillSlot_panic {F : Type} {slot : Option F} {f : F} {p : Panic} (hp : ofPool p = true) :
    fillSlot slot f ≠ .error (.panic p) := by
  intro h
  cases slot with
  | none => cases h
  | some g => cases h; cases hp

lemma process_panic {pair : AddrPair} {ts : SmolInstant} {ip : IpRepr} {tcp : TcpRepr}
    {p : Panic} {w : World T Q} (h : w.process pair ts ip tcp = .error (.panic p)) :
    w.step wire (.process pair ts ip tcp) = .error (.panic p) := by
  rw [World.step, h]
  rfl

lemma ingress_panic {packet : List UInt8} {p : Panic} (hp : ofPool p = true)
    (h : s.ingress wire packet = .error (.panic p)) :
    ∃ e, ingressEvent wire s.world packet = some e ∧
      s.world.step wire e = .error (.panic p) := by
  unfold ingress at h
  unfold ingressEvent
  split at h
  · exact absurd h (finishRead_panic hp)
  · exact absurd h (finishRead_panic hp)
  · next ip tcp hparse =>
    rw [hparse]
    dsimp only
    split at h
    · exact absurd h (finishRead_panic hp)
    · next a harr =>
      rw [harr]
      dsimp only
      cases hc : s.world.sockets a.pair with
      | some c =>
        rw [hc] at h
        rcases bind_error h with h | ⟨r, -, h⟩
        · exact ⟨_, rfl, process_panic h⟩
        · exact absurd h (finishRead_panic hp)
      | none =>
        rw [hc] at h
        dsimp only at h
        split at h
        · split at h
          · cases h
          · exact absurd h (finishRead_panic hp)
        · exact absurd h (finishRead_panic hp)

lemma turn_panic {p : Panic} (hp : ofPool p = true) (h : s.turn wire = .error (.panic p)) :
    ∃ e, s.turnEvent wire = some e ∧ s.world.step wire e = .error (.panic p) := by
  unfold turn at h
  by_cases hpc : s.pc = .top
  · simp only [ne_eq, hpc, not_true_eq_false, if_false] at h
    by_cases hb : s.selector.b.isNone = true
    · rw [if_pos hb] at h
      cases h
      cases hp
    · rw [if_neg hb] at h
      unfold turnEvent
      cases hwr : s.writing with
      | none => rw [hwr] at h; cases h
      | some writeBuf =>
        rw [hwr] at h
        rcases bind_error h with h | ⟨⟨buf, replies⟩, hser, h⟩
        · unfold serialised at h
          split at h
          · exact absurd h (drainReplies_panic hp)
          · cases h
        · dsimp only
          rw [hser]
          rcases bind_error h with hd | ⟨⟨buf', world⟩, -, h⟩
          · unfold dispatchNext at hd
            split at hd
            · next addr hbuf hn =>
              obtain rfl : buf = [] := hbuf
              refine ⟨.dispatch addr, by simp [hn], ?_⟩
              rw [World.step, if_pos hn, hd]
              rfl
            · cases hd
          · dsimp only at h
            split at h
            · rcases bind_error h with h | ⟨a, -, h⟩
              · exact absurd h (fillSlot_panic hp)
              · cases h
            · cases h
  · simp only [ne_eq, hpc, not_false_eq_true, if_true] at h
    cases h

lemma poll_panic {dev : Device} {p : Panic} (hp : ofPool p = true)
    (h : s.poll wire dev = .error (.panic p)) :
    ∃ e, s.pollEvent wire dev = some e ∧ s.world.step wire e = .error (.panic p) := by
  unfold poll at h
  by_cases hpc : s.pc = .select
  · rw [if_pos hpc] at h
    unfold pollEvent
    generalize hsel : s.selector.poll (s.cx dev) = r at h
    obtain ⟨x, sel, w⟩ := r
    match x with
    | .pending =>
      dsimp only at h
      split at h
      · split at h <;> cases h
      · cases h
    | .ready x =>
      have hx := selector_ready hsel
      dsimp only at h ⊢
      match x with
      | .a (.error e, b) => exact absurd h ret_panic
      | .a (.ok n, b) => cases h
      | .b (.error e) => exact absurd h ret_panic
      | .b (.ok []) =>
        have h : finishRead _ (.ok none) = .error (.panic p) := h
        exact absurd h (finishRead_panic hp)
      | .b (.ok (b :: bytes)) =>
        obtain ⟨hc, hd⟩ := hx
        -- no message was taken
        have hw : { s.world with closing := w.closing, polls := w.polls } = s.world := by
          rw [hc, hd]
          rfl
        obtain ⟨e, he, hstep⟩ := ingress_panic hp h
        dsimp only at he hstep
        rw [hw] at he hstep
        exact ⟨e, he, hstep⟩
      | .c half =>
        obtain ⟨hc, hd⟩ := hx
        rcases bind_error h with h | ⟨w₁, -, h⟩
        · refine ⟨_, rfl, ?_⟩
          have hc : s.world.closing = half :: w.closing := hc
          have hd : w.polls = s.world.polls := hd
          simp only [World.step, hc, if_true]
          rw [hd] at h
          exact h
        · rcases bind_error h with h | ⟨c, -, h⟩
          · exact absurd h (fillSlot_panic hp)
          · cases h
      | .d (socket, pollAt) =>
        rcases bind_error h with h | ⟨d, -, h⟩
        · exact absurd h (fillSlot_panic hp)
        · cases h
  · rw [if_neg hpc] at h
    cases h

/-- **A panic of the pool is a panic of the event.** -/
theorem panic_event {l : Label} {p : Panic} (hp : ofPool p = true)
    (h : s.step wire l = .error (.panic p)) :
    ∃ e, s.event wire l = some e ∧ s.world.step wire e = .error (.panic p) := by
  cases l with
  | elapse nanos => cases h
  | app a =>
    rcases bind_error h with h | ⟨w, -, h⟩
    · exact ⟨_, rfl, h⟩
    · cases h
  | turn => exact turn_panic hp h
  | poll dev => exact poll_panic hp h
  | resume =>
    simp only [step, resume] at h
    split at h
    · next a hpc =>
      simp only [event, hpc]
      rcases bind_error h with h | ⟨w, -, h⟩
      · exact ⟨_, rfl, h⟩
      · cases h
    · next a hpc =>
      simp only [event, hpc]
      rcases bind_error h with h | ⟨w, -, h⟩
      · exact ⟨_, rfl, h⟩
      · cases h
    · next a hpc =>
      simp only [event, hpc]
      rcases bind_error h with h | ⟨r, -, h⟩
      · exact ⟨_, rfl, process_panic h⟩
      · exact absurd h (finishRead_panic hp)
    · cases h
  | unwind dev => exact absurd h unwind_panic

/-! ## Runs -/

/-- The runs of the loop from its start. -/
abbrev LoopRun (wire : Wire) (clock : Clock) (hist : List (State T Q × Label)) (s : State T Q) :
    Prop :=
  Run (step wire) (init clock) hist s

/-- The reachable states of the loop and the application. -/
abbrev LoopReachable (wire : Wire) (clock : Clock) (s : State T Q) : Prop :=
  Reachable (step wire) (init clock) s

/-- The events of a run, latest first, each with the world it happened in. -/
def events (wire : Wire) (hist : List (State T Q × Label)) : List (World T Q × Event) :=
  observe State.world (State.event wire) hist

variable {clock : Clock} {hist : List (State T Q × Label)}

lemma LoopReachable.after {l : Label} (h : LoopReachable wire clock s)
    (hl : s.step wire l = .ok s') : LoopReachable wire clock s' := by
  obtain ⟨hist, r⟩ := h
  exact ⟨_, r.next hl⟩

theorem LoopRun.consistent (r : LoopRun wire clock hist s) : s.Consistent :=
  r.reachable.invariant (consistent_init clock) fun h hs => (world_of_step h hs).2

/-- **A run of the loop is a run of the world.** -/
theorem LoopRun.world (r : LoopRun wire clock hist s) :
    Run (World.step wire) (World.init clock) (events wire hist) s.world :=
  Run.simulate (f := State.world) (consistent_init clock)
    (fun h hs => (world_of_step h hs).2) (fun h hs => (world_of_step h hs).1) r

/-- The steps of the world that a run of the loop makes. -/
lemma mem_events {x : World T Q × Event} :
    x ∈ events wire hist ↔ ∃ y ∈ hist, y.1.event wire y.2 = some x.2 ∧ y.1.world = x.1 := by
  obtain ⟨w, e⟩ := x
  simp only [events, observe, List.mem_filterMap, Option.map_eq_some_iff, Prod.mk.injEq]
  constructor
  · rintro ⟨y, hy, e', he, rfl, rfl⟩
    exact ⟨y, hy, he, rfl⟩
  · rintro ⟨y, hy, he, rfl⟩
    exact ⟨y, hy, e, he, rfl, rfl⟩

end State

end Ustunet
