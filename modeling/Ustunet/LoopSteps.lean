import Ustunet.Events
import Ustunet.Selection

/-!
# What a step does to the loop

`LoopSteps` lists everything that a step of `io_loop` can do to its own variables: the selector,
the writer, the replies and where it is. `steps_of_loop` proves that there is nothing else; the
results about the loop itself are proved from it.
-/

namespace Ustunet
namespace State

open Transition

/-! ## The selector of the loop -/

/-- The answer of a future that takes its output from the surroundings, if it is there. -/
def answer {F O : Type} (taken : Option (O × Cx)) (f : F) (w : Cx) : Poll O × F × Cx :=
  match taken with
  | some (x, w') => (.ready x, f, w')
  | none => (.pending, f, w)

section

variable {F O : Type} [Future F Cx O] (take : F → Cx → Option (O × Cx))
  (hf : ∀ f w, Future.poll f w = answer (take f w) f w) {slot slot' : Option F} {w w' : Cx}
include hf

/-- Such a future is not changed by a poll that returns `Pending`. -/
lemma pollSlot_none (h : pollSlot slot w = (none, slot', w')) : slot' = slot ∧ w' = w := by
  cases slot with
  | none =>
    cases h
    exact ⟨rfl, rfl⟩
  | some f =>
    simp only [pollSlot, hf, answer] at h
    cases ht : take f w with
    | none =>
      rw [ht] at h
      cases h
      exact ⟨rfl, rfl⟩
    | some x =>
      rw [ht] at h
      cases h

lemma pollSlot_some {x : O} (h : pollSlot slot w = (some x, slot', w')) :
    ∃ f, slot = some f ∧ take f w = some (x, w') ∧ slot' = none := by
  cases slot with
  | none => cases h
  | some f =>
    simp only [pollSlot, hf, answer] at h
    cases ht : take f w with
    | none =>
      rw [ht] at h
      cases h
    | some x =>
      rw [ht] at h
      cases h
      exact ⟨f, rfl, ht, rfl⟩

end

/-- What `write_future` takes. -/
def takeWritten (f : WriteFuture) (w : Cx) : Option ((Except IoError ℕ × List UInt8) × Cx) :=
  w.written.map fun n => ((n, f.buf), { w with written := none })

/-- What `read_future` takes. -/
def takeRead (_ : ReadFuture) (w : Cx) : Option (Except IoError (List UInt8) × Cx) :=
  w.read.map fun r => (r, { w with read := none })

/-- What `recv_close` takes. -/
def takeClose (_ : RecvClose) (w : Cx) : Option (Half × Cx) :=
  w.closing.head?.map fun m => (m, { w with closing := w.closing.tail })

/-- What `recv_poll` takes. -/
def takePoll (_ : RecvPoll) (w : Cx) : Option (PollUpdate × Cx) :=
  w.polls.head?.map fun u => (u, { w with polls := w.polls.tail })

lemma poll_write (f : WriteFuture) (w : Cx) :
    Future.poll f w = answer (takeWritten f w) f w := by
  obtain ⟨written, read, closing, polls⟩ := w
  cases written <;> rfl

lemma poll_read (f : ReadFuture) (w : Cx) :
    Future.poll f w = answer (takeRead f w) f w := by
  obtain ⟨written, read, closing, polls⟩ := w
  cases read <;> rfl

lemma poll_close (f : RecvClose) (w : Cx) :
    Future.poll f w = answer (takeClose f w) f w := by
  obtain ⟨written, read, closing, polls⟩ := w
  cases closing <;> rfl

lemma poll_poll (f : RecvPoll) (w : Cx) :
    Future.poll f w = answer (takePoll f w) f w := by
  obtain ⟨written, read, closing, polls⟩ := w
  cases polls <;> rfl

/-- What the selector of the loop does, given what the device's futures are ready with. -/
inductive Selects (sel : IoSelector) (w : Cx) :
    Poll IoSelected → IoSelector → Cx → Prop
  | written {f : WriteFuture} {n : Except IoError ℕ} (ha : sel.a = some f)
      (hn : w.written = some n) :
      Selects sel w (.ready (.a (n, f.buf))) { sel with a := none } { w with written := none }
  | read {r : Except IoError (List UInt8)} (hb : sel.b = some ⟨⟩) (hr : w.read = some r) :
      Selects sel w (.ready (.b r)) { sel with b := none } { w with read := none }
  | close {half : Half} {rest : List Half} (hc : sel.c = some ⟨⟩)
      (hm : w.closing = half :: rest) :
      Selects sel w (.ready (.c half)) { sel with c := none } { w with closing := rest }
  | update {u : PollUpdate} {rest : List PollUpdate} (hd : sel.d = some ⟨⟩)
      (hu : w.polls = u :: rest) :
      Selects sel w (.ready (.d u)) { sel with d := none } { w with polls := rest }
  | wait : Selects sel w .pending sel w

lemma selects_of_poll {sel sel' : IoSelector} {w w' : Cx} {r : Poll IoSelected}
    (h : sel.poll w = (r, sel', w')) : Selects sel w r sel' w' := by
  obtain ⟨a, b, c, d⟩ := sel
  cases Selector.poll_cases h with
  | a ha =>
    obtain ⟨f, hf, ht, rfl⟩ := pollSlot_some takeWritten poll_write ha
    obtain ⟨n, hn, he⟩ := Option.map_eq_some_iff.mp ht
    cases he
    exact .written hf hn
  | b ha hb =>
    obtain ⟨rfl, rfl⟩ := pollSlot_none takeWritten poll_write ha
    obtain ⟨f, hf, ht, rfl⟩ := pollSlot_some takeRead poll_read hb
    obtain ⟨r, hr, he⟩ := Option.map_eq_some_iff.mp ht
    cases he
    exact .read hf hr
  | c ha hb hc =>
    obtain ⟨rfl, rfl⟩ := pollSlot_none takeWritten poll_write ha
    obtain ⟨rfl, rfl⟩ := pollSlot_none takeRead poll_read hb
    obtain ⟨f, hf, ht, rfl⟩ := pollSlot_some takeClose poll_close hc
    obtain ⟨m, hm, he⟩ := Option.map_eq_some_iff.mp ht
    cases he
    obtain ⟨rest, hrest⟩ := List.head?_eq_some_iff.mp hm
    rw [hrest]
    exact .close hf hrest
  | d ha hb hc hd =>
    obtain ⟨rfl, rfl⟩ := pollSlot_none takeWritten poll_write ha
    obtain ⟨rfl, rfl⟩ := pollSlot_none takeRead poll_read hb
    obtain ⟨rfl, rfl⟩ := pollSlot_none takeClose poll_close hc
    obtain ⟨f, hf, ht, rfl⟩ := pollSlot_some takePoll poll_poll hd
    obtain ⟨u, hu, he⟩ := Option.map_eq_some_iff.mp ht
    cases he
    obtain ⟨rest, hrest⟩ := List.head?_eq_some_iff.mp hu
    rw [hrest]
    exact .update hf hrest
  | pending ha hb hc hd =>
    obtain ⟨rfl, rfl⟩ := pollSlot_none takeWritten poll_write ha
    obtain ⟨rfl, rfl⟩ := pollSlot_none takeRead poll_read hb
    obtain ⟨rfl, rfl⟩ := pollSlot_none takeClose poll_close hc
    obtain ⟨rfl, rfl⟩ := pollSlot_none takePoll poll_poll hd
    exact .wait

variable {T Q : Type} [TcpSocket T] [DelayQueue AddrPair Q]

/-! ## The steps of the loop -/

/-- The replies after a packet has been processed with the given result. -/
def pushed (result : Except Error (Option Packet)) (replies : List Packet) : List Packet :=
  match result with
  | .ok (some reply) => reply :: replies
  | _ => replies

/-- What the selector returns, given what the device's futures are ready with. -/
def selects (s : State T Q) (dev : Device) : Poll IoSelected :=
  (s.selector.poll (s.cx dev)).1

/-- The selector returns these bytes of the device. -/
structure Reads (s : State T Q) (dev : Device) (packet : List UInt8) : Prop where
  pc : s.pc = .select
  slot : s.selector.b = some ⟨⟩
  bytes : s.selects dev = .ready (.b (.ok packet))

/-- A packet that is not processed by a socket, nor the SYN of a new connection: it cannot be
parsed, is not TCP, or has no pair; its pair is unknown and it is no SYN, or no socket can listen
for it. -/
inductive Ignores (wire : Wire) (w : World T Q) (packet : List UInt8) :
    Except Error (Option Packet) → Prop
  | parse {e : Error} (h : parse wire packet = .error e) : Ignores wire w packet (.error e)
  | notTcp (h : parse wire packet = .ok none) : Ignores wire w packet (.ok none)
  | arrival {ip : IpRepr} {tcp : TcpRepr} {e : Error}
      (hp : State.parse wire packet = .ok (some (ip, tcp)))
      (h : State.arrival w ip tcp = .error e) : Ignores wire w packet (.error e)
  | unknown {ip : IpRepr} {tcp : TcpRepr} {a : Arrival}
      (hp : State.parse wire packet = .ok (some (ip, tcp)))
      (ha : State.arrival w ip tcp = .ok a) (hs : w.sockets a.pair = none)
      (hsyn : tcp.control ≠ .syn) : Ignores wire w packet (.error .dropped)
  | listen {ip : IpRepr} {tcp : TcpRepr} {a : Arrival} {e : Error}
      (hp : State.parse wire packet = .ok (some (ip, tcp)))
      (ha : State.arrival w ip tcp = .ok a) (hs : w.sockets a.pair = none)
      (hsyn : tcp.control = .syn) (h : w.create a.pair = .error e) :
      Ignores wire w packet (.error e)

/-- Everything that a step does to the loop. -/
inductive LoopSteps (wire : Wire) (s : State T Q) : Label → State T Q → Prop
  | elapse (nanos : ℕ) :
      LoopSteps wire s (.elapse nanos)
        { s with world := { s.world with now := s.world.now + nanos } }
  | app {a : Action} {world : World T Q} (h : s.world.act a = .ok world) :
      LoopSteps wire s (.app a) { s with world }
  | busy (hpc : s.pc = .top) (hw : s.writing = none) :
      LoopSteps wire s .turn { s with pc := .select }
  | write {writeBuf buf buf' : List UInt8} {replies : List Packet} {world : World T Q}
      (hpc : s.pc = .top) (hw : s.writing = some writeBuf)
      (hser : s.serialised wire writeBuf = .ok (buf, replies))
      (hd : s.dispatchNext wire buf = .ok (buf', world)) (hne : buf' ≠ [])
      (ha : s.selector.a = none) :
      LoopSteps wire s .turn { s with
        world, selector := { s.selector with a := some ⟨buf'⟩ }, writing := none
        ingressReplies := replies, pc := .select }
  | rest {writeBuf buf : List UInt8} {replies : List Packet} {world : World T Q}
      (hpc : s.pc = .top) (hw : s.writing = some writeBuf)
      (hser : s.serialised wire writeBuf = .ok (buf, replies))
      (hd : s.dispatchNext wire buf = .ok ([], world)) :
      LoopSteps wire s .turn { s with
        world, writing := some [], ingressReplies := replies, pc := .select }
  | wait {dev : Device} (hpc : s.pc = .select) (hsel : s.selects dev = .pending)
      (hq : s.world.nextPoll ≠ none ∨ s.world.queue.poll s.world.now = none) :
      LoopSteps wire s (.poll dev) s
  | expire {dev : Device} {addr : AddrPair} {queue : DispatchQueue AddrPair Q}
      (hpc : s.pc = .select) (hsel : s.selects dev = .pending) (hnext : s.world.nextPoll = none)
      (hq : s.world.queue.poll s.world.now = some (addr, queue)) :
      LoopSteps wire s (.poll dev) { s with
        world := { s.world with queue, nextPoll := some addr }, pc := .top }
  | written {dev : Device} {f : WriteFuture} {n : ℕ} (hpc : s.pc = .select)
      (ha : s.selector.a = some f) (hsel : s.selects dev = .ready (.a (.ok n, f.buf))) :
      LoopSteps wire s (.poll dev) { s with
        selector := { s.selector with a := none }, writing := some [], pc := .top }
  | failed {dev : Device} {e : IoError} {sel : IoSelector} {world : World T Q}
      (hpc : s.pc = .select)
      (hsel : (∃ buf, s.selects dev = .ready (.a (.error e, buf))) ∨
        s.selects dev = .ready (.b (.error e)))
      (hw : s.world.step wire .stop = .ok world) :
      LoopSteps wire s (.poll dev) { s with selector := sel, world, pc := .halted }
  | ignored {dev : Device} {packet : List UInt8} (hr : s.Reads dev packet)
      (h : packet = [] ∨ ∃ result, Ignores wire s.world packet result) :
      LoopSteps wire s (.poll dev) { s with pc := .top }
  | known {dev : Device} {packet : List UInt8} {a : Arrival} {c : Connection}
      {reply : Except Error (Option Packet)} {world : World T Q} (hr : s.Reads dev packet)
      (hp : parse wire packet = .ok (some (a.ipRepr, a.tcpRepr)))
      (ha : arrival s.world a.ipRepr a.tcpRepr = .ok a) (hc : s.world.sockets a.pair = some c)
      (h : s.world.process a.pair a.timestamp a.ipRepr a.tcpRepr = .ok (reply, world)) :
      LoopSteps wire s (.poll dev) { s with
        world, ingressReplies := pushed reply s.ingressReplies, pc := .top }
  | create {dev : Device} {packet : List UInt8} {a : Arrival} {world : World T Q}
      (hr : s.Reads dev packet)
      (hp : parse wire packet = .ok (some (a.ipRepr, a.tcpRepr)))
      (ha : arrival s.world a.ipRepr a.tcpRepr = .ok a) (hc : s.world.sockets a.pair = none)
      (hsyn : a.tcpRepr.control = .syn) (h : s.world.create a.pair = .ok world) :
      LoopSteps wire s (.poll dev) { s with
        world, selector := { s.selector with b := none }, pc := .sending a }
  | close {dev : Device} {half : Half} {rest : List Half} {world : World T Q}
      (hpc : s.pc = .select) (hsel : s.selects dev = .ready (.c half))
      (hm : s.world.closing = half :: rest)
      (h : { s.world with closing := rest }.dropTcpHalf half.socket half.rw = .ok world) :
      LoopSteps wire s (.poll dev) { s with world, pc := .top }
  | update {dev : Device} {socket : SocketHandle} {pollAt : PollAt} {rest : List PollUpdate}
      (hpc : s.pc = .select) (hsel : s.selects dev = .ready (.d (socket, pollAt)))
      (hu : s.world.polls = (socket, pollAt) :: rest) :
      LoopSteps wire s (.poll dev) { s with
        world := { s.world with polls := rest, queue := s.world.queue.send socket pollAt }
        pc := .top }
  | sent {a : Arrival} {world : World T Q} (hpc : s.pc = .sending a)
      (h : s.world.step wire (if s.world.listening then .handOver else .refuse) = .ok world) :
      LoopSteps wire s .resume { s with world, pc := .inserting a }
  | inserted {a : Arrival} {world : World T Q} (hpc : s.pc = .inserting a)
      (h : s.world.step wire .insert = .ok world) :
      LoopSteps wire s .resume { s with world, pc := .processing a }
  | processed {a : Arrival} {reply : Except Error (Option Packet)} {world : World T Q}
      (hpc : s.pc = .processing a) (hb : s.selector.b = none)
      (h : s.world.process a.pair a.timestamp a.ipRepr a.tcpRepr = .ok (reply, world)) :
      LoopSteps wire s .resume { s with
        world, selector := { s.selector with b := some ⟨⟩ }
        ingressReplies := pushed reply s.ingressReplies, pc := .top }
  | panicked {dev : Device} {p : Panic} {world : World T Q}
      (h : s.advance wire dev = .error (.panic p)) (hw : s.world.step wire .stop = .ok world) :
      LoopSteps wire s (.unwind dev) { s with world, pc := .halted }

/-! ## There is nothing else -/

section

variable {wire : Wire} {s s' : State T Q}

lemma fillSlot_ok {F : Type} {slot slot' : Option F} {f : F} (h : fillSlot slot f = .ok slot') :
    slot = none ∧ slot' = some f := by
  cases slot with
  | none =>
    cases h
    exact ⟨rfl, rfl⟩
  | some g => cases h

omit [TcpSocket T] in
lemma finishRead_eq {r : Except Error (Option Packet)} (h : s.finishRead r = .ok s') :
    s.selector.b = none ∧ s' = { s with
      ingressReplies := pushed r s.ingressReplies
      selector := { s.selector with b := some ⟨⟩ }, pc := .top } := by
  obtain ⟨b, hb, h⟩ := bind_ok h
  obtain ⟨hnone, rfl⟩ := fillSlot_ok hb
  refine ⟨hnone, ?_⟩
  match r with
  | .ok (some reply) => exact (Except.ok.inj h).symm
  | .ok none => exact (Except.ok.inj h).symm
  | .error e => exact (Except.ok.inj h).symm

omit [TcpSocket T] in
lemma arrival_packet {w : World T Q} {ip : IpRepr} {tcp : TcpRepr} {a : Arrival}
    (h : arrival w ip tcp = .ok a) : a.ipRepr = ip ∧ a.tcpRepr = tcp := by
  obtain ⟨src, -, h⟩ := bind_ok h
  obtain ⟨dst, -, h⟩ := bind_ok h
  dsimp only at h
  split at h
  · cases h
  · cases h
    exact ⟨rfl, rfl⟩

/-- The slot of the read future, taken and refilled. -/
lemma refill_b {sel : IoSelector} (hb : sel.b = some ⟨⟩) :
    { sel with b := some ⟨⟩ } = sel := by
  obtain ⟨a, b, c, d⟩ := sel
  cases hb
  rfl

lemma refill_c {sel : IoSelector} (hc : sel.c = some ⟨⟩) :
    { sel with c := some ⟨⟩ } = sel := by
  obtain ⟨a, b, c, d⟩ := sel
  cases hc
  rfl

lemma refill_d {sel : IoSelector} (hd : sel.d = some ⟨⟩) :
    { sel with d := some ⟨⟩ } = sel := by
  obtain ⟨a, b, c, d⟩ := sel
  cases hd
  rfl

lemma loop_turn (h : s.turn wire = .ok s') : LoopSteps wire s .turn s' := by
  unfold turn at h
  dsimp only at h
  have hpc : s.pc = .top := by
    by_contra hne
    rw [if_pos hne] at h
    cases h
  rw [if_neg (not_not.mpr hpc)] at h
  have hb : ¬ s.selector.b.isNone = true := by
    intro hb
    rw [if_pos hb] at h
    cases h
  rw [if_neg hb] at h
  cases hw : s.writing with
  | none =>
    rw [hw] at h
    cases h
    rw [← hw]
    exact .busy hpc hw
  | some writeBuf =>
    rw [hw] at h
    obtain ⟨⟨buf, replies⟩, hser, h⟩ := bind_ok h
    obtain ⟨⟨buf', world⟩, hd, h⟩ := bind_ok h
    dsimp only at h
    by_cases hne : buf' = []
    · rw [if_neg (not_not.mpr hne)] at h
      cases h
      subst hne
      exact .rest hpc hw hser hd
    · rw [if_pos hne] at h
      obtain ⟨a, ha, h⟩ := bind_ok h
      obtain ⟨hnone, rfl⟩ := fillSlot_ok ha
      cases h
      exact .write hpc hw hser hd hne hnone

/-- The handling of a packet that the selector has just returned: `sel` is the selector with the
read future still in it. -/
lemma loop_ingress {dev : Device} {packet : List UInt8} (hr : s.Reads dev packet)
    (h : { s with selector := { s.selector with b := none } }.ingress wire packet = .ok s') :
    LoopSteps wire s (.poll dev) s' := by
  -- the packets that no socket sees
  have out : ∀ {r}, { s with selector := { s.selector with b := none } }.finishRead r = .ok s' →
      Ignores wire s.world packet r → LoopSteps wire s (.poll dev) s' := by
    intro r hfin hi
    obtain ⟨-, rfl⟩ := finishRead_eq hfin
    have hpush : pushed r s.ingressReplies = s.ingressReplies := by cases hi <;> rfl
    dsimp only
    rw [hpush, refill_b hr.slot]
    exact .ignored hr (Or.inr ⟨r, hi⟩)
  unfold ingress at h
  split at h
  · next e hp => exact out h (.parse hp)
  · next hp => exact out h (.notTcp hp)
  · next ip tcp hp =>
    split at h
    · next e ha => exact out h (.arrival hp ha)
    · next a ha =>
      obtain ⟨hip, htcp⟩ : a.ipRepr = ip ∧ a.tcpRepr = tcp := arrival_packet ha
      subst hip htcp
      split at h
      · next c hc =>
        obtain ⟨⟨reply, world⟩, hproc, h⟩ := bind_ok h
        obtain ⟨-, rfl⟩ := finishRead_eq h
        dsimp only
        rw [refill_b hr.slot]
        exact .known hr hp ha hc hproc
      · next hc =>
        by_cases hsyn : a.tcpRepr.control = .syn
        · rw [if_pos hsyn] at h
          split at h
          · next world hw =>
            cases h
            exact .create hr hp ha hc hsyn hw
          · next e hw => exact out h (.listen hp ha hc hsyn hw)
        · rw [if_neg hsyn] at h
          exact out h (.unknown hp ha hc hsyn)

lemma loop_poll {dev : Device} (h : s.poll wire dev = .ok s') :
    LoopSteps wire s (.poll dev) s' := by
  unfold poll at h
  by_cases hpc : s.pc = .select
  · rw [if_pos hpc] at h
    generalize hsel : s.selector.poll (s.cx dev) = r at h
    obtain ⟨p, sel, w⟩ := r
    have hp : s.selects dev = p := congrArg Prod.fst hsel
    cases selects_of_poll hsel with
    | @written f n ha hn =>
      cases n with
      | error e =>
        obtain ⟨world, hw, h⟩ := bind_ok h
        cases h
        exact .failed hpc (Or.inl ⟨_, hp⟩) hw
      | ok n =>
        cases h
        exact .written hpc ha hp
    | @read r hb hr =>
      match r with
      | .error e =>
        obtain ⟨world, hw, h⟩ := bind_ok h
        cases h
        exact .failed hpc (Or.inr hp) hw
      | .ok [] =>
        have h : finishRead _ (.ok none) = .ok s' := h
        obtain ⟨-, rfl⟩ := finishRead_eq h
        dsimp only
        rw [refill_b hb]
        exact .ignored ⟨hpc, hb, hp⟩ (Or.inl rfl)
      | .ok (b :: bytes) => exact loop_ingress ⟨hpc, hb, hp⟩ h
    | @close half rest hc hm =>
      obtain ⟨world, hw, h⟩ := bind_ok h
      obtain ⟨c, hfill, h⟩ := bind_ok h
      obtain ⟨-, rfl⟩ := fillSlot_ok hfill
      cases h
      dsimp only
      rw [refill_c hc]
      exact .close hpc hp hm hw
    | @update u rest hd hu =>
      obtain ⟨d, hfill, h⟩ := bind_ok h
      obtain ⟨-, rfl⟩ := fillSlot_ok hfill
      cases h
      dsimp only
      rw [refill_d hd]
      exact .update hpc hp hu
    | wait =>
      dsimp only at h
      by_cases hnext : s.world.nextPoll = none
      · rw [if_pos hnext] at h
        split at h
        · next addr queue hq =>
          cases h
          exact .expire hpc hp hnext hq
        · next hq =>
          cases h
          exact .wait hpc hp (Or.inr hq)
      · rw [if_neg hnext] at h
        cases h
        exact .wait hpc hp (Or.inl hnext)
  · rw [if_neg hpc] at h
    cases h

lemma loop_resume (h : s.resume wire = .ok s') : LoopSteps wire s .resume s' := by
  unfold resume at h
  split at h
  · next a hpc =>
    obtain ⟨world, hw, h⟩ := bind_ok h
    cases h
    exact .sent hpc hw
  · next a hpc =>
    obtain ⟨world, hw, h⟩ := bind_ok h
    cases h
    exact .inserted hpc hw
  · next a hpc =>
    obtain ⟨⟨reply, world⟩, hp, h⟩ := bind_ok h
    obtain ⟨hb, rfl⟩ := finishRead_eq h
    exact .processed hpc hb hp
  · cases h

/-- **A step of the loop is one of `LoopSteps`.** -/
theorem steps_of_loop {l : Label} (h : s.step wire l = .ok s') : LoopSteps wire s l s' := by
  cases l with
  | elapse nanos =>
    cases h
    exact .elapse nanos
  | app a =>
    obtain ⟨world, hw, h⟩ := bind_ok h
    cases h
    exact .app hw
  | turn => exact loop_turn h
  | poll dev => exact loop_poll h
  | resume => exact loop_resume h
  | unwind dev =>
    obtain ⟨⟨p, hp⟩, h⟩ := unwind_cases h
    obtain ⟨world, hw, h⟩ := bind_ok h
    cases h
    exact .panicked hp hw

/-! ## The events of the packets -/

variable {dev : Device} {packet : List UInt8}

lemma pollEvent_ready {x : IoSelected} (h : s.selects dev = .ready x) :
    s.event wire (.poll dev) = handleEvent wire s.world x := by
  show s.pollEvent wire dev = _
  unfold pollEvent
  rw [show (s.selector.poll (s.cx dev)).1 = .ready x from h]

lemma pollEvent_pending (h : s.selects dev = .pending) :
    s.event wire (.poll dev) = if s.world.nextPoll = none then
      (s.world.queue.poll s.world.now).map fun r => .expire r.1 else none := by
  show s.pollEvent wire dev = _
  unfold pollEvent
  rw [show (s.selector.poll (s.cx dev)).1 = .pending from h]

lemma pollEvent_read (hr : s.Reads dev packet) (hne : packet ≠ []) :
    s.event wire (.poll dev) = ingressEvent wire s.world packet := by
  rw [pollEvent_ready hr.bytes]
  cases packet with
  | nil => exact absurd rfl hne
  | cons b bytes => rfl

/-- A packet that is parsed has at least one byte. -/
lemma ne_nil_of_parse {p : Packet} (h : parse wire packet = .ok (some p)) : packet ≠ [] := by
  rintro rfl
  cases h

lemma ingressEvent_ignores {w : World T Q} {result : Except Error (Option Packet)}
    (h : Ignores wire w packet result) : ingressEvent wire w packet = none := by
  unfold ingressEvent
  cases h with
  | parse h => rw [h]
  | notTcp h => rw [h]
  | arrival hp h =>
    rw [hp]
    dsimp only
    rw [h]
  | unknown hp ha hs hsyn =>
    rw [hp]
    dsimp only
    rw [ha]
    dsimp only
    rw [hs]
    exact if_neg hsyn
  | listen hp ha hs hsyn h =>
    rw [hp]
    dsimp only
    rw [ha]
    dsimp only
    rw [hs]
    dsimp only
    rw [if_pos hsyn, h]

/-- A packet that no connection sees is no event. -/
lemma event_ignored (hr : s.Reads dev packet)
    (h : packet = [] ∨ ∃ result, Ignores wire s.world packet result) :
    s.event wire (.poll dev) = none := by
  by_cases hne : packet = []
  · rw [pollEvent_ready hr.bytes, hne]
    rfl
  · rw [pollEvent_read hr hne]
    rcases h with hnil | ⟨result, hi⟩
    · exact absurd hnil hne
    · exact ingressEvent_ignores hi

lemma event_known {a : Arrival} {c : Connection} (hr : s.Reads dev packet)
    (hp : parse wire packet = .ok (some (a.ipRepr, a.tcpRepr)))
    (ha : arrival s.world a.ipRepr a.tcpRepr = .ok a) (hc : s.world.sockets a.pair = some c) :
    s.event wire (.poll dev) = some (.process a.pair a.timestamp a.ipRepr a.tcpRepr) := by
  rw [pollEvent_read hr (ne_nil_of_parse hp)]
  unfold ingressEvent
  rw [hp]
  dsimp only
  rw [ha]
  dsimp only
  rw [hc]

lemma event_create {a : Arrival} {world : World T Q} (hr : s.Reads dev packet)
    (hp : parse wire packet = .ok (some (a.ipRepr, a.tcpRepr)))
    (ha : arrival s.world a.ipRepr a.tcpRepr = .ok a) (hc : s.world.sockets a.pair = none)
    (hsyn : a.tcpRepr.control = .syn) (h : s.world.create a.pair = .ok world) :
    s.event wire (.poll dev) = some (.create a.pair) := by
  rw [pollEvent_read hr (ne_nil_of_parse hp)]
  unfold ingressEvent
  rw [hp]
  dsimp only
  rw [ha]
  dsimp only
  rw [hc]
  dsimp only
  rw [if_pos hsyn, h]

lemma event_sending {a : Arrival} (hpc : s.pc = .sending a) :
    s.event wire .resume = some (if s.world.listening then .handOver else .refuse) := by
  unfold event
  rw [hpc]

lemma event_inserting {a : Arrival} (hpc : s.pc = .inserting a) :
    s.event wire .resume = some .insert := by
  unfold event
  rw [hpc]

lemma event_processing {a : Arrival} (hpc : s.pc = .processing a) :
    s.event wire .resume = some (.process a.pair a.timestamp a.ipRepr a.tcpRepr) := by
  unfold event
  rw [hpc]

end

end State
end Ustunet
