import Ustunet.LoopSteps
import Ustunet.Reference

/-!
# The invariant of the loop

Between two iterations the loop moves four futures, the device's writer, its buffer, the replies
and `next_poll` around; `Armed` says where each of them is, and every step keeps it. The
assertions of the loop follow: those of the selector from `Armed`, and "Given buffer should be
empty", which the loop is written with here (`turnAsserting`), from the way the buffer is handed
on.
-/

namespace Ustunet

/-- The assertions of the loop: of the selector's slots, and of the buffer. -/
def Panic.asserts : Panic → Bool
  | .slotFilled | .slotEmpty | .bufferNotEmpty => true
  | _ => false

/-- Whether the read future is in its slot. -/
def Pc.reads : Pc → Bool
  | .top | .select => true
  | _ => false

namespace State

open Transition

variable {T Q : Type} [TcpSocket T] [DelayQueue AddrPair Q]

/-! ## The invariant -/

/-- The device's writer is in one place: at hand with an empty buffer, or in the write future. -/
def WriterPlace (writing : Option (List UInt8)) (a : Option WriteFuture) : Prop :=
  (writing = some [] ∧ a = none) ∨ (writing = none ∧ a.isSome = true)

/-- Where the loop's own variables are while it runs. -/
structure Armed (s : State T Q) : Prop where
  reader : s.selector.b.isSome = s.pc.reads
  close : s.selector.c.isSome = true
  update : s.selector.d.isSome = true
  writer : WriterPlace s.writing s.selector.a
  /-- Nothing waits while the device is idle. -/
  waits : s.pc = .select → s.selector.a = none →
    s.ingressReplies = [] ∧ s.world.nextPoll = none

omit [TcpSocket T] in
lemma armed_init (clock : Clock) : (init clock : State T Q).Armed where
  reader := rfl
  close := rfl
  update := rfl
  writer := Or.inl ⟨rfl, rfl⟩
  waits h := nomatch h

omit [TcpSocket T] in
/-- While a packet is handled, the slot of the read future is free. -/
lemma Armed.reader_none {s : State T Q} (hs : s.Armed) (h : s.pc.reads = false) :
    s.selector.b = none := by
  have hreader := hs.reader
  rw [h] at hreader
  exact Option.isNone_iff_eq_none.mp (Option.isSome_eq_false_iff.mp hreader)

/-! ### The head of the loop -/

section

variable {wire : Wire} {s s' : State T Q}

/-- The replies are popped until the buffer is filled, or there are none left. -/
lemma drainReplies_nil {rs rest : List Packet} (h : drainReplies wire rs = .ok ([], rest)) :
    rest = [] := by
  induction rs with
  | nil =>
    cases h
    rfl
  | cons r rs ih =>
    rw [drainReplies] at h
    split at h
    · cases h
    · exact ih h
    · cases h

/-- A dispatch takes the pair out of `next_poll`. -/
lemma nextPoll_of_dispatch {w w' : World T Q} {addr : AddrPair} {buf : List UInt8}
    (h : w.dispatch wire addr = .ok (buf, w')) : w'.nextPoll = none := by
  unfold World.dispatch at h
  dsimp only at h
  split at h
  · cases h
  · split at h
    · cases h
    · split at h <;> cases h <;> rfl

/-- The application leaves `next_poll` alone. -/
lemma nextPoll_of_app (wire : Wire) {w w' : World T Q} {a : Action} (h : w.act a = .ok w') :
    w'.nextPoll = w.nextPoll := by
  have hstep : w.step wire (.app a) = .ok w' := h
  cases World.steps_of_step hstep <;> rfl

/-- A turn that leaves the writer at hand leaves nothing to write. -/
lemma waits_of_rest {buf : List UInt8} {replies : List Packet} {world : World T Q}
    (hser : s.serialised wire [] = .ok (buf, replies))
    (hd : s.dispatchNext wire buf = .ok ([], world)) : replies = [] ∧ world.nextPoll = none := by
  unfold dispatchNext at hd
  split at hd
  · next addr hn => exact ⟨drainReplies_nil hser, nextPoll_of_dispatch hd⟩
  · next hne =>
    cases hd
    refine ⟨drainReplies_nil hser, ?_⟩
    cases hn : s.world.nextPoll with
    | none => rfl
    | some addr => exact absurd hn (hne addr rfl)

/-- **Every step keeps the invariant**, until the loop returns or panics. -/
lemma armed_step {l : Label} (hs : s.Armed) (h : LoopSteps wire s l s') :
    s'.pc = .halted ∨ s'.Armed := by
  obtain ⟨hb, hc, hd, hwr, hwait⟩ := hs
  cases h with
  | elapse nanos => exact Or.inr ⟨hb, hc, hd, hwr, hwait⟩
  | app h =>
    refine Or.inr ⟨hb, hc, hd, hwr, ?_⟩
    rw [nextPoll_of_app wire h]
    exact hwait
  | busy hpc hw =>
    rw [hpc] at hb
    refine Or.inr ⟨hb, hc, hd, hwr, fun _ ha => ?_⟩
    -- the writer is in the write future
    rcases hwr with ⟨hwr, -⟩ | ⟨-, hwr⟩
    · rw [hw] at hwr
      cases hwr
    · rw [ha] at hwr
      cases hwr
  | write hpc hw hser hdisp hne ha =>
    rw [hpc] at hb
    exact Or.inr ⟨hb, hc, hd, Or.inr ⟨rfl, rfl⟩, fun _ h => nomatch h⟩
  | rest hpc hw hser hdisp =>
    rw [hpc] at hb
    rcases hwr with ⟨hwr, ha⟩ | ⟨hwr, -⟩
    · rw [hw] at hwr
      cases hwr
      exact Or.inr ⟨hb, hc, hd, Or.inl ⟨rfl, ha⟩, fun _ _ => waits_of_rest hser hdisp⟩
    · rw [hw] at hwr
      cases hwr
  | wait hpc hsel hq => exact Or.inr ⟨hb, hc, hd, hwr, hwait⟩
  | expire hpc hsel hnext hq =>
    rw [hpc] at hb
    exact Or.inr ⟨hb, hc, hd, hwr, fun h => nomatch h⟩
  | written hpc ha hsel =>
    rw [hpc] at hb
    exact Or.inr ⟨hb, hc, hd, Or.inl ⟨rfl, rfl⟩, fun h => nomatch h⟩
  | failed hpc hsel hw => exact Or.inl rfl
  | ignored hr h =>
    rw [hr.pc] at hb
    exact Or.inr ⟨hb, hc, hd, hwr, fun h => nomatch h⟩
  | known hr hp ha hc' h =>
    rw [hr.pc] at hb
    exact Or.inr ⟨hb, hc, hd, hwr, fun h => nomatch h⟩
  | create hr hp ha hc' hsyn h => exact Or.inr ⟨rfl, hc, hd, hwr, fun h => nomatch h⟩
  | close hpc hsel hm h =>
    rw [hpc] at hb
    exact Or.inr ⟨hb, hc, hd, hwr, fun h => nomatch h⟩
  | update hpc hsel hu =>
    rw [hpc] at hb
    exact Or.inr ⟨hb, hc, hd, hwr, fun h => nomatch h⟩
  | sent hpc h =>
    rw [hpc] at hb
    exact Or.inr ⟨hb, hc, hd, hwr, fun h => nomatch h⟩
  | inserted hpc h =>
    rw [hpc] at hb
    exact Or.inr ⟨hb, hc, hd, hwr, fun h => nomatch h⟩
  | processed hpc hb' h => exact Or.inr ⟨rfl, hc, hd, hwr, fun h => nomatch h⟩
  | panicked h hw => exact Or.inl rfl

/-- A loop that has returned or panicked does nothing any more. -/
lemma halted_step {l : Label} (hpc : s.pc = .halted) (h : LoopSteps wire s l s') :
    s'.pc = .halted := by
  have no : ∀ {dev : Device} {packet : List UInt8}, ¬ s.Reads dev packet := by
    intro dev packet hr
    rw [hr.pc] at hpc
    cases hpc
  cases h <;> first | exact hpc | exact absurd (by assumption) no | simp_all

/-- **In every reachable state** the loop has halted, or everything is where `Armed` says. -/
theorem LoopReachable.armed {clock : Clock} (h : LoopReachable wire clock s) :
    s.pc = .halted ∨ s.Armed := by
  refine Reachable.invariant (I := fun s => s.pc = .halted ∨ s.Armed)
    (Or.inr (armed_init clock)) ?_ h
  rintro s l s' (hpc | hs) h
  · exact Or.inl (halted_step hpc (steps_of_loop h))
  · exact armed_step hs (steps_of_loop h)

end

/-! ## The assertions -/

/-- `assert_eq!(0, buf.len(), "Given buffer should be empty.")`. -/
def assertEmpty (buf : List UInt8) : Except Stop Unit :=
  if buf = [] then .ok () else .error (.panic .bufferNotEmpty)

/-- `packet_to_bytes` with its assertion. -/
def packetToBytesAsserting (wire : Wire) (packet : Packet) (buf : List UInt8) :
    Except Stop (Except Error (List UInt8)) := do
  assertEmpty buf
  return packetToBytes wire packet

/-- The popping of the replies, into the loop's buffer. -/
def drainRepliesAsserting (wire : Wire) (buf : List UInt8) :
    List Packet → Except Stop (List UInt8 × List Packet)
  | [] => .ok (buf, [])
  | r :: rest => do
    match ← packetToBytesAsserting wire r buf with
    | .error _ => .error (.panic .serialise)
    | .ok [] => drainRepliesAsserting wire [] rest
    | .ok (b :: bytes) => .ok (b :: bytes, rest)

/-- `Connection::dispatch`: its own assertion, and that of `packet_to_bytes` in the closure that
is given to the socket. The buffer is not touched in between. -/
def connectionAsserts (wire : Wire) (tcp : T) (timestamp : SmolInstant) (buf : List UInt8) :
    Except Stop Unit := do
  assertEmpty buf
  match TcpSocket.dispatch tcp timestamp with
  | .quiet _ _ => return
  | .emit packet _ => let _ ← packetToBytesAsserting wire packet buf

/-- `SocketPool::dispatch` into the loop's buffer: the assertions on the way, and what it does
with an empty buffer. -/
def dispatchAsserting (wire : Wire) (w : World T Q) (buf : List UInt8) (addr : AddrPair) :
    Except Stop (List UInt8 × World T Q) := do
  assertEmpty buf
  match (w.sockets addr).bind fun c => w.shared c.socket with
  | some s => connectionAsserts wire s.tcp (w.clock.timestamp w.now) buf
  | none => pure ()
  w.dispatch wire addr

/-- The buffer after the replies have had their turn, and the replies left. -/
def serialisedAsserting (wire : Wire) (s : State T Q) (writeBuf : List UInt8) :
    Except Stop (List UInt8 × List Packet) :=
  if writeBuf = [] then drainRepliesAsserting wire writeBuf s.ingressReplies
  else .ok (writeBuf, s.ingressReplies)

/-- Dispatch the socket in `next_poll`, if there is one and the buffer is free for it. -/
def dispatchNextAsserting (wire : Wire) (s : State T Q) (writeBuf : List UInt8) :
    Except Stop (List UInt8 × World T Q) :=
  match writeBuf, s.world.nextPoll with
  | [], some addr => dispatchAsserting wire s.world writeBuf addr
  | _, _ => .ok (writeBuf, s.world)

/-- From the head of the loop to the selector, with the assertions about the buffer. -/
def turnAsserting (wire : Wire) (s : State T Q) : Except Stop (State T Q) := do
  if s.pc ≠ .top then throw .disabled
  if s.selector.b.isNone then throw (.panic .slotEmpty)
  match s.writing with
  | none => return { s with pc := .select }
  | some writeBuf =>
    let (writeBuf, replies) ← s.serialisedAsserting wire writeBuf
    let (writeBuf, world) ← s.dispatchNextAsserting wire writeBuf
    if writeBuf ≠ [] then
      let a ← fillSlot s.selector.a ⟨writeBuf⟩
      return { s with
        world, selector := { s.selector with a }, writing := none, ingressReplies := replies,
        pc := .select }
    else
      return { s with world, writing := some writeBuf, ingressReplies := replies, pc := .select }

/-- The selector before the loop: `Selector::new` and three insertions. -/
def startSelector : Except Stop IoSelector := do
  let sel : IoSelector := .new
  let b ← fillSlot sel.b ⟨⟩
  let c ← fillSlot sel.c ⟨⟩
  let d ← fillSlot sel.d ⟨⟩
  return { sel with b, c, d }

/-- One step, with every assertion of the loop. -/
def stepAsserting (wire : Wire) (s : State T Q) (l : Label) : Except Stop (State T Q) :=
  match l with
  | .turn => s.turnAsserting wire
  | l => s.step wire l

section

variable {wire : Wire} {s s' : State T Q}

lemma drainRepliesAsserting_eq (rs : List Packet) :
    drainRepliesAsserting wire [] rs = drainReplies wire rs := by
  induction rs with
  | nil => rfl
  | cons r rest ih =>
    have h : packetToBytesAsserting wire r [] = .ok (packetToBytes wire r) := rfl
    rw [drainRepliesAsserting, drainReplies, h]
    cases packetToBytes wire r with
    | error e => rfl
    | ok buf =>
      cases buf with
      | nil => exact ih
      | cons b bytes => rfl

lemma connectionAsserts_ok (tcp : T) (ts : SmolInstant) :
    connectionAsserts wire tcp ts [] = .ok () := by
  unfold connectionAsserts
  cases TcpSocket.dispatch tcp ts <;> rfl

lemma dispatchAsserting_eq (w : World T Q) (addr : AddrPair) :
    dispatchAsserting wire w [] addr = w.dispatch wire addr := by
  unfold dispatchAsserting
  cases (w.sockets addr).bind fun c => w.shared c.socket with
  | none => rfl
  | some s =>
    dsimp only
    rw [connectionAsserts_ok]
    rfl

omit [TcpSocket T] in
lemma serialisedAsserting_eq (s : State T Q) (buf : List UInt8) :
    s.serialisedAsserting wire buf = s.serialised wire buf := by
  unfold serialisedAsserting serialised
  split
  · next hbuf => rw [hbuf, drainRepliesAsserting_eq]
  · rfl

lemma dispatchNextAsserting_eq (s : State T Q) (buf : List UInt8) :
    s.dispatchNextAsserting wire buf = s.dispatchNext wire buf := by
  unfold dispatchNextAsserting dispatchNext
  cases buf with
  | cons b bs => rfl
  | nil =>
    cases s.world.nextPoll with
    | none => rfl
    | some addr => exact dispatchAsserting_eq s.world addr

/-- **The buffer is empty where it has to be**: with the assertions the loop does what it does
without them. -/
theorem stepAsserting_eq (s : State T Q) (l : Label) :
    s.stepAsserting wire l = s.step wire l := by
  cases l with
  | turn =>
    show s.turnAsserting wire = s.turn wire
    have hser : s.serialisedAsserting wire = s.serialised wire :=
      funext fun buf => serialisedAsserting_eq s buf
    have hdisp : s.dispatchNextAsserting wire = s.dispatchNext wire :=
      funext fun buf => dispatchNextAsserting_eq s buf
    unfold turnAsserting
    rw [hser, hdisp]
    rfl
  | _ => rfl

/-! ### None of them fails -/

variable {p : Panic}

lemma step_not_asserts {w : World T Q} {e : Event} (h : w.step wire e = .error (.panic p)) :
    p.asserts = false := by
  cases World.panics_of_step h <;> rfl

lemma fillSlot_none {F : Type} {slot : Option F} {f : F} {e : Stop} (hs : slot = none) :
    fillSlot slot f ≠ .error e := by
  intro h
  rw [hs] at h
  cases h

omit [TcpSocket T] in
lemma finishRead_empty {r : Except Error (Option Packet)} {e : Stop} (hb : s.selector.b = none) :
    s.finishRead r ≠ .error e := by
  intro h
  rcases bind_error h with h | ⟨b, -, h⟩
  · exact absurd h (fillSlot_none hb)
  · cases h

lemma process_not_asserts (wire : Wire) {w : World T Q} {pair : AddrPair} {ts : SmolInstant}
    {ip : IpRepr} {tcp : TcpRepr} (h : w.process pair ts ip tcp = .error (.panic p)) :
    p.asserts = false := by
  have hstep : w.step wire (.process pair ts ip tcp) = .error (.panic p) := process_panic h
  exact step_not_asserts hstep

lemma ingress_not_asserts {packet : List UInt8} (hb : s.selector.b = none)
    (h : s.ingress wire packet = .error (.panic p)) : p.asserts = false := by
  unfold ingress at h
  split at h
  · exact absurd h (finishRead_empty hb)
  · exact absurd h (finishRead_empty hb)
  · split at h
    · exact absurd h (finishRead_empty hb)
    · split at h
      · rcases bind_error h with h | ⟨r, -, h⟩
        · exact process_not_asserts wire h
        · exact absurd h (finishRead_empty hb)
      · split at h
        · split at h
          · cases h
          · exact absurd h (finishRead_empty hb)
        · exact absurd h (finishRead_empty hb)

lemma drainReplies_not_asserts {rs : List Packet}
    (h : drainReplies wire rs = .error (.panic p)) : p.asserts = false := by
  induction rs with
  | nil => cases h
  | cons r rest ih =>
    rw [drainReplies] at h
    split at h
    · cases h
      rfl
    · exact ih h
    · cases h

lemma dispatchNext_not_asserts {buf : List UInt8}
    (h : s.dispatchNext wire buf = .error (.panic p)) : p.asserts = false := by
  unfold dispatchNext at h
  split at h
  · next addr hn =>
    have hstep : s.world.step wire (.dispatch addr) = .error (.panic p) := by
      rw [World.step, if_pos hn, h]
      rfl
    exact step_not_asserts hstep
  · cases h

lemma turn_not_asserts (hs : s.Armed) (h : s.turn wire = .error (.panic p)) :
    p.asserts = false := by
  unfold turn at h
  dsimp only at h
  by_cases hpc : s.pc = .top
  · rw [if_neg (not_not.mpr hpc)] at h
    have hb : ¬ s.selector.b.isNone = true := by
      have hreader := hs.reader
      rw [hpc] at hreader
      cases hsel : s.selector.b with
      | none =>
        rw [hsel] at hreader
        cases hreader
      | some f => exact Bool.false_ne_true
    rw [if_neg hb] at h
    rcases hs.writer with ⟨hw, ha⟩ | ⟨hw, -⟩
    · rw [hw] at h
      rcases bind_error h with h | ⟨⟨buf, replies⟩, -, h⟩
      · exact drainReplies_not_asserts h
      · rcases bind_error h with h | ⟨⟨buf', world⟩, -, h⟩
        · exact dispatchNext_not_asserts h
        · dsimp only at h
          split at h
          · rcases bind_error h with h | ⟨a, -, h⟩
            · exact absurd h (fillSlot_none ha)
            · cases h
          · cases h
    · rw [hw] at h
      cases h
  · rw [if_pos hpc] at h
    cases h

lemma poll_not_asserts {dev : Device} (h : s.poll wire dev = .error (.panic p)) :
    p.asserts = false := by
  unfold poll at h
  by_cases hpc : s.pc = .select
  · rw [if_pos hpc] at h
    generalize hsel : s.selector.poll (s.cx dev) = r at h
    obtain ⟨x, sel, w⟩ := r
    -- the slot of the answer is free when it is filled again
    cases selects_of_poll hsel with
    | @written f n ha hn =>
      cases n with
      | error e => exact absurd h ret_panic
      | ok n => cases h
    | @read r hb hr =>
      match r with
      | .error e => exact absurd h ret_panic
      | .ok [] =>
        have h : finishRead _ (.ok none) = .error (.panic p) := h
        exact absurd h (finishRead_empty rfl)
      | .ok (b :: bytes) =>
        refine ingress_not_asserts ?_ h
        rfl
    | @close half rest hc hm =>
      rcases bind_error h with h | ⟨world, -, h⟩
      · unfold World.dropTcpHalf at h
        split at h
        · cases h
          rfl
        · split at h <;> cases h
      · rcases bind_error h with h | ⟨c, -, h⟩
        · exact absurd h (fillSlot_none rfl)
        · cases h
    | @update u rest hd hu =>
      rcases bind_error h with h | ⟨d, -, h⟩
      · exact absurd h (fillSlot_none rfl)
      · cases h
    | wait =>
      dsimp only at h
      split at h
      · split at h <;> cases h
      · cases h
  · rw [if_neg hpc] at h
    cases h

lemma resume_not_asserts (hs : s.pc = .halted ∨ s.Armed)
    (h : s.resume wire = .error (.panic p)) : p.asserts = false := by
  unfold resume at h
  split at h
  · rcases bind_error h with h | ⟨world, -, h⟩
    · exact step_not_asserts h
    · cases h
  · rcases bind_error h with h | ⟨world, -, h⟩
    · exact step_not_asserts h
    · cases h
  · next a hpc =>
    have hb : s.selector.b = none := by
      rcases hs with hret | hs
      · rw [hret] at hpc
        cases hpc
      · exact hs.reader_none (by rw [hpc]; rfl)
    rcases bind_error h with h | ⟨r, -, h⟩
    · exact process_not_asserts wire h
    · exact absurd h (finishRead_empty hb)
  · cases h

lemma stepAsserting_not_asserts {l : Label} (hs : s.pc = .halted ∨ s.Armed)
    (h : s.stepAsserting wire l = .error (.panic p)) : p.asserts = false := by
  rw [stepAsserting_eq] at h
  cases l with
  | elapse nanos => cases h
  | app a =>
    rcases bind_error h with h | ⟨world, -, h⟩
    · exact step_not_asserts h
    · cases h
  | turn =>
    rcases hs with hret | hs
    · have h : s.turn wire = .error (.panic p) := h
      unfold turn at h
      rw [hret] at h
      cases h
    · exact turn_not_asserts hs h
  | poll dev => exact poll_not_asserts h
  | resume => exact resume_not_asserts hs h
  | unwind dev => exact absurd h unwind_panic

/-! ## The pair in `next_poll` -/

/-- A pair in `next_poll` stays there until it is dispatched or the loop halts. -/
lemma nextPoll_step {l : Label} {addr : AddrPair} (hcons : s.Consistent)
    (hn : s.world.nextPoll = some addr) (h : s.step wire l = .ok s') :
    s'.world.nextPoll = some addr ∨ s'.world.nextPoll = none ∧
      (s.event wire l = some (.dispatch addr) ∨ s.event wire l = some .stop) := by
  have hf := (world_of_step hcons h).1
  cases he : s.event wire l with
  | none =>
    rw [he] at hf
    rw [show s'.world = s.world from hf]
    exact Or.inl hn
  | some e =>
    rw [he] at hf
    have hsteps : World.Steps wire s.world e s'.world := World.steps_of_step hf
    generalize s'.world = w' at hsteps
    cases hsteps with
    | dispatchKeep hnext hc hs hd =>
      rw [hn] at hnext
      cases hnext
      exact Or.inr ⟨rfl, Or.inl rfl⟩
    | dispatchDrop hnext hc hs hd =>
      rw [hn] at hnext
      cases hnext
      exact Or.inr ⟨rfl, Or.inl rfl⟩
    | stop hcr => exact Or.inr ⟨rfl, Or.inr rfl⟩
    | expire hnext hq =>
      rw [hn] at hnext
      cases hnext
    | _ => exact Or.inl hn

/-- **The invariant of `io_loop`.** Wherever the loop waits on the selector: the slots of the
reader and of the two receivers are filled; the device's writer is at hand with an empty buffer,
or in the write future; and if a reply or a due dispatch waits, the device is writing. The pair in
`next_poll` is never overwritten. So no assertion about the slots or the buffer fails. -/
theorem io_loop_invariant {clock : Clock} (h : LoopReachable wire clock s) :
    (s.pc = .select →
      (s.selector.b.isSome = true ∧ s.selector.c.isSome = true ∧ s.selector.d.isSome = true) ∧
        WriterPlace s.writing s.selector.a ∧
        (s.ingressReplies ≠ [] ∨ s.world.nextPoll.isSome = true →
          s.selector.a.isSome = true)) ∧
      (∀ (l : Label) (s' : State T Q) (addr : AddrPair), s.world.nextPoll = some addr →
        s.step wire l = .ok s' →
        s'.world.nextPoll = some addr ∨ s'.world.nextPoll = none ∧
          (s.event wire l = some (.dispatch addr) ∨ s.event wire l = some .stop)) ∧
      startSelector = .ok (init clock : State T Q).selector ∧
      ∀ (l : Label) (p : Panic), s.stepAsserting wire l = .error (.panic p) →
        p.asserts = false := by
  have harmed := LoopReachable.armed h
  obtain ⟨hist, r⟩ := h
  refine ⟨fun hpc => ?_, ?_, rfl, fun l p hl => stepAsserting_not_asserts harmed hl⟩
  · rcases harmed with hret | hs
    · rw [hret] at hpc
      cases hpc
    · have hreader := hs.reader
      rw [hpc] at hreader
      refine ⟨⟨hreader, hs.close, hs.update⟩, hs.writer, fun hw => ?_⟩
      by_contra hnone
      obtain ⟨hreplies, hnext⟩ := hs.waits hpc (by simpa using hnone)
      rcases hw with hw | hw
      · exact hw hreplies
      · rw [hnext] at hw
        cases hw
  · intro l s' addr hn hl
    exact nextPoll_step (LoopRun.consistent r) hn hl

/-- The device is busy with the SYN-ACK while a due dispatch waits. -/
theorem io_loop_invariant_busy :
    ∃ s : Reference.Loop, LoopReachable Reference.wire Reference.clock s ∧ s.pc = .select ∧
      s.world.nextPoll = some Reference.pair ∧ WriterPlace s.writing s.selector.a ∧
      s.selector.a.isSome = true ∧
      ∀ (l : Label) (p : Panic), s.stepAsserting Reference.wire l = .error (.panic p) →
        p.asserts = false := by
  obtain ⟨hist, s, r, hs⟩ := Reference.run_of_check
    (Reference.handshake ++
      [.turn, Reference.receive .psh true [1], .turn, Reference.idle, .turn])
    (fun _ s => s.pc = .select && s.world.nextPoll = some Reference.pair) (by decide +kernel)
  rw [Bool.and_eq_true, decide_eq_true_eq, decide_eq_true_eq] at hs
  obtain ⟨hpc, hnext⟩ := hs
  obtain ⟨hsel, -, -, hassert⟩ := io_loop_invariant r.reachable
  obtain ⟨-, hwriter, hwaits⟩ := hsel hpc
  refine ⟨s, r.reachable, hpc, hnext, hwriter, hwaits (Or.inr ?_), hassert⟩
  rw [hnext]
  rfl

end

end State
end Ustunet
