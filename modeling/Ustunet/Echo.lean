import Ustunet.Bytes
import Ustunet.Lib.Follow

/-!
# The echo server

`examples/echo.rs`: for each stream that is accepted, a task reads into a buffer of 1024 bytes and
writes what it has read, until the stream ends. `echoes_in_order` follows the bytes from the peer
through the receive buffer, the task and the transmit buffer back to the peer.

The task writes once and does not look at how much of it was taken. What did not fit in the
transmit buffer is lost, so the peer gets back a part of what it sent, in order, and a prefix of it
as long as every write takes everything.
-/

namespace Ustunet

/-- Where the task of a stream is. -/
inductive EchoTask
  /-- `socket.read(&mut buf).await`. -/
  | reading
  /-- `socket.write(content).await`; the end of the stream has no content. -/
  | writing (b : UInt8) (bytes : List UInt8)
  /-- The loop is left, or the task has panicked: the stream is dropped. -/
  | ended
deriving DecidableEq

variable {T Q : Type} [TcpSocket T] [DelayQueue AddrPair Q]

namespace EchoTask

/-- The length of `buf`. -/
def bufLen : ℕ := 1024

/-- What is read and not written. -/
def content : EchoTask → List UInt8
  | .writing b bytes => b :: bytes
  | _ => []

def afterRead : Poll (Except IoError (List UInt8)) → EchoTask
  | .pending => .reading
  | .ready (.ok (b :: bytes)) => .writing b bytes
  -- `n == 0`
  | .ready (.ok []) => .ended
  -- `expect("read")`
  | .ready (.error _) => .ended

def afterWrite (b : UInt8) (bytes : List UInt8) : Poll (Except IoError ℕ) → EchoTask
  | .pending => .writing b bytes
  -- whatever was not taken is forgotten
  | .ready (.ok _) => .reading
  -- `expect("write failed")`
  | .ready (.error _) => .ended

/-- The task after a step of its connection; `none` if it makes no such call. -/
def next (t : EchoTask) (s : Option (Shared T)) (e : SoloEvent) : Option EchoTask :=
  match e with
  | .read lock waker len =>
    match t, s with
    | .reading, some s =>
      if len = bufLen then some (afterRead (ReadHalf.pollReadInner lock s waker len).1) else none
    | _, _ => none
  | .write handle lock waker buf =>
    match t, s with
    | .writing b bytes, some s =>
      if buf = b :: bytes then
        some (afterWrite b bytes (WriteHalf.pollWriteInner lock s handle waker buf).1)
      else none
    | _, _ => none
  | .close _ _ => none
  | .drop _ => if t = .ended then some t else none
  -- what the loop does
  | _ => some t

end EchoTask

/-- A write takes the whole buffer, if it does not wait. -/
def TakesAll (s : Option (Shared T)) : SoloEvent → Prop
  | .write handle lock waker buf =>
    match s with
    | some s =>
      match (WriteHalf.pollWriteInner lock s handle waker buf).1 with
      | .pending => True
      | .ready (.ok n) => buf.length ≤ n
      | .ready (.error _) => False
    | none => True
  | _ => True

namespace EchoTask

variable {t t' : EchoTask} {s : Option (Shared T)} {e : SoloEvent}

/-- The bytes that a step has taken from the task and left with it, against those that it had and
was given. -/
def Passes (t : EchoTask) (s : Option (Shared T)) (e : SoloEvent) (t' : EchoTask) : Prop :=
  (bytesWritten s e ++ t'.content).Sublist (t.content ++ bytesRead s e) ∧
    (bytesWritten s e ++ t'.content = t.content ++ bytesRead s e ↔ TakesAll s e)

lemma content_afterRead (r : Poll (Except IoError (List UInt8))) :
    (afterRead r).content = r.bytes := by
  unfold afterRead
  split <;> rfl

/-- All that is read is there to be written. -/
lemma passes_read {sh : Shared T} {lock : Bool} {waker : Waker} {len : ℕ} :
    Passes .reading (some sh) (.read lock waker len)
      (afterRead (ReadHalf.pollReadInner lock sh waker len).1) := by
  have heq : bytesWritten (some sh) (.read lock waker len)
      ++ (afterRead (ReadHalf.pollReadInner lock sh waker len).1).content
        = reading.content ++ bytesRead (some sh) (.read lock waker len) := by
    rw [content_afterRead]
    rfl
  exact ⟨heq ▸ List.Sublist.refl _, iff_of_true heq trivial⟩

/-- A write takes some of the first bytes, and the rest is forgotten. -/
lemma passes_write {sh : Shared T} {handle : SocketHandle} {lock : Bool} {waker : Waker} {b : UInt8}
    {bytes : List UInt8} :
    Passes (.writing b bytes) (some sh) (.write handle lock waker (b :: bytes))
      (afterWrite b bytes (WriteHalf.pollWriteInner lock sh handle waker (b :: bytes)).1) := by
  unfold Passes TakesAll bytesWritten
  dsimp only
  generalize (WriteHalf.pollWriteInner lock sh handle waker (b :: bytes)).1 = r
  cases r with
  | pending =>
    refine ⟨?_, iff_of_true ?_ trivial⟩
    · simp [Poll.taken, afterWrite, bytesRead]
    · simp [Poll.taken, afterWrite, content, bytesRead]
  | ready r =>
    cases r with
    | error e =>
      refine ⟨?_, iff_of_false ?_ id⟩
      · simp [Poll.taken, afterWrite, content, bytesRead]
      · simp [Poll.taken, afterWrite, content, bytesRead]
    | ok n =>
      simp only [Poll.taken, afterWrite, content, bytesRead, List.append_nil]
      exact ⟨List.take_sublist n _, List.take_eq_self_iff _⟩

/-- What one step does to the bytes that the task holds. -/
lemma passes_next (h : t.next s e = some t') : Passes t s e t' := by
  have quiet : bytesWritten s e = [] → bytesRead s e = [] → TakesAll s e → t' = t →
      Passes t s e t' := by
    intro hw hr hall heq
    unfold Passes
    rw [hw, hr, heq, List.append_nil, List.nil_append]
    exact ⟨List.Sublist.refl _, iff_of_true rfl hall⟩
  cases e with
  | read lock waker len =>
    cases t with
    | writing | ended => cases h
    | reading =>
      cases s with
      | none => cases h
      | some sh =>
        obtain ⟨-, heq⟩ := Option.ite_none_right_eq_some.mp h
        obtain rfl := Option.some.inj heq
        exact passes_read
  | write handle lock waker buf =>
    cases t with
    | reading | ended => cases h
    | writing b bytes =>
      cases s with
      | none => cases h
      | some sh =>
        obtain ⟨rfl, heq⟩ := Option.ite_none_right_eq_some.mp h
        obtain rfl := Option.some.inj heq
        exact passes_write
  | close => cases h
  | drop rw =>
    obtain ⟨-, heq⟩ := Option.ite_none_right_eq_some.mp h
    exact quiet rfl rfl trivial (Option.some.inj heq).symm
  | _ => exact quiet rfl rfl trivial (Option.some.inj h).symm

end EchoTask

namespace State

open World Transition

/-- The task after an event of the world, which may be none of its connection. -/
def echoMove (id : ConnId) (t : EchoTask) (w : World T Q) (e : Event) : Option EchoTask :=
  match soloEvent id w e with
  | some e => t.next (w.shared id) e
  | none => some t

/-- Where the task of a connection is at the end of a run, if a task of the echo server makes all
the calls on it. -/
def echoTask (wire : Wire) (id : ConnId) (hist : List (State T Q × Label)) : Option EchoTask :=
  follow (echoMove id) .reading (events wire hist)

/-- The writes of a connection take all that they are given. -/
def WritesAll (wire : Wire) (id : ConnId) (hist : List (State T Q × Label)) : Prop :=
  ∀ x ∈ events wire hist, ∀ e, soloEvent id x.1 x.2 = some e → TakesAll (x.1.shared id) e

variable {wire : Wire} {clock : Clock} {s : State T Q} {hist : List (State T Q × Label)}
  {id : ConnId} {t t' : EchoTask} {w : World T Q} {e : Event}

lemma echoMove_bytes (h : echoMove id t w e = some t') :
    (seen bytesWritten id w e ++ t'.content).Sublist (t.content ++ seen bytesRead id w e) ∧
      (seen bytesWritten id w e ++ t'.content = t.content ++ seen bytesRead id w e ↔
        ∀ e', soloEvent id w e = some e' → TakesAll (w.shared id) e') := by
  unfold echoMove at h
  unfold seen
  cases he : soloEvent id w e with
  | none =>
    rw [he] at h
    obtain rfl := Option.some.inj h
    simp
  | some e' =>
    rw [he] at h
    obtain ⟨hsub, hiff⟩ := EchoTask.passes_next h
    refine ⟨hsub, hiff.trans ?_⟩
    simp

/-- **The echo.** In every run, for every connection that a task of the echo server serves, whatever
else happens: the peer gets back a part of the bytes that it sent, in order. The task has written
all that it has read, but for what it is about to write, exactly if every write took all that it
was given; then the peer gets back a prefix of what it sent. -/
theorem echoes_in_order {rx tx : T → List UInt8} (hT : Buffers T wire rx tx)
    (r : LoopRun wire clock hist s) (ht : echoTask wire id hist = some t) :
    (collect (seen (bytesAcked tx) id) (events wire hist)).Sublist
        (collect (seen (bytesReceived rx) id) (events wire hist)) ∧
      (collect (seen bytesWritten id) (events wire hist) ++ t.content
          = collect (seen bytesRead id) (events wire hist) ↔ WritesAll wire id hist) ∧
      (WritesAll wire id hist → collect (seen (bytesAcked tx) id) (events wire hist)
        <+: collect (seen (bytesReceived rx) id) (events wire hist)) := by
  have hsub : (collect (seen bytesWritten id) (events wire hist) ++ t.content).Sublist
      (collect (seen bytesRead id) (events wire hist)) :=
    follow_sublist ht rfl fun h => (echoMove_bytes h).1
  have hiff : collect (seen bytesWritten id) (events wire hist) ++ t.content
      = collect (seen bytesRead id) (events wire hist) ↔ WritesAll wire id hist :=
    follow_exact_iff ht rfl (fun h => (echoMove_bytes h).1) fun h => (echoMove_bytes h).2
  have hread : collect (seen bytesRead id) (events wire hist)
      <+: collect (seen (bytesReceived rx) id) (events wire hist) := by
    rw [collect_seen, collect_seen, (Solo.run_received hT (LoopRun.solo r id)).1, List.append_assoc]
    exact List.prefix_append _ _
  have hwritten : collect (seen (bytesAcked tx) id) (events wire hist)
      <+: collect (seen bytesWritten id) (events wire hist) := by
    rw [collect_seen, collect_seen, (Solo.run_written hT (LoopRun.solo r id)).1, List.append_assoc]
    exact List.prefix_append _ _
  refine ⟨?_, hiff, fun hall => ?_⟩
  · calc List.Sublist (collect (seen (bytesAcked tx) id) (events wire hist))
          (collect (seen bytesWritten id) (events wire hist)) := hwritten.sublist
      List.Sublist _ (collect (seen bytesWritten id) (events wire hist) ++ t.content) :=
        List.sublist_append_left _ _
      List.Sublist _ (collect (seen bytesRead id) (events wire hist)) := hsub
      List.Sublist _ (collect (seen (bytesReceived rx) id) (events wire hist)) := hread.sublist
  · have hkept : collect (seen bytesWritten id) (events wire hist)
        <+: collect (seen bytesRead id) (events wire hist) := by
      rw [← hiff.mpr hall]
      exact List.prefix_append _ _
    exact (hwritten.trans hkept).trans hread

/-- The client has sent four bytes and has two of them back; the task is about to write the
others. -/
theorem echoes_in_order_four :
    ∃ hist s, LoopRun Reference.wire Reference.clock hist (s : Reference.HoldingLoop) ∧
      echoTask Reference.wire 0 hist = some (.writing 3 [4]) ∧
      collect (seen (bytesAcked Reference.Holding.data) 0) (events Reference.wire hist) = [1, 2] ∧
      collect (seen (bytesAcked Reference.Holding.data) 0) (events Reference.wire hist)
        <+: collect (seen (bytesReceived Reference.Holding.rx) 0) (events Reference.wire hist) := by
  obtain ⟨hist, s, r, hs⟩ := Reference.run_of_holding
    (Reference.handshake ++ [.turn, Reference.written, .turn, Reference.receive .psh true [1, 2],
      .app (.read Reference.reader true 7 1024), .app (.write Reference.writer true 8 [1, 2]),
      .turn, Reference.idle] ++ Reference.dispatchDue ++
      [Reference.receive .psh true [3, 4], .app (.read Reference.reader true 7 1024)])
    (fun hist _ => decide (echoTask Reference.wire 0 hist = some (.writing 3 [4])) &&
      decide (collect (seen (bytesAcked Reference.Holding.data) 0) (events Reference.wire hist)
        = [1, 2]) &&
      decide (collect (seen bytesWritten 0) (events Reference.wire hist) = [1, 2]) &&
      decide (collect (seen bytesRead 0) (events Reference.wire hist) = [1, 2, 3, 4]))
    (by decide +kernel)
  simp only [Bool.and_eq_true, decide_eq_true_eq] at hs
  obtain ⟨⟨⟨htask, hacked⟩, hwritten⟩, hread⟩ := hs
  obtain ⟨-, hiff, hprefix⟩ := echoes_in_order Reference.Holding.buffers r htask
  refine ⟨hist, s, r, htask, hacked, hprefix (hiff.mp ?_)⟩
  rw [hwritten, hread]
  rfl

end State

end Ustunet
