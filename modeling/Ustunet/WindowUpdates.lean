import Ustunet.Scheduling
import Ustunet.ReferenceWindow

/-!
# Window updates

A read that frees space behind a closed window gives the socket something to send: the window that
the peer does not know yet. The writer notifies the dispatch queue of what it changes; the reader
has no way to. So the update waits for the next event of the connection, unless the connection is
scheduled for another reason (`window_updates_iff`).
-/

namespace Ustunet
namespace World

variable {T Q : Type} [TcpSocket T] [DelayQueue AddrPair Q]

/-- A read that takes bytes out of the receive buffer, with what is shared before and after. -/
inductive TakesBytes (w : World T Q) : Event → Half → Shared T → Shared T → Prop
  | read {half : Half} {s s' : Shared T} {lock : Bool} {waker : Waker} {len : ℕ} {b : UInt8}
      {bytes : List UInt8} (hs : w.shared half.conn = some s)
      (hr : ReadHalf.pollReadInner lock s waker len = (.ready (.ok (b :: bytes)), s')) :
      TakesBytes w (.app (.read half lock waker len)) half s s'

/-- After a read that takes bytes, a connection that has something to send is in the queue, or
dispatched next, or an update that schedules it is under way. -/
def ReadScheduled (wire : Wire) (w : World T Q) (e : Event) : Prop :=
  ∀ half s s' w', w.TakesBytes e half s s' → w.step wire e = .ok w' →
    TcpSocket.pollAt s'.tcp ≠ .ingress →
    (w'.queue.deadline half.socket).isSome = true ∨ w'.nextPoll = some half.socket ∨
      ∃ t : PollAt, t ≠ .ingress ∧ (half.socket, t) ∈ w'.polls

/-- A read that takes bytes leaves nothing to send, or the loop runs and the connection is scheduled
before the read, where it had nothing to send until then. -/
def OpensInTime (w : World T Q) (e : Event) : Prop :=
  ∀ half s s', w.TakesBytes e half s s' → TcpSocket.pollAt s'.tcp = .ingress ∨
    (w.running = true ∧
      (TcpSocket.pollAt s.tcp = .ingress → w.Scheduled half.socket ∨ w.Notified half.socket))

variable {wire : Wire} {w w' : World T Q} {e : Event}

/-- A read leaves the schedule alone. -/
lemma Steps.read_frame {half : Half} {lock : Bool} {waker : Waker} {len : ℕ}
    (h : Steps wire w (.app (.read half lock waker len)) w') :
    half ∈ w.halves ∧ w'.queue = w.queue ∧ w'.nextPoll = w.nextPoll ∧ w'.polls = w.polls := by
  cases h with
  | read _ _ _ hmem => exact ⟨hmem, rfl, rfl, rfl⟩

/-- A read keeps its connection served if it opens the window in time. -/
lemma serves_read (hzero : EmptyRecvQuiet T) {half : Half} {lock : Bool} {waker : Waker} {len : ℕ}
    {s s' : Shared T} {r : Poll (Except IoError (List UInt8))}
    (hs : w.shared half.conn = some s)
    (hr : ReadHalf.pollReadInner lock s waker len = (r, s'))
    (hserves : w.Serves Due half.socket s.tcp)
    (hg : w.OpensInTime (.app (.read half lock waker len))) :
    w.Serves Due half.socket s'.tcp := by
  rcases ReadHalf.pollReadInner_cases hr with ⟨-, -, rfl⟩ | ⟨-, -, b, bytes, tcp, -, rfl, -⟩ |
    ⟨-, -, e, -, -, rfl⟩ | ⟨-, -, tcp, htcp, hb⟩ | ⟨-, -, hb⟩
  · exact hserves
  · rw [serves_due_iff] at hserves ⊢
    intro hne
    rcases hg half s s' (.read hs hr) with hi | ⟨-, hopen⟩
    · exact absurd hi hne
    · by_cases hi : TcpSocket.pollAt s.tcp = .ingress
      · exact hopen hi
      · exact hserves hi
  · exact hserves
  · -- nothing was taken
    rw [serves_due_iff] at hserves ⊢
    rw [hb.tcp_eq, show TcpSocket.pollAt ({ s with tcp } : Shared T).tcp = _ from
      hzero _ _ _ htcp]
    exact hserves
  · rw [hb.tcp_eq]
    exact hserves

/-- **A step keeps every connection served** if its read, where it is one, opens the window in
time. -/
lemma served_opens_step (hfresh : FreshQuiet T) (hzero : EmptyRecvQuiet T) (ho : w.Owned)
    (hst : w.Stopped) (ha : w.ActiveScheduled) (hw : w.Served Due) (hg : w.OpensInTime e)
    (h : Steps wire w e w') : w'.Served Due := by
  by_cases hread : isRead e = true
  · intro p id s' hid hs'
    have hclock := h.queue_clock (ne_stop h hid)
    rcases h.pair_cases ho hst hid hs' with ⟨hid₀, s, hs, hstep⟩ | ⟨tcp, rfl, -⟩
    · have hserves := hw hid₀ hs
      cases hstep with
      | other hkeep => exact hserves.keep hkeep hclock
      | @read half _ _ _ lock waker len hmem hconn hr hkeep =>
        subst hconn
        have hp : half.socket = p :=
          ho.inj (ho.connOf_of_mem (hst.running hid₀) (List.mem_append_left _ hmem)) hid₀
        subst hp
        exact (serves_read hzero hs hr hserves hg).keep hkeep hclock
      | call hcall => cases hcall <;> cases hread
      | process | dispatch | dropHalf | update | expire => cases hread
    · cases hread
  · rw [Bool.not_eq_true] at hread
    exact served_due_step hfresh ho hst ha hw (readsNothing_of_isRead hread) h

omit [TcpSocket T] in
/-- A connection is scheduled only while the loop runs. -/
lemma Stopped.running_of_scheduled (hst : w.Stopped) {p : AddrPair}
    (h : w.Scheduled p ∨ w.Notified p) : w.running = true := by
  by_contra hrun
  obtain ⟨-, -, hpolls, hnext, -, hq⟩ := hst (by simpa using hrun)
  rcases h with (h | h) | ⟨t, -, h⟩
  · rw [hq] at h
    cases h
  · rw [hnext] at h
    cases h
  · rw [hpolls] at h
    cases h

lemma opensInTime_of_readScheduled (hst : w.Stopped) (h : w.step wire e = .ok w')
    (hr : w.ReadScheduled wire e) : w.OpensInTime e := by
  intro half s s' ht
  by_cases hi : TcpSocket.pollAt s'.tcp = .ingress
  · exact Or.inl hi
  have hafter := hr half s s' w' ht h hi
  cases ht with
  | read hs hread =>
    obtain ⟨-, hq, hnext, hpolls⟩ := (steps_of_step h).read_frame
    rw [hq, hnext, hpolls] at hafter
    have hbefore : w.Scheduled half.socket ∨ w.Notified half.socket := by
      rcases hafter with hd | hn | hn
      · exact Or.inl (Or.inl hd)
      · exact Or.inl (Or.inr hn)
      · exact Or.inr hn
    exact Or.inr ⟨hst.running_of_scheduled hbefore, fun _ => hbefore⟩

lemma readScheduled_of_opensInTime (ho : w.Owned) (hw : w.Served Due) (hg : w.OpensInTime e) :
    w.ReadScheduled wire e := by
  intro half s s' w' ht h hne
  cases ht with
  | read hs hread =>
    obtain ⟨hmem, hq, hnext, hpolls⟩ := (steps_of_step h).read_frame
    rw [hq, hnext, hpolls]
    rcases hg half s s' (.read hs hread) with hi | ⟨hrun, hopen⟩
    · exact absurd hi hne
    have hbefore : w.Scheduled half.socket ∨ w.Notified half.socket := by
      by_cases hi : TcpSocket.pollAt s.tcp = .ingress
      · exact hopen hi
      · -- what the socket had to send before is scheduled
        have hid := ho.connOf_of_mem hrun (List.mem_append_left _ hmem)
        exact serves_due_iff.mp (hw hid hs) hi
    rcases hbefore with (hd | hn) | hn
    · exact Or.inl hd
    · exact Or.inr (Or.inl hn)
    · exact Or.inr (Or.inr hn)

end World

namespace State

open World Transition

variable {T Q : Type} [TcpSocket T] [DelayQueue AddrPair Q] {wire : Wire} {clock : Clock}
  {hist : List (State T Q × Label)} {s : State T Q}

/-- **When reading schedules the window update.** In a run, every read that takes bytes leaves its
connection scheduled if it then has something to send, exactly if each such read leaves nothing to
send, or is made while the loop runs and, where the socket had nothing to send before it, on a
connection that is scheduled already. -/
theorem window_updates_iff (hfresh : FreshQuiet T) (hzero : EmptyRecvQuiet T)
    (r : LoopRun wire clock hist s) :
    (∀ x ∈ events wire hist, x.1.ReadScheduled wire x.2) ↔
      ∀ x ∈ events wire hist, x.1.OpensInTime x.2 := by
  constructor
  · intro hall x hx
    have hst : x.1.Stopped :=
      (LoopRun.invariant_mem (I := fun _ => True) (G := fun _ _ => True) trivial
        (fun _ _ _ _ _ => trivial) r (fun _ _ => trivial) x.1 (mem_visited_of_mem hx)).2.1
    obtain ⟨w', hw'⟩ := (LoopRun.world r).mem_step hx
    exact opensInTime_of_readScheduled hst hw' (hall x hx)
  · intro hall x hx
    have hinv := LoopRun.invariant_mem (G := OpensInTime)
      (I := fun w => w.ActiveScheduled ∧ w.Served Due)
      ⟨fun _ _ _ h => (nomatch h), fun _ _ _ h => (nomatch h)⟩
      (fun ho hst hw hg h => ⟨activeScheduled_step ho hw.1 h,
        served_opens_step hfresh hzero ho hst hw.1 hw.2 hg h⟩) r hall x.1 (mem_visited_of_mem hx)
    exact readScheduled_of_opensInTime hinv.1 hinv.2.2.2 (hall x hx)

/-- Whether a read is one from a connection that is scheduled. -/
def readsScheduled (w : World T Q) (e : Event) : Bool :=
  match e with
  | .app (.read half _ _ _) => w.running && ((w.queue.deadline half.socket).isSome ||
      decide (w.nextPoll = some half.socket))
  | _ => true

lemma opensInTime_of_readsScheduled {w : World T Q} {e : Event}
    (h : readsScheduled w e = true) : w.OpensInTime e := by
  intro half sh sh' ht
  cases ht with
  | read hs hr =>
    rw [readsScheduled, Bool.and_eq_true, Bool.or_eq_true, decide_eq_true_eq] at h
    exact Or.inr ⟨h.1, fun _ => Or.inl h.2⟩

/-- Whether a read has returned bytes. -/
def tookBytes : Poll (Except IoError (List UInt8)) → Bool
  | .ready (.ok (_ :: _)) => true
  | _ => false

lemma bytes_of_tookBytes {r : Poll (Except IoError (List UInt8))} (h : tookBytes r = true) :
    ∃ b bytes, r = .ready (.ok (b :: bytes)) := by
  unfold tookBytes at h
  split at h
  · exact ⟨_, _, rfl⟩
  · cases h

/-- The reader takes a byte while the ACK of the packet that brought it is due. -/
theorem window_updates_acked :
    ∃ (hist : List (Reference.WindowedLoop × Label)) (s : Reference.WindowedLoop),
      LoopRun Reference.wire Reference.clock hist s ∧
      (events Reference.wire hist).any (fun x => isRead x.2) = true ∧
      ∀ x ∈ events Reference.wire hist, x.1.ReadScheduled Reference.wire x.2 := by
  obtain ⟨hist, s, r, hs⟩ := Reference.run_of_windowed
    (Reference.handshake ++ [.turn, Reference.written, .turn, Reference.receive .psh true [0],
      .app (.read Reference.reader true 7 10)])
    (fun hist _ => (events Reference.wire hist).any (fun x => isRead x.2) &&
      (events Reference.wire hist).all fun x => readsScheduled x.1 x.2) (by decide +kernel)
  rw [Bool.and_eq_true, List.all_eq_true] at hs
  refine ⟨hist, s, r, hs.1, ?_⟩
  exact (window_updates_iff Reference.Windowed.freshQuiet Reference.Windowed.emptyRecvQuiet
    r).mpr fun x hx => opensInTime_of_readsScheduled (hs.2 x hx)

/-- The client has filled the receive buffer and knows that the window is closed; nothing is
scheduled. The reader empties the buffer, the window update is due, and nothing is scheduled. -/
theorem update_not_scheduled :
    ∃ (s s' : Reference.WindowedLoop) (sh sh' : Shared Reference.Windowed),
      LoopReachable Reference.wire Reference.clock s ∧
      s.step Reference.wire (.app (.read Reference.reader true 7 32768)) = .ok s' ∧
      s.world.TakesBytes (.app (.read Reference.reader true 7 32768)) Reference.reader sh sh' ∧
      sh.tcp.lastWin = 0 ∧ TcpSocket.pollAt sh'.tcp = .now ∧
      (s'.world.queue.deadline Reference.reader.socket).isSome = false ∧
      s'.world.nextPoll = none ∧ s'.world.polls = [] := by
  obtain ⟨hist, s, r, hs⟩ := Reference.run_of_windowed Reference.fullBuffer
    (fun _ s => (s.world.shared Reference.reader.conn).any (fun sh : Shared Reference.Windowed =>
        decide (sh.tcp.lastWin = 0) &&
        tookBytes (ReadHalf.pollReadInner true sh 7 32768).1 &&
        decide (TcpSocket.pollAt (ReadHalf.pollReadInner true sh 7 32768).2.tcp = .now)) &&
      (s.step Reference.wire (.app (.read Reference.reader true 7 32768))).toOption.isSome &&
      (s.world.queue.deadline Reference.reader.socket).isNone && s.world.nextPoll.isNone &&
      s.world.polls.isEmpty) (by decide +kernel)
  simp only [Bool.and_eq_true, Option.any_eq_true, decide_eq_true_eq, Option.isNone_iff_eq_none,
    List.isEmpty_iff] at hs
  obtain ⟨⟨⟨⟨⟨sh, hsh, ⟨hwin, hbytes⟩, hnow⟩, hstep⟩, hq⟩, hnext⟩, hpolls⟩ := hs
  obtain ⟨b, bytes, hr⟩ := bytes_of_tookBytes hbytes
  cases hs' : s.step Reference.wire (.app (.read Reference.reader true 7 32768)) with
  | error e =>
    rw [hs'] at hstep
    cases hstep
  | ok s' =>
    obtain ⟨world, hw, he⟩ := bind_ok hs'
    cases he
    obtain ⟨-, hq', hnext', hpolls'⟩ := (steps_of_step hw).read_frame
    refine ⟨s, _, sh, _, r.reachable, hs', .read hsh (Prod.ext hr rfl), hwin, hnow, ?_, ?_, ?_⟩
    · rw [hq', hq]
      rfl
    · rw [hnext', hnext]
    · rw [hpolls', hpolls]

end State
end Ustunet
