import Ustunet.Ownership
import Ustunet.Lib.Flow

/-!
# The listener

`listener.rs`: `TcpListener` is the receiving end of the accept channel. Connections are numbered
in the order in which their SYNs came, so the order in which streams reach the application can be
read off the numbers: `accepts_in_order` says that they are 0, 1, 2 and so on, with none left out
and none twice. `listener_end` says when there is nothing more to come.
-/

namespace Ustunet

variable {T Q : Type} [DelayQueue AddrPair Q]

/-- `TcpListener::poll_next`, and one poll of `accept`: `receiver.poll_recv(cx)`. The only sender is
in the pool, which goes when `io_loop` returns or its task panics. -/
def TcpListener.pollNext (w : World T Q) : Poll (Option ConnId) × World T Q :=
  match w.incoming with
  | id :: rest => (.ready (some id), { w with incoming := rest })
  | [] => if w.running then (.pending, w) else (.ready none, w)

lemma TcpListener.pollNext_none {w : World T Q} :
    (pollNext w).1 = .ready none ↔ w.running = false ∧ w.incoming = [] := by
  unfold pollNext
  split
  · next id rest hin => simp [hin]
  · next hin =>
    cases hrun : w.running <;> simp [hin]

namespace World

/-! ## The way of a stream to the application -/

/-- The connection whose stream `create_syn` has not sent. -/
def unsent (w : World T Q) : List ConnId :=
  match w.creating with
  | some k => if k.handed then [] else [k.conn]
  | none => []

/-- The streams on their way to the application, the next one first: those in the accept channel,
then the one that `create_syn` waits to send. -/
def waiting (w : World T Q) : List ConnId := w.incoming ++ w.unsent

/-- The connection that an event makes. -/
def creates (w : World T Q) : Event → List ConnId
  | .create _ => [w.nextConn]
  | _ => []

/-- The pair of the connection that an event makes. -/
def createdFor (_ : World T Q) : Event → List AddrPair
  | .create pair => [pair]
  | _ => []

/-- The stream that the application accepts. -/
def accepts (w : World T Q) : Event → List ConnId
  | .app .accept => w.incoming.take 1
  | _ => []

/-- The streams that are accepted, or dropped because there is no listener. -/
def leaves (w : World T Q) : Event → List ConnId
  | .app .accept => w.incoming.take 1
  | .app .closeListener => w.incoming
  | .refuse => w.unsent
  | _ => []

/-- The accept channel: it has room for one stream, and none is in it without a receiver. -/
structure Channel (w : World T Q) : Prop where
  bound : w.incoming.length ≤ acceptCapacity
  closed : w.listening = false → w.incoming = []

variable [TcpSocket T] {wire : Wire} {w w' : World T Q} {e : Event} {clock : Clock}
  {evs : List (World T Q × Event)}

omit [TcpSocket T] in
lemma channel_init : (init clock : World T Q).Channel := ⟨Nat.zero_le _, fun _ => rfl⟩

lemma channel_step (hw : w.Channel) (h : Steps wire w e w') : w'.Channel := by
  cases h with
  | elapse | read | write | close | drop | process | dispatchKeep | dispatchDrop | dropHalf | update
  | expire | create | refuse | insert | stop => exact ⟨hw.bound, hw.closed⟩
  | @accept id rest hin =>
    refine ⟨?_, fun hl => ?_⟩
    · have hlen := hw.bound
      rw [hin, List.length_cons] at hlen
      exact Nat.le_of_succ_le hlen
    · have hnil := hw.closed hl
      rw [hin] at hnil
      cases hnil
  | closeListener => exact ⟨Nat.zero_le _, fun _ => rfl⟩
  | handOver _ hlist hroom =>
    refine ⟨?_, fun hl => ?_⟩
    · show (w.incoming ++ [_]).length ≤ acceptCapacity
      rw [List.length_append]
      exact hroom
    · rw [show w.listening = false from hl] at hlist
      cases hlist

/-- A stream that is made goes to the end of those on their way, and only the first leaves. -/
lemma waiting_step (hw : w.Channel) (h : Steps wire w e w') :
    w.waiting ++ w.creates e = w.leaves e ++ w'.waiting := by
  cases h with
  | elapse | read | write | close | drop | process | dispatchKeep | dispatchDrop | dropHalf | update
  | expire =>
    exact List.append_nil _
  | accept hin => simp [waiting, unsent, creates, leaves, hin]
  | closeListener => simp [waiting, unsent, creates, leaves, dropStreams]
  | create _ hcr _ _ => simp [waiting, unsent, creates, leaves, setShared, hcr]
  | handOver hcr _ _ => simp [waiting, unsent, creates, leaves, hcr]
  | refuse hcr hlist => simp [waiting, unsent, creates, leaves, dropStreams, hcr, hw.closed hlist]
  | insert hcr _ => simp [waiting, unsent, creates, leaves, setSocket, hcr]
  | stop hcr => simp [waiting, unsent, creates, leaves, hcr]

lemma nextConn_step (h : Steps wire w e w') :
    List.range w.nextConn ++ w.creates e = List.range w'.nextConn := by
  cases h with
  | create => exact List.range_succ.symm
  | elapse | accept | closeListener | read | write | close | drop | process | dispatchKeep
  | dispatchDrop | dropHalf | update | expire | handOver | refuse | insert | stop =>
    exact List.append_nil _

/-! ## Runs of the world -/

open Transition

lemma Run.channel (r : Run (step wire) (init clock) evs w) : w.Channel :=
  r.reachable.invariant channel_init fun hw hs => channel_step hw (steps_of_step hs)

/-- Connections are numbered in the order in which they are made. -/
lemma Run.created (r : Run (step wire) (init clock) evs w) :
    collect creates evs = List.range w.nextConn := by
  induction r with
  | start => rfl
  | next r hs ih => rw [collect_cons, ih, nextConn_step (steps_of_step hs)]

/-- Every connection made so far has left, or is on its way; those that have left came first. -/
lemma Run.leaving (r : Run (step wire) (init clock) evs w) :
    collect leaves evs ++ w.waiting = List.range w.nextConn := by
  have h : waiting (init clock) ++ collect creates evs = collect leaves evs ++ w.waiting :=
    r.conserves (I := Channel) channel_init (fun hw hs => channel_step hw (steps_of_step hs))
      fun hw hs => waiting_step hw (steps_of_step hs)
  rw [← h, Run.created r]
  rfl

/-- As long as there is a listener, streams leave by being accepted; without one, none is
accepted. -/
lemma accepts_step (hw : w.Channel) (h : Steps wire w e w') :
    (w'.listening = true → w.listening = true ∧ w.accepts e = w.leaves e) ∧
      (w.listening = false → w.accepts e = []) := by
  cases h with
  | elapse | read | write | close | drop | process | dispatchKeep | dispatchDrop | dropHalf | update
  | expire | create | handOver | insert | stop => exact ⟨fun hl => ⟨hl, rfl⟩, fun _ => rfl⟩
  | accept => exact ⟨fun hl => ⟨hl, rfl⟩, fun hl => by simp [accepts, hw.closed hl]⟩
  | closeListener => exact ⟨nofun, fun _ => rfl⟩
  | refuse _ hlist =>
    refine ⟨fun hl => ?_, fun _ => rfl⟩
    rw [show w.listening = true from hl] at hlist
    cases hlist

omit [TcpSocket T] in
lemma accepts_prefix : w.accepts e <+: w.leaves e := by
  unfold accepts leaves
  split
  · exact List.prefix_rfl
  · exact List.nil_prefix

/-- What is accepted is the first part of what leaves, and all of it while there is a listener. -/
lemma Run.accepted (r : Run (step wire) (init clock) evs w) :
    collect accepts evs <+: collect leaves evs ∧
      (w.listening = true → collect accepts evs = collect leaves evs) := by
  induction r with
  | start => exact ⟨List.prefix_rfl, fun _ => rfl⟩
  | @next evs w w' e r hs ih =>
    obtain ⟨hopen, hclosed⟩ := accepts_step (Run.channel r) (steps_of_step hs)
    rw [collect_cons, collect_cons]
    refine ⟨?_, fun hl => ?_⟩
    · cases hl : w.listening with
      | true =>
        rw [ih.2 hl]
        exact (List.prefix_append_right_inj _).mpr accepts_prefix
      | false =>
        rw [hclosed hl, List.append_nil]
        exact ih.1.trans (List.prefix_append _ _)
    · obtain ⟨hl₀, he⟩ := hopen hl
      rw [ih.2 hl₀, he]

/-- The streams are accepted in the order of their numbers, from 0, with none left out. -/
lemma Run.accepted_range (r : Run (step wire) (init clock) evs w) :
    collect accepts evs = List.range (collect accepts evs).length := by
  have hpre : collect accepts evs <+: List.range w.nextConn :=
    (Run.accepted r).1.trans (Run.leaving r ▸ List.prefix_append _ _)
  have hle : (collect accepts evs).length ≤ w.nextConn := by
    simpa using hpre.length_le
  conv_lhs => rw [List.prefix_iff_eq_take.mp hpre]
  rw [List.take_range, Nat.min_eq_left hle]

/-! ## The pair of a stream -/

/-- A step moves halves about, or makes those of a new connection. -/
lemma Steps.places_cases (h : Steps wire w e w') {half : Half}
    (hmem : half ∈ w'.halves ++ w'.closing) :
    half ∈ w.halves ++ w.closing ∨ (e = .create half.socket ∧ half.conn = w.nextConn) := by
  -- where each half is in as many places as before
  have moved : (∀ x, (w'.halves ++ w'.closing).count x = (w.halves ++ w.closing).count x) →
      half ∈ w.halves ++ w.closing :=
    fun hcount => (List.perm_iff_count.mpr hcount).subset hmem
  cases h with
  | elapse | accept | read | write | close | process | dispatchKeep | dispatchDrop | update | expire
  | handOver | insert => exact Or.inl hmem
  | closeListener => exact Or.inl (moved (count_dropStreams w w.incoming))
  | @refuse pair id => exact Or.inl (moved (count_dropStreams w [id]))
  | drop h => exact Or.inl (moved (count_drop h))
  | dropHalf hclosing =>
    refine Or.inl ?_
    rw [hclosing]
    rcases List.mem_append.mp hmem with h | h
    · exact List.mem_append_left _ h
    · exact List.mem_append_right _ (List.mem_cons_of_mem _ h)
  | stop =>
    change half ∈ w.halves ++ [] at hmem
    rw [List.append_nil] at hmem
    exact Or.inl (List.mem_append_left _ hmem)
  | @create pair =>
    change half ∈ (w.halves ++ [⟨pair, .write, w.nextConn⟩, ⟨pair, .read, w.nextConn⟩])
      ++ w.closing at hmem
    simp only [List.mem_append, List.mem_cons, List.not_mem_nil, or_false] at hmem
    rcases hmem with (h | rfl | rfl) | h
    · exact Or.inl (List.mem_append_left _ h)
    · exact Or.inr ⟨rfl, rfl⟩
    · exact Or.inr ⟨rfl, rfl⟩
    · exact Or.inl (List.mem_append_right _ h)

lemma createdFor_length (h : Steps wire w e w') :
    w'.nextConn = w.nextConn + (w.createdFor e).length := by
  cases h <;> rfl

/-- The halves of a connection carry the pair that it was made for. -/
lemma Run.createdFor (r : Run (step wire) (init clock) evs w) :
    (collect createdFor evs).length = w.nextConn ∧
      ∀ half ∈ w.halves ++ w.closing, (collect createdFor evs)[half.conn]? = some half.socket := by
  induction r with
  | start => exact ⟨rfl, fun half h => by cases h⟩
  | @next evs w w' e r hs ih =>
    obtain ⟨hlen, hsock⟩ := ih
    have hstep := steps_of_step hs
    rw [collect_cons]
    refine ⟨by rw [List.length_append, hlen, createdFor_length hstep], fun half hmem => ?_⟩
    rcases hstep.places_cases hmem with h | ⟨rfl, hid⟩
    · obtain ⟨hlt, -⟩ := List.getElem?_eq_some_iff.mp (hsock half h)
      rw [List.getElem?_append_left hlt, hsock half h]
    · rw [List.getElem?_append_right (by rw [hlen, hid]), hlen, hid, Nat.sub_self]
      rfl

/-! ## After the loop has stopped -/

/-- Nothing comes into the accept channel once the loop has stopped. -/
lemma ended_step (hst : w.Stopped) (hrun : w.running = false) (hin : w.incoming = [])
    (h : Steps wire w e w') :
    w'.running = false ∧ w'.incoming = [] ∧ w'.nextConn = w.nextConn := by
  cases h with
  | elapse | read | write | close | drop | process | dispatchKeep | dispatchDrop | dropHalf | update
  | expire | refuse | insert => exact ⟨hrun, hin, rfl⟩
  | accept h₁ =>
    rw [hin] at h₁
    cases h₁
  | closeListener => exact ⟨hrun, rfl, rfl⟩
  | create _ _ h₁ =>
    rw [hrun] at h₁
    cases h₁
  | handOver hcr =>
    rw [(hst hrun).1] at hcr
    cases hcr
  | stop => exact ⟨rfl, hin, rfl⟩

end World

namespace State

open World Transition

variable [TcpSocket T] {wire : Wire} {clock : Clock} {s : State T Q}
  {hist : List (State T Q × Label)}

lemma accepts_order (r : LoopRun wire clock hist s) :
    (s.world.listening = true →
      collect accepts (events wire hist) ++ s.world.waiting = List.range s.world.nextConn) ∧
    collect accepts (events wire hist)
      = List.range (collect accepts (events wire hist)).length := by
  have rw := LoopRun.world r
  refine ⟨fun hl => ?_, Run.accepted_range rw⟩
  rw [(Run.accepted rw).2 hl]
  exact Run.leaving rw

/-- **Streams are accepted in order.** In every run the application accepts connections 0, 1, 2 and
so on, each once and none left out; the accept channel never holds more than one; as long as there
is a listener, those not accepted are in the channel or with `create_syn`, in order; and the halves
of a stream carry the pair that its connection was made for. -/
theorem accepts_in_order (r : LoopRun wire clock hist s) :
    collect accepts (events wire hist)
        = List.range (collect accepts (events wire hist)).length ∧
      (s.world.listening = true →
        collect accepts (events wire hist) ++ s.world.waiting = List.range s.world.nextConn) ∧
      s.world.incoming.length ≤ acceptCapacity ∧
      ∀ half ∈ s.world.halves ++ s.world.closing,
        (collect createdFor (events wire hist))[half.conn]? = some half.socket := by
  obtain ⟨hwaiting, hrange⟩ := accepts_order r
  have hworld := LoopRun.world r
  exact ⟨hrange, hwaiting, (Run.channel hworld).bound, (Run.createdFor hworld).2⟩

/-- One stream is accepted, the second is in the channel, and the third waits for room in it. -/
theorem accepts_in_order_crowded :
    ∃ hist s, LoopRun Reference.wire Reference.clock hist (s : Reference.Loop) ∧
      s.world.waiting = [1, 2] ∧
      collect accepts (events Reference.wire hist) ++ [1, 2] = List.range 3 := by
  obtain ⟨hist, s, r, hs⟩ := Reference.run_of_check Reference.crowded
    (fun _ s => s.world.listening && decide (s.world.waiting = [1, 2]) &&
      decide (s.world.nextConn = 3)) (by decide +kernel)
  simp only [Bool.and_eq_true, decide_eq_true_eq] at hs
  obtain ⟨⟨hl, hw⟩, hn⟩ := hs
  have horder := (accepts_in_order r).2.1 hl
  rw [hw, hn] at horder
  exact ⟨hist, s, r, hw, horder⟩

/-- **The end of the listener.** `accept` returns `None` exactly when the loop has returned or
panicked and the application has accepted every connection that was ever made, and from then on it
always does. -/
theorem listener_end (r : LoopRun wire clock hist s) (hl : s.world.listening = true) :
    ((TcpListener.pollNext s.world).1 = .ready none ↔
      s.world.running = false ∧
        collect accepts (events wire hist) = List.range s.world.nextConn) ∧
    ((TcpListener.pollNext s.world).1 = .ready none →
      ∀ hist' s', Run (step wire) s hist' s' →
        (TcpListener.pollNext s'.world).1 = .ready none ∧
          s'.world.nextConn = s.world.nextConn) := by
  obtain ⟨-, hst⟩ := LoopReachable.owned r.reachable
  have horder := (accepts_order r).1 hl
  have hend : (TcpListener.pollNext s.world).1 = .ready none ↔
      s.world.running = false ∧ s.world.incoming = [] := TcpListener.pollNext_none
  refine ⟨hend.trans (and_congr_right fun hrun => ?_), fun hnone hist' s' r' => ?_⟩
  · -- `create_syn` is not under way, so the streams not accepted are those in the channel
    have hunsent : s.world.unsent = [] := by
      unfold unsent
      rw [(hst hrun).1]
    rw [waiting, hunsent, List.append_nil] at horder
    rw [← horder]
    constructor
    · intro hin
      rw [hin, List.append_nil]
    · intro h
      exact List.self_eq_append_right.mp h
  · obtain ⟨hrun, hin⟩ := hend.mp hnone
    have hkeep := LoopReachable.keeps (s := s)
      (I := fun w => w.running = false ∧ w.incoming = [] ∧ w.nextConn = s.world.nextConn)
      r.reachable ⟨hrun, hin, rfl⟩ ?_ r'
    · exact ⟨TcpListener.pollNext_none.mpr ⟨hkeep.1, hkeep.2.1⟩, hkeep.2.2⟩
    · rintro w e w' - hst ⟨hrun, hin, hn⟩ h
      obtain ⟨hrun', hin', hn'⟩ := ended_step hst hrun hin h
      exact ⟨hrun', hin', hn'.trans hn⟩

/-- The device fails after the application has accepted the one stream there was. In another run the
loop panics after two streams have been accepted. -/
theorem listener_end_failure :
    (∃ hist s, LoopRun Reference.wire Reference.clock hist (s : Reference.Loop) ∧
      s.world.nextConn = 1 ∧ s.world.running = false ∧
      collect accepts (events Reference.wire hist) = List.range 1) ∧
    ∃ hist s, LoopRun Reference.wire Reference.clock hist (s : Reference.Loop) ∧
      (∃ x ∈ hist, x.2 = .unwind ⟨none, none⟩) ∧ s.world.nextConn = 2 ∧
      s.world.running = false ∧ collect accepts (events Reference.wire hist) = List.range 2 := by
  constructor
  · obtain ⟨hist, s, r, hs⟩ := Reference.run_of_check
      (Reference.handshake ++ [.turn, Reference.failing])
      (fun _ s => s.world.listening && decide (s.world.nextConn = 1) &&
        decide ((TcpListener.pollNext s.world).1 = .ready none)) (by decide +kernel)
    simp only [Bool.and_eq_true, decide_eq_true_eq] at hs
    obtain ⟨⟨hl, hn⟩, hnone⟩ := hs
    obtain ⟨hrun, hall⟩ := (listener_end r hl).1.mp hnone
    rw [hn] at hall
    exact ⟨hist, s, r, hn, hrun, hall⟩
  · obtain ⟨hist, s, r, hs⟩ := Reference.run_of_check Reference.orphaned
      (fun hist s => s.world.listening && decide (s.world.nextConn = 2) &&
        decide ((TcpListener.pollNext s.world).1 = .ready none) &&
        hist.any fun x => decide (x.2 = .unwind ⟨none, none⟩)) (by decide +kernel)
    simp only [Bool.and_eq_true, decide_eq_true_eq, List.any_eq_true] at hs
    obtain ⟨⟨⟨hl, hn⟩, hnone⟩, hunwind⟩ := hs
    obtain ⟨hrun, hall⟩ := (listener_end r hl).1.mp hnone
    rw [hn] at hall
    exact ⟨hist, s, r, hunwind, hn, hrun, hall⟩

end State
end Ustunet
