import Ustunet.WindowUpdates
import Ustunet.Ingress
import Ustunet.Replies
import Ustunet.Progress

/-!
# Timers and the loop

The loop looks at the delay queue when nothing else is ready: no packet, no finished write and no
message (`idle_of_pending`). Then a connection whose deadline has passed goes to `next_poll`, and
from there to the next dispatch (`dispatches_in_order`), for which it waits until the replies have
had their turn (`dispatched_within`).

If no deadline has passed, the loop sleeps, until one of its futures or the delay queue wakes it.
`sleeps_when_done` says that it leaves nothing behind: both channels are empty, and if the device is
idle too, nothing waits to be written, and the connections that nobody but the queue will remind the
loop of have a deadline.
-/

namespace Ustunet

variable {T Q : Type} [TcpSocket T] [DelayQueue AddrPair Q]

/-- tokio's `DelayQueue` returns an entry once its deadline has passed, up to the resolution of its
timer: where it has nothing to return, no deadline has passed by `lag` or more. -/
def Prompt (Q : Type) [DelayQueue AddrPair Q] (lag : ℕ) : Prop :=
  ∀ (q : Q) (now : Instant), DelayQueue.pollExpired q now = none →
    ∀ (k : Key) (p : AddrPair) (t : Instant), DelayQueue.entry q k = some (p, t) → now < t + lag

lemma Delays.pollExpired_none {d : Delays AddrPair Q} {now : Instant}
    (h : d.next now = some none) : DelayQueue.pollExpired d.queue now = none := by
  unfold next at h
  split at h
  · assumption
  · split at h <;> cases h

lemma DispatchQueue.poll_none {lag : ℕ} (hQ : Prompt Q lag) {q : DispatchQueue AddrPair Q}
    {now d : Instant} {p : AddrPair} (h : q.poll now = none) (hd : q.deadline p = some d) :
    now < d + lag := by
  have hnext : q.delayed.next now = some none := by
    rcases Delays.next_spec q.bijective now with hn | ⟨v, d', t, hn, -⟩
    · exact hn
    · unfold poll at h
      split at h
      · cases h
      · next hne => exact absurd hn (hne _ _)
  obtain ⟨k, hk, hentry⟩ := Option.bind_eq_some_iff.mp hd
  obtain ⟨⟨p', t⟩, he, rfl⟩ := Option.map_eq_some_iff.mp hentry
  exact hQ _ _ (Delays.pollExpired_none hnext) _ _ _ he

namespace State

open World Transition

/-! ## Nothing is ready -/

/-- The selector has nothing to return. -/
structure Idle (s : State T Q) (dev : Device) : Prop where
  written : s.selector.a.isSome = true → dev.written = none
  read : dev.read = none
  closing : s.world.closing = []
  polls : s.world.polls = []

section

variable {F O : Type} [Future F Cx O] (take : F → Cx → Option (O × Cx))
  (hf : ∀ f w, Future.poll f w = answer (take f w) f w) {slot slot' : Option F} {w w' : Cx}
include hf

/-- A future that is not ready has nothing to take. -/
lemma take_none (h : pollSlot slot w = (none, slot', w')) {f : F} (hs : slot = some f) :
    take f w = none := by
  subst hs
  simp only [pollSlot, hf, answer] at h
  cases ht : take f w with
  | none => rfl
  | some x =>
    rw [ht] at h
    cases h

end

variable {wire : Wire} {clock : Clock} {hist : List (State T Q × Label)} {s s' : State T Q}
  {dev : Device}

omit [TcpSocket T] in
lemma idle_of_pending (hs : s.Armed) (hpc : s.pc = .select) (h : s.selects dev = .pending) :
    s.Idle dev := by
  obtain ⟨sel, w, hpoll⟩ : ∃ sel w, s.selector.poll (s.cx dev) = (.pending, sel, w) :=
    ⟨_, _, Prod.ext h rfl⟩
  obtain ⟨b, hb⟩ := Option.isSome_iff_exists.mp (hs.reader.trans (by rw [hpc]; rfl))
  obtain ⟨c, hc⟩ := Option.isSome_iff_exists.mp hs.close
  obtain ⟨d, hd⟩ := Option.isSome_iff_exists.mp hs.update
  cases Selector.poll_cases hpoll with
  | pending pa pb pc pd =>
    -- the futures before one of them leave the surroundings as they are
    obtain ⟨-, rfl⟩ := pollSlot_none takeWritten poll_write pa
    obtain ⟨-, rfl⟩ := pollSlot_none takeRead poll_read pb
    obtain ⟨-, rfl⟩ := pollSlot_none takeClose poll_close pc
    refine ⟨fun ha => ?_, ?_, ?_, ?_⟩
    · obtain ⟨a, ha⟩ := Option.isSome_iff_exists.mp ha
      exact Option.map_eq_none_iff.mp (take_none takeWritten poll_write pa ha)
    · exact Option.map_eq_none_iff.mp (take_none takeRead poll_read pb hb)
    · exact List.head?_eq_none_iff.mp
        (Option.map_eq_none_iff.mp (take_none takeClose poll_close pc hc))
    · exact List.head?_eq_none_iff.mp
        (Option.map_eq_none_iff.mp (take_none takePoll poll_poll pd hd))

lemma select_of_poll (hl : s.step wire (.poll dev) = .ok s') : s.pc = .select := by
  by_contra hpc
  have hdis : s.step wire (.poll dev) = .error .disabled := if_neg hpc
  rw [hdis] at hl
  cases hl

/-! ## From the queue to `next_poll`, and on to the dispatch -/

/-- The connection that a step takes out of the queue because its deadline has passed. -/
def expired (_ : World T Q) (e : Event) : List AddrPair :=
  match e with
  | .expire addr => [addr]
  | _ => []

/-- The connection that a step dispatches. -/
def dispatched (_ : World T Q) (e : Event) : List AddrPair :=
  match e with
  | .dispatch addr => [addr]
  | _ => []

/-- The connection that is in `next_poll` when the loop returns or panics. -/
def abandoned (w : World T Q) (e : Event) : List AddrPair :=
  match e with
  | .stop => w.nextPoll.toList
  | _ => []

/-- The way of a connection through one step. -/
lemma passes_nextPoll {w w' : World T Q} {e : Event} (hst : w.Stopped) (h : Steps wire w e w') :
    (w.nextPoll.toList ++ expired w e = dispatched w e ++ w'.nextPoll.toList ∧
        abandoned w e = [] ∧ (w.running = false → w'.running = false ∧ expired w e = [])) ∨
      (expired w e = [] ∧ dispatched w e = [] ∧ w'.nextPoll.toList = [] ∧
        abandoned w e = w.nextPoll.toList ∧ w'.running = false) := by
  cases h with
  | expire hnext hq =>
    refine Or.inl ⟨?_, rfl, fun hrun => ?_⟩
    · rw [hnext]
      rfl
    · -- the queue of a loop that has halted is empty
      obtain ⟨-, ⟨d, hd, -⟩, -⟩ := DispatchQueue.poll_some hq
      rw [(hst hrun).2.2.2.2.2] at hd
      cases hd
  | dispatchKeep hnext | dispatchDrop hnext =>
    refine Or.inl ⟨?_, rfl, fun hrun => ⟨hrun, rfl⟩⟩
    rw [hnext]
    rfl
  | stop => exact Or.inr ⟨rfl, rfl, rfl, rfl, rfl⟩
  | _ => exact Or.inl ⟨List.append_nil _, rfl, fun hrun => ⟨hrun, rfl⟩⟩

/-- A connection leaves the queue after its deadline, while nothing else is ready. -/
lemma expire_when_idle (h : LoopReachable wire clock s) {l : Label} {addr : AddrPair}
    (hl : s.step wire l = .ok s') (he : s.event wire l = some (.expire addr)) :
    ∃ dev d, l = .poll dev ∧ s.Idle dev ∧ s.world.queue.deadline addr = some d ∧
      d ≤ s.world.now := by
  cases l with
  | elapse | app => cases he
  | turn =>
    change s.turnEvent wire = _ at he
    unfold turnEvent at he
    split at he
    · cases he
    · split at he
      · obtain ⟨_, -, he⟩ := Option.map_eq_some_iff.mp he
        cases he
      · cases he
  | poll dev =>
    cases hsel : s.selects dev with
    | pending =>
      rw [pollEvent_pending hsel] at he
      obtain ⟨-, he⟩ := Option.ite_none_right_eq_some.mp he
      obtain ⟨⟨addr', queue⟩, hq, he⟩ := Option.map_eq_some_iff.mp he
      cases he
      obtain ⟨-, ⟨d, hd, hle⟩, -⟩ := DispatchQueue.poll_some hq
      exact ⟨dev, d, rfl, idle_of_pending (armed_of_poll h hl) (select_of_poll hl) hsel, hd, hle⟩
    | ready x =>
      rw [pollEvent_ready hsel] at he
      cases handleEvent_isNextPoll he
  | resume => cases resume_isNextPoll he
  | unwind => cases he

/-- **Every dispatch is due.** In every run, the connections that are dispatched are those that the
queue has returned, each as often and in the same order, up to the one that is in `next_poll`, at
the end or when the loop halted. The queue returns a connection only after its deadline, and only
while there is no packet, no finished write and no message. -/
theorem dispatches_in_order (r : LoopRun wire clock hist s) :
    collect expired (events wire hist) = collect dispatched (events wire hist)
        ++ collect abandoned (events wire hist) ++ s.world.nextPoll.toList ∧
      (collect abandoned (events wire hist) ≠ [] → s.pc = .halted) ∧
      ∀ x ∈ hist, ∀ addr, x.1.event wire x.2 = some (.expire addr) →
        ∃ dev d, x.2 = .poll dev ∧ x.1.Idle dev ∧ x.1.world.queue.deadline addr = some d ∧
          d ≤ x.1.world.now := by
  have hstopped : (World.init clock : World T Q).Stopped := stopped_init clock
  obtain ⟨hflow, hlost⟩ := Run.conserves_until (c := fun w => w.nextPoll.toList) hstopped rfl
    (fun hst hw => stopped_step hst (steps_of_step hw))
    (fun hst hw => passes_nextPoll hst (steps_of_step hw)) (LoopRun.world r)
  refine ⟨hflow, fun h => ?_, fun x hx addr he => ?_⟩
  · exact halted_of_stopped (LoopReachable.consistent r.reachable) (hlost h).1
  · obtain ⟨x', hl⟩ := r.mem_step hx
    exact expire_when_idle (r.reachable_of_mem hx) hl he

/-- The SYN-ACK and its retransmission are dispatched, and the next retransmission is in `next_poll`
when the device fails. -/
theorem dispatches_in_order_retransmission :
    ∃ hist s, LoopRun Reference.wire Reference.clock hist (s : Reference.Loop) ∧
      collect dispatched (events Reference.wire hist) = [Reference.pair, Reference.pair] ∧
      collect abandoned (events Reference.wire hist) = [Reference.pair] ∧ s.pc = .halted ∧
      collect expired (events Reference.wire hist)
        = [Reference.pair, Reference.pair, Reference.pair] := by
  obtain ⟨hist, s, r, hs⟩ := Reference.run_of_check
    (Reference.retransmission ++
      [.elapse 2000000000, Reference.idle, .turn, Reference.failing])
    (fun hist s =>
      decide (collect dispatched (events Reference.wire hist) = [Reference.pair, Reference.pair]) &&
      decide (collect abandoned (events Reference.wire hist) = [Reference.pair]) &&
      s.world.nextPoll.isNone) (by decide +kernel)
  simp only [Bool.and_eq_true, decide_eq_true_eq, Option.isNone_iff_eq_none] at hs
  obtain ⟨⟨hd, ha⟩, hn⟩ := hs
  obtain ⟨hflow, hret, -⟩ := dispatches_in_order r
  refine ⟨hist, s, r, hd, ha, hret (by simp [ha]), ?_⟩
  rw [hflow, hd, ha, hn]
  rfl

/-! ## How long a connection stays in `next_poll` -/

/-- The reply that a step returns. -/
def repliesOf (wire : Wire) (s : State T Q) (l : Label) : List Packet := (replyOf wire s l).toList

/-- What fills the buffer is popped. -/
lemma drainReplies_length {rs rest : List Packet} {buf : List UInt8}
    (h : drainReplies wire rs = .ok (buf, rest)) (hne : buf ≠ []) : rest.length < rs.length := by
  induction rs with
  | nil =>
    cases h
    exact absurd rfl hne
  | cons r rs ih =>
    rw [drainReplies] at h
    rw [List.length_cons]
    split at h
    · cases h
    · have hlt := ih h
      omega
    · cases h
      omega

/-- At the head of the loop with the writer at hand, a reply is popped unless the connection in
`next_poll` is dispatched. -/
lemma replies_cost {l : Label} {addr : AddrPair} (h : RepliesStep wire s l s')
    (hn : s.world.nextPoll = some addr) :
    s.event wire l = some (.dispatch addr) ∨
      s'.ingressReplies.length + (s.drains l).toNat
        ≤ s.ingressReplies.length + (repliesOf wire s l).length := by
  unfold repliesOf
  cases h with
  | push hr h =>
    have hl : l ≠ .turn := by
      rintro rfl
      rw [replyOf_turn] at hr
      cases hr
    right
    rw [hr, h, drains_false s hl]
    simp
  | keep hr hd h =>
    right
    rw [hr, h, hd]
    simp
  | @drain buf hr hd h =>
    by_cases hbuf : buf = []
    · left
      subst hbuf
      rw [drains, Bool.and_eq_true, decide_eq_true_eq, decide_eq_true_eq] at hd
      obtain ⟨rfl, hw⟩ := hd
      show s.turnEvent wire = _
      unfold turnEvent
      rw [hw]
      dsimp only
      rw [show s.serialised wire [] = .ok ([], s'.ingressReplies) from h, hn]
      rfl
    · right
      have hlt := drainReplies_length h hbuf
      rw [hr, hd]
      simp only [Bool.toNat_true, Option.toList_none, List.length_nil]
      omega

/-- **How long a connection stays in `next_poll`.** As long as the loop does not halt: it is
dispatched before the loop has come to its head with the writer at hand `n + 1` times, if `n`
replies wait or are returned meanwhile. -/
theorem dispatched_within (h : LoopReachable wire clock s) (r : Run (step wire) s hist s')
    (hrun : s'.pc ≠ .halted) {addr : AddrPair} (hn : s.world.nextPoll = some addr)
    (hlt : s.ingressReplies.length + (collect (repliesOf wire) hist).length
      < hist.countP fun x => x.1.drains x.2) :
    ∃ x ∈ hist, x.1.event wire x.2 = some (.dispatch addr) := by
  have hwait := r.budget (fun s => s.ingressReplies.length) drains (repliesOf wire)
    (D := fun x l => x.event wire l = some (.dispatch addr) ∨ x.event wire l = some .stop)
    (P := fun x => LoopReachable wire clock x ∧ x.world.nextPoll = some addr) ⟨h, hn⟩ ?_
  · rcases hwait with ⟨x, hx, hD | hD⟩ | ⟨-, hle⟩
    · exact ⟨x, hx, hD⟩
    · exact absurd (halted_of_stop h r ⟨x, hx, hD⟩) hrun
    · omega
  rintro x l x' ⟨hx, hnx⟩ hl
  obtain ⟨before, rx⟩ := hx
  rcases replies_cost (LoopRun.replies rx hl) hnx with hd | hle
  · exact Or.inl (Or.inl hd)
  rcases nextPoll_step (LoopReachable.consistent rx.reachable) hnx hl with hnext | ⟨-, hD⟩
  · exact Or.inr ⟨⟨LoopReachable.after rx.reachable hl, hnext⟩, hle⟩
  · exact Or.inl hD

/-- An ACK is due while the device is busy, and a reply waits, too. The reply goes first, and then
the connection is dispatched. -/
theorem dispatched_within_two :
    ∃ (s s' : Reference.WindowedLoop) (hist : List (Reference.WindowedLoop × Label)),
      LoopReachable Reference.wire Reference.clock s ∧ Run (step Reference.wire) s hist s' ∧
      s.world.nextPoll = some Reference.pair ∧ s.ingressReplies.length = 1 ∧
      hist.countP (fun x => x.1.drains x.2) = 2 ∧
      ∃ x ∈ hist, x.1.event Reference.wire x.2 = some (.dispatch Reference.pair) := by
  obtain ⟨hist₀, s, r₀, hs⟩ := Reference.run_of_windowed
    (Reference.handshake ++ [.turn, Reference.receive .psh true [1], .turn, Reference.idle, .turn,
      Reference.strayAck])
    (fun _ s => decide (s.world.nextPoll = some Reference.pair) &&
      decide (s.ingressReplies.length = 1) &&
      tests (step Reference.wire) s
        [.turn, Reference.written, .turn, Reference.written, .turn]
        fun hist s' => decide (s'.pc ≠ .halted) &&
          decide (hist.countP (fun x => x.1.drains x.2) = 2) &&
          decide (collect (repliesOf Reference.wire) hist = []))
    (by decide +kernel)
  simp only [Bool.and_eq_true, decide_eq_true_eq] at hs
  obtain ⟨⟨hn, hone⟩, htests⟩ := hs
  obtain ⟨hist, s', r, hs'⟩ := run_of_tests _ _ htests
  simp only [Bool.and_eq_true, decide_eq_true_eq] at hs'
  obtain ⟨⟨hrun, htwo⟩, hnone⟩ := hs'
  refine ⟨s, s', hist, r₀.reachable, r, hn, hone, htwo, ?_⟩
  refine dispatched_within r₀.reachable r hrun hn ?_
  rw [hone, hnone, htwo]
  decide

/-! ## Sleeping -/

/-- A poll leaves the loop where it is only if nothing is ready. -/
lemma waits_of_poll (hl : s.step wire (.poll dev) = .ok s') (hpc : s'.pc = .select) :
    s.pc = .select ∧ s.selects dev = .pending ∧
      (s.world.nextPoll ≠ none ∨ s.world.queue.poll s.world.now = none) := by
  cases steps_of_loop hl with
  | wait hsel hpending hq => exact ⟨hsel, hpending, hq⟩
  | _ => cases hpc

/-- A connection that has something to send is scheduled, or an update says so, as long as every
read opens the window in time. -/
lemma scheduled_of_due (hfresh : FreshQuiet T) (hzero : EmptyRecvQuiet T)
    (r : LoopRun wire clock hist s) (hreads : ∀ x ∈ events wire hist, x.1.OpensInTime x.2)
    {addr : AddrPair} {c : Connection} {sh : Shared T} (hc : s.world.sockets addr = some c)
    (hsh : s.world.shared c.socket = some sh) (hdue : TcpSocket.pollAt sh.tcp ≠ .ingress) :
    s.world.Scheduled addr ∨ s.world.Notified addr := by
  have hinv : s.world.ActiveScheduled ∧ s.world.Served Due := by
    refine LoopRun.invariant (G := OpensInTime) (I := fun w => w.ActiveScheduled ∧ w.Served Due)
      ⟨fun _ _ _ h => (nomatch h), fun _ _ _ h => (nomatch h)⟩ ?_ r hreads
    intro w e w' ho hst hw hg h
    exact ⟨activeScheduled_step ho hw.1 h, served_opens_step hfresh hzero ho hst hw.1 hw.2 hg h⟩
  exact serves_due_iff.mp (hinv.2 (connOf_of_sockets hc) hsh) hdue

/-- **The loop sleeps when there is nothing to do.** In every run after which a poll leaves the loop
waiting: there is no packet, no half-close message and no poll update; and if the device is idle
too, there is no reply, nobody is in `next_poll`, no deadline has passed by more than the lag of the
timer, and two kinds of connections have a deadline: those with both halves dropped and, if every
read opened the window in time, those with something to send. -/
theorem sleeps_when_done {lag : ℕ} (hQ : Prompt Q lag) (hfresh : FreshQuiet T)
    (hzero : EmptyRecvQuiet T) (r : LoopRun wire clock hist s)
    (hl : s.step wire (.poll dev) = .ok s') (hpc : s'.pc = .select) :
    s.Idle dev ∧
      (s.selector.a = none →
        s.ingressReplies = [] ∧ s.world.nextPoll = none ∧
        (∀ addr d, s.world.queue.deadline addr = some d → s.world.now < d + lag) ∧
        ∀ addr c sh, s.world.sockets addr = some c → s.world.shared c.socket = some sh →
          c.inner.bothDropped = true ∨
            (TcpSocket.pollAt sh.tcp ≠ .ingress ∧
              ∀ x ∈ events wire hist, x.1.OpensInTime x.2) →
          (s.world.queue.deadline addr).isSome = true) := by
  have hs := armed_of_poll r.reachable hl
  obtain ⟨hselect, hpending, hq⟩ := waits_of_poll hl hpc
  have hi : s.Idle dev := idle_of_pending hs hselect hpending
  refine ⟨hi, fun hidle => ?_⟩
  obtain ⟨hreplies, hnext⟩ := hs.waits hselect hidle
  have hpoll : s.world.queue.poll s.world.now = none := hq.resolve_left (not_not_intro hnext)
  refine ⟨hreplies, hnext, fun addr d hd => DispatchQueue.poll_none hQ hpoll hd, ?_⟩
  intro addr c sh hc hsh hneeds
  have hscheduled : s.world.Scheduled addr := by
    rcases hneeds with hboth | ⟨hdue, hreads⟩
    · have hinv : s.world.DroppedScheduled :=
        LoopReachable.invariant (fun _ _ h => nomatch h)
          (fun ho _ hw h => droppedScheduled_step ho hw h) r.reachable
      exact hinv hc hboth
    · refine (scheduled_of_due hfresh hzero r hreads hc hsh hdue).resolve_right ?_
      rintro ⟨t, -, ht⟩
      rw [hi.polls] at ht
      cases ht
  refine hscheduled.resolve_right fun hn => ?_
  rw [hnext] at hn
  cases hn

lemma prompt_reference : Prompt (Reference.Queue AddrPair) 0 := by
  intro q now hnone k p t hentry
  change q.entry k = some (p, t) at hentry
  have hk : k < q.bound := Reference.Queue.lt_bound hentry
  obtain ⟨k', v', t', hearliest, hle⟩ := Reference.Queue.earliest_le hk hentry
  change q.pollExpired now = none at hnone
  unfold Reference.Queue.pollExpired at hnone
  rw [hearliest] at hnone
  dsimp only at hnone
  split at hnone
  · obtain ⟨q', hq', -⟩ := Reference.Queue.alter_some (fun _ => none)
      (Reference.Queue.entry_of_earliest hearliest)
    rw [hq'] at hnone
    cases hnone
  · next hlt => exact (Nat.lt_of_not_le hlt).trans_le hle

lemma ok_of_toOption {α β : Type} {x : Except α β} {b : β} (h : x.toOption = some b) :
    x = .ok b := by
  cases x with
  | error e => cases h
  | ok a =>
    cases h
    rfl

/-- The SYN-ACK has been written, and the loop waits for the retransmission timer. -/
theorem sleeps_when_done_synAck :
    ∃ (hist : List (Reference.WindowedLoop × Label)) (s s' : Reference.WindowedLoop),
      LoopRun Reference.wire Reference.clock hist s ∧
      s.step Reference.wire (.poll ⟨none, none⟩) = .ok s' ∧ s'.pc = .select ∧
      s.selector.a = none ∧ s.Idle ⟨none, none⟩ ∧
      ∃ d, s.world.queue.deadline Reference.pair = some d ∧ s.world.now < d := by
  obtain ⟨hist, s, r, hs⟩ := Reference.run_of_windowed
    (Reference.connect ++ Reference.dispatchDue ++ [Reference.written, .turn])
    (fun hist s => s.selector.a.isNone &&
      ((s.step Reference.wire Reference.idle).toOption.any fun s' : Reference.WindowedLoop =>
        decide (s'.pc = .select)) &&
      ((events Reference.wire hist).all fun x => readsScheduled x.1 x.2) &&
      (s.world.sockets Reference.pair).any fun c : Connection =>
        (s.world.shared c.socket).any fun sh : Shared Reference.Windowed =>
          decide (TcpSocket.pollAt sh.tcp ≠ .ingress)) (by decide +kernel)
  simp only [Bool.and_eq_true, Option.any_eq_true, Option.isNone_iff_eq_none, List.all_eq_true,
    decide_eq_true_eq] at hs
  obtain ⟨⟨⟨hidle, s', hs', hpc⟩, hreads⟩, c, hc, sh, hsh, hdue⟩ := hs
  have hl := ok_of_toOption hs'
  obtain ⟨hi, hrest⟩ := sleeps_when_done prompt_reference
    Reference.Windowed.freshQuiet Reference.Windowed.emptyRecvQuiet r hl hpc
  obtain ⟨-, -, hlate, hneeds⟩ := hrest hidle
  have hd := hneeds _ c sh hc hsh
    (Or.inr ⟨hdue, fun x hx => opensInTime_of_readsScheduled (hreads x hx)⟩)
  obtain ⟨d, hd⟩ := Option.isSome_iff_exists.mp hd
  exact ⟨hist, s, s', r, hl, hpc, hidle, hi, d, hd, hlate _ d hd⟩

end State

end Ustunet
