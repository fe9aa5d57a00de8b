import Ustunet.Scheduling

/-!
# When a connection is removed

`Connection::dispatch` has a connection removed, once both its halves are dropped, in three
cases: its socket has no peer any more, waits for packets only, or had nothing to send at this
moment. In the last case a timer of the socket may still be running: a retransmission or the end
of TIME-WAIT.

`removals_finished` says that no connection is removed with a timer running exactly when none
that is dropped is dispatched before its time, and names the two ways in which that happens: a
poll update that comes too early, and a message or a packet that is handled while the connection
is in `next_poll`.
-/

namespace Ustunet

open World DispatchQueue

variable {T Q : Type} [TcpSocket T] [DelayQueue AddrPair Q] {wire : Wire}

namespace Connection

/-- The socket has no peer, or waits for packets only. -/
def Over (tcp : T) : Prop :=
  (TcpSocket.remoteEndpoint tcp).isSpecified = false ∨ TcpSocket.pollAt tcp = .ingress

/-- A socket that is over stays so when it is dispatched with nothing due. -/
lemma Over.early (hdue : DispatchesWhenDue T wire) {tcp : T} {ts : SmolInstant} (h : Over tcp)
    (hts : (TcpSocket.pollAt tcp).isDue ts = false) :
    Over (TcpSocket.dispatchTo wire tcp ts).2.2 := by
  obtain ⟨-, hpoll, hremote⟩ := hdue.early tcp ts hts
  unfold Over
  rw [hpoll, hremote]
  exact h

/-- A connection is removed with its socket over, if it was over before or something was due. -/
lemma Finished.over (hdue : DispatchesWhenDue T wire) {c : Connection} {s : Shared T}
    {ts : SmolInstant} (hfin : Finished wire c s ts)
    (hbefore : (TcpSocket.pollAt s.tcp).isDue ts = true ∨ Over s.tcp) :
    Over (TcpSocket.dispatchTo wire s.tcp ts).2.2 := by
  rcases hfin.2 with hremote | hex | hpoll
  · exact Or.inl hremote
  · cases hts : (TcpSocket.pollAt s.tcp).isDue ts with
    | true => exact hdue.due s.tcp ts hts hex
    | false =>
      rw [hts] at hbefore
      exact (hbefore.resolve_left (by simp)).early hdue hts
  · exact Or.inr hpoll

/-- A dropped connection that is dispatched before its time is removed. -/
lemma finished_early (hdue : DispatchesWhenDue T wire) {c : Connection} {s : Shared T}
    {ts : SmolInstant} (hboth : c.inner.bothDropped = true)
    (hts : (TcpSocket.pollAt s.tcp).isDue ts = false) : Finished wire c s ts :=
  ⟨hboth, Or.inr (Or.inl (hdue.early s.tcp ts hts).1)⟩

/-- `dispatch` says that the connection is to be removed exactly when it is finished. -/
lemma dispatch_fst {c : Connection} {s : Shared T} {ts : SmolInstant}
    {q : DispatchQueue AddrPair Q} :
    (c.dispatch wire s ts q).1 = true ↔ Finished wire c s ts := by
  generalize h : c.dispatch wire s ts q = x
  obtain ⟨drop, buf, s', q'⟩ := x
  obtain ⟨-, ⟨hd, hf, -⟩ | ⟨hd, hf, -⟩⟩ := dispatch_cases h
  · simp [hd, hf]
  · simp [hd, hf]

end Connection

namespace World

open Connection

variable {w w' : World T Q} {e : Event}

/-! ## Dropped connections that are dispatched on time -/

/-- There is something to dispatch now, or the socket is over. -/
def Ripe (w : World T Q) (tcp : T) : Prop :=
  (TcpSocket.pollAt tcp).isDue (w.clock.timestamp w.now) = true ∨ Over tcp

/-- A deadline that does not come before `poll_at`. -/
def Awaits (w : World T Q) (d : Option Instant) (tcp : T) : Prop :=
  Over tcp ∨ Covers (instant w.clock (TcpSocket.pollAt tcp)) d

/-- The dispatch that a dropped connection waits for does not come before its time. -/
def DroppedOnTime (w : World T Q) : Prop :=
  w.clock.InTime w.now ∧ ∀ ⦃p c s⦄, w.sockets p = some c → w.shared c.socket = some s →
    c.inner.bothDropped = true →
    (w.nextPoll = some p → w.Ripe s.tcp) ∧ w.Awaits (w.queue.deadline p) s.tcp

/-- What an event has to respect: an update that is delivered for a dropped connection does not
come before its `poll_at`, and what is handled while the connection is in `next_poll` leaves it
something to dispatch at once, or over. -/
def KeepsOnTime (w : World T Q) (e : Event) : Prop :=
  match e with
  | .elapse nanos => w.clock.InTime (w.now + nanos)
  | .update p t => ∀ c s, w.sockets p = some c → w.shared c.socket = some s →
    c.inner.bothDropped = true → t ≠ .ingress → w.Awaits (instant w.clock t) s.tcp
  | .process p ts ip repr => ∀ c s, w.sockets p = some c → w.shared c.socket = some s →
    c.inner.bothDropped = true → w.nextPoll = some p →
      checkAcceptability s.tcp ip repr = .ok () →
      w.Ripe (TcpSocket.process s.tcp ts ip repr).2
  | .dropHalf half => ∀ c s, w.sockets half.socket = some c → w.shared c.socket = some s →
    (c.marked half.rw).inner.bothDropped = true → w.nextPoll = some half.socket →
      w.Ripe (TcpSocket.close s.tcp)
  | _ => True

omit [TcpSocket T] in
/-- A connection with both halves dropped has no half that could be used. -/
lemma Owned.ne_conn (ho : w.Owned) (hst : w.Stopped) {p : AddrPair} {c : Connection}
    (hc : w.sockets p = some c) (hboth : c.inner.bothDropped = true) {half : Half}
    (hmem : half ∈ w.halves) : c.socket ≠ half.conn := by
  intro he
  have hdropped := (ho.not_dropped hst hc hmem he).2
  rw [RwStatus.dropped_of_bothDropped hboth] at hdropped
  cases hdropped

/-- A deadline that the loop has just set awaits `poll_at`. -/
lemma Sent.awaits {p : AddrPair} {tcp : T} (hsend : Sent w w' p tcp)
    (hclock : w.queue.clock = w.clock) : w.Awaits (w'.queue.deadline p) tcp := by
  obtain ⟨t, hq, ht⟩ := hsend.queue
  by_cases hi : TcpSocket.pollAt tcp = .ingress
  · exact Or.inl (Or.inr hi)
  · obtain rfl := ht.resolve_left hi
    obtain ⟨i, hi⟩ := Option.isSome_iff_exists.mp ((isSome_instant w.clock _).mpr hi)
    refine Or.inr ?_
    rw [hq, deadline_send, if_pos rfl, hclock, hi, Option.some_or]
    intro j hj
    exact ⟨i, rfl, le_of_eq (Option.some.inj hj)⟩

/-- A socket whose deadline has passed is ripe, if the deadline did not come before `poll_at`. -/
lemma Awaits.ripe {d : Instant} {tcp : T} (h : w.Awaits (some d) tcp)
    (hin : w.clock.InTime w.now) (hd : d ≤ w.now) : w.Ripe tcp := by
  rcases h with h | h
  · exact Or.inr h
  · refine Or.inl ?_
    obtain ⟨k, hk, hle⟩ := h d rfl
    cases hp : TcpSocket.pollAt tcp with
    | now => rfl
    | time t =>
      rw [hp] at hk
      have ht : w.clock.resolve t ≤ w.now := by
        rw [show w.clock.resolve t = k from Option.some.inj hk]
        exact hle.trans hd
      simpa [PollAt.isDue] using Clock.millis_le_timestamp hin ht
    | ingress =>
      rw [hp] at hk
      cases hk

/-- Time passes: what was due stays due. -/
lemma DroppedOnTime.elapse (hw : w.DroppedOnTime) {nanos : ℕ}
    (hg : w.KeepsOnTime (.elapse nanos)) :
    ({ w with now := w.now + nanos } : World T Q).DroppedOnTime := by
  refine ⟨hg, fun p c s hc hs hboth => ?_⟩
  obtain ⟨hnext, hdead⟩ := hw.2 hc hs hboth
  refine ⟨fun hn => (hnext hn).imp_left fun hd => ?_, hdead⟩
  have hmono := Clock.timestamp_mono (Nat.le_add_right w.now nanos) hg
  unfold PollAt.isDue at hd ⊢
  split at hd
  · rfl
  · exact decide_eq_true ((of_decide_eq_true hd).trans hmono)
  · cases hd

/-- A dropped connection after a step that leaves it in the pool. -/
lemma onTime_of_pairStep (ho : w.Owned) (hst : w.Stopped) (hclock : w.queue.clock = w.clock)
    (hw : w.DroppedOnTime) (hg : w.KeepsOnTime e) {p : AddrPair} {c : Connection}
    {s s' : Shared T} (hc : w.sockets p = some c) (hs : w.shared c.socket = some s)
    (hboth : c.inner.bothDropped = true) (hstep : PairStep wire w w' p c.socket e s s') :
    (w'.nextPoll = some p → w.Ripe s'.tcp) ∧ w.Awaits (w'.queue.deadline p) s'.tcp := by
  obtain ⟨hin, hw⟩ := hw
  obtain ⟨hripe, hawaits⟩ := hw hc hs hboth
  cases hstep with
  | other hkeep =>
    rw [hkeep.deadline, hkeep.next]
    exact ⟨hripe, hawaits⟩
  | read _ _ _ hmem hid _ _ => exact absurd hid.symm (ho.ne_conn hst hc hboth hmem)
  | call _ hmem _ hid _ _ _ => exact absurd hid.symm (ho.ne_conn hst hc hboth hmem)
  | process ts ip repr _ _ hok htcp hsend hnext =>
    refine ⟨fun hn => ?_, hsend.awaits hclock⟩
    rw [htcp]
    exact hg c s hc hs hboth (hnext ▸ hn) hok
  | dispatch _ _ hsend hnext =>
    refine ⟨fun hn => ?_, hsend.awaits hclock⟩
    rw [hnext] at hn
    cases hn
  | @dropHalf _ half _ hp _ _ hsend hnext =>
    subst hp
    refine ⟨fun hn => hg c s hc hs ?_ (hnext ▸ hn), hsend.awaits hclock⟩
    rw [RwStatus.bothDropped, Bool.and_eq_true] at hboth ⊢
    have hmarked := fun rw' => c.marked_dropped half.rw rw'
    exact ⟨(hmarked .write).trans (by simp [RwStatus.dropped, hboth.1]),
      (hmarked .read).trans (by simp [RwStatus.dropped, hboth.2])⟩
  | @update t _ hpolls hq hnext =>
    rw [hnext, hq, deadline_send, if_pos rfl, hclock]
    refine ⟨hripe, ?_⟩
    by_cases ht : t = .ingress
    · rw [ht]
      exact hawaits
    · have hlate := hg c s hc hs hboth ht
      obtain ⟨i, hi⟩ := Option.isSome_iff_exists.mp ((isSome_instant w.clock t).mpr ht)
      rw [hi] at hlate ⊢
      exact hlate
  | expire hd hle hgone hnext =>
    rw [hd] at hawaits
    rw [hgone]
    refine ⟨fun _ => hawaits.ripe hin hle, Or.inr fun j hj => ?_⟩
    cases hj

/-- A connection whose second half is marked as dropped. -/
lemma onTime_of_mark (ho : w.Owned) (hclock : w.queue.clock = w.clock) {half : Half}
    {c : Connection} {s' : Shared T} (hg : w.KeepsOnTime (.dropHalf half))
    (hc : w.sockets half.socket = some c)
    (hboth : (c.marked half.rw).inner.bothDropped = true) (hs' : w'.shared c.socket = some s')
    (h : Steps wire w (.dropHalf half) w') :
    (w'.nextPoll = some half.socket → w.Ripe s'.tcp) ∧
      w.Awaits (w'.queue.deadline half.socket) s'.tcp := by
  cases h with
  | @dropHalf _ rest c₀ c' s₀ s₁ queue _ hc₀ hs₀ hd =>
    obtain rfl := Option.some.inj (hc.symm.trans hc₀)
    change (w.setShared _ _).shared _ = some s' at hs'
    rw [shared_setShared, if_pos rfl] at hs'
    obtain rfl := Option.some.inj hs'
    obtain ⟨-, ⟨hf, -⟩ | ⟨-, rfl, rfl⟩⟩ := dropHalf_cases hd
    · rw [RwStatus.bothDropped, hf] at hboth
      cases hboth
    · refine ⟨hg c s₀ hc hs₀ hboth, Sent.awaits ⟨⟨_, by rw [ho.handle hc], ?_⟩, rfl⟩ hclock⟩
      by_cases hi : TcpSocket.pollAt (TcpSocket.close s₀.tcp) = .ingress
      · exact Or.inl hi
      · exact Or.inr (by simp [hi])

theorem droppedOnTime_step {clock : Clock} (ho : w.Owned) (hst : w.Stopped)
    (hcl : Clocked clock w) (hw : w.DroppedOnTime) (hg : w.KeepsOnTime e)
    (h : Steps wire w e w') : w'.DroppedOnTime := by
  by_cases hel : ∃ nanos, e = .elapse nanos
  · obtain ⟨nanos, rfl⟩ := hel
    cases h
    exact hw.elapse hg
  · have hqclock : w.queue.clock = w.clock := hcl.2.1.trans hcl.1.symm
    have hnow := h.now_eq hel
    refine ⟨by rw [h.clock_eq, hnow]; exact hw.1, fun p c' s' hc' hs' hboth => ?_⟩
    unfold Ripe Awaits
    rw [h.clock_eq, hnow]
    rcases h.sockets_cases hc' with hc | ⟨half, c, rfl, rfl, hc, rfl⟩ | ⟨id, -, rfl⟩
    · rcases h.pair_cases ho hst (connOf_of_sockets hc') hs' with ⟨-, s, hs, hstep⟩ | ⟨tcp, rfl, -⟩
      · exact onTime_of_pairStep ho hst hqclock hw hg hc hs hboth hstep
      · cases h with
        | create hpair =>
          rw [hpair] at hc
          cases hc
    · exact onTime_of_mark ho hqclock hg hc hboth hs' h
    · cases hboth

/-- Whether a dropped connection that is dispatched has no peer any more. -/
def dispatchesGone (w : World T Q) (e : Event) : Bool :=
  match e with
  | .dispatch addr => (w.sockets addr).all fun c => (w.shared c.socket).all fun s =>
    !c.inner.bothDropped || !(TcpSocket.remoteEndpoint s.tcp).isSpecified
  | _ => true

end World

/-! ## Runs of the loop -/

namespace State

open Connection Transition

variable {clock : Clock} {hist : List (State T Q × Label)} {s : State T Q}

/-- A dispatch in a run: the world it happens in, the connection and what it shares. -/
structure DispatchIn (wire : Wire) (hist : List (State T Q × Label)) (w : World T Q)
    (addr : AddrPair) (c : Connection) (sh : Shared T) : Prop where
  event : (w, .dispatch addr) ∈ events wire hist
  pooled : w.sockets addr = some c
  shared : w.shared c.socket = some sh

/-- No connection is removed while its socket has a peer and something to send or a timer. -/
def RemovalsFinished (wire : Wire) (hist : List (State T Q × Label)) : Prop :=
  ∀ w addr c sh, DispatchIn wire hist w addr c sh →
    (c.dispatch wire sh (w.clock.timestamp w.now) w.queue).1 = true →
    (TcpSocket.remoteEndpoint
      (TcpSocket.dispatchTo wire sh.tcp (w.clock.timestamp w.now)).2.2).isSpecified = false ∨
      TcpSocket.pollAt (TcpSocket.dispatchTo wire sh.tcp (w.clock.timestamp w.now)).2.2
        = .ingress

/-- A connection with both halves dropped is dispatched only when something is due, or with its
socket over. -/
def DispatchesRipe (wire : Wire) (hist : List (State T Q × Label)) : Prop :=
  ∀ w addr c sh, DispatchIn wire hist w addr c sh → c.inner.bothDropped = true →
    (TcpSocket.pollAt sh.tcp).isDue (w.clock.timestamp w.now) = true ∨
      (TcpSocket.remoteEndpoint sh.tcp).isSpecified = false ∨
      TcpSocket.pollAt sh.tcp = .ingress

lemma dispatchesRipe_of_keepsOnTime (r : LoopRun wire clock hist s)
    (hg : ∀ x ∈ events wire hist, x.1.KeepsOnTime x.2) : DispatchesRipe wire hist := by
  intro w addr c sh hd hboth
  have hmem : w ∈ visited (events wire hist) s.world := mem_visited_of_mem hd.event
  obtain ⟨-, -, -, hw⟩ := LoopRun.invariant_mem
    (I := fun w => Clocked clock w ∧ w.DroppedOnTime) (G := KeepsOnTime)
    ⟨clocked_init clock, by simp [Clock.InTime, World.init], fun _ _ _ h => nomatch h⟩
    (fun ho hst hw hg h => ⟨clocked_step hw.1 h, droppedOnTime_step ho hst hw.1 hw.2 hg h⟩)
    r hg w hmem
  obtain ⟨w', hstep⟩ := (LoopRun.world r).mem_step hd.event
  have hnext : w.nextPoll = some addr := (steps_of_step hstep).dispatch_next
  exact (hw.2 hd.pooled hd.shared hboth).1 hnext

/-- **No connection is removed with a timer running**, in a run, exactly when every dispatch of a
connection with both halves dropped happens when something is due, or with the socket over. That
is so in every run whose updates do not come before the `poll_at` of a dropped connection, and
in which what is handled while it is in `next_poll` leaves it something to dispatch at once. -/
theorem removals_finished (hdue : DispatchesWhenDue T wire) (r : LoopRun wire clock hist s) :
    (RemovalsFinished wire hist ↔ DispatchesRipe wire hist) ∧
      ((∀ x ∈ events wire hist, x.1.KeepsOnTime x.2) → RemovalsFinished wire hist) := by
  have hiff : RemovalsFinished wire hist ↔ DispatchesRipe wire hist := by
    constructor
    · intro h w addr c sh hd hboth
      by_contra hno
      rw [not_or, Bool.not_eq_true] at hno
      obtain ⟨hts, hover⟩ := hno
      -- nothing is due, so the socket is as it was, and the connection is removed
      have hfin : Finished wire c sh (w.clock.timestamp w.now) := finished_early hdue hboth hts
      have hrem := h w addr c sh hd (dispatch_fst.mpr hfin)
      obtain ⟨-, hpoll, hremote⟩ := hdue.early sh.tcp (w.clock.timestamp w.now) hts
      rw [hpoll, hremote] at hrem
      exact hover hrem
    · intro h w addr c sh hd hdrop
      have hfin := dispatch_fst.mp hdrop
      exact hfin.over hdue (h w addr c sh hd hfin.1)
  exact ⟨hiff, fun hg => hiff.mpr (dispatchesRipe_of_keepsOnTime r hg)⟩

/-- A connection that the client has reset is removed when it is dispatched: its socket has no
peer. -/
theorem removals_finished_reset :
    ∃ (hist : List (Reference.Loop × Label)) (s : Reference.Loop),
      LoopRun Reference.wire Reference.clock hist s ∧
      (∃ w, (w, .dispatch Reference.pair) ∈ events Reference.wire hist ∧
        (w.sockets Reference.pair).isSome = true) ∧
      s.world.sockets Reference.pair = none ∧ RemovalsFinished Reference.wire hist := by
  obtain ⟨hist, s, r, hs⟩ := Reference.run_of_check Reference.staleUpdate
    (fun hist s => (s.world.sockets Reference.pair).isNone &&
      ((events Reference.wire hist).any fun x =>
        x.2 == .dispatch Reference.pair && (x.1.sockets Reference.pair).isSome) &&
      (events Reference.wire hist).all fun x => x.1.dispatchesGone x.2) (by decide +kernel)
  simp only [Bool.and_eq_true, Option.isNone_iff_eq_none, List.any_eq_true, List.all_eq_true,
    beq_iff_eq] at hs
  obtain ⟨⟨hnone, ⟨w, e⟩, hmem, he, hw⟩, hall⟩ := hs
  refine ⟨hist, s, r, ⟨w, he ▸ hmem, hw⟩, hnone, ?_⟩
  refine (removals_finished Reference.Socket.dispatchesWhenDue r).1.mpr ?_
  intro w addr c sh hd hboth
  have hgone := hall _ hd.event
  simp [dispatchesGone, hd.pooled, hd.shared, hboth] at hgone
  exact Or.inr (Or.inl hgone)

/-- Data and FIN of a connection with both halves dropped are sent, and not acknowledged; then the
update of the write is delivered, and the connection is dispatched again, before its time: it is
removed with the retransmission timer running. -/
theorem early_dispatch_removes :
    ∃ (s s' : Reference.Loop) (c : Connection) (sh : Shared Reference.Socket)
      (t : SmolInstant), LoopReachable Reference.wire Reference.clock s ∧
      s.event Reference.wire .turn = some (.dispatch Reference.pair) ∧
      s.step Reference.wire .turn = .ok s' ∧ s.world.sockets Reference.pair = some c ∧
      s.world.shared c.socket = some sh ∧
      (c.dispatch Reference.wire sh (s.world.clock.timestamp s.world.now) s.world.queue).1
        = true ∧
      (TcpSocket.remoteEndpoint (TcpSocket.dispatchTo Reference.wire sh.tcp
        (s.world.clock.timestamp s.world.now)).2.2).isSpecified = true ∧
      TcpSocket.pollAt (TcpSocket.dispatchTo Reference.wire sh.tcp
        (s.world.clock.timestamp s.world.now)).2.2 = .time t ∧
      s'.world.sockets Reference.pair = none := by
  obtain ⟨hist, s, r, hs⟩ := Reference.run_of_check Reference.earlyDispatch
    (fun _ s => decide (s.event Reference.wire .turn = some (.dispatch Reference.pair)) &&
      (Reference.stepsTo s .turn fun s' => (s'.world.sockets Reference.pair).isNone) &&
      (s.world.sockets Reference.pair).any fun c => (s.world.shared c.socket).any fun sh =>
        (c.dispatch Reference.wire sh (s.world.clock.timestamp s.world.now) s.world.queue).1 &&
        (TcpSocket.remoteEndpoint (TcpSocket.dispatchTo Reference.wire sh.tcp
          (s.world.clock.timestamp s.world.now)).2.2).isSpecified &&
        (Reference.timeOf (TcpSocket.pollAt (TcpSocket.dispatchTo Reference.wire sh.tcp
          (s.world.clock.timestamp s.world.now)).2.2)).isSome) (by decide +kernel)
  simp only [Bool.and_eq_true, decide_eq_true_eq, Option.any_eq_true,
    Option.isSome_iff_exists] at hs
  obtain ⟨⟨hev, hstep⟩, c, hc, sh, hsh, ⟨hdrop, hremote⟩, t, ht⟩ := hs
  obtain ⟨s', hs', hnone⟩ := Reference.step_of_stepsTo hstep
  exact ⟨s, s', c, sh, t, r.reachable, hev, hs', hc, hsh, hdrop, hremote,
    Reference.eq_time_of_timeOf ht, Option.isNone_iff_eq_none.mp hnone⟩

end State
end Ustunet
