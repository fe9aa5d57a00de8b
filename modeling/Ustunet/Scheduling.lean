import Ustunet.PairSteps

/-!
# What is scheduled

A connection is dispatched when its deadline in the queue has passed; from then on the loop
holds its pair in `next_poll`. The deadlines are set in three places (`process`, `dispatch`,
`drop_half`) and by the poll updates that the writers send. Four properties of all runs:

* `scheduled_pooled_iff`: what is scheduled is in the pool, as long as no update is delivered
  for a pair that has left it;
* `dropped_scheduled`: a connection with both halves dropped is scheduled;
* `egress_scheduled`: a connection whose socket has something to send, now or later, is
  scheduled, or will be by an update under way;
* `egress_on_time`: it is scheduled in time, as long as no update is delivered that has been
  overtaken, and no call that skips its update brings `poll_at` forward.
-/

namespace Ustunet
namespace DispatchQueue

variable {V Q : Type} [DecidableEq V] [DelayQueue V Q] {q : DispatchQueue V Q} {s s' : V}
  {p : PollAt}

lemma isSome_instant (clock : Clock) (p : PollAt) :
    (instant clock p).isSome = true ↔ p ≠ .ingress := by
  cases p <;> simp [instant]

/-- What was in the queue stays in it when a deadline is set. -/
lemma isSome_send (h : (q.deadline s').isSome = true) :
    ((q.send s p).deadline s').isSome = true := by
  rw [deadline_send]
  split
  · next he => subst he; simp [Option.isSome_or, h]
  · exact h

lemma isSome_send_self (h : p ≠ .ingress) : ((q.send s p).deadline s).isSome = true := by
  rw [deadline_send, if_pos rfl, Option.isSome_or, (isSome_instant q.clock p).mpr h]
  rfl

/-- Only the given socket can be new in the queue, and `Ingress` puts nothing in it. -/
lemma of_isSome_send (h : ((q.send s p).deadline s').isSome = true) :
    (q.deadline s').isSome = true ∨ (s' = s ∧ p ≠ .ingress) := by
  rw [deadline_send] at h
  split at h
  · next he =>
    subst he
    rw [Option.isSome_or, Bool.or_eq_true, isSome_instant] at h
    rcases h with h | h
    · exact Or.inr ⟨rfl, h⟩
    · exact Or.inl h
  · exact Or.inl h

end DispatchQueue

namespace World

open DispatchQueue

variable {T Q : Type} [DelayQueue AddrPair Q]

/-- The pair has a deadline in the queue or is dispatched next. -/
def Scheduled (w : World T Q) (p : AddrPair) : Prop :=
  (w.queue.deadline p).isSome = true ∨ w.nextPoll = some p

/-- An update that will put the pair in the queue is under way. -/
def Notified (w : World T Q) (p : AddrPair) : Prop :=
  ∃ t : PollAt, t ≠ .ingress ∧ (p, t) ∈ w.polls

/-- What is scheduled is in the pool. -/
def ScheduledPooled (w : World T Q) : Prop :=
  ∀ p, w.Scheduled p → (w.sockets p).isSome = true

variable {w w' : World T Q} {p addr : AddrPair} {t : PollAt}

/-- A step that sets one deadline leaves what is scheduled so, unless it takes it out of
`next_poll`. -/
lemma Scheduled.of_send (hp : w.Scheduled p) (hq : w'.queue = w.queue.send addr t)
    (hn : w.nextPoll = some p → w'.nextPoll = some p) : w'.Scheduled p := by
  rcases hp with hp | hp
  · refine Or.inl ?_
    rw [hq]
    exact isSome_send hp
  · exact Or.inr (hn hp)

/-- A step that sets one deadline schedules no other pair. -/
lemma scheduled_of_send (hp : w'.Scheduled p) (hq : w'.queue = w.queue.send addr t)
    (hn : w'.nextPoll = some p → w.nextPoll = some p) :
    w.Scheduled p ∨ (p = addr ∧ t ≠ .ingress) := by
  rcases hp with hp | hp
  · rw [hq] at hp
    rcases of_isSome_send hp with hp | hp
    · exact Or.inl (Or.inl hp)
    · exact Or.inr hp
  · exact Or.inl (Or.inr (hn hp))

/-- When a pair is removed from `next_poll` and from the queue, the others stay scheduled, and only
they. -/
lemma scheduled_removed_iff (hq : w'.queue = w.queue.remove addr)
    (hnext : w.nextPoll = some addr) (hnext' : w'.nextPoll = none) (hp : p ≠ addr) :
    w'.Scheduled p ↔ w.Scheduled p := by
  unfold Scheduled
  rw [hq, deadline_remove, if_neg hp, hnext, hnext']
  simp [Ne.symm hp]

/-- A pair that goes from the queue to `next_poll` stays scheduled, and nothing else changes. -/
lemma scheduled_expired_iff (hq : w.queue.poll w.now = some (addr, w'.queue))
    (hnext : w.nextPoll = none) (hnext' : w'.nextPoll = some addr) :
    w'.Scheduled p ↔ w.Scheduled p := by
  obtain ⟨-, ⟨d, hd, -⟩, hall⟩ := poll_some hq
  unfold Scheduled
  rw [hall, hnext, hnext']
  by_cases hp : p = addr
  · simp [hp, hd]
  · simp [hp, Ne.symm hp]

variable [TcpSocket T] {wire : Wire} {e : Event}

/-! ## What is scheduled is in the pool -/

/-- A step keeps what is scheduled in the pool unless it delivers an update for a pair that is
not there. -/
lemma scheduledPooled_step (ho : w.Owned) (hw : w.ScheduledPooled) (h : Steps wire w e w') :
    w'.ScheduledPooled ↔
      ∀ p t, e = .update p t → t ≠ .ingress → (w.sockets p).isSome = true := by
  constructor
  · rintro hw' p t rfl ht
    cases h with
    | update hpolls => exact hw' p (Or.inl (isSome_send_self ht))
  · intro hup p hp
    cases h with
    | elapse | accept | closeListener | read | write | close | drop | create | handOver | refuse =>
      exact hw p hp
    | process _ _ _ hc _ hd =>
      rcases Connection.process_cases hd with ⟨-, -, rfl⟩ | ⟨-, hproc⟩
      · exact hw p hp
      · have hqueue := hproc.queue
        rw [ho.handle hc] at hqueue
        rcases scheduled_of_send (w := w) hp hqueue id with hp | ⟨rfl, -⟩
        · exact hw p hp
        · exact Option.isSome_iff_exists.mpr ⟨_, hc⟩
    | dispatchKeep hnext hc _ hd =>
      obtain ⟨-, hkept⟩ := Connection.dispatch_kept hd
      have hqueue := hkept.queue
      rw [ho.handle hc] at hqueue
      rcases scheduled_of_send (w := w) hp hqueue nofun with hp | ⟨rfl, -⟩
      · exact hw p hp
      · exact Option.isSome_iff_exists.mpr ⟨_, hc⟩
    | @dispatchDrop addr _ _ _ _ _ hnext hc _ hd =>
      -- the deadline goes with the connection
      obtain ⟨-, rfl⟩ := Connection.dispatch_removed hd
      have hpa : p ≠ addr := by
        rintro rfl
        rcases hp with hp | hp
        · change ((w.queue.remove p).deadline p).isSome = true at hp
          rw [deadline_remove, if_pos rfl] at hp
          cases hp
        · cases hp
      show (Function.update w.sockets addr none p).isSome = true
      rw [Function.update_of_ne hpa]
      exact hw p ((scheduled_removed_iff rfl hnext rfl hpa).mp hp)
    | @dropHalf half _ c c' s s' queue _ hc _ hd =>
      show (Function.update w.sockets half.socket (some c') p).isSome = true
      by_cases hps : p = half.socket
      · rw [hps, Function.update_self]
        rfl
      · rw [Function.update_of_ne hps]
        obtain ⟨-, ⟨-, -, rfl⟩ | ⟨-, -, rfl⟩⟩ := Connection.dropHalf_cases hd
        · exact hw p hp
        · rcases scheduled_of_send (w := w) hp (by rw [ho.handle hc]) id with hp | ⟨he, -⟩
          · exact hw p hp
          · exact absurd he hps
    | update hpolls =>
      -- nothing in the source checks that the pair is still there
      rcases scheduled_of_send (w := w) hp rfl id with hp | ⟨rfl, ht⟩
      · exact hw p hp
      · exact hup _ _ rfl ht
    | expire hnext hq => exact hw p ((scheduled_expired_iff hq hnext rfl).mp hp)
    | @insert pair id _ _ =>
      show (Function.update w.sockets pair _ p).isSome = true
      by_cases hps : p = pair
      · rw [hps, Function.update_self]
        rfl
      · rw [Function.update_of_ne hps]
        exact hw p hp
    | stop => rcases hp with hp | hp <;> cases hp

/-! ## A connection with both halves dropped is scheduled -/

/-- What is scheduled stays so until it is dispatched. -/
lemma Scheduled.step {p : AddrPair} (hp : w.Scheduled p) (hd : e ≠ .dispatch p)
    (hs : e ≠ .stop) (h : Steps wire w e w') : w'.Scheduled p := by
  cases h with
  | elapse | accept | closeListener | read | write | close | drop | create | handOver | refuse
  | insert => exact hp
  | process _ _ _ _ _ hq =>
    rcases Connection.process_cases hq with ⟨-, -, rfl⟩ | ⟨-, hproc⟩
    · exact hp
    · exact hp.of_send hproc.queue id
  | @dispatchKeep addr _ _ _ _ _ hnext _ _ hq =>
    obtain ⟨-, hkept⟩ := Connection.dispatch_kept hq
    refine hp.of_send hkept.queue fun hpn => ?_
    rw [hnext] at hpn
    exact absurd (congrArg Event.dispatch (Option.some.inj hpn)) hd
  | @dispatchDrop addr _ _ _ _ _ hnext _ _ hq =>
    obtain ⟨-, rfl⟩ := Connection.dispatch_removed hq
    have hpa : p ≠ addr := fun he => hd (he ▸ rfl)
    exact (scheduled_removed_iff rfl hnext rfl hpa).mpr hp
  | dropHalf _ _ _ hq =>
    obtain ⟨-, ⟨-, -, rfl⟩ | ⟨-, -, rfl⟩⟩ := Connection.dropHalf_cases hq
    · exact hp
    · exact hp.of_send rfl id
  | update => exact hp.of_send rfl id
  | expire hnext hq => exact (scheduled_expired_iff hq hnext rfl).mpr hp
  | stop => exact absurd rfl hs

/-- Both halves of the connection are dropped, and it has a dispatch to come. -/
def DroppedScheduled (w : World T Q) : Prop :=
  ∀ ⦃p c⦄, w.sockets p = some c → c.inner.bothDropped = true → w.Scheduled p

lemma droppedScheduled_step (ho : w.Owned) (hw : w.DroppedScheduled) (h : Steps wire w e w') :
    w'.DroppedScheduled := by
  intro p c' hc' hboth
  rcases h.sockets_cases hc' with hc | ⟨half, c, rfl, rfl, hc, rfl⟩ | ⟨id, -, rfl⟩
  · -- it was in the pool with both flags set, and so scheduled
    by_cases hd : e = .dispatch p
    · subst hd
      cases h with
      | @dispatchKeep _ c₀ _ _ _ _ hnext hc₀ _ hd =>
        obtain rfl : c' = c₀ := Option.some.inj (hc.symm.trans hc₀)
        have hdisp := (Connection.dispatch_cases hd).1
        obtain ⟨hfin, hkept⟩ := Connection.dispatch_kept hd
        refine Or.inl ?_
        show (DispatchQueue.deadline _ p).isSome = true
        rw [hkept.queue, ho.handle hc₀]
        refine isSome_send_self fun hi => hfin ⟨hboth, Or.inr (Or.inr ?_)⟩
        rw [← hdisp.tcp_eq]
        exact hi
      | dispatchDrop =>
        change Function.update w.sockets p none p = some c' at hc'
        rw [Function.update_self] at hc'
        cases hc'
    · refine (hw hc hboth).step hd ?_ h
      rintro rfl
      cases h
      cases hc'
  · cases h with
    | @dropHalf _ _ c₀ _ _ s' _ _ hc₀ _ hd =>
      obtain rfl := Option.some.inj (hc.symm.trans hc₀)
      obtain ⟨-, ⟨hf, -, -⟩ | ⟨-, -, rfl⟩⟩ := Connection.dropHalf_cases hd
      · rw [RwStatus.bothDropped, hf] at hboth
        cases hboth
      · refine Or.inl ?_
        show ((w.queue.send c.handle _).deadline half.socket).isSome = true
        rw [ho.handle hc]
        refine isSome_send_self ?_
        by_cases hi : TcpSocket.pollAt s'.tcp = .ingress
        · simp [hi, hboth]
        · simp [hi]
  · cases hboth

/-! ## A connection with something to send is scheduled -/

/-- While the writer need not notify the queue, the connection is scheduled. -/
def ActiveScheduled (w : World T Q) : Prop :=
  ∀ ⦃p id s⦄, w.connOf p = some id → w.shared id = some s → s.pollingActive = true →
    w.Scheduled p

/-- Only `dispatch` changes `polling_active`. -/
lemma SharedStep.active {id : ConnId} {s s' : Shared T} (h : SharedStep wire w id e s s')
    (hd : ∀ addr c, e = .dispatch addr → w.sockets addr = some c → c.socket ≠ id) :
    s'.pollingActive = s.pollingActive := by
  cases h with
  | read _ _ _ _ _ _ hr =>
    rcases ReadHalf.pollReadInner_cases hr with ⟨-, -, rfl⟩ | ⟨-, -, _, _, _, -, -, rfl⟩ |
      ⟨-, -, _, -, -, rfl⟩ | ⟨-, -, _, -, hb⟩ | ⟨-, -, hb⟩
    · rfl
    · rfl
    · rfl
    · exact hb.active
    · exact hb.active
  | write _ _ _ _ _ _ hw =>
    rcases WriteHalf.pollWriteInner_update hw with ⟨rfl, -⟩ | ⟨-, ha, -⟩
    · rfl
    · exact ha
  | close _ _ _ _ hw =>
    rcases WriteHalf.pollCloseInner_cases hw with ⟨-, -, rfl, -⟩ | ⟨-, -, rfl, -⟩ <;> rfl
  | process _ _ _ _ _ hp =>
    rcases Connection.process_cases hp with ⟨-, rfl, -⟩ | ⟨-, hproc⟩
    · rfl
    · exact hproc.active
  | dispatch hc hid _ => exact absurd hid (hd _ _ rfl hc)
  | dropHalf _ _ _ hd =>
    obtain ⟨-, ⟨-, rfl, -⟩ | ⟨-, rfl, -⟩⟩ := Connection.dropHalf_cases hd <;> rfl

/-- A dispatched connection that stays is scheduled if it is marked as active. -/
lemma scheduled_of_dispatch {p : AddrPair} {id : ConnId} {s' : Shared T} (ho : w.Owned)
    (h : Steps wire w (.dispatch p) w') (hid : w'.connOf p = some id)
    (hs' : w'.shared id = some s') (hact : s'.pollingActive = true) : w'.Scheduled p := by
  cases h with
  | dispatchKeep hnext hc hs hd =>
    obtain ⟨-, hkept⟩ := Connection.dispatch_kept hd
    obtain rfl := Option.some.inj (hid.symm.trans (connOf_of_sockets hc))
    change (w.setShared _ _).shared _ = some s' at hs'
    rw [shared_setShared, if_pos rfl] at hs'
    obtain rfl := Option.some.inj hs'
    rw [hkept.active, beq_iff_eq] at hact
    refine Or.inl ?_
    show (DispatchQueue.deadline _ p).isSome = true
    rw [hkept.queue, ho.handle hc, hact]
    exact isSome_send_self (by simp)
  | dispatchDrop hnext hc hs hd => exact nomatch hid.symm.trans (ho.connOf_removed hc rfl rfl)

omit [TcpSocket T] in
/-- A pair that has no connection yet is not the pair of an older one. -/
lemma Owned.ne_nextConn (ho : w.Owned) {p : AddrPair} {id : ConnId} (h : w.connOf p = some id) :
    id ≠ w.nextConn := Nat.ne_of_lt (ho.fresh h)

lemma ne_stop {p : AddrPair} {id : ConnId} (h : Steps wire w e w')
    (hid : w'.connOf p = some id) : e ≠ .stop := by
  rintro rfl
  cases h with
  | stop hcr => simp [connOf, hcr] at hid

lemma activeScheduled_step (ho : w.Owned) (hw : w.ActiveScheduled) (h : Steps wire w e w') :
    w'.ActiveScheduled := by
  intro p id s' hid hs' hact
  by_cases he : e = .dispatch p
  · subst he
    exact scheduled_of_dispatch ho h hid hs' hact
  · have hstop := ne_stop h hid
    rcases connOf_step ho h hid with hid₀ | ⟨rfl, rfl⟩
    · rcases h.shared_cases hs' with hs | ⟨s, hs, hstep⟩ | ⟨hn, -⟩
      · exact (hw hid₀ hs hact).step he hstop h
      · -- the dispatch of another pair is not on this connection
        have hkeep := hstep.active (by
          rintro addr c rfl hc hcid
          have := ho.inj (connOf_of_sockets hc) (hcid ▸ hid₀)
          exact he (by rw [this]))
        exact (hw hid₀ hs (hkeep ▸ hact)).step he hstop h
      · exact absurd hn (ho.ne_nextConn hid₀)
    · -- a new connection is not active
      cases h with
      | create =>
        change (w.setShared _ _).shared _ = some s' at hs'
        rw [shared_setShared, if_pos rfl] at hs'
        obtain rfl := Option.some.inj hs'
        cases hact

/-- A step leaves the queue, or is one operation on it. -/
lemma Steps.queue_cases (h : Steps wire w e w') :
    w'.queue = w.queue ∨ (∃ p t, w'.queue = w.queue.send p t) ∨
      (∃ p, w'.queue = w.queue.remove p) ∨ (∃ p, w.queue.poll w.now = some (p, w'.queue)) ∨
      (e = .stop ∧ w'.queue = .new w.clock) := by
  cases h with
  | elapse | accept | closeListener | read | write | close | drop | create | handOver | refuse
  | insert => exact Or.inl rfl
  | process _ _ _ _ _ hp =>
    rcases Connection.process_cases hp with ⟨-, -, rfl⟩ | ⟨-, hproc⟩
    · exact Or.inl rfl
    · exact Or.inr (Or.inl ⟨_, _, hproc.queue⟩)
  | dispatchKeep _ _ _ hd =>
    obtain ⟨-, hkept⟩ := Connection.dispatch_kept hd
    exact Or.inr (Or.inl ⟨_, _, hkept.queue⟩)
  | dispatchDrop _ _ _ hd =>
    obtain ⟨-, rfl⟩ := Connection.dispatch_removed hd
    exact Or.inr (Or.inr (Or.inl ⟨_, rfl⟩))
  | dropHalf _ _ _ hd =>
    obtain ⟨-, ⟨-, -, rfl⟩ | ⟨-, -, rfl⟩⟩ := Connection.dropHalf_cases hd
    · exact Or.inl rfl
    · exact Or.inr (Or.inl ⟨_, _, rfl⟩)
  | update => exact Or.inr (Or.inl ⟨_, _, rfl⟩)
  | expire _ hq => exact Or.inr (Or.inr (Or.inr (Or.inl ⟨_, hq⟩)))
  | stop => exact Or.inr (Or.inr (Or.inr (Or.inr ⟨rfl, rfl⟩)))

/-- Every step keeps the entry of a pair, sets it, or removes it. -/
lemma Steps.entry_cases (h : Steps wire w e w') (addr : AddrPair) :
    w'.queue.deadline addr = w.queue.deadline addr ∨ w'.queue.deadline addr = none ∨
      ∃ p, p ≠ .ingress ∧ w'.queue = w.queue.send addr p := by
  rcases h.queue_cases with hq | ⟨a, p, hq⟩ | ⟨a, hq⟩ | ⟨a, hq⟩ | ⟨-, hq⟩
  · exact Or.inl (by rw [hq])
  · by_cases ha : addr = a
    · subst ha
      by_cases hp : p = .ingress
      · -- `Ingress` sets nothing
        refine Or.inl ?_
        rw [hq, deadline_send, if_pos rfl, hp]
        rfl
      · exact Or.inr (Or.inr ⟨p, hp, hq⟩)
    · refine Or.inl ?_
      rw [hq, deadline_send, if_neg ha]
  · rw [hq, deadline_remove]
    split
    · exact Or.inr (Or.inl rfl)
    · exact Or.inl rfl
  · rw [(poll_some hq).2.2 addr]
    split
    · exact Or.inr (Or.inl rfl)
    · exact Or.inl rfl
  · rw [hq]
    exact Or.inr (Or.inl rfl)

/-- The queue keeps its clock while the loop runs. -/
lemma Steps.queue_clock (h : Steps wire w e w') (hstop : e ≠ .stop) :
    w'.queue.clock = w.queue.clock := by
  rcases h.queue_cases with hq | ⟨p, t, hq⟩ | ⟨p, hq⟩ | ⟨p, hq⟩ | ⟨he, -⟩
  · rw [hq]
  · rw [hq, clock_send]
  · rw [hq, clock_remove]
  · exact (poll_some hq).1
  · exact absurd he hstop

section Served

-- `R d i`: the deadline `d` serves the time `i` of a `poll_at`
variable {R : Option Instant → Option Instant → Prop}

/-- The connection is next, has a deadline that serves `poll_at`, or an update is under way. -/
def Serves (R : Option Instant → Option Instant → Prop) (w : World T Q) (p : AddrPair)
    (tcp : T) : Prop :=
  w.nextPoll = some p ∨
    R (w.queue.deadline p) (instant w.queue.clock (TcpSocket.pollAt tcp)) ∨ w.Notified p

def Served (R : Option Instant → Option Instant → Prop) (w : World T Q) : Prop :=
  ∀ ⦃p id s⦄, w.connOf p = some id → w.shared id = some s → w.Serves R p s.tcp

/-- The reader's `recv_slice` is not reached. -/
def ReadsNothing (w : World T Q) (e : Event) : Prop :=
  match e with
  | .app (.read half lock _ _) =>
    ∀ s, w.shared half.conn = some s → ¬ (lock = true ∧ TcpSocket.canRecv s.tcp = true)
  | _ => True

def isRead (e : Event) : Bool :=
  match e with
  | .app (.read _ _ _ _) => true
  | _ => false

lemma readsNothing_of_isRead (h : isRead e = false) : w.ReadsNothing e := by
  unfold ReadsNothing
  split
  · cases h
  · trivial

/-- The update that is delivered last for a pair serves the `poll_at` of its connection, unless
the pair is dispatched next. -/
def UpdateServes (R : Option Instant → Option Instant → Prop) (w : World T Q) (e : Event) :
    Prop :=
  match e with
  | .update p t =>
    t ≠ .ingress → w.nextPoll ≠ some p → (∀ t', t' ≠ .ingress → (p, t') ∉ w.polls.tail) →
      ∀ id s, w.connOf p = some id → w.shared id = some s →
        R (instant w.queue.clock t) (instant w.queue.clock (TcpSocket.pollAt s.tcp))
  | _ => True

/-- A step that keeps the schedule of a pair keeps it served. -/
lemma Serves.keep {p : AddrPair} {tcp : T} (h : w.Serves R p tcp) (hkeep : KeepsSchedule w w' p)
    (hclock : w'.queue.clock = w.queue.clock) : w'.Serves R p tcp := by
  unfold Serves
  rw [hclock, hkeep.deadline, hkeep.next]
  exact h.imp_right fun h => h.imp_right fun ⟨t, ht, hmem⟩ => ⟨t, ht, hkeep.polls t hmem⟩

/-- A pair whose deadline the loop has just set is served. -/
lemma Sent.serves (hnone : ∀ d, R d none) (hself : ∀ i, R (some i) (some i)) {p : AddrPair}
    {tcp : T} (h : Sent w w' p tcp) : w'.Serves R p tcp := by
  obtain ⟨t, hq, ht⟩ := h.queue
  refine Or.inr (Or.inl ?_)
  rw [hq, clock_send, deadline_send, if_pos rfl]
  rcases ht with hi | rfl
  · rw [hi]
    exact hnone _
  · cases hi : instant w.queue.clock (TcpSocket.pollAt tcp) with
    | none => exact hnone _
    | some i =>
      rw [Option.some_or]
      exact hself i

/-- The update that a writer sends, or a call without one that keeps the deadline in order. -/
lemma serves_call {half : Half} {s s' : Shared T} {update : Option PollUpdate}
    (hnone : ∀ d, R d none) (hserves : w.Serves R half.socket s.tcp)
    (hcall : Call half e s s' update)
    (hskip : s.pollingActive = true → w.nextPoll ≠ some half.socket →
      R (w.queue.deadline half.socket) (instant w.queue.clock (TcpSocket.pollAt s.tcp)) →
      R (w.queue.deadline half.socket) (instant w.queue.clock (TcpSocket.pollAt s'.tcp)))
    (hq : w'.queue = w.queue) (hnext : w'.nextPoll = w.nextPoll)
    (hpolls : w'.polls = w.polls ++ update.toList) :
    w'.Serves R half.socket s'.tcp := by
  have keep : w.Notified half.socket → w'.Notified half.socket := by
    rintro ⟨t, ht, hmem⟩
    exact ⟨t, ht, by rw [hpolls]; exact List.mem_append_left _ hmem⟩
  unfold Serves
  rw [hq, hnext]
  rcases hcall.update_cases with ⟨rfl, -⟩ | ⟨-, rfl⟩
  · exact hserves.imp_right fun h => h.imp_right keep
  · unfold WriteHalf.updateFor at hpolls
    by_cases hact : s.pollingActive = true
    · -- no update is sent: the loop has it in `next_poll`, or the deadline has to do
      by_cases hn : w.nextPoll = some half.socket
      · exact Or.inl hn
      · rcases hserves with h | h | h
        · exact absurd h hn
        · exact Or.inr (Or.inl (hskip hact hn h))
        · exact Or.inr (Or.inr (keep h))
    · -- the update just sent is under way, unless there is nothing to send
      rw [if_neg hact] at hpolls
      by_cases hi : TcpSocket.pollAt s'.tcp = .ingress
      · refine Or.inr (Or.inl ?_)
        rw [hi]
        exact hnone _
      · exact Or.inr (Or.inr ⟨_, hi, by rw [hpolls]; simp⟩)

/-- An update that is delivered: it says nothing, or is followed by another, or serves. -/
lemma serves_update {p : AddrPair} {id : ConnId} {s : Shared T} {t : PollAt}
    (hid : w.connOf p = some id) (hs : w.shared id = some s) (hserves : w.Serves R p s.tcp)
    (hup : w.UpdateServes R (.update p t)) (hpolls : w.polls = (p, t) :: w'.polls)
    (hq : w'.queue = w.queue.send p t) (hnext : w'.nextPoll = w.nextPoll) :
    w'.Serves R p s.tcp := by
  by_cases hn : w.nextPoll = some p
  · exact Or.inl (hnext.trans hn)
  by_cases hlater : w'.Notified p
  · exact Or.inr (Or.inr hlater)
  refine Or.inr (Or.inl ?_)
  by_cases ht : t = .ingress
  · -- the queue is as it was, and no update was under way
    subst ht
    have hsame : w.queue.send p .ingress = w.queue := rfl
    rw [hq, hsame]
    rcases hserves with h | h | ⟨t', ht', hmem⟩
    · exact absurd h hn
    · exact h
    · rw [hpolls, List.mem_cons] at hmem
      rcases hmem with he | hmem
      · cases he
        exact absurd rfl ht'
      · exact absurd ⟨t', ht', hmem⟩ hlater
  · -- it is the last one under way, so it becomes the deadline that counts
    have hlast : ∀ t', t' ≠ .ingress → (p, t') ∉ w.polls.tail := by
      intro t' ht' hmem
      rw [hpolls] at hmem
      exact hlater ⟨t', ht', hmem⟩
    have hR := hup ht hn hlast id s hid hs
    obtain ⟨i, hi⟩ := Option.isSome_iff_exists.mp ((isSome_instant w.queue.clock t).mpr ht)
    rw [hi] at hR
    rw [hq, clock_send, deadline_send, if_pos rfl, hi]
    exact hR

/-- The steps keep every connection served, if the updates that are delivered and the calls
that send none do. -/
theorem served_step (hnone : ∀ d, R d none) (hself : ∀ i, R (some i) (some i))
    (hfresh : FreshQuiet T) (ho : w.Owned) (hst : w.Stopped) (hw : w.Served R)
    (hread : w.ReadsNothing e) (hup : w.UpdateServes R e)
    (hskip : ∀ {half : Half} {s s' : Shared T} {update : Option PollUpdate},
      Call half e s s' update →
      w.connOf half.socket = some half.conn → w.shared half.conn = some s →
      s.pollingActive = true → w.nextPoll ≠ some half.socket →
      R (w.queue.deadline half.socket) (instant w.queue.clock (TcpSocket.pollAt s.tcp)) →
      R (w.queue.deadline half.socket) (instant w.queue.clock (TcpSocket.pollAt s'.tcp)))
    (h : Steps wire w e w') : w'.Served R := by
  intro p id s' hid hs'
  have hclock := h.queue_clock (ne_stop h hid)
  rcases h.pair_cases ho hst hid hs' with ⟨hid₀, s, hs, hstep⟩ | ⟨tcp, -, hopen, rfl⟩
  · have hserves := hw hid₀ hs
    cases hstep with
    | other hkeep => exact hserves.keep hkeep hclock
    | read lock waker len _ hconn hr hkeep =>
      -- the reader never notifies the queue, so it must not change the socket
      rw [ReadHalf.pollReadInner_tcp hr (hread s (hconn ▸ hs))]
      exact hserves.keep hkeep hclock
    | call hcall _ hp hconn hq hnext hpolls =>
      subst hp hconn
      exact serves_call hnone hserves hcall (hskip hcall hid₀ hs) hq hnext hpolls
    | process _ _ _ _ _ _ _ hsend _ => exact hsend.serves hnone hself
    | dispatch _ _ hsend _ => exact hsend.serves hnone hself
    | dropHalf _ _ _ hsend _ => exact hsend.serves hnone hself
    | update hpolls hq hnext => exact serves_update hid₀ hs hserves hup hpolls hq hnext
    | expire _ _ _ hnext => exact Or.inl hnext
  · -- a new socket has nobody to talk to
    refine Or.inr (Or.inl ?_)
    rw [show TcpSocket.pollAt (Shared.new tcp).tcp = .ingress from hfresh _ _ hopen]
    exact hnone _

/-- A deadline is there where one is needed. -/
def Due (d i : Option Instant) : Prop := i.isSome = true → d.isSome = true

/-- A step in which nothing is read keeps a deadline wherever one is needed: whatever an update
says puts its pair in the queue, and a writer that sends none has its pair there. -/
lemma served_due_step (hfresh : FreshQuiet T) (ho : w.Owned) (hst : w.Stopped)
    (ha : w.ActiveScheduled) (hw : w.Served Due) (hread : w.ReadsNothing e)
    (h : Steps wire w e w') : w'.Served Due := by
  refine served_step (fun _ h => nomatch h) (fun _ _ => rfl) hfresh ho hst hw hread ?_ ?_ h
  · unfold UpdateServes
    split
    · intro ht _ _ _ _ _ _ _
      exact (isSome_instant _ _).mpr ht
    · trivial
  · intro half s s' _ _ hid hs hact hn _ _
    exact (ha hid hs hact).resolve_right hn

/-- A connection is served in this way if, whenever it has something to send, it is scheduled or an
update that schedules it is under way. -/
lemma serves_due_iff {p : AddrPair} {tcp : T} :
    w.Serves Due p tcp ↔
      (TcpSocket.pollAt tcp ≠ .ingress → w.Scheduled p ∨ w.Notified p) := by
  unfold Serves Due Scheduled
  rw [isSome_instant]
  tauto

end Served

/-! ## Deadlines -/

lemma Steps.now_eq (h : Steps wire w e w') (hne : ¬ ∃ nanos, e = .elapse nanos) :
    w'.now = w.now := by
  cases h with
  | elapse nanos => exact absurd ⟨nanos, rfl⟩ hne
  | _ => rfl

lemma Steps.clock_eq (h : Steps wire w e w') : w'.clock = w.clock := by
  cases h <;> rfl

omit [TcpSocket T] in
lemma origin_le_instant {clock : Clock} {t : PollAt} {i : Instant}
    (h : instant clock t = some i) : clock.origin ≤ i := by
  cases t with
  | now => exact le_of_eq (Option.some.inj h)
  | time t => exact Option.some.inj h ▸ clock.origin_le_resolve t
  | ingress => cases h

/-- The queue resolves times as the loop does, and no deadline is before the origin. -/
def Clocked (clock : Clock) (w : World T Q) : Prop :=
  w.clock = clock ∧ w.queue.clock = clock ∧
    ∀ p d, w.queue.deadline p = some d → clock.origin ≤ d

omit [TcpSocket T] in
lemma clocked_init (clock : Clock) : Clocked clock (init clock : World T Q) :=
  ⟨rfl, rfl, fun _ _ h => nomatch h⟩

lemma clocked_step {clock : Clock} (hw : Clocked clock w) (h : Steps wire w e w') :
    Clocked clock w' := by
  obtain ⟨hclock, hqclock, hd⟩ := hw
  refine ⟨h.clock_eq.trans hclock, ?_, fun p d hd' => ?_⟩
  · by_cases hstop : e = .stop
    · subst hstop
      cases h
      exact hclock
    · exact (h.queue_clock hstop).trans hqclock
  · rcases h.entry_cases p with hq | hq | ⟨t, -, hq⟩
    · rw [hq] at hd'
      exact hd p d hd'
    · rw [hq] at hd'
      cases hd'
    · rw [hq, deadline_send, if_pos rfl, hqclock] at hd'
      rcases Option.or_eq_some_iff.mp hd' with hi | ⟨-, hi⟩
      · exact origin_le_instant hi
      · exact hd p d hi

/-- A deadline that is not later than the given time. -/
def Covers (d i : Option Instant) : Prop := ∀ j, i = some j → ∃ k, d = some k ∧ k ≤ j

lemma Covers.refl (i : Option Instant) : Covers i i := fun j hj => ⟨j, hj, le_rfl⟩

lemma Covers.trans {a b c : Option Instant} (hab : Covers a b) (hbc : Covers b c) :
    Covers a c := by
  intro j hj
  obtain ⟨k, hk, hle⟩ := hbc j hj
  obtain ⟨l, hl, hle'⟩ := hab k hk
  exact ⟨l, hl, hle'.trans hle⟩

/-- A call that finds `polling_active` set, and sends no update, does not bring `poll_at`
forward, unless the pair is dispatched next. -/
def KeepsPollAt (w : World T Q) (half : Half) (s : Shared T) (tcp : T) : Prop :=
  s.pollingActive = true → w.nextPoll ≠ some half.socket →
    Covers (instant w.queue.clock (TcpSocket.pollAt s.tcp))
      (instant w.queue.clock (TcpSocket.pollAt tcp))

/-- `KeepsPollAt` for what the calls of a writer do with the socket. -/
def SkipsInTime (w : World T Q) (e : Event) : Prop :=
  match e with
  | .app (.write half lock _ buf) => ∀ s n tcp, w.shared half.conn = some s → lock = true →
    TcpSocket.canSend s.tcp = true → TcpSocket.sendSlice s.tcp buf = .ok (n, tcp) →
      w.KeepsPollAt half s tcp
  | .app (.close half lock) => ∀ s, w.shared half.conn = some s → lock = true →
    w.KeepsPollAt half s (TcpSocket.close s.tcp)
  | _ => True

lemma SkipsInTime.call (h : w.SkipsInTime e) {half : Half} {s s' : Shared T}
    {update : Option PollUpdate} (hcall : Call half e s s' update)
    (hs : w.shared half.conn = some s) :
    w.KeepsPollAt half s s'.tcp := by
  cases hcall with
  | write lock waker buf hw =>
    rcases WriteHalf.pollWriteInner_cases hw with ⟨-, -, rfl, -⟩ | ⟨-, -, _, -, -, rfl, -⟩ |
      ⟨hl, hcan, n, hsend, -⟩ | ⟨-, -, htcp, -⟩
    · exact fun _ _ => Covers.refl _
    · exact fun _ _ => Covers.refl _
    · exact h s n s'.tcp hs hl hcan hsend
    · rw [htcp]
      exact fun _ _ => Covers.refl _
  | close lock hw =>
    rcases WriteHalf.pollCloseInner_cases hw with ⟨-, -, rfl, -⟩ | ⟨hl, -, rfl, -⟩
    · exact fun _ _ => Covers.refl _
    · exact h s hs hl

/-- Whether an update is for a pair in the pool. -/
def updatesPooled (w : World T Q) (e : Event) : Bool :=
  match e with
  | .update p _ => (w.sockets p).isSome
  | _ => true

/-- Whether an update says to send now. -/
def updatesNow (e : Event) : Bool :=
  match e with
  | .update _ t => t = .now
  | _ => true

/-- An update that says so is never too late. -/
lemma updateServes_of_updatesNow (h : updatesNow e = true) : w.UpdateServes Covers e := by
  unfold UpdateServes
  split
  · next p t =>
    obtain rfl := of_decide_eq_true h
    intro _ _ _ _ _ _ _ j hj
    exact ⟨_, rfl, origin_le_instant hj⟩
  · trivial

/-- Whether the calls of a writer find `polling_active` unset, and send an update. -/
def notifies (w : World T Q) (e : Event) : Bool :=
  match e with
  | .app (.write half _ _ _) | .app (.close half _) =>
    (w.shared half.conn).all fun s => !s.pollingActive
  | _ => true

lemma skipsInTime_of_notifies (h : w.notifies e = true) : w.SkipsInTime e := by
  unfold SkipsInTime
  split
  · intro s _ _ hs _ _ _ hact
    simp [notifies, hs, hact] at h
  · intro s hs _ hact
    simp [notifies, hs, hact] at h
  · trivial

end World

/-! ## Runs of the loop -/

namespace State

open World Transition DispatchQueue

variable {T Q : Type} [TcpSocket T] [DelayQueue AddrPair Q] {wire : Wire} {clock : Clock}
  {hist : List (State T Q × Label)} {s : State T Q}

/-- No update with a time is delivered for a pair that is not in the pool. -/
def UpdatesPooled (wire : Wire) (hist : List (State T Q × Label)) : Prop :=
  ∀ (w : World T Q) (p : AddrPair) (t : PollAt), (w, .update p t) ∈ events wire hist →
    t ≠ .ingress → (w.sockets p).isSome = true

/-- **What is scheduled is in the pool**, in all states of a run, exactly when no update with a
time is delivered for a pair that has left the pool; and then the loop never dispatches a
connection that is gone. -/
theorem scheduled_pooled_iff (r : LoopRun wire clock hist s) :
    ((∀ x ∈ visited hist s, ∀ p : AddrPair,
        (x.world.queue.deadline p).isSome = true ∨ x.world.nextPoll = some p →
        (x.world.sockets p).isSome = true) ↔ UpdatesPooled wire hist) ∧
      (UpdatesPooled wire hist → ∀ x ∈ visited hist s, ∀ l : Label,
        x.step wire l ≠ .error (.panic .dispatchAfterDropping)) := by
  have hiff : (∀ x ∈ visited hist s, x.world.ScheduledPooled) ↔ UpdatesPooled wire hist := by
    rw [LoopRun.forall_visited_iff (P := ScheduledPooled)
      (G := fun w e => ∀ p t, e = .update p t → t ≠ .ingress → (w.sockets p).isSome = true)
      (H := fun _ _ => True) ?_ (fun ho _ hw _ h => scheduledPooled_step ho hw h) r
      fun _ _ => trivial]
    · constructor
      · intro h w p t hmem
        exact h _ hmem p t rfl
      · rintro h ⟨w, e⟩ hmem p t rfl
        exact h w p t hmem
    · rintro p (hp | hp) <;> cases hp
  refine ⟨hiff, fun hup x hx l hl => ?_⟩
  have hpooled := hiff.mpr hup x hx
  obtain ⟨e, -, hstep⟩ := panic_event rfl hl
  cases panics_of_step hstep with
  | @dispatch addr hnext haddr =>
    have := hpooled addr (Or.inr hnext)
    rw [haddr] at this
    cases this

/-- A run that delivers an update while its connection is in the pool: what is scheduled stays
pooled. -/
theorem scheduled_pooled_iff_write :
    ∃ (hist : List (Reference.Loop × Label)) (s : Reference.Loop),
      LoopRun Reference.wire Reference.clock hist s ∧
      (s.world.queue.deadline Reference.pair).isSome = true ∧
      ∀ x ∈ visited hist s, ∀ p : AddrPair,
        (x.world.queue.deadline p).isSome = true ∨ x.world.nextPoll = some p →
        (x.world.sockets p).isSome = true := by
  obtain ⟨hist, s, r, hs⟩ := Reference.run_of_check
    (Reference.handshake ++
      [.turn, .app (.write Reference.writer true 0 [0]), Reference.idle])
    (fun hist s => (s.world.queue.deadline Reference.pair).isSome &&
      (events Reference.wire hist).all fun x => x.1.updatesPooled x.2) (by decide +kernel)
  rw [Bool.and_eq_true, List.all_eq_true] at hs
  exact ⟨hist, s, r, hs.1,
    (scheduled_pooled_iff r).1.mpr fun w p t hmem _ => hs.2 (w, .update p t) hmem⟩

/-- The update of a write is delivered after a reset, the drop of both halves and the removal of
the connection: a pair that is not in the pool is in the queue, and its dispatch panics. -/
theorem stale_update_panics :
    (∃ s : Reference.Loop, LoopReachable Reference.wire Reference.clock s ∧
      (s.world.queue.deadline Reference.pair).isSome = true ∧
      s.world.sockets Reference.pair = none) ∧
    ∃ s : Reference.Loop, LoopReachable Reference.wire Reference.clock s ∧
      s.step Reference.wire .turn = .error (.panic .dispatchAfterDropping) := by
  constructor
  · obtain ⟨hist, s, r, hs⟩ := Reference.run_of_check Reference.staleUpdate
      (fun _ s => (s.world.queue.deadline Reference.pair).isSome &&
        (s.world.sockets Reference.pair).isNone) (by decide +kernel)
    rw [Bool.and_eq_true, Option.isNone_iff_eq_none] at hs
    exact ⟨s, r.reachable, hs⟩
  · obtain ⟨hist, s, r, hs⟩ := Reference.run_of_check
      (Reference.staleUpdate ++ [.turn, Reference.idle])
      (fun _ s => Reference.panics s .turn .dispatchAfterDropping) (by decide +kernel)
    exact ⟨s, r.reachable, Reference.step_of_panics hs⟩

/-- **A connection with both halves dropped is scheduled**: it is dispatched, and removed, at
some time. -/
theorem dropped_scheduled (h : LoopReachable wire clock s) {p : AddrPair} {c : Connection}
    (hc : s.world.sockets p = some c) (hr : c.inner.readerDropped = true)
    (hw : c.inner.writerDropped = true) :
    (s.world.queue.deadline p).isSome = true ∨ s.world.nextPoll = some p := by
  have hinv : s.world.DroppedScheduled :=
    LoopReachable.invariant (fun _ _ h => nomatch h)
      (fun ho _ hw h => droppedScheduled_step ho hw h) h
  exact hinv hc (by rw [RwStatus.bothDropped, hr, hw]; rfl)

/-- A run in which both halves are dropped right after the handshake. -/
theorem dropped_scheduled_handshake :
    ∃ (s : Reference.Loop) (c : Connection), LoopReachable Reference.wire Reference.clock s ∧
      s.world.sockets Reference.pair = some c ∧ c.inner.readerDropped = true ∧
      c.inner.writerDropped = true ∧
      ((s.world.queue.deadline Reference.pair).isSome = true ∨
        s.world.nextPoll = some Reference.pair) := by
  obtain ⟨hist, s, r, hs⟩ := Reference.run_of_check
    (Reference.handshake ++
      [.app (.drop Reference.reader), .app (.drop Reference.writer), .turn, Reference.idle,
        .turn, Reference.idle])
    (fun _ s => (s.world.sockets Reference.pair).any fun c =>
      c.inner.readerDropped && c.inner.writerDropped) (by decide +kernel)
  simp only [Option.any_eq_true, Bool.and_eq_true] at hs
  obtain ⟨c, hc, hread, hwrite⟩ := hs
  exact ⟨s, c, r.reachable, hc, hread, hwrite, dropped_scheduled r.reachable hc hread hwrite⟩

/-- **No egress work is lost**: in the runs in which the reader takes nothing, a pooled
connection whose socket has something to send, now or later, is scheduled, or an update that
schedules it is under way; and while the writer sends no updates, it is scheduled. -/
theorem egress_scheduled (hfresh : FreshQuiet T) (r : LoopRun wire clock hist s)
    (hread : ∀ x ∈ events wire hist, x.1.ReadsNothing x.2) {p : AddrPair} {c : Connection}
    {sh : Shared T} (hc : s.world.sockets p = some c)
    (hsh : s.world.shared c.socket = some sh) :
    (TcpSocket.pollAt sh.tcp ≠ .ingress →
      (s.world.queue.deadline p).isSome = true ∨ s.world.nextPoll = some p ∨
        ∃ t : PollAt, t ≠ .ingress ∧ (p, t) ∈ s.world.polls) ∧
      (sh.pollingActive = true →
        (s.world.queue.deadline p).isSome = true ∨ s.world.nextPoll = some p) := by
  have hinv : s.world.ActiveScheduled ∧ s.world.Served Due := by
    refine LoopRun.invariant (G := ReadsNothing)
      (I := fun w => w.ActiveScheduled ∧ w.Served Due)
      ⟨fun _ _ _ h => (nomatch h), fun _ _ _ h => (nomatch h)⟩ ?_ r hread
    rintro w e w' ho hst ⟨ha, hs⟩ hg h
    exact ⟨activeScheduled_step ho ha h, served_due_step hfresh ho hst ha hs hg h⟩
  have hid := connOf_of_sockets hc
  refine ⟨fun hp => ?_, hinv.1 hid hsh⟩
  rcases serves_due_iff.mp (hinv.2 hid hsh) hp with (hd | hn) | hn
  · exact Or.inl hd
  · exact Or.inr (Or.inl hn)
  · exact Or.inr (Or.inr hn)

/-- A write after the handshake: its update is under way and the socket wants to send. -/
theorem egress_scheduled_write :
    ∃ (s : Reference.Loop) (c : Connection) (sh : Shared Reference.Socket),
      LoopReachable Reference.wire Reference.clock s ∧
      s.world.sockets Reference.pair = some c ∧ s.world.shared c.socket = some sh ∧
      TcpSocket.pollAt sh.tcp = .now ∧
      ((s.world.queue.deadline Reference.pair).isSome = true ∨
        s.world.nextPoll = some Reference.pair ∨
        ∃ t : PollAt, t ≠ .ingress ∧ (Reference.pair, t) ∈ s.world.polls) := by
  obtain ⟨hist, s, r, hs⟩ := Reference.run_of_check
    (Reference.handshake ++ [.turn, .app (.write Reference.writer true 0 [0])])
    (fun hist s => ((events Reference.wire hist).all fun x => !isRead x.2) &&
      (s.world.sockets Reference.pair).any fun c => (s.world.shared c.socket).any fun sh =>
        TcpSocket.pollAt sh.tcp = .now) (by decide +kernel)
  simp only [Bool.and_eq_true, List.all_eq_true, Bool.not_eq_true', Option.any_eq_true,
    decide_eq_true_eq] at hs
  obtain ⟨hread, c, hc, sh, hsh, hnow⟩ := hs
  refine ⟨s, c, sh, r.reachable, hc, hsh, hnow, ?_⟩
  exact (egress_scheduled Reference.Socket.freshQuiet r
    (fun x hx => readsNothing_of_isRead (hread x hx)) hc hsh).1 (by simp [hnow])

/-- **No egress work is postponed**, in the runs in which no update overtaken by a later
`poll_at` is the last to be delivered, and no call that skips its update brings `poll_at`
forward: a pooled connection that is not dispatched next and has no update under way has a
deadline in time. -/
theorem egress_on_time (hfresh : FreshQuiet T) (r : LoopRun wire clock hist s)
    (hread : ∀ x ∈ events wire hist, x.1.ReadsNothing x.2)
    (hup : ∀ x ∈ events wire hist, x.1.UpdateServes Covers x.2)
    (hskip : ∀ x ∈ events wire hist, x.1.SkipsInTime x.2) {p : AddrPair} {c : Connection}
    {sh : Shared T} (hc : s.world.sockets p = some c)
    (hsh : s.world.shared c.socket = some sh) (hno : ∀ t, (p, t) ∉ s.world.polls)
    (hnext : s.world.nextPoll ≠ some p) :
    (TcpSocket.pollAt sh.tcp = .now → s.world.queue.deadline p = some clock.origin) ∧
      (∀ t, TcpSocket.pollAt sh.tcp = .time t →
        ∃ d, s.world.queue.deadline p = some d ∧ d ≤ clock.resolve t) := by
  have hinv : Clocked clock s.world ∧ s.world.Served Covers := by
    refine LoopRun.invariant (I := fun w => Clocked clock w ∧ w.Served Covers)
      (G := fun w e => w.ReadsNothing e ∧ w.UpdateServes Covers e ∧ w.SkipsInTime e)
      ⟨clocked_init clock, fun _ _ _ h => nomatch h⟩ ?_ r
      fun x hx => ⟨hread x hx, hup x hx, hskip x hx⟩
    rintro w e w' ho hst ⟨hcl, hs⟩ ⟨hg, hu, hk⟩ h
    refine ⟨clocked_step hcl h, ?_⟩
    refine served_step (fun _ _ h => nomatch h) (fun i j hj => ⟨i, rfl, ?_⟩) hfresh ho hst hs hg
      hu ?_ h
    · exact le_of_eq (Option.some.inj hj)
    · intro half s s' _ hcall _ hs hact hn hcov
      exact hcov.trans (hk.call hcall hs hact hn)
  obtain ⟨⟨-, hclock, horigin⟩, hserved⟩ := hinv
  have hcov : Covers (s.world.queue.deadline p) (instant clock (TcpSocket.pollAt sh.tcp)) := by
    rcases hserved (connOf_of_sockets hc) hsh with hn | hd | ⟨t, -, ht⟩
    · exact absurd hn hnext
    · rwa [hclock] at hd
    · exact absurd ht (hno t)
  constructor
  · intro hnow
    rw [hnow] at hcov
    obtain ⟨d, hd, hle⟩ := hcov _ rfl
    rw [hd, le_antisymm hle (horigin p d hd)]
  · intro t ht
    rw [ht] at hcov
    exact hcov _ rfl

/-- A write after the handshake whose update is delivered: the socket wants to send now, and its
deadline is the origin. -/
theorem egress_on_time_write :
    ∃ (s : Reference.Loop) (c : Connection) (sh : Shared Reference.Socket),
      LoopReachable Reference.wire Reference.clock s ∧
      s.world.sockets Reference.pair = some c ∧ s.world.shared c.socket = some sh ∧
      TcpSocket.pollAt sh.tcp = .now ∧
      s.world.queue.deadline Reference.pair = some Reference.clock.origin := by
  obtain ⟨hist, s, r, hs⟩ := Reference.run_of_check
    (Reference.handshake ++
      [.turn, .app (.write Reference.writer true 0 [0]), Reference.idle])
    (fun hist s => ((events Reference.wire hist).all fun x => !isRead x.2) &&
      ((events Reference.wire hist).all fun x => updatesNow x.2) &&
      ((events Reference.wire hist).all fun x => x.1.notifies x.2) &&
      decide (s.world.polls = []) && decide (s.world.nextPoll = none) &&
      (s.world.sockets Reference.pair).any fun c => (s.world.shared c.socket).any fun sh =>
        TcpSocket.pollAt sh.tcp = .now) (by decide +kernel)
  simp only [Bool.and_eq_true, List.all_eq_true, Bool.not_eq_true', Option.any_eq_true,
    decide_eq_true_eq] at hs
  obtain ⟨⟨⟨⟨⟨hread, hup⟩, hskip⟩, hpolls⟩, hnext⟩, c, hc, sh, hsh, hnow⟩ := hs
  refine ⟨s, c, sh, r.reachable, hc, hsh, hnow, ?_⟩
  exact (egress_on_time Reference.Socket.freshQuiet r
    (fun x hx => readsNothing_of_isRead (hread x hx))
    (fun x hx => updateServes_of_updatesNow (hup x hx))
    (fun x hx => skipsInTime_of_notifies (hskip x hx)) hc hsh (by simp [hpolls])
    (by simp [hnext])).1 hnow

/-- The writer is closed twice, and nothing is read; the update of the second close says when to
send the FIN again. A packet that has to be acknowledged at once overtakes it: once the update is
delivered, the ACK waits for the retransmission timer. -/
theorem stale_update_postpones :
    ∃ (hist : List (Reference.Loop × Label)) (s : Reference.Loop) (c : Connection)
      (sh : Shared Reference.Socket) (t : SmolInstant) (d : Instant),
      LoopRun Reference.wire Reference.clock hist s ∧
      (∀ x ∈ events Reference.wire hist, x.1.ReadsNothing x.2) ∧
      s.world.sockets Reference.pair = some c ∧ s.world.shared c.socket = some sh ∧
      s.world.polls = [] ∧ s.world.nextPoll = none ∧ TcpSocket.pollAt sh.tcp = .time t ∧
      s.world.queue.deadline Reference.pair = some d ∧ Reference.clock.resolve t < d := by
  obtain ⟨hist, s, r, hs⟩ := Reference.run_of_check Reference.overtakenUpdate
    (fun hist s => ((events Reference.wire hist).all fun x => !isRead x.2) &&
      decide (s.world.polls = []) && decide (s.world.nextPoll = none) &&
      (s.world.sockets Reference.pair).any fun c => (s.world.shared c.socket).any fun sh =>
        (Reference.timeOf (TcpSocket.pollAt sh.tcp)).any fun t =>
          (s.world.queue.deadline Reference.pair).any fun d => Reference.clock.resolve t < d)
    (by decide +kernel)
  simp only [Bool.and_eq_true, decide_eq_true_eq, Option.any_eq_true, List.all_eq_true,
    Bool.not_eq_true'] at hs
  obtain ⟨⟨⟨hread, hpolls⟩, hnext⟩, c, hc, sh, hsh, t, ht, d, hd, hlt⟩ := hs
  exact ⟨hist, s, c, sh, t, d, r, fun x hx => readsNothing_of_isRead (hread x hx), hc, hsh, hpolls,
    hnext, Reference.eq_time_of_timeOf ht, hd, hlt⟩

end State
end Ustunet
