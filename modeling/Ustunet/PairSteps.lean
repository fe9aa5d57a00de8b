import Ustunet.Ownership

/-!
# What a step does to one pair

Seen from one pair that has a connection, a step is one of a few things: a call on its own
connection, a step of the loop on it, an update that is delivered for it, the end of its deadline,
or something that leaves its schedule alone. `Steps.pair_cases` proves that there is nothing else;
the invariants about deadlines are proved from it.
-/

namespace Ustunet
namespace World

open DispatchQueue

variable {T Q : Type} [DelayQueue AddrPair Q]

/-! ## The schedule of a pair -/

/-- A step keeps the deadline of a pair, whether it is dispatched next, and its updates. -/
structure KeepsSchedule (w w' : World T Q) (p : AddrPair) : Prop where
  deadline : w'.queue.deadline p = w.queue.deadline p
  next : w'.nextPoll = some p ↔ w.nextPoll = some p
  polls : ∀ t, (p, t) ∈ w.polls → (p, t) ∈ w'.polls

/-- What another pair is given leaves this one alone. -/
lemma KeepsSchedule.of_send {w w' : World T Q} {p addr : AddrPair} {t : PollAt} (hp : p ≠ addr)
    (hq : w'.queue = w.queue.send addr t) (hnext : w'.nextPoll = some p ↔ w.nextPoll = some p)
    (hpolls : ∀ t, (p, t) ∈ w.polls → (p, t) ∈ w'.polls) : KeepsSchedule w w' p :=
  ⟨by rw [hq, deadline_send, if_neg hp], hnext, hpolls⟩

variable [TcpSocket T]

/-- The loop sets the deadline of a pair for the `poll_at` of its socket, or for some time where
the socket waits for packets only. -/
structure Sent (w w' : World T Q) (p : AddrPair) (tcp : T) : Prop where
  queue : ∃ t : PollAt, w'.queue = w.queue.send p t ∧
    (TcpSocket.pollAt tcp = .ingress ∨ t = TcpSocket.pollAt tcp)
  polls : w'.polls = w.polls

/-- A call of a writer that changes what is shared, with the update it sends. -/
inductive Call (half : Half) : Event → Shared T → Shared T → Option PollUpdate → Prop
  | write {s s' : Shared T} {r : Poll (Except IoError ℕ)} {update : Option PollUpdate}
      (lock : Bool) (waker : Waker) (buf : List UInt8)
      (hw : WriteHalf.pollWriteInner lock s half.socket waker buf = (r, s', update)) :
      Call half (.app (.write half lock waker buf)) s s' update
  | close {s s' : Shared T} {r : Poll Unit} {update : Option PollUpdate} (lock : Bool)
      (hw : WriteHalf.pollCloseInner lock s half.socket = (r, s', update)) :
      Call half (.app (.close half lock)) s s' update

/-- A call changes nothing, or sends the update that belongs to the socket after it. -/
lemma Call.update_cases {half : Half} {e : Event} {s s' : Shared T} {update : Option PollUpdate}
    (h : Call half e s s' update) :
    (s' = s ∧ update = none) ∨ (s'.pollingActive = s.pollingActive ∧
      update = WriteHalf.updateFor s half.socket s'.tcp) := by
  cases h with
  | write _ _ _ hw => exact (WriteHalf.pollWriteInner_update hw).imp_right And.right
  | close _ hw =>
    rcases WriteHalf.pollCloseInner_cases hw with ⟨-, -, rfl, rfl⟩ | ⟨-, -, rfl, rfl⟩
    · exact Or.inl ⟨rfl, rfl⟩
    · exact Or.inr ⟨rfl, rfl⟩

/-- What a step does to a pair and what its connection shares. -/
inductive PairStep (wire : Wire) (w w' : World T Q) (p : AddrPair) (id : ConnId) :
    Event → Shared T → Shared T → Prop
  | other {e : Event} {s : Shared T} (h : KeepsSchedule w w' p) : PairStep wire w w' p id e s s
  | read {half : Half} {s s' : Shared T} {r : Poll (Except IoError (List UInt8))} (lock : Bool)
      (waker : Waker) (len : ℕ) (hmem : half ∈ w.halves) (hid : half.conn = id)
      (hr : ReadHalf.pollReadInner lock s waker len = (r, s')) (h : KeepsSchedule w w' p) :
      PairStep wire w w' p id (.app (.read half lock waker len)) s s'
  | call {e : Event} {half : Half} {s s' : Shared T} {update : Option PollUpdate}
      (hcall : Call half e s s' update) (hmem : half ∈ w.halves) (hp : half.socket = p)
      (hid : half.conn = id) (hq : w'.queue = w.queue) (hnext : w'.nextPoll = w.nextPoll)
      (hpolls : w'.polls = w.polls ++ update.toList) : PairStep wire w w' p id e s s'
  | process {c : Connection} {s s' : Shared T} (ts : SmolInstant) (ip : IpRepr) (repr : TcpRepr)
      (hc : w.sockets p = some c) (hid : c.socket = id)
      (hok : checkAcceptability s.tcp ip repr = .ok ())
      (htcp : s'.tcp = (TcpSocket.process s.tcp ts ip repr).2)
      (hsend : Sent w w' p s'.tcp) (hnext : w'.nextPoll = w.nextPoll) :
      PairStep wire w w' p id (.process p ts ip repr) s s'
  | dispatch {c : Connection} {s s' : Shared T} (hc : w.sockets p = some c) (hid : c.socket = id)
      (hsend : Sent w w' p s'.tcp) (hnext : w'.nextPoll = none) :
      PairStep wire w w' p id (.dispatch p) s s'
  | dropHalf {c : Connection} {half : Half} {s : Shared T} (hp : half.socket = p)
      (hc : w.sockets p = some c) (hid : c.socket = id)
      (hsend : Sent w w' p (TcpSocket.close s.tcp)) (hnext : w'.nextPoll = w.nextPoll) :
      PairStep wire w w' p id (.dropHalf half) s { s with tcp := TcpSocket.close s.tcp }
  | update {t : PollAt} {s : Shared T} (hpolls : w.polls = (p, t) :: w'.polls)
      (hq : w'.queue = w.queue.send p t) (hnext : w'.nextPoll = w.nextPoll) :
      PairStep wire w w' p id (.update p t) s s
  | expire {s : Shared T} {d : Instant} (hd : w.queue.deadline p = some d) (hle : d ≤ w.now)
      (hgone : w'.queue.deadline p = none) (hnext : w'.nextPoll = some p) :
      PairStep wire w w' p id (.expire p) s s

variable {wire : Wire} {w w' : World T Q} {e : Event}

/-! ## Every step is one of these -/

omit [TcpSocket T] in
/-- A pair whose connection is another one than that of a pooled pair is another pair. -/
lemma ne_of_conn {p addr : AddrPair} {id : ConnId} {c : Connection}
    (hid : w.connOf p = some id) (hc : w.sockets addr = some c) (hne : id ≠ c.socket) :
    p ≠ addr := by
  rintro rfl
  exact hne (Option.some.inj (hid.symm.trans (connOf_of_sockets hc)))

omit [TcpSocket T] in
/-- To write back what was there changes nothing. -/
lemma shared_of_unchanged {id id₀ : ConnId} {s s' : Shared T} (hs : w.shared id₀ = some s)
    (hs' : (w.setShared id₀ s).shared id = some s') : w.shared id = some s' := by
  rw [shared_setShared] at hs'
  split at hs'
  · next he => rwa [he, hs]
  · exact hs'

/-- A step of the loop on the connection of `addr` that sets its deadline: the pair is `addr`, or
its schedule is left alone. -/
lemma pairStep_own {p addr : AddrPair} {id : ConnId} {c : Connection} {s s₁ s' : Shared T}
    {t : PollAt} (ho : w.Owned) (hid : w.connOf p = some id) (hc : w.sockets addr = some c)
    (hs : w.shared c.socket = some s) (hs' : (w.setShared c.socket s₁).shared id = some s')
    (hq : w'.queue = w.queue.send addr t)
    (hnext : p ≠ addr → (w'.nextPoll = some p ↔ w.nextPoll = some p))
    (hpolls : w'.polls = w.polls) (hown : PairStep wire w w' addr c.socket e s s₁) :
    ∃ s, w.shared id = some s ∧ PairStep wire w w' p id e s s' := by
  rw [shared_setShared] at hs'
  split at hs'
  · next he =>
    subst he
    obtain rfl := Option.some.inj hs'
    obtain rfl := ho.inj hid (connOf_of_sockets hc)
    exact ⟨s, hs, hown⟩
  · next hne =>
    have hp := ne_of_conn hid hc hne
    refine ⟨s', hs', .other (.of_send hp hq (hnext hp) fun t h => ?_)⟩
    rw [hpolls]
    exact h

/-- The calls of a writer, on the connection of the pair or on another. -/
lemma pairStep_call {p : AddrPair} {id : ConnId} {half : Half} {s s₁ s' : Shared T}
    {update : Option PollUpdate} (ho : w.Owned) (hst : w.Stopped) (hid : w.connOf p = some id)
    (hmem : half ∈ w.halves) (hs : w.shared half.conn = some s) (hcall : Call half e s s₁ update)
    (hs' : (w.setShared half.conn s₁).shared id = some s') (hq : w'.queue = w.queue)
    (hnext : w'.nextPoll = w.nextPoll) (hpolls : w'.polls = w.polls ++ update.toList) :
    ∃ s, w.shared id = some s ∧ PairStep wire w w' p id e s s' := by
  rw [shared_setShared] at hs'
  split at hs'
  · next he =>
    subst he
    obtain rfl := Option.some.inj hs'
    have hp : half.socket = p :=
      ho.inj (ho.connOf_of_mem (hst.running hid) (List.mem_append_left _ hmem)) hid
    exact ⟨s, hs, .call hcall hmem hp rfl hq hnext hpolls⟩
  · refine ⟨s', hs', .other ⟨by rw [hq], by rw [hnext], fun t h => ?_⟩⟩
    rw [hpolls]
    exact List.mem_append_left _ h

/-- **The steps from the point of view of a pair** that has a connection after them: it had the
same connection before, and the step is one of those listed, or the connection is new. -/
theorem Steps.pair_cases (ho : w.Owned) (hst : w.Stopped) (h : Steps wire w e w')
    {p : AddrPair} {id : ConnId} {s' : Shared T} (hid : w'.connOf p = some id)
    (hs' : w'.shared id = some s') :
    (w.connOf p = some id ∧ ∃ s, w.shared id = some s ∧ PairStep wire w w' p id e s s') ∨
      ∃ tcp, e = .create p ∧ openSocket p.localAddr = .ok tcp ∧ s' = .new tcp := by
  rcases connOf_step ho h hid with hid₀ | ⟨rfl, rfl⟩
  swap
  · cases h with
    | create _ _ _ hopen =>
      change (w.setShared _ _).shared _ = some s' at hs'
      rw [shared_setShared, if_pos rfl] at hs'
      exact Or.inr ⟨_, rfl, hopen, (Option.some.inj hs').symm⟩
  refine Or.inl ⟨hid₀, ?_⟩
  cases h with
  | elapse | accept | closeListener | drop | handOver | refuse | insert =>
    exact ⟨s', hs', .other ⟨rfl, Iff.rfl, fun _ h => h⟩⟩
  | @read half s lock waker len hmem _ _ hs =>
    change (w.setShared _ _).shared _ = some s' at hs'
    rw [shared_setShared] at hs'
    split at hs'
    · next he =>
      subst he
      obtain rfl := Option.some.inj hs'
      exact ⟨s, hs, .read lock waker len hmem rfl rfl ⟨rfl, Iff.rfl, fun _ h => h⟩⟩
    · exact ⟨s', hs', .other ⟨rfl, Iff.rfl, fun _ h => h⟩⟩
  | write lock waker buf hmem _ _ hs hw =>
    exact pairStep_call ho hst hid₀ hmem hs (.write lock waker buf hw) hs' rfl rfl rfl
  | close lock hmem _ _ hs hw =>
    exact pairStep_call ho hst hid₀ hmem hs (.close lock hw) hs' rfl rfl rfl
  | @process pair c s s₁ queue reply ts ip repr hc hs hp =>
    rcases Connection.process_cases hp with ⟨-, rfl, rfl⟩ | ⟨hok, hproc⟩
    · -- a packet that is refused changes nothing
      exact ⟨s', shared_of_unchanged hs hs', .other ⟨rfl, Iff.rfl, fun _ h => h⟩⟩
    · have hqueue := hproc.queue
      rw [ho.handle hc] at hqueue
      refine pairStep_own ho hid₀ hc hs hs' hqueue (fun _ => Iff.rfl) rfl ?_
      refine .process ts ip repr hc rfl hok hproc.tcp_eq ⟨⟨_, hqueue, ?_⟩, rfl⟩ rfl
      by_cases hi : TcpSocket.pollAt s₁.tcp = .ingress
      · exact Or.inl hi
      · exact Or.inr (by simp [hi])
  | @dispatchKeep addr c s s₁ queue buf hnext hc hs hd =>
    obtain ⟨-, hkept⟩ := Connection.dispatch_kept hd
    have hqueue := hkept.queue
    rw [ho.handle hc] at hqueue
    refine pairStep_own ho hid₀ hc hs hs' hqueue (fun hp => ?_) rfl
      (.dispatch hc rfl ⟨⟨_, hqueue, Or.inr rfl⟩, rfl⟩ rfl)
    rw [hnext]
    simp [Ne.symm hp]
  | @dispatchDrop addr c s s₁ queue buf hnext hc hs hd =>
    obtain ⟨-, rfl⟩ := Connection.dispatch_removed hd
    -- a pair that is removed has no connection
    have hp : p ≠ addr := by
      rintro rfl
      cases hid.symm.trans (ho.connOf_removed hc rfl rfl)
    have hne : id ≠ c.socket := by
      rintro rfl
      exact hp (ho.inj hid₀ (connOf_of_sockets hc))
    change (w.setShared _ _).shared _ = some s' at hs'
    rw [shared_setShared, if_neg hne] at hs'
    refine ⟨s', hs', .other ⟨?_, ?_, fun _ h => h⟩⟩
    · exact (deadline_remove ..).trans (if_neg hp)
    · rw [hnext]
      simp [Ne.symm hp]
  | @dropHalf half rest c c' s s₁ queue _ hc hs hd =>
    obtain ⟨-, ⟨-, rfl, rfl⟩ | ⟨-, rfl, rfl⟩⟩ := Connection.dropHalf_cases hd
    · exact ⟨s', shared_of_unchanged hs hs', .other ⟨rfl, Iff.rfl, fun _ h => h⟩⟩
    · refine pairStep_own ho hid₀ hc hs hs' (by rw [ho.handle hc]) (fun _ => Iff.rfl) rfl ?_
      refine .dropHalf rfl hc rfl ⟨⟨_, by rw [ho.handle hc], ?_⟩, rfl⟩ rfl
      by_cases hi : TcpSocket.pollAt (TcpSocket.close s.tcp) = .ingress
      · exact Or.inl hi
      · exact Or.inr (by simp [hi])
  | @update socket t rest hpolls =>
    refine ⟨s', hs', ?_⟩
    by_cases hp : p = socket
    · subst hp
      exact .update hpolls rfl rfl
    · refine .other (.of_send hp rfl Iff.rfl fun t' h => ?_)
      rw [hpolls, List.mem_cons] at h
      exact h.resolve_left fun he => hp (congrArg Prod.fst he)
  | @expire addr queue hnext hq =>
    obtain ⟨-, ⟨d, hd, hle⟩, hall⟩ := poll_some hq
    refine ⟨s', hs', ?_⟩
    by_cases hp : p = addr
    · subst hp
      exact .expire hd hle ((hall p).trans (if_pos rfl)) rfl
    · refine .other ⟨(hall p).trans (if_neg hp), ?_, fun _ h => h⟩
      rw [hnext]
      simp [Ne.symm hp]
  | create =>
    change (w.setShared _ _).shared _ = some s' at hs'
    rw [shared_setShared, if_neg (Nat.ne_of_lt (ho.fresh hid₀))] at hs'
    exact ⟨s', hs', .other ⟨rfl, Iff.rfl, fun _ h => h⟩⟩
  | stop hcr => simp [connOf, hcr] at hid

/-! ## The pool -/

/-- A pooled connection was pooled before the step, but for a flag that the step sets, or it is
put in the pool. -/
lemma Steps.sockets_cases (h : Steps wire w e w') {p : AddrPair} {c' : Connection}
    (hc' : w'.sockets p = some c') :
    w.sockets p = some c' ∨
      (∃ half c, e = .dropHalf half ∧ half.socket = p ∧ w.sockets p = some c ∧
        c' = c.marked half.rw) ∨
      ∃ id, e = .insert ∧ c' = .new id p := by
  cases h with
  | elapse | accept | closeListener | read | write | close | drop | process | dispatchKeep | update
  | expire | create | handOver | refuse => exact Or.inl hc'
  | @dispatchDrop addr =>
    change Function.update w.sockets addr none p = some c' at hc'
    by_cases hp : p = addr
    · rw [hp, Function.update_self] at hc'
      cases hc'
    · rw [Function.update_of_ne hp] at hc'
      exact Or.inl hc'
  | @dropHalf half rest c c₁ s s₁ queue _ hc _ hd =>
    change Function.update w.sockets half.socket (some c₁) p = some c' at hc'
    by_cases hp : p = half.socket
    · subst hp
      rw [Function.update_self] at hc'
      obtain rfl := Option.some.inj hc'
      exact Or.inr (Or.inl ⟨half, c, rfl, rfl, hc, (Connection.dropHalf_cases hd).1⟩)
    · rw [Function.update_of_ne hp] at hc'
      exact Or.inl hc'
  | @insert pair id =>
    change Function.update w.sockets pair (some (.new id pair)) p = some c' at hc'
    by_cases hp : p = pair
    · subst hp
      rw [Function.update_self] at hc'
      exact Or.inr (Or.inr ⟨id, rfl, (Option.some.inj hc').symm⟩)
    · rw [Function.update_of_ne hp] at hc'
      exact Or.inl hc'
  | stop => cases hc'

end World
end Ustunet
