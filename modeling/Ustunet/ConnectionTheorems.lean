import Ustunet.Stream

/-!
# What the operations on one connection do

One description for each of `process`, `dispatch` and `drop_half` and for the three functions of
the halves: what becomes of the socket, of `polling_active`, of the two wakers and of the entry
in the dispatch queue. The invariants are proved from these descriptions.
-/

namespace Ustunet

variable {T Q : Type} [TcpSocket T] [DelayQueue AddrPair Q]

/-! ## Waking -/

@[simp] lemma SharedState.waker_wakeOnce (s : SharedState) : s.wakeOnce.waker = none := by
  unfold wakeOnce
  cases h : s.waker with
  | none => simp [h]
  | some w => rfl

namespace RwStatus

variable (r : RwStatus) (s : Shared T)

/-- Both halves are dropped when each side is. -/
lemma dropped_of_bothDropped {r : RwStatus} (h : r.bothDropped = true) (rw : Close) :
    r.dropped rw = true := by
  rw [bothDropped, Bool.and_eq_true] at h
  cases rw
  · exact h.2
  · exact h.1

omit [TcpSocket T] in
@[simp] lemma wakeReader_tcp : (r.wakeReader s).tcp = s.tcp := by
  unfold wakeReader; split <;> rfl

omit [TcpSocket T] in
@[simp] lemma wakeReader_pollingActive :
    (r.wakeReader s).pollingActive = s.pollingActive := by
  unfold wakeReader; split <;> rfl

omit [TcpSocket T] in
@[simp] lemma wakeReader_eofReached : (r.wakeReader s).eofReached = s.eofReached := by
  unfold wakeReader; split <;> rfl

omit [TcpSocket T] in
@[simp] lemma wakeReader_writeReadiness :
    (r.wakeReader s).writeReadiness = s.writeReadiness := by
  unfold wakeReader; split <;> rfl

omit [TcpSocket T] in
@[simp] lemma wakeReader_waker :
    (r.wakeReader s).readReadiness.waker
      = if r.readerDropped then s.readReadiness.waker else none := by
  unfold wakeReader
  cases r.readerDropped <;> simp

omit [TcpSocket T] in
@[simp] lemma wakeWriter_tcp : (r.wakeWriter s).tcp = s.tcp := by
  unfold wakeWriter; split <;> rfl

omit [TcpSocket T] in
@[simp] lemma wakeWriter_pollingActive :
    (r.wakeWriter s).pollingActive = s.pollingActive := by
  unfold wakeWriter; split <;> rfl

omit [TcpSocket T] in
@[simp] lemma wakeWriter_eofReached : (r.wakeWriter s).eofReached = s.eofReached := by
  unfold wakeWriter; split <;> rfl

omit [TcpSocket T] in
@[simp] lemma wakeWriter_readReadiness :
    (r.wakeWriter s).readReadiness = s.readReadiness := by
  unfold wakeWriter; split <;> rfl

omit [TcpSocket T] in
@[simp] lemma wakeWriter_waker :
    (r.wakeWriter s).writeReadiness.waker
      = if r.writerDropped then s.writeReadiness.waker else none := by
  unfold wakeWriter
  cases r.writerDropped <;> simp

@[simp] lemma wakeToClose_tcp : (r.wakeToClose s).tcp = s.tcp := by
  unfold wakeToClose; dsimp only; split <;> split <;> simp

@[simp] lemma wakeToClose_pollingActive :
    (r.wakeToClose s).pollingActive = s.pollingActive := by
  unfold wakeToClose; dsimp only; split <;> split <;> simp

@[simp] lemma wakeToClose_eofReached : (r.wakeToClose s).eofReached = s.eofReached := by
  unfold wakeToClose; dsimp only; split <;> split <;> simp

/-- The reader's waker is taken where nothing more can be received. -/
lemma wakeToClose_readWaker :
    (r.wakeToClose s).readReadiness.waker
      = if !r.readerDropped && !TcpSocket.mayRecv s.tcp then none else s.readReadiness.waker := by
  unfold wakeToClose
  cases hr : TcpSocket.mayRecv s.tcp <;> cases hs : TcpSocket.maySend s.tcp <;>
    cases hd : r.readerDropped <;> simp [hs, hd]

/-- The writer's waker is taken where nothing more can be sent. -/
lemma wakeToClose_writeWaker :
    (r.wakeToClose s).writeReadiness.waker
      = if !r.writerDropped && !TcpSocket.maySend s.tcp then none else s.writeReadiness.waker := by
  unfold wakeToClose
  cases hr : TcpSocket.mayRecv s.tcp <;> cases hs : TcpSocket.maySend s.tcp <;>
    cases hd : r.writerDropped <;> simp [hs, hd]

end RwStatus

namespace Connection

variable {c c' : Connection} {s s' : Shared T} {q q' : DispatchQueue AddrPair Q}

/-! ## `process` -/

/-- What `process` does with a packet that the socket is given. -/
structure Processed (c : Connection) (s : Shared T) (q : DispatchQueue AddrPair Q)
    (ts : SmolInstant) (ip : IpRepr) (tcp : TcpRepr) (s' : Shared T)
    (q' : DispatchQueue AddrPair Q) : Prop where
  tcp_eq : s'.tcp = (TcpSocket.process s.tcp ts ip tcp).2
  active : s'.pollingActive = s.pollingActive
  eof : s'.eofReached = s.eofReached
  readWaker : s'.readReadiness.waker
    = if !c.inner.readerDropped && (TcpSocket.canRecv s'.tcp || !TcpSocket.mayRecv s'.tcp) then
        none
      else s.readReadiness.waker
  writeWaker : s'.writeReadiness.waker
    = if !c.inner.writerDropped && !TcpSocket.maySend s'.tcp then none
      else s.writeReadiness.waker
  queue : q' = q.send c.handle
    (if c.inner.bothDropped && TcpSocket.pollAt s'.tcp == .ingress
        && !(q.deadline c.handle).isSome then .now
      else TcpSocket.pollAt s'.tcp)

/-- A packet is refused with no effect, or given to the socket. -/
theorem process_cases {ts : SmolInstant} {ip : IpRepr} {tcp : TcpRepr}
    {reply : Except Error (Option Packet)} (h : c.process s ts ip tcp q = (reply, s', q')) :
    (checkAcceptability s.tcp ip tcp ≠ .ok () ∧ s' = s ∧ q' = q) ∨
      (checkAcceptability s.tcp ip tcp = .ok () ∧ Processed c s q ts ip tcp s' q') := by
  unfold process at h
  split at h
  · next e he =>
    cases h
    exact Or.inl ⟨by simp [he], rfl, rfl⟩
  · next hok =>
    refine Or.inr ⟨hok, ?_⟩
    generalize hr : TcpSocket.process s.tcp ts ip tcp = r at h
    obtain ⟨reply', tcp'⟩ := r
    dsimp only at h
    -- what is shared after the reader has been woken for the bytes received
    generalize hs₁ : (if TcpSocket.canRecv tcp' then c.inner.wakeReader { s with tcp := tcp' }
      else { s with tcp := tcp' }) = s₁ at h
    have htcp : s₁.tcp = tcp' := by rw [← hs₁]; split <;> simp
    cases h
    constructor
    · simp [htcp, hr]
    · rw [← hs₁]; split <;> simp
    · rw [← hs₁]; split <;> simp
    · rw [RwStatus.wakeToClose_tcp, RwStatus.wakeToClose_readWaker, htcp, ← hs₁]
      cases hcan : TcpSocket.canRecv tcp' <;> cases hdrop : c.inner.readerDropped <;> simp [hdrop]
    · rw [RwStatus.wakeToClose_tcp, RwStatus.wakeToClose_writeWaker, htcp, ← hs₁]
      cases hcan : TcpSocket.canRecv tcp' <;> simp
    · rw [DispatchQueue.contains_eq, RwStatus.wakeToClose_tcp, htcp]

/-! ## `dispatch` -/

/-- What `dispatch` does with the socket and the wakers, whether or not the connection stays. -/
structure Dispatched (wire : Wire) (c : Connection) (s : Shared T) (ts : SmolInstant)
    (s' : Shared T) : Prop where
  tcp_eq : s'.tcp = (TcpSocket.dispatchTo wire s.tcp ts).2.2
  eof : s'.eofReached = s.eofReached
  readWaker : s'.readReadiness.waker
    = if !c.inner.readerDropped && !TcpSocket.mayRecv s'.tcp then none
      else s.readReadiness.waker
  writeWaker : s'.writeReadiness.waker
    = if !c.inner.writerDropped && (!TcpSocket.maySend s'.tcp || TcpSocket.canSend s'.tcp) then
        none
      else s.writeReadiness.waker

lemma isExhausted_iff {r : Except Error Unit} : isExhausted r = true ↔ r = .error .exhausted := by
  unfold isExhausted
  split <;> simp_all

/-- The connection is removed exactly when both halves are dropped and the socket has no remote
endpoint, nothing to send now, or nothing to wait for. -/
def Finished (wire : Wire) (c : Connection) (s : Shared T) (ts : SmolInstant) : Prop :=
  c.inner.bothDropped = true ∧
    ((TcpSocket.remoteEndpoint (TcpSocket.dispatchTo wire s.tcp ts).2.2).isSpecified = false ∨
      (TcpSocket.dispatchTo wire s.tcp ts).1 = .error .exhausted ∨
      TcpSocket.pollAt (TcpSocket.dispatchTo wire s.tcp ts).2.2 = .ingress)

/-- The dispatch of a connection that stays: `polling_active` and the queue follow `poll_at`. -/
structure Kept (c : Connection) (q : DispatchQueue AddrPair Q) (s' : Shared T)
    (q' : DispatchQueue AddrPair Q) : Prop where
  active : s'.pollingActive = (TcpSocket.pollAt s'.tcp == .now)
  queue : q' = q.send c.handle (TcpSocket.pollAt s'.tcp)

theorem dispatch_cases {wire : Wire} {ts : SmolInstant} {drop : Bool} {buf : List UInt8}
    (h : c.dispatch wire s ts q = (drop, buf, s', q')) :
    Dispatched wire c s ts s' ∧
      ((drop = true ∧ Finished wire c s ts ∧ q' = q) ∨
        (drop = false ∧ ¬ Finished wire c s ts ∧ Kept c q s' q')) := by
  unfold dispatch at h
  unfold Finished
  generalize hr : TcpSocket.dispatchTo wire s.tcp ts = r at h
  obtain ⟨res, buf', tcp⟩ := r
  dsimp only at h
  have hfin : (c.inner.bothDropped && (!(TcpSocket.remoteEndpoint tcp).isSpecified
        || isExhausted res || TcpSocket.pollAt tcp == .ingress)) = true ↔
      (c.inner.bothDropped = true ∧ ((TcpSocket.remoteEndpoint tcp).isSpecified = false ∨
        res = .error .exhausted ∨ TcpSocket.pollAt tcp = .ingress)) := by
    simp only [Bool.and_eq_true, Bool.or_eq_true, Bool.not_eq_true', beq_iff_eq,
      isExhausted_iff, or_assoc]
  -- what is shared after both wake-ups
  generalize hs₁ : (if TcpSocket.canSend tcp
    then c.inner.wakeWriter (c.inner.wakeToClose { s with tcp })
    else c.inner.wakeToClose { s with tcp }) = s₁ at h
  have htcp : s₁.tcp = tcp := by rw [← hs₁]; split <;> simp
  have hdisp : Dispatched wire c s ts s₁ := by
    constructor
    · rw [hr, htcp]
    · rw [← hs₁]; split <;> simp
    · have hread : s₁.readReadiness = (c.inner.wakeToClose { s with tcp }).readReadiness := by
        rw [← hs₁]; split <;> simp
      rw [hread, RwStatus.wakeToClose_readWaker, htcp]
    · rw [htcp, ← hs₁]
      cases hcan : TcpSocket.canSend tcp <;> cases hdrop : c.inner.writerDropped <;>
        simp [hdrop, RwStatus.wakeToClose_writeWaker]
  split at h
  · next hc =>
    cases h
    exact ⟨hdisp, Or.inl ⟨rfl, hfin.mp hc, rfl⟩⟩
  · next hc =>
    cases h
    refine ⟨⟨hdisp.tcp_eq, hdisp.eof, hdisp.readWaker, hdisp.writeWaker⟩,
      Or.inr ⟨rfl, fun hf => hc (hfin.mpr hf), ?_⟩⟩
    exact ⟨by rw [htcp], by rw [htcp]⟩

/-- A connection that stays is not finished, and its deadline is set. -/
lemma dispatch_kept {wire : Wire} {ts : SmolInstant} {buf : List UInt8}
    (h : c.dispatch wire s ts q = (false, buf, s', q')) :
    ¬ Finished wire c s ts ∧ Kept c q s' q' := by
  obtain ⟨-, ⟨hf, -⟩ | ⟨-, hfin, hkept⟩⟩ := dispatch_cases h
  · cases hf
  · exact ⟨hfin, hkept⟩

/-- A connection that is removed is finished; its deadline is left to the pool. -/
lemma dispatch_removed {wire : Wire} {ts : SmolInstant} {buf : List UInt8}
    (h : c.dispatch wire s ts q = (true, buf, s', q')) : Finished wire c s ts ∧ q' = q := by
  obtain ⟨-, ⟨-, hfin, hq⟩ | ⟨hf, -⟩⟩ := dispatch_cases h
  · exact ⟨hfin, hq⟩
  · cases hf

/-! ## `drop_half` -/

/-- The flags after a half-close message for a side. -/
def marked (c : Connection) (rw : Close) : Connection :=
  { c with inner := match rw with
    | .read => { c.inner with readerDropped := true }
    | .write => { c.inner with writerDropped := true } }

@[simp] lemma marked_socket (c : Connection) (rw : Close) : (c.marked rw).socket = c.socket := rfl

@[simp] lemma marked_handle (c : Connection) (rw : Close) : (c.marked rw).handle = c.handle := by
  cases rw <;> rfl

/-- A message for a side sets the flag of that side alone. -/
lemma marked_dropped (c : Connection) (rw rw' : Close) :
    (c.marked rw).inner.dropped rw' = (decide (rw' = rw) || c.inner.dropped rw') := by
  cases rw <;> cases rw' <;> simp [marked, RwStatus.dropped]

/-- A message only marks a side while the writer is alive; else it closes the socket and
queues it, also where the socket itself has nothing to wait for. -/
theorem dropHalf_cases {rw : Close} (h : c.dropHalf s rw q = (c', s', q')) :
    c' = c.marked rw ∧
      (((c.marked rw).inner.writerDropped = false ∧ s' = s ∧ q' = q) ∨
        ((c.marked rw).inner.writerDropped = true ∧ s' = { s with tcp := TcpSocket.close s.tcp } ∧
          q' = q.send c.handle
            (if (c.marked rw).inner.bothDropped && TcpSocket.pollAt s'.tcp == .ingress then .now
              else TcpSocket.pollAt s'.tcp))) := by
  cases rw with
  | read =>
    simp only [dropHalf] at h
    split at h
    · next hc =>
      cases h
      exact ⟨rfl, Or.inl ⟨by simpa [marked] using hc, rfl, rfl⟩⟩
    · next hc =>
      cases h
      exact ⟨rfl, Or.inr ⟨by simpa [marked] using hc, rfl, rfl⟩⟩
  | write =>
    simp only [dropHalf] at h
    cases h
    exact ⟨rfl, Or.inr ⟨rfl, rfl, rfl⟩⟩

end Connection

/-! ## The halves -/

namespace ReadHalf

variable {s s' : Shared T} {r : Poll (Except IoError (List UInt8))} {lock : Bool} {waker : Waker}
  {len : ℕ}

/-- The end of a read that got no bytes: wait, or report the end of the stream. -/
structure Blocked (s : Shared T) (waker : Waker) (r : Poll (Except IoError (List UInt8)))
    (s' : Shared T) : Prop where
  tcp_eq : s'.tcp = s.tcp
  active : s'.pollingActive = s.pollingActive
  writeReadiness : s'.writeReadiness = s.writeReadiness
  /-- What the call returns, with the waker slot and the flag it leaves. -/
  result :
    ((TcpSocket.mayRecv s.tcp = true ∨ TcpSocket.state s.tcp = .synReceived) ∧ r = .pending ∧
      s'.readReadiness.waker = some waker ∧ s'.eofReached = s.eofReached) ∨
    (TcpSocket.mayRecv s.tcp = false ∧ TcpSocket.state s.tcp ≠ .synReceived ∧
      r = .ready (if s.eofReached then .error .connectionAborted else .ok []) ∧
      s'.readReadiness = s.readReadiness ∧ s'.eofReached = true)

lemma blocked_cases (h : blocked s waker = (r, s')) : Blocked s waker r s' := by
  unfold blocked at h
  split at h
  · next hc =>
    cases h
    rw [Bool.or_eq_true, beq_iff_eq] at hc
    exact ⟨rfl, rfl, rfl, Or.inl ⟨hc, rfl, rfl, rfl⟩⟩
  · next hc =>
    rw [Bool.or_eq_true, beq_iff_eq, not_or, Bool.not_eq_true] at hc
    split at h
    · next he =>
      cases h
      exact ⟨rfl, rfl, rfl, Or.inr ⟨hc.1, hc.2, by rw [he]; rfl, rfl, he⟩⟩
    · next he =>
      cases h
      exact ⟨rfl, rfl, rfl, Or.inr ⟨hc.1, hc.2, by simp [he], rfl, rfl⟩⟩

/-- A read does not get the lock, takes bytes, fails in `recv_slice`, or gets no bytes. -/
theorem pollReadInner_cases (h : pollReadInner lock s waker len = (r, s')) :
    (lock = false ∧ r = .pending ∧ s' = s) ∨
      (lock = true ∧ TcpSocket.canRecv s.tcp = true ∧
        ∃ b bytes tcp, TcpSocket.recvSlice s.tcp len = .ok (b :: bytes, tcp) ∧
          r = .ready (.ok (b :: bytes)) ∧ s' = { s with tcp }) ∨
      (lock = true ∧ TcpSocket.canRecv s.tcp = true ∧
        ∃ e, TcpSocket.recvSlice s.tcp len = .error e ∧ r = .ready (.error (.other e)) ∧
          s' = s) ∨
      (lock = true ∧ TcpSocket.canRecv s.tcp = true ∧
        ∃ tcp, TcpSocket.recvSlice s.tcp len = .ok ([], tcp) ∧
          Blocked { s with tcp } waker r s') ∨
      (lock = true ∧ TcpSocket.canRecv s.tcp = false ∧ Blocked s waker r s') := by
  unfold pollReadInner at h
  split at h
  · next hl =>
    cases h
    exact Or.inl ⟨by simpa using hl, rfl, rfl⟩
  · next hl =>
    have hl : lock = true := by simpa using hl
    refine Or.inr ?_
    split at h
    · next hcan =>
      split at h
      · next e he =>
        cases h
        exact Or.inr (Or.inl ⟨hl, hcan, e, he, rfl, rfl⟩)
      · next bytes tcp he =>
        cases bytes with
        | nil => exact Or.inr (Or.inr (Or.inl ⟨hl, hcan, tcp, he, blocked_cases h⟩))
        | cons b bytes =>
          cases h
          exact Or.inl ⟨hl, hcan, b, bytes, tcp, he, rfl, rfl⟩
    · next hcan =>
      exact Or.inr (Or.inr (Or.inr ⟨hl, by simpa using hcan, blocked_cases h⟩))

/-- A read reports the end of the stream, or leaves the flag as it was. -/
lemma pollReadInner_eof (h : pollReadInner lock s waker len = (r, s')) :
    (s'.eofReached = s.eofReached ∧ r ≠ .ready (.ok []) ∧
      r ≠ .ready (.error .connectionAborted)) ∨
    (lock = true ∧ TcpSocket.mayRecv s'.tcp = false ∧ TcpSocket.state s'.tcp ≠ .synReceived ∧
      r = .ready (if s.eofReached then .error .connectionAborted else .ok []) ∧
      s'.eofReached = true) := by
  have blocked : ∀ {s₁ : Shared T}, Blocked s₁ waker r s' → s₁.eofReached = s.eofReached →
      (s'.eofReached = s.eofReached ∧ r = .pending) ∨
      (TcpSocket.mayRecv s'.tcp = false ∧ TcpSocket.state s'.tcp ≠ .synReceived ∧
        r = .ready (if s.eofReached then .error .connectionAborted else .ok []) ∧
        s'.eofReached = true) := by
    intro s₁ hb h₁
    rw [hb.tcp_eq, ← h₁]
    rcases hb.result with ⟨-, hr, -, he⟩ | ⟨hmay, hsyn, hr, -, he⟩
    · exact Or.inl ⟨he, hr⟩
    · exact Or.inr ⟨hmay, hsyn, hr, he⟩
  rcases pollReadInner_cases h with ⟨-, rfl, rfl⟩ | ⟨-, -, b, bytes, tcp, -, rfl, rfl⟩ |
    ⟨-, -, e, -, rfl, rfl⟩ | ⟨hl, -, tcp, -, hb⟩ | ⟨hl, -, hb⟩
  · exact Or.inl ⟨rfl, nofun, nofun⟩
  · exact Or.inl ⟨rfl, nofun, nofun⟩
  · exact Or.inl ⟨rfl, nofun, nofun⟩
  · rcases blocked hb rfl with ⟨he, rfl⟩ | hend
    · exact Or.inl ⟨he, nofun, nofun⟩
    · exact Or.inr ⟨hl, hend⟩
  · rcases blocked hb rfl with ⟨he, rfl⟩ | hend
    · exact Or.inl ⟨he, nofun, nofun⟩
    · exact Or.inr ⟨hl, hend⟩

/-- A read that does not reach `recv_slice` leaves the socket alone. -/
lemma pollReadInner_tcp (h : pollReadInner lock s waker len = (r, s'))
    (hno : ¬ (lock = true ∧ TcpSocket.canRecv s.tcp = true)) : s'.tcp = s.tcp := by
  rcases pollReadInner_cases h with ⟨-, -, rfl⟩ | ⟨hl, hc, -⟩ | ⟨hl, hc, -⟩ | ⟨hl, hc, -⟩ |
    ⟨-, -, hb⟩
  · rfl
  · exact absurd ⟨hl, hc⟩ hno
  · exact absurd ⟨hl, hc⟩ hno
  · exact absurd ⟨hl, hc⟩ hno
  · exact hb.tcp_eq

/-- A read changes the socket by `recv_slice` only. -/
lemma pollReadInner_recv (h : pollReadInner lock s waker len = (r, s')) :
    s'.tcp = s.tcp ∨ ∃ bytes, TcpSocket.recvSlice s.tcp len = .ok (bytes, s'.tcp) := by
  rcases pollReadInner_cases h with ⟨-, -, rfl⟩ | ⟨-, -, b, bytes, tcp, hrecv, -, rfl⟩ |
    ⟨-, -, _, -, -, rfl⟩ | ⟨-, -, tcp, hrecv, hb⟩ | ⟨-, -, hb⟩
  · exact Or.inl rfl
  · exact Or.inr ⟨_, hrecv⟩
  · exact Or.inl rfl
  · rw [hb.tcp_eq]
    exact Or.inr ⟨_, hrecv⟩
  · exact Or.inl hb.tcp_eq

end ReadHalf

namespace WriteHalf

variable {s s' : Shared T} {r : Poll (Except IoError ℕ)} {lock : Bool} {waker : Waker}
  {handle : SocketHandle} {buf : List UInt8} {update : Option (SocketHandle × PollAt)}

/-- The update that a writer sends: none if the connection is being polled. -/
def updateFor (s : Shared T) (handle : SocketHandle) (tcp : T) :
    Option (SocketHandle × PollAt) :=
  if s.pollingActive then none else some (handle, TcpSocket.pollAt tcp)

/-- A write that has come past `send_slice`, which took `n` bytes. -/
structure Written (s : Shared T) (handle : SocketHandle) (waker : Waker) (n : ℕ)
    (r : Poll (Except IoError ℕ)) (s' : Shared T)
    (update : Option (SocketHandle × PollAt)) : Prop where
  active : s'.pollingActive = s.pollingActive
  readReadiness : s'.readReadiness = s.readReadiness
  eof : s'.eofReached = s.eofReached
  update_eq : update = updateFor s handle s'.tcp
  /-- What the call returns, with the waker slot it leaves. -/
  result :
    (0 < n ∧ r = .ready (.ok n) ∧ s'.writeReadiness = s.writeReadiness) ∨
    (n = 0 ∧ TcpSocket.maySend s'.tcp = false ∧ r = .ready (.error .connectionAborted) ∧
      s'.writeReadiness = s.writeReadiness) ∨
    (n = 0 ∧ TcpSocket.maySend s'.tcp = true ∧ r = .pending ∧
      s'.writeReadiness.waker = some waker)

/-- A write does not get the lock, fails in `send_slice`, sends, or finds no space. -/
theorem pollWriteInner_cases (h : pollWriteInner lock s handle waker buf = (r, s', update)) :
    (lock = false ∧ r = .pending ∧ s' = s ∧ update = none) ∨
      (lock = true ∧ TcpSocket.canSend s.tcp = true ∧
        ∃ e, TcpSocket.sendSlice s.tcp buf = .error e ∧ r = .ready (.error (.other e)) ∧
          s' = s ∧ update = none) ∨
      (lock = true ∧ TcpSocket.canSend s.tcp = true ∧
        ∃ n, TcpSocket.sendSlice s.tcp buf = .ok (n, s'.tcp) ∧
          Written s handle waker n r s' update) ∨
      (lock = true ∧ TcpSocket.canSend s.tcp = false ∧ s'.tcp = s.tcp ∧
        Written s handle waker 0 r s' update) := by
  unfold pollWriteInner at h
  split at h
  · next hl =>
    cases h
    exact Or.inl ⟨by simpa using hl, rfl, rfl, rfl⟩
  · next hl =>
    have hl : lock = true := by simpa using hl
    refine Or.inr ?_
    -- the end of the function, for the socket after `send_slice`
    have tail : ∀ {n tcp}, (if 0 < n then
          (Poll.ready (.ok n), ({ s with tcp } : Shared T),
            if !s.pollingActive then some (handle, TcpSocket.pollAt tcp) else none)
        else if !TcpSocket.maySend tcp then
          (.ready (.error .connectionAborted), { s with tcp },
            if !s.pollingActive then some (handle, TcpSocket.pollAt tcp) else none)
        else
          (.pending, { s with
              tcp, writeReadiness := { s.writeReadiness with waker := some waker } },
            if !s.pollingActive then some (handle, TcpSocket.pollAt tcp) else none))
          = (r, s', update) → s'.tcp = tcp ∧ Written s handle waker n r s' update := by
      intro n tcp h
      have hup : (if !s.pollingActive then some (handle, TcpSocket.pollAt tcp) else none)
          = updateFor s handle tcp := by
        unfold updateFor
        cases s.pollingActive <;> rfl
      rw [hup] at h
      split at h
      · next hn =>
        cases h
        exact ⟨rfl, rfl, rfl, rfl, rfl, Or.inl ⟨hn, rfl, rfl⟩⟩
      · next hn =>
        obtain rfl : n = 0 := by omega
        split at h
        · next hm =>
          cases h
          exact ⟨rfl, rfl, rfl, rfl, rfl, Or.inr (Or.inl ⟨rfl, by simpa using hm, rfl, rfl⟩)⟩
        · next hm =>
          cases h
          exact ⟨rfl, rfl, rfl, rfl, rfl, Or.inr (Or.inr ⟨rfl, by simpa using hm, rfl, rfl⟩)⟩
    by_cases hcan : TcpSocket.canSend s.tcp = true
    · simp only [hcan, if_true] at h
      cases hsend : TcpSocket.sendSlice s.tcp buf with
      | error e =>
        rw [hsend] at h
        cases h
        exact Or.inl ⟨hl, hcan, e, rfl, rfl, rfl, rfl⟩
      | ok x =>
        obtain ⟨n, tcp⟩ := x
        rw [hsend] at h
        obtain ⟨htcp, hwr⟩ := tail h
        exact Or.inr (Or.inl ⟨hl, hcan, n, by rw [htcp], hwr⟩)
    · rw [Bool.not_eq_true] at hcan
      simp only [hcan, Bool.false_eq_true, if_false] at h
      obtain ⟨htcp, hwr⟩ := tail h
      exact Or.inr (Or.inr ⟨hl, hcan, htcp, hwr⟩)

/-- A write changes nothing, or goes past `send_slice`, with the lock. -/
lemma pollWriteInner_update (h : pollWriteInner lock s handle waker buf = (r, s', update)) :
    (s' = s ∧ update = none) ∨
      (lock = true ∧ s'.pollingActive = s.pollingActive ∧
        update = updateFor s handle s'.tcp) := by
  rcases pollWriteInner_cases h with ⟨-, -, rfl, rfl⟩ | ⟨-, -, -, -, -, rfl, rfl⟩ |
    ⟨hl, -, n, -, hwr⟩ | ⟨hl, -, -, hwr⟩
  · exact Or.inl ⟨rfl, rfl⟩
  · exact Or.inl ⟨rfl, rfl⟩
  · exact Or.inr ⟨hl, hwr.active, hwr.update_eq⟩
  · exact Or.inr ⟨hl, hwr.active, hwr.update_eq⟩

/-- A write changes the socket by `send_slice` only. -/
lemma pollWriteInner_send (h : pollWriteInner lock s handle waker buf = (r, s', update)) :
    s'.tcp = s.tcp ∨ ∃ n, TcpSocket.sendSlice s.tcp buf = .ok (n, s'.tcp) := by
  rcases pollWriteInner_cases h with ⟨-, -, rfl, -⟩ | ⟨-, -, _, -, -, rfl, -⟩ |
    ⟨-, -, n, hsend, -⟩ | ⟨-, -, htcp, -⟩
  · exact Or.inl rfl
  · exact Or.inl rfl
  · exact Or.inr ⟨n, hsend⟩
  · exact Or.inl htcp

lemma pollWriteInner_readReadiness
    (h : pollWriteInner lock s handle waker buf = (r, s', update)) :
    s'.readReadiness = s.readReadiness := by
  rcases pollWriteInner_cases h with ⟨-, -, rfl, -⟩ | ⟨-, -, _, -, -, rfl, -⟩ |
    ⟨-, -, n, -, hwr⟩ | ⟨-, -, -, hwr⟩
  · rfl
  · rfl
  · exact hwr.readReadiness
  · exact hwr.readReadiness

lemma pollWriteInner_eof (h : pollWriteInner lock s handle waker buf = (r, s', update)) :
    s'.eofReached = s.eofReached := by
  rcases pollWriteInner_cases h with ⟨-, -, rfl, -⟩ | ⟨-, -, _, -, -, rfl, -⟩ |
    ⟨-, -, n, -, hwr⟩ | ⟨-, -, -, hwr⟩
  · rfl
  · rfl
  · exact hwr.eof
  · exact hwr.eof

/-- A write fails with `ConnectionAborted` where the socket may not send. -/
lemma pollWriteInner_aborted (h : pollWriteInner lock s handle waker buf = (r, s', update))
    (hr : r = .ready (.error .connectionAborted)) :
    lock = true ∧ TcpSocket.maySend s'.tcp = false := by
  subst hr
  rcases pollWriteInner_cases h with ⟨-, hr, -⟩ | ⟨-, -, _, -, hr, -⟩ | ⟨hl, -, n, -, hwr⟩ |
    ⟨hl, -, -, hwr⟩
  · cases hr
  · cases hr
  · rcases hwr.result with ⟨-, hr, -⟩ | ⟨-, hmay, -⟩ | ⟨-, -, hr, -⟩
    · cases hr
    · exact ⟨hl, hmay⟩
    · cases hr
  · rcases hwr.result with ⟨-, hr, -⟩ | ⟨-, hmay, -⟩ | ⟨-, -, hr, -⟩
    · cases hr
    · exact ⟨hl, hmay⟩
    · cases hr

/-- A close does not get the lock, or closes the socket. -/
theorem pollCloseInner_cases {r : Poll Unit}
    (h : pollCloseInner lock s handle = (r, s', update)) :
    (lock = false ∧ r = .pending ∧ s' = s ∧ update = none) ∨
      (lock = true ∧ r = .ready () ∧ s' = { s with tcp := TcpSocket.close s.tcp } ∧
        update = updateFor s handle s'.tcp) := by
  unfold pollCloseInner at h
  split at h
  · next hl =>
    cases h
    exact Or.inl ⟨by simpa using hl, rfl, rfl, rfl⟩
  · next hl =>
    cases h
    refine Or.inr ⟨by simpa using hl, rfl, rfl, ?_⟩
    unfold updateFor
    cases s.pollingActive <;> rfl

end WriteHalf

end Ustunet
