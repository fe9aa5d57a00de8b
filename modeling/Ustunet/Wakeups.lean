import Ustunet.Ownership

/-!
# Wake-ups

A half that has to wait leaves its waker in a slot, and the loop takes it out and wakes the task
when there is something to do again. Between two steps the lock is free; a waker that is still in
its slot then says that the half has to wait:

* `reader_wakeups`: there is nothing to read, and more may come;
* `writer_wakeups_iff`: there is no space, and the direction is open, as long as no packet makes
  space for a writer that waits, and no writer is closed that waits.

Both halves take a count of zero as the sign that they have to wait. So they wait with nothing to
wait for exactly when their buffer is empty (`pending_blocked_iff`).
-/

namespace Ustunet
namespace World

variable {T Q : Type} [DelayQueue AddrPair Q] {wire : Wire} {w w' : World T Q} {e : Event}

/-! ## The halves that are alive -/

/-- A half that is alive is not marked by the message that is delivered next. -/
lemma Owned.not_marked (ho : w.Owned) (hst : w.Stopped) {c : Connection} {half m : Half}
    {rest : List Half} (hc : w.sockets m.socket = some c) (hmem : half ∈ w.halves)
    (hid : c.socket = half.conn) (hclosing : w.closing = m :: rest) :
    (c.marked m.rw).inner.dropped half.rw = false := by
  obtain ⟨hp, hdropped⟩ := ho.not_dropped hst hc hmem hid
  have hrun := hst.running (connOf_of_sockets hc)
  rw [Connection.marked_dropped, hdropped, Bool.or_false, decide_eq_false_iff_not]
  -- else the message would be a second trace of the half
  intro hrw
  have hm : w.connOf m.socket = some m.conn := ho.connOf_of_mem hrun (by simp [hclosing])
  have hconn : m.conn = half.conn := by
    rw [connOf_of_sockets hc] at hm
    exact (Option.some.inj hm).symm.trans hid
  obtain rfl : m = half := by
    obtain ⟨a, b, d⟩ := m
    obtain ⟨a', b', d'⟩ := half
    simp_all
  have honce := ho.once hrun m
  have h₁ : 0 < w.halves.count m := List.count_pos_iff.mpr hmem
  have h₂ : 0 < w.closing.count m := List.count_pos_iff.mpr (by simp [hclosing])
  rw [List.count_append] at honce
  split at honce <;> omega

variable [TcpSocket T]

/-- Halves are made with their connection. -/
lemma Steps.halves_cases (h : Steps wire w e w') {half : Half} (hmem : half ∈ w'.halves) :
    half ∈ w.halves ∨ (half.conn = w.nextConn ∧ ∃ pair, e = .create pair) := by
  cases h with
  | closeListener => exact Or.inl (List.mem_filter.mp hmem).1
  | refuse => exact Or.inl (List.mem_filter.mp hmem).1
  | drop => exact Or.inl (List.mem_of_mem_erase hmem)
  | create =>
    rcases List.mem_append.mp hmem with hmem | hmem
    · exact Or.inl hmem
    · simp only [List.mem_cons, List.not_mem_nil, or_false] at hmem
      rcases hmem with rfl | rfl <;> exact Or.inr ⟨rfl, _, rfl⟩
  | _ => exact Or.inl hmem

/-- What a half that is alive shares after a step: what it shared before, or the result of a
step on its connection; or the connection is new. -/
lemma Steps.half_cases (h : Steps wire w e w') {half : Half} {s' : Shared T}
    (hmem : half ∈ w'.halves) (hs' : w'.shared half.conn = some s') :
    (half ∈ w.halves ∧ w.shared half.conn = some s') ∨
      (half ∈ w.halves ∧ ∃ s, w.shared half.conn = some s ∧
        SharedStep wire w half.conn e s s') ∨
      ∃ tcp, s' = .new tcp := by
  rcases h.halves_cases hmem with hmem | ⟨hn, pair, rfl⟩
  · rcases h.shared_cases hs' with hs | ⟨s, hs, hstep⟩ | ⟨-, -, tcp, -, -, hnew⟩
    · exact Or.inl ⟨hmem, hs⟩
    · exact Or.inr (Or.inl ⟨hmem, s, hs, hstep⟩)
    · exact Or.inr (Or.inr ⟨tcp, hnew⟩)
  · cases h with
    | create =>
      change (w.setShared _ _).shared _ = some s' at hs'
      rw [shared_setShared, if_pos hn] at hs'
      exact Or.inr (Or.inr ⟨_, (Option.some.inj hs').symm⟩)

/-! ## The reader -/

/-- There is nothing to read, and more may come. -/
def Awaiting (tcp : T) : Prop :=
  TcpSocket.recvQueue tcp = 0 ∧
    ((TcpSocket.state tcp).receives = true ∨ TcpSocket.state tcp = .synReceived)

/-- A reader that waits has something to wait for. -/
def ReaderWaits (w : World T Q) : Prop :=
  ∀ ⦃half s⦄, half ∈ w.halves → half.rw = .read → w.shared half.conn = some s →
    s.readReadiness.waker.isSome = true → Awaiting s.tcp

/-- The application reads with buffers that are not empty. -/
def nonEmptyRead (e : Event) : Bool :=
  match e with
  | .app (.read _ _ _ len) => 0 < len
  | _ => true

omit [DelayQueue AddrPair Q] in
lemma canRecv_false (hT : RecvSide T wire) {tcp : T} (h : TcpSocket.recvQueue tcp = 0) :
    TcpSocket.canRecv tcp = false := by
  rw [hT.canRecv_eq, h]
  simp

omit [DelayQueue AddrPair Q] in
/-- Nothing can be received although the direction is open: the buffer is empty. -/
lemma recvQueue_eq_zero (hT : RecvSide T wire) {tcp : T} (hcan : TcpSocket.canRecv tcp = false) :
    TcpSocket.recvQueue tcp = 0 := by
  by_contra hne
  have hpos : 0 < TcpSocket.recvQueue tcp := Nat.pos_of_ne_zero hne
  rw [hT.canRecv_eq, hT.mayRecv_eq] at hcan
  simp [hpos] at hcan

omit [DelayQueue AddrPair Q] in
/-- With an empty buffer, more may come only in the states that receive. -/
lemma receives_of_mayRecv (hT : RecvSide T wire) {tcp : T} (h : TcpSocket.recvQueue tcp = 0)
    (hmay : TcpSocket.mayRecv tcp = true) : (TcpSocket.state tcp).receives = true := by
  rw [hT.mayRecv_eq, h] at hmay
  simpa using hmay

/-- `close` leaves the receiving direction open where it was, or was about to be. -/
lemma receives_afterClose {s : TcpState} (h : s.receives = true ∨ s = .synReceived) :
    s.afterClose.receives = true := by
  rcases h with h | rfl
  · cases s <;> first | rfl | cases h
  · rfl

omit [DelayQueue AddrPair Q] in
lemma Awaiting.close (hT : RecvSide T wire) {tcp : T} (h : Awaiting tcp) :
    Awaiting (TcpSocket.close tcp) := by
  refine ⟨(hT.close_recv tcp).trans h.1, Or.inl ?_⟩
  rw [hT.close_state]
  exact receives_afterClose h.2

omit [DelayQueue AddrPair Q] in
/-- Only a read that finds nothing, and may wait for more, leaves a waker. -/
lemma awaiting_of_read (hT : RecvSide T wire) {lock : Bool} {s s' : Shared T} {waker : Waker}
    {len : ℕ} {r : Poll (Except IoError (List UInt8))} (hlen : 0 < len)
    (hr : ReadHalf.pollReadInner lock s waker len = (r, s'))
    (hwait : s.readReadiness.waker.isSome = true → Awaiting s.tcp)
    (hwk : s'.readReadiness.waker.isSome = true) : Awaiting s'.tcp := by
  rcases ReadHalf.pollReadInner_cases hr with ⟨-, -, rfl⟩ | ⟨-, hcan, b, bytes, tcp, -, -, rfl⟩ |
    ⟨-, -, _, -, -, rfl⟩ | ⟨-, hcan, tcp, hrecv, -⟩ | ⟨-, hcan, hb⟩
  · exact hwait hwk
  · -- there is something to read, so nobody was waiting
    rw [canRecv_false hT (hwait hwk).1] at hcan
    cases hcan
  · exact hwait hwk
  · obtain ⟨b, bytes, tcp', hsome⟩ := hT.recv_some s.tcp len hcan hlen
    rw [hsome] at hrecv
    cases hrecv
  · rw [hb.tcp_eq]
    rcases hb.result with ⟨hmay, -, -, -⟩ | ⟨hmay, hsyn, -, hkeep, -⟩
    · have hrq := recvQueue_eq_zero hT hcan
      exact ⟨hrq, hmay.imp_left (receives_of_mayRecv hT hrq)⟩
    · -- a reader that was waiting is not told of an end
      rw [hkeep] at hwk
      rw [hT.mayRecv_eq, ((hwait hwk).2.resolve_right hsyn)] at hmay
      cases hmay

lemma readerWaits_step (hT : RecvSide T wire) (ho : w.Owned) (hst : w.Stopped)
    (hw : w.ReaderWaits) (hg : nonEmptyRead e = true) (h : Steps wire w e w') : w'.ReaderWaits := by
  intro half s' hmem hrw hs' hwk
  rcases h.half_cases hmem hs' with ⟨hmem, hs⟩ | ⟨hmem, s, hs, hstep⟩ | ⟨tcp, rfl⟩
  · exact hw hmem hrw hs hwk
  · cases hstep with
    | read lock waker len _ _ _ hr =>
      exact awaiting_of_read hT (of_decide_eq_true hg) hr (hw hmem hrw hs) hwk
    | write _ _ _ _ _ _ hwr =>
      obtain ⟨hstate, hrq⟩ := WriteHalf.pollWriteInner_keeps hT hwr
      rw [WriteHalf.pollWriteInner_readReadiness hwr] at hwk
      unfold Awaiting
      rw [hstate, hrq]
      exact hw hmem hrw hs hwk
    | close _ _ _ _ hcl =>
      rcases WriteHalf.pollCloseInner_cases hcl with ⟨-, -, rfl, -⟩ | ⟨-, -, rfl, -⟩
      · exact hw hmem hrw hs hwk
      · exact (hw hmem hrw hs hwk).close hT
    | process _ _ _ hc hid hp =>
      rcases Connection.process_cases hp with ⟨-, rfl, -⟩ | ⟨-, hproc⟩
      · exact hw hmem hrw hs hwk
      · have hdrop := (ho.not_dropped hst hc hmem hid).2
        rw [hrw, RwStatus.dropped] at hdrop
        rw [hproc.readWaker, hdrop] at hwk
        split at hwk
        · cases hwk
        · next hcond =>
          -- the waker was left in its slot: there is nothing to read, and more may come
          simp only [Bool.not_false, Bool.true_and, Bool.or_eq_true, Bool.not_eq_true',
            not_or, Bool.not_eq_true, Bool.not_eq_false] at hcond
          have hrq := recvQueue_eq_zero hT hcond.1
          exact ⟨hrq, Or.inl (receives_of_mayRecv hT hrq hcond.2)⟩
    | dispatch hc hid hd =>
      obtain ⟨hdisp, -⟩ := Connection.dispatch_cases hd
      have hdrop := (ho.not_dropped hst hc hmem hid).2
      rw [hrw, RwStatus.dropped] at hdrop
      rw [hdisp.readWaker, hdrop] at hwk
      split at hwk
      · cases hwk
      · next hcond =>
        have hrq : TcpSocket.recvQueue s'.tcp = 0 := by
          rw [hdisp.tcp_eq]
          exact hT.dispatch_recv _ _ (hw hmem hrw hs hwk).1
        exact ⟨hrq, Or.inl (receives_of_mayRecv hT hrq (by simpa using hcond))⟩
    | dropHalf _ _ _ hd =>
      obtain ⟨-, ⟨-, rfl, -⟩ | ⟨-, rfl, -⟩⟩ := Connection.dropHalf_cases hd
      · exact hw hmem hrw hs hwk
      · exact (hw hmem hrw hs hwk).close hT
  · cases hwk

/-! ## The writer -/

/-- A writer that waits has no space, and its direction is open. -/
def WriterWaits (w : World T Q) : Prop :=
  ∀ ⦃half s⦄, half ∈ w.halves → half.rw = .write → w.shared half.conn = some s →
    s.writeReadiness.waker.isSome = true →
    TcpSocket.canSend s.tcp = false ∧ TcpSocket.maySend s.tcp = true

/-- The application writes from buffers that are not empty. -/
def nonEmptyWrite (e : Event) : Bool :=
  match e with
  | .app (.write _ _ _ buf) => !buf.isEmpty
  | _ => true

/-- No packet makes space for a writer that waits, and no writer is closed that waits. -/
def WakesWriter (w : World T Q) (e : Event) : Prop :=
  match e with
  | .process p ts ip repr => ∀ c s, w.sockets p = some c → w.shared c.socket = some s →
    (⟨p, .write, c.socket⟩ : Half) ∈ w.halves → s.writeReadiness.waker.isSome = true →
      checkAcceptability s.tcp ip repr = .ok () →
      ¬ (TcpSocket.canSend (TcpSocket.process s.tcp ts ip repr).2 = true ∧
        TcpSocket.maySend (TcpSocket.process s.tcp ts ip repr).2 = true)
  | .app (.close half lock) => ∀ s, w.shared half.conn = some s → lock = true →
    s.writeReadiness.waker = none
  | _ => True

/-- A step that keeps the writers' wake-ups in order meets the condition. -/
lemma wakesWriter_of_writerWaits (hT : SendSide T) (hw' : w'.WriterWaits)
    (h : Steps wire w e w') : w.WakesWriter e := by
  cases h with
  | @process pair c s s' queue reply ts ip tcp hc hs hp =>
    intro c₁ s₁ hc₁ hs₁ hmem hwk hok ⟨hcan, hmay⟩
    obtain rfl := Option.some.inj (hc.symm.trans hc₁)
    obtain rfl := Option.some.inj (hs.symm.trans hs₁)
    rcases Connection.process_cases hp with ⟨hno, -⟩ | ⟨-, hproc⟩
    · exact hno hok
    · rw [← hproc.tcp_eq] at hcan hmay
      have hshared : (w.setShared c.socket s').shared c.socket = some s' := by
        rw [shared_setShared, if_pos rfl]
      -- the waker of the writer is still in its slot
      have hkeep : s'.writeReadiness.waker.isSome = true := by
        rw [hproc.writeWaker, hmay]
        simpa using hwk
      have hfull := (hw' hmem rfl hshared hkeep).1
      rw [hcan] at hfull
      cases hfull
  | @close half s s' update r lock hmem hrw _ hs hcl _ =>
    intro s₁ hs₁ hlock
    obtain rfl := Option.some.inj (hs.symm.trans hs₁)
    rcases WriteHalf.pollCloseInner_cases hcl with ⟨hl, -⟩ | ⟨-, -, rfl, -⟩
    · rw [hl] at hlock
      cases hlock
    · by_contra hwk
      have hshared : (w.setShared half.conn { s with tcp := TcpSocket.close s.tcp }).shared
          half.conn = some { s with tcp := TcpSocket.close s.tcp } := by
        rw [shared_setShared, if_pos rfl]
      have hmay := (hw' hmem hrw hshared (Option.isSome_iff_ne_none.mpr hwk)).2
      exact Bool.false_ne_true ((hT.close_ends s.tcp).symm.trans hmay)
  | _ => trivial

omit [DelayQueue AddrPair Q] in
/-- A read leaves the sending direction as it is. -/
lemma sendSide_of_read (hT : SendSide T) {lock : Bool} {s s' : Shared T} {waker : Waker} {len : ℕ}
    {r : Poll (Except IoError (List UInt8))}
    (hr : ReadHalf.pollReadInner lock s waker len = (r, s')) :
    s'.writeReadiness = s.writeReadiness ∧
      TcpSocket.canSend s'.tcp = TcpSocket.canSend s.tcp ∧
      TcpSocket.maySend s'.tcp = TcpSocket.maySend s.tcp := by
  rcases ReadHalf.pollReadInner_cases hr with ⟨-, -, rfl⟩ |
    ⟨-, -, b, bytes, tcp, hrecv, -, rfl⟩ | ⟨-, -, _, -, -, rfl⟩ |
    ⟨-, -, tcp, hrecv, hb⟩ | ⟨-, -, hb⟩
  · exact ⟨rfl, rfl, rfl⟩
  · exact ⟨rfl, hT.recv_keeps _ _ _ _ hrecv⟩
  · exact ⟨rfl, rfl, rfl⟩
  · refine ⟨hb.writeReadiness, ?_⟩
    rw [hb.tcp_eq]
    exact hT.recv_keeps _ _ _ _ hrecv
  · refine ⟨hb.writeReadiness, ?_⟩
    rw [hb.tcp_eq]
    exact ⟨rfl, rfl⟩

omit [DelayQueue AddrPair Q] in
/-- Only a write that finds no space in an open direction leaves a waker. -/
lemma waits_of_write (hT : SendSide T) {lock : Bool} {s s' : Shared T} {handle : SocketHandle}
    {waker : Waker} {buf : List UInt8} {r : Poll (Except IoError ℕ)} {update : Option PollUpdate}
    (hbuf : buf ≠ []) (hwr : WriteHalf.pollWriteInner lock s handle waker buf = (r, s', update))
    (hwait : s.writeReadiness.waker.isSome = true →
      TcpSocket.canSend s.tcp = false ∧ TcpSocket.maySend s.tcp = true)
    (hwk : s'.writeReadiness.waker.isSome = true) :
    TcpSocket.canSend s'.tcp = false ∧ TcpSocket.maySend s'.tcp = true := by
  rcases WriteHalf.pollWriteInner_cases hwr with ⟨-, -, rfl, -⟩ | ⟨-, -, _, -, -, rfl, -⟩ |
    ⟨-, hcan, n, hsend, hwr⟩ | ⟨-, hcan, htcp, hwr⟩
  · exact hwait hwk
  · exact hwait hwk
  · -- there is space, so nobody was waiting, and the call does not wait either
    obtain ⟨m, tcp, hsome, hpos⟩ := hT.send_some s.tcp buf hcan hbuf
    rw [hsome] at hsend
    cases hsend
    rcases hwr.result with ⟨-, -, hkeep⟩ | ⟨hn, -⟩ | ⟨hn, -⟩
    · rw [hkeep] at hwk
      rw [(hwait hwk).1] at hcan
      cases hcan
    · omega
    · omega
  · rw [htcp]
    rcases hwr.result with ⟨hn, -⟩ | ⟨-, -, -, hkeep⟩ | ⟨-, hmay, -, -⟩
    · cases hn
    · rw [hkeep] at hwk
      exact hwait hwk
    · rw [htcp] at hmay
      exact ⟨hcan, hmay⟩

/-- A step that meets the condition keeps the writers' wake-ups in order. -/
lemma writerWaits_of_wakesWriter (hT : SendSide T) (ho : w.Owned) (hst : w.Stopped)
    (hw : w.WriterWaits) (hlen : nonEmptyWrite e = true) (hg : w.WakesWriter e)
    (h : Steps wire w e w') : w'.WriterWaits := by
  intro half s' hmem hrw hs' hwk
  rcases h.half_cases hmem hs' with ⟨hmem, hs⟩ | ⟨hmem, s, hs, hstep⟩ | ⟨tcp, rfl⟩
  · exact hw hmem hrw hs hwk
  · cases hstep with
    | read _ _ _ _ _ _ hr =>
      obtain ⟨hkeep, hcan, hmay⟩ := sendSide_of_read hT hr
      rw [hkeep] at hwk
      rw [hcan, hmay]
      exact hw hmem hrw hs hwk
    | write _ _ buf _ _ _ hwr =>
      exact waits_of_write hT (by simpa [nonEmptyWrite] using hlen) hwr (hw hmem hrw hs) hwk
    | close _ _ _ hid hcl =>
      rcases WriteHalf.pollCloseInner_cases hcl with ⟨-, -, rfl, -⟩ | ⟨hl, -, rfl, -⟩
      · exact hw hmem hrw hs hwk
      · rw [show s.writeReadiness.waker = none from hg s (hid ▸ hs) hl] at hwk
        cases hwk
    | @process p c _ _ queue reply ts ip repr hc hid hp =>
      rcases Connection.process_cases hp with ⟨-, rfl, -⟩ | ⟨hok, hproc⟩
      · exact hw hmem hrw hs hwk
      · obtain ⟨rfl, hdrop⟩ := ho.not_dropped hst hc hmem hid
        rw [hrw, RwStatus.dropped] at hdrop
        rw [hproc.writeWaker, hdrop] at hwk
        split at hwk
        · cases hwk
        · next hmay =>
          -- `process` wakes the writer only at the end, so the condition has to say the rest
          have hmay : TcpSocket.maySend s'.tcp = true := by simpa using hmay
          obtain ⟨socket, rw, conn⟩ := half
          obtain rfl : rw = .write := hrw
          subst hid
          have hno := hg c s hc hs hmem hwk hok
          rw [← hproc.tcp_eq] at hno
          exact ⟨by simpa [hmay] using hno, hmay⟩
    | dispatch hc hid hd =>
      obtain ⟨hdisp, -⟩ := Connection.dispatch_cases hd
      have hdrop := (ho.not_dropped hst hc hmem hid).2
      rw [hrw, RwStatus.dropped] at hdrop
      rw [hdisp.writeWaker, hdrop] at hwk
      split at hwk
      · cases hwk
      · next hcond =>
        simp only [Bool.not_false, Bool.true_and, Bool.or_eq_true, Bool.not_eq_true', not_or,
          Bool.not_eq_false, Bool.not_eq_true] at hcond
        exact ⟨hcond.2, hcond.1⟩
    | dropHalf hclosing hc hid hd =>
      obtain ⟨-, ⟨-, rfl, -⟩ | ⟨hmarked, -, -⟩⟩ := Connection.dropHalf_cases hd
      · exact hw hmem hrw hs hwk
      · -- the socket is closed only for a writer that is gone
        have halive := ho.not_marked hst hc hmem hid hclosing
        rw [hrw, RwStatus.dropped, hmarked] at halive
        cases halive
  · cases hwk

/-- Whether no writer waits where a packet or a close could end the wait. -/
def nobodyWaits (w : World T Q) (e : Event) : Bool :=
  match e with
  | .process p _ _ _ => (w.sockets p).all fun c => (w.shared c.socket).all fun s =>
    !s.writeReadiness.waker.isSome
  | .app (.close half _) => (w.shared half.conn).all fun s => !s.writeReadiness.waker.isSome
  | _ => true

lemma wakesWriter_of_nobodyWaits (h : w.nobodyWaits e = true) : w.WakesWriter e := by
  unfold WakesWriter
  split
  · intro c s hc hs _ hwk
    have hnone : s.writeReadiness.waker = none := by simpa [nobodyWaits, hc, hs] using h
    rw [hnone] at hwk
    cases hwk
  · intro s hs _
    simpa [nobodyWaits, hs] using h
  · trivial

end World

/-! ## Runs of the loop -/

namespace State

open World Transition

variable {T Q : Type} [TcpSocket T] [DelayQueue AddrPair Q] {wire : Wire} {clock : Clock}
  {hist : List (State T Q × Label)} {s : State T Q}

/-- **No reader misses its wake-up.** In every run whose reads have buffers that are not empty, a
reader that is alive and whose waker is registered has nothing to read, and more may come. -/
theorem reader_wakeups (hT : RecvSide T wire) (r : LoopRun wire clock hist s)
    (hlen : ∀ x ∈ events wire hist, nonEmptyRead x.2 = true) {half : Half} {sh : Shared T}
    (hmem : half ∈ s.world.halves) (hrw : half.rw = .read)
    (hs : s.world.shared half.conn = some sh)
    (hwk : sh.readReadiness.waker.isSome = true) :
    TcpSocket.canRecv sh.tcp = false ∧
      (TcpSocket.mayRecv sh.tcp = true ∨ TcpSocket.state sh.tcp = .synReceived) := by
  have hw : s.world.ReaderWaits :=
    LoopRun.invariant (I := ReaderWaits) (G := fun _ e => nonEmptyRead e = true)
      (fun _ _ hmem => nomatch hmem)
      (fun ho hst hw hg h => readerWaits_step hT ho hst hw hg h) r hlen
  obtain ⟨hrq, hopen⟩ := hw hmem hrw hs hwk
  refine ⟨canRecv_false hT hrq, hopen.imp_left fun hst => ?_⟩
  rw [hT.mayRecv_eq, hst, Bool.true_or]

/-- A reader that waits for the client to send. -/
theorem reader_wakeups_waiting :
    ∃ (s : Reference.Loop) (sh : Shared Reference.Socket),
      LoopReachable Reference.wire Reference.clock s ∧
      s.world.shared Reference.reader.conn = some sh ∧ sh.readReadiness.waker = some 7 ∧
      TcpSocket.canRecv sh.tcp = false ∧
      (TcpSocket.mayRecv sh.tcp = true ∨ TcpSocket.state sh.tcp = .synReceived) := by
  obtain ⟨hist, s, r, hs⟩ := Reference.run_of_check Reference.waitingReader
    (fun hist s => decide (Reference.reader ∈ s.world.halves) &&
      ((events Reference.wire hist).all fun x => nonEmptyRead x.2) &&
      (s.world.shared Reference.reader.conn).any fun sh => sh.readReadiness.waker == some 7)
    (by decide +kernel)
  simp only [Bool.and_eq_true, decide_eq_true_eq, List.all_eq_true, Option.any_eq_true,
    beq_iff_eq] at hs
  obtain ⟨⟨hmem, hlen⟩, sh, hsh, hwk⟩ := hs
  exact ⟨s, sh, r.reachable, hsh, hwk,
    reader_wakeups Reference.Socket.recvSide r hlen hmem rfl hsh (by simp [hwk])⟩

/-- **When no writer misses its wake-up.** In a run whose writes have buffers that are not empty,
a writer whose waker is registered never has space, and its direction is open, exactly when no
packet makes space for a writer that waits and no writer is closed that waits. -/
theorem writer_wakeups_iff (hT : SendSide T) (r : LoopRun wire clock hist s)
    (hlen : ∀ x ∈ events wire hist, nonEmptyWrite x.2 = true) :
    (∀ x ∈ visited hist s, ∀ half sh, half ∈ x.world.halves → half.rw = .write →
      x.world.shared half.conn = some sh → sh.writeReadiness.waker.isSome = true →
      TcpSocket.canSend sh.tcp = false ∧ TcpSocket.maySend sh.tcp = true) ↔
    ∀ x ∈ events wire hist, x.1.WakesWriter x.2 := by
  refine LoopRun.forall_visited_iff (P := WriterWaits) (G := WakesWriter)
    (H := fun _ e => nonEmptyWrite e = true) (fun _ _ hmem => nomatch hmem) ?_ r hlen
  intro w e w' ho hst hw hlen h
  exact ⟨fun hw' => wakesWriter_of_writerWaits hT hw' h,
    fun hg => writerWaits_of_wakesWriter hT ho hst hw hlen hg h⟩

/-- A writer that waits for space, which nothing has made yet. -/
theorem writer_wakeups_iff_full :
    ∃ (hist : List (Reference.Loop × Label)) (s : Reference.Loop)
      (sh : Shared Reference.Socket), LoopRun Reference.wire Reference.clock hist s ∧
      Reference.writer ∈ s.world.halves ∧
      s.world.shared Reference.writer.conn = some sh ∧ sh.writeReadiness.waker = some 5 ∧
      TcpSocket.canSend sh.tcp = false ∧ TcpSocket.maySend sh.tcp = true := by
  obtain ⟨hist, s, r, hs⟩ := Reference.run_of_check Reference.waitingWriter
    (fun hist s => decide (Reference.writer ∈ s.world.halves) &&
      ((events Reference.wire hist).all fun x => nonEmptyWrite x.2) &&
      ((events Reference.wire hist).all fun x => x.1.nobodyWaits x.2) &&
      (s.world.shared Reference.writer.conn).any fun sh => sh.writeReadiness.waker == some 5)
    (by decide +kernel)
  simp only [Bool.and_eq_true, decide_eq_true_eq, List.all_eq_true, Option.any_eq_true,
    beq_iff_eq] at hs
  obtain ⟨⟨⟨hmem, hlen⟩, hwait⟩, sh, hsh, hwk⟩ := hs
  have hall := (writer_wakeups_iff Reference.Socket.sendSide r hlen).mpr
    fun x hx => wakesWriter_of_nobodyWaits (hwait x hx)
  exact ⟨hist, s, sh, r, hmem, hsh, hwk,
    hall s List.mem_cons_self _ sh hmem rfl hsh (by simp [hwk])⟩

/-- The client acknowledges the segment that was sent: there is space, and the waker of the writer
is still registered. -/
theorem ack_leaves_writer_waiting :
    ∃ (hist : List (Reference.Loop × Label)) (s : Reference.Loop)
      (sh : Shared Reference.Socket), LoopRun Reference.wire Reference.clock hist s ∧
      (∀ x ∈ events Reference.wire hist, nonEmptyWrite x.2 = true) ∧
      Reference.writer ∈ s.world.halves ∧
      s.world.shared Reference.writer.conn = some sh ∧ sh.writeReadiness.waker = some 5 ∧
      TcpSocket.canSend sh.tcp = true ∧ TcpSocket.maySend sh.tcp = true := by
  obtain ⟨hist, s, r, hs⟩ := Reference.run_of_check
    (Reference.waitingWriter ++ [Reference.receive .none true []])
    (fun hist s => decide (Reference.writer ∈ s.world.halves) &&
      ((events Reference.wire hist).all fun x => nonEmptyWrite x.2) &&
      (s.world.shared Reference.writer.conn).any fun sh => sh.writeReadiness.waker == some 5 &&
        TcpSocket.canSend sh.tcp && TcpSocket.maySend sh.tcp) (by decide +kernel)
  simp only [Bool.and_eq_true, decide_eq_true_eq, List.all_eq_true, Option.any_eq_true,
    beq_iff_eq] at hs
  obtain ⟨⟨hmem, hlen⟩, sh, hsh, ⟨hwk, hcan⟩, hmay⟩ := hs
  exact ⟨hist, s, sh, r, hlen, hmem, hsh, hwk, hcan, hmay⟩

/-! ## Calls that have to wait -/

section

variable {sh : Shared T} {waker : Waker}

/-- With the lock and bytes to read, a read waits exactly if its buffer is empty. -/
lemma read_pending_iff (hT : Slices T) {len : ℕ} (hcan : TcpSocket.canRecv sh.tcp = true) :
    (ReadHalf.pollReadInner true sh waker len).1 = .pending ↔ len = 0 := by
  obtain ⟨available, bytes, tcp, hpos, hrecv, hlen, hmay⟩ := hT.recv sh.tcp len hcan
  generalize hr : ReadHalf.pollReadInner true sh waker len = r
  obtain ⟨r, sh'⟩ := r
  rcases ReadHalf.pollReadInner_cases hr with ⟨hl, -⟩ | ⟨-, -, b, bytes₁, tcp₁, h, rfl, -⟩ |
    ⟨-, -, e, h, -⟩ | ⟨-, -, tcp₁, h, hb⟩ | ⟨-, hno, -⟩
  · cases hl
  · rw [hrecv] at h
    cases h
    rw [List.length_cons] at hlen
    constructor
    · intro h
      cases h
    · intro h
      omega
  · rw [hrecv] at h
    cases h
  · rw [hrecv] at h
    cases h
    have hmin : len = 0 := by
      have hmin : min len available = 0 := by rw [← hlen]; rfl
      omega
    refine ⟨fun _ => hmin, fun _ => ?_⟩
    rcases hb.result with ⟨-, hp, -⟩ | ⟨hno, -⟩
    · exact hp
    · have hno : TcpSocket.mayRecv tcp = false := hno
      rw [hmay rfl] at hno
      cases hno
  · rw [hcan] at hno
    cases hno

/-- With the lock and space to fill, a write waits exactly if its buffer is empty. -/
lemma write_pending_iff (hT : Slices T) {handle : SocketHandle} {buf : List UInt8}
    (hcan : TcpSocket.canSend sh.tcp = true) :
    (WriteHalf.pollWriteInner true sh handle waker buf).1 = .pending ↔ buf = [] := by
  obtain ⟨space, n, tcp, hpos, hsend, hn, hmay⟩ := hT.send sh.tcp buf hcan
  generalize hr : WriteHalf.pollWriteInner true sh handle waker buf = r
  obtain ⟨r, sh', update⟩ := r
  rcases WriteHalf.pollWriteInner_cases hr with ⟨hl, -⟩ | ⟨-, -, e, h, -⟩ |
    ⟨-, -, m, h, hwr⟩ | ⟨-, hno, -⟩
  · cases hl
  · rw [hsend] at h
    cases h
  · rw [hsend, Except.ok.injEq, Prod.mk.injEq] at h
    obtain ⟨rfl, htcp⟩ := h
    have hnil : n = 0 ↔ buf = [] := by
      rw [← List.length_eq_zero_iff]
      omega
    rw [← hnil]
    rcases hwr.result with ⟨hpos', rfl, -⟩ | ⟨hzero, hno, -⟩ | ⟨hzero, -, hp, -⟩
    · constructor
      · intro h
        cases h
      · intro h
        omega
    · rw [← htcp, hmay hzero] at hno
      cases hno
    · exact ⟨fun _ => hzero, fun _ => hp⟩
  · rw [hcan] at hno
    cases hno

end

/-- **Pending only when blocked.** A read that gets the lock returns `Pending` only if there was
nothing to read, and a write only if there was no space, exactly if it is not a call with an empty
buffer while there are bytes, or space. -/
theorem pending_blocked_iff (hT : Slices T) (sh : Shared T) (handle : SocketHandle)
    (waker : Waker) (len : ℕ) (buf : List UInt8) :
    (((ReadHalf.pollReadInner true sh waker len).1 = .pending →
        TcpSocket.canRecv sh.tcp = false) ↔
      ¬ (TcpSocket.canRecv sh.tcp = true ∧ len = 0)) ∧
    (((WriteHalf.pollWriteInner true sh handle waker buf).1 = .pending →
        TcpSocket.canSend sh.tcp = false) ↔
      ¬ (TcpSocket.canSend sh.tcp = true ∧ buf = [])) := by
  constructor
  · cases hcan : TcpSocket.canRecv sh.tcp with
    | false => simp
    | true => simp [read_pending_iff hT hcan]
  · cases hcan : TcpSocket.canSend sh.tcp with
    | false => simp
    | true => simp [write_pending_iff hT hcan]

/-- A reader and a writer with buffers, after the client has sent a byte. -/
theorem pending_blocked_buffers :
    ∃ (s : Reference.Loop) (sh : Shared Reference.Socket),
      LoopReachable Reference.wire Reference.clock s ∧
      s.world.shared Reference.reader.conn = some sh ∧
      TcpSocket.canRecv sh.tcp = true ∧ TcpSocket.canSend sh.tcp = true ∧
      (ReadHalf.pollReadInner true sh 7 10).1 ≠ .pending ∧
      (WriteHalf.pollWriteInner true sh Reference.pair 7 [0]).1 ≠ .pending := by
  obtain ⟨hist, s, r, hs⟩ := Reference.run_of_check
    (Reference.handshake ++ [.turn, Reference.receive .psh true [1]])
    (fun _ s => (s.world.shared Reference.reader.conn).any fun sh =>
      TcpSocket.canRecv sh.tcp && TcpSocket.canSend sh.tcp) (by decide +kernel)
  simp only [Option.any_eq_true, Bool.and_eq_true] at hs
  obtain ⟨sh, hsh, hrecv, hsend⟩ := hs
  obtain ⟨hread, hwrite⟩ :=
    pending_blocked_iff Reference.Socket.slices sh Reference.pair 7 10 [0]
  refine ⟨s, sh, r.reachable, hsh, hrecv, hsend, fun hp => ?_, fun hp => ?_⟩
  · have hno := hread.mpr (fun h => nomatch h.2) hp
    rw [hrecv] at hno
    cases hno
  · have hno := hwrite.mpr (fun h => nomatch h.2) hp
    rw [hsend] at hno
    cases hno

/-- With an empty buffer the reader waits for bytes that are there, and the writer for space that
is there; both leave their wakers. -/
theorem empty_buffer_pending :
    ∃ (s : Reference.Loop) (sh : Shared Reference.Socket),
      LoopReachable Reference.wire Reference.clock s ∧
      s.world.shared Reference.reader.conn = some sh ∧
      TcpSocket.canRecv sh.tcp = true ∧ TcpSocket.canSend sh.tcp = true ∧
      (ReadHalf.pollReadInner true sh 7 0).1 = .pending ∧
      (ReadHalf.pollReadInner true sh 7 0).2.readReadiness.waker = some 7 ∧
      (WriteHalf.pollWriteInner true sh Reference.pair 7 []).1 = .pending ∧
      (WriteHalf.pollWriteInner true sh Reference.pair 7 []).2.1.writeReadiness.waker
        = some 7 := by
  obtain ⟨hist, s, r, hs⟩ := Reference.run_of_check
    (Reference.handshake ++ [.turn, Reference.receive .psh true [1]])
    (fun _ s => (s.world.shared Reference.reader.conn).any fun sh =>
      TcpSocket.canRecv sh.tcp && TcpSocket.canSend sh.tcp &&
        decide ((ReadHalf.pollReadInner true sh 7 0).1 = .pending) &&
        decide ((ReadHalf.pollReadInner true sh 7 0).2.readReadiness.waker = some 7) &&
        decide ((WriteHalf.pollWriteInner true sh Reference.pair 7 []).1 = .pending) &&
        decide ((WriteHalf.pollWriteInner true sh Reference.pair 7 []).2.1.writeReadiness.waker
          = some 7)) (by decide +kernel)
  simp only [Option.any_eq_true, Bool.and_eq_true, decide_eq_true_eq] at hs
  obtain ⟨sh, hsh, ⟨⟨⟨⟨hrecv, hsend⟩, hr⟩, hrw⟩, hw⟩, hww⟩ := hs
  exact ⟨s, sh, r.reachable, hsh, hrecv, hsend, hr, hrw, hw, hww⟩

end State
end Ustunet
