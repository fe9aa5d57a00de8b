import Ustunet.Ownership

/-!
# The end of a stream

What the halves tell the application about the end of a connection: a read that returns no bytes
or fails with `ConnectionAborted`, and a write that fails with it. A stream is handed over before
its SYN has been processed, so both may be called on a socket that still listens, or whose
handshake is not finished:

* `end_of_stream`: a read reports the end truthfully unless it finds the socket listening, and
  what it reported stays true, if no read has found the socket listening and no packet has brought
  bytes since;
* `write_abort_iff`: a write reports an abort truthfully exactly when it does not find the
  handshake in progress.
-/

namespace Ustunet

variable {T Q : Type} [TcpSocket T] [DelayQueue AddrPair Q] {wire : Wire}

/-! ## What the calls report -/

/-- A read with a buffer that is not empty reports the end exactly where nothing may come any
more and the handshake is not in progress. -/
lemma ReadHalf.pollReadInner_end_iff (hT : RecvSide T wire) (lock : Bool) (s : Shared T)
    (waker : Waker) {len : ℕ} (hlen : 0 < len) :
    ((pollReadInner lock s waker len).1 = .ready (.ok []) ∨
      (pollReadInner lock s waker len).1 = .ready (.error .connectionAborted)) ↔
    lock = true ∧ TcpSocket.mayRecv s.tcp = false ∧ TcpSocket.state s.tcp ≠ .synReceived := by
  generalize h : pollReadInner lock s waker len = x
  obtain ⟨r, s'⟩ := x
  have hmay : TcpSocket.canRecv s.tcp = true → TcpSocket.mayRecv s.tcp ≠ false := by
    rw [hT.canRecv_eq, Bool.and_eq_true, Bool.ne_false_iff]
    exact And.left
  rcases pollReadInner_cases h with ⟨rfl, rfl, -⟩ | ⟨-, hcan, _, _, _, -, rfl, -⟩ |
    ⟨-, hcan, _, -, rfl, -⟩ | ⟨-, hcan, tcp, hrecv, -⟩ | ⟨hl, -, hb⟩
  · simp
  · simp [hmay hcan]
  · simp [hmay hcan]
  · obtain ⟨b, bytes, tcp', hsome⟩ := hT.recv_some s.tcp len hcan hlen
    rw [hsome] at hrecv
    cases hrecv
  · rcases hb.result with ⟨hopen, rfl, -⟩ | ⟨hend, hsyn, rfl, -⟩
    · rcases hopen with hopen | hopen <;> simp [hopen]
    · cases s.eofReached <;> simp [hl, hend, hsyn]

/-- A write during the handshake fails. -/
lemma WriteHalf.pollWriteInner_handshake (hT : MaySend T) {s : Shared T}
    {handle : SocketHandle} {waker : Waker} {buf : List UInt8}
    (hstate : TcpSocket.state s.tcp = .listen ∨ TcpSocket.state s.tcp = .synReceived) :
    (pollWriteInner true s handle waker buf).1 = .ready (.error .connectionAborted) := by
  have hmay : TcpSocket.maySend s.tcp = false := by
    rw [hT.maySend_eq]
    rcases hstate with h | h <;> simp [h]
  have hcan : TcpSocket.canSend s.tcp = false := by
    by_contra h
    rw [hT.canSend_may _ (by simpa using h)] at hmay
    cases hmay
  simp [pollWriteInner, hcan, hmay]

namespace TcpState

/-- The states of a connection that has not ended; `fin` says whether the peer's FIN ends it. -/
def running (fin : Bool) (s : TcpState) : Bool :=
  match s with
  | .listen | .synReceived | .established => true
  | .closeWait => !fin
  | _ => false

/-- A packet that is no RST, and no FIN where that counts, does not end a connection. -/
lemma running_onPacket {fin : Bool} {control : TcpControl} (hrst : control ≠ .rst)
    (hfin : ¬ (fin = true ∧ control = .fin)) {s : TcpState} (hs : s.running fin = true) :
    ∀ s' ∈ s.onPacket control, s'.running fin = true := by
  cases fin <;> cases s <;> cases hs
  all_goals cases control <;> first | exact absurd rfl hrst | exact absurd ⟨rfl, rfl⟩ hfin | decide

/-- The end of the peer's direction is final: no packet leads out of it. -/
lemma over_onPacket {s : TcpState} (hs : s.over = true) (control : TcpControl) :
    ∀ s' ∈ s.onPacket control, s'.over = true := by
  cases s <;> cases hs
  all_goals cases control <;> decide

/-- Nor does `close`. -/
lemma over_afterClose {s : TcpState} (hs : s.over = true) : s.afterClose.over = true := by
  cases s <;> first | rfl | cases hs

/-- A socket that was opened by `listen` never gets to SYN-SENT. -/
lemma onPacket_ne_synSent {s : TcpState} (hs : s ≠ .synSent) (control : TcpControl) :
    ∀ s' ∈ s.onPacket control, s' ≠ .synSent := by
  cases s <;> first | exact absurd rfl hs | skip
  all_goals cases control <;> decide

lemma afterClose_ne_synSent (s : TcpState) : s.afterClose ≠ .synSent := by
  cases s <;> decide

end TcpState

namespace World

open Transition

variable {w w' : World T Q} {e : Event} {clock : Clock} {evs : List (World T Q × Event)}

/-! ## What ends a connection -/

/-- The event ends a connection: a RST of the peer is processed, or its FIN where that counts; the
writer is closed, or the loop is told that it is dropped; or `dispatch` aborts it. -/
def EndedBy (wire : Wire) (fin : Bool) (w : World T Q) (e : Event) (id : ConnId) : Prop :=
  match e with
  | .process p _ ip repr => ∃ c s, w.sockets p = some c ∧ c.socket = id ∧
    w.shared id = some s ∧ checkAcceptability s.tcp ip repr = .ok () ∧
      (repr.control = .rst ∨ (fin = true ∧ repr.control = .fin))
  | .app (.close half lock) => half.conn = id ∧ lock = true
  | .dropHalf half => ∃ c, w.sockets half.socket = some c ∧ c.socket = id ∧
    (c.marked half.rw).inner.writerDropped = true
  | .dispatch p => ∃ c s, w.sockets p = some c ∧ c.socket = id ∧ w.shared id = some s ∧
    TcpSocket.state s.tcp ≠ .closed ∧
      TcpSocket.state (TcpSocket.dispatchTo wire s.tcp (w.clock.timestamp w.now)).2.2 = .closed
  | _ => False

/-- A connection has ended in the past. -/
def Ended (wire : Wire) (fin : Bool) (evs : List (World T Q × Event)) (id : ConnId) : Prop :=
  ∃ x ∈ evs, EndedBy wire fin x.1 x.2 id

/-- Whether an event is of a kind that can end a connection. -/
def canEnd (e : Event) : Bool :=
  match e with
  | .process _ _ _ repr => repr.control == .rst || repr.control == .fin
  | .app (.close _ _) | .dropHalf _ | .dispatch _ => true
  | _ => false

lemma EndedBy.canEnd {fin : Bool} {id : ConnId} (h : EndedBy wire fin w e id) :
    canEnd e = true := by
  cases e with
  | process p ts ip repr =>
    obtain ⟨-, -, -, -, -, -, hctl | ⟨-, hctl⟩⟩ := h <;> simp [World.canEnd, hctl]
  | app a => cases a <;> first | rfl | cases h
  | dropHalf | dispatch => rfl
  | _ => cases h

lemma not_ended {fin : Bool} {id : ConnId} (h : ∀ x ∈ evs, canEnd x.2 = false) :
    ¬ Ended wire fin evs id := by
  rintro ⟨x, hx, hend⟩
  have := h x hx
  rw [hend.canEnd] at this
  cases this

lemma running_step (hk : SlicesKeepState T) (hT : Transitions T wire) {fin : Bool} {id : ConnId}
    {s s' : Shared T} (hs : w.shared id = some s)
    (hrun : (TcpSocket.state s.tcp).running fin = true) (h : SharedStep wire w id e s s') :
    EndedBy wire fin w e id ∨ (TcpSocket.state s'.tcp).running fin = true := by
  cases h with
  | read _ _ _ _ _ _ hr =>
    rw [ReadHalf.pollReadInner_state hk hr]
    exact Or.inr hrun
  | write _ _ _ _ _ _ hwr =>
    rw [WriteHalf.pollWriteInner_state hk hwr]
    exact Or.inr hrun
  | close _ _ _ hid hcl =>
    rcases WriteHalf.pollCloseInner_cases hcl with ⟨-, -, rfl, -⟩ | ⟨hl, -⟩
    · exact Or.inr hrun
    · exact Or.inl ⟨hid, hl⟩
  | process ts ip repr hc hid hp =>
    rcases Connection.process_cases hp with ⟨-, rfl, -⟩ | ⟨hok, hproc⟩
    · exact Or.inr hrun
    · -- only a RST, or a FIN where that counts, leads out of the running states
      by_cases hend : repr.control = .rst ∨ (fin = true ∧ repr.control = .fin)
      · exact Or.inl ⟨_, s, hc, hid, hs, hok, hend⟩
      · rw [not_or] at hend
        rw [hproc.tcp_eq]
        exact Or.inr (TcpState.running_onPacket hend.1 hend.2 hrun _ (hT.process _ _ _ _))
  | dispatch hc hid hd =>
    obtain ⟨hdisp, -⟩ := Connection.dispatch_cases hd
    rw [hdisp.tcp_eq]
    rcases hT.dispatch s.tcp (w.clock.timestamp w.now) with hsame | hclosed
    · rw [hsame]
      exact Or.inr hrun
    · -- the socket was not closed before: that is no running state
      refine Or.inl ⟨_, s, hc, hid, hs, ?_, hclosed⟩
      intro he
      rw [he] at hrun
      cases hrun
  | dropHalf _ hc hid hd =>
    obtain ⟨-, ⟨-, rfl, -⟩ | ⟨hmarked, -⟩⟩ := Connection.dropHalf_cases hd
    · exact Or.inr hrun
    · exact Or.inl ⟨_, hc, hid, hmarked⟩

/-- A connection has ended, or it is in a state it had to go through. -/
theorem ended_or_running (hk : SlicesKeepState T) (ho : OpensListening T)
    (hT : Transitions T wire) (fin : Bool) (r : Run (step wire) (init clock) evs w) {id : ConnId}
    {s : Shared T} (hs : w.shared id = some s) :
    Ended wire fin evs id ∨ (TcpSocket.state s.tcp).running fin = true := by
  -- by induction on the run: an end in the past stays in the past, and a running state is kept
  -- by every step that is not an end
  induction r generalizing id s with
  | start => cases hs
  | next _ h ih =>
    rcases (steps_of_step h).shared_cases hs with hs | ⟨s₀, hs₀, hstep⟩ |
      ⟨-, pair, tcp, -, hopen, rfl⟩
    · exact (ih hs).imp_left fun ⟨x, hx, hend⟩ => ⟨x, List.mem_cons_of_mem _ hx, hend⟩
    · rcases ih hs₀ with ⟨x, hx, hend⟩ | hrun
      · exact Or.inl ⟨x, List.mem_cons_of_mem _ hx, hend⟩
      · exact (running_step hk hT hs₀ hrun hstep).imp_left fun hend =>
          ⟨_, List.mem_cons_self, hend⟩
    · refine Or.inr ?_
      rw [show (Shared.new tcp).tcp = tcp from rfl, ho _ _ hopen]
      rfl

/-! ## The end that a reader was told of -/

/-- No read of the connection gets the lock while its socket listens. -/
def readsOpened (w : World T Q) (id : ConnId) (e : Event) : Bool :=
  match e with
  | .app (.read half lock _ _) => half.conn != id || (w.shared id).all fun s =>
    !lock || TcpSocket.state s.tcp != .listen
  | _ => true

/-- No packet that is processed on the connection, once its reader was told of the end, leaves bytes
to read. -/
def bringsNothing (w : World T Q) (id : ConnId) (e : Event) : Bool :=
  match e with
  | .process pair ts ipRepr tcpRepr => (w.sockets pair).all fun c =>
    c.socket != id || (w.shared id).all fun s =>
      !s.eofReached || !(checkAcceptability s.tcp ipRepr tcpRepr).isOk ||
        TcpSocket.recvQueue (TcpSocket.process s.tcp ts ipRepr tcpRepr).2 == 0
  | _ => true

/-- The peer has ended its direction, and all it sent was read. -/
def Drained (tcp : T) : Prop :=
  (TcpSocket.state tcp).over = true ∧ TcpSocket.recvQueue tcp = 0

/-- A reader that was told of the end has nothing to expect. -/
def EofFinal (w : World T Q) (id : ConnId) : Prop :=
  ∀ ⦃s⦄, w.shared id = some s → TcpSocket.state s.tcp ≠ .synSent ∧
    (s.eofReached = true → Drained s.tcp)

omit [DelayQueue AddrPair Q] in
/-- Where nothing may come any more, the direction is over or was never open. -/
lemma drained_of_mayRecv (hT : RecvSide T wire) {tcp : T} (hmay : TcpSocket.mayRecv tcp = false)
    (hlisten : TcpSocket.state tcp ≠ .listen) (hsent : TcpSocket.state tcp ≠ .synSent)
    (hreceived : TcpSocket.state tcp ≠ .synReceived) : Drained tcp := by
  rw [hT.mayRecv_eq, Bool.or_eq_false_iff, decide_eq_false_iff_not] at hmay
  refine ⟨?_, by omega⟩
  have hno := hmay.1
  cases hst : TcpSocket.state tcp <;> simp_all [TcpState.receives, TcpState.over]

omit [DelayQueue AddrPair Q] in
/-- A read finds nothing there, and leaves the socket alone. -/
lemma Drained.read (hT : RecvSide T wire) {s s' : Shared T} (h : Drained s.tcp) {lock : Bool}
    {waker : Waker} {len : ℕ} {r : Poll (Except IoError (List UInt8))}
    (hr : ReadHalf.pollReadInner lock s waker len = (r, s')) : s'.tcp = s.tcp := by
  refine ReadHalf.pollReadInner_tcp hr fun hcan => ?_
  have hcan := hcan.2
  rw [hT.canRecv_eq, h.2] at hcan
  simp at hcan

omit [DelayQueue AddrPair Q] in
lemma Drained.close (hT : RecvSide T wire) {tcp : T} (h : Drained tcp) :
    Drained (TcpSocket.close tcp) := by
  refine ⟨?_, (hT.close_recv tcp).trans h.2⟩
  rw [hT.close_state]
  exact TcpState.over_afterClose h.1

omit [DelayQueue AddrPair Q] in
lemma Drained.dispatch (hR : RecvSide T wire) (hT : Transitions T wire) {tcp : T}
    (h : Drained tcp) (ts : SmolInstant) : Drained (TcpSocket.dispatchTo wire tcp ts).2.2 := by
  refine ⟨?_, hR.dispatch_recv tcp ts h.2⟩
  rcases hT.dispatch tcp ts with hst | hst
  · rw [hst]
    exact h.1
  · rw [hst]
    rfl

lemma eofFinal_step (hR : RecvSide T wire) (hk : SlicesKeepState T) (ho : OpensListening T)
    (hT : Transitions T wire) {id : ConnId} (hw : w.EofFinal id)
    (hreads : w.readsOpened id e = true) (hpackets : w.bringsNothing id e = true)
    (h : Steps wire w e w') : w'.EofFinal id := by
  intro s' hs'
  rcases h.shared_cases hs' with hs | ⟨s, hs, hstep⟩ | ⟨-, pair, tcp, -, hopen, rfl⟩
  · exact hw hs
  · obtain ⟨hsent, heof⟩ := hw hs
    cases hstep with
    | read lock waker len _ _ hid hr =>
      have hstate := ReadHalf.pollReadInner_state hk hr
      rw [← hstate] at hsent
      refine ⟨hsent, fun he => ?_⟩
      rcases ReadHalf.pollReadInner_eof hr with ⟨hkeep, -⟩ | ⟨hl, hmay, hsyn, -, -⟩
      · have hdrained := heof (hkeep ▸ he)
        rw [hdrained.read hR hr]
        exact hdrained
      · -- this read sets the flag; it has not found the socket listening
        have hlisten : TcpSocket.state s.tcp ≠ .listen := by
          simpa [readsOpened, hid, hs, hl] using hreads
        rw [← hstate] at hlisten
        exact drained_of_mayRecv hR hmay hlisten hsent hsyn
    | write _ _ _ _ _ _ hwr =>
      obtain ⟨hstate, hqueue⟩ := WriteHalf.pollWriteInner_keeps hR hwr
      unfold Drained
      rw [hstate, hqueue, WriteHalf.pollWriteInner_eof hwr]
      exact ⟨hsent, heof⟩
    | close _ _ _ _ hcl =>
      rcases WriteHalf.pollCloseInner_cases hcl with ⟨-, -, rfl, -⟩ | ⟨-, -, rfl, -⟩
      · exact ⟨hsent, heof⟩
      · refine ⟨?_, fun he => (heof he).close hR⟩
        rw [hR.close_state]
        exact TcpState.afterClose_ne_synSent _
    | process ts ip repr hc hid hp =>
      rcases Connection.process_cases hp with ⟨-, rfl, -⟩ | ⟨hok, hproc⟩
      · exact ⟨hsent, heof⟩
      · have hmove := hT.process s.tcp ts ip repr
        rw [hproc.tcp_eq, hproc.eof]
        refine ⟨TcpState.onPacket_ne_synSent hsent _ _ hmove, fun he => ?_⟩
        -- the end was told before the packet came
        exact ⟨TcpState.over_onPacket (heof he).1 _ _ hmove, by
          simpa [bringsNothing, hc, hid, hs, he, hok, Except.isOk, Except.toBool] using hpackets⟩
    | dispatch _ _ hd =>
      obtain ⟨hdisp, -⟩ := Connection.dispatch_cases hd
      rw [hdisp.tcp_eq, hdisp.eof]
      refine ⟨?_, fun he => (heof he).dispatch hR hT _⟩
      rcases hT.dispatch s.tcp (w.clock.timestamp w.now) with hst | hst
      · rw [hst]
        exact hsent
      · rw [hst]
        decide
    | dropHalf _ _ _ hd =>
      obtain ⟨-, ⟨-, rfl, -⟩ | ⟨-, rfl, -⟩⟩ := Connection.dropHalf_cases hd
      · exact ⟨hsent, heof⟩
      · refine ⟨?_, fun he => (heof he).close hR⟩
        rw [hR.close_state]
        exact TcpState.afterClose_ne_synSent _
  · rw [show (Shared.new tcp).tcp = tcp from rfl, ho _ _ hopen]
    refine ⟨by decide, fun he => ?_⟩
    cases he

/-- The call of a reader that returns no bytes. -/
def readEof (w : World T Q) (e : Event) (half : Half) : Bool :=
  match e with
  | .app (.read h lock waker len) => h == half && (w.shared half.conn).any fun s =>
    (ReadHalf.pollReadInner lock s waker len).1 = .ready (.ok [])
  | _ => false

lemma Steps.nextConn_le (h : Steps wire w e w') : w.nextConn ≤ w'.nextConn := by
  cases h <;> first | exact le_rfl | exact Nat.le_succ _

/-- What is shared belongs to a connection that was made. -/
def Numbered (w : World T Q) : Prop :=
  ∀ ⦃id s⦄, w.shared id = some s → id < w.nextConn

lemma numbered_step (hw : w.Numbered) (h : Steps wire w e w') : w'.Numbered := by
  intro id s' hs'
  rcases h.shared_cases hs' with hs | ⟨s, hs, -⟩ | ⟨rfl, pair, tcp, rfl, -⟩
  · exact (hw hs).trans_le h.nextConn_le
  · exact (hw hs).trans_le h.nextConn_le
  · cases h with
    | create => exact Nat.lt_succ_self _

/-- No step clears the flag. -/
lemma SharedStep.eofReached {id : ConnId} {s s' : Shared T} (h : SharedStep wire w id e s s')
    (hs : s.eofReached = true) : s'.eofReached = true := by
  cases h with
  | read _ _ _ _ _ _ hr =>
    rcases ReadHalf.pollReadInner_eof hr with ⟨hkeep, -⟩ | ⟨-, -, -, -, he⟩
    · exact hkeep.trans hs
    · exact he
  | write _ _ _ _ _ _ hwr => exact (WriteHalf.pollWriteInner_eof hwr).trans hs
  | close _ _ _ _ hcl =>
    rcases WriteHalf.pollCloseInner_cases hcl with ⟨-, -, rfl, -⟩ | ⟨-, -, rfl, -⟩ <;> exact hs
  | process _ _ _ _ _ hp =>
    rcases Connection.process_cases hp with ⟨-, rfl, -⟩ | ⟨-, hproc⟩
    · exact hs
    · exact hproc.eof.trans hs
  | dispatch _ _ hd => exact (Connection.dispatch_cases hd).1.eof.trans hs
  | dropHalf _ _ _ hd =>
    obtain ⟨-, ⟨-, rfl, -⟩ | ⟨-, rfl, -⟩⟩ := Connection.dropHalf_cases hd <;> exact hs

/-- A read that returned no bytes has left its mark. -/
theorem eofReached_of_readEof (r : Run (step wire) (init clock) evs w) {half : Half}
    (h : ∃ x ∈ evs, readEof x.1 x.2 half = true) :
    half.conn < w.nextConn ∧ ∀ s, w.shared half.conn = some s → s.eofReached = true := by
  induction r with
  | start =>
    obtain ⟨x, hx, -⟩ := h
    cases hx
  | @next evs w w' e r hstep ih =>
    have hsteps := steps_of_step hstep
    obtain ⟨x, hx, heof⟩ := h
    rcases List.mem_cons.mp hx with rfl | hx
    · -- the read is the last step
      cases hsteps with
      | @read h s₀ lock waker len _ _ _ hs₀ =>
        simp only [readEof, Bool.and_eq_true, beq_iff_eq, Option.any_eq_true,
          decide_eq_true_eq] at heof
        obtain ⟨rfl, s, hs, hres⟩ := heof
        have hnum : w.Numbered :=
          r.reachable.invariant (fun _ _ h => nomatch h)
            fun hw h => numbered_step hw (steps_of_step h)
        refine ⟨hnum hs, fun s' hs' => ?_⟩
        obtain rfl := Option.some.inj (hs.symm.trans hs₀)
        change (w.setShared _ _).shared _ = some s' at hs'
        rw [shared_setShared, if_pos rfl] at hs'
        obtain rfl := Option.some.inj hs'
        generalize hr : ReadHalf.pollReadInner lock s waker len = res at hres
        rcases ReadHalf.pollReadInner_eof hr with ⟨-, hno, -⟩ | ⟨-, -, -, -, he⟩
        · exact absurd hres hno
        · exact he
      | _ => cases heof
    · -- the flag was set before, and a new connection has another number
      obtain ⟨hlt, hold⟩ := ih ⟨x, hx, heof⟩
      refine ⟨hlt.trans_le hsteps.nextConn_le, fun s' hs' => ?_⟩
      rcases hsteps.shared_cases hs' with hs | ⟨s, hs, hstep⟩ | ⟨hn, -⟩
      · exact hold s' hs
      · exact hstep.eofReached (hold s hs)
      · exact absurd hn hlt.ne

end World

/-! ## Runs of the loop -/

namespace State

open World Transition

variable {clock : Clock} {hist : List (State T Q × Label)} {s : State T Q}

/-- **The end that a reader is told of.** At any moment of any run, a read with a buffer that is
not empty reports the end only after a FIN or RST of the peer, a close or an abort, exactly when
it does not find the socket listening, with nothing to read, before any of these. And once a read
has returned no bytes, all later ones that get the lock fail, if no read of the connection has found
the socket listening and no packet has brought it bytes since. -/
theorem end_of_stream (hR : RecvSide T wire) (hk : SlicesKeepState T) (ho : OpensListening T)
    (hT : Transitions T wire) (r : LoopRun wire clock hist s) {half : Half} {sh : Shared T}
    (hs : s.world.shared half.conn = some sh) (lock : Bool) (waker : Waker) {len : ℕ}
    (hlen : 0 < len) :
    (((ReadHalf.pollReadInner lock sh waker len).1 = .ready (.ok []) ∨
        (ReadHalf.pollReadInner lock sh waker len).1 = .ready (.error .connectionAborted) →
        Ended wire true (events wire hist) half.conn) ↔
      (lock = true → TcpSocket.state sh.tcp = .listen → TcpSocket.mayRecv sh.tcp = false →
        Ended wire true (events wire hist) half.conn)) ∧
    ((∀ x ∈ events wire hist, x.1.readsOpened half.conn x.2 = true) →
      (∀ x ∈ events wire hist, x.1.bringsNothing half.conn x.2 = true) →
      (∃ x ∈ events wire hist, x.1.readEof x.2 half = true) →
      (((ReadHalf.pollReadInner lock sh waker len).1 ≠ .pending ∧
        ∀ bytes, (ReadHalf.pollReadInner lock sh waker len).1 = .ready (.ok bytes) →
          bytes = []) ↔ lock = true)) := by
  have hend := ReadHalf.pollReadInner_end_iff hR lock sh waker hlen
  constructor
  · rw [hend]
    constructor
    · intro htrue hl hlisten hmay
      exact htrue ⟨hl, hmay, by simp [hlisten]⟩
    · rintro hcond ⟨hl, hmay, hsyn⟩
      refine (ended_or_running hk ho hT true (LoopRun.world r) hs).elim id fun hrun => ?_
      -- a connection that has not ended is listening, or receives
      refine hcond hl ?_ hmay
      rw [hR.mayRecv_eq, Bool.or_eq_false_iff] at hmay
      cases hst : TcpSocket.state sh.tcp <;> simp_all [TcpState.running, TcpState.receives]
  · intro hreads hpackets heof
    have hfinal : s.world.EofFinal half.conn :=
      LoopRun.invariant (I := fun w => w.EofFinal half.conn)
        (G := fun w e => w.readsOpened half.conn e = true ∧ w.bringsNothing half.conn e = true)
        (fun _ h => by cases h)
        (fun _ _ hw hg h => eofFinal_step hR hk ho hT hw hg.1 hg.2 h) r
        fun x hx => ⟨hreads x hx, hpackets x hx⟩
    -- the flag is set, so the peer has ended its direction and the buffer is empty
    have htold := (eofReached_of_readEof (LoopRun.world r) heof).2 sh hs
    obtain ⟨hover, hzero⟩ := (hfinal hs).2 htold
    have hno : TcpSocket.mayRecv sh.tcp = false ∧ TcpSocket.state sh.tcp ≠ .synReceived := by
      rw [hR.mayRecv_eq, hzero]
      cases hst : TcpSocket.state sh.tcp <;> simp_all [TcpState.over, TcpState.receives]
    constructor
    · rintro ⟨hready, -⟩
      by_contra hl
      rw [Bool.not_eq_true] at hl
      exact hready (by rw [hl]; rfl)
    · intro hl
      rcases hend.mpr ⟨hl, hno⟩ with h | h <;> simp [h]

/-- The client ends its direction, and the reader is told so: the next read fails. -/
theorem end_of_stream_fin :
    ∃ (hist : List (Reference.Loop × Label)) (s : Reference.Loop)
      (sh : Shared Reference.Socket), LoopRun Reference.wire Reference.clock hist s ∧
      s.world.shared Reference.reader.conn = some sh ∧
      (ReadHalf.pollReadInner true sh 0 1).1 = .ready (.error .connectionAborted) ∧
      Ended Reference.wire true (events Reference.wire hist) Reference.reader.conn ∧
      (∃ x ∈ events Reference.wire hist, x.1.readEof x.2 Reference.reader = true) ∧
      (ReadHalf.pollReadInner true sh 0 1).1 ≠ .pending ∧
      ∀ bytes, (ReadHalf.pollReadInner true sh 0 1).1 = .ready (.ok bytes) → bytes = [] := by
  obtain ⟨hist, s, r, hs⟩ := Reference.run_of_check
    (Reference.handshake ++ [.turn, Reference.receive .fin true [],
      .app (.read Reference.reader true 0 1)])
    (fun hist s =>
      ((events Reference.wire hist).any fun x => x.1.readEof x.2 Reference.reader) &&
      ((events Reference.wire hist).all fun x =>
        x.1.readsOpened Reference.reader.conn x.2 && x.1.bringsNothing Reference.reader.conn x.2) &&
      (s.world.shared Reference.reader.conn).any fun sh => TcpSocket.state sh.tcp ≠ .listen &&
        (ReadHalf.pollReadInner true sh 0 1).1 = .ready (.error .connectionAborted))
    (by decide +kernel)
  simp only [Bool.and_eq_true, List.any_eq_true, List.all_eq_true, Option.any_eq_true,
    decide_eq_true_eq] at hs
  obtain ⟨⟨heof, hall⟩, sh, hsh, hlisten, hres⟩ := hs
  have hend := end_of_stream Reference.Socket.recvSide Reference.Socket.slicesKeepState
    Reference.Socket.opensListening Reference.Socket.transitions r hsh true 0 Nat.one_pos
  exact ⟨hist, s, sh, r, hsh, hres, hend.1.mpr (fun _ h => absurd h hlisten) (Or.inr hres), heof,
    (hend.2 (fun x hx => (hall x hx).1) (fun x hx => (hall x hx).2) heof).mpr rfl⟩

/-- The application reads from a stream before its SYN is processed: it is told of an end that has
not come, and once the SYN is processed, the reader waits for data. In another run the client ends
its direction, the reader is told so, and the client sends a byte all the same: the next read
returns it. -/
theorem end_of_stream_reversed :
    (∃ (hist : List (Reference.Loop × Label)) (s : Reference.Loop)
      (sh : Shared Reference.Socket), LoopRun Reference.wire Reference.clock hist s ∧
      Reference.reader ∈ s.world.halves ∧ s.world.accepted Reference.reader.conn = true ∧
      s.world.shared Reference.reader.conn = some sh ∧
      (ReadHalf.pollReadInner true sh 0 1).1 = .ready (.ok []) ∧
      ¬ Ended Reference.wire true (events Reference.wire hist) Reference.reader.conn) ∧
    (∃ (hist : List (Reference.Loop × Label)) (s : Reference.Loop)
      (sh : Shared Reference.Socket), LoopRun Reference.wire Reference.clock hist s ∧
      (∃ x ∈ events Reference.wire hist, x.1.readEof x.2 Reference.reader = true) ∧
      s.world.shared Reference.reader.conn = some sh ∧
      (ReadHalf.pollReadInner true sh 0 1).1 = .pending) ∧
    ∃ (hist : List (Reference.Loop × Label)) (s : Reference.Loop)
      (sh : Shared Reference.Socket), LoopRun Reference.wire Reference.clock hist s ∧
      (∃ x ∈ events Reference.wire hist, x.1.readEof x.2 Reference.reader = true) ∧
      (∀ x ∈ events Reference.wire hist, x.1.readsOpened Reference.reader.conn x.2 = true) ∧
      s.world.shared Reference.reader.conn = some sh ∧
      (ReadHalf.pollReadInner true sh 0 1).1 = .ready (.ok [1]) := by
  refine ⟨?_, ?_, ?_⟩
  · obtain ⟨hist, s, r, hs⟩ := Reference.run_of_check Reference.accept
      (fun hist s => decide (Reference.reader ∈ s.world.halves) &&
        s.world.accepted Reference.reader.conn &&
        ((events Reference.wire hist).all fun x => !canEnd x.2) &&
        (s.world.shared Reference.reader.conn).any fun sh =>
          (ReadHalf.pollReadInner true sh 0 1).1 = .ready (.ok [])) (by decide +kernel)
    simp only [Bool.and_eq_true, decide_eq_true_eq, List.all_eq_true, Bool.not_eq_true',
      Option.any_eq_true] at hs
    obtain ⟨⟨⟨hmem, hacc⟩, hno⟩, sh, hsh, hres⟩ := hs
    exact ⟨hist, s, sh, r, hmem, hacc, hsh, hres, not_ended hno⟩
  · obtain ⟨hist, s, r, hs⟩ := Reference.run_of_check
      (Reference.accept ++ [.app (.read Reference.reader true 0 1), .resume, .resume])
      (fun hist s =>
        ((events Reference.wire hist).any fun x => x.1.readEof x.2 Reference.reader) &&
        (s.world.shared Reference.reader.conn).any fun sh =>
          (ReadHalf.pollReadInner true sh 0 1).1 = .pending) (by decide +kernel)
    simp only [Bool.and_eq_true, List.any_eq_true, Option.any_eq_true, decide_eq_true_eq] at hs
    obtain ⟨heof, sh, hsh, hres⟩ := hs
    exact ⟨hist, s, sh, r, heof, hsh, hres⟩
  · obtain ⟨hist, s, r, hs⟩ := Reference.run_of_check
      (Reference.handshake ++ [.turn, Reference.receive .fin true [],
        .app (.read Reference.reader true 0 1), .turn, Reference.receive .psh true [1]])
      (fun hist s =>
        ((events Reference.wire hist).any fun x => x.1.readEof x.2 Reference.reader) &&
        ((events Reference.wire hist).all fun x => x.1.readsOpened Reference.reader.conn x.2) &&
        (s.world.shared Reference.reader.conn).any fun sh =>
          (ReadHalf.pollReadInner true sh 0 1).1 = .ready (.ok [1])) (by decide +kernel)
    simp only [Bool.and_eq_true, List.any_eq_true, List.all_eq_true, Option.any_eq_true,
      decide_eq_true_eq] at hs
    obtain ⟨⟨heof, hreads⟩, sh, hsh, hres⟩ := hs
    exact ⟨hist, s, sh, r, heof, hreads, hsh, hres⟩

/-- **When a write reports an abort truthfully.** At any moment of any run, a write fails with
`ConnectionAborted` only after a RST of the peer, a close or an abort, and waits while the
handshake is in progress, exactly when it does not get the lock during the handshake. -/
theorem write_abort_iff (hk : SlicesKeepState T) (ho : OpensListening T) (hT : Transitions T wire)
    (hm : MaySend T) (r : LoopRun wire clock hist s) {half : Half} {sh : Shared T}
    (hs : s.world.shared half.conn = some sh) (lock : Bool) (waker : Waker) (buf : List UInt8) :
    (((WriteHalf.pollWriteInner lock sh half.socket waker buf).1
          = .ready (.error .connectionAborted) →
        Ended wire false (events wire hist) half.conn) ∧
      (TcpSocket.state sh.tcp = .listen ∨ TcpSocket.state sh.tcp = .synReceived →
        (WriteHalf.pollWriteInner lock sh half.socket waker buf).1 = .pending)) ↔
      ¬ (lock = true ∧
        (TcpSocket.state sh.tcp = .listen ∨ TcpSocket.state sh.tcp = .synReceived)) := by
  constructor
  · rintro ⟨-, hpending⟩ ⟨rfl, hstate⟩
    have hres := hpending hstate
    rw [WriteHalf.pollWriteInner_handshake hm hstate] at hres
    cases hres
  · intro hno
    generalize hw : WriteHalf.pollWriteInner lock sh half.socket waker buf = x
    obtain ⟨res, sh', update⟩ := x
    constructor
    · intro hab
      -- the socket may not send, and its state is not one of the handshake
      obtain ⟨hl, hmay⟩ := WriteHalf.pollWriteInner_aborted hw hab
      have hno : ¬ (TcpSocket.state sh.tcp = .listen ∨ TcpSocket.state sh.tcp = .synReceived) :=
        fun h => hno ⟨hl, h⟩
      rw [hm.maySend_eq, WriteHalf.pollWriteInner_state hk hw] at hmay
      refine (ended_or_running hk ho hT false (LoopRun.world r) hs).resolve_right fun hrun => ?_
      cases hst : TcpSocket.state sh.tcp <;> simp_all [TcpState.running]
    · intro hstate
      have hl : lock = false := by
        by_contra h
        exact hno ⟨by simpa using h, hstate⟩
      subst hl
      cases hw
      rfl

/-- A writer that was closed: the next write fails, and the connection has ended. -/
theorem write_abort_iff_closed :
    ∃ (hist : List (Reference.Loop × Label)) (s : Reference.Loop)
      (sh : Shared Reference.Socket), LoopRun Reference.wire Reference.clock hist s ∧
      s.world.shared Reference.writer.conn = some sh ∧
      (WriteHalf.pollWriteInner true sh Reference.writer.socket 0 [0]).1
        = .ready (.error .connectionAborted) ∧
      Ended Reference.wire false (events Reference.wire hist) Reference.writer.conn := by
  obtain ⟨hist, s, r, hs⟩ := Reference.run_of_check
    (Reference.handshake ++ [.app (.close Reference.writer true)])
    (fun _ s => (s.world.shared Reference.writer.conn).any fun sh =>
      TcpSocket.state sh.tcp = .finWait1 &&
        (WriteHalf.pollWriteInner true sh Reference.writer.socket 0 [0]).1
          = .ready (.error .connectionAborted)) (by decide +kernel)
  simp only [Option.any_eq_true, Bool.and_eq_true, decide_eq_true_eq] at hs
  obtain ⟨sh, hsh, hstate, hres⟩ := hs
  have hiff := write_abort_iff Reference.Socket.slicesKeepState Reference.Socket.opensListening
    Reference.Socket.transitions Reference.Socket.maySend_states r hsh true 0 [0]
  exact ⟨hist, s, sh, r, hsh, hres, (hiff.mpr (by simp [hstate])).1 hres⟩

/-- The application writes to a stream whose handshake is not finished, and the write fails. -/
theorem handshake_write_aborts :
    ∃ (hist : List (Reference.Loop × Label)) (s : Reference.Loop)
      (sh : Shared Reference.Socket), LoopRun Reference.wire Reference.clock hist s ∧
      Reference.writer ∈ s.world.halves ∧ s.world.accepted Reference.writer.conn = true ∧
      s.world.shared Reference.writer.conn = some sh ∧
      TcpSocket.state sh.tcp = .synReceived ∧
      (WriteHalf.pollWriteInner true sh Reference.writer.socket 0 [0]).1
        = .ready (.error .connectionAborted) ∧
      ¬ Ended Reference.wire false (events Reference.wire hist) Reference.writer.conn := by
  obtain ⟨hist, s, r, hs⟩ := Reference.run_of_check Reference.connect
    (fun hist s => decide (Reference.writer ∈ s.world.halves) &&
      s.world.accepted Reference.writer.conn &&
      ((events Reference.wire hist).all fun x => !canEnd x.2) &&
      (s.world.shared Reference.writer.conn).any fun sh =>
        TcpSocket.state sh.tcp = .synReceived &&
          (WriteHalf.pollWriteInner true sh Reference.writer.socket 0 [0]).1
            = .ready (.error .connectionAborted)) (by decide +kernel)
  simp only [Bool.and_eq_true, decide_eq_true_eq, List.all_eq_true, Bool.not_eq_true',
    Option.any_eq_true] at hs
  obtain ⟨⟨⟨hmem, hacc⟩, hno⟩, sh, hsh, hstate, hres⟩ := hs
  exact ⟨hist, s, sh, r, hmem, hacc, hsh, hstate, hres, not_ended hno⟩

end State
end Ustunet
