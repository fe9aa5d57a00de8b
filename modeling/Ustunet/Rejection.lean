import Ustunet.Demultiplexing
import Ustunet.EndOfStream
import Ustunet.LoopInvariant

/-!
# Packets that no socket takes

`Interface::process` can fail before the packet has come to `TcpSocket::process`. It should then
leave no trace. It does, but for one case: `create_syn` hands a stream over and puts its connection
in the pool before the SYN is processed, so the application can close the stream in between, and
the SYN finds a closed socket. `rejection_untraced_iff`: a call that fails so leaves no trace
exactly if the application has not done this.
-/

namespace Ustunet

variable {T Q : Type} [TcpSocket T] [DelayQueue AddrPair Q]

/-- Whether a step closes the writer of a connection. -/
def Label.closes (id : ConnId) : Label → Bool
  | .app (.close half lock) => lock && half.conn == id
  | _ => false

namespace World

/-- Whether `TcpSocket::process` runs in an event. -/
def givesPacket (w : World T Q) : Event → Bool
  | .process pair _ ipRepr tcpRepr =>
    (w.sockets pair).any fun c =>
      (w.shared c.socket).any fun sh => (checkAcceptability sh.tcp ipRepr tcpRepr).isOk
  | _ => false

variable {wire : Wire} {w w' : World T Q}

lemma givesPacket_process {pair : AddrPair} {c : Connection} {sh : Shared T}
    (hc : w.sockets pair = some c) (hs : w.shared c.socket = some sh) (ts : SmolInstant)
    (ip : IpRepr) (tcp : TcpRepr) :
    w.givesPacket (.process pair ts ip tcp) = (checkAcceptability sh.tcp ip tcp).isOk := by
  simp [givesPacket, hc, hs]

/-- A packet that is refused changes neither the pool nor the queue. -/
lemma refused_frame {pair : AddrPair} {ts : SmolInstant} {ip : IpRepr} {tcp : TcpRepr}
    (h : Steps wire w (.process pair ts ip tcp) w')
    (hno : w.givesPacket (.process pair ts ip tcp) = false) :
    w'.sockets = w.sockets ∧ w'.queue = w.queue := by
  cases h with
  | process _ _ _ hc hs hp =>
    rcases Connection.process_cases hp with ⟨-, -, rfl⟩ | ⟨hok, -⟩
    · exact ⟨rfl, rfl⟩
    · rw [givesPacket_process hc hs, hok] at hno
      cases hno

/-- Whether the accept channel takes the stream or refuses it, the connection is the same. -/
lemma handed_frame (h : w.step wire (if w.listening then .handOver else .refuse) = .ok w')
    (p : AddrPair) : w'.connOf p = w.connOf p ∧ w'.shared = w.shared := by
  cases hlist : w.listening with
  | true =>
    rw [hlist] at h
    cases steps_of_step h with
    | handOver hcr =>
      refine ⟨connOf_handed hcr ?_ ?_ p, rfl⟩ <;> rfl
  | false =>
    rw [hlist] at h
    cases steps_of_step h with
    | refuse hcr =>
      refine ⟨connOf_handed hcr ?_ ?_ p, rfl⟩ <;> rfl

/-- What the application does to a socket that listens or is closed: only a `close` matters. -/
lemma state_app (hk : SlicesKeepState T) (hm : CloseMoves T) {a : Action}
    (h : Steps wire w (.app a) w') {id : ConnId} {sh sh' : Shared T}
    (hs : w.shared id = some sh) (hs' : w'.shared id = some sh')
    (hfresh : TcpSocket.state sh.tcp = .listen ∨ TcpSocket.state sh.tcp = .closed) :
    TcpSocket.state sh'.tcp
      = if Label.closes id (.app a) then .closed else TcpSocket.state sh.tcp := by
  -- an action that leaves what is shared alone
  have keep : w'.shared = w.shared → TcpSocket.state sh'.tcp = TcpSocket.state sh.tcp := by
    intro he
    rw [he, hs] at hs'
    rw [Option.some.inj hs']
  -- an action on one half
  have set : ∀ {i s₀ s₁}, w.shared i = some s₀ → w'.shared = (w.setShared i s₁).shared →
      (i = id → TcpSocket.state s₁.tcp = TcpSocket.state s₀.tcp) →
      TcpSocket.state sh'.tcp = TcpSocket.state sh.tcp := by
    intro i s₀ s₁ hs₀ hset hstate
    rw [hset, shared_setShared] at hs'
    split at hs'
    · next he =>
      subst he
      rw [hs] at hs₀
      rw [← Option.some.inj hs', hstate rfl, Option.some.inj hs₀]
    · rw [hs] at hs'
      rw [Option.some.inj hs']
  cases h with
  | accept | closeListener | drop => exact keep rfl
  | read lock waker len _ _ _ hs₀ =>
    exact set hs₀ rfl fun _ => ReadHalf.pollReadInner_state hk rfl
  | write lock waker buf _ _ _ hs₀ hw =>
    exact set hs₀ rfl fun _ => WriteHalf.pollWriteInner_state hk hw
  | @close half s₀ s₁ update r lock _ _ _ hs₀ hw =>
    by_cases hid : half.conn = id
    · subst hid
      have hs' : (w.setShared half.conn s₁).shared half.conn = some sh' := hs'
      rw [shared_setShared, if_pos rfl] at hs'
      rw [hs] at hs₀
      obtain rfl := Option.some.inj hs'
      obtain rfl := Option.some.inj hs₀
      rcases WriteHalf.pollCloseInner_cases hw with ⟨rfl, -, rfl, -⟩ | ⟨rfl, -, htcp, -⟩
      · simp [Label.closes]
      · have hclosed : (TcpSocket.state sh.tcp).afterClose = .closed := by
          rcases hfresh with hl | hl <;> rw [hl] <;> rfl
        rw [htcp]
        simp [Label.closes, hm sh.tcp, hclosed]
    · rw [set hs₀ rfl fun he => absurd he hid]
      simp [Label.closes, hid]

end World

namespace State

open World Transition

/-! ## A call -/

/-- Whether `TcpSocket::process` runs in a step. -/
def socketRuns (wire : Wire) (y : State T Q × Label) : Bool :=
  (y.1.event wire y.2).any y.1.world.givesPacket

/-- A call of `Interface::process`, as far as it has come: the steps since the selector returned
the packet, latest first, with those of the application and of the clock among them. The call has
returned when the loop is at its head again. -/
inductive Call (wire : Wire) (s : State T Q) : List (State T Q × Label) → State T Q → Prop
  | read {dev : Device} {packet : List UInt8} {x : State T Q} (hr : s.Reads dev packet)
      (h : s.step wire (.poll dev) = .ok x) : Call wire s [(s, .poll dev)] x
  | next {steps : List (State T Q × Label)} {x x' : State T Q} {l : Label}
      (h : Call wire s steps x) (hpc : x.pc ≠ .top) (hl : x.step wire l = .ok x') :
      Call wire s ((x, l) :: steps) x'

/-- The step in which a call returns an error. -/
inductive Fails (wire : Wire) (s : State T Q) : Label → Prop
  | ignored {dev : Device} {packet : List UInt8} {e : Error} (hr : s.Reads dev packet)
      (h : Ignores wire s.world packet (.error e)) : Fails wire s (.poll dev)
  | known {dev : Device} {packet : List UInt8} {a : Arrival} {e : Error} {world : World T Q}
      (hr : s.Reads dev packet) (hp : parse wire packet = .ok (some (a.ipRepr, a.tcpRepr)))
      (ha : arrival s.world a.ipRepr a.tcpRepr = .ok a)
      (h : s.world.process a.pair a.timestamp a.ipRepr a.tcpRepr = .ok (.error e, world)) :
      Fails wire s (.poll dev)
  | processed {a : Arrival} {e : Error} {world : World T Q} (hpc : s.pc = .processing a)
      (h : s.world.process a.pair a.timestamp a.ipRepr a.tcpRepr = .ok (.error e, world)) :
      Fails wire s .resume

/-- The call has returned an error, and no socket has processed a packet. -/
structure Rejected (wire : Wire) (steps : List (State T Q × Label)) : Prop where
  fails : ∃ y, steps.head? = some y ∧ y.1.Fails wire y.2
  quiet : ∀ y ∈ steps, socketRuns wire y = false

/-- The pool, with the flags of its connections, and the queue are as they were, and no stream was
sent to the accept channel. -/
structure Untraced (wire : Wire) (s : State T Q) (steps : List (State T Q × Label))
    (s' : State T Q) : Prop where
  sockets : s'.world.sockets = s.world.sockets
  queue : s'.world.queue = s.world.queue
  streams : ∀ y ∈ steps, y.1.event wire y.2 ≠ some .handOver

/-- `create_syn` is at work for the packet: the new connection has the next number, and its socket
listens until the application closes it. -/
structure Opening (wire : Wire) (s : State T Q) (a : Arrival)
    (steps : List (State T Q × Label)) (x : State T Q) : Prop where
  pc : x.pc = .sending a ∨ x.pc = .inserting a ∨ x.pc = .processing a
  free : s.world.sockets a.pair = none
  noAck : a.tcpRepr.ackNumber.isSome = false
  conn : x.world.connOf a.pair = some s.world.nextConn
  state : ∀ sh, x.world.shared s.world.nextConn = some sh → TcpSocket.state sh.tcp
    = if steps.any fun y => y.2.closes s.world.nextConn then .closed else .listen
  quiet : ∀ y ∈ steps, socketRuns wire y = false

variable {wire : Wire} {clock : Clock} {s x x' : State T Q}
  {steps : List (State T Q × Label)} {a : Arrival} {l : Label}

omit [TcpSocket T] in
/-- A SYN that is not refused at once has no ACK. -/
lemma arrival_noAck {w : World T Q} {ip : IpRepr} {tcp : TcpRepr} (h : arrival w ip tcp = .ok a)
    (hsyn : a.tcpRepr.control = .syn) : a.tcpRepr.ackNumber.isSome = false := by
  obtain ⟨rfl, rfl⟩ := arrival_packet h
  obtain ⟨src, -, h⟩ := bind_ok h
  obtain ⟨dst, -, h⟩ := bind_ok h
  dsimp only at h
  by_contra hack
  rw [if_pos ⟨hsyn, eq_true_of_ne_false hack⟩] at h
  cases h

lemma socketRuns_of_event {e : Event} (he : x.event wire l = some e) :
    socketRuns wire (x, l) = x.world.givesPacket e := by
  unfold socketRuns
  rw [he]
  rfl

/-- A step that neither closes the socket nor gives it a packet, and leaves what it shares. -/
lemma Opening.quietly (h : Opening wire s a steps x)
    (hpc : x'.pc = .sending a ∨ x'.pc = .inserting a ∨ x'.pc = .processing a)
    (hconn : x'.world.connOf a.pair = x.world.connOf a.pair)
    (hshared : x'.world.shared = x.world.shared)
    (hcloses : l.closes s.world.nextConn = false) (hruns : socketRuns wire (x, l) = false) :
    Opening wire s a ((x, l) :: steps) x' where
  pc := hpc
  free := h.free
  noAck := h.noAck
  conn := hconn.trans h.conn
  state sh hsh := by
    rw [hshared] at hsh
    rw [List.any_cons, hcloses, Bool.false_or]
    exact h.state sh hsh
  quiet y hy := by
    rcases List.mem_cons.mp hy with rfl | hy
    · exact hruns
    · exact h.quiet y hy

/-- The application's part of a call. -/
lemma Opening.app (hk : SlicesKeepState T) (hm : CloseMoves T) (h : Opening wire s a steps x)
    {act : Action} {world : World T Q} (ho : x.world.Owned)
    (hstep : Steps wire x.world (.app act) world) :
    Opening wire s a ((x, .app act) :: steps) { x with world } where
  pc := h.pc
  free := h.free
  noAck := h.noAck
  conn := by
    obtain ⟨hs, hcr, -⟩ := hstep.app_frame
    show world.connOf a.pair = _
    rw [← h.conn]
    unfold connOf
    rw [hs, hcr]
  state sh' hsh' := by
    obtain ⟨sh, hsh⟩ := Option.isSome_iff_exists.mp (ho.live (ho.fresh h.conn))
    have hstate := h.state sh hsh
    have hfresh : TcpSocket.state sh.tcp = .listen ∨ TcpSocket.state sh.tcp = .closed := by
      rw [hstate]
      split
      · exact Or.inr rfl
      · exact Or.inl rfl
    rw [state_app hk hm hstep hsh hsh' hfresh, List.any_cons]
    cases hc : Label.closes s.world.nextConn (.app act) with
    | true => rfl
    | false => exact hstate
  quiet y hy := by
    rcases List.mem_cons.mp hy with rfl | hy
    · rfl
    · exact h.quiet y hy

/-- `create_syn` is at work for one packet. -/
lemma Opening.arrival_eq (h : Opening wire s a steps x) {b : Arrival}
    (hb : x.pc = .sending b ∨ x.pc = .inserting b ∨ x.pc = .processing b) : b = a := by
  rcases h.pc with hpc | hpc | hpc <;> rw [hpc] at hb <;> rcases hb with hb | hb | hb <;> cases hb
  all_goals rfl

/-- `create_syn` goes on, comes to the SYN, or panics. -/
lemma Opening.step (hk : SlicesKeepState T) (hm : CloseMoves T) (h : Opening wire s a steps x)
    (ho : x.world.Owned) (hl : LoopSteps wire x l x') :
    Opening wire s a ((x, l) :: steps) x' ∨ (x.pc = .processing a ∧ l = .resume) ∨
      x'.pc = .halted := by
  have notTop : x.pc ≠ .top := by
    rcases h.pc with hpc | hpc | hpc <;> rw [hpc] <;> exact nofun
  have notSelect : x.pc ≠ .select := by
    rcases h.pc with hpc | hpc | hpc <;> rw [hpc] <;> exact nofun
  cases hl with
  | elapse nanos => exact Or.inl (h.quietly h.pc rfl rfl rfl rfl)
  | app hact => exact Or.inl (h.app hk hm ho (steps_of_act hact))
  | busy hpc | write hpc | rest hpc => exact absurd hpc notTop
  | wait hpc | expire hpc | written hpc | failed hpc | close hpc | update hpc =>
    exact absurd hpc notSelect
  | ignored hr | known hr | create hr => exact absurd hr.pc notSelect
  | @sent b world hpc hw =>
    obtain rfl := h.arrival_eq (Or.inl hpc)
    obtain ⟨hconn, hshared⟩ := handed_frame hw b.pair
    refine Or.inl (h.quietly (Or.inr (Or.inl rfl)) hconn hshared rfl ?_)
    rw [socketRuns_of_event (event_sending hpc)]
    cases x.world.listening <;> rfl
  | @inserted b world hpc hw =>
    obtain rfl := h.arrival_eq (Or.inr (Or.inl hpc))
    cases steps_of_step hw with
    | insert hcr hpair =>
      refine Or.inl (h.quietly (Or.inr (Or.inr rfl)) (connOf_insert hcr hpair _) rfl rfl ?_)
      rw [socketRuns_of_event (event_inserting hpc)]
      rfl
  | @processed b _ _ hpc =>
    obtain rfl := h.arrival_eq (Or.inr (Or.inr hpc))
    exact Or.inr (Or.inl ⟨hpc, rfl⟩)
  | panicked => exact Or.inr (Or.inr rfl)

/-- A call that has returned at once: it does not close anything, and leaves no trace if no socket
has processed the packet. -/
structure Brief (wire : Wire) (s : State T Q) (steps : List (State T Q × Label))
    (x : State T Q) : Prop where
  pc : x.pc = .top
  closes : ∀ y ∈ steps, ∀ id, y.2.closes id = false
  streams : ∀ y ∈ steps, y.1.event wire y.2 ≠ some .handOver
  untraced : (∀ y ∈ steps, socketRuns wire y = false) → Untraced wire s steps x

omit [TcpSocket T] in
lemma poll_closes (s : State T Q) (dev : Device) :
    ∀ y ∈ [(s, Label.poll dev)], ∀ id, y.2.closes id = false := by
  intro y hy id
  rw [List.mem_singleton.mp hy]
  rfl

/-- The first step of a call. -/
lemma Call.begin (hO : OpensListening T) {dev : Device} {packet : List UInt8}
    (hcons : s.Consistent) (hr : s.Reads dev packet) (hl : LoopSteps wire s (.poll dev) x) :
    Brief wire s [(s, .poll dev)] x ∨ ∃ a, Opening wire s a [(s, .poll dev)] x := by
  -- the selector returned the bytes
  have bytes : ∀ {r : Poll IoSelected}, s.selects dev = r → r = .ready (.b (.ok packet)) :=
    fun h => h.symm.trans hr.bytes
  cases hl with
  | wait _ hsel | expire _ hsel | written _ _ hsel | close _ hsel | update _ hsel =>
    exact nomatch bytes hsel
  | failed _ hsel =>
    rcases hsel with ⟨_, hsel⟩ | hsel
    · exact nomatch bytes hsel
    · exact nomatch bytes hsel
  | ignored hr h =>
    have streams : ∀ y ∈ [(s, Label.poll dev)], y.1.event wire y.2 ≠ some .handOver := by
      intro y hy
      rw [List.mem_singleton.mp hy, event_ignored hr h]
      exact nofun
    exact Or.inl ⟨rfl, poll_closes s dev, streams, fun _ => ⟨rfl, rfl, streams⟩⟩
  | known hr hp ha hc h =>
    have hev := event_known hr hp ha hc
    have streams : ∀ y ∈ [(s, Label.poll dev)], y.1.event wire y.2 ≠ some .handOver := by
      intro y hy
      rw [List.mem_singleton.mp hy, hev]
      exact nofun
    refine Or.inl ⟨rfl, poll_closes s dev, streams, fun hquiet => ?_⟩
    have hno := hquiet _ (List.mem_singleton.mpr rfl)
    rw [socketRuns_of_event hev] at hno
    have hstep : Steps wire s.world _ _ := process_ok h
    obtain ⟨hs, hq⟩ := refused_frame hstep hno
    exact ⟨hs, hq, streams⟩
  | @create _ _ a world hr hp ha hc hsyn h =>
    have hev := event_create hr hp ha hc hsyn h
    obtain ⟨hcr, hrun⟩ := hcons.idle (Or.inr hr.pc)
    have hstep : Steps wire s.world (.create a.pair) world := create_ok hc hcr hrun h
    cases hstep with
    | @create _ tcp _ _ _ hopen =>
      refine Or.inr ⟨a, Or.inl rfl, hc, arrival_noAck ha hsyn, ?_, ?_, ?_⟩
      · simp [connOf, setShared, hc]
      · intro sh hsh
        have hsh : (s.world.setShared s.world.nextConn (.new tcp)).shared s.world.nextConn
            = some sh := hsh
        rw [shared_setShared, if_pos rfl] at hsh
        obtain rfl := Option.some.inj hsh
        exact hO _ _ hopen
      · intro y hy
        rw [List.mem_singleton.mp hy, socketRuns_of_event hev]
        rfl

/-- How far a call has come. -/
lemma Call.progress (hk : SlicesKeepState T) (hm : CloseMoves T) (hO : OpensListening T)
    (h : LoopReachable wire clock s) (hcall : Call wire s steps x) :
    LoopReachable wire clock x ∧ (Brief wire s steps x ∨ (∃ a, Opening wire s a steps x) ∨
      (∃ a y steps', steps = (y, .resume) :: steps' ∧ LoopReachable wire clock y ∧
        Opening wire s a steps' y ∧ y.pc = .processing a ∧ y.step wire .resume = .ok x) ∨
      x.pc = .halted) := by
  induction hcall with
  | read hr hl =>
    refine ⟨h.after hl, ?_⟩
    rcases Call.begin hO (LoopReachable.consistent h) hr (steps_of_loop hl) with hb | ho
    · exact Or.inl hb
    · exact Or.inr (Or.inl ho)
  | @next steps x x' l _ hpc hl ih =>
    obtain ⟨hx, hb | ⟨a, ho⟩ | ⟨a, y, steps', -, -, -, hy, hstep⟩ | hhalted⟩ := ih
    · exact absurd hb.pc hpc
    · refine ⟨hx.after hl, Or.inr ?_⟩
      rcases ho.step hk hm (LoopReachable.owned hx).1 (steps_of_loop hl) with
        ho' | ⟨hproc, rfl⟩ | hhalted
      · exact Or.inl ⟨a, ho'⟩
      · exact Or.inr (Or.inl ⟨a, x, steps, rfl, hx, ho, hproc, hl⟩)
      · exact Or.inr (Or.inr hhalted)
    · -- the call has returned
      refine absurd ?_ hpc
      cases steps_of_loop hstep with
      | sent hpc' | inserted hpc' => rw [hy] at hpc'; cases hpc'
      | processed => rfl
    · have hhalted' := halted_step hhalted (steps_of_loop hl)
      exact ⟨hx.after hl, Or.inr (Or.inr (Or.inr hhalted'))⟩

/-- The SYN comes to its connection, whose socket takes it exactly if it is not closed. -/
lemma Opening.syn_iff {listenAddress : T → IpAddress} (hE : Endpoints T wire listenAddress)
    (hx : LoopReachable wire clock x) (h : Opening wire s a steps x) (hpc : x.pc = .processing a) :
    ∃ c sh, x.world.sockets a.pair = some c ∧ x.world.shared c.socket = some sh ∧
      ((∃ e, checkAcceptability sh.tcp a.ipRepr a.tcpRepr = .error e) ↔
        ∃ y ∈ steps, y.2.closes s.world.nextConn = true) := by
  have ho := (LoopReachable.owned hx).1
  have hcons := LoopReachable.consistent hx
  have hroutes := LoopReachable.carries hx
  unfold Consistent at hcons
  unfold Carries at hroutes
  rw [hpc] at hcons hroutes
  obtain ⟨c, hc, hid⟩ := sockets_of_connOf hcons.1 h.conn
  obtain ⟨sh, hsh⟩ := Option.isSome_iff_exists.mp (ho.live (ho.fresh h.conn))
  refine ⟨c, sh, hc, hid ▸ hsh, ?_⟩
  rw [(LoopReachable.demultiplexed hE hx h.conn hsh).refuses_iff hroutes, h.noAck,
    h.state sh hsh, ← List.any_eq_true]
  cases steps.any fun y => y.2.closes s.world.nextConn <;> simp

/-- The call returns an error when the new socket refuses the SYN, and the pool stays. -/
lemma refused_processing {c : Connection} {sh : Shared T} {e : Error}
    (hpc : x.pc = .processing a) (hc : x.world.sockets a.pair = some c)
    (hsh : x.world.shared c.socket = some sh)
    (hcheck : checkAcceptability sh.tcp a.ipRepr a.tcpRepr = .error e)
    (h : x.step wire .resume = .ok x') :
    x.Fails wire .resume ∧ x'.world.sockets = x.world.sockets := by
  have hproc : x.world.process a.pair a.timestamp a.ipRepr a.tcpRepr
      = .ok (.error e, { x.world.setShared c.socket sh with queue := x.world.queue }) := by
    unfold World.process Connection.process
    rw [hc]
    dsimp only
    rw [hsh]
    dsimp only
    rw [hcheck]
  refine ⟨.processed hpc hproc, ?_⟩
  cases steps_of_loop h with
  | sent hpc' | inserted hpc' =>
    rw [hpc] at hpc'
    cases hpc'
  | processed hpc' _ hp =>
    rw [hpc] at hpc'
    cases hpc'
    rw [hproc] at hp
    cases hp
    rfl

/-- **When a rejected packet leaves no trace.** For every call of `Interface::process` from every
reachable state, with whatever the application does meanwhile: if the call returns an error and no
socket has processed the packet, the pool, its flags, the queue and the streams sent are as they
were, and if a stream was sent, the new socket has processed its SYN, exactly if the application
has not closed the new stream before the call returned. -/
theorem rejection_untraced_iff {listenAddress : T → IpAddress} (hk : SlicesKeepState T)
    (hm : CloseMoves T) (hO : OpensListening T) (hE : Endpoints T wire listenAddress)
    (h : LoopReachable wire clock s) (hcall : Call wire s steps x) (hend : x.pc = .top) :
    ((Rejected wire steps → Untraced wire s steps x) ∧
      ((∃ y ∈ steps, y.1.event wire y.2 = some .handOver) →
        ∃ y ∈ steps, socketRuns wire y = true)) ↔
    ∀ y ∈ steps, y.2.closes s.world.nextConn = false := by
  obtain ⟨-, hb | ⟨a, ho⟩ | ⟨a, y, steps', rfl, hy, ho, hpc, hstep⟩ | hhalted⟩ :=
    hcall.progress hk hm hO h
  · refine iff_of_true ⟨fun hr => hb.untraced hr.quiet, ?_⟩ fun y hy => hb.closes y hy _
    rintro ⟨y, hy, hev⟩
    exact absurd hev (hb.streams y hy)
  · rcases ho.pc with hpc | hpc | hpc <;> rw [hpc] at hend <;> cases hend
  · obtain ⟨c, sh, hc, hsh, hiff⟩ := ho.syn_iff hE hy hpc
    have hruns : socketRuns wire (y, .resume)
        = (checkAcceptability sh.tcp a.ipRepr a.tcpRepr).isOk := by
      rw [socketRuns_of_event (event_processing hpc), givesPacket_process hc hsh]
    cases hcheck : checkAcceptability sh.tcp a.ipRepr a.tcpRepr with
    | ok u =>
      rw [hcheck] at hruns hiff
      -- the socket has processed the SYN
      refine iff_of_true ⟨fun hr => ?_, fun _ => ⟨_, List.mem_cons_self, hruns⟩⟩ ?_
      · rw [hr.quiet _ List.mem_cons_self] at hruns
        cases hruns
      · intro z hz
        rcases List.mem_cons.mp hz with rfl | hz
        · rfl
        · by_contra hne
          obtain ⟨e, he⟩ := hiff.mpr ⟨z, hz, eq_true_of_ne_false hne⟩
          cases he
    | error e =>
      rw [hcheck] at hruns hiff
      -- the application has closed the stream, and the connection is in the pool
      obtain ⟨z, hz, hclose⟩ := hiff.mp ⟨e, rfl⟩
      refine iff_of_false (fun hall => ?_) fun hall => ?_
      · obtain ⟨hfails, hsockets⟩ := refused_processing hpc hc hsh hcheck hstep
        have hrejected : Rejected wire ((y, .resume) :: steps') := by
          refine ⟨⟨_, rfl, hfails⟩, fun z hz => ?_⟩
          rcases List.mem_cons.mp hz with rfl | hz
          · exact hruns
          · exact ho.quiet z hz
        have hpool : s.world.sockets a.pair = some c := by
          rw [← (hall.1 hrejected).sockets, hsockets]
          exact hc
        rw [ho.free] at hpool
        cases hpool
      · rw [hall z (List.mem_cons_of_mem _ hz)] at hclose
        cases hclose
  · rw [hhalted] at hend
    cases hend

omit [TcpSocket T] in
/-- A packet that the device has read is returned by the selector if no write is done. -/
lemma reads_of_device (hpc : s.pc = .select) (hb : s.selector.b = some ⟨⟩)
    (packet : List UInt8) : s.Reads ⟨none, some (.ok packet)⟩ packet := by
  refine ⟨hpc, hb, ?_⟩
  unfold selects Selector.poll
  rw [hb]
  cases s.selector.a <;> rfl

/-- Whether a call goes on with the labels and then has the given property. -/
def goesOn (wire : Wire) (f : List (State T Q × Label) → State T Q → Bool) :
    List (State T Q × Label) → State T Q → List Label → Bool
  | steps, x, [] => f steps x
  | steps, x, l :: ls =>
    decide (x.pc ≠ .top) &&
      match x.step wire l with
      | .ok x' => goesOn wire f ((x, l) :: steps) x' ls
      | .error _ => false

lemma Call.of_goesOn {f : List (State T Q × Label) → State T Q → Bool} {ls : List Label}
    (h : Call wire s steps x) (hf : goesOn wire f steps x ls = true) :
    ∃ steps' x', Call wire s steps' x' ∧ f steps' x' = true := by
  induction ls generalizing steps x with
  | nil => exact ⟨steps, x, h, hf⟩
  | cons l ls ih =>
    rw [goesOn, Bool.and_eq_true, decide_eq_true_eq] at hf
    obtain ⟨hpc, hf⟩ := hf
    cases hl : x.step wire l with
    | error e =>
      rw [hl] at hf
      cases hf
    | ok x' =>
      rw [hl] at hf
      exact ih (h.next hpc hl) hf

/-- Whether the next step is one in which the new socket refuses the SYN. -/
def refusesSyn (s : State T Q) : Bool :=
  match s.pc with
  | .processing a =>
    match s.world.process a.pair a.timestamp a.ipRepr a.tcpRepr with
    | .ok (.error _, _) => true
    | _ => false
  | _ => false

lemma fails_of_refusesSyn (h : s.refusesSyn = true) : s.Fails wire .resume := by
  unfold refusesSyn at h
  split at h
  · next a hpc =>
    split at h
    · next e world hp => exact .processed hpc hp
    · cases h
  · cases h

/-- An ACK from an unknown client is rejected, and nothing changes. -/
theorem rejection_untraced_unknown :
    ∃ (s x : Reference.Loop) (steps : List (Reference.Loop × Label)),
      LoopReachable Reference.wire Reference.clock s ∧ Call Reference.wire s steps x ∧
      Rejected Reference.wire steps ∧ Untraced Reference.wire s steps x := by
  obtain ⟨hist, s, r, hs⟩ := Reference.run_of_check [.turn]
    (fun _ s => decide (s.pc = .select) && decide (s.selector.b = some ⟨⟩) &&
      (s.world.sockets Reference.pair).isNone &&
      !socketRuns Reference.wire (s, Reference.receive .none true []) &&
      Reference.stepsTo s (Reference.receive .none true []) fun x => decide (x.pc = .top))
    (by decide +kernel)
  simp only [Bool.and_eq_true, decide_eq_true_eq, Option.isNone_iff_eq_none,
    Bool.not_eq_true'] at hs
  obtain ⟨⟨⟨⟨hpc, hb⟩, hnone⟩, hquiet⟩, hto⟩ := hs
  obtain ⟨x, hstep, htop⟩ := Reference.step_of_stepsTo hto
  have hr := reads_of_device hpc hb (Reference.fromClient .none true [])
  have hcall : Call Reference.wire s _ x := .read hr hstep
  have hignores : Ignores Reference.wire s.world (Reference.fromClient .none true [])
      (.error .dropped) :=
    .unknown (a := ⟨Reference.pair, s.world.clock.timestamp s.world.now, _, _⟩) rfl rfl hnone nofun
  have hrejected : Rejected Reference.wire [(s, Reference.receive .none true [])] := by
    refine ⟨⟨_, rfl, .ignored hr hignores⟩, fun y hy => ?_⟩
    rw [List.mem_singleton.mp hy]
    exact hquiet
  have hiff := rejection_untraced_iff Reference.Socket.slicesKeepState Reference.Socket.closeMoves
    Reference.Socket.opensListening Reference.Socket.endpoints r.reachable hcall
    (of_decide_eq_true htop)
  refine ⟨s, x, _, r.reachable, hcall, hrejected, (hiff.mpr fun y hy => ?_).1 hrejected⟩
  exact poll_closes s _ y hy _

/-- Whether a call has returned an error for a SYN that no socket has processed, with the connection
in the pool and its stream sent. -/
def tracedSyn (steps : List (Reference.Loop × Label)) (x : Reference.Loop) : Bool :=
  decide (x.pc = .top) &&
    (steps.head?.any fun y : Reference.Loop × Label => y.1.refusesSyn && decide (y.2 = .resume)) &&
    (steps.all fun y => !socketRuns Reference.wire y) &&
    (x.world.sockets Reference.pair).isSome &&
    steps.any fun y => decide (y.1.event Reference.wire y.2 = some .handOver)

/-- The application takes the new stream and closes it while `create_syn` is on its way to the pool.
The SYN is rejected by the closed socket, and the connection stays. -/
theorem closed_syn_traced :
    ∃ (s x : Reference.Loop) (steps : List (Reference.Loop × Label)),
      LoopReachable Reference.wire Reference.clock s ∧ Call Reference.wire s steps x ∧
      x.pc = .top ∧ Rejected Reference.wire steps ∧ ¬ Untraced Reference.wire s steps x ∧
      s.world.sockets Reference.pair = none ∧
      (x.world.sockets Reference.pair).isSome = true ∧
      ∃ y ∈ steps, y.1.event Reference.wire y.2 = some .handOver := by
  obtain ⟨hist, s, r, hs⟩ := Reference.run_of_check [.turn]
    (fun _ s => decide (s.pc = .select) && decide (s.selector.b = some ⟨⟩) &&
      (s.world.sockets Reference.pair).isNone &&
      Reference.stepsTo s (Reference.receive .syn false []) fun x =>
        goesOn Reference.wire tracedSyn [(s, Reference.receive .syn false [])] x
          [.resume, .app .accept, .app (.close Reference.writer true), .resume, .resume])
    (by decide +kernel)
  simp only [Bool.and_eq_true, decide_eq_true_eq, Option.isNone_iff_eq_none] at hs
  obtain ⟨⟨⟨hpc, hb⟩, hnone⟩, hto⟩ := hs
  obtain ⟨x₁, hstep, hgoes⟩ := Reference.step_of_stepsTo hto
  have hr := reads_of_device hpc hb (Reference.fromClient .syn false [])
  obtain ⟨steps, x, hcall, hx⟩ := Call.of_goesOn (.read hr hstep) hgoes
  simp only [tracedSyn, Bool.and_eq_true, decide_eq_true_eq, Option.any_eq_true, List.all_eq_true,
    Bool.not_eq_true', List.any_eq_true] at hx
  obtain ⟨⟨⟨⟨htop, y, hy, hrefuses, hresume⟩, hquiet⟩, hsome⟩, hhand⟩ := hx
  have hfails : y.1.Fails Reference.wire y.2 := by
    rw [hresume]
    exact fails_of_refusesSyn hrefuses
  refine ⟨s, x, steps, r.reachable, hcall, htop, ⟨⟨y, hy, hfails⟩, hquiet⟩, fun hun => ?_, hnone,
    hsome, hhand⟩
  rw [hun.sockets, hnone] at hsome
  cases hsome

end State

end Ustunet
