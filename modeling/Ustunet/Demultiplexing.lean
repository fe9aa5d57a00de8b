import Ustunet.LoopSteps
import Ustunet.Ownership

/-!
# Which connection a packet reaches

The pool finds the connection of a packet by a pair of `std::net::SocketAddr`. Then
`check_acceptability` looks at the packet again, by the endpoints of the socket, where what is
unspecified matches everything. `demultiplexing`: the two never disagree. The endpoints of a socket
are those of its pair, or unspecified, for as long as it is not closed: when it listens, when it is
connected, and when a RST has made it listen again.
-/

namespace Ustunet

/-! ## Addresses -/

lemma toNat_segment (hi lo : UInt8) :
    (hi.toUInt16 * 256 + lo.toUInt16).toNat = hi.toNat * 256 + lo.toNat := by
  have hhi := hi.toNat_lt
  have hlo := lo.toNat_lt
  rw [UInt16.toNat_add, UInt16.toNat_mul, UInt8.toNat_toUInt16, UInt8.toNat_toUInt16]
  show (hi.toNat * 256 % 65536 + lo.toNat) % 65536 = _
  omega

lemma high_byte (hi lo : UInt8) : ((hi.toUInt16 * 256 + lo.toUInt16) / 256).toUInt8 = hi := by
  have hhi := hi.toNat_lt
  have hlo := lo.toNat_lt
  apply UInt8.toNat_inj.mp
  rw [UInt16.toNat_toUInt8, UInt16.toNat_div, toNat_segment]
  show (hi.toNat * 256 + lo.toNat) / 256 % 256 = hi.toNat
  omega

lemma low_byte (hi lo : UInt8) : (hi.toUInt16 * 256 + lo.toUInt16).toUInt8 = lo := by
  have hlo := lo.toNat_lt
  apply UInt8.toNat_inj.mp
  rw [UInt16.toNat_toUInt8, toNat_segment]
  show (hi.toNat * 256 + lo.toNat) % 256 = lo.toNat
  omega

/-- The octets of an IPv6 address, from its segments. -/
lemma octet_of_segment (a : Ipv6Address) (i : Fin 16) :
    (if i.val % 2 = 0 then (a.writeParts (Fin.divNat (m := 8) (n := 2) i) / 256).toUInt8
      else (a.writeParts (Fin.divNat (m := 8) (n := 2) i)).toUInt8) = a.octets i := by
  unfold Ipv6Address.writeParts
  by_cases heven : i.val % 2 = 0
  · rw [if_pos heven, high_byte]
    exact congrArg a.octets (Fin.ext (by show 2 * (i.val / 2) = i.val; omega))
  · rw [if_neg heven, low_byte]
    exact congrArg a.octets (Fin.ext (by show 2 * (i.val / 2) + 1 = i.val; omega))

/-- The way back from the key of the pool to the endpoint of a packet. -/
lemma fromSocketAddr_convert {address : IpAddress} {port : UInt16} {addr : SocketAddr}
    (h : convertToSocketAddress address port = .ok addr) :
    IpEndpoint.fromSocketAddr addr = ⟨address, port⟩ := by
  cases address with
  | unspecified => cases h
  | ipv4 a =>
    cases h
    rfl
  | ipv6 a =>
    cases h
    exact congrArg (fun o => IpEndpoint.mk (.ipv6 ⟨o⟩) port) (funext (octet_of_segment a))

/-- The key of the pool keeps the address and the port. -/
lemma convert_eq_iff {address address' : IpAddress} {port port' : UInt16}
    {addr addr' : SocketAddr} (h : convertToSocketAddress address port = .ok addr)
    (h' : convertToSocketAddress address' port' = .ok addr') :
    addr = addr' ↔ address = address' ∧ port = port' := by
  constructor
  · rintro rfl
    have he := (fromSocketAddr_convert h).symm.trans (fromSocketAddr_convert h')
    exact ⟨congrArg IpEndpoint.addr he, congrArg IpEndpoint.port he⟩
  · rintro ⟨rfl, rfl⟩
    exact Except.ok.inj (h.symm.trans h')

/-- The packet goes from the peer of the pair to its local address. -/
structure AddrPair.Routes (pair : AddrPair) (ipRepr : IpRepr) (tcpRepr : TcpRepr) : Prop where
  src : convertToSocketAddress ipRepr.srcAddr tcpRepr.srcPort = .ok pair.peer
  dst : convertToSocketAddress ipRepr.dstAddr tcpRepr.dstPort = .ok pair.localAddr

/-- Two packets have the same pair exactly if the two addresses and the two ports agree. -/
lemma AddrPair.Routes.eq_iff {pair pair' : AddrPair} {ip ip' : IpRepr} {tcp tcp' : TcpRepr}
    (h : pair.Routes ip tcp) (h' : pair'.Routes ip' tcp') :
    pair = pair' ↔ ip.srcAddr = ip'.srcAddr ∧ tcp.srcPort = tcp'.srcPort ∧
      ip.dstAddr = ip'.dstAddr ∧ tcp.dstPort = tcp'.dstPort := by
  have hsrc := convert_eq_iff h.src h'.src
  have hdst := convert_eq_iff h.dst h'.dst
  obtain ⟨peer, localAddr⟩ := pair
  obtain ⟨peer', localAddr'⟩ := pair'
  rw [AddrPair.mk.injEq, hsrc, hdst, and_assoc]

/-! ## The endpoints of a socket -/

section

variable {T Q : Type} [TcpSocket T] [DelayQueue AddrPair Q] {listenAddress : T → IpAddress}

/-- The socket is closed, or its endpoints are those of the pair; the remote one may be open, and
the address to listen on is the local one. -/
def Bound (listenAddress : T → IpAddress) (p : AddrPair) (tcp : T) : Prop :=
  TcpSocket.state tcp = .closed ∨
    (TcpSocket.localEndpoint tcp = .fromSocketAddr p.localAddr ∧
      (TcpSocket.remoteEndpoint tcp = .unspecified ∨
        TcpSocket.remoteEndpoint tcp = .fromSocketAddr p.peer) ∧
      listenAddress tcp = (IpEndpoint.fromSocketAddr p.localAddr).addr)

lemma Bound.keep {p : AddrPair} {tcp tcp' : T} (h : Bound listenAddress p tcp)
    (hk : KeepsEndpoints listenAddress tcp tcp') : Bound listenAddress p tcp' := by
  rcases hk with hclosed | ⟨hopen, hlocal, hremote, haddr⟩
  · exact Or.inl hclosed
  · obtain ⟨hl, hr, ha⟩ := h.resolve_left hopen
    refine Or.inr ⟨hlocal.trans hl, ?_, haddr.trans ha⟩
    rw [hremote]
    exact hr

/-- A packet of the pair leaves the socket with the endpoints of the pair. -/
lemma Bound.packet {p : AddrPair} {tcp tcp' : T} {ip : IpRepr} {repr : TcpRepr}
    (h : Bound listenAddress p tcp) (hr : p.Routes ip repr)
    (hp : PacketEndpoints listenAddress tcp ip repr tcp') : Bound listenAddress p tcp' := by
  have hsrc := fromSocketAddr_convert hr.src
  have hdst := fromSocketAddr_convert hr.dst
  cases hp with
  | keeps hk => exact h.keep hk
  | syn hs _ hlocal hremote haddr =>
    obtain ⟨-, -, ha⟩ := h.resolve_left (by rw [hs]; exact nofun)
    refine Or.inr ⟨hlocal.trans hdst.symm, Or.inr (hremote.trans hsrc.symm), ?_⟩
    rcases haddr with haddr | haddr
    · exact haddr.trans ha
    · rw [haddr, hdst]
  | rst hs _ _ hlocal hremote haddr =>
    obtain ⟨hl, -, ha⟩ := h.resolve_left (by rw [hs]; exact nofun)
    refine Or.inr ⟨?_, Or.inl hremote, haddr.trans ha⟩
    rw [hlocal, ha, hl]

lemma openSocket_bound {wire : Wire} (hT : Endpoints T wire listenAddress) {p : AddrPair} {tcp : T}
    (h : openSocket p.localAddr = .ok tcp) : Bound listenAddress p tcp := by
  have hclosed := hT.new_closed rxBufSize txBufSize
  unfold openSocket createTcpSocket at h
  dsimp only at h
  rw [hclosed] at h
  obtain ⟨tcp₀, hlisten, h⟩ := Transition.bind_ok h
  obtain ⟨hl, hr, ha⟩ := hT.listen_sets _ _ _ hlisten
  cases h
  exact Bound.keep (Or.inr ⟨hl, Or.inl hr, ha⟩) (hT.ackDelay_keeps tcp₀ (some 0))

/-- A packet of the pair is refused only by a socket that is closed, or that listens and finds an
ACK in it. -/
lemma Bound.refuses_iff {p : AddrPair} {tcp : T} {ip : IpRepr} {repr : TcpRepr}
    (h : Bound listenAddress p tcp) (hr : p.Routes ip repr) :
    (∃ e, checkAcceptability tcp ip repr = .error e) ↔
      TcpSocket.state tcp = .closed ∨
        (TcpSocket.state tcp = .listen ∧ repr.ackNumber.isSome = true) := by
  have hsrc := fromSocketAddr_convert hr.src
  have hdst := fromSocketAddr_convert hr.dst
  unfold checkAcceptability
  by_cases hclosed : TcpSocket.state tcp = .closed
  · simp [hclosed]
  · by_cases hlisten : TcpSocket.state tcp = .listen ∧ repr.ackNumber.isSome = true
    · simp [hlisten]
    · -- neither the destination nor the source can be wrong
      obtain ⟨hl, hremote, -⟩ := h.resolve_left hclosed
      rw [hdst] at hl
      rcases hremote with hremote | hremote
      · rw [hl, hremote]
        simp [hclosed, hlisten, IpEndpoint.unspecified, IpAddress.isUnspecified]
      · rw [hsrc] at hremote
        rw [hl, hremote]
        simp [hclosed, hlisten]

end

/-! ## Along every run -/

/-- The packet of an event is on its way to the connection of its own pair. -/
def Event.Routed : Event → Prop
  | .process pair _ ipRepr tcpRepr => pair.Routes ipRepr tcpRepr
  | _ => True

namespace World

variable {T Q : Type} [TcpSocket T] [DelayQueue AddrPair Q] {wire : Wire}
  {listenAddress : T → IpAddress} {w w' : World T Q} {e : Event}

/-- Each connection, in the pool or on its way into it, has a socket with the endpoints of its
pair. -/
def Demultiplexed (listenAddress : T → IpAddress) (w : World T Q) : Prop :=
  ∀ ⦃p id sh⦄, w.connOf p = some id → w.shared id = some sh → Bound listenAddress p sh.tcp

lemma bound_step (hT : Endpoints T wire listenAddress) (ho : w.Owned) (hg : e.Routed)
    {p : AddrPair} {id : ConnId} {sh sh' : Shared T} (hid : w.connOf p = some id)
    (hb : Bound listenAddress p sh.tcp) (h : SharedStep wire w id e sh sh') :
    Bound listenAddress p sh'.tcp := by
  cases h with
  | read _ _ _ _ _ _ hr =>
    rcases ReadHalf.pollReadInner_recv hr with htcp | ⟨bytes, hrecv⟩
    · rw [htcp]
      exact hb
    · exact hb.keep (hT.recv_keeps _ _ _ _ hrecv)
  | write _ _ _ _ _ _ hw =>
    rcases WriteHalf.pollWriteInner_send hw with htcp | ⟨n, hsend⟩
    · rw [htcp]
      exact hb
    · exact hb.keep (hT.send_keeps _ _ _ _ hsend)
  | close _ _ _ _ hw =>
    rcases WriteHalf.pollCloseInner_cases hw with ⟨-, -, rfl, -⟩ | ⟨-, -, rfl, -⟩
    · exact hb
    · exact hb.keep (hT.close_keeps sh.tcp)
  | process ts ip repr hc hcid hp =>
    -- the packet has the pair of the connection that it is given to
    obtain rfl := ho.inj hid (hcid ▸ connOf_of_sockets hc)
    rcases Connection.process_cases hp with ⟨-, rfl, -⟩ | ⟨-, hproc⟩
    · exact hb
    · rw [hproc.tcp_eq]
      exact hb.packet hg (hT.process_sets _ _ _ _)
  | dispatch _ _ hd =>
    obtain ⟨hdisp, -⟩ := Connection.dispatch_cases hd
    rw [hdisp.tcp_eq]
    exact hb.keep (hT.dispatch_keeps _ _)
  | dropHalf _ _ _ hd =>
    obtain ⟨-, ⟨-, rfl, -⟩ | ⟨-, rfl, -⟩⟩ := Connection.dropHalf_cases hd
    · exact hb
    · exact hb.keep (hT.close_keeps sh.tcp)

lemma demultiplexed_step (hT : Endpoints T wire listenAddress) (ho : w.Owned)
    (hw : w.Demultiplexed listenAddress) (hg : e.Routed) (h : Steps wire w e w') :
    w'.Demultiplexed listenAddress := by
  intro p id sh hid hs
  rcases connOf_step ho h hid with hold | ⟨rfl, rfl⟩
  · rcases h.shared_cases hs with hs₀ | ⟨s₀, hs₀, hstep⟩ | ⟨hnew, -⟩
    · exact hw hold hs₀
    · exact bound_step hT ho hg hold (hw hold hs₀) hstep
    · exact absurd (ho.fresh hold) (by rw [hnew]; exact lt_irrefl _)
  · -- the connection has just been made for the pair
    cases h with
    | @create _ tcp _ _ _ hopen =>
      have hs : (w.setShared w.nextConn (.new tcp)).shared w.nextConn = some sh := hs
      rw [shared_setShared, if_pos rfl] at hs
      obtain rfl := Option.some.inj hs
      exact openSocket_bound hT hopen

end World

namespace State

open World Transition

variable {T Q : Type} [TcpSocket T] [DelayQueue AddrPair Q] {wire : Wire} {clock : Clock}
  {listenAddress : T → IpAddress} {s s' : State T Q}

omit [TcpSocket T] in
lemma arrival_routes {w : World T Q} {ip : IpRepr} {tcp : TcpRepr} {a : Arrival}
    (h : arrival w ip tcp = .ok a) : a.pair.Routes a.ipRepr a.tcpRepr := by
  obtain ⟨src, hsrc, h⟩ := bind_ok h
  obtain ⟨dst, hdst, h⟩ := bind_ok h
  dsimp only at h
  split at h
  · cases h
  · cases h
    exact ⟨hsrc, hdst⟩

/-- The packet that `create_syn` is at work for belongs to the pair that it makes. -/
def Carries (s : State T Q) : Prop :=
  match s.pc with
  | .sending a | .inserting a | .processing a => a.pair.Routes a.ipRepr a.tcpRepr
  | _ => True

omit [TcpSocket T] in
lemma carries_init (clock : Clock) : (init clock : State T Q).Carries := trivial

lemma carries_step {l : Label} (hs : s.Carries) (h : LoopSteps wire s l s') : s'.Carries := by
  cases h with
  | elapse | app | wait => exact hs
  | create _ _ ha => exact arrival_routes ha
  | sent hpc | inserted hpc =>
    unfold Carries at hs
    rw [hpc] at hs
    exact hs
  | _ => trivial

lemma LoopReachable.carries (h : LoopReachable wire clock s) : s.Carries :=
  Transition.Reachable.invariant (I := Carries) (carries_init clock)
    (fun hs hl => carries_step hs (steps_of_loop hl)) h

lemma ingressEvent_routed {w : World T Q} {packet : List UInt8} {e : Event}
    (h : ingressEvent wire w packet = some e) : e.Routed := by
  unfold ingressEvent at h
  split at h
  · split at h
    · next a ha =>
      split at h
      · cases h
        exact arrival_routes ha
      · split at h
        · split at h
          · cases h
            trivial
          · cases h
        · cases h
    · cases h
  · cases h

lemma handleEvent_routed {w : World T Q} {x : IoSelected} {e : Event}
    (h : handleEvent wire w x = some e) : e.Routed := by
  unfold handleEvent at h
  split at h
  · cases h
    trivial
  · cases h
  · cases h
    trivial
  · cases h
  · exact ingressEvent_routed h
  · cases h
    trivial
  · cases h
    trivial

/-- **A packet is processed on the connection of its pair**: of the pair that its addresses and
ports make. -/
lemma event_routed (hs : s.Carries) {l : Label} {e : Event} (h : s.event wire l = some e) :
    e.Routed := by
  cases e with
  | process pair ts ip repr =>
    cases l with
    | elapse nanos => cases h
    | app a => cases h
    | turn =>
      simp only [event, turnEvent] at h
      split at h
      · cases h
      · split at h
        · obtain ⟨addr, -, h⟩ := Option.map_eq_some_iff.mp h
          cases h
        · cases h
    | poll dev =>
      simp only [event, pollEvent] at h
      split at h
      · exact handleEvent_routed h
      · split at h
        · obtain ⟨r, -, h⟩ := Option.map_eq_some_iff.mp h
          cases h
        · cases h
    | resume =>
      simp only [event] at h
      unfold Carries at hs
      split at h
      · split at h <;> cases h
      · cases h
      · next a hpc =>
        rw [hpc] at hs
        cases h
        exact hs
      · cases h
    | unwind dev => cases h
  | _ => trivial

lemma LoopReachable.demultiplexed (hT : Endpoints T wire listenAddress)
    (h : LoopReachable wire clock s) : s.world.Demultiplexed listenAddress := by
  obtain ⟨hist, r⟩ := h
  refine LoopRun.invariant (I := Demultiplexed listenAddress) (G := fun _ e => e.Routed)
    (fun _ _ _ hid => nomatch hid) ?_ r ?_
  · intro w e w' ho _ hw hg h
    exact demultiplexed_step hT ho hw hg h
  · intro x hx
    obtain ⟨y, hy, he, -⟩ := mem_events.mp hx
    exact event_routed (LoopReachable.carries (r.reachable_of_mem hy)) he

/-- **Demultiplexing is exact.** In every reachable state: a pooled connection whose socket is not
closed has the local endpoint of its pair, and its remote endpoint is unspecified or that of the
pair. A packet that is given to a connection is refused exactly if the socket is closed, or listens
and the packet has an ACK. Two packets, in whatever states, are given to the same slot exactly if
their addresses and ports agree, and no two slots have the same connection. -/
theorem demultiplexing (hT : Endpoints T wire listenAddress) (h : LoopReachable wire clock s) :
    (∀ (p : AddrPair) (c : Connection) (sh : Shared T), s.world.sockets p = some c →
      s.world.shared c.socket = some sh → TcpSocket.state sh.tcp ≠ .closed →
      TcpSocket.localEndpoint sh.tcp = .fromSocketAddr p.localAddr ∧
        (TcpSocket.remoteEndpoint sh.tcp = .unspecified ∨
          TcpSocket.remoteEndpoint sh.tcp = .fromSocketAddr p.peer)) ∧
    (∀ (l : Label) (p : AddrPair) (ts : SmolInstant) (ip : IpRepr) (tcp : TcpRepr)
      (c : Connection) (sh : Shared T), s.event wire l = some (.process p ts ip tcp) →
      s.world.sockets p = some c → s.world.shared c.socket = some sh →
      ((∃ e, checkAcceptability sh.tcp ip tcp = .error e) ↔
        TcpSocket.state sh.tcp = .closed ∨
          (TcpSocket.state sh.tcp = .listen ∧ tcp.ackNumber.isSome = true))) ∧
    (∀ (s' : State T Q) (l l' : Label) (p p' : AddrPair) (ts ts' : SmolInstant)
      (ip ip' : IpRepr) (tcp tcp' : TcpRepr), LoopReachable wire clock s' →
      s.event wire l = some (.process p ts ip tcp) →
      s'.event wire l' = some (.process p' ts' ip' tcp') →
      (p = p' ↔ ip.srcAddr = ip'.srcAddr ∧ tcp.srcPort = tcp'.srcPort ∧
        ip.dstAddr = ip'.dstAddr ∧ tcp.dstPort = tcp'.dstPort)) ∧
    ∀ (p p' : AddrPair) (c c' : Connection), s.world.sockets p = some c →
      s.world.sockets p' = some c' → (p = p' ↔ c.socket = c'.socket) := by
  have ho := (LoopReachable.owned h).1
  have hw := LoopReachable.demultiplexed hT h
  have routed : ∀ {s : State T Q} {l : Label} {e : Event}, LoopReachable wire clock s →
      s.event wire l = some e → e.Routed := fun h he => event_routed (LoopReachable.carries h) he
  refine ⟨?_, ?_, ?_, ?_⟩
  · intro p c sh hc hs hopen
    obtain ⟨hl, hr, -⟩ := (hw (connOf_of_sockets hc) hs).resolve_left hopen
    exact ⟨hl, hr⟩
  · intro l p ts ip tcp c sh he hc hs
    exact (hw (connOf_of_sockets hc) hs).refuses_iff (routed h he)
  · intro s' l l' p p' ts ts' ip ip' tcp tcp' h' he he'
    exact (routed h he).eq_iff (routed h' he')
  · intro p p' c c' hc hc'
    constructor
    · rintro rfl
      rw [Option.some.inj (hc.symm.trans hc')]
    · intro hcc
      exact ho.inj (connOf_of_sockets hc) (hcc ▸ connOf_of_sockets hc')

/-- The client resets a connection before the handshake is finished, so the socket listens again,
with its local endpoint; an ACK of the client reaches it and is refused. -/
theorem demultiplexing_reset :
    ∃ (s : Reference.Loop) (c : Connection) (sh : Shared Reference.Socket) (ts : SmolInstant)
      (ip : IpRepr) (tcp : TcpRepr), LoopReachable Reference.wire Reference.clock s ∧
      s.event Reference.wire (Reference.receive .none true [])
        = some (.process Reference.pair ts ip tcp) ∧
      s.world.sockets Reference.pair = some c ∧ s.world.shared c.socket = some sh ∧
      TcpSocket.state sh.tcp = .listen ∧
      TcpSocket.localEndpoint sh.tcp = .fromSocketAddr Reference.pair.localAddr ∧
      ∃ e, checkAcceptability sh.tcp ip tcp = .error e := by
  obtain ⟨hist, s, r, hs⟩ := Reference.run_of_check
    (Reference.connect ++ Reference.dispatchDue ++ [Reference.receive .rst false [], .turn])
    (fun _ s => decide (s.event Reference.wire (Reference.receive .none true [])
        = some (.process Reference.pair (Reference.clock.timestamp 0)
          (.ipv4 ⟨Reference.clientIp, Reference.serverIp, .tcp, 20, 64⟩)
          ⟨40000, 80, .none, 0, some 0, 65535, none, none, false, [], []⟩)) &&
      (s.world.sockets Reference.pair).any fun c =>
        (s.world.shared c.socket).any fun sh => decide (TcpSocket.state sh.tcp = .listen))
    (by decide +kernel)
  simp only [Bool.and_eq_true, decide_eq_true_eq, Option.any_eq_true] at hs
  obtain ⟨hev, c, hc, sh, hsh, hstate⟩ := hs
  obtain ⟨hends, hrefuses, -, -⟩ := demultiplexing Reference.Socket.endpoints r.reachable
  obtain ⟨hlocal, -⟩ := hends _ c sh hc hsh (by rw [hstate]; exact nofun)
  exact ⟨s, c, sh, _, _, _, r.reachable, hev, hc, hsh, hstate, hlocal,
    (hrefuses _ _ _ _ _ c sh hev hc hsh).mpr (Or.inr ⟨hstate, rfl⟩)⟩

end State

end Ustunet
