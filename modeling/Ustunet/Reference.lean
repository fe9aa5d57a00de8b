import Ustunet.Events
import Ustunet.Smoltcp

/-!
# Instances to run the model with

The model leaves smoltcp, its codecs and the delay queue open. Here are computable stand-ins,
so that runs of the loop can be evaluated:

* `Reference.Queue`, a delay queue that meets the laws of the class;
* `Reference.wire`, the headers of IPv4 and TCP without options;
* `Reference.Socket`, upstream's state machine, timers and `poll_at`, towards a peer whose
  packets arrive in order and whose ACKs acknowledge all that was sent. Sequence numbers and
  windows are left out, and so are the bytes in the transmit buffer: they are zeros.
-/

namespace Ustunet
namespace Reference

/-! ## The delay queue -/

/-- Entries under the keys below `bound`. -/
structure Queue (V : Type) where
  bound : ℕ
  entry : ℕ → Option (V × Instant)
  fresh : ∀ k, bound ≤ k → entry k = none

namespace Queue

variable {V : Type}

def update (q : Queue V) (k : ℕ) (e : Option (V × Instant)) (h : k < q.bound) : Queue V :=
  ⟨q.bound, Function.update q.entry k e, fun k' hk' => by
    rw [Function.update_of_ne (by omega)]
    exact q.fresh k' hk'⟩

lemma lt_bound {q : Queue V} {k : ℕ} {e : V × Instant} (h : q.entry k = some e) :
    k < q.bound := by
  by_contra hk
  rw [q.fresh k (by omega)] at h
  cases h

/-- The entry with the earliest deadline among the keys below a number. -/
def earliest (entry : ℕ → Option (V × Instant)) : ℕ → Option (ℕ × V × Instant)
  | 0 => none
  | n + 1 =>
    match entry n, earliest entry n with
    | none, r => r
    | some (v, t), none => some (n, v, t)
    | some (v, t), some (k, v', t') => if t < t' then some (n, v, t) else some (k, v', t')

lemma entry_of_earliest {entry : ℕ → Option (V × Instant)} {n : ℕ} {k : ℕ} {v : V}
    {t : Instant} (h : earliest entry n = some (k, v, t)) : entry k = some (v, t) := by
  induction n generalizing k v t with
  | zero => cases h
  | succ n ih =>
    rw [earliest] at h
    split at h
    · exact ih h
    · next he hr =>
      cases h
      exact he
    · next he hr =>
      split at h
      · cases h
        exact he
      · cases h
        exact ih hr

/-- No entry has an earlier deadline. -/
lemma earliest_le {entry : ℕ → Option (V × Instant)} {n k : ℕ} {v : V} {t : Instant} (hk : k < n)
    (h : entry k = some (v, t)) : ∃ k' v' t', earliest entry n = some (k', v', t') ∧ t' ≤ t := by
  induction n with
  | zero => omega
  | succ n ih =>
    rw [earliest]
    by_cases hn : k = n
    · rw [← hn, h]
      cases earliest entry k with
      | none => exact ⟨k, v, t, rfl, le_rfl⟩
      | some first =>
        obtain ⟨k', v', t'⟩ := first
        by_cases hlt : t < t'
        · exact ⟨k, v, t, if_pos hlt, le_rfl⟩
        · exact ⟨k', v', t', if_neg hlt, Nat.le_of_not_lt hlt⟩
    · obtain ⟨k', v', t', hrest, hle⟩ := ih (by omega)
      rw [hrest]
      cases entry n with
      | none => exact ⟨k', v', t', rfl, hle⟩
      | some last =>
        by_cases hlt : last.2 < t'
        · exact ⟨n, last.1, last.2, if_pos hlt, (Nat.le_of_lt hlt).trans hle⟩
        · exact ⟨k', v', t', if_neg hlt, hle⟩

/-- Change or drop the entry of a key that is in use. -/
def alter (q : Queue V) (k : ℕ) (f : V → Option (V × Instant)) : Option (Queue V) :=
  match h : q.entry k with
  | some e => some (q.update k (f e.1) (lt_bound h))
  | none => none

lemma alter_some {q : Queue V} {k : ℕ} {e : V × Instant} (f : V → Option (V × Instant))
    (h : q.entry k = some e) :
    ∃ q', q.alter k f = some q' ∧ ∀ k', q'.entry k' = if k' = k then f e.1 else q.entry k' := by
  unfold alter
  split
  · next e' he =>
    rw [h] at he
    obtain rfl := Option.some.inj he
    refine ⟨_, rfl, fun k' => ?_⟩
    simp [update, Function.update_apply]
  · next hn => rw [h] at hn; cases hn

def pollExpired (q : Queue V) (now : Instant) : Option (V × Queue V) :=
  match earliest q.entry q.bound with
  | some (k, v, t) =>
    if t ≤ now then (q.alter k fun _ => none).map fun q' => (v, q') else none
  | none => none

instance : DelayQueue V (Queue V) where
  new := ⟨0, fun _ => none, fun _ _ => rfl⟩
  entry := Queue.entry
  insertAt q v t :=
    (q.bound, ⟨q.bound + 1, Function.update q.entry q.bound (some (v, t)), fun k hk => by
      rw [Function.update_of_ne (by omega)]
      exact q.fresh k (by omega)⟩)
  resetAt q k t := q.alter k fun v => some (v, t)
  remove q k := q.alter k fun _ => none
  pollExpired := pollExpired
  entry_new _ := rfl
  insertAt_fresh q _ _ := q.fresh _ le_rfl
  entry_insertAt q v t k := by simp [Function.update_apply]
  resetAt_live t h := alter_some (fun v => some (v, t)) h
  remove_live h := alter_some (fun _ => none) h
  pollExpired_due {q now v q'} h := by
    unfold pollExpired at h
    split at h
    · next k v' t he =>
      have hk := entry_of_earliest he
      split at h
      · next hle =>
        obtain ⟨q'', hq'', hall⟩ := alter_some (fun _ => none) hk
        rw [hq''] at h
        cases h
        exact ⟨k, t, hk, hle, hall⟩
      · cases h
    · cases h

end Queue

/-! ## The codecs -/

def be16 (hi lo : UInt8) : UInt16 := hi.toUInt16 * 256 + lo.toUInt16

def be32 (a b c d : UInt8) : UInt32 := (be16 a b).toUInt32 * 65536 + (be16 c d).toUInt32

def bytes16 (n : UInt16) : List UInt8 := [(n / 256).toUInt8, n.toUInt8]

def bytes32 (n : UInt32) : List UInt8 :=
  bytes16 (n / 65536).toUInt16 ++ bytes16 n.toUInt16

/-- The sum of the 16-bit words of the checksum of RFC 1071, before it is folded. -/
def wordSum : List UInt8 → ℕ
  | a :: b :: rest => (be16 a b).toNat + wordSum rest
  | [a] => a.toNat * 256
  | [] => 0

def checksum (bytes : List UInt8) : UInt16 :=
  let fold (n : ℕ) : ℕ := n / 65536 + n % 65536
  UInt16.ofNat (65535 - fold (fold (wordSum bytes)))

def parseIpv4 : List UInt8 → Except Error (Ipv4Repr × List UInt8)
  | v :: _ :: l₁ :: l₀ :: _ :: _ :: _ :: _ :: ttl :: proto :: _ :: _ ::
      s₀ :: s₁ :: s₂ :: s₃ :: d₀ :: d₁ :: d₂ :: d₃ :: rest =>
    if v = 0x45 then
      .ok ({
        srcAddr := ⟨s₀, s₁, s₂, s₃⟩, dstAddr := ⟨d₀, d₁, d₂, d₃⟩
        protocol := if proto = 6 then .tcp else .other proto
        payloadLen := (be16 l₁ l₀).toNat - 20, hopLimit := ttl }, rest)
    else .error .malformed
  | _ => .error .truncated

/-- The control flags FIN, SYN, RST and PSH of a segment. -/
def parseControl (flags : UInt8) : Except Error TcpControl :=
  match (flags &&& 15).toNat with
  | 0 => .ok .none
  | 8 => .ok .psh
  | 2 => .ok .syn
  | 1 | 9 => .ok .fin
  | 4 | 12 => .ok .rst
  | _ => .error .malformed

def parseTcp : List UInt8 → IpAddress → IpAddress → Except Error TcpRepr
  | s₁ :: s₀ :: d₁ :: d₀ :: q₃ :: q₂ :: q₁ :: q₀ :: a₃ :: a₂ :: a₁ :: a₀ :: _ :: flags ::
      w₁ :: w₀ :: _ :: _ :: _ :: _ :: payload, _, _ => do
    let control ← parseControl flags
    return {
      srcPort := be16 s₁ s₀, dstPort := be16 d₁ d₀, control, seqNumber := be32 q₃ q₂ q₁ q₀
      ackNumber := if flags &&& 16 = 16 then some (be32 a₃ a₂ a₁ a₀) else none
      windowLen := be16 w₁ w₀, windowScale := none, maxSegSize := none, sackPermitted := false
      sackRanges := [], payload }
  | _, _, _ => .error .truncated

def controlFlags : TcpControl → UInt8
  | .none => 0
  | .psh => 8
  | .syn => 2
  | .fin => 1
  | .rst => 4

def emitTcp (r : TcpRepr) (sum : UInt16) : List UInt8 :=
  bytes16 r.srcPort ++ bytes16 r.dstPort ++ bytes32 r.seqNumber
    ++ bytes32 (r.ackNumber.getD 0)
    ++ [0x50, controlFlags r.control + if r.ackNumber.isSome then 16 else 0]
    ++ bytes16 r.windowLen ++ bytes16 sum ++ [0, 0] ++ r.payload

def emitIpv4 (r : Ipv4Repr) (sum : UInt16) : List UInt8 :=
  ([0x45, 0] : List UInt8) ++ bytes16 (UInt16.ofNat (20 + r.payloadLen))
    ++ [0, 0, 0x40, 0, r.hopLimit, match r.protocol with | .tcp => 6 | .other n => n]
    ++ bytes16 sum
    ++ [r.srcAddr.o₀, r.srcAddr.o₁, r.srcAddr.o₂, r.srcAddr.o₃,
      r.dstAddr.o₀, r.dstAddr.o₁, r.dstAddr.o₂, r.dstAddr.o₃]

def emit : IpRepr → TcpRepr → List UInt8
  | .ipv4 ip, tcp =>
    let pseudo := [ip.srcAddr.o₀, ip.srcAddr.o₁, ip.srcAddr.o₂, ip.srcAddr.o₃,
      ip.dstAddr.o₀, ip.dstAddr.o₁, ip.dstAddr.o₂, ip.dstAddr.o₃, 0, 6]
      ++ bytes16 (UInt16.ofNat ip.payloadLen)
    emitIpv4 ip (checksum (emitIpv4 ip 0))
      ++ emitTcp tcp (checksum (pseudo ++ emitTcp tcp 0))
  | .ipv6 _, _ => []

def wire : Wire where
  parseIpv4 := parseIpv4
  parseIpv6 _ := .error .unrecognized
  parseTcp := parseTcp
  isUnicastV4 a := a ≠ ⟨255, 255, 255, 255⟩ ∧ a.o₀ / 16 ≠ 14 ∧ a ≠ ⟨0, 0, 0, 0⟩
  isUnicastV6 _ := false
  lower ip := .ok ip
  emit := emit

/-! ## The socket -/

def endpoint : SocketAddr → IpEndpoint
  | .v4 ip port => ⟨.ipv4 ip, port⟩
  | .v6 segments port =>
    ⟨.ipv6 ⟨fun i =>
      let segment := segments ⟨i / 2, by omega⟩
      if i % 2 = 0 then (segment / 256).toUInt8 else segment.toUInt8⟩, port⟩

def noEndpoint : IpEndpoint := ⟨.unspecified, 0⟩

structure Socket where
  state : TcpState
  localEndpoint : IpEndpoint
  remoteEndpoint : IpEndpoint
  rx : List UInt8
  rxCap : ℕ
  /-- The number of bytes that the peer has not acknowledged. -/
  tx : ℕ
  txCap : ℕ
  /-- How many of these have been sent. -/
  sent : ℕ
  /-- Whether the SYN or FIN that belongs to the state has been sent. -/
  flagSent : Bool
  /-- When to send again, or, in TIME-WAIT, when to end. -/
  timer : Option SmolInstant
  /-- When to send an ACK that is owed. -/
  ackAt : Option SmolInstant
  ackDelay : Option ℕ

namespace Socket

def new (rxCap txCap : ℕ) : Socket where
  state := .closed
  localEndpoint := noEndpoint
  remoteEndpoint := noEndpoint
  rx := []
  rxCap := rxCap
  tx := 0
  txCap := txCap
  sent := 0
  flagSent := false
  timer := none
  ackAt := none
  ackDelay := none

/-- `TcpSocket::reset`. -/
def reset (t : Socket) : Socket := { new t.rxCap t.txCap with ackDelay := t.ackDelay }

def isOpen (t : Socket) : Bool := t.state != .closed && t.state != .timeWait

def listen (t : Socket) (addr : SocketAddr) : Except Error Socket :=
  if (endpoint addr).port = 0 then .error .unaddressable
  else if t.isOpen then .error .illegal
  else .ok { t.reset with state := .listen, localEndpoint := endpoint addr }

def maySend (t : Socket) : Bool := decide (t.state = .established ∨ t.state = .closeWait)

def canSend (t : Socket) : Bool := t.maySend && decide (t.tx < t.txCap)

def mayRecv (t : Socket) : Bool := t.state.receives || decide (0 < t.rx.length)

def canRecv (t : Socket) : Bool := t.mayRecv && decide (0 < t.rx.length)

def sendSlice (t : Socket) (buf : List UInt8) : Except Error (ℕ × Socket) :=
  if t.maySend then
    let n := min buf.length (t.txCap - t.tx)
    .ok (n, { t with tx := t.tx + n })
  else .error .illegal

def recvSlice (t : Socket) (len : ℕ) : Except Error (List UInt8 × Socket) :=
  if t.mayRecv then .ok (t.rx.take len, { t with rx := t.rx.drop len })
  else .error .illegal

def close (t : Socket) : Socket :=
  match t.state with
  | .synReceived | .established | .closeWait =>
    { t with state := t.state.afterClose, flagSent := false }
  | _ => { t with state := t.state.afterClose }

/-- Whether bytes of the transmit buffer are sent in a state. -/
def sendsData : TcpState → Bool
  | .established | .closeWait | .finWait1 | .closing | .lastAck => true
  | _ => false

/-- Whether a SYN or FIN is sent in a state. -/
def sendsFlag : TcpState → Bool
  | .synSent | .synReceived | .finWait1 | .closing | .lastAck => true
  | _ => false

def seqToTransmit (t : Socket) : Bool :=
  (sendsData t.state && decide (t.sent < t.tx)) || (sendsFlag t.state && !t.flagSent)

/-- Whether something that was sent is not acknowledged. -/
def inFlight (t : Socket) : Bool :=
  (sendsData t.state && decide (0 < t.sent ∧ 0 < t.tx)) || (sendsFlag t.state && t.flagSent)

/-- The timer that runs, if one does. -/
def runningTimer (t : Socket) : Option SmolInstant :=
  if t.state == .timeWait || t.inFlight then t.timer else none

def earlier : Option SmolInstant → Option SmolInstant → PollAt
  | none, none => .ingress
  | some a, none => .time a
  | none, some b => .time b
  | some a, some b => if a.millis ≤ b.millis then .time a else .time b

def pollAt (t : Socket) : PollAt :=
  if !t.remoteEndpoint.isSpecified then .ingress
  else if t.state == .closed || t.seqToTransmit then .now
  else earlier t.runningTimer t.ackAt

def isPast (at? : Option SmolInstant) (ts : SmolInstant) : Bool :=
  match at? with
  | some t => t.millis ≤ ts.millis
  | none => false

/-- The retransmission timeout, the time in TIME-WAIT and the segment size. -/
def rto : ℤ := 700

def closeDelay : ℤ := 10000

def mss : ℕ := 536

def after (ts : SmolInstant) (delay : ℤ) : SmolInstant := .fromMillis (ts.millis + delay)

def packet (t : Socket) (control : TcpControl) (payload : List UInt8) : Packet :=
  let tcpRepr : TcpRepr := {
    srcPort := t.localEndpoint.port, dstPort := t.remoteEndpoint.port, control, seqNumber := 0
    ackNumber := some 0, windowLen := UInt16.ofNat (t.rxCap - t.rx.length)
    windowScale := none, maxSegSize := none, sackPermitted := false, sackRanges := [], payload }
  match t.localEndpoint.addr, t.remoteEndpoint.addr with
  | .ipv6 src, .ipv6 dst => (.ipv6 ⟨src, dst, .tcp, 20 + payload.length, 64⟩, tcpRepr)
  | .ipv4 src, .ipv4 dst => (.ipv4 ⟨src, dst, .tcp, 20 + payload.length, 64⟩, tcpRepr)
  | _, _ => (.ipv4 ⟨⟨0, 0, 0, 0⟩, ⟨0, 0, 0, 0⟩, .tcp, 20 + payload.length, 64⟩, tcpRepr)

/-- The length of the next segment. -/
def segmentLen (t : Socket) : ℕ :=
  if sendsData t.state then min (t.tx - t.sent) mss else 0

/-- Whether the next segment has the SYN or FIN of the state. -/
def segmentFlag (t : Socket) : Bool :=
  sendsFlag t.state && decide (t.sent + t.segmentLen = t.tx ∨ sendsData t.state = false)

def segment (t : Socket) : Packet :=
  t.packet
    (if t.segmentFlag then (if sendsData t.state then .fin else .syn) else .none)
    (List.replicate t.segmentLen 0)

/-- The socket after a segment has been sent. -/
def segmentSent (t : Socket) (ts : SmolInstant) : Socket :=
  let t := { t with
    sent := t.sent + t.segmentLen, flagSent := t.flagSent || t.segmentFlag, ackAt := none }
  if t.seqToTransmit then t else { t with timer := some (after ts rto) }

/-- Go back to the last ACK when the retransmission timer has run out. -/
def rewound (t : Socket) (ts : SmolInstant) : Socket :=
  if t.inFlight && isPast t.timer ts then { t with sent := 0, flagSent := false } else t

/-- Go on from the emission of a packet. -/
def resume (before done : Socket) (r : Except Error Unit) : Except Error Unit × Socket :=
  match r with
  | .ok () => (.ok (), done)
  | .error e => (.error e, before)

def dispatch (t : Socket) (ts : SmolInstant) : Egress Socket :=
  if !t.remoteEndpoint.isSpecified then .quiet (.error .exhausted) t
  else
    let t := if t.seqToTransmit then t else t.rewound ts
    if t.seqToTransmit then .emit t.segment (resume t (t.segmentSent ts))
    else if isPast t.ackAt ts then
      .emit (t.packet .none []) (resume t { t with ackAt := none })
    else if t.state == .closed then
      .emit (t.packet .rst [])
        (resume t { t with localEndpoint := noEndpoint, remoteEndpoint := noEndpoint })
    else if t.state == .timeWait && isPast t.timer ts then .quiet (.error .exhausted) t.reset
    else .quiet (.error .exhausted) t

/-- The state after the peer has acknowledged all that was sent. -/
def acknowledged (s : TcpState) (flagSent : Bool) : TcpState :=
  if flagSent then
    match s with
    | .synReceived => .established
    | .finWait1 => .finWait2
    | .closing => .timeWait
    | .lastAck => .closed
    | s => s
  else s

/-- The state after the peer's FIN. -/
def finished (s : TcpState) : TcpState :=
  match s with
  | .synReceived | .established => .closeWait
  | .finWait1 => .closing
  | .finWait2 => .timeWait
  | s => s

/-- Whether the payload of a segment is taken. After the peer's FIN it still is, unless the FIN
comes again. -/
def takesPayload (s : TcpState) (control : TcpControl) : Bool :=
  match s with
  | .timeWait => false
  | .closeWait | .closing | .lastAck => control != .fin
  | _ => true

/-- A segment with an ACK and without SYN or RST. -/
def processSegment (t : Socket) (ts : SmolInstant) (repr : TcpRepr) : Socket :=
  -- the SYN has to be sent before it can be acknowledged
  if t.state = .synReceived ∧ t.flagSent = false then t
  else
    let acked := acknowledged t.state t.flagSent
    let payload :=
      if takesPayload t.state repr.control then repr.payload.take (t.rxCap - t.rx.length) else []
    let state := if repr.control = .fin then finished acked else acked
    { t with
      state
      tx := t.tx - t.sent, sent := 0
      flagSent := if acked = t.state then t.flagSent else false
      rx := t.rx ++ payload
      timer := if state = .timeWait then some (after ts closeDelay) else none
      ackAt :=
        if payload ≠ [] ∨ repr.control = .fin then some (after ts (t.ackDelay.getD 0))
        else t.ackAt
      localEndpoint := if state = .closed then noEndpoint else t.localEndpoint
      remoteEndpoint := if state = .closed then noEndpoint else t.remoteEndpoint }

def process (t : Socket) (ts : SmolInstant) (ip : IpRepr) (repr : TcpRepr) :
    Except Error (Option Packet) × Socket :=
  match t.state, repr.control with
  | .closed, _ => (.error .dropped, t)
  | .listen, .syn =>
    (.ok none, { t with
      state := .synReceived
      localEndpoint := ⟨ip.dstAddr, repr.dstPort⟩, remoteEndpoint := ⟨ip.srcAddr, repr.srcPort⟩
      sent := 0, flagSent := false, timer := none })
  | .listen, _ => (.error .dropped, t)
  | .synReceived, .rst =>
    (.ok none, { t with state := .listen, remoteEndpoint := noEndpoint })
  | _, .rst =>
    (.ok none, { t with
      state := .closed, localEndpoint := noEndpoint, remoteEndpoint := noEndpoint })
  | _, .syn => (.error .dropped, t)
  | _, _ =>
    if repr.ackNumber.isSome then (.ok none, t.processSegment ts repr) else (.error .dropped, t)

instance : TcpSocket Socket where
  new := new
  isOpen := isOpen
  listen := listen
  setAckDelay t d := { t with ackDelay := d }
  state := state
  localEndpoint := localEndpoint
  remoteEndpoint := remoteEndpoint
  canSend := canSend
  maySend := maySend
  canRecv := canRecv
  mayRecv := mayRecv
  recvQueue t := t.rx.length
  pollAt := pollAt
  process := process
  dispatch := dispatch
  sendSlice := sendSlice
  recvSlice := recvSlice
  close := close

/-! ### The socket meets the assumptions -/

lemma freshQuiet : FreshQuiet Socket := by
  intro addr t h
  change (listen (new rxBufSize txBufSize) addr >>= fun s =>
    (.ok { s with ackDelay := some 0 } : Except Error Socket)) = .ok t at h
  unfold listen at h
  split at h
  · cases h
  · split at h
    · cases h
    · cases h
      rfl

lemma sendSide : SendSide Socket where
  send_some t buf hcan hbuf := by
    change t.canSend = true at hcan
    unfold canSend at hcan
    rw [Bool.and_eq_true, decide_eq_true_eq] at hcan
    have hlen : 0 < buf.length := List.length_pos_iff.mpr hbuf
    have hsend : t.sendSlice buf = .ok (min buf.length (t.txCap - t.tx),
        { t with tx := t.tx + min buf.length (t.txCap - t.tx) }) := by
      unfold sendSlice
      rw [if_pos hcan.1]
    exact ⟨_, _, hsend, by omega⟩
  recv_keeps t len bytes t' h := by
    change t.recvSlice len = _ at h
    unfold recvSlice at h
    split at h
    · cases h
      exact ⟨rfl, rfl⟩
    · cases h
  close_ends t := by
    show (close t).maySend = false
    unfold close maySend
    cases h : t.state <;> rfl

/-- A timer that is rewound leaves something to send. -/
lemma seqToTransmit_rewound {t : Socket} {ts : SmolInstant}
    (h : (t.inFlight && isPast t.timer ts) = true) : (t.rewound ts).seqToTransmit = true := by
  unfold rewound
  rw [if_pos h]
  rw [Bool.and_eq_true] at h
  unfold inFlight at h
  unfold seqToTransmit
  simp only [Bool.or_eq_true, Bool.and_eq_true, decide_eq_true_eq] at h ⊢
  rcases h.1 with ⟨hd, -, htx⟩ | ⟨hf, -⟩
  · exact Or.inl ⟨hd, htx⟩
  · exact Or.inr ⟨hf, rfl⟩

lemma earlier_isDue (a b : Option SmolInstant) (ts : SmolInstant) :
    (earlier a b).isDue ts = (isPast a ts || isPast b ts) := by
  rcases a with _ | a <;> rcases b with _ | b
  · rfl
  · rfl
  · simp [earlier, PollAt.isDue, isPast]
  · simp only [earlier, isPast]
    rw [Bool.eq_iff_iff, Bool.or_eq_true, decide_eq_true_eq, decide_eq_true_eq]
    by_cases h : a.millis ≤ b.millis
    · rw [if_pos h]
      simp only [PollAt.isDue, decide_eq_true_eq]
      omega
    · rw [if_neg h]
      simp only [PollAt.isDue, decide_eq_true_eq]
      omega

lemma isPast_runningTimer (t : Socket) (ts : SmolInstant) :
    isPast t.runningTimer ts = ((t.state == .timeWait || t.inFlight) && isPast t.timer ts) := by
  unfold runningTimer
  cases (t.state == .timeWait || t.inFlight) <;> rfl

/-- With nothing due the socket stays as it is. -/
lemma dispatch_early {t : Socket} {ts : SmolInstant} (h : t.pollAt.isDue ts = false) :
    t.dispatch ts = .quiet (.error .exhausted) t := by
  unfold pollAt at h
  unfold dispatch
  split at h
  · next hr => rw [if_pos hr]
  · next hr =>
    rw [if_neg hr]
    split at h
    · cases h
    · next hs =>
      rw [Bool.or_eq_true, not_or, Bool.not_eq_true, Bool.not_eq_true] at hs
      rw [earlier_isDue, isPast_runningTimer, Bool.or_eq_false_iff] at h
      have hrw : t.rewound ts = t := by
        unfold rewound
        rw [if_neg]
        intro hc
        rw [Bool.and_eq_true] at hc
        simp [hc.1, hc.2] at h
      have htw : (t.state == .timeWait && isPast t.timer ts) = false := by
        cases h₁ : (t.state == .timeWait) <;> simp_all
      simp [hs.1, hs.2, hrw, h.2, htw]

/-- With something due the socket sends a packet, unless it was the end of TIME-WAIT. -/
lemma dispatch_due {t : Socket} {ts : SmolInstant} (h : t.pollAt.isDue ts = true) :
    (∃ p done before, t.dispatch ts = .emit p (resume before done)) ∨
      t.dispatch ts = .quiet (.error .exhausted) t.reset := by
  unfold pollAt at h
  unfold dispatch
  split at h
  · cases h
  · next hr =>
    rw [if_neg hr]
    by_cases hseq : t.seqToTransmit = true
    · simp only [hseq, if_true]
      exact Or.inl ⟨_, _, _, rfl⟩
    · rw [Bool.not_eq_true] at hseq
      simp only [hseq, Bool.false_eq_true, if_false]
      by_cases hfl : (t.inFlight && isPast t.timer ts) = true
      · rw [if_pos (seqToTransmit_rewound hfl)]
        exact Or.inl ⟨_, _, _, rfl⟩
      · have hrw : t.rewound ts = t := by
          unfold rewound
          rw [if_neg hfl]
        rw [hrw, hseq]
        simp only [Bool.false_eq_true, if_false]
        by_cases hack : isPast t.ackAt ts = true
        · rw [if_pos hack]
          exact Or.inl ⟨_, _, _, rfl⟩
        · rw [if_neg hack]
          by_cases hcl : (t.state == .closed) = true
          · rw [if_pos hcl]
            exact Or.inl ⟨_, _, _, rfl⟩
          · rw [if_neg hcl]
            have hnow : ¬ ((t.state == .closed || t.seqToTransmit) = true) := by
              simp [hseq, hcl]
            rw [if_neg hnow, earlier_isDue, isPast_runningTimer] at h
            have htw : (t.state == .timeWait && isPast t.timer ts) = true := by
              cases h₁ : (t.state == .timeWait) <;> simp_all
            rw [if_pos htw]
            exact Or.inr rfl

lemma dispatchesWhenDue : DispatchesWhenDue Socket wire where
  early t ts h := by
    have hd : TcpSocket.dispatch t ts = .quiet (.error .exhausted) t := dispatch_early h
    unfold TcpSocket.dispatchTo
    rw [hd]
    exact ⟨rfl, rfl, rfl⟩
  due t ts h hex := by
    unfold TcpSocket.dispatchTo at hex ⊢
    rcases dispatch_due h with ⟨p, done, before, hd⟩ | hd
    · have hd : TcpSocket.dispatch t ts = .emit p (resume before done) := hd
      rw [hd] at hex
      cases hex
    · have hd : TcpSocket.dispatch t ts = .quiet (.error .exhausted) t.reset := hd
      rw [hd]
      exact Or.inl rfl

/-- The state after a segment is one that the table allows. -/
lemma segment_onPacket (s : TcpState) (flagSent : Bool) {control : TcpControl}
    (hsyn : control ≠ .syn) (hrst : control ≠ .rst) :
    (if control = .fin then finished (acknowledged s flagSent) else acknowledged s flagSent)
      ∈ s.onPacket control := by
  cases control <;> first | contradiction | skip
  all_goals cases flagSent <;> cases s <;> decide

lemma mem_onPacket_self (s : TcpState) (control : TcpControl) : s ∈ s.onPacket control := by
  cases s <;> cases control <;> decide

lemma processSegment_state (t : Socket) (ts : SmolInstant) {repr : TcpRepr}
    (hsyn : repr.control ≠ .syn) (hrst : repr.control ≠ .rst) :
    (t.processSegment ts repr).state ∈ t.state.onPacket repr.control := by
  unfold processSegment
  split
  · exact mem_onPacket_self _ _
  · exact segment_onPacket t.state t.flagSent hsyn hrst

lemma process_state (t : Socket) (ts : SmolInstant) (ip : IpRepr) (repr : TcpRepr) :
    (t.process ts ip repr).2.state ∈ t.state.onPacket repr.control := by
  unfold process
  split
  · exact mem_onPacket_self _ _
  · next hs hc => simp [hs, hc, TcpState.onPacket]
  · exact mem_onPacket_self _ _
  · next hs hc => simp [hs, hc, TcpState.onPacket]
  · next _ _ hc _ _ _ =>
    rw [hc]
    cases hs : t.state <;> simp_all [TcpState.onPacket]
  · exact mem_onPacket_self _ _
  · next _ hrst hsyn _ _ =>
    split
    · exact processSegment_state t ts hsyn hrst
    · exact mem_onPacket_self _ _

/-- The same state and the same bytes received. -/
def Keeps (t t' : Socket) : Prop := t'.state = t.state ∧ t'.rx = t.rx

lemma segmentSent_keeps (t : Socket) (ts : SmolInstant) : t.Keeps (t.segmentSent ts) := by
  unfold segmentSent
  dsimp only
  split <;> exact ⟨rfl, rfl⟩

/-- A dispatch keeps the state and the bytes received, or resets the socket. -/
lemma dispatch_keeps (t : Socket) (ts : SmolInstant) :
    t.dispatch ts = .quiet (.error .exhausted) t.reset ∨
      (∃ t', t.Keeps t' ∧ t.dispatch ts = .quiet (.error .exhausted) t') ∨
      ∃ p before done, t.Keeps before ∧ t.Keeps done ∧
        t.dispatch ts = .emit p (resume before done) := by
  unfold dispatch
  split
  · exact Or.inr (Or.inl ⟨t, ⟨rfl, rfl⟩, rfl⟩)
  · -- the socket after the timers have been looked at
    have ht' : t.Keeps (if t.seqToTransmit then t else t.rewound ts) ∧
        (if t.seqToTransmit then t else t.rewound ts).reset = t.reset := by
      unfold rewound
      split
      · exact ⟨⟨rfl, rfl⟩, rfl⟩
      · split <;> exact ⟨⟨rfl, rfl⟩, rfl⟩
    generalize (if t.seqToTransmit then t else t.rewound ts) = t' at ht'
    obtain ⟨⟨hs, hrx⟩, hreset⟩ := ht'
    dsimp only
    split
    · have hseg := segmentSent_keeps t' ts
      exact Or.inr (Or.inr ⟨_, _, _, ⟨hs, hrx⟩, ⟨hseg.1.trans hs, hseg.2.trans hrx⟩, rfl⟩)
    · split
      · refine Or.inr (Or.inr ⟨_, _, _, ?_, ?_, rfl⟩) <;> exact ⟨hs, hrx⟩
      · split
        · refine Or.inr (Or.inr ⟨_, _, _, ?_, ?_, rfl⟩) <;> exact ⟨hs, hrx⟩
        · split
          · rw [hreset]
            exact Or.inl rfl
          · exact Or.inr (Or.inl ⟨t', ⟨hs, hrx⟩, rfl⟩)

lemma dispatchTo_keeps (t : Socket) (ts : SmolInstant) :
    t.Keeps (TcpSocket.dispatchTo wire t ts).2.2 ∨
      (TcpSocket.dispatchTo wire t ts).2.2 = t.reset := by
  unfold TcpSocket.dispatchTo
  rcases dispatch_keeps t ts with h | ⟨t', hk, h⟩ | ⟨p, before, done, hb, hd, h⟩
  all_goals
    have h' : TcpSocket.dispatch t ts = t.dispatch ts := rfl
    rw [h', h]
  · exact Or.inr rfl
  · exact Or.inl hk
  · exact Or.inl hd

lemma closeMoves : CloseMoves Socket := by
  intro t
  show (close t).state = _
  unfold close
  split <;> rfl

lemma recvSide : RecvSide Socket wire where
  mayRecv_eq _ := rfl
  canRecv_eq _ := rfl
  recv_some t len hcan hlen := by
    change t.canRecv = true at hcan
    unfold canRecv at hcan
    rw [Bool.and_eq_true, decide_eq_true_eq] at hcan
    obtain ⟨b, bytes, hrx⟩ := List.exists_cons_of_length_pos hcan.2
    obtain ⟨n, rfl⟩ := Nat.exists_eq_add_of_lt hlen
    have hrecv : t.recvSlice (0 + n + 1)
        = .ok (b :: bytes.take (0 + n), { t with rx := t.rx.drop (0 + n + 1) }) := by
      unfold recvSlice
      rw [if_pos hcan.1, hrx]
      rfl
    exact ⟨_, _, _, hrecv⟩
  send_keeps t buf n t' h := by
    change t.sendSlice buf = _ at h
    unfold sendSlice at h
    split at h
    · cases h
      exact ⟨rfl, rfl⟩
    · cases h
  close_state := closeMoves
  close_recv t := by
    show (close t).rx.length = t.rx.length
    unfold close
    split <;> rfl
  dispatch_recv t ts h := by
    show (TcpSocket.dispatchTo wire t ts).2.2.rx.length = 0
    rcases dispatchTo_keeps t ts with hk | hreset
    · rw [hk.2]
      exact h
    · rw [hreset]
      rfl

lemma opensListening : OpensListening Socket := by
  intro addr t h
  change (listen (new rxBufSize txBufSize) addr >>= fun s =>
    (.ok { s with ackDelay := some 0 } : Except Error Socket)) = .ok t at h
  unfold listen at h
  split at h
  · cases h
  · split at h
    · cases h
    · cases h
      rfl

lemma slicesKeepState : SlicesKeepState Socket where
  send t buf n t' h := (recvSide.send_keeps t buf n t' h).1
  recv t len bytes t' h := by
    change t.recvSlice len = _ at h
    unfold recvSlice at h
    split at h
    · cases h
      rfl
    · cases h

lemma transitions : Transitions Socket wire where
  process := process_state
  dispatch t ts := by
    rcases dispatchTo_keeps t ts with hk | hreset
    · exact Or.inl hk.1
    · exact Or.inr (congrArg state hreset)

lemma maySend_states : MaySend Socket where
  maySend_eq _ := rfl
  canSend_may t h := by
    change (t.maySend && _) = true at h
    rw [Bool.and_eq_true] at h
    exact h.1

lemma slices : Slices Socket where
  recv t len hcan := by
    change (t.mayRecv && decide (0 < t.rx.length)) = true at hcan
    rw [Bool.and_eq_true, decide_eq_true_eq] at hcan
    have hrecv : t.recvSlice len = .ok (t.rx.take len, { t with rx := t.rx.drop len }) := by
      unfold recvSlice
      rw [if_pos hcan.1]
    refine ⟨t.rx.length, t.rx.take len, _, hcan.2, hrecv, List.length_take, fun hnil => ?_⟩
    -- nothing was taken, so the bytes are still there
    have hlen : len = 0 := by
      have hmin : min len t.rx.length = 0 := by rw [← List.length_take, hnil]; rfl
      omega
    subst hlen
    exact hcan.1
  send t buf hcan := by
    change (t.maySend && decide (t.tx < t.txCap)) = true at hcan
    rw [Bool.and_eq_true, decide_eq_true_eq] at hcan
    have hsend : t.sendSlice buf = .ok (min buf.length (t.txCap - t.tx),
        { t with tx := t.tx + min buf.length (t.txCap - t.tx) }) := by
      unfold sendSlice
      rw [if_pos hcan.1]
    exact ⟨t.txCap - t.tx, _, _, by omega, hsend, rfl, fun _ => hcan.1⟩

lemma endpoint_eq (addr : SocketAddr) : endpoint addr = .fromSocketAddr addr := by
  cases addr with
  | v4 ip port => rfl
  | v6 segments port =>
    refine congrArg (fun o => IpEndpoint.mk (.ipv6 ⟨o⟩) port) (funext fun i => ?_)
    exact if_congr Fin.ext_iff rfl rfl

/-- A socket that listens again has the local address that it had. -/
def listenAddress (t : Socket) : IpAddress := t.localEndpoint.addr

lemma keepsEndpoints {t t' : Socket} (hs : t'.state = t.state)
    (hl : t'.localEndpoint = t.localEndpoint) (hr : t'.remoteEndpoint = t.remoteEndpoint) :
    KeepsEndpoints listenAddress t t' := by
  by_cases hclosed : t.state = .closed
  · exact Or.inl (hs.trans hclosed)
  · exact Or.inr ⟨hclosed, hl, hr, congrArg IpEndpoint.addr hl⟩

lemma segmentSent_endpoints (t : Socket) (ts : SmolInstant) :
    KeepsEndpoints listenAddress t (t.segmentSent ts) := by
  unfold segmentSent
  dsimp only
  split <;> exact keepsEndpoints rfl rfl rfl

lemma rewound_endpoints (t : Socket) (ts : SmolInstant) :
    KeepsEndpoints listenAddress t (if t.seqToTransmit then t else t.rewound ts) := by
  unfold rewound
  split
  · exact keepsEndpoints rfl rfl rfl
  · split <;> exact keepsEndpoints rfl rfl rfl

lemma keepsEndpoints_trans {t t₁ t₂ : Socket} (h : KeepsEndpoints listenAddress t t₁)
    (h' : KeepsEndpoints listenAddress t₁ t₂) : KeepsEndpoints listenAddress t t₂ := by
  rcases h' with h' | ⟨hopen, hl', hr', ha'⟩
  · exact Or.inl h'
  · obtain ⟨hs, hl, hr, ha⟩ := h.resolve_left hopen
    exact Or.inr ⟨hs, hl'.trans hl, hr'.trans hr, ha'.trans ha⟩

/-- A dispatch keeps the endpoints, or the socket is closed after it. -/
lemma dispatch_endpoints (t : Socket) (ts : SmolInstant) :
    (∃ t', KeepsEndpoints listenAddress t t' ∧ t.dispatch ts = .quiet (.error .exhausted) t') ∨
      ∃ p before done, KeepsEndpoints listenAddress t done ∧
        t.dispatch ts = .emit p (resume before done) := by
  unfold dispatch
  split
  · exact Or.inl ⟨t, keepsEndpoints rfl rfl rfl, rfl⟩
  · have ht' := rewound_endpoints t ts
    generalize (if t.seqToTransmit then t else t.rewound ts) = t' at ht'
    dsimp only
    split
    · exact Or.inr ⟨_, _, _, keepsEndpoints_trans ht' (segmentSent_endpoints t' ts), rfl⟩
    · split
      · refine Or.inr ⟨_, _, _, keepsEndpoints_trans ht' ?_, rfl⟩
        exact keepsEndpoints rfl rfl rfl
      · split
        · next hclosed =>
          refine Or.inr ⟨_, _, _, Or.inl ?_, rfl⟩
          exact beq_iff_eq.mp hclosed
        · split
          · exact Or.inl ⟨_, Or.inl rfl, rfl⟩
          · exact Or.inl ⟨t', ht', rfl⟩

lemma dispatchTo_endpoints (t : Socket) (ts : SmolInstant) :
    KeepsEndpoints listenAddress t (TcpSocket.dispatchTo wire t ts).2.2 := by
  have hd : TcpSocket.dispatch t ts = t.dispatch ts := rfl
  unfold TcpSocket.dispatchTo
  rcases dispatch_endpoints t ts with ⟨t', hk, h⟩ | ⟨p, before, done, hk, h⟩
  · rw [hd, h]
    exact hk
  · rw [hd, h]
    exact hk

lemma processSegment_endpoints (t : Socket) (ts : SmolInstant) (repr : TcpRepr) :
    KeepsEndpoints listenAddress t (t.processSegment ts repr) := by
  unfold processSegment
  split
  · exact keepsEndpoints rfl rfl rfl
  · dsimp only
    generalize hstate : (if repr.control = .fin then finished (acknowledged t.state t.flagSent)
      else acknowledged t.state t.flagSent) = state
    by_cases hclosed : state = .closed
    · exact Or.inl hclosed
    · refine Or.inr ⟨?_, if_neg hclosed, if_neg hclosed, congrArg IpEndpoint.addr (if_neg hclosed)⟩
      -- a closed socket stays closed
      intro ht
      change t.state = .closed at ht
      rw [ht] at hstate
      exact hclosed (by rw [← hstate]; cases t.flagSent <;> cases repr.control <;> rfl)

lemma endpoints : Endpoints Socket wire listenAddress where
  new_closed _ _ := rfl
  listen_sets t addr t' h := by
    change t.listen addr = .ok t' at h
    unfold listen at h
    split at h
    · cases h
    · split at h
      · cases h
      · cases h
        refine ⟨endpoint_eq addr, rfl, ?_⟩
        show (endpoint addr).addr = _
        rw [endpoint_eq]
  ackDelay_keeps t d := keepsEndpoints rfl rfl rfl
  process_sets t ts ip repr := by
    show PacketEndpoints listenAddress t ip repr (t.process ts ip repr).2
    unfold process
    split
    · exact .keeps (keepsEndpoints rfl rfl rfl)
    · next hs hc => exact .syn hs hc rfl rfl (Or.inr rfl)
    · exact .keeps (keepsEndpoints rfl rfl rfl)
    · next hs hc => exact .rst hs hc rfl rfl rfl rfl
    · exact .keeps (Or.inl rfl)
    · exact .keeps (keepsEndpoints rfl rfl rfl)
    · split
      · exact .keeps (processSegment_endpoints t ts repr)
      · exact .keeps (keepsEndpoints rfl rfl rfl)
  dispatch_keeps := dispatchTo_endpoints
  send_keeps t buf n t' h := by
    change t.sendSlice buf = _ at h
    unfold sendSlice at h
    split at h
    · cases h
      exact keepsEndpoints rfl rfl rfl
    · cases h
  recv_keeps t len bytes t' h := by
    change t.recvSlice len = _ at h
    unfold recvSlice at h
    split at h
    · cases h
      exact keepsEndpoints rfl rfl rfl
    · cases h
  close_keeps t := by
    have hends : (close t).localEndpoint = t.localEndpoint ∧
        (close t).remoteEndpoint = t.remoteEndpoint := by
      unfold close
      split <;> exact ⟨rfl, rfl⟩
    by_cases hclosed : t.state = .closed
    · refine Or.inl ((closeMoves t).trans ?_)
      show t.state.afterClose = .closed
      rw [hclosed]
      rfl
    · exact Or.inr ⟨hclosed, hends.1, hends.2, congrArg IpEndpoint.addr hends.1⟩

end Socket

/-! ## Runs -/

abbrev Loop := State Socket (Queue AddrPair)

def clock : Clock := ⟨0⟩

def clientIp : Ipv4Address := ⟨10, 0, 0, 2⟩

def serverIp : Ipv4Address := ⟨10, 0, 0, 1⟩

def pair : AddrPair := ⟨.v4 clientIp 40000, .v4 serverIp 80⟩

/-- A packet of the client. -/
def fromClient (control : TcpControl) (ack : Bool) (payload : List UInt8) : List UInt8 :=
  emit (.ipv4 ⟨clientIp, serverIp, .tcp, 20 + payload.length, 64⟩)
    { srcPort := 40000, dstPort := 80, control, seqNumber := 0
      ackNumber := if ack then some 0 else none, windowLen := 65535, windowScale := none
      maxSegSize := none, sackPermitted := false, sackRanges := [], payload }

/-- The selector is polled, and a packet of the client is there. -/
def receive (control : TcpControl) (ack : Bool) (payload : List UInt8) : Label :=
  .poll ⟨none, some (.ok (fromClient control ack payload))⟩

/-- The selector is polled while the device is not ready. -/
def idle : Label := .poll ⟨none, none⟩

/-- The selector is polled, and the device has written the packet that it was given. -/
def written : Label := .poll ⟨some (.ok 40), none⟩

/-- The selector is polled, and the device fails to read. -/
def failing : Label := .poll ⟨none, some (.error .device)⟩

/-- The halves of the first connection. -/
def reader : Half := ⟨pair, .read, 0⟩

def writer : Half := ⟨pair, .write, 0⟩

/-- The SYN of the client makes a stream, which the application takes. -/
def accept : List Label := [.turn, receive .syn false [], .resume, .app .accept]

/-- After that, the SYN is processed. -/
def connect : List Label := accept ++ [.resume, .resume]

/-- The socket whose deadline has passed is dispatched. -/
def dispatchDue : List Label := [.turn, idle, .turn]

/-- The handshake; the device is still busy with the SYN-ACK. -/
def handshake : List Label := connect ++ dispatchDue ++ [receive .none true []]

/-- A write's update is under way while a packet of the client waits for its ACK, in `next_poll`,
and the device is busy. The client resets the connection, both halves are dropped, and the
connection is removed before the update is delivered. -/
def staleUpdate : List Label :=
  handshake ++
    [.turn, receive .psh true [1], .turn, idle, .turn,
      .app (.write writer true 0 [0]), receive .rst true [],
      .app (.drop writer), .app (.drop reader), .turn, idle, .turn, idle,
      .turn, written, .turn, idle]

/-- The writer is closed, its FIN is sent, and it is closed again. A packet of the client comes
before the update of the second close. -/
def overtakenUpdate : List Label :=
  handshake ++
    [.turn, written, .app (.close writer true), .turn, idle] ++ dispatchDue ++
    [.app (.close writer true), receive .psh true [1], .turn, idle]

/-- A write's update is under way while the connection is in `next_poll`, and both halves are
dropped. The dispatch sends data and FIN; the update, which is delivered after it, has the
connection dispatched again at once. -/
def earlyDispatch : List Label :=
  handshake ++
    [.turn, receive .psh true [1], .turn, idle, .turn,
      .app (.write writer true 0 [0]), .app (.drop writer), .app (.drop reader),
      idle, .turn, idle, .turn, written, .turn, idle, .turn, idle, .turn, written]

/-- The SYN-ACK is sent, no ACK comes, and it is sent again when the timer has run out. -/
def retransmission : List Label :=
  connect ++ dispatchDue ++ [written, .turn, .elapse 700300000, idle, .turn]

/-- The reader waits for data. -/
def waitingReader : List Label := handshake ++ [.app (.read reader true 7 10)]

/-- The application fills the transmit buffer, of which one segment has been sent, and waits. -/
def waitingWriter : List Label :=
  handshake ++
    [.turn, written, .app (.write writer true 0 (List.replicate 1024 0)), .turn, idle] ++
    dispatchDue ++ List.replicate 31 (.app (.write writer true 0 (List.replicate 1024 0))) ++
    [.app (.write writer true 5 [0])]

/-- The selector is polled, and a SYN from another port of the client is there. -/
def synFrom (port : UInt16) : Label :=
  .poll ⟨none, some (.ok (emit (.ipv4 ⟨clientIp, serverIp, .tcp, 20, 64⟩)
    { srcPort := port, dstPort := 80, control := .syn, seqNumber := 0, ackNumber := none
      windowLen := 65535, windowScale := none, maxSegSize := none, sackPermitted := false
      sackRanges := [], payload := [] }))⟩

/-- The application serves its first stream while two others arrive: the second stays in the accept
channel, and the third finds it full. The application writes and drops the reader. -/
def crowded : List Label :=
  handshake ++ [.turn, synFrom 40001, .resume, .resume, .resume, .turn, synFrom 40002,
    .app (.write writer true 0 [0]), .app (.drop reader)]

/-- The halves of the second connection. -/
def otherReader : Half := ⟨⟨.v4 clientIp 40001, .v4 serverIp 80⟩, .read, 1⟩

def otherWriter : Half := { otherReader with rw := .write }

/-- As in `staleUpdate`, while the reader of a second connection waits. The head of the loop panics,
and its task is dropped. -/
def orphaned : List Label :=
  handshake ++
    [.turn, receive .psh true [1], .turn, idle, .turn,
      synFrom 40001, .resume, .resume, .resume, .app .accept, .turn,
      .app (.write writer true 0 [0]), receive .rst true [],
      .app (.drop writer), .app (.drop reader), .turn, idle, .turn, idle,
      .turn, written, .turn, idle, .turn, idle, .turn, written, .turn, idle,
      .app (.read otherReader true 9 10), .unwind ⟨none, none⟩]

/-- Whether the labels make a run with the given property. -/
def check (ls : List Label) (f : List (Loop × Label) → Loop → Bool) : Bool :=
  match Transition.record (State.step wire) [] (State.init clock) ls with
  | .ok (hist, s) => f hist s
  | .error _ => false

/-- Whether a step panics in the given way. -/
def panics (s : Loop) (l : Label) (p : Panic) : Bool :=
  match s.step wire l with
  | .ok _ => false
  | .error e => e = .panic p

lemma step_of_panics {s : Loop} {l : Label} {p : Panic} (h : panics s l p = true) :
    s.step wire l = .error (.panic p) := by
  unfold panics at h
  split at h
  · cases h
  · next e he => rw [he, of_decide_eq_true h]

/-- Whether a step leads to a state with the given property. -/
def stepsTo (s : Loop) (l : Label) (f : Loop → Bool) : Bool :=
  match s.step wire l with
  | .ok s' => f s'
  | .error _ => false

lemma step_of_stepsTo {s : Loop} {l : Label} {f : Loop → Bool} (h : stepsTo s l f = true) :
    ∃ s', s.step wire l = .ok s' ∧ f s' = true := by
  unfold stepsTo at h
  split at h
  · next s' hs => exact ⟨s', hs, h⟩
  · cases h

/-- The time of a `poll_at` that has one. -/
def timeOf (p : PollAt) : Option SmolInstant :=
  match p with
  | .time t => some t
  | _ => none

lemma eq_time_of_timeOf {p : PollAt} {t : SmolInstant} (h : timeOf p = some t) : p = .time t := by
  cases p <;> cases h
  rfl

lemma run_of_check (ls : List Label) (f : List (Loop × Label) → Loop → Bool)
    (h : check ls f = true) : ∃ hist s, State.LoopRun wire clock hist s ∧ f hist s = true := by
  unfold check at h
  split at h
  · next hist s hr => exact ⟨hist, s, Transition.run_of_record .start hr, h⟩
  · cases h

end Reference
end Ustunet
