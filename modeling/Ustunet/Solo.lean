import Ustunet.World
import Ustunet.ConnectionTheorems
import Ustunet.Lib.Flow

/-!
# One connection on its own

`Solo` is the life of one connection with everything else left out: no other connections, no
queue, no channels, no device. It says what the component is for. A SYN makes a connection, whose
stream waits to be accepted; the application reads, writes, closes and drops its two halves in any
order; the loop puts the connection in the pool, gives it packets, dispatches it, is told of each
half that is dropped, and removes it once it has been told of both.

`Solo.step` is what each of these does. What the loop does to what is shared is taken from
`Connection` without the queue, which it depends on in no way.
-/

namespace Ustunet

variable {T Q : Type} [TcpSocket T] [DelayQueue AddrPair Q]

/-! ## What the loop does to what is shared -/

namespace RwStatus

/-- What `Connection::process` does to what is shared. -/
def processed (r : RwStatus) (s : Shared T) (timestamp : SmolInstant) (ipRepr : IpRepr)
    (tcpRepr : TcpRepr) : Shared T :=
  match checkAcceptability s.tcp ipRepr tcpRepr with
  | .error _ => s
  | .ok () =>
    let tcp := (TcpSocket.process s.tcp timestamp ipRepr tcpRepr).2
    let s := { s with tcp }
    r.wakeToClose (if TcpSocket.canRecv tcp then r.wakeReader s else s)

/-- What `Connection::dispatch` does to what is shared, and whether the connection is done with. -/
def dispatched (wire : Wire) (r : RwStatus) (s : Shared T) (timestamp : SmolInstant) :
    Bool × Shared T :=
  let (res, _, tcp) := TcpSocket.dispatchTo wire s.tcp timestamp
  let s := r.wakeToClose { s with tcp }
  let s := if TcpSocket.canSend tcp then r.wakeWriter s else s
  if r.bothDropped && (!(TcpSocket.remoteEndpoint tcp).isSpecified
      || Connection.isExhausted res || TcpSocket.pollAt tcp == .ingress) then (true, s)
  else (false, { s with pollingActive := TcpSocket.pollAt tcp == .now })

/-- What `Connection::drop_half` does to the flags and to what is shared. -/
def halfDropped (r : RwStatus) (s : Shared T) (rw : Close) : RwStatus × Shared T :=
  let r := { r with
    readerDropped := r.readerDropped || rw == .read
    writerDropped := r.writerDropped || rw == .write }
  (r, if r.writerDropped then { s with tcp := TcpSocket.close s.tcp } else s)

variable (r : RwStatus) {s : Shared T} (ts : SmolInstant)

/-- A packet for another socket changes nothing. -/
lemma processed_refused {ip : IpRepr} {tcp : TcpRepr} {e : Error}
    (h : checkAcceptability s.tcp ip tcp = .error e) : r.processed s ts ip tcp = s := by
  rw [processed, h]

lemma processed_tcp {ip : IpRepr} {tcp : TcpRepr} (h : checkAcceptability s.tcp ip tcp = .ok ()) :
    (r.processed s ts ip tcp).tcp = (TcpSocket.process s.tcp ts ip tcp).2 := by
  rw [processed, h]
  dsimp only
  split <;> simp

lemma dispatched_tcp (wire : Wire) :
    (r.dispatched wire s ts).2.tcp = (TcpSocket.dispatchTo wire s.tcp ts).2.2 := by
  unfold dispatched
  dsimp only
  split <;> split <;> simp

lemma halfDropped_tcp (rw : Close) :
    (r.halfDropped s rw).2.tcp
      = if (r.halfDropped s rw).1.writerDropped then TcpSocket.close s.tcp else s.tcp := by
  unfold halfDropped
  dsimp only
  split <;> rfl

end RwStatus

namespace Connection

variable {c c' : Connection} {s s' : Shared T} {q q' : DispatchQueue AddrPair Q}
  {ts : SmolInstant}

lemma processed_of_process {ip : IpRepr} {tcp : TcpRepr} {reply : Except Error (Option Packet)}
    (h : c.process s ts ip tcp q = (reply, s', q')) : s' = c.inner.processed s ts ip tcp := by
  unfold process at h
  unfold RwStatus.processed
  cases hacc : checkAcceptability s.tcp ip tcp with
  | error e =>
    rw [hacc] at h
    cases h
    rfl
  | ok =>
    rw [hacc] at h
    cases h
    rfl

lemma dispatched_of_dispatch {wire : Wire} {drop : Bool} {buf : List UInt8}
    (h : c.dispatch wire s ts q = (drop, buf, s', q')) :
    c.inner.dispatched wire s ts = (drop, s') := by
  unfold dispatch at h
  unfold RwStatus.dispatched
  dsimp only at h ⊢
  split at h
  · next hc =>
    cases h
    rw [if_pos hc]
  · next hc =>
    cases h
    rw [if_neg hc]

lemma halfDropped_of_dropHalf {rw : Close} (h : c.dropHalf s rw q = (c', s', q')) :
    c.inner.halfDropped s rw = (c'.inner, s') := by
  obtain ⟨rfl, hcases⟩ := dropHalf_cases h
  have hinner : (c.inner.halfDropped s rw).1 = (c.marked rw).inner := by
    cases rw <;> simp [RwStatus.halfDropped, marked]
  have hshared : (c.inner.halfDropped s rw).2
      = if (c.inner.halfDropped s rw).1.writerDropped then { s with tcp := TcpSocket.close s.tcp }
        else s := rfl
  rw [hinner] at hshared
  rcases hcases with ⟨hw, rfl, -⟩ | ⟨hw, rfl, -⟩
  · rw [hw] at hshared
    exact Prod.ext hinner hshared
  · rw [hw] at hshared
    exact Prod.ext hinner hshared

end Connection

/-! ## The life of a connection -/

/-- Where a half of the stream is. -/
inductive Place
  /-- Not made yet, or dropped and the loop has been told. -/
  | gone
  /-- On its way to the application. -/
  | waiting
  /-- With the application. -/
  | alive
  /-- Dropped, and the message is under way. -/
  | dropped
deriving DecidableEq

/-- How far the loop is with a connection. -/
inductive Stage
  | unborn
  /-- In `create_syn`. -/
  | creating (pair : AddrPair)
  | pooled (inner : RwStatus)
  /-- Removed, or the loop has halted. -/
  | over
deriving DecidableEq

structure Solo (T : Type) where
  shared : Option (Shared T)
  stage : Stage
  place : Close → Place

inductive SoloEvent
  | create (pair : AddrPair)
  | accept
  /-- The stream is dropped before it reaches the application. -/
  | discard
  | insert
  | read (lock : Bool) (waker : Waker) (len : ℕ)
  | write (handle : SocketHandle) (lock : Bool) (waker : Waker) (buf : List UInt8)
  | close (handle : SocketHandle) (lock : Bool)
  | drop (rw : Close)
  /-- The loop handles the half-close message of a side. -/
  | told (rw : Close)
  | process (timestamp : SmolInstant) (ipRepr : IpRepr) (tcpRepr : TcpRepr)
  | dispatch (timestamp : SmolInstant)
  /-- The loop returns or panics. -/
  | stop
deriving DecidableEq

namespace Solo

def init : Solo T := ⟨none, .unborn, fun _ => .gone⟩

/-- A call of the application on a half that it has. -/
def call (c : Solo T) (rw : Close) (f : Shared T → Shared T) : Except Stop (Solo T) :=
  match c.place rw, c.shared with
  | .alive, some s => .ok { c with shared := some (f s) }
  | _, _ => .error .disabled

/-- A step of the loop on a connection that is in the pool. -/
def serve (c : Solo T) (f : RwStatus → Shared T → Except Stop (Solo T)) : Except Stop (Solo T) :=
  match c.stage, c.shared with
  | .pooled inner, some s => f inner s
  | _, _ => .error .disabled

/-- Both halves of the stream go from one place to another. -/
def move (c : Solo T) (src dst : Place) : Except Stop (Solo T) :=
  if c.place .read = src ∧ c.place .write = src then .ok { c with place := fun _ => dst }
  else .error .disabled

def step (wire : Wire) (c : Solo T) (e : SoloEvent) : Except Stop (Solo T) :=
  match e with
  | .create pair =>
    match c.stage, (openSocket pair.localAddr : Except Error T) with
    | .unborn, .ok tcp => .ok ⟨some (.new tcp), .creating pair, fun _ => .waiting⟩
    | _, _ => .error .disabled
  | .accept => c.move .waiting .alive
  | .discard => c.move .waiting .dropped
  | .insert =>
    match c.stage with
    | .creating pair => .ok { c with stage := .pooled ⟨pair, false, false⟩ }
    | _ => .error .disabled
  | .read lock waker len => c.call .read fun s => (ReadHalf.pollReadInner lock s waker len).2
  | .write handle lock waker buf =>
    c.call .write fun s => (WriteHalf.pollWriteInner lock s handle waker buf).2.1
  | .close handle lock => c.call .write fun s => (WriteHalf.pollCloseInner lock s handle).2.1
  | .drop rw =>
    if c.place rw = .alive then .ok { c with place := Function.update c.place rw .dropped }
    else .error .disabled
  | .told rw =>
    c.serve fun inner s =>
      if c.place rw = .dropped then
        let (inner, s) := inner.halfDropped s rw
        .ok ⟨some s, .pooled inner, Function.update c.place rw .gone⟩
      else .error .disabled
  | .process timestamp ipRepr tcpRepr =>
    c.serve fun inner s =>
      .ok { c with shared := some (inner.processed s timestamp ipRepr tcpRepr) }
  | .dispatch timestamp =>
    c.serve fun inner s =>
      let (drop, s) := inner.dispatched wire s timestamp
      .ok { c with shared := some s, stage := if drop then .over else .pooled inner }
  | .stop =>
    match c.stage with
    | .pooled _ | .over =>
      -- what the halves had sent is lost
      .ok { c with
        stage := .over, place := fun rw => if c.place rw = .dropped then .gone else c.place rw }
    | _ => .error .disabled

variable {wire : Wire} {c : Solo T} {inner : RwStatus} {s : Shared T} {ts : SmolInstant}

/-! What the steps of the loop do. -/

lemma step_process (hstage : c.stage = .pooled inner) (hs : c.shared = some s) (ip : IpRepr)
    (tcp : TcpRepr) : c.step wire (.process ts ip tcp)
      = .ok { c with shared := some (inner.processed s ts ip tcp) } := by
  rw [step, serve, hstage, hs]

lemma step_dispatch (hstage : c.stage = .pooled inner) (hs : c.shared = some s) {drop : Bool}
    {s' : Shared T} (hd : inner.dispatched wire s ts = (drop, s')) :
    c.step wire (.dispatch ts)
      = .ok { c with shared := some s', stage := if drop then .over else .pooled inner } := by
  rw [step, serve, hstage, hs]
  dsimp only
  rw [hd]

lemma step_create (hstage : c.stage = .unborn) {pair : AddrPair} {tcp : T}
    (hopen : openSocket pair.localAddr = .ok tcp) :
    c.step wire (.create pair) = .ok ⟨some (.new tcp), .creating pair, fun _ => .waiting⟩ := by
  rw [step, hstage, hopen]

lemma step_insert {pair : AddrPair} (hstage : c.stage = .creating pair) :
    c.step wire .insert = .ok { c with stage := .pooled ⟨pair, false, false⟩ } := by
  rw [step, hstage]

lemma step_stop (hstage : (∃ inner, c.stage = .pooled inner) ∨ c.stage = .over) :
    c.step wire .stop = .ok { c with
      stage := .over
      place := fun rw => if c.place rw = .dropped then .gone else c.place rw } := by
  rcases hstage with ⟨inner, h⟩ | h <;> rw [step, h]

lemma step_told (hstage : c.stage = .pooled inner) (hs : c.shared = some s) {rw : Close}
    (hplace : c.place rw = .dropped) {inner' : RwStatus} {s' : Shared T}
    (hd : inner.halfDropped s rw = (inner', s')) :
    c.step wire (.told rw)
      = .ok ⟨some s', .pooled inner', Function.update c.place rw .gone⟩ := by
  rw [step, serve, hstage, hs]
  dsimp only
  rw [if_pos hplace, hd]

/-- The steps that succeed. -/
inductive Steps (wire : Wire) (c : Solo T) : SoloEvent → Solo T → Prop
  | create {pair : AddrPair} {tcp : T} (hstage : c.stage = .unborn)
      (hopen : openSocket pair.localAddr = .ok tcp) :
      Steps wire c (.create pair) ⟨some (.new tcp), .creating pair, fun _ => .waiting⟩
  | accept (hplace : ∀ rw, c.place rw = .waiting) :
      Steps wire c .accept { c with place := fun _ => .alive }
  | discard (hplace : ∀ rw, c.place rw = .waiting) :
      Steps wire c .discard { c with place := fun _ => .dropped }
  | insert {pair : AddrPair} (hstage : c.stage = .creating pair) :
      Steps wire c .insert { c with stage := .pooled ⟨pair, false, false⟩ }
  | read {s s' : Shared T} {r : Poll (Except IoError (List UInt8))} (lock : Bool) (waker : Waker)
      (len : ℕ) (hplace : c.place .read = .alive) (hs : c.shared = some s)
      (hr : ReadHalf.pollReadInner lock s waker len = (r, s')) :
      Steps wire c (.read lock waker len) { c with shared := some s' }
  | write {s s' : Shared T} {r : Poll (Except IoError ℕ)} {update : Option PollUpdate}
      (handle : SocketHandle) (lock : Bool) (waker : Waker) (buf : List UInt8)
      (hplace : c.place .write = .alive) (hs : c.shared = some s)
      (hw : WriteHalf.pollWriteInner lock s handle waker buf = (r, s', update)) :
      Steps wire c (.write handle lock waker buf) { c with shared := some s' }
  | close {s s' : Shared T} {r : Poll Unit} {update : Option PollUpdate} (handle : SocketHandle)
      (lock : Bool) (hplace : c.place .write = .alive) (hs : c.shared = some s)
      (hw : WriteHalf.pollCloseInner lock s handle = (r, s', update)) :
      Steps wire c (.close handle lock) { c with shared := some s' }
  | drop {rw : Close} (hplace : c.place rw = .alive) :
      Steps wire c (.drop rw) { c with place := Function.update c.place rw .dropped }
  | told {inner : RwStatus} {s : Shared T} {rw : Close} (hstage : c.stage = .pooled inner)
      (hs : c.shared = some s) (hplace : c.place rw = .dropped) :
      Steps wire c (.told rw) ⟨some (inner.halfDropped s rw).2, .pooled (inner.halfDropped s rw).1,
        Function.update c.place rw .gone⟩
  | process {inner : RwStatus} {s : Shared T} (ts : SmolInstant) (ip : IpRepr) (tcp : TcpRepr)
      (hstage : c.stage = .pooled inner) (hs : c.shared = some s) :
      Steps wire c (.process ts ip tcp) { c with shared := some (inner.processed s ts ip tcp) }
  | dispatch {inner : RwStatus} {s s' : Shared T} {drop : Bool} {ts : SmolInstant}
      (hstage : c.stage = .pooled inner) (hs : c.shared = some s)
      (hd : inner.dispatched wire s ts = (drop, s')) :
      Steps wire c (.dispatch ts)
        { c with shared := some s', stage := if drop then .over else .pooled inner }
  | stop (hstage : (∃ inner, c.stage = .pooled inner) ∨ c.stage = .over) :
      Steps wire c .stop { c with
        stage := .over, place := fun rw => if c.place rw = .dropped then .gone else c.place rw }

variable {c' : Solo T}

omit [TcpSocket T] in
lemma move_ok {src dst : Place} (h : c.move src dst = .ok c') :
    (∀ rw, c.place rw = src) ∧ c' = { c with place := fun _ => dst } := by
  unfold move at h
  split at h
  · next hp =>
    cases h
    exact ⟨fun rw => by cases rw; exacts [hp.1, hp.2], rfl⟩
  · cases h

omit [TcpSocket T] in
lemma call_ok {rw : Close} {f : Shared T → Shared T} (h : c.call rw f = .ok c') :
    ∃ s, c.place rw = .alive ∧ c.shared = some s ∧ c' = { c with shared := some (f s) } := by
  unfold call at h
  split at h
  · next s hp hs =>
    cases h
    exact ⟨s, hp, hs, rfl⟩
  · cases h

omit [TcpSocket T] in
lemma serve_ok {f : RwStatus → Shared T → Except Stop (Solo T)} (h : c.serve f = .ok c') :
    ∃ inner s, c.stage = .pooled inner ∧ c.shared = some s ∧ f inner s = .ok c' := by
  unfold serve at h
  split at h
  · next inner s hstage hs => exact ⟨inner, s, hstage, hs, h⟩
  · cases h

theorem steps_of_step {e : SoloEvent} (h : c.step wire e = .ok c') : Steps wire c e c' := by
  cases e with
  | create pair =>
    simp only [step] at h
    split at h
    · next tcp hstage hopen =>
      cases h
      exact .create hstage hopen
    · cases h
  | accept =>
    obtain ⟨hplace, rfl⟩ := move_ok h
    exact .accept hplace
  | discard =>
    obtain ⟨hplace, rfl⟩ := move_ok h
    exact .discard hplace
  | insert =>
    simp only [step] at h
    split at h
    · next pair hstage =>
      cases h
      exact .insert hstage
    · cases h
  | read lock waker len =>
    obtain ⟨s, hplace, hs, rfl⟩ := call_ok h
    exact .read lock waker len hplace hs rfl
  | write handle lock waker buf =>
    obtain ⟨s, hplace, hs, rfl⟩ := call_ok h
    exact .write handle lock waker buf hplace hs rfl
  | close handle lock =>
    obtain ⟨s, hplace, hs, rfl⟩ := call_ok h
    exact .close handle lock hplace hs rfl
  | drop rw =>
    simp only [step] at h
    split at h
    · next hplace =>
      cases h
      exact .drop hplace
    · cases h
  | told rw =>
    obtain ⟨inner, s, hstage, hs, h⟩ := serve_ok h
    split at h
    · next hplace =>
      cases h
      exact .told hstage hs hplace
    · cases h
  | process ts ip tcp =>
    obtain ⟨inner, s, hstage, hs, h⟩ := serve_ok h
    cases h
    exact .process ts ip tcp hstage hs
  | dispatch ts =>
    obtain ⟨inner, s, hstage, hs, h⟩ := serve_ok h
    generalize hd : inner.dispatched wire s ts = r at h
    obtain ⟨drop, s'⟩ := r
    cases h
    exact .dispatch hstage hs hd
  | stop =>
    simp only [step] at h
    split at h
    · next inner hstage =>
      cases h
      exact .stop (Or.inl ⟨inner, hstage⟩)
    · next hstage =>
      cases h
      exact .stop (Or.inr hstage)
    · cases h

/-- A connection that is not made has nothing to share. -/
def Blank (c : Solo T) : Prop := c.stage = .unborn → c.shared = none

lemma blank_step {e : SoloEvent} (hc : c.Blank) (h : c.step wire e = .ok c') : c'.Blank := by
  intro hun
  cases steps_of_step h with
  | create | insert | told | stop => cases hun
  | accept | discard | drop => exact hc hun
  | read _ _ _ _ hs | write _ _ _ _ _ hs | close _ _ _ hs =>
    have hnone := hc hun
    rw [hs] at hnone
    cases hnone
  | process _ _ _ hstage =>
    rw [show c.stage = .unborn from hun] at hstage
    cases hstage
  | @dispatch _ _ _ drop =>
    cases drop <;> cases hun

end Solo

end Ustunet
