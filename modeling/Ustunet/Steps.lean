import Ustunet.World

/-!
# What a step of the world can do

`World.step` read backwards: `Steps w e w'` lists, for each event, when it can happen and what
it changes. `World.step` is unfolded only in this file; every invariant
is proved by cases on `Steps`. `Panics` does the same for the steps that panic.
-/

namespace Ustunet
namespace World

variable {T Q : Type} [TcpSocket T] [DelayQueue AddrPair Q]

/-- The steps of the world that succeed. -/
inductive Steps (wire : Wire) (w : World T Q) : Event → World T Q → Prop
  | elapse (nanos : ℕ) : Steps wire w (.elapse nanos) { w with now := w.now + nanos }
  | accept {id : ConnId} {rest : List ConnId} (hin : w.incoming = id :: rest) :
      Steps wire w (.app .accept) { w with incoming := rest }
  | closeListener (hrun : w.incoming = [] ∨ w.running = true) :
      Steps wire w (.app .closeListener)
        { w.dropStreams w.incoming with incoming := [], listening := false }
  | read {half : Half} {s : Shared T} (lock : Bool) (waker : Waker) (len : ℕ)
      (hmem : half ∈ w.halves) (hrw : half.rw = .read) (hacc : w.accepted half.conn = true)
      (hs : w.shared half.conn = some s) :
      Steps wire w (.app (.read half lock waker len))
        (w.setShared half.conn (ReadHalf.pollReadInner lock s waker len).2)
  | write {half : Half} {s s' : Shared T} {update : Option PollUpdate}
      {r : Poll (Except IoError ℕ)} (lock : Bool) (waker : Waker) (buf : List UInt8)
      (hmem : half ∈ w.halves) (hrw : half.rw = .write) (hacc : w.accepted half.conn = true)
      (hs : w.shared half.conn = some s)
      (hw : WriteHalf.pollWriteInner lock s half.socket waker buf = (r, s', update))
      (hrun : update = none ∨ w.running = true) :
      Steps wire w (.app (.write half lock waker buf))
        { w.setShared half.conn s' with polls := w.polls ++ update.toList }
  | close {half : Half} {s s' : Shared T} {update : Option PollUpdate} {r : Poll Unit}
      (lock : Bool) (hmem : half ∈ w.halves) (hrw : half.rw = .write)
      (hacc : w.accepted half.conn = true) (hs : w.shared half.conn = some s)
      (hw : WriteHalf.pollCloseInner lock s half.socket = (r, s', update))
      (hrun : update = none ∨ w.running = true) :
      Steps wire w (.app (.close half lock))
        { w.setShared half.conn s' with polls := w.polls ++ update.toList }
  | drop {half : Half} (hmem : half ∈ w.halves) (hacc : w.accepted half.conn = true)
      (hrun : w.running = true) :
      Steps wire w (.app (.drop half))
        { w with halves := w.halves.erase half, closing := w.closing ++ [half] }
  | process {pair : AddrPair} {c : Connection} {s s' : Shared T}
      {queue : DispatchQueue AddrPair Q} {reply : Except Error (Option Packet)}
      (timestamp : SmolInstant) (ipRepr : IpRepr) (tcpRepr : TcpRepr)
      (hc : w.sockets pair = some c) (hs : w.shared c.socket = some s)
      (hp : c.process s timestamp ipRepr tcpRepr w.queue = (reply, s', queue)) :
      Steps wire w (.process pair timestamp ipRepr tcpRepr)
        { w.setShared c.socket s' with queue }
  | dispatchKeep {addr : AddrPair} {c : Connection} {s s' : Shared T}
      {queue : DispatchQueue AddrPair Q} {buf : List UInt8}
      (hnext : w.nextPoll = some addr) (hc : w.sockets addr = some c)
      (hs : w.shared c.socket = some s)
      (hd : c.dispatch wire s (w.clock.timestamp w.now) w.queue = (false, buf, s', queue)) :
      Steps wire w (.dispatch addr)
        { w.setShared c.socket s' with queue, nextPoll := none }
  | dispatchDrop {addr : AddrPair} {c : Connection} {s s' : Shared T}
      {queue : DispatchQueue AddrPair Q} {buf : List UInt8}
      (hnext : w.nextPoll = some addr) (hc : w.sockets addr = some c)
      (hs : w.shared c.socket = some s)
      (hd : c.dispatch wire s (w.clock.timestamp w.now) w.queue = (true, buf, s', queue)) :
      Steps wire w (.dispatch addr)
        { (w.setShared c.socket s').setSocket addr none with
          queue := queue.remove addr, nextPoll := none }
  | dropHalf {half : Half} {rest : List Half} {c c' : Connection} {s s' : Shared T}
      {queue : DispatchQueue AddrPair Q} (hclosing : w.closing = half :: rest)
      (hc : w.sockets half.socket = some c) (hs : w.shared c.socket = some s)
      (hd : c.dropHalf s half.rw w.queue = (c', s', queue)) :
      Steps wire w (.dropHalf half)
        { (w.setShared c.socket s').setSocket half.socket (some c') with
          closing := rest, queue }
  | update {socket : SocketHandle} {pollAt : PollAt} {rest : List PollUpdate}
      (hpolls : w.polls = (socket, pollAt) :: rest) :
      Steps wire w (.update socket pollAt)
        { w with polls := rest, queue := w.queue.send socket pollAt }
  | expire {addr : AddrPair} {queue : DispatchQueue AddrPair Q} (hnext : w.nextPoll = none)
      (hq : w.queue.poll w.now = some (addr, queue)) :
      Steps wire w (.expire addr) { w with queue, nextPoll := some addr }
  | create {pair : AddrPair} {tcp : T} (hpair : w.sockets pair = none)
      (hcreating : w.creating = none) (hrun : w.running = true)
      (hopen : openSocket pair.localAddr = .ok tcp) :
      Steps wire w (.create pair)
        { w.setShared w.nextConn (.new tcp) with
          nextConn := w.nextConn + 1
          halves := w.halves ++ [⟨pair, .write, w.nextConn⟩, ⟨pair, .read, w.nextConn⟩]
          creating := some ⟨pair, w.nextConn, false⟩ }
  | handOver {pair : AddrPair} {id : ConnId} (hcreating : w.creating = some ⟨pair, id, false⟩)
      (hlist : w.listening = true) (hroom : w.incoming.length < acceptCapacity) :
      Steps wire w .handOver
        { w with incoming := w.incoming ++ [id], creating := some ⟨pair, id, true⟩ }
  | refuse {pair : AddrPair} {id : ConnId} (hcreating : w.creating = some ⟨pair, id, false⟩)
      (hlist : w.listening = false) :
      Steps wire w .refuse
        { w.dropStreams [id] with creating := some ⟨pair, id, true⟩ }
  | insert {pair : AddrPair} {id : ConnId} (hcreating : w.creating = some ⟨pair, id, true⟩)
      (hpair : w.sockets pair = none) :
      Steps wire w .insert
        { w.setSocket pair (some (.new id pair)) with creating := none }
  | stop (hcreating : w.creating = none) :
      Steps wire w .stop
        { w with
          sockets := fun _ => none, queue := .new w.clock, nextPoll := none, closing := [],
          polls := [], running := false }

variable {wire : Wire} {w w' : World T Q}

omit [TcpSocket T] in
lemma useHalf_ok {half : Half} {rw : Close} {s : Shared T} (h : w.useHalf half rw = .ok s) :
    half ∈ w.halves ∧ half.rw = rw ∧ w.accepted half.conn = true ∧
      w.shared half.conn = some s := by
  unfold useHalf at h
  split at h
  · next hc =>
    split at h
    · next s₁ hs =>
      obtain rfl := Except.ok.inj h
      exact ⟨hc.1, hc.2.1, hc.2.2, hs⟩
    · cases h
  · cases h

omit [TcpSocket T] in
lemma notify_ok {update : Option PollUpdate} (h : w.notify update = .ok w') :
    (update = none ∨ w.running = true) ∧ w' = { w with polls := w.polls ++ update.toList } := by
  cases update with
  | none =>
    obtain rfl := Except.ok.inj h
    exact ⟨Or.inl rfl, by simp⟩
  | some u =>
    rw [notify] at h
    split at h
    · next hr => exact ⟨Or.inr hr, (Except.ok.inj h).symm⟩
    · cases h

/-- An action of the application that succeeds is one of the steps listed. -/
lemma steps_of_act {a : Action} (h : w.act a = .ok w') : Steps wire w (.app a) w' := by
  cases a with
  | accept =>
    simp only [act] at h
    split at h
    · cases h
    · next id rest hin =>
      obtain rfl := Except.ok.inj h
      exact .accept hin
  | closeListener =>
    simp only [act] at h
    split at h
    · next hr =>
      obtain rfl := Except.ok.inj h
      exact .closeListener hr
    · cases h
  | read half lock waker len =>
    rw [act] at h
    cases hu : w.useHalf half .read with
    | error e => rw [hu] at h; cases h
    | ok s =>
      obtain ⟨hmem, hrw, hacc, hs⟩ := useHalf_ok hu
      rw [hu] at h
      obtain rfl := Except.ok.inj h
      exact .read lock waker len hmem hrw hacc hs
  | write half lock waker buf =>
    rw [act] at h
    cases hu : w.useHalf half .write with
    | error e => rw [hu] at h; cases h
    | ok s =>
      obtain ⟨hmem, hrw, hacc, hs⟩ := useHalf_ok hu
      rw [hu] at h
      obtain ⟨hrun, rfl⟩ := notify_ok h
      exact .write lock waker buf hmem hrw hacc hs rfl hrun
  | close half lock =>
    rw [act] at h
    cases hu : w.useHalf half .write with
    | error e => rw [hu] at h; cases h
    | ok s =>
      obtain ⟨hmem, hrw, hacc, hs⟩ := useHalf_ok hu
      rw [hu] at h
      obtain ⟨hrun, rfl⟩ := notify_ok h
      exact .close lock hmem hrw hacc hs rfl hrun
  | drop half =>
    simp only [act] at h
    split at h
    · next hc =>
      split at h
      · next hr =>
        obtain rfl := Except.ok.inj h
        exact .drop hc.1 hc.2 hr
      · cases h
    · cases h

lemma process_ok {pair : AddrPair} {ts : SmolInstant} {ip : IpRepr} {tcp : TcpRepr}
    {reply : Except Error (Option Packet)} (h : w.process pair ts ip tcp = .ok (reply, w')) :
    Steps wire w (.process pair ts ip tcp) w' := by
  unfold process at h
  split at h
  · cases h
  · next c hc =>
    split at h
    · cases h
    · next s hs =>
      cases h
      exact .process ts ip tcp hc hs rfl

lemma dispatch_ok {addr : AddrPair} {buf : List UInt8} (hnext : w.nextPoll = some addr)
    (h : w.dispatch wire addr = .ok (buf, w')) : Steps wire w (.dispatch addr) w' := by
  unfold dispatch at h
  simp only at h
  split at h
  · cases h
  · next c hc =>
    split at h
    · cases h
    · next s hs =>
      generalize hd : c.dispatch wire s (w.clock.timestamp w.now) w.queue = r at h
      obtain ⟨b, buf', s', queue⟩ := r
      cases b with
      | true =>
        cases h
        exact .dispatchDrop hnext hc hs hd
      | false =>
        cases h
        exact .dispatchKeep hnext hc hs hd

lemma dropTcpHalf_ok {half : Half} {rest : List Half} (hclosing : w.closing = half :: rest)
    (h : { w with closing := rest }.dropTcpHalf half.socket half.rw = .ok w') :
    Steps wire w (.dropHalf half) w' := by
  unfold dropTcpHalf at h
  split at h
  · cases h
  · next c hc =>
    split at h
    · cases h
    · next s hs =>
      cases h
      exact .dropHalf hclosing hc hs rfl

lemma create_ok {pair : AddrPair} (hpair : w.sockets pair = none) (hcreating : w.creating = none)
    (hrun : w.running = true) (h : w.create pair = .ok w') :
    Steps wire w (.create pair) w' := by
  unfold create at h
  cases ho : (openSocket pair.localAddr : Except Error T) with
  | error e => rw [ho] at h; cases h
  | ok tcp =>
    rw [ho] at h
    cases h
    exact .create hpair hcreating hrun ho

/-- Every step of the world is one of the steps listed. -/
theorem steps_of_step {e : Event} (h : w.step wire e = .ok w') : Steps wire w e w' := by
  cases e with
  | elapse nanos =>
    obtain rfl := Except.ok.inj h
    exact .elapse nanos
  | app a => exact steps_of_act h
  | process pair ts ip tcp =>
    rw [step] at h
    cases hp : w.process pair ts ip tcp with
    | error e => rw [hp] at h; cases h
    | ok r =>
      rw [hp] at h
      cases h
      exact process_ok hp
  | dispatch addr =>
    simp only [step] at h
    split at h
    · next hnext =>
      cases hp : w.dispatch wire addr with
      | error e => rw [hp] at h; cases h
      | ok r =>
        rw [hp] at h
        cases h
        exact dispatch_ok hnext hp
    · cases h
  | dropHalf half =>
    simp only [step] at h
    split at h
    · cases h
    · next m rest hm =>
      split at h
      · next he => subst he; exact dropTcpHalf_ok hm h
      · cases h
  | update socket pollAt =>
    simp only [step] at h
    split at h
    · cases h
    · next u rest hu =>
      split at h
      · next he =>
        subst he
        cases h
        exact .update hu
      · cases h
  | expire addr =>
    simp only [step] at h
    split at h
    · next hnext =>
      split at h
      · next s queue hq =>
        split at h
        · next he =>
          subst he
          cases h
          exact .expire hnext hq
        · cases h
      · cases h
    · cases h
  | create pair =>
    simp only [step] at h
    split at h
    · next hc =>
      split at h
      · next w₁ h₁ =>
        cases h
        exact create_ok hc.1 hc.2.1 hc.2.2 h₁
      · cases h
    · cases h
  | handOver =>
    simp only [step] at h
    split at h
    · next k hk =>
      obtain ⟨pair, id, handed⟩ := k
      split at h
      · next hc =>
        obtain ⟨hh, hl, hr⟩ := hc
        obtain rfl : handed = false := by simpa using hh
        cases h
        exact .handOver hk hl hr
      · cases h
    · cases h
  | refuse =>
    simp only [step] at h
    split at h
    · next k hk =>
      obtain ⟨pair, id, handed⟩ := k
      split at h
      · next hc =>
        obtain ⟨hh, hl⟩ := hc
        obtain rfl : handed = false := by simpa using hh
        cases h
        exact .refuse hk (by simpa using hl)
      · cases h
    · cases h
  | insert =>
    simp only [step] at h
    split at h
    · next k hk =>
      obtain ⟨pair, id, handed⟩ := k
      split at h
      · next hh =>
        obtain rfl : handed = true := hh
        split at h
        · next hp =>
          cases h
          exact .insert hk hp
        · cases h
      · cases h
    · cases h
  | stop =>
    simp only [step] at h
    split at h
    · next hc =>
      cases h
      exact .stop hc
    · cases h

/-! ## What is shared by one connection -/

/-- How a step changes what is shared by the connection with the given number. -/
inductive SharedStep (wire : Wire) (w : World T Q) (id : ConnId) :
    Event → Shared T → Shared T → Prop
  | read {half : Half} {s s' : Shared T} {r : Poll (Except IoError (List UInt8))} (lock : Bool)
      (waker : Waker) (len : ℕ) (hmem : half ∈ w.halves) (hrw : half.rw = .read)
      (hid : half.conn = id) (hr : ReadHalf.pollReadInner lock s waker len = (r, s')) :
      SharedStep wire w id (.app (.read half lock waker len)) s s'
  | write {half : Half} {s s' : Shared T} {update : Option PollUpdate}
      {r : Poll (Except IoError ℕ)} (lock : Bool) (waker : Waker) (buf : List UInt8)
      (hmem : half ∈ w.halves) (hrw : half.rw = .write) (hid : half.conn = id)
      (hw : WriteHalf.pollWriteInner lock s half.socket waker buf = (r, s', update)) :
      SharedStep wire w id (.app (.write half lock waker buf)) s s'
  | close {half : Half} {s s' : Shared T} {update : Option PollUpdate} {r : Poll Unit}
      (lock : Bool) (hmem : half ∈ w.halves) (hrw : half.rw = .write) (hid : half.conn = id)
      (hw : WriteHalf.pollCloseInner lock s half.socket = (r, s', update)) :
      SharedStep wire w id (.app (.close half lock)) s s'
  | process {pair : AddrPair} {c : Connection} {s s' : Shared T}
      {queue : DispatchQueue AddrPair Q} {reply : Except Error (Option Packet)}
      (timestamp : SmolInstant) (ipRepr : IpRepr) (tcpRepr : TcpRepr)
      (hc : w.sockets pair = some c) (hid : c.socket = id)
      (hp : c.process s timestamp ipRepr tcpRepr w.queue = (reply, s', queue)) :
      SharedStep wire w id (.process pair timestamp ipRepr tcpRepr) s s'
  | dispatch {addr : AddrPair} {c : Connection} {s s' : Shared T} {drop : Bool}
      {queue : DispatchQueue AddrPair Q} {buf : List UInt8} (hc : w.sockets addr = some c)
      (hid : c.socket = id)
      (hd : c.dispatch wire s (w.clock.timestamp w.now) w.queue = (drop, buf, s', queue)) :
      SharedStep wire w id (.dispatch addr) s s'
  | dropHalf {half : Half} {rest : List Half} {c c' : Connection} {s s' : Shared T}
      {queue : DispatchQueue AddrPair Q} (hclosing : w.closing = half :: rest)
      (hc : w.sockets half.socket = some c) (hid : c.socket = id)
      (hd : c.dropHalf s half.rw w.queue = (c', s', queue)) :
      SharedStep wire w id (.dropHalf half) s s'

omit [TcpSocket T] in
/-- What is shared after it has been replaced for one connection. -/
lemma shared_setShared (w : World T Q) (i id : ConnId) (s : Shared T) :
    (w.setShared i s).shared id = if id = i then some s else w.shared id := by
  simp [setShared, Function.update_apply]

/-- A step leaves what a connection shares alone, changes it as one of the steps on it does, or
makes the connection. -/
theorem Steps.shared_cases {e : Event} {id : ConnId} {s' : Shared T} (h : Steps wire w e w')
    (hs' : w'.shared id = some s') :
    w.shared id = some s' ∨
      (∃ s, w.shared id = some s ∧ SharedStep wire w id e s s') ∨
      (id = w.nextConn ∧ ∃ pair tcp, e = .create pair ∧
        openSocket pair.localAddr = .ok tcp ∧ s' = .new tcp) := by
  -- a step that replaces what is shared by one connection
  have set : ∀ {i s₀ s₁}, w.shared i = some s₀ → w'.shared = (w.setShared i s₁).shared →
      (id = i → SharedStep wire w id e s₀ s₁) →
      w.shared id = some s' ∨ ∃ s, w.shared id = some s ∧ SharedStep wire w id e s s' := by
    intro i s₀ s₁ hs₀ hset hstep
    rw [hset, shared_setShared] at hs'
    split at hs'
    · next he =>
      subst he
      obtain rfl := Option.some.inj hs'
      exact Or.inr ⟨s₀, hs₀, hstep rfl⟩
    · exact Or.inl hs'
  cases h with
  | elapse | accept | closeListener | drop | update | expire | handOver | refuse | insert
  | stop => exact Or.inl hs'
  | read lock waker len hmem hrw _ hs =>
    exact (set hs rfl fun he => .read lock waker len hmem hrw he.symm rfl).imp_right Or.inl
  | write lock waker buf hmem hrw _ hs hw =>
    exact (set hs rfl fun he => .write lock waker buf hmem hrw he.symm hw).imp_right Or.inl
  | close lock hmem hrw _ hs hw =>
    exact (set hs rfl fun he => .close lock hmem hrw he.symm hw).imp_right Or.inl
  | process ts ip tcp hc hs hp =>
    exact (set hs rfl fun he => .process ts ip tcp hc he.symm hp).imp_right Or.inl
  | dispatchKeep _ hc hs hd =>
    exact (set hs rfl fun he => .dispatch hc he.symm hd).imp_right Or.inl
  | dispatchDrop _ hc hs hd =>
    exact (set hs rfl fun he => .dispatch hc he.symm hd).imp_right Or.inl
  | dropHalf hclosing hc hs hd =>
    exact (set hs rfl fun he => .dropHalf hclosing hc he.symm hd).imp_right Or.inl
  | @create pair tcp _ _ _ hopen =>
    change (w.setShared w.nextConn (.new tcp)).shared id = some s' at hs'
    rw [shared_setShared] at hs'
    split at hs'
    · next he => exact Or.inr (Or.inr ⟨he, pair, tcp, rfl, hopen, (Option.some.inj hs').symm⟩)
    · exact Or.inl hs'

/-! ## Panics -/

/-- When a step of the world panics. -/
inductive Panics (w : World T Q) : Event → Panic → Prop
  | pollChannel {a : Action} (hrun : w.running = false) : Panics w (.app a) .pollChannelClosed
  | closeChannel {a : Action} (hrun : w.running = false) : Panics w (.app a) .closeChannelClosed
  | process {pair : AddrPair} {ts : SmolInstant} {ip : IpRepr} {tcp : TcpRepr}
      (hpair : w.sockets pair = none) : Panics w (.process pair ts ip tcp) .processUnknown
  | dispatch {addr : AddrPair} (hnext : w.nextPoll = some addr) (haddr : w.sockets addr = none) :
      Panics w (.dispatch addr) .dispatchAfterDropping
  | dropHalf {half : Half} {rest : List Half} (hclosing : w.closing = half :: rest)
      (hsock : w.sockets half.socket = none) : Panics w (.dropHalf half) .dropHalfOfUnknown
  | insert {k : Creation} {c : Connection} (hcreating : w.creating = some k)
      (hpair : w.sockets k.pair = some c) : Panics w .insert .insertTwice

omit [TcpSocket T] in
lemma useHalf_panic {half : Half} {rw : Close} {p : Panic} :
    w.useHalf half rw ≠ .error (.panic p) := by
  unfold useHalf
  split
  · split <;> simp
  · simp

omit [TcpSocket T] in
lemma notify_panic {update : Option PollUpdate} {p : Panic}
    (h : w.notify update = .error (.panic p)) :
    w.running = false ∧ p = .pollChannelClosed := by
  cases update with
  | none => cases h
  | some u =>
    rw [notify] at h
    split at h
    · cases h
    · next hr =>
      cases h
      exact ⟨by simpa using hr, rfl⟩

lemma panics_of_act {a : Action} {p : Panic} (h : w.act a = .error (.panic p)) :
    Panics w (.app a) p := by
  cases a with
  | accept =>
    rw [act] at h
    split at h <;> cases h
  | closeListener =>
    simp only [act] at h
    split at h
    · cases h
    · next hr =>
      cases h
      exact .closeChannel (by simpa using fun hrun => hr (Or.inr hrun))
  | read half lock waker len =>
    rw [act] at h
    cases hu : w.useHalf half .read with
    | error e =>
      rw [hu] at h
      cases h
      exact absurd hu useHalf_panic
    | ok s => rw [hu] at h; cases h
  | write half lock waker buf =>
    rw [act] at h
    cases hu : w.useHalf half .write with
    | error e =>
      rw [hu] at h
      cases h
      exact absurd hu useHalf_panic
    | ok s =>
      rw [hu] at h
      obtain ⟨hrun, rfl⟩ := notify_panic h
      exact .pollChannel hrun
  | close half lock =>
    rw [act] at h
    cases hu : w.useHalf half .write with
    | error e =>
      rw [hu] at h
      cases h
      exact absurd hu useHalf_panic
    | ok s =>
      rw [hu] at h
      obtain ⟨hrun, rfl⟩ := notify_panic h
      exact .pollChannel hrun
  | drop half =>
    simp only [act] at h
    split at h
    · split at h
      · cases h
      · next hr =>
        cases h
        exact .closeChannel (by simpa using hr)
    · cases h

/-- Every panic of the world is one of those listed. -/
theorem panics_of_step {e : Event} {p : Panic} (h : w.step wire e = .error (.panic p)) :
    Panics w e p := by
  cases e with
  | elapse nanos => cases h
  | app a => exact panics_of_act h
  | process pair ts ip tcp =>
    simp only [step, process] at h
    split at h
    · next hp => cases h; exact .process hp
    · split at h <;> cases h
  | dispatch addr =>
    simp only [step] at h
    split at h
    · next hnext =>
      simp only [dispatch] at h
      split at h
      · next haddr => cases h; exact .dispatch hnext haddr
      · split at h
        · cases h
        · split at h <;> cases h
    · cases h
  | dropHalf half =>
    simp only [step] at h
    split at h
    · cases h
    · next m rest hm =>
      split at h
      · next he =>
        subst he
        simp only [dropTcpHalf] at h
        split at h
        · next hs => cases h; exact .dropHalf hm hs
        · split at h <;> cases h
      · cases h
  | update socket pollAt =>
    simp only [step] at h
    split at h
    · cases h
    · split at h <;> cases h
  | expire addr =>
    simp only [step] at h
    split at h
    · split at h
      · split at h <;> cases h
      · cases h
    · cases h
  | create pair =>
    simp only [step] at h
    split at h
    · split at h <;> cases h
    · cases h
  | handOver =>
    simp only [step] at h
    split at h
    · split at h <;> cases h
    · cases h
  | refuse =>
    simp only [step] at h
    split at h
    · split at h <;> cases h
    · cases h
  | insert =>
    simp only [step] at h
    split at h
    · next k hk =>
      split at h
      · split at h
        · cases h
        · next hp =>
          cases h
          obtain ⟨c, hc⟩ := Option.ne_none_iff_exists'.mp hp
          exact .insert hk hc
      · cases h
    · cases h
  | stop =>
    simp only [step] at h
    split at h <;> cases h

/-- The application changes neither the pool nor what the loop is doing. -/
lemma Steps.app_frame {a : Action} (h : Steps wire w (.app a) w') :
    w'.sockets = w.sockets ∧ w'.creating = w.creating ∧ w'.running = w.running := by
  cases h <;> exact ⟨rfl, rfl, rfl⟩

/-- A dispatch is of the pair in `next_poll`. -/
lemma Steps.dispatch_next {addr : AddrPair} (h : Steps wire w (.dispatch addr) w') :
    w.nextPoll = some addr := by
  cases h with
  | dispatchKeep hnext => exact hnext
  | dispatchDrop hnext => exact hnext

end World
end Ustunet
