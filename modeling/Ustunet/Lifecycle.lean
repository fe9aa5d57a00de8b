import Ustunet.Projection

/-!
# How a connection ends

Two things about a connection are final. Once its transmit direction is closed, by the application
or because the writer was dropped, no write takes a byte any more (`close_is_final`). Once it is
removed from the pool, nothing ever refers to it again (`removed_is_final`).
-/

namespace Ustunet

variable {T Q : Type} [TcpSocket T] [DelayQueue AddrPair Q]

/-! ## The end of the transmit direction -/

/-- The states of a socket whose transmit direction has been closed. -/
def TcpState.finished (s : TcpState) : Bool :=
  match s with
  | .listen | .synSent | .synReceived | .established | .closeWait => false
  | _ => true

namespace TcpState

lemma finished_afterClose (s : TcpState) : s.afterClose.finished = true := by
  cases s <;> rfl

lemma finished_onPacket {s s' : TcpState} {control : TcpControl} (h : s.finished = true)
    (hs' : s' ∈ s.onPacket control) : s'.finished = true := by
  cases s <;> cases control <;> simp_all [onPacket, finished] <;>
    rcases hs' with rfl | rfl | rfl | rfl <;> rfl

end TcpState

/-- Whether an event closes the transmit direction. -/
def SoloEvent.closes (e : SoloEvent) : Bool :=
  match e with
  | .close _ lock => lock
  | .told rw => rw == .write
  | _ => false

namespace Solo

variable {wire : Wire} {c c' : Solo T} {e : SoloEvent} {hist : List (Solo T × SoloEvent)}

/-- The transmit direction of the connection is closed. -/
def Finished (c : Solo T) : Prop :=
  ∃ s, c.shared = some s ∧ (TcpSocket.state s.tcp).finished = true

lemma finished_of_closes (hc : CloseMoves T) (he : e.closes = true)
    (h : c.step wire e = .ok c') : c'.Finished := by
  cases steps_of_step h with
  | create | accept | discard | insert | read | write | drop | process | dispatch | stop => cases he
  | close handle lock _ hs hw =>
    rcases WriteHalf.pollCloseInner_cases hw with ⟨hl, -⟩ | ⟨-, -, rfl, -⟩
    · rw [show lock = true from he] at hl
      cases hl
    · refine ⟨_, rfl, ?_⟩
      rw [hc]
      exact TcpState.finished_afterClose _
  | @told inner s rw _ hs =>
    obtain rfl : rw = .write := by simpa [SoloEvent.closes] using he
    have htcp := inner.halfDropped_tcp (s := s) .write
    have hdropped : (inner.halfDropped s .write).1.writerDropped = true := by
      simp [RwStatus.halfDropped]
    rw [if_pos hdropped] at htcp
    refine ⟨_, rfl, ?_⟩
    rw [htcp, hc]
    exact TcpState.finished_afterClose _

lemma finished_step (hk : SlicesKeepState T) (hc : CloseMoves T) (hT : Transitions T wire)
    (hb : c.Blank) (hf : c.Finished) (h : c.step wire e = .ok c') : c'.Finished := by
  obtain ⟨s₀, hs₀, hfin⟩ := hf
  cases steps_of_step h with
  | create hstage =>
    rw [hb hstage] at hs₀
    cases hs₀
  | accept | discard | insert | drop | stop => exact ⟨s₀, hs₀, hfin⟩
  | read lock waker len _ hs hr =>
    obtain rfl := Option.some.inj (hs.symm.trans hs₀)
    refine ⟨_, rfl, ?_⟩
    rw [ReadHalf.pollReadInner_state hk hr]
    exact hfin
  | write handle lock waker buf _ hs hw =>
    obtain rfl := Option.some.inj (hs.symm.trans hs₀)
    refine ⟨_, rfl, ?_⟩
    rw [WriteHalf.pollWriteInner_state hk hw]
    exact hfin
  | close handle lock _ hs hw =>
    obtain rfl := Option.some.inj (hs.symm.trans hs₀)
    rcases WriteHalf.pollCloseInner_cases hw with ⟨-, -, rfl, -⟩ | ⟨-, -, rfl, -⟩
    · exact ⟨_, rfl, hfin⟩
    · refine ⟨_, rfl, ?_⟩
      rw [hc]
      exact TcpState.finished_afterClose _
  | @told inner s rw _ hs =>
    obtain rfl := Option.some.inj (hs.symm.trans hs₀)
    refine ⟨_, rfl, ?_⟩
    rw [inner.halfDropped_tcp rw]
    split
    · rw [hc]
      exact TcpState.finished_afterClose _
    · exact hfin
  | @process inner s ts ip tcp _ hs =>
    obtain rfl := Option.some.inj (hs.symm.trans hs₀)
    refine ⟨_, rfl, ?_⟩
    cases hacc : checkAcceptability s.tcp ip tcp with
    | error e =>
      rw [inner.processed_refused ts hacc]
      exact hfin
    | ok =>
      rw [inner.processed_tcp ts hacc]
      exact TcpState.finished_onPacket hfin (hT.process s.tcp ts ip tcp)
  | @dispatch inner s s' drop ts _ hs hd =>
    obtain rfl := Option.some.inj (hs.symm.trans hs₀)
    refine ⟨s', rfl, ?_⟩
    rw [show s' = (inner.dispatched wire s ts).2 by rw [hd], inner.dispatched_tcp ts]
    rcases hT.dispatch s.tcp ts with hstate | hstate
    · rw [hstate]
      exact hfin
    · rw [hstate]
      rfl

open Transition

theorem run_finished (hk : SlicesKeepState T) (hc : CloseMoves T) (hT : Transitions T wire)
    (r : Run (step wire) init hist c) (h : ∃ x ∈ hist, x.2.closes = true) : c.Finished :=
  r.since (I := Blank) (E := fun _ e => e.closes = true) (fun _ => rfl) blank_step
    (fun _ he h => finished_of_closes hc he h) (fun hb hf h => finished_step hk hc hT hb hf h) h

/-! ## The end of the connection -/

/-- The loop is done with the connection, and both halves are gone. -/
def Final (c : Solo T) : Prop := c.stage = .over ∧ ∀ rw, c.place rw = .gone

/-- Nothing happens to it any more, but for the end of the loop. -/
lemma final_step (hc : c.Final) (h : c.step wire e = .ok c') : e = .stop ∧ c' = c := by
  obtain ⟨hover, hgone⟩ := hc
  cases steps_of_step h with
  | create hstage | insert hstage | told hstage | process _ _ _ hstage | dispatch hstage =>
    rw [hover] at hstage
    cases hstage
  | accept hplace | discard hplace =>
    exact absurd ((hgone .read).symm.trans (hplace .read)) nofun
  | read _ _ _ hplace | write _ _ _ _ hplace | close _ _ hplace | drop hplace =>
    rw [hgone] at hplace
    cases hplace
  | stop =>
    refine ⟨rfl, ?_⟩
    have hplace : (fun rw => if c.place rw = .dropped then .gone else c.place rw) = c.place := by
      funext rw
      rw [hgone, if_neg nofun]
    rw [hplace, ← hover]

theorem run_final {c₀ : Solo T} (hc : c₀.Final) (r : Run (step wire) c₀ hist c) :
    c = c₀ ∧ ∀ x ∈ hist, x.2 = .stop := by
  induction r with
  | start => exact ⟨rfl, fun x hx => by cases hx⟩
  | next r hs ih =>
    obtain ⟨rfl, hall⟩ := ih
    obtain ⟨rfl, rfl⟩ := final_step hc hs
    exact ⟨rfl, List.forall_mem_cons.mpr ⟨rfl, hall⟩⟩

end Solo

namespace World

variable {w : World T Q} {id : ConnId}

omit [TcpSocket T] in
lemma place_gone_iff {rw : Close} : w.place id rw = .gone ↔
    ∀ half ∈ w.halves ++ w.closing, ¬ (half.conn = id ∧ half.rw = rw) := by
  have hany : (w.halves ++ w.closing).any (ofConn id rw) = false ↔
      ∀ half ∈ w.halves ++ w.closing, ¬ (half.conn = id ∧ half.rw = rw) := by
    rw [Bool.eq_false_iff, Ne, any_ofConn]
    simp
  rw [← hany, List.any_append]
  unfold place
  cases w.halves.any (ofConn id rw) <;> cases w.closing.any (ofConn id rw) <;>
    cases w.accepted id <;> simp

omit [TcpSocket T] in
/-- What `Final` means for the pool, `create_syn` and the halves. -/
lemma view_final_iff (ho : w.Owned) :
    (w.view id).Final ↔ id < w.nextConn ∧ (∀ p, w.connOf p ≠ some id) ∧
      ∀ half ∈ w.halves ++ w.closing, half.conn ≠ id := by
  have hstage : w.stage id = .over ↔ id < w.nextConn ∧ ∀ p, w.connOf p ≠ some id := by
    by_cases hex : ∃ p, w.connOf p = some id
    · obtain ⟨p, hp⟩ := hex
      refine ⟨fun h => ?_, fun h => absurd hp (h.2 p)⟩
      unfold stage at h
      rw [slot_eq ho hp] at h
      dsimp only at h
      split at h <;> cases h
    · have hno : ∀ p, w.connOf p ≠ some id := fun p hp => hex ⟨p, hp⟩
      rw [stage_none hno]
      simp [hno]
  have hplace : (∀ rw, w.place id rw = .gone) ↔ ∀ half ∈ w.halves ++ w.closing, half.conn ≠ id := by
    constructor
    · intro h half hmem hconn
      exact place_gone_iff.mp (h half.rw) half hmem ⟨hconn, rfl⟩
    · intro h rw
      exact place_gone_iff.mpr fun half hmem hh => h half hmem hh.1
  show w.stage id = .over ∧ (∀ rw, w.place id rw = .gone) ↔ _
  rw [hstage, hplace, and_assoc]

/-- A connection that is taken out of the pool while the loop goes on is done with. -/
lemma final_of_removed {w' : World T Q} {wire : Wire} {e : Event} {addr : AddrPair}
    {c : Connection} (ho : w.Owned) (hst : w.Stopped) (h : Steps wire w e w')
    (hc : w.sockets addr = some c) (hnone : w'.sockets addr = none) (hrun : w'.running = true) :
    (w'.view c.socket).Final := by
  have ho' := owned_step ho hst h
  have hno : ∀ p, w'.connOf p ≠ some c.socket := by
    cases h with
    | elapse | accept | closeListener | read | write | close | drop | process | dispatchKeep
    | update | expire | create | handOver | refuse =>
      rw [show w.sockets addr = none from hnone] at hc
      cases hc
    | @dropHalf half rest c₀ c' =>
      by_cases ha : addr = half.socket
      · simp [setSocket, setShared, ha] at hnone
      · simp [setSocket, setShared, ha, hc] at hnone
    | @insert pair k =>
      by_cases ha : addr = pair
      · simp [setSocket, ha] at hnone
      · simp [setSocket, ha, hc] at hnone
    | stop => cases hrun
    | @dispatchDrop addr' c' s s' queue buf hnext hc' =>
      obtain rfl : addr = addr' := by
        by_contra ha
        simp [setSocket, setShared, ha, hc] at hnone
      intro p hp
      by_cases ha : p = addr
      · subst ha
        have hnone := hp.symm.trans (ho.connOf_removed hc' rfl rfl)
        cases hnone
      · have hold : w.connOf p = some c.socket := (hp.symm.trans (connOf_update rfl rfl ha)).symm
        exact ha (ho.inj hold (connOf_of_sockets hc))
  refine (view_final_iff ho').mpr ⟨?_, hno, fun half hmem hconn => ?_⟩
  · rw [createdFor_length h]
    exact Nat.lt_add_right _ (ho.fresh (connOf_of_sockets hc))
  · exact hno _ (hconn ▸ ho'.connOf_of_mem hrun hmem)

end World

omit [DelayQueue AddrPair Q] in
/-- A write to a socket whose transmit direction is closed fails, and changes nothing. An update is
sent all the same. -/
lemma WriteHalf.pollWriteInner_finished (hT : MaySend T) {sh : Shared T}
    (hf : (TcpSocket.state sh.tcp).finished = true) (handle : SocketHandle) (waker : Waker)
    (buf : List UInt8) :
    WriteHalf.pollWriteInner true sh handle waker buf
      = (.ready (.error .connectionAborted), sh, updateFor sh handle sh.tcp) := by
  have hmay : TcpSocket.maySend sh.tcp = false := by
    rw [hT.maySend_eq, decide_eq_false_iff_not]
    rintro (h | h) <;> rw [h] at hf <;> cases hf
  have hcan : TcpSocket.canSend sh.tcp = false := by
    by_contra hne
    have h := hT.canSend_may sh.tcp (by simpa using hne)
    rw [hmay] at h
    cases h
  have hup : (if !sh.pollingActive then some (handle, TcpSocket.pollAt sh.tcp) else none)
      = updateFor sh handle sh.tcp := by
    unfold updateFor
    cases sh.pollingActive <;> rfl
  simp [WriteHalf.pollWriteInner, hcan, hmay, ← hup]

namespace State

open World Transition

variable {wire : Wire} {clock : Clock} {s s' : State T Q} {hist hist' : List (State T Q × Label)}
  {sh : Shared T}

/-- A write to such a socket, as a step: it needs the loop only to send the update. -/
lemma step_write_finished (hT : MaySend T) {half : Half}
    (huse : s.world.useHalf half .write = .ok sh)
    (hf : (TcpSocket.state sh.tcp).finished = true) (waker : Waker) (buf : List UInt8) :
    s.step wire (.app (.write half true waker buf))
      = (s.world.notify (WriteHalf.updateFor sh half.socket sh.tcp)).map
          fun world => { s with world } := by
  obtain ⟨-, -, -, hs⟩ := useHalf_ok huse
  have hset : s.world.setShared half.conn sh = s.world := by
    unfold World.setShared
    rw [← hs, Function.update_eq_self]
  have hact : s.world.act (.write half true waker buf)
      = s.world.notify (WriteHalf.updateFor sh half.socket sh.tcp) := by
    unfold World.act
    dsimp only
    rw [huse]
    show World.notify (s.world.setShared _ _) _ = _
    rw [WriteHalf.pollWriteInner_finished hT hf, hset]
  show (s.world.act (.write half true waker buf) >>= _) = _
  rw [hact]
  cases s.world.notify (WriteHalf.updateFor sh half.socket sh.tcp) <;> rfl

/-- **Close is final.** In every run: once the transmit direction of a connection has been closed,
by a call of `close` or because the loop was told that the writer was dropped, every later write
that gets the lock takes nothing and leaves what is shared as it was, whatever the peer sends and
whatever the timers do. It fails with `ConnectionAborted` as long as the loop runs, or the
connection is being polled; else it panics, since it sends an update first. -/
theorem close_is_final (hk : SlicesKeepState T) (hc : CloseMoves T) (hT : Transitions T wire)
    (hm : MaySend T) (r : LoopRun wire clock hist s) {half : Half}
    (hclose : ∃ e ∈ soloLabels wire half.conn hist, e.closes = true)
    (huse : s.world.useHalf half .write = .ok sh) (waker : Waker) (buf : List UInt8) :
    (WriteHalf.pollWriteInner true sh half.socket waker buf).2.1 = sh ∧
      (s.world.running = true ∨ sh.pollingActive = true →
        (WriteHalf.pollWriteInner true sh half.socket waker buf).1
            = .ready (.error .connectionAborted) ∧
          ∃ s', s.step wire (.app (.write half true waker buf)) = .ok s' ∧
            s'.world.shared = s.world.shared) ∧
      (s.world.running = false → sh.pollingActive = false →
        s.step wire (.app (.write half true waker buf)) = .error (.panic .pollChannelClosed)) := by
  have hclose : ∃ x ∈ soloEvents wire half.conn hist, x.2.closes = true := by
    obtain ⟨e, he, hcl⟩ := hclose
    rw [← soloEvents_labels] at he
    obtain ⟨x, hx, rfl⟩ := List.mem_map.mp he
    exact ⟨x, hx, hcl⟩
  obtain ⟨s₁, hs₁, hf⟩ := Solo.run_finished hk hc hT (LoopRun.solo r half.conn) hclose
  obtain rfl : sh = s₁ := Option.some.inj ((useHalf_ok huse).2.2.2.symm.trans hs₁)
  rw [WriteHalf.pollWriteInner_finished hm hf, step_write_finished hm huse hf]
  refine ⟨rfl, fun hok => ⟨rfl, ?_⟩, fun hrun hactive => ?_⟩
  · unfold World.notify WriteHalf.updateFor
    rcases hok with hrun | hactive
    · rw [hrun]
      cases sh.pollingActive <;> exact ⟨_, rfl, rfl⟩
    · rw [hactive]
      exact ⟨_, rfl, rfl⟩
  · unfold World.notify WriteHalf.updateFor
    rw [hrun, hactive]
    rfl

/-- The application closes its writer, and the client acknowledges the FIN: the next write fails. If
the device fails after the close, it panics. -/
theorem close_is_final_fin :
    (∃ hist s sh, LoopRun Reference.wire Reference.clock hist (s : Reference.Loop) ∧
      s.world.shared 0 = some sh ∧ TcpSocket.state sh.tcp = .finWait2 ∧
      (WriteHalf.pollWriteInner true sh Reference.pair 7 [1]).1
        = .ready (.error .connectionAborted)) ∧
    ∃ hist s, LoopRun Reference.wire Reference.clock hist (s : Reference.Loop) ∧
      s.step Reference.wire (.app (.write Reference.writer true 7 [1]))
        = .error (.panic .pollChannelClosed) := by
  constructor
  · obtain ⟨hist, s, r, hs⟩ := Reference.run_of_check
      (Reference.handshake ++ [.turn, Reference.written, .app (.close Reference.writer true), .turn,
        Reference.idle] ++ Reference.dispatchDue ++ [Reference.receive .none true []])
      (fun hist s => (soloLabels Reference.wire 0 hist).any SoloEvent.closes &&
        s.world.running && match s.world.useHalf Reference.writer .write with
          | .ok (sh : Shared Reference.Socket) => decide (TcpSocket.state sh.tcp = .finWait2)
          | .error _ => false) (by decide +kernel)
    rw [Bool.and_eq_true, Bool.and_eq_true, List.any_eq_true] at hs
    obtain ⟨⟨hclose, hrun⟩, hs⟩ := hs
    split at hs
    · next sh huse =>
      refine ⟨hist, s, sh, r, (useHalf_ok huse).2.2.2, of_decide_eq_true hs, ?_⟩
      exact ((close_is_final Reference.Socket.slicesKeepState Reference.Socket.closeMoves
        Reference.Socket.transitions Reference.Socket.maySend_states r hclose huse 7 [1]).2.1
          (Or.inl hrun)).1
    · cases hs
  · obtain ⟨hist, s, r, hs⟩ := Reference.run_of_check
      (Reference.handshake ++ [.turn, .app (.close Reference.writer true), Reference.failing])
      (fun hist s => (soloLabels Reference.wire 0 hist).any SoloEvent.closes &&
        !s.world.running && match s.world.useHalf Reference.writer .write with
          | .ok (sh : Shared Reference.Socket) => !sh.pollingActive
          | .error _ => false) (by decide +kernel)
    rw [Bool.and_eq_true, Bool.and_eq_true, List.any_eq_true, Bool.not_eq_true'] at hs
    obtain ⟨⟨hclose, hrun⟩, hs⟩ := hs
    split at hs
    · next sh huse =>
      refine ⟨hist, s, r, ?_⟩
      exact (close_is_final Reference.Socket.slicesKeepState Reference.Socket.closeMoves
        Reference.Socket.transitions Reference.Socket.maySend_states r hclose huse 7 [1]).2.2
          hrun (by simpa using hs)
    · cases hs

/-- **Removal is final.** Whenever a step takes a connection out of the pool and the loop goes on,
in every run from there on: what the connection shared is never changed again, no packet is given to
it, it is never dispatched and no call reaches it; it is never put back, and no half of its stream
and no message of one exists. -/
theorem removed_is_final {l : Label} {addr : AddrPair} {c : Connection} {s₁ : State T Q}
    (h : LoopReachable wire clock s) (hl : s.step wire l = .ok s₁)
    (hc : s.world.sockets addr = some c) (hnone : s₁.world.sockets addr = none)
    (hrun : s₁.world.running = true) (r : Run (State.step wire) s₁ hist s') :
    s'.world.shared c.socket = s₁.world.shared c.socket ∧
      (∀ e ∈ soloLabels wire c.socket hist, e = .stop) ∧
      (∀ p, s'.world.connOf p ≠ some c.socket) ∧
      ∀ half ∈ s'.world.halves ++ s'.world.closing, half.conn ≠ c.socket := by
  obtain ⟨ho, hst⟩ := LoopReachable.owned h
  have hfinal : (s₁.world.view c.socket).Final := by
    have hf := (world_of_step (LoopReachable.consistent h) hl).1
    cases he : s.event wire l with
    | none =>
      rw [he] at hf
      rw [show s₁.world = s.world from hf, hc] at hnone
      cases hnone
    | some e =>
      rw [he] at hf
      exact final_of_removed ho hst (steps_of_step hf) hc hnone hrun
  obtain ⟨hsame, hall⟩ := Solo.run_final hfinal (LoopReachable.solo (h.after hl) r c.socket)
  obtain ⟨hist₀, r₀⟩ := h.after hl
  obtain ⟨ho', -⟩ := LoopReachable.owned (r₀.trans r).reachable
  have hfinal' := (view_final_iff ho').mp (hsame ▸ hfinal)
  refine ⟨congrArg Solo.shared hsame, fun e he => ?_, hfinal'.2.1, hfinal'.2.2⟩
  rw [← soloEvents_labels] at he
  obtain ⟨x, hx, hxe⟩ := List.mem_map.mp he
  exact hxe ▸ hall x hx

/-- The client resets the connection and both halves are dropped; the connection is removed, and an
update of its writer is still under way. -/
theorem removed_is_final_reset :
    ∃ (s s₁ s' : Reference.Loop) (c : Connection), s.step Reference.wire .turn = .ok s₁ ∧
      s.world.sockets Reference.pair = some c ∧ s₁.world.sockets Reference.pair = none ∧
      s₁.step Reference.wire Reference.idle = .ok s' ∧
      s'.world.shared c.socket = s₁.world.shared c.socket := by
  obtain ⟨hist, s, r, hs⟩ := Reference.run_of_check
    (Reference.staleUpdate.take (Reference.staleUpdate.length - 2))
    (fun _ s => Reference.stepsTo s .turn fun s₁ =>
      s₁.world.running && (s₁.world.sockets Reference.pair).isNone &&
        (Reference.stepsTo s₁ Reference.idle fun _ => true) &&
        (s.world.sockets Reference.pair).isSome) (by decide +kernel)
  obtain ⟨s₁, hl, hs⟩ := Reference.step_of_stepsTo hs
  simp only [Bool.and_eq_true, Option.isNone_iff_eq_none, Option.isSome_iff_exists] at hs
  obtain ⟨⟨⟨hrun, hnone⟩, hnext⟩, c, hc⟩ := hs
  obtain ⟨s', hl', -⟩ := Reference.step_of_stepsTo hnext
  exact ⟨s, s₁, s', c, hl, hc, hnone, hl',
    (removed_is_final r.reachable hl hc hnone hrun (.next .start hl')).1⟩

end State

end Ustunet
