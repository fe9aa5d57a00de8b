import Ustunet.Projection

/-!
# Whom the loop wakes

A call that finds nothing to do leaves its waker and returns `Pending`. The loop wakes each waker at
most once and in the order in which they were left (`wakers_in_order`), and only when the task has
something to do (`wakes_when_due`). That no wake-up is missing is another matter.
-/

namespace Ustunet

variable {T Q : Type} [TcpSocket T] [DelayQueue AddrPair Q]

/-! ## The waker slots -/

namespace SharedState

variable {s s' s'' : SharedState}

/-- The wakers that were woken and the one that waits, oldest first. -/
def record (s : SharedState) : List Waker := s.woken.reverse ++ s.waker.toList

/-- The waker in the slot is woken. -/
def Wakes (s s' : SharedState) : Prop :=
  ∃ waker, s.waker = some waker ∧ s' = ⟨none, waker :: s.woken⟩

lemma wakeOnce_cases (s : SharedState) : s.wakeOnce = s ∨ s.Wakes s.wakeOnce := by
  unfold wakeOnce
  split
  · next waker h => exact Or.inr ⟨waker, h, rfl⟩
  · exact Or.inl rfl

lemma Wakes.record_eq (h : s.Wakes s') : s'.record = s.record := by
  obtain ⟨waker, hw, rfl⟩ := h
  simp [record, hw]

/-- A slot is empty after its waker was woken. -/
lemma Wakes.not_twice (h : s.Wakes s') (h' : s'.Wakes s'') : False := by
  obtain ⟨waker, -, rfl⟩ := h
  obtain ⟨waker', hw, -⟩ := h'
  cases hw

/-- A waker that is left in the slot takes the place of the one before it. -/
lemma record_register (s : SharedState) (waker : Waker) :
    (record { s with waker := some waker }).Sublist (s.record ++ [waker]) := by
  show (s.woken.reverse ++ [waker]).Sublist (s.woken.reverse ++ s.waker.toList ++ [waker])
  rw [List.append_assoc]
  exact (List.sublist_append_right _ _).append_left _

end SharedState

/-- The waker slot of a side. -/
def Shared.readiness (s : Shared T) : Close → SharedState
  | .read => s.readReadiness
  | .write => s.writeReadiness

/-- Whether a task that waits on a side has something to do: take bytes, or learn of the end. -/
def SideReady (tcp : T) : Close → Prop
  | .read => TcpSocket.canRecv tcp = true ∨ TcpSocket.mayRecv tcp = false
  | .write => TcpSocket.canSend tcp = true ∨ TcpSocket.maySend tcp = false

/-- The slot of a side is left alone, or its waker is woken and has something to do. -/
def SlotNotified (tcp : T) (rw : Close) (s s' : SharedState) : Prop :=
  s' = s ∨ (s.Wakes s' ∧ SideReady tcp rw)

lemma SlotNotified.trans {tcp : T} {rw : Close} {s s' s'' : SharedState}
    (h : SlotNotified tcp rw s s') (h' : SlotNotified tcp rw s' s'') :
    SlotNotified tcp rw s s'' := by
  rcases h with rfl | h
  · exact h'
  · rcases h' with rfl | h'
    · exact Or.inr h
    · exact (h.1.not_twice h'.1).elim

/-- The waker that a call leaves in the slot of a side. -/
def registered (rw : Close) (s : Option (Shared T)) (e : SoloEvent) : List Waker :=
  match rw, s, e with
  | .read, some s, .read true waker len =>
    if (ReadHalf.pollReadInner true s waker len).1 = .pending then [waker] else []
  | .write, some s, .write handle true waker buf =>
    if (WriteHalf.pollWriteInner true s handle waker buf).1 = .pending then [waker] else []
  | _, _, _ => []

/-! ## The calls of the application -/

lemma ReadHalf.pollReadInner_readiness {lock : Bool} {s s' : Shared T} {waker : Waker} {len : ℕ}
    {r : Poll (Except IoError (List UInt8))} (h : pollReadInner lock s waker len = (r, s')) :
    s'.writeReadiness = s.writeReadiness ∧
      s'.readReadiness = if lock = true ∧ r = .pending
        then { s.readReadiness with waker := some waker } else s.readReadiness := by
  have tail : ∀ {s₁ : Shared T}, blocked s₁ waker = (r, s') →
      s'.writeReadiness = s₁.writeReadiness ∧ s'.readReadiness = if r = .pending
        then { s₁.readReadiness with waker := some waker } else s₁.readReadiness := by
    intro s₁ h
    unfold blocked at h
    split at h
    · cases h
      exact ⟨rfl, rfl⟩
    · split at h <;> cases h <;> exact ⟨rfl, rfl⟩
  unfold pollReadInner at h
  cases lock with
  | false =>
    cases h
    exact ⟨rfl, rfl⟩
  | true =>
    simp only [Bool.not_true, Bool.false_eq_true, if_false] at h
    simp only [true_and]
    split at h
    · split at h
      · cases h
        exact ⟨rfl, rfl⟩
      · split at h
        · cases h
          exact ⟨rfl, rfl⟩
        · have htail := tail h
          exact htail
    · exact tail h

lemma WriteHalf.pollWriteInner_readiness {lock : Bool} {s s' : Shared T} {handle : SocketHandle}
    {waker : Waker} {buf : List UInt8} {r : Poll (Except IoError ℕ)} {update : Option PollUpdate}
    (h : pollWriteInner lock s handle waker buf = (r, s', update)) :
    s'.readReadiness = s.readReadiness ∧
      s'.writeReadiness = if lock = true ∧ r = .pending
        then { s.writeReadiness with waker := some waker } else s.writeReadiness := by
  refine ⟨pollWriteInner_readReadiness h, ?_⟩
  unfold pollWriteInner at h
  cases lock with
  | false =>
    cases h
    rfl
  | true =>
    simp only [Bool.not_true, Bool.false_eq_true, if_false] at h
    simp only [true_and]
    split at h
    · cases h
      rfl
    · split at h
      · cases h
        rfl
      · split at h <;> cases h <;> rfl

/-! ## The loop -/

namespace RwStatus

variable {r : RwStatus} {s : Shared T} {tcp : T} {ts : SmolInstant}

lemma wakeReader_notified (hdue : SideReady tcp .read) (rw : Close) :
    SlotNotified tcp rw (s.readiness rw) ((r.wakeReader s).readiness rw) := by
  cases rw with
  | write => exact Or.inl (wakeReader_writeReadiness r s)
  | read =>
    unfold wakeReader
    split
    · exact (s.readReadiness.wakeOnce_cases).imp id fun h => ⟨h, hdue⟩
    · exact Or.inl rfl

lemma wakeWriter_notified (hdue : SideReady tcp .write) (rw : Close) :
    SlotNotified tcp rw (s.readiness rw) ((r.wakeWriter s).readiness rw) := by
  cases rw with
  | read => exact Or.inl (wakeWriter_readReadiness r s)
  | write =>
    unfold wakeWriter
    split
    · exact (s.writeReadiness.wakeOnce_cases).imp id fun h => ⟨h, hdue⟩
    · exact Or.inl rfl

lemma wakeToClose_notified (r : RwStatus) (s : Shared T) (rw : Close) :
    SlotNotified s.tcp rw (s.readiness rw) ((r.wakeToClose s).readiness rw) := by
  have hread : SlotNotified s.tcp rw (s.readiness rw)
      ((if !TcpSocket.mayRecv s.tcp then r.wakeReader s else s).readiness rw) := by
    split
    · next h => exact wakeReader_notified (Or.inr (by simpa using h)) rw
    · exact Or.inl rfl
  have htcp : (if !TcpSocket.mayRecv s.tcp then r.wakeReader s else s).tcp = s.tcp := by
    split <;> simp
  unfold wakeToClose
  dsimp only
  generalize (if !TcpSocket.mayRecv s.tcp then r.wakeReader s else s) = s₁ at hread htcp ⊢
  refine hread.trans ?_
  split
  · next h => exact wakeWriter_notified (Or.inr (htcp ▸ by simpa using h)) rw
  · exact Or.inl rfl

/-- A packet wakes nobody, or a task that has something to do. -/
lemma processed_notified (r : RwStatus) (s : Shared T) (ts : SmolInstant) (ip : IpRepr)
    (tcp : TcpRepr) (rw : Close) :
    SlotNotified (r.processed s ts ip tcp).tcp rw (s.readiness rw)
      ((r.processed s ts ip tcp).readiness rw) := by
  cases hacc : checkAcceptability s.tcp ip tcp with
  | error e =>
    rw [r.processed_refused ts hacc]
    exact Or.inl rfl
  | ok =>
    rw [r.processed_tcp ts hacc, processed, hacc]
    dsimp only
    generalize (TcpSocket.process s.tcp ts ip tcp).2 = tcp'
    have hread : SlotNotified tcp' rw (s.readiness rw) ((if TcpSocket.canRecv tcp' then
        r.wakeReader { s with tcp := tcp' } else { s with tcp := tcp' }).readiness rw) := by
      have hset : s.readiness rw = Shared.readiness { s with tcp := tcp' } rw := by cases rw <;> rfl
      rw [hset]
      split
      · next h => exact wakeReader_notified (Or.inl h) rw
      · exact Or.inl rfl
    have htcp : (if TcpSocket.canRecv tcp' then r.wakeReader { s with tcp := tcp' }
        else { s with tcp := tcp' }).tcp = tcp' := by
      split <;> simp
    refine hread.trans ?_
    have hclose := r.wakeToClose_notified (if TcpSocket.canRecv tcp' then
      r.wakeReader { s with tcp := tcp' } else { s with tcp := tcp' }) rw
    rw [htcp] at hclose
    exact hclose

/-- A dispatch wakes nobody, or a task that has something to do. -/
lemma dispatched_notified (wire : Wire) (r : RwStatus) (s : Shared T) (ts : SmolInstant)
    (rw : Close) :
    SlotNotified (r.dispatched wire s ts).2.tcp rw (s.readiness rw)
      ((r.dispatched wire s ts).2.readiness rw) := by
  rw [dispatched_tcp]
  unfold dispatched
  dsimp only
  generalize TcpSocket.dispatchTo wire s.tcp ts = res
  obtain ⟨res, buf, tcp'⟩ := res
  dsimp only
  have hclose := r.wakeToClose_notified { s with tcp := tcp' } rw
  have hset : s.readiness rw = Shared.readiness { s with tcp := tcp' } rw := by cases rw <;> rfl
  rw [← hset] at hclose
  have hwrite : SlotNotified tcp' rw (s.readiness rw) ((if TcpSocket.canSend tcp' then
      r.wakeWriter (r.wakeToClose { s with tcp := tcp' })
      else r.wakeToClose { s with tcp := tcp' }).readiness rw) := by
    refine SlotNotified.trans hclose ?_
    split
    · next h => exact wakeWriter_notified (Or.inl h) rw
    · exact Or.inl rfl
  generalize (if TcpSocket.canSend tcp' then r.wakeWriter (r.wakeToClose { s with tcp := tcp' })
      else r.wakeToClose { s with tcp := tcp' }) = s₁ at hwrite ⊢
  split
  · exact hwrite
  · have hactive : ∀ b : Bool, Shared.readiness { s₁ with pollingActive := b } rw
        = s₁.readiness rw := by
      intro b
      cases rw <;> rfl
    dsimp only
    rw [hactive]
    exact hwrite

end RwStatus

/-! ## Runs -/

namespace Solo

variable {wire : Wire} {c c' : Solo T} {e : SoloEvent} {hist : List (Solo T × SoloEvent)}

/-- The waker slot of a side. -/
def slot (c : Solo T) (rw : Close) : SharedState :=
  match c.shared with
  | some s => s.readiness rw
  | none => .new

/-- What a step does to the slot of a side. -/
inductive SlotStep (c : Solo T) (e : SoloEvent) (c' : Solo T) (rw : Close) : Prop
  | registers (waker : Waker) (hreg : registered rw c.shared e = [waker])
      (hslot : c'.slot rw = { c.slot rw with waker := some waker })
  | keeps (hreg : registered rw c.shared e = []) (hslot : c'.slot rw = c.slot rw)
  | wakes {s' : Shared T} (hreg : registered rw c.shared e = []) (hs' : c'.shared = some s')
      (hwakes : (c.slot rw).Wakes (c'.slot rw)) (hdue : SideReady s'.tcp rw)

lemma SlotStep.of_notified {s s' : Shared T} {rw : Close} (hs : c.shared = some s)
    (hs' : c'.shared = some s') (hreg : registered rw c.shared e = [])
    (h : SlotNotified s'.tcp rw (s.readiness rw) (s'.readiness rw)) : SlotStep c e c' rw := by
  have hslot : c.slot rw = s.readiness rw := by rw [slot, hs]
  have hslot' : c'.slot rw = s'.readiness rw := by rw [slot, hs']
  rw [← hslot, ← hslot'] at h
  rcases h with h | ⟨hwakes, hdue⟩
  · exact .keeps hreg h
  · exact .wakes hreg hs' hwakes hdue

/-- A step that leaves the slots alone. -/
lemma SlotStep.of_same {s s' : Shared T} {rw : Close} (hs : c.shared = some s)
    (hs' : c'.shared = some s') (hreg : registered rw c.shared e = [])
    (h : s'.readiness rw = s.readiness rw) : SlotStep c e c' rw :=
  .of_notified hs hs' hreg (Or.inl h)

lemma slotStep_read {s s' : Shared T} {r : Poll (Except IoError (List UInt8))} {lock : Bool}
    {waker : Waker} {len : ℕ} (hs : c.shared = some s)
    (hr : ReadHalf.pollReadInner lock s waker len = (r, s')) (rw : Close) :
    SlotStep c (.read lock waker len) { c with shared := some s' } rw := by
  obtain ⟨hwrite, hread⟩ := ReadHalf.pollReadInner_readiness hr
  cases rw with
  | write => exact .of_same hs rfl (by rw [hs]; rfl) hwrite
  | read =>
    cases lock with
    | false =>
      rw [if_neg nofun] at hread
      exact .of_same hs rfl (by rw [hs]; rfl) hread
    | true =>
      have hreg : registered .read c.shared (.read true waker len)
          = if r = .pending then [waker] else [] := by
        simp only [registered, hs, hr]
      by_cases hp : r = .pending
      · rw [if_pos ⟨rfl, hp⟩] at hread
        rw [if_pos hp] at hreg
        refine .registers waker hreg ?_
        simp only [slot, hs]
        exact hread
      · rw [if_neg fun h => hp h.2] at hread
        rw [if_neg hp] at hreg
        exact .of_same hs rfl hreg hread

lemma slotStep_write {s s' : Shared T} {r : Poll (Except IoError ℕ)} {update : Option PollUpdate}
    {handle : SocketHandle} {lock : Bool} {waker : Waker} {buf : List UInt8}
    (hs : c.shared = some s)
    (hw : WriteHalf.pollWriteInner lock s handle waker buf = (r, s', update)) (rw : Close) :
    SlotStep c (.write handle lock waker buf) { c with shared := some s' } rw := by
  obtain ⟨hread, hwrite⟩ := WriteHalf.pollWriteInner_readiness hw
  cases rw with
  | read => exact .of_same hs rfl (by rw [hs]; rfl) hread
  | write =>
    cases lock with
    | false =>
      rw [if_neg nofun] at hwrite
      exact .of_same hs rfl (by rw [hs]; rfl) hwrite
    | true =>
      have hreg : registered .write c.shared (.write handle true waker buf)
          = if r = .pending then [waker] else [] := by
        simp only [registered, hs, hw]
      by_cases hp : r = .pending
      · rw [if_pos ⟨rfl, hp⟩] at hwrite
        rw [if_pos hp] at hreg
        refine .registers waker hreg ?_
        simp only [slot, hs]
        exact hwrite
      · rw [if_neg fun h => hp h.2] at hwrite
        rw [if_neg hp] at hreg
        exact .of_same hs rfl hreg hwrite

/-- **Every step leaves a slot alone, fills it, or wakes a waker that has something to do.** -/
theorem slot_step (hc : c.Blank) (h : c.step wire e = .ok c') (rw : Close) :
    SlotStep c e c' rw := by
  have hquiet : ∀ {e : SoloEvent}, (∀ lock waker len, e ≠ .read lock waker len) →
      (∀ handle lock waker buf, e ≠ .write handle lock waker buf) →
      registered rw c.shared e = [] := by
    intro e hread hwrite
    unfold registered
    split
    · exact absurd rfl (hread _ _ _)
    · exact absurd rfl (hwrite _ _ _ _)
    · rfl
  cases steps_of_step h with
  | create hstage =>
    refine .keeps (hquiet nofun nofun) ?_
    rw [slot, slot, hc hstage]
    cases rw <;> rfl
  | accept | discard | insert | drop | stop => exact .keeps (hquiet nofun nofun) rfl
  | read lock waker len _ hs hr => exact slotStep_read hs hr rw
  | write handle lock waker buf _ hs hw => exact slotStep_write hs hw rw
  | close handle lock _ hs hw =>
    refine .of_same hs rfl (hquiet nofun nofun) ?_
    rcases WriteHalf.pollCloseInner_cases hw with ⟨-, -, rfl, -⟩ | ⟨-, -, rfl, -⟩ <;>
      cases rw <;> rfl
  | @told inner s side hstage hs =>
    refine .of_same hs rfl (hquiet nofun nofun) ?_
    unfold RwStatus.halfDropped
    dsimp only
    split <;> cases rw <;> rfl
  | @process inner s ts ip tcp _ hs =>
    exact .of_notified hs rfl (hquiet nofun nofun) (inner.processed_notified s ts ip tcp rw)
  | @dispatch inner s s' drop ts _ hs hd =>
    have hnotified := inner.dispatched_notified wire s ts rw
    rw [hd] at hnotified
    exact .of_notified hs rfl (hquiet nofun nofun) hnotified

open Transition

lemma record_step {rw : Close} (h : SlotStep c e c' rw) :
    (c'.slot rw).record.Sublist ((c.slot rw).record ++ registered rw c.shared e) := by
  cases h with
  | registers waker hreg hslot =>
    rw [hreg, hslot]
    exact SharedState.record_register _ _
  | keeps hreg hslot =>
    rw [hreg, hslot, List.append_nil]
  | wakes hreg hs' hwakes hdue =>
    rw [hreg, hwakes.record_eq, List.append_nil]

theorem run_record (r : Run (step wire) init hist c) (rw : Close) :
    (c.slot rw).record.Sublist (collect (fun c e => registered rw c.shared e) hist) :=
  r.sublist (c := fun c => (c.slot rw).record) (I := Blank) (fun _ => rfl) blank_step
    fun hc h => record_step (slot_step hc h rw)

end Solo

/-- A reader that has something to do gets an answer, except in the handshake. -/
lemma ReadHalf.not_pending_of_due {wire : Wire} (hR : RecvSide T wire) {s : Shared T}
    {waker : Waker} {len : ℕ} (hdue : SideReady s.tcp .read) (hlen : 0 < len)
    (hp : (pollReadInner true s waker len).1 = .pending) :
    TcpSocket.state s.tcp = .synReceived := by
  generalize hr : pollReadInner true s waker len = x at hp
  obtain ⟨r, s'⟩ := x
  obtain rfl : r = .pending := hp
  rcases pollReadInner_cases hr with ⟨hl, -⟩ | ⟨-, -, b, bytes, tcp, -, h, -⟩ | ⟨-, -, e, -, h, -⟩ |
    ⟨-, hcan, tcp, hrecv, -⟩ | ⟨-, hcan, hb⟩
  · cases hl
  · cases h
  · cases h
  · -- there is a byte to take
    obtain ⟨b, bytes, tcp', hsome⟩ := hR.recv_some s.tcp len hcan hlen
    rw [hrecv] at hsome
    cases hsome
  · have hmay : TcpSocket.mayRecv s.tcp = false := by
      rcases hdue with h | h
      · rw [hcan] at h
        cases h
      · exact h
    rcases hb.result with ⟨h | h, -⟩ | ⟨-, -, h, -⟩
    · rw [hmay] at h
      cases h
    · exact h
    · cases h

/-- A writer that has something to do gets an answer. -/
lemma WriteHalf.not_pending_of_due (hS : SendSide T) {s : Shared T} {handle : SocketHandle}
    {waker : Waker} {buf : List UInt8} (hdue : SideReady s.tcp .write) (hbuf : buf ≠ []) :
    (pollWriteInner true s handle waker buf).1 ≠ .pending := by
  intro hp
  generalize hw : pollWriteInner true s handle waker buf = x at hp
  obtain ⟨r, s', update⟩ := x
  obtain rfl : r = .pending := hp
  rcases pollWriteInner_cases hw with ⟨hl, -⟩ | ⟨-, -, e, -, h, -⟩ | ⟨-, hcan, n, hsend, hwr⟩ |
    ⟨-, hcan, htcp, hwr⟩
  · cases hl
  · cases h
  · -- there is space for a byte
    obtain ⟨m, tcp', hsome, hpos⟩ := hS.send_some s.tcp buf hcan hbuf
    rw [hsend] at hsome
    cases hsome
    rcases hwr.result with ⟨-, h, -⟩ | ⟨-, -, h, -⟩ | ⟨rfl, -⟩
    · cases h
    · cases h
    · exact lt_irrefl 0 hpos
  · have hmay : TcpSocket.maySend s.tcp = false := by
      rcases hdue with h | h
      · rw [hcan] at h
        cases h
      · exact h
    rcases hwr.result with ⟨-, h, -⟩ | ⟨-, -, h, -⟩ | ⟨-, h, -⟩
    · cases h
    · cases h
    · rw [htcp, hmay] at h
      cases h

namespace State

open World Transition

variable {wire : Wire} {clock : Clock} {s s' : State T Q} {hist : List (State T Q × Label)}
  {l : Label} {id : ConnId} {sh sh' : Shared T}

/-- **Wakers are woken in order, once each.** In every run, for every connection and side: the
wakers woken so far, and after them the one that waits, are among those that the calls of the
application left when they returned `Pending`, in that order and each at most as often as it was
left. -/
theorem wakers_in_order (r : LoopRun wire clock hist s) (hs : s.world.shared id = some sh)
    (rw : Close) :
    ((sh.readiness rw).woken.reverse ++ (sh.readiness rw).waker.toList).Sublist
      (collect (seen (registered rw) id) (events wire hist)) := by
  rw [collect_seen]
  have h := Solo.run_record (LoopRun.solo r id) rw
  rw [Solo.slot, show (s.world.view id).shared = some sh from hs] at h
  exact h

/-- A reader has waited, and a second time after it was woken. -/
theorem wakers_in_order_reader :
    ∃ hist s sh, LoopRun Reference.wire Reference.clock hist (s : Reference.Loop) ∧
      s.world.shared 0 = some sh ∧ sh.readReadiness.waker = some 9 ∧
      (sh.readReadiness.woken.reverse ++ [9]).Sublist
        (collect (seen (registered .read) 0) (events Reference.wire hist)) ∧
      collect (seen (registered .read) 0) (events Reference.wire hist) = [7, 8, 9] := by
  obtain ⟨hist, s, r, hs⟩ := Reference.run_of_check
    (Reference.waitingReader ++ [.app (.read Reference.reader true 8 10), .turn,
      Reference.receive .psh true [1], .app (.read Reference.reader true 9 10),
      .app (.read Reference.reader true 9 10)])
    (fun hist s => (s.world.shared 0).any fun (sh : Shared Reference.Socket) =>
      decide (sh.readReadiness.waker = some 9) &&
      decide (collect (seen (registered .read) 0) (events Reference.wire hist) = [7, 8, 9]))
    (by decide +kernel)
  rw [Option.any_eq_true] at hs
  obtain ⟨sh, hsh, hs⟩ := hs
  rw [Bool.and_eq_true, decide_eq_true_eq, decide_eq_true_eq] at hs
  have h := wakers_in_order r hsh .read
  rw [show (sh.readiness .read).waker = some 9 from hs.1] at h
  exact ⟨hist, s, sh, r, hsh, hs.1, h, hs.2⟩

/-- What a step of the loop does to the waker slots of a connection. -/
lemma LoopReachable.slotStep (h : LoopReachable wire clock s) (hl : s.step wire l = .ok s')
    (hs : s.world.shared id = some sh) (hs' : s'.world.shared id = some sh') (rw : Close)
    (hwoken : (sh'.readiness rw).woken ≠ (sh.readiness rw).woken) :
    (sh.readiness rw).Wakes (sh'.readiness rw) ∧ SideReady sh'.tcp rw := by
  obtain ⟨hist, r⟩ := h
  have hblank : (s.world.view id).Blank :=
    (LoopRun.solo r id).reachable.invariant (fun _ => rfl) Solo.blank_step
  have hslot : (s.world.view id).slot rw = sh.readiness rw := by
    rw [Solo.slot, show (s.world.view id).shared = some sh from hs]
  have hslot' : (s'.world.view id).slot rw = sh'.readiness rw := by
    rw [Solo.slot, show (s'.world.view id).shared = some sh' from hs']
  have hf := LoopReachable.solo_step r.reachable hl id
  rw [← hslot, ← hslot'] at hwoken ⊢
  generalize (s.event wire l).bind (soloEvent id s.world) = e at hf
  cases e with
  | none =>
    rw [show s'.world.view id = s.world.view id from hf] at hwoken
    exact absurd rfl hwoken
  | some e =>
    cases Solo.slot_step hblank hf rw with
    | registers waker _ h =>
      rw [h] at hwoken
      exact absurd rfl hwoken
    | keeps _ h =>
      rw [h] at hwoken
      exact absurd rfl hwoken
    | @wakes s₁ _ hs₁ hwakes hdue =>
      obtain rfl : sh' = s₁ := Option.some.inj (hs'.symm.trans hs₁)
      exact ⟨hwakes, hdue⟩

/-- **No idle wake-ups.** In every reachable state, for every step and every connection: if the step
wakes a task, it wakes the one whose waker is in the slot, and empties the slot; and what the task
waited for has happened. A writer with bytes to write then does not wait again; a reader with room
in its buffer does only in the handshake. -/
theorem wakes_when_due (hR : RecvSide T wire) (hS : SendSide T) (h : LoopReachable wire clock s)
    (hl : s.step wire l = .ok s') (hs : s.world.shared id = some sh)
    (hs' : s'.world.shared id = some sh') :
    (sh'.readReadiness.woken ≠ sh.readReadiness.woken →
      sh.readReadiness.Wakes sh'.readReadiness ∧
        ∀ waker len, 0 < len → (ReadHalf.pollReadInner true sh' waker len).1 = .pending →
          TcpSocket.state sh'.tcp = .synReceived) ∧
    (sh'.writeReadiness.woken ≠ sh.writeReadiness.woken →
      sh.writeReadiness.Wakes sh'.writeReadiness ∧
        ∀ handle waker buf, buf ≠ [] →
          (WriteHalf.pollWriteInner true sh' handle waker buf).1 ≠ .pending) := by
  constructor
  · intro hwoken
    obtain ⟨hwakes, hdue⟩ := LoopReachable.slotStep h hl hs hs' .read hwoken
    exact ⟨hwakes, fun waker len hlen hp => ReadHalf.not_pending_of_due hR hdue hlen hp⟩
  · intro hwoken
    obtain ⟨hwakes, hdue⟩ := LoopReachable.slotStep h hl hs hs' .write hwoken
    exact ⟨hwakes, fun handle waker buf hbuf => WriteHalf.not_pending_of_due hS hdue hbuf⟩

/-- A packet of the client wakes the reader. -/
theorem wakes_when_due_packet :
    ∃ (s s' : Reference.Loop) (sh sh' : Shared Reference.Socket),
      s.step Reference.wire (Reference.receive .psh true [1]) = .ok s' ∧
      s.world.shared 0 = some sh ∧ s'.world.shared 0 = some sh' ∧
      sh.readReadiness.Wakes sh'.readReadiness ∧
      (TcpSocket.state sh'.tcp = .established →
        ∀ waker, (ReadHalf.pollReadInner true sh' waker 1).1 ≠ .pending) := by
  obtain ⟨hist, s, r, hs⟩ := Reference.run_of_check (Reference.waitingReader ++ [.turn])
    (fun _ s => Reference.stepsTo s (Reference.receive .psh true [1]) fun s' =>
      (s.world.shared 0).any fun (sh : Shared Reference.Socket) =>
        (s'.world.shared 0).any fun (sh' : Shared Reference.Socket) =>
          decide (sh'.readReadiness.woken ≠ sh.readReadiness.woken)) (by decide +kernel)
  obtain ⟨s', hl, hs⟩ := Reference.step_of_stepsTo hs
  rw [Option.any_eq_true] at hs
  obtain ⟨sh, hsh, hs⟩ := hs
  rw [Option.any_eq_true] at hs
  obtain ⟨sh', hsh', hwoken⟩ := hs
  obtain ⟨hwakes, hready⟩ := (wakes_when_due Reference.Socket.recvSide
    Reference.Socket.sendSide r.reachable hl hsh hsh').1 (of_decide_eq_true hwoken)
  refine ⟨s, s', sh, sh', hl, hsh, hsh', hwakes, fun hest waker hp => ?_⟩
  have hsyn := hready waker 1 Nat.one_pos hp
  rw [hest] at hsyn
  cases hsyn

end State

end Ustunet
