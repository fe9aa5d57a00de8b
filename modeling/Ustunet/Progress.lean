import Ustunet.Accepting
import Ustunet.Lib.Flow

/-!
# What can stop the loop

The loop takes its next step, whatever the device's futures are ready with, unless it waits for
room in the accept channel or panics at its head (`loop_goes_on_iff`). There it panics in two ways:
a reply cannot be serialised, or the connection in `next_poll` is gone; then its task unwinds
(`unwinds_iff`). The application panics only once the loop has halted, and nothing else ever panics
(`panics_iff`).

The device goes first, then the half-close messages, then the poll updates. `messages_within` bounds
the time that a message waits, in polls that find the device not ready.
-/

namespace Ustunet

/-- The selector is polled, and the device is not ready. -/
def Label.quiet : Label → Bool
  | .poll ⟨none, none⟩ => true
  | _ => false

lemma Label.eq_of_quiet {l : Label} (h : l.quiet = true) : l = .poll ⟨none, none⟩ := by
  unfold quiet at h
  split at h
  · rfl
  · cases h

namespace Event

/-- The half-close message that an event handles. -/
def halfCloses : Event → List Half
  | .dropHalf half => [half]
  | _ => []

/-- The poll update that an event delivers. -/
def updates : Event → List PollUpdate
  | .update socket pollAt => [(socket, pollAt)]
  | _ => []

end Event

namespace World

variable {T Q : Type} [TcpSocket T] [DelayQueue AddrPair Q] {wire : Wire} {w w' : World T Q}
  {e : Event}

/-- Half-close messages are taken from the head of their channel and sent to its end. -/
lemma Steps.closing_move (h : Steps wire w e w') (he : e ≠ .stop) :
    ∃ more, w.closing ++ more = e.halfCloses ++ w'.closing := by
  cases h with
  | dropHalf hclosing =>
    refine ⟨[], ?_⟩
    rw [List.append_nil, hclosing]
    rfl
  | stop => exact absurd rfl he
  | closeListener | refuse | drop => exact ⟨_, rfl⟩
  | _ => exact ⟨[], List.append_nil _⟩

/-- And so are poll updates. -/
lemma Steps.polls_move (h : Steps wire w e w') (he : e ≠ .stop) :
    ∃ more, w.polls ++ more = e.updates ++ w'.polls := by
  cases h with
  | update hpolls =>
    refine ⟨[], ?_⟩
    rw [List.append_nil, hpolls]
    rfl
  | stop => exact absurd rfl he
  | write | close => exact ⟨_, rfl⟩
  | _ => exact ⟨[], List.append_nil _⟩

end World

namespace State

open Transition World

variable {T Q : Type} [TcpSocket T] [DelayQueue AddrPair Q]

/-- Whether the label is the step that the loop is at. -/
def admits (s : State T Q) (l : Label) : Bool :=
  match l, s.pc with
  | .turn, .top => true
  | .poll _, .select => true
  | .resume, .sending _ | .resume, .inserting _ | .resume, .processing _ => true
  | _, _ => false

/-- The head of the loop panics, with the writer at hand. -/
inductive HeadPanics (wire : Wire) (s : State T Q) : Panic → Prop
  /-- A reply that is popped cannot be serialised. -/
  | reply (hpc : s.pc = .top) (hw : s.writing = some [])
      (h : drainReplies wire s.ingressReplies = .error (.panic .serialise)) :
      HeadPanics wire s .serialise
  /-- No reply goes first, and the connection in `next_poll` is gone. -/
  | dispatch {rest : List Packet} {addr : AddrPair} (hpc : s.pc = .top) (hw : s.writing = some [])
      (hr : drainReplies wire s.ingressReplies = .ok ([], rest))
      (hn : s.world.nextPoll = some addr) (h : s.world.sockets addr = none) :
      HeadPanics wire s .dispatchAfterDropping

section

variable {wire : Wire} {clock : Clock} {s s' : State T Q} {l : Label} {p : Panic}

omit [TcpSocket T] in
lemma admits_cases (h : s.admits l = true) :
    (l = .turn ∧ s.pc = .top) ∨ (∃ dev, l = .poll dev ∧ s.pc = .select) ∨
      (l = .resume ∧ s.Handling) := by
  unfold admits at h
  split at h
  · next hpc => exact Or.inl ⟨rfl, hpc⟩
  · next dev hpc => exact Or.inr (Or.inl ⟨dev, rfl, hpc⟩)
  · next a hpc => exact Or.inr (Or.inr ⟨rfl, .sending hpc⟩)
  · next a hpc => exact Or.inr (Or.inr ⟨rfl, .inserting hpc⟩)
  · next a hpc => exact Or.inr (Or.inr ⟨rfl, .processing hpc⟩)
  · cases h

/-! ## The head of the loop -/

lemma drainReplies_error {rs : List Packet} {e : Stop} (h : drainReplies wire rs = .error e) :
    e = .panic .serialise := by
  induction rs with
  | nil => cases h
  | cons r rest ih =>
    rw [drainReplies] at h
    split at h
    · exact (Except.error.inj h).symm
    · exact ih h
    · cases h

/-- A pooled connection is dispatched. -/
lemma dispatch_total (wire : Wire) {w : World T Q} (ho : w.Owned) {addr : AddrPair} {c : Connection}
    (hc : w.sockets addr = some c) : ∃ r, w.dispatch wire addr = .ok r := by
  obtain ⟨sh, hsh⟩ :=
    Option.isSome_iff_exists.mp (ho.live (ho.fresh (World.connOf_of_sockets hc)))
  unfold World.dispatch
  dsimp only
  rw [hc]
  dsimp only
  rw [hsh]
  dsimp only
  split
  · exact ⟨_, rfl⟩
  · exact ⟨_, rfl⟩

omit [TcpSocket T] in
lemma Armed.reader_some (hs : s.Armed) (hpc : s.pc = .top) : ¬ s.selector.b.isNone = true := by
  have hreader := hs.reader
  rw [hpc] at hreader
  rw [Option.isNone_iff_eq_none, ← Option.not_isSome_iff_eq_none, not_not]
  exact hreader

lemma turn_busy (hs : s.Armed) (hpc : s.pc = .top) (hw : s.writing = none) :
    s.step wire .turn = .ok { s with pc := .select } := by
  show s.turn wire = _
  unfold turn
  rw [if_neg (not_not.mpr hpc), if_neg (hs.reader_some hpc), hw]
  rfl

/-- The head of the loop, with the writer at hand: the replies, the dispatch, and the rest, which
does not fail. -/
lemma turn_idle (wire : Wire) (hs : s.Armed) (hpc : s.pc = .top) (hw : s.writing = some []) :
    ∃ rest : List UInt8 × World T Q → List Packet → State T Q,
      s.step wire .turn = (do
        let (buf, replies) ← drainReplies wire s.ingressReplies
        let r ← s.dispatchNext wire buf
        return rest r replies) := by
  have ha : s.selector.a = none := by
    rcases hs.writer with ⟨-, ha⟩ | ⟨hnone, -⟩
    · exact ha
    · rw [hw] at hnone
      cases hnone
  refine ⟨fun r replies =>
    if r.1 ≠ [] then { s with
      world := r.2, selector := { s.selector with a := some ⟨r.1⟩ }, writing := none
      ingressReplies := replies, pc := .select }
    else { s with world := r.2, writing := some r.1, ingressReplies := replies, pc := .select }, ?_⟩
  show s.turn wire = _
  unfold turn
  rw [if_neg (not_not.mpr hpc), if_neg (hs.reader_some hpc), hw]
  show (drainReplies wire s.ingressReplies >>= _) = (drainReplies wire s.ingressReplies >>= _)
  congr 1
  funext ⟨buf, replies⟩
  dsimp only
  congr 1
  funext ⟨buf', world⟩
  dsimp only
  split
  · rw [ha]
    rfl
  · rfl

lemma armed_of_top (h : LoopReachable wire clock s) (hpc : s.pc = .top) : s.Armed := by
  rcases LoopReachable.armed h with hret | hs
  · rw [hret] at hpc
    cases hpc
  · exact hs

omit [TcpSocket T] in
lemma HeadPanics.pc (h : s.HeadPanics wire p) : s.pc = .top := by
  cases h with
  | reply hpc => exact hpc
  | dispatch hpc => exact hpc

omit [TcpSocket T] in
lemma HeadPanics.writing (h : s.HeadPanics wire p) : s.writing = some [] := by
  cases h with
  | reply _ hw => exact hw
  | dispatch _ hw => exact hw

lemma dispatchNext_some {addr : AddrPair} (hn : s.world.nextPoll = some addr) :
    s.dispatchNext wire [] = s.world.dispatch wire addr := by
  unfold dispatchNext
  rw [hn]

lemma turn_panics (h : LoopReachable wire clock s) (hp : s.HeadPanics wire p) :
    s.step wire .turn = .error (.panic p) := by
  have hs := armed_of_top h hp.pc
  cases hp with
  | reply hpc hw hr =>
    obtain ⟨rest, hturn⟩ := turn_idle wire hs hpc hw
    rw [hturn, hr]
    rfl
  | @dispatch replies addr hpc hw hr hn hc =>
    obtain ⟨rest, hturn⟩ := turn_idle wire hs hpc hw
    have hpanic : s.world.dispatch wire addr = .error (.panic .dispatchAfterDropping) := by
      unfold World.dispatch
      dsimp only
      rw [hc]
    rw [hturn, hr]
    show (s.dispatchNext wire [] >>= _) = _
    rw [dispatchNext_some hn, hpanic]
    rfl

/-- The head of the loop comes to the selector, or panics. -/
lemma turn_total (h : LoopReachable wire clock s) (hpc : s.pc = .top) :
    (∃ s', s.step wire .turn = .ok s') ∨ ∃ p, s.HeadPanics wire p := by
  have hs := armed_of_top h hpc
  rcases hs.writer with ⟨hw, -⟩ | ⟨hw, -⟩
  · obtain ⟨rest, hturn⟩ := turn_idle wire hs hpc hw
    cases hr : drainReplies wire s.ingressReplies with
    | error e =>
      obtain rfl := drainReplies_error hr
      exact Or.inr ⟨.serialise, .reply hpc hw hr⟩
    | ok r =>
      obtain ⟨buf, replies⟩ := r
      have hgo : ∀ r, s.dispatchNext wire buf = .ok r → ∃ s', s.step wire .turn = .ok s' := by
        intro r hd
        refine ⟨rest r replies, ?_⟩
        rw [hturn, hr]
        show (s.dispatchNext wire buf >>= _) = _
        rw [hd]
        rfl
      cases buf with
      -- the reply goes first
      | cons b bytes => exact Or.inl (hgo _ rfl)
      | nil =>
        cases hn : s.world.nextPoll with
        | none =>
          refine Or.inl (hgo ([], s.world) ?_)
          unfold dispatchNext
          rw [hn]
        | some addr =>
          cases hc : s.world.sockets addr with
          | none => exact Or.inr ⟨.dispatchAfterDropping, .dispatch hpc hw hr hn hc⟩
          | some c =>
            obtain ⟨r, hd⟩ := dispatch_total wire (LoopReachable.owned h).1 hc
            exact Or.inl (hgo r ((dispatchNext_some hn).trans hd))
  · exact Or.inl ⟨_, turn_busy hs hpc hw⟩

/-! ## The selector -/

/-- Between two iterations, what the loop owns can be dropped. -/
lemma stop_total (h : LoopReachable wire clock s) (hpc : s.BetweenIterations) :
    ∃ w', s.world.step wire .stop = .ok w' :=
  ⟨_, if_pos ((LoopReachable.consistent h).idle hpc).1⟩

/-- The oldest half-close message finds its connection. -/
lemma dropTcpHalf_total (h : LoopReachable wire clock s) (hpc : s.pc = .select) {half : Half}
    {rest : List Half} (hm : s.world.closing = half :: rest) :
    ∃ w', { s.world with closing := rest }.dropTcpHalf half.socket half.rw = .ok w' := by
  have ho := (LoopReachable.owned h).1
  obtain ⟨hcr, hrun⟩ := (LoopReachable.consistent h).idle (Or.inr hpc)
  obtain ⟨c, hc, -⟩ := Owned.sockets_of_closing ho hrun hcr hm
  obtain ⟨sh, hsh⟩ :=
    Option.isSome_iff_exists.mp (ho.live (ho.fresh (World.connOf_of_sockets hc)))
  unfold World.dropTcpHalf
  dsimp only
  rw [hc]
  dsimp only
  rw [hsh]
  exact ⟨_, rfl⟩

/-- Whatever the device's futures are ready with, the loop handles it. -/
lemma poll_total (h : LoopReachable wire clock s) (hpc : s.pc = .select) (dev : Device) :
    ∃ s', s.step wire (.poll dev) = .ok s' := by
  obtain ⟨world, hstop⟩ := stop_total h (Or.inr hpc)
  have hread : ∀ packet, s.selects dev = .ready (.b (.ok packet)) →
      ∃ s', s.step wire (.poll dev) = .ok s' := by
    intro packet hsel
    obtain ⟨s', hs', -⟩ := read_total h hpc hsel
    exact ⟨s', hs'⟩
  show ∃ s', s.poll wire dev = .ok s'
  have hpoll : s.step wire (.poll dev) = s.poll wire dev := rfl
  rw [hpoll] at hread
  unfold selects at hread
  unfold poll at hread ⊢
  rw [if_pos hpc] at hread ⊢
  generalize hsel : s.selector.poll (s.cx dev) = r at hread ⊢
  obtain ⟨x, sel, w⟩ := r
  cases selects_of_poll hsel with
  | @written f n ha hn =>
    cases n with
    | error e =>
      refine ⟨{ s with selector := { s.selector with a := none }, world, pc := .halted }, ?_⟩
      show (s.world.step wire .stop >>= _) = _
      rw [hstop]
      rfl
    | ok n => exact ⟨_, rfl⟩
  | @read r hb hr =>
    cases r with
    | error e =>
      refine ⟨{ s with selector := { s.selector with b := none }, world, pc := .halted }, ?_⟩
      show (s.world.step wire .stop >>= _) = _
      rw [hstop]
      rfl
    | ok packet => exact hread packet rfl
  | @close half rest hc hm =>
    obtain ⟨world, hw⟩ := dropTcpHalf_total h hpc hm
    refine ⟨{ s with world, selector := { s.selector with c := some ⟨⟩ }, pc := .top }, ?_⟩
    show ({ s.world with closing := rest }.dropTcpHalf half.socket half.rw >>= _) = _
    rw [hw]
    rfl
  | update hd hu => exact ⟨_, rfl⟩
  | wait =>
    dsimp only
    split
    · split
      · exact ⟨_, rfl⟩
      · exact ⟨_, rfl⟩
    · exact ⟨_, rfl⟩

/-! ## What can stop the loop -/

/-- The rest of `create_syn` can be taken, unless the loop waits for room in the accept channel. -/
lemma resume_total (h : LoopReachable wire clock s) (hs : s.Handling) (hno : ¬ s.AwaitsAccept) :
    ∃ s', s.step wire .resume = .ok s' := by
  cases hs with
  | sending hpc =>
    obtain ⟨s', hs', -⟩ := resume_sending h hpc hno
    exact ⟨s', hs'⟩
  | inserting hpc =>
    obtain ⟨s', hs', -⟩ := resume_inserting h hpc
    exact ⟨s', hs'⟩
  | processing hpc =>
    obtain ⟨s', hs', -⟩ := resume_processing h hpc
    exact ⟨s', hs'⟩

omit [TcpSocket T] in
lemma Handling.not_top (h : s.Handling) : s.pc ≠ .top := by
  cases h with
  | sending hpc | inserting hpc | processing hpc => simp [hpc]

omit [TcpSocket T] in
lemma not_awaits (h : ∀ a, s.pc ≠ .sending a) : ¬ s.AwaitsAccept := by
  rintro ⟨⟨a, ha⟩, -⟩
  exact h a ha

/-- **When the loop goes on.** In every reachable state, the step that the loop is at can be taken,
whatever the device does, exactly if the loop neither waits for room in the accept channel nor
panics at its head. -/
theorem loop_goes_on_iff (h : LoopReachable wire clock s) (hl : s.admits l = true) :
    (∃ s', s.step wire l = .ok s') ↔ ¬ s.AwaitsAccept ∧ ∀ p, ¬ s.HeadPanics wire p := by
  rcases admits_cases hl with ⟨rfl, hpc⟩ | ⟨dev, rfl, hpc⟩ | ⟨rfl, hs⟩
  · have hno : ¬ s.AwaitsAccept := not_awaits (by simp [hpc])
    constructor
    · rintro ⟨s', hs'⟩
      refine ⟨hno, fun p hp => ?_⟩
      rw [turn_panics h hp] at hs'
      cases hs'
    · rintro ⟨-, hp⟩
      rcases turn_total h hpc with hok | ⟨p, hpanic⟩
      · exact hok
      · exact absurd hpanic (hp p)
  · refine iff_of_true (poll_total h hpc dev) ⟨not_awaits (by simp [hpc]), fun p hp => ?_⟩
    rw [hp.pc] at hpc
    cases hpc
  · have hp : ∀ p, ¬ s.HeadPanics wire p := fun p hp => hs.not_top hp.pc
    constructor
    · rintro ⟨s', hs'⟩
      refine ⟨fun ha => ?_, hp⟩
      rw [ha.disabled rfl] at hs'
      cases hs'
    · rintro ⟨hno, -⟩
      exact resume_total h hs hno

/-- The loop goes on after the handshake, whatever the device does. With three clients and one
stream accepted it does not. -/
theorem loop_goes_on_iff_crowded :
    (∃ s : Reference.Loop, LoopReachable Reference.wire Reference.clock s ∧ s.pc = .select ∧
      ∀ dev, ∃ s', s.step Reference.wire (.poll dev) = .ok s') ∧
    ∃ s : Reference.Loop, LoopReachable Reference.wire Reference.clock s ∧ s.Handling ∧
      ¬ ∃ s', s.step Reference.wire .resume = .ok s' := by
  constructor
  · obtain ⟨hist, s, r, hs⟩ := Reference.run_of_check (Reference.handshake ++ [.turn])
      (fun _ s => decide (s.pc = .select)) (by decide +kernel)
    have hpc := of_decide_eq_true hs
    refine ⟨s, r.reachable, hpc, fun dev => ?_⟩
    refine (loop_goes_on_iff r.reachable (by simp [admits, hpc])).mpr ?_
    refine ⟨not_awaits (by simp [hpc]), fun p hp => ?_⟩
    rw [hp.pc] at hpc
    cases hpc
  · obtain ⟨hist, s, r, hs⟩ := Reference.run_of_check Reference.crowded
      (fun _ s => s.awaitsAccept) (by decide +kernel)
    have hawait := awaits_of_awaitsAccept hs
    obtain ⟨a, hpc⟩ := hawait.pc
    refine ⟨s, r.reachable, .sending hpc, fun hgo => ?_⟩
    exact ((loop_goes_on_iff r.reachable (by simp [admits, hpc])).mp hgo).1 hawait

omit [TcpSocket T] in
lemma halted_of_stopped (hcons : s.Consistent) (hrun : s.world.running = false) :
    s.pc = .halted := by
  unfold Consistent at hcons
  split at hcons
  all_goals first | assumption | simp [hrun] at hcons

/-- The loop takes no step but the one it is at. -/
lemma disabled_of_not_admits (hl : l.ofLoop = true) (hu : ∀ dev, l ≠ .unwind dev)
    (h : s.admits l = false) : s.step wire l = .error .disabled := by
  cases l with
  | elapse | app => cases hl
  | unwind dev => exact absurd rfl (hu dev)
  | turn =>
    have hpc : s.pc ≠ .top := by
      intro hpc
      simp [admits, hpc] at h
    simp [step, turn, hpc, throw, throwThe, MonadExceptOf.throw, bind, Except.bind]
  | poll dev =>
    have hpc : s.pc ≠ .select := by
      intro hpc
      simp [admits, hpc] at h
    exact if_neg hpc
  | resume =>
    show s.resume wire = .error .disabled
    unfold admits at h
    unfold resume
    cases hpc : s.pc with
    | top | select | halted => rfl
    | sending a | inserting a | processing a =>
      rw [hpc] at h
      cases h

/-- Where the loop is, one of its labels takes the step. -/
lemma advance_step (wire : Wire) (s : State T Q) (dev : Device) :
    ∃ l : Label, l.ofLoop = true ∧ s.advance wire dev = s.step wire l := by
  unfold advance
  split
  · exact ⟨.turn, rfl, rfl⟩
  · exact ⟨.poll dev, rfl, rfl⟩
  · exact ⟨.resume, rfl, rfl⟩

/-- A step of the loop that panics is its head. -/
lemma loop_panics (h : LoopReachable wire clock s) (hl : l.ofLoop = true)
    (hp : s.step wire l = .error (.panic p)) : l = .turn ∧ s.HeadPanics wire p := by
  have no : ¬ ∃ s', s.step wire l = .ok s' := by
    rintro ⟨s', hs'⟩
    rw [hp] at hs'
    cases hs'
  have hu : ∀ dev, l ≠ .unwind dev := by
    rintro dev rfl
    exact unwind_panic hp
  have hadm : s.admits l = true := by
    by_contra hne
    rw [disabled_of_not_admits hl hu (Bool.eq_false_iff.mpr hne)] at hp
    cases hp
  rcases admits_cases hadm with ⟨rfl, hpc⟩ | ⟨dev, rfl, hpc⟩ | ⟨rfl, hs⟩
  · rcases turn_total h hpc with hok | ⟨p', hp'⟩
    · exact absurd hok no
    · rw [turn_panics h hp'] at hp
      cases hp
      exact ⟨rfl, hp'⟩
  · exact absurd (poll_total h hpc dev) no
  · by_cases ha : s.AwaitsAccept
    · rw [ha.disabled hl] at hp
      cases hp
    · exact absurd (resume_total h hs ha) no

/-- **Everything that can panic.** In every reachable state a step panics exactly in these cases: it
is the head of the loop with the writer at hand, and a reply that is popped cannot be serialised or,
with no reply going first, the connection in `next_poll` is gone; or it is an action of the
application, after the loop has returned or panicked, that sends a message to it. -/
theorem panics_iff (h : LoopReachable wire clock s) :
    s.step wire l = .error (.panic p) ↔
      (l = .turn ∧ s.HeadPanics wire p) ∨
        ∃ a, l = .app a ∧ s.pc = .halted ∧ s.world.act a = .error (.panic p) ∧
          (p = .pollChannelClosed ∨ p = .closeChannelClosed) := by
  constructor
  · intro hp
    cases l with
    | elapse nanos => cases hp
    | app a =>
      rcases bind_error hp with hact | ⟨world, -, hp⟩
      · have hact : s.world.act a = .error (.panic p) := hact
        have hret : s.world.running = false → s.pc = .halted :=
          halted_of_stopped (LoopReachable.consistent h)
        refine Or.inr ⟨a, rfl, ?_⟩
        cases panics_of_act hact with
        | pollChannel hrun => exact ⟨hret hrun, hact, Or.inl rfl⟩
        | closeChannel hrun => exact ⟨hret hrun, hact, Or.inr rfl⟩
      · cases hp
    | turn => exact Or.inl (loop_panics h rfl hp)
    | poll dev => exact Or.inl (loop_panics h rfl hp)
    | resume => exact Or.inl (loop_panics h rfl hp)
    | unwind dev => exact absurd hp unwind_panic
  · rintro (⟨rfl, hp⟩ | ⟨a, rfl, -, hact, -⟩)
    · exact turn_panics h hp
    · show (s.world.act a >>= _) = _
      rw [hact]
      rfl

/-- **When the task of the loop unwinds.** In every reachable state, it can end by a panic exactly
if the loop is at its head and panics there. -/
lemma unwinds_iff (h : LoopReachable wire clock s) (dev : Device) :
    (∃ s', s.step wire (.unwind dev) = .ok s') ↔ ∃ p, s.HeadPanics wire p := by
  constructor
  · rintro ⟨s', hs'⟩
    obtain ⟨⟨p, hp⟩, -⟩ := unwind_cases hs'
    obtain ⟨l, hl, he⟩ := advance_step wire s dev
    rw [he] at hp
    exact ⟨p, (loop_panics h hl hp).2⟩
  · rintro ⟨p, hp⟩
    have hadv : s.advance wire dev = .error (.panic p) := by
      unfold advance
      rw [hp.pc]
      exact turn_panics h hp
    have hret : s.step wire (.unwind dev) = s.ret wire := by
      show s.unwind wire dev = _
      unfold unwind
      rw [hadv]
    obtain ⟨w', hw'⟩ := stop_total h (Or.inl hp.pc)
    refine ⟨{ s with world := w', pc := .halted }, ?_⟩
    rw [hret, ret, hw']
    rfl

/-- The task of the loop unwinds at the head only. -/
lemma top_of_unwind {dev : Device} (h : LoopReachable wire clock s)
    (hl : s.step wire (.unwind dev) = .ok s') : s.pc = .top := by
  obtain ⟨p, hp⟩ := (unwinds_iff h dev).mp ⟨s', hl⟩
  exact hp.pc

/-- A poll update that is delivered after its connection was removed brings the pair to `next_poll`,
and the head of the loop panics. -/
theorem panics_iff_stale :
    ∃ s : Reference.Loop, LoopReachable Reference.wire Reference.clock s ∧
      s.world.nextPoll = some Reference.pair ∧
      s.HeadPanics Reference.wire .dispatchAfterDropping := by
  obtain ⟨hist, s, r, hs⟩ := Reference.run_of_check
    (Reference.staleUpdate ++ [.turn, Reference.idle])
    (fun _ s => decide (s.world.nextPoll = some Reference.pair) &&
      Reference.panics s .turn .dispatchAfterDropping) (by decide +kernel)
  rw [Bool.and_eq_true, decide_eq_true_eq] at hs
  rcases (panics_iff r.reachable).mp (Reference.step_of_panics hs.2) with ⟨-, hp⟩ | ⟨a, ha, -⟩
  · exact ⟨s, r.reachable, hs.1, hp⟩
  · cases ha

/-! ## How long a message waits -/

omit [TcpSocket T] in
/-- While the device is not ready, the first two slots are pending. -/
lemma pollSlot_quiet :
    pollSlot s.selector.a (s.cx ⟨none, none⟩) = (none, s.selector.a, s.cx ⟨none, none⟩) ∧
      pollSlot s.selector.b (s.cx ⟨none, none⟩) = (none, s.selector.b, s.cx ⟨none, none⟩) := by
  constructor
  · cases s.selector.a <;> rfl
  · cases s.selector.b <;> rfl

omit [TcpSocket T] in
lemma selects_close (hs : s.Armed) {m : Half} {rest : List Half}
    (hm : s.world.closing = m :: rest) : s.selects ⟨none, none⟩ = .ready (.c m) := by
  obtain ⟨f, hf⟩ := Option.isSome_iff_exists.mp hs.close
  have hc : pollSlot s.selector.c (s.cx ⟨none, none⟩)
      = (some m, none, { s.cx ⟨none, none⟩ with closing := rest }) := by
    rw [hf]
    simp [pollSlot, Future.poll, cx, hm]
  unfold selects Selector.poll
  rw [pollSlot_quiet.1]
  dsimp only
  rw [pollSlot_quiet.2]
  dsimp only
  rw [hc]

omit [TcpSocket T] in
lemma selects_update (hs : s.Armed) {u : PollUpdate} {rest : List PollUpdate}
    (hm : s.world.closing = []) (hu : s.world.polls = u :: rest) :
    s.selects ⟨none, none⟩ = .ready (.d u) := by
  obtain ⟨f, hf⟩ := Option.isSome_iff_exists.mp hs.close
  obtain ⟨g, hg⟩ := Option.isSome_iff_exists.mp hs.update
  have hc : pollSlot s.selector.c (s.cx ⟨none, none⟩)
      = (none, s.selector.c, s.cx ⟨none, none⟩) := by
    rw [hf]
    simp [pollSlot, Future.poll, cx, hm]
  have hd : pollSlot s.selector.d (s.cx ⟨none, none⟩)
      = (some u, none, { s.cx ⟨none, none⟩ with polls := rest }) := by
    rw [hg]
    simp [pollSlot, Future.poll, cx, hu]
  unfold selects Selector.poll
  rw [pollSlot_quiet.1]
  dsimp only
  rw [pollSlot_quiet.2]
  dsimp only
  rw [hc]
  dsimp only
  rw [hd]

lemma armed_of_poll {dev : Device} (h : LoopReachable wire clock s)
    (hl : s.step wire (.poll dev) = .ok s') : s.Armed := by
  rcases LoopReachable.armed h with hret | hs
  · have hdis : s.step wire (.poll dev) = .error .disabled := if_neg (by simp [hret])
    rw [hdis] at hl
    cases hl
  · exact hs

/-- The event of a step, if there is one. -/
lemma follows_step (h : LoopReachable wire clock s) (hl : s.step wire l = .ok s') :
    (s.event wire l = none ∧ s'.world = s.world) ∨
      ∃ e, s.event wire l = some e ∧ Steps wire s.world e s'.world := by
  have hf := (world_of_step (LoopReachable.consistent h) hl).1
  cases he : s.event wire l with
  | none =>
    rw [he] at hf
    exact Or.inl ⟨rfl, hf⟩
  | some e =>
    rw [he] at hf
    exact Or.inr ⟨e, rfl, steps_of_step hf⟩

/-- What the event of a step takes off a channel. -/
def takes {β : Type} (f : Event → List β) (wire : Wire) (s : State T Q) (l : Label) : List β :=
  ((s.event wire l).map f).getD []

/-- A step that does not stop the loop takes from the head of a channel, and may send to its end. -/
lemma takes_move {β : Type} (c : World T Q → List β) (f : Event → List β)
    (hc : ∀ {e}, Steps wire s.world e s'.world → e ≠ .stop →
      ∃ more, c s.world ++ more = f e ++ c s'.world)
    (h : LoopReachable wire clock s) (hne : s.event wire l ≠ some .stop)
    (hl : s.step wire l = .ok s') :
    ∃ more, c s.world ++ more = takes f wire s l ++ c s'.world := by
  unfold takes
  rcases follows_step h hl with ⟨he, hw⟩ | ⟨e, he, hsteps⟩
  · rw [he, hw]
    exact ⟨[], List.append_nil _⟩
  · rw [he] at hne ⊢
    exact hc hsteps fun heq => hne (congrArg some heq)

/-- A poll that finds the device not ready takes the oldest half-close message. -/
lemma event_close (h : LoopReachable wire clock s) (hl : s.step wire l = .ok s')
    (hq : l.quiet = true) (hne : s.world.closing ≠ []) :
    ∃ m, s.event wire l = some (.dropHalf m) := by
  obtain rfl := Label.eq_of_quiet hq
  obtain ⟨m, rest, hm⟩ := List.exists_cons_of_ne_nil hne
  exact ⟨m, pollEvent_ready (selects_close (armed_of_poll h hl) hm)⟩

/-- If there is none, it takes the oldest poll update. -/
lemma event_update (h : LoopReachable wire clock s) (hl : s.step wire l = .ok s')
    (hq : l.quiet = true) (hm : s.world.closing = []) (hne : s.world.polls ≠ []) :
    ∃ u : PollUpdate, s.event wire l = some (.update u.1 u.2) := by
  obtain rfl := Label.eq_of_quiet hq
  obtain ⟨u, rest, hu⟩ := List.exists_cons_of_ne_nil hne
  exact ⟨u, pollEvent_ready (selects_update (armed_of_poll h hl) hm hu)⟩

/-- The loop has halted once it has stopped the world. -/
lemma halted_of_stop {hist : List (State T Q × Label)} (h : LoopReachable wire clock s)
    (r : Run (step wire) s hist s') (hstop : ∃ x ∈ hist, x.1.event wire x.2 = some .stop) :
    s'.pc = .halted := by
  refine r.since (I := LoopReachable wire clock) (E := fun x l => x.event wire l = some .stop) h
    LoopReachable.after (fun {x l x'} hx he hl => ?_)
    (fun _ hret hl => halted_step hret (steps_of_loop hl)) hstop
  refine halted_of_stopped (LoopReachable.consistent (hx.after hl)) ?_
  rcases follows_step hx hl with ⟨hnone, -⟩ | ⟨e, he', hsteps⟩
  · rw [he] at hnone
    cases hnone
  · rw [he] at he'
    cases he'
    generalize x'.world = w' at hsteps
    cases hsteps
    rfl

/-- **How long a message waits.** As long as the loop does not stop: when `n` polls have found the
device not ready, the first `n` half-close messages that were waiting have been handled, in order;
and when `n` polls have found neither the device ready nor a half-close message, the first `n` poll
updates that were waiting have been delivered, in order. -/
theorem messages_within {hist : List (State T Q × Label)} (h : LoopReachable wire clock s)
    (r : Run (step wire) s hist s') (hrun : s'.pc ≠ .halted) :
    s.world.closing.take (hist.countP fun x => x.2.quiet)
        <+: collect (takes Event.halfCloses wire) hist ∧
      s.world.polls.take (hist.countP fun x => x.2.quiet && decide (x.1.world.closing = []))
        <+: collect (takes Event.updates wire) hist := by
  have hgo : ∀ x ∈ hist, x.1.event wire x.2 ≠ some .stop :=
    fun x hx hstop => hrun (halted_of_stop h r ⟨x, hx, hstop⟩)
  constructor
  · refine r.served_within (fun s => s.world.closing) _ (fun _ l => l.quiet) h LoopReachable.after
      (takes_move World.closing _ Steps.closing_move) ?_ hgo
    intro x l x' hx hq hne hl
    obtain ⟨m, hm⟩ := event_close hx hl hq hne
    rw [takes, hm]
    exact List.cons_ne_nil m []
  · refine r.served_within (fun s => s.world.polls) _
      (fun x l => l.quiet && decide (x.world.closing = [])) h LoopReachable.after
      (takes_move World.polls _ Steps.polls_move) ?_ hgo
    intro x l x' hx hq hne hl
    rw [Bool.and_eq_true, decide_eq_true_eq] at hq
    obtain ⟨u, hu⟩ := event_update hx hl hq.1 hq.2 hne
    rw [takes, hu]
    exact List.cons_ne_nil _ []

/-- The application writes and drops both halves. Three polls later, both messages and the update
have been handled. -/
theorem messages_within_three :
    ∃ (s s' : Reference.Loop) (hist : List (Reference.Loop × Label)),
      LoopReachable Reference.wire Reference.clock s ∧ Run (step Reference.wire) s hist s' ∧
      s.world.closing = [Reference.reader, Reference.writer] ∧
      s.world.polls = [(Reference.pair, .now)] ∧ hist.countP (fun x => x.2.quiet) = 3 ∧
      [Reference.reader, Reference.writer]
        <+: collect (takes Event.halfCloses Reference.wire) hist ∧
      [(Reference.pair, .now)] <+: collect (takes Event.updates Reference.wire) hist := by
  obtain ⟨hist₀, s, r₀, hs⟩ := Reference.run_of_check
    (Reference.handshake ++ [.app (.write Reference.writer true 0 [0]),
      .app (.drop Reference.reader), .app (.drop Reference.writer), .turn])
    (fun _ s => decide (s.world.closing = [Reference.reader, Reference.writer]) &&
      decide (s.world.polls = [(Reference.pair, .now)]) &&
      tests (step Reference.wire) s
        [Reference.idle, .turn, Reference.idle, .turn, Reference.idle]
        fun hist s' => decide (s'.pc ≠ .halted) &&
          decide (hist.countP (fun x => x.2.quiet) = 3) &&
          decide (hist.countP (fun x => x.2.quiet && decide (x.1.world.closing = [])) = 1))
    (by decide +kernel)
  simp only [Bool.and_eq_true, decide_eq_true_eq] at hs
  obtain ⟨⟨hclosing, hpolls⟩, htests⟩ := hs
  obtain ⟨hist, s', r, hs'⟩ := run_of_tests _ _ htests
  simp only [Bool.and_eq_true, decide_eq_true_eq] at hs'
  obtain ⟨⟨hrun, hquiet⟩, hidle⟩ := hs'
  obtain ⟨hclose, hupdate⟩ := messages_within r₀.reachable r hrun
  rw [hclosing, hquiet] at hclose
  rw [hpolls, hidle] at hupdate
  exact ⟨s, s', hist, r₀.reachable, r, hclosing, hpolls, hquiet, hclose, hupdate⟩

end

end State
end Ustunet
