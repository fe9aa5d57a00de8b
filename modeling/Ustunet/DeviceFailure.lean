import Ustunet.Ownership

/-!
# When the device fails

`io_loop` returns with the first error of the device; its task can also end by a panic. The streams
outlive it, and so do their ends of two channels whose receivers are gone. `failure_contained_iff`:
no operation of the application panics, and nobody is left waiting, exactly in the runs in which no
half is alive when the loop stops.
-/

namespace Ustunet
namespace World

variable {T Q : Type} [DelayQueue AddrPair Q]

/-! ## The streams in the accept channel -/

/-- The application has no half of a stream that is in the accept channel or not sent to it yet, so
such a stream has its halves. -/
structure Queued (w : World T Q) : Prop where
  held : ∀ id ∈ w.incoming, ∃ h ∈ w.halves, h.conn = id
  fresh : ∀ id ∈ w.incoming, id < w.nextConn
  making : ∀ k, w.creating = some k → k.handed = false →
    k.conn ∉ w.incoming ∧ k.conn < w.nextConn ∧ ∃ h ∈ w.halves, h.conn = k.conn

lemma queued_init (clock : Clock) : (init clock : World T Q).Queued where
  held _ h := nomatch h
  fresh _ h := nomatch h
  making _ h := nomatch h

/-- A stream that the application has is neither in the channel nor on its way there. -/
lemma accepted_iff {w : World T Q} {id : ConnId} (h : w.accepted id = true) :
    id ∉ w.incoming ∧ ∀ k, w.creating = some k → k.handed = false → k.conn ≠ id := by
  unfold accepted at h
  rw [Bool.and_eq_true] at h
  refine ⟨by simpa using h.1, ?_⟩
  rintro k hk hhanded rfl
  simp [hk, hhanded] at h

/-- A half of another stream survives the dropping of these. -/
lemma mem_dropStreams {w : World T Q} {ids : List ConnId} {h : Half} (hmem : h ∈ w.halves)
    (hconn : h.conn ∉ ids) : h ∈ (w.dropStreams ids).halves := by
  refine List.mem_filter.mpr ⟨hmem, ?_⟩
  simpa using hconn

variable [TcpSocket T] {wire : Wire} {w w' : World T Q} {e : Event}

lemma queued_step (hw : w.Queued) (h : Steps wire w e w') : w'.Queued := by
  obtain ⟨hheld, hfresh, hmaking⟩ := hw
  cases h with
  | elapse | read | write | close | process | dispatchKeep | dispatchDrop | dropHalf | update
  | expire | stop => exact ⟨hheld, hfresh, hmaking⟩
  | accept hin =>
    rw [hin] at hheld hfresh hmaking
    refine ⟨fun id h => hheld id (List.mem_cons_of_mem _ h),
      fun id h => hfresh id (List.mem_cons_of_mem _ h), fun k hk hh => ?_⟩
    obtain ⟨hnot, hhalf⟩ := hmaking k hk hh
    exact ⟨fun h => hnot (List.mem_cons_of_mem _ h), hhalf⟩
  | closeListener hrun =>
    refine ⟨fun _ h => (nomatch h), fun _ h => (nomatch h), fun k hk hh => ?_⟩
    obtain ⟨hnot, hlt, h, hmem, hconn⟩ := hmaking k hk hh
    rw [← hconn] at hnot
    exact ⟨List.not_mem_nil, hlt, h, mem_dropStreams hmem hnot, hconn⟩
  | @drop half hmem hacc hrun =>
    obtain ⟨hnotin, hnotmade⟩ := accepted_iff hacc
    -- a half of another connection is not the one that is dropped
    have other : ∀ {id}, id ≠ half.conn → (∃ h ∈ w.halves, h.conn = id) →
        ∃ h ∈ w.halves.erase half, h.conn = id := by
      rintro id hne ⟨h, hh, rfl⟩
      refine ⟨h, (List.mem_erase_of_ne ?_).mpr hh, rfl⟩
      rintro rfl
      exact hne rfl
    refine ⟨fun id h => other ?_ (hheld id h), hfresh, fun k hk hh => ?_⟩
    · rintro rfl
      exact hnotin h
    · obtain ⟨hnot, hlt, hhalf⟩ := hmaking k hk hh
      exact ⟨hnot, hlt, other (hnotmade k hk hh) hhalf⟩
  | @create pair tcp hpair hcr hrun hopen =>
    refine ⟨fun id h => ?_, fun id h => Nat.lt_succ_of_lt (hfresh id h), ?_⟩
    · obtain ⟨h, hmem, hconn⟩ := hheld id h
      exact ⟨h, List.mem_append_left _ hmem, hconn⟩
    · rintro k hk -
      cases hk
      refine ⟨fun h => Nat.lt_irrefl _ (hfresh _ h), Nat.lt_succ_self _,
        ⟨pair, .write, w.nextConn⟩, ?_, rfl⟩
      exact List.mem_append_right _ List.mem_cons_self
  | @handOver pair id hcr hlist hroom =>
    obtain ⟨-, hlt, hhalf⟩ := hmaking _ hcr rfl
    refine ⟨fun id' h => ?_, fun id' h => ?_, ?_⟩
    · rcases List.mem_append.mp h with h | h
      · exact hheld id' h
      · rw [List.mem_singleton.mp h]
        exact hhalf
    · rcases List.mem_append.mp h with h | h
      · exact hfresh id' h
      · rw [List.mem_singleton.mp h]
        exact hlt
    · intro k hk hh
      cases hk
      cases hh
  | @refuse pair id hcr hlist =>
    obtain ⟨hnot, -⟩ := hmaking _ hcr rfl
    refine ⟨fun id' hid => ?_, hfresh, ?_⟩
    · obtain ⟨h, hmem, rfl⟩ := hheld id' hid
      refine ⟨h, mem_dropStreams hmem fun hc => hnot ?_, rfl⟩
      rw [← List.mem_singleton.mp hc]
      exact hid
    · intro k hk hh
      cases hk
      cases hh
  | insert hcr hpair => exact ⟨hheld, hfresh, fun k hk => nomatch hk⟩

/-! ## After the loop has stopped -/

/-- The loop runs, or no half is alive. -/
def Unused (w : World T Q) : Prop := w.running = true ∨ w.halves = []

/-- Halves are made only while the loop runs, and it stops once. -/
lemma unused_step (hw : w.Unused) (hstop : e = .stop → w.halves = []) (h : Steps wire w e w') :
    w'.Unused := by
  cases h with
  | stop hcr => exact Or.inr (hstop rfl)
  | create hpair hcr hrun hopen => exact Or.inl hrun
  | drop hmem hacc hrun => exact Or.inl hrun
  | closeListener hrun =>
    refine hw.imp_right fun hnil => ?_
    show w.halves.filter _ = []
    rw [hnil]
    rfl
  | refuse hcr hlist =>
    refine hw.imp_right fun hnil => ?_
    show w.halves.filter _ = []
    rw [hnil]
    rfl
  | _ => exact hw

omit [TcpSocket T] in
/-- Where no half is alive, no stream is in the accept channel. -/
lemma Queued.incoming_nil (hw : w.Queued) (hnil : w.halves = []) : w.incoming = [] := by
  cases hin : w.incoming with
  | nil => rfl
  | cons id rest =>
    obtain ⟨h, hmem, -⟩ := hw.held id (by rw [hin]; exact List.mem_cons_self)
    rw [hnil] at hmem
    cases hmem

/-- **Without halves there is nothing to panic.** -/
lemma act_safe {a : Action} {p : Panic} (hq : w.Queued) (hw : w.Unused) :
    w.act a ≠ .error (.panic p) := by
  intro h
  have hpan := panics_of_act h
  have hrun : w.running = false := by cases hpan <;> assumption
  have hnil : w.halves = [] := hw.resolve_left (by rw [hrun]; exact Bool.false_ne_true)
  have hin := hq.incoming_nil hnil
  have huse : ∀ half rw, w.useHalf half rw = .error .disabled := by
    intro half rw
    unfold useHalf
    rw [hnil]
    exact if_neg fun hc => nomatch hc.1
  cases a with
  | accept => simp [act, hin] at h
  | closeListener => simp [act, hin] at h
  | read half lock waker len => rw [act, huse] at h; cases h
  | write half lock waker buf => rw [act, huse] at h; cases h
  | close half lock => rw [act, huse] at h; cases h
  | drop half => simp [act, hnil] at h

/-- **With a half there is**: the application drops it, or the accept channel that it is in. -/
lemma act_panics (hrun : w.running = false) (hcr : w.creating = none) {half : Half}
    (hmem : half ∈ w.halves) : ∃ a, w.act a = .error (.panic .closeChannelClosed) := by
  by_cases hacc : w.accepted half.conn = true
  · exact ⟨.drop half, by simp [act, hmem, hacc, hrun]⟩
  · refine ⟨.closeListener, ?_⟩
    have hin : w.incoming ≠ [] := by
      intro hin
      simp [accepted, hin, hcr] at hacc
    simp [act, hin, hrun]

end World

/-! ## Runs of the loop -/

/-- The waker that a half has left in its slot. -/
def Shared.registered {T : Type} (s : Shared T) : Close → Option Waker
  | .read => s.readReadiness.waker
  | .write => s.writeReadiness.waker

namespace State

open World Transition

variable {T Q : Type} [TcpSocket T] [DelayQueue AddrPair Q] {wire : Wire} {clock : Clock}
  {hist : List (State T Q × Label)} {s : State T Q}

/-- **When the failure of the device is contained.** In no state of a run can an operation of the
application panic, and no half that is alive when the loop returns or panics has its waker
registered, exactly if no half is alive at that moment. -/
theorem failure_contained_iff (r : LoopRun wire clock hist s) :
    ((∀ x ∈ visited hist s, ∀ (a : Action) (p : Panic), x.world.act a ≠ .error (.panic p)) ∧
      ∀ x ∈ events wire hist, x.2 = .stop → ∀ half ∈ x.1.halves, ∀ sh,
        x.1.shared half.conn = some sh → sh.registered half.rw = none) ↔
    ∀ x ∈ events wire hist, x.2 = .stop → x.1.halves = [] := by
  constructor
  · rintro ⟨hsafe, -⟩ x hx hstop
    obtain ⟨⟨y, l⟩, hy, he, hw⟩ := mem_events.mp hx
    rw [hstop] at he
    -- the state in which the loop has stopped
    obtain ⟨y', hy', hstep⟩ := r.mem_visited hy
    have hf := (world_of_step (LoopReachable.consistent (r.reachable_of_mem hy)) hstep).1
    rw [show y.event wire l = some .stop from he] at hf
    by_contra hne
    obtain ⟨half, rest, hhalves⟩ := List.exists_cons_of_ne_nil hne
    have hsteps : Steps wire y.world .stop y'.world := steps_of_step hf
    have hmem : half ∈ y'.world.halves ∧ y'.world.running = false ∧
        y'.world.creating = none := by
      generalize y'.world = w' at hsteps
      cases hsteps with
      | stop hcr =>
        refine ⟨?_, rfl, hcr⟩
        show half ∈ y.world.halves
        rw [show y.world = x.1 from hw, hhalves]
        exact List.mem_cons_self
    obtain ⟨a, ha⟩ := act_panics hmem.2.1 hmem.2.2 hmem.1
    exact hsafe y' hy' a _ ha
  · intro hstop
    refine ⟨fun x hx a p => ?_, fun x hx he half hmem => ?_⟩
    · obtain ⟨hist', hsuf, r'⟩ := r.visited_run hx
      have hinv : x.world.Queued ∧ x.world.Unused := by
        refine LoopRun.invariant (I := fun w => w.Queued ∧ w.Unused)
          (G := fun w e => e = .stop → w.halves = []) ⟨queued_init clock, Or.inl rfl⟩
          (fun _ _ hw hg h => ⟨queued_step hw.1 h, unused_step hw.2 hg h⟩) r' fun y hy => ?_
        obtain ⟨z, hz, he, hw⟩ := mem_events.mp hy
        exact hstop y (mem_events.mpr ⟨z, hsuf.subset hz, he, hw⟩)
      exact act_safe hinv.1 hinv.2
    · rw [hstop x hx he] at hmem
      cases hmem

/-- The device fails after both halves of the only stream have been dropped. -/
theorem failure_contained_dropped :
    ∃ (hist : List (Reference.Loop × Label)) (s : Reference.Loop),
      LoopRun Reference.wire Reference.clock hist s ∧ s.pc = .halted ∧
      ∀ x ∈ visited hist s, ∀ (a : Action) (p : Panic), x.world.act a ≠ .error (.panic p) := by
  obtain ⟨hist, s, r, hs⟩ := Reference.run_of_check
    (Reference.handshake ++ [.app (.drop Reference.reader), .app (.drop Reference.writer), .turn,
      Reference.failing])
    (fun hist s => s.pc = .halted && (events Reference.wire hist).all fun x =>
      decide (x.2 = .stop → x.1.halves = [])) (by decide +kernel)
  rw [Bool.and_eq_true, decide_eq_true_eq, List.all_eq_true] at hs
  exact ⟨hist, s, r, hs.1, ((failure_contained_iff r).mpr fun x hx =>
    of_decide_eq_true (hs.2 x hx)).1⟩

/-- The device fails while a reader waits. The reader's waker stays in its slot, and the
application panics when it closes the writer or drops a half. So it does, on a second connection,
after the loop has panicked over the first. -/
theorem failure_panics :
    (∃ (hist : List (Reference.Loop × Label)) (s : Reference.Loop)
      (sh : Shared Reference.Socket),
      LoopRun Reference.wire Reference.clock hist s ∧ s.pc = .halted ∧
      Reference.reader ∈ s.world.halves ∧ s.world.shared Reference.reader.conn = some sh ∧
      sh.registered .read = some 7 ∧
      s.step Reference.wire (.app (.close Reference.writer true))
        = .error (.panic .pollChannelClosed) ∧
      s.step Reference.wire (.app (.drop Reference.reader))
        = .error (.panic .closeChannelClosed)) ∧
    ∃ (hist : List (Reference.Loop × Label)) (s : Reference.Loop)
      (sh : Shared Reference.Socket),
      LoopRun Reference.wire Reference.clock hist s ∧ s.pc = .halted ∧
      (∃ x ∈ hist, x.2 = .unwind ⟨none, none⟩) ∧
      Reference.otherReader ∈ s.world.halves ∧
      s.world.shared Reference.otherReader.conn = some sh ∧ sh.registered .read = some 9 ∧
      s.step Reference.wire (.app (.close Reference.otherWriter true))
        = .error (.panic .pollChannelClosed) ∧
      s.step Reference.wire (.app (.drop Reference.otherReader))
        = .error (.panic .closeChannelClosed) := by
  constructor
  · obtain ⟨hist, s, r, hs⟩ := Reference.run_of_check
      (Reference.waitingReader ++ [.turn, Reference.failing])
      (fun _ s => decide (s.pc = .halted) && decide (Reference.reader ∈ s.world.halves) &&
        (s.world.shared Reference.reader.conn).any (fun sh => sh.registered .read == some 7) &&
        Reference.panics s (.app (.close Reference.writer true)) .pollChannelClosed &&
        Reference.panics s (.app (.drop Reference.reader)) .closeChannelClosed)
      (by decide +kernel)
    simp only [Bool.and_eq_true, decide_eq_true_eq, Option.any_eq_true, beq_iff_eq] at hs
    obtain ⟨⟨⟨⟨hpc, hmem⟩, sh, hsh, hwk⟩, hclose⟩, hdrop⟩ := hs
    exact ⟨hist, s, sh, r, hpc, hmem, hsh, hwk, Reference.step_of_panics hclose,
      Reference.step_of_panics hdrop⟩
  · obtain ⟨hist, s, r, hs⟩ := Reference.run_of_check Reference.orphaned
      (fun hist s => decide (s.pc = .halted) &&
        hist.any (fun x => decide (x.2 = .unwind ⟨none, none⟩)) &&
        decide (Reference.otherReader ∈ s.world.halves) &&
        (s.world.shared Reference.otherReader.conn).any
          (fun sh => sh.registered .read == some 9) &&
        Reference.panics s (.app (.close Reference.otherWriter true)) .pollChannelClosed &&
        Reference.panics s (.app (.drop Reference.otherReader)) .closeChannelClosed)
      (by decide +kernel)
    simp only [Bool.and_eq_true, decide_eq_true_eq, Option.any_eq_true, beq_iff_eq,
      List.any_eq_true] at hs
    obtain ⟨⟨⟨⟨⟨hpc, hunwind⟩, hmem⟩, sh, hsh, hwk⟩, hclose⟩, hdrop⟩ := hs
    exact ⟨hist, s, sh, r, hpc, hunwind, hmem, hsh, hwk, Reference.step_of_panics hclose,
      Reference.step_of_panics hdrop⟩

end State
end Ustunet
