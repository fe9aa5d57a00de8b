import Ustunet.Replies
import Ustunet.Ingress

/-!
# From the sockets to the device

A frame is a buffer that the loop has filled, with a reply or with what a dispatched socket emits.
`frames_in_order` follows the frames to the device: one at a time, in the order in which they were
made, and a frame is lost only where the device fails.
-/

namespace Ustunet
namespace State

open Transition

variable {T Q : Type} [TcpSocket T] [DelayQueue AddrPair Q]

/-- The frame that a buffer holds, if it holds one. -/
def frame (buf : List UInt8) : List (List UInt8) := if buf = [] then [] else [buf]

/-- The reply that a step serialises. -/
def replyFrame (wire : Wire) (s : State T Q) (l : Label) : List (List UInt8) :=
  match s.drains l, drainReplies wire s.ingressReplies with
  | true, .ok (buf, _) => frame buf
  | _, _ => []

/-- What the socket that a step dispatches emits. -/
def socketFrame (wire : Wire) (s : State T Q) (l : Label) : List (List UInt8) :=
  match s.event wire l with
  | some (.dispatch addr) =>
    match s.world.dispatch wire addr with
    | .ok (buf, _) => frame buf
    | .error _ => []
  | _ => []

/-- The frame that a step makes. -/
def frames (wire : Wire) (s : State T Q) (l : Label) : List (List UInt8) :=
  replyFrame wire s l ++ socketFrame wire s l

/-- The frame whose write the device has done. How much of it the device took is not looked at. -/
def written (s : State T Q) (l : Label) : List (List UInt8) :=
  match l with
  | .poll dev =>
    match s.pc, s.selects dev with
    | .select, .ready (.a (.ok _, buf)) => [buf]
    | _, _ => []
  | _ => []

/-- The frame that the device has. -/
def inFlight (s : State T Q) : List (List UInt8) :=
  match s.pc with
  | .halted => []
  | _ => (s.selector.a.map WriteFuture.buf).toList

/-- The frame that is dropped when the device fails, with the write future. -/
def lost (s : State T Q) (l : Label) : List (List UInt8) :=
  match l with
  | .poll dev =>
    match s.pc, s.selects dev with
    | .select, .ready (.a (.error _, _)) | .select, .ready (.b (.error _)) => s.inFlight
    | _, _ => []
  | _ => []

section

variable {wire : Wire} {clock : Clock} {s s' : State T Q} {l : Label}

omit [TcpSocket T] in
lemma inFlight_running (h : s.pc ≠ .halted) :
    s.inFlight = (s.selector.a.map WriteFuture.buf).toList := by
  unfold inFlight
  split
  · next hpc => exact absurd hpc h
  · rfl

omit [TcpSocket T] in
lemma inFlight_length : s.inFlight.length ≤ 1 := by
  unfold inFlight
  split
  · exact Nat.zero_le 1
  · cases s.selector.a <;> simp

lemma socketFrame_nil (h : ∀ addr, s.event wire l ≠ some (.dispatch addr)) :
    socketFrame wire s l = [] := by
  unfold socketFrame
  split
  · next addr he => exact absurd he (h addr)
  · rfl

/-- Frames are made at the head of the loop, while the writer is at hand. -/
lemma frames_nil (hstep : LoopSteps wire s l s') (h : l ≠ .turn ∨ s.writing = none) :
    frames wire s l = [] := by
  have hdrains : s.drains l = false := by
    rcases h with hl | hw
    · exact drains_false s hl
    · unfold drains
      rw [hw]
      exact Bool.and_false _
  have hevent : ∀ addr, s.event wire l ≠ some (.dispatch addr) := by
    intro addr he
    have hl := turn_of_dispatch he
    rcases h with hne | hw
    · exact hne hl
    · subst hl
      have hturn : s.turnEvent wire = some (.dispatch addr) := he
      unfold turnEvent at hturn
      rw [hw] at hturn
      cases hturn
  rw [frames, socketFrame_nil hevent, replyFrame, hdrains]
  rfl

/-- What the head of the loop puts in the buffer. -/
lemma frames_turn {buf buf' : List UInt8} {replies : List Packet} {world : World T Q}
    (hw : s.writing = some []) (hser : s.serialised wire [] = .ok (buf, replies))
    (hd : s.dispatchNext wire buf = .ok (buf', world)) : frames wire s .turn = frame buf' := by
  have hdrain : drainReplies wire s.ingressReplies = .ok (buf, replies) := hser
  have hdrains : s.drains .turn = true := by
    unfold drains
    rw [hw]
    rfl
  have hreply : replyFrame wire s .turn = frame buf := by
    unfold replyFrame
    rw [hdrains, hdrain]
  have hevent : s.event wire .turn = if buf = [] then s.world.nextPoll.map .dispatch else none := by
    show s.turnEvent wire = _
    unfold turnEvent
    rw [hw]
    dsimp only
    rw [hser]
    cases buf <;> rfl
  rw [frames, hreply, socketFrame, hevent]
  cases buf with
  | cons b bytes =>
    -- the reply is in the buffer: the socket in `next_poll` waits
    cases hd
    exact List.append_nil _
  | nil =>
    unfold dispatchNext at hd
    cases hn : s.world.nextPoll with
    | none =>
      rw [hn] at hd
      cases hd
      rfl
    | some addr =>
      rw [hn] at hd
      have hd : s.world.dispatch wire addr = .ok (buf', world) := hd
      simp [frame, hd]

omit [TcpSocket T] in
lemma written_nil {dev : Device} (h : ∀ n buf, s.selects dev ≠ .ready (.a (.ok n, buf))) :
    written s (.poll dev) = [] := by
  unfold written
  dsimp only
  split
  · next n buf _ hsel => exact absurd hsel (h n buf)
  · rfl

omit [TcpSocket T] in
lemma lost_nil {dev : Device} (ha : ∀ e buf, s.selects dev ≠ .ready (.a (.error e, buf)))
    (hb : ∀ e, s.selects dev ≠ .ready (.b (.error e))) : lost s (.poll dev) = [] := by
  unfold lost
  dsimp only
  split
  · next e buf _ hsel => exact absurd hsel (ha e buf)
  · next e _ hsel => exact absurd hsel (hb e)
  · rfl

/-- A step has left the frames alone. -/
structure Untouched (wire : Wire) (s : State T Q) (l : Label) (s' : State T Q) : Prop where
  frames : State.frames wire s l = []
  written : State.written s l = []
  lost : State.lost s l = []
  inFlight : s'.inFlight = s.inFlight

/-- A poll in which neither the write future nor a failure is returned leaves the frames alone. -/
lemma untouched_poll {dev : Device} (hpc : s.pc = .select) (hpc' : s'.pc ≠ .halted)
    (ha : s'.selector.a = s.selector.a) (h : LoopSteps wire s (.poll dev) s')
    (hsel : ∀ r, s.selects dev ≠ .ready (.a r)) (hb : ∀ e, s.selects dev ≠ .ready (.b (.error e))) :
    Untouched wire s (.poll dev) s' where
  frames := frames_nil h (Or.inl (by simp))
  written := written_nil fun n buf => hsel (.ok n, buf)
  lost := lost_nil (fun e buf => hsel (.error e, buf)) hb
  inFlight := by rw [inFlight_running hpc', inFlight_running (by simp [hpc]), ha]

lemma untouched_resume (hpc : s.pc ≠ .halted) (hpc' : s'.pc ≠ .halted)
    (ha : s'.selector.a = s.selector.a) (h : LoopSteps wire s .resume s') :
    Untouched wire s .resume s' where
  frames := frames_nil h (Or.inl (by simp))
  written := rfl
  lost := rfl
  inFlight := by rw [inFlight_running hpc', inFlight_running hpc, ha]

/-- What becomes of the frames in one step: nothing; one is made and goes to the device; one is
written; or the device fails, and the one it had is dropped. -/
inductive FrameStep (wire : Wire) (s : State T Q) (l : Label) (s' : State T Q) : Prop
  | keep (h : Untouched wire s l s') (hpc : s.pc = .halted → s'.pc = .halted)
  | make {buf : List UInt8} (hpc : s.pc = .top) (hidle : s.inFlight = [])
      (hf : frames wire s l = [buf]) (hw : written s l = []) (hl : lost s l = [])
      (hnext : s'.inFlight = [buf])
  | done {buf : List UInt8} (hpc : s.pc = .select) (hfull : s.inFlight = [buf])
      (hf : frames wire s l = []) (hw : written s l = [buf]) (hl : lost s l = [])
      (hnext : s'.inFlight = [])
  | fail (hf : frames wire s l = []) (hw : written s l = []) (hl : lost s l = s.inFlight)
      (hnext : s'.inFlight = []) (hpc : s'.pc = .halted)

omit [TcpSocket T] in
/-- While the writer is at hand, its buffer is empty and nothing is in flight. -/
lemma idle_writer {buf : List UInt8} (hs : s.pc = .halted ∨ s.Armed) (hpc : s.pc = .top)
    (hw : s.writing = some buf) : buf = [] ∧ s.inFlight = [] := by
  rcases hs with hret | hs
  · rw [hret] at hpc
    cases hpc
  · rcases hs.writer with ⟨hnil, ha⟩ | ⟨hnone, -⟩
    · rw [hw] at hnil
      refine ⟨Option.some.inj hnil, ?_⟩
      rw [inFlight_running (by simp [hpc]), ha]
      rfl
    · rw [hw] at hnone
      cases hnone

/-- A poll that returns a packet leaves the frames alone. -/
lemma FrameStep.of_reads {dev : Device} {packet : List UInt8} (hr : s.Reads dev packet)
    (hpc' : s'.pc ≠ .halted) (ha : s'.selector.a = s.selector.a)
    (h : LoopSteps wire s (.poll dev) s') : FrameStep wire s (.poll dev) s' :=
  .keep (untouched_poll hr.pc hpc' ha h (by simp [hr.bytes]) (by simp [hr.bytes]))
    (by simp [hr.pc])

/-- **The way of a frame through one step.** -/
lemma egress_step (h : LoopReachable wire clock s) (hl : s.step wire l = .ok s') :
    FrameStep wire s l s' := by
  have hs := LoopReachable.armed h
  have hsteps := steps_of_loop hl
  cases steps_of_loop hl with
  | elapse nanos => exact .keep ⟨frames_nil hsteps (Or.inl (by simp)), rfl, rfl, rfl⟩ id
  | app h => exact .keep ⟨frames_nil hsteps (Or.inl (by simp)), rfl, rfl, rfl⟩ id
  | busy hpc hw =>
    refine .keep ⟨frames_nil hsteps (Or.inr hw), rfl, rfl, ?_⟩ (by simp [hpc])
    rw [inFlight_running (by simp), inFlight_running (by simp [hpc])]
  | write hpc hw hser hd hne ha =>
    obtain ⟨rfl, hidle⟩ := idle_writer hs hpc hw
    refine .make hpc hidle ?_ rfl rfl (inFlight_running (by simp))
    rw [frames_turn hw hser hd]
    exact if_neg hne
  | rest hpc hw hser hd =>
    obtain ⟨rfl, hidle⟩ := idle_writer hs hpc hw
    refine .keep ⟨frames_turn hw hser hd, rfl, rfl, ?_⟩ (by simp [hpc])
    rw [inFlight_running (by simp), inFlight_running (by simp [hpc])]
  | wait hpc hsel hq =>
    exact .keep (untouched_poll hpc (by simp [hpc]) rfl hsteps (by simp [hsel]) (by simp [hsel])) id
  | expire hpc hsel hnext hq =>
    exact .keep (untouched_poll hpc (by simp) rfl hsteps (by simp [hsel]) (by simp [hsel]))
      (by simp [hpc])
  | @written dev f n hpc ha hsel =>
    have hw : State.written s (.poll dev) = [f.buf] := by
      unfold State.written
      dsimp only
      rw [hpc, hsel]
    refine .done hpc ?_ (frames_nil hsteps (Or.inl (by simp))) hw ?_ ?_
    · rw [inFlight_running (by simp [hpc]), ha]
      rfl
    · exact lost_nil (by simp [hsel]) (by simp [hsel])
    · exact inFlight_running (by simp)
  | @failed dev e sel world hpc hsel hw =>
    have hl : lost s (.poll dev) = s.inFlight := by
      unfold lost
      dsimp only
      rcases hsel with ⟨buf, hsel⟩ | hsel
      · rw [hpc, hsel]
      · rw [hpc, hsel]
    refine .fail (frames_nil hsteps (Or.inl (by simp))) (written_nil ?_) hl rfl rfl
    rcases hsel with ⟨buf, hsel⟩ | hsel
    · simp [hsel]
    · simp [hsel]
  | ignored hr h => exact .of_reads hr (by simp) rfl hsteps
  | known hr hp ha hc h => exact .of_reads hr (by simp) rfl hsteps
  | create hr hp ha hc hsyn h => exact .of_reads hr (by simp) rfl hsteps
  | close hpc hsel hm h =>
    exact .keep (untouched_poll hpc (by simp) rfl hsteps (by simp [hsel]) (by simp [hsel]))
      (by simp [hpc])
  | update hpc hsel hu =>
    exact .keep (untouched_poll hpc (by simp) rfl hsteps (by simp [hsel]) (by simp [hsel]))
      (by simp [hpc])
  | sent hpc h =>
    exact .keep (untouched_resume (by simp [hpc]) (by simp) rfl hsteps) (by simp [hpc])
  | inserted hpc h =>
    exact .keep (untouched_resume (by simp [hpc]) (by simp) rfl hsteps) (by simp [hpc])
  | processed hpc hb h =>
    exact .keep (untouched_resume (by simp [hpc]) (by simp) rfl hsteps) (by simp [hpc])
  | @panicked dev =>
    -- the head panics with the writer at hand, so nothing is in flight
    obtain ⟨p, hp⟩ := (unwinds_iff h dev).mp ⟨_, hl⟩
    have hidle := (idle_writer hs hp.pc hp.writing).2
    exact .keep ⟨frames_nil hsteps (Or.inl (by simp)), rfl, rfl, hidle.symm⟩ fun _ => rfl

/-- A step, in the form that the conservation rule asks for. -/
lemma FrameStep.flow (h : FrameStep wire s l s') :
    (s.inFlight ++ frames wire s l = written s l ++ s'.inFlight ∧ lost s l = [] ∧
        (s.pc = .halted → s'.pc = .halted ∧ frames wire s l = [])) ∨
      (frames wire s l = [] ∧ written s l = [] ∧ s'.inFlight = [] ∧ lost s l = s.inFlight ∧
        s'.pc = .halted) := by
  cases h with
  | keep hu hpc =>
    refine Or.inl ⟨?_, hu.lost, fun h => ⟨hpc h, hu.frames⟩⟩
    rw [hu.frames, hu.written, hu.inFlight, List.append_nil, List.nil_append]
  | make hpc hidle hf hw hl hnext =>
    refine Or.inl ⟨?_, hl, fun h => ?_⟩
    · rw [hidle, hf, hw, hnext]
    · rw [h] at hpc
      cases hpc
  | done hpc hfull hf hw hl hnext =>
    refine Or.inl ⟨?_, hl, fun h => ?_⟩
    · rw [hfull, hf, hw, hnext]
    · rw [h] at hpc
      cases hpc
  | fail hf hw hl hnext hpc => exact Or.inr ⟨hf, hw, hnext, hl, hpc⟩

/-- While a frame is in flight, no other is made. -/
lemma frames_waiting (h : LoopReachable wire clock s) (hl : s.step wire l = .ok s')
    (hf : s.inFlight ≠ []) : frames wire s l = [] := by
  cases egress_step h hl with
  | keep hu => exact hu.frames
  | make hpc hidle => exact absurd hidle hf
  | done hpc hfull hf => exact hf
  | fail hf => exact hf

lemma ne_nil_of_mem_frame {buf bytes : List UInt8} (h : bytes ∈ frame buf) : bytes ≠ [] := by
  unfold frame at h
  split at h
  · cases h
  · next hne => rwa [List.mem_singleton.mp h]

lemma ne_nil_of_mem_frames {bytes : List UInt8} (h : bytes ∈ frames wire s l) : bytes ≠ [] := by
  rcases List.mem_append.mp h with h | h
  · unfold replyFrame at h
    split at h
    · exact ne_nil_of_mem_frame h
    · cases h
  · unfold socketFrame at h
    split at h
    · split at h
      · exact ne_nil_of_mem_frame h
      · cases h
    · cases h

end

section

variable {wire : Wire} {clock : Clock} {s : State T Q} {hist : List (State T Q × Label)}

/-- **From the sockets to the device.** The frames that the loop has made, of replies and of what
the dispatched sockets emit, are those that the device has written, each once and in the order in
which they were made, then the one that was dropped when the device failed, then the one in flight.
At most one is in flight, none is made meanwhile, and none is empty. -/
theorem frames_in_order (r : LoopRun wire clock hist s) :
    collect (frames wire) hist = collect written hist ++ collect lost hist ++ s.inFlight ∧
      (collect lost hist ≠ [] → s.pc = .halted) ∧ s.inFlight.length ≤ 1 ∧
      (s.inFlight ≠ [] → ∀ l s', s.step wire l = .ok s' → frames wire s l = []) ∧
      ∀ buf ∈ collect (frames wire) hist, buf ≠ [] := by
  have hinit : LoopReachable wire clock (init clock : State T Q) := ⟨[], .start⟩
  obtain ⟨hflow, hlost⟩ := Run.conserves_until (c := inFlight) hinit rfl LoopReachable.after
    (fun h hl => (egress_step h hl).flow) r
  refine ⟨hflow, fun h => (hlost h).1, inFlight_length, fun hf l s' hl => ?_, fun buf hbuf => ?_⟩
  · exact frames_waiting r.reachable hl hf
  · obtain ⟨x, -, hx⟩ := mem_collect.mp hbuf
    exact ne_nil_of_mem_frames hx

/-- The SYN-ACK is written and sent again, and the device fails before it has written it again. -/
theorem frames_in_order_failure :
    ∃ hist s, LoopRun Reference.wire Reference.clock hist (s : Reference.Loop) ∧
      (collect written hist).length = 1 ∧ (collect lost hist).length = 1 ∧
      s.pc = .halted ∧ s.inFlight = [] ∧
      collect (frames Reference.wire) hist = collect written hist ++ collect lost hist := by
  obtain ⟨hist, s, r, hs⟩ := Reference.run_of_check
    (Reference.retransmission ++ [Reference.failing])
    (fun hist s => decide ((collect written hist).length = 1) &&
      decide ((collect lost hist).length = 1) && decide (s.inFlight = [])) (by decide +kernel)
  simp only [Bool.and_eq_true, decide_eq_true_eq] at hs
  obtain ⟨⟨hw, hl⟩, hf⟩ := hs
  obtain ⟨hflow, hret, -⟩ := frames_in_order r
  rw [hf, List.append_nil] at hflow
  refine ⟨hist, s, r, hw, hl, hret ?_, hf, hflow⟩
  intro hnil
  rw [hnil] at hl
  cases hl

end

end State
end Ustunet
