import Ustunet.Expiry
import Ustunet.Progress

/-!
# From the device to the sockets

A packet that is read from the device and has a connection to go to is processed by it once, before
the next one is read (`packets_in_order`). A SYN may have to wait for the accept channel in between,
while time goes by and the tasks run. The times that smoltcp is given, with packets and with
dispatches, never go back (`timestamps_sorted`), although the SYN keeps the time at which it was
read.
-/

namespace Ustunet

variable {T Q : Type} [TcpSocket T] [DelayQueue AddrPair Q]

namespace State

open Transition

/-- The packet that a step reads from the device. -/
def packetRead (s : State T Q) (l : Label) : Option (List UInt8) :=
  match l with
  | .poll dev =>
    match s.pc, s.selects dev with
    | .select, .ready (.b (.ok packet)) => some packet
    | _, _ => none
  | _ => none

/-- Where a packet goes: to the connection of its pair, or to a new one. -/
def route (wire : Wire) (w : World T Q) (packet : List UInt8) : Option Arrival :=
  match parse wire packet with
  | .ok (some (ipRepr, tcpRepr)) =>
    match arrival w ipRepr tcpRepr with
    | .ok a =>
      match w.sockets a.pair, w.create a.pair with
      | some _, _ => some a
      | none, .ok _ => if tcpRepr.control = .syn then some a else none
      | none, .error _ => none
    | .error _ => none
  | _ => none

/-- The packet that a step reads, if it has somewhere to go. -/
def routed (wire : Wire) (s : State T Q) (l : Label) : List Arrival :=
  ((s.packetRead l).bind (route wire s.world)).toList

/-- The packet that a step gives to a connection. -/
def delivered (wire : Wire) (s : State T Q) (l : Label) : List Arrival :=
  match s.event wire l with
  | some (.process pair timestamp ipRepr tcpRepr) => [⟨pair, timestamp, ipRepr, tcpRepr⟩]
  | _ => []

/-- The SYN that waits in `create_syn`. -/
def underWay (s : State T Q) : List Arrival :=
  match s.pc with
  | .sending a | .inserting a | .processing a => [a]
  | _ => []

/-- The times that a step gives to smoltcp, in milliseconds. -/
def timestamps (wire : Wire) (s : State T Q) (l : Label) : List ℤ :=
  match s.event wire l with
  | some (.process _ timestamp _ _) => [timestamp.millis]
  | some (.dispatch _) => [(s.world.clock.timestamp s.world.now).millis]
  | _ => []

section

variable {wire : Wire} {clock : Clock} {s s' : State T Q} {l : Label}

omit [TcpSocket T] in
lemma underWay_idle (h : s.BetweenIterations) : s.underWay = [] := by
  unfold underWay
  rcases h with h | h <;> rw [h]

lemma routed_nil (h : s.packetRead l = none) : s.routed wire l = [] := by
  rw [routed, h]
  rfl

omit [TcpSocket T] in
lemma packetRead_pending {dev : Device} (h : s.selects dev = .pending) :
    s.packetRead (.poll dev) = none := by
  unfold packetRead
  dsimp only
  rw [h]
  cases s.pc <;> rfl

omit [TcpSocket T] in
/-- Only the bytes of a read are a packet. -/
lemma packetRead_ready {dev : Device} {x : IoSelected} (h : s.selects dev = .ready x)
    (hx : ∀ packet, x ≠ .b (.ok packet)) : s.packetRead (.poll dev) = none := by
  unfold packetRead
  dsimp only
  rw [h]
  split
  · next packet _ he =>
    injection he with he
    exact absurd he (hx packet)
  · rfl

lemma packetRead_reads {dev : Device} {packet : List UInt8} (hr : s.Reads dev packet) :
    s.routed wire (.poll dev) = (route wire s.world packet).toList := by
  have h : s.packetRead (.poll dev) = some packet := by
    unfold packetRead
    dsimp only
    rw [hr.pc, hr.bytes]
  rw [routed, h]
  rfl

lemma route_ignores {w : World T Q} {packet : List UInt8} {result : Except Error (Option Packet)}
    (h : Ignores wire w packet result) : route wire w packet = none := by
  unfold route
  cases h with
  | parse h => rw [h]
  | notTcp h => rw [h]
  | arrival hp h =>
    rw [hp]
    dsimp only
    rw [h]
  | unknown hp ha hs hsyn =>
    rw [hp]
    dsimp only
    rw [ha]
    dsimp only
    rw [hs]
    split
    · next h => cases h
    · rw [if_neg hsyn]
    · rfl
  | listen hp ha hs hsyn h =>
    rw [hp]
    dsimp only
    rw [ha]
    dsimp only
    rw [hs, h]

lemma route_known {w : World T Q} {packet : List UInt8} {a : Arrival} {c : Connection}
    (hp : parse wire packet = .ok (some (a.ipRepr, a.tcpRepr)))
    (ha : arrival w a.ipRepr a.tcpRepr = .ok a) (hc : w.sockets a.pair = some c) :
    route wire w packet = some a := by
  unfold route
  rw [hp]
  dsimp only
  rw [ha]
  dsimp only
  rw [hc]

lemma route_create {w world : World T Q} {packet : List UInt8} {a : Arrival}
    (hp : parse wire packet = .ok (some (a.ipRepr, a.tcpRepr)))
    (ha : arrival w a.ipRepr a.tcpRepr = .ok a) (hc : w.sockets a.pair = none)
    (hsyn : a.tcpRepr.control = .syn) (h : w.create a.pair = .ok world) :
    route wire w packet = some a := by
  unfold route
  rw [hp]
  dsimp only
  rw [ha]
  dsimp only
  rw [hc, h]
  exact if_pos hsyn

lemma delivered_nil {e : Option Event} (h : s.event wire l = e)
    (he : ∀ pair timestamp ip tcp, e ≠ some (.process pair timestamp ip tcp)) :
    s.delivered wire l = [] := by
  unfold delivered
  rw [h]
  split
  · next pair timestamp ip tcp => exact absurd rfl (he pair timestamp ip tcp)
  · rfl

lemma delivered_process {a : Arrival}
    (h : s.event wire l = some (.process a.pair a.timestamp a.ipRepr a.tcpRepr)) :
    s.delivered wire l = [a] := by
  unfold delivered
  rw [h]

/-- The head of the loop dispatches, or does nothing to the world. -/
lemma event_turn (wire : Wire) (s : State T Q) :
    s.event wire .turn = none ∨ ∃ addr, s.event wire .turn = some (.dispatch addr) := by
  show s.turnEvent wire = none ∨ ∃ addr, s.turnEvent wire = some (.dispatch addr)
  unfold turnEvent
  cases s.writing with
  | none => exact Or.inl rfl
  | some writeBuf =>
    dsimp only
    split
    · cases s.world.nextPoll with
      | none => exact Or.inl rfl
      | some addr => exact Or.inr ⟨addr, rfl⟩
    · exact Or.inl rfl

lemma event_pending (wire : Wire) {dev : Device} (h : s.selects dev = .pending) :
    s.event wire (.poll dev) = none ∨ ∃ addr, s.event wire (.poll dev) = some (.expire addr) := by
  rw [pollEvent_pending h]
  split
  · cases s.world.queue.poll s.world.now with
    | none => exact Or.inl rfl
    | some r => exact Or.inr ⟨r.1, rfl⟩
  · exact Or.inl rfl

lemma delivered_turn : s.delivered wire .turn = [] := by
  rcases event_turn wire s with h | ⟨addr, h⟩
  · exact delivered_nil h (by simp)
  · exact delivered_nil h (by simp)

lemma delivered_pending {dev : Device} (h : s.selects dev = .pending) :
    s.delivered wire (.poll dev) = [] := by
  rcases event_pending wire h with h | ⟨addr, h⟩
  · exact delivered_nil h (by simp)
  · exact delivered_nil h (by simp)

/-- A step that has nothing to do with packets. -/
lemma ingress_quiet (hread : s.packetRead l = none) (hdel : s.delivered wire l = [])
    (h : s'.underWay = s.underWay) :
    s.underWay ++ s.routed wire l = s.delivered wire l ++ s'.underWay := by
  rw [routed_nil hread, hdel, h, List.append_nil, List.nil_append]

/-- What is read is delivered at once, or waits in `create_syn` and is delivered later. -/
lemma ingress_step (h : LoopReachable wire clock s) (hl : s.step wire l = .ok s') :
    s.underWay ++ s.routed wire l = s.delivered wire l ++ s'.underWay := by
  cases steps_of_loop hl with
  | elapse | app => exact ingress_quiet rfl rfl rfl
  | busy hpc | write hpc | rest hpc =>
    refine ingress_quiet rfl delivered_turn ?_
    rw [underWay_idle (Or.inl hpc)]
    rfl
  | wait hpc hsel => exact ingress_quiet (packetRead_pending hsel) (delivered_pending hsel) rfl
  | expire hpc hsel =>
    refine ingress_quiet (packetRead_pending hsel) (delivered_pending hsel) ?_
    rw [underWay_idle (Or.inr hpc)]
    rfl
  | written hpc ha hsel =>
    refine ingress_quiet (packetRead_ready hsel (by simp)) ?_ ?_
    · exact delivered_nil (pollEvent_ready hsel) (by simp [handleEvent])
    · rw [underWay_idle (Or.inr hpc)]
      rfl
  | failed hpc hsel hw =>
    rcases hsel with ⟨buf, hsel⟩ | hsel
    all_goals
      refine ingress_quiet (packetRead_ready hsel (by simp)) ?_ ?_
      · exact delivered_nil (pollEvent_ready hsel) (by simp [handleEvent])
      · rw [underWay_idle (Or.inr hpc)]
        rfl
  | ignored hr h =>
    rw [underWay_idle (Or.inr hr.pc), packetRead_reads hr,
      delivered_nil (event_ignored hr h) (by simp)]
    rcases h with rfl | ⟨result, hi⟩
    · rfl
    · rw [route_ignores hi]
      rfl
  | known hr hp ha hc h =>
    rw [underWay_idle (Or.inr hr.pc), packetRead_reads hr, route_known hp ha hc,
      delivered_process (event_known hr hp ha hc)]
    rfl
  | create hr hp ha hc hsyn h =>
    rw [underWay_idle (Or.inr hr.pc), packetRead_reads hr, route_create hp ha hc hsyn h,
      delivered_nil (event_create hr hp ha hc hsyn h) (by simp)]
    rfl
  | close hpc hsel hm h =>
    refine ingress_quiet (packetRead_ready hsel (by simp)) ?_ ?_
    · exact delivered_nil (pollEvent_ready hsel) (by simp [handleEvent])
    · rw [underWay_idle (Or.inr hpc)]
      rfl
  | update hpc hsel hu =>
    refine ingress_quiet (packetRead_ready hsel (by simp)) ?_ ?_
    · exact delivered_nil (pollEvent_ready hsel) (by simp [handleEvent])
    · rw [underWay_idle (Or.inr hpc)]
      rfl
  | @sent a world hpc h =>
    refine ingress_quiet rfl (delivered_nil (event_sending hpc) ?_) ?_
    · split <;> simp
    · unfold underWay
      rw [hpc]
  | @inserted a world hpc h =>
    refine ingress_quiet rfl (delivered_nil (event_inserting hpc) (by simp)) ?_
    unfold underWay
    rw [hpc]
  | @processed a reply world hpc hb h =>
    have hu : s.underWay = [a] := by
      unfold underWay
      rw [hpc]
    rw [hu, routed_nil rfl, delivered_process (event_processing hpc)]
    rfl
  | panicked =>
    -- the loop is at its head, so no packet is lost
    rw [underWay_idle (Or.inl (top_of_unwind h hl))]
    rfl

omit [TcpSocket T] in
lemma underWay_length : s.underWay.length ≤ 1 := by
  unfold underWay
  split <;> simp

omit [TcpSocket T] in
/-- Nothing is read while a SYN waits. -/
lemma packetRead_waiting (h : s.underWay ≠ []) : s.packetRead l = none := by
  unfold packetRead
  split
  · split
    · next hpc _ => exact absurd (underWay_idle (Or.inr hpc)) h
    · rfl
  · rfl

/-! ## The times that smoltcp is given -/

omit [TcpSocket T] in
lemma arrival_timestamp {w : World T Q} {ip : IpRepr} {tcp : TcpRepr} {a : Arrival}
    (h : arrival w ip tcp = .ok a) : a.timestamp = w.clock.timestamp w.now := by
  obtain ⟨src, -, h⟩ := bind_ok h
  obtain ⟨dst, -, h⟩ := bind_ok h
  dsimp only at h
  split at h
  · cases h
  · cases h
    rfl

/-- A packet has the time at which it was read. -/
lemma routed_timestamp {a : Arrival} (h : a ∈ s.routed wire l) :
    a.timestamp = s.world.clock.timestamp s.world.now := by
  obtain ⟨packet, -, h⟩ := Option.bind_eq_some_iff.mp (Option.mem_toList.mp h)
  unfold route at h
  split at h
  · split at h
    · next b harr =>
      have hb : a = b := by
        split at h
        · exact (Option.some.inj h).symm
        · split at h
          · exact (Option.some.inj h).symm
          · cases h
        · cases h
      rw [hb]
      exact arrival_timestamp harr
    · cases h
  · cases h

/-- The time of the last packet that was read, if it waits, or else the time of the loop. -/
def mark (s : State T Q) : ℤ :=
  match s.underWay with
  | a :: _ => a.timestamp.millis
  | [] => (s.world.clock.timestamp s.world.now).millis

omit [TcpSocket T] in
lemma mark_idle (h : s.underWay = []) :
    s.mark = (s.world.clock.timestamp s.world.now).millis := by
  unfold mark
  rw [h]

omit [TcpSocket T] in
lemma mark_waiting {a : Arrival} (h : a ∈ s.underWay) : s.mark = a.timestamp.millis := by
  unfold mark
  match hu : s.underWay with
  | [] =>
    rw [hu] at h
    cases h
  | [b] =>
    rw [hu] at h
    rw [List.mem_singleton.mp h]
  | b :: c :: rest =>
    have hlen := underWay_length (s := s)
    rw [hu] at hlen
    simp at hlen

/-- The SYN that waits was read at some time that has passed. -/
def Stamped (s : State T Q) : Prop :=
  ∀ a ∈ s.underWay, ∃ t ≤ s.world.now, a.timestamp = s.world.clock.timestamp t

omit [TcpSocket T] in
lemma Stamped.le {a : Arrival} (h : s.Stamped) (ha : a ∈ s.underWay)
    (hin : s.world.clock.InTime s.world.now) :
    a.timestamp.millis ≤ (s.world.clock.timestamp s.world.now).millis := by
  obtain ⟨t, hle, heq⟩ := h a ha
  rw [heq]
  exact Clock.timestamp_mono hle hin

omit [TcpSocket T] in
lemma Stamped.mark_le (h : s.Stamped) (hin : s.world.clock.InTime s.world.now) :
    s.mark ≤ (s.world.clock.timestamp s.world.now).millis := by
  unfold mark
  split
  · next a rest hu => exact h.le (hu ▸ List.mem_cons_self) hin
  · exact le_rfl

/-- What a step does to the time. -/
lemma time_of_step (hcons : s.Consistent) (h : s.step wire l = .ok s') :
    s.world.now ≤ s'.world.now ∧ s'.world.clock = s.world.clock := by
  have hf := (world_of_step hcons h).1
  cases he : s.event wire l with
  | none =>
    rw [he] at hf
    rw [show s'.world = s.world from hf]
    exact ⟨le_rfl, rfl⟩
  | some e =>
    rw [he] at hf
    have hsteps := World.steps_of_step hf
    exact ⟨hsteps.now_le, hsteps.clock_eq⟩

/-- What is under way after a step was under way before it, or has just been read. -/
lemma mem_underWay {a : Arrival} (h : LoopReachable wire clock s) (hl : s.step wire l = .ok s')
    (ha : a ∈ s'.underWay) : a ∈ s.underWay ∨ a ∈ s.routed wire l := by
  have hmem : a ∈ s.delivered wire l ++ s'.underWay := List.mem_append_right _ ha
  rw [← ingress_step h hl] at hmem
  exact List.mem_append.mp hmem

lemma stamped_step (h : LoopReachable wire clock s) (hs : s.Stamped) (hl : s.step wire l = .ok s') :
    s'.Stamped := by
  intro a ha
  obtain ⟨hnow, hclock⟩ := time_of_step (LoopReachable.consistent h) hl
  rw [hclock]
  rcases mem_underWay h hl ha with hold | hnew
  · obtain ⟨t, hle, heq⟩ := hs a hold
    exact ⟨t, hle.trans hnow, heq⟩
  · exact ⟨s.world.now, hnow, routed_timestamp hnew⟩

/-- The mark does not go back: a SYN that waits keeps its time, and nothing is read until it is
processed. -/
lemma mark_le (h : LoopReachable wire clock s) (hs : s.Stamped) (hl : s.step wire l = .ok s')
    (hin : s'.world.clock.InTime s'.world.now) : s.mark ≤ s'.mark := by
  obtain ⟨hnow, hclock⟩ := time_of_step (LoopReachable.consistent h) hl
  rw [hclock] at hin
  cases hu : s'.underWay with
  | nil =>
    rw [mark_idle hu, hclock]
    exact (hs.mark_le (hin.of_le hnow)).trans (Clock.timestamp_mono hnow hin)
  | cons a rest =>
    have ha : a ∈ s'.underWay := hu ▸ List.mem_cons_self
    rw [mark_waiting ha]
    rcases mem_underWay h hl ha with hold | hnew
    · exact (mark_waiting hold).le
    · have hidle : s.underWay = [] := by
        by_contra hne
        rw [routed_nil (packetRead_waiting hne)] at hnew
        cases hnew
      rw [mark_idle hidle, routed_timestamp hnew]

/-- A time that is given to smoltcp is that of a packet, or that of the loop. -/
lemma mem_timestamps {t : ℤ} (h : t ∈ s.timestamps wire l) :
    (∃ a ∈ s.delivered wire l, t = a.timestamp.millis) ∨
      ∃ addr, s.event wire l = some (.dispatch addr) ∧
        t = (s.world.clock.timestamp s.world.now).millis := by
  unfold timestamps at h
  split at h
  · next pair timestamp ip tcp he =>
    refine Or.inl ⟨⟨pair, timestamp, ip, tcp⟩, ?_, List.mem_singleton.mp h⟩
    rw [delivered_process (a := ⟨pair, timestamp, ip, tcp⟩) he]
    exact List.mem_singleton_self _
  · next addr he => exact Or.inr ⟨addr, he, List.mem_singleton.mp h⟩
  · cases h

lemma timestamps_pairwise : (s.timestamps wire l).Pairwise (· ≤ ·) := by
  unfold timestamps
  split <;> simp

/-- What is delivered was under way, or has just been read. -/
lemma mem_delivered {a : Arrival} (h : LoopReachable wire clock s) (hl : s.step wire l = .ok s')
    (ha : a ∈ s.delivered wire l) :
    a ∈ s.underWay ∨ (s.underWay = [] ∧ a ∈ s.routed wire l) := by
  have hmem : a ∈ s.delivered wire l ++ s'.underWay := List.mem_append_left _ ha
  rw [← ingress_step h hl] at hmem
  by_cases hu : s.underWay = []
  · rw [hu] at hmem
    exact Or.inr ⟨hu, hmem⟩
  · rw [routed_nil (packetRead_waiting hu), List.append_nil] at hmem
    exact Or.inl hmem

/-- What is done with `next_poll`. -/
def isNextPoll : Event → Bool
  | .dispatch _ | .expire _ => true
  | _ => false

/-- Nothing that the selector returns touches `next_poll`. -/
lemma handleEvent_isNextPoll {w : World T Q} {x : IoSelected} {e : Event}
    (h : handleEvent wire w x = some e) : isNextPoll e = false := by
  unfold handleEvent at h
  split at h
  · cases h
    rfl
  · cases h
  · cases h
    rfl
  · cases h
  · unfold ingressEvent at h
    split at h
    · split at h
      · split at h
        · cases h
          rfl
        · split at h
          · split at h <;> cases h
            rfl
          · cases h
      · cases h
    · cases h
  · cases h
    rfl
  · cases h
    rfl

lemma resume_isNextPoll {e : Event} (h : s.event wire .resume = some e) :
    isNextPoll e = false := by
  dsimp only [event] at h
  split at h
  · split at h <;> cases h <;> rfl
  · cases h
    rfl
  · cases h
    rfl
  · cases h

/-- A socket is dispatched at the head of the loop. -/
lemma turn_of_dispatch {addr : AddrPair} (he : s.event wire l = some (.dispatch addr)) :
    l = .turn := by
  cases l with
  | elapse | app => cases he
  | turn => rfl
  | poll dev =>
    cases hsel : s.selects dev with
    | pending =>
      rcases event_pending wire hsel with hnone | ⟨addr', hexp⟩
      · rw [he] at hnone
        cases hnone
      · rw [he] at hexp
        cases hexp
    | ready x =>
      rw [pollEvent_ready hsel] at he
      cases handleEvent_isNextPoll he
  | resume => cases resume_isNextPoll he
  | unwind dev => cases he

lemma idle_of_dispatch {addr : AddrPair} (h : LoopSteps wire s l s')
    (he : s.event wire l = some (.dispatch addr)) : s.underWay = [] := by
  obtain rfl := turn_of_dispatch he
  cases h with
  | busy hpc | write hpc | rest hpc => exact underWay_idle (Or.inl hpc)

/-- A packet is delivered with its own mark, and nothing is under way when a socket is
dispatched. -/
lemma timestamps_eq_mark {t : ℤ} (h : LoopReachable wire clock s) (hl : s.step wire l = .ok s')
    (ht : t ∈ s.timestamps wire l) : t = s.mark := by
  rcases mem_timestamps ht with ⟨a, ha, heq⟩ | ⟨addr, he, heq⟩
  · rcases mem_delivered h hl ha with hold | ⟨hidle, hnew⟩
    · rw [heq, mark_waiting hold]
    · rw [heq, mark_idle hidle, routed_timestamp hnew]
  · rw [heq, mark_idle (idle_of_dispatch (steps_of_loop hl) he)]

end

section

variable {wire : Wire} {clock : Clock} {s s' : State T Q} {l : Label}
  {hist : List (State T Q × Label)}

/-- What the order of the times rests on. -/
structure Timed (wire : Wire) (clock : Clock) (s : State T Q) : Prop where
  reachable : LoopReachable wire clock s
  clock : s.world.clock = clock
  stamped : s.Stamped

lemma timed_init : Timed wire clock (init clock : State T Q) :=
  ⟨⟨[], .start⟩, rfl, fun _ h => nomatch h⟩

lemma Timed.step (hs : Timed wire clock s) (h : s.step wire l = .ok s') : Timed wire clock s' :=
  ⟨hs.reachable.after h,
    (time_of_step (LoopReachable.consistent hs.reachable) h).2.trans hs.clock,
    stamped_step hs.reachable hs.stamped h⟩

/-- **From the device to the sockets.** The packets that were read and have a connection to go to
are those that the connections have processed, each once and in the order in which they were read,
and then the SYN that waits in `create_syn`; there is at most one, and nothing is read while it
waits. -/
theorem packets_in_order (r : LoopRun wire clock hist s) :
    collect (routed wire) hist = collect (delivered wire) hist ++ s.underWay ∧
      s.underWay.length ≤ 1 ∧ (s.underWay ≠ [] → ∀ l, s.packetRead l = none) := by
  refine ⟨?_, underWay_length, fun h l => packetRead_waiting h⟩
  exact Run.conserves (c := underWay) ⟨[], .start⟩ LoopReachable.after ingress_step r

/-- Two SYNs and an ACK have been processed, and the SYN of the third client waits. -/
theorem packets_in_order_crowded :
    ∃ hist s, LoopRun Reference.wire Reference.clock hist (s : Reference.Loop) ∧
      s.underWay.map (·.tcpRepr.srcPort) = [40002] ∧
      (collect (delivered Reference.wire) hist).length = 3 ∧
      collect (routed Reference.wire) hist
        = collect (delivered Reference.wire) hist ++ s.underWay := by
  obtain ⟨hist, s, r, hs⟩ := Reference.run_of_check Reference.crowded
    (fun hist s => decide (s.underWay.map (·.tcpRepr.srcPort) = [40002]) &&
      decide ((collect (delivered Reference.wire) hist).length = 3)) (by decide +kernel)
  simp only [Bool.and_eq_true, decide_eq_true_eq] at hs
  exact ⟨hist, s, r, hs.1, hs.2, (packets_in_order r).1⟩

/-- **smoltcp's time does not go back.** The times that packets and dispatches are given never
decrease, and none is ahead of the clock of the loop. -/
theorem timestamps_sorted (r : LoopRun wire clock hist s) (hin : clock.InTime s.world.now) :
    (collect (timestamps wire) hist).Pairwise (· ≤ ·) ∧
      ∀ t ∈ collect (timestamps wire) hist, t ≤ (clock.timestamp s.world.now).millis := by
  have hs : Timed wire clock s := r.reachable.invariant timed_init Timed.step
  have hmono : ∀ {s l s'}, Timed wire clock s → clock.InTime s'.world.now →
      s.step wire l = .ok s' → s.mark ≤ (s' : State T Q).mark := by
    intro s l s' hs hin h
    refine mark_le hs.reachable hs.stamped h ?_
    rw [(hs.step h).clock]
    exact hin
  have hbetween : ∀ {s l s'}, Timed wire clock s → clock.InTime s'.world.now →
      s.step wire l = .ok s' → (s.timestamps wire l).Pairwise (· ≤ ·) ∧
        ∀ t ∈ s.timestamps wire l, s.mark ≤ t ∧ t ≤ (s' : State T Q).mark := by
    intro s l s' hs hin h
    refine ⟨timestamps_pairwise, fun t ht => ?_⟩
    rw [timestamps_eq_mark hs.reachable h ht]
    exact ⟨le_rfl, hmono hs hin h⟩
  obtain ⟨hsorted, hmark⟩ := Run.sorted (J := fun s => clock.InTime s.world.now) timed_init
    Timed.step
    (fun hs h hin => hin.of_le (time_of_step (LoopReachable.consistent hs.reachable) h).1)
    hmono hbetween r hin
  refine ⟨hsorted, fun t ht => (hmark t ht).trans ?_⟩
  have hle : s.mark ≤ (s.world.clock.timestamp s.world.now).millis :=
    hs.stamped.mark_le (hs.clock ▸ hin)
  rwa [hs.clock] at hle

/-- The third client's SYN is read at 5 ms and waits until 12 ms: the times that smoltcp is given
are in order all the same. -/
theorem timestamps_sorted_waiting :
    ∃ hist s, LoopRun Reference.wire Reference.clock hist (s : Reference.Loop) ∧
      s.world.now = 12000000 ∧
      collect (timestamps Reference.wire) hist = [0, 0, 0, 0, 5, 12] ∧
      (collect (timestamps Reference.wire) hist).Pairwise (· ≤ ·) := by
  obtain ⟨hist, s, r, hs⟩ := Reference.run_of_check
    (Reference.handshake ++ [.turn, Reference.synFrom 40001, .resume, .resume, .resume, .turn,
      .elapse 5000000, Reference.synFrom 40002, .elapse 7000000, .app .accept, .resume, .resume,
      .resume, .turn, Reference.written, .turn, Reference.idle, .turn])
    (fun hist s => decide (s.world.now = 12000000) &&
      decide (collect (timestamps Reference.wire) hist = [0, 0, 0, 0, 5, 12])) (by decide +kernel)
  simp only [Bool.and_eq_true, decide_eq_true_eq] at hs
  obtain ⟨hnow, htimes⟩ := hs
  have hin : Reference.clock.InTime s.world.now := by
    rw [hnow]
    show (12000000 - 0) / 10 ^ 6 < 2 ^ 63
    norm_num
  exact ⟨hist, s, r, hnow, htimes, (timestamps_sorted r hin).1⟩

end

end State

end Ustunet
