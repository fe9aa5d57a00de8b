import Ustunet.LoopInvariant
import Ustunet.ReferenceWindow

/-!
# The order of the replies

`io_loop` keeps the replies that `Interface::process` returns in a vector, which it pushes to and
pops from at the same end. `ledger` follows the replies of a run: each is numbered when it is
returned, waits in `ingress_replies`, and is handed to `write_future`. They go out in the order in
which they were returned exactly in the runs in which they never queue up
(`replies_in_order_iff`).
-/

namespace Ustunet
namespace State

open Transition

variable {T Q : Type} [TcpSocket T] [DelayQueue AddrPair Q]

/-! ## The replies of a run -/

/-- Whether an event is a packet for a connection. -/
def isPacket : Event → Bool
  | .process _ _ _ _ => true
  | _ => false

/-- The reply that a packet provokes on the connection of a pair. -/
def replyTo (w : World T Q) (pair : AddrPair) (ts : SmolInstant) (ip : IpRepr) (tcp : TcpRepr) :
    Option Packet :=
  match w.process pair ts ip tcp with
  | .ok (.ok reply, _) => reply
  | _ => none

/-- The reply that `Interface::process` returns in a step. -/
def replyOf (wire : Wire) (s : State T Q) (l : Label) : Option Packet :=
  match s.event wire l with
  | some (.process pair ts ip tcp) => replyTo s.world pair ts ip tcp
  | _ => none

/-- Whether a step is a turn of the loop with the writer and its empty buffer at hand. -/
def drains (s : State T Q) (l : Label) : Bool := l = .turn && s.writing = some []

/-- The replies of a run so far. -/
structure Ledger where
  /-- In the order in which they were returned. -/
  returned : List Packet
  /-- In `ingress_replies`, each with its number. -/
  waiting : List (Packet × ℕ)
  /-- Handed to `write_future`, each with its number. -/
  sent : List (Packet × ℕ)

namespace Ledger

/-- The replies that are popped until one fills the buffer: the one that does, and those left. -/
def drain (wire : Wire) : List (Packet × ℕ) → List (Packet × ℕ) × List (Packet × ℕ)
  | [] => ([], [])
  | x :: rest =>
    match packetToBytes wire x.1 with
    | .ok [] => drain wire rest
    | _ => ([x], rest)

/-- A reply is returned. -/
def push (g : Ledger) (r : Packet) : Ledger :=
  { g with returned := g.returned ++ [r], waiting := (r, g.returned.length) :: g.waiting }

/-- The replies have their turn. -/
def turn (wire : Wire) (g : Ledger) : Ledger :=
  { g with waiting := (drain wire g.waiting).2, sent := g.sent ++ (drain wire g.waiting).1 }

/-- The ledger after a step. -/
def next (wire : Wire) (g : Ledger) (s : State T Q) (l : Label) : Ledger :=
  match replyOf wire s l with
  | some r => g.push r
  | none => if s.drains l then g.turn wire else g

/-- The replies were sent in the order in which they were returned, and the others wait. -/
def InOrder (g : Ledger) : Prop :=
  ∃ rest, g.returned.zipIdx = g.sent ++ rest ∧ g.waiting.Perm rest

end Ledger

/-- The ledger of a history. -/
def ledger (wire : Wire) : List (State T Q × Label) → Ledger
  | [] => ⟨[], [], []⟩
  | (s, l) :: hist => (ledger wire hist).next wire s l

/-- At most one reply waits, and it fills the buffer. -/
def Single (wire : Wire) (replies : List Packet) : Prop :=
  replies = [] ∨ ∃ r, replies = [r] ∧ packetToBytes wire r ≠ .ok []

/-- `Single`, as a check. -/
def isSingle (wire : Wire) (replies : List Packet) : Bool :=
  match replies with
  | [] => true
  | [r] => packetToBytes wire r != .ok []
  | _ => false

lemma single_of_isSingle {wire : Wire} {replies : List Packet}
    (h : isSingle wire replies = true) : Single wire replies := by
  unfold isSingle at h
  split at h
  · exact Or.inl rfl
  · next r => exact Or.inr ⟨r, rfl, bne_iff_ne.mp h⟩
  · cases h

/-! ## The numbers are the replies -/

section

variable {wire : Wire} {s s' : State T Q} {l : Label}

/-- What a step does to the replies of the loop. -/
inductive RepliesStep (wire : Wire) (s : State T Q) (l : Label) (s' : State T Q) : Prop
  | push {r : Packet} (hr : replyOf wire s l = some r)
      (h : s'.ingressReplies = r :: s.ingressReplies)
  | drain {buf : List UInt8} (hr : replyOf wire s l = none) (hd : s.drains l = true)
      (h : drainReplies wire s.ingressReplies = .ok (buf, s'.ingressReplies))
  | keep (hr : replyOf wire s l = none) (hd : s.drains l = false)
      (h : s'.ingressReplies = s.ingressReplies)

lemma replyOf_turn (s : State T Q) : replyOf wire s .turn = none := by
  show (match s.turnEvent wire with
    | some (.process pair ts ip tcp) => replyTo s.world pair ts ip tcp
    | _ => none) = none
  unfold turnEvent
  cases s.writing with
  | none => rfl
  | some buf =>
    dsimp only
    cases s.serialised wire buf with
    | error e => rfl
    | ok r =>
      obtain ⟨bytes, replies⟩ := r
      cases bytes with
      | nil => cases s.world.nextPoll <;> rfl
      | cons b bs => rfl

omit [TcpSocket T] in
lemma drains_false (s : State T Q) (h : l ≠ .turn) : s.drains l = false := by
  unfold drains
  rw [decide_eq_false h, Bool.false_and]

/-- A step that is neither a turn nor a packet for a connection leaves the replies alone. -/
lemma replies_other (hl : l ≠ .turn) (he : (s.event wire l).any isPacket = false)
    (hs' : s'.ingressReplies = s.ingressReplies) : RepliesStep wire s l s' := by
  refine .keep ?_ (drains_false s hl) hs'
  unfold replyOf
  split
  · next h =>
    rw [h] at he
    cases he
  · rfl

/-- A packet for a connection: its reply is pushed. -/
lemma replies_process {pair : AddrPair} {ts : SmolInstant} {ip : IpRepr} {tcp : TcpRepr}
    {reply : Except Error (Option Packet)} {world : World T Q} (hl : l ≠ .turn)
    (he : s.event wire l = some (.process pair ts ip tcp))
    (hp : s.world.process pair ts ip tcp = .ok (reply, world))
    (hs' : s'.ingressReplies = pushed reply s.ingressReplies) : RepliesStep wire s l s' := by
  have hr : replyOf wire s l = replyTo s.world pair ts ip tcp := by
    unfold replyOf
    rw [he]
  unfold replyTo at hr
  rw [hp] at hr
  match reply with
  | .ok (some r) => exact .push hr hs'
  | .ok none => exact .keep hr (drains_false s hl) hs'
  | .error e => exact .keep hr (drains_false s hl) hs'

/-- A turn with the writer at hand: replies are popped. -/
lemma replies_turn {writeBuf buf : List UInt8} {replies : List Packet} (hs : s.Armed)
    (hw : s.writing = some writeBuf) (hser : s.serialised wire writeBuf = .ok (buf, replies))
    (hs' : s'.ingressReplies = replies) : RepliesStep wire s .turn s' := by
  rcases hs.writer with ⟨hnil, -⟩ | ⟨hnone, -⟩
  · rw [hw] at hnil
    cases hnil
    have hd : s.drains .turn = true := by
      unfold drains
      rw [hw]
      rfl
    subst hs'
    exact .drain (replyOf_turn s) hd hser
  · rw [hw] at hnone
    cases hnone

lemma pending_noPacket {dev : Device} (hsel : s.selects dev = .pending) :
    (s.event wire (.poll dev)).any isPacket = false := by
  rw [pollEvent_pending hsel]
  split
  · cases s.world.queue.poll s.world.now <;> rfl
  · rfl

/-- **What a step does to the replies.** -/
lemma replies_step (hs : s.Armed) (h : LoopSteps wire s l s') : RepliesStep wire s l s' := by
  cases h with
  | elapse nanos => exact replies_other (by simp) rfl rfl
  | app h => exact replies_other (by simp) rfl rfl
  | busy hpc hw =>
    refine .keep (replyOf_turn s) ?_ rfl
    unfold drains
    rw [hw]
    rfl
  | write hpc hw hser hd hne ha => exact replies_turn hs hw hser rfl
  | rest hpc hw hser hd => exact replies_turn hs hw hser rfl
  | wait hpc hsel hq => exact replies_other (by simp) (pending_noPacket hsel) rfl
  | expire hpc hsel hnext hq => exact replies_other (by simp) (pending_noPacket hsel) rfl
  | written hpc ha hsel =>
    exact replies_other (by simp) (by rw [pollEvent_ready hsel]; rfl) rfl
  | failed hpc hsel hw =>
    refine replies_other (by simp) ?_ rfl
    rcases hsel with ⟨buf, hsel⟩ | hsel
    · rw [pollEvent_ready hsel]
      rfl
    · rw [pollEvent_ready hsel]
      rfl
  | ignored hr h => exact replies_other (by simp) (by rw [event_ignored hr h]; rfl) rfl
  | known hr hp ha hc h => exact replies_process (by simp) (event_known hr hp ha hc) h rfl
  | create hr hp ha hc hsyn h =>
    exact replies_other (by simp) (by rw [event_create hr hp ha hc hsyn h]; rfl) rfl
  | close hpc hsel hm h =>
    exact replies_other (by simp) (by rw [pollEvent_ready hsel]; rfl) rfl
  | update hpc hsel hu =>
    exact replies_other (by simp) (by rw [pollEvent_ready hsel]; rfl) rfl
  | sent hpc h =>
    refine replies_other (by simp) ?_ rfl
    rw [event_sending hpc]
    split <;> rfl
  | inserted hpc h => exact replies_other (by simp) (by rw [event_inserting hpc]; rfl) rfl
  | processed hpc hb h => exact replies_process (by simp) (event_processing hpc) h rfl
  | panicked => exact replies_other (by simp) rfl rfl

/-- A loop that has halted leaves the replies alone. -/
lemma replies_halted (hpc : s.pc = .halted) (h : LoopSteps wire s l s') :
    RepliesStep wire s l s' := by
  have no : ∀ {dev : Device} {packet : List UInt8}, ¬ s.Reads dev packet := by
    intro dev packet hr
    rw [hr.pc] at hpc
    cases hpc
  cases h with
  | elapse nanos => exact replies_other (by simp) rfl rfl
  | app h => exact replies_other (by simp) rfl rfl
  | panicked => exact replies_other (by simp) rfl rfl
  | _ => first | exact absurd (by assumption) no | simp_all

/-! ## The stack -/

namespace Ledger

/-- The numbers of the replies that wait, latest first. -/
structure Stacked (g : Ledger) : Prop where
  bounded : ∀ x ∈ g.waiting, x.2 < g.returned.length
  sorted : g.waiting.Pairwise fun x y => y.2 < x.2

lemma zipIdx_sorted (rs : List Packet) : rs.zipIdx.Pairwise fun x y => x.2 < y.2 := by
  have h : (rs.zipIdx.map Prod.snd).Pairwise (· < ·) := by
    rw [List.zipIdx_map_snd]
    exact List.pairwise_lt_range' 
  exact List.pairwise_map.mp h

/-- What is popped and what is left were there before. -/
lemma drain_suffix (ws : List (Packet × ℕ)) :
    (drain wire ws).1 ++ (drain wire ws).2 <:+ ws := by
  induction ws with
  | nil => exact List.suffix_rfl
  | cons x ws ih =>
    rw [drain]
    split
    · exact ih.trans (List.suffix_cons _ _)
    · exact List.suffix_rfl

lemma drain_lost {x : Packet × ℕ} (h : packetToBytes wire x.1 = .ok [])
    (ws : List (Packet × ℕ)) : drain wire (x :: ws) = drain wire ws := by
  rw [drain, h]

lemma drain_handed {x : Packet × ℕ} (h : packetToBytes wire x.1 ≠ .ok [])
    (ws : List (Packet × ℕ)) : drain wire (x :: ws) = ([x], ws) := by
  rw [drain]
  split
  · next hb => exact absurd hb h
  · rfl

variable {g : Ledger}

lemma inOrder_push (ho : g.InOrder) (r : Packet) : (g.push r).InOrder := by
  obtain ⟨rest, hz, hp⟩ := ho
  refine ⟨rest ++ [(r, g.returned.length)], ?_, ?_⟩
  · show (g.returned ++ [r]).zipIdx = _
    rw [List.zipIdx_append, hz, List.append_assoc]
    simp [push]
  · exact (List.Perm.cons _ hp).trans (List.perm_append_singleton _ _).symm

/-- A reply that does not fill the buffer is lost. -/
lemma not_inOrder_lost {x : Packet × ℕ} {ws : List (Packet × ℕ)} (ho : g.InOrder)
    (hw : g.waiting = x :: ws) :
    ¬ InOrder { g with waiting := (drain wire ws).2, sent := g.sent ++ (drain wire ws).1 } := by
  obtain ⟨rest, hz, hp⟩ := ho
  rintro ⟨rest', hz', hp'⟩
  have hz' : g.returned.zipIdx = g.sent ++ (drain wire ws).1 ++ rest' := hz'
  have hlen : g.sent.length + rest.length
      = g.sent.length + (drain wire ws).1.length + rest'.length := by
    rw [← List.length_append, ← List.length_append, ← List.length_append, ← hz, ← hz']
  have hrest : rest.length = ws.length + 1 := by
    rw [← hp.length_eq, hw]
    rfl
  have hrest' : rest'.length = (drain wire ws).2.length := hp'.length_eq.symm
  have hsuf : (drain wire ws).1 ++ (drain wire ws).2 <:+ ws := drain_suffix ws
  have hle := hsuf.length_le
  rw [List.length_append] at hle
  omega

/-- A reply that is sent while others wait overtakes them. -/
lemma inOrder_handed {x : Packet × ℕ} {ws : List (Packet × ℕ)} (hg : g.Stacked)
    (ho : g.InOrder) (hw : g.waiting = x :: ws) :
    InOrder { g with waiting := ws, sent := g.sent ++ [x] } ↔ ws = [] := by
  obtain ⟨rest, hz, hp⟩ := ho
  have hsorted := hg.sorted
  rw [hw] at hp hsorted
  constructor
  · rintro ⟨rest', hz', hp'⟩
    have hz' : g.returned.zipIdx = g.sent ++ [x] ++ rest' := hz'
    by_contra hne
    obtain ⟨y, ys, rfl⟩ := List.exists_cons_of_ne_nil hne
    have hy : y ∈ rest' := hp'.subset List.mem_cons_self
    -- `y` waits below `x`, so it was returned before it
    have hlt : y.2 < x.2 := List.rel_of_pairwise_cons hsorted List.mem_cons_self
    have hgt : x.2 < y.2 := by
      have hz := zipIdx_sorted g.returned
      rw [hz', List.append_assoc] at hz
      have htail := (List.pairwise_append.mp hz).2.1
      exact List.rel_of_pairwise_cons htail hy
    omega
  · rintro rfl
    refine ⟨[], ?_, List.Perm.refl _⟩
    show g.returned.zipIdx = _
    rw [hz, List.singleton_perm.mp hp, List.append_nil]

/-- **A turn keeps the order exactly if at most one reply waits**, and it fills the buffer. -/
lemma inOrder_turn (hg : g.Stacked) (ho : g.InOrder) :
    (g.turn wire).InOrder ↔ Single wire (g.waiting.map Prod.fst) := by
  unfold turn
  cases hw : g.waiting with
  | nil =>
    refine ⟨fun _ => Or.inl rfl, fun _ => ?_⟩
    obtain ⟨rest, hz, hp⟩ := ho
    rw [hw] at hp
    exact ⟨rest, by simpa [drain] using hz, hp⟩
  | cons x ws =>
    by_cases hb : packetToBytes wire x.1 = .ok []
    · rw [drain_lost hb]
      refine ⟨fun h => absurd h (not_inOrder_lost ho hw), ?_⟩
      rintro (h | ⟨r, hr, hne⟩)
      · cases h
      · rw [← (List.cons.inj hr).1] at hne
        exact absurd hb hne
    · rw [drain_handed hb, inOrder_handed hg ho hw]
      constructor
      · rintro rfl
        exact Or.inr ⟨x.1, rfl, hb⟩
      · rintro (h | ⟨r, hr, -⟩)
        · cases h
        · exact List.map_eq_nil_iff.mp (List.cons.inj hr).2

lemma stacked_push (hg : g.Stacked) (r : Packet) : (g.push r).Stacked where
  bounded x hx := by
    rw [push, List.length_append, List.length_singleton]
    rcases List.mem_cons.mp hx with rfl | hx
    · exact Nat.lt_succ_self _
    · exact Nat.lt_succ_of_lt (hg.bounded x hx)
  sorted := List.pairwise_cons.mpr ⟨hg.bounded, hg.sorted⟩

lemma stacked_turn (hg : g.Stacked) : (g.turn wire).Stacked := by
  have hsub : (drain wire g.waiting).2.Sublist g.waiting :=
    (List.sublist_append_right _ _).trans (drain_suffix g.waiting).sublist
  exact ⟨fun x hx => hg.bounded x (hsub.subset hx), hg.sorted.sublist hsub⟩

/-- The packets left are those that the loop has left. -/
lemma drain_packets {ws : List (Packet × ℕ)} {buf : List UInt8} {replies : List Packet}
    (h : drainReplies wire (ws.map Prod.fst) = .ok (buf, replies)) :
    (drain wire ws).2.map Prod.fst = replies := by
  induction ws with
  | nil =>
    cases h
    rfl
  | cons x ws ih =>
    rw [List.map_cons, drainReplies] at h
    split at h
    · cases h
    · next hb =>
      rw [drain_lost hb]
      exact ih h
    · next b bytes hb =>
      cases h
      rw [drain_handed (by rw [hb]; simp)]

/-- The reply that is handed on is the one in the buffer. -/
lemma drain_bytes {ws : List (Packet × ℕ)} {buf : List UInt8} {replies : List Packet}
    (h : drainReplies wire (ws.map Prod.fst) = .ok (buf, replies)) {x : Packet × ℕ}
    (hx : x ∈ (drain wire ws).1) : packetToBytes wire x.1 = .ok buf ∧ buf ≠ [] := by
  induction ws with
  | nil => cases hx
  | cons y ws ih =>
    rw [List.map_cons, drainReplies] at h
    split at h
    · cases h
    · next hb =>
      rw [drain_lost hb] at hx
      exact ih h hx
    · next b bytes hb =>
      cases h
      rw [drain_handed (by rw [hb]; simp)] at hx
      rw [List.mem_singleton.mp hx]
      exact ⟨hb, List.cons_ne_nil _ _⟩

end Ledger

/-! ## Whole runs -/

/-- The ledger says which replies are in `ingress_replies`. -/
structure Tallies (wire : Wire) (hist : List (State T Q × Label)) (s : State T Q) : Prop where
  stacked : (ledger wire hist).Stacked
  waiting : (ledger wire hist).waiting.map Prod.fst = s.ingressReplies

lemma next_push {g : Ledger} {r : Packet} (hr : replyOf wire s l = some r) :
    g.next wire s l = g.push r := by
  rw [Ledger.next, hr]

lemma next_turn {g : Ledger} (hr : replyOf wire s l = none) (hd : s.drains l = true) :
    g.next wire s l = g.turn wire := by
  rw [Ledger.next, hr]
  exact if_pos hd

lemma next_keep {g : Ledger} (hr : replyOf wire s l = none) (hd : s.drains l = false) :
    g.next wire s l = g := by
  rw [Ledger.next, hr]
  exact if_neg (by rw [hd]; exact Bool.false_ne_true)

lemma tallies_step {hist : List (State T Q × Label)} (ht : Tallies wire hist s)
    (h : RepliesStep wire s l s') : Tallies wire ((s, l) :: hist) s' := by
  obtain ⟨hst, hw⟩ := ht
  cases h with
  | push hr h =>
    have hnext := next_push (g := ledger wire hist) hr
    refine ⟨by rw [ledger, hnext]; exact Ledger.stacked_push hst _, ?_⟩
    rw [ledger, hnext, h, ← hw]
    rfl
  | drain hr hd h =>
    have hnext := next_turn (g := ledger wire hist) hr hd
    refine ⟨by rw [ledger, hnext]; exact Ledger.stacked_turn hst, ?_⟩
    rw [← hw] at h
    rw [ledger, hnext]
    exact Ledger.drain_packets h
  | keep hr hd h =>
    have hnext := next_keep (g := ledger wire hist) hr hd
    refine ⟨by rw [ledger, hnext]; exact hst, ?_⟩
    rw [ledger, hnext, h, hw]

/-- The reply that the ledger has as sent is what `write_future` is given. -/
lemma handed_written {hist : List (State T Q × Label)} (ht : Tallies wire hist s)
    (hd : s.drains .turn = true) (h : LoopSteps wire s .turn s') {x : Packet × ℕ}
    (hx : x ∈ (Ledger.drain wire (ledger wire hist).waiting).1) :
    ∃ bytes, packetToBytes wire x.1 = .ok bytes ∧ s'.selector.a = some ⟨bytes⟩ := by
  have hw : s.writing = some [] := by
    unfold drains at hd
    rw [Bool.and_eq_true, decide_eq_true_eq, decide_eq_true_eq] at hd
    exact hd.2
  -- the buffer goes to `write_future` as the replies have left it
  have hbuf : ∀ {buf buf' : List UInt8} {replies : List Packet} {world : World T Q},
      s.serialised wire [] = .ok (buf, replies) → s.dispatchNext wire buf = .ok (buf', world) →
      packetToBytes wire x.1 = .ok buf' ∧ buf' ≠ [] := by
    intro buf buf' replies world hser hdisp
    have hser : drainReplies wire s.ingressReplies = .ok (buf, replies) := hser
    rw [← ht.waiting] at hser
    obtain ⟨hbytes, hne⟩ := Ledger.drain_bytes hser hx
    obtain ⟨b, bs, rfl⟩ := List.exists_cons_of_ne_nil hne
    cases hdisp
    exact ⟨hbytes, hne⟩
  cases h with
  | busy hpc hnone =>
    rw [hw] at hnone
    cases hnone
  | write hpc hwr hser hdisp hne ha =>
    rw [hw] at hwr
    cases hwr
    exact ⟨_, (hbuf hser hdisp).1, rfl⟩
  | rest hpc hwr hser hdisp =>
    rw [hw] at hwr
    cases hwr
    exact absurd rfl (hbuf hser hdisp).2

/-- **A step keeps the order exactly** if it is no turn that finds replies queued up. -/
lemma inOrder_step {hist : List (State T Q × Label)} (ht : Tallies wire hist s)
    (ho : (ledger wire hist).InOrder) (h : RepliesStep wire s l s') :
    (ledger wire ((s, l) :: hist)).InOrder ↔
      (s.drains l = true → Single wire s.ingressReplies) := by
  rw [ledger]
  cases h with
  | push hr h =>
    rw [next_push hr]
    refine ⟨fun _ hd => ?_, fun _ => Ledger.inOrder_push ho _⟩
    -- a turn returns no reply
    unfold drains at hd
    rw [Bool.and_eq_true, decide_eq_true_eq] at hd
    rw [hd.1, replyOf_turn] at hr
    cases hr
  | drain hr hd h =>
    rw [next_turn hr hd, Ledger.inOrder_turn ht.stacked ho, ht.waiting]
    exact ⟨fun h _ => h, fun h => h hd⟩
  | keep hr hd h =>
    rw [next_keep hr hd]
    refine ⟨fun _ hd' => ?_, fun _ => ho⟩
    rw [hd] at hd'
    cases hd'

variable {clock : Clock} {hist : List (State T Q × Label)}

lemma LoopRun.replies (r : LoopRun wire clock hist s) (h : s.step wire l = .ok s') :
    RepliesStep wire s l s' := by
  rcases LoopReachable.armed r.reachable with hret | hs
  · exact replies_halted hret (steps_of_loop h)
  · exact replies_step hs (steps_of_loop h)

lemma LoopRun.tallies (r : LoopRun wire clock hist s) : Tallies wire hist s := by
  induction r with
  | start => exact ⟨⟨fun x hx => (nomatch hx), List.Pairwise.nil⟩, rfl⟩
  | next r h ih => exact tallies_step ih (LoopRun.replies r h)

/-- **Replies in order.** In every run the replies that the ledger has waiting are those in
`ingress_replies`, and the one that it has sent in a turn is what `write_future` is given; and at
every moment of it the replies handed to `write_future` are the first of those that
`Interface::process` returned, in that order, with all others in `ingress_replies`, exactly if no
turn that finds the device idle finds more than one reply (or one that serialises to nothing). -/
theorem replies_in_order_iff (r : LoopRun wire clock hist s) :
    (ledger wire hist).waiting.map Prod.fst = s.ingressReplies ∧
      (s.drains .turn = true → ∀ s', s.step wire .turn = .ok s' →
        ∀ x ∈ (Ledger.drain wire (ledger wire hist).waiting).1,
          ∃ bytes, packetToBytes wire x.1 = .ok bytes ∧ s'.selector.a = some ⟨bytes⟩) ∧
      ((∀ past, past <:+ hist → (ledger wire past).InOrder) ↔
        ∀ x ∈ hist, x.1.drains x.2 = true → Single wire x.1.ingressReplies) := by
  refine ⟨(LoopRun.tallies r).waiting, fun hd s' h x hx => ?_, ?_⟩
  · exact handed_written (LoopRun.tallies r) hd (steps_of_loop h) hx
  induction r with
  | start =>
    refine ⟨fun _ x hx => (nomatch hx), fun _ past hpast => ?_⟩
    rw [List.suffix_nil.mp hpast]
    exact ⟨[], rfl, List.Perm.refl _⟩
  | @next hist s s' l r h ih =>
    have hstep : (ledger wire hist).InOrder → ((ledger wire ((s, l) :: hist)).InOrder ↔
        (s.drains l = true → Single wire s.ingressReplies)) :=
      fun ho => inOrder_step (LoopRun.tallies r) ho (LoopRun.replies r h)
    rw [List.forall_mem_cons, ← ih]
    constructor
    · intro hall
      have hpast : ∀ past, past <:+ hist → (ledger wire past).InOrder :=
        fun past hp => hall past (hp.trans (List.suffix_cons _ _))
      exact ⟨(hstep (hpast hist List.suffix_rfl)).mp (hall _ List.suffix_rfl), hpast⟩
    · rintro ⟨hsingle, hpast⟩ past hp
      rcases List.suffix_cons_iff.mp hp with rfl | hp
      · exact (hstep (hpast hist List.suffix_rfl)).mpr hsingle
      · exact hpast past hp

end

/-- Two stray ACKs, with a byte of data in between, are answered while the device is idle: their
replies are sent in the order in which they were returned. -/
theorem replies_in_order_single :
    ∃ (hist : List (Reference.WindowedLoop × Label)) (s : Reference.WindowedLoop),
      LoopRun Reference.wire Reference.clock hist s ∧
      (ledger Reference.wire hist).sent.map Prod.snd = [0, 1] ∧
      (ledger Reference.wire hist).returned.Nodup ∧
      ∀ past, past <:+ hist → (ledger Reference.wire past).InOrder := by
  obtain ⟨hist, s, r, hs⟩ := Reference.run_of_windowed
    (Reference.handshake ++ [.turn, Reference.written, .turn, Reference.strayAck, .turn,
      Reference.written, .turn, Reference.receive .psh true [0], .turn, Reference.strayAck, .turn])
    (fun hist _ => decide ((ledger Reference.wire hist).sent.map Prod.snd = [0, 1]) &&
      decide (ledger Reference.wire hist).returned.Nodup &&
      hist.all fun x => !x.1.drains x.2 || isSingle Reference.wire x.1.ingressReplies)
    (by decide +kernel)
  rw [Bool.and_eq_true, Bool.and_eq_true, decide_eq_true_eq, decide_eq_true_eq,
    List.all_eq_true] at hs
  obtain ⟨⟨hsent, hnodup⟩, hall⟩ := hs
  refine ⟨hist, s, r, hsent, hnodup, (replies_in_order_iff r).2.2.mpr fun x hx hd => ?_⟩
  have hx := hall x hx
  rw [hd] at hx
  exact single_of_isSingle hx

/-- Two replies are returned while the device is busy, and the second is sent first: what was sent
is no prefix of what was returned. -/
theorem later_reply_first :
    ∃ (hist : List (Reference.WindowedLoop × Label)) (s : Reference.WindowedLoop),
      LoopRun Reference.wire Reference.clock hist s ∧
      ¬ (ledger Reference.wire hist).sent.map Prod.fst <+: (ledger Reference.wire hist).returned ∧
      ¬ (ledger Reference.wire hist).InOrder := by
  obtain ⟨hist, s, r, hs⟩ := Reference.run_of_windowed
    Reference.twoReplies
    (fun hist _ => !((ledger Reference.wire hist).sent.map Prod.fst).isPrefixOf
      (ledger Reference.wire hist).returned) (by decide +kernel)
  have hno : ¬ (ledger Reference.wire hist).sent.map Prod.fst <+:
      (ledger Reference.wire hist).returned := by
    intro hp
    rw [List.isPrefixOf_iff_prefix.mpr hp] at hs
    cases hs
  refine ⟨hist, s, r, hno, ?_⟩
  rintro ⟨rest, hz, -⟩
  apply hno
  have hmap := congrArg (List.map Prod.fst) hz
  rw [List.zipIdx_map_fst, List.map_append] at hmap
  exact ⟨rest.map Prod.fst, hmap.symm⟩

end State
end Ustunet
