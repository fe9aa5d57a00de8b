import Ustunet.Listener
import Ustunet.Solo

/-!
# Every connection is served as if it were alone

The loop, seen from one connection: `view` is what can be seen of it, `soloEvent` what a step is to
it. `serves_each_alone`: in every run, whatever the other connections do, each connection goes
through a run of `Solo`. What is proved of the runs of `Solo` holds of every connection of the loop.
-/

namespace Ustunet

variable {T Q : Type} [DelayQueue AddrPair Q]

namespace World

/-! ## The view of one connection -/

/-- The half of a side of a connection. -/
def ofConn (id : ConnId) (rw : Close) (h : Half) : Bool := h.conn == id && h.rw == rw

open Classical in
/-- The pair that the loop has a connection under. -/
noncomputable def slot (w : World T Q) (id : ConnId) : Option AddrPair :=
  if h : ∃ p, w.connOf p = some id then some h.choose else none

noncomputable def stage (w : World T Q) (id : ConnId) : Stage :=
  match w.slot id with
  | some p =>
    match w.sockets p with
    | some c => .pooled c.inner
    | none => .creating p
  | none => if id < w.nextConn then .over else .unborn

def place (w : World T Q) (id : ConnId) (rw : Close) : Place :=
  if w.halves.any (ofConn id rw) then if w.accepted id then .alive else .waiting
  else if w.closing.any (ofConn id rw) then .dropped
  else .gone

/-- What can be seen of one connection. -/
noncomputable def view (w : World T Q) (id : ConnId) : Solo T :=
  ⟨w.shared id, w.stage id, w.place id⟩

/-- What an event is to one connection, if anything. -/
def soloEvent (id : ConnId) (w : World T Q) (e : Event) : Option SoloEvent :=
  match e with
  | .app .accept => if w.incoming.head? = some id then some .accept else none
  | .app .closeListener => if id ∈ w.incoming then some .discard else none
  | .app (.read half lock waker len) =>
    if half.conn = id then some (.read lock waker len) else none
  | .app (.write half lock waker buf) =>
    if half.conn = id then some (.write half.socket lock waker buf) else none
  | .app (.close half lock) => if half.conn = id then some (.close half.socket lock) else none
  | .app (.drop half) => if half.conn = id then some (.drop half.rw) else none
  | .process pair timestamp ipRepr tcpRepr =>
    if (w.sockets pair).any (·.socket == id) then some (.process timestamp ipRepr tcpRepr) else none
  | .dispatch addr =>
    if (w.sockets addr).any (·.socket == id) then some (.dispatch (w.clock.timestamp w.now))
    else none
  | .dropHalf half => if half.conn = id then some (.told half.rw) else none
  | .create pair => if w.nextConn = id then some (.create pair) else none
  | .refuse => if id ∈ w.unsent then some .discard else none
  | .insert => if w.creating.any (·.conn == id) then some .insert else none
  | .stop => if id < w.nextConn then some .stop else none
  | .elapse _ | .update _ _ | .expire _ | .handOver => none

variable {w w' : World T Q} {id : ConnId}

/-! ### The stage -/

lemma slot_eq (ho : w.Owned) {p : AddrPair} (h : w.connOf p = some id) : w.slot id = some p := by
  have hex : ∃ p, w.connOf p = some id := ⟨p, h⟩
  unfold slot
  rw [dif_pos hex, ho.inj hex.choose_spec h]

lemma slot_eq_none (h : ∀ p, w.connOf p ≠ some id) : w.slot id = none :=
  dif_neg fun ⟨p, hp⟩ => h p hp

lemma stage_pooled (ho : w.Owned) {p : AddrPair} {c : Connection} (hc : w.sockets p = some c) :
    w.stage c.socket = .pooled c.inner := by
  unfold stage
  rw [slot_eq ho (connOf_of_sockets hc)]
  dsimp only
  rw [hc]

lemma connOf_creating (ho : w.Owned) {k : Creation} (hk : w.creating = some k) :
    w.connOf k.pair = some k.conn := by
  simp [connOf, ho.free hk, hk]

lemma stage_creating (ho : w.Owned) {k : Creation} (hk : w.creating = some k) :
    w.stage k.conn = .creating k.pair := by
  unfold stage
  rw [slot_eq ho (connOf_creating ho hk)]
  dsimp only
  rw [ho.free hk]

lemma stage_none (h : ∀ p, w.connOf p ≠ some id) :
    w.stage id = if id < w.nextConn then .over else .unborn := by
  unfold stage
  rw [slot_eq_none h]

/-- A step that does not touch the pair of a connection leaves its stage as it was. -/
lemma stage_congr (ho : w.Owned) (ho' : w'.Owned)
    (hconn : ∀ p, w'.connOf p = some id ↔ w.connOf p = some id)
    (hsock : ∀ p, w.connOf p = some id → w'.sockets p = w.sockets p)
    (hnext : id < w'.nextConn ↔ id < w.nextConn) : w'.stage id = w.stage id := by
  by_cases hex : ∃ p, w.connOf p = some id
  · obtain ⟨p, hp⟩ := hex
    unfold stage
    rw [slot_eq ho hp, slot_eq ho' ((hconn p).mpr hp)]
    dsimp only
    rw [hsock p hp]
  · have hno : ∀ p, w.connOf p ≠ some id := fun p hp => hex ⟨p, hp⟩
    rw [stage_none hno, stage_none fun p hp => hno p ((hconn p).mp hp)]
    simp only [hnext]

/-- A connection that is removed is over; the others stay. -/
lemma stage_removed (ho : w.Owned) (ho' : w'.Owned) {addr : AddrPair} {c : Connection}
    (hc : w.sockets addr = some c) (hs : w'.sockets = Function.update w.sockets addr none)
    (hcr : w'.creating = w.creating) (hnext : w'.nextConn = w.nextConn) :
    w'.stage id = if c.socket = id then .over else w.stage id := by
  have hconn : ∀ p, w'.connOf p = if p = addr then none else w.connOf p := by
    intro p
    split
    · next hp => exact hp ▸ ho.connOf_removed hc hs hcr
    · next hp => exact connOf_update hs hcr hp
  split
  · next hid =>
    subst hid
    have hno : ∀ p, w'.connOf p ≠ some c.socket := by
      intro p hp
      rw [hconn] at hp
      split at hp
      · cases hp
      · next hpa => exact hpa (ho.inj hp (connOf_of_sockets hc))
    rw [stage_none hno, hnext, if_pos (ho.fresh (connOf_of_sockets hc))]
  · next hid =>
    have hne : ∀ p, w.connOf p = some id → p ≠ addr := by
      rintro p hp rfl
      exact hid (Option.some.inj ((connOf_of_sockets hc).symm.trans hp))
    refine stage_congr ho ho' (fun p => ?_) (fun p hp => ?_) (by rw [hnext])
    · rw [hconn]
      split
      · next hpa => exact ⟨nofun, fun hp => absurd hpa (hne p hp)⟩
      · exact Iff.rfl
    · rw [hs, Function.update_of_ne (hne p hp)]

/-- A message sets the flags of one connection. -/
lemma stage_told (ho : w.Owned) (ho' : w'.Owned) {addr : AddrPair} {c c' : Connection}
    (hc : w.sockets addr = some c) (hs : w'.sockets = Function.update w.sockets addr (some c'))
    (hsock : c'.socket = c.socket) (hcr : w'.creating = w.creating)
    (hnext : w'.nextConn = w.nextConn) :
    w'.stage id = if c.socket = id then .pooled c'.inner else w.stage id := by
  have hc' : w'.sockets addr = some c' := by rw [hs, Function.update_self]
  split
  · next hid =>
    subst hid
    rw [← hsock]
    exact stage_pooled ho' hc'
  · next hid =>
    have hne : ∀ p, w.connOf p = some id → p ≠ addr := by
      rintro p hp rfl
      exact hid (Option.some.inj ((connOf_of_sockets hc).symm.trans hp))
    refine stage_congr ho ho' (fun p => ?_) (fun p hp => ?_) (by rw [hnext])
    · by_cases hpa : p = addr
      · rw [hpa, connOf_of_sockets hc, connOf_of_sockets hc', hsock]
      · rw [connOf_update hs hcr hpa]
    · rw [hs, Function.update_of_ne (hne p hp)]

/-- A connection that is made is in `create_syn`. -/
lemma stage_create (ho : w.Owned) (ho' : w'.Owned) {pair : AddrPair} (hpair : w.sockets pair = none)
    (hcr : w.creating = none) (hs : w'.sockets = w.sockets)
    (hcr' : w'.creating = some ⟨pair, w.nextConn, false⟩) (hnext : w'.nextConn = w.nextConn + 1) :
    w'.stage id = if w.nextConn = id then .creating pair else w.stage id := by
  split
  · next hid =>
    subst hid
    exact stage_creating ho' hcr'
  · next hid =>
    refine stage_congr ho ho' (fun p => ?_) (fun p _ => by rw [hs]) ?_
    · rw [connOf_create hpair hcr hs hcr']
      split
      · next hp =>
        subst hp
        simp [hid, connOf, hpair, hcr]
      · exact Iff.rfl
    · rw [hnext, Nat.lt_succ_iff_lt_or_eq]
      simp [Ne.symm hid]

/-- It stays there when its stream is handed over. -/
lemma stage_handed (ho : w.Owned) (ho' : w'.Owned) {pair : AddrPair} {k : ConnId}
    (hcr : w.creating = some ⟨pair, k, false⟩) (hs : w'.sockets = w.sockets)
    (hcr' : w'.creating = some ⟨pair, k, true⟩) (hnext : w'.nextConn = w.nextConn) :
    w'.stage id = w.stage id :=
  stage_congr ho ho' (fun p => by rw [connOf_handed hcr hs hcr']) (fun p _ => by rw [hs])
    (by rw [hnext])

/-- A connection that is put in the pool has no flag set. -/
lemma stage_insert (ho : w.Owned) (ho' : w'.Owned) {pair : AddrPair} {k : ConnId}
    (hcr : w.creating = some ⟨pair, k, true⟩)
    (hs : w'.sockets = Function.update w.sockets pair (some (.new k pair)))
    (hconn : ∀ p, w'.connOf p = w.connOf p) (hnext : w'.nextConn = w.nextConn) :
    w'.stage id = if k = id then .pooled ⟨pair, false, false⟩ else w.stage id := by
  have hc' : w'.sockets pair = some (.new k pair) := by rw [hs, Function.update_self]
  split
  · next hid =>
    subst hid
    exact stage_pooled ho' hc'
  · next hid =>
    refine stage_congr ho ho' (fun p => by rw [hconn]) (fun p hp => ?_) (by rw [hnext])
    have hne : p ≠ pair := by
      rintro rfl
      exact hid (Option.some.inj ((connOf_creating ho hcr).symm.trans hp))
    rw [hs, Function.update_of_ne hne]

/-- Everything is over when the loop stops. -/
lemma stage_stopped (hcr : w.creating = none) (hs : w'.sockets = fun _ => none)
    (hcr' : w'.creating = w.creating) (hnext : w'.nextConn = w.nextConn) :
    w'.stage id = if id < w.nextConn then .over else .unborn := by
  rw [← hnext]
  exact stage_none fun p hp => by simp [connOf, hs, hcr', hcr] at hp

/-- Between two iterations a connection that was made is in the pool, or over. -/
lemma stage_idle (ho : w.Owned) (hcr : w.creating = none) (hid : id < w.nextConn) :
    (∃ inner, w.stage id = .pooled inner) ∨ w.stage id = .over := by
  by_cases hex : ∃ p, w.connOf p = some id
  · obtain ⟨p, hp⟩ := hex
    have hc : ∃ c, w.sockets p = some c ∧ c.socket = id := State.sockets_of_connOf hcr hp
    obtain ⟨c, hc, rfl⟩ := hc
    exact Or.inl ⟨_, stage_pooled ho hc⟩
  · rw [stage_none fun p hp => hex ⟨p, hp⟩, if_pos hid]
    exact Or.inr rfl

/-! ### The places of the halves -/

lemma any_ofConn {hs : List Half} {rw : Close} :
    hs.any (ofConn id rw) = true ↔ ∃ half ∈ hs, half.conn = id ∧ half.rw = rw := by
  simp [ofConn]

lemma place_congr (hhalves : ∀ rw, w'.halves.any (ofConn id rw) = w.halves.any (ofConn id rw))
    (hclosing : ∀ rw, w'.closing.any (ofConn id rw) = w.closing.any (ofConn id rw))
    (hacc : w'.accepted id = w.accepted id) : w'.place id = w.place id := by
  funext rw
  unfold place
  rw [hhalves, hclosing, hacc]

lemma place_of_mem {half : Half} (h : half ∈ w.halves) :
    w.place half.conn half.rw = if w.accepted half.conn then .alive else .waiting := by
  unfold place
  rw [if_pos (any_ofConn.mpr ⟨half, h, rfl, rfl⟩)]

/-- The messages under way are lost when the loop stops. -/
lemma place_stop (hhalves : w'.halves = w.halves) (hclosing : w'.closing = [])
    (hacc : w'.accepted id = w.accepted id) :
    w'.place id = fun rw => if w.place id rw = .dropped then .gone else w.place id rw := by
  funext rw
  unfold place
  rw [hhalves, hclosing, hacc]
  cases w.halves.any (ofConn id rw) <;> cases w.closing.any (ofConn id rw) <;>
    cases w.accepted id <;> rfl

/-- Only a connection that was made has a message under way. -/
lemma place_unborn (ho : w.Owned) (hst : w.Stopped) (hid : ¬ id < w.nextConn) (rw : Close) :
    w.place id rw ≠ .dropped := by
  intro h
  have hany : w.closing.any (ofConn id rw) = true := by
    unfold place at h
    cases hc : w.closing.any (ofConn id rw) with
    | true => rfl
    | false =>
      rw [hc] at h
      split at h
      · split at h <;> cases h
      · cases h
  obtain ⟨half, hmem, rfl, -⟩ := any_ofConn.mp hany
  cases hrun : w.running with
  | true => exact hid (ho.fresh (ho.connOf_of_mem hrun (List.mem_append_right _ hmem)))
  | false =>
    rw [(hst hrun).2.1] at hmem
    cases hmem

/-- The application has accepted exactly the streams that are not on their way. -/
lemma accepted_iff_waiting : w.accepted id = true ↔ id ∉ w.waiting := by
  unfold accepted waiting unsent
  cases hcr : w.creating with
  | none => simp
  | some k =>
    cases hh : k.handed
    · simp [hh, @eq_comm _ id k.conn]
    · simp [hh]

/-! ### Streams on their way -/

/-- The streams on their way are different ones, and have both their halves. -/
structure Waits (w : World T Q) : Prop extends w.Channel where
  range : ∃ left, left ++ w.waiting = List.range w.nextConn
  halves : ∀ id ∈ w.waiting, ∀ rw, w.halves.any (ofConn id rw) = true

lemma Waits.nodup (hw : w.Waits) : w.waiting.Nodup := by
  obtain ⟨left, h⟩ := hw.range
  have hnodup : (left ++ w.waiting).Nodup := h ▸ List.nodup_range
  exact hnodup.of_append_right

/-- Both halves of a stream on its way wait. -/
lemma Waits.place (hw : w.Waits) (hid : id ∈ w.waiting) (rw : Close) :
    w.place id rw = .waiting := by
  have hacc : ¬ w.accepted id = true := fun h => accepted_iff_waiting.mp h hid
  unfold World.place
  rw [if_pos (hw.halves id hid rw), if_neg hacc]

lemma waits_init (clock : Clock) : (init clock : World T Q).Waits :=
  ⟨channel_init, ⟨[], rfl⟩, fun id hid => by cases hid⟩

/-- What is left of the halves of a connection when streams are dropped. -/
lemma any_halves_dropStreams (ids : List ConnId) (rw : Close) :
    (w.dropStreams ids).halves.any (ofConn id rw)
      = (!ids.contains id && w.halves.any (ofConn id rw)) := by
  rw [Bool.eq_iff_iff, any_ofConn, Bool.and_eq_true, any_ofConn]
  simp only [dropStreams, List.mem_filter]
  constructor
  · rintro ⟨half, ⟨hmem, hno⟩, rfl, hrw⟩
    exact ⟨hno, half, hmem, rfl, hrw⟩
  · rintro ⟨hno, half, hmem, rfl, hrw⟩
    exact ⟨half, ⟨hmem, hno⟩, rfl, hrw⟩

lemma any_closing_dropStreams (ids : List ConnId) (rw : Close) :
    (w.dropStreams ids).closing.any (ofConn id rw)
      = (w.closing.any (ofConn id rw) || (ids.contains id && w.halves.any (ofConn id rw))) := by
  rw [Bool.eq_iff_iff, any_ofConn, Bool.or_eq_true, Bool.and_eq_true, any_ofConn, any_ofConn]
  simp only [dropStreams, List.mem_append, List.mem_filter]
  constructor
  · rintro ⟨half, hmem | ⟨hmem, hin⟩, rfl, hrw⟩
    · exact Or.inl ⟨half, hmem, rfl, hrw⟩
    · exact Or.inr ⟨hin, half, hmem, rfl, hrw⟩
  · rintro (⟨half, hmem, rfl, hrw⟩ | ⟨hin, half, hmem, rfl, hrw⟩)
    · exact ⟨half, Or.inl hmem, rfl, hrw⟩
    · exact ⟨half, Or.inr ⟨hmem, hin⟩, rfl, hrw⟩

/-- Dropping one half leaves the halves of another side or another connection. -/
lemma any_erase {half : Half} {hs : List Half} {rw : Close} (h : ofConn id rw half = false) :
    (hs.erase half).any (ofConn id rw) = hs.any (ofConn id rw) := by
  rw [Bool.eq_iff_iff, List.any_eq_true, List.any_eq_true]
  constructor
  · rintro ⟨x, hx, hp⟩
    exact ⟨x, List.mem_of_mem_erase hx, hp⟩
  · rintro ⟨x, hx, hp⟩
    refine ⟨x, (List.mem_erase_of_ne ?_).mpr hx, hp⟩
    rintro rfl
    rw [h] at hp
    cases hp

section

variable [TcpSocket T] {wire : Wire} {e : Event}

/-- The streams on their way after a step: those that do not leave, and the one that is made. -/
lemma Waits.after (hw : w.Waits) (h : Steps wire w e w') :
    (∃ left, left ++ w'.waiting = List.range w'.nextConn) ∧
      ∀ id ∈ w'.waiting, id ∉ w.leaves e ∧ (id ∈ w.waiting ∨ id ∈ w.creates e) := by
  have hstep := waiting_step hw.toChannel h
  obtain ⟨left, hleft⟩ := hw.range
  have hrange : (left ++ w.leaves e) ++ w'.waiting = List.range w'.nextConn := by
    rw [List.append_assoc, ← hstep, ← List.append_assoc, hleft, nextConn_step h]
  have hnodup : (w.leaves e ++ w'.waiting).Nodup := by
    rw [List.append_assoc] at hrange
    have h := hrange ▸ List.nodup_range
    exact h.of_append_right
  refine ⟨⟨_, hrange⟩, fun id hid => ⟨fun hl => ?_, ?_⟩⟩
  · exact (List.nodup_append.mp hnodup).2.2 id hl id hid rfl
  · rw [← List.mem_append, hstep]
    exact List.mem_append_right _ hid

lemma waits_step (hw : w.Waits) (h : Steps wire w e w') : w'.Waits := by
  obtain ⟨hrange, hafter⟩ := hw.after h
  refine ⟨channel_step hw.toChannel h, hrange, fun id hid rw => ?_⟩
  obtain ⟨hstays, hbefore⟩ := hafter id hid
  -- a step that makes no connection leaves the halves, but for those it drops
  have old : w.creates e = [] → w.halves.any (ofConn id rw) = true := by
    intro he
    rw [he] at hbefore
    exact hw.halves id (hbefore.resolve_right (List.not_mem_nil)) rw
  cases h with
  | elapse | accept | read | write | close | process | dispatchKeep | dispatchDrop | dropHalf
  | update | expire | handOver | insert | stop => exact old rfl
  | closeListener =>
    refine (any_halves_dropStreams w.incoming rw).trans ?_
    have hno : id ∉ w.incoming := hstays
    rw [old rfl]
    simpa using hno
  | @refuse pair k hcr =>
    refine (any_halves_dropStreams [k] rw).trans ?_
    have hno : id ∉ w.unsent := hstays
    rw [old rfl]
    simpa [unsent, hcr] using hno
  | @drop half hmem hacc =>
    refine (any_erase ?_).trans (old rfl)
    have hne : half.conn ≠ id := by
      rintro rfl
      exact accepted_iff_waiting.mp hacc hid
    simp [ofConn, hne]
  | @create pair =>
    refine any_ofConn.mpr ?_
    rcases hbefore with hold | hnew
    · obtain ⟨half, hmem, hh⟩ := any_ofConn.mp (hw.halves id hold rw)
      exact ⟨half, List.mem_append_left _ hmem, hh⟩
    · obtain rfl : id = w.nextConn := List.mem_singleton.mp hnew
      refine ⟨⟨pair, rw, w.nextConn⟩, List.mem_append_right _ ?_, rfl, rfl⟩
      cases rw <;> simp

end

/-! ### The one half of a side -/

/-- There is no second half of the same side of the same connection. -/
lemma Owned.any_others (ho : w.Owned) (hrun : w.running = true) {half : Half} {others : List Half}
    (hperm : (w.halves ++ w.closing).Perm (half :: others)) :
    others.any (ofConn half.conn half.rw) = false := by
  rw [Bool.eq_false_iff]
  intro hany
  obtain ⟨x, hx, hconn, hrw⟩ := any_ofConn.mp hany
  have hmem : half ∈ w.halves ++ w.closing := hperm.mem_iff.mpr List.mem_cons_self
  have hmem' : x ∈ w.halves ++ w.closing := hperm.mem_iff.mpr (List.mem_cons_of_mem _ hx)
  have hsock : x.socket = half.socket :=
    ho.inj (ho.connOf_of_mem hrun hmem') (hconn ▸ ho.connOf_of_mem hrun hmem)
  have hx' : x = half := by
    obtain ⟨p, rw, id⟩ := x
    obtain ⟨p', rw', id'⟩ := half
    simp_all
  subst hx'
  -- it would be in two places
  have hcount : (w.halves ++ w.closing).count x ≤ 1 := by
    rw [ho.once hrun]
    split <;> omega
  rw [hperm.count_eq, List.count_cons_self] at hcount
  have := List.count_pos_iff.mpr hx
  omega

lemma ofConn_self (half : Half) : ofConn half.conn half.rw half = true := by
  simp [ofConn]

/-- A half that is dropped is on its way as a message; the other side stays where it was. -/
lemma place_drop (ho : w.Owned) (hrun : w.running = true) {half : Half} (hmem : half ∈ w.halves) :
    place { w with halves := w.halves.erase half, closing := w.closing ++ [half] } half.conn
      = Function.update (w.place half.conn) half.rw .dropped := by
  have hperm : (w.halves ++ w.closing).Perm (half :: (w.halves.erase half ++ w.closing)) :=
    (List.perm_cons_erase hmem).append_right _
  have hnone := ho.any_others hrun hperm
  rw [List.any_append, Bool.or_eq_false_iff] at hnone
  funext rw
  by_cases hrw : rw = half.rw
  · subst hrw
    rw [Function.update_self]
    unfold place
    rw [if_neg (by simp [hnone.1]), if_pos (by simp [ofConn_self])]
  · have hne : ofConn half.conn rw half = false := by simp [ofConn, Ne.symm hrw]
    rw [Function.update_of_ne hrw]
    unfold place
    rw [any_erase hne, List.any_append]
    simp [hne, accepted]

/-- A half whose message has been handled is gone; the other side stays where it was. -/
lemma place_told (ho : w.Owned) (hrun : w.running = true) {half : Half} {rest : List Half}
    (hclosing : w.closing = half :: rest) (hclosing' : w'.closing = rest)
    (hhalves : w'.halves = w.halves) (hacc : w'.accepted half.conn = w.accepted half.conn) :
    w.place half.conn half.rw = .dropped ∧
      w'.place half.conn = Function.update (w.place half.conn) half.rw .gone := by
  have hperm : (w.halves ++ w.closing).Perm (half :: (w.halves ++ rest)) := by
    rw [hclosing]
    exact List.perm_middle
  have hnone := ho.any_others hrun hperm
  rw [List.any_append, Bool.or_eq_false_iff] at hnone
  constructor
  · unfold place
    rw [if_neg (by simp [hnone.1]), if_pos (by simp [hclosing, ofConn_self])]
  · funext rw
    by_cases hrw : rw = half.rw
    · subst hrw
      rw [Function.update_self]
      unfold place
      rw [if_neg (by simp [hhalves, hnone.1]), if_neg (by simp [hclosing', hnone.2])]
    · have hne : ofConn half.conn rw half = false := by simp [ofConn, Ne.symm hrw]
      rw [Function.update_of_ne hrw]
      unfold place
      rw [hhalves, hclosing', hclosing, hacc, List.any_cons, hne, Bool.false_or]

/-! ## Each step, seen from one connection -/

open Transition

lemma view_eq {s : Option (Shared T)} {stage : Stage} {place : Close → Place}
    (hshared : w.shared id = s) (hstage : w.stage id = stage) (hplace : w.place id = place) :
    w.view id = ⟨s, stage, place⟩ := by
  subst hshared hstage hplace
  rfl

/-- Whether a stream has been accepted, where those on their way change for other connections. -/
lemma accepted_congr (h : id ∈ w'.waiting ↔ id ∈ w.waiting) : w'.accepted id = w.accepted id := by
  rw [Bool.eq_iff_iff, accepted_iff_waiting, accepted_iff_waiting, h]

/-- A stream that leaves the channel goes where its halves go. -/
lemma move_waiting (hw : w.Waits) (hid : id ∈ w.waiting) {dst : Place}
    (hshared : w'.shared id = w.shared id) (hstage : w'.stage id = w.stage id)
    (hplace : ∀ rw, w'.place id rw = dst) :
    (w.view id).move .waiting dst = .ok (w'.view id) := by
  unfold Solo.move
  rw [if_pos ⟨hw.place hid .read, hw.place hid .write⟩]
  refine congrArg Except.ok (view_eq hshared hstage (funext hplace)).symm

lemma view_accept [TcpSocket T] {wire : Wire} (hw : w.Waits) {rest : List ConnId} {id₀ : ConnId}
    (hin : w.incoming = id₀ :: rest) :
    Follows (Solo.step wire) (w.view id) (soloEvent id w (.app .accept))
      (view { w with incoming := rest } id) := by
  have hwaiting : w.waiting = id₀ :: waiting { w with incoming := rest } := by
    simp [waiting, unsent, hin]
  have hnodup := hw.nodup
  rw [hwaiting, List.nodup_cons] at hnodup
  simp only [soloEvent, hin, List.head?_cons, Option.some.injEq]
  by_cases hid : id₀ = id
  · subst hid
    rw [if_pos rfl]
    have hmem : id₀ ∈ w.waiting := hwaiting ▸ List.mem_cons_self
    refine move_waiting hw hmem rfl rfl fun rw => ?_
    unfold place
    rw [if_pos (hw.halves id₀ hmem rw), if_pos (accepted_iff_waiting.mpr hnodup.1)]
  · rw [if_neg hid]
    refine view_eq rfl rfl (place_congr (fun _ => rfl) (fun _ => rfl) (accepted_congr ?_))
    rw [hwaiting, List.mem_cons]
    simp [Ne.symm hid]

/-- The streams of some connections are dropped before they reach the application. -/
lemma place_discarded {ids : List ConnId} (hw : w.Waits) (hid : id ∈ ids) (hmem : id ∈ w.waiting)
    (hhalves : w'.halves = (w.dropStreams ids).halves)
    (hclosing : w'.closing = (w.dropStreams ids).closing) (rw : Close) :
    w'.place id rw = .dropped := by
  have hcontains : ids.contains id = true := by simpa using hid
  unfold place
  rw [hhalves, hclosing, any_halves_dropStreams, any_closing_dropStreams, hcontains,
    hw.halves id hmem rw]
  simp

/-- The halves of the others stay where they are. -/
lemma place_undiscarded {ids : List ConnId} (hid : id ∉ ids)
    (hhalves : w'.halves = (w.dropStreams ids).halves)
    (hclosing : w'.closing = (w.dropStreams ids).closing)
    (hwaiting : id ∈ w'.waiting ↔ id ∈ w.waiting) : w'.place id = w.place id := by
  have hcontains : ids.contains id = false := by simpa using hid
  refine place_congr (fun rw => ?_) (fun rw => ?_) (accepted_congr hwaiting)
  · rw [hhalves, any_halves_dropStreams, hcontains]
    simp
  · rw [hclosing, any_closing_dropStreams, hcontains]
    simp

/-- A call of the application on one half. -/
lemma view_call {half : Half} {s s' : Shared T} {f : Shared T → Shared T}
    (hmem : half ∈ w.halves) (hacc : w.accepted half.conn = true)
    (hs : w.shared half.conn = some s) (hf : f s = s') :
    (w.view half.conn).call half.rw f = .ok (view (w.setShared half.conn s') half.conn) := by
  have hplace : (w.view half.conn).place half.rw = .alive := by
    show w.place half.conn half.rw = .alive
    rw [place_of_mem hmem, if_pos hacc]
  unfold Solo.call
  rw [hplace, show (w.view half.conn).shared = some s from hs]
  dsimp only
  rw [hf]
  have hshared : (w.setShared half.conn s').shared half.conn = some s' := by
    rw [shared_setShared, if_pos rfl]
  exact congrArg Except.ok (view_eq hshared rfl rfl).symm

/-- What another connection shares. -/
lemma view_setShared {id₀ : ConnId} {s : Shared T} (hid : id₀ ≠ id) :
    view (w.setShared id₀ s) id = w.view id := by
  refine view_eq ?_ rfl rfl
  rw [shared_setShared, if_neg (Ne.symm hid)]

/-- What a connection shares after a step that sets it. -/
lemma shared_self {id₀ : ConnId} {s : Shared T} : (w.setShared id₀ s).shared id₀ = some s := by
  rw [shared_setShared, if_pos rfl]

section

variable [TcpSocket T] {wire : Wire}

lemma view_closeListener (hw : w.Waits) :
    Follows (Solo.step wire) (w.view id) (soloEvent id w (.app .closeListener))
      (view { w.dropStreams w.incoming with incoming := [], listening := false } id) := by
  simp only [soloEvent]
  by_cases hid : id ∈ w.incoming
  · rw [if_pos hid]
    have hmem : id ∈ w.waiting := List.mem_append_left _ hid
    exact move_waiting hw hmem rfl rfl (place_discarded hw hid hmem rfl rfl)
  · rw [if_neg hid]
    refine view_eq rfl rfl (place_undiscarded hid rfl rfl ?_)
    simp [waiting, unsent, dropStreams, hid]

/-- A call on a half is a call of its connection, and nothing to the others. -/
lemma view_half {half : Half} {rw : Close} {s s' : Shared T} {e : SoloEvent}
    {f : Shared T → Shared T} (hmem : half ∈ w.halves) (hrw : half.rw = rw)
    (hacc : w.accepted half.conn = true) (hs : w.shared half.conn = some s)
    (hstep : (w.view half.conn).step wire e = (w.view half.conn).call rw f) (hf : f s = s') :
    Follows (Solo.step wire) (w.view id) (if half.conn = id then some e else none)
      (view (w.setShared half.conn s') id) := by
  by_cases hid : half.conn = id
  · subst hid
    rw [if_pos rfl]
    rw [← hrw] at hstep
    exact hstep.trans (view_call hmem hacc hs hf)
  · rw [if_neg hid]
    exact view_setShared hid

lemma view_drop (ho : w.Owned) (hrun : w.running = true) {half : Half} (hmem : half ∈ w.halves)
    (hacc : w.accepted half.conn = true) :
    Follows (Solo.step wire) (w.view id) (soloEvent id w (.app (.drop half)))
      (view { w with halves := w.halves.erase half, closing := w.closing ++ [half] } id) := by
  simp only [soloEvent]
  by_cases hid : half.conn = id
  · subst hid
    rw [if_pos rfl]
    have hplace : (w.view half.conn).place half.rw = .alive := by
      show w.place half.conn half.rw = .alive
      rw [place_of_mem hmem, if_pos hacc]
    show (if (w.view half.conn).place half.rw = .alive then _ else _) = _
    rw [if_pos hplace]
    exact congrArg Except.ok (view_eq rfl rfl (place_drop ho hrun hmem)).symm
  · rw [if_neg hid]
    have hne : ∀ rw, ofConn id rw half = false := fun rw => by simp [ofConn, hid]
    refine view_eq rfl rfl (place_congr (fun rw => any_erase (hne rw)) (fun rw => ?_) rfl)
    show (w.closing ++ [half]).any _ = _
    simp [hne]

lemma view_process (ho : w.Owned) {pair : AddrPair} {c : Connection} {s s' : Shared T}
    {queue : DispatchQueue AddrPair Q} {reply : Except Error (Option Packet)} {ts : SmolInstant}
    {ip : IpRepr} {tcp : TcpRepr} (hc : w.sockets pair = some c)
    (hs : w.shared c.socket = some s)
    (hp : c.process s ts ip tcp w.queue = (reply, s', queue)) :
    Follows (Solo.step wire) (w.view id) (soloEvent id w (.process pair ts ip tcp))
      (view { w.setShared c.socket s' with queue } id) := by
  simp only [soloEvent, hc, Option.any_some, beq_iff_eq]
  by_cases hid : c.socket = id
  · subst hid
    rw [if_pos rfl]
    refine (Solo.step_process (stage_pooled ho hc) hs ip tcp).trans (congrArg Except.ok ?_)
    rw [← Connection.processed_of_process hp]
    exact (view_eq shared_self rfl rfl).symm
  · rw [if_neg hid]
    exact view_setShared hid

/-- A dispatch, whether it removes the connection or not. -/
lemma view_dispatch (ho : w.Owned) {addr : AddrPair} {c : Connection} {s s' : Shared T}
    {queue : DispatchQueue AddrPair Q} {buf : List UInt8} {drop : Bool}
    (hc : w.sockets addr = some c) (hs : w.shared c.socket = some s)
    (hd : c.dispatch wire s (w.clock.timestamp w.now) w.queue = (drop, buf, s', queue))
    (hshared : w'.shared = (w.setShared c.socket s').shared)
    (hstage : w'.stage id = if c.socket = id then (if drop then .over else .pooled c.inner)
      else w.stage id) (hplace : w'.place id = w.place id) :
    Follows (Solo.step wire) (w.view id) (soloEvent id w (.dispatch addr)) (w'.view id) := by
  simp only [soloEvent, hc, Option.any_some, beq_iff_eq]
  by_cases hid : c.socket = id
  · subst hid
    rw [if_pos rfl] at hstage ⊢
    refine (Solo.step_dispatch (stage_pooled ho hc) hs
      (Connection.dispatched_of_dispatch hd)).trans (congrArg Except.ok ?_)
    exact (view_eq ((congrFun hshared _).trans shared_self) hstage hplace).symm
  · rw [if_neg hid] at hstage ⊢
    refine view_eq ?_ hstage hplace
    rw [hshared, shared_setShared, if_neg (Ne.symm hid)]

lemma view_told (ho : w.Owned) (ho' : w'.Owned) (hrun : w.running = true) {half : Half}
    {rest : List Half} {c c' : Connection} {s s' : Shared T} {queue : DispatchQueue AddrPair Q}
    (hclosing : w.closing = half :: rest) (hc : w.sockets half.socket = some c)
    (hs : w.shared c.socket = some s) (hd : c.dropHalf s half.rw w.queue = (c', s', queue))
    (hw' : w' = { (w.setShared c.socket s').setSocket half.socket (some c') with
      closing := rest, queue }) :
    Follows (Solo.step wire) (w.view id) (soloEvent id w (.dropHalf half)) (w'.view id) := by
  have hmem : half ∈ w.halves ++ w.closing := by simp [hclosing]
  have hsock : c.socket = half.conn :=
    Option.some.inj ((connOf_of_sockets hc).symm.trans (ho.connOf_of_mem hrun hmem))
  have hsock' : c'.socket = c.socket := by
    rw [(Connection.dropHalf_cases hd).1, Connection.marked_socket]
  have hshared : w'.shared id = if id = half.conn then some s' else w.shared id := by
    rw [hw', ← hsock]
    exact shared_setShared ..
  have hstage : w'.stage id = if c.socket = id then .pooled c'.inner else w.stage id :=
    stage_told ho ho' hc (by rw [hw']; rfl) hsock' (by rw [hw']; rfl) (by rw [hw']; rfl)
  rw [hsock] at hs hstage
  simp only [soloEvent]
  by_cases hid : half.conn = id
  · subst hid
    rw [if_pos rfl] at hshared hstage ⊢
    obtain ⟨hdropped, hplace⟩ : w.place half.conn half.rw = .dropped ∧
        w'.place half.conn = Function.update (w.place half.conn) half.rw .gone :=
      place_told ho hrun hclosing (by rw [hw']) (by rw [hw']; rfl) (by rw [hw']; rfl)
    have hpooled : w.stage half.conn = .pooled c.inner := hsock ▸ stage_pooled ho hc
    refine (Solo.step_told hpooled hs hdropped (Connection.halfDropped_of_dropHalf hd)).trans
      (congrArg Except.ok (view_eq hshared hstage hplace).symm)
  · rw [if_neg (Ne.symm hid)] at hshared
    rw [if_neg hid] at hstage ⊢
    refine view_eq hshared hstage (place_congr (fun rw => ?_) (fun rw => ?_) ?_)
    · rw [hw']
      rfl
    · rw [hw', hclosing, List.any_cons]
      simp [ofConn, hid]
    · rw [hw']
      rfl

lemma view_create (ho : w.Owned) (ho' : w'.Owned) (hw₁ : w'.Waits) {pair : AddrPair} {tcp : T}
    (hpair : w.sockets pair = none) (hcr : w.creating = none)
    (hopen : openSocket pair.localAddr = .ok tcp)
    (hwaiting : w'.waiting = w.waiting ++ [w.nextConn])
    (hw' : w' = { w.setShared w.nextConn (.new tcp) with
      nextConn := w.nextConn + 1
      halves := w.halves ++ [⟨pair, .write, w.nextConn⟩, ⟨pair, .read, w.nextConn⟩]
      creating := some ⟨pair, w.nextConn, false⟩ }) :
    Follows (Solo.step wire) (w.view id) (soloEvent id w (.create pair)) (w'.view id) := by
  have hshared : w'.shared id = if id = w.nextConn then some (.new tcp) else w.shared id := by
    rw [hw']
    exact shared_setShared ..
  have hstage : w'.stage id = if w.nextConn = id then .creating pair else w.stage id :=
    stage_create ho ho' hpair hcr (by rw [hw']; rfl) (by rw [hw']) (by rw [hw'])
  simp only [soloEvent]
  by_cases hid : w.nextConn = id
  · subst hid
    rw [if_pos rfl] at hshared hstage ⊢
    have hunborn : w.stage w.nextConn = .unborn := by
      rw [stage_none fun p hp => lt_irrefl _ (ho.fresh hp), if_neg (lt_irrefl _)]
    refine (Solo.step_create hunborn hopen).trans (congrArg Except.ok ?_)
    refine (view_eq hshared hstage (funext (hw₁.place ?_))).symm
    rw [hwaiting]
    exact List.mem_append_right _ List.mem_cons_self
  · rw [if_neg (Ne.symm hid)] at hshared
    rw [if_neg hid] at hstage ⊢
    refine view_eq hshared hstage (place_congr (fun rw => ?_) (fun rw => ?_) (accepted_congr ?_))
    · rw [hw', List.any_append]
      simp [ofConn, hid]
    · rw [hw']
      rfl
    · rw [hwaiting, List.mem_append]
      simp [Ne.symm hid]

lemma view_refuse (ho : w.Owned) (ho' : w'.Owned) (hw : w.Waits) {pair : AddrPair} {k : ConnId}
    (hcr : w.creating = some ⟨pair, k, false⟩) (hwaiting : w.waiting = w.unsent ++ w'.waiting)
    (hw' : w' = { w.dropStreams [k] with creating := some ⟨pair, k, true⟩ }) :
    Follows (Solo.step wire) (w.view id) (soloEvent id w .refuse) (w'.view id) := by
  have hunsent : w.unsent = [k] := by simp [unsent, hcr]
  have hshared : w'.shared id = w.shared id := by rw [hw']; rfl
  have hstage : w'.stage id = w.stage id :=
    stage_handed ho ho' hcr (by rw [hw']; rfl) (by rw [hw']) (by rw [hw']; rfl)
  have hhalves : w'.halves = (w.dropStreams [k]).halves := by rw [hw']
  have hclosing : w'.closing = (w.dropStreams [k]).closing := by rw [hw']
  simp only [soloEvent]
  by_cases hid : id ∈ w.unsent
  · rw [if_pos hid]
    have hmem : id ∈ w.waiting := List.mem_append_right _ hid
    rw [hunsent] at hid
    exact move_waiting hw hmem hshared hstage (place_discarded hw hid hmem hhalves hclosing)
  · rw [if_neg hid]
    refine view_eq hshared hstage (place_undiscarded (hunsent ▸ hid) hhalves hclosing ?_)
    rw [hwaiting, List.mem_append]
    simp [hid]

lemma view_insert (ho : w.Owned) (ho' : w'.Owned) {pair : AddrPair} {k : ConnId}
    (hcr : w.creating = some ⟨pair, k, true⟩) (hpair : w.sockets pair = none)
    (hwaiting : w'.waiting = w.waiting)
    (hw' : w' = { w.setSocket pair (some (.new k pair)) with creating := none }) :
    Follows (Solo.step wire) (w.view id) (soloEvent id w .insert) (w'.view id) := by
  have hshared : w'.shared id = w.shared id := by rw [hw']; rfl
  have hstage : w'.stage id = if k = id then .pooled ⟨pair, false, false⟩ else w.stage id :=
    stage_insert ho ho' hcr (by rw [hw']; rfl) (by rw [hw']; exact connOf_insert hcr hpair)
      (by rw [hw']; rfl)
  have hplace : w'.place id = w.place id := by
    refine place_congr (fun rw => ?_) (fun rw => ?_) (accepted_congr (by rw [hwaiting]))
    · rw [hw']
      rfl
    · rw [hw']
      rfl
  simp only [soloEvent, hcr, Option.any_some, beq_iff_eq]
  by_cases hid : k = id
  · subst hid
    rw [if_pos rfl] at hstage ⊢
    exact (Solo.step_insert (stage_creating ho hcr)).trans
      (congrArg Except.ok (view_eq hshared hstage hplace).symm)
  · rw [if_neg hid] at hstage ⊢
    exact view_eq hshared hstage hplace

lemma view_stop (ho : w.Owned) (hst : w.Stopped) (hcr : w.creating = none)
    (hw' : w' = { w with
      sockets := fun _ => none, queue := .new w.clock, nextPoll := none, closing := [],
      polls := [], running := false }) :
    Follows (Solo.step wire) (w.view id) (soloEvent id w .stop) (w'.view id) := by
  have hshared : w'.shared id = w.shared id := by rw [hw']
  have hstage : w'.stage id = if id < w.nextConn then .over else .unborn :=
    stage_stopped hcr (by rw [hw']) (by rw [hw']) (by rw [hw'])
  have hplace : w'.place id
      = fun rw => if w.place id rw = .dropped then .gone else w.place id rw :=
    place_stop (by rw [hw']) (by rw [hw']) (by rw [hw']; rfl)
  simp only [soloEvent]
  by_cases hid : id < w.nextConn
  · rw [if_pos hid] at hstage ⊢
    exact (Solo.step_stop (stage_idle ho hcr hid)).trans
      (congrArg Except.ok (view_eq hshared hstage hplace).symm)
  · rw [if_neg hid] at hstage ⊢
    have hunborn := stage_none fun p hp => hid (ho.fresh (p := p) hp)
    rw [if_neg hid] at hunborn
    refine view_eq hshared (hstage.trans hunborn.symm) (hplace.trans (funext fun rw => ?_))
    exact if_neg (place_unborn ho hst hid rw)

variable {e : Event}

/-- **Each step is a step of each connection**, or leaves it alone. -/
theorem view_step (ho : w.Owned) (hst : w.Stopped) (hw : w.Waits) (h : Steps wire w e w')
    (id : ConnId) : Follows (Solo.step wire) (w.view id) (soloEvent id w e) (w'.view id) := by
  have ho' := owned_step ho hst h
  have hw' := waits_step hw h
  have hwaiting := waiting_step hw.toChannel h
  cases h with
  | elapse | update | expire => exact rfl
  | accept hin => exact view_accept hw hin
  | closeListener => exact view_closeListener hw
  | read lock waker len hmem hrw hacc hs =>
    exact view_half hmem hrw hacc hs rfl rfl
  | write lock waker buf hmem hrw hacc hs hwrite =>
    exact view_half hmem hrw hacc hs rfl (by rw [hwrite])
  | close lock hmem hrw hacc hs hclose =>
    exact view_half hmem hrw hacc hs rfl (by rw [hclose])
  | drop hmem hacc hrun => exact view_drop ho hrun hmem hacc
  | process ts ip tcp hc hs hp => exact view_process ho hc hs hp
  | @dispatchKeep addr c s s' queue buf _ hc hs hd =>
    refine view_dispatch ho hc hs hd rfl ?_ rfl
    split
    · next hid => exact hid ▸ stage_pooled ho' hc
    · rfl
  | dispatchDrop _ hc hs hd =>
    exact view_dispatch ho hc hs hd rfl (stage_removed ho ho' hc rfl rfl rfl) rfl
  | dropHalf hclosing hc hs hd =>
    exact view_told ho ho' (hst.running (connOf_of_sockets hc)) hclosing hc hs hd rfl
  | create hpair hcr hrun hopen =>
    exact view_create ho ho' hw' hpair hcr hopen hwaiting.symm rfl
  | @handOver pair k hcr hlist hroom =>
    refine view_eq rfl (stage_handed ho ho' hcr rfl rfl rfl)
      (place_congr (fun _ => rfl) (fun _ => rfl) (accepted_congr ?_))
    rw [show waiting _ = w.waiting ++ [] from hwaiting.symm, List.append_nil]
  | refuse hcr hlist =>
    exact view_refuse ho ho' hw hcr ((List.append_nil _).symm.trans hwaiting) rfl
  | insert hcr hpair =>
    exact view_insert ho ho' hcr hpair (hwaiting.symm.trans (List.append_nil _)) rfl
  | stop hcr => exact view_stop ho hst hcr rfl

end

end World

namespace State

open World Transition

variable [TcpSocket T] {wire : Wire} {clock : Clock} {s : State T Q}
  {hist : List (State T Q × Label)}

/-- What a run of the loop is to one connection. -/
noncomputable def soloEvents (wire : Wire) (id : ConnId) (hist : List (State T Q × Label)) :
    List (Solo T × SoloEvent) :=
  observe (fun w => view w id) (soloEvent id) (events wire hist)

/-- The same without the states it goes through, latest first. -/
def soloLabels (wire : Wire) (id : ConnId) (hist : List (State T Q × Label)) : List SoloEvent :=
  (events wire hist).filterMap fun x => soloEvent id x.1 x.2

lemma soloEvents_labels (wire : Wire) (id : ConnId)
    (hist : List (State T Q × Label)) :
    (soloEvents wire id hist).map Prod.snd = soloLabels wire id hist :=
  observe_labels _ _ _

/-- What the steps of one connection put out, from what it shares before each of them. -/
def seen {β : Type} (f : Option (Shared T) → SoloEvent → List β) (id : ConnId) (w : World T Q)
    (e : Event) : List β :=
  ((soloEvent id w e).map (f (w.shared id))).getD []

lemma collect_seen {β : Type} (f : Option (Shared T) → SoloEvent → List β) (id : ConnId) :
    collect (seen f id) (events wire hist)
      = collect (fun c e => f c.shared e) (soloEvents wire id hist) :=
  (collect_observe (fun c e => f c.shared e) (fun w => view w id) (soloEvent id) _).symm

lemma LoopReachable.waits (h : LoopReachable wire clock s) : s.world.Waits :=
  LoopReachable.invariant (waits_init clock) (fun _ _ hw h => waits_step hw h) h

/-- Each step of the loop is one of the connection, or leaves it alone. -/
lemma LoopReachable.solo_step {s' : State T Q} {l : Label} (h : LoopReachable wire clock s)
    (hl : s.step wire l = .ok s') (id : ConnId) :
    Follows (Solo.step wire) (s.world.view id) ((s.event wire l).bind (soloEvent id s.world))
      (s'.world.view id) := by
  obtain ⟨ho, hst⟩ := LoopReachable.owned h
  have hf := (world_of_step (LoopReachable.consistent h) hl).1
  cases he : s.event wire l with
  | none =>
    rw [he] at hf
    rw [show s'.world = s.world from hf]
    exact rfl
  | some e =>
    rw [he] at hf
    exact view_step ho hst (LoopReachable.waits h) (steps_of_step hf) id

/-- Seen from one connection, every run of the loop is a run of `Solo`, from any state of it. -/
theorem LoopReachable.solo {s' : State T Q} (h : LoopReachable wire clock s)
    (r : Run (State.step wire) s hist s') (id : ConnId) :
    Run (Solo.step wire) (s.world.view id) (soloEvents wire id hist) (s'.world.view id) := by
  have hevents : soloEvents wire id hist = observe (fun s => view s.world id)
      (fun s l => (s.event wire l).bind (soloEvent id s.world)) hist := by
    rw [soloEvents, events, observe, observe, observe, List.filterMap_filterMap]
    refine List.filterMap_congr fun x _ => ?_
    cases x.1.event wire x.2 <;> rfl
  rw [hevents]
  exact r.simulate (f := fun s => view s.world id) (I := LoopReachable wire clock) h
    (fun h hl => h.after hl) fun h hl => LoopReachable.solo_step h hl id

theorem LoopRun.solo (r : LoopRun wire clock hist s) (id : ConnId) :
    Run (Solo.step wire) Solo.init (soloEvents wire id hist) (s.world.view id) := by
  have hinit : view (.init clock : World T Q) id = Solo.init :=
    view_eq rfl (stage_none fun p hp => by cases hp) rfl
  rw [← hinit]
  exact LoopReachable.solo ⟨[], .start⟩ r id

/-- **Every connection is served as if it were alone.** Seen from one connection, every run of the
loop is a run of `Solo`, whatever happens to the other connections; so two connections to which the
same happens, in the same run or in different ones, are in the same state. -/
theorem serves_each_alone (r : LoopRun wire clock hist s) (id : ConnId) :
    Run (Solo.step wire) Solo.init (soloEvents wire id hist) (s.world.view id) ∧
      ∀ {clock' : Clock} {hist' : List (State T Q × Label)} {s' : State T Q} (id' : ConnId),
        LoopRun wire clock' hist' s' → soloLabels wire id' hist' = soloLabels wire id hist →
        s'.world.view id' = s.world.view id := by
  refine ⟨LoopRun.solo r id, fun id' r' h => ?_⟩
  rw [← soloEvents_labels, ← soloEvents_labels] at h
  exact ((LoopRun.solo r' id').deterministic (LoopRun.solo r id) h).2

/-- The first stream, while two others arrive, and the same without the others. -/
theorem serves_each_alone_crowded :
    ∃ hist s hist' s', LoopRun Reference.wire Reference.clock hist (s : Reference.Loop) ∧
      LoopRun Reference.wire Reference.clock hist' (s' : Reference.Loop) ∧
      s.world.nextConn = 3 ∧ s'.world.nextConn = 1 ∧ s'.world.view 0 = s.world.view 0 := by
  have hcheck : Reference.check Reference.crowded (fun hist s => decide (s.world.nextConn = 3) &&
      Reference.check (Reference.handshake ++
          [.turn, .app (.write Reference.writer true 0 [0]), .app (.drop Reference.reader)])
        fun hist' s' => decide (s'.world.nextConn = 1) &&
          decide (soloLabels Reference.wire 0 hist' = soloLabels Reference.wire 0 hist)) = true := by
    decide +kernel
  obtain ⟨hist, s, r, hs⟩ := Reference.run_of_check _ _ hcheck
  rw [Bool.and_eq_true, decide_eq_true_eq] at hs
  obtain ⟨hist', s', r', hs'⟩ := Reference.run_of_check _ _ hs.2
  rw [Bool.and_eq_true, decide_eq_true_eq, decide_eq_true_eq] at hs'
  exact ⟨hist, s, hist', s', r, r', hs.1, hs'.1, (serves_each_alone r 0).2 0 r' hs'.2⟩

end State

end Ustunet
