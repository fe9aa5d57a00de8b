import Ustunet.ConnectionTheorems
import Ustunet.Reference

/-!
# Who owns what

Each connection is in one slot of the pool or on its way into one, and each of its two halves is
in one place: alive, on its way as a half-close message, or recorded in the flags of the
connection. `Owned` is this bookkeeping, in every state of every run. It is what the other
invariants rest on: a half that the application uses belongs to the connection that has its
pair, and no two pairs share a connection.
-/

namespace Ustunet
namespace World

variable {T Q : Type} [DelayQueue AddrPair Q]

/-! ## The connection of a pair -/

/-- The connection of a pair: the one in the pool, or the one being created. -/
def connOf (w : World T Q) (p : AddrPair) : Option ConnId :=
  match w.sockets p with
  | some c => some c.socket
  | none =>
    match w.creating with
    | some k => if k.pair = p then some k.conn else none
    | none => none

/-- Whether the loop has been told that the half of a side is dropped. -/
def told (w : World T Q) (p : AddrPair) (rw : Close) : Bool :=
  match w.sockets p with
  | some c => c.inner.dropped rw
  | none => false

/-- The connection whose half of the given side is alive or whose message is under way. -/
def owner (w : World T Q) (p : AddrPair) (rw : Close) : Option ConnId :=
  if w.told p rw then none else w.connOf p

/-- The bookkeeping of connections and halves. -/
structure Owned (w : World T Q) : Prop where
  /-- A connection knows the slot it is in. -/
  handle : ∀ {p c}, w.sockets p = some c → c.handle = p
  /-- A connection is on its way into a free slot. -/
  free : ∀ {k}, w.creating = some k → w.sockets k.pair = none
  /-- Numbers are given out in order. -/
  fresh : ∀ {p id}, w.connOf p = some id → id < w.nextConn
  /-- No two pairs have the same connection. -/
  inj : ∀ {p p' id}, w.connOf p = some id → w.connOf p' = some id → p = p'
  /-- What is shared exists for every connection made so far. -/
  live : ∀ {id}, id < w.nextConn → (w.shared id).isSome
  /-- Every half is in exactly one place. -/
  once : w.running = true → ∀ h : Half,
    (w.halves ++ w.closing).count h = if w.owner h.socket h.rw = some h.conn then 1 else 0

variable {w w' : World T Q}

lemma connOf_of_sockets {p : AddrPair} {c : Connection} (h : w.sockets p = some c) :
    w.connOf p = some c.socket := by
  simp [connOf, h]

lemma told_of_sockets {p : AddrPair} {c : Connection} (h : w.sockets p = some c) (rw : Close) :
    w.told p rw = c.inner.dropped rw := by
  simp [told, h]

/-- A half that is alive or under way belongs to the connection of its pair. -/
lemma Owned.owner_of_mem (ho : w.Owned) (hrun : w.running = true) {h : Half}
    (hmem : h ∈ w.halves ++ w.closing) : w.owner h.socket h.rw = some h.conn := by
  have hpos : 0 < (w.halves ++ w.closing).count h := List.count_pos_iff.mpr hmem
  rw [ho.once hrun h] at hpos
  by_contra hne
  rw [if_neg hne] at hpos
  exact lt_irrefl 0 hpos

lemma Owned.connOf_of_mem (ho : w.Owned) (hrun : w.running = true) {h : Half}
    (hmem : h ∈ w.halves ++ w.closing) : w.connOf h.socket = some h.conn := by
  have := ho.owner_of_mem hrun hmem
  unfold owner at this
  split at this
  · cases this
  · exact this

lemma Owned.told_of_mem (ho : w.Owned) (hrun : w.running = true) {h : Half}
    (hmem : h ∈ w.halves ++ w.closing) : w.told h.socket h.rw = false := by
  have := ho.owner_of_mem hrun hmem
  unfold owner at this
  split at this
  · cases this
  · next hn => simpa using hn

/-- The half of a side of a pair, wherever it is. -/
def ofSide (p : AddrPair) (rw : Close) (h : Half) : Bool := h.socket == p && h.rw == rw

/-- A side of a pair has one half, alive or under way, while the loop has not been told that it
is dropped, and none after that. -/
lemma Owned.countP_ofSide (ho : w.Owned) (hrun : w.running = true) (p : AddrPair) (rw : Close) :
    (w.halves ++ w.closing).countP (ofSide p rw) = if (w.owner p rw).isSome then 1 else 0 := by
  have hown : ∀ h ∈ w.halves ++ w.closing, ofSide p rw h = true → w.owner p rw = some h.conn := by
    intro h hmem hs
    simp only [ofSide, Bool.and_eq_true, beq_iff_eq] at hs
    obtain ⟨rfl, rfl⟩ := hs
    exact ho.owner_of_mem hrun hmem
  cases hid : w.owner p rw with
  | none =>
    have hnone : ∀ h ∈ w.halves ++ w.closing, ¬ ofSide p rw h = true := by
      intro h hmem hs
      rw [hown h hmem hs] at hid
      cases hid
    rw [List.countP_eq_zero.mpr hnone]
    rfl
  | some id =>
    -- the halves of the side are copies of one half
    have hcongr : ∀ h ∈ w.halves ++ w.closing,
        (ofSide p rw h = true ↔ (h == (⟨p, rw, id⟩ : Half)) = true) := by
      intro h hmem
      constructor
      · intro hs
        have hc := (hown h hmem hs).symm.trans hid
        simp only [ofSide, Bool.and_eq_true, beq_iff_eq] at hs
        obtain ⟨rfl, rfl⟩ := hs
        obtain rfl := Option.some.inj hc
        simp
      · intro he
        rw [beq_iff_eq] at he
        subst he
        simp [ofSide]
    have honce := ho.once hrun ⟨p, rw, id⟩
    rw [if_pos hid] at honce
    rw [List.countP_congr hcongr]
    exact honce

/-! ## The connections after each step -/

/-- A slot that is written to is the only one whose connection can change. -/
lemma connOf_update {addr p : AddrPair} {x : Option Connection}
    (hs : w'.sockets = Function.update w.sockets addr x) (hc : w'.creating = w.creating)
    (hp : p ≠ addr) : w'.connOf p = w.connOf p := by
  unfold connOf
  rw [hs, hc, Function.update_of_ne hp]

/-- No connection is on its way to a pair that is pooled. -/
lemma Owned.creating_ne (ho : w.Owned) {k : Creation} (hk : w.creating = some k) {addr : AddrPair}
    {c : Connection} (hc : w.sockets addr = some c) : k.pair ≠ addr := by
  intro he
  have hfree : w.sockets k.pair = none := ho.free hk
  rw [he, hc] at hfree
  cases hfree

/-- A pair that was pooled has no connection once its slot is empty. -/
lemma Owned.connOf_removed (ho : w.Owned) {addr : AddrPair} {c : Connection}
    (hc : w.sockets addr = some c) (hs : w'.sockets = Function.update w.sockets addr none)
    (hcr : w'.creating = w.creating) : w'.connOf addr = none := by
  unfold connOf
  rw [hs, hcr, Function.update_self]
  cases hk : w.creating with
  | none => rfl
  | some k =>
    have hne : k.pair ≠ addr := ho.creating_ne hk hc
    simp [hne]

/-- The half-close messages of dropped streams take the place of their halves. -/
lemma count_dropStreams (w : World T Q) (ids : List ConnId) (h : Half) :
    ((w.dropStreams ids).halves ++ (w.dropStreams ids).closing).count h
      = (w.halves ++ w.closing).count h := by
  have hperm : (w.halves.filter (fun h => ids.contains h.conn)
      ++ w.halves.filter fun h => !ids.contains h.conn).Perm w.halves :=
    List.filter_append_perm _ _
  have hcount := hperm.count_eq h
  simp only [dropStreams, List.count_append] at hcount ⊢
  omega

/-- The half-close message of a dropped half takes its place. -/
lemma count_drop {half : Half} (hmem : half ∈ w.halves) (h : Half) :
    (w.halves.erase half ++ (w.closing ++ [half])).count h = (w.halves ++ w.closing).count h := by
  have hpos : 0 < w.halves.count half := List.count_pos_iff.mpr hmem
  simp only [List.count_append, List.count_erase, List.count_singleton]
  by_cases he : half = h
  · subst he
    simp only [beq_self_eq_true, if_true]
    omega
  · have he' : (half == h) = false := by simpa using he
    simp [he']

lemma isSome_setShared {id id' : ConnId} {s : Shared T} (h : (w.shared id').isSome) :
    ((w.setShared id s).shared id').isSome := by
  unfold setShared
  by_cases he : id' = id
  · subst he; simp
  · simpa [Function.update_of_ne he] using h

/-- A step that leaves the pool alone, and each half in as many places as before, keeps the
bookkeeping. -/
lemma Owned.frame (ho : w.Owned) (hsock : w'.sockets = w.sockets)
    (hconn : ∀ p, w'.connOf p = w.connOf p)
    (hfree : ∀ {k'}, w'.creating = some k' → ∃ k, w.creating = some k ∧ k.pair = k'.pair)
    (hnext : w'.nextConn = w.nextConn)
    (hlive : ∀ {id}, (w.shared id).isSome → (w'.shared id).isSome)
    (hrun : w'.running = true → w.running = true)
    (hcount : ∀ h, (w'.halves ++ w'.closing).count h = (w.halves ++ w.closing).count h) :
    w'.Owned where
  handle h := ho.handle (hsock ▸ h)
  free h := by
    obtain ⟨k, hk, hp⟩ := hfree h
    rw [hsock, ← hp]
    exact ho.free hk
  fresh h := by
    rw [hconn] at h
    rw [hnext]
    exact ho.fresh h
  inj h h' := by
    rw [hconn] at h h'
    exact ho.inj h h'
  live h := hlive (ho.live (hnext ▸ h))
  once hr h := by
    have howner : w'.owner h.socket h.rw = w.owner h.socket h.rw := by
      unfold owner told
      rw [hsock, hconn]
    rw [hcount, howner]
    exact ho.once (hrun hr) h

/-- The pair that a connection is created for has it; the others keep theirs. -/
lemma connOf_create {pair : AddrPair} {id : ConnId} {handed : Bool}
    (hpair : w.sockets pair = none) (hcr : w.creating = none) (hs : w'.sockets = w.sockets)
    (hcr' : w'.creating = some ⟨pair, id, handed⟩) (p : AddrPair) :
    w'.connOf p = if p = pair then some id else w.connOf p := by
  unfold connOf
  rw [hs, hcr, hcr']
  by_cases hp : p = pair
  · simp [hp, hpair]
  · simp [hp, Ne.symm hp]

/-- Both halves of a connection that is created belong to it. -/
lemma owner_create {pair : AddrPair} {id : ConnId} {handed : Bool}
    (hpair : w.sockets pair = none) (hcr : w.creating = none) (hs : w'.sockets = w.sockets)
    (hcr' : w'.creating = some ⟨pair, id, handed⟩) (p : AddrPair) (rw : Close) :
    w'.owner p rw = if p = pair then some id else w.owner p rw := by
  have htold : w'.told p rw = w.told p rw := by
    unfold told
    rw [hs]
  unfold owner
  rw [htold, connOf_create hpair hcr hs hcr']
  by_cases hp : p = pair
  · simp [hp, told, hpair]
  · simp [hp]

/-- A new connection: its pair had none, and its number was not in use. -/
lemma Owned.create (ho : w.Owned) {pair : AddrPair} {tcp : T} (hpair : w.sockets pair = none)
    (hcr : w.creating = none) :
    Owned { w.setShared w.nextConn (.new tcp) with
      nextConn := w.nextConn + 1
      halves := w.halves ++ [⟨pair, .write, w.nextConn⟩, ⟨pair, .read, w.nextConn⟩]
      creating := some ⟨pair, w.nextConn, false⟩ } := by
  set w' : World T Q := { w.setShared w.nextConn (.new tcp) with
    nextConn := w.nextConn + 1
    halves := w.halves ++ [⟨pair, .write, w.nextConn⟩, ⟨pair, .read, w.nextConn⟩]
    creating := some ⟨pair, w.nextConn, false⟩ } with hw'
  have hconn : ∀ p, w'.connOf p = if p = pair then some w.nextConn else w.connOf p :=
    connOf_create hpair hcr rfl rfl
  have howner : ∀ p rw, w'.owner p rw = if p = pair then some w.nextConn else w.owner p rw :=
    owner_create hpair hcr rfl rfl
  constructor
  · intro p c h
    exact ho.handle h
  · intro k hk
    obtain rfl : (⟨pair, w.nextConn, false⟩ : Creation) = k := Option.some.inj hk
    exact hpair
  · intro p id h
    rw [hconn] at h
    split at h
    · obtain rfl := Option.some.inj h
      exact Nat.lt_succ_self _
    · exact Nat.lt_succ_of_lt (ho.fresh h)
  · intro p p' id h h'
    -- the new number is above all the others
    rw [hconn] at h h'
    split at h
    · next hp =>
      split at h'
      · next hp' => rw [hp, hp']
      · obtain rfl := Option.some.inj h
        exact absurd (ho.fresh h') (lt_irrefl _)
    · split at h'
      · obtain rfl := Option.some.inj h'
        exact absurd (ho.fresh h) (lt_irrefl _)
      · exact ho.inj h h'
  · intro id hid
    show (Function.update w.shared w.nextConn _ id).isSome
    by_cases he : id = w.nextConn
    · subst he; simp
    · rw [Function.update_of_ne he]
      exact ho.live (Nat.lt_of_le_of_ne (Nat.le_of_lt_succ hid) he)
  · intro hr h
    have hcnt : (w'.halves ++ w'.closing).count h
        = (w.halves ++ w.closing).count h
          + ([⟨pair, .write, w.nextConn⟩, ⟨pair, .read, w.nextConn⟩] : List Half).count h := by
      simp only [w', setShared, List.count_append]
      omega
    obtain ⟨p, rw', id⟩ := h
    rw [hcnt, ho.once hr, howner]
    by_cases hp : p = pair
    · subst hp
      have hnone : w.owner p rw' = none := by simp [owner, connOf, hpair, hcr]
      rw [hnone, if_pos rfl]
      cases rw' <;> by_cases hid : w.nextConn = id <;> simp [hid]
    · have hn : ([⟨pair, .write, w.nextConn⟩, ⟨pair, .read, w.nextConn⟩] : List Half).count
          ⟨p, rw', id⟩ = 0 := by
        simp [Ne.symm hp]
      rw [hn, if_neg hp]
      rfl

/-- A connection leaves the pool once both its halves are dropped and recorded. -/
lemma Owned.remove (ho : w.Owned) {addr : AddrPair} {c : Connection} {s : Shared T}
    {queue : DispatchQueue AddrPair Q} (hc : w.sockets addr = some c)
    (hboth : c.inner.bothDropped = true) :
    Owned { (w.setShared c.socket s).setSocket addr none with queue, nextPoll := none } := by
  set w' : World T Q :=
    { (w.setShared c.socket s).setSocket addr none with queue, nextPoll := none } with hw'
  have haddr : w'.sockets addr = none := by simp [w', setSocket]
  have hsock : ∀ p, p ≠ addr → w'.sockets p = w.sockets p := by
    intro p hp
    simp [w', setSocket, setShared, Function.update_of_ne hp]
  have hupdate : w'.sockets = Function.update w.sockets addr none := rfl
  have hconn : ∀ p, p ≠ addr → w'.connOf p = w.connOf p :=
    fun p hp => connOf_update hupdate rfl hp
  have hgone : w'.connOf addr = none := ho.connOf_removed hc rfl rfl
  have hne : ∀ {p id}, w'.connOf p = some id → p ≠ addr := by
    intro p id h he
    rw [he, hgone] at h
    cases h
  constructor
  · intro p c' h
    have hp : p ≠ addr := by rintro rfl; rw [haddr] at h; cases h
    exact ho.handle (hsock p hp ▸ h)
  · intro k hk
    rw [hsock _ (ho.creating_ne hk hc)]
    exact ho.free hk
  · intro p id h
    exact ho.fresh (hconn p (hne h) ▸ h)
  · intro p p' id h h'
    exact ho.inj (hconn p (hne h) ▸ h) (hconn p' (hne h') ▸ h')
  · intro id hid
    exact isSome_setShared (ho.live hid)
  · intro hr h
    show (w.halves ++ w.closing).count h = _
    rw [ho.once hr h]
    have howner : w'.owner h.socket h.rw = w.owner h.socket h.rw := by
      by_cases hp : h.socket = addr
      · -- before: both flags are set; after: no connection
        have h₁ : w.told addr h.rw = true := by
          rw [told_of_sockets hc]
          exact RwStatus.dropped_of_bothDropped hboth h.rw
        unfold owner
        rw [hp, h₁, hgone, if_pos rfl, ite_self]
      · unfold owner told
        rw [hsock _ hp, hconn _ hp]
    rw [howner]

/-- A flag does not change which connection a pair has. -/
lemma connOf_mark {half : Half} {c : Connection} (hc : w.sockets half.socket = some c)
    (hs : w'.sockets = Function.update w.sockets half.socket (some (c.marked half.rw)))
    (hcr : w'.creating = w.creating) (p : AddrPair) : w'.connOf p = w.connOf p := by
  by_cases hp : p = half.socket
  · have hself : w'.sockets half.socket = some (c.marked half.rw) := by
      rw [hs, Function.update_self]
    rw [hp, connOf_of_sockets hself, connOf_of_sockets hc, Connection.marked_socket]
  · exact connOf_update hs hcr hp

/-- The side whose flag is set has no owner any more; the others keep theirs. -/
lemma owner_mark {half : Half} {c : Connection} (hc : w.sockets half.socket = some c)
    (hs : w'.sockets = Function.update w.sockets half.socket (some (c.marked half.rw)))
    (hcr : w'.creating = w.creating) (p : AddrPair) (rw : Close) :
    w'.owner p rw = if p = half.socket ∧ rw = half.rw then none else w.owner p rw := by
  unfold owner
  rw [connOf_mark hc hs hcr]
  by_cases hp : p = half.socket
  · have hself : w'.sockets half.socket = some (c.marked half.rw) := by
      rw [hs, Function.update_self]
    rw [hp, told_of_sockets hself, told_of_sockets hc, Connection.marked_dropped]
    by_cases hrw : rw = half.rw <;> simp [hrw]
  · have htold : w'.told p rw = w.told p rw := by
      unfold told
      rw [hs, Function.update_of_ne hp]
    simp [htold, hp]

/-- A half-close message is recorded: it was the only trace of its half. -/
lemma Owned.mark (ho : w.Owned) (hrun : w.running = true) {half : Half} {rest : List Half}
    {c : Connection} {s : Shared T} {queue : DispatchQueue AddrPair Q}
    (hclosing : w.closing = half :: rest) (hc : w.sockets half.socket = some c) :
    Owned { (w.setShared c.socket s).setSocket half.socket (some (c.marked half.rw)) with
      closing := rest, queue } := by
  set w' : World T Q :=
    { (w.setShared c.socket s).setSocket half.socket (some (c.marked half.rw)) with
      closing := rest, queue } with hw'
  have hsock : w'.sockets = Function.update w.sockets half.socket (some (c.marked half.rw)) := rfl
  have hconn : ∀ p, w'.connOf p = w.connOf p := connOf_mark hc hsock rfl
  constructor
  · intro p c' h
    rw [hsock] at h
    by_cases hp : p = half.socket
    · rw [hp, Function.update_self] at h
      obtain rfl := Option.some.inj h
      rw [hp, Connection.marked_handle]
      exact ho.handle hc
    · rw [Function.update_of_ne hp] at h
      exact ho.handle h
  · intro k hk
    rw [hsock, Function.update_of_ne (ho.creating_ne hk hc)]
    exact ho.free hk
  · intro p id h
    exact ho.fresh (hconn p ▸ h)
  · intro p p' id h h'
    exact ho.inj (hconn p ▸ h) (hconn p' ▸ h')
  · intro id hid
    exact isSome_setShared (ho.live hid)
  · intro _ h
    have hmem : half ∈ w.halves ++ w.closing := by simp [hclosing]
    have hown := ho.owner_of_mem hrun hmem
    have honce := ho.once hrun h
    have hcnt : (w.halves ++ w.closing).count h
        = (w.halves ++ rest).count h + (if half = h then 1 else 0) := by
      rw [hclosing]
      simp only [List.count_append, List.count_cons, beq_iff_eq]
      omega
    rw [hcnt] at honce
    show (w.halves ++ rest).count h = _
    rw [owner_mark hc hsock rfl]
    by_cases hp : h.socket = half.socket ∧ h.rw = half.rw
    · -- the side that the message is for: the message was its half
      have heq : half = h ↔ w.owner h.socket h.rw = some h.conn := by
        rw [hp.1, hp.2, hown]
        constructor
        · rintro rfl
          rfl
        · intro he
          obtain ⟨socket, rw, conn⟩ := half
          obtain ⟨rfl, rfl⟩ := hp
          obtain rfl := Option.some.inj he
          rfl
      rw [if_pos hp, if_neg (by simp)]
      by_cases he : half = h
      · rw [if_pos he, if_pos (heq.mp he)] at honce
        omega
      · rw [if_neg he, if_neg (fun e => he (heq.mpr e))] at honce
        omega
    · have hne : half ≠ h := by
        rintro rfl
        exact hp ⟨rfl, rfl⟩
      rw [if_neg hne] at honce
      rw [if_neg hp]
      exact honce

/-! ## After the loop has stopped -/

/-- Once the loop has stopped, there is no connection, no message and no deadline. -/
def Stopped (w : World T Q) : Prop :=
  w.running = false →
    w.creating = none ∧ w.closing = [] ∧ w.polls = [] ∧ w.nextPoll = none ∧
      (∀ p, w.sockets p = none) ∧ ∀ p, w.queue.deadline p = none

lemma stopped_init (clock : Clock) : (init clock : World T Q).Stopped := by
  intro h
  cases h

lemma owned_init (clock : Clock) : (init clock : World T Q).Owned where
  handle h := by cases h
  free h := by cases h
  fresh h := by cases h
  inj h := by cases h
  live h := absurd h (Nat.not_lt_zero _)
  once _ h := by simp [init, owner, told, connOf]

/-- A connection moves from `create_syn` into its slot. -/
lemma connOf_insert {pair : AddrPair} {id : ConnId}
    (hcr : w.creating = some ⟨pair, id, true⟩) (hpair : w.sockets pair = none) (p : AddrPair) :
    connOf { w.setSocket pair (some (.new id pair)) with creating := none } p = w.connOf p := by
  by_cases hp : p = pair
  · subst hp
    simp [connOf, setSocket, Connection.new, hpair, hcr]
  · simp [connOf, setSocket, Function.update_of_ne hp, hcr, Ne.symm hp]

lemma told_insert {pair : AddrPair} {id : ConnId} (hpair : w.sockets pair = none) (p : AddrPair)
    (rw : Close) :
    told { w.setSocket pair (some (.new id pair)) with creating := none } p rw = w.told p rw := by
  by_cases hp : p = pair
  · subst hp
    cases rw <;> simp [told, setSocket, Connection.new, RwStatus.dropped, hpair]
  · simp [told, setSocket, Function.update_of_ne hp]

lemma Owned.insert (ho : w.Owned) {pair : AddrPair} {id : ConnId}
    (hcr : w.creating = some ⟨pair, id, true⟩) (hpair : w.sockets pair = none) :
    Owned { w.setSocket pair (some (.new id pair)) with creating := none } where
  handle {p c} h := by
    by_cases hp : p = pair
    · subst hp
      obtain rfl : Connection.new id p = c := by simpa [setSocket] using h
      rfl
    · exact ho.handle (by simpa [setSocket, Function.update_of_ne hp] using h)
  free h := by cases h
  fresh h := by
    rw [connOf_insert hcr hpair] at h
    exact ho.fresh h
  inj h h' := by
    rw [connOf_insert hcr hpair] at h h'
    exact ho.inj h h'
  live h := ho.live h
  once hr h := by
    have howner : owner { w.setSocket pair (some (.new id pair)) with creating := none }
        h.socket h.rw = w.owner h.socket h.rw := by
      unfold owner
      rw [connOf_insert hcr hpair, told_insert hpair]
    rw [howner]
    exact ho.once hr h

lemma Owned.stop (ho : w.Owned) (hcr : w.creating = none) :
    Owned ({ w with
      sockets := fun _ => none, queue := .new w.clock, nextPoll := none, closing := [],
      polls := [], running := false } : World T Q) where
  handle h := by cases h
  free h := nomatch hcr.symm.trans h
  fresh h := by simp [connOf, hcr] at h
  inj h := by simp [connOf, hcr] at h
  live h := ho.live h
  once h := by cases h

/-- Handing a stream over changes neither the connections nor their halves. -/
lemma connOf_handed {w' : World T Q} {pair : AddrPair} {id : ConnId}
    (hcr : w.creating = some ⟨pair, id, false⟩) (hs : w'.sockets = w.sockets)
    (hcr' : w'.creating = some ⟨pair, id, true⟩) (p : AddrPair) : w'.connOf p = w.connOf p := by
  unfold connOf
  rw [hs, hcr, hcr']

/-! ## Steps -/

variable [TcpSocket T] {wire : Wire} {e : Event}

lemma stopped_step (hst : w.Stopped) (h : Steps wire w e w') : w'.Stopped := by
  intro hrun
  -- the loop was not running before, unless the step is its return
  cases h with
  | elapse | accept | read => exact hst hrun
  | closeListener h₁ =>
    rcases h₁ with h₁ | h₁
    · obtain ⟨a, b, c⟩ := hst hrun
      refine ⟨a, ?_, c⟩
      simp [dropStreams, h₁, b]
    · rw [show w.running = false from hrun] at h₁
      cases h₁
  | write _ _ _ _ _ _ _ _ h₁ | close _ _ _ _ _ _ h₁ =>
    rcases h₁ with rfl | h₁
    · obtain ⟨a, b, c, d⟩ := hst hrun
      exact ⟨a, b, by simpa using c, d⟩
    · rw [show w.running = false from hrun] at h₁
      cases h₁
  | drop _ _ h₁ | create _ _ h₁ =>
    rw [show w.running = false from hrun] at h₁
    cases h₁
  | process _ _ _ hc =>
    rw [(hst hrun).2.2.2.2.1] at hc
    cases hc
  | dispatchKeep hn | dispatchDrop hn =>
    rw [(hst hrun).2.2.2.1] at hn
    cases hn
  | dropHalf hc =>
    rw [(hst hrun).2.1] at hc
    cases hc
  | update hp =>
    rw [(hst hrun).2.2.1] at hp
    cases hp
  | expire _ hq =>
    obtain ⟨-, ⟨t, ht, -⟩, -⟩ := DispatchQueue.poll_some hq
    rw [(hst hrun).2.2.2.2.2] at ht
    cases ht
  | handOver hc | refuse hc | insert hc =>
    rw [(hst hrun).1] at hc
    cases hc
  | stop hc => exact ⟨hc, rfl, rfl, rfl, fun _ => rfl, fun _ => rfl⟩

lemma owned_step (ho : w.Owned) (hst : w.Stopped) (h : Steps wire w e w') : w'.Owned := by
  cases h with
  | elapse | accept | update | expire =>
    exact ho.frame rfl (fun _ => rfl) (fun h => ⟨_, h, rfl⟩) rfl id id fun _ => rfl
  | closeListener =>
    exact ho.frame rfl (fun _ => rfl) (fun h => ⟨_, h, rfl⟩) rfl id id
      (count_dropStreams w w.incoming)
  | read | write | close | process | dispatchKeep =>
    exact ho.frame rfl (fun _ => rfl) (fun h => ⟨_, h, rfl⟩) rfl isSome_setShared id
      fun _ => rfl
  | drop hmem =>
    exact ho.frame rfl (fun _ => rfl) (fun h => ⟨_, h, rfl⟩) rfl id id (count_drop hmem)
  | dispatchDrop _ hc _ hd =>
    obtain ⟨hfin, -⟩ := Connection.dispatch_removed hd
    exact ho.remove hc hfin.1
  | dropHalf hclosing hc _ hd =>
    obtain ⟨rfl, -⟩ := Connection.dropHalf_cases hd
    have hrun : w.running = true := by
      by_contra hrun
      rw [(hst (by simpa using hrun)).2.1] at hclosing
      cases hclosing
    exact ho.mark hrun hclosing hc
  | create hpair hcr => exact ho.create hpair hcr
  | handOver hcr =>
    exact ho.frame rfl (connOf_handed hcr rfl rfl)
      (fun h => ⟨_, hcr, by cases h; rfl⟩) rfl id id fun _ => rfl
  | @refuse pair id hcr =>
    exact ho.frame rfl (connOf_handed hcr rfl rfl)
      (fun h => ⟨_, hcr, by cases h; rfl⟩) rfl (fun h => h) (fun h => h)
      (count_dropStreams w [id])
  | insert hcr hpair => exact ho.insert hcr hpair
  | stop hcr => exact ho.stop hcr

omit [TcpSocket T] in
/-- A pair has a connection only while the loop runs. -/
lemma Stopped.running (hst : w.Stopped) {p : AddrPair} {id : ConnId} (h : w.connOf p = some id) :
    w.running = true := by
  by_contra hrun
  obtain ⟨hcr, -, -, -, hs, -⟩ := hst (by simpa using hrun)
  simp [connOf, hcr, hs p] at h

/-- A pair keeps its connection, or has just got it. -/
lemma connOf_step (ho : w.Owned) (h : Steps wire w e w') {p : AddrPair} {id : ConnId}
    (hid : w'.connOf p = some id) :
    w.connOf p = some id ∨ (e = .create p ∧ id = w.nextConn) := by
  cases h with
  | elapse | accept | closeListener | read | write | close | drop | process | dispatchKeep
  | update | expire => exact Or.inl hid
  | @dispatchDrop addr c _ _ _ _ _ hc _ _ =>
    refine Or.inl ?_
    by_cases hpa : p = addr
    · subst hpa
      exact nomatch hid.symm.trans (ho.connOf_removed hc rfl rfl)
    · exact (hid.symm.trans (connOf_update rfl rfl hpa)).symm
  | @dropHalf half _ c c' _ _ _ _ hc _ hd =>
    refine Or.inl ?_
    obtain ⟨rfl, -⟩ := Connection.dropHalf_cases hd
    by_cases hps : p = half.socket
    · subst hps
      rw [connOf_of_sockets (c := c.marked half.rw) (Function.update_self ..)] at hid
      rw [connOf_of_sockets hc]
      exact hid
    · exact (hid.symm.trans (connOf_update rfl rfl hps)).symm
  | @create pair tcp hpair hcr _ _ =>
    by_cases hps : p = pair
    · subst hps
      refine Or.inr ⟨rfl, ?_⟩
      simp [connOf, setShared, hpair] at hid
      exact hid.symm
    · refine Or.inl ?_
      simp [connOf, setShared, Ne.symm hps] at hid
      simpa [connOf, hcr] using hid
  | handOver hcr | refuse hcr =>
    refine Or.inl (hid.symm.trans (connOf_handed hcr ?_ ?_ p)).symm <;> rfl
  | insert hcr hpair => exact Or.inl (hid.symm.trans (connOf_insert hcr hpair p)).symm
  | stop hcr => simp [connOf, hcr] at hid

omit [TcpSocket T] in
/-- A half that is alive is not marked as dropped. -/
lemma Owned.not_dropped (ho : w.Owned) (hst : w.Stopped) {p : AddrPair} {c : Connection}
    (hc : w.sockets p = some c) {half : Half} (hmem : half ∈ w.halves)
    (hid : c.socket = half.conn) : p = half.socket ∧ c.inner.dropped half.rw = false := by
  have hmem : half ∈ w.halves ++ w.closing := List.mem_append_left _ hmem
  have hrun := hst.running (connOf_of_sockets hc)
  have hp : p = half.socket :=
    ho.inj (connOf_of_sockets hc) (hid ▸ ho.connOf_of_mem hrun hmem)
  have htold := ho.told_of_mem hrun hmem
  rw [← hp, told_of_sockets hc] at htold
  exact ⟨hp, htold⟩

/-- The bookkeeping is right in every reachable world. -/
theorem Reachable.owned {clock : Clock} {w : World T Q}
    (h : Transition.Reachable (step wire) (init clock) w) : w.Owned ∧ w.Stopped :=
  Transition.Reachable.invariant (I := fun w : World T Q => w.Owned ∧ w.Stopped)
    ⟨owned_init clock, stopped_init clock⟩
    (fun hw hs =>
      ⟨owned_step hw.1 hw.2 (steps_of_step hs), stopped_step hw.2 (steps_of_step hs)⟩) h

end World

/-! ## Between two iterations of the loop -/

namespace State

open World Transition

variable {T Q : Type} [TcpSocket T] [DelayQueue AddrPair Q] {wire : Wire} {clock : Clock}
  {s : State T Q}

lemma LoopReachable.owned (h : LoopReachable wire clock s) :
    s.world.Owned ∧ s.world.Stopped := by
  obtain ⟨hist, r⟩ := h
  exact World.Reachable.owned (LoopRun.world r).reachable

lemma LoopReachable.consistent (h : LoopReachable wire clock s) : s.Consistent := by
  obtain ⟨hist, r⟩ := h
  exact LoopRun.consistent r

/-- **Invariants of the world along the loop.** What holds at the start and is kept by every
guarded step of the world holds, in a run whose events meet the guard, in every world that an
event happens in and in the last one. -/
theorem LoopRun.invariant_mem {hist : List (State T Q × Label)} {I : World T Q → Prop}
    {G : World T Q → Event → Prop} (hinit : I (.init clock))
    (hstep : ∀ {w e w'}, w.Owned → w.Stopped → I w → G w e → Steps wire w e w' → I w')
    (r : LoopRun wire clock hist s) (hG : ∀ x ∈ events wire hist, G x.1 x.2) :
    ∀ w ∈ visited (events wire hist) s.world, w.Owned ∧ w.Stopped ∧ I w := by
  intro w hw
  obtain ⟨hist', hsuf, r'⟩ := (LoopRun.world r).visited_run hw
  refine Run.invariant (I := fun w => w.Owned ∧ w.Stopped ∧ I w) (G := G)
    ⟨owned_init clock, stopped_init clock, hinit⟩ ?_ r' fun x hx => hG x (hsuf.subset hx)
  rintro w e w' ⟨ho, hst, hw⟩ hg h
  have h := steps_of_step h
  exact ⟨owned_step ho hst h, stopped_step hst h, hstep ho hst hw hg h⟩

/-- The invariant rule for the end of a run. -/
theorem LoopRun.invariant {hist : List (State T Q × Label)} {I : World T Q → Prop}
    {G : World T Q → Event → Prop} (hinit : I (.init clock))
    (hstep : ∀ {w e w'}, w.Owned → w.Stopped → I w → G w e → Steps wire w e w' → I w')
    (r : LoopRun wire clock hist s) (hG : ∀ x ∈ events wire hist, G x.1 x.2) : I s.world :=
  (LoopRun.invariant_mem hinit hstep r hG s.world List.mem_cons_self).2.2

/-- The invariant rule for reachable states, with no guard. -/
theorem LoopReachable.invariant {I : World T Q → Prop} (hinit : I (.init clock))
    (hstep : ∀ {w e w'}, w.Owned → w.Stopped → I w → Steps wire w e w' → I w')
    (h : LoopReachable wire clock s) : I s.world := by
  obtain ⟨hist, r⟩ := h
  exact LoopRun.invariant (G := fun _ _ => True) hinit
    (fun ho hst hw _ h => hstep ho hst hw h) r fun _ _ => trivial

/-- What a step of the world keeps, all later steps of the loop keep. -/
theorem LoopReachable.keeps {I : World T Q → Prop} {hist : List (State T Q × Label)}
    {s' : State T Q} (h : LoopReachable wire clock s) (hs : I s.world)
    (hstep : ∀ {w e w'}, w.Owned → w.Stopped → I w → Steps wire w e w' → I w')
    (r : Run (State.step wire) s hist s') : I s'.world := by
  induction r with
  | start => exact hs
  | @next hist x x' l r hl ih =>
    obtain ⟨hist₀, r₀⟩ := h
    have hx : LoopReachable wire clock x := ⟨_, r₀.trans r⟩
    obtain ⟨ho, hst⟩ := LoopReachable.owned hx
    have hf := (world_of_step (LoopReachable.consistent hx) hl).1
    cases he : x.event wire l with
    | none =>
      rw [he] at hf
      rw [show x'.world = x.world from hf]
      exact ih
    | some e =>
      rw [he] at hf
      exact hstep ho hst ih (steps_of_step hf)

/-- **Exact conditions along the loop.** Where a step of the world with `H` keeps a property
exactly when it meets the guard, the property holds all along a run of such events exactly when
they all meet the guard. -/
theorem LoopRun.forall_visited_iff {hist : List (State T Q × Label)} {P : World T Q → Prop}
    {G H : World T Q → Event → Prop} (hinit : P (.init clock))
    (hstep : ∀ {w e w'}, w.Owned → w.Stopped → P w → H w e → Steps wire w e w' → (P w' ↔ G w e))
    (r : LoopRun wire clock hist s) (hH : ∀ x ∈ events wire hist, H x.1 x.2) :
    (∀ x ∈ visited hist s, P x.world) ↔ ∀ x ∈ events wire hist, G x.1 x.2 := by
  -- a condition on the events is one on the steps
  have conv : ∀ F : World T Q → Event → Prop, (∀ x ∈ events wire hist, F x.1 x.2) ↔
      ∀ y ∈ hist, ∀ e, y.1.event wire y.2 = some e → F y.1.world e := by
    intro F
    constructor
    · intro h y hy e he
      exact h (y.1.world, e) (mem_events.mpr ⟨y, hy, he, rfl⟩)
    · intro h x hx
      obtain ⟨y, hy, he, hw⟩ := mem_events.mp hx
      rw [← hw]
      exact h y hy _ he
  rw [conv G]
  rw [conv H] at hH
  refine Run.forall_visited_iff
    (I := fun x : State T Q => x.Consistent ∧ x.world.Owned ∧ x.world.Stopped)
    (P := fun x => P x.world) (G := fun x l => ∀ e, x.event wire l = some e → G x.world e)
    (H := fun x l => ∀ e, x.event wire l = some e → H x.world e)
    ⟨consistent_init clock, owned_init clock, stopped_init clock⟩ hinit ?_ ?_ r hH
  · rintro x l x' ⟨hcons, ho, hst⟩ hl
    obtain ⟨hf, hcons'⟩ := world_of_step hcons hl
    refine ⟨hcons', ?_⟩
    cases he : x.event wire l with
    | none =>
      rw [he] at hf
      rw [show x'.world = x.world from hf]
      exact ⟨ho, hst⟩
    | some e =>
      rw [he] at hf
      have h := steps_of_step hf
      exact ⟨owned_step ho hst h, stopped_step hst h⟩
  · rintro x l x' ⟨hcons, ho, hst⟩ hx hHl hl
    have hf := (world_of_step hcons hl).1
    cases he : x.event wire l with
    | none =>
      rw [he] at hf
      rw [show x'.world = x.world from hf]
      simp [hx]
    | some e =>
      rw [he] at hf
      rw [hstep ho hst hx (hHl e he) (steps_of_step hf)]
      simp

omit [TcpSocket T] in
/-- With no connection being created, the owner of a side is in the pool. -/
lemma isSome_owner {w : World T Q} (hcr : w.creating = none) (p : AddrPair) (rw : Close) :
    (w.owner p rw).isSome = match w.sockets p with
      | some c => !c.inner.dropped rw
      | none => false := by
  unfold owner told connOf
  cases hs : w.sockets p with
  | none => simp [hcr]
  | some c => cases hd : c.inner.dropped rw <;> simp [hd]

omit [TcpSocket T] in
lemma sockets_of_connOf {w : World T Q} (hcr : w.creating = none) {p : AddrPair} {id : ConnId}
    (h : w.connOf p = some id) : ∃ c, w.sockets p = some c ∧ c.socket = id := by
  unfold connOf at h
  cases hs : w.sockets p with
  | none => rw [hs, hcr] at h; cases h
  | some c =>
    rw [hs] at h
    exact ⟨c, rfl, Option.some.inj h⟩

/-- A half-close message is handled at the selector only. -/
lemma select_of_dropHalf {l : Label} {half : Half}
    (he : s.event wire l = some (.dropHalf half)) (hl : s.step wire l ≠ .error .disabled) :
    s.pc = .select := by
  cases l with
  | elapse nanos => cases he
  | app a => cases he
  | unwind dev => cases he
  | turn =>
    simp only [event, turnEvent] at he
    split at he
    · cases he
    · split at he
      · obtain ⟨addr, -, he⟩ := Option.map_eq_some_iff.mp he
        cases he
      · cases he
  | poll dev =>
    by_contra hpc
    exact hl (by rw [step, poll, if_neg hpc])
  | resume =>
    simp only [event] at he
    split at he
    · split at he <;> cases he
    · cases he
    · cases he
    · cases he

omit [TcpSocket T] in
/-- The oldest half-close message is for the pooled connection that its half belongs to. -/
lemma Owned.sockets_of_closing {w : World T Q} (ho : w.Owned) (hrun : w.running = true)
    (hcr : w.creating = none) {half : Half} {rest : List Half}
    (hclosing : w.closing = half :: rest) :
    ∃ c, w.sockets half.socket = some c ∧ c.socket = half.conn :=
  sockets_of_connOf hcr (ho.connOf_of_mem hrun (by simp [hclosing]))

/-- **Every half is accounted for.** Between two iterations, a side of a pair has exactly one
half, alive or under way, if the pair is pooled and the side not marked, and else none. So a
half-close message always finds a connection, its own; a connection is never put in a slot that
is taken; and the halves of a stream belong to one entry of the pool. -/
theorem halves_accounted_for (h : LoopReachable wire clock s) :
    (s.BetweenIterations → ∀ (p : AddrPair) (rw : Close),
      s.world.halves.countP (ofSide p rw) + s.world.closing.countP (ofSide p rw)
        = match s.world.sockets p with
          | some c => if c.inner.dropped rw then 0 else 1
          | none => 0) ∧
    (∀ l : Label, s.step wire l ≠ .error (.panic .dropHalfOfUnknown)) ∧
    (∀ l : Label, s.step wire l ≠ .error (.panic .insertTwice)) ∧
    (s.BetweenIterations → ∀ half ∈ s.world.halves,
      ∃! p, ∃ c, s.world.sockets p = some c ∧ c.socket = half.conn) ∧
    (∀ (l : Label) (s' : State T Q) (half : Half), s.step wire l = .ok s' →
      s.event wire l = some (.dropHalf half) →
      ∃ c, s.world.sockets half.socket = some c ∧ c.socket = half.conn) := by
  obtain ⟨ho, -⟩ := LoopReachable.owned h
  have hcons := LoopReachable.consistent h
  refine ⟨?_, ?_, ?_, ?_, ?_⟩
  · intro hpc p rw
    obtain ⟨hcr, hrun⟩ := hcons.idle hpc
    rw [← List.countP_append, ho.countP_ofSide hrun, isSome_owner hcr]
    cases hs : s.world.sockets p with
    | none => rfl
    | some c => cases hd : c.inner.dropped rw <;> simp [hd]
  · intro l hl
    obtain ⟨e, he, hstep⟩ := panic_event rfl hl
    cases panics_of_step hstep with
    | dropHalf hclosing hnone =>
      have hpc := select_of_dropHalf he (by simp [hl])
      obtain ⟨hcr, hrun⟩ := hcons.idle (Or.inr hpc)
      obtain ⟨c, hc, -⟩ := Owned.sockets_of_closing ho hrun hcr hclosing
      rw [hnone] at hc
      cases hc
  · intro l hl
    obtain ⟨e, he, hstep⟩ := panic_event rfl hl
    cases panics_of_step hstep with
    | insert hcreating hpair =>
      rw [ho.free hcreating] at hpair
      cases hpair
  · intro hpc half hmem
    obtain ⟨hcr, hrun⟩ := hcons.idle hpc
    have hconn := ho.connOf_of_mem hrun (List.mem_append_left _ hmem)
    refine ⟨half.socket, sockets_of_connOf hcr hconn, ?_⟩
    rintro p ⟨c, hc, hid⟩
    exact ho.inj (by rw [connOf_of_sockets hc, hid]) hconn
  · intro l s' half hl he
    have hpc := select_of_dropHalf he (by simp [hl])
    obtain ⟨hcr, hrun⟩ := hcons.idle (Or.inr hpc)
    have hfollows := (world_of_step hcons hl).1
    rw [he] at hfollows
    generalize s'.world = w' at hfollows
    cases steps_of_step hfollows with
    | dropHalf hclosing => exact Owned.sockets_of_closing ho hrun hcr hclosing

/-- A run in which the application drops the reader and keeps the writer: one message is under
way and one half alive. -/
theorem halves_accounted_for_handshake :
    ∃ s : Reference.Loop, LoopReachable Reference.wire Reference.clock s ∧
      s.world.halves = [Reference.writer] ∧ s.world.closing = [Reference.reader] ∧
      s.world.halves.countP (ofSide Reference.pair .read)
        + s.world.closing.countP (ofSide Reference.pair .read) = 1 := by
  obtain ⟨hist, s, r, hs⟩ := Reference.run_of_check
    (Reference.handshake ++ [.app (.drop Reference.reader), .turn])
    (fun _ s => decide (s.world.halves = [Reference.writer]) &&
      decide (s.world.closing = [Reference.reader]) && decide (s.pc = .select) &&
      (s.world.sockets Reference.pair).any fun c => !c.inner.readerDropped) (by decide +kernel)
  simp only [Bool.and_eq_true, decide_eq_true_eq, Option.any_eq_true, Bool.not_eq_true'] at hs
  obtain ⟨⟨⟨hhalves, hclosing⟩, hpc⟩, c, hc, hflag⟩ := hs
  have hcount := (halves_accounted_for r.reachable).1 (Or.inr hpc) Reference.pair .read
  refine ⟨s, r.reachable, hhalves, hclosing, ?_⟩
  rw [hcount, hc]
  simp [RwStatus.dropped, hflag]

end State
end Ustunet
