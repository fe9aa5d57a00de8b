import Ustunet.Scheduling

/-!
# A deadline is never early

smoltcp counts milliseconds, the queue waits for instants, and the two clocks are converted into
each other. A connection that asked to be polled at `PollAt::Time(t)` must not be dispatched with
a timestamp before `t`: the socket would find nothing due.

`SetWith` follows an entry of the queue from the `send` that set it to the end of its deadline.
`deadline_never_early` says that the timestamp of each dispatch has reached the time that the
entry was set with.
-/

namespace Ustunet
namespace World

open DispatchQueue Transition

variable {T Q : Type} [DelayQueue AddrPair Q]

/-! ## What an entry was set with -/

/-- At the end of a history, the entry of the pair is the one that a `send` of `p` has set: no
step after it has changed the entry. -/
inductive SetWith (addr : AddrPair) (p : PollAt) : List (World T Q × Event) → World T Q → Prop
  | send {hist : List (World T Q × Event)} {w w' : World T Q} {e : Event} (hp : p ≠ .ingress)
      (hq : w'.queue = w.queue.send addr p) : SetWith addr p ((w, e) :: hist) w'
  | keep {hist : List (World T Q × Event)} {w w' : World T Q} {e : Event}
      (h : SetWith addr p hist w) (hq : w'.queue.deadline addr = w.queue.deadline addr) :
      SetWith addr p ((w, e) :: hist) w'

variable [TcpSocket T] {wire : Wire} {clock : Clock} {hist : List (World T Q × Event)}
  {w w' : World T Q} {e : Event} {addr : AddrPair}

lemma clocked_of_run (r : Run (step wire) (init clock) hist w) : Clocked clock w :=
  r.reachable.invariant (clocked_init clock) fun hw h => clocked_step hw (steps_of_step h)

/-- The deadline of an entry is the instant of what it was set with. -/
lemma SetWith.deadline {p : PollAt} (h : SetWith addr p hist w)
    (r : Run (step wire) (init clock) hist w) : w.queue.deadline addr = instant clock p := by
  induction h with
  | send hp hq =>
    cases r with
    | next r hs =>
      have hclock := (clocked_of_run r).2.1
      obtain ⟨i, hi⟩ := Option.isSome_iff_exists.mp ((isSome_instant clock p).mpr hp)
      rw [hq, deadline_send, if_pos rfl, hclock, hi, Option.some_or]
  | keep h hq ih =>
    cases r with
    | next r hs => rw [hq, ih r]

/-- Every entry of the queue was set with something. -/
lemma exists_setWith (r : Run (step wire) (init clock) hist w)
    (h : (w.queue.deadline addr).isSome = true) : ∃ p, SetWith addr p hist w := by
  induction r with
  | start => cases h
  | next r hs ih =>
    rcases (steps_of_step hs).entry_cases addr with hq | hq | ⟨p, hp, hq⟩
    · rw [hq] at h
      obtain ⟨p, hset⟩ := ih h
      exact ⟨p, .keep hset hq⟩
    · rw [hq] at h
      cases h
    · exact ⟨p, .send hp hq⟩

/-! ## From the end of a deadline to the dispatch -/

lemma Steps.now_le (h : Steps wire w e w') : w.now ≤ w'.now := by
  cases h with
  | elapse nanos => exact Nat.le_add_right w.now nanos
  | _ => exact le_rfl

/-- Only the end of a deadline puts a pair in `next_poll`. -/
lemma Steps.nextPoll_cases (h : Steps wire w e w') (hn : w'.nextPoll = some addr) :
    e = .expire addr ∨ (w.nextPoll = some addr ∧ ∀ a, e ≠ .expire a) := by
  cases h with
  | expire hnext hq =>
    obtain rfl := Option.some.inj hn
    exact Or.inl rfl
  | dispatchKeep => cases hn
  | dispatchDrop => cases hn
  | stop => cases hn
  | _ => exact Or.inr ⟨hn, fun _ => nofun⟩

/-- The last deadline that has passed in a history is that of the pair: `w` is the world in which
it did, and `before` what came before. -/
def LastExpiry (hist : List (World T Q × Event)) (addr : AddrPair)
    (before : List (World T Q × Event)) (w : World T Q) : Prop :=
  ∃ later, hist = later ++ (w, .expire addr) :: before ∧ ∀ x ∈ later, ∀ a, x.2 ≠ .expire a

omit [TcpSocket T] in
/-- The deadline that ends right before a dispatch is the last that has passed. -/
lemma eq_of_lastExpiry {earlier before : List (World T Q × Event)} {w₀ : World T Q}
    (h : LastExpiry ((w, .expire addr) :: earlier) addr before w₀) :
    w₀ = w ∧ before = earlier := by
  obtain ⟨later, heq, hno⟩ := h
  cases later with
  | nil =>
    cases heq
    exact ⟨rfl, rfl⟩
  | cons x later =>
    cases heq
    exact absurd rfl (hno _ List.mem_cons_self addr)

/-- A pair in `next_poll` has come there from the queue, when its deadline had passed. -/
lemma exists_lastExpiry (r : Run (step wire) (init clock) hist w)
    (hn : w.nextPoll = some addr) :
    ∃ before w₀, LastExpiry hist addr before w₀ ∧ w₀.now ≤ w.now := by
  induction r with
  | start => cases hn
  | @next hist w w' e r hs ih =>
    have hsteps := steps_of_step hs
    rcases hsteps.nextPoll_cases hn with rfl | ⟨hn₀, hne⟩
    · exact ⟨hist, w, ⟨[], rfl, fun _ h => nomatch h⟩, hsteps.now_le⟩
    · obtain ⟨before, w₀, ⟨later, rfl, hlast⟩, hle⟩ := ih hn₀
      refine ⟨before, w₀, ⟨(w, e) :: later, rfl, ?_⟩, hle.trans hsteps.now_le⟩
      exact List.forall_mem_cons.mpr ⟨hne, hlast⟩

/-- The deadline that ends has passed. -/
lemma deadline_of_lastExpiry {before : List (World T Q × Event)} {w₀ : World T Q}
    (r : Run (step wire) (init clock) hist w) (h : LastExpiry hist addr before w₀) :
    Run (step wire) (init clock) before w₀ ∧
      ∃ d, w₀.queue.deadline addr = some d ∧ d ≤ w₀.now := by
  obtain ⟨later, rfl, -⟩ := h
  obtain ⟨r₀, w₁, hs⟩ := r.split
  cases steps_of_step hs with
  | expire hnext hq => exact ⟨r₀, (poll_some hq).2.1⟩

/-- **The timestamp reaches the time of the entry.** While a pair is in `next_poll`, its entry
has expired, and the timestamp has reached the time that the entry was set with. -/
theorem timestamp_reached (r : Run (step wire) (init clock) hist w)
    (hn : w.nextPoll = some addr) (hin : clock.InTime w.now) :
    w.clock.checkedTimestamp w.now = some (w.clock.timestamp w.now) ∧
      ∃ before w₀, LastExpiry hist addr before w₀ ∧ (∃ p, SetWith addr p before w₀) ∧
        ∀ t, SetWith addr (.time t) before w₀ →
          t.millis ≤ (w.clock.timestamp w.now).millis := by
  obtain ⟨before, w₀, hlast, hle⟩ := exists_lastExpiry r hn
  obtain ⟨r₀, d, hd, hdle⟩ := deadline_of_lastExpiry r hlast
  have hstart : clock.startTime ≤ w.now :=
    ((clocked_of_run r₀).2.2 addr d hd).trans (hdle.trans hle)
  rw [(clocked_of_run r).1]
  refine ⟨Clock.checkedTimestamp_eq hstart hin, before, w₀, hlast,
    exists_setWith r₀ (by rw [hd]; rfl), fun t ht => ?_⟩
  have hres : some d = some (clock.resolve t) := hd.symm.trans (ht.deadline r₀)
  obtain rfl := Option.some.inj hres
  exact Clock.millis_le_timestamp hin (hdle.trans hle)

end World

/-! ## Runs of the loop -/

namespace State

open World DispatchQueue Transition

variable {T Q : Type} [TcpSocket T] [DelayQueue AddrPair Q]

/-- **A deadline is never early in the other clock.** Of all instants at which the milliseconds
fit in an `i64`: nothing overflows; the timestamp is monotone, and loses less than a millisecond;
and it has reached a time exactly when the instant of that time has come. So, in every run, the
timestamp that a dispatch passes on has reached the time that the entry of the pair was set with,
when its deadline passed. -/
theorem deadline_never_early (wire : Wire) (clock : Clock) :
    (∀ now, clock.startTime ≤ now → clock.Fits now →
      clock.checkedTimestamp now = some (clock.timestamp now) ∧
      (∀ earlier, clock.startTime ≤ earlier → earlier ≤ now →
        (clock.timestamp earlier).millis ≤ (clock.timestamp now).millis) ∧
      clock.resolve (clock.timestamp now) ≤ now ∧
      now < clock.resolve (clock.timestamp now) + 10 ^ 6 ∧
      ∀ (last : Instant) (t : SmolInstant), 0 ≤ t.millis →
        clock.startTime + t.millis.toNat * 10 ^ 6 ≤ last →
        clock.checkedResolve last t = some (clock.resolve t) ∧
        (t.millis ≤ (clock.timestamp now).millis ↔ clock.resolve t ≤ now)) ∧
    ∀ (hist : List (State T Q × Label)) (s : State T Q), LoopRun wire clock hist s →
      ∀ (after earlier : List (World T Q × Event)) (w : World T Q) (addr : AddrPair),
        events wire hist = after ++ (w, .dispatch addr) :: earlier → clock.Fits w.now →
        w.clock.checkedTimestamp w.now = some (w.clock.timestamp w.now) ∧
        ∃ before w₀, LastExpiry earlier addr before w₀ ∧ (∃ p, SetWith addr p before w₀) ∧
          ∀ t, SetWith addr (.time t) before w₀ →
            t.millis ≤ (w.clock.timestamp w.now).millis := by
  constructor
  · intro now hstart hfits
    have hin := hfits.inTime
    refine ⟨Clock.checkedTimestamp_eq hstart hin, fun earlier _ hle => Clock.timestamp_mono hle hin,
      Clock.resolve_timestamp_le hstart hin, Clock.lt_resolve_timestamp hin, ?_⟩
    intro last t h₀ hlast
    exact ⟨Clock.checkedResolve_eq h₀ hlast, Clock.le_timestamp_iff hstart hin h₀⟩
  · intro hist s r after earlier w addr hev hfits
    have hrun := LoopRun.world r
    rw [hev] at hrun
    obtain ⟨hbefore, w', hs⟩ := hrun.split
    exact timestamp_reached hbefore (steps_of_step hs).dispatch_next hfits.inTime

/-- The SYN-ACK is sent at 0 ms and again, by a timer for 700 ms, 700.3 ms after the start. -/
theorem deadline_never_early_retransmission :
    ∃ (hist : List (Reference.Loop × Label)) (s : Reference.Loop)
      (earlier before : List (World Reference.Socket (Reference.Queue AddrPair) × Event))
      (w w₀ : World Reference.Socket (Reference.Queue AddrPair)) (t : SmolInstant),
      LoopRun Reference.wire Reference.clock hist s ∧
      events Reference.wire hist = (w, .dispatch Reference.pair) :: earlier ∧
      LastExpiry earlier Reference.pair before w₀ ∧
      SetWith Reference.pair (.time t) before w₀ ∧ t.millis = 700 ∧ w.now = 700300000 ∧
      t.millis ≤ (w.clock.timestamp w.now).millis ∧
      (t.millis ≤ (Reference.clock.timestamp w.now).millis ↔
        Reference.clock.resolve t ≤ w.now) := by
  obtain ⟨hist, s, r, hs⟩ := Reference.run_of_check Reference.retransmission
    (fun hist _ => ((events Reference.wire hist)[0]?.any fun x =>
        x.2 == .dispatch Reference.pair && x.1.now == 700300000) &&
      (events Reference.wire hist)[1]?.any fun x =>
        x.2 == .expire Reference.pair &&
          x.1.queue.deadline Reference.pair == some 700000000) (by decide +kernel)
  simp only [Bool.and_eq_true, Option.any_eq_true, beq_iff_eq] at hs
  obtain ⟨⟨⟨w, e⟩, hw, rfl, hnow⟩, ⟨w₁, e₁⟩, hw₁, rfl, hd⟩ := hs
  obtain ⟨earlier, hev⟩ : ∃ earlier, events Reference.wire hist
      = (w, .dispatch Reference.pair) :: (w₁, .expire Reference.pair) :: earlier := by
    generalize events Reference.wire hist = l at hw hw₁
    rcases l with _ | ⟨x, _ | ⟨y, l⟩⟩
    · cases hw
    · cases hw₁
    · cases hw
      cases hw₁
      exact ⟨l, rfl⟩
  have hfits : Reference.clock.Fits w.now := by
    rw [hnow]
    show @LT.lt ℕ _ _ _
    decide
  obtain ⟨hclock, hruns⟩ := @deadline_never_early Reference.Socket (Reference.Queue AddrPair) _ _
    Reference.wire Reference.clock
  obtain ⟨-, before, w₀, hlast, ⟨p, hset⟩, hreached⟩ := hruns hist s r [] _ w _ hev hfits
  obtain ⟨rfl, rfl⟩ := eq_of_lastExpiry hlast
  -- the deadline that ended, 700 ms, is the instant of what the entry was set with
  have hp : w₀.queue.deadline Reference.pair = instant Reference.clock p := by
    have hrun := LoopRun.world r
    rw [hev] at hrun
    cases hrun with
    | next hrun _ =>
      cases hrun with
      | next hrun _ => exact hset.deadline hrun
  rw [hd] at hp
  cases p with
  | now => cases hp
  | ingress => cases hp
  | time t =>
    have hmillis : t.millis = 700 := by
      have hnanos : 700000000 = 0 + asU64 t.millis * 10 ^ 6 := Option.some.inj hp
      obtain ⟨hlo, hhi⟩ := t.range
      unfold asU64 at hnanos
      omega
    refine ⟨hist, s, _, _, w, _, t, r, hev, hlast, hset, hmillis, hnow, hreached t hset, ?_⟩
    obtain ⟨-, -, -, -, hiff⟩ := hclock w.now (Nat.zero_le _) hfits
    exact (hiff 700000000 t (by omega) (by rw [hmillis]; decide)).2

end State
end Ustunet
