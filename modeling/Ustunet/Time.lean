import Mathlib.Order.GaloisConnection.Basic
import Mathlib.Tactic.NormNum
import Mathlib.Tactic.Linarith

/-!
# The two clocks

`std::time::Instant` is a number of nanoseconds, smoltcp's `Instant` a signed number of
milliseconds since the start of the loop. `Clock` converts between them.

The conversions truncate and cast. `timestamp` and `resolve` wrap, as the casts and a release
build do; `checkedTimestamp` and `checkedResolve` are the same with every operation checked. As
long as the milliseconds fit in an `i64`, nothing wraps, and the two are a Galois connection:
`le_timestamp_iff`.
-/

namespace Ustunet

/-- `std::time::Instant`: nanoseconds of the monotonic clock. -/
abbrev Instant := ℕ

/-- `as i64` of an unsigned 64-bit value, and the wrap of `i64` arithmetic. -/
def asI64 (n : ℤ) : ℤ := Int.bmod n (2 ^ 64)

/-- `as u64` of a signed 64-bit value. -/
def asU64 (z : ℤ) : ℕ := (z % 2 ^ 64).toNat

lemma asI64_eq {n : ℤ} (h₀ : 0 ≤ n) (h : n < 2 ^ 63) : asI64 n = n := by
  unfold asI64
  exact Int.bmod_eq_of_le (by omega) (by omega)

lemma asU64_eq {z : ℤ} (h₀ : 0 ≤ z) (h : z < 2 ^ 64) : asU64 z = z.toNat := by
  unfold asU64
  rw [Int.emod_eq_of_lt h₀ h]

/-- A value that fits in a `u64`. -/
def checkU64 (z : ℤ) : Option ℕ := if 0 ≤ z ∧ z < 2 ^ 64 then some z.toNat else none

/-- A value that fits in an `i64`. -/
def checkI64 (z : ℤ) : Option ℤ := if -2 ^ 63 ≤ z ∧ z < 2 ^ 63 then some z else none

lemma checkU64_eq {z : ℤ} (h₀ : 0 ≤ z) (h : z < 2 ^ 64) : checkU64 z = some z.toNat :=
  if_pos ⟨h₀, h⟩

lemma checkI64_eq {z : ℤ} (h₀ : 0 ≤ z) (h : z < 2 ^ 63) : checkI64 z = some z :=
  if_pos ⟨le_trans (by norm_num) h₀, h⟩

/-- `Instant::checked_duration_since`, in nanoseconds. -/
def checkedDurationSince (instant earlier : Instant) : Option ℕ :=
  if earlier ≤ instant then some (instant - earlier) else none

/-- `Instant::checked_add` of a number of nanoseconds, where `last` is the last instant that the
platform can represent. -/
def checkedAdd (last instant : Instant) (nanos : ℕ) : Option Instant :=
  if instant + nanos ≤ last then some (instant + nanos) else none

/-- `smoltcp::time::Instant`, a wrapper around an `i64`. -/
structure SmolInstant where
  millis : ℤ
  range : -2 ^ 63 ≤ millis ∧ millis < 2 ^ 63
deriving DecidableEq

def SmolInstant.fromMillis (n : ℤ) : SmolInstant :=
  ⟨asI64 n, by
    have h₁ : -((2 ^ 64 : ℕ) : ℤ) / 2 ≤ Int.bmod n (2 ^ 64) := Int.le_bmod (by norm_num)
    have h₂ : Int.bmod n (2 ^ 64) < (((2 ^ 64 : ℕ) : ℤ) + 1) / 2 := Int.bmod_lt (by norm_num)
    norm_num at h₁ h₂
    unfold asI64
    norm_num
    omega⟩

structure Clock where
  startTime : Instant
deriving DecidableEq, Repr

namespace Clock

/-- The instant of `PollAt::Now`: it is in the past for the whole life of the loop. -/
def origin (c : Clock) : Instant := c.startTime

/-- Milliseconds since `start_time`, as smoltcp wants them. `now` is what
`start_time.elapsed()` reads; the seconds are multiplied in `u64`, the sum is in `i64`. -/
def timestamp (c : Clock) (now : Instant) : SmolInstant :=
  let elapsed : ℕ := now - c.startTime
  let secs : ℕ := elapsed / 10 ^ 9
  let subsecMillis : ℕ := elapsed % 10 ^ 9 / 10 ^ 6
  .fromMillis (asI64 ((secs * 1000 % 2 ^ 64 : ℕ) : ℤ) + (subsecMillis : ℤ))

/-- Back from smoltcp's milliseconds to an instant of the monotonic clock. -/
def resolve (c : Clock) (timestamp : SmolInstant) : Instant :=
  c.startTime + asU64 timestamp.millis * 10 ^ 6

/-- `timestamp` with every operation checked: `none` where `now` is before `start_time`, the
product or the sum overflows, or the cast to `i64` changes the value. -/
def checkedTimestamp (c : Clock) (now : Instant) : Option SmolInstant := do
  let elapsed ← checkedDurationSince now c.startTime
  let product ← checkU64 (elapsed / 10 ^ 9 * 1000 : ℕ)
  let secsMillis ← checkI64 product
  let millis ← checkI64 (secsMillis + (elapsed % 10 ^ 9 / 10 ^ 6 : ℕ))
  return .fromMillis millis

/-- `resolve` with every operation checked: `none` where the cast to `u64` changes the value, or
the sum is not an instant. -/
def checkedResolve (c : Clock) (last : Instant) (timestamp : SmolInstant) : Option Instant := do
  let millis ← checkU64 timestamp.millis
  checkedAdd last c.startTime (millis * 10 ^ 6)

/-- No resolved deadline lies before the instant that stands for `PollAt::Now`. -/
lemma origin_le_resolve (c : Clock) (t : SmolInstant) : c.origin ≤ c.resolve t :=
  Nat.le_add_right _ _

/-- The clock has not run for so long that the milliseconds wrap. -/
def InTime (c : Clock) (now : Instant) : Prop := (now - c.startTime) / 10 ^ 6 < 2 ^ 63

/-- The seconds that have elapsed, in milliseconds, and 999 milliseconds more fit in an `i64`. -/
def Fits (c : Clock) (now : Instant) : Prop :=
  (now - c.startTime) / 10 ^ 9 * 1000 + 999 < 2 ^ 63

variable {c : Clock} {now now' : Instant} {t : SmolInstant}

lemma Fits.inTime (h : c.Fits now) : c.InTime now := by
  change @LT.lt ℕ _ ((now - c.startTime) / 10 ^ 9 * 1000 + 999) (2 ^ 63) at h
  show @LT.lt ℕ _ ((now - c.startTime) / 10 ^ 6) (2 ^ 63)
  omega

lemma InTime.of_le (h' : c.InTime now') (h : now ≤ now') : c.InTime now :=
  lt_of_le_of_lt (Nat.div_le_div_right (Nat.sub_le_sub_right h _)) h'

lemma timestamp_millis (h : c.InTime now) :
    (c.timestamp now).millis = ((now - c.startTime) / 10 ^ 6 : ℕ) := by
  unfold timestamp SmolInstant.fromMillis
  dsimp only
  change @LT.lt ℕ _ ((now - c.startTime) / 10 ^ 6) (2 ^ 63) at h
  have hsecs : (now - c.startTime) / 10 ^ 9 * 1000 % 2 ^ 64
      = (now - c.startTime) / 10 ^ 9 * 1000 := Nat.mod_eq_of_lt (by omega)
  have hin : asI64 (((now - c.startTime) / 10 ^ 9 * 1000 : ℕ) : ℤ)
      = ((now - c.startTime) / 10 ^ 9 * 1000 : ℕ) := asI64_eq (by omega) (by omega)
  rw [hsecs, hin, asI64_eq (by omega) (by omega)]
  omega

lemma resolve_eq (h₀ : 0 ≤ t.millis) :
    c.resolve t = c.startTime + t.millis.toNat * 10 ^ 6 := by
  have hlt : t.millis < 2 ^ 64 := lt_trans t.range.2 (by norm_num)
  rw [resolve, asU64_eq h₀ hlt]

/-! ## Nothing overflows -/

lemma checkedTimestamp_eq (hstart : c.startTime ≤ now) (h : c.InTime now) :
    c.checkedTimestamp now = some (c.timestamp now) := by
  change @LT.lt ℕ _ ((now - c.startTime) / 10 ^ 6) (2 ^ 63) at h
  have hmod : (now - c.startTime) / 10 ^ 9 * 1000 % 2 ^ 64
      = (now - c.startTime) / 10 ^ 9 * 1000 := Nat.mod_eq_of_lt (by omega)
  have hcast : asI64 (((now - c.startTime) / 10 ^ 9 * 1000 : ℕ) : ℤ)
      = ((now - c.startTime) / 10 ^ 9 * 1000 : ℕ) := asI64_eq (by omega) (by omega)
  have hproduct := checkU64_eq (z := ((now - c.startTime) / 10 ^ 9 * 1000 : ℕ))
    (by omega) (by omega)
  rw [Int.toNat_natCast] at hproduct
  rw [timestamp, hmod, hcast, checkedTimestamp]
  refine Option.bind_eq_some_iff.mpr ⟨_, if_pos hstart, ?_⟩
  refine Option.bind_eq_some_iff.mpr ⟨_, hproduct, ?_⟩
  refine Option.bind_eq_some_iff.mpr ⟨_, checkI64_eq (by omega) (by omega), ?_⟩
  exact Option.bind_eq_some_iff.mpr ⟨_, checkI64_eq (by omega) (by omega), rfl⟩

lemma checkedResolve_eq {last : Instant} (h₀ : 0 ≤ t.millis)
    (hlast : c.startTime + t.millis.toNat * 10 ^ 6 ≤ last) :
    c.checkedResolve last t = some (c.resolve t) := by
  have hlt : t.millis < 2 ^ 64 := lt_trans t.range.2 (by norm_num)
  rw [resolve_eq h₀, checkedResolve]
  exact Option.bind_eq_some_iff.mpr ⟨_, checkU64_eq h₀ hlt, if_pos hlast⟩

/-! ## The two conversions -/

/-- Milliseconds and nanoseconds since `start_time`. -/
lemma gc_millis : GaloisConnection (fun n : ℕ => n * 10 ^ 6) fun n => n / 10 ^ 6 :=
  Nat.galoisConnection_mul_div (by norm_num)

lemma timestamp_nonneg (h : c.InTime now) : 0 ≤ (c.timestamp now).millis := by
  rw [timestamp_millis h]
  exact Int.natCast_nonneg _

/-- **The timestamp has reached a time exactly when its instant has come.** -/
theorem le_timestamp_iff (hstart : c.startTime ≤ now) (h : c.InTime now) (h₀ : 0 ≤ t.millis) :
    t.millis ≤ (c.timestamp now).millis ↔ c.resolve t ≤ now := by
  rw [timestamp_millis h, resolve_eq h₀, ← Int.toNat_le, ← gc_millis _ _]
  exact (Nat.le_sub_iff_add_le' hstart)

lemma timestamp_mono (h : now ≤ now') (h' : c.InTime now') :
    (c.timestamp now).millis ≤ (c.timestamp now').millis := by
  have hdiv : (now - c.startTime) / 10 ^ 6 ≤ (now' - c.startTime) / 10 ^ 6 :=
    gc_millis.monotone_u (Nat.sub_le_sub_right h _)
  rw [timestamp_millis (lt_of_le_of_lt hdiv h'), timestamp_millis h']
  exact_mod_cast hdiv

/-- A time whose instant has come is not after the timestamp of the loop. -/
lemma millis_le_timestamp (h : c.InTime now) (ht : c.resolve t ≤ now) :
    t.millis ≤ (c.timestamp now).millis := by
  by_cases h₀ : 0 ≤ t.millis
  · have hstart : c.startTime ≤ now := (c.origin_le_resolve t).trans ht
    exact (le_timestamp_iff hstart h h₀).mpr ht
  · exact (not_le.mp h₀).le.trans (timestamp_nonneg h)

/-- The instant of the timestamp has come. -/
lemma resolve_timestamp_le (hstart : c.startTime ≤ now) (h : c.InTime now) :
    c.resolve (c.timestamp now) ≤ now :=
  (le_timestamp_iff hstart h (timestamp_nonneg h)).mp le_rfl

/-- The timestamp loses less than a millisecond. -/
lemma lt_resolve_timestamp (h : c.InTime now) :
    now < c.resolve (c.timestamp now) + 10 ^ 6 := by
  rw [resolve_eq (timestamp_nonneg h), timestamp_millis h, Int.toNat_natCast]
  show @LT.lt ℕ _ now (c.startTime + (now - c.startTime) / 10 ^ 6 * 10 ^ 6 + 10 ^ 6)
  omega

end Clock

end Ustunet
