import Mathlib.Order.Defs.LinearOrder
import Mathlib.Order.Lattice
import Redeploy.Duration
import Redeploy.Proofs.Rounding

/-
  Lengths of time and what doubles keep of them.

  Key definitions include:
    * `Duration.value`
    * `Duration.kept`

  Main results:
    * `Duration.abs_seconds_sub_le`
    * `Duration.abs_seconds_sub_le_mul`
    * `Duration.seconds_mono`
    * `Duration.kept_of_lt`
    * `Duration.kept_mono`
    * `Duration.kept_kept`
    * `Duration.abs_nearestDouble_mul_sub_le`
    * `Duration.value_le_nearestDouble_mul`

  As a double, a duration is off by half a last place, and by
  a little more for the rounding of its fraction.  Below 2^23
  seconds that is less than half a nanosecond, so the way to
  doubles and back is the identity there.  It may be another
  duration elsewhere, but one that the way leaves as it is.
-/

------------------------------------------------------------
-- Order
------------------------------------------------------------

namespace Redeploy

namespace Duration

instance : LinearOrder Duration where
  le_refl a := Nat.le_refl a.nanos
  le_trans a b c := Nat.le_trans (n := a.nanos)
  le_antisymm a b hLe hGe :=
    Duration.ext (Nat.le_antisymm hLe hGe)
  le_total a b := Nat.le_total a.nanos b.nanos
  toDecidableLE := inferInstance

end Duration

end Redeploy

------------------------------------------------------------
-- Values
------------------------------------------------------------

namespace Redeploy

namespace Duration

/- The number of seconds, as it is. -/
def value
    (d : Duration) : ℚ :=
  d.nanos / nanosPerSec

/- The fraction of a second, as it is. -/
def subsec
    (d : Duration) : ℚ :=
  d.subsecNanos / nanosPerSec

variable {d d' : Duration}

theorem value_eq
    (d : Duration) :
    d.value = d.secs + d.subsec := by
  have hNanos :
      d.nanos = d.secs * nanosPerSec + d.subsecNanos :=
    (Nat.div_add_mod' d.nanos nanosPerSec).symm
  rw [value, hNanos, subsec]
  push_cast
  field_simp

theorem value_mul
    (d : Duration) :
    d.value * nanosPerSec = d.nanos := by
  rw [value]
  field_simp

theorem value_nonneg
    (d : Duration) :
    0 ≤ d.value := by
  unfold value
  positivity

/- The shortest duration but none is a nanosecond. -/
theorem le_value
    (h : 0 < d.nanos) :
    2 ^ (-30 : ℤ) ≤ d.value := by
  have hCast : (1 : ℚ) ≤ d.nanos := by
    exact_mod_cast h
  rw [value, le_div_iff₀ (by norm_num)]
  refine le_trans ?_ hCast
  norm_num

theorem subsec_nonneg
    (d : Duration) :
    0 ≤ d.subsec := by
  unfold subsec
  positivity

/- A fraction ends a nanosecond before a second. -/
theorem subsec_le
    (d : Duration) :
    d.subsec ≤ 1 - 1 / nanosPerSec := by
  have hLess : d.subsecNanos + 1 ≤ nanosPerSec :=
    Nat.mod_lt d.nanos (by decide)
  have hCast : (d.subsecNanos : ℚ) + 1 ≤ nanosPerSec := by
    exact_mod_cast hLess
  rw [subsec, div_le_iff₀ (by norm_num)]
  norm_num at hCast ⊢
  linarith

theorem subsec_lt_one
    (d : Duration) :
    d.subsec < 1 := by
  have hLe := d.subsec_le
  norm_num at hLe
  linarith

theorem secs_lt
    (d : Duration) :
    d.secs < 2 ^ 64 :=
  Nat.div_lt_of_lt_mul (by
    have hLt := d.nanos_lt
    rw [Nat.mul_comm]
    exact hLt)

end Duration

end Redeploy

------------------------------------------------------------
-- Seconds
------------------------------------------------------------

namespace Redeploy

namespace Duration

variable {d d' : Duration}

/- The fraction of a second as a double. -/
def subsecDouble
    (d : Duration) : ℚ :=
  nearestDouble d.subsec

theorem seconds_eq
    (d : Duration) :
    d.seconds =
      nearestDouble (nearestDouble d.secs + d.subsecDouble) :=
  rfl

theorem subsecDouble_nonneg
    (d : Duration) :
    0 ≤ d.subsecDouble :=
  (isDouble_nearestDouble d.subsec_nonneg).nonneg

theorem abs_subsecDouble_sub_le
    (d : Duration) :
    |d.subsecDouble - d.subsec| ≤ 2 ^ (-54 : ℤ) := by
  have hError :=
    abs_nearestDouble_sub_le_of_lt d.subsec_nonneg
      (show d.subsec < 2 ^ (0 : ℤ) by
        rw [zpow_zero]
        exact d.subsec_lt_one)
      (by norm_num)
  exact hError

theorem subsecDouble_lt_one
    (d : Duration) :
    d.subsecDouble < 1 := by
  have hError := abs_le.mp d.abs_subsecDouble_sub_le
  have hLe := d.subsec_le
  norm_num at hError hLe
  linarith

theorem isDouble_secs
    (d : Duration) :
    IsDouble (nearestDouble d.secs) :=
  isDouble_nearestDouble (Nat.cast_nonneg _)

theorem isDouble_seconds
    (d : Duration) :
    IsDouble d.seconds :=
  isDouble_nearestDouble
    (add_nonneg d.isDouble_secs.nonneg d.subsecDouble_nonneg)

theorem sum_nonneg
    (d : Duration) :
    0 ≤ (d.secs : ℚ) + d.subsecDouble :=
  add_nonneg (Nat.cast_nonneg _) d.subsecDouble_nonneg

theorem nearestDouble_secs
    (h : d.secs ≤ 2 ^ 53) :
    nearestDouble d.secs = d.secs :=
  (isDouble_natCast h).nearestDouble_eq

/- Whole seconds are exact up to 2^53. -/
theorem seconds_of_le
    (h : d.secs ≤ 2 ^ 53) :
    d.seconds = nearestDouble (d.secs + d.subsecDouble) := by
  rw [seconds_eq, nearestDouble_secs h]

/- From there on, fractions are lost. -/
theorem seconds_of_ge
    (h : 2 ^ 53 ≤ d.secs) :
    d.seconds = nearestDouble d.secs := by
  have hLarge : (2 : ℚ) ^ 53 ≤ nearestDouble d.secs := by
    have hDouble : IsDouble ((2 ^ 53 : ℕ) : ℚ) :=
      isDouble_natCast le_rfl
    have hCast : ((2 ^ 53 : ℕ) : ℚ) ≤ d.secs := by
      exact_mod_cast h
    exact_mod_cast hDouble.le_nearestDouble hCast
  exact d.isDouble_secs.nearestDouble_add hLarge
    d.subsecDouble_nonneg d.subsecDouble_lt_one

/- Less than a second is rounded once. -/
theorem seconds_of_secs_eq_zero
    (h : d.secs = 0) :
    d.seconds = nearestDouble d.value := by
  rw [seconds_of_le (by omega), value_eq, h, Nat.cast_zero,
    zero_add, zero_add, subsecDouble]
  exact (isDouble_nearestDouble
    d.subsec_nonneg).nearestDouble_eq

/- How far a duration is from its double. -/
theorem abs_seconds_sub_le
    {e : ℕ}
    (h : d.secs < 2 ^ e)
    (hExact : e ≤ 53) :
    |d.seconds - d.value| ≤
      2 ^ ((e : ℤ) - 54) + 2 ^ (-54 : ℤ) := by
  have hWidth : d.secs ≤ 2 ^ 53 :=
    h.le.trans (Nat.pow_le_pow_right (by decide) hExact)
  have hLess : (d.secs : ℚ) + 1 ≤ 2 ^ (e : ℤ) := by
    exact_mod_cast h
  have hSum :
      (d.secs : ℚ) + d.subsecDouble < 2 ^ (e : ℤ) := by
    have hFraction := d.subsecDouble_lt_one
    linarith
  have hRounded :=
    abs_nearestDouble_sub_le_of_lt d.sum_nonneg hSum (by omega)
  rw [seconds_of_le hWidth, value_eq]
  calc
    |nearestDouble (d.secs + d.subsecDouble) -
        (d.secs + d.subsec)| =
        |(nearestDouble (d.secs + d.subsecDouble) -
            (d.secs + d.subsecDouble)) +
          (d.subsecDouble - d.subsec)| := by ring_nf
    _ ≤ _ := abs_add_le _ _
    _ ≤ _ := add_le_add hRounded d.abs_subsecDouble_sub_le

/- The double is off by one part in 2^52.  It is the fraction
   that is rounded twice, and from one second on its error is
   less than half a part in 2^53 of the whole. -/
theorem abs_seconds_sub_le_mul
    (hExact : d.secs ≤ 2 ^ 53) :
    |d.seconds - d.value| ≤ d.value * 2 ^ (-52 : ℤ) := by
  have hNonneg := d.value_nonneg
  rcases Nat.eq_zero_or_pos d.secs with hNone | hSome
  · rw [seconds_of_secs_eq_zero hNone]
    rcases Nat.eq_zero_or_pos d.nanos with hZero | hNanos
    · rw [value, hZero, Nat.cast_zero, zero_div,
        nearestDouble_zero, sub_zero, abs_zero, zero_mul]
    · calc
        |nearestDouble d.value - d.value| ≤
            d.value * 2 ^ (-53 : ℤ) :=
          abs_nearestDouble_sub_le_mul (le_value hNanos)
            (by norm_num)
        _ ≤ d.value * 2 ^ (-52 : ℤ) := by
          gcongr <;> norm_num
  · have hWhole : (1 : ℚ) ≤ d.secs := by
      exact_mod_cast hSome
    have hSum :
        (2 : ℚ) ^ (0 : ℤ) ≤ d.secs + d.subsecDouble := by
      have hNonneg := d.subsecDouble_nonneg
      rw [zpow_zero]
      linarith
    have hRounded :=
      abs_le.mp
        (abs_nearestDouble_sub_le_mul hSum (by norm_num))
    have hFraction := abs_le.mp d.abs_subsecDouble_sub_le
    have hSubsec := d.subsec_nonneg
    rw [seconds_of_le hExact, value_eq, abs_le]
    norm_num at hRounded hFraction ⊢
    constructor <;> linarith

/- A whole number of seconds that is a double. -/
theorem seconds_of_whole
    {n : ℕ}
    (hDouble : IsDouble n)
    (h : d.nanos = n * nanosPerSec) :
    d.seconds = n := by
  have hSecs : d.secs = n := by
    rw [secs, h]
    exact Nat.mul_div_cancel n (by decide)
  have hSubsec : d.subsecDouble = 0 := by
    rw [subsecDouble, subsec, subsecNanos, h,
      Nat.mul_mod_left, Nat.cast_zero, zero_div,
      nearestDouble_zero]
  rw [seconds_eq, hSubsec, add_zero, hSecs,
    hDouble.nearestDouble_eq, hDouble.nearestDouble_eq]

/- From 2^23 seconds on, a double with a fraction is the one
   of each duration that is within half a nanosecond. -/
theorem seconds_of_near
    {v : ℚ}
    (hDouble : IsDouble v)
    (hLarge : 2 ^ (23 : ℤ) ≤ v)
    (hFraction : ¬ ∃ n : ℕ, v = n)
    (hNear : |d.value - v| ≤ 1 / 2 / nanosPerSec) :
    d.seconds = v := by
  have hExponent : -29 ≤ unitExponent v :=
    le_unitExponent_of_le hLarge
  have hPlace : 2 ^ (-29 : ℤ) ≤ lastPlace v :=
    le_lastPlace_of_le hLarge
  have hSmall : v < 2 ^ 53 :=
    lt_of_not_ge fun hGe =>
      hFraction (hDouble.exists_eq_natCast hGe)
  have hInside : 2 ^ 52 * lastPlace v < v :=
    mul_lastPlace_lt_of_fraction
      (le_trans (by norm_num) hLarge) hFraction
  have hError := abs_le.mp d.abs_subsecDouble_sub_le
  have hBeside := abs_le.mp hNear
  rw [value_eq] at hBeside
  have hWidth : d.secs ≤ 2 ^ 53 := by
    have hSecs : (d.secs : ℚ) < 2 ^ 53 + 1 := by
      have hNonneg := d.subsec_nonneg
      have hHalf : (1 : ℚ) / 2 / nanosPerSec < 1 := by norm_num
      linarith
    have hCast : d.secs < 2 ^ 53 + 1 := by
      exact_mod_cast hSecs
    exact Nat.le_of_lt_succ hCast
  rw [seconds_of_le hWidth]
  apply hDouble.nearestDouble_of_near (by omega) hInside
  rw [abs_lt]
  norm_num at hError hBeside hPlace
  constructor <;> linarith

/- A second more outweighs any fraction. -/
theorem sum_le_secs
    (h : d.secs < d'.secs) :
    (d.secs : ℚ) + d.subsecDouble ≤ d'.secs := by
  have hNext : (d.secs : ℚ) + 1 ≤ d'.secs := by
    exact_mod_cast h
  have hFraction := d.subsecDouble_lt_one
  linarith

/- Within a second, fractions are in the order of the
   durations. -/
theorem subsecDouble_mono
    (h : d ≤ d')
    (hSecs : d.secs = d'.secs) :
    d.subsecDouble ≤ d'.subsecDouble := by
  apply nearestDouble_mono d.subsec_nonneg
  have hValues : d.value ≤ d'.value := by
    unfold value
    gcongr
    exact h
  rw [value_eq, value_eq, hSecs] at hValues
  linarith

/- Doubles are in the order of the durations. -/
theorem seconds_mono
    (h : d ≤ d') :
    d.seconds ≤ d'.seconds := by
  have hSecs : d.secs ≤ d'.secs := Nat.div_le_div_right h
  by_cases hLarge : 2 ^ 53 ≤ d'.secs
  · rw [seconds_of_ge hLarge]
    by_cases hBoth : 2 ^ 53 ≤ d.secs
    · rw [seconds_of_ge hBoth]
      exact nearestDouble_mono (Nat.cast_nonneg _)
        (by exact_mod_cast hSecs)
    · rw [seconds_of_le (by omega)]
      exact nearestDouble_mono d.sum_nonneg
        (sum_le_secs (by omega))
  · rw [seconds_of_le (by omega), seconds_of_le (by omega)]
    apply nearestDouble_mono d.sum_nonneg
    rcases eq_or_lt_of_le hSecs with hSame | hLess
    · rw [hSame]
      gcongr
      exact subsecDouble_mono h hSame
    · have hNonneg := d'.subsecDouble_nonneg
      have hSum := sum_le_secs hLess
      linarith

end Duration

end Redeploy

------------------------------------------------------------
-- To Doubles and Back
------------------------------------------------------------

namespace Redeploy

namespace Duration

variable {d d' : Duration}

/- What the way to a double and back makes of a duration, if
   it is still in range. -/
def kept
    (d : Duration) : Option Duration :=
  ofSeconds? d.seconds

theorem ofNanos?_eq_some_iff
    {n : ℕ} :
    ofNanos? n = some d ↔ n = d.nanos := by
  unfold ofNanos?
  constructor
  · intro h
    split at h
    next =>
      cases h
      rfl
    next => cases h
  · rintro rfl
    exact dif_pos d.nanos_lt

theorem ofSeconds?_eq_some_iff
    {x : ℚ}
    (hNonneg : 0 ≤ x) :
    ofSeconds? x = some d ↔
      roundHalfEven (x * nanosPerSec) = d.nanos := by
  have hRounded : 0 ≤ roundHalfEven (x * nanosPerSec) :=
    le_roundHalfEven (by
      push_cast
      positivity)
  rw [ofSeconds?, ofNanos?_eq_some_iff]
  omega

theorem kept_eq_some_iff :
    d.kept = some d' ↔
      roundHalfEven (d.seconds * nanosPerSec) = d'.nanos :=
  ofSeconds?_eq_some_iff d.isDouble_seconds.nonneg

/- A duration is kept if its double is less than half a
   nanosecond away. -/
theorem kept_of_near
    (h : |d.seconds - d.value| < 1 / 2 / nanosPerSec) :
    d.kept = some d := by
  have hNear :
      |d.seconds * nanosPerSec - (d.nanos : ℤ)| < 1 / 2 := by
    have hScaled :
        d.seconds * nanosPerSec - (d.nanos : ℤ) =
          (d.seconds - d.value) * nanosPerSec := by
      rw [sub_mul, value_mul, Int.cast_natCast]
    have hPerSec : (0 : ℚ) < nanosPerSec := by norm_num
    rw [hScaled, abs_mul, abs_of_pos hPerSec]
    rwa [lt_div_iff₀ hPerSec] at h
  exact kept_eq_some_iff.mpr (roundHalfEven_eq hNear)

/- Short durations are kept. -/
theorem kept_of_lt
    (h : d.nanos < 2 ^ 23 * nanosPerSec) :
    d.kept = some d := by
  have hSecs : d.secs < 2 ^ 23 :=
    Nat.div_lt_of_lt_mul (by rwa [Nat.mul_comm])
  apply kept_of_near
  calc
    |d.seconds - d.value| ≤
        2 ^ (((23 : ℕ) : ℤ) - 54) + 2 ^ (-54 : ℤ) :=
      abs_seconds_sub_le hSecs (by norm_num)
    _ < 1 / 2 / nanosPerSec := by norm_num

theorem kept_of_whole
    {n : ℕ}
    (hDouble : IsDouble n)
    (h : d.nanos = n * nanosPerSec) :
    d.kept = some d := by
  apply kept_of_near
  have hValue : d.value = n := by
    rw [value, h]
    push_cast
    field_simp
  rw [seconds_of_whole hDouble h, hValue, sub_self, abs_zero]
  norm_num

/- What is kept of a longer duration is longer. -/
theorem kept_mono
    {e' : Duration}
    (h : d ≤ d')
    (hKept : d'.kept = some e') :
    ∃ e, d.kept = some e ∧ e ≤ e' := by
  have hLe :
      roundHalfEven (d.seconds * nanosPerSec) ≤ e'.nanos := by
    rw [← kept_eq_some_iff.mp hKept]
    apply roundHalfEven_mono
    gcongr
    exact seconds_mono h
  have hNonneg :
      0 ≤ roundHalfEven (d.seconds * nanosPerSec) :=
    le_roundHalfEven (by
      have hSeconds := d.isDouble_seconds.nonneg
      push_cast
      positivity)
  rcases Int.eq_ofNat_of_zero_le hNonneg with ⟨n, hEq⟩
  rw [hEq] at hLe
  have hCast : n ≤ e'.nanos := by exact_mod_cast hLe
  exact ⟨⟨n, hCast.trans_lt e'.nanos_lt⟩,
    kept_eq_some_iff.mpr hEq, hCast⟩

/- What is kept is half a nanosecond from the double. -/
theorem abs_value_sub_seconds_le
    (hKept : d.kept = some d') :
    |d'.value - d.seconds| ≤ 1 / 2 / nanosPerSec := by
  have hPerSec : (0 : ℚ) < nanosPerSec := by norm_num
  have hError :=
    abs_roundHalfEven_sub_le (d.seconds * nanosPerSec)
  have hScaled :
      (d'.nanos : ℚ) - d.seconds * nanosPerSec =
        (d'.value - d.seconds) * nanosPerSec := by
    rw [sub_mul, value_mul]
  rw [kept_eq_some_iff.mp hKept, Int.cast_natCast, hScaled,
    abs_mul, abs_of_pos hPerSec] at hError
  rwa [le_div_iff₀ hPerSec]

/- What is kept once is kept again.  A whole number of seconds
   is exact, and so are less than 2^23 seconds; from there on
   the double is still the nearest one. -/
theorem kept_kept
    (hKept : d.kept = some d') :
    d'.kept = some d' := by
  have hDouble : IsDouble d.seconds := d.isDouble_seconds
  have hNanos := kept_eq_some_iff.mp hKept
  by_cases hWhole : ∃ n : ℕ, d.seconds = n
  · rcases hWhole with ⟨n, hEq⟩
    rw [hEq] at hDouble hNanos
    refine kept_of_whole hDouble ?_
    have hProduct :
        (n : ℚ) * nanosPerSec =
          ((n * nanosPerSec : ℕ) : ℤ) := by
      push_cast
      rfl
    rw [hProduct, roundHalfEven_intCast] at hNanos
    exact_mod_cast hNanos.symm
  by_cases hLarge : 2 ^ (23 : ℤ) ≤ d.seconds
  · have hSame : d'.seconds = d.seconds :=
      seconds_of_near hDouble hLarge hWhole
        (abs_value_sub_seconds_le hKept)
    rw [kept, hSame]
    exact hKept
  · have hBound : d'.nanos ≤ 2 ^ 23 * nanosPerSec := by
      have hRounded :
          roundHalfEven (d.seconds * nanosPerSec) ≤
            (2 ^ 23 * nanosPerSec : ℕ) := by
        apply roundHalfEven_le
        have hSeconds := (lt_of_not_ge hLarge).le
        norm_num at hSeconds ⊢
        linarith
      rw [hNanos] at hRounded
      exact_mod_cast hRounded
    rcases eq_or_lt_of_le hBound with hEdge | hShort
    · exact kept_of_whole
        (isDouble_natCast (Nat.pow_le_pow_right (by decide)
          (by decide))) hEdge
    · exact kept_of_lt hShort

end Duration

end Redeploy

------------------------------------------------------------
-- Growth
------------------------------------------------------------

namespace Redeploy

namespace Duration

variable {d : Duration}
variable {factor x : ℚ}

/- A multiple is off by one part in 2^51: the double that is
   multiplied by one in 2^52, and the product by less. -/
theorem abs_nearestDouble_mul_sub_le
    (hExact : d.secs ≤ 2 ^ 53)
    (hFactor : 1 ≤ factor) :
    |nearestDouble (d.seconds * factor) - d.value * factor| ≤
      d.value * factor * 2 ^ (-51 : ℤ) := by
  have hNonneg : 0 ≤ factor := by linarith
  have hError :
      |d.seconds * factor - d.value * factor| ≤
        d.value * factor * 2 ^ (-52 : ℤ) := by
    calc
      |d.seconds * factor - d.value * factor| =
          |d.seconds - d.value| * factor := by
        rw [← sub_mul, abs_mul, abs_of_nonneg hNonneg]
      _ ≤ d.value * 2 ^ (-52 : ℤ) * factor := by
        gcongr
        exact abs_seconds_sub_le_mul hExact
      _ = d.value * factor * 2 ^ (-52 : ℤ) := by ring
  rcases Nat.eq_zero_or_pos d.nanos with hZero | hNanos
  · have hValue : d.value = 0 := by
      rw [value, hZero, Nat.cast_zero, zero_div]
    rw [hValue, zero_mul, zero_mul, sub_zero,
      abs_nonpos_iff] at hError
    rw [hError, hValue, nearestDouble_zero, zero_mul,
      zero_mul, sub_zero, abs_zero]
  · have hLeast :
        2 ^ (-30 : ℤ) ≤ d.value * factor :=
      le_trans (le_value hNanos)
        (le_mul_of_one_le_right d.value_nonneg hFactor)
    have hProduct := abs_le.mp hError
    have hLow : 2 ^ (-31 : ℤ) ≤ d.seconds * factor := by
      norm_num at hLeast hProduct ⊢
      linarith
    have hRounded :=
      abs_le.mp
        (abs_nearestDouble_sub_le_mul hLow (by norm_num))
    rw [abs_le]
    norm_num at hProduct hRounded ⊢
    constructor <;> linarith

/- A double grows past all that is within its last place. -/
private theorem value_le_of_rounded
    (hFactor : 1 + 2 ^ (-52 : ℤ) ≤ factor)
    (hPos : 0 < x)
    (hNormal : -1074 < unitExponent x)
    (hSeconds : d.seconds = nearestDouble x)
    (hValue : d.value ≤ x + lastPlace x / 2) :
    d.value ≤ nearestDouble (d.seconds * factor) := by
  have hError := abs_le.mp (abs_nearestDouble_sub_le x)
  rw [hSeconds]
  calc
    d.value ≤ nearestDouble x + lastPlace x := by linarith
    _ ≤ nearestDouble (nearestDouble x * factor) :=
      add_lastPlace_le_nearestDouble_mul hPos hNormal hFactor

/- By the least of factors above one, a double grows at least
   to the duration that it was made from. -/
theorem value_le_nearestDouble_mul
    (hFactor : 1 + 2 ^ (-52 : ℤ) ≤ factor) :
    d.value ≤ nearestDouble (d.seconds * factor) := by
  have hSplit := d.value_eq
  have hError := abs_le.mp d.abs_subsecDouble_sub_le
  rcases Nat.eq_zero_or_pos d.secs with hNone | hSome
  · rcases Nat.eq_zero_or_pos d.nanos with hZero | hNanos
    · have hValue : d.value = 0 := by
        rw [value, hZero, Nat.cast_zero, zero_div]
      rw [hValue]
      have hGrown : 0 ≤ d.seconds * factor :=
        mul_nonneg d.isDouble_seconds.nonneg
          (le_trans (by positivity) hFactor)
      exact (isDouble_nearestDouble hGrown).nonneg
    · have hLeast := le_value hNanos
      have hExponent := le_unitExponent_of_le hLeast
      have hPlace := lastPlace_pos d.value
      exact value_le_of_rounded hFactor
        (lt_of_lt_of_le (by positivity) hLeast) (by omega)
        (seconds_of_secs_eq_zero hNone) (by linarith)
  have hWhole : (1 : ℚ) ≤ d.secs := by
    exact_mod_cast hSome
  by_cases hLarge : 2 ^ 53 ≤ d.secs
  · have hLeast : (2 : ℚ) ^ (53 : ℤ) ≤ d.secs := by
      exact_mod_cast hLarge
    have hExponent := le_unitExponent_of_le hLeast
    have hPlace := le_lastPlace_of_le hLeast
    have hLess := d.subsec_lt_one
    refine value_le_of_rounded hFactor (by linarith)
      (by omega) (seconds_of_ge hLarge) ?_
    norm_num at hPlace
    linarith
  · have hLeast :
        (2 : ℚ) ^ (0 : ℤ) ≤ d.secs + d.subsecDouble := by
      rw [zpow_zero]
      have hNonneg := d.subsecDouble_nonneg
      linarith
    have hExponent := le_unitExponent_of_le hLeast
    have hPlace := le_lastPlace_of_le hLeast
    refine value_le_of_rounded hFactor
      (lt_of_lt_of_le (by positivity) hLeast) (by omega)
      (seconds_of_le (by omega)) ?_
    norm_num at hPlace hError
    linarith

end Duration

end Redeploy
