import Redeploy.Proofs.Backoff.Growth

/-
  Delays that are whole multiples of the first one.

  Main results:
    * `Binary64.value?_ofRat`
    * `Duration.grow?_of_le`
    * `Duration.le_of_grow?_of_lt`
    * `Backoff.nanos_after`
    * `Backoff.delays_multiply`

  Up to a cap of 2^20 seconds, a whole multiplier takes each
  delay to exactly so many times as many nanoseconds, or to
  the cap.  The error of one step is less than half a
  nanosecond there, so that rounding to nanoseconds removes
  all of it, and no error is left for the next step.
-/

------------------------------------------------------------
-- Bits
------------------------------------------------------------

namespace Redeploy

namespace Binary64

/- What the fields of a finite number denote. -/
theorem value?_ofNat
    (field fraction : ℕ)
    (hField : field < 2047)
    (hFraction : fraction < fractionLimit) :
    value? ⟨UInt64.ofNat (field * fractionLimit + fraction)⟩ =
      some (if field = 0 then (fraction : ℚ) * 2 ^ (-1074 : ℤ)
        else ((fractionLimit + fraction : ℕ) : ℚ) *
          2 ^ ((field : ℤ) - 1075)) := by
  let b : Binary64 :=
    ⟨UInt64.ofNat (field * fractionLimit + fraction)⟩
  have hBits :
      b.bits.toNat = field * fractionLimit + fraction :=
    UInt64.toNat_ofNat_of_lt' (by
      simp only [fractionLimit, UInt64.size] at hFraction ⊢
      omega)
  have hExponent : b.exponentField = field := by
    rw [exponentField, hBits]
    simp only [fractionLimit] at hFraction ⊢
    omega
  have hRest : b.fraction = fraction := by
    rw [Binary64.fraction, hBits]
    rw [Nat.mul_add_mod', Nat.mod_eq_of_lt hFraction]
  have hPositive : b.negative = false := by
    rw [negative, hBits]
    simp only [fractionLimit, signUnit, beq_eq_false_iff_ne]
      at hFraction ⊢
    omega
  change b.value? = _
  rw [value?, hExponent, if_neg (by omega), hPositive,
    if_neg Bool.false_ne_true, magnitude, hExponent, hRest]

/- The significand of a double is what its last place divides
   it by. -/
theorem exists_significand
    {v : ℚ}
    (h : IsDouble v)
    (hPos : 0 < v) :
    ∃ n : ℕ,
      v = n * lastPlace v ∧
        (v / (2 : ℚ) ^ unitExponent v).floor.toNat = n := by
  rcases h.exists_eq_mul_lastPlace hPos with ⟨n, hMultiple⟩
  refine ⟨n, hMultiple, ?_⟩
  have hPlace := lastPlace_pos v
  have hQuotient : v / lastPlace v = n := by
    rw [div_eq_iff hPlace.ne']
    exact hMultiple
  change (⌊v / lastPlace v⌋).toNat = n
  rw [hQuotient, Int.floor_natCast, Int.toNat_natCast]

/- The bits of a double denote it. -/
theorem value?_ofRat
    {v : ℚ}
    (h : IsDouble v)
    (hPos : 0 < v)
    (hInRange : v < 2 ^ (1024 : ℤ)) :
    (ofRat v).value? = some v := by
  have hNearest : double? v = some v := by
    rw [double?, h.nearestDouble_eq]
    exact if_pos hInRange
  rcases exists_significand h hPos with
    ⟨n, hMultiple, hSignificand⟩
  have hPlace := lastPlace_pos v
  have hLeast : -1074 ≤ unitExponent v := le_max_right _ _
  have hWidth : n < 2 ^ 53 := by
    have hLess : n * lastPlace v < 2 ^ 53 * lastPlace v :=
      hMultiple.symm.trans_lt (lt_lastPlace hPos)
    exact_mod_cast lt_of_mul_lt_mul_right hLess hPlace.le
  unfold ofRat
  rw [if_neg (not_lt.mpr hPos.le), if_neg (not_lt.mpr hPos.le)]
  dsimp only
  rw [hNearest]
  dsimp only
  rw [hSignificand, Nat.zero_add, Nat.zero_add]
  split
  next hSmall =>
    have hTiny : unitExponent v = -1074 := by
      by_contra hNormal
      have hFull : 2 ^ 52 * lastPlace v ≤ n * lastPlace v :=
        (lastPlace_le hPos (by omega)).trans_eq hMultiple
      have hLarge : 2 ^ 52 ≤ n := by
        exact_mod_cast le_of_mul_le_mul_right hFull hPlace
      simp only [fractionLimit] at hSmall
      omega
    have hFields :=
      value?_ofNat 0 n (by decide) hSmall
    rw [Nat.zero_mul, Nat.zero_add, if_pos rfl] at hFields
    rw [hFields, ← hTiny]
    exact congrArg some hMultiple.symm
  next hFull =>
    have hLarge : 2 ^ 52 ≤ n := not_lt.mp hFull
    have hMost : unitExponent v < 972 := by
      have hPower : (2 : ℚ) ^ (52 + unitExponent v) ≤ v :=
        calc
          (2 : ℚ) ^ (52 + unitExponent v) =
              2 ^ 52 * lastPlace v := by
            rw [zpow_add₀ (by norm_num), lastPlace]
            norm_num
          _ ≤ n * lastPlace v := by
            gcongr
            exact_mod_cast hLarge
          _ = v := hMultiple.symm
      have hExponent : 52 + unitExponent v < 1024 :=
        (zpow_lt_zpow_iff_right₀ (by norm_num)).mp
          (hPower.trans_lt hInRange)
      omega
    have hFields :=
      value?_ofNat (unitExponent v + 1075).toNat
        (n - fractionLimit) (by omega) (by
          simp only [fractionLimit]
          omega)
    rw [hFields, if_neg (by omega),
      Nat.add_sub_cancel' (not_lt.mp hFull),
      Int.toNat_of_nonneg (by omega), add_sub_cancel_right]
    exact congrArg some hMultiple.symm

end Binary64

end Redeploy

------------------------------------------------------------
-- One Step
------------------------------------------------------------

namespace Redeploy

namespace Duration

/- The length of time up to which whole multiples are
   exact. -/
abbrev exactLimit : ℕ := 2 ^ 20 * nanosPerSec

variable {d longer : Duration}
variable {m : ℕ}

theorem value_mul_nanos
    (d : Duration)
    (m : ℕ) :
    d.value * m * nanosPerSec = (d.nanos * m : ℕ) := by
  rw [mul_right_comm, value_mul]
  push_cast
  rfl

theorem nanos_min
    (a b : Duration) :
    (min a b).nanos = min a.nanos b.nanos := by
  rcases le_total a b with h | h
  · rw [min_eq_left h]
    exact (Nat.min_eq_left h).symm
  · rw [min_eq_right h]
    exact (Nat.min_eq_right h).symm

theorem secs_le_of_nanos_le
    (h : d.nanos ≤ exactLimit) :
    d.secs ≤ 2 ^ 53 :=
  (Nat.div_le_div_right h).trans (by norm_num)

/- A multiple in nanoseconds is off by one part in 2^51. -/
theorem abs_nanos_sub_le
    (h : d.nanos ≤ exactLimit)
    (hLeast : 1 ≤ m) :
    |nearestDouble (d.seconds * m) * nanosPerSec -
        (d.nanos * m : ℕ)| ≤
      (d.nanos * m : ℕ) * 2 ^ (-51 : ℤ) := by
  have hError :=
    abs_nearestDouble_mul_sub_le (secs_le_of_nanos_le h)
      (show (1 : ℚ) ≤ m by exact_mod_cast hLeast)
  have hPerSec : (0 : ℚ) < nanosPerSec := by norm_num
  calc
    |nearestDouble (d.seconds * m) * nanosPerSec -
          (d.nanos * m : ℕ)| =
        |nearestDouble (d.seconds * m) - d.value * m| *
          nanosPerSec := by
      rw [← value_mul_nanos, ← sub_mul, abs_mul,
        abs_of_pos hPerSec]
    _ ≤ d.value * m * 2 ^ (-51 : ℤ) * nanosPerSec := by
      gcongr
    _ = (d.nanos * m : ℕ) * 2 ^ (-51 : ℤ) := by
      rw [← value_mul_nanos]
      ring

/- Up to the limit, whole multiples are exact. -/
theorem grow?_of_le
    (hLeast : 1 ≤ m)
    (h : longer.nanos = d.nanos * m)
    (hLimit : longer.nanos ≤ exactLimit) :
    d.grow? m = some longer := by
  have hShort : d.nanos ≤ exactLimit :=
    le_trans (Nat.le_mul_of_pos_right _ hLeast)
      (h.symm.trans_le hLimit)
  have hError := abs_nanos_sub_le hShort hLeast
  rw [← h] at hError
  have hBound : (longer.nanos : ℚ) ≤ 2 ^ 20 * 10 ^ 9 := by
    exact_mod_cast hLimit
  have hNear :
      |nearestDouble (d.seconds * m) * nanosPerSec -
          ((longer.nanos : ℤ) : ℚ)| < 1 / 2 := by
    rw [Int.cast_natCast]
    norm_num at hError ⊢
    linarith
  rw [grow?_eq_some_iff (Nat.cast_nonneg m)]
  refine ⟨?_, roundHalfEven_eq hNear⟩
  have hSides := abs_lt.mp hNear
  have hSmall :
      nearestDouble (d.seconds * m) < 2 ^ (21 : ℤ) := by
    rw [Int.cast_natCast] at hSides
    norm_num at hSides ⊢
    linarith
  exact hSmall.trans
    (zpow_lt_zpow_right₀ (by norm_num) (by norm_num))

/- Beyond it, they do not fall below it. -/
theorem le_of_grow?_of_lt
    {limit : ℕ}
    (hLeast : 1 ≤ m)
    (hShort : d.nanos ≤ limit)
    (hLimit : limit ≤ exactLimit)
    (h : limit < d.nanos * m)
    (hGrown : d.grow? m = some longer) :
    limit ≤ longer.nanos := by
  have hError :=
    abs_le.mp (abs_nanos_sub_le (hShort.trans hLimit) hLeast)
  have hBound : (limit : ℚ) ≤ 2 ^ 20 * 10 ^ 9 := by
    exact_mod_cast hLimit
  have hNext : (limit : ℚ) + 1 ≤ (d.nanos * m : ℕ) := by
    exact_mod_cast h
  have hRounded :
      (limit : ℤ) ≤
        roundHalfEven
          (nearestDouble (d.seconds * m) * nanosPerSec) := by
    apply le_roundHalfEven
    rw [Int.cast_natCast]
    norm_num at hError hNext ⊢
    linarith
  rw [((grow?_eq_some_iff (Nat.cast_nonneg m)).mp hGrown).2]
    at hRounded
  exact_mod_cast hRounded

end Duration

namespace Backoff

variable {b : Backoff}
variable {d : Duration}
variable {m : ℕ}

/- To cut a number is to cut its multiples, once these are cut
   as well. -/
theorem min_min_mul
    (hLeast : 1 ≤ m)
    (limit n : ℕ) :
    min limit (min limit n * m) = min limit (n * m) := by
  rcases le_total limit n with hCut | hFits
  · have hGrown : limit ≤ limit * m :=
      Nat.le_mul_of_pos_right limit hLeast
    have hLonger : limit * m ≤ n * m :=
      Nat.mul_le_mul_right m hCut
    rw [min_eq_left hCut, min_eq_left hGrown,
      min_eq_left (hGrown.trans hLonger)]
  · rw [min_eq_right hFits]

/- Each delay is so many times as long as the one before it,
   or the cap. -/
theorem nanos_after
    (hFactor : b.factor = m)
    (hLeast : 1 ≤ m)
    (hCap : b.cap.nanos ≤ Duration.exactLimit)
    (h : d ≤ b.cap) :
    (b.after d).nanos = min b.cap.nanos (d.nanos * m) := by
  unfold after
  rw [hFactor]
  rcases Nat.lt_or_ge b.cap.nanos (d.nanos * m) with
    hBeyond | hWithin
  · rw [min_eq_left hBeyond.le]
    split
    next longer hGrown =>
      have hReached : b.cap ≤ longer :=
        Duration.le_of_grow?_of_lt hLeast h hCap hBeyond
          hGrown
      rw [min_eq_right hReached]
    next => rfl
  · let longer : Duration :=
      ⟨d.nanos * m, hWithin.trans_lt b.cap.nanos_lt⟩
    have hGrown : d.grow? m = some longer :=
      Duration.grow?_of_le hLeast rfl (hWithin.trans hCap)
    have hFits : longer ≤ b.cap := hWithin
    rw [hGrown, min_eq_right hWithin]
    dsimp only
    rw [min_eq_left hFits]

end Backoff

end Redeploy

------------------------------------------------------------
-- All Delays
------------------------------------------------------------

namespace Redeploy

namespace Backoff

open Delays (nth)

/-
  By a whole multiplier, which is a double up to 2^53, and
  with a cap of up to 2^20 seconds, each delay is the first
  one times a power of the multiplier, or the cap if that is
  shorter.
-/
theorem delays_multiply
    {cap : Duration}
    {m : ℕ}
    (hCap : cap.nanos ≤ 2 ^ 20 * Duration.nanosPerSec)
    (hLeast : 1 ≤ m)
    (hWidth : m ≤ 2 ^ 53)
    (initial : Duration) :
    (Binary64.ofRat m).value? = some (m : ℚ) ∧
      ∀ multiplier : Binary64,
        multiplier.value? = some (m : ℚ) →
        ∀ k,
          (nth (start initial cap multiplier) k).nanos =
            min cap.nanos (initial.nanos * m ^ k) := by
  have hWhole : (1 : ℚ) ≤ m := by exact_mod_cast hLeast
  refine ⟨?_, ?_⟩
  · apply Binary64.value?_ofRat (isDouble_natCast hWidth)
      (by linarith)
    calc
      (m : ℚ) ≤ 2 ^ (53 : ℤ) := by exact_mod_cast hWidth
      _ < 2 ^ (1024 : ℤ) :=
        zpow_lt_zpow_right₀ (by norm_num) (by norm_num)
  intro multiplier hValue k
  have hStart : (start initial cap multiplier).AtStart := rfl
  have hFactor :
      (start initial cap multiplier).factor = m := by
    change multiplier.growth?.getD 1 = m
    rw [Binary64.growth?, hValue]
    exact congrArg (Option.getD · 1) (if_pos hWhole)
  induction k with
  | zero =>
      rw [pow_zero, mul_one, min_comm]
      exact Duration.nanos_min initial cap
  | succ k ih =>
      rw [nth_add_one,
        nanos_after hFactor hLeast hCap (hStart.nth_le k), ih,
        pow_succ, ← mul_assoc]
      exact min_min_mul hLeast _ _

/- The usual delays before another creation double up to ten
   seconds. -/
theorem delays_double_up_to_cap :
    (Duration.ofSecs 10).nanos ≤
        2 ^ 20 * Duration.nanosPerSec ∧
      1 ≤ 2 ∧ 2 ≤ 2 ^ 53 ∧
      Binary64.two.value? = some ((2 : ℕ) : ℚ) ∧
      ∀ k,
        (nth BackoffPolicy.create.backoff k).nanos =
          min (10 * 10 ^ 9) (500 * 10 ^ 6 * 2 ^ k) := by
  have hTwo :
      Binary64.two.value? = some ((2 : ℕ) : ℚ) := by
    decide +kernel
  exact ⟨by decide, by decide, by decide, hTwo,
    (delays_multiply (by decide) (by decide) (by decide)
      (.ofMillis 500)).2 .two hTwo⟩

end Backoff

end Redeploy
