import Mathlib.Algebra.Order.Field.Power
import Mathlib.Data.Int.Log
import Mathlib.Data.Rat.Floor
import Mathlib.Tactic.FieldSimp
import Mathlib.Tactic.GCongr
import Mathlib.Tactic.Linarith
import Mathlib.Tactic.Positivity
import Mathlib.Tactic.Ring
import Redeploy.Rounding

/-
  How far rounding goes, and where it does nothing.

  Key definitions include:
    * `lastPlace`
    * `IsDouble`

  Main results:
    * `roundHalfEven_mono`
    * `binade_eq_log`
    * `abs_nearestDouble_sub_le`, `abs_nearestDouble_sub_le_mul`
    * `isDouble_nearestDouble`
    * `IsDouble.le_nearestDouble`, `IsDouble.nearestDouble_le`
    * `IsDouble.nearestDouble_eq`, `nearestDouble_mono`
    * `IsDouble.nearestDouble_of_near`
    * `add_lastPlace_le_nearestDouble_mul`

  Rounding goes no further than half the last place, and it
  passes no double on its way.  So it leaves doubles as they
  are, and keeps numbers in their order.
-/

------------------------------------------------------------
-- Integers
------------------------------------------------------------

namespace Redeploy

theorem abs_roundHalfEven_sub_le
    (x : ℚ) :
    |(roundHalfEven x : ℚ) - x| ≤ 1 / 2 := by
  have hFloor : (⌊x⌋ : ℚ) ≤ x := Int.floor_le x
  have hCeil : x < ⌊x⌋ + 1 := Int.lt_floor_add_one x
  have hParity : 0 ≤ ⌊x⌋ % 2 ∧ ⌊x⌋ % 2 ≤ 1 := by omega
  have hEven : (0 : ℚ) ≤ (⌊x⌋ % 2 : ℤ) := by
    exact_mod_cast hParity.1
  have hOdd : ((⌊x⌋ % 2 : ℤ) : ℚ) ≤ 1 := by
    exact_mod_cast hParity.2
  change |((if x - (⌊x⌋ : ℚ) < 1 / 2 then ⌊x⌋
    else if 1 / 2 < x - (⌊x⌋ : ℚ) then ⌊x⌋ + 1
    else ⌊x⌋ + ⌊x⌋ % 2 : ℤ) : ℚ) - x| ≤ 1 / 2
  rw [abs_le]
  split_ifs
  · constructor <;> linarith
  · push_cast
    constructor <;> linarith
  · push_cast
    constructor <;> linarith

/- No other integer is that near. -/
theorem roundHalfEven_eq
    {x : ℚ}
    {n : ℤ}
    (h : |x - n| < 1 / 2) :
    roundHalfEven x = n := by
  have hError := abs_le.mp (abs_roundHalfEven_sub_le x)
  have hNear := abs_lt.mp h
  have hAbove : (roundHalfEven x : ℚ) < n + 1 := by linarith
  have hBelow : (n : ℚ) < roundHalfEven x + 1 := by linarith
  have hLe : roundHalfEven x < n + 1 := by
    exact_mod_cast hAbove
  have hGe : n < roundHalfEven x + 1 := by
    exact_mod_cast hBelow
  omega

@[simp]
theorem roundHalfEven_intCast
    (n : ℤ) :
    roundHalfEven n = n :=
  roundHalfEven_eq (by rw [sub_self, abs_zero]; norm_num)

/- Where two numbers would change their order they are the
   same half. -/
theorem roundHalfEven_mono
    {x y : ℚ}
    (h : x ≤ y) :
    roundHalfEven x ≤ roundHalfEven y := by
  by_contra hLess
  have hStep :
      (roundHalfEven y : ℚ) + 1 ≤ roundHalfEven x := by
    exact_mod_cast Int.add_one_le_iff.mpr (lt_of_not_ge hLess)
  have hError := abs_le.mp (abs_roundHalfEven_sub_le x)
  have hError' := abs_le.mp (abs_roundHalfEven_sub_le y)
  have hSame : x = y := by linarith
  exact hLess (by rw [hSame])

theorem le_roundHalfEven
    {x : ℚ}
    {n : ℤ}
    (h : n ≤ x) :
    n ≤ roundHalfEven x := by
  rw [← roundHalfEven_intCast n]
  exact roundHalfEven_mono h

theorem roundHalfEven_le
    {x : ℚ}
    {n : ℤ}
    (h : x ≤ n) :
    roundHalfEven x ≤ n := by
  rw [← roundHalfEven_intCast n]
  exact roundHalfEven_mono h

end Redeploy

------------------------------------------------------------
-- Last Places
------------------------------------------------------------

namespace Redeploy

/- The logarithm of a number between two powers. -/
theorem log_eq_of_zpow_le
    {x : ℚ}
    {e : ℤ}
    (hLow : (2 : ℚ) ^ e ≤ x)
    (hHigh : x < (2 : ℚ) ^ (e + 1)) :
    Int.log 2 x = e := by
  have hPos : 0 < x :=
    lt_of_lt_of_le (zpow_pos (by norm_num) e) hLow
  have hAbove : e ≤ Int.log 2 x :=
    (Int.zpow_le_iff_le_log (by norm_num) hPos).mp
      (by exact_mod_cast hLow)
  have hBelow : Int.log 2 x < e + 1 :=
    (Int.lt_zpow_iff_log_lt (by norm_num) hPos).mp
      (by exact_mod_cast hHigh)
  omega

/- The lengths of the numerator and of the denominator tell
   the logarithm but for one. -/
theorem binade_eq_log
    {x : ℚ}
    (h : 0 < x) :
    binade x = Int.log 2 x := by
  have hNum : x.num.natAbs ≠ 0 :=
    Int.natAbs_ne_zero.mpr (Rat.num_pos.mpr h).ne'
  have hRatio : x = x.num.natAbs / x.den := by
    have hAbs : (x.num.natAbs : ℤ) = x.num :=
      Int.natAbs_of_nonneg (Rat.num_pos.mpr h).le
    calc
      x = x.num / x.den := (Rat.num_div_den x).symm
      _ = (x.num.natAbs : ℤ) / x.den := by rw [hAbs]
  have hDen : (0 : ℚ) < x.den := by
    exact_mod_cast x.den_pos
  have hNumLow :
      (2 : ℚ) ^ (x.num.natAbs.log2 : ℤ) ≤ x.num.natAbs := by
    exact_mod_cast Nat.log2_self_le hNum
  have hNumHigh :
      (x.num.natAbs : ℚ) <
        2 ^ ((x.num.natAbs.log2 : ℤ) + 1) := by
    exact_mod_cast Nat.lt_log2_self (n := x.num.natAbs)
  have hDenLow :
      (2 : ℚ) ^ (x.den.log2 : ℤ) ≤ x.den := by
    exact_mod_cast Nat.log2_self_le x.den_ne_zero
  have hDenHigh :
      (x.den : ℚ) < 2 ^ ((x.den.log2 : ℤ) + 1) := by
    exact_mod_cast Nat.lt_log2_self (n := x.den)
  unfold binade
  dsimp only
  generalize (x.num.natAbs.log2 : ℤ) = a at *
  generalize (x.den.log2 : ℤ) = b at *
  have hHigh : x < 2 ^ (a - b + 1) := by
    rw [hRatio, div_lt_iff₀ hDen]
    calc
      (x.num.natAbs : ℚ) < 2 ^ (a + 1) := hNumHigh
      _ = 2 ^ (a - b + 1) * 2 ^ b := by
        rw [← zpow_add₀ (by norm_num)]
        ring_nf
      _ ≤ 2 ^ (a - b + 1) * x.den := by gcongr
  have hLow : 2 ^ (a - b - 1) ≤ x := by
    rw [hRatio, le_div_iff₀ hDen]
    calc
      (2 : ℚ) ^ (a - b - 1) * x.den ≤
          2 ^ (a - b - 1) * 2 ^ (b + 1) := by gcongr
      _ = 2 ^ a := by
        rw [← zpow_add₀ (by norm_num)]
        ring_nf
      _ ≤ x.num.natAbs := hNumLow
  split
  next hUpper => exact (log_eq_of_zpow_le hUpper hHigh).symm
  next hLower =>
    have hBelow : x < 2 ^ (a - b - 1 + 1) := by
      rw [sub_add_cancel]
      exact lt_of_not_ge hLower
    exact (log_eq_of_zpow_le hLow hBelow).symm

/- The last place of a double near a number. -/
def lastPlace
    (x : ℚ) : ℚ :=
  2 ^ unitExponent x

variable {x y : ℚ}

theorem lastPlace_pos
    (x : ℚ) :
    0 < lastPlace x :=
  zpow_pos (by norm_num) _

theorem nearestDouble_eq
    (x : ℚ) :
    nearestDouble x =
      roundHalfEven (x / lastPlace x) * lastPlace x :=
  rfl

/- Rounding goes no further than half the last place. -/
theorem abs_nearestDouble_sub_le
    (x : ℚ) :
    |nearestDouble x - x| ≤ lastPlace x / 2 := by
  have hPlace := lastPlace_pos x
  have hScaled :
      nearestDouble x - x =
        (roundHalfEven (x / lastPlace x) - x / lastPlace x) *
          lastPlace x := by
    rw [nearestDouble_eq, sub_mul,
      div_mul_cancel₀ x hPlace.ne']
  rw [hScaled, abs_mul, abs_of_pos hPlace]
  calc
    |(roundHalfEven (x / lastPlace x) : ℚ) -
          x / lastPlace x| * lastPlace x ≤
        1 / 2 * lastPlace x := by
      gcongr
      exact abs_roundHalfEven_sub_le _
    _ = lastPlace x / 2 := by ring

theorem unitExponent_eq
    (h : 0 < x) :
    unitExponent x = max (Int.log 2 x - 52) (-1074) := by
  rw [unitExponent, binade_eq_log h]

theorem unitExponent_mono
    (hPos : 0 < x)
    (h : x ≤ y) :
    unitExponent x ≤ unitExponent y := by
  rw [unitExponent_eq hPos, unitExponent_eq (hPos.trans_le h)]
  have hLog : Int.log 2 x ≤ Int.log 2 y :=
    Int.log_mono_right hPos h
  omega

/- A number takes up at most 53 places. -/
theorem lt_lastPlace
    (h : 0 < x) :
    x < 2 ^ 53 * lastPlace x := by
  have hLog : x < (2 : ℚ) ^ (Int.log 2 x + 1) := by
    exact_mod_cast Int.lt_zpow_succ_log_self (by norm_num) x
  have hExponent : Int.log 2 x + 1 ≤ 53 + unitExponent x := by
    rw [unitExponent_eq h]
    omega
  calc
    x < (2 : ℚ) ^ (Int.log 2 x + 1) := hLog
    _ ≤ (2 : ℚ) ^ (53 + unitExponent x) :=
      zpow_le_zpow_right₀ (by norm_num) hExponent
    _ = 2 ^ 53 * lastPlace x := by
      rw [zpow_add₀ (by norm_num), lastPlace]
      norm_num

/- It takes up all of them if it is not too small. -/
theorem lastPlace_le
    (h : 0 < x)
    (hNormal : -1074 < unitExponent x) :
    2 ^ 52 * lastPlace x ≤ x := by
  have hExponent : 52 + unitExponent x = Int.log 2 x := by
    rw [unitExponent_eq h] at hNormal ⊢
    omega
  calc
    2 ^ 52 * lastPlace x =
        (2 : ℚ) ^ (52 + unitExponent x) := by
      rw [zpow_add₀ (by norm_num), lastPlace]
      norm_num
    _ = (2 : ℚ) ^ Int.log 2 x := by rw [hExponent]
    _ ≤ x := by
      exact_mod_cast Int.zpow_log_le_self (by norm_num) h

end Redeploy

------------------------------------------------------------
-- Doubles
------------------------------------------------------------

namespace Redeploy

/- Whether a number that is not negative is a double, were
   there no largest one. -/
def IsDouble
    (v : ℚ) : Prop :=
  ∃ (significand : ℕ) (e : ℤ),
    v = significand * 2 ^ e ∧ significand ≤ 2 ^ 53 ∧
      -1074 ≤ e

variable {v x y : ℚ}

theorem IsDouble.nonneg
    (h : IsDouble v) :
    0 ≤ v := by
  rcases h with ⟨k, e, rfl, -, -⟩
  positivity

theorem isDouble_natCast
    {n : ℕ}
    (h : n ≤ 2 ^ 53) :
    IsDouble n :=
  ⟨n, 0, by simp, h, by norm_num⟩

theorem isDouble_two_zpow
    {e : ℤ}
    (h : -1074 ≤ e) :
    IsDouble (2 ^ e) :=
  ⟨1, e, by simp, by norm_num, h⟩

/- A double is a whole number of last places of a number, or
   there is such a number between the two. -/
theorem IsDouble.multiple_or_le
    (h : IsDouble v)
    (hPos : 0 < x) :
    (∃ n : ℕ, v = n * lastPlace x) ∨
      ∃ n : ℕ,
        v ≤ n * lastPlace x ∧ n * lastPlace x ≤ x := by
  rcases h with ⟨k, e, rfl, hWidth, hLow⟩
  by_cases hFine : unitExponent x ≤ e
  · left
    rcases Int.le.dest hFine with ⟨shift, hShift⟩
    refine ⟨k * 2 ^ shift, ?_⟩
    rw [← hShift, zpow_add₀ (by norm_num), lastPlace]
    push_cast
    rw [zpow_natCast]
    ring
  · right
    have hCoarse : e + 1 ≤ unitExponent x := by omega
    have hCast : ((2 ^ 52 : ℕ) : ℚ) = 2 ^ 52 := by norm_num
    refine ⟨2 ^ 52, ?_, ?_⟩
    · calc
        (k : ℚ) * 2 ^ e ≤ 2 ^ 53 * 2 ^ e := by
          gcongr
          exact_mod_cast hWidth
        _ = 2 ^ 52 * 2 ^ (e + 1) := by
          rw [zpow_add₀ (by norm_num)]
          ring
        _ ≤ ((2 ^ 52 : ℕ) : ℚ) * lastPlace x := by
          rw [hCast, lastPlace]
          gcongr
          norm_num
    · rw [hCast]
      exact lastPlace_le hPos (by omega)

theorem nearestDouble_zero :
    nearestDouble 0 = 0 := by
  rw [nearestDouble_eq, zero_div]
  have hZero : roundHalfEven 0 = 0 :=
    roundHalfEven_intCast 0
  rw [hZero, Int.cast_zero, zero_mul]

/- Rounding passes no whole number of last places. -/
theorem mul_lastPlace_le_nearestDouble
    {n : ℕ}
    (h : n * lastPlace x ≤ x) :
    n * lastPlace x ≤ nearestDouble x := by
  have hPlace := lastPlace_pos x
  have hScaled : ((n : ℤ) : ℚ) ≤ x / lastPlace x := by
    rw [le_div_iff₀ hPlace]
    exact_mod_cast h
  rw [nearestDouble_eq]
  gcongr
  exact_mod_cast le_roundHalfEven hScaled

theorem nearestDouble_le_mul_lastPlace
    {n : ℕ}
    (h : x ≤ n * lastPlace x) :
    nearestDouble x ≤ n * lastPlace x := by
  have hPlace := lastPlace_pos x
  have hScaled : x / lastPlace x ≤ ((n : ℤ) : ℚ) := by
    rw [div_le_iff₀ hPlace]
    exact_mod_cast h
  rw [nearestDouble_eq]
  gcongr
  exact_mod_cast roundHalfEven_le hScaled

/- Rounding passes no double on its way down. -/
theorem IsDouble.le_nearestDouble
    (h : IsDouble v)
    (hLe : v ≤ x) :
    v ≤ nearestDouble x := by
  rcases eq_or_lt_of_le (h.nonneg.trans hLe) with rfl | hPos
  · rwa [nearestDouble_zero]
  rcases h.multiple_or_le hPos with
    ⟨n, rfl⟩ | ⟨n, hSmall, hFull⟩
  · exact mul_lastPlace_le_nearestDouble hLe
  · exact hSmall.trans (mul_lastPlace_le_nearestDouble hFull)

/- Nor does it on its way up. -/
theorem IsDouble.nearestDouble_le
    (h : IsDouble v)
    (hNonneg : 0 ≤ x)
    (hLe : x ≤ v) :
    nearestDouble x ≤ v := by
  rcases eq_or_lt_of_le hNonneg with rfl | hPos
  · rwa [nearestDouble_zero]
  rcases h.multiple_or_le hPos with
    ⟨n, rfl⟩ | ⟨n, hSmall, hFull⟩
  · exact nearestDouble_le_mul_lastPlace hLe
  · have hSame : v = n * lastPlace x :=
      le_antisymm hSmall (hFull.trans hLe)
    rw [hSame] at hLe ⊢
    exact nearestDouble_le_mul_lastPlace hLe

/- Rounding leaves doubles as they are. -/
theorem IsDouble.nearestDouble_eq
    (h : IsDouble v) :
    nearestDouble v = v :=
  le_antisymm (h.nearestDouble_le h.nonneg le_rfl)
    (h.le_nearestDouble le_rfl)

/- The significand of a rounded number. -/
theorem exists_nearestDouble_eq
    (h : 0 < x) :
    ∃ n : ℕ,
      nearestDouble x = n * lastPlace x ∧ n ≤ 2 ^ 53 := by
  have hPlace := lastPlace_pos x
  have hBound : 0 ≤ roundHalfEven (x / lastPlace x) :=
    le_roundHalfEven (by
      push_cast
      positivity)
  have hWidth : roundHalfEven (x / lastPlace x) ≤ 2 ^ 53 :=
    roundHalfEven_le (by
      rw [div_le_iff₀ hPlace]
      push_cast
      exact (lt_lastPlace h).le)
  rcases Int.eq_ofNat_of_zero_le hBound with ⟨n, hEq⟩
  refine ⟨n, ?_, by omega⟩
  rw [nearestDouble_eq, hEq]
  norm_cast

theorem isDouble_nearestDouble
    (h : 0 ≤ x) :
    IsDouble (nearestDouble x) := by
  rcases eq_or_lt_of_le h with rfl | hPos
  · rw [nearestDouble_zero]
    exact_mod_cast isDouble_natCast (Nat.zero_le _)
  rcases exists_nearestDouble_eq hPos with
    ⟨n, hMultiple, hWidth⟩
  exact ⟨n, unitExponent x, hMultiple, hWidth,
    le_max_right _ _⟩

/- Rounding keeps numbers in their order.  Below another power
   of two there is a double between them. -/
theorem nearestDouble_mono
    (hNonneg : 0 ≤ x)
    (h : x ≤ y) :
    nearestDouble x ≤ nearestDouble y := by
  rcases eq_or_lt_of_le hNonneg with rfl | hPos
  · rw [nearestDouble_zero]
    exact (isDouble_nearestDouble (hNonneg.trans h)).nonneg
  rcases eq_or_lt_of_le (unitExponent_mono hPos h) with
    hSame | hLess
  · have hPlace : lastPlace x = lastPlace y := by
      rw [lastPlace, hSame, lastPlace]
    rw [Redeploy.nearestDouble_eq, Redeploy.nearestDouble_eq,
      hPlace]
    have hPlace := lastPlace_pos y
    gcongr
    exact roundHalfEven_mono (by gcongr)
  · have hNormal : -1074 < unitExponent y :=
      lt_of_le_of_lt (le_max_right _ _) hLess
    have hPower :
        (2 : ℚ) ^ (52 + unitExponent y) =
          2 ^ 52 * lastPlace y := by
      rw [zpow_add₀ (by norm_num), lastPlace]
      norm_num
    have hDouble : IsDouble (2 ^ (52 + unitExponent y)) :=
      isDouble_two_zpow (by omega)
    have hBelow : x ≤ 2 ^ (52 + unitExponent y) := by
      have hPlaces :
          (2 : ℚ) ^ 53 * lastPlace x =
            2 ^ (53 + unitExponent x) := by
        rw [zpow_add₀ (by norm_num), lastPlace]
        norm_num
      calc
        x ≤ 2 ^ 53 * lastPlace x := (lt_lastPlace hPos).le
        _ = 2 ^ (53 + unitExponent x) := hPlaces
        _ ≤ 2 ^ (52 + unitExponent y) :=
          zpow_le_zpow_right₀ (by norm_num) (by omega)
    have hAbove : (2 : ℚ) ^ (52 + unitExponent y) ≤ y := by
      rw [hPower]
      exact lastPlace_le (hPos.trans_le h) hNormal
    exact (hDouble.nearestDouble_le hNonneg hBelow).trans
      (hDouble.le_nearestDouble hAbove)

end Redeploy

------------------------------------------------------------
-- Errors
------------------------------------------------------------

namespace Redeploy

variable {v x : ℚ}

/- The last place of a number below a power of two. -/
theorem lastPlace_le_of_lt
    {e : ℤ}
    (hPos : 0 < x)
    (h : x < 2 ^ e)
    (hNormal : -1021 ≤ e) :
    lastPlace x ≤ 2 ^ (e - 53) := by
  have hLog : Int.log 2 x < e :=
    (Int.lt_zpow_iff_log_lt (by norm_num) hPos).mp
      (by exact_mod_cast h)
  apply zpow_le_zpow_right₀ (by norm_num)
  rw [unitExponent_eq hPos]
  omega

/- The last place of a number from a power of two on. -/
theorem le_unitExponent_of_le
    {e : ℤ}
    (h : 2 ^ e ≤ x) :
    e - 52 ≤ unitExponent x := by
  have hPos : 0 < x :=
    lt_of_lt_of_le (zpow_pos (by norm_num) e) h
  have hLog : e ≤ Int.log 2 x :=
    (Int.zpow_le_iff_le_log (by norm_num) hPos).mp
      (by exact_mod_cast h)
  rw [unitExponent_eq hPos]
  omega

theorem le_lastPlace_of_le
    {e : ℤ}
    (h : 2 ^ e ≤ x) :
    2 ^ (e - 52) ≤ lastPlace x :=
  zpow_le_zpow_right₀ (by norm_num) (le_unitExponent_of_le h)

/- How far rounding goes below a power of two. -/
theorem abs_nearestDouble_sub_le_of_lt
    {e : ℤ}
    (hNonneg : 0 ≤ x)
    (h : x < 2 ^ e)
    (hNormal : -1021 ≤ e) :
    |nearestDouble x - x| ≤ 2 ^ (e - 54) := by
  rcases eq_or_lt_of_le hNonneg with rfl | hPos
  · rw [nearestDouble_zero, sub_self, abs_zero]
    positivity
  calc
    |nearestDouble x - x| ≤ lastPlace x / 2 :=
      abs_nearestDouble_sub_le x
    _ ≤ 2 ^ (e - 53) / 2 := by
      gcongr
      exact lastPlace_le_of_lt hPos h hNormal
    _ = 2 ^ (e - 54) := by
      have hExponent : e - 53 = e - 54 + 1 := by ring
      rw [hExponent, zpow_add_one₀ (by norm_num)]
      ring

/- Rounding is off by one part in 2^53, unless a number is too
   small for that. -/
theorem abs_nearestDouble_sub_le_mul
    {e : ℤ}
    (h : 2 ^ e ≤ x)
    (hNormal : -1021 ≤ e) :
    |nearestDouble x - x| ≤ x * 2 ^ (-53 : ℤ) := by
  have hPos : 0 < x :=
    lt_of_lt_of_le (zpow_pos (by norm_num) e) h
  have hExponent : e - 52 ≤ unitExponent x :=
    le_unitExponent_of_le h
  calc
    |nearestDouble x - x| ≤ lastPlace x / 2 :=
      abs_nearestDouble_sub_le x
    _ = 2 ^ 52 * lastPlace x * 2 ^ (-53 : ℤ) := by
      norm_num
      ring
    _ ≤ x * 2 ^ (-53 : ℤ) := by
      gcongr
      exact lastPlace_le hPos (by omega)

/- A double is a whole number of its own last places. -/
theorem IsDouble.exists_eq_mul_lastPlace
    (h : IsDouble v)
    (hPos : 0 < v) :
    ∃ n : ℕ, v = n * lastPlace v := by
  rcases h.multiple_or_le hPos with
    hMultiple | ⟨n, hLe, hGe⟩
  · exact hMultiple
  · exact ⟨n, le_antisymm hLe hGe⟩

/- A large double is a whole number. -/
theorem IsDouble.exists_eq_natCast
    (h : IsDouble v)
    (hLarge : 2 ^ 53 ≤ v) :
    ∃ n : ℕ, v = n := by
  rcases h with ⟨k, e, rfl, hWidth, -⟩
  have hExponent : 0 ≤ e := by
    by_contra hNegative
    have hScale : (2 : ℚ) ^ e < 1 :=
      zpow_lt_one_of_neg₀ (by norm_num) (by omega)
    have hSmall : (k : ℚ) * 2 ^ e < 2 ^ 53 :=
      calc
        (k : ℚ) * 2 ^ e ≤ 2 ^ 53 * 2 ^ e := by
          gcongr
          exact_mod_cast hWidth
        _ < 2 ^ 53 * 1 := by gcongr
        _ = 2 ^ 53 := mul_one _
    exact absurd hLarge (not_le_of_gt hSmall)
  rcases Int.eq_ofNat_of_zero_le hExponent with ⟨n, rfl⟩
  exact ⟨k * 2 ^ n, by push_cast [zpow_natCast]; rfl⟩

/- A number with a fraction is no power of two from one on. -/
theorem mul_lastPlace_lt_of_fraction
    (hLarge : 1 ≤ v)
    (hFraction : ¬ ∃ n : ℕ, v = n) :
    2 ^ 52 * lastPlace v < v := by
  have hExponent : 0 - 52 ≤ unitExponent v :=
    le_unitExponent_of_le (by rwa [zpow_zero])
  have hLe : 2 ^ 52 * lastPlace v ≤ v :=
    lastPlace_le (by linarith) (by omega)
  refine lt_of_le_of_ne hLe fun hPower => ?_
  rcases Int.eq_ofNat_of_zero_le
      (show 0 ≤ 52 + unitExponent v by omega) with
    ⟨n, hEq⟩
  refine hFraction ⟨2 ^ n, ?_⟩
  have hShift : v = 2 ^ (52 + unitExponent v) := by
    rw [zpow_add₀ (by norm_num)]
    exact_mod_cast hPower.symm
  rw [hEq] at hShift
  exact_mod_cast hShift

/- A whole number of last places is the nearest double of all
   that differs from it by less than half of one. -/
theorem nearestDouble_eq_mul_lastPlace
    {n : ℕ}
    (h : |x - n * lastPlace x| < lastPlace x / 2) :
    nearestDouble x = n * lastPlace x := by
  have hPlace := lastPlace_pos x
  have hNear : |x / lastPlace x - (n : ℤ)| < 1 / 2 := by
    have hScaled :
        x / lastPlace x - (n : ℤ) =
          (x - n * lastPlace x) / lastPlace x := by
      rw [sub_div, mul_div_cancel_right₀ _ hPlace.ne',
        Int.cast_natCast]
    rw [hScaled, abs_div, abs_of_pos hPlace,
      div_lt_iff₀ hPlace]
    linarith
  rw [nearestDouble_eq, roundHalfEven_eq hNear,
    Int.cast_natCast]

/- The last place of a number that takes up 53 places. -/
theorem unitExponent_eq_of_places
    {e : ℤ}
    (hNormal : -1074 ≤ e)
    (hLow : 2 ^ 52 * 2 ^ e ≤ x)
    (hHigh : x < 2 ^ 53 * 2 ^ e) :
    unitExponent x = e := by
  have hPos : 0 < x := lt_of_lt_of_le (by positivity) hLow
  have hLog : Int.log 2 x = e + 52 := by
    apply log_eq_of_zpow_le
    · rw [zpow_add₀ (by norm_num), mul_comm]
      exact_mod_cast hLow
    · have hExponent : e + 52 + 1 = e + 53 := by ring
      rw [hExponent, zpow_add₀ (by norm_num), mul_comm]
      exact_mod_cast hHigh
  rw [unitExponent_eq hPos, hLog]
  omega

/- A double that is no power of two is the nearest one of all
   that differs from it by less than half its last place. -/
theorem IsDouble.nearestDouble_of_near
    (h : IsDouble v)
    (hNormal : -1074 < unitExponent v)
    (hInside : 2 ^ 52 * lastPlace v < v)
    (hNear : |x - v| < lastPlace v / 2) :
    nearestDouble x = v := by
  have hPlace := lastPlace_pos v
  have hPos : 0 < v := lt_trans (by positivity) hInside
  rcases h.exists_eq_mul_lastPlace hPos with ⟨n, hMultiple⟩
  have hLow : (2 ^ 52 + 1) * lastPlace v ≤ v := by
    have hMore : (2 : ℚ) ^ 52 < n :=
      lt_of_mul_lt_mul_right (hInside.trans_eq hMultiple)
        hPlace.le
    have hStep : (2 : ℚ) ^ 52 + 1 ≤ n := by
      exact_mod_cast hMore
    exact (mul_le_mul_of_nonneg_right hStep
      hPlace.le).trans_eq hMultiple.symm
  have hHigh : v ≤ (2 ^ 53 - 1) * lastPlace v := by
    have hLess : (n : ℚ) < 2 ^ 53 :=
      lt_of_mul_lt_mul_right
        (hMultiple.symm.trans_lt (lt_lastPlace hPos))
        hPlace.le
    have hStep : (n : ℚ) + 1 ≤ 2 ^ 53 := by
      exact_mod_cast hLess
    exact hMultiple.trans_le (mul_le_mul_of_nonneg_right
      (le_sub_iff_add_le.mpr hStep) hPlace.le)
  have hSides := abs_lt.mp hNear
  have hSame : lastPlace x = lastPlace v := by
    have hExponent : unitExponent x = unitExponent v := by
      apply unitExponent_eq_of_places hNormal.le
      · change 2 ^ 52 * lastPlace v ≤ x
        linarith
      · change x < 2 ^ 53 * lastPlace v
        linarith
    rw [lastPlace, hExponent, lastPlace]
  rw [hMultiple, ← hSame]
  apply nearestDouble_eq_mul_lastPlace
  rw [hSame, ← hMultiple]
  exact hNear

/- The last place of a large number is a whole number. -/
theorem exists_lastPlace_eq_natCast
    (h : 2 ^ (52 : ℤ) ≤ x) :
    ∃ n : ℕ, lastPlace x = n := by
  have hExponent : 0 ≤ unitExponent x :=
    le_unitExponent_of_le h
  rcases Int.eq_ofNat_of_zero_le hExponent with ⟨n, hEq⟩
  refine ⟨2 ^ n, ?_⟩
  rw [lastPlace, hEq]
  norm_cast

/- A fraction beside a large double is lost. -/
theorem IsDouble.nearestDouble_add
    {fraction : ℚ}
    (h : IsDouble v)
    (hLarge : 2 ^ 53 ≤ v)
    (hNonneg : 0 ≤ fraction)
    (hLess : fraction < 1) :
    nearestDouble (v + fraction) = v := by
  have hSum : (2 : ℚ) ^ (53 : ℤ) ≤ v + fraction := by
    have hPower : (2 : ℚ) ^ (53 : ℤ) = 2 ^ 53 := by norm_num
    rw [hPower]
    linarith
  have hCoarse : 2 ≤ lastPlace (v + fraction) := by
    have hPlace := le_lastPlace_of_le hSum
    norm_num at hPlace
    exact hPlace
  have hPos : 0 < v + fraction :=
    lt_of_lt_of_le (by positivity) hSum
  have hMultiple :
      ∃ n : ℕ, v = n * lastPlace (v + fraction) := by
    rcases h.multiple_or_le hPos with
      hMultiple | ⟨n, hLe, hGe⟩
    · exact hMultiple
    refine ⟨n, le_antisymm hLe ?_⟩
    -- Both are whole numbers, less than one apart.
    rcases h.exists_eq_natCast hLarge with ⟨a, hWhole⟩
    have hWide : (2 : ℚ) ^ (52 : ℤ) ≤ v + fraction :=
      le_trans (by norm_num) hSum
    rcases exists_lastPlace_eq_natCast hWide with
      ⟨places, hPlaces⟩
    rw [hPlaces] at hGe ⊢
    rw [hWhole] at hGe ⊢
    have hNext : n * places < a + 1 := by
      have hLt : (n : ℚ) * places < a + 1 := by linarith
      exact_mod_cast hLt
    exact_mod_cast Nat.le_of_lt_succ hNext
  rcases hMultiple with ⟨n, hMultiple⟩
  have hNear :
      |v + fraction - n * lastPlace (v + fraction)| <
        lastPlace (v + fraction) / 2 := by
    rw [← hMultiple, add_sub_cancel_left,
      abs_of_nonneg hNonneg]
    linarith
  exact (nearestDouble_eq_mul_lastPlace hNear).trans
    hMultiple.symm

/- The next double is reached by the least of factors above
   one. -/
theorem add_lastPlace_le_nearestDouble_mul
    {factor : ℚ}
    (hPos : 0 < x)
    (hNormal : -1074 < unitExponent x)
    (hFactor : 1 + 2 ^ (-52 : ℤ) ≤ factor) :
    nearestDouble x + lastPlace x ≤
      nearestDouble (nearestDouble x * factor) := by
  have hPlace := lastPlace_pos x
  have hReaches :
      nearestDouble x + nearestDouble x * 2 ^ (-52 : ℤ) ≤
        nearestDouble x * factor := by
    calc
      nearestDouble x + nearestDouble x * 2 ^ (-52 : ℤ) =
          nearestDouble x * (1 + 2 ^ (-52 : ℤ)) := by ring
      _ ≤ nearestDouble x * factor := by
        gcongr
        exact (isDouble_nearestDouble hPos.le).nonneg
  rcases exists_nearestDouble_eq hPos with
    ⟨n, hMultiple, hWidth⟩
  rcases eq_or_lt_of_le hWidth with hFull | hFree
  · -- The last place of the next double is twice as large.
    have hDouble :
        IsDouble (nearestDouble x + 2 * lastPlace x) := by
      refine ⟨2 ^ 52 + 1, unitExponent x + 1, ?_, by norm_num,
        ?_⟩
      · rw [hMultiple, hFull, zpow_add_one₀ (by norm_num),
          lastPlace]
        push_cast
        ring
      · have hLeast : -1074 ≤ unitExponent x :=
          le_max_right _ _
        omega
    have hStep :
        nearestDouble x * 2 ^ (-52 : ℤ) = 2 * lastPlace x := by
      rw [hMultiple, hFull]
      push_cast
      norm_num
      ring
    rw [hStep] at hReaches
    have hNext := hDouble.le_nearestDouble hReaches
    linarith
  · have hDouble : IsDouble (nearestDouble x + lastPlace x) := by
      refine ⟨n + 1, unitExponent x, ?_, hFree,
        le_max_right _ _⟩
      rw [hMultiple, lastPlace]
      push_cast
      ring
    have hLow : 2 ^ 52 * lastPlace x ≤ nearestDouble x := by
      have hRounded :=
        mul_lastPlace_le_nearestDouble (n := 2 ^ 52)
          (by exact_mod_cast lastPlace_le hPos hNormal)
      exact_mod_cast hRounded
    have hStep :
        lastPlace x ≤ nearestDouble x * 2 ^ (-52 : ℤ) := by
      norm_num
      linarith
    exact hDouble.le_nearestDouble (by linarith)

end Redeploy
