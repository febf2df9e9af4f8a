import Redeploy.Proofs.Backoff.Replay

/-
  How delays grow.

  Key definitions include:
    * `Binary64.Grows`

  Main results:
    * `Duration.grow?_eq_some_iff`
    * `Backoff.le_after`
    * `Backoff.after_after`
    * `Backoff.delays_grow`
    * `Backoff.delays_shrink`

  A multiplier above one never shrinks a delay.  Any other one
  leaves doubles as they are, but not every delay is one: the
  first delay may change once by being written as a double,
  and may get shorter by that.  Below 2^23 seconds it does
  not change.
-/

------------------------------------------------------------
-- Multipliers
------------------------------------------------------------

namespace Redeploy

/- A double above one is above it by the last place of one. -/
theorem IsDouble.add_le_of_one_lt
    {v : ℚ}
    (h : IsDouble v)
    (hAbove : 1 < v) :
    1 + 2 ^ (-52 : ℤ) ≤ v := by
  rcases h.exists_eq_mul_lastPlace (by linarith) with
    ⟨n, hMultiple⟩
  have hExponent : 0 - 52 ≤ unitExponent v :=
    le_unitExponent_of_le (by
      rw [zpow_zero]
      exact hAbove.le)
  rcases Int.eq_ofNat_of_zero_le
      (show 0 ≤ unitExponent v + 52 by omega) with
    ⟨shift, hShift⟩
  have hScaled : v * 2 ^ 52 = (n * 2 ^ shift : ℕ) := by
    have hPlace : lastPlace v * 2 ^ 52 = 2 ^ shift := by
      have hPower :
          (2 : ℚ) ^ (unitExponent v + 52) = 2 ^ shift := by
        rw [hShift]
        exact zpow_natCast 2 shift
      rw [← hPower, zpow_add₀ (by norm_num), lastPlace]
      norm_num
    push_cast
    rw [← hPlace, ← mul_assoc, ← hMultiple]
  have hMore : (2 : ℚ) ^ 52 < (n * 2 ^ shift : ℕ) := by
    rw [← hScaled]
    linarith
  have hStep : (2 : ℚ) ^ 52 + 1 ≤ (n * 2 ^ shift : ℕ) := by
    exact_mod_cast hMore
  rw [← hScaled] at hStep
  norm_num at hStep ⊢
  linarith

namespace Binary64

/- Whether a multiplier is a number above one. -/
def Grows
    (multiplier : Binary64) : Prop :=
  ∃ r, multiplier.value? = some r ∧ 1 < r

variable {multiplier : Binary64}

theorem isDouble_magnitude
    (b : Binary64) :
    IsDouble b.magnitude := by
  have hLimit : fractionLimit = 2 ^ 52 := rfl
  have hFraction : b.fraction < fractionLimit :=
    Nat.mod_lt _ (by decide)
  unfold magnitude
  split
  · exact ⟨b.fraction, -1074, rfl, by omega, le_rfl⟩
  next hField =>
    exact ⟨fractionLimit + b.fraction, _, rfl, by omega,
      by omega⟩

/- A number above one is a factor that is above one by the
   least that is possible. -/
theorem Grows.le_growth
    (h : multiplier.Grows) :
    1 + 2 ^ (-52 : ℤ) ≤ multiplier.growth?.getD 1 := by
  rcases h with ⟨r, hValue, hAbove⟩
  have hFactor : multiplier.growth?.getD 1 = r := by
    rw [growth?, hValue]
    exact congrArg (Option.getD · 1) (if_pos hAbove.le)
  rw [hFactor]
  have hDouble : IsDouble r := by
    unfold value? at hValue
    split at hValue
    · cases hValue
    split at hValue
    · cases hValue
      have hNonneg := multiplier.isDouble_magnitude.nonneg
      linarith
    · cases hValue
      exact multiplier.isDouble_magnitude
  exact hDouble.add_le_of_one_lt hAbove

/- All other multipliers count as one. -/
theorem growth_of_not_grows
    (h : ¬ multiplier.Grows) :
    multiplier.growth?.getD 1 = 1 := by
  unfold growth?
  cases hValue : multiplier.value? with
  | none => rfl
  | some r =>
      dsimp only
      split
      next hLeast =>
        exact le_antisymm
          (not_lt.mp fun hAbove => h ⟨r, hValue, hAbove⟩)
          hLeast
      next => rfl

end Binary64

end Redeploy

------------------------------------------------------------
-- One Step
------------------------------------------------------------

namespace Redeploy

/- Durations are far from the largest double. -/
theorem Duration.seconds_le
    (d : Duration) :
    d.seconds ≤ 2 ^ (65 : ℤ) := by
  have hSecs : nearestDouble d.secs ≤ 2 ^ (64 : ℤ) := by
    apply (isDouble_two_zpow (by norm_num)).nearestDouble_le
      (Nat.cast_nonneg _)
    exact_mod_cast d.secs_lt.le
  have hFraction := d.subsecDouble_lt_one
  apply (isDouble_two_zpow (by norm_num)).nearestDouble_le
    (add_nonneg d.isDouble_secs.nonneg d.subsecDouble_nonneg)
  norm_num at hSecs ⊢
  linarith

/- To grow by one is to go to a double and back. -/
theorem Duration.grow?_one
    (d : Duration) :
    d.grow? 1 = d.kept := by
  have hInRange : d.seconds < 2 ^ (1024 : ℤ) :=
    lt_of_le_of_lt d.seconds_le
      (zpow_lt_zpow_right₀ (by norm_num) (by norm_num))
  rw [grow?, mul_one, double?,
    d.isDouble_seconds.nearestDouble_eq]
  rw [if_pos hInRange]
  rfl

/- What a duration grows to. -/
theorem Duration.grow?_eq_some_iff
    {d longer : Duration}
    {factor : ℚ}
    (hFactor : 0 ≤ factor) :
    d.grow? factor = some longer ↔
      nearestDouble (d.seconds * factor) < 2 ^ (1024 : ℤ) ∧
        roundHalfEven
            (nearestDouble (d.seconds * factor) *
              nanosPerSec) =
          longer.nanos := by
  have hNonneg : 0 ≤ nearestDouble (d.seconds * factor) :=
    (isDouble_nearestDouble
      (mul_nonneg d.isDouble_seconds.nonneg hFactor)).nonneg
  unfold grow? double?
  dsimp only
  split
  next hInRange =>
    rw [Option.bind_some, ofSeconds?_eq_some_iff hNonneg]
    exact (and_iff_right hInRange).symm
  next hBeyond =>
    constructor
    · intro h
      cases h
    · exact fun h => absurd h.1 hBeyond

/- To grow by more is to get longer. -/
theorem Duration.le_of_grow?
    {d longer : Duration}
    {factor : ℚ}
    (hFactor : 1 + 2 ^ (-52 : ℤ) ≤ factor)
    (h : d.grow? factor = some longer) :
    d ≤ longer := by
  have hValue := value_le_nearestDouble_mul (d := d) hFactor
  have hRounded :
      (d.nanos : ℤ) ≤
        roundHalfEven
          (nearestDouble (d.seconds * factor) *
            nanosPerSec) := by
    apply le_roundHalfEven
    rw [Int.cast_natCast, ← value_mul]
    gcongr
  have hNonneg : 0 ≤ factor :=
    le_trans (by positivity) hFactor
  rw [((grow?_eq_some_iff hNonneg).mp h).2] at hRounded
  exact_mod_cast hRounded

namespace Backoff

variable {b : Backoff}
variable {d : Duration}

/- A delay within the cap does not shrink by growing. -/
theorem le_after
    (hFactor : 1 + 2 ^ (-52 : ℤ) ≤ b.factor)
    (h : d ≤ b.cap) :
    d ≤ b.after d := by
  unfold after
  split
  next longer hGrown =>
    exact le_min (Duration.le_of_grow? hFactor hGrown) h
  next => exact h

theorem after_of_kept
    {d' : Duration}
    (hFactor : b.factor = 1)
    (hKept : d.kept = some d') :
    b.after d = min d' b.cap := by
  rw [after, hFactor, Duration.grow?_one, hKept]

theorem after_of_lost
    (hFactor : b.factor = 1)
    (hLost : d.kept = none) :
    b.after d = b.cap := by
  rw [after, hFactor, Duration.grow?_one, hLost]

/- A delay that does not grow changes once at most. -/
theorem after_after
    (hFactor : b.factor = 1)
    (h : d ≤ b.cap) :
    b.after (b.after d) = b.after d := by
  -- What follows a delay that the cap has cut.
  have hCapped
      (hCut :
        ∀ d', d.kept = some d' → b.cap ≤ d') :
      b.after b.cap = b.cap := by
    cases hCap : b.cap.kept with
    | none => exact after_of_lost hFactor hCap
    | some cap' =>
        rcases Duration.kept_mono h hCap with
          ⟨d', hKept, hLe⟩
        rw [after_of_kept hFactor hCap]
        exact min_eq_right ((hCut d' hKept).trans hLe)
  cases hKept : d.kept with
  | none =>
      rw [after_of_lost hFactor hKept]
      refine hCapped fun d' hSome => ?_
      rw [hKept] at hSome
      cases hSome
  | some d' =>
      rw [after_of_kept hFactor hKept]
      rcases le_total d' b.cap with hFits | hCut
      · rw [min_eq_left hFits,
          after_of_kept hFactor (Duration.kept_kept hKept),
          min_eq_left hFits]
      · rw [min_eq_right hCut]
        refine hCapped fun e hSome => ?_
        rw [hKept] at hSome
        cases hSome
        exact hCut

/- A short delay that does not grow does not change. -/
theorem after_of_lt
    (hFactor : b.factor = 1)
    (h : d ≤ b.cap)
    (hShort : d.nanos < 2 ^ 23 * Duration.nanosPerSec) :
    b.after d = d := by
  rw [after_of_kept hFactor (Duration.kept_of_lt hShort)]
  exact min_eq_left h

end Backoff

end Redeploy

------------------------------------------------------------
-- All Delays
------------------------------------------------------------

namespace Redeploy

namespace Backoff

open Delays (nth rest)

/- Each delay is what follows the one before it. -/
theorem nth_add_one
    (b : Backoff)
    (n : Nat) :
    nth b (n + 1) = b.after (nth b n) := by
  have hAfter :
      (rest b n).after (rest b n).current =
        b.after (rest b n).current := by
    rw [rest_eq]
    rfl
  exact hAfter

/-
  By a multiplier above one no delay is shorter than the one
  before it.  By any other one, all delays but the first are
  the same, and the first is the same as well exactly if the
  second is, as it is below 2^23 seconds.
-/
theorem delays_grow
    (initial cap : Duration)
    (multiplier : Binary64) :
    let delay := nth (start initial cap multiplier)
    delay 0 = min initial cap ∧
      (multiplier.Grows → ∀ n, delay n ≤ delay (n + 1)) ∧
      (¬ multiplier.Grows →
        (∀ n, delay (n + 1) = delay 1) ∧
        ((∀ n, delay n = min initial cap) ↔
          delay 1 = min initial cap) ∧
        ((min initial cap).nanos <
            2 ^ 23 * Duration.nanosPerSec →
          ∀ n, delay n = min initial cap)) := by
  intro delay
  have hStart : (start initial cap multiplier).AtStart := rfl
  refine ⟨rfl, ?_, ?_⟩
  · intro hGrows n
    change nth _ n ≤ nth _ (n + 1)
    rw [nth_add_one]
    exact le_after hGrows.le_growth (hStart.nth_le n)
  intro hNot
  have hFactor : (start initial cap multiplier).factor = 1 :=
    Binary64.growth_of_not_grows hNot
  have hSettled (n : Nat) : delay (n + 1) = delay 1 := by
    induction n with
    | zero => rfl
    | succ n ih =>
        calc
          delay (n + 1 + 1) =
              (start initial cap multiplier).after
                (delay (n + 1)) := nth_add_one _ _
          _ = (start initial cap multiplier).after
                (delay 1) := by rw [ih]
          _ = delay 1 :=
            after_after hFactor (hStart.nth_le 0)
  have hConstant
      (hSecond : delay 1 = min initial cap)
      (n : Nat) :
      delay n = min initial cap := by
    cases n with
    | zero => rfl
    | succ n => exact (hSettled n).trans hSecond
  refine ⟨hSettled, ⟨fun hAll => hAll 1, hConstant⟩, ?_⟩
  intro hShort
  exact hConstant
    (after_of_lt hFactor (hStart.nth_le 0) hShort)

/- By a multiplier of one half, 2^23 seconds and 23 nanoseconds
   lose a nanosecond. -/
theorem delays_shrink :
    let first : Duration := ⟨8388608000000023, by decide⟩
    let second : Duration := ⟨8388608000000022, by decide⟩
    let half : Binary64 := ⟨0x3FE0000000000000⟩
    half.value? = some (1 / 2) ∧
      ((start first (.ofSecs 4294967296) half).delays 2).1 =
        [first, second] ∧
      ¬ first ≤ second := by
  decide +kernel

end Backoff

end Redeploy
