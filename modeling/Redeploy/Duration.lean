import Redeploy.Rounding

/-
  Lengths of time.

  Key definitions include:
    * `Duration`
    * `Duration.ofSecs`
    * `Duration.ofMillis`
    * `Duration.seconds`
    * `Duration.ofSeconds?`
    * `Duration.ceilMillis`
    * `Duration.text`

  A duration is a whole number of nanoseconds below 2^64
  seconds.  As a double it counts seconds; back from a
  number of seconds it is rounded to the nearest nanosecond.
-/

------------------------------------------------------------
-- Durations
------------------------------------------------------------

namespace Redeploy

/- A limit for whole seconds: 2^64. -/
abbrev Duration.secsLimit : Nat := 0x10000000000000000

abbrev Duration.nanosPerSec : Nat := 1000000000

abbrev Duration.nanosPerMilli : Nat := 1000000

/- A number of nanoseconds, less than 2^64 seconds. -/
@[ext]
structure Duration where
  nanos : Nat
  nanos_lt :
    nanos < Duration.secsLimit * Duration.nanosPerSec := by
      decide
deriving DecidableEq

namespace Duration

def zero : Duration where
  nanos := 0

instance : Inhabited Duration := ⟨zero⟩

def ofSecs
    (n : Nat)
    (h : n < secsLimit := by decide) : Duration where
  nanos := n * nanosPerSec
  nanos_lt := Nat.mul_lt_mul_of_pos_right h (by decide)

def ofMillis
    (n : Nat)
    (h : n < secsLimit := by decide) : Duration where
  nanos := n * nanosPerMilli
  nanos_lt := by
    simp only [secsLimit, nanosPerMilli, nanosPerSec] at *
    omega

/- A number of nanoseconds, if it is in range. -/
def ofNanos?
    (n : Nat) : Option Duration :=
  if h : n < secsLimit * nanosPerSec then some ⟨n, h⟩
  else none

/- Whole seconds. -/
def secs
    (d : Duration) : Nat :=
  d.nanos / nanosPerSec

/- Nanoseconds beyond the whole seconds. -/
def subsecNanos
    (d : Duration) : Nat :=
  d.nanos % nanosPerSec

def isZero
    (d : Duration) : Bool :=
  d.nanos == 0

instance : LE Duration where
  le a b := a.nanos ≤ b.nanos

instance
    (a b : Duration) :
    Decidable (a ≤ b) :=
  inferInstanceAs (Decidable (a.nanos ≤ b.nanos))

instance : Min Duration where
  min a b := if a ≤ b then a else b

/- Whole milliseconds, a part of one counting as one. -/
def ceilMillis
    (d : Duration) : Nat :=
  (d.nanos + (nanosPerMilli - 1)) / nanosPerMilli

end Duration

end Redeploy

------------------------------------------------------------
-- Seconds
------------------------------------------------------------

namespace Redeploy

namespace Duration

/-
  The number of seconds as a double: the whole seconds and
  the fraction are rounded on their own, then their sum is.
-/
def seconds
    (d : Duration) : Rat :=
  nearestDouble
    (nearestDouble d.secs +
      nearestDouble (d.subsecNanos / nanosPerSec))

/-
  The duration nearest to a number of seconds that is not
  negative, unless it is too long.
-/
def ofSeconds?
    (x : Rat) : Option Duration :=
  ofNanos? (roundHalfEven (x * nanosPerSec)).toNat

end Duration

end Redeploy

------------------------------------------------------------
-- Text
------------------------------------------------------------

namespace Redeploy

namespace Duration

/- Ten to the number of places. -/
def unit
    (places : Nat) : Nat :=
  Nat.pow 10 places

/-
  The digits after the point of `n / unit places`, without
  the zeros at their end.
-/
def fractionDigits
    (places n : Nat) : List Char :=
  let digits := (toString (n % unit places)).toList
  let padded :=
    List.replicate (places - digits.length) '0' ++ digits
  (padded.reverse.dropWhile (· == '0')).reverse

/- The number `n / unit places` in full. -/
def decimal
    (places n : Nat) : String :=
  match fractionDigits places n with
  | [] => toString (n / unit places)
  | digits =>
      toString (n / unit places) ++ "." ++
        String.ofList digits

/-
  A duration in the largest unit of which it holds at least
  one, in full.
-/
def text
    (d : Duration) : String :=
  if unit 9 ≤ d.nanos then decimal 9 d.nanos ++ "s"
  else if unit 6 ≤ d.nanos then decimal 6 d.nanos ++ "ms"
  else if unit 3 ≤ d.nanos then decimal 3 d.nanos ++ "µs"
  else decimal 0 d.nanos ++ "ns"

end Duration

end Redeploy
