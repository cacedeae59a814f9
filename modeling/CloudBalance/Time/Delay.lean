/-!
# Waiting times

The time to wait after a failed attempt grows by a factor up to a limit. It is worked out in double
precision and then rounded to whole nanoseconds, a half to the even neighbour.
-/

namespace CloudBalance.Time

/-- How often to try, and how long to wait in between. -/
structure RetryPolicy where
  /-- Attempts at most, the first one included. -/
  maxAttempts : Nat
  /-- Nanoseconds before the second attempt. -/
  initialDelay : Nat
  /-- Nanoseconds between two attempts at most. -/
  maxDelay : Nat
  multiplier : Float
  deriving Repr

namespace RetryPolicy

/-- The same delay, in nanoseconds, between all attempts. -/
def fixed (maxAttempts delay : Nat) : RetryPolicy :=
  ⟨maxAttempts, delay, delay, 1.0⟩

/-- Three attempts, one second at first and then twice as long, up to half a minute. -/
def standard : RetryPolicy :=
  ⟨3, 1000000000, 30000000000, 2.0⟩

/-- For the name of a new balancer: three attempts, one second apart. -/
def dns : RetryPolicy :=
  fixed 3 1000000000

end RetryPolicy

/-- Seconds as a double: whole seconds plus the part of a second, each rounded. -/
def secondsOfNanos (nanos : Nat) : Float :=
  Float.ofNat (nanos / 1000000000) + Float.ofNat (nanos % 1000000000) / 1000000000.0

/-- The product of the squares that the binary digits of `n` select: `base ^ n` for `power = base`.
-/
def powerFrom (result power : Float) (n : Nat) : Float :=
  let result := if n % 2 = 1 then result * power else result
  if h : n / 2 = 0 then result else powerFrom result (power * power) (n / 2)
  termination_by n
  decreasing_by omega

/-- The power of a double to an integer, by repeated squaring. -/
def power (base : Float) (n : Int) : Float :=
  let magnitude := powerFrom 1.0 base n.natAbs
  if n < 0 then 1.0 / magnitude else magnitude

/-- `n / d` to the nearest integer, a half to the even one. -/
def divideToEven (n d : Nat) : Nat :=
  let quotient := n / d
  let twice := 2 * (n % d)
  if d < twice || (twice = d && quotient % 2 = 1) then quotient + 1 else quotient

/-- A number of seconds as nanoseconds, if it is not negative and below `UInt64.size`. -/
def nanosOfSeconds? (seconds : Float) : Option Nat :=
  if seconds < 0.0 || seconds.isNaN then none
  else
    let bits := seconds.toBits.toNat
    let biased := bits / Nat.pow 2 52 % Nat.pow 2 11
    let mantissa := bits % Nat.pow 2 52 + if biased = 0 then 0 else Nat.pow 2 52
    let exponent : Int := (if biased = 0 then 1 else biased : Nat) - 1075
    if 12 ≤ exponent then none
    else
      let scaled := mantissa * Nat.pow 2 exponent.toNat * 1000000000
      some (divideToEven scaled (Nat.pow 2 (-exponent).toNat))

/-- The smaller of two doubles; where one is not a number, the other. -/
def lesser (a b : Float) : Float :=
  if a.isNaN then b else if b.isNaN then a else if b < a then b else a

/-- Nanoseconds to wait after attempt number `attempt`, counted from one. The exponent is kept to 32
bits with sign, so it is negative for the upper half of the attempts that can be counted. There is
no such time if it would be negative or beyond all clocks. -/
def RetryPolicy.delayAfter (policy : RetryPolicy) (attempt : Nat) : Option Nat :=
  let exponent := Int.bmod (attempt - 1 : Nat) UInt32.size
  let scaled := secondsOfNanos policy.initialDelay * power policy.multiplier exponent
  nanosOfSeconds? (lesser scaled (secondsOfNanos policy.maxDelay))

end CloudBalance.Time
