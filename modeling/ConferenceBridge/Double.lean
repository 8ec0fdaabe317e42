/-!
# Doubles nearest to decimal numbers

Where a number is taken as a double, it is the double nearest to it that counts, and of two equally
near ones the even one. This module says which whole number that double is, if it is one.
-/

namespace ConferenceBridge

/-- What the double nearest to a decimal number is. -/
inductive Nearest where
  /-- A whole number. -/
  | whole (value : Int)
  /-- A number between two neighbouring whole numbers. -/
  | fractional
  /-- Infinite, because the decimal number is out of range. -/
  | infinite
  deriving DecidableEq

/-- The quotient rounded to the nearest whole number, a half to the even one. -/
def roundedQuotient (num den : Nat) : Nat :=
  let quotient := num / den
  let rest := num % den
  if den < 2 * rest ∨ (den = 2 * rest ∧ quotient % 2 = 1) then quotient + 1 else quotient

/-- The power of two below which a double of the size of `num / den` has no digits. -/
def lowestPower (num den : Nat) : Int :=
  let size : Int := Nat.log2 num - Nat.log2 den
  let reached := if 0 ≤ size then den <<< size.toNat ≤ num else den ≤ num <<< (-size).toNat
  max (-1074) (if reached then size - 52 else size - 53)

/-- The double nearest to the positive number `num / den`. -/
def nearestToQuotient (num den : Nat) : Nearest :=
  let power := lowestPower num den
  let digits := if 0 ≤ power then roundedQuotient num (den <<< power.toNat)
    else roundedQuotient (num <<< (-power).toNat) den
  let value := if 0 ≤ power then digits <<< power.toNat else digits >>> (-power).toNat
  if 1 <<< 1024 ≤ value then .infinite
  else if power < 0 ∧ value <<< (-power).toNat ≠ digits then .fractional
  else .whole value

/-- The same for the number with the other sign. -/
def Nearest.negate : Nearest → Nearest
  | .whole value => .whole (-value)
  | other => other

/-- The double nearest to a number that is not negative. The first two cases only keep the powers
of ten small. -/
def nearestToPositive (mantissa : Nat) (exponent : Int) : Nearest :=
  if mantissa = 0 ∨ Nat.log2 mantissa + 3 * exponent < -1200 then .whole 0
  else if 400 < exponent then .infinite
  else if 0 ≤ exponent then nearestToQuotient (mantissa * Nat.pow 10 exponent.toNat) 1
  else nearestToQuotient mantissa (Nat.pow 10 (-exponent).toNat)

/-- The double nearest to `mantissa * 10 ^ exponent`. -/
def nearestDouble (mantissa exponent : Int) : Nearest :=
  if mantissa < 0 then (nearestToPositive mantissa.natAbs exponent).negate
  else nearestToPositive mantissa.natAbs exponent

end ConferenceBridge
