import ConferenceBridge.Double
import ConferenceBridge.Text.Numeral

/-!
# Whole numbers with places

A whole number can be written with places after a point, or by its first digits and an exponent of
ten. A number with more digits than are written is rounded, a half to the even neighbour. The point
is left out where no place follows it, unless it is asked for.
-/

namespace ConferenceBridge.Text

/-- The first digits of a number. -/
structure LeadingDigits where
  /-- The digits. -/
  digits : List Char
  /-- The exponent of ten that the first of them counts. -/
  exponent : Nat
  deriving DecidableEq

/-- A number rounded to a number of digits. Zeros fill the digits that it does not have. -/
def leadingDigits (count n : Nat) : LeadingDigits :=
  let surplus := (Nat.toDigits 10 n).length - count
  let rounded := Nat.toDigits 10 (roundedQuotient n (Nat.pow 10 surplus))
  { digits := (rounded ++ List.replicate count '0').take count
    exponent := rounded.length + surplus - 1 }

/-- A point and the places after it. -/
def afterPoint (point : Bool) (places : List Char) : List Char :=
  if places.isEmpty && !point then [] else '.' :: places

namespace LeadingDigits

/-- The same digits without the zeros at their end. -/
def withoutLastZeros (leading : LeadingDigits) : LeadingDigits :=
  { leading with digits := (leading.digits.reverse.dropWhile (· == '0')).reverse }

/-- The digits with the point behind those that count ones or more. -/
def positional (point : Bool) (leading : LeadingDigits) : List Char :=
  let wholeDigits := leading.exponent + 1
  leading.digits.take wholeDigits ++ List.replicate (wholeDigits - leading.digits.length) '0'
    ++ afterPoint point (leading.digits.drop wholeDigits)

/-- The digits with the point behind the first one, and an exponent of at least two digits. -/
def exponential (point : Bool) (leading : LeadingDigits) : List Char :=
  leading.digits.take 1 ++ afterPoint point (leading.digits.drop 1)
    ++ 'e' :: '+' :: paddedDigits 10 2 leading.exponent

end LeadingDigits

/-- A whole number with all its digits and a number of places. -/
def fixedChars (point : Bool) (places n : Nat) : List Char :=
  Nat.toDigits 10 n ++ afterPoint point (List.replicate places '0')

/-- A whole number with one digit before the point, a number of places, and an exponent. -/
def exponentialChars (point : Bool) (places n : Nat) : List Char :=
  (leadingDigits (places + 1) n).exponential point

/-- A whole number rounded to a number of digits, at least one. It has an exponent if it has more
digits than that. Zeros at the end of the places are left out, unless the point is asked for. -/
def generalChars (point : Bool) (count n : Nat) : List Char :=
  let leading := leadingDigits (max 1 count) n
  let shown := if point then leading else leading.withoutLastZeros
  if leading.exponent < max 1 count then shown.positional point else shown.exponential point

end ConferenceBridge.Text
