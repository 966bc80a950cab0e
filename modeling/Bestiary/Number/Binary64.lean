import Bestiary.Number.Numeral
import Bestiary.Text.Case

/-!
Integer powers as exact rationals, doubles by their parts, and reading doubles.

A finite double is a signed significand times a power of two, so its value is
an exact rational, and the double nearest to a rational is found in exact
arithmetic. Text is read leniently: decimals with an optional exponent, and
the words for what is no finite number.
-/

namespace Bestiary.Number

def power (base : Nat) (exponent : Int) : Rat :=
  if 0 ≤ exponent then (Nat.pow base exponent.toNat : Rat)
  else mkRat 1 (Nat.pow base (-exponent).toNat)

/-- The number of decimal digits of a natural number; zero has one. -/
def digitCount (number : Nat) : Nat :=
  (Nat.toDigits 10 number).length

/-- The exponent of the largest power of ten that does not exceed a positive rational. -/
def decimalExponent (value : Rat) : Int :=
  let estimate : Int := (digitCount value.num.natAbs : Int) - (digitCount value.den : Int)
  if power 10 estimate ≤ value then estimate else estimate - 1

inductive Binary64
  | nan
  | infinite (negative : Bool)
  | finite (negative : Bool) (significand : Nat) (exponent : Int)
  deriving DecidableEq, Repr

namespace Binary64

/-- The least exponent of a significand, which the subnormal doubles share. -/
def leastExponent : Int := -1074

def magnitude (significand : Nat) (exponent : Int) : Rat :=
  (significand : Rat) * power 2 exponent

def signedMagnitude (negative : Bool) (significand : Nat) (exponent : Int) : Rat :=
  if negative then -magnitude significand exponent else magnitude significand exponent

/-- The exact value of a double that is a number. -/
def value? : Binary64 → Option Rat
  | finite negative significand exponent => some (signedMagnitude negative significand exponent)
  | _ => none

def isZero : Binary64 → Bool
  | finite _ 0 _ => true
  | _ => false

/-- Whether a double is less than another; what is no number compares with nothing. -/
def isLess : Binary64 → Binary64 → Bool
  | nan, _ => false
  | _, nan => false
  | infinite negative, infinite negative' => negative && !negative'
  | infinite negative, finite _ _ _ => negative
  | finite _ _ _, infinite negative => !negative
  | finite negative significand exponent, finite negative' significand' exponent' =>
      decide (signedMagnitude negative significand exponent <
        signedMagnitude negative' significand' exponent')

instance : LT Binary64 where
  lt first second := first.isLess second = true

instance (first second : Binary64) : Decidable (first < second) :=
  inferInstanceAs (Decidable (first.isLess second = true))

def precision : Nat := 53

/-- The natural number nearest to a quotient; halfway between two, the even one. -/
def nearestNat (numerator denominator : Nat) : Nat :=
  let below := numerator / denominator
  let rest := numerator % denominator
  if 2 * rest < denominator then below
  else if denominator < 2 * rest then below + 1
  else below + below % 2

/-- The exponent of the largest power of two that does not exceed a positive rational. -/
def leadingExponent (value : Rat) : Int :=
  let estimate : Int := (Nat.log2 value.num.natAbs : Int) - (Nat.log2 value.den : Int)
  if power 2 estimate ≤ value then estimate else estimate - 1

/-- The exponent of the significand that stands for a positive rational. -/
def roundingExponent (value : Rat) : Int :=
  let wanted := leadingExponent value - (precision - 1 : Nat)
  if wanted < leastExponent then leastExponent else wanted

/-- The finite double with a rounded significand, which carries into the exponent where it reaches
the next power of two. -/
def carry (negative : Bool) (significand : Nat) (exponent : Int) : Binary64 :=
  if significand = Nat.pow 2 precision then
    finite negative (Nat.pow 2 (precision - 1)) (exponent + 1)
  else finite negative significand exponent

/-- The double nearest to a positive rational, of two the one with an even significand; halfway
past the largest double lies infinity. -/
def nearest (negative : Bool) (value : Rat) : Binary64 :=
  let exponent := roundingExponent value
  let scaled := value / power 2 exponent
  let significand := nearestNat scaled.num.natAbs scaled.den
  if power 2 1024 ≤ magnitude significand exponent then infinite negative
  else carry negative significand exponent

end Binary64

/-- The double nearest to a decimal: digits times a power of ten. Beyond four hundred places either
way nothing is left to round. -/
def nearestDouble (negative : Bool) (digits : Nat) (exponent : Int) : Binary64 :=
  let places := (digitCount digits : Int) + exponent
  if digits = 0 ∨ places < -400 then .finite negative 0 Binary64.leastExponent
  else if 400 < places then .infinite negative
  else Binary64.nearest negative ((digits : Rat) * power 10 exponent)

def doubleOfInt (number : Int) : Binary64 :=
  nearestDouble (decide (number < 0)) number.natAbs 0

def splitSign : List Char → Bool × List Char
  | '-' :: rest => (true, rest)
  | '+' :: rest => (false, rest)
  | rest => (false, rest)

/-- An exponent after its mark; without digits there is none. -/
def plainExponent? (written : List Char) : Option Int :=
  let (downward, digits) := splitSign written
  if digits.isEmpty || !digits.all isPlainDigit then none
  else
    let size : Int := Nat.ofDigitChars 10 digits 0
    some (if downward then -size else size)

/-- The float that a decimal stands for; it has at least one digit before or after its point. -/
def decimalFloat? (negative : Bool) (unsigned : List Char) : Option Binary64 :=
  let whole := unsigned.takeWhile isPlainDigit
  let (places, afterPlaces) : List Char × List Char :=
    match unsigned.dropWhile isPlainDigit with
    | '.' :: rest => (rest.takeWhile isPlainDigit, rest.dropWhile isPlainDigit)
    | rest => ([], rest)
  let nearest (scale : Int) : Binary64 :=
    nearestDouble negative (Nat.ofDigitChars 10 (whole ++ places) 0) (scale - places.length)
  if whole.isEmpty && places.isEmpty then none
  else
    match afterPlaces with
    | [] => some (nearest 0)
    | mark :: written =>
        if mark == 'e' || mark == 'E' then (plainExponent? written).map nearest else none

def plainFloat? (content : List Char) : Option Binary64 :=
  let (negative, unsigned) := splitSign content
  let word := Text.lower (String.ofList unsigned)
  if word == "inf" || word == "infinity" then some (.infinite negative)
  else if word == "nan" then some .nan
  else decimalFloat? negative unsigned

/-- Read a float leniently: blanks may surround it, or single underscores may divide it, but not
both. -/
def floatOfText? (text : String) : Option Binary64 :=
  plainFloat? (Text.trimBy isOuterBlank text).toList <|>
    (withoutUnderscores? text.toList).bind plainFloat?

end Bestiary.Number
