import Bestiary.Number.Binary64

/-!
The shortest decimal text that reads back as a given double.

The digits come first: for one digit, two digits, and so on, the two decimals
next to the exact value are tried, and the first that lies in the interval of
reals rounding to the double is taken. The layout comes second: positional
for moderate exponents, in scientific form beyond them.
-/

namespace Bestiary.Number

/-- The reals that round to a finite double; the ends belong to it when its significand is even. -/
structure RoundingInterval where
  low : Rat
  high : Rat
  closed : Bool

def roundingInterval (significand : Nat) (exponent : Int) : RoundingInterval :=
  let quarter := power 2 (exponent - 2)
  let below : Nat :=
    if significand = Nat.pow 2 52 ∧ exponent ≠ Binary64.leastExponent then 1 else 2
  { low := (((4 * significand : Nat) : Rat) - (below : Nat)) * quarter
    high := (((4 * significand : Nat) : Rat) + 2) * quarter
    closed := significand % 2 == 0 }

def RoundingInterval.holds (interval : RoundingInterval) (point : Rat) : Bool :=
  if interval.closed then interval.low ≤ point && point ≤ interval.high
  else interval.low < point && point < interval.high

structure Decimal where
  digits : Nat
  exponent : Int

def Decimal.value (decimal : Decimal) : Rat :=
  (decimal.digits : Rat) * power 10 decimal.exponent

/-- The decimal of a given number of digits that stands for the value, if one of its two neighbours
does. -/
def neighbourOn? (interval : RoundingInterval) (value : Rat) (count : Nat) : Option Decimal :=
  let exponent := decimalExponent value - (count - 1 : Nat)
  let step := power 10 exponent
  let below : Decimal := ⟨(value / step).floor.toNat, exponent⟩
  let above : Decimal := ⟨below.digits + 1, exponent⟩
  match interval.holds below.value, interval.holds above.value with
  | true, true =>
      let gapBelow := value - below.value
      let gapAbove := above.value - value
      if gapBelow < gapAbove then some below
      else if gapAbove < gapBelow then some above
      else if below.digits % 2 = 0 then some below else some above
  | true, false => some below
  | false, true => some above
  | false, false => none

/-- The shortest decimal that reads back as a nonzero finite magnitude; seventeen digits always
suffice. -/
def shortestDecimal (significand : Nat) (exponent : Int) : Decimal :=
  let value := Binary64.magnitude significand exponent
  let interval := roundingInterval significand exponent
  (((List.range 17).map (· + 1)).findSome? (neighbourOn? interval value)).getD
    ⟨significand, 0⟩

/-- The decisions of the layout of a number's text. -/
structure Layout where
  /-- Exponents of the leading digit that are written positionally lie from here, inclusive, -/
  positionalFrom : Int
  /-- to here, exclusive. -/
  positionalTo : Int
  /-- The least number of digits of a written exponent. -/
  exponentDigits : Nat

/-- Numbers in messages: positional from four places after the point to sixteen before it. -/
def messageLayout : Layout := ⟨-4, 16, 2⟩

private def dropTrailingZeros (digits : List Char) : List Char :=
  (digits.reverse.dropWhile (· == '0')).reverse

/-- The text of a magnitude whose leading digit stands at the given exponent. -/
def Layout.write (layout : Layout) (digits : List Char) (leading : Int) : List Char :=
  if layout.positionalFrom ≤ leading ∧ leading < layout.positionalTo then
    if leading < 0 then
      '0' :: '.' :: List.replicate (-leading - 1).toNat '0' ++ digits
    else
      let places := leading.toNat + 1
      if digits.length ≤ places then
        digits ++ List.replicate (places - digits.length) '0' ++ ['.', '0']
      else digits.take places ++ '.' :: digits.drop places
  else
    let mantissa :=
      match digits with
      | head :: second :: rest => head :: '.' :: second :: rest
      | short => short
    let size := Nat.toDigits 10 leading.natAbs
    mantissa ++ 'e' :: (if leading < 0 then '-' else '+') ::
      List.replicate (layout.exponentDigits - size.length) '0' ++ size

def shortestText (number : Binary64) : String :=
  match number with
  | .nan => "nan"
  | .infinite negative => if negative then "-inf" else "inf"
  | .finite negative significand exponent =>
      let size :=
        if significand = 0 then messageLayout.write ['0'] 0
        else
          let decimal := shortestDecimal significand exponent
          let digits := Nat.toDigits 10 decimal.digits
          messageLayout.write (dropTrailingZeros digits)
            (decimal.exponent + (digits.length - 1 : Nat))
      String.ofList (if negative then '-' :: size else size)

end Bestiary.Number
