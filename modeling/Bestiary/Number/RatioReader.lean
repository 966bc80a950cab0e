import Bestiary.Text.CharClass
import Bestiary.Number.Binary64

/-!
Reading rational numbers: a fraction, or a decimal with an optional exponent.

Digits may be grouped by single underscores. Blanks may surround the number
but not divide it.
-/

namespace Bestiary.Number

open Text

inductive RatioFault
  | malformed
  | zeroDenominator
  deriving DecidableEq, Repr

private def isDecimalDigit (character : Char) : Bool :=
  (decimalValue? character).isSome

/-- The digits at the front of a text, single underscores between them left out, and the rest. -/
def digitGroups : List Char → List Char × List Char
  | first :: '_' :: second :: rest =>
      if isDecimalDigit first then
        if isDecimalDigit second then
          let (digits, left) := digitGroups (second :: rest)
          (first :: digits, left)
        else ([first], '_' :: second :: rest)
      else ([], first :: '_' :: second :: rest)
  | first :: rest =>
      if isDecimalDigit first then
        let (digits, left) := digitGroups rest
        (first :: digits, left)
      else ([], first :: rest)
  | [] => ([], [])

private def signed : List Char → Bool × List Char
  | '-' :: rest => (true, rest)
  | '+' :: rest => (false, rest)
  | rest => (false, rest)

private def isAtEnd (left : List Char) : Bool :=
  left.all isBlank

private def exponent? (left : List Char) : Option Int :=
  match left with
  | mark :: rest =>
      if mark == 'e' || mark == 'E' then
        let (negative, unsigned) := signed rest
        let (digits, tail) := digitGroups unsigned
        if digits.isEmpty || !isAtEnd tail then none
        else (numeralValue? digits).map fun size => if negative then -(size : Int) else size
      else if isAtEnd left then some 0 else none
  | [] => some 0

private def unsignedRatio (input : List Char) : Except RatioFault Rat := do
  let (whole, afterWhole) := digitGroups input
  let value (digits : List Char) : Except RatioFault Nat :=
    match numeralValue? digits with
    | some number => pure number
    | none => throw .malformed
  match afterWhole with
  | '/' :: rest =>
      let (denominator, tail) := digitGroups rest
      if whole.isEmpty || denominator.isEmpty || !isAtEnd tail then throw .malformed
      let numerator ← value whole
      let divisor ← value denominator
      if divisor = 0 then throw .zeroDenominator
      pure (mkRat numerator divisor)
  | _ =>
      let (places, tail) : List Char × List Char :=
        match afterWhole with
        | '.' :: rest => digitGroups rest
        | rest => ([], rest)
      if whole.isEmpty && places.isEmpty then throw .malformed
      let scale ← match exponent? tail with
        | some scale => pure scale
        | none => throw .malformed
      let size ← value whole
      let parts ← value places
      pure (((size * Nat.pow 10 places.length + parts : Nat) : Rat) * power 10 (scale - places.length))

def ratioOfText (text : String) : Except RatioFault Rat := do
  let (negative, input) := signed (text.toList.dropWhile isBlank)
  let size ← unsignedRatio input
  pure (if negative then -size else size)

end Bestiary.Number
