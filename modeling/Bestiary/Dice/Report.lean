import Bestiary.Failure.Report
import Bestiary.Number.Numeral
import Bestiary.Text.CharClass

/-!
What can be wrong with dice notation, the words for it, and its report.
-/

namespace Bestiary

def Dice.countLimit : Nat := 999

/-- What is wrong with a text that should be dice. -/
inductive DiceFault
  | expectedDie
  | emptyExpression
  | noDice
  | expectedTerm (after : Option Char)
  | expectedOperator (found : Char)
  | expectedSeparator
  | expectedSides
  | zeroCount
  | countTooLarge
  | unknownFace (sides : Nat)
  | expectedDice
  | expectedFactorSign
  | expectedFactor
  | expectedDenominator
  | zeroDenominator
  | zeroDivisor
  | expectedClosing
  /-- A run of digits that is no numeral: one of them has no decimal value, or there are too
  many. -/
  | unreadableNumeral (digits : List Char)
  deriving DecidableEq, Repr

/-- A fault in dice notation, with the text and the offset at which it was met. -/
structure DiceError where
  fault : DiceFault
  expression : String
  position : Nat
  deriving DecidableEq, Repr

def numeralMessage (digits : List Char) : String :=
  if Text.numeralLimit < digits.length then
    "Exceeds the limit (" ++ toString Text.numeralLimit ++
      " digits) for integer string conversion: value has " ++ toString digits.length ++
      " digits; use sys.set_int_max_str_digits() to increase the limit"
  else "invalid literal for int() with base 10: " ++ Text.quoted (String.ofList digits)

namespace DiceFault

def message : DiceFault → String
  | expectedDie => "Expected a die such as 'd8'"
  | emptyExpression => "Empty dice expression"
  | noDice => "Dice expression contains no dice"
  | expectedTerm none => "Expected a term"
  | expectedTerm (some operator) =>
      "Expected a term after " ++ Text.quoted (String.singleton operator)
  | expectedOperator found =>
      "Expected '+' or '-' but found " ++ Text.quoted (String.singleton found)
  | expectedSeparator => "Expected 'd' between count and sides"
  | expectedSides => "Expected number of sides after 'd'"
  | zeroCount => "Dice count must be at least 1"
  | countTooLarge => "Dice count must be at most " ++ toString Dice.countLimit
  | unknownFace sides => "Invalid die face d" ++ String.ofList (Number.naturalText sides)
  | expectedDice => "Expected dice after '('"
  | expectedFactorSign => "Expected '×' or '÷' after dice in parentheses"
  | expectedFactor => "Expected a number as factor"
  | expectedDenominator => "Expected a denominator"
  | zeroDenominator => "Division by zero in factor"
  | zeroDivisor => "Division by zero in factored dice"
  | expectedClosing => "Expected ')' after factored dice"
  | unreadableNumeral digits => numeralMessage digits

end DiceFault

open Document

/-- The kind of report that a fault makes; an unreadable numeral makes none. -/
def DiceFault.kind? : DiceFault → Option FailureKind
  | unreadableNumeral _ => none
  | unknownFace _ => some .dieFace
  | expectedDie | expectedSeparator | expectedSides | zeroCount | countTooLarge =>
      some .diceTerm
  | _ => some .diceExpression

def DiceError.report? (error : DiceError) : Option Report := do
  let kind ← error.fault.kind?
  pure (Report.make kind error.fault.message []
    [("expression", .text error.expression), ("position", .int error.position)])

end Bestiary
