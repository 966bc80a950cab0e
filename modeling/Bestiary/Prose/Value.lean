import Bestiary.Dice.Printer
import Bestiary.Prose.Report

/-!
The values of expressions, and their arithmetic.

A value is text, a number or dice. A number or dice may be marked to show its
sign; the mark of the left operand is the mark of the result, except that
dice joined to a number on their left keep the number's mark.
-/

namespace Bestiary.Prose

inductive ProseValue
  | text (content : String)
  | number (value : Int) (signed : Bool)
  | dice (value : Dice) (signed : Bool)
  deriving DecidableEq, Repr, Inhabited

inductive UnaryOperator
  | negate
  | sign
  | stringify
  deriving DecidableEq, Repr

inductive BinaryOperator
  | add
  | subtract
  | multiply
  | floorDivide
  | ceilingDivide
  deriving DecidableEq, Repr

namespace ProseValue

/-- A value as the reader sees it: dice show their average first. -/
def display : ProseValue → String
  | text content => content
  | number value signed => if signed then Number.showSigned value else Number.showInt value
  | dice value signed =>
      if signed && !value.isNegative && decide (0 ≤ value.averageValue) then "+" ++ value.display
      else value.display

def isWritable : ProseValue → Bool
  | text _ => true
  | number value _ => Number.isWritable value
  | dice value _ => value.isWritableAs value.averageValue

/-- A value as the reader sees it, if its numbers can be written. -/
def written (value : ProseValue) : Except ProseFault String :=
  if value.isWritable then .ok value.display else .error .unwritableNumber

def isTrue : ProseValue → Bool
  | text content => !content.isEmpty
  | number value _ => value != 0
  | dice _ _ => true

def negate : ProseValue → Except ProseFault ProseValue
  | text _ => .error .negatedText
  | number value signed => .ok (number (-value) signed)
  | dice value signed => .ok (dice value.negate signed)

def sign : ProseValue → Except ProseFault ProseValue
  | text _ => .error .signedText
  | number value _ => .ok (number value true)
  | dice value _ => .ok (dice value true)

def stringify : ProseValue → Except ProseFault ProseValue
  | text _ => .error .alreadyText
  | other => other.written.map text

def add : ProseValue → ProseValue → Except ProseFault ProseValue
  | text left, text right => .ok (text (left ++ right))
  | text _, _ => .error .joinedToText
  | _, text _ => .error .joinedToText
  | number left signed, number right _ => .ok (number (left + right) signed)
  | dice left signed, dice right _ => .ok (dice (left.addDice right) signed)
  | dice left signed, number right _ => .ok (dice (left.add right) signed)
  | number left signed, dice right _ => .ok (dice (right.add left) signed)

def subtract : ProseValue → ProseValue → Except ProseFault ProseValue
  | text _, _ => .error .subtractedText
  | _, text _ => .error .subtractedText
  | number left signed, number right _ => .ok (number (left - right) signed)
  | dice left signed, dice right _ => .ok (dice (left.subtractDice right) signed)
  | dice left signed, number right _ => .ok (dice (left.subtract right) signed)
  | number left signed, dice right _ => .ok (dice (right.negate.add left) signed)

def multiply : ProseValue → ProseValue → Except ProseFault ProseValue
  | text _, _ => .error .multipliedText
  | _, text _ => .error .multipliedText
  | dice _ _, dice _ _ => .error .multipliedDice
  | number left signed, number right _ => .ok (number (left * right) signed)
  | dice left signed, number right _ => .ok (dice (left.multiply right) signed)
  | number left signed, dice right _ => .ok (dice (right.multiply left) signed)

def quotient (roundUp : Bool) (left right : Int) : Int :=
  if roundUp then -(Int.fdiv (-left) right) else Int.fdiv left right

def divide (roundUp : Bool) : ProseValue → ProseValue → Except ProseFault ProseValue
  | text _, _ => .error .dividedText
  | _, text _ => .error .dividedText
  | _, dice _ _ => .error .dividedByDice
  | number left signed, number right _ =>
      if right = 0 then .error .divisionByZero
      else .ok (number (quotient roundUp left right) signed)
  | dice left signed, number right _ =>
      match left.divide? right roundUp with
      | none => .error .divisionByZero
      | some result => .ok (dice result signed)

end ProseValue

def UnaryOperator.apply : UnaryOperator → ProseValue → Except ProseFault ProseValue
  | negate => ProseValue.negate
  | sign => ProseValue.sign
  | stringify => ProseValue.stringify

def BinaryOperator.apply : BinaryOperator → ProseValue → ProseValue → Except ProseFault ProseValue
  | add => ProseValue.add
  | subtract => ProseValue.subtract
  | multiply => ProseValue.multiply
  | floorDivide => ProseValue.divide false
  | ceilingDivide => ProseValue.divide true

end Bestiary.Prose
