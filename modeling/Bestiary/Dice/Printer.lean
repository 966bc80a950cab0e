import Bestiary.Dice.Basic
import Bestiary.Number.Numeral

/-!
The notation of dice expressions.

A factor of one or minus one is shown by the sign alone; any other factor is
written with the dice in parentheses, as a product when it is an integer or a
general fraction and as a quotient when it is one over an integer. An
expression is writable if all its numbers are.
-/

namespace Bestiary

open Number (naturalText integerText)

namespace DiceTerm

def factorText (factor : Rat) : List Char :=
  if factor.den = 1 then '×' :: ' ' :: integerText factor.num
  else if factor.num = 1 then '÷' :: ' ' :: naturalText factor.den
  else '×' :: ' ' :: integerText factor.num ++ '/' :: naturalText factor.den

def diceText (term : DiceTerm) : List Char :=
  integerText term.count ++ 'd' :: naturalText term.die.sides

def factorSize (factor : Rat) : Rat :=
  if factor < 0 then -factor else factor

def unsignedText (term : DiceTerm) : List Char :=
  if term.factor = 1 ∨ term.factor = -1 then term.diceText
  else '(' :: term.diceText ++ ' ' :: factorText (factorSize term.factor) ++ [')']

/-- The sign that joins a term to the text before it; the leading term shows a minus only. -/
def signText (leading : Bool) (factor : Rat) : List Char :=
  match leading, decide (factor < 0) with
  | true, true => ['-']
  | true, false => []
  | false, true => [' ', '-', ' ']
  | false, false => [' ', '+', ' ']

def text (leading : Bool) (term : DiceTerm) : List Char :=
  signText leading term.factor ++ term.unsignedText

def isWritable (term : DiceTerm) : Bool :=
  Number.isWritable term.count && Number.isWritableRat term.factor

/-- A term for a dice roller, without its sign. -/
def rollerText (term : DiceTerm) : List Char :=
  let factor := factorSize term.factor
  let scaled :=
    if factor.num = 1 then term.diceText
    else term.diceText ++ '*' :: integerText factor.num
  if factor.den = 1 then scaled
  else '(' :: scaled ++ ')' :: '/' :: '/' :: naturalText factor.den

end DiceTerm

namespace Dice

/-- The constant at the end of an expression; zero is not written. -/
def addendText (addend : Int) : List Char :=
  if 0 < addend then ' ' :: '+' :: ' ' :: integerText addend
  else if addend < 0 then ' ' :: '-' :: ' ' :: integerText (-addend)
  else []

/-- The notation of an expression; without dice it is the constant alone. -/
def text (dice : Dice) : List Char :=
  match dice.terms with
  | [] => integerText dice.addend
  | head :: rest =>
      head.text true ++ rest.flatMap (DiceTerm.text false) ++ addendText dice.addend

def render (dice : Dice) : String :=
  String.ofList dice.text

/-- The notation after a value that is shown for it. -/
def displayAs (shown : Int) (dice : Dice) : String :=
  String.ofList (integerText shown ++ ' ' :: '(' :: dice.text ++ [')'])

def display (dice : Dice) : String :=
  dice.displayAs dice.averageValue

def isWritable (dice : Dice) : Bool :=
  dice.terms.all DiceTerm.isWritable && Number.isWritable dice.addend

def isWritableAs (shown : Int) (dice : Dice) : Bool :=
  Number.isWritable shown && dice.isWritable

def rollerText (dice : Dice) : String :=
  let signed (leading : Bool) (term : DiceTerm) : List Char :=
    (if term.factor < 0 then ['-'] else if leading then [] else ['+']) ++ term.rollerText
  match dice.terms with
  | [] => String.ofList (integerText dice.addend)
  | head :: rest =>
      String.ofList (signed true head ++ rest.flatMap (signed false) ++
        (if dice.addend = 0 then [] else Number.signedText dice.addend))

end Dice

end Bestiary
