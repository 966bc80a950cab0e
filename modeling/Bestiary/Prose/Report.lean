import Bestiary.Dice.Report
import Bestiary.Prose.Token

/-!
What can be wrong with authored text, the words for it, and its report.

A fault belongs to one of three stages: reading the text into tokens, putting
its expressions and structures together, and evaluating it. A report names the
text by its label. An unsupported variable is found before anything is read
from the text, so its report has neither place nor label.
-/

namespace Bestiary.Prose

inductive ProseFault
  | unterminatedExpression
  | unexpectedCharacter (found : Char)
  | loneSlash
  | badDice (written : String) (error : DiceError)
  /-- A run of digits that is no numeral. -/
  | unreadableNumeral (digits : List Char)
  | unterminatedString
  | unexpectedToken (kindName : String)
  | neverClosed (opened : Structure)
  | notInPlainText (opened : Structure)
  | insideAnother (opened : Structure)
  | alreadyOpen (opened : Structure)
  | closesNothing
  | expectedEnd
  | expectedElse
  | expectedParenthesis
  | expectedExpression
  | unknownVariable (name : String)
  | negatedText
  | signedText
  | alreadyText
  | joinedToText
  | subtractedText
  | multipliedText
  | multipliedDice
  | dividedText
  | dividedByDice
  | divisionByZero
  /-- A value to be shown that has more digits than can be written. -/
  | unwritableNumber
  /-- An operation that finds fewer values than it takes; no compiled text contains one. -/
  | missingOperand
  /-- A variable holds something that is no text, number or dice. -/
  | unsupportedValue (name typeName : String)
  deriving DecidableEq, Repr

namespace ProseFault

def code : ProseFault → String
  | unterminatedExpression => "unterminated_directive"
  | unexpectedCharacter _ => "unexpected_character"
  | loneSlash => "unexpected_character"
  | badDice _ _ => "invalid_dice"
  | unreadableNumeral _ => "unreadable_numeral"
  | unterminatedString => "unterminated_string"
  | unexpectedToken _ => "unexpected_token"
  | neverClosed _ => "unterminated_markup"
  | notInPlainText _ => "unexpected_structured_text"
  | insideAnother _ => "nested_markup"
  | alreadyOpen _ => "nested_markup"
  | closesNothing => "unexpected_close"
  | expectedEnd => "expected_token"
  | expectedElse => "expected_token"
  | expectedParenthesis => "expected_token"
  | expectedExpression => "expected_expression"
  | unknownVariable _ => "unknown_variable"
  | negatedText => "cant_negate_string"
  | signedText => "cant_sign_string"
  | alreadyText => "string_already_stringified"
  | joinedToText => "cant_concatenate_non_strings"
  | subtractedText => "cant_subtract_strings"
  | multipliedText => "cant_multiply_strings"
  | multipliedDice => "cant_multiply_dice"
  | dividedText => "cant_divide_strings"
  | dividedByDice => "cant_divide_by_dice"
  | divisionByZero => "division_by_zero"
  | unwritableNumber => "unwritable_number"
  | missingOperand => "missing_operand"
  | unsupportedValue _ _ => "unsupported_value"

def message : ProseFault → String
  | unterminatedExpression => "Expression is missing its closing delimiter"
  | unexpectedCharacter found =>
      "Unexpected character " ++ Text.quoted (String.singleton found)
  | loneSlash => "'/' must be followed by '<' (floor) or '>' (ceiling)"
  | badDice written error =>
      "Invalid dice literal " ++ Text.quoted written ++ ": " ++ error.fault.message
  | unreadableNumeral digits => numeralMessage digits
  | unterminatedString => "String literal is not terminated"
  | unexpectedToken kindName => "Unexpected token " ++ kindName
  | neverClosed opened => "'" ++ opened.word ++ "' is never closed"
  | notInPlainText opened => "'" ++ opened.word ++ "(' cannot be used in plain text"
  | insideAnother opened => "'" ++ opened.word ++ "(' cannot start inside another structure"
  | alreadyOpen opened => "Text is already " ++ opened.word
  | closesNothing => "')' does not close anything"
  | expectedEnd => "Expected end of expression"
  | expectedElse => "Expected 'else' after 'then' branch"
  | expectedParenthesis => "Expected ')'"
  | expectedExpression => "Expected an expression"
  | unknownVariable name => "Unknown variable '" ++ name ++ "'"
  | negatedText => "Can't negate a string"
  | signedText => "Can't sign a string"
  | alreadyText => "Value is already a string"
  | joinedToText => "Strings can only be concatenated with strings"
  | subtractedText => "Can't subtract strings"
  | multipliedText => "Can't multiply strings"
  | multipliedDice => "Can't multiply dice by dice"
  | dividedText => "Can't divide strings"
  | dividedByDice => "Can't divide by dice"
  | divisionByZero => "Division by zero"
  | unwritableNumber => Number.unwritableMessage
  | missingOperand => "Operation without operands"
  | unsupportedValue _ typeName => "Cannot interpolate value of type " ++ typeName

/-- Whether a fault has a report of its own; numbers that cannot be read or written and missing
operands have none. -/
def isReported : ProseFault → Bool
  | unreadableNumeral _ => false
  | unwritableNumber => false
  | missingOperand => false
  | _ => true

end ProseFault

structure ProseError where
  fault : ProseFault
  place? : Option Text.Place
  deriving DecidableEq, Repr

def ProseFault.at (fault : ProseFault) (place : Text.Place) : ProseError :=
  ⟨fault, some place⟩

open Document

def ProseError.report? (label : String) (error : ProseError) : Option Report :=
  if !error.fault.isReported then none
  else
    let number (part : Text.Place → Nat) : Value :=
      match error.place? with
      | none => .null
      | some place => .int (part place)
    let given : List (String × Value) :=
      match error.fault with
      | .unsupportedValue name _ => if name.isEmpty then [] else [("variable", .text name)]
      | _ => []
    let context : List (String × Value) :=
      match error.fault with
      | .unsupportedValue _ _ => []
      | _ => [("context_label", .text label)]
    some (Report.make .interpolation error.fault.message given
      ([("kind", .text error.fault.code), ("line", number Text.Place.line),
        ("column", number Text.Place.column)] ++ context))

end Bestiary.Prose
