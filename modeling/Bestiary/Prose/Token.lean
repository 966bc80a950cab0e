import Bestiary.Dice.Basic
import Bestiary.Text.Scan

/-!
The words of authored text, and writing its markup.

Outside an expression a text consists of literal runs, marks, paragraph
breaks and the openings of expressions; inside one it consists of names,
numbers, dice, quoted strings and operators.
-/

namespace Bestiary.Prose

/-- What may be opened and must be closed again. -/
inductive Structure
  | bold
  | italic
  | paragraph
  | subParagraph
  deriving DecidableEq, Repr, Inhabited

namespace Structure

def all : List Structure := [bold, italic, paragraph, subParagraph]

def word : Structure → String
  | bold => "bold"
  | italic => "italic"
  | paragraph => "par"
  | subParagraph => "sub"

def ofWord? (word : String) : Option Structure :=
  all.find? (·.word == word)

end Structure

inductive Token
  | literal (content : String)
  | boldMark
  | italicMark
  | paragraphBreak
  | opening
  | closing
  | name (word : String)
  | number (value : Nat)
  | dice (value : Dice)
  | quoted (content : String)
  | command (opened : Structure)
  | thenWord
  | elseWord
  | plus
  | minus
  | times
  | floorOver
  | ceilingOver
  | openParen
  | closeParen
  | dollar
  deriving DecidableEq, Repr, Inhabited

def Token.kindName : Token → String
  | literal _ => "text"
  | boldMark => "bold_mark"
  | italicMark => "italic_mark"
  | paragraphBreak => "paragraph_break"
  | opening => "open_directive"
  | closing => "close_directive"
  | name _ => "identifier"
  | number _ => "number"
  | dice _ => "dice"
  | quoted _ => "string"
  | command _ => "command"
  | thenWord => "then"
  | elseWord => "else"
  | plus => "plus"
  | minus => "minus"
  | times => "asterisk"
  | floorOver => "floor_divide"
  | ceilingOver => "ceiling_divide"
  | openParen => "open_paren"
  | closeParen => "close_paren"
  | dollar => "dollar"

/-- A token and the place of its first character. -/
structure Located where
  token : Token
  place : Text.Place
  deriving DecidableEq, Repr, Inhabited

/-- The two languages in which text is authored. -/
inductive Dialect
  /-- Prose: expressions stand in braces, and stars mark bold and italic; blank lines may break
  paragraphs. -/
  | prose (breaks : Bool)
  /-- A document to be filled in: expressions stand in angle brackets, and all else is literal. -/
  | template
  deriving DecidableEq, Repr

namespace Dialect

/-- What follows a dollar sign to open an expression. -/
def opener : Dialect → Char
  | prose _ => '\x7b'
  | template => '<'

def closer : Dialect → Char
  | prose _ => '\x7d'
  | template => '>'

def hasMarks : Dialect → Bool
  | prose _ => true
  | template => false

def hasBreaks : Dialect → Bool
  | prose breaks => breaks
  | template => false

def escapes : Dialect → Char → Bool
  | prose _, character => character == '$' || character == '*' || character == '\\'
  | template, character => character == '$'

end Dialect

def escapeChar (character : Char) : List Char :=
  if character == '\\' || character == '$' || character == '*' then ['\\', character]
  else [character]

/-- Text as it must be written to stand for itself. -/
def escapeText (text : String) : String :=
  String.ofList (text.toList.flatMap escapeChar)

def expressionMarkup (expression : String) : String :=
  "$\x7b" ++ expression ++ "\x7d"

def structureMarkup (opened : Structure) (content : String) : String :=
  expressionMarkup (opened.word ++ "(") ++ content ++ expressionMarkup ")"

end Bestiary.Prose
