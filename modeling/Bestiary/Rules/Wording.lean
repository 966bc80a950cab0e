import Bestiary.Number.Numeral
import Bestiary.Text.Case

/-!
The words of documents and of printed text.

A closed vocabulary has the words that a document may use for the members of a
finite type, and the other spellings that are accepted for them. Counts,
ordinals and lists are worded for a reader.
-/

namespace Bestiary

/-- A finite type whose members are written as words. -/
class Vocabulary (α : Type) where
  /-- The members, in the order in which they are listed. -/
  all : List α
  /-- The word for a member. -/
  word : α → String
  /-- The member that another spelling stands for. -/
  spelling? : String → Option α

namespace Vocabulary

variable {α : Type} [Vocabulary α]

def ofWord? (text : String) : Option α :=
  (all : List α).find? fun member => word member == text

def ofText? (text : String) : Option α :=
  (ofWord? text : Option α) <|> spelling? text

/-- A text without regard to case, outer blanks, and the choice between blanks, hyphens and
underscores. -/
def normalized (text : String) : String :=
  String.ofList ((Text.lower (Text.trim text)).toList.map fun character =>
    if character == ' ' || character == '-' then '_' else character)

/-- The member whose word a text spells loosely. -/
def looseSpelling? {α : Type} (members : List α) (word : α → String) (text : String) : Option α :=
  let wanted := normalized text
  members.find? fun member => word member == wanted

end Vocabulary

end Bestiary

namespace Bestiary.Wording

def numberWords : List String :=
  ["zero", "one", "two", "three", "four", "five", "six", "seven", "eight", "nine", "ten"]

/-- A count in words up to ten and in digits beyond. -/
def numberWord (count : Int) : String :=
  if count < 0 then Number.showInt count
  else (numberWords[count.toNat]?).getD (Number.showInt count)

def ordinalEnding (number : Int) : String :=
  if 10 ≤ number % 100 ∧ number % 100 ≤ 20 then "th"
  else if number % 10 = 1 then "st"
  else if number % 10 = 2 then "nd"
  else if number % 10 = 3 then "rd"
  else "th"

def ordinal (number : Int) : String :=
  Number.showInt number ++ ordinalEnding number

/-- Items with a comma after each but the last, and an "and" before that; two need no comma. -/
def andJoin (items : List String) : String :=
  if items.length ≤ 2 then String.intercalate " and " items
  else String.intercalate ", " items.dropLast ++ ", and " ++ items.getLastD ""

/-- Parts with a separator between them, if there are any. -/
def joined? (separator : String) (parts : List String) : Option String :=
  let line := String.intercalate separator parts
  if line.isEmpty then none else some line

end Bestiary.Wording
