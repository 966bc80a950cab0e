import Bestiary.Number.Numeral
import Bestiary.Number.Shortest
import Bestiary.Rules.Wording
import Bestiary.Text.CharClass

/-!
Document values: the data that documents, settings and failure details are
made of. Integers and floats are different values, and an object keeps the
order in which its names first appeared.
-/

namespace Bestiary

variable {α β : Type} [BEq α]

/-- Set an entry: a key that is there keeps its place and takes the new content. -/
def setEntry (entries : List (α × β)) (key : α) (content : β) : List (α × β) :=
  if entries.any (·.1 == key) then
    entries.map fun entry => if entry.1 == key then (key, content) else entry
  else entries ++ [(key, content)]

def removeEntry (entries : List (α × β)) (key : α) : List (α × β) :=
  entries.filter (·.1 != key)

end Bestiary

namespace Bestiary.Document

inductive Value
  | null
  | bool (truth : Bool)
  | int (number : Int)
  | float (number : Number.Binary64)
  | text (content : String)
  | list (items : List Value)
  | object (fields : List (String × Value))
  deriving BEq, Inhabited, Repr

namespace Value

/-- The name of the kind of a value, as messages give it. -/
def typeName : Value → String
  | null => "NoneType"
  | bool _ => "bool"
  | int _ => "int"
  | float _ => "float"
  | text _ => "str"
  | list _ => "list"
  | object _ => "dict"

/-- Values that count as given when an optional detail is recorded. -/
def isTruthy : Value → Bool
  | null => false
  | bool truth => truth
  | int number => number != 0
  | float number => !number.isZero
  | text content => content != ""
  | list items => !items.isEmpty
  | object fields => !fields.isEmpty

mutual

/-- A value as messages show it, with its text in quotes. -/
def shown : Value → String
  | null => "None"
  | bool truth => if truth then "True" else "False"
  | int number => toString number
  | float number => Number.shortestText number
  | text content => Text.quoted content
  | list items => "[" ++ shownItems items ++ "]"
  | object fields => "\x7b" ++ shownFields fields ++ "\x7d"

def shownItems : List Value → String
  | [] => ""
  | [item] => shown item
  | item :: rest => shown item ++ ", " ++ shownItems rest

def shownFields : List (String × Value) → String
  | [] => ""
  | [(name, content)] => Text.quoted name ++ ": " ++ shown content
  | (name, content) :: rest =>
      Text.quoted name ++ ": " ++ shown content ++ ", " ++ shownFields rest

end

mutual

/-- Whether all integers of a value can be written, so that it can be shown. -/
def isWritable : Value → Bool
  | int number => Number.isWritable number
  | list items => itemsAreWritable items
  | object fields => fieldsAreWritable fields
  | _ => true

def itemsAreWritable : List Value → Bool
  | [] => true
  | item :: rest => isWritable item && itemsAreWritable rest

def fieldsAreWritable : List (String × Value) → Bool
  | [] => true
  | (_, content) :: rest => isWritable content && fieldsAreWritable rest

end

/-- A value inside running text: text stands without quotes. -/
def plain : Value → String
  | text content => content
  | other => other.shown

def field? : Value → String → Option Value
  | object fields, name => fields.lookup name
  | _, _ => none

def ofOption {α : Type} (write : α → Value) : Option α → Value
  | some content => write content
  | none => .null

def ofNat (number : Nat) : Value := .int number

/-- The word for a member of a vocabulary as a value. -/
def ofMember {α : Type} [Vocabulary α] (member : α) : Value :=
  .text (Vocabulary.word member)

def ofTexts (items : List String) : Value := .list (items.map .text)

def ofMembers {α : Type} [Vocabulary α] (members : List α) : Value :=
  .list (members.map .ofMember)

/-- A map with integer keys as a value; the keys become text. -/
def ofIntMap {α : Type} (write : α → Value) (entries : List (Int × α)) : Value :=
  .object (entries.map fun entry => (Number.showInt entry.1, write entry.2))

end Value

end Bestiary.Document
