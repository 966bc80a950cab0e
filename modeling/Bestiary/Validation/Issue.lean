import Bestiary.Document.Value
import Bestiary.Number.Numeral

/-!
What can be wrong with a value that was given for a field.

An issue names the place in the given value by a path of field names, list
places and the members of a choice that were tried, and it keeps the part of
the value that it is about.

A checked result is a result, or all that is wrong. Combining two checks keeps
the issues of both, so a record reports every field at fault and not only the
first.
-/

namespace Bestiary.Validation

open Document

inductive IssueKind
  | missing
  | extraForbidden
  | textType
  | textTooShort
  | intType
  | intParsing
  | intParsingSize
  | intFromFloat
  | finiteNumber
  | floatType
  | floatParsing
  | boolType
  | boolParsing
  | listType
  | objectType
  | tupleType
  /-- A value that is no record of the named kind. -/
  | recordType (kindName : String)
  | taggedType
  | notMember (words : List String)
  | notLiteral (words : List String)
  | notAbove (bound : Int)
  | below (bound : Int)
  | notBelow (bound : Int)
  | above (bound : Int)
  | tagInvalid (tag field : String) (expected : List String)
  | tagNotFound (field : String)
  /-- A rule of the field that has its own words. -/
  | refused (reason : String)
  | frozen
  | unknownAttribute (name : String)
  deriving DecidableEq, Repr

/-- Words in quotes with a separator, the last two joined by "or". -/
def choiceText : List String → String
  | [] => ""
  | [only] => "'" ++ only ++ "'"
  | [first, last] => "'" ++ first ++ "' or '" ++ last ++ "'"
  | first :: rest => "'" ++ first ++ "', " ++ choiceText rest

namespace IssueKind

/-- The short name of a kind of issue. -/
def code : IssueKind → String
  | missing => "missing"
  | extraForbidden => "extra_forbidden"
  | textType => "string_type"
  | textTooShort => "string_too_short"
  | intType => "int_type"
  | intParsing => "int_parsing"
  | intParsingSize => "int_parsing_size"
  | intFromFloat => "int_from_float"
  | finiteNumber => "finite_number"
  | floatType => "float_type"
  | floatParsing => "float_parsing"
  | boolType => "bool_type"
  | boolParsing => "bool_parsing"
  | listType => "list_type"
  | objectType => "dict_type"
  | tupleType => "tuple_type"
  | recordType _ => "model_type"
  | taggedType => "model_attributes_type"
  | notMember _ => "enum"
  | notLiteral _ => "literal_error"
  | notAbove _ => "greater_than"
  | below _ => "greater_than_equal"
  | notBelow _ => "less_than"
  | above _ => "less_than_equal"
  | tagInvalid _ _ _ => "union_tag_invalid"
  | tagNotFound _ => "union_tag_not_found"
  | refused _ => "value_error"
  | frozen => "frozen_instance"
  | unknownAttribute _ => "no_such_attribute"

def message : IssueKind → String
  | missing => "Field required"
  | extraForbidden => "Extra inputs are not permitted"
  | textType => "Input should be a valid string"
  | textTooShort => "String should have at least 1 character"
  | intType => "Input should be a valid integer"
  | intParsing => "Input should be a valid integer, unable to parse string as an integer"
  | intParsingSize => "Unable to parse input string as an integer, exceeded maximum size"
  | intFromFloat => "Input should be a valid integer, got a number with a fractional part"
  | finiteNumber => "Input should be a finite number"
  | floatType => "Input should be a valid number"
  | floatParsing => "Input should be a valid number, unable to parse string as a number"
  | boolType => "Input should be a valid boolean"
  | boolParsing => "Input should be a valid boolean, unable to interpret input"
  | listType => "Input should be a valid list"
  | objectType => "Input should be a valid dictionary"
  | tupleType => "Input should be a valid tuple"
  | recordType kindName => "Input should be a valid dictionary or instance of " ++ kindName
  | taggedType => "Input should be a valid dictionary or object to extract fields from"
  | notMember words => "Input should be " ++ choiceText words
  | notLiteral words => "Input should be " ++ choiceText words
  | notAbove bound => "Input should be greater than " ++ Number.showInt bound
  | below bound => "Input should be greater than or equal to " ++ Number.showInt bound
  | notBelow bound => "Input should be less than " ++ Number.showInt bound
  | above bound => "Input should be less than or equal to " ++ Number.showInt bound
  | tagInvalid tag field expected =>
      "Input tag '" ++ tag ++ "' found using '" ++ field ++
        "' does not match any of the expected tags: " ++
        String.intercalate ", " (expected.map fun word => "'" ++ word ++ "'")
  | tagNotFound field => "Unable to extract tag using discriminator '" ++ field ++ "'"
  | refused reason => "Value error, " ++ reason
  | frozen => "Instance is frozen"
  | unknownAttribute name => "Object has no attribute '" ++ name ++ "'"

/-- Whether a value has the right form and is merely outside its legal range. -/
def isRange : IssueKind → Bool
  | textTooShort | notAbove _ | below _ | notBelow _ | above _ | refused _ => true
  | _ => false

end IssueKind

/-- Something wrong with a part of a value. -/
structure Issue where
  location : List String
  kind : IssueKind
  input : Value

def Issue.within (name : String) (issue : Issue) : Issue :=
  { issue with location := name :: issue.location }

/-- A result, or the issues that stand in its way; there is at least one. -/
inductive Checked (α : Type)
  | valid (result : α)
  | invalid (first : Issue) (others : List Issue)

namespace Checked

variable {α β : Type}

def issues : Checked α → List Issue
  | valid _ => []
  | invalid first others => first :: others

def map (f : α → β) : Checked α → Checked β
  | valid result => valid (f result)
  | invalid first others => invalid first others

/-- Combine two checks, keeping the issues of both in order. -/
def apply : Checked (α → β) → Checked α → Checked β
  | valid f, second => second.map f
  | invalid first others, second => invalid first (others ++ second.issues)

/-- Go on with a further check, if nothing is wrong so far. -/
def andThen (check : Checked α) (next : α → Checked β) : Checked β :=
  match check with
  | valid result => next result
  | invalid first others => invalid first others

instance : Applicative Checked where
  pure := valid
  seq check second := apply check (second ())
  map := map

def fail (kind : IssueKind) (input : Value) : Checked α :=
  invalid ⟨[], kind, input⟩ []

/-- A check of a part, seen from the whole. -/
def within (name : String) : Checked α → Checked α
  | valid result => valid result
  | invalid first others => invalid (first.within name) (others.map (Issue.within name))

def all : List (Checked α) → Checked (List α)
  | [] => valid []
  | check :: others => apply (check.map List.cons) (all others)

end Checked

abbrev Reader (α : Type) := Value → Checked α

end Bestiary.Validation
