import Bestiary.Validation.Scalar

/-!
Reading lists, maps and records.

A record is an object with declared fields: fields are read in the order of
their declaration, each may be required or have a default, and fields that
are not declared are refused after all others.
-/

namespace Bestiary.Validation

open Document

variable {α β : Type}

abbrev Fields := List (String × Value)

namespace Fields

def required (fields : Fields) (name : String) (reader : Reader α) : Checked α :=
  match fields.lookup name with
  | some content => (reader content).within name
  | none => .invalid ⟨[name], .missing, .object fields⟩ []

def withDefault (fields : Fields) (name : String) (default : α) (reader : Reader α) : Checked α :=
  match fields.lookup name with
  | some content => (reader content).within name
  | none => .valid default

def only (fields : Fields) (declared : List String) : Checked Unit :=
  match fields.filter fun field => !declared.contains field.1 with
  | [] => .valid ()
  | first :: others =>
      let issue (field : String × Value) : Issue := ⟨[field.1], .extraForbidden, field.2⟩
      .invalid (issue first) (others.map issue)

end Fields

namespace Reader

def orNull (reader : Reader α) : Reader (Option α)
  | .null => .valid none
  | content => (reader content).map some

def itemsFrom (reader : Reader α) (place : Nat) : List Value → Checked (List α)
  | [] => .valid []
  | item :: others =>
      .apply (((reader item).within (toString place)).map List.cons)
        (itemsFrom reader (place + 1) others)

def list (reader : Reader α) : Reader (List α)
  | .list items => itemsFrom reader 0 items
  | other => .fail .listType other

def tuple (reader : Reader α) : Reader (List α)
  | .list items => itemsFrom reader 0 items
  | other => .fail .tupleType other

/-- Read one entry of a map; issues of its key are marked as such. -/
def entry (key : Reader α) (content : Reader β) (field : String × Value) : Checked (α × β) :=
  .apply ((((key (.text field.1)).within "[key]").within field.1).map Prod.mk)
    ((content field.2).within field.1)

/-- Read a map; of two entries with the same key the later one counts. -/
def map [BEq α] (key : Reader α) (content : Reader β) : Reader (List (α × β))
  | .object fields =>
      (Checked.all (fields.map (entry key content))).map fun entries =>
        entries.foldl (fun read (entry : α × β) => setEntry read entry.1 entry.2) []
  | other => .fail .objectType other

def record (kindName : String) (body : Fields → Checked α) : Reader α
  | .object fields => body fields
  | other => .fail (.recordType kindName) other

/-- Read a record whose kind is told by a tag in one of its fields. -/
def tagged (field : String) (kinds : List (String × (Fields → Checked α))) : Reader α
  | .object fields =>
      match fields.lookup field with
      | none => .fail (.tagNotFound field) (.object fields)
      | some tag =>
          let refuse : Checked α :=
            .fail (.tagInvalid tag.plain field (kinds.map Prod.fst)) (.object fields)
          match tag with
          | .text word =>
              match kinds.lookup word with
              | some body => (body fields).within word
              | none => refuse
          | _ => refuse
  | other => .fail .taggedType other

/-- Read a value by the first of two ways, or by the second; if neither can, the issues of both are
told. -/
def either (firstName : String) (first : Reader α) (secondName : String) (second : Reader α) :
    Reader α := fun input =>
  match first input, second input with
  | .valid result, _ => .valid result
  | .invalid _ _, .valid result => .valid result
  | .invalid issue others, failed =>
      .invalid (issue.within firstName)
        (others.map (Issue.within firstName) ++ (failed.within secondName).issues)

end Reader

end Bestiary.Validation
