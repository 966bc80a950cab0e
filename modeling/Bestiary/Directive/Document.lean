import Bestiary.Directive.Form
import Bestiary.Document.Reader
import Bestiary.Document.Value
import Bestiary.Failure.Report

/-!
Entries of a document: compact ways to write a directive.

A tag alone is a directive without fields; a tag with a value fills the first
field, with a list the fields in their order, and with an object the fields
that it names.

A document is a list of entries, the first of which gives the version of the
format.
-/

namespace Bestiary

open Document Validation

inductive EntryFault
  | shape
  | unknownTag (tag : String)
  | tooManyValues (tag : String) (limit given : Nat)
  | takesNoValue (tag : String)
  /-- Something is wrong with the fields; the tag is the one that the fields name. -/
  | fields (tag : Value) (first : Issue) (others : List Issue)

namespace EntryFault

def message : EntryFault → String
  | shape => "Directive must be a tag or an object with a single tag key"
  | unknownTag tag => "Unknown directive '" ++ tag ++ "'"
  | tooManyValues tag limit given =>
      "Directive '" ++ tag ++ "' takes at most " ++ toString limit ++ " values, got " ++
        toString given
  | takesNoValue tag => "Directive '" ++ tag ++ "' takes no value"
  | fields tag first _ =>
      let location := String.intercalate "." (first.location.drop 1)
      "Directive '" ++ tag.plain ++ "': " ++
        (if location.isEmpty then "value" else location) ++ ": " ++ first.kind.message

/-- Whether all that is wrong is that values are outside their legal range. -/
def isRange : EntryFault → Bool
  | fields _ first others => (first :: others).all (·.kind.isRange)
  | _ => false

/-- Whether a fault has a report: the tag is shown in any, and a value that is out of range in the
details, so neither may hold an integer that cannot be written. -/
def isReported (fault : EntryFault) : Bool :=
  match fault with
  | fields tag first _ => tag.isWritable && (!fault.isRange || first.input.isWritable)
  | _ => true

end EntryFault

/-- The fields of an entry, its tag among them; a field that names another tag wins. -/
def Directive.normalize (entry : Value) : Except EntryFault Value := do
  let (tag, payload) ←
    match entry with
    | .text tag => pure (tag, Value.null)
    | .object [(tag, payload)] => pure (tag, payload)
    | _ => throw .shape
  match Directive.form? tag with
  | none => throw (.unknownTag tag)
  | some form =>
      let withFields (fields : List (String × Value)) : Value :=
        .object (fields.foldl (fun known field => setEntry known field.1 field.2)
          [("directive", .text tag)])
      let filled (content : Value) : Except EntryFault Value :=
        match form.fieldNames with
        | [] => throw (.takesNoValue tag)
        | first :: _ => pure (withFields [(first, content)])
      match payload with
      | .null => pure (withFields [])
      | .object fields => pure (withFields fields)
      | .list items =>
          if form.takesList then filled (.list items)
          else if form.fieldNames.length < items.length then
            throw (.tooManyValues tag form.fieldNames.length items.length)
          else pure (withFields (form.fieldNames.zip items))
      | other => filled other

def Directive.ofEntry (entry : Value) : Except EntryFault Directive := do
  let normalized ← Directive.normalize entry
  match Directive.read normalized with
  | .valid directive => pure directive
  | .invalid first others =>
      throw (.fields ((normalized.field? "directive").getD .null) first others)

/-- The report of an entry at fault, with the document and the place of the entry in it. -/
def EntryFault.report (source index : Value) (fault : EntryFault) : Report :=
  match fault with
  | .fields tag first _ =>
      if fault.isRange then
        let position := [("index", index)]
        Report.make .invalidDirective fault.message
          (if source.isTruthy then ("source", source) :: position else position)
          [("directive", tag), ("invalid_value", first.input)]
      else syntaxReport
  | _ => syntaxReport
where
  syntaxReport : Report :=
    Report.make .directiveSyntax fault.message [] [("source", source), ("index", index)]

inductive DocumentFault
  | unreadable (error : ReadError)
  | notAList
  | empty
  | entry (fault : EntryFault)
  | noVersion
  | laterVersion

/-- A fault in a document, with the place of the entry that it was met at. -/
structure DocumentError where
  fault : DocumentFault
  index : Option Nat

namespace DocumentError

def message (error : DocumentError) : String :=
  match error.fault with
  | .unreadable error => "Invalid JSON: " ++ error.fault.message
  | .notAList => "Directive document must be a list"
  | .empty => "Directive document is empty"
  | .entry fault => fault.message
  | .noVersion => "Document must start with a version directive"
  | .laterVersion => "Version directive may only appear first"

/-- Whether a fault has a report; a numeral that is too long to be read has none. -/
def isReported (error : DocumentError) : Bool :=
  match error.fault with
  | .unreadable ⟨.oversizedNumeral, _⟩ => false
  | .entry fault => fault.isReported
  | _ => true

def report (source : String) (error : DocumentError) : Report :=
  let index : Value := .ofOption .ofNat error.index
  match error.fault with
  | .unreadable read =>
      .make .directiveSyntax error.message
        [("line", .int read.place.line), ("column", .int read.place.column)]
        [("source", .text source)]
  | .entry fault => fault.report (.text source) index
  | _ => .make .directiveSyntax error.message [] [("source", .text source), ("index", index)]

def report? (source : String) (error : DocumentError) : Option Report :=
  if error.isReported then some (error.report source) else none

end DocumentError

namespace Directive

def isVersion : Directive → Bool
  | version _ _ => true
  | _ => false

def ofEntriesFrom (place : Nat) : List Value → Except DocumentError (List Directive)
  | [] => .ok []
  | entry :: others => do
      let directive ← (Directive.ofEntry entry).mapError fun fault => ⟨.entry fault, some place⟩
      let rest ← ofEntriesFrom (place + 1) others
      pure (directive :: rest)

/-- The place of the first directive that gives a version, if there is one. -/
def laterVersion? (directives : List Directive) : Option Nat :=
  directives.findIdx? isVersion

/-- Check that the version of the format is given first and nowhere else. -/
def checkVersions : List Directive → Except DocumentError Unit
  | [] => .error ⟨.empty, none⟩
  | first :: others =>
      if first.isVersion then
        match laterVersion? others with
        | some place => .error ⟨.laterVersion, some (place + 1)⟩
        | none => .ok ()
      else .error ⟨.noVersion, some 0⟩

def ofEntries (entries : List Value) : Except DocumentError (List Directive) :=
  if entries.isEmpty then .error ⟨.empty, none⟩
  else do
    let directives ← ofEntriesFrom 0 entries
    checkVersions directives
    pure directives

def ofValue : Value → Except DocumentError (List Directive)
  | .list entries => ofEntries entries
  | _ => .error ⟨.notAList, none⟩

def ofText (text : String) : Except DocumentError (List Directive) := do
  let value ← (Value.ofText text).mapError fun error => ⟨.unreadable error, none⟩
  ofValue value

end Directive

inductive DocumentForm
  | text (content : String)
  | entries (entries : List Value)
  /-- Directives that were read before. -/
  | directives (directives : List Directive)

def DocumentForm.read : DocumentForm → Except DocumentError (List Directive)
  | text content => Directive.ofText content
  | entries given => Directive.ofEntries given
  | directives [] => .error ⟨.empty, none⟩
  | directives (first :: others) =>
      if first.isVersion then .ok (first :: others) else .error ⟨.noVersion, some 0⟩

end Bestiary
