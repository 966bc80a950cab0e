import Bestiary.Directive.Document
import Bestiary.Document.Value
import Bestiary.Prose.Interpolation
import Bestiary.Prose.Report
import Bestiary.Settings.Writer

/-!
Includes: finding a document by its reference, filling in its arguments and
reading what it says.

The references that are being included form a chain. A reference that is in
the chain already would go on for ever and is refused, and so is a chain that
has no room left.
-/

namespace Bestiary

open Document Prose

/-- A library of documents: the text for a reference, or the reason why there is none. -/
abbrev Library := String → Except String String

def Library.ofTexts (texts : List (String × Option String)) : Library := fun reference =>
  match texts.lookup reference with
  | some (some text) => .ok text
  | some none => .error ("Cannot read '" ++ reference ++ "'")
  | none => .error ("Unknown include reference '" ++ reference ++ "'")

structure BuildContext where
  settings : DerivationSettings := {}
  library : Option Library := none

inductive InclusionFault
  | cycle
  | tooDeep (limit : Nat)
  | noLibrary
  | unresolved (reason : String)
  | template (error : ProseError)
  | document (error : DocumentError)

/-- A fault of an include, with the chain of references that leads to it. -/
structure InclusionError where
  fault : InclusionFault
  reference : String
  chain : List String

namespace InclusionError

def message (error : InclusionError) : String :=
  let invalid (reason : String) : String :=
    "Included document '" ++ error.reference ++ "' is invalid: " ++ reason
  match error.fault with
  | .cycle => "Include cycle: " ++ String.intercalate " -> " error.chain
  | .tooDeep limit => "Includes nested deeper than " ++ Number.showInt limit
  | .noLibrary => "No include resolver configured"
  | .unresolved reason => "Could not resolve include '" ++ error.reference ++ "': " ++ reason
  | .template found => invalid found.fault.message
  | .document found => invalid found.message

/-- Whether a fault has a report; a fault in the text or the document has one if it has one by
itself. -/
def isReported (error : InclusionError) : Bool :=
  match error.fault with
  | .template found => found.fault.isReported
  | .document found => found.isReported
  | _ => true

def kind (error : InclusionError) : FailureKind :=
  match error.fault with
  | .cycle => .inclusionCycle
  | _ => .inclusion

def report? (error : InclusionError) : Option Report :=
  if error.isReported then
    some (.make error.kind error.message []
      [("reference", .text error.reference), ("chain", .ofTexts error.chain)])
  else none

end InclusionError

def IncludeArgument.binding : IncludeArgument → Binding
  | text content => .value (.text content)
  | number amount => .value (.number amount false)

/-- Fill in the arguments of an included text and read it. -/
def readIncluded (arguments : List (String × IncludeArgument)) (text : String) :
    Except InclusionFault (List Directive) := do
  let bindings := arguments.map fun (name, argument) => (name, argument.binding)
  let filled ← (fillTemplate bindings text).mapError .template
  (Directive.ofText filled).mapError .document

namespace BuildContext

/-- The directives of a document that is included in a chain with room for some more. -/
def findIncluded (context : BuildContext) (chain : List String) (room : Nat) (reference : String)
    (arguments : List (String × IncludeArgument)) : Except InclusionFault (List Directive) := do
  if chain.contains reference then throw .cycle
  if room = 0 then throw (.tooDeep context.settings.maxIncludeDepth)
  match context.library with
  | none => throw .noLibrary
  | some library =>
      let text ← (library reference).mapError .unresolved
      readIncluded arguments text

/-- The directives of an included document, or the fault with its chain. -/
def openInclude (context : BuildContext) (chain : List String) (room : Nat) (reference : String)
    (arguments : List (String × IncludeArgument)) : Except InclusionError (List Directive) :=
  (context.findIncluded chain room reference arguments).mapError fun fault =>
    ⟨fault, reference, chain ++ [reference]⟩

end BuildContext

end Bestiary
