import Bestiary.Prose.Program

/-!
Interpolation: authored text with the values of its expressions filled in.

The machine that runs a program has a stack of values, the text of the span
that is being written, the spans of the block that is being written, and the
finished blocks. Text inside a heading takes the heading's style. A text is
compiled before its variables are looked at, so a text that does not compile
fails alike under all variables.
-/

namespace Bestiary.Prose

open Text

abbrev Variables := List (String × ProseValue)

structure Machine where
  stack : List ProseValue
  blocks : List Block
  heading : List Span
  spans : List Span
  pending : String
  kind : BlockKind
  inHeading : Bool
  bold : Bool
  italic : Bool
  /-- Whether a sentence starts with what is written next. -/
  atStart : Bool
  deriving DecidableEq, Repr

namespace Machine

def initial : Machine :=
  { stack := [], blocks := [], heading := [], spans := [], pending := "", kind := .paragraph
    inHeading := false, bold := false, italic := false, atStart := true }

def style (machine : Machine) : SpanStyle :=
  if machine.inHeading then
    match machine.kind with
    | .paragraph => .boldItalic
    | .subParagraph => .combine true machine.italic
  else .combine machine.bold machine.italic

def endSpan (machine : Machine) : Machine :=
  if machine.pending.isEmpty then machine
  else
    { machine with
      spans := machine.spans ++ [⟨machine.style, machine.pending⟩]
      pending := "" }

/-- The block that is being written, unless it has neither a heading nor a body. -/
def currentBlock (machine : Machine) : List Block :=
  if machine.heading.isEmpty && machine.spans.isEmpty then []
  else
    [{ kind := machine.kind
       heading? := if machine.heading.isEmpty then none else some (mergeSpans machine.heading)
       body := mergeSpans machine.spans }]

def endBlock (machine : Machine) : Machine :=
  let ended := machine.endSpan
  { ended with
    blocks := ended.blocks ++ ended.currentBlock
    heading := []
    spans := []
    inHeading := false
    bold := false
    italic := false }

/-- Write some text; an interpolated one at the start of a sentence may be capitalized. -/
def write (capitalize interpolated : Bool) (content : String) (machine : Machine) : Machine :=
  if content.isEmpty then machine
  else
    let written :=
      if machine.atStart && interpolated && capitalize then capitalizeHead content else content
    { machine with pending := machine.pending ++ written, atStart := false }

/-- Finish a span and switch an emphasis on or off. -/
def switch (emphasis : Emphasis) (enabled : Bool) (machine : Machine) : Machine :=
  let ended := machine.endSpan
  match emphasis with
  | .bold => { ended with bold := enabled }
  | .italic => { ended with italic := enabled }

def startHeading (kind : BlockKind) (machine : Machine) : Machine :=
  { machine.endBlock with kind := kind, inHeading := true }

/-- What was written since the heading started becomes the heading. -/
def endHeading (machine : Machine) : Machine :=
  let ended := machine.endSpan
  { ended with heading := ended.spans, spans := [], inHeading := false, atStart := true }

def withStack (machine : Machine) (stack : List ProseValue) : Machine :=
  { machine with stack := stack }

def step (scope : Variables) (capitalize : Bool) (operation : Operation) (machine : Machine) :
    Except ProseFault Machine :=
  match operation, machine.stack with
  | .push value, stack => .ok (machine.withStack (value :: stack))
  | .load name, stack =>
      match scope.lookup name with
      | none => .error (.unknownVariable name)
      | some value => .ok (machine.withStack (value :: stack))
  | .unary operator, operand :: stack => do
      let value ← operator.apply operand
      pure (machine.withStack (value :: stack))
  | .binary operator, right :: left :: stack => do
      let value ← operator.apply left right
      pure (machine.withStack (value :: stack))
  | .choose, otherwise :: chosen :: condition :: stack =>
      .ok (machine.withStack ((if condition.isTrue then chosen else otherwise) :: stack))
  | .append, value :: stack => do
      let shown ← value.written
      pure ((machine.withStack stack).write capitalize true shown)
  | .appendText content, _ => .ok (machine.write capitalize false content)
  | .start emphasis, _ => .ok (machine.switch emphasis true)
  | .stop emphasis, _ => .ok (machine.switch emphasis false)
  | .startHeading kind, _ => .ok (machine.startHeading kind)
  | .endHeading, _ => .ok machine.endHeading
  | .breakParagraph, _ => .ok machine.endBlock
  | _, _ => .error .missingOperand

def run (scope : Variables) (capitalize : Bool) :
    Program → Machine → Except ProseError Machine
  | [], machine => .ok machine
  | instruction :: others, machine =>
      match machine.step scope capitalize instruction.operation with
      | .error fault => .error (fault.at instruction.place)
      | .ok after => after.run scope capitalize others

end Machine

open Text

inductive Binding
  | value (value : ProseValue)
  /-- Something that no text can show. -/
  | unsupported (typeName : String)

/-- The variables of some bindings; the first unsupported one is an error. -/
def prepareVariables : List (String × Binding) → Except ProseError Variables
  | [] => .ok []
  | (name, .value value) :: others => do
      let prepared ← prepareVariables others
      pure ((name, value) :: prepared)
  | (name, .unsupported typeName) :: _ => .error ⟨.unsupportedValue name typeName, none⟩

/-- How a text is to be read and written. -/
structure Manner where
  /-- Blank lines break paragraphs. -/
  breaks : Bool := false
  /-- An interpolated value that starts a sentence starts with a capital. -/
  capitalize : Bool := false

def runStructured (scope : Variables) (capitalize : Bool) (program : Program) :
    Except ProseError StructuredText := do
  let final ← Machine.initial.run scope capitalize program
  pure final.endBlock.blocks

def interpolate (manner : Manner) (bindings : List (String × Binding)) (text : String) :
    Except ProseError StructuredText := do
  let program ← compile (.prose manner.breaks) text
  let scope ← prepareVariables bindings
  runStructured scope manner.capitalize program

def fillTemplate (bindings : List (String × Binding)) (text : String) :
    Except ProseError String := do
  let program ← compile .template text
  let scope ← prepareVariables bindings
  let final ← Machine.initial.run scope false program
  pure final.pending

end Bestiary.Prose
