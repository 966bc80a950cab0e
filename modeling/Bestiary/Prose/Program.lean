import Bestiary.Prose.Expression
import Bestiary.Prose.Span

/-!
Programs: authored text as a list of operations on a stack of values.

An expression becomes the operations of its operands, left to right, and then
its own. Structures must be properly nested: what closes one closes the
innermost, marks close marks and parentheses close commands, and a heading
opens only when nothing is open.
-/

namespace Bestiary.Prose

open Text

inductive Emphasis
  | bold
  | italic
  deriving DecidableEq, Repr

inductive Operation
  | push (value : ProseValue)
  | load (name : String)
  | unary (operator : UnaryOperator)
  | binary (operator : BinaryOperator)
  | choose
  | append
  | appendText (content : String)
  | start (emphasis : Emphasis)
  | stop (emphasis : Emphasis)
  | startHeading (kind : BlockKind)
  | endHeading
  | breakParagraph
  deriving DecidableEq, Repr

/-- An operation and the place it was written at. -/
structure Instruction where
  operation : Operation
  place : Place
  deriving DecidableEq, Repr

/-- A program is run from front to back; it has no jumps. -/
abbrev Program := List Instruction

/-- The program that leaves the value of an expression on the stack. -/
def Expression.code : Expression → Program
  | literal place value => [⟨.push value, place⟩]
  | reference place name => [⟨.load name, place⟩]
  | unary place operator operand => operand.code ++ [⟨.unary operator, place⟩]
  | binary place operator left right => left.code ++ right.code ++ [⟨.binary operator, place⟩]
  | choose place condition chosen otherwise =>
      condition.code ++ chosen.code ++ otherwise.code ++ [⟨.choose, place⟩]

/-! ### Structures -/

/-- An open structure, and whether a mark or a command opened it. -/
structure OpenStructure where
  opened : Structure
  byMark : Bool
  place : Place
  deriving DecidableEq, Repr

abbrev Nesting := List OpenStructure

namespace Structure

def starting : Structure → Operation
  | bold => .start .bold
  | italic => .start .italic
  | paragraph => .startHeading .paragraph
  | subParagraph => .startHeading .subParagraph

def ending : Structure → Operation
  | bold => .stop .bold
  | italic => .stop .italic
  | paragraph => .endHeading
  | subParagraph => .endHeading

def isHeading : Structure → Bool
  | paragraph => true
  | subParagraph => true
  | _ => false

end Structure

namespace Nesting

def neverClosed (innermost : OpenStructure) : ProseError :=
  (ProseFault.neverClosed innermost.opened).at innermost.place

def openByCommand (dialect : Dialect) (opened : Structure) (place : Place) (nesting : Nesting) :
    Except ProseError Nesting :=
  if !dialect.hasMarks then .error ((ProseFault.notInPlainText opened).at place)
  else if opened.isHeading then
    if nesting.isEmpty then .ok [⟨opened, false, place⟩]
    else .error ((ProseFault.insideAnother opened).at place)
  else if nesting.any (·.opened == opened) then
    .error ((ProseFault.alreadyOpen opened).at place)
  else .ok (⟨opened, false, place⟩ :: nesting)

def closeByCommand (place : Place) (nesting : Nesting) :
    Except ProseError (Instruction × Nesting) :=
  match nesting with
  | [] => .error (ProseFault.closesNothing.at place)
  | innermost :: outer =>
      if innermost.byMark then .error (neverClosed innermost)
      else .ok (⟨innermost.opened.ending, place⟩, outer)

/-- What a mark does: it closes the innermost structure if a mark of its kind opened that, and
opens one otherwise. -/
def mark (marked : Structure) (place : Place) (nesting : Nesting) :
    Except ProseError (Instruction × Nesting) :=
  let opening : Except ProseError (Instruction × Nesting) :=
    if nesting.any (·.opened == marked) then .error ((ProseFault.alreadyOpen marked).at place)
    else .ok (⟨marked.starting, place⟩, ⟨marked, true, place⟩ :: nesting)
  match nesting with
  | [] => opening
  | innermost :: outer =>
      if innermost.byMark && innermost.opened == marked then
        .ok (⟨marked.ending, place⟩, outer)
      else opening

end Nesting

/-! ### Directives -/

def appendCode (expression : Expression) (place : Place) : Program :=
  expression.code ++ [⟨.append, place⟩]

/-- The program of a command's arguments, and the tokens after them. -/
def compileArguments (finish : Place) (input : List Located) :
    Except ProseError (Program × Remaining input) :=
  match input with
  | ⟨.closeParen, place⟩ :: tail => .ok ([], ⟨⟨.closeParen, place⟩ :: tail, Nat.le_refl _⟩)
  | ⟨.closing, place⟩ :: tail => .ok ([], ⟨⟨.closing, place⟩ :: tail, Nat.le_refl _⟩)
  | tokens => do
      let (argument, afterArgument) ← scanChoice finish tokens
      let (others, rest) ← compileArguments finish afterArgument.1
      pure (appendCode argument (placeOfNext finish tokens) ++ others,
        ⟨rest.1, Nat.le_of_lt (Nat.lt_of_le_of_lt rest.2 afterArgument.2)⟩)
termination_by input.length
decreasing_by exact afterArgument.2

def directiveEnd (finish : Place) (input : List Located) : Except ProseError (Fewer input) :=
  match input with
  | ⟨.closing, _⟩ :: tail => .ok (Fewer.tail tail)
  | left => .error (ProseFault.expectedEnd.at (placeOfNext finish left))

/-- What a directive contributes: its program, the structures open after it and the tokens left. -/
structure Compiled (input : List Located) where
  program : Program
  nesting : Nesting
  rest : Fewer input

def compileCommand (finish : Place) (opened : Structure) (place : Place) (nesting : Nesting)
    (input : List Located) : Except ProseError (Compiled input) := do
  let (arguments, afterArguments) ← compileArguments finish input
  let start : Instruction := ⟨opened.starting, place⟩
  match _closes : afterArguments.1 with
  | ⟨.closeParen, closing⟩ :: tail => do
      let (close, outer) ← Nesting.closeByCommand closing nesting
      let rest ← directiveEnd finish tail
      pure ⟨start :: arguments ++ [close], outer, ⟨rest.1, by
        have := rest.2; have := afterArguments.2; simp_all; omega⟩⟩
  | left => do
      let rest ← directiveEnd finish left
      pure ⟨start :: arguments, nesting, ⟨rest.1, by
        have := rest.2; have := afterArguments.2; simp_all; omega⟩⟩

def compileDirective (dialect : Dialect) (finish : Place) (nesting : Nesting)
    (input : List Located) : Except ProseError (Compiled input) :=
  match input with
  | ⟨.command opened, place⟩ :: tail => do
      let inner ← Nesting.openByCommand dialect opened place nesting
      let compiled ← compileCommand finish opened place inner tail
      pure ⟨compiled.program, compiled.nesting, compiled.rest.afterOne⟩
  | ⟨.closeParen, place⟩ :: tail => do
      let (close, outer) ← Nesting.closeByCommand place nesting
      let rest ← directiveEnd finish tail
      pure ⟨[close], outer, rest.afterOne⟩
  | tokens => do
      let (expression, afterExpression) ← scanChoice finish tokens
      let rest ← directiveEnd finish afterExpression.1
      pure ⟨appendCode expression (placeOfNext finish tokens), nesting,
        ⟨rest.1, Nat.lt_trans rest.2 afterExpression.2⟩⟩

/-! ### Whole texts -/

/-- The program of some tokens, some structures being open before them. -/
def compileTokens (dialect : Dialect) (finish : Place) (nesting : Nesting)
    (input : List Located) : Except ProseError Program :=
  match input with
  | [] =>
      match nesting with
      | [] => .ok []
      | innermost :: _ => .error (Nesting.neverClosed innermost)
  | ⟨.literal content, place⟩ :: tail => do
      let others ← compileTokens dialect finish nesting tail
      pure (⟨.appendText content, place⟩ :: others)
  | ⟨.boldMark, place⟩ :: tail => do
      let (instruction, after) ← Nesting.mark .bold place nesting
      let others ← compileTokens dialect finish after tail
      pure (instruction :: others)
  | ⟨.italicMark, place⟩ :: tail => do
      let (instruction, after) ← Nesting.mark .italic place nesting
      let others ← compileTokens dialect finish after tail
      pure (instruction :: others)
  | ⟨.paragraphBreak, place⟩ :: tail =>
      match nesting with
      | [] => do
          let others ← compileTokens dialect finish [] tail
          pure (⟨.breakParagraph, place⟩ :: others)
      | innermost :: _ => .error (Nesting.neverClosed innermost)
  | ⟨.opening, _⟩ :: tail => do
      let compiled ← compileDirective dialect finish nesting tail
      let others ← compileTokens dialect finish compiled.nesting compiled.rest.1
      pure (compiled.program ++ others)
  | ⟨other, place⟩ :: _ => .error ((ProseFault.unexpectedToken other.kindName).at place)
termination_by input.length
decreasing_by
  · simp
  · simp
  · simp
  · simp
  · have shorter := compiled.rest.2
    simp only [List.length_cons]
    omega

def compile (dialect : Dialect) (text : String) : Except ProseError Program := do
  let stream ← TokenStream.ofText dialect text
  compileTokens dialect stream.finish [] stream.tokens

end Bestiary.Prose
