import Bestiary.Document.Value

/-!
Structured text: blocks of styled spans.

A block is a paragraph or a sub-paragraph, with an optional heading that runs
into its body. Spans are kept in a normal form in which no span is empty and
no two neighbours share a style.
-/

namespace Bestiary.Prose

inductive SpanStyle
  | normal
  | italic
  | bold
  | boldItalic
  deriving DecidableEq, Repr, Inhabited

namespace SpanStyle

def all : List SpanStyle := [normal, italic, bold, boldItalic]

def name : SpanStyle → String
  | normal => "normal"
  | italic => "italic"
  | bold => "bold"
  | boldItalic => "bold-italic"

/-- The style of text that is or is not bold, and is or is not italic. -/
def combine (isBold isItalic : Bool) : SpanStyle :=
  match isBold, isItalic with
  | true, true => boldItalic
  | true, false => bold
  | false, true => italic
  | false, false => normal

end SpanStyle

inductive BlockKind
  | paragraph
  | subParagraph
  deriving DecidableEq, Repr, Inhabited

namespace BlockKind

def all : List BlockKind := [paragraph, subParagraph]

def name : BlockKind → String
  | paragraph => "paragraph"
  | subParagraph => "sub-paragraph"

end BlockKind

structure Span where
  style : SpanStyle
  content : String
  deriving DecidableEq, Repr, Inhabited

structure Block where
  kind : BlockKind
  heading? : Option (List Span)
  body : List Span
  deriving DecidableEq, Repr, Inhabited

abbrev StructuredText := List Block

/-- Put a span in front of a text in normal form. -/
def joinSpan (span : Span) (rest : List Span) : List Span :=
  if span.content.isEmpty then rest
  else
    match rest with
    | [] => [span]
    | next :: others =>
        if next.style = span.style then ⟨span.style, span.content ++ next.content⟩ :: others
        else span :: next :: others

/-- The normal form: neighbours of one style become one span, and empty spans are left out. -/
def mergeSpans (spans : List Span) : List Span :=
  spans.foldr joinSpan []

def spansText (spans : List Span) : String :=
  String.join (spans.map Span.content)

/-- A block as one line: a heading and a body that both have text are separated by a space. -/
def Block.plainText (block : Block) : String :=
  let heading := spansText (block.heading?.getD [])
  let body := spansText block.body
  if heading.isEmpty then body
  else if body.isEmpty then heading
  else heading ++ " " ++ body

def plainText (text : StructuredText) : String :=
  String.intercalate "\n" (text.map Block.plainText)

open Document

def Span.toValue (span : Span) : Value :=
  .object [("style", .text span.style.name), ("content", .text span.content)]

def spansValue (spans : List Span) : Value := .list (spans.map Span.toValue)

def Block.toValue (block : Block) : Value :=
  .object
    [("block", .text block.kind.name), ("heading", .ofOption spansValue block.heading?),
      ("body", spansValue block.body)]

def textValue (text : StructuredText) : Value := .list (text.map Block.toValue)

end Bestiary.Prose
