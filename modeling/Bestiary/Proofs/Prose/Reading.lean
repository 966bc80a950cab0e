import Bestiary.Proofs.Prose.Compilation

/-!
Reading a source from left to right: what its blocks are, character by
character, each with its style.

The reading knows no spans and no program. It goes through the fragments of a
text with the structures that are open, and puts each character where it
belongs: under the heading or into the body of the block that it stands in, in
the style that the open structures give. A text that is interpolated reads
exactly so.
-/

namespace Bestiary.Prose

open Text

abbrev StyledText := List (Char × SpanStyle)

def styled (style : SpanStyle) (content : String) : StyledText :=
  content.toList.map fun character => (character, style)

def styledSpans (spans : List Span) : StyledText :=
  spans.flatMap fun span => styled span.style span.content

structure StyledBlock where
  kind : BlockKind
  heading : StyledText
  body : StyledText
  deriving DecidableEq, Repr

def Block.styled (block : Block) : StyledBlock where
  kind := block.kind
  heading := styledSpans (block.heading?.getD [])
  body := styledSpans block.body

namespace StyledBlock

def blank (kind : BlockKind) : StyledBlock :=
  ⟨kind, [], []⟩

def isPresent (block : StyledBlock) : Bool :=
  !(block.heading.isEmpty && block.body.isEmpty)

def prepend (toHeading : Bool) (text : StyledText) (block : StyledBlock) : StyledBlock :=
  if toHeading then { block with heading := text ++ block.heading }
  else { block with body := text ++ block.body }

def continueWith (block next : StyledBlock) : StyledBlock :=
  ⟨next.kind, block.heading ++ next.heading, block.body ++ next.body⟩

end StyledBlock

/-! ### The reading of a source -/

def Structure.headingKind? : Structure → Option BlockKind
  | paragraph => some .paragraph
  | subParagraph => some .subParagraph
  | _ => none

def styleUnder (opened : List Structure) : SpanStyle :=
  if .paragraph ∈ opened then .boldItalic
  else if .subParagraph ∈ opened then .combine true (.italic ∈ opened)
  else .combine (.bold ∈ opened) (.italic ∈ opened)

/-- What a source reads as from some point on: the rest of the block of that point, and the
blocks after it. -/
structure Outline where
  current : StyledBlock
  others : List StyledBlock
  deriving DecidableEq, Repr

namespace Outline

def write (opened : List Structure) (content : String) (outline : Outline) : Outline :=
  { outline with
    current := outline.current.prepend (opened.any Structure.isHeading)
      (styled (styleUnder opened) content) }

def startBlock (ended : BlockKind) (outline : Outline) : Outline :=
  ⟨.blank ended, outline.current :: outline.others⟩

def blocks (outline : Outline) : List StyledBlock :=
  (outline.current :: outline.others).filter StyledBlock.isPresent

end Outline

/-- Read fragments where some structures are open, the latest heading was that of a kind of
block, and a sentence may be about to start. -/
def readFragments (scope : Variables) (capitalize : Bool) :
    List Structure → BlockKind → Bool → List Fragment → Except ProseError Outline
  | _, kind, _, [] => .ok ⟨.blank kind, []⟩
  | opened, kind, fresh, .literal _ content :: others => do
      let outline ← readFragments scope capitalize opened kind (fresh && content.isEmpty) others
      pure (outline.write opened content)
  | opened, kind, fresh, .shown place expression :: others => do
      let value ← expression.evaluate scope
      let content ← value.written.mapError (·.at place)
      let outline ← readFragments scope capitalize opened kind (fresh && content.isEmpty) others
      pure (outline.write opened
        (if fresh && capitalize then capitalizeHead content else content))
  | opened, kind, fresh, .mark _ emphasis :: others =>
      if emphasis.structure ∈ opened then
        readFragments scope capitalize (opened.erase emphasis.structure) kind fresh others
      else readFragments scope capitalize (emphasis.structure :: opened) kind fresh others
  | opened, kind, fresh, .opens _ entered :: others =>
      match entered.headingKind? with
      | none => readFragments scope capitalize (entered :: opened) kind fresh others
      | some started => do
          let outline ← readFragments scope capitalize (entered :: opened) started fresh others
          pure (outline.startBlock kind)
  | opened, kind, fresh, .closes _ :: others =>
      readFragments scope capitalize opened.tail kind
        (fresh || opened.head?.any Structure.isHeading) others
  | opened, kind, fresh, .breaks _ :: others => do
      let outline ← readFragments scope capitalize opened kind fresh others
      pure (outline.startBlock kind)

def readSource (scope : Variables) (capitalize : Bool) (fragments : List Fragment) :
    Except ProseError (List StyledBlock) := do
  let outline ← readFragments scope capitalize [] .paragraph true fragments
  pure outline.blocks

/-! ### Characters of spans -/

theorem styled_append (style : SpanStyle) (first second : String) :
    styled style (first ++ second) = styled style first ++ styled style second := by
  simp only [styled, String.toList_append, List.map_append]

theorem isEmpty_append (first second : String) :
    (first ++ second).isEmpty = (first.isEmpty && second.isEmpty) := by
  rw [Bool.eq_iff_iff, Bool.and_eq_true, String.isEmpty_iff, String.isEmpty_iff,
    String.isEmpty_iff, String.append_eq_empty_iff]

theorem styled_of_isEmpty {style : SpanStyle} {content : String} (empty : content.isEmpty = true) :
    styled style content = [] := by
  rw [String.isEmpty_iff.mp empty]
  rfl

theorem styled_ne_nil {style : SpanStyle} {content : String} (solid : content.isEmpty = false) :
    styled style content ≠ [] := by
  intro empty
  have noCharacters : content.toList = [] := List.map_eq_nil_iff.mp empty
  rw [String.toList_eq_nil_iff.mp noCharacters] at solid
  cases solid

theorem styledSpans_cons (span : Span) (spans : List Span) :
    styledSpans (span :: spans) = styled span.style span.content ++ styledSpans spans :=
  rfl

theorem styledSpans_append (first second : List Span) :
    styledSpans (first ++ second) = styledSpans first ++ styledSpans second :=
  List.flatMap_append

theorem styledSpans_joinSpan (span : Span) (spans : List Span) :
    styledSpans (joinSpan span spans) = styledSpans (span :: spans) := by
  unfold joinSpan
  rw [styledSpans_cons]
  split
  · rename_i empty
    rw [styled_of_isEmpty empty, List.nil_append]
  · split
    · rfl
    · rename_i next others
      split
      · rename_i same
        rw [styledSpans_cons, styledSpans_cons, styled_append, same, List.append_assoc]
      · rfl

theorem styledSpans_mergeSpans (spans : List Span) :
    styledSpans (mergeSpans spans) = styledSpans spans := by
  induction spans with
  | nil => rfl
  | cons span others ih =>
      have unfolded : mergeSpans (span :: others) = joinSpan span (mergeSpans others) := rfl
      rw [unfolded, styledSpans_joinSpan, styledSpans_cons, styledSpans_cons, ih]

end Bestiary.Prose
