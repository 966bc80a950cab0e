import Bestiary.Prose.Span
import Bestiary.Validation.Record

/-!
Reading structured text from documents.
-/

namespace Bestiary.Prose

open Document Validation

instance : Vocabulary SpanStyle := ⟨SpanStyle.all, SpanStyle.name, fun _ => none⟩

instance : Vocabulary BlockKind := ⟨BlockKind.all, BlockKind.name, fun _ => none⟩

def Span.read : Reader Span :=
  Reader.record "Span" fun fields =>
    Span.mk
      <$> fields.withDefault "style" .normal (Reader.word SpanStyle)
      <*> fields.required "content" Reader.text
      <* fields.only ["style", "content"]

def Block.read : Reader Block :=
  Reader.record "TextBlock" fun fields =>
    Block.mk
      <$> fields.withDefault "block" .paragraph (Reader.word BlockKind)
      <*> fields.withDefault "heading" none (Reader.orNull (Reader.tuple Span.read))
      <*> fields.withDefault "body" [] (Reader.tuple Span.read)
      <* fields.only ["block", "heading", "body"]

end Bestiary.Prose
