import Bestiary.Proofs.Prose.Heading
import Bestiary.Proofs.Prose.Places
import Bestiary.Proofs.Prose.Shown
import Bestiary.Proofs.Prose.Template

/-!
Escaped text can be embedded in other text.

By itself it is interpolated to the characters that it was made from. In front
of a mark or an expression it becomes one literal run, and what follows compiles
as it does alone, at places that are counted on from the end of the run.
-/

namespace Bestiary.Prose

open Text

variable {breaks : Bool}

/-! ### One literal run -/

theorem endsRun_nil : EndsRun breaks [] := by
  rintro head tail ⟨⟩

theorem endsRun_star (tail : List Char) : EndsRun breaks ('*' :: tail) := by
  rintro head others ⟨⟩
  refine ⟨?_, rfl⟩
  unfold special?
  rw [if_neg (by decide), if_pos (by rfl)]
  split <;> rfl

/-- A text that is empty, or starts with an expression or a mark. -/
def StartsMarked (text : String) : Prop :=
  text = "" ∨ ['$', '\x7b'] <+: text.toList ∨ ['*'] <+: text.toList

theorem StartsMarked.endsRun {text : String} (marked : StartsMarked text) :
    EndsRun breaks text.toList := by
  rcases marked with rfl | ⟨tail, starts⟩ | ⟨tail, starts⟩
  · exact endsRun_nil
  · rw [← starts]
    exact Opens.endsRun (.inr ⟨tail, rfl⟩)
  · rw [← starts]
    exact endsRun_star tail

theorem scanPieces_run_before {content rest : List Char} {pieces : List Piece}
    (something : content ≠ []) (unbroken : (breaks && hasBlankLine content) = false)
    (ends : EndsRun breaks rest) (scanned : scanPieces (.prose breaks) false rest = .ok pieces) :
    scanPieces (.prose breaks) false (content.flatMap escapeChar ++ rest) =
      .ok (⟨content.flatMap escapeChar, some (.literal (String.ofList content))⟩ :: pieces) := by
  obtain ⟨head, tail, rfl⟩ := List.exists_cons_of_ne_nil something
  have unbrokenHead : (breaks && (head == '\n' && startsBlankLine tail)) = false := by
    rw [hasBlankLine, Bool.and_or_distrib_left] at unbroken
    exact (Bool.or_eq_false_iff.mp unbroken).1
  have all : (splitRun breaks (head :: tail)).2 = [] := by
    have left := hasBlankLine_splitRun breaks (head :: tail)
    rwa [unbroken, if_neg Bool.false_ne_true] at left
  have meaning : (splitRun breaks (head :: tail)).1 = head :: tail := by
    have whole := splitRun_append breaks (head :: tail)
    rwa [all, List.append_nil] at whole
  obtain ⟨source, run⟩ := scanPieces_run ends unbrokenHead
  rw [all, meaning, List.flatMap_nil, List.nil_append, scanned] at run
  -- The pieces cover the text, and those of the rest cover the rest.
  have sourceEq : source = (head :: tail).flatMap escapeChar := by
    obtain ⟨covered, _⟩ := scanPieces_covers run
    rw [List.flatMap_cons, (scanPieces_covers scanned).1] at covered
    exact List.append_cancel_right covered
  rw [run, sourceEq]
  rfl

theorem compile_of_scanned {text : String} {pieces : List Piece}
    (scanned : scanPieces (.prose breaks) false text.toList = .ok pieces) :
    compile (.prose breaks) text =
      compileTokens (.prose breaks) (placeAfter text.toList) [] (locate Place.start pieces) := by
  rw [compile, TokenStream.ofText_eq_ok_iff.mpr ⟨pieces, scanned, rfl⟩]
  rfl

theorem scanPieces_of_compile {text : String} {program : Program}
    (compiled : compile (.prose breaks) text = .ok program) :
    ∃ pieces, scanPieces (.prose breaks) false text.toList = .ok pieces := by
  obtain ⟨stream, read, _⟩ := bind_eq_ok.mp compiled
  obtain ⟨pieces, scanned, _⟩ := TokenStream.ofText_eq_ok_iff.mp read
  exact ⟨pieces, scanned⟩

theorem compileTokens_shift {text : String} {pieces : List Piece} {program : Program}
    (scanned : scanPieces (.prose breaks) false text.toList = .ok pieces)
    (compiled : compile (.prose breaks) text = .ok program) (front : List Char) :
    compileTokens (.prose breaks) (placeAfter (front ++ text.toList)) []
        (locate (placeAfter front) pieces) =
      .ok (program.map (Instruction.relocate (placeAfter front).shift)) := by
  have moved := @compileTokens_relocate (placeAfter front).shift (.prose breaks)
    (placeAfter text.toList) [] (locate Place.start pieces)
  have finish : (placeAfter front).shift (placeAfter text.toList) =
      placeAfter (front ++ text.toList) := by
    rw [← Place.start_advance text.toList, Place.shift_advance Place.isCounted_start,
      Place.shift_start, Place.placeAfter_advance]
  rw [← compile_of_scanned scanned, compiled, finish, ← locate_shift Place.isCounted_start,
    Place.shift_start] at moved
  change Corresponds _ _ _ (compileTokens _ _ [] _) at moved
  cases shifted : compileTokens (.prose breaks) (placeAfter (front ++ text.toList)) []
      (locate (placeAfter front) pieces) with
  | ok program' =>
      rw [shifted] at moved
      exact congrArg Except.ok moved
  | error error =>
      rw [shifted] at moved
      exact moved.elim

/-- What ends a literal run compiles behind escaped text as it does alone. -/
theorem compile_escapeText_append {content rest : String} {program : Program}
    (unbroken : (breaks && hasBlankLine content.toList) = false)
    (ends : EndsRun breaks rest.toList) (compiled : compile (.prose breaks) rest = .ok program) :
    compile (.prose breaks) (escapeText content ++ rest) =
      .ok (literalProgram content.toList ++
        program.map (Instruction.relocate (placeAfter (escapeText content).toList).shift)) := by
  obtain ⟨pieces, scanned⟩ := scanPieces_of_compile compiled
  have behind := compileTokens_shift scanned compiled (content.toList.flatMap escapeChar)
  have joined : (escapeText content ++ rest).toList =
      content.toList.flatMap escapeChar ++ rest.toList := by
    rw [String.toList_append, toList_escapeText]
  rw [toList_escapeText]
  cases characters : content.toList with
  | nil =>
      rw [characters] at joined behind
      have whole : scanPieces (.prose breaks) false (escapeText content ++ rest).toList =
          .ok pieces := by
        rw [joined]
        exact scanned
      rw [compile_of_scanned whole, joined]
      exact behind
  | cons head tail =>
      rw [characters] at joined behind unbroken
      have run := scanPieces_run_before (List.cons_ne_nil head tail) unbroken ends scanned
      rw [← joined] at run
      rw [compile_of_scanned run, joined, locate, Place.start_advance, compileTokens_literal,
        behind]
      rfl

/-! ### Interpolation -/

theorem compile_escapeText {content : String}
    (unbroken : (breaks && hasBlankLine content.toList) = false) :
    compile (.prose breaks) (escapeText content) = .ok (literalProgram content.toList) := by
  have nothing : compile (.prose breaks) "" = .ok [] := by
    have scanned : scanPieces (.prose breaks) false "".toList = .ok [] := scanPieces_nil
    rw [compile_of_scanned scanned, locate, compileTokens]
  have alone := compile_escapeText_append unbroken endsRun_nil nothing
  rwa [String.append_empty, List.map_nil, List.append_nil] at alone

theorem literalProgram_toList (content : String) :
    literalProgram content.toList =
      if content.isEmpty then [] else [⟨.appendText content, Place.start⟩] := by
  split
  · rename_i empty
    obtain rfl := String.isEmpty_iff.mp empty
    rfl
  · rename_i something
    have filled : content.toList ≠ [] :=
      fun nothing => something (String.isEmpty_iff.mpr (String.toList_eq_nil_iff.mp nothing))
    rw [literalProgram_of_ne_nil filled, String.ofList_toList]

theorem runStructured_literalProgram (scope : Variables) (capitalize : Bool) (content : String) :
    runStructured scope capitalize (literalProgram content.toList) =
      .ok (if content.isEmpty then [] else paragraphOf content) := by
  rw [literalProgram_toList]
  cases empty : content.isEmpty with
  | true => rfl
  | false =>
      have written : Machine.initial.write capitalize false content =
          { Machine.initial with pending := content, atStart := false } := by
        simp [Machine.write, empty, Machine.initial]
      change Except.ok (Machine.initial.write capitalize false content).endBlock.blocks = _
      rw [written, blocks_of_pending empty]
      rfl

theorem interpolate_escapeText (manner : Manner) (bindings : List (String × Binding))
    {content : String} (unbroken : (manner.breaks && hasBlankLine content.toList) = false) :
    interpolate manner bindings (escapeText content) =
      (prepareVariables bindings).map fun _ =>
        if content.isEmpty then [] else paragraphOf content := by
  unfold interpolate
  rw [compile_escapeText unbroken, ok_bind]
  cases prepareVariables bindings with
  | error error => rfl
  | ok scope => exact runStructured_literalProgram scope manner.capitalize content

/-- Interpolation undoes escaping, and an escaped text may stand in front of another. Where blank
lines do not break paragraphs it is interpolated to one paragraph of the characters that it was
made from, or to nothing if there are none; and in front of a text that starts with an expression
or a mark it becomes one operation, after which come those of the text with their places counted
on. -/
theorem escapeText_embeds :
    (∀ (content : String) (capitalize : Bool) (scope : Variables),
      interpolate ⟨false, capitalize⟩ (scope.map fun (name, shown) => (name, .value shown))
          (escapeText content) =
        .ok (if content.isEmpty then [] else [⟨.paragraph, none, [⟨.normal, content⟩]⟩])) ∧
    (∀ (content rest : String) (program : Program), StartsMarked rest →
      compile (.prose false) rest = .ok program →
      compile (.prose false) (escapeText content ++ rest) =
        .ok ((if content.isEmpty then [] else [⟨.appendText content, Place.start⟩]) ++
          program.map fun instruction =>
            ⟨instruction.operation,
              (placeAfter (escapeText content).toList).shift instruction.place⟩)) := by
  constructor
  · intro content capitalize scope
    rw [interpolate_escapeText _ _ (Bool.false_and _), prepareVariables_values]
    rfl
  · intro content rest program marked compiled
    rw [compile_escapeText_append (Bool.false_and _) marked.endsRun compiled,
      literalProgram_toList]
    rfl

theorem escapeText_embeds_emphasis :
    let content := "\\\n$*"
    let program : Program :=
      [⟨.start .italic, ⟨1, 1⟩⟩, ⟨.appendText "b", ⟨1, 2⟩⟩, ⟨.stop .italic, ⟨1, 3⟩⟩]
    escapeText content = "\\\\\n\\$\\*" ∧
      StartsMarked "*b*" ∧
      compile (.prose false) "*b*" = .ok program ∧
      interpolate ⟨false, true⟩ [] (escapeText content) =
        .ok [⟨.paragraph, none, [⟨.normal, content⟩]⟩] ∧
      compile (.prose false) (escapeText content ++ "*b*") =
        .ok [⟨.appendText content, ⟨1, 1⟩⟩, ⟨.start .italic, ⟨2, 5⟩⟩, ⟨.appendText "b", ⟨2, 6⟩⟩,
          ⟨.stop .italic, ⟨2, 7⟩⟩] := by
  intro content program
  have marked : StartsMarked "*b*" := .inr (.inr (by decide))
  have compiled : compile (.prose false) "*b*" = .ok program :=
    eq_ok_of_toOption (by decide +kernel)
  obtain ⟨alone, embedded⟩ := escapeText_embeds
  refine ⟨by decide, marked, compiled, alone content true [], ?_⟩
  exact (embedded content "*b*" program marked compiled).trans
    (congrArg Except.ok (by decide +kernel))

end Bestiary.Prose
