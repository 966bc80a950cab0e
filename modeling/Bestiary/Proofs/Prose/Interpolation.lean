import Bestiary.Proofs.Prose.Source
import Bestiary.Proofs.Prose.Tracking
import Bestiary.Proofs.Prose.Unambiguity

/-!
Interpolation is reading: the blocks that a text is interpolated to are those
that its source reads as, character by character and style by style.
-/

namespace Bestiary.Prose

open Text

variable {scope : Variables} {capitalize : Bool}

theorem Machine.run_shown (place : Place) (expression : Expression) (others : Program)
    (machine : Machine) (nothing : machine.stack = []) :
    machine.run scope capitalize (appendCode expression place ++ others) = (do
      let value ← expression.evaluate scope
      let content ← value.written.mapError (·.at place)
      (machine.write capitalize true content).run scope capitalize others) := by
  rw [appendCode, List.append_assoc, expression.run_code_append]
  congr 1
  funext value
  have after (content : String) :
      (machine.withStack []).write capitalize true content =
        machine.write capitalize true content := by
    rw [← nothing, Machine.withStack_self]
  rw [List.cons_append, List.nil_append, Machine.run_cons, nothing]
  simp only [Machine.step, Machine.withStack_stack, Machine.withStack_withStack]
  cases value.written with
  | error fault => rfl
  | ok content =>
      rw [ok_bind, after]
      rfl

theorem Machine.run_step {operation : Operation} {machine after : Machine}
    (stepped : machine.step scope capitalize operation = .ok after) (place : Place)
    (others : Program) :
    machine.run scope capitalize ([⟨operation, place⟩] ++ others) =
      after.run scope capitalize others := by
  rw [List.cons_append, List.nil_append, Machine.run_cons, stepped]
  rfl

theorem Emphasis.structure_headingKind? (emphasis : Emphasis) :
    emphasis.structure.headingKind? = none := by
  cases emphasis <;> rfl

theorem Structure.isHeading_eq (entered : Structure) :
    entered.isHeading = entered.headingKind?.isSome := by
  cases entered <;> rfl

theorem Emphasis.structure_isHeading (emphasis : Emphasis) :
    emphasis.structure.isHeading = false := by
  cases emphasis <;> rfl

theorem run_compileFragments {dialect : Dialect} {nesting : Nesting} {fragments : List Fragment}
    {program : Program} (compiled : compileFragments dialect nesting fragments = .ok (program, []))
    {machine : Machine} (tracks : Machine.Tracks nesting.structures machine) :
    (machine.run scope capitalize program).map
        (fun final => final.endBlock.blocks.map Block.styled) =
      (readFragments scope capitalize nesting.structures machine.kind machine.atStart
        fragments).map machine.completed := by
  -- Each fragment keeps `Tracks`, and what it writes goes in front of the outline of the rest.
  induction fragments generalizing nesting program machine with
  | nil =>
      cases compiled
      exact congrArg Except.ok tracks.completed_blank.symm
  | cons fragment others ih =>
      obtain ⟨⟨first, inner⟩, compiledFirst, compiled⟩ := bind_eq_ok.mp compiled
      obtain ⟨⟨rest, outer⟩, compiledOthers, compiled⟩ := bind_eq_ok.mp compiled
      cases compiled
      cases fragment with
      | literal place content =>
          cases compiledFirst
          have stepped : machine.step scope capitalize (.appendText content) =
              .ok (machine.write capitalize false content) := rfl
          rw [Machine.run_step stepped, ih compiledOthers (tracks.write capitalize false content),
            readFragments, Machine.write_kind, Machine.write_atStart]
          refine (map_bind_pure ?_).symm
          intro outline
          rw [tracks.write_completed, Machine.wording, Bool.and_false, Bool.false_and]
          rfl
      | shown place expression =>
          cases compiledFirst
          rw [Machine.run_shown place expression rest machine tracks.stack, readFragments]
          cases expression.evaluate scope with
          | error error => rfl
          | ok value =>
              simp only [ok_bind]
              cases value.written.mapError (·.at place) with
              | error error => rfl
              | ok content =>
                  simp only [ok_bind]
                  rw [ih compiledOthers (tracks.write capitalize true content),
                    Machine.write_kind, Machine.write_atStart]
                  refine (map_bind_pure ?_).symm
                  intro outline
                  rw [tracks.write_completed, Machine.wording, Bool.and_true]
      | mark place emphasis =>
          obtain ⟨⟨instruction, after⟩, marked, compiledFirst⟩ := bind_eq_ok.mp compiledFirst
          cases compiledFirst
          rw [readFragments]
          rcases Nesting.mark_eq_ok_iff.mp marked with
            ⟨innermost, rfl, _, same, rfl⟩ | ⟨absent, rfl, rfl⟩
          · -- The mark closes the innermost structure, which is the emphasis itself.
            have structuresEq : Nesting.structures (innermost :: inner) =
                emphasis.structure :: inner.structures := by
              rw [← same]
              rfl
            rw [structuresEq] at tracks ⊢
            obtain ⟨left, stepped, leftTracks, kindEq, startEq, completedEq⟩ :=
              tracks.leave scope capitalize
            rw [Machine.run_step stepped, ih compiledOthers leftTracks, kindEq, startEq,
              if_pos List.mem_cons_self, List.erase_cons_head, funext completedEq,
              emphasis.structure_isHeading, Bool.or_false]
          · obtain ⟨entered, stepped, enteredTracks, kindEq, startEq, completedEq⟩ :=
              tracks.enter absent (by simp [emphasis.structure_isHeading]) scope capitalize
            rw [Machine.run_step stepped, ih compiledOthers enteredTracks, kindEq, startEq,
              if_neg absent, funext completedEq, emphasis.structure_isHeading,
              emphasis.structure_headingKind?]
            rfl
      | opens place entered =>
          obtain ⟨after, opened, compiledFirst⟩ := bind_eq_ok.mp compiledFirst
          cases compiledFirst
          obtain ⟨_, rfl, outermost, absent⟩ := Nesting.openByCommand_eq_ok_iff.mp opened
          have nothing (heading : entered.isHeading = true) : nesting.structures = [] := by
            rw [outermost heading]
            rfl
          obtain ⟨after, stepped, enteredTracks, kindEq, startEq, completedEq⟩ :=
            tracks.enter absent nothing scope capitalize
          rw [Machine.run_step stepped, ih compiledOthers enteredTracks, kindEq, startEq,
            readFragments, funext completedEq, entered.isHeading_eq]
          cases entered.headingKind? with
          | none => rfl
          | some started =>
              refine (map_bind_pure ?_).symm
              intro outline
              rfl
      | closes place =>
          obtain ⟨⟨instruction, after⟩, closed, compiledFirst⟩ := bind_eq_ok.mp compiledFirst
          cases compiledFirst
          obtain ⟨innermost, rfl, _, rfl⟩ := Nesting.closeByCommand_eq_ok_iff.mp closed
          obtain ⟨left, stepped, leftTracks, kindEq, startEq, completedEq⟩ :=
            Machine.Tracks.leave tracks scope capitalize
          rw [Machine.run_step stepped, ih compiledOthers leftTracks, kindEq, startEq,
            readFragments, funext completedEq]
          rfl
      | breaks place =>
          cases nesting with
          | cons innermost outer => cases compiledFirst
          | nil =>
              cases compiledFirst
              have stepped : machine.step scope capitalize .breakParagraph =
                  .ok machine.endBlock := rfl
              rw [Machine.run_step stepped, ih compiledOthers tracks.endBlock, readFragments,
                machine.endBlock_kind, machine.endBlock_atStart]
              refine (map_bind_pure ?_).symm
              intro outline
              exact tracks.endBlock_completed outline

theorem runStructured_styled {dialect : Dialect} {fragments : List Fragment} {program : Program}
    (compiled : compileFragments dialect [] fragments = .ok (program, [])) :
    (runStructured scope capitalize program).map (·.map Block.styled) =
      readSource scope capitalize fragments := by
  have tracked :
      (Machine.initial.run scope capitalize program).map
          (fun final => final.endBlock.blocks.map Block.styled) =
        (readFragments scope capitalize [] .paragraph true fragments).map
          Machine.initial.completed :=
    run_compileFragments compiled Machine.initial_tracks
  have fromStart (outline : Outline) : Machine.initial.completed outline = outline.blocks := by
    rw [Machine.completed, Machine.initial_current, StyledBlock.blank_continueWith]
    rfl
  calc
    (runStructured scope capitalize program).map (·.map Block.styled) =
        (Machine.initial.run scope capitalize program).map
          (fun final => final.endBlock.blocks.map Block.styled) := map_bind_pure fun _ => rfl
    _ = (readFragments scope capitalize [] .paragraph true fragments).map
          Machine.initial.completed := tracked
    _ = readSource scope capitalize fragments := by
      rw [funext fromStart]
      rfl

/-- Interpolation loses, repeats and misplaces nothing. The source of a text that is interpolated
falls into pieces that cover it and stand for what they cover; they spell one row of fragments;
and the blocks are those that these fragments read as. -/
theorem interpolation_reads_source (manner : Manner) (bindings : List (String × Binding))
    (text : String) (blocks : StructuredText)
    (interpolated : interpolate manner bindings text = .ok blocks) :
    ∃ pieces scope fragments,
      scanPieces (.prose manner.breaks) false text.toList = .ok pieces ∧
      pieces.flatMap Piece.source = text.toList ∧
      (∀ piece ∈ pieces, piece.IsFaithful (.prose manner.breaks)) ∧
      (∀ others, Spells (locate Place.start pieces) others ↔ others = fragments) ∧
      prepareVariables bindings = .ok scope ∧
      readSource scope manner.capitalize fragments = .ok (blocks.map Block.styled) := by
  obtain ⟨program, compiled, interpolated⟩ := bind_eq_ok.mp interpolated
  obtain ⟨scope, prepared, ran⟩ := bind_eq_ok.mp interpolated
  obtain ⟨stream, fragments, streamEq, spelled, compiledFragments⟩ := compile_sound compiled
  unfold TokenStream.ofText at streamEq
  split at streamEq
  · rename_i pieces scanned
    cases streamEq
    obtain ⟨covered, faithful⟩ := scanPieces_covers scanned
    refine ⟨pieces, scope, fragments, scanned, covered, faithful, ?spelling, prepared, ?reading⟩
    case spelling =>
      intro others
      constructor
      · intro spelled'
        exact spelled'.determined spelled
      · rintro rfl
        exact spelled
    case reading =>
      rw [← runStructured_styled compiledFragments, ran]
      rfl
  · cases streamEq

theorem interpolation_reads_source_heading :
    let source := "a*b $\x7bN\x7d*\n\n$\x7bsub(\x7d$\x7bN\x7d$\x7bitalic(\x7d.$\x7b)\x7d$\x7b)\x7d c"
    let blocks : StructuredText :=
      [⟨.paragraph, none, [⟨.normal, "a"⟩, ⟨.italic, "b Bite"⟩]⟩,
        ⟨.subParagraph, some [⟨.bold, "Bite"⟩, ⟨.boldItalic, "."⟩], [⟨.normal, " c"⟩]⟩]
    interpolate ⟨true, false⟩ [("N", .value (.text "Bite"))] source = .ok blocks ∧
      ∃ pieces scope fragments,
        scanPieces (.prose true) false source.toList = .ok pieces ∧
        Spells (locate Place.start pieces) fragments ∧
        prepareVariables [("N", .value (.text "Bite"))] = .ok scope ∧
        readSource scope false fragments = .ok (blocks.map Block.styled) := by
  intro source blocks
  have interpolated :
      interpolate ⟨true, false⟩ [("N", .value (.text "Bite"))] source = .ok blocks :=
    eq_ok_of_toOption (by decide +kernel)
  obtain ⟨pieces, scope, fragments, scanned, _, _, spelling, prepared, reading⟩ :=
    interpolation_reads_source _ _ _ _ interpolated
  exact ⟨interpolated, pieces, scope, fragments, scanned, (spelling fragments).mpr rfl, prepared,
    reading⟩

end Bestiary.Prose
