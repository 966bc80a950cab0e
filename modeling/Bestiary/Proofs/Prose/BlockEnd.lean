import Bestiary.Proofs.Prose.NormalForm
import Bestiary.Proofs.Prose.Interpolation

/-!
Where blocks end.

A block is finished by a paragraph break, by the start of a heading, and by the
end of a text. The machine then leaves every emphasis and every heading, but in
a run of a compiled text it has nothing to leave: where a block may end no
structure is open, and the flags say which structures are.
-/

namespace Bestiary.Prose

open Text

def Operation.closesBlock : Operation → Bool
  | startHeading _ => true
  | breakParagraph => true
  | _ => false

namespace Machine

variable {scope : Variables} {capitalize : Bool}

structure IsClean (machine : Machine) : Prop where
  bold : machine.bold = false
  italic : machine.italic = false
  inHeading : machine.inHeading = false

theorem Tracks.isClean {machine : Machine} (tracks : Tracks [] machine) : machine.IsClean :=
  ⟨tracks.bold, tracks.italic, tracks.inHeading⟩

/-! ### What finishes a block -/

theorem write_blocks (capitalize interpolated : Bool) (content : String) (machine : Machine) :
    (machine.write capitalize interpolated content).blocks = machine.blocks := by
  unfold write
  split <;> rfl

theorem switch_blocks (emphasis : Emphasis) (enabled : Bool) (machine : Machine) :
    (machine.switch emphasis enabled).blocks = machine.blocks := by
  cases emphasis <;> exact machine.endSpan_blocks

theorem endHeading_blocks (machine : Machine) : machine.endHeading.blocks = machine.blocks :=
  machine.endSpan_blocks

theorem step_blocks {operation : Operation} {machine after : Machine}
    (closesNone : operation.closesBlock = false)
    (stepped : machine.step scope capitalize operation = .ok after) :
    after.blocks = machine.blocks := by
  cases step_cases stepped with
  | calculates stack _ => rfl
  | shows stack content => exact write_blocks capitalize true content _
  | writes content => exact write_blocks capitalize false content machine
  | starts emphasis => exact switch_blocks emphasis true machine
  | stops emphasis => exact switch_blocks emphasis false machine
  | startsHeading kind => cases closesNone
  | endsHeading => exact machine.endHeading_blocks
  | breaks => cases closesNone

/-! ### Runs that close their blocks cleanly -/

theorem run_append (first second : Program) (machine : Machine) :
    machine.run scope capitalize (first ++ second) =
      machine.run scope capitalize first >>= fun after => after.run scope capitalize second := by
  induction first generalizing machine with
  | nil => rfl
  | cons instruction others ih =>
      rw [List.cons_append, run_cons, run_cons, bind_assoc]
      congr 1
      funext after
      exact ih after

theorem run_single {operation : Operation} {place : Place} {machine after : Machine} :
    machine.run scope capitalize [⟨operation, place⟩] = .ok after ↔
      machine.step scope capitalize operation = .ok after := by
  cases stepped : machine.step scope capitalize operation with
  | error fault => simp [run, stepped]
  | ok reached => simp [run, stepped]

/-- The machine is clean before each operation of a run that finishes a block. -/
def ClosesCleanly (scope : Variables) (capitalize : Bool) : Program → Machine → Prop
  | [], _ => True
  | instruction :: others, machine =>
      (instruction.operation.closesBlock = true → machine.IsClean) ∧
        ∀ after, machine.step scope capitalize instruction.operation = .ok after →
          ClosesCleanly scope capitalize others after

theorem ClosesCleanly.append {first second : Program} {machine : Machine}
    (before : ClosesCleanly scope capitalize first machine)
    (after : ∀ reached, machine.run scope capitalize first = .ok reached →
      ClosesCleanly scope capitalize second reached) :
    ClosesCleanly scope capitalize (first ++ second) machine := by
  induction first generalizing machine with
  | nil => exact after machine rfl
  | cons instruction others ih =>
      refine ⟨before.1, fun next stepped => ih (before.2 next stepped) ?_⟩
      intro reached ran
      refine after reached ?_
      rw [run_cons, stepped]
      exact ran

theorem closesCleanly_of_none {program : Program}
    (closesNone : ∀ instruction ∈ program, instruction.operation.closesBlock = false)
    (machine : Machine) : ClosesCleanly scope capitalize program machine := by
  induction program generalizing machine with
  | nil => trivial
  | cons instruction others ih =>
      obtain ⟨first, rest⟩ := List.forall_mem_cons.mp closesNone
      refine ⟨fun closes => ?_, fun after _ => ih rest after⟩
      rw [first] at closes
      cases closes

theorem closesCleanly_single {instruction : Instruction} {machine : Machine}
    (clean : instruction.operation.closesBlock = true → machine.IsClean) :
    ClosesCleanly scope capitalize [instruction] machine :=
  ⟨clean, fun _ _ => trivial⟩

theorem ClosesCleanly.at_operation {front back : Program} {instruction : Instruction}
    {machine final : Machine}
    (cleanly : ClosesCleanly scope capitalize (front ++ instruction :: back) machine)
    (ran : machine.run scope capitalize (front ++ instruction :: back) = .ok final) :
    ∃ before after,
      machine.run scope capitalize front = .ok before ∧
      before.step scope capitalize instruction.operation = .ok after ∧
      if instruction.operation.closesBlock then before.IsClean
      else after.blocks = before.blocks := by
  induction front generalizing machine with
  | nil =>
      obtain ⟨clean, _⟩ := cleanly
      rw [List.nil_append, run] at ran
      split at ran
      · cases ran
      · rename_i after stepped
        refine ⟨machine, after, rfl, stepped, ?_⟩
        split
        · rename_i closes
          exact clean closes
        · rename_i closesNone
          exact step_blocks (Bool.eq_false_iff.mpr closesNone) stepped
  | cons first others ih =>
      rw [List.cons_append] at cleanly ran
      rw [run] at ran
      split at ran
      · cases ran
      · rename_i next stepped
        obtain ⟨before, after, reached, rest⟩ := ih (cleanly.2 next stepped) ran
        refine ⟨before, after, ?_, rest⟩
        rw [run, stepped]
        exact reached

end Machine

/-! ### Compiled texts -/

theorem Expression.closesBlock_code (expression : Expression) :
    ∀ instruction ∈ expression.code, instruction.operation.closesBlock = false := by
  induction expression with
  | literal place value | reference place name => exact List.forall_mem_singleton.mpr rfl
  | unary place operator operand ih =>
      exact List.forall_mem_append.mpr ⟨ih, List.forall_mem_singleton.mpr rfl⟩
  | binary place operator left right ihLeft ihRight =>
      exact List.forall_mem_append.mpr
        ⟨List.forall_mem_append.mpr ⟨ihLeft, ihRight⟩, List.forall_mem_singleton.mpr rfl⟩
  | choose place condition chosen otherwise ihCondition ihChosen ihOtherwise =>
      exact List.forall_mem_append.mpr
        ⟨List.forall_mem_append.mpr
          ⟨List.forall_mem_append.mpr ⟨ihCondition, ihChosen⟩, ihOtherwise⟩,
          List.forall_mem_singleton.mpr rfl⟩

theorem closesBlock_appendCode (expression : Expression) (place : Place) :
    ∀ instruction ∈ appendCode expression place, instruction.operation.closesBlock = false :=
  List.forall_mem_append.mpr ⟨expression.closesBlock_code, List.forall_mem_singleton.mpr rfl⟩

theorem Structure.isHeading_of_closesBlock_starting {entered : Structure}
    (closes : entered.starting.closesBlock = true) : entered.isHeading = true := by
  cases entered <;> first | rfl | cases closes

theorem Structure.closesBlock_ending (entered : Structure) :
    entered.ending.closesBlock = false := by
  cases entered <;> rfl

namespace Machine

variable {scope : Variables} {capitalize : Bool}

/-- A fragment takes a machine that keeps track of the open structures to one that still does,
and closes no block while one is open. -/
theorem Tracks.fragment {dialect : Dialect} {nesting inner : Nesting} {fragment : Fragment}
    {program : Program} (compiled : fragment.compile dialect nesting = .ok (program, inner))
    {machine : Machine} (tracks : Tracks nesting.structures machine) :
    ClosesCleanly scope capitalize program machine ∧
      ∀ after, machine.run scope capitalize program = .ok after →
        Tracks inner.structures after := by
  have entering {entered : Structure} (absent : entered ∉ nesting.structures)
      (outermost : entered.isHeading = true → nesting.structures = []) (place : Place) :
      ClosesCleanly scope capitalize [⟨entered.starting, place⟩] machine ∧
        ∀ after, machine.run scope capitalize [⟨entered.starting, place⟩] = .ok after →
          Tracks (entered :: nesting.structures) after := by
    constructor
    · refine closesCleanly_single fun closes => ?_
      rw [outermost (Structure.isHeading_of_closesBlock_starting closes)] at tracks
      exact tracks.isClean
    · intro after ran
      obtain ⟨reached, stepped, tracked, _⟩ := tracks.enter absent outermost scope capitalize
      cases stepped.symm.trans (run_single.mp ran)
      exact tracked
  have leaving {entered : Structure} {opened : List Structure}
      (structuresEq : nesting.structures = entered :: opened) (place : Place) :
      ClosesCleanly scope capitalize [⟨entered.ending, place⟩] machine ∧
        ∀ after, machine.run scope capitalize [⟨entered.ending, place⟩] = .ok after →
          Tracks opened after := by
    constructor
    · exact closesCleanly_of_none (List.forall_mem_singleton.mpr entered.closesBlock_ending) _
    · intro after ran
      rw [structuresEq] at tracks
      obtain ⟨reached, stepped, tracked, _⟩ := tracks.leave scope capitalize
      cases stepped.symm.trans (run_single.mp ran)
      exact tracked
  cases fragment with
  | literal place content =>
      cases compiled
      refine ⟨closesCleanly_of_none (List.forall_mem_singleton.mpr rfl) _, fun after ran => ?_⟩
      cases run_single.mp ran
      exact tracks.write capitalize false content
  | shown place expression =>
      cases compiled
      refine ⟨closesCleanly_of_none (closesBlock_appendCode expression place) _,
        fun after ran => ?_⟩
      rw [← List.append_nil (appendCode expression place),
        run_shown place expression [] machine tracks.stack] at ran
      obtain ⟨value, _, ran⟩ := bind_eq_ok.mp ran
      obtain ⟨content, _, ran⟩ := bind_eq_ok.mp ran
      cases ran
      exact tracks.write capitalize true content
  | mark place emphasis =>
      obtain ⟨⟨instruction, after⟩, marked, compiled⟩ := bind_eq_ok.mp compiled
      cases compiled
      rcases Nesting.mark_eq_ok_iff.mp marked with
        ⟨innermost, rfl, _, same, rfl⟩ | ⟨absent, rfl, rfl⟩
      · rw [← same]
        exact leaving rfl place
      · exact entering absent (by simp [emphasis.structure_isHeading]) place
  | opens place entered =>
      obtain ⟨after, opened, compiled⟩ := bind_eq_ok.mp compiled
      cases compiled
      obtain ⟨_, rfl, outermost, absent⟩ := Nesting.openByCommand_eq_ok_iff.mp opened
      exact entering absent (fun heading => congrArg Nesting.structures (outermost heading)) place
  | closes place =>
      obtain ⟨⟨instruction, after⟩, closed, compiled⟩ := bind_eq_ok.mp compiled
      cases compiled
      obtain ⟨innermost, rfl, _, rfl⟩ := Nesting.closeByCommand_eq_ok_iff.mp closed
      exact leaving rfl place
  | breaks place =>
      cases nesting with
      | cons innermost outer => cases compiled
      | nil =>
          cases compiled
          refine ⟨closesCleanly_single fun _ => tracks.isClean, fun after ran => ?_⟩
          cases run_single.mp ran
          exact tracks.endBlock

theorem Tracks.fragments {dialect : Dialect} {nesting inner : Nesting} {fragments : List Fragment}
    {program : Program}
    (compiled : compileFragments dialect nesting fragments = .ok (program, inner))
    {machine : Machine} (tracks : Tracks nesting.structures machine) :
    ClosesCleanly scope capitalize program machine ∧
      ∀ after, machine.run scope capitalize program = .ok after →
        Tracks inner.structures after := by
  induction fragments generalizing nesting program machine with
  | nil =>
      cases compiled
      refine ⟨trivial, fun after ran => ?_⟩
      cases ran
      exact tracks
  | cons fragment others ih =>
      obtain ⟨⟨first, middle⟩, compiledFirst, compiled⟩ := bind_eq_ok.mp compiled
      obtain ⟨⟨rest, last⟩, compiledOthers, compiled⟩ := bind_eq_ok.mp compiled
      cases compiled
      obtain ⟨cleanlyFirst, tracksFirst⟩ := tracks.fragment compiledFirst
      constructor
      · exact cleanlyFirst.append fun reached ran =>
          (ih compiledOthers (tracksFirst reached ran)).1
      · intro after ran
        rw [run_append] at ran
        obtain ⟨reached, ranFirst, ranOthers⟩ := bind_eq_ok.mp ran
        exact (ih compiledOthers (tracksFirst reached ranFirst)).2 after ranOthers

end Machine

/-- What a text is interpolated to is in normal form, and blocks end with a clean machine. No
heading or body has an empty span or two neighbouring spans of one style, and no block lacks
both; and in the run that writes the blocks the machine is inside no emphasis and no heading
where an operation finishes a block, and where the text ends. No other operation finishes one. -/
theorem interpolation_is_normal_and_ends_blocks_cleanly (manner : Manner)
    (bindings : List (String × Binding)) (text : String) (blocks : StructuredText)
    (interpolated : interpolate manner bindings text = .ok blocks) :
    (∀ block ∈ blocks, block.IsNormal) ∧
      ∃ program scope final,
        compile (.prose manner.breaks) text = .ok program ∧
        prepareVariables bindings = .ok scope ∧
        Machine.initial.run scope manner.capitalize program = .ok final ∧
        final.IsClean ∧
        final.endBlock.blocks = blocks ∧
        ∀ front instruction back, program = front ++ instruction :: back →
          ∃ before after,
            Machine.initial.run scope manner.capitalize front = .ok before ∧
            before.step scope manner.capitalize instruction.operation = .ok after ∧
            if instruction.operation.closesBlock then before.IsClean
            else after.blocks = before.blocks := by
  obtain ⟨program, compiled, interpolated⟩ := bind_eq_ok.mp interpolated
  obtain ⟨scope, prepared, interpolated⟩ := bind_eq_ok.mp interpolated
  obtain ⟨final, ran, interpolated⟩ := bind_eq_ok.mp interpolated
  cases interpolated
  obtain ⟨_, _, _, _, fragments⟩ := compile_sound compiled
  obtain ⟨cleanly, tracked⟩ := Machine.initial_tracks.fragments fragments
  refine ⟨?normal, program, scope, final, compiled, prepared, ran, ?clean, rfl, ?operations⟩
  case normal => exact (Machine.initial_writesNormal.run ran).endBlock.blocks
  case clean => exact (tracked final ran).isClean
  case operations =>
    rintro front instruction back rfl
    exact cleanly.at_operation ran

theorem interpolation_is_normal_and_ends_blocks_cleanly_heading :
    let source := "*$\x7bN\x7d*$\x7bsub(\x7db$\x7b)\x7d"
    let blocks : StructuredText :=
      [⟨.paragraph, none, [⟨.italic, "Bite"⟩]⟩, ⟨.subParagraph, some [⟨.bold, "b"⟩], []⟩]
    let front : Program :=
      [⟨.start .italic, ⟨1, 1⟩⟩, ⟨.load "N", ⟨1, 4⟩⟩, ⟨.append, ⟨1, 4⟩⟩,
        ⟨.stop .italic, ⟨1, 6⟩⟩]
    interpolate ⟨true, false⟩ [("N", .value (.text "Bite"))] source = .ok blocks ∧
      (∀ block ∈ blocks, block.IsNormal) ∧
      ∃ back before,
        compile (.prose true) source =
          .ok (front ++ ⟨.startHeading .subParagraph, ⟨1, 9⟩⟩ :: back) ∧
        Machine.initial.run [("N", .text "Bite")] false front = .ok before ∧
        before.IsClean := by
  intro source blocks front
  let back : Program := [⟨.appendText "b", ⟨1, 14⟩⟩, ⟨.endHeading, ⟨1, 17⟩⟩]
  have compiled : compile (.prose true) source =
      .ok (front ++ ⟨.startHeading .subParagraph, ⟨1, 9⟩⟩ :: back) :=
    eq_ok_of_toOption (by decide +kernel)
  have interpolated :
      interpolate ⟨true, false⟩ [("N", .value (.text "Bite"))] source = .ok blocks :=
    eq_ok_of_toOption (by decide +kernel)
  obtain ⟨normal, program, scope, final, compiled', prepared, _, _, _, operations⟩ :=
    interpolation_is_normal_and_ends_blocks_cleanly _ _ _ _ interpolated
  cases compiled.symm.trans compiled'
  cases prepared
  obtain ⟨before, after, ran, _, clean⟩ := operations _ _ _ rfl
  exact ⟨interpolated, normal, back, before, compiled, ran, clean⟩

end Bestiary.Prose
