import Bestiary.Proofs.Prose.Fragment

/-!
Brackets: what may open and close where, and how programs nest.

The edges of a text are its marks, the openings and closings of its commands,
and its paragraph breaks. They are properly bracketed if each of them does
something that it may do to the structures open before it, and nothing is open
at the end. The edges of a text that compiles are, and its program then closes
every structure that it starts, the innermost first.
-/

namespace Bestiary.Prose

open Text

/-! ### Proper bracketing -/

/-- What opens a structure, and so what has to close it. -/
inductive Opener
  | mark
  | command
  deriving DecidableEq, Repr

structure Bracket where
  opened : Structure
  opener : Opener
  deriving DecidableEq, Repr

/-- A part of a text that opens or closes structures, or asks that none be open. -/
inductive Edge
  | mark (emphasis : Emphasis)
  | opens (opened : Structure)
  | closes
  | breaks
  deriving DecidableEq, Repr

/-- What an edge may do to the open structures, of which the innermost stands first. -/
inductive Edge.Turns : List Bracket → Edge → List Bracket → Prop
  | unmark (emphasis : Emphasis) (outer : List Bracket) :
      Turns (⟨emphasis.structure, .mark⟩ :: outer) (.mark emphasis) outer
  | mark (emphasis : Emphasis) (outer : List Bracket) :
      emphasis.structure ∉ outer.map Bracket.opened →
      Turns outer (.mark emphasis) (⟨emphasis.structure, .mark⟩ :: outer)
  | heading (opened : Structure) :
      opened.isHeading = true →
      Turns [] (.opens opened) [⟨opened, .command⟩]
  | emphasis (opened : Structure) (outer : List Bracket) :
      opened.isHeading = false →
      opened ∉ outer.map Bracket.opened →
      Turns outer (.opens opened) (⟨opened, .command⟩ :: outer)
  | closes (opened : Structure) (outer : List Bracket) :
      Turns (⟨opened, .command⟩ :: outer) .closes outer
  | breaks : Turns [] .breaks []

/-- Edges each of which may do what it does, and which leave nothing open. -/
inductive Bracketed : List Bracket → List Edge → Prop
  | finish : Bracketed [] []
  | next {before after : List Bracket} {edge : Edge} {others : List Edge} :
      edge.Turns before after →
      Bracketed after others →
      Bracketed before (edge :: others)

theorem Bracketed.eq_nil {stack : List Bracket} (bracketed : Bracketed stack []) : stack = [] := by
  cases bracketed
  rfl

theorem Bracketed.uncons {before : List Bracket} {edge : Edge} {others : List Edge}
    (bracketed : Bracketed before (edge :: others)) :
    ∃ after, edge.Turns before after ∧ Bracketed after others := by
  cases bracketed with
  | next turns bracketedOthers => exact ⟨_, turns, bracketedOthers⟩

/-! ### What compiles is properly bracketed -/

def Fragment.edge? : Fragment → Option Edge
  | literal _ _ => none
  | shown _ _ => none
  | mark _ emphasis => some (.mark emphasis)
  | opens _ opened => some (.opens opened)
  | closes _ => some .closes
  | breaks _ => some .breaks

def OpenStructure.bracket (found : OpenStructure) : Bracket :=
  ⟨found.opened, if found.byMark then .mark else .command⟩

namespace Nesting

abbrev brackets (nesting : Nesting) : List Bracket :=
  nesting.map OpenStructure.bracket

theorem opened_brackets (nesting : Nesting) :
    nesting.brackets.map Bracket.opened = nesting.structures := by
  rw [brackets, List.map_map]
  rfl

theorem bracket_of_mark {innermost : OpenStructure} (byMark : innermost.byMark = true) :
    innermost.bracket = ⟨innermost.opened, .mark⟩ := by
  rw [OpenStructure.bracket, if_pos byMark]

theorem bracket_of_command {innermost : OpenStructure} (byCommand : innermost.byMark = false) :
    innermost.bracket = ⟨innermost.opened, .command⟩ := by
  rw [OpenStructure.bracket, if_neg (ne_true_of_eq_false byCommand)]

theorem byMark_of_bracket {innermost : OpenStructure} {opened : Structure}
    (same : innermost.bracket = ⟨opened, .mark⟩) :
    innermost.byMark = true ∧ innermost.opened = opened := by
  obtain ⟨openedEq, openerEq⟩ := Bracket.mk.inj same
  refine ⟨?_, openedEq⟩
  cases byMark : innermost.byMark with
  | true => rfl
  | false => simp [byMark] at openerEq

theorem byCommand_of_bracket {innermost : OpenStructure} {opened : Structure}
    (same : innermost.bracket = ⟨opened, .command⟩) :
    innermost.byMark = false ∧ innermost.opened = opened := by
  obtain ⟨openedEq, openerEq⟩ := Bracket.mk.inj same
  refine ⟨?_, openedEq⟩
  cases byMark : innermost.byMark with
  | true => simp [byMark] at openerEq
  | false => rfl

end Nesting

variable {breaks : Bool} {nesting after : Nesting} {fragment : Fragment} {program : Program}

theorem Fragment.keeps_of_compile {dialect : Dialect}
    (compiled : fragment.compile dialect nesting = .ok (program, after))
    (plain : fragment.edge? = none) : after = nesting := by
  cases fragment with
  | literal place content =>
      cases compiled
      rfl
  | shown place expression =>
      cases compiled
      rfl
  | mark place emphasis => cases plain
  | opens place opened => cases plain
  | closes place => cases plain
  | breaks place => cases plain

theorem Fragment.turns_of_compile {dialect : Dialect} {edge : Edge}
    (compiled : fragment.compile dialect nesting = .ok (program, after))
    (isEdge : fragment.edge? = some edge) : edge.Turns nesting.brackets after.brackets := by
  cases fragment with
  | literal place content => cases isEdge
  | shown place expression => cases isEdge
  | mark place emphasis =>
      cases isEdge
      obtain ⟨⟨instruction, inner⟩, marked, compiled⟩ := bind_eq_ok.mp compiled
      cases compiled
      rcases Nesting.mark_eq_ok_iff.mp marked with
        ⟨innermost, rfl, byMark, same, _⟩ | ⟨absent, rfl, _⟩
      · rw [Nesting.brackets, List.map_cons, Nesting.bracket_of_mark byMark, same]
        exact .unmark emphasis _
      · rw [← nesting.opened_brackets] at absent
        exact .mark emphasis _ absent
  | opens place opened =>
      cases isEdge
      obtain ⟨inner, entered, compiled⟩ := bind_eq_ok.mp compiled
      cases compiled
      obtain ⟨_, rfl, outermost, absent⟩ := Nesting.openByCommand_eq_ok_iff.mp entered
      cases heading : opened.isHeading with
      | true =>
          rw [outermost heading]
          exact .heading opened heading
      | false =>
          rw [← nesting.opened_brackets] at absent
          exact .emphasis opened _ heading absent
  | closes place =>
      cases isEdge
      obtain ⟨⟨instruction, outer⟩, closed, compiled⟩ := bind_eq_ok.mp compiled
      cases compiled
      obtain ⟨innermost, rfl, byCommand, _⟩ := Nesting.closeByCommand_eq_ok_iff.mp closed
      rw [Nesting.brackets, List.map_cons, Nesting.bracket_of_command byCommand]
      exact .closes innermost.opened _
  | breaks place =>
      cases isEdge
      cases nesting with
      | nil =>
          cases compiled
          exact .breaks
      | cons innermost outer => cases compiled

theorem Fragment.compile_of_turns {edge : Edge} {turned : List Bracket}
    (isEdge : fragment.edge? = some edge) (turns : edge.Turns nesting.brackets turned) :
    ∃ program after, fragment.compile (.prose breaks) nesting = .ok (program, after) ∧
      after.brackets = turned := by
  generalize stackEq : nesting.brackets = stack at turns
  cases turns with
  | unmark emphasis outer =>
      obtain ⟨place, rfl⟩ : ∃ place, fragment = .mark place emphasis := by
        cases fragment <;> cases isEdge
        exact ⟨_, rfl⟩
      obtain ⟨innermost, others, rfl, sameFirst, sameOthers⟩ := List.map_eq_cons_iff.mp stackEq
      obtain ⟨byMark, same⟩ := Nesting.byMark_of_bracket sameFirst
      have marked : Nesting.mark emphasis.structure place (innermost :: others) =
          .ok (⟨emphasis.structure.ending, place⟩, others) :=
        Nesting.mark_eq_ok_iff.mpr (.inl ⟨innermost, rfl, byMark, same, rfl⟩)
      exact ⟨_, others, Fragment.compile_mark marked, sameOthers⟩
  | mark emphasis _ absent =>
      obtain ⟨place, rfl⟩ : ∃ place, fragment = .mark place emphasis := by
        cases fragment <;> cases isEdge
        exact ⟨_, rfl⟩
      rw [← stackEq, Nesting.opened_brackets] at absent
      have marked : Nesting.mark emphasis.structure place nesting =
          .ok (⟨emphasis.structure.starting, place⟩,
            ⟨emphasis.structure, true, place⟩ :: nesting) :=
        Nesting.mark_eq_ok_iff.mpr (.inr ⟨absent, rfl, rfl⟩)
      exact ⟨_, _, Fragment.compile_mark marked, congrArg (List.cons _) stackEq⟩
  | heading opened heading =>
      obtain ⟨place, rfl⟩ : ∃ place, fragment = .opens place opened := by
        cases fragment <;> cases isEdge
        exact ⟨_, rfl⟩
      obtain rfl : nesting = [] := List.map_eq_nil_iff.mp stackEq
      have entered : Nesting.openByCommand (.prose breaks) opened place [] =
          .ok [⟨opened, false, place⟩] :=
        Nesting.openByCommand_eq_ok_iff.mpr ⟨rfl, rfl, fun _ => rfl, List.not_mem_nil⟩
      exact ⟨_, _, Fragment.compile_opens entered, rfl⟩
  | emphasis opened _ plain absent =>
      obtain ⟨place, rfl⟩ : ∃ place, fragment = .opens place opened := by
        cases fragment <;> cases isEdge
        exact ⟨_, rfl⟩
      rw [← stackEq, Nesting.opened_brackets] at absent
      have outermost : opened.isHeading = true → nesting = [] := by
        intro heading
        cases plain.symm.trans heading
      have entered : Nesting.openByCommand (.prose breaks) opened place nesting =
          .ok (⟨opened, false, place⟩ :: nesting) :=
        Nesting.openByCommand_eq_ok_iff.mpr ⟨rfl, rfl, outermost, absent⟩
      exact ⟨_, _, Fragment.compile_opens entered, congrArg (List.cons _) stackEq⟩
  | closes opened outer =>
      obtain ⟨place, rfl⟩ : ∃ place, fragment = .closes place := by
        cases fragment <;> cases isEdge
        exact ⟨_, rfl⟩
      obtain ⟨innermost, others, rfl, sameFirst, sameOthers⟩ := List.map_eq_cons_iff.mp stackEq
      obtain ⟨byCommand, _⟩ := Nesting.byCommand_of_bracket sameFirst
      have closed : Nesting.closeByCommand place (innermost :: others) =
          .ok (⟨innermost.opened.ending, place⟩, others) :=
        Nesting.closeByCommand_eq_ok_iff.mpr ⟨innermost, rfl, byCommand, rfl⟩
      exact ⟨_, others, Fragment.compile_closes closed, sameOthers⟩
  | breaks =>
      obtain ⟨place, rfl⟩ : ∃ place, fragment = .breaks place := by
        cases fragment <;> cases isEdge
        exact ⟨_, rfl⟩
      obtain rfl : nesting = [] := List.map_eq_nil_iff.mp stackEq
      exact ⟨_, [], rfl, rfl⟩

theorem Fragment.compile_plain {dialect : Dialect} (plain : fragment.edge? = none)
    (nesting : Nesting) : ∃ program, fragment.compile dialect nesting = .ok (program, nesting) := by
  cases fragment with
  | literal place content => exact ⟨_, rfl⟩
  | shown place expression => exact ⟨_, rfl⟩
  | mark place emphasis => cases plain
  | opens place opened => cases plain
  | closes place => cases plain
  | breaks place => cases plain

/-- Fragments compile in prose exactly when their edges are properly bracketed. -/
theorem compileFragments_iff_bracketed {fragments : List Fragment} :
    (∃ program, compileFragments (.prose breaks) nesting fragments = .ok (program, [])) ↔
      Bracketed nesting.brackets (fragments.filterMap Fragment.edge?) := by
  induction fragments generalizing nesting with
  | nil =>
      constructor
      · rintro ⟨program, ⟨⟩⟩
        exact .finish
      · intro bracketed
        obtain rfl : nesting = [] := List.map_eq_nil_iff.mp bracketed.eq_nil
        exact ⟨[], rfl⟩
  | cons fragment others ih =>
      constructor
      · rintro ⟨program, compiled⟩
        obtain ⟨⟨first, inner⟩, compiledFirst, compiled⟩ := bind_eq_ok.mp compiled
        obtain ⟨⟨rest, outer⟩, compiledOthers, compiled⟩ := bind_eq_ok.mp compiled
        cases compiled
        have bracketed := ih.mp ⟨rest, compiledOthers⟩
        cases isEdge : fragment.edge? with
        | none =>
            rw [Fragment.keeps_of_compile compiledFirst isEdge] at bracketed
            rwa [List.filterMap_cons_none isEdge]
        | some edge =>
            rw [List.filterMap_cons_some isEdge]
            exact .next (Fragment.turns_of_compile compiledFirst isEdge) bracketed
      · intro bracketed
        cases isEdge : fragment.edge? with
        | none =>
            rw [List.filterMap_cons_none isEdge] at bracketed
            obtain ⟨rest, compiledOthers⟩ := ih.mpr bracketed
            obtain ⟨first, compiledFirst⟩ := Fragment.compile_plain isEdge nesting
            exact ⟨_, compileFragments_cons compiledFirst compiledOthers⟩
        | some edge =>
            rw [List.filterMap_cons_some isEdge] at bracketed
            obtain ⟨turned, turns, bracketedOthers⟩ := bracketed.uncons
            obtain ⟨first, inner, compiledFirst, rfl⟩ := Fragment.compile_of_turns isEdge turns
            obtain ⟨rest, compiledOthers⟩ := ih.mpr bracketedOthers
            exact ⟨_, compileFragments_cons compiledFirst compiledOthers⟩

/-! ### Programs nest -/

def Operation.isEdge : Operation → Bool
  | start _ => true
  | stop _ => true
  | startHeading _ => true
  | endHeading => true
  | _ => false

/-- Programs in which every start of a structure is matched by its end. -/
inductive Nested : Program → Prop
  | nil : Nested []
  | plain {instruction : Instruction} {others : Program} :
      instruction.operation.isEdge = false →
      Nested others →
      Nested (instruction :: others)
  | pair {start stop : Instruction} {inside others : Program} (opened : Structure) :
      start.operation = opened.starting →
      stop.operation = opened.ending →
      Nested inside →
      Nested others →
      Nested (start :: (inside ++ stop :: others))

/-- Programs that end the given structures, the innermost first, and match all others. -/
inductive Ends : List Structure → Program → Prop
  | none {program : Program} : Nested program → Ends [] program
  | next {inside others : Program} {stop : Instruction} {opened : Structure}
      {outer : List Structure} :
      Nested inside →
      stop.operation = opened.ending →
      Ends outer others →
      Ends (opened :: outer) (inside ++ stop :: others)

theorem Ends.plain {structures : List Structure} {instruction : Instruction} {others : Program}
    (ends : Ends structures others) (isPlain : instruction.operation.isEdge = false) :
    Ends structures (instruction :: others) := by
  cases ends with
  | none nested => exact .none (.plain isPlain nested)
  | next nested stops ends => exact .next (.plain isPlain nested) stops ends

theorem Ends.plain_append {structures : List Structure} {front others : Program}
    (ends : Ends structures others)
    (arePlain : ∀ instruction ∈ front, instruction.operation.isEdge = false) :
    Ends structures (front ++ others) := by
  induction front with
  | nil => exact ends
  | cons instruction rest ih =>
      obtain ⟨isPlain, restPlain⟩ := List.forall_mem_cons.mp arePlain
      exact (ih restPlain).plain isPlain

theorem Ends.stop {outer : List Structure} {opened : Structure} {others : Program}
    (ends : Ends outer others) (place : Place) :
    Ends (opened :: outer) (⟨opened.ending, place⟩ :: others) :=
  .next .nil rfl ends

theorem Ends.start {outer : List Structure} {opened : Structure} {others : Program}
    (ends : Ends (opened :: outer) others) (place : Place) :
    Ends outer (⟨opened.starting, place⟩ :: others) := by
  -- What ends the structure is matched with its start; the rest ends the others.
  cases ends with
  | @next first _ stop _ _ inside stops endsOuter =>
      cases endsOuter with
      | none nested => exact .none (.pair opened rfl stops inside nested)
      | next nested stops' ends =>
          rw [← List.cons_append, ← List.cons_append, ← List.append_assoc]
          exact .next (.pair opened rfl stops inside nested) stops' ends

theorem Expression.code_isEdge (expression : Expression) :
    ∀ instruction ∈ expression.code, instruction.operation.isEdge = false := by
  induction expression with
  | literal place value => exact List.forall_mem_singleton.mpr rfl
  | reference place name => exact List.forall_mem_singleton.mpr rfl
  | unary place operator operand ih =>
      exact List.forall_mem_append.mpr ⟨ih, List.forall_mem_singleton.mpr rfl⟩
  | binary place operator left right ihLeft ihRight =>
      exact List.forall_mem_append.mpr
        ⟨List.forall_mem_append.mpr ⟨ihLeft, ihRight⟩, List.forall_mem_singleton.mpr rfl⟩
  | choose place condition chosen otherwise ihCondition ihChosen ihOtherwise =>
      exact List.forall_mem_append.mpr
        ⟨List.forall_mem_append.mpr
          ⟨List.forall_mem_append.mpr ⟨ihCondition, ihChosen⟩, ihOtherwise⟩,
          List.forall_mem_singleton.mpr rfl⟩

theorem appendCode_isEdge (expression : Expression) (place : Place) :
    ∀ instruction ∈ appendCode expression place, instruction.operation.isEdge = false :=
  List.forall_mem_append.mpr ⟨expression.code_isEdge, List.forall_mem_singleton.mpr rfl⟩

theorem Fragment.ends_of_compile {dialect : Dialect} {others : Program}
    (compiled : fragment.compile dialect nesting = .ok (program, after))
    (ends : Ends after.structures others) : Ends nesting.structures (program ++ others) := by
  cases fragment with
  | literal place content =>
      cases compiled
      exact ends.plain rfl
  | shown place expression =>
      cases compiled
      exact ends.plain_append (appendCode_isEdge expression place)
  | mark place emphasis =>
      obtain ⟨⟨instruction, inner⟩, marked, compiled⟩ := bind_eq_ok.mp compiled
      cases compiled
      rcases Nesting.mark_eq_ok_iff.mp marked with ⟨innermost, rfl, _, same, rfl⟩ | ⟨_, rfl, rfl⟩
      · rw [← same]
        exact ends.stop place
      · exact ends.start place
  | opens place opened =>
      obtain ⟨inner, entered, compiled⟩ := bind_eq_ok.mp compiled
      cases compiled
      obtain ⟨_, rfl, _, _⟩ := Nesting.openByCommand_eq_ok_iff.mp entered
      exact ends.start place
  | closes place =>
      obtain ⟨⟨instruction, outer⟩, closed, compiled⟩ := bind_eq_ok.mp compiled
      cases compiled
      obtain ⟨innermost, rfl, _, rfl⟩ := Nesting.closeByCommand_eq_ok_iff.mp closed
      exact ends.stop place
  | breaks place =>
      cases nesting with
      | nil =>
          cases compiled
          exact ends.plain rfl
      | cons innermost outer => cases compiled

theorem ends_of_compileFragments {dialect : Dialect} {fragments : List Fragment}
    (compiled : compileFragments dialect nesting fragments = .ok (program, [])) :
    Ends nesting.structures program := by
  induction fragments generalizing nesting program with
  | nil =>
      cases compiled
      exact .none .nil
  | cons fragment others ih =>
      obtain ⟨⟨first, inner⟩, compiledFirst, compiled⟩ := bind_eq_ok.mp compiled
      obtain ⟨⟨rest, outer⟩, compiledOthers, compiled⟩ := bind_eq_ok.mp compiled
      cases compiled
      exact Fragment.ends_of_compile compiledFirst (ih compiledOthers)

/-- The program of a whole text matches every start of a structure with its end. -/
theorem nested_of_compileFragments {dialect : Dialect} {fragments : List Fragment}
    (compiled : compileFragments dialect [] fragments = .ok (program, [])) : Nested program := by
  cases ends_of_compileFragments compiled with
  | none nested => exact nested

end Bestiary.Prose
