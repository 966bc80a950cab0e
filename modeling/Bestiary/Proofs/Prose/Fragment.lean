import Bestiary.Proofs.Prose.Grammar
import Bestiary.Prose.Program

/-!
Fragments: the parts of an authored text, and the programs made of them.

A text is a row of literal runs, displayed values, marks, edges of structures
and paragraph breaks. Tokens spell exactly one such row, and a text compiles
to the programs of its fragments, one after the other, each under the
structures that are open where it stands.
-/

namespace Bestiary.Prose

open Text

/-- A part of an authored text and the place that its faults are reported at. -/
inductive Fragment
  | literal (place : Place) (content : String)
  | shown (place : Place) (expression : Expression)
  | mark (place : Place) (emphasis : Emphasis)
  | opens (place : Place) (opened : Structure)
  | closes (place : Place)
  | breaks (place : Place)
  deriving DecidableEq, Repr

/-- Tokens that spell the arguments of a command. Each argument goes on as far as it can. -/
inductive SpellsArguments : List Located → List Fragment → Prop
  | none : SpellsArguments [] []
  | next {first : Located} {written others : List Located} {expression : Expression}
      {fragments : List Fragment} :
      Derives .choice (first :: written) expression →
      StopsBefore .choice others →
      SpellsArguments others fragments →
      SpellsArguments (first :: (written ++ others)) (.shown first.place expression :: fragments)

inductive SpellsDirective : List Located → List Fragment → Prop
  | value {first : Located} {written : List Located} {expression : Expression} :
      Derives .choice (first :: written) expression →
      SpellsDirective (first :: written) [.shown first.place expression]
  | close (place : Place) :
      SpellsDirective [⟨.closeParen, place⟩] [.closes place]
  | start {arguments : List Located} {fragments : List Fragment} (opened : Structure)
      (place : Place) :
      SpellsArguments arguments fragments →
      SpellsDirective (⟨.command opened, place⟩ :: arguments) (.opens place opened :: fragments)
  | whole {arguments : List Located} {fragments : List Fragment} (opened : Structure)
      (place closing : Place) :
      SpellsArguments arguments fragments →
      SpellsDirective (⟨.command opened, place⟩ :: (arguments ++ [⟨.closeParen, closing⟩]))
        (.opens place opened :: (fragments ++ [.closes closing]))

/-- Tokens that spell a whole text. -/
inductive Spells : List Located → List Fragment → Prop
  | finish : Spells [] []
  | literal {tail : List Located} {fragments : List Fragment} (place : Place) (content : String) :
      Spells tail fragments →
      Spells (⟨.literal content, place⟩ :: tail) (.literal place content :: fragments)
  | boldMark {tail : List Located} {fragments : List Fragment} (place : Place) :
      Spells tail fragments →
      Spells (⟨.boldMark, place⟩ :: tail) (.mark place .bold :: fragments)
  | italicMark {tail : List Located} {fragments : List Fragment} (place : Place) :
      Spells tail fragments →
      Spells (⟨.italicMark, place⟩ :: tail) (.mark place .italic :: fragments)
  | breaks {tail : List Located} {fragments : List Fragment} (place : Place) :
      Spells tail fragments →
      Spells (⟨.paragraphBreak, place⟩ :: tail) (.breaks place :: fragments)
  | directive {inside tail : List Located} {fragments others : List Fragment}
      (opening closing : Place) :
      SpellsDirective inside fragments →
      Spells tail others →
      Spells (⟨.opening, opening⟩ :: (inside ++ ⟨.closing, closing⟩ :: tail)) (fragments ++ others)

/-! ### What opens and closes structures -/

namespace Nesting

abbrev structures (nesting : Nesting) : List Structure :=
  nesting.map OpenStructure.opened

theorem any_opened_eq_false {nesting : Nesting} {marked : Structure} :
    nesting.any (·.opened == marked) = false ↔ marked ∉ nesting.structures := by
  simp only [List.any_eq_false, beq_iff_eq, structures, List.mem_map, not_exists, not_and]

theorem mark_eq_ok_iff {marked : Structure} {place : Place} {nesting after : Nesting}
    {instruction : Instruction} :
    Nesting.mark marked place nesting = .ok (instruction, after) ↔
      (∃ innermost, nesting = innermost :: after ∧ innermost.byMark = true ∧
          innermost.opened = marked ∧ instruction = ⟨marked.ending, place⟩) ∨
        (marked ∉ nesting.structures ∧ after = ⟨marked, true, place⟩ :: nesting ∧
          instruction = ⟨marked.starting, place⟩) := by
  have opening :
      (if nesting.any (·.opened == marked) then
          .error ((ProseFault.alreadyOpen marked).at place)
        else .ok (⟨marked.starting, place⟩, ⟨marked, true, place⟩ :: nesting)) =
        (.ok (instruction, after) : Except ProseError (Instruction × Nesting)) ↔
      marked ∉ nesting.structures ∧ after = ⟨marked, true, place⟩ :: nesting ∧
        instruction = ⟨marked.starting, place⟩ := by
    by_cases present : nesting.any (·.opened == marked) = true
    · rw [if_pos present]
      refine ⟨nofun, fun ⟨absent, _⟩ => ?_⟩
      rw [any_opened_eq_false.mpr absent] at present
      cases present
    · rw [if_neg present]
      have absent := any_opened_eq_false.mp (Bool.eq_false_iff.mpr present)
      constructor
      · rintro ⟨⟩
        exact ⟨absent, rfl, rfl⟩
      · rintro ⟨_, rfl, rfl⟩
        rfl
  unfold Nesting.mark
  cases nesting with
  | nil => simpa using opening
  | cons innermost outer =>
      simp only
      by_cases closes : (innermost.byMark && innermost.opened == marked) = true
      · rw [if_pos closes]
        obtain ⟨byMark, same⟩ := Bool.and_eq_true_iff.mp closes
        have same : innermost.opened = marked := beq_iff_eq.mp same
        constructor
        · rintro ⟨⟩
          exact .inl ⟨innermost, rfl, byMark, same, rfl⟩
        · rintro (⟨_, ⟨⟩, _, _, rfl⟩ | ⟨absent, _⟩)
          · rfl
          · exact absurd (same ▸ List.mem_cons_self) absent
      · rw [if_neg closes, opening]
        constructor
        · exact .inr
        · rintro (⟨_, ⟨⟩, byMark, same, _⟩ | opens)
          · exact absurd (Bool.and_eq_true_iff.mpr ⟨byMark, beq_iff_eq.mpr same⟩) closes
          · exact opens

theorem openByCommand_eq_ok_iff {dialect : Dialect} {opened : Structure} {place : Place}
    {nesting inner : Nesting} :
    Nesting.openByCommand dialect opened place nesting = .ok inner ↔
      dialect.hasMarks = true ∧ inner = ⟨opened, false, place⟩ :: nesting ∧
        (opened.isHeading = true → nesting = []) ∧ opened ∉ nesting.structures := by
  unfold Nesting.openByCommand
  cases marks : dialect.hasMarks with
  | false =>
      rw [if_pos (by rfl)]
      exact ⟨nofun, nofun⟩
  | true =>
      rw [if_neg (by decide)]
      by_cases heading : opened.isHeading = true
      · rw [if_pos heading]
        cases nesting with
        | nil =>
            constructor
            · rintro ⟨⟩
              exact ⟨rfl, rfl, fun _ => rfl, List.not_mem_nil⟩
            · rintro ⟨_, rfl, _⟩
              rfl
        | cons innermost outer =>
            refine ⟨nofun, fun ⟨_, _, outermost, _⟩ => ?_⟩
            cases outermost heading
      · rw [if_neg heading]
        by_cases present : nesting.any (·.opened == opened) = true
        · rw [if_pos present]
          refine ⟨nofun, fun ⟨_, _, _, absent⟩ => ?_⟩
          rw [any_opened_eq_false.mpr absent] at present
          cases present
        · rw [if_neg present]
          have absent := any_opened_eq_false.mp (Bool.eq_false_iff.mpr present)
          constructor
          · rintro ⟨⟩
            exact ⟨rfl, rfl, fun isHeading => absurd isHeading heading, absent⟩
          · rintro ⟨_, rfl, _⟩
            rfl

theorem closeByCommand_eq_ok_iff {place : Place} {nesting outer : Nesting}
    {instruction : Instruction} :
    Nesting.closeByCommand place nesting = .ok (instruction, outer) ↔
      ∃ innermost, nesting = innermost :: outer ∧ innermost.byMark = false ∧
        instruction = ⟨innermost.opened.ending, place⟩ := by
  cases nesting with
  | nil => exact ⟨nofun, nofun⟩
  | cons innermost others =>
      unfold Nesting.closeByCommand
      by_cases byMark : innermost.byMark = true
      · simp only [if_pos byMark]
        refine ⟨nofun, ?_⟩
        rintro ⟨_, ⟨⟩, notByMark, _⟩
        cases byMark.symm.trans notByMark
      · simp only [if_neg byMark]
        constructor
        · rintro ⟨⟩
          exact ⟨innermost, rfl, Bool.eq_false_iff.mpr byMark, rfl⟩
        · rintro ⟨_, ⟨⟩, _, rfl⟩
          rfl

end Nesting

/-! ### Programs of fragments -/

def Emphasis.structure : Emphasis → Structure
  | bold => .bold
  | italic => .italic

/-- The program of a fragment, and the structures open after it. -/
def Fragment.compile (dialect : Dialect) (nesting : Nesting) :
    Fragment → Except ProseError (Program × Nesting)
  | literal place content => .ok ([⟨.appendText content, place⟩], nesting)
  | shown place expression => .ok (appendCode expression place, nesting)
  | mark place emphasis => do
      let (instruction, after) ← Nesting.mark emphasis.structure place nesting
      pure ([instruction], after)
  | opens place opened => do
      let inner ← Nesting.openByCommand dialect opened place nesting
      pure ([⟨opened.starting, place⟩], inner)
  | closes place => do
      let (instruction, outer) ← Nesting.closeByCommand place nesting
      pure ([instruction], outer)
  | breaks place =>
      match nesting with
      | [] => .ok ([⟨.breakParagraph, place⟩], [])
      | innermost :: _ => .error (Nesting.neverClosed innermost)

theorem Fragment.compile_mark {dialect : Dialect} {emphasis : Emphasis} {place : Place}
    {nesting after : Nesting} {instruction : Instruction}
    (marked : Nesting.mark emphasis.structure place nesting = .ok (instruction, after)) :
    (Fragment.mark place emphasis).compile dialect nesting = .ok ([instruction], after) := by
  rw [Fragment.compile, marked]
  rfl

theorem Fragment.compile_opens {dialect : Dialect} {opened : Structure} {place : Place}
    {nesting inner : Nesting}
    (entered : Nesting.openByCommand dialect opened place nesting = .ok inner) :
    (Fragment.opens place opened).compile dialect nesting =
      .ok ([⟨opened.starting, place⟩], inner) := by
  rw [Fragment.compile, entered]
  rfl

theorem Fragment.compile_closes {dialect : Dialect} {place : Place} {nesting outer : Nesting}
    {instruction : Instruction}
    (closed : Nesting.closeByCommand place nesting = .ok (instruction, outer)) :
    (Fragment.closes place).compile dialect nesting = .ok ([instruction], outer) := by
  rw [Fragment.compile, closed]
  rfl

def compileFragments (dialect : Dialect) :
    Nesting → List Fragment → Except ProseError (Program × Nesting)
  | nesting, [] => .ok ([], nesting)
  | nesting, fragment :: others => do
      let (program, inner) ← fragment.compile dialect nesting
      let (rest, outer) ← compileFragments dialect inner others
      pure (program ++ rest, outer)

theorem compileFragments_cons {dialect : Dialect} {nesting inner outer : Nesting}
    {fragment : Fragment} {others : List Fragment} {program rest : Program}
    (first : fragment.compile dialect nesting = .ok (program, inner))
    (remaining : compileFragments dialect inner others = .ok (rest, outer)) :
    compileFragments dialect nesting (fragment :: others) = .ok (program ++ rest, outer) := by
  rw [compileFragments, first, ok_bind]
  simp only
  rw [remaining]
  rfl

theorem compileFragments_single {dialect : Dialect} {nesting inner : Nesting}
    {fragment : Fragment} {program : Program}
    (first : fragment.compile dialect nesting = .ok (program, inner)) :
    compileFragments dialect nesting [fragment] = .ok (program, inner) := by
  have nothing : compileFragments dialect inner [] = .ok ([], inner) := rfl
  have whole := compileFragments_cons first nothing
  rwa [List.append_nil] at whole

theorem compileFragments_append {dialect : Dialect} {nesting inner outer : Nesting}
    {first second : List Fragment} {program rest : Program}
    (before : compileFragments dialect nesting first = .ok (program, inner))
    (after : compileFragments dialect inner second = .ok (rest, outer)) :
    compileFragments dialect nesting (first ++ second) = .ok (program ++ rest, outer) := by
  induction first generalizing nesting program with
  | nil =>
      cases before
      exact after
  | cons fragment others ih =>
      obtain ⟨⟨head, middle⟩, compiled, before⟩ := bind_eq_ok.mp before
      obtain ⟨⟨tail, last⟩, compiledOthers, before⟩ := bind_eq_ok.mp before
      cases before
      rw [List.cons_append, List.append_assoc]
      exact compileFragments_cons compiled (ih compiledOthers)

/-! ### What is compiled is made of fragments -/

theorem Derives.ne_nil {level : Precedence} {expression : Expression}
    (derived : Derives level [] expression) : False := by
  generalize emptyEq : ([] : List Located) = written at derived
  induction derived with
  | literal _ _ => cases emptyEq
  | reference _ _ => cases emptyEq
  | parentheses _ _ _ _ => cases emptyEq
  | operand _ ih => exact ih emptyEq
  | prefixed _ _ _ _ => cases emptyEq
  | factor _ ih => exact ih emptyEq
  | scaled _ _ _ _ _ _ => simp at emptyEq
  | addend _ ih => exact ih emptyEq
  | added _ _ _ _ _ _ => simp at emptyEq
  | unconditional _ ih => exact ih emptyEq
  | conditional _ _ _ _ _ _ _ _ => simp at emptyEq

theorem scanChoice_written {finish : Place} {input : List Located} {expression : Expression}
    {rest : Fewer input} (accepted : scanChoice finish input = .ok (expression, rest)) :
    ∃ first written, input = first :: (written ++ rest.1) ∧
      Derives .choice (first :: written) expression ∧ StopsBefore .choice rest.1 := by
  obtain ⟨written, inputEq, derived, stops⟩ := scanChoice_sound accepted
  cases written with
  | nil => exact derived.ne_nil.elim
  | cons first others => exact ⟨first, others, inputEq, derived, stops⟩

theorem StopsBefore.of_append {level : Precedence} {before after : List Located}
    (stops : StopsBefore level (before ++ after)) : StopsBefore level before := by
  intro next member
  cases before with
  | nil => cases member
  | cons head tail => exact stops next member

theorem compileArguments_sound (dialect : Dialect) (nesting : Nesting) {finish : Place}
    {input : List Located} {program : Program} {rest : Remaining input}
    (compiled : compileArguments finish input = .ok (program, rest)) :
    ∃ written fragments, input = written ++ rest.1 ∧ SpellsArguments written fragments ∧
      compileFragments dialect nesting fragments = .ok (program, nesting) := by
  unfold compileArguments at compiled
  split at compiled
  · cases compiled
    exact ⟨[], [], rfl, .none, rfl⟩
  · cases compiled
    exact ⟨[], [], rfl, .none, rfl⟩
  · obtain ⟨⟨argument, afterArgument⟩, readArgument, compiled⟩ := bind_eq_ok.mp compiled
    obtain ⟨⟨others, after⟩, compiledOthers, compiled⟩ := bind_eq_ok.mp compiled
    cases compiled
    -- The argument stops before what the others are made of, or before what ends them all.
    have fewer := afterArgument.2
    obtain ⟨first, written, inputEq, derived, stops⟩ := scanChoice_written readArgument
    obtain ⟨written', fragments, restEq, spelled, compiledFragments⟩ :=
      compileArguments_sound dialect nesting compiledOthers
    rw [restEq] at stops
    have placeEq : placeOfNext finish input = first.place := by
      rw [inputEq]
      rfl
    have inputEq' : input = first :: (written ++ written') ++ after.1 :=
      calc
        input = first :: (written ++ afterArgument.1) := inputEq
        _ = first :: (written ++ (written' ++ after.1)) :=
          congrArg (fun left => first :: (written ++ left)) restEq
        _ = first :: (written ++ written') ++ after.1 := by
          rw [List.cons_append, List.append_assoc]
    rw [placeEq]
    exact ⟨_, _, inputEq', .next derived stops.of_append spelled,
      compileFragments_cons rfl compiledFragments⟩
termination_by input.length
decreasing_by exact afterArgument.2

theorem directiveEnd_sound {finish : Place} {input : List Located} {rest : Fewer input}
    (ended : directiveEnd finish input = .ok rest) :
    ∃ place, input = ⟨.closing, place⟩ :: rest.1 := by
  unfold directiveEnd at ended
  split at ended
  · rename_i place tail
    cases ended
    exact ⟨place, rfl⟩
  · cases ended

theorem compileCommand_sound (dialect : Dialect) {finish place : Place} {opened : Structure}
    {outer inner : Nesting} {input : List Located} {compiled : Compiled input}
    (entered : Nesting.openByCommand dialect opened place outer = .ok inner)
    (accepted : compileCommand finish opened place inner input = .ok compiled) :
    ∃ inside closing fragments,
      ⟨.command opened, place⟩ :: input =
        inside ++ (⟨.closing, closing⟩ :: compiled.rest.1 : List Located) ∧
      SpellsDirective inside fragments ∧
      compileFragments dialect outer fragments = .ok (compiled.program, compiled.nesting) := by
  have start := Fragment.compile_opens entered
  unfold compileCommand at accepted
  obtain ⟨⟨arguments, afterArguments⟩, compiledArguments, accepted⟩ := bind_eq_ok.mp accepted
  obtain ⟨written, fragments, inputEq, spelled, argumentsEq⟩ :=
    compileArguments_sound dialect inner compiledArguments
  simp only at accepted
  split at accepted
  · rename_i closing tail closes
    obtain ⟨⟨close, after⟩, closed, accepted⟩ := bind_eq_ok.mp accepted
    obtain ⟨rest, ended, accepted⟩ := bind_eq_ok.mp accepted
    cases accepted
    obtain ⟨finalPlace, tailEq⟩ := directiveEnd_sound ended
    have closesCompiled : (Fragment.closes closing).compile dialect inner =
        .ok ([close], after) :=
      Fragment.compile_closes closed
    have inputEq' : input =
        written ++ ⟨.closeParen, closing⟩ :: ⟨.closing, finalPlace⟩ :: rest.1 :=
      calc
        input = written ++ afterArguments.1 := inputEq
        _ = written ++ ⟨.closeParen, closing⟩ :: tail := congrArg (written ++ ·) closes
        _ = written ++ ⟨.closeParen, closing⟩ :: ⟨.closing, finalPlace⟩ :: rest.1 :=
          congrArg (fun left => written ++ ⟨.closeParen, closing⟩ :: left) tailEq
    have whole := compileFragments_cons start
      (compileFragments_append argumentsEq (compileFragments_single closesCompiled))
    refine ⟨_, finalPlace, _, ?_, .whole opened place closing spelled, whole⟩
    simpa using inputEq'
  · obtain ⟨rest, ended, accepted⟩ := bind_eq_ok.mp accepted
    cases accepted
    obtain ⟨finalPlace, restEq⟩ := directiveEnd_sound ended
    have inputEq' : input = written ++ ⟨.closing, finalPlace⟩ :: rest.1 :=
      inputEq.trans (congrArg (written ++ ·) restEq)
    have whole := compileFragments_cons start argumentsEq
    refine ⟨_, finalPlace, _, ?_, .start opened place spelled, whole⟩
    simpa using inputEq'

theorem compileDirective_sound {dialect : Dialect} {finish : Place} {nesting : Nesting}
    {input : List Located} {compiled : Compiled input}
    (accepted : compileDirective dialect finish nesting input = .ok compiled) :
    ∃ inside closing fragments,
      input = inside ++ ⟨.closing, closing⟩ :: compiled.rest.1 ∧
      SpellsDirective inside fragments ∧
      compileFragments dialect nesting fragments = .ok (compiled.program, compiled.nesting) := by
  unfold compileDirective at accepted
  split at accepted
  · obtain ⟨inner, entered, accepted⟩ := bind_eq_ok.mp accepted
    obtain ⟨command, compiledCommand, accepted⟩ := bind_eq_ok.mp accepted
    cases accepted
    exact compileCommand_sound dialect entered compiledCommand
  · rename_i place tail
    obtain ⟨⟨close, outer⟩, closed, accepted⟩ := bind_eq_ok.mp accepted
    obtain ⟨rest, ended, accepted⟩ := bind_eq_ok.mp accepted
    cases accepted
    obtain ⟨finalPlace, tailEq⟩ := directiveEnd_sound ended
    exact ⟨_, finalPlace, _, congrArg (List.cons _) tailEq, .close place,
      compileFragments_single (Fragment.compile_closes closed)⟩
  · obtain ⟨⟨expression, afterExpression⟩, readExpression, accepted⟩ := bind_eq_ok.mp accepted
    obtain ⟨rest, ended, accepted⟩ := bind_eq_ok.mp accepted
    cases accepted
    obtain ⟨finalPlace, restEq⟩ := directiveEnd_sound ended
    obtain ⟨first, written, inputEq, derived, _⟩ := scanChoice_written readExpression
    have placeEq : placeOfNext finish input = first.place := by
      rw [inputEq]
      rfl
    have inputEq' : input = first :: written ++ ⟨.closing, finalPlace⟩ :: rest.1 :=
      inputEq.trans (congrArg (fun left => first :: (written ++ left)) restEq)
    rw [placeEq]
    exact ⟨_, finalPlace, _, inputEq', .value derived, compileFragments_single rfl⟩

/-- A compiled text is spelled by its tokens, and its program is that of its fragments. -/
theorem compileTokens_sound {dialect : Dialect} {finish : Place} {nesting : Nesting}
    {input : List Located} {program : Program}
    (accepted : compileTokens dialect finish nesting input = .ok program) :
    ∃ fragments, Spells input fragments ∧
      compileFragments dialect nesting fragments = .ok (program, []) := by
  unfold compileTokens at accepted
  split at accepted
  · split at accepted
    · cases accepted
      exact ⟨[], .finish, rfl⟩
    · cases accepted
  · rename_i content place tail
    obtain ⟨others, compiledOthers, accepted⟩ := bind_eq_ok.mp accepted
    cases accepted
    obtain ⟨fragments, spelled, fragmentsEq⟩ := compileTokens_sound compiledOthers
    have first : (Fragment.literal place content).compile dialect nesting =
        .ok ([⟨.appendText content, place⟩], nesting) := rfl
    exact ⟨_, .literal place content spelled, compileFragments_cons first fragmentsEq⟩
  · rename_i place tail
    obtain ⟨⟨instruction, after⟩, marked, accepted⟩ := bind_eq_ok.mp accepted
    obtain ⟨others, compiledOthers, accepted⟩ := bind_eq_ok.mp accepted
    cases accepted
    obtain ⟨fragments, spelled, fragmentsEq⟩ := compileTokens_sound compiledOthers
    have first : (Fragment.mark place .bold).compile dialect nesting =
        .ok ([instruction], after) :=
      Fragment.compile_mark marked
    exact ⟨_, .boldMark place spelled, compileFragments_cons first fragmentsEq⟩
  · rename_i place tail
    obtain ⟨⟨instruction, after⟩, marked, accepted⟩ := bind_eq_ok.mp accepted
    obtain ⟨others, compiledOthers, accepted⟩ := bind_eq_ok.mp accepted
    cases accepted
    obtain ⟨fragments, spelled, fragmentsEq⟩ := compileTokens_sound compiledOthers
    have first : (Fragment.mark place .italic).compile dialect nesting =
        .ok ([instruction], after) :=
      Fragment.compile_mark marked
    exact ⟨_, .italicMark place spelled, compileFragments_cons first fragmentsEq⟩
  · rename_i place tail
    split at accepted
    · obtain ⟨others, compiledOthers, accepted⟩ := bind_eq_ok.mp accepted
      cases accepted
      obtain ⟨fragments, spelled, fragmentsEq⟩ := compileTokens_sound compiledOthers
      have first : (Fragment.breaks place).compile dialect [] =
          .ok ([⟨.breakParagraph, place⟩], []) := rfl
      exact ⟨_, .breaks place spelled, compileFragments_cons first fragmentsEq⟩
    · cases accepted
  · rename_i place tail
    obtain ⟨compiled, compiledDirective, accepted⟩ := bind_eq_ok.mp accepted
    obtain ⟨others, compiledOthers, accepted⟩ := bind_eq_ok.mp accepted
    cases accepted
    obtain ⟨inside, closing, fragments, inputEq, spelled, fragmentsEq⟩ :=
      compileDirective_sound compiledDirective
    have shorter := compiled.rest.2
    obtain ⟨otherFragments, othersSpelled, othersEq⟩ := compileTokens_sound compiledOthers
    refine ⟨fragments ++ otherFragments, ?_, compileFragments_append fragmentsEq othersEq⟩
    rw [inputEq]
    exact .directive place closing spelled othersSpelled
  · cases accepted
termination_by input.length
decreasing_by
  all_goals
    subst_vars
    simp only [List.length_cons]
    omega

end Bestiary.Prose
