import Bestiary.Proofs.Prose.Clause
import Bestiary.Proofs.Prose.Escaping
import Bestiary.Proofs.Prose.Interpolation
import Bestiary.Proofs.Prose.NormalForm
import Bestiary.Proofs.Prose.Relocation

/-!
Text under a heading that is put in front of it.

The heading is an escaped label inside a structure of its own. It is read and
written before anything of the text is looked at, and the text then goes on as
if it stood alone, but for the block that it starts in. Only a label with a
blank line spoils the text: the line breaks the paragraph while the heading is
open.
-/

namespace Bestiary.Prose

open Text

variable {scope : Variables} {capitalize breaks : Bool}

def BlockKind.structure : BlockKind → Structure
  | paragraph => .paragraph
  | subParagraph => .subParagraph

def BlockKind.headingStyle : BlockKind → SpanStyle
  | paragraph => .boldItalic
  | subParagraph => .bold

def underHeading (kind : BlockKind) (label body : String) : String :=
  structureMarkup kind.structure (escapeText label) ++ body

/-! ### Reading -/

def headingTokens (kind : BlockKind) (label : List Token) : List Token :=
  [.opening, .command kind.structure, .closing] ++ label ++ [.opening, .closeParen, .closing]

theorem scanPieces_underHeading (breaks : Bool) (kind : BlockKind) (label body : String) :
    ∃ pieces inner : List Piece,
      pieces.filterMap Piece.token? = headingTokens kind (inner.filterMap Piece.token?) ∧
      (∀ token ∈ inner.filterMap Piece.token?, IsRunOf label.toList token) ∧
      ((breaks && hasBlankLine label.toList) = true →
        Token.paragraphBreak ∈ inner.filterMap Piece.token?) ∧
      ((breaks && hasBlankLine label.toList) = false →
        inner.filterMap Piece.token? = literalTokens label.toList) ∧
      scanPieces (.prose breaks) false (underHeading kind label body).toList =
        (scanPieces (.prose breaks) false body.toList).map (pieces ++ ·) := by
  have opens : Opens ('$' :: '\x7b' :: ')' :: '\x7d' :: body.toList) := Or.inr ⟨_, rfl⟩
  obtain ⟨inner, runs, broken, unbroken, scannedLabel⟩ :=
    @scanPieces_escaped breaks _ opens.endsRun label.toList
  obtain ⟨pieces, tokensEq, scanned⟩ := scanPieces_enclosed kind.structure scannedLabel
  refine ⟨pieces, inner, tokensEq, runs, broken, unbroken, ?_⟩
  rw [underHeading, String.toList_append]
  exact scanned

/-! ### Compiling -/

theorem compileTokens_startHeading (finish : Place) (kind : BlockKind) (first place last : Place)
    (tail : List Located) :
    compileTokens (.prose breaks) finish []
        (⟨.opening, first⟩ :: ⟨.command kind.structure, place⟩ :: ⟨.closing, last⟩ :: tail) =
      (compileTokens (.prose breaks) finish [⟨kind.structure, false, place⟩] tail).map
        (⟨kind.structure.starting, place⟩ :: ·) := by
  have opened : Nesting.openByCommand (.prose breaks) kind.structure place [] =
      .ok [⟨kind.structure, false, place⟩] := by
    cases kind <;> rfl
  rw [compileTokens, compileDirective, opened, ok_bind, compileCommand, compileArguments, ok_bind]
  simp only [directiveEnd, ok_bind]
  change (compileTokens _ finish [⟨kind.structure, false, place⟩] tail >>= fun others => pure _) = _
  cases compileTokens (.prose breaks) finish [⟨kind.structure, false, place⟩] tail <;> rfl

theorem compileTokens_endHeading (finish : Place) (kind : BlockKind) (opened first place last : Place)
    (tail : List Located) :
    compileTokens (.prose breaks) finish [⟨kind.structure, false, opened⟩]
        (⟨.opening, first⟩ :: ⟨.closeParen, place⟩ :: ⟨.closing, last⟩ :: tail) =
      (compileTokens (.prose breaks) finish [] tail).map
        (⟨kind.structure.ending, place⟩ :: ·) := by
  rw [compileTokens, compileDirective]
  simp only [Nesting.closeByCommand, directiveEnd, ok_bind, if_neg Bool.false_ne_true]
  change (compileTokens _ finish [] tail >>= fun others => pure _) = _
  cases compileTokens (.prose breaks) finish [] tail <;> rfl

theorem compileTokens_literal {dialect : Dialect} (finish : Place) (nesting : Nesting)
    (content : String) (place : Place) (tail : List Located) :
    compileTokens dialect finish nesting (⟨.literal content, place⟩ :: tail) =
      (compileTokens dialect finish nesting tail).map (⟨.appendText content, place⟩ :: ·) := by
  rw [compileTokens]
  cases compileTokens dialect finish nesting tail <;> rfl

theorem compileTokens_heading (finish : Place) (kind : BlockKind) (label : String)
    (first place last labelPlace first' place' last' : Place) (tail : List Located) :
    compileTokens (.prose breaks) finish []
        (⟨.opening, first⟩ :: ⟨.command kind.structure, place⟩ :: ⟨.closing, last⟩ ::
          ⟨.literal label, labelPlace⟩ ::
            ⟨.opening, first'⟩ :: ⟨.closeParen, place'⟩ :: ⟨.closing, last'⟩ :: tail) =
      (compileTokens (.prose breaks) finish [] tail).map fun others =>
        ⟨kind.structure.starting, place⟩ :: ⟨.appendText label, labelPlace⟩ ::
          ⟨kind.structure.ending, place'⟩ :: others := by
  rw [compileTokens_startHeading, compileTokens_literal, compileTokens_endHeading]
  cases compileTokens (.prose breaks) finish [] tail <;> rfl

theorem compileTokens_broken {words : List Char} {front : List Located}
    (runs : ∀ located ∈ front, IsRunOf words located.token)
    (broken : ∃ located ∈ front, located.token = .paragraphBreak) (finish : Place)
    (innermost : OpenStructure) (outer : Nesting) (tail : List Located) :
    compileTokens (.prose breaks) finish (innermost :: outer) (front ++ tail) =
      .error (Nesting.neverClosed innermost) := by
  induction front with
  | nil =>
      obtain ⟨_, impossible, _⟩ := broken
      cases impossible
  | cons located others ih =>
      obtain ⟨token, place⟩ := located
      obtain ⟨first, later⟩ := List.forall_mem_cons.mp runs
      rcases first with ⟨content, same⟩ | ⟨same, _⟩
      · cases same
        obtain ⟨found, member, isBreak⟩ := broken
        have inOthers : found ∈ others := by
          rcases List.mem_cons.mp member with rfl | inOthers
          · cases isBreak
          · exact inOthers
        rw [List.cons_append, compileTokens_literal, ih later ⟨found, inOthers, isBreak⟩]
        rfl
      · cases same
        rw [List.cons_append, compileTokens]

theorem located_heading {kind : BlockKind} {label others : List Token} {written : List Located}
    (spelled : written.map Located.token = headingTokens kind label ++ others) :
    ∃ first place last front first' place' last' tail,
      written = ⟨.opening, first⟩ :: ⟨.command kind.structure, place⟩ :: ⟨.closing, last⟩ ::
        (front ++ ⟨.opening, first'⟩ :: ⟨.closeParen, place'⟩ :: ⟨.closing, last'⟩ :: tail) ∧
      front.map Located.token = label ∧ tail.map Located.token = others := by
  simp only [headingTokens, List.append_assoc, List.cons_append, List.nil_append] at spelled
  obtain ⟨first, _, rfl, spelledCommand⟩ := located_cons spelled
  obtain ⟨place, _, rfl, spelledStart⟩ := located_cons spelledCommand
  obtain ⟨last, _, rfl, spelledLabel⟩ := located_cons spelledStart
  obtain ⟨front, _, rfl, labelEq, spelledBack⟩ := List.map_eq_append_iff.mp spelledLabel
  obtain ⟨first', _, rfl, spelledClose⟩ := located_cons spelledBack
  obtain ⟨place', _, rfl, spelledEnd⟩ := located_cons spelledClose
  obtain ⟨last', tail, rfl, othersEq⟩ := located_cons spelledEnd
  exact ⟨first, place, last, front, first', place', last', tail, rfl, labelEq, othersEq⟩

/-- A text under a heading compiles as the text by itself, after the program of the heading. -/
theorem compile_underHeading (breaks : Bool) (kind : BlockKind) {label : String}
    (solid : label.isEmpty = false) (unbroken : (breaks && hasBlankLine label.toList) = false)
    (body : String) :
    Agree
      (fun program headed => ∃ first place last others,
        headed = ⟨kind.structure.starting, first⟩ :: ⟨.appendText label, place⟩ ::
          ⟨kind.structure.ending, last⟩ :: others ∧
        others.map Instruction.operation = program.map Instruction.operation)
      (compile (.prose breaks) body) (compile (.prose breaks) (underHeading kind label body)) := by
  obtain ⟨pieces, inner, tokensEq, _, _, plain, scanned⟩ :=
    scanPieces_underHeading breaks kind label body
  have labelTokens : inner.filterMap Piece.token? = [.literal label] := by
    rw [plain unbroken, literalTokens, String.ofList_toList, if_neg]
    rw [List.isEmpty_iff, String.toList_eq_nil_iff, ← String.isEmpty_iff, solid]
    exact Bool.false_ne_true
  unfold compile TokenStream.ofText
  rw [scanned]
  cases scanPieces (.prose breaks) false body.toList with
  | error stop => rfl
  | ok bodyPieces =>
      have spelled : (locate Place.start (pieces ++ bodyPieces)).map Located.token =
          headingTokens kind [.literal label] ++ bodyPieces.filterMap Piece.token? := by
        rw [locate_tokens, List.filterMap_append, tokensEq, labelTokens]
      obtain ⟨first, place, last, front, first', place', last', tail, written, frontEq, tailEq⟩ :=
        located_heading spelled
      obtain ⟨labelPlace, _, rfl, nothing⟩ := located_cons frontEq
      obtain rfl := List.map_eq_nil_iff.mp nothing
      have agrees := compileTokens_agree (.prose breaks) (Place.start.advance body.toList)
        (Place.start.advance (underHeading kind label body).toList)
        ((locate_tokens Place.start bodyPieces).trans tailEq.symm)
      simp only [Except.map, ok_bind]
      rw [written, List.singleton_append, compileTokens_heading]
      refine agrees.map_second fun program others same => ?_
      exact ⟨place, labelPlace, place', others, rfl, same⟩

theorem compile_brokenHeading {breaks : Bool} {label : String}
    (broken : (breaks && hasBlankLine label.toList) = true) (kind : BlockKind) (body : String) :
    ∃ error, compile (.prose breaks) (underHeading kind label body) = .error error ∧
      ∀ program, compile (.prose breaks) body = .ok program →
        error.fault = .neverClosed kind.structure := by
  obtain ⟨pieces, inner, tokensEq, runs, hasBreak, _, scanned⟩ :=
    scanPieces_underHeading breaks kind label body
  unfold compile TokenStream.ofText
  rw [scanned]
  cases scanPieces (.prose breaks) false body.toList with
  | error stop => exact ⟨_, rfl, fun program impossible => nomatch impossible⟩
  | ok bodyPieces =>
      have spelled : (locate Place.start (pieces ++ bodyPieces)).map Located.token =
          headingTokens kind (inner.filterMap Piece.token?) ++
            bodyPieces.filterMap Piece.token? := by
        rw [locate_tokens, List.filterMap_append, tokensEq]
      obtain ⟨first, place, last, front, _, _, _, tail, written, frontEq, _⟩ :=
        located_heading spelled
      have frontRuns : ∀ located ∈ front, IsRunOf label.toList located.token := by
        intro located member
        exact runs _ (frontEq ▸ List.mem_map_of_mem member)
      have frontBroken : ∃ located ∈ front, located.token = .paragraphBreak :=
        List.mem_map.mp (frontEq ▸ hasBreak broken)
      refine ⟨Nesting.neverClosed ⟨kind.structure, false, place⟩, ?_, fun _ _ => rfl⟩
      simp only [Except.map, ok_bind]
      rw [written, compileTokens_startHeading,
        compileTokens_broken frontRuns frontBroken]
      rfl

/-! ### Running -/

def Machine.headed (kind : BlockKind) (label : String) : Machine :=
  { initial with kind := kind, heading := [⟨kind.headingStyle, label⟩] }

theorem run_heading {kind : BlockKind} {label : String} (solid : label.isEmpty = false)
    (first place last : Place) (others : Program) :
    Machine.initial.run scope capitalize
        (⟨kind.structure.starting, first⟩ :: ⟨.appendText label, place⟩ ::
          ⟨kind.structure.ending, last⟩ :: others) =
      (Machine.headed kind label).run scope capitalize others := by
  let started : Machine := { Machine.initial with kind := kind, inHeading := true }
  have starts : Machine.initial.step scope capitalize kind.structure.starting = .ok started := by
    cases kind <;> rfl
  have writes : started.step scope capitalize (.appendText label) =
      .ok { started with pending := label, atStart := false } := by
    change Except.ok (started.write capitalize false label) = _
    rw [Machine.write_of_not_isEmpty started solid, Machine.wording, Bool.and_false,
      Bool.false_and, if_neg Bool.false_ne_true]
    change Except.ok { started with pending := "" ++ label, atStart := false } = _
    rw [String.empty_append]
  have ends : Machine.step scope capitalize kind.structure.ending
      { started with pending := label, atStart := false } = .ok (Machine.headed kind label) := by
    cases kind <;>
      simp [Machine.step, Machine.endHeading, Machine.endSpan, Machine.style, started, solid,
        BlockKind.structure, Structure.ending, BlockKind.headingStyle, Machine.headed,
        Machine.initial, SpanStyle.combine]
  rw [Machine.run, starts]
  dsimp only
  rw [Machine.run, writes]
  dsimp only
  rw [Machine.run, ends]

theorem headed_writesNormal {kind : BlockKind} {label : String}
    (solid : label.isEmpty = false) : (Machine.headed kind label).WritesNormal where
  solid := List.forall_mem_singleton.mpr solid
  blocks := List.forall_mem_nil _

theorem headed_tracks {kind : BlockKind} {label : String} (solid : label.isEmpty = false) :
    Machine.Tracks [] (Machine.headed kind label) where
  tidy := .nothing
  stack := rfl
  bold := rfl
  italic := rfl
  inHeading := rfl
  kind := by
    intro entered member
    cases member
  noHeading := by
    intro impossible
    cases impossible
  solid := List.forall_mem_singleton.mpr solid

theorem step_stack (operation : Operation) {machine other : Machine}
    (sameStack : other.stack = machine.stack) :
    (other.step scope capitalize operation).map Machine.stack =
      (machine.step scope capitalize operation).map Machine.stack := by
  unfold Machine.step
  rw [sameStack]
  generalize known : machine.stack = stack
  rw [known] at sameStack
  split
  case h_1 | h_5 => rfl
  case h_2 name => cases scope.lookup name <;> rfl
  case h_3 operator operand stack => cases operator.apply operand <;> rfl
  case h_4 operator right left stack => cases operator.apply left right <;> rfl
  case h_6 value stack =>
    cases value.written with
    | error fault => rfl
    | ok shown =>
        refine congrArg Except.ok ?_
        rw [Machine.write_stack, Machine.write_stack]
        rfl
  all_goals
    simp only [Except.map, Machine.write_stack, Machine.switch_stack, Machine.startHeading_stack,
      Machine.endHeading_stack, Machine.endBlock_stack, known, sameStack]

/-- Whether a program fails depends on the stack alone, and so does what it fails with. -/
theorem run_agree {first second : Program}
    (same : second.map Instruction.operation = first.map Instruction.operation)
    {machine other : Machine} (sameStack : other.stack = machine.stack) :
    Agree (fun final final' => final'.stack = final.stack)
      (machine.run scope capitalize first) (other.run scope capitalize second) := by
  induction first generalizing second machine other with
  | nil =>
      rw [List.map_eq_nil_iff.mp same]
      exact sameStack
  | cons instruction others ih =>
      obtain ⟨instruction', others', rfl, sameFirst, sameOthers⟩ := List.map_eq_cons_iff.mp same
      have stepped : (other.step scope capitalize instruction.operation).map Machine.stack =
          (machine.step scope capitalize instruction.operation).map Machine.stack :=
        step_stack instruction.operation sameStack
      rw [Machine.run, Machine.run, sameFirst]
      cases found : machine.step scope capitalize instruction.operation with
      | error fault =>
          rw [found] at stepped
          cases found' : other.step scope capitalize instruction.operation with
          | ok after' => rw [found'] at stepped; cases stepped
          | error fault' => rw [found'] at stepped; cases stepped; rfl
      | ok after =>
          rw [found] at stepped
          cases found' : other.step scope capitalize instruction.operation with
          | error fault' => rw [found'] at stepped; cases stepped
          | ok after' =>
              rw [found'] at stepped
              exact ih sameOthers (Except.ok.inj stepped)

theorem run_operations {first second : Program}
    (same : second.map Instruction.operation = first.map Instruction.operation)
    (machine : Machine) :
    Agree Eq (machine.run scope capitalize first) (machine.run scope capitalize second) := by
  induction first generalizing second machine with
  | nil =>
      rw [List.map_eq_nil_iff.mp same]
      rfl
  | cons instruction others ih =>
      obtain ⟨instruction', others', rfl, sameFirst, sameOthers⟩ := List.map_eq_cons_iff.mp same
      rw [Machine.run, Machine.run, sameFirst]
      cases machine.step scope capitalize instruction.operation with
      | error fault => rfl
      | ok after => exact ih sameOthers after

theorem readFragments_current {fragments : List Fragment} {opened : List Structure}
    {kind : BlockKind} {fresh : Bool} {outline : Outline}
    (outside : opened.any Structure.isHeading = false)
    (read : readFragments scope capitalize opened kind fresh fragments = .ok outline) :
    outline.current.kind = kind ∧ outline.current.heading = [] := by
  induction fragments generalizing opened kind fresh outline with
  | nil =>
      cases read
      exact ⟨rfl, rfl⟩
  | cons fragment others ih =>
      have written {rest : Outline} {content : String}
          (plain : rest.current.kind = kind ∧ rest.current.heading = []) :
          (rest.write opened content).current.kind = kind ∧
            (rest.write opened content).current.heading = [] := by
        rw [Outline.write, outside]
        exact plain
      cases fragment with
      | literal place content =>
          obtain ⟨rest, readOthers, read⟩ := bind_eq_ok.mp read
          cases read
          exact written (ih outside readOthers)
      | shown place expression =>
          obtain ⟨value, _, read⟩ := bind_eq_ok.mp read
          obtain ⟨content, _, read⟩ := bind_eq_ok.mp read
          obtain ⟨rest, readOthers, read⟩ := bind_eq_ok.mp read
          cases read
          exact written (ih outside readOthers)
      | mark place emphasis =>
          rw [readFragments] at read
          split at read
          · refine ih (List.any_eq_false.mpr fun entered member => ?_) read
            exact List.any_eq_false.mp outside entered (List.mem_of_mem_erase member)
          · refine ih ?_ read
            rw [List.any_cons, emphasis.structure_isHeading, outside]
            rfl
      | opens place entered =>
          rw [readFragments] at read
          split at read
          · rename_i isEmphasis
            refine ih ?_ read
            rw [List.any_cons, entered.isHeading_eq, isEmphasis, outside]
            rfl
          · obtain ⟨rest, _, read⟩ := bind_eq_ok.mp read
            cases read
            exact ⟨rfl, rfl⟩
      | closes place =>
          rw [readFragments] at read
          refine ih (List.any_eq_false.mpr fun entered member => ?_) read
          exact List.any_eq_false.mp outside entered (List.mem_of_mem_tail member)
      | breaks place =>
          obtain ⟨rest, _, read⟩ := bind_eq_ok.mp read
          cases read
          exact ⟨rfl, rfl⟩

theorem headed_completed {kind : BlockKind} {label : String} (solid : label.isEmpty = false)
    {outline : Outline} (plain : outline.current.kind = kind ∧ outline.current.heading = []) :
    (Machine.headed kind label).completed outline =
      ⟨kind, styledSpans [⟨kind.headingStyle, label⟩], outline.current.body⟩ ::
        outline.others.filter StyledBlock.isPresent := by
  have headingEq : styledSpans [⟨kind.headingStyle, label⟩] = styled kind.headingStyle label :=
    List.append_nil _
  have present : StyledBlock.isPresent
      ⟨kind, styledSpans [⟨kind.headingStyle, label⟩], outline.current.body⟩ = true := by
    rw [StyledBlock.isPresent, headingEq,
      List.isEmpty_eq_false_iff.mpr (styled_ne_nil solid)]
    rfl
  have current : (Machine.headed kind label).current.continueWith outline.current =
      ⟨kind, styledSpans [⟨kind.headingStyle, label⟩], outline.current.body⟩ := by
    change StyledBlock.mk outline.current.kind (_ ++ outline.current.heading) ([] ++ _) = _
    rw [plain.1, plain.2, List.append_nil, List.nil_append]
    rfl
  rw [Machine.completed, current, List.filter_cons_of_pos present]
  rfl

theorem headed_blocks {dialect : Dialect} {fragments : List Fragment} {program : Program}
    (compiled : compileFragments dialect [] fragments = .ok (program, [])) {kind : BlockKind}
    {label : String} (solid : label.isEmpty = false) {final : Machine}
    (ran : (Machine.headed kind label).run scope capitalize program = .ok final) :
    ∃ first others, final.endBlock.blocks = first :: others ∧ first.kind = kind ∧
      first.heading? = some [⟨kind.headingStyle, label⟩] := by
  have tracks : Machine.Tracks [] (Machine.headed kind label) := headed_tracks solid
  have read := @run_compileFragments scope capitalize _ _ _ _ compiled _ tracks
  rw [ran] at read
  obtain ⟨outline, readOutline, same⟩ := map_eq_ok.mp read.symm
  have plain : outline.current.kind = kind ∧ outline.current.heading = [] :=
    readFragments_current rfl readOutline
  rw [headed_completed solid plain] at same
  obtain ⟨first, rest, blocks, sameFirst, _⟩ := List.map_eq_cons_iff.mp same.symm
  have normal := ((headed_writesNormal solid).run ran).endBlock
  have firstNormal : first.IsNormal := normal.blocks first (blocks ▸ List.mem_cons_self)
  have sameHeading := congrArg StyledBlock.heading sameFirst
  refine ⟨first, rest, blocks, congrArg StyledBlock.kind sameFirst, ?_⟩
  obtain ⟨kind', heading?, body'⟩ := first
  cases heading? with
  | none => exact absurd (List.append_eq_nil_iff.mp sameHeading.symm).1 (styled_ne_nil solid)
  | some heading =>
      exact congrArg some ((firstNormal.heading heading rfl).1.unique
        (isNormal_singleton solid) sameHeading)

/-- A text under a heading: this stands over its first paragraph, or in a paragraph of its own. -/
inductive Titles (heading : List Span) : StructuredText → StructuredText → Prop
  | before (text : StructuredText) : Titles heading text (⟨.paragraph, some heading, []⟩ :: text)
  | over (body : List Span) (others : StructuredText) :
      Titles heading (⟨.paragraph, none, body⟩ :: others)
        (⟨.paragraph, some heading, body⟩ :: others)

theorem titled_isNormal {label : String} (solid : label.isEmpty = false) {body : List Span}
    (normal : IsNormal body) : Block.IsNormal ⟨.paragraph, some [⟨.boldItalic, label⟩], body⟩ where
  heading := by
    intro heading member
    cases member
    exact ⟨isNormal_singleton solid, List.cons_ne_nil _ _⟩
  body := normal
  present := nofun

theorem headed_titles {dialect : Dialect} {fragments : List Fragment} {program : Program}
    (compiled : compileFragments dialect [] fragments = .ok (program, [])) {label : String}
    (solid : label.isEmpty = false) {final headed : Machine}
    (ran : Machine.initial.run scope capitalize program = .ok final)
    (ranHeaded : (Machine.headed .paragraph label).run scope capitalize program = .ok headed) :
    Titles [⟨.boldItalic, label⟩] final.endBlock.blocks headed.endBlock.blocks := by
  have tracks : Machine.Tracks [] (Machine.headed .paragraph label) := headed_tracks solid
  have read := @run_compileFragments scope capitalize _ _ _ _ compiled _ Machine.initial_tracks
  have readHeaded := @run_compileFragments scope capitalize _ _ _ _ compiled _ tracks
  rw [ran] at read
  rw [ranHeaded] at readHeaded
  obtain ⟨outline, readOutline, same⟩ := map_eq_ok.mp read.symm
  obtain ⟨_, readOutline', sameHeaded⟩ := map_eq_ok.mp readHeaded.symm
  obtain rfl := Except.ok.inj (readOutline.symm.trans readOutline')
  have plain : outline.current.kind = .paragraph ∧ outline.current.heading = [] :=
    readFragments_current rfl readOutline
  have normal := (Machine.initial_writesNormal.run ran).endBlock.blocks
  have normalHeaded := ((headed_writesNormal solid).run ranHeaded).endBlock.blocks
  rw [headed_completed solid plain] at sameHeaded
  obtain ⟨first, rest, blocks, sameFirst, sameRest⟩ := List.map_eq_cons_iff.mp sameHeaded.symm
  rw [blocks] at normalHeaded ⊢
  obtain ⟨normalFirst, normalRest⟩ := List.forall_mem_cons.mp normalHeaded
  -- Whether the text starts with a paragraph of its own decides where the heading stands.
  have alone : final.endBlock.blocks.map Block.styled =
      (outline.current :: outline.others).filter StyledBlock.isPresent := by
    refine same.symm.trans ?_
    rw [Machine.completed, Machine.initial_current, StyledBlock.blank_continueWith]
    rfl
  cases body : outline.current.body with
  | nil =>
      have absent : ¬outline.current.isPresent = true := by
        rw [StyledBlock.isPresent, plain.2, body]
        exact Bool.false_ne_true
      rw [List.filter_cons_of_neg absent] at alone
      rw [forall_isNormal_unique normalRest normal (sameRest.trans alone.symm)] at *
      rw [body] at sameFirst
      rw [normalFirst.unique (titled_isNormal solid isNormal_nil) sameFirst]
      exact .before _
  | cons character characters =>
      have present : outline.current.isPresent = true := by
        rw [StyledBlock.isPresent, body, List.isEmpty_cons, Bool.and_false]
        rfl
      rw [List.filter_cons_of_pos present] at alone
      obtain ⟨own, others, ownBlocks, sameOwn, sameOthers⟩ := List.map_eq_cons_iff.mp alone
      rw [ownBlocks] at normal ⊢
      obtain ⟨normalOwn, normalOthers⟩ := List.forall_mem_cons.mp normal
      rw [forall_isNormal_unique normalRest normalOthers (sameRest.trans sameOthers.symm)]
      have ownBody : styledSpans own.body = outline.current.body :=
        congrArg StyledBlock.body sameOwn
      have something : own.body ≠ [] := by
        intro nothing
        rw [nothing, body] at ownBody
        cases ownBody
      have untitled : Block.IsNormal ⟨.paragraph, none, own.body⟩ := by
        refine ⟨fun heading member => ?_, normalOwn.body, fun _ => something⟩
        cases member
      have ownEq : own = ⟨.paragraph, none, own.body⟩ := by
        refine normalOwn.unique untitled (sameOwn.trans ?_)
        obtain ⟨⟨kind, heading, flowing⟩, _⟩ := outline
        obtain ⟨rfl, rfl⟩ := plain
        exact congrArg (StyledBlock.mk _ _) ownBody.symm
      rw [ownEq, normalFirst.unique (titled_isNormal solid normalOwn.body)
        (sameFirst.trans (congrArg (StyledBlock.mk _ _) ownBody.symm))]
      exact .over _ _

/-! ### Texts -/

/-- A text under a heading is interpolated exactly if it is by itself, or else both fail with the
same fault; and they are related as what is written from the heading on is to what is written from
the start. -/
theorem interpolate_related {manner : Manner} (bindings : List (String × Binding))
    (kind : BlockKind) {label : String} (solid : label.isEmpty = false)
    (unbroken : (manner.breaks && hasBlankLine label.toList) = false) (body : String)
    {related : StructuredText → StructuredText → Prop}
    (writes : ∀ {scope : Variables} {program : Program} {fragments : List Fragment}
      {final headed : Machine},
      compileFragments (.prose manner.breaks) [] fragments = .ok (program, []) →
      Machine.initial.run scope manner.capitalize program = .ok final →
      (Machine.headed kind label).run scope manner.capitalize program = .ok headed →
      related final.endBlock.blocks headed.endBlock.blocks) :
    Agree related (interpolate manner bindings body)
      (interpolate manner bindings (underHeading kind label body)) := by
  have compiles := compile_underHeading manner.breaks kind solid unbroken body
  unfold interpolate
  cases compiled : compile (.prose manner.breaks) body with
  | error error =>
      rw [compiled] at compiles
      obtain ⟨error', failed, same⟩ := compiles.of_error
      rw [failed]
      exact same
  | ok program =>
      rw [compiled] at compiles
      obtain ⟨_, compiledHeaded, _, _, _, others, rfl, sameOperations⟩ := compiles.of_ok
      rw [compiledHeaded]
      simp only [ok_bind]
      cases prepareVariables bindings with
      | error error => rfl
      | ok scope =>
          simp only [ok_bind, runStructured]
          rw [run_heading solid]
          -- The program fails alike from the heading on, and so does that of the moved text.
          have fromHeading : Agree (fun final final' => final'.stack = final.stack)
              (Machine.initial.run scope manner.capitalize program)
              ((Machine.headed kind label).run scope manner.capitalize program) :=
            run_agree rfl rfl
          have moved := @run_operations scope manner.capitalize _ _ sameOperations
            (.headed kind label)
          cases ran : Machine.initial.run scope manner.capitalize program with
          | error error =>
              rw [ran] at fromHeading
              obtain ⟨error', failed, same⟩ := fromHeading.of_error
              rw [failed] at moved
              obtain ⟨error'', failed', same'⟩ := moved.of_error
              rw [failed']
              exact same'.trans same
          | ok final =>
              rw [ran] at fromHeading
              obtain ⟨headed, ranHeaded, _⟩ := fromHeading.of_ok
              rw [ranHeaded] at moved
              obtain ⟨_, ranMoved, rfl⟩ := moved.of_ok
              obtain ⟨_, fragments, _, _, compiledFragments⟩ := compile_sound compiled
              rw [ranMoved]
              exact writes compiledFragments ran ranHeaded

theorem interpolate_underHeading {manner : Manner} (bindings : List (String × Binding))
    (kind : BlockKind) {label : String} (solid : label.isEmpty = false)
    (unbroken : (manner.breaks && hasBlankLine label.toList) = false) (body : String) :
    Agree
      (fun _ headed => ∃ first others, headed = first :: others ∧ first.kind = kind ∧
        first.heading? = some [⟨kind.headingStyle, label⟩])
      (interpolate manner bindings body)
      (interpolate manner bindings (underHeading kind label body)) :=
  interpolate_related bindings kind solid unbroken body
    fun compiled _ ranHeaded => headed_blocks compiled solid ranHeaded

theorem interpolate_underTitle {manner : Manner} (bindings : List (String × Binding))
    {label : String} (solid : label.isEmpty = false)
    (unbroken : (manner.breaks && hasBlankLine label.toList) = false) (body : String) :
    Agree (Titles [⟨.boldItalic, label⟩]) (interpolate manner bindings body)
      (interpolate manner bindings (underHeading .paragraph label body)) :=
  interpolate_related bindings .paragraph solid unbroken body
    fun compiled ran ranHeaded => headed_titles compiled solid ran ranHeaded

theorem interpolate_brokenHeading {manner : Manner} (bindings : List (String × Binding))
    (kind : BlockKind) {label : String}
    (broken : (manner.breaks && hasBlankLine label.toList) = true) (body : String) :
    ∃ error, interpolate manner bindings (underHeading kind label body) = .error error ∧
      ∀ blocks, interpolate manner bindings body = .ok blocks →
        error.fault = .neverClosed kind.structure := by
  obtain ⟨error, failed, reason⟩ := compile_brokenHeading broken kind body
  refine ⟨error, ?_, fun blocks interpolated => ?_⟩
  · rw [interpolate, failed]
    rfl
  · obtain ⟨program, compiled, _⟩ := bind_eq_ok.mp interpolated
    exact reason program compiled

end Bestiary.Prose
