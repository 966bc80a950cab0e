import Bestiary.Proofs.Prose.Bracketing
import Bestiary.Proofs.Prose.Compilation
import Bestiary.Proofs.Prose.Unambiguity

/-!
Which texts compile.

Tokens are a text if they are literal runs, marks, paragraph breaks and
directives one after the other; a directive is a value, a closing parenthesis,
or a command with arguments. How a row of arguments is divided is left open
here: where one of them starts with a sign, it goes on the one before it, and
the two are an expression together. A text compiles exactly when its tokens
are such a text and its edges are properly bracketed.
-/

namespace Bestiary.Prose

open Text

/-! ### Texts -/

inductive ArgumentTokens : List Located → Prop
  | none : ArgumentTokens []
  | next {written others : List Located} {expression : Expression} :
      Derives .choice written expression →
      ArgumentTokens others →
      ArgumentTokens (written ++ others)

/-- Tokens between the opening and the closing of a directive, and the edges they make. -/
inductive DirectiveTokens : List Located → List Edge → Prop
  | value {written : List Located} {expression : Expression} :
      Derives .choice written expression →
      DirectiveTokens written []
  | close (place : Place) : DirectiveTokens [⟨.closeParen, place⟩] [.closes]
  | start {arguments : List Located} (opened : Structure) (place : Place) :
      ArgumentTokens arguments →
      DirectiveTokens (⟨.command opened, place⟩ :: arguments) [.opens opened]
  | whole {arguments : List Located} (opened : Structure) (place closing : Place) :
      ArgumentTokens arguments →
      DirectiveTokens (⟨.command opened, place⟩ :: (arguments ++ [⟨.closeParen, closing⟩]))
        [.opens opened, .closes]

/-- Tokens of a whole text, and the edges they make. -/
inductive TextTokens : List Located → List Edge → Prop
  | finish : TextTokens [] []
  | literal {tail : List Located} {edges : List Edge} (content : String) (place : Place) :
      TextTokens tail edges →
      TextTokens (⟨.literal content, place⟩ :: tail) edges
  | boldMark {tail : List Located} {edges : List Edge} (place : Place) :
      TextTokens tail edges →
      TextTokens (⟨.boldMark, place⟩ :: tail) (.mark .bold :: edges)
  | italicMark {tail : List Located} {edges : List Edge} (place : Place) :
      TextTokens tail edges →
      TextTokens (⟨.italicMark, place⟩ :: tail) (.mark .italic :: edges)
  | breaks {tail : List Located} {edges : List Edge} (place : Place) :
      TextTokens tail edges →
      TextTokens (⟨.paragraphBreak, place⟩ :: tail) (.breaks :: edges)
  | directive {inside tail : List Located} {edges others : List Edge} (opening closing : Place) :
      DirectiveTokens inside edges →
      TextTokens tail others →
      TextTokens (⟨.opening, opening⟩ :: (inside ++ ⟨.closing, closing⟩ :: tail)) (edges ++ others)

/-! ### Expressions that are joined by a sign -/

/-- What an expression that starts with a sign is made of: at the levels below a sum a sign
before an operand, and otherwise something that goes on any sum. -/
def ContinuesSum (written : List Located) : Precedence → Prop
  | .choice => ∀ {first : List Located} {left : Expression}, Derives .sum first left →
      ∃ joined, Derives .choice (first ++ written) joined
  | .sum => ∀ {first : List Located} {left : Expression}, Derives .sum first left →
      ∃ joined, Derives .sum (first ++ written) joined
  | .product => ∃ sign operator operand expression, written = sign :: operand ∧
      sumOperator? sign.token = some operator ∧ Derives .product operand expression
  | .unary => ∃ sign operator operand expression, written = sign :: operand ∧
      sumOperator? sign.token = some operator ∧ Derives .unary operand expression
  | .term => False

theorem Derives.continuesSum {level : Precedence} {written : List Located}
    {expression : Expression} (derived : Derives level written expression) {sign : Located}
    {operator : BinaryOperator} (isFirst : sign ∈ written.head?)
    (isSign : sumOperator? sign.token = some operator) : ContinuesSum written level := by
  induction derived with
  | @literal token value place found =>
      cases isFirst
      cases token <;> first | (cases found; done) | cases isSign
  | reference place word =>
      cases isFirst
      cases isSign
  | parentheses left right _ _ =>
      cases isFirst
      cases isSign
  | operand _ ih => exact (ih isFirst).elim
  | prefixed place _ operandDerived _ =>
      cases isFirst
      exact ⟨_, _, _, _, rfl, isSign, operandDerived⟩
  | factor _ ih =>
      obtain ⟨sign, operator, operand, expression, rfl, isSign, operandDerived⟩ := ih isFirst
      exact ⟨_, _, _, _, rfl, isSign, .factor operandDerived⟩
  | @scaled token operator' before after left right place leftDerived found rightDerived ih _ =>
      cases before with
      | nil => exact leftDerived.ne_nil.elim
      | cons head tail =>
          obtain ⟨sign, operator, operand, expression, same, isSign, operandDerived⟩ := ih isFirst
          obtain ⟨rfl, rfl⟩ := List.cons.inj same
          exact ⟨_, _, _, _, rfl, isSign, .scaled place operandDerived found rightDerived⟩
  | addend _ ih =>
      intro first left firstDerived
      obtain ⟨sign, operator, operand, expression, rfl, isSign, operandDerived⟩ := ih isFirst
      exact ⟨_, .added sign.place firstDerived isSign operandDerived⟩
  | @added token operator' before after left right place leftDerived found rightDerived ih _ =>
      intro first left firstDerived
      cases before with
      | nil => exact leftDerived.ne_nil.elim
      | cons head tail =>
          obtain ⟨joined, joinedDerived⟩ := ih isFirst firstDerived
          rw [← List.append_assoc]
          exact ⟨_, .added place joinedDerived found rightDerived⟩
  | unconditional _ ih =>
      intro first left firstDerived
      obtain ⟨joined, joinedDerived⟩ := ih isFirst firstDerived
      exact ⟨joined, .unconditional joinedDerived⟩
  | @conditional question yes no condition chosen otherwise place divider questionDerived
      yesDerived noDerived ih _ _ =>
      intro first left firstDerived
      cases question with
      | nil => exact questionDerived.ne_nil.elim
      | cons head tail =>
          obtain ⟨joined, joinedDerived⟩ := ih isFirst firstDerived
          rw [← List.append_assoc]
          exact ⟨_, .conditional place divider joinedDerived yesDerived noDerived⟩

theorem Derives.joined {first second : List Located} {left right : Expression} {sign : Located}
    {operator : BinaryOperator} (leftDerived : Derives .choice first left)
    (rightDerived : Derives .choice second right) (isFirst : sign ∈ second.head?)
    (isSign : sumOperator? sign.token = some operator) :
    ∃ joined, Derives .choice (first ++ second) joined := by
  generalize levelEq : Precedence.choice = level at leftDerived
  induction leftDerived with
  | literal _ _ => cases levelEq
  | reference _ _ => cases levelEq
  | parentheses _ _ _ _ => cases levelEq
  | operand _ _ => cases levelEq
  | prefixed _ _ _ _ => cases levelEq
  | factor _ _ => cases levelEq
  | scaled _ _ _ _ _ _ => cases levelEq
  | addend _ _ => cases levelEq
  | added _ _ _ _ _ _ => cases levelEq
  | unconditional sumDerived _ =>
      exact rightDerived.continuesSum isFirst isSign sumDerived
  | conditional place divider questionDerived yesDerived _ _ _ ihNo =>
      obtain ⟨joined, joinedDerived⟩ := ihNo rfl
      rw [List.append_assoc, List.cons_append, List.append_assoc, List.cons_append]
      exact ⟨_, .conditional place divider questionDerived yesDerived joinedDerived⟩

theorem sumOperator?_of_starts {token : Token} (starts : token.starts = true)
    (continues : token.continues .choice = true) : ∃ operator, sumOperator? token = some operator := by
  cases token <;> first | exact ⟨_, rfl⟩ | (cases starts; done) | cases continues

/-! ### Texts are spelled -/

/-- Any row of expressions can be divided so that each goes on as far as it can. -/
theorem ArgumentTokens.spelled {tokens : List Located} (isArguments : ArgumentTokens tokens) :
    ∃ fragments, SpellsArguments tokens fragments ∧ fragments.filterMap Fragment.edge? = [] := by
  induction isArguments with
  | none => exact ⟨[], .none, rfl⟩
  | @next written others expression derived _ ih =>
      obtain ⟨fragments, spelled, edgeless⟩ := ih
      cases written with
      | nil => exact derived.ne_nil.elim
      | cons first rest =>
          cases spelled with
          | none => exact ⟨_, .next derived (stopsBefore_nil _) .none, rfl⟩
          | @next first' rest' others' expression' fragments' derived' stops' spelled' =>
              cases continues : first'.token.continues .choice with
              | false =>
                  have stops : StopsBefore .choice (first' :: (rest' ++ others')) :=
                    stopsBefore_cons.mpr continues
                  exact ⟨_, .next derived stops (.next derived' stops' spelled'), edgeless⟩
              | true =>
                  obtain ⟨operator, isSign⟩ :=
                    sumOperator?_of_starts (derived'.starts rfl) continues
                  obtain ⟨joined, joinedDerived⟩ := derived.joined derived' rfl isSign
                  rw [← List.cons_append, ← List.append_assoc]
                  exact ⟨_, .next joinedDerived stops' spelled', edgeless⟩

theorem DirectiveTokens.spelled {inside : List Located} {edges : List Edge}
    (isDirective : DirectiveTokens inside edges) :
    ∃ fragments, SpellsDirective inside fragments ∧ fragments.filterMap Fragment.edge? = edges := by
  cases isDirective with
  | value derived =>
      cases inside with
      | nil => exact derived.ne_nil.elim
      | cons first written => exact ⟨_, .value derived, rfl⟩
  | close place => exact ⟨_, .close place, rfl⟩
  | start opened place isArguments =>
      obtain ⟨fragments, spelled, edgeless⟩ := isArguments.spelled
      exact ⟨_, .start opened place spelled, congrArg (List.cons _) edgeless⟩
  | whole opened place closing isArguments =>
      obtain ⟨fragments, spelled, edgeless⟩ := isArguments.spelled
      refine ⟨_, .whole opened place closing spelled, ?_⟩
      simp [Fragment.edge?, edgeless]

theorem TextTokens.spelled {tokens : List Located} {edges : List Edge}
    (isText : TextTokens tokens edges) :
    ∃ fragments, Spells tokens fragments ∧ fragments.filterMap Fragment.edge? = edges := by
  induction isText with
  | finish => exact ⟨[], .finish, rfl⟩
  | literal content place _ ih =>
      obtain ⟨fragments, spelled, edgesEq⟩ := ih
      exact ⟨_, .literal place content spelled, edgesEq⟩
  | boldMark place _ ih =>
      obtain ⟨fragments, spelled, edgesEq⟩ := ih
      exact ⟨_, .boldMark place spelled, congrArg (List.cons _) edgesEq⟩
  | italicMark place _ ih =>
      obtain ⟨fragments, spelled, edgesEq⟩ := ih
      exact ⟨_, .italicMark place spelled, congrArg (List.cons _) edgesEq⟩
  | breaks place _ ih =>
      obtain ⟨fragments, spelled, edgesEq⟩ := ih
      exact ⟨_, .breaks place spelled, congrArg (List.cons _) edgesEq⟩
  | directive opening closing isDirective _ ih =>
      obtain ⟨inside, spelledInside, rfl⟩ := isDirective.spelled
      obtain ⟨fragments, spelled, rfl⟩ := ih
      exact ⟨_, .directive opening closing spelledInside spelled, List.filterMap_append⟩

theorem SpellsArguments.argumentTokens {tokens : List Located} {fragments : List Fragment}
    (spelled : SpellsArguments tokens fragments) :
    ArgumentTokens tokens ∧ fragments.filterMap Fragment.edge? = [] := by
  induction spelled with
  | none => exact ⟨.none, rfl⟩
  | next derived _ _ ih =>
      obtain ⟨isArguments, edgeless⟩ := ih
      exact ⟨.next derived isArguments, edgeless⟩

theorem SpellsDirective.directiveTokens {inside : List Located} {fragments : List Fragment}
    (spelled : SpellsDirective inside fragments) :
    DirectiveTokens inside (fragments.filterMap Fragment.edge?) := by
  cases spelled with
  | value derived => exact .value derived
  | close place => exact .close place
  | @start arguments fragments opened place spelled =>
      obtain ⟨isArguments, edgeless⟩ := spelled.argumentTokens
      have edges : (Fragment.opens place opened :: fragments).filterMap Fragment.edge? =
          [.opens opened] :=
        congrArg (List.cons _) edgeless
      rw [edges]
      exact .start opened place isArguments
  | @whole arguments fragments opened place closing spelled =>
      obtain ⟨isArguments, edgeless⟩ := spelled.argumentTokens
      have edges : (Fragment.opens place opened :: (fragments ++ [.closes closing])).filterMap
          Fragment.edge? = [.opens opened, .closes] := by
        simp [Fragment.edge?, edgeless]
      rw [edges]
      exact .whole opened place closing isArguments

theorem Spells.textTokens {tokens : List Located} {fragments : List Fragment}
    (spelled : Spells tokens fragments) :
    TextTokens tokens (fragments.filterMap Fragment.edge?) := by
  induction spelled with
  | finish => exact .finish
  | literal place content _ ih => exact .literal content place ih
  | boldMark place _ ih => exact .boldMark place ih
  | italicMark place _ ih => exact .italicMark place ih
  | breaks place _ ih => exact .breaks place ih
  | directive opening closing inside _ ih =>
      rw [List.filterMap_append]
      exact .directive opening closing inside.directiveTokens ih

/-! ### What is spelled compiles -/

def EndsArguments (rest : List Located) : Prop :=
  ∃ last tail, rest = last :: tail ∧ (last.token = .closeParen ∨ last.token = .closing)

theorem EndsArguments.stops {rest : List Located} (ends : EndsArguments rest) :
    StopsBefore .choice rest := by
  obtain ⟨last, tail, rfl, isLast⟩ := ends
  apply stopsBefore_cons.mpr
  rcases isLast with isLast | isLast <;> rw [isLast] <;> rfl

theorem compileArguments_next {finish : Place} {input others : List Located}
    {argument : Expression} {program : Program} {first : Located} {rest : Remaining others}
    {fewer : others.length < input.length} (isFirst : first ∈ input.head?)
    (starts : first.token.starts = true)
    (read : scanChoice finish input = .ok (argument, ⟨others, fewer⟩))
    (compiled : compileArguments finish others = .ok (program, rest)) :
    compileArguments finish input =
      .ok (appendCode argument first.place ++ program,
        ⟨rest.1, Nat.le_of_lt (Nat.lt_of_le_of_lt rest.2 fewer)⟩) := by
  have placeEq : placeOfNext finish input = first.place := by
    obtain ⟨tail, rfl⟩ := List.head?_eq_some_iff.mp isFirst
    rfl
  unfold compileArguments
  split
  · cases isFirst
    cases starts
  · cases isFirst
    cases starts
  · rw [read, ok_bind]
    simp only
    rw [compiled, placeEq]
    rfl

theorem compileArguments_complete (dialect : Dialect) (nesting : Nesting) (finish : Place)
    {written rest : List Located} {fragments : List Fragment}
    (spelled : SpellsArguments written fragments) (ends : EndsArguments rest) :
    ∃ program fewer,
      compileArguments finish (written ++ rest) = .ok (program, ⟨rest, fewer⟩) ∧
      compileFragments dialect nesting fragments = .ok (program, nesting) := by
  induction spelled with
  | none =>
      obtain ⟨⟨token, place⟩, tail, rfl, isLast⟩ := ends
      refine ⟨[], Nat.le_refl _, ?_, rfl⟩
      rcases isLast with rfl | rfl
      · show compileArguments finish (⟨.closeParen, place⟩ :: tail) = _
        rw [compileArguments]
      · show compileArguments finish (⟨.closing, place⟩ :: tail) = _
        rw [compileArguments]
  | @next first written others expression fragments derived stops _ ih =>
      obtain ⟨program, fewer, compiled, fragmentsEq⟩ := ih
      have stopsRest : StopsBefore .choice (others ++ rest) := by
        cases others with
        | nil => exact ends.stops
        | cons next tail => exact stopsBefore_cons.mpr (stopsBefore_cons.mp stops)
      obtain ⟨fewer', read⟩ := derived.readsBack finish (others ++ rest) stopsRest
      have tokensEq : first :: (written ++ others) ++ rest =
          first :: written ++ (others ++ rest) := by
        rw [← List.cons_append, List.append_assoc]
      rw [tokensEq]
      exact ⟨_, _, compileArguments_next rfl (derived.starts rfl) read compiled,
        compileFragments_cons rfl fragmentsEq⟩

theorem compileFragments_append_inv {dialect : Dialect} {nesting outer : Nesting}
    {first second : List Fragment} {program : Program}
    (compiled : compileFragments dialect nesting (first ++ second) = .ok (program, outer)) :
    ∃ front inner rest, compileFragments dialect nesting first = .ok (front, inner) ∧
      compileFragments dialect inner second = .ok (rest, outer) ∧ program = front ++ rest := by
  induction first generalizing nesting program with
  | nil => exact ⟨[], nesting, program, rfl, compiled, rfl⟩
  | cons fragment others ih =>
      obtain ⟨⟨head, middle⟩, compiledHead, compiled⟩ := bind_eq_ok.mp compiled
      obtain ⟨⟨tail, last⟩, compiledTail, compiled⟩ := bind_eq_ok.mp compiled
      cases compiled
      obtain ⟨front, inner, rest, compiledFront, compiledRest, rfl⟩ := ih compiledTail
      exact ⟨_, inner, rest, compileFragments_cons compiledHead compiledFront, compiledRest,
        (List.append_assoc head front rest).symm⟩

/-- A directive compiles to a program, leaves some structures open, and ends before the rest. -/
def Compiled.Is {input : List Located} (compiled : Compiled input) (program : Program)
    (nesting : Nesting) (rest : List Located) : Prop :=
  compiled.program = program ∧ compiled.nesting = nesting ∧ compiled.rest.1 = rest

theorem compileDirective_value {dialect : Dialect} {finish : Place} {nesting : Nesting}
    {input tail : List Located} {expression : Expression} {first : Located} {closing : Place}
    {fewer : (⟨.closing, closing⟩ :: tail : List Located).length < input.length}
    (isFirst : first ∈ input.head?) (starts : first.token.starts = true)
    (read : scanChoice finish input = .ok (expression, ⟨⟨.closing, closing⟩ :: tail, fewer⟩)) :
    ∃ compiled, compileDirective dialect finish nesting input = .ok compiled ∧
      compiled.Is (appendCode expression first.place) nesting tail := by
  have placeEq : placeOfNext finish input = first.place := by
    obtain ⟨tail, rfl⟩ := List.head?_eq_some_iff.mp isFirst
    rfl
  unfold compileDirective
  split
  · cases isFirst
    cases starts
  · cases isFirst
    cases starts
  · rw [read, ok_bind, placeEq]
    exact ⟨_, rfl, rfl, rfl, rfl⟩

theorem compileDirective_complete {dialect : Dialect} {finish closing : Place}
    {nesting after : Nesting} {inside tail : List Located} {fragments : List Fragment}
    {program : Program} (spelled : SpellsDirective inside fragments)
    (fragmentsEq : compileFragments dialect nesting fragments = .ok (program, after)) :
    ∃ compiled, compileDirective dialect finish nesting
        (inside ++ ⟨.closing, closing⟩ :: tail) = .ok compiled ∧
      compiled.Is program after tail := by
  cases spelled with
  | value derived =>
      cases fragmentsEq
      have stops : StopsBefore .choice (⟨.closing, closing⟩ :: tail) := stopsBefore_cons.mpr rfl
      obtain ⟨fewer, read⟩ := derived.readsBack finish _ stops
      rw [List.append_nil]
      exact compileDirective_value rfl (derived.starts rfl) read
  | close place =>
      obtain ⟨⟨first, inner⟩, compiledFirst, fragmentsEq⟩ := bind_eq_ok.mp fragmentsEq
      cases fragmentsEq
      obtain ⟨⟨instruction, outer⟩, closed, compiledFirst⟩ := bind_eq_ok.mp compiledFirst
      cases compiledFirst
      simp only [List.cons_append, List.nil_append, compileDirective]
      rw [closed]
      exact ⟨_, rfl, rfl, rfl, rfl⟩
  | @start arguments argumentFragments opened place spelledArguments =>
      obtain ⟨⟨first, inner⟩, compiledFirst, fragmentsEq⟩ := bind_eq_ok.mp fragmentsEq
      obtain ⟨⟨rest, outer⟩, compiledRest, fragmentsEq⟩ := bind_eq_ok.mp fragmentsEq
      cases fragmentsEq
      obtain ⟨entered, opens, compiledFirst⟩ := bind_eq_ok.mp compiledFirst
      cases compiledFirst
      obtain ⟨arguments', fewer, compiled, argumentsEq⟩ :=
        compileArguments_complete dialect inner finish spelledArguments
          ⟨⟨.closing, closing⟩, tail, rfl, .inr rfl⟩
      rw [argumentsEq] at compiledRest
      cases compiledRest
      simp only [List.cons_append, compileDirective]
      rw [opens, ok_bind, compileCommand, compiled]
      exact ⟨_, rfl, rfl, rfl, rfl⟩
  | @whole arguments argumentFragments opened place closingParen spelledArguments =>
      obtain ⟨⟨first, inner⟩, compiledFirst, fragmentsEq⟩ := bind_eq_ok.mp fragmentsEq
      obtain ⟨⟨rest, outer⟩, compiledRest, fragmentsEq⟩ := bind_eq_ok.mp fragmentsEq
      cases fragmentsEq
      obtain ⟨entered, opens, compiledFirst⟩ := bind_eq_ok.mp compiledFirst
      cases compiledFirst
      obtain ⟨front, middle, last, compiledFront, compiledLast, rfl⟩ :=
        compileFragments_append_inv compiledRest
      obtain ⟨arguments', fewer, compiled, argumentsEq⟩ :=
        compileArguments_complete dialect inner finish spelledArguments
          ⟨⟨.closeParen, closingParen⟩, ⟨.closing, closing⟩ :: tail, rfl, .inl rfl⟩
      rw [argumentsEq] at compiledFront
      cases compiledFront
      obtain ⟨⟨close, final⟩, compiledClose, compiledLast⟩ := bind_eq_ok.mp compiledLast
      cases compiledLast
      obtain ⟨⟨instruction, outer⟩, closed, compiledClose⟩ := bind_eq_ok.mp compiledClose
      cases compiledClose
      rw [List.cons_append, List.append_assoc, List.singleton_append]
      simp only [compileDirective]
      rw [opens, ok_bind, compileCommand, compiled, ok_bind]
      simp only
      rw [closed]
      exact ⟨_, rfl, rfl, rfl, rfl⟩

theorem compileTokens_complete {dialect : Dialect} {finish : Place} {nesting : Nesting}
    {tokens : List Located} {fragments : List Fragment} {program : Program}
    (spelled : Spells tokens fragments)
    (fragmentsEq : compileFragments dialect nesting fragments = .ok (program, [])) :
    compileTokens dialect finish nesting tokens = .ok program := by
  induction spelled generalizing nesting program with
  | finish =>
      cases fragmentsEq
      rw [compileTokens]
  | literal place content _ ih =>
      obtain ⟨⟨first, inner⟩, compiledFirst, fragmentsEq⟩ := bind_eq_ok.mp fragmentsEq
      obtain ⟨⟨rest, outer⟩, compiledRest, fragmentsEq⟩ := bind_eq_ok.mp fragmentsEq
      cases fragmentsEq
      cases compiledFirst
      rw [compileTokens, ih compiledRest]
      rfl
  | boldMark place _ ih =>
      obtain ⟨⟨first, inner⟩, compiledFirst, fragmentsEq⟩ := bind_eq_ok.mp fragmentsEq
      obtain ⟨⟨rest, outer⟩, compiledRest, fragmentsEq⟩ := bind_eq_ok.mp fragmentsEq
      cases fragmentsEq
      obtain ⟨⟨instruction, after⟩, marked, compiledFirst⟩ := bind_eq_ok.mp compiledFirst
      cases compiledFirst
      rw [Emphasis.structure] at marked
      rw [compileTokens, marked, ok_bind]
      simp only
      rw [ih compiledRest]
      rfl
  | italicMark place _ ih =>
      obtain ⟨⟨first, inner⟩, compiledFirst, fragmentsEq⟩ := bind_eq_ok.mp fragmentsEq
      obtain ⟨⟨rest, outer⟩, compiledRest, fragmentsEq⟩ := bind_eq_ok.mp fragmentsEq
      cases fragmentsEq
      obtain ⟨⟨instruction, after⟩, marked, compiledFirst⟩ := bind_eq_ok.mp compiledFirst
      cases compiledFirst
      rw [Emphasis.structure] at marked
      rw [compileTokens, marked, ok_bind]
      simp only
      rw [ih compiledRest]
      rfl
  | breaks place _ ih =>
      obtain ⟨⟨first, inner⟩, compiledFirst, fragmentsEq⟩ := bind_eq_ok.mp fragmentsEq
      obtain ⟨⟨rest, outer⟩, compiledRest, fragmentsEq⟩ := bind_eq_ok.mp fragmentsEq
      cases fragmentsEq
      cases nesting with
      | cons innermost others => cases compiledFirst
      | nil =>
          cases compiledFirst
          rw [compileTokens, ih compiledRest]
          rfl
  | directive opening closing inside _ ih =>
      obtain ⟨front, inner, rest, compiledFront, compiledRest, rfl⟩ :=
        compileFragments_append_inv fragmentsEq
      obtain ⟨compiled, compiledInside, programEq, nestingEq, restEq⟩ :=
        compileDirective_complete inside compiledFront
      rw [compileTokens, compiledInside, ok_bind, nestingEq, restEq, ih compiledRest, programEq]
      rfl

/-! ### Which texts compile -/

/-- A text of a stat block compiles exactly when its tokens are a text of the documented
language whose edges are properly bracketed; its program then closes every structure that it
starts, in proper nesting. -/
theorem compile_accepts_iff (breaks : Bool) (text : String) :
    ((∃ program, compile (.prose breaks) text = .ok program) ↔
      ∃ stream edges, TokenStream.ofText (.prose breaks) text = .ok stream ∧
        TextTokens stream.tokens edges ∧ Bracketed [] edges) ∧
    ∀ program, compile (.prose breaks) text = .ok program → Nested program := by
  refine ⟨⟨?accepted, ?documented⟩, ?nested⟩
  case accepted =>
    rintro ⟨program, compiled⟩
    obtain ⟨stream, fragments, read, spelled, fragmentsEq⟩ := compile_sound compiled
    exact ⟨stream, _, read, spelled.textTokens,
      compileFragments_iff_bracketed.mp ⟨program, fragmentsEq⟩⟩
  case documented =>
    rintro ⟨stream, edges, read, isText, bracketed⟩
    obtain ⟨fragments, spelled, rfl⟩ := isText.spelled
    obtain ⟨program, fragmentsEq⟩ :
        ∃ program, compileFragments (.prose breaks) [] fragments = .ok (program, []) :=
      compileFragments_iff_bracketed.mpr bracketed
    have compiled : compileTokens (.prose breaks) stream.finish [] stream.tokens = .ok program :=
      compileTokens_complete spelled fragmentsEq
    exact ⟨program, by rw [compile, read, ok_bind, compiled]⟩
  case nested =>
    intro program compiled
    obtain ⟨_, fragments, _, _, fragmentsEq⟩ := compile_sound compiled
    exact nested_of_compileFragments fragmentsEq

theorem compile_accepts_iff_around :
    let text := "$\x7bitalic(\"a\"\x7d **b** $\x7b)\x7d"
    ∃ program, compile (.prose false) text = .ok program ∧ Nested program ∧
      ∃ stream edges, TokenStream.ofText (.prose false) text = .ok stream ∧
        TextTokens stream.tokens edges ∧ Bracketed [] edges := by
  intro text
  obtain ⟨program, compiled⟩ : ∃ program, compile (.prose false) text = .ok program :=
    exists_ok_of_toOption (by decide +kernel)
  obtain ⟨accepts, nested⟩ := compile_accepts_iff false text
  exact ⟨program, compiled, nested program compiled, accepts.mp ⟨program, compiled⟩⟩

end Bestiary.Prose
