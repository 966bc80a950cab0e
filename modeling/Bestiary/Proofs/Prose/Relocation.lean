import Bestiary.Proofs.Outcome
import Bestiary.Proofs.Prose.Faults

/-!
Places move along.

Reading tokens and compiling them looks at places only to report them. So tokens
that stand elsewhere compile to the same program, or fail with the same fault,
with all places moved in the same way.
-/

namespace Bestiary.Prose

open Text

def Located.relocate (move : Place → Place) (located : Located) : Located :=
  ⟨located.token, move located.place⟩

def Expression.relocate (move : Place → Place) : Expression → Expression
  | literal place value => literal (move place) value
  | reference place name => reference (move place) name
  | unary place operator operand => unary (move place) operator (operand.relocate move)
  | binary place operator left right =>
      binary (move place) operator (left.relocate move) (right.relocate move)
  | choose place condition chosen otherwise =>
      choose (move place) (condition.relocate move) (chosen.relocate move)
        (otherwise.relocate move)

def Instruction.relocate (move : Place → Place) (instruction : Instruction) : Instruction :=
  ⟨instruction.operation, move instruction.place⟩

def OpenStructure.relocate (move : Place → Place) (innermost : OpenStructure) : OpenStructure :=
  ⟨innermost.opened, innermost.byMark, move innermost.place⟩

def Nesting.relocate (move : Place → Place) (nesting : Nesting) : Nesting :=
  nesting.map (OpenStructure.relocate move)

def ProseError.relocate (move : Place → Place) (error : ProseError) : ProseError :=
  ⟨error.fault, error.place?.map move⟩

variable {move : Place → Place}

@[simp] theorem Expression.code_relocate (expression : Expression) :
    (expression.relocate move).code = expression.code.map (Instruction.relocate move) := by
  induction expression with
  | literal place value => rfl
  | reference place name => rfl
  | unary place operator operand ih =>
      rw [relocate, code, code, ih, List.map_append]
      rfl
  | binary place operator left right ihLeft ihRight =>
      rw [relocate, code, code, ihLeft, ihRight, List.map_append, List.map_append]
      rfl
  | choose place condition chosen otherwise ihCondition ihChosen ihOtherwise =>
      rw [relocate, code, code, ihCondition, ihChosen, ihOtherwise, List.map_append,
        List.map_append, List.map_append]
      rfl

theorem appendCode_relocate (expression : Expression) (place : Place) :
    appendCode (expression.relocate move) (move place) =
      (appendCode expression place).map (Instruction.relocate move) := by
  rw [appendCode, appendCode, Expression.code_relocate, List.map_append]
  rfl

theorem placeOfNext_relocate (finish : Place) (tokens : List Located) :
    placeOfNext (move finish) (tokens.map (Located.relocate move)) =
      move (placeOfNext finish tokens) := by
  cases tokens <;> rfl

/-! ### Outcomes that differ in their places -/

/-- Two outcomes of which both are results, and these are related, or both the same error, the
second with its place moved. -/
def Corresponds {α β : Type} (move : Place → Place) (related : α → β → Prop) :
    Except ProseError α → Except ProseError β → Prop
  | .ok first, .ok second => related first second
  | .error first, .error second => second = first.relocate move
  | _, _ => False

section Outcomes

variable {α β γ δ : Type} {related : α → β → Prop} {related' : γ → δ → Prop}

theorem Corresponds.bind {first : Except ProseError α} {second : Except ProseError β}
    {next : α → Except ProseError γ} {next' : β → Except ProseError δ}
    (corresponds : Corresponds move related first second)
    (goOn : ∀ value value', related value value' →
      Corresponds move related' (next value) (next' value')) :
    Corresponds move related' (first >>= next) (second >>= next') := by
  cases first with
  | error error =>
      cases second with
      | error error' => exact corresponds
      | ok value' => exact corresponds.elim
  | ok value =>
      cases second with
      | error error' => exact corresponds.elim
      | ok value' => exact goOn value value' corresponds

theorem corresponds_at (fault : ProseFault) (place : Place) :
    Corresponds move related (.error (fault.at place)) (.error (fault.at (move place))) :=
  rfl

end Outcomes

/-! ### Expressions -/

def ReadsAlike (move : Place → Place) {kept kept' : List Located → Prop}
    (first : Expression × { rest : List Located // kept rest })
    (second : Expression × { rest : List Located // kept' rest }) : Prop :=
  second.1 = first.1.relocate move ∧ second.2.1 = first.2.1.map (Located.relocate move)

mutual

theorem scanChoice_relocate (finish : Place) (input : List Located) :
    Corresponds move (ReadsAlike move) (scanChoice finish input)
      (scanChoice (move finish) (input.map (Located.relocate move))) := by
  rw [scanChoice, scanChoice]
  refine (scanSum_relocate finish input).bind ?_
  rintro ⟨condition, left, shorter⟩ ⟨_, _, shorter'⟩ ⟨rfl, rfl⟩
  cases left with
  | nil => exact ⟨rfl, rfl⟩
  | cons located branch =>
      obtain ⟨token, place⟩ := located
      cases token with
      | thenWord =>
          have branchLt : branch.length < input.length := Nat.lt_of_succ_lt shorter
          refine (scanChoice_relocate finish branch).bind ?_
          rintro ⟨chosen, left, shorter⟩ ⟨_, _, shorter'⟩ ⟨rfl, rfl⟩
          cases left with
          | nil => exact corresponds_at _ finish
          | cons located branch' =>
              obtain ⟨token, divider⟩ := located
              cases token with
              | elseWord =>
                  have branchLt' : branch'.length < branch.length := Nat.lt_of_succ_lt shorter
                  refine (scanChoice_relocate finish branch').bind ?_
                  rintro ⟨otherwise, rest, _⟩ ⟨_, _, _⟩ ⟨rfl, rfl⟩
                  exact ⟨rfl, rfl⟩
              | _ => exact corresponds_at _ divider
      | _ => exact ⟨rfl, rfl⟩
termination_by 6 * input.length + 5
decreasing_by
  · omega
  · omega
  · omega

theorem scanSum_relocate (finish : Place) (input : List Located) :
    Corresponds move (ReadsAlike move) (scanSum finish input)
      (scanSum (move finish) (input.map (Located.relocate move))) := by
  rw [scanSum, scanSum]
  refine (scanProduct_relocate finish input).bind ?_
  rintro ⟨first, left, shorter⟩ ⟨_, _, shorter'⟩ ⟨rfl, rfl⟩
  refine (scanSumAfter_relocate finish first left).bind ?_
  rintro ⟨sum, rest, _⟩ ⟨_, _, _⟩ ⟨rfl, rfl⟩
  exact ⟨rfl, rfl⟩
termination_by 6 * input.length + 4
decreasing_by
  · omega
  · omega

theorem scanSumAfter_relocate (finish : Place) (left : Expression) (input : List Located) :
    Corresponds move (ReadsAlike move) (scanSumAfter finish left input)
      (scanSumAfter (move finish) (left.relocate move) (input.map (Located.relocate move))) := by
  match input with
  | [] =>
      rw [scanSumAfter, List.map_nil, scanSumAfter]
      exact ⟨rfl, rfl⟩
  | ⟨token, place⟩ :: tail =>
      rw [scanSumAfter, List.map_cons, Located.relocate, scanSumAfter]
      cases sumOperator? token with
      | none => exact ⟨rfl, rfl⟩
      | some operator =>
          refine (scanProduct_relocate finish tail).bind ?_
          rintro ⟨right, left', shorter⟩ ⟨_, _, shorter'⟩ ⟨rfl, rfl⟩
          refine (scanSumAfter_relocate finish (.binary place operator left right) left').bind ?_
          rintro ⟨sum, rest, _⟩ ⟨_, _, _⟩ ⟨rfl, rfl⟩
          exact ⟨rfl, rfl⟩
termination_by 6 * input.length + 1
decreasing_by
  · simp only [List.length_cons]; omega
  · simp only [List.length_cons]; omega

theorem scanProduct_relocate (finish : Place) (input : List Located) :
    Corresponds move (ReadsAlike move) (scanProduct finish input)
      (scanProduct (move finish) (input.map (Located.relocate move))) := by
  rw [scanProduct, scanProduct]
  refine (scanUnary_relocate finish input).bind ?_
  rintro ⟨first, left, shorter⟩ ⟨_, _, shorter'⟩ ⟨rfl, rfl⟩
  refine (scanProductAfter_relocate finish first left).bind ?_
  rintro ⟨product, rest, _⟩ ⟨_, _, _⟩ ⟨rfl, rfl⟩
  exact ⟨rfl, rfl⟩
termination_by 6 * input.length + 3
decreasing_by
  · omega
  · omega

theorem scanProductAfter_relocate (finish : Place) (left : Expression) (input : List Located) :
    Corresponds move (ReadsAlike move) (scanProductAfter finish left input)
      (scanProductAfter (move finish) (left.relocate move)
        (input.map (Located.relocate move))) := by
  match input with
  | [] =>
      rw [scanProductAfter, List.map_nil, scanProductAfter]
      exact ⟨rfl, rfl⟩
  | ⟨token, place⟩ :: tail =>
      rw [scanProductAfter, List.map_cons, Located.relocate, scanProductAfter]
      cases productOperator? token with
      | none => exact ⟨rfl, rfl⟩
      | some operator =>
          refine (scanUnary_relocate finish tail).bind ?_
          rintro ⟨right, left', shorter⟩ ⟨_, _, shorter'⟩ ⟨rfl, rfl⟩
          refine (scanProductAfter_relocate finish (.binary place operator left right) left').bind ?_
          rintro ⟨product, rest, _⟩ ⟨_, _, _⟩ ⟨rfl, rfl⟩
          exact ⟨rfl, rfl⟩
termination_by 6 * input.length + 1
decreasing_by
  · simp only [List.length_cons]; omega
  · simp only [List.length_cons]; omega

theorem scanUnary_relocate (finish : Place) (input : List Located) :
    Corresponds move (ReadsAlike move) (scanUnary finish input)
      (scanUnary (move finish) (input.map (Located.relocate move))) := by
  match input with
  | [] =>
      rw [scanUnary, List.map_nil, scanUnary]
      exact corresponds_at _ finish
  | ⟨token, place⟩ :: tail =>
      rw [List.map_cons, Located.relocate, scanUnary.eq_def finish,
        scanUnary.eq_def (move finish)]
      simp only
      cases unaryOperator? token with
      | some operator =>
          refine (scanUnary_relocate finish tail).bind ?_
          rintro ⟨operand, rest, _⟩ ⟨_, _, _⟩ ⟨rfl, rfl⟩
          exact ⟨rfl, rfl⟩
      | none =>
          cases literalValue? token with
          | some value => exact ⟨rfl, rfl⟩
          | none =>
              cases token with
              | name word => exact ⟨rfl, rfl⟩
              | openParen =>
                  refine (scanChoice_relocate finish tail).bind ?_
                  rintro ⟨inner, left, shorter⟩ ⟨_, _, shorter'⟩ ⟨rfl, rfl⟩
                  cases left with
                  | nil => exact corresponds_at _ finish
                  | cons located rest =>
                      obtain ⟨token, closing⟩ := located
                      cases token with
                      | closeParen => exact ⟨rfl, rfl⟩
                      | _ => exact corresponds_at _ closing
              | _ => exact corresponds_at _ place
termination_by 6 * input.length + 2
decreasing_by
  · simp only [List.length_cons]; omega
  · simp only [List.length_cons]; omega

end

/-! ### Structures -/

theorem Nesting.any_relocate (nesting : Nesting) (marked : Structure) :
    (nesting.relocate move).any (·.opened == marked) = nesting.any (·.opened == marked) :=
  List.any_map

theorem openByCommand_relocate (dialect : Dialect) (opened : Structure) (place : Place)
    (nesting : Nesting) :
    Corresponds move (fun inner inner' => inner' = inner.relocate move)
      (nesting.openByCommand dialect opened place)
      ((nesting.relocate move).openByCommand dialect opened (move place)) := by
  unfold Nesting.openByCommand
  rw [Nesting.any_relocate]
  cases dialect.hasMarks with
  | false => exact corresponds_at _ place
  | true =>
      cases opened.isHeading with
      | true =>
          cases nesting with
          | nil => rfl
          | cons innermost outer => exact corresponds_at _ place
      | false =>
          cases nesting.any (·.opened == opened) with
          | true => exact corresponds_at _ place
          | false => rfl

def WritesAlike (move : Place → Place) (first second : Instruction × Nesting) : Prop :=
  second.1 = first.1.relocate move ∧ second.2 = first.2.relocate move

theorem closeByCommand_relocate (place : Place) (nesting : Nesting) :
    Corresponds move (WritesAlike move) (nesting.closeByCommand place)
      ((nesting.relocate move).closeByCommand (move place)) := by
  cases nesting with
  | nil => exact corresponds_at _ place
  | cons innermost outer =>
      obtain ⟨opened, byMark, start⟩ := innermost
      cases byMark with
      | true => exact corresponds_at _ start
      | false => exact ⟨rfl, rfl⟩

theorem mark_relocate (marked : Structure) (place : Place) (nesting : Nesting) :
    Corresponds move (WritesAlike move) (nesting.mark marked place)
      ((nesting.relocate move).mark marked (move place)) := by
  have opening : Corresponds move (WritesAlike move)
      (if nesting.any (·.opened == marked) then .error ((ProseFault.alreadyOpen marked).at place)
      else .ok ((⟨marked.starting, place⟩ : Instruction),
        (⟨marked, true, place⟩ :: nesting : Nesting)))
      (if (nesting.relocate move).any (·.opened == marked) then
        .error ((ProseFault.alreadyOpen marked).at (move place))
      else .ok ((⟨marked.starting, move place⟩ : Instruction),
        (⟨marked, true, move place⟩ :: nesting.relocate move : Nesting))) := by
    rw [Nesting.any_relocate]
    cases nesting.any (·.opened == marked) with
    | true => exact corresponds_at _ place
    | false => exact ⟨rfl, rfl⟩
  cases nesting with
  | nil => exact opening
  | cons innermost outer =>
      obtain ⟨opened, byMark, start⟩ := innermost
      rw [Nesting.mark.eq_def, Nesting.mark.eq_def]
      simp only [Nesting.relocate, List.map_cons, OpenStructure.relocate]
      cases byMark && opened == marked with
      | true => exact ⟨rfl, rfl⟩
      | false => exact opening

/-! ### Directives and texts -/

theorem relocate_ne_cons {token : Token} {tokens : List Located}
    (differs : ∀ place tail, tokens = ⟨token, place⟩ :: tail → False) (place : Place)
    (tail : List Located) :
    tokens.map (Located.relocate move) = ⟨token, place⟩ :: tail → False := by
  intro same
  obtain ⟨⟨found, start⟩, others, rfl, sameHead, _⟩ := List.map_eq_cons_iff.mp same
  cases sameHead
  exact differs start others rfl

theorem compileArguments_relocate (finish : Place) (input : List Located) :
    Corresponds move
      (fun first second => second.1 = first.1.map (Instruction.relocate move) ∧
        second.2.1 = first.2.1.map (Located.relocate move))
      (compileArguments finish input)
      (compileArguments (move finish) (input.map (Located.relocate move))) := by
  fun_induction compileArguments finish input with
  | case1 place tail =>
      rw [List.map_cons, Located.relocate, compileArguments]
      exact ⟨rfl, rfl⟩
  | case2 place tail =>
      rw [List.map_cons, Located.relocate, compileArguments]
      exact ⟨rfl, rfl⟩
  | case3 tokens notParen notClosing ih =>
      rw [compileArguments.eq_3 _ _ (relocate_ne_cons notParen) (relocate_ne_cons notClosing)]
      refine (scanChoice_relocate finish tokens).bind ?_
      rintro ⟨argument, left, shorter⟩ ⟨_, _, _⟩ ⟨rfl, rfl⟩
      refine (ih ⟨left, shorter⟩).bind ?_
      rintro ⟨others, rest, _⟩ ⟨_, _, _⟩ ⟨rfl, rfl⟩
      refine ⟨?_, rfl⟩
      rw [List.map_append, placeOfNext_relocate, appendCode_relocate]

theorem directiveEnd_relocate (finish : Place) (input : List Located) :
    Corresponds move (fun rest rest' => rest'.1 = rest.1.map (Located.relocate move))
      (directiveEnd finish input)
      (directiveEnd (move finish) (input.map (Located.relocate move))) := by
  cases input with
  | nil => exact corresponds_at _ finish
  | cons located tail =>
      obtain ⟨token, place⟩ := located
      cases token with
      | closing => rfl
      | _ => exact corresponds_at _ place

def CompiledAlike (move : Place → Place) {input input' : List Located} (first : Compiled input)
    (second : Compiled input') : Prop :=
  second.program = first.program.map (Instruction.relocate move) ∧
    second.nesting = first.nesting.relocate move ∧
    second.rest.1 = first.rest.1.map (Located.relocate move)

theorem compileCommand_relocate (finish : Place) (opened : Structure) (place : Place)
    (nesting : Nesting) (input : List Located) :
    Corresponds move (CompiledAlike move) (compileCommand finish opened place nesting input)
      (compileCommand (move finish) opened (move place) (nesting.relocate move)
        (input.map (Located.relocate move))) := by
  unfold compileCommand
  refine (compileArguments_relocate finish input).bind ?_
  rintro ⟨arguments, left, _⟩ ⟨_, _, _⟩ ⟨rfl, rfl⟩
  -- Unless the command is closed at once, the directive ends after its arguments.
  have endsHere : Corresponds move (fun rest rest' => rest'.1 = rest.1.map (Located.relocate move))
      (directiveEnd finish left)
      (directiveEnd (move finish) (left.map (Located.relocate move))) :=
    directiveEnd_relocate finish left
  cases left with
  | nil => exact corresponds_at _ finish
  | cons located tail =>
      obtain ⟨token, closing⟩ := located
      cases token with
      | closeParen =>
          refine (closeByCommand_relocate closing nesting).bind ?_
          rintro ⟨close, outer⟩ ⟨_, _⟩ ⟨rfl, rfl⟩
          refine (directiveEnd_relocate finish tail).bind ?_
          rintro ⟨rest, _⟩ ⟨_, _⟩ rfl
          refine ⟨?_, rfl, rfl⟩
          rw [List.map_append]
          rfl
      | _ =>
          refine endsHere.bind ?_
          rintro ⟨rest, _⟩ ⟨_, _⟩ rfl
          exact ⟨rfl, rfl, rfl⟩

theorem compileDirective_relocate (dialect : Dialect) (finish : Place) (nesting : Nesting)
    (input : List Located) :
    Corresponds move (CompiledAlike move) (compileDirective dialect finish nesting input)
      (compileDirective dialect (move finish) (nesting.relocate move)
        (input.map (Located.relocate move))) := by
  fun_cases compileDirective dialect finish nesting input with
  | case1 opened place tail =>
      refine (openByCommand_relocate dialect opened place nesting).bind ?_
      rintro inner _ rfl
      refine (compileCommand_relocate finish opened place inner tail).bind ?_
      rintro ⟨_, _, _⟩ ⟨_, _, _⟩ ⟨rfl, rfl, sameRest⟩
      exact ⟨rfl, rfl, sameRest⟩
  | case2 place tail =>
      refine (closeByCommand_relocate place nesting).bind ?_
      rintro ⟨close, outer⟩ ⟨_, _⟩ ⟨rfl, rfl⟩
      refine (directiveEnd_relocate finish tail).bind ?_
      rintro ⟨rest, _⟩ ⟨_, _⟩ rfl
      exact ⟨rfl, rfl, rfl⟩
  | case3 tokens notCommand notParen =>
      rw [compileDirective.eq_3 _ _ _ _ notCommand notParen,
        compileDirective.eq_3 _ _ _ _ (fun opened => relocate_ne_cons (notCommand opened))
        (relocate_ne_cons notParen)]
      refine (scanChoice_relocate finish input).bind ?_
      rintro ⟨expression, left, _⟩ ⟨_, _, _⟩ ⟨rfl, rfl⟩
      refine (directiveEnd_relocate finish left).bind ?_
      rintro ⟨rest, _⟩ ⟨_, _⟩ rfl
      refine ⟨?_, rfl, rfl⟩
      simp only
      rw [placeOfNext_relocate, appendCode_relocate]

theorem compileTokens_relocate (dialect : Dialect) (finish : Place) (nesting : Nesting)
    (input : List Located) :
    Corresponds move (fun program program' => program' = program.map (Instruction.relocate move))
      (compileTokens dialect finish nesting input)
      (compileTokens dialect (move finish) (nesting.relocate move)
        (input.map (Located.relocate move))) := by
  fun_induction compileTokens dialect finish nesting input with
  | case1 => rw [Nesting.relocate, List.map_nil, List.map_nil, compileTokens]; rfl
  | case2 => rw [Nesting.relocate, List.map_nil, List.map_cons, compileTokens]; rfl
  | case3 nesting content place tail ih =>
      rw [List.map_cons, Located.relocate, compileTokens]
      refine ih.bind ?_
      rintro others _ rfl
      rfl
  | case4 nesting place tail ih =>
      rw [List.map_cons, Located.relocate, compileTokens]
      refine (mark_relocate .bold place nesting).bind ?_
      rintro ⟨instruction, after⟩ ⟨_, _⟩ ⟨rfl, rfl⟩
      refine (ih after).bind ?_
      rintro others _ rfl
      rfl
  | case5 nesting place tail ih =>
      rw [List.map_cons, Located.relocate, compileTokens]
      refine (mark_relocate .italic place nesting).bind ?_
      rintro ⟨instruction, after⟩ ⟨_, _⟩ ⟨rfl, rfl⟩
      refine (ih after).bind ?_
      rintro others _ rfl
      rfl
  | case6 place tail ih =>
      rw [List.map_cons, Located.relocate, Nesting.relocate, List.map_nil, compileTokens]
      refine ih.bind ?_
      rintro others _ rfl
      rfl
  | case7 place tail innermost outer =>
      rw [List.map_cons, Located.relocate, Nesting.relocate, List.map_cons, compileTokens]
      rfl
  | case8 nesting place tail ih =>
      rw [List.map_cons, Located.relocate, compileTokens]
      refine (compileDirective_relocate dialect finish nesting tail).bind ?_
      rintro compiled ⟨_, _, _, _⟩ ⟨rfl, rfl, rfl⟩
      refine (ih compiled).bind ?_
      rintro others _ rfl
      exact (List.map_append).symm
  | case9 nesting token place tail notLiteral notBold notItalic notBreak notOpening =>
      rw [List.map_cons, Located.relocate,
        compileTokens.eq_9 _ _ _ _ _ _ notLiteral notBold notItalic notBreak notOpening]
      rfl

/-! ### Tokens that differ in nothing but their places -/

/-- Two outcomes of which both are results, and these are related, or both errors of one fault. -/
def Agree {α β : Type} (related : α → β → Prop) :
    Except ProseError α → Except ProseError β → Prop
  | .ok first, .ok second => related first second
  | .error first, .error second => second.fault = first.fault
  | _, _ => False

theorem Agree.of_ok {α β : Type} {related : α → β → Prop} {value : α}
    {second : Except ProseError β} (agree : Agree related (.ok value) second) :
    ∃ value', second = .ok value' ∧ related value value' := by
  cases second with
  | error error => exact agree.elim
  | ok value' => exact ⟨value', rfl, agree⟩

theorem Agree.of_error {α β : Type} {related : α → β → Prop} {error : ProseError}
    {second : Except ProseError β} (agree : Agree related (.error error) second) :
    ∃ error', second = .error error' ∧ error'.fault = error.fault := by
  cases second with
  | error error' => exact ⟨error', rfl, agree⟩
  | ok value' => exact agree.elim

theorem Agree.map_second {α β γ : Type} {related : α → β → Prop} {related' : α → γ → Prop}
    {first : Except ProseError α} {second : Except ProseError β} {change : β → γ}
    (agree : Agree related first second)
    (keeps : ∀ value value', related value value' → related' value (change value')) :
    Agree related' first (second.map change) := by
  cases first <;> cases second <;> first | exact agree | exact keeps _ _ agree

theorem Corresponds.agree {α β γ : Type} {first : Except ProseError α} {second : Except ProseError β}
    {third : Except ProseError γ} {move move' : Place → Place} {related : α → γ → Prop}
    {related' : β → γ → Prop} {joined : α → β → Prop}
    (corresponds : Corresponds move related first third)
    (corresponds' : Corresponds move' related' second third)
    (join : ∀ value value' common, related value common → related' value' common →
      joined value value') :
    Agree joined first second := by
  cases third with
  | error common =>
      cases first with
      | ok value => exact corresponds.elim
      | error error =>
          cases second with
          | ok value' => exact corresponds'.elim
          | error error' =>
              have same : error'.relocate move' = error.relocate move :=
                corresponds'.symm.trans corresponds
              exact (ProseError.mk.inj same).1
  | ok common =>
      cases first with
      | error error => exact corresponds.elim
      | ok value =>
          cases second with
          | error error' => exact corresponds'.elim
          | ok value' => exact join value value' common corresponds corresponds'

theorem relocate_eq_of_tokens {first second : List Located} (place : Place)
    (same : first.map Located.token = second.map Located.token) :
    first.map (Located.relocate fun _ => place) = second.map (Located.relocate fun _ => place) := by
  have forget (tokens : List Located) : tokens.map (Located.relocate fun _ => place) =
      (tokens.map Located.token).map fun token => ⟨token, place⟩ := by
    rw [List.map_map]
    rfl
  rw [forget, forget, same]

theorem operations_relocate (program : Program) :
    (program.map (Instruction.relocate move)).map Instruction.operation =
      program.map Instruction.operation := by
  rw [List.map_map]
  rfl

/-- What tokens compile to depends on their places only in the places that are reported. -/
theorem compileTokens_agree (dialect : Dialect) (finish finish' : Place)
    {first second : List Located} (same : first.map Located.token = second.map Located.token) :
    Agree (fun program program' =>
        program'.map Instruction.operation = program.map Instruction.operation)
      (compileTokens dialect finish [] first) (compileTokens dialect finish' [] second) := by
  have moved := @compileTokens_relocate (fun _ => finish) dialect finish [] first
  have moved' := @compileTokens_relocate (fun _ => finish) dialect finish' [] second
  rw [← relocate_eq_of_tokens finish same] at moved'
  refine moved.agree moved' fun program program' common isMoved isMoved' => ?_
  rw [← operations_relocate program', ← isMoved', isMoved, operations_relocate]

end Bestiary.Prose
