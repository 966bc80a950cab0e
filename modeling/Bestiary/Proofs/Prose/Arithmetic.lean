import Bestiary.Proofs.Dice.Rounding
import Bestiary.Proofs.Prose.Amount
import Bestiary.Proofs.Prose.Compilation
import Bestiary.Proofs.Prose.Unambiguity

/-!
Arithmetic with dice, against the same arithmetic over the rationals.

Numbers, dice and names of either come to an exact amount when every die stands
for its average. Products bind tighter than sums, and both are taken from the
left. The value of the expression, which may be dice, has that average. Only
dice that are multiplied with dice have no value.
-/

namespace Bestiary.Prose

open Text

variable {scope : Variables}

/-! ### Amounts of tokens -/

/-- The amount that some tokens come to over the rationals, at a level of binding. -/
inductive ComesTo (scope : Variables) : Precedence → List Token → Rat → Prop
  | number (value : Nat) : ComesTo scope .term [.number value] value
  | dice (rolled : Dice) : ComesTo scope .term [.dice rolled] rolled.average
  | name {word : String} {value : ProseValue} {amount : Rat} :
      scope.lookup word = some value →
      value.average? = some amount →
      ComesTo scope .term [.name word] amount
  | parentheses {inner : List Token} {amount : Rat} :
      ComesTo scope .choice inner amount →
      ComesTo scope .term (.openParen :: (inner ++ [.closeParen])) amount
  | operand {tokens : List Token} {amount : Rat} :
      ComesTo scope .term tokens amount →
      ComesTo scope .unary tokens amount
  | negated {tokens : List Token} {amount : Rat} :
      ComesTo scope .unary tokens amount →
      ComesTo scope .unary (.minus :: tokens) (-amount)
  | signed {tokens : List Token} {amount : Rat} :
      ComesTo scope .unary tokens amount →
      ComesTo scope .unary (.plus :: tokens) amount
  | factor {tokens : List Token} {amount : Rat} :
      ComesTo scope .unary tokens amount →
      ComesTo scope .product tokens amount
  | times {before after : List Token} {first second : Rat} :
      ComesTo scope .product before first →
      ComesTo scope .unary after second →
      ComesTo scope .product (before ++ .times :: after) (first * second)
  | addend {tokens : List Token} {amount : Rat} :
      ComesTo scope .product tokens amount →
      ComesTo scope .sum tokens amount
  | plus {before after : List Token} {first second : Rat} :
      ComesTo scope .sum before first →
      ComesTo scope .product after second →
      ComesTo scope .sum (before ++ .plus :: after) (first + second)
  | minus {before after : List Token} {first second : Rat} :
      ComesTo scope .sum before first →
      ComesTo scope .product after second →
      ComesTo scope .sum (before ++ .minus :: after) (first - second)
  | whole {tokens : List Token} {amount : Rat} :
      ComesTo scope .sum tokens amount →
      ComesTo scope .choice tokens amount

/-- Whether a token belongs to arithmetic; a name does if it is that of a number or dice. -/
def Token.isArithmetic (scope : Variables) : Token → Bool
  | number _ | dice _ => true
  | plus | minus | times => true
  | openParen | closeParen => true
  | name word => ((scope.lookup word).bind ProseValue.average?).isSome
  | _ => false

/-! ### Amounts of expressions -/

def UnaryOperator.amount? : UnaryOperator → Rat → Option Rat
  | negate, amount => some (-amount)
  | sign, amount => some amount
  | stringify, _ => none

def BinaryOperator.amount? : BinaryOperator → Rat → Rat → Option Rat
  | add, first, second => some (first + second)
  | subtract, first, second => some (first - second)
  | multiply, first, second => some (first * second)
  | floorDivide, _, _ => none
  | ceilingDivide, _, _ => none

def Expression.amount? (scope : Variables) : Expression → Option Rat
  | literal _ value => value.average?
  | reference _ name => (scope.lookup name).bind ProseValue.average?
  | unary _ operator operand => (operand.amount? scope).bind operator.amount?
  | binary _ operator left right =>
      (left.amount? scope).bind fun first => (right.amount? scope).bind (operator.amount? first)
  | choose _ _ _ _ => none

theorem ComesTo.derives {level : Precedence} {tokens : List Token} {amount : Rat}
    (comesTo : ComesTo scope level tokens amount) {written : List Located}
    (spelled : written.map Located.token = tokens) :
    ∃ expression, Derives level written expression ∧ expression.amount? scope = some amount := by
  induction comesTo generalizing written with
  | number value =>
      obtain ⟨place, _, rfl, nothing⟩ := located_cons spelled
      rw [List.map_eq_nil_iff.mp nothing]
      exact ⟨_, .literal place rfl, rfl⟩
  | dice rolled =>
      obtain ⟨place, _, rfl, nothing⟩ := located_cons spelled
      rw [List.map_eq_nil_iff.mp nothing]
      exact ⟨_, .literal place rfl, rfl⟩
  | name found average =>
      obtain ⟨place, _, rfl, nothing⟩ := located_cons spelled
      rw [List.map_eq_nil_iff.mp nothing]
      refine ⟨_, .reference place _, ?_⟩
      rw [Expression.amount?, found]
      exact average
  | parentheses _ ih =>
      obtain ⟨left, _, rfl, spelledBack⟩ := located_cons spelled
      obtain ⟨middle, _, rfl, spelledInner, spelledEnd⟩ := List.map_eq_append_iff.mp spelledBack
      obtain ⟨right, _, rfl, nothing⟩ := located_cons spelledEnd
      rw [List.map_eq_nil_iff.mp nothing]
      obtain ⟨inner, derived, exact⟩ := ih spelledInner
      exact ⟨inner, .parentheses left right derived, exact⟩
  | operand _ ih =>
      obtain ⟨expression, derived, exact⟩ := ih spelled
      exact ⟨expression, .operand derived, exact⟩
  | negated _ ih =>
      obtain ⟨place, _, rfl, spelledOperand⟩ := located_cons spelled
      obtain ⟨operand, derived, exact⟩ := ih spelledOperand
      refine ⟨_, .prefixed place rfl derived, ?_⟩
      rw [Expression.amount?, exact]
      rfl
  | signed _ ih =>
      obtain ⟨place, _, rfl, spelledOperand⟩ := located_cons spelled
      obtain ⟨operand, derived, exact⟩ := ih spelledOperand
      refine ⟨_, .prefixed place rfl derived, ?_⟩
      rw [Expression.amount?, exact]
      rfl
  | factor _ ih =>
      obtain ⟨expression, derived, exact⟩ := ih spelled
      exact ⟨expression, .factor derived, exact⟩
  | times _ _ ihLeft ihRight =>
      obtain ⟨front, _, rfl, spelledFront, spelledBack⟩ := List.map_eq_append_iff.mp spelled
      obtain ⟨place, _, rfl, spelledAfter⟩ := located_cons spelledBack
      obtain ⟨left, derivedLeft, exactLeft⟩ := ihLeft spelledFront
      obtain ⟨right, derivedRight, exactRight⟩ := ihRight spelledAfter
      refine ⟨_, .scaled place derivedLeft rfl derivedRight, ?_⟩
      rw [Expression.amount?, exactLeft, exactRight]
      rfl
  | addend _ ih =>
      obtain ⟨expression, derived, exact⟩ := ih spelled
      exact ⟨expression, .addend derived, exact⟩
  | plus _ _ ihLeft ihRight =>
      obtain ⟨front, _, rfl, spelledFront, spelledBack⟩ := List.map_eq_append_iff.mp spelled
      obtain ⟨place, _, rfl, spelledAfter⟩ := located_cons spelledBack
      obtain ⟨left, derivedLeft, exactLeft⟩ := ihLeft spelledFront
      obtain ⟨right, derivedRight, exactRight⟩ := ihRight spelledAfter
      refine ⟨_, .added place derivedLeft rfl derivedRight, ?_⟩
      rw [Expression.amount?, exactLeft, exactRight]
      rfl
  | minus _ _ ihLeft ihRight =>
      obtain ⟨front, _, rfl, spelledFront, spelledBack⟩ := List.map_eq_append_iff.mp spelled
      obtain ⟨place, _, rfl, spelledAfter⟩ := located_cons spelledBack
      obtain ⟨left, derivedLeft, exactLeft⟩ := ihLeft spelledFront
      obtain ⟨right, derivedRight, exactRight⟩ := ihRight spelledAfter
      refine ⟨_, .added place derivedLeft rfl derivedRight, ?_⟩
      rw [Expression.amount?, exactLeft, exactRight]
      rfl
  | whole _ ih =>
      obtain ⟨expression, derived, exact⟩ := ih spelled
      exact ⟨expression, .unconditional derived, exact⟩

/-! ### Arithmetic comes to an amount -/

abbrev AreArithmetic (scope : Variables) (written : List Located) : Prop :=
  ∀ located ∈ written, located.token.isArithmetic scope = true

theorem comesTo_name {word : String} (named : Token.isArithmetic scope (.name word) = true) :
    ∃ amount, (scope.lookup word).bind ProseValue.average? = some amount ∧
      ComesTo scope .term [.name word] amount := by
  obtain ⟨amount, found⟩ := Option.isSome_iff_exists.mp named
  obtain ⟨value, bound, average⟩ := Option.bind_eq_some_iff.mp found
  exact ⟨amount, found, .name bound average⟩

theorem comesTo_literal {token : Token} {value : ProseValue}
    (known : literalValue? token = some value) (arithmetic : token.isArithmetic scope = true) :
    ∃ amount, value.average? = some amount ∧ ComesTo scope .term [token] amount := by
  cases token with
  | number amount =>
      cases known
      exact ⟨_, rfl, .number amount⟩
  | dice rolled =>
      cases known
      exact ⟨_, rfl, .dice rolled⟩
  | quoted content => cases arithmetic
  | _ => cases known

theorem ComesTo.prefixed {token : Token} {operator : UnaryOperator} {tokens : List Token}
    {amount : Rat} (found : unaryOperator? token = some operator)
    (arithmetic : token.isArithmetic scope = true) (operand : ComesTo scope .unary tokens amount) :
    ∃ changed, operator.amount? amount = some changed ∧
      ComesTo scope .unary (token :: tokens) changed := by
  cases token with
  | minus =>
      cases found
      exact ⟨_, rfl, .negated operand⟩
  | plus =>
      cases found
      exact ⟨_, rfl, .signed operand⟩
  | dollar => cases arithmetic
  | _ => cases found

theorem ComesTo.scaled {token : Token} {operator : BinaryOperator} {before after : List Token}
    {first second : Rat} (found : productOperator? token = some operator)
    (arithmetic : token.isArithmetic scope = true) (left : ComesTo scope .product before first)
    (right : ComesTo scope .unary after second) :
    ∃ amount, operator.amount? first second = some amount ∧
      ComesTo scope .product (before ++ token :: after) amount := by
  cases token with
  | times =>
      cases found
      exact ⟨_, rfl, .times left right⟩
  | floorOver => cases arithmetic
  | ceilingOver => cases arithmetic
  | _ => cases found

theorem ComesTo.added {token : Token} {operator : BinaryOperator} {before after : List Token}
    {first second : Rat} (found : sumOperator? token = some operator)
    (left : ComesTo scope .sum before first) (right : ComesTo scope .product after second) :
    ∃ amount, operator.amount? first second = some amount ∧
      ComesTo scope .sum (before ++ token :: after) amount := by
  cases token with
  | plus =>
      cases found
      exact ⟨_, rfl, .plus left right⟩
  | minus =>
      cases found
      exact ⟨_, rfl, .minus left right⟩
  | _ => cases found

theorem Derives.comesTo {level : Precedence} {written : List Located} {expression : Expression}
    (derived : Derives level written expression) (arithmetic : AreArithmetic scope written) :
    ∃ amount, expression.amount? scope = some amount ∧
      ComesTo scope level (written.map Located.token) amount := by
  induction derived with
  | literal place known =>
      exact comesTo_literal known (arithmetic _ List.mem_cons_self)
  | reference place word =>
      exact comesTo_name (arithmetic _ List.mem_cons_self)
  | parentheses left right _ ih =>
      obtain ⟨_, within⟩ := List.forall_mem_cons.mp arithmetic
      obtain ⟨amount, exact, comesTo⟩ := ih (List.forall_mem_append.mp within).1
      refine ⟨amount, exact, ?_⟩
      rw [List.map_cons, List.map_append]
      exact .parentheses comesTo
  | operand _ ih =>
      obtain ⟨amount, exact, comesTo⟩ := ih arithmetic
      exact ⟨amount, exact, .operand comesTo⟩
  | prefixed place found _ ih =>
      obtain ⟨sign, operand⟩ := List.forall_mem_cons.mp arithmetic
      obtain ⟨amount, exact, comesTo⟩ := ih operand
      obtain ⟨changed, applied, whole⟩ := comesTo.prefixed found sign
      refine ⟨changed, ?_, whole⟩
      rw [Expression.amount?, exact]
      exact applied
  | factor _ ih =>
      obtain ⟨amount, exact, comesTo⟩ := ih arithmetic
      exact ⟨amount, exact, .factor comesTo⟩
  | scaled place _ found _ ihLeft ihRight =>
      obtain ⟨front, back⟩ := List.forall_mem_append.mp arithmetic
      obtain ⟨sign, after⟩ := List.forall_mem_cons.mp back
      obtain ⟨first, exactLeft, left⟩ := ihLeft front
      obtain ⟨second, exactRight, right⟩ := ihRight after
      obtain ⟨amount, applied, whole⟩ := left.scaled found sign right
      rw [List.map_append, Expression.amount?, exactLeft, exactRight]
      exact ⟨amount, applied, whole⟩
  | addend _ ih =>
      obtain ⟨amount, exact, comesTo⟩ := ih arithmetic
      exact ⟨amount, exact, .addend comesTo⟩
  | added place _ found _ ihLeft ihRight =>
      obtain ⟨front, back⟩ := List.forall_mem_append.mp arithmetic
      obtain ⟨_, after⟩ := List.forall_mem_cons.mp back
      obtain ⟨first, exactLeft, left⟩ := ihLeft front
      obtain ⟨second, exactRight, right⟩ := ihRight after
      obtain ⟨amount, applied, whole⟩ := left.added found right
      rw [List.map_append, Expression.amount?, exactLeft, exactRight]
      exact ⟨amount, applied, whole⟩
  | unconditional _ ih =>
      obtain ⟨amount, exact, comesTo⟩ := ih arithmetic
      exact ⟨amount, exact, .whole comesTo⟩
  | conditional place divider _ _ _ _ _ _ =>
      -- The word between the question and the branches is not arithmetic.
      have impossible := arithmetic ⟨.thenWord, place⟩ (by simp)
      cases impossible

/-- What some tokens come to is settled by the expression that they derive. -/
theorem Derives.comesTo_iff {written : List Located} {expression : Expression} {amount : Rat}
    (derived : Derives .choice written expression) (exact : expression.amount? scope = some amount)
    (comesTo : ComesTo scope .choice (written.map Located.token) amount) (other : Rat) :
    ComesTo scope .choice (written.map Located.token) other ↔ other = amount := by
  constructor
  · intro otherwise
    obtain ⟨expression', derived', exact'⟩ := otherwise.derives rfl
    obtain ⟨rfl, _⟩ := derived.determined rfl (stopsBefore_nil .choice) derived'
      (stopsBefore_nil .choice)
    exact Option.some.inj (exact'.symm.trans exact)
  · intro same
    exact same ▸ comesTo

/-! ### Values have the average of their expression -/

/-- All that an outcome can be: a value of some average, or dice that were multiplied with dice. -/
structure Averages (average : Rat) (outcome : Except ProseError ProseValue) : Prop where
  value : ∀ value, outcome = .ok value → value.average? = some average
  refusal : FailsWithin (fun error => error.fault = .multipliedDice) outcome

theorem averages_ok {value : ProseValue} {average : Rat} (known : value.average? = some average) :
    Averages average (.ok value) := by
  refine ⟨?_, failsWithin_ok value⟩
  intro other same
  cases same
  exact known

theorem averages_multipliedDice (average : Rat) (place : Place) :
    Averages average (.error (ProseFault.multipliedDice.at place)) :=
  ⟨nofun, failsWithin_error rfl⟩

theorem Averages.bind {first average : Rat} {outcome : Except ProseError ProseValue}
    {next : ProseValue → Except ProseError ProseValue} (averages : Averages first outcome)
    (each : ∀ value, value.average? = some first → Averages average (next value)) :
    Averages average (outcome >>= next) := by
  constructor
  case value =>
    intro result success
    obtain ⟨value, evaluated, applied⟩ := bind_eq_ok.mp success
    exact (each value (averages.value value evaluated)).value result applied
  case refusal =>
    exact averages.refusal.bind fun value evaluated =>
      (each value (averages.value value evaluated)).refusal

theorem UnaryOperator.apply_averages {operator : UnaryOperator} {operand : ProseValue}
    {first amount : Rat} (average : operand.average? = some first)
    (exact : operator.amount? first = some amount) (place : Place) :
    Averages amount ((operator.apply operand).mapError (·.at place)) := by
  cases operator with
  | negate =>
      cases exact
      obtain ⟨value, applied, negated⟩ := ProseValue.negate_average average
      rw [apply, applied]
      exact averages_ok negated
  | sign =>
      cases exact
      cases operand with
      | text content => cases average
      | number amount signed => exact averages_ok average
      | dice rolled signed => exact averages_ok average
  | stringify => cases exact

theorem ProseValue.multiply_averages {left right : ProseValue} {first second : Rat}
    (leftAverage : left.average? = some first) (rightAverage : right.average? = some second)
    (place : Place) :
    Averages (first * second) ((left.multiply right).mapError (·.at place)) := by
  cases left with
  | text content => cases leftAverage
  | number amount signed =>
      cases leftAverage
      cases right with
      | text content => cases rightAverage
      | number other mark =>
          cases rightAverage
          exact averages_ok (congrArg some (Int.cast_mul amount other))
      | dice other mark =>
          cases rightAverage
          exact averages_ok (congrArg some (other.average_multiply_integer amount))
  | dice rolled signed =>
      cases leftAverage
      cases right with
      | text content => cases rightAverage
      | number other mark =>
          cases rightAverage
          rw [mul_comm]
          exact averages_ok (congrArg some (rolled.average_multiply_integer other))
      | dice other mark => exact averages_multipliedDice _ place

theorem BinaryOperator.apply_averages {operator : BinaryOperator} {left right : ProseValue}
    {first second amount : Rat} (leftAverage : left.average? = some first)
    (rightAverage : right.average? = some second)
    (exact : operator.amount? first second = some amount) (place : Place) :
    Averages amount ((operator.apply left right).mapError (·.at place)) := by
  cases operator with
  | add =>
      cases exact
      obtain ⟨value, applied, sum⟩ := ProseValue.add_average leftAverage rightAverage
      rw [apply, applied]
      exact averages_ok sum
  | subtract =>
      cases exact
      obtain ⟨value, applied, difference⟩ :=
        ProseValue.subtract_average leftAverage rightAverage
      rw [apply, applied]
      exact averages_ok difference
  | multiply =>
      cases exact
      exact ProseValue.multiply_averages leftAverage rightAverage place
  | floorDivide => cases exact
  | ceilingDivide => cases exact

theorem Expression.evaluate_averages {expression : Expression} {amount : Rat}
    (exact : expression.amount? scope = some amount) :
    Averages amount (expression.evaluate scope) := by
  induction expression generalizing amount with
  | literal place value => exact averages_ok exact
  | reference place word =>
      obtain ⟨value, found, average⟩ := Option.bind_eq_some_iff.mp exact
      rw [evaluate, found]
      exact averages_ok average
  | unary place operator operand ih =>
      obtain ⟨first, exactOperand, applied⟩ := Option.bind_eq_some_iff.mp exact
      rw [evaluate]
      exact (ih exactOperand).bind fun value average =>
        UnaryOperator.apply_averages average applied place
  | binary place operator left right ihLeft ihRight =>
      obtain ⟨first, exactLeft, exactAfter⟩ := Option.bind_eq_some_iff.mp exact
      obtain ⟨second, exactRight, applied⟩ := Option.bind_eq_some_iff.mp exactAfter
      rw [evaluate]
      exact (ihLeft exactLeft).bind fun leftValue leftAverage =>
        (ihRight exactRight).bind fun rightValue rightAverage =>
          BinaryOperator.apply_averages leftAverage rightAverage applied place
  | choose place condition chosen otherwise _ _ _ => cases exact

/-! ### A text that is one expression -/

theorem Token.isWithin_of_isArithmetic {token : Token}
    (arithmetic : token.isArithmetic scope = true) : token.isWithin = true := by
  cases token <;> first | rfl | cases arithmetic

theorem compile_shown {dialect : Dialect} {text : String} {program : Program}
    {stream : TokenStream} {inside : List Located} {opening closing : Place}
    (compiled : compile dialect text = .ok program)
    (read : TokenStream.ofText dialect text = .ok stream)
    (spelled : stream.tokens = ⟨.opening, opening⟩ :: (inside ++ [⟨.closing, closing⟩]))
    (within : ∀ located ∈ inside, located.token.isWithin = true) :
    ∃ expression place, Derives .choice inside expression ∧
      program = appendCode expression place := by
  have isOpen : ∀ located ∈ inside, located.token ≠ .closing := by
    intro located member isClosing
    have inner := within located member
    rw [isClosing] at inner
    cases inner
  obtain ⟨_, fragments, read', spells, fragmentsEq⟩ := compile_sound compiled
  cases read.symm.trans read'
  rw [spelled] at spells
  generalize tokensEq : (⟨.opening, opening⟩ :: (inside ++ [⟨.closing, closing⟩]) : List Located) =
    tokens at spells
  cases spells with
  | finish => cases tokensEq
  | literal _ _ _ => cases tokensEq
  | boldMark _ _ => cases tokensEq
  | italicMark _ _ => cases tokensEq
  | breaks _ _ => cases tokensEq
  | directive opening' closing' spelledInside spelledTail =>
      obtain ⟨rfl, rfl⟩ := directive_split (List.cons.inj tokensEq).2 isOpen
        spelledInside.not_closing
      cases spelledTail
      cases spelledInside with
      | value derived =>
          cases fragmentsEq
          exact ⟨_, _, derived, List.append_nil _⟩
      | close place => cases fragmentsEq
      | start opened place _ => cases within _ List.mem_cons_self
      | whole opened place ending _ => cases within _ List.mem_cons_self

/-- Evaluation respects averages. Tokens of arithmetic that are read as an expression come to
exactly one amount over the rationals, and where its code leaves a value, that is the average of
the value; nothing stops it but dice that are multiplied with dice. The program of a text that
shows such an expression is its code. -/
theorem evaluation_respects_averages (scope : Variables) (written : List Located)
    (arithmetic : AreArithmetic scope written) :
    (∀ (finish : Place) (rest : List Located) (expression : Expression),
      (∃ fewer, scanChoice finish (written ++ rest) = .ok (expression, ⟨rest, fewer⟩)) →
        ∃ amount,
          (∀ other, ComesTo scope .choice (written.map Located.token) other ↔ other = amount) ∧
          ∀ (capitalize : Bool) (machine : Machine),
            (∀ after, machine.run scope capitalize expression.code = .ok after →
              ∃ value, value.average? = some amount ∧
                after = machine.withStack (value :: machine.stack)) ∧
            (∀ error, machine.run scope capitalize expression.code = .error error →
              error.fault = .multipliedDice)) ∧
    (∀ (dialect : Dialect) (text : String) (stream : TokenStream) (opening closing : Place)
      (program : Program),
      TokenStream.ofText dialect text = .ok stream →
      stream.tokens = ⟨.opening, opening⟩ :: (written ++ [⟨.closing, closing⟩]) →
      compile dialect text = .ok program →
        ∃ expression place fewer, program = appendCode expression place ∧
          scanChoice stream.finish (written ++ []) = .ok (expression, ⟨[], fewer⟩)) := by
  constructor
  · intro finish rest expression read
    obtain ⟨written', same, derived, _⟩ := scanChoice_eq_ok_iff.mp read
    obtain rfl := List.append_cancel_right same
    obtain ⟨amount, exact, comesTo⟩ := derived.comesTo arithmetic
    have averages := Expression.evaluate_averages exact
    refine ⟨amount, derived.comesTo_iff exact comesTo, fun capitalize machine => ?_⟩
    rw [expression.run_code]
    constructor
    · intro after ran
      obtain ⟨value, evaluated, rfl⟩ := map_eq_ok.mp ran
      exact ⟨value, averages.value value evaluated, rfl⟩
    · intro error failed
      cases evaluated : expression.evaluate scope with
      | ok value =>
          rw [evaluated] at failed
          cases failed
      | error found =>
          rw [evaluated] at failed
          cases failed
          exact averages.refusal error evaluated
  · intro dialect text stream opening closing program read spelled compiled
    have within : ∀ located ∈ written, located.token.isWithin = true :=
      fun located member => Token.isWithin_of_isArithmetic (arithmetic located member)
    obtain ⟨expression, place, derived, programEq⟩ := compile_shown compiled read spelled within
    obtain ⟨fewer, accepted⟩ :=
      derived.readsBack stream.finish [] (stopsBefore_nil .choice)
    exact ⟨expression, place, fewer, programEq, accepted⟩

theorem evaluation_respects_averages_mixed :
    let scope : Variables := [("N", .dice ⟨[⟨2, .d4, 1⟩], 0⟩ false)]
    let written : List Located := [⟨.number 2, ⟨1, 3⟩⟩, ⟨.minus, ⟨1, 5⟩⟩, ⟨.number 3, ⟨1, 7⟩⟩,
      ⟨.times, ⟨1, 9⟩⟩, ⟨.minus, ⟨1, 11⟩⟩, ⟨.openParen, ⟨1, 12⟩⟩, ⟨.name "N", ⟨1, 13⟩⟩,
      ⟨.plus, ⟨1, 15⟩⟩, ⟨.dice ⟨[⟨1, .d6, 1⟩], 0⟩, ⟨1, 17⟩⟩, ⟨.closeParen, ⟨1, 20⟩⟩]
    let rolled : Dice := ⟨[⟨2, .d4, 3⟩, ⟨1, .d6, 3⟩], 2⟩
    AreArithmetic scope written ∧
      TokenStream.ofText .template "$<2 - 3 * -(N + 1d6)>" =
        .ok ⟨⟨.opening, ⟨1, 1⟩⟩ :: (written ++ [⟨.closing, ⟨1, 21⟩⟩]), ⟨1, 22⟩⟩ ∧
      ∃ expression place,
        compile .template "$<2 - 3 * -(N + 1d6)>" = .ok (appendCode expression place) ∧
        Machine.initial.run scope false expression.code =
          .ok (Machine.initial.withStack [.dice rolled false]) ∧
        rolled.average = 55 / 2 ∧ ComesTo scope .choice (written.map Located.token) (55 / 2) := by
  intro scope written rolled
  let negation : Expression := .unary ⟨1, 11⟩ .negate
    (.binary ⟨1, 15⟩ .add (.reference ⟨1, 13⟩ "N") (.literal ⟨1, 17⟩ (.dice ⟨[⟨1, .d6, 1⟩], 0⟩ false)))
  let shown : Expression := .binary ⟨1, 5⟩ .subtract (.literal ⟨1, 3⟩ (.number 2 false))
    (.binary ⟨1, 9⟩ .multiply (.literal ⟨1, 7⟩ (.number 3 false)) negation)
  have arithmetic : AreArithmetic scope written := by decide +kernel
  have read : TokenStream.ofText .template "$<2 - 3 * -(N + 1d6)>" =
      .ok ⟨⟨.opening, ⟨1, 1⟩⟩ :: (written ++ [⟨.closing, ⟨1, 21⟩⟩]), ⟨1, 22⟩⟩ :=
    eq_ok_of_toOption (by decide +kernel)
  have compiled :
      compile .template "$<2 - 3 * -(N + 1d6)>" = .ok (appendCode shown ⟨1, 3⟩) :=
    eq_ok_of_toOption (by decide +kernel)
  have ran : Machine.initial.run scope false shown.code =
      .ok (Machine.initial.withStack [.dice rolled false]) :=
    eq_ok_of_toOption (by decide +kernel)
  have average : rolled.average = 55 / 2 := by decide +kernel
  obtain ⟨reads, texts⟩ := evaluation_respects_averages scope written arithmetic
  obtain ⟨expression, place, fewer, same, accepted⟩ := texts _ _ _ _ _ _ read rfl compiled
  have code : shown.code = expression.code := (List.append_inj' same rfl).1
  obtain ⟨amount, onlyAmount, runs⟩ := reads _ [] expression ⟨fewer, accepted⟩
  rw [same] at compiled
  rw [code] at ran
  obtain ⟨value, valueAverage, reached⟩ := (runs false Machine.initial).1 _ ran
  obtain rfl : .dice rolled false = value :=
    (List.cons.inj (congrArg Machine.stack reached)).1
  have isAmount : (55 / 2 : Rat) = amount := average.symm.trans (Option.some.inj valueAverage)
  exact ⟨arithmetic, read, expression, place, compiled, ran, average, (onlyAmount _).mpr isAmount⟩

end Bestiary.Prose
