import Bestiary.Proofs.Prose.Lexing

/-!
The value that some tokens denote, wherever they stand.

Tokens denote a value at a level of binding if they derive an expression there
whose value that is. The places of the tokens matter to faults only, so nothing
is said of them.
-/

namespace Bestiary.Prose

open Text

variable {scope : Variables}

def Denotes (scope : Variables) (level : Precedence) (tokens : List Token) (value : ProseValue) :
    Prop :=
  ∀ written : List Located, written.map Located.token = tokens →
    ∃ expression, Derives level written expression ∧ expression.evaluate scope = .ok value

theorem located_cons {written : List Located} {token : Token} {tokens : List Token}
    (spelled : written.map Located.token = token :: tokens) :
    ∃ place tail, written = ⟨token, place⟩ :: tail ∧ tail.map Located.token = tokens := by
  obtain ⟨⟨_, place⟩, tail, rfl, rfl, spelledTail⟩ := List.map_eq_cons_iff.mp spelled
  exact ⟨place, tail, rfl, spelledTail⟩

namespace Denotes

theorem literal {token : Token} {value : ProseValue} (known : literalValue? token = some value) :
    Denotes scope .term [token] value := by
  intro written spelled
  obtain ⟨place, _, rfl, nothing⟩ := located_cons spelled
  rw [List.map_eq_nil_iff.mp nothing]
  exact ⟨_, .literal place known, rfl⟩

theorem name {word : String} {value : ProseValue} (found : scope.lookup word = some value) :
    Denotes scope .term [.name word] value := by
  intro written spelled
  obtain ⟨place, _, rfl, nothing⟩ := located_cons spelled
  rw [List.map_eq_nil_iff.mp nothing]
  refine ⟨_, .reference place word, ?_⟩
  rw [Expression.evaluate, found]

theorem unary {tokens : List Token} {value : ProseValue}
    (denotes : Denotes scope .term tokens value) : Denotes scope .unary tokens value := by
  intro written spelled
  obtain ⟨expression, derived, evaluated⟩ := denotes written spelled
  exact ⟨expression, .operand derived, evaluated⟩

theorem product {tokens : List Token} {value : ProseValue}
    (denotes : Denotes scope .unary tokens value) : Denotes scope .product tokens value := by
  intro written spelled
  obtain ⟨expression, derived, evaluated⟩ := denotes written spelled
  exact ⟨expression, .factor derived, evaluated⟩

theorem sum {tokens : List Token} {value : ProseValue}
    (denotes : Denotes scope .product tokens value) : Denotes scope .sum tokens value := by
  intro written spelled
  obtain ⟨expression, derived, evaluated⟩ := denotes written spelled
  exact ⟨expression, .addend derived, evaluated⟩

theorem choice {tokens : List Token} {value : ProseValue}
    (denotes : Denotes scope .sum tokens value) : Denotes scope .choice tokens value := by
  intro written spelled
  obtain ⟨expression, derived, evaluated⟩ := denotes written spelled
  exact ⟨expression, .unconditional derived, evaluated⟩

theorem prefixed {token : Token} {operator : UnaryOperator} {tokens : List Token}
    {operand value : ProseValue} (isOperator : unaryOperator? token = some operator)
    (denotes : Denotes scope .unary tokens operand) (applied : operator.apply operand = .ok value) :
    Denotes scope .unary (token :: tokens) value := by
  intro written spelled
  obtain ⟨place, others, rfl, spelledOthers⟩ := located_cons spelled
  obtain ⟨expression, derived, evaluated⟩ := denotes others spelledOthers
  refine ⟨_, .prefixed place isOperator derived, ?_⟩
  rw [Expression.evaluate, evaluated, ok_bind, applied]
  rfl

theorem added {token : Token} {operator : BinaryOperator} {before after : List Token}
    {left right value : ProseValue} (denotesLeft : Denotes scope .sum before left)
    (isOperator : sumOperator? token = some operator)
    (denotesRight : Denotes scope .product after right)
    (applied : operator.apply left right = .ok value) :
    Denotes scope .sum (before ++ token :: after) value := by
  intro written spelled
  obtain ⟨front, back, rfl, spelledFront, spelledBack⟩ := List.map_eq_append_iff.mp spelled
  obtain ⟨place, others, rfl, spelledOthers⟩ := located_cons spelledBack
  obtain ⟨leftExpression, leftDerived, leftEvaluated⟩ := denotesLeft front spelledFront
  obtain ⟨rightExpression, rightDerived, rightEvaluated⟩ := denotesRight others spelledOthers
  refine ⟨_, .added place leftDerived isOperator rightDerived, ?_⟩
  rw [Expression.evaluate, leftEvaluated, ok_bind, rightEvaluated, ok_bind, applied]
  rfl

theorem signed {tokens : List Token} {number : Int} {mark : Bool}
    (denotes : Denotes scope .unary tokens (.number number mark)) :
    Denotes scope .unary (.plus :: tokens) (.number number true) :=
  prefixed rfl denotes rfl

theorem plus {before after : List Token} {first second : Int} {mark other : Bool}
    (left : Denotes scope .sum before (.number first mark))
    (right : Denotes scope .product after (.number second other)) :
    Denotes scope .sum (before ++ .plus :: after) (.number (first + second) mark) :=
  left.added rfl right rfl

theorem minus {before after : List Token} {first second : Int} {mark other : Bool}
    (left : Denotes scope .sum before (.number first mark))
    (right : Denotes scope .product after (.number second other)) :
    Denotes scope .sum (before ++ .minus :: after) (.number (first - second) mark) :=
  left.added rfl right rfl

theorem integer (number : Int) :
    Denotes scope .unary (integerTokens number) (.number number false) := by
  have size : Denotes scope .unary [.number number.natAbs] (.number number.natAbs false) :=
    (literal rfl).unary
  unfold integerTokens
  split
  · next negative =>
      refine prefixed rfl size ?_
      rw [UnaryOperator.apply, ProseValue.negate, Int.ofNat_natAbs_of_nonpos (Int.le_of_lt negative),
        Int.neg_neg]
  · next notNegative =>
      rw [Int.natAbs_of_nonneg (Int.not_lt.mp notNegative)] at size
      exact size

end Denotes

end Bestiary.Prose
