import Bestiary.Prose.Scanner
import Bestiary.Prose.Value

/-!
Expressions: their structure, and reading them from tokens.

A choice binds weakest, then sums, then products, then the operators before a
single operand; sums and products associate to the left. Every node keeps the
place of the token that faults of its operation are reported at.
-/

namespace Bestiary.Prose

open Text

inductive Expression
  | literal (place : Place) (value : ProseValue)
  | reference (place : Place) (name : String)
  | unary (place : Place) (operator : UnaryOperator) (operand : Expression)
  | binary (place : Place) (operator : BinaryOperator) (left right : Expression)
  | choose (place : Place) (condition chosen otherwise : Expression)
  deriving DecidableEq, Repr, Inhabited

abbrev Remaining (input : List Located) :=
  { rest : List Located // rest.length ≤ input.length }

abbrev Fewer (input : List Located) :=
  { rest : List Located // rest.length < input.length }

def Fewer.tail {first : Located} (tail : List Located) : Fewer (first :: tail) :=
  ⟨tail, Nat.lt_succ_self _⟩

/-- Tokens left of a text, seen from one token before it. -/
def Fewer.afterOne {first : Located} {tail : List Located} (rest : Fewer tail) :
    Fewer (first :: tail) :=
  ⟨rest.1, Nat.lt_succ_of_lt rest.2⟩

/-- The place of the first token, or the end of the text. -/
def placeOfNext (finish : Place) : List Located → Place
  | [] => finish
  | head :: _ => head.place

def sumOperator? : Token → Option BinaryOperator
  | .plus => some .add
  | .minus => some .subtract
  | _ => none

def productOperator? : Token → Option BinaryOperator
  | .times => some .multiply
  | .floorOver => some .floorDivide
  | .ceilingOver => some .ceilingDivide
  | _ => none

def unaryOperator? : Token → Option UnaryOperator
  | .minus => some .negate
  | .plus => some .sign
  | .dollar => some .stringify
  | _ => none

/-- The value that a token stands for by itself. -/
def literalValue? : Token → Option ProseValue
  | .quoted content => some (.text content)
  | .number value => some (.number value false)
  | .dice value => some (.dice value false)
  | _ => none

mutual

def scanChoice (finish : Place) (input : List Located) :
    Except ProseError (Expression × Fewer input) := do
  let (condition, afterCondition) ← scanSum finish input
  match _follows : afterCondition.1 with
  | ⟨.thenWord, place⟩ :: branch => do
      let (chosen, afterChosen) ← scanChoice finish branch
      match _divides : afterChosen.1 with
      | ⟨.elseWord, _⟩ :: branch' => do
          let (otherwise, rest) ← scanChoice finish branch'
          pure (.choose place condition chosen otherwise, ⟨rest.1, by
            have := rest.2; have := afterChosen.2; have := afterCondition.2
            simp_all; omega⟩)
      | left => throw (ProseFault.expectedElse.at (placeOfNext finish left))
  | _ => pure (condition, afterCondition)
termination_by 6 * input.length + 5
decreasing_by
  · omega
  · have := afterCondition.2; simp_all; omega
  · have := afterCondition.2; have := afterChosen.2; simp_all; omega

def scanSum (finish : Place) (input : List Located) :
    Except ProseError (Expression × Fewer input) := do
  let (first, afterFirst) ← scanProduct finish input
  let (sum, rest) ← scanSumAfter finish first afterFirst.1
  pure (sum, ⟨rest.1, Nat.lt_of_le_of_lt rest.2 afterFirst.2⟩)
termination_by 6 * input.length + 4
decreasing_by
  · omega
  · have := afterFirst.2; omega

def scanSumAfter (finish : Place) (left : Expression) (input : List Located) :
    Except ProseError (Expression × Remaining input) :=
  match input with
  | [] => .ok (left, ⟨[], Nat.le_refl _⟩)
  | ⟨token, place⟩ :: tail =>
      match sumOperator? token with
      | none => .ok (left, ⟨⟨token, place⟩ :: tail, Nat.le_refl _⟩)
      | some operator => do
          let (right, afterRight) ← scanProduct finish tail
          let (sum, rest) ← scanSumAfter finish (.binary place operator left right) afterRight.1
          pure (sum, ⟨rest.1, by
            have := rest.2; have := afterRight.2; simp; omega⟩)
termination_by 6 * input.length + 1
decreasing_by
  · simp; omega
  · have := afterRight.2; simp; omega

def scanProduct (finish : Place) (input : List Located) :
    Except ProseError (Expression × Fewer input) := do
  let (first, afterFirst) ← scanUnary finish input
  let (product, rest) ← scanProductAfter finish first afterFirst.1
  pure (product, ⟨rest.1, Nat.lt_of_le_of_lt rest.2 afterFirst.2⟩)
termination_by 6 * input.length + 3
decreasing_by
  · omega
  · have := afterFirst.2; omega

def scanProductAfter (finish : Place) (left : Expression) (input : List Located) :
    Except ProseError (Expression × Remaining input) :=
  match input with
  | [] => .ok (left, ⟨[], Nat.le_refl _⟩)
  | ⟨token, place⟩ :: tail =>
      match productOperator? token with
      | none => .ok (left, ⟨⟨token, place⟩ :: tail, Nat.le_refl _⟩)
      | some operator => do
          let (right, afterRight) ← scanUnary finish tail
          let (product, rest) ←
            scanProductAfter finish (.binary place operator left right) afterRight.1
          pure (product, ⟨rest.1, by
            have := rest.2; have := afterRight.2; simp; omega⟩)
termination_by 6 * input.length + 1
decreasing_by
  · simp; omega
  · have := afterRight.2; simp; omega

def scanUnary (finish : Place) (input : List Located) :
    Except ProseError (Expression × Fewer input) :=
  match input with
  | [] => .error (ProseFault.expectedExpression.at finish)
  | ⟨token, place⟩ :: tail =>
      match unaryOperator? token with
      | some operator => do
          let (operand, rest) ← scanUnary finish tail
          pure (.unary place operator operand, rest.afterOne)
      | none =>
          match literalValue? token with
          | some value => .ok (.literal place value, Fewer.tail tail)
          | none =>
              match token with
              | .name word => .ok (.reference place word, Fewer.tail tail)
              | .openParen => do
                  let (inner, afterInner) ← scanChoice finish tail
                  match _closes : afterInner.1 with
                  | ⟨.closeParen, _⟩ :: rest =>
                      pure (inner, ⟨rest, by have := afterInner.2; simp_all; omega⟩)
                  | left => throw (ProseFault.expectedParenthesis.at (placeOfNext finish left))
              | _ => .error (ProseFault.expectedExpression.at place)
termination_by 6 * input.length + 2
decreasing_by
  · simp
  · simp; omega

end

end Bestiary.Prose
