import Bestiary.Number.Binary64
import Bestiary.Rules.Wording
import Bestiary.Validation.Issue

/-!
Reading numbers, truth values, text and words of a vocabulary.

Reading is lenient where nothing is lost: a float without a fraction is an
integer, a numeral in text is a number, and zero and one are truth values.
-/

namespace Bestiary.Validation

open Document

namespace Reader

def integerIssue : Number.IntegerFault → IssueKind
  | .malformed => .intParsing
  | .tooLong => .intParsingSize

/-- The integer that a float is; it must be finite, without a fraction and of moderate size. -/
def integerOfFloat (number : Number.Binary64) : Except IssueKind Int :=
  match number.value? with
  | none => .error .finiteNumber
  | some value =>
      if value.den ≠ 1 then .error .intFromFloat
      else if Nat.pow 2 63 ≤ value.num.natAbs then .error .intParsingSize
      else .ok value.num

def int : Reader Int
  | .int number => .valid number
  | .bool truth => .valid (if truth then 1 else 0)
  | .float number =>
      match integerOfFloat number with
      | .ok value => .valid value
      | .error kind => .fail kind (.float number)
  | .text content =>
      match Number.integerOfText content with
      | .ok value => .valid value
      | .error fault => .fail (integerIssue fault) (.text content)
  | other => .fail .intType other

def float : Reader Number.Binary64
  | .float number => .valid number
  | .int number =>
      let nearest := Number.doubleOfInt number
      if nearest.value?.isSome then .valid nearest
      else .fail .floatType (.int number)
  | .bool truth => .valid (Number.doubleOfInt (if truth then 1 else 0))
  | .text content =>
      match Number.floatOfText? content with
      | some value => .valid value
      | none => .fail .floatParsing (.text content)
  | other => .fail .floatType other

def trueWords : List String := ["1", "true", "t", "yes", "y", "on"]

def falseWords : List String := ["0", "false", "f", "no", "n", "off"]

def lowerAscii (content : String) : String :=
  String.ofList (content.toList.map Char.toLower)

def truthOfInt (input : Value) (number : Int) : Checked Bool :=
  if number = 0 then .valid false
  else if number = 1 then .valid true
  else .fail .boolParsing input

def bool : Reader Bool
  | .bool truth => .valid truth
  | .int number =>
      if Nat.pow 2 63 ≤ number.natAbs then .fail .boolType (.int number)
      else truthOfInt (.int number) number
  | .float number =>
      match integerOfFloat number with
      | .ok value => truthOfInt (.float number) value
      | .error _ => .fail .boolType (.float number)
  | .text content =>
      let word := lowerAscii content
      if trueWords.contains word then .valid true
      else if falseWords.contains word then .valid false
      else .fail .boolParsing (.text content)
  | other => .fail .boolType other

def text : Reader String
  | .text content => .valid content
  | other => .fail .textType other

def someText : Reader String
  | .text content =>
      if content.isEmpty then .fail .textTooShort (.text content) else .valid content
  | other => .fail .textType other

def word (α : Type) [Vocabulary α] : Reader α
  | .text content =>
      match (Vocabulary.ofText? content : Option α) with
      | some member => .valid member
      | none => refuse (.text content)
  | other => refuse other
where
  refuse (input : Value) : Checked α :=
    .fail (.notMember ((Vocabulary.all : List α).map Vocabulary.word)) input

def intAtLeast (bound : Int) : Reader Int := fun input =>
  (int input).andThen fun number =>
    if number < bound then .fail (.below bound) input else .valid number

def intBetween (low high : Int) : Reader Int := fun input =>
  (int input).andThen fun number =>
    if high < number then .fail (.above high) input
    else if number < low then .fail (.below low) input
    else .valid number

/-- A number between two bounds, with the proof that it is. -/
def natBetween (low high : Nat) : Reader { number : Nat // low ≤ number ∧ number ≤ high } :=
  fun input =>
    (int input).andThen fun number =>
      if above : (high : Int) < number then .fail (.above high) input
      else if below : number < low then .fail (.below low) input
      else .valid ⟨number.toNat, by omega⟩

def natAtLeast (bound : Nat) : Reader Nat := fun input =>
  (intAtLeast bound input).map Int.toNat

def nat : Reader Nat :=
  natAtLeast 0

def positiveFloat : Reader Number.Binary64 := fun input =>
  (float input).andThen fun number =>
    if Number.doubleOfInt 0 < number then .valid number else .fail (.notAbove 0) input

end Reader

end Bestiary.Validation
