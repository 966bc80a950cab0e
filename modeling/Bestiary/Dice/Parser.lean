import Bestiary.Dice.Basic
import Bestiary.Dice.Report
import Bestiary.Text.Case
import Bestiary.Text.Scan

/-!
Reading dice notation.

An expression is an optional minus, a term, and further terms each after a
plus or a minus. A term is a constant, some dice, or dice with a factor in
parentheses. Blanks may stand between these parts and nowhere else.
-/

namespace Bestiary

open Text

namespace Dice

abbrev DiceScan (α : Type) (input : List Char) := Scan DiceFault α input

def isSeparator (character : Char) : Bool :=
  character == 'd' || character == 'D'

def skipBlanks (input : List Char) : List Char :=
  input.dropWhile isBlank

theorem length_skipBlanks_le (input : List Char) :
    (skipBlanks input).length ≤ input.length :=
  (List.dropWhile_suffix isBlank).length_le

def scanNumeral (head : Char) (tail : List Char) : DiceScan Nat (head :: tail) :=
  let digits := head :: tail.takeWhile isDigit
  match numeralValue? digits with
  | none => .error ⟨.unreadableNumeral digits, head :: tail⟩
  | some value =>
      .ok (value, ⟨tail.dropWhile isDigit,
        Nat.lt_succ_of_le (List.dropWhile_suffix isDigit).length_le⟩)

/-- Read the faces after a separator, and make dice of them; `start` is where their term started. -/
def scanSides (count : Option Nat) (start : List Char) (input : List Char) :
    DiceScan DiceTerm input :=
  match input with
  | [] => .error ⟨.expectedSides, []⟩
  | head :: tail =>
      if isDigit head then do
        let (sides, rest) ← scanNumeral head tail
        let number := count.getD 1
        if number = 0 then throw ⟨.zeroCount, start⟩
        if countLimit < number then throw ⟨.countTooLarge, start⟩
        match Die.ofSides? sides with
        | none => throw ⟨.unknownFace sides, head :: tail⟩
        | some die => pure (⟨number, die, 1⟩, rest)
      else .error ⟨.expectedSides, head :: tail⟩

/-- The factor of dice in parentheses, before it is inverted for a quotient. -/
def scanFactorSize (input : List Char) : DiceScan Rat input :=
  match input with
  | [] => .error ⟨.expectedFactor, []⟩
  | head :: tail =>
      if isDigit head then do
        let (whole, afterWhole) ← scanNumeral head tail
        match slash : afterWhole.1 with
        | '/' :: second :: rest =>
            if isDigit second then do
              let (denominator, left) ← scanNumeral second rest
              if denominator = 0 then throw ⟨.zeroDenominator, left.1⟩
              pure (mkRat whole denominator, ⟨left.1, by
                have := left.2; have := afterWhole.2; simp_all; omega⟩)
            else throw ⟨.expectedDenominator, second :: rest⟩
        | ['/'] => throw ⟨.expectedDenominator, []⟩
        | _ => pure ((whole : Rat), afterWhole)
      else .error ⟨.expectedFactor, head :: tail⟩

def scanFactor (input : List Char) : DiceScan Rat input :=
  match input with
  | '-' :: tail => do
      let (size, rest) ← scanFactorSize tail
      pure (-size, ⟨rest.1, Nat.lt_succ_of_lt rest.2⟩)
  | other => scanFactorSize other

/-- How a factor is joined to its dice. -/
inductive FactorSign
  | times
  | over

def factorSign? : Char → Option FactorSign
  | '×' => some .times
  | '*' => some .times
  | '÷' => some .over
  | '/' => some .over
  | _ => none

def scanInnerDice (input : List Char) : DiceScan DiceTerm input :=
  match input with
  | [] => .error ⟨.expectedDice, []⟩
  | head :: tail =>
      if isDigit head then do
        let (count, afterCount) ← scanNumeral head tail
        match separator : afterCount.1 with
        | [] => throw ⟨.expectedSeparator, []⟩
        | second :: rest =>
            if isSeparator second then do
              let (term, left) ← scanSides (some count) (head :: tail) rest
              pure (term, ⟨left.1, by
                have := left.2; have := afterCount.2; simp_all; omega⟩)
            else throw ⟨.expectedSeparator, second :: rest⟩
      else if isSeparator head then do
        let (term, left) ← scanSides none (head :: tail) tail
        pure (term, ⟨left.1, Nat.lt_succ_of_lt left.2⟩)
      else .error ⟨.expectedDice, head :: tail⟩

def scanFactored (input : List Char) : DiceScan DiceTerm input := do
  let (term, afterDice) ← scanInnerDice (skipBlanks input)
  match sign : skipBlanks afterDice.1 with
  | [] => throw ⟨.expectedFactorSign, []⟩
  | joint :: tail =>
      match factorSign? joint with
      | none => throw ⟨.expectedFactorSign, joint :: tail⟩
      | some joining =>
          let (written, afterFactor) ← scanFactor (skipBlanks tail)
          let factor ← match joining with
            | .times => pure written
            | .over =>
                if written = 0 then throw ⟨.zeroDivisor, afterFactor.1⟩
                else pure (1 / written)
          match closing : skipBlanks afterFactor.1 with
          | ')' :: rest =>
              pure (term.scale factor, ⟨rest, by
                have := length_skipBlanks_le input; have := afterDice.2
                have := length_skipBlanks_le afterDice.1
                have := length_skipBlanks_le tail; have := afterFactor.2
                have := length_skipBlanks_le afterFactor.1
                simp_all; omega⟩)
          | left => throw ⟨.expectedClosing, left⟩

inductive Part
  | dice (term : DiceTerm)
  | constant (amount : Nat)
  deriving DecidableEq, Repr

/-- Read a term; `after` is the operator before it. -/
def scanTerm (after : Option Char) (input : List Char) : DiceScan Part input :=
  match input with
  | [] => .error ⟨.expectedTerm after, []⟩
  | '(' :: tail => do
      let (term, rest) ← scanFactored tail
      pure (.dice term, ⟨rest.1, Nat.lt_succ_of_lt rest.2⟩)
  | head :: tail =>
      if isDigit head then do
        let (count, afterCount) ← scanNumeral head tail
        match separator : afterCount.1 with
        | [] => pure (.constant count, afterCount)
        | second :: rest =>
            if isSeparator second then do
              let (term, left) ← scanSides (some count) (head :: tail) rest
              pure (.dice term, ⟨left.1, by
                have := left.2; have := afterCount.2; simp_all; omega⟩)
            else if isLetter second then throw ⟨.expectedSeparator, second :: rest⟩
            else pure (.constant count, afterCount)
      else if isSeparator head then do
        let (term, left) ← scanSides none (head :: tail) tail
        pure (.dice term, ⟨left.1, Nat.lt_succ_of_lt left.2⟩)
      else .error ⟨.expectedTerm after, head :: tail⟩

/-- An expression with one more part, added or taken away. -/
def addPart (dice : Dice) (negative : Bool) : Part → Dice
  | .dice term =>
      ⟨dice.terms ++ [term.scale (if negative then -1 else 1)], dice.addend⟩
  | .constant amount =>
      ⟨dice.terms, dice.addend + (if negative then -(amount : Int) else amount)⟩

def scanParts (dice : Dice) (input : List Char) : Except (Stop DiceFault) Dice :=
  match _sign : skipBlanks input with
  | [] => .ok dice
  | operator :: tail =>
      if operator == '+' || operator == '-' then do
        let (part, rest) ← scanTerm (some operator) (skipBlanks tail)
        scanParts (dice.addPart (operator == '-') part) rest.1
      else .error ⟨.expectedOperator operator, operator :: tail⟩
termination_by input.length
decreasing_by
  have := length_skipBlanks_le input
  have := length_skipBlanks_le tail
  have := rest.2
  simp_all; omega

def scan (input : List Char) : Except (Stop DiceFault) Dice := do
  let signed := skipBlanks input
  if signed.isEmpty then throw ⟨.emptyExpression, input⟩
  let (negative, first) : Bool × List Char :=
    match signed with
    | '-' :: rest => (true, skipBlanks rest)
    | rest => (false, rest)
  let (part, rest) ← scanTerm none first
  let dice ← scanParts (addPart ⟨[], 0⟩ negative part) rest.1
  if dice.terms.isEmpty then throw ⟨.noDice, input⟩
  pure dice

def ofText (text : String) : Except DiceError Dice :=
  (scan text.toList).mapError fun stop =>
    ⟨stop.fault, text, offsetOf text.toList stop.left⟩

end Dice

namespace Die

def ofText (text : String) : Except DiceError Die :=
  match (lower (trim text)).toList with
  | 'd' :: digits =>
      if digits.isEmpty || !digits.all isDigit then .error ⟨.expectedDie, text, 0⟩
      else
        match numeralValue? digits with
        | none => .error ⟨.unreadableNumeral digits, text, 1⟩
        | some sides =>
            match ofSides? sides with
            | none => .error ⟨.unknownFace sides, text, 1⟩
            | some die => .ok die
  | _ => .error ⟨.expectedDie, text, 0⟩

end Die

end Bestiary
