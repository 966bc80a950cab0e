import Bestiary.Dice.Parser

/-!
The grammar of dice notation.

Each form of notation is a relation between what is written and what it says.
A numeral, for one, is a text of digits and its value; a sum is a text and its
parts, and its parts say which dice it is.
-/

namespace Bestiary

open Text

namespace Dice

/-- A numeral: digits that have a value. -/
structure Numeral (written : List Char) (value : Nat) : Prop where
  nonempty : written ≠ []
  digits : ∀ character ∈ written, isDigit character = true
  known : numeralValue? written = some value

def Faces (written : List Char) (die : Die) : Prop :=
  ∃ sides : Nat, Numeral written sides ∧ Die.ofSides? sides = some die

/-- Dice of one kind, without a factor. -/
inductive PlainDice : List Char → DiceTerm → Prop
  | single {separator : Char} {faces : List Char} {die : Die} :
      isSeparator separator = true →
      Faces faces die →
      PlainDice (separator :: faces) ⟨1, die, 1⟩
  | several {separator : Char} {number faces : List Char} {count : Nat} {die : Die} :
      Numeral number count →
      1 ≤ count →
      count ≤ countLimit →
      isSeparator separator = true →
      Faces faces die →
      PlainDice (number ++ separator :: faces) ⟨count, die, 1⟩

/-- The size of a factor: an integer, or a fraction. -/
inductive Size : List Char → Rat → Prop
  | whole {written : List Char} {value : Nat} : Numeral written value → Size written value
  | fraction {upper lower : List Char} {numerator denominator : Nat} :
      Numeral upper numerator →
      Numeral lower denominator →
      denominator ≠ 0 →
      Size (upper ++ '/' :: lower) (mkRat numerator denominator)

/-- A factor as it is written, perhaps with a minus. -/
inductive Factor : List Char → Rat → Prop
  | positive {written : List Char} {size : Rat} : Size written size → Factor written size
  | negative {written : List Char} {size : Rat} : Size written size → Factor ('-' :: written) (-size)

/-- What a sign makes of the factor that is written after it. -/
inductive Joins : Char → Rat → Rat → Prop
  | product {sign : Char} {factor : Rat} : factorSign? sign = some .times → Joins sign factor factor
  | quotient {sign : Char} {divisor : Rat} :
      factorSign? sign = some .over →
      divisor ≠ 0 →
      Joins sign divisor (1 / divisor)

def Blanks (written : List Char) : Prop :=
  ∀ character ∈ written, isBlank character = true

/-- Dice with a factor, after their opening parenthesis. -/
inductive ScaledDice : List Char → DiceTerm → Prop
  | intro {first dice second third factor fourth : List Char} {sign : Char} {term : DiceTerm}
      {written joined : Rat} :
      Blanks first →
      PlainDice dice term →
      Blanks second →
      Joins sign written joined →
      Blanks third →
      Factor factor written →
      Blanks fourth →
      ScaledDice (first ++ (dice ++ (second ++ sign :: (third ++ (factor ++ (fourth ++ [')']))))))
        (term.scale joined)

inductive Term : List Char → Part → Prop
  | constant {written : List Char} {amount : Nat} :
      Numeral written amount → Term written (.constant amount)
  | plain {written : List Char} {term : DiceTerm} :
      PlainDice written term → Term written (.dice term)
  | scaled {written : List Char} {term : DiceTerm} :
      ScaledDice written term → Term ('(' :: written) (.dice term)

/-- The further parts of a sum; each is taken away (`true`) or added (`false`). -/
inductive Further : List Char → List (Bool × Part) → Prop
  | finish {blanks : List Char} : Blanks blanks → Further blanks []
  | next {before after written others : List Char} {operator : Char} {part : Part}
      {parts : List (Bool × Part)} :
      Blanks before →
      operator = '+' ∨ operator = '-' →
      Blanks after →
      Term written part →
      Further others parts →
      Further (before ++ operator :: (after ++ (written ++ others)))
        ((operator == '-', part) :: parts)

/-- A whole sum, perhaps with a minus before its first part. -/
inductive Sum : List Char → List (Bool × Part) → Prop
  | positive {before written others : List Char} {part : Part} {parts : List (Bool × Part)} :
      Blanks before →
      Term written part →
      Further others parts →
      Sum (before ++ (written ++ others)) ((false, part) :: parts)
  | negative {before after written others : List Char} {part : Part}
      {parts : List (Bool × Part)} :
      Blanks before →
      Blanks after →
      Term written part →
      Further others parts →
      Sum (before ++ '-' :: (after ++ (written ++ others))) ((true, part) :: parts)

/-! ### What a sum says -/

def signedTerm? : Bool × Part → Option DiceTerm
  | (negative, .dice term) => some (term.scale (if negative then -1 else 1))
  | (_, .constant _) => none

def signedAmount : Bool × Part → Int
  | (_, .dice _) => 0
  | (negative, .constant amount) => if negative then -(amount : Int) else amount

/-- What a sum says: its dice in their order, and all its constants together. -/
def ofParts (parts : List (Bool × Part)) : Dice :=
  ⟨parts.filterMap signedTerm?, parts.foldr (fun part sum => signedAmount part + sum) 0⟩

end Dice

end Bestiary
