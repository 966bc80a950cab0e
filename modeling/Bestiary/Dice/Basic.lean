/-!
The dice that notation may name, dice expressions and their arithmetic.

An expression is a sum of dice terms and a constant. Each term carries an
exact rational factor, so negating, scaling and dividing lose nothing but the
fraction of the constant, which is rounded.
-/

namespace Bestiary.Number

def total {α : Type} [Add α] [OfNat α 0] (numbers : List α) : α :=
  numbers.foldr (· + ·) 0

def larger (first second : Rat) : Rat :=
  if first ≤ second then second else first

end Bestiary.Number

namespace Bestiary

/-- The dice of the game, by their number of faces. -/
inductive Die
  | d4
  | d6
  | d8
  | d10
  | d12
  | d20
  | d100
  deriving DecidableEq, Repr, Inhabited

namespace Die

def all : List Die := [d4, d6, d8, d10, d12, d20, d100]

def sides : Die → Nat
  | d4 => 4
  | d6 => 6
  | d8 => 8
  | d10 => 10
  | d12 => 12
  | d20 => 20
  | d100 => 100

def ofSides? (sides : Int) : Option Die :=
  all.find? fun die => (die.sides : Int) == sides

def average (die : Die) : Rat :=
  mkRat (die.sides + 1) 2

def flooredAverage (die : Die) : Nat :=
  (die.sides + 1) / 2

def render (die : Die) : String :=
  "d" ++ toString die.sides

theorem ofSides?_sides (die : Die) : ofSides? die.sides = some die := by
  cases die <;> rfl

end Die

/-- Some dice of one kind, their sum scaled by a factor. -/
structure DiceTerm where
  count : Int
  die : Die
  factor : Rat
  deriving DecidableEq, Repr, Inhabited

/-- A sum of dice terms and a constant. -/
structure Dice where
  terms : List DiceTerm
  addend : Int
  deriving DecidableEq, Repr, Inhabited

namespace DiceTerm

def average (term : DiceTerm) : Rat :=
  (term.count : Rat) * term.die.average * term.factor

def scale (factor : Rat) (term : DiceTerm) : DiceTerm :=
  { term with factor := term.factor * factor }

/-- Terms that differ at most in their count. -/
def sameKind (first second : DiceTerm) : Bool :=
  first.die == second.die && first.factor == second.factor

end DiceTerm

namespace Dice

def single (count : Int) (die : Die) (addend : Int) : Dice :=
  ⟨[⟨count, die, 1⟩], addend⟩

def average (dice : Dice) : Rat :=
  Number.total (dice.terms.map DiceTerm.average) + (dice.addend : Rat)

/-- The average to the nearest integer, halves rounding down. -/
def averageValue (dice : Dice) : Int :=
  (dice.average - mkRat 1 2).ceil

def isNegative (dice : Dice) : Bool :=
  match dice.terms with
  | [] => false
  | head :: _ => decide (head.factor < 0)

/-- Scale every term; the scaled constant is rounded down. -/
def multiply (factor : Rat) (dice : Dice) : Dice :=
  ⟨dice.terms.map (DiceTerm.scale factor), ((dice.addend : Rat) * factor).floor⟩

/-- Divide every term; the constant is rounded up or down. There is no quotient by zero. -/
def divide? (divisor : Int) (roundUp : Bool) (dice : Dice) : Option Dice :=
  if divisor = 0 then none
  else
    let factor : Rat := 1 / (divisor : Rat)
    let scaled := (dice.addend : Rat) * factor
    some ⟨dice.terms.map (DiceTerm.scale factor), if roundUp then scaled.ceil else scaled.floor⟩

def negate (dice : Dice) : Dice :=
  dice.multiply (-1)

def add (amount : Int) (dice : Dice) : Dice :=
  ⟨dice.terms, dice.addend + amount⟩

def subtract (amount : Int) (dice : Dice) : Dice :=
  ⟨dice.terms, dice.addend - amount⟩

/-- Add one term: it joins the first term of its kind, or stands last. -/
def absorb : List DiceTerm → DiceTerm → List DiceTerm
  | [], incoming => [incoming]
  | head :: rest, incoming =>
      if head.sameKind incoming then
        { head with count := head.count + incoming.count } :: rest
      else head :: absorb rest incoming

def addDice (dice other : Dice) : Dice :=
  ⟨other.terms.foldl absorb dice.terms, dice.addend + other.addend⟩

/-- Subtract another expression; dice taken away do not cancel dice that are there. -/
def subtractDice (dice other : Dice) : Dice :=
  dice.addDice other.negate

/-- Add more dice of the leading term's kind. -/
def withExtraDice (count : Int) (dice : Dice) : Dice :=
  match dice.terms with
  | [] => dice
  | head :: _ => dice.addDice ⟨[{ head with count := count }], 0⟩

end Dice

end Bestiary
