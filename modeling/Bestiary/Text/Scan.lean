/-!
Reading a text from left to right.

A scan that stops keeps the text that was left, so the place of a fault is
known without counting along the way. A scan that succeeds returns a rest
shorter than its input, which is what makes repeated scans end.
-/

namespace Bestiary.Text

/-- A fault and the text that was left when it was met. -/
structure Stop (Fault : Type) where
  fault : Fault
  left : List Char

abbrev Shorter (input : List Char) :=
  { rest : List Char // rest.length < input.length }

/-- The outcome of reading something from the front of a text. -/
abbrev Scan (Fault : Type) (α : Type) (input : List Char) :=
  Except (Stop Fault) (α × Shorter input)

/-- The number of characters of a text that come before what is left of it. -/
def offsetOf (input left : List Char) : Nat :=
  input.length - left.length

/-- A place in a text, both numbers counted from one. -/
structure Place where
  line : Nat
  column : Nat
  deriving DecidableEq, Repr, Inhabited

namespace Place

def start : Place := ⟨1, 1⟩

def next (place : Place) (character : Char) : Place :=
  if character = '\n' then ⟨place.line + 1, 1⟩ else ⟨place.line, place.column + 1⟩

def advance (place : Place) (passed : List Char) : Place :=
  passed.foldl next place

end Place

def placeOf (input left : List Char) : Place :=
  Place.start.advance (input.take (offsetOf input left))

end Bestiary.Text
