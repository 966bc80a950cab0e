import Mathlib.Algebra.Order.Ring.Rat
import Mathlib.Tactic.Ring
import Bestiary.Dice.Basic

/-!
The exact averages of sums and differences of dice.

Dice that join a term of their kind are added to its count, which leaves the
sum of the averages as it is. Taking dice away scales them by minus one, and
nothing is rounded there, since the constant stays whole.
-/

namespace Bestiary

open Number

def averageOf (terms : List DiceTerm) : Rat :=
  total (terms.map DiceTerm.average)

@[simp] theorem averageOf_nil : averageOf [] = 0 :=
  rfl

@[simp] theorem averageOf_cons (head : DiceTerm) (rest : List DiceTerm) :
    averageOf (head :: rest) = head.average + averageOf rest :=
  rfl

theorem DiceTerm.average_scale (factor : Rat) (term : DiceTerm) :
    (term.scale factor).average = factor * term.average := by
  unfold DiceTerm.average DiceTerm.scale
  ring

theorem averageOf_scale (factor : Rat) (terms : List DiceTerm) :
    averageOf (terms.map (DiceTerm.scale factor)) = factor * averageOf terms := by
  induction terms with
  | nil =>
      rw [List.map_nil, averageOf_nil, mul_zero]
  | cons head rest ih =>
      rw [List.map_cons, averageOf_cons, averageOf_cons, ih, DiceTerm.average_scale]
      ring

namespace Dice

theorem average_eq (dice : Dice) : dice.average = averageOf dice.terms + dice.addend :=
  rfl

theorem average_add (dice : Dice) (amount : Int) :
    (dice.add amount).average = dice.average + amount := by
  simp only [average_eq, Dice.add, Int.cast_add]
  ring

theorem average_subtract (dice : Dice) (amount : Int) :
    (dice.subtract amount).average = dice.average - amount := by
  simp only [average_eq, Dice.subtract, Int.cast_sub]
  ring

theorem average_negate (dice : Dice) : dice.negate.average = -dice.average := by
  -- Scaling rounds the constant down, but a whole number stays one.
  have whole : ((dice.addend : Rat) * (-1)).floor = -dice.addend := by
    have opposite : (dice.addend : Rat) * (-1) = ((-dice.addend : Int) : Rat) := by
      rw [Int.cast_neg]
      ring
    rw [opposite, Rat.floor_intCast]
  rw [average_eq, average_eq, negate, multiply, averageOf_scale, whole, Int.cast_neg]
  ring

theorem averageOf_absorb (terms : List DiceTerm) (incoming : DiceTerm) :
    averageOf (absorb terms incoming) = averageOf terms + incoming.average := by
  induction terms with
  | nil =>
      rw [absorb, averageOf_cons, averageOf_nil]
      ring
  | cons head rest ih =>
      rw [absorb]
      split
      · next same =>
          simp only [DiceTerm.sameKind, Bool.and_eq_true, beq_iff_eq] at same
          simp only [averageOf_cons, DiceTerm.average, same.1, same.2, Int.cast_add]
          ring
      · rw [averageOf_cons, averageOf_cons, ih]
        ring

theorem average_addDice (dice other : Dice) :
    (dice.addDice other).average = dice.average + other.average := by
  have absorbed (incoming terms : List DiceTerm) :
      averageOf (incoming.foldl absorb terms) = averageOf terms + averageOf incoming := by
    induction incoming generalizing terms with
    | nil =>
        rw [List.foldl_nil, averageOf_nil]
        ring
    | cons first others ih =>
        rw [List.foldl_cons, ih, averageOf_absorb, averageOf_cons]
        ring
  simp only [average_eq, addDice, absorbed, Int.cast_add]
  ring

theorem average_subtractDice (dice other : Dice) :
    (dice.subtractDice other).average = dice.average - other.average := by
  rw [subtractDice, average_addDice, average_negate]
  ring

end Dice

end Bestiary
