import Mathlib.Tactic.FieldSimp
import Mathlib.Tactic.Linarith
import Bestiary.Proofs.Dice.Average

/-!
The averages of products and quotients of dice.

The dice of a product or a quotient are scaled exactly, by their factors. Only
the constant is rounded, so the average is off by what that loses: less than
one, and nothing where the scaled constant is whole.
-/

namespace Bestiary.Dice

/-- An average that is below the exact one by less than one. -/
structure RoundedDown (exact rounded : Rat) : Prop where
  above : exact - 1 < rounded
  below : rounded ≤ exact

structure RoundedUp (exact rounded : Rat) : Prop where
  above : exact ≤ rounded
  below : rounded < exact + 1

/-- What the constant of scaled dice differs by from the scaled one is all that the average does. -/
theorem average_scaled (dice : Dice) (factor : Rat) (addend : Int) :
    average ⟨dice.terms.map (DiceTerm.scale factor), addend⟩ =
      factor * dice.average + (addend - (dice.addend : Rat) * factor) := by
  rw [average_eq, average_eq, averageOf_scale]
  ring

/-! ### Products -/

theorem multiply_rounded (dice : Dice) (factor : Rat) :
    RoundedDown (factor * dice.average) (dice.multiply factor).average := by
  have least := Rat.floor_le ((dice.addend : Rat) * factor)
  have most := Rat.lt_floor_add_one ((dice.addend : Rat) * factor)
  rw [Int.cast_add, Int.cast_one] at most
  rw [multiply, average_scaled]
  constructor <;> linarith

theorem multiply_exact {dice : Dice} {factor : Rat} {whole : Int}
    (isWhole : (dice.addend : Rat) * factor = whole) :
    (dice.multiply factor).average = factor * dice.average := by
  rw [multiply, average_scaled, isWhole, Rat.floor_intCast]
  ring

theorem average_multiply_integer (dice : Dice) (factor : Int) :
    (dice.multiply factor).average = factor * dice.average :=
  multiply_exact (Int.cast_mul dice.addend factor).symm

/-! ### Quotients -/

section Quotient

variable {divisor : Int}

theorem divide?_eq (nonzero : divisor ≠ 0) (roundUp : Bool) (dice : Dice) :
    dice.divide? divisor roundUp =
      some ⟨dice.terms.map (DiceTerm.scale (1 / divisor)),
        if roundUp then ((dice.addend : Rat) * (1 / divisor)).ceil
        else ((dice.addend : Rat) * (1 / divisor)).floor⟩ :=
  if_neg nonzero

theorem divide?_down (nonzero : divisor ≠ 0) (dice : Dice) :
    ∃ quotient, dice.divide? divisor false = some quotient ∧
      RoundedDown (dice.average / divisor) quotient.average := by
  refine ⟨_, divide?_eq nonzero false dice, ?_⟩
  have least := Rat.floor_le ((dice.addend : Rat) * (1 / divisor))
  have most := Rat.lt_floor_add_one ((dice.addend : Rat) * (1 / divisor))
  rw [Int.cast_add, Int.cast_one] at most
  rw [if_neg Bool.false_ne_true, average_scaled, one_div_mul_eq_div]
  constructor <;> linarith

theorem divide?_up (nonzero : divisor ≠ 0) (dice : Dice) :
    ∃ quotient, dice.divide? divisor true = some quotient ∧
      RoundedUp (dice.average / divisor) quotient.average := by
  refine ⟨_, divide?_eq nonzero true dice, ?_⟩
  have least : (dice.addend : Rat) * (1 / divisor) ≤ _ := Rat.le_ceil
  have most : _ < (dice.addend : Rat) * (1 / divisor) + 1 := Rat.ceil_lt
  rw [if_pos rfl, average_scaled, one_div_mul_eq_div]
  constructor <;> linarith

theorem divide?_whole (nonzero : divisor ≠ 0) {dice : Dice} {whole : Int}
    (isWhole : (dice.addend : Rat) / divisor = whole) (roundUp : Bool) :
    dice.divide? divisor roundUp =
      some ⟨dice.terms.map (DiceTerm.scale (1 / divisor)), whole⟩ := by
  rw [divide?_eq nonzero, mul_one_div, isWhole, Rat.floor_intCast, Rat.ceil_intCast, ite_self]

theorem divide?_exact (nonzero : divisor ≠ 0) {dice : Dice} {whole : Int}
    (isWhole : (dice.addend : Rat) / divisor = whole) (roundUp : Bool) :
    ∃ quotient, dice.divide? divisor roundUp = some quotient ∧
      quotient.average = dice.average / divisor := by
  refine ⟨_, divide?_whole nonzero isWhole roundUp, ?_⟩
  rw [average_scaled, mul_one_div, isWhole, one_div_mul_eq_div]
  ring

end Quotient

/-! ### Scaling there and back -/

theorem map_scale_inverse {factor inverse : Rat} (cancels : factor * inverse = 1)
    (terms : List DiceTerm) :
    (terms.map (DiceTerm.scale factor)).map (DiceTerm.scale inverse) = terms := by
  have restored (term : DiceTerm) : (term.scale factor).scale inverse = term := by
    simp only [DiceTerm.scale, mul_assoc, cancels, mul_one]
  rw [List.map_map]
  exact (List.map_congr_left fun term _ => restored term).trans (List.map_id' terms)

theorem multiply_integer (dice : Dice) (factor : Int) :
    dice.multiply factor =
      ⟨dice.terms.map (DiceTerm.scale factor), dice.addend * factor⟩ := by
  rw [multiply, ← Int.cast_mul, Rat.floor_intCast]

theorem divide?_multiply {divisor : Int} (nonzero : divisor ≠ 0) (roundUp : Bool) (dice : Dice) :
    (dice.multiply divisor).divide? divisor roundUp = some dice := by
  have divisible : (divisor : Rat) ≠ 0 := Int.cast_ne_zero.mpr nonzero
  have isWhole : (((dice.multiply divisor).addend : Int) : Rat) / divisor = dice.addend := by
    rw [multiply_integer, Int.cast_mul, mul_div_cancel_right₀ _ divisible]
  rw [divide?_whole nonzero isWhole, multiply_integer,
    map_scale_inverse (mul_one_div_cancel divisible)]

theorem negate_negate (dice : Dice) : dice.negate.negate = dice := by
  have negated (some : Dice) :
      some.negate = ⟨some.terms.map (DiceTerm.scale (-1)), -some.addend⟩ := by
    have product := some.multiply_integer (-1)
    rw [Int.cast_neg, Int.cast_one, mul_neg_one] at product
    exact product
  rw [negated, negated, map_scale_inverse (by norm_num), neg_neg]

/-- The arithmetic of dice in terms of their averages. Sums, differences and opposites have exactly
the average that they should have. Products and quotients have it but for the rounding of their
constant, and exactly so where that needs none. What was multiplied can be divided again. -/
theorem average_arithmetic (dice other : Dice) (factor : Rat) (amount divisor : Int)
    (nonzero : divisor ≠ 0) :
    ((dice.add amount).average = dice.average + amount ∧
      (dice.subtract amount).average = dice.average - amount ∧
      dice.negate.average = -dice.average ∧
      (dice.addDice other).average = dice.average + other.average ∧
      (dice.subtractDice other).average = dice.average - other.average) ∧
    (RoundedDown (factor * dice.average) (dice.multiply factor).average ∧
      ∀ whole : Int, (dice.addend : Rat) * factor = whole →
        (dice.multiply factor).average = factor * dice.average) ∧
    (∃ lower upper, dice.divide? divisor false = some lower ∧
      dice.divide? divisor true = some upper ∧
      RoundedDown (dice.average / divisor) lower.average ∧
      RoundedUp (dice.average / divisor) upper.average ∧
      ∀ whole : Int, (dice.addend : Rat) / divisor = whole →
        lower.average = dice.average / divisor ∧ upper.average = dice.average / divisor) ∧
    (∀ roundUp, (dice.multiply divisor).divide? divisor roundUp = some dice) ∧
    dice.negate.negate = dice := by
  refine ⟨?sums, ?products, ?quotients, ?inverse, dice.negate_negate⟩
  case sums =>
    exact ⟨dice.average_add amount, dice.average_subtract amount, dice.average_negate,
      dice.average_addDice other, dice.average_subtractDice other⟩
  case products =>
    exact ⟨dice.multiply_rounded factor, fun _ isWhole => multiply_exact isWhole⟩
  case quotients =>
    obtain ⟨lower, dividedDown, roundedDown⟩ := divide?_down nonzero dice
    obtain ⟨upper, dividedUp, roundedUp⟩ := divide?_up nonzero dice
    refine ⟨lower, upper, dividedDown, dividedUp, roundedDown, roundedUp, fun whole isWhole => ?_⟩
    obtain ⟨_, same, exactDown⟩ := divide?_exact nonzero isWhole false
    obtain ⟨_, same', exactUp⟩ := divide?_exact nonzero isWhole true
    obtain rfl := Option.some.inj (dividedDown.symm.trans same)
    obtain rfl := Option.some.inj (dividedUp.symm.trans same')
    exact ⟨exactDown, exactUp⟩
  case inverse =>
    exact fun roundUp => divide?_multiply nonzero roundUp dice

theorem average_arithmetic_half :
    let dice : Dice := ⟨[⟨2, .d6, 1⟩, ⟨1, .d4, -1⟩], -3⟩
    (-2 : Int) ≠ 0 ∧ dice.divide? (-2) false = some ⟨[⟨2, .d6, -1/2⟩, ⟨1, .d4, 1/2⟩], 1⟩ ∧
      dice.divide? (-2) true = some ⟨[⟨2, .d6, -1/2⟩, ⟨1, .d4, 1/2⟩], 2⟩ ∧
      ∃ lower upper, dice.divide? (-2) false = some lower ∧ dice.divide? (-2) true = some upper ∧
        RoundedDown (-3/4) lower.average ∧ RoundedUp (-3/4) upper.average := by
  intro dice
  have nonzero : (-2 : Int) ≠ 0 := by decide
  have average : dice.average / ((-2 : Int) : Rat) = -3/4 := by decide +kernel
  obtain ⟨_, _, ⟨lower, upper, down, up, roundedDown, roundedUp, _⟩, _⟩ :=
    average_arithmetic dice dice 1 0 (-2) nonzero
  rw [average] at roundedDown roundedUp
  exact ⟨nonzero, by decide +kernel, by decide +kernel, lower, upper, down, up, roundedDown,
    roundedUp⟩

end Bestiary.Dice
