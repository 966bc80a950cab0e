import Mathlib.Order.Iterate
import Bestiary.Proofs.Creature.Offense

/-!
Where resistances play no part, the rating of a creature settles.

As long as the hit point multiplier stays the same, a higher estimate leads to
a rating that is not lower. The ratings of the passes rise from the lowest one,
then, and every pass that changes the rating again must have been given a
higher proficiency bonus. There are eight of those.
-/

namespace Bestiary.Creature

variable (creature : Creature)

/-! ### The passes -/

theorem settleRating_eq_iterate (passes : Nat) (rating : Rating) :
    creature.settleRating passes rating = creature.refineRating^[passes] rating := by
  induction passes generalizing rating with
  | zero => rfl
  | succ passes ih =>
      rw [settleRating, Function.iterate_succ_apply]
      split
      · next settled => rw [settled, Function.iterate_fixed settled]
      · exact ih (creature.refineRating rating)

theorem computeRating_eq_iterate (passes : Nat) :
    creature.computeRating passes = creature.refineRating^[passes] .lowest :=
  creature.settleRating_eq_iterate passes .lowest

theorem computeRating_succ (passes : Nat) :
    creature.computeRating (passes + 1) = creature.refineRating (creature.computeRating passes) := by
  rw [computeRating_eq_iterate, computeRating_eq_iterate, Function.iterate_succ_apply']

theorem computeRating_settled {passes : Nat}
    (settled : creature.computeRating (passes + 1) = creature.computeRating passes) (more : Nat) :
    creature.computeRating (passes + more) = creature.computeRating passes := by
  rw [computeRating_succ] at settled
  rw [computeRating_eq_iterate, Nat.add_comm, Function.iterate_add_apply,
    ← computeRating_eq_iterate]
  exact Function.iterate_fixed settled more

/-! ### With one hit point multiplier -/

theorem refineRating_le {first second : Rating} (above : first ≤ second)
    (same : creature.hitPointMultiplier first.value = creature.hitPointMultiplier second.value) :
    creature.refineRating first ≤ creature.refineRating second := by
  have defense : creature.defensiveRating first.value = creature.defensiveRating second.value := by
    rw [defensiveRating, defensiveRating, same]
  have offense :=
    Rating.value_le_iff.mpr (creature.offensiveRating_mono (Rating.proficiency_mono above))
  unfold refineRating
  dsimp only
  rw [defense]
  apply Rating.nearest_mono
  linarith

/-- When nothing follows from two estimates but through the proficiency bonus, equal bonuses have
equal consequences. -/
theorem refineRating_eq {first second : Rating}
    (same : creature.hitPointMultiplier first.value = creature.hitPointMultiplier second.value)
    (equal : first.proficiency = second.proficiency) :
    creature.refineRating first = creature.refineRating second := by
  rw [refineRating, refineRating, defensiveRating, defensiveRating, same, equal]

/-- No damage is resisted or ignored to such an extent that it makes the creature last longer. -/
structure LacksResilience : Prop where
  noResistance : creature.nonmagicalResistance = none
  noImmunity : creature.nonmagicalImmunity = none
  fewResistances : creature.resistances.length < 3
  fewImmunities : creature.immunities.length < 3

variable {creature}

theorem LacksResilience.multiplier (lacks : creature.LacksResilience) (estimate : Rat) :
    creature.hitPointMultiplier estimate = 1 := by
  have notImmune :
      (creature.nonmagicalImmunity.isSome || decide (3 ≤ creature.immunities.length)) = false := by
    rw [lacks.noImmunity, decide_eq_false (Nat.not_le.mpr lacks.fewImmunities)]
    rfl
  have notResistant :
      (creature.nonmagicalResistance.isSome || decide (3 ≤ creature.resistances.length)) =
        false := by
    rw [lacks.noResistance, decide_eq_false (Nat.not_le.mpr lacks.fewResistances)]
    rfl
  unfold hitPointMultiplier
  dsimp only
  rw [notImmune, notResistant]
  rfl

theorem LacksResilience.refine_mono (lacks : creature.LacksResilience) :
    Monotone creature.refineRating := by
  intro first second above
  refine creature.refineRating_le above ?_
  rw [lacks.multiplier, lacks.multiplier]

theorem LacksResilience.rises (lacks : creature.LacksResilience) :
    Monotone creature.computeRating := by
  apply monotone_nat_of_le_succ
  intro passes
  rw [computeRating_eq_iterate, computeRating_eq_iterate]
  exact lacks.refine_mono.monotone_iterate_of_le_map (Rating.lowest_le _)
    (Nat.le_succ passes)

/-- Every pass that changes the rating once more was given a higher proficiency bonus than the one
before. -/
theorem LacksResilience.proficiency_rises (lacks : creature.LacksResilience) {passes : Nat}
    (moves : creature.computeRating (passes + 2) ≠ creature.computeRating (passes + 1)) :
    (creature.computeRating passes).proficiency <
      (creature.computeRating (passes + 1)).proficiency := by
  have above := Rating.proficiency_mono (lacks.rises (Nat.le_succ passes))
  refine lt_of_le_of_ne above fun equal => moves ?_
  rw [computeRating_succ, creature.computeRating_succ passes]
  refine (creature.refineRating_eq ?_ ?_).symm
  · rw [lacks.multiplier, lacks.multiplier]
  · rw [← computeRating_succ]
    exact equal

theorem LacksResilience.proficiency_counts (lacks : creature.LacksResilience) (passes : Nat)
    (moves : creature.computeRating (passes + 1) ≠ creature.computeRating passes) :
    (passes : Int) + 2 ≤ (creature.computeRating passes).proficiency := by
  -- A pass that moves comes after one that moved too, so each of them has raised the bonus by one.
  induction passes with
  | zero =>
      have least := (Rating.proficiency_bounds (creature.computeRating 0)).1
      omega
  | succ passes ih =>
      have before : creature.computeRating (passes + 1) ≠ creature.computeRating passes := by
        intro settled
        apply moves
        rw [computeRating_settled creature settled 1,
          computeRating_settled creature settled 2]
      have counted := ih before
      have risen := lacks.proficiency_rises moves
      omega

theorem LacksResilience.settles (lacks : creature.LacksResilience) :
    creature.computeRating 9 = creature.computeRating 8 := by
  by_contra moves
  have counted := lacks.proficiency_counts 8 moves
  have most := (Rating.proficiency_bounds (creature.computeRating 8)).2
  omega

/-- Where the hit point multiplier plays no part, eight passes reach a rating that follows from
itself, and the ratings of the passes never fall. -/
theorem computeRating_fixed (creature : Creature)
    (noResistance : creature.nonmagicalResistance = none)
    (noImmunity : creature.nonmagicalImmunity = none)
    (fewResistances : creature.resistances.length < 3)
    (fewImmunities : creature.immunities.length < 3) :
    (∀ passes, 8 ≤ passes →
      creature.computeRating passes =
        Rating.nearest
          (((creature.defensiveRating (creature.computeRating passes).value).value +
            (creature.offensiveRating (creature.computeRating passes).proficiency).value) / 2)) ∧
    ∀ passes,
      (creature.computeRating passes).value ≤ (creature.computeRating (passes + 1)).value := by
  have lacks : creature.LacksResilience :=
    ⟨noResistance, noImmunity, fewResistances, fewImmunities⟩
  constructor
  · intro passes enough
    obtain ⟨more, rfl⟩ := Nat.exists_eq_add_of_le enough
    have reached := computeRating_settled creature lacks.settles more
    rw [reached]
    exact lacks.settles.symm.trans (creature.computeRating_succ 8)
  · intro passes
    exact Rating.value_le_iff.mpr (lacks.rises (Nat.le_succ passes))

theorem computeRating_fixed_brawler :
    let creature : Creature :=
      { hitPointsOverride := some 150, resistances := [.fire, .cold]
        scores := { strength := 20 }
        actions :=
          [{ name := "Greatclub"
             form := .strike { armament := .weapon .greatclub 0 none none, multiattack := 6 } }] }
    (creature.computeRating 8).value = 7 ∧
    (∀ passes, 8 ≤ passes →
      creature.computeRating passes =
        Rating.nearest
          (((creature.defensiveRating (creature.computeRating passes).value).value +
            (creature.offensiveRating (creature.computeRating passes).proficiency).value) / 2)) ∧
    ∀ passes,
      (creature.computeRating passes).value ≤ (creature.computeRating (passes + 1)).value := by
  intro creature
  exact ⟨by decide +kernel, computeRating_fixed creature rfl rfl (by decide) (by decide)⟩

end Bestiary.Creature
