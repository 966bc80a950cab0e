import Bestiary.Creature.ChallengeRating
import Bestiary.Proofs.Rules.Rating

/-!
The offense of a creature rises with its proficiency bonus.

The damage of an attack does not depend on the proficiency bonus, so neither
does the attack that a creature is rated by. Its accuracy rises with the bonus,
by no more than the bonus does.
-/

namespace Bestiary

def RisesWithin (points first second : Int) : Prop :=
  first ≤ second ∧ second ≤ first + points

namespace Creature

variable (creature : Creature) {first second : Int}

theorem spellAttackBonus_rises (above : first ≤ second) :
    RisesWithin (second - first) (creature.spellAttackBonus first)
      (creature.spellAttackBonus second) := by
  unfold spellAttackBonus RisesWithin
  cases creature.spellcasting.bind Spellcasting.attackBonus <|>
      creature.innateSpellcasting.bind InnateSpellcasting.attackBonus with
  | none => simp only [Option.getD_none]; omega
  | some given => simp only [Option.getD_some]; omega

theorem spellSaveDC_rises (above : first ≤ second) :
    RisesWithin (second - first) (creature.spellSaveDC first) (creature.spellSaveDC second) := by
  unfold spellSaveDC RisesWithin
  cases creature.spellcasting.bind Spellcasting.saveDC <|>
      creature.innateSpellcasting.bind InnateSpellcasting.saveDC with
  | none => simp only []; omega
  | some given => simp only []; omega

theorem toHit_rises (attack : Attack) (above : first ≤ second) :
    RisesWithin (second - first)
      (attack.toHit creature.modifiers first (creature.spellAttackBonus first))
      (attack.toHit creature.modifiers second (creature.spellAttackBonus second)) := by
  have spell := creature.spellAttackBonus_rises above
  unfold RisesWithin at spell ⊢
  unfold Attack.toHit
  dsimp only
  split <;> omega

theorem accuracy_rises (strike : Strike) (above : first ≤ second) :
    RisesWithin (second - first) (creature.attackProfile first strike).accuracy
      (creature.attackProfile second strike).accuracy := by
  have hit := creature.toHit_rises (strike.armament.resolve creature.size).1 above
  have save := creature.spellSaveDC_rises above
  unfold attackProfile
  simp only []
  split
  · split
    · exact ⟨le_refl _, by omega⟩
    · exact save
  · exact hit

/-- One of the attacks is the most damaging one whatever the proficiency bonus. -/
theorem exists_most_damaging (strike : Strike) (others : List Strike) :
    ∃ best : Strike, ∀ proficiency : Int,
      (others.map (creature.attackProfile proficiency)).foldl moreDamaging
          (creature.attackProfile proficiency strike) =
        creature.attackProfile proficiency best := by
  -- Damage does not depend on the proficiency bonus, so any one decides which attack is taken.
  induction others generalizing strike with
  | nil => exact ⟨strike, fun _ => rfl⟩
  | cons next others ih =>
      by_cases more : (creature.attackProfile 0 strike).damage < (creature.attackProfile 0 next).damage
      · obtain ⟨best, found⟩ := ih next
        refine ⟨best, fun proficiency => ?_⟩
        rw [List.map_cons, List.foldl_cons,
          show moreDamaging (creature.attackProfile proficiency strike)
            (creature.attackProfile proficiency next) =
              creature.attackProfile proficiency next from if_pos more]
        exact found proficiency
      · obtain ⟨best, found⟩ := ih strike
        refine ⟨best, fun proficiency => ?_⟩
        rw [List.map_cons, List.foldl_cons,
          show moreDamaging (creature.attackProfile proficiency strike)
            (creature.attackProfile proficiency next) =
              creature.attackProfile proficiency strike from if_neg more]
        exact found proficiency

/-- The offense is a rating for the damage, moved by the steps of an accuracy that rises with the
proficiency bonus. -/
theorem exists_offensive_base :
    ∃ (base : Rating) (expected : Int) (accuracy : Int → Int),
      (∀ first second, first ≤ second →
        RisesWithin (second - first) (accuracy first) (accuracy second)) ∧
      ∀ proficiency, creature.offensiveRating proficiency =
        base.shift (Rating.steps (accuracy proficiency) expected) := by
  unfold offensiveRating attackProfiles
  cases creature.actions.filterMap Action.strike? with
  | nil =>
      refine ⟨.lowest, 0, fun _ => 0, fun _ _ above => ⟨le_refl _, by dsimp only; omega⟩, fun _ => ?_⟩
      exact Rating.shift_lowest.symm
  | cons strike others =>
      obtain ⟨best, found⟩ := creature.exists_most_damaging strike others
      let base := Rating.firstAllowing ChallengeRow.maxDamage
        (Number.larger (creature.attackProfile 0 best).damage
          (Number.total ((strike :: others).map fun each =>
            (creature.attackProfile 0 each).damage * (each.multiattack : Rat))))
      refine ⟨base,
        if (creature.attackProfile 0 best).isSave then base.row.saveDC else base.row.attackBonus,
        fun proficiency => (creature.attackProfile proficiency best).accuracy,
        fun _ _ above => creature.accuracy_rises best above, fun proficiency => ?_⟩
      rw [List.map_cons, ratingOfAttacks]
      dsimp only
      rw [found proficiency, ← List.map_cons, List.map_map]
      rfl

theorem offensiveRating_mono (above : first ≤ second) :
    creature.offensiveRating first ≤ creature.offensiveRating second := by
  obtain ⟨base, expected, accuracy, rises, same⟩ := creature.exists_offensive_base
  rw [same, same]
  apply Rating.shift_mono
  have further := Rating.steps_mono expected (rises first second above).1
  omega

/-- Between the lowest and the highest proficiency bonus the offense rises by at most four
places. -/
theorem offensiveRating_rise (above : first ≤ second) (close : second ≤ first + 7) :
    (creature.offensiveRating second).place.val ≤ (creature.offensiveRating first).place.val + 4 := by
  obtain ⟨base, expected, accuracy, rises, same⟩ := creature.exists_offensive_base
  have accurate := (rises first second above).2
  have further := Rating.steps_rise expected (show accuracy second ≤ accuracy first + 7 by omega)
  rw [same, same]
  have moved :
      ((base.shift (Rating.steps (accuracy second) expected)).place.val : Int) ≤
        (base.shift (Rating.steps (accuracy first) expected)).place.val + 4 :=
    Rating.shift_close (by omega) (by omega)
  omega

end Creature

end Bestiary
