import Bestiary.Proofs.Creature.Field
import Bestiary.Proofs.Creature.Settling

/-!
A creature that is harder to kill never rates lower.

More hit points lead to a higher row of the table, but a higher row may expect
a higher armor class. It expects at most one point more for each place, so what
a creature loses by that is never more than what it has gained. From there on
each pass respects the order of the defensive ratings and that of the estimates,
and so do all passes together.
-/

namespace Bestiary.Creature

/-- The fields that pin the hit points and the armor class, with the words for it. -/
def pinnedFields : List Field :=
  [.hitPointsOverride, .armorClassOverride, .armorClassDescription]

variable {weak tough : Creature}

theorem AgreeOff.eq_pinned (alike : AgreeOff pinnedFields weak tough) :
    tough =
      { weak with
        hitPointsOverride := tough.hitPointsOverride
        armorClassOverride := tough.armorClassOverride
        armorClassDescription := tough.armorClassDescription } := by
  apply ext_content
  intro field
  by_cases pinned : field ∈ pinnedFields
  · simp only [pinnedFields, List.mem_cons, List.not_mem_nil, or_false] at pinned
    rcases pinned with rfl | rfl | rfl <;> rfl
  · rw [← alike field pinned]
    cases field <;> first | rfl | exact absurd (by decide) pinned

theorem AgreeOff.offensiveRating (alike : AgreeOff pinnedFields weak tough) (proficiency : Int) :
    tough.offensiveRating proficiency = weak.offensiveRating proficiency := by
  rw [alike.eq_pinned]
  rfl

theorem AgreeOff.lacksResilience (alike : AgreeOff pinnedFields weak tough)
    (lacks : weak.LacksResilience) : tough.LacksResilience := by
  rw [alike.eq_pinned]
  exact { lacks with }

/-! ### Hit points and armor class -/

theorem LacksResilience.defensiveRating_eq (lacks : weak.LacksResilience) (estimate : Rat) :
    weak.defensiveRating estimate =
      (Rating.firstAllowing ChallengeRow.maxHitPoints weak.hitPoints).shift
        (Rating.steps weak.armorClass.1
          (Rating.firstAllowing ChallengeRow.maxHitPoints weak.hitPoints).row.armorClass) := by
  rw [defensiveRating, lacks.multiplier, mul_one]

theorem LacksResilience.defensiveRating_le (lacks : weak.LacksResilience)
    (lacks' : tough.LacksResilience) (hitPoints : weak.hitPoints ≤ tough.hitPoints)
    (armorClass : weak.armorClass.1 ≤ tough.armorClass.1) (estimate : Rat) :
    weak.defensiveRating estimate ≤ tough.defensiveRating estimate := by
  rw [lacks.defensiveRating_eq, lacks'.defensiveRating_eq]
  have base :
      Rating.firstAllowing ChallengeRow.maxHitPoints weak.hitPoints ≤
        Rating.firstAllowing ChallengeRow.maxHitPoints tough.hitPoints :=
    Rating.firstAllowing_mono _ (Int.cast_le.mpr hitPoints)
  -- First the row of the tougher creature with the armor class of the other, then its own.
  refine le_trans (Rating.shift_armorClass weak.armorClass.1 base).1 (Rating.shift_mono ?_)
  have further := Rating.steps_mono
    (Rating.firstAllowing ChallengeRow.maxHitPoints tough.hitPoints).row.armorClass armorClass
  omega

/-! ### One pass and all passes -/

theorem refineRating_le_of_defense {estimate : Rating}
    (defense : weak.defensiveRating estimate.value ≤ tough.defensiveRating estimate.value)
    (offense : tough.offensiveRating estimate.proficiency =
      weak.offensiveRating estimate.proficiency) :
    weak.refineRating estimate ≤ tough.refineRating estimate := by
  have higher := Rating.value_le_iff.mpr defense
  unfold refineRating
  dsimp only
  rw [offense]
  apply Rating.nearest_mono
  linarith

theorem LacksResilience.computeRating_le (lacks : weak.LacksResilience)
    (alike : AgreeOff pinnedFields weak tough) (hitPoints : weak.hitPoints ≤ tough.hitPoints)
    (armorClass : weak.armorClass.1 ≤ tough.armorClass.1) (passes : Nat) :
    weak.computeRating passes ≤ tough.computeRating passes := by
  have pass : weak.refineRating ≤ tough.refineRating := fun estimate =>
    refineRating_le_of_defense
      (lacks.defensiveRating_le (alike.lacksResilience lacks) hitPoints armorClass estimate.value)
      (alike.offensiveRating estimate.proficiency)
  rw [computeRating_eq_iterate, computeRating_eq_iterate]
  exact lacks.refine_mono.iterate_le_of_le pass passes .lowest

/-! ### Pinned values -/

theorem AgreeOff.hitPoints_le (alike : AgreeOff pinnedFields weak tough)
    (points : Option.Rel (· ≤ ·) weak.hitPointsOverride tough.hitPointsOverride) :
    weak.hitPoints ≤ tough.hitPoints := by
  generalize pinned : weak.hitPointsOverride = least at points
  generalize pinned' : tough.hitPointsOverride = most at points
  cases points with
  | none =>
      rw [alike.eq_pinned]
      simp only [hitPoints, pinned, pinned']
      exact le_refl _
  | some above =>
      simp only [hitPoints, pinned, pinned']
      exact Int.ofNat_le.mpr above

theorem AgreeOff.armorClass_le (alike : AgreeOff pinnedFields weak tough)
    (value : Option.Rel (· ≤ ·) weak.armorClassOverride tough.armorClassOverride) :
    weak.armorClass.1 ≤ tough.armorClass.1 := by
  generalize pinned : weak.armorClassOverride = least at value
  generalize pinned' : tough.armorClassOverride = most at value
  cases value with
  | none =>
      rw [alike.eq_pinned]
      simp only [armorClass, pinned, pinned']
      exact le_refl _
  | some above =>
      simp only [armorClass, pinned, pinned']
      exact Int.ofNat_le.mpr above

/-- Where the hit point multiplier plays no part, and two creatures differ at most in their pinned
hit points and their pinned armor class, the one that has neither of them higher is not rated
higher, whatever the bound on the passes. -/
theorem computeRating_tougher (weak tough : Creature) (alike : AgreeOff pinnedFields weak tough)
    (noResistance : weak.nonmagicalResistance = none)
    (noImmunity : weak.nonmagicalImmunity = none)
    (fewResistances : weak.resistances.length < 3) (fewImmunities : weak.immunities.length < 3)
    (points : Option.Rel (· ≤ ·) weak.hitPointsOverride tough.hitPointsOverride)
    (value : Option.Rel (· ≤ ·) weak.armorClassOverride tough.armorClassOverride)
    (passes : Nat) :
    (weak.computeRating passes).value ≤ (tough.computeRating passes).value := by
  have lacks : weak.LacksResilience :=
    ⟨noResistance, noImmunity, fewResistances, fewImmunities⟩
  exact Rating.value_le_iff.mpr
    (lacks.computeRating_le alike (alike.hitPoints_le points) (alike.armorClass_le value) passes)

theorem computeRating_tougher_row :
    let weak : Creature :=
      { hitPointsOverride := some 115, armorClassOverride := some 15, scores := { strength := 20 }
        actions :=
          [{ name := "Greatclub"
             form := .strike { armament := .weapon .greatclub 0 none none, multiattack := 3 } }] }
    let tough : Creature := { weak with hitPointsOverride := some 116 }
    AgreeOff pinnedFields weak tough ∧ (weak.computeRating 8).value = 5 ∧
      (tough.computeRating 8).value = 5 ∧
      ∀ passes, (weak.computeRating passes).value ≤ (tough.computeRating passes).value := by
  intro weak tough
  have alike : AgreeOff pinnedFields weak tough := by
    intro field other
    cases field <;> first | rfl | exact absurd (by decide) other
  refine ⟨alike, by decide +kernel, by decide +kernel, ?_⟩
  exact computeRating_tougher weak tough alike rfl rfl (by decide) (by decide)
    (.some (by decide)) (.some (by decide))

end Bestiary.Creature
