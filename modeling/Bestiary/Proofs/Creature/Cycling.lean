import Mathlib.Data.Finset.Max
import Mathlib.Tactic.IntervalCases
import Bestiary.Proofs.Creature.Settling

/-!
Whatever a creature resists, its ratings end in a cycle of at most three.

A pass does not see the rating itself, only the proficiency bonus and the hit
point multiplier that it stands for. Those divide the table into nine stages. A
higher stage raises the offense a little and lowers the defense somewhat more,
so all passes lead into four neighbouring stages, and a cycle through all four
of them would have to fall within one multiplier.
-/

namespace Bestiary

namespace Rating

/-! ### Stages -/

/-- The places at which the proficiency bonus or the hit point multiplier of the ratings changes. -/
def stageStarts : List Nat :=
  [0, 8, 12, 14, 16, 20, 24, 28, 32]

def firstOfStage (stage : Nat) : Rating :=
  lowest.shift (stageStarts.getD stage 0 : Nat)

def stage (rating : Rating) : Nat :=
  (stageStarts.tail.filter fun start => decide (start ≤ rating.place.val)).length

theorem stage_lt (rating : Rating) : rating.stage < 9 :=
  Nat.lt_succ_of_le (List.length_filter_le _ stageStarts.tail)

theorem firstOfStage_le_iff {stage : Nat} (inTable : stage < 9) (rating : Rating) :
    firstOfStage stage ≤ rating ↔ stage ≤ rating.stage := by
  have table : ∀ stage < 9, ∀ place : Fin challengeRows.length,
      (firstOfStage stage).place ≤ place ↔ stage ≤ Rating.stage ⟨place⟩ := by
    decide
  exact table stage inTable rating.place

theorem stage_firstOfStage {stage : Nat} (inTable : stage < 9) :
    (firstOfStage stage).stage = stage := by
  have table : ∀ stage < 9, (firstOfStage stage).stage = stage := by
    decide
  exact table stage inTable

theorem firstOfStage_mono {low high : Nat} (inTable : high < 9) (below : low ≤ high) :
    firstOfStage low ≤ firstOfStage high := by
  rw [firstOfStage_le_iff (lt_of_le_of_lt below inTable), stage_firstOfStage inTable]
  exact below

theorem proficiency_firstOfStage (rating : Rating) :
    (firstOfStage rating.stage).proficiency = rating.proficiency := by
  have table : ∀ place : Fin challengeRows.length,
      (firstOfStage (Rating.stage ⟨place⟩)).proficiency = Rating.proficiency ⟨place⟩ := by
    decide
  exact table rating.place

theorem stage_mono {first second : Rating} (above : first ≤ second) :
    first.stage ≤ second.stage := by
  have reached := (firstOfStage_le_iff first.stage_lt first).mpr (le_refl _)
  exact (firstOfStage_le_iff first.stage_lt second).mp (le_trans reached above)

/-- The number that is the middle between the lowest rating of a stage and the rating before it. -/
def stageMiddle (stage : Nat) : Rat :=
  (firstOfStage stage).value - 1 / 2

theorem le_stage_nearest_iff {stage : Nat} (notFirst : 1 ≤ stage) (inTable : stage < 9)
    (value : Rat) : stage ≤ (nearest value).stage ↔ stageMiddle stage ≤ value := by
  have table : ∀ stage < 9, 1 ≤ stage →
      ((firstOfStage stage).shift (-1)).place.val + 1 = (firstOfStage stage).place.val ∧
        (((firstOfStage stage).shift (-1)).value + (firstOfStage stage).value) / 2 =
          stageMiddle stage := by
    decide +kernel
  obtain ⟨next, middle⟩ := table stage inTable notFirst
  rw [← firstOfStage_le_iff inTable, le_nearest_iff value next, middle]

theorem stage_nearest_close {less more reach : Rat} {jump : Nat}
    (spread : ∀ stage < 9, 1 ≤ stage → stage + jump < 9 →
      stageMiddle stage + reach ≤ stageMiddle (stage + jump))
    (close : more ≤ less + reach) :
    (nearest more).stage ≤ (nearest less).stage + jump := by
  by_contra further
  have bound := (nearest more).stage_lt
  have behind : less < stageMiddle ((nearest less).stage + 1) := by
    rw [← not_le, ← le_stage_nearest_iff (by omega) (by omega)]
    omega
  have passed : stageMiddle ((nearest less).stage + 1 + jump) ≤ more := by
    rw [← le_stage_nearest_iff (by omega) (by omega)]
    omega
  have apart := spread ((nearest less).stage + 1) (by omega) (by omega) (by omega)
  linarith

theorem stage_nearest_next {less more : Rat} (close : more ≤ less + 2) :
    (nearest more).stage ≤ (nearest less).stage + 1 :=
  stage_nearest_close (by decide +kernel) close

theorem stage_nearest_third {less more : Rat} (close : more ≤ less + 6) :
    (nearest more).stage ≤ (nearest less).stage + 3 :=
  stage_nearest_close (by decide +kernel) close

/-- The hit point multipliers of the stages, told apart by a number. -/
def stageBands : List Nat :=
  [0, 1, 1, 2, 2, 3, 3, 3, 3]

theorem value_le_iff_of_band {first second : Rating}
    (same : stageBands.getD first.stage 0 = stageBands.getD second.stage 0) :
    (first.value ≤ 4 ↔ second.value ≤ 4) ∧ (first.value ≤ 10 ↔ second.value ≤ 10) ∧
      (first.value ≤ 16 ↔ second.value ≤ 16) := by
  have table : ∀ place : Fin challengeRows.length,
      let band := stageBands.getD (Rating.stage ⟨place⟩) 0
      (Rating.value ⟨place⟩ ≤ 4 ↔ band < 1) ∧ (Rating.value ⟨place⟩ ≤ 10 ↔ band < 2) ∧
        (Rating.value ⟨place⟩ ≤ 16 ↔ band < 3) := by
    decide
  obtain ⟨small, middling, large⟩ := table first.place
  obtain ⟨small', middling', large'⟩ := table second.place
  rw [same] at small middling large
  exact ⟨small.trans small'.symm, middling.trans middling'.symm, large.trans large'.symm⟩

/-! ### Iterating over the stages -/

/-- What is known of a step between the stages: where it leads from a higher stage is at most one
stage higher and three lower, and not lower under the same multiplier. -/
structure IsFeedback (step : Nat → Nat) : Prop where
  inTable : ∀ stage, step stage < 9
  next : ∀ {low high}, low < high → high < 9 → step high ≤ step low + 1
  third : ∀ {low high}, low < high → high < 9 → step low ≤ step high + 3
  banded : ∀ {low high}, low < high → high < 9 →
    stageBands.getD low 0 = stageBands.getD high 0 → step low ≤ step high

theorem IsFeedback.exists_window {step : Nat → Nat} (feedback : IsFeedback step) :
    ∃ start < 6, ∀ stage < 9, start ≤ step stage ∧ step stage < start + 4 := by
  obtain ⟨least, member, smallest⟩ :=
    Finset.exists_min_image (Finset.range 9) step ⟨0, by decide⟩
  rw [Finset.mem_range] at member
  have close : ∀ stage < 9, step least ≤ step stage ∧ step stage ≤ step least + 3 := by
    intro stage inTable
    refine ⟨smallest stage (Finset.mem_range.mpr inTable), ?_⟩
    rcases Nat.lt_trichotomy stage least with below | same | above
    · exact feedback.third below member
    · rw [same]
      exact Nat.le_add_right _ 3
    · have risen := feedback.next above inTable
      omega
  refine ⟨min (step least) 5, by omega, fun stage inTable => ?_⟩
  have near := close stage inTable
  have bound := feedback.inTable stage
  omega

/-- Where four neighbouring stages lead, by their offsets, as a step between the stages may lead
there. -/
def IsWindow (start : Nat) (images : List Nat) : Prop :=
  ∀ high < 4, ∀ low < high,
    images.getD high 0 ≤ images.getD low 0 + 1 ∧
      (stageBands.getD (start + low) 0 = stageBands.getD (start + high) 0 →
        images.getD low 0 ≤ images.getD high 0)

instance (start : Nat) (images : List Nat) : Decidable (IsWindow start images) :=
  inferInstanceAs (Decidable (∀ high < 4, ∀ low < high, _ ∧ _))

/-- Three steps from any of four stages lead into a cycle. It is not one of all four, since two of
any four neighbouring stages share a multiplier. -/
theorem IsWindow.recurs : ∀ (start : Fin 6) (first second third fourth : Fin 4),
    let step := fun each => [first.val, second.val, third.val, fourth.val].getD each 0
    IsWindow start.val [first.val, second.val, third.val, fourth.val] →
      ∀ offset < 4, ∃ length ∈ [2, 3], step^[3 + length] offset = step^[3] offset := by
  decide +kernel

theorem IsFeedback.recurs {step : Nat → Nat} (feedback : IsFeedback step) :
    ∃ length ∈ [2, 3], step^[4 + length] 0 = step^[4] 0 := by
  obtain ⟨start, early, window⟩ := feedback.exists_window
  have lands : ∀ offset < 4, step (start + offset) - start < 4 := by
    intro offset inWindow
    have reached := window (start + offset) (by omega)
    omega
  let images := [step start - start, step (start + 1) - start, step (start + 2) - start,
    step (start + 3) - start]
  have image : ∀ offset < 4, images.getD offset 0 = step (start + offset) - start := by
    intro offset inWindow
    interval_cases offset <;> rfl
  have isWindow : IsWindow start images := by
    intro high inWindow low below
    rw [image high inWindow, image low (by omega)]
    have risen := feedback.next (show start + low < start + high by omega) (by omega)
    have ordered := feedback.banded (show start + low < start + high by omega) (by omega)
    exact ⟨by omega, fun same => by have := ordered same; omega⟩
  -- The passes never leave the window, so the offsets in it stand for the stages.
  have follows : ∀ passes offset, offset < 4 →
      step^[passes] (start + offset) = start + (fun each => images.getD each 0)^[passes] offset := by
    intro passes
    induction passes with
    | zero => exact fun _ _ => rfl
    | succ passes ih =>
        intro offset inWindow
        have reached := window (start + offset) (by omega)
        have landed := lands offset inWindow
        rw [Function.iterate_succ_apply, Function.iterate_succ_apply, image offset inWindow,
          ← ih _ landed]
        congr 1
        omega
  have entry := window 0 (by decide)
  have enters : step 0 = start + (step 0 - start) := by omega
  obtain ⟨length, possible, returns⟩ :=
    IsWindow.recurs ⟨start, early⟩ ⟨_, lands 0 (by decide)⟩ ⟨_, lands 1 (by decide)⟩
      ⟨_, lands 2 (by decide)⟩ ⟨_, lands 3 (by decide)⟩ isWindow (step 0 - start) (by omega)
  refine ⟨length, possible, ?_⟩
  rw [show 4 + length = (3 + length) + 1 by omega, Function.iterate_succ_apply step (3 + length),
    Function.iterate_succ_apply step 3, enters, follows (3 + length) _ (by omega),
    follows 3 _ (by omega)]
  exact congrArg (start + ·) returns

end Rating

namespace Creature

variable (creature : Creature)

/-! ### The defense against an estimate -/

theorem hitPointMultiplier_congr {first second : Rat} (small : first ≤ 4 ↔ second ≤ 4)
    (middling : first ≤ 10 ↔ second ≤ 10) (large : first ≤ 16 ↔ second ≤ 16) :
    creature.hitPointMultiplier first = creature.hitPointMultiplier second := by
  simp only [hitPointMultiplier, small, middling, large]

theorem exists_hitPointMultiplier :
    (∀ estimate, creature.hitPointMultiplier estimate = 1) ∨
    (∀ estimate, creature.hitPointMultiplier estimate =
      if estimate ≤ 4 then 2 else if estimate ≤ 10 then 3 / 2
      else if estimate ≤ 16 then 5 / 4 else 1) ∨
    (∀ estimate, creature.hitPointMultiplier estimate =
      if estimate ≤ 4 then 2 else if estimate ≤ 10 then 2
      else if estimate ≤ 16 then 3 / 2 else 5 / 4) := by
  unfold hitPointMultiplier
  dsimp only
  cases creature.nonmagicalImmunity.isSome || decide (3 ≤ creature.immunities.length) with
  | true =>
      refine Or.inr (Or.inr fun estimate => ?_)
      rw [if_pos rfl]
      split_ifs <;> norm_num
  | false =>
      cases creature.nonmagicalResistance.isSome ||
          decide (3 ≤ creature.resistances.length) with
      | true =>
          refine Or.inr (Or.inl fun estimate => ?_)
          rw [if_neg Bool.false_ne_true, if_pos rfl]
          split_ifs <;> norm_num
      | false => exact Or.inl fun estimate => rfl

theorem hitPointMultiplier_bounds (estimate : Rat) :
    1 ≤ creature.hitPointMultiplier estimate ∧ creature.hitPointMultiplier estimate ≤ 2 := by
  rcases creature.exists_hitPointMultiplier with same | same | same <;> rw [same]
  · exact ⟨le_refl 1, one_le_two⟩
  · split_ifs <;> norm_num
  · split_ifs <;> norm_num

theorem hitPointMultiplier_anti {first second : Rat} (above : first ≤ second) :
    creature.hitPointMultiplier second ≤ creature.hitPointMultiplier first := by
  rcases creature.exists_hitPointMultiplier with same | same | same <;> rw [same, same]
  · split_ifs <;> linarith
  · split_ifs <;> linarith

theorem hitPoints_nonneg : 0 ≤ creature.hitPoints := by
  unfold hitPoints
  split
  · exact Int.natCast_nonneg _
  · exact le_trans (by decide) (le_max_right _ _)

theorem firstAllowing_double {less more : Rat} (close : more ≤ 2 * less) :
    (Rating.firstAllowing ChallengeRow.maxHitPoints more).place.val ≤
      (Rating.firstAllowing ChallengeRow.maxHitPoints less).place.val + 12 := by
  have bound := (Rating.firstAllowing ChallengeRow.maxHitPoints more).place_lt
  by_cases inTable :
      (Rating.firstAllowing ChallengeRow.maxHitPoints less).place.val + 12 < challengeRows.length
  · rcases Rating.firstAllowing_allows ChallengeRow.maxHitPoints less with last | allowed
    · rw [last] at inTable
      exact absurd inTable (by decide)
    · have doubled : (2 : Rat) *
          (Rating.firstAllowing ChallengeRow.maxHitPoints less).row.maxHitPoints ≤
            (Rating.row ⟨⟨_, inTable⟩⟩).maxHitPoints := by
        exact_mod_cast Rating.maxHitPoints_double _ ⟨⟨_, inTable⟩⟩ rfl
      have enough : more ≤ (Rating.row ⟨⟨_, inTable⟩⟩).maxHitPoints := by
        linarith
      exact Rating.le_iff.mp (Rating.firstAllowing_le enough)
  · have size : challengeRows.length = 34 := rfl
    omega

/-- A higher estimate lowers the defense, by at most twelve places. -/
theorem defensiveRating_falls {first second : Rat} (above : first ≤ second) :
    creature.defensiveRating second ≤ creature.defensiveRating first ∧
      (creature.defensiveRating first).place.val ≤
        (creature.defensiveRating second).place.val + 12 := by
  have points : (0 : Rat) ≤ creature.hitPoints := by
    exact_mod_cast creature.hitPoints_nonneg
  have less := creature.hitPointMultiplier_anti above
  have least := (creature.hitPointMultiplier_bounds second).1
  have most := (creature.hitPointMultiplier_bounds first).2
  have ordered := mul_le_mul_of_nonneg_left less points
  have close : (creature.hitPoints : Rat) * creature.hitPointMultiplier first ≤
      2 * (creature.hitPoints * creature.hitPointMultiplier second) := by
    rw [mul_left_comm]
    exact mul_le_mul_of_nonneg_left (by linarith) points
  have bases :=
    Rating.firstAllowing_mono ChallengeRow.maxHitPoints ordered
  have reach := firstAllowing_double close
  obtain ⟨falls, far⟩ := Rating.shift_armorClass creature.armorClass.1 bases
  refine ⟨falls, ?_⟩
  unfold defensiveRating
  dsimp only
  omega

/-! ### What a pass does to the stages -/

/-- A higher estimate leads to at most the next stage, and to at most three stages below. -/
theorem stage_refineRating {first second : Rating} (above : first ≤ second) :
    (creature.refineRating second).stage ≤ (creature.refineRating first).stage + 1 ∧
      (creature.refineRating first).stage ≤ (creature.refineRating second).stage + 3 := by
  obtain ⟨falls, low⟩ := creature.defensiveRating_falls (Rating.value_le_iff.mpr above)
  have bonuses := Rating.proficiency_mono above
  have least := (Rating.proficiency_bounds first).1
  have most := (Rating.proficiency_bounds second).2
  have rises := creature.offensiveRating_mono bonuses
  have high := creature.offensiveRating_rise bonuses (by omega)
  have defenseFalls := Rating.value_le_iff.mpr falls
  have offenseRises := Rating.value_le_iff.mpr rises
  have defenseClose := Rating.value_close falls
  have offenseClose := Rating.value_close rises
  have lowRat : ((creature.defensiveRating first.value).place.val : Rat) ≤
      (creature.defensiveRating second.value).place.val + 12 := by
    exact_mod_cast low
  have highRat : ((creature.offensiveRating second.proficiency).place.val : Rat) ≤
      (creature.offensiveRating first.proficiency).place.val + 4 := by
    exact_mod_cast high
  exact ⟨Rating.stage_nearest_next (by linarith), Rating.stage_nearest_third (by linarith)⟩

theorem refineRating_firstOfStage (rating : Rating) :
    creature.refineRating (Rating.firstOfStage rating.stage) = creature.refineRating rating := by
  have same : Rating.stageBands.getD (Rating.firstOfStage rating.stage).stage 0 =
      Rating.stageBands.getD rating.stage 0 := by
    rw [Rating.stage_firstOfStage rating.stage_lt]
  obtain ⟨small, middling, large⟩ := Rating.value_le_iff_of_band same
  exact creature.refineRating_eq (creature.hitPointMultiplier_congr small middling large)
    (Rating.proficiency_firstOfStage rating)

def refineStage (stage : Nat) : Nat :=
  (creature.refineRating (Rating.firstOfStage stage)).stage

theorem stage_iterate (passes : Nat) (rating : Rating) :
    (creature.refineRating^[passes] rating).stage =
      creature.refineStage^[passes] rating.stage := by
  induction passes with
  | zero => rfl
  | succ passes ih =>
      rw [Function.iterate_succ_apply', Function.iterate_succ_apply', ← ih, refineStage,
        refineRating_firstOfStage]

theorem refineStage_mono {low high : Nat} (below : low ≤ high) (inTable : high < 9)
    (same : Rating.stageBands.getD low 0 = Rating.stageBands.getD high 0) :
    creature.refineStage low ≤ creature.refineStage high := by
  rw [← Rating.stage_firstOfStage inTable,
    ← Rating.stage_firstOfStage (lt_of_le_of_lt below inTable)] at same
  obtain ⟨small, middling, large⟩ := Rating.value_le_iff_of_band same
  exact Rating.stage_mono
    (creature.refineRating_le (Rating.firstOfStage_mono inTable below)
      (creature.hitPointMultiplier_congr small middling large))

theorem refineStage_isFeedback : Rating.IsFeedback creature.refineStage where
  inTable := fun _ => Rating.stage_lt _
  next := fun below inTable =>
    (creature.stage_refineRating (Rating.firstOfStage_mono inTable (le_of_lt below))).1
  third := fun below inTable =>
    (creature.stage_refineRating (Rating.firstOfStage_mono inTable (le_of_lt below))).2
  banded := fun below inTable same =>
    creature.refineStage_mono (le_of_lt below) inTable same

/-! ### The cycle -/

/-- From the fifth pass on the ratings repeat, after two passes or after three. -/
theorem computeRating_recurs :
    ∃ length ∈ [2, 3], ∀ passes,
      creature.computeRating (passes + 5 + length) = creature.computeRating (passes + 5) := by
  obtain ⟨length, possible, same⟩ := creature.refineStage_isFeedback.recurs
  refine ⟨length, possible, fun passes => ?_⟩
  have stages : (creature.refineRating^[4 + length] .lowest).stage =
      (creature.refineRating^[4] .lowest).stage := by
    rw [stage_iterate, stage_iterate]
    exact same
  have returns : creature.refineRating^[5 + length] .lowest = creature.refineRating^[5] .lowest := by
    rw [show 5 + length = (4 + length) + 1 by omega, Function.iterate_succ_apply',
      Function.iterate_succ_apply' _ 4, ← refineRating_firstOfStage, stages,
      refineRating_firstOfStage]
  rw [computeRating_eq_iterate, computeRating_eq_iterate, Nat.add_assoc,
    Function.iterate_add_apply, Function.iterate_add_apply _ passes 5, returns]

/-- A chain that goes on upwards once it has gone upwards cannot come back to where it started,
unless it stays there. -/
theorem eq_of_closed_chain {α : Type} [PartialOrder α] {length : Nat} (chain : Nat → α)
    (keeps : ∀ link < length, chain link ≤ chain (link + 1) → chain (link + 1) ≤ chain (link + 2))
    (starts : chain 0 ≤ chain 1) (closes : chain (length + 1) = chain 0) : chain 1 = chain 0 := by
  have rises : ∀ link ≤ length, chain link ≤ chain (link + 1) := by
    intro link
    induction link with
    | zero => exact fun _ => starts
    | succ link ih => exact fun within => keeps link within (ih (Nat.le_of_lt within))
  have above : ∀ link ≤ length, chain 1 ≤ chain (link + 1) := by
    intro link
    induction link with
    | zero => exact fun _ => le_refl _
    | succ link ih =>
        exact fun within => le_trans (ih (Nat.le_of_lt within)) (rises (link + 1) within)
  exact le_antisymm (closes ▸ above length (le_refl _)) starts

/-- A cycle within one hit point multiplier is a single rating, since the passes are monotone
there. -/
theorem computeRating_settled_of_multiplier
    (same : ∀ passes, 8 ≤ passes → passes ≤ 16 →
      creature.hitPointMultiplier (creature.computeRating passes).value =
        creature.hitPointMultiplier (creature.computeRating 8).value) :
    creature.computeRating 9 = creature.computeRating 8 := by
  have alike : ∀ link ≤ 5,
      creature.hitPointMultiplier (creature.computeRating (8 + link)).value =
        creature.hitPointMultiplier (creature.computeRating (8 + (link + 1))).value := by
    intro link within
    rw [same (8 + link) (by omega) (by omega), same (8 + (link + 1)) (by omega) (by omega)]
  -- Six passes go around a cycle of two, and around one of three.
  have closes : creature.computeRating (8 + (5 + 1)) = creature.computeRating (8 + 0) := by
    obtain ⟨length, possible, returns⟩ := creature.computeRating_recurs
    simp only [List.mem_cons, List.not_mem_nil, or_false] at possible
    rcases possible with rfl | rfl
    · rw [← returns 3, ← returns 5, ← returns 7]
    · rw [← returns 3, ← returns 6]
  -- The way that the first of these passes moves, all of them move, and yet they come back.
  rcases le_total (creature.computeRating 8) (creature.computeRating 9) with up | down
  · refine eq_of_closed_chain (fun link => creature.computeRating (8 + link))
      (fun link within risen => ?_) up closes
    have further := creature.refineRating_le risen (alike link (Nat.le_of_lt within))
    rw [← computeRating_succ, ← computeRating_succ] at further
    exact further
  · refine eq_of_closed_chain (fun link => OrderDual.toDual (creature.computeRating (8 + link)))
      (fun link within fallen => ?_) down (congrArg OrderDual.toDual closes)
    have lower : creature.computeRating (8 + (link + 1)) ≤ creature.computeRating (8 + link) := fallen
    have further := creature.refineRating_le lower (alike link (Nat.le_of_lt within)).symm
    rw [← computeRating_succ, ← computeRating_succ] at further
    exact further

/-- After five passes the ratings are in a cycle of at most three; and the number of passes makes no
difference between eight and sixteen exactly if the hit point multiplier is the same after each. -/
theorem computeRating_cycles :
    ((∀ passes, creature.computeRating (passes + 5 + 2) = creature.computeRating (passes + 5)) ∨
      ∀ passes, creature.computeRating (passes + 5 + 3) = creature.computeRating (passes + 5)) ∧
    ((∀ first second, 8 ≤ first → first ≤ 16 → 8 ≤ second → second ≤ 16 →
        creature.computeRating first = creature.computeRating second) ↔
      ∀ passes, 8 ≤ passes → passes ≤ 16 →
        creature.hitPointMultiplier (creature.computeRating passes).value =
          creature.hitPointMultiplier (creature.computeRating 8).value) := by
  refine ⟨?_, ?_, ?_⟩
  · obtain ⟨length, possible, returns⟩ := creature.computeRating_recurs
    simp only [List.mem_cons, List.not_mem_nil, or_false] at possible
    rcases possible with rfl | rfl
    · exact Or.inl returns
    · exact Or.inr returns
  · intro agree passes enough most
    rw [agree passes 8 enough most (le_refl 8) (by decide)]
  · intro same first second enough _ sufficient _
    have settled := creature.computeRating_settled_of_multiplier same
    obtain ⟨more, rfl⟩ := Nat.exists_eq_add_of_le enough
    obtain ⟨further, rfl⟩ := Nat.exists_eq_add_of_le sufficient
    rw [creature.computeRating_settled settled, creature.computeRating_settled settled]

/-- A creature that resists ordinary weapons, with a rating that alternates between 5 and 4. -/
theorem computeRating_alternates :
    let creature : Creature :=
      { hitPointsOverride := some 70, armorClassOverride := some 14
        nonmagicalResistance := some .nonmagical
        actions :=
          [{ name := "Slam"
             form := .strike
              { armament := .natural { bonus := .fixed 5 }
                  (.fixedDamage
                    { amount := 30, damageType := .bludgeoning, bonus := .fixed 0 }) } }] }
    (creature.computeRating 8).value = 4 ∧ (creature.computeRating 9).value = 5 := by
  decide +kernel

end Creature

end Bestiary
