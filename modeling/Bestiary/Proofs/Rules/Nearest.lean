import Bestiary.Proofs.Rules.Rating

/-!
Rounding to the table.

The rating nearest to a number has the least distance from it, and of two at
the same distance it is the higher one. So each rating is nearest to itself,
and halfway between two neighbours the higher one begins, also where the table
is uneven.
-/

namespace Bestiary.Rating

theorem exists_rating {row : ChallengeRow} (member : row ∈ challengeRows) :
    ∃ rating : Rating, rating.row = row := by
  obtain ⟨place, same⟩ := List.get_of_mem member
  exact ⟨⟨place⟩, same⟩

theorem row_mem (rating : Rating) : rating.row ∈ challengeRows :=
  List.get_mem challengeRows rating.place

/-! ### Distances -/

theorem nearest_distance (value : Rat) (rating : Rating) :
    |(nearest value).value - value| ≤ |rating.value - value| := by
  have close := (nearest_prefers value rating).nearer_gap
  rwa [gap_eq_abs, gap_eq_abs, abs_sub_comm value, abs_sub_comm value] at close

theorem lt_nearest_of_distance {value : Rat} {rating : Rating}
    (level : |rating.value - value| = |(nearest value).value - value|)
    (other : rating ≠ nearest value) : rating < nearest value := by
  rcases nearest_prefers value rating with nearer | ⟨_, below⟩
  · rw [gap_eq_abs, gap_eq_abs, abs_sub_comm value, abs_sub_comm value, level] at nearer
    exact absurd nearer (lt_irrefl _)
  · exact lt_of_le_of_ne below other

theorem nearest_value (rating : Rating) : nearest rating.value = rating := by
  have close := nearest_distance rating.value rating
  rw [sub_self, abs_zero] at close
  exact value_strictMono.injective (sub_eq_zero.mp (abs_nonpos_iff.mp close))

/-! ### The ends of the table -/

theorem nearest_eq_lowest_iff (value : Rat) : nearest value = lowest ↔ value < 1 / 16 := by
  have middle : (lowest.value + eighth.value) / 2 = 1 / 16 := by decide +kernel
  have first : nearest value = lowest ↔ ¬eighth ≤ nearest value := by
    rw [le_iff, ← place_injective.eq_iff, Fin.ext_iff]
    change (nearest value).place.val = 0 ↔ ¬1 ≤ (nearest value).place.val
    omega
  have second : lowest.place.val + 1 = eighth.place.val := rfl
  rw [first, le_nearest_iff value second, middle, not_le]

theorem nearest_eq_highest_iff (value : Rat) : nearest value = highest ↔ 59 / 2 ≤ value := by
  let last : Rating := ⟨⟨32, by decide⟩⟩
  have middle : (last.value + highest.value) / 2 = 59 / 2 := by decide +kernel
  have top : nearest value = highest ↔ highest ≤ nearest value :=
    ⟨fun same => same.ge, fun above => le_antisymm (le_highest _) above⟩
  have next : last.place.val + 1 = highest.place.val := rfl
  rw [top, le_nearest_iff value next, middle]

/-! ### Rounding -/

/-- The nearest rating is true rounding. It is in the table; nothing in the table is nearer, and
what is as near is lower. So it is the identity on the table and monotone, and it gives the lowest
rating up to the middle of the first two, and the highest one from the middle of the last two on. -/
theorem nearest_rounds :
    (∀ value : Rat,
      (∃ row ∈ challengeRows, (nearest value).value = row.value) ∧
      ∀ row ∈ challengeRows,
        |(nearest value).value - value| ≤ |row.value - value| ∧
        (|row.value - value| = |(nearest value).value - value| →
          row.value ≠ (nearest value).value → row.value < (nearest value).value)) ∧
    (∀ row ∈ challengeRows, (nearest row.value).value = row.value) ∧
    (∀ less more : Rat, less ≤ more → (nearest less).value ≤ (nearest more).value) ∧
    (∀ value : Rat, value < 1 / 16 → (nearest value).value = 0) ∧
    ∀ value : Rat, 59 / 2 ≤ value → (nearest value).value = 30 := by
  refine ⟨fun value => ⟨⟨_, row_mem _, rfl⟩, ?closest⟩, ?identity, ?monotone, ?low, ?high⟩
  case closest =>
    intro row member
    obtain ⟨rating, rfl⟩ := exists_rating member
    refine ⟨nearest_distance value rating, fun level other => ?_⟩
    refine value_lt_iff.mpr (lt_nearest_of_distance level ?_)
    exact fun same => other (congrArg Rating.value same)
  case identity =>
    intro row member
    obtain ⟨rating, rfl⟩ := exists_rating member
    exact congrArg Rating.value (nearest_value rating)
  case monotone =>
    intro less more above
    exact value_le_iff.mpr (nearest_mono above)
  case low =>
    intro value below
    rw [(nearest_eq_lowest_iff value).mpr below]
    decide
  case high =>
    intro value above
    rw [(nearest_eq_highest_iff value).mpr above]
    decide

theorem nearest_rounds_half :
    let two : ChallengeRow := ⟨2, 450, 13, 100, 3, 20, 13⟩
    two ∈ challengeRows ∧ (nearest (5 / 2)).value = 3 ∧
      |two.value - 5 / 2| = |(nearest (5 / 2)).value - 5 / 2| ∧
      two.value < (nearest (5 / 2)).value ∧ (nearest two.value).value = two.value ∧
      (nearest (1 / 16)).value = mkRat 1 8 ∧ (nearest (1 / 17)).value = 0 ∧
      (nearest (1 / 16)).value ≤ (nearest (5 / 2)).value ∧ (nearest (59 / 2)).value = 30 := by
  intro two
  obtain ⟨closest, identity, monotone, low, high⟩ := nearest_rounds
  have member : two ∈ challengeRows := by decide
  have upper : (nearest (5 / 2)).value = 3 := by decide +kernel
  have level : |two.value - 5 / 2| = |(nearest (5 / 2)).value - 5 / 2| := by
    rw [upper]
    decide +kernel
  have other : two.value ≠ (nearest (5 / 2)).value := by
    rw [upper]
    decide
  exact ⟨member, upper, level, ((closest (5 / 2)).2 two member).2 level other,
    identity two member, by decide +kernel, low _ (by decide +kernel),
    monotone _ _ (by decide +kernel), high _ (by decide +kernel)⟩

end Bestiary.Rating
