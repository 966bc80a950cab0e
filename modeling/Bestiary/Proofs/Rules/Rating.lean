import Mathlib.Algebra.Order.Ring.Rat
import Mathlib.Order.Fin.Basic
import Mathlib.Tactic.Linarith
import Bestiary.Rules.Challenge

/-!
The order of the ratings.

Ratings are ordered by their place in the table, and so are their values. Each
way in which a rating is chosen respects that order: the first row that allows
for a value, the rating some places further on, and the rating that is nearest
to a number. How far each of them can move is stated beside it, since whether
a rating settles depends on that.
-/

namespace Bestiary.Rating

theorem place_injective : Function.Injective Rating.place := by
  intro first second same
  cases first
  cases second
  exact congrArg Rating.mk same

instance : LinearOrder Rating :=
  LinearOrder.lift' Rating.place place_injective

theorem le_iff {first second : Rating} :
    first ≤ second ↔ first.place.val ≤ second.place.val :=
  Iff.rfl

theorem lt_iff {first second : Rating} :
    first < second ↔ first.place.val < second.place.val := by
  rw [← not_le, ← not_le, le_iff]

theorem place_lt (rating : Rating) : rating.place.val < 34 :=
  rating.place.isLt

@[simp]
theorem lowest_le (rating : Rating) : lowest ≤ rating :=
  Nat.zero_le rating.place.val

@[simp]
theorem le_highest (rating : Rating) : rating ≤ highest :=
  Nat.le_of_lt_succ rating.place_lt

theorem mem_all (rating : Rating) : rating ∈ all :=
  List.mem_map.mpr ⟨rating.place, List.mem_finRange rating.place, rfl⟩

theorem all_ascending : all.Pairwise (· < ·) := by
  have places : (List.finRange challengeRows.length).Pairwise (· < ·) :=
    List.pairwise_lt_finRange _
  exact List.pairwise_map.mpr (places.imp fun below => lt_iff.mpr below)

/-! ### How the rows rise -/

def Rises (low high : Rating) : Prop :=
  low.value < high.value ∧ high.value ≤ low.value + 1 ∧
    low.row.armorClass ≤ high.row.armorClass ∧
    high.row.armorClass ≤ low.row.armorClass + 1 ∧
    low.proficiency ≤ high.proficiency

instance (low high : Rating) : Decidable (Rises low high) :=
  inferInstanceAs (Decidable (_ ∧ _))

theorem rows_rise : ∀ place : Fin 33, Rises ⟨place.castSucc⟩ ⟨place.succ⟩ := by
  decide +kernel

theorem value_strictMono : StrictMono value := by
  have ascending : StrictMono fun place : Fin 34 => value ⟨place⟩ :=
    Fin.strictMono_iff_lt_succ.mpr fun place => (rows_rise place).1
  intro first second below
  exact ascending (show first.place < second.place from lt_iff.mp below)

theorem value_le_iff {first second : Rating} :
    first.value ≤ second.value ↔ first ≤ second :=
  value_strictMono.le_iff_le

theorem value_lt_iff {first second : Rating} :
    first.value < second.value ↔ first < second :=
  value_strictMono.lt_iff_lt

theorem monotone_of_rows {α : Type} [Preorder α] {column : Rating → α}
    (rises : ∀ place : Fin 33, column ⟨place.castSucc⟩ ≤ column ⟨place.succ⟩) :
    Monotone column := by
  have ascending : Monotone fun place : Fin 34 => column ⟨place⟩ :=
    Fin.monotone_iff_le_succ.mpr rises
  intro first second below
  exact ascending (show first.place ≤ second.place from below)

theorem value_close {first second : Rating} (below : first ≤ second) :
    second.value ≤ first.value + (second.place.val - first.place.val) := by
  have rises : Monotone fun rating : Rating => (rating.place.val : Rat) - rating.value := by
    refine monotone_of_rows fun place => ?_
    have close := (rows_rise place).2.1
    push_cast [Fin.val_castSucc, Fin.val_succ]
    linarith
  have apart :
      (first.place.val : Rat) - first.value ≤ second.place.val - second.value :=
    rises below
  linarith

theorem armorClass_rise {first second : Rating} (below : first ≤ second) :
    first.row.armorClass ≤ second.row.armorClass ∧
      second.row.armorClass ≤
        first.row.armorClass + (second.place.val - first.place.val) := by
  have expected : Monotone fun rating : Rating => rating.row.armorClass :=
    monotone_of_rows fun place => (rows_rise place).2.2.1
  have slowly :
      Monotone fun rating : Rating => (rating.place.val : Int) - rating.row.armorClass := by
    refine monotone_of_rows fun place => ?_
    have close := (rows_rise place).2.2.2.1
    push_cast [Fin.val_castSucc, Fin.val_succ]
    linarith
  have close :
      (first.place.val : Int) - first.row.armorClass ≤
        second.place.val - second.row.armorClass :=
    slowly below
  exact ⟨expected below, by omega⟩

/-- Twelve places further on, the hit points have at least doubled. -/
theorem maxHitPoints_double (first second : Rating)
    (apart : first.place.val + 12 = second.place.val) :
    2 * first.row.maxHitPoints ≤ second.row.maxHitPoints := by
  have doubled : ∀ low : Fin 22,
      2 * (row ⟨low.castLE (by decide)⟩).maxHitPoints ≤
        (row ⟨(low.addNat 12).cast rfl⟩).maxHitPoints := by
    decide
  obtain ⟨⟨low, inTable⟩⟩ := first
  obtain ⟨⟨high, above⟩⟩ := second
  obtain rfl : low + 12 = high := apart
  have room : low + 12 < 34 := above
  exact doubled ⟨low, by omega⟩

theorem proficiency_mono {first second : Rating} (above : first ≤ second) :
    first.proficiency ≤ second.proficiency := by
  have rises : Monotone proficiency :=
    monotone_of_rows fun place => (rows_rise place).2.2.2.2
  exact rises above

theorem proficiency_bounds (rating : Rating) :
    2 ≤ rating.proficiency ∧ rating.proficiency ≤ 9 := by
  have ends : lowest.proficiency = 2 ∧ highest.proficiency = 9 := by
    decide
  rw [← ends.1, ← ends.2]
  exact ⟨proficiency_mono (lowest_le rating), proficiency_mono (le_highest rating)⟩

/-! ### The rating some places further on -/

theorem shift_place (rating : Rating) (places : Int) :
    ((rating.shift places).place.val : Int) = max 0 (min 33 (rating.place.val + places)) := by
  have size : challengeRows.length = 34 := rfl
  have last : (highest.place.val : Int) = 33 := rfl
  by_cases inside : ((rating.place.val : Int) + places).toNat < challengeRows.length
  · have within :
        (rating.shift places).place.val = ((rating.place.val : Int) + places).toNat :=
      congrArg (fun found : Rating => found.place.val) (dif_pos inside)
    omega
  · have beyond : rating.shift places = highest := dif_neg inside
    rw [beyond]
    omega

theorem shift_lowest : lowest.shift 0 = lowest :=
  rfl

theorem steps_bounds (actual expected : Int) :
    (expected ≤ actual →
      2 * steps actual expected ≤ actual - expected ∧
        actual - expected ≤ 2 * steps actual expected + 1) ∧
    (actual ≤ expected →
      actual - expected ≤ 2 * steps actual expected ∧
        2 * steps actual expected ≤ actual - expected + 1) := by
  unfold steps
  constructor
  · intro above
    rw [Int.tdiv_eq_ediv_of_nonneg (by omega)]
    omega
  · intro below
    obtain ⟨distance, same⟩ : ∃ distance, actual - expected = -distance :=
      ⟨expected - actual, by omega⟩
    rw [same, Int.neg_tdiv, Int.tdiv_eq_ediv_of_nonneg (by omega)]
    omega

theorem steps_mono {first second : Int} (expected : Int) (above : first ≤ second) :
    steps first expected ≤ steps second expected := by
  have lower := steps_bounds first expected
  have upper := steps_bounds second expected
  omega

theorem steps_rise {first second : Int} (expected : Int) (close : second ≤ first + 7) :
    steps second expected ≤ steps first expected + 4 := by
  have lower := steps_bounds first expected
  have upper := steps_bounds second expected
  omega

theorem steps_expected {expected more points : Int} (actual : Int)
    (above : expected ≤ more) (close : more ≤ expected + points) :
    steps actual more ≤ steps actual expected ∧
      steps actual expected ≤ steps actual more + points := by
  have lower := steps_bounds actual expected
  have upper := steps_bounds actual more
  omega

theorem shift_mono {first second : Rating} {few many : Int}
    (above : (first.place.val : Int) + few ≤ second.place.val + many) :
    first.shift few ≤ second.shift many := by
  have firstPlace := shift_place first few
  have secondPlace := shift_place second many
  rw [le_iff]
  omega

/-- Shifting does not move two ratings apart. -/
theorem shift_close {first second : Rating} {few many distance : Int} (room : 0 ≤ distance)
    (close : (second.place.val : Int) + many ≤ first.place.val + few + distance) :
    ((second.shift many).place.val : Int) ≤ (first.shift few).place.val + distance := by
  have firstPlace := shift_place first few
  have secondPlace := shift_place second many
  omega

/-- Correcting two ratings for the same armor class does not reverse them or move them apart. -/
theorem shift_armorClass {low high : Rating} (armorClass : Int) (below : low ≤ high) :
    low.shift (steps armorClass low.row.armorClass) ≤
        high.shift (steps armorClass high.row.armorClass) ∧
      ((high.shift (steps armorClass high.row.armorClass)).place.val : Int) ≤
        (low.shift (steps armorClass low.row.armorClass)).place.val +
          (high.place.val - low.place.val) := by
  have rise := armorClass_rise below
  have moved := steps_expected armorClass rise.1 rise.2
  have places := le_iff.mp below
  exact ⟨shift_mono (by omega), shift_close (by omega) (by omega)⟩

/-! ### The first row that allows for a value -/

section FirstAllowing

variable {limit : ChallengeRow → Int} {value : Rat}

theorem firstAllowing_le {rating : Rating} (allowed : value ≤ (limit rating.row : Rat)) :
    firstAllowing limit value ≤ rating := by
  unfold firstAllowing
  cases found : all.find? fun rating => decide (value ≤ (limit rating.row : Rat)) with
  | none =>
      have refused := List.find?_eq_none.mp found rating (mem_all rating)
      exact absurd (decide_eq_true allowed) refused
  | some first =>
      obtain ⟨_, earlier, later, split, refused⟩ := List.find?_eq_some_iff_append.mp found
      have ascending := all_ascending
      rw [split, List.pairwise_append, List.pairwise_cons] at ascending
      have member := mem_all rating
      rw [split, List.mem_append, List.mem_cons] at member
      rcases member with before | same | after
      · exact absurd allowed (by simpa using refused rating before)
      · exact le_of_eq same.symm
      · exact le_of_lt (ascending.2.1.1 rating after)

theorem firstAllowing_allows (limit : ChallengeRow → Int) (value : Rat) :
    firstAllowing limit value = highest ∨
      value ≤ (limit (firstAllowing limit value).row : Rat) := by
  unfold firstAllowing
  cases found : all.find? fun rating => decide (value ≤ (limit rating.row : Rat)) with
  | none => exact Or.inl rfl
  | some first =>
      have allowed := List.find?_some found
      exact Or.inr (of_decide_eq_true allowed)

theorem firstAllowing_mono (limit : ChallengeRow → Int) {less more : Rat} (above : less ≤ more) :
    firstAllowing limit less ≤ firstAllowing limit more := by
  rcases firstAllowing_allows limit more with last | allowed
  · rw [last]
    exact le_highest _
  · exact firstAllowing_le (le_trans above allowed)

end FirstAllowing

/-! ### The rating nearest to a number -/

theorem gap_eq_abs (first second : Rat) : gap first second = |second - first| := by
  unfold gap
  split
  · next ordered => exact (abs_of_nonneg (sub_nonneg.mpr ordered)).symm
  · next reversed =>
      rw [abs_of_neg (sub_neg.mpr (not_le.mp reversed)), neg_sub]

/-- A rating is taken before another if it is nearer to a number, or as near and not lower. -/
def Prefers (value : Rat) (taken other : Rating) : Prop :=
  gap taken.value value < gap other.value value ∨
    gap taken.value value = gap other.value value ∧ other ≤ taken

theorem Prefers.refl (value : Rat) (rating : Rating) : Prefers value rating rating :=
  Or.inr ⟨rfl, le_refl rating⟩

theorem Prefers.trans {value : Rat} {first second third : Rating}
    (before : Prefers value first second) (after : Prefers value second third) :
    Prefers value first third := by
  rcases before with nearer | ⟨same, below⟩
  · rcases after with further | ⟨level, _⟩
    · exact Or.inl (lt_trans nearer further)
    · exact Or.inl (lt_of_lt_of_eq nearer level)
  · rcases after with further | ⟨level, lower⟩
    · exact Or.inl (lt_of_eq_of_lt same further)
    · exact Or.inr ⟨same.trans level, le_trans lower below⟩

theorem Prefers.nearer_gap {value : Rat} {taken other : Rating}
    (prefers : Prefers value taken other) : gap taken.value value ≤ gap other.value value := by
  rcases prefers with nearer | ⟨same, _⟩
  · exact le_of_lt nearer
  · exact le_of_eq same

theorem Prefers.gap_lt {value : Rat} {taken other : Rating}
    (prefers : Prefers value taken other) (higher : taken < other) :
    gap taken.value value < gap other.value value := by
  rcases prefers with nearer | ⟨_, below⟩
  · exact nearer
  · exact absurd higher (not_lt.mpr below)

theorem nearer_prefers (value : Rat) {first second : Rating} (ordered : first ≤ second) :
    Prefers value (nearer value first second) first ∧
      Prefers value (nearer value first second) second := by
  unfold nearer
  split
  · next reached =>
      refine ⟨?_, Prefers.refl value second⟩
      rcases lt_or_eq_of_le reached with nearer | same
      · exact Or.inl nearer
      · exact Or.inr ⟨same, ordered⟩
  · next kept => exact ⟨Prefers.refl value first, Or.inl (not_le.mp kept)⟩

theorem nearer_mem (value : Rat) (first second : Rating) :
    nearer value first second = first ∨ nearer value first second = second := by
  unfold nearer
  split
  · exact Or.inr rfl
  · exact Or.inl rfl

theorem foldl_nearer_prefers (value : Rat) (ratings : List Rating) (first : Rating)
    (ascending : (first :: ratings).Pairwise (· ≤ ·)) :
    ∀ rating ∈ first :: ratings, Prefers value (ratings.foldl (nearer value) first) rating := by
  -- The best rating so far is below all that are left, so that a tie goes to the higher one.
  induction ratings generalizing first with
  | nil =>
      intro rating member
      rw [List.mem_singleton.mp member]
      exact Prefers.refl value first
  | cons second others ih =>
      rw [List.pairwise_cons, List.pairwise_cons] at ascending
      obtain ⟨firstBelow, secondBelow, othersAscending⟩ := ascending
      obtain ⟨overFirst, overSecond⟩ :=
        nearer_prefers value (firstBelow second (List.mem_cons_self ..))
      have bestBelow : ∀ rating ∈ others, nearer value first second ≤ rating := by
        intro rating among
        rcases nearer_mem value first second with same | same <;> rw [same]
        · exact firstBelow rating (List.mem_cons_of_mem _ among)
        · exact secondBelow rating among
      have found := ih _ (List.pairwise_cons.mpr ⟨bestBelow, othersAscending⟩)
      have overBest := found _ (List.mem_cons_self ..)
      intro rating member
      rw [List.foldl_cons]
      rcases List.mem_cons.mp member with atFirst | behind
      · rw [atFirst]
        exact overBest.trans overFirst
      · rcases List.mem_cons.mp behind with atSecond | among
        · rw [atSecond]
          exact overBest.trans overSecond
        · exact found rating (List.mem_cons_of_mem _ among)

theorem nearest_prefers (value : Rat) (rating : Rating) :
    Prefers value (nearest value) rating := by
  have ascending : (lowest :: all).Pairwise (· ≤ ·) :=
    List.pairwise_cons.mpr
      ⟨fun rating _ => lowest_le rating, all_ascending.imp le_of_lt⟩
  exact foldl_nearer_prefers value all lowest ascending rating
    (List.mem_cons_of_mem _ (mem_all rating))

/-- The nearest rating is at least some rating when a number has passed the middle between that and
the one before. -/
theorem le_nearest_iff {below above : Rating} (value : Rat)
    (next : below.place.val + 1 = above.place.val) :
    above ≤ nearest value ↔ (below.value + above.value) / 2 ≤ value := by
  have ordered : below < above := lt_iff.mpr (by omega)
  constructor
  · intro reached
    have further : above.value ≤ (nearest value).value := value_le_iff.mpr reached
    have apart : below.value < above.value := value_lt_iff.mpr ordered
    have close := (nearest_prefers value below).nearer_gap
    rw [gap_eq_abs, gap_eq_abs] at close
    rcases abs_cases (value - (nearest value).value) with ⟨same, _⟩ | ⟨same, _⟩ <;>
      rcases abs_cases (value - below.value) with ⟨other, _⟩ | ⟨other, _⟩ <;> linarith
  · intro passed
    by_contra short
    have missed : nearest value < above := not_le.mp short
    have behind : nearest value ≤ below := by
      rw [lt_iff] at missed
      rw [le_iff]
      omega
    have lower : (nearest value).value ≤ below.value := value_le_iff.mpr behind
    have apart : below.value < above.value := value_lt_iff.mpr ordered
    have close := (nearest_prefers value above).gap_lt missed
    rw [gap_eq_abs, gap_eq_abs] at close
    rcases abs_cases (value - (nearest value).value) with ⟨same, _⟩ | ⟨same, _⟩ <;>
      rcases abs_cases (value - above.value) with ⟨other, _⟩ | ⟨other, _⟩ <;> linarith

theorem nearest_mono {less more : Rat} (above : less ≤ more) : nearest less ≤ nearest more := by
  cases place : (nearest less).place.val with
  | zero =>
      rw [le_iff, place]
      exact Nat.zero_le _
  | succ before =>
      have bound := (nearest less).place_lt
      have next : (⟨⟨before, by omega⟩⟩ : Rating).place.val + 1 = (nearest less).place.val :=
        place.symm
      have passed := (le_nearest_iff less next).mp (le_refl _)
      exact (le_nearest_iff more next).mpr (le_trans passed above)

end Bestiary.Rating
