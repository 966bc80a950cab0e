import Mathlib.Algebra.BigOperators.Group.List.Basic
import Mathlib.Data.List.Rotate
import Bestiary.Proofs.Creature.Settling

/-!
The order of attacks, and attacks that do equally much damage.

The damage of a round is a sum or a maximum, so it does not depend on the order
of the attacks. The accuracy is that of the first of the most damaging ones.
The order matters to the rating, then, exactly where some of those would lead
to different ratings, and it stays as it is as long as the same one is first.
-/

namespace Bestiary

variable {α β : Type} {measure : α → Rat} {items : List α} {best other : α}

/-! ### The first of the largest -/

/-- An item is larger than those before it, and at least as large as those after it. -/
inductive FirstLargest (measure : α → Rat) : List α → α → Prop
  | here {best : α} {after : List α} :
      (∀ item ∈ after, measure item ≤ measure best) →
      FirstLargest measure (best :: after) best
  | later {head best : α} {after : List α} :
      measure head < measure best →
      FirstLargest measure after best →
      FirstLargest measure (head :: after) best

structure IsLargest (measure : α → Rat) (items : List α) (best : α) : Prop where
  mem : best ∈ items
  bound : ∀ item ∈ items, measure item ≤ measure best

namespace FirstLargest

theorem isLargest (first : FirstLargest measure items best) : IsLargest measure items best := by
  induction first with
  | here bound =>
      exact ⟨List.mem_cons_self, List.forall_mem_cons.mpr ⟨le_rfl, bound⟩⟩
  | later smaller _ ih =>
      exact ⟨List.mem_cons_of_mem _ ih.mem, List.forall_mem_cons.mpr ⟨smaller.le, ih.bound⟩⟩

theorem unique (first : FirstLargest measure items best)
    (second : FirstLargest measure items other) : best = other := by
  induction first with
  | here bound =>
      cases second with
      | here _ => rfl
      | later smaller rest => exact absurd (bound other rest.isLargest.mem) smaller.not_ge
  | later smaller rest ih =>
      cases second with
      | here bound => exact absurd (bound _ rest.isLargest.mem) smaller.not_ge
      | later _ rest' => exact ih rest'

theorem map {measure' : β → Rat} (change : α → β)
    (same : ∀ item, measure' (change item) = measure item)
    (first : FirstLargest measure items best) :
    FirstLargest measure' (items.map change) (change best) := by
  induction first with
  | here bound =>
      refine .here (List.forall_mem_map.mpr fun item member => ?_)
      rw [same, same]
      exact bound item member
  | later smaller _ ih =>
      refine .later ?_ ih
      rw [same, same]
      exact smaller

theorem insert {head next : α} (first : FirstLargest measure (head :: items) best)
    (notLarger : measure next ≤ measure head) :
    FirstLargest measure (head :: next :: items) best := by
  cases first with
  | here bound => exact .here (List.forall_mem_cons.mpr ⟨notLarger, bound⟩)
  | later smaller rest => exact .later smaller (.later (notLarger.trans_lt smaller) rest)

end FirstLargest

theorem exists_firstLargest (measure : α → Rat) (some : items ≠ []) :
    ∃ best, FirstLargest measure items best := by
  induction items with
  | nil => exact absurd rfl some
  | cons head rest ih =>
      by_cases alone : rest = []
      · rw [alone]
        exact ⟨head, .here (List.forall_mem_nil _)⟩
      · obtain ⟨best, first⟩ := ih alone
        by_cases smaller : measure head < measure best
        · exact ⟨best, .later smaller first⟩
        · refine ⟨head, .here fun item member => ?_⟩
          exact (first.isLargest.bound item member).trans (not_lt.mp smaller)

/-! ### Ratings of attacks -/

namespace Creature

def damageTogether (attacks : List AttackProfile) : Rat :=
  Number.total (attacks.map fun profile => profile.damage * (profile.multiattack : Rat))

/-- The rating of some attacks if it has the accuracy of a certain one. -/
def ratingLedBy (attacks : List AttackProfile) (best : AttackProfile) : Rating :=
  let base := Rating.firstAllowing ChallengeRow.maxDamage
    (Number.larger best.damage (damageTogether attacks))
  let expected := if best.isSave then base.row.saveDC else base.row.attackBonus
  base.shift (Rating.steps best.accuracy expected)

theorem firstLargest_foldl (first : AttackProfile) (others : List AttackProfile) :
    FirstLargest AttackProfile.damage (first :: others) (others.foldl moreDamaging first) := by
  induction others generalizing first with
  | nil => exact .here (List.forall_mem_nil _)
  | cons next others ih =>
      rw [List.foldl_cons]
      by_cases more : first.damage < next.damage
      · rw [show moreDamaging first next = next from if_pos more]
        have leads := ih next
        exact .later (more.trans_le (leads.isLargest.bound next List.mem_cons_self)) leads
      · rw [show moreDamaging first next = first from if_neg more]
        exact (ih first).insert (not_lt.mp more)

theorem ratingOfAttacks_eq {attacks : List AttackProfile} {best : AttackProfile}
    (leads : FirstLargest AttackProfile.damage attacks best) :
    ratingOfAttacks attacks = ratingLedBy attacks best := by
  cases attacks with
  | nil => cases leads
  | cons first others =>
      rw [leads.unique (firstLargest_foldl first others)]
      rfl

theorem damageTogether_perm {attacks others : List AttackProfile} (reordered : attacks.Perm others) :
    damageTogether attacks = damageTogether others :=
  (reordered.map _).sum_eq

theorem ratingLedBy_perm {attacks others : List AttackProfile} (reordered : attacks.Perm others)
    (best : AttackProfile) : ratingLedBy attacks best = ratingLedBy others best := by
  rw [ratingLedBy, ratingLedBy, damageTogether_perm reordered]

/-! ### Creatures with their actions in another order -/

variable (creature : Creature)

def strikes : List Strike :=
  creature.actions.filterMap Action.strike?

def damageOf (strike : Strike) : Rat :=
  (creature.attackProfile 0 strike).damage

/-- The offense of a creature if it had the accuracy of a certain attack. -/
def offenseLedBy (proficiency : Int) (best : Strike) : Rating :=
  ratingLedBy (creature.attackProfiles proficiency) (creature.attackProfile proficiency best)

/-- Whether it makes no difference by which of the most damaging attacks a creature is rated. -/
def TiesAgree (proficiency : Int) : Prop :=
  ∀ best other, IsLargest creature.damageOf creature.strikes best →
    IsLargest creature.damageOf creature.strikes other →
    creature.offenseLedBy proficiency best = creature.offenseLedBy proficiency other

def withActions (actions : List Action) : Creature :=
  { creature with actions := actions }

variable {creature} {actions : List Action} {proficiency : Int}

theorem strikes_withActions : (creature.withActions actions).strikes =
    actions.filterMap Action.strike? :=
  rfl

theorem strikes_perm (reordered : actions.Perm creature.actions) :
    (creature.withActions actions).strikes.Perm creature.strikes :=
  reordered.filterMap Action.strike?

theorem isLargest_withActions (reordered : actions.Perm creature.actions) {best : Strike} :
    IsLargest creature.damageOf (creature.withActions actions).strikes best ↔
      IsLargest creature.damageOf creature.strikes best := by
  have same := strikes_perm reordered
  constructor
  · intro largest
    exact ⟨same.mem_iff.mp largest.mem, fun item member =>
      largest.bound item (same.mem_iff.mpr member)⟩
  · intro largest
    exact ⟨same.mem_iff.mpr largest.mem, fun item member =>
      largest.bound item (same.mem_iff.mp member)⟩

theorem offenseLedBy_withActions (reordered : actions.Perm creature.actions) (best : Strike) :
    (creature.withActions actions).offenseLedBy proficiency best =
      creature.offenseLedBy proficiency best :=
  ratingLedBy_perm ((strikes_perm reordered).map (creature.attackProfile proficiency)) _

theorem offensiveRating_eq {best : Strike}
    (leads : FirstLargest creature.damageOf creature.strikes best) (proficiency : Int) :
    creature.offensiveRating proficiency = creature.offenseLedBy proficiency best :=
  ratingOfAttacks_eq (leads.map (creature.attackProfile proficiency) fun _ => rfl)

/-- Each of the most damaging attacks decides the accuracy in some order of the actions. -/
theorem exists_order {best : Strike}
    (largest : IsLargest creature.damageOf creature.strikes best) :
    ∃ actions, actions.Perm creature.actions ∧ ∀ proficiency,
      (creature.withActions actions).offensiveRating proficiency =
        creature.offenseLedBy proficiency best := by
  obtain ⟨action, member, isStrike⟩ := List.mem_filterMap.mp largest.mem
  obtain ⟨before, after, actionsEq⟩ := List.append_of_mem member
  have reordered : (action :: (before ++ after)).Perm creature.actions := by
    rw [actionsEq]
    exact List.perm_middle.symm
  have largest := (isLargest_withActions reordered).mpr largest
  rw [strikes_withActions, List.filterMap_cons_some isStrike] at largest
  have leads : FirstLargest creature.damageOf
      (creature.withActions (action :: (before ++ after))).strikes best := by
    rw [strikes_withActions, List.filterMap_cons_some isStrike]
    exact .here fun item member => largest.bound item (List.mem_cons_of_mem best member)
  refine ⟨_, reordered, fun proficiency => ?_⟩
  rw [← offenseLedBy_withActions reordered]
  exact offensiveRating_eq leads proficiency

theorem offensiveRating_withActions (reordered : actions.Perm creature.actions)
    (agree : ∀ best other, FirstLargest creature.damageOf creature.strikes best →
      FirstLargest creature.damageOf (creature.withActions actions).strikes other →
      creature.offenseLedBy proficiency best = creature.offenseLedBy proficiency other) :
    (creature.withActions actions).offensiveRating proficiency =
      creature.offensiveRating proficiency := by
  have same := strikes_perm reordered
  by_cases none : creature.strikes = []
  · have none' : (creature.withActions actions).strikes = [] :=
      List.perm_nil.mp (none ▸ same)
    unfold offensiveRating attackProfiles
    rw [show creature.actions.filterMap Action.strike? = [] from none,
      show (creature.withActions actions).actions.filterMap Action.strike? = [] from none']
    rfl
  · have some : (creature.withActions actions).strikes ≠ [] :=
      fun none' => none (List.nil_perm.mp (none' ▸ same))
    obtain ⟨best, first⟩ := exists_firstLargest creature.damageOf none
    obtain ⟨other, first'⟩ := exists_firstLargest creature.damageOf some
    calc (creature.withActions actions).offensiveRating proficiency
        = (creature.withActions actions).offenseLedBy proficiency other :=
          offensiveRating_eq first' proficiency
      _ = creature.offenseLedBy proficiency other := offenseLedBy_withActions reordered other
      _ = creature.offenseLedBy proficiency best := (agree best other first first').symm
      _ = creature.offensiveRating proficiency := (offensiveRating_eq first proficiency).symm

/-- Actions count for the rating through the offense only. -/
theorem computeRating_withActions
    (same : ∀ rating : Rating, (creature.withActions actions).offensiveRating rating.proficiency =
      creature.offensiveRating rating.proficiency) (passes : Nat) :
    (creature.withActions actions).computeRating passes = creature.computeRating passes := by
  have refined : (creature.withActions actions).refineRating = creature.refineRating := by
    funext rating
    unfold refineRating
    rw [same]
    rfl
  rw [computeRating_eq_iterate, computeRating_eq_iterate, refined]

/-- What the order of the attacks changes. The offense at a proficiency bonus is the same for every
order of the actions exactly if the most damaging attacks lead to one rating there; if they do at
the bonus of every rating, so is the computed rating, for any number of passes. As long as the same
one of the most damaging attacks is the first of them, neither ever changes. -/
theorem ratings_of_reordered_actions (creature : Creature) :
    (∀ proficiency, creature.TiesAgree proficiency ↔
      ∀ actions : List Action, actions.Perm creature.actions →
        (creature.withActions actions).offensiveRating proficiency =
          creature.offensiveRating proficiency) ∧
    ((∀ rating : Rating, creature.TiesAgree rating.proficiency) →
      ∀ actions : List Action, actions.Perm creature.actions → ∀ passes,
        (creature.withActions actions).computeRating passes = creature.computeRating passes) ∧
    (∀ (actions : List Action) (best : Strike), actions.Perm creature.actions →
      FirstLargest creature.damageOf creature.strikes best →
      FirstLargest creature.damageOf (creature.withActions actions).strikes best →
        (∀ proficiency, (creature.withActions actions).offensiveRating proficiency =
          creature.offensiveRating proficiency) ∧
        ∀ passes,
          (creature.withActions actions).computeRating passes = creature.computeRating passes) := by
  have agreed {proficiency : Int} (agree : creature.TiesAgree proficiency) {actions : List Action}
      (reordered : actions.Perm creature.actions) :
      (creature.withActions actions).offensiveRating proficiency =
        creature.offensiveRating proficiency :=
    offensiveRating_withActions reordered fun best other first first' =>
      agree best other first.isLargest ((isLargest_withActions reordered).mp first'.isLargest)
  refine ⟨fun proficiency => ⟨fun agree actions reordered => agreed agree reordered, ?converse⟩,
    ?settled, ?kept⟩
  case converse =>
    intro same best other largest largest'
    obtain ⟨actions, reordered, ledByBest⟩ := exists_order largest
    obtain ⟨actions', reordered', ledByOther⟩ := exists_order largest'
    rw [← ledByBest, ← ledByOther, same actions reordered, same actions' reordered']
  case settled =>
    intro agree actions reordered
    exact computeRating_withActions fun rating => agreed (agree rating) reordered
  case kept =>
    intro actions best reordered first first'
    have offense (proficiency : Int) : (creature.withActions actions).offensiveRating proficiency =
        creature.offensiveRating proficiency := by
      refine offensiveRating_withActions reordered fun leader leader' leads leads' => ?_
      rw [leads.unique first, leads'.unique first']
    exact ⟨offense, computeRating_withActions fun rating => offense rating.proficiency⟩

def fixedAttack (name : String) (damage : Nat) (bonus : Int) : Action where
  name := name
  form := .strike
    { armament := .natural { bonus := .fixed bonus }
        (.fixedDamage { amount := damage, damageType := .piercing, bonus := .fixed 0 }) }

def tiedAttacks (clawBonus : Int) : Creature where
  actions := [fixedAttack "Bite" 50 3, fixedAttack "Claw" 50 clawBonus, fixedAttack "Tail" 10 3]

/-- A claw with nearly the bonus of the bite may change places with it. Next to one that hits much
better, the tail may still stand anywhere. -/
theorem ratings_of_reordered_actions_tied :
    let claw := tiedAttacks 4
    let better := tiedAttacks 13
    ((∀ rating : Rating, claw.TiesAgree rating.proficiency) ∧
      claw.actions.reverse.Perm claw.actions ∧
      ∀ passes, (claw.withActions claw.actions.reverse).computeRating passes =
        claw.computeRating passes) ∧
    ∃ bite, FirstLargest better.damageOf better.strikes bite ∧
      FirstLargest better.damageOf (better.withActions (better.actions.rotate 2)).strikes bite ∧
      ∀ passes, (better.withActions (better.actions.rotate 2)).computeRating passes =
        better.computeRating passes := by
  intro claw better
  have table : ∀ place : Fin challengeRows.length, ∀ best ∈ claw.strikes, ∀ other ∈ claw.strikes,
      claw.damageOf best = claw.damageOf other →
        claw.offenseLedBy (Rating.proficiency ⟨place⟩) best =
          claw.offenseLedBy (Rating.proficiency ⟨place⟩) other := by
    decide +kernel
  have agree (rating : Rating) : claw.TiesAgree rating.proficiency := by
    intro best other largest largest'
    exact table rating.place best largest.mem other largest'.mem
      (le_antisymm (largest'.bound best largest.mem) (largest.bound other largest'.mem))
  have reversed : claw.actions.reverse.Perm claw.actions := List.reverse_perm _
  have first : FirstLargest better.damageOf better.strikes _ := .here (by decide +kernel)
  have rotated : FirstLargest better.damageOf
      (better.withActions (better.actions.rotate 2)).strikes _ :=
    .later (by decide +kernel) (.here (by decide +kernel))
  obtain ⟨_, settled, _⟩ := ratings_of_reordered_actions claw
  obtain ⟨_, _, kept⟩ := ratings_of_reordered_actions better
  exact ⟨⟨agree, reversed, settled agree _ reversed⟩, _, first, rotated,
    (kept _ _ (List.rotate_perm _ 2) first rotated).2⟩

/-- The order of a bite and a claw that hits much better matters to the offense and to the
rating. -/
theorem rating_depends_on_order :
    ∃ actions : List Action, actions.Perm (tiedAttacks 13).actions ∧
      ((tiedAttacks 13).withActions actions).offensiveRating 2 ≠
        (tiedAttacks 13).offensiveRating 2 ∧
      ((tiedAttacks 13).withActions actions).computeRating 20 ≠
        (tiedAttacks 13).computeRating 20 := by
  refine ⟨(tiedAttacks 13).actions.reverse, List.reverse_perm _, ?_, ?_⟩ <;> decide +kernel

end Creature

end Bestiary
