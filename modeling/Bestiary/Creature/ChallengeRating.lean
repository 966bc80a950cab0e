import Bestiary.Creature.Statistics

/-!
What a creature's attacks amount to, and the challenge rating that it has.

The rating is the average of a defensive and an offensive one, rounded to the
table. Attacks depend on the proficiency bonus and that on the rating, so the
computation is repeated until the rating settles.
-/

namespace Bestiary

/-- The bonus to hit, with the modifiers, proficiency and spell attack bonus of the attacker. -/
def Attack.toHit (attack : Attack) (modifiers : List (String × Int))
    (proficiency spellAttack : Int) : Int :=
  match attack.bonus with
  | .fixed amount => amount + attack.magic
  | .modifier .spell => spellAttack + attack.magic
  | .modifier source =>
      let modifier :=
        match source.modifierName? attack.usualVariable with
        | some name => (modifiers.lookup name).getD 0
        | none => 0
      modifier + proficiency + attack.magic

/-- What one attack action contributes to the rating. -/
structure AttackProfile where
  damage : Rat
  /-- The bonus to hit, or the difficulty of the saving throw. -/
  accuracy : Int
  isSave : Bool
  multiattack : Nat
  deriving DecidableEq, Repr

namespace Creature

def attackProfile (creature : Creature) (proficiency : Int) (strike : Strike) : AttackProfile :=
  let (attack, effect) := strike.armament.resolve creature.size
  let modifiers := creature.modifiers
  { damage := averageDamage effect strike.riders modifiers attack.usualVariable
    accuracy :=
      match effect with
      | .save save =>
          match save.dc with
          | some dc => dc
          | none => creature.spellSaveDC proficiency
      | _ => attack.toHit modifiers proficiency (creature.spellAttackBonus proficiency)
    isSave := effect.isSave
    multiattack := strike.multiattack }

def attackProfiles (creature : Creature) (proficiency : Int) : List AttackProfile :=
  (creature.actions.filterMap Action.strike?).map (creature.attackProfile proficiency)

def multiattackName (action : Action) : String :=
  Prose.escapeText (Text.lower ((action.weapon?.map Weapon.displayName).getD action.name))

/-- The actions that are part of a multiattack. -/
def multiattackParts (creature : Creature) : List Action :=
  creature.actions.filter fun action => decide (0 < action.multiattack)

def multiattackTotal (creature : Creature) : Nat :=
  Number.total (creature.multiattackParts.map Action.multiattack)

/-- The generated text of the multiattack; one attack is none. -/
def multiattackText? (creature : Creature) : Option String :=
  let parts := creature.multiattackParts
  let total := creature.multiattackTotal
  let opening := Prose.expressionMarkup "Subj" ++ " makes " ++ Wording.numberWord total ++ " "
  let clause (action : Action) : String :=
    Wording.numberWord action.multiattack ++ " with " ++ Prose.expressionMarkup "posspro" ++ " " ++
      multiattackName action
  if total < 2 then none
  else
    match parts with
    | [only] => some (opening ++ multiattackName only ++ " attacks.")
    | _ => some (opening ++ "attacks: " ++ Wording.andJoin (parts.map clause) ++ ".")

/-- How much longer a creature lasts for the damage that it resists; this matters less at higher
ratings. -/
def hitPointMultiplier (creature : Creature) (estimate : Rat) : Rat :=
  let immune := creature.nonmagicalImmunity.isSome || decide (3 ≤ creature.immunities.length)
  let resistant := creature.nonmagicalResistance.isSome || decide (3 ≤ creature.resistances.length)
  let (resistance, immunity) : Rat × Rat :=
    if estimate ≤ 4 then (2, 2)
    else if estimate ≤ 10 then (mkRat 3 2, 2)
    else if estimate ≤ 16 then (mkRat 5 4, mkRat 3 2)
    else (1, mkRat 5 4)
  if immune then immunity else if resistant then resistance else 1

def defensiveRating (creature : Creature) (estimate : Rat) : Rating :=
  let effective := (creature.hitPoints : Rat) * creature.hitPointMultiplier estimate
  let base := Rating.firstAllowing ChallengeRow.maxHitPoints effective
  base.shift (Rating.steps creature.armorClass.1 base.row.armorClass)

/-- The more damaging of two attacks; of two that are equal, the first. -/
def moreDamaging (first second : AttackProfile) : AttackProfile :=
  if first.damage < second.damage then second else first

def ratingOfAttacks : List AttackProfile → Rating
  | [] => .lowest
  | first :: others =>
      let best := others.foldl moreDamaging first
      let together :=
        Number.total
          ((first :: others).map fun profile => profile.damage * (profile.multiattack : Rat))
      let base := Rating.firstAllowing ChallengeRow.maxDamage (Number.larger best.damage together)
      let expected := if best.isSave then base.row.saveDC else base.row.attackBonus
      base.shift (Rating.steps best.accuracy expected)

def offensiveRating (creature : Creature) (proficiency : Int) : Rating :=
  ratingOfAttacks (creature.attackProfiles proficiency)

def refineRating (creature : Creature) (estimate : Rating) : Rating :=
  let defensive := creature.defensiveRating estimate.value
  let offensive := creature.offensiveRating estimate.proficiency
  Rating.nearest ((defensive.value + offensive.value) / 2)

/-- Refine a rating until it settles, at most so many times. -/
def settleRating (creature : Creature) : Nat → Rating → Rating
  | 0, rating => rating
  | passes + 1, rating =>
      let refined := creature.refineRating rating
      if refined = rating then rating else creature.settleRating passes refined

def computeRating (creature : Creature) (passes : Nat) : Rating :=
  creature.settleRating passes .lowest

end Creature

end Bestiary
