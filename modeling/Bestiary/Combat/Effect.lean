import Bestiary.Combat.Attack
import Bestiary.Dice.Printer
import Bestiary.Prose.Token
import Bestiary.Rules.Damage

/-!
What a hit does: its main effect, and the riders that follow it.
-/

namespace Bestiary

structure RolledDamage where
  dice : Dice
  damageType : DamageType
  bonus : Bonus := .modifier .usual
  deriving DecidableEq, Repr, Inhabited

structure FixedDamage where
  amount : Nat
  damageType : DamageType
  bonus : Bonus := .modifier .usual
  deriving DecidableEq, Repr, Inhabited

structure AlternativeDamage where
  dice : Dice
  damageType : DamageType
  alternateDice : Dice
  /-- The type of the alternative damage, if it is another one. -/
  alternateType : Option DamageType := none
  condition : String
  bonus : Bonus := .modifier .usual
  deriving DecidableEq, Repr, Inhabited

/-- Damage that a saving throw avoids or halves. -/
structure SaveDamage where
  ability : Ability
  dice : Dice
  damageType : DamageType
  /-- The difficulty, if it is not the creature's own for spells. -/
  dc : Option Nat := none
  bonus : Bonus := .modifier .none
  half : Bool := true
  area : Bool := false
  deriving DecidableEq, Repr, Inhabited

inductive Effect
  | damage (damage : RolledDamage)
  | fixedDamage (damage : FixedDamage)
  | special (text : String)
  | alternative (damage : AlternativeDamage)
  | save (damage : SaveDamage)
  deriving DecidableEq, Repr, Inhabited

inductive DamageBase
  | dice (dice : Dice)
  | amount (amount : Nat)
  deriving DecidableEq, Repr

def DamageBase.average : DamageBase → Rat
  | dice rolled => rolled.average
  | amount flat => (flat : Rat)

namespace Effect

def damageText (base usualVariable : String) (bonus : Bonus) (damageType : DamageType) : String :=
  Prose.expressionMarkup (bonus.addTo base usualVariable) ++ " " ++ damageType.word ++ " damage"

def saveText (usualVariable : String) (save : SaveDamage) : String :=
  let subject := if save.area then "Each target in the area" else "The target"
  let difficulty :=
    match save.dc with
    | some dc => Number.showInt dc
    | none => Prose.expressionMarkup "spell_dc"
  subject ++ " must make a DC " ++ difficulty ++ " " ++ save.ability.fullName ++
    " saving throw, taking " ++
    damageText save.dice.render usualVariable save.bonus save.damageType ++
    " on a failed save" ++
    (if save.half then ", or half as much damage on a successful one" else "")

def describe (usualVariable : String) : Effect → String
  | damage rolled =>
      damageText rolled.dice.render usualVariable rolled.bonus rolled.damageType
  | fixedDamage flat =>
      damageText (Number.showInt flat.amount) usualVariable flat.bonus flat.damageType
  | special text => text
  | alternative rolled =>
      damageText rolled.dice.render usualVariable rolled.bonus rolled.damageType ++ ", or " ++
        damageText rolled.alternateDice.render usualVariable rolled.bonus
          (rolled.alternateType.getD rolled.damageType) ++ " " ++ rolled.condition
  | save rolled => saveText usualVariable rolled

def isWritable : Effect → Bool
  | damage rolled => rolled.dice.isWritable
  | fixedDamage flat => Number.isWritable flat.amount
  | special _ => true
  | alternative rolled => rolled.dice.isWritable && rolled.alternateDice.isWritable
  | save rolled => rolled.dice.isWritable

/-- The damage that an effect usually deals: what it starts from and its bonus. -/
def damagePart? : Effect → Option (DamageBase × Bonus)
  | damage rolled => some (.dice rolled.dice, rolled.bonus)
  | fixedDamage flat => some (.amount flat.amount, flat.bonus)
  | special _ => none
  | alternative rolled => some (.dice rolled.dice, rolled.bonus)
  | save rolled => some (.dice rolled.dice, rolled.bonus)

/-- The average damage of an effect, never below zero. -/
def averageDamage (modifiers : List (String × Int)) (usualVariable : String) (effect : Effect) :
    Rat :=
  match effect.damagePart? with
  | none => 0
  | some (base, bonus) =>
      Number.larger (base.average + (bonus.damageValue modifiers usualVariable : Rat)) 0

def isSave : Effect → Bool
  | save _ => true
  | _ => false

end Effect

/-- How a rider is joined to what comes before it. -/
inductive RiderJoin
  | and
  | plus
  | additional
  deriving DecidableEq, Repr, Inhabited

namespace RiderJoin

def all : List RiderJoin := [and, plus, additional]

def word : RiderJoin → String
  | and => "and"
  | plus => "plus"
  | additional => "additional"

instance : Vocabulary RiderJoin := ⟨all, word, fun _ => none⟩

/-- The words between an effect and its rider. -/
def conjunction : RiderJoin → String
  | and => ", and "
  | plus => " plus "
  | additional => ". "

end RiderJoin

/-- A further effect with a clause of its own. -/
structure Rider where
  join : RiderJoin := .plus
  effect : Effect
  deriving DecidableEq, Repr, Inhabited

def Rider.describe (usualVariable : String) (rider : Rider) : String :=
  rider.join.conjunction ++ rider.effect.describe usualVariable

def Rider.isWritable (rider : Rider) : Bool :=
  rider.effect.isWritable

def describeHit (effect : Effect) (riders : List Rider) (usualVariable : String) : String :=
  effect.describe usualVariable ++ String.join (riders.map (Rider.describe usualVariable)) ++ "."

def averageDamage (effect : Effect) (riders : List Rider) (modifiers : List (String × Int))
    (usualVariable : String) : Rat :=
  Number.total
    ((effect :: riders.map Rider.effect).map (Effect.averageDamage modifiers usualVariable))

end Bestiary
