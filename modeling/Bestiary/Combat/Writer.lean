import Bestiary.Combat.Usage
import Bestiary.Combat.Weapon
import Bestiary.Document.Value

/-!
Writing attacks, effects, riders and usage limits as document values, every
field included.
-/

namespace Bestiary

open Document

def Dice.toValue (dice : Dice) : Value := .text dice.render

def Bonus.toValue : Bonus → Value
  | fixed amount => .int amount
  | modifier source => .ofMember source

def Attack.toValue (attack : Attack) : Value :=
  .object
    [("kind", .ofOption .ofMember attack.kind), ("bonus", attack.bonus.toValue),
      ("magic", .int attack.magic), ("reach", .ofOption .ofNat attack.reach),
      ("range", .ofOption .ofNat attack.range), ("long_range", .ofOption .ofNat attack.longRange),
      ("target", .text attack.target)]

def Effect.toValue : Effect → Value
  | damage rolled =>
      .object
        [("effect", .text "damage"), ("dice", rolled.dice.toValue),
          ("damage_type", .ofMember rolled.damageType), ("bonus", rolled.bonus.toValue)]
  | fixedDamage flat =>
      .object
        [("effect", .text "fixed_damage"), ("amount", .ofNat flat.amount),
          ("damage_type", .ofMember flat.damageType), ("bonus", flat.bonus.toValue)]
  | special content => .object [("effect", .text "special"), ("text", .text content)]
  | alternative rolled =>
      .object
        [("effect", .text "or"), ("dice", rolled.dice.toValue),
          ("damage_type", .ofMember rolled.damageType),
          ("alternate_dice", rolled.alternateDice.toValue),
          ("alternate_damage_type", .ofOption .ofMember rolled.alternateType),
          ("condition", .text rolled.condition), ("bonus", rolled.bonus.toValue)]
  | save rolled =>
      .object
        [("effect", .text "save"), ("ability", .ofMember rolled.ability),
          ("dice", rolled.dice.toValue), ("damage_type", .ofMember rolled.damageType),
          ("dc", .ofOption .ofNat rolled.dc), ("bonus", rolled.bonus.toValue),
          ("half", .bool rolled.half), ("area", .bool rolled.area)]

def Rider.toValue (rider : Rider) : Value :=
  .object [("join", .ofMember rider.join), ("effect", rider.effect.toValue)]

def Usage.toValue (usage : Usage) : Value :=
  .object [("kind", .ofMember usage.kind), ("value", .ofOption .ofNat usage.value?)]

end Bestiary
