import Bestiary.Combat.Usage
import Bestiary.Combat.Weapon
import Bestiary.Dice.Parser
import Bestiary.Validation.Record

/-!
Reading attacks, effects, riders and usage limits from documents.
-/

namespace Bestiary

open Document Validation

def Dice.read : Reader Dice
  | .text content =>
      match Dice.ofText content with
      | .ok dice => .valid dice
      | .error error =>
          let reason :=
            match error.fault with
            | .unreadableNumeral _ => error.fault.message
            | fault => "Invalid dice expression " ++ Text.quoted content ++ ": " ++ fault.message
          .fail (.refused reason) (.text content)
  | other => .fail (.refused ("Expected dice notation, got " ++ other.typeName)) other

def Bonus.read : Reader Bonus :=
  Reader.either "int" (fun input => (Reader.int input).map Bonus.fixed)
    "str-enum[BonusSource]" (fun input => (Reader.word BonusSource input).map Bonus.modifier)

namespace Attack

def fieldNames : List String :=
  ["kind", "bonus", "magic", "reach", "range", "long_range", "target"]

def read : Reader Attack :=
  Reader.record "Attack" fun fields =>
    Attack.mk
      <$> fields.withDefault "kind" (some .weapon) (Reader.orNull (Reader.word AttackKind))
      <*> fields.withDefault "bonus" (.modifier .usual) Bonus.read
      <*> fields.withDefault "magic" 0 Reader.int
      <*> fields.withDefault "reach" none (Reader.orNull Reader.nat)
      <*> fields.withDefault "range" none (Reader.orNull Reader.nat)
      <*> fields.withDefault "long_range" none (Reader.orNull Reader.nat)
      <*> fields.withDefault "target" "one target" Reader.text
      <* fields.only fieldNames

end Attack

namespace Effect

def readDamage (fields : Fields) : Checked Effect :=
  (fun dice damageType bonus => Effect.damage ⟨dice, damageType, bonus⟩)
    <$> fields.required "dice" Dice.read
    <*> fields.required "damage_type" (Reader.word DamageType)
    <*> fields.withDefault "bonus" (.modifier .usual) Bonus.read
    <* fields.only ["effect", "dice", "damage_type", "bonus"]

def readFixedDamage (fields : Fields) : Checked Effect :=
  (fun amount damageType bonus => Effect.fixedDamage ⟨amount, damageType, bonus⟩)
    <$> fields.required "amount" Reader.nat
    <*> fields.required "damage_type" (Reader.word DamageType)
    <*> fields.withDefault "bonus" (.modifier .usual) Bonus.read
    <* fields.only ["effect", "amount", "damage_type", "bonus"]

def readSpecial (fields : Fields) : Checked Effect :=
  Effect.special
    <$> fields.required "text" Reader.text
    <* fields.only ["effect", "text"]

def readAlternative (fields : Fields) : Checked Effect :=
  (fun dice damageType alternateDice alternateType condition bonus =>
      Effect.alternative ⟨dice, damageType, alternateDice, alternateType, condition, bonus⟩)
    <$> fields.required "dice" Dice.read
    <*> fields.required "damage_type" (Reader.word DamageType)
    <*> fields.required "alternate_dice" Dice.read
    <*> fields.withDefault "alternate_damage_type" none (Reader.orNull (Reader.word DamageType))
    <*> fields.required "condition" Reader.text
    <*> fields.withDefault "bonus" (.modifier .usual) Bonus.read
    <* fields.only ["effect", "dice", "damage_type", "alternate_dice", "alternate_damage_type",
      "condition", "bonus"]

def readSave (fields : Fields) : Checked Effect :=
  (fun ability dice damageType dc bonus half area =>
      Effect.save ⟨ability, dice, damageType, dc, bonus, half, area⟩)
    <$> fields.required "ability" (Reader.word Ability)
    <*> fields.required "dice" Dice.read
    <*> fields.required "damage_type" (Reader.word DamageType)
    <*> fields.withDefault "dc" none (Reader.orNull (Reader.natAtLeast 1))
    <*> fields.withDefault "bonus" (.modifier .none) Bonus.read
    <*> fields.withDefault "half" true Reader.bool
    <*> fields.withDefault "area" false Reader.bool
    <* fields.only ["effect", "ability", "dice", "damage_type", "dc", "bonus", "half", "area"]

def read : Reader Effect :=
  Reader.tagged "effect"
    [("damage", readDamage), ("fixed_damage", readFixedDamage), ("special", readSpecial),
      ("or", readAlternative), ("save", readSave)]

end Effect

namespace Rider

/-- An effect that is written in the place of a rider stands for a rider with that effect. -/
def unabridged : Value → Value
  | .object fields =>
      match fields.lookup "effect" with
      | some (.text _) => .object [("effect", .object fields)]
      | _ => .object fields
  | other => other

def read : Reader Rider := fun input =>
  Reader.record "Rider" (fun fields =>
    Rider.mk
      <$> fields.withDefault "join" .plus (Reader.word RiderJoin)
      <*> fields.required "effect" Effect.read
      <* fields.only ["join", "effect"]) (unabridged input)

end Rider

namespace Usage

/-- A limit that is written as a word, or as its kind with its number, in full. -/
def unabridged : Value → Value
  | .text word => .object [("kind", .text word)]
  | .object [(name, content)] =>
      if name != "kind" && (UsageKind.all.map UsageKind.word).contains name then
        .object [("kind", .text name), ("value", content)]
      else .object [(name, content)]
  | other => other

def read : Reader Usage := fun input =>
  (Reader.record "Usage" (fun fields =>
    Prod.mk
      <$> fields.required "kind" (Reader.word UsageKind)
      <*> fields.withDefault "value" none (Reader.orNull (Reader.natAtLeast 1))
      <* fields.only ["kind", "value"]) (unabridged input)).andThen fun parts =>
    match Usage.ofParts parts.1 parts.2 with
    | .ok usage => .valid usage
    | .error reason => .fail (.refused reason) input

end Usage

end Bestiary
