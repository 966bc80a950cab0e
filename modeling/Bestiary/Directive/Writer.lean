import Bestiary.Combat.Writer
import Bestiary.Directive.Basic

/-!
Writing directives as document values, the tag first and every field after
it. A directive is writable if the numbers of its effects are.
-/

namespace Bestiary

open Document

def Rating.toValue (rating : Rating) : Value := .text rating.text

def IncludeArgument.toValue : IncludeArgument → Value
  | text content => .text content
  | number value => .int value

def WeaponExpectation.isWritable : WeaponExpectation → Bool
  | attack _ _ => true
  | effect _ expected => expected.isWritable

def LegendaryAction.toValue (action : LegendaryAction) : Value :=
  .object
    [("name", .text action.name), ("description", .text action.description),
      ("cost", .ofNat action.cost)]

namespace Directive

def tagged (tag : String) (fields : List (String × Value)) : Value :=
  .object (("directive", .text tag) :: fields)

def namedFields (entry : NamedEntry) : List (String × Value) :=
  [("name", .text entry.name), ("description", .text entry.description),
    ("usage", .ofOption Usage.toValue entry.usage)]

def castingFields (casting : Spellcasting) : List (String × Value) :=
  [("ability", .ofMember casting.ability), ("level", .ofNat casting.level),
    ("class_name", .text casting.className), ("style", .ofMember casting.style),
    ("cantrips", .ofTexts casting.cantrips), ("spells", .ofIntMap .ofTexts casting.spells),
    ("slots", .ofOption (.ofIntMap .int) casting.slots),
    ("save_dc", .ofOption .ofNat casting.saveDC),
    ("attack_bonus", .ofOption .int casting.attackBonus)]

def innateFields (casting : InnateSpellcasting) : List (String × Value) :=
  [("ability", .ofMember casting.ability), ("at_will", .ofTexts casting.atWill),
    ("per_day", .ofIntMap .ofTexts casting.perDay), ("save_dc", .ofOption .ofNat casting.saveDC),
    ("attack_bonus", .ofOption .int casting.attackBonus),
    ("components", .ofOption .text casting.components)]

def expectationFields : WeaponExpectation → List (String × Value)
  | .attack held expected => [("weapon", .ofMember held), ("attack", expected.toValue)]
  | .effect held expected => [("weapon", .ofMember held), ("effect", expected.toValue)]

def fields : Directive → List (String × Value)
  | version minimum maximum =>
      [("minimum", .float minimum), ("maximum", .ofOption .float maximum)]
  | inclusion reference arguments =>
      [("reference", .text reference),
        ("arguments", .object (arguments.map fun argument => (argument.1, argument.2.toValue)))]
  | name given => [("name", .text given)]
  | source given => [("source", .text given)]
  | subject _ given => [("name", .text given)]
  | pronouns given => [("pronouns", .ofMember given)]
  | size given => [("size", .ofMember given)]
  | sizeShortcut _ => []
  | creatureType given => [("creature_type", .ofMember given)]
  | customType given => [("name", .text given)]
  | subtype given => [("subtype", .text given)]
  | group given => [("group", .text given)]
  | alignment given => [("alignment", .ofMember given)]
  | customAlignment given => [("alignment", .text given)]
  | hitDie die => [("die", .text die.render)]
  | hitDiceCount count => [("count", .ofNat count)]
  | hitPoints points => [("hit_points", .ofNat points)]
  | armor kind bonus description =>
      [("kind", .ofMember kind), ("bonus", .int bonus),
        ("description", .ofOption .text description)]
  | armorBonus bonus => [("bonus", .int bonus)]
  | armorClass value description =>
      [("armor_class", .ofNat value), ("description", .ofOption .text description)]
  | shield _ => []
  | movement _ distance => [("distance", .ofNat distance)]
  | hover => []
  | speed given distance => [("name", .text given), ("distance", .ofNat distance)]
  | speedNotes notes => [("notes", .text notes)]
  | abilityScore _ score => [("score", .int score)]
  | saves abilities => [("abilities", .ofMembers abilities)]
  | removeSaves abilities => [("abilities", .ofMembers abilities)]
  | skills _ changed => [("skills", .ofMembers changed)]
  | damageTypes _ types => [("damage_types", .ofMembers types)]
  | nonmagicalResistance variant => [("variant", .ofMember variant)]
  | nonmagicalImmunity variant => [("variant", .ofMember variant)]
  | customDamage _ text => [("text", .text text)]
  | conditionImmunity conditions => [("conditions", .ofMembers conditions)]
  | standardSense _ distance => [("distance", .ofNat distance)]
  | blindsight distance blindBeyond =>
      [("distance", .ofNat distance), ("blind_beyond", .bool blindBeyond)]
  | sense given distance => [("name", .text given), ("distance", .ofNat distance)]
  | languages given => [("languages", .ofTexts given)]
  | unspokenLanguages given => [("languages", .ofTexts given)]
  | telepathy distance => [("distance", .ofNat distance)]
  | challengeRating rating => [("value", rating.toValue)]
  | expectChallengeRating rating => [("value", rating.toValue)]
  | challengeShortcut _ => []
  | weapon entry =>
      [("weapon", .ofMember entry.weapon), ("magic", .int entry.magic),
        ("multiattack", .ofNat entry.multiattack),
        ("riders", .list (entry.riders.map Rider.toValue))]
  | attack entry =>
      [("name", .text entry.name), ("attack", entry.attack.toValue),
        ("effect", entry.effect.toValue), ("riders", .list (entry.riders.map Rider.toValue)),
        ("usage", .ofOption Usage.toValue entry.usage), ("multiattack", .ofNat entry.multiattack)]
  | removeWeapon given => [("weapon", .ofMember given)]
  | overrideWeaponAttack given roll => [("weapon", .ofMember given), ("attack", roll.toValue)]
  | overrideWeaponEffect given hit => [("weapon", .ofMember given), ("effect", hit.toValue)]
  | expectWeapon expectation => expectationFields expectation
  | action entry => namedFields entry
  | overrideDescription given description =>
      [("name", .text given), ("description", .text description)]
  | remove _ given => [("name", .text given)]
  | multiattack description => [("description", .text description)]
  | feature entry => namedFields entry
  | reaction entry => namedFields entry
  | legendaryActions count actions description =>
      [("count", .ofNat count), ("actions", .list (actions.map LegendaryAction.toValue)),
        ("description", .ofOption .text description)]
  | spellcasting casting => castingFields casting
  | innateSpellcasting casting => innateFields casting

def toValue (directive : Directive) : Value :=
  tagged directive.tag directive.fields

def isWritable : Directive → Bool
  | weapon entry => entry.riders.all Rider.isWritable
  | attack entry => entry.effect.isWritable && entry.riders.all Rider.isWritable
  | overrideWeaponEffect _ hit => hit.isWritable
  | expectWeapon expectation => expectation.isWritable
  | _ => true

end Directive

end Bestiary
