import Bestiary.Combat.Reader
import Bestiary.Directive.Basic
import Bestiary.Number.RatioReader

/-!
The forms of directives: for each tag, the fields that go with it and how
they are read.
-/

namespace Bestiary

open Document Validation

/-- Read a list that may be written without brackets when it has one item. -/
def Validation.Reader.oneOrMany {α : Type} (reader : Reader α) : Reader (List α)
  | .text content => Reader.list reader (.list [.text content])
  | .int number => Reader.list reader (.list [.int number])
  | .bool truth => Reader.list reader (.list [.bool truth])
  | other => Reader.list reader other

/-- Read types of damage; the word "all" among them stands for every type. -/
def DamageType.readSome : Reader (List DamageType)
  | .text content =>
      if content == "all" then .valid DamageType.all
      else Reader.oneOrMany (Reader.word DamageType) (.text content)
  | .list items =>
      if items.any (fun item => item matches .text "all") then .valid DamageType.all
      else Reader.list (Reader.word DamageType) (.list items)
  | other => Reader.oneOrMany (Reader.word DamageType) other

/-- Read a rating of the table, written as a number or a fraction. -/
def Rating.read : Reader Rating := fun input =>
  match input with
  | .bool _ => .fail (.refused "challenge rating must be a number or fraction") input
  | _ =>
      match Number.ratioOfText (Text.trim input.plain) with
      | .error _ => .fail (.refused ("invalid challenge rating " ++ input.shown)) input
      | .ok value =>
          match Rating.ofValue? value with
          | some rating => .valid rating
          | none =>
              .fail (.refused
                (if Number.isWritableRat value then
                  input.shown ++ " is not a tabled challenge rating"
                else Number.unwritableMessage)) input

/-- Read a die, written as notation or as its number of faces. -/
def Die.read : Reader Die := fun input =>
  match input with
  | .int sides =>
      match Die.ofSides? sides with
      | some die => .valid die
      | none => .fail (.refused ("invalid die face " ++ Number.showInt sides)) input
  | .text content =>
      match Die.ofText content with
      | .ok die => .valid die
      | .error error => .fail (.refused error.fault.message) input
  | _ => .fail (.refused ("expected a die such as 'd8', got " ++ input.shown)) input

def IncludeArgument.read : Reader IncludeArgument :=
  Reader.either "str" (fun input => (Reader.text input).map IncludeArgument.text)
    "int" (fun input => (Reader.int input).map IncludeArgument.number)

def LegendaryAction.read : Reader LegendaryAction :=
  Reader.record "LegendaryAction" fun fields =>
    LegendaryAction.mk
      <$> fields.required "name" Reader.someText
      <*> fields.required "description" Reader.text
      <*> fields.withDefault "cost" 1 (Reader.natAtLeast 1)
      <* fields.only ["name", "description", "cost"]

def Validation.Reader.bySpellLevel {α : Type} (reader : Reader α) : Reader (List (Int × α)) :=
  fun input =>
    (Reader.map Reader.int reader input).andThen fun entries =>
      if entries.any fun entry => decide (entry.1 < 1) || decide (9 < entry.1) then
        .fail (.refused "spell levels must be between 1 and 9") input
      else .valid entries

namespace Directive

structure Form where
  tag : String
  fieldNames : List String
  /-- Whether a list stands for the one field, rather than for all fields in their order. -/
  takesList : Bool
  read : Fields → Checked Directive

namespace Form

def ofFields (tag : String) (fieldNames : List String) (read : Fields → Checked Directive) :
    Form :=
  { tag := tag
    fieldNames := fieldNames
    takesList := false
    read := fun fields => read fields <* fields.only ("directive" :: fieldNames) }

def bare (tag : String) (directive : Directive) : Form :=
  ofFields tag [] fun _ => .valid directive

def single {α : Type} (tag fieldName : String) (reader : Reader α) (make : α → Directive) : Form :=
  ofFields tag [fieldName] fun fields => make <$> fields.required fieldName reader

def listing {α : Type} (tag fieldName : String) (reader : Reader α) (make : α → Directive) : Form :=
  { single tag fieldName reader make with takesList := true }

def namedDistance (tag : String) (make : String → Nat → Directive) : Form :=
  ofFields tag ["name", "distance"] fun fields =>
    make <$> fields.required "name" Reader.someText <*> fields.required "distance" Reader.nat

def namedEntry (tag : String) (make : NamedEntry → Directive) : Form :=
  ofFields tag ["name", "description", "usage"] fun fields =>
    (fun name description usage => make ⟨name, description, usage⟩)
      <$> fields.required "name" Reader.someText
      <*> fields.required "description" Reader.text
      <*> fields.withDefault "usage" none (Reader.orNull Usage.read)

def weaponAttack (tag : String) (make : Weapon → Attack → Directive) : Form :=
  ofFields tag ["weapon", "attack"] fun fields =>
    make <$> fields.required "weapon" (Reader.word Weapon) <*> fields.required "attack" Attack.read

def weaponEffect (tag : String) (make : Weapon → Effect → Directive) : Form :=
  ofFields tag ["weapon", "effect"] fun fields =>
    make <$> fields.required "weapon" (Reader.word Weapon) <*> fields.required "effect" Effect.read

end Form

open Form

def identityForms : List Form :=
  [ofFields "version" ["minimum", "maximum"] fun fields =>
      Directive.version
        <$> fields.required "minimum" Reader.positiveFloat
        <*> fields.withDefault "maximum" none (Reader.orNull Reader.positiveFloat),
    ofFields "include" ["reference", "arguments"] fun fields =>
      Directive.inclusion
        <$> fields.required "reference" Reader.someText
        <*> fields.withDefault "arguments" [] (Reader.map Reader.text IncludeArgument.read),
    single "name" "name" Reader.someText Directive.name,
    single "source" "source" Reader.text Directive.source] ++
  SubjectForm.all.map (fun form =>
    single form.word "name" Reader.someText (Directive.subject form)) ++
  [single "pronouns" "pronouns" (Reader.word Pronouns) Directive.pronouns,
    single "size" "size" (Reader.word Size) Directive.size] ++
  Size.all.map (fun size => bare size.word (.sizeShortcut size)) ++
  [single "type" "creature_type" (Reader.word CreatureType) Directive.creatureType,
    single "custom_type" "name" Reader.someText Directive.customType,
    single "subtype" "subtype" Reader.text Directive.subtype,
    single "group" "group" Reader.text Directive.group,
    single "alignment" "alignment" (Reader.word Alignment) Directive.alignment,
    single "custom_alignment" "alignment" Reader.someText Directive.customAlignment]

def bodyForms : List Form :=
  [single "hit_die" "die" Die.read Directive.hitDie,
    single "hit_dice_count" "count" (Reader.natAtLeast 1) Directive.hitDiceCount,
    single "hit_points" "hit_points" (Reader.natAtLeast 1) Directive.hitPoints,
    ofFields "armor" ["kind", "bonus", "description"] fun fields =>
      Directive.armor
        <$> fields.required "kind" (Reader.word ArmorKind)
        <*> fields.withDefault "bonus" 0 Reader.int
        <*> fields.withDefault "description" none (Reader.orNull Reader.text),
    single "armor_bonus" "bonus" Reader.int Directive.armorBonus,
    ofFields "armor_class" ["armor_class", "description"] fun fields =>
      Directive.armorClass
        <$> fields.required "armor_class" Reader.nat
        <*> fields.withDefault "description" none (Reader.orNull Reader.text),
    bare "shield" (.shield true),
    bare "no_shield" (.shield false)] ++
  Movement.all.map (fun way => single way.word "distance" Reader.nat (Directive.movement way)) ++
  [bare "hover" .hover,
    namedDistance "speed" Directive.speed,
    single "speed_notes" "notes" Reader.text Directive.speedNotes]

def talentForms : List Form :=
  Ability.all.map (fun ability =>
    single ability.shortWord "score" (Reader.intBetween 1 30) (Directive.abilityScore ability)) ++
  [listing "saves" "abilities" (Reader.oneOrMany (Reader.word Ability)) Directive.saves,
    listing "remove_saves" "abilities" (Reader.oneOrMany (Reader.word Ability))
      Directive.removeSaves] ++
  SkillChange.all.map (fun change =>
    listing change.word "skills" (Reader.oneOrMany (Reader.word Skill))
      (Directive.skills change)) ++
  DamageRelation.all.map (fun relation =>
    listing relation.word "damage_types" DamageType.readSome (Directive.damageTypes relation)) ++
  [ofFields "nonmagical_resistance" ["variant"] fun fields =>
      Directive.nonmagicalResistance
        <$> fields.withDefault "variant" .nonmagical (Reader.word NonmagicalVariant),
    ofFields "nonmagical_immunity" ["variant"] fun fields =>
      Directive.nonmagicalImmunity
        <$> fields.withDefault "variant" .nonmagical (Reader.word NonmagicalVariant)] ++
  DamageRelation.all.map (fun relation =>
    single ("custom_" ++ relation.word) "text" Reader.someText
      (Directive.customDamage relation)) ++
  [listing "condition_immunity" "conditions" (Reader.oneOrMany (Reader.word Condition))
      Directive.conditionImmunity] ++
  StandardSense.all.map (fun sense =>
    single sense.word "distance" Reader.nat (Directive.standardSense sense)) ++
  [ofFields "blindsight" ["distance", "blind_beyond"] fun fields =>
      Directive.blindsight
        <$> fields.required "distance" Reader.nat
        <*> fields.withDefault "blind_beyond" false Reader.bool,
    namedDistance "sense" Directive.sense,
    listing "languages" "languages" (Reader.oneOrMany Reader.text) Directive.languages,
    listing "unspoken_languages" "languages" (Reader.oneOrMany Reader.text)
      Directive.unspokenLanguages,
    single "telepathy" "distance" Reader.nat Directive.telepathy]

def actionForms : List Form :=
  [single "challenge_rating" "value" Rating.read Directive.challengeRating,
    single "expect_challenge_rating" "value" Rating.read Directive.expectChallengeRating] ++
  ChallengeShortcut.all.map (fun shortcut => bare shortcut.word (.challengeShortcut shortcut)) ++
  [ofFields "weapon" ["weapon", "magic", "multiattack", "riders"] fun fields =>
      (fun weapon magic multiattack riders =>
          Directive.weapon ⟨weapon, magic, multiattack, riders⟩)
        <$> fields.required "weapon" (Reader.word Weapon)
        <*> fields.withDefault "magic" 0 Reader.int
        <*> fields.withDefault "multiattack" 0 Reader.nat
        <*> fields.withDefault "riders" [] (Reader.list Rider.read),
    ofFields "attack" ["name", "attack", "effect", "riders", "usage", "multiattack"] fun fields =>
      (fun name attack effect riders usage multiattack =>
          Directive.attack ⟨name, attack, effect, riders, usage, multiattack⟩)
        <$> fields.required "name" Reader.someText
        <*> fields.required "attack" Attack.read
        <*> fields.required "effect" Effect.read
        <*> fields.withDefault "riders" [] (Reader.list Rider.read)
        <*> fields.withDefault "usage" none (Reader.orNull Usage.read)
        <*> fields.withDefault "multiattack" 0 Reader.nat,
    single "remove_weapon" "weapon" (Reader.word Weapon) Directive.removeWeapon,
    weaponAttack "override_weapon_attack" Directive.overrideWeaponAttack,
    weaponAttack "expect_weapon_attack" fun weapon attack =>
      Directive.expectWeapon (.attack weapon attack),
    weaponEffect "override_weapon_effect" Directive.overrideWeaponEffect,
    weaponEffect "expect_weapon_effect" fun weapon effect =>
      Directive.expectWeapon (.effect weapon effect),
    namedEntry "action" Directive.action,
    ofFields "override_action_description" ["name", "description"] fun fields =>
      Directive.overrideDescription
        <$> fields.required "name" Reader.someText
        <*> fields.required "description" Reader.text] ++
  Section.all.map (fun place => single place.word "name" Reader.someText (Directive.remove place)) ++
  [single "multiattack" "description" Reader.text Directive.multiattack]

def traitForms : List Form :=
  [namedEntry "feature" Directive.feature,
    namedEntry "reaction" Directive.reaction,
    ofFields "legendary_actions" ["count", "actions", "description"] fun fields =>
      Directive.legendaryActions
        <$> fields.withDefault "count" 3 (Reader.natAtLeast 1)
        <*> fields.withDefault "actions" [] (Reader.list LegendaryAction.read)
        <*> fields.withDefault "description" none (Reader.orNull Reader.text),
    ofFields "spellcasting"
      ["ability", "level", "class_name", "style", "cantrips", "spells", "slots", "save_dc",
        "attack_bonus"] fun fields =>
      (fun ability level className style cantrips spells slots saveDC attackBonus =>
          Directive.spellcasting
            ⟨ability, level, className, style, cantrips, spells, slots, saveDC, attackBonus⟩)
        <$> fields.required "ability" (Reader.word Ability)
        <*> fields.required "level" (Reader.natBetween 1 20)
        <*> fields.required "class_name" Reader.someText
        <*> fields.withDefault "style" .full (Reader.word SpellcastingStyle)
        <*> fields.withDefault "cantrips" [] (Reader.list Reader.text)
        <*> fields.withDefault "spells" [] (Reader.bySpellLevel (Reader.list Reader.text))
        <*> fields.withDefault "slots" none (Reader.orNull (Reader.bySpellLevel Reader.int))
        <*> fields.withDefault "save_dc" none (Reader.orNull (Reader.natAtLeast 1))
        <*> fields.withDefault "attack_bonus" none (Reader.orNull Reader.int),
    ofFields "innate_spellcasting"
      ["ability", "at_will", "per_day", "save_dc", "attack_bonus", "components"] fun fields =>
      (fun ability atWill perDay saveDC attackBonus components =>
          Directive.innateSpellcasting
            ⟨ability, atWill, perDay, saveDC, attackBonus, components⟩)
        <$> fields.required "ability" (Reader.word Ability)
        <*> fields.withDefault "at_will" [] (Reader.list Reader.text)
        <*> fields.withDefault "per_day" [] (Reader.map Reader.int (Reader.list Reader.text))
        <*> fields.withDefault "save_dc" none (Reader.orNull (Reader.natAtLeast 1))
        <*> fields.withDefault "attack_bonus" none (Reader.orNull Reader.int)
        <*> fields.withDefault "components" none (Reader.orNull Reader.text)]

def forms : List Form :=
  identityForms ++ bodyForms ++ talentForms ++ actionForms ++ traitForms

def form? (tag : String) : Option Form :=
  forms.find? (·.tag == tag)

def read : Reader Directive :=
  Reader.tagged "directive" (forms.map fun form => (form.tag, form.read))

end Directive

end Bestiary
