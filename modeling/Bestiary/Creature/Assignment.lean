import Bestiary.Creature.Derivation
import Bestiary.Directive.Form
import Bestiary.Prose.Reader

/-!
Setting single fields of a creature from outside.

A value is checked as the field demands. A creature that is derived is
complete, and none of its fields can be set.
-/

namespace Bestiary

open Document Validation

inductive AssignmentFault
  | invalid (first : Issue) (others : List Issue)
  /-- A name that stands for something computed. -/
  | computed

def Validation.Reader.check {α : Type} (reader : Reader α) : Reader Unit := fun input =>
  (reader input).map fun _ => ()

def Validation.Reader.literal (words : List String) : Reader Unit := fun input =>
  match input with
  | .text content => if words.contains content then .valid () else .fail (.notLiteral words) input
  | _ => .fail (.notLiteral words) input

def Directive.checkRecord (kindName : String) (tag : String) : Reader Unit :=
  Reader.record kindName fun fields =>
    (fun _ _ => ())
      <$> fields.withDefault "directive" () (Reader.literal [tag])
      <*> match Directive.form? tag with
        | some form => (form.read fields).map fun _ => ()
        | none => .valid ()

def WeaponExpectation.checkRecord (kindName aspect : String) (reader : Reader Unit) : Reader Unit :=
  Reader.record kindName fun fields =>
    (fun _ _ _ => ())
      <$> fields.required "directive"
        (Reader.literal ["override_weapon_" ++ aspect, "expect_weapon_" ++ aspect])
      <*> (fields.required "weapon" (Reader.word Weapon)).map (fun _ => ())
      <*> fields.required aspect reader
      <* fields.only ["directive", "weapon", aspect]

def WeaponExpectation.check : Reader Unit :=
  Reader.either
    "WeaponAttackDirective" (checkRecord "WeaponAttackDirective" "attack" (Reader.check Attack.read))
    "WeaponEffectDirective" (checkRecord "WeaponEffectDirective" "effect" (Reader.check Effect.read))

def NamedEntry.check : Reader Unit :=
  Reader.record "Feature" fun fields =>
    (fun _ _ _ => ())
      <$> fields.required "name" Reader.someText
      <*> fields.required "description" Reader.text
      <*> fields.withDefault "usage" none (Reader.orNull Usage.read)
      <* fields.only ["name", "description", "usage"]

def Action.check : Reader Unit :=
  Reader.record "Action" fun fields =>
    (fun _ _ _ _ _ _ _ _ _ => ())
      <$> fields.required "name" Reader.someText
      <*> fields.withDefault "description" none (Reader.orNull Reader.text)
      <*> fields.withDefault "usage" none (Reader.orNull Usage.read)
      <*> fields.withDefault "weapon" none (Reader.orNull (Reader.word Weapon))
      <*> fields.withDefault "magic" 0 Reader.int
      <*> fields.withDefault "attack" none (Reader.orNull Attack.read)
      <*> fields.withDefault "effect" none (Reader.orNull Effect.read)
      <*> fields.withDefault "riders" [] (Reader.list Rider.read)
      <*> fields.withDefault "multiattack" 0 Reader.nat
      <* fields.only
        ["name", "description", "usage", "weapon", "magic", "attack", "effect", "riders",
          "multiattack"]

def NamedText.read : Reader NamedText :=
  Reader.record "NamedText" fun fields =>
    NamedText.mk
      <$> fields.required "name" Reader.text
      <*> fields.required "text" (Reader.tuple Prose.Block.read)
      <* fields.only ["name", "text"]

def Derived.read : Reader Derived :=
  Reader.record "DerivedStats" fun fields =>
    Derived.mk
      <$> fields.required "challenge_rating" Rating.read
      <*> fields.required "proficiency_bonus" Reader.int
      <*> fields.required "armor_class" Reader.int
      <*> fields.withDefault "armor_description" none (Reader.orNull Reader.text)
      <*> fields.required "hit_dice" Dice.read
      <*> fields.required "hit_points" Reader.int
      <*> fields.withDefault "features" [] (Reader.tuple NamedText.read)
      <*> fields.withDefault "actions" [] (Reader.tuple NamedText.read)
      <*> fields.withDefault "reactions" [] (Reader.tuple NamedText.read)
      <*> fields.withDefault "legendary_intro" none
        (Reader.orNull (Reader.tuple Prose.Block.read))
      <*> fields.withDefault "legendary_actions" [] (Reader.tuple NamedText.read)
      <* fields.only
        ["challenge_rating", "proficiency_bonus", "armor_class", "armor_description", "hit_dice",
          "hit_points", "features", "actions", "reactions", "legendary_intro",
          "legendary_actions"]

namespace Creature

/-- The fields that hold text and may be empty. -/
def optionalTexts : List String :=
  ["name", "source", "subject_name", "capitalized_subject_name", "possessive_name",
    "capitalized_possessive_name", "custom_type", "subtype", "group", "armor_description",
    "armor_class_description", "speed_notes", "multiattack_description", "legendary_description"]

def textLists : List String :=
  ["custom_vulnerabilities", "custom_resistances", "custom_immunities", "languages",
    "unspoken_languages"]

def valueReaders : List (String × Reader Unit) :=
  [("pronouns", Reader.check (Reader.word Pronouns)),
    ("size", Reader.check (Reader.word Size)),
    ("creature_type", Reader.check (Reader.orNull (Reader.word CreatureType))),
    ("alignment", Reader.check Reader.text),
    ("hit_die_override", Reader.check (Reader.orNull Die.read)),
    ("hit_dice_count", Reader.check (Reader.natAtLeast 1)),
    ("hit_points_override", Reader.check (Reader.orNull (Reader.natAtLeast 1))),
    ("armor", Reader.check (Reader.orNull (Reader.word ArmorKind))),
    ("armor_bonus", Reader.check Reader.int),
    ("extra_armor_bonus", Reader.check Reader.int),
    ("armor_class_override", Reader.check (Reader.orNull Reader.nat)),
    ("shield", Reader.check Reader.bool),
    ("hover", Reader.check Reader.bool),
    ("nonmagical_resistance", Reader.check (Reader.orNull (Reader.word NonmagicalVariant))),
    ("nonmagical_immunity", Reader.check (Reader.orNull (Reader.word NonmagicalVariant))),
    ("blind_beyond", Reader.check Reader.bool),
    ("telepathy", Reader.check (Reader.orNull Reader.nat)),
    ("challenge_rating_override", Reader.check (Reader.orNull Rating.read)),
    ("expected_challenge_rating", Reader.check (Reader.orNull Rating.read)),
    ("legendary_action_count", Reader.check (Reader.natAtLeast 1)),
    ("spellcasting", Reader.check
      (Reader.orNull (Directive.checkRecord "SpellcastingDirective" "spellcasting"))),
    ("innate_spellcasting", Reader.check
      (Reader.orNull (Directive.checkRecord "InnateSpellcastingDirective" "innate_spellcasting"))),
    ("derived", Reader.check (Reader.orNull Derived.read))]

def collectionReaders : List (String × Reader Unit) :=
  [("speeds", Reader.check (Reader.map Reader.text Reader.int)),
    ("scores", Reader.check (Reader.map (Reader.word Ability) Reader.int)),
    ("saves", Reader.check (Reader.list (Reader.word Ability))),
    ("skills", Reader.check (Reader.map (Reader.word Skill) Reader.int)),
    ("vulnerabilities", Reader.check (Reader.list (Reader.word DamageType))),
    ("resistances", Reader.check (Reader.list (Reader.word DamageType))),
    ("immunities", Reader.check (Reader.list (Reader.word DamageType))),
    ("condition_immunities", Reader.check (Reader.list (Reader.word Condition))),
    ("senses", Reader.check (Reader.map Reader.text Reader.int)),
    ("weapon_expectations", Reader.check (Reader.list WeaponExpectation.check)),
    ("actions", Reader.check (Reader.list Action.check)),
    ("features", Reader.check (Reader.list NamedEntry.check)),
    ("reactions", Reader.check (Reader.list NamedEntry.check)),
    ("legendary_actions", Reader.check (Reader.list LegendaryAction.read))]

def fieldReaders : List (String × Reader Unit) :=
  optionalTexts.map (fun name => (name, Reader.check (Reader.orNull Reader.text))) ++
  textLists.map (fun name => (name, Reader.check (Reader.list Reader.text))) ++
  valueReaders ++ collectionReaders

def computedNames : List String :=
  ["hit_die", "type_name", "challenge_rating"]

/-- Names that are nobody's concern: they can be set to anything. -/
def isInternalName (name : String) : Bool :=
  name.toList.head? == some '_'

/-- Why a field cannot be set to a value, if it cannot. -/
def checkAssignment (name : String) (content : Value) : Option AssignmentFault :=
  if isInternalName name then none
  else if computedNames.contains name then some .computed
  else
    match fieldReaders.lookup name with
    | none => some (.invalid ⟨[name], .unknownAttribute name, content⟩ [])
    | some reader =>
        match (reader content).within name with
        | .valid _ => none
        | .invalid first others => some (.invalid first others)

end Creature

namespace DerivedCreature

def checkAssignment (name : String) (content : Value) : Option AssignmentFault :=
  if Creature.isInternalName name then none
  else some (.invalid ⟨[name], .frozen, content⟩ [])

end DerivedCreature

end Bestiary
