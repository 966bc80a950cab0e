import Bestiary.Creature.Derivation
import Bestiary.Directive.Writer
import Bestiary.Prose.Span

/-!
Writing creatures, and what follows from them, as document values. A creature
is writable if its dice and the amounts of its effects are.
-/

namespace Bestiary

open Document Prose

def Document.Value.ofAmounts (entries : List (String × Nat)) : Value :=
  .object (entries.map fun entry => (entry.1, .ofNat entry.2))

def Scores.toValue (scores : Scores) : Value :=
  .object (Ability.all.map fun ability => (ability.word, .int (scores.get ability)))

def NamedEntry.toValue (entry : NamedEntry) : Value :=
  .object (Directive.namedFields entry)

def Action.toValue (action : Action) : Value :=
  .object
    [("name", .text action.name), ("description", .ofOption .text action.description?),
      ("usage", .ofOption Usage.toValue action.usage),
      ("weapon", .ofOption .ofMember action.weapon?), ("magic", .int action.magic),
      ("attack", .ofOption Attack.toValue action.attack?),
      ("effect", .ofOption Effect.toValue action.effect?),
      ("riders", .list (action.riders.map Rider.toValue)),
      ("multiattack", .ofNat action.multiattack)]

/-- Whether the effects that are given for an action can be written. -/
def Action.isWritable (action : Action) : Bool :=
  action.effect?.all Effect.isWritable && action.riders.all Rider.isWritable

def Spellcasting.toValue (casting : Spellcasting) : Value :=
  (Directive.spellcasting casting).toValue

def InnateSpellcasting.toValue (casting : InnateSpellcasting) : Value :=
  (Directive.innateSpellcasting casting).toValue

def WeaponExpectation.toValue (expectation : WeaponExpectation) : Value :=
  (Directive.expectWeapon expectation).toValue

def NamedText.toValue (entry : NamedText) : Value :=
  .object [("name", .text entry.name), ("text", textValue entry.text)]

def Document.Value.ofEntries (entries : List NamedText) : Value :=
  .list (entries.map NamedText.toValue)

def Derived.toValue (derived : Derived) : Value :=
  .object
    [("challenge_rating", derived.challengeRating.toValue),
      ("proficiency_bonus", .int derived.proficiency), ("armor_class", .int derived.armorClass),
      ("armor_description", .ofOption .text derived.armorDescription),
      ("hit_dice", derived.hitDice.toValue), ("hit_points", .int derived.hitPoints),
      ("features", .ofEntries derived.features), ("actions", .ofEntries derived.actions),
      ("reactions", .ofEntries derived.reactions),
      ("legendary_intro", .ofOption textValue derived.legendaryIntroduction),
      ("legendary_actions", .ofEntries derived.legendaryActions)]

namespace Creature

def identityFields (creature : Creature) : List (String × Value) :=
  [("name", .ofOption .text creature.name), ("source", .ofOption .text creature.source),
    ("subject_name", .ofOption .text creature.subjectName),
    ("capitalized_subject_name", .ofOption .text creature.capitalizedSubjectName),
    ("possessive_name", .ofOption .text creature.possessiveName),
    ("capitalized_possessive_name", .ofOption .text creature.capitalizedPossessiveName),
    ("pronouns", .ofMember creature.pronouns), ("size", .ofMember creature.size),
    ("creature_type", .ofOption .ofMember creature.creatureType),
    ("custom_type", .ofOption .text creature.customType),
    ("subtype", .ofOption .text creature.subtype), ("group", .ofOption .text creature.group),
    ("alignment", .text creature.alignment)]

def bodyFields (creature : Creature) : List (String × Value) :=
  [("hit_die_override", .ofOption (.text ∘ Die.render) creature.hitDieOverride),
    ("hit_dice_count", .ofNat creature.hitDiceCount),
    ("hit_points_override", .ofOption .ofNat creature.hitPointsOverride),
    ("armor", .ofOption .ofMember creature.armor), ("armor_bonus", .int creature.armorBonus),
    ("armor_description", .ofOption .text creature.armorDescription),
    ("extra_armor_bonus", .int creature.extraArmorBonus),
    ("armor_class_override", .ofOption .ofNat creature.armorClassOverride),
    ("armor_class_description", .ofOption .text creature.armorClassDescription),
    ("shield", .bool creature.shield), ("speeds", .ofAmounts creature.speeds),
    ("hover", .bool creature.hover), ("speed_notes", .ofOption .text creature.speedNotes),
    ("scores", creature.scores.toValue), ("saves", .ofMembers creature.saves),
    ("skills", .ofAmounts (creature.skills.map fun entry => (entry.1.word, entry.2)))]

def traitFields (creature : Creature) : List (String × Value) :=
  [("vulnerabilities", .ofMembers creature.vulnerabilities),
    ("resistances", .ofMembers creature.resistances),
    ("immunities", .ofMembers creature.immunities),
    ("nonmagical_resistance", .ofOption .ofMember creature.nonmagicalResistance),
    ("nonmagical_immunity", .ofOption .ofMember creature.nonmagicalImmunity),
    ("custom_vulnerabilities", .ofTexts creature.customVulnerabilities),
    ("custom_resistances", .ofTexts creature.customResistances),
    ("custom_immunities", .ofTexts creature.customImmunities),
    ("condition_immunities", .ofMembers creature.conditionImmunities),
    ("senses", .ofAmounts creature.senses), ("blind_beyond", .bool creature.blindBeyond),
    ("languages", .ofTexts creature.languages),
    ("unspoken_languages", .ofTexts creature.unspokenLanguages),
    ("telepathy", .ofOption .ofNat creature.telepathy)]

def activityFields (creature : Creature) : List (String × Value) :=
  [("challenge_rating_override", .ofOption Rating.toValue creature.challengeRatingOverride),
    ("expected_challenge_rating", .ofOption Rating.toValue creature.expectedChallengeRating),
    ("weapon_expectations",
      .list (creature.weaponExpectations.map WeaponExpectation.toValue)),
    ("actions", .list (creature.actions.map Action.toValue)),
    ("multiattack_description", .ofOption .text creature.multiattackDescription),
    ("features", .list (creature.features.map NamedEntry.toValue)),
    ("reactions", .list (creature.reactions.map NamedEntry.toValue)),
    ("legendary_action_count", .ofNat creature.legendaryActionCount),
    ("legendary_description", .ofOption .text creature.legendaryDescription),
    ("legendary_actions", .list (creature.legendaryActions.map LegendaryAction.toValue)),
    ("spellcasting", .ofOption Spellcasting.toValue creature.spellcasting),
    ("innate_spellcasting", .ofOption InnateSpellcasting.toValue creature.innateSpellcasting)]

def fields (creature : Creature) : List (String × Value) :=
  creature.identityFields ++ creature.bodyFields ++ creature.traitFields ++ creature.activityFields

/-- Whether the effects of a creature's actions and of what is expected of them can be written. -/
def isWritable (creature : Creature) : Bool :=
  creature.actions.all Action.isWritable &&
    creature.weaponExpectations.all WeaponExpectation.isWritable

end Creature

def DerivedCreature.toValue (built : DerivedCreature) : Value :=
  .object (built.creature.fields ++ [("derived", built.derived.toValue)])

def DerivedCreature.isWritable (built : DerivedCreature) : Bool :=
  built.creature.isWritable && built.derived.hitDice.isWritable

end Bestiary
