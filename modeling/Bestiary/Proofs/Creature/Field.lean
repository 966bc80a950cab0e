import Bestiary.Creature.Basic

/-!
The fields of a creature, as data.

A creature is no more than what its fields hold, so two creatures are equal
when they agree in every field.
-/

namespace Bestiary

namespace Creature

inductive Field
  | name
  | source
  | subjectName
  | capitalizedSubjectName
  | possessiveName
  | capitalizedPossessiveName
  | pronouns
  | size
  | creatureType
  | customType
  | subtype
  | group
  | alignment
  | hitDieOverride
  | hitDiceCount
  | hitPointsOverride
  | armor
  | armorBonus
  | armorDescription
  | extraArmorBonus
  | armorClassOverride
  | armorClassDescription
  | shield
  | speeds
  | hover
  | speedNotes
  | scores
  | saves
  | skills
  | vulnerabilities
  | resistances
  | immunities
  | nonmagicalResistance
  | nonmagicalImmunity
  | customVulnerabilities
  | customResistances
  | customImmunities
  | conditionImmunities
  | senses
  | blindBeyond
  | languages
  | unspokenLanguages
  | telepathy
  | challengeRatingOverride
  | expectedChallengeRating
  | weaponExpectations
  | actions
  | multiattackDescription
  | features
  | reactions
  | legendaryActionCount
  | legendaryDescription
  | legendaryActions
  | spellcasting
  | innateSpellcasting
  deriving DecidableEq, Repr

def Field.Content : Field → Type
  | name | source | subjectName | capitalizedSubjectName | possessiveName
  | capitalizedPossessiveName | customType | subtype | group | armorDescription
  | armorClassDescription | speedNotes | multiattackDescription | legendaryDescription =>
      Option String
  | pronouns => Pronouns
  | size => Size
  | creatureType => Option CreatureType
  | alignment => String
  | hitDieOverride => Option Die
  | hitDiceCount | legendaryActionCount => Nat
  | hitPointsOverride | armorClassOverride | telepathy => Option Nat
  | armor => Option ArmorKind
  | armorBonus | extraArmorBonus => Int
  | shield | hover | blindBeyond => Bool
  | speeds | senses => List (String × Nat)
  | scores => Scores
  | saves => List Ability
  | skills => List (Skill × Nat)
  | vulnerabilities | resistances | immunities => List DamageType
  | nonmagicalResistance | nonmagicalImmunity => Option NonmagicalVariant
  | customVulnerabilities | customResistances | customImmunities | languages
  | unspokenLanguages => List String
  | conditionImmunities => List Condition
  | challengeRatingOverride | expectedChallengeRating => Option Rating
  | weaponExpectations => List WeaponExpectation
  | actions => List Action
  | features | reactions => List NamedEntry
  | legendaryActions => List LegendaryAction
  | spellcasting => Option Spellcasting
  | innateSpellcasting => Option InnateSpellcasting

def content (creature : Creature) : (field : Field) → field.Content
  | .name => creature.name
  | .source => creature.source
  | .subjectName => creature.subjectName
  | .capitalizedSubjectName => creature.capitalizedSubjectName
  | .possessiveName => creature.possessiveName
  | .capitalizedPossessiveName => creature.capitalizedPossessiveName
  | .pronouns => creature.pronouns
  | .size => creature.size
  | .creatureType => creature.creatureType
  | .customType => creature.customType
  | .subtype => creature.subtype
  | .group => creature.group
  | .alignment => creature.alignment
  | .hitDieOverride => creature.hitDieOverride
  | .hitDiceCount => creature.hitDiceCount
  | .hitPointsOverride => creature.hitPointsOverride
  | .armor => creature.armor
  | .armorBonus => creature.armorBonus
  | .armorDescription => creature.armorDescription
  | .extraArmorBonus => creature.extraArmorBonus
  | .armorClassOverride => creature.armorClassOverride
  | .armorClassDescription => creature.armorClassDescription
  | .shield => creature.shield
  | .speeds => creature.speeds
  | .hover => creature.hover
  | .speedNotes => creature.speedNotes
  | .scores => creature.scores
  | .saves => creature.saves
  | .skills => creature.skills
  | .vulnerabilities => creature.vulnerabilities
  | .resistances => creature.resistances
  | .immunities => creature.immunities
  | .nonmagicalResistance => creature.nonmagicalResistance
  | .nonmagicalImmunity => creature.nonmagicalImmunity
  | .customVulnerabilities => creature.customVulnerabilities
  | .customResistances => creature.customResistances
  | .customImmunities => creature.customImmunities
  | .conditionImmunities => creature.conditionImmunities
  | .senses => creature.senses
  | .blindBeyond => creature.blindBeyond
  | .languages => creature.languages
  | .unspokenLanguages => creature.unspokenLanguages
  | .telepathy => creature.telepathy
  | .challengeRatingOverride => creature.challengeRatingOverride
  | .expectedChallengeRating => creature.expectedChallengeRating
  | .weaponExpectations => creature.weaponExpectations
  | .actions => creature.actions
  | .multiattackDescription => creature.multiattackDescription
  | .features => creature.features
  | .reactions => creature.reactions
  | .legendaryActionCount => creature.legendaryActionCount
  | .legendaryDescription => creature.legendaryDescription
  | .legendaryActions => creature.legendaryActions
  | .spellcasting => creature.spellcasting
  | .innateSpellcasting => creature.innateSpellcasting

/-- The fields are all there is to a creature. -/
theorem ext_content {first second : Creature}
    (same : ∀ field, first.content field = second.content field) : first = second := by
  cases first
  cases second
  rw [Creature.mk.injEq]
  exact ⟨same .name, same .source, same .subjectName, same .capitalizedSubjectName,
    same .possessiveName, same .capitalizedPossessiveName, same .pronouns, same .size,
    same .creatureType, same .customType, same .subtype, same .group, same .alignment,
    same .hitDieOverride, same .hitDiceCount, same .hitPointsOverride, same .armor,
    same .armorBonus, same .armorDescription, same .extraArmorBonus, same .armorClassOverride,
    same .armorClassDescription, same .shield, same .speeds, same .hover, same .speedNotes,
    same .scores, same .saves, same .skills, same .vulnerabilities, same .resistances,
    same .immunities, same .nonmagicalResistance, same .nonmagicalImmunity,
    same .customVulnerabilities, same .customResistances, same .customImmunities,
    same .conditionImmunities, same .senses, same .blindBeyond, same .languages,
    same .unspokenLanguages, same .telepathy, same .challengeRatingOverride,
    same .expectedChallengeRating, same .weaponExpectations, same .actions,
    same .multiattackDescription, same .features, same .reactions, same .legendaryActionCount,
    same .legendaryDescription, same .legendaryActions, same .spellcasting,
    same .innateSpellcasting⟩

/-- Two creatures differ in some fields at most. -/
def AgreeOff (fields : List Field) (first second : Creature) : Prop :=
  ∀ field, field ∉ fields → first.content field = second.content field

end Creature

end Bestiary
