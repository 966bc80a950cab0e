import Bestiary.Combat.Usage
import Bestiary.Combat.Weapon
import Bestiary.Number.Binary64
import Bestiary.Rules.Armor
import Bestiary.Rules.Challenge
import Bestiary.Rules.Spellcasting

/-!
Directives: the steps by which a document describes a creature.
-/

namespace Bestiary

inductive IncludeArgument
  | text (content : String)
  | number (value : Int)
  deriving DecidableEq, Repr

/-- The ways in which text refers to the creature. -/
inductive SubjectForm
  | subject
  | capitalizedSubject
  | possessive
  | capitalizedPossessive
  deriving DecidableEq, Repr

namespace SubjectForm

def all : List SubjectForm := [subject, capitalizedSubject, possessive, capitalizedPossessive]

def word : SubjectForm → String
  | subject => "subject_name"
  | capitalizedSubject => "capitalized_subject_name"
  | possessive => "possessive_name"
  | capitalizedPossessive => "capitalized_possessive_name"

end SubjectForm

inductive Movement
  | walk
  | swim
  | fly
  | burrow
  | climb
  deriving DecidableEq, Repr

namespace Movement

def all : List Movement := [walk, swim, fly, burrow, climb]

def word : Movement → String
  | walk => "walk"
  | swim => "swim"
  | fly => "fly"
  | burrow => "burrow"
  | climb => "climb"

end Movement

/-- The standard senses that are no more than a distance. -/
inductive StandardSense
  | darkvision
  | truesight
  | tremorsense
  deriving DecidableEq, Repr

namespace StandardSense

def all : List StandardSense := [darkvision, truesight, tremorsense]

def word : StandardSense → String
  | darkvision => "darkvision"
  | truesight => "truesight"
  | tremorsense => "tremorsense"

end StandardSense

/-- What becomes of a skill: proficient, doubly proficient, or neither any more. -/
inductive SkillChange
  | proficient
  | expert
  | removed
  deriving DecidableEq, Repr

namespace SkillChange

def all : List SkillChange := [proficient, expert, removed]

def word : SkillChange → String
  | proficient => "skills"
  | expert => "expertise"
  | removed => "remove_skills"

end SkillChange

/-- How a creature takes a kind of damage. -/
inductive DamageRelation
  | vulnerability
  | resistance
  | immunity
  deriving DecidableEq, Repr

namespace DamageRelation

def all : List DamageRelation := [vulnerability, resistance, immunity]

def word : DamageRelation → String
  | vulnerability => "vulnerability"
  | resistance => "resistance"
  | immunity => "immunity"

end DamageRelation

/-- The ratings that have a directive of their own. -/
inductive ChallengeShortcut
  | none
  | half
  | quarter
  | eighth
  deriving DecidableEq, Repr

namespace ChallengeShortcut

def all : List ChallengeShortcut := [none, half, quarter, eighth]

def word : ChallengeShortcut → String
  | none => "no_challenge"
  | half => "half_challenge"
  | quarter => "quarter_challenge"
  | eighth => "eighth_challenge"

def rating : ChallengeShortcut → Rating
  | none => Rating.lowest
  | half => Rating.half
  | quarter => Rating.quarter
  | eighth => Rating.eighth

end ChallengeShortcut

/-- The lists from which something can be removed by name. -/
inductive Section
  | actions
  | features
  | reactions
  | legendaryActions
  deriving DecidableEq, Repr

namespace Section

def all : List Section := [actions, features, reactions, legendaryActions]

def word : Section → String
  | actions => "remove_action"
  | features => "remove_feature"
  | reactions => "remove_reaction"
  | legendaryActions => "remove_legendary_action"

end Section

/-- An entry with a name and authored text. -/
structure NamedEntry where
  name : String
  description : String
  usage : Option Usage := none
  deriving DecidableEq, Repr

structure WeaponEntry where
  weapon : Weapon
  magic : Int := 0
  multiattack : Nat := 0
  riders : List Rider := []
  deriving DecidableEq, Repr

structure AttackEntry where
  name : String
  attack : Attack
  effect : Effect
  riders : List Rider := []
  usage : Option Usage := none
  multiattack : Nat := 0
  deriving DecidableEq, Repr

/-- What a weapon should turn out to be. -/
inductive WeaponExpectation
  | attack (weapon : Weapon) (expected : Attack)
  | effect (weapon : Weapon) (expected : Effect)
  deriving DecidableEq, Repr

structure LegendaryAction where
  name : String
  description : String
  cost : Nat := 1
  deriving DecidableEq, Repr

structure Spellcasting where
  ability : Ability
  level : CasterLevel
  className : String
  style : SpellcastingStyle := .full
  cantrips : List String := []
  /-- Spells by spell level. -/
  spells : List (Int × List String) := []
  /-- Slots by spell level, if they are not those of the style. -/
  slots : Option (List (Int × Int)) := none
  saveDC : Option Nat := none
  attackBonus : Option Int := none
  deriving DecidableEq, Repr

structure InnateSpellcasting where
  ability : Ability
  atWill : List String := []
  /-- Spells by the number of uses a day. -/
  perDay : List (Int × List String) := []
  saveDC : Option Nat := none
  attackBonus : Option Int := none
  components : Option String := none
  deriving DecidableEq, Repr

inductive Directive
  /-- The versions of the format that a document is written for. -/
  | version (minimum : Number.Binary64) (maximum : Option Number.Binary64)
  /-- Put another document in this place. -/
  | inclusion (reference : String) (arguments : List (String × IncludeArgument))
  | name (name : String)
  | source (source : String)
  | subject (form : SubjectForm) (name : String)
  | pronouns (pronouns : Pronouns)
  | size (size : Size)
  | sizeShortcut (size : Size)
  | creatureType (type : CreatureType)
  | customType (name : String)
  | subtype (subtype : String)
  | group (group : String)
  | alignment (alignment : Alignment)
  | customAlignment (alignment : String)
  | hitDie (die : Die)
  | hitDiceCount (count : Nat)
  | hitPoints (points : Nat)
  | armor (kind : ArmorKind) (bonus : Int) (description : Option String)
  | armorBonus (bonus : Int)
  | armorClass (value : Nat) (description : Option String)
  | shield (carried : Bool)
  | movement (movement : Movement) (distance : Nat)
  | hover
  | speed (name : String) (distance : Nat)
  | speedNotes (notes : String)
  | abilityScore (ability : Ability) (score : Int)
  | saves (abilities : List Ability)
  | removeSaves (abilities : List Ability)
  | skills (change : SkillChange) (skills : List Skill)
  | damageTypes (relation : DamageRelation) (types : List DamageType)
  | nonmagicalResistance (variant : NonmagicalVariant)
  | nonmagicalImmunity (variant : NonmagicalVariant)
  | customDamage (relation : DamageRelation) (text : String)
  | conditionImmunity (conditions : List Condition)
  | standardSense (sense : StandardSense) (distance : Nat)
  | blindsight (distance : Nat) (blindBeyond : Bool)
  | sense (name : String) (distance : Nat)
  | languages (languages : List String)
  | unspokenLanguages (languages : List String)
  | telepathy (distance : Nat)
  | challengeRating (rating : Rating)
  | expectChallengeRating (rating : Rating)
  | challengeShortcut (shortcut : ChallengeShortcut)
  | weapon (entry : WeaponEntry)
  | attack (entry : AttackEntry)
  | removeWeapon (weapon : Weapon)
  | overrideWeaponAttack (weapon : Weapon) (attack : Attack)
  | overrideWeaponEffect (weapon : Weapon) (effect : Effect)
  | expectWeapon (expectation : WeaponExpectation)
  | action (entry : NamedEntry)
  | overrideDescription (name description : String)
  | remove (place : Section) (name : String)
  | multiattack (description : String)
  | feature (entry : NamedEntry)
  | reaction (entry : NamedEntry)
  | legendaryActions (count : Nat) (actions : List LegendaryAction) (description : Option String)
  | spellcasting (casting : Spellcasting)
  | innateSpellcasting (casting : InnateSpellcasting)

def WeaponExpectation.tag : WeaponExpectation → String
  | attack _ _ => "expect_weapon_attack"
  | effect _ _ => "expect_weapon_effect"

def WeaponExpectation.weapon : WeaponExpectation → Weapon
  | attack weapon _ => weapon
  | effect weapon _ => weapon

def Directive.tag : Directive → String
  | version _ _ => "version"
  | inclusion _ _ => "include"
  | name _ => "name"
  | source _ => "source"
  | subject form _ => form.word
  | pronouns _ => "pronouns"
  | size _ => "size"
  | sizeShortcut named => named.word
  | creatureType _ => "type"
  | customType _ => "custom_type"
  | subtype _ => "subtype"
  | group _ => "group"
  | alignment _ => "alignment"
  | customAlignment _ => "custom_alignment"
  | hitDie _ => "hit_die"
  | hitDiceCount _ => "hit_dice_count"
  | hitPoints _ => "hit_points"
  | armor _ _ _ => "armor"
  | armorBonus _ => "armor_bonus"
  | armorClass _ _ => "armor_class"
  | shield carried => if carried then "shield" else "no_shield"
  | movement way _ => way.word
  | hover => "hover"
  | speed _ _ => "speed"
  | speedNotes _ => "speed_notes"
  | abilityScore ability _ => ability.shortWord
  | saves _ => "saves"
  | removeSaves _ => "remove_saves"
  | skills change _ => change.word
  | damageTypes relation _ => relation.word
  | nonmagicalResistance _ => "nonmagical_resistance"
  | nonmagicalImmunity _ => "nonmagical_immunity"
  | customDamage relation _ => "custom_" ++ relation.word
  | conditionImmunity _ => "condition_immunity"
  | standardSense standard _ => standard.word
  | blindsight _ _ => "blindsight"
  | sense _ _ => "sense"
  | languages _ => "languages"
  | unspokenLanguages _ => "unspoken_languages"
  | telepathy _ => "telepathy"
  | challengeRating _ => "challenge_rating"
  | expectChallengeRating _ => "expect_challenge_rating"
  | challengeShortcut shortcut => shortcut.word
  | weapon _ => "weapon"
  | attack _ => "attack"
  | removeWeapon _ => "remove_weapon"
  | overrideWeaponAttack _ _ => "override_weapon_attack"
  | overrideWeaponEffect _ _ => "override_weapon_effect"
  | expectWeapon expectation => expectation.tag
  | action _ => "action"
  | overrideDescription _ _ => "override_action_description"
  | remove place _ => place.word
  | multiattack _ => "multiattack"
  | feature _ => "feature"
  | reaction _ => "reaction"
  | legendaryActions _ _ _ => "legendary_actions"
  | spellcasting _ => "spellcasting"
  | innateSpellcasting _ => "innate_spellcasting"

end Bestiary
