import Bestiary.Creature.Action
import Bestiary.Directive.Basic
import Bestiary.Text.Case

/-!
Creatures, as directives make them.
-/

namespace Bestiary

structure Scores where
  strength : Int := 10
  dexterity : Int := 10
  constitution : Int := 10
  intelligence : Int := 10
  wisdom : Int := 10
  charisma : Int := 10
  deriving DecidableEq, Repr

namespace Scores

def get (scores : Scores) : Ability → Int
  | .strength => scores.strength
  | .dexterity => scores.dexterity
  | .constitution => scores.constitution
  | .intelligence => scores.intelligence
  | .wisdom => scores.wisdom
  | .charisma => scores.charisma

def set (ability : Ability) (score : Int) (scores : Scores) : Scores :=
  match ability with
  | .strength => { scores with strength := score }
  | .dexterity => { scores with dexterity := score }
  | .constitution => { scores with constitution := score }
  | .intelligence => { scores with intelligence := score }
  | .wisdom => { scores with wisdom := score }
  | .charisma => { scores with charisma := score }

end Scores

structure Creature where
  name : Option String := none
  source : Option String := none
  subjectName : Option String := none
  capitalizedSubjectName : Option String := none
  possessiveName : Option String := none
  capitalizedPossessiveName : Option String := none
  pronouns : Pronouns := .it
  size : Size := .medium
  creatureType : Option CreatureType := none
  customType : Option String := none
  subtype : Option String := none
  group : Option String := none
  /-- The alignment as printed. -/
  alignment : String := "unaligned"
  hitDieOverride : Option Die := none
  hitDiceCount : Nat := 1
  hitPointsOverride : Option Nat := none
  armor : Option ArmorKind := none
  armorBonus : Int := 0
  armorDescription : Option String := none
  /-- A bonus beside that of the armor itself. -/
  extraArmorBonus : Int := 0
  armorClassOverride : Option Nat := none
  armorClassDescription : Option String := none
  shield : Bool := false
  speeds : List (String × Nat) := [("walk", 30)]
  hover : Bool := false
  speedNotes : Option String := none
  scores : Scores := {}
  saves : List Ability := []
  /-- How many times the proficiency bonus counts for a skill. -/
  skills : List (Skill × Nat) := []
  vulnerabilities : List DamageType := []
  resistances : List DamageType := []
  immunities : List DamageType := []
  nonmagicalResistance : Option NonmagicalVariant := none
  nonmagicalImmunity : Option NonmagicalVariant := none
  customVulnerabilities : List String := []
  customResistances : List String := []
  customImmunities : List String := []
  conditionImmunities : List Condition := []
  senses : List (String × Nat) := []
  blindBeyond : Bool := false
  languages : List String := []
  unspokenLanguages : List String := []
  telepathy : Option Nat := none
  challengeRatingOverride : Option Rating := none
  expectedChallengeRating : Option Rating := none
  weaponExpectations : List WeaponExpectation := []
  actions : List Action := []
  multiattackDescription : Option String := none
  features : List NamedEntry := []
  reactions : List NamedEntry := []
  legendaryActionCount : Nat := 3
  legendaryDescription : Option String := none
  legendaryActions : List LegendaryAction := []
  spellcasting : Option Spellcasting := none
  innateSpellcasting : Option InnateSpellcasting := none
  deriving DecidableEq, Repr

namespace Creature

def score (creature : Creature) (ability : Ability) : Int :=
  creature.scores.get ability

def modifier (creature : Creature) (ability : Ability) : Int :=
  Ability.modifier (creature.score ability)

/-- The hit die: the one that was given, or that of the size. -/
def hitDie (creature : Creature) : Die :=
  creature.hitDieOverride.getD creature.size.hitDie

def typeName (creature : Creature) : String :=
  match creature.customType, creature.creatureType with
  | some name, _ => name
  | none, some type => type.word
  | none, none => "creature"

def usesWeapon (weapon : Weapon) (action : Action) : Bool :=
  action.weapon? == some weapon

def findWeapon? (creature : Creature) (weapon : Weapon) : Option Action :=
  creature.actions.find? (usesWeapon weapon)

def sameName (first second : String) : Bool :=
  Text.foldCase first == Text.foldCase second

/-- The first action with a name, in whatever case. -/
def findAction? (creature : Creature) (name : String) : Option Action :=
  creature.actions.find? fun action => sameName action.name name

end Creature

end Bestiary
