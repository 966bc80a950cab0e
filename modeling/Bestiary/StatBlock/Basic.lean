import Bestiary.Creature.Derivation
import Bestiary.Creature.Statistics
import Bestiary.Document.Value

/-!
Stat blocks: derived creatures as they are printed, line by line. The lines of
numbers follow from a creature and its proficiency bonus alone.
-/

namespace Bestiary.Creature

/-- Numbers by name: those with a standard name first, in the order of these names, then the others
as they were recorded. -/
def standardFirst (standard : List String) (recorded : List (String × Nat)) :
    List (String × Nat) :=
  (standard.filterMap fun name => (recorded.lookup name).map fun amount => (name, amount)) ++
    recorded.filter fun entry => !standard.contains entry.1

def distanceText (entry : String × Nat) : String :=
  entry.1 ++ " " ++ Number.showInt entry.2 ++ " ft."

def identityLine (creature : Creature) : String :=
  creature.size.displayName ++ " " ++ creature.typeName ++
    (match creature.subtype with
      | none | some "" => ""
      | some subtype => " (" ++ subtype ++ ")") ++
    ", " ++ creature.alignment

def printedSpeeds : List String := ["burrow", "climb", "fly", "swim"]

def speedText (creature : Creature) (entry : String × Nat) : String :=
  distanceText entry ++ (if entry.1 == "fly" && creature.hover then " (hover)" else "")

/-- The walking speed, which has no name and is zero if there is none, and the other speeds. -/
def speedLine (creature : Creature) : String :=
  let walking := Number.showInt ((creature.speeds.lookup "walk").getD 0) ++ " ft."
  let others := standardFirst printedSpeeds (removeEntry creature.speeds "walk")
  String.intercalate ", " (walking :: others.map creature.speedText) ++
    match creature.speedNotes with
    | none | some "" => ""
    | some notes => " (" ++ notes ++ ")"

def savingThrowsLine (creature : Creature) (proficiency : Int) : Option String :=
  Wording.joined? ", " ((Ability.all.filter creature.saves.contains).map fun ability =>
    ability.shortName ++ " " ++ Number.showSigned (creature.saveBonus ability proficiency))

/-- The skills that the creature is proficient in, in the order of their printed names. -/
def skillsLine (creature : Creature) (proficiency : Int) : Option String :=
  let recorded := creature.skills.map Prod.fst
  Wording.joined? ", " ((Skill.all.filter recorded.contains).map fun skill =>
    skill.displayName ++ " " ++ Number.showSigned (creature.skillBonus skill proficiency))

def vulnerabilitiesLine (creature : Creature) : Option String :=
  damageLine creature.vulnerabilities creature.customVulnerabilities none

def resistancesLine (creature : Creature) : Option String :=
  damageLine creature.resistances creature.customResistances creature.nonmagicalResistance

def immunitiesLine (creature : Creature) : Option String :=
  damageLine creature.immunities creature.customImmunities creature.nonmagicalImmunity

def conditionsLine (creature : Creature) : Option String :=
  Wording.joined? ", " (creature.conditionImmunities.map Condition.word)

def printedSenses : List String := ["blindsight", "darkvision", "tremorsense", "truesight"]

def senseText (creature : Creature) (entry : String × Nat) : String :=
  distanceText entry ++
    (if entry.1 == "blindsight" && creature.blindBeyond then " (blind beyond this radius)" else "")

/-- The senses, and the passive perception that every creature has. -/
def sensesLine (creature : Creature) (proficiency : Int) : String :=
  String.intercalate ", "
    ((standardFirst printedSenses creature.senses).map creature.senseText ++
      ["passive Perception " ++ Number.showInt (creature.passivePerception proficiency)])

/-- The languages that are spoken, those that are only understood, and telepathy. -/
def languagesLine (creature : Creature) : Option String :=
  let understood :=
    if creature.unspokenLanguages.isEmpty then []
    else ["understands " ++ Wording.andJoin creature.unspokenLanguages ++ " but can't speak"]
  let telepathy := creature.telepathy.map fun distance =>
    "telepathy " ++ Number.showInt distance ++ " ft."
  Wording.joined? ", " (creature.languages ++ understood ++ telepathy.toList)

end Bestiary.Creature

namespace Bestiary

open Prose

structure StatBlock where
  name : String
  size : String
  creatureType : String
  subtype : Option String
  group : Option String
  alignment : String
  /-- The line under the name. -/
  identity : String
  armorClass : String
  hitPoints : String
  speed : String
  /-- The scores of the abilities, each with its modifier. -/
  scores : List (Ability × String)
  savingThrows : Option String
  skills : Option String
  vulnerabilities : Option String
  resistances : Option String
  immunities : Option String
  conditionImmunities : Option String
  senses : String
  languages : Option String
  challengeRating : String
  proficiency : String
  features : List NamedText
  actions : List NamedText
  reactions : List NamedText
  legendaryIntroduction : Option StructuredText
  legendaryActions : List NamedText
  source : Option String
  deriving DecidableEq, Repr

def Derived.armorClassLine (derived : Derived) : String :=
  Number.showInt derived.armorClass ++
    match derived.armorDescription with
    | none | some "" => ""
    | some words => " (" ++ words ++ ")"

def Derived.hitPointsLine (derived : Derived) : String :=
  derived.hitDice.displayAs derived.hitPoints

def Derived.isWritable (derived : Derived) : Bool :=
  Number.isWritable derived.armorClass && derived.hitDice.isWritableAs derived.hitPoints

def DerivedCreature.statBlock (built : DerivedCreature) : StatBlock :=
  let creature := built.creature
  let derived := built.derived
  let proficiency := derived.proficiency
  { name := built.name
    size := creature.size.displayName
    creatureType := creature.typeName
    subtype := creature.subtype
    group := creature.group
    alignment := creature.alignment
    identity := creature.identityLine
    armorClass := derived.armorClassLine
    hitPoints := derived.hitPointsLine
    speed := creature.speedLine
    scores := Ability.all.map fun ability =>
      (ability, Ability.scoreText (creature.score ability))
    savingThrows := creature.savingThrowsLine proficiency
    skills := creature.skillsLine proficiency
    vulnerabilities := creature.vulnerabilitiesLine
    resistances := creature.resistancesLine
    immunities := creature.immunitiesLine
    conditionImmunities := creature.conditionsLine
    senses := creature.sensesLine proficiency
    languages := creature.languagesLine
    challengeRating := derived.challengeRating.line
    proficiency := Number.showSigned proficiency
    features := derived.features
    actions := derived.actions
    reactions := derived.reactions
    legendaryIntroduction := derived.legendaryIntroduction
    legendaryActions := derived.legendaryActions
    source := creature.source }

/-- The stat block of a derived creature, if its lines can be written. -/
def DerivedCreature.statBlock? (built : DerivedCreature) : Option StatBlock :=
  if built.derived.isWritable then some built.statBlock else none

end Bestiary
