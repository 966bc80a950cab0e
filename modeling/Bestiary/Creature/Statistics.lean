import Bestiary.Creature.Basic
import Bestiary.Prose.Value

/-!
The statistics that follow from a creature's abilities, armor and hit dice,
and the variables that its texts may use.
-/

namespace Bestiary.Creature

/-- The modifier of attacks that may use strength or dexterity; with equal scores it is that of
dexterity. -/
def bestModifier (creature : Creature) : Int :=
  if creature.score .dexterity < creature.score .strength then creature.modifier .strength
  else creature.modifier .dexterity

def modifiers (creature : Creature) : List (String × Int) :=
  Ability.all.map (fun ability => (ability.shortWord, creature.modifier ability)) ++
    [("atk", creature.bestModifier)]

def saveBonus (creature : Creature) (ability : Ability) (proficiency : Int) : Int :=
  creature.modifier ability + (if creature.saves.contains ability then proficiency else 0)

/-- How many times the proficiency bonus counts for a skill. -/
def skillMultiplier (creature : Creature) (skill : Skill) : Nat :=
  (creature.skills.lookup skill).getD 0

def skillBonus (creature : Creature) (skill : Skill) (proficiency : Int) : Int :=
  creature.modifier skill.ability + proficiency * creature.skillMultiplier skill

def passivePerception (creature : Creature) (proficiency : Int) : Int :=
  10 + creature.skillBonus .perception proficiency

/-- The ability that spells are cast with: that of the class, or of the innate spells, or
charisma. -/
def spellAbility (creature : Creature) : Ability :=
  match creature.spellcasting, creature.innateSpellcasting with
  | some casting, _ => casting.ability
  | none, some casting => casting.ability
  | none, none => .charisma

/-- The spell attack bonus; one that is given wins, that of the class first. -/
def spellAttackBonus (creature : Creature) (proficiency : Int) : Int :=
  let given :=
    creature.spellcasting.bind Spellcasting.attackBonus <|>
      creature.innateSpellcasting.bind InnateSpellcasting.attackBonus
  given.getD (proficiency + creature.modifier creature.spellAbility)

/-- The difficulty of saving throws against spells; one that is given wins, that of the class
first. -/
def spellSaveDC (creature : Creature) (proficiency : Int) : Int :=
  let given :=
    creature.spellcasting.bind Spellcasting.saveDC <|>
      creature.innateSpellcasting.bind InnateSpellcasting.saveDC
  match given with
  | some dc => dc
  | none => 8 + proficiency + creature.modifier creature.spellAbility

/-- The armor class without shield and further bonuses, and the words for the armor. -/
def wornArmor (creature : Creature) : Int × List String :=
  let dexterity := creature.modifier .dexterity
  match creature.armor with
  | none => (10 + dexterity, [])
  | some kind =>
      let description :=
        match creature.armorDescription with
        | some given => if given.isEmpty then kind.description else given
        | none => kind.description
      (kind.base + kind.dexterityRule.allows dexterity + creature.armorBonus, [description])

def armorClass (creature : Creature) : Int × Option String :=
  match creature.armorClassOverride with
  | some value => (value, creature.armorClassDescription)
  | none =>
      let (worn, words) := creature.wornArmor
      let (value, parts) :=
        if creature.shield then (worn + 2, words ++ ["shield"]) else (worn, words)
      (value + creature.extraArmorBonus, Wording.joined? ", " parts)

/-- The hit dice, with the constitution modifier for each die. -/
def hitDice (creature : Creature) : Dice :=
  .single creature.hitDiceCount creature.hitDie
    (creature.hitDiceCount * creature.modifier .constitution)

/-- The hit points: each die counts its average rounded down and the constitution modifier, and
there is at least one. -/
def hitPoints (creature : Creature) : Int :=
  match creature.hitPointsOverride with
  | some points => points
  | none =>
      max (creature.hitDiceCount * creature.hitDie.flooredAverage +
        creature.hitDiceCount * creature.modifier .constitution) 1

open Prose

def subject (creature : Creature) : String :=
  creature.subjectName.getD ("the " ++ Text.lower (creature.name.getD ""))

/-- How texts speak of the creature at the start of a sentence. -/
def capitalizedSubject (creature : Creature) : String :=
  creature.capitalizedSubjectName.getD (Text.capitalizeHead creature.subject)

def possessive (creature : Creature) : String :=
  creature.possessiveName.getD (creature.subject ++ "'s")

def capitalizedPossessive (creature : Creature) : String :=
  creature.capitalizedPossessiveName.getD (Text.capitalizeHead creature.possessive)

/-- The pronouns of a creature by the names of their variables. -/
def pronounForms (creature : Creature) : List (String × String) :=
  [("subjpro", creature.pronouns.subject), ("objpro", creature.pronouns.object),
    ("posspro", creature.pronouns.possessive), ("refpro", creature.pronouns.reflexive)]

def textVariables (creature : Creature) : List (String × String) :=
  [("name", creature.name.getD ""), ("subj", creature.subject),
    ("Subj", creature.capitalizedSubject), ("poss", creature.possessive),
    ("Poss", creature.capitalizedPossessive)] ++
  creature.pronounForms ++
  creature.pronounForms.map (fun form =>
    (Text.capitalizeHead form.1, Text.capitalizeHead form.2)) ++
  [("size", creature.size.word), ("type", creature.typeName),
    ("subtype", creature.subtype.getD ""), ("group", creature.group.getD ""),
    ("alignment", creature.alignment)]

def numberVariables (creature : Creature) (proficiency : Int) : List (String × Int) :=
  [("hit_points", creature.hitPoints), ("armor_class", creature.armorClass.1),
    ("prof", proficiency), ("spell_atk", creature.spellAttackBonus proficiency),
    ("spell_dc", creature.spellSaveDC proficiency)] ++
  Ability.all.map (fun ability => (ability.word, creature.score ability)) ++
  Ability.all.map (fun ability =>
    (ability.shortWord ++ "_save", creature.saveBonus ability proficiency)) ++
  creature.modifiers

def proseVariables (creature : Creature) (proficiency : Int) : List (String × ProseValue) :=
  creature.textVariables.map (fun entry => (entry.1, .text entry.2)) ++
  [("hit_dice", .dice creature.hitDice false)] ++
  (creature.numberVariables proficiency).map (fun entry => (entry.1, .number entry.2 false))

end Bestiary.Creature
