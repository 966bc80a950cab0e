import Bestiary.Number.Numeral
import Bestiary.Rules.Wording

/-!
Abilities and the skills that rest on them.
-/

namespace Bestiary

inductive Ability
  | strength
  | dexterity
  | constitution
  | intelligence
  | wisdom
  | charisma
  deriving DecidableEq, Repr, Inhabited

namespace Ability

def all : List Ability := [strength, dexterity, constitution, intelligence, wisdom, charisma]

def word : Ability → String
  | strength => "strength"
  | dexterity => "dexterity"
  | constitution => "constitution"
  | intelligence => "intelligence"
  | wisdom => "wisdom"
  | charisma => "charisma"

def shortWord : Ability → String
  | strength => "str"
  | dexterity => "dex"
  | constitution => "con"
  | intelligence => "int"
  | wisdom => "wis"
  | charisma => "cha"

def fullName (ability : Ability) : String :=
  Text.capitalizeHead ability.word

def shortName (ability : Ability) : String :=
  Text.capitalizeHead ability.shortWord

def abbreviation : Ability → String
  | strength => "STR"
  | dexterity => "DEX"
  | constitution => "CON"
  | intelligence => "INT"
  | wisdom => "WIS"
  | charisma => "CHA"

/-- Full and short words are accepted, loosely spelled. -/
def spelling? (text : String) : Option Ability :=
  let wanted := Vocabulary.normalized text
  all.find? fun ability => ability.word == wanted || ability.shortWord == wanted

instance : Vocabulary Ability := ⟨all, word, spelling?⟩

/-- The modifier that goes with a score: half of what it has above ten, rounded down. -/
def modifier (score : Int) : Int :=
  Int.fdiv (score - 10) 2

def scoreText (score : Int) : String :=
  Number.showInt score ++ " (" ++ Number.showSigned (modifier score) ++ ")"

end Ability

inductive Skill
  | acrobatics
  | animalHandling
  | arcana
  | athletics
  | deception
  | history
  | insight
  | intimidation
  | investigation
  | medicine
  | nature
  | perception
  | performance
  | persuasion
  | religion
  | sleightOfHand
  | stealth
  | survival
  deriving DecidableEq, Repr, Inhabited

namespace Skill

def all : List Skill :=
  [acrobatics, animalHandling, arcana, athletics, deception, history, insight, intimidation,
    investigation, medicine, nature, perception, performance, persuasion, religion, sleightOfHand,
    stealth, survival]

def word : Skill → String
  | acrobatics => "acrobatics"
  | animalHandling => "animal_handling"
  | arcana => "arcana"
  | athletics => "athletics"
  | deception => "deception"
  | history => "history"
  | insight => "insight"
  | intimidation => "intimidation"
  | investigation => "investigation"
  | medicine => "medicine"
  | nature => "nature"
  | perception => "perception"
  | performance => "performance"
  | persuasion => "persuasion"
  | religion => "religion"
  | sleightOfHand => "sleight_of_hand"
  | stealth => "stealth"
  | survival => "survival"

instance : Vocabulary Skill := ⟨all, word, Vocabulary.looseSpelling? all word⟩

def ability : Skill → Ability
  | athletics => .strength
  | acrobatics | sleightOfHand | stealth => .dexterity
  | arcana | history | investigation | nature | religion => .intelligence
  | animalHandling | insight | medicine | perception | survival => .wisdom
  | deception | intimidation | performance | persuasion => .charisma

def displayName : Skill → String
  | acrobatics => "Acrobatics"
  | animalHandling => "Animal Handling"
  | arcana => "Arcana"
  | athletics => "Athletics"
  | deception => "Deception"
  | history => "History"
  | insight => "Insight"
  | intimidation => "Intimidation"
  | investigation => "Investigation"
  | medicine => "Medicine"
  | nature => "Nature"
  | perception => "Perception"
  | performance => "Performance"
  | persuasion => "Persuasion"
  | religion => "Religion"
  | sleightOfHand => "Sleight of Hand"
  | stealth => "Stealth"
  | survival => "Survival"

end Skill

end Bestiary
