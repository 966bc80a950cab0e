import Bestiary.Dice.Basic
import Bestiary.Rules.Wording

/-!
What a creature is: its size, type, alignment and pronouns.
-/

namespace Bestiary

inductive Size
  | tiny
  | small
  | medium
  | large
  | huge
  | gargantuan
  deriving DecidableEq, Repr, Inhabited

namespace Size

def all : List Size :=
  [tiny, small, medium, large, huge, gargantuan]

def word : Size → String
  | tiny => "tiny"
  | small => "small"
  | medium => "medium"
  | large => "large"
  | huge => "huge"
  | gargantuan => "gargantuan"

instance : Vocabulary Size := ⟨all, word, fun _ => none⟩

def displayName (size : Size) : String :=
  Text.capitalizeHead size.word

def hitDie : Size → Die
  | tiny => .d4
  | small => .d6
  | medium => .d8
  | large => .d10
  | huge => .d12
  | gargantuan => .d20

/-- How many times its usual dice a weapon made for a size rolls. -/
def weaponDiceMultiplier : Size → Nat
  | tiny | small | medium => 1
  | large => 2
  | huge => 3
  | gargantuan => 4

end Size

inductive CreatureType
  | aberration
  | beast
  | celestial
  | construct
  | dragon
  | elemental
  | fey
  | fiend
  | giant
  | humanoid
  | monstrosity
  | ooze
  | plant
  | undead
  deriving DecidableEq, Repr, Inhabited

namespace CreatureType

def all : List CreatureType :=
  [aberration, beast, celestial, construct, dragon, elemental, fey, fiend, giant, humanoid,
    monstrosity, ooze, plant, undead]

def word : CreatureType → String
  | aberration => "aberration"
  | beast => "beast"
  | celestial => "celestial"
  | construct => "construct"
  | dragon => "dragon"
  | elemental => "elemental"
  | fey => "fey"
  | fiend => "fiend"
  | giant => "giant"
  | humanoid => "humanoid"
  | monstrosity => "monstrosity"
  | ooze => "ooze"
  | plant => "plant"
  | undead => "undead"

instance : Vocabulary CreatureType := ⟨all, word, fun _ => none⟩

end CreatureType

inductive Alignment
  | anyAlignment
  | anyNonGood
  | anyNonEvil
  | anyNonLawful
  | anyNonChaotic
  | anyGood
  | anyEvil
  | anyLawful
  | anyChaotic
  | lawfulGood
  | neutralGood
  | chaoticGood
  | lawfulNeutral
  | neutral
  | chaoticNeutral
  | lawfulEvil
  | neutralEvil
  | chaoticEvil
  | unaligned
  deriving DecidableEq, Repr, Inhabited

namespace Alignment

def all : List Alignment :=
  [anyAlignment, anyNonGood, anyNonEvil, anyNonLawful, anyNonChaotic, anyGood, anyEvil, anyLawful,
    anyChaotic, lawfulGood, neutralGood, chaoticGood, lawfulNeutral, neutral, chaoticNeutral,
    lawfulEvil, neutralEvil, chaoticEvil, unaligned]

def word : Alignment → String
  | anyAlignment => "any_alignment"
  | anyNonGood => "any_non_good"
  | anyNonEvil => "any_non_evil"
  | anyNonLawful => "any_non_lawful"
  | anyNonChaotic => "any_non_chaotic"
  | anyGood => "any_good"
  | anyEvil => "any_evil"
  | anyLawful => "any_lawful"
  | anyChaotic => "any_chaotic"
  | lawfulGood => "lawful_good"
  | neutralGood => "neutral_good"
  | chaoticGood => "chaotic_good"
  | lawfulNeutral => "lawful_neutral"
  | neutral => "neutral"
  | chaoticNeutral => "chaotic_neutral"
  | lawfulEvil => "lawful_evil"
  | neutralEvil => "neutral_evil"
  | chaoticEvil => "chaotic_evil"
  | unaligned => "unaligned"

/-- Loose spellings are accepted, and the longer name of the neutral alignment. -/
def spelling? (text : String) : Option Alignment :=
  if Vocabulary.normalized text == "true_neutral" then some neutral
  else Vocabulary.looseSpelling? all word text

instance : Vocabulary Alignment := ⟨all, word, spelling?⟩

def displayName : Alignment → String
  | anyNonGood => "any non-good"
  | anyNonEvil => "any non-evil"
  | anyNonLawful => "any non-lawful"
  | anyNonChaotic => "any non-chaotic"
  | other =>
      String.ofList (other.word.toList.map fun character =>
        if character == '_' then ' ' else character)

end Alignment

inductive Pronouns
  | it
  | he
  | she
  | they
  deriving DecidableEq, Repr, Inhabited

namespace Pronouns

def all : List Pronouns :=
  [it, he, she, they]

def word : Pronouns → String
  | it => "it"
  | he => "he"
  | she => "she"
  | they => "they"

instance : Vocabulary Pronouns := ⟨all, word, fun _ => none⟩

def subject : Pronouns → String
  | it => "it"
  | he => "he"
  | she => "she"
  | they => "they"

def object : Pronouns → String
  | it => "it"
  | he => "him"
  | she => "her"
  | they => "them"

def possessive : Pronouns → String
  | it => "its"
  | he => "his"
  | she => "her"
  | they => "their"

def reflexive : Pronouns → String
  | it => "itself"
  | he => "himself"
  | she => "herself"
  | they => "themselves"

end Pronouns

end Bestiary
