import Bestiary.Directive.Basic
import Bestiary.Prose.Token
import Bestiary.Rules.Wording

/-!
The generated texts about spells: an introduction, and a sub-paragraph for
each list of spells.
-/

namespace Bestiary

open Prose

def spellLine (spells : List String) : String :=
  String.intercalate ", " (spells.map fun spell => structureMarkup .italic (escapeText spell))

def spellParagraph (heading : String) (spells : List String) : String :=
  structureMarkup .subParagraph heading ++ spellLine spells

def spellParagraph? (heading : String) (spells : List String) : String :=
  if spells.isEmpty then "" else spellParagraph heading spells

namespace Spellcasting

/-- The slots by spell level: those that are given, or those of the style. -/
def slotsByLevel (casting : Spellcasting) : List (Int × Int) :=
  let usual := SpellSlots.ofLevel casting.style casting.level
  match casting.slots with
  | some given => if given.isEmpty then usual else given
  | none => usual

def levelHeading (casting : Spellcasting) (level : Int) : String :=
  let count := (casting.slotsByLevel.lookup level).getD 0
  Wording.ordinal level ++ " level (" ++ Number.showInt count ++
    (if count = 1 then " slot" else " slots") ++ "):"

def spellsInOrder (casting : Spellcasting) : List (Int × List String) :=
  casting.spells.mergeSort fun first second => decide (first.1 ≤ second.1)

/-- The text about the spells of a class. -/
def introduction (casting : Spellcasting) : String :=
  let subject := expressionMarkup "Subj"
  subject ++ " is a " ++ Wording.ordinal casting.level.val ++ "-level spellcaster. " ++
    expressionMarkup "Posspro" ++ " spellcasting ability is " ++ casting.ability.fullName ++
    " (spell save DC " ++ expressionMarkup "spell_dc" ++ ", " ++ expressionMarkup "+spell_atk" ++
    " to hit with spell attacks). " ++ subject ++ " has the following " ++
    escapeText (Text.lower casting.className) ++ " spells prepared:"

def describe (casting : Spellcasting) : String :=
  casting.introduction ++ spellParagraph? "Cantrips (at will):" casting.cantrips ++
    String.join (casting.spellsInOrder.map fun entry =>
      spellParagraph (casting.levelHeading entry.1) entry.2)

end Spellcasting

namespace InnateSpellcasting

def usesHeading (uses : Int) (spells : List String) : String :=
  Number.showInt uses ++ "/day" ++ (if 1 < spells.length then " each" else "") ++ ":"

/-- The spells by the number of uses, most uses first. -/
def spellsInOrder (casting : InnateSpellcasting) : List (Int × List String) :=
  casting.perDay.mergeSort fun first second => decide (second.1 ≤ first.1)

def saveText (casting : InnateSpellcasting) : String :=
  match casting.saveDC with
  | some dc => Number.showInt dc
  | none => expressionMarkup ("8 + prof + " ++ casting.ability.shortWord)

def componentsText (casting : InnateSpellcasting) : String :=
  match casting.components with
  | some given => if given.isEmpty then usual else given
  | none => usual
where
  usual : String := "requiring no material components"

def introduction (casting : InnateSpellcasting) : String :=
  expressionMarkup "Poss" ++ " innate spellcasting ability is " ++ casting.ability.fullName ++
    " (spell save DC " ++ casting.saveText ++ "). " ++ expressionMarkup "Subj" ++
    " can innately cast the following spells, " ++ escapeText casting.componentsText ++ ":"

def describe (casting : InnateSpellcasting) : String :=
  casting.introduction ++ spellParagraph? "At will:" casting.atWill ++
    String.join (casting.spellsInOrder.map fun entry =>
      spellParagraph (usesHeading entry.1 entry.2) entry.2)

end InnateSpellcasting

end Bestiary
