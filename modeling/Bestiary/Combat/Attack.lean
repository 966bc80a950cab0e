import Bestiary.Number.Numeral
import Bestiary.Prose.Token
import Bestiary.Rules.Ability

/-!
The attack roll: what is rolled, how far it reaches, and where the bonus of an
attack or of its damage comes from.
-/

namespace Bestiary

inductive BonusSource
  /-- Strength in melee, dexterity at range, and the better of the two for attacks that are both. -/
  | usual
  | ability (ability : Ability)
  /-- The better of strength and dexterity. -/
  | best
  /-- The spell attack bonus. -/
  | spell
  | none
  deriving DecidableEq, Repr, Inhabited

namespace BonusSource

def all : List BonusSource :=
  [usual] ++ Ability.all.map ability ++ [best, spell, none]

def word : BonusSource → String
  | usual => "default"
  | ability source => source.shortWord
  | best => "best"
  | spell => "spell"
  | none => "none"

def spelling? (text : String) : Option BonusSource :=
  (Vocabulary.ofText? text : Option Ability).map ability

instance : Vocabulary BonusSource := ⟨all, word, spelling?⟩

/-- The variable that holds the modifier, if the bonus has one; `usualVariable` is that of the
attack. -/
def modifierName? (usualVariable : String) : BonusSource → Option String
  | usual => some usualVariable
  | ability source => some source.shortWord
  | best => some "atk"
  | spell => Option.none
  | none => Option.none

def toHitExpression (usualVariable : String) (source : BonusSource) : String :=
  match source with
  | spell => "spell_atk"
  | other =>
      match other.modifierName? usualVariable with
      | some name => name ++ " + prof"
      | Option.none => "prof"

end BonusSource

/-- A bonus: a fixed number, or a modifier that depends on the creature. -/
inductive Bonus
  | fixed (amount : Int)
  | modifier (source : BonusSource)
  deriving DecidableEq, Repr, Inhabited

namespace Bonus

def toHitExpression (usualVariable : String) : Bonus → String
  | fixed amount => Number.showInt amount
  | modifier source => source.toHitExpression usualVariable

/-- An expression with a bonus added to it; nothing is added for zero or for no modifier. -/
def addTo (base usualVariable : String) : Bonus → String
  | fixed amount => if amount = 0 then base else base ++ " + " ++ Number.showInt amount
  | modifier source =>
      match source.modifierName? usualVariable with
      | some name => base ++ " + " ++ name
      | none => base

/-- What a bonus adds to damage when the modifiers are known; an unknown one adds nothing. -/
def damageValue (modifiers : List (String × Int)) (usualVariable : String) : Bonus → Int
  | fixed amount => amount
  | modifier source =>
      match source.modifierName? usualVariable with
      | some name => (modifiers.lookup name).getD 0
      | none => 0

end Bonus

inductive AttackKind
  | weapon
  | spell
  | natural
  deriving DecidableEq, Repr, Inhabited

namespace AttackKind

def all : List AttackKind := [weapon, spell, natural]

def word : AttackKind → String
  | weapon => "weapon"
  | spell => "spell"
  | natural => "natural"

instance : Vocabulary AttackKind := ⟨all, word, fun _ => none⟩

/-- The word before "Attack"; natural weapons are weapons. -/
def label : AttackKind → String
  | spell => "Spell"
  | _ => "Weapon"

end AttackKind

structure Attack where
  kind : Option AttackKind := some .weapon
  bonus : Bonus := .modifier .usual
  /-- A flat bonus to the roll. -/
  magic : Int := 0
  /-- Feet; an attack that has one is a melee attack. -/
  reach : Option Nat := none
  /-- Feet; an attack that has one is a ranged attack. -/
  range : Option Nat := none
  longRange : Option Nat := none
  target : String := "one target"
  deriving DecidableEq, Repr, Inhabited

namespace Attack

def isMelee (attack : Attack) : Bool := attack.reach.isSome

def isRanged (attack : Attack) : Bool := attack.range.isSome

def usualVariable (attack : Attack) : String :=
  match attack.isMelee, attack.isRanged with
  | true, false => "str"
  | false, true => "dex"
  | _, _ => "atk"

def feet (distance : Nat) : String :=
  Number.showInt distance ++ " ft."

/-- The range of an attack, with the long range if there is one. -/
def rangeText (range : Nat) (longRange : Option Nat) : String :=
  match longRange with
  | some far => "range " ++ Number.showInt range ++ "/" ++ feet far
  | none => "range " ++ feet range

/-- Where an attack reaches and what it hits. -/
def distanceText (attack : Attack) : String :=
  match attack.reach, attack.range with
  | some reach, some range =>
      "reach " ++ feet reach ++ " or " ++ rangeText range attack.longRange ++ ", " ++ attack.target
  | some reach, none => "reach " ++ feet reach ++ ", " ++ attack.target
  | none, some range => rangeText range attack.longRange ++ ", " ++ attack.target
  | none, none => attack.target

def modeText (attack : Attack) : String :=
  match attack.isMelee, attack.isRanged with
  | true, true => "Melee or Ranged "
  | true, false => "Melee "
  | false, true => "Ranged "
  | false, false => ""

/-- A magic bonus at the end of an expression; zero is not written. -/
def magicSuffix (magic : Int) : String :=
  if 0 < magic then " + " ++ Number.showInt magic
  else if magic < 0 then " - " ++ Number.showInt (-magic)
  else ""

def toHitExpression (attack : Attack) : String :=
  attack.bonus.toHitExpression attack.usualVariable ++ magicSuffix attack.magic

def describe (attack : Attack) : String :=
  let kind :=
    match attack.kind with
    | some kind => kind.label ++ " "
    | none => ""
  Prose.structureMarkup .italic (attack.modeText ++ kind ++ "Attack:") ++ " " ++
    Prose.expressionMarkup ("+" ++ attack.toHitExpression) ++ " to hit, " ++
    attack.distanceText ++ "."

end Attack

end Bestiary
