import Bestiary.Combat.Attack
import Bestiary.Combat.Effect
import Bestiary.Rules.Nature

/-!
Standard weapons: the table of equipment, and the attacks made with it.

A weapon made for a large creature rolls more dice; a weapon that deals a
fixed amount deals more.
-/

namespace Bestiary

inductive Weapon
  | unarmedStrike
  | club
  | dagger
  | greatclub
  | handaxe
  | javelin
  | lightHammer
  | mace
  | quarterstaff
  | sickle
  | spear
  | lightCrossbow
  | dart
  | shortbow
  | sling
  | battleaxe
  | flail
  | glaive
  | greataxe
  | greatsword
  | halberd
  | lance
  | longsword
  | maul
  | morningstar
  | pike
  | rapier
  | scimitar
  | shortsword
  | trident
  | warPick
  | warhammer
  | whip
  | blowgun
  | handCrossbow
  | heavyCrossbow
  | longbow
  | net
  deriving DecidableEq, Repr, Inhabited

inductive WeaponDamage
  | dice (count : Nat) (die : Die)
  /-- Dice that are larger when the weapon is held in two hands. -/
  | versatile (count : Nat) (die twoHanded : Die)
  /-- A fixed amount, with the bonus that it takes. -/
  | fixed (bonus : BonusSource)
  /-- No damage: the target is caught. -/
  | restrains
  deriving DecidableEq, Repr

structure WeaponProfile where
  displayName : String
  bonus : BonusSource
  damageType : DamageType
  damage : WeaponDamage
  reach : Option Nat := some 5
  range : Option Nat := none
  longRange : Option Nat := none
  target : String := "one target"
  deriving DecidableEq, Repr

namespace Weapon

def all : List Weapon :=
  [unarmedStrike, club, dagger, greatclub, handaxe, javelin, lightHammer, mace, quarterstaff,
    sickle, spear, lightCrossbow, dart, shortbow, sling, battleaxe, flail, glaive, greataxe,
    greatsword, halberd, lance, longsword, maul, morningstar, pike, rapier, scimitar, shortsword,
    trident, warPick, warhammer, whip, blowgun, handCrossbow, heavyCrossbow, longbow, net]

def word : Weapon → String
  | unarmedStrike => "unarmed_strike"
  | club => "club"
  | dagger => "dagger"
  | greatclub => "greatclub"
  | handaxe => "handaxe"
  | javelin => "javelin"
  | lightHammer => "light_hammer"
  | mace => "mace"
  | quarterstaff => "quarterstaff"
  | sickle => "sickle"
  | spear => "spear"
  | lightCrossbow => "light_crossbow"
  | dart => "dart"
  | shortbow => "shortbow"
  | sling => "sling"
  | battleaxe => "battleaxe"
  | flail => "flail"
  | glaive => "glaive"
  | greataxe => "greataxe"
  | greatsword => "greatsword"
  | halberd => "halberd"
  | lance => "lance"
  | longsword => "longsword"
  | maul => "maul"
  | morningstar => "morningstar"
  | pike => "pike"
  | rapier => "rapier"
  | scimitar => "scimitar"
  | shortsword => "shortsword"
  | trident => "trident"
  | warPick => "war_pick"
  | warhammer => "warhammer"
  | whip => "whip"
  | blowgun => "blowgun"
  | handCrossbow => "hand_crossbow"
  | heavyCrossbow => "heavy_crossbow"
  | longbow => "longbow"
  | net => "net"

instance : Vocabulary Weapon := ⟨all, word, Vocabulary.looseSpelling? all word⟩

def profile : Weapon → WeaponProfile
  | unarmedStrike =>
      { displayName := "Unarmed Strike", bonus := .ability .strength, damageType := .bludgeoning,
        damage := .fixed (.ability .strength) }
  | club =>
      { displayName := "Club", bonus := .ability .strength, damageType := .bludgeoning,
        damage := .dice 1 .d4 }
  | dagger =>
      { displayName := "Dagger", bonus := .best, damageType := .piercing, damage := .dice 1 .d4,
        range := some 20, longRange := some 60 }
  | greatclub =>
      { displayName := "Greatclub", bonus := .ability .strength, damageType := .bludgeoning,
        damage := .dice 1 .d8 }
  | handaxe =>
      { displayName := "Handaxe", bonus := .ability .strength, damageType := .slashing,
        damage := .dice 1 .d6, range := some 20, longRange := some 60 }
  | javelin =>
      { displayName := "Javelin", bonus := .ability .strength, damageType := .piercing,
        damage := .dice 1 .d6, range := some 30, longRange := some 120 }
  | lightHammer =>
      { displayName := "Light Hammer", bonus := .ability .strength, damageType := .bludgeoning,
        damage := .dice 1 .d4, range := some 20, longRange := some 60 }
  | mace =>
      { displayName := "Mace", bonus := .ability .strength, damageType := .bludgeoning,
        damage := .dice 1 .d6 }
  | quarterstaff =>
      { displayName := "Quarterstaff", bonus := .ability .strength, damageType := .bludgeoning,
        damage := .versatile 1 .d6 .d8 }
  | sickle =>
      { displayName := "Sickle", bonus := .ability .strength, damageType := .slashing,
        damage := .dice 1 .d4 }
  | spear =>
      { displayName := "Spear", bonus := .ability .strength, damageType := .piercing,
        damage := .versatile 1 .d6 .d8, range := some 20, longRange := some 60 }
  | lightCrossbow =>
      { displayName := "Light Crossbow", bonus := .ability .dexterity, damageType := .piercing,
        damage := .dice 1 .d8, reach := none, range := some 80, longRange := some 320 }
  | dart =>
      { displayName := "Dart", bonus := .best, damageType := .piercing, damage := .dice 1 .d4,
        reach := none, range := some 20, longRange := some 60 }
  | shortbow =>
      { displayName := "Shortbow", bonus := .ability .dexterity, damageType := .piercing,
        damage := .dice 1 .d6, reach := none, range := some 80, longRange := some 320 }
  | sling =>
      { displayName := "Sling", bonus := .ability .dexterity, damageType := .bludgeoning,
        damage := .dice 1 .d4, reach := none, range := some 30, longRange := some 120 }
  | battleaxe =>
      { displayName := "Battleaxe", bonus := .ability .strength, damageType := .slashing,
        damage := .versatile 1 .d8 .d10 }
  | flail =>
      { displayName := "Flail", bonus := .ability .strength, damageType := .bludgeoning,
        damage := .dice 1 .d8 }
  | glaive =>
      { displayName := "Glaive", bonus := .ability .strength, damageType := .slashing,
        damage := .dice 1 .d10, reach := some 10 }
  | greataxe =>
      { displayName := "Greataxe", bonus := .ability .strength, damageType := .slashing,
        damage := .dice 1 .d12 }
  | greatsword =>
      { displayName := "Greatsword", bonus := .ability .strength, damageType := .slashing,
        damage := .dice 2 .d6 }
  | halberd =>
      { displayName := "Halberd", bonus := .ability .strength, damageType := .slashing,
        damage := .dice 1 .d10, reach := some 10 }
  | lance =>
      { displayName := "Lance", bonus := .ability .strength, damageType := .piercing,
        damage := .dice 1 .d12, reach := some 10 }
  | longsword =>
      { displayName := "Longsword", bonus := .ability .strength, damageType := .slashing,
        damage := .versatile 1 .d8 .d10 }
  | maul =>
      { displayName := "Maul", bonus := .ability .strength, damageType := .bludgeoning,
        damage := .dice 2 .d6 }
  | morningstar =>
      { displayName := "Morningstar", bonus := .ability .strength, damageType := .piercing,
        damage := .dice 1 .d8 }
  | pike =>
      { displayName := "Pike", bonus := .ability .strength, damageType := .piercing,
        damage := .dice 1 .d10, reach := some 10 }
  | rapier =>
      { displayName := "Rapier", bonus := .best, damageType := .piercing, damage := .dice 1 .d8 }
  | scimitar =>
      { displayName := "Scimitar", bonus := .best, damageType := .slashing,
        damage := .dice 1 .d6 }
  | shortsword =>
      { displayName := "Shortsword", bonus := .best, damageType := .piercing,
        damage := .dice 1 .d6 }
  | trident =>
      { displayName := "Trident", bonus := .ability .strength, damageType := .piercing,
        damage := .versatile 1 .d6 .d8, range := some 20, longRange := some 60 }
  | warPick =>
      { displayName := "War Pick", bonus := .ability .strength, damageType := .piercing,
        damage := .dice 1 .d8 }
  | warhammer =>
      { displayName := "Warhammer", bonus := .ability .strength, damageType := .bludgeoning,
        damage := .versatile 1 .d8 .d10 }
  | whip =>
      { displayName := "Whip", bonus := .best, damageType := .slashing, damage := .dice 1 .d4,
        reach := some 10 }
  | blowgun =>
      { displayName := "Blowgun", bonus := .ability .dexterity, damageType := .piercing,
        damage := .fixed .none, reach := none, range := some 25, longRange := some 100 }
  | handCrossbow =>
      { displayName := "Hand Crossbow", bonus := .ability .dexterity, damageType := .piercing,
        damage := .dice 1 .d6, reach := none, range := some 30, longRange := some 120 }
  | heavyCrossbow =>
      { displayName := "Heavy Crossbow", bonus := .ability .dexterity, damageType := .piercing,
        damage := .dice 1 .d10, reach := none, range := some 100, longRange := some 400 }
  | longbow =>
      { displayName := "Longbow", bonus := .ability .dexterity, damageType := .piercing,
        damage := .dice 1 .d8, reach := none, range := some 150, longRange := some 600 }
  | net =>
      { displayName := "Net", bonus := .ability .dexterity, damageType := .bludgeoning,
        damage := .restrains, reach := none, range := some 5, longRange := some 15,
        target := "one Large or smaller creature that is not formless" }

def displayName (weapon : Weapon) : String :=
  weapon.profile.displayName

def attack (weapon : Weapon) (magic : Int) : Attack :=
  let profile := weapon.profile
  { kind := some .weapon
    bonus := .modifier profile.bonus
    magic := magic
    reach := profile.reach
    range := profile.range
    longRange := profile.longRange
    target := profile.target }

/-- When a versatile weapon rolls its larger dice. -/
def versatileCondition : String :=
  "if used with two hands to make a melee attack"

def restrainText (magic : Int) : String :=
  "The target is " ++ Prose.structureMarkup .italic "restrained" ++
    " until it is freed. A creature can use its action to make a DC " ++
    Number.showInt (10 + magic) ++ " Strength check, freeing itself or another creature within " ++
    "its reach on a success. Dealing " ++ Number.showInt (5 + magic) ++
    " slashing damage to the net (AC " ++ Number.showInt (10 + magic) ++
    ") also frees the creature without harming it, ending the effect and destroying the net"

/-- What a hit with a weapon does when a creature of a size wields it. -/
def effect (weapon : Weapon) (size : Size) (magic : Int) : Effect :=
  let profile := weapon.profile
  let multiplier := size.weaponDiceMultiplier
  match profile.damage with
  | .fixed bonus =>
      .fixedDamage
        { amount := (max ((multiplier : Int) + magic) 1).toNat
          damageType := profile.damageType
          bonus := .modifier bonus }
  | .restrains => .special (restrainText magic)
  | .dice count die =>
      .damage
        { dice := .single (count * multiplier : Nat) die magic
          damageType := profile.damageType
          bonus := .modifier profile.bonus }
  | .versatile count die twoHanded =>
      .alternative
        { dice := .single (count * multiplier : Nat) die magic
          damageType := profile.damageType
          alternateDice := .single (count * multiplier : Nat) twoHanded magic
          condition := versatileCondition
          bonus := .modifier profile.bonus }

/-- Whether the effect of a weapon can be told at all: that of a net has its numbers in a text. -/
def tellsEffect (weapon : Weapon) (magic : Int) : Bool :=
  match weapon.profile.damage with
  | .restrains => Number.isWritable (10 + magic) && Number.isWritable (5 + magic)
  | _ => true

def isWritable (weapon : Weapon) (size : Size) (magic : Int) : Bool :=
  weapon.tellsEffect magic && (weapon.effect size magic).isWritable

def actionName (weapon : Weapon) (magic : Int) : String :=
  if magic = 0 then weapon.displayName
  else weapon.displayName ++ " " ++ Number.showSigned magic

end Weapon

end Bestiary
