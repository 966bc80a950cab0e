import Bestiary.Creature.Basic
import Bestiary.Document.Value
import Bestiary.Failure.Report

/-!
Applying directives to a creature.

A directive that sets something replaces what was there; one that lists
something appends what is new. A directive can fail only by naming a weapon,
an action or an entry that the creature does not have. What it changes before
that is not taken back.
-/

namespace Bestiary

open Document

inductive ApplicationFault
  | cannotRemoveWeapon (weapon : Weapon)
  /-- A directive about a weapon that no action uses. -/
  | missingWeapon (tag : String) (weapon : Weapon)
  | cannotDescribe (name : String)
  | cannotRemove (place : Section) (name : String)
  deriving DecidableEq, Repr

namespace ApplicationFault

def message : ApplicationFault → String
  | cannotRemoveWeapon held =>
      "Cannot remove weapon '" ++ held.displayName ++ "': creature does not have it"
  | missingWeapon tag held =>
      "Cannot apply " ++ tag ++ " to '" ++ held.displayName ++ "': creature does not have it"
  | cannotDescribe name => "Cannot override description of '" ++ name ++ "': no such action"
  | cannotRemove place name =>
      let words := place.word.toList.map fun character =>
        if character == '_' then ' ' else character
      "Cannot " ++ String.ofList words ++ " '" ++ name ++ "': not found"

def kind : ApplicationFault → FailureKind
  | cannotRemoveWeapon _ | missingWeapon _ _ => .missingWeapon
  | cannotDescribe _ | cannotRemove _ _ => .missingAction

def missing : ApplicationFault → String
  | cannotRemoveWeapon held | missingWeapon _ held => held.displayName
  | cannotDescribe name | cannotRemove _ name => name

def report (creature : Option String) (fault : ApplicationFault) : Report :=
  .make fault.kind fault.message []
    [("action", .text fault.missing), ("creature", .ofOption .text creature)]

end ApplicationFault

section Lists

variable {α : Type}

/-- Items followed by those of others that are new. -/
def appendNew [BEq α] (items additions : List α) : List α :=
  additions.foldl (fun known item => if known.contains item then known else known ++ [item]) items

def removeFirst? (wanted : α → Bool) : List α → Option (List α)
  | [] => none
  | item :: others =>
      if wanted item then some others else (removeFirst? wanted others).map (item :: ·)

def changeFirst? (wanted : α → Bool) (change : α → α) : List α → Option (List α)
  | [] => none
  | item :: others =>
      if wanted item then some (change item :: others)
      else (changeFirst? wanted change others).map (item :: ·)

end Lists

namespace Creature

def setSubject (form : SubjectForm) (name : String) (creature : Creature) : Creature :=
  match form with
  | .subject => { creature with subjectName := some name }
  | .capitalizedSubject => { creature with capitalizedSubjectName := some name }
  | .possessive => { creature with possessiveName := some name }
  | .capitalizedPossessive => { creature with capitalizedPossessiveName := some name }

def setSpeed (name : String) (distance : Nat) (creature : Creature) : Creature :=
  { creature with speeds := setEntry creature.speeds name distance }

def setSense (name : String) (distance : Nat) (creature : Creature) : Creature :=
  { creature with senses := setEntry creature.senses name distance }

def changeSkill (change : SkillChange) (skills : List (Skill × Nat)) (skill : Skill) :
    List (Skill × Nat) :=
  match change with
  | .proficient => setEntry skills skill 1
  | .expert => setEntry skills skill 2
  | .removed => removeEntry skills skill

def addDamageTypes (relation : DamageRelation) (types : List DamageType) (creature : Creature) :
    Creature :=
  match relation with
  | .vulnerability =>
      { creature with vulnerabilities := appendNew creature.vulnerabilities types }
  | .resistance => { creature with resistances := appendNew creature.resistances types }
  | .immunity => { creature with immunities := appendNew creature.immunities types }

/-- Add a wording to those of the damage that is taken in one way. -/
def addCustomDamage (relation : DamageRelation) (text : String) (creature : Creature) : Creature :=
  match relation with
  | .vulnerability =>
      { creature with customVulnerabilities := creature.customVulnerabilities ++ [text] }
  | .resistance => { creature with customResistances := creature.customResistances ++ [text] }
  | .immunity => { creature with customImmunities := creature.customImmunities ++ [text] }

def addAction (action : Action) (creature : Creature) : Creature :=
  { creature with actions := creature.actions ++ [action] }

def weaponAction (entry : WeaponEntry) : Action where
  name := entry.weapon.actionName entry.magic
  form := .strike
    { armament := .weapon entry.weapon entry.magic none none
      riders := entry.riders
      multiattack := entry.multiattack }

def attackAction (entry : AttackEntry) : Action where
  name := entry.name
  usage := entry.usage
  form := .strike
    { armament := .natural entry.attack entry.effect
      riders := entry.riders
      multiattack := entry.multiattack }

def textAction (entry : NamedEntry) : Action where
  name := entry.name
  usage := entry.usage
  form := .text entry.description

end Creature

/-- A change of the creature. What it has changed before a fault stays changed. -/
abbrev Change := EStateM ApplicationFault Creature

namespace Change

open Creature

def changeWeapon (tag : String) (weapon : Weapon) (change : Action → Action) : Change Unit := do
  match changeFirst? (usesWeapon weapon) change (← get).actions with
  | some actions => modify ({ · with actions := actions })
  | none => throw (.missingWeapon tag weapon)

def removeWeapon (weapon : Weapon) : Change Unit := do
  match removeFirst? (usesWeapon weapon) (← get).actions with
  | some actions => modify ({ · with actions := actions })
  | none => throw (.cannotRemoveWeapon weapon)

def expectWeapon (expectation : WeaponExpectation) : Change Unit := do
  unless (← get).actions.any (usesWeapon expectation.weapon) do
    throw (.missingWeapon expectation.tag expectation.weapon)
  modify fun creature =>
    { creature with weaponExpectations := creature.weaponExpectations ++ [expectation] }

/-- Replace the text of an action; the multiattack, which is no action of its own, is known by its
name. -/
def overrideDescription (name description : String) : Change Unit := do
  if Text.foldCase name == "multiattack" then
    modify ({ · with multiattackDescription := some description })
  else
    match changeFirst? (fun action => sameName action.name name) (Action.describeAs description)
        (← get).actions with
    | some actions => modify ({ · with actions := actions })
    | none => throw (.cannotDescribe name)

/-- Put a list without the first item that is wanted in its place, and tell whether there was
one. -/
def removeListed {α : Type} (wanted : α → Bool) (items : List α)
    (put : List α → Creature → Creature) : Change Bool :=
  match removeFirst? wanted items with
  | some rest => do
      modify (put rest)
      pure true
  | none => pure false

/-- Remove a feature, or a spellcasting trait by its printed name. -/
def removeFeature (name : String) : Change Bool := do
  let creature ← get
  let folded := Text.foldCase name
  if folded == "spellcasting" && creature.spellcasting.isSome then
    modify ({ · with spellcasting := none })
    pure true
  else if folded == "innate spellcasting" && creature.innateSpellcasting.isSome then
    modify ({ · with innateSpellcasting := none })
    pure true
  else
    removeListed (fun feature => sameName feature.name name) creature.features
      fun features => ({ · with features := features })

def removeNamed (place : Section) (name : String) : Change Bool := do
  match place with
  | .actions =>
      removeListed (fun action => sameName action.name name) (← get).actions
        fun actions => ({ · with actions := actions })
  | .features => removeFeature name
  | .reactions =>
      removeListed (fun reaction => sameName reaction.name name) (← get).reactions
        fun reactions => ({ · with reactions := reactions })
  | .legendaryActions =>
      removeListed (fun action => sameName action.name name) (← get).legendaryActions
        fun actions => ({ · with legendaryActions := actions })

def remove (place : Section) (name : String) : Change Unit := do
  let found ← removeNamed place name
  unless found do throw (.cannotRemove place name)

/-- What a directive does to the creature. Versions and includes concern the document and do
nothing. -/
def ofDirective : Directive → Change Unit
  | .version _ _ | .inclusion _ _ => pure ()
  | .name name => modify ({ · with name := some name })
  | .source source => modify ({ · with source := some source })
  | .subject form name => modify (setSubject form name)
  | .pronouns pronouns => modify ({ · with pronouns := pronouns })
  | .size size | .sizeShortcut size => modify ({ · with size := size })
  | .creatureType type => modify ({ · with creatureType := some type, customType := none })
  | .customType name => modify ({ · with customType := some name })
  | .subtype subtype => modify ({ · with subtype := some subtype })
  | .group group => modify ({ · with group := some group })
  | .alignment alignment => modify ({ · with alignment := alignment.displayName })
  | .customAlignment alignment => modify ({ · with alignment := alignment })
  | .hitDie die => modify ({ · with hitDieOverride := some die })
  | .hitDiceCount count => modify ({ · with hitDiceCount := count })
  | .hitPoints points => modify ({ · with hitPointsOverride := some points })
  | .armor kind bonus description =>
      modify ({ · with armor := some kind, armorBonus := bonus, armorDescription := description })
  | .armorBonus bonus => modify ({ · with extraArmorBonus := bonus })
  | .armorClass value description =>
      modify ({ · with armorClassOverride := some value, armorClassDescription := description })
  | .shield carried => modify ({ · with shield := carried })
  | .movement movement distance => modify (setSpeed movement.word distance)
  | .hover => modify ({ · with hover := true })
  | .speed name distance => modify (setSpeed name distance)
  | .speedNotes notes => modify ({ · with speedNotes := some notes })
  | .abilityScore ability score =>
      modify fun creature => { creature with scores := creature.scores.set ability score }
  | .saves abilities =>
      modify fun creature => { creature with saves := appendNew creature.saves abilities }
  | .removeSaves abilities =>
      modify fun creature =>
        { creature with saves := creature.saves.filter fun ability => !abilities.contains ability }
  | .skills change skills =>
      modify fun creature =>
        { creature with skills := skills.foldl (changeSkill change) creature.skills }
  | .damageTypes relation types => modify (addDamageTypes relation types)
  | .nonmagicalResistance variant => modify ({ · with nonmagicalResistance := some variant })
  | .nonmagicalImmunity variant => modify ({ · with nonmagicalImmunity := some variant })
  | .customDamage relation text => modify (addCustomDamage relation text)
  | .conditionImmunity conditions =>
      modify fun creature =>
        { creature with conditionImmunities := appendNew creature.conditionImmunities conditions }
  | .standardSense sense distance => modify (setSense sense.word distance)
  | .blindsight distance blindBeyond =>
      modify fun creature =>
        { creature.setSense "blindsight" distance with blindBeyond := blindBeyond }
  | .sense name distance => modify (setSense name distance)
  | .languages languages =>
      modify fun creature =>
        { creature with languages := appendNew creature.languages languages }
  | .unspokenLanguages languages =>
      modify fun creature =>
        { creature with unspokenLanguages := appendNew creature.unspokenLanguages languages }
  | .telepathy distance => modify ({ · with telepathy := some distance })
  | .challengeRating rating => modify ({ · with challengeRatingOverride := some rating })
  | .expectChallengeRating rating => modify ({ · with expectedChallengeRating := some rating })
  | .challengeShortcut shortcut =>
      modify ({ · with challengeRatingOverride := some shortcut.rating })
  | .weapon entry => modify (addAction (weaponAction entry))
  | .attack entry => modify (addAction (attackAction entry))
  | .removeWeapon weapon => removeWeapon weapon
  | .overrideWeaponAttack weapon attack =>
      changeWeapon "override_weapon_attack" weapon (Action.overrideAttack attack)
  | .overrideWeaponEffect weapon effect =>
      changeWeapon "override_weapon_effect" weapon (Action.overrideEffect effect)
  | .expectWeapon expectation => expectWeapon expectation
  | .action entry => modify (addAction (textAction entry))
  | .overrideDescription name description => overrideDescription name description
  | .remove place name => remove place name
  | .multiattack description => modify ({ · with multiattackDescription := some description })
  | .feature entry =>
      modify fun creature => { creature with features := creature.features ++ [entry] }
  | .reaction entry =>
      modify fun creature => { creature with reactions := creature.reactions ++ [entry] }
  | .legendaryActions count actions description =>
      modify fun creature =>
        { creature with
          legendaryActionCount := count
          legendaryActions := creature.legendaryActions ++ actions
          legendaryDescription := description <|> creature.legendaryDescription }
  | .spellcasting casting => modify ({ · with spellcasting := some casting })
  | .innateSpellcasting casting => modify ({ · with innateSpellcasting := some casting })

end Change

end Bestiary
