import Bestiary.Combat.Usage
import Bestiary.Combat.Weapon

/-!
Actions: free text, standard weapons, and attacks of the creature's own.

A standard weapon is resolved at the size that the creature has in the end,
so only what replaces its usual attack roll or effect is kept.
-/

namespace Bestiary

inductive Armament
  /-- A standard weapon; an attack roll or an effect that is given replaces the usual one. -/
  | weapon (weapon : Weapon) (magic : Int) (attack : Option Attack) (effect : Option Effect)
  | natural (attack : Attack) (effect : Effect)
  deriving DecidableEq, Repr

structure Strike where
  armament : Armament
  riders : List Rider := []
  /-- How often a multiattack makes it. -/
  multiattack : Nat := 0
  /-- Authored text in the place of the generated one. -/
  override : Option String := none
  deriving DecidableEq, Repr

inductive ActionForm
  | text (description : String)
  | strike (strike : Strike)
  deriving DecidableEq, Repr

structure Action where
  name : String
  usage : Option Usage := none
  form : ActionForm
  deriving DecidableEq, Repr

namespace Action

def strike? (action : Action) : Option Strike :=
  match action.form with
  | .text _ => none
  | .strike strike => some strike

/-- The authored text of an action, if it has one. -/
def description? (action : Action) : Option String :=
  match action.form with
  | .text description => some description
  | .strike strike => strike.override

def weapon? (action : Action) : Option Weapon :=
  match action.form with
  | .strike ⟨.weapon weapon _ _ _, _, _, _⟩ => some weapon
  | _ => none

def magic (action : Action) : Int :=
  match action.form with
  | .strike ⟨.weapon _ magic _ _, _, _, _⟩ => magic
  | _ => 0

def attack? (action : Action) : Option Attack :=
  match action.form with
  | .strike ⟨.weapon _ _ attack _, _, _, _⟩ => attack
  | .strike ⟨.natural attack _, _, _, _⟩ => some attack
  | .text _ => none

def effect? (action : Action) : Option Effect :=
  match action.form with
  | .strike ⟨.weapon _ _ _ effect, _, _, _⟩ => effect
  | .strike ⟨.natural _ effect, _, _, _⟩ => some effect
  | .text _ => none

def riders (action : Action) : List Rider :=
  match action.form with
  | .strike strike => strike.riders
  | .text _ => []

def multiattack (action : Action) : Nat :=
  match action.form with
  | .strike strike => strike.multiattack
  | .text _ => 0

def describeAs (description : String) (action : Action) : Action :=
  match action.form with
  | .text _ => { action with form := .text description }
  | .strike strike =>
      { action with form := .strike { strike with override := some description } }

/-- A weapon action with its attack roll replaced; its text is generated again. -/
def overrideAttack (attack : Attack) (action : Action) : Action :=
  match action.form with
  | .strike ⟨.weapon weapon magic _ effect, riders, multiattack, _⟩ =>
      { action with
        form := .strike ⟨.weapon weapon magic (some attack) effect, riders, multiattack, none⟩ }
  | _ => action

/-- A weapon action with its effect replaced; its text is generated again. -/
def overrideEffect (effect : Effect) (action : Action) : Action :=
  match action.form with
  | .strike ⟨.weapon weapon magic attack _, riders, multiattack, _⟩ =>
      { action with
        form := .strike ⟨.weapon weapon magic attack (some effect), riders, multiattack, none⟩ }
  | _ => action

end Action

/-- The attack roll and the effect of what a creature of a size attacks with. -/
def Armament.resolve (size : Size) : Armament → Attack × Effect
  | weapon held magic attack effect =>
      (attack.getD (held.attack magic), effect.getD (held.effect size magic))
  | natural attack effect => (attack, effect)

/-- Whether the effect of what a creature attacks with can be told; one that is given can. -/
def Armament.tellsEffect : Armament → Bool
  | weapon held magic _ none => held.tellsEffect magic
  | _ => true

/-- Whether the effect of an action can be told, if it is an attack. -/
def Action.tellsEffect (action : Action) : Bool :=
  action.strike?.all fun strike => strike.armament.tellsEffect

def Armament.isWritable (size : Size) : Armament → Bool
  | weapon _ _ _ (some effect) => effect.isWritable
  | weapon held magic _ none => held.isWritable size magic
  | natural _ effect => effect.isWritable

def Strike.isWritable (size : Size) (strike : Strike) : Bool :=
  strike.armament.isWritable size && strike.riders.all Rider.isWritable

def Strike.describe (size : Size) (strike : Strike) : String :=
  let (attack, effect) := strike.armament.resolve size
  attack.describe ++ " " ++ Prose.structureMarkup .italic "Hit:" ++ " " ++
    describeHit effect strike.riders attack.usualVariable

end Bestiary
