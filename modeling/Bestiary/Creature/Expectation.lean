import Bestiary.Combat.Writer
import Bestiary.Creature.Application
import Bestiary.Creature.Derivation

/-!
Expectations: the rating and the weapons that a document says will result.
-/

namespace Bestiary

open Document

/-- Why it cannot be told whether an expectation is met. -/
inductive ExpectationFault
  | application (fault : ApplicationFault)
  /-- The effect of a weapon has a number with more digits than can be written. -/
  | unwritableNumber

inductive Mismatch
  | rating (expected actual : Rating)
  | attack (weapon : Weapon) (expected actual : Attack)
  | effect (weapon : Weapon) (expected actual : Effect)
  deriving DecidableEq, Repr

namespace Mismatch

def message : Mismatch → String
  | rating expected actual =>
      "Challenge rating " ++ actual.text ++ " is not the expected " ++ expected.text
  | attack held _ _ => held.displayName ++ " attack is not as expected"
  | effect held _ _ => held.displayName ++ " effect is not as expected"

def isWritable : Mismatch → Bool
  | effect _ expected actual => expected.isWritable && actual.isWritable
  | _ => true

def weaponReport (creature : String) (held : Weapon) (aspect : String) (expected actual : Value)
    (message : String) : Report :=
  .make .weaponMismatch message [("expected", expected), ("actual", actual)]
    [("weapon", .text held.displayName), ("aspect", .text aspect), ("creature", .text creature)]

def report (creature : String) (mismatch : Mismatch) : Report :=
  match mismatch with
  | rating expected actual =>
      .make .ratingMismatch mismatch.message []
        [("expected", .text expected.text), ("actual", .text actual.text),
          ("creature", .text creature)]
  | attack held expected actual =>
      weaponReport creature held "attack" expected.toValue actual.toValue mismatch.message
  | effect held expected actual =>
      weaponReport creature held "effect" expected.toValue actual.toValue mismatch.message

end Mismatch

namespace Creature

/-- The attack roll and the effect of the first action with a weapon. -/
def resolveWeapon? (creature : Creature) (weapon : Weapon) : Option (Attack × Effect) := do
  let action ← creature.findWeapon? weapon
  let strike ← action.strike?
  pure (strike.armament.resolve creature.size)

def compareWeapon (actual : Attack × Effect) : WeaponExpectation → Option Mismatch
  | .attack weapon expected =>
      if expected = actual.1 then none else some (.attack weapon expected actual.1)
  | .effect weapon expected =>
      if expected = actual.2 then none else some (.effect weapon expected actual.2)

def tellsWeapon (creature : Creature) (weapon : Weapon) : Bool :=
  (creature.findWeapon? weapon).all Action.tellsEffect

/-- Check an expectation. The effect must be told also where the attack roll is compared. -/
def checkWeapon (creature : Creature) (expectation : WeaponExpectation) :
    Except ExpectationFault (Option Mismatch) :=
  match creature.resolveWeapon? expectation.weapon with
  | none => .error (.application (.missingWeapon expectation.tag expectation.weapon))
  | some actual =>
      if creature.tellsWeapon expectation.weapon then .ok (compareWeapon actual expectation)
      else .error .unwritableNumber

end Creature

namespace DerivedCreature

def checkRating (built : DerivedCreature) : Option Mismatch :=
  match built.creature.expectedChallengeRating with
  | none => none
  | some expected =>
      let actual := built.derived.challengeRating
      if expected = actual then none else some (.rating expected actual)

/-- The checks of a creature's expectations, that of the rating first. -/
def checks (built : DerivedCreature) : List (Except ExpectationFault (Option Mismatch)) :=
  .ok built.checkRating :: built.creature.weaponExpectations.map built.creature.checkWeapon

end DerivedCreature

end Bestiary
