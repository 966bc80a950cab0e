import Bestiary.Creature.Application

/-!
A change that fails leaves nothing behind.

Every change looks for what it is about before it touches the creature, so one
that stops at a fault has reached the creature that it started from. What comes
of a directive can therefore be told by its outcome alone: the changed creature
or the fault.
-/

namespace Bestiary

namespace Change

variable {α : Type}

/-! ### Faults -/

/-- A change that stops at a fault has not changed the creature. -/
def IsAtomic (change : Change α) : Prop :=
  ∀ creature fault reached, change.run creature = .error fault reached → reached = creature

theorem isAtomic_modify (update : Creature → Creature) : IsAtomic (modify update) := by
  intro creature fault reached stopped
  cases stopped

theorem isAtomic_throw (fault : ApplicationFault) : IsAtomic (throw fault : Change α) := by
  intro creature fault reached stopped
  cases stopped
  rfl

theorem isAtomic_get {next : Creature → Change α} (each : ∀ creature, IsAtomic (next creature)) :
    IsAtomic (get >>= next) :=
  fun creature => each creature creature

/-- A check comes before what it guards, so a change that fails in it has not begun. -/
theorem isAtomic_unless {condition : Bool} {fault : ApplicationFault} {next : Change Unit}
    (atomic : IsAtomic next) :
    IsAtomic (do
      unless condition do throw fault
      next) := by
  cases condition with
  | true => exact atomic
  | false => exact isAtomic_throw fault

theorem isAtomic_changeWeapon (tag : String) (weapon : Weapon) (change : Action → Action) :
    IsAtomic (changeWeapon tag weapon change) := by
  refine isAtomic_get fun creature => ?_
  split
  · exact isAtomic_modify _
  · exact isAtomic_throw _

theorem isAtomic_removeWeapon (weapon : Weapon) : IsAtomic (removeWeapon weapon) := by
  refine isAtomic_get fun creature => ?_
  split
  · exact isAtomic_modify _
  · exact isAtomic_throw _

theorem isAtomic_expectWeapon (expectation : WeaponExpectation) :
    IsAtomic (expectWeapon expectation) :=
  isAtomic_get fun _ => isAtomic_unless (isAtomic_modify _)

theorem isAtomic_overrideDescription (name description : String) :
    IsAtomic (overrideDescription name description) := by
  unfold overrideDescription
  split
  · exact isAtomic_modify _
  · refine isAtomic_get fun creature => ?_
    split
    · exact isAtomic_modify _
    · exact isAtomic_throw _

/-! ### Removals -/

def found? (removal : Change Bool) (creature : Creature) : Option Creature :=
  match removal.run creature with
  | .ok true after => some after
  | _ => none

theorem found?_get {next : Creature → Change Bool} (creature : Creature) :
    found? (get >>= next) creature = (next creature).found? creature :=
  rfl

theorem found?_removeListed {wanted : α → Bool} {items : List α}
    {put : List α → Creature → Creature} {creature : Creature} :
    (removeListed wanted items put).found? creature =
      (removeFirst? wanted items).map fun rest => put rest creature := by
  rw [removeListed]
  cases removeFirst? wanted items <;> rfl

/-- A removal does not fail, and one that finds nothing has not changed the creature. -/
def IsRemoval (removal : Change Bool) : Prop :=
  ∀ creature, removal.run creature =
    match removal.found? creature with
    | some after => .ok true after
    | none => .ok false creature

theorem isRemoval_get {next : Creature → Change Bool}
    (each : ∀ creature, IsRemoval (next creature)) : IsRemoval (get >>= next) :=
  fun creature => each creature creature

theorem isRemoval_modify (update : Creature → Creature) :
    IsRemoval (do
      modify update
      pure true) :=
  fun _ => rfl

theorem isRemoval_removeListed {wanted : α → Bool} {items : List α}
    {put : List α → Creature → Creature} : IsRemoval (removeListed wanted items put) := by
  unfold removeListed
  split
  · exact isRemoval_modify _
  · exact fun _ => rfl

theorem isRemoval_removeFeature (name : String) : IsRemoval (removeFeature name) := by
  refine isRemoval_get fun creature => ?_
  dsimp only
  split
  · exact isRemoval_modify _
  · split
    · exact isRemoval_modify _
    · exact isRemoval_removeListed

theorem isRemoval_removeNamed (place : Section) (name : String) :
    IsRemoval (removeNamed place name) := by
  cases place with
  | features => exact isRemoval_removeFeature name
  | actions | reactions | legendaryActions =>
      exact isRemoval_get fun _ => isRemoval_removeListed

theorem run_remove (place : Section) (name : String) (creature : Creature) :
    (remove place name).run creature =
      match (removeNamed place name).found? creature with
      | some after => .ok () after
      | none => .error (.cannotRemove place name) creature := by
  rw [remove, EStateM.run_bind, isRemoval_removeNamed]
  cases (removeNamed place name).found? creature <;> rfl

/-- The fault comes after the search here, which has left the creature as it is by then. -/
theorem isAtomic_remove (place : Section) (name : String) : IsAtomic (remove place name) := by
  intro creature fault reached stopped
  rw [run_remove] at stopped
  cases found : (removeNamed place name).found? creature with
  | some after =>
      rw [found] at stopped
      cases stopped
  | none =>
      rw [found] at stopped
      cases stopped
      rfl

theorem isAtomic_ofDirective (directive : Directive) : IsAtomic (ofDirective directive) := by
  cases directive with
  | removeWeapon weapon => exact isAtomic_removeWeapon weapon
  | overrideWeaponAttack weapon attack => exact isAtomic_changeWeapon _ weapon _
  | overrideWeaponEffect weapon effect => exact isAtomic_changeWeapon _ weapon _
  | expectWeapon expectation => exact isAtomic_expectWeapon expectation
  | overrideDescription name description => exact isAtomic_overrideDescription name description
  | remove place name => exact isAtomic_remove place name
  | _ => exact isAtomic_modify _

/-! ### Outcomes -/

/-- What comes of a change: the creature that it makes, or the fault that stops it. -/
def outcome (change : Change Unit) (creature : Creature) : Except ApplicationFault Creature :=
  match change.run creature with
  | .ok _ after => .ok after
  | .error fault _ => .error fault

theorem outcome_get {next : Creature → Change Unit} (creature : Creature) :
    outcome (get >>= next) creature = (next creature).outcome creature :=
  rfl

end Change

namespace Creature

def changeWeapon (tag : String) (weapon : Weapon) (change : Action → Action) (creature : Creature) :
    Except ApplicationFault Creature :=
  (Change.changeWeapon tag weapon change).outcome creature

theorem changeWeapon_eq (tag : String) (weapon : Weapon) (change : Action → Action)
    (creature : Creature) :
    creature.changeWeapon tag weapon change =
      match changeFirst? (usesWeapon weapon) change creature.actions with
      | some actions => .ok { creature with actions := actions }
      | none => .error (.missingWeapon tag weapon) := by
  rw [changeWeapon, Change.changeWeapon, Change.outcome_get]
  cases changeFirst? (usesWeapon weapon) change creature.actions <;> rfl

def removeWeapon (weapon : Weapon) (creature : Creature) : Except ApplicationFault Creature :=
  (Change.removeWeapon weapon).outcome creature

theorem removeWeapon_eq (weapon : Weapon) (creature : Creature) :
    creature.removeWeapon weapon =
      match removeFirst? (usesWeapon weapon) creature.actions with
      | some actions => .ok { creature with actions := actions }
      | none => .error (.cannotRemoveWeapon weapon) := by
  rw [removeWeapon, Change.removeWeapon, Change.outcome_get]
  cases removeFirst? (usesWeapon weapon) creature.actions <;> rfl

def expectWeapon (expectation : WeaponExpectation) (creature : Creature) :
    Except ApplicationFault Creature :=
  (Change.expectWeapon expectation).outcome creature

theorem expectWeapon_eq (expectation : WeaponExpectation) (creature : Creature) :
    creature.expectWeapon expectation =
      if creature.actions.any (usesWeapon expectation.weapon) then
        .ok { creature with weaponExpectations := creature.weaponExpectations ++ [expectation] }
      else .error (.missingWeapon expectation.tag expectation.weapon) := by
  rw [expectWeapon, Change.expectWeapon, Change.outcome_get]
  cases creature.actions.any (usesWeapon expectation.weapon) <;> rfl

def overrideDescription (name description : String) (creature : Creature) :
    Except ApplicationFault Creature :=
  (Change.overrideDescription name description).outcome creature

theorem overrideDescription_eq (name description : String) (creature : Creature) :
    creature.overrideDescription name description =
      if Text.foldCase name == "multiattack" then
        .ok { creature with multiattackDescription := some description }
      else
        match changeFirst? (fun action => sameName action.name name)
            (Action.describeAs description) creature.actions with
        | some actions => .ok { creature with actions := actions }
        | none => .error (.cannotDescribe name) := by
  rw [overrideDescription, Change.overrideDescription]
  split
  · rfl
  · rw [Change.outcome_get]
    cases changeFirst? (fun action => sameName action.name name) (Action.describeAs description)
      creature.actions <;> rfl

def remove? (place : Section) (name : String) (creature : Creature) : Option Creature :=
  (Change.removeNamed place name).found? creature

def removeFeature? (name : String) (creature : Creature) : Option Creature :=
  (Change.removeFeature name).found? creature

def removeListed? (name : String) (creature : Creature) : Option Creature :=
  (removeFirst? (fun feature => sameName feature.name name) creature.features).map fun features =>
    { creature with features := features }

theorem removeFeature?_eq (name : String) (creature : Creature) :
    creature.removeFeature? name =
      if Text.foldCase name == "spellcasting" && creature.spellcasting.isSome then
        some { creature with spellcasting := none }
      else if Text.foldCase name == "innate spellcasting" &&
          creature.innateSpellcasting.isSome then
        some { creature with innateSpellcasting := none }
      else creature.removeListed? name := by
  rw [removeFeature?, Change.removeFeature, Change.found?_get]
  dsimp only
  split
  · rfl
  · split
    · rfl
    · exact Change.found?_removeListed

theorem remove?_eq (place : Section) (name : String) (creature : Creature) :
    creature.remove? place name =
      match place with
      | .actions =>
          (removeFirst? (fun action => sameName action.name name) creature.actions).map
            fun actions => { creature with actions := actions }
      | .features => creature.removeFeature? name
      | .reactions =>
          (removeFirst? (fun reaction => sameName reaction.name name) creature.reactions).map
            fun reactions => { creature with reactions := reactions }
      | .legendaryActions =>
          (removeFirst? (fun action => sameName action.name name) creature.legendaryActions).map
            fun actions => { creature with legendaryActions := actions } := by
  cases place with
  | features => rfl
  | actions | reactions | legendaryActions => exact Change.found?_removeListed

def apply (creature : Creature) (directive : Directive) : Except ApplicationFault Creature :=
  (Change.ofDirective directive).outcome creature

theorem apply_remove (place : Section) (name : String) (creature : Creature) :
    creature.apply (.remove place name) =
      match creature.remove? place name with
      | some changed => .ok changed
      | none => .error (.cannotRemove place name) := by
  rw [apply, Change.ofDirective, Change.outcome, Change.run_remove, remove?]
  cases (Change.removeNamed place name).found? creature <;> rfl

end Creature

end Bestiary
