import Bestiary.Proofs.Creature.Splicing

/-!
The name of a creature is what its document says last.

No directive but a name touches the name, so a creature that is made from a
document has a name exactly when the document, with all that it includes,
sets one.
-/

namespace Bestiary

def Directive.givenName? : Directive → Option String
  | name given => some given
  | _ => none

namespace Creature

variable {creature after : Creature}

theorem setSubject_name (form : SubjectForm) (name : String) (creature : Creature) :
    (creature.setSubject form name).name = creature.name := by
  cases form <;> rfl

theorem addDamageTypes_name (relation : DamageRelation) (types : List DamageType)
    (creature : Creature) : (creature.addDamageTypes relation types).name = creature.name := by
  cases relation <;> rfl

theorem addCustomDamage_name (relation : DamageRelation) (text : String)
    (creature : Creature) : (creature.addCustomDamage relation text).name = creature.name := by
  cases relation <;> rfl

theorem changeWeapon_name {tag : String} {weapon : Weapon} {change : Action → Action}
    (applied : creature.changeWeapon tag weapon change = .ok after) :
    after.name = creature.name := by
  rw [changeWeapon_eq] at applied
  split at applied
  · cases applied
    rfl
  · cases applied

theorem removeWeapon_name {weapon : Weapon} (applied : creature.removeWeapon weapon = .ok after) :
    after.name = creature.name := by
  rw [removeWeapon_eq] at applied
  split at applied
  · cases applied
    rfl
  · cases applied

theorem expectWeapon_name {expectation : WeaponExpectation}
    (applied : creature.expectWeapon expectation = .ok after) : after.name = creature.name := by
  rw [expectWeapon_eq] at applied
  split at applied
  · cases applied
    rfl
  · cases applied

theorem overrideDescription_name {name description : String}
    (applied : creature.overrideDescription name description = .ok after) :
    after.name = creature.name := by
  rw [overrideDescription_eq] at applied
  split at applied
  · cases applied
    rfl
  · split at applied
    · cases applied
      rfl
    · cases applied

theorem removeFeature?_name {name : String} (removed : creature.removeFeature? name = some after) :
    after.name = creature.name := by
  rw [removeFeature?_eq] at removed
  split at removed
  · cases removed
    rfl
  · split at removed
    · cases removed
      rfl
    · obtain ⟨features, _, rfl⟩ := Option.map_eq_some_iff.mp removed
      rfl

theorem remove?_name {place : Section} {name : String}
    (removed : creature.remove? place name = some after) : after.name = creature.name := by
  rw [remove?_eq] at removed
  cases place with
  | features => exact removeFeature?_name removed
  | actions =>
      obtain ⟨actions, _, rfl⟩ := Option.map_eq_some_iff.mp removed
      rfl
  | reactions =>
      obtain ⟨reactions, _, rfl⟩ := Option.map_eq_some_iff.mp removed
      rfl
  | legendaryActions =>
      obtain ⟨actions, _, rfl⟩ := Option.map_eq_some_iff.mp removed
      rfl

theorem apply_name {directive : Directive} (applied : creature.apply directive = .ok after) :
    after.name = directive.givenName?.or creature.name := by
  cases directive with
  | name name =>
      cases applied
      rfl
  | subject form name =>
      cases applied
      exact setSubject_name form name creature
  | damageTypes relation types =>
      cases applied
      exact addDamageTypes_name relation types creature
  | customDamage relation text =>
      cases applied
      exact addCustomDamage_name relation text creature
  | removeWeapon weapon => exact removeWeapon_name applied
  | overrideWeaponAttack weapon attack => exact changeWeapon_name applied
  | overrideWeaponEffect weapon effect => exact changeWeapon_name applied
  | expectWeapon expectation => exact expectWeapon_name applied
  | overrideDescription name description => exact overrideDescription_name applied
  | remove place name =>
      rw [apply_remove] at applied
      split at applied
      · rename_i changed removed
        cases applied
        exact remove?_name removed
      · cases applied
  | _ =>
      cases applied
      rfl

end Creature

namespace BuildContext

variable {context : BuildContext}

theorem applyAll_zero_single {chain : List String} {directive : Directive}
    {creature after : Creature}
    (applied : context.applyAll 0 chain [directive] creature = .ok after) :
    creature.apply directive = .ok after := by
  cases includes : directive.isInclusion with
  | true =>
      obtain ⟨reference, arguments, rfl⟩ := Directive.eq_inclusion includes
      obtain ⟨error, unopened⟩ := context.openInclude_zero chain reference arguments
      rw [applyAll_unopened unopened] at applied
      cases applied
  | false =>
      obtain ⟨enter, single⟩ := context.applyAll_single 0 chain directive creature
      rw [single] at applied
      cases versions : directive.isVersion with
      | true =>
          obtain ⟨minimum, maximum, rfl⟩ := Directive.eq_version versions
          simp only [applyStep] at applied
          split at applied
          · cases applied
            rfl
          · cases applied
      | false =>
          rw [applyStep_acting includes versions] at applied
          exact mapError_eq_ok.mp applied

/-- The name after some directives is the last that one of them gives, or the name before. -/
theorem applyAll_zero_name {chain : List String} {directives : List Directive}
    {creature after : Creature}
    (applied : context.applyAll 0 chain directives creature = .ok after) :
    after.name = (directives.reverse.findSome? Directive.givenName?).or creature.name := by
  induction directives generalizing creature with
  | nil =>
      cases applied
      rfl
  | cons directive others ih =>
      rw [applyAll_cons] at applied
      obtain ⟨reached, first, applied⟩ := bind_eq_ok.mp applied
      rw [ih applied, Creature.apply_name (applyAll_zero_single first), List.reverse_cons,
        List.findSome?_append, Option.or_assoc, List.findSome?_singleton]

/-- Whether a document, with all that it includes, gives a name. -/
def SetsName (context : BuildContext) (reference : Option String) (form : DocumentForm) : Prop :=
  ∃ directives name, load reference form = .ok directives ∧
    .name name ∈ context.spliced reference directives

theorem assemble_eq_ok {reference : Option String} {form : DocumentForm} {creature : Creature}
    (assembled : context.assemble reference form = .ok creature) :
    ∃ directives, load reference form = .ok directives ∧
      context.applyAll context.settings.maxIncludeDepth (rootChain reference) directives {} =
        .ok creature := by
  obtain ⟨directives, loaded, applied⟩ := bind_eq_ok.mp assembled
  exact ⟨directives, loaded, mapError_eq_ok.mp applied⟩

theorem name_isSome_iff_setsName {reference : Option String} {form : DocumentForm}
    {creature : Creature} (assembled : context.assemble reference form = .ok creature) :
    creature.name.isSome = true ↔ context.SetsName reference form := by
  obtain ⟨directives, loaded, applied⟩ := assemble_eq_ok assembled
  have unhindered : Unhindered (context.applyAll context.settings.maxIncludeDepth
      (rootChain reference) directives {}) := by
    rw [applied]
    exact unhindered_ok creature
  -- Without room every directive that passes is applied to the creature itself.
  have flat : context.applyAll 0 [] (context.spliced reference directives) {} = .ok creature :=
    (applyAll_splice _ _ 0 [] unhindered).trans applied
  have nameEq : creature.name =
      (context.spliced reference directives).reverse.findSome? Directive.givenName? := by
    rw [applyAll_zero_name flat]
    exact Option.or_none
  constructor
  · intro named
    rw [nameEq, List.findSome?_isSome_iff] at named
    obtain ⟨directive, member, gives⟩ := named
    cases directive with
    | name given => exact ⟨directives, given, loaded, List.mem_reverse.mp member⟩
    | _ => cases gives
  · rintro ⟨directives', given, loaded', member⟩
    cases loaded.symm.trans loaded'
    rw [nameEq, List.findSome?_isSome_iff]
    exact ⟨.name given, List.mem_reverse.mpr member, rfl⟩

end BuildContext

end Bestiary
