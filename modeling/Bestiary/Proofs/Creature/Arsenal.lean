import Bestiary.Creature.Expectation
import Bestiary.Proofs.Combat.Wording
import Bestiary.Proofs.Creature.Lineage
import Bestiary.Proofs.Directive.Validated

/-!
What the actions of a creature deal can be written down and read again.

The effects that validated directives give to actions are readable, and so are
those of the standard weapons. So what is found of a weapon in the end can be
expected by an entry of a document, unless one of its numbers is too long.
-/

namespace Bestiary

open Document Validation

/-! ### Effects of actions -/

theorem Touch.forall_apply {holds : Action → Prop} {actions : List Action} {touch : Touch}
    (all : ∀ action ∈ actions, holds action) (added : ∀ action, touch = .adds action → holds action)
    (changed : ∀ index change action, touch = .changes index change → holds action →
      holds (change action)) :
    ∀ action ∈ touch.apply actions, holds action := by
  cases touch with
  | adds action =>
      exact List.forall_mem_append.mpr ⟨all, List.forall_mem_singleton.mpr (added action rfl)⟩
  | changes index change =>
      intro action member
      obtain ⟨place, here⟩ := List.mem_iff_getElem?.mp member
      rw [apply, List.getElem?_modify] at here
      obtain ⟨former, was, same⟩ := Option.map_eq_some_iff.mp here
      have held := all former (List.mem_of_getElem? was)
      split at same
      · exact same ▸ changed index change former rfl held
      · exact same ▸ held
  | removes index => exact fun action member => all action (List.mem_of_mem_eraseIdx member)
  | leaves => exact all

namespace Action

def GivesReadably (action : Action) : Prop :=
  ∀ effect, action.effect? = some effect → effect.IsReadable

theorem effect?_describeAs (text : String) (action : Action) :
    (action.describeAs text).effect? = action.effect? := by
  obtain ⟨name, usage, form⟩ := action
  cases form with
  | text description => rfl
  | strike strike =>
      obtain ⟨armament, _, _, _⟩ := strike
      cases armament <;> rfl

theorem effect?_overrideAttack (attack : Attack) (action : Action) :
    (action.overrideAttack attack).effect? = action.effect? := by
  obtain ⟨name, usage, form⟩ := action
  cases form with
  | text description => rfl
  | strike strike =>
      obtain ⟨armament, _, _, _⟩ := strike
      cases armament <;> rfl

theorem effect?_overrideEffect {effect : Effect} {action : Action} :
    (action.overrideEffect effect).effect? = some effect ∨
      (action.overrideEffect effect).effect? = action.effect? := by
  obtain ⟨name, usage, form⟩ := action
  cases form with
  | text description => exact .inr rfl
  | strike strike =>
      obtain ⟨armament, _, _, _⟩ := strike
      cases armament with
      | weapon held magic attack given => exact .inl rfl
      | natural attack given => exact .inr rfl

theorem GivesReadably.overrideEffect {effect : Effect} {action : Action}
    (readably : action.GivesReadably) (readable : effect.IsReadable) :
    (action.overrideEffect effect).GivesReadably := by
  intro given isGiven
  rcases effect?_overrideEffect with same | same
  · obtain rfl := Option.some.inj (same.symm.trans isGiven)
    exact readable
  · exact readably given (same.symm.trans isGiven)

end Action

namespace Creature

variable {creature after : Creature}

def FightsReadably (creature : Creature) : Prop :=
  ∀ action ∈ creature.actions, action.GivesReadably

theorem fightsReadably_fresh : FightsReadably {} :=
  List.forall_mem_nil _

theorem FightsReadably.apply {directive : Directive} (readably : creature.FightsReadably)
    (readable : directive.IsReadable) (applied : creature.apply directive = .ok after) :
    after.FightsReadably := by
  rw [FightsReadably, apply_touch applied]
  refine Touch.forall_apply readably ?_ ?_
  · intro action touched
    rcases Directive.touch_adds touched with
      ⟨entry, rfl, rfl⟩ | ⟨entry, rfl, rfl⟩ | ⟨entry, rfl, rfl⟩
    · exact fun _ => nofun
    · intro effect given
      cases given
      exact readable.effect
    · exact fun _ => nofun
  · intro index change action touched gives
    rcases Directive.touch_changes touched with
      ⟨held, given, rfl, _, rfl⟩ | ⟨held, given, rfl, _, rfl⟩ | ⟨given, text, rfl, _, rfl⟩
    · rw [Action.GivesReadably, Action.effect?_overrideAttack]
      exact gives
    · exact gives.overrideEffect readable
    · rw [Action.GivesReadably, Action.effect?_describeAs]
      exact gives

end Creature

theorem BuildContext.applyAll_fightsReadably {context : BuildContext} {room : Nat}
    {chain : List String} {directives : List Directive} {creature : Creature}
    (validated : ∀ directive ∈ directives, directive.IsValidated)
    (applied : context.applyAll room chain directives {} = .ok creature) :
    creature.FightsReadably :=
  applyAll_preserves
    (fun isValidated readably first => readably.apply isValidated.readable first)
    validated Creature.fightsReadably_fresh applied

/-! ### What a weapon turns out to be -/

namespace Creature

variable {creature : Creature} {held : Weapon}

def Carries (creature : Creature) (held : Weapon) : Prop :=
  ∃ action ∈ creature.actions, action.weapon? = some held

theorem carries_iff :
    creature.Carries held ↔ creature.actions.any (usesWeapon held) = true := by
  rw [List.any_eq_true]
  simp only [Carries, usesWeapon_iff]

/-- The attack roll and the effect of a weapon that is carried are those of the first action with
it, and the effect is readable. -/
theorem Carries.resolves (carries : creature.Carries held) (readably : creature.FightsReadably) :
    ∃ attack effect, creature.resolveWeapon? held = some (attack, effect) ∧
      effect.IsReadable := by
  obtain ⟨action, found⟩ : ∃ action, creature.findWeapon? held = some action :=
    Option.isSome_iff_exists.mp (List.find?_isSome.mpr (List.any_eq_true.mp (carries_iff.mp carries)))
  have uses : action.weapon? = some held := usesWeapon_iff.mp (List.find?_some found)
  have gives := readably action (List.mem_of_find?_eq_some found)
  obtain ⟨name, usage, form⟩ := action
  cases form with
  | text description => cases uses
  | strike strike =>
      obtain ⟨armament, riders, multiattack, override⟩ := strike
      cases armament with
      | natural attack effect => cases uses
      | weapon held' magic attack effect =>
          refine ⟨_, _, by rw [resolveWeapon?, found]; rfl, ?_⟩
          cases effect with
          | none => exact (held'.effect_readable creature.size magic).1
          | some given => exact gives given rfl

end Creature

/-! ### Entries that expect something of a weapon -/

theorem Effect.dice_writable {effect : Effect} (writable : effect.isWritable = true) :
    ∀ dice ∈ effect.dice, dice.isWritable = true := by
  cases effect with
  | damage rolled => exact List.forall_mem_singleton.mpr writable
  | fixedDamage flat => exact List.forall_mem_nil _
  | special text => exact List.forall_mem_nil _
  | alternative rolled =>
      obtain ⟨first, second⟩ := Bool.and_eq_true_iff.mp writable
      exact List.forall_mem_cons.mpr ⟨first, List.forall_mem_singleton.mpr second⟩
  | save rolled => exact List.forall_mem_singleton.mpr writable

namespace WeaponExpectation

def payload : WeaponExpectation → Value
  | attack _ expected => expected.toValue
  | effect _ expected => expected.toValue

def entry (expectation : WeaponExpectation) : Value :=
  .object [(expectation.tag, .list [.ofMember expectation.weapon, expectation.payload])]

theorem ofEntry_entry {expectation : WeaponExpectation} (readable : expectation.IsReadable)
    (writable : expectation.isWritable = true) :
    Directive.ofEntry expectation.entry = .ok (.expectWeapon expectation) := by
  cases expectation with
  | attack held expected =>
      refine Directive.ofEntry_eq_ok.mpr ⟨_, rfl, Reader.tagged_of_lookup rfl rfl ?_⟩
      unfold Directive.Form.weaponAttack Directive.Form.ofFields
      simp only
      rw [Fields.required_of_lookup rfl (LawfulVocabulary.read_ofMember held),
        Fields.required_of_lookup rfl expected.read_toValue]
      rfl
  | effect held expected =>
      refine Directive.ofEntry_eq_ok.mpr ⟨_, rfl, Reader.tagged_of_lookup rfl rfl ?_⟩
      unfold Directive.Form.weaponEffect Directive.Form.ofFields
      simp only
      rw [Fields.required_of_lookup rfl (LawfulVocabulary.read_ofMember held),
        Fields.required_of_lookup rfl
          (Effect.read_toValue readable (Effect.dice_writable writable))]
      rfl

end WeaponExpectation

end Bestiary
