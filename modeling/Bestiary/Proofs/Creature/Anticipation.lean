import Bestiary.Proofs.Creature.Arsenal
import Bestiary.Proofs.Creature.Expectation
import Bestiary.Proofs.Creature.Overwriting
import Bestiary.Proofs.Creature.Tables
import Bestiary.Proofs.Directive.Dump

/-!
Expectations of weapons are about the creature in the end.

To expect something of a weapon needs the weapon, and is noted at the end of the
expectations; nothing else reads them until the creature is derived. So such a
directive may be inserted wherever the weapon is carried: the creature is the
same but for one expectation more, which is met exactly if it is what the first
action with the weapon turns out to be.
-/

namespace Bestiary

open Document

/-! ### Creatures with other expectations -/

namespace Creature

def expecting (creature : Creature) (expectations : List WeaponExpectation) : Creature :=
  { creature with weaponExpectations := expectations }

section Derivation

variable {creature : Creature} {expectations : List WeaponExpectation}

theorem settleRating_expecting (passes : Nat) (estimate : Rating) :
    (creature.expecting expectations).settleRating passes estimate =
      creature.settleRating passes estimate := by
  induction passes generalizing estimate with
  | zero => rfl
  | succ passes ih =>
      have refined : (creature.expecting expectations).refineRating estimate =
          creature.refineRating estimate :=
        rfl
      rw [settleRating, settleRating, refined, ih]

theorem rating_expecting (passes : Nat) :
    (creature.expecting expectations).rating passes = creature.rating passes :=
  congrArg creature.challengeRatingOverride.getD (settleRating_expecting passes .lowest)

theorem findRating_expecting (passes : Nat) :
    (creature.expecting expectations).findRating passes = creature.findRating passes := by
  have given : (creature.expecting expectations).challengeRatingOverride =
      creature.challengeRatingOverride :=
    rfl
  have actions : (creature.expecting expectations).actions = creature.actions := rfl
  rw [findRating, findRating, rating_expecting, given, actions]

theorem deriveNamed_expecting (name : String) (passes : Nat) :
    (creature.expecting expectations).deriveNamed name passes =
      creature.deriveNamed name passes := by
  have scope : (creature.expecting expectations).proseVariables = creature.proseVariables := rfl
  have features : (creature.expecting expectations).featureDrafts = creature.featureDrafts := rfl
  have actions : (creature.expecting expectations).actionDrafts = creature.actionDrafts := rfl
  have introduction : (creature.expecting expectations).legendaryIntroduction =
      creature.legendaryIntroduction :=
    rfl
  have armorClass : (creature.expecting expectations).armorClass = creature.armorClass := rfl
  have hitDice : (creature.expecting expectations).hitDice = creature.hitDice := rfl
  have hitPoints : (creature.expecting expectations).hitPoints = creature.hitPoints := rfl
  unfold deriveNamed
  rw [findRating_expecting, scope, features, actions, introduction, armorClass, hitDice, hitPoints]
  rfl

end Derivation

section Application

variable {creature : Creature} {expectations : List WeaponExpectation}

theorem actions_expecting : (creature.expecting expectations).actions = creature.actions :=
  rfl

theorem changeWeapon_expecting (tag : String) (held : Weapon) (change : Action → Action) :
    (creature.expecting expectations).changeWeapon tag held change =
      (creature.changeWeapon tag held change).map (·.expecting expectations) := by
  rw [changeWeapon_eq, changeWeapon_eq, actions_expecting]
  cases changeFirst? (usesWeapon held) change creature.actions <;> rfl

theorem removeWeapon_expecting (held : Weapon) :
    (creature.expecting expectations).removeWeapon held =
      (creature.removeWeapon held).map (·.expecting expectations) := by
  rw [removeWeapon_eq, removeWeapon_eq, actions_expecting]
  cases removeFirst? (usesWeapon held) creature.actions <;> rfl

theorem overrideDescription_expecting (name description : String) :
    (creature.expecting expectations).overrideDescription name description =
      (creature.overrideDescription name description).map (·.expecting expectations) := by
  rw [overrideDescription_eq, overrideDescription_eq]
  split
  · rfl
  · rw [actions_expecting]
    cases changeFirst? (fun action => sameName action.name name) (Action.describeAs description)
      creature.actions <;> rfl

theorem removeFeature?_expecting (name : String) :
    (creature.expecting expectations).removeFeature? name =
      (creature.removeFeature? name).map (·.expecting expectations) := by
  have spellcasting : (creature.expecting expectations).spellcasting = creature.spellcasting := rfl
  have innate : (creature.expecting expectations).innateSpellcasting =
      creature.innateSpellcasting :=
    rfl
  have features : (creature.expecting expectations).features = creature.features := rfl
  rw [removeFeature?_eq, removeFeature?_eq, removeListed?, removeListed?, spellcasting, innate,
    features]
  split
  · rfl
  · split
    · rfl
    · rw [Option.map_map]
      rfl

theorem remove?_expecting (place : Section) (name : String) :
    (creature.expecting expectations).remove? place name =
      (creature.remove? place name).map (·.expecting expectations) := by
  cases place with
  | features => exact removeFeature?_expecting name
  | _ =>
      rw [remove?_eq, remove?_eq]
      dsimp only
      rw [Option.map_map]
      rfl

theorem apply_expecting {directive : Directive}
    (other : ∀ expectation, directive ≠ .expectWeapon expectation) :
    (creature.expecting expectations).apply directive =
      (creature.apply directive).map (·.expecting expectations) := by
  cases directive with
  | expectWeapon expectation => exact absurd rfl (other expectation)
  | overrideWeaponAttack held given => exact changeWeapon_expecting _ _ _
  | overrideWeaponEffect held given => exact changeWeapon_expecting _ _ _
  | removeWeapon held => exact removeWeapon_expecting held
  | overrideDescription name description => exact overrideDescription_expecting name description
  | remove place name =>
      rw [apply_remove, apply_remove, remove?_expecting]
      cases creature.remove? place name <;> rfl
  | subject form name => cases form <;> rfl
  | damageTypes relation types => cases relation <;> rfl
  | customDamage relation text => cases relation <;> rfl
  | _ => rfl

theorem weaponExpectations_kept {after : Creature} {directive : Directive}
    (other : ∀ expectation, directive ≠ .expectWeapon expectation)
    (applied : creature.apply directive = .ok after) :
    after.weaponExpectations = creature.weaponExpectations := by
  have again : (creature.expecting creature.weaponExpectations).apply directive =
      (creature.apply directive).map (·.expecting creature.weaponExpectations) :=
    apply_expecting other
  have same : after = after.expecting creature.weaponExpectations := by
    rw [applied] at again
    exact Except.ok.inj (applied.symm.trans again)
  rw [same]
  rfl

end Application

/-! ### One expectation more -/

/-- Two creatures are the same, but the second has one expectation more among its own. -/
def ExpectsAlso (expectation : WeaponExpectation) (first second : Creature) : Prop :=
  ∃ earlier later, first.weaponExpectations = earlier ++ later ∧
    second = first.expecting (earlier ++ expectation :: later)

theorem expectsAlso_isSimulation (expectation : WeaponExpectation) :
    IsSimulation (ExpectsAlso expectation) := by
  rintro directive first _ after ⟨earlier, later, split, rfl⟩ applied
  by_cases expects : ∃ other, directive = .expectWeapon other
  · obtain ⟨other, rfl⟩ := expects
    change first.expectWeapon other = _ at applied
    rw [expectWeapon_eq] at applied
    split at applied
    · rename_i carried
      cases applied
      have appended : earlier ++ expectation :: later ++ [other] =
          earlier ++ expectation :: (later ++ [other]) :=
        List.append_assoc _ _ _
      refine ⟨_, (expectWeapon_eq _ _).trans (if_pos carried), earlier, later ++ [other], ?_,
        congrArg first.expecting appended⟩
      rw [split, List.append_assoc]
    · cases applied
  · have other : ∀ given, directive ≠ .expectWeapon given :=
      fun given same => expects ⟨given, same⟩
    refine ⟨after.expecting (earlier ++ expectation :: later), ?_, earlier, later, ?_, rfl⟩
    · rw [apply_expecting other, applied]
      rfl
    · exact (weaponExpectations_kept other applied).trans split

theorem derive_expecting {creature : Creature} {passes : Nat} {built : DerivedCreature}
    (success : creature.derive passes = .ok built) (expectations : List WeaponExpectation) :
    ∃ built', (creature.expecting expectations).derive passes = .ok built' ∧
      built'.creature = creature.expecting expectations ∧ built'.name = built.name ∧
      built'.derived = built.derived := by
  obtain ⟨rfl, found⟩ := deriveNamed_of_derive success
  have named : (built.creature.expecting expectations).name = some built.name := built.named
  refine ⟨⟨built.creature.expecting expectations, built.name, named, built.derived⟩, ?_, rfl, rfl,
    rfl⟩
  unfold derive
  split
  · rename_i unnamed
    cases unnamed.symm.trans named
  · rename_i name isName
    cases isName.symm.trans named
    rw [deriveNamed_expecting, found]
    rfl

end Creature

/-! ### Documents with one expectation more -/

namespace BuildContext

variable {context : BuildContext} {reference : Option String} {form form' : DocumentForm}
  {before after : List Directive} {expectation : WeaponExpectation} {reached : Creature}

theorem assemble_expecting {creature : Creature} (read : form.read = .ok (before ++ after))
    (read' : form'.read = .ok (before ++ .expectWeapon expectation :: after))
    (assembled : context.assemble reference form = .ok creature)
    (applied : context.applyAll context.settings.maxIncludeDepth (rootChain reference) before {} =
      .ok reached)
    (carries : reached.Carries expectation.weapon) :
    ∃ creature', context.assemble reference form' = .ok creature' ∧
      Creature.ExpectsAlso expectation creature creature' := by
  rw [assemble_loaded (load_eq_ok.mpr read), mapError_eq_ok, applyAll_append, applied] at assembled
  let noted := reached.expecting (reached.weaponExpectations ++ [expectation])
  have noting : context.applyAll context.settings.maxIncludeDepth (rootChain reference)
      [.expectWeapon expectation] reached = .ok noted := by
    rw [applyAll_acting ⟨rfl, rfl⟩, mapError_eq_ok]
    exact (Creature.expectWeapon_eq _ _).trans (if_pos (Creature.carries_iff.mp carries))
  have start : Creature.ExpectsAlso expectation reached noted :=
    ⟨reached.weaponExpectations, [], (List.append_nil _).symm, rfl⟩
  obtain ⟨creature', applied', related⟩ :=
    applyAll_simulation (Creature.expectsAlso_isSimulation expectation) start assembled
  refine ⟨creature', ?_, related⟩
  rw [assemble_loaded (load_eq_ok.mpr read'), mapError_eq_ok, applyAll_append, applied, ok_bind,
    applyAll_cons, noting]
  exact applied'

/-- A document with an expectation inserted where the weapon is carried is built as the document
without it is, if the expectation is met in the end, and else fails with what its check says. -/
theorem build_expecting {built : DerivedCreature}
    (strict : context.settings.strictExpectations = true)
    (read : form.read = .ok (before ++ after))
    (read' : form'.read = .ok (before ++ .expectWeapon expectation :: after))
    (success : context.build reference form = .ok built)
    (applied : context.applyAll context.settings.maxIncludeDepth (rootChain reference) before {} =
      .ok reached)
    (carries : reached.Carries expectation.weapon) :
    (built.creature.checkWeapon expectation = .ok none →
      ∃ built', context.build reference form' = .ok built' ∧ built'.derived = built.derived) ∧
    ∀ fault, checkNext true built.name [] (built.creature.checkWeapon expectation) =
        .error fault →
      context.build reference form' = .error fault := by
  obtain ⟨creature, found, assembled, derived, checked⟩ := build_eq_ok_iff.mp success
  obtain ⟨creature', assembled', earlier, later, split, rfl⟩ :=
    assemble_expecting read read' assembled applied carries
  have derived := mapError_eq_ok.mp derived
  obtain ⟨rfl, _⟩ := Creature.gives_of_derive derived
  obtain ⟨built', derived', creatureEq, nameEq, derivedEq⟩ :=
    Creature.derive_expecting derived (earlier ++ expectation :: later)
  have derived' : context.derive _ = .ok built' := mapError_eq_ok.mpr derived'
  have ratings : built'.checkRating = built.checkRating := by
    unfold DerivedCreature.checkRating
    rw [creatureEq, derivedEq]
    rfl
  have inserted : built'.checks =
      (.ok built.checkRating :: earlier.map built.creature.checkWeapon) ++
        built.creature.checkWeapon expectation :: later.map built.creature.checkWeapon := by
    rw [DerivedCreature.checks, ratings, creatureEq, List.cons_append, ← List.map_cons,
      ← List.map_append]
    rfl
  rw [strict, mismatches_eq, strictChecks_eq_ok_iff_met, DerivedCreature.checks, split,
    List.map_append, ← List.cons_append, List.forall_mem_append] at checked
  obtain ⟨⟨metEarlier, metLater⟩, _⟩ := checked
  constructor
  · intro met
    refine ⟨built', build_eq_ok_iff.mpr ⟨_, [], assembled', derived', ?_⟩, derivedEq⟩
    rw [strict, mismatches_eq, strictChecks_eq_ok_iff_met, inserted, met]
    exact ⟨List.forall_mem_append.mpr ⟨metEarlier, List.forall_mem_cons.mpr ⟨rfl, metLater⟩⟩, rfl⟩
  · intro fault stops
    rw [build, assembled', ok_bind, derived', ok_bind, strict, mismatches_eq, inserted, nameEq,
      strictChecks_stop metEarlier stops]
    rfl

theorem build_comparing {built : DerivedCreature} {actual : Attack × Effect}
    (strict : context.settings.strictExpectations = true)
    (read : form.read = .ok (before ++ after))
    (read' : form'.read = .ok (before ++ .expectWeapon expectation :: after))
    (success : context.build reference form = .ok built)
    (applied : context.applyAll context.settings.maxIncludeDepth (rootChain reference) before {} =
      .ok reached)
    (carries : reached.Carries expectation.weapon)
    (resolved : built.creature.resolveWeapon? expectation.weapon = some actual)
    (told : built.creature.tellsWeapon expectation.weapon = true) :
    (Creature.compareWeapon actual expectation = none →
      ∃ built', context.build reference form' = .ok built' ∧ built'.derived = built.derived) ∧
    ∀ mismatch, Creature.compareWeapon actual expectation = some mismatch →
      context.build reference form' = .error (.expectation built.name mismatch) := by
  have compared : built.creature.checkWeapon expectation =
      .ok (Creature.compareWeapon actual expectation) := by
    rw [Creature.checkWeapon, resolved]
    exact if_pos told
  obtain ⟨met, stops⟩ := build_expecting strict read read' success applied carries
  rw [compared] at met stops
  constructor
  · intro same
    exact met (congrArg Except.ok same)
  · intro mismatch differs
    rw [differs] at stops
    exact stops _ rfl

def FailsAs (kind : FailureKind) (outcome : Except BuildFault DerivedCreature) : Prop :=
  ∃ fault report, outcome = .error fault ∧ fault.report? = some report ∧ report.kind = kind

theorem failsAs_weaponMismatch {name : String} {mismatch : Mismatch}
    {outcome : Except BuildFault DerivedCreature}
    (failed : outcome = .error (.expectation name mismatch))
    (kind : (mismatch.report name).kind = .weaponMismatch)
    (writable : mismatch.isWritable = true) : FailsAs .weaponMismatch outcome :=
  ⟨_, mismatch.report name, failed, if_pos writable, kind⟩

/-- An expectation of a weapon is about the creature in the end, wherever the weapon is carried
when it is stated. It is met exactly if it is the attack roll or the effect of the first action
with the weapon; the derived statistics are then the same as without it, and the build fails with
the mismatch otherwise. The entry with the dump of the attack roll or the effect itself is read as
an expectation that is met. An effect needs numbers that can be written for that, and for the
report. Where the effect cannot even be told, no expectation of the weapon can be checked. -/
theorem build_expects_final_weapon {built : DerivedCreature} {held : Weapon}
    (strict : context.settings.strictExpectations = true)
    (read : form.read = .ok (before ++ after))
    (validated : ∀ directive ∈ before ++ after, directive.IsValidated)
    (success : context.build reference form = .ok built) (carried : built.creature.Carries held)
    (applied : context.applyAll context.settings.maxIncludeDepth (rootChain reference) before {} =
      .ok reached)
    (carries : reached.Carries held) :
    ∃ attack effect, built.creature.resolveWeapon? held = some (attack, effect) ∧
      (built.creature.tellsWeapon held = true →
        (∀ expected form',
          form'.read = .ok (before ++ .expectWeapon (.attack held expected) :: after) →
          (expected = attack → ∃ built', context.build reference form' = .ok built' ∧
            built'.derived = built.derived) ∧
          (expected ≠ attack → FailsAs .weaponMismatch (context.build reference form'))) ∧
        (∀ expected form',
          form'.read = .ok (before ++ .expectWeapon (.effect held expected) :: after) →
          (expected = effect → ∃ built', context.build reference form' = .ok built' ∧
            built'.derived = built.derived) ∧
          (expected ≠ effect → expected.isWritable = true → effect.isWritable = true →
            FailsAs .weaponMismatch (context.build reference form'))) ∧
        Directive.ofEntry (.object [("expect_weapon_attack",
          .list [.ofMember held, attack.toValue])]) = .ok (.expectWeapon (.attack held attack)) ∧
        (effect.isWritable = true →
          Directive.ofEntry (.object [("expect_weapon_effect",
            .list [.ofMember held, effect.toValue])]) =
              .ok (.expectWeapon (.effect held effect)))) ∧
      (built.creature.tellsWeapon held = false →
        ∀ expectation form', expectation.weapon = held →
          form'.read = .ok (before ++ .expectWeapon expectation :: after) →
            context.build reference form' = .error (.derivation .unwritableNumber)) := by
  obtain ⟨creature, _, assembled, derived, _⟩ := build_eq_ok_iff.mp success
  obtain ⟨rfl, _⟩ := Creature.gives_of_derive (mapError_eq_ok.mp derived)
  rw [assemble_loaded (load_eq_ok.mpr read), mapError_eq_ok] at assembled
  have readably : built.creature.FightsReadably := applyAll_fightsReadably validated assembled
  obtain ⟨attack, effect, resolved, readable⟩ := carried.resolves readably
  refine ⟨attack, effect, resolved, fun told => ⟨?_, ?_, ?_, ?_⟩, ?_⟩
  · intro expected form' read'
    obtain ⟨met, unmet⟩ := build_comparing strict read read' success applied carries resolved told
    constructor
    · intro same
      exact met (if_pos same)
    · intro differs
      exact failsAs_weaponMismatch (unmet _ (if_neg differs)) rfl rfl
  · intro expected form' read'
    obtain ⟨met, unmet⟩ := build_comparing strict read read' success applied carries resolved told
    constructor
    · intro same
      exact met (if_pos same)
    · intro differs writable writableEffect
      exact failsAs_weaponMismatch (unmet _ (if_neg differs)) rfl
        (Bool.and_eq_true_iff.mpr ⟨writable, writableEffect⟩)
  · exact @WeaponExpectation.ofEntry_entry (.attack held attack) trivial rfl
  · intro writable
    exact @WeaponExpectation.ofEntry_entry (.effect held effect) readable writable
  · rintro untold expectation form' rfl read'
    have unchecked : built.creature.checkWeapon expectation = .error .unwritableNumber := by
      rw [Creature.checkWeapon, resolved]
      exact if_neg (Bool.eq_false_iff.mp untold)
    apply (build_expecting strict read read' success applied carries).2
    rw [unchecked]
    rfl

theorem formatVersion_validated : (Directive.version formatVersion none).IsValidated := by
  have positive : Number.doubleOfInt 0 < formatVersion := by decide +kernel
  have read : Validation.Reader.positiveFloat (.float formatVersion) = .valid formatVersion :=
    Validation.Reader.positiveFloat_float positive
  refine ⟨.object [("directive", .text "version"), ("minimum", .float formatVersion)],
    Validation.Reader.tagged_of_lookup rfl rfl ?_⟩
  unfold Directive.Form.ofFields
  simp only
  rw [Validation.Fields.required_of_lookup rfl read]
  rfl

/-- A goblin that grows after something is expected of its scimitar. -/
theorem build_expects_final_weapon_grown :
    let context : BuildContext := {}
    let before : List Directive :=
      [.version formatVersion none, .name "Goblin", .weapon { weapon := .scimitar }]
    let after : List Directive := [.size .large, .overrideDescription "Scimitar" "It cuts."]
    let reached : Creature :=
      { name := some "Goblin", actions := [Creature.weaponAction { weapon := .scimitar }] }
    let effect (count : Int) : Effect :=
      .damage { dice := .single count .d6 0, damageType := .slashing, bonus := .modifier .best }
    let expecting (count : Int) : DocumentForm :=
      .directives (before ++ .expectWeapon (.effect .scimitar (effect count)) :: after)
    (∀ directive ∈ before ++ after, directive.IsValidated) ∧
      context.applyAll context.settings.maxIncludeDepth (rootChain none) before {} = .ok reached ∧
      reached.Carries .scimitar ∧
      ∃ built, context.build none (.directives (before ++ after)) = .ok built ∧
        built.creature.Carries .scimitar ∧
        (∃ built', context.build none (expecting 2) = .ok built' ∧
          built'.derived = built.derived) ∧
        FailsAs .weaponMismatch (context.build none (expecting 1)) := by
  intro context before after reached effect expecting
  have validated : ∀ directive ∈ before ++ after, directive.IsValidated := by
    have name : (Directive.name "Goblin").IsValidated :=
      ⟨.object [("directive", .text "name"), ("name", .text "Goblin")], rfl⟩
    have weapon : (Directive.weapon { weapon := .scimitar }).IsValidated :=
      ⟨.object [("directive", .text "weapon"), ("weapon", .text "scimitar")], rfl⟩
    have size : (Directive.size .large).IsValidated :=
      ⟨.object [("directive", .text "size"), ("size", .text "large")], rfl⟩
    have description : (Directive.overrideDescription "Scimitar" "It cuts.").IsValidated :=
      ⟨.object [("directive", .text "override_action_description"), ("name", .text "Scimitar"),
        ("description", .text "It cuts.")], rfl⟩
    simp only [before, after, List.cons_append, List.nil_append, List.forall_mem_cons]
    exact ⟨formatVersion_validated, name, weapon, size, description, List.forall_mem_nil _⟩
  have applied : context.applyAll context.settings.maxIncludeDepth (rootChain none) before {} =
      .ok reached :=
    eq_ok_of_toOption (by decide +kernel)
  have carries : reached.Carries .scimitar := Creature.carries_iff.mpr (by decide)
  have summary : (context.build none (.directives (before ++ after))).toOption.map
      (fun built => ((built.creature.actions.any (Creature.usesWeapon .scimitar),
        built.creature.tellsWeapon .scimitar), built.creature.resolveWeapon? .scimitar)) =
      some ((true, true), some (Weapon.attack .scimitar 0, effect 2)) := by
    decide +kernel
  obtain ⟨built, success, same⟩ := Option.map_eq_some_iff.mp summary
  simp only [Prod.mk.injEq] at same
  obtain ⟨⟨uses, told⟩, resolved⟩ := same
  have success := eq_ok_of_toOption success
  have carried : built.creature.Carries .scimitar := Creature.carries_iff.mpr uses
  obtain ⟨_, _, resolved', tells, _⟩ :=
    build_expects_final_weapon rfl rfl validated success carried applied carries
  obtain ⟨_, effects, _⟩ := tells told
  cases resolved.symm.trans resolved'
  refine ⟨validated, applied, carries, built, success, carried, ?_, ?_⟩
  · exact (effects (effect 2) (expecting 2) rfl).1 rfl
  · exact (effects (effect 1) (expecting 1) rfl).2 (by decide) (by decide +kernel)
      (by decide +kernel)

theorem longOverride_validated {longest : Int} (isLongest : longest + 1 = Number.writingBound) :
    (Directive.overrideWeaponEffect .club (.damage
      { dice := .single 1 .d6 (longest + longest), damageType := .bludgeoning })).IsValidated := by
  obtain ⟨read, _⟩ := Dice.ofText_doubled isLongest
  exact Directive.ofEntry_validated (Directive.ofEntry_club read)

/-- The bonus of an effect may be so long that a mismatch cannot be reported. -/
theorem build_hides_long_mismatch :
    let longest : Int := Number.writingBound - 1
    let effect (bonus : Int) : Effect :=
      .damage { dice := .single 1 .d6 bonus, damageType := .bludgeoning }
    let directives : List Directive :=
      [.version formatVersion none, .name "Rat", .weapon { weapon := .club },
        .overrideWeaponEffect .club (effect (longest + longest)),
        .overrideDescription "Club" "It hits.", .challengeShortcut .none]
    let expecting : List Directive := directives ++ [.expectWeapon (.effect .club (effect 0))]
    (∀ directive ∈ directives, directive.isInclusion = false ∧ directive.IsValidated) ∧
      (∃ built, ({} : BuildContext).build none (.directives directives) = .ok built ∧
        (built.creature.resolveWeapon? .club).map Prod.snd = some (effect (longest + longest))) ∧
      effect 0 ≠ effect (longest + longest) ∧
      ¬FailsAs .weaponMismatch (({} : BuildContext).build none (.directives expecting)) := by
  intro longest effect directives expecting
  have validated : ∀ directive ∈ directives,
      directive.isInclusion = false ∧ directive.IsValidated := by
    have name : (Directive.name "Rat").IsValidated :=
      ⟨.object [("directive", .text "name"), ("name", .text "Rat")], rfl⟩
    have weapon : (Directive.weapon { weapon := .club }).IsValidated :=
      ⟨.object [("directive", .text "weapon"), ("weapon", .text "club")], rfl⟩
    have override :
        (Directive.overrideWeaponEffect .club (effect (longest + longest))).IsValidated :=
      longOverride_validated (Int.sub_add_cancel _ _)
    have description : (Directive.overrideDescription "Club" "It hits.").IsValidated :=
      ⟨.object [("directive", .text "override_action_description"), ("name", .text "Club"),
        ("description", .text "It hits.")], rfl⟩
    have rating : (Directive.challengeShortcut .none).IsValidated :=
      ⟨.object [("directive", .text "no_challenge")], rfl⟩
    simp only [directives, List.forall_mem_cons]
    exact ⟨⟨rfl, formatVersion_validated⟩, ⟨rfl, name⟩, ⟨rfl, weapon⟩, ⟨rfl, override⟩,
      ⟨rfl, description⟩, ⟨rfl, rating⟩, List.forall_mem_nil _⟩
  have summary : (({} : BuildContext).build none (.directives directives)).toOption.map
      (fun built => (built.creature.resolveWeapon? .club).map Prod.snd) =
      some (some (effect (longest + longest))) := by
    decide +kernel
  obtain ⟨built, success, resolved⟩ := Option.map_eq_some_iff.mp summary
  have unreported : failsWith (fun fault => fault.report?.isNone)
      (({} : BuildContext).build none (.directives expecting)) = true := by
    decide +kernel
  obtain ⟨fault, failed, hidden⟩ := exists_error_of_failsWith unreported
  refine ⟨validated, ⟨built, eq_ok_of_toOption success, resolved⟩, by decide +kernel, ?_⟩
  rintro ⟨_, report, failed', reported, _⟩
  obtain rfl := Except.error.inj (failed.symm.trans failed')
  rw [reported] at hidden
  cases hidden

end BuildContext

end Bestiary
