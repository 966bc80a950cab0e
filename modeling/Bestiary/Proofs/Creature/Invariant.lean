import Bestiary.Creature.Writer
import Bestiary.Proofs.Creature.Inclusion
import Bestiary.Proofs.Creature.Naming

/-!
What holds of every creature that validated directives make.

The handlers change one or two fields each and trust what the readers of their
directives have checked. `WellFormed` is what this trust amounts to. It holds
of the creature that a document starts from, each validated directive keeps
it, and so do all directives of a document with those that it includes.
-/

namespace Bestiary

/-! ### Kinds of actions -/

namespace Action

structure IsWeapon (action : Action) : Prop where
  weapon : action.weapon?.isSome = true

structure IsAttack (action : Action) : Prop where
  weapon : action.weapon? = none
  attack : action.attack?.isSome = true
  effect : action.effect?.isSome = true

structure IsFreeText (action : Action) : Prop where
  weapon : action.weapon? = none
  attack : action.attack? = none
  effect : action.effect? = none
  description : action.description?.isSome = true

def resolve? (size : Size) (action : Action) : Option (Attack × Effect) :=
  action.strike?.map fun strike => strike.armament.resolve size

/-- An action is of exactly one kind, and only free text resolves to nothing. -/
structure IsOneKind (size : Size) (action : Action) : Prop where
  some : action.IsWeapon ∨ action.IsAttack ∨ action.IsFreeText
  notBoth : ¬(action.IsWeapon ∧ action.IsAttack)
  notWeaponText : ¬(action.IsWeapon ∧ action.IsFreeText)
  notAttackText : ¬(action.IsAttack ∧ action.IsFreeText)
  resolved : action.resolve? size = none ↔ action.IsFreeText

theorem isOneKind (size : Size) (action : Action) : action.IsOneKind size := by
  have weaponText : ¬(action.IsWeapon ∧ action.IsFreeText) := by
    rintro ⟨armed, text⟩
    have absent := text.weapon ▸ armed.weapon
    cases absent
  have weaponAttack : ¬(action.IsWeapon ∧ action.IsAttack) := by
    rintro ⟨armed, attack⟩
    have absent := attack.weapon ▸ armed.weapon
    cases absent
  have attackText : ¬(action.IsAttack ∧ action.IsFreeText) := by
    rintro ⟨attack, text⟩
    have absent := text.attack ▸ attack.attack
    cases absent
  obtain ⟨name, usage, form⟩ := action
  cases form with
  | text description =>
      have text : IsFreeText ⟨name, usage, .text description⟩ := ⟨rfl, rfl, rfl, rfl⟩
      exact ⟨.inr (.inr text), weaponAttack, weaponText, attackText, fun _ => text, fun _ => rfl⟩
  | strike strike =>
      obtain ⟨armament, riders, multiattack, override⟩ := strike
      cases armament with
      | weapon weapon magic attack effect =>
          have armed : IsWeapon
              ⟨name, usage, .strike ⟨.weapon weapon magic attack effect, riders, multiattack,
                override⟩⟩ :=
            ⟨rfl⟩
          refine ⟨.inl armed, weaponAttack, weaponText, attackText, ?_, fun text => ?_⟩
          · intro impossible
            cases impossible
          · exact absurd ⟨armed, text⟩ weaponText
      | natural attack effect =>
          have own : IsAttack
              ⟨name, usage, .strike ⟨.natural attack effect, riders, multiattack, override⟩⟩ :=
            ⟨rfl, rfl, rfl⟩
          refine ⟨.inr (.inl own), weaponAttack, weaponText, attackText, ?_, fun text => ?_⟩
          · intro impossible
            cases impossible
          · exact absurd ⟨own, text⟩ attackText

end Action

/-! ### The invariant -/

def Rating.IsTabled (rating : Rating) : Prop :=
  ∃ row ∈ challengeRows, row.value = rating.value

theorem Rating.isTabled (rating : Rating) : rating.IsTabled :=
  ⟨rating.row, List.get_mem challengeRows rating.place, rfl⟩

namespace Creature

structure WellFormed (creature : Creature) : Prop where
  /-- There is a score for each ability and for nothing else. -/
  abilities : ∃ scores, creature.scores.toValue = .object scores ∧
    keysOf scores = Ability.all.map Ability.word
  scores : ∀ ability, 1 ≤ creature.score ability ∧ creature.score ability ≤ 30
  saves : creature.saves.Nodup
  vulnerabilities : creature.vulnerabilities.Nodup
  resistances : creature.resistances.Nodup
  immunities : creature.immunities.Nodup
  conditionImmunities : creature.conditionImmunities.Nodup
  languages : creature.languages.Nodup
  unspokenLanguages : creature.unspokenLanguages.Nodup
  skills : (keysOf creature.skills).Nodup
  multipliers : ∀ entry ∈ creature.skills, entry.2 = 1 ∨ entry.2 = 2
  hitDice : 1 ≤ creature.hitDiceCount
  hitPoints : ∀ points, creature.hitPointsOverride = some points → 1 ≤ points
  legendaryActions : 1 ≤ creature.legendaryActionCount
  speeds : ∀ entry ∈ creature.speeds, 0 ≤ entry.2
  senses : ∀ entry ∈ creature.senses, 0 ≤ entry.2
  telepathy : ∀ distance, creature.telepathy = some distance → 0 ≤ distance
  pinnedRating : ∀ rating, creature.challengeRatingOverride = some rating → rating.IsTabled
  expectedRating : ∀ rating, creature.expectedChallengeRating = some rating → rating.IsTabled
  actions : ∀ action ∈ creature.actions, action.IsOneKind creature.size

/-! ### What the handlers keep -/

theorem nodup_appendNew {α : Type} [BEq α] [LawfulBEq α] {items : List α} (distinct : items.Nodup)
    (additions : List α) : (appendNew items additions).Nodup := by
  induction additions generalizing items with
  | nil => exact distinct
  | cons item others ih =>
      apply ih
      change (if items.contains item then items else items ++ [item]).Nodup
      split
      · exact distinct
      · rename_i isNew
        have new : item ∉ items := fun known => isNew (List.contains_iff_mem.mpr known)
        refine List.nodup_append.mpr ⟨distinct, List.pairwise_singleton _ item, ?_⟩
        intro known member added isItem same
        have isAdded : added = item := List.mem_singleton.mp isItem
        exact new (isAdded ▸ same ▸ member)

variable {creature after : Creature}

theorem wellFormed_fresh : WellFormed {} where
  abilities := ⟨_, rfl, rfl⟩
  scores ability := by cases ability <;> decide
  saves := .nil
  vulnerabilities := .nil
  resistances := .nil
  immunities := .nil
  conditionImmunities := .nil
  languages := .nil
  unspokenLanguages := .nil
  skills := .nil
  multipliers := List.forall_mem_nil _
  hitDice := Nat.le_refl 1
  hitPoints _ := nofun
  legendaryActions := by decide
  speeds _ _ := Nat.zero_le _
  senses _ _ := Nat.zero_le _
  telepathy _ _ := Nat.zero_le _
  pinnedRating rating _ := rating.isTabled
  expectedRating rating _ := rating.isTabled
  actions := List.forall_mem_nil _

theorem WellFormed.withActions (wellFormed : creature.WellFormed) (actions : List Action) :
    WellFormed { creature with actions := actions } :=
  { wellFormed with actions := fun action _ => action.isOneKind creature.size }

theorem WellFormed.changeWeapon {tag : String} {weapon : Weapon} {change : Action → Action}
    (wellFormed : creature.WellFormed)
    (applied : creature.changeWeapon tag weapon change = .ok after) : after.WellFormed := by
  rw [Creature.changeWeapon_eq] at applied
  split at applied
  · cases applied
    exact wellFormed.withActions _
  · cases applied

theorem WellFormed.removeWeapon {weapon : Weapon} (wellFormed : creature.WellFormed)
    (applied : creature.removeWeapon weapon = .ok after) : after.WellFormed := by
  rw [Creature.removeWeapon_eq] at applied
  split at applied
  · cases applied
    exact wellFormed.withActions _
  · cases applied

theorem WellFormed.expectWeapon {expectation : WeaponExpectation}
    (wellFormed : creature.WellFormed)
    (applied : creature.expectWeapon expectation = .ok after) : after.WellFormed := by
  rw [Creature.expectWeapon_eq] at applied
  split at applied
  · cases applied
    exact { wellFormed with }
  · cases applied

theorem WellFormed.overrideDescription {name description : String}
    (wellFormed : creature.WellFormed)
    (applied : creature.overrideDescription name description = .ok after) :
    after.WellFormed := by
  rw [Creature.overrideDescription_eq] at applied
  split at applied
  · cases applied
    exact { wellFormed with }
  · split at applied
    · cases applied
      exact wellFormed.withActions _
    · cases applied

theorem WellFormed.removeFeature? {name : String} (wellFormed : creature.WellFormed)
    (removed : creature.removeFeature? name = some after) : after.WellFormed := by
  rw [Creature.removeFeature?_eq] at removed
  split at removed
  · cases removed
    exact { wellFormed with }
  · split at removed
    · cases removed
      exact { wellFormed with }
    · obtain ⟨features, _, rfl⟩ := Option.map_eq_some_iff.mp removed
      exact { wellFormed with }

theorem WellFormed.remove? {place : Section} {name : String} (wellFormed : creature.WellFormed)
    (removed : creature.remove? place name = some after) : after.WellFormed := by
  rw [Creature.remove?_eq] at removed
  cases place with
  | features => exact wellFormed.removeFeature? removed
  | actions =>
      obtain ⟨actions, _, rfl⟩ := Option.map_eq_some_iff.mp removed
      exact wellFormed.withActions actions
  | reactions | legendaryActions =>
      obtain ⟨entries, _, rfl⟩ := Option.map_eq_some_iff.mp removed
      exact { wellFormed with }

theorem WellFormed.setSize (wellFormed : creature.WellFormed) (size : Size) :
    WellFormed { creature with size := size } :=
  { wellFormed with actions := fun action _ => action.isOneKind size }

theorem WellFormed.setScore (wellFormed : creature.WellFormed) (ability : Ability) {score : Int}
    (range : 1 ≤ score ∧ score ≤ 30) :
    WellFormed { creature with scores := creature.scores.set ability score } := by
  have scores (other : Ability) : 1 ≤ (creature.scores.set ability score).get other ∧
      (creature.scores.set ability score).get other ≤ 30 := by
    have before := wellFormed.scores other
    cases ability <;> cases other <;> first | exact range | exact before
  exact { wellFormed with scores := scores, abilities := ⟨_, rfl, rfl⟩ }

theorem WellFormed.changeSkill (wellFormed : creature.WellFormed) (change : SkillChange)
    (skill : Skill) :
    WellFormed { creature with skills := Creature.changeSkill change creature.skills skill } := by
  have set (multiplier : Nat) (allowed : multiplier = 1 ∨ multiplier = 2) :
      ∀ entry ∈ setEntry creature.skills skill multiplier, entry.2 = 1 ∨ entry.2 = 2 := by
    intro entry member
    rcases mem_setEntry member with rfl | known
    · exact allowed
    · exact wellFormed.multipliers entry known
  cases change with
  | proficient =>
      exact { wellFormed with
        skills := nodup_setEntry wellFormed.skills skill 1
        multipliers := set 1 (.inl rfl) }
  | expert =>
      exact { wellFormed with
        skills := nodup_setEntry wellFormed.skills skill 2
        multipliers := set 2 (.inr rfl) }
  | removed =>
      exact { wellFormed with
        skills := nodup_removeEntry wellFormed.skills skill
        multipliers := fun entry member =>
          wellFormed.multipliers entry (mem_removeEntry member) }

theorem WellFormed.changeSkills (wellFormed : creature.WellFormed) (change : SkillChange)
    (skills : List Skill) :
    WellFormed
      { creature with skills := skills.foldl (Creature.changeSkill change) creature.skills } := by
  induction skills generalizing creature with
  | nil => exact wellFormed
  | cons skill others ih => exact ih (wellFormed.changeSkill change skill)

theorem WellFormed.setSubject (wellFormed : creature.WellFormed) (form : SubjectForm)
    (name : String) : (creature.setSubject form name).WellFormed := by
  cases form <;> exact { wellFormed with }

theorem WellFormed.setSpeed (wellFormed : creature.WellFormed) (name : String) (distance : Nat) :
    (creature.setSpeed name distance).WellFormed :=
  { wellFormed with speeds := fun _ _ => Nat.zero_le _ }

theorem WellFormed.setSense (wellFormed : creature.WellFormed) (name : String) (distance : Nat) :
    (creature.setSense name distance).WellFormed :=
  { wellFormed with senses := fun _ _ => Nat.zero_le _ }

theorem WellFormed.addDamageTypes (wellFormed : creature.WellFormed) (relation : DamageRelation)
    (types : List DamageType) : (creature.addDamageTypes relation types).WellFormed := by
  cases relation with
  | vulnerability =>
      exact { wellFormed with vulnerabilities := nodup_appendNew wellFormed.vulnerabilities types }
  | resistance =>
      exact { wellFormed with resistances := nodup_appendNew wellFormed.resistances types }
  | immunity => exact { wellFormed with immunities := nodup_appendNew wellFormed.immunities types }

theorem WellFormed.addCustomDamage (wellFormed : creature.WellFormed) (relation : DamageRelation)
    (text : String) : (creature.addCustomDamage relation text).WellFormed := by
  cases relation <;> exact { wellFormed with }

theorem WellFormed.apply {directive : Directive} (wellFormed : creature.WellFormed)
    (readable : directive.IsReadable) (applied : creature.apply directive = .ok after) :
    after.WellFormed := by
  cases directive with
  | version _ _ | inclusion _ _ | name _ | source _ | pronouns _ | creatureType _ | customType _
  | subtype _ | group _ | alignment _ | customAlignment _ | hitDie _ | armor _ _ _ | armorBonus _
  | armorClass _ _ | shield _ | hover | speedNotes _ | nonmagicalResistance _
  | nonmagicalImmunity _ | multiattack _ | feature _ | reaction _ | spellcasting _
  | innateSpellcasting _ =>
      cases applied
      exact { wellFormed with }
  | subject form name =>
      cases applied
      exact wellFormed.setSubject form name
  | size size | sizeShortcut size =>
      cases applied
      exact wellFormed.setSize size
  | hitDiceCount count =>
      cases applied
      exact { wellFormed with hitDice := readable }
  | hitPoints points =>
      cases applied
      have positive (pinned : Nat) (same : some points = some pinned) : 1 ≤ pinned :=
        Option.some.inj same ▸ readable
      exact { wellFormed with hitPoints := positive }
  | movement way distance =>
      cases applied
      exact wellFormed.setSpeed way.word distance
  | speed name distance =>
      cases applied
      exact wellFormed.setSpeed name distance
  | abilityScore ability score =>
      cases applied
      exact wellFormed.setScore ability readable
  | saves abilities =>
      cases applied
      exact { wellFormed with saves := nodup_appendNew wellFormed.saves abilities }
  | removeSaves abilities =>
      cases applied
      exact { wellFormed with saves := wellFormed.saves.filter _ }
  | skills change skills =>
      cases applied
      exact wellFormed.changeSkills change skills
  | damageTypes relation types =>
      cases applied
      exact wellFormed.addDamageTypes relation types
  | customDamage relation text =>
      cases applied
      exact wellFormed.addCustomDamage relation text
  | conditionImmunity conditions =>
      cases applied
      exact { wellFormed with
        conditionImmunities := nodup_appendNew wellFormed.conditionImmunities conditions }
  | standardSense sense distance =>
      cases applied
      exact wellFormed.setSense sense.word distance
  | blindsight distance blindBeyond =>
      cases applied
      exact { wellFormed.setSense "blindsight" distance with }
  | sense name distance =>
      cases applied
      exact wellFormed.setSense name distance
  | languages languages =>
      cases applied
      exact { wellFormed with languages := nodup_appendNew wellFormed.languages languages }
  | unspokenLanguages languages =>
      cases applied
      exact { wellFormed with
        unspokenLanguages := nodup_appendNew wellFormed.unspokenLanguages languages }
  | telepathy distance =>
      cases applied
      exact { wellFormed with telepathy := fun _ _ => Nat.zero_le _ }
  | challengeRating _ | challengeShortcut _ =>
      cases applied
      exact { wellFormed with pinnedRating := fun rating _ => rating.isTabled }
  | expectChallengeRating _ =>
      cases applied
      exact { wellFormed with expectedRating := fun rating _ => rating.isTabled }
  | weapon _ | attack _ | action _ =>
      cases applied
      exact wellFormed.withActions _
  | removeWeapon weapon => exact wellFormed.removeWeapon applied
  | overrideWeaponAttack weapon attack => exact wellFormed.changeWeapon applied
  | overrideWeaponEffect weapon effect => exact wellFormed.changeWeapon applied
  | expectWeapon expectation => exact wellFormed.expectWeapon applied
  | overrideDescription name description => exact wellFormed.overrideDescription applied
  | remove place name =>
      rw [Creature.apply_remove] at applied
      split at applied
      · rename_i changed removed
        cases applied
        exact wellFormed.remove? removed
      · cases applied
  | legendaryActions count actions description =>
      cases applied
      exact { wellFormed with legendaryActions := readable.1 }

end Creature

/-! ### Whole documents -/

namespace BuildContext

variable {context : BuildContext}

theorem applyAll_plain_apply {room : Nat} {chain : List String} {directive : Directive}
    {creature after : Creature} (plain : directive.isInclusion = false)
    (applied : context.applyAll room chain [directive] creature = .ok after) :
    creature.apply directive = .ok after :=
  applyAll_zero_single ((context.applyAll_plain plain 0 room chain chain creature).trans applied)

theorem exists_opened {room : Nat} {chain : List String} {directive : Directive}
    {creature after : Creature} (includes : directive.isInclusion = true)
    (applied : context.applyAll room chain [directive] creature = .ok after) :
    ∃ fewer reference arguments included, room = fewer + 1 ∧
      directive = .inclusion reference arguments ∧
      context.openInclude chain (fewer + 1) reference arguments = .ok included := by
  obtain ⟨reference, arguments, rfl⟩ := Directive.eq_inclusion includes
  cases opening : context.openInclude chain room reference arguments with
  | error error =>
      rw [applyAll_unopened opening] at applied
      cases applied
  | ok included =>
      cases room with
      | zero =>
          obtain ⟨error, unopened⟩ := context.openInclude_zero chain reference arguments
          cases unopened.symm.trans opening
      | succ fewer => exact ⟨fewer, reference, arguments, included, rfl, rfl, opening⟩

section Runs

variable {kept : Creature → Prop} {room : Nat} {chain : List String} {directives : List Directive}
  {creature after : Creature}

/-- What each validated directive keeps by itself, all directives of a document keep. -/
theorem keeps_of_each
    (each : ∀ {directive : Directive} {creature reached : Creature}, directive.IsValidated →
      kept creature → context.applyAll room chain [directive] creature = .ok reached →
        kept reached)
    (validated : ∀ directive ∈ directives, directive.IsValidated) (holds : kept creature)
    (applied : context.applyAll room chain directives creature = .ok after) : kept after := by
  induction directives generalizing creature with
  | nil =>
      rw [applyAll_nil] at applied
      cases applied
      exact holds
  | cons directive others ih =>
      rw [applyAll_cons] at applied
      obtain ⟨reached, first, applied⟩ := bind_eq_ok.mp applied
      obtain ⟨isValidated, othersValidated⟩ := List.forall_mem_cons.mp validated
      exact ih othersValidated (each isValidated holds first) applied

/-- A run: what one validated directive keeps, validated directives with those that they include
keep. -/
theorem applyAll_preserves
    (step : ∀ {directive : Directive} {creature reached : Creature}, directive.IsValidated →
      kept creature → creature.apply directive = .ok reached → kept reached)
    (validated : ∀ directive ∈ directives, directive.IsValidated) (holds : kept creature)
    (applied : context.applyAll room chain directives creature = .ok after) : kept after := by
  induction room using Nat.strong_induction_on generalizing chain directives creature after with
  | h room ih =>
      refine keeps_of_each ?_ validated holds applied
      intro directive creature reached isValidated holds first
      cases includes : directive.isInclusion with
      | false => exact step isValidated holds (applyAll_plain_apply includes first)
      | true =>
          obtain ⟨fewer, reference, arguments, included, rfl, rfl, opened⟩ :=
            exists_opened includes first
          rw [applyAll_opened opened] at first
          exact ih fewer (Nat.lt_succ_self fewer) (openInclude_validated opened) holds first

end Runs

theorem applyAll_wellFormed {room : Nat} {chain : List String} {directives : List Directive}
    {creature : Creature} (validated : ∀ directive ∈ directives, directive.IsValidated)
    (applied : context.applyAll room chain directives {} = .ok creature) : creature.WellFormed :=
  applyAll_preserves
    (fun isValidated wellFormed first => wellFormed.apply isValidated.readable first)
    validated Creature.wellFormed_fresh applied

theorem applyAll_wellFormed_included :
    let library := Library.ofTexts
      [("cat", some "[\x7b\"version\": 1\x7d, \x7b\"skills\": [\"stealth\", \"stealth\"]\x7d]")]
    let context : BuildContext := { library := some library }
    let directives : List Directive := [.inclusion "cat" [], .abilityScore .strength 16]
    let creature : Creature := { scores := { strength := 16 }, skills := [(.stealth, 1)] }
    (∀ directive ∈ directives, directive.IsValidated) ∧
      context.applyAll 1 [] directives {} = .ok creature ∧ creature.WellFormed := by
  intro library context directives creature
  have validInclusion : (Directive.inclusion "cat" []).IsValidated :=
    ⟨.object [("directive", .text "include"), ("reference", .text "cat")], rfl⟩
  have validScore : (Directive.abilityScore .strength 16).IsValidated :=
    ⟨.object [("directive", .text "str"), ("score", .int 16)], rfl⟩
  have validated : ∀ directive ∈ directives, directive.IsValidated :=
    List.forall_mem_cons.mpr ⟨validInclusion, List.forall_mem_singleton.mpr validScore⟩
  have applied : context.applyAll 1 [] directives {} = .ok creature :=
    eq_ok_of_toOption (by decide +kernel)
  exact ⟨validated, applied, applyAll_wellFormed validated applied⟩

end BuildContext

end Bestiary
