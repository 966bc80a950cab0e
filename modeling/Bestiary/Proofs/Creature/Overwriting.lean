import Bestiary.Proofs.Creature.Footprint
import Bestiary.Proofs.Creature.Invariant

/-!
What is set last counts.

Some directives set a thing as a whole, whatever it was before. Nothing that
comes between two of them for the same thing asks what the first one has set, so
the first one may as well be left out. Two creatures that differ in that thing
alone stay so under every other directive, and become the same under the second
one.
-/

namespace Bestiary

open Creature (Field)

/-- What some directive sets as a whole. -/
inductive Scalar
  | name
  | source
  | subject (form : SubjectForm)
  | pronouns
  | size
  | subtype
  | group
  | alignment
  | hitDie
  | hitDiceCount
  | hitPoints
  | armor
  | armorBonus
  | armorClass
  | shield
  | speedNotes
  | score (ability : Ability)
  | nonmagicalResistance
  | nonmagicalImmunity
  | telepathy
  | challengeRating
  | expectedChallengeRating
  | multiattack
  deriving DecidableEq, Repr

/-- The fields that a scalar is kept in; each score is a part of the same field. -/
def Scalar.fields : Scalar → List Field
  | name => [.name]
  | source => [.source]
  | subject form => [Directive.subjectField form]
  | pronouns => [.pronouns]
  | size => [.size]
  | subtype => [.subtype]
  | group => [.group]
  | alignment => [.alignment]
  | hitDie => [.hitDieOverride]
  | hitDiceCount => [.hitDiceCount]
  | hitPoints => [.hitPointsOverride]
  | armor => [.armor, .armorBonus, .armorDescription]
  | armorBonus => [.extraArmorBonus]
  | armorClass => [.armorClassOverride, .armorClassDescription]
  | shield => [.shield]
  | speedNotes => [.speedNotes]
  | score _ => [.scores]
  | nonmagicalResistance => [.nonmagicalResistance]
  | nonmagicalImmunity => [.nonmagicalImmunity]
  | telepathy => [.telepathy]
  | challengeRating => [.challengeRatingOverride]
  | expectedChallengeRating => [.expectedChallengeRating]
  | multiattack => [.multiattackDescription]

def unsetFields : List Field :=
  [.creatureType, .customType, .speeds, .hover, .saves, .skills, .vulnerabilities, .resistances,
    .immunities, .customVulnerabilities, .customResistances, .customImmunities,
    .conditionImmunities, .senses, .blindBeyond, .languages, .unspokenLanguages,
    .weaponExpectations, .actions, .features, .reactions, .legendaryActionCount,
    .legendaryDescription, .legendaryActions, .spellcasting, .innateSpellcasting]

theorem Scalar.not_mem_unsetFields {scalar : Scalar} {field : Field}
    (member : field ∈ scalar.fields) : field ∉ unsetFields := by
  have apart : ∀ field ∈ scalar.fields, field ∉ unsetFields := by
    cases scalar with
    | score ability => exact List.forall_mem_singleton.mpr (by decide)
    | subject form => cases form <;> decide
    | _ => decide
  exact apart field member

theorem Scalar.eq_score {scalar : Scalar} (member : .scores ∈ scalar.fields) :
    ∃ ability, scalar = .score ability := by
  cases scalar with
  | score ability => exact ⟨ability, rfl⟩
  | subject form => cases form <;> exact absurd member (by decide)
  | _ => exact absurd member (by decide)

def Directive.scalar? : Directive → Option Scalar
  | name _ => some .name
  | source _ => some .source
  | subject form _ => some (.subject form)
  | pronouns _ => some .pronouns
  | size _ | sizeShortcut _ => some .size
  | subtype _ => some .subtype
  | group _ => some .group
  | alignment _ | customAlignment _ => some .alignment
  | hitDie _ => some .hitDie
  | hitDiceCount _ => some .hitDiceCount
  | hitPoints _ => some .hitPoints
  | armor _ _ _ => some .armor
  | armorBonus _ => some .armorBonus
  | armorClass _ _ => some .armorClass
  | shield _ => some .shield
  | speedNotes _ => some .speedNotes
  | abilityScore ability _ => some (.score ability)
  | nonmagicalResistance _ => some .nonmagicalResistance
  | nonmagicalImmunity _ => some .nonmagicalImmunity
  | telepathy _ => some .telepathy
  | challengeRating _ | challengeShortcut _ => some .challengeRating
  | expectChallengeRating _ => some .expectedChallengeRating
  | multiattack _ => some .multiattack
  | overrideDescription given _ =>
      if Text.foldCase given = "multiattack" then some .multiattack else none
  | _ => none

namespace Directive

variable {directive : Directive} {scalar : Scalar} {field : Field}

theorem scalar?_description {name description : String}
    (sets : (overrideDescription name description).scalar? = some scalar) :
    Text.foldCase name = "multiattack" ∧ scalar = .multiattack := by
  rw [scalar?] at sets
  split at sets
  · next named =>
      cases sets
      exact ⟨named, rfl⟩
  · cases sets

theorem isInclusion_scalar (sets : directive.scalar? = some scalar) :
    directive.isInclusion = false := by
  cases directive with
  | inclusion reference arguments => cases sets
  | _ => rfl

theorem footprint_eq (sets : directive.scalar? = some scalar) :
    directive.footprint = scalar.fields := by
  cases directive with
  | overrideDescription name description =>
      obtain ⟨named, rfl⟩ := scalar?_description sets
      rw [footprint, descriptionField, if_pos (beq_iff_eq.mpr named)]
      rfl
  | _ => cases sets <;> rfl

theorem scalar?_score {ability : Ability} (sets : directive.scalar? = some (.score ability)) :
    ∃ score, directive = .abilityScore ability score := by
  cases directive with
  | abilityScore other score =>
      cases sets
      exact ⟨score, rfl⟩
  | overrideDescription name description =>
      obtain ⟨_, impossible⟩ := scalar?_description sets
      cases impossible
  | _ => cases sets

theorem footprint_unset (unset : directive.scalar? = none) :
    ∀ field ∈ directive.footprint, field ∈ unsetFields := by
  cases directive with
  | saves items | removeSaves items | skills _ items | conditionImmunity items | languages items
  | unspokenLanguages items =>
      intro field member
      obtain ⟨_, rfl⟩ := mem_fieldIfAny.mp member
      decide
  | damageTypes relation types =>
      intro field member
      obtain ⟨_, rfl⟩ := mem_fieldIfAny.mp member
      cases relation <;> decide
  | customDamage relation text =>
      refine List.forall_mem_singleton.mpr ?_
      cases relation <;> decide
  | legendaryActions count actions description =>
      refine List.forall_mem_cons.mpr ⟨by decide, List.forall_mem_append.mpr ⟨?_, ?_⟩⟩ <;>
        intro field member <;> obtain ⟨_, rfl⟩ := mem_fieldIfAny.mp member <;> decide
  | overrideDescription given description =>
      have named : ¬(Text.foldCase given == "multiattack") = true := by
        intro named
        rw [scalar?, if_pos (beq_iff_eq.mp named)] at unset
        cases unset
      refine List.forall_mem_singleton.mpr ?_
      rw [descriptionField, if_neg named]
      decide
  | remove place given =>
      cases place with
      | features =>
          change ∀ field ∈ featureFields given, field ∈ unsetFields
          unfold featureFields
          split
          · decide
          · split <;> decide
      | _ => exact List.forall_mem_singleton.mpr (by decide)
  | _ => first | (simp [footprint, unsetFields]; done) | cases unset

theorem not_mem_fields (unset : directive.scalar? = none) (member : field ∈ directive.footprint) :
    field ∉ scalar.fields :=
  fun kept => Scalar.not_mem_unsetFields kept (footprint_unset unset field member)

theorem eq_abilityScore (member : .scores ∈ directive.footprint) :
    ∃ ability score, directive = .abilityScore ability score := by
  cases sets : directive.scalar? with
  | none =>
      have kept : .scores ∈ (Scalar.score .strength).fields := .head _
      exact absurd kept (not_mem_fields sets member)
  | some scalar =>
      rw [footprint_eq sets] at member
      obtain ⟨ability, rfl⟩ := Scalar.eq_score member
      exact ⟨ability, scalar?_score sets⟩

end Directive

namespace Creature

variable {first second after after' creature : Creature} {directive : Directive} {scalar : Scalar}
  {field : Field}

/-! ### What is set as a whole -/

theorem exists_set (sets : directive.scalar? = some scalar) (creature : Creature) :
    ∃ after, creature.apply directive = .ok after := by
  cases directive with
  | overrideDescription name description =>
      obtain ⟨named, _⟩ := Directive.scalar?_description sets
      exact ⟨_, (overrideDescription_eq _ _ _).trans (if_pos (beq_iff_eq.mpr named))⟩
  | _ => cases sets <;> exact ⟨_, rfl⟩

/-- What a directive sets does not depend on the creature, but for the other scores. -/
theorem content_set (sets : directive.scalar? = some scalar)
    (applied : first.apply directive = .ok after) (applied' : second.apply directive = .ok after')
    (member : field ∈ scalar.fields) (notScores : field ≠ .scores) :
    after.content field = after'.content field := by
  cases directive with
  | abilityScore ability score =>
      cases sets
      exact absurd (List.mem_singleton.mp member) notScores
  | overrideDescription name description =>
      obtain ⟨named, rfl⟩ := Directive.scalar?_description sets
      change first.overrideDescription name description = _ at applied
      change second.overrideDescription name description = _ at applied'
      rw [overrideDescription_eq, if_pos (beq_iff_eq.mpr named)] at applied applied'
      cases applied
      cases applied'
      obtain rfl := List.mem_singleton.mp member
      rfl
  | subject form name =>
      cases sets
      cases applied
      cases applied'
      obtain rfl := List.mem_singleton.mp member
      cases form <;> rfl
  | armor kind bonus description =>
      cases sets
      cases applied
      cases applied'
      rcases List.mem_cons.mp member with rfl | member
      · rfl
      · rcases List.mem_cons.mp member with rfl | member
        · rfl
        · obtain rfl := List.mem_singleton.mp member
          rfl
  | armorClass value description =>
      cases sets
      cases applied
      cases applied'
      rcases List.mem_cons.mp member with rfl | member
      · rfl
      · obtain rfl := List.mem_singleton.mp member
        rfl
  | _ =>
      cases sets <;> cases applied <;> cases applied' <;>
        obtain rfl := List.mem_singleton.mp member <;> rfl

theorem scores_ext {scores scores' : Scores}
    (same : ∀ ability, scores.get ability = scores'.get ability) : scores = scores' := by
  cases scores
  cases scores'
  rw [Scores.mk.injEq]
  exact ⟨same .strength, same .dexterity, same .constitution, same .intelligence, same .wisdom,
    same .charisma⟩

theorem get_set (ability other : Ability) (score : Int) (scores : Scores) :
    (scores.set ability score).get other = if other = ability then score else scores.get other := by
  cases ability <;> cases other <;> rfl

theorem score_apply {ability : Ability}
    (same : first.score ability = second.score ability ∨
      directive.scalar? = some (.score ability))
    (applied : first.apply directive = .ok after)
    (applied' : second.apply directive = .ok after') :
    after.score ability = after'.score ability := by
  by_cases member : .scores ∈ directive.footprint
  · obtain ⟨set, score, rfl⟩ := Directive.eq_abilityScore member
    cases applied
    cases applied'
    simp only [Creature.score, get_set]
    split
    · rfl
    · next other =>
        rcases same with same | sets
        · exact same
        · cases sets
          exact absurd rfl other
  · have kept : after.scores = first.scores := apply_frame member applied
    have kept' : after'.scores = second.scores := apply_frame member applied'
    rcases same with same | sets
    · rw [Creature.score, Creature.score, kept, kept']
      exact same
    · obtain ⟨score, rfl⟩ := Directive.scalar?_score sets
      exact absurd (.head _) member

theorem scores_apply
    (same : ∀ ability, first.score ability = second.score ability ∨
      directive.scalar? = some (.score ability))
    (applied : first.apply directive = .ok after)
    (applied' : second.apply directive = .ok after') : after.scores = after'.scores :=
  scores_ext fun ability => score_apply (same ability) applied applied'

/-! ### Creatures that differ in a scalar -/

/-- What applies to the first of two related creatures applies to the second, and leaves them
related. -/
def IsSimulation (related : Creature → Creature → Prop) : Prop :=
  ∀ (directive : Directive) (first second after : Creature), related first second →
    first.apply directive = .ok after →
      ∃ after', second.apply directive = .ok after' ∧ related after after'

structure AlikeBut (scalar : Scalar) (first second : Creature) : Prop where
  fields : AgreeOff scalar.fields first second
  scores : ∀ ability, scalar ≠ .score ability → first.score ability = second.score ability

namespace AlikeBut

theorem of_apply (sets : directive.scalar? = some scalar)
    (applied : creature.apply directive = .ok after) : AlikeBut scalar after creature where
  fields := by
    intro field outside
    refine apply_frame ?_ applied
    rw [Directive.footprint_eq sets]
    exact outside
  scores := by
    intro ability other
    by_cases member : .scores ∈ directive.footprint
    · obtain ⟨set, score, rfl⟩ := Directive.eq_abilityScore member
      cases sets
      cases applied
      have apart : ability ≠ set := fun same => other (same ▸ rfl)
      rw [Creature.score, Creature.score, get_set, if_neg apart]
    · have kept : after.scores = creature.scores := apply_frame member applied
      rw [Creature.score, Creature.score, kept]

theorem apply_eq (alike : AlikeBut scalar first second) (sets : directive.scalar? = some scalar)
    (applied : first.apply directive = .ok after)
    (applied' : second.apply directive = .ok after') : after = after' := by
  refine ext_content fun field => ?_
  by_cases member : field ∈ scalar.fields
  · by_cases isScores : field = .scores
    · subst isScores
      refine scores_apply (fun ability => ?_) applied applied'
      by_cases own : scalar = .score ability
      · exact .inr (own ▸ sets)
      · exact .inl (alike.scores ability own)
    · exact content_set sets applied applied' member isScores
  · have kept : field ∉ directive.footprint := by
      rw [Directive.footprint_eq sets]
      exact member
    rw [apply_frame kept applied, apply_frame kept applied']
    exact alike.fields field member

theorem agreeOn (alike : AlikeBut scalar first second) (unset : directive.scalar? = none) :
    AgreeOn (· ∈ directive.footprint) (first.apply directive) (second.apply directive) :=
  apply_local fun field member => alike.fields field (Directive.not_mem_fields unset member)

/-- No directive asks for a scalar: what it is applied to may differ in one. -/
theorem exists_apply (alike : AlikeBut scalar first second)
    (applied : first.apply directive = .ok after) :
    ∃ after', second.apply directive = .ok after' := by
  cases sets : directive.scalar? with
  | some set => exact exists_set sets second
  | none =>
      have agree := alike.agreeOn sets
      rw [applied] at agree
      cases outcome : second.apply directive with
      | ok after' => exact ⟨after', rfl⟩
      | error fault =>
          rw [outcome] at agree
          cases agree

theorem isSimulation (scalar : Scalar) : IsSimulation (AlikeBut scalar) := by
  intro directive first second after alike applied
  obtain ⟨after', applied'⟩ := alike.exists_apply applied
  refine ⟨after', applied', fun field outside => ?_, fun ability other => ?_⟩
  · by_cases member : field ∈ directive.footprint
    · cases sets : directive.scalar? with
      | none =>
          have agree := alike.agreeOn sets
          rw [applied, applied'] at agree
          exact agree field member
      | some set =>
          rw [Directive.footprint_eq sets] at member
          by_cases isScores : field = .scores
          · subst isScores
            refine scores_apply (fun ability => .inl (alike.scores ability ?_)) applied applied'
            rintro rfl
            exact outside (.head _)
          · exact content_set sets applied applied' member isScores
    · rw [apply_frame member applied, apply_frame member applied']
      exact alike.fields field outside
  · exact score_apply (.inl (alike.scores ability other)) applied applied'

end AlikeBut

end Creature

/-! ### Whole documents -/

namespace BuildContext

open Creature (AlikeBut IsSimulation)

variable {context : BuildContext} {room : Nat} {chain : List String} {directive : Directive}
  {directives : List Directive} {related : Creature → Creature → Prop}
  {first second after : Creature}

theorem simulation_plain (simulation : IsSimulation related)
    (plain : directive.isInclusion = false) (start : related first second)
    (applied : context.applyAll room chain [directive] first = .ok after) :
    ∃ after', context.applyAll room chain [directive] second = .ok after' ∧
      related after after' := by
  obtain ⟨_, single⟩ := context.applyAll_single room chain directive first
  obtain ⟨_, single'⟩ := context.applyAll_single room chain directive second
  rw [single] at applied
  rw [single']
  cases versions : directive.isVersion with
  | true =>
      obtain ⟨minimum, maximum, rfl⟩ := Directive.eq_version versions
      simp only [applyStep] at applied ⊢
      split at applied
      · next supported =>
          cases applied
          exact ⟨second, if_pos supported, start⟩
      · cases applied
  | false =>
      rw [applyStep_acting plain versions] at applied
      obtain ⟨after', applied', reached⟩ :=
        simulation directive first second _ start (mapError_eq_ok.mp applied)
      rw [applyStep_acting plain versions]
      exact ⟨after', mapError_eq_ok.mpr applied', reached⟩

theorem simulation_of_each
    (each : ∀ {directive : Directive} {first second after : Creature}, related first second →
      context.applyAll room chain [directive] first = .ok after →
        ∃ after', context.applyAll room chain [directive] second = .ok after' ∧
          related after after')
    (start : related first second)
    (applied : context.applyAll room chain directives first = .ok after) :
    ∃ after', context.applyAll room chain directives second = .ok after' ∧
      related after after' := by
  induction directives generalizing first second with
  | nil =>
      rw [applyAll_nil] at applied
      cases applied
      exact ⟨second, applyAll_nil room chain second, start⟩
  | cons directive others ih =>
      rw [applyAll_cons] at applied
      obtain ⟨reached, head, applied⟩ := bind_eq_ok.mp applied
      obtain ⟨reached', head', next⟩ := each start head
      obtain ⟨after', tail', last⟩ := ih next applied
      refine ⟨after', ?_, last⟩
      rw [applyAll_cons]
      exact bind_eq_ok.mpr ⟨reached', head', tail'⟩

/-- A run: what one directive preserves of two creatures, directives with those that they include
preserve. -/
theorem applyAll_simulation (simulation : IsSimulation related) (start : related first second)
    (applied : context.applyAll room chain directives first = .ok after) :
    ∃ after', context.applyAll room chain directives second = .ok after' ∧
      related after after' := by
  induction room using Nat.strong_induction_on generalizing chain directives first second
    after with
  | h room ih =>
      refine simulation_of_each ?_ start applied
      intro directive first second after start applied
      cases includes : directive.isInclusion with
      | false => exact simulation_plain simulation includes start applied
      | true =>
          obtain ⟨fewer, reference, arguments, included, rfl, rfl, opened⟩ :=
            exists_opened includes applied
          rw [applyAll_opened opened] at applied ⊢
          exact ih fewer (Nat.lt_succ_self fewer) start applied

/-- The last write counts: what sets a scalar may be left out of directives that apply without error
if a later one of them sets the same scalar. -/
theorem applyAll_last_write (context : BuildContext) (room : Nat) (chain : List String)
    (before between behind : List Directive) (early late : Directive) (scalar : Scalar)
    (creature after : Creature) (earlySets : early.scalar? = some scalar)
    (lateSets : late.scalar? = some scalar)
    (applied : context.applyAll room chain (before ++ early :: (between ++ late :: behind))
      creature = .ok after) :
    context.applyAll room chain (before ++ (between ++ late :: behind)) creature = .ok after := by
  rw [applyAll_append] at applied ⊢
  obtain ⟨reached, first, applied⟩ := bind_eq_ok.mp applied
  rw [applyAll_cons] at applied
  obtain ⟨written, early', applied⟩ := bind_eq_ok.mp applied
  rw [applyAll_append] at applied
  obtain ⟨passed, among, applied⟩ := bind_eq_ok.mp applied
  rw [applyAll_cons] at applied
  obtain ⟨rewritten, late', rest⟩ := bind_eq_ok.mp applied
  have unlike : AlikeBut scalar written reached :=
    .of_apply earlySets (applyAll_plain_apply (Directive.isInclusion_scalar earlySets) early')
  obtain ⟨passed', among', alike⟩ := applyAll_simulation (AlikeBut.isSimulation scalar) unlike among
  obtain ⟨rewritten', late'', _⟩ := applyAll_simulation (AlikeBut.isSimulation scalar) alike late'
  have plain := Directive.isInclusion_scalar lateSets
  have same : rewritten = rewritten' :=
    alike.apply_eq lateSets (applyAll_plain_apply plain late') (applyAll_plain_apply plain late'')
  refine bind_eq_ok.mpr ⟨reached, first, ?_⟩
  rw [applyAll_append]
  refine bind_eq_ok.mpr ⟨passed', among', ?_⟩
  rw [applyAll_cons]
  exact bind_eq_ok.mpr ⟨rewritten', late'', same ▸ rest⟩

theorem applyAll_last_write_multiattack :
    let early := Directive.multiattack "The rat bites."
    let late := Directive.overrideDescription "MULTIATTACK" "The rat bites twice."
    let before : List Directive := [.name "Rat"]
    let between : List Directive := [.weapon ⟨.club, 0, 0, []⟩, .abilityScore .dexterity 14]
    let behind : List Directive := [.shield true]
    ∃ after, early.scalar? = some .multiattack ∧ late.scalar? = some .multiattack ∧
      ({} : BuildContext).applyAll 0 [] (before ++ early :: (between ++ late :: behind)) {} =
        .ok after ∧
      ({} : BuildContext).applyAll 0 [] (before ++ (between ++ late :: behind)) {} = .ok after := by
  intro early late before between behind
  have lateSets : late.scalar? = some .multiattack := by decide +kernel
  have applies : (({} : BuildContext).applyAll 0 []
      (before ++ early :: (between ++ late :: behind)) {}).toOption.isSome = true := by
    decide +kernel
  obtain ⟨after, applied⟩ := exists_ok_of_toOption applies
  exact ⟨after, rfl, lateSets, applied,
    applyAll_last_write {} 0 [] before between behind early late .multiattack {} after rfl lateSets
      applied⟩

end BuildContext

end Bestiary
