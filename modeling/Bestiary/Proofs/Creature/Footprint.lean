import Bestiary.Proofs.Creature.Change
import Bestiary.Proofs.Creature.Field

/-!
Footprints: the fields of a creature that a directive concerns.

A directive changes no field outside its footprint, and what it does to the
fields inside depends on these fields alone. The name that a fault quotes is
added where directives are applied, and is no part of a footprint.
-/

namespace Bestiary

open Creature (Field)

namespace Directive

def fieldIfAny {α : Type} (items : List α) (field : Field) : List Field :=
  if items.isEmpty then [] else [field]

def subjectField : SubjectForm → Field
  | .subject => .subjectName
  | .capitalizedSubject => .capitalizedSubjectName
  | .possessive => .possessiveName
  | .capitalizedPossessive => .capitalizedPossessiveName

def damageField : DamageRelation → Field
  | .vulnerability => .vulnerabilities
  | .resistance => .resistances
  | .immunity => .immunities

def customDamageField : DamageRelation → Field
  | .vulnerability => .customVulnerabilities
  | .resistance => .customResistances
  | .immunity => .customImmunities

/-- The multiattack is no action of its own and is known by its name. -/
def descriptionField (name : String) : Field :=
  if Text.foldCase name == "multiattack" then .multiattackDescription else .actions

/-- A spellcasting trait is looked for by its printed name before the features are. -/
def featureFields (name : String) : List Field :=
  if Text.foldCase name == "spellcasting" then [.spellcasting, .features]
  else if Text.foldCase name == "innate spellcasting" then [.innateSpellcasting, .features]
  else [.features]

theorem featureFields_spellcasting {name : String}
    (trait : Text.foldCase name = "spellcasting") :
    featureFields name = [.spellcasting, .features] := by
  rw [featureFields, if_pos (beq_iff_eq.mpr trait)]

theorem featureFields_innate {name : String}
    (trait : Text.foldCase name = "innate spellcasting") :
    featureFields name = [.innateSpellcasting, .features] := by
  rw [featureFields, trait]
  rfl

theorem featureFields_listed {name : String} (notCasting : Text.foldCase name ≠ "spellcasting")
    (notInnate : Text.foldCase name ≠ "innate spellcasting") :
    featureFields name = [.features] := by
  rw [featureFields, if_neg (mt beq_iff_eq.mp notCasting),
    if_neg (mt beq_iff_eq.mp notInnate)]

def sectionFields (place : Section) (name : String) : List Field :=
  match place with
  | .actions => [.actions]
  | .features => featureFields name
  | .reactions => [.reactions]
  | .legendaryActions => [.legendaryActions]

/-- The fields of a creature that a directive reads or writes. -/
def footprint : Directive → List Field
  | version _ _ => []
  | inclusion _ _ => []
  | name _ => [.name]
  | source _ => [.source]
  | subject form _ => [subjectField form]
  | pronouns _ => [.pronouns]
  | size _ => [.size]
  | sizeShortcut _ => [.size]
  | creatureType _ => [.creatureType, .customType]
  | customType _ => [.customType]
  | subtype _ => [.subtype]
  | group _ => [.group]
  | alignment _ => [.alignment]
  | customAlignment _ => [.alignment]
  | hitDie _ => [.hitDieOverride]
  | hitDiceCount _ => [.hitDiceCount]
  | hitPoints _ => [.hitPointsOverride]
  | armor _ _ _ => [.armor, .armorBonus, .armorDescription]
  | armorBonus _ => [.extraArmorBonus]
  | armorClass _ _ => [.armorClassOverride, .armorClassDescription]
  | shield _ => [.shield]
  | movement _ _ => [.speeds]
  | hover => [.hover]
  | speed _ _ => [.speeds]
  | speedNotes _ => [.speedNotes]
  | abilityScore _ _ => [.scores]
  | saves abilities => fieldIfAny abilities .saves
  | removeSaves abilities => fieldIfAny abilities .saves
  | skills _ changed => fieldIfAny changed .skills
  | damageTypes relation types => fieldIfAny types (damageField relation)
  | nonmagicalResistance _ => [.nonmagicalResistance]
  | nonmagicalImmunity _ => [.nonmagicalImmunity]
  | customDamage relation _ => [customDamageField relation]
  | conditionImmunity conditions => fieldIfAny conditions .conditionImmunities
  | standardSense _ _ => [.senses]
  | blindsight _ _ => [.senses, .blindBeyond]
  | sense _ _ => [.senses]
  | languages given => fieldIfAny given .languages
  | unspokenLanguages given => fieldIfAny given .unspokenLanguages
  | telepathy _ => [.telepathy]
  | challengeRating _ => [.challengeRatingOverride]
  | expectChallengeRating _ => [.expectedChallengeRating]
  | challengeShortcut _ => [.challengeRatingOverride]
  | weapon _ => [.actions]
  | attack _ => [.actions]
  | removeWeapon _ => [.actions]
  | overrideWeaponAttack _ _ => [.actions]
  | overrideWeaponEffect _ _ => [.actions]
  | expectWeapon _ => [.actions, .weaponExpectations]
  | action _ => [.actions]
  | overrideDescription given _ => [descriptionField given]
  | remove place given => sectionFields place given
  | multiattack _ => [.multiattackDescription]
  | feature _ => [.features]
  | reaction _ => [.reactions]
  | legendaryActions _ actions description =>
      .legendaryActionCount :: fieldIfAny actions .legendaryActions ++
        fieldIfAny description.toList .legendaryDescription
  | spellcasting _ => [.spellcasting]
  | innateSpellcasting _ => [.innateSpellcasting]

theorem mem_fieldIfAny {α : Type} {items : List α} {field other : Field} :
    other ∈ fieldIfAny items field ↔ items ≠ [] ∧ other = field := by
  cases items with
  | nil =>
      constructor
      · intro impossible
        cases impossible
      · rintro ⟨nonempty, _⟩
        exact absurd rfl nonempty
  | cons item others =>
      constructor
      · intro member
        exact ⟨List.cons_ne_nil item others, List.mem_singleton.mp member⟩
      · rintro ⟨_, same⟩
        exact List.mem_singleton.mpr same

end Directive

namespace Creature

variable {creature creature' after : Creature} {field : Field}

/-! ### What a directive leaves as it is -/

theorem content_withActions (actions : List Action) (outside : field ≠ .actions) :
    { creature with actions := actions }.content field = creature.content field := by
  cases field <;> first | rfl | exact absurd rfl outside

theorem changeWeapon_frame {tag : String} {weapon : Weapon} {change : Action → Action}
    (outside : field ≠ .actions) (applied : creature.changeWeapon tag weapon change = .ok after) :
    after.content field = creature.content field := by
  rw [changeWeapon_eq] at applied
  split at applied
  · cases applied
    exact content_withActions _ outside
  · cases applied

theorem removeWeapon_frame {weapon : Weapon} (outside : field ≠ .actions)
    (applied : creature.removeWeapon weapon = .ok after) :
    after.content field = creature.content field := by
  rw [removeWeapon_eq] at applied
  split at applied
  · cases applied
    exact content_withActions _ outside
  · cases applied

theorem expectWeapon_frame {expectation : WeaponExpectation}
    (outside : field ≠ .weaponExpectations)
    (applied : creature.expectWeapon expectation = .ok after) :
    after.content field = creature.content field := by
  rw [expectWeapon_eq] at applied
  split at applied
  · cases applied
    cases field <;> first | rfl | exact absurd rfl outside
  · cases applied

theorem overrideDescription_frame {name description : String}
    (outside : field ≠ Directive.descriptionField name)
    (applied : creature.overrideDescription name description = .ok after) :
    after.content field = creature.content field := by
  rw [overrideDescription_eq] at applied
  unfold Directive.descriptionField at outside
  split at applied
  · rename_i multiattack
    rw [if_pos multiattack] at outside
    cases applied
    cases field <;> first | rfl | exact absurd rfl outside
  · rename_i named
    rw [if_neg named] at outside
    split at applied
    · cases applied
      exact content_withActions _ outside
    · cases applied

/-! The features are searched last, and only they are when the name is not that of a trait. -/

theorem removeFeature?_spellcasting {name : String}
    (trait : Text.foldCase name = "spellcasting") :
    creature.removeFeature? name =
      if creature.spellcasting.isSome then some { creature with spellcasting := none }
      else creature.removeListed? name := by
  have apart : ("spellcasting" == "innate spellcasting") = false := by decide
  simp only [removeFeature?_eq, trait, beq_self_eq_true, apart, Bool.true_and, Bool.false_and,
    if_neg Bool.false_ne_true]

theorem removeFeature?_innate {name : String}
    (trait : Text.foldCase name = "innate spellcasting") :
    creature.removeFeature? name =
      if creature.innateSpellcasting.isSome then
        some { creature with innateSpellcasting := none }
      else creature.removeListed? name := by
  have apart : ("innate spellcasting" == "spellcasting") = false := by decide
  simp only [removeFeature?_eq, trait, beq_self_eq_true, apart, Bool.true_and, Bool.false_and,
    if_neg Bool.false_ne_true]

theorem removeFeature?_listed {name : String} (notCasting : Text.foldCase name ≠ "spellcasting")
    (notInnate : Text.foldCase name ≠ "innate spellcasting") :
    creature.removeFeature? name = creature.removeListed? name := by
  simp only [removeFeature?_eq, beq_false_of_ne notCasting, beq_false_of_ne notInnate,
    Bool.false_and, if_neg Bool.false_ne_true]

theorem removeListed?_frame {name : String} (outside : field ≠ .features)
    (removed : creature.removeListed? name = some after) :
    after.content field = creature.content field := by
  obtain ⟨features, _, rfl⟩ := Option.map_eq_some_iff.mp removed
  cases field <;> first | rfl | exact absurd rfl outside

theorem removeFeature?_frame {name : String} (outside : field ∉ Directive.featureFields name)
    (removed : creature.removeFeature? name = some after) :
    after.content field = creature.content field := by
  by_cases casting : Text.foldCase name = "spellcasting"
  · rw [Directive.featureFields_spellcasting casting] at outside
    rw [removeFeature?_spellcasting casting] at removed
    split at removed
    · cases removed
      cases field <;> first | rfl | exact absurd (.head _) outside
    · exact removeListed?_frame (fun same => outside (same ▸ .tail _ (.head _))) removed
  · by_cases innate : Text.foldCase name = "innate spellcasting"
    · rw [Directive.featureFields_innate innate] at outside
      rw [removeFeature?_innate innate] at removed
      split at removed
      · cases removed
        cases field <;> first | rfl | exact absurd (.head _) outside
      · exact removeListed?_frame (fun same => outside (same ▸ .tail _ (.head _))) removed
    · rw [Directive.featureFields_listed casting innate] at outside
      rw [removeFeature?_listed casting innate] at removed
      exact removeListed?_frame (fun same => outside (same ▸ .head _)) removed

theorem remove?_frame {place : Section} {name : String}
    (outside : field ∉ Directive.sectionFields place name)
    (removed : creature.remove? place name = some after) :
    after.content field = creature.content field := by
  rw [remove?_eq] at removed
  cases place with
  | features => exact removeFeature?_frame outside removed
  | actions =>
      obtain ⟨actions, _, rfl⟩ := Option.map_eq_some_iff.mp removed
      exact content_withActions _ (fun same => outside (same ▸ .head _))
  | reactions =>
      obtain ⟨reactions, _, rfl⟩ := Option.map_eq_some_iff.mp removed
      cases field <;> first | rfl | exact absurd (.head _) outside
  | legendaryActions =>
      obtain ⟨actions, _, rfl⟩ := Option.map_eq_some_iff.mp removed
      cases field <;> first | rfl | exact absurd (.head _) outside

/-- A directive leaves every field outside its footprint as it is. -/
theorem apply_frame {directive : Directive} (outside : field ∉ directive.footprint)
    (applied : creature.apply directive = .ok after) :
    after.content field = creature.content field := by
  cases directive with
  | removeWeapon weapon =>
      exact removeWeapon_frame (fun same => outside (same ▸ .head _)) applied
  | overrideWeaponAttack weapon attack =>
      exact changeWeapon_frame (fun same => outside (same ▸ .head _)) applied
  | overrideWeaponEffect weapon effect =>
      exact changeWeapon_frame (fun same => outside (same ▸ .head _)) applied
  | expectWeapon expectation =>
      exact expectWeapon_frame (fun same => outside (same ▸ .tail _ (.head _))) applied
  | overrideDescription name description =>
      exact overrideDescription_frame (fun same => outside (same ▸ .head _)) applied
  | remove place name =>
      rw [apply_remove] at applied
      split at applied
      · rename_i changed removed
        cases applied
        exact remove?_frame outside removed
      · cases applied
  | subject form name =>
      cases applied
      cases form <;> cases field <;> first | rfl | exact absurd (.head _) outside
  | customDamage relation text =>
      cases applied
      cases relation <;> cases field <;> first | rfl | exact absurd (.head _) outside
  | damageTypes relation types =>
      cases applied
      cases types with
      | nil => cases relation <;> rfl
      | cons type others =>
          cases relation <;> cases field <;> first | rfl | exact absurd (.head _) outside
  | saves items | skills _ items | conditionImmunity items | languages items
  | unspokenLanguages items =>
      cases applied
      cases items with
      | nil => rfl
      | cons item others => cases field <;> first | rfl | exact absurd (.head _) outside
  | removeSaves abilities =>
      cases applied
      cases abilities with
      | nil =>
          have all : creature.saves.filter (fun _ => true) = creature.saves :=
            List.filter_eq_self.mpr fun _ _ => rfl
          cases field <;> first | rfl | exact all
      | cons ability others => cases field <;> first | rfl | exact absurd (.head _) outside
  | legendaryActions count actions description =>
      cases applied
      have notCount : field ≠ .legendaryActionCount := fun same => outside (same ▸ .head _)
      have notActions : field = .legendaryActions → actions = [] := by
        rintro rfl
        refine Classical.byContradiction fun nonempty => outside (.tail _ ?_)
        exact List.mem_append_left _ (Directive.mem_fieldIfAny.mpr ⟨nonempty, rfl⟩)
      have notDescription : field = .legendaryDescription → description = none := by
        rintro rfl
        refine Classical.byContradiction fun given => outside (.tail _ ?_)
        refine List.mem_append_right _ (Directive.mem_fieldIfAny.mpr ⟨?_, rfl⟩)
        exact mt Option.toList_eq_nil_iff.mp given
      cases field with
      | legendaryActionCount => exact absurd rfl notCount
      | legendaryActions => rw [notActions rfl]; exact List.append_nil _
      | legendaryDescription => rw [notDescription rfl]; rfl
      | _ => rfl
  | _ =>
      cases applied
      cases field <;>
        first
          | rfl
          | exact absurd (.head _) outside
          | exact absurd (.tail _ (.head _)) outside
          | exact absurd (.tail _ (.tail _ (.head _))) outside

/-! ### What a directive depends on -/

/-- Whether two outcomes agree: both are faults, or both are creatures that have some fields in
common. -/
def AgreeOn (fields : Field → Prop) (first second : Except ApplicationFault Creature) : Prop :=
  match first, second with
  | .ok reached, .ok reached' =>
      ∀ field, fields field → reached.content field = reached'.content field
  | .error _, .error _ => True
  | _, _ => False

theorem changeWeapon_local {tag : String} {weapon : Weapon} {change : Action → Action}
    (same : creature.actions = creature'.actions) :
    AgreeOn (· ∈ [.actions]) (creature.changeWeapon tag weapon change)
      (creature'.changeWeapon tag weapon change) := by
  rw [changeWeapon_eq, changeWeapon_eq]
  rw [same]
  cases changeFirst? (usesWeapon weapon) change creature'.actions with
  | none => trivial
  | some actions => exact List.forall_mem_singleton.mpr rfl

theorem removeWeapon_local {weapon : Weapon} (same : creature.actions = creature'.actions) :
    AgreeOn (· ∈ [.actions]) (creature.removeWeapon weapon) (creature'.removeWeapon weapon) := by
  rw [removeWeapon_eq, removeWeapon_eq]
  rw [same]
  cases removeFirst? (usesWeapon weapon) creature'.actions with
  | none => trivial
  | some actions => exact List.forall_mem_singleton.mpr rfl

theorem expectWeapon_local {expectation : WeaponExpectation}
    (same : creature.actions = creature'.actions)
    (sameExpectations : creature.weaponExpectations = creature'.weaponExpectations) :
    AgreeOn (· ∈ [.actions, .weaponExpectations]) (creature.expectWeapon expectation)
      (creature'.expectWeapon expectation) := by
  rw [expectWeapon_eq, expectWeapon_eq]
  rw [same]
  cases creature'.actions.any (usesWeapon expectation.weapon) with
  | false => trivial
  | true =>
      refine List.forall_mem_cons.mpr ⟨rfl, List.forall_mem_singleton.mpr ?_⟩
      exact congrArg (· ++ [expectation]) sameExpectations

theorem overrideDescription_local {name description : String}
    (same : creature.content (Directive.descriptionField name) =
      creature'.content (Directive.descriptionField name)) :
    AgreeOn (· ∈ [Directive.descriptionField name])
      (creature.overrideDescription name description)
      (creature'.overrideDescription name description) := by
  rw [overrideDescription_eq, overrideDescription_eq]
  unfold Directive.descriptionField at same ⊢
  split
  · exact List.forall_mem_singleton.mpr rfl
  · rename_i named
    rw [if_neg named] at same
    have sameActions : creature.actions = creature'.actions := same
    rw [sameActions]
    split
    · exact List.forall_mem_singleton.mpr rfl
    · trivial

/-- The outcome of a removal, which says nothing about what it did not find. -/
def removal (fault : ApplicationFault) : Option Creature → Except ApplicationFault Creature
  | some changed => .ok changed
  | none => .error fault

theorem apply_eq_removal (place : Section) (name : String) (creature : Creature) :
    creature.apply (.remove place name) =
      removal (.cannotRemove place name) (creature.remove? place name) := by
  rw [apply_remove]
  cases creature.remove? place name <;> rfl

variable {fault fault' : ApplicationFault}

theorem removal_local {α : Type} {found found' : Option α} {change change' : α → Creature}
    {fields : Field → Prop} (same : found = found')
    (agree : ∀ value field, fields field →
      (change value).content field = (change' value).content field) :
    AgreeOn fields (removal fault (found.map change)) (removal fault' (found'.map change')) := by
  cases same
  cases found with
  | none => trivial
  | some value => exact agree value

theorem removeListed?_local {name : String} {fields : Field → Prop}
    (same : creature.features = creature'.features)
    (others : ∀ field, fields field → field ≠ .features →
      creature.content field = creature'.content field) :
    AgreeOn fields (removal fault (creature.removeListed? name))
      (removal fault' (creature'.removeListed? name)) := by
  unfold removeListed?
  rw [same]
  refine removal_local rfl fun features field member => ?_
  by_cases listed : field = .features
  · cases listed
    rfl
  · cases field <;> first | exact absurd rfl listed | exact others _ member listed

theorem removeFeature?_local {name : String}
    (same : ∀ field ∈ Directive.featureFields name,
      creature.content field = creature'.content field) :
    AgreeOn (· ∈ Directive.featureFields name) (removal fault (creature.removeFeature? name))
      (removal fault' (creature'.removeFeature? name)) := by
  by_cases casting : Text.foldCase name = "spellcasting"
  · rw [Directive.featureFields_spellcasting casting] at same ⊢
    rw [removeFeature?_spellcasting casting, removeFeature?_spellcasting casting]
    have sameTrait : creature.spellcasting = creature'.spellcasting := same _ (.head _)
    have sameFeatures : creature.features = creature'.features := same _ (.tail _ (.head _))
    rw [sameTrait]
    split
    · exact List.forall_mem_cons.mpr ⟨rfl, List.forall_mem_singleton.mpr sameFeatures⟩
    · exact removeListed?_local sameFeatures fun field member _ => same field member
  · by_cases innate : Text.foldCase name = "innate spellcasting"
    · rw [Directive.featureFields_innate innate] at same ⊢
      rw [removeFeature?_innate innate, removeFeature?_innate innate]
      have sameTrait : creature.innateSpellcasting = creature'.innateSpellcasting :=
        same _ (.head _)
      have sameFeatures : creature.features = creature'.features := same _ (.tail _ (.head _))
      rw [sameTrait]
      split
      · exact List.forall_mem_cons.mpr ⟨rfl, List.forall_mem_singleton.mpr sameFeatures⟩
      · exact removeListed?_local sameFeatures fun field member _ => same field member
    · rw [Directive.featureFields_listed casting innate] at same ⊢
      rw [removeFeature?_listed casting innate, removeFeature?_listed casting innate]
      exact removeListed?_local (same _ (.head _)) fun field member _ => same field member

theorem remove?_local {place : Section} {name : String}
    (same : ∀ field ∈ Directive.sectionFields place name,
      creature.content field = creature'.content field) :
    AgreeOn (· ∈ Directive.sectionFields place name) (removal fault (creature.remove? place name))
      (removal fault' (creature'.remove? place name)) := by
  rw [remove?_eq, remove?_eq]
  cases place with
  | features => exact removeFeature?_local same
  | actions =>
      have sameActions : creature.actions = creature'.actions := same _ (.head _)
      refine removal_local (congrArg _ sameActions) fun actions => ?_
      exact List.forall_mem_singleton.mpr rfl
  | reactions =>
      have sameReactions : creature.reactions = creature'.reactions := same _ (.head _)
      refine removal_local (congrArg _ sameReactions) fun reactions => ?_
      exact List.forall_mem_singleton.mpr rfl
  | legendaryActions =>
      have sameActions : creature.legendaryActions = creature'.legendaryActions :=
        same _ (.head _)
      refine removal_local (congrArg _ sameActions) fun actions => ?_
      exact List.forall_mem_singleton.mpr rfl

/-- What a directive makes of its footprint depends on its footprint alone. -/
theorem apply_local {directive : Directive}
    (same : ∀ field ∈ directive.footprint, creature.content field = creature'.content field) :
    AgreeOn (· ∈ directive.footprint) (creature.apply directive) (creature'.apply directive) := by
  cases directive with
  | removeWeapon weapon => exact removeWeapon_local (same _ (.head _))
  | overrideWeaponAttack weapon attack =>
      exact changeWeapon_local (same _ (.head _))
  | overrideWeaponEffect weapon effect =>
      exact changeWeapon_local (same _ (.head _))
  | expectWeapon expectation =>
      exact expectWeapon_local (same _ (.head _)) (same _ (.tail _ (.head _)))
  | overrideDescription name description =>
      exact overrideDescription_local (same _ (.head _))
  | remove place name =>
      rw [apply_eq_removal, apply_eq_removal]
      exact remove?_local same
  | saves items | conditionImmunity items | languages items | unspokenLanguages items =>
      intro field member
      obtain ⟨_, rfl⟩ := Directive.mem_fieldIfAny.mp member
      exact congrArg (appendNew · items) (same _ member)
  | removeSaves abilities =>
      intro field member
      obtain ⟨_, rfl⟩ := Directive.mem_fieldIfAny.mp member
      exact congrArg (List.filter fun ability => !abilities.contains ability) (same _ member)
  | skills change changed =>
      intro field member
      obtain ⟨_, rfl⟩ := Directive.mem_fieldIfAny.mp member
      exact congrArg (changed.foldl (changeSkill change)) (same _ member)
  | damageTypes relation types =>
      intro field member
      obtain ⟨_, rfl⟩ := Directive.mem_fieldIfAny.mp member
      cases relation <;> exact congrArg (appendNew · types) (same _ member)
  | subject form name =>
      refine List.forall_mem_singleton.mpr ?_
      cases form <;> rfl
  | customDamage relation text =>
      refine List.forall_mem_singleton.mpr ?_
      cases relation <;> exact congrArg (· ++ [text]) (same _ (.head _))
  | movement way distance =>
      exact List.forall_mem_singleton.mpr
        (congrArg (setEntry · way.word distance) (same .speeds (.head _)))
  | speed name distance =>
      exact List.forall_mem_singleton.mpr
        (congrArg (setEntry · name distance) (same .speeds (.head _)))
  | abilityScore ability score =>
      exact List.forall_mem_singleton.mpr
        (congrArg (Scores.set ability score) (same .scores (.head _)))
  | standardSense sense distance =>
      exact List.forall_mem_singleton.mpr
        (congrArg (setEntry · sense.word distance) (same .senses (.head _)))
  | sense name distance =>
      exact List.forall_mem_singleton.mpr
        (congrArg (setEntry · name distance) (same .senses (.head _)))
  | blindsight distance blindBeyond =>
      exact List.forall_mem_cons.mpr
        ⟨congrArg (setEntry · "blindsight" distance) (same .senses (.head _)),
          List.forall_mem_singleton.mpr rfl⟩
  | weapon entry =>
      exact List.forall_mem_singleton.mpr
        (congrArg (· ++ [weaponAction entry]) (same .actions (.head _)))
  | attack entry =>
      exact List.forall_mem_singleton.mpr
        (congrArg (· ++ [attackAction entry]) (same .actions (.head _)))
  | action entry =>
      exact List.forall_mem_singleton.mpr
        (congrArg (· ++ [textAction entry]) (same .actions (.head _)))
  | feature entry =>
      exact List.forall_mem_singleton.mpr (congrArg (· ++ [entry]) (same .features (.head _)))
  | reaction entry =>
      exact List.forall_mem_singleton.mpr (congrArg (· ++ [entry]) (same .reactions (.head _)))
  | legendaryActions count actions description =>
      refine List.forall_mem_cons.mpr ⟨rfl, List.forall_mem_append.mpr ⟨?_, ?_⟩⟩
      · intro field member
        obtain ⟨_, rfl⟩ := Directive.mem_fieldIfAny.mp member
        exact congrArg (· ++ actions) (same _ (.tail _ (List.mem_append_left _ member)))
      · intro field member
        obtain ⟨_, rfl⟩ := Directive.mem_fieldIfAny.mp member
        exact congrArg (description <|> ·) (same _ (.tail _ (List.mem_append_right _ member)))
  | _ =>
      first
        | exact List.forall_mem_nil _
        | exact List.forall_mem_singleton.mpr rfl
        | exact List.forall_mem_cons.mpr ⟨rfl, List.forall_mem_singleton.mpr rfl⟩
        | exact List.forall_mem_cons.mpr
            ⟨rfl, List.forall_mem_cons.mpr ⟨rfl, List.forall_mem_singleton.mpr rfl⟩⟩

end Creature

end Bestiary
