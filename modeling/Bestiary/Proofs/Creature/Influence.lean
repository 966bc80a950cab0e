import Bestiary.Proofs.Creature.Footprint
import Mathlib.Logic.Nontrivial.Basic

/-!
Footprints are exact.

A directive writes a field when it changes what the field holds on some
creature, and reads it when two creatures that differ in that field alone fare
differently elsewhere. The fields that a directive reads or writes are those of
its footprint, no more and no fewer.
-/

namespace Bestiary

open Creature (Field)

namespace Directive

def Writes (directive : Directive) (field : Field) : Prop :=
  ∃ creature after : Creature, creature.apply directive = .ok after ∧
    after.content field ≠ creature.content field

def Reads (directive : Directive) (field : Field) : Prop :=
  ∃ creature creature' : Creature,
    (∀ other, other ≠ field → creature.content other = creature'.content other) ∧
      ¬Creature.AgreeOn (· ≠ field) (creature.apply directive) (creature'.apply directive)

variable {directive : Directive} {field : Field}

theorem Writes.mem_footprint (writes : directive.Writes field) : field ∈ directive.footprint := by
  obtain ⟨creature, after, applied, changed⟩ := writes
  by_contra outside
  exact changed (Creature.apply_frame outside applied)

theorem Reads.mem_footprint (reads : directive.Reads field) : field ∈ directive.footprint := by
  obtain ⟨creature, creature', alike, differ⟩ := reads
  by_contra outside
  have agree : Creature.AgreeOn (· ∈ directive.footprint) (creature.apply directive)
      (creature'.apply directive) :=
    Creature.apply_local fun other member => alike other fun same => outside (same ▸ member)
  apply differ
  cases applied : creature.apply directive with
  | error fault =>
      cases applied' : creature'.apply directive with
      | error fault' => trivial
      | ok after' => rw [applied, applied'] at agree; exact agree
  | ok after =>
      cases applied' : creature'.apply directive with
      | error fault' => rw [applied, applied'] at agree; exact agree
      | ok after' =>
          rw [applied, applied'] at agree
          intro other elsewhere
          by_cases member : other ∈ directive.footprint
          · exact agree other member
          · rw [Creature.apply_frame member applied, Creature.apply_frame member applied']
            exact alike other elsewhere

/-! ### Every field of a footprint is read or written -/

instance : Nontrivial Pronouns := ⟨.it, .he, by decide⟩

instance : Nontrivial Size := ⟨.tiny, .small, by decide⟩

instance : Nontrivial String := ⟨"", " ", by decide⟩

theorem foldl_cons_ne_nil {α β : Type} {step : List α → β → List α}
    (grows : ∀ known item, step known item ≠ []) (known : List α) (item : β) (others : List β) :
    (item :: others).foldl step known ≠ [] := by
  induction others generalizing known item with
  | nil => exact grows known item
  | cons next rest ih => exact ih (step known item) next

theorem appendNew_cons_ne_nil {α : Type} [BEq α] (known : List α) (item : α) (others : List α) :
    appendNew known (item :: others) ≠ [] := by
  refine foldl_cons_ne_nil (fun known item => ?_) known item others
  cases known with
  | nil => exact List.cons_ne_nil item []
  | cons first rest =>
      split
      · exact List.cons_ne_nil first rest
      · exact List.cons_ne_nil first (rest ++ [item])

theorem setEntry_ne_nil {α β : Type} [BEq α] (entries : List (α × β)) (key : α) (content : β) :
    setEntry entries key content ≠ [] := by
  cases entries with
  | nil => exact List.cons_ne_nil (key, content) []
  | cons entry others =>
      unfold setEntry
      split
      · exact List.cons_ne_nil _ _
      · exact List.cons_ne_nil entry (others ++ [(key, content)])

theorem foldl_removeEntry_nil (skills : List Skill) :
    skills.foldl (Creature.changeSkill .removed) [] = [] := by
  induction skills with
  | nil => rfl
  | cons skill others ih => exact ih

def carrier (weapon : Weapon) : Creature :=
  { actions := [Creature.weaponAction ⟨weapon, 0, 0, []⟩] }

theorem carrier_uses (weapon : Weapon) :
    Creature.usesWeapon weapon (Creature.weaponAction ⟨weapon, 0, 0, []⟩) = true :=
  beq_self_eq_true (some weapon)

def actor (name description : String) : Creature :=
  { actions := [Creature.textAction ⟨name, description, none⟩] }

theorem sameName_self (name : String) : Creature.sameName name name = true :=
  beq_self_eq_true (Text.foldCase name)

theorem Writes.of_apply (creature after : Creature)
    (applied : creature.apply directive = .ok after)
    (changed : after.content field ≠ creature.content field) : directive.Writes field :=
  ⟨creature, after, applied, changed⟩

theorem writes_features (name : String) : (remove .features name).Writes .features := by
  have removed : Creature.removeFeature? name { features := [⟨name, "", none⟩] } =
      some ({} : Creature) := by
    simp [Creature.removeFeature?_eq, Creature.removeListed?, removeFirst?, sameName_self]
  refine .of_apply { features := [⟨name, "", none⟩] } {} ?_
    (List.cons_ne_nil _ _).symm
  rw [Creature.apply_remove, Creature.remove?_eq, removed]

theorem writes_of_mem_featureFields {name : String} (member : field ∈ featureFields name) :
    (remove .features name).Writes field := by
  by_cases casting : Text.foldCase name = "spellcasting"
  · rw [featureFields_spellcasting casting] at member
    rcases List.mem_cons.mp member with rfl | member
    · let spells : Spellcasting := ⟨.strength, ⟨1, by decide⟩, "", .full, [], [], none, none, none⟩
      refine .of_apply { spellcasting := some spells } {} ?_ (Option.some_ne_none _).symm
      rw [Creature.apply_remove, Creature.remove?_eq, Creature.removeFeature?_spellcasting casting]
      rfl
    · rw [List.mem_singleton.mp member]
      exact writes_features name
  · by_cases innate : Text.foldCase name = "innate spellcasting"
    · rw [featureFields_innate innate] at member
      rcases List.mem_cons.mp member with rfl | member
      · refine .of_apply { innateSpellcasting := some ⟨.strength, [], [], none, none, none⟩ } {} ?_
          (Option.some_ne_none _).symm
        rw [Creature.apply_remove, Creature.remove?_eq, Creature.removeFeature?_innate innate]
        rfl
      · rw [List.mem_singleton.mp member]
        exact writes_features name
    · rw [featureFields_listed casting innate] at member
      rw [List.mem_singleton.mp member]
      exact writes_features name

theorem writes_of_mem_sectionFields {place : Section} {name : String}
    (member : field ∈ sectionFields place name) : (remove place name).Writes field := by
  cases place with
  | features => exact writes_of_mem_featureFields member
  | actions =>
      rw [List.mem_singleton.mp member]
      refine .of_apply (actor name "") {} ?_ (List.cons_ne_nil _ _).symm
      simp [Creature.apply_remove, Creature.remove?_eq, actor, removeFirst?, Creature.textAction,
        sameName_self]
  | reactions =>
      rw [List.mem_singleton.mp member]
      refine .of_apply { reactions := [⟨name, "", none⟩] } {} ?_
        (List.cons_ne_nil _ _).symm
      simp [Creature.apply_remove, Creature.remove?_eq, removeFirst?, sameName_self]
  | legendaryActions =>
      rw [List.mem_singleton.mp member]
      refine .of_apply { legendaryActions := [⟨name, "", 1⟩] } {} ?_
        (List.cons_ne_nil _ _).symm
      simp [Creature.apply_remove, Creature.remove?_eq, removeFirst?, sameName_self]

theorem writes_of_mem_damageFields {relation : DamageRelation} {types : List DamageType}
    (member : field ∈ (damageTypes relation types).footprint) :
    (damageTypes relation types).Writes field := by
  obtain ⟨nonempty, rfl⟩ := mem_fieldIfAny.mp member
  obtain ⟨type, others, rfl⟩ := List.exists_cons_of_ne_nil nonempty
  cases relation <;> exact .of_apply {} _ rfl (appendNew_cons_ne_nil [] type others)

theorem writes_of_mem_skillFields {change : SkillChange} {changed : List Skill}
    (member : field ∈ (skills change changed).footprint) :
    (skills change changed).Writes field := by
  obtain ⟨nonempty, rfl⟩ := mem_fieldIfAny.mp member
  obtain ⟨skill, others, rfl⟩ := List.exists_cons_of_ne_nil nonempty
  cases change with
  | proficient =>
      exact .of_apply {} _ rfl
        (foldl_cons_ne_nil (fun known item => setEntry_ne_nil known item 1) [] skill others)
  | expert =>
      exact .of_apply {} _ rfl
        (foldl_cons_ne_nil (fun known item => setEntry_ne_nil known item 2) [] skill others)
  | removed =>
      have removed : removeEntry [(skill, 1)] skill = [] := by
        simp [removeEntry]
      have emptied : (skill :: others).foldl (Creature.changeSkill .removed) [(skill, 1)] = [] := by
        rw [List.foldl_cons, Creature.changeSkill, removed, foldl_removeEntry_nil]
      refine .of_apply { skills := [(skill, 1)] } _ rfl ?_
      exact emptied.trans_ne (List.cons_ne_nil _ _).symm

theorem writes_description (name description : String) :
    (overrideDescription name description).Writes (descriptionField name) := by
  by_cases multiattack : Text.foldCase name = "multiattack"
  · have field : descriptionField name = .multiattackDescription := by
      rw [descriptionField, if_pos (beq_iff_eq.mpr multiattack)]
    rw [field]
    refine .of_apply {} { multiattackDescription := some description } ?_ (Option.some_ne_none _)
    exact (Creature.overrideDescription_eq _ _ _).trans (if_pos (beq_iff_eq.mpr multiattack))
  · have field : descriptionField name = .actions := by
      rw [descriptionField, if_neg (mt beq_iff_eq.mp multiattack)]
    obtain ⟨other, different⟩ := exists_ne description
    rw [field]
    refine .of_apply (actor name other) (actor name description) ?_ fun same => ?_
    · refine (Creature.overrideDescription_eq _ _ _).trans ?_
      rw [if_neg (mt beq_iff_eq.mp multiattack)]
      simp [actor, changeFirst?, Creature.textAction, sameName_self, Action.describeAs]
    · have sameText : some description = some other := congrArg
        (fun actions : List Action => actions.head?.bind Action.description?) same
      exact different (Option.some.inj sameText).symm

theorem writes_or_reads_of_mem_footprint (member : field ∈ directive.footprint) :
    directive.Writes field ∨ directive.Reads field := by
  cases directive with
  | version minimum maximum => cases member
  | inclusion reference arguments => cases member
  | name | source | customType | subtype | group | hitDie | hitPoints | speedNotes
  | nonmagicalResistance | nonmagicalImmunity | telepathy | challengeRating
  | expectChallengeRating | challengeShortcut | multiattack | spellcasting
  | innateSpellcasting =>
      rw [List.mem_singleton.mp member]
      exact .inl (.of_apply {} _ rfl (Option.some_ne_none _))
  | subject form name =>
      rw [List.mem_singleton.mp member]
      cases form <;> exact .inl (.of_apply {} _ rfl (Option.some_ne_none _))
  | pronouns pronouns =>
      rw [List.mem_singleton.mp member]
      obtain ⟨other, different⟩ := exists_ne pronouns
      exact .inl (.of_apply { pronouns := other } _ rfl different.symm)
  | size size | sizeShortcut size =>
      rw [List.mem_singleton.mp member]
      obtain ⟨other, different⟩ := exists_ne size
      exact .inl (.of_apply { size := other } _ rfl different.symm)
  | alignment alignment =>
      rw [List.mem_singleton.mp member]
      obtain ⟨other, different⟩ := exists_ne alignment.displayName
      exact .inl (.of_apply { alignment := other } _ rfl different.symm)
  | customAlignment alignment =>
      rw [List.mem_singleton.mp member]
      obtain ⟨other, different⟩ := exists_ne alignment
      exact .inl (.of_apply { alignment := other } _ rfl different.symm)
  | hitDiceCount count =>
      rw [List.mem_singleton.mp member]
      exact .inl (.of_apply { hitDiceCount := count + 1 } _ rfl (Nat.succ_ne_self count).symm)
  | armorBonus bonus =>
      rw [List.mem_singleton.mp member]
      exact .inl (.of_apply { extraArmorBonus := bonus + 1 } _ rfl (Int.ne_of_lt (Int.lt_succ bonus)))
  | shield carried =>
      rw [List.mem_singleton.mp member]
      exact .inl (.of_apply { shield := !carried } _ rfl (Bool.eq_not_self carried).mp)
  | hover =>
      rw [List.mem_singleton.mp member]
      exact .inl (.of_apply {} _ rfl Bool.noConfusion)
  | creatureType type =>
      rcases List.mem_cons.mp member with rfl | member
      · exact .inl (.of_apply {} _ rfl (Option.some_ne_none _))
      · rw [List.mem_singleton.mp member]
        exact .inl (.of_apply { customType := some "" } _ rfl (Option.some_ne_none _).symm)
  | armor kind bonus description =>
      rcases List.mem_cons.mp member with rfl | member
      · exact .inl (.of_apply {} _ rfl (Option.some_ne_none _))
      rcases List.mem_cons.mp member with rfl | member
      · exact .inl (.of_apply { armorBonus := bonus + 1 } _ rfl (Int.ne_of_lt (Int.lt_succ bonus)))
      · rw [List.mem_singleton.mp member]
        obtain ⟨other, different⟩ := exists_ne description
        exact .inl (.of_apply { armorDescription := other } _ rfl different.symm)
  | armorClass value description =>
      rcases List.mem_cons.mp member with rfl | member
      · exact .inl (.of_apply {} _ rfl (Option.some_ne_none _))
      · rw [List.mem_singleton.mp member]
        obtain ⟨other, different⟩ := exists_ne description
        exact .inl (.of_apply { armorClassDescription := other } _ rfl different.symm)
  | movement way distance =>
      rw [List.mem_singleton.mp member]
      exact .inl (.of_apply { speeds := [] } _ rfl (List.cons_ne_nil _ _))
  | speed name distance =>
      rw [List.mem_singleton.mp member]
      exact .inl (.of_apply { speeds := [] } _ rfl (List.cons_ne_nil _ _))
  | standardSense sense distance =>
      rw [List.mem_singleton.mp member]
      exact .inl (.of_apply {} _ rfl (List.cons_ne_nil _ _))
  | sense name distance =>
      rw [List.mem_singleton.mp member]
      exact .inl (.of_apply {} _ rfl (List.cons_ne_nil _ _))
  | blindsight distance blindBeyond =>
      rcases List.mem_cons.mp member with rfl | member
      · exact .inl (.of_apply {} _ rfl (List.cons_ne_nil _ _))
      · rw [List.mem_singleton.mp member]
        exact .inl (.of_apply { blindBeyond := !blindBeyond } _ rfl
          (Bool.eq_not_self blindBeyond).mp)
  | abilityScore ability score =>
      rw [List.mem_singleton.mp member]
      refine .inl (.of_apply { scores := Scores.set ability (score + 1) {} } _ rfl fun same => ?_)
      have unequal : (Scores.set ability score (Scores.set ability (score + 1) {})).get ability ≠
          (Scores.set ability (score + 1) {}).get ability := by
        cases ability <;> exact Int.ne_of_lt (Int.lt_succ score)
      exact unequal (congrArg (Scores.get · ability) same)
  | saves items | conditionImmunity items | languages items | unspokenLanguages items =>
      obtain ⟨nonempty, rfl⟩ := mem_fieldIfAny.mp member
      obtain ⟨item, others, rfl⟩ := List.exists_cons_of_ne_nil nonempty
      exact .inl (.of_apply {} _ rfl (appendNew_cons_ne_nil [] item others))
  | damageTypes relation types => exact .inl (writes_of_mem_damageFields member)
  | customDamage relation text =>
      rw [List.mem_singleton.mp member]
      cases relation <;> exact .inl (.of_apply {} _ rfl (List.cons_ne_nil _ _))
  | weapon | attack | action | feature | reaction =>
      rw [List.mem_singleton.mp member]
      exact .inl (.of_apply {} _ rfl (List.cons_ne_nil _ _))
  | removeSaves abilities =>
      obtain ⟨nonempty, rfl⟩ := mem_fieldIfAny.mp member
      obtain ⟨ability, others, rfl⟩ := List.exists_cons_of_ne_nil nonempty
      refine .inl (.of_apply { saves := [ability] } { saves := [] } ?_ (List.cons_ne_nil _ _).symm)
      have emptied : [ability].filter (fun saved => !(ability :: others).contains saved) = [] := by
        simp
      exact congrArg (fun saves => Except.ok ({ saves := saves } : Creature)) emptied
  | skills change changed => exact .inl (writes_of_mem_skillFields member)
  | removeWeapon weapon =>
      rw [List.mem_singleton.mp member]
      refine .inl (.of_apply (carrier weapon) {} ?_ (List.cons_ne_nil _ _).symm)
      refine (Creature.removeWeapon_eq _ _).trans ?_
      simp [carrier, removeFirst?, carrier_uses]
  | overrideWeaponAttack weapon attack =>
      rw [List.mem_singleton.mp member]
      refine .inl (.of_apply (carrier weapon)
        { actions := [(Creature.weaponAction ⟨weapon, 0, 0, []⟩).overrideAttack attack] } ?_ ?_)
      · refine (Creature.changeWeapon_eq _ _ _ _).trans ?_
        simp [carrier, changeFirst?, carrier_uses]
      · intro same
        have sameAttack : some attack = none := congrArg
          (fun actions : List Action => actions.head?.bind Action.attack?) same
        cases sameAttack
  | overrideWeaponEffect weapon effect =>
      rw [List.mem_singleton.mp member]
      refine .inl (.of_apply (carrier weapon)
        { actions := [(Creature.weaponAction ⟨weapon, 0, 0, []⟩).overrideEffect effect] } ?_ ?_)
      · refine (Creature.changeWeapon_eq _ _ _ _).trans ?_
        simp [carrier, changeFirst?, carrier_uses]
      · intro same
        have sameEffect : some effect = none := congrArg
          (fun actions : List Action => actions.head?.bind Action.effect?) same
        cases sameEffect
  | expectWeapon expectation =>
      have met : (carrier expectation.weapon).apply (expectWeapon expectation) =
          .ok { carrier expectation.weapon with weaponExpectations := [expectation] } := by
        refine (Creature.expectWeapon_eq _ _).trans ?_
        simp [carrier, carrier_uses]
      rcases List.mem_cons.mp member with rfl | member
      · -- An expectation only looks for its weapon: one creature has it and the other has none.
        refine .inr ⟨carrier expectation.weapon, {}, ?_, ?_⟩
        · intro other elsewhere
          exact @Creature.content_withActions {} other _ elsewhere
        · rw [met]
          exact id
      · rw [List.mem_singleton.mp member]
        exact .inl (.of_apply _ _ met (List.cons_ne_nil _ _))
  | overrideDescription name description =>
      rw [List.mem_singleton.mp member]
      exact .inl (writes_description name description)
  | legendaryActions count actions description =>
      rcases List.mem_cons.mp member with rfl | member
      · exact .inl (.of_apply { legendaryActionCount := count + 1 } _ rfl
          (Nat.succ_ne_self count).symm)
      rcases List.mem_append.mp member with listed | described
      · obtain ⟨nonempty, rfl⟩ := mem_fieldIfAny.mp listed
        exact .inl (.of_apply {} _ rfl nonempty)
      · obtain ⟨given, rfl⟩ := mem_fieldIfAny.mp described
        obtain ⟨text, rfl⟩ := Option.ne_none_iff_exists'.mp (mt Option.toList_eq_nil_iff.mpr given)
        exact .inl (.of_apply {} _ rfl (Option.some_ne_none text))
  | remove place name => exact .inl (writes_of_mem_sectionFields member)

/-- The footprint of a directive: the fields that it writes or reads, and no other. -/
theorem mem_footprint_iff : field ∈ directive.footprint ↔
    directive.Writes field ∨ directive.Reads field := by
  constructor
  · intro member
    exact writes_or_reads_of_mem_footprint member
  · rintro (writes | reads)
    · exact writes.mem_footprint
    · exact reads.mem_footprint

end Directive

end Bestiary
