import Mathlib.Data.List.Nodup
import Bestiary.Proofs.Creature.Footprint
import Bestiary.Proofs.Creature.Invariant
import Bestiary.Proofs.Number.Numeral
import Bestiary.StatBlock.Basic

/-!
Lines that do not show the order of recording.

What is chosen from a fixed list of names stands in the order of that list, and
only what has a name of its own stands where it was recorded. So the lines of a
stat block are the same for all creatures that record the same, and a line of
speeds or of senses has each of them once.
-/

namespace Bestiary

/-! ### Entries in another order -/

section Entries

variable {α β : Type} [BEq α] [LawfulBEq α] {first second entries : List (α × β)}

theorem lookup_eq_some_iff_mem (distinct : (keysOf entries).Nodup) {key : α} {content : β} :
    entries.lookup key = some content ↔ (key, content) ∈ entries :=
  ⟨mem_of_lookup, lookup_key distinct⟩

theorem lookup_perm (perm : first.Perm second) (distinct : (keysOf first).Nodup) (key : α) :
    first.lookup key = second.lookup key := by
  have distinct' : (keysOf second).Nodup := (perm.map Prod.fst).nodup_iff.mp distinct
  refine Option.ext fun content => ?_
  rw [lookup_eq_some_iff_mem distinct, lookup_eq_some_iff_mem distinct', perm.mem_iff]

theorem lookup_removeEntry_other {key other : α} (different : other ≠ key)
    (entries : List (α × β)) : (removeEntry entries key).lookup other = entries.lookup other := by
  unfold removeEntry
  induction entries with
  | nil => rfl
  | cons entry others ih =>
      by_cases removed : entry.1 = key
      · rw [List.filter_cons_of_neg (by simp [removed]), ih, List.lookup_cons, removed,
          beq_false_of_ne different]
      · rw [List.filter_cons_of_pos (by simpa using removed), List.lookup_cons, List.lookup_cons,
          ih]

end Entries

namespace Creature

variable {standard : List String} {recorded listed : List (String × Nat)}

/-! ### Listings -/

def customEntries (standard : List String) (recorded : List (String × Nat)) :
    List (String × Nat) :=
  recorded.filter fun entry => !standard.contains entry.1

/-- The recorded entries as they are listed: each once, those with a standard name first, in the
order of these names, and then the others, in the order in which they were recorded. -/
structure IsListing (standard : List String) (recorded listed : List (String × Nat)) : Prop where
  once : listed.Perm recorded
  distinct : (keysOf listed).Nodup
  standardFirst : ∃ front, (keysOf front).Sublist standard ∧
    listed = front ++ customEntries standard recorded

def standardEntries (standard : List String) (recorded : List (String × Nat)) :
    List (String × Nat) :=
  standard.filterMap fun name => (recorded.lookup name).map fun amount => (name, amount)

theorem keysOf_standardEntries (standard : List String) (recorded : List (String × Nat)) :
    keysOf (standardEntries standard recorded) =
      standard.filter fun name => (recorded.lookup name).isSome := by
  unfold standardEntries
  induction standard with
  | nil => rfl
  | cons name others ih =>
      rw [List.filterMap_cons, List.filter_cons]
      cases recorded.lookup name with
      | none => exact ih
      | some amount => exact congrArg (name :: ·) ih

theorem mem_standardEntries (distinct : (keysOf recorded).Nodup) (entry : String × Nat) :
    entry ∈ standardEntries standard recorded ↔ entry.1 ∈ standard ∧ entry ∈ recorded := by
  unfold standardEntries
  rw [List.mem_filterMap]
  constructor
  · rintro ⟨name, isStandard, found⟩
    obtain ⟨amount, isRecorded, rfl⟩ := Option.map_eq_some_iff.mp found
    exact ⟨isStandard, mem_of_lookup isRecorded⟩
  · rintro ⟨isStandard, isRecorded⟩
    exact ⟨entry.1, isStandard, Option.map_eq_some_iff.mpr
      ⟨entry.2, (lookup_eq_some_iff_mem distinct).mpr isRecorded, rfl⟩⟩

theorem standardFirst_isListing (fixed : standard.Nodup) (distinct : (keysOf recorded).Nodup) :
    IsListing standard recorded (standardFirst standard recorded) := by
  have sublist : (keysOf (standardEntries standard recorded)).Sublist standard := by
    rw [keysOf_standardEntries]
    exact List.filter_sublist
  have chosen : (standardEntries standard recorded).Perm
      (recorded.filter fun entry => standard.contains entry.1) := by
    have nodup : (standardEntries standard recorded).Nodup :=
      .of_map Prod.fst (fixed.sublist sublist)
    have nodup' : recorded.Nodup := .of_map Prod.fst distinct
    refine (List.perm_ext_iff_of_nodup nodup (nodup'.filter _)).mpr fun entry => ?_
    rw [mem_standardEntries distinct, List.mem_filter, List.contains_iff_mem, and_comm]
  have once : (standardFirst standard recorded).Perm recorded :=
    (chosen.append_right _).trans (List.filter_append_perm _ recorded)
  exact ⟨once, (once.map Prod.fst).nodup_iff.mpr distinct, _, sublist, rfl⟩

/-- Entries recorded in another order, but for those without a standard name. -/
structure Reordered (standard : List String) (first second : List (String × Nat)) : Prop where
  perm : first.Perm second
  custom : customEntries standard first = customEntries standard second

theorem Reordered.standardFirst {first second : List (String × Nat)}
    (reordered : Reordered standard first second) (distinct : (keysOf first).Nodup) :
    standardFirst standard first = standardFirst standard second := by
  have chosen : standardEntries standard first = standardEntries standard second :=
    List.filterMap_congr fun name _ => by rw [lookup_perm reordered.perm distinct]
  exact congrArg₂ (· ++ ·) chosen reordered.custom

/-! ### Speeds -/

def standardSpeeds : List String := "walk" :: printedSpeeds

def withWalking (speeds : List (String × Nat)) : List (String × Nat) :=
  if speeds.any (·.1 == "walk") then speeds else ("walk", 0) :: speeds

theorem nodup_withWalking {speeds : List (String × Nat)} (distinct : (keysOf speeds).Nodup) :
    (keysOf (withWalking speeds)).Nodup := by
  unfold withWalking
  split
  · exact distinct
  · rename_i absent
    exact List.nodup_cons.mpr ⟨mt any_key_iff.mpr absent, distinct⟩

theorem lookup_withWalking (speeds : List (String × Nat)) :
    (withWalking speeds).lookup "walk" = some ((speeds.lookup "walk").getD 0) := by
  unfold withWalking
  split
  · rename_i known
    obtain ⟨entry, member, isWalk⟩ := List.any_eq_true.mp known
    cases found : speeds.lookup "walk" with
    | some amount => rfl
    | none =>
        have other := bne_iff_ne.mp (List.lookup_eq_none_iff.mp found entry member)
        exact absurd (beq_iff_eq.mp isWalk).symm other
  · rename_i absent
    have none : speeds.lookup "walk" = none := List.lookup_eq_none_iff.mpr fun entry member =>
      bne_iff_ne.mpr fun same => absent (any_key_iff.mpr (same ▸ List.mem_map_of_mem member))
    rw [none, List.lookup_cons_self]
    rfl

theorem removeEntry_withWalking (speeds : List (String × Nat)) :
    removeEntry (withWalking speeds) "walk" = removeEntry speeds "walk" := by
  unfold withWalking
  split <;> rfl

theorem customEntries_walking (speeds : List (String × Nat)) :
    customEntries standardSpeeds speeds =
      customEntries printedSpeeds (removeEntry speeds "walk") := by
  unfold customEntries removeEntry
  rw [List.filter_filter]
  refine List.filter_congr fun entry _ => ?_
  rw [standardSpeeds, List.contains_cons, Bool.not_or, Bool.and_comm]
  rfl

theorem standardFirst_withWalking (speeds : List (String × Nat)) :
    standardFirst standardSpeeds (withWalking speeds) =
      ("walk", (speeds.lookup "walk").getD 0) ::
        standardFirst printedSpeeds (removeEntry speeds "walk") := by
  have others : standardEntries printedSpeeds (withWalking speeds) =
      standardEntries printedSpeeds (removeEntry speeds "walk") := by
    refine List.filterMap_congr fun name isPrinted => ?_
    have notWalk : name ≠ "walk" := by
      rintro rfl
      exact absurd isPrinted (by decide)
    rw [← removeEntry_withWalking, lookup_removeEntry_other notWalk]
  change standardEntries ("walk" :: printedSpeeds) _ ++ customEntries standardSpeeds _ = _
  rw [standardEntries, List.filterMap_cons, lookup_withWalking, customEntries_walking,
    removeEntry_withWalking]
  exact congrArg (fun front => _ :: (front ++ _)) others

theorem speedText_eq (creature : Creature) (entry : String × Nat) :
    creature.speedText entry =
      entry.1 ++ " " ++ toString entry.2 ++ " ft." ++
        if entry.1 == "fly" && creature.hover then " (hover)" else "" := by
  rw [speedText, distanceText, Number.showInt_natCast]

def speedNotesText (creature : Creature) : String :=
  match creature.speedNotes with
  | none | some "" => ""
  | some notes => " (" ++ notes ++ ")"

theorem speedLine_lists {creature : Creature} (distinct : (keysOf creature.speeds).Nodup) :
    ∃ walking listed,
      IsListing ["walk", "burrow", "climb", "fly", "swim"] (withWalking creature.speeds)
        (("walk", walking) :: listed) ∧
      creature.speedLine =
        String.intercalate ", "
            ((toString walking ++ " ft.") :: listed.map fun (name, distance) =>
              name ++ " " ++ toString distance ++ " ft." ++
                if name == "fly" && creature.hover then " (hover)" else "") ++
          creature.speedNotesText := by
  have fixed : standardSpeeds.Nodup := by decide
  have listing := standardFirst_isListing fixed (nodup_withWalking distinct)
  rw [standardFirst_withWalking] at listing
  refine ⟨_, _, listing, ?_⟩
  rw [speedLine, funext creature.speedText_eq, Number.showInt_natCast]
  rfl

/-! ### Senses -/

theorem senseText_eq (creature : Creature) (entry : String × Nat) :
    creature.senseText entry =
      entry.1 ++ " " ++ toString entry.2 ++ " ft." ++
        if entry.1 == "blindsight" && creature.blindBeyond then " (blind beyond this radius)"
        else "" := by
  rw [senseText, distanceText, Number.showInt_natCast]

theorem sensesLine_lists {creature : Creature} (distinct : (keysOf creature.senses).Nodup)
    (proficiency : Int) :
    ∃ listed, IsListing ["blindsight", "darkvision", "tremorsense", "truesight"]
        creature.senses listed ∧
      creature.sensesLine proficiency =
        String.intercalate ", "
          ((listed.map fun (name, distance) =>
              name ++ " " ++ toString distance ++ " ft." ++
                if name == "blindsight" && creature.blindBeyond then
                  " (blind beyond this radius)"
                else "") ++
            ["passive Perception " ++ toString (creature.passivePerception proficiency)]) := by
  refine ⟨_, standardFirst_isListing (by decide) distinct, ?_⟩
  rw [sensesLine, funext creature.senseText_eq, Number.showInt_eq_toString]
  rfl

/-! ### Creatures -/

structure RecordsOnce (creature : Creature) : Prop where
  skills : (keysOf creature.skills).Nodup
  speeds : (keysOf creature.speeds).Nodup
  senses : (keysOf creature.senses).Nodup

/-- What may be recorded in any order. -/
def recordedFields : List Field :=
  [.saves, .skills, .vulnerabilities, .resistances, .immunities, .speeds, .senses]

/-- Two creatures that differ in nothing but the order in which their saves, skills, damage types,
standard speeds and standard senses were recorded. -/
structure RecordedAlike (first second : Creature) : Prop where
  others : AgreeOff recordedFields first second
  saves : first.saves.Perm second.saves
  skills : first.skills.Perm second.skills
  vulnerabilities : first.vulnerabilities.Perm second.vulnerabilities
  resistances : first.resistances.Perm second.resistances
  immunities : first.immunities.Perm second.immunities
  speeds : Reordered standardSpeeds first.speeds second.speeds
  senses : Reordered printedSenses first.senses second.senses

section Alike

variable {first second : Creature}

theorem RecordedAlike.modifier (alike : RecordedAlike first second) (ability : Ability) :
    first.modifier ability = second.modifier ability := by
  have scores : first.scores = second.scores := alike.others .scores (by decide)
  exact congrArg (fun scores : Scores => Ability.modifier (scores.get ability)) scores

theorem RecordedAlike.saveBonus (alike : RecordedAlike first second) (ability : Ability)
    (proficiency : Int) :
    first.saveBonus ability proficiency = second.saveBonus ability proficiency := by
  rw [Creature.saveBonus, Creature.saveBonus, alike.modifier, alike.saves.contains_eq]

theorem RecordedAlike.skillBonus (alike : RecordedAlike first second) (once : first.RecordsOnce)
    (skill : Skill) (proficiency : Int) :
    first.skillBonus skill proficiency = second.skillBonus skill proficiency := by
  rw [Creature.skillBonus, Creature.skillBonus, alike.modifier, skillMultiplier, skillMultiplier,
    lookup_perm alike.skills once.skills]

theorem damageLine_perm {types types' : List DamageType} (perm : types.Perm types')
    (custom : List String) (variant : Option NonmagicalVariant) :
    damageLine types custom variant = damageLine types' custom variant := by
  have known : types.contains = types'.contains := funext fun _ => perm.contains_eq
  rw [damageLine, damageLine, known]

theorem RecordedAlike.savingThrowsLine (alike : RecordedAlike first second) (proficiency : Int) :
    first.savingThrowsLine proficiency = second.savingThrowsLine proficiency := by
  have known : first.saves.contains = second.saves.contains :=
    funext fun _ => alike.saves.contains_eq
  simp only [Creature.savingThrowsLine, known, alike.saveBonus]

theorem RecordedAlike.skillsLine (alike : RecordedAlike first second) (once : first.RecordsOnce)
    (proficiency : Int) : first.skillsLine proficiency = second.skillsLine proficiency := by
  have known : (first.skills.map Prod.fst).contains = (second.skills.map Prod.fst).contains :=
    funext fun _ => (alike.skills.map Prod.fst).contains_eq
  simp only [Creature.skillsLine, known, alike.skillBonus once]

theorem RecordedAlike.damageLines (alike : RecordedAlike first second) :
    first.vulnerabilitiesLine = second.vulnerabilitiesLine ∧
      first.resistancesLine = second.resistancesLine ∧
      first.immunitiesLine = second.immunitiesLine := by
  have vulnerabilities : first.customVulnerabilities = second.customVulnerabilities :=
    alike.others .customVulnerabilities (by decide)
  have resistances : first.customResistances = second.customResistances :=
    alike.others .customResistances (by decide)
  have immunities : first.customImmunities = second.customImmunities :=
    alike.others .customImmunities (by decide)
  have resistance : first.nonmagicalResistance = second.nonmagicalResistance :=
    alike.others .nonmagicalResistance (by decide)
  have immunity : first.nonmagicalImmunity = second.nonmagicalImmunity :=
    alike.others .nonmagicalImmunity (by decide)
  refine ⟨?_, ?_, ?_⟩
  · rw [vulnerabilitiesLine, damageLine_perm alike.vulnerabilities, vulnerabilities]
    rfl
  · rw [resistancesLine, damageLine_perm alike.resistances, resistances, resistance]
    rfl
  · rw [immunitiesLine, damageLine_perm alike.immunities, immunities, immunity]
    rfl

theorem Reordered.withoutWalking {first second : List (String × Nat)}
    (reordered : Reordered standardSpeeds first second) :
    Reordered printedSpeeds (removeEntry first "walk") (removeEntry second "walk") where
  perm := reordered.perm.filter _
  custom := by
    rw [← customEntries_walking, ← customEntries_walking]
    exact reordered.custom

theorem RecordedAlike.speedLine (alike : RecordedAlike first second) (once : first.RecordsOnce) :
    first.speedLine = second.speedLine := by
  have hover : first.hover = second.hover := alike.others .hover (by decide)
  have notes : first.speedNotes = second.speedNotes := alike.others .speedNotes (by decide)
  have walking := lookup_perm alike.speeds.perm once.speeds "walk"
  have others := alike.speeds.withoutWalking.standardFirst (nodup_removeEntry once.speeds "walk")
  have texts : first.speedText = second.speedText := by
    funext entry
    rw [speedText, speedText, hover]
  simp only [Creature.speedLine, walking, others, texts, notes]

theorem RecordedAlike.sensesLine (alike : RecordedAlike first second) (once : first.RecordsOnce)
    (proficiency : Int) : first.sensesLine proficiency = second.sensesLine proficiency := by
  have blind : first.blindBeyond = second.blindBeyond := alike.others .blindBeyond (by decide)
  have listed := alike.senses.standardFirst once.senses
  have texts : first.senseText = second.senseText := by
    funext entry
    rw [senseText, senseText, blind]
  simp only [Creature.sensesLine, passivePerception, listed, texts, alike.skillBonus once]

end Alike

theorem joined?_cons (separator : String) {part : String} (solid : part ≠ "")
    (others : List String) : Wording.joined? separator (part :: others) =
      some (String.intercalate separator (part :: others)) := by
  have line : String.intercalate separator (part :: others) ≠ "" := by
    cases others <;> simp [solid]
  rw [Wording.joined?, String.isEmpty_eq_false_iff.mpr line]
  rfl

theorem skills_sorted {creature : Creature} (once : creature.RecordsOnce) :
    let listed := Skill.all.filter (creature.skills.map Prod.fst).contains
    listed.Perm (keysOf creature.skills) ∧
      listed.Pairwise fun first second => first.displayName < second.displayName := by
  have sorted : Skill.all.Pairwise fun first second => first.displayName < second.displayName := by
    decide +kernel
  have distinct : Skill.all.Nodup := by decide
  refine ⟨(List.perm_ext_iff_of_nodup (distinct.filter _) once.skills).mpr fun skill => ?_,
    sorted.filter _⟩
  have known : skill ∈ Skill.all := by cases skill <;> decide
  rw [List.mem_filter, List.contains_iff_mem, and_iff_right known]
  rfl

theorem skillsLine_lists {creature : Creature} (once : creature.RecordsOnce) (proficiency : Int) :
    ∃ listed : List Skill, listed.Perm (keysOf creature.skills) ∧
      (listed.Pairwise fun first second => first.displayName < second.displayName) ∧
      creature.skillsLine proficiency =
        if listed = [] then none
        else some (String.intercalate ", " (listed.map fun skill =>
          let bonus := creature.skillBonus skill proficiency
          skill.displayName ++ " " ++ (if bonus < 0 then "" else "+") ++ toString bonus)) := by
  obtain ⟨once, sorted⟩ := skills_sorted once
  refine ⟨_, once, sorted, ?_⟩
  unfold skillsLine
  dsimp only
  simp only [Number.showSigned_eq_toString, ← String.append_assoc]
  cases Skill.all.filter (creature.skills.map Prod.fst).contains with
  | nil => rfl
  | cons skill others => exact joined?_cons ", " (by simp) _

/-! ### Creatures that are described -/

end Creature

namespace Directive

open Creature (Field)

def recordsDistance : Directive → Bool
  | movement _ _ | speed _ _ | standardSense _ _ | blindsight _ _ | sense _ _ => true
  | _ => false

theorem featureFields_subset {name : String} :
    featureFields name ⊆ [.spellcasting, .innateSpellcasting, .features] := by
  unfold featureFields
  split
  · decide
  · split <;> decide

theorem recordsDistance_of_mem_footprint {directive : Directive} {field : Field}
    (isDistance : field = .speeds ∨ field = .senses) (member : field ∈ directive.footprint) :
    directive.recordsDistance = true := by
  cases directive with
  | movement _ _ | speed _ _ | standardSense _ _ | blindsight _ _ | sense _ _ => rfl
  | subject form name =>
      rcases isDistance with rfl | rfl <;> cases form <;> simp [footprint, subjectField] at member
  | damageTypes relation types =>
      obtain ⟨_, rfl⟩ := mem_fieldIfAny.mp member
      cases relation <;> simp [damageField] at isDistance
  | customDamage relation text =>
      rcases isDistance with rfl | rfl <;> cases relation <;>
        simp [footprint, customDamageField] at member
  | overrideDescription given description =>
      rw [footprint, descriptionField] at member
      split at member <;> rcases isDistance with rfl | rfl <;> simp at member
  | remove place given =>
      cases place with
      | features =>
          have listed := featureFields_subset member
          rcases isDistance with rfl | rfl <;> exact absurd listed (by decide)
      | _ => rcases isDistance with rfl | rfl <;> simp [footprint, sectionFields] at member
  | _ => rcases isDistance with rfl | rfl <;> simp [footprint, mem_fieldIfAny] at member

end Directive

namespace Creature

theorem RecordsOnce.apply {creature after : Creature} {directive : Directive}
    (once : creature.RecordsOnce) (skills : (keysOf after.skills).Nodup)
    (applied : creature.apply directive = .ok after) : after.RecordsOnce := by
  cases recorded : directive.recordsDistance with
  | false =>
      have same {field : Field} (isDistance : field = .speeds ∨ field = .senses) :
          after.content field = creature.content field := by
        refine apply_frame (fun member => ?_) applied
        have records := Directive.recordsDistance_of_mem_footprint isDistance member
        exact absurd (recorded.symm.trans records) Bool.false_ne_true
      have speeds : after.speeds = creature.speeds := same (.inl rfl)
      have senses : after.senses = creature.senses := same (.inr rfl)
      exact { skills, speeds := speeds ▸ once.speeds, senses := senses ▸ once.senses }
  | true =>
      cases directive with
      | movement way distance =>
          cases applied
          exact { once with speeds := nodup_setEntry once.speeds way.word distance }
      | speed name distance =>
          cases applied
          exact { once with speeds := nodup_setEntry once.speeds name distance }
      | standardSense sense distance =>
          cases applied
          exact { once with senses := nodup_setEntry once.senses sense.word distance }
      | blindsight distance blindBeyond =>
          cases applied
          exact { once with senses := nodup_setEntry once.senses "blindsight" distance }
      | sense name distance =>
          cases applied
          exact { once with senses := nodup_setEntry once.senses name distance }
      | _ => cases recorded

end Creature

theorem BuildContext.applyAll_recordsOnce {context : BuildContext} {room : Nat}
    {chain : List String} {directives : List Directive} {creature : Creature}
    (validated : ∀ directive ∈ directives, directive.IsValidated)
    (applied : context.applyAll room chain directives {} = .ok creature) :
    creature.RecordsOnce := by
  have fresh : ({} : Creature).WellFormed ∧ ({} : Creature).RecordsOnce :=
    ⟨Creature.wellFormed_fresh, .nil, by decide, .nil⟩
  have step {directive : Directive} {creature after : Creature}
      (isValidated : directive.IsValidated)
      (kept : creature.WellFormed ∧ creature.RecordsOnce)
      (first : creature.apply directive = .ok after) : after.WellFormed ∧ after.RecordsOnce := by
    have wellFormed := kept.1.apply isValidated.readable first
    exact ⟨wellFormed, kept.2.apply wellFormed.skills first⟩
  exact (applyAll_preserves step validated fresh applied).2

namespace Creature

/-- The lines of a stat block are canonical. Creatures that record the same in another order have
the same lines, if only what has a name of its own keeps its order. Whatever validated directives
make records each skill, speed and sense once. Then the line of speeds has each recorded speed once,
walking first, and zero feet if no walking speed is recorded; the line of senses has each recorded
sense once and ends with the passive perception; in both the standard names come first, in their
fixed order, and the others as they were recorded. The line of skills has each recorded skill once,
by name. -/
theorem lines_canonical :
    (∀ first second : Creature, first.RecordsOnce → first.RecordedAlike second →
      ∀ proficiency : Int,
        first.savingThrowsLine proficiency = second.savingThrowsLine proficiency ∧
        first.skillsLine proficiency = second.skillsLine proficiency ∧
        first.vulnerabilitiesLine = second.vulnerabilitiesLine ∧
        first.resistancesLine = second.resistancesLine ∧
        first.immunitiesLine = second.immunitiesLine ∧
        first.speedLine = second.speedLine ∧
        first.sensesLine proficiency = second.sensesLine proficiency) ∧
    (∀ (context : BuildContext) (room : Nat) (chain : List String) (directives : List Directive)
      (creature : Creature), (∀ directive ∈ directives, directive.IsValidated) →
      context.applyAll room chain directives {} = .ok creature → creature.RecordsOnce) ∧
    ∀ creature : Creature, creature.RecordsOnce →
      (∃ walking listed,
        IsListing ["walk", "burrow", "climb", "fly", "swim"] (withWalking creature.speeds)
          (("walk", walking) :: listed) ∧
        creature.speedLine =
          String.intercalate ", "
              ((toString walking ++ " ft.") :: listed.map fun (name, distance) =>
                name ++ " " ++ toString distance ++ " ft." ++
                  if name == "fly" && creature.hover then " (hover)" else "") ++
            creature.speedNotesText) ∧
      ∀ proficiency : Int,
        (∃ listed, IsListing ["blindsight", "darkvision", "tremorsense", "truesight"]
            creature.senses listed ∧
          creature.sensesLine proficiency =
            String.intercalate ", "
              ((listed.map fun (name, distance) =>
                  name ++ " " ++ toString distance ++ " ft." ++
                    if name == "blindsight" && creature.blindBeyond then
                      " (blind beyond this radius)"
                    else "") ++
                ["passive Perception " ++ toString (creature.passivePerception proficiency)])) ∧
        ∃ listed : List Skill, listed.Perm (keysOf creature.skills) ∧
          (listed.Pairwise fun first second => first.displayName < second.displayName) ∧
          creature.skillsLine proficiency =
            if listed = [] then none
            else some (String.intercalate ", " (listed.map fun skill =>
              let bonus := creature.skillBonus skill proficiency
              skill.displayName ++ " " ++ (if bonus < 0 then "" else "+") ++ toString bonus)) := by
  refine ⟨?_, ?_, ?_⟩
  · intro first second once alike proficiency
    obtain ⟨vulnerabilities, resistances, immunities⟩ := alike.damageLines
    exact ⟨alike.savingThrowsLine proficiency, alike.skillsLine once proficiency, vulnerabilities,
      resistances, immunities, alike.speedLine once, alike.sensesLine once proficiency⟩
  · intro context room chain directives creature validated applied
    exact BuildContext.applyAll_recordsOnce validated applied
  · intro creature once
    exact ⟨speedLine_lists once.speeds, fun proficiency =>
      ⟨sensesLine_lists once.senses proficiency, skillsLine_lists once proficiency⟩⟩

theorem lines_canonical_glider :
    let first : Creature :=
      { saves := [.dexterity, .wisdom]
        skills := [(.stealth, 1), (.perception, 2)]
        resistances := [.cold, .fire]
        speeds := [("glide", 20), ("fly", 60), ("echo", 5), ("climb", 30)]
        senses := [("scent", 10), ("truesight", 30), ("blindsight", 60)] }
    let second : Creature :=
      { saves := [.wisdom, .dexterity]
        skills := [(.perception, 2), (.stealth, 1)]
        resistances := [.fire, .cold]
        speeds := [("climb", 30), ("glide", 20), ("echo", 5), ("fly", 60)]
        senses := [("blindsight", 60), ("scent", 10), ("truesight", 30)] }
    first.RecordsOnce ∧ first.RecordedAlike second ∧
      first.speedLine = second.speedLine ∧
      ∃ walking listed,
        IsListing ["walk", "burrow", "climb", "fly", "swim"] (withWalking first.speeds)
          (("walk", walking) :: listed) ∧
        first.speedLine =
          String.intercalate ", "
              ((toString walking ++ " ft.") :: listed.map fun (name, distance) =>
                name ++ " " ++ toString distance ++ " ft." ++
                  if name == "fly" && first.hover then " (hover)" else "") ++
            first.speedNotesText := by
  intro first second
  have once : first.RecordsOnce := ⟨by decide, by decide, by decide⟩
  have others : AgreeOff recordedFields first second := by
    intro field other
    cases field <;> first | rfl | exact absurd (by decide) other
  have alike : first.RecordedAlike second :=
    { others
      saves := by decide
      skills := by decide
      vulnerabilities := .refl _
      resistances := by decide
      immunities := .refl _
      speeds := ⟨by decide, by decide⟩
      senses := ⟨by decide, by decide⟩ }
  obtain ⟨_, _, _, _, _, speeds, _⟩ := lines_canonical.1 first second once alike 2
  exact ⟨once, alike, speeds, (lines_canonical.2.2 first once).1⟩

end Creature

end Bestiary
