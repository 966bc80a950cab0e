import Bestiary.Proofs.Creature.Invariant
import Bestiary.Proofs.Creature.Refusal
import Bestiary.Proofs.Creature.Reporting
import Bestiary.Proofs.Rules.Rating
import Bestiary.StatBlock.Basic

/-!
What is looked up in a table is there.

Deriving a creature and printing it look up armor, scores, spell slots and
challenge ratings. The rows are there because readers have checked the range of
what they are looked up by: a caster has one of the levels that the slots are
listed for, and a rating is a place in its table. Only a number that is too long can still keep what was
built from being printed.
-/

namespace Bestiary

open Document Prose

/-! ### The tables -/

theorem lookup_armorRows (kind : ArmorKind) :
    armorRows.lookup kind = some (kind.base, kind.dexterityRule) :=
  (Option.some_get kind.isSome_lookup).symm

theorem lookup_scores (scores : Scores) (ability : Ability) :
    ∃ listed, scores.toValue = .object listed ∧
      listed.lookup ability.word = some (.int (scores.get ability)) := by
  refine ⟨_, rfl, ?_⟩
  cases ability <;> rfl

def Rating.IsFound (rating : Rating) : Prop :=
  challengeRows.find? (fun row => row.value == rating.value) = some rating.row

theorem Rating.isFound (rating : Rating) : rating.IsFound := by
  obtain ⟨place⟩ := rating
  revert place
  unfold IsFound
  decide

/-- The slots of a caster are found in the row of its level, and that row is what they are. -/
def SpellSlots.HasRow (style : SpellcastingStyle) (level : CasterLevel) : Prop :=
  ∃ place row, level.val = place + 1 ∧ (rows style)[place]? = some row ∧
    ofCaster? style level.val = some (numbered row) ∧ ofLevel style level = numbered row

theorem SpellSlots.hasRow (style : SpellcastingStyle) (level : CasterLevel) :
    HasRow style level := by
  obtain ⟨place, here⟩ : ∃ place, level.val = place + 1 := ⟨level.val - 1, by omega⟩
  have listed : ofCaster? style level.val = some (ofLevel style level) :=
    (Option.some_get (isSome_ofCaster? style level)).symm
  have found := listed
  rw [here, ofCaster?_succ] at found
  obtain ⟨row, inTable, isRow⟩ := Option.map_eq_some_iff.mp found
  exact ⟨place, row, here, inTable, isRow ▸ listed, isRow.symm⟩

namespace Creature

/-! ### Lookups -/

/-- All that deriving and printing look up for a creature is there, and is what they use. -/
structure FindsRows (creature : Creature) : Prop where
  armor : ∀ kind, creature.armor = some kind →
    armorRows.lookup kind = some (kind.base, kind.dexterityRule)
  scores : ∀ ability, ∃ scores, creature.scores.toValue = .object scores ∧
    scores.lookup ability.word = some (.int (creature.score ability))
  slots : ∀ casting, creature.spellcasting = some casting →
    SpellSlots.HasRow casting.style casting.level
  /-- However often the rating is refined, also while it does not settle. -/
  rating : ∀ passes, (creature.rating passes).IsFound
  defensive : ∀ estimate, (creature.defensiveRating estimate).IsFound
  offensive : ∀ proficiency, (creature.offensiveRating proficiency).IsFound

theorem findsRows (creature : Creature) : creature.FindsRows where
  armor kind _ := lookup_armorRows kind
  scores ability := lookup_scores creature.scores ability
  slots casting _ := SpellSlots.hasRow casting.style casting.level
  rating passes := (creature.rating passes).isFound
  defensive estimate := (creature.defensiveRating estimate).isFound
  offensive proficiency := (creature.offensiveRating proficiency).isFound

end Creature

/-! ### Deriving -/

inductive DerivationFault.IsOfTexts (name : String) : DerivationFault → Prop
  | text (entry : String) (error : ProseError) : IsOfTexts name (.text name entry error)
  | number : IsOfTexts name .unwritableNumber

namespace Creature

variable {creature : Creature} {name : String}

theorem interpolateEntry_within (entry : String) (scope : List (String × ProseValue))
    (source : String) :
    FailsWithin (·.IsOfTexts name) (interpolateEntry name entry scope source) :=
  .mapError fun error _ => .text entry error

theorem finish_within (draft : EntryDraft) (scope : List (String × ProseValue)) :
    FailsWithin (·.IsOfTexts name) (draft.finish name scope) := by
  unfold EntryDraft.finish
  split
  · exact (interpolateEntry_within draft.name scope draft.source).bind fun _ _ =>
      failsWithin_ok _
  · exact failsWithin_error .number

theorem findRating_within (passes : Nat) :
    FailsWithin (·.IsOfTexts name) (creature.findRating passes) := by
  unfold findRating
  split
  · exact failsWithin_ok _
  · exact failsWithin_error .number

/-- Deriving a creature with a name meets no fault but those of its texts. -/
theorem derive_within (passes : Nat) (named : creature.name = some name) :
    FailsWithin (·.IsOfTexts name) (creature.derive passes) := by
  unfold derive
  split
  · next unnamed => cases unnamed.symm.trans named
  · next found isNamed =>
      cases isNamed.symm.trans named
      refine FailsWithin.bind ?_ fun _ _ => failsWithin_ok _
      exact deriveNamed_within (findRating_within passes)
        (fun draft _ scope => finish_within draft scope)
        fun _ scope => interpolateEntry_within _ scope _

structure Gives (creature : Creature) (passes : Nat) (derived : Derived) : Prop where
  challengeRating : derived.challengeRating = creature.rating passes
  proficiency : derived.proficiency = (creature.rating passes).proficiency
  armorClass : derived.armorClass = creature.armorClass.1
  hitDice : derived.hitDice = creature.hitDice
  hitPoints : derived.hitPoints = creature.hitPoints

theorem rating_of_findRating {passes : Nat} {rating : Rating}
    (found : creature.findRating passes = .ok rating) : rating = creature.rating passes := by
  unfold findRating at found
  split at found
  · exact (Except.ok.inj found).symm
  · cases found

theorem gives_of_deriveNamed {passes : Nat} {derived : Derived}
    (success : creature.deriveNamed name passes = .ok derived) :
    creature.Gives passes derived := by
  obtain ⟨rating, found, success⟩ := bind_eq_ok.mp success
  obtain rfl := rating_of_findRating found
  obtain ⟨features, _, success⟩ := bind_eq_ok.mp success
  obtain ⟨actions, _, success⟩ := bind_eq_ok.mp success
  obtain ⟨reactions, _, success⟩ := bind_eq_ok.mp success
  simp only at success
  split at success <;>
    obtain ⟨introduction, _, success⟩ := bind_eq_ok.mp success <;>
    obtain ⟨legendaryActions, _, success⟩ := bind_eq_ok.mp success <;>
    cases success <;>
    exact ⟨rfl, rfl, rfl, rfl, rfl⟩

theorem deriveNamed_of_derive {passes : Nat} {built : DerivedCreature}
    (success : creature.derive passes = .ok built) :
    built.creature = creature ∧ creature.deriveNamed built.name passes = .ok built.derived := by
  unfold derive at success
  split at success
  · cases success
  · obtain ⟨derived, found, same⟩ := bind_eq_ok.mp success
    obtain rfl := Except.ok.inj same
    exact ⟨rfl, found⟩

theorem gives_of_derive {passes : Nat} {built : DerivedCreature}
    (success : creature.derive passes = .ok built) :
    built.creature = creature ∧ creature.Gives passes built.derived := by
  obtain ⟨same, named⟩ := deriveNamed_of_derive success
  exact ⟨same, gives_of_deriveNamed named⟩

end Creature

/-! ### Printing -/

/-- The numbers in the stat block of a derived creature that no range bounds. -/
def DerivedCreature.longNumbers (built : DerivedCreature) : List Int :=
  [built.derived.armorClass, built.derived.hitPoints, built.creature.hitDiceCount,
    built.creature.hitDiceCount * built.creature.modifier .constitution]

theorem Creature.hitDice_isWritable_iff {creature : Creature} :
    creature.hitDice.isWritable = true ↔
      Number.isWritable creature.hitDiceCount = true ∧
        Number.isWritable (creature.hitDiceCount * creature.modifier .constitution) = true := by
  simp only [hitDice, Dice.isWritable, Dice.single, List.all_cons, List.all_nil,
    DiceTerm.isWritable, Number.isWritableRat_one, Bool.and_true, Bool.and_eq_true]

theorem DerivedCreature.exists_statBlock_iff {built : DerivedCreature}
    (dice : built.derived.hitDice = built.creature.hitDice) :
    (∃ statBlock, built.statBlock? = some statBlock) ↔
      ∀ number ∈ built.longNumbers, number.natAbs < Number.writingBound := by
  have printed : (∃ statBlock, built.statBlock? = some statBlock) ↔
      built.derived.isWritable = true := by
    unfold statBlock?
    split <;> simp [*]
  simp only [printed, Derived.isWritable, Dice.isWritableAs, dice, Bool.and_eq_true,
    Creature.hitDice_isWritable_iff, Number.isWritable, decide_eq_true_eq, longNumbers,
    List.forall_mem_cons, List.not_mem_nil, false_implies, implies_true, and_true]

namespace BuildContext

theorem gives_of_build {context : BuildContext} {reference : Option String} {form : DocumentForm}
    {built : DerivedCreature} (success : context.build reference form = .ok built) :
    built.creature.Gives context.settings.ratingPasses built.derived := by
  obtain ⟨_, _, _, derived, _⟩ := build_eq_ok_iff.mp success
  obtain ⟨rfl, gives⟩ := Creature.gives_of_derive (mapError_eq_ok.mp derived)
  exact gives

/-- No lookup in a table fails. What is built has a rating of the table and the proficiency bonus
that goes with it, and can be printed unless one of its numbers is too long to be written. A
creature with a name finds all its rows, and only its texts can keep it from being derived. -/
theorem build_finds_rows (context : BuildContext) :
    challengeRows.length = 34 ∧
      (∀ reference form built, context.build reference form = .ok built →
        built.derived.challengeRating.IsTabled ∧ built.derived.challengeRating.IsFound ∧
          built.derived.proficiency =
            Rating.proficiencyAt built.derived.challengeRating.value ∧
          2 ≤ built.derived.proficiency ∧ built.derived.proficiency ≤ 9 ∧
          ((∃ statBlock, built.statBlock? = some statBlock) ↔
            ∀ number ∈ built.longNumbers, number.natAbs < Number.writingBound)) ∧
      ∀ (creature : Creature) (name : String), creature.name = some name →
        creature.FindsRows ∧
          ∀ passes, FailsWithin (·.IsOfTexts name) (creature.derive passes) := by
  refine ⟨rfl, ?_, ?_⟩
  · intro reference form built success
    have gives := gives_of_build success
    have proficiency : built.derived.proficiency = built.derived.challengeRating.proficiency := by
      rw [gives.proficiency, gives.challengeRating]
    have bounds := built.derived.challengeRating.proficiency_bounds
    rw [← proficiency] at bounds
    exact ⟨Rating.isTabled _, Rating.isFound _, proficiency, bounds.1, bounds.2,
      DerivedCreature.exists_statBlock_iff gives.hitDice⟩
  · intro creature name named
    exact ⟨creature.findsRows, fun passes => Creature.derive_within passes named⟩

theorem build_finds_rows_mage :
    let casting : Spellcasting :=
      { ability := .intelligence, level := ⟨20, by decide⟩, className := "wizard" }
    let creature : Creature :=
      { name := some "Mage", armor := some .leather, spellcasting := some casting }
    let form : DocumentForm :=
      .directives [.version formatVersion none, .name "Commoner", .armor .leather 0 none]
    (∃ built, ({} : BuildContext).build none form = .ok built ∧
      built.derived.challengeRating.IsTabled ∧ 2 ≤ built.derived.proficiency) ∧
      creature.name = some "Mage" ∧ creature.FindsRows := by
  intro casting creature form
  have builds : (({} : BuildContext).build none form).toOption.isSome = true := by
    decide +kernel
  obtain ⟨built, success⟩ := exists_ok_of_toOption builds
  obtain ⟨_, printable, reachable⟩ := build_finds_rows {}
  obtain ⟨tabled, _, _, above, _⟩ := printable none form built success
  exact ⟨⟨built, success, tabled, above⟩, rfl, (reachable creature "Mage" rfl).1⟩

/-- As many hit dice as can be written come with a bonus that cannot, and so the creature that is
built is not printed. -/
theorem build_without_statBlock :
    let entries : List Value :=
      [.object [("version", .list [.int 1])], .object [("name", .text "Rat")],
        .object [("con", .int 30)], .object [("hit_dice_count", .int (Number.writingBound - 1))],
        .object [("hit_points", .int 5)]]
    ∃ built, ({} : BuildContext).build none (.entries entries) = .ok built ∧
      built.statBlock? = none := by
  intro entries
  have unprinted :
      ((({} : BuildContext).build none (.entries entries)).toOption.map fun built =>
        built.statBlock?.isNone) = some true := by
    decide +kernel
  obtain ⟨built, success, none⟩ := Option.map_eq_some_iff.mp unprinted
  exact ⟨built, eq_ok_of_toOption success, Option.isNone_iff_eq_none.mp none⟩

end BuildContext

end Bestiary
