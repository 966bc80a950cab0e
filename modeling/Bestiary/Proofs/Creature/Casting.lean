import Bestiary.Creature.ChallengeRating
import Bestiary.Proofs.Creature.AttackText
import Bestiary.Proofs.Creature.Field

/-!
Whose spells the numbers for spells are of.

The ability is that of the class spells wherever there are any. A number that is
given for the innate spells is used all the same, unless one is given for the
class spells too. So innate spells leave the numbers of a class caster alone
exactly as far as its own are given, or theirs are the same.
-/

namespace Bestiary.Creature

open Prose

def innateAttackBonus (creature : Creature) : Option Int :=
  creature.innateSpellcasting.bind InnateSpellcasting.attackBonus

def innateSaveDC (creature : Creature) : Option Nat :=
  creature.innateSpellcasting.bind InnateSpellcasting.saveDC

section Caster

variable {creature first second : Creature} {casting : Spellcasting}

theorem spellAbility_caster (casts : creature.spellcasting = some casting) :
    creature.spellAbility = casting.ability := by
  rw [spellAbility, casts]

theorem spellAttackBonus_caster (casts : creature.spellcasting = some casting)
    (proficiency : Int) :
    creature.spellAttackBonus proficiency =
      (casting.attackBonus <|> creature.innateAttackBonus).getD
        (proficiency + creature.modifier casting.ability) := by
  rw [spellAttackBonus, spellAbility_caster casts, casts]
  rfl

theorem spellSaveDC_caster (casts : creature.spellcasting = some casting) (proficiency : Int) :
    creature.spellSaveDC proficiency =
      ((casting.saveDC <|> creature.innateSaveDC).map Int.ofNat).getD
        (8 + proficiency + creature.modifier casting.ability) := by
  unfold spellSaveDC innateSaveDC
  rw [spellAbility_caster casts, casts, Option.bind_some]
  cases casting.saveDC <|> creature.innateSpellcasting.bind InnateSpellcasting.saveDC <;> rfl

/-- A number that is one more for each point of proficiency, unless it is given, shows what was
given for it. -/
theorem given_eq_of_forall_getD {first second : Option Int} {base : Int}
    (same : ∀ proficiency, first.getD (proficiency + base) = second.getD (proficiency + base)) :
    first = second := by
  cases first with
  | none =>
      cases second with
      | none => rfl
      | some given =>
          have impossible := same (given - base + 1)
          simp only [Option.getD_none, Option.getD_some] at impossible
          omega
  | some given =>
      cases second with
      | none =>
          have impossible := same (given - base + 1)
          simp only [Option.getD_none, Option.getD_some] at impossible
          omega
      | some other => exact congrArg some (same 0)

theorem AgreeOff.eq_innate (alike : AgreeOff [.innateSpellcasting] first second) :
    second = { first with innateSpellcasting := second.innateSpellcasting } := by
  apply ext_content
  intro field
  by_cases innate : field = .innateSpellcasting
  · subst innate
    rfl
  · rw [← alike field (by simpa using innate)]
    cases field <;> first | rfl | exact absurd rfl innate

theorem AgreeOff.modifier_eq (alike : AgreeOff [.innateSpellcasting] first second)
    (ability : Ability) : second.modifier ability = first.modifier ability := by
  rw [alike.eq_innate]
  rfl

theorem orElse_eq_iff {α : Type} (own : Option α) {first second : Option α} :
    (own <|> first) = (own <|> second) ↔ own.isSome = true ∨ first = second := by
  cases own <;> simp

/-- Innate spells have no other part in the texts than by the two numbers. -/
theorem AgreeOff.proseVariables_eq (alike : AgreeOff [.innateSpellcasting] first second)
    {proficiency : Int}
    (attack : first.spellAttackBonus proficiency = second.spellAttackBonus proficiency)
    (save : first.spellSaveDC proficiency = second.spellSaveDC proficiency) :
    first.proseVariables proficiency = second.proseVariables proficiency := by
  have numbers : first.numberVariables proficiency = second.numberVariables proficiency := by
    unfold numberVariables
    rw [attack, save, alike.eq_innate]
    rfl
  unfold proseVariables
  rw [numbers, alike.eq_innate]
  rfl

theorem AgreeOff.attackProfiles_eq (alike : AgreeOff [.innateSpellcasting] first second)
    {proficiency : Int}
    (attack : first.spellAttackBonus proficiency = second.spellAttackBonus proficiency)
    (save : first.spellSaveDC proficiency = second.spellSaveDC proficiency) :
    first.attackProfiles proficiency = second.attackProfiles proficiency := by
  have profile : first.attackProfile proficiency = second.attackProfile proficiency := by
    funext strike
    unfold attackProfile
    rw [attack, save, alike.eq_innate]
    rfl
  unfold attackProfiles
  rw [profile, alike.eq_innate]

/-- Of two creatures with the same class spells that differ in their innate spells alone, the spell
attack bonus and the difficulty are the same at every proficiency bonus exactly as far as they are
given for the class spells, or the same is given for the innate ones. Where they are the same, so
are the variables of the texts and the attacks, and where they are not, the texts show it. -/
theorem spellNumbers_agree_iff (first second : Creature) (casting : Spellcasting)
    (alike : AgreeOff [.innateSpellcasting] first second)
    (casts : first.spellcasting = some casting) :
    ((∀ proficiency, first.spellAttackBonus proficiency = second.spellAttackBonus proficiency) ↔
        casting.attackBonus.isSome = true ∨
          first.innateAttackBonus = second.innateAttackBonus) ∧
      ((∀ proficiency, first.spellSaveDC proficiency = second.spellSaveDC proficiency) ↔
        casting.saveDC.isSome = true ∨ first.innateSaveDC = second.innateSaveDC) ∧
      ∀ proficiency,
        (first.proseVariables proficiency = second.proseVariables proficiency ↔
          first.spellAttackBonus proficiency = second.spellAttackBonus proficiency ∧
            first.spellSaveDC proficiency = second.spellSaveDC proficiency) ∧
        (first.spellAttackBonus proficiency = second.spellAttackBonus proficiency →
          first.spellSaveDC proficiency = second.spellSaveDC proficiency →
          first.attackProfiles proficiency = second.attackProfiles proficiency) := by
  have casts' : second.spellcasting = some casting := by
    rw [alike.eq_innate]
    exact casts
  refine ⟨?attack, ?save, fun proficiency => ⟨⟨?shown, ?hidden⟩, alike.attackProfiles_eq⟩⟩
  case attack =>
    rw [← orElse_eq_iff casting.attackBonus]
    constructor
    · intro same
      refine @given_eq_of_forall_getD _ _ (first.modifier casting.ability) fun proficiency => ?_
      rw [← spellAttackBonus_caster casts, same, spellAttackBonus_caster casts',
        alike.modifier_eq]
    · intro given proficiency
      rw [spellAttackBonus_caster casts, spellAttackBonus_caster casts', given, alike.modifier_eq]
  case save =>
    rw [← orElse_eq_iff casting.saveDC]
    constructor
    · intro same
      have given : (casting.saveDC <|> first.innateSaveDC).map Int.ofNat =
          (casting.saveDC <|> second.innateSaveDC).map Int.ofNat := by
        refine @given_eq_of_forall_getD _ _ (8 + first.modifier casting.ability)
          fun proficiency => ?_
        rw [show proficiency + (8 + first.modifier casting.ability) =
            8 + proficiency + first.modifier casting.ability by omega,
          ← spellSaveDC_caster casts, same, spellSaveDC_caster casts', alike.modifier_eq]
      exact Option.map_injective Int.ofNat_injective given
    · intro given proficiency
      rw [spellSaveDC_caster casts, spellSaveDC_caster casts', given, alike.modifier_eq]
  case shown =>
    intro same
    have attack := (first.holdsOffense proficiency).spellAttack
    have save := first.lookup_difficulty proficiency
    rw [same, (second.holdsOffense proficiency).spellAttack] at attack
    rw [same, second.lookup_difficulty] at save
    simp only [Option.some.injEq, ProseValue.number.injEq, and_true] at attack save
    exact ⟨attack.symm, save.symm⟩
  case hidden =>
    rintro ⟨attack, save⟩
    exact alike.proseVariables_eq attack save

end Caster

theorem spellNumbers_agree_iff_wizard :
    let casting : Spellcasting :=
      { ability := .intelligence, level := ⟨1, by decide⟩, className := "wizard", attackBonus := some 5 }
    let plain : Creature := { spellcasting := some casting }
    let innate : Creature :=
      { plain with
        innateSpellcasting := some { ability := .charisma, attackBonus := some 9, saveDC := some 20 } }
    AgreeOff [.innateSpellcasting] plain innate ∧ plain.spellcasting = some casting ∧
      (∀ proficiency, plain.spellAttackBonus proficiency = innate.spellAttackBonus proficiency) ∧
      ¬∀ proficiency, plain.spellSaveDC proficiency = innate.spellSaveDC proficiency := by
  intro casting plain innate
  have alike : AgreeOff [.innateSpellcasting] plain innate := by
    intro field other
    cases field <;> first | rfl | exact absurd (by decide) other
  obtain ⟨attack, save, _⟩ := spellNumbers_agree_iff plain innate casting alike rfl
  refine ⟨alike, rfl, attack.mpr (.inl rfl), fun same => ?_⟩
  rcases save.mp same with impossible | impossible <;> cases impossible

/-- Innate spells change the numbers of a wizard for whom none are given. -/
theorem innateSpells_change_numbers :
    let plain : Creature :=
      { spellcasting :=
          some { ability := .intelligence, level := ⟨1, by decide⟩, className := "wizard" } }
    let innate : Creature :=
      { plain with
        innateSpellcasting := some { ability := .charisma, attackBonus := some 9, saveDC := some 20 } }
    AgreeOff [.innateSpellcasting] plain innate ∧
      plain.spellAttackBonus 2 = 2 ∧ innate.spellAttackBonus 2 = 9 ∧
      plain.spellSaveDC 2 = 10 ∧ innate.spellSaveDC 2 = 20 := by
  intro plain innate
  refine ⟨?_, by decide, by decide, by decide, by decide⟩
  intro field other
  cases field <;> first | rfl | exact absurd (by decide) other

end Bestiary.Creature
