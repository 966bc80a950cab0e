import Bestiary.Proofs.Combat.Wording
import Bestiary.Proofs.Document.Entries
import Bestiary.Proofs.Prose.Shown

/-!
The damage that a text shows, and the damage that the rating counts.

The text of an effect shows its damage as an expression, which is read term by
term and added up; the rating adds the averages up directly. Under variables
that hold the modifiers both come to the same, as long as every number can be
written. The rating counts damage below zero as none, which the text does not.
-/

namespace Bestiary

open Prose Number

variable {scope : Variables} {breaks : Bool}

/-! ### What damage starts from -/

namespace DamageBase

def text : DamageBase → List Char
  | dice rolled => rolled.text
  | amount flat => integerText flat

def tokens : DamageBase → List Token
  | dice rolled => rolled.tokens
  | amount flat => integerTokens flat

def isWritable : DamageBase → Bool
  | dice rolled => rolled.isWritable
  | amount flat => Number.isWritable flat

def IsShowable : DamageBase → Prop
  | dice rolled => rolled.IsReadable ∧ rolled.IsUnscaled
  | amount _ => True

theorem scans_text {base : DamageBase} (showable : base.IsShowable) :
    Scans breaks base.text base.tokens := by
  cases base with
  | dice rolled => exact Dice.scans_text showable.1 showable.2
  | amount flat => exact scans_integer flat

theorem amounts_text {base : DamageBase} (showable : base.IsShowable) :
    Amounts scope .sum base.tokens base.average := by
  cases base with
  | dice rolled => exact Dice.amounts_text showable.1.some showable.2
  | amount flat => exact (Amounts.integer flat).product.sum

theorem legible_tokens {base : DamageBase} (showable : base.IsShowable) :
    AreLegible base.tokens ↔ base.isWritable = true := by
  cases base with
  | dice rolled => exact Dice.legible_tokens.trans (Dice.isWritable_iff showable.1).symm
  | amount flat => exact legible_integer

end DamageBase

theorem Bonus.legible_added (usual : String) {bonus : Bonus}
    (writable : ∀ amount, bonus = .fixed amount → Number.isWritable amount = true) :
    AreLegible (bonus.addedTokens usual) := by
  unfold addedTokens
  split
  · next amount =>
      split
      · exact legible_nil
      · exact (legible_integer.mpr (writable amount rfl)).cons (by simp)
  · split
    · exact (legible_nil.cons (by simp)).cons (by simp)
    · exact legible_nil

/-! ### Modifiers as variables -/

def modifierVariables (modifiers : List (String × Int)) : Variables :=
  modifiers.map fun (name, modifier) => (name, .number modifier false)

theorem lookup_modifierVariables (modifiers : List (String × Int)) (name : String) :
    (modifierVariables modifiers).lookup name =
      (modifiers.lookup name).map fun modifier => ProseValue.number modifier false := by
  induction modifiers with
  | nil => rfl
  | cons entry others ih =>
      obtain ⟨known, modifier⟩ := entry
      rw [modifierVariables, List.map_cons, List.lookup_cons, List.lookup_cons]
      cases name == known
      · exact ih
      · rfl

theorem holds_modifierVariables {modifiers : List (String × Int)}
    (given : ∀ name ∈ modifierNames, (modifiers.lookup name).isSome) :
    HoldsModifiers (modifierVariables modifiers) modifiers := by
  intro name known
  obtain ⟨modifier, found⟩ := Option.isSome_iff_exists.mp (given name known)
  rw [lookup_modifierVariables, found]
  rfl

def modifierBindings (modifiers : List (String × Int)) : List (String × Binding) :=
  (modifierVariables modifiers).map fun (name, content) => (name, .value content)

/-! ### The damage of an effect -/

namespace Effect

def opening : Effect → String
  | save rolled =>
      let difficulty :=
        match rolled.dc with
        | some dc => showInt dc
        | none => expressionMarkup "spell_dc"
      saveOpening rolled ++ difficulty ++ " " ++ rolled.ability.fullName ++ " saving throw, taking "
  | damage _ | fixedDamage _ | special _ | alternative _ => ""

def damageMarkup (base : DamageBase) (bonus : Bonus) (usual : String) : String :=
  expressionMarkup (String.ofList (base.text ++ bonus.addedText usual))

variable {effect : Effect} {base : DamageBase} {bonus : Bonus}

theorem describe_split (part : effect.damagePart? = some (base, bonus)) (usual : String) :
    ∃ ending, effect.describe usual = effect.opening ++ damageMarkup base bonus usual ++ ending := by
  have told (rolled : Dice) (bonus : Bonus) (damageType : DamageType) :
      damageText rolled.render usual bonus damageType =
        damageMarkup (.dice rolled) bonus usual ++ (" " ++ damageType.word ++ " damage") := by
    simp only [damageText, damageMarkup, Bonus.addTo_eq, Dice.render, String.toList_ofList,
      DamageBase.text, String.append_assoc]
  cases effect with
  | damage rolled =>
      cases part
      exact ⟨_, (told _ _ _).trans (by rw [opening, String.empty_append])⟩
  | fixedDamage flat =>
      cases part
      refine ⟨" " ++ flat.damageType.word ++ " damage", ?_⟩
      simp only [describe, damageText, damageMarkup, Bonus.addTo_eq, showInt, String.toList_ofList,
        DamageBase.text, opening, String.empty_append, String.append_assoc]
  | special text => cases part
  | alternative rolled =>
      cases part
      rw [describe, told, opening, String.empty_append]
      simp only [String.append_assoc]
      exact ⟨_, rfl⟩
  | save rolled =>
      cases part
      rw [describe, saveText, told, opening, saveOpening]
      simp only [String.append_assoc]
      exact ⟨_, rfl⟩

theorem base_showable (part : effect.damagePart? = some (base, bonus))
    (readable : ∀ dice ∈ effect.dice, dice.IsReadable) (unscaled : effect.IsUnscaled) :
    base.IsShowable := by
  have first (dice : Dice) (isDice : dice ∈ effect.dice) :
      dice.IsReadable ∧ dice.IsUnscaled :=
    ⟨readable dice isDice, unscaled dice isDice⟩
  cases effect <;> cases part
  case damage rolled => exact first rolled.dice (List.mem_cons_self ..)
  case fixedDamage => trivial
  case alternative rolled => exact first rolled.dice (List.mem_cons_self ..)
  case save rolled => exact first rolled.dice (List.mem_cons_self ..)

theorem base_writable (part : effect.damagePart? = some (base, bonus))
    (writable : effect.isWritable = true) : base.isWritable = true := by
  cases effect <;> cases part
  case damage => exact writable
  case fixedDamage => exact writable
  case alternative => exact (Bool.and_eq_true_iff.mp writable).1
  case save => exact writable

variable {usual : String}

theorem damage_shown {modifiers : List (String × Int)} (showable : base.IsShowable)
    (writable : base.isWritable = true)
    (fixed : ∀ amount, bonus = .fixed amount → Number.isWritable amount = true)
    (member : usual ∈ modifierNames)
    (given : ∀ name ∈ modifierNames, (modifiers.lookup name).isSome) (manner : Manner) :
    ∃ stream place tree value,
      TokenStream.ofText (.prose manner.breaks) (damageMarkup base bonus usual) = .ok stream ∧
      Spells stream.tokens [.shown place tree] ∧
      tree.evaluate (modifierVariables modifiers) = .ok value ∧
      value.average? = some (base.average + bonus.damageValue modifiers usual) ∧
      interpolate manner (modifierBindings modifiers) (damageMarkup base bonus usual) =
        (value.written.mapError (·.at place)).map fun content =>
          (Machine.initial.write manner.capitalize true content).endBlock.blocks := by
  have scans : Scans manner.breaks (base.text ++ bonus.addedText usual)
      (base.tokens ++ bonus.addedTokens usual) :=
    (DamageBase.scans_text showable).append (bonus.scans_added member)
      (bonus.follows_added usual).parts
  have legible : AreLegible (base.tokens ++ bonus.addedTokens usual) :=
    ((DamageBase.legible_tokens showable).mpr writable).append (Bonus.legible_added usual fixed)
  obtain ⟨value, isAverage, denotes⟩ :=
    bonus.amounts_added (holds_modifierVariables given) member (DamageBase.amounts_text showable)
  obtain ⟨stream, place, tree, read, spells, evaluated, interpolated⟩ :=
    interpolate_shown (prepareVariables_values _) (scans.readsAs legible) denotes.choice
  exact ⟨stream, place, tree, value, read, spells, evaluated, isAverage, interpolated⟩

theorem damage_refused (bindings : List (String × Binding)) (showable : base.IsShowable)
    (long : base.isWritable = false) (manner : Manner) :
    ∃ error, interpolate manner bindings (damageMarkup base bonus usual) = .error error ∧
      error.fault.IsOverlong := by
  have illegible : ¬AreLegible base.tokens := by
    rw [DamageBase.legible_tokens showable, long]
    exact Bool.false_ne_true
  have refused : IsRefused manner.breaks base.text :=
    (DamageBase.scans_text showable).refused illegible
  exact interpolate_refused bindings (refused.before (bonus.follows_added usual).parts)

/-- The damage that the text of an effect shows first has the average that the rating counts before
it takes negative damage for none, if its dice have no factors and its numbers can be written. -/
theorem describe_shows_damage {modifiers : List (String × Int)}
    (part : effect.damagePart? = some (base, bonus))
    (parsed : ∀ dice ∈ effect.dice, ∃ text, Dice.ofText text = .ok dice)
    (unscaled : effect.IsUnscaled) (writable : effect.isWritable = true)
    (fixed : ∀ amount, bonus = .fixed amount → Number.isWritable amount = true)
    (member : usual ∈ modifierNames)
    (given : ∀ name ∈ modifierNames, (modifiers.lookup name).isSome) (manner : Manner) :
    let expression := damageMarkup base bonus usual
    let average := base.average + bonus.damageValue modifiers usual
    effect.averageDamage modifiers usual = Number.larger average 0 ∧
      (∃ ending, effect.describe usual = effect.opening ++ expression ++ ending) ∧
      ∃ stream place tree value,
        TokenStream.ofText (.prose manner.breaks) expression = .ok stream ∧
        Spells stream.tokens [.shown place tree] ∧
        tree.evaluate (modifierVariables modifiers) = .ok value ∧
        value.average? = some average ∧
        interpolate manner (modifierBindings modifiers) expression =
          (value.written.mapError (·.at place)).map fun content =>
            (Machine.initial.write manner.capitalize true content).endBlock.blocks := by
  have readable : ∀ dice ∈ effect.dice, dice.IsReadable := by
    intro dice isDice
    obtain ⟨text, read⟩ := parsed dice isDice
    exact Dice.ofText_readable read
  refine ⟨?counted, describe_split part usual, ?shown⟩
  case counted =>
    rw [averageDamage, part]
  case shown =>
    exact damage_shown (base_showable part readable unscaled) (base_writable part writable) fixed
      member given manner

theorem describe_shows_damage_penalty :
    let dice : Dice := ⟨[⟨2, .d6, 1⟩, ⟨1, .d4, -1⟩], 3⟩
    let effect : Effect := .damage { dice, damageType := .bludgeoning }
    let modifiers := modifierNames.map fun name => (name, (-2 : Int))
    (∀ dice ∈ effect.dice, ∃ text, Dice.ofText text = .ok dice) ∧ effect.IsUnscaled ∧
      effect.isWritable = true ∧
      effect.describe "str" = "$\x7b2d6 - 1d4 + 3 + str\x7d bludgeoning damage" ∧
      effect.averageDamage modifiers "str" = 11 / 2 ∧
      ∃ stream place tree value,
        TokenStream.ofText (.prose false) "$\x7b2d6 - 1d4 + 3 + str\x7d" = .ok stream ∧
        Spells stream.tokens [.shown place tree] ∧
        tree.evaluate (modifierVariables modifiers) = .ok value ∧
        value.average? = some (11 / 2) := by
  intro dice effect modifiers
  have parsed : ∀ dice ∈ effect.dice, ∃ text, Dice.ofText text = .ok dice :=
    List.forall_mem_singleton.mpr ⟨"2d6 - 1d4 + 3", eq_ok_of_toOption (by decide +kernel)⟩
  have unscaled : effect.IsUnscaled :=
    List.forall_mem_singleton.mpr
      (List.forall_mem_cons.mpr ⟨Or.inl rfl, List.forall_mem_singleton.mpr (Or.inr rfl)⟩)
  have writable : effect.isWritable = true := by
    obtain ⟨text, read⟩ := parsed dice (List.mem_singleton_self _)
    exact (Dice.isWritable_iff (Dice.ofText_readable read)).mpr (isWritable_of_digit (by decide))
  have given : ∀ name ∈ modifierNames, (modifiers.lookup name).isSome := by decide
  have fixed : ∀ amount, Bonus.modifier .usual = .fixed amount →
      Number.isWritable amount = true := fun _ => nofun
  have member : "str" ∈ modifierNames := by decide
  have written : damageMarkup (.dice dice) (.modifier .usual) "str" =
      "$\x7b2d6 - 1d4 + 3 + str\x7d" := by decide +kernel
  have value : (DamageBase.dice dice).average +
      ((Bonus.modifier .usual).damageValue modifiers "str" : Rat) = 11 / 2 := by decide +kernel
  have notNegative : Number.larger (11 / 2) 0 = 11 / 2 := by decide +kernel
  obtain ⟨counted, _, stream, place, tree, shown, read, spells, evaluated, average, _⟩ :=
    describe_shows_damage rfl parsed unscaled writable fixed member given ⟨false, false⟩
  rw [value] at counted average
  rw [written] at read
  exact ⟨parsed, unscaled, writable, by decide +kernel, counted.trans notNegative, stream, place,
    tree, shown, read, spells, evaluated, average⟩

/-- Two constants that can be written add up to one that the text cannot show: the expression for
damage of such dice is not read. -/
theorem describe_hides_long_damage :
    let longest : Int := writingBound - 1
    let text := (Dice.single 1 .d6 longest).render ++ " + " ++ showInt longest
    ∃ dice, Dice.ofText text = .ok dice ∧ dice.IsUnscaled ∧
      let effect : Effect := .damage { dice, damageType := .bludgeoning }
      let expression := damageMarkup (.dice dice) (.modifier .usual) "str"
      effect.isWritable = false ∧
      (∃ ending, effect.describe "str" = effect.opening ++ expression ++ ending) ∧
      ∀ bindings manner, ∃ error,
        interpolate manner bindings expression = .error error ∧ error.fault.IsOverlong := by
  intro longest text
  have isLongest : longest + 1 = writingBound := by omega
  -- Only this equation is needed: the number itself is too large to be computed with.
  clear_value longest
  obtain ⟨read, unwritable⟩ := Dice.ofText_doubled isLongest
  have readable := Dice.ofText_readable read
  have unscaled := Dice.single_unscaled 1 .d6 (longest + longest)
  have long : (Dice.single 1 .d6 (longest + longest)).isWritable = false := by
    refine Bool.eq_false_iff.mpr fun writable => ?_
    cases unwritable.symm.trans ((Dice.isWritable_iff readable).mp writable)
  have showable : (DamageBase.dice (Dice.single 1 .d6 (longest + longest))).IsShowable :=
    ⟨readable, unscaled⟩
  exact ⟨_, read, unscaled, long, describe_split rfl "str",
    fun bindings manner => damage_refused bindings showable long manner⟩

end Effect

end Bestiary
