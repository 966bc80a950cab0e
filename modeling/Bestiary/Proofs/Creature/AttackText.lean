import Bestiary.Creature.Derivation
import Bestiary.Proofs.Combat.Wording
import Bestiary.Proofs.Document.Entries
import Bestiary.Proofs.Prose.Shown

/-!
The generated texts of attacks under the variables of the creature that makes them.

The variables have different names, so each holds what it was made for: the
modifiers, the proficiency bonus and the numbers for spells. The bonus to hit
that a text shows is the one that the rating is computed from. The text itself
is interpolated, unless dice that were given have a factor: dice notation has
factors, expressions have not.
-/

namespace Bestiary

open Prose Number

namespace Creature

/-! ### Variables by their names -/

def bindings (creature : Creature) (proficiency : Int) : List (String × Binding) :=
  (creature.proseVariables proficiency).map fun (name, content) => (name, .value content)

theorem prepareVariables_bindings (creature : Creature) (proficiency : Int) :
    prepareVariables (creature.bindings proficiency) =
      .ok (creature.proseVariables proficiency) :=
  prepareVariables_values _

def variableNames : List String :=
  keysOf (Creature.proseVariables {} 0)

theorem keysOf_proseVariables (creature : Creature) (proficiency : Int) :
    keysOf (creature.proseVariables proficiency) = variableNames := by
  rfl

theorem variableNames_nodup : variableNames.Nodup := by
  decide

theorem keysOf_modifiers (creature : Creature) : keysOf creature.modifiers = modifierNames :=
  rfl

theorem lookup_number {creature : Creature} {proficiency : Int} {name : String} {number : Int}
    (member : (name, number) ∈ creature.numberVariables proficiency) :
    (creature.proseVariables proficiency).lookup name = some (.number number false) := by
  refine lookup_key ?_ (List.mem_append_right _ (List.mem_map_of_mem member))
  rw [keysOf_proseVariables]
  exact variableNames_nodup

theorem holdsModifiers (creature : Creature) (proficiency : Int) :
    HoldsModifiers (creature.proseVariables proficiency) creature.modifiers := by
  intro name known
  rw [← creature.keysOf_modifiers] at known
  obtain ⟨⟨_, modifier⟩, member, rfl⟩ := List.mem_map.mp known
  have distinct : (keysOf creature.modifiers).Nodup := by
    rw [keysOf_modifiers]
    decide
  rw [lookup_number (List.mem_append_right _ member), lookup_key distinct member]
  rfl

theorem holdsOffense (creature : Creature) (proficiency : Int) :
    HoldsOffense (creature.proseVariables proficiency) creature.modifiers proficiency
      (creature.spellAttackBonus proficiency) where
  modifiers := creature.holdsModifiers proficiency
  proficiency := lookup_number (by simp [numberVariables])
  spellAttack := lookup_number (by simp [numberVariables])

theorem lookup_difficulty (creature : Creature) (proficiency : Int) :
    (creature.proseVariables proficiency).lookup "spell_dc" =
      some (.number (creature.spellSaveDC proficiency) false) :=
  lookup_number (by simp [numberVariables])

/-! ### The bonus to hit -/

/-- The expression for the bonus to hit has the value that the rating is computed from, and is
interpolated to it if it can be written. -/
theorem toHit_shown (creature : Creature) (proficiency : Int) (attack : Attack)
    (manner : Manner)
    (bonus : ∀ amount, attack.bonus = .fixed amount → Number.isWritable amount = true)
    (magic : Number.isWritable attack.magic = true) :
    let expression := expressionMarkup ("+" ++ attack.toHitExpression)
    let toHit := attack.toHit creature.modifiers proficiency (creature.spellAttackBonus proficiency)
    ∃ stream place tree,
      TokenStream.ofText (.prose manner.breaks) expression = .ok stream ∧
      Spells stream.tokens [.shown place tree] ∧
      tree.evaluate (creature.proseVariables proficiency) = .ok (.number toHit true) ∧
      interpolate manner (creature.bindings proficiency) expression =
        if Number.isWritable toHit then .ok (paragraphOf (showSigned toHit))
        else .error ⟨.unwritableNumber, some place⟩ := by
  intro expression toHit
  have reads : ReadsAs manner.breaks ("+" ++ attack.toHitExpression).toList attack.toHitTokens :=
    attack.scans_toHit.readsAs (attack.legible_toHit bonus magic)
  obtain ⟨stream, place, tree, read, spells, evaluated, interpolated⟩ :=
    interpolate_shown (creature.prepareVariables_bindings proficiency) reads
      (attack.denotes_toHit (creature.holdsOffense proficiency))
  rw [String.ofList_toList] at read interpolated
  refine ⟨stream, place, tree, read, spells, evaluated, ?_⟩
  rw [interpolated, ProseValue.written, ProseValue.isWritable]
  split
  · exact congrArg Except.ok (blocks_showSigned manner.capitalize toHit)
  · rfl

/-- The bonus to hit that the text of an attack shows is the one that the rating is computed from,
with its sign, if its numbers can be written. -/
theorem describe_shows_toHit (creature : Creature) (proficiency : Int) (attack : Attack)
    (manner : Manner)
    (bonus : ∀ amount, attack.bonus = .fixed amount → Number.isWritable amount = true)
    (magic : Number.isWritable attack.magic = true) :
    let expression := expressionMarkup ("+" ++ attack.toHitExpression)
    let toHit := attack.toHit creature.modifiers proficiency (creature.spellAttackBonus proficiency)
    attack.describe = structureMarkup .italic attack.label ++ " " ++ expression ++ " to hit, " ++
        attack.distanceText ++ "." ∧
      ∃ stream place tree,
        TokenStream.ofText (.prose manner.breaks) expression = .ok stream ∧
        Spells stream.tokens [.shown place tree] ∧
        tree.evaluate (creature.proseVariables proficiency) = .ok (.number toHit true) ∧
        interpolate manner (creature.bindings proficiency) expression =
          if Number.isWritable toHit then .ok (paragraphOf (showSigned toHit))
          else .error ⟨.unwritableNumber, some place⟩ :=
  ⟨attack.describe_eq, creature.toHit_shown proficiency attack manner bonus magic⟩

theorem describe_shows_toHit_penalty :
    let attack : Attack := { bonus := .fixed (-3), magic := 1, range := some 20 }
    (∀ amount, attack.bonus = .fixed amount → Number.isWritable amount = true) ∧
      Number.isWritable attack.magic = true ∧
      "+" ++ attack.toHitExpression = "+-3 + 1" ∧
      interpolate creatureManner (bindings {} 2) (expressionMarkup ("+" ++ attack.toHitExpression)) =
        .ok (paragraphOf "-2") := by
  intro attack
  have bonus : ∀ amount, attack.bonus = .fixed amount → Number.isWritable amount = true := by
    intro amount isFixed
    cases isFixed
    exact isWritable_of_digit (by decide)
  have magic : Number.isWritable attack.magic = true := isWritable_of_digit (by decide)
  obtain ⟨_, _, _, _, _, _, _, interpolated⟩ :=
    describe_shows_toHit {} 2 attack creatureManner bonus magic
  have value : attack.toHit (modifiers {}) 2 (spellAttackBonus {} 2) = -2 := rfl
  have shown : showSigned (-2) = "-2" := by decide
  rw [value, if_pos (isWritable_of_digit (by decide)), shown] at interpolated
  exact ⟨bonus, magic, by decide, interpolated⟩

/-- Two numbers that can be written add up to a bonus to hit that cannot be shown. -/
theorem describe_hides_long_toHit :
    let longest : Int := writingBound - 1
    let attack : Attack := { bonus := .fixed longest, magic := longest }
    attack.toHit (modifiers {}) 2 (spellAttackBonus {} 2) = longest + longest ∧
      ∃ place, interpolate creatureManner (bindings {} 2)
        (expressionMarkup ("+" ++ attack.toHitExpression)) =
          .error ⟨.unwritableNumber, some place⟩ := by
  intro longest attack
  have isLongest : longest + 1 = writingBound := by omega
  -- Only this equation is needed: the number itself is too large to be computed with.
  clear_value longest
  obtain ⟨writable, unwritable⟩ := isWritable_longest isLongest
  have bonus : ∀ amount, attack.bonus = .fixed amount → Number.isWritable amount = true := by
    intro amount isFixed
    cases isFixed
    exact writable
  obtain ⟨_, place, _, _, _, _, interpolated⟩ :=
    toHit_shown {} 2 attack creatureManner bonus writable
  refine ⟨rfl, place, interpolated.trans (if_neg ?_)⟩
  rw [show attack.toHit (modifiers {}) 2 (spellAttackBonus {} 2) = longest + longest from rfl,
    unwritable]
  exact Bool.false_ne_true

/-! ### The whole text -/

/-- The generated text of an attack is interpolated if no dice that were given have a factor, unless
one of its numbers is too long; otherwise it is not interpolated, for the sign before a factor has
no meaning in an expression. -/
theorem attackText_interpolates (creature : Creature) {action : Action} {strike : Strike}
    (isStrike : action.strike? = some strike) (read : action.IsRead)
    (plain : action.HasPlainTexts) (proficiency : Int) (manner : Manner) :
    let outcome := interpolate manner (creature.bindings proficiency)
      (strike.describe creature.size)
    (action.IsUnscaled → FailsWithin (fun error => error.fault.IsOverlong) outcome) ∧
      (¬action.IsUnscaled → ∃ error, outcome = .error error ∧
        ((∃ sign, IsScale sign ∧ error.fault = .unexpectedCharacter sign) ∨
          error.fault.IsOverlong)) := by
  have sound : SoundIf manner.breaks (creature.proseVariables proficiency) action.IsUnscaled
      (strike.clauses creature.size) :=
    Action.clauses_soundIf (creature.holdsOffense proficiency)
      (creature.lookup_difficulty proficiency) isStrike read plain creature.size
  have text : String.ofList (clauseText (strike.clauses creature.size)) =
      strike.describe creature.size := by
    rw [Strike.clauses_text, String.ofList_toList]
  rw [← text]
  exact sound.interpolates (creature.prepareVariables_bindings proficiency)

theorem attackText_interpolates_rider :
    let effect : Effect :=
      .damage { dice := ⟨[⟨2, .d6, 1⟩, ⟨1, .d4, -1⟩], 3⟩, damageType := .bludgeoning }
    let strike : Strike :=
      { armament := .natural { reach := some 5 } effect
        riders := [⟨.and, .special "the target is grappled"⟩] }
    let action : Action := { name := "Slam", form := .strike strike }
    let outcome := interpolate creatureManner (bindings {} 2) (strike.describe .medium)
    action.strike? = some strike ∧ action.IsRead ∧ action.HasPlainTexts ∧ action.IsUnscaled ∧
      FailsWithin (fun error => error.fault.IsOverlong) outcome ∧
      ∃ blocks, outcome = .ok blocks := by
  intro effect strike action outcome
  have dice : Dice.ofText "2d6 - 1d4 + 3" = .ok ⟨[⟨2, .d6, 1⟩, ⟨1, .d4, -1⟩], 3⟩ :=
    eq_ok_of_toOption (by decide +kernel)
  have read : action.IsRead := by
    refine ⟨fun given isGiven => ?_, List.forall_mem_singleton.mpr ?_⟩
    · cases isGiven
      exact ⟨_, Effect.read_damage dice⟩
    · exact ⟨_, Rider.read_toValue ⟨List.forall_mem_nil _, fun _ => nofun⟩ (List.forall_mem_nil _)⟩
  have plain : action.HasPlainTexts := by
    refine ⟨fun given isGiven => ?_, fun given isGiven => ?_, ?_⟩
    · cases isGiven
      decide
    · cases isGiven
      exact List.forall_mem_nil _
    · have text : IsPlain "the target is grappled".toList := by decide
      exact List.forall_mem_singleton.mpr (List.forall_mem_singleton.mpr text)
  have unscaled : action.IsUnscaled := by
    refine ⟨fun given isGiven => ?_, List.forall_mem_singleton.mpr (List.forall_mem_nil _)⟩
    cases isGiven
    exact List.forall_mem_singleton.mpr
      (List.forall_mem_cons.mpr ⟨Or.inl rfl, List.forall_mem_singleton.mpr (Or.inr rfl)⟩)
  obtain ⟨interpolates, _⟩ := attackText_interpolates {} rfl read plain 2 creatureManner
  exact ⟨rfl, read, plain, unscaled, interpolates unscaled,
    exists_ok_of_toOption (by decide +kernel)⟩

/-- Dice notation with a factor, which is accepted and spoils the text. -/
theorem attackText_spoiled_by_factor :
    let effect : Effect := .damage { dice := ⟨[⟨1, .d6, 2⟩], 0⟩, damageType := .bludgeoning }
    let strike : Strike := { armament := .natural {} effect }
    let action : Action := { name := "Slam", form := .strike strike }
    action.IsRead ∧ action.HasPlainTexts ∧
      ∃ error,
        interpolate creatureManner (bindings { name := some "Rocker" } 2)
          (strike.describe .medium) = .error error ∧
        error.fault = .unexpectedCharacter '×' := by
  intro effect strike action
  have dice : Dice.ofText "(1d6 × 2)" = .ok ⟨[⟨1, .d6, 2⟩], 0⟩ :=
    eq_ok_of_toOption (by decide +kernel)
  obtain ⟨error, failed, isFault⟩ : ∃ error,
      interpolate creatureManner (bindings { name := some "Rocker" } 2)
        (strike.describe .medium) = .error error ∧
      decide (error.fault = .unexpectedCharacter '×') = true :=
    exists_error_of_failsWith (by decide +kernel)
  refine ⟨⟨fun given isGiven => ?_, List.forall_mem_nil _⟩,
    ⟨fun given isGiven => ?_, fun given isGiven => ?_, List.forall_mem_nil _⟩,
    error, failed, of_decide_eq_true isFault⟩
  · cases isGiven
    exact ⟨_, Effect.read_damage dice⟩
  · cases isGiven
    decide
  · cases isGiven
    exact List.forall_mem_nil _

end Creature

end Bestiary
