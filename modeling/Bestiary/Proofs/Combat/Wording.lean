import Bestiary.Creature.Action
import Bestiary.Proofs.Combat.Bonus
import Bestiary.Proofs.Combat.Reading

/-!
The clauses of which the generated text of an attack is made.

Each clause is sound under variables that hold what attacks refer to, but for
damage whose dice have a factor. The free texts among the clauses have to be
plain.
-/

namespace Bestiary

open Prose Number

variable {scope : Variables} {breaks : Bool}

/-! ### Numbers and words -/

theorem plain_naturalText (number : Nat) : IsPlain (naturalText number) := by
  intro character member
  have plain := naturalText_plain number character member
  refine ⟨?_, ?_, ?_⟩ <;> rintro rfl <;> exact absurd plain (by decide)

theorem plain_integerText (number : Int) : IsPlain (integerText number) := by
  unfold integerText
  split
  · exact List.forall_mem_cons.mpr ⟨by decide, plain_naturalText _⟩
  · exact plain_naturalText _

theorem plain_showInt (number : Int) : IsPlain (showInt number).toList := by
  rw [showInt, String.toList_ofList]
  exact plain_integerText number

theorem DamageType.word_plain (damageType : DamageType) : IsPlain damageType.word.toList := by
  cases damageType <;> decide

theorem Ability.fullName_plain (ability : Ability) : IsPlain ability.fullName.toList := by
  cases ability <;> decide

theorem RiderJoin.conjunction_plain (join : RiderJoin) : IsPlain join.conjunction.toList := by
  cases join <;> decide

/-! ### The attack roll -/

namespace Attack

def label (attack : Attack) : String :=
  let kind :=
    match attack.kind with
    | some kind => kind.label ++ " "
    | none => ""
  attack.modeText ++ kind ++ "Attack:"

def clauses (attack : Attack) : List Clause :=
  [.emphasis attack.label.toList, .words " ".toList, .shown ("+" ++ attack.toHitExpression).toList,
    .words (" to hit, " ++ attack.distanceText ++ ".").toList]

theorem describe_eq (attack : Attack) : attack.describe =
    structureMarkup .italic attack.label ++ " " ++
      expressionMarkup ("+" ++ attack.toHitExpression) ++ " to hit, " ++ attack.distanceText ++ "." :=
  rfl

theorem clauses_text (attack : Attack) : clauseText attack.clauses = attack.describe.toList := by
  rw [describe_eq]
  simp only [clauses, clauseText_cons, clauseText_nil, text_words, text_shown_toList,
    text_emphasis_toList]
  simp only [String.toList_append, List.append_assoc, List.append_nil]

theorem label_plain (attack : Attack) :
    IsPlain attack.label.toList ∧ '\n' ∉ attack.label.toList := by
  unfold label modeText
  rcases attack.kind with _ | kind
  · cases attack.isMelee <;> cases attack.isRanged <;> decide
  · cases kind <;> cases attack.isMelee <;> cases attack.isRanged <;> decide

theorem feet_plain (distance : Nat) : IsPlain (feet distance).toList :=
  (plain_showInt distance).join (by decide)

theorem rangeText_plain (range : Nat) (longRange : Option Nat) :
    IsPlain (rangeText range longRange).toList := by
  have named : IsPlain "range ".toList := by decide
  cases longRange with
  | none => exact named.join (feet_plain range)
  | some far => exact ((named.join (plain_showInt range)).join (by decide)).join (feet_plain far)

theorem distanceText_plain {attack : Attack} (target : IsPlain attack.target.toList) :
    IsPlain attack.distanceText.toList := by
  have reaching (distance : Nat) : IsPlain ("reach " ++ feet distance).toList :=
    IsPlain.join (by decide) (feet_plain distance)
  have comma : IsPlain ", ".toList := by decide
  unfold distanceText
  split
  · exact ((((reaching _).join (by decide)).join (rangeText_plain _ _)).join comma).join target
  · exact ((reaching _).join comma).join target
  · exact ((rangeText_plain _ _).join comma).join target
  · exact target

theorem clauses_sound {modifiers : List (String × Int)} {proficiency spellAttack : Int}
    (holds : HoldsOffense scope modifiers proficiency spellAttack) {attack : Attack}
    (target : IsPlain attack.target.toList) :
    ∀ clause ∈ attack.clauses, clause.IsSound breaks scope := by
  have toHit : (Clause.shown ("+" ++ attack.toHitExpression).toList).IsSound breaks scope :=
    ⟨_, _, attack.scans_toHit, attack.denotes_toHit holds⟩
  have distance : IsPlain (" to hit, " ++ attack.distanceText ++ ".").toList :=
    IsPlain.join (IsPlain.join (by decide) (distanceText_plain target)) (by decide)
  simp only [clauses, List.forall_mem_cons]
  exact ⟨attack.label_plain, show IsPlain " ".toList by decide, toHit, distance,
    List.forall_mem_nil _⟩

end Attack

/-! ### Damage -/

def damageClauses (base : List Char) (usual : String) (bonus : Bonus) (damageType : DamageType) :
    List Clause :=
  [.shown (base ++ bonus.addedText usual), .words (" " ++ damageType.word ++ " damage").toList]

theorem damageClauses_text (base usual : String) (bonus : Bonus) (damageType : DamageType) :
    clauseText (damageClauses base.toList usual bonus damageType) =
      (Effect.damageText base usual bonus damageType).toList := by
  simp [clauseText, damageClauses, Clause.text, Effect.damageText, Bonus.addTo_eq]

theorem damageWords_plain (damageType : DamageType) :
    IsPlain (" " ++ damageType.word ++ " damage").toList :=
  IsPlain.join (IsPlain.join (by decide) damageType.word_plain) (by decide)

section Damage

variable {modifiers : List (String × Int)} {usual : String}

theorem damageClauses_sound (holds : HoldsModifiers scope modifiers)
    (member : usual ∈ modifierNames) {base : List Char} {tokens : List Token} {average : Rat}
    (scans : Scans breaks base tokens) (amounts : Amounts scope .sum tokens average)
    (bonus : Bonus) (damageType : DamageType) :
    ∀ clause ∈ damageClauses base usual bonus damageType, clause.IsSound breaks scope := by
  obtain ⟨value, _, denotes⟩ := bonus.amounts_added holds member amounts
  have shown : Scans breaks (base ++ bonus.addedText usual) (tokens ++ bonus.addedTokens usual) :=
    scans.append (bonus.scans_added member) (bonus.follows_added usual).parts
  simp only [damageClauses, List.forall_mem_cons]
  exact ⟨⟨_, value, shown, denotes.choice⟩, damageWords_plain damageType, List.forall_mem_nil _⟩

theorem damageClauses_soundIf (holds : HoldsModifiers scope modifiers)
    (member : usual ∈ modifierNames) {dice : Dice} (readable : dice.IsReadable) (bonus : Bonus)
    (damageType : DamageType) :
    SoundIf breaks scope dice.IsUnscaled (damageClauses dice.text usual bonus damageType) := by
  by_cases unscaled : dice.IsUnscaled
  · exact .always unscaled (damageClauses_sound holds member (Dice.scans_text readable unscaled)
      (Dice.amounts_text readable.some unscaled) bonus damageType)
  · have scaled : (Clause.shown (dice.text ++ bonus.addedText usual)).IsScaled breaks :=
      (Dice.text_scaled readable unscaled).before _
    refine ⟨?_, fun holds => absurd holds unscaled, fun _ => ⟨_, List.mem_cons_self .., scaled⟩⟩
    simp only [damageClauses, List.forall_mem_cons]
    exact ⟨Or.inr scaled, Or.inl (damageWords_plain damageType), List.forall_mem_nil _⟩

end Damage

/-! ### Effects and riders -/

namespace Effect

def freeTexts : Effect → List String
  | special text => [text]
  | alternative rolled => [rolled.condition]
  | damage _ | fixedDamage _ | save _ => []

def IsUnscaled (effect : Effect) : Prop :=
  ∀ dice ∈ effect.dice, dice.IsUnscaled

def saveOpening (save : SaveDamage) : String :=
  (if save.area then "Each target in the area" else "The target") ++ " must make a DC "

def saveDifficulty (save : SaveDamage) : Clause :=
  match save.dc with
  | some dc => .words (showInt dc).toList
  | none => .shown "spell_dc".toList

def saveEnding (save : SaveDamage) : String :=
  if save.half then ", or half as much damage on a successful one" else ""

def clauses (usual : String) : Effect → List Clause
  | damage rolled => damageClauses rolled.dice.text usual rolled.bonus rolled.damageType
  | fixedDamage flat => damageClauses (integerText flat.amount) usual flat.bonus flat.damageType
  | special text => [.words text.toList]
  | alternative rolled =>
      damageClauses rolled.dice.text usual rolled.bonus rolled.damageType ++
        ([.words ", or ".toList] ++
          (damageClauses rolled.alternateDice.text usual rolled.bonus
              (rolled.alternateType.getD rolled.damageType) ++
            [.words (" " ++ rolled.condition).toList]))
  | save rolled =>
      [.words (saveOpening rolled).toList, saveDifficulty rolled,
        .words (" " ++ rolled.ability.fullName ++ " saving throw, taking ").toList] ++
      (damageClauses rolled.dice.text usual rolled.bonus rolled.damageType ++
        [.words " on a failed save".toList, .words (saveEnding rolled).toList])

theorem clauses_text (usual : String) (effect : Effect) :
    clauseText (effect.clauses usual) = (effect.describe usual).toList := by
  have dice (rolled : Dice) (bonus : Bonus) (damageType : DamageType) :
      clauseText (damageClauses rolled.text usual bonus damageType) =
        (damageText rolled.render usual bonus damageType).toList := by
    rw [← damageClauses_text, Dice.render, String.toList_ofList]
  cases effect with
  | damage rolled => exact dice rolled.dice rolled.bonus rolled.damageType
  | fixedDamage flat =>
      rw [clauses, describe, ← damageClauses_text, showInt, String.toList_ofList]
  | special text => simp [clauses, describe]
  | alternative rolled => simp [clauses, dice, describe]
  | save rolled =>
      cases difficulty : rolled.dc <;>
        simp only [clauses, dice, describe, saveText, saveOpening, saveDifficulty, saveEnding,
          difficulty, clauseText_append, clauseText_cons, clauseText_nil, text_words,
          text_shown_toList, String.toList_append, List.append_assoc, List.append_nil]

section Sound

variable {modifiers : List (String × Int)} {usual : String} {dc : Int}

theorem saveDifficulty_sound (difficulty : scope.lookup "spell_dc" = some (.number dc false))
    (save : SaveDamage) : (saveDifficulty save).IsSound breaks scope := by
  unfold saveDifficulty
  split
  · exact plain_showInt _
  · have known : "spell_dc" ∈ offenseNames := by decide
    exact ⟨_, _, scans_variable known, (Denotes.name difficulty).unary.product.sum.choice⟩

theorem saveOpening_plain (save : SaveDamage) : IsPlain (saveOpening save).toList := by
  unfold saveOpening
  split <;> decide

theorem saveEnding_plain (save : SaveDamage) : IsPlain (saveEnding save).toList := by
  unfold saveEnding
  split <;> decide

theorem clauses_soundIf (holds : HoldsModifiers scope modifiers)
    (difficulty : scope.lookup "spell_dc" = some (.number dc false))
    (member : usual ∈ modifierNames) {effect : Effect} (readable : effect.IsReadable)
    (plain : ∀ text ∈ effect.freeTexts, IsPlain text.toList) :
    SoundIf breaks scope effect.IsUnscaled (effect.clauses usual) := by
  have dice (rolled : Dice) (isDice : rolled ∈ effect.dice) (bonus : Bonus)
      (damageType : DamageType) :
      SoundIf breaks scope rolled.IsUnscaled (damageClauses rolled.text usual bonus damageType) :=
    damageClauses_soundIf holds member (readable.dice rolled isDice) bonus damageType
  cases effect with
  | damage rolled =>
      exact (dice rolled.dice (List.mem_singleton_self _) rolled.bonus rolled.damageType).congr
        List.forall_mem_singleton.symm
  | fixedDamage flat =>
      exact .always (List.forall_mem_nil _)
        (damageClauses_sound holds member (scans_integer flat.amount)
          (Amounts.integer flat.amount).product.sum flat.bonus flat.damageType)
  | special text =>
      exact .words (List.forall_mem_nil _) (plain text (List.mem_singleton_self _))
  | alternative rolled =>
      have comma : IsPlain ", or ".toList := by decide
      have condition : IsPlain (" " ++ rolled.condition).toList :=
        IsPlain.join (by decide) (plain rolled.condition (List.mem_singleton_self _))
      have first := dice rolled.dice (List.mem_cons_self ..) rolled.bonus rolled.damageType
      have second := dice rolled.alternateDice (List.mem_cons_of_mem _ (List.mem_singleton_self _))
        rolled.bonus (rolled.alternateType.getD rolled.damageType)
      have later := (second.before (words_sound condition)).after (words_sound comma)
      exact (first.append later).congr (by simp [IsUnscaled, Effect.dice])
  | save rolled =>
      have ability : IsPlain (" " ++ rolled.ability.fullName ++ " saving throw, taking ").toList :=
        IsPlain.join (IsPlain.join (by decide) rolled.ability.fullName_plain) (by decide)
      have opening : ∀ clause ∈ [.words (saveOpening rolled).toList, saveDifficulty rolled,
          .words (" " ++ rolled.ability.fullName ++ " saving throw, taking ").toList],
          clause.IsSound breaks scope := by
        simp only [List.forall_mem_cons]
        exact ⟨saveOpening_plain rolled, saveDifficulty_sound difficulty rolled, ability,
          List.forall_mem_nil _⟩
      have ending : ∀ clause ∈ [.words " on a failed save".toList,
          .words (saveEnding rolled).toList], Clause.IsSound breaks scope clause :=
        List.forall_mem_cons.mpr
          ⟨show IsPlain " on a failed save".toList by decide, words_sound (saveEnding_plain rolled)⟩
      have told := dice rolled.dice (List.mem_singleton_self _) rolled.bonus rolled.damageType
      exact ((told.before ending).after opening).congr List.forall_mem_singleton.symm

end Sound

end Effect

/-! ### Standard weapons -/

namespace Weapon

def restrainWords (magic : Int) : String :=
  " until it is freed. A creature can use its action to make a DC " ++
    Number.showInt (10 + magic) ++ " Strength check, freeing itself or another creature within " ++
    "its reach on a success. Dealing " ++ Number.showInt (5 + magic) ++
    " slashing damage to the net (AC " ++ Number.showInt (10 + magic) ++
    ") also frees the creature without harming it, ending the effect and destroying the net"

def restrainClauses (magic : Int) : List Clause :=
  [.words "The target is ".toList, .emphasis "restrained".toList,
    .words (restrainWords magic).toList]

def effectClauses (size : Size) (magic : Int) (usual : String) (weapon : Weapon) : List Clause :=
  match weapon.profile.damage with
  | .restrains => restrainClauses magic
  | _ => (weapon.effect size magic).clauses usual

theorem restrainText_eq (magic : Int) : restrainText magic =
    "The target is " ++ structureMarkup .italic "restrained" ++ restrainWords magic := by
  unfold restrainText restrainWords
  simp only [String.append_assoc]

theorem restrainClauses_text (magic : Int) :
    clauseText (restrainClauses magic) = (restrainText magic).toList := by
  rw [restrainText_eq]
  simp only [restrainClauses, clauseText_cons, clauseText_nil, text_words, text_emphasis_toList,
    String.toList_append, List.append_nil, List.append_assoc]

theorem effectClauses_text (size : Size) (magic : Int) (usual : String) (weapon : Weapon) :
    clauseText (weapon.effectClauses size magic usual) =
      ((weapon.effect size magic).describe usual).toList := by
  rw [effectClauses]
  split
  · next restrains =>
      rw [restrainClauses_text, effect, restrains]
      rfl
  · exact Effect.clauses_text usual _

theorem restrainWords_plain (magic : Int) : IsPlain (restrainWords magic).toList := by
  have number (value : Int) : IsPlain (showInt value).toList := plain_showInt value
  unfold restrainWords
  refine IsPlain.join (IsPlain.join (IsPlain.join (IsPlain.join (IsPlain.join (IsPlain.join
    (IsPlain.join ?_ (number _)) ?_) ?_) (number _)) ?_) (number _)) ?_ <;> decide

theorem restrainClauses_sound (magic : Int) :
    ∀ clause ∈ restrainClauses magic, clause.IsSound breaks scope := by
  have opening : IsPlain "The target is ".toList := by decide
  have restrained : IsPlain "restrained".toList ∧ '\n' ∉ "restrained".toList := by decide
  simp only [restrainClauses, List.forall_mem_cons]
  exact ⟨opening, restrained, restrainWords_plain magic, List.forall_mem_nil _⟩

theorem target_plain (weapon : Weapon) : IsPlain weapon.profile.target.toList := by
  cases weapon <;> decide

def baseDice? (weapon : Weapon) : Option Nat :=
  match weapon.profile.damage with
  | .dice count _ | .versatile count _ _ => some count
  | .fixed _ | .restrains => none

theorem baseDice?_few (weapon : Weapon) : ∀ count ∈ weapon.baseDice?, 1 ≤ count ∧ count ≤ 2 := by
  cases weapon <;> decide

/-- The dice of every standard weapon can be named, however large it is made. -/
theorem dice_readable {weapon : Weapon} {count : Nat} (rolls : weapon.baseDice? = some count)
    (size : Size) (die : Die) (magic : Int) :
    (Dice.single (count * size.weaponDiceMultiplier : Nat) die magic).IsReadable := by
  have large : 1 ≤ size.weaponDiceMultiplier ∧ size.weaponDiceMultiplier ≤ 4 := by
    cases size <;> decide
  have few := weapon.baseDice?_few count rolls
  have product : count * size.weaponDiceMultiplier ≤ 2 * 4 := Nat.mul_le_mul few.2 large.2
  refine Dice.single_readable die magic (Int.ofNat_le.mpr (Nat.mul_pos few.1 large.1))
    (Int.ofNat_le.mpr (Nat.le_trans product ?_))
  decide

theorem effect_readable (weapon : Weapon) (size : Size) (magic : Int) :
    (weapon.effect size magic).IsReadable ∧ (weapon.effect size magic).IsUnscaled := by
  have rolled {count : Nat} (rolls : weapon.baseDice? = some count) (die : Die) :=
    dice_readable rolls size die magic
  unfold effect
  dsimp only
  cases kind : weapon.profile.damage with
  | fixed bonus =>
      exact ⟨⟨List.forall_mem_nil _, fun _ => nofun⟩, List.forall_mem_nil _⟩
  | restrains => exact ⟨⟨List.forall_mem_nil _, fun _ => nofun⟩, List.forall_mem_nil _⟩
  | dice count die =>
      have rolls : weapon.baseDice? = some count := by rw [baseDice?, kind]
      exact ⟨⟨List.forall_mem_singleton.mpr (rolled rolls die), fun _ => nofun⟩,
        List.forall_mem_singleton.mpr (Dice.single_unscaled _ _ _)⟩
  | versatile count die twoHanded =>
      have rolls : weapon.baseDice? = some count := by rw [baseDice?, kind]
      exact ⟨⟨List.forall_mem_cons.mpr ⟨rolled rolls die,
          List.forall_mem_singleton.mpr (rolled rolls twoHanded)⟩, fun _ => nofun⟩,
        List.forall_mem_cons.mpr ⟨Dice.single_unscaled _ _ _,
          List.forall_mem_singleton.mpr (Dice.single_unscaled _ _ _)⟩⟩

section Sound

variable {modifiers : List (String × Int)} {usual : String} {dc : Int}

theorem effectClauses_sound (holds : HoldsModifiers scope modifiers)
    (difficulty : scope.lookup "spell_dc" = some (.number dc false))
    (member : usual ∈ modifierNames) (size : Size) (magic : Int) (weapon : Weapon) :
    ∀ clause ∈ weapon.effectClauses size magic usual, clause.IsSound breaks scope := by
  obtain ⟨readable, unscaled⟩ := weapon.effect_readable size magic
  have told (plain : ∀ text ∈ (weapon.effect size magic).freeTexts, IsPlain text.toList) :
      ∀ clause ∈ (weapon.effect size magic).clauses usual, clause.IsSound breaks scope :=
    (Effect.clauses_soundIf holds difficulty member readable plain).sound unscaled
  unfold effectClauses
  split
  · exact restrainClauses_sound magic
  · next others =>
      refine told ?_
      unfold effect
      dsimp only
      cases kind : weapon.profile.damage with
      | fixed bonus => exact List.forall_mem_nil _
      | restrains => exact absurd kind others
      | dice count die => exact List.forall_mem_nil _
      | versatile count die twoHanded =>
          have condition : IsPlain versatileCondition.toList := by decide
          exact List.forall_mem_singleton.mpr condition

end Sound

end Weapon

/-! ### Attacks with their effects and riders -/

def Armament.effectClauses (size : Size) (usual : String) : Armament → List Clause
  | weapon held magic _ none => held.effectClauses size magic usual
  | weapon _ _ _ (some effect) => effect.clauses usual
  | natural _ effect => effect.clauses usual

theorem Armament.effectClauses_text (size : Size) (usual : String) (armament : Armament) :
    clauseText (armament.effectClauses size usual) =
      ((armament.resolve size).2.describe usual).toList := by
  cases armament with
  | weapon held magic attack effect =>
      cases effect with
      | none => exact held.effectClauses_text size magic usual
      | some effect => exact effect.clauses_text usual
  | natural attack effect => exact effect.clauses_text usual

def Rider.clauses (usual : String) (rider : Rider) : List Clause :=
  .words rider.join.conjunction.toList :: rider.effect.clauses usual

theorem Rider.clauses_text (usual : String) (riders : List Rider) :
    clauseText (riders.flatMap (Rider.clauses usual)) =
      (String.join (riders.map (Rider.describe usual))).toList := by
  induction riders with
  | nil => rfl
  | cons rider others ih =>
      rw [List.flatMap_cons, clauseText_append, ih]
      simp [clauses, describe, Effect.clauses_text]

namespace Strike

def heading : List Clause :=
  [.words " ".toList, .emphasis "Hit:".toList, .words " ".toList]

def clauses (size : Size) (strike : Strike) : List Clause :=
  let attack := (strike.armament.resolve size).1
  attack.clauses ++ (heading ++
    (strike.armament.effectClauses size attack.usualVariable ++
      (strike.riders.flatMap (Rider.clauses attack.usualVariable) ++ [.words ".".toList])))

theorem clauses_text (size : Size) (strike : Strike) :
    clauseText (strike.clauses size) = (strike.describe size).toList := by
  simp only [clauses, heading, describe, describeHit, clauseText_append, clauseText_cons,
    clauseText_nil, text_words, text_emphasis_toList, Attack.clauses_text,
    Armament.effectClauses_text, Rider.clauses_text, String.toList_append, List.append_assoc,
    List.append_nil]

theorem heading_sound : ∀ clause ∈ heading, clause.IsSound breaks scope := by
  have blank : IsPlain " ".toList := by decide
  have hit : IsPlain "Hit:".toList ∧ '\n' ∉ "Hit:".toList := by decide
  simp only [heading, List.forall_mem_cons]
  exact ⟨blank, hit, blank, List.forall_mem_nil _⟩

end Strike

namespace Action

/-- What is given for the effect and the riders of an action was read from document values. -/
structure IsRead (action : Action) : Prop where
  effect : ∀ effect, action.effect? = some effect → ∃ input, Effect.read input = .valid effect
  riders : ∀ rider ∈ action.riders, ∃ input, Rider.read input = .valid rider

/-- The free texts of an action stand for themselves. -/
structure HasPlainTexts (action : Action) : Prop where
  target : ∀ attack, action.attack? = some attack → IsPlain attack.target.toList
  effect : ∀ effect, action.effect? = some effect →
    ∀ text ∈ effect.freeTexts, IsPlain text.toList
  riders : ∀ rider ∈ action.riders, ∀ text ∈ rider.effect.freeTexts, IsPlain text.toList

/-- No dice that are given for an action have a factor other than their sign. -/
structure IsUnscaled (action : Action) : Prop where
  effect : ∀ effect, action.effect? = some effect → effect.IsUnscaled
  riders : ∀ rider ∈ action.riders, rider.effect.IsUnscaled

theorem isUnscaled_iff (action : Action) : action.IsUnscaled ↔
    (∀ effect, action.effect? = some effect → effect.IsUnscaled) ∧
      ∀ rider ∈ action.riders, rider.effect.IsUnscaled :=
  ⟨fun unscaled => ⟨unscaled.effect, unscaled.riders⟩, fun both => ⟨both.1, both.2⟩⟩

theorem eq_of_strike? {action : Action} {strike : Strike} (isStrike : action.strike? = some strike) :
    action = ⟨action.name, action.usage, .strike strike⟩ := by
  obtain ⟨name, usage, form⟩ := action
  cases form with
  | text description => cases isStrike
  | strike made =>
      cases isStrike
      rfl

section Sound

variable {modifiers : List (String × Int)} {proficiency spellAttack dc : Int} {action : Action}
  {strike : Strike}

theorem target_plain (isStrike : action.strike? = some strike) (plain : action.HasPlainTexts)
    (size : Size) : IsPlain (strike.armament.resolve size).1.target.toList := by
  rw [eq_of_strike? isStrike] at plain
  obtain ⟨armament, riders, multiattack, override⟩ := strike
  cases armament with
  | weapon held magic attack effect =>
      cases attack with
      | none => exact held.target_plain
      | some attack => exact plain.target attack rfl
  | natural attack effect => exact plain.target attack rfl

theorem effectClauses_soundIf (holds : HoldsModifiers scope modifiers)
    (difficulty : scope.lookup "spell_dc" = some (.number dc false)) {usual : String}
    (member : usual ∈ modifierNames) (isStrike : action.strike? = some strike)
    (read : action.IsRead) (plain : action.HasPlainTexts) (size : Size) :
    SoundIf breaks scope (∀ effect, action.effect? = some effect → effect.IsUnscaled)
      (strike.armament.effectClauses size usual) := by
  have given {effect : Effect} (isGiven : action.effect? = some effect) :
      SoundIf breaks scope (∀ effect, action.effect? = some effect → effect.IsUnscaled)
        (effect.clauses usual) := by
    obtain ⟨input, accepted⟩ := read.effect effect isGiven
    refine (effect.clauses_soundIf holds difficulty member (Effect.read_keeps accepted)
      (plain.effect effect isGiven)).congr ⟨fun unscaled other same => ?_, fun all => ?_⟩
    · rw [← Option.some.inj (isGiven.symm.trans same)]
      exact unscaled
    · exact all effect isGiven
  rw [eq_of_strike? isStrike] at given ⊢
  obtain ⟨armament, riders, multiattack, override⟩ := strike
  cases armament with
  | weapon held magic attack effect =>
      cases effect with
      | none =>
          -- Nothing was given, so the condition says nothing: the weapon's own dice have no factor.
          exact .always (fun _ => nofun)
            (held.effectClauses_sound holds difficulty member size magic)
      | some effect => exact given rfl
  | natural attack effect => exact given rfl

theorem riderClauses_soundIf (holds : HoldsModifiers scope modifiers)
    (difficulty : scope.lookup "spell_dc" = some (.number dc false)) {usual : String}
    (member : usual ∈ modifierNames) (read : action.IsRead) (plain : action.HasPlainTexts) :
    SoundIf breaks scope (∀ rider ∈ action.riders, rider.effect.IsUnscaled)
      (action.riders.flatMap (Rider.clauses usual)) := by
  refine SoundIf.flatMap fun rider isRider => ?_
  obtain ⟨input, accepted⟩ := read.riders rider isRider
  have readable : rider.effect.IsReadable := Rider.read_keeps accepted
  exact (rider.effect.clauses_soundIf holds difficulty member readable
    (plain.riders rider isRider)).after (words_sound rider.join.conjunction_plain)

/-- The generated text of an attack is told by sound clauses, but for dice with a factor. -/
theorem clauses_soundIf (holds : HoldsOffense scope modifiers proficiency spellAttack)
    (difficulty : scope.lookup "spell_dc" = some (.number dc false))
    (isStrike : action.strike? = some strike) (read : action.IsRead)
    (plain : action.HasPlainTexts) (size : Size) :
    SoundIf breaks scope action.IsUnscaled (strike.clauses size) := by
  have member := (strike.armament.resolve size).1.usualVariable_mem
  have sameRiders : strike.riders = action.riders := by
    rw [eq_of_strike? isStrike]
    rfl
  have stop : IsPlain ".".toList := by decide
  have effect : SoundIf breaks scope _ (strike.armament.effectClauses size _) :=
    effectClauses_soundIf holds.modifiers difficulty member isStrike read plain size
  have riders : SoundIf breaks scope _ (action.riders.flatMap (Rider.clauses _)) :=
    riderClauses_soundIf holds.modifiers difficulty member read plain
  rw [← sameRiders] at riders
  rw [isUnscaled_iff, ← sameRiders]
  exact ((effect.append (riders.before (words_sound stop))).after Strike.heading_sound).after
    (Attack.clauses_sound holds (target_plain isStrike plain size))

end Sound

end Action

end Bestiary
