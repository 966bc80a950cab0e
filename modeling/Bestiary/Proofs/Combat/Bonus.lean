import Bestiary.Combat.Attack
import Bestiary.Creature.ChallengeRating
import Bestiary.Proofs.Prose.Amount

/-!
Bonuses as they are written in expressions.

An attack refers to its bonus by a variable or writes it as a number. Under
variables that hold the modifiers, what is written adds what the bonus is
worth.
-/

namespace Bestiary

open Prose Number

variable {scope : Variables} {breaks : Bool}

/-! ### The variables that attacks refer to -/

def modifierNames : List String :=
  Ability.all.map Ability.shortWord ++ ["atk"]

def offenseNames : List String :=
  modifierNames ++ ["prof", "spell_atk", "spell_dc"]

theorem isName_of_mem {word : String} (member : word ∈ offenseNames) : IsName word.toList := by
  have cases : word = "str" ∨ word = "dex" ∨ word = "con" ∨ word = "int" ∨ word = "wis" ∨
      word = "cha" ∨ word = "atk" ∨ word = "prof" ∨ word = "spell_atk" ∨ word = "spell_dc" := by
    simpa [offenseNames, modifierNames, Ability.all, Ability.shortWord] using member
  rcases cases with rfl | rfl | rfl | rfl | rfl | rfl | rfl | rfl | rfl | rfl <;>
    exact ⟨⟨_, _, rfl, rfl, rfl, by decide, List.all_eq_true.mp rfl⟩, by decide, by decide, rfl⟩

theorem scans_variable {word : String} (member : word ∈ offenseNames) :
    Scans breaks word.toList [.name word] := by
  have scans : Scans breaks word.toList [.name (String.ofList word.toList)] :=
    scans_name (isName_of_mem member)
  rw [String.ofList_toList] at scans
  exact scans

def HoldsModifiers (scope : Variables) (modifiers : List (String × Int)) : Prop :=
  ∀ name ∈ modifierNames, scope.lookup name = some (.number ((modifiers.lookup name).getD 0) false)

theorem modifierName?_mem {usual name : String} (member : usual ∈ modifierNames)
    {source : BonusSource} (named : source.modifierName? usual = some name) :
    name ∈ modifierNames := by
  cases source with
  | usual =>
      cases named
      exact member
  | ability ability =>
      cases named
      cases ability <;> decide
  | best =>
      cases named
      decide
  | spell => cases named
  | none => cases named

theorem Attack.usualVariable_mem (attack : Attack) : attack.usualVariable ∈ modifierNames := by
  unfold usualVariable
  split <;> decide

/-! ### What is added to damage -/

namespace Bonus

def addedText (usual : String) : Bonus → List Char
  | fixed amount => if amount = 0 then [] else ' ' :: '+' :: ' ' :: integerText amount
  | modifier source =>
      match source.modifierName? usual with
      | some name => ' ' :: '+' :: ' ' :: name.toList
      | none => []

def addedTokens (usual : String) : Bonus → List Token
  | fixed amount => if amount = 0 then [] else .plus :: integerTokens amount
  | modifier source =>
      match source.modifierName? usual with
      | some name => [.plus, .name name]
      | none => []

theorem addTo_eq (base usual : String) (bonus : Bonus) :
    bonus.addTo base usual = String.ofList (base.toList ++ bonus.addedText usual) := by
  cases bonus with
  | fixed amount =>
      rw [addTo, addedText]
      split <;> simp [showInt, ← String.toList_inj]
  | modifier source =>
      rw [addTo, addedText]
      cases source.modifierName? usual <;> simp [← String.toList_inj]

theorem follows_added (usual : String) (bonus : Bonus) : Follows (bonus.addedText usual) := by
  cases bonus with
  | fixed amount =>
      rw [addedText]
      split
      · exact follows_nil
      · exact follows_blank _
  | modifier source =>
      rw [addedText]
      cases source.modifierName? usual with
      | some name => exact follows_blank _
      | none => exact follows_nil

theorem scans_added {usual : String} (member : usual ∈ modifierNames) (bonus : Bonus) :
    Scans breaks (bonus.addedText usual) (bonus.addedTokens usual) := by
  cases bonus with
  | fixed amount =>
      rw [addedText, addedTokens]
      split
      · exact .nothing
      · exact (scans_integer amount).blank.plus.blank
  | modifier source =>
      rw [addedText, addedTokens]
      cases named : source.modifierName? usual with
      | some name =>
          have known : name ∈ offenseNames :=
            List.mem_append_left _ (modifierName?_mem member named)
          exact (scans_variable known).blank.plus.blank
      | none => exact .nothing

theorem amounts_added {modifiers : List (String × Int)} (holds : HoldsModifiers scope modifiers)
    {usual : String} (member : usual ∈ modifierNames) (bonus : Bonus) {before : List Token}
    {sum : Rat} (amounts : Amounts scope .sum before sum) :
    Amounts scope .sum (before ++ bonus.addedTokens usual)
      (sum + bonus.damageValue modifiers usual) := by
  have nothing : Amounts scope .sum (before ++ []) (sum + (0 : Int)) := by
    rw [List.append_nil, Int.cast_zero, add_zero]
    exact amounts
  cases bonus with
  | fixed amount =>
      rw [addedTokens, damageValue]
      split
      · next zero =>
          rw [zero]
          exact nothing
      · exact amounts.plus (Amounts.integer amount).product
  | modifier source =>
      rw [addedTokens, damageValue]
      cases named : source.modifierName? usual with
      | some name =>
          exact amounts.plus (Amounts.name (holds name (modifierName?_mem member named))).product
      | none => exact nothing

end Bonus

/-! ### The bonus to hit -/

/-- The variables that a bonus to hit may refer to, with the values that they stand for. -/
structure HoldsOffense (scope : Variables) (modifiers : List (String × Int))
    (proficiency spellAttack : Int) : Prop where
  modifiers : HoldsModifiers scope modifiers
  proficiency : scope.lookup "prof" = some (.number proficiency false)
  spellAttack : scope.lookup "spell_atk" = some (.number spellAttack false)

def Bonus.toHitTokens (usual : String) : Bonus → List Token
  | fixed amount => integerTokens amount
  | modifier .spell => [.name "spell_atk"]
  | modifier source =>
      match source.modifierName? usual with
      | some name => [.name name, .plus, .name "prof"]
      | none => [.name "prof"]

def Bonus.toHitValue (modifiers : List (String × Int)) (proficiency spellAttack : Int)
    (usual : String) : Bonus → Int
  | fixed amount => amount
  | modifier .spell => spellAttack
  | modifier source =>
      match source.modifierName? usual with
      | some name => (modifiers.lookup name).getD 0 + proficiency
      | none => proficiency

namespace Bonus

theorem scans_toHit {usual : String} (member : usual ∈ modifierNames) (bonus : Bonus) :
    Scans breaks (bonus.toHitExpression usual).toList (bonus.toHitTokens usual) := by
  have proficiency : Scans breaks "prof".toList [.name "prof"] := scans_variable (by decide)
  have added (source : BonusSource) (notSpell : source ≠ .spell) :
      Scans breaks ((modifier source).toHitExpression usual).toList
        ((modifier source).toHitTokens usual) := by
    have known (name : String) (named : source.modifierName? usual = some name) :
        name ∈ offenseNames :=
      List.mem_append_left _ (modifierName?_mem member named)
    rw [toHitExpression, BonusSource.toHitExpression, toHitTokens]
    · cases named : source.modifierName? usual with
      | some name =>
          rw [String.toList_append]
          exact (scans_variable (known name named)).append proficiency.blank.plus.blank
            (follows_blank _).parts
      | none => exact proficiency
    · exact notSpell
    · exact notSpell
  cases bonus with
  | fixed amount =>
      rw [toHitExpression, showInt, String.toList_ofList]
      exact scans_integer amount
  | modifier source =>
      cases source with
      | spell =>
          have known : "spell_atk" ∈ offenseNames := by decide
          exact scans_variable known
      | _ => exact added _ (by simp)

theorem legible_toHit {usual : String} (bonus : Bonus)
    (writable : ∀ amount, bonus = .fixed amount → isWritable amount = true) :
    AreLegible (bonus.toHitTokens usual) := by
  cases bonus with
  | fixed amount => exact legible_integer.mpr (writable amount rfl)
  | modifier source =>
      have noNumber (number : Nat) : Token.number number ∉ (modifier source).toHitTokens usual := by
        cases source <;> simp [toHitTokens, BonusSource.modifierName?]
      exact fun number member => absurd member (noNumber number)

theorem denotes_toHit {modifiers : List (String × Int)} {proficiency spellAttack : Int}
    (holds : HoldsOffense scope modifiers proficiency spellAttack) {usual : String}
    (member : usual ∈ modifierNames) (bonus : Bonus) :
    Denotes scope .sum (.plus :: bonus.toHitTokens usual)
      (.number (bonus.toHitValue modifiers proficiency spellAttack usual) true) := by
  have known {name : String} {number : Int}
      (found : scope.lookup name = some (.number number false)) :
      Denotes scope .unary [.name name] (.number number false) := (Denotes.name found).unary
  have added (source : BonusSource) (notSpell : source ≠ .spell) :
      Denotes scope .sum (.plus :: (modifier source).toHitTokens usual)
        (.number ((modifier source).toHitValue modifiers proficiency spellAttack usual) true) := by
    rw [toHitTokens, toHitValue]
    · cases named : source.modifierName? usual with
      | some name =>
          have first := known (holds.modifiers name (modifierName?_mem member named))
          exact first.signed.product.sum.plus (known holds.proficiency).product
      | none => exact (known holds.proficiency).signed.product.sum
    · exact notSpell
    · exact notSpell
  cases bonus with
  | fixed amount => exact (Denotes.integer amount).signed.product.sum
  | modifier source =>
      cases source with
      | spell => exact (known holds.spellAttack).signed.product.sum
      | _ => exact added _ (by simp)

end Bonus

namespace Attack

def toHitTokens (attack : Attack) : List Token :=
  .plus :: attack.bonus.toHitTokens attack.usualVariable ++ Dice.addendTokens attack.magic

theorem toHit_eq (attack : Attack) (modifiers : List (String × Int))
    (proficiency spellAttack : Int) :
    attack.toHit modifiers proficiency spellAttack =
      attack.bonus.toHitValue modifiers proficiency spellAttack attack.usualVariable +
        attack.magic := by
  unfold toHit Bonus.toHitValue
  cases attack.bonus with
  | fixed amount => rfl
  | modifier source =>
      cases source with
      | spell => rfl
      | none => exact congrArg (· + attack.magic) (Int.zero_add proficiency)
      | _ => rfl

theorem magicSuffix_eq (magic : Int) :
    magicSuffix magic = String.ofList (Dice.addendText magic) := by
  unfold magicSuffix Dice.addendText
  split
  · simp [showInt, ← String.toList_inj]
  · split <;> simp [showInt, ← String.toList_inj]

theorem scans_toHit (attack : Attack) :
    Scans breaks ("+" ++ attack.toHitExpression).toList attack.toHitTokens := by
  have bonus : Scans breaks (attack.bonus.toHitExpression attack.usualVariable).toList
      (attack.bonus.toHitTokens attack.usualVariable) :=
    attack.bonus.scans_toHit attack.usualVariable_mem
  have whole : ("+" ++ attack.toHitExpression).toList =
      '+' :: ((attack.bonus.toHitExpression attack.usualVariable).toList ++
        Dice.addendText attack.magic) := by
    simp [toHitExpression, magicSuffix_eq]
  rw [whole]
  exact (bonus.append (Dice.scans_addend attack.magic)
    (Dice.follows_addend attack.magic).parts).plus

theorem legible_toHit (attack : Attack)
    (bonus : ∀ amount, attack.bonus = .fixed amount → isWritable amount = true)
    (magic : isWritable attack.magic = true) : AreLegible attack.toHitTokens := by
  have legible : AreLegible (attack.bonus.toHitTokens attack.usualVariable) :=
    attack.bonus.legible_toHit bonus
  have signed : AreLegible (.plus :: attack.bonus.toHitTokens attack.usualVariable) :=
    legible.cons (by simp)
  exact signed.append (Dice.legible_addend.mpr magic)

theorem denotes_toHit {modifiers : List (String × Int)} {proficiency spellAttack : Int}
    (holds : HoldsOffense scope modifiers proficiency spellAttack) (attack : Attack) :
    Denotes scope .choice attack.toHitTokens
      (.number (attack.toHit modifiers proficiency spellAttack) true) := by
  have bonus : Denotes scope .sum (.plus :: attack.bonus.toHitTokens attack.usualVariable)
      (.number (attack.bonus.toHitValue modifiers proficiency spellAttack attack.usualVariable)
        true) :=
    attack.bonus.denotes_toHit holds attack.usualVariable_mem
  rw [toHit_eq]
  exact (Dice.denotes_addend bonus attack.magic).choice

end Attack

end Bestiary
