import Bestiary.Proofs.Dice.Average
import Bestiary.Proofs.Prose.Clause

/-!
Sums inside expressions, and dice notation among them.

Expressions read the notation of dice term by term and add the terms up. What
comes of it need not be the same dice, since terms of a kind are joined, but it
has the same average. Notation with a factor is no expression.
-/

namespace Bestiary.Prose

open Text Number

def ProseValue.average? : ProseValue → Option Rat
  | text _ => none
  | number value _ => some value
  | dice value _ => some value.average

/-- Tokens that denote a number or dice of some average. -/
def Amounts (scope : Variables) (level : Precedence) (tokens : List Token) (average : Rat) : Prop :=
  ∃ value, value.average? = some average ∧ Denotes scope level tokens value

theorem ProseValue.add_average {left right : ProseValue} {first second : Rat}
    (leftAverage : left.average? = some first) (rightAverage : right.average? = some second) :
    ∃ value, left.add right = .ok value ∧ value.average? = some (first + second) := by
  cases left with
  | text content => cases leftAverage
  | number amount signed =>
      cases leftAverage
      cases right with
      | text content => cases rightAverage
      | number other mark =>
          cases rightAverage
          exact ⟨_, rfl, congrArg some (Int.cast_add amount other)⟩
      | dice other mark =>
          cases rightAverage
          refine ⟨_, rfl, congrArg some ?_⟩
          rw [Dice.average_add, add_comm]
  | dice rolled signed =>
      cases leftAverage
      cases right with
      | text content => cases rightAverage
      | number other mark =>
          cases rightAverage
          exact ⟨_, rfl, congrArg some (Dice.average_add rolled other)⟩
      | dice other mark =>
          cases rightAverage
          exact ⟨_, rfl, congrArg some (Dice.average_addDice rolled other)⟩

theorem ProseValue.subtract_average {left right : ProseValue} {first second : Rat}
    (leftAverage : left.average? = some first) (rightAverage : right.average? = some second) :
    ∃ value, left.subtract right = .ok value ∧ value.average? = some (first - second) := by
  cases left with
  | text content => cases leftAverage
  | number amount signed =>
      cases leftAverage
      cases right with
      | text content => cases rightAverage
      | number other mark =>
          cases rightAverage
          exact ⟨_, rfl, congrArg some (Int.cast_sub amount other)⟩
      | dice other mark =>
          cases rightAverage
          refine ⟨_, rfl, congrArg some ?_⟩
          rw [Dice.average_add, Dice.average_negate]
          ring
  | dice rolled signed =>
      cases leftAverage
      cases right with
      | text content => cases rightAverage
      | number other mark =>
          cases rightAverage
          exact ⟨_, rfl, congrArg some (Dice.average_subtract rolled other)⟩
      | dice other mark =>
          cases rightAverage
          exact ⟨_, rfl, congrArg some (Dice.average_subtractDice rolled other)⟩

theorem ProseValue.negate_average {operand : ProseValue} {average : Rat}
    (isAverage : operand.average? = some average) :
    ∃ value, operand.negate = .ok value ∧ value.average? = some (-average) := by
  cases operand with
  | text content => cases isAverage
  | number amount signed =>
      cases isAverage
      exact ⟨_, rfl, congrArg some (Int.cast_neg amount)⟩
  | dice rolled signed =>
      cases isAverage
      exact ⟨_, rfl, congrArg some (Dice.average_negate rolled)⟩

namespace Amounts

variable {scope : Variables}

theorem product {tokens : List Token} {average : Rat}
    (amounts : Amounts scope .unary tokens average) : Amounts scope .product tokens average := by
  obtain ⟨value, isAverage, denotes⟩ := amounts
  exact ⟨value, isAverage, denotes.product⟩

theorem sum {tokens : List Token} {average : Rat}
    (amounts : Amounts scope .product tokens average) : Amounts scope .sum tokens average := by
  obtain ⟨value, isAverage, denotes⟩ := amounts
  exact ⟨value, isAverage, denotes.sum⟩

theorem integer (number : Int) : Amounts scope .unary (integerTokens number) number :=
  ⟨_, rfl, .integer number⟩

theorem dice (rolled : Dice) : Amounts scope .unary [.dice rolled] rolled.average :=
  ⟨_, rfl, (Denotes.literal rfl).unary⟩

theorem name {word : String} {number : Int} {signed : Bool}
    (found : scope.lookup word = some (.number number signed)) :
    Amounts scope .unary [.name word] number :=
  ⟨_, rfl, (Denotes.name found).unary⟩

theorem negated {tokens : List Token} {average : Rat}
    (amounts : Amounts scope .unary tokens average) :
    Amounts scope .unary (.minus :: tokens) (-average) := by
  obtain ⟨operand, isAverage, denotes⟩ := amounts
  obtain ⟨value, applied, negated⟩ := ProseValue.negate_average isAverage
  exact ⟨value, negated, .prefixed rfl denotes applied⟩

theorem plus {before after : List Token} {first second : Rat}
    (left : Amounts scope .sum before first) (right : Amounts scope .product after second) :
    Amounts scope .sum (before ++ .plus :: after) (first + second) := by
  obtain ⟨leftValue, leftAverage, leftDenotes⟩ := left
  obtain ⟨rightValue, rightAverage, rightDenotes⟩ := right
  obtain ⟨value, applied, average⟩ := ProseValue.add_average leftAverage rightAverage
  exact ⟨value, average, leftDenotes.added rfl rightDenotes applied⟩

theorem minus {before after : List Token} {first second : Rat}
    (left : Amounts scope .sum before first) (right : Amounts scope .product after second) :
    Amounts scope .sum (before ++ .minus :: after) (first - second) := by
  obtain ⟨leftValue, leftAverage, leftDenotes⟩ := left
  obtain ⟨rightValue, rightAverage, rightDenotes⟩ := right
  obtain ⟨value, applied, average⟩ := ProseValue.subtract_average leftAverage rightAverage
  exact ⟨value, average, leftDenotes.added rfl rightDenotes applied⟩

end Amounts

end Bestiary.Prose

namespace Bestiary

open Prose Number

variable {scope : Variables} {breaks : Bool}

/-! ### Terms without a factor -/

namespace DiceTerm

/-- Dice whose only factor is their sign. -/
def IsUnscaled (term : DiceTerm) : Prop :=
  term.factor = 1 ∨ term.factor = -1

def signTokens (leading : Bool) (factor : Rat) : List Token :=
  if factor < 0 then [.minus] else if leading then [] else [.plus]

def tokens (leading : Bool) (term : DiceTerm) : List Token :=
  signTokens leading term.factor ++ [.dice (Dice.single term.count term.die 0)]

theorem signText_negative {leading : Bool} {factor : Rat} (negative : factor < 0) :
    signText leading factor = if leading then ['-'] else [' ', '-', ' '] := by
  unfold signText
  rw [decide_eq_true negative]
  cases leading <;> rfl

theorem signText_positive {leading : Bool} {factor : Rat} (positive : ¬factor < 0) :
    signText leading factor = if leading then [] else [' ', '+', ' '] := by
  unfold signText
  rw [decide_eq_false positive]
  cases leading <;> rfl

theorem scans_sign {written : List Char} {after : List Token} (scans : Scans breaks written after)
    (leading : Bool) (factor : Rat) :
    Scans breaks (signText leading factor ++ written) (signTokens leading factor ++ after) := by
  by_cases negative : factor < 0
  · rw [signText_negative negative, signTokens, if_pos negative]
    cases leading with
    | true => exact scans.minus
    | false => exact scans.blank.minus.blank
  · rw [signText_positive negative, signTokens, if_neg negative]
    cases leading with
    | true => exact scans
    | false => exact scans.blank.plus.blank

theorem follows_text (term : DiceTerm) : Follows (term.text false) := by
  unfold text
  by_cases negative : term.factor < 0
  · rw [signText_negative negative]
    exact follows_blank _
  · rw [signText_positive negative]
    exact follows_blank _

theorem scans_text {term : DiceTerm} (readable : term.IsReadable) (unscaled : term.IsUnscaled)
    (leading : Bool) : Scans breaks (term.text leading) (term.tokens leading) := by
  have plain : term.unsignedText = term.diceText := if_pos unscaled
  rw [text, plain]
  exact scans_sign (scans_dice term.die term.factor readable.positive readable.few) leading
    term.factor

theorem legible_tokens (leading : Bool) (term : DiceTerm) : AreLegible (term.tokens leading) := by
  intro number member
  unfold tokens signTokens at member
  split at member
  · simp at member
  · split at member <;> simp at member

theorem amounts_single (count : Int) (die : Die) :
    Amounts scope .unary [.dice (Dice.single count die 0)] (count * die.average) := by
  have average : (Dice.single count die 0).average = count * die.average := by
    simp [Dice.average_eq, Dice.single, DiceTerm.average]
  rw [← average]
  exact Amounts.dice _

theorem amounts_leading {term : DiceTerm} (unscaled : term.IsUnscaled) :
    Amounts scope .sum (term.tokens true) term.average := by
  have rolled : Amounts scope .unary _ _ := amounts_single term.count term.die
  unfold tokens signTokens average
  rcases unscaled with positive | negative
  · rw [positive, if_neg (by decide), mul_one]
    exact rolled.product.sum
  · rw [negative, if_pos (by decide), mul_neg_one]
    exact rolled.negated.product.sum

theorem amounts_following {before : List Token} {sum : Rat} (amounts : Amounts scope .sum before sum)
    {term : DiceTerm} (unscaled : term.IsUnscaled) :
    Amounts scope .sum (before ++ term.tokens false) (sum + term.average) := by
  have rolled : Amounts scope .product _ _ := (amounts_single term.count term.die).product
  unfold tokens signTokens average
  rcases unscaled with positive | negative
  · rw [positive, if_neg (by decide), mul_one]
    exact amounts.plus rolled
  · rw [negative, if_pos (by decide), mul_neg_one, ← sub_eq_add_neg]
    exact amounts.minus rolled

end DiceTerm

/-! ### Dice without factors -/

namespace Dice

def IsUnscaled (dice : Dice) : Prop :=
  ∀ term ∈ dice.terms, term.IsUnscaled

theorem single_unscaled (count : Int) (die : Die) (addend : Int) :
    (single count die addend).IsUnscaled :=
  List.forall_mem_singleton.mpr (Or.inl rfl)

def termsText (leading : Bool) : List DiceTerm → List Char
  | [] => []
  | head :: rest => head.text leading ++ termsText false rest

theorem termsText_following (terms : List DiceTerm) :
    termsText false terms = terms.flatMap (DiceTerm.text false) := by
  induction terms with
  | nil => rfl
  | cons head rest ih => rw [termsText, List.flatMap_cons, ih]

theorem text_eq {dice : Dice} (some : dice.terms ≠ []) :
    dice.text = termsText true dice.terms ++ addendText dice.addend := by
  obtain ⟨terms, addend⟩ := dice
  cases terms with
  | nil => exact absurd rfl some
  | cons head rest => rw [termsText, termsText_following]; rfl

theorem follows_termsText (terms : List DiceTerm) : Follows (termsText false terms) := by
  cases terms with
  | nil => exact follows_nil
  | cons head rest => exact (DiceTerm.follows_text head).append (follows_termsText rest)

def addendTokens (addend : Int) : List Token :=
  if 0 < addend then .plus :: integerTokens addend
  else if addend < 0 then .minus :: integerTokens (-addend)
  else []

theorem follows_addend (addend : Int) : Follows (addendText addend) := by
  unfold addendText
  split
  · exact follows_blank _
  · split
    · exact follows_blank _
    · exact follows_nil

theorem scans_addend (addend : Int) : Scans breaks (addendText addend) (addendTokens addend) := by
  unfold addendText addendTokens
  split
  · exact (scans_integer addend).blank.plus.blank
  · split
    · exact (scans_integer (-addend)).blank.minus.blank
    · exact .nothing

theorem legible_addend {addend : Int} :
    AreLegible (addendTokens addend) ↔ Number.isWritable addend = true := by
  have opposite : Number.isWritable (-addend) = Number.isWritable addend := by
    rw [Number.isWritable, Int.natAbs_neg, Number.isWritable]
  unfold addendTokens
  split
  · rw [legible_cons (by simp), legible_integer]
  · split
    · rw [legible_cons (by simp), legible_integer, opposite]
    · next notPositive notNegative =>
        obtain rfl : addend = 0 := by omega
        exact iff_of_true legible_nil (Number.isWritable_of_digit (by decide))

theorem amounts_addend {before : List Token} {sum : Rat} (amounts : Amounts scope .sum before sum)
    (addend : Int) : Amounts scope .sum (before ++ addendTokens addend) (sum + addend) := by
  unfold addendTokens
  split
  · exact amounts.plus (Amounts.integer addend).product
  · split
    · have lowered := amounts.minus (Amounts.integer (-addend)).product
      rw [Int.cast_neg, sub_neg_eq_add] at lowered
      exact lowered
    · next notPositive notNegative =>
        have nothing : addend = 0 := by omega
        rw [nothing, List.append_nil, Int.cast_zero, add_zero]
        exact amounts

theorem denotes_addend {before : List Token} {number : Int} {mark : Bool}
    (denotes : Denotes scope .sum before (.number number mark)) (addend : Int) :
    Denotes scope .sum (before ++ addendTokens addend) (.number (number + addend) mark) := by
  unfold addendTokens
  split
  · exact denotes.plus (Denotes.integer addend).product
  · split
    · have lowered := denotes.minus (Denotes.integer (-addend)).product
      rw [Int.sub_neg] at lowered
      exact lowered
    · next notPositive notNegative =>
        have nothing : addend = 0 := by omega
        rw [nothing, List.append_nil, Int.add_zero]
        exact denotes

theorem scans_terms {terms : List DiceTerm} (readable : ∀ term ∈ terms, term.IsReadable)
    (unscaled : ∀ term ∈ terms, term.IsUnscaled) :
    Scans breaks (termsText false terms) (terms.flatMap (DiceTerm.tokens false)) := by
  induction terms with
  | nil => exact .nothing
  | cons head rest ih =>
      obtain ⟨readableHead, readableRest⟩ := List.forall_mem_cons.mp readable
      obtain ⟨unscaledHead, unscaledRest⟩ := List.forall_mem_cons.mp unscaled
      rw [termsText, List.flatMap_cons]
      exact (DiceTerm.scans_text readableHead unscaledHead false).append
        (ih readableRest unscaledRest) (follows_termsText rest).parts

theorem amounts_terms {terms : List DiceTerm} (unscaled : ∀ term ∈ terms, term.IsUnscaled)
    {before : List Token} {sum : Rat} (amounts : Amounts scope .sum before sum) :
    Amounts scope .sum (before ++ terms.flatMap (DiceTerm.tokens false))
      (sum + averageOf terms) := by
  -- Sums are read from the left, so what stands before the terms has to vary.
  induction terms generalizing before sum with
  | nil =>
      rw [List.flatMap_nil, List.append_nil, averageOf_nil, add_zero]
      exact amounts
  | cons head rest ih =>
      obtain ⟨unscaledHead, unscaledRest⟩ := List.forall_mem_cons.mp unscaled
      rw [List.flatMap_cons, ← List.append_assoc, averageOf_cons, ← add_assoc]
      exact ih unscaledRest (DiceTerm.amounts_following amounts unscaledHead)

def tokens (dice : Dice) : List Token :=
  match dice.terms with
  | [] => addendTokens dice.addend
  | head :: rest =>
      head.tokens true ++ rest.flatMap (DiceTerm.tokens false) ++ addendTokens dice.addend

theorem scans_text {dice : Dice} (readable : dice.IsReadable) (unscaled : dice.IsUnscaled) :
    Scans breaks dice.text dice.tokens := by
  obtain ⟨terms, addend⟩ := dice
  obtain ⟨some, readableTerms⟩ := readable
  cases terms with
  | nil => exact absurd rfl some
  | cons head rest =>
      obtain ⟨readableHead, readableRest⟩ := List.forall_mem_cons.mp readableTerms
      obtain ⟨unscaledHead, unscaledRest⟩ := List.forall_mem_cons.mp unscaled
      rw [text_eq some]
      exact ((DiceTerm.scans_text readableHead unscaledHead true).append
        (scans_terms readableRest unscaledRest) (follows_termsText rest).parts).append
          (scans_addend addend) (follows_addend addend).parts

/-- Dice without factors denote dice or a number of the same average. -/
theorem amounts_text {dice : Dice} (some : dice.terms ≠ []) (unscaled : dice.IsUnscaled) :
    Amounts scope .sum dice.tokens dice.average := by
  obtain ⟨terms, addend⟩ := dice
  cases terms with
  | nil => exact absurd rfl some
  | cons head rest =>
      obtain ⟨unscaledHead, unscaledRest⟩ := List.forall_mem_cons.mp unscaled
      rw [average_eq, averageOf_cons]
      exact amounts_addend
        (amounts_terms unscaledRest (DiceTerm.amounts_leading unscaledHead)) addend

theorem legible_terms (terms : List DiceTerm) :
    AreLegible (terms.flatMap (DiceTerm.tokens false)) := by
  intro number member
  obtain ⟨term, _, isToken⟩ := List.mem_flatMap.mp member
  exact DiceTerm.legible_tokens false term number isToken

theorem legible_tokens {dice : Dice} :
    AreLegible dice.tokens ↔ Number.isWritable dice.addend = true := by
  rw [← legible_addend]
  unfold tokens
  split
  · exact Iff.rfl
  · next head rest _ =>
      have terms := (head.legible_tokens true).append (legible_terms rest)
      exact ⟨AreLegible.after, terms.append⟩

end Dice

/-! ### Dice with a factor -/

theorem factorText_scales (factor : Rat) :
    ∃ sign back, DiceTerm.factorText factor = sign :: back ∧ IsScale sign := by
  unfold DiceTerm.factorText
  split
  · exact ⟨_, _, rfl, Or.inl rfl⟩
  · split
    · exact ⟨_, _, rfl, Or.inr rfl⟩
    · exact ⟨_, _, rfl, Or.inl rfl⟩

theorem DiceTerm.text_scaled {term : DiceTerm} (readable : term.IsReadable)
    (scaled : ¬term.IsUnscaled) (leading : Bool) : IsScaled breaks (term.text leading) := by
  obtain ⟨sign, back, isFactor, isScale⟩ := factorText_scales (factorSize term.factor)
  have grouped : term.unsignedText =
      '(' :: term.diceText ++ ' ' :: factorText (factorSize term.factor) ++ [')'] := if_neg scaled
  have scans : Scans breaks term.diceText [.dice (Dice.single term.count term.die 0)] :=
    scans_dice term.die term.factor readable.positive readable.few
  refine ⟨signText leading term.factor ++ '(' :: term.diceText, sign, back ++ [')'], _, ?_,
    isScale, scans_sign scans.parenthesis leading term.factor⟩
  rw [text, grouped, isFactor]
  simp

namespace Dice

theorem termsText_scaled {terms : List DiceTerm} (readable : ∀ term ∈ terms, term.IsReadable)
    (scaled : ¬∀ term ∈ terms, term.IsUnscaled) (leading : Bool) :
    IsScaled breaks (termsText leading terms) := by
  induction terms generalizing leading with
  | nil => exact absurd (List.forall_mem_nil _) scaled
  | cons head rest ih =>
      obtain ⟨readableHead, readableRest⟩ := List.forall_mem_cons.mp readable
      rw [termsText]
      by_cases unscaledHead : head.IsUnscaled
      · have scaledRest : ¬∀ term ∈ rest, term.IsUnscaled := fun unscaledRest =>
          scaled (List.forall_mem_cons.mpr ⟨unscaledHead, unscaledRest⟩)
        exact (ih readableRest scaledRest false).after
          (DiceTerm.scans_text readableHead unscaledHead leading) (follows_termsText rest)
      · exact (DiceTerm.text_scaled readableHead unscaledHead leading).before _

/-- Dice of which a term has a factor are no expression. -/
theorem text_scaled {dice : Dice} (readable : dice.IsReadable) (scaled : ¬dice.IsUnscaled) :
    IsScaled breaks dice.text := by
  rw [text_eq readable.some]
  exact (termsText_scaled readable.terms scaled true).before _

end Dice

end Bestiary
