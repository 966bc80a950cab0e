import Bestiary.Dice.Report
import Bestiary.Proofs.Dice.Completeness

/-!
Which texts are dice, and where the others go wrong.

A scan that fails does so at a place of its text. Only digits that stand for no
number fail without a report; a text without such digits is read as dice, or it
is reported.
-/

namespace Bestiary

open Text

namespace Dice

/-! ### Where a scan stops -/

/-- A scan stops at a place of its text, and at digits only if they have no value. -/
structure StopsWithin (text : List Char) (stop : Stop DiceFault) : Prop where
  left : stop.left <:+ text
  unreadable : ∀ digits, stop.fault = .unreadableNumeral digits →
    digits <:+: text ∧ (∀ character ∈ digits, isDigit character = true) ∧
      numeralValue? digits = none

abbrev FailsInside {α : Type} (text : List Char) (outcome : Except (Stop DiceFault) α) : Prop :=
  FailsWithin (StopsWithin text) outcome

section Stops

variable {text input : List Char}

theorem failsInside_of_reported {α : Type} {fault : DiceFault} {left : List Char}
    (within : left <:+ text) (reported : fault.kind?.isSome = true) :
    FailsInside text (.error ⟨fault, left⟩ : Except (Stop DiceFault) α) := by
  refine failsWithin_error ⟨within, ?_⟩
  rintro digits rfl
  cases reported

theorem suffix_of_append {written rest : List Char} (within : written ++ rest <:+ text) :
    rest <:+ text :=
  (List.suffix_append written rest).trans within

theorem suffix_tail {head : Char} {tail : List Char} (within : head :: tail <:+ text) :
    tail <:+ text :=
  (List.suffix_cons head tail).trans within

theorem suffix_skipBlanks (within : input <:+ text) : skipBlanks input <:+ text :=
  (List.dropWhile_suffix isBlank).trans within

theorem scanNumeral_stops {head : Char} {tail : List Char} (within : head :: tail <:+ text)
    (digit : isDigit head = true) : FailsInside text (scanNumeral head tail) := by
  unfold scanNumeral
  dsimp only
  split
  · rename_i unknown
    refine failsWithin_error ⟨within, ?_⟩
    rintro digits same
    cases same
    have front : head :: tail.takeWhile isDigit <+: head :: tail :=
      (List.cons_prefix_cons).mpr ⟨rfl, List.takeWhile_prefix isDigit⟩
    refine ⟨front.isInfix.trans within.isInfix, ?_, unknown⟩
    exact List.forall_mem_cons.mpr ⟨digit, List.all_eq_true.mp List.all_takeWhile⟩
  · exact failsWithin_ok _

theorem scanSides_stops (count : Option Nat) {start : List Char} (within : input <:+ text)
    (started : start <:+ text) : FailsInside text (scanSides count start input) := by
  cases input with
  | nil => exact failsInside_of_reported within rfl
  | cons head tail =>
      rw [scanSides]
      split
      · rename_i digit
        refine (scanNumeral_stops within digit).bind fun found _ => ?_
        obtain ⟨sides, left⟩ := found
        dsimp only
        by_cases none : count.getD 1 = 0
        · rw [if_pos none]
          exact failsInside_of_reported started rfl
        · rw [if_neg none]
          by_cases many : countLimit < count.getD 1
          · rw [if_pos many]
            exact failsInside_of_reported started rfl
          · rw [if_neg many]
            split
            · exact failsInside_of_reported within rfl
            · exact failsWithin_ok _
      · exact failsInside_of_reported within rfl

theorem scanInnerDice_stops (within : input <:+ text) : FailsInside text (scanInnerDice input) := by
  cases input with
  | nil => exact failsInside_of_reported within rfl
  | cons head tail =>
      rw [scanInnerDice]
      split
      · rename_i digit
        refine (scanNumeral_stops within digit).bind fun found numeral => ?_
        obtain ⟨count, afterCount⟩ := found
        obtain ⟨number, inputEq, _⟩ := scanNumeral_sound digit numeral
        have withinAfter : afterCount.1 <:+ text := suffix_of_append (inputEq ▸ within)
        dsimp only
        split
        · rename_i ends
          exact failsInside_of_reported (ends ▸ withinAfter) rfl
        · rename_i separator others follows
          rw [follows] at withinAfter
          split
          · exact (scanSides_stops _ (suffix_tail withinAfter) within).bind
              fun _ _ => failsWithin_ok _
          · exact failsInside_of_reported withinAfter rfl
      · split
        · exact (scanSides_stops _ (suffix_tail within) within).bind fun _ _ => failsWithin_ok _
        · exact failsInside_of_reported within rfl

theorem scanFactorSize_stops (within : input <:+ text) :
    FailsInside text (scanFactorSize input) := by
  cases input with
  | nil => exact failsInside_of_reported within rfl
  | cons head tail =>
      rw [scanFactorSize]
      split
      · rename_i digit
        refine (scanNumeral_stops within digit).bind fun found numeral => ?_
        obtain ⟨whole, afterWhole⟩ := found
        obtain ⟨upper, inputEq, _⟩ := scanNumeral_sound digit numeral
        have withinAfter : afterWhole.1 <:+ text := suffix_of_append (inputEq ▸ within)
        dsimp only
        split
        · rename_i second others follows
          rw [follows] at withinAfter
          split
          · rename_i digitSecond
            have withinLower : second :: others <:+ text := suffix_tail withinAfter
            refine (scanNumeral_stops withinLower digitSecond).bind fun found lower => ?_
            obtain ⟨denominator, left⟩ := found
            obtain ⟨_, lowerEq, _⟩ := scanNumeral_sound digitSecond lower
            dsimp only
            by_cases none : denominator = 0
            · rw [if_pos none]
              exact failsInside_of_reported (suffix_of_append (lowerEq ▸ withinLower)) rfl
            · rw [if_neg none]
              exact failsWithin_ok _
          · exact failsInside_of_reported (suffix_tail withinAfter) rfl
        · rename_i follows
          rw [follows] at withinAfter
          exact failsInside_of_reported (suffix_tail withinAfter) rfl
        · exact failsWithin_ok _
      · exact failsInside_of_reported within rfl

theorem scanFactor_stops (within : input <:+ text) : FailsInside text (scanFactor input) := by
  unfold scanFactor
  split
  · exact (scanFactorSize_stops (suffix_tail within)).bind fun _ _ => failsWithin_ok _
  · exact scanFactorSize_stops within

theorem scanFactored_stops (within : input <:+ text) : FailsInside text (scanFactored input) := by
  unfold scanFactored
  have withinDice : skipBlanks input <:+ text := suffix_skipBlanks within
  refine (scanInnerDice_stops withinDice).bind fun found inner => ?_
  obtain ⟨dice, afterDice⟩ := found
  obtain ⟨_, diceEq, _⟩ := scanInnerDice_sound inner
  have withinSign : skipBlanks afterDice.1 <:+ text :=
    suffix_skipBlanks (suffix_of_append (diceEq ▸ withinDice))
  dsimp only
  split
  · rename_i ends
    exact failsInside_of_reported (ends ▸ withinSign) rfl
  · rename_i sign others follows
    rw [follows] at withinSign
    split
    · exact failsInside_of_reported withinSign rfl
    · rename_i joining known
      have withinFactor : skipBlanks others <:+ text :=
        suffix_skipBlanks (suffix_tail withinSign)
      refine (scanFactor_stops withinFactor).bind fun found factored => ?_
      obtain ⟨written, afterFactor⟩ := found
      obtain ⟨_, factorEq, _⟩ := scanFactor_sound factored
      have withinAfter : afterFactor.1 <:+ text := suffix_of_append (factorEq ▸ withinFactor)
      have withinEnd : skipBlanks afterFactor.1 <:+ text := suffix_skipBlanks withinAfter
      cases joining with
      | times =>
          refine (failsWithin_ok _).bind fun _ _ => ?_
          split
          · exact failsWithin_ok _
          · exact failsInside_of_reported withinEnd rfl
      | «over» =>
          dsimp only
          by_cases none : written = 0
          · rw [if_pos none]
            exact failsInside_of_reported withinAfter rfl
          · rw [if_neg none]
            refine (failsWithin_ok _).bind fun _ _ => ?_
            split
            · exact failsWithin_ok _
            · exact failsInside_of_reported withinEnd rfl

theorem scanTerm_stops (after : Option Char) (within : input <:+ text) :
    FailsInside text (scanTerm after input) := by
  unfold scanTerm
  split
  · exact failsInside_of_reported within rfl
  · exact (scanFactored_stops (suffix_tail within)).bind fun _ _ => failsWithin_ok _
  · rename_i head tail _
    split
    · rename_i digit
      refine (scanNumeral_stops within digit).bind fun found numeral => ?_
      obtain ⟨count, afterCount⟩ := found
      obtain ⟨number, inputEq, _⟩ := scanNumeral_sound digit numeral
      have withinAfter : afterCount.1 <:+ text := suffix_of_append (inputEq ▸ within)
      dsimp only
      split
      · exact failsWithin_ok _
      · rename_i separator others follows
        rw [follows] at withinAfter
        split
        · exact (scanSides_stops _ (suffix_tail withinAfter) within).bind
            fun _ _ => failsWithin_ok _
        · split
          · exact failsInside_of_reported withinAfter rfl
          · exact failsWithin_ok _
    · split
      · exact (scanSides_stops _ (suffix_tail within) within).bind fun _ _ => failsWithin_ok _
      · exact failsInside_of_reported within rfl

theorem scanParts_stops (dice : Dice) (within : input <:+ text) :
    FailsInside text (scanParts dice input) := by
  fun_induction scanParts dice input with
  | case1 => exact failsWithin_ok _
  | case2 dice input operator tail follows _ ih =>
      have withinTail : skipBlanks tail <:+ text :=
        suffix_skipBlanks (suffix_tail (follows ▸ suffix_skipBlanks within))
      refine (scanTerm_stops _ withinTail).bind fun found scanned => ?_
      obtain ⟨part, rest⟩ := found
      obtain ⟨_, tailEq, _⟩ := scanTerm_sound scanned
      exact ih part rest (suffix_of_append (tailEq ▸ withinTail))
  | case3 dice input operator tail follows _ =>
      exact failsInside_of_reported (follows ▸ suffix_skipBlanks within) rfl

theorem scan_stops (text : List Char) : FailsInside text (scan text) := by
  rw [scan]
  by_cases blank : (skipBlanks text).isEmpty = true
  · rw [if_pos blank]
    exact failsInside_of_reported List.suffix_rfl rfl
  · rw [if_neg blank]
    split
    rename_i negative first sign
    have withinFirst : first <:+ text := by
      have within : skipBlanks text <:+ text := suffix_skipBlanks List.suffix_rfl
      split at sign
      · rename_i others minus
        cases sign
        exact suffix_skipBlanks (suffix_tail (minus ▸ within))
      · cases sign
        exact within
    refine (scanTerm_stops none withinFirst).bind fun found scannedTerm => ?_
    obtain ⟨part, rest⟩ := found
    obtain ⟨_, firstEq, _⟩ := scanTerm_sound scannedTerm
    refine (scanParts_stops _ (suffix_of_append (firstEq ▸ withinFirst))).bind fun sum _ => ?_
    by_cases none : sum.terms.isEmpty = true
    · rw [if_pos none]
      exact failsInside_of_reported List.suffix_rfl rfl
    · rw [if_neg none]
      exact failsWithin_ok _

end Stops

/-! ### Which texts are dice -/

/-- The digits of a text are decimal, and none of its numerals is too long to be read. -/
structure HasNumerals (text : List Char) : Prop where
  decimal : ∀ character ∈ text, isDigit character = true →
    (decimalValue? character).isSome = true
  short : ∀ digits, digits <:+: text → (∀ character ∈ digits, isDigit character = true) →
    digits.length ≤ numeralLimit

theorem numeralValue?_of_decimal {digits : List Char} (short : digits.length ≤ numeralLimit)
    (decimal : ∀ character ∈ digits, (decimalValue? character).isSome = true) :
    ∃ value, numeralValue? digits = some value := by
  have folds (start : Nat) : ∃ value, digits.foldl
      (fun total digit => do
        let value ← total
        let place ← decimalValue? digit
        pure (value * 10 + place)) (some start) = some value := by
    clear short
    induction digits generalizing start with
    | nil => exact ⟨start, rfl⟩
    | cons digit others ih =>
        obtain ⟨decimalDigit, decimalOthers⟩ := List.forall_mem_cons.mp decimal
        obtain ⟨place, known⟩ := Option.isSome_iff_exists.mp decimalDigit
        rw [List.foldl_cons, known]
        exact ih decimalOthers (start * 10 + place)
  rw [numeralValue?, if_neg (Nat.not_lt.mpr short)]
  exact folds 0

theorem HasNumerals.known {text digits : List Char} (numerals : HasNumerals text)
    (inside : digits <:+: text) (areDigits : ∀ character ∈ digits, isDigit character = true) :
    ∃ value, numeralValue? digits = some value :=
  numeralValue?_of_decimal (numerals.short digits inside areDigits) fun character member =>
    numerals.decimal character (inside.subset member) (areDigits character member)

def HasDice (parts : List (Bool × Part)) : Prop :=
  ∃ part ∈ parts, ∃ term, part.2 = .dice term

theorem hasDice_iff {parts : List (Bool × Part)} :
    HasDice parts ↔ (ofParts parts).terms ≠ [] := by
  constructor
  · rintro ⟨⟨negative, part⟩, member, term, rfl⟩ none
    cases List.filterMap_eq_nil_iff.mp none _ member
  · intro some
    obtain ⟨term, member⟩ := List.exists_mem_of_ne_nil _ some
    obtain ⟨⟨negative, part⟩, member, signed⟩ := List.mem_filterMap.mp member
    cases part with
    | dice term => exact ⟨_, member, term, rfl⟩
    | constant amount => cases signed

theorem ofText_eq_ok_iff {text : String} {dice : Dice} :
    ofText text = .ok dice ↔
      ∃ parts, Sum text.toList parts ∧ HasDice parts ∧ dice = ofParts parts := by
  rw [ofText, mapError_eq_ok, scan_eq_ok_iff]
  constructor
  · rintro ⟨parts, isSum, rfl, some⟩
    exact ⟨parts, isSum, hasDice_iff.mpr some, rfl⟩
  · rintro ⟨parts, isSum, hasDice, rfl⟩
    exact ⟨parts, isSum, rfl, hasDice_iff.mp hasDice⟩

theorem kind?_diceNotation {fault : DiceFault}
    (reported : ∀ digits, fault ≠ .unreadableNumeral digits) :
    ∃ kind, fault.kind? = some kind ∧ .diceNotation ∈ kind.ancestors := by
  cases fault with
  | unreadableNumeral digits => exact (reported digits rfl).elim
  | unknownFace _ => exact ⟨_, rfl, by decide⟩
  | expectedTerm _ => exact ⟨_, rfl, by decide⟩
  | expectedOperator _ => exact ⟨_, rfl, by decide⟩
  | _ => exact ⟨_, rfl, by decide⟩

/-- Dice notation is read exactly by its grammar. A text whose numerals can be read is dice if it
is a sum with dice in it, and it is then what that sum says; on every other such text the fault
is reported as one of dice notation, at a place of the text. -/
theorem ofText_accepts_iff (text : String) (numerals : HasNumerals text.toList) :
    (∀ dice, ofText text = .ok dice ↔
      ∃ parts, Sum text.toList parts ∧ HasDice parts ∧ dice = ofParts parts) ∧
    ((¬∃ parts, Sum text.toList parts ∧ HasDice parts) →
      ∃ fault before left kind, ofText text = .error ⟨fault, text, before.length⟩ ∧
        text.toList = before ++ left ∧
        fault.kind? = some kind ∧ .diceNotation ∈ kind.ancestors) := by
  refine ⟨fun dice => ofText_eq_ok_iff, ?_⟩
  intro noSum
  cases scanned : scan text.toList with
  | ok dice =>
      have read : ofText text = .ok dice := by rw [ofText, scanned]; rfl
      obtain ⟨parts, isSum, hasDice, _⟩ := ofText_eq_ok_iff.mp read
      exact (noSum ⟨parts, isSum, hasDice⟩).elim
  | error stop =>
      obtain ⟨fault, left⟩ := stop
      obtain ⟨⟨before, split⟩, unreadable⟩ := scan_stops text.toList _ scanned
      have reported (digits : List Char) : fault ≠ .unreadableNumeral digits := by
        intro same
        obtain ⟨inside, areDigits, unknown⟩ := unreadable digits same
        obtain ⟨value, known⟩ := numerals.known inside areDigits
        cases unknown.symm.trans known
      obtain ⟨kind, known, isNotation⟩ := kind?_diceNotation reported
      have position : offsetOf text.toList left = before.length := by
        rw [offsetOf, ← split, List.length_append, Nat.add_sub_cancel]
      refine ⟨fault, before, left, kind, ?_, split.symm, known, isNotation⟩
      rw [ofText, scanned, ← position]
      rfl

theorem ofText_accepts_iff_quotient :
    HasNumerals " -(2d6 ÷ 3)+ 1".toList ∧
      ∃ parts, Sum " -(2d6 ÷ 3)+ 1".toList parts ∧ HasDice parts ∧
        (⟨[⟨2, .d6, mkRat (-1) 3⟩], 1⟩ : Dice) = ofParts parts := by
  have numerals : HasNumerals " -(2d6 ÷ 3)+ 1".toList := by
    have decimal : (" -(2d6 ÷ 3)+ 1".toList.filter isDigit).all
        (fun character => (decimalValue? character).isSome) = true := by decide
    refine ⟨fun character member digit => ?_, fun digits inside _ => ?_⟩
    · exact List.all_eq_true.mp decimal character (List.mem_filter.mpr ⟨member, digit⟩)
    · exact Nat.le_trans inside.length_le (by decide)
  have read : ofText " -(2d6 ÷ 3)+ 1" = .ok ⟨[⟨2, .d6, mkRat (-1) 3⟩], 1⟩ :=
    eq_ok_of_toOption (by decide +kernel)
  obtain ⟨accepts, _⟩ := ofText_accepts_iff " -(2d6 ÷ 3)+ 1" numerals
  exact ⟨numerals, (accepts _).mp read⟩

end Dice

end Bestiary
