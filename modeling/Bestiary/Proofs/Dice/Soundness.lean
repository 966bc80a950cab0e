import Bestiary.Proofs.Dice.Grammar
import Bestiary.Proofs.Outcome

/-!
What the scans of dice notation read is written in its grammar.
-/

namespace Bestiary

open Text

namespace Dice

section Sound

variable {input : List Char} {term : DiceTerm} {rest : Shorter input}

theorem scanNumeral_sound {head : Char} {tail : List Char} {value : Nat}
    {rest : Shorter (head :: tail)} (digit : isDigit head = true)
    (scanned : scanNumeral head tail = .ok (value, rest)) :
    ∃ written, head :: tail = written ++ rest.1 ∧ Numeral written value := by
  unfold scanNumeral at scanned
  dsimp only at scanned
  split at scanned
  · cases scanned
  · rename_i number known
    cases scanned
    refine ⟨head :: tail.takeWhile isDigit, ?_, List.cons_ne_nil _ _, ?_, known⟩
    · rw [List.cons_append, List.takeWhile_append_dropWhile]
    · intro character member
      rcases List.mem_cons.mp member with rfl | later
      · exact digit
      · exact List.all_eq_true.mp List.all_takeWhile character later

theorem scanSides_sound {count : Option Nat} {start : List Char}
    (scanned : scanSides count start input = .ok (term, rest)) :
    ∃ faces die, input = faces ++ rest.1 ∧ Faces faces die ∧ 1 ≤ count.getD 1 ∧
      count.getD 1 ≤ countLimit ∧ term = ⟨count.getD 1, die, 1⟩ := by
  cases input with
  | nil => cases scanned
  | cons head tail =>
      rw [scanSides] at scanned
      split at scanned
      · rename_i digit
        obtain ⟨⟨sides, left⟩, numeral, scanned⟩ := bind_eq_ok.mp scanned
        obtain ⟨faces, inputEq, written⟩ := scanNumeral_sound digit numeral
        dsimp only at scanned
        by_cases none : count.getD 1 = 0
        · rw [if_pos none] at scanned
          cases scanned
        · rw [if_neg none] at scanned
          by_cases many : countLimit < count.getD 1
          · rw [if_pos many] at scanned
            cases scanned
          · rw [if_neg many] at scanned
            split at scanned
            · cases scanned
            · rename_i die known
              cases scanned
              exact ⟨faces, die, inputEq, ⟨sides, written, known⟩, Nat.pos_of_ne_zero none,
                Nat.le_of_not_lt many, rfl⟩
      · cases scanned

theorem scanInnerDice_sound (scanned : scanInnerDice input = .ok (term, rest)) :
    ∃ written, input = written ++ rest.1 ∧ PlainDice written term := by
  cases input with
  | nil => cases scanned
  | cons head tail =>
      rw [scanInnerDice] at scanned
      split at scanned
      · rename_i digit
        obtain ⟨⟨count, afterCount⟩, numeral, scanned⟩ := bind_eq_ok.mp scanned
        obtain ⟨number, inputEq, written⟩ := scanNumeral_sound digit numeral
        dsimp only at scanned
        split at scanned
        · cases scanned
        · rename_i separator others follows
          split at scanned
          · rename_i separates
            obtain ⟨⟨found, left⟩, sides, scanned⟩ := bind_eq_ok.mp scanned
            cases scanned
            obtain ⟨faces, die, othersEq, isFaces, positive, few, rfl⟩ := scanSides_sound sides
            rw [follows, othersEq] at inputEq
            exact ⟨_, inputEq.trans (List.append_assoc number (_ :: faces) left.1).symm,
              .several written positive few separates isFaces⟩
          · cases scanned
      · split at scanned
        · rename_i separates
          obtain ⟨⟨found, left⟩, sides, scanned⟩ := bind_eq_ok.mp scanned
          cases scanned
          obtain ⟨faces, die, othersEq, isFaces, _, _, rfl⟩ := scanSides_sound sides
          exact ⟨_, congrArg (head :: ·) othersEq, .single separates isFaces⟩
        · cases scanned

theorem scanFactorSize_sound {size : Rat} (scanned : scanFactorSize input = .ok (size, rest)) :
    ∃ written, input = written ++ rest.1 ∧ Size written size := by
  cases input with
  | nil => cases scanned
  | cons head tail =>
      rw [scanFactorSize] at scanned
      split at scanned
      · rename_i digit
        obtain ⟨⟨whole, afterWhole⟩, numeral, scanned⟩ := bind_eq_ok.mp scanned
        obtain ⟨upper, inputEq, upperWritten⟩ := scanNumeral_sound digit numeral
        dsimp only at scanned
        split at scanned
        · rename_i second others follows
          split at scanned
          · rename_i digitSecond
            obtain ⟨⟨denominator, left⟩, numeralLower, scanned⟩ := bind_eq_ok.mp scanned
            obtain ⟨lower, othersEq, lowerWritten⟩ := scanNumeral_sound digitSecond numeralLower
            dsimp only at scanned
            by_cases none : denominator = 0
            · rw [if_pos none] at scanned
              cases scanned
            · rw [if_neg none] at scanned
              cases scanned
              rw [follows, othersEq] at inputEq
              exact ⟨_, inputEq.trans (List.append_assoc upper (_ :: lower) left.1).symm,
                .fraction upperWritten lowerWritten none⟩
          · cases scanned
        · cases scanned
        · cases scanned
          exact ⟨upper, inputEq, .whole upperWritten⟩
      · cases scanned

theorem scanFactor_sound {factor : Rat} (scanned : scanFactor input = .ok (factor, rest)) :
    ∃ written, input = written ++ rest.1 ∧ Factor written factor := by
  unfold scanFactor at scanned
  split at scanned
  · obtain ⟨⟨size, left⟩, sized, scanned⟩ := bind_eq_ok.mp scanned
    cases scanned
    obtain ⟨written, inputEq, isSize⟩ := scanFactorSize_sound sized
    exact ⟨_, congrArg ('-' :: ·) inputEq, .negative isSize⟩
  · obtain ⟨written, inputEq, isSize⟩ := scanFactorSize_sound scanned
    exact ⟨_, inputEq, .positive isSize⟩

theorem blanks_skipBlanks (input : List Char) :
    ∃ blanks, Blanks blanks ∧ input = blanks ++ skipBlanks input :=
  ⟨input.takeWhile isBlank, List.all_eq_true.mp List.all_takeWhile,
    List.takeWhile_append_dropWhile.symm⟩

theorem scanFactored_sound (scanned : scanFactored input = .ok (term, rest)) :
    ∃ written, input = written ++ rest.1 ∧ ScaledDice written term := by
  unfold scanFactored at scanned
  obtain ⟨⟨dice, afterDice⟩, inner, scanned⟩ := bind_eq_ok.mp scanned
  obtain ⟨first, blanksFirst, inputEq⟩ := blanks_skipBlanks input
  obtain ⟨plain, plainEq, isDice⟩ := scanInnerDice_sound inner
  obtain ⟨second, blanksSecond, signEq⟩ := blanks_skipBlanks afterDice.1
  dsimp only at scanned
  split at scanned
  · cases scanned
  · rename_i sign others follows
    split at scanned
    · cases scanned
    · rename_i joining known
      obtain ⟨⟨written, afterFactor⟩, factored, scanned⟩ := bind_eq_ok.mp scanned
      obtain ⟨third, blanksThird, othersEq⟩ := blanks_skipBlanks others
      obtain ⟨factor, factorEq, isFactor⟩ := scanFactor_sound factored
      obtain ⟨fourth, blanksFourth, closingEq⟩ := blanks_skipBlanks afterFactor.1
      have closes {joined : Rat} {left : List Char} (joins : Joins sign written joined)
          (closing : skipBlanks afterFactor.1 = ')' :: left) :
          ∃ scaled, input = scaled ++ left ∧ ScaledDice scaled (dice.scale joined) := by
        rw [plainEq, signEq, follows, othersEq, factorEq, closingEq, closing] at inputEq
        exact ⟨_, inputEq.trans (by simp), .intro blanksFirst isDice blanksSecond joins
          blanksThird isFactor blanksFourth⟩
      cases joining with
      | times =>
          obtain ⟨factor, same, scanned⟩ := bind_eq_ok.mp scanned
          cases same
          split at scanned
          · rename_i left closing
            cases scanned
            exact closes (.product known) closing
          · cases scanned
      | «over» =>
          dsimp only at scanned
          by_cases none : written = 0
          · rw [if_pos none] at scanned
            cases scanned
          · rw [if_neg none] at scanned
            obtain ⟨factor, same, scanned⟩ := bind_eq_ok.mp scanned
            cases same
            split at scanned
            · rename_i left closing
              cases scanned
              exact closes (.quotient known none) closing
            · cases scanned

theorem scanTerm_sound {after : Option Char} {part : Part}
    (scanned : scanTerm after input = .ok (part, rest)) :
    ∃ written, input = written ++ rest.1 ∧ Term written part := by
  unfold scanTerm at scanned
  split at scanned
  · cases scanned
  · obtain ⟨⟨term, left⟩, factored, scanned⟩ := bind_eq_ok.mp scanned
    cases scanned
    obtain ⟨written, inputEq, isScaled⟩ := scanFactored_sound factored
    exact ⟨_, congrArg ('(' :: ·) inputEq, .scaled isScaled⟩
  · rename_i head tail notOpening
    split at scanned
    · rename_i digit
      obtain ⟨⟨count, afterCount⟩, numeral, scanned⟩ := bind_eq_ok.mp scanned
      obtain ⟨number, inputEq, written⟩ := scanNumeral_sound digit numeral
      dsimp only at scanned
      split at scanned
      · cases scanned
        exact ⟨number, inputEq, .constant written⟩
      · rename_i separator others follows
        split at scanned
        · rename_i separates
          obtain ⟨⟨found, left⟩, sides, scanned⟩ := bind_eq_ok.mp scanned
          cases scanned
          obtain ⟨faces, die, othersEq, isFaces, positive, few, rfl⟩ := scanSides_sound sides
          rw [follows, othersEq] at inputEq
          exact ⟨_, inputEq.trans (List.append_assoc number (_ :: faces) left.1).symm,
            .plain (.several written positive few separates isFaces)⟩
        · split at scanned
          · cases scanned
          · cases scanned
            exact ⟨number, inputEq, .constant written⟩
    · split at scanned
      · rename_i separates
        obtain ⟨⟨found, left⟩, sides, scanned⟩ := bind_eq_ok.mp scanned
        cases scanned
        obtain ⟨faces, die, othersEq, isFaces, _, _, rfl⟩ := scanSides_sound sides
        exact ⟨_, congrArg (head :: ·) othersEq, .plain (.single separates isFaces)⟩
      · cases scanned

def addParts (dice : Dice) (parts : List (Bool × Part)) : Dice :=
  parts.foldl (fun sum part => sum.addPart part.1 part.2) dice

theorem scanParts_sound {dice result : Dice} (scanned : scanParts dice input = .ok result) :
    ∃ parts, Further input parts ∧ result = dice.addParts parts := by
  fun_induction scanParts dice input with
  | case1 dice input ends =>
      cases scanned
      obtain ⟨blanks, isBlanks, inputEq⟩ := blanks_skipBlanks input
      rw [ends, List.append_nil] at inputEq
      exact ⟨[], inputEq ▸ .finish isBlanks, rfl⟩
  | case2 dice input operator tail follows isOperator ih =>
      obtain ⟨⟨part, rest⟩, scannedTerm, scanned⟩ := bind_eq_ok.mp scanned
      obtain ⟨before, blanksBefore, inputEq⟩ := blanks_skipBlanks input
      obtain ⟨after, blanksAfter, tailEq⟩ := blanks_skipBlanks tail
      obtain ⟨written, writtenEq, isTerm⟩ := scanTerm_sound scannedTerm
      obtain ⟨parts, further, rfl⟩ := ih part rest scanned
      have known : operator = '+' ∨ operator = '-' := by simpa using isOperator
      rw [follows, tailEq, writtenEq] at inputEq
      refine ⟨(operator == '-', part) :: parts, ?_, rfl⟩
      rw [inputEq]
      exact .next blanksBefore known blanksAfter isTerm further
  | case3 => cases scanned

end Sound

end Dice

end Bestiary
