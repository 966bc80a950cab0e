import Mathlib.Data.List.Find
import Bestiary.Proofs.Document.Grammar

/-!
Numbers and words before a quotation mark.

No number and no word goes on past a quotation mark. What a text starts with
up to its first quotation mark can therefore be read without looking at what
is quoted.
-/

namespace Bestiary.Document

open Text

variable {front quoted rest : List Char} {value : Value}

theorem run_before_quote {kind : Char → Bool} (stop : kind '"' = false)
    (front quoted : List Char) :
    (front ++ '"' :: quoted).takeWhile kind = front.takeWhile kind ∧
      (front ++ '"' :: quoted).dropWhile kind = front.dropWhile kind ++ '"' :: quoted := by
  induction front with
  | nil =>
      rw [List.nil_append]
      exact ⟨List.takeWhile_cons_of_neg (by simp [stop]),
        List.dropWhile_cons_of_neg (by simp [stop])⟩
  | cons head tail ih =>
      obtain ⟨taken, left⟩ := ih
      cases isKind : kind head with
      | true => simp [isKind, taken, left]
      | false => simp [isKind]

theorem decimals_before_quote (front quoted : List Char) :
    (front ++ '"' :: quoted).takeWhile isDecimal = front.takeWhile isDecimal ∧
      (front ++ '"' :: quoted).dropWhile isDecimal =
        front.dropWhile isDecimal ++ '"' :: quoted :=
  run_before_quote (by decide) front quoted

theorem wholeDigits_before_quote (front quoted : List Char) :
    wholeDigits (front ++ '"' :: quoted) =
      ((wholeDigits front).1, (wholeDigits front).2 ++ '"' :: quoted) := by
  obtain ⟨taken, left⟩ := decimals_before_quote front quoted
  by_cases zero : ∃ tail, front = '0' :: tail
  · obtain ⟨tail, rfl⟩ := zero
    rfl
  · have other : ∀ tail, front ≠ '0' :: tail := fun tail same => zero ⟨tail, same⟩
    rw [wholeDigits, wholeDigits, taken, left]
    · exact other
    · intro tail same
      cases front with
      | nil => cases same
      | cons head others =>
          cases same
          exact other others rfl

theorem fractionDigits_before_quote (front quoted : List Char) :
    fractionDigits (front ++ '"' :: quoted) =
      ((fractionDigits front).1, (fractionDigits front).2 ++ '"' :: quoted) := by
  rcases front with _ | ⟨point, _ | ⟨digit, tail⟩⟩
  · rfl
  · by_cases isPoint : point = '.'
    · subst isPoint
      rfl
    · simp [fractionDigits, isPoint]
  · by_cases isPoint : point = '.'
    · subst isPoint
      obtain ⟨taken, left⟩ := decimals_before_quote tail quoted
      rw [List.cons_append, List.cons_append, fractionDigits, fractionDigits, taken, left]
      split <;> rfl
    · simp [fractionDigits, isPoint]

theorem exponentDigits_before_quote (front quoted : List Char) :
    exponentDigits (front ++ '"' :: quoted) =
      ((exponentDigits front).1, (exponentDigits front).2 ++ '"' :: quoted) := by
  rcases front with _ | ⟨mark, tail⟩
  · rfl
  · by_cases isMark : (mark == 'e' || mark == 'E') = true
    · obtain ⟨taken, left⟩ := decimals_before_quote tail quoted
      simp only [List.cons_append, exponentDigits, if_pos isMark]
      rcases tail with _ | ⟨sign, others⟩
      · rfl
      · obtain ⟨takenOthers, leftOthers⟩ := decimals_before_quote others quoted
        by_cases minus : sign = '-'
        · subst minus
          simp only [List.cons_append, takenOthers, leftOthers]
          split <;> rfl
        · by_cases plus : sign = '+'
          · subst plus
            simp only [List.cons_append, takenOthers, leftOthers]
            split <;> rfl
          · simp only [List.cons_append] at taken left ⊢
            simp [minus, plus, taken, left]
            split <;> rfl
    · simp only [List.cons_append, exponentDigits, if_neg isMark]

def numberAfterSign? (negative : Bool) (unsigned : List Char) : Option NumberText :=
  let (whole, afterWhole) := wholeDigits unsigned
  if whole.isEmpty then none
  else
    let (fraction, afterFraction) := fractionDigits afterWhole
    let (exponent, rest) := exponentDigits afterFraction
    some ⟨negative, whole, fraction, exponent, rest⟩

theorem numberText?_unsigned {input : List Char} (unsigned : input.head? ≠ some '-') :
    numberText? input = numberAfterSign? false input := by
  unfold numberText?
  split
  rename_i negative rest sign
  split at sign
  · exact absurd rfl unsigned
  · cases sign
    rfl

/-- A number with something quoted after it. -/
def NumberText.before (number : NumberText) (quoted : List Char) : NumberText :=
  { number with rest := number.rest ++ '"' :: quoted }

theorem numberAfterSign?_before_quote (negative : Bool) (front quoted : List Char) :
    numberAfterSign? negative (front ++ '"' :: quoted) =
      (numberAfterSign? negative front).map (·.before quoted) := by
  unfold numberAfterSign?
  simp only [wholeDigits_before_quote, fractionDigits_before_quote, exponentDigits_before_quote]
  split <;> rfl

theorem numberText?_before_quote (front quoted : List Char) :
    numberText? (front ++ '"' :: quoted) = (numberText? front).map (·.before quoted) := by
  by_cases signed : ∃ tail, front = '-' :: tail
  · obtain ⟨tail, rfl⟩ := signed
    exact numberAfterSign?_before_quote true tail quoted
  · have unsigned : front.head? ≠ some '-' := fun first =>
      signed (List.head?_eq_some_iff.mp first)
    have unsigned' : (front ++ '"' :: quoted).head? ≠ some '-' := by
      cases front with
      | nil => exact fun impossible => absurd (Option.some.inj impossible) (by decide)
      | cons head tail => exact unsigned
    rw [numberText?_unsigned unsigned, numberText?_unsigned unsigned',
      numberAfterSign?_before_quote]

/-! ### Words -/

theorem isPrefixOf_before_quote {word : List Char} (unquoted : '"' ∉ word)
    (front quoted : List Char) :
    word.isPrefixOf (front ++ '"' :: quoted) = word.isPrefixOf front := by
  induction word generalizing front with
  | nil => cases front <;> rfl
  | cons letter others ih =>
      obtain ⟨notLetter, unquoted⟩ := not_or.mp (mt List.mem_cons.mpr unquoted)
      cases front with
      | nil =>
          change (letter == '"' && _) = false
          rw [beq_false_of_ne (Ne.symm notLetter), Bool.false_and]
      | cons head tail =>
          rw [List.cons_append, List.isPrefixOf, List.isPrefixOf, ih unquoted]

theorem wordValues_unquoted : ∀ word ∈ wordValues, '"' ∉ word.1 := by
  intro word listed
  simp only [wordValues, List.mem_cons, List.not_mem_nil, or_false] at listed
  rcases listed with rfl | rfl | rfl | rfl | rfl | rfl <;> decide

theorem wordAhead?_before_quote (front quoted : List Char) :
    wordAhead? (front ++ '"' :: quoted) = wordAhead? front := by
  apply List.find?_congr
  intro word listed
  rw [isPrefixOf_before_quote (wordValues_unquoted word listed)]

/-! ### Scalars -/

theorem startsWithScalar_before_quote :
    StartsWithScalar (front ++ '"' :: quoted) value rest ↔
      ∃ left, rest = left ++ '"' :: quoted ∧ StartsWithScalar front value left := by
  simp only [startsWithScalar_iff, wordAhead?_before_quote, numberText?_before_quote]
  constructor
  · rintro ⟨shorter, ⟨word, found, rfl⟩ | ⟨none, number, found, known, rfl⟩⟩
    · rw [List.drop_append_of_le_length (isPrefix_of_wordAhead? found).length_le] at shorter ⊢
      simp only [List.length_append, Nat.add_lt_add_iff_right] at shorter
      exact ⟨_, rfl, shorter, .inl ⟨word, found, rfl⟩⟩
    · obtain ⟨number, isNumber, rfl⟩ := Option.map_eq_some_iff.mp found
      simp only [NumberText.before, List.length_append, Nat.add_lt_add_iff_right] at shorter
      exact ⟨number.rest, rfl, shorter, .inr ⟨none, number, isNumber, known, rfl⟩⟩
  · rintro ⟨left, rfl, shorter, ⟨word, found, rfl⟩ | ⟨none, number, found, known, rfl⟩⟩
    · refine ⟨by simp only [List.length_append]; omega, .inl ⟨word, found, ?_⟩⟩
      rw [List.drop_append_of_le_length (isPrefix_of_wordAhead? found).length_le]
    · refine ⟨by simp only [List.length_append]; omega,
        .inr ⟨none, number.before quoted, ?_, known, rfl⟩⟩
      exact congrArg (Option.map (·.before quoted)) found

end Bestiary.Document
