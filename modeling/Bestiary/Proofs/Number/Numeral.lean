import Bestiary.Number.Numeral
import Mathlib.Data.List.TakeWhile
import Mathlib.Data.Nat.Digits.Defs

/-!
Numerals are read as the numbers that they were written for.

The numeral of a natural number has plain digits only, and starts with a zero
only if it is zero. An integer that was read from text is short enough to be
written and read once more, so integers survive as the keys of a map.
-/

namespace Bestiary.Number

open Text

/-! ### The digits of a numeral -/

theorem naturalText_ne_nil (number : Nat) : naturalText number ≠ [] :=
  Nat.toDigits_ne_nil

theorem toNat_digitChar {digit : Nat} (small : digit < 10) :
    digit.digitChar.toNat = 48 + digit :=
  Nat.toNat_digitChar_of_lt_ten small

theorem isPlainDigit_digitChar {digit : Nat} (small : digit < 10) :
    isPlainDigit digit.digitChar = true := by
  have code := toNat_digitChar small
  simp only [isPlainDigit, Bool.and_eq_true, decide_eq_true_eq]
  omega

theorem naturalText_step {number : Nat} (large : 10 ≤ number) :
    naturalText number = naturalText (number / 10) ++ [(number % 10).digitChar] :=
  Nat.toDigits_of_base_le (by decide) large

theorem naturalText_digit {number : Nat} (small : number < 10) :
    naturalText number = [number.digitChar] :=
  Nat.toDigits_of_lt_base small

theorem naturalText_plain (number : Nat) :
    ∀ character ∈ naturalText number, isPlainDigit character = true := by
  induction number using Nat.strongRecOn with
  | ind number ih =>
      by_cases small : number < 10
      · rw [naturalText_digit small]
        exact List.forall_mem_singleton.mpr (isPlainDigit_digitChar small)
      · have large : 10 ≤ number := Nat.le_of_not_lt small
        rw [naturalText_step large]
        refine List.forall_mem_append.mpr ⟨ih (number / 10) (by omega), ?_⟩
        exact List.forall_mem_singleton.mpr
          (isPlainDigit_digitChar (Nat.mod_lt number (by decide)))

theorem head?_naturalText {number : Nat} (positive : 0 < number) :
    (naturalText number).head? ≠ some '0' := by
  induction number using Nat.strongRecOn with
  | ind number ih =>
      by_cases small : number < 10
      · rw [naturalText_digit small]
        intro zero
        have isZero : number = 0 := Nat.digitChar_eq_zero.mp (Option.some.inj zero)
        omega
      · have large : 10 ≤ number := Nat.le_of_not_lt small
        obtain ⟨first, rest, front⟩ :=
          List.exists_cons_of_ne_nil (naturalText_ne_nil (number / 10))
        have earlier := ih (number / 10) (by omega) (by omega)
        rw [front] at earlier
        rw [naturalText_step large, front]
        exact earlier

theorem ofDigitChars_naturalText (number : Nat) :
    Nat.ofDigitChars 10 (naturalText number) 0 = number :=
  Nat.ofDigitChars_ten_toDigits

theorem length_naturalText_le {number limit : Nat} (positive : 0 < limit)
    (bounded : number < 10 ^ limit) : (naturalText number).length ≤ limit :=
  Nat.toDigits_length 10 number limit positive bounded

theorem toNat_sub_lt_ten {character : Char} (plain : isPlainDigit character = true) :
    character.toNat - 48 < 10 := by
  simp only [isPlainDigit, Bool.and_eq_true, decide_eq_true_eq] at plain
  omega

theorem ofDigitChars_lt {digits : List Char}
    (plain : ∀ character ∈ digits, isPlainDigit character = true) (start : Nat) :
    Nat.ofDigitChars 10 digits start < (start + 1) * 10 ^ digits.length := by
  induction digits generalizing start with
  | nil => simp
  | cons digit others ih =>
      obtain ⟨plainDigit, plainOthers⟩ := List.forall_mem_cons.mp plain
      have small : digit.toNat - '0'.toNat < 10 := toNat_sub_lt_ten plainDigit
      have step := ih plainOthers (10 * start + (digit.toNat - '0'.toNat))
      have scaled : 10 * start + (digit.toNat - '0'.toNat) + 1 ≤ (start + 1) * 10 := by omega
      calc
        Nat.ofDigitChars 10 (digit :: others) start
            = Nat.ofDigitChars 10 others (10 * start + (digit.toNat - '0'.toNat)) :=
              Nat.ofDigitChars_cons
        _ < (10 * start + (digit.toNat - '0'.toNat) + 1) * 10 ^ others.length := step
        _ ≤ (start + 1) * 10 * 10 ^ others.length := Nat.mul_le_mul_right _ scaled
        _ = (start + 1) * 10 ^ (digit :: others).length := by
              rw [List.length_cons, Nat.pow_succ, Nat.mul_assoc, Nat.mul_comm 10]

/-! ### Numerals of any decimal system -/

theorem decimalValue?_plain {character : Char} (plain : isPlainDigit character = true) :
    decimalValue? character = some (character.toNat - 48) := by
  simp only [isPlainDigit, Bool.and_eq_true, decide_eq_true_eq] at plain
  have low : character.toNat < 128 := by omega
  simp only [decimalValue?, if_pos low, if_pos plain]

theorem numeralValue?_plain {digits : List Char}
    (plain : ∀ character ∈ digits, isPlainDigit character = true)
    (short : digits.length ≤ numeralLimit) :
    numeralValue? digits = some (Nat.ofDigitChars 10 digits 0) := by
  have folds (start : Nat) : digits.foldl
      (fun total digit => do
        let value ← total
        let place ← decimalValue? digit
        pure (value * 10 + place)) (some start) = some (Nat.ofDigitChars 10 digits start) := by
    clear short
    induction digits generalizing start with
    | nil => rfl
    | cons digit others ih =>
        obtain ⟨plainDigit, plainOthers⟩ := List.forall_mem_cons.mp plain
        rw [List.foldl_cons, decimalValue?_plain plainDigit, Nat.ofDigitChars_cons,
          Nat.mul_comm 10 start]
        exact ih plainOthers (start * 10 + (digit.toNat - 48))
  rw [numeralValue?, if_neg (Nat.not_lt.mpr short)]
  exact folds 0

theorem lt_writingBound {number digits : Nat} (few : digits ≤ numeralLimit)
    (bounded : number < Nat.pow 10 digits) : number < writingBound := by
  have grows (limit : Nat) (more : digits ≤ limit) : number < Nat.pow 10 limit :=
    Nat.lt_of_lt_of_le bounded (Nat.pow_le_pow_right (by decide) more)
  unfold writingBound
  exact grows numeralLimit few

theorem numeralValue?_naturalText {number : Nat} (writable : number < writingBound) :
    numeralValue? (naturalText number) = some number := by
  have fits (limit : Nat) (positive : 0 < limit) (bounded : number < Nat.pow 10 limit) :
      (naturalText number).length ≤ limit := length_naturalText_le positive bounded
  unfold writingBound at writable
  have short : (naturalText number).length ≤ numeralLimit :=
    fits numeralLimit (by decide) writable
  rw [numeralValue?_plain (naturalText_plain number) short, ofDigitChars_naturalText]

theorem isWritableRat_iff {number : Rat} : isWritableRat number = true ↔
    number.num.natAbs < writingBound ∧ number.den < writingBound := by
  simp only [isWritableRat, isWritable, Bool.and_eq_true, decide_eq_true_eq, Int.natAbs_natCast]

theorem lt_writingBound_of_digit {number : Nat} (digit : number < 10) : number < writingBound := by
  have bounded : number < Nat.pow 10 1 := digit
  exact lt_writingBound (by decide) bounded

theorem isWritable_of_digit {number : Int} (digit : number.natAbs < 10) :
    isWritable number = true :=
  decide_eq_true (lt_writingBound_of_digit digit)

theorem isWritableRat_one : isWritableRat 1 = true :=
  isWritableRat_iff.mpr
    ⟨lt_writingBound_of_digit (by decide), lt_writingBound_of_digit (by decide)⟩

theorem isWritable_longest {longest : Int} (isLongest : longest + 1 = writingBound) :
    isWritable longest = true ∧ isWritable (longest + longest) = false := by
  have bound : 1 < writingBound := lt_writingBound_of_digit (by decide)
  exact ⟨decide_eq_true (by omega), decide_eq_false (by omega)⟩

/-! ### Integers in text -/

theorem integerText_of_nonneg {number : Int} (notNegative : 0 ≤ number) :
    integerText number = naturalText number.natAbs :=
  if_neg (Int.not_lt.mpr notNegative)

theorem integerText_natCast (number : Nat) : integerText number = naturalText number :=
  integerText_of_nonneg (Int.natCast_nonneg number)

/-! ### Numbers as text -/

theorem showInt_natCast (number : Nat) : showInt number = toString number := by
  rw [showInt, integerText_natCast]
  rfl

theorem showInt_eq_toString (number : Int) : showInt number = toString number := by
  cases number with
  | ofNat size => exact showInt_natCast size
  | negSucc size =>
      rw [showInt, integerText, if_pos (Int.negSucc_lt_zero size), String.ofList_cons]
      rfl

theorem showSigned_eq_toString (number : Int) :
    showSigned number = (if number < 0 then "" else "+") ++ toString number := by
  rw [← showInt_eq_toString, showSigned, showInt, signedText, integerText]
  split
  · rw [String.empty_append]
  · exact String.ofList_cons

/-! ### Integers that are read again -/

def digitLimit (negative : Bool) : Nat :=
  if negative then integerLimit - 1 else integerLimit

theorem takeWhile_plain {digits : List Char}
    (plain : ∀ character ∈ digits, isPlainDigit character = true) :
    digits.takeWhile isPlainDigit = digits :=
  List.takeWhile_eq_self_iff.mpr plain

theorem plainDigits_lt {negative : Bool} {unsigned : List Char} {size : Nat}
    (read : plainDigits negative unsigned = .ok size) : size < 10 ^ digitLimit negative := by
  have positive : 0 < 10 ^ digitLimit negative := Nat.pow_pos (by decide)
  have plain : ∀ character ∈ unsigned.takeWhile isPlainDigit, isPlainDigit character = true :=
    fun character => List.mem_takeWhile_imp
  rw [plainDigits] at read
  by_cases zero : ((unsigned.takeWhile isPlainDigit).head? == some '0') = true
  · rw [if_pos zero] at read
    by_cases alone : (unsigned == ['0']) = true
    · rw [if_pos alone] at read
      cases read
      exact positive
    · rw [if_neg alone] at read
      cases read
  · rw [if_neg zero] at read
    by_cases long : integerLimit < (if negative = true then
        (unsigned.takeWhile isPlainDigit).length + 1 else (unsigned.takeWhile isPlainDigit).length)
    · rw [if_pos long] at read
      cases read
    · rw [if_neg long] at read
      split at read
      · cases read
      · cases read
        have short : (unsigned.takeWhile isPlainDigit).length ≤ digitLimit negative := by
          have limit : integerLimit = 4300 := rfl
          unfold digitLimit
          cases negative <;> simp at long ⊢ <;> omega
        have bounded := ofDigitChars_lt plain 0
        rw [Nat.zero_add, Nat.one_mul] at bounded
        exact Nat.lt_of_lt_of_le bounded (Nat.pow_le_pow_right (by decide) short)

theorem plainDigits_naturalText {negative : Bool} {size : Nat}
    (bounded : size < 10 ^ digitLimit negative) :
    plainDigits negative (naturalText size) = .ok size := by
  by_cases zero : size = 0
  · subst zero
    rfl
  · have plain := takeWhile_plain (naturalText_plain size)
    have noZero : ((naturalText size).head? == some '0') = false :=
      beq_false_of_ne (head?_naturalText (Nat.pos_of_ne_zero zero))
    have short : (naturalText size).length ≤ digitLimit negative :=
      length_naturalText_le (by cases negative <;> decide) bounded
    have notTooLong : ¬integerLimit <
        (if negative = true then (naturalText size).length + 1 else (naturalText size).length) := by
      have limit : integerLimit = 4300 := rfl
      unfold digitLimit at short
      cases negative <;> simp at short ⊢ <;> omega
    have whole : ((naturalText size).isEmpty ||
        decide ((naturalText size).length < (naturalText size).length)) = false := by
      simp [naturalText_ne_nil]
    rw [plainDigits, plain, noZero, if_neg Bool.false_ne_true, if_neg notTooLong, whole,
      if_neg Bool.false_ne_true, ofDigitChars_naturalText]

/-- An integer is short if its text can be read. -/
def IsShort (number : Int) : Prop :=
  number.natAbs < 10 ^ digitLimit (decide (number < 0))

theorem plainInteger_integerText {number : Int} (short : IsShort number) :
    plainInteger (integerText number) = .ok number := by
  unfold IsShort at short
  unfold integerText
  by_cases negative : number < 0
  · rw [decide_eq_true negative] at short
    rw [if_pos negative, plainInteger, plainDigits_naturalText short]
    have same : -(number.natAbs : Int) = number := by omega
    exact congrArg Except.ok same
  · rw [decide_eq_false negative] at short
    have unsigned : plainInteger (naturalText number.natAbs) =
        (plainDigits false (naturalText number.natAbs) >>= fun size => pure (size : Int)) := by
      unfold plainInteger
      split
      · rename_i digits starts
        have minus := naturalText_plain number.natAbs '-' (starts ▸ .head digits)
        cases minus
      · rfl
    rw [if_neg negative, unsigned, plainDigits_naturalText short]
    have same : (number.natAbs : Int) = number := by omega
    exact congrArg Except.ok same

theorem isShort_of_plainInteger {input : List Char} {number : Int}
    (read : plainInteger input = .ok number) : IsShort number := by
  have fewer : 10 ^ digitLimit true ≤ 10 ^ digitLimit false :=
    Nat.pow_le_pow_right (by decide) (by decide)
  unfold plainInteger at read
  unfold IsShort
  split at read
  · rename_i unsigned
    cases digits : plainDigits true unsigned with
    | error fault =>
        rw [digits] at read
        cases read
    | ok size =>
        rw [digits] at read
        cases read
        have bounded : size < 10 ^ digitLimit true := plainDigits_lt digits
        have sameSize : (-(size : Int)).natAbs = size := by omega
        rw [sameSize]
        by_cases negative : -(size : Int) < 0
        · rw [decide_eq_true negative]
          exact bounded
        · rw [decide_eq_false negative]
          exact Nat.lt_of_lt_of_le bounded fewer
  · cases digits : plainDigits false input with
    | error fault =>
        rw [digits] at read
        cases read
    | ok size =>
        rw [digits] at read
        cases read
        have notNegative : ¬(size : Int) < 0 := by omega
        rw [decide_eq_false notNegative]
        exact plainDigits_lt digits

theorem isShort_of_integerOfText {text : String} {number : Int}
    (read : integerOfText text = .ok number) : IsShort number := by
  rw [integerOfText] at read
  split at read
  · rename_i found plain
    cases read
    exact isShort_of_plainInteger plain
  · cases read
  · split at read
    · rename_i found tidied
      cases read
      obtain ⟨tidy, _, plain⟩ := Option.map_eq_some_iff.mp tidied
      exact isShort_of_plainInteger plain
    · cases read

theorem integerOfText_showInt {number : Int} (short : IsShort number) :
    integerOfText (showInt number) = .ok number := by
  rw [integerOfText, showInt, String.toList_ofList, plainInteger_integerText short]

end Bestiary.Number
