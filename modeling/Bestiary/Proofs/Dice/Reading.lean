import Bestiary.Proofs.Dice.Notation

/-!
What dice notation can say.

Dice that were read have at least one term; every count is between one and the
limit, and every factor can be written. Only the constant may have grown too
long, because constants are added up.
-/

namespace Bestiary

open Text Number

/-! ### Numerals -/

theorem decimalValue?_lt {character : Char} {value : Nat}
    (known : decimalValue? character = some value) : value < 10 := by
  by_cases low : character.toNat < 128
  · by_cases digit : 48 ≤ character.toNat ∧ character.toNat ≤ 57
    · simp only [decimalValue?, if_pos low, if_pos digit] at known
      cases known
      omega
    · simp only [decimalValue?, if_pos low, if_neg digit] at known
      cases known
  · simp only [decimalValue?, if_neg low] at known
    obtain ⟨start, found, rfl⟩ := Option.map_eq_some_iff.mp known
    have inSystem := List.find?_some found
    simp only [Bool.and_eq_true, decide_eq_true_eq] at inSystem
    omega

theorem numeralValue?_lt {digits : List Char} {number : Nat}
    (known : numeralValue? digits = some number) : number < writingBound := by
  have folds (start : Nat) (others : List Char) (result : Nat)
      (value : others.foldl
        (fun total digit => do
          let value ← total
          let place ← decimalValue? digit
          pure (value * 10 + place)) (some start) = some result) :
      result < (start + 1) * Nat.pow 10 others.length := by
    induction others generalizing start with
    | nil =>
        cases value
        simp
    | cons digit rest ih =>
        rw [List.foldl_cons] at value
        cases place : decimalValue? digit with
        | none =>
            have stuck (remaining : List Char) : remaining.foldl
                (fun total digit => do
                  let value ← total
                  let place ← decimalValue? digit
                  pure (value * 10 + place)) none = none := by
              induction remaining with
              | nil => rfl
              | cons _ _ ih => exact ih
            simp only [place] at value
            cases (stuck rest).symm.trans value
        | some digitValue =>
            have small : digitValue < 10 := decimalValue?_lt place
            simp only [place] at value
            have bounded := ih (start * 10 + digitValue) value
            calc
              result < (start * 10 + digitValue + 1) * Nat.pow 10 rest.length := bounded
              _ ≤ (start + 1) * 10 * Nat.pow 10 rest.length :=
                  Nat.mul_le_mul_right _ (by omega)
              _ = (start + 1) * Nat.pow 10 (digit :: rest).length := by
                  rw [List.length_cons, Nat.pow_eq, Nat.pow_eq, Nat.pow_succ, Nat.mul_assoc,
                    Nat.mul_comm 10]
  unfold numeralValue? at known
  split at known
  · cases known
  · rename_i notLong
    have bounded := folds 0 digits number known
    rw [Nat.zero_add, Nat.one_mul] at bounded
    exact lt_writingBound (Nat.le_of_not_lt notLong) bounded

theorem isWritableRat_mkRat {whole denominator : Nat} (writable : whole < writingBound)
    (writable' : denominator < writingBound) (positive : 0 < denominator) :
    isWritableRat (mkRat whole denominator) = true := by
  have notZero : ((denominator : Nat) : Int) ≠ 0 := by omega
  have numDivides : (mkRat whole denominator).num.natAbs ∣ whole := by
    have divides := Rat.num_dvd (whole : Int) notZero
    rw [← Rat.mkRat_eq_divInt] at divides
    exact Int.natAbs_dvd_natAbs.mpr divides
  have denDivides : (mkRat whole denominator).den ∣ denominator := by
    have divides := Rat.den_dvd (whole : Int) denominator
    rw [← Rat.mkRat_eq_divInt] at divides
    exact Int.natCast_dvd_natCast.mp divides
  rw [isWritableRat_iff]
  constructor
  · by_cases zero : whole = 0
    · subst zero
      rw [Int.natCast_zero, Rat.zero_mkRat]
      exact writable
    · exact Nat.lt_of_le_of_lt (Nat.le_of_dvd (Nat.pos_of_ne_zero zero) numDivides) writable
  · exact Nat.lt_of_le_of_lt (Nat.le_of_dvd positive denDivides) writable'

theorem isWritableRat_natCast {number : Nat} (writable : number < writingBound) :
    isWritableRat (number : Rat) = true := by
  have one : 1 < Nat.pow 10 1 := by decide
  rw [isWritableRat_iff, Rat.num_natCast, Rat.den_natCast]
  exact ⟨writable, lt_writingBound (by decide) one⟩

theorem isWritableRat_neg {number : Rat} (writable : isWritableRat number = true) :
    isWritableRat (-number) = true := by
  rw [isWritableRat_iff] at writable ⊢
  rw [Rat.neg_num, Rat.neg_den, Int.natAbs_neg]
  exact writable

theorem isWritableRat_inverse {number : Rat} (notZero : number ≠ 0)
    (writable : isWritableRat number = true) : isWritableRat (1 / number) = true := by
  have num : number.num ≠ 0 := fun zero => notZero (Rat.num_eq_zero.mp zero)
  rw [isWritableRat_iff] at writable ⊢
  rw [one_div, Rat.num_inv, Rat.den_inv, if_neg num, Int.natAbs_mul,
    Int.natAbs_sign_of_ne_zero num]
  refine ⟨?_, writable.1⟩
  simpa using writable.2

namespace Dice

/-! ### What notation says can be written again -/

section Readable

variable {written : List Char}

theorem Numeral.writable {value : Nat} (numeral : Numeral written value) : value < writingBound :=
  numeralValue?_lt numeral.known

theorem PlainDice.readable {term : DiceTerm} (plain : PlainDice written term) {factor : Rat}
    (writable : isWritableRat factor = true) : (term.scale factor).IsReadable := by
  have scaled : isWritableRat (1 * factor) = true := by rwa [Rat.one_mul]
  cases plain with
  | single _ _ => exact ⟨Int.le_refl 1, (by decide : (1 : Int) ≤ countLimit), scaled⟩
  | several _ positive few _ _ =>
      exact ⟨Int.ofNat_le.mpr positive, Int.ofNat_le.mpr few, scaled⟩

theorem Size.writable {size : Rat} (isSize : Size written size) : isWritableRat size = true := by
  cases isSize with
  | whole numeral => exact isWritableRat_natCast numeral.writable
  | fraction upper lower notZero =>
      exact isWritableRat_mkRat upper.writable lower.writable (Nat.pos_of_ne_zero notZero)

theorem Factor.writable {factor : Rat} (isFactor : Factor written factor) :
    isWritableRat factor = true := by
  cases isFactor with
  | positive isSize => exact isSize.writable
  | negative isSize => exact isWritableRat_neg isSize.writable

theorem Joins.writable {sign : Char} {factor joined : Rat} (joins : Joins sign factor joined)
    (writable : isWritableRat factor = true) : isWritableRat joined = true := by
  cases joins with
  | product _ => exact writable
  | quotient _ notZero => exact isWritableRat_inverse notZero writable

theorem ScaledDice.readable {term : DiceTerm} (scaled : ScaledDice written term) :
    term.IsReadable := by
  cases scaled with
  | intro _ plain _ joins _ isFactor _ => exact plain.readable (joins.writable isFactor.writable)

theorem Term.readable {term : DiceTerm} (isTerm : Term written (.dice term)) :
    term.IsReadable := by
  cases isTerm with
  | plain plain =>
      have readable := plain.readable isWritableRat_one
      rwa [DiceTerm.scale, Rat.mul_one] at readable
  | scaled scaled => exact scaled.readable

theorem signedTerm_readable {negative : Bool} {part : Part} {signed : DiceTerm}
    (isTerm : Term written part) (same : signedTerm? (negative, part) = some signed) :
    signed.IsReadable := by
  cases part with
  | constant _ => cases same
  | dice term =>
      cases same
      obtain ⟨positive, few, writable⟩ := isTerm.readable
      refine ⟨positive, few, ?_⟩
      cases negative with
      | false =>
          show isWritableRat (term.factor * 1) = true
          rwa [Rat.mul_one]
      | true =>
          show isWritableRat (term.factor * -1) = true
          rw [Rat.mul_neg, Rat.mul_one]
          exact isWritableRat_neg writable

theorem readable_cons {negative : Bool} {part : Part} {parts : List (Bool × Part)}
    (isTerm : Term written part) (others : ∀ term ∈ (ofParts parts).terms, term.IsReadable) :
    ∀ term ∈ (ofParts ((negative, part) :: parts)).terms, term.IsReadable := by
  intro term member
  obtain ⟨found, inParts, same⟩ := List.mem_filterMap.mp member
  rcases List.mem_cons.mp inParts with rfl | later
  · exact signedTerm_readable isTerm same
  · exact others term (List.mem_filterMap.mpr ⟨found, later, same⟩)

theorem Further.readable {parts : List (Bool × Part)} (further : Further written parts) :
    ∀ term ∈ (ofParts parts).terms, term.IsReadable := by
  induction further with
  | finish _ => exact List.forall_mem_nil _
  | next _ _ _ isTerm _ ih => exact readable_cons isTerm ih

theorem Sum.readable {parts : List (Bool × Part)} (isSum : Sum written parts) :
    ∀ term ∈ (ofParts parts).terms, term.IsReadable := by
  cases isSum with
  | positive _ isTerm further => exact readable_cons isTerm further.readable
  | negative _ _ isTerm further => exact readable_cons isTerm further.readable

end Readable

theorem ofText_readable {text : String} {dice : Dice} (read : ofText text = .ok dice) :
    dice.IsReadable := by
  obtain ⟨parts, isSum, rfl, some⟩ := scan_eq_ok_iff.mp (mapError_eq_ok.mp read)
  exact ⟨some, isSum.readable⟩

/-! ### Dice that are read again from their notation -/

theorem numeralValue?_naturalText_lt {number value : Nat}
    (known : numeralValue? (naturalText number) = some value) : number < writingBound := by
  have bounded := ofDigitChars_lt (naturalText_plain number) 0
  rw [ofDigitChars_naturalText, Nat.zero_add, Nat.one_mul] at bounded
  unfold numeralValue? at known
  split at known
  · cases known
  · rename_i notLong
    exact lt_writingBound (Nat.le_of_not_lt notLong) bounded

theorem numeralValue?_of_scanTerm {after : Option Char} {digits rest : List Char} {part : Part}
    (areDigits : ∀ character ∈ digits, isDigit character = true)
    (reads : Reads (scanTerm after digits) part rest) :
    ∃ value, numeralValue? digits = some value := by
  obtain ⟨shorter, reads⟩ := reads
  cases digits with
  | nil => cases reads
  | cons head tail =>
      obtain ⟨digit, later⟩ := List.forall_mem_cons.mp areDigits
      obtain ⟨takes, _⟩ := takeWhile_append_stop later (stopsAt_nil isDigit)
      rw [List.append_nil] at takes
      rw [scanTerm] at reads
      · rw [if_pos digit] at reads
        obtain ⟨⟨count, afterCount⟩, numeral, _⟩ := bind_eq_ok.mp reads
        unfold scanNumeral at numeral
        dsimp only at numeral
        rw [takes] at numeral
        split at numeral
        · cases numeral
        · rename_i value known
          exact ⟨value, known⟩
      · rintro rfl
        cases digit

theorem scanParts_unwritable {dice result : Dice} {operator : Char} {number : Nat}
    (scanned : scanParts dice (' ' :: operator :: ' ' :: naturalText number) = .ok result)
    (isOperator : operator = '+' ∨ operator = '-') : number < writingBound := by
  have digits : ∀ character ∈ naturalText number, isDigit character = true :=
    fun character member => isDigit_of_plain (naturalText_plain number character member)
  have solidNumber : skipBlanks (' ' :: naturalText number) = naturalText number := by
    obtain ⟨head, tail, front⟩ := List.exists_cons_of_ne_nil (naturalText_ne_nil number)
    have digit : isDigit head = true := digits head (front ▸ .head tail)
    have one : Blanks [' '] := List.forall_mem_singleton.mpr (by decide)
    rw [front]
    exact one.skip (stopsAt_cons (isBlank_of_isDigit digit) tail)
  have solid : skipBlanks (' ' :: operator :: ' ' :: naturalText number) =
      operator :: ' ' :: naturalText number := by
    rcases isOperator with rfl | rfl <;> rfl
  rw [scanParts] at scanned
  split at scanned
  · rename_i nothing
    cases solid.symm.trans nothing
  · rename_i found tail follows
    obtain ⟨rfl, rfl⟩ := List.cons.inj (solid.symm.trans follows)
    split at scanned
    · obtain ⟨⟨part, ⟨rest, shorter⟩⟩, scannedTerm, _⟩ := bind_eq_ok.mp scanned
      have reads : Reads (scanTerm (some operator) (skipBlanks (' ' :: naturalText number))) part
          rest := ⟨shorter, scannedTerm⟩
      rw [solidNumber] at reads
      obtain ⟨value, known⟩ := numeralValue?_of_scanTerm digits reads
      exact numeralValue?_naturalText_lt known
    · cases scanned

theorem isWritable_of_scanParts {dice result : Dice} {addend : Int}
    (scanned : scanParts dice (addendText addend) = .ok result) :
    Number.isWritable addend = true := by
  rw [addendText] at scanned
  by_cases positive : 0 < addend
  · rw [if_pos positive, integerText_of_nonneg (Int.le_of_lt positive)] at scanned
    exact decide_eq_true (scanParts_unwritable scanned (.inl rfl))
  · rw [if_neg positive] at scanned
    by_cases negative : addend < 0
    · rw [if_pos negative, integerText_of_nonneg (by omega), Int.natAbs_neg] at scanned
      exact decide_eq_true (scanParts_unwritable scanned (.inr rfl))
    · have zero : addend = 0 := by omega
      rw [zero]
      exact isWritable_of_digit (by decide)

theorem isWritable_iff {dice : Dice} (readable : dice.IsReadable) :
    dice.isWritable = true ↔ Number.isWritable dice.addend = true := by
  have counts : dice.terms.all DiceTerm.isWritable = true := by
    refine List.all_eq_true.mpr fun term member => ?_
    obtain ⟨positive, few, writable⟩ := readable.terms term member
    have small : term.count.natAbs < Nat.pow 10 3 := by
      have limit : (countLimit : Int) = 999 := rfl
      have bound : Nat.pow 10 3 = 1000 := rfl
      omega
    exact Bool.and_eq_true_iff.mpr
      ⟨decide_eq_true (lt_writingBound (by decide) small), writable⟩
  rw [isWritable, counts, Bool.true_and]

/-- Dice that are read again from their notation have a constant that can be written. -/
theorem isWritable_of_ofText_render {dice : Dice} (read : ofText dice.render = .ok dice) :
    Number.isWritable dice.addend = true := by
  have readable : dice.IsReadable := ofText_readable read
  have scanned : scan (Dice.text ⟨dice.terms, 0⟩ ++ addendText dice.addend) = .ok dice := by
    have same : dice.render.toList = dice.text := String.toList_ofList
    rw [← text_split readable.some, ← same]
    exact mapError_eq_ok.mp read
  obtain ⟨sums, _⟩ := (scan_text_iff ⟨readable.some, readable.terms⟩
    (followsPart_addend dice.addend)).mp scanned
  exact isWritable_of_scanParts sums

/-- Dice are read from their notation as themselves exactly if they have terms, if every count is
between one and the limit, and if all their numbers can be written. Dice that were read from any
text are, if their constant can be written. -/
theorem ofText_render_iff (dice : Dice) :
    (ofText dice.render = .ok dice ↔
      dice.terms ≠ [] ∧ (∀ term ∈ dice.terms, 1 ≤ term.count ∧ term.count ≤ countLimit) ∧
        dice.isWritable = true) ∧
    ∀ text, ofText text = .ok dice → Number.isWritable dice.addend = true →
      ofText dice.render = .ok dice := by
  refine ⟨⟨?readAgain, ?written⟩, ?read⟩
  case readAgain =>
    intro read
    have readable : dice.IsReadable := ofText_readable read
    exact ⟨readable.some, fun term member =>
      ⟨(readable.terms term member).positive, (readable.terms term member).few⟩,
      (isWritable_iff readable).mpr (isWritable_of_ofText_render read)⟩
  case written =>
    rintro ⟨some, counts, writable⟩
    obtain ⟨writableTerms, writableAddend⟩ := Bool.and_eq_true_iff.mp writable
    have readable : dice.IsReadable := by
      refine ⟨some, fun term member => ?_⟩
      obtain ⟨positive, few⟩ := counts term member
      have writableTerm := List.all_eq_true.mp writableTerms term member
      exact ⟨positive, few, (Bool.and_eq_true_iff.mp writableTerm).2⟩
    exact ofText_render readable writableAddend
  case read =>
    intro text read writable
    exact ofText_render (ofText_readable read) writable

theorem ofText_doubled {longest : Int} (isLongest : longest + 1 = writingBound) :
    ofText ((single 1 .d6 longest).render ++ " + " ++ showInt longest) =
        .ok (single 1 .d6 (longest + longest)) ∧
      Number.isWritable (longest + longest) = false := by
  obtain ⟨writable, unwritable⟩ := isWritable_longest isLongest
  have readable : (single 1 .d6 longest).IsReadable :=
    single_readable .d6 longest (by decide) (by decide)
  have positive : 0 < longest := by
    have bound : 1 < writingBound := lt_writingBound_of_digit (by decide)
    omega
  exact ⟨ofText_render_add readable writable positive writable, unwritable⟩

/-- Two constants that can be written may have a sum that cannot, and is then not read again. -/
theorem ofText_render_of_long_sum :
    let longest : Int := writingBound - 1
    let text := (single 1 .d6 longest).render ++ " + " ++ showInt longest
    ∃ dice, ofText text = .ok dice ∧ dice.terms ≠ [] ∧
      (∀ term ∈ dice.terms, 1 ≤ term.count ∧ term.count ≤ countLimit) ∧
      ofText dice.render ≠ .ok dice := by
  intro longest text
  have isLongest : longest + 1 = writingBound := by omega
  -- Only this equation is needed: the number itself is too large to be computed with.
  clear_value longest
  obtain ⟨read, unwritable⟩ := ofText_doubled isLongest
  have readable := ofText_readable read
  refine ⟨_, read, readable.some, fun term member =>
    ⟨(readable.terms term member).positive, (readable.terms term member).few⟩, ?_⟩
  intro again
  have sumWritable := isWritable_of_ofText_render again
  cases unwritable.symm.trans sumWritable

end Dice

end Bestiary
