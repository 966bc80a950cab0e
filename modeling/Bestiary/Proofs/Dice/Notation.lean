import Bestiary.Dice.Printer
import Bestiary.Proofs.Dice.Completeness
import Bestiary.Proofs.Number.Numeral

/-!
Dice notation is read as the dice that it was written for.
-/

namespace Bestiary

open Text Number

theorem isDigit_of_plain {character : Char} (plain : isPlainDigit character = true) :
    isDigit character = true := by
  simp only [isPlainDigit, Bool.and_eq_true, decide_eq_true_eq] at plain
  have low : character.toNat < 128 := by omega
  simp only [isDigit, if_pos low, Bool.and_eq_true, decide_eq_true_eq]
  exact plain

namespace Dice

/-! ### Numerals and dice -/

theorem numeral_naturalText {number : Nat} (writable : number < writingBound) :
    Numeral (naturalText number) number where
  nonempty := naturalText_ne_nil number
  digits := fun character member => isDigit_of_plain (naturalText_plain number character member)
  known := numeralValue?_naturalText writable

theorem faces_sides (die : Die) : Faces (naturalText die.sides) die := by
  have few : die.sides < Nat.pow 10 3 := by cases die <;> decide
  exact ⟨die.sides, numeral_naturalText (lt_writingBound (by decide) few),
    Die.ofSides?_sides die⟩

theorem plainDice_text {count : Nat} (die : Die) (factor : Rat) (positive : 1 ≤ count)
    (few : count ≤ countLimit) :
    PlainDice (DiceTerm.diceText ⟨count, die, factor⟩) ⟨count, die, 1⟩ := by
  have small : count < Nat.pow 10 3 := Nat.lt_succ_of_le few
  have number : Numeral (naturalText count) count :=
    numeral_naturalText (lt_writingBound (by decide) small)
  rw [DiceTerm.diceText, integerText_natCast]
  exact .several number positive few (by decide) (faces_sides die)

/-! ### Factors -/

theorem joins_product {written size : Rat} (same : written = size) : Joins '×' written size := by
  rw [same]
  exact .product rfl

theorem joins_quotient {written size : Rat} (notZero : written ≠ 0) (inverse : 1 / written = size) :
    Joins '÷' written size := by
  rw [← inverse]
  exact .quotient rfl notZero

theorem factorText_joins {size : Rat} (positive : 0 ≤ size) (writable : isWritableRat size = true) :
    ∃ sign factor written, DiceTerm.factorText size = sign :: ' ' :: factor ∧
      Factor factor written ∧ Joins sign written size := by
  obtain ⟨writableNum, writableDen⟩ := isWritableRat_iff.mp writable
  have numerator : integerText size.num = naturalText size.num.natAbs :=
    integerText_of_nonneg (Rat.num_nonneg.mpr positive)
  have whole : (size.num.natAbs : Int) = size.num :=
    Int.natAbs_of_nonneg (Rat.num_nonneg.mpr positive)
  have upper : Numeral (naturalText size.num.natAbs) size.num.natAbs :=
    numeral_naturalText writableNum
  have lower : Numeral (naturalText size.den) size.den := numeral_naturalText writableDen
  unfold DiceTerm.factorText
  by_cases integral : size.den = 1
  · have same : (size.num.natAbs : Rat) = size := by
      rw [← Rat.intCast_natCast, whole]
      exact Rat.ext rfl integral.symm
    rw [if_pos integral, numerator]
    exact ⟨'×', _, _, rfl, .positive (.whole upper), joins_product same⟩
  · rw [if_neg integral]
    by_cases unit : size.num = 1
    · have inverse : 1 / (size.den : Rat) = size := by
        have quotient := Rat.num_div_den size
        rw [unit] at quotient
        exact quotient
      rw [if_pos unit]
      exact ⟨'÷', _, _, rfl, .positive (.whole lower), joins_quotient (by simp) inverse⟩
    · have same : mkRat size.num.natAbs size.den = size := by
        rw [whole]
        exact Rat.mkRat_self size
      rw [if_neg unit, numerator]
      exact ⟨'×', _, _, rfl, .positive (.fraction upper lower size.den_pos.ne'), joins_product same⟩

theorem factorSize_nonneg (factor : Rat) : 0 ≤ DiceTerm.factorSize factor := by
  unfold DiceTerm.factorSize
  split <;> grind

theorem factorSize_of_unit {factor : Rat} (unit : factor = 1 ∨ factor = -1) :
    DiceTerm.factorSize factor = 1 := by
  rcases unit with rfl | rfl <;> rfl

theorem factorSize_writable {factor : Rat} (writable : isWritableRat factor = true) :
    isWritableRat (DiceTerm.factorSize factor) = true := by
  obtain ⟨writableNum, writableDen⟩ := isWritableRat_iff.mp writable
  unfold DiceTerm.factorSize
  split
  · rw [isWritableRat_iff, Rat.neg_num, Rat.neg_den, Int.natAbs_neg]
    exact ⟨writableNum, writableDen⟩
  · exact writable

end Dice

/-- A term that notation can name, with a factor that can be written. -/
structure DiceTerm.IsReadable (term : DiceTerm) : Prop where
  positive : 1 ≤ term.count
  few : term.count ≤ Dice.countLimit
  writable : isWritableRat term.factor = true

/-- Dice that notation can name; nothing is said of their constant. -/
structure Dice.IsReadable (dice : Dice) : Prop where
  some : dice.terms ≠ []
  terms : ∀ term ∈ dice.terms, term.IsReadable

namespace Dice

theorem single_readable {count : Int} (die : Die) (addend : Int) (positive : 1 ≤ count)
    (few : count ≤ countLimit) : (single count die addend).IsReadable :=
  ⟨List.cons_ne_nil _ _, List.forall_mem_singleton.mpr ⟨positive, few, isWritableRat_one⟩⟩

/-! ### Terms -/

theorem term_unsignedText {term : DiceTerm} (readable : term.IsReadable) :
    Term term.unsignedText (.dice { term with factor := DiceTerm.factorSize term.factor }) := by
  obtain ⟨count, die, factor⟩ := term
  obtain ⟨positive, few, writable⟩ := readable
  obtain ⟨count, rfl⟩ : ∃ number : Nat, count = number :=
    Int.eq_ofNat_of_zero_le (Int.le_trans (by decide) positive)
  have plain : PlainDice (DiceTerm.diceText ⟨count, die, factor⟩) ⟨count, die, 1⟩ :=
    plainDice_text die factor (by simpa using positive) (by simpa using few)
  unfold DiceTerm.unsignedText
  by_cases unit : factor = 1 ∨ factor = -1
  · rw [if_pos unit, factorSize_of_unit unit]
    exact .plain plain
  · obtain ⟨sign, written, number, text, isFactor, joins⟩ :=
      factorText_joins (factorSize_nonneg factor) (factorSize_writable writable)
    have none : Blanks [] := List.forall_mem_nil _
    have one : Blanks [' '] := List.forall_mem_singleton.mpr (by decide)
    have scaled := ScaledDice.intro none plain one joins one isFactor none
    rw [DiceTerm.scale, Rat.one_mul] at scaled
    rw [if_neg unit, text]
    have same : '(' :: DiceTerm.diceText ⟨count, die, factor⟩ ++ ' ' :: sign :: ' ' :: written ++
        [')'] = '(' :: ([] ++ (DiceTerm.diceText ⟨count, die, factor⟩ ++ ([' '] ++ sign ::
          ([' '] ++ (written ++ ([] ++ [')'])))))) := by
      simp
    rw [same]
    exact .scaled scaled

theorem scale_sign (count : Int) (die : Die) (factor : Rat) :
    DiceTerm.scale (if decide (factor < 0) = true then -1 else 1)
      ⟨count, die, DiceTerm.factorSize factor⟩ = ⟨count, die, factor⟩ := by
  have signed : DiceTerm.factorSize factor * (if decide (factor < 0) = true then -1 else 1) =
      factor := by
    unfold DiceTerm.factorSize
    by_cases negative : factor < 0
    · simp [negative]
    · simp [negative]
  rw [DiceTerm.scale, signed]

theorem addPart_dice (dice : Dice) (term : DiceTerm) :
    dice.addPart (decide (term.factor < 0))
      (.dice { term with factor := DiceTerm.factorSize term.factor }) =
        ⟨dice.terms ++ [term], dice.addend⟩ := by
  rw [addPart, scale_sign]

/-! ### Sums -/

/-- What may follow a part of notation: nothing, or a further part after a blank. -/
def FollowsPart (rest : List Char) : Prop :=
  rest = [] ∨ ∃ others, rest = ' ' :: others

theorem FollowsPart.stops {rest : List Char} (follows : FollowsPart rest) {kind : Char → Bool}
    (blank : kind ' ' = false) : StopsAt kind rest := by
  rcases follows with rfl | ⟨others, rfl⟩
  · exact stopsAt_nil kind
  · exact stopsAt_cons blank others

theorem FollowsPart.reads {written rest : List Char} {part : Part} (follows : FollowsPart rest)
    (isTerm : Term written part) (after : Option Char) :
    Reads (scanTerm after (written ++ rest)) part rest :=
  isTerm.reads after (follows.stops (by decide)) (follows.stops (by decide))

theorem scanParts_part {dice : Dice} {operator : Char} {written rest : List Char} {part : Part}
    (isOperator : operator = '+' ∨ operator = '-') (isTerm : Term written part)
    (follows : FollowsPart rest) :
    scanParts dice (' ' :: operator :: ' ' :: (written ++ rest)) =
      scanParts (dice.addPart (operator == '-') part) rest := by
  have one : Blanks [' '] := List.forall_mem_singleton.mpr (by decide)
  have solid : isBlank operator = false := by
    rcases isOperator with rfl | rfl <;> rfl
  have reads : Reads (scanTerm (some operator) (skipBlanks ([' '] ++ (written ++ rest)))) part
      rest := by
    rw [one.skip isTerm.solid]
    exact follows.reads isTerm (some operator)
  exact scanParts_next isOperator (one.skip (stopsAt_cons solid _)) reads

theorem scanParts_term {term : DiceTerm} {rest : List Char} (readable : term.IsReadable)
    (follows : FollowsPart rest) (dice : Dice) :
    scanParts dice (term.text false ++ rest) =
      scanParts ⟨dice.terms ++ [term], dice.addend⟩ rest := by
  have isTerm := term_unsignedText readable
  have added := addPart_dice dice term
  unfold DiceTerm.text DiceTerm.signText
  by_cases negative : term.factor < 0
  · rw [decide_eq_true negative] at added ⊢
    exact (scanParts_part (.inr rfl) isTerm follows).trans (congrArg (scanParts · rest) added)
  · rw [decide_eq_false negative] at added ⊢
    exact (scanParts_part (.inl rfl) isTerm follows).trans (congrArg (scanParts · rest) added)

theorem FollowsPart.terms {rest : List Char} (follows : FollowsPart rest) (terms : List DiceTerm) :
    FollowsPart (terms.flatMap (DiceTerm.text false) ++ rest) := by
  cases terms with
  | nil => exact follows
  | cons term others =>
      rw [List.flatMap_cons]
      unfold DiceTerm.text DiceTerm.signText
      cases decide (term.factor < 0) <;> exact .inr ⟨_, rfl⟩

theorem scanParts_terms {terms : List DiceTerm} {rest : List Char}
    (readable : ∀ term ∈ terms, term.IsReadable) (follows : FollowsPart rest) (dice : Dice) :
    scanParts dice (terms.flatMap (DiceTerm.text false) ++ rest) =
      scanParts ⟨dice.terms ++ terms, dice.addend⟩ rest := by
  induction terms generalizing dice with
  | nil => rw [List.append_nil]; rfl
  | cons term others ih =>
      obtain ⟨readableTerm, readableOthers⟩ := List.forall_mem_cons.mp readable
      rw [List.flatMap_cons, List.append_assoc,
        scanParts_term readableTerm (follows.terms others), ih readableOthers,
        List.append_assoc]
      rfl

theorem followsPart_addend (addend : Int) : FollowsPart (addendText addend) := by
  unfold addendText
  split
  · exact .inr ⟨_, rfl⟩
  · split
    · exact .inr ⟨_, rfl⟩
    · exact .inl rfl

theorem FollowsPart.addend {rest : List Char} (follows : FollowsPart rest) (addend : Int) :
    FollowsPart (addendText addend ++ rest) := by
  rcases followsPart_addend addend with none | ⟨others, some⟩
  · rw [none]
    exact follows
  · rw [some]
    exact .inr ⟨_, rfl⟩

theorem scanParts_addend {addend : Int} {rest : List Char}
    (writable : Number.isWritable addend = true) (follows : FollowsPart rest) (dice : Dice) :
    scanParts dice (addendText addend ++ rest) = scanParts (dice.add addend) rest := by
  have isTerm : Term (naturalText addend.natAbs) (.constant addend.natAbs) :=
    .constant (numeral_naturalText (of_decide_eq_true writable))
  unfold addendText
  by_cases positive : 0 < addend
  · rw [if_pos positive, integerText_of_nonneg (Int.le_of_lt positive)]
    have same : dice.addend + (addend.natAbs : Int) = dice.addend + addend := by omega
    have added : dice.addPart false (.constant addend.natAbs) = dice.add addend :=
      congrArg (Dice.mk dice.terms) same
    exact (scanParts_part (.inl rfl) isTerm follows).trans (congrArg (scanParts · rest) added)
  · rw [if_neg positive]
    by_cases negative : addend < 0
    · rw [if_pos negative, integerText_of_nonneg (by omega), Int.natAbs_neg]
      have same : dice.addend + -(addend.natAbs : Int) = dice.addend + addend := by omega
      have added : dice.addPart true (.constant addend.natAbs) = dice.add addend :=
        congrArg (Dice.mk dice.terms) same
      exact (scanParts_part (.inr rfl) isTerm follows).trans (congrArg (scanParts · rest) added)
    · have zero : addend = 0 := by omega
      have same : dice.add addend = dice := by rw [zero, Dice.add, Int.add_zero]
      rw [if_neg negative, List.nil_append, same]

theorem text_split {dice : Dice} (some : dice.terms ≠ []) :
    dice.text = Dice.text ⟨dice.terms, 0⟩ ++ addendText dice.addend := by
  obtain ⟨terms, addend⟩ := dice
  obtain ⟨head, others, rfl⟩ := List.exists_cons_of_ne_nil some
  simp [Dice.text, addendText]

/-- The notation of some terms is read up to what follows it, and that with the terms before it. -/
theorem scan_text_iff {terms : List DiceTerm} {rest : List Char} {result : Dice}
    (readable : IsReadable ⟨terms, 0⟩) (follows : FollowsPart rest) :
    scan (Dice.text ⟨terms, 0⟩ ++ rest) = .ok result ↔
      scanParts ⟨terms, 0⟩ rest = .ok result ∧ result.terms ≠ [] := by
  obtain ⟨head, others, rfl⟩ := List.exists_cons_of_ne_nil readable.some
  obtain ⟨readableHead, readableOthers⟩ := List.forall_mem_cons.mp readable.terms
  have isTerm := term_unsignedText readableHead
  have reads := (follows.terms others).reads isTerm none
  have sums := scanParts_terms readableOthers follows ⟨[head], 0⟩
  have added := addPart_dice ⟨[], 0⟩ head
  have text : Dice.text ⟨head :: others, 0⟩ ++ rest =
      DiceTerm.signText true head.factor ++
        (head.unsignedText ++ (others.flatMap (DiceTerm.text false) ++ rest)) := by
    simp [Dice.text, DiceTerm.text, addendText]
  rw [text]
  unfold DiceTerm.signText
  by_cases negative : head.factor < 0
  · rw [decide_eq_true negative] at added ⊢
    rw [← isTerm.skip] at reads
    rw [List.singleton_append, scan_negative rfl reads, added]
    exact sums ▸ Iff.rfl
  · rw [decide_eq_false negative] at added ⊢
    rw [List.nil_append, scan_positive isTerm.skip isTerm.notMinus reads, added]
    exact sums ▸ Iff.rfl

/-- Dice are read from their notation, and a constant that is written after it is added to them. -/
theorem ofText_text_addend {dice : Dice} {extra : Int} (readable : dice.IsReadable)
    (writable : Number.isWritable dice.addend = true)
    (writableExtra : Number.isWritable extra = true) :
    ofText (String.ofList (dice.text ++ addendText extra)) = .ok (dice.add extra) := by
  have follows : FollowsPart (addendText extra) := followsPart_addend extra
  have sums : scanParts ⟨dice.terms, 0⟩ (addendText dice.addend ++ addendText extra) =
      .ok (dice.add extra) := by
    have first := scanParts_addend writable follows ⟨dice.terms, 0⟩
    have last := scanParts_addend writableExtra (.inl rfl) dice
    have zero : Dice.add dice.addend ⟨dice.terms, 0⟩ = dice :=
      congrArg (Dice.mk dice.terms) (Int.zero_add dice.addend)
    have ends : scanParts (dice.add extra) [] = .ok (dice.add extra) := scanParts_blank rfl
    rw [List.append_nil] at last
    rw [first, zero, last, ends]
  have scanned : scan (dice.text ++ addendText extra) = .ok (dice.add extra) := by
    rw [text_split readable.some, List.append_assoc]
    exact (scan_text_iff ⟨readable.some, readable.terms⟩ (follows.addend dice.addend)).mpr
      ⟨sums, readable.some⟩
  rw [ofText, String.toList_ofList, scanned]
  rfl

theorem ofText_render {dice : Dice} (readable : dice.IsReadable)
    (writable : Number.isWritable dice.addend = true) : ofText dice.render = .ok dice := by
  have writableZero : Number.isWritable 0 = true :=
    isWritable_of_digit (by decide)
  have read := ofText_text_addend readable writable writableZero
  have nothing : addendText 0 = [] := rfl
  rw [nothing, List.append_nil, Dice.add, Int.add_zero] at read
  exact read

theorem ofText_render_add {dice : Dice} {extra : Int} (readable : dice.IsReadable)
    (writable : Number.isWritable dice.addend = true) (positive : 0 < extra)
    (writableExtra : Number.isWritable extra = true) :
    ofText (dice.render ++ " + " ++ Number.showInt extra) = .ok (dice.add extra) := by
  have read := ofText_text_addend readable writable writableExtra
  have joint : addendText extra = " + ".toList ++ Number.integerText extra := if_pos positive
  rw [joint, String.ofList_append, String.ofList_append, String.ofList_toList,
    ← String.append_assoc] at read
  exact read

end Dice

end Bestiary
