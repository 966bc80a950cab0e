import Bestiary.Proofs.Dice.Soundness

/-!
What is written in the grammar of dice notation is read.

A scan takes a written form away whole if no more of it could follow: after a
numeral no digit, after a constant no letter either. Blanks, operators and
parentheses are neither.
-/

namespace Bestiary

open Text

def Text.Reads {Fault α : Type} {input : List Char} (outcome : Scan Fault α input) (value : α)
    (rest : List Char) : Prop :=
  ∃ shorter, outcome = .ok (value, ⟨rest, shorter⟩)

/-- A text does not go on with a character of a class. -/
def StopsAt (kind : Char → Bool) (rest : List Char) : Prop :=
  ∀ next, rest.head? = some next → kind next = false

theorem stopsAt_nil (kind : Char → Bool) : StopsAt kind [] := by
  intro next impossible
  cases impossible

theorem stopsAt_cons {kind : Char → Bool} {next : Char} (stop : kind next = false)
    (rest : List Char) : StopsAt kind (next :: rest) := by
  intro first same
  cases same
  exact stop

theorem takeWhile_append_stop {kind : Char → Bool} {front rest : List Char}
    (every : ∀ character ∈ front, kind character = true) (stops : StopsAt kind rest) :
    (front ++ rest).takeWhile kind = front ∧ (front ++ rest).dropWhile kind = rest := by
  induction front with
  | nil =>
      cases rest with
      | nil => exact ⟨rfl, rfl⟩
      | cons next others =>
          have stop : kind next = false := stops next rfl
          simp [stop]
  | cons character others ih =>
      obtain ⟨first, later⟩ := List.forall_mem_cons.mp every
      obtain ⟨takes, drops⟩ := ih later
      simp [first, takes, drops]

/-! ### Blanks -/

/-- The members of a set that is given by the places at which membership changes. -/
def Text.members : List Nat → List Nat
  | start :: stop :: bounds => List.range' start (stop - start) ++ members bounds
  | _ => []

theorem mem_members {bounds : List Nat} {code : Nat} (even : bounds.length % 2 = 0)
    (inside : inBounds bounds code = true) : code ∈ members bounds := by
  induction bounds using members.induct with
  | case1 start stop bounds ih =>
      rw [members, List.mem_append, List.mem_range'_1]
      by_cases started : start ≤ code
      · by_cases stopped : stop ≤ code
        · right
          apply ih
          · simp only [List.length_cons] at even
            omega
          · simp [inBounds, started, stopped] at inside ⊢
            omega
        · left
          omega
      · simp [inBounds, started] at inside
  | case2 bounds short =>
      cases bounds with
      | nil => cases inside
      | cons start bounds =>
          cases bounds with
          | nil => cases even
          | cons stop bounds => exact (short start stop bounds rfl).elim

theorem isBlank_apart {character : Char} (blank : isBlank character = true) :
    isDigit character = false ∧ isLetter character = false := by
  unfold isBlank at blank
  unfold isDigit isLetter
  by_cases low : character.toNat < 128
  · simp only [if_pos low] at blank ⊢
    simp at blank ⊢
    omega
  · simp only [if_neg low] at blank ⊢
    have apart : ∀ code ∈ members blankBounds,
        inBounds digitBounds code = false ∧ inBounds letterBounds code = false := by
      decide +kernel
    exact apart _ (mem_members rfl blank)

namespace Dice

/-! ### Parts -/

section Complete

variable {written rest : List Char}

theorem isBlank_of_isDigit {character : Char} (digit : isDigit character = true) :
    isBlank character = false := by
  cases blank : isBlank character with
  | false => rfl
  | true => cases digit.symm.trans (isBlank_apart blank).1

theorem eq_of_isSeparator {character : Char} (separates : isSeparator character = true) :
    character = 'd' ∨ character = 'D' := by
  simpa [isSeparator] using separates

theorem mem_head?_append {head : Char} (first : head ∈ written.head?) :
    head ∈ (written ++ rest).head? := by
  obtain ⟨tail, rfl⟩ := List.head?_eq_some_iff.mp first
  rfl

theorem stopsAt_append {kind : Char → Bool} {head : Char} (first : head ∈ written.head?)
    (stop : kind head = false) : StopsAt kind (written ++ rest) := by
  obtain ⟨tail, rfl⟩ := List.head?_eq_some_iff.mp first
  exact stopsAt_cons stop (tail ++ rest)

theorem Blanks.skip (blanks : Blanks written) (stops : StopsAt isBlank rest) :
    skipBlanks (written ++ rest) = rest :=
  (takeWhile_append_stop blanks stops).2

theorem Blanks.stops {kind : Char → Bool} (blanks : Blanks written)
    (apart : ∀ character, isBlank character = true → kind character = false)
    (stops : StopsAt kind rest) : StopsAt kind (written ++ rest) := by
  cases written with
  | nil => exact stops
  | cons head tail => exact stopsAt_cons (apart head (blanks head (.head tail))) (tail ++ rest)

theorem Numeral.head {value : Nat} (numeral : Numeral written value) :
    ∃ head ∈ written.head?, isDigit head = true := by
  obtain ⟨head, tail, rfl⟩ := List.exists_cons_of_ne_nil numeral.nonempty
  exact ⟨head, rfl, numeral.digits head (.head tail)⟩

theorem Numeral.reads {value : Nat} (numeral : Numeral written value)
    (stops : StopsAt isDigit rest) :
    ∃ head tail, written ++ rest = head :: tail ∧ isDigit head = true ∧
      Reads (scanNumeral head tail) value rest := by
  obtain ⟨nonempty, digits, known⟩ := numeral
  obtain ⟨head, tail, rfl⟩ := List.exists_cons_of_ne_nil nonempty
  obtain ⟨digit, later⟩ := List.forall_mem_cons.mp digits
  obtain ⟨takes, drops⟩ := takeWhile_append_stop later stops
  refine ⟨head, tail ++ rest, rfl, digit, ?_, ?_⟩
  · simp only [List.length_cons, List.length_append]
    omega
  · unfold scanNumeral
    simp only [takes, drops, known]

theorem Faces.reads {die : Die} (count : Option Nat) (start : List Char)
    (faces : Faces written die) (positive : 1 ≤ count.getD 1) (few : count.getD 1 ≤ countLimit)
    (stops : StopsAt isDigit rest) :
    Reads (scanSides count start (written ++ rest)) ⟨count.getD 1, die, 1⟩ rest := by
  obtain ⟨sides, numeral, known⟩ := faces
  obtain ⟨head, tail, split, digit, shorter, reads⟩ := numeral.reads stops
  have notZero : ¬count.getD 1 = 0 := Nat.pos_iff_ne_zero.mp positive
  have notMany : ¬countLimit < count.getD 1 := Nat.not_lt.mpr few
  rw [split]
  refine ⟨shorter, ?_⟩
  rw [scanSides, if_pos digit, reads]
  simp only [ok_bind, if_neg notZero, if_neg notMany, known]
  rfl

theorem isDigit_of_isSeparator {character : Char} (separates : isSeparator character = true) :
    isDigit character = false := by
  rcases eq_of_isSeparator separates with rfl | rfl <;> decide

theorem PlainDice.head {term : DiceTerm} (plain : PlainDice written term) :
    ∃ head ∈ written.head?, isDigit head = true ∨ isSeparator head = true := by
  cases plain with
  | single separates _ => exact ⟨_, rfl, .inr separates⟩
  | several numeral _ _ _ _ =>
      obtain ⟨head, first, digit⟩ := numeral.head
      exact ⟨head, mem_head?_append first, .inl digit⟩

theorem PlainDice.reads_inner {term : DiceTerm} (plain : PlainDice written term)
    (stops : StopsAt isDigit rest) : Reads (scanInnerDice (written ++ rest)) term rest := by
  cases plain with
  | @single separator faces die separates isFaces =>
      obtain ⟨shorter, reads⟩ :=
        isFaces.reads none (separator :: (faces ++ rest)) (by decide) (by decide) stops
      rw [List.cons_append]
      refine ⟨Nat.lt_succ_of_lt shorter, ?_⟩
      rw [scanInnerDice, if_neg (by simp [isDigit_of_isSeparator separates]),
        if_pos separates, reads]
      rfl
  | @several separator number faces count die numeral positive few separates isFaces =>
      obtain ⟨head, tail, split, digit, shorterCount, readsCount⟩ :=
        numeral.reads (stopsAt_cons (isDigit_of_isSeparator separates) (faces ++ rest))
      obtain ⟨shorter, reads⟩ :=
        isFaces.reads (some count) (head :: tail) positive few stops
      rw [List.append_assoc, List.cons_append, split]
      refine ⟨?_, ?_⟩
      · simp only [List.length_cons, List.length_append] at shorter shorterCount ⊢
        omega
      · rw [scanInnerDice, if_pos digit, readsCount]
        simp only [ok_bind]
        rw [if_pos separates, reads]
        rfl

theorem Size.head {size : Rat} (isSize : Size written size) :
    ∃ head ∈ written.head?, isDigit head = true := by
  cases isSize with
  | whole numeral => exact numeral.head
  | fraction upper _ _ =>
      obtain ⟨head, first, digit⟩ := upper.head
      exact ⟨head, mem_head?_append first, digit⟩

theorem Size.reads {size : Rat} (isSize : Size written size) (stops : StopsAt isDigit rest)
    (noSlash : StopsAt (· == '/') rest) : Reads (scanFactorSize (written ++ rest)) size rest := by
  cases isSize with
  | whole numeral =>
      obtain ⟨head, tail, split, digit, shorter, reads⟩ := numeral.reads stops
      rw [split]
      refine ⟨shorter, ?_⟩
      rw [scanFactorSize, if_pos digit, reads]
      simp only [ok_bind]
      split
      · cases noSlash '/' rfl
      · cases noSlash '/' rfl
      · rfl
  | @fraction upper lower numerator denominator isUpper isLower notZero =>
      obtain ⟨head, tail, split, digit, shorter, reads⟩ :=
        isUpper.reads (stopsAt_cons (by decide : isDigit '/' = false) (lower ++ rest))
      obtain ⟨second, others, splitLower, digitSecond, shorterLower, readsLower⟩ :=
        isLower.reads stops
      rw [List.append_assoc, List.cons_append, split]
      refine ⟨?_, ?_⟩
      · rw [splitLower] at shorter
        simp only [List.length_cons] at shorter shorterLower ⊢
        omega
      · rw [scanFactorSize, if_pos digit, reads]
        simp only [ok_bind, splitLower]
        rw [if_pos digitSecond, readsLower]
        simp only [ok_bind, if_neg notZero]
        rfl

theorem Factor.reads {factor : Rat} (isFactor : Factor written factor)
    (stops : StopsAt isDigit rest) (noSlash : StopsAt (· == '/') rest) :
    Reads (scanFactor (written ++ rest)) factor rest := by
  cases isFactor with
  | positive isSize =>
      obtain ⟨head, first, digit⟩ := isSize.head
      obtain ⟨tail, rfl⟩ := List.head?_eq_some_iff.mp first
      have notMinus : ∀ others, head :: tail ++ rest = '-' :: others → False := by
        intro others same
        cases (List.cons.inj same).1
        cases digit
      rw [scanFactor]
      · exact isSize.reads stops noSlash
      · exact notMinus
  | negative isSize =>
      obtain ⟨shorter, reads⟩ := isSize.reads stops noSlash
      rw [List.cons_append]
      refine ⟨Nat.lt_succ_of_lt shorter, ?_⟩
      rw [scanFactor, reads]
      rfl

theorem Factor.solid {factor : Rat} (isFactor : Factor written factor) :
    StopsAt isBlank (written ++ rest) := by
  cases isFactor with
  | positive isSize =>
      obtain ⟨head, first, digit⟩ := isSize.head
      exact stopsAt_append first (isBlank_of_isDigit digit)
  | negative _ => exact stopsAt_cons (by decide) _

theorem PlainDice.solid {term : DiceTerm} (plain : PlainDice written term) :
    StopsAt isBlank (written ++ rest) := by
  obtain ⟨head, first, digit | separates⟩ := plain.head
  · exact stopsAt_append first (isBlank_of_isDigit digit)
  · apply stopsAt_append first
    rcases eq_of_isSeparator separates with rfl | rfl <;> decide

theorem Joins.sign {sign : Char} {factor joined : Rat} (joins : Joins sign factor joined) :
    isBlank sign = false ∧ isDigit sign = false := by
  have known : ∃ joining, factorSign? sign = some joining := by
    cases joins with
    | product known => exact ⟨_, known⟩
    | quotient known _ => exact ⟨_, known⟩
  obtain ⟨joining, known⟩ := known
  unfold factorSign? at known
  split at known <;> first | exact ⟨rfl, rfl⟩ | cases known

theorem isDigit_of_isBlank (character : Char) (blank : isBlank character = true) :
    isDigit character = false :=
  (isBlank_apart blank).1

theorem slash_of_isBlank (character : Char) (blank : isBlank character = true) :
    (character == '/') = false := by
  rw [beq_eq_false_iff_ne]
  rintro rfl
  cases blank

theorem ScaledDice.reads {term : DiceTerm} (scaled : ScaledDice written term) :
    Reads (scanFactored (written ++ rest)) term rest := by
  cases scaled with
  | @intro first dice second third factor fourth sign term number joined blanksFirst isDice
      blanksSecond joins blanksThird isFactor blanksFourth =>
      obtain ⟨solidSign, plainSign⟩ := joins.sign
      let left := fourth ++ ')' :: rest
      let afterDice := second ++ sign :: (third ++ (factor ++ left))
      have inputEq : first ++ (dice ++ (second ++ sign :: (third ++ (factor ++ (fourth ++ [')']))))) ++
          rest = first ++ (dice ++ afterDice) := by
        simp [left, afterDice]
      have skipFirst : skipBlanks (first ++ (dice ++ afterDice)) = dice ++ afterDice :=
        blanksFirst.skip isDice.solid
      have skipSecond : skipBlanks afterDice = sign :: (third ++ (factor ++ left)) :=
        blanksSecond.skip (stopsAt_cons solidSign _)
      have skipThird : skipBlanks (third ++ (factor ++ left)) = factor ++ left :=
        blanksThird.skip isFactor.solid
      have skipFourth : skipBlanks left = ')' :: rest :=
        blanksFourth.skip (stopsAt_cons (by decide) rest)
      have readsDice : Reads (scanInnerDice (skipBlanks (first ++ (dice ++ afterDice)))) term
          afterDice := by
        rw [skipFirst]
        exact isDice.reads_inner (blanksSecond.stops isDigit_of_isBlank (stopsAt_cons plainSign _))
      have readsFactor : Reads (scanFactor (skipBlanks (third ++ (factor ++ left)))) number
          left := by
        rw [skipThird]
        exact isFactor.reads
          (blanksFourth.stops isDigit_of_isBlank (stopsAt_cons (by decide) rest))
          (blanksFourth.stops slash_of_isBlank (stopsAt_cons (by decide) rest))
      obtain ⟨shorterDice, readsDice⟩ := readsDice
      obtain ⟨shorterFactor, readsFactor⟩ := readsFactor
      rw [inputEq]
      refine ⟨?_, ?_⟩
      · simp [left, afterDice]
        omega
      rw [scanFactored, readsDice]
      simp only [ok_bind]
      split
      · rename_i nothing
        cases skipSecond.symm.trans nothing
      · rename_i found others follows
        obtain ⟨rfl, rfl⟩ := List.cons.inj (skipSecond.symm.trans follows)
        cases joins with
        | product known =>
            rw [known]
            simp only [readsFactor, pure, Except.pure, ok_bind]
            split
            · rename_i closed same
              cases skipFourth.symm.trans same
              rfl
            · rename_i notClosed
              exact (notClosed rest skipFourth).elim
        | quotient known notZero =>
            rw [known]
            simp only [readsFactor, if_neg notZero, pure, Except.pure, ok_bind]
            split
            · rename_i closed same
              cases skipFourth.symm.trans same
              rfl
            · rename_i notClosed
              exact (notClosed rest skipFourth).elim

/-- Dice are read the same way in a sum and in parentheses. -/
theorem scanTerm_of_inner {input rest : List Char} {term : DiceTerm} (after : Option Char)
    (reads : Reads (scanInnerDice input) term rest) :
    Reads (scanTerm after input) (.dice term) rest := by
  obtain ⟨shorter, reads⟩ := reads
  refine ⟨shorter, ?_⟩
  cases input with
  | nil => cases reads
  | cons head tail =>
      rw [scanInnerDice] at reads
      split at reads
      · rename_i digit
        obtain ⟨⟨count, ⟨afterCount, shorterCount⟩⟩, numeral, reads⟩ := bind_eq_ok.mp reads
        rw [scanTerm]
        · rw [if_pos digit, numeral, ok_bind]
          cases afterCount with
          | nil => cases reads
          | cons separator others =>
              dsimp only at reads ⊢
              split at reads
              · rename_i separates
                obtain ⟨⟨found, left⟩, sides, reads⟩ := bind_eq_ok.mp reads
                cases reads
                rw [if_pos separates, sides]
                rfl
              · cases reads
        · rintro rfl
          cases digit
      · rename_i noDigit
        split at reads
        · rename_i separates
          obtain ⟨⟨found, left⟩, sides, reads⟩ := bind_eq_ok.mp reads
          cases reads
          rw [scanTerm]
          · rw [if_neg noDigit, if_pos separates, sides]
            rfl
          · rintro rfl
            cases separates
        · cases reads

theorem Term.head {part : Part} (isTerm : Term written part) :
    ∃ head ∈ written.head?, isDigit head = true ∨ isSeparator head = true ∨ head = '(' := by
  cases isTerm with
  | constant numeral =>
      obtain ⟨head, first, digit⟩ := numeral.head
      exact ⟨head, first, .inl digit⟩
  | plain isDice =>
      obtain ⟨head, first, digit | separates⟩ := isDice.head
      · exact ⟨head, first, .inl digit⟩
      · exact ⟨head, first, .inr (.inl separates)⟩
  | scaled _ => exact ⟨'(', rfl, .inr (.inr rfl)⟩

theorem Term.solid {part : Part} (isTerm : Term written part) :
    StopsAt isBlank (written ++ rest) := by
  obtain ⟨head, first, digit | separates | rfl⟩ := isTerm.head
  · exact stopsAt_append first (isBlank_of_isDigit digit)
  · apply stopsAt_append first
    rcases eq_of_isSeparator separates with rfl | rfl <;> decide
  · exact stopsAt_append first (by decide)

theorem Term.skip {part : Part} (isTerm : Term written part) :
    skipBlanks (written ++ rest) = written ++ rest :=
  Blanks.skip (List.forall_mem_nil _) isTerm.solid

theorem Term.notMinus {part : Part} (isTerm : Term written part) (tail : List Char) :
    written ++ rest ≠ '-' :: tail := by
  obtain ⟨head, first, starts⟩ := isTerm.head
  obtain ⟨others, rfl⟩ := List.head?_eq_some_iff.mp first
  intro same
  cases (List.cons.inj same).1
  rcases starts with digit | separates | opens
  · cases digit
  · cases separates
  · cases opens

theorem isSeparator_of_letter {character : Char} (notLetter : isLetter character = false) :
    isSeparator character = false := by
  cases separates : isSeparator character with
  | false => rfl
  | true => rcases eq_of_isSeparator separates with rfl | rfl <;> cases notLetter

theorem Term.reads {part : Part} (after : Option Char) (isTerm : Term written part)
    (digits : StopsAt isDigit rest) (letters : StopsAt isLetter rest) :
    Reads (scanTerm after (written ++ rest)) part rest := by
  cases isTerm with
  | constant numeral =>
      obtain ⟨head, tail, split, digit, shorter, reads⟩ := numeral.reads digits
      have notOpening : head = '(' → False := by
        rintro rfl
        cases digit
      rw [split]
      refine ⟨shorter, ?_⟩
      rw [scanTerm]
      · rw [if_pos digit, reads]
        cases rest with
        | nil => rfl
        | cons next others =>
            have notLetter : isLetter next = false := letters next rfl
            simp only [ok_bind]
            rw [if_neg (by simp [isSeparator_of_letter notLetter]), if_neg (by simp [notLetter])]
            rfl
      · exact notOpening
  | plain isDice => exact scanTerm_of_inner after (isDice.reads_inner digits)
  | @scaled inside term isScaled =>
      obtain ⟨shorter, reads⟩ : Reads (scanFactored (inside ++ rest)) term rest := isScaled.reads
      rw [List.cons_append]
      refine ⟨Nat.lt_succ_of_lt shorter, ?_⟩
      rw [scanTerm, reads]
      rfl

theorem Further.stops {parts : List (Bool × Part)} (further : Further written parts)
    {kind : Char → Bool} (blanks : ∀ character, isBlank character = true → kind character = false)
    (plus : kind '+' = false) (minus : kind '-' = false) : StopsAt kind written := by
  cases further with
  | finish isBlanks =>
      have stops := isBlanks.stops blanks (stopsAt_nil kind)
      rwa [List.append_nil] at stops
  | next blanksBefore isOperator _ _ _ =>
      apply blanksBefore.stops blanks
      rcases isOperator with rfl | rfl
      · exact stopsAt_cons plus _
      · exact stopsAt_cons minus _

theorem Further.stopsDigits {parts : List (Bool × Part)} (further : Further written parts) :
    StopsAt isDigit written :=
  further.stops isDigit_of_isBlank (by decide) (by decide)

theorem Further.stopsLetters {parts : List (Bool × Part)} (further : Further written parts) :
    StopsAt isLetter written :=
  further.stops (fun _ blank => (isBlank_apart blank).2) (by decide) (by decide)

theorem scanParts_blank {dice : Dice} {input : List Char} (blank : skipBlanks input = []) :
    scanParts dice input = .ok dice := by
  rw [scanParts]
  split
  · rfl
  · rename_i found others same
    cases blank.symm.trans same

theorem scanParts_next {dice : Dice} {input tail rest : List Char} {operator : Char} {part : Part}
    (isOperator : operator = '+' ∨ operator = '-') (follows : skipBlanks input = operator :: tail)
    (reads : Reads (scanTerm (some operator) (skipBlanks tail)) part rest) :
    scanParts dice input = scanParts (dice.addPart (operator == '-') part) rest := by
  have known : (operator == '+' || operator == '-') = true := by
    rcases isOperator with rfl | rfl <;> rfl
  obtain ⟨shorter, reads⟩ := reads
  rw [scanParts]
  split
  · rename_i nothing
    cases follows.symm.trans nothing
  · rename_i found others same
    obtain ⟨rfl, rfl⟩ := List.cons.inj (follows.symm.trans same)
    rw [if_pos known, reads]
    rfl

theorem Further.reads {parts : List (Bool × Part)} (further : Further written parts)
    (dice : Dice) : scanParts dice written = .ok (dice.addParts parts) := by
  induction further generalizing dice with
  | finish blanks =>
      have skipped := blanks.skip (stopsAt_nil isBlank)
      rw [List.append_nil] at skipped
      exact scanParts_blank skipped
  | @next before after written others operator part parts blanksBefore isOperator blanksAfter
      isTerm further ih =>
      have solid : isBlank operator = false := by
        rcases isOperator with rfl | rfl <;> rfl
      have reads : Reads (scanTerm (some operator) (skipBlanks (after ++ (written ++ others))))
          part others := by
        rw [blanksAfter.skip isTerm.solid]
        exact isTerm.reads (some operator) further.stopsDigits further.stopsLetters
      exact (scanParts_next isOperator (blanksBefore.skip (stopsAt_cons solid _)) reads).trans
        (ih (dice.addPart (operator == '-') part))

end Complete

/-! ### Sums -/

theorem addParts_eq (dice : Dice) (parts : List (Bool × Part)) :
    dice.addParts parts =
      ⟨dice.terms ++ (ofParts parts).terms, dice.addend + (ofParts parts).addend⟩ := by
  induction parts generalizing dice with
  | nil => simp [addParts, ofParts]
  | cons part others ih =>
      obtain ⟨negative, part⟩ := part
      refine (ih (dice.addPart negative part)).trans ?_
      cases part <;>
        simp [addPart, ofParts, List.filterMap_cons, signedTerm?, signedAmount, Int.add_assoc]

theorem addParts_cons (negative : Bool) (part : Part) (parts : List (Bool × Part)) :
    addParts (addPart ⟨[], 0⟩ negative part) parts = ofParts ((negative, part) :: parts) :=
  (addParts_eq ⟨[], 0⟩ ((negative, part) :: parts)).trans (by simp)

section Sums

variable {input body rest : List Char} {part : Part} {dice : Dice}

theorem nonempty_iff {sum : Except (Stop DiceFault) Dice} {stop : Stop DiceFault} :
    (sum >>= fun dice => if dice.terms.isEmpty then .error stop else pure dice) = .ok dice ↔
      sum = .ok dice ∧ dice.terms ≠ [] := by
  constructor
  · intro finished
    obtain ⟨found, isSum, finished⟩ := bind_eq_ok.mp finished
    by_cases none : found.terms.isEmpty = true
    · rw [if_pos none] at finished
      cases finished
    · rw [if_neg none] at finished
      cases finished
      exact ⟨isSum, mt List.isEmpty_iff.mpr none⟩
  · rintro ⟨isSum, some⟩
    rw [isSum, ok_bind, if_neg (mt List.isEmpty_iff.mp some)]
    rfl

theorem scan_negative (minus : skipBlanks input = '-' :: body)
    (reads : Reads (scanTerm none (skipBlanks body)) part rest) :
    scan input = .ok dice ↔
      scanParts (addPart ⟨[], 0⟩ true part) rest = .ok dice ∧ dice.terms ≠ [] := by
  obtain ⟨shorter, reads⟩ := reads
  rw [scan, minus, List.isEmpty_cons, if_neg Bool.false_ne_true]
  split
  rename_i negative first same
  split at same
  · rename_i others starts
    cases starts
    cases same
    rw [reads, ok_bind]
    exact nonempty_iff
  · rename_i notMinus
    exact (notMinus body rfl).elim

theorem scan_positive (solid : skipBlanks input = body) (notMinus : ∀ others, body ≠ '-' :: others)
    (reads : Reads (scanTerm none body) part rest) :
    scan input = .ok dice ↔
      scanParts (addPart ⟨[], 0⟩ false part) rest = .ok dice ∧ dice.terms ≠ [] := by
  obtain ⟨shorter, reads⟩ := reads
  have nonempty : ¬body.isEmpty = true := by
    intro empty
    cases List.isEmpty_iff.mp empty
    cases reads
  rw [scan, solid, if_neg nonempty]
  split
  rename_i negative first same
  split at same
  · rename_i others
    exact absurd rfl (notMinus others)
  · cases same
    rw [reads, ok_bind]
    exact nonempty_iff

/-- A text is read as dice exactly when it is a sum, some part of which is dice. -/
theorem scan_eq_ok_iff :
    scan input = .ok dice ↔
      ∃ parts, Sum input parts ∧ dice = ofParts parts ∧ dice.terms ≠ [] := by
  constructor
  · intro scanned
    obtain ⟨before, blanksBefore, inputEq⟩ := blanks_skipBlanks input
    rw [scan] at scanned
    by_cases blank : (skipBlanks input).isEmpty = true
    · rw [if_pos blank] at scanned
      cases scanned
    · rw [if_neg blank] at scanned
      split at scanned
      rename_i negative first sign
      obtain ⟨⟨part, rest⟩, scannedTerm, scanned⟩ := bind_eq_ok.mp scanned
      obtain ⟨scannedParts, some⟩ := nonempty_iff.mp scanned
      obtain ⟨written, firstEq, isTerm⟩ := scanTerm_sound scannedTerm
      obtain ⟨parts, further, rfl⟩ := scanParts_sound scannedParts
      refine ⟨(negative, part) :: parts, ?_, addParts_cons negative part parts, some⟩
      split at sign
      · rename_i others minus
        cases sign
        obtain ⟨after, blanksAfter, othersEq⟩ := blanks_skipBlanks others
        rw [inputEq, minus, othersEq, firstEq]
        exact .negative blanksBefore blanksAfter isTerm further
      · cases sign
        rw [inputEq, firstEq]
        exact .positive blanksBefore isTerm further
  · rintro ⟨parts, isSum, rfl, some⟩
    cases isSum with
    | @positive before written others part parts blanksBefore isTerm further =>
        have reads := isTerm.reads none further.stopsDigits further.stopsLetters
        exact (scan_positive (blanksBefore.skip isTerm.solid) isTerm.notMinus reads).mpr
          ⟨(further.reads _).trans (congrArg Except.ok (addParts_cons false part parts)), some⟩
    | @negative before after written others part parts blanksBefore blanksAfter isTerm further =>
        have minus : skipBlanks (before ++ '-' :: (after ++ (written ++ others))) =
            '-' :: (after ++ (written ++ others)) :=
          blanksBefore.skip (stopsAt_cons (by decide) _)
        have reads : Reads (scanTerm none (skipBlanks (after ++ (written ++ others)))) part
            others := by
          rw [blanksAfter.skip isTerm.solid]
          exact isTerm.reads none further.stopsDigits further.stopsLetters
        exact (scan_negative minus reads).mpr
          ⟨(further.reads _).trans (congrArg Except.ok (addParts_cons true part parts)), some⟩

end Sums

end Dice

end Bestiary
