import Bestiary.Proofs.Dice.Reading
import Bestiary.Proofs.Prose.Evaluation
import Bestiary.Proofs.Prose.Grammar

/-!
What is written inside an expression is read as the tokens that it was written for.

Names, numerals and dice are followed by a blank, a parenthesis or the end of
the expression wherever the program writes them, so each of them is read as one
token and what follows is read as if it stood alone. Only a numeral can be
refused, for its length.
-/

namespace Bestiary.Prose

open Text Number

variable {breaks : Bool}

/-! ### One lexeme after the other -/

def LexemeScan.Yields {input : List Char} (outcome : LexemeScan input) (token? : Option Token)
    (source rest : List Char) : Prop :=
  ∃ lexeme, outcome = .ok lexeme ∧ lexeme.token? = token? ∧ lexeme.source = source ∧
    lexeme.rest = rest

theorem LexemeScan.Yields.scanPieces {dialect : Dialect} {head : Char} {tail source rest : List Char}
    {token? : Option Token}
    (yields : (scanExpression dialect head tail).Yields token? source rest) :
    scanPieces dialect true (head :: tail) =
      (scanPieces dialect (insideAfter true token?) rest).map (⟨source, token?⟩ :: ·) := by
  obtain ⟨lexeme, scanned, rfl, rfl, rfl⟩ := yields
  rw [Prose.scanPieces, if_pos rfl, scanned, ok_bind]
  beta_reduce
  cases Prose.scanPieces dialect (insideAfter true lexeme.token?) lexeme.rest <;> rfl

theorem scanPieces_stops {dialect : Dialect} {head : Char} {tail : List Char}
    {stop : Stop ProseFault} (stops : scanExpression dialect head tail = .error stop) :
    scanPieces dialect true (head :: tail) = .error stop := by
  rw [scanPieces, if_pos rfl, stops]
  rfl

/-- Text that does not go on with a name, a numeral or dice that stand before it. -/
def Parted (rest : List Char) : Prop :=
  ∀ next ∈ rest.head?, next = ' ' ∨ next = ')' ∨ next = '\x7d'

/-- What is written inside an expression is read as some tokens, whatever parted text follows. -/
def ReadsAs (breaks : Bool) (written : List Char) (tokens : List Token) : Prop :=
  ∃ pieces : List Piece, pieces.filterMap Piece.token? = tokens ∧
    ∀ rest, Parted rest → scanPieces (.prose breaks) true (written ++ rest) =
      (scanPieces (.prose breaks) true rest).map (pieces ++ ·)

def ProseFault.IsOverlong (fault : ProseFault) : Prop :=
  fault = .unwritableNumber ∨
    ∃ digits, fault = .unreadableNumeral digits ∧ numeralLimit < digits.length

/-- A numeral in what is written inside an expression is refused, whatever parted text follows. -/
def IsRefused (breaks : Bool) (written : List Char) : Prop :=
  ∀ rest, Parted rest → ∃ stop, scanPieces (.prose breaks) true (written ++ rest) = .error stop ∧
    stop.fault.IsOverlong

def AreLegible (tokens : List Token) : Prop :=
  ∀ number, Token.number number ∈ tokens → number < writingBound

/-- What is written inside an expression is read as some tokens if their numbers are legible, and
refused if not. -/
structure Scans (breaks : Bool) (written : List Char) (tokens : List Token) : Prop where
  readsAs : AreLegible tokens → ReadsAs breaks written tokens
  refused : ¬AreLegible tokens → IsRefused breaks written

theorem Scans.read_or_refused {written : List Char} {tokens : List Token}
    (scans : Scans breaks written tokens) :
    ReadsAs breaks written tokens ∨ IsRefused breaks written :=
  (em (AreLegible tokens)).imp scans.readsAs scans.refused

theorem legible_nil : AreLegible [] := fun _ => nofun

theorem legible_cons {token : Token} {tokens : List Token}
    (notNumber : ∀ number, token ≠ .number number) :
    AreLegible (token :: tokens) ↔ AreLegible tokens := by
  refine ⟨fun legible number member => legible number (List.mem_cons_of_mem _ member),
    fun legible number member => ?_⟩
  rcases List.mem_cons.mp member with same | later
  · exact absurd same.symm (notNumber number)
  · exact legible number later

theorem AreLegible.cons {token : Token} {tokens : List Token}
    (notNumber : ∀ number, token ≠ .number number) (legible : AreLegible tokens) :
    AreLegible (token :: tokens) :=
  (legible_cons notNumber).mpr legible

theorem AreLegible.append {before after : List Token} (first : AreLegible before)
    (second : AreLegible after) : AreLegible (before ++ after) := fun number member =>
  (List.mem_append.mp member).elim (first number) (second number)

theorem AreLegible.before {before after : List Token} (legible : AreLegible (before ++ after)) :
    AreLegible before := fun number member =>
  legible number (List.mem_append_left after member)

theorem AreLegible.after {before after : List Token} (legible : AreLegible (before ++ after)) :
    AreLegible after := fun number member =>
  legible number (List.mem_append_right before member)

theorem parted_cons {next : Char} {tail : List Char}
    (parts : next = ' ' ∨ next = ')' ∨ next = '\x7d') : Parted (next :: tail) := by
  intro other member
  cases member
  exact parts

def Follows (written : List Char) : Prop :=
  ∀ next ∈ written.head?, next = ' '

theorem follows_nil : Follows [] := by
  intro next impossible
  cases impossible

theorem follows_blank (tail : List Char) : Follows (' ' :: tail) := by
  intro next same
  cases same
  rfl

theorem Follows.append {first second : List Char} (before : Follows first)
    (after : Follows second) : Follows (first ++ second) := by
  cases first with
  | nil => exact after
  | cons head tail => exact before

theorem Follows.parts {written : List Char} (follows : Follows written) (rest : List Char)
    (parted : Parted rest) : Parted (written ++ rest) := by
  cases written with
  | nil => exact parted
  | cons head tail =>
      rw [follows head rfl]
      exact parted_cons (Or.inl rfl)

theorem ReadsAs.append {first second : List Char} {before after : List Token}
    (firstReads : ReadsAs breaks first before) (secondReads : ReadsAs breaks second after)
    (parts : ∀ rest, Parted rest → Parted (second ++ rest)) :
    ReadsAs breaks (first ++ second) (before ++ after) := by
  obtain ⟨pieces, rfl, scanned⟩ := firstReads
  obtain ⟨others, rfl, scannedOthers⟩ := secondReads
  refine ⟨pieces ++ others, List.filterMap_append, fun rest parted => ?_⟩
  rw [List.append_assoc, scanned _ (parts rest parted), scannedOthers rest parted]
  cases scanPieces (.prose breaks) true rest with
  | error stop => rfl
  | ok left => exact congrArg Except.ok (List.append_assoc pieces others left).symm

theorem IsRefused.before {first second : List Char} (refused : IsRefused breaks first)
    (parts : ∀ rest, Parted rest → Parted (second ++ rest)) :
    IsRefused breaks (first ++ second) := by
  intro rest parted
  rw [List.append_assoc]
  exact refused _ (parts rest parted)

theorem IsRefused.after {first second : List Char} {tokens : List Token}
    (refused : IsRefused breaks second) (reads : ReadsAs breaks first tokens)
    (parts : ∀ rest, Parted rest → Parted (second ++ rest)) :
    IsRefused breaks (first ++ second) := by
  obtain ⟨pieces, _, scanned⟩ := reads
  intro rest parted
  obtain ⟨stop, stopped, overlong⟩ := refused rest parted
  rw [List.append_assoc, scanned _ (parts rest parted), stopped]
  exact ⟨stop, rfl, overlong⟩

theorem Scans.nothing : Scans breaks [] [] := by
  refine ⟨fun _ => ⟨[], rfl, fun rest _ => ?_⟩, fun illegible => absurd legible_nil illegible⟩
  rw [List.nil_append]
  cases scanPieces (.prose breaks) true rest <;> rfl

theorem Scans.append {first second : List Char} {before after : List Token}
    (firstScans : Scans breaks first before) (secondScans : Scans breaks second after)
    (parts : ∀ rest, Parted rest → Parted (second ++ rest)) :
    Scans breaks (first ++ second) (before ++ after) := by
  refine ⟨fun legible => ?_, fun illegible => ?_⟩
  · exact (firstScans.readsAs legible.before).append (secondScans.readsAs legible.after) parts
  · by_cases legible : AreLegible before
    · have refused := secondScans.refused fun others => illegible (legible.append others)
      exact refused.after (firstScans.readsAs legible) parts
    · exact (firstScans.refused legible).before parts

theorem Scans.character {head : Char} {token? : Option Token} {written : List Char}
    {tokens : List Token}
    (alone : ∀ rest, (scanExpression (.prose breaks) head rest).Yields token? [head] rest)
    (stays : insideAfter true token? = true) (legible : AreLegible token?.toList)
    (scans : Scans breaks written tokens) :
    Scans breaks (head :: written) (token?.toList ++ tokens) := by
  refine ⟨fun all => ?_, fun illegible => ?_⟩
  · obtain ⟨pieces, rfl, scanned⟩ := scans.readsAs all.after
    refine ⟨⟨[head], token?⟩ :: pieces, ?_, fun rest parted => ?_⟩
    · cases token? <;> rfl
    · rw [List.cons_append, (alone (written ++ rest)).scanPieces, stays, scanned rest parted]
      cases scanPieces (.prose breaks) true rest <;> rfl
  · intro rest parted
    obtain ⟨stop, stopped, overlong⟩ :=
      scans.refused (fun others => illegible (legible.append others)) rest parted
    rw [List.cons_append, (alone (written ++ rest)).scanPieces, stays, stopped]
    exact ⟨stop, rfl, overlong⟩

theorem Scans.blank {written : List Char} {tokens : List Token}
    (scans : Scans breaks written tokens) : Scans breaks (' ' :: written) tokens := by
  have alone (rest : List Char) :
      (scanExpression (.prose breaks) ' ' rest).Yields none [' '] rest :=
    ⟨_, rfl, rfl, rfl, rfl⟩
  exact Scans.character alone rfl legible_nil scans

theorem Scans.plus {written : List Char} {tokens : List Token}
    (scans : Scans breaks written tokens) : Scans breaks ('+' :: written) (.plus :: tokens) := by
  have alone (rest : List Char) :
      (scanExpression (.prose breaks) '+' rest).Yields (some .plus) ['+'] rest :=
    ⟨_, rfl, rfl, rfl, rfl⟩
  exact Scans.character alone rfl (legible_nil.cons (by simp)) scans

theorem Scans.minus {written : List Char} {tokens : List Token}
    (scans : Scans breaks written tokens) : Scans breaks ('-' :: written) (.minus :: tokens) := by
  have alone (rest : List Char) :
      (scanExpression (.prose breaks) '-' rest).Yields (some .minus) ['-'] rest :=
    ⟨_, rfl, rfl, rfl, rfl⟩
  exact Scans.character alone rfl (legible_nil.cons (by simp)) scans

theorem Scans.parenthesis {written : List Char} {tokens : List Token}
    (scans : Scans breaks written tokens) :
    Scans breaks ('(' :: written) (.openParen :: tokens) := by
  have alone (rest : List Char) :
      (scanExpression (.prose breaks) '(' rest).Yields (some .openParen) ['('] rest :=
    ⟨_, rfl, rfl, rfl, rfl⟩
  exact Scans.character alone rfl (legible_nil.cons (by simp)) scans

theorem ReadsAs.lexeme {head : Char} {body : List Char} {token : Token}
    (whole : ∀ rest, Parted rest →
      (scanExpression (.prose breaks) head (body ++ rest)).Yields (some token) (head :: body) rest)
    (stays : insideAfter true (some token) = true) :
    ReadsAs breaks (head :: body) [token] := by
  refine ⟨[⟨head :: body, some token⟩], rfl, fun rest parted => ?_⟩
  rw [List.cons_append, (whole rest parted).scanPieces, stays]
  rfl

theorem ReadsAs.scans {written : List Char} {tokens : List Token}
    (reads : ReadsAs breaks written tokens) (legible : AreLegible tokens) :
    Scans breaks written tokens :=
  ⟨fun _ => reads, fun illegible => absurd legible illegible⟩

theorem Parted.stops {rest : List Char} (parted : Parted rest) {kind : Char → Bool}
    (blank : kind ' ' = false) (parenthesis : kind ')' = false) (closer : kind '\x7d' = false) :
    StopsAt kind rest := by
  intro next first
  rcases parted next first with rfl | rfl | rfl
  · exact blank
  · exact parenthesis
  · exact closer

/-! ### Numerals -/

theorem scanExpression_digit {head : Char} (plain : isPlainDigit head = true) (tail : List Char) :
    scanExpression (.prose breaks) head tail = scanNumber head tail := by
  have digit := isDigit_of_plain plain
  simp only [isPlainDigit, Bool.and_eq_true, decide_eq_true_eq] at plain
  have low : head.toNat < 128 := by omega
  have notBlank : isBlank head = false := by
    simp only [isBlank, if_pos low, Bool.or_eq_false_iff, Bool.and_eq_false_iff,
      decide_eq_false_iff_not, beq_eq_false_iff_ne]
    omega
  have notLetter : isLetter head = false := by
    simp only [isLetter, if_pos low, Bool.or_eq_false_iff, Bool.and_eq_false_iff,
      decide_eq_false_iff_not]
    omega
  have notCloser : (head == (Dialect.prose breaks).closer) = false := by
    refine beq_eq_false_iff_ne.mpr fun same => ?_
    rw [same] at plain
    exact absurd plain.2 (show ¬(125 ≤ 57) by decide)
  have notScore : (head == '_') = false := by
    refine beq_eq_false_iff_ne.mpr fun same => ?_
    rw [same] at plain
    exact absurd plain.2 (by decide)
  simp [scanExpression, notBlank, notLetter, notCloser, notScore, digit]

theorem scanNumber_numeral {head : Char} {tail rest : List Char} (parted : Parted rest)
    (digits : ∀ character ∈ tail, isDigit character = true) :
    scanNumber head (tail ++ rest) = scanNumeral head (tail ++ rest) := by
  have stops : StopsAt isDigit rest := parted.stops rfl rfl rfl
  have dropped := (takeWhile_append_stop digits stops).2
  unfold scanNumber
  split
  · rfl
  · next separator others follows =>
      rw [dropped] at follows
      have first := parted separator (by rw [follows]; rfl)
      have notDice : (separator == 'd' || separator == 'D') = false := by
        rcases first with rfl | rfl | rfl <;> rfl
      rw [if_neg (by rw [notDice]; exact Bool.false_ne_true)]

theorem scanNumeral_known {head : Char} {tail : List Char} {value : Nat}
    (known : numeralValue? (head :: tail.takeWhile isDigit) = some value) :
    LexemeScan.Yields (scanNumeral head tail) (some (.number value))
      (head :: tail.takeWhile isDigit) (tail.dropWhile isDigit) := by
  unfold scanNumeral
  dsimp only
  split
  · next refused => cases refused.symm.trans known
  · next found read =>
      cases read.symm.trans known
      exact ⟨_, rfl, rfl, rfl, rfl⟩

theorem scanNumeral_refused {head : Char} {tail : List Char}
    (long : numeralLimit < (head :: tail.takeWhile isDigit).length) :
    ∃ stop, scanNumeral head tail = .error stop ∧ stop.fault.IsOverlong := by
  have refused : numeralValue? (head :: tail.takeWhile isDigit) = none := if_pos long
  unfold scanNumeral
  dsimp only
  split
  · exact ⟨_, rfl, Or.inr ⟨_, rfl, long⟩⟩
  · next found read => cases refused.symm.trans read

theorem scanExpression_natural {number : Nat} {head : Char} {tail rest : List Char}
    (written : naturalText number = head :: tail) (parted : Parted rest) :
    scanExpression (.prose breaks) head (tail ++ rest) = scanNumeral head (tail ++ rest) ∧
      (tail ++ rest).takeWhile isDigit = tail ∧ (tail ++ rest).dropWhile isDigit = rest := by
  have plain := naturalText_plain number
  rw [written] at plain
  obtain ⟨plainHead, plainTail⟩ := List.forall_mem_cons.mp plain
  have digits : ∀ character ∈ tail, isDigit character = true :=
    fun character member => isDigit_of_plain (plainTail character member)
  exact ⟨(scanExpression_digit plainHead _).trans (scanNumber_numeral parted digits),
    takeWhile_append_stop digits (parted.stops rfl rfl rfl)⟩

theorem reads_natural {number : Nat} (short : number < writingBound) :
    ReadsAs breaks (naturalText number) [.number number] := by
  have known := numeralValue?_naturalText short
  cases written : naturalText number with
  | nil => exact absurd written (naturalText_ne_nil number)
  | cons head tail =>
      rw [written] at known
      refine ReadsAs.lexeme (fun rest parted => ?_) rfl
      obtain ⟨numeral, takes, drops⟩ := scanExpression_natural written parted
      have yields : LexemeScan.Yields (scanNumeral head (tail ++ rest)) (some (.number number))
          (head :: (tail ++ rest).takeWhile isDigit) ((tail ++ rest).dropWhile isDigit) :=
        scanNumeral_known (by rw [takes]; exact known)
      rw [takes, drops] at yields
      rw [numeral]
      exact yields

theorem refused_natural {number : Nat} (long : ¬number < writingBound) :
    IsRefused breaks (naturalText number) := by
  have tooLong : numeralLimit < (naturalText number).length := by
    refine Nat.not_le.mp fun few => long ?_
    exact Dice.numeralValue?_naturalText_lt (numeralValue?_plain (naturalText_plain number) few)
  cases written : naturalText number with
  | nil => exact absurd written (naturalText_ne_nil number)
  | cons head tail =>
      intro rest parted
      obtain ⟨numeral, takes, _⟩ :
          scanExpression (.prose breaks) head (tail ++ rest) = scanNumeral head (tail ++ rest) ∧ _ :=
        scanExpression_natural written parted
      obtain ⟨stop, stopped, overlong⟩ :
          ∃ stop, scanNumeral head (tail ++ rest) = .error stop ∧ stop.fault.IsOverlong :=
        scanNumeral_refused (by rw [takes, ← written]; exact tooLong)
      exact ⟨stop, scanPieces_stops (numeral.trans stopped), overlong⟩

theorem legible_natural {number : Nat} : AreLegible [.number number] ↔ number < writingBound := by
  simp [AreLegible]

theorem scans_natural (number : Nat) : Scans breaks (naturalText number) [.number number] :=
  ⟨fun legible => reads_natural (legible_natural.mp legible),
    fun illegible => refused_natural fun short => illegible (legible_natural.mpr short)⟩

def integerTokens (number : Int) : List Token :=
  if number < 0 then [.minus, .number number.natAbs] else [.number number.natAbs]

theorem legible_integer {number : Int} :
    AreLegible (integerTokens number) ↔ isWritable number = true := by
  have natural : AreLegible [.number number.natAbs] ↔ isWritable number = true :=
    legible_natural.trans decide_eq_true_iff.symm
  unfold integerTokens
  split
  · exact (legible_cons (by simp)).trans natural
  · exact natural

theorem scans_integer (number : Int) : Scans breaks (integerText number) (integerTokens number) := by
  unfold integerText integerTokens
  split
  · exact (scans_natural number.natAbs).minus
  · exact scans_natural number.natAbs

/-! ### Names and dice -/

structure IsName (word : List Char) : Prop where
  starts : ∃ head tail, word = head :: tail ∧ isLetter head = true ∧ isBlank head = false ∧
    head ≠ '\x7d' ∧ ∀ character ∈ tail, isWordChar character = true
  notThen : String.ofList word ≠ "then"
  notElse : String.ofList word ≠ "else"
  notStructure : Structure.ofWord? (String.ofList word) = none

theorem scanWord_name {head : Char} {tail : List Char} {word : List Char}
    (body : head :: tail.takeWhile isWordChar = word) (isName : IsName word) :
    (scanWord head tail).token? = some (.name (String.ofList word)) ∧
      (scanWord head tail).source = word ∧
      (scanWord head tail).rest = tail.dropWhile isWordChar := by
  subst body
  have notThen := beq_eq_false_iff_ne.mpr isName.notThen
  have notElse := beq_eq_false_iff_ne.mpr isName.notElse
  unfold scanWord
  dsimp only
  rw [if_neg (by rw [notThen]; exact Bool.false_ne_true),
    if_neg (by rw [notElse]; exact Bool.false_ne_true)]
  split
  · exact ⟨rfl, rfl, rfl⟩
  · next opened found => cases isName.notStructure.symm.trans found

theorem scans_name {word : List Char} (isName : IsName word) :
    Scans breaks word [.name (String.ofList word)] := by
  obtain ⟨head, tail, rfl, letter, notBlank, notCloser, body⟩ := isName.starts
  refine (ReadsAs.lexeme (fun rest parted => ?_) rfl).scans (legible_nil.cons (by simp))
  obtain ⟨takes, drops⟩ := takeWhile_append_stop body (parted.stops rfl rfl rfl)
  have closer : (head == (Dialect.prose breaks).closer) = false :=
    beq_eq_false_iff_ne.mpr notCloser
  have word : scanExpression (.prose breaks) head (tail ++ rest) =
      .ok (scanWord head (tail ++ rest)) := by
    simp [scanExpression, notBlank, letter, closer]
  obtain ⟨token, source, left⟩ := scanWord_name (congrArg (head :: ·) takes) isName
  exact ⟨_, word, token, source, left.trans drops⟩

theorem scanNumber_dice {head : Char} {tail body : List Char} {dice : Dice}
    (follows : tail.dropWhile isDigit = 'd' :: body)
    (read : Dice.ofText
      (String.ofList (head :: tail.takeWhile isDigit ++ 'd' :: body.takeWhile isDigit)) = .ok dice) :
    LexemeScan.Yields (scanNumber head tail) (some (.dice dice))
      (head :: tail.takeWhile isDigit ++ 'd' :: body.takeWhile isDigit)
      (body.dropWhile isDigit) := by
  unfold scanNumber
  split
  · next ended => cases ended.symm.trans follows
  · next separator others divided =>
      cases divided.symm.trans follows
      have separates : ('d' == 'd' || 'd' == 'D') = true := rfl
      rw [if_pos separates]
      dsimp only
      split
      · next value found =>
          cases found.symm.trans read
          exact ⟨_, rfl, rfl, rfl, rfl⟩
      · next error found => cases found.symm.trans read

theorem ofText_diceText {count : Nat} (die : Die) (positive : 1 ≤ count)
    (few : count ≤ Dice.countLimit) :
    Dice.ofText (String.ofList (DiceTerm.diceText ⟨count, die, 1⟩)) =
      .ok (Dice.single count die 0) := by
  have writableZero : isWritable 0 = true := isWritable_of_digit (by decide)
  have readable : (Dice.single count die 0).IsReadable :=
    Dice.single_readable die 0 (Int.ofNat_le.mpr positive) (Int.ofNat_le.mpr few)
  have text : (Dice.single count die 0).render =
      String.ofList (DiceTerm.diceText ⟨count, die, 1⟩) := by
    have unit : DiceTerm.unsignedText ⟨count, die, 1⟩ = DiceTerm.diceText ⟨count, die, 1⟩ :=
      if_pos (Or.inl rfl)
    have plain : DiceTerm.text true ⟨count, die, 1⟩ = DiceTerm.diceText ⟨count, die, 1⟩ := unit
    rw [Dice.render, Dice.text, Dice.single]
    dsimp only
    rw [plain, List.flatMap_nil, List.append_nil, show Dice.addendText 0 = [] from rfl,
      List.append_nil]
  rw [← text]
  exact Dice.ofText_render readable writableZero

theorem scans_dice {count : Int} (die : Die) (factor : Rat) (positive : 1 ≤ count)
    (few : count ≤ Dice.countLimit) :
    Scans breaks (DiceTerm.diceText ⟨count, die, factor⟩) [.dice (Dice.single count die 0)] := by
  obtain ⟨count, rfl⟩ : ∃ number : Nat, count = number :=
    Int.eq_ofNat_of_zero_le (Int.le_trans (by decide) positive)
  have read := ofText_diceText die (Int.ofNat_le.mp positive) (Int.ofNat_le.mp few)
  have plain := naturalText_plain count
  have sides : ∀ character ∈ naturalText die.sides, isDigit character = true :=
    fun character member => isDigit_of_plain (naturalText_plain die.sides character member)
  unfold DiceTerm.diceText at read ⊢
  rw [integerText_natCast] at read ⊢
  cases written : naturalText count with
  | nil => exact absurd written (naturalText_ne_nil count)
  | cons head tail =>
      rw [written] at plain read
      obtain ⟨plainHead, plainTail⟩ := List.forall_mem_cons.mp plain
      have digits : ∀ character ∈ tail, isDigit character = true :=
        fun character member => isDigit_of_plain (plainTail character member)
      rw [List.cons_append]
      refine (ReadsAs.lexeme (fun rest parted => ?_) rfl).scans (legible_nil.cons (by simp))
      obtain ⟨counts, follows⟩ :=
        takeWhile_append_stop digits (stopsAt_cons (by decide : isDigit 'd' = false)
          (naturalText die.sides ++ rest))
      obtain ⟨faces, left⟩ := takeWhile_append_stop sides (parted.stops rfl rfl rfl)
      rw [scanExpression_digit plainHead, List.append_assoc, List.cons_append]
      have yields := scanNumber_dice follows (by rw [counts, faces]; exact read)
      rw [counts, faces, left] at yields
      exact yields

end Bestiary.Prose
