import Bestiary.Proofs.Outcome
import Bestiary.Prose.Scanner

/-!
What the pieces of a text stand for.

The pieces cover the text from its start to its end. A literal run means the
characters that it covers, less the backslashes that escape one of them; a
mark covers its stars, a paragraph break only blanks, and an expression starts
and ends with its brackets. Inside it a name, a numeral, dice, a quoted string
or an operator covers how it is written.
-/

namespace Bestiary.Prose

open Text

def unescape (dialect : Dialect) : List Char → List Char
  | [] => []
  | [head] => [head]
  | head :: second :: tail =>
      if head == '\\' && dialect.escapes second then second :: unescape dialect tail
      else head :: unescape dialect (second :: tail)

/-- A quoted string behind its opening quote, to and with the closing one, and its content: a
backslash stands for the quote or the backslash behind it, and any other for itself. -/
inductive Quotes : List Char → List Char → Prop
  | close : Quotes ['"'] []
  | escaped {second : Char} {source content : List Char} :
      second = '"' ∨ second = '\\' → Quotes source content →
      Quotes ('\\' :: second :: source) (second :: content)
  | plain {head : Char} {source content : List Char} :
      head ≠ '"' → (head = '\\' → source.head? ≠ some '"' ∧ source.head? ≠ some '\\') →
      Quotes source content → Quotes (head :: source) (head :: content)

def IsWord (source : List Char) : Prop :=
  ∃ head body, source = head :: body ∧ (isLetter head || head == '_') = true ∧
    body.all isWordChar = true

/-- Dice as they stand in an expression: a count, a separator and the number of faces. -/
def IsDiceLiteral (source : List Char) : Prop :=
  ∃ count separator sides, source = count ++ separator :: sides ∧ count.all isDigit = true ∧
    (separator = 'd' ∨ separator = 'D') ∧ sides.all isDigit = true

/-- What characters a token covers. -/
def Token.Covers (dialect : Dialect) (source : List Char) : Token → Prop
  | literal content => content.toList = unescape dialect source
  | boldMark => source = ['*', '*']
  | italicMark => source = ['*']
  | paragraphBreak =>
      dialect.hasBreaks = true ∧ ∃ blanks, source = '\n' :: blanks ∧ blanks.all isBlank = true
  | opening => source = ['$', dialect.opener]
  | closing => source = [dialect.closer]
  | name word => word.toList = source ∧ IsWord source ∧ word ≠ "then" ∧ word ≠ "else"
  | number value => source.all isDigit = true ∧ numeralValue? source = some value
  | dice value => IsDiceLiteral source ∧ Dice.ofText (String.ofList source) = .ok value
  | quoted content => ∃ behind, source = '"' :: behind ∧ Quotes behind content.toList
  | command opened => source = opened.word.toList ++ ['(']
  | thenWord => source = "then".toList
  | elseWord => source = "else".toList
  | plus => source = ['+']
  | minus => source = ['-']
  | times => source = ['*']
  | floorOver => source = ['/', '<']
  | ceilingOver => source = ['/', '>']
  | openParen => source = ['(']
  | closeParen => source = [')']
  | dollar => source = ['$']

def Piece.IsFaithful (dialect : Dialect) (piece : Piece) : Prop :=
  ∀ token ∈ piece.token?, token.Covers dialect piece.source

/-! ### Literal runs -/

theorem unescape_cons {dialect : Dialect} {head second : Char} {tail source rest : List Char}
    (plain : ¬(head == '\\' && dialect.escapes second) = true)
    (split : source ++ rest = second :: tail) :
    unescape dialect (head :: source) = head :: unescape dialect source := by
  -- Whether the character is escaped depends on the next one, which the run may not cover.
  cases source with
  | nil => rfl
  | cons next others =>
      obtain rfl : next = second := (List.cons.inj split).1
      rw [unescape, if_neg plain]

theorem literalRun_content (dialect : Dialect) (input : List Char) :
    (literalRun dialect input).content = unescape dialect (literalRun dialect input).source := by
  induction input using literalRun.induct dialect with
  | case1 => rfl
  | case2 head special found =>
      rw [literalRun, found]
      rfl
  | case3 head found =>
      rw [literalRun, found]
      rfl
  | case4 head second tail escaped ih =>
      rw [literalRun, if_pos escaped]
      simp only
      rw [unescape, if_pos escaped, ih]
  | case5 head second tail plain special found =>
      rw [literalRun, if_neg plain, found]
      rfl
  | case6 head second tail plain found ih =>
      rw [literalRun, if_neg plain, found]
      simp only
      rw [unescape_cons plain (literalRun dialect (second :: tail)).split, ih]

/-! ### Lexemes -/

def Lexeme.piece {input : List Char} (lexeme : Lexeme input) : Piece :=
  ⟨lexeme.source, lexeme.token?⟩

/-- A lexeme that has a token, which stands for what it covers. -/
def Lexeme.IsMeant (dialect : Dialect) {input : List Char} (lexeme : Lexeme input) : Prop :=
  ∃ token, lexeme.token? = some token ∧ token.Covers dialect lexeme.source

theorem Lexeme.IsMeant.isFaithful {dialect : Dialect} {input : List Char} {lexeme : Lexeme input}
    (meant : lexeme.IsMeant dialect) : lexeme.piece.IsFaithful dialect := by
  obtain ⟨token, isToken, covers⟩ := meant
  intro other isOther
  obtain rfl : token = other := Option.some.inj (isToken.symm.trans isOther)
  exact covers

theorem special?_isMeant {dialect : Dialect} {head : Char} {tail : List Char}
    {lexeme : Lexeme (head :: tail)} (found : special? dialect head tail = some lexeme) :
    lexeme.IsMeant dialect := by
  unfold special? at found
  split at found
  · rename_i isDollar
    split at found
    · rename_i second rest
      split at found
      · rename_i isOpener
        cases found
        have headEq : head = '$' := beq_iff_eq.mp isDollar
        have secondEq : second = dialect.opener := beq_iff_eq.mp isOpener
        refine ⟨.opening, rfl, ?_⟩
        rw [Token.Covers, headEq, secondEq]
      · cases found
    · cases found
  · split at found
    · rename_i isStar
      have headEq : head = '*' := beq_iff_eq.mp (Bool.and_eq_true_iff.mp isStar).1
      split at found
      · cases found
        refine ⟨.boldMark, rfl, ?_⟩
        rw [Token.Covers, headEq]
      · cases found
        refine ⟨.italicMark, rfl, ?_⟩
        rw [Token.Covers, single, headEq]
    · split at found
      · rename_i isBreak
        cases found
        obtain ⟨isEnd, breaks⟩ := Bool.and_eq_true_iff.mp (Bool.and_eq_true_iff.mp isBreak).1
        have headEq : head = '\n' := beq_iff_eq.mp isEnd
        refine ⟨.paragraphBreak, rfl, ?_⟩
        rw [Token.Covers, headEq]
        exact ⟨breaks, _, rfl, List.all_takeWhile⟩
      · cases found

theorem scanText_isMeant (dialect : Dialect) (head : Char) (tail : List Char) :
    (scanText dialect head tail).IsMeant dialect := by
  unfold scanText
  cases found : special? dialect head tail with
  | some lexeme => exact special?_isMeant found
  | none =>
      cases tail with
      | nil => exact ⟨_, rfl, String.toList_singleton head⟩
      | cons second others =>
          simp only
          split
          · rename_i escaped
            refine ⟨_, rfl, ?_⟩
            rw [Token.Covers, String.toList_ofList, unescape, if_pos escaped, literalRun_content]
          · rename_i plain
            refine ⟨_, rfl, ?_⟩
            rw [Token.Covers, String.toList_ofList,
              unescape_cons plain (literalRun dialect (second :: others)).split,
              literalRun_content]

theorem scanWord_isMeant (dialect : Dialect) {head : Char} {tail : List Char}
    (starts : (isLetter head || head == '_') = true) :
    (scanWord head tail).IsMeant dialect := by
  have isWord : IsWord (head :: tail.takeWhile isWordChar) :=
    ⟨head, _, rfl, starts, List.all_takeWhile⟩
  unfold scanWord
  simp only
  split
  · rename_i isThen
    refine ⟨.thenWord, rfl, ?_⟩
    rw [Token.Covers, ← beq_iff_eq.mp isThen, String.toList_ofList]
  · rename_i notThen
    split
    · rename_i isElse
      refine ⟨.elseWord, rfl, ?_⟩
      rw [Token.Covers, ← beq_iff_eq.mp isElse, String.toList_ofList]
    · rename_i notElse
      have named : (Token.name (String.ofList (head :: tail.takeWhile isWordChar))).Covers dialect
          (head :: tail.takeWhile isWordChar) :=
        ⟨String.toList_ofList, isWord, mt beq_iff_eq.mpr notThen, mt beq_iff_eq.mpr notElse⟩
      split
      · exact ⟨.name _, rfl, named⟩
      · rename_i opened found
        rw [Structure.ofWord?] at found
        have isWordOf := List.find?_some found
        have wordEq := beq_iff_eq.mp isWordOf
        split
        · refine ⟨.command opened, rfl, ?_⟩
          rw [Token.Covers, wordEq, String.toList_ofList]
        · exact ⟨.name _, rfl, named⟩

theorem all_digits {head : Char} {tail : List Char} (starts : isDigit head = true) :
    (head :: tail.takeWhile isDigit).all isDigit = true := by
  rw [List.all_cons, starts, List.all_takeWhile, Bool.and_true]

theorem scanNumeral_isMeant {dialect : Dialect} {head : Char} {tail : List Char}
    {lexeme : Lexeme (head :: tail)} (starts : isDigit head = true)
    (accepted : scanNumeral head tail = .ok lexeme) : lexeme.IsMeant dialect := by
  unfold scanNumeral at accepted
  simp only at accepted
  split at accepted
  · cases accepted
  · rename_i value isValue
    cases accepted
    exact ⟨.number value, rfl, all_digits starts, isValue⟩

theorem scanNumber_isMeant {dialect : Dialect} {head : Char} {tail : List Char}
    {lexeme : Lexeme (head :: tail)} (starts : isDigit head = true)
    (accepted : scanNumber head tail = .ok lexeme) : lexeme.IsMeant dialect := by
  unfold scanNumber at accepted
  split at accepted
  · exact scanNumeral_isMeant starts accepted
  · rename_i separator rest _
    split at accepted
    · rename_i separates
      simp only at accepted
      split at accepted
      · rename_i value isDice
        cases accepted
        have isSeparator : separator = 'd' ∨ separator = 'D' := by simpa using separates
        exact ⟨.dice value, rfl, ⟨_, separator, _, rfl, all_digits starts, isSeparator,
          List.all_takeWhile⟩, isDice⟩
      · split at accepted
        · cases accepted
        · cases accepted
    · exact scanNumeral_isMeant starts accepted

theorem Quotes.ne_nil {source content : List Char} (quotes : Quotes source content) :
    source ≠ [] := by
  cases quotes <;> exact List.cons_ne_nil _ _

theorem quotedRun?_quotes {input : List Char} {run : LiteralRun input}
    (found : quotedRun? input = some run) : Quotes run.source run.content := by
  induction input using quotedRun?.induct with
  | case1 => cases found
  | case2 head closes =>
      rw [quotedRun?, if_pos closes] at found
      cases found
      rw [beq_iff_eq.mp closes]
      exact .close
  | case3 head opens =>
      rw [quotedRun?, if_neg opens] at found
      cases found
  | case4 head second tail escaped ih =>
      rw [quotedRun?, if_pos escaped] at found
      obtain ⟨inner, foundInner, rfl⟩ := Option.map_eq_some_iff.mp found
      obtain ⟨isSlash, escapes⟩ := Bool.and_eq_true_iff.mp escaped
      rw [beq_iff_eq.mp isSlash]
      exact .escaped (by simpa using escapes) (ih foundInner)
  | case5 head second tail plain closes =>
      rw [quotedRun?, if_neg plain, if_pos closes] at found
      cases found
      rw [beq_iff_eq.mp closes]
      exact .close
  | case6 head second tail plain opens ih =>
      rw [quotedRun?, if_neg plain, if_neg opens] at found
      obtain ⟨inner, foundInner, rfl⟩ := Option.map_eq_some_iff.mp found
      have quotes := ih foundInner
      refine .plain (mt beq_iff_eq.mpr opens) (fun isSlash => ?_) quotes
      -- What is covered behind the backslash starts with the character that does not escape it.
      have next : inner.source.head? = some second := by
        have split := inner.split
        cases covered : inner.source with
        | nil => exact absurd covered quotes.ne_nil
        | cons first others =>
            rw [covered] at split
            rw [List.head?_cons, (List.cons.inj split).1]
      rw [next]
      simpa [isSlash] using plain

theorem scanQuoted_isMeant {dialect : Dialect} {tail : List Char}
    {lexeme : Lexeme ('"' :: tail)} (accepted : scanQuoted '"' tail = .ok lexeme) :
    lexeme.IsMeant dialect := by
  unfold scanQuoted at accepted
  split at accepted
  · cases accepted
  · rename_i run found
    cases accepted
    refine ⟨.quoted _, rfl, run.source, rfl, ?_⟩
    rw [String.toList_ofList]
    exact quotedRun?_quotes found

theorem scanSlash_isMeant {dialect : Dialect} {tail : List Char}
    {lexeme : Lexeme ('/' :: tail)} (accepted : scanSlash '/' tail = .ok lexeme) :
    lexeme.IsMeant dialect := by
  unfold scanSlash at accepted
  split at accepted
  · cases accepted
    exact ⟨.floorOver, rfl, rfl⟩
  · cases accepted
    exact ⟨.ceilingOver, rfl, rfl⟩
  · cases accepted

theorem symbol?_isMeant {dialect : Dialect} {head : Char} {tail : List Char} {token : Token}
    (found : symbol? head = some token) :
    (single (some token) head tail).IsMeant dialect := by
  refine ⟨token, rfl, ?_⟩
  unfold symbol? at found
  split at found <;> cases found <;> rfl

theorem scanExpression_cases {dialect : Dialect} {head : Char} {tail : List Char}
    {lexeme : Lexeme (head :: tail)} (accepted : scanExpression dialect head tail = .ok lexeme) :
    (lexeme.piece = ⟨[head], none⟩ ∧ isBlank head = true) ∨ lexeme.IsMeant dialect := by
  unfold scanExpression at accepted
  split at accepted
  · rename_i blank
    cases accepted
    exact .inl ⟨rfl, blank⟩
  · right
    split at accepted
    · rename_i isCloser
      cases accepted
      have headEq : head = dialect.closer := beq_iff_eq.mp isCloser
      refine ⟨.closing, rfl, ?_⟩
      rw [Token.Covers, single, headEq]
    · split at accepted
      · rename_i starts
        cases accepted
        exact scanWord_isMeant dialect starts
      · split at accepted
        · rename_i starts
          exact scanNumber_isMeant starts accepted
        · split at accepted
          · rename_i isQuote
            obtain rfl : head = '"' := beq_iff_eq.mp isQuote
            exact scanQuoted_isMeant accepted
          · split at accepted
            · rename_i isSlash
              obtain rfl : head = '/' := beq_iff_eq.mp isSlash
              exact scanSlash_isMeant accepted
            · split at accepted
              · rename_i found
                cases accepted
                exact symbol?_isMeant found
              · cases accepted

theorem scanExpression_isFaithful {dialect : Dialect} {head : Char} {tail : List Char}
    {lexeme : Lexeme (head :: tail)} (accepted : scanExpression dialect head tail = .ok lexeme) :
    lexeme.piece.IsFaithful dialect := by
  rcases scanExpression_cases accepted with ⟨pieceEq, _⟩ | meant
  · rw [pieceEq]
    intro token isToken
    cases isToken
  · exact meant.isFaithful

/-! ### Whole texts -/

theorem scanPieces_nil {dialect : Dialect} : scanPieces dialect false [] = .ok [] := by
  rw [scanPieces, if_neg Bool.false_ne_true]

theorem scanPieces_text {dialect : Dialect} {head : Char} {tail : List Char} :
    scanPieces dialect false (head :: tail) =
      (scanPieces dialect (insideAfter false (scanText dialect head tail).token?)
        (scanText dialect head tail).rest).map
          (⟨(scanText dialect head tail).source, (scanText dialect head tail).token?⟩ :: ·) := by
  rw [scanPieces, if_neg Bool.false_ne_true]
  change (scanPieces dialect _ (scanText dialect head tail).rest >>= fun others =>
    pure (⟨(scanText dialect head tail).source, (scanText dialect head tail).token?⟩ ::
      others)) = _
  cases scanPieces dialect _ (scanText dialect head tail).rest <;> rfl

theorem scanPieces_literalRun {dialect : Dialect} {head : Char} {content rest : List Char}
    {written : String} (left : (scanText dialect head (content ++ rest)).rest = rest)
    (isLiteral : (scanText dialect head (content ++ rest)).token? = some (.literal written)) :
    scanPieces dialect false (head :: (content ++ rest)) =
      (scanPieces dialect false rest).map
        (⟨head :: content, some (.literal (String.ofList (unescape dialect (head :: content))))⟩ ::
          ·) := by
  have source : (scanText dialect head (content ++ rest)).source = head :: content := by
    have split := (scanText dialect head (content ++ rest)).split
    rw [left] at split
    exact List.append_cancel_right split
  have meaning : written = String.ofList (unescape dialect (head :: content)) := by
    have covers := (scanText_isMeant dialect head (content ++ rest)).isFaithful
      (.literal written) isLiteral
    rw [Token.Covers, Lexeme.piece, source] at covers
    rw [← covers, String.ofList_toList]
  rw [scanPieces_text, isLiteral, left, source, meaning]
  rfl

theorem Lexeme.covers_cons {dialect : Dialect} {input : List Char} (lexeme : Lexeme input)
    {others : List Piece} (faithful : lexeme.piece.IsFaithful dialect)
    (covered : others.flatMap Piece.source = lexeme.rest ∧
      ∀ piece ∈ others, piece.IsFaithful dialect) :
    (lexeme.piece :: others).flatMap Piece.source = input ∧
      ∀ piece ∈ lexeme.piece :: others, piece.IsFaithful dialect := by
  obtain ⟨restEq, othersFaithful⟩ := covered
  constructor
  · rw [List.flatMap_cons, restEq]
    exact lexeme.split
  · intro piece member
    rcases List.mem_cons.mp member with rfl | inOthers
    · exact faithful
    · exact othersFaithful piece inOthers

/-- The pieces of a text cover it from its start to its end, and each covers what it stands
for. -/
theorem scanPieces_covers {dialect : Dialect} {inside : Bool} {input : List Char}
    {pieces : List Piece} (scanned : scanPieces dialect inside input = .ok pieces) :
    pieces.flatMap Piece.source = input ∧ ∀ piece ∈ pieces, piece.IsFaithful dialect := by
  induction inside, input using scanPieces.induct dialect generalizing pieces with
  | case1 =>
      rw [scanPieces] at scanned
      cases scanned
  | case2 inside outside =>
      rw [scanPieces, if_neg outside] at scanned
      cases scanned
      exact ⟨rfl, fun piece member => nomatch member⟩
  | case3 head tail ih =>
      rw [scanPieces, if_pos rfl] at scanned
      obtain ⟨lexeme, accepted, scanned⟩ := bind_eq_ok.mp scanned
      obtain ⟨others, scannedOthers, scanned⟩ := bind_eq_ok.mp scanned
      cases scanned
      exact lexeme.covers_cons (scanExpression_isFaithful accepted) (ih lexeme scannedOthers)
  | case4 inside head tail outside ih =>
      rw [scanPieces, if_neg outside] at scanned
      obtain ⟨lexeme, accepted, scanned⟩ := bind_eq_ok.mp scanned
      obtain ⟨others, scannedOthers, scanned⟩ := bind_eq_ok.mp scanned
      cases accepted
      cases scanned
      exact Lexeme.covers_cons _ (scanText_isMeant dialect head tail).isFaithful
        (ih _ scannedOthers)

end Bestiary.Prose
