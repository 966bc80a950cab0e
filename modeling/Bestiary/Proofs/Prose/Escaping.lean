import Bestiary.Prose.Token
import Bestiary.Proofs.Prose.Words

/-!
Escaped text is read as the characters that it was made from.

Outside expressions a backslash takes their meaning from the characters that
have one, but nothing takes it from the lines: where blank lines break
paragraphs, they do so in an escaped text as well. So an escaped text is read as
one literal run, unless one of its lines is blank.
-/

namespace Bestiary.Prose

open Text

variable {breaks : Bool}

/-! ### Characters -/

theorem escapeChar_plain {character : Char}
    (plain : character ≠ '$' ∧ character ≠ '*' ∧ character ≠ '\\') :
    escapeChar character = [character] := by
  obtain ⟨notDollar, notStar, notSlash⟩ := plain
  simp [escapeChar, notDollar, notStar, notSlash]

theorem special_cases {character : Char}
    (special : ¬(character ≠ '$' ∧ character ≠ '*' ∧ character ≠ '\\')) :
    character = '$' ∨ character = '*' ∨ character = '\\' := by
  simpa only [Classical.not_and_iff_not_or_not, Classical.not_not] using special

theorem escapeChar_special {character : Char}
    (special : ¬(character ≠ '$' ∧ character ≠ '*' ∧ character ≠ '\\')) :
    escapeChar character = ['\\', character] := by
  rcases special_cases special with rfl | rfl | rfl <;> rfl

theorem escapes_special {character : Char}
    (special : ¬(character ≠ '$' ∧ character ≠ '*' ∧ character ≠ '\\')) :
    (Dialect.prose breaks).escapes character = true := by
  rcases special_cases special with rfl | rfl | rfl <;> rfl

theorem toList_escapeText (text : String) :
    (escapeText text).toList = text.toList.flatMap escapeChar :=
  String.toList_ofList

theorem escapeText_append (first second : String) :
    escapeText (first ++ second) = escapeText first ++ escapeText second := by
  rw [escapeText, String.toList_append, List.flatMap_append, String.ofList_append]
  rfl

/-! ### Blank lines -/

/-- Whether a line end is followed by a line of blanks that ends as well. -/
def hasBlankLine : List Char → Bool
  | [] => false
  | head :: tail => head == '\n' && startsBlankLine tail || hasBlankLine tail

theorem startsBlankLine_append {after : List Char} (oneLine : '\n' ∉ after) (front : List Char) :
    startsBlankLine (front ++ after) = startsBlankLine front := by
  unfold startsBlankLine
  rw [List.dropWhile_append]
  cases left : front.dropWhile fun c => c == ' ' || c == '\t' || c == '\r' with
  | cons head tail => rfl
  | nil =>
      have noEnd : (after.dropWhile fun c => c == ' ' || c == '\t' || c == '\r').head? ≠
          some '\n' := by
        intro isEnd
        exact oneLine ((List.dropWhile_suffix _).subset (List.mem_of_mem_head? isEnd))
      exact beq_eq_false_iff_ne.mpr noEnd

theorem hasBlankLine_oneLine {content : List Char} (oneLine : '\n' ∉ content) :
    hasBlankLine content = false := by
  induction content with
  | nil => rfl
  | cons head tail ih =>
      obtain ⟨notHead, notTail⟩ := not_or.mp (oneLine ∘ List.mem_cons.mpr)
      rw [hasBlankLine, ih notTail, beq_eq_false_iff_ne.mpr (Ne.symm notHead)]
      rfl

theorem hasBlankLine_append {after : List Char} (oneLine : '\n' ∉ after) (front : List Char) :
    hasBlankLine (front ++ after) = hasBlankLine front := by
  induction front with
  | nil => exact hasBlankLine_oneLine oneLine
  | cons head tail ih =>
      rw [List.cons_append, hasBlankLine, hasBlankLine, startsBlankLine_append oneLine, ih]

/-! ### What follows -/

/-- Text at which a literal run ends: it is over, or goes on with a mark or an expression. -/
def EndsRun (breaks : Bool) (rest : List Char) : Prop :=
  ∀ head tail, rest = head :: tail →
    (special? (.prose breaks) head tail).isSome = true ∧ isBlank head = false

theorem Opens.endsRun {rest : List Char} (opens : Opens rest) : EndsRun breaks rest := by
  rintro head tail rfl
  rcases opens with impossible | ⟨others, same⟩
  · cases impossible
  · cases same
    exact ⟨rfl, rfl⟩

theorem literalRun_special {head : Char} {tail : List Char}
    (special : (special? (.prose breaks) head tail).isSome = true) :
    (literalRun (.prose breaks) (head :: tail)).content = [] ∧
      (literalRun (.prose breaks) (head :: tail)).rest = head :: tail := by
  obtain ⟨lexeme, found⟩ := Option.isSome_iff_exists.mp special
  cases tail with
  | nil =>
      rw [literalRun, found]
      exact ⟨rfl, rfl⟩
  | cons second others =>
      have unescaped : ¬(head == '\\' && (Dialect.prose breaks).escapes second) = true := by
        intro escaped
        obtain rfl := beq_iff_eq.mp (Bool.and_eq_true_iff.mp escaped).1
        cases found
      rw [literalRun, if_neg unescaped, found]
      exact ⟨rfl, rfl⟩

theorem literalRun_unescaped {head : Char} {tail : List Char} (notSlash : head ≠ '\\')
    (notSpecial : special? (.prose breaks) head tail = none) :
    (literalRun (.prose breaks) (head :: tail)).content =
        head :: (literalRun (.prose breaks) tail).content ∧
      (literalRun (.prose breaks) (head :: tail)).rest =
        (literalRun (.prose breaks) tail).rest := by
  cases tail with
  | nil =>
      simp only [literalRun, notSpecial, and_self]
  | cons second others =>
      have unescaped : (head == '\\' && (Dialect.prose breaks).escapes second) = false := by
        rw [beq_eq_false_iff_ne.mpr notSlash, Bool.false_and]
      rw [literalRun, if_neg (Bool.eq_false_iff.mp unescaped), notSpecial]
      exact ⟨rfl, rfl⟩

theorem literalRun_escape {character : Char}
    (escapes : (Dialect.prose breaks).escapes character = true) (tail : List Char) :
    (literalRun (.prose breaks) ('\\' :: character :: tail)).content =
        character :: (literalRun (.prose breaks) tail).content ∧
      (literalRun (.prose breaks) ('\\' :: character :: tail)).rest =
        (literalRun (.prose breaks) tail).rest := by
  have escaped : ('\\' == '\\' && (Dialect.prose breaks).escapes character) = true := escapes
  rw [literalRun, if_pos escaped]
  exact ⟨rfl, rfl⟩

theorem EndsRun.literalRun {rest : List Char} (ends : EndsRun breaks rest) :
    (Prose.literalRun (.prose breaks) rest).content = [] ∧
      (Prose.literalRun (.prose breaks) rest).rest = rest := by
  cases rest with
  | nil => exact ⟨rfl, rfl⟩
  | cons head tail => exact literalRun_special (ends head tail rfl).1

theorem dropWhile_escaped {kind : Char → Bool} {rest : List Char} (content : List Char)
    (plain : kind '$' = false ∧ kind '*' = false ∧ kind '\\' = false) (stops : StopsAt kind rest) :
    (content.flatMap escapeChar ++ rest).dropWhile kind =
      (content.dropWhile kind).flatMap escapeChar ++ rest := by
  induction content with
  | nil => exact (takeWhile_append_stop (List.forall_mem_nil _) stops).2
  | cons head tail ih =>
      rw [List.flatMap_cons, List.append_assoc, List.dropWhile_cons]
      cases skipped : kind head with
      | true =>
          have plainHead : head ≠ '$' ∧ head ≠ '*' ∧ head ≠ '\\' := by
            refine ⟨?_, ?_, ?_⟩ <;> rintro rfl <;> simp [plain] at skipped
          rw [escapeChar_plain plainHead, List.singleton_append, List.dropWhile_cons_of_pos skipped,
            ih]
          rfl
      | false =>
          by_cases plainHead : head ≠ '$' ∧ head ≠ '*' ∧ head ≠ '\\'
          · rw [escapeChar_plain plainHead, List.singleton_append,
              List.dropWhile_cons_of_neg (Bool.eq_false_iff.mp skipped), if_neg Bool.false_ne_true,
              List.flatMap_cons, escapeChar_plain plainHead]
            rfl
          · rw [escapeChar_special plainHead, List.cons_append,
              List.dropWhile_cons_of_neg (Bool.eq_false_iff.mp plain.2.2),
              if_neg Bool.false_ne_true, List.flatMap_cons,
              escapeChar_special plainHead]
            rfl

theorem EndsRun.stops {rest : List Char} (ends : EndsRun breaks rest) {kind : Char → Bool}
    (blanks : ∀ character, kind character = true → isBlank character = true) :
    StopsAt kind rest := by
  intro head isHead
  obtain ⟨tail, rfl⟩ := List.head?_eq_some_iff.mp isHead
  refine Bool.eq_false_iff.mpr fun skipped => ?_
  exact Bool.eq_false_iff.mp (ends head tail rfl).2 (blanks head skipped)

theorem startsBlankLine_escaped {rest : List Char} (ends : EndsRun breaks rest)
    (content : List Char) :
    startsBlankLine (content.flatMap escapeChar ++ rest) = startsBlankLine content := by
  have stops : StopsAt (fun c => c == ' ' || c == '\t' || c == '\r') rest := by
    refine ends.stops fun character skipped => ?_
    simp only [Bool.or_eq_true, beq_iff_eq] at skipped
    rcases skipped with (rfl | rfl) | rfl <;> rfl
  unfold startsBlankLine
  rw [dropWhile_escaped content ⟨rfl, rfl, rfl⟩ stops]
  cases content.dropWhile fun c => c == ' ' || c == '\t' || c == '\r' with
  | nil =>
      refine beq_eq_false_iff_ne.mpr fun isEnd => ?_
      obtain ⟨tail, rfl⟩ := List.head?_eq_some_iff.mp isEnd
      exact absurd (ends '\n' tail rfl).2 (by decide)
  | cons head tail =>
      by_cases plain : head ≠ '$' ∧ head ≠ '*' ∧ head ≠ '\\'
      · rw [List.flatMap_cons, escapeChar_plain plain]
        rfl
      · rw [List.flatMap_cons, escapeChar_special plain]
        have notEnd : head ≠ '\n' := by
          rintro rfl
          exact plain (by decide)
        exact (beq_eq_false_iff_ne.mpr (by simpa using notEnd)).symm

/-! ### Runs -/

/-- Some characters up to the first blank line, where blank lines break paragraphs, and from there
on. -/
def splitRun (breaks : Bool) : List Char → List Char × List Char
  | [] => ([], [])
  | head :: tail =>
      if breaks && (head == '\n' && startsBlankLine tail) then ([], head :: tail)
      else (head :: (splitRun breaks tail).1, (splitRun breaks tail).2)

theorem splitRun_append (breaks : Bool) (content : List Char) :
    (splitRun breaks content).1 ++ (splitRun breaks content).2 = content := by
  induction content with
  | nil => rfl
  | cons head tail ih =>
      rw [splitRun]
      split
      · rfl
      · exact congrArg (head :: ·) ih

theorem hasBlankLine_splitRun (breaks : Bool) (content : List Char) :
    if breaks && hasBlankLine content then hasBlankLine (splitRun breaks content).2 = true
    else (splitRun breaks content).2 = [] := by
  induction content with
  | nil => cases breaks <;> rfl
  | cons head tail ih =>
      rw [splitRun]
      cases starts : breaks && (head == '\n' && startsBlankLine tail) with
      | true =>
          obtain ⟨isBreak, blank⟩ := Bool.and_eq_true_iff.mp starts
          rw [hasBlankLine, isBreak, blank]
          simp [hasBlankLine, blank]
      | false =>
          have same : (breaks && hasBlankLine (head :: tail)) = (breaks && hasBlankLine tail) := by
            rw [hasBlankLine, Bool.and_or_distrib_left, starts, Bool.false_or]
          rw [same]
          exact ih

theorem special?_prose (breaks : Bool) {head : Char} (plain : head ≠ '$' ∧ head ≠ '*' ∧ head ≠ '\\')
    (tail : List Char) :
    if breaks && (head == '\n' && startsBlankLine tail) then
      ∃ lexeme, special? (.prose breaks) head tail = some lexeme ∧
        lexeme.token? = some .paragraphBreak ∧ lexeme.rest = tail.dropWhile isBlank
    else special? (.prose breaks) head tail = none := by
  have notDollar := beq_eq_false_iff_ne.mpr plain.1
  have notStar := beq_eq_false_iff_ne.mpr plain.2.1
  have condition : (head == '\n' && (Dialect.prose breaks).hasBreaks && startsBlankLine tail) =
      (breaks && (head == '\n' && startsBlankLine tail)) := by
    rw [Bool.and_left_comm, Bool.and_assoc]
    rfl
  unfold special?
  rw [notDollar, notStar, if_neg Bool.false_ne_true, Bool.false_and, if_neg Bool.false_ne_true,
    condition]
  split
  · exact ⟨_, rfl, rfl, rfl⟩
  · rfl

/-- A literal run through an escaped text means what that was made from, up to a blank line. -/
theorem literalRun_escaped {rest : List Char} (ends : EndsRun breaks rest) (content : List Char) :
    (literalRun (.prose breaks) (content.flatMap escapeChar ++ rest)).content =
        (splitRun breaks content).1 ∧
      (literalRun (.prose breaks) (content.flatMap escapeChar ++ rest)).rest =
        (splitRun breaks content).2.flatMap escapeChar ++ rest := by
  induction content with
  | nil => exact ends.literalRun
  | cons head tail ih =>
      rw [List.flatMap_cons, List.append_assoc, splitRun]
      by_cases plain : head ≠ '$' ∧ head ≠ '*' ∧ head ≠ '\\'
      · have cut := special?_prose breaks plain (tail.flatMap escapeChar ++ rest)
        rw [startsBlankLine_escaped ends] at cut
        rw [escapeChar_plain plain, List.singleton_append]
        cases starts : breaks && (head == '\n' && startsBlankLine tail) with
        | true =>
            rw [starts, if_pos rfl] at cut
            obtain ⟨lexeme, found, _, _⟩ := cut
            obtain ⟨content, left⟩ := literalRun_special (Option.isSome_iff_exists.mpr ⟨_, found⟩)
            rw [content, left, if_pos rfl, List.flatMap_cons, escapeChar_plain plain]
            exact ⟨rfl, rfl⟩
        | false =>
            rw [starts, if_neg Bool.false_ne_true] at cut
            obtain ⟨content, left⟩ := literalRun_unescaped plain.2.2 cut
            rw [content, left, ih.1, ih.2, if_neg Bool.false_ne_true]
            exact ⟨rfl, rfl⟩
      · have notEnd : (breaks && (head == '\n' && startsBlankLine tail)) = false := by
          have differs : head ≠ '\n' := by
            rintro rfl
            exact plain (by decide)
          rw [beq_eq_false_iff_ne.mpr differs, Bool.false_and, Bool.and_false]
        have escapes : (Dialect.prose breaks).escapes head = true := escapes_special plain
        obtain ⟨content, left⟩ := literalRun_escape escapes (tail.flatMap escapeChar ++ rest)
        rw [escapeChar_special plain, List.cons_append, List.singleton_append, content, left, ih.1,
          ih.2, notEnd, if_neg Bool.false_ne_true]
        exact ⟨rfl, rfl⟩

/-! ### Pieces -/

theorem scanText_unmarked {head : Char} {tail : List Char}
    (notSpecial : special? (.prose breaks) head tail = none) :
    (scanText (.prose breaks) head tail).token? =
        some (.literal (String.ofList (literalRun (.prose breaks) (head :: tail)).content)) ∧
      (scanText (.prose breaks) head tail).rest =
        (literalRun (.prose breaks) (head :: tail)).rest := by
  unfold scanText
  rw [notSpecial]
  cases tail with
  | nil =>
      rw [literalRun, notSpecial]
      exact ⟨rfl, rfl⟩
  | cons second others =>
      dsimp only
      rw [literalRun, notSpecial]
      split <;> exact ⟨rfl, rfl⟩

def literalTokens (content : List Char) : List Token :=
  if content.isEmpty then [] else [.literal (String.ofList content)]

theorem escaped_unmarked {rest : List Char} (ends : EndsRun breaks rest) {head : Char}
    {tail : List Char}
    (unbroken : (breaks && (head == '\n' && startsBlankLine tail)) = false) :
    ∃ first others, (head :: tail).flatMap escapeChar ++ rest = first :: others ∧
      special? (.prose breaks) first others = none := by
  rw [List.flatMap_cons, List.append_assoc]
  by_cases plain : head ≠ '$' ∧ head ≠ '*' ∧ head ≠ '\\'
  · have cut := special?_prose breaks plain (tail.flatMap escapeChar ++ rest)
    rw [startsBlankLine_escaped ends, unbroken, if_neg Bool.false_ne_true] at cut
    rw [escapeChar_plain plain]
    exact ⟨head, _, rfl, cut⟩
  · rw [escapeChar_special plain]
    exact ⟨'\\', _, rfl, rfl⟩

theorem scanPieces_break {rest : List Char} (ends : EndsRun true rest) {tail : List Char}
    (blank : startsBlankLine tail = true) :
    ∃ source, scanPieces (.prose true) false (('\n' :: tail).flatMap escapeChar ++ rest) =
      (scanPieces (.prose true) false ((tail.dropWhile isBlank).flatMap escapeChar ++ rest)).map
        (⟨source, some .paragraphBreak⟩ :: ·) := by
  have cut := @special?_prose true '\n' (by decide)
    (tail.flatMap escapeChar ++ rest)
  rw [startsBlankLine_escaped ends, blank, if_pos (by decide),
    dropWhile_escaped tail (by decide) (ends.stops fun _ => id)] at cut
  obtain ⟨lexeme, found, isToken, left⟩ := cut
  have scannedFirst :
      scanText (.prose true) '\n' (tail.flatMap escapeChar ++ rest) = lexeme := by
    rw [scanText.eq_def, found]
  refine ⟨lexeme.source, ?_⟩
  rw [List.flatMap_cons, escapeChar_plain (by decide), List.append_assoc, List.singleton_append,
    scanPieces_text, scannedFirst, isToken, left]
  rfl

theorem scanPieces_run {rest : List Char} (ends : EndsRun breaks rest) {head : Char}
    {tail : List Char}
    (unbroken : (breaks && (head == '\n' && startsBlankLine tail)) = false) :
    ∃ source, scanPieces (.prose breaks) false ((head :: tail).flatMap escapeChar ++ rest) =
      (scanPieces (.prose breaks) false
        ((splitRun breaks (head :: tail)).2.flatMap escapeChar ++ rest)).map
        (⟨source, some (.literal (String.ofList (splitRun breaks (head :: tail)).1))⟩ :: ·) := by
  obtain ⟨first, others, inputEq, notSpecial⟩ := escaped_unmarked ends unbroken
  obtain ⟨isToken, left⟩ := scanText_unmarked notSpecial
  have run := literalRun_escaped ends (head :: tail)
  rw [inputEq] at run
  rw [run.1] at isToken
  rw [run.2] at left
  refine ⟨(scanText (.prose breaks) first others).source, ?_⟩
  rw [inputEq, scanPieces_text, isToken, left]
  rfl

/-- Escaped text is read as runs and paragraph breaks of its own: as one run, or nothing, unless
one of its lines is blank and blank lines break paragraphs. What follows is read as if it stood
alone. -/
theorem scanPieces_escaped {rest : List Char} (ends : EndsRun breaks rest) (content : List Char) :
    ∃ pieces : List Piece,
      (∀ token ∈ pieces.filterMap Piece.token?, IsRunOf content token) ∧
      ((breaks && hasBlankLine content) = true →
        Token.paragraphBreak ∈ pieces.filterMap Piece.token?) ∧
      ((breaks && hasBlankLine content) = false →
        pieces.filterMap Piece.token? = literalTokens content) ∧
      scanPieces (.prose breaks) false (content.flatMap escapeChar ++ rest) =
        (scanPieces (.prose breaks) false rest).map (pieces ++ ·) := by
  -- A lexeme may cover any number of the characters, so the induction is on how many are left.
  induction size : content.length using Nat.strongRecOn generalizing content with
  | ind length ih =>
      cases content with
      | nil =>
          refine ⟨[], List.forall_mem_nil _, fun blank => ?_, fun _ => rfl, ?_⟩
          · cases (Bool.and_eq_true_iff.mp blank).2
          · rw [List.flatMap_nil, List.nil_append]
            cases scanPieces (.prose breaks) false rest <;> rfl
      | cons head tail =>
          cases starts : breaks && (head == '\n' && startsBlankLine tail) with
          | true =>
              obtain ⟨rfl, rfl, blank⟩ : breaks = true ∧ head = '\n' ∧
                  startsBlankLine tail = true := by
                simpa only [Bool.and_eq_true, beq_iff_eq] using starts
              obtain ⟨source, scannedFirst⟩ := scanPieces_break ends blank
              have shorter : (tail.dropWhile isBlank).length < length := by
                rw [← size]
                exact Nat.lt_succ_of_le (List.dropWhile_suffix _).length_le
              obtain ⟨pieces, runs, _, _, scanned⟩ := ih _ shorter _ rfl
              refine ⟨⟨source, some .paragraphBreak⟩ :: pieces, ?_, fun _ => List.mem_cons_self,
                fun unbroken => ?_, ?_⟩
              · refine List.forall_mem_cons.mpr ⟨.inr ⟨rfl, List.mem_cons_self⟩, ?_⟩
                intro token member
                rw [← List.takeWhile_append_dropWhile (p := isBlank) (l := tail)]
                exact (runs token member).append ('\n' :: tail.takeWhile isBlank)
              · rw [hasBlankLine, blank] at unbroken
                cases unbroken
              · rw [scannedFirst, scanned]
                cases scanPieces (.prose true) false rest <;> rfl
          | false =>
              obtain ⟨source, scannedFirst⟩ := scanPieces_run ends starts
              have run : splitRun breaks (head :: tail) =
                  (head :: (splitRun breaks tail).1, (splitRun breaks tail).2) := by
                rw [splitRun, starts, if_neg Bool.false_ne_true]
              have split := splitRun_append breaks (head :: tail)
              have blankLeft := hasBlankLine_splitRun breaks (head :: tail)
              have shorter : (splitRun breaks (head :: tail)).2.length < length := by
                have total := congrArg List.length split
                rw [List.length_append, run, List.length_cons, size] at total
                rw [run]
                omega
              obtain ⟨pieces, runs, blankTokens, plainTokens, scanned⟩ := ih _ shorter _ rfl
              refine ⟨⟨source, some (.literal (String.ofList (splitRun breaks (head :: tail)).1))⟩ ::
                pieces, ?_, fun blank => ?_, fun unbroken => ?_, ?_⟩
              · refine List.forall_mem_cons.mpr ⟨.inl ⟨_, rfl⟩, fun token member => ?_⟩
                rw [← split]
                exact (runs token member).append _
              · rw [if_pos blank] at blankLeft
                refine List.mem_cons_of_mem _ (blankTokens ?_)
                rw [blankLeft, (Bool.and_eq_true_iff.mp blank).1]
                rfl
              · rw [if_neg (Bool.eq_false_iff.mp unbroken)] at blankLeft
                rw [blankLeft, List.append_nil] at split
                have nothing : pieces.filterMap Piece.token? = [] := by
                  rw [plainTokens (by rw [blankLeft]; exact Bool.and_false _), blankLeft]
                  rfl
                rw [split, literalTokens]
                exact congrArg (_ :: ·) nothing
              · rw [scannedFirst, scanned]
                cases scanPieces (.prose breaks) false rest <;> rfl

end Bestiary.Prose
