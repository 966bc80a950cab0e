import Bestiary.Prose.Token
import Bestiary.Proofs.Prose.Acceptance
import Bestiary.Proofs.Prose.Denotation
import Bestiary.Proofs.Prose.Interpolation
import Bestiary.Proofs.Prose.Places
import Bestiary.Proofs.Prose.Words

/-!
Texts that are put together from clauses.

A generated text is a row of clauses: words, shown expressions and emphasized
words. If the words have no characters with a meaning of their own, and every
expression denotes a value, the text is interpolated, unless one of its numbers
is too long to be read or shown. An expression with a character that no
expression may have spoils the text.
-/

namespace Bestiary.Prose

open Text

variable {breaks : Bool}

/-! ### Tokens that can be shown -/

/-- Tokens of a text whose structures are properly bracketed and whose expressions have values. -/
def Displays (scope : Variables) (tokens : List Token) : Prop :=
  ∀ written : List Located, written.map Located.token = tokens →
    ∃ fragments, Spells written fragments ∧
      Bracketed [] (fragments.filterMap Fragment.edge?) ∧
      ∀ place expression, .shown place expression ∈ fragments →
        ∃ value, expression.evaluate scope = .ok value

/-- Tokens that may stand before any tokens that can be shown. -/
def Frames (scope : Variables) (tokens : List Token) : Prop :=
  ∀ others, Displays scope others → Displays scope (tokens ++ others)

variable {scope : Variables}

theorem displays_nothing : Displays scope [] := by
  intro written spelled
  rw [List.map_eq_nil_iff.mp spelled]
  exact ⟨[], .finish, .finish, fun _ _ => nofun⟩

theorem frames_nothing : Frames scope [] :=
  fun _ displays => displays

theorem Frames.append {before after : List Token} (first : Frames scope before)
    (second : Frames scope after) : Frames scope (before ++ after) := by
  intro others displays
  rw [List.append_assoc]
  exact first _ (second _ displays)

theorem frames_literal (content : String) : Frames scope [.literal content] := by
  intro others displays written spelled
  obtain ⟨place, tail, rfl, spelledTail⟩ := located_cons spelled
  obtain ⟨fragments, spells, bracketed, evaluates⟩ := displays tail spelledTail
  refine ⟨_, .literal place content spells, bracketed, fun shownPlace expression member => ?_⟩
  rcases List.mem_cons.mp member with impossible | member
  · cases impossible
  · exact evaluates shownPlace expression member

theorem frames_break : Frames scope [.paragraphBreak] := by
  intro others displays written spelled
  obtain ⟨place, tail, rfl, spelledTail⟩ := located_cons spelled
  obtain ⟨fragments, spells, bracketed, evaluates⟩ := displays tail spelledTail
  refine ⟨_, .breaks place spells, .next .breaks bracketed, fun shownPlace expression member => ?_⟩
  rcases List.mem_cons.mp member with impossible | member
  · cases impossible
  · exact evaluates shownPlace expression member

theorem frames_runs {words : List Char} {tokens : List Token}
    (runs : ∀ token ∈ tokens, IsRunOf words token) : Frames scope tokens := by
  induction tokens with
  | nil => exact frames_nothing
  | cons token others ih =>
      obtain ⟨first, later⟩ := List.forall_mem_cons.mp runs
      have rest := ih later
      rcases first with ⟨content, rfl⟩ | ⟨rfl, _⟩
      · exact (frames_literal content).append rest
      · exact frames_break.append rest

theorem frames_shown {inside : List Token} {value : ProseValue}
    (denotes : Denotes scope .choice inside value) :
    Frames scope (.opening :: (inside ++ [.closing])) := by
  intro others displays written spelled
  rw [List.cons_append, List.append_assoc, List.singleton_append] at spelled
  obtain ⟨opening, _, rfl, spelledBack⟩ := located_cons spelled
  obtain ⟨middle, _, rfl, spelledInside, spelledAfter⟩ :=
    List.map_eq_append_iff.mp spelledBack
  obtain ⟨closing, tail, rfl, spelledTail⟩ := located_cons spelledAfter
  obtain ⟨expression, derived, evaluated⟩ := denotes middle spelledInside
  obtain ⟨fragments, spells, bracketed, evaluates⟩ := displays tail spelledTail
  have notNothing : middle ≠ [] := fun nothing => (nothing ▸ derived).ne_nil
  obtain ⟨first, inner, rfl⟩ := List.exists_cons_of_ne_nil notNothing
  refine ⟨_, .directive opening closing (.value derived) spells, bracketed,
    fun place shown member => ?_⟩
  rcases List.mem_append.mp member with only | member
  · cases List.mem_singleton.mp only
    exact ⟨value, evaluated⟩
  · exact evaluates place shown member

theorem spells_literals {front tail : List Located} {fragments : List Fragment}
    (literals : ∀ located ∈ front, ∃ content, located.token = .literal content)
    (spells : Spells tail fragments) :
    ∃ runs : List Fragment, Spells (front ++ tail) (runs ++ fragments) ∧
      ∀ run ∈ runs, ∃ place content, run = .literal place content := by
  induction front with
  | nil => exact ⟨[], spells, List.forall_mem_nil _⟩
  | cons located others ih =>
      obtain ⟨token, place⟩ := located
      obtain ⟨⟨content, same⟩, later⟩ := List.forall_mem_cons.mp literals
      cases same
      obtain ⟨runs, spellsOthers, areLiteral⟩ := ih later
      exact ⟨.literal place content :: runs, .literal place content spellsOthers,
        List.forall_mem_cons.mpr ⟨⟨place, content, rfl⟩, areLiteral⟩⟩

theorem frames_emphasis {runs : List Token}
    (literals : ∀ token ∈ runs, ∃ content, token = .literal content) :
    Frames scope ([.opening, .command .italic, .closing] ++ runs ++
      [.opening, .closeParen, .closing]) := by
  intro others displays written spelled
  simp only [List.append_assoc, List.cons_append, List.nil_append] at spelled
  obtain ⟨opening, _, rfl, spelledCommand⟩ := located_cons spelled
  obtain ⟨command, _, rfl, spelledEnd⟩ := located_cons spelledCommand
  obtain ⟨closing, _, rfl, spelledContent⟩ := located_cons spelledEnd
  obtain ⟨front, _, rfl, spelledRuns, spelledBack⟩ := List.map_eq_append_iff.mp spelledContent
  obtain ⟨opening', _, rfl, spelledClose⟩ := located_cons spelledBack
  obtain ⟨parenthesis, _, rfl, spelledEnd'⟩ := located_cons spelledClose
  obtain ⟨closing', tail, rfl, spelledTail⟩ := located_cons spelledEnd'
  obtain ⟨fragments, spells, bracketed, evaluates⟩ := displays tail spelledTail
  have areLiteral : ∀ located ∈ front, ∃ content, located.token = .literal content := by
    intro located member
    exact literals _ (spelledRuns ▸ List.mem_map_of_mem member)
  have closed := Spells.directive opening' closing' (.close parenthesis) spells
  obtain ⟨plain, spellsRuns, arePlain⟩ := spells_literals areLiteral closed
  -- The runs have no edges of their own, so the start and the end of the emphasis meet.
  have noEdges : plain.filterMap Fragment.edge? = [] := by
    rw [List.filterMap_eq_nil_iff]
    intro run member
    obtain ⟨place, content, rfl⟩ := arePlain run member
    rfl
  refine ⟨_, .directive opening closing (.start .italic command .none) spellsRuns, ?_,
    fun place expression member => ?_⟩
  · have edges : ((.opens command .italic :: []) ++ (plain ++ ([.closes parenthesis] ++ fragments))
          : List Fragment).filterMap Fragment.edge? =
        .opens .italic :: .closes :: fragments.filterMap Fragment.edge? := by
      simp [noEdges, Fragment.edge?]
    rw [edges]
    exact .next (.emphasis .italic [] rfl List.not_mem_nil) (.next (.closes .italic []) bracketed)
  · simp only [List.cons_append, List.nil_append, List.mem_cons, List.mem_append] at member
    rcases member with impossible | inRuns | impossible | member
    · cases impossible
    · obtain ⟨_, _, impossible⟩ := arePlain _ inRuns
      cases impossible
    · cases impossible
    · exact evaluates place expression member

/-! ### Clauses -/

/-- A part of a generated text. -/
inductive Clause
  | words (content : List Char)
  | shown (expression : List Char)
  | emphasis (content : List Char)

def Clause.text : Clause → List Char
  | words content => content
  | shown expression => (expressionMarkup (String.ofList expression)).toList
  | emphasis content => (structureMarkup .italic (String.ofList content)).toList

theorem text_shown (expression : List Char) :
    (Clause.shown expression).text = '$' :: '\x7b' :: (expression ++ ['\x7d']) := by
  simp [Clause.text, expressionMarkup]

theorem text_emphasis (content : List Char) :
    (Clause.emphasis content).text =
      '$' :: '\x7b' :: ("italic(".toList ++ '\x7d' :: (content ++
        '$' :: '\x7b' :: ')' :: ['\x7d'])) := by
  simp [Clause.text, structureMarkup, expressionMarkup, Structure.word]

@[simp] theorem text_words (content : List Char) : (Clause.words content).text = content :=
  rfl

@[simp] theorem text_shown_toList (expression : String) :
    (Clause.shown expression.toList).text = (expressionMarkup expression).toList := by
  rw [Clause.text, String.ofList_toList]

@[simp] theorem text_emphasis_toList (content : String) :
    (Clause.emphasis content.toList).text = (structureMarkup .italic content).toList := by
  rw [Clause.text, String.ofList_toList]

def clauseText (clauses : List Clause) : List Char :=
  clauses.flatMap Clause.text

@[simp] theorem clauseText_nil : clauseText [] = [] :=
  rfl

@[simp] theorem clauseText_cons (clause : Clause) (others : List Clause) :
    clauseText (clause :: others) = clause.text ++ clauseText others :=
  List.flatMap_cons

@[simp] theorem clauseText_append (first second : List Clause) :
    clauseText (first ++ second) = clauseText first ++ clauseText second :=
  List.flatMap_append

/-- Words that stand for themselves, an expression that denotes a value, or emphasized words on one
line. -/
def Clause.IsSound (breaks : Bool) (scope : Variables) : Clause → Prop
  | words content => IsPlain content
  | shown expression => ∃ tokens value, Scans breaks expression tokens ∧
      Denotes scope .choice tokens value
  | emphasis content => IsPlain content ∧ '\n' ∉ content

theorem words_sound {content : List Char} (plain : IsPlain content) :
    ∀ clause ∈ [Clause.words content], clause.IsSound breaks scope :=
  List.forall_mem_singleton.mpr plain

/-- A scan is that of what is left, after some pieces; or else a numeral is refused. -/
def Continues (breaks : Bool) (scope : Variables) (input rest : List Char) : Prop :=
  (∃ pieces : List Piece, Frames scope (pieces.filterMap Piece.token?) ∧
    scanPieces (.prose breaks) false input =
      (scanPieces (.prose breaks) false rest).map (pieces ++ ·)) ∨
  ∃ stop, scanPieces (.prose breaks) false input = .error stop ∧ stop.fault.IsOverlong

theorem Continues.trans {first second third : List Char}
    (before : Continues breaks scope first second) (after : Continues breaks scope second third) :
    Continues breaks scope first third := by
  rcases before with ⟨pieces, frames, scanned⟩ | refused
  · rcases after with ⟨others, framesOthers, scannedOthers⟩ | ⟨stop, stopped, overlong⟩
    · refine Or.inl ⟨pieces ++ others, ?_, ?_⟩
      · rw [List.filterMap_append]
        exact frames.append framesOthers
      · rw [scanned, scannedOthers]
        cases scanPieces (.prose breaks) false third with
        | error stop => rfl
        | ok left => exact congrArg Except.ok (List.append_assoc pieces others left).symm
    · refine Or.inr ⟨stop, ?_, overlong⟩
      rw [scanned, stopped]
      rfl
  · exact Or.inr refused

theorem continues_words {words rest : List Char} (plain : IsPlain words) (opens : Opens rest) :
    Continues breaks scope (words ++ rest) rest := by
  obtain ⟨pieces, runs, scanned⟩ := scanPieces_words breaks plain opens
  exact Or.inl ⟨pieces, frames_runs runs, scanned⟩

theorem scanPieces_opening (tail : List Char) :
    scanPieces (.prose breaks) false ('$' :: '\x7b' :: tail) =
      (scanPieces (.prose breaks) true tail).map (⟨['$', '\x7b'], some .opening⟩ :: ·) :=
  scanPieces_text

theorem scanPieces_closing (tail : List Char) :
    scanPieces (.prose breaks) true ('\x7d' :: tail) =
      (scanPieces (.prose breaks) false tail).map (⟨['\x7d'], some .closing⟩ :: ·) := by
  have alone : LexemeScan.Yields (scanExpression (.prose breaks) '\x7d' tail) (some .closing)
      ['\x7d'] tail :=
    ⟨_, rfl, rfl, rfl, rfl⟩
  exact alone.scanPieces

theorem scanPieces_command (opened : Structure) (tail : List Char) :
    scanPieces (.prose breaks) true ((opened.word ++ "(").toList ++ tail) =
      (scanPieces (.prose breaks) true tail).map
        (⟨(opened.word ++ "(").toList, some (.command opened)⟩ :: ·) := by
  obtain ⟨head, middle, wordEq, alone⟩ : ∃ head middle,
      (opened.word ++ "(").toList = head :: middle ∧
      LexemeScan.Yields (scanExpression (.prose breaks) head (middle ++ tail))
        (some (.command opened)) (head :: middle) tail := by
    cases opened <;> exact ⟨_, _, rfl, _, rfl, rfl, rfl, rfl⟩
  rw [wordEq]
  exact alone.scanPieces

theorem scanPieces_parenthesis (tail : List Char) :
    scanPieces (.prose breaks) true (')' :: tail) =
      (scanPieces (.prose breaks) true tail).map (⟨[')'], some .closeParen⟩ :: ·) := by
  have alone : LexemeScan.Yields (scanExpression (.prose breaks) ')' tail) (some .closeParen)
      [')'] tail :=
    ⟨_, rfl, rfl, rfl, rfl⟩
  exact alone.scanPieces

theorem scanPieces_enclosed (entered : Structure) {content rest : List Char} {inner : List Piece}
    (scanned : scanPieces (.prose breaks) false
        (content ++ '$' :: '\x7b' :: ')' :: '\x7d' :: rest) =
      (scanPieces (.prose breaks) false ('$' :: '\x7b' :: ')' :: '\x7d' :: rest)).map
        (inner ++ ·)) :
    ∃ pieces : List Piece,
      pieces.filterMap Piece.token? = [.opening, .command entered, .closing] ++
        inner.filterMap Piece.token? ++ [.opening, .closeParen, .closing] ∧
      scanPieces (.prose breaks) false
          ((structureMarkup entered (String.ofList content)).toList ++ rest) =
        (scanPieces (.prose breaks) false rest).map (pieces ++ ·) := by
  let front : List Piece := [⟨['$', '\x7b'], some .opening⟩,
    ⟨(entered.word ++ "(").toList, some (.command entered)⟩, ⟨['\x7d'], some .closing⟩]
  let back : List Piece := [⟨['$', '\x7b'], some .opening⟩, ⟨[')'], some .closeParen⟩,
    ⟨['\x7d'], some .closing⟩]
  have whole : (structureMarkup entered (String.ofList content)).toList ++ rest =
      '$' :: '\x7b' :: ((entered.word ++ "(").toList ++ '\x7d' ::
        (content ++ '$' :: '\x7b' :: ')' :: '\x7d' :: rest)) := by
    simp [structureMarkup, expressionMarkup]
  refine ⟨front ++ inner ++ back, ?_, ?_⟩
  · rw [List.filterMap_append, List.filterMap_append]
    rfl
  · rw [whole, scanPieces_opening, scanPieces_command, scanPieces_closing, scanned,
      scanPieces_opening, scanPieces_parenthesis, scanPieces_closing]
    cases scanPieces (.prose breaks) false rest with
    | error stop => rfl
    | ok left => simp [Except.map, front, back]

theorem scanPieces_shown {expression : List Char} {tokens : List Token}
    (reads : ReadsAs breaks expression tokens) (rest : List Char) :
    ∃ pieces : List Piece,
      pieces.filterMap Piece.token? = .opening :: (tokens ++ [.closing]) ∧
      scanPieces (.prose breaks) false
          ((expressionMarkup (String.ofList expression)).toList ++ rest) =
        (scanPieces (.prose breaks) false rest).map (pieces ++ ·) := by
  obtain ⟨pieces, rfl, scanned⟩ := reads
  have parted : Parted ('\x7d' :: rest) := parted_cons (Or.inr (Or.inr rfl))
  have whole : (expressionMarkup (String.ofList expression)).toList ++ rest =
      '$' :: '\x7b' :: (expression ++ '\x7d' :: rest) := by
    simp [expressionMarkup]
  refine ⟨⟨['$', '\x7b'], some .opening⟩ :: (pieces ++ [⟨['\x7d'], some .closing⟩]), ?_, ?_⟩
  · simp only [List.filterMap_cons, List.filterMap_append, List.filterMap_nil]
  · rw [whole, scanPieces_opening, scanned _ parted, scanPieces_closing]
    cases scanPieces (.prose breaks) false rest with
    | error stop => rfl
    | ok left => simp [Except.map]

theorem continues_shown {expression : List Char} {tokens : List Token} {value : ProseValue}
    (scans : Scans breaks expression tokens) (denotes : Denotes scope .choice tokens value)
    (rest : List Char) :
    Continues breaks scope ((Clause.shown expression).text ++ rest) rest := by
  rcases scans.read_or_refused with reads | stops
  · obtain ⟨pieces, tokensEq, scanned⟩ := scanPieces_shown reads rest
    refine Or.inl ⟨pieces, ?_, scanned⟩
    rw [tokensEq]
    exact frames_shown denotes
  · have parted : Parted ('\x7d' :: rest) := parted_cons (Or.inr (Or.inr rfl))
    have whole : (Clause.shown expression).text ++ rest =
        '$' :: '\x7b' :: (expression ++ '\x7d' :: rest) := by
      simp [text_shown]
    obtain ⟨stop, stopped, overlong⟩ := stops _ parted
    refine Or.inr ⟨stop, ?_, overlong⟩
    rw [whole, scanPieces_opening, stopped]
    rfl

theorem continues_emphasis {content : List Char} (plain : IsPlain content)
    (oneLine : '\n' ∉ content) (rest : List Char) :
    Continues breaks scope ((Clause.emphasis content).text ++ rest) rest := by
  have opens : Opens ('$' :: '\x7b' :: ')' :: '\x7d' :: rest) := Or.inr ⟨_, rfl⟩
  obtain ⟨inner, runs, scannedContent⟩ := scanPieces_words breaks plain opens
  have literals : ∀ token ∈ inner.filterMap Piece.token?, ∃ content, token = .literal content := by
    intro token member
    rcases runs token member with isLiteral | ⟨_, broken⟩
    · exact isLiteral
    · exact absurd broken oneLine
  obtain ⟨pieces, tokensEq, scanned⟩ := scanPieces_enclosed .italic scannedContent
  refine Or.inl ⟨pieces, ?_, scanned⟩
  rw [tokensEq]
  exact frames_emphasis literals

/-- Sound clauses are read as what they are for, and what follows as if it stood alone. Words may
follow words, so those before the clauses are carried along. -/
theorem continues_clauses {clauses : List Clause} {rest : List Char} (opens : Opens rest)
    (sound : ∀ clause ∈ clauses, clause.IsSound breaks scope) (words : List Char)
    (plain : IsPlain words) :
    Continues breaks scope (words ++ (clauseText clauses ++ rest)) rest := by
  induction clauses generalizing words with
  | nil => exact continues_words plain opens
  | cons clause others ih =>
      obtain ⟨first, later⟩ := List.forall_mem_cons.mp sound
      have split : clauseText (clause :: others) ++ rest =
          clause.text ++ (clauseText others ++ rest) := by
        simp [clauseText]
      have fresh : Continues breaks scope (clauseText others ++ rest) rest :=
        ih later [] (List.forall_mem_nil _)
      rw [split]
      cases clause with
      | words content =>
          have joined : IsPlain (words ++ content) := List.forall_mem_append.mpr ⟨plain, first⟩
          rw [Clause.text, ← List.append_assoc]
          exact ih later _ joined
      | shown expression =>
          obtain ⟨tokens, value, scans, denotes⟩ := first
          have markup : Opens ((Clause.shown expression).text ++ (clauseText others ++ rest)) := by
            rw [text_shown]
            exact Or.inr ⟨_, rfl⟩
          exact ((continues_words plain markup).trans (continues_shown scans denotes _)).trans fresh
      | emphasis content =>
          have markup : Opens ((Clause.emphasis content).text ++ (clauseText others ++ rest)) := by
            rw [text_emphasis]
            exact Or.inr ⟨_, rfl⟩
          exact ((continues_words plain markup).trans
            (continues_emphasis first.1 first.2 _)).trans fresh

/-! ### Texts -/

abbrev Quiet {α : Type} (outcome : Except ProseError α) : Prop :=
  FailsWithin (fun error => error.fault.IsOverlong) outcome

theorem readFragments_quiet {capitalize : Bool} {fragments : List Fragment}
    (evaluates : ∀ place expression, .shown place expression ∈ fragments →
      ∃ value, expression.evaluate scope = .ok value)
    (opened : List Structure) (kind : BlockKind) (fresh : Bool) :
    Quiet (readFragments scope capitalize opened kind fresh fragments) := by
  induction fragments generalizing opened kind fresh with
  | nil => exact failsWithin_ok _
  | cons fragment others ih =>
      have later : ∀ place expression, .shown place expression ∈ others →
          ∃ value, expression.evaluate scope = .ok value :=
        fun place expression member => evaluates place expression (List.mem_cons_of_mem _ member)
      cases fragment with
      | literal place content => exact (ih later _ _ _).bind fun _ _ => failsWithin_ok _
      | shown place expression =>
          obtain ⟨value, evaluated⟩ := evaluates place expression (List.mem_cons_self ..)
          rw [readFragments, evaluated, ok_bind]
          refine FailsWithin.bind ?_ fun _ _ => (ih later _ _ _).bind fun _ _ => failsWithin_ok _
          refine FailsWithin.mapError fun fault failed => ?_
          exact Or.inl (ProseValue.written_error failed)
      | mark place emphasis =>
          rw [readFragments]
          split
          · exact ih later _ _ _
          · exact ih later _ _ _
      | opens place entered =>
          rw [readFragments]
          split
          · exact ih later _ _ _
          · exact (ih later _ _ _).bind fun _ _ => failsWithin_ok _
      | closes place =>
          rw [readFragments]
          exact ih later _ _ _
      | breaks place => exact (ih later _ _ _).bind fun _ _ => failsWithin_ok _

theorem Displays.runs {tokens : List Located}
    (displays : Displays scope (tokens.map Located.token)) (breaks : Bool) (finish : Place)
    (capitalize : Bool) :
    ∃ program, compileTokens (.prose breaks) finish [] tokens = .ok program ∧
      Quiet (runStructured scope capitalize program) := by
  obtain ⟨fragments, spells, bracketed, evaluates⟩ := displays tokens rfl
  obtain ⟨program, compiled⟩ :
      ∃ program, compileFragments (.prose breaks) [] fragments = .ok (program, []) :=
    compileFragments_iff_bracketed.mpr bracketed
  refine ⟨program, compileTokens_complete spells compiled, fun error failed => ?_⟩
  have read : readSource scope capitalize fragments = .error error := by
    rw [← runStructured_styled compiled, failed]
    rfl
  have quiet : Quiet (readSource scope capitalize fragments) :=
    (readFragments_quiet evaluates _ _ _).bind fun _ _ => failsWithin_ok _
  exact quiet error read

/-- A text of sound clauses is interpolated, unless one of its numbers is too long. -/
theorem interpolate_quiet {manner : Manner} {bindings : List (String × Binding)}
    {clauses : List Clause} (prepared : prepareVariables bindings = .ok scope)
    (sound : ∀ clause ∈ clauses, clause.IsSound manner.breaks scope) :
    Quiet (interpolate manner bindings (String.ofList (clauseText clauses))) := by
  have continues := continues_clauses (Or.inl rfl) sound [] (List.forall_mem_nil _)
  rw [List.nil_append, List.append_nil] at continues
  unfold interpolate compile TokenStream.ofText
  rw [String.toList_ofList]
  rcases continues with ⟨pieces, frames, scanned⟩ | ⟨stop, stopped, overlong⟩
  · rw [scanPieces_nil] at scanned
    have whole : scanPieces (.prose manner.breaks) false (clauseText clauses) = .ok pieces :=
      scanned.trans (congrArg Except.ok (List.append_nil pieces))
    have displays := frames [] displays_nothing
    rw [List.append_nil, ← locate_tokens Place.start pieces] at displays
    obtain ⟨program, compiled, quiet⟩ := displays.runs manner.breaks
      (Place.start.advance (clauseText clauses)) manner.capitalize
    rw [whole]
    simp only [ok_bind, compiled, prepared]
    exact quiet
  · rw [stopped]
    exact failsWithin_error overlong

/-! ### Factors -/

/-- The sign between dice and their factor in dice notation, which no expression has. -/
def IsScale (sign : Char) : Prop :=
  sign = '×' ∨ sign = '÷'

theorem scanExpression_scale {sign : Char} (isScale : IsScale sign) (tail : List Char) :
    scanExpression (.prose breaks) sign tail =
      .error ⟨.unexpectedCharacter sign, sign :: tail⟩ := by
  rcases isScale with rfl | rfl
  · have blank : isBlank '×' = false := by decide
    have letter : isLetter '×' = false := by decide
    have digit : isDigit '×' = false := by decide
    simp [scanExpression, blank, letter, digit, symbol?, Dialect.closer]
  · have blank : isBlank '÷' = false := by decide
    have letter : isLetter '÷' = false := by decide
    have digit : isDigit '÷' = false := by decide
    simp [scanExpression, blank, letter, digit, symbol?, Dialect.closer]

theorem scanPieces_scaled {front : List Char} {tokens : List Token}
    (scans : Scans breaks front tokens) {sign : Char} (isScale : IsScale sign) (rest : List Char) :
    ∃ stop,
      scanPieces (.prose breaks) true (front ++ ' ' :: sign :: rest) = .error stop ∧
      ((∃ sign, IsScale sign ∧ stop.fault = .unexpectedCharacter sign) ∨
        stop.fault.IsOverlong) := by
  have parted : Parted (' ' :: sign :: rest) := parted_cons (Or.inl rfl)
  rcases scans.read_or_refused with ⟨pieces, _, scanned⟩ | stops
  · have blank : LexemeScan.Yields (scanExpression (.prose breaks) ' ' (sign :: rest)) none [' ']
        (sign :: rest) :=
      ⟨_, rfl, rfl, rfl, rfl⟩
    have stays : insideAfter true none = true := rfl
    rw [scanned _ parted, blank.scanPieces, stays, scanPieces_stops (scanExpression_scale isScale _)]
    exact ⟨_, rfl, Or.inl ⟨sign, isScale, rfl⟩⟩
  · obtain ⟨stop, stopped, overlong⟩ := stops _ parted
    exact ⟨stop, stopped, Or.inr overlong⟩

def IsScaled (breaks : Bool) (expression : List Char) : Prop :=
  ∃ front sign back tokens, expression = front ++ ' ' :: sign :: back ∧ IsScale sign ∧
    Scans breaks front tokens

theorem IsScaled.before {expression : List Char} (scaled : IsScaled breaks expression)
    (rest : List Char) : IsScaled breaks (expression ++ rest) := by
  obtain ⟨front, sign, back, tokens, rfl, isScale, scans⟩ := scaled
  exact ⟨front, sign, back ++ rest, tokens, by simp, isScale, scans⟩

theorem IsScaled.after {written expression : List Char} {tokens : List Token}
    (scaled : IsScaled breaks expression) (scans : Scans breaks written tokens)
    (follows : Follows expression) : IsScaled breaks (written ++ expression) := by
  obtain ⟨front, sign, back, others, rfl, isScale, scansFront⟩ := scaled
  have followsFront : Follows front := by
    cases front with
    | nil => exact follows_nil
    | cons head tail => exact follows
  exact ⟨written ++ front, sign, back, tokens ++ others, by simp, isScale,
    scans.append scansFront followsFront.parts⟩

/-- A text in which the first expression that is not sound has a factor is not interpolated. -/
theorem interpolate_first_scaled {manner : Manner} (bindings : List (String × Binding))
    {before after : List Clause} {expression : List Char}
    (sound : ∀ clause ∈ before, clause.IsSound manner.breaks scope)
    (scaled : IsScaled manner.breaks expression) :
    ∃ error, interpolate manner bindings
        (String.ofList (clauseText (before ++ .shown expression :: after))) = .error error ∧
      ((∃ sign, IsScale sign ∧ error.fault = .unexpectedCharacter sign) ∨
        error.fault.IsOverlong) := by
  obtain ⟨front, sign, back, tokens, rfl, isScale, scans⟩ := scaled
  let rest := '$' :: '\x7b' :: (front ++ ' ' :: sign :: (back ++ '\x7d' :: clauseText after))
  have split : clauseText (before ++ .shown (front ++ ' ' :: sign :: back) :: after) =
      clauseText before ++ rest := by
    simp [clauseText, Clause.text, expressionMarkup, rest]
  have opens : Opens rest := Or.inr ⟨_, rfl⟩
  have continues := continues_clauses opens sound [] (List.forall_mem_nil _)
  rw [List.nil_append, ← split] at continues
  obtain ⟨stop, stopped, isFault⟩ :
      ∃ stop, scanPieces (.prose manner.breaks) false
          (clauseText (before ++ .shown (front ++ ' ' :: sign :: back) :: after)) = .error stop ∧
        ((∃ sign, IsScale sign ∧ stop.fault = .unexpectedCharacter sign) ∨
          stop.fault.IsOverlong) := by
    rcases continues with ⟨pieces, _, scanned⟩ | ⟨stop, stopped, overlong⟩
    · obtain ⟨stop, stopped, isFault⟩ :=
        scanPieces_scaled scans isScale (back ++ '\x7d' :: clauseText after)
      refine ⟨stop, ?_, isFault⟩
      rw [scanned, scanPieces_opening, stopped]
      rfl
    · exact ⟨stop, stopped, Or.inr overlong⟩
  unfold interpolate compile TokenStream.ofText
  rw [String.toList_ofList, stopped]
  exact ⟨_, rfl, isFault⟩

def Clause.IsScaled (breaks : Bool) : Clause → Prop
  | shown expression => Prose.IsScaled breaks expression
  | words _ | emphasis _ => False

theorem first_scaled {clauses : List Clause}
    (each : ∀ clause ∈ clauses, clause.IsSound breaks scope ∨ clause.IsScaled breaks)
    {found : Clause} (member : found ∈ clauses) (scaled : found.IsScaled breaks) :
    ∃ before expression after, clauses = before ++ .shown expression :: after ∧
      (∀ clause ∈ before, clause.IsSound breaks scope) ∧ IsScaled breaks expression := by
  induction clauses with
  | nil => cases member
  | cons clause others ih =>
      obtain ⟨first, later⟩ := List.forall_mem_cons.mp each
      have here (isScaled : clause.IsScaled breaks) :
          ∃ expression, clause = .shown expression ∧ IsScaled breaks expression := by
        cases clause with
        | words content => cases isScaled
        | shown expression => exact ⟨expression, rfl, isScaled⟩
        | emphasis content => cases isScaled
      by_cases isScaled : clause.IsScaled breaks
      · obtain ⟨expression, rfl, isScaled⟩ := here isScaled
        exact ⟨[], expression, others, rfl, List.forall_mem_nil _, isScaled⟩
      · have inOthers : found ∈ others := by
          rcases List.mem_cons.mp member with rfl | inOthers
          · exact absurd scaled isScaled
          · exact inOthers
        obtain ⟨before, expression, after, rfl, sound, isFirst⟩ := ih later inOthers
        exact ⟨clause :: before, expression, after, rfl,
          List.forall_mem_cons.mpr ⟨first.resolve_right isScaled, sound⟩, isFirst⟩

/-- Clauses that are sound, but for expressions with factors where something does not hold. -/
structure SoundIf (breaks : Bool) (scope : Variables) (condition : Prop)
    (clauses : List Clause) : Prop where
  each : ∀ clause ∈ clauses, clause.IsSound breaks scope ∨ clause.IsScaled breaks
  sound : condition → ∀ clause ∈ clauses, clause.IsSound breaks scope
  scaled : ¬condition → ∃ clause ∈ clauses, clause.IsScaled breaks

namespace SoundIf

variable {condition other : Prop} {clauses others : List Clause}

theorem always (holds : condition) (sound : ∀ clause ∈ clauses, clause.IsSound breaks scope) :
    SoundIf breaks scope condition clauses where
  each clause member := Or.inl (sound clause member)
  sound _ := sound
  scaled fails := absurd holds fails

theorem words {content : List Char} (holds : condition) (plain : IsPlain content) :
    SoundIf breaks scope condition [.words content] :=
  always holds (words_sound plain)

theorem append (first : SoundIf breaks scope condition clauses)
    (second : SoundIf breaks scope other others) :
    SoundIf breaks scope (condition ∧ other) (clauses ++ others) where
  each := List.forall_mem_append.mpr ⟨first.each, second.each⟩
  sound both := List.forall_mem_append.mpr ⟨first.sound both.1, second.sound both.2⟩
  scaled fails := by
    rcases Classical.not_and_iff_not_or_not.mp fails with here | there
    · obtain ⟨clause, member, scaled⟩ := first.scaled here
      exact ⟨clause, List.mem_append_left _ member, scaled⟩
    · obtain ⟨clause, member, scaled⟩ := second.scaled there
      exact ⟨clause, List.mem_append_right _ member, scaled⟩

theorem congr (sound : SoundIf breaks scope condition clauses) (same : condition ↔ other) :
    SoundIf breaks scope other clauses :=
  propext same ▸ sound

theorem after (sound : SoundIf breaks scope condition others)
    (first : ∀ clause ∈ clauses, clause.IsSound breaks scope) :
    SoundIf breaks scope condition (clauses ++ others) :=
  ((always trivial first).append sound).congr ⟨And.right, And.intro trivial⟩

theorem before (sound : SoundIf breaks scope condition clauses)
    (last : ∀ clause ∈ others, clause.IsSound breaks scope) :
    SoundIf breaks scope condition (clauses ++ others) :=
  (sound.append (always trivial last)).congr ⟨And.left, (⟨·, trivial⟩)⟩

theorem flatMap {α : Type} {items : List α} {parts : α → List Clause} {holds : α → Prop}
    (each : ∀ item ∈ items, SoundIf breaks scope (holds item) (parts item)) :
    SoundIf breaks scope (∀ item ∈ items, holds item) (items.flatMap parts) := by
  induction items with
  | nil => exact always (List.forall_mem_nil _) (List.forall_mem_nil _)
  | cons item rest ih =>
      obtain ⟨first, later⟩ := List.forall_mem_cons.mp each
      exact (first.append (ih later)).congr List.forall_mem_cons.symm

/-- A text of such clauses is interpolated if the condition holds, unless one of its numbers is too
long; if the condition does not hold, the text is not interpolated. -/
theorem interpolates {manner : Manner} {bindings : List (String × Binding)}
    (prepared : prepareVariables bindings = .ok scope)
    (sound : SoundIf manner.breaks scope condition clauses) :
    (condition → Quiet (interpolate manner bindings (String.ofList (clauseText clauses)))) ∧
      (¬condition → ∃ error,
        interpolate manner bindings (String.ofList (clauseText clauses)) = .error error ∧
        ((∃ sign, IsScale sign ∧ error.fault = .unexpectedCharacter sign) ∨
          error.fault.IsOverlong)) := by
  refine ⟨fun holds => interpolate_quiet prepared (sound.sound holds), fun fails => ?_⟩
  obtain ⟨found, member, scaled⟩ := sound.scaled fails
  obtain ⟨before, expression, after, rfl, soundBefore, isScaled⟩ :=
    first_scaled sound.each member scaled
  exact interpolate_first_scaled bindings soundBefore isScaled

end SoundIf

end Bestiary.Prose
