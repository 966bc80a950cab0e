import Bestiary.Proofs.Prose.Heading

/-!
Texts that are put together from passages.

A passage is a shown expression, or a structure over some words, with the words
up to the next passage. All words stand for themselves, whatever characters they
have. No two runs of them meet, so each passage is read alone, and a text of
passages is interpolated to what they read as, one after the other. It fails
only where a number cannot be written.
-/

namespace Bestiary.Prose

open Text

variable {scope : Variables} {breaks : Bool}

/-! ### Passages -/

inductive Markup
  | shown (expression : String) (tokens : List Token) (value : ProseValue)
  | within (entered : Structure) (content : String)

/-- Some markup and the words between it and the next. -/
structure Passage where
  markup : Markup
  words : String

namespace Markup

def text : Markup → String
  | shown expression _ _ => expressionMarkup expression
  | within entered content => structureMarkup entered (escapeText content)

def tokens : Markup → List Token
  | shown _ tokens _ => .opening :: (tokens ++ [.closing])
  | within entered content =>
      [.opening, .command entered, .closing] ++ literalTokens content.toList ++
        [.opening, .closeParen, .closing]

/-- The expression is read as its tokens and they denote its value, or no blank line breaks the
words. -/
def IsSound (breaks : Bool) (scope : Variables) : Markup → Prop
  | shown expression tokens value =>
      ReadsAs breaks expression.toList tokens ∧ Denotes scope .choice tokens value
  | within _ content => (breaks && hasBlankLine content.toList) = false

end Markup

namespace Passage

def text (passage : Passage) : String :=
  passage.markup.text ++ escapeText passage.words

def tokens (passage : Passage) : List Token :=
  passage.markup.tokens ++ literalTokens passage.words.toList

def IsSound (breaks : Bool) (scope : Variables) (passage : Passage) : Prop :=
  passage.markup.IsSound breaks scope ∧ (breaks && hasBlankLine passage.words.toList) = false

end Passage

theorem prepend_prepend (toHeading : Bool) (first second : StyledText) (block : StyledBlock) :
    (block.prepend toHeading second).prepend toHeading first =
      block.prepend toHeading (first ++ second) := by
  cases toHeading <;> simp [StyledBlock.prepend]

def passagesText (passages : List Passage) : String :=
  String.join (passages.map Passage.text)

theorem passagesText_cons (passage : Passage) (others : List Passage) :
    passagesText (passage :: others) = passage.text ++ passagesText others :=
  String.join_cons

theorem passagesText_append (first second : List Passage) :
    passagesText (first ++ second) = passagesText first ++ passagesText second := by
  rw [passagesText, List.map_append, String.join_append]
  rfl

def readPassages (capitalize : Bool) :
    BlockKind → Bool → List Passage → Except ProseFault Outline
  | kind, _, [] => .ok ⟨.blank kind, []⟩
  | kind, fresh, ⟨.shown _ _ value, words⟩ :: others => do
      let content ← value.written
      let outline ← readPassages capitalize kind (fresh && content.isEmpty && words.isEmpty) others
      pure ((outline.write [] words).write []
        (if fresh && capitalize then capitalizeHead content else content))
  | kind, fresh, ⟨.within entered content, words⟩ :: others => do
      let outline ← readPassages capitalize (entered.headingKind?.getD kind)
        ((fresh && content.isEmpty || entered.isHeading) && words.isEmpty) others
      let inside := (outline.write [] words).write [entered] content
      pure (if entered.isHeading then inside.startBlock kind else inside)

theorem write_empty {opened : List Structure} {words : String} (empty : words.isEmpty = true)
    (outline : Outline) : outline.write opened words = outline := by
  rw [String.isEmpty_iff.mp empty, Outline.write, StyledBlock.prepend]
  split <;> rfl

theorem write_write (opened : List Structure) (first second : String) (outline : Outline) :
    (outline.write opened second).write opened first = outline.write opened (first ++ second) := by
  simp only [Outline.write, styled_append, prepend_prepend]

theorem readPassages_shown {capitalize : Bool} {value : ProseValue} {content words : String}
    (writes : value.written = .ok content) (solid : words.isEmpty = false) (kind : BlockKind)
    (fresh : Bool) (expression : String) (tokens : List Token) (others : List Passage) :
    readPassages capitalize kind fresh (⟨.shown expression tokens value, words⟩ :: others) =
      (readPassages capitalize kind false others).map (Outline.write []
        ((if fresh && capitalize then capitalizeHead content else content) ++ words)) := by
  rw [readPassages, writes, ok_bind, solid, Bool.and_false]
  cases readPassages capitalize kind false others with
  | error fault => rfl
  | ok outline => exact congrArg Except.ok (write_write [] _ _ _)

theorem readPassages_unwritten {capitalize : Bool} {value : ProseValue} {fault : ProseFault}
    (unwritten : value.written = .error fault) (kind : BlockKind) (fresh : Bool)
    (expression words : String) (tokens : List Token) (others : List Passage) :
    readPassages capitalize kind fresh (⟨.shown expression tokens value, words⟩ :: others) =
      .error fault := by
  rw [readPassages, unwritten]
  rfl

theorem readPassages_heading {capitalize : Bool} {entered : Structure} {started : BlockKind}
    (heading : entered.headingKind? = some started) {others : List Passage} {outline : Outline}
    (read : readPassages capitalize started true others = .ok outline) (kind : BlockKind)
    (fresh : Bool) (content : String) :
    readPassages capitalize kind fresh (⟨.within entered content, ""⟩ :: others) =
      .ok ((outline.write [entered] content).startBlock kind) := by
  have isHeading : entered.isHeading = true := by
    rw [entered.isHeading_eq, heading]
    rfl
  have sentence : ((fresh && content.isEmpty || true) && "".isEmpty) = true := by
    rw [Bool.or_true]
    rfl
  rw [readPassages, heading, isHeading, sentence, Option.getD_some, read, ok_bind]
  simp only [if_true]
  rw [@write_empty [] "" rfl]
  rfl

/-! ### Scanning -/

theorem toList_passagesText_cons (passage : Passage) (others : List Passage) :
    (passagesText (passage :: others)).toList =
      passage.markup.text.toList ++
        (passage.words.toList.flatMap escapeChar ++ (passagesText others).toList) := by
  simp [passagesText_cons, Passage.text, toList_escapeText]

theorem passagesText_opens (passages : List Passage) : Opens (passagesText passages).toList := by
  cases passages with
  | nil => exact Or.inl rfl
  | cons passage others =>
      right
      obtain ⟨markup, words⟩ := passage
      rw [toList_passagesText_cons]
      cases markup with
      | shown expression tokens value =>
          exact ⟨_, by simp [Markup.text, expressionMarkup]; rfl⟩
      | within entered content =>
          exact ⟨_, by simp [Markup.text, structureMarkup, expressionMarkup]; rfl⟩

theorem scanPieces_markup {markup : Markup} (sound : markup.IsSound breaks scope)
    (rest : List Char) :
    ∃ pieces : List Piece, pieces.filterMap Piece.token? = markup.tokens ∧
      scanPieces (.prose breaks) false (markup.text.toList ++ rest) =
        (scanPieces (.prose breaks) false rest).map (pieces ++ ·) := by
  cases markup with
  | shown expression tokens value =>
      have scanned := scanPieces_shown sound.1 rest
      rw [String.ofList_toList] at scanned
      exact scanned
  | within entered content =>
      have opens : Opens ('$' :: '\x7b' :: ')' :: '\x7d' :: rest) := Or.inr ⟨_, rfl⟩
      obtain ⟨inner, _, _, plain, scanned⟩ :=
        @scanPieces_escaped breaks _ opens.endsRun content.toList
      obtain ⟨pieces, tokensEq, whole⟩ := scanPieces_enclosed entered scanned
      rw [plain sound] at tokensEq
      exact ⟨pieces, tokensEq, whole⟩

theorem scanPieces_passages {passages : List Passage}
    (sound : ∀ passage ∈ passages, passage.IsSound breaks scope) :
    ∃ pieces : List Piece,
      pieces.filterMap Piece.token? = passages.flatMap Passage.tokens ∧
      scanPieces (.prose breaks) false (passagesText passages).toList = .ok pieces := by
  induction passages with
  | nil => exact ⟨[], rfl, scanPieces_nil⟩
  | cons passage others ih =>
      obtain ⟨⟨soundMarkup, unbroken⟩, soundOthers⟩ := List.forall_mem_cons.mp sound
      obtain ⟨left, leftTokens, scannedOthers⟩ := ih soundOthers
      have opens := passagesText_opens others
      obtain ⟨middle, _, _, plain, scannedWords⟩ :=
        @scanPieces_escaped breaks _ opens.endsRun passage.words.toList
      obtain ⟨first, firstTokens, scannedMarkup⟩ := scanPieces_markup soundMarkup
        (passage.words.toList.flatMap escapeChar ++ (passagesText others).toList)
      refine ⟨first ++ (middle ++ left), ?_, ?_⟩
      · rw [List.filterMap_append, List.filterMap_append, firstTokens, plain unbroken, leftTokens,
          List.flatMap_cons, Passage.tokens, List.append_assoc]
      · rw [toList_passagesText_cons, scannedMarkup, scannedWords, scannedOthers]
        rfl

/-! ### Reading -/

theorem mapError_bind {α β ε ε' : Type} (rename : ε → ε') (first : Except ε α)
    (next : α → Except ε β) :
    (first >>= next).mapError rename =
      first.mapError rename >>= fun value => (next value).mapError rename := by
  cases first <;> rfl

/-- Tokens that spell fragments among which all structures are closed, and what these read as. -/
def Outlines (scope : Variables) (tokens : List Token)
    (read : Bool → BlockKind → Bool → Except ProseFault Outline) : Prop :=
  ∀ written : List Located, written.map Located.token = tokens →
    ∃ fragments, Spells written fragments ∧
      Bracketed [] (fragments.filterMap Fragment.edge?) ∧
      ∀ capitalize kind fresh,
        (readFragments scope capitalize [] kind fresh fragments).mapError ProseError.fault =
          read capitalize kind fresh

theorem spells_words {words : String} {front tail : List Located} {fragments : List Fragment}
    (spelled : front.map Located.token = literalTokens words.toList)
    (spells : Spells tail fragments) :
    ∃ runs : List Fragment, Spells (front ++ tail) (runs ++ fragments) ∧
      runs.filterMap Fragment.edge? = [] ∧
      ∀ (capitalize : Bool) (opened : List Structure) (kind : BlockKind) (fresh : Bool)
        (others : List Fragment),
        readFragments scope capitalize opened kind fresh (runs ++ others) =
          readFragments scope capitalize opened kind (fresh && words.isEmpty) others >>=
            fun outline => pure (outline.write opened words) := by
  rw [literalTokens, String.ofList_toList] at spelled
  split at spelled
  · rename_i nothing
    have empty : words.isEmpty = true := by
      rw [String.isEmpty_iff, ← String.toList_eq_nil_iff, ← List.isEmpty_iff]
      exact nothing
    obtain rfl := List.map_eq_nil_iff.mp spelled
    refine ⟨[], spells, rfl, fun capitalize opened kind fresh others => ?_⟩
    rw [empty, Bool.and_true, List.nil_append]
    cases readFragments scope capitalize opened kind fresh others with
    | error error => rfl
    | ok outline => exact congrArg Except.ok (write_empty empty outline).symm
  · obtain ⟨place, _, rfl, nothing⟩ := located_cons spelled
    obtain rfl := List.map_eq_nil_iff.mp nothing
    exact ⟨[.literal place words], .literal place words spells, rfl, fun _ _ _ _ _ => rfl⟩

namespace Outlines

variable {tokens : List Token} {read : Bool → BlockKind → Bool → Except ProseFault Outline}

theorem nothing : Outlines scope [] fun _ kind _ => .ok ⟨.blank kind, []⟩ := by
  intro written spelled
  rw [List.map_eq_nil_iff.mp spelled]
  exact ⟨[], .finish, .finish, fun _ _ _ => rfl⟩

theorem congr {same : Bool → BlockKind → Bool → Except ProseFault Outline}
    (outlines : Outlines scope tokens read)
    (eq : ∀ capitalize kind fresh, read capitalize kind fresh = same capitalize kind fresh) :
    Outlines scope tokens same := by
  intro written spelled
  obtain ⟨fragments, spells, bracketed, reads⟩ := outlines written spelled
  exact ⟨fragments, spells, bracketed, fun capitalize kind fresh =>
    (reads capitalize kind fresh).trans (eq capitalize kind fresh)⟩

theorem words (outlines : Outlines scope tokens read) (words : String) :
    Outlines scope (literalTokens words.toList ++ tokens) fun capitalize kind fresh =>
      read capitalize kind (fresh && words.isEmpty) >>= fun outline =>
        pure (outline.write [] words) := by
  intro written spelled
  obtain ⟨front, tail, rfl, spelledWords, spelledTail⟩ := List.map_eq_append_iff.mp spelled
  obtain ⟨fragments, spells, bracketed, reads⟩ := outlines tail spelledTail
  obtain ⟨runs, spellsRuns, noEdges, readRuns⟩ := @spells_words scope _ _ _ _ spelledWords spells
  refine ⟨_, spellsRuns, ?_, fun capitalize kind fresh => ?_⟩
  · rw [List.filterMap_append, noEdges]
    exact bracketed
  · rw [readRuns, mapError_bind, reads]
    rfl

theorem shown (outlines : Outlines scope tokens read) {inside : List Token} {value : ProseValue}
    (denotes : Denotes scope .choice inside value) :
    Outlines scope (.opening :: (inside ++ [.closing]) ++ tokens) fun capitalize kind fresh =>
      (do
        let content ← value.written
        let outline ← read capitalize kind (fresh && content.isEmpty)
        pure (outline.write []
          (if fresh && capitalize then capitalizeHead content else content))) := by
  intro written spelled
  rw [List.cons_append, List.append_assoc, List.singleton_append] at spelled
  obtain ⟨opening, _, rfl, spelledBack⟩ := located_cons spelled
  obtain ⟨middle, _, rfl, spelledInside, spelledAfter⟩ := List.map_eq_append_iff.mp spelledBack
  obtain ⟨closing, tail, rfl, spelledTail⟩ := located_cons spelledAfter
  obtain ⟨expression, derived, evaluated⟩ := denotes middle spelledInside
  obtain ⟨fragments, spells, bracketed, reads⟩ := outlines tail spelledTail
  have notNothing : middle ≠ [] := fun nothing => (nothing ▸ derived).ne_nil
  obtain ⟨first, inner, rfl⟩ := List.exists_cons_of_ne_nil notNothing
  refine ⟨_, .directive opening closing (.value derived) spells, bracketed,
    fun capitalize kind fresh => ?_⟩
  rw [List.singleton_append, readFragments, evaluated, ok_bind]
  cases value.written with
  | error fault => rfl
  | ok content =>
      change (readFragments scope capitalize [] kind (fresh && content.isEmpty) fragments >>=
        fun outline => _).mapError _ = _
      rw [mapError_bind, reads]
      rfl

theorem bracketed_enclosed (entered : Structure) {edges : List Edge}
    (bracketed : Bracketed [] edges) : Bracketed [] (.opens entered :: .closes :: edges) := by
  have closes : Bracketed [⟨entered, .command⟩] (.closes :: edges) :=
    .next (.closes entered []) bracketed
  cases heading : entered.isHeading with
  | true => exact .next (.heading entered heading) closes
  | false => exact .next (.emphasis entered [] heading List.not_mem_nil) closes

theorem within (outlines : Outlines scope tokens read) (entered : Structure) (content : String) :
    Outlines scope
      ([.opening, .command entered, .closing] ++ literalTokens content.toList ++
        [.opening, .closeParen, .closing] ++ tokens)
      fun capitalize kind fresh =>
        (do
          let outline ← read capitalize (entered.headingKind?.getD kind)
            (fresh && content.isEmpty || entered.isHeading)
          let inside := outline.write [entered] content
          pure (if entered.isHeading then inside.startBlock kind else inside)) := by
  intro written spelled
  simp only [List.append_assoc, List.cons_append, List.nil_append] at spelled
  obtain ⟨opening, _, rfl, spelledCommand⟩ := located_cons spelled
  obtain ⟨command, _, rfl, spelledEnd⟩ := located_cons spelledCommand
  obtain ⟨closing, _, rfl, spelledContent⟩ := located_cons spelledEnd
  obtain ⟨front, _, rfl, spelledWords, spelledBack⟩ := List.map_eq_append_iff.mp spelledContent
  obtain ⟨opening', _, rfl, spelledClose⟩ := located_cons spelledBack
  obtain ⟨parenthesis, _, rfl, spelledEnd'⟩ := located_cons spelledClose
  obtain ⟨closing', tail, rfl, spelledTail⟩ := located_cons spelledEnd'
  obtain ⟨fragments, spells, bracketed, reads⟩ := outlines tail spelledTail
  have closed := Spells.directive opening' closing' (.close parenthesis) spells
  obtain ⟨runs, spellsRuns, noEdges, readRuns⟩ := @spells_words scope _ _ _ _ spelledWords closed
  refine ⟨_, .directive opening closing (.start entered command .none) spellsRuns, ?_,
    fun capitalize kind fresh => ?_⟩
  · simp only [List.cons_append, List.nil_append, List.filterMap_cons, List.filterMap_append,
      noEdges, Fragment.edge?]
    exact bracketed_enclosed entered bracketed
  · have inside (started : BlockKind) :
        (readFragments scope capitalize [entered] started fresh
          (runs ++ ([.closes parenthesis] ++ fragments))).mapError ProseError.fault =
        read capitalize started (fresh && content.isEmpty || entered.isHeading) >>= fun outline =>
          pure (outline.write [entered] content) := by
      rw [readRuns, mapError_bind, List.singleton_append, readFragments]
      simp only [List.tail_cons, List.head?_cons, Option.any_some]
      rw [reads]
      rfl
    rw [List.cons_append, List.nil_append, readFragments]
    cases found : entered.headingKind? with
    | none =>
        have emphasis : entered.isHeading = false := by
          rw [entered.isHeading_eq, found]
          rfl
        refine (inside kind).trans ?_
        rw [emphasis]
        rfl
    | some started =>
        have heading : entered.isHeading = true := by
          rw [entered.isHeading_eq, found]
          rfl
        simp only
        rw [mapError_bind, inside, heading, bind_assoc]
        rfl

end Outlines

theorem outlines_passages {passages : List Passage}
    (sound : ∀ passage ∈ passages, passage.IsSound breaks scope) :
    Outlines scope (passages.flatMap Passage.tokens) fun capitalize kind fresh =>
      readPassages capitalize kind fresh passages := by
  induction passages with
  | nil => exact .nothing
  | cons passage others ih =>
      obtain ⟨⟨soundMarkup, _⟩, soundOthers⟩ := List.forall_mem_cons.mp sound
      obtain ⟨markup, words⟩ := passage
      have afterMarkup := (ih soundOthers).words words
      rw [List.flatMap_cons, Passage.tokens, List.append_assoc]
      cases markup with
      | shown expression tokens value =>
          refine (afterMarkup.shown soundMarkup.2).congr fun capitalize kind fresh => ?_
          rw [readPassages]
          cases value.written with
          | error fault => rfl
          | ok content =>
              simp only [ok_bind]
              rw [bind_assoc]
              rfl
      | within entered content =>
          refine (afterMarkup.within entered content).congr fun capitalize kind fresh => ?_
          rw [readPassages, bind_assoc]
          rfl

/-! ### Interpolation -/

/-- A text of passages is interpolated to the blocks that they read as. -/
theorem interpolate_passages {manner : Manner} {bindings : List (String × Binding)}
    (prepared : prepareVariables bindings = .ok scope) {passages : List Passage}
    (sound : ∀ passage ∈ passages, passage.IsSound manner.breaks scope) :
    ((interpolate manner bindings (passagesText passages)).map (·.map Block.styled)).mapError
        ProseError.fault =
      (readPassages manner.capitalize .paragraph true passages).map Outline.blocks := by
  obtain ⟨pieces, tokensEq, scanned⟩ := scanPieces_passages sound
  obtain ⟨fragments, spells, bracketed, reads⟩ := outlines_passages sound
    (locate Place.start pieces) ((locate_tokens _ _).trans tokensEq)
  obtain ⟨program, compiled⟩ :
      ∃ program, compileFragments (.prose manner.breaks) [] fragments = .ok (program, []) :=
    compileFragments_iff_bracketed.mpr bracketed
  unfold interpolate compile TokenStream.ofText
  rw [scanned]
  simp only [ok_bind, compileTokens_complete spells compiled, prepared]
  rw [runStructured_styled compiled, readSource, mapError_bind, reads]
  rfl

theorem interpolate_isNormal {manner : Manner} {bindings : List (String × Binding)} {text : String}
    {blocks : StructuredText} (interpolated : interpolate manner bindings text = .ok blocks) :
    ∀ block ∈ blocks, block.IsNormal := by
  obtain ⟨program, _, interpolated⟩ := bind_eq_ok.mp interpolated
  obtain ⟨scope, _, interpolated⟩ := bind_eq_ok.mp interpolated
  obtain ⟨final, ran, same⟩ := bind_eq_ok.mp interpolated
  cases same
  exact (Machine.initial_writesNormal.run ran).endBlock.blocks

theorem Block.IsNormal.isPresent {block : Block} (normal : block.IsNormal) :
    block.styled.isPresent = true := by
  have filled {spans : List Span} (isNormal : Prose.IsNormal spans) (something : spans ≠ []) :
      (styledSpans spans).isEmpty = false := by
    rw [Machine.styledSpans_isEmpty isNormal.solid, List.isEmpty_eq_false_iff]
    exact something
  unfold StyledBlock.isPresent Block.styled
  cases found : block.heading? with
  | none => simp [filled normal.body (normal.present found)]
  | some heading =>
      obtain ⟨isNormal, something⟩ := normal.heading heading found
      simp [filled isNormal something]

theorem filter_isPresent {blocks : StructuredText} (normal : ∀ block ∈ blocks, block.IsNormal) :
    (blocks.map Block.styled).filter StyledBlock.isPresent = blocks.map Block.styled :=
  List.filter_eq_self.mpr (List.forall_mem_map.mpr fun block member =>
    (normal block member).isPresent)

theorem interpolate_of_read {manner : Manner} {bindings : List (String × Binding)}
    (prepared : prepareVariables bindings = .ok scope) {passages : List Passage}
    (sound : ∀ passage ∈ passages, passage.IsSound manner.breaks scope) {blocks : StructuredText}
    (normal : ∀ block ∈ blocks, block.IsNormal)
    (read : (readPassages manner.capitalize .paragraph true passages).map Outline.blocks =
      .ok (blocks.map Block.styled)) :
    interpolate manner bindings (passagesText passages) = .ok blocks := by
  have whole := interpolate_passages prepared sound
  rw [read] at whole
  obtain ⟨found, interpolated, same⟩ := map_eq_ok.mp (mapError_eq_ok.mp whole)
  rw [interpolated]
  exact congrArg Except.ok
    (forall_isNormal_unique (interpolate_isNormal interpolated) normal same)

theorem interpolate_of_unread {manner : Manner} {bindings : List (String × Binding)}
    (prepared : prepareVariables bindings = .ok scope) {passages : List Passage}
    (sound : ∀ passage ∈ passages, passage.IsSound manner.breaks scope) {fault : ProseFault}
    (unread : (readPassages manner.capitalize .paragraph true passages).map Outline.blocks =
      .error fault) :
    ∃ error, interpolate manner bindings (passagesText passages) = .error error ∧
      error.fault = fault := by
  have whole := interpolate_passages prepared sound
  rw [unread] at whole
  cases found : interpolate manner bindings (passagesText passages) with
  | error error =>
      rw [found] at whole
      exact ⟨error, rfl, Except.error.inj whole⟩
  | ok blocks =>
      rw [found] at whole
      cases whole

end Bestiary.Prose
