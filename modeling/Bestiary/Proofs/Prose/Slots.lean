import Bestiary.Proofs.Prose.Acceptance
import Bestiary.Proofs.Prose.Heading
import Bestiary.Proofs.Prose.Interpolation
import Bestiary.Proofs.Prose.Lexing
import Bestiary.Proofs.Prose.Places
import Bestiary.Proofs.Prose.Template

/-!
Templates made of literal texts and names.

A literal text in front of a placeholder is read as one run, with the dollar
signs that it may end with, and what stands in the placeholder as a name. So
such a template is filled in slot by slot: each literal text is written as it
is, and each name as its value.
-/

namespace Bestiary.Prose

open Text

/-! ### Literal texts -/

/-- A text in which no placeholder starts and nothing is escaped. -/
structure IsLiteral (content : List Char) : Prop where
  unopened : hasPair '$' '<' content = false
  unescaped : hasPair '\\' '$' content = false

theorem hasPair_concat (first second last : Char) (content : List Char) :
    hasPair first second (content ++ [last]) =
      (hasPair first second content || (content.getLast? == some first && last == second)) := by
  induction content with
  | nil => rfl
  | cons head tail ih =>
      cases tail with
      | nil => simp [hasPair]
      | cons next others =>
          rw [List.cons_append] at ih ⊢
          rw [List.cons_append, hasPair, ih, hasPair, List.getLast?_cons_cons, Bool.or_assoc]

theorem IsLiteral.concat_dollar {content : List Char} (literal : IsLiteral content)
    (closed : content.getLast? ≠ some '\\') : IsLiteral (content ++ ['$']) := by
  constructor
  · rw [hasPair_concat, literal.unopened]
    simp
  · rw [hasPair_concat, literal.unescaped, beq_false_of_ne closed]
    rfl

theorem IsLiteral.tail {head : Char} {tail : List Char} (literal : IsLiteral (head :: tail)) :
    IsLiteral tail :=
  ⟨hasPair_tail literal.unopened, hasPair_tail literal.unescaped⟩

theorem IsLiteral.apart {head next : Char} {tail : List Char}
    (literal : IsLiteral (head :: next :: tail)) :
    ¬(head == '\\' && Dialect.template.escapes next) = true ∧ ¬(head = '$' ∧ next = '<') := by
  constructor
  · intro escaped
    obtain ⟨isBackslash, isDollar⟩ := Bool.and_eq_true_iff.mp escaped
    cases beq_iff_eq.mp isBackslash
    cases beq_iff_eq.mp isDollar
    exact hasPair_head literal.unescaped
  · rintro ⟨rfl, rfl⟩
    exact hasPair_head literal.unopened

theorem special?_apart {head next : Char} {rest : List Char} (apart : ¬(head = '$' ∧ next = '<')) :
    special? .template head (next :: rest) = none := by
  unfold special?
  by_cases dollar : head = '$'
  · subst dollar
    have notOpener : next ≠ '<' := fun opener => apart ⟨rfl, opener⟩
    exact if_neg (mt beq_iff_eq.mp notOpener)
  · simp [dollar, Dialect.hasMarks, Dialect.hasBreaks]

theorem literalRun_before {content : List Char} (literal : IsLiteral (content ++ ['$']))
    (rest : List Char) :
    (literalRun .template (content ++ '$' :: '<' :: rest)).rest = '$' :: '<' :: rest := by
  induction content with
  | nil => rfl
  | cons head tail ih =>
      -- The character behind the first one, which the placeholder may provide.
      have step {next : Char} {others : List Char} (behind : tail ++ ['$'] = next :: others)
          (left : List Char) (same : tail ++ '$' :: '<' :: rest = next :: left) :
          (literalRun .template (head :: (tail ++ '$' :: '<' :: rest))).rest =
            '$' :: '<' :: rest := by
        rw [List.cons_append, behind] at literal
        obtain ⟨plain, apart⟩ := literal.apart
        have continued := ih (behind ▸ literal.tail)
        rw [same] at continued ⊢
        rw [literalRun, if_neg plain, special?_apart apart]
        exact continued
      cases tail with
      | nil => exact step rfl _ rfl
      | cons next others => exact step rfl _ rfl

theorem scanText_before {head : Char} {content : List Char}
    (literal : IsLiteral (head :: content ++ ['$'])) (rest : List Char) :
    (scanText .template head (content ++ '$' :: '<' :: rest)).rest = '$' :: '<' :: rest ∧
      ∃ written, (scanText .template head (content ++ '$' :: '<' :: rest)).token? =
        some (.literal written) := by
  have step {next : Char} {others : List Char} (behind : content ++ ['$'] = next :: others)
      (left : List Char) (same : content ++ '$' :: '<' :: rest = next :: left) :
      (scanText .template head (content ++ '$' :: '<' :: rest)).rest = '$' :: '<' :: rest ∧
        ∃ written, (scanText .template head (content ++ '$' :: '<' :: rest)).token? =
          some (.literal written) := by
    rw [List.cons_append, behind] at literal
    obtain ⟨plain, apart⟩ := literal.apart
    have continued := literalRun_before (behind ▸ literal.tail) rest
    rw [same] at continued ⊢
    unfold scanText
    rw [special?_apart apart]
    simp only [if_neg plain]
    exact ⟨continued, _, rfl⟩
  cases content with
  | nil => exact step rfl _ rfl
  | cons next others => exact step rfl _ rfl

def literalPieces : List Char → List Piece
  | [] => []
  | content => [⟨content, some (.literal (String.ofList content))⟩]

theorem literalPieces_source (content : List Char) :
    (literalPieces content).flatMap Piece.source = content := by
  cases content with
  | nil => rfl
  | cons head tail => exact List.append_nil _

theorem scanPieces_placeholder (rest : List Char) :
    scanPieces .template false ('$' :: '<' :: rest) =
      (scanPieces .template true rest).map (⟨['$', '<'], some .opening⟩ :: ·) :=
  scanPieces_text

theorem scanPieces_before {content rest : List Char} (literal : IsLiteral (content ++ ['$'])) :
    scanPieces .template false (content ++ '$' :: '<' :: rest) =
      (scanPieces .template true rest).map
        (literalPieces content ++ ⟨['$', '<'], some .opening⟩ :: ·) := by
  cases content with
  | nil => exact scanPieces_placeholder rest
  | cons head tail =>
      obtain ⟨left, written, isLiteral⟩ := scanText_before literal rest
      have unescaped : hasPair '\\' '$' (head :: tail) = false := by
        have both := literal.unescaped
        rw [hasPair_concat] at both
        exact (Bool.or_eq_false_iff.mp both).1
      rw [List.cons_append, scanPieces_literalRun left isLiteral, unescape_template unescaped,
        scanPieces_placeholder]
      cases scanPieces .template true rest <;> rfl

theorem scanPieces_literal {content : List Char} (literal : IsLiteral content) :
    scanPieces .template false content = .ok (literalPieces content) := by
  cases content with
  | nil => exact scanPieces_nil
  | cons head tail =>
      rw [scanPieces_template literal.unopened, unescape_template literal.unescaped]
      rfl

/-! ### Names -/

structure IsVariableName (word : String) : Prop where
  identifier : ∃ head tail, word.toList = head :: tail ∧
    (isLetter head || head == '_') = true ∧ ∀ character ∈ tail, isWordChar character = true
  notThen : word ≠ "then"
  notElse : word ≠ "else"

theorem scanWord_variable {word : String} {head : Char} {tail : List Char}
    (written : word.toList = head :: tail) (body : ∀ character ∈ tail, isWordChar character = true)
    (notThen : word ≠ "then") (notElse : word ≠ "else") (rest : List Char) :
    (scanWord head (tail ++ '>' :: rest)).token? = some (.name word) ∧
      (scanWord head (tail ++ '>' :: rest)).source = word.toList ∧
      (scanWord head (tail ++ '>' :: rest)).rest = '>' :: rest := by
  have stops : StopsAt isWordChar ('>' :: rest) := stopsAt_cons (by decide) rest
  obtain ⟨takes, drops⟩ := takeWhile_append_stop body stops
  have whole : String.ofList (head :: tail) = word := by
    rw [← written, String.ofList_toList]
  unfold scanWord
  simp only [takes, whole, beq_false_of_ne notThen, beq_false_of_ne notElse,
    if_neg Bool.false_ne_true, written]
  split
  · exact ⟨rfl, rfl, drops⟩
  · -- A word that may open a structure does not open one here.
    split
    · rename_i follows
      cases drops.symm.trans follows
    · exact ⟨rfl, rfl, drops⟩

theorem scanPieces_name {word : String} (isName : IsVariableName word) (rest : List Char) :
    scanPieces .template true (word.toList ++ '>' :: rest) =
      (scanPieces .template false rest).map
        ([⟨word.toList, some (.name word)⟩, ⟨['>'], some .closing⟩] ++ ·) := by
  obtain ⟨head, tail, written, starts, body⟩ := isName.identifier
  obtain ⟨token, source, left⟩ :=
    scanWord_variable written body isName.notThen isName.notElse rest
  have notBlank : isBlank head = false := by
    cases blank : isBlank head with
    | false => rfl
    | true =>
        have notLetter := (isBlank_apart blank).2
        rw [notLetter, Bool.false_or] at starts
        cases beq_iff_eq.mp starts
        exact absurd blank (by decide)
  have notCloser : (head == Dialect.template.closer) = false := by
    refine beq_eq_false_iff_ne.mpr ?_
    rintro rfl
    exact absurd starts (by decide)
  have scanned : scanExpression .template head (tail ++ '>' :: rest) =
      .ok (scanWord head (tail ++ '>' :: rest)) := by
    simp [scanExpression, notBlank, notCloser, starts]
  have first : (scanExpression .template head (tail ++ '>' :: rest)).Yields (some (.name word))
      word.toList ('>' :: rest) := ⟨_, scanned, token, source, left⟩
  have second : (scanExpression .template '>' rest).Yields (some .closing) ['>'] rest :=
    ⟨_, rfl, rfl, rfl, rfl⟩
  rw [written, List.cons_append, first.scanPieces, written]
  change (scanPieces .template true ('>' :: rest)).map _ = _
  rw [second.scanPieces]
  change ((scanPieces .template false rest).map _).map _ = _
  cases scanPieces .template false rest <;> rfl

/-! ### Slots -/

/-- A literal text and the name in the placeholder behind it. -/
structure Slot where
  literal : String
  name : String
  deriving DecidableEq, Repr

namespace Slot

def text (slot : Slot) : String :=
  slot.literal ++ "$<" ++ slot.name ++ ">"

/-- The literal text does not reach into the placeholder, and this holds a name. -/
structure IsSound (slot : Slot) : Prop where
  literal : IsLiteral slot.literal.toList
  closed : slot.literal.toList.getLast? ≠ some '\\'
  name : IsVariableName slot.name

def pieces (slot : Slot) : List Piece :=
  literalPieces slot.literal.toList ++
    [⟨['$', '<'], some .opening⟩, ⟨slot.name.toList, some (.name slot.name)⟩,
      ⟨['>'], some .closing⟩]

def namePlace (slot : Slot) (place : Place) : Place :=
  place.advance (slot.literal ++ "$<").toList

end Slot

def slotsText (slots : List Slot) (last : String) : String :=
  String.join (slots.map Slot.text) ++ last

theorem Slot.toList_text (slot : Slot) :
    slot.text.toList = slot.literal.toList ++ '$' :: '<' :: (slot.name.toList ++ ['>']) := by
  simp [Slot.text]

theorem Slot.pieces_source (slot : Slot) : slot.pieces.flatMap Piece.source = slot.text.toList := by
  rw [Slot.pieces, List.flatMap_append, literalPieces_source, Slot.toList_text]
  simp

theorem Slot.IsSound.scanPieces {slot : Slot} (sound : slot.IsSound) (rest : List Char) :
    scanPieces .template false (slot.text.toList ++ rest) =
      (scanPieces .template false rest).map (slot.pieces ++ ·) := by
  have literal := sound.literal.concat_dollar sound.closed
  rw [Slot.toList_text, List.append_assoc, List.cons_append, List.cons_append, List.append_assoc,
    scanPieces_before literal, List.singleton_append, scanPieces_name sound.name]
  cases Prose.scanPieces .template false rest with
  | error stop => rfl
  | ok pieces => simp [Slot.pieces, Except.map]

theorem slotsText_cons (slot : Slot) (others : List Slot) (last : String) :
    slotsText (slot :: others) last = slot.text ++ slotsText others last := by
  rw [slotsText, List.map_cons, String.join_cons, String.append_assoc]
  rfl

theorem scanPieces_slots {slots : List Slot} {last : String} (sound : ∀ slot ∈ slots, slot.IsSound)
    (literal : IsLiteral last.toList) :
    scanPieces .template false (slotsText slots last).toList =
      .ok (slots.flatMap Slot.pieces ++ literalPieces last.toList) := by
  induction slots with
  | nil =>
      have whole : slotsText [] last = last := String.empty_append
      rw [whole]
      exact scanPieces_literal literal
  | cons slot others ih =>
      obtain ⟨first, rest⟩ := List.forall_mem_cons.mp sound
      rw [slotsText_cons, String.toList_append, first.scanPieces, ih rest, List.flatMap_cons,
        List.append_assoc]
      rfl

/-! ### Programs -/

def literalCode (place : Place) : List Char → Program
  | [] => []
  | content => [⟨.appendText (String.ofList content), place⟩]

def Slot.code (place : Place) (slot : Slot) : Program :=
  literalCode place slot.literal.toList ++
    appendCode (.reference (slot.namePlace place) slot.name) (slot.namePlace place)

def slotsCode (last : String) : Place → List Slot → Program
  | place, [] => literalCode place last.toList
  | place, slot :: others =>
      slot.code place ++ slotsCode last (place.advance slot.text.toList) others

theorem compileTokens_name (finish first place final : Place) (nesting : Nesting) (name : String)
    (tail : List Located) :
    compileTokens .template finish nesting
        (⟨.opening, first⟩ :: ⟨.name name, place⟩ :: ⟨.closing, final⟩ :: tail) =
      (compileTokens .template finish nesting tail).map
        (appendCode (.reference place name) place ++ ·) := by
  have spelled : SpellsDirective [⟨.name name, place⟩] [.shown place (.reference place name)] :=
    .value (.unconditional (.addend (.factor (.operand (.reference place name)))))
  have code : compileFragments .template nesting [.shown place (.reference place name)] =
      .ok (appendCode (.reference place name) place, nesting) := rfl
  obtain ⟨compiled, inside, programEq, nestingEq, restEq⟩ :=
    compileDirective_complete spelled code
  have read : compileDirective .template finish nesting
      (⟨.name name, place⟩ :: ⟨.closing, final⟩ :: tail) = .ok compiled := inside
  rw [compileTokens, read, ok_bind, programEq, nestingEq, restEq]
  cases compileTokens .template finish nesting tail <;> rfl

theorem compileTokens_literalPieces (finish place : Place) (content : List Char)
    (tail : List Located) :
    compileTokens .template finish [] (locate place (literalPieces content) ++ tail) =
      (compileTokens .template finish [] tail).map (literalCode place content ++ ·) := by
  cases content with
  | nil =>
      change compileTokens .template finish [] tail = _
      cases compileTokens .template finish [] tail <;> rfl
  | cons head others => exact compileTokens_literal finish [] _ place tail

theorem Slot.locate_pieces (place : Place) (slot : Slot) :
    ∃ first final, locate place slot.pieces =
      locate place (literalPieces slot.literal.toList) ++
        [⟨.opening, first⟩, ⟨.name slot.name, slot.namePlace place⟩, ⟨.closing, final⟩] := by
  have named : (place.advance slot.literal.toList).advance ['$', '<'] = slot.namePlace place := by
    rw [← Place.advance_append, Slot.namePlace, String.toList_append]
    rfl
  rw [Slot.pieces, locate_append, literalPieces_source, ← named]
  exact ⟨_, _, rfl⟩

theorem compileTokens_slot (finish place : Place) (slot : Slot) (tail : List Located) :
    compileTokens .template finish [] (locate place slot.pieces ++ tail) =
      (compileTokens .template finish [] tail).map (slot.code place ++ ·) := by
  obtain ⟨first, final, pieces⟩ := slot.locate_pieces place
  rw [pieces, List.append_assoc, compileTokens_literalPieces]
  change (compileTokens .template finish [] (_ :: _ :: _ :: tail)).map _ = _
  rw [compileTokens_name]
  cases compileTokens .template finish [] tail with
  | error error => rfl
  | ok program => exact congrArg Except.ok (List.append_assoc _ _ _).symm

theorem compileTokens_slots (finish place : Place) (slots : List Slot) (last : String) :
    compileTokens .template finish []
        (locate place (slots.flatMap Slot.pieces ++ literalPieces last.toList)) =
      .ok (slotsCode last place slots) := by
  induction slots generalizing place with
  | nil =>
      have nothing : compileTokens .template finish [] [] = .ok [] := by rw [compileTokens]
      have alone := compileTokens_literalPieces finish place last.toList []
      rw [List.append_nil, nothing] at alone
      exact alone.trans (congrArg Except.ok (List.append_nil _))
  | cons slot others ih =>
      rw [List.flatMap_cons, List.append_assoc, locate_append, Slot.pieces_source,
        compileTokens_slot, ih]
      rfl

/-! ### Filling in -/

def Slot.value (scope : Variables) (place : Place) (slot : Slot) : Except ProseError String := do
  let value ← (Expression.reference (slot.namePlace place) slot.name).evaluate scope
  value.written.mapError (·.at (slot.namePlace place))

def fillSlots (scope : Variables) (last : String) : Place → List Slot → Except ProseError String
  | _, [] => .ok last
  | place, slot :: others => do
      let content ← slot.value scope place
      let rest ← fillSlots scope last (place.advance slot.text.toList) others
      pure (slot.literal ++ content ++ rest)

theorem run_literalCode (scope : Variables) (place : Place) (content : String) (others : Program)
    (machine : Machine) :
    machine.run scope false (literalCode place content.toList ++ others) =
      (machine.write false false content).run scope false others := by
  cases characters : content.toList with
  | nil =>
      rw [String.toList_eq_nil_iff.mp characters]
      rfl
  | cons head tail =>
      rw [← String.ofList_toList (s := content), characters]
      rfl

theorem run_slot (scope : Variables) (place : Place) (slot : Slot) (others : Program)
    {machine : Machine} (nothing : machine.stack = []) :
    machine.run scope false (slot.code place ++ others) = (do
      let content ← slot.value scope place
      ((machine.write false false slot.literal).write false true content).run scope false
        others) := by
  have stack : (machine.write false false slot.literal).stack = [] :=
    (Machine.write_stack ..).trans nothing
  rw [Slot.code, List.append_assoc, run_literalCode, Machine.run_shown _ _ _ _ stack, Slot.value]
  cases (Expression.reference (slot.namePlace place) slot.name).evaluate scope <;> rfl

theorem run_slots (scope : Variables) (last : String) (place : Place) (slots : List Slot)
    {machine : Machine} (nothing : machine.stack = []) :
    (machine.run scope false (slotsCode last place slots)).map Machine.pending =
      (fillSlots scope last place slots).map (machine.pending ++ ·) := by
  -- Between slots the stack is empty, so that each name finds its own value there.
  induction slots generalizing place machine with
  | nil =>
      have whole := run_literalCode scope place last [] machine
      rw [List.append_nil] at whole
      rw [slotsCode, whole, Machine.run, fillSlots]
      exact congrArg Except.ok (pending_write machine false last)
  | cons slot others ih =>
      rw [slotsCode, run_slot scope place slot _ nothing, fillSlots]
      cases slot.value scope place with
      | error error => rfl
      | ok content =>
          have stack : ((machine.write false false slot.literal).write false true content).stack =
              [] := by
            rw [Machine.write_stack, Machine.write_stack, nothing]
          rw [ok_bind, ok_bind, ih _ stack, pending_write, pending_write]
          cases fillSlots scope last (place.advance slot.text.toList) others with
          | error error => rfl
          | ok rest => exact congrArg Except.ok (by simp only [String.append_assoc])

/-- A template made of literal texts and names is filled in slot by slot. -/
theorem fillTemplate_slots {bindings : List (String × Binding)} {scope : Variables}
    {slots : List Slot} {last : String} (prepared : prepareVariables bindings = .ok scope)
    (sound : ∀ slot ∈ slots, slot.IsSound) (literal : IsLiteral last.toList) :
    fillTemplate bindings (slotsText slots last) = fillSlots scope last Place.start slots := by
  have compiled : compile .template (slotsText slots last) =
      .ok (slotsCode last Place.start slots) := by
    have scanned := scanPieces_slots sound literal
    rw [compile, TokenStream.ofText_eq_ok_iff.mpr ⟨_, scanned, rfl⟩]
    exact compileTokens_slots _ _ slots last
  have nothing : Machine.initial.stack = [] := rfl
  have runs := run_slots scope last Place.start slots nothing
  unfold fillTemplate
  rw [compiled, prepared, ok_bind, ok_bind]
  change (Machine.initial.run scope false _).map Machine.pending = _
  rw [runs]
  cases fillSlots scope last Place.start slots with
  | error error => rfl
  | ok filled => exact congrArg Except.ok String.empty_append

/-! ### Outcomes -/

theorem fillSlots_shown {scope : Variables} {slots : List Slot} {shown : String → String}
    (written : ∀ slot ∈ slots, ∀ place, slot.value scope place = .ok (shown slot.name))
    (last : String) (place : Place) :
    fillSlots scope last place slots =
      .ok (String.join (slots.map fun slot => slot.literal ++ shown slot.name) ++ last) := by
  induction slots generalizing place with
  | nil => exact congrArg Except.ok String.empty_append.symm
  | cons slot others ih =>
      obtain ⟨first, rest⟩ := List.forall_mem_cons.mp written
      rw [fillSlots, first, ih rest, List.map_cons, String.join_cons, String.append_assoc]
      rfl

theorem fillSlots_fails {scope : Variables} {front others : List Slot} {slot : Slot}
    {error : ProseError} (written : ∀ earlier ∈ front, ∃ content, ∀ place,
      earlier.value scope place = .ok content) (last : String) (place : Place)
    (fails : slot.value scope
      (place.advance (String.join (front.map Slot.text)).toList) = .error error) :
    fillSlots scope last place (front ++ slot :: others) = .error error := by
  induction front generalizing place with
  | nil =>
      have here : slot.value scope place = .error error := fails
      rw [List.nil_append, fillSlots, here]
      rfl
  | cons first rest ih =>
      obtain ⟨⟨content, shows⟩, writtenRest⟩ := List.forall_mem_cons.mp written
      rw [List.map_cons, String.join_cons, String.toList_append, Place.advance_append] at fails
      rw [List.cons_append, fillSlots, shows, ok_bind, ih writtenRest _ fails]
      rfl

end Bestiary.Prose
