import Bestiary.Proofs.Document.Grammar

/-!
Backslashes in documents.

A document has backslashes only in quoted text, and there each escapes the
character after it, which is never a dollar sign. What a reader takes from the
front of a text is shown to be `Escaped`, for each reader in turn, and so is a
text that is read as a whole.
-/

namespace Bestiary.Document

open Text

/-- Every backslash escapes the character after it, and none escapes a dollar sign. -/
inductive Escaped : List Char → Prop
  | nil : Escaped []
  | plain {character : Char} {tail : List Char} :
      character ≠ '\\' → Escaped tail → Escaped (character :: tail)
  | escape {letter : Char} {tail : List Char} :
      letter ≠ '$' → Escaped tail → Escaped ('\\' :: letter :: tail)

theorem Escaped.tail {character : Char} {tail : List Char} (escaped : Escaped (character :: tail))
    (other : character ≠ '\\') : Escaped tail := by
  cases escaped with
  | plain _ rest => exact rest
  | escape _ _ => exact absurd rfl other

theorem Escaped.after_backslash {letter : Char} {tail : List Char}
    (escaped : Escaped ('\\' :: letter :: tail)) : letter ≠ '$' ∧ Escaped tail := by
  cases escaped with
  | plain other _ => exact absurd rfl other
  | escape other rest => exact ⟨other, rest⟩

theorem Escaped.append {first second : List Char} (escaped : Escaped first)
    (escaped' : Escaped second) : Escaped (first ++ second) := by
  induction escaped with
  | nil => exact escaped'
  | plain other _ ih => exact .plain other ih
  | escape other _ ih => exact .escape other ih

theorem Escaped.of_plain {input : List Char} (plain : ∀ character ∈ input, character ≠ '\\') :
    Escaped input := by
  induction input with
  | nil => exact .nil
  | cons head tail ih =>
      obtain ⟨headPlain, tailPlain⟩ := List.forall_mem_cons.mp plain
      exact .plain headPlain (ih tailPlain)

/-- What was taken from the front of a text, leaving a rest, is escaped. -/
def Consumed (input rest : List Char) : Prop :=
  ∃ source, source ++ rest = input ∧ Escaped source

namespace Consumed

theorem refl (input : List Char) : Consumed input input :=
  ⟨[], rfl, .nil⟩

theorem trans {input middle rest : List Char} (first : Consumed input middle)
    (second : Consumed middle rest) : Consumed input rest := by
  obtain ⟨source, rfl, escaped⟩ := first
  obtain ⟨source', rfl, escaped'⟩ := second
  exact ⟨source ++ source', List.append_assoc source source' rest, escaped.append escaped'⟩

theorem plain {character : Char} {tail rest : List Char} (other : character ≠ '\\')
    (consumed : Consumed tail rest) : Consumed (character :: tail) rest := by
  obtain ⟨source, rfl, escaped⟩ := consumed
  exact ⟨character :: source, rfl, .plain other escaped⟩

theorem escape {letter : Char} {tail rest : List Char} (other : letter ≠ '$')
    (consumed : Consumed tail rest) : Consumed ('\\' :: letter :: tail) rest := by
  obtain ⟨source, rfl, escaped⟩ := consumed
  exact ⟨'\\' :: letter :: source, rfl, .escape other escaped⟩

theorem of_plain {source : List Char} (plain : ∀ character ∈ source, character ≠ '\\')
    (rest : List Char) : Consumed (source ++ rest) rest :=
  ⟨source, rfl, .of_plain plain⟩

theorem dropWhile {kind : Char → Bool} (plain : kind '\\' = false) (input : List Char) :
    Consumed input (input.dropWhile kind) := by
  refine ⟨input.takeWhile kind, List.takeWhile_append_dropWhile, .of_plain ?_⟩
  rintro character member rfl
  have isKind : kind '\\' = true := List.all_eq_true.mp List.all_takeWhile _ member
  rw [plain] at isKind
  cases isKind

theorem skipBlanks (input : List Char) : Consumed input (skipBlanks input) :=
  dropWhile (by decide) input

theorem mark {input left : List Char} {mark : Char} (found : Document.skipBlanks input = mark :: left)
    (other : mark ≠ '\\') : Consumed input left := by
  have blanks := skipBlanks input
  rw [found] at blanks
  exact blanks.trans (.plain other (.refl left))

theorem escaped {input : List Char} (consumed : Consumed input []) : Escaped input := by
  obtain ⟨source, rfl, escaped⟩ := consumed
  rw [List.append_nil]
  exact escaped

end Consumed

/-! ### Quoted text -/

theorem hexValue?_ne_backslash {character : Char} {value : Nat}
    (isHex : hexValue? character = some value) : character ≠ '\\' := by
  rintro rfl
  cases isHex

theorem Consumed.codePoint {a b c d : Char} {code : Nat} {tail rest : List Char}
    (isCode : codePoint? a b c d = some code) (consumed : Consumed tail rest) :
    Consumed ('\\' :: 'u' :: a :: b :: c :: d :: tail) rest := by
  unfold codePoint? at isCode
  simp only [Option.bind_eq_bind, Option.bind_eq_some_iff] at isCode
  obtain ⟨_, first, _, second, _, third, _, fourth, _⟩ := isCode
  exact .escape (by decide) (.plain (hexValue?_ne_backslash first)
    (.plain (hexValue?_ne_backslash second) (.plain (hexValue?_ne_backslash third)
      (.plain (hexValue?_ne_backslash fourth) consumed))))

theorem escapedChar?_ne_dollar {letter character : Char}
    (isEscape : escapedChar? letter = some character) : letter ≠ '$' := by
  rintro rfl
  cases isEscape

theorem StartsWithText.consumed {input content rest : List Char}
    (starts : StartsWithText input content rest) : Consumed input rest := by
  induction starts with
  | close rest => exact .plain (by decide) (.refl rest)
  | plain plain _ ih => exact .plain (isPlain_iff.mp plain).2.1 ih
  | escape isEscape _ ih => exact .escape (escapedChar?_ne_dollar isEscape) ih
  | codePoint isCode _ _ ih => exact .codePoint isCode ih
  | pair isHigh _ isLow _ _ ih => exact .codePoint isHigh (.codePoint isLow ih)

theorem readText_consumed {start reversed input : List Char} {content : String}
    {rest : Shorter input} (success : readText start reversed input = .ok (content, rest)) :
    Consumed input rest.1 := by
  obtain ⟨_, _, starts⟩ := startsWithText_of_readText success
  exact starts.consumed

/-! ### Numbers and words -/

theorem isDecimal_ne_backslash {character : Char} (decimal : isDecimal character = true) :
    character ≠ '\\' := by
  rintro rfl
  cases decimal

theorem wholeDigits_consumed (input : List Char) : Consumed input (wholeDigits input).2 := by
  unfold wholeDigits
  split
  · exact .plain (by decide) (.refl _)
  · exact .dropWhile (by decide) input

theorem fractionDigits_consumed (input : List Char) :
    Consumed input (fractionDigits input).2 := by
  unfold fractionDigits
  split
  · rename_i digit tail
    split
    · rename_i decimal
      exact .plain (by decide) (.plain (isDecimal_ne_backslash decimal)
        (.dropWhile (by decide) tail))
    · exact .refl _
  · exact .refl input

theorem exponentDigits_consumed (input : List Char) :
    Consumed input (exponentDigits input).2 := by
  unfold exponentDigits
  cases input with
  | nil => exact .refl []
  | cons mark tail =>
      by_cases isMark : (mark == 'e' || mark == 'E') = true
      · have other : mark ≠ '\\' := by
          rintro rfl
          cases isMark
        have digits (input : List Char) : Consumed input (input.dropWhile isDecimal) :=
          .dropWhile (by decide) input
        simp only [if_pos isMark]
        -- The sign decides which digits count; without digits the mark is left where it is.
        split
        · split
          · exact .refl _
          · exact .plain other (.plain (by decide) (digits _))
        · split
          · exact .refl _
          · exact .plain other (.plain (by decide) (digits _))
        · split
          · exact .refl _
          · exact .plain other (digits _)
      · simp only [if_neg isMark]
        exact .refl _

theorem numberText?_consumed {input : List Char} {number : NumberText}
    (found : numberText? input = some number) : Consumed input number.rest := by
  have parts (unsigned : List Char) : Consumed unsigned
      (exponentDigits (fractionDigits (wholeDigits unsigned).2).2).2 :=
    ((wholeDigits_consumed unsigned).trans (fractionDigits_consumed _)).trans
      (exponentDigits_consumed _)
  unfold numberText? at found
  simp only at found
  split at found
  · split at found
    · cases found
    · cases found
      exact .plain (by decide) (parts _)
  · split at found
    · cases found
    · cases found
      exact parts input

theorem wordValues_plain :
    ∀ word ∈ wordValues, ∀ character ∈ word.1, character ≠ '\\' := by
  have free : ∀ word ∈ wordValues, '\\' ∉ word.1 := by
    intro word listed
    simp only [wordValues, List.mem_cons, List.not_mem_nil, or_false] at listed
    rcases listed with rfl | rfl | rfl | rfl | rfl | rfl <;> decide
  intro word listed character member same
  exact free word listed (same ▸ member)

theorem readScalar_consumed {input : List Char} {value : Value} {rest : Shorter input}
    (success : readScalar input = .ok (value, rest)) : Consumed input rest.1 := by
  obtain ⟨_, ⟨word, found, left⟩ | ⟨_, number, found, _, left⟩⟩ :=
    startsWithScalar_iff.mp ⟨rest.2, success⟩
  · rw [left]
    obtain ⟨tail, rfl⟩ := isPrefix_of_wordAhead? found
    rw [List.drop_left]
    exact .of_plain (wordValues_plain _ (List.mem_of_find?_eq_some found)) tail
  · rw [left]
    exact numberText?_consumed found

/-! ### Values -/

theorem reads_consumed :
    (∀ input value (rest : Shorter input),
      readValue input = .ok (value, rest) → Consumed input rest.1) ∧
    (∀ fields input all (rest : Shorter input),
      readFields fields input = .ok (all, rest) → Consumed input rest.1) ∧
    (∀ input items (rest : Shorter input),
      readItems input = .ok (items, rest) → Consumed input rest.1) := by
  refine readValue.mutual_induct _ _ _ ?text ?emptyList ?list ?emptyObject ?object ?scalar
    ?field ?noField ?item
  case text =>
    intro tail value rest success
    rw [readValue] at success
    obtain ⟨⟨content, left⟩, read, success⟩ := bind_eq_ok.mp success
    cases success
    exact .plain (by decide) (readText_consumed read)
  case emptyList =>
    intro tail left closed value rest success
    rw [readValue] at success
    split at success
    · rename_i tail' closed'
      cases success
      exact .plain (by decide) (.mark closed' (by decide))
    · rename_i opened
      exact absurd closed (opened left)
  case list =>
    intro tail opened ih value rest success
    rw [readValue] at success
    split at success
    · rename_i tail' closed
      exact absurd closed (opened tail')
    · obtain ⟨⟨items, left⟩, read, success⟩ := bind_eq_ok.mp success
      cases success
      exact .plain (by decide) ((Consumed.skipBlanks tail).trans (ih items left read))
  case emptyObject =>
    intro tail left closed value rest success
    rw [readValue] at success
    split at success
    · rename_i tail' closed'
      cases success
      exact .plain (by decide) (.mark closed' (by decide))
    · rename_i opened
      exact absurd closed (opened left)
  case object =>
    intro tail opened ih value rest success
    rw [readValue] at success
    split at success
    · rename_i tail' closed
      exact absurd closed (opened tail')
    · obtain ⟨⟨fields, left⟩, read, success⟩ := bind_eq_ok.mp success
      cases success
      exact .plain (by decide) ((Consumed.skipBlanks tail).trans (ih fields left read))
  case scalar =>
    intro input notText notList notObject value rest success
    simp only [readValue] at success
    exact readScalar_consumed success
  case field =>
    intro fields tail ihValue ihFields all rest success
    rw [readFields] at success
    obtain ⟨⟨name, afterName⟩, readName, success⟩ := bind_eq_ok.mp success
    simp only at success
    split at success
    · rename_i beforeValue colon
      obtain ⟨⟨content, afterValue⟩, readContent, success⟩ := bind_eq_ok.mp success
      have value : Consumed ('"' :: tail) afterValue.1 :=
        .plain (by decide) ((readText_consumed readName).trans
          ((Consumed.mark colon (by decide)).trans ((Consumed.skipBlanks beforeValue).trans
            (ihValue afterName beforeValue colon content afterValue readContent))))
      simp only at success
      split at success
      · rename_i left closed
        cases success
        exact value.trans (.mark closed (by decide))
      · rename_i next separator
        obtain ⟨⟨others, left⟩, readOthers, success⟩ := bind_eq_ok.mp success
        cases success
        have more := ihFields name afterName beforeValue colon content afterValue next separator
          others left readOthers
        exact value.trans ((Consumed.mark separator (by decide)).trans
          ((Consumed.skipBlanks next).trans more))
      · cases success
    · cases success
  case noField =>
    intro fields input notName all rest success
    simp only [readFields] at success
    cases success
  case item =>
    intro input ihItem ihItems items rest success
    rw [readItems] at success
    obtain ⟨⟨item, afterItem⟩, readItem, success⟩ := bind_eq_ok.mp success
    have first := ihItem item afterItem readItem
    simp only at success
    split at success
    · rename_i left closed
      cases success
      exact first.trans (.mark closed (by decide))
    · rename_i next separator
      obtain ⟨⟨others, left⟩, readOthers, success⟩ := bind_eq_ok.mp success
      cases success
      have more := ihItems afterItem next separator others left readOthers
      exact first.trans ((Consumed.mark separator (by decide)).trans
        ((Consumed.skipBlanks next).trans more))
    · cases success

/-- In a text that is read as a document every backslash escapes something, and no dollar sign. -/
theorem ofText_escaped {text : String} {value : Value} (success : Value.ofText text = .ok value) :
    Escaped text.toList := by
  have whole : readWhole text.toList = .ok value := mapError_eq_ok.mp success
  unfold readWhole at whole
  by_cases marked : text.toList.head? = some '\ufeff'
  · rw [if_pos marked] at whole
    cases whole
  · rw [if_neg marked] at whole
    obtain ⟨⟨value', tail⟩, read, whole⟩ := bind_eq_ok.mp whole
    simp only at whole
    split at whole
    · rename_i finished
      have taken := ((Consumed.skipBlanks text.toList).trans
        (reads_consumed.1 _ value' tail read)).trans (Consumed.skipBlanks tail.1)
      rw [List.isEmpty_iff.mp finished] at taken
      exact taken.escaped
    · cases whole

end Bestiary.Document
