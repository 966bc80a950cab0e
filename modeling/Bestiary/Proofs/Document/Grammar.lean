import Bestiary.Document.Reader
import Bestiary.Proofs.Outcome

/-!
What a text starts with.

For each reader there is a relation between a text, what is read from its
front and what is left, and a law that says when it holds in terms of the
parts. Quoted text is described by a grammar of its own, in which each
character is spelled by itself, by an escape or by a pair of escapes.
-/

namespace Bestiary.Document

open Text

/-! ### Quoted text -/

def isPlain (character : Char) : Bool :=
  character != '"' && character != '\\' && !decide (character.toNat < 32)

theorem isPlain_iff {character : Char} :
    isPlain character = true ↔
      character ≠ '"' ∧ character ≠ '\\' ∧ ¬character.toNat < 32 := by
  simp [isPlain, and_assoc]

/-- The low surrogate that a text starts with the escape of, if it does. -/
def lowAhead? : List Char → Option Nat
  | '\\' :: 'u' :: a :: b :: c :: d :: _ => (codePoint? a b c d).filter isLowSurrogate
  | _ => none

/-- What stands after an opening quote: the characters up to the closing quote, and the rest. -/
inductive StartsWithText : List Char → List Char → List Char → Prop
  | close (rest : List Char) : StartsWithText ('"' :: rest) [] rest
  | plain {character : Char} {tail content rest : List Char} :
      isPlain character = true → StartsWithText tail content rest →
        StartsWithText (character :: tail) (character :: content) rest
  | escape {letter character : Char} {tail content rest : List Char} :
      escapedChar? letter = some character → StartsWithText tail content rest →
        StartsWithText ('\\' :: letter :: tail) (character :: content) rest
  | codePoint {a b c d : Char} {code : Nat} {tail content rest : List Char} :
      codePoint? a b c d = some code → (isHighSurrogate code = true → lowAhead? tail = none) →
        StartsWithText tail content rest →
        StartsWithText ('\\' :: 'u' :: a :: b :: c :: d :: tail) (scalar code :: content) rest
  | pair {a b c d e f g h : Char} {high low : Nat} {tail content rest : List Char} :
      codePoint? a b c d = some high → isHighSurrogate high = true →
        codePoint? e f g h = some low → isLowSurrogate low = true →
        StartsWithText tail content rest →
        StartsWithText ('\\' :: 'u' :: a :: b :: c :: d :: '\\' :: 'u' :: e :: f :: g :: h :: tail)
          (joinSurrogates high low :: content) rest

theorem lowAhead?_escape {a b c d : Char} {code : Nat} {tail : List Char}
    (isCode : codePoint? a b c d = some code) :
    lowAhead? ('\\' :: 'u' :: a :: b :: c :: d :: tail) =
      if isLowSurrogate code then some code else none := by
  rw [lowAhead?, isCode]
  rfl

theorem lowAhead?_ne_backslash {character : Char} {tail : List Char} (other : character ≠ '\\') :
    lowAhead? (character :: tail) = none := by
  rw [lowAhead?]
  rintro a b c d rest same
  cases same
  exact other rfl

theorem lowAhead?_ne_unicode {letter : Char} {tail : List Char} (other : letter ≠ 'u') :
    lowAhead? ('\\' :: letter :: tail) = none := by
  rw [lowAhead?]
  rintro a b c d rest same
  cases same
  exact other rfl

theorem escapedChar?_ne_unicode {letter character : Char}
    (isEscape : escapedChar? letter = some character) : letter ≠ 'u' := by
  rintro rfl
  cases isEscape

theorem StartsWithText.exists_cons {input content rest : List Char}
    (starts : StartsWithText input content rest) : ∃ head tail, input = head :: tail := by
  cases starts <;> exact ⟨_, _, rfl⟩

theorem StartsWithText.low_followed {input content rest : List Char} {low : Nat}
    (starts : StartsWithText input content rest) (ahead : lowAhead? input = some low) :
    ∃ e f g h next tail, input = '\\' :: 'u' :: e :: f :: g :: h :: next :: tail := by
  cases starts with
  | close rest => cases ahead
  | plain plain _ =>
      rw [lowAhead?_ne_backslash (isPlain_iff.mp plain).2.1] at ahead
      cases ahead
  | escape isEscape _ =>
      rw [lowAhead?_ne_unicode (escapedChar?_ne_unicode isEscape)] at ahead
      cases ahead
  | codePoint _ _ more =>
      obtain ⟨next, tail, rfl⟩ := more.exists_cons
      exact ⟨_, _, _, _, next, tail, rfl⟩
  | pair => exact ⟨_, _, _, _, _, _, rfl⟩

/-! What quoted text starts with tells how its first character is spelled. -/

section

variable {tail content rest : List Char}

theorem startsWithText_other {character : Char} (notQuote : character ≠ '"')
    (notBackslash : character ≠ '\\') (starts : StartsWithText (character :: tail) content rest) :
    isPlain character = true ∧ ∃ more, StartsWithText tail more rest := by
  cases starts with
  | close rest => exact absurd rfl notQuote
  | plain plain more => exact ⟨plain, _, more⟩
  | escape | codePoint | pair => exact absurd rfl notBackslash

theorem startsWithText_escape {letter : Char} (notUnicode : letter ≠ 'u')
    (starts : StartsWithText ('\\' :: letter :: tail) content rest) :
    ∃ character more, escapedChar? letter = some character ∧ StartsWithText tail more rest := by
  cases starts with
  | plain plain _ => exact absurd rfl (isPlain_iff.mp plain).2.1
  | escape isEscape more => exact ⟨_, _, isEscape, more⟩
  | codePoint | pair => exact absurd rfl notUnicode

theorem startsWithText_unicode {a b c d : Char}
    (starts : StartsWithText ('\\' :: 'u' :: a :: b :: c :: d :: tail) content rest) :
    (∃ code more, codePoint? a b c d = some code ∧
        (isHighSurrogate code = true → lowAhead? tail = none) ∧ StartsWithText tail more rest) ∨
      ∃ high e f g h low left more, codePoint? a b c d = some high ∧
        isHighSurrogate high = true ∧ codePoint? e f g h = some low ∧ isLowSurrogate low = true ∧
        tail = '\\' :: 'u' :: e :: f :: g :: h :: left ∧ StartsWithText left more rest := by
  cases starts with
  | plain plain _ => exact absurd rfl (isPlain_iff.mp plain).2.1
  | escape isEscape _ => exact absurd rfl (escapedChar?_ne_unicode isEscape)
  | codePoint isCode alone more => exact .inl ⟨_, _, isCode, alone, more⟩
  | pair isHigh high isLow low more =>
      exact .inr ⟨_, _, _, _, _, _, _, _, isHigh, high, isLow, low, rfl, more⟩

theorem StartsWithText.code {a b c d : Char}
    (starts : StartsWithText ('\\' :: 'u' :: a :: b :: c :: d :: tail) content rest) :
    ∃ code, codePoint? a b c d = some code := by
  rcases startsWithText_unicode starts with
    ⟨code, _, isCode, _⟩ | ⟨high, _, _, _, _, _, _, _, isHigh, _⟩
  · exact ⟨code, isCode⟩
  · exact ⟨high, isHigh⟩

theorem StartsWithText.of_plain {front : List Char}
    (plain : ∀ character ∈ front, isPlain character = true)
    (starts : StartsWithText (front ++ tail) content rest) :
    ∃ more, StartsWithText tail more rest := by
  induction front generalizing content with
  | nil => exact ⟨content, starts⟩
  | cons character others ih =>
      obtain ⟨isPlain, plain⟩ := List.forall_mem_cons.mp plain
      obtain ⟨notQuote, notBackslash, _⟩ := isPlain_iff.mp isPlain
      obtain ⟨_, more, starts⟩ := startsWithText_other notQuote notBackslash starts
      exact ih plain starts

theorem StartsWithText.after_plain {front : List Char} (starts : StartsWithText tail content rest)
    (plain : ∀ character ∈ front, isPlain character = true) :
    StartsWithText (front ++ tail) (front ++ content) rest := by
  induction front with
  | nil => exact starts
  | cons character others ih =>
      obtain ⟨isPlain, plain⟩ := List.forall_mem_cons.mp plain
      exact .plain isPlain (ih plain)

end

/-! The grammar describes what the reader accepts. -/

theorem startsWithText_of_readText {start reversed input : List Char} {content : String}
    {rest : Shorter input} (success : readText start reversed input = .ok (content, rest)) :
    ∃ characters, content = String.ofList (reversed.reverse ++ characters) ∧
      StartsWithText input characters rest.1 := by
  -- One more character has been read when the rest is.
  have further {character : Char} {reversed characters : List Char} {content : String}
      (same : content = String.ofList ((character :: reversed).reverse ++ characters)) :
      content = String.ofList (reversed.reverse ++ character :: characters) := by
    rw [same, List.reverse_cons, List.append_assoc]
    rfl
  induction reversed, input using readText.induct generalizing content with
  | case1 reversed =>
      rw [readText] at success
      cases success
  | case2 reversed rest =>
      rw [readText] at success
      cases success
      exact ⟨[], by rw [List.append_nil], .close rest⟩
  | case3 reversed a b c d e f g h next tail noCode =>
      rw [readText, noCode] at success
      cases success
  | case4 reversed a b c d e f g h next tail high isHigh high' noCode =>
      rw [readText, isHigh] at success
      simp only [if_pos high', noCode] at success
      cases success
  | case5 reversed a b c d e f g h next tail high isHigh high' low isLow low' ih =>
      rw [readText, isHigh] at success
      simp only [if_pos high', isLow, if_pos low'] at success
      obtain ⟨⟨content', left⟩, read, success⟩ := bind_eq_ok.mp success
      cases success
      obtain ⟨characters, same, starts⟩ := ih read
      exact ⟨_, further same, .pair isHigh high' isLow low' starts⟩
  | case6 reversed a b c d e f g h next tail high isHigh high' low isLow low' ih =>
      rw [readText, isHigh] at success
      simp only [if_pos high', isLow, if_neg low'] at success
      obtain ⟨⟨content', left⟩, read, success⟩ := bind_eq_ok.mp success
      cases success
      obtain ⟨characters, same, starts⟩ := ih read
      exact ⟨_, further same,
        .codePoint isHigh (fun _ => (lowAhead?_escape isLow).trans (if_neg low')) starts⟩
  | case7 reversed a b c d e f g h next tail high isHigh high' ih =>
      rw [readText, isHigh] at success
      simp only [if_neg high'] at success
      obtain ⟨⟨content', left⟩, read, success⟩ := bind_eq_ok.mp success
      cases success
      obtain ⟨characters, same, starts⟩ := ih read
      exact ⟨_, further same, .codePoint isHigh (fun high => absurd high high') starts⟩
  | case8 reversed a b c d next tail notPair noCode =>
      simp only [readText, noCode] at success
      cases success
  | case9 reversed a b c d next tail notPair code isCode ih =>
      simp only [readText, isCode] at success
      obtain ⟨⟨content', left⟩, read, success⟩ := bind_eq_ok.mp success
      cases success
      obtain ⟨characters, same, starts⟩ := ih read
      refine ⟨_, further same, .codePoint isCode (fun _ => ?_) starts⟩
      cases ahead : lowAhead? (next :: tail) with
      | none => rfl
      | some low =>
          obtain ⟨e, f, g, h, next', tail', form⟩ := starts.low_followed ahead
          cases form
          exact (notPair e f g h next' tail' rfl rfl).elim
  | case10 reversed tail notPair notCode =>
      simp only [readText] at success
      cases success
  | case11 reversed =>
      simp only [readText] at success
      cases success
  | case12 reversed letter tail notPair notCode notUnicode noEscape =>
      simp only [readText, noEscape] at success
      cases success
  | case13 reversed letter tail notPair notCode notUnicode character isEscape ih =>
      simp only [readText, isEscape] at success
      obtain ⟨⟨content', left⟩, read, success⟩ := bind_eq_ok.mp success
      cases success
      obtain ⟨characters, same, starts⟩ := ih read
      exact ⟨_, further same, .escape isEscape starts⟩
  | case14 reversed character tail notQuote notPair notCode notUnicode notLast notEscape control =>
      simp only [readText, if_pos control] at success
      cases success
  | case15 reversed character tail notQuote notPair notCode notUnicode notLast notEscape shown
      ih =>
      simp only [readText, if_neg shown] at success
      obtain ⟨⟨content', left⟩, read, success⟩ := bind_eq_ok.mp success
      cases success
      have other : character ≠ '\\' := by
        intro isBackslash
        cases tail with
        | nil => exact notLast isBackslash rfl
        | cons letter others => exact notEscape letter others isBackslash rfl
      obtain ⟨characters, same, starts⟩ := ih read
      exact ⟨_, further same, .plain (isPlain_iff.mpr ⟨notQuote, other, shown⟩) starts⟩

theorem StartsWithText.read {input content rest : List Char}
    (starts : StartsWithText input content rest) (start reversed : List Char) :
    ∃ shorter, readText start reversed input =
      .ok (String.ofList (reversed.reverse ++ content), ⟨rest, shorter⟩) := by
  -- The rest is read with one more character before it.
  have further {character : Char} {reversed tail content rest : List Char}
      (read : ∃ shorter, readText start (character :: reversed) tail =
        .ok (String.ofList ((character :: reversed).reverse ++ content), ⟨rest, shorter⟩)) :
      ∃ shorter, readText start (character :: reversed) tail =
        .ok (String.ofList (reversed.reverse ++ character :: content), ⟨rest, shorter⟩) := by
    obtain ⟨shorter, read⟩ := read
    rw [List.reverse_cons, List.append_assoc] at read
    exact ⟨shorter, read⟩
  induction starts generalizing reversed with
  | close rest =>
      refine ⟨Nat.lt_succ_self _, ?_⟩
      rw [readText, List.append_nil]
  | @plain character tail content rest plain more ih =>
      obtain ⟨notQuote, notBackslash, shown⟩ := isPlain_iff.mp plain
      obtain ⟨shorter, read⟩ := further (ih (character :: reversed))
      refine ⟨Nat.lt_succ_of_lt shorter, ?_⟩
      rw [readText, if_neg shown, read]
      · rfl
      all_goals
        intros
        contradiction
  | @escape letter character tail content rest isEscape more ih =>
      obtain ⟨shorter, read⟩ := further (ih (character :: reversed))
      refine ⟨by simp only [List.length_cons]; omega, ?_⟩
      rw [readText, isEscape]
      · simp only [read]
        rfl
      all_goals
        intros
        exact escapedChar?_ne_unicode isEscape ‹_›
  | @codePoint a b c d code tail content rest isCode alone more ih =>
      obtain ⟨shorter, read⟩ := further (ih (scalar code :: reversed))
      refine ⟨by simp only [List.length_cons]; omega, ?_⟩
      by_cases followed : ∃ e f g h next others,
          tail = '\\' :: 'u' :: e :: f :: g :: h :: next :: others
      · obtain ⟨e, f, g, h, next, others, rfl⟩ := followed
        obtain ⟨code', isCode'⟩ := more.code
        rw [readText, isCode]
        by_cases high : isHighSurrogate code = true
        · have notLow : ¬isLowSurrogate code' = true := by
            intro low
            have ahead := alone high
            rw [lowAhead?_escape isCode', if_pos low] at ahead
            cases ahead
          simp only [if_pos high, isCode', if_neg notLow, read]
          rfl
        · simp only [if_neg high, read]
          rfl
      · obtain ⟨next, others, rfl⟩ := more.exists_cons
        rw [readText, isCode]
        · simp only [read]
          rfl
        · rintro e f g h next' others' rfl rfl
          exact followed ⟨e, f, g, h, next', others', rfl⟩
  | @pair a b c d e f g h high low tail content rest isHigh high' isLow low' more ih =>
      obtain ⟨shorter, read⟩ := further (ih (joinSurrogates high low :: reversed))
      refine ⟨by simp only [List.length_cons]; omega, ?_⟩
      obtain ⟨next, tail, rfl⟩ := more.exists_cons
      rw [readText, isHigh]
      simp only [if_pos high', isLow, if_pos low', read]
      rfl

theorem startsWithText_iff {start input : List Char} {content : String} {rest : List Char} :
    (∃ shorter, readText start [] input = .ok (content, ⟨rest, shorter⟩)) ↔
      ∃ characters, content = String.ofList characters ∧ StartsWithText input characters rest := by
  constructor
  · rintro ⟨shorter, read⟩
    exact startsWithText_of_readText read
  · rintro ⟨characters, rfl, starts⟩
    exact starts.read start []

theorem StartsWithText.rest_unique {input content content' rest rest' : List Char}
    (starts : StartsWithText input content rest) (starts' : StartsWithText input content' rest') :
    rest = rest' := by
  obtain ⟨_, read⟩ := starts.read [] []
  obtain ⟨_, read'⟩ := starts'.read [] []
  have same := Except.ok.inj (read.symm.trans read')
  exact congrArg (·.2.1) same

/-! ### Values -/

theorem shorter_of_skipBlanks {input left : List Char} {mark : Char}
    (found : skipBlanks input = mark :: left) : left.length < input.length := by
  have bound := length_skipBlanks_le input
  rw [found, List.length_cons] at bound
  exact bound

theorem shorter_after {input next rest : List Char} {mark : Char}
    (found : skipBlanks input = mark :: next) (shorter : rest.length < (skipBlanks next).length) :
    rest.length < input.length :=
  Nat.lt_trans (Nat.lt_of_lt_of_le shorter (length_skipBlanks_le next))
    (shorter_of_skipBlanks found)

def StartsWithScalar (input : List Char) (value : Value) (rest : List Char) : Prop :=
  ∃ shorter, readScalar input = .ok (value, ⟨rest, shorter⟩)

def StartsWithValue (input : List Char) (value : Value) (rest : List Char) : Prop :=
  ∃ shorter, readValue input = .ok (value, ⟨rest, shorter⟩)

def StartsWithItems (input : List Char) (items : List Value) (rest : List Char) : Prop :=
  ∃ shorter, readItems input = .ok (items, ⟨rest, shorter⟩)

def StartsWithFields (known : List (String × Value)) (input : List Char)
    (all : List (String × Value)) (rest : List Char) : Prop :=
  ∃ shorter, readFields known input = .ok (all, ⟨rest, shorter⟩)

theorem StartsWithValue.rest_unique {input : List Char} {value value' : Value}
    {rest rest' : List Char} (starts : StartsWithValue input value rest)
    (starts' : StartsWithValue input value' rest') : rest = rest' := by
  obtain ⟨_, read⟩ := starts
  obtain ⟨_, read'⟩ := starts'
  rw [read] at read'
  cases read'
  rfl

variable {tail input rest : List Char} {value : Value}

def wordAhead? (input : List Char) : Option (List Char × Value) :=
  wordValues.find? fun word => word.1.isPrefixOf input && !word.1.isEmpty

theorem isPrefix_of_wordAhead? {input word : List Char} {value : Value}
    (found : wordAhead? input = some (word, value)) : word <+: input := by
  have matched := List.find?_some found
  exact List.isPrefixOf_iff_prefix.mp (Bool.and_eq_true_iff.mp matched).1

theorem startsWithScalar_iff :
    StartsWithScalar input value rest ↔
      rest.length < input.length ∧
        ((∃ word, wordAhead? input = some (word, value) ∧ rest = input.drop word.length) ∨
          (wordAhead? input = none ∧
            ∃ number, numberText? input = some number ∧ number.value = .ok value ∧
              rest = number.rest)) := by
  unfold StartsWithScalar readScalar
  constructor
  · rintro ⟨shorter, success⟩
    refine ⟨shorter, ?_⟩
    split at success
    · rename_i word value' found
      split at success
      · cases success
        exact .inl ⟨word, found, rfl⟩
      · cases success
    · rename_i none
      split at success
      · cases success
      · rename_i number found
        split at success
        · split at success
          · rename_i value' known
            cases success
            exact .inr ⟨none, number, found, known, rfl⟩
          · cases success
        · cases success
  · rintro ⟨shorter, ⟨word, found, rfl⟩ | ⟨none, number, found, known, rfl⟩⟩
    · refine ⟨shorter, ?_⟩
      unfold wordAhead? at found
      rw [found]
      exact dif_pos shorter
    · refine ⟨shorter, ?_⟩
      unfold wordAhead? at none
      rw [none, found]
      simp only
      rw [dif_pos shorter, known]

theorem startsWithValue_text :
    StartsWithValue ('"' :: tail) value rest ↔
      ∃ characters, value = .text (String.ofList characters) ∧
        StartsWithText tail characters rest := by
  unfold StartsWithValue
  rw [readValue]
  constructor
  · rintro ⟨shorter, success⟩
    obtain ⟨⟨content, left⟩, read, success⟩ := bind_eq_ok.mp success
    cases success
    obtain ⟨characters, rfl, starts⟩ := startsWithText_iff.mp ⟨left.2, read⟩
    exact ⟨characters, rfl, starts⟩
  · rintro ⟨characters, rfl, starts⟩
    obtain ⟨shorter, read⟩ := startsWithText_iff.mpr ⟨characters, rfl, starts⟩
    rw [read]
    exact ⟨Nat.lt_succ_of_lt shorter, rfl⟩

theorem startsWithValue_list :
    StartsWithValue ('[' :: tail) value rest ↔
      (skipBlanks tail = ']' :: rest ∧ value = .list []) ∨
        ((skipBlanks tail).head? ≠ some ']' ∧
          ∃ items, value = .list items ∧ StartsWithItems (skipBlanks tail) items rest) := by
  unfold StartsWithValue
  rw [readValue]
  constructor
  · rintro ⟨shorter, success⟩
    split at success
    · rename_i left closed
      cases success
      exact .inl ⟨closed, rfl⟩
    · rename_i opened
      obtain ⟨⟨items, left⟩, read, success⟩ := bind_eq_ok.mp success
      cases success
      refine .inr ⟨?_, items, rfl, left.2, read⟩
      intro closed
      obtain ⟨others, closed⟩ := List.head?_eq_some_iff.mp closed
      exact opened others closed
  · rintro (⟨closed, rfl⟩ | ⟨opened, items, rfl, shorter, read⟩)
    · split
      · rename_i left closed'
        rw [closed'] at closed
        cases closed
        exact ⟨Nat.lt_succ_of_lt (shorter_of_skipBlanks closed'), rfl⟩
      · rename_i opened
        exact (opened rest closed).elim
    · split
      · rename_i left closed
        exact absurd (closed ▸ rfl) opened
      · rw [read]
        exact ⟨Nat.lt_succ_of_lt (Nat.lt_of_lt_of_le shorter (length_skipBlanks_le tail)), rfl⟩

theorem startsWithValue_object :
    StartsWithValue ('\x7b' :: tail) value rest ↔
      (skipBlanks tail = '\x7d' :: rest ∧ value = .object []) ∨
        ((skipBlanks tail).head? ≠ some '\x7d' ∧
          ∃ fields, value = .object fields ∧
            StartsWithFields [] (skipBlanks tail) fields rest) := by
  unfold StartsWithValue
  rw [readValue]
  constructor
  · rintro ⟨shorter, success⟩
    split at success
    · rename_i left closed
      cases success
      exact .inl ⟨closed, rfl⟩
    · rename_i opened
      obtain ⟨⟨items, left⟩, read, success⟩ := bind_eq_ok.mp success
      cases success
      refine .inr ⟨?_, items, rfl, left.2, read⟩
      intro closed
      obtain ⟨others, closed⟩ := List.head?_eq_some_iff.mp closed
      exact opened others closed
  · rintro (⟨closed, rfl⟩ | ⟨opened, items, rfl, shorter, read⟩)
    · split
      · rename_i left closed'
        rw [closed'] at closed
        cases closed
        exact ⟨Nat.lt_succ_of_lt (shorter_of_skipBlanks closed'), rfl⟩
      · rename_i opened
        exact (opened rest closed).elim
    · split
      · rename_i left closed
        exact absurd (closed ▸ rfl) opened
      · rw [read]
        exact ⟨Nat.lt_succ_of_lt (Nat.lt_of_lt_of_le shorter (length_skipBlanks_le tail)), rfl⟩

theorem startsWithValue_scalar
    (other : ∀ head ∈ input.head?, head ≠ '"' ∧ head ≠ '[' ∧ head ≠ '\x7b') :
    StartsWithValue input value rest ↔ StartsWithScalar input value rest := by
  unfold StartsWithValue StartsWithScalar
  rw [readValue]
  · rintro tail rfl
    exact (other _ rfl).1 rfl
  · rintro tail rfl
    exact (other _ rfl).2.1 rfl
  · rintro tail rfl
    exact (other _ rfl).2.2 rfl

theorem startsWithItems_iff {items : List Value} :
    StartsWithItems input items rest ↔
      ∃ item after, StartsWithValue input item after ∧
        ((skipBlanks after = ']' :: rest ∧ items = [item]) ∨
          ∃ next others, skipBlanks after = ',' :: next ∧ items = item :: others ∧
            StartsWithItems (skipBlanks next) others rest) := by
  unfold StartsWithItems
  rw [readItems]
  constructor
  · rintro ⟨shorter, success⟩
    obtain ⟨⟨item, after⟩, read, success⟩ := bind_eq_ok.mp success
    refine ⟨item, after.1, ⟨after.2, read⟩, ?_⟩
    simp only at success
    split at success
    · rename_i left closed
      cases success
      exact .inl ⟨closed, rfl⟩
    · rename_i next separator
      obtain ⟨⟨others, left⟩, readOthers, success⟩ := bind_eq_ok.mp success
      cases success
      exact .inr ⟨next, others, separator, rfl, left.2, readOthers⟩
    · cases success
  · rintro ⟨item, after, ⟨shorter, read⟩, outcome⟩
    rw [read, ok_bind]
    rcases outcome with ⟨closed, rfl⟩ | ⟨next, others, separator, rfl, shorter', readOthers⟩
    · simp only
      split
      · rename_i left closed'
        rw [closed'] at closed
        cases closed
        exact ⟨Nat.lt_trans (shorter_of_skipBlanks closed') shorter, rfl⟩
      · rename_i next separator
        rw [separator] at closed
        cases closed
      · rename_i notClosed _
        exact (notClosed _ closed).elim
    · simp only
      split
      · rename_i left closed
        rw [closed] at separator
        cases separator
      · rename_i next' separator'
        rw [separator'] at separator
        cases separator
        rw [readOthers]
        exact ⟨Nat.lt_trans (shorter_after separator' shorter') shorter, rfl⟩
      · rename_i notSeparator
        exact (notSeparator _ separator).elim

theorem startsWithFields_iff {known all : List (String × Value)} :
    StartsWithFields known input all rest ↔
      ∃ tail characters afterName beforeValue content afterValue,
        input = '"' :: tail ∧ StartsWithText tail characters afterName ∧
        skipBlanks afterName = ':' :: beforeValue ∧
        StartsWithValue (skipBlanks beforeValue) content afterValue ∧
        ((skipBlanks afterValue = '\x7d' :: rest ∧
            all = setEntry known (String.ofList characters) content) ∨
          ∃ next, skipBlanks afterValue = ',' :: next ∧
            StartsWithFields (setEntry known (String.ofList characters) content)
              (skipBlanks next) all rest) := by
  unfold StartsWithFields
  constructor
  · rintro ⟨shorter, success⟩
    unfold readFields at success
    split at success
    · rename_i tail
      obtain ⟨⟨name, afterName⟩, readName, success⟩ := bind_eq_ok.mp success
      obtain ⟨characters, rfl, starts⟩ := startsWithText_iff.mp ⟨afterName.2, readName⟩
      simp only at success
      split at success
      · rename_i beforeValue colon
        obtain ⟨⟨content, afterValue⟩, readContent, success⟩ := bind_eq_ok.mp success
        refine ⟨tail, characters, afterName.1, beforeValue, content, afterValue.1, rfl, starts,
          colon, ⟨afterValue.2, readContent⟩, ?_⟩
        simp only at success
        split at success
        · rename_i left closed
          cases success
          exact .inl ⟨closed, rfl⟩
        · rename_i next separator
          obtain ⟨⟨others, left⟩, readOthers, success⟩ := bind_eq_ok.mp success
          cases success
          exact .inr ⟨next, separator, left.2, readOthers⟩
        · cases success
      · cases success
    · cases success
  · rintro ⟨tail, characters, afterName, beforeValue, content, afterValue, rfl, starts, colon,
      ⟨shorter, readContent⟩, outcome⟩
    obtain ⟨shorterName, readName⟩ :=
      startsWithText_iff.mpr ⟨characters, rfl, starts⟩
    rw [readFields, readName, ok_bind]
    simp only
    split
    · rename_i beforeValue' colon'
      rw [colon'] at colon
      cases colon
      rw [readContent, ok_bind]
      have shorterValue : afterValue.length < tail.length :=
        Nat.lt_trans (shorter_after colon' shorter) shorterName
      rcases outcome with ⟨closed, rfl⟩ | ⟨next, separator, shorterRest, readOthers⟩
      · simp only
        split
        · rename_i left closed'
          rw [closed'] at closed
          cases closed
          exact ⟨Nat.lt_succ_of_lt (Nat.lt_trans (shorter_of_skipBlanks closed') shorterValue), rfl⟩
        · rename_i next separator
          rw [separator] at closed
          cases closed
        · rename_i notClosed _
          exact (notClosed _ closed).elim
      · simp only
        split
        · rename_i left closed
          rw [closed] at separator
          cases separator
        · rename_i next' separator'
          rw [separator'] at separator
          cases separator
          rw [readOthers]
          exact ⟨Nat.lt_succ_of_lt
            (Nat.lt_trans (shorter_after separator' shorterRest) shorterValue), rfl⟩
        · rename_i notSeparator
          exact (notSeparator _ separator).elim
    · rename_i noColon
      exact (noColon _ colon).elim

theorem readWhole_eq_ok :
    readWhole input = .ok value ↔
      input.head? ≠ some '\ufeff' ∧
        ∃ rest, StartsWithValue (skipBlanks input) value rest ∧ skipBlanks rest = [] := by
  unfold readWhole StartsWithValue
  by_cases marked : input.head? = some '\ufeff'
  · rw [if_pos marked]
    constructor
    · intro impossible
      cases impossible
    · rintro ⟨unmarked, _⟩
      exact absurd marked unmarked
  · rw [if_neg marked]
    constructor
    · intro success
      obtain ⟨⟨value', tail⟩, read, success⟩ := bind_eq_ok.mp success
      simp only at success
      split at success
      · rename_i finished
        cases success
        exact ⟨marked, tail.1, ⟨tail.2, read⟩, List.isEmpty_iff.mp finished⟩
      · cases success
    · rintro ⟨_, rest, ⟨shorter, read⟩, finished⟩
      change (readValue (skipBlanks input) >>= _) = _
      rw [read, ok_bind]
      exact if_pos (List.isEmpty_iff.mpr finished)

end Bestiary.Document
