import Bestiary.Proofs.Document.Grammar
import Bestiary.Proofs.Prose.Stencil

/-!
Slots in quoted text.

A stencil is quoted properly if all its slots stand between quotation marks,
where no slot splits what spells one character: an escape, or the two escapes
of a surrogate pair. If no value has a quotation mark, a backslash or a control
character, then which part of such a stencil is the quoted text at its front
does not depend on the values, and the text says what the part says with the
values in its slots.
-/

namespace Bestiary

open Document

def Cell.isSlot : Cell → Bool
  | keep _ => false
  | slot _ => true

namespace Stencil

def leading : Stencil → List Char
  | .keep character :: others => character :: leading others
  | _ => []

/-- The low surrogate whose escape comes next if the slots before it are empty. -/
def lowNext? (stencil : Stencil) : Option Nat :=
  lowAhead? (leading (stencil.dropWhile Cell.isSlot))

def partsPair : Stencil → Bool
  | .slot name :: others => (lowNext? (.slot name :: others)).isSome
  | _ => false

/-- Whether slots stand only in quoted text, and there between the characters that it spells;
the stencil starts inside quotation marks or outside. -/
def isQuoted : Bool → Stencil → Bool
  | _, [] => true
  | false, .keep '"' :: others => isQuoted true others
  | false, .keep _ :: others => isQuoted false others
  | false, .slot _ :: _ => false
  | true, .keep '"' :: others => isQuoted false others
  | true, .keep '\\' :: .keep 'u' :: .keep a :: .keep b :: .keep c :: .keep d :: others =>
      !((codePoint? a b c d).any isHighSurrogate && partsPair others) && isQuoted true others
  | true, .keep '\\' :: .keep 'u' :: _ => false
  | true, .keep '\\' :: .keep _ :: others => isQuoted true others
  | true, .keep '\\' :: _ => false
  | true, .keep _ :: others => isQuoted true others
  | true, .slot _ :: others => isQuoted true others

def ArePlain (names : List String) (values : String → List Char) : Prop :=
  ∀ name ∈ names, ∀ character ∈ values name, isPlain character = true

/-- The slots of a stencil are quoted and have names out of a list. -/
structure Fits (names : List String) (quoted : Bool) (stencil : Stencil) : Prop where
  placed : isQuoted quoted stencil = true
  known : ∀ name ∈ stencil.names, name ∈ names

def HoldsBelow (names : List String) (quoted : Bool) (stencil : Stencil)
    (property : Stencil → Prop) : Prop :=
  ∀ shorter : Stencil, shorter.length < stencil.length → Fits names quoted shorter →
    property shorter

namespace Fits

variable {names : List String} {quoted : Bool} {character : Char} {others : Stencil}

theorem known_tail {cell : Cell}
    (known : ∀ name ∈ Stencil.names (cell :: others), name ∈ names) :
    ∀ name ∈ Stencil.names others, name ∈ names := by
  intro name member
  apply known
  cases cell with
  | keep character => exact member
  | slot other => exact List.mem_cons_of_mem other member

theorem opened (fits : Fits names false (.keep '"' :: others)) : Fits names true others :=
  ⟨fits.placed, known_tail fits.known⟩

theorem closed (fits : Fits names true (.keep '"' :: others)) : Fits names false others :=
  ⟨fits.placed, known_tail fits.known⟩

theorem outside (fits : Fits names false (.keep character :: others)) (other : character ≠ '"') :
    Fits names false others := by
  have placed := fits.placed
  rw [isQuoted] at placed
  · exact ⟨placed, known_tail fits.known⟩
  · exact other

theorem inside (fits : Fits names true (.keep character :: others)) (notQuote : character ≠ '"')
    (notBackslash : character ≠ '\\') : Fits names true others := by
  have placed := fits.placed
  rw [isQuoted] at placed
  · exact ⟨placed, known_tail fits.known⟩
  · exact notQuote
  all_goals
    intros
    contradiction

theorem escape (fits : Fits names true (.keep '\\' :: others)) :
    ∃ letter after, others = .keep letter :: after ∧
      (letter ≠ 'u' → Fits names true after) := by
  have placed := fits.placed
  cases others with
  | nil => cases placed
  | cons cell after =>
      cases cell with
      | slot name => cases placed
      | keep letter =>
          refine ⟨letter, after, rfl, ?_⟩
          intro other
          rw [isQuoted] at placed
          · exact ⟨placed, known_tail (known_tail fits.known)⟩
          all_goals
            intros
            contradiction

theorem unicode (fits : Fits names true (.keep '\\' :: .keep 'u' :: others)) :
    ∃ a b c d after, others = .keep a :: .keep b :: .keep c :: .keep d :: after ∧
      (∀ code, codePoint? a b c d = some code → isHighSurrogate code = true →
        partsPair after = false) ∧
      Fits names true after := by
  have placed := fits.placed
  have known := known_tail (known_tail fits.known)
  by_cases digits : ∃ a b c d after,
      others = .keep a :: .keep b :: .keep c :: .keep d :: after
  · obtain ⟨a, b, c, d, after, rfl⟩ := digits
    rw [isQuoted, Bool.and_eq_true_iff] at placed
    refine ⟨a, b, c, d, after, rfl, ?_, placed.2,
      known_tail (known_tail (known_tail (known_tail known)))⟩
    intro code isCode high
    simpa [isCode, high] using placed.1
  · rw [isQuoted] at placed
    · cases placed
    · rintro a b c d after rfl
      exact digits ⟨a, b, c, d, after, rfl⟩

theorem slot {name : String} (fits : Fits names true (.slot name :: others)) :
    name ∈ names ∧ Fits names true others :=
  ⟨fits.known name (List.mem_cons_self ..), fits.placed, known_tail fits.known⟩

end Fits

/-! ### Surrogate pairs -/

section Surrogates

variable {names : List String} {values : String → List Char} {stencil others : Stencil}

/-- What comes next after a kept character does not depend on the values. -/
theorem lowAhead?_fill_keep {character : Char}
    (fits : Fits names true (.keep character :: others)) :
    lowAhead? (fill values (.keep character :: others)) =
      lowAhead? (leading (.keep character :: others)) := by
  by_cases backslash : character = '\\'
  · subst backslash
    obtain ⟨letter, after, rfl, _⟩ := fits.escape
    by_cases unicode : letter = 'u'
    · subst unicode
      obtain ⟨a, b, c, d, after, rfl, _⟩ := fits.unicode
      rfl
    · rw [fill_keep, fill_keep, leading, leading, lowAhead?_ne_unicode unicode,
        lowAhead?_ne_unicode unicode]
  · rw [fill_keep, leading, lowAhead?_ne_backslash backslash, lowAhead?_ne_backslash backslash]

theorem lowNext?_of_fill {low : Nat} (fits : Fits names true stencil)
    (plain : ArePlain names values) (ahead : lowAhead? (fill values stencil) = some low) :
    lowNext? stencil = some low := by
  induction stencil with
  | nil => cases ahead
  | cons cell others ih =>
      cases cell with
      | keep character => exact (lowAhead?_fill_keep fits).symm.trans ahead
      | slot name =>
          obtain ⟨member, fitsOthers⟩ := fits.slot
          cases content : values name with
          | nil =>
              rw [fill_slot, content] at ahead
              exact ih fitsOthers ahead
          | cons character more =>
              have first : character ∈ values name := content ▸ List.mem_cons_self ..
              have notBackslash := (isPlain_iff.mp (plain name member character first)).2.1
              rw [fill_slot, content, List.cons_append,
                lowAhead?_ne_backslash notBackslash] at ahead
              cases ahead

end Surrogates

/-! ### The quoted text at the front -/

/-- Whatever the values are, a stencil starts with some quoted text and goes on with another one. -/
def ReadsText (names : List String) (stencil content left : Stencil) : Prop :=
  ∀ values, ArePlain names values →
    StartsWithText (stencil.fill values) (content.fill values) (left.fill values)

namespace ReadsText

variable {names : List String} {stencil parts left : Stencil}

theorem slot {name : String} (member : name ∈ names) (reads : ReadsText names stencil parts left) :
    ReadsText names (.slot name :: stencil) (.slot name :: parts) left := by
  intro values plain
  rw [fill_slot, fill_slot]
  exact (reads values plain).after_plain (plain name member)

theorem plain {character : Char} (isPlain : isPlain character = true)
    (reads : ReadsText names stencil parts left) :
    ReadsText names (.keep character :: stencil) (.keep character :: parts) left :=
  fun values plain => .plain isPlain (reads values plain)

theorem escape {letter character : Char} (isEscape : escapedChar? letter = some character)
    (reads : ReadsText names stencil parts left) :
    ReadsText names (.keep '\\' :: .keep letter :: stencil) (.keep character :: parts) left :=
  fun values plain => .escape isEscape (reads values plain)

end ReadsText

theorem Fits.alone {names : List String} {values : String → List Char} {stencil : Stencil}
    (fits : Fits names true stencil) (apart : partsPair stencil = false)
    (alone : lowAhead? (stencil.fill values) = none) {values' : String → List Char}
    (plain : ArePlain names values') : lowAhead? (stencil.fill values') = none := by
  rcases stencil with _ | ⟨character | name, others⟩
  · rfl
  · exact (lowAhead?_fill_keep fits).trans ((lowAhead?_fill_keep fits).symm.trans alone)
  · cases ahead : lowAhead? (fill values' (.slot name :: others)) with
    | none => rfl
    | some low =>
        rw [partsPair, lowNext?_of_fill fits plain ahead] at apart
        cases apart

theorem Fits.pair {names : List String} {values : String → List Char} {stencil : Stencil}
    {a b c d : Char} {code : Nat} {tail : List Char} (fits : Fits names true stencil)
    (apart : partsPair stencil = false) (plain : ArePlain names values)
    (isCode : codePoint? a b c d = some code) (low : isLowSurrogate code = true)
    (same : stencil.fill values = '\\' :: 'u' :: a :: b :: c :: d :: tail) :
    ∃ after, stencil = ofChars ['\\', 'u', a, b, c, d] ++ after ∧ Fits names true after ∧
      after.fill values = tail := by
  rcases stencil with _ | ⟨character | name, others⟩
  · cases same
  · obtain ⟨rfl, sameOthers⟩ := List.cons.inj same
    obtain ⟨letter, after, rfl, _⟩ := fits.escape
    obtain ⟨rfl, sameAfter⟩ := List.cons.inj sameOthers
    obtain ⟨a', b', c', d', after, rfl, _, fitsAfter⟩ := fits.unicode
    cases sameAfter
    exact ⟨after, rfl, fitsAfter, rfl⟩
  · have ahead : lowAhead? (fill values (.slot name :: others)) = some code := by
      rw [same, lowAhead?_escape isCode, if_pos low]
    rw [partsPair, lowNext?_of_fill fits plain ahead] at apart
    cases apart

/-- Some quoted text is at the front of a stencil, and a stencil after it. -/
def HasText (names : List String) (stencil : Stencil) : Prop :=
  ∃ parts left, Fits names false left ∧ left.length < stencil.length ∧
    ReadsText names stencil parts left

/-- If quoted text can be read under some values, then under all. -/
def TextIsUniform (names : List String) (stencil : Stencil) : Prop :=
  ∀ ⦃values content rest⦄, ArePlain names values →
    StartsWithText (stencil.fill values) content rest → HasText names stencil

section

variable {names : List String} {values : String → List Char} {content rest : List Char}

theorem HasText.spelled {stencil after : Stencil} (has : HasText names after) (cell : Cell)
    (shorter : after.length < stencil.length)
    (spells : ∀ {parts left : Stencil}, ReadsText names after parts left →
      ReadsText names stencil (cell :: parts) left) : HasText names stencil := by
  obtain ⟨parts, left, fits, less, reads⟩ := has
  exact ⟨cell :: parts, left, fits, Nat.lt_trans less shorter, spells reads⟩

theorem unicode_uniform {others : Stencil}
    (fits : Fits names true (.keep '\\' :: .keep 'u' :: others))
    (text : HoldsBelow names true others (TextIsUniform names)) (plain : ArePlain names values)
    (starts : StartsWithText ('\\' :: 'u' :: fill values others) content rest) :
    HasText names (.keep '\\' :: .keep 'u' :: others) := by
  obtain ⟨a, b, c, d, after, rfl, apart, fitsAfter⟩ := fits.unicode
  rcases startsWithText_unicode starts with
    ⟨code, more, isCode, alone, starts⟩ |
      ⟨high, e, f, g, h, low, tail, more, isHigh, high', isLow, low', same, starts⟩
  · have has := text after (by simp only [List.length_cons]; omega) fitsAfter plain starts
    refine has.spelled (.keep (scalar code)) (by simp only [List.length_cons]; omega) ?_
    intro parts left reads values' plain'
    exact .codePoint isCode
      (fun high => fitsAfter.alone (apart code isCode high) (alone high) plain')
      (reads values' plain')
  · obtain ⟨after, rfl, fitsLast, rfl⟩ :=
      fitsAfter.pair (apart high isHigh high') plain isLow low' same
    have has := text after (by simp [ofChars]; omega) fitsLast plain starts
    refine has.spelled (.keep (joinSurrogates high low)) (by simp [ofChars]; omega) ?_
    intro parts left reads values' plain'
    exact .pair isHigh high' isLow low' (reads values' plain')

theorem text_spelled {stencil : Stencil} (fits : Fits names true stencil)
    (text : HoldsBelow names true stencil (TextIsUniform names)) : TextIsUniform names stencil := by
  intro values content rest plain starts
  rcases stencil with _ | ⟨character | name, others⟩
  · cases starts
  · by_cases quote : character = '"'
    · subst quote
      exact ⟨[], others, fits.closed, Nat.lt_succ_self _, fun values _ => .close _⟩
    by_cases backslash : character = '\\'
    · subst backslash
      obtain ⟨letter, after, rfl, fitsAfter⟩ := fits.escape
      by_cases unicode : letter = 'u'
      · subst unicode
        refine unicode_uniform fits ?_ plain starts
        exact fun shorter less => text shorter (by simp only [List.length_cons]; omega)
      · obtain ⟨character, more, isEscape, starts⟩ := startsWithText_escape unicode starts
        have has := text after (by simp only [List.length_cons]; omega) (fitsAfter unicode)
          plain starts
        exact has.spelled _ (by simp only [List.length_cons]; omega) (.escape isEscape)
    · obtain ⟨isPlain, more, starts⟩ := startsWithText_other quote backslash starts
      have has := text others (Nat.lt_succ_self _) (fits.inside quote backslash) plain starts
      exact has.spelled _ (Nat.lt_succ_self _) (.plain isPlain)
  · obtain ⟨member, fitsOthers⟩ := fits.slot
    obtain ⟨more, starts⟩ := starts.of_plain (plain name member)
    have has := text others (Nat.lt_succ_self _) fitsOthers plain starts
    exact has.spelled _ (Nat.lt_succ_self _) (.slot member)

end

/-- Which part of a stencil is the quoted text at its front does not depend on the values. -/
theorem text_uniform {names : List String} {stencil : Stencil} (fits : Fits names true stencil) :
    TextIsUniform names stencil := by
  induction size : stencil.length using Nat.strongRecOn generalizing stencil with
  | ind size ih =>
    subst size
    exact text_spelled fits fun shorter less fits => ih _ less fits rfl

end Stencil

end Bestiary
