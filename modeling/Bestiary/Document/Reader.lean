import Bestiary.Document.Value
import Bestiary.Text.Scan

/-!
Reading document text.

Values are words, numbers, quoted text, lists and objects. Each function
reads from the front of the text and returns what is left of it.
-/

namespace Bestiary.Document

inductive ReadFault
  | byteOrderMark
  | expectedValue
  | expectedName
  | expectedColon
  | expectedComma
  | extraText
  | unterminatedText
  | controlCharacter
  | badEscape
  | badCodePoint
  | oversizedNumeral
  deriving DecidableEq, Repr

def ReadFault.message : ReadFault → String
  | byteOrderMark => "Unexpected UTF-8 BOM (decode using utf-8-sig)"
  | expectedValue => "Expecting value"
  | expectedName => "Expecting property name enclosed in double quotes"
  | expectedColon => "Expecting ':' delimiter"
  | expectedComma => "Expecting ',' delimiter"
  | extraText => "Extra data"
  | unterminatedText => "Unterminated string starting at"
  | controlCharacter => "Invalid control character at"
  | badEscape => "Invalid \\escape"
  | badCodePoint => "Invalid \\uXXXX escape"
  | oversizedNumeral => "Numeral exceeds the limit"

open Text

def isDocumentBlank (character : Char) : Bool :=
  character == ' ' || character == '\t' || character == '\n' || character == '\r'

def skipBlanks (input : List Char) : List Char :=
  input.dropWhile isDocumentBlank

theorem length_skipBlanks_le (input : List Char) :
    (skipBlanks input).length ≤ input.length :=
  (List.dropWhile_suffix isDocumentBlank).length_le

def hexValue? (character : Char) : Option Nat :=
  if '0' ≤ character ∧ character ≤ '9' then some (character.toNat - 48)
  else if 'a' ≤ character ∧ character ≤ 'f' then some (character.toNat - 87)
  else if 'A' ≤ character ∧ character ≤ 'F' then some (character.toNat - 55)
  else none

def codePoint? (first second third fourth : Char) : Option Nat := do
  let a ← hexValue? first
  let b ← hexValue? second
  let c ← hexValue? third
  let d ← hexValue? fourth
  pure (((a * 16 + b) * 16 + c) * 16 + d)

/-- The character that follows a backslash, for the escapes of one letter. -/
def escapedChar? : Char → Option Char
  | '"' => some '"'
  | '\\' => some '\\'
  | '/' => some '/'
  | 'b' => some '\x08'
  | 'f' => some '\x0c'
  | 'n' => some '\n'
  | 'r' => some '\r'
  | 't' => some '\t'
  | _ => none

def isHighSurrogate (code : Nat) : Bool :=
  0xD800 ≤ code && code < 0xDC00

def isLowSurrogate (code : Nat) : Bool :=
  0xDC00 ≤ code && code < 0xE000

def joinSurrogates (high low : Nat) : Char :=
  Char.ofNat (0x10000 + (high - 0xD800) * 0x400 + (low - 0xDC00))

/-- A code point as a character. Half of a surrogate pair is none: an escape of one that stands
alone is read as the replacement character, where a reader that kept the half would leave it to the
checks of a field to refuse the text. -/
def scalar (code : Nat) : Char :=
  if isHighSurrogate code || isLowSurrogate code then Char.ofNat 0xFFFD else Char.ofNat code

/-- The characters of a quoted text up to its closing quote; `start` is the text from its opening
quote on. -/
def readText (start : List Char) (reversed : List Char) :
    (input : List Char) → Scan ReadFault String input
  | [] => .error ⟨.unterminatedText, start⟩
  | '"' :: rest => .ok (String.ofList reversed.reverse, ⟨rest, by simp⟩)
  | '\\' :: 'u' :: a :: b :: c :: d :: '\\' :: 'u' :: e :: f :: g :: h :: next :: rest =>
      match codePoint? a b c d with
      | none =>
          let left := 'u' :: a :: b :: c :: d :: '\\' :: 'u' :: e :: f :: g :: h :: next :: rest
          .error ⟨.badCodePoint, left⟩
      | some high =>
          if isHighSurrogate high then
            match codePoint? e f g h with
            | none => .error ⟨.badCodePoint, 'u' :: e :: f :: g :: h :: next :: rest⟩
            | some low =>
                if isLowSurrogate low then do
                  let (content, tail) ←
                    readText start (joinSurrogates high low :: reversed) (next :: rest)
                  pure (content, ⟨tail.1, by have := tail.2; simp at this ⊢; omega⟩)
                else do
                  let (content, tail) ← readText start (scalar high :: reversed)
                    ('\\' :: 'u' :: e :: f :: g :: h :: next :: rest)
                  pure (content, ⟨tail.1, by have := tail.2; simp at this ⊢; omega⟩)
          else do
            let (content, tail) ← readText start (scalar high :: reversed)
              ('\\' :: 'u' :: e :: f :: g :: h :: next :: rest)
            pure (content, ⟨tail.1, by have := tail.2; simp at this ⊢; omega⟩)
  | '\\' :: 'u' :: a :: b :: c :: d :: next :: rest =>
      match codePoint? a b c d with
      | none => .error ⟨.badCodePoint, 'u' :: a :: b :: c :: d :: next :: rest⟩
      | some code => do
          let (content, tail) ← readText start (scalar code :: reversed) (next :: rest)
          pure (content, ⟨tail.1, by have := tail.2; simp at this ⊢; omega⟩)
  | '\\' :: 'u' :: rest => .error ⟨.badCodePoint, 'u' :: rest⟩
  | ['\\'] => .error ⟨.unterminatedText, start⟩
  | '\\' :: letter :: rest =>
      match escapedChar? letter with
      | none => .error ⟨.badEscape, '\\' :: letter :: rest⟩
      | some character => do
          let (content, tail) ← readText start (character :: reversed) rest
          pure (content, ⟨tail.1, by have := tail.2; simp at this ⊢; omega⟩)
  | character :: rest =>
      if character.toNat < 32 then .error ⟨.controlCharacter, character :: rest⟩
      else do
        let (content, tail) ← readText start (character :: reversed) rest
        pure (content, ⟨tail.1, by have := tail.2; simp at this ⊢; omega⟩)
termination_by input => input.length

structure NumberText where
  negative : Bool
  whole : List Char
  fraction : Option (List Char)
  exponent : Option (Bool × List Char)
  rest : List Char

def isDecimal (character : Char) : Bool :=
  '0' ≤ character && character ≤ '9'

/-- The digits before the point: a single zero, or digits that start with another one. -/
def wholeDigits : List Char → List Char × List Char
  | '0' :: rest => (['0'], rest)
  | input => (input.takeWhile isDecimal, input.dropWhile isDecimal)

/-- The digits after a point; a point without digits is not part of the number. -/
def fractionDigits : List Char → Option (List Char) × List Char
  | '.' :: digit :: rest =>
      if isDecimal digit then
        (some (digit :: rest.takeWhile isDecimal), rest.dropWhile isDecimal)
      else (none, '.' :: digit :: rest)
  | input => (none, input)

/-- The exponent; a mark without digits is not part of the number. -/
def exponentDigits (input : List Char) : Option (Bool × List Char) × List Char :=
  match input with
  | mark :: rest =>
      if mark == 'e' || mark == 'E' then
        let (negative, digits) : Bool × List Char :=
          match rest with
          | '-' :: tail => (true, tail)
          | '+' :: tail => (false, tail)
          | tail => (false, tail)
        if (digits.takeWhile isDecimal).isEmpty then (none, input)
        else (some (negative, digits.takeWhile isDecimal), digits.dropWhile isDecimal)
      else (none, input)
  | [] => (none, input)

def numberText? (input : List Char) : Option NumberText :=
  let (negative, unsigned) : Bool × List Char :=
    match input with
    | '-' :: rest => (true, rest)
    | rest => (false, rest)
  let (whole, afterWhole) := wholeDigits unsigned
  if whole.isEmpty then none
  else
    let (fraction, afterFraction) := fractionDigits afterWhole
    let (exponent, rest) := exponentDigits afterFraction
    some ⟨negative, whole, fraction, exponent, rest⟩

/-- The value of a number: a float when it has a fraction or an exponent, else an integer. -/
def NumberText.value (number : NumberText) : Except ReadFault Value :=
  match number.fraction, number.exponent with
  | none, none =>
      if Text.numeralLimit < number.whole.length then .error .oversizedNumeral
      else
        let size : Int := Nat.ofDigitChars 10 number.whole 0
        .ok (.int (if number.negative then -size else size))
  | fraction, exponent =>
      let places := fraction.getD []
      let scale : Int :=
        match exponent with
        | none => 0
        | some (negative, digits) =>
            let size : Int := Nat.ofDigitChars 10 digits 0
            if negative then -size else size
      .ok (.float (Number.nearestDouble number.negative
        (Nat.ofDigitChars 10 (number.whole ++ places) 0) (scale - places.length)))

def wordValues : List (List Char × Value) :=
  [("null".toList, .null), ("true".toList, .bool true), ("false".toList, .bool false),
    ("NaN".toList, .float .nan), ("Infinity".toList, .float (.infinite false)),
    ("-Infinity".toList, .float (.infinite true))]

def readScalar (input : List Char) : Scan ReadFault Value input :=
  match wordValues.find? fun word => word.1.isPrefixOf input && !word.1.isEmpty with
  | some (word, value) =>
      if shorter : (input.drop word.length).length < input.length then
        .ok (value, ⟨input.drop word.length, shorter⟩)
      else .error ⟨.expectedValue, input⟩
  | none =>
      match numberText? input with
      | none => .error ⟨.expectedValue, input⟩
      | some number =>
          if shorter : number.rest.length < input.length then
            match number.value with
            | .ok value => .ok (value, ⟨number.rest, shorter⟩)
            | .error fault => .error ⟨fault, input⟩
          else .error ⟨.expectedValue, input⟩

mutual

def readValue (input : List Char) : Scan ReadFault Value input :=
  match input with
  | '"' :: rest => do
      let (content, tail) ← readText ('"' :: rest) [] rest
      pure (.text content, ⟨tail.1, by have := tail.2; simp; omega⟩)
  | '[' :: rest =>
      match shorter : skipBlanks rest with
      | ']' :: tail =>
          .ok (.list [], ⟨tail, by
            have := length_skipBlanks_le rest; rw [shorter] at this; simp at this ⊢; omega⟩)
      | items => do
          let (content, tail) ← readItems items
          pure (.list content, ⟨tail.1, by
            have := tail.2; have := length_skipBlanks_le rest
            rw [shorter] at this; simp; omega⟩)
  | '\x7b' :: rest =>
      match shorter : skipBlanks rest with
      | '\x7d' :: tail =>
          .ok (.object [], ⟨tail, by
            have := length_skipBlanks_le rest; rw [shorter] at this; simp at this ⊢; omega⟩)
      | fields => do
          let (content, tail) ← readFields [] fields
          pure (.object content, ⟨tail.1, by
            have := tail.2; have := length_skipBlanks_le rest
            rw [shorter] at this; simp; omega⟩)
  | other => readScalar other
termination_by 2 * input.length
decreasing_by
  all_goals
    have bound := length_skipBlanks_le rest
    rw [shorter] at bound
    simp only [List.length_cons]
    omega

def readItems (input : List Char) : Scan ReadFault (List Value) input := do
  let (item, afterItem) ← readValue input
  match shorter : skipBlanks afterItem.1 with
  | ']' :: rest =>
      pure ([item], ⟨rest, by
        have := length_skipBlanks_le afterItem.1; have := afterItem.2
        simp_all; omega⟩)
  | ',' :: rest => do
      let (items, tail) ← readItems (skipBlanks rest)
      pure (item :: items, ⟨tail.1, by
        have := length_skipBlanks_le afterItem.1; have := afterItem.2
        have := length_skipBlanks_le rest; have := tail.2
        simp_all; omega⟩)
  | left => .error ⟨.expectedComma, left⟩
termination_by 2 * input.length + 1
decreasing_by
  · omega
  · have := length_skipBlanks_le afterItem.1; have := afterItem.2
    have := length_skipBlanks_le rest
    simp_all; omega

def readFields (fields : List (String × Value)) (input : List Char) :
    Scan ReadFault (List (String × Value)) input :=
  match input with
  | '"' :: rest => do
      let (name, afterName) ← readText ('"' :: rest) [] rest
      match colon : skipBlanks afterName.1 with
      | ':' :: beforeValue => do
          let (content, afterValue) ← readValue (skipBlanks beforeValue)
          let extended := setEntry fields name content
          match separator : skipBlanks afterValue.1 with
          | '\x7d' :: tail =>
              pure (extended, ⟨tail, by
                have := length_skipBlanks_le afterName.1; have := afterName.2
                have := length_skipBlanks_le beforeValue; have := afterValue.2
                have := length_skipBlanks_le afterValue.1
                simp_all; omega⟩)
          | ',' :: next => do
              let (all, tail) ← readFields extended (skipBlanks next)
              pure (all, ⟨tail.1, by
                have := length_skipBlanks_le afterName.1; have := afterName.2
                have := length_skipBlanks_le beforeValue; have := afterValue.2
                have := length_skipBlanks_le afterValue.1
                have := length_skipBlanks_le next; have := tail.2
                simp_all; omega⟩)
          | left => .error ⟨.expectedComma, left⟩
      | left => .error ⟨.expectedColon, left⟩
  | left => .error ⟨.expectedName, left⟩
termination_by 2 * input.length
decreasing_by
  · have := length_skipBlanks_le afterName.1; have := afterName.2
    have := length_skipBlanks_le beforeValue
    simp_all; omega
  · have := length_skipBlanks_le afterName.1; have := afterName.2
    have := length_skipBlanks_le beforeValue; have := afterValue.2
    have := length_skipBlanks_le afterValue.1
    have := length_skipBlanks_le next
    simp_all; omega

end

structure ReadError where
  fault : ReadFault
  place : Place
  deriving DecidableEq, Repr

def readWhole (input : List Char) : Except (Stop ReadFault) Value := do
  if input.head? = some '\ufeff' then throw ⟨.byteOrderMark, input⟩
  let (value, tail) ← readValue (skipBlanks input)
  let left := skipBlanks tail.1
  if left.isEmpty then pure value else throw ⟨.extraText, left⟩

def Value.ofText (text : String) : Except ReadError Value :=
  let input := text.toList
  (readWhole input).mapError fun stop =>
    ⟨stop.fault, placeOf input stop.left⟩

end Bestiary.Document
