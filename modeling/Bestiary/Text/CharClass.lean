import Bestiary.Text.CharTables

/-!
Classes of characters, and quoted text.

Letters, digits, blanks and printable characters: the first 128 code points
are decided by comparison alone, and the tables are consulted only beyond
them. Quoted text, as messages show the values that they complain about,
stands between apostrophes, or between double quotes when it holds an
apostrophe and no double quote. Backslashes and the chosen quote are escaped,
and a character that does not print is written as its code point.
-/

namespace Bestiary.Text

/-- Membership in a set given by the places at which membership changes. -/
def inBounds (bounds : List Nat) (code : Nat) : Bool :=
  (bounds.takeWhile (· ≤ code)).length % 2 == 1

/-- The decimal value of a digit of any decimal system. -/
def decimalValue? (character : Char) : Option Nat :=
  let code := character.toNat
  if code < 128 then
    if 48 ≤ code ∧ code ≤ 57 then some (code - 48) else none
  else
    (decimalZeros.find? fun start => start ≤ code && code < start + 10).map (code - ·)

/-- Digits in the wide sense: superscripts and circled digits count, though they have no decimal
value. -/
def isDigit (character : Char) : Bool :=
  let code := character.toNat
  if code < 128 then 48 ≤ code && code ≤ 57 else inBounds digitBounds code

def isLetter (character : Char) : Bool :=
  let code := character.toNat
  if code < 128 then (65 ≤ code && code ≤ 90) || (97 ≤ code && code ≤ 122)
  else inBounds letterBounds code

def isLetterOrNumber (character : Char) : Bool :=
  let code := character.toNat
  isLetter character ||
    (if code < 128 then 48 ≤ code && code ≤ 57 else inBounds numericBounds code)

def isBlank (character : Char) : Bool :=
  let code := character.toNat
  if code < 128 then code == 32 || (9 ≤ code && code ≤ 13) || (28 ≤ code && code ≤ 31)
  else inBounds blankBounds code

def isPrintable (character : Char) : Bool :=
  let code := character.toNat
  if code < 128 then 32 ≤ code && code < 127 else inBounds printableBounds code

/-- Text without the characters of a class at either end. -/
def trimBy (drop : Char → Bool) (text : String) : String :=
  String.ofList ((text.toList.dropWhile drop).reverse.dropWhile drop).reverse

def trim (text : String) : String :=
  trimBy isBlank text

/-- The largest number of digits of a numeral. -/
def numeralLimit : Nat := 4300

/-- The number that a run of digits of any decimal systems stands for; `none` when a character has
no decimal value or the run is too long. -/
def numeralValue? (digits : List Char) : Option Nat :=
  if numeralLimit < digits.length then none
  else
    digits.foldl
      (fun total digit => do
        let value ← total
        let place ← decimalValue? digit
        pure (value * 10 + place))
      (some 0)

/-- A code point in hexadecimal, padded with zeros to a width. -/
def hexPadded (width : Nat) (code : Nat) : List Char :=
  let digits := Nat.toDigits 16 code
  List.replicate (width - digits.length) '0' ++ digits

/-- A character inside quotes of the given kind. -/
def quotedChar (quote : Char) (character : Char) : List Char :=
  if character == quote || character == '\\' then ['\\', character]
  else if character == '\n' then ['\\', 'n']
  else if character == '\r' then ['\\', 'r']
  else if character == '\t' then ['\\', 't']
  else if isPrintable character then [character]
  else
    let code := character.toNat
    if code < 0x100 then '\\' :: 'x' :: hexPadded 2 code
    else if code < 0x10000 then '\\' :: 'u' :: hexPadded 4 code
    else '\\' :: 'U' :: hexPadded 8 code

def quoteFor (text : List Char) : Char :=
  if text.contains '\'' && !text.contains '"' then '"' else '\''

def quoted (text : String) : String :=
  let quote := quoteFor text.toList
  String.ofList (quote :: text.toList.flatMap (quotedChar quote) ++ [quote])

end Bestiary.Text
