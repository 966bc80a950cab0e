import Bestiary.Text.CharClass

/-!
The decimal text of numbers, and reading integers leniently.

A number has a text here however large it is. Whoever shows one to a reader
first asks whether it is writable: the limit on the numerals that are read is
also the limit on those that are written, the sign not counted.

The plain form of an integer is an optional minus and decimal digits of which
the first is not zero, unless it is the only one. Text that is not in plain
form is tidied first: outer blanks, a plus, leading zeros, a fraction of zeros
and single underscores go. An integer that is too long is told apart only if
it is in plain form as it stands.
-/

namespace Bestiary.Number

/-- The smallest natural number that has too many digits to be written. -/
def writingBound : Nat := Nat.pow 10 Text.numeralLimit

def isWritable (number : Int) : Bool :=
  decide (number.natAbs < writingBound)

def isWritableRat (number : Rat) : Bool :=
  isWritable number.num && isWritable number.den

def unwritableMessage : String :=
  "Exceeds the limit (" ++ toString Text.numeralLimit ++
    " digits) for integer string conversion; use sys.set_int_max_str_digits() to increase the limit"

def naturalText (number : Nat) : List Char :=
  Nat.toDigits 10 number

def integerText (number : Int) : List Char :=
  if number < 0 then '-' :: naturalText number.natAbs else naturalText number.natAbs

/-- An integer with its sign, whichever it is. -/
def signedText (number : Int) : List Char :=
  if number < 0 then '-' :: naturalText number.natAbs else '+' :: naturalText number.natAbs

def showInt (number : Int) : String :=
  String.ofList (integerText number)

def showSigned (number : Int) : String :=
  String.ofList (signedText number)

/-- Digits in groups of three, the groups separated by commas. -/
def groupedText (number : Nat) : String :=
  let rec groups : List Char → List Char
    | first :: second :: third :: next :: rest =>
        first :: second :: third :: ',' :: groups (next :: rest)
    | short => short
  String.ofList (groups (naturalText number).reverse).reverse

/-- A rational number: whole ones without a denominator. -/
def showRat (number : Rat) : String :=
  if number.den = 1 then showInt number.num
  else String.ofList (integerText number.num ++ '/' :: naturalText number.den)

/-- Blanks that may surround a number in text: white space in the narrow sense, without the
information separators. -/
def isOuterBlank (character : Char) : Bool :=
  Text.isBlank character && !(28 ≤ character.toNat && character.toNat ≤ 31)

/-- The ten digits of the decimal system; digits of other scripts are none here. -/
def isPlainDigit (character : Char) : Bool :=
  48 ≤ character.toNat && character.toNat ≤ 57

inductive IntegerFault
  | malformed
  | tooLong
  deriving DecidableEq, Repr

/-- The largest number of characters of an integer, its minus included. -/
def integerLimit : Nat := 4300

/-- Read the digits of an integer after its sign. A run of digits that is too long is told even if
something else follows it. -/
def plainDigits (negative : Bool) (unsigned : List Char) : Except IntegerFault Nat :=
  let digits := unsigned.takeWhile isPlainDigit
  let length := if negative then digits.length + 1 else digits.length
  if digits.head? == some '0' then
    if unsigned == ['0'] then .ok 0 else .error .malformed
  else if integerLimit < length then .error .tooLong
  else if digits.isEmpty || digits.length < unsigned.length then .error .malformed
  else .ok (Nat.ofDigitChars 10 digits 0)

def plainInteger : List Char → Except IntegerFault Int
  | '-' :: unsigned => do
      let size ← plainDigits true unsigned
      pure (-(size : Int))
  | unsigned => do
      let size ← plainDigits false unsigned
      pure (size : Int)

/-- A numeral without the zeros that it starts with, and the underscores among them. One digit
stays before a point or the end, and a minus may follow the zeros. -/
def withoutLeadingZeros? (numeral : List Char) : Option (List Char) :=
  let isSkipped (character : Char) : Bool := character == '0' || character == '_'
  match numeral with
  | '0' :: _ =>
      let last := (numeral.takeWhile isSkipped).getLastD '0'
      match numeral.dropWhile isSkipped with
      | [] => some [last]
      | '.' :: fraction => some (last :: '.' :: fraction)
      | next :: rest => if isPlainDigit next || next == '-' then some (next :: rest) else none
  | first :: rest => if isPlainDigit first then some (first :: rest) else none
  | [] => none

/-- A numeral without its fraction, if that is one or more zeros and nothing else. -/
def withoutZeroFraction (numeral : List Char) : List Char :=
  match numeral.dropWhile (· != '.') with
  | _ :: fraction =>
      if !fraction.isEmpty && fraction.all (· == '0') then numeral.takeWhile (· != '.') else numeral
  | [] => numeral

/-- Text without its underscores; they must be single and have something on both sides. -/
def withoutUnderscores? (content : List Char) : Option (List Char) :=
  let double := (content.zip (content.drop 1)).contains ('_', '_')
  if content.head? == some '_' || content.getLast? == some '_' || double then none
  else some (content.filter (· != '_'))

def tidyUnsigned? (numeral : List Char) : Option (List Char) := do
  let significant ← withoutLeadingZeros? numeral
  withoutUnderscores? (withoutZeroFraction significant)

def tidyInteger? : List Char → Option (List Char)
  | '-' :: unsigned => (tidyUnsigned? unsigned).map ('-' :: ·)
  | '+' :: unsigned => tidyUnsigned? unsigned
  | unsigned => tidyUnsigned? unsigned

def integerOfText (text : String) : Except IntegerFault Int :=
  match plainInteger text.toList with
  | .ok number => .ok number
  | .error .tooLong => .error .tooLong
  | .error .malformed =>
      match (tidyInteger? (Text.trimBy isOuterBlank text).toList).map plainInteger with
      | some (.ok number) => .ok number
      | _ => .error .malformed

end Bestiary.Number
