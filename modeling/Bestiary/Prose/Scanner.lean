import Bestiary.Dice.Parser
import Bestiary.Prose.Report

/-!
Reading authored text into tokens.

The text is cut into lexemes. Each covers a part of the text that is not
empty, and the next one starts where it ends, so nothing is lost; a lexeme
without a token is a blank inside an expression. Places are found afterwards
by counting along the lexemes.
-/

namespace Bestiary.Prose

open Text

/-- A lexeme at the front of a text: what it covers, what is left, and its token if it has one. -/
structure Lexeme (input : List Char) where
  token? : Option Token
  source : List Char
  rest : List Char
  split : source ++ rest = input
  nonempty : source ≠ []

theorem Lexeme.rest_length_lt {input : List Char} (lexeme : Lexeme input) :
    lexeme.rest.length < input.length := by
  have covered := lexeme.nonempty
  have total := congrArg List.length lexeme.split
  have positive : 0 < lexeme.source.length := List.length_pos_iff.mpr covered
  rw [List.length_append] at total
  omega

abbrev LexemeScan (input : List Char) := Except (Stop ProseFault) (Lexeme input)

def single (token? : Option Token) (head : Char) (tail : List Char) : Lexeme (head :: tail) :=
  ⟨token?, [head], tail, rfl, by simp⟩

/-! ### Text outside expressions -/

/-- Whether only blanks other than line ends come before the next line end. -/
def startsBlankLine (after : List Char) : Bool :=
  (after.dropWhile fun c => c == ' ' || c == '\t' || c == '\r').head? == some '\n'

/-- What a text starts with, if it starts with something other than a literal run. -/
def special? (dialect : Dialect) (head : Char) (tail : List Char) : Option (Lexeme (head :: tail)) :=
  if head == '$' then
    match tail with
    | second :: rest =>
        if second == dialect.opener then
          some ⟨some .opening, [head, second], rest, rfl, by simp⟩
        else none
    | [] => none
  else if head == '*' && dialect.hasMarks then
    match tail with
    | '*' :: rest => some ⟨some .boldMark, [head, '*'], rest, rfl, by simp⟩
    | other => some (single (some .italicMark) head other)
  else if head == '\n' && dialect.hasBreaks && startsBlankLine tail then
    some ⟨some .paragraphBreak, head :: tail.takeWhile isBlank, tail.dropWhile isBlank,
      by simp, by simp⟩
  else none

/-- A literal run at the front of a text: its meaning, what it covers and what is left. -/
structure LiteralRun (input : List Char) where
  content : List Char
  source : List Char
  rest : List Char
  split : source ++ rest = input

def literalRun (dialect : Dialect) : (input : List Char) → LiteralRun input
  | [] => ⟨[], [], [], rfl⟩
  | [head] =>
      match special? dialect head [] with
      | some _ => ⟨[], [], [head], rfl⟩
      | none => ⟨[head], [head], [], rfl⟩
  | head :: second :: tail =>
      if head == '\\' && dialect.escapes second then
        let run := literalRun dialect tail
        ⟨second :: run.content, head :: second :: run.source, run.rest, by simp [run.split]⟩
      else
        match special? dialect head (second :: tail) with
        | some _ => ⟨[], [], head :: second :: tail, rfl⟩
        | none =>
            let run := literalRun dialect (second :: tail)
            ⟨head :: run.content, head :: run.source, run.rest, by simp [run.split]⟩

def scanText (dialect : Dialect) (head : Char) (tail : List Char) : Lexeme (head :: tail) :=
  match special? dialect head tail with
  | some lexeme => lexeme
  | none =>
      match tail with
      | [] => single (some (.literal (String.singleton head))) head []
      | second :: others =>
          if head == '\\' && dialect.escapes second then
            let run := literalRun dialect others
            ⟨some (.literal (String.ofList (second :: run.content))), head :: second :: run.source,
              run.rest, by simp [run.split], by simp⟩
          else
            let run := literalRun dialect (second :: others)
            ⟨some (.literal (String.ofList (head :: run.content))), head :: run.source, run.rest,
              by simp [run.split], by simp⟩

/-! ### Text inside expressions -/

def isWordChar (character : Char) : Bool :=
  isLetterOrNumber character || character == '_'

/-- The token of a word; a word that opens a structure does so only before a parenthesis. -/
def scanWord (head : Char) (tail : List Char) : Lexeme (head :: tail) :=
  let body := tail.takeWhile isWordChar
  let word := String.ofList (head :: body)
  let plain (token : Token) : Lexeme (head :: tail) :=
    ⟨some token, head :: body, tail.dropWhile isWordChar, by simp [body], by simp⟩
  if word == "then" then plain .thenWord
  else if word == "else" then plain .elseWord
  else
    match Structure.ofWord? word with
    | none => plain (.name word)
    | some opened =>
        match follows : tail.dropWhile isWordChar with
        | '(' :: rest =>
            ⟨some (.command opened), head :: body ++ ['('], rest, by
              have covered := List.takeWhile_append_dropWhile (p := isWordChar) (l := tail)
              rw [follows] at covered
              simp [body, covered], by simp⟩
        | _ => plain (.name word)

def scanNumeral (head : Char) (tail : List Char) : LexemeScan (head :: tail) :=
  let digits := head :: tail.takeWhile isDigit
  match numeralValue? digits with
  | none => .error ⟨.unreadableNumeral digits, head :: tail⟩
  | some value =>
      .ok ⟨some (.number value), digits, tail.dropWhile isDigit, by simp [digits], by simp [digits]⟩

def scanNumber (head : Char) (tail : List Char) : LexemeScan (head :: tail) :=
  match follows : tail.dropWhile isDigit with
  | [] => scanNumeral head tail
  | separator :: rest =>
      if separator == 'd' || separator == 'D' then
        let source := head :: tail.takeWhile isDigit ++ separator :: rest.takeWhile isDigit
        match Dice.ofText (String.ofList source) with
        | .ok value =>
            .ok ⟨some (.dice value), source, rest.dropWhile isDigit, by
              have covered := List.takeWhile_append_dropWhile (p := isDigit) (l := tail)
              rw [follows] at covered
              simp [source, covered], by simp [source]⟩
        | .error error =>
            match error.fault with
            | .unreadableNumeral digits => .error ⟨.unreadableNumeral digits, head :: tail⟩
            | _ => .error ⟨.badDice (String.ofList source) error, head :: tail⟩
      else scanNumeral head tail

/-- A quoted string after its opening quote, up to and with the closing one. -/
def quotedRun? : (input : List Char) → Option (LiteralRun input)
  | [] => none
  | [head] => if head == '"' then some ⟨[], [head], [], rfl⟩ else none
  | head :: second :: tail =>
      if head == '\\' && (second == '"' || second == '\\') then
        (quotedRun? tail).map fun run =>
          ⟨second :: run.content, head :: second :: run.source, run.rest, by simp [run.split]⟩
      else if head == '"' then some ⟨[], [head], second :: tail, rfl⟩
      else
        (quotedRun? (second :: tail)).map fun run =>
          ⟨head :: run.content, head :: run.source, run.rest, by simp [run.split]⟩

def scanQuoted (head : Char) (tail : List Char) : LexemeScan (head :: tail) :=
  match quotedRun? tail with
  | none => .error ⟨.unterminatedString, head :: tail⟩
  | some run =>
      .ok ⟨some (.quoted (String.ofList run.content)), head :: run.source, run.rest,
        by simp [run.split], by simp⟩

def scanSlash (head : Char) (tail : List Char) : LexemeScan (head :: tail) :=
  match tail with
  | '<' :: rest => .ok ⟨some .floorOver, [head, '<'], rest, rfl, by simp⟩
  | '>' :: rest => .ok ⟨some .ceilingOver, [head, '>'], rest, rfl, by simp⟩
  | _ => .error ⟨.loneSlash, head :: tail⟩

def symbol? : Char → Option Token
  | '+' => some .plus
  | '-' => some .minus
  | '*' => some .times
  | '(' => some .openParen
  | ')' => some .closeParen
  | '$' => some .dollar
  | _ => none

def scanExpression (dialect : Dialect) (head : Char) (tail : List Char) :
    LexemeScan (head :: tail) :=
  if isBlank head then .ok (single none head tail)
  else if head == dialect.closer then .ok (single (some .closing) head tail)
  else if isLetter head || head == '_' then .ok (scanWord head tail)
  else if isDigit head then scanNumber head tail
  else if head == '"' then scanQuoted head tail
  else if head == '/' then scanSlash head tail
  else
    match symbol? head with
    | some token => .ok (single (some token) head tail)
    | none => .error ⟨.unexpectedCharacter head, head :: tail⟩

/-! ### Whole texts -/

structure Piece where
  source : List Char
  token? : Option Token
  deriving DecidableEq, Repr

def insideAfter (inside : Bool) : Option Token → Bool
  | some .opening => true
  | some .closing => false
  | _ => inside

def scanPieces (dialect : Dialect) (inside : Bool) (input : List Char) :
    Except (Stop ProseFault) (List Piece) :=
  match input with
  | [] => if inside then .error ⟨.unterminatedExpression, []⟩ else .ok []
  | head :: tail => do
      let lexeme ←
        if inside then scanExpression dialect head tail else pure (scanText dialect head tail)
      let others ← scanPieces dialect (insideAfter inside lexeme.token?) lexeme.rest
      pure (⟨lexeme.source, lexeme.token?⟩ :: others)
termination_by input.length
decreasing_by exact lexeme.rest_length_lt

/-- The tokens of some pieces with their places, the first piece standing at a given place. -/
def locate (place : Place) : List Piece → List Located
  | [] => []
  | piece :: others =>
      match piece.token? with
      | some token => ⟨token, place⟩ :: locate (place.advance piece.source) others
      | none => locate (place.advance piece.source) others

/-- The tokens of a text, and the place of its end. -/
structure TokenStream where
  tokens : List Located
  finish : Place
  deriving DecidableEq, Repr

def TokenStream.ofText (dialect : Dialect) (text : String) : Except ProseError TokenStream :=
  match scanPieces dialect false text.toList with
  | .ok pieces => .ok ⟨locate Place.start pieces, Place.start.advance text.toList⟩
  | .error stop => .error (stop.fault.at (placeOf text.toList stop.left))

end Bestiary.Prose
