import Bestiary.Document.Value

/-!
Failure reports: a kind, a message, and details in a fixed order.

Details that a caller supplies stand first; each kind then records its own
arguments in the order listed here, the inherited ones last. A detail that is
recorded again keeps its place and takes the new content.
-/

namespace Bestiary

open Document

inductive FailureKind
  | general
  | malformedInput
  | diceNotation
  | diceTerm
  | dieFace
  | diceExpression
  | directiveSyntax
  | interpolation
  | creature
  | missingName
  | invalidDirective
  | unsupportedVersion
  | inclusion
  | inclusionCycle
  | missingAction
  | missingWeapon
  | ratingMismatch
  | weaponMismatch
  | featureText
  | configuration
  deriving DecidableEq, Repr

namespace FailureKind

def all : List FailureKind :=
  [general, malformedInput, diceNotation, diceTerm, dieFace, diceExpression, directiveSyntax,
    interpolation, creature, missingName, invalidDirective, unsupportedVersion, inclusion,
    inclusionCycle, missingAction, missingWeapon, ratingMismatch, weaponMismatch, featureText,
    configuration]

def name : FailureKind → String
  | general => "MonsterForgeError"
  | malformedInput => "ParseError"
  | diceNotation => "DiceNotationError"
  | diceTerm => "ParseDiceError"
  | dieFace => "InvalidDieFaceError"
  | diceExpression => "ParseDiceExpressionError"
  | directiveSyntax => "DirectiveSyntaxError"
  | interpolation => "InterpolationError"
  | creature => "CreatureError"
  | missingName => "CreatureHasNoNameError"
  | invalidDirective => "InvalidDirectiveError"
  | unsupportedVersion => "VersionNotSupportedError"
  | inclusion => "IncludeError"
  | inclusionCycle => "IncludeCycleError"
  | missingAction => "ActionNotFoundError"
  | missingWeapon => "WeaponNotFoundError"
  | ratingMismatch => "ChallengeRatingNotAsExpectedError"
  | weaponMismatch => "WeaponNotAsExpectedError"
  | featureText => "FeatureInterpolationError"
  | configuration => "ConfigurationError"

/-- The more general kinds that a kind belongs to, nearest first. -/
def ancestors : FailureKind → List FailureKind
  | general => []
  | malformedInput | interpolation | creature | configuration => [general]
  | diceNotation | directiveSyntax => [malformedInput, general]
  | diceTerm | diceExpression => [diceNotation, malformedInput, general]
  | dieFace => [diceTerm, diceNotation, malformedInput, general]
  | missingName | invalidDirective | unsupportedVersion | inclusion | missingAction
  | ratingMismatch | weaponMismatch | featureText => [creature, general]
  | inclusionCycle => [inclusion, creature, general]
  | missingWeapon => [missingAction, creature, general]

/-- When an argument is recorded among the details. -/
inductive Recording
  /-- Whenever it is supplied, even as null. -/
  | always
  /-- Unless it is null. -/
  | unlessNull
  /-- Unless it is null, empty, zero or false. -/
  | whenTruthy

/-- An argument of a kind and the detail it becomes. -/
structure Argument where
  name : String
  detail : String
  recording : Recording

private def sharedCreature : Argument := ⟨"creature", "creature", .whenTruthy⟩

def arguments : FailureKind → List Argument
  | general | malformedInput => []
  | diceNotation | diceTerm | dieFace | diceExpression =>
      [⟨"expression", "expression", .unlessNull⟩, ⟨"position", "position", .unlessNull⟩]
  | directiveSyntax => [⟨"source", "source", .whenTruthy⟩, ⟨"index", "index", .unlessNull⟩]
  | interpolation =>
      [⟨"kind", "kind", .always⟩, ⟨"line", "line", .unlessNull⟩,
        ⟨"column", "column", .unlessNull⟩, ⟨"context_label", "context", .whenTruthy⟩]
  | creature | missingName => [sharedCreature]
  | invalidDirective =>
      [⟨"directive", "directive", .whenTruthy⟩, ⟨"invalid_value", "invalid_value", .unlessNull⟩,
        sharedCreature]
  | unsupportedVersion =>
      [⟨"supported_version", "supported_version", .unlessNull⟩, sharedCreature]
  | inclusion | inclusionCycle =>
      [⟨"reference", "reference", .whenTruthy⟩, ⟨"chain", "chain", .whenTruthy⟩, sharedCreature]
  | missingAction | missingWeapon => [⟨"action", "action", .whenTruthy⟩, sharedCreature]
  | ratingMismatch =>
      [⟨"expected", "expected", .unlessNull⟩, ⟨"actual", "actual", .unlessNull⟩, sharedCreature]
  | weaponMismatch =>
      [⟨"weapon", "weapon", .whenTruthy⟩, ⟨"aspect", "aspect", .whenTruthy⟩, sharedCreature]
  | featureText =>
      [⟨"feature", "feature", .whenTruthy⟩, ⟨"kind", "kind", .always⟩, ⟨"line", "line", .always⟩,
        ⟨"column", "column", .always⟩, sharedCreature]
  | configuration => [⟨"config_key", "config_key", .whenTruthy⟩]

def Recording.admits : Recording → Value → Bool
  | always, _ => true
  | unlessNull, .null => false
  | unlessNull, _ => true
  | whenTruthy, value => value.isTruthy

end FailureKind

structure Report where
  kind : FailureKind
  message : String
  details : List (String × Value)

namespace Report

def record (supplied : List (String × Value)) (details : List (String × Value))
    (argument : FailureKind.Argument) : List (String × Value) :=
  match supplied.lookup argument.name with
  | none => details
  | some value =>
      if argument.recording.admits value then setEntry details argument.detail value
      else details

/-- A report of a kind: the given details first, then the arguments of the kind. -/
def make (kind : FailureKind) (message : String) (details : List (String × Value))
    (supplied : List (String × Value)) : Report :=
  ⟨kind, message, kind.arguments.foldl (record supplied) details⟩

/-- The message, and the details in brackets when there are any. -/
def text (report : Report) : String :=
  if report.details.isEmpty then report.message
  else
    report.message ++ " [" ++
      String.intercalate ", " (report.details.map fun detail => detail.1 ++ "=" ++ detail.2.shown) ++
      "]"

def shown (report : Report) : String :=
  report.kind.name ++ "(message=" ++ Text.quoted report.message ++ ", details=" ++
    (Value.object report.details).shown ++ ")"


end Report

/-- What the cause of a failed text adds to a report; a line brings its column, known or not. -/
def causeArguments (kind line column : Value) : List (String × Value) :=
  match line with
  | .null => [("kind", kind)]
  | known => [("kind", kind), ("line", known), ("column", column)]

end Bestiary
