import Bestiary.Document.Value

/-!
Settings: those of the derivation and those of the whole application, and
how they are written as document values.
-/

namespace Bestiary

/-- The version of the format that is read. -/
def formatVersion : Number.Binary64 := Number.doubleOfInt 1

structure DerivationSettings where
  /-- The version that documents must be written for. -/
  version : Number.Binary64 := formatVersion
  /-- How deeply includes may be nested. -/
  maxIncludeDepth : Nat := 16
  /-- How many passes may be taken until the challenge rating settles. -/
  ratingPasses : Nat := 8
  /-- Whether an expectation that is not met is a failure. -/
  strictExpectations : Bool := true

inductive LogLevel
  | debug
  | info
  | warning
  | error
  | critical
  deriving DecidableEq, Repr

namespace LogLevel

def all : List LogLevel := [debug, info, warning, error, critical]

def word : LogLevel → String
  | debug => "DEBUG"
  | info => "INFO"
  | warning => "WARNING"
  | error => "ERROR"
  | critical => "CRITICAL"

end LogLevel

structure Settings where
  appName : String := "monster-forge"
  appVersion : String := "0.1.0"
  debug : Bool := false
  logLevel : LogLevel := .info
  /-- Whether log lines are written as objects. -/
  logJson : Bool := false
  derivation : DerivationSettings := {}

open Document

def DerivationSettings.toValue (settings : DerivationSettings) : Value :=
  .object
    [("format_version", .float settings.version),
      ("max_include_depth", .ofNat settings.maxIncludeDepth),
      ("challenge_rating_iterations", .ofNat settings.ratingPasses),
      ("strict_expectations", .bool settings.strictExpectations)]

def Settings.toValue (settings : Settings) : Value :=
  .object
    [("app_name", .text settings.appName), ("app_version", .text settings.appVersion),
      ("debug", .bool settings.debug), ("log_level", .text settings.logLevel.word),
      ("log_json", .bool settings.logJson), ("derivation", settings.derivation.toValue)]

end Bestiary
