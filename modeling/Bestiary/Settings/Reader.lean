import Bestiary.Document.Reader
import Bestiary.Failure.Report
import Bestiary.Settings.Writer
import Bestiary.Validation.Record

/-!
Reading settings from named values and from an environment.

A setting of the derivation stands in a variable of its own, in a variable
with a double underscore before its name, or in the object that the variable
of all these settings holds. The variables with a double underscore win over
the object, and this over the single variables.
-/

namespace Bestiary

open Document Validation

inductive SettingsFault
  /-- Values that are not as they should be, with the name of the group that was being read. -/
  | invalid (group : String) (first : Issue) (others : List Issue)
  /-- A version of the format that is newer than the one that is read. -/
  | newerVersion (version : Number.Binary64)
  /-- An object in a variable that cannot be read. -/
  | unreadable (field : String)

namespace SettingsFault

def message : SettingsFault → String
  | invalid group _ others =>
      let count := others.length + 1
      "Failed to load application settings: " ++ Number.showInt count ++
        (if count = 1 then " validation error for " else " validation errors for ") ++ group
  | newerVersion version =>
      "format_version (" ++ Number.shortestText version ++
        ") is newer than the supported version (" ++ Number.shortestText formatVersion ++ ")"
  | unreadable field =>
      "Failed to load application settings: error parsing value for field \"" ++ field ++
        "\" from source \"EnvSettingsSource\""

def report (fault : SettingsFault) : Report :=
  match fault with
  | newerVersion _ =>
      .make .configuration fault.message [] [("config_key", .text "format_version")]
  | _ => .make .configuration fault.message [] []

end SettingsFault

namespace DerivationSettings

def fieldNames : List String :=
  ["format_version", "max_include_depth", "challenge_rating_iterations", "strict_expectations"]

def check (fields : Fields) : Checked DerivationSettings :=
  let bounded (high : Int) : Reader Nat := fun input =>
    (Reader.intBetween 1 high input).map Int.toNat
  DerivationSettings.mk
    <$> fields.withDefault "format_version" formatVersion Reader.positiveFloat
    <*> fields.withDefault "max_include_depth" 16 (bounded 64)
    <*> fields.withDefault "challenge_rating_iterations" 8 (bounded 16)
    <*> fields.withDefault "strict_expectations" true Reader.bool

def read (fields : Fields) : Except SettingsFault DerivationSettings :=
  match check fields with
  | .invalid first others => .error (.invalid "DerivationSettings" first others)
  | .valid settings =>
      if formatVersion < settings.version then .error (.newerVersion settings.version)
      else .ok settings

end DerivationSettings

abbrev Environment := List (String × String)

namespace Environment

def start : String := "monster_forge_"

/-- The variables with their names in lower case; of two that then have one name the later one
counts. -/
def normalize (environment : Environment) : Environment :=
  environment.foldl (fun known entry => setEntry known (Text.lower entry.1) entry.2) []

def texts (environment : Environment) (opening : String) (names : List String) : Fields :=
  names.filterMap fun name =>
    (environment.lookup (opening ++ name)).map fun content => (name, .text content)

def after? (opening text : List Char) : Option (List Char) :=
  if opening.isPrefixOf text then some (text.drop opening.length) else none

/-- The part of a name before the first double underscore, and whether there is one. -/
def firstPart : List Char → List Char × Bool
  | [] => ([], false)
  | '_' :: '_' :: _ => ([], true)
  | character :: rest =>
      let (name, divided) := firstPart rest
      (character :: name, divided)

/-- The settings in the variables whose names start with an opening. One that is divided further
holds an object. -/
def nested (environment : Environment) (opening : String) : Fields :=
  environment.foldl (fun known entry =>
    match after? opening.toList entry.1.toList with
    | none => known
    | some rest =>
        let (characters, divided) := firstPart rest
        let name := String.ofList characters
        if divided then
          if (known.lookup name).isSome then known
          else setEntry known name (.object [(name, .text entry.2)])
        else setEntry known name (.text entry.2)) []

/-- The settings of the derivation that are given together, if there are any. -/
def derivationFields (environment : Environment) : Except SettingsFault (Option Value) :=
  let opening := start ++ "derivation"
  let separate := nested environment (opening ++ "__")
  let merged (fields : Fields) : Value :=
    .object (separate.foldl (fun known entry => setEntry known entry.1 entry.2) fields)
  match environment.lookup opening with
  | none => .ok (if separate.isEmpty then none else some (merged []))
  | some text =>
      match Value.ofText text with
      | .error _ => .error (.unreadable "derivation")
      | .ok .null => .ok none
      | .ok (.object fields) => .ok (some (merged fields))
      | .ok other => .ok (some other)

end Environment

namespace Settings

def readLogLevel : Reader LogLevel := fun input =>
  let refuse : Checked LogLevel := .fail (.notLiteral (LogLevel.all.map LogLevel.word)) input
  match input with
  | .text content =>
      match LogLevel.all.find? (·.word == content) with
      | some level => .valid level
      | none => refuse
  | _ => refuse

/-- Check all settings, of which those of the derivation have been checked. -/
def check (fields : Fields) (derivation : Checked DerivationSettings) : Checked Settings :=
  Settings.mk
    <$> fields.withDefault "app_name" "monster-forge" Reader.text
    <*> fields.withDefault "app_version" "0.1.0" Reader.text
    <*> fields.withDefault "debug" false Reader.bool
    <*> fields.withDefault "log_level" .info readLogLevel
    <*> fields.withDefault "log_json" false Reader.bool
    <*> derivation.within "derivation"

/-- The settings of the derivation: those that are given together, and single variables for the
others. -/
def readDerivation (environment : Environment) :
    Except SettingsFault (Checked DerivationSettings) := do
  let single := environment.texts (Environment.start ++ "derivation_") DerivationSettings.fieldNames
  match ← environment.derivationFields with
  | none => Checked.valid <$> DerivationSettings.read single
  | some (.object given) =>
      let fields := given.foldl (fun known entry => setEntry known (Text.lower entry.1) entry.2) single
      match DerivationSettings.read fields with
      | .ok settings => pure (.valid settings)
      | .error (.invalid _ first others) => pure (.invalid first others)
      | .error fault => throw fault
  | some other => pure (.fail (.recordType "DerivationSettings") other)

def ofEnvironment (given : Environment) : Except SettingsFault Settings := do
  let environment := given.normalize
  let derivation ← readDerivation environment
  let fields := environment.texts Environment.start
    ["app_name", "app_version", "debug", "log_level", "log_json"]
  match check fields derivation with
  | .valid settings => pure settings
  | .invalid first others => throw (.invalid "Settings" first others)

end Settings

end Bestiary
