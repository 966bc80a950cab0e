import Bestiary.Creature.ChallengeRating
import Bestiary.Creature.Magic
import Bestiary.Creature.Statistics
import Bestiary.Document.Value
import Bestiary.Prose.Interpolation
import Bestiary.Prose.Report

/-!
Derivation: what the directives leave implicit, and the texts of a creature
with the values of their expressions filled in.
-/

namespace Bestiary

open Document Prose

structure NamedText where
  name : String
  text : StructuredText
  deriving DecidableEq, Repr

/-- The statistics and texts that follow from a creature. -/
structure Derived where
  challengeRating : Rating
  proficiency : Int
  armorClass : Int
  armorDescription : Option String
  hitDice : Dice
  hitPoints : Int
  features : List NamedText
  actions : List NamedText
  reactions : List NamedText
  legendaryIntroduction : Option StructuredText
  legendaryActions : List NamedText
  deriving DecidableEq, Repr

/-- A creature that has a name, with what follows from it. -/
structure DerivedCreature where
  creature : Creature
  name : String
  named : creature.name = some name
  derived : Derived

inductive DerivationFault
  | noName
  /-- A text of a creature that cannot be interpolated. -/
  | text (creature entry : String) (error : ProseError)
  /-- A generated text with a number that has more digits than can be written. -/
  | unwritableNumber

namespace DerivationFault

def message : DerivationFault → String
  | noName => "Creature has no name"
  | text _ entry error =>
      "Text of '" ++ entry ++ "' could not be interpolated: " ++ error.fault.message
  | unwritableNumber => Number.unwritableMessage

/-- The report of a fault. A fault in a text has one if it has one by itself; a number that cannot
be written has none. -/
def report? (fault : DerivationFault) : Option Report :=
  match fault with
  | noName => some (.make .missingName fault.message [] [])
  | text creature entry error =>
      if !error.fault.isReported then none
      else
        let number (part : Text.Place → Nat) : Value := .ofOption (.ofNat ∘ part) error.place?
        some (.make .featureText fault.message [("creature", .text creature)]
          (("feature", .text entry) ::
            causeArguments (.text error.fault.code) (number Text.Place.line)
              (number Text.Place.column)))
  | unwritableNumber => none

end DerivationFault

/-- What only a derived creature can be used for. -/
inductive DerivedUse
  | freezing
  | projection
  deriving DecidableEq, Repr

namespace DerivedUse

def word : DerivedUse → String
  | freezing => "freezing"
  | projection => "projection"

def refusal (creature : Creature) (use : DerivedUse) : Report :=
  .make .creature ("Creature must be derived before " ++ use.word) []
    [("creature", .ofOption .text creature.name)]

end DerivedUse

structure EntryDraft where
  name : String
  body : String
  /-- Whether every number in the body can be written. -/
  writable : Bool := true
  usage : Option Usage := none
  /-- What the entry costs, if that is noted. -/
  cost : Option String := none
  heading : Structure := .paragraph

namespace EntryDraft

def headingText (draft : EntryDraft) : String :=
  let notes := (draft.usage.map Usage.label).toList ++ draft.cost.toList
  escapeText draft.name ++
    (if notes.isEmpty then "" else " (" ++ String.intercalate "; " notes ++ ")") ++ "."

def source (draft : EntryDraft) : String :=
  structureMarkup draft.heading draft.headingText ++ draft.body

end EntryDraft

def creatureManner : Manner := { breaks := true, capitalize := true }

def interpolateEntry (creature entry : String) (scope : List (String × ProseValue))
    (text : String) : Except DerivationFault StructuredText :=
  (interpolate creatureManner (scope.map fun (name, content) => (name, .value content))
    text).mapError (.text creature entry)

def EntryDraft.finish (creature : String) (scope : List (String × ProseValue))
    (draft : EntryDraft) : Except DerivationFault NamedText :=
  if draft.writable then do
    let text ← interpolateEntry creature draft.name scope draft.source
    pure ⟨draft.name, text⟩
  else .error .unwritableNumber

/-- A text, unless it is missing or empty. -/
def presentText? : Option String → Option String
  | some "" => none
  | other => other

namespace Creature

/-- The entry of a feature or a reaction. -/
def featureDraft (entry : NamedEntry) : EntryDraft where
  name := entry.name
  body := entry.description
  usage := entry.usage

/-- The entries of the features; those about spells stand last. -/
def featureDrafts (creature : Creature) : List EntryDraft :=
  creature.features.map featureDraft ++
  (creature.innateSpellcasting.map fun casting =>
    { name := "Innate Spellcasting", body := casting.describe : EntryDraft }).toList ++
  (creature.spellcasting.map fun casting =>
    { name := "Spellcasting", body := casting.describe : EntryDraft }).toList

/-- The text of an action: the authored one, or else the generated one. -/
def actionBody (creature : Creature) (action : Action) : String :=
  (presentText? action.description? <|> action.strike?.map (Strike.describe creature.size)).getD ""

/-- Whether the text of an action can be written; an authored one always can. -/
def actionIsWritable (creature : Creature) (action : Action) : Bool :=
  (presentText? action.description?).isSome ||
    action.strike?.all (Strike.isWritable creature.size)

def actionDraft (creature : Creature) (action : Action) : EntryDraft where
  name := action.name
  body := creature.actionBody action
  writable := creature.actionIsWritable action
  usage := action.usage

/-- The entry of the multiattack, if there is one. None is generated unless the effects of all its
parts can be told, even if there are not enough of them. -/
def multiattackDraft? (creature : Creature) : Option EntryDraft :=
  match presentText? creature.multiattackDescription with
  | some authored => some { name := "Multiattack", body := authored }
  | none =>
      if creature.multiattackParts.all Action.tellsEffect then
        creature.multiattackText?.map fun generated =>
          { name := "Multiattack", body := generated
            writable := Number.isWritable creature.multiattackTotal }
      else some { name := "Multiattack", body := "", writable := false }

/-- The entries of the actions; that of the multiattack stands first. -/
def actionDrafts (creature : Creature) : List EntryDraft :=
  creature.multiattackDraft?.toList ++ creature.actions.map creature.actionDraft

def legendaryDraft (action : LegendaryAction) : EntryDraft where
  name := action.name
  body := action.description
  cost := if 1 < action.cost then some ("Costs " ++ Number.showInt action.cost ++ " Actions") else none
  heading := .subParagraph

def legendaryIntroduction (creature : Creature) : String :=
  (presentText? creature.legendaryDescription).getD
    (expressionMarkup "Subj" ++ " can take " ++ Wording.numberWord creature.legendaryActionCount ++
      " legendary actions, choosing from the options below. " ++
      "Only one legendary action can be used at a time and only at the end of another " ++
      "creature's turn. " ++ expressionMarkup "Subj" ++
      " regains spent legendary actions at the start of " ++ expressionMarkup "posspro" ++ " turn.")

/-- The rating: the one that was given, or the computed one. -/
def rating (creature : Creature) (passes : Nat) : Rating :=
  creature.challengeRatingOverride.getD (creature.computeRating passes)

def findRating (creature : Creature) (passes : Nat) : Except DerivationFault Rating :=
  if creature.challengeRatingOverride.isSome || creature.actions.all Action.tellsEffect then
    .ok (creature.rating passes)
  else .error .unwritableNumber

def deriveNamed (name : String) (passes : Nat) (creature : Creature) :
    Except DerivationFault Derived := do
  let rating ← creature.findRating passes
  let scope := creature.proseVariables rating.proficiency
  let finish := EntryDraft.finish name scope
  let features ← creature.featureDrafts.mapM finish
  let actions ← creature.actionDrafts.mapM finish
  let reactions ← (creature.reactions.map featureDraft).mapM finish
  let introduction ←
    if creature.legendaryActions.isEmpty then pure none
    else some <$> interpolateEntry name "Legendary Actions" scope creature.legendaryIntroduction
  let legendaryActions ← (creature.legendaryActions.map legendaryDraft).mapM finish
  pure
    { challengeRating := rating
      proficiency := rating.proficiency
      armorClass := creature.armorClass.1
      armorDescription := creature.armorClass.2
      hitDice := creature.hitDice
      hitPoints := creature.hitPoints
      features := features
      actions := actions
      reactions := reactions
      legendaryIntroduction := introduction
      legendaryActions := legendaryActions }

/-- Derive a creature; it must have a name. -/
def derive (passes : Nat) (creature : Creature) : Except DerivationFault DerivedCreature :=
  match named : creature.name with
  | none => .error .noName
  | some name => do
      let derived ← creature.deriveNamed name passes
      pure ⟨creature, name, named, derived⟩

end Creature

end Bestiary
