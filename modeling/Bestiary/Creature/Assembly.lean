import Bestiary.Creature.Expectation
import Bestiary.Creature.Inclusion

/-!
Making a creature from a document.

Directives are applied in their order, those of an included document in the
place of the include. What stops an application is told together with the
creature that was reached.
-/

namespace Bestiary

open Document

inductive BuildFault
  | document (source : String) (error : DocumentError)
  /-- A document for other versions of the format than the supported one. -/
  | version (minimum : Number.Binary64) (maximum : Option Number.Binary64)
      (supported : Number.Binary64)
  | inclusion (error : InclusionError)
  /-- A directive that cannot be applied to a creature, which may have a name by then. -/
  | application (creature : Option String) (fault : ApplicationFault)
  | derivation (fault : DerivationFault)
  | expectation (creature : String) (mismatch : Mismatch)

namespace BuildFault

def ofExpectation (creature : String) : ExpectationFault → BuildFault
  | .application fault => .application (some creature) fault
  | .unwritableNumber => .derivation .unwritableNumber

def report? : BuildFault → Option Report
  | document source error => error.report? source
  | version minimum maximum supported =>
      some (.make .unsupportedVersion
        ("The document cannot be loaded with this directive format version (" ++
          Number.shortestText supported ++ ")")
        [("minimum", .float minimum), ("maximum", .ofOption .float maximum)]
        [("supported_version", .float supported)])
  | inclusion error => error.report?
  | application creature fault => some (fault.report creature)
  | derivation fault => fault.report?
  | expectation creature mismatch =>
      if mismatch.isWritable then some (mismatch.report creature) else none

end BuildFault

/-- What stopped the application of directives, and the creature that was reached. -/
structure Halt where
  fault : BuildFault
  reached : Creature

def versionInRange (minimum : Number.Binary64) (maximum : Option Number.Binary64)
    (version : Number.Binary64) : Bool :=
  !decide (version < minimum) &&
    match maximum with
    | none => true
    | some last => !decide (last < version)

/-- What a change of the creature comes to. Where it stops, it is told how far it got. -/
def Change.carryOut (change : Change Unit) (creature : Creature) : Except Halt Creature :=
  match change.run creature with
  | .ok _ changed => .ok changed
  | .error fault reached => .error ⟨.application reached.name fault, reached⟩

namespace BuildContext

/-- Apply one directive. The directives of an included document are handed on together with its
reference. -/
def applyStep (context : BuildContext) (chain : List String) (room : Nat)
    (enter : String → List Directive → Creature → Except Halt Creature) (creature : Creature) :
    Directive → Except Halt Creature
  | .version minimum maximum =>
      let supported := context.settings.version
      if versionInRange minimum maximum supported then .ok creature
      else .error ⟨.version minimum maximum supported, creature⟩
  | .inclusion reference arguments =>
      match context.openInclude chain room reference arguments with
      | .ok included => enter reference included creature
      | .error error => .error ⟨.inclusion error, creature⟩
  | directive => (Change.ofDirective directive).carryOut creature

/-- Apply directives in order, in a chain with room for some more references. -/
def applyAll (context : BuildContext) :
    Nat → List String → List Directive → Creature → Except Halt Creature
  | 0, chain, directives, creature =>
      directives.foldlM (context.applyStep chain 0 fun _ _ reached => .ok reached) creature
  | room + 1, chain, directives, creature =>
      directives.foldlM
        (context.applyStep chain (room + 1) fun reference included =>
          context.applyAll room (chain ++ [reference]) included)
        creature

def rootChain (reference : Option String) : List String :=
  (presentText? reference).toList

def sourceName (reference : Option String) : String :=
  (presentText? reference).getD "<document>"

def load (reference : Option String) (form : DocumentForm) : Except BuildFault (List Directive) :=
  form.read.mapError (.document (sourceName reference))

def assemble (context : BuildContext) (reference : Option String) (form : DocumentForm) :
    Except BuildFault Creature := do
  let directives ← load reference form
  (context.applyAll context.settings.maxIncludeDepth (rootChain reference) directives {}).mapError
    Halt.fault

def derive (context : BuildContext) (creature : Creature) : Except BuildFault DerivedCreature :=
  (creature.derive context.settings.ratingPasses).mapError .derivation

/-- The expectations that a creature does not meet; if these are strict, the first of them is a
fault. -/
def mismatches (strict : Bool) (built : DerivedCreature) : Except BuildFault (List Mismatch) :=
  built.checks.foldlM (fun found check => do
    match ← check.mapError (.ofExpectation built.name) with
    | none => pure found
    | some mismatch =>
        if strict then throw (.expectation built.name mismatch) else pure (found ++ [mismatch])) []

def build (context : BuildContext) (reference : Option String) (form : DocumentForm) :
    Except BuildFault DerivedCreature := do
  let creature ← context.assemble reference form
  let built ← context.derive creature
  let _ ← mismatches context.settings.strictExpectations built
  pure built

end BuildContext

/-- What there is to say about a document. -/
structure Verdict where
  errors : List String
  warnings : List String
  challengeRating : Option Rating
  deriving DecidableEq, Repr

namespace Verdict

def valid (verdict : Verdict) : Bool := verdict.errors.isEmpty

/-- The verdict on a document with a fault; a fault without a report is passed on. -/
def reject (warnings : List String) (fault : BuildFault) : Except BuildFault Verdict :=
  match fault.report? with
  | some report => .ok ⟨[report.text], warnings, none⟩
  | none => .error fault

end Verdict

namespace Creature

def placeholderName : String := "creature"

/-- A creature with a name in any case. -/
def withSomeName (creature : Creature) : Creature :=
  { creature with name := some (creature.name.getD placeholderName) }

end Creature

namespace BuildContext

/-- Derive a creature and find the expectations that it does not meet. -/
def appraise (context : BuildContext) (creature : Creature) :
    Except BuildFault (DerivedCreature × List Mismatch) := do
  let built ← context.derive creature
  let found ← mismatches false built
  pure (built, found)

/-- Judge a document. A missing name and expectations that are not met are warnings. -/
def validate (context : BuildContext) (reference : Option String) (form : DocumentForm) :
    Except BuildFault Verdict :=
  match context.assemble reference form with
  | .error fault => Verdict.reject [] fault
  | .ok creature =>
      let warnings := if creature.name.isNone then ["Creature has no name"] else []
      match context.appraise creature.withSomeName with
      | .error fault => Verdict.reject warnings fault
      | .ok (built, found) =>
          .ok ⟨[], warnings ++ found.map Mismatch.message, some built.derived.challengeRating⟩

end BuildContext

/-- A directive of a document, with the creature before and after it. -/
structure Stage where
  directive : Directive
  before : Creature
  after : Creature
  fault : Option BuildFault

namespace BuildContext

/-- The stages of applying directives one by one, up to the first that fails. -/
def stages (context : BuildContext) (chain : List String) : List Directive → Creature → List Stage
  | [], _ => []
  | directive :: others, creature =>
      match context.applyAll context.settings.maxIncludeDepth chain [directive] creature with
      | .ok after => ⟨directive, creature, after, none⟩ :: context.stages chain others after
      | .error halt => [⟨directive, creature, halt.reached, some halt.fault⟩]

end BuildContext

end Bestiary
