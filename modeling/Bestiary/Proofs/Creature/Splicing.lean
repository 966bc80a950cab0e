import Bestiary.Proofs.Creature.Change
import Bestiary.Proofs.Creature.Expectation
import Bestiary.Proofs.Directive.Validated

/-!
Includes are splicing.

A document with includes says what it would say with each of them replaced, in
its place, by the directives of the document that it names. Applying those
directives reaches the same creature, or stops at the same fault: a directive
that is not an include does not depend on the chain that it stands in.
-/

namespace Bestiary

def Directive.isInclusion : Directive → Bool
  | inclusion _ _ => true
  | _ => false

theorem Directive.eq_inclusion {directive : Directive} (includes : directive.isInclusion = true) :
    ∃ reference arguments, directive = .inclusion reference arguments := by
  cases directive with
  | inclusion reference arguments => exact ⟨reference, arguments, rfl⟩
  | _ => cases includes

theorem Directive.eq_version {directive : Directive} (versions : directive.isVersion = true) :
    ∃ minimum maximum, directive = .version minimum maximum := by
  cases directive with
  | version minimum maximum => exact ⟨minimum, maximum, rfl⟩
  | _ => cases versions

namespace BuildContext

variable {context : BuildContext}

/-- The directives that a directive stands for, in a chain with room for some more references.
An include that cannot be opened stands for itself. -/
def expand (context : BuildContext) : Nat → List String → Directive → List Directive
  | room + 1, chain, .inclusion reference arguments =>
      match context.openInclude chain (room + 1) reference arguments with
      | .ok included => included.flatMap (context.expand room (chain ++ [reference]))
      | .error _ => [.inclusion reference arguments]
  | _, _, directive => [directive]

def splice (context : BuildContext) (room : Nat) (chain : List String)
    (directives : List Directive) : List Directive :=
  directives.flatMap (context.expand room chain)

/-- Directives of which every include can be opened, and every include of its document. -/
inductive EveryIncludeOpens (context : BuildContext) :
    Nat → List String → List Directive → Prop
  | finish {room : Nat} {chain : List String} :
      EveryIncludeOpens context room chain []
  | plain {room : Nat} {chain : List String} {directive : Directive} {others : List Directive} :
      directive.isInclusion = false →
      EveryIncludeOpens context room chain others →
      EveryIncludeOpens context room chain (directive :: others)
  | opened {room : Nat} {chain : List String} {reference : String}
      {arguments : List (String × IncludeArgument)} {included others : List Directive} :
      context.openInclude chain (room + 1) reference arguments = .ok included →
      EveryIncludeOpens context room (chain ++ [reference]) included →
      EveryIncludeOpens context (room + 1) chain others →
      EveryIncludeOpens context (room + 1) chain (.inclusion reference arguments :: others)

/-! ### Applying directives one by one -/

theorem applyAll_nil (room : Nat) (chain : List String) (creature : Creature) :
    context.applyAll room chain [] creature = .ok creature := by
  cases room <;> rfl

theorem applyAll_append (room : Nat) (chain : List String) (first second : List Directive)
    (creature : Creature) :
    context.applyAll room chain (first ++ second) creature =
      context.applyAll room chain first creature >>= fun reached =>
        context.applyAll room chain second reached := by
  cases room with
  | zero => exact List.foldlM_append
  | succ room => exact List.foldlM_append

theorem applyAll_cons (room : Nat) (chain : List String) (directive : Directive)
    (others : List Directive) (creature : Creature) :
    context.applyAll room chain (directive :: others) creature =
      context.applyAll room chain [directive] creature >>= fun reached =>
        context.applyAll room chain others reached :=
  applyAll_append room chain [directive] others creature

theorem applyStep_plain {directive : Directive} (plain : directive.isInclusion = false)
    (chain chain' : List String) (room room' : Nat)
    (enter enter' : String → List Directive → Creature → Except Halt Creature)
    (creature : Creature) :
    context.applyStep chain room enter creature directive =
      context.applyStep chain' room' enter' creature directive := by
  cases directive <;> first | rfl | cases plain

theorem carryOut_eq {change : Change Unit} (atomic : change.IsAtomic) (creature : Creature) :
    change.carryOut creature =
      (change.outcome creature).mapError fun fault =>
        ⟨.application creature.name fault, creature⟩ := by
  rw [Change.carryOut, Change.outcome]
  cases run : change.run creature with
  | ok value changed => rfl
  | error fault reached =>
      obtain rfl := atomic creature fault reached run
      rfl

theorem applyStep_acting {directive : Directive} (plain : directive.isInclusion = false)
    (unversioned : directive.isVersion = false) (chain : List String) (room : Nat)
    (enter : String → List Directive → Creature → Except Halt Creature) (creature : Creature) :
    context.applyStep chain room enter creature directive =
      (creature.apply directive).mapError fun fault =>
        ⟨.application creature.name fault, creature⟩ := by
  have acting : context.applyStep chain room enter creature directive =
      (Change.ofDirective directive).carryOut creature := by
    cases directive with
    | version minimum maximum => cases unversioned
    | inclusion reference arguments => cases plain
    | _ => rfl
  rw [acting, carryOut_eq (Change.isAtomic_ofDirective directive), Creature.apply]

theorem applyAll_single (room : Nat) (chain : List String) (directive : Directive)
    (creature : Creature) :
    ∃ enter, context.applyAll room chain [directive] creature =
      context.applyStep chain room enter creature directive := by
  cases room with
  | zero => exact ⟨_, bind_pure _⟩
  | succ room => exact ⟨_, bind_pure _⟩

theorem applyAll_plain {directive : Directive} (plain : directive.isInclusion = false)
    (room room' : Nat) (chain chain' : List String) (creature : Creature) :
    context.applyAll room chain [directive] creature =
      context.applyAll room' chain' [directive] creature := by
  obtain ⟨enter, single⟩ := context.applyAll_single room chain directive creature
  obtain ⟨enter', single'⟩ := context.applyAll_single room' chain' directive creature
  rw [single, single']
  exact applyStep_plain plain chain chain' room room' enter enter' creature

theorem applyAll_opened {room : Nat} {chain : List String} {reference : String}
    {arguments : List (String × IncludeArgument)} {included : List Directive}
    (opened : context.openInclude chain (room + 1) reference arguments = .ok included)
    (creature : Creature) :
    context.applyAll (room + 1) chain [.inclusion reference arguments] creature =
      context.applyAll room (chain ++ [reference]) included creature := by
  rw [applyAll, List.foldlM_cons, applyStep, opened]
  exact bind_pure _

theorem applyAll_unopened {room : Nat} {chain : List String} {reference : String}
    {arguments : List (String × IncludeArgument)} {error : InclusionError}
    (unopened : context.openInclude chain room reference arguments = .error error)
    (creature : Creature) :
    context.applyAll room chain [.inclusion reference arguments] creature =
      .error ⟨.inclusion error, creature⟩ := by
  obtain ⟨enter, single⟩ :=
    context.applyAll_single room chain (.inclusion reference arguments) creature
  rw [single, applyStep, unopened]

theorem openInclude_zero (chain : List String) (reference : String)
    (arguments : List (String × IncludeArgument)) :
    ∃ error, context.openInclude chain 0 reference arguments = .error error := by
  unfold openInclude findIncluded
  by_cases cyclic : chain.contains reference = true
  · rw [if_pos cyclic]
    exact ⟨_, rfl⟩
  · rw [if_neg cyclic, if_pos rfl]
    exact ⟨_, rfl⟩

/-! ### Expanding directives -/

theorem expand_plain {directive : Directive} (plain : directive.isInclusion = false)
    (room : Nat) (chain : List String) : context.expand room chain directive = [directive] := by
  unfold expand
  split
  · cases plain
  · rfl

theorem expand_opened {room : Nat} {chain : List String} {reference : String}
    {arguments : List (String × IncludeArgument)} {included : List Directive}
    (opened : context.openInclude chain (room + 1) reference arguments = .ok included) :
    context.expand (room + 1) chain (.inclusion reference arguments) =
      context.splice room (chain ++ [reference]) included := by
  rw [expand, opened]
  rfl

theorem splice_cons (room : Nat) (chain : List String) (directive : Directive)
    (others : List Directive) :
    context.splice room chain (directive :: others) =
      context.expand room chain directive ++ context.splice room chain others :=
  rfl

theorem EveryIncludeOpens.splice_plain {room : Nat} {chain : List String}
    {directives : List Directive} (opens : context.EveryIncludeOpens room chain directives) :
    ∀ directive ∈ context.splice room chain directives, directive.isInclusion = false := by
  induction opens with
  | finish =>
      intro directive member
      cases member
  | @plain room chain first others plain _ ih =>
      intro directive member
      rw [splice_cons, expand_plain plain] at member
      rcases List.mem_append.mp member with isFirst | inOthers
      · rw [List.mem_singleton.mp isFirst]
        exact plain
      · exact ih directive inOthers
  | opened opens _ _ ihIncluded ihOthers =>
      intro directive member
      rw [splice_cons, expand_opened opens] at member
      rcases List.mem_append.mp member with inIncluded | inOthers
      · exact ihIncluded directive inIncluded
      · exact ihOthers directive inOthers

def opensFully (context : BuildContext) : Nat → List String → Directive → Bool
  | room + 1, chain, .inclusion reference arguments =>
      match context.openInclude chain (room + 1) reference arguments with
      | .ok included => included.all (context.opensFully room (chain ++ [reference]))
      | .error _ => false
  | _, _, directive => !directive.isInclusion

theorem opensFully_plain {directive : Directive} (plain : directive.isInclusion = false)
    (room : Nat) (chain : List String) : context.opensFully room chain directive = true := by
  unfold opensFully
  split
  · cases plain
  · rw [plain]
    rfl

theorem EveryIncludeOpens.all_opensFully {room : Nat} {chain : List String}
    {directives : List Directive} (opens : context.EveryIncludeOpens room chain directives) :
    directives.all (context.opensFully room chain) = true := by
  induction opens with
  | finish => rfl
  | plain isPlain _ ih => rw [List.all_cons, opensFully_plain isPlain, ih, Bool.and_true]
  | opened opens _ _ ihIncluded ihOthers =>
      rw [List.all_cons, ihOthers, Bool.and_true, opensFully, opens]
      exact ihIncluded

theorem everyIncludeOpens_of_all {room : Nat} {chain : List String} {directives : List Directive}
    (opens : directives.all (context.opensFully room chain) = true) :
    context.EveryIncludeOpens room chain directives := by
  induction room generalizing chain directives with
  | zero =>
      induction directives with
      | nil => exact .finish
      | cons directive others ih =>
          rw [List.all_cons, Bool.and_eq_true] at opens
          have plain : directive.isInclusion = false := by
            simpa [opensFully] using opens.1
          exact .plain plain (ih opens.2)
  | succ room ihRoom =>
      induction directives with
      | nil => exact .finish
      | cons directive others ih =>
          rw [List.all_cons, Bool.and_eq_true] at opens
          cases kind : directive.isInclusion with
          | false => exact .plain kind (ih opens.2)
          | true =>
              obtain ⟨reference, arguments, rfl⟩ := Directive.eq_inclusion kind
              have opensFirst := opens.1
              rw [opensFully] at opensFirst
              split at opensFirst
              · rename_i included found
                exact .opened found (ihRoom opensFirst) (ih opens.2)
              · cases opensFirst

instance (room : Nat) (chain : List String) (directives : List Directive) :
    Decidable (context.EveryIncludeOpens room chain directives) :=
  decidable_of_iff (directives.all (context.opensFully room chain) = true)
    ⟨everyIncludeOpens_of_all, EveryIncludeOpens.all_opensFully⟩

/-! ### Includes that cannot be opened -/

def Unhindered (outcome : Except Halt Creature) : Prop :=
  ∀ halt, outcome = .error halt → ∀ error, halt.fault ≠ .inclusion error

theorem Unhindered.first {outcome : Except Halt Creature}
    {next : Creature → Except Halt Creature} (unhindered : Unhindered (outcome >>= next)) :
    Unhindered outcome := by
  intro halt stopped
  rw [stopped] at unhindered
  exact unhindered halt rfl

theorem Unhindered.bind {outcome : Except Halt Creature} {next : Creature → Except Halt Creature}
    (first : Unhindered outcome) (others : ∀ reached, Unhindered (next reached)) :
    Unhindered (outcome >>= next) := by
  cases outcome with
  | error halt => exact first
  | ok reached => exact others reached

theorem unhindered_ok (creature : Creature) : Unhindered (.ok creature) := by
  intro halt impossible
  cases impossible

theorem applyStep_plain_unhindered {directive : Directive}
    (plain : directive.isInclusion = false) (chain : List String) (room : Nat)
    (enter : String → List Directive → Creature → Except Halt Creature) (creature : Creature) :
    Unhindered (context.applyStep chain room enter creature directive) := by
  intro halt stopped error
  cases versions : directive.isVersion with
  | true =>
      obtain ⟨minimum, maximum, rfl⟩ := Directive.eq_version versions
      simp only [applyStep] at stopped
      split at stopped
      · cases stopped
      · cases stopped
        exact BuildFault.noConfusion
  | false =>
      rw [applyStep_acting plain versions] at stopped
      obtain ⟨fault, _, rfl⟩ := mapError_eq_error.mp stopped
      exact BuildFault.noConfusion

theorem EveryIncludeOpens.unhindered {room : Nat} {chain : List String}
    {directives : List Directive} (opens : context.EveryIncludeOpens room chain directives)
    (creature : Creature) : Unhindered (context.applyAll room chain directives creature) := by
  induction opens generalizing creature with
  | finish =>
      rw [applyAll_nil]
      exact unhindered_ok creature
  | @plain room chain directive others plain _ ih =>
      obtain ⟨enter, single⟩ := context.applyAll_single room chain directive creature
      rw [applyAll_cons, single]
      exact (applyStep_plain_unhindered plain chain room enter creature).bind ih
  | opened opens _ _ ihIncluded ihOthers =>
      rw [applyAll_cons, applyAll_opened opens]
      exact (ihIncluded creature).bind ihOthers

/-! ### Applying what directives stand for -/

theorem applyAll_flatMap {room room' : Nat} {chain chain' : List String}
    {expansion : Directive → List Directive}
    (each : ∀ directive creature, Unhindered (context.applyAll room chain [directive] creature) →
      context.applyAll room' chain' (expansion directive) creature =
        context.applyAll room chain [directive] creature)
    (directives : List Directive) {creature : Creature}
    (unhindered : Unhindered (context.applyAll room chain directives creature)) :
    context.applyAll room' chain' (directives.flatMap expansion) creature =
      context.applyAll room chain directives creature := by
  induction directives generalizing creature with
  | nil => exact (applyAll_nil room' chain' creature).trans (applyAll_nil room chain creature).symm
  | cons directive others ih =>
      rw [applyAll_cons] at unhindered
      rw [List.flatMap_cons, applyAll_append, applyAll_cons room chain,
        each directive creature unhindered.first]
      cases outcome : context.applyAll room chain [directive] creature with
      | error halt => rfl
      | ok reached =>
          rw [outcome] at unhindered
          exact ih unhindered

/-- A directive and what it stands for are applied alike, unless an include cannot be opened. -/
theorem applyAll_expand (room : Nat) (chain : List String) (room' : Nat) (chain' : List String)
    (directive : Directive) (creature : Creature)
    (unhindered : Unhindered (context.applyAll room chain [directive] creature)) :
    context.applyAll room' chain' (context.expand room chain directive) creature =
      context.applyAll room chain [directive] creature := by
  -- By the room: what an include brings in is expanded with one reference less to spare.
  induction room generalizing chain directive creature with
  | zero =>
      cases kind : directive.isInclusion with
      | false =>
          rw [expand_plain kind]
          exact applyAll_plain kind room' 0 chain' chain creature
      | true =>
          obtain ⟨reference, arguments, rfl⟩ := Directive.eq_inclusion kind
          obtain ⟨error, unopened⟩ := context.openInclude_zero chain reference arguments
          exact (unhindered _ (applyAll_unopened unopened creature) error rfl).elim
  | succ room ih =>
      cases kind : directive.isInclusion with
      | false =>
          rw [expand_plain kind]
          exact applyAll_plain kind room' (room + 1) chain' chain creature
      | true =>
          obtain ⟨reference, arguments, rfl⟩ := Directive.eq_inclusion kind
          cases opened : context.openInclude chain (room + 1) reference arguments with
          | error error =>
              exact (unhindered _ (applyAll_unopened opened creature) error rfl).elim
          | ok included =>
              rw [applyAll_opened opened] at unhindered ⊢
              rw [expand_opened opened]
              exact applyAll_flatMap (ih (chain ++ [reference])) included unhindered

theorem applyAll_splice (room : Nat) (chain : List String) (room' : Nat) (chain' : List String)
    {directives : List Directive} {creature : Creature}
    (unhindered : Unhindered (context.applyAll room chain directives creature)) :
    context.applyAll room' chain' (context.splice room chain directives) creature =
      context.applyAll room chain directives creature :=
  applyAll_flatMap (applyAll_expand room chain room' chain') directives unhindered

/-! ### Whole documents -/

theorem checkVersions_ok {directives : List Directive}
    (checked : Directive.checkVersions directives = .ok ()) :
    ∃ first others, directives = first :: others ∧ first.isVersion = true := by
  cases directives with
  | nil => cases checked
  | cons first others =>
      rw [Directive.checkVersions] at checked
      split at checked
      · rename_i isVersion
        exact ⟨first, others, rfl, isVersion⟩
      · cases checked

theorem ofEntries_ok {entries : List Document.Value} {directives : List Directive}
    (accepted : Directive.ofEntries entries = .ok directives) :
    ∃ first others, directives = first :: others ∧ first.isVersion = true :=
  checkVersions_ok (Directive.ofEntries_eq_ok.mp accepted).2

theorem read_ok {form : DocumentForm} {directives : List Directive}
    (accepted : form.read = .ok directives) :
    ∃ first others, directives = first :: others ∧ first.isVersion = true := by
  cases form with
  | text content =>
      obtain ⟨value, _, accepted⟩ := bind_eq_ok.mp accepted
      cases value with
      | list entries => exact ofEntries_ok accepted
      | _ => cases accepted
  | entries given => exact ofEntries_ok accepted
  | directives given =>
      cases given with
      | nil => cases accepted
      | cons first others =>
          rw [DocumentForm.read] at accepted
          split at accepted
          · rename_i isVersion
            cases accepted
            exact ⟨first, others, rfl, isVersion⟩
          · cases accepted

theorem load_eq_ok {reference : Option String} {form : DocumentForm}
    {directives : List Directive} :
    load reference form = .ok directives ↔ form.read = .ok directives :=
  mapError_eq_ok

theorem load_splice {reference : Option String} {form : DocumentForm}
    {directives : List Directive} (loaded : load reference form = .ok directives)
    (room : Nat) (chain : List String) :
    load reference (.directives (context.splice room chain directives)) =
      .ok (context.splice room chain directives) := by
  -- The version at the front of the document stays at the front, so the list is accepted.
  obtain ⟨first, others, rfl, isVersion⟩ := read_ok (load_eq_ok.mp loaded)
  have plain : first.isInclusion = false := by
    cases first <;> first | rfl | cases isVersion
  rw [load_eq_ok, splice_cons, expand_plain plain]
  exact if_pos isVersion

def spliced (context : BuildContext) (reference : Option String) (directives : List Directive) :
    List Directive :=
  context.splice context.settings.maxIncludeDepth (rootChain reference) directives

theorem assemble_loaded {reference : Option String} {form : DocumentForm}
    {directives : List Directive} (loaded : load reference form = .ok directives) :
    context.assemble reference form =
      (context.applyAll context.settings.maxIncludeDepth (rootChain reference) directives
        {}).mapError Halt.fault := by
  rw [assemble, loaded]
  rfl

theorem assemble_spliced {reference : Option String} {form : DocumentForm}
    {directives : List Directive} (loaded : load reference form = .ok directives)
    (unhindered : Unhindered (context.applyAll context.settings.maxIncludeDepth
      (rootChain reference) directives {})) :
    context.assemble reference (.directives (context.spliced reference directives)) =
      context.assemble reference form := by
  have loadedSpliced : load reference (.directives (context.spliced reference directives)) =
      .ok (context.spliced reference directives) := load_splice loaded _ _
  rw [assemble_loaded loadedSpliced, assemble_loaded loaded]
  exact congrArg (Except.mapError Halt.fault) (applyAll_splice _ _ _ _ unhindered)

/-- A build that no include stops has applied all directives, or stopped at another fault. -/
theorem unhindered_of_build {reference : Option String} {form : DocumentForm}
    {directives : List Directive} (loaded : load reference form = .ok directives)
    (passes : ∀ error, context.build reference form ≠ .error (.inclusion error)) :
    Unhindered (context.applyAll context.settings.maxIncludeDepth (rootChain reference)
      directives {}) := by
  intro halt stopped error isInclusion
  apply passes error
  rw [build, assemble_loaded loaded, stopped, ← isInclusion]
  rfl

theorem build_ne_inclusion {reference : Option String} {form : DocumentForm}
    {directives : List Directive} (loaded : load reference form = .ok directives)
    (unhindered : Unhindered (context.applyAll context.settings.maxIncludeDepth
      (rootChain reference) directives {})) (error : InclusionError) :
    context.build reference form ≠ .error (.inclusion error) := by
  intro failed
  rcases bind_eq_error.mp failed with assembling | ⟨creature, _, failed⟩
  · rw [assemble_loaded loaded] at assembling
    obtain ⟨halt, stopped, isInclusion⟩ := mapError_eq_error.mp assembling
    exact unhindered halt stopped error isInclusion
  · rcases bind_eq_error.mp failed with derivation | ⟨built, _, failed⟩
    · obtain ⟨_, _, impossible⟩ := mapError_eq_error.mp derivation
      cases impossible
    · rcases bind_eq_error.mp failed with checking | ⟨_, _, impossible⟩
      · cases mismatches_within _ _ _ checking
      · cases impossible

/-- Includes are splicing. When every include of a document can be opened, and every include of
what it includes, the spliced document has none left and no build stops at one. Whenever no
include that is met stops the build, which may also stop at something else before, the
spliced document is built to the same creature, or fails with the same fault. -/
theorem build_spliced (context : BuildContext) (reference : Option String) (form : DocumentForm)
    (directives : List Directive) (loaded : load reference form = .ok directives) :
    (context.EveryIncludeOpens context.settings.maxIncludeDepth (rootChain reference)
        directives →
      (∀ directive ∈ context.spliced reference directives, directive.isInclusion = false) ∧
        ∀ error, context.build reference form ≠ .error (.inclusion error)) ∧
    ((∀ error, context.build reference form ≠ .error (.inclusion error)) →
      context.build reference (.directives (context.spliced reference directives)) =
        context.build reference form) := by
  constructor
  · intro opens
    exact ⟨opens.splice_plain, build_ne_inclusion loaded (opens.unhindered {})⟩
  · intro passes
    rw [build, assemble_spliced loaded (unhindered_of_build loaded passes)]
    rfl

theorem build_spliced_nested :
    let library := Library.ofTexts
      [("outer", some "[\x7b\"version\": 1\x7d, \x7b\"include\": \"inner\"\x7d, \x7b\"name\": \"$<who>\"\x7d]"),
        ("inner", some "[\x7b\"version\": 1\x7d, \"small\"]")]
    let context : BuildContext := { library := some library }
    let directives : List Directive :=
      [.version formatVersion none, .inclusion "outer" [("who", .text "Wolf")]]
    (context.spliced none directives).map Directive.tag =
        ["version", "version", "version", "small", "name"] ∧
      context.build none (.directives (context.spliced none directives)) =
        context.build none (.directives directives) := by
  intro library context directives
  have loaded : load none (.directives directives) = .ok directives := rfl
  have opens : context.EveryIncludeOpens context.settings.maxIncludeDepth (rootChain none)
      directives := by
    decide +kernel
  obtain ⟨every, same⟩ := build_spliced context none _ directives loaded
  refine ⟨?_, same (every opens).2⟩
  decide +kernel

end BuildContext

end Bestiary
