import Mathlib.Data.List.Infix
import Mathlib.Data.List.Nodup
import Mathlib.Logic.Relation
import Bestiary.Proofs.Creature.Inclusion

/-!
How includes nest.

Documents are applied one directive at a time. The documents that are open form
a stack: an include that can be opened puts its document on top, and a document
without directives left goes away. Nothing in the texts of the library bounds
how far they include each other, but the chain of every open document has
different references, and no more of them than the limit: so every application
ends, and an include is refused exactly if it stands within itself, or too deep.
-/

namespace Bestiary

/-- A document that is being applied: the reference of the include that opened it, if one did, the
chain that it stands in, and the directives that are left of it. -/
structure OpenDocument where
  origin : Option String
  chain : List String
  pending : List Directive

/-- The creature that was reached, and the open documents, the innermost first. -/
structure Expansion where
  creature : Creature
  opened : List OpenDocument

def enclosing (opened : List OpenDocument) : List String :=
  (opened.filterMap OpenDocument.origin).reverse

/-- What holds of the chain of an open document, below which some others are open. -/
structure OpenDocument.IsPlaced (root : List String) (limit : Nat) (document : OpenDocument)
    (outer : List OpenDocument) : Prop where
  chain : document.chain = root ++ enclosing (document :: outer)
  distinct : document.chain.Nodup
  nesting : (enclosing (document :: outer)).length = outer.length
  bounded : outer.length ≤ limit

/-- A fault of where an include stands, not of what it includes. -/
def InclusionFault.IsOfPlace (fault : InclusionFault) : Prop :=
  fault = .cycle ∨ ∃ limit, fault = .tooDeep limit

namespace BuildContext

/-- Take the next directive of the innermost document, or leave it; there is no step if no document
is open. An include stands as deep as there are documents around its own. -/
def step (context : BuildContext) : Expansion → Option (Except Halt Expansion)
  | ⟨_, []⟩ => none
  | ⟨creature, ⟨_, _, []⟩ :: outer⟩ => some (.ok ⟨creature, outer⟩)
  | ⟨creature, ⟨origin, chain, .inclusion reference arguments :: others⟩ :: outer⟩ =>
      let room := context.settings.maxIncludeDepth - outer.length
      match context.openInclude chain room reference arguments with
      | .ok included =>
          some (.ok ⟨creature,
            ⟨some reference, chain ++ [reference], included⟩ :: ⟨origin, chain, others⟩ :: outer⟩)
      | .error error => some (.error ⟨.inclusion error, creature⟩)
  | ⟨creature, ⟨origin, chain, directive :: others⟩ :: outer⟩ =>
      some ((context.applyAll 0 chain [directive] creature).map fun reached =>
        ⟨reached, ⟨origin, chain, others⟩ :: outer⟩)

variable {context : BuildContext} {origin : Option String} {chain : List String}
  {reference : String} {arguments : List (String × IncludeArgument)} {directive : Directive}
  {included others : List Directive} {outer : List OpenDocument} {creature : Creature}

/-! ### Steps -/

theorem step_opened
    (opened : context.openInclude chain (context.settings.maxIncludeDepth - outer.length) reference
      arguments = .ok included) :
    context.step ⟨creature, ⟨origin, chain, .inclusion reference arguments :: others⟩ :: outer⟩ =
      some (.ok ⟨creature,
        ⟨some reference, chain ++ [reference], included⟩ :: ⟨origin, chain, others⟩ :: outer⟩) := by
  rw [step, opened]

theorem step_unopened {error : InclusionError}
    (unopened : context.openInclude chain (context.settings.maxIncludeDepth - outer.length)
      reference arguments = .error error) :
    context.step ⟨creature, ⟨origin, chain, .inclusion reference arguments :: others⟩ :: outer⟩ =
      some (.error ⟨.inclusion error, creature⟩) := by
  rw [step, unopened]

theorem step_plain (plain : directive.isInclusion = false) (room : Nat) :
    context.step ⟨creature, ⟨origin, chain, directive :: others⟩ :: outer⟩ =
      some ((context.applyAll room chain [directive] creature).map fun reached =>
        ⟨reached, ⟨origin, chain, others⟩ :: outer⟩) := by
  rw [applyAll_plain plain room 0 chain chain]
  cases directive <;> first | rfl | cases plain

theorem step_cases {state after : Expansion} (stepped : context.step state = some (.ok after)) :
    (∃ document, document.pending = [] ∧ state.opened = document :: after.opened) ∨
    (∃ origin chain reference arguments others outer included,
      state.opened = ⟨origin, chain, .inclusion reference arguments :: others⟩ :: outer ∧
      context.openInclude chain (context.settings.maxIncludeDepth - outer.length) reference
        arguments = .ok included ∧
      after.opened =
        ⟨some reference, chain ++ [reference], included⟩ :: ⟨origin, chain, others⟩ :: outer) ∨
    (∃ origin chain directive others outer,
      state.opened = ⟨origin, chain, directive :: others⟩ :: outer ∧
      after.opened = ⟨origin, chain, others⟩ :: outer) := by
  unfold step at stepped
  split at stepped
  · cases stepped
  · next creature origin chain outer =>
      cases stepped
      exact .inl ⟨_, rfl, rfl⟩
  · next creature origin chain reference arguments others outer =>
      dsimp only at stepped
      split at stepped
      · next included opened =>
          cases stepped
          exact .inr (.inl ⟨_, _, _, _, _, _, _, rfl, opened, rfl⟩)
      · cases stepped
  · next creature origin chain directive others outer _ =>
      cases applied : context.applyAll 0 chain [directive] creature with
      | error halt =>
          rw [applied] at stepped
          cases stepped
      | ok reached =>
          rw [applied] at stepped
          cases stepped
          exact .inr (.inr ⟨_, _, _, _, _, rfl, rfl⟩)

def Precedes (context : BuildContext) (state after : Expansion) : Prop :=
  context.step state = some (.ok after)

abbrev Reaches (context : BuildContext) : Expansion → Expansion → Prop :=
  Relation.ReflTransGen context.Precedes

/-- An application ends with some outcome once only some documents that were open are left. -/
def Ends (context : BuildContext) (start : Expansion) (left : List OpenDocument) :
    Except Halt Creature → Prop
  | .ok reached => context.Reaches start ⟨reached, left⟩
  | .error halt => ∃ state, context.Reaches start state ∧ context.step state = some (.error halt)

theorem Ends.after_step {start after : Expansion} {left : List OpenDocument}
    {outcome : Except Halt Creature} (stepped : context.step start = some (.ok after))
    (ends : context.Ends after left outcome) : context.Ends start left outcome := by
  cases outcome with
  | ok reached => exact .head stepped ends
  | error halt =>
      obtain ⟨state, reaches, stops⟩ := ends
      exact ⟨state, .head stepped reaches, stops⟩

theorem Ends.bind {start : Expansion} {middle left : List OpenDocument}
    {outcome : Except Halt Creature} {rest : Creature → Except Halt Creature}
    (first : context.Ends start middle outcome)
    (next : ∀ reached, context.Ends ⟨reached, middle⟩ left (rest reached)) :
    context.Ends start left (outcome >>= rest) := by
  cases outcome with
  | error halt => exact first
  | ok reached =>
      have later := next reached
      rw [ok_bind]
      cases final : rest reached with
      | ok creature =>
          rw [final] at later
          exact .trans first later
      | error halt =>
          rw [final] at later
          obtain ⟨state, reaches, stops⟩ := later
          exact ⟨state, .trans first reaches, stops⟩

/-! ### Every application ends -/

theorem ends_plain (plain : directive.isInclusion = false) (room : Nat) :
    context.Ends ⟨creature, ⟨origin, chain, directive :: others⟩ :: outer⟩
      (⟨origin, chain, others⟩ :: outer) (context.applyAll room chain [directive] creature) := by
  cases applied : context.applyAll room chain [directive] creature with
  | ok reached => exact .single (by rw [Precedes, step_plain plain room, applied]; rfl)
  | error halt => exact ⟨_, .refl, by rw [step_plain plain room, applied]; rfl⟩

theorem ends_directives {room : Nat} {directives : List Directive}
    (includes : ∀ reference arguments others creature,
      context.Ends
        ⟨creature, ⟨origin, chain, .inclusion reference arguments :: others⟩ :: outer⟩
        (⟨origin, chain, others⟩ :: outer)
        (context.applyAll room chain [.inclusion reference arguments] creature)) :
    context.Ends ⟨creature, ⟨origin, chain, directives⟩ :: outer⟩ outer
      (context.applyAll room chain directives creature) := by
  induction directives generalizing creature with
  | nil =>
      rw [applyAll_nil]
      exact .single rfl
  | cons directive others ih =>
      rw [applyAll_cons]
      refine Ends.bind ?_ fun reached => ih
      cases kind : directive.isInclusion with
      | false => exact ends_plain kind room
      | true =>
          obtain ⟨reference, arguments, rfl⟩ := Directive.eq_inclusion kind
          exact includes reference arguments others creature

/-- Applying the directives of an open document step by step comes to what applying them at once
comes to. The room that is left shrinks with every document that is opened. -/
theorem ends_applyAll (room : Nat) (directives : List Directive)
    (fits : outer.length + room = context.settings.maxIncludeDepth) :
    context.Ends ⟨creature, ⟨origin, chain, directives⟩ :: outer⟩ outer
      (context.applyAll room chain directives creature) := by
  induction room generalizing origin chain directives outer creature with
  | zero =>
      refine ends_directives fun reference arguments others creature => ?_
      have full : context.settings.maxIncludeDepth - outer.length = 0 := by omega
      obtain ⟨error, refused⟩ := context.openInclude_zero chain reference arguments
      rw [applyAll_unopened refused]
      exact ⟨_, .refl, step_unopened (by rw [full, refused])⟩
  | succ room ih =>
      refine ends_directives fun reference arguments others creature => ?_
      have left : context.settings.maxIncludeDepth - outer.length = room + 1 := by omega
      cases opening : context.openInclude chain (room + 1) reference arguments with
      | error error =>
          rw [applyAll_unopened opening]
          exact ⟨_, .refl, step_unopened (by rw [left, opening])⟩
      | ok included =>
          rw [applyAll_opened opening]
          refine Ends.after_step (step_opened (by rw [left, opening])) (ih included ?_)
          rw [List.length_cons]
          omega

/-- A step has one result, so the run from the start to where it is stuck is the only one. -/
theorem acc_of_reaches {start final : Expansion} (reaches : context.Reaches start final)
    (stuck : ∀ after, ¬context.Precedes final after) :
    Acc (fun after state => context.Precedes state after) start := by
  induction reaches using Relation.ReflTransGen.head_induction_on with
  | refl => exact ⟨_, fun after stepped => absurd stepped (stuck after)⟩
  | head stepped _ ih =>
      refine ⟨_, fun after steppedToo => ?_⟩
      cases Except.ok.inj (Option.some.inj (stepped.symm.trans steppedToo))
      exact ih

theorem Ends.terminates {start : Expansion} {outcome : Except Halt Creature}
    (ends : context.Ends start [] outcome) :
    Acc (fun after state => context.Precedes state after) start := by
  cases outcome with
  | ok reached => exact acc_of_reaches ends fun after => nofun
  | error halt =>
      obtain ⟨state, reaches, stops⟩ := ends
      exact acc_of_reaches reaches fun after stepped => nomatch stops.symm.trans stepped

/-! ### Where open documents stand -/

variable {root : List String} {limit : Nat}

theorem enclosing_cons (document : OpenDocument) (outer : List OpenDocument) :
    enclosing (document :: outer) = enclosing outer ++ document.origin.toList := by
  unfold enclosing
  cases origin : document.origin <;> simp [origin]

def ArePlaced (root : List String) (limit : Nat) (opened : List OpenDocument) : Prop :=
  ∀ document outer, document :: outer <:+ opened → document.IsPlaced root limit outer

theorem ArePlaced.tail {document : OpenDocument} {outer : List OpenDocument}
    (placed : ArePlaced root limit (document :: outer)) : ArePlaced root limit outer :=
  fun inner rest within => placed inner rest (within.trans (List.suffix_cons _ _))

theorem ArePlaced.cons {document : OpenDocument} {outer : List OpenDocument}
    (first : document.IsPlaced root limit outer) (placed : ArePlaced root limit outer) :
    ArePlaced root limit (document :: outer) := by
  intro inner rest within
  rcases List.suffix_cons_iff.mp within with same | within
  · cases same
    exact first
  · exact placed inner rest within

theorem ArePlaced.pending {directives others : List Directive}
    (placed : ArePlaced root limit (⟨origin, chain, directives⟩ :: outer)) :
    ArePlaced root limit (⟨origin, chain, others⟩ :: outer) := by
  obtain ⟨isChain, distinct, nesting, bounded⟩ := placed _ _ (List.suffix_refl _)
  exact .cons ⟨isChain, distinct, nesting, bounded⟩ placed.tail

theorem ArePlaced.opened
    (placed : ArePlaced root context.settings.maxIncludeDepth
      (⟨origin, chain, .inclusion reference arguments :: others⟩ :: outer))
    (opened : context.openInclude chain (context.settings.maxIncludeDepth - outer.length) reference
      arguments = .ok included) :
    ArePlaced root context.settings.maxIncludeDepth
      (⟨some reference, chain ++ [reference], included⟩ :: ⟨origin, chain, others⟩ :: outer) := by
  obtain ⟨isChain, distinct, nesting, bounded⟩ := placed _ _ (List.suffix_refl _)
  obtain ⟨new, notFull, _⟩ := openInclude_eq_ok.mp opened
  have absent : reference ∉ chain := by simpa using new
  refine .cons ⟨?_, ?_, ?_, ?_⟩ placed.pending
  · rw [enclosing_cons, ← List.append_assoc]
    exact congrArg (· ++ [reference]) isChain
  · rw [← List.concat_eq_append]
    exact distinct.concat absent
  · rw [enclosing_cons, List.length_append, List.length_cons]
    exact congrArg (· + 1) nesting
  · rw [List.length_cons]
    omega

theorem ArePlaced.step {state after : Expansion}
    (placed : ArePlaced root context.settings.maxIncludeDepth state.opened)
    (stepped : context.Precedes state after) :
    ArePlaced root context.settings.maxIncludeDepth after.opened := by
  rcases step_cases stepped with ⟨document, _, stack⟩ |
    ⟨origin, chain, reference, arguments, others, outer, included, stack, opened, after⟩ |
    ⟨origin, chain, directive, others, outer, stack, after⟩
  · rw [stack] at placed
    exact placed.tail
  · rw [stack] at placed
    rw [after]
    exact placed.opened opened
  · rw [stack] at placed
    rw [after]
    exact placed.pending

/-- Every open document is placed, at any point of an application. -/
theorem ArePlaced.reaches {start state : Expansion}
    (placed : ArePlaced root context.settings.maxIncludeDepth start.opened)
    (reaches : context.Reaches start state) :
    ArePlaced root context.settings.maxIncludeDepth state.opened := by
  induction reaches with
  | refl => exact placed
  | tail _ stepped ih => exact ih.step stepped

theorem arePlaced_root (reference : Option String) (directives : List Directive) :
    ArePlaced (rootChain reference) limit [⟨none, rootChain reference, directives⟩] := by
  have distinct : (rootChain reference).Nodup := by
    unfold rootChain
    cases presentText? reference with
    | none => exact List.nodup_nil
    | some text => exact List.nodup_singleton text
  refine .cons ⟨?_, distinct, rfl, Nat.zero_le _⟩ fun document outer within => ?_
  · exact (List.append_nil _).symm
  · cases List.suffix_nil.mp within

/-! ### Why an include is refused -/

variable {room : Nat}

/-- The guards in their order: the chain, the room that is left, and then what the library has. -/
theorem findIncluded_eq :
    context.findIncluded chain room reference arguments =
      if reference ∈ chain then .error .cycle
      else if room = 0 then .error (.tooDeep context.settings.maxIncludeDepth)
      else
        match context.library with
        | none => .error .noLibrary
        | some library => (library reference).mapError .unresolved >>= readIncluded arguments := by
  unfold findIncluded
  by_cases cyclic : reference ∈ chain
  · rw [if_pos cyclic, List.contains_iff_mem.mpr cyclic]
    rfl
  · have new : chain.contains reference = false := by simpa using cyclic
    rw [if_neg cyclic, new]
    by_cases full : room = 0
    · rw [if_pos full, full]
      rfl
    · cases context.library <;> simp only [if_neg full] <;> rfl

theorem readIncluded_not_ofPlace (library : Library) (reference : String)
    (arguments : List (String × IncludeArgument)) :
    FailsWithin (fun fault => ¬fault.IsOfPlace)
      ((library reference).mapError .unresolved >>= readIncluded arguments) := by
  unfold readIncluded InclusionFault.IsOfPlace
  refine FailsWithin.bind (.mapError fun _ _ => by simp) fun text _ => ?_
  exact FailsWithin.bind (.mapError fun _ _ => by simp) fun filled _ => .mapError fun _ _ => by simp

theorem findIncluded_ofPlace (new : reference ∉ chain) (fits : room ≠ 0) :
    FailsWithin (fun fault => ¬fault.IsOfPlace)
      (context.findIncluded chain room reference arguments) := by
  rw [findIncluded_eq, if_neg new, if_neg fits]
  split
  · exact failsWithin_error (by simp [InclusionFault.IsOfPlace])
  · exact readIncluded_not_ofPlace _ reference arguments

theorem findIncluded_cycle :
    context.findIncluded chain room reference arguments = .error .cycle ↔ reference ∈ chain := by
  refine ⟨fun refused => ?_, fun cyclic => by rw [findIncluded_eq, if_pos cyclic]⟩
  by_contra new
  by_cases full : room = 0
  · rw [findIncluded_eq, if_neg new, if_pos full] at refused
    cases refused
  · exact findIncluded_ofPlace new full _ refused (.inl rfl)

theorem findIncluded_tooDeep {told : Nat} :
    context.findIncluded chain room reference arguments = .error (.tooDeep told) ↔
      (reference ∉ chain ∧ room = 0) ∧ told = context.settings.maxIncludeDepth := by
  constructor
  · intro refused
    have new : reference ∉ chain := fun cyclic => by
      rw [findIncluded_cycle.mpr cyclic] at refused
      cases refused
    have full : room = 0 := by
      by_contra fits
      exact findIncluded_ofPlace new fits _ refused (.inr ⟨told, rfl⟩)
    rw [findIncluded_eq, if_neg new, if_pos full] at refused
    cases refused
    exact ⟨⟨new, full⟩, rfl⟩
  · rintro ⟨⟨new, full⟩, rfl⟩
    rw [findIncluded_eq, if_neg new, if_pos full]

/-- The include that comes next is refused for some fault, which is told with some chain. -/
def Refuses (context : BuildContext) (state : Expansion) (fault : InclusionFault)
    (reference : String) (chain : List String) : Prop :=
  context.step state = some (.error ⟨.inclusion ⟨fault, reference, chain⟩, state.creature⟩)

theorem refuses_iff {state : Expansion} {fault : InclusionFault} {sought : String}
    {told : List String}
    (next : state.opened = ⟨origin, chain, .inclusion reference arguments :: others⟩ :: outer) :
    context.Refuses state fault sought told ↔
      context.findIncluded chain (context.settings.maxIncludeDepth - outer.length) reference
          arguments = .error fault ∧
        sought = reference ∧ told = chain ++ [reference] := by
  obtain ⟨creature, opened⟩ := state
  obtain rfl : opened = _ := next
  unfold Refuses
  cases found : context.findIncluded chain (context.settings.maxIncludeDepth - outer.length)
      reference arguments with
  | ok included =>
      rw [step_opened (by rw [openInclude, found]; rfl)]
      simp
  | error error =>
      rw [step_unopened (by rw [openInclude, found]; rfl)]
      simp [eq_comm]

theorem step_refused {state : Expansion} {error : InclusionError} {reached : Creature}
    (stops : context.step state = some (.error ⟨.inclusion error, reached⟩)) :
    ∃ origin chain arguments others outer,
      state.opened = ⟨origin, chain, .inclusion error.reference arguments :: others⟩ :: outer ∧
        context.Refuses state error.fault error.reference error.chain := by
  unfold step at stops
  split at stops
  · cases stops
  · cases stops
  · next creature origin chain reference arguments others outer =>
      dsimp only at stops
      split at stops
      · cases stops
      · next failed refused =>
          cases stops
          obtain ⟨fault, found, rfl⟩ := mapError_eq_error.mp refused
          exact ⟨_, _, _, _, _, rfl, (refuses_iff rfl).mpr ⟨found, rfl, rfl⟩⟩
  · next creature origin chain directive others outer notInclusion =>
      have plain : directive.isInclusion = false := by
        cases directive <;> first | rfl | exact absurd rfl (notInclusion _ _)
      obtain ⟨enter, single⟩ := context.applyAll_single 0 chain directive creature
      cases applied : context.applyAll 0 chain [directive] creature with
      | ok later =>
          rw [applied] at stops
          cases stops
      | error halt =>
          rw [applied] at stops
          cases stops
          rw [single] at applied
          exact absurd rfl (applyStep_plain_unhindered plain chain 0 enter creature _ applied error)

/-- How the include that comes next is guarded: by the root and the includes around it, and then by
how deep it stands. -/
structure IsGuarded (context : BuildContext) (root : List String) (state : Expansion)
    (sought : String) : Prop where
  told : ∀ fault reference chain, context.Refuses state fault reference chain →
    reference = sought ∧ chain = root ++ enclosing state.opened ++ [sought]
  cycle : (∃ reference chain, context.Refuses state .cycle reference chain) ↔
    sought ∈ root ++ enclosing state.opened
  tooDeep : ∀ limit, (∃ reference chain, context.Refuses state (.tooDeep limit) reference chain) ↔
    sought ∉ root ++ enclosing state.opened ∧
      context.settings.maxIncludeDepth < (enclosing state.opened).length + 1 ∧
      limit = context.settings.maxIncludeDepth

theorem ArePlaced.guarded {state : Expansion}
    (placed : ArePlaced root context.settings.maxIncludeDepth state.opened)
    (next : state.opened = ⟨origin, chain, .inclusion reference arguments :: others⟩ :: outer) :
    context.IsGuarded root state reference := by
  rw [next] at placed
  obtain ⟨isChain, _, nesting, _⟩ := placed _ _ (List.suffix_refl _)
  rw [← next] at isChain nesting
  have around : root ++ enclosing state.opened = chain := isChain.symm
  refine ⟨fun fault sought told refused => ?told, ?cycle, fun limit => ?tooDeep⟩
  case told =>
    obtain ⟨_, same, isTold⟩ := (refuses_iff next).mp refused
    exact ⟨same, around ▸ isTold⟩
  case cycle =>
    simp only [refuses_iff next, findIncluded_cycle, around]
    exact ⟨fun ⟨_, _, cyclic, _, _⟩ => cyclic, fun cyclic => ⟨_, _, cyclic, rfl, rfl⟩⟩
  case tooDeep =>
    have full : context.settings.maxIncludeDepth - outer.length = 0 ↔
        context.settings.maxIncludeDepth < (enclosing state.opened).length + 1 := by
      omega
    simp only [refuses_iff next, findIncluded_tooDeep, around, full]
    exact ⟨fun ⟨_, _, ⟨⟨new, deep⟩, same⟩, _, _⟩ => ⟨new, deep, same⟩,
      fun ⟨new, deep, same⟩ => ⟨_, _, ⟨⟨new, deep⟩, same⟩, rfl, rfl⟩⟩

theorem not_cycle_beside {state later : Expansion} {arguments' : List (String × IncludeArgument)}
    {others' : List Directive}
    (next : state.opened = ⟨origin, chain, .inclusion reference arguments :: others⟩ :: outer)
    (opens : ∃ after, context.Precedes state after)
    (nextLater : later.opened =
      ⟨origin, chain, .inclusion reference arguments' :: others'⟩ :: outer)
    (sought : String) (told : List String) : ¬context.Refuses later .cycle sought told := by
  intro refused
  obtain ⟨after, stepped⟩ := opens
  have cyclic := findIncluded_cycle.mp ((refuses_iff nextLater).mp refused).1
  have refusedFirst : context.Refuses state .cycle reference (chain ++ [reference]) :=
    (refuses_iff next).mpr ⟨findIncluded_cycle.mpr cyclic, rfl, rfl⟩
  exact nomatch refusedFirst.symm.trans stepped

/-- Every application of a document ends, step by step as well as at once, and its includes are
guarded exactly. At any point of it the chain of every open document is that of the root and the
includes around it, without repetition and no longer than the limit, and an include that was opened
is no cycle beside itself; an include that fails is told with the root and the includes around
it. -/
theorem applyAll_nesting (context : BuildContext) (reference : Option String)
    (directives : List Directive) :
    let root := rootChain reference
    let start : Expansion := ⟨{}, [⟨none, root, directives⟩]⟩
    let outcome := context.applyAll context.settings.maxIncludeDepth root directives {}
    (Acc (fun after state => context.Precedes state after) start ∧ context.Ends start [] outcome) ∧
    (∀ state, context.Reaches start state →
      ArePlaced root context.settings.maxIncludeDepth state.opened ∧
      ∀ origin chain sought arguments others outer,
        state.opened = ⟨origin, chain, .inclusion sought arguments :: others⟩ :: outer →
        context.IsGuarded root state sought ∧
        ((∃ after, context.Precedes state after) →
          ∀ later arguments' others', context.Reaches state later →
            later.opened = ⟨origin, chain, .inclusion sought arguments' :: others'⟩ :: outer →
            ∀ reference told, ¬context.Refuses later .cycle reference told)) ∧
    (∀ error reached, outcome = .error ⟨.inclusion error, reached⟩ →
      ∃ state, context.Reaches start state ∧
        context.Refuses state error.fault error.reference error.chain ∧
        error.chain = root ++ enclosing state.opened ++ [error.reference]) ∧
    ∀ form, load reference form = .ok directives →
      context.assemble reference form = outcome.mapError Halt.fault := by
  intro root start outcome
  have ends : context.Ends start [] outcome :=
    ends_applyAll context.settings.maxIncludeDepth directives (Nat.zero_add _)
  have placed {state : Expansion} (reaches : context.Reaches start state) :
      ArePlaced root context.settings.maxIncludeDepth state.opened :=
    (arePlaced_root reference directives).reaches reaches
  refine ⟨⟨ends.terminates, ends⟩, fun state reaches => ⟨placed reaches, ?guards⟩, ?failure,
    fun form loaded => assemble_loaded loaded⟩
  case guards =>
    intro origin chain sought arguments others outer next
    exact ⟨(placed reaches).guarded next, fun opens later _ _ _ nextLater =>
      not_cycle_beside next opens nextLater⟩
  case failure =>
    intro error reached failed
    rw [failed] at ends
    obtain ⟨state, reaches, stops⟩ := ends
    obtain ⟨_, _, _, _, _, next, refused⟩ := step_refused stops
    exact ⟨state, reaches, refused, (((placed reaches).guarded next).told _ _ _ refused).2⟩

def closesCycle (reference : String) (chain : List String) : BuildFault → Bool
  | .inclusion ⟨.cycle, sought, told⟩ => sought == reference && told == chain
  | _ => false

theorem eq_of_closesCycle {reference : String} {chain : List String} {fault : BuildFault}
    (closes : closesCycle reference chain fault = true) :
    fault = .inclusion ⟨.cycle, reference, chain⟩ := by
  unfold closesCycle at closes
  split at closes
  · obtain ⟨sameReference, sameChain⟩ := Bool.and_eq_true_iff.mp closes
    rw [eq_of_beq sameReference, eq_of_beq sameChain]
  · cases closes

/-- Two documents that include each other, told from the root to where the cycle closes. -/
theorem applyAll_nesting_cycle :
    let library := Library.ofTexts
      [("a", some "[\x7b\"version\": 1\x7d, \x7b\"include\": \"b\"\x7d]"),
        ("b", some "[\x7b\"version\": 1\x7d, \x7b\"include\": \"a\"\x7d]")]
    let context : BuildContext := { library := some library }
    let root := rootChain (some "root")
    let directives : List Directive := [.version formatVersion none, .inclusion "a" []]
    ∃ error reached state,
      context.applyAll context.settings.maxIncludeDepth root directives {} =
        .error ⟨.inclusion error, reached⟩ ∧
      error.fault = .cycle ∧ error.chain = ["root", "a", "b", "a"] ∧
      context.Reaches ⟨{}, [⟨none, root, directives⟩]⟩ state ∧
      enclosing state.opened = ["a", "b"] := by
  intro library context root directives
  obtain ⟨⟨fault, reached⟩, failed, closes⟩ :
      ∃ halt,
        context.applyAll context.settings.maxIncludeDepth root directives {} = .error halt ∧
        closesCycle "a" ["root", "a", "b", "a"] halt.fault = true :=
    exists_error_of_failsWith (by decide +kernel)
  obtain rfl := eq_of_closesCycle closes
  obtain ⟨_, _, told, _⟩ := applyAll_nesting context (some "root") directives
  obtain ⟨state, reaches, refused, isChain⟩ := told _ _ failed
  refine ⟨_, _, state, failed, rfl, rfl, reaches, ?_⟩
  have inside : root ++ enclosing state.opened ++ ["a"] = ["root"] ++ ["a", "b"] ++ ["a"] :=
    isChain.symm
  exact List.append_cancel_left (List.append_cancel_right inside)

end BuildContext

end Bestiary
