import Bestiary.Proofs.Creature.Splicing
import Bestiary.Proofs.Directive.Validated

/-!
When an include can be opened, and what its document says.
-/

namespace Bestiary

open Document Prose

/-! ### Arguments -/

def IncludeArgument.value : IncludeArgument → ProseValue
  | text content => .text content
  | number amount => .number amount false

def argumentScope (arguments : List (String × IncludeArgument)) : Variables :=
  arguments.map fun (name, argument) => (name, argument.value)

theorem prepareVariables_arguments (arguments : List (String × IncludeArgument)) :
    prepareVariables (arguments.map fun (name, argument) => (name, argument.binding)) =
      .ok (argumentScope arguments) := by
  induction arguments with
  | nil => rfl
  | cons entry others ih =>
      obtain ⟨name, argument⟩ := entry
      cases argument with
      | text content => exact bind_eq_ok.mpr ⟨_, ih, rfl⟩
      | number value => exact bind_eq_ok.mpr ⟨_, ih, rfl⟩

theorem lookup_argumentScope (arguments : List (String × IncludeArgument)) (name : String) :
    (argumentScope arguments).lookup name = (arguments.lookup name).map IncludeArgument.value := by
  induction arguments with
  | nil => rfl
  | cons entry others ih =>
      change List.lookup name ((entry.1, entry.2.value) :: argumentScope others) =
        (List.lookup name ((entry.1, entry.2) :: others)).map IncludeArgument.value
      rw [List.lookup_cons, List.lookup_cons, ih]
      split <;> rfl

theorem readIncluded_eq_ok {arguments : List (String × IncludeArgument)} {text : String}
    {directives : List Directive} :
    readIncluded arguments text = .ok directives ↔
      ∃ filled,
        fillTemplate (arguments.map fun (name, argument) => (name, argument.binding)) text =
          .ok filled ∧
        Directive.ofText filled = .ok directives := by
  unfold readIncluded
  simp only [bind_eq_ok, mapError_eq_ok]

namespace BuildContext

variable {context : BuildContext} {chain : List String} {room : Nat} {reference : String}
  {arguments : List (String × IncludeArgument)} {included : List Directive}

theorem openInclude_resolved {library : Library} {text : String}
    (supplied : context.library = some library) (resolved : library reference = .ok text)
    (new : chain.contains reference = false) :
    context.openInclude chain (room + 1) reference arguments =
      (readIncluded arguments text).mapError fun fault => ⟨fault, reference, chain ++ [reference]⟩ := by
  unfold openInclude findIncluded
  rw [new, supplied]
  change Except.mapError _ ((library reference).mapError .unresolved >>= readIncluded arguments) = _
  rw [resolved]
  rfl

theorem openInclude_eq_ok :
    context.openInclude chain room reference arguments = .ok included ↔
      chain.contains reference = false ∧ room ≠ 0 ∧
        ∃ library text, context.library = some library ∧ library reference = .ok text ∧
          readIncluded arguments text = .ok included := by
  unfold openInclude findIncluded
  rw [mapError_eq_ok]
  cases cyclic : chain.contains reference with
  | true =>
      constructor
      · intro impossible
        cases impossible
      · rintro ⟨impossible, _⟩
        cases impossible
  | false =>
      by_cases full : room = 0
      · subst full
        constructor
        · intro impossible
          cases impossible
        · rintro ⟨_, impossible, _⟩
          exact absurd rfl impossible
      · cases found : context.library with
        | none =>
            change (if room = 0 then _ else Except.error InclusionFault.noLibrary) = _ ↔ _
            rw [if_neg full]
            constructor
            · intro impossible
              cases impossible
            · rintro ⟨_, _, _, _, impossible, _⟩
              cases impossible
        | some library =>
            change (if room = 0 then _ else
              (library reference).mapError .unresolved >>= readIncluded arguments) = _ ↔ _
            rw [if_neg full, bind_eq_ok]
            simp only [mapError_eq_ok]
            constructor
            · rintro ⟨text, resolved, read⟩
              exact ⟨trivial, full, library, text, rfl, resolved, read⟩
            · rintro ⟨_, _, _, text, same, resolved, read⟩
              cases same
              exact ⟨text, resolved, read⟩

theorem openInclude_validated
    (opened : context.openInclude chain room reference arguments = .ok included) :
    ∀ directive ∈ included, directive.IsValidated := by
  obtain ⟨_, _, _, _, _, _, read⟩ := openInclude_eq_ok.mp opened
  obtain ⟨_, _, read⟩ := readIncluded_eq_ok.mp read
  exact Directive.ofText_validated read

end BuildContext

end Bestiary
