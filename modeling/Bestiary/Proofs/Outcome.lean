/-!
Outcomes: what a chain of steps that may fail says about each of its steps, and
what all its faults have in common if those of each step do.
-/

namespace Bestiary

variable {ε ε' α β γ : Type}

theorem bind_eq_ok {first : Except ε α} {next : α → Except ε β} {result : β} :
    first >>= next = .ok result ↔ ∃ value, first = .ok value ∧ next value = .ok result := by
  cases first with
  | error fault =>
      constructor
      · intro impossible
        cases impossible
      · rintro ⟨value, impossible, _⟩
        cases impossible
  | ok value =>
      constructor
      · intro success
        exact ⟨value, rfl, success⟩
      · rintro ⟨_, same, success⟩
        cases same
        exact success

theorem bind_eq_error {first : Except ε α} {next : α → Except ε β} {fault : ε} :
    first >>= next = .error fault ↔
      first = .error fault ∨ ∃ value, first = .ok value ∧ next value = .error fault := by
  cases first with
  | error found =>
      constructor
      · intro failed
        exact .inl (congrArg Except.error (Except.error.inj failed))
      · rintro (same | ⟨_, impossible, _⟩)
        · cases same
          rfl
        · cases impossible
  | ok value =>
      constructor
      · intro failed
        exact .inr ⟨value, rfl, failed⟩
      · rintro (impossible | ⟨_, same, failed⟩)
        · cases impossible
        · cases same
          exact failed

theorem eq_ok_of_toOption {outcome : Except ε α} {value : α}
    (same : outcome.toOption = some value) : outcome = .ok value := by
  cases outcome with
  | error fault => cases same
  | ok found =>
      cases same
      rfl

theorem exists_ok_of_toOption {outcome : Except ε α} (succeeds : outcome.toOption.isSome = true) :
    ∃ value, outcome = .ok value := by
  cases outcome with
  | ok value => exact ⟨value, rfl⟩
  | error fault => cases succeeds

theorem exists_error_of_toOption {outcome : Except ε α}
    (fails : outcome.toOption.isSome = false) : ∃ fault, outcome = .error fault := by
  cases outcome with
  | ok value => cases fails
  | error fault => exact ⟨fault, rfl⟩

def failsWith (kind : ε → Bool) : Except ε α → Bool
  | .ok _ => false
  | .error fault => kind fault

theorem exists_error_of_failsWith {kind : ε → Bool} {outcome : Except ε α}
    (fails : failsWith kind outcome = true) :
    ∃ fault, outcome = .error fault ∧ kind fault = true := by
  cases outcome with
  | ok value => cases fails
  | error fault => exact ⟨fault, rfl, fails⟩

theorem ok_bind (value : α) (next : α → Except ε β) :
    (Except.ok value : Except ε α) >>= next = next value :=
  rfl

theorem map_bind_pure {outcome : Except ε α} {change : α → β} {use : β → γ} {useChanged : α → γ}
    (same : ∀ value, useChanged value = use (change value)) :
    (outcome >>= fun value => pure (change value)).map use = outcome.map useChanged := by
  cases outcome with
  | error fault => rfl
  | ok value => exact congrArg Except.ok (same value).symm

theorem map_eq_ok {outcome : Except ε α} {change : α → β} {result : β} :
    outcome.map change = .ok result ↔ ∃ value, outcome = .ok value ∧ change value = result := by
  cases outcome with
  | error fault =>
      constructor
      · intro impossible
        cases impossible
      · rintro ⟨_, impossible, _⟩
        cases impossible
  | ok value =>
      constructor
      · intro success
        exact ⟨value, rfl, Except.ok.inj success⟩
      · rintro ⟨_, same, rfl⟩
        cases same
        rfl

theorem mapError_eq_ok {outcome : Except ε α} {rename : ε → ε'} {result : α} :
    outcome.mapError rename = .ok result ↔ outcome = .ok result := by
  cases outcome with
  | error fault =>
      constructor <;> intro impossible <;> cases impossible
  | ok value =>
      constructor
      · intro success
        exact congrArg Except.ok (Except.ok.inj success)
      · intro same
        cases same
        rfl

theorem mapError_eq_error {outcome : Except ε α} {rename : ε → ε'} {fault : ε'} :
    outcome.mapError rename = .error fault ↔ ∃ found, outcome = .error found ∧ rename found = fault := by
  cases outcome with
  | error found =>
      constructor
      · intro failed
        exact ⟨found, rfl, Except.error.inj failed⟩
      · rintro ⟨_, same, rfl⟩
        cases same
        rfl
  | ok value =>
      constructor
      · intro impossible
        cases impossible
      · rintro ⟨_, impossible, _⟩
        cases impossible

/-! ### The faults of a chain -/

/-- All that an outcome can fail with is of a sort. -/
def FailsWithin (sort : ε → Prop) (outcome : Except ε α) : Prop :=
  ∀ fault, outcome = .error fault → sort fault

section Faults

variable {sort : ε → Prop}

theorem failsWithin_ok (value : α) : FailsWithin sort (.ok value : Except ε α) := by
  intro fault impossible
  cases impossible

theorem failsWithin_error {fault : ε} (holds : sort fault) :
    FailsWithin sort (.error fault : Except ε α) := by
  intro found same
  cases same
  exact holds

theorem FailsWithin.mono {sort' : ε → Prop} {outcome : Except ε α}
    (within : FailsWithin sort outcome) (wider : ∀ fault, sort fault → sort' fault) :
    FailsWithin sort' outcome :=
  fun fault failed => wider fault (within fault failed)

theorem FailsWithin.bind {first : Except ε α} {next : α → Except ε β}
    (firstWithin : FailsWithin sort first)
    (nextWithin : ∀ value, first = .ok value → FailsWithin sort (next value)) :
    FailsWithin sort (first >>= next) := by
  intro fault failed
  rcases bind_eq_error.mp failed with failed | ⟨value, success, failed⟩
  · exact firstWithin fault failed
  · exact nextWithin value success fault failed

theorem FailsWithin.mapError {sort' : ε' → Prop} {rename : ε → ε'} {outcome : Except ε α}
    (within : FailsWithin (fun fault => sort' (rename fault)) outcome) :
    FailsWithin sort' (outcome.mapError rename) := by
  intro fault failed
  obtain ⟨found, cause, rfl⟩ := mapError_eq_error.mp failed
  exact within found cause

theorem failsWithin_foldlM {step : β → α → Except ε β} {items : List α}
    (each : ∀ item ∈ items, ∀ state, FailsWithin sort (step state item)) (start : β) :
    FailsWithin sort (items.foldlM step start) := by
  induction items generalizing start with
  | nil => exact failsWithin_ok start
  | cons item others ih =>
      obtain ⟨first, rest⟩ := List.forall_mem_cons.mp each
      rw [List.foldlM_cons]
      exact (first start).bind fun next _ => ih rest next

theorem failsWithin_mapM {step : α → Except ε β} {items : List α}
    (each : ∀ item ∈ items, FailsWithin sort (step item)) :
    FailsWithin sort (items.mapM step) := by
  induction items with
  | nil => exact failsWithin_ok []
  | cons item others ih =>
      obtain ⟨first, rest⟩ := List.forall_mem_cons.mp each
      rw [List.mapM_cons]
      exact first.bind fun _ _ => (ih rest).bind fun _ _ => failsWithin_ok _

end Faults

end Bestiary
