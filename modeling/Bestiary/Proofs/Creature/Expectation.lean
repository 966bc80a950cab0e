import Bestiary.Creature.Assembly
import Bestiary.Proofs.Outcome

/-!
Checking expectations strictly and leniently.

Both ways go through the same checks in the same order and stop at the same
check that cannot be made. A strict one also stops at the first expectation
that is not met; a lenient one notes it and goes on.
-/

namespace Bestiary.BuildContext

def checkNext (strict : Bool) (name : String) (found : List Mismatch)
    (check : Except ExpectationFault (Option Mismatch)) : Except BuildFault (List Mismatch) := do
  match ← check.mapError (.ofExpectation name) with
  | none => pure found
  | some mismatch =>
      if strict then throw (.expectation name mismatch) else pure (found ++ [mismatch])

theorem mismatches_eq (strict : Bool) (built : DerivedCreature) :
    mismatches strict built = built.checks.foldlM (checkNext strict built.name) [] :=
  rfl

/-- What stops some checks: one that cannot be made, or, if they are strict, one that is not met. -/
inductive CheckFault (strict : Bool) (name : String)
    (checks : List (Except ExpectationFault (Option Mismatch))) : BuildFault → Prop
  | application (fault : ApplicationFault) :
      .error (.application fault) ∈ checks →
      CheckFault strict name checks (.application (some name) fault)
  | number :
      .error .unwritableNumber ∈ checks →
      CheckFault strict name checks (.derivation .unwritableNumber)
  | unmet (mismatch : Mismatch) :
      strict = true →
      .ok (some mismatch) ∈ checks →
      CheckFault strict name checks (.expectation name mismatch)

theorem checkNext_within {strict : Bool} {name : String}
    {checks : List (Except ExpectationFault (Option Mismatch))}
    {check : Except ExpectationFault (Option Mismatch)} (member : check ∈ checks)
    (found : List Mismatch) :
    FailsWithin (CheckFault strict name checks) (checkNext strict name found check) := by
  cases check with
  | error fault =>
      cases fault with
      | application fault => exact failsWithin_error (.application fault member)
      | unwritableNumber => exact failsWithin_error (.number member)
  | ok outcome =>
      cases outcome with
      | none => exact failsWithin_ok found
      | some mismatch =>
          cases strict with
          | false => exact failsWithin_ok _
          | true => exact failsWithin_error (.unmet mismatch rfl member)

theorem mismatches_within (strict : Bool) (built : DerivedCreature) :
    FailsWithin (CheckFault strict built.name built.checks) (mismatches strict built) := by
  rw [mismatches_eq]
  exact failsWithin_foldlM (fun _ member found => checkNext_within member found) []

theorem lenientChecks_length {name : String} {found final : List Mismatch}
    {checks : List (Except ExpectationFault (Option Mismatch))}
    (checked : checks.foldlM (checkNext false name) found = .ok final) :
    found.length ≤ final.length := by
  induction checks generalizing found with
  | nil =>
      cases checked
      exact Nat.le_refl _
  | cons check others ih =>
      rw [List.foldlM_cons] at checked
      obtain ⟨next, first, checked⟩ := bind_eq_ok.mp checked
      have grows : found.length ≤ next.length := by
        cases check with
        | error checkFault => cases first
        | ok outcome =>
            cases outcome with
            | none =>
                cases first
                exact Nat.le_refl _
            | some mismatch =>
                cases first
                simp
      exact Nat.le_trans grows (ih checked)

theorem strictChecks_eq_ok_iff {name : String} {found final : List Mismatch}
    {checks : List (Except ExpectationFault (Option Mismatch))} :
    checks.foldlM (checkNext true name) found = .ok final ↔
      checks.foldlM (checkNext false name) found = .ok found ∧ final = found := by
  -- Starting from what was found before, so that one mismatch anywhere refutes the right side.
  induction checks generalizing found with
  | nil =>
      constructor
      · intro checked
        cases checked
        exact ⟨rfl, rfl⟩
      · rintro ⟨_, rfl⟩
        rfl
  | cons check others ih =>
      rw [List.foldlM_cons, List.foldlM_cons]
      cases check with
      | error checkFault =>
          constructor
          · intro impossible
            cases impossible
          · rintro ⟨impossible, _⟩
            cases impossible
      | ok outcome =>
          cases outcome with
          | none => exact ih
          | some mismatch =>
              constructor
              · intro impossible
                cases impossible
              · rintro ⟨checked, _⟩
                have grows := lenientChecks_length checked
                rw [List.length_append, List.length_singleton] at grows
                omega

theorem strictChecks_eq_ok_iff_met {name : String} {found final : List Mismatch}
    {checks : List (Except ExpectationFault (Option Mismatch))} :
    checks.foldlM (checkNext true name) found = .ok final ↔
      (∀ check ∈ checks, check = .ok none) ∧ final = found := by
  induction checks with
  | nil =>
      constructor
      · intro checked
        cases checked
        exact ⟨List.forall_mem_nil _, rfl⟩
      · rintro ⟨_, rfl⟩
        rfl
  | cons check others ih =>
      rw [List.foldlM_cons, List.forall_mem_cons]
      cases check with
      | error checkFault =>
          constructor
          · intro impossible
            cases impossible
          · rintro ⟨⟨impossible, _⟩, _⟩
            cases impossible
      | ok outcome =>
          cases outcome with
          | some mismatch =>
              constructor
              · intro impossible
                cases impossible
              · rintro ⟨⟨impossible, _⟩, _⟩
                cases impossible
          | none =>
              refine ih.trans ⟨?_, ?_⟩
              · rintro ⟨othersMet, same⟩
                exact ⟨⟨rfl, othersMet⟩, same⟩
              · rintro ⟨⟨_, othersMet⟩, same⟩
                exact ⟨othersMet, same⟩

/-- Strict checks stop at the first that is not met, or that cannot be made. -/
theorem strictChecks_stop {name : String} {found : List Mismatch} {fault : BuildFault}
    {check : Except ExpectationFault (Option Mismatch)}
    {earlier later : List (Except ExpectationFault (Option Mismatch))}
    (met : ∀ check ∈ earlier, check = .ok none)
    (stops : checkNext true name found check = .error fault) :
    (earlier ++ check :: later).foldlM (checkNext true name) found = .error fault := by
  have passed : earlier.foldlM (checkNext true name) found = .ok found :=
    strictChecks_eq_ok_iff_met.mpr ⟨met, rfl⟩
  rw [List.foldlM_append, passed, ok_bind, List.foldlM_cons, stops]
  rfl

theorem mismatches_strict_eq_ok_iff {built : DerivedCreature} {found : List Mismatch} :
    mismatches true built = .ok found ↔ mismatches false built = .ok [] ∧ found = [] := by
  rw [mismatches_eq, mismatches_eq]
  exact strictChecks_eq_ok_iff

end Bestiary.BuildContext
