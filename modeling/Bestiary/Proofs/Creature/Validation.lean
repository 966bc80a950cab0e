import Bestiary.Proofs.Creature.Expectation
import Bestiary.Proofs.Creature.Naming

/-!
Building and validating agree.

Both assemble the same creature, derive it and make the same checks. They
differ in what they do about a missing name and about expectations that are
not met, which a validation only warns of.
-/

namespace Bestiary

namespace Creature

theorem withSomeName_of_isSome {creature : Creature} (named : creature.name.isSome = true) :
    creature.withSomeName = creature := by
  obtain ⟨name, nameEq⟩ := Option.isSome_iff_exists.mp named
  have kept : some (creature.name.getD placeholderName) = creature.name := by
    rw [nameEq]
    rfl
  rw [withSomeName, kept]

theorem isSome_of_derive {creature : Creature} {passes : Nat} {built : DerivedCreature}
    (derived : creature.derive passes = .ok built) : creature.name.isSome = true := by
  unfold derive at derived
  split at derived
  · cases derived
  · rename_i name named
    rw [named]
    rfl

end Creature

namespace Verdict

theorem errors_of_reject {warnings : List String} {fault : BuildFault} {verdict : Verdict}
    (rejected : reject warnings fault = .ok verdict) : verdict.errors ≠ [] := by
  unfold reject at rejected
  split at rejected
  · cases rejected
    exact List.cons_ne_nil _ _
  · cases rejected

theorem reject_reported {warnings : List String} {fault : BuildFault} {report : Report}
    (reported : fault.report? = some report) :
    reject warnings fault = .ok ⟨[report.text], warnings, none⟩ := by
  rw [reject, reported]

end Verdict

namespace BuildContext

variable {context : BuildContext} {reference : Option String} {form : DocumentForm}

def nameWarnings (creature : Creature) : List String :=
  if creature.name.isNone then ["Creature has no name"] else []

theorem nameWarnings_eq_nil_iff {creature : Creature} :
    nameWarnings creature = [] ↔ creature.name.isSome = true := by
  cases named : creature.name <;> simp [nameWarnings, named]

theorem build_eq_ok_iff {built : DerivedCreature} :
    context.build reference form = .ok built ↔
      ∃ creature found, context.assemble reference form = .ok creature ∧
        context.derive creature = .ok built ∧
        mismatches context.settings.strictExpectations built = .ok found := by
  constructor
  · intro success
    obtain ⟨creature, assembled, success⟩ := bind_eq_ok.mp success
    obtain ⟨derived, derivation, success⟩ := bind_eq_ok.mp success
    obtain ⟨found, checked, success⟩ := bind_eq_ok.mp success
    cases success
    exact ⟨creature, found, assembled, derivation, checked⟩
  · rintro ⟨creature, found, assembled, derived, checked⟩
    rw [build, assembled, ok_bind, derived, ok_bind, checked]
    rfl

/-- A validation finds no error exactly when its three steps, of which the last is lenient,
succeed for the creature with some name. -/
theorem validate_without_errors_iff {verdict : Verdict} :
    context.validate reference form = .ok verdict ∧ verdict.errors = [] ↔
      ∃ creature built found, context.assemble reference form = .ok creature ∧
        context.derive creature.withSomeName = .ok built ∧ mismatches false built = .ok found ∧
        verdict = ⟨[], nameWarnings creature ++ found.map Mismatch.message,
          some built.derived.challengeRating⟩ := by
  constructor
  · rintro ⟨validated, faultless⟩
    unfold validate at validated
    split at validated
    · exact (Verdict.errors_of_reject validated faultless).elim
    · rename_i creature assembled
      simp only at validated
      split at validated
      · exact (Verdict.errors_of_reject validated faultless).elim
      · rename_i built found appraised
        obtain ⟨derived, success, appraised⟩ := bind_eq_ok.mp appraised
        obtain ⟨unmet, checked, appraised⟩ := bind_eq_ok.mp appraised
        cases appraised
        cases validated
        exact ⟨creature, built, found, assembled, success, checked, rfl⟩
  · rintro ⟨creature, built, found, assembled, derived, checked, rfl⟩
    have appraised : context.appraise creature.withSomeName = .ok (built, found) := by
      rw [appraise, derived, ok_bind, checked]
      rfl
    rw [validate, assembled]
    simp only [appraised]
    exact ⟨rfl, trivial⟩

theorem lenient_of_checked {strict : Bool} {built : DerivedCreature} {found : List Mismatch}
    (checked : mismatches strict built = .ok found) : mismatches false built = .ok found := by
  cases strict with
  | false => exact checked
  | true =>
      obtain ⟨lenient, rfl⟩ := mismatches_strict_eq_ok_iff.mp checked
      exact lenient

theorem validate_of_build {built : DerivedCreature}
    (success : context.build reference form = .ok built) :
    ∃ creature found, context.assemble reference form = .ok creature ∧
      creature.name.isSome = true ∧
      mismatches context.settings.strictExpectations built = .ok found ∧
      context.validate reference form =
        .ok ⟨[], found.map Mismatch.message, some built.derived.challengeRating⟩ := by
  obtain ⟨creature, found, assembled, derived, checked⟩ := build_eq_ok_iff.mp success
  have named : creature.name.isSome = true :=
    Creature.isSome_of_derive (mapError_eq_ok.mp derived)
  have derived' : context.derive creature.withSomeName = .ok built := by
    rw [Creature.withSomeName_of_isSome named]
    exact derived
  have validated := validate_without_errors_iff.mpr
    ⟨creature, built, found, assembled, derived', lenient_of_checked checked, rfl⟩
  refine ⟨creature, found, assembled, named, checked, ?_⟩
  rw [validated.1, nameWarnings_eq_nil_iff.mpr named, List.nil_append]

theorem build_of_validate {creature : Creature} {built : DerivedCreature} {found : List Mismatch}
    (assembled : context.assemble reference form = .ok creature)
    (named : creature.name.isSome = true)
    (derived : context.derive creature.withSomeName = .ok built)
    (checked : mismatches context.settings.strictExpectations built = .ok found) :
    context.build reference form = .ok built := by
  rw [Creature.withSomeName_of_isSome named] at derived
  exact build_eq_ok_iff.mpr ⟨creature, found, assembled, derived, checked⟩

theorem validate_of_build_error {fault : BuildFault} {report : Report}
    (lenient : context.settings.strictExpectations = false)
    (named : context.SetsName reference form)
    (failed : context.build reference form = .error fault)
    (reported : fault.report? = some report) :
    ∃ warnings, context.validate reference form = .ok ⟨[report.text], warnings, none⟩ := by
  unfold validate
  cases assembled : context.assemble reference form with
  | error stopped =>
      rw [build, assembled] at failed
      cases failed
      exact ⟨[], Verdict.reject_reported reported⟩
  | ok creature =>
      have hasName := (name_isSome_iff_setsName assembled).mpr named
      have appraised : context.appraise creature = .error fault := by
        rw [build, assembled, ok_bind, lenient] at failed
        rcases bind_eq_error.mp failed with derivation | ⟨built, derived, failed⟩
        · exact bind_eq_error.mpr (.inl derivation)
        · rcases bind_eq_error.mp failed with checking | ⟨_, _, impossible⟩
          · exact bind_eq_error.mpr
              (.inr ⟨built, derived, bind_eq_error.mpr (.inl checking)⟩)
          · cases impossible
      simp only [Creature.withSomeName_of_isSome hasName, appraised]
      exact ⟨_, Verdict.reject_reported reported⟩

/-- Building and validating agree. A strict build succeeds exactly when validation has nothing to
say; a lenient one exactly when validation finds no error and the document sets a name. What is
built has the rating that validation tells; and where a lenient build of a document that sets
a name fails with a report, validation finds just that. -/
theorem validate_agrees_with_build (context : BuildContext) (reference : Option String)
    (form : DocumentForm) :
    (context.settings.strictExpectations = true →
      ((∃ built, context.build reference form = .ok built) ↔
        ∃ verdict, context.validate reference form = .ok verdict ∧ verdict.errors = [] ∧
          verdict.warnings = [])) ∧
    (context.settings.strictExpectations = false →
      ((∃ built, context.build reference form = .ok built) ↔
        (∃ verdict, context.validate reference form = .ok verdict ∧ verdict.errors = []) ∧
          context.SetsName reference form)) ∧
    (∀ built, context.build reference form = .ok built →
      ∃ verdict, context.validate reference form = .ok verdict ∧
        verdict.challengeRating.map Rating.text = some built.derived.challengeRating.text) ∧
    (context.settings.strictExpectations = false → context.SetsName reference form →
      ∀ fault report, context.build reference form = .error fault →
        fault.report? = some report →
          ∃ verdict, context.validate reference form = .ok verdict ∧
            verdict.errors = [report.text] ∧ verdict.challengeRating = none) := by
  refine ⟨?strict, ?lenient, ?rating, ?failure⟩
  case strict =>
    intro strict
    constructor
    · rintro ⟨built, success⟩
      obtain ⟨creature, found, _, _, checked, validated⟩ := validate_of_build success
      rw [strict] at checked
      obtain ⟨_, rfl⟩ := mismatches_strict_eq_ok_iff.mp checked
      exact ⟨_, validated, rfl, rfl⟩
    · rintro ⟨verdict, validated, faultless, silent⟩
      obtain ⟨creature, built, found, assembled, derived, checked, rfl⟩ :=
        validate_without_errors_iff.mp ⟨validated, faultless⟩
      -- No warning means a name and nothing found, which is when strict checks pass too.
      obtain ⟨named, noMessages⟩ := List.append_eq_nil_iff.mp silent
      obtain rfl : found = [] := List.map_eq_nil_iff.mp noMessages
      have strictChecked :
          mismatches context.settings.strictExpectations built = .ok [] := by
        rw [strict]
        exact mismatches_strict_eq_ok_iff.mpr ⟨checked, rfl⟩
      exact ⟨built, build_of_validate assembled (nameWarnings_eq_nil_iff.mp named) derived
        strictChecked⟩
  case lenient =>
    intro lenient
    constructor
    · rintro ⟨built, success⟩
      obtain ⟨creature, found, assembled, named, _, validated⟩ := validate_of_build success
      exact ⟨⟨_, validated, rfl⟩, (name_isSome_iff_setsName assembled).mp named⟩
    · rintro ⟨⟨verdict, validated, faultless⟩, named⟩
      obtain ⟨creature, built, found, assembled, derived, checked, rfl⟩ :=
        validate_without_errors_iff.mp ⟨validated, faultless⟩
      rw [← lenient] at checked
      exact ⟨built, build_of_validate assembled
        ((name_isSome_iff_setsName assembled).mpr named) derived checked⟩
  case rating =>
    intro built success
    obtain ⟨_, _, _, _, _, validated⟩ := validate_of_build success
    exact ⟨_, validated, rfl⟩
  case failure =>
    intro lenient named fault report failed reported
    obtain ⟨warnings, validated⟩ := validate_of_build_error lenient named failed reported
    exact ⟨_, validated, rfl, rfl⟩

theorem validate_agrees_with_build_named :
    let strict : BuildContext := {}
    let lenient : BuildContext := { settings := { strictExpectations := false } }
    let named : DocumentForm := .directives [.version formatVersion none, .name "Wolf"]
    let broken : DocumentForm :=
      .directives [.version formatVersion none, .name "Wolf", .remove .features "Keen"]
    let removalText := "Cannot remove feature 'Keen': not found [action='Keen', creature='Wolf']"
    (∃ verdict, strict.validate none named = .ok verdict ∧ verdict.errors = [] ∧
        verdict.warnings = []) ∧
      ∃ verdict, lenient.validate none broken = .ok verdict ∧
        verdict.errors = [removalText] ∧ verdict.challengeRating = none := by
  intro strict lenient named broken removalText
  obtain ⟨succeeds, _, _, _⟩ := validate_agrees_with_build strict none named
  obtain ⟨_, _, _, fails⟩ := validate_agrees_with_build lenient none broken
  constructor
  · have builds : (strict.build none named).toBool = true := by
      decide +kernel
    cases success : strict.build none named with
    | error fault =>
        rw [success] at builds
        cases builds
    | ok built => exact (succeeds rfl).mp ⟨built, success⟩
  · have told : (match lenient.build none broken with
        | .ok _ => none
        | .error fault => fault.report?.map Report.text) = some removalText := by
      decide +kernel
    have setsName : lenient.SetsName none broken :=
      ⟨_, "Wolf", rfl, List.mem_cons_of_mem _ List.mem_cons_self⟩
    cases failed : lenient.build none broken with
    | ok built =>
        rw [failed] at told
        cases told
    | error fault =>
        rw [failed] at told
        obtain ⟨report, reported, textEq⟩ := Option.map_eq_some_iff.mp told
        obtain ⟨verdict, validated, errors, unrated⟩ :=
          fails rfl setsName fault report failed reported
        exact ⟨verdict, validated, errors.trans (congrArg ([·]) textEq), unrated⟩

end BuildContext

end Bestiary
