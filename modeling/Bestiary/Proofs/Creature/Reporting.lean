import Bestiary.Proofs.Creature.Validation
import Bestiary.Proofs.Prose.Faults

/-!
What a validation reports.

A validation tells what is wrong with a document and goes on telling whatever
the document is, with one exception: a number. Digits that are no numeral and
integers too long to be read or shown have no report. Each step that leads to a
verdict is shown to meet no other fault without one.
-/

namespace Bestiary

open Document Prose Validation

/-! ### Documents -/

/-- A fault of a document that is about a number alone: a numeral is too long to be read, or what
would be shown of an entry has an integer that is too long to be written. -/
inductive DocumentFault.IsAboutNumber : DocumentFault → Prop
  | oversized (place : Text.Place) : IsAboutNumber (.unreadable ⟨.oversizedNumeral, place⟩)
  | tag {tag : Value} (first : Issue) (others : List Issue) :
      tag.isWritable = false →
      IsAboutNumber (.entry (.fields tag first others))
  | input {first : Issue} {others : List Issue} (tag : Value) :
      (∀ issue ∈ first :: others, issue.kind.isRange = true) →
      first.input.isWritable = false →
      IsAboutNumber (.entry (.fields tag first others))

theorem DocumentError.explained (error : DocumentError) :
    error.isReported = true ∨ error.fault.IsAboutNumber := by
  obtain ⟨fault, index⟩ := error
  cases fault with
  | unreadable read =>
      obtain ⟨fault, place⟩ := read
      cases fault with
      | oversizedNumeral => exact .inr (.oversized place)
      | _ => exact .inl rfl
  | entry fault =>
      cases fault with
      | fields tag first others =>
          cases shown : tag.isWritable with
          | false => exact .inr (.tag first others shown)
          | true =>
              cases range : (EntryFault.fields tag first others).isRange with
              | false => exact .inl (by simp [isReported, EntryFault.isReported, shown, range])
              | true =>
                  cases given : first.input.isWritable with
                  | false => exact .inr (.input tag (List.all_eq_true.mp range) given)
                  | true => exact .inl (by simp [isReported, EntryFault.isReported, shown, given])
      | _ => exact .inl rfl
  | _ => exact .inl rfl

theorem DocumentFault.IsAboutNumber.unreported {error : DocumentError}
    (about : error.fault.IsAboutNumber) : error.isReported = false := by
  obtain ⟨fault, index⟩ := error
  cases about with
  | oversized place => rfl
  | tag first others shown => simp [DocumentError.isReported, EntryFault.isReported, shown]
  | input tag range given =>
      have isRange : (EntryFault.fields tag _ _).isRange = true := List.all_eq_true.mpr range
      simp [DocumentError.isReported, EntryFault.isReported, isRange, given]

/-! ### Assembling -/

/-- A fault of an include that is about a number alone: one of the text that the library has, or
one of the document that the text becomes. -/
inductive InclusionError.IsAboutNumber (context : BuildContext) : InclusionError → Prop
  | template {library : Library} {reference text : String} {error : ProseError}
      (chain : List String) :
      context.library = some library →
      library reference = .ok text →
      error.fault.IsAboutNumber text.toList →
      IsAboutNumber context ⟨.template error, reference, chain⟩
  | document {error : DocumentError} (reference : String) (chain : List String) :
      error.fault.IsAboutNumber →
      IsAboutNumber context ⟨.document error, reference, chain⟩

inductive BuildFault.IsAboutNumber (context : BuildContext) : BuildFault → Prop
  | document {error : DocumentError} (source : String) :
      error.fault.IsAboutNumber →
      IsAboutNumber context (.document source error)
  | inclusion {error : InclusionError} :
      error.IsAboutNumber context →
      IsAboutNumber context (.inclusion error)

theorem BuildFault.IsAboutNumber.unreported {context : BuildContext} {fault : BuildFault}
    (about : fault.IsAboutNumber context) : fault.report? = none := by
  cases about with
  | document source documentAbout =>
      simp [report?, DocumentError.report?, documentAbout.unreported]
  | inclusion inclusionAbout =>
      cases inclusionAbout with
      | template chain _ _ textAbout =>
          simp [report?, InclusionError.report?, InclusionError.isReported, textAbout.unreported]
      | document reference chain documentAbout =>
          simp [report?, InclusionError.report?, InclusionError.isReported,
            documentAbout.unreported]

def InclusionError.IsExplained (context : BuildContext) (error : InclusionError) : Prop :=
  error.isReported = true ∨ error.IsAboutNumber context

def BuildFault.IsExplained (context : BuildContext) (fault : BuildFault) : Prop :=
  fault.report?.isSome = true ∨ fault.IsAboutNumber context

namespace BuildContext

variable {context : BuildContext}

theorem readIncluded_explained {library : Library} {reference text : String}
    (supplied : context.library = some library) (resolved : library reference = .ok text)
    (chain : List String) (arguments : List (String × IncludeArgument)) :
    FailsWithin (fun fault => (⟨fault, reference, chain⟩ : InclusionError).IsExplained context)
      (readIncluded arguments text) := by
  unfold readIncluded
  refine FailsWithin.bind (.mapError fun error failed => ?_) fun filled _ =>
    .mapError fun error _ => ?_
  · exact (fillTemplate_explained _ text error failed).imp_right fun about =>
      .template chain supplied resolved about
  · exact error.explained.imp_right fun about => .document reference chain about

theorem openInclude_explained (chain : List String) (room : Nat) (reference : String)
    (arguments : List (String × IncludeArgument)) :
    FailsWithin (fun error => error.IsExplained context)
      (context.openInclude chain room reference arguments) := by
  unfold openInclude findIncluded
  apply FailsWithin.mapError
  cases chain.contains reference with
  | true => exact failsWithin_error (.inl rfl)
  | false =>
      by_cases full : room = 0
      · subst full
        exact failsWithin_error (.inl rfl)
      · cases supplied : context.library with
        | none =>
            change FailsWithin _ (if room = 0 then _ else Except.error InclusionFault.noLibrary)
            rw [if_neg full]
            exact failsWithin_error (.inl rfl)
        | some library =>
            change FailsWithin _ (if room = 0 then _ else
              (library reference).mapError .unresolved >>= readIncluded arguments)
            rw [if_neg full]
            refine FailsWithin.bind (.mapError fun _ _ => .inl rfl) fun text resolved => ?_
            exact readIncluded_explained supplied (mapError_eq_ok.mp resolved) _ arguments

theorem applyStep_explained {chain : List String} {room : Nat}
    {enter : String → List Directive → Creature → Except Halt Creature}
    (entered : ∀ reference included creature,
      FailsWithin (fun halt => halt.fault.IsExplained context) (enter reference included creature))
    (creature : Creature) (directive : Directive) :
    FailsWithin (fun halt => halt.fault.IsExplained context)
      (context.applyStep chain room enter creature directive) := by
  unfold applyStep
  split
  · simp only
    split
    · exact failsWithin_ok _
    · exact failsWithin_error (.inl rfl)
  · rename_i reference arguments
    split
    · exact entered reference _ creature
    · rename_i error failed
      apply failsWithin_error
      rcases openInclude_explained chain room reference arguments error failed with
        reported | about
      · left
        simp [BuildFault.report?, InclusionError.report?, reported]
      · exact .inr (.inclusion about)
  · unfold Change.carryOut
    split
    · exact failsWithin_ok _
    · exact failsWithin_error (.inl rfl)

theorem applyAll_explained (room : Nat) (chain : List String) (directives : List Directive)
    (creature : Creature) :
    FailsWithin (fun halt => halt.fault.IsExplained context)
      (context.applyAll room chain directives creature) := by
  induction room generalizing chain directives creature with
  | zero =>
      exact failsWithin_foldlM (fun directive _ reached =>
        applyStep_explained (fun _ _ _ => failsWithin_ok _) reached directive) creature
  | succ room ih =>
      exact failsWithin_foldlM (fun directive _ reached =>
        applyStep_explained (fun _ included inner => ih _ included inner) reached directive)
        creature

theorem assemble_explained (reference : Option String) (form : DocumentForm) :
    FailsWithin (fun fault => fault.IsExplained context) (context.assemble reference form) := by
  unfold assemble load
  refine FailsWithin.bind (.mapError fun error _ => ?_) fun directives _ => ?_
  · rcases error.explained with reported | about
    · left
      simp [BuildFault.report?, DocumentError.report?, reported]
    · exact .inr (.document _ about)
  · exact .mapError (applyAll_explained _ _ directives {})

end BuildContext

/-! ### Deriving -/

namespace Creature

def drafts (creature : Creature) : List EntryDraft :=
  creature.featureDrafts ++ creature.actionDrafts ++ creature.reactions.map featureDraft ++
    creature.legendaryActions.map legendaryDraft

def sources (creature : Creature) : List String :=
  (if creature.legendaryActions.isEmpty then [] else [creature.legendaryIntroduction]) ++
    creature.drafts.map EntryDraft.source

end Creature

/-- A fault of deriving a creature that is about a number alone: one in a text, a draft with a
number that is too long to be written, or such a number in the effect of an attack that the rating
is computed from. -/
inductive DerivationFault.IsAboutNumber (creature : Creature) : DerivationFault → Prop
  | text {source : String} {error : ProseError} (name entry : String) :
      source ∈ creature.sources →
      error.fault.IsAboutNumber source.toList →
      IsAboutNumber creature (.text name entry error)
  | generated {draft : EntryDraft} :
      draft ∈ creature.drafts →
      draft.writable = false →
      IsAboutNumber creature .unwritableNumber
  | effect {action : Action} :
      creature.challengeRatingOverride = none →
      action ∈ creature.actions →
      action.tellsEffect = false →
      IsAboutNumber creature .unwritableNumber

theorem DerivationFault.IsAboutNumber.unreported {creature : Creature} {fault : DerivationFault}
    (about : fault.IsAboutNumber creature) : fault.report? = none := by
  cases about with
  | text name entry _ textAbout => simp [report?, textAbout.unreported]
  | generated _ _ => rfl
  | effect _ _ _ => rfl

def DerivationFault.IsExplained (creature : Creature) (fault : DerivationFault) : Prop :=
  fault.report?.isSome = true ∨ fault.IsAboutNumber creature

namespace Creature

variable {creature : Creature}

theorem interpolateEntry_explained {source : String} (listed : source ∈ creature.sources)
    (name entry : String) (scope : List (String × ProseValue)) :
    FailsWithin (fun fault => fault.IsExplained creature)
      (interpolateEntry name entry scope source) := by
  unfold interpolateEntry
  refine .mapError fun error failed => ?_
  rcases interpolate_explained _ _ source error failed with reported | about
  · left
    simp [DerivationFault.report?, reported]
  · exact .inr (.text name entry listed about)

theorem finish_explained {draft : EntryDraft} (listed : draft ∈ creature.drafts) (name : String)
    (scope : List (String × ProseValue)) :
    FailsWithin (fun fault => fault.IsExplained creature) (draft.finish name scope) := by
  unfold EntryDraft.finish
  split
  · have source : draft.source ∈ creature.sources :=
      List.mem_append_right _ (List.mem_map_of_mem listed)
    exact (interpolateEntry_explained source name draft.name scope).bind fun _ _ =>
      failsWithin_ok _
  · rename_i unwritable
    exact failsWithin_error (.inr (.generated listed (Bool.eq_false_iff.mpr unwritable)))

theorem findRating_explained (creature : Creature) (passes : Nat) :
    FailsWithin (fun fault => fault.IsExplained creature) (creature.findRating passes) := by
  unfold findRating
  split
  · exact failsWithin_ok _
  · rename_i lacking
    simp only [Bool.or_eq_true, List.all_eq_true, not_or, not_forall] at lacking
    obtain ⟨unrated, action, member, untold⟩ := lacking
    exact failsWithin_error (.inr
      (.effect (Option.not_isSome_iff_eq_none.mp unrated) member (Bool.eq_false_iff.mpr untold)))

theorem deriveNamed_within {sort : DerivationFault → Prop} {name : String} {passes : Nat}
    (rated : FailsWithin sort (creature.findRating passes))
    (finished : ∀ draft ∈ creature.drafts, ∀ scope, FailsWithin sort (draft.finish name scope))
    (introduced : creature.legendaryActions.isEmpty = false → ∀ scope,
      FailsWithin sort
        (interpolateEntry name "Legendary Actions" scope creature.legendaryIntroduction)) :
    FailsWithin sort (creature.deriveNamed name passes) := by
  have finishes {drafts : List EntryDraft} (listed : drafts ⊆ creature.drafts)
      (scope : List (String × ProseValue)) :
      FailsWithin sort (drafts.mapM (EntryDraft.finish name scope)) :=
    failsWithin_mapM fun draft member => finished draft (listed member) scope
  unfold deriveNamed
  refine rated.bind fun rating _ => ?_
  refine (finishes (fun draft member => ?features) _).bind fun _ _ => ?_
  case features =>
    exact List.mem_append_left _ (List.mem_append_left _ (List.mem_append_left _ member))
  refine (finishes (fun draft member => ?actions) _).bind fun _ _ => ?_
  case actions =>
    exact List.mem_append_left _ (List.mem_append_left _ (List.mem_append_right _ member))
  refine (finishes (fun draft member => ?reactions) _).bind fun _ _ => ?_
  case reactions => exact List.mem_append_left _ (List.mem_append_right _ member)
  have legendary := finishes (fun draft member => List.mem_append_right _ member)
    (creature.proseVariables rating.proficiency)
  by_cases none : creature.legendaryActions.isEmpty = true
  · simp only [if_pos none]
    exact (failsWithin_ok _).bind fun _ _ => legendary.bind fun _ _ => failsWithin_ok _
  · simp only [if_neg none]
    refine FailsWithin.bind ?_ fun _ _ => legendary.bind fun _ _ => failsWithin_ok _
    exact (introduced (Bool.eq_false_iff.mpr none) _).bind fun _ _ => failsWithin_ok _

theorem deriveNamed_explained (name : String) (passes : Nat) (creature : Creature) :
    FailsWithin (fun fault => fault.IsExplained creature) (creature.deriveNamed name passes) := by
  refine deriveNamed_within (findRating_explained creature passes)
    (fun draft listed => finish_explained listed name) ?_
  intro some scope
  refine interpolateEntry_explained ?_ name _ scope
  rw [sources, some]
  exact List.mem_append_left _ List.mem_cons_self

theorem derive_explained (passes : Nat) (creature : Creature) :
    FailsWithin (fun fault => fault.IsExplained creature) (creature.derive passes) := by
  unfold derive
  split
  · exact failsWithin_error (.inl rfl)
  · exact (deriveNamed_explained _ passes creature).bind fun _ _ => failsWithin_ok _

end Creature

/-! ### Verdicts -/

namespace BuildContext

/-- A fault of appraising a creature that is about a number alone: one of deriving it, or one of
checking what is expected of a weapon, in the effect of the weapon. -/
inductive StopsAppraisal (context : BuildContext) (creature : Creature) : BuildFault → Prop
  | derivation {cause : DerivationFault} :
      context.derive creature = .error (.derivation cause) →
      cause.IsAboutNumber creature →
      StopsAppraisal context creature (.derivation cause)
  | check {built : DerivedCreature} {expectation : WeaponExpectation} :
      context.derive creature = .ok built →
      mismatches false built = .error (.derivation .unwritableNumber) →
      expectation ∈ built.creature.weaponExpectations →
      built.creature.tellsWeapon expectation.weapon = false →
      StopsAppraisal context creature (.derivation .unwritableNumber)

theorem StopsAppraisal.unreported {context : BuildContext} {creature : Creature}
    {fault : BuildFault} (stops : context.StopsAppraisal creature fault) :
    fault.report? = none := by
  cases stops with
  | derivation _ about => exact about.unreported
  | check _ _ _ _ => rfl

theorem StopsAppraisal.appraise {context : BuildContext} {creature : Creature}
    {fault : BuildFault} (stops : context.StopsAppraisal creature fault) :
    context.appraise creature = .error fault := by
  cases stops with
  | derivation failed _ => exact bind_eq_error.mpr (.inl failed)
  | check derived failed _ _ =>
      exact bind_eq_error.mpr (.inr ⟨_, derived, bind_eq_error.mpr (.inl failed)⟩)

theorem exists_untold {built : DerivedCreature}
    (unchecked : .error .unwritableNumber ∈ built.checks) :
    ∃ expectation ∈ built.creature.weaponExpectations,
      built.creature.tellsWeapon expectation.weapon = false := by
  rcases List.mem_cons.mp unchecked with impossible | member
  · cases impossible
  · obtain ⟨expectation, expected, failed⟩ := List.mem_map.mp member
    refine ⟨expectation, expected, ?_⟩
    unfold Creature.checkWeapon at failed
    split at failed
    · cases failed
    · split at failed
      · cases failed
      · rename_i untold
        exact Bool.eq_false_iff.mpr untold

theorem appraise_explained {context : BuildContext} {creature : Creature} {fault : BuildFault}
    (failed : context.appraise creature = .error fault) :
    fault.report?.isSome = true ∨ context.StopsAppraisal creature fault := by
  rcases bind_eq_error.mp failed with failed | ⟨built, derived, failed⟩
  · obtain ⟨cause, derivation, rfl⟩ := mapError_eq_error.mp failed
    rcases Creature.derive_explained _ creature cause derivation with reported | about
    · exact .inl reported
    · exact .inr (.derivation failed about)
  · rcases bind_eq_error.mp failed with checking | ⟨_, _, impossible⟩
    · cases mismatches_within _ _ _ checking with
      | application _ _ => exact .inl rfl
      | number unchecked =>
          obtain ⟨expectation, expected, untold⟩ := exists_untold unchecked
          exact .inr (.check derived checking expected untold)
      | unmet _ impossible _ => cases impossible
    · cases impossible

end BuildContext

/-- A verdict either finds no error and tells a rating, or it tells the one error that there is. -/
structure Verdict.IsDecided (verdict : Verdict) : Prop where
  oneError : verdict.errors.length ≤ 1
  rated : verdict.challengeRating.isSome = true ↔ verdict.errors = []

namespace Verdict

theorem decided_of_reject {warnings : List String} {fault : BuildFault} {verdict : Verdict}
    (rejected : reject warnings fault = .ok verdict) : verdict.IsDecided := by
  unfold reject at rejected
  split at rejected
  · cases rejected
    refine ⟨Nat.le_refl 1, ?_⟩
    constructor
    · intro impossible
      cases impossible
    · intro impossible
      cases impossible
  · cases rejected

theorem exists_reject {fault : BuildFault} (warnings : List String) :
    (∃ verdict, reject warnings fault = .ok verdict) ↔ fault.report?.isSome = true := by
  constructor
  · rintro ⟨verdict, rejected⟩
    unfold reject at rejected
    split at rejected
    · rename_i report reported
      rw [reported]
      rfl
    · cases rejected
  · intro reported
    obtain ⟨report, found⟩ := Option.isSome_iff_exists.mp reported
    exact ⟨_, reject_reported found⟩

end Verdict

namespace BuildContext

/-- A validation meets a number that it cannot tell of: in a document on the way to the creature,
or else in a text of the creature or in the effect of an attack. -/
inductive StopsAtNumber (context : BuildContext) (reference : Option String)
    (form : DocumentForm) : Prop
  | assembly {fault : BuildFault} :
      context.assemble reference form = .error fault →
      fault.IsAboutNumber context →
      StopsAtNumber context reference form
  | appraisal {creature : Creature} {fault : BuildFault} :
      context.assemble reference form = .ok creature →
      context.StopsAppraisal creature.withSomeName fault →
      StopsAtNumber context reference form

variable {context : BuildContext} {reference : Option String} {form : DocumentForm}

theorem exists_verdict (free : ¬context.StopsAtNumber reference form) :
    ∃ verdict, context.validate reference form = .ok verdict := by
  unfold validate
  cases assembled : context.assemble reference form with
  | error fault =>
      rcases assemble_explained reference form fault assembled with reported | about
      · exact (Verdict.exists_reject []).mpr reported
      · exact (free (.assembly assembled about)).elim
  | ok creature =>
      simp only
      cases appraised : context.appraise creature.withSomeName with
      | ok outcome => exact ⟨_, rfl⟩
      | error fault =>
          rcases appraise_explained appraised with reported | stops
          · exact (Verdict.exists_reject _).mpr reported
          · exact (free (.appraisal assembled stops)).elim

theorem no_verdict (stops : context.StopsAtNumber reference form) (verdict : Verdict) :
    context.validate reference form ≠ .ok verdict := by
  intro validated
  unfold validate at validated
  cases stops with
  | assembly assembled about =>
      rw [assembled] at validated
      have reported := (Verdict.exists_reject []).mp ⟨verdict, validated⟩
      rw [about.unreported] at reported
      cases reported
  | appraisal assembled stopped =>
      rw [assembled] at validated
      simp only [stopped.appraise] at validated
      have reported := (Verdict.exists_reject _).mp ⟨verdict, validated⟩
      rw [stopped.unreported] at reported
      cases reported

theorem validate_decided {verdict : Verdict}
    (validated : context.validate reference form = .ok verdict) : verdict.IsDecided := by
  unfold validate at validated
  split at validated
  · exact Verdict.decided_of_reject validated
  · simp only at validated
    split at validated
    · exact Verdict.decided_of_reject validated
    · cases validated
      refine ⟨Nat.zero_le 1, ?_⟩
      constructor
      · intro _
        rfl
      · intro _
        rfl

/-- Validating a document tells a verdict, with at most one error and a rating exactly if there is
none, unless it stops at a number: digits that are no numeral, or an integer that is too long to
be read or shown. -/
theorem validate_reports (context : BuildContext) (reference : Option String)
    (form : DocumentForm) :
    ((∃ verdict, context.validate reference form = .ok verdict) ↔
      ¬context.StopsAtNumber reference form) ∧
    ∀ verdict, context.validate reference form = .ok verdict → verdict.IsDecided := by
  refine ⟨?_, fun verdict => validate_decided⟩
  constructor
  · rintro ⟨verdict, validated⟩ stops
    exact no_verdict stops verdict validated
  · exact exists_verdict

theorem validate_reports_unclosed :
    let form : DocumentForm := .text
      "[\x7b\"version\": 1\x7d, \x7b\"name\": \"Rat\"\x7d, \x7b\"feature\": [\"Odd\", \"$\x7b2\"]\x7d]"
    ∃ verdict, ({} : BuildContext).validate none form = .ok verdict ∧
      ¬({} : BuildContext).StopsAtNumber none form ∧ verdict.IsDecided := by
  intro form
  obtain ⟨accepts, decided⟩ := validate_reports {} none form
  obtain ⟨verdict, validated⟩ :
      ∃ verdict, ({} : BuildContext).validate none form = .ok verdict :=
    exists_ok_of_toOption (by decide +kernel)
  exact ⟨verdict, validated, accepts.mp ⟨verdict, validated⟩, decided verdict validated⟩

/-- A digit without a decimal value in a text leaves a document without a verdict. -/
theorem no_verdict_on_superscript :
    let form : DocumentForm := .text
      "[\x7b\"version\": 1\x7d, \x7b\"name\": \"Rat\"\x7d, \x7b\"feature\": [\"Odd\", \"$\x7b²\x7d\"]\x7d]"
    ∃ fault, ({} : BuildContext).validate none form = .error fault := by
  intro form
  exact exists_error_of_toOption (by decide +kernel)

end BuildContext

end Bestiary
