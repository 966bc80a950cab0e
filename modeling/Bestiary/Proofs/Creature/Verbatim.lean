import Bestiary.Proofs.Creature.Inclusion
import Bestiary.Proofs.Document.Escape
import Bestiary.Proofs.Prose.Template

/-!
Including a document without placeholders.

Such a document is taken as it stands, but for the backslashes that stand
before a dollar sign. A document that can be read has those only at the end of
an even number of backslashes, where each two of them mean one; with one of
them gone the dollar sign itself is escaped, and nothing can be read any more.
So a document without placeholders is either included unchanged or refused.
-/

namespace Bestiary

open Document Prose

/-! ### Backslashes before dollar signs -/

theorem unescape_keep {head : Char} {tail : List Char}
    (kept : ¬(head = '\\' ∧ tail.head? = some '$')) :
    unescape .template (head :: tail) = head :: unescape .template tail := by
  cases tail with
  | nil => rfl
  | cons second others =>
      have plain : ¬(head == '\\' && Dialect.template.escapes second) = true := by
        intro escaped
        obtain ⟨isBackslash, isDollar⟩ := Bool.and_eq_true_iff.mp escaped
        exact kept ⟨beq_iff_eq.mp isBackslash, congrArg some (beq_iff_eq.mp isDollar)⟩
      rw [unescape, if_neg plain]

theorem hasPair_keep {head : Char} {tail : List Char}
    (kept : ¬(head = '\\' ∧ tail.head? = some '$')) :
    hasPair '\\' '$' (head :: tail) = hasPair '\\' '$' tail := by
  cases tail with
  | nil => rfl
  | cons second others =>
      have noPair : (head == '\\' && second == '$') = false := by
        apply eq_false_of_ne_true
        intro pair
        obtain ⟨isBackslash, isDollar⟩ := Bool.and_eq_true_iff.mp pair
        exact kept ⟨beq_iff_eq.mp isBackslash, congrArg some (beq_iff_eq.mp isDollar)⟩
      rw [hasPair, noPair, Bool.false_or]

theorem Document.Escaped.not_unescape {input : List Char} (escaped : Escaped input)
    (pair : hasPair '\\' '$' input = true) : ¬Escaped (unescape .template input) := by
  induction escaped with
  | nil => cases pair
  | @plain character tail other _ ih =>
      have kept : ¬(character = '\\' ∧ tail.head? = some '$') := fun both => other both.1
      rw [hasPair_keep kept] at pair
      rw [unescape_keep kept]
      intro remains
      exact ih pair (remains.tail other)
  | @escape letter tail notDollar _ ih =>
      have kept : ¬('\\' = '\\' ∧ (letter :: tail).head? = some '$') := fun both =>
        notDollar (Option.some.inj both.2)
      rw [hasPair_keep kept] at pair
      rw [unescape_keep kept]
      by_cases dropped : letter = '\\' ∧ tail.head? = some '$'
      · obtain ⟨rfl, isDollar⟩ := dropped
        obtain ⟨others, rfl⟩ := List.head?_eq_some_iff.mp isDollar
        intro remains
        exact remains.after_backslash.1 rfl
      · rw [hasPair_keep dropped] at pair
        rw [unescape_keep dropped]
        intro remains
        exact ih pair remains.after_backslash.2

/-! ### Reading an included text -/

theorem readIncluded_plain (arguments : List (String × IncludeArgument)) {text : String}
    (absent : hasPair '$' '<' text.toList = false) :
    readIncluded arguments text =
      (Directive.ofText (String.ofList (unescape .template text.toList))).mapError .document := by
  unfold readIncluded
  simp only
  rw [fillTemplate_plain (prepareVariables_arguments arguments) absent]
  rfl

theorem Directive.ofText_escaped {text : String} {directives : List Directive}
    (accepted : Directive.ofText text = .ok directives) : Escaped text.toList := by
  obtain ⟨value, read, _⟩ := bind_eq_ok.mp accepted
  exact Document.ofText_escaped (mapError_eq_ok.mp read)

theorem Directive.ofText_unreadable {text : String} (bare : ¬Escaped text.toList) :
    ∃ error, Directive.ofText text = .error ⟨.unreadable error, none⟩ := by
  cases outcome : Value.ofText text with
  | ok value => exact absurd (Document.ofText_escaped outcome) bare
  | error error =>
      refine ⟨error, ?_⟩
      unfold Directive.ofText
      rw [outcome]
      rfl

namespace BuildContext

variable {context : BuildContext} {library : Library} {chain : List String} {room : Nat}
  {reference text : String} {directives : List Directive}

theorem openInclude_plain (supplied : context.library = some library)
    (resolved : library reference = .ok text) (new : chain.contains reference = false)
    (arguments : List (String × IncludeArgument)) (absent : hasPair '$' '<' text.toList = false) :
    context.openInclude chain (room + 1) reference arguments =
      ((Directive.ofText (String.ofList (unescape .template text.toList))).mapError
        .document).mapError fun fault => ⟨fault, reference, chain ++ [reference]⟩ := by
  rw [openInclude_resolved supplied resolved new, readIncluded_plain arguments absent]

/-- An include of a document that can be read and has no placeholder applies exactly the
directives of the document, if it has no backslash before a dollar sign. Otherwise what is left
of the text cannot be read as a document, and the include fails. -/
theorem applyAll_include_verbatim (supplied : context.library = some library)
    (resolved : library reference = .ok text) (new : chain.contains reference = false)
    (accepted : Directive.ofText text = .ok directives)
    (absent : hasPair '$' '<' text.toList = false)
    (arguments : List (String × IncludeArgument)) (creature : Creature) :
    (hasPair '\\' '$' text.toList = false →
      context.applyAll (room + 1) chain [.inclusion reference arguments] creature =
        context.applyAll room (chain ++ [reference]) directives creature) ∧
    (hasPair '\\' '$' text.toList = true →
      ∃ error, context.applyAll (room + 1) chain [.inclusion reference arguments] creature =
        .error ⟨.inclusion
          ⟨.document ⟨.unreadable error, none⟩, reference, chain ++ [reference]⟩, creature⟩) := by
  have opening : context.openInclude chain (room + 1) reference arguments = _ :=
    openInclude_plain supplied resolved new arguments absent
  constructor
  · intro unescaped
    rw [unescape_template unescaped, String.ofList_toList, accepted] at opening
    exact applyAll_opened opening creature
  · intro pair
    have bare : ¬Escaped (String.ofList (unescape .template text.toList)).toList := by
      rw [String.toList_ofList]
      exact (Directive.ofText_escaped accepted).not_unescape pair
    obtain ⟨error, unreadable⟩ := Directive.ofText_unreadable bare
    rw [unreadable] at opening
    exact ⟨error, applyAll_unopened opening creature⟩

theorem applyAll_include_verbatim_dollar :
    let text := "[\x7b\"version\": 1\x7d, \x7b\"name\": \"a$b \\\\ c\"\x7d]"
    let context : BuildContext := { library := some (Library.ofTexts [("a", some text)]) }
    ∃ directives, Directive.ofText text = .ok directives ∧
      context.applyAll 1 [] [.inclusion "a" []] {} = context.applyAll 0 ["a"] directives {} := by
  intro text context
  obtain ⟨directives, accepted⟩ : ∃ directives, Directive.ofText text = .ok directives :=
    exists_ok_of_toOption (by decide +kernel)
  have verbatim := @applyAll_include_verbatim context _ [] 0 "a" text directives rfl rfl rfl
    accepted (by decide +kernel) [] {}
  exact ⟨directives, accepted, verbatim.1 (by decide +kernel)⟩

/-- A backslash that is escaped before a dollar sign keeps a document from being included. -/
theorem include_fails_at_escaped_backslash :
    let text := "[\x7b\"version\": 1\x7d, \x7b\"name\": \"a\\\\$b\"\x7d]"
    let context : BuildContext := { library := some (Library.ofTexts [("a", some text)]) }
    hasPair '$' '<' text.toList = false ∧
      (∃ directives reached, Directive.ofText text = .ok directives ∧
        context.applyAll 0 ["a"] directives {} = .ok reached) ∧
      ∃ halt, context.applyAll 1 [] [.inclusion "a" []] {} = .error halt := by
  intro text context
  have applies : ∃ reached,
      ((Directive.ofText text).mapError (fun _ => ()) >>= fun directives =>
        (context.applyAll 0 ["a"] directives {}).mapError fun _ => ()) = .ok reached :=
    exists_ok_of_toOption (by decide +kernel)
  obtain ⟨reached, success⟩ := applies
  obtain ⟨directives, accepted, applied⟩ := bind_eq_ok.mp success
  exact ⟨by decide +kernel,
    ⟨directives, reached, mapError_eq_ok.mp accepted, mapError_eq_ok.mp applied⟩,
    exists_error_of_toOption (by decide +kernel)⟩

end BuildContext

end Bestiary
