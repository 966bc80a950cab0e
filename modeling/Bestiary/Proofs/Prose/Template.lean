import Bestiary.Proofs.Prose.Source
import Bestiary.Prose.Interpolation

/-!
Templates without placeholders.

A template in which no expression is opened is one literal run. Filling it in
gives its characters, less the backslashes before its dollar signs, whatever
the arguments are.
-/

namespace Bestiary.Prose

def hasPair (first second : Char) : List Char → Bool
  | head :: next :: tail => (head == first && next == second) || hasPair first second (next :: tail)
  | _ => false

theorem hasPair_tail {first second head : Char} {tail : List Char}
    (absent : hasPair first second (head :: tail) = false) : hasPair first second tail = false := by
  cases tail with
  | nil => rfl
  | cons next others => exact (Bool.or_eq_false_iff.mp absent).2

theorem hasPair_head {first second : Char} {tail : List Char}
    (absent : hasPair first second (first :: second :: tail) = false) : False := by
  rw [hasPair, beq_self_eq_true, beq_self_eq_true] at absent
  cases absent

/-! ### Literal runs -/

theorem special?_template {head : Char} {tail : List Char}
    (absent : hasPair '$' '<' (head :: tail) = false) :
    special? .template head tail = none := by
  unfold special?
  by_cases dollar : head = '$'
  · subst dollar
    cases tail with
    | nil => rfl
    | cons second rest =>
        have notOpener : second ≠ '<' := by
          rintro rfl
          exact hasPair_head absent
        exact if_neg (mt beq_iff_eq.mp notOpener)
  · simp [dollar, Dialect.hasMarks, Dialect.hasBreaks]

theorem literalRun_template {input : List Char} (absent : hasPair '$' '<' input = false) :
    (literalRun .template input).rest = [] := by
  induction input using literalRun.induct .template with
  | case1 => rfl
  | case2 head special found =>
      rw [special?_template absent] at found
      cases found
  | case3 head found =>
      rw [literalRun, found]
  | case4 head second tail escaped ih =>
      rw [literalRun, if_pos escaped]
      exact ih (hasPair_tail (hasPair_tail absent))
  | case5 head second tail plain special found =>
      rw [special?_template absent] at found
      cases found
  | case6 head second tail plain found ih =>
      rw [literalRun, if_neg plain, found]
      exact ih (hasPair_tail absent)

theorem scanText_template {head : Char} {tail : List Char}
    (absent : hasPair '$' '<' (head :: tail) = false) :
    (scanText .template head tail).rest = [] ∧
      ∃ content, (scanText .template head tail).token? = some (.literal content) := by
  unfold scanText
  rw [special?_template absent]
  cases tail with
  | nil => exact ⟨rfl, _, rfl⟩
  | cons second others =>
      by_cases escaped : (head == '\\' && Dialect.template.escapes second) = true
      · simp only [if_pos escaped]
        exact ⟨literalRun_template (hasPair_tail (hasPair_tail absent)), _, rfl⟩
      · simp only [if_neg escaped]
        exact ⟨literalRun_template (hasPair_tail absent), _, rfl⟩

theorem scanPieces_template {head : Char} {tail : List Char}
    (absent : hasPair '$' '<' (head :: tail) = false) :
    scanPieces .template false (head :: tail) =
      .ok [⟨head :: tail,
        some (.literal (String.ofList (unescape .template (head :: tail))))⟩] := by
  obtain ⟨atEnd, content, isLiteral⟩ := scanText_template absent
  rw [← List.append_nil tail] at atEnd isLiteral
  have run := scanPieces_literalRun atEnd isLiteral
  rw [List.append_nil, scanPieces_nil] at run
  exact run

/-! ### Filling in -/

def literalProgram : List Char → Program
  | [] => []
  | content => [⟨.appendText (String.ofList content), Text.Place.start⟩]

theorem unescape_ne_nil {dialect : Dialect} {head : Char} {tail : List Char} :
    unescape dialect (head :: tail) ≠ [] := by
  cases tail with
  | nil => exact List.cons_ne_nil head []
  | cons second others =>
      rw [unescape]
      split <;> exact List.cons_ne_nil _ _

theorem literalProgram_of_ne_nil {content : List Char} (nonempty : content ≠ []) :
    literalProgram content = [⟨.appendText (String.ofList content), Text.Place.start⟩] := by
  cases content with
  | nil => exact absurd rfl nonempty
  | cons => rfl

theorem compile_template {text : String} (absent : hasPair '$' '<' text.toList = false) :
    compile .template text = .ok (literalProgram (unescape .template text.toList)) := by
  have noTokens (finish : Text.Place) : compileTokens .template finish [] [] = .ok [] := by
    rw [compileTokens]
  unfold compile TokenStream.ofText
  cases characters : text.toList with
  | nil =>
      rw [scanPieces_nil]
      exact noTokens _
  | cons head tail =>
      rw [characters] at absent
      rw [scanPieces_template absent, literalProgram_of_ne_nil unescape_ne_nil]
      change compileTokens .template _ [] [⟨.literal _, _⟩] = _
      rw [compileTokens, noTokens]
      rfl

theorem pending_write (machine : Machine) (interpolated : Bool) (content : String) :
    (machine.write false interpolated content).pending = machine.pending ++ content := by
  unfold Machine.write
  by_cases empty : content.isEmpty = true
  · rw [if_pos empty, String.isEmpty_iff.mp empty, String.append_empty]
  · rw [if_neg empty, Bool.and_false]
    exact congrArg (machine.pending ++ ·) (if_neg Bool.false_ne_true)

theorem run_literalProgram (scope : Variables) (content : List Char) :
    ∃ final, Machine.initial.run scope false (literalProgram content) = .ok final ∧
      final.pending = String.ofList content := by
  cases content with
  | nil => exact ⟨Machine.initial, rfl, rfl⟩
  | cons head tail => exact ⟨_, rfl, (pending_write _ false _).trans String.empty_append⟩

theorem fillTemplate_plain {bindings : List (String × Binding)} {scope : Variables}
    {text : String} (prepared : prepareVariables bindings = .ok scope)
    (absent : hasPair '$' '<' text.toList = false) :
    fillTemplate bindings text = .ok (String.ofList (unescape .template text.toList)) := by
  obtain ⟨final, runs, pending⟩ := run_literalProgram scope (unescape .template text.toList)
  unfold fillTemplate
  rw [compile_template absent, prepared]
  change (Machine.initial.run scope false _ >>= _) = _
  rw [runs]
  exact congrArg Except.ok pending

/-! ### Backslashes -/

theorem unescape_template {input : List Char} (absent : hasPair '\\' '$' input = false) :
    unescape .template input = input := by
  induction input using unescape.induct .template with
  | case1 => rfl
  | case2 head => rfl
  | case3 head second tail escaped ih =>
      exfalso
      obtain ⟨isBackslash, isDollar⟩ := Bool.and_eq_true_iff.mp escaped
      cases beq_iff_eq.mp isBackslash
      cases beq_iff_eq.mp isDollar
      exact hasPair_head absent
  | case4 head second tail plain ih =>
      rw [unescape, if_neg plain, ih (hasPair_tail absent)]

end Bestiary.Prose
