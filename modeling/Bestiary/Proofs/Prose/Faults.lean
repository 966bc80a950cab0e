import Bestiary.Proofs.Dice.Acceptance
import Bestiary.Proofs.Prose.Compilation
import Bestiary.Prose.Interpolation

/-!
What can go wrong with authored text.

Tokens are put together, or they have a fault with a report. Of the faults that
have none, reading a text into tokens meets only digits that are no numeral,
and running its program only numbers that are too long to be shown.
-/

namespace Bestiary.Prose

open Text

/-! ### Expressions -/

abbrev Reports {α : Type} (outcome : Except ProseError α) : Prop :=
  FailsWithin (fun error => error.fault.isReported = true ∧ error.place?.isSome = true) outcome

theorem reports_at {α : Type} {fault : ProseFault} (reported : fault.isReported = true)
    (place : Place) : Reports (.error (fault.at place) : Except ProseError α) :=
  failsWithin_error ⟨reported, rfl⟩

mutual

theorem scanChoice_reports (finish : Place) (input : List Located) :
    Reports (scanChoice finish input) := by
  rw [scanChoice]
  refine (scanSum_reports finish input).bind fun ⟨condition, afterCondition⟩ _ => ?_
  simp only
  split
  · rename_i place branch follows
    have branchLt : branch.length < input.length := by
      have afterLt := afterCondition.2
      rw [follows, List.length_cons] at afterLt
      omega
    refine (scanChoice_reports finish branch).bind fun ⟨chosen, afterChosen⟩ _ => ?_
    simp only
    split
    · rename_i divider branch' divides
      have branchLt' : branch'.length < branch.length := by
        have afterLt := afterChosen.2
        rw [divides, List.length_cons] at afterLt
        omega
      exact (scanChoice_reports finish branch').bind fun _ _ => failsWithin_ok _
    · exact reports_at rfl _
  · exact failsWithin_ok _
termination_by 6 * input.length + 5
decreasing_by
  · omega
  · omega
  · omega

theorem scanSum_reports (finish : Place) (input : List Located) :
    Reports (scanSum finish input) := by
  rw [scanSum]
  refine (scanProduct_reports finish input).bind fun ⟨first, afterFirst⟩ _ => ?_
  have afterLt := afterFirst.2
  exact (scanSumAfter_reports finish first afterFirst.1).bind fun _ _ => failsWithin_ok _
termination_by 6 * input.length + 4
decreasing_by
  · omega
  · omega

theorem scanSumAfter_reports (finish : Place) (left : Expression) (input : List Located) :
    Reports (scanSumAfter finish left input) := by
  match input with
  | [] =>
      rw [scanSumAfter]
      exact failsWithin_ok _
  | ⟨token, place⟩ :: tail =>
      rw [scanSumAfter]
      split
      · exact failsWithin_ok _
      · refine (scanProduct_reports finish tail).bind fun ⟨right, afterRight⟩ _ => ?_
        have rightLt := afterRight.2
        exact (scanSumAfter_reports finish _ afterRight.1).bind fun _ _ => failsWithin_ok _
termination_by 6 * input.length + 1
decreasing_by
  · simp only [List.length_cons]; omega
  · simp only [List.length_cons]; omega

theorem scanProduct_reports (finish : Place) (input : List Located) :
    Reports (scanProduct finish input) := by
  rw [scanProduct]
  refine (scanUnary_reports finish input).bind fun ⟨first, afterFirst⟩ _ => ?_
  have afterLt := afterFirst.2
  exact (scanProductAfter_reports finish first afterFirst.1).bind fun _ _ => failsWithin_ok _
termination_by 6 * input.length + 3
decreasing_by
  · omega
  · omega

theorem scanProductAfter_reports (finish : Place) (left : Expression) (input : List Located) :
    Reports (scanProductAfter finish left input) := by
  match input with
  | [] =>
      rw [scanProductAfter]
      exact failsWithin_ok _
  | ⟨token, place⟩ :: tail =>
      rw [scanProductAfter]
      split
      · exact failsWithin_ok _
      · refine (scanUnary_reports finish tail).bind fun ⟨right, afterRight⟩ _ => ?_
        have rightLt := afterRight.2
        exact (scanProductAfter_reports finish _ afterRight.1).bind fun _ _ => failsWithin_ok _
termination_by 6 * input.length + 1
decreasing_by
  · simp only [List.length_cons]; omega
  · simp only [List.length_cons]; omega

theorem scanUnary_reports (finish : Place) (input : List Located) :
    Reports (scanUnary finish input) := by
  match input with
  | [] =>
      rw [scanUnary]
      exact reports_at rfl _
  | ⟨token, place⟩ :: tail =>
      unfold scanUnary
      split
      · exact (scanUnary_reports finish tail).bind fun _ _ => failsWithin_ok _
      · split
        · exact failsWithin_ok _
        · split
          · exact failsWithin_ok _
          · refine (scanChoice_reports finish tail).bind fun ⟨inner, afterInner⟩ _ => ?_
            simp only
            split
            · exact failsWithin_ok _
            · exact reports_at rfl _
          · exact reports_at rfl _
termination_by 6 * input.length + 2
decreasing_by
  · simp only [List.length_cons]; omega
  · simp only [List.length_cons]; omega

end

/-! ### Directives and texts -/

theorem compileArguments_reports (finish : Place) (input : List Located) :
    Reports (compileArguments finish input) := by
  fun_induction compileArguments finish input with
  | case1 => exact failsWithin_ok _
  | case2 => exact failsWithin_ok _
  | case3 tokens notParen notClosing ih =>
      refine (scanChoice_reports finish tokens).bind fun ⟨argument, afterArgument⟩ _ => ?_
      exact (ih afterArgument).bind fun _ _ => failsWithin_ok _

theorem directiveEnd_reports (finish : Place) (input : List Located) :
    Reports (directiveEnd finish input) := by
  unfold directiveEnd
  split
  · exact failsWithin_ok _
  · exact reports_at rfl _

theorem openByCommand_reports (dialect : Dialect) (opened : Structure) (place : Place)
    (nesting : Nesting) : Reports (nesting.openByCommand dialect opened place) := by
  unfold Nesting.openByCommand
  split
  · exact reports_at rfl _
  · split
    · split
      · exact failsWithin_ok _
      · exact reports_at rfl _
    · split
      · exact reports_at rfl _
      · exact failsWithin_ok _

theorem closeByCommand_reports (place : Place) (nesting : Nesting) :
    Reports (nesting.closeByCommand place) := by
  unfold Nesting.closeByCommand
  split
  · exact reports_at rfl _
  · split
    · exact reports_at rfl _
    · exact failsWithin_ok _

theorem mark_reports (marked : Structure) (place : Place) (nesting : Nesting) :
    Reports (nesting.mark marked place) := by
  have opening : Reports (
      if nesting.any (·.opened == marked) then .error ((ProseFault.alreadyOpen marked).at place)
      else .ok ((⟨marked.starting, place⟩ : Instruction),
        (⟨marked, true, place⟩ :: nesting : Nesting))) := by
    split
    · exact reports_at rfl _
    · exact failsWithin_ok _
  cases nesting with
  | nil => exact opening
  | cons innermost outer =>
      unfold Nesting.mark
      simp only
      by_cases closes : (innermost.byMark && innermost.opened == marked) = true
      · rw [if_pos closes]
        exact failsWithin_ok _
      · rw [if_neg closes]
        exact opening

theorem compileCommand_reports (finish : Place) (opened : Structure) (place : Place)
    (nesting : Nesting) (input : List Located) :
    Reports (compileCommand finish opened place nesting input) := by
  unfold compileCommand
  refine (compileArguments_reports finish input).bind fun ⟨arguments, afterArguments⟩ _ => ?_
  simp only
  split
  · rename_i closing tail closes
    refine (closeByCommand_reports closing nesting).bind fun _ _ => ?_
    exact (directiveEnd_reports finish tail).bind fun _ _ => failsWithin_ok _
  · exact (directiveEnd_reports finish _).bind fun _ _ => failsWithin_ok _

theorem compileDirective_reports (dialect : Dialect) (finish : Place) (nesting : Nesting)
    (input : List Located) : Reports (compileDirective dialect finish nesting input) := by
  unfold compileDirective
  split
  · rename_i opened place tail
    refine (openByCommand_reports dialect opened place nesting).bind fun inner _ => ?_
    exact (compileCommand_reports finish opened place inner tail).bind fun _ _ => failsWithin_ok _
  · rename_i place tail
    refine (closeByCommand_reports place nesting).bind fun _ _ => ?_
    exact (directiveEnd_reports finish tail).bind fun _ _ => failsWithin_ok _
  · refine (scanChoice_reports finish _).bind fun _ _ => ?_
    exact (directiveEnd_reports finish _).bind fun _ _ => failsWithin_ok _

theorem compileTokens_reports (dialect : Dialect) (finish : Place) (nesting : Nesting)
    (input : List Located) : Reports (compileTokens dialect finish nesting input) := by
  fun_induction compileTokens dialect finish nesting input with
  | case1 => exact failsWithin_ok _
  | case2 => exact reports_at rfl _
  | case3 nesting content place tail ih => exact ih.bind fun _ _ => failsWithin_ok _
  | case4 nesting place tail ih =>
      refine (mark_reports .bold place nesting).bind fun ⟨instruction, after⟩ _ => ?_
      exact (ih after).bind fun _ _ => failsWithin_ok _
  | case5 nesting place tail ih =>
      refine (mark_reports .italic place nesting).bind fun ⟨instruction, after⟩ _ => ?_
      exact (ih after).bind fun _ _ => failsWithin_ok _
  | case6 place tail ih => exact ih.bind fun _ _ => failsWithin_ok _
  | case7 => exact reports_at rfl _
  | case8 nesting place tail ih =>
      refine (compileDirective_reports dialect finish nesting tail).bind fun compiled _ => ?_
      exact (ih compiled).bind fun _ _ => failsWithin_ok _
  | case9 => exact reports_at rfl _

/-! ### Words -/

/-- A fault that is about a number alone: digits of the text are no numeral, as one of them has no
decimal value or there are too many, or a number is too long to be shown. -/
inductive ProseFault.IsAboutNumber (text : List Char) : ProseFault → Prop
  | unreadable {digits : List Char} :
      digits <:+: text →
      (∀ character ∈ digits, isDigit character = true) →
      numeralValue? digits = none →
      IsAboutNumber text (.unreadableNumeral digits)
  | unwritable : IsAboutNumber text .unwritableNumber

def ProseFault.IsExplained (text : List Char) (fault : ProseFault) : Prop :=
  fault.isReported = true ∨ fault.IsAboutNumber text

theorem ProseFault.IsAboutNumber.mono {part text : List Char} {fault : ProseFault}
    (about : fault.IsAboutNumber part) (within : part <:+: text) : fault.IsAboutNumber text := by
  cases about with
  | unreadable inside areDigits unknown =>
      exact .unreadable (inside.trans within) areDigits unknown
  | unwritable => exact .unwritable

theorem ProseFault.IsAboutNumber.unreported {text : List Char} {fault : ProseFault}
    (about : fault.IsAboutNumber text) : fault.isReported = false := by
  cases about <;> rfl

theorem ProseFault.IsExplained.mono {part text : List Char} {fault : ProseFault}
    (explained : fault.IsExplained part) (within : part <:+: text) : fault.IsExplained text :=
  explained.imp_right fun about => about.mono within

theorem ProseFault.IsOfValues.isExplained {fault : ProseFault} (ofValues : fault.IsOfValues)
    (text : List Char) : fault.IsExplained text := by
  rcases ofValues with reported | rfl
  · exact .inl reported
  · exact .inr .unwritable

abbrev Reads {α : Type} (text : List Char) (outcome : Except (Stop ProseFault) α) : Prop :=
  FailsWithin (fun stop => stop.fault.IsExplained text) outcome

theorem scanNumeral_reads {head : Char} (tail : List Char) (digit : isDigit head = true) :
    Reads (head :: tail) (scanNumeral head tail) := by
  unfold scanNumeral
  simp only
  split
  · rename_i unknown
    have front : head :: tail.takeWhile isDigit <+: head :: tail :=
      List.cons_prefix_cons.mpr ⟨rfl, List.takeWhile_prefix isDigit⟩
    have areDigits : ∀ character ∈ head :: tail.takeWhile isDigit, isDigit character = true :=
      List.forall_mem_cons.mpr ⟨digit, List.all_eq_true.mp List.all_takeWhile⟩
    exact failsWithin_error (.inr (.unreadable front.isInfix areDigits unknown))
  · exact failsWithin_ok _

theorem isAboutNumber_of_dice {text : String} {error : DiceError} {digits : List Char}
    (failed : Dice.ofText text = .error error) (same : error.fault = .unreadableNumeral digits) :
    (ProseFault.unreadableNumeral digits).IsAboutNumber text.toList := by
  obtain ⟨stop, scanned, rfl⟩ := mapError_eq_error.mp failed
  obtain ⟨inside, areDigits, unknown⟩ := (Dice.scan_stops _ stop scanned).unreadable digits same
  exact .unreadable inside areDigits unknown

theorem scanNumber_reads {head : Char} (tail : List Char) (digit : isDigit head = true) :
    Reads (head :: tail) (scanNumber head tail) := by
  unfold scanNumber
  split
  · exact scanNumeral_reads tail digit
  · rename_i separator rest follows
    split
    · simp only
      split
      · exact failsWithin_ok _
      · rename_i error failed
        split
        · rename_i digits same
          have about := isAboutNumber_of_dice failed same
          rw [String.toList_ofList] at about
          have tailEq : tail.takeWhile isDigit ++
              separator :: (rest.takeWhile isDigit ++ rest.dropWhile isDigit) = tail := by
            rw [List.takeWhile_append_dropWhile, ← follows, List.takeWhile_append_dropWhile]
          have covers : head :: tail.takeWhile isDigit ++ separator :: rest.takeWhile isDigit <+:
              head :: tail := by
            refine ⟨rest.dropWhile isDigit, ?_⟩
            rw [List.append_assoc, List.cons_append, List.cons_append, tailEq]
          exact failsWithin_error (.inr (about.mono covers.isInfix))
        · exact failsWithin_error (.inl rfl)
    · exact scanNumeral_reads tail digit

theorem scanQuoted_reads (head : Char) (tail : List Char) :
    Reads (head :: tail) (scanQuoted head tail) := by
  unfold scanQuoted
  split
  · exact failsWithin_error (.inl rfl)
  · exact failsWithin_ok _

theorem scanSlash_reads (head : Char) (tail : List Char) :
    Reads (head :: tail) (scanSlash head tail) := by
  unfold scanSlash
  split
  · exact failsWithin_ok _
  · exact failsWithin_ok _
  · exact failsWithin_error (.inl rfl)

theorem scanExpression_reads (dialect : Dialect) (head : Char) (tail : List Char) :
    Reads (head :: tail) (scanExpression dialect head tail) := by
  unfold scanExpression
  split
  · exact failsWithin_ok _
  · split
    · exact failsWithin_ok _
    · split
      · exact failsWithin_ok _
      · split
        · rename_i digit
          exact scanNumber_reads tail digit
        · split
          · exact scanQuoted_reads head tail
          · split
            · exact scanSlash_reads head tail
            · split
              · exact failsWithin_ok _
              · exact failsWithin_error (.inl rfl)

theorem scanPieces_reads (dialect : Dialect) (inside : Bool) (input : List Char) :
    Reads input (scanPieces dialect inside input) := by
  -- What is explained in the rest of a text is explained in the text.
  have rest {head : Char} {tail : List Char} {inner : Bool} (lexeme : Lexeme (head :: tail))
      (others : Reads lexeme.rest (scanPieces dialect inner lexeme.rest)) :
      Reads (head :: tail) (scanPieces dialect inner lexeme.rest) := by
    have within : lexeme.rest <:+: head :: tail :=
      List.IsSuffix.isInfix ⟨lexeme.source, lexeme.split⟩
    exact others.mono fun stop explained => explained.mono within
  fun_induction scanPieces dialect inside input with
  | case1 => exact failsWithin_error (.inl rfl)
  | case2 => exact failsWithin_ok _
  | case3 head tail _ ih =>
      refine (scanExpression_reads dialect head tail).bind fun lexeme _ => ?_
      exact (rest lexeme (ih lexeme)).bind fun _ _ => failsWithin_ok _
  | case4 inside head tail _ outside ih =>
      exact (rest _ (ih (scanText dialect head tail))).bind fun _ _ => failsWithin_ok _

/-! ### Whole texts -/

theorem compile_explained (dialect : Dialect) (text : String) :
    FailsWithin (fun error => error.fault.IsExplained text.toList) (compile dialect text) := by
  have stream : FailsWithin (fun error : ProseError => error.fault.IsExplained text.toList)
      (TokenStream.ofText dialect text) := by
    have pieces := scanPieces_reads dialect false text.toList
    unfold TokenStream.ofText
    split
    · exact failsWithin_ok _
    · rename_i stop scanned
      exact failsWithin_error (pieces stop scanned)
  refine stream.bind fun stream _ => ?_
  exact (compileTokens_reports dialect stream.finish [] stream.tokens).mono
    fun _ reported => .inl reported.1

theorem run_explained {dialect : Dialect} {text : String} {program : Program}
    (compiled : compile dialect text = .ok program) (scope : Variables) (capitalize : Bool) :
    FailsWithin (fun error => error.fault.IsExplained text.toList)
      (Machine.initial.run scope capitalize program) := by
  obtain ⟨_, _, _, _, fragmentsEq⟩ := compile_sound compiled
  have fits : heightAfter program Machine.initial.stack.length = some 0 :=
    heightAfter_compileFragments fragmentsEq
  intro error failed
  exact ((Machine.run_fits fits).2 error failed).isExplained _

def ProseError.IsOfBinding (bindings : List (String × Binding)) (error : ProseError) : Prop :=
  ∃ name typeName, (name, Binding.unsupported typeName) ∈ bindings ∧
    error = ⟨.unsupportedValue name typeName, none⟩

theorem ProseError.IsOfBinding.isExplained {bindings : List (String × Binding)}
    {error : ProseError} (ofBinding : error.IsOfBinding bindings) (text : List Char) :
    error.fault.IsExplained text := by
  obtain ⟨name, typeName, _, rfl⟩ := ofBinding
  exact .inl rfl

theorem prepareVariables_fails (bindings : List (String × Binding)) :
    FailsWithin (ProseError.IsOfBinding bindings) (prepareVariables bindings) := by
  induction bindings with
  | nil => exact failsWithin_ok _
  | cons binding others ih =>
      obtain ⟨name, binding⟩ := binding
      cases binding with
      | value value =>
          have later : FailsWithin (ProseError.IsOfBinding ((name, .value value) :: others))
              (prepareVariables others) :=
            ih.mono fun error ⟨name, typeName, member, isError⟩ =>
              ⟨name, typeName, List.mem_cons_of_mem _ member, isError⟩
          exact later.bind fun _ _ => failsWithin_ok _
      | unsupported typeName =>
          exact failsWithin_error ⟨name, typeName, List.mem_cons_self, rfl⟩

/-- Whatever is wrong with a text that is interpolated has a report or is about a number alone. -/
theorem interpolate_explained (manner : Manner) (bindings : List (String × Binding))
    (text : String) :
    FailsWithin (fun error => error.fault.IsExplained text.toList)
      (interpolate manner bindings text) := by
  unfold interpolate
  refine (compile_explained _ text).bind fun program compiled => ?_
  refine ((prepareVariables_fails bindings).mono
    fun _ ofBinding => ofBinding.isExplained _).bind fun scope _ => ?_
  exact (run_explained compiled scope _).bind fun _ _ => failsWithin_ok _

theorem fillTemplate_explained (bindings : List (String × Binding)) (text : String) :
    FailsWithin (fun error => error.fault.IsExplained text.toList) (fillTemplate bindings text) := by
  unfold fillTemplate
  refine (compile_explained _ text).bind fun program compiled => ?_
  refine ((prepareVariables_fails bindings).mono
    fun _ ofBinding => ofBinding.isExplained _).bind fun scope _ => ?_
  exact (run_explained compiled scope _).bind fun _ _ => failsWithin_ok _

end Bestiary.Prose
