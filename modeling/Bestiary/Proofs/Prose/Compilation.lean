import Bestiary.Proofs.Prose.Evaluation
import Bestiary.Proofs.Prose.Fragment
import Bestiary.Prose.Interpolation

/-!
Compilation of expressions: what the grammar derives is what is read, its
code computes its value, and no compiled text lacks an operand.
-/

namespace Bestiary.Prose

open Text

theorem Structure.heightAfter_starting (opened : Structure) (height : Nat) :
    opened.starting.heightAfter height = some height := by
  cases opened <;> rfl

theorem Structure.heightAfter_ending (opened : Structure) (height : Nat) :
    opened.ending.heightAfter height = some height := by
  cases opened <;> rfl

theorem heightAfter_single {instruction : Instruction} {height : Nat}
    (kept : instruction.operation.heightAfter height = some height) :
    heightAfter [instruction] height = some height := by
  rw [heightAfter, kept]
  rfl

theorem Fragment.heightAfter_compile {dialect : Dialect} {nesting after : Nesting}
    {fragment : Fragment} {program : Program}
    (compiled : fragment.compile dialect nesting = .ok (program, after)) :
    heightAfter program 0 = some 0 := by
  cases fragment with
  | literal place content =>
      cases compiled
      rfl
  | shown place expression =>
      cases compiled
      exact heightAfter_appendCode expression place
  | mark place emphasis =>
      obtain ⟨⟨instruction, _⟩, marked, compiled⟩ := bind_eq_ok.mp compiled
      cases compiled
      rcases Nesting.mark_eq_ok_iff.mp marked with ⟨_, _, _, _, rfl⟩ | ⟨_, _, rfl⟩
      · exact heightAfter_single (Structure.heightAfter_ending _ 0)
      · exact heightAfter_single (Structure.heightAfter_starting _ 0)
  | opens place opened =>
      obtain ⟨inner, _, compiled⟩ := bind_eq_ok.mp compiled
      cases compiled
      exact heightAfter_single (opened.heightAfter_starting 0)
  | closes place =>
      obtain ⟨⟨instruction, _⟩, closed, compiled⟩ := bind_eq_ok.mp compiled
      cases compiled
      obtain ⟨innermost, _, _, rfl⟩ := Nesting.closeByCommand_eq_ok_iff.mp closed
      exact heightAfter_single (innermost.opened.heightAfter_ending 0)
  | breaks place =>
      cases nesting with
      | nil =>
          cases compiled
          rfl
      | cons innermost outer => cases compiled

theorem heightAfter_compileFragments {dialect : Dialect} {nesting after : Nesting}
    {fragments : List Fragment} {program : Program}
    (compiled : compileFragments dialect nesting fragments = .ok (program, after)) :
    heightAfter program 0 = some 0 := by
  induction fragments generalizing nesting program with
  | nil =>
      cases compiled
      rfl
  | cons fragment others ih =>
      obtain ⟨⟨first, inner⟩, compiledFirst, compiled⟩ := bind_eq_ok.mp compiled
      obtain ⟨⟨rest, outer⟩, compiledOthers, compiled⟩ := bind_eq_ok.mp compiled
      cases compiled
      rw [heightAfter_append, Fragment.heightAfter_compile compiledFirst]
      exact ih compiledOthers

theorem compile_sound {dialect : Dialect} {text : String} {program : Program}
    (compiled : compile dialect text = .ok program) :
    ∃ stream fragments, TokenStream.ofText dialect text = .ok stream ∧
      Spells stream.tokens fragments ∧
      compileFragments dialect [] fragments = .ok (program, []) := by
  obtain ⟨stream, tokens, compiled⟩ := bind_eq_ok.mp compiled
  obtain ⟨fragments, spelled, fragmentsEq⟩ := compileTokens_sound compiled
  exact ⟨stream, fragments, tokens, spelled, fragmentsEq⟩

theorem heightAfter_prefix {before after : Program} {height final : Nat}
    (fits : heightAfter (before ++ after) height = some final) :
    ∃ reached, heightAfter before height = some reached := by
  rw [heightAfter_append] at fits
  obtain ⟨reached, first, _⟩ := Option.bind_eq_some_iff.mp fits
  exact ⟨reached, first⟩

theorem heightAfter_append_instruction {before : Program} {place : Place} {height final : Nat}
    (fits : heightAfter (before ++ [⟨.append, place⟩]) height = some final) : final = 0 := by
  rw [heightAfter_append] at fits
  obtain ⟨reached, _, last⟩ := Option.bind_eq_some_iff.mp fits
  rw [heightAfter] at last
  obtain ⟨height', appended, last⟩ := Option.bind_eq_some_iff.mp last
  cases last
  cases reached with
  | zero => cases appended
  | succ below =>
      cases below with
      | zero =>
          cases appended
          rfl
      | succ _ => cases appended

/-- Expressions are compiled correctly. The tokens that are read as an expression are those
that the grammar derives it from; its code leaves its value on any stack, or stops at the fault
that its evaluation meets; and a compiled text, which is made of fragments, never lacks an
operand and leaves nothing on the stack when it has appended a value. -/
theorem expression_compilation_correct :
    (∀ (finish : Place) (input rest : List Located) (expression : Expression),
      (∃ fewer, scanChoice finish input = .ok (expression, ⟨rest, fewer⟩)) ↔
        ∃ written, input = written ++ rest ∧ Derives .choice written expression ∧
          StopsBefore .choice rest) ∧
    (∀ (expression : Expression) (scope : Variables) (capitalize : Bool) (machine : Machine),
      machine.run scope capitalize expression.code =
        (expression.evaluate scope).map fun value =>
          machine.withStack (value :: machine.stack)) ∧
    (∀ (dialect : Dialect) (text : String) (program : Program),
      compile dialect text = .ok program →
        (∃ stream fragments, TokenStream.ofText dialect text = .ok stream ∧
          Spells stream.tokens fragments ∧
          compileFragments dialect [] fragments = .ok (program, [])) ∧
        ∀ (scope : Variables) (capitalize : Bool) (before after : Program),
          program = before ++ after →
            (∀ error, Machine.initial.run scope capitalize before = .error error →
              error.fault ≠ .missingOperand) ∧
            (∀ front place reached, before = front ++ [⟨.append, place⟩] →
              Machine.initial.run scope capitalize before = .ok reached →
              reached.stack = [])) := by
  refine ⟨?grammar, ?code, ?texts⟩
  case grammar =>
    intro finish input rest expression
    exact scanChoice_eq_ok_iff
  case code =>
    intro expression scope capitalize machine
    exact expression.run_code scope capitalize machine
  case texts =>
    intro dialect text program compiled
    obtain ⟨stream, fragments, tokens, spelled, fragmentsEq⟩ := compile_sound compiled
    refine ⟨⟨stream, fragments, tokens, spelled, fragmentsEq⟩, ?_⟩
    intro scope capitalize before after programEq
    have fits : heightAfter program Machine.initial.stack.length = some 0 :=
      heightAfter_compileFragments fragmentsEq
    -- A front part of a program whose heights fit is such a program itself.
    rw [programEq] at fits
    obtain ⟨height, fitsBefore⟩ := heightAfter_prefix fits
    obtain ⟨reachesHeight, neverLacks⟩ := Machine.run_endsAt fitsBefore
    refine ⟨neverLacks, ?_⟩
    intro front place reached beforeEq ran
    have stackLength := reachesHeight reached ran
    rw [beforeEq] at fitsBefore
    rw [heightAfter_append_instruction fitsBefore] at stackLength
    exact List.eq_nil_of_length_eq_zero stackLength

theorem expression_compilation_correct_choice :
    ∃ program reached,
      compile .template "$<\"bite\" + (N then \" hard\" else \"\")>" = .ok program ∧
      Machine.initial.run [("N", .number 5 false)] false program = .ok reached ∧
      reached.pending = "bite hard" ∧ reached.stack = [] := by
  let program : Program :=
    [⟨.push (.text "bite"), ⟨1, 3⟩⟩, ⟨.load "N", ⟨1, 13⟩⟩, ⟨.push (.text " hard"), ⟨1, 20⟩⟩,
      ⟨.push (.text ""), ⟨1, 33⟩⟩, ⟨.choose, ⟨1, 15⟩⟩, ⟨.binary .add, ⟨1, 10⟩⟩,
      ⟨.append, ⟨1, 3⟩⟩]
  let reached : Machine := { Machine.initial with pending := "bite hard", atStart := false }
  have compiled :
      compile .template "$<\"bite\" + (N then \" hard\" else \"\")>" = .ok program :=
    eq_ok_of_toOption (by decide +kernel)
  have ran : Machine.initial.run [("N", .number 5 false)] false program = .ok reached :=
    eq_ok_of_toOption (by decide +kernel)
  obtain ⟨_, _, texts⟩ := expression_compilation_correct
  obtain ⟨_, balanced⟩ := texts _ _ _ compiled
  obtain ⟨_, empties⟩ := balanced [("N", .number 5 false)] false program [] rfl
  exact ⟨program, reached, compiled, ran, rfl, empties (program.take 6) ⟨1, 3⟩ reached rfl ran⟩

end Bestiary.Prose
