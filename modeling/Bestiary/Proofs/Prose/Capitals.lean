import Bestiary.Proofs.Prose.Tracking
import Mathlib.Data.List.DropRight
import Mathlib.Data.List.Forall2

/-!
Capitals at the start of sentences.

What a program does to the text is a row of strokes, which is the same whether
values that start a sentence get a capital or not. With capitals the same
strokes are drawn, but for the values that nothing has been written before
since the text started or the last heading ended. A value with a capital is as
empty as it was, so the blocks have the same kinds and the same styles.
-/

namespace Bestiary.Prose

open Text

/-! ### Strokes -/

/-- What an operation does to the text that is being written. -/
inductive Stroke
  | literal (content : String)
  | shown (content : String)
  | start (emphasis : Emphasis)
  | stop (emphasis : Emphasis)
  | startHeading (kind : BlockKind)
  | endHeading
  | breakParagraph
  deriving DecidableEq, Repr

namespace Stroke

def draw (capitalize : Bool) (machine : Machine) : Stroke → Machine
  | literal content => machine.write capitalize false content
  | shown content => machine.write capitalize true content
  | start emphasis => machine.switch emphasis true
  | stop emphasis => machine.switch emphasis false
  | startHeading kind => machine.startHeading kind
  | endHeading => machine.endHeading
  | breakParagraph => machine.endBlock

def writesNothing : Stroke → Bool
  | literal content => content.isEmpty
  | shown content => content.isEmpty
  | _ => true

def capitalized : Stroke → Stroke
  | shown content => shown (capitalizeHead content)
  | stroke => stroke

end Stroke

/-- What an operation does to the text, some values being on the stack. -/
def Operation.stroke? (stack : List ProseValue) : Operation → Option Stroke
  | append => stack.head?.map fun value => .shown value.display
  | appendText content => some (.literal content)
  | start emphasis => some (.start emphasis)
  | stop emphasis => some (.stop emphasis)
  | startHeading kind => some (.startHeading kind)
  | endHeading => some .endHeading
  | breakParagraph => some .breakParagraph
  | _ => none

def Operation.stackAfter (scope : Variables) (operation : Operation) (stack : List ProseValue) :
    Except ProseFault (List ProseValue) :=
  ((Machine.initial.withStack stack).step scope false operation).map Machine.stack

namespace Program

def stackAfter (scope : Variables) : Program → List ProseValue →
    Except ProseError (List ProseValue)
  | [], stack => .ok stack
  | instruction :: others, stack => do
      let after ← (instruction.operation.stackAfter scope stack).mapError (·.at instruction.place)
      stackAfter scope others after

/-- The strokes of a program, up to its first fault. -/
def strokes (scope : Variables) : Program → List ProseValue → List Stroke
  | [], _ => []
  | instruction :: others, stack =>
      (instruction.operation.stroke? stack).toList ++
        match instruction.operation.stackAfter scope stack with
        | .ok after => strokes scope others after
        | .error _ => []

end Program

def drawn (strokes : List Stroke) : StructuredText :=
  (strokes.foldl (Stroke.draw false) Machine.initial).endBlock.blocks

/-! ### A run draws its strokes -/

namespace Machine

theorem write_withStack (capitalize interpolated : Bool) (content : String) (machine : Machine)
    (stack : List ProseValue) :
    (machine.withStack stack).write capitalize interpolated content =
      (machine.write capitalize interpolated content).withStack stack := by
  unfold write
  split <;> rfl

theorem endSpan_withStack (machine : Machine) (stack : List ProseValue) :
    (machine.withStack stack).endSpan = machine.endSpan.withStack stack := by
  unfold endSpan
  change (if machine.pending.isEmpty then _ else _) = _
  split <;> rfl

theorem endBlock_withStack (machine : Machine) (stack : List ProseValue) :
    (machine.withStack stack).endBlock = machine.endBlock.withStack stack := by
  unfold endBlock
  rw [endSpan_withStack]
  rfl

end Machine

namespace Stroke

open Machine

variable {capitalize : Bool}

theorem draw_stack (stroke : Stroke) (machine : Machine) :
    (stroke.draw capitalize machine).stack = machine.stack := by
  cases stroke with
  | literal content | shown content => exact write_stack ..
  | start emphasis | stop emphasis => exact switch_stack ..
  | startHeading kind => exact startHeading_stack ..
  | endHeading => exact endHeading_stack machine
  | breakParagraph => exact endBlock_stack machine

theorem draw_withStack (stroke : Stroke) (machine : Machine) (stack : List ProseValue) :
    stroke.draw capitalize (machine.withStack stack) =
      (stroke.draw capitalize machine).withStack stack := by
  cases stroke with
  | literal content | shown content => exact write_withStack ..
  | start emphasis | stop emphasis =>
      cases emphasis <;> rw [draw, switch, endSpan_withStack] <;> rfl
  | startHeading kind =>
      rw [draw, Machine.startHeading, endBlock_withStack]
      rfl
  | endHeading =>
      rw [draw, Machine.endHeading, endSpan_withStack]
      rfl
  | breakParagraph => exact endBlock_withStack machine stack

theorem foldl_draw_withStack (strokes : List Stroke) (machine : Machine)
    (stack : List ProseValue) :
    strokes.foldl (draw capitalize) (machine.withStack stack) =
      (strokes.foldl (draw capitalize) machine).withStack stack := by
  induction strokes generalizing machine with
  | nil => rfl
  | cons stroke others ih => rw [List.foldl_cons, List.foldl_cons, draw_withStack, ih]

end Stroke

namespace Machine

variable {scope : Variables} {capitalize : Bool}

theorem step_of_stroke {operation : Operation} {stroke : Stroke} {machine : Machine}
    (draws : operation.stroke? machine.stack = some stroke)
    (steps : ∀ (capitalize : Bool) (machine : Machine),
      machine.step scope capitalize operation = .ok (stroke.draw capitalize machine)) :
    machine.step scope capitalize operation =
      (operation.stackAfter scope machine.stack).map fun stack =>
        ((operation.stroke? machine.stack).toList.foldl (Stroke.draw capitalize) machine).withStack
          stack := by
  have stack : operation.stackAfter scope machine.stack = .ok machine.stack := by
    rw [Operation.stackAfter, steps]
    exact congrArg Except.ok (stroke.draw_stack _)
  rw [steps, stack, draws]
  have kept := (stroke.draw capitalize machine).withStack_self
  rw [stroke.draw_stack] at kept
  exact congrArg Except.ok kept.symm

/-- A step depends on the values on the stack alone, but for what it does to the text. -/
theorem step_draws (operation : Operation) (machine : Machine) :
    machine.step scope capitalize operation =
      (operation.stackAfter scope machine.stack).map fun stack =>
        ((operation.stroke? machine.stack).toList.foldl (Stroke.draw capitalize) machine).withStack
          stack := by
  cases operation with
  | push value => rfl
  | load name =>
      simp only [step, Operation.stackAfter]
      cases scope.lookup name <;> rfl
  | unary operator =>
      simp only [step, Operation.stackAfter, withStack_stack]
      rcases machine.stack with _ | ⟨operand, stack⟩
      · rfl
      · cases applied : operator.apply operand <;> simp only [applied] <;> rfl
  | binary operator =>
      simp only [step, Operation.stackAfter, withStack_stack]
      rcases machine.stack with _ | ⟨right, _ | ⟨left, stack⟩⟩
      · rfl
      · rfl
      · cases applied : operator.apply left right <;> simp only [applied] <;> rfl
  | choose =>
      simp only [step, Operation.stackAfter, withStack_stack]
      rcases machine.stack with _ | ⟨otherwise, _ | ⟨chosen, _ | ⟨condition, stack⟩⟩⟩ <;> rfl
  | append =>
      simp only [step, Operation.stackAfter, withStack_stack]
      rcases machine.stack with _ | ⟨value, stack⟩
      · rfl
      · by_cases writable : value.isWritable = true
        · have shown : value.written = .ok value.display := if_pos writable
          have kept : (((initial.withStack (value :: stack)).withStack stack).write false true
              value.display).stack = stack := write_stack ..
          simp only [shown, ok_bind]
          change Except.ok _ = Except.ok (Machine.withStack (machine.write capitalize true _) _)
          rw [← write_withStack]
          exact congrArg (fun stack => Except.ok ((machine.withStack stack).write ..)) kept.symm
        · have unwritten : value.written = .error .unwritableNumber := if_neg writable
          simp only [unwritten]
          rfl
  | appendText content => exact step_of_stroke rfl fun _ _ => rfl
  | start emphasis => exact step_of_stroke rfl fun _ _ => rfl
  | stop emphasis => exact step_of_stroke rfl fun _ _ => rfl
  | startHeading kind => exact step_of_stroke rfl fun _ _ => rfl
  | endHeading => exact step_of_stroke rfl fun _ _ => rfl
  | breakParagraph => exact step_of_stroke rfl fun _ _ => rfl

theorem run_draws (program : Program) (machine : Machine) :
    machine.run scope capitalize program =
      (program.stackAfter scope machine.stack).map fun stack =>
        ((program.strokes scope machine.stack).foldl (Stroke.draw capitalize) machine).withStack
          stack := by
  induction program generalizing machine with
  | nil => rfl
  | cons instruction others ih =>
      rw [run_cons, step_draws, Program.stackAfter, Program.strokes]
      cases instruction.operation.stackAfter scope machine.stack with
      | error fault => rfl
      | ok after =>
          change run scope capitalize others (withStack _ after) = _
          rw [ih, withStack_stack, List.foldl_append]
          change _ = (Program.stackAfter scope others after).map _
          simp only [Stroke.foldl_draw_withStack, withStack_withStack]

end Machine

theorem runStructured_draws (scope : Variables) (capitalize : Bool) (program : Program) :
    runStructured scope capitalize program =
      (program.stackAfter scope []).map fun _ =>
        ((program.strokes scope []).foldl (Stroke.draw capitalize)
          Machine.initial).endBlock.blocks := by
  have empty : Machine.initial.stack = [] := rfl
  rw [runStructured, Machine.run_draws, empty]
  cases program.stackAfter scope [] with
  | error error => rfl
  | ok stack =>
      have blocks := congrArg Machine.blocks (Machine.endBlock_withStack
        ((program.strokes scope []).foldl (Stroke.draw capitalize) Machine.initial) stack)
      exact congrArg Except.ok blocks

/-! ### Starts of sentences -/

/-- Whether nothing was written since the text started or the last heading ended. -/
def startsSentence (front : List Stroke) : Bool :=
  (front.rtakeWhile (· != .endHeading)).all Stroke.writesNothing

/-- Some strokes behind others, with a capital for each value that starts a sentence. -/
def capitalizeAfter (front : List Stroke) : List Stroke → List Stroke
  | [] => []
  | stroke :: others =>
      (if startsSentence front then stroke.capitalized else stroke) ::
        capitalizeAfter (front ++ [stroke]) others

theorem startsSentence_concat (front : List Stroke) (stroke : Stroke) :
    startsSentence (front ++ [stroke]) =
      (stroke == .endHeading || (startsSentence front && stroke.writesNothing)) := by
  unfold startsSentence
  rw [List.rtakeWhile_concat]
  by_cases ends : stroke = .endHeading
  · subst ends
    rfl
  · have goesOn : (stroke != .endHeading) = true := bne_iff_ne.mpr ends
    rw [if_pos goesOn, List.all_append, beq_false_of_ne ends, Bool.false_or]
    simp

namespace Stroke

theorem draw_atStart (stroke : Stroke) (machine : Machine) :
    (stroke.draw false machine).atStart =
      (stroke == .endHeading || (machine.atStart && stroke.writesNothing)) := by
  cases stroke with
  | literal content | shown content => exact Machine.write_atStart ..
  | start emphasis | stop emphasis =>
      exact (Machine.switch_atStart ..).trans (Bool.and_true _).symm
  | startHeading kind => exact machine.endBlock_atStart.trans (Bool.and_true _).symm
  | endHeading => rfl
  | breakParagraph => exact machine.endBlock_atStart.trans (Bool.and_true _).symm

theorem draw_capital (stroke : Stroke) (machine : Machine) :
    stroke.draw true machine =
      (if machine.atStart then stroke.capitalized else stroke).draw false machine := by
  have unchanged (plain : stroke.capitalized = stroke)
      (same : stroke.draw true machine = stroke.draw false machine) :
      stroke.draw true machine =
        (if machine.atStart then stroke.capitalized else stroke).draw false machine := by
    rw [plain, ite_self, same]
  cases stroke with
  | shown content =>
      cases start : machine.atStart with
      | true =>
          simp only [draw, capitalized, if_pos, Machine.write, start, isEmpty_capitalizeHead]
          rfl
      | false =>
          simp only [draw, Machine.write, start]
          rfl
  | literal content => exact unchanged rfl (by simp [draw, Machine.write])
  | start emphasis | stop emphasis => exact unchanged rfl rfl
  | startHeading kind => exact unchanged rfl rfl
  | endHeading => exact unchanged rfl rfl
  | breakParagraph => exact unchanged rfl rfl

theorem capitalized_eq_endHeading (stroke : Stroke) :
    (stroke.capitalized == .endHeading) = (stroke == .endHeading) := by
  cases stroke <;> rfl

theorem writesNothing_capitalized (stroke : Stroke) :
    stroke.capitalized.writesNothing = stroke.writesNothing := by
  cases stroke with
  | shown content => exact isEmpty_capitalizeHead content
  | _ => rfl

end Stroke

theorem foldl_draw_capital {front : List Stroke} {machine : Machine}
    (start : machine.atStart = startsSentence front) (strokes : List Stroke) :
    strokes.foldl (Stroke.draw true) machine =
      (capitalizeAfter front strokes).foldl (Stroke.draw false) machine := by
  -- The flag of the machine says of each place whether a sentence starts there.
  induction strokes generalizing front machine with
  | nil => rfl
  | cons stroke others ih =>
      have next : (stroke.draw true machine).atStart = startsSentence (front ++ [stroke]) := by
        rw [stroke.draw_capital, Stroke.draw_atStart, startsSentence_concat, start]
        split
        · rw [stroke.capitalized_eq_endHeading, stroke.writesNothing_capitalized]
        · rfl
      rw [List.foldl_cons, ih next, capitalizeAfter, List.foldl_cons, stroke.draw_capital, start]

/-! ### Kinds and styles -/

def Block.shape (block : Block) : BlockKind × Option (List SpanStyle) × List SpanStyle :=
  (block.kind, block.heading?.map (List.map Span.style), block.body.map Span.style)

structure Span.Alike (first second : Span) : Prop where
  style : first.style = second.style
  content : first.content.isEmpty = second.content.isEmpty

abbrev SpansAlike (first second : List Span) : Prop :=
  List.Forall₂ Span.Alike first second

theorem SpansAlike.styles {first second : List Span} (alike : SpansAlike first second) :
    first.map Span.style = second.map Span.style := by
  induction alike with
  | nil => rfl
  | cons same _ ih => rw [List.map_cons, List.map_cons, same.style, ih]

theorem SpansAlike.isEmpty {first second : List Span} (alike : SpansAlike first second) :
    first.isEmpty = second.isEmpty := by
  cases alike <;> rfl

theorem joinSpan_alike {first second : Span} {rest rest' : List Span} (alike : first.Alike second)
    (others : SpansAlike rest rest') :
    SpansAlike (joinSpan first rest) (joinSpan second rest') := by
  unfold joinSpan
  rw [← alike.content]
  split
  · exact others
  · cases others with
    | nil => exact .cons alike .nil
    | cons next left =>
        dsimp only
        rw [← next.style, ← alike.style]
        split
        · refine .cons ⟨rfl, ?_⟩ left
          rw [isEmpty_append, isEmpty_append, alike.content, next.content]
        · exact .cons alike (.cons next left)

theorem mergeSpans_alike {first second : List Span} (alike : SpansAlike first second) :
    SpansAlike (mergeSpans first) (mergeSpans second) := by
  induction alike with
  | nil => exact .nil
  | cons same _ ih => exact joinSpan_alike same ih

namespace Machine

/-- Machines that have written text of the same kinds and styles, and go on alike. -/
structure Alike (first second : Machine) : Prop where
  blocks : first.blocks.map Block.shape = second.blocks.map Block.shape
  heading : SpansAlike first.heading second.heading
  spans : SpansAlike first.spans second.spans
  pending : first.pending.isEmpty = second.pending.isEmpty
  kind : first.kind = second.kind
  inHeading : first.inHeading = second.inHeading
  bold : first.bold = second.bold
  italic : first.italic = second.italic

variable {first second : Machine}

theorem Alike.style (alike : first.Alike second) : first.style = second.style := by
  rw [Machine.style, Machine.style, alike.inHeading, alike.kind, alike.bold, alike.italic]

theorem Alike.endSpan (alike : first.Alike second) : first.endSpan.Alike second.endSpan := by
  unfold Machine.endSpan
  rw [← alike.pending]
  split
  · exact alike
  · exact { alike with
      spans := List.rel_append alike.spans (.cons ⟨alike.style, alike.pending⟩ .nil)
      pending := rfl }

theorem Alike.currentBlock (alike : first.Alike second) :
    first.currentBlock.map Block.shape = second.currentBlock.map Block.shape := by
  unfold Machine.currentBlock
  rw [← alike.heading.isEmpty, ← alike.spans.isEmpty, ← alike.kind]
  split
  · rfl
  · have body := (mergeSpans_alike alike.spans).styles
    have heading := (mergeSpans_alike alike.heading).styles
    rw [List.map_singleton, List.map_singleton, Block.shape, Block.shape, body]
    split
    · rfl
    · rw [Option.map_some, Option.map_some, heading]

theorem Alike.endBlock (alike : first.Alike second) : first.endBlock.Alike second.endBlock := by
  have ended := alike.endSpan
  exact { ended with
    blocks := by
      change (first.endSpan.blocks ++ first.endSpan.currentBlock).map Block.shape =
        (second.endSpan.blocks ++ second.endSpan.currentBlock).map Block.shape
      rw [List.map_append, List.map_append, ended.blocks, ended.currentBlock]
    heading := .nil
    spans := .nil
    inHeading := rfl
    bold := rfl
    italic := rfl }

theorem Alike.write (alike : first.Alike second) (interpolated : Bool) {content content' : String}
    (same : content.isEmpty = content'.isEmpty) :
    (first.write false interpolated content).Alike
      (second.write false interpolated content') := by
  cases empty : content.isEmpty with
  | true =>
      rw [write_of_isEmpty first empty, write_of_isEmpty second (same.symm.trans empty)]
      exact alike
  | false =>
      have filled := same.symm.trans empty
      rw [write_of_not_isEmpty first empty, write_of_not_isEmpty second filled]
      have plain (content : String) (machine : Machine) :
          machine.wording false interpolated content = content := by
        rw [wording, Bool.and_false]
        rfl
      exact { alike with
        pending := by
          change (first.pending ++ first.wording ..).isEmpty =
            (second.pending ++ second.wording ..).isEmpty
          rw [isEmpty_append, isEmpty_append, plain, plain, alike.pending, same] }

theorem Alike.switch (alike : first.Alike second) (emphasis : Emphasis) (enabled : Bool) :
    (first.switch emphasis enabled).Alike (second.switch emphasis enabled) := by
  cases emphasis with
  | bold => exact { alike.endSpan with bold := rfl }
  | italic => exact { alike.endSpan with italic := rfl }

theorem Alike.draw (alike : first.Alike second) (stroke : Stroke) :
    (stroke.draw false first).Alike (stroke.draw false second) := by
  cases stroke with
  | literal content => exact alike.write false rfl
  | shown content => exact alike.write true rfl
  | start emphasis => exact alike.switch emphasis true
  | stop emphasis => exact alike.switch emphasis false
  | startHeading kind => exact { alike.endBlock with kind := rfl, inHeading := rfl }
  | endHeading =>
      exact { alike.endSpan with heading := alike.endSpan.spans, spans := .nil, inHeading := rfl }
  | breakParagraph => exact alike.endBlock

theorem Alike.draw_capitalized (alike : first.Alike second) (stroke : Stroke) :
    (stroke.draw false first).Alike (stroke.capitalized.draw false second) := by
  cases stroke with
  | shown content => exact alike.write true (isEmpty_capitalizeHead content).symm
  | literal content => exact alike.draw _
  | start emphasis | stop emphasis => exact alike.draw _
  | startHeading kind => exact alike.draw _
  | endHeading => exact alike.draw _
  | breakParagraph => exact alike.draw _

theorem Alike.strokes (alike : first.Alike second) (front strokes : List Stroke) :
    (strokes.foldl (Stroke.draw false) first).Alike
      ((capitalizeAfter front strokes).foldl (Stroke.draw false) second) := by
  induction strokes generalizing front first second with
  | nil => exact alike
  | cons stroke others ih =>
      rw [capitalizeAfter, List.foldl_cons, List.foldl_cons]
      split
      · exact ih (alike.draw_capitalized stroke) _
      · exact ih (alike.draw stroke) _

theorem initial_alike : initial.Alike initial :=
  ⟨rfl, .nil, .nil, rfl, rfl, rfl, rfl, rfl⟩

end Machine

theorem shape_drawn (strokes : List Stroke) :
    (drawn (capitalizeAfter [] strokes)).map Block.shape = (drawn strokes).map Block.shape :=
  (Machine.initial_alike.strokes [] strokes).endBlock.blocks.symm

/-! ### Interpolation -/

theorem runStructured_plain (scope : Variables) (program : Program) :
    runStructured scope false program =
      (program.stackAfter scope []).map fun _ => drawn (program.strokes scope []) :=
  runStructured_draws scope false program

theorem runStructured_capital (scope : Variables) (program : Program) :
    runStructured scope true program =
      (program.stackAfter scope []).map fun _ =>
        drawn (capitalizeAfter [] (program.strokes scope [])) := by
  have start : Machine.initial.atStart = startsSentence [] := rfl
  rw [runStructured_draws, foldl_draw_capital start]
  rfl

/-- Capitals change the starts of sentences and nothing else. A text is interpolated with them if
it is without them, and fails alike. What its program does to the text under some variables is a
row of strokes. Without capitals the blocks are what these draw; with capitals they are what is
drawn if each value gets a capital that nothing was written before since the text started or the
last heading ended, and if nothing else is changed. The kinds of the blocks and the styles of their
spans are the same. -/
theorem interpolate_capitalizes (breaks : Bool) (bindings : List (String × Binding))
    (text : String) :
    (∀ error, interpolate ⟨breaks, true⟩ bindings text = .error error ↔
      interpolate ⟨breaks, false⟩ bindings text = .error error) ∧
    ∀ blocks, interpolate ⟨breaks, false⟩ bindings text = .ok blocks →
      ∃ program scope, compile (.prose breaks) text = .ok program ∧
        prepareVariables bindings = .ok scope ∧
        blocks = drawn (program.strokes scope []) ∧
        interpolate ⟨breaks, true⟩ bindings text =
          .ok (drawn (capitalizeAfter [] (program.strokes scope []))) ∧
        (drawn (capitalizeAfter [] (program.strokes scope []))).map Block.shape =
          blocks.map Block.shape := by
  unfold interpolate
  cases compiled : compile (.prose breaks) text with
  | error error => exact ⟨fun _ => Iff.rfl, nofun⟩
  | ok program =>
      cases prepared : prepareVariables bindings with
      | error error => exact ⟨fun _ => Iff.rfl, nofun⟩
      | ok scope =>
          simp only [ok_bind, runStructured_plain, runStructured_capital]
          cases program.stackAfter scope [] with
          | error error => exact ⟨fun _ => Iff.rfl, nofun⟩
          | ok stack =>
              refine ⟨fun _ => ⟨nofun, nofun⟩, ?_⟩
              rintro _ ⟨⟩
              exact ⟨program, scope, rfl, rfl, rfl, rfl, shape_drawn _⟩

theorem interpolate_capitalizes_heading :
    let text :=
      "$\x7bE\x7d$\x7bsub(\x7d$\x7bN\x7d: $\x7bN\x7d.$\x7b)\x7d*$\x7bN\x7d* and $\x7bN\x7d"
    let bindings := [("E", Binding.value (.text "")), ("N", .value (.text "éclair"))]
    let plain : StructuredText :=
      [⟨.subParagraph, some [⟨.bold, "éclair: éclair."⟩],
        [⟨.italic, "éclair"⟩, ⟨.normal, " and éclair"⟩]⟩]
    let capital : StructuredText :=
      [⟨.subParagraph, some [⟨.bold, "Éclair: éclair."⟩],
        [⟨.italic, "Éclair"⟩, ⟨.normal, " and éclair"⟩]⟩]
    interpolate ⟨false, false⟩ bindings text = .ok plain ∧
      interpolate ⟨false, true⟩ bindings text = .ok capital ∧
      capital.map Block.shape = plain.map Block.shape := by
  intro text bindings plain capital
  have without : interpolate ⟨false, false⟩ bindings text = .ok plain :=
    eq_ok_of_toOption (by decide +kernel)
  have capitals : interpolate ⟨false, true⟩ bindings text = .ok capital :=
    eq_ok_of_toOption (by decide +kernel)
  obtain ⟨program, scope, _, _, _, result, shape⟩ :=
    (interpolate_capitalizes false bindings text).2 plain without
  rw [← Except.ok.inj (capitals.symm.trans result)] at shape
  exact ⟨without, capitals, shape⟩

end Bestiary.Prose
