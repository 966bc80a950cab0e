import Bestiary.Proofs.Prose.Reading

/-!
The machine keeps track of the reading.

Between fragments the machine's flags say which structures are open, its
stack is empty, and what it has written so far of the current block is what
the reading has. Each operation of a fragment keeps this, so a whole run ends
with the blocks of the reading.
-/

namespace Bestiary.Prose

open Text

/-- Structures that can be open together: at most one of each kind, and a heading only outermost. -/
inductive Tidy : List Structure → Prop
  | nothing : Tidy []
  | heading {entered : Structure} : entered.isHeading = true → Tidy [entered]
  | emphasis {entered : Structure} {opened : List Structure} :
      entered.isHeading = false → entered ∉ opened → Tidy opened → Tidy (entered :: opened)

def StyledBlock.inProgress (inHeading : Bool) (kind : BlockKind) (heading flowing : StyledText) :
    StyledBlock :=
  if inHeading then ⟨kind, flowing, []⟩ else ⟨kind, heading, flowing⟩

theorem StyledBlock.inProgress_continueWith_prepend (inHeading : Bool) (kind : BlockKind)
    (heading flowing text : StyledText) (next : StyledBlock) :
    (inProgress inHeading kind heading flowing).continueWith (next.prepend inHeading text) =
      (inProgress inHeading kind heading (flowing ++ text)).continueWith next := by
  cases inHeading <;> simp [inProgress, continueWith, prepend]

theorem StyledBlock.blank_continueWith (kind : BlockKind) (next : StyledBlock) :
    (blank kind).continueWith next = next :=
  rfl

namespace Machine

def flowing (machine : Machine) : StyledText :=
  styledSpans machine.spans ++ styled machine.style machine.pending

def current (machine : Machine) : StyledBlock :=
  .inProgress machine.inHeading machine.kind (styledSpans machine.heading) machine.flowing

/-- The blocks of a machine whose text goes on with an outline. -/
def completed (machine : Machine) (outline : Outline) : List StyledBlock :=
  machine.blocks.map Block.styled ++
    ((machine.current.continueWith outline.current) :: outline.others).filter
      StyledBlock.isPresent

/-- What holds between fragments, some structures being open. -/
structure Tracks (opened : List Structure) (machine : Machine) : Prop where
  tidy : Tidy opened
  stack : machine.stack = []
  bold : machine.bold = decide (.bold ∈ opened)
  italic : machine.italic = decide (.italic ∈ opened)
  inHeading : machine.inHeading = opened.any Structure.isHeading
  kind : ∀ entered ∈ opened, ∀ kind, entered.headingKind? = some kind → machine.kind = kind
  noHeading : machine.inHeading = true → machine.heading = []
  solid : ∀ span ∈ machine.heading ++ machine.spans, span.content.isEmpty = false

theorem initial_tracks : Tracks [] initial where
  tidy := .nothing
  stack := rfl
  bold := rfl
  italic := rfl
  inHeading := rfl
  kind := by
    intro entered member
    cases member
  noHeading := by
    intro impossible
    cases impossible
  solid := by
    intro span member
    cases member

theorem initial_current : initial.current = .blank .paragraph :=
  rfl

theorem Tracks.style {opened : List Structure} {machine : Machine}
    (tracks : Tracks opened machine) : machine.style = styleUnder opened := by
  unfold Machine.style styleUnder
  by_cases inParagraph : Structure.paragraph ∈ opened
  · have heading : machine.inHeading = true := by
      rw [tracks.inHeading]
      exact List.any_eq_true.mpr ⟨_, inParagraph, rfl⟩
    have kind := tracks.kind _ inParagraph _ rfl
    simp only [heading, kind, if_pos inParagraph, if_true]
  · by_cases inSub : Structure.subParagraph ∈ opened
    · have heading : machine.inHeading = true := by
        rw [tracks.inHeading]
        exact List.any_eq_true.mpr ⟨_, inSub, rfl⟩
      have kind := tracks.kind _ inSub _ rfl
      simp only [heading, kind, if_neg inParagraph, if_pos inSub, if_true, tracks.italic]
    · have noHeading : machine.inHeading = false := by
        rw [tracks.inHeading, List.any_eq_false]
        intro entered member isHeading
        cases entered with
        | bold => cases isHeading
        | italic => cases isHeading
        | paragraph => exact inParagraph member
        | subParagraph => exact inSub member
      simp [noHeading, inParagraph, inSub, tracks.bold, tracks.italic]

/-! ### Ending a span -/

theorem endSpan_pending (machine : Machine) : machine.endSpan.pending = "" := by
  unfold endSpan
  split
  · rename_i empty
    exact String.isEmpty_iff.mp empty
  · rfl

theorem styledSpans_endSpan (machine : Machine) :
    styledSpans machine.endSpan.spans = machine.flowing := by
  unfold endSpan flowing
  split
  · rename_i empty
    rw [styled_of_isEmpty empty, List.append_nil]
  · rw [styledSpans_append]
    congr 1
    exact List.append_nil _

theorem flowing_of_no_pending {machine : Machine} (ended : machine.pending = "") :
    machine.flowing = styledSpans machine.spans := by
  rw [flowing, ended]
  exact List.append_nil _

@[simp] theorem endSpan_blocks (machine : Machine) : machine.endSpan.blocks = machine.blocks := by
  unfold endSpan
  split <;> rfl

@[simp] theorem endSpan_heading (machine : Machine) :
    machine.endSpan.heading = machine.heading := by
  unfold endSpan
  split <;> rfl

@[simp] theorem endSpan_kind (machine : Machine) : machine.endSpan.kind = machine.kind := by
  unfold endSpan
  split <;> rfl

@[simp] theorem endSpan_inHeading (machine : Machine) :
    machine.endSpan.inHeading = machine.inHeading := by
  unfold endSpan
  split <;> rfl

@[simp] theorem endSpan_bold (machine : Machine) : machine.endSpan.bold = machine.bold := by
  unfold endSpan
  split <;> rfl

@[simp] theorem endSpan_italic (machine : Machine) : machine.endSpan.italic = machine.italic := by
  unfold endSpan
  split <;> rfl

@[simp] theorem endSpan_atStart (machine : Machine) :
    machine.endSpan.atStart = machine.atStart := by
  unfold endSpan
  split <;> rfl

theorem endSpan_solid {machine : Machine}
    (solid : ∀ span ∈ machine.heading ++ machine.spans, span.content.isEmpty = false) :
    ∀ span ∈ machine.heading ++ machine.endSpan.spans, span.content.isEmpty = false := by
  intro span member
  unfold endSpan at member
  split at member
  · exact solid span member
  · rename_i something
    simp only [List.mem_append, List.mem_singleton] at member
    rcases member with inHeading | inSpans | rfl
    · exact solid span (List.mem_append.mpr (.inl inHeading))
    · exact solid span (List.mem_append.mpr (.inr inSpans))
    · exact Bool.eq_false_iff.mpr something

/-! ### Writing -/

theorem write_of_isEmpty {capitalize interpolated : Bool} {content : String}
    (machine : Machine) (empty : content.isEmpty = true) :
    machine.write capitalize interpolated content = machine := by
  rw [write, if_pos empty]

def wording (capitalize interpolated : Bool) (content : String) (machine : Machine) : String :=
  if machine.atStart && interpolated && capitalize then capitalizeHead content else content

theorem wording_of_isEmpty {capitalize interpolated : Bool} {content : String}
    (machine : Machine) (empty : content.isEmpty = true) :
    machine.wording capitalize interpolated content = "" := by
  rw [String.isEmpty_iff.mp empty, wording]
  split <;> rfl

theorem write_of_not_isEmpty {capitalize interpolated : Bool} {content : String}
    (machine : Machine) (something : content.isEmpty = false) :
    machine.write capitalize interpolated content =
      { machine with
        pending := machine.pending ++ machine.wording capitalize interpolated content
        atStart := false } := by
  rw [write, if_neg (Bool.eq_false_iff.mp something)]
  rfl

theorem write_atStart (capitalize interpolated : Bool) (content : String) (machine : Machine) :
    (machine.write capitalize interpolated content).atStart =
      (machine.atStart && content.isEmpty) := by
  cases empty : content.isEmpty with
  | false => rw [write_of_not_isEmpty machine empty, Bool.and_false]
  | true => rw [write_of_isEmpty machine empty, Bool.and_true]

theorem write_kind (capitalize interpolated : Bool) (content : String) (machine : Machine) :
    (machine.write capitalize interpolated content).kind = machine.kind := by
  unfold write
  split <;> rfl

theorem Tracks.write {opened : List Structure} {machine : Machine}
    (tracks : Tracks opened machine) (capitalize interpolated : Bool) (content : String) :
    Tracks opened (machine.write capitalize interpolated content) := by
  cases empty : content.isEmpty with
  | true =>
      rw [write_of_isEmpty machine empty]
      exact tracks
  | false =>
      rw [write_of_not_isEmpty machine empty]
      exact ⟨tracks.tidy, tracks.stack, tracks.bold, tracks.italic, tracks.inHeading, tracks.kind,
        tracks.noHeading, tracks.solid⟩

/-- What is written stands in front of what follows, in the style of the open structures. -/
theorem Tracks.write_completed {opened : List Structure} {machine : Machine}
    (tracks : Tracks opened machine) (capitalize interpolated : Bool) (content : String)
    (outline : Outline) :
    (machine.write capitalize interpolated content).completed outline =
      machine.completed (outline.write opened (machine.wording capitalize interpolated content)) := by
  unfold Outline.write completed
  simp only
  rw [← tracks.inHeading, ← tracks.style, current, current,
    StyledBlock.inProgress_continueWith_prepend]
  cases empty : content.isEmpty with
  | true =>
      rw [write_of_isEmpty machine empty, wording_of_isEmpty machine empty]
      simp [styled]
  | false =>
      have flowingEq : (machine.write capitalize interpolated content).flowing =
          machine.flowing ++ styled machine.style (machine.wording capitalize interpolated content) := by
        rw [write_of_not_isEmpty machine empty, flowing, flowing, List.append_assoc,
          ← styled_append]
        rfl
      rw [flowingEq, write_of_not_isEmpty machine empty]

/-! ### Switching an emphasis -/

theorem switch_flags (emphasis : Emphasis) (enabled : Bool) (machine : Machine) :
    (machine.switch emphasis enabled).bold =
        (if emphasis = .bold then enabled else machine.bold) ∧
      (machine.switch emphasis enabled).italic =
        (if emphasis = .italic then enabled else machine.italic) := by
  cases emphasis with
  | bold => exact ⟨rfl, machine.endSpan_italic⟩
  | italic => exact ⟨machine.endSpan_bold, rfl⟩

theorem switch_completed (emphasis : Emphasis) (enabled : Bool) (machine : Machine)
    (outline : Outline) :
    (machine.switch emphasis enabled).completed outline = machine.completed outline := by
  have flowingEq : (machine.switch emphasis enabled).flowing = machine.flowing := by
    rw [← machine.styledSpans_endSpan]
    cases emphasis with
    | bold => exact flowing_of_no_pending machine.endSpan_pending
    | italic => exact flowing_of_no_pending machine.endSpan_pending
  unfold completed current
  rw [flowingEq]
  cases emphasis <;> simp [switch]

theorem switch_kind (emphasis : Emphasis) (enabled : Bool) (machine : Machine) :
    (machine.switch emphasis enabled).kind = machine.kind := by
  cases emphasis <;> exact machine.endSpan_kind

theorem switch_atStart (emphasis : Emphasis) (enabled : Bool) (machine : Machine) :
    (machine.switch emphasis enabled).atStart = machine.atStart := by
  cases emphasis <;> exact machine.endSpan_atStart

theorem switch_inHeading (emphasis : Emphasis) (enabled : Bool) (machine : Machine) :
    (machine.switch emphasis enabled).inHeading = machine.inHeading := by
  cases emphasis <;> exact machine.endSpan_inHeading

theorem switch_heading (emphasis : Emphasis) (enabled : Bool) (machine : Machine) :
    (machine.switch emphasis enabled).heading = machine.heading := by
  cases emphasis <;> exact machine.endSpan_heading

theorem switch_spans (emphasis : Emphasis) (enabled : Bool) (machine : Machine) :
    (machine.switch emphasis enabled).spans = machine.endSpan.spans := by
  cases emphasis <;> rfl

theorem Tracks.enter_emphasis {opened : List Structure} {machine : Machine}
    (tracks : Tracks opened machine) (emphasis : Emphasis) (absent : emphasis.structure ∉ opened) :
    Tracks (emphasis.structure :: opened) (machine.switch emphasis true) where
  tidy := .emphasis (by cases emphasis <;> rfl) absent tracks.tidy
  stack := (machine.switch_stack emphasis true).trans tracks.stack
  bold := by
    rw [(switch_flags emphasis true machine).1, tracks.bold]
    cases emphasis <;> simp [Emphasis.structure]
  italic := by
    rw [(switch_flags emphasis true machine).2, tracks.italic]
    cases emphasis <;> simp [Emphasis.structure]
  inHeading := by
    rw [switch_inHeading, tracks.inHeading]
    cases emphasis <;> rfl
  kind := by
    intro entered member kind isHeading
    rw [switch_kind]
    rcases List.mem_cons.mp member with rfl | inOpened
    · cases emphasis <;> cases isHeading
    · exact tracks.kind entered inOpened kind isHeading
  noHeading := by
    rw [switch_inHeading, switch_heading]
    exact tracks.noHeading
  solid := by
    rw [switch_heading, switch_spans]
    exact endSpan_solid tracks.solid

theorem Tracks.leave_emphasis {opened : List Structure} {machine : Machine} {emphasis : Emphasis}
    (tracks : Tracks (emphasis.structure :: opened) machine) :
    Tracks opened (machine.switch emphasis false) := by
  obtain ⟨absent, tidy⟩ : emphasis.structure ∉ opened ∧ Tidy opened := by
    cases tracks.tidy with
    | heading isHeading => cases emphasis <;> cases isHeading
    | emphasis _ absent tidy => exact ⟨absent, tidy⟩
  refine
    { tidy := tidy
      stack := (machine.switch_stack emphasis false).trans tracks.stack
      bold := ?_
      italic := ?_
      inHeading := ?_
      kind := ?_
      noHeading := ?_
      solid := ?_ }
  · rw [(switch_flags emphasis false machine).1, tracks.bold]
    cases emphasis with
    | bold => simpa [Emphasis.structure] using absent
    | italic => simp [Emphasis.structure]
  · rw [(switch_flags emphasis false machine).2, tracks.italic]
    cases emphasis with
    | bold => simp [Emphasis.structure]
    | italic => simpa [Emphasis.structure] using absent
  · rw [switch_inHeading, tracks.inHeading]
    cases emphasis <;> rfl
  · intro entered member kind isHeading
    rw [switch_kind]
    exact tracks.kind entered (List.mem_cons_of_mem _ member) kind isHeading
  · rw [switch_inHeading, switch_heading]
    exact tracks.noHeading
  · rw [switch_heading, switch_spans]
    exact endSpan_solid tracks.solid

/-! ### Ending a block -/

theorem styledSpans_isEmpty {spans : List Span}
    (solid : ∀ span ∈ spans, span.content.isEmpty = false) :
    (styledSpans spans).isEmpty = spans.isEmpty := by
  cases spans with
  | nil => rfl
  | cons span others =>
      have something : styled span.style span.content ≠ [] :=
        styled_ne_nil (solid span List.mem_cons_self)
      rw [styledSpans_cons]
      cases written : styled span.style span.content with
      | nil => exact absurd written something
      | cons character rest => rfl

theorem Tracks.endBlock {machine : Machine} (tracks : Tracks [] machine) :
    Tracks [] machine.endBlock where
  tidy := .nothing
  stack := machine.endBlock_stack.trans tracks.stack
  bold := rfl
  italic := rfl
  inHeading := rfl
  kind := by
    intro entered member
    cases member
  noHeading := fun _ => rfl
  solid := by
    intro span member
    cases member

theorem Tracks.endBlock_blocks {machine : Machine} (tracks : Tracks [] machine) :
    machine.endBlock.blocks.map Block.styled =
      machine.blocks.map Block.styled ++ [machine.current].filter StyledBlock.isPresent := by
  have outside : machine.inHeading = false := tracks.inHeading
  have solid := endSpan_solid tracks.solid
  have headingSolid : ∀ span ∈ machine.heading, span.content.isEmpty = false :=
    fun span member => solid span (List.mem_append.mpr (.inl member))
  have spansSolid : ∀ span ∈ machine.endSpan.spans, span.content.isEmpty = false :=
    fun span member => solid span (List.mem_append.mpr (.inr member))
  have currentEq : machine.current =
      ⟨machine.kind, styledSpans machine.heading, styledSpans machine.endSpan.spans⟩ := by
    rw [current, outside, styledSpans_endSpan]
    rfl
  -- The machine asks whether there are spans, the reading whether there are characters.
  have presentEq : machine.current.isPresent =
      !(machine.heading.isEmpty && machine.endSpan.spans.isEmpty) := by
    rw [currentEq, StyledBlock.isPresent, styledSpans_isEmpty headingSolid,
      styledSpans_isEmpty spansSolid]
  have blocksEq : machine.endBlock.blocks = machine.blocks ++ machine.endSpan.currentBlock := by
    rw [← machine.endSpan_blocks]
    rfl
  rw [blocksEq, List.map_append]
  congr 1
  unfold currentBlock
  rw [endSpan_heading, endSpan_kind]
  cases missing : machine.heading.isEmpty && machine.endSpan.spans.isEmpty with
  | true =>
      rw [missing] at presentEq
      simp [presentEq]
  | false =>
      rw [missing] at presentEq
      have kept : [machine.current].filter StyledBlock.isPresent = [machine.current] := by
        simp [presentEq]
      rw [kept, if_neg Bool.false_ne_true, List.map_singleton, currentEq, Block.styled]
      simp only [styledSpans_mergeSpans]
      congr 2
      split
      · rename_i headless
        rw [List.isEmpty_iff.mp headless]
        rfl
      · exact styledSpans_mergeSpans machine.heading

theorem endBlock_flowing (machine : Machine) : machine.endBlock.flowing = [] :=
  flowing_of_no_pending machine.endSpan_pending

theorem endBlock_current (machine : Machine) :
    machine.endBlock.current = .blank machine.endSpan.kind := by
  rw [current, endBlock_flowing]
  rfl

theorem Tracks.current_continueWith_blank {machine : Machine} (tracks : Tracks [] machine) :
    machine.current.continueWith (.blank machine.kind) = machine.current := by
  have outside : machine.inHeading = false := tracks.inHeading
  simp [current, outside, StyledBlock.inProgress, StyledBlock.continueWith, StyledBlock.blank]

theorem Tracks.completed_blank {machine : Machine} (tracks : Tracks [] machine) :
    machine.completed ⟨.blank machine.kind, []⟩ = machine.endBlock.blocks.map Block.styled := by
  rw [completed, tracks.current_continueWith_blank, tracks.endBlock_blocks]

theorem Tracks.endBlock_completed {machine : Machine} (tracks : Tracks [] machine)
    (outline : Outline) :
    machine.endBlock.completed outline =
      machine.completed (outline.startBlock machine.kind) := by
  rw [completed, tracks.endBlock_blocks, endBlock_current, StyledBlock.blank_continueWith,
    completed, Outline.startBlock]
  simp only
  rw [tracks.current_continueWith_blank, List.append_assoc, ← List.filter_append]
  rfl

theorem endBlock_kind (machine : Machine) : machine.endBlock.kind = machine.kind :=
  machine.endSpan_kind

theorem endBlock_atStart (machine : Machine) : machine.endBlock.atStart = machine.atStart :=
  machine.endSpan_atStart

/-! ### Opening and closing structures -/

theorem Tracks.startHeading {machine : Machine} (tracks : Tracks [] machine)
    {entered : Structure} {kind : BlockKind} (started : entered.headingKind? = some kind) :
    Tracks [entered] (machine.startHeading kind) := by
  have ended := tracks.endBlock
  refine
    { tidy := .heading ?_
      stack := ended.stack
      bold := ?_
      italic := ?_
      inHeading := ?_
      kind := ?_
      noHeading := fun _ => rfl
      solid := ended.solid }
  · cases entered <;> first | rfl | cases started
  · cases entered <;> first | rfl | cases started
  · cases entered <;> first | rfl | cases started
  · cases entered <;> first | rfl | cases started
  · intro inner member kind' started'
    rw [List.mem_singleton.mp member, started] at started'
    exact Option.some.inj started'

theorem startHeading_completed {machine : Machine} (tracks : Tracks [] machine)
    (kind : BlockKind) (outline : Outline) :
    (machine.startHeading kind).completed outline =
      machine.completed (outline.startBlock machine.kind) := by
  have blankCurrent : (machine.startHeading kind).current = .blank kind := by
    have emptied : (machine.startHeading kind).flowing = [] :=
      flowing_of_no_pending machine.endSpan_pending
    rw [current, emptied]
    rfl
  rw [← tracks.endBlock_completed, completed, blankCurrent, StyledBlock.blank_continueWith,
    completed, endBlock_current, StyledBlock.blank_continueWith]
  rfl

/-- The operation that a structure starts with puts the machine inside that. A heading starts a
block. -/
theorem Tracks.enter {opened : List Structure} {machine : Machine}
    (tracks : Tracks opened machine) {entered : Structure} (absent : entered ∉ opened)
    (outermost : entered.isHeading = true → opened = [])
    (scope : Variables) (capitalize : Bool) :
    ∃ after, machine.step scope capitalize entered.starting = .ok after ∧
      Tracks (entered :: opened) after ∧
      after.kind = entered.headingKind?.getD machine.kind ∧
      after.atStart = machine.atStart ∧
      ∀ outline, after.completed outline = machine.completed
        (if entered.isHeading then outline.startBlock machine.kind else outline) := by
  cases entered with
  | bold =>
      exact ⟨machine.switch .bold true, rfl, tracks.enter_emphasis .bold absent,
        switch_kind .bold true machine, switch_atStart .bold true machine,
        switch_completed .bold true machine⟩
  | italic =>
      exact ⟨machine.switch .italic true, rfl, tracks.enter_emphasis .italic absent,
        switch_kind .italic true machine, switch_atStart .italic true machine,
        switch_completed .italic true machine⟩
  | paragraph =>
      obtain rfl := outermost rfl
      exact ⟨machine.startHeading .paragraph, rfl, tracks.startHeading rfl, rfl,
        machine.endBlock_atStart, startHeading_completed tracks .paragraph⟩
  | subParagraph =>
      obtain rfl := outermost rfl
      exact ⟨machine.startHeading .subParagraph, rfl, tracks.startHeading rfl, rfl,
        machine.endBlock_atStart, startHeading_completed tracks .subParagraph⟩

theorem Tracks.endHeading {machine : Machine} {opened : List Structure} {entered : Structure}
    (tracks : Tracks (entered :: opened) machine) (heading : entered.isHeading = true) :
    Tracks opened machine.endHeading ∧
      ∀ outline, machine.endHeading.completed outline = machine.completed outline := by
  have inside : machine.inHeading = true := by
    rw [tracks.inHeading]
    exact List.any_eq_true.mpr ⟨entered, List.mem_cons_self, heading⟩
  -- A heading is outermost and there is no other before it, so nothing is overwritten.
  have headless : machine.heading = [] := tracks.noHeading inside
  obtain rfl : opened = [] := by
    cases tracks.tidy with
    | heading _ => rfl
    | emphasis notHeading _ _ =>
        rw [heading] at notHeading
        cases notHeading
  constructor
  · refine
      { tidy := .nothing
        stack := machine.endHeading_stack.trans tracks.stack
        bold := ?_
        italic := ?_
        inHeading := rfl
        kind := ?_
        noHeading := ?_
        solid := ?_ }
    · have bold := tracks.bold
      cases entered <;> first | exact machine.endSpan_bold.trans bold | cases heading
    · have italic := tracks.italic
      cases entered <;> first | exact machine.endSpan_italic.trans italic | cases heading
    · intro inner member
      cases member
    · intro impossible
      cases impossible
    · intro span member
      have inSpans : span ∈ machine.endSpan.spans := by
        rcases List.mem_append.mp member with inSpans | impossible
        · exact inSpans
        · cases impossible
      exact endSpan_solid tracks.solid span (List.mem_append.mpr (.inr inSpans))
  · intro outline
    have currentEq : machine.endHeading.current.continueWith outline.current =
        machine.current.continueWith outline.current := by
      have emptied : machine.endHeading.flowing = [] :=
        flowing_of_no_pending machine.endSpan_pending
      rw [current, current, emptied, inside, ← machine.styledSpans_endSpan]
      rfl
    rw [completed, currentEq, completed, ← machine.endSpan_blocks]
    rfl

/-- The operation that a structure ends with puts the machine outside that. A sentence starts
after a heading. -/
theorem Tracks.leave {opened : List Structure} {machine : Machine} {entered : Structure}
    (tracks : Tracks (entered :: opened) machine) (scope : Variables) (capitalize : Bool) :
    ∃ after, machine.step scope capitalize entered.ending = .ok after ∧
      Tracks opened after ∧
      after.kind = machine.kind ∧
      after.atStart = (machine.atStart || entered.isHeading) ∧
      ∀ outline, after.completed outline = machine.completed outline := by
  cases entered with
  | bold =>
      refine ⟨machine.switch .bold false, rfl, ?_, switch_kind .bold false machine, ?_,
        switch_completed .bold false machine⟩
      · exact Tracks.leave_emphasis tracks
      · exact (switch_atStart .bold false machine).trans (Bool.or_false _).symm
  | italic =>
      refine ⟨machine.switch .italic false, rfl, ?_, switch_kind .italic false machine, ?_,
        switch_completed .italic false machine⟩
      · exact Tracks.leave_emphasis tracks
      · exact (switch_atStart .italic false machine).trans (Bool.or_false _).symm
  | paragraph =>
      obtain ⟨after, same⟩ := tracks.endHeading rfl
      exact ⟨machine.endHeading, rfl, after, machine.endSpan_kind, (Bool.or_true _).symm, same⟩
  | subParagraph =>
      obtain ⟨after, same⟩ := tracks.endHeading rfl
      exact ⟨machine.endHeading, rfl, after, machine.endSpan_kind, (Bool.or_true _).symm, same⟩

end Machine

end Bestiary.Prose
