import Bestiary.Proofs.Prose.Tracking
import Mathlib.Data.List.Chain

/-!
The normal form of styled text.

Spans are in normal form if none is empty and no two neighbours share a style.
Merging makes such spans of any others, and there is only one normal form for
each row of styled characters: the style of the first character says how far
the first span goes. The headings and the bodies of all blocks that a program
writes are in normal form.
-/

namespace Bestiary.Prose

/-- Spans of which none is empty and no two neighbours share a style. -/
structure IsNormal (spans : List Span) : Prop where
  solid : ∀ span ∈ spans, span.content.isEmpty = false
  apart : spans.IsChain fun span next => span.style ≠ next.style

theorem isNormal_nil : IsNormal [] :=
  ⟨List.forall_mem_nil _, .nil⟩

theorem isNormal_singleton {span : Span} (solid : span.content.isEmpty = false) :
    IsNormal [span] :=
  ⟨List.forall_mem_singleton.mpr solid, .singleton _⟩

theorem IsNormal.tail {span : Span} {others : List Span} (normal : IsNormal (span :: others)) :
    IsNormal others :=
  ⟨fun other member => normal.solid other (List.mem_cons_of_mem _ member), normal.apart.tail⟩

/-! ### Merging -/

theorem joinSpan_isNormal (span : Span) {rest : List Span} (normal : IsNormal rest) :
    IsNormal (joinSpan span rest) := by
  unfold joinSpan
  split
  · exact normal
  · rename_i something
    have solid : span.content.isEmpty = false := Bool.eq_false_iff.mpr something
    cases rest with
    | nil => exact isNormal_singleton solid
    | cons next others =>
        obtain ⟨solidNext, solidOthers⟩ := List.forall_mem_cons.mp normal.solid
        dsimp only
        split
        · rename_i same
          refine ⟨List.forall_mem_cons.mpr ⟨?_, solidOthers⟩, ?_⟩
          · rw [isEmpty_append, solid, Bool.false_and]
          · have apart := normal.apart
            rw [List.isChain_cons] at apart ⊢
            rw [← same]
            exact apart
        · rename_i different
          exact ⟨List.forall_mem_cons.mpr ⟨solid, normal.solid⟩,
            .cons_cons (Ne.symm different) normal.apart⟩

theorem mergeSpans_isNormal (spans : List Span) : IsNormal (mergeSpans spans) := by
  induction spans with
  | nil => exact isNormal_nil
  | cons span others ih => exact joinSpan_isNormal span ih

/-! ### Uniqueness -/

theorem exists_styled_cons (style : SpanStyle) {content : String}
    (solid : content.isEmpty = false) :
    ∃ character others, styled style content = (character, style) :: others := by
  have filled : styled style content ≠ [] := styled_ne_nil solid
  obtain ⟨head, tail, characters⟩ := List.exists_cons_of_ne_nil filled
  have member : head ∈ styled style content := characters ▸ List.mem_cons_self
  obtain ⟨character, _, rfl⟩ := List.mem_map.mp member
  exact ⟨character, tail, characters⟩

theorem IsNormal.first {span : Span} {others : List Span} (normal : IsNormal (span :: others)) :
    (styledSpans (span :: others)).takeWhile (fun character => character.2 == span.style) =
      styled span.style span.content := by
  have uniform : ∀ character ∈ styled span.style span.content,
      (character.2 == span.style) = true := by
    intro character member
    obtain ⟨_, _, rfl⟩ := List.mem_map.mp member
    exact beq_self_eq_true span.style
  have stops : (styledSpans others).takeWhile (fun character => character.2 == span.style) = [] := by
    cases others with
    | nil => rfl
    | cons next rest =>
        have different : next.style ≠ span.style := Ne.symm (List.isChain_cons_cons.mp normal.apart).1
        obtain ⟨character, tail, characters⟩ :=
          exists_styled_cons next.style (normal.tail.solid next List.mem_cons_self)
        rw [styledSpans_cons, characters, List.cons_append,
          List.takeWhile_cons_of_neg (by simpa using different)]
  rw [styledSpans_cons, List.takeWhile_append_of_pos uniform, stops, List.append_nil]

theorem styled_injective {style : SpanStyle} {first second : String}
    (same : styled style first = styled style second) : first = second := by
  have pairing : Function.Injective fun character : Char => (character, style) :=
    fun _ _ equal => (Prod.mk.inj equal).1
  exact String.toList_inj.mp (pairing.list_map same)

/-- Styled characters have one normal form. -/
theorem IsNormal.unique {first second : List Span} (normal : IsNormal first)
    (normal' : IsNormal second) (same : styledSpans first = styledSpans second) :
    first = second := by
  induction first generalizing second with
  | nil =>
      cases second with
      | nil => rfl
      | cons span others =>
          obtain ⟨_, _, characters⟩ :=
            exists_styled_cons span.style (normal'.solid span List.mem_cons_self)
          rw [styledSpans_cons, characters] at same
          cases same
  | cons span others ih =>
      obtain ⟨character, rest, characters⟩ :=
        exists_styled_cons span.style (normal.solid span List.mem_cons_self)
      cases second with
      | nil =>
          rw [styledSpans_cons, characters] at same
          cases same
      | cons span' others' =>
          obtain ⟨character', rest', characters'⟩ :=
            exists_styled_cons span'.style (normal'.solid span' List.mem_cons_self)
          have style : span.style = span'.style := by
            have heads := same
            rw [styledSpans_cons, styledSpans_cons, characters, characters'] at heads
            exact (Prod.mk.inj (List.cons.inj heads).1).2
          have content : span.content = span'.content := by
            have characters : styled span.style span.content = styled span.style span'.content := by
              rw [← normal.first, same, style]
              exact normal'.first
            exact styled_injective characters
          obtain rfl : span = span' := by
            cases span
            cases span'
            exact congrArg₂ Span.mk style content
          rw [styledSpans_cons, styledSpans_cons] at same
          rw [ih normal.tail normal'.tail (List.append_cancel_left same)]

/-! ### Written blocks -/

/-- A block of which the heading and the body are in normal form, and which has one of them. -/
structure Block.IsNormal (block : Block) : Prop where
  heading : ∀ heading ∈ block.heading?, Prose.IsNormal heading ∧ heading ≠ []
  body : Prose.IsNormal block.body
  present : block.heading? = none → block.body ≠ []

theorem Block.IsNormal.unique {first second : Block} (normal : first.IsNormal)
    (normal' : second.IsNormal) (same : first.styled = second.styled) : first = second := by
  obtain ⟨kind, heading?, body⟩ := first
  obtain ⟨kind', heading?', body'⟩ := second
  obtain ⟨sameKind, sameHeading, sameBody⟩ := StyledBlock.mk.inj same
  have nothing {heading : List Span} (isNormal : Prose.IsNormal heading)
      (empty : styledSpans heading = []) : heading = [] :=
    isNormal.unique isNormal_nil empty
  have headingEq : heading? = heading?' := by
    cases heading? with
    | none =>
        cases heading?' with
        | none => rfl
        | some heading' =>
            obtain ⟨isNormal, something⟩ := normal'.heading heading' rfl
            exact absurd (nothing isNormal sameHeading.symm) something
    | some heading =>
        obtain ⟨isNormal, something⟩ := normal.heading heading rfl
        cases heading?' with
        | none => exact absurd (nothing isNormal sameHeading) something
        | some heading' =>
            exact congrArg some (isNormal.unique (normal'.heading heading' rfl).1 sameHeading)
  have bodyEq : body = body' := normal.body.unique normal'.body sameBody
  obtain rfl : kind = kind' := sameKind
  rw [headingEq, bodyEq]

theorem forall_isNormal_unique {first second : List Block} (normal : ∀ block ∈ first, block.IsNormal)
    (normal' : ∀ block ∈ second, block.IsNormal)
    (same : first.map Block.styled = second.map Block.styled) : first = second := by
  induction first generalizing second with
  | nil => exact (List.map_eq_nil_iff.mp same.symm).symm
  | cons block others ih =>
      obtain ⟨block', others', rfl, sameBlock, sameOthers⟩ := List.map_eq_cons_iff.mp same.symm
      obtain ⟨first, later⟩ := List.forall_mem_cons.mp normal
      obtain ⟨first', later'⟩ := List.forall_mem_cons.mp normal'
      rw [first.unique first' sameBlock.symm, ih later later' sameOthers.symm]

theorem mergeSpans_ne_nil {spans : List Span} (something : spans ≠ [])
    (solid : ∀ span ∈ spans, span.content.isEmpty = false) : mergeSpans spans ≠ [] := by
  intro nothing
  have characters := styledSpans_mergeSpans spans
  rw [nothing] at characters
  have empty := Machine.styledSpans_isEmpty solid
  rw [← characters] at empty
  exact something (List.isEmpty_iff.mp empty.symm)

namespace Machine

variable {scope : Variables} {capitalize : Bool}

/-- No span that is kept is empty, and all finished blocks are in normal form. -/
structure WritesNormal (machine : Machine) : Prop where
  solid : ∀ span ∈ machine.heading ++ machine.spans, span.content.isEmpty = false
  blocks : ∀ block ∈ machine.blocks, block.IsNormal

theorem initial_writesNormal : WritesNormal initial :=
  ⟨List.forall_mem_nil _, List.forall_mem_nil _⟩

theorem currentBlock_isNormal {machine : Machine}
    (solid : ∀ span ∈ machine.heading ++ machine.spans, span.content.isEmpty = false) :
    ∀ block ∈ machine.currentBlock, block.IsNormal := by
  obtain ⟨solidHeading, solidSpans⟩ := List.forall_mem_append.mp solid
  unfold currentBlock
  split
  · exact List.forall_mem_nil _
  · rename_i something
    refine List.forall_mem_singleton.mpr ⟨?_, mergeSpans_isNormal _, ?_⟩
    · intro heading member
      dsimp only at member
      split at member
      · cases member
      · rename_i titled
        cases member
        exact ⟨mergeSpans_isNormal _,
          mergeSpans_ne_nil (fun empty => titled (List.isEmpty_iff.mpr empty)) solidHeading⟩
    · intro untitled
      dsimp only at untitled ⊢
      split at untitled
      · rename_i empty
        refine mergeSpans_ne_nil (fun nothing => something ?_) solidSpans
        rw [empty, nothing]
        rfl
      · cases untitled

theorem WritesNormal.endSpan {machine : Machine} (normal : machine.WritesNormal) :
    machine.endSpan.WritesNormal where
  solid := by
    rw [endSpan_heading]
    exact endSpan_solid normal.solid
  blocks := by
    rw [endSpan_blocks]
    exact normal.blocks

theorem WritesNormal.endBlock {machine : Machine} (normal : machine.WritesNormal) :
    machine.endBlock.WritesNormal where
  solid := List.forall_mem_nil _
  blocks := List.forall_mem_append.mpr
    ⟨normal.endSpan.blocks, currentBlock_isNormal normal.endSpan.solid⟩

theorem WritesNormal.write {machine : Machine} (normal : machine.WritesNormal)
    (capitalize interpolated : Bool) (content : String) :
    (machine.write capitalize interpolated content).WritesNormal := by
  unfold Machine.write
  split
  · exact normal
  · exact ⟨normal.solid, normal.blocks⟩

theorem WritesNormal.switch {machine : Machine} (normal : machine.WritesNormal)
    (emphasis : Emphasis) (enabled : Bool) :
    (machine.switch emphasis enabled).WritesNormal := by
  cases emphasis <;> exact ⟨normal.endSpan.solid, normal.endSpan.blocks⟩

theorem WritesNormal.endHeading {machine : Machine} (normal : machine.WritesNormal) :
    machine.endHeading.WritesNormal where
  solid := by
    refine List.forall_mem_append.mpr ⟨?_, List.forall_mem_nil _⟩
    exact (List.forall_mem_append.mp normal.endSpan.solid).2
  blocks := normal.endSpan.blocks

theorem WritesNormal.step {operation : Operation} {machine after : Machine}
    (normal : machine.WritesNormal)
    (stepped : machine.step scope capitalize operation = .ok after) : after.WritesNormal := by
  have withStack (stack : List ProseValue) : (machine.withStack stack).WritesNormal :=
    ⟨normal.solid, normal.blocks⟩
  cases step_cases stepped with
  | calculates stack _ => exact withStack stack
  | shows stack content => exact (withStack stack).write capitalize true content
  | writes content => exact normal.write capitalize false content
  | starts emphasis => exact normal.switch emphasis true
  | stops emphasis => exact normal.switch emphasis false
  | startsHeading kind => exact ⟨normal.endBlock.solid, normal.endBlock.blocks⟩
  | endsHeading => exact normal.endHeading
  | breaks => exact normal.endBlock

theorem WritesNormal.run {program : Program} {machine after : Machine}
    (normal : machine.WritesNormal) (ran : machine.run scope capitalize program = .ok after) :
    after.WritesNormal := by
  induction program generalizing machine with
  | nil =>
      cases ran
      exact normal
  | cons instruction others ih =>
      rw [Machine.run] at ran
      split at ran
      · cases ran
      · rename_i next stepped
        exact ih (normal.step stepped) ran

end Machine

end Bestiary.Prose
