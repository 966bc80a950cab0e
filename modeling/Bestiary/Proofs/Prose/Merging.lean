import Bestiary.Proofs.Prose.NormalForm

/-!
Merging spans one after another.

A text in normal form takes one span after another behind it and stays in
normal form, so spans can be merged from the front as well as from the back.
What merging gives depends on the styled characters alone: it does not matter
how often spans are merged, or into which parts they are divided before.
-/

namespace Bestiary.Prose

/-- Put a span behind a text in normal form: the last span goes on if it has the same style. -/
def pushSpan (merged : List Span) (span : Span) : List Span :=
  if span.content.isEmpty then merged
  else
    match merged.getLast? with
    | none => [span]
    | some last =>
        if last.style = span.style then
          merged.dropLast ++ [⟨span.style, last.content ++ span.content⟩]
        else merged ++ [span]

variable {merged spans : List Span} {span : Span}

/-! ### One span -/

theorem pushSpan_cases (merged : List Span) (span : Span) :
    (span.content.isEmpty = true ∧ pushSpan merged span = merged) ∨
    (span.content.isEmpty = false ∧ (∀ last ∈ merged.getLast?, last.style ≠ span.style) ∧
      pushSpan merged span = merged ++ [span]) ∨
    ∃ before last, merged = before ++ [last] ∧ last.style = span.style ∧
      pushSpan merged span = before ++ [⟨span.style, last.content ++ span.content⟩] := by
  unfold pushSpan
  split
  · rename_i empty
    exact .inl ⟨empty, rfl⟩
  · rename_i something
    have solid : span.content.isEmpty = false := Bool.eq_false_iff.mpr something
    refine .inr ?_
    -- Only the last span of what has been merged can change, so the cases are taken from the end.
    cases merged using List.reverseRecOn with
    | nil => exact .inl ⟨solid, (fun _ member => nomatch member), rfl⟩
    | append_singleton before last =>
        simp only [List.getLast?_concat, List.dropLast_concat]
        split
        · rename_i same
          exact .inr ⟨before, last, rfl, same, rfl⟩
        · rename_i different
          refine .inl ⟨solid, fun other member => ?_, rfl⟩
          cases member
          exact different

theorem isNormal_concat :
    IsNormal (spans ++ [span]) ↔
      IsNormal spans ∧ span.content.isEmpty = false ∧
        ∀ last ∈ spans.getLast?, last.style ≠ span.style := by
  constructor
  · rintro ⟨solid, apart⟩
    obtain ⟨solidSpans, solidSpan⟩ := List.forall_mem_append.mp solid
    obtain ⟨apartSpans, _, apartSpan⟩ := List.isChain_append.mp apart
    exact ⟨⟨solidSpans, apartSpans⟩, solidSpan span List.mem_cons_self,
      fun last member => apartSpan last member span rfl⟩
  · rintro ⟨normal, solid, apart⟩
    refine ⟨List.forall_mem_append.mpr ⟨normal.solid, List.forall_mem_singleton.mpr solid⟩, ?_⟩
    refine List.isChain_append.mpr ⟨normal.apart, .singleton _, fun last member next first => ?_⟩
    cases first
    exact apart last member

theorem IsNormal.pushSpan (normal : IsNormal merged) (span : Span) :
    IsNormal (pushSpan merged span) := by
  obtain ⟨_, pushed⟩ | ⟨solid, apart, pushed⟩ | ⟨before, last, rfl, same, pushed⟩ :=
    pushSpan_cases merged span
  · rwa [pushed]
  · rw [pushed]
    exact isNormal_concat.mpr ⟨normal, solid, apart⟩
  · obtain ⟨normalBefore, solidLast, apart⟩ := isNormal_concat.mp normal
    rw [pushed]
    refine isNormal_concat.mpr ⟨normalBefore, ?_, fun other member => ?_⟩
    · rw [isEmpty_append, solidLast, Bool.false_and]
    · exact same ▸ apart other member

theorem styledSpans_concat (spans : List Span) (span : Span) :
    styledSpans (spans ++ [span]) = styledSpans spans ++ styled span.style span.content := by
  have single : styledSpans [span] = styled span.style span.content := List.append_nil _
  rw [styledSpans_append, single]

theorem styledSpans_pushSpan (merged : List Span) (span : Span) :
    styledSpans (pushSpan merged span) = styledSpans merged ++ styled span.style span.content := by
  obtain ⟨empty, pushed⟩ | ⟨_, _, pushed⟩ | ⟨before, last, rfl, same, pushed⟩ :=
    pushSpan_cases merged span
  · rw [pushed, styled_of_isEmpty empty, List.append_nil]
  · rw [pushed, styledSpans_concat]
  · rw [pushed, styledSpans_concat, styledSpans_concat, styled_append, same, List.append_assoc]

/-! ### A row of spans -/

theorem IsNormal.foldl_pushSpan (normal : IsNormal merged) (spans : List Span) :
    IsNormal (spans.foldl Prose.pushSpan merged) := by
  induction spans generalizing merged with
  | nil => exact normal
  | cons span others ih => exact ih (normal.pushSpan span)

theorem styledSpans_foldl_pushSpan (merged spans : List Span) :
    styledSpans (spans.foldl pushSpan merged) = styledSpans merged ++ styledSpans spans := by
  induction spans generalizing merged with
  | nil => exact (List.append_nil _).symm
  | cons span others ih =>
      rw [List.foldl_cons, ih, styledSpans_pushSpan, styledSpans_cons, List.append_assoc]

theorem IsNormal.foldl_eq_mergeSpans (normal : IsNormal merged) (spans : List Span) :
    spans.foldl Prose.pushSpan merged = mergeSpans (merged ++ spans) := by
  refine (normal.foldl_pushSpan spans).unique (mergeSpans_isNormal _) ?_
  rw [styledSpans_foldl_pushSpan, styledSpans_mergeSpans, styledSpans_append]

/-! ### Laws -/

theorem mergeSpans_eq_mergeSpans_iff {first second : List Span} :
    mergeSpans first = mergeSpans second ↔ styledSpans first = styledSpans second := by
  constructor
  · intro same
    rw [← styledSpans_mergeSpans first, same, styledSpans_mergeSpans]
  · intro same
    refine (mergeSpans_isNormal first).unique (mergeSpans_isNormal second) ?_
    rw [styledSpans_mergeSpans, same, styledSpans_mergeSpans]

theorem IsNormal.mergeSpans_eq (normal : IsNormal spans) : mergeSpans spans = spans :=
  (mergeSpans_isNormal spans).unique normal (styledSpans_mergeSpans spans)

theorem mergeSpans_append (first second : List Span) :
    mergeSpans (first ++ second) = mergeSpans (mergeSpans first ++ mergeSpans second) := by
  refine mergeSpans_eq_mergeSpans_iff.mpr ?_
  simp only [styledSpans_append, styledSpans_mergeSpans]

/-- Merging spans, one after another from the front, gives the one normal form of their styled
characters. Merging again changes nothing, and parts may be merged before the whole. -/
theorem mergeSpans_normalizes (spans : List Span) :
    mergeSpans spans = spans.foldl pushSpan [] ∧
    IsNormal (mergeSpans spans) ∧
    styledSpans (mergeSpans spans) = styledSpans spans ∧
    (∀ other, IsNormal other → styledSpans other = styledSpans spans →
      other = mergeSpans spans) ∧
    mergeSpans (mergeSpans spans) = mergeSpans spans ∧
    ∀ later, mergeSpans (spans ++ later) = mergeSpans (mergeSpans spans ++ mergeSpans later) := by
  have normal : IsNormal (mergeSpans spans) := mergeSpans_isNormal spans
  have characters : styledSpans (mergeSpans spans) = styledSpans spans :=
    styledSpans_mergeSpans spans
  refine ⟨(isNormal_nil.foldl_eq_mergeSpans spans).symm, normal, characters, ?_,
    normal.mergeSpans_eq, mergeSpans_append spans⟩
  intro other normalOther same
  exact normalOther.unique normal (same.trans characters.symm)

theorem mergeSpans_normalizes_around_empty :
    let spans : List Span :=
      [⟨.bold, ""⟩, ⟨.normal, "The goblin "⟩, ⟨.bold, ""⟩, ⟨.normal, "hides. "⟩,
        ⟨.italic, "Hit:"⟩, ⟨.normal, ""⟩, ⟨.italic, " 5"⟩]
    let other : List Span := [⟨.normal, "The goblin hides. "⟩, ⟨.italic, "Hit: 5"⟩]
    IsNormal other ∧ styledSpans other = styledSpans spans ∧ other = mergeSpans spans := by
  intro spans other
  have normal : IsNormal other := ⟨by decide, by decide⟩
  have same : styledSpans other = styledSpans spans := by decide
  obtain ⟨_, _, _, unique, _⟩ := mergeSpans_normalizes spans
  exact ⟨normal, same, unique other normal same⟩

end Bestiary.Prose
