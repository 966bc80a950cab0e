import Bestiary.Proofs.Prose.Clause

/-!
A text that is one shown expression.

It spells that expression alone, and it is interpolated to what is written for
the expression's value, unless a number in it is too long to be read.
-/

namespace Bestiary.Prose

open Text Number

variable {scope : Variables} {breaks : Bool}

def paragraphOf (content : String) : StructuredText :=
  [⟨.paragraph, none, [⟨.normal, content⟩]⟩]

theorem prepareVariables_values (scope : Variables) :
    prepareVariables (scope.map fun (name, content) => (name, .value content)) = .ok scope := by
  induction scope with
  | nil => rfl
  | cons entry others ih =>
      rw [List.map_cons, prepareVariables, ih]
      rfl

theorem tokenStream_shown {expression : List Char} {tokens : List Token}
    (reads : ReadsAs breaks expression tokens) :
    ∃ stream,
      TokenStream.ofText (.prose breaks) (expressionMarkup (String.ofList expression)) =
        .ok stream ∧
      stream.tokens.map Located.token = .opening :: (tokens ++ [.closing]) := by
  obtain ⟨pieces, tokensEq, scanned⟩ := scanPieces_shown reads []
  rw [List.append_nil, scanPieces_nil] at scanned
  unfold TokenStream.ofText
  rw [scanned, Except.map, List.append_nil]
  exact ⟨_, rfl, (locate_tokens _ _).trans tokensEq⟩

/-- A text that is one expression is interpolated to what is written for its value. -/
theorem interpolate_shown {manner : Manner} {bindings : List (String × Binding)}
    (prepared : prepareVariables bindings = .ok scope) {expression : List Char}
    {tokens : List Token} {value : ProseValue}
    (reads : ReadsAs manner.breaks expression tokens)
    (denotes : Denotes scope .choice tokens value) :
    ∃ stream place tree,
      TokenStream.ofText (.prose manner.breaks) (expressionMarkup (String.ofList expression)) =
        .ok stream ∧
      Spells stream.tokens [.shown place tree] ∧
      tree.evaluate scope = .ok value ∧
      interpolate manner bindings (expressionMarkup (String.ofList expression)) =
        (value.written.mapError (·.at place)).map fun content =>
          (Machine.initial.write manner.capitalize true content).endBlock.blocks := by
  obtain ⟨stream, read, spelled⟩ := tokenStream_shown reads
  obtain ⟨opening, _, streamEq, spelledBack⟩ := located_cons spelled
  obtain ⟨middle, _, rfl, spelledInside, spelledAfter⟩ := List.map_eq_append_iff.mp spelledBack
  obtain ⟨closing, tail, rfl, spelledTail⟩ := located_cons spelledAfter
  obtain rfl := List.map_eq_nil_iff.mp spelledTail
  obtain ⟨tree, derived, evaluated⟩ := denotes middle spelledInside
  have notNothing : middle ≠ [] := fun nothing => (nothing ▸ derived).ne_nil
  obtain ⟨first, inner, rfl⟩ := List.exists_cons_of_ne_nil notNothing
  have spells : Spells stream.tokens [.shown first.place tree] := by
    rw [streamEq]
    exact .directive opening closing (.value derived) .finish
  have compiled : compileFragments (.prose manner.breaks) [] [.shown first.place tree] =
      .ok (appendCode tree first.place, []) :=
    compileFragments_single rfl
  refine ⟨stream, first.place, tree, read, spells, evaluated, ?_⟩
  unfold interpolate compile
  rw [read, ok_bind, compileTokens_complete spells compiled, ok_bind, prepared, ok_bind,
    runStructured, ← List.append_nil (appendCode tree first.place),
    Machine.run_shown _ _ _ _ rfl, evaluated, ok_bind]
  cases value.written.mapError (·.at first.place) <;> rfl

theorem interpolate_refused {manner : Manner} (bindings : List (String × Binding))
    {expression : List Char} (refused : IsRefused manner.breaks expression) :
    ∃ error,
      interpolate manner bindings (expressionMarkup (String.ofList expression)) = .error error ∧
      error.fault.IsOverlong := by
  have whole : (expressionMarkup (String.ofList expression)).toList =
      '$' :: '\x7b' :: (expression ++ ['\x7d']) :=
    text_shown expression
  obtain ⟨stop, stopped, overlong⟩ := refused ['\x7d'] (parted_cons (Or.inr (Or.inr rfl)))
  unfold interpolate compile TokenStream.ofText
  rw [whole, scanPieces_opening, stopped]
  exact ⟨_, rfl, overlong⟩

/-! ### Numbers with their sign -/

theorem showSigned_cons (number : Int) :
    ∃ sign digits, showSigned number = String.ofList (sign :: digits) ∧
      (sign = '-' ∨ sign = '+') := by
  unfold showSigned signedText
  split
  · exact ⟨_, _, rfl, Or.inl rfl⟩
  · exact ⟨_, _, rfl, Or.inr rfl⟩

theorem capitalizeHead_showSigned (number : Int) :
    capitalizeHead (showSigned number) = showSigned number := by
  obtain ⟨sign, digits, written, isSign⟩ := showSigned_cons number
  have upper : upperChar sign = [sign] := by
    rcases isSign with rfl | rfl <;> rfl
  rw [written, capitalizeHead, String.toList_ofList]
  dsimp only
  rw [upper]
  rfl

theorem blocks_of_pending {content : String} (something : content.isEmpty = false)
    (atStart : Bool) :
    ({ Machine.initial with pending := content, atStart := atStart } : Machine).endBlock.blocks =
      paragraphOf content := by
  simp [Machine.endBlock, Machine.endSpan, something, Machine.currentBlock, Machine.initial,
    Machine.style, SpanStyle.combine, mergeSpans, joinSpan, paragraphOf]

theorem blocks_showSigned (capitalize : Bool) (number : Int) :
    (Machine.initial.write capitalize true (showSigned number)).endBlock.blocks =
      paragraphOf (showSigned number) := by
  have some : (showSigned number).isEmpty = false := by
    obtain ⟨sign, digits, written, _⟩ := showSigned_cons number
    rw [written]
    simp
  have written : Machine.initial.write capitalize true (showSigned number) =
      { Machine.initial with pending := showSigned number, atStart := false } := by
    simp [Machine.write, some, capitalizeHead_showSigned, Machine.initial]
  rw [written, blocks_of_pending some]

end Bestiary.Prose
