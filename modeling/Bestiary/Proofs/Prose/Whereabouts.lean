import Bestiary.Proofs.Prose.Slices

/-!
Where faults stand.

Whatever is wrong with a text is reported at one of its characters, or at its
end. What is read stops at a character. Compiling looks at places only to pass
them on, so it has no other places than those of the tokens and of the end, and
a program fails at one of its instructions.
-/

namespace Bestiary.Prose

open Text

def IsPlaceOf (text : List Char) (place : Place) : Prop :=
  ∃ before after, text = before ++ after ∧ place = placeAfter before

def ProseError.StandsIn (text : String) (error : ProseError) : Prop :=
  ∃ place, error.place? = some place ∧ IsPlaceOf text.toList place

theorem isPlaceOf_finish (text : List Char) : IsPlaceOf text (placeAfter text) :=
  ⟨text, [], (List.append_nil text).symm, rfl⟩

/-! ### Reading -/

theorem isPlaceOf_placeOf (text left : List Char) : IsPlaceOf text (placeOf text left) :=
  ⟨text.take (offsetOf text left), text.drop (offsetOf text left),
    (List.take_append_drop _ _).symm, Place.start_advance _⟩

theorem locate_isPlaceOf {text before : List Char} {pieces : List Piece}
    (covered : text = before ++ pieces.flatMap Piece.source) :
    ∀ located ∈ locate (placeAfter before) pieces, IsPlaceOf text located.place := by
  induction pieces generalizing before with
  | nil => exact List.forall_mem_nil _
  | cons piece others ih =>
      have others := @ih (before ++ piece.source) (by
        rw [covered, List.flatMap_cons, List.append_assoc])
      rw [← Place.placeAfter_advance] at others
      rw [locate]
      cases piece.token? with
      | none => exact others
      | some token => exact List.forall_mem_cons.mpr ⟨⟨before, _, covered, rfl⟩, others⟩

theorem ofText_stands (dialect : Dialect) (text : String) :
    FailsWithin (ProseError.StandsIn text) (TokenStream.ofText dialect text) := by
  unfold TokenStream.ofText
  split
  · exact failsWithin_ok _
  · exact failsWithin_error ⟨_, rfl, isPlaceOf_placeOf _ _⟩

/-! ### Compiling -/

open Classical in
/-- Places that are not known, moved elsewhere, and the others where they are. -/
noncomputable def moveUnknown (known : Place → Prop) (place : Place) : Place :=
  if known place then place else ⟨place.line + 1, place.column⟩

theorem moveUnknown_eq_self_iff {known : Place → Prop} {place : Place} :
    moveUnknown known place = place ↔ known place := by
  unfold moveUnknown
  split
  · rename_i isKnown
    exact ⟨fun _ => isKnown, fun _ => rfl⟩
  · rename_i unknown
    refine ⟨fun same => ?_, fun isKnown => absurd isKnown unknown⟩
    exact absurd (congrArg Place.line same) (Nat.succ_ne_self place.line)

theorem compileTokens_known {known : Place → Prop} {finish : Place} {tokens : List Located}
    (knownFinish : known finish) (knownTokens : ∀ located ∈ tokens, known located.place)
    (dialect : Dialect) :
    (∀ program, compileTokens dialect finish [] tokens = .ok program →
      ∀ instruction ∈ program, known instruction.place) ∧
    FailsWithin (fun error => ∀ place ∈ error.place?, known place)
      (compileTokens dialect finish [] tokens) := by
  -- Moving the unknown places changes no token, so it changes nothing that is compiled.
  have kept : tokens.map (Located.relocate (moveUnknown known)) = tokens := by
    refine (List.map_congr_left fun located member => ?_).trans (List.map_id tokens)
    exact congrArg (Located.mk located.token)
      (moveUnknown_eq_self_iff.mpr (knownTokens located member))
  have corresponds := @compileTokens_relocate (moveUnknown known) dialect finish [] tokens
  rw [kept, moveUnknown_eq_self_iff.mpr knownFinish] at corresponds
  change Corresponds _ _ _ (compileTokens dialect finish [] tokens) at corresponds
  constructor
  · intro program compiled instruction member
    rw [compiled] at corresponds
    have fixed : program.map (Instruction.relocate (moveUnknown known)) = program.map id :=
      corresponds.symm.trans (List.map_id program).symm
    have same := List.map_inj_left.mp fixed instruction member
    exact moveUnknown_eq_self_iff.mp (congrArg Instruction.place same)
  · intro error failed place isPlace
    rw [failed] at corresponds
    have same : error.place? = error.place?.map (moveUnknown known) :=
      congrArg ProseError.place? corresponds
    rw [Option.mem_def.mp isPlace] at same
    exact moveUnknown_eq_self_iff.mp (Option.some.inj same).symm

theorem compile_stands (dialect : Dialect) (text : String) :
    (∀ program, compile dialect text = .ok program →
      ∀ instruction ∈ program, IsPlaceOf text.toList instruction.place) ∧
    FailsWithin (ProseError.StandsIn text) (compile dialect text) := by
  have known {stream : TokenStream} (read : TokenStream.ofText dialect text = .ok stream) :
      IsPlaceOf text.toList stream.finish ∧
        ∀ located ∈ stream.tokens, IsPlaceOf text.toList located.place := by
    obtain ⟨pieces, scanned, rfl⟩ := TokenStream.ofText_eq_ok_iff.mp read
    exact ⟨isPlaceOf_finish _,
      @locate_isPlaceOf text.toList [] pieces (scanPieces_covers scanned).1.symm⟩
  constructor
  · intro program compiled
    obtain ⟨stream, read, compiled⟩ := bind_eq_ok.mp compiled
    obtain ⟨knownFinish, knownTokens⟩ := known read
    exact (compileTokens_known knownFinish knownTokens dialect).1 program compiled
  · refine (ofText_stands dialect text).bind fun stream read => ?_
    intro error failed
    obtain ⟨knownFinish, knownTokens⟩ := known read
    obtain ⟨place, isPlace⟩ :=
      Option.isSome_iff_exists.mp (compileTokens_reports dialect _ [] _ error failed).2
    exact ⟨place, isPlace,
      (compileTokens_known knownFinish knownTokens dialect).2 error failed place isPlace⟩

/-! ### Running -/

theorem Machine.run_error_place {scope : Variables} {capitalize : Bool} {program : Program}
    {machine : Machine} {error : ProseError}
    (failed : machine.run scope capitalize program = .error error) :
    ∃ instruction ∈ program, error.place? = some instruction.place := by
  induction program generalizing machine with
  | nil => cases failed
  | cons instruction others ih =>
      rw [run] at failed
      split at failed
      · cases failed
        exact ⟨instruction, List.mem_cons_self, rfl⟩
      · obtain ⟨failing, member, isPlace⟩ := ih failed
        exact ⟨failing, List.mem_cons_of_mem _ member, isPlace⟩

theorem run_stands {dialect : Dialect} {text : String} {program : Program}
    (compiled : compile dialect text = .ok program) (scope : Variables) (capitalize : Bool) :
    FailsWithin (ProseError.StandsIn text) (Machine.initial.run scope capitalize program) := by
  intro error failed
  obtain ⟨instruction, member, isPlace⟩ := Machine.run_error_place failed
  exact ⟨instruction.place, isPlace, (compile_stands dialect text).1 program compiled _ member⟩

/-- Reading loses nothing and counts places truly. A text that is read falls into slices of which
the tokens are the meaning, each token standing at the place of the first character of its slice;
and whatever is wrong with a text, when it is read, compiled or interpolated, is reported at the
place of one of its characters or of its end. -/
theorem text_is_sliced_and_faults_stand_in_it :
    (∀ (dialect : Dialect) (text : String) (stream : TokenStream),
      TokenStream.ofText dialect text = .ok stream →
        ∃ slices, Slices dialect text.toList stream slices) ∧
    (∀ (dialect : Dialect) (text : String),
      FailsWithin (ProseError.StandsIn text) (TokenStream.ofText dialect text) ∧
      FailsWithin (ProseError.StandsIn text) (compile dialect text)) ∧
    (∀ (manner : Manner) (bindings : List (String × Binding)) (text : String),
      FailsWithin (fun error => error.StandsIn text ∨ error.IsOfBinding bindings)
        (interpolate manner bindings text)) ∧
    (∀ (bindings : List (String × Binding)) (text : String),
      FailsWithin (fun error => error.StandsIn text ∨ error.IsOfBinding bindings)
        (fillTemplate bindings text)) := by
  refine ⟨fun _ _ _ => slices_of_ofText, fun dialect text => ?errors, ?prose, ?template⟩
  case errors => exact ⟨ofText_stands dialect text, (compile_stands dialect text).2⟩
  case prose =>
    intro manner bindings text
    refine ((compile_stands _ text).2.mono fun _ => .inl).bind fun program compiled => ?_
    refine ((prepareVariables_fails bindings).mono fun _ => .inr).bind fun scope _ => ?_
    exact ((run_stands compiled scope _).mono fun _ => .inl).bind fun _ _ => failsWithin_ok _
  case template =>
    intro bindings text
    refine ((compile_stands _ text).2.mono fun _ => .inl).bind fun program compiled => ?_
    refine ((prepareVariables_fails bindings).mono fun _ => .inr).bind fun scope _ => ?_
    exact ((run_stands compiled scope _).mono fun _ => .inl).bind fun _ _ => failsWithin_ok _

theorem text_is_sliced_and_faults_stand_in_it_unclosed :
    let stream : TokenStream :=
      ⟨[⟨.literal "a*\n", ⟨1, 1⟩⟩, ⟨.opening, ⟨2, 1⟩⟩, ⟨.name "N", ⟨2, 4⟩⟩, ⟨.closing, ⟨2, 5⟩⟩],
        ⟨2, 6⟩⟩
    let error : ProseError := ⟨.unterminatedExpression, some ⟨2, 5⟩⟩
    TokenStream.ofText (.prose false) "a\\*\n$\x7b N\x7d" = .ok stream ∧
      (∃ slices, Slices (.prose false) "a\\*\n$\x7b N\x7d".toList stream slices) ∧
      compile (.prose false) "a\\*\n$\x7b N" = .error error ∧
      error.StandsIn "a\\*\n$\x7b N" := by
  intro stream error
  have read : TokenStream.ofText (.prose false) "a\\*\n$\x7b N\x7d" = .ok stream :=
    eq_ok_of_toOption (by decide +kernel)
  have failed : compile (.prose false) "a\\*\n$\x7b N" = .error error := by decide +kernel
  obtain ⟨sliced, stands, _⟩ := text_is_sliced_and_faults_stand_in_it
  exact ⟨read, sliced _ _ _ read, failed, (stands _ _).2 error failed⟩

end Bestiary.Prose
