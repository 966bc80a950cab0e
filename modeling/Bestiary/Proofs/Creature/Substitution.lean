import Bestiary.Proofs.Creature.Inclusion
import Bestiary.Proofs.Prose.Slots

/-!
Plain substitution.

Where the placeholders of an included document hold nothing but names, filling
it in puts an argument in the place of each name and leaves all else as it is,
whatever meaning it may get later. The first name without an argument, or with
a number that is too long to be written, is what it fails at.
-/

namespace Bestiary

open Text Prose

/-- What a placeholder is replaced by: a text itself, or a number in decimal. -/
def IncludeArgument.shown : IncludeArgument → String
  | text content => content
  | number amount => toString amount

namespace Prose.Slot

variable {arguments : List (String × IncludeArgument)} {slot : Slot}

theorem value_found {argument : IncludeArgument}
    (found : arguments.lookup slot.name = some argument) (place : Place) :
    slot.value (argumentScope arguments) place =
      argument.value.written.mapError (·.at (slot.namePlace place)) := by
  rw [value, Expression.evaluate, lookup_argumentScope, found]
  rfl

theorem value_shown {argument : IncludeArgument}
    (found : arguments.lookup slot.name = some argument)
    (short : ∀ amount, argument = .number amount → amount.natAbs < Number.writingBound)
    (place : Place) :
    slot.value (argumentScope arguments) place = .ok argument.shown := by
  have written : argument.value.written = .ok argument.shown := by
    cases argument with
    | text content => rfl
    | number amount =>
        rw [IncludeArgument.shown, ← Number.showInt_eq_toString]
        exact if_pos (decide_eq_true (short amount rfl))
  rw [value_found found, written]
  rfl

theorem value_unknown (missing : arguments.lookup slot.name = none) (place : Place) :
    slot.value (argumentScope arguments) place =
      .error ((ProseFault.unknownVariable slot.name).at (slot.namePlace place)) := by
  rw [value, Expression.evaluate, lookup_argumentScope, missing]
  rfl

theorem value_overlong {amount : Int} (found : arguments.lookup slot.name = some (.number amount))
    (overlong : Number.writingBound ≤ amount.natAbs) (place : Place) :
    slot.value (argumentScope arguments) place =
      .error (ProseFault.unwritableNumber.at (slot.namePlace place)) := by
  have unwritten : (IncludeArgument.number amount).value.written = .error .unwritableNumber := by
    refine if_neg ?_
    rw [IncludeArgument.value, ProseValue.isWritable, Number.isWritable, decide_eq_true_iff]
    exact Nat.not_lt.mpr overlong
  rw [value_found found, unwritten]
  rfl

theorem namePlace_behind (front : List Slot) (slot : Slot) :
    slot.namePlace (Place.start.advance (String.join (front.map Slot.text)).toList) =
      placeAfter (String.join (front.map Slot.text) ++ slot.literal ++ "$<").toList := by
  rw [namePlace, Place.start_advance, Place.placeAfter_advance, ← String.toList_append,
    String.append_assoc]

end Prose.Slot

/-- Filling in a document is plain substitution. The document is an alternation of literal texts,
in which no placeholder starts and no dollar sign is escaped, and placeholders that hold names. If
every name has an argument, and no argument is a number of more than 4300 digits, the literal texts
are kept and each placeholder is replaced by its text or by its number in decimal. Otherwise the
first name without an argument is reported where it stands, unless such a number comes before it. -/
theorem fillTemplate_substitutes (arguments : List (String × IncludeArgument)) (slots : List Slot)
    (last : String) (sound : ∀ slot ∈ slots, slot.IsSound) (literal : IsLiteral last.toList) :
    let bindings := arguments.map fun (name, argument) => (name, argument.binding)
    (∀ given : String → IncludeArgument,
      (∀ slot ∈ slots, arguments.lookup slot.name = some (given slot.name)) →
      (∀ slot ∈ slots, ∀ amount, given slot.name = .number amount →
        amount.natAbs < Number.writingBound) →
      fillTemplate bindings (slotsText slots last) =
        .ok (String.join (slots.map fun slot => slot.literal ++ (given slot.name).shown) ++
          last)) ∧
    ∀ (front : List Slot) (slot : Slot) (others : List Slot), slots = front ++ slot :: others →
      (∀ earlier ∈ front, ∃ argument, arguments.lookup earlier.name = some argument ∧
        ∀ amount, argument = .number amount → amount.natAbs < Number.writingBound) →
      let place := placeAfter (String.join (front.map Slot.text) ++ slot.literal ++ "$<").toList
      (arguments.lookup slot.name = none →
        fillTemplate bindings (slotsText slots last) =
          .error ((ProseFault.unknownVariable slot.name).at place)) ∧
      ∀ amount, arguments.lookup slot.name = some (.number amount) →
        Number.writingBound ≤ amount.natAbs →
        fillTemplate bindings (slotsText slots last) =
          .error (ProseFault.unwritableNumber.at place) := by
  intro bindings
  have filled := fillTemplate_slots (prepareVariables_arguments arguments) sound literal
  constructor
  · intro given bound short
    rw [filled]
    have written : ∀ slot ∈ slots, ∀ place,
        slot.value (argumentScope arguments) place = .ok (given slot.name).shown :=
      fun slot member => Slot.value_shown (bound slot member) (short slot member)
    exact @fillSlots_shown _ slots (fun name => (given name).shown) written last Place.start
  · rintro front slot others rfl bound place
    have written (earlier : Slot) (member : earlier ∈ front) :
        ∃ content, ∀ place, earlier.value (argumentScope arguments) place = .ok content := by
      obtain ⟨argument, found, short⟩ := bound earlier member
      exact ⟨argument.shown, Slot.value_shown found short⟩
    have here := slot.namePlace_behind front
    refine ⟨fun missing => ?_, fun amount found overlong => ?_⟩
    · rw [filled]
      refine fillSlots_fails written last Place.start ?_
      rw [Slot.value_unknown missing, here]
    · rw [filled]
      refine fillSlots_fails written last Place.start ?_
      rw [Slot.value_overlong found overlong, here]

/-- Dollar signs before a placeholder, a bracket behind it and what has a meaning later are kept;
and of two names without arguments the first is reported, on the second line. -/
theorem fillTemplate_substitutes_price :
    let arguments := [("price", IncludeArgument.number (-3)), ("who", .text "$<b>")]
    let slots : List Slot := [⟨"*a* $$", "price"⟩, ⟨">\n\n$\x7bb\x7d \\n", "who"⟩]
    let unbound : List Slot := [⟨"\n$", "who"⟩, ⟨"", "bold"⟩, ⟨"", "_if"⟩]
    let bindings := arguments.map fun (name, argument) => (name, argument.binding)
    fillTemplate bindings (slotsText slots "$") =
        .ok "*a* $$-3>\n\n$\x7bb\x7d \\n$<b>$" ∧
      fillTemplate bindings (slotsText unbound "<") =
        .error ((ProseFault.unknownVariable "bold").at ⟨2, 10⟩) := by
  intro arguments slots unbound bindings
  have isName {word : String} (head : Char) (tail : List Char)
      (written : word.toList = head :: tail) (starts : (isLetter head || head == '_') = true)
      (body : tail.all isWordChar = true) (notThen : word ≠ "then") (notElse : word ≠ "else") :
      IsVariableName word :=
    ⟨⟨head, tail, written, starts, List.all_eq_true.mp body⟩, notThen, notElse⟩
  have price : IsVariableName "price" :=
    isName 'p' "rice".toList (by decide) (by decide) (by decide) (by decide) (by decide)
  have who : IsVariableName "who" :=
    isName 'w' "ho".toList (by decide) (by decide) (by decide) (by decide) (by decide)
  have bold : IsVariableName "bold" :=
    isName 'b' "old".toList (by decide) (by decide) (by decide) (by decide) (by decide)
  have underscore : IsVariableName "_if" :=
    isName '_' "if".toList (by decide) (by decide) (by decide) (by decide) (by decide)
  constructor
  · have sound : ∀ slot ∈ slots, slot.IsSound := by
      refine List.forall_mem_cons.mpr ⟨⟨⟨by decide, by decide⟩, by decide, price⟩, ?_⟩
      exact List.forall_mem_singleton.mpr ⟨⟨by decide, by decide⟩, by decide, who⟩
    let given (name : String) : IncludeArgument :=
      if name = "price" then .number (-3) else .text "$<b>"
    have filled := (fillTemplate_substitutes arguments slots "$" sound ⟨by decide, by decide⟩).1
      given
    refine (filled (by decide) ?_).trans (congrArg Except.ok (by decide))
    have few : Int.natAbs (-3) < Number.writingBound := Number.lt_writingBound_of_digit (by decide)
    refine List.forall_mem_cons.mpr ⟨fun amount same => ?_, List.forall_mem_singleton.mpr nofun⟩
    cases same
    exact few
  · have sound : ∀ slot ∈ unbound, slot.IsSound := by
      refine List.forall_mem_cons.mpr ⟨⟨⟨by decide, by decide⟩, by decide, who⟩, ?_⟩
      refine List.forall_mem_cons.mpr ⟨⟨⟨by decide, by decide⟩, by decide, bold⟩, ?_⟩
      exact List.forall_mem_singleton.mpr ⟨⟨by decide, by decide⟩, by decide, underscore⟩
    have fails := (fillTemplate_substitutes arguments unbound "<" sound ⟨by decide, by decide⟩).2
      [⟨"\n$", "who"⟩] ⟨"", "bold"⟩ [⟨"", "_if"⟩] rfl
    refine ((fails ?_).1 (by decide)).trans ?_
    · exact List.forall_mem_singleton.mpr ⟨.text "$<b>", by decide, nofun⟩
    · decide

end Bestiary
