import Bestiary.Creature.Derivation
import Bestiary.Proofs.Number.Numeral
import Bestiary.Proofs.Prose.Heading

/-!
The entry of a trait or an action: its name above its description.

Whatever characters a name has, they stand for themselves in the heading of the
entry, and the description is interpolated as it would be by itself. A name with
a blank line is the one exception: such an entry is never interpolated.
-/

namespace Bestiary

open Prose Number

/-! ### Notes -/

def IsInline (content : List Char) : Prop :=
  ∀ character ∈ content, escapeChar character = [character] ∧ character ≠ '\n'

instance (content : List Char) : Decidable (IsInline content) :=
  List.decidableBAll _ content

theorem IsInline.append {first second : List Char} (before : IsInline first)
    (after : IsInline second) : IsInline (first ++ second) :=
  List.forall_mem_append.mpr ⟨before, after⟩

theorem IsInline.join {first second : String} (before : IsInline first.toList)
    (after : IsInline second.toList) : IsInline (first ++ second).toList := by
  rw [String.toList_append]
  exact before.append after

theorem IsInline.oneLine {content : List Char} (isInline : IsInline content) : '\n' ∉ content :=
  fun member => (isInline '\n' member).2 rfl

theorem IsInline.flatMap_escapeChar {content : List Char} (isInline : IsInline content) :
    content.flatMap escapeChar = content := by
  induction content with
  | nil => rfl
  | cons head tail ih =>
      obtain ⟨first, later⟩ := List.forall_mem_cons.mp isInline
      rw [List.flatMap_cons, first.1, ih later]
      rfl

theorem IsInline.escapeText_eq {text : String} (isInline : IsInline text.toList) :
    escapeText text = text := by
  rw [escapeText, isInline.flatMap_escapeChar, String.ofList_toList]

theorem isInline_naturalText (number : Nat) : IsInline (naturalText number) := by
  intro character member
  have digit := naturalText_plain number character member
  have notSlash : character ≠ '\\' := by rintro rfl; cases digit
  have notDollar : character ≠ '$' := by rintro rfl; cases digit
  have notStar : character ≠ '*' := by rintro rfl; cases digit
  refine ⟨escapeChar_plain ⟨notDollar, notStar, notSlash⟩, ?_⟩
  rintro rfl
  cases digit

theorem isInline_showInt (number : Int) : IsInline (showInt number).toList := by
  rw [showInt, String.toList_ofList, integerText]
  split
  · exact List.forall_mem_cons.mpr ⟨by decide, isInline_naturalText _⟩
  · exact isInline_naturalText _

theorem Usage.label_isInline (usage : Usage) : IsInline usage.label.toList := by
  cases usage with
  | recharge least =>
      rw [label]
      split
      · decide
      · exact (IsInline.join (by decide) (isInline_showInt least)).join (by decide)
  | perDay times => exact (isInline_showInt times).join (by decide)
  | perTurn times => exact (isInline_showInt times).join (by decide)
  | rest noted =>
      rw [label]
      decide

/-! ### Entries -/

def bindingsOf (scope : List (String × ProseValue)) : List (String × Binding) :=
  scope.map fun entry => (entry.1, .value entry.2)

theorem interpolateEntry_eq (creature entry : String) (scope : List (String × ProseValue))
    (text : String) :
    interpolateEntry creature entry scope text =
      (interpolate creatureManner (bindingsOf scope) text).mapError (.text creature entry) :=
  rfl

def costNote (cost : Int) : String :=
  "Costs " ++ showInt cost ++ " Actions"

theorem costNote_isInline (cost : Int) : IsInline (costNote cost).toList :=
  (IsInline.join (by decide) (isInline_showInt cost)).join (by decide)

namespace EntryDraft

def noteText (usage : Option Usage) (cost : Option Int) : String :=
  match usage, cost with
  | none, none => ""
  | some usage, none => " (" ++ usage.label ++ ")"
  | none, some cost => " (" ++ costNote cost ++ ")"
  | some usage, some cost => " (" ++ usage.label ++ "; " ++ costNote cost ++ ")"

theorem noteText_isInline (usage : Option Usage) (cost : Option Int) :
    IsInline (noteText usage cost).toList := by
  cases usage with
  | none =>
      cases cost with
      | none => decide
      | some cost => exact (IsInline.join (by decide) (costNote_isInline cost)).join (by decide)
  | some usage =>
      have opened : IsInline (" (" ++ usage.label).toList :=
        IsInline.join (by decide) usage.label_isInline
      cases cost with
      | none => exact opened.join (by decide)
      | some cost =>
          exact ((opened.join (by decide)).join (costNote_isInline cost)).join (by decide)

def titled (kind : BlockKind) (name body : String) (usage : Option Usage) (cost : Option Int) :
    EntryDraft :=
  { name := name, body := body, usage := usage, cost := cost.map costNote
    heading := kind.structure }

def title (name : String) (usage : Option Usage) (cost : Option Int) : String :=
  name ++ (noteText usage cost ++ ".")

variable {kind : BlockKind} {name body : String} {usage : Option Usage} {cost : Option Int}

theorem headingText_titled :
    (titled kind name body usage cost).headingText = escapeText (title name usage cost) := by
  have plain : escapeText (noteText usage cost ++ ".") = noteText usage cost ++ "." :=
    ((noteText_isInline usage cost).join (by decide)).escapeText_eq
  have one (note : String) : String.intercalate "; " [note] = note := rfl
  have two (note other : String) :
      String.intercalate "; " [note, other] = note ++ "; " ++ other := rfl
  rw [title, escapeText_append, plain]
  cases usage <;> cases cost <;>
    simp [headingText, titled, noteText, one, two, String.append_assoc]

end EntryDraft

theorem Creature.featureDraft_titled (entry : NamedEntry) :
    featureDraft entry =
      .titled .paragraph entry.name entry.description entry.usage none :=
  rfl

theorem Creature.legendaryDraft_titled (action : LegendaryAction) :
    legendaryDraft action =
      .titled .subParagraph action.name action.description none
        (if 1 < action.cost then some action.cost else none) := by
  unfold legendaryDraft
  split <;> rfl

theorem EntryDraft.source_titled {kind : BlockKind} {name body : String} {usage : Option Usage}
    {cost : Option Int} :
    (titled kind name body usage cost).source =
      underHeading kind (title name usage cost) body := by
  rw [source, headingText_titled]
  rfl

theorem EntryDraft.hasBlankLine_title (name : String) (usage : Option Usage)
    (cost : Option Int) :
    hasBlankLine (title name usage cost).toList = hasBlankLine name.toList := by
  rw [title, String.toList_append]
  exact hasBlankLine_append ((noteText_isInline usage cost).join (by decide)).oneLine _

theorem EntryDraft.finish_eq_ok {creature : String} {scope : List (String × ProseValue)}
    {draft : EntryDraft} {entry : NamedText} :
    draft.finish creature scope = .ok entry ↔
      draft.writable = true ∧ entry.name = draft.name ∧
        interpolateEntry creature draft.name scope draft.source = .ok entry.text := by
  unfold finish
  cases draft.writable with
  | false =>
      constructor
      · intro impossible
        cases impossible
      · rintro ⟨impossible, _⟩
        cases impossible
  | true =>
      rw [if_pos rfl, bind_eq_ok]
      constructor
      · rintro ⟨text, interpolated, same⟩
        cases same
        exact ⟨rfl, rfl, interpolated⟩
      · rintro ⟨_, same, interpolated⟩
        refine ⟨entry.text, interpolated, ?_⟩
        rw [← same]
        rfl

theorem EntryDraft.title_solid (name : String) (usage : Option Usage) (cost : Option Int) :
    (title name usage cost).isEmpty = false := by
  rw [Bool.eq_false_iff, Ne, String.isEmpty_iff, title]
  simp

theorem EntryDraft.titles_of_interpolated {creature name body : String}
    {scope : List (String × ProseValue)} {usage : Option Usage} {cost : Option Int}
    {text : StructuredText}
    (interpolated : interpolateEntry creature name scope
      (titled .paragraph name body usage cost).source = .ok text) :
    ∃ alone, interpolateEntry creature name scope body = .ok alone ∧
      Titles [⟨.boldItalic, title name usage cost⟩] alone text := by
  rw [source_titled, interpolateEntry_eq] at interpolated
  have success := mapError_eq_ok.mp interpolated
  have unbroken : (creatureManner.breaks && hasBlankLine (title name usage cost).toList) = false := by
    refine Bool.eq_false_iff.mpr fun broken => ?_
    obtain ⟨error, failed, _⟩ :=
      interpolate_brokenHeading (bindingsOf scope) .paragraph broken body
    cases success.symm.trans failed
  have agrees :=
    interpolate_underTitle (bindingsOf scope) (title_solid name usage cost) unbroken body
  cases alone : interpolate creatureManner (bindingsOf scope) body with
  | error error =>
      rw [alone] at agrees
      obtain ⟨error', failed, _⟩ := agrees.of_error
      cases success.symm.trans failed
  | ok blocks =>
      rw [alone] at agrees
      obtain ⟨text', succeeded, titles⟩ := agrees.of_ok
      obtain rfl := Except.ok.inj (success.symm.trans succeeded)
      exact ⟨blocks, mapError_eq_ok.mpr alone, titles⟩

/-- Features and legendary actions are entries under a title. Such an entry has its name as the
heading of its first block, with the notes about it, and fails exactly if its description does by
itself, and with the same fault. If its name has a blank line, it always fails: the heading is still
open where the line breaks the paragraph. -/
theorem entry_heading (creature : String) (scope : List (String × ProseValue)) (kind : BlockKind)
    (name body : String) (usage : Option Usage) (cost : Option Int) :
    (∀ feature, Creature.featureDraft feature =
      .titled .paragraph feature.name feature.description feature.usage none) ∧
    (∀ action, Creature.legendaryDraft action =
      .titled .subParagraph action.name action.description none
        (if 1 < action.cost then some action.cost else none)) ∧
    let entry := (EntryDraft.titled kind name body usage cost).finish creature scope
    let alone := interpolateEntry creature name scope body
    (hasBlankLine name.toList = false →
      (∀ text, alone = .ok text → ∃ first others, entry = .ok ⟨name, first :: others⟩ ∧
        first.kind = kind ∧
        first.heading? = some [⟨kind.headingStyle, EntryDraft.title name usage cost⟩]) ∧
      (∀ error, alone = .error (.text creature name error) →
        ∃ error', entry = .error (.text creature name error') ∧ error'.fault = error.fault)) ∧
    (hasBlankLine name.toList = true →
      ∃ error, entry = .error (.text creature name error) ∧
        ∀ text, alone = .ok text → error.fault = .neverClosed kind.structure) := by
  refine ⟨Creature.featureDraft_titled, Creature.legendaryDraft_titled, ?_⟩
  intro entry alone
  let bindings := bindingsOf scope
  have solid := EntryDraft.title_solid name usage cost
  have entryEq : entry = (do
      let text ← (interpolate creatureManner bindings
        (underHeading kind (EntryDraft.title name usage cost) body)).mapError (.text creature name)
      pure ⟨name, text⟩) := by
    rw [← EntryDraft.source_titled]
    rfl
  have aloneEq : alone =
      (interpolate creatureManner bindings body).mapError (.text creature name) :=
    interpolateEntry_eq creature name scope body
  have blankEq : (creatureManner.breaks &&
      hasBlankLine (EntryDraft.title name usage cost).toList) = hasBlankLine name.toList :=
    EntryDraft.hasBlankLine_title name usage cost
  constructor
  · intro unbroken
    have agrees := interpolate_underHeading bindings kind solid (blankEq.trans unbroken) body
    constructor
    · intro text interpolated
      rw [aloneEq] at interpolated
      rw [mapError_eq_ok.mp interpolated] at agrees
      obtain ⟨_, headed, first, others, rfl, kindEq, headingEq⟩ := agrees.of_ok
      rw [entryEq, headed]
      exact ⟨first, others, rfl, kindEq, headingEq⟩
    · intro error failed
      rw [aloneEq] at failed
      obtain ⟨_, failedAlone, same⟩ := mapError_eq_error.mp failed
      cases same
      rw [failedAlone] at agrees
      obtain ⟨error', failedEntry, sameFault⟩ := agrees.of_error
      rw [entryEq, failedEntry]
      exact ⟨error', rfl, sameFault⟩
  · intro broken
    obtain ⟨error, failed, reason⟩ :=
      interpolate_brokenHeading bindings kind (blankEq.trans broken) body
    refine ⟨error, ?_, fun text interpolated => reason text (mapError_eq_ok.mp interpolated)⟩
    rw [entryEq, failed]
    rfl

theorem entry_heading_marked :
    let scope := ({ name := some "Imp" } : Creature).proseVariables 2
    let name := "*Hot* $\x7bDevil\x7d\nBreath"
    let body := "It has $\x7bprof\x7d.\n\nEach."
    hasBlankLine name.toList = false ∧
      ∃ text first others, interpolateEntry "Imp" name scope body = .ok text ∧
        (EntryDraft.titled .paragraph name body (some (.recharge 5)) none).finish "Imp" scope =
          .ok ⟨name, first :: others⟩ ∧
        first.kind = .paragraph ∧
        first.heading? = some [⟨.boldItalic, name ++ " (Recharge 5-6)."⟩] := by
  intro scope name body
  have oneLine : hasBlankLine name.toList = false := by decide
  obtain ⟨text, interpolated⟩ :
      ∃ text, interpolateEntry "Imp" name scope body = .ok text :=
    exists_ok_of_toOption (by decide +kernel)
  obtain ⟨first, others, finished, kind, heading⟩ :=
    ((entry_heading "Imp" scope .paragraph name body (some (.recharge 5)) none).2.2.1 oneLine).1
      text interpolated
  exact ⟨oneLine, text, first, others, interpolated, finished, kind, heading⟩

/-- A name with a blank line in it, over a description that would be interpolated by itself. -/
theorem entry_fails_under_blank_line :
    let scope := ({ name := some "Rat" } : Creature).proseVariables 2
    let name := "Keen\n\nSmell"
    (∃ text, interpolateEntry "Rat" name scope "It smells." = .ok text) ∧
      (∀ entry, (EntryDraft.titled .paragraph name "It smells." none none).finish "Rat" scope ≠
        .ok entry) := by
  intro scope name
  refine ⟨exists_ok_of_toOption (by decide +kernel), fun entry finished => ?_⟩
  obtain ⟨fault, failed⟩ : ∃ fault,
      (EntryDraft.titled .paragraph name "It smells." none none).finish "Rat" scope =
        .error fault :=
    exists_error_of_toOption (by decide +kernel)
  rw [failed] at finished
  cases finished

end Bestiary
