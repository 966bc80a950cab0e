import Bestiary.Proofs.Creature.Entry
import Bestiary.Proofs.Creature.Lineage
import Bestiary.Proofs.Creature.Tables

/-!
What is printed of an action: the authored text, or else the generated one.

The history of an action tells what text was authored for it. A changed attack
roll or effect of a weapon takes that text away, so that the text of the attack
is generated again. An empty text is one like any other for free-text actions;
for an attack it counts as none.
-/

namespace Bestiary

section Lists

variable {α β : Type}

theorem forall₂_getElem? {related : α → β → Prop} {first : List α} {second : List β}
    (pairs : List.Forall₂ related first second) {index : Nat} {item : α}
    (found : first[index]? = some item) :
    ∃ item', second[index]? = some item' ∧ related item item' := by
  induction pairs generalizing index with
  | nil => cases found
  | cons pair others ih =>
      cases index with
      | zero =>
          cases found
          exact ⟨_, rfl, pair⟩
      | succ index => exact ih found

theorem forall₂_of_mapM {ε : Type} {step : α → Except ε β} {items : List α} {results : List β}
    (success : items.mapM step = .ok results) :
    List.Forall₂ (fun item result => step item = .ok result) items results := by
  induction items generalizing results with
  | nil =>
      cases success
      exact .nil
  | cons item others ih =>
      rw [List.mapM_cons] at success
      obtain ⟨first, stepped, success⟩ := bind_eq_ok.mp success
      obtain ⟨rest, mapped, success⟩ := bind_eq_ok.mp success
      cases success
      exact .cons stepped (ih mapped)

end Lists

/-! ### Authored texts -/

/-- The authored text of an action after a directive that concerns it, from that before. -/
def Directive.authors (text : Option String) : Directive → Option String
  | action entry => some entry.description
  | overrideDescription _ given => some given
  | overrideWeaponAttack _ _ | overrideWeaponEffect _ _ => none
  | _ => text

/-- The text that was authored last for an action with a history, unless the attack roll or the
effect of its weapon was changed after that. -/
def authoredText (history : List Directive) : Option String :=
  history.foldl Directive.authors none

theorem authoredText_append (history : List Directive) (directive : Directive) :
    authoredText (history ++ [directive]) = directive.authors (authoredText history) := by
  rw [authoredText, List.foldl_append]
  rfl

theorem Action.description?_describeAs (text : String) (action : Action) :
    (action.describeAs text).description? = some text := by
  unfold describeAs
  split <;> rfl

theorem Action.weapon_of_found {held : Weapon} {actions : List Action} {index : Nat}
    {action : Action} (found : actions.findIdx? (Creature.usesWeapon held) = some index)
    (here : actions[index]? = some action) : action.weapon? = some held := by
  obtain ⟨inside, uses, _⟩ := List.findIdx?_eq_some_iff_getElem.mp found
  rw [List.getElem?_eq_getElem inside] at here
  cases here
  exact Creature.usesWeapon_iff.mp uses

theorem Action.description?_overrideAttack {held : Weapon} {action : Action} (attack : Attack)
    (uses : action.weapon? = some held) : (action.overrideAttack attack).description? = none := by
  unfold weapon? at uses
  split at uses
  · rename_i form
    rw [overrideAttack, form]
    rfl
  · cases uses

theorem Action.description?_overrideEffect {held : Weapon} {action : Action} (effect : Effect)
    (uses : action.weapon? = some held) : (action.overrideEffect effect).description? = none := by
  unfold weapon? at uses
  split at uses
  · rename_i form
    rw [overrideEffect, form]
    rfl
  · cases uses

theorem isHeritable_description :
    IsHeritable fun action history => action.description? = authoredText history where
  added := by
    intro directive actions action touched
    rcases Directive.touch_adds touched with
      ⟨entry, rfl, rfl⟩ | ⟨entry, rfl, rfl⟩ | ⟨entry, rfl, rfl⟩ <;> rfl
  changed := by
    intro directive actions index change action history touched here _
    rw [authoredText_append]
    rcases Directive.touch_changes touched with
      ⟨held, given, rfl, found, rfl⟩ | ⟨held, given, rfl, found, rfl⟩ | ⟨given, text, rfl, _, rfl⟩
    · exact Action.description?_overrideAttack given (Action.weapon_of_found found here)
    · exact Action.description?_overrideEffect given (Action.weapon_of_found found here)
    · exact Action.description?_describeAs text action

/-! ### Printed texts -/

/-- The entry of an action prints a text: it is this text by itself, under the title of the
action. -/
def DerivedCreature.Prints (built : DerivedCreature) (action : Action) (text : String)
    (entry : NamedText) : Prop :=
  entry.name = action.name ∧
    ∃ alone, interpolateEntry built.name action.name
        (built.creature.proseVariables built.derived.proficiency) text = .ok alone ∧
      Prose.Titles [⟨.boldItalic, EntryDraft.title action.name action.usage none⟩] alone entry.text

namespace Creature

variable {creature : Creature} {name : String} {passes : Nat}

theorem actions_of_deriveNamed {derived : Derived}
    (success : creature.deriveNamed name passes = .ok derived) :
    creature.actionDrafts.mapM
      (EntryDraft.finish name (creature.proseVariables derived.proficiency)) =
        .ok derived.actions := by
  obtain ⟨rating, _, success⟩ := bind_eq_ok.mp success
  obtain ⟨features, _, success⟩ := bind_eq_ok.mp success
  obtain ⟨actions, finished, success⟩ := bind_eq_ok.mp success
  obtain ⟨reactions, _, success⟩ := bind_eq_ok.mp success
  simp only at success
  split at success <;>
    obtain ⟨introduction, _, success⟩ := bind_eq_ok.mp success <;>
    obtain ⟨legendaryActions, _, success⟩ := bind_eq_ok.mp success <;>
    cases success <;>
    exact finished

theorem entry_of_derive {built : DerivedCreature} (success : creature.derive passes = .ok built)
    {index : Nat} {action : Action} (here : creature.actions[index]? = some action) :
    ∃ entry,
      built.derived.actions[creature.multiattackDraft?.toList.length + index]? = some entry ∧
        built.Prints action (creature.actionBody action) entry := by
  obtain ⟨rfl, named⟩ := deriveNamed_of_derive success
  have finished := actions_of_deriveNamed named
  have drafted : built.creature.actionDrafts[
      built.creature.multiattackDraft?.toList.length + index]? =
        some (built.creature.actionDraft action) := by
    rw [actionDrafts, List.getElem?_append_right (Nat.le_add_right _ _),
      Nat.add_sub_cancel_left, List.getElem?_map, here]
    rfl
  obtain ⟨entry, found, finishes⟩ := forall₂_getElem? (forall₂_of_mapM finished) drafted
  obtain ⟨_, sameName, interpolated⟩ := EntryDraft.finish_eq_ok.mp finishes
  exact ⟨entry, found, sameName, EntryDraft.titles_of_interpolated interpolated⟩

variable {action : Action}

theorem actionBody_authored {text : String} (authored : action.description? = some text)
    (counts : text ≠ "" ∨ action.strike? = none) : creature.actionBody action = text := by
  rw [actionBody, authored]
  by_cases solid : text = ""
  · rcases counts with impossible | noStrike
    · exact (impossible solid).elim
    · rw [noStrike, solid]
      rfl
  · rw [presentText?]
    · rfl
    · intro same
      exact solid (Option.some.inj same)

theorem actionBody_generated {strike : Strike} (isStrike : action.strike? = some strike)
    (missing : action.description? = none ∨ action.description? = some "") :
    creature.actionBody action = strike.describe creature.size := by
  rcases missing with missing | missing <;>
    rw [actionBody, missing, isStrike] <;>
    rfl

end Creature

theorem Action.exists_strike {action : Action} (missing : action.description? = none) :
    ∃ strike, action.strike? = some strike := by
  unfold description? at missing
  unfold strike?
  split at missing
  · cases missing
  · exact ⟨_, rfl⟩

namespace BuildContext

/-- What is printed of an action. The text that was authored last for it, and not taken away by a
change of its weapon, is printed under its name; if there is none, the text that is generated
from its attack roll and effect at the size of the creature is. An empty text that was authored
for an attack counts as none. -/
theorem build_prints_descriptions {context : BuildContext} {reference : Option String}
    {form : DocumentForm} {directives : List Directive} {built : DerivedCreature}
    (read : form.read = .ok directives)
    (plain : ∀ directive ∈ directives, directive.isInclusion = false)
    (success : context.build reference form = .ok built)
    {index : Nat} {action : Action} (here : built.creature.actions[index]? = some action) :
    ∃ history entry, (Creature.histories directives {} [])[index]? = some history ∧
      built.derived.actions[built.creature.multiattackDraft?.toList.length + index]? =
        some entry ∧
      (∀ text, authoredText history = some text → text ≠ "" ∨ action.strike? = none →
        built.Prints action text entry) ∧
      (authoredText history = none → ∃ strike, action.strike? = some strike ∧
        built.Prints action (strike.describe built.creature.size) entry) ∧
      (∀ strike, authoredText history = some "" → action.strike? = some strike →
        built.Prints action (strike.describe built.creature.size) entry) := by
  obtain ⟨creature, _, assembled, derived, _⟩ := build_eq_ok_iff.mp success
  have derived := mapError_eq_ok.mp derived
  obtain ⟨rfl, _⟩ := Creature.gives_of_derive derived
  rw [assemble_loaded (load_eq_ok.mpr read)] at assembled
  have pairs := isHeritable_description.run plain .nil (mapError_eq_ok.mp assembled)
  obtain ⟨history, known, described⟩ := forall₂_getElem? pairs here
  obtain ⟨entry, found, printed⟩ := Creature.entry_of_derive derived here
  refine ⟨history, entry, known, found, ?_, ?_, ?_⟩
  · intro text authored counts
    rwa [Creature.actionBody_authored (described.trans authored) counts] at printed
  · intro missing
    obtain ⟨strike, isStrike⟩ := Action.exists_strike (described.trans missing)
    rw [Creature.actionBody_generated isStrike (.inl (described.trans missing))] at printed
    exact ⟨strike, isStrike, printed⟩
  · intro strike empty isStrike
    rwa [Creature.actionBody_generated isStrike (.inr (described.trans empty))] at printed

/-- A rat. The text that is authored for its club is empty, that for its dagger is taken away by a
changed attack roll, and its squeak has an empty text. -/
def describedRat : List Directive :=
  [.version formatVersion none, .name "Rat", .weapon { weapon := .club },
    .overrideDescription "Club" "", .weapon { weapon := .dagger },
    .overrideDescription "Dagger" "It cuts.", .overrideWeaponAttack .dagger {},
    .action ⟨"Squeak", "", none⟩]

def ratClub : Strike :=
  { armament := .weapon .club 0 none none, override := some "" }

def ratDagger : Strike :=
  { armament := .weapon .dagger 0 (some {}) none }

def ratActions : List Action :=
  [⟨"Club", none, .strike ratClub⟩, ⟨"Dagger", none, .strike ratDagger⟩,
    ⟨"Squeak", none, .text ""⟩]

theorem authoredText_describedRat :
    (Creature.histories describedRat {} []).map authoredText = [some "", none, some ""] := by
  decide

theorem build_describedRat :
    ∃ built first second third,
      ({} : BuildContext).build none (.directives describedRat) = .ok built ∧
        built.creature.actions = ratActions ∧ built.creature.size = .medium ∧
        built.creature.multiattackDraft?.toList.length = 0 ∧
        built.derived.actions = [first, second, third] ∧
        first.text.map (·.body.isEmpty) = [false] ∧
        interpolateEntry built.name "Club"
          (built.creature.proseVariables built.derived.proficiency) "" = .ok [] := by
  have summary :
      (({} : BuildContext).build none (.directives describedRat)).toOption.map
        (fun built => ((built.creature.actions, built.creature.size,
          built.creature.multiattackDraft?.toList.length),
          built.derived.actions.map fun entry => entry.text.map (·.body.isEmpty),
          (interpolateEntry built.name "Club"
            (built.creature.proseVariables built.derived.proficiency) "").toOption)) =
        some ((ratActions, .medium, 0), [[false], [false], [true]], some []) := by
    decide +kernel
  obtain ⟨built, success, same⟩ := Option.map_eq_some_iff.mp summary
  simp only [Prod.mk.injEq] at same
  obtain ⟨⟨actions, size, noMultiattack⟩, bodies, empty⟩ := same
  obtain ⟨first, second, third, entries⟩ :=
    List.length_eq_three.mp (by rw [← List.length_map, bodies]; rfl)
  rw [entries] at bodies
  exact ⟨built, first, second, third, eq_ok_of_toOption success, actions, size, noMultiattack,
    entries, (List.cons.inj bodies).1, eq_ok_of_toOption empty⟩

theorem build_prints_descriptions_rat :
    ∃ built first second third,
      ({} : BuildContext).build none (.directives describedRat) = .ok built ∧
        built.derived.actions = [first, second, third] ∧
        built.Prints ⟨"Club", none, .strike ratClub⟩ (ratClub.describe .medium) first ∧
        built.Prints ⟨"Dagger", none, .strike ratDagger⟩ (ratDagger.describe .medium) second ∧
        built.Prints ⟨"Squeak", none, .text ""⟩ "" third := by
  obtain ⟨built, first, second, third, success, actions, size, noMultiattack, entries, _⟩ :=
    build_describedRat
  have plain : ∀ directive ∈ describedRat, directive.isInclusion = false := by decide
  have textOf {index : Nat} {history : List Directive}
      (known : (Creature.histories describedRat {} [])[index]? = some history) :
      [some "", none, some ""][index]? = some (authoredText history) := by
    rw [← authoredText_describedRat, List.getElem?_map, known]
    rfl
  have prints (index : Nat) (action : Action)
      (here : built.creature.actions[index]? = some action) :=
    build_prints_descriptions rfl plain success here
  rw [actions, entries, noMultiattack, size] at prints
  obtain ⟨_, _, known, found, _, _, printedFirst⟩ := prints 0 _ rfl
  cases found
  have printedFirst := printedFirst ratClub (Option.some.inj (textOf known)).symm rfl
  obtain ⟨_, _, known, found, _, generated, _⟩ := prints 1 _ rfl
  cases found
  obtain ⟨_, isDagger, printedSecond⟩ := generated (Option.some.inj (textOf known)).symm
  cases isDagger
  obtain ⟨_, _, known, found, authored, _⟩ := prints 2 _ rfl
  cases found
  have printedThird := authored "" (Option.some.inj (textOf known)).symm (.inr rfl)
  exact ⟨built, first, second, third, success, entries, printedFirst, printedSecond, printedThird⟩

/-- The empty text that was authored for the club is not what is printed. -/
theorem build_hides_empty_description :
    (∀ directive ∈ describedRat, directive.isInclusion = false) ∧
      (Creature.histories describedRat {} []).map authoredText = [some "", none, some ""] ∧
      ∃ built club others,
        ({} : BuildContext).build none (.directives describedRat) = .ok built ∧
          built.creature.actions.head? = some ⟨"Club", none, .strike ratClub⟩ ∧
          built.derived.actions = club :: others ∧
          ¬ built.Prints ⟨"Club", none, .strike ratClub⟩ "" club := by
  obtain ⟨built, club, _, _, success, actions, _, _, entries, solid, empty⟩ := build_describedRat
  refine ⟨by decide, authoredText_describedRat, built, club, _, success, by rw [actions]; rfl,
    entries, ?_⟩
  rintro ⟨_, alone, interpolated, titles⟩
  obtain rfl := Except.ok.inj (empty.symm.trans interpolated)
  obtain ⟨block, text, solid⟩ := List.map_eq_singleton_iff.mp solid
  rw [text] at titles
  cases titles
  cases solid

end BuildContext

end Bestiary
