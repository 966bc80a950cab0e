import Bestiary.Proofs.Creature.Inclusion
import Bestiary.Proofs.Document.Template

/-!
The arguments of an include as data.

A document is filled in before it is read, and nothing in an argument is
escaped. So what an argument says stays inside the text it is put into only if
it has no character with a meaning there, and if the placeholder does not
stand within an escape. Then the entries of the document are the same whatever
the arguments are, but for the characters of the arguments in their texts.
-/

namespace Bestiary

open Document Prose

def argumentText (arguments : List (String × IncludeArgument)) (name : String) : List Char :=
  match arguments.lookup name with
  | some argument => argument.value.display.toList
  | none => []

/-- There is an argument of a name, and its text stands for itself between quotation marks. -/
def HasPlainArgument (arguments : List (String × IncludeArgument)) (name : String) : Prop :=
  ∃ argument, arguments.lookup name = some argument ∧ argument.value.isWritable = true ∧
    ∀ character ∈ argument.value.display.toList, isPlain character = true

theorem HasPlainArgument.plain {arguments : List (String × IncludeArgument)} {name : String}
    (given : HasPlainArgument arguments name) :
    ∀ character ∈ argumentText arguments name, isPlain character = true := by
  obtain ⟨argument, found, _, plain⟩ := given
  unfold argumentText
  rw [found]
  exact plain

theorem HasPlainArgument.isWrittenAs {arguments : List (String × IncludeArgument)} {name : String}
    (given : HasPlainArgument arguments name) :
    IsWrittenAs (argumentScope arguments) name (argumentText arguments name) := by
  obtain ⟨argument, found, writable, _⟩ := given
  refine ⟨argument.value, ?_, ?_⟩
  · rw [lookup_argumentScope, found]
    rfl
  · unfold argumentText
    rw [found, String.ofList_toList]
    exact if_pos writable

theorem readIncluded_filled {arguments : List (String × IncludeArgument)} {text : String}
    {stencil : Stencil} (isTemplate : stencil? text = some stencil)
    (given : ∀ name ∈ stencil.names, HasPlainArgument arguments name) :
    readIncluded arguments text =
      (Directive.ofText (String.ofList (stencil.fill (argumentText arguments)))).mapError
        .document := by
  unfold readIncluded
  simp only
  rw [fillTemplate_stencil isTemplate (prepareVariables_arguments arguments)
    fun name member => (given name member).isWrittenAs]
  rfl

/-- The entries of a template: none of them comes or goes with the values. -/
theorem entries_of_template {template : Template} {values : String → List Char}
    {directives : List Directive}
    (read : Directive.ofValue (template.fill values) = .ok directives) :
    ∃ entries : List Template,
      ∀ values', template.fill values' = .list (entries.map (Template.fill values')) := by
  cases template with
  | scalar value =>
      rw [Template.fill] at read
      cases value with
      | list items =>
          refine ⟨items.map .scalar, fun values' => ?_⟩
          have fixed : Template.fill values' ∘ .scalar = id := funext fun value => by
            rw [Function.comp, Template.fill, id]
          rw [Template.fill, List.map_map, fixed, List.map_id]
      | _ => cases read
  | text content =>
      rw [Template.fill] at read
      cases read
  | list items => exact ⟨items, fun values' => by rw [Template.fill, Template.fillItems_eq]⟩
  | object fields =>
      rw [Template.fill] at read
      cases read

/-- A document whose placeholders stand in quoted text is, for all arguments that are plain text,
one list of entries with the arguments in their places; it is read entry by entry. -/
theorem readIncluded_template {text : String} {stencil : Stencil}
    {harmless : List (String × IncludeArgument)} {directives : List Directive}
    (isTemplate : stencil? text = some stencil) (quoted : stencil.isQuoted false = true)
    (given : ∀ name ∈ stencil.names, HasPlainArgument harmless name)
    (read : readIncluded harmless text = .ok directives) :
    ∃ entries : List Template, entries.length = directives.length ∧
      ∀ arguments, (∀ name ∈ stencil.names, HasPlainArgument arguments name) →
        readIncluded arguments text =
            (Directive.ofEntries
              (entries.map (Template.fill (argumentText arguments)))).mapError .document ∧
          ∀ found, readIncluded arguments text = .ok found ↔
            List.Forall₂ (fun entry directive =>
                Directive.ofEntry (entry.fill (argumentText arguments)) = .ok directive)
              entries found ∧
            Directive.checkVersions found = .ok () := by
  have fits : stencil.Fits stencil.names false := ⟨quoted, fun _ member => member⟩
  have plain {arguments : List (String × IncludeArgument)}
      (given : ∀ name ∈ stencil.names, HasPlainArgument arguments name) :
      Stencil.ArePlain stencil.names (argumentText arguments) :=
    fun name member => (given name member).plain
  have accepted := read
  rw [readIncluded_filled isTemplate given, mapError_eq_ok] at accepted
  obtain ⟨value, decoded, accepted⟩ := bind_eq_ok.mp accepted
  rw [mapError_eq_ok] at decoded
  obtain ⟨template, reads⟩ := fits.ofText (plain given) decoded
  cases decoded.symm.trans (reads _ (plain given))
  obtain ⟨entries, isList⟩ := entries_of_template accepted
  -- With any arguments the template is read, and so each of its entries.
  have filled {arguments : List (String × IncludeArgument)}
      (given : ∀ name ∈ stencil.names, HasPlainArgument arguments name) :
      readIncluded arguments text =
        (Directive.ofEntries
          (entries.map (Template.fill (argumentText arguments)))).mapError .document := by
    rw [readIncluded_filled isTemplate given, Directive.ofText, reads _ (plain given), isList]
    rfl
  have found_iff {arguments : List (String × IncludeArgument)}
      (given : ∀ name ∈ stencil.names, HasPlainArgument arguments name)
      (found : List Directive) :
      readIncluded arguments text = .ok found ↔
        List.Forall₂ (fun entry directive =>
            Directive.ofEntry (entry.fill (argumentText arguments)) = .ok directive)
          entries found ∧
        Directive.checkVersions found = .ok () := by
    rw [filled given, mapError_eq_ok, Directive.ofEntries_eq_ok, List.forall₂_map_left_iff]
  exact ⟨entries, ((found_iff given directives).mp read).1.length_eq,
    fun arguments given => ⟨filled given, found_iff given⟩⟩

theorem readIncluded_template_sense :
    let text := "[\x7b\"version\": 1\x7d, \x7b\"name\": \"Keen $<sense>\"\x7d]"
    let harmless := [("sense", IncludeArgument.text "Smell")]
    let arguments := [("sense", IncludeArgument.text "$<Smell>\x7d, [é]")]
    ∃ stencil directives, stencil? text = some stencil ∧ stencil.isQuoted false = true ∧
      (∀ name ∈ stencil.names, HasPlainArgument harmless name) ∧
      (∀ name ∈ stencil.names, HasPlainArgument arguments name) ∧
      readIncluded harmless text = .ok directives ∧
      ∃ entries : List Template, entries.length = directives.length ∧
        readIncluded arguments text =
          (Directive.ofEntries
            (entries.map (Template.fill (argumentText arguments)))).mapError .document := by
  intro text harmless arguments
  obtain ⟨stencil, isTemplate, quoted, named⟩ :
      ∃ stencil, stencil? text = some stencil ∧ stencil.isQuoted false = true ∧
        stencil.names = ["sense"] := by
    refine ⟨Stencil.ofChars "[\x7b\"version\": 1\x7d, \x7b\"name\": \"Keen ".toList ++
      .slot "sense" :: Stencil.ofChars "\"\x7d]".toList, ?_, ?_, ?_⟩ <;> decide +kernel
  have hasArgument {content : String} (plain : content.toList.all isPlain = true) :
      ∀ name ∈ stencil.names, HasPlainArgument [("sense", .text content)] name := by
    intro name member
    rw [named, List.mem_singleton] at member
    subst member
    exact ⟨.text content, rfl, rfl, List.all_eq_true.mp plain⟩
  have given : ∀ name ∈ stencil.names, HasPlainArgument harmless name :=
    hasArgument (by decide +kernel)
  have given' : ∀ name ∈ stencil.names, HasPlainArgument arguments name :=
    hasArgument (by decide +kernel)
  obtain ⟨directives, read⟩ : ∃ directives, readIncluded harmless text = .ok directives :=
    exists_ok_of_toOption (by decide +kernel)
  obtain ⟨entries, many, filled⟩ := readIncluded_template isTemplate quoted given read
  exact ⟨stencil, directives, isTemplate, quoted, given, given', read, entries, many,
    (filled arguments given').1⟩

/-- A quotation mark in an argument ends the text that it is put into, and what comes after it is
read as a part of the document. A placeholder in an escape is read as a part of the escape, and two
escapes with nothing between them may stand for one character; and a word that must be one of a
list is another one with other letters. -/
theorem include_reads_arguments :
    let including (document argument : String) :=
      let context : BuildContext := { library := some (Library.ofTexts [("a", some document)]) }
      (context.applyAll 1 [] [.inclusion "a" [("who", .text argument)]] {}).toOption.map
        fun creature => (creature.name, creature.size)
    let named := "[\x7b\"version\": 1\x7d, \x7b\"name\": \"$<who>\"\x7d]"
    let escaped := "[\x7b\"version\": 1\x7d, \x7b\"name\": \"\\u00$<who>\"\x7d]"
    let paired := "[\x7b\"version\": 1\x7d, \x7b\"name\": \"\\ud83d$<who>\\ude00\"\x7d]"
    let sized := "[\x7b\"version\": 1\x7d, \x7b\"size\": \"$<who>\"\x7d]"
    including named "abc" = some (some "abc", .medium) ∧
      including named "Wolf\"\x7d, \x7b\"size\": \"large" = some (some "Wolf", .large) ∧
      including escaped "ab" = some (some "«", .medium) ∧ including escaped "zz" = none ∧
      including paired "" = some (some "😀", .medium) ∧
      including sized "large" = some (none, .large) ∧ including sized "abc" = none := by
  decide +kernel

end Bestiary
