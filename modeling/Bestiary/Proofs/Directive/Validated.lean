import Mathlib.Data.List.Forall2
import Bestiary.Directive.Document
import Bestiary.Proofs.Directive.Fidelity
import Bestiary.Proofs.Outcome

/-!
Directives that were read.

A document gives one directive for each of its entries. A directive is
validated if it was read from some fields, as the directives of an entry and of
a document are. The tag among the fields tells the form that reads them, since
no two forms share a tag.
-/

namespace Bestiary

open Document Validation Checked

namespace Directive

theorem tags_distinct : (forms.map (·.tag)).Nodup := by
  decide

theorem fieldNames_distinct : ∀ form ∈ forms, ("directive" :: form.fieldNames).Nodup := by
  decide

theorem form?_of_mem {form : Form} (member : form ∈ forms) : form? form.tag = some form :=
  find?_key tags_distinct member

theorem keysOf_forms (given : List Form) :
    keysOf (given.map fun form => (form.tag, form.read)) = given.map (·.tag) :=
  List.map_map

/-! ### Reading tagged fields -/

theorem read_of_form {form : Form} {fields : Fields} {directive : Directive}
    (member : form ∈ forms) (tagged : fields.lookup "directive" = some (.text form.tag))
    (reads : form.read fields = .valid directive) : read (.object fields) = .valid directive := by
  have known : (forms.map fun form => (form.tag, form.read)).lookup form.tag = some form.read := by
    apply lookup_key
    · rw [keysOf_forms]
      exact tags_distinct
    · exact List.mem_map_of_mem member
  exact Reader.tagged_of_lookup tagged known reads

theorem form_of_read {input : Value} {directive : Directive}
    (success : read input = .valid directive) : ∃ form ∈ forms, form.Reads directive := by
  cases input with
  | object fields =>
      obtain ⟨tag, body, _, known, reads⟩ := Reader.tagged_eq_valid success
      obtain ⟨form, member, same⟩ := List.mem_map.mp (mem_of_lookup known)
      cases same
      exact ⟨form, member, forms_faithful form member fields directive reads⟩
  | _ => cases success

theorem ofEntry_eq_ok {entry : Value} {directive : Directive} :
    ofEntry entry = .ok directive ↔
      ∃ normalized, normalize entry = .ok normalized ∧ read normalized = .valid directive := by
  unfold ofEntry
  rw [bind_eq_ok]
  constructor
  · rintro ⟨normalized, normal, success⟩
    cases outcome : read normalized with
    | valid found =>
        rw [outcome] at success
        cases success
        exact ⟨normalized, normal, outcome⟩
    | invalid first others =>
        rw [outcome] at success
        cases success
  · rintro ⟨normalized, normal, outcome⟩
    refine ⟨normalized, normal, ?_⟩
    rw [outcome]
    rfl

/-! ### Validated directives -/

def IsValidated (directive : Directive) : Prop :=
  ∃ fields, read fields = .valid directive

theorem IsValidated.readable {directive : Directive} (validated : directive.IsValidated) :
    directive.IsReadable := by
  obtain ⟨_, success⟩ := validated
  obtain ⟨_, _, reads⟩ := form_of_read success
  exact reads.readable

theorem ofEntry_validated {entry : Value} {directive : Directive}
    (success : ofEntry entry = .ok directive) : directive.IsValidated := by
  obtain ⟨normalized, _, reads⟩ := ofEntry_eq_ok.mp success
  exact ⟨normalized, reads⟩

/-! ### Entries of a document -/

theorem ofEntriesFrom_eq_ok {place : Nat} {entries : List Value} {directives : List Directive} :
    ofEntriesFrom place entries = .ok directives ↔
      List.Forall₂ (fun entry directive => ofEntry entry = .ok directive) entries directives := by
  induction entries generalizing place directives with
  | nil =>
      rw [List.forall₂_nil_left_iff]
      constructor
      · intro success
        cases success
        rfl
      · rintro rfl
        rfl
  | cons entry others ih =>
      rw [ofEntriesFrom, bind_eq_ok, List.forall₂_cons_left_iff]
      constructor
      · rintro ⟨first, read, success⟩
        obtain ⟨rest, readRest, success⟩ := bind_eq_ok.mp success
        cases success
        exact ⟨first, rest, mapError_eq_ok.mp read, ih.mp readRest, rfl⟩
      · rintro ⟨first, rest, read, readRest, rfl⟩
        exact ⟨first, mapError_eq_ok.mpr read, bind_eq_ok.mpr ⟨rest, ih.mpr readRest, rfl⟩⟩

theorem ofEntries_eq_ok {entries : List Value} {directives : List Directive} :
    ofEntries entries = .ok directives ↔
      List.Forall₂ (fun entry directive => ofEntry entry = .ok directive) entries directives ∧
        checkVersions directives = .ok () := by
  unfold ofEntries
  cases entries with
  | nil =>
      rw [List.isEmpty_nil, if_pos rfl, List.forall₂_nil_left_iff]
      constructor
      · intro impossible
        cases impossible
      · rintro ⟨rfl, impossible⟩
        cases impossible
  | cons entry others =>
      rw [List.isEmpty_cons, if_neg Bool.false_ne_true, bind_eq_ok, ← @ofEntriesFrom_eq_ok 0]
      constructor
      · rintro ⟨found, read, success⟩
        obtain ⟨_, checked, success⟩ := bind_eq_ok.mp success
        cases success
        exact ⟨read, checked⟩
      · rintro ⟨read, checked⟩
        exact ⟨directives, read, bind_eq_ok.mpr ⟨(), checked, rfl⟩⟩

theorem validated_of_each {entries : List Value} {directives : List Directive}
    (each : List.Forall₂ (fun entry directive => ofEntry entry = .ok directive) entries
      directives) : ∀ directive ∈ directives, directive.IsValidated := by
  induction each with
  | nil => exact List.forall_mem_nil _
  | cons read _ ih => exact List.forall_mem_cons.mpr ⟨ofEntry_validated read, ih⟩

theorem ofText_validated {text : String} {directives : List Directive}
    (success : ofText text = .ok directives) :
    ∀ directive ∈ directives, directive.IsValidated := by
  obtain ⟨value, _, success⟩ := bind_eq_ok.mp success
  cases value with
  | list entries => exact validated_of_each (ofEntries_eq_ok.mp success).1
  | _ => cases success

end Directive

end Bestiary
