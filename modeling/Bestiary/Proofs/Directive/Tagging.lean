import Bestiary.Proofs.Directive.Validated

/-!
What decides which directive an entry is.

An entry is a tag, or an object with a tag for its only key. The fields that it
stands for start with that tag, and the fields of the entry's value are set
after it: the tag of the key decides, unless the value itself has a field for
the tag.
-/

namespace Bestiary

open Document Validation Checked

def EntryFault.tag? : EntryFault → Option Value
  | shape => none
  | unknownTag tag => some (.text tag)
  | tooManyValues tag _ _ => some (.text tag)
  | takesNoValue tag => some (.text tag)
  | fields tag _ _ => some tag

theorem EntryFault.message_names {fault : EntryFault} {tag : Value} (named : fault.tag? = some tag) :
    (∃ rest, fault.message = "Directive '" ++ tag.plain ++ "'" ++ rest) ∨
      fault.message = "Unknown directive '" ++ tag.plain ++ "'" := by
  cases fault with
  | shape => cases named
  | unknownTag found =>
      obtain rfl : Value.text found = tag := Option.some.inj named
      exact .inr rfl
  | tooManyValues found limit given =>
      obtain rfl : Value.text found = tag := Option.some.inj named
      have quoted : "' takes at most " = "'" ++ " takes at most " := by decide
      refine .inl ⟨" takes at most " ++ (toString limit ++ (" values, got " ++ toString given)), ?_⟩
      unfold message
      dsimp only
      rw [quoted]
      simp only [Value.plain, String.append_assoc]
  | takesNoValue found =>
      obtain rfl : Value.text found = tag := Option.some.inj named
      have quoted : "' takes no value" = "'" ++ " takes no value" := by decide
      refine .inl ⟨" takes no value", ?_⟩
      unfold message
      dsimp only
      rw [quoted]
      simp only [Value.plain, String.append_assoc]
  | fields found first others =>
      obtain rfl : found = tag := Option.some.inj named
      have quoted : "': " = "'" ++ ": " := by decide
      unfold message
      dsimp only
      rw [quoted]
      simp only [String.append_assoc]
      exact .inl ⟨_, rfl⟩

namespace Directive

/-- An entry with a tag for its key and a value, which is null if the tag stands alone. -/
inductive IsEntry : Value → String → Value → Prop
  | bare (tag : String) : IsEntry (.text tag) tag .null
  | keyed (tag : String) (payload : Value) : IsEntry (.object [(tag, payload)]) tag payload

variable {entry payload : Value} {tag : String}

theorem form?_eq_some {form : Form} (known : form? tag = some form) :
    form ∈ forms ∧ form.tag = tag := by
  have same := List.find?_some known
  exact ⟨List.mem_of_find?_eq_some known, beq_iff_eq.mp same⟩

theorem lookup_forms (tag : String) :
    (forms.map fun form => (form.tag, form.read)).lookup tag = (form? tag).map Form.read := by
  cases known : form? tag with
  | some form =>
      obtain ⟨member, rfl⟩ := form?_eq_some known
      apply lookup_key
      · rw [keysOf_forms]
        exact tags_distinct
      · exact List.mem_map_of_mem member
  | none =>
      refine List.lookup_eq_none_iff.mpr fun kind member => ?_
      obtain ⟨form, inForms, rfl⟩ := List.mem_map.mp member
      have other := List.find?_eq_none.mp known form inForms
      exact bne_iff_ne.mpr fun same => other (beq_iff_eq.mpr same.symm)

theorem not_mem_fieldNames {form : Form} (known : form? tag = some form) :
    "directive" ∉ form.fieldNames :=
  (List.nodup_cons.mp (fieldNames_distinct form (form?_eq_some known).1)).1

/-! ### The fields of an entry -/

theorem IsEntry.normalize_eq (isEntry : IsEntry entry tag payload) :
    normalize entry = normalize (.object [(tag, payload)]) := by
  cases isEntry <;> rfl

/-- The fields of an entry: its tag, and then what its value adds, set one after another. -/
def withTag (tag : String) (added : Fields) : Value :=
  .object (setEntries [("directive", .text tag)] added)

/-- What an entry is normalized to when its value is no object: fields of its form after its tag, or
a fault that names the tag. -/
def FillsForm (tag : String) (outcome : Except EntryFault Value) : Prop :=
  (∃ added, outcome = .ok (withTag tag added) ∧ "directive" ∉ keysOf added) ∨
    ∃ fault, outcome = .error fault ∧ fault.tag? = some (.text tag)

theorem fillsForm_first {form : Form} (known : form? tag = some form) (content : Value) :
    FillsForm tag
      (match form.fieldNames with
        | [] => .error (.takesNoValue tag)
        | first :: _ => .ok (withTag tag [(first, content)])) := by
  have untagged := not_mem_fieldNames known
  cases names : form.fieldNames with
  | nil => exact .inr ⟨_, rfl, rfl⟩
  | cons first others =>
      refine .inl ⟨_, rfl, fun isFirst => untagged ?_⟩
      rw [names, List.mem_singleton.mp isFirst]
      exact .head others

theorem fillsForm_zip {form : Form} (known : form? tag = some form) (items : List Value) :
    FillsForm tag (.ok (withTag tag (form.fieldNames.zip items))) := by
  refine .inl ⟨_, rfl, fun isField => not_mem_fieldNames known ?_⟩
  obtain ⟨⟨name, content⟩, member, rfl⟩ := List.mem_map.mp isField
  exact (List.of_mem_zip member).1

/-- The fields of an entry are its tag, and then those that its value names or fields of its form;
what is wrong with them is told with that tag. -/
theorem normalize_cases (isEntry : IsEntry entry tag payload) :
    (∃ fields, payload = .object fields ∧ normalize entry = .ok (withTag tag fields)) ∨
      FillsForm tag (normalize entry) := by
  rw [isEntry.normalize_eq]
  unfold normalize
  simp only [pure_bind]
  cases known : form? tag with
  | none => exact .inr (.inr ⟨_, rfl, rfl⟩)
  | some form =>
      cases payload with
      | null => exact .inr (.inl ⟨[], rfl, List.not_mem_nil⟩)
      | object fields => exact .inl ⟨fields, rfl, rfl⟩
      | list items =>
          refine .inr ?_
          dsimp only
          split
          · exact fillsForm_first known (.list items)
          · split
            · exact .inr ⟨_, rfl, rfl⟩
            · exact fillsForm_zip known items
      | _ => exact .inr (fillsForm_first known _)

theorem normalize_object {fields : Fields} (isEntry : IsEntry entry tag (.object fields))
    (known : form? tag ≠ none) : normalize entry = .ok (withTag tag fields) := by
  obtain ⟨form, isForm⟩ := Option.ne_none_iff_exists'.mp known
  rw [isEntry.normalize_eq]
  unfold normalize
  simp only [pure_bind, isForm]
  rfl

theorem ofEntry_unknown (isEntry : IsEntry entry tag payload) (unknown : form? tag = none) :
    ofEntry entry = .error (.unknownTag tag) := by
  rw [ofEntry, isEntry.normalize_eq]
  unfold normalize
  simp only [pure_bind, unknown]
  rfl

/-! ### The directive of an entry -/

/-- A directive that is read from fields has the tag that they name, and the form of that tag read
it; a fault in the fields is told with the tag that they name. -/
theorem ofEntry_named {fields : Fields} {named : Value}
    (normal : normalize entry = .ok (.object fields))
    (found : fields.lookup "directive" = some named) :
    (∀ directive, ofEntry entry = .ok directive → named = .text directive.tag ∧
      ∃ form, form? directive.tag = some form ∧ form.read fields = .valid directive) ∧
    ∀ fault, ofEntry entry = .error fault → fault.tag? = some named := by
  constructor
  · intro directive success
    obtain ⟨_, normalToo, success⟩ := ofEntry_eq_ok.mp success
    cases normal.symm.trans normalToo
    obtain ⟨word, body, foundWord, known, reads⟩ := Reader.tagged_eq_valid success
    rw [lookup_forms] at known
    obtain ⟨form, isForm, rfl⟩ := Option.map_eq_some_iff.mp known
    obtain ⟨member, rfl⟩ := form?_eq_some isForm
    have tagged : directive.tag = form.tag := (forms_faithful form member fields directive reads).tag
    rw [tagged]
    exact ⟨Option.some.inj (found.symm.trans foundWord), form, isForm, reads⟩
  · intro fault failed
    unfold ofEntry at failed
    rw [normal, ok_bind] at failed
    have isNamed : (Value.object fields).field? "directive" = some named := found
    cases outcome : read (.object fields) with
    | valid directive =>
        rw [outcome] at failed
        cases failed
    | invalid first others =>
        rw [outcome, isNamed] at failed
        cases failed
        rfl

def NamesOnly (tag : String) (payload : Value) : Prop :=
  ∀ fields, payload = .object fields → ∀ named, ("directive", named) ∈ fields → named = .text tag

theorem normalize_tagged (isEntry : IsEntry entry tag payload) (only : NamesOnly tag payload) :
    (∃ fields, normalize entry = .ok (.object fields) ∧
      fields.lookup "directive" = some (.text tag)) ∨
    ∃ fault, normalize entry = .error fault ∧ fault.tag? = some (.text tag) := by
  rcases normalize_cases isEntry with ⟨added, isObject, normal⟩ | ⟨added, normal, untagged⟩ | failed
  · exact .inl ⟨_, normal, lookup_setEntries List.lookup_cons_self (only added isObject)⟩
  · refine .inl ⟨_, normal, lookup_setEntries List.lookup_cons_self fun named member => ?_⟩
    exact absurd (List.mem_map.mpr ⟨_, member, rfl⟩) untagged
  · exact .inr failed

/-- The key of an entry decides its directive, unless the value has a field that names another tag:
what is read has the tag of the key and was read by the form of that tag, and what is wrong is told
with it. A field that names a tag decides instead of the key, both for what is read and for what is
wrong with the fields; but a key that is no tag is told of whatever its value is. -/
theorem ofEntry_tagged (isEntry : IsEntry entry tag payload) :
    (NamesOnly tag payload →
      (∀ directive, ofEntry entry = .ok directive → directive.tag = tag ∧
        ∃ form fields, form? tag = some form ∧ normalize entry = .ok (.object fields) ∧
          form.read fields = .valid directive) ∧
      ∀ fault, ofEntry entry = .error fault → fault.tag? = some (.text tag) ∧
        ((∃ rest, fault.message = "Directive '" ++ tag ++ "'" ++ rest) ∨
          fault.message = "Unknown directive '" ++ tag ++ "'")) ∧
    (form? tag = none → ∃ fault, ofEntry entry = .error fault ∧
      fault.message = "Unknown directive '" ++ tag ++ "'") ∧
    ∀ fields named, payload = .object fields → (keysOf fields).Nodup →
      ("directive", named) ∈ fields → form? tag ≠ none →
      (∀ directive, ofEntry entry = .ok directive → named = .text directive.tag) ∧
      ∀ fault, ofEntry entry = .error fault → fault.tag? = some named := by
  refine ⟨fun only => ?key, fun unknown => ?unknown,
    fun fields named isObject distinct member known => ?field⟩
  case key =>
    have told {fault : EntryFault} (isNamed : fault.tag? = some (.text tag)) :
        fault.tag? = some (.text tag) ∧
          ((∃ rest, fault.message = "Directive '" ++ tag ++ "'" ++ rest) ∨
            fault.message = "Unknown directive '" ++ tag ++ "'") := by
      have names := EntryFault.message_names isNamed
      simp only [Value.plain] at names
      exact ⟨isNamed, names⟩
    rcases normalize_tagged isEntry only with ⟨fields, normal, found⟩ | ⟨fault, failed, isNamed⟩
    · obtain ⟨succeeds, fails⟩ := ofEntry_named normal found
      refine ⟨fun directive success => ?_, fun fault failed => told (fails fault failed)⟩
      obtain ⟨isTag, form, known, reads⟩ := succeeds directive success
      obtain rfl : tag = directive.tag := Value.text.inj isTag
      exact ⟨rfl, form, fields, known, normal, reads⟩
    · have whole : ofEntry entry = .error fault := by
        rw [ofEntry, failed]
        rfl
      refine ⟨fun directive success => ?_, fun other failed => ?_⟩
      · cases whole.symm.trans success
      · cases whole.symm.trans failed
        exact told isNamed
  case unknown => exact ⟨_, ofEntry_unknown isEntry unknown, rfl⟩
  case field =>
    subst isObject
    obtain ⟨succeeds, fails⟩ :=
      ofEntry_named (normalize_object isEntry known) (lookup_setEntries_added member distinct)
    exact ⟨fun directive success => (succeeds directive success).1, fails⟩

theorem ofEntry_tagged_blindsight :
    let entry : Value := .object [("blindsight",
      .object [("distance", .int 10), ("blind_beyond", .bool true)])]
    ∃ directive, ofEntry entry = .ok directive ∧ directive.tag = "blindsight" := by
  intro entry
  obtain ⟨directive, read⟩ : ∃ directive, ofEntry entry = .ok directive :=
    exists_ok_of_toOption (by decide +kernel)
  have only : NamesOnly "blindsight"
      (.object [("distance", .int 10), ("blind_beyond", .bool true)]) := by
    intro fields isObject named member
    cases isObject
    simp at member
  have isEntry : IsEntry entry "blindsight" _ := .keyed _ _
  exact ⟨directive, read, (((ofEntry_tagged isEntry).1 only).1 directive read).1⟩

/-- A field that names another tag makes another directive of the entry. -/
theorem ofEntry_renamed :
    let entry : Value := .object [("name",
      .object [("directive", .text "source"), ("source", .text "Manual")])]
    IsEntry entry "name"
        (.object [("directive", .text "source"), ("source", .text "Manual")]) ∧
      ∃ directive, ofEntry entry = .ok directive ∧ directive.tag = "source" := by
  intro entry
  have isEntry : IsEntry entry "name" _ := .keyed _ _
  obtain ⟨directive, read⟩ : ∃ directive, ofEntry entry = .ok directive :=
    exists_ok_of_toOption (by decide +kernel)
  have known : form? "name" ≠ none := by decide +kernel
  have named := ofEntry_named (normalize_object isEntry known)
    (lookup_setEntries_added (.head _) (by decide))
  exact ⟨isEntry, directive, read, (Value.text.inj (named.1 directive read).1).symm⟩

end Directive

end Bestiary
