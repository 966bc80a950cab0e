import Bestiary.Proofs.Document.Boundary
import Bestiary.Proofs.Document.Escape
import Bestiary.Proofs.Document.Quotation

/-!
Documents with slots.

A stencil whose slots are quoted is read as a template: a value with slots in
its texts and names. If the stencil can be read with some plain values in its
slots, it can be read with all plain values, and what is read is the template
with these values. The recursion is that of the readers; at each step what is
left of the text is what is left of the stencil, filled in.
-/

namespace Bestiary

open Document

/-- A value whose texts and names have slots. -/
inductive Template
  | scalar (value : Value)
  | text (content : Stencil)
  | list (items : List Template)
  | object (fields : List (Stencil × Template))

namespace Template

mutual

def fill (values : String → List Char) : Template → Value
  | scalar value => value
  | text content => .text (String.ofList (content.fill values))
  | list items => .list (fillItems values items)
  | object fields => .object (fillFields values [] fields)

def fillItems (values : String → List Char) : List Template → List Value
  | [] => []
  | item :: others => fill values item :: fillItems values others

def fillFields (values : String → List Char) (known : List (String × Value)) :
    List (Stencil × Template) → List (String × Value)
  | [] => known
  | (name, content) :: others =>
      fillFields values
        (setEntry known (String.ofList (name.fill values)) (fill values content)) others

end

theorem fillItems_eq (values : String → List Char) (items : List Template) :
    fillItems values items = items.map (fill values) := by
  induction items with
  | nil => rw [fillItems, List.map_nil]
  | cons item others ih => rw [fillItems, List.map_cons, ih]

end Template

def Cell.isBlank : Cell → Bool
  | keep character => isDocumentBlank character
  | slot _ => false

namespace Stencil

def skipCells (stencil : Stencil) : Stencil :=
  stencil.dropWhile Cell.isBlank

theorem length_skipCells_le (stencil : Stencil) : (skipCells stencil).length ≤ stencil.length :=
  (List.dropWhile_suffix Cell.isBlank).length_le

variable {names : List String} {values : String → List Char} {stencil : Stencil}

/-! ### Outside quotation marks -/

theorem Fits.not_slot {name : String} {others : Stencil}
    (fits : Fits names false (.slot name :: others)) : False := by
  have placed := fits.placed
  cases placed

theorem fits_nil : Fits names false [] :=
  ⟨rfl, List.forall_mem_nil _⟩

theorem fits_ofChars {front : List Char} {tail : Stencil} (unquoted : '"' ∉ front)
    (fits : Fits names false tail) : Fits names false (ofChars front ++ tail) := by
  induction front with
  | nil => exact fits
  | cons character others ih =>
      obtain ⟨notQuote, unquoted⟩ := not_or.mp (mt List.mem_cons.mpr unquoted)
      obtain ⟨placed, known⟩ := ih unquoted
      refine ⟨?_, known⟩
      change isQuoted false (.keep character :: (ofChars others ++ tail)) = true
      rw [isQuoted]
      · exact placed
      · exact Ne.symm notQuote

/-- What is outside quotation marks at the front of a stencil has no slots. -/
theorem Fits.cut (fits : Fits names false stencil) :
    ∃ front, '"' ∉ front ∧
      (stencil = ofChars front ∨
        ∃ quoted, stencil = ofChars front ++ .keep '"' :: quoted ∧
          Fits names false (.keep '"' :: quoted)) := by
  induction stencil with
  | nil => exact ⟨[], List.not_mem_nil, .inl rfl⟩
  | cons cell others ih =>
      cases cell with
      | slot name => exact fits.not_slot.elim
      | keep character =>
          by_cases quote : character = '"'
          · subst quote
            exact ⟨[], List.not_mem_nil, .inr ⟨others, rfl, fits⟩⟩
          · obtain ⟨front, unquoted, cut⟩ := ih (fits.outside quote)
            refine ⟨character :: front, ?_, ?_⟩
            · exact mt List.mem_cons.mp (not_or.mpr ⟨Ne.symm quote, unquoted⟩)
            · rcases cut with rfl | ⟨quoted, rfl, fitsQuoted⟩
              · exact .inl rfl
              · exact .inr ⟨quoted, rfl, fitsQuoted⟩

theorem Fits.head?_fill (fits : Fits names false stencil) (values values' : String → List Char) :
    (stencil.fill values).head? = (stencil.fill values').head? := by
  rcases stencil with _ | ⟨character | name, others⟩
  · rfl
  · rfl
  · exact fits.not_slot.elim

theorem Fits.skip (fits : Fits names false stencil) (values : String → List Char) :
    Fits names false (skipCells stencil) ∧
      skipBlanks (stencil.fill values) = (skipCells stencil).fill values := by
  induction stencil with
  | nil => exact ⟨fits, rfl⟩
  | cons cell others ih =>
      cases cell with
      | slot name => exact fits.not_slot.elim
      | keep character =>
          cases blank : isDocumentBlank character with
          | false =>
              have stays : skipCells (.keep character :: others) = .keep character :: others :=
                List.dropWhile_cons_of_neg (by simp [Cell.isBlank, blank])
              rw [stays]
              exact ⟨fits, List.dropWhile_cons_of_neg (by simp [blank])⟩
          | true =>
              have notQuote : character ≠ '"' := by
                rintro rfl
                cases blank
              have skips : skipCells (.keep character :: others) = skipCells others :=
                List.dropWhile_cons_of_pos blank
              obtain ⟨fitsRest, same⟩ := ih (fits.outside notQuote)
              rw [skips]
              exact ⟨fitsRest, (List.dropWhile_cons_of_pos blank).trans same⟩

theorem Fits.mark {mark : Char} {rest : List Char} (fits : Fits names false stencil)
    (found : skipBlanks (stencil.fill values) = mark :: rest) (other : mark ≠ '"') :
    ∃ after, Fits names false after ∧ after.length < stencil.length ∧
      rest = after.fill values ∧
      ∀ values', skipBlanks (stencil.fill values') = mark :: after.fill values' := by
  obtain ⟨fitsRest, same⟩ := fits.skip values
  rw [same] at found
  have bound := length_skipCells_le stencil
  cases skipped : skipCells stencil with
  | nil =>
      rw [skipped] at found
      cases found
  | cons cell after =>
      rw [skipped] at found fitsRest bound
      cases cell with
      | slot name => exact fitsRest.not_slot.elim
      | keep character =>
          cases found
          refine ⟨after, fitsRest.outside other, bound, rfl, ?_⟩
          intro values'
          rw [(fits.skip values').2, skipped]
          rfl

/-! ### Scalars -/

theorem Fits.readsScalar {value : Value} {rest : List Char} (fits : Fits names false stencil)
    (starts : StartsWithScalar (stencil.fill values) value rest) :
    ∃ left, Fits names false left ∧ left.length < stencil.length ∧
      ∀ values', StartsWithScalar (stencil.fill values') value (left.fill values') := by
  -- What is left of the characters before the first quotation mark has none either.
  have suffix {front left : List Char} (unquoted : '"' ∉ front)
      (starts : StartsWithScalar front value left) : '"' ∉ left ∧ left.length < front.length := by
    obtain ⟨shorter, read⟩ := starts
    obtain ⟨source, same, _⟩ := readScalar_consumed read
    exact ⟨fun member => unquoted (same ▸ List.mem_append_right source member), shorter⟩
  obtain ⟨front, unquoted, rfl | ⟨quoted, rfl, fitsQuoted⟩⟩ := fits.cut
  · rw [fill_ofChars] at starts
    obtain ⟨unquotedRest, shorter⟩ := suffix unquoted starts
    refine ⟨ofChars rest, ?_, ?_, ?_⟩
    · have fitsRest := fits_ofChars unquotedRest (fits_nil : Fits names false [])
      rwa [List.append_nil] at fitsRest
    · simpa [ofChars] using shorter
    · intro values'
      rw [fill_ofChars, fill_ofChars]
      exact starts
  · rw [fill_append, fill_ofChars, fill_keep] at starts
    obtain ⟨left, _, starts⟩ := startsWithScalar_before_quote.mp starts
    obtain ⟨unquotedLeft, shorter⟩ := suffix unquoted starts
    refine ⟨ofChars left ++ .keep '"' :: quoted, fits_ofChars unquotedLeft fitsQuoted, ?_, ?_⟩
    · simpa [ofChars] using shorter
    · intro values'
      simp only [fill_append, fill_ofChars, fill_keep]
      exact startsWithScalar_before_quote.mpr ⟨left, rfl, starts⟩

/-! ### Values -/

/-- Whatever the values are, a stencil starts with a template and goes on with another stencil. -/
def ReadsValue (names : List String) (stencil : Stencil) (template : Template) (left : Stencil) :
    Prop :=
  ∀ values, ArePlain names values →
    StartsWithValue (stencil.fill values) (template.fill values) (left.fill values)

def ReadsItems (names : List String) (stencil : Stencil) (items : List Template)
    (left : Stencil) : Prop :=
  ∀ values, ArePlain names values →
    StartsWithItems (stencil.fill values) (Template.fillItems values items) (left.fill values)

def ReadsFields (names : List String) (stencil : Stencil) (fields : List (Stencil × Template))
    (left : Stencil) : Prop :=
  ∀ values, ArePlain names values → ∀ known,
    StartsWithFields known (stencil.fill values) (Template.fillFields values known fields)
      (left.fill values)

def HasValue (names : List String) (stencil : Stencil) : Prop :=
  ∃ template left, Fits names false left ∧ left.length < stencil.length ∧
    ReadsValue names stencil template left

def HasItems (names : List String) (stencil : Stencil) : Prop :=
  ∃ items left, Fits names false left ∧ left.length < stencil.length ∧
    ReadsItems names stencil items left

def HasFields (names : List String) (stencil : Stencil) : Prop :=
  ∃ fields left, Fits names false left ∧ left.length < stencil.length ∧
    ReadsFields names stencil fields left

def ValueIsUniform (names : List String) (stencil : Stencil) : Prop :=
  ∀ ⦃values value rest⦄, ArePlain names values →
    StartsWithValue (stencil.fill values) value rest → HasValue names stencil

def ItemsAreUniform (names : List String) (stencil : Stencil) : Prop :=
  ∀ ⦃values items rest⦄, ArePlain names values →
    StartsWithItems (stencil.fill values) items rest → HasItems names stencil

def FieldsAreUniform (names : List String) (stencil : Stencil) : Prop :=
  ∀ ⦃values known all rest⦄, ArePlain names values →
    StartsWithFields known (stencil.fill values) all rest → HasFields names stencil

section

variable {others : Stencil} {value : Value} {rest : List Char}

theorem quoted_uniform (fits : Fits names true others) (plain : ArePlain names values)
    (starts : StartsWithValue ('"' :: others.fill values) value rest) :
    HasValue names (.keep '"' :: others) := by
  obtain ⟨characters, _, text⟩ := startsWithValue_text.mp starts
  obtain ⟨parts, left, fitsLeft, less, reads⟩ := text_uniform fits plain text
  refine ⟨.text parts, left, fitsLeft, Nat.lt_succ_of_lt less, ?_⟩
  intro values' plain'
  rw [Template.fill]
  exact startsWithValue_text.mpr ⟨_, rfl, reads values' plain'⟩

theorem list_uniform (fits : Fits names false others)
    (items : ItemsAreUniform names (skipCells others)) (plain : ArePlain names values)
    (starts : StartsWithValue ('[' :: others.fill values) value rest) :
    HasValue names (.keep '[' :: others) := by
  rcases startsWithValue_list.mp starts with ⟨closed, _⟩ | ⟨opened, _, _, starts⟩
  · obtain ⟨left, fitsLeft, less, _, closes⟩ := fits.mark closed (by decide)
    refine ⟨.list [], left, fitsLeft, Nat.lt_succ_of_lt less, ?_⟩
    intro values' _
    rw [Template.fill, Template.fillItems]
    exact startsWithValue_list.mpr (.inl ⟨closes values', rfl⟩)
  · rw [(fits.skip values).2] at starts opened
    obtain ⟨templates, left, fitsLeft, less, reads⟩ := items plain starts
    have shorter := Nat.lt_succ_of_le (length_skipCells_le others)
    refine ⟨.list templates, left, fitsLeft, Nat.lt_trans less shorter, ?_⟩
    intro values' plain'
    rw [Template.fill, fill_keep]
    refine startsWithValue_list.mpr (.inr ?_)
    rw [(fits.skip values').2, (fits.skip values).1.head?_fill values' values]
    exact ⟨opened, _, rfl, reads values' plain'⟩

theorem object_uniform (fits : Fits names false others)
    (fields : FieldsAreUniform names (skipCells others)) (plain : ArePlain names values)
    (starts : StartsWithValue ('\x7b' :: others.fill values) value rest) :
    HasValue names (.keep '\x7b' :: others) := by
  rcases startsWithValue_object.mp starts with ⟨closed, _⟩ | ⟨opened, _, _, starts⟩
  · obtain ⟨left, fitsLeft, less, _, closes⟩ := fits.mark closed (by decide)
    refine ⟨.object [], left, fitsLeft, Nat.lt_succ_of_lt less, ?_⟩
    intro values' _
    rw [Template.fill, Template.fillFields]
    exact startsWithValue_object.mpr (.inl ⟨closes values', rfl⟩)
  · rw [(fits.skip values).2] at starts opened
    obtain ⟨templates, left, fitsLeft, less, reads⟩ := fields plain starts
    have shorter := Nat.lt_succ_of_le (length_skipCells_le others)
    refine ⟨.object templates, left, fitsLeft, Nat.lt_trans less shorter, ?_⟩
    intro values' plain'
    rw [Template.fill, fill_keep]
    refine startsWithValue_object.mpr (.inr ?_)
    rw [(fits.skip values').2, (fits.skip values).1.head?_fill values' values]
    exact ⟨opened, _, rfl, reads values' plain' []⟩

theorem scalar_uniform (fits : Fits names false stencil)
    (other : ∀ values' : String → List Char, ∀ head ∈ (stencil.fill values').head?,
      head ≠ '"' ∧ head ≠ '[' ∧ head ≠ '\x7b')
    (starts : StartsWithValue (stencil.fill values) value rest) : HasValue names stencil := by
  obtain ⟨left, fitsLeft, less, reads⟩ :=
    fits.readsScalar ((startsWithValue_scalar (other values)).mp starts)
  refine ⟨.scalar value, left, fitsLeft, less, ?_⟩
  intro values' _
  rw [Template.fill]
  exact (startsWithValue_scalar (other values')).mpr (reads values')

end

theorem value_uniform (fits : Fits names false stencil)
    (items : HoldsBelow names false stencil (ItemsAreUniform names))
    (fields : HoldsBelow names false stencil (FieldsAreUniform names)) :
    ValueIsUniform names stencil := by
  intro values value rest plain starts
  rcases stencil with _ | ⟨character | name, others⟩
  · refine scalar_uniform fits ?_ starts
    intro values' head impossible
    cases impossible
  · have shorter := Nat.lt_succ_of_le (length_skipCells_le others)
    by_cases quote : character = '"'
    · subst quote
      exact quoted_uniform fits.opened plain starts
    have fitsOthers := fits.outside quote
    have fitsInside := (fitsOthers.skip values).1
    by_cases bracket : character = '['
    · subst bracket
      exact list_uniform fitsOthers (items _ shorter fitsInside) plain starts
    by_cases brace : character = '\x7b'
    · subst brace
      exact object_uniform fitsOthers (fields _ shorter fitsInside) plain starts
    · refine scalar_uniform fits ?_ starts
      intro values' head first
      cases first
      exact ⟨quote, bracket, brace⟩
  · exact fits.not_slot.elim

theorem items_uniform (value : ValueIsUniform names stencil)
    (items : HoldsBelow names false stencil (ItemsAreUniform names)) :
    ItemsAreUniform names stencil := by
  intro values _ rest plain starts
  obtain ⟨item, afterItem, startsItem, outcome⟩ := startsWithItems_iff.mp starts
  obtain ⟨template, left, fitsLeft, less, reads⟩ := value plain startsItem
  cases startsItem.rest_unique (reads values plain)
  rcases outcome with ⟨closed, _⟩ | ⟨next, others, separator, _, startsOthers⟩
  · obtain ⟨after, fitsAfter, shorter, _, closes⟩ := fitsLeft.mark closed (by decide)
    refine ⟨[template], after, fitsAfter, Nat.lt_trans shorter less, ?_⟩
    intro values' plain'
    rw [Template.fillItems, Template.fillItems]
    exact startsWithItems_iff.mpr
      ⟨_, _, reads values' plain', .inl ⟨closes values', rfl⟩⟩
  · obtain ⟨after, fitsAfter, shorter, rfl, separates⟩ := fitsLeft.mark separator (by decide)
    rw [(fitsAfter.skip values).2] at startsOthers
    have lessNext : (skipCells after).length < stencil.length :=
      Nat.lt_of_le_of_lt (length_skipCells_le after) (Nat.lt_trans shorter less)
    obtain ⟨templates, last, fitsLast, shorterLast, readsOthers⟩ :=
      items (skipCells after) lessNext (fitsAfter.skip values).1 plain startsOthers
    refine ⟨template :: templates, last, fitsLast, Nat.lt_trans shorterLast lessNext, ?_⟩
    intro values' plain'
    rw [Template.fillItems]
    refine startsWithItems_iff.mpr
      ⟨_, _, reads values' plain', .inr ⟨_, _, separates values', rfl, ?_⟩⟩
    rw [(fitsAfter.skip values').2]
    exact readsOthers values' plain'

theorem fields_uniform (fits : Fits names false stencil)
    (value : HoldsBelow names false stencil (ValueIsUniform names))
    (fields : HoldsBelow names false stencil (FieldsAreUniform names)) :
    FieldsAreUniform names stencil := by
  intro values known all rest plain starts
  obtain ⟨tail, characters, afterName, beforeValue, content, afterValue, first, name, colon,
    startsContent, outcome⟩ := startsWithFields_iff.mp starts
  rcases stencil with _ | ⟨character | slot, others⟩
  · cases first
  · obtain ⟨rfl, rfl⟩ := List.cons.inj first
    obtain ⟨nameParts, left, fitsLeft, less, readsName⟩ := text_uniform fits.opened plain name
    cases name.rest_unique (readsName values plain)
    obtain ⟨before, fitsBefore, shorter, rfl, parts⟩ := fitsLeft.mark colon (by decide)
    rw [(fitsBefore.skip values).2] at startsContent
    have lessBefore : (skipCells before).length < others.length :=
      Nat.lt_of_le_of_lt (length_skipCells_le before) (Nat.lt_trans shorter less)
    obtain ⟨template, after, fitsAfter, lessAfter, readsContent⟩ :=
      value _ (Nat.lt_succ_of_lt lessBefore) (fitsBefore.skip values).1 plain startsContent
    cases startsContent.rest_unique (readsContent values plain)
    -- The name, the colon and the content are read under all values.
    have field {values' : String → List Char} (plain' : ArePlain names values') :
        StartsWithText (fill values' others) (fill values' nameParts) (fill values' left) ∧
          skipBlanks (fill values' left) = ':' :: fill values' before ∧
          StartsWithValue (skipBlanks (fill values' before)) (template.fill values')
            (fill values' after) := by
      refine ⟨readsName values' plain', parts values', ?_⟩
      rw [(fitsBefore.skip values').2]
      exact readsContent values' plain'
    have shorterAfter : after.length < others.length := Nat.lt_trans lessAfter lessBefore
    rcases outcome with ⟨closed, _⟩ | ⟨next, separator, startsOthers⟩
    · obtain ⟨last, fitsLast, shorterLast, _, closes⟩ := fitsAfter.mark closed (by decide)
      refine ⟨[(nameParts, template)], last, fitsLast,
        Nat.lt_succ_of_lt (Nat.lt_trans shorterLast shorterAfter), ?_⟩
      intro values' plain' known
      obtain ⟨isName, isColon, isContent⟩ := field plain'
      rw [Template.fillFields, Template.fillFields]
      exact startsWithFields_iff.mpr ⟨_, _, _, _, _, _, rfl, isName, isColon, isContent,
        .inl ⟨closes values', rfl⟩⟩
    · obtain ⟨next, fitsNext, shorterNext, rfl, separates⟩ := fitsAfter.mark separator (by decide)
      rw [(fitsNext.skip values).2] at startsOthers
      have lessNext : (skipCells next).length < others.length :=
        Nat.lt_of_le_of_lt (length_skipCells_le next) (Nat.lt_trans shorterNext shorterAfter)
      obtain ⟨more, last, fitsLast, shorterLast, readsMore⟩ :=
        fields _ (Nat.lt_succ_of_lt lessNext) (fitsNext.skip values).1 plain startsOthers
      refine ⟨(nameParts, template) :: more, last, fitsLast,
        Nat.lt_succ_of_lt (Nat.lt_trans shorterLast lessNext), ?_⟩
      intro values' plain' known
      obtain ⟨isName, isColon, isContent⟩ := field plain'
      rw [Template.fillFields]
      refine startsWithFields_iff.mpr ⟨_, _, _, _, _, _, rfl, isName, isColon, isContent,
        .inr ⟨_, separates values', ?_⟩⟩
      rw [(fitsNext.skip values').2]
      exact readsMore values' plain' _
  · exact fits.not_slot.elim

/-- A stencil whose slots are quoted is read in the same way under all plain values. -/
theorem uniform (fits : Fits names false stencil) :
    ValueIsUniform names stencil ∧ ItemsAreUniform names stencil ∧
      FieldsAreUniform names stencil := by
  induction size : stencil.length using Nat.strongRecOn generalizing stencil with
  | ind size ih =>
    subst size
    have value := value_uniform fits
      (fun shorter less fits => (ih _ less fits rfl).2.1)
      (fun shorter less fits => (ih _ less fits rfl).2.2)
    refine ⟨value, ?_, ?_⟩
    · exact items_uniform value fun shorter less fits => (ih _ less fits rfl).2.1
    · exact fields_uniform fits (fun shorter less fits => (ih _ less fits rfl).1)
        fun shorter less fits => (ih _ less fits rfl).2.2

/-! ### Documents -/

theorem Fits.readsWhole {value : Value} (fits : Fits names false stencil)
    (plain : ArePlain names values) (success : readWhole (stencil.fill values) = .ok value) :
    ∃ template : Template, ∀ values', ArePlain names values' →
      readWhole (stencil.fill values') = .ok (template.fill values') := by
  obtain ⟨unmarked, rest, starts, finished⟩ := readWhole_eq_ok.mp success
  rw [(fits.skip values).2] at starts
  obtain ⟨template, left, fitsLeft, _, reads⟩ :=
    (uniform (fits.skip values).1).1 plain starts
  cases starts.rest_unique (reads values plain)
  refine ⟨template, fun values' plain' => readWhole_eq_ok.mpr ⟨?_, left.fill values', ?_, ?_⟩⟩
  · rw [fits.head?_fill values' values]
    exact unmarked
  · rw [(fits.skip values').2]
    exact reads values' plain'
  · have nothing := (fitsLeft.skip values).1.head?_fill values' values
    rw [← (fitsLeft.skip values).2, ← (fitsLeft.skip values').2, finished] at nothing
    exact List.head?_eq_none_iff.mp nothing

/-- A stencil that can be read as a document with some plain values can be read with all plain
values, as one template with these values in its slots. -/
theorem Fits.ofText {value : Value} (fits : Fits names false stencil)
    (plain : ArePlain names values)
    (success : Value.ofText (String.ofList (stencil.fill values)) = .ok value) :
    ∃ template : Template, ∀ values', ArePlain names values' →
      Value.ofText (String.ofList (stencil.fill values')) = .ok (template.fill values') := by
  have whole := mapError_eq_ok.mp success
  rw [String.toList_ofList] at whole
  obtain ⟨template, reads⟩ := fits.readsWhole plain whole
  refine ⟨template, fun values' plain' => mapError_eq_ok.mpr ?_⟩
  rw [String.toList_ofList]
  exact reads values' plain'

end Stencil

end Bestiary
