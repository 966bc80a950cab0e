import Bestiary.Proofs.Document.Entries
import Bestiary.Document.Value
import Bestiary.Validation.Record

/-!
What readers keep to, and what they read back.

Each reader has two facts. Whatever it reads meets the condition of the field:
`Keeps`. And what is written for a value that meets this condition is read as
that value. A record is read when all its fields are, so both facts of a record
come from those of its fields.
-/

namespace Bestiary.Validation

open Document

variable {α β γ : Type}

/-! ### Checks that succeed -/

namespace Checked

theorem map_eq_valid {check : Checked α} {change : α → β} {result : β} :
    check.map change = .valid result ↔ ∃ value, check = .valid value ∧ change value = result := by
  cases check with
  | valid value =>
      constructor
      · intro success
        exact ⟨value, rfl, Checked.valid.inj success⟩
      · rintro ⟨_, same, rfl⟩
        cases same
        rfl
  | invalid first others =>
      constructor
      · intro impossible
        cases impossible
      · rintro ⟨_, impossible, _⟩
        cases impossible

theorem functorMap_eq_valid {check : Checked α} {change : α → β} {result : β} :
    change <$> check = .valid result ↔ ∃ value, check = .valid value ∧ change value = result :=
  map_eq_valid

theorem seq_eq_valid {check : Checked (α → β)} {second : Checked α} {result : β} :
    check <*> second = .valid result ↔
      ∃ change value, check = .valid change ∧ second = .valid value ∧ change value = result := by
  cases check with
  | valid change =>
      constructor
      · intro success
        obtain ⟨value, given, same⟩ := map_eq_valid.mp success
        exact ⟨change, value, rfl, given, same⟩
      · rintro ⟨_, value, same, rfl, changed⟩
        cases same
        exact congrArg Checked.valid changed
  | invalid first others =>
      constructor
      · intro impossible
        cases impossible
      · rintro ⟨_, _, impossible, _⟩
        cases impossible

theorem seqLeft_eq_valid {check : Checked α} {second : Checked β} {result : α} :
    check <* second = .valid result ↔
      check = .valid result ∧ ∃ value, second = .valid value := by
  constructor
  · intro success
    obtain ⟨_, value, mapped, given, rfl⟩ := seq_eq_valid.mp success
    obtain ⟨first, accepted, rfl⟩ := functorMap_eq_valid.mp mapped
    exact ⟨accepted, value, given⟩
  · rintro ⟨rfl, value, rfl⟩
    rfl

theorem andThen_eq_valid {check : Checked α} {next : α → Checked β} {result : β} :
    check.andThen next = .valid result ↔
      ∃ value, check = .valid value ∧ next value = .valid result := by
  cases check with
  | valid value =>
      constructor
      · intro success
        exact ⟨value, rfl, success⟩
      · rintro ⟨_, same, success⟩
        cases same
        exact success
  | invalid first others =>
      constructor
      · intro impossible
        cases impossible
      · rintro ⟨_, impossible, _⟩
        cases impossible

theorem within_eq_valid {name : String} {check : Checked α} {result : α} :
    check.within name = .valid result ↔ check = .valid result := by
  cases check with
  | valid value => exact Iff.rfl
  | invalid first others =>
      constructor <;> intro impossible <;> cases impossible

theorem all_cons_eq_valid {check : Checked α} {others : List (Checked α)} {results : List α} :
    Checked.all (check :: others) = .valid results ↔
      ∃ first rest, check = .valid first ∧ Checked.all others = .valid rest ∧
        first :: rest = results := by
  constructor
  · intro success
    obtain ⟨_, rest, mapped, given, rfl⟩ := seq_eq_valid.mp success
    obtain ⟨first, accepted, rfl⟩ := map_eq_valid.mp mapped
    exact ⟨first, rest, accepted, given, rfl⟩
  · rintro ⟨first, rest, rfl, given, rfl⟩
    exact seq_eq_valid.mpr ⟨_, rest, rfl, given, rfl⟩

end Checked

open Checked

/-! ### What readers keep to -/

def Reader.Keeps (reader : Reader α) (condition : α → Prop) : Prop :=
  ∀ {input value}, reader input = .valid value → condition value

namespace Reader

variable {reader : Reader α} {condition : α → Prop}

theorem keeps_true : reader.Keeps fun _ => True :=
  fun _ => trivial

theorem intAtLeast_keeps (bound : Int) : (intAtLeast bound).Keeps (bound ≤ ·) := by
  intro input value success
  obtain ⟨number, _, checked⟩ := andThen_eq_valid.mp success
  by_cases low : number < bound
  · rw [if_pos low] at checked
    cases checked
  · rw [if_neg low] at checked
    cases checked
    exact Int.not_lt.mp low

theorem natAtLeast_keeps (bound : Nat) : (natAtLeast bound).Keeps (bound ≤ ·) := by
  intro input value success
  obtain ⟨number, accepted, rfl⟩ := map_eq_valid.mp success
  have atLeast : (bound : Int) ≤ number := intAtLeast_keeps bound accepted
  omega

theorem intBetween_keeps (low high : Int) :
    (intBetween low high).Keeps fun number => low ≤ number ∧ number ≤ high := by
  intro input value success
  obtain ⟨number, _, checked⟩ := andThen_eq_valid.mp success
  by_cases above : high < number
  · rw [if_pos above] at checked
    cases checked
  · rw [if_neg above] at checked
    by_cases below : number < low
    · rw [if_pos below] at checked
      cases checked
    · rw [if_neg below] at checked
      cases checked
      exact ⟨Int.not_lt.mp below, Int.not_lt.mp above⟩

theorem someText_keeps : someText.Keeps (·.isEmpty = false) := by
  intro input value success
  cases input with
  | text content =>
      rw [someText] at success
      split at success
      · cases success
      · rename_i nonempty
        cases success
        exact eq_false_of_ne_true nonempty
  | _ => cases success

theorem positiveFloat_keeps : positiveFloat.Keeps (Number.doubleOfInt 0 < ·) := by
  intro input value success
  obtain ⟨number, _, checked⟩ := andThen_eq_valid.mp success
  by_cases positive : Number.doubleOfInt 0 < number
  · rw [if_pos positive] at checked
    cases checked
    exact positive
  · rw [if_neg positive] at checked
    cases checked

theorem orNull_keeps (keeps : reader.Keeps condition) :
    (orNull reader).Keeps fun given => ∀ value, given = some value → condition value := by
  intro input given success value same
  subst same
  cases input with
  | null => cases success
  | _ =>
      obtain ⟨_, accepted, same⟩ := map_eq_valid.mp success
      cases same
      exact keeps accepted

theorem itemsFrom_keeps (keeps : reader.Keeps condition) {place : Nat} {items : List Value}
    {values : List α} (success : itemsFrom reader place items = .valid values) :
    ∀ value ∈ values, condition value := by
  induction items generalizing place values with
  | nil =>
      cases success
      exact List.forall_mem_nil condition
  | cons item others ih =>
      obtain ⟨_, rest, mapped, read, rfl⟩ := seq_eq_valid.mp success
      obtain ⟨first, accepted, rfl⟩ := map_eq_valid.mp mapped
      exact List.forall_mem_cons.mpr ⟨keeps (within_eq_valid.mp accepted), ih read⟩

theorem list_keeps (keeps : reader.Keeps condition) :
    (Reader.list reader).Keeps fun values => ∀ value ∈ values, condition value := by
  intro input values success
  cases input with
  | list items => exact itemsFrom_keeps keeps success
  | _ => cases success

theorem entries_keep {key : Reader α} {content : Reader β} {keyMeets : α → Prop}
    {contentMeets : β → Prop}
    (keepsKey : ∀ {name value}, key (.text name) = .valid value → keyMeets value)
    (keepsContent : content.Keeps contentMeets) {fields : List (String × Value)}
    {entries : List (α × β)}
    (success : Checked.all (fields.map (Reader.entry key content)) = .valid entries) :
    ∀ entry ∈ entries, keyMeets entry.1 ∧ contentMeets entry.2 := by
  induction fields generalizing entries with
  | nil =>
      cases success
      exact List.forall_mem_nil _
  | cons field others ih =>
      obtain ⟨first, rest, accepted, read, rfl⟩ := all_cons_eq_valid.mp success
      obtain ⟨_, value, mapped, readContent, rfl⟩ := seq_eq_valid.mp accepted
      obtain ⟨name, readKey, rfl⟩ := map_eq_valid.mp mapped
      have meetsKey : keyMeets name := keepsKey (within_eq_valid.mp (within_eq_valid.mp readKey))
      have meetsContent : contentMeets value := keepsContent (within_eq_valid.mp readContent)
      exact List.forall_mem_cons.mpr ⟨⟨meetsKey, meetsContent⟩, ih read⟩

theorem map_keeps [BEq α] [LawfulBEq α] {key : Reader α} {content : Reader β}
    {keyMeets : α → Prop} {contentMeets : β → Prop}
    (keepsKey : ∀ {name value}, key (.text name) = .valid value → keyMeets value)
    (keepsContent : content.Keeps contentMeets) :
    (Reader.map key content).Keeps fun entries =>
      (keysOf entries).Nodup ∧ ∀ entry ∈ entries, keyMeets entry.1 ∧ contentMeets entry.2 := by
  intro input entries success
  cases input with
  | object fields =>
      obtain ⟨read, accepted, rfl⟩ := map_eq_valid.mp success
      have meets := entries_keep keepsKey keepsContent accepted
      have empty : (keysOf ([] : List (α × β))).Nodup := List.Pairwise.nil
      constructor
      · exact nodup_setEntries empty read
      · intro entry member
        rcases mem_setEntries member with impossible | inRead
        · cases impossible
        · exact meets entry inRead
  | _ => cases success

theorem record_keeps {kindName : String} {body : Fields → Checked α}
    (keeps : ∀ {fields value}, body fields = .valid value → condition value) :
    (record kindName body).Keeps condition := by
  intro input value success
  cases input with
  | object fields => exact keeps success
  | _ => cases success

theorem tagged_eq_valid {field : String} {kinds : List (String × (Fields → Checked α))}
    {fields : Fields} {value : α} (success : tagged field kinds (.object fields) = .valid value) :
    ∃ word body, fields.lookup field = some (.text word) ∧ kinds.lookup word = some body ∧
      body fields = .valid value := by
  rw [tagged] at success
  cases found : fields.lookup field with
  | none =>
      rw [found] at success
      cases success
  | some tag =>
      rw [found] at success
      cases tag with
      | text word =>
          cases known : kinds.lookup word with
          | none =>
              simp only [known] at success
              cases success
          | some body =>
              simp only [known] at success
              exact ⟨word, body, rfl, known, within_eq_valid.mp success⟩
      | _ => cases success

theorem tagged_keeps {field : String} {kinds : List (String × (Fields → Checked α))}
    (keeps : ∀ kind ∈ kinds, ∀ {fields value}, kind.2 fields = .valid value → condition value) :
    (tagged field kinds).Keeps condition := by
  intro input value success
  cases input with
  | object fields =>
      obtain ⟨word, body, _, known, read⟩ := tagged_eq_valid success
      exact keeps (word, body) (mem_of_lookup known) read
  | _ => cases success

theorem tagged_of_lookup {field word : String} {kinds : List (String × (Fields → Checked α))}
    {body : Fields → Checked α} {fields : Fields} {value : α}
    (found : fields.lookup field = some (.text word)) (known : kinds.lookup word = some body)
    (reads : body fields = .valid value) : tagged field kinds (.object fields) = .valid value := by
  rw [tagged]
  simp only [found, known]
  exact within_eq_valid.mpr reads

end Reader

namespace Fields

variable {fields : Fields} {name : String} {reader : Reader α} {condition : α → Prop} {value : α}

theorem required_keeps (keeps : reader.Keeps condition)
    (success : fields.required name reader = .valid value) : condition value := by
  unfold required at success
  split at success
  · exact keeps (within_eq_valid.mp success)
  · cases success

theorem withDefault_keeps {default : α} (keeps : reader.Keeps condition)
    (usual : condition default)
    (success : fields.withDefault name default reader = .valid value) : condition value := by
  unfold withDefault at success
  split at success
  · exact keeps (within_eq_valid.mp success)
  · cases success
    exact usual

theorem optional_keeps {given : Option α} (keeps : reader.Keeps condition)
    (success : fields.withDefault name none (Reader.orNull reader) = .valid given) :
    ∀ value, given = some value → condition value := by
  apply withDefault_keeps (Reader.orNull_keeps keeps) _ success
  intro value impossible
  cases impossible

theorem required_of_lookup {content : Value} (found : fields.lookup name = some content)
    (reads : reader content = .valid value) : fields.required name reader = .valid value := by
  unfold required
  rw [found]
  exact within_eq_valid.mpr reads

theorem withDefault_of_lookup {content : Value} {default : α}
    (found : fields.lookup name = some content) (reads : reader content = .valid value) :
    fields.withDefault name default reader = .valid value := by
  unfold withDefault
  rw [found]
  exact within_eq_valid.mpr reads

theorem only_of_declared {declared : List String}
    (known : ∀ field ∈ fields, declared.contains field.1 = true) :
    fields.only declared = .valid () := by
  have none : (fields.filter fun field => !declared.contains field.1) = [] := by
    apply List.filter_eq_nil_iff.mpr
    intro field member undeclared
    rw [known field member] at undeclared
    cases undeclared
  rw [only, none]

end Fields

/-! ### What readers read back -/

namespace Reader

variable {reader : Reader α} {write : α → Value}

theorem int_int (number : Int) : int (.int number) = .valid number :=
  rfl

theorem text_text (content : String) : text (.text content) = .valid content :=
  rfl

theorem bool_bool (truth : Bool) : bool (.bool truth) = .valid truth :=
  rfl

theorem natAtLeast_ofNat {bound number : Nat} (enough : bound ≤ number) :
    natAtLeast bound (.ofNat number) = .valid number := by
  have notBelow : ¬(number : Int) < (bound : Int) := by omega
  unfold natAtLeast intAtLeast Value.ofNat
  rw [int_int, andThen, if_neg notBelow]
  rfl

theorem nat_ofNat (number : Nat) : nat (.ofNat number) = .valid number :=
  natAtLeast_ofNat (Nat.zero_le number)

theorem intBetween_int {low high number : Int} (above : low ≤ number) (below : number ≤ high) :
    intBetween low high (.int number) = .valid number := by
  rw [intBetween, int_int, andThen, if_neg (Int.not_lt.mpr below), if_neg (Int.not_lt.mpr above)]

theorem natBetween_ofNat {low high : Nat}
    (number : { number : Nat // low ≤ number ∧ number ≤ high }) :
    natBetween low high (.ofNat number) = .valid number := by
  obtain ⟨number, above, below⟩ := number
  have notAbove : ¬(high : Int) < (number : Int) := by omega
  have notBelow : ¬(number : Int) < (low : Int) := by omega
  rw [natBetween, Value.ofNat, int_int, andThen, dif_neg notAbove, dif_neg notBelow]
  rfl

theorem someText_text {content : String} (nonempty : content.isEmpty = false) :
    someText (.text content) = .valid content := by
  rw [someText, nonempty]
  rfl

theorem positiveFloat_float {number : Number.Binary64}
    (positive : Number.doubleOfInt 0 < number) :
    positiveFloat (.float number) = .valid number := by
  unfold positiveFloat float
  exact if_pos positive

theorem orNull_ofOption {given : Option α} (written : ∀ value, write value ≠ .null)
    (reads : ∀ value, given = some value → reader (write value) = .valid value) :
    orNull reader (.ofOption write given) = .valid given := by
  cases given with
  | none => rfl
  | some value =>
      have read : orNull reader (write value) = (reader (write value)).map some := by
        unfold orNull
        split
        · rename_i isNull
          exact absurd isNull (written value)
        · rfl
      rw [Value.ofOption, read, reads value rfl]
      rfl

theorem orNull_text (given : Option String) :
    orNull text (.ofOption .text given) = .valid given :=
  orNull_ofOption (fun _ => Value.noConfusion) fun content _ => text_text content

theorem orNull_int (given : Option Int) : orNull int (.ofOption .int given) = .valid given :=
  orNull_ofOption (fun _ => Value.noConfusion) fun number _ => int_int number

theorem itemsFrom_map {items : List α}
    (reads : ∀ item ∈ items, reader (write item) = .valid item) (place : Nat) :
    itemsFrom reader place (items.map write) = .valid items := by
  induction items generalizing place with
  | nil => rfl
  | cons item others ih =>
      obtain ⟨readsItem, readsOthers⟩ := List.forall_mem_cons.mp reads
      rw [List.map_cons, itemsFrom, readsItem, ih readsOthers]
      rfl

theorem list_map {items : List α} (reads : ∀ item ∈ items, reader (write item) = .valid item) :
    Reader.list reader (.list (items.map write)) = .valid items :=
  itemsFrom_map reads 0

theorem entries_map {key : Reader α} {content : Reader β} {writeKey : α → String}
    {writeContent : β → Value} {entries : List (α × β)}
    (reads : ∀ entry ∈ entries, key (.text (writeKey entry.1)) = .valid entry.1 ∧
      content (writeContent entry.2) = .valid entry.2) :
    Checked.all ((entries.map fun entry => (writeKey entry.1, writeContent entry.2)).map
      (Reader.entry key content)) = .valid entries := by
  induction entries with
  | nil => rfl
  | cons entry others ih =>
      obtain ⟨⟨readsKey, readsContent⟩, readsOthers⟩ := List.forall_mem_cons.mp reads
      refine all_cons_eq_valid.mpr ⟨entry, others, ?_, ih readsOthers, rfl⟩
      unfold Reader.entry
      rw [readsKey, readsContent]
      rfl

theorem map_object [BEq α] [LawfulBEq α] {key : Reader α} {content : Reader β}
    {writeKey : α → String} {writeContent : β → Value} {entries : List (α × β)}
    (distinct : (keysOf entries).Nodup)
    (reads : ∀ entry ∈ entries, key (.text (writeKey entry.1)) = .valid entry.1 ∧
      content (writeContent entry.2) = .valid entry.2) :
    Reader.map key content
      (.object (entries.map fun entry => (writeKey entry.1, writeContent entry.2))) =
        .valid entries := by
  rw [Reader.map, entries_map reads]
  exact congrArg Checked.valid (setEntries_distinct distinct)

/-- A reader reads back what is written for the values that it may read. -/
structure Inverts (reader : Reader α) (write : α → Value) (condition : α → Prop) : Prop where
  keeps : reader.Keeps condition
  reads : ∀ value, condition value → reader (write value) = .valid value

theorem text_inverts : text.Inverts .text fun _ => True :=
  ⟨keeps_true, fun content _ => text_text content⟩

theorem someText_inverts : someText.Inverts .text (·.isEmpty = false) :=
  ⟨someText_keeps, fun _ => someText_text⟩

theorem int_inverts : int.Inverts .int fun _ => True :=
  ⟨keeps_true, fun number _ => int_int number⟩

theorem natAtLeast_inverts (bound : Nat) : (natAtLeast bound).Inverts .ofNat (bound ≤ ·) :=
  ⟨natAtLeast_keeps bound, fun _ => natAtLeast_ofNat⟩

theorem nat_inverts : nat.Inverts .ofNat fun _ => True :=
  ⟨keeps_true, fun number _ => nat_ofNat number⟩

theorem intBetween_inverts (low high : Int) :
    (intBetween low high).Inverts .int fun number => low ≤ number ∧ number ≤ high :=
  ⟨intBetween_keeps low high, fun _ range => intBetween_int range.1 range.2⟩

theorem list_inverts {condition : α → Prop} (inverts : reader.Inverts write condition) :
    (Reader.list reader).Inverts (fun items => .list (items.map write))
      fun items => ∀ item ∈ items, condition item :=
  ⟨list_keeps inverts.keeps,
    fun _ meets => list_map fun item member => inverts.reads item (meets item member)⟩

end Reader

end Bestiary.Validation
