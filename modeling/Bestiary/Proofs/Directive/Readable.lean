import Bestiary.Directive.Form
import Bestiary.Directive.Writer
import Bestiary.Proofs.Combat.Reading
import Bestiary.Proofs.Number.Numeral

/-!
What is known of a directive that was read.

Readers refuse what is outside the range of a field, so the names in a
directive that was read are not empty, its counts are positive, its dice can be
named by notation, and no key stands twice in its maps.
-/

namespace Bestiary

open Document Validation Checked

/-! ### Parts of directives -/

structure NamedEntry.IsReadable (entry : NamedEntry) : Prop where
  name : entry.name.isEmpty = false
  usage : ∀ usage, entry.usage = some usage → usage.IsReadable

structure AttackEntry.IsReadable (entry : AttackEntry) : Prop where
  name : entry.name.isEmpty = false
  effect : entry.effect.IsReadable
  riders : ∀ rider ∈ entry.riders, rider.effect.IsReadable
  usage : ∀ usage, entry.usage = some usage → usage.IsReadable

def WeaponExpectation.IsReadable : WeaponExpectation → Prop
  | attack _ _ => True
  | effect _ expected => expected.IsReadable

structure LegendaryAction.IsReadable (action : LegendaryAction) : Prop where
  name : action.name.isEmpty = false
  cost : 1 ≤ action.cost

/-- A map whose keys are different integers that text can spell. -/
structure IsNumbered {α : Type} (entries : List (Int × α)) : Prop where
  distinct : (keysOf entries).Nodup
  short : ∀ entry ∈ entries, Number.IsShort entry.1

structure IsBySpellLevel {α : Type} (entries : List (Int × α)) : Prop where
  numbered : IsNumbered entries
  levels : ∀ entry ∈ entries, 1 ≤ entry.1 ∧ entry.1 ≤ 9

structure Spellcasting.IsReadable (casting : Spellcasting) : Prop where
  className : casting.className.isEmpty = false
  spells : IsBySpellLevel casting.spells
  slots : ∀ slots, casting.slots = some slots → IsBySpellLevel slots
  saveDC : ∀ difficulty, casting.saveDC = some difficulty → 1 ≤ difficulty

structure InnateSpellcasting.IsReadable (casting : InnateSpellcasting) : Prop where
  perDay : IsNumbered casting.perDay
  saveDC : ∀ difficulty, casting.saveDC = some difficulty → 1 ≤ difficulty

/-! ### Directives -/

namespace Directive

/-- The conditions that the readers of all its fields put on a directive. -/
def IsReadable : Directive → Prop
  | version minimum maximum =>
      Number.doubleOfInt 0 < minimum ∧ ∀ last, maximum = some last → Number.doubleOfInt 0 < last
  | inclusion reference arguments => reference.isEmpty = false ∧ (keysOf arguments).Nodup
  | name given | subject _ given | customType given | customAlignment given | speed given _
  | customDamage _ given | sense given _ | overrideDescription given _ | remove _ given =>
      given.isEmpty = false
  | hitDiceCount count | hitPoints count => 1 ≤ count
  | abilityScore _ score => 1 ≤ score ∧ score ≤ 30
  | weapon entry => ∀ rider ∈ entry.riders, rider.effect.IsReadable
  | attack entry => entry.IsReadable
  | overrideWeaponEffect _ effect => effect.IsReadable
  | expectWeapon expectation => expectation.IsReadable
  | action entry | feature entry | reaction entry => entry.IsReadable
  | legendaryActions count actions _ => 1 ≤ count ∧ ∀ action ∈ actions, action.IsReadable
  | spellcasting casting => casting.IsReadable
  | innateSpellcasting casting => casting.IsReadable
  | _ => True

def dice : Directive → List Dice
  | weapon entry => entry.riders.flatMap (·.effect.dice)
  | attack entry => entry.effect.dice ++ entry.riders.flatMap (·.effect.dice)
  | overrideWeaponEffect _ effect => effect.dice
  | expectWeapon (.effect _ effect) => effect.dice
  | _ => []

end Directive

/-! ### Readers of parts -/

theorem Die.read_inverts : Die.read.Inverts (fun die => .text die.render) fun _ => True := by
  refine ⟨Reader.keeps_true, fun die _ => ?_⟩
  cases die <;> rfl

theorem Rating.ratioOfText_text (rating : Rating) :
    (Number.ratioOfText (Text.trim rating.text)).toOption = some rating.value := by
  obtain ⟨place⟩ := rating
  revert place
  decide +kernel

theorem Rating.ofValue?_value (rating : Rating) : Rating.ofValue? rating.value = some rating := by
  obtain ⟨place⟩ := rating
  revert place
  decide

theorem Rating.read_inverts : Rating.read.Inverts Rating.toValue fun _ => True := by
  refine ⟨Reader.keeps_true, fun rating _ => ?_⟩
  have read : Number.ratioOfText (Text.trim rating.text) = .ok rating.value :=
    eq_ok_of_toOption rating.ratioOfText_text
  unfold Rating.toValue Rating.read
  simp only [Value.plain, read, rating.ofValue?_value]

theorem LawfulVocabulary.word_inverts (α : Type) [Vocabulary α] [LawfulVocabulary α] :
    (Reader.word α).Inverts .ofMember fun _ => True :=
  ⟨Reader.keeps_true, fun member _ => read_ofMember member⟩

namespace Validation.Reader

theorem oneOrMany_inverts {α : Type} {reader : Reader α} {write : α → Value}
    (inverts : reader.Inverts write fun _ => True) :
    (oneOrMany reader).Inverts (fun items => .list (items.map write)) fun _ => True :=
  ⟨keeps_true, fun items _ => (list_inverts inverts).reads items fun _ _ => trivial⟩

theorem intKey_text {number : Int} (short : Number.IsShort number) :
    int (.text (Number.showInt number)) = .valid number := by
  rw [int, Number.integerOfText_showInt short]

theorem intKey_short {name : String} {number : Int} (success : int (.text name) = .valid number) :
    Number.IsShort number := by
  rw [int] at success
  split at success
  · rename_i read
    cases success
    exact Number.isShort_of_integerOfText read
  · cases success

theorem intMap_inverts {α : Type} {reader : Reader α} {write : α → Value}
    (inverts : reader.Inverts write fun _ => True) :
    (Reader.map int reader).Inverts (.ofIntMap write) IsNumbered := by
  constructor
  · intro input entries success
    obtain ⟨distinct, meets⟩ := map_keeps intKey_short inverts.keeps success
    exact ⟨distinct, fun entry member => (meets entry member).1⟩
  · intro entries numbered
    apply map_object numbered.distinct
    intro entry member
    exact ⟨intKey_text (numbered.short entry member), inverts.reads entry.2 trivial⟩

theorem bySpellLevel_inverts {α : Type} {reader : Reader α} {write : α → Value}
    (inverts : reader.Inverts write fun _ => True) :
    (bySpellLevel reader).Inverts (.ofIntMap write) IsBySpellLevel := by
  constructor
  · intro input entries success
    obtain ⟨_, read, checked⟩ := andThen_eq_valid.mp success
    split at checked
    · cases checked
    · rename_i inRange
      cases checked
      refine ⟨(intMap_inverts inverts).keeps read, fun entry member => ?_⟩
      have notOutside : ¬(entry.1 < 1 ∨ 9 < entry.1) := by
        intro outside
        apply inRange
        apply List.any_eq_true.mpr
        refine ⟨entry, member, ?_⟩
        rw [Bool.or_eq_true, decide_eq_true_eq, decide_eq_true_eq]
        exact outside
      omega
  · intro entries leveled
    have inRange : (entries.any fun entry => decide (entry.1 < 1) || decide (9 < entry.1)) =
        false := by
      apply List.any_eq_false.mpr
      intro entry member outside
      have range := leveled.levels entry member
      simp only [Bool.or_eq_true, decide_eq_true_eq] at outside
      omega
    rw [bySpellLevel, (intMap_inverts inverts).reads entries leveled.numbered, andThen, inRange]
    rfl

end Validation.Reader

/-- No type of damage is called "all", so the words for some types do not stand for every type. -/
theorem DamageType.readSome_inverts :
    DamageType.readSome.Inverts .ofMembers fun _ => True := by
  refine ⟨Reader.keeps_true, fun types _ => ?_⟩
  have read : Reader.list (Reader.word DamageType) (.ofMembers types) = .valid types :=
    Reader.list_map fun type _ => LawfulVocabulary.read_ofMember type
  refine (if_neg (ne_true_of_eq_false (List.any_eq_false.mpr ?_))).trans read
  intro item member
  obtain ⟨type, _, rfl⟩ := List.mem_map.mp member
  cases type <;> decide

theorem IncludeArgument.read_toValue (argument : IncludeArgument) :
    IncludeArgument.read argument.toValue = .valid argument := by
  cases argument <;> rfl

theorem LegendaryAction.read_inverts :
    LegendaryAction.read.Inverts LegendaryAction.toValue IsReadable := by
  constructor
  · apply Reader.record_keeps
    intro fields action success
    simp only [seqLeft_eq_valid, seq_eq_valid, functorMap_eq_valid] at success
    obtain ⟨⟨_, cost, ⟨_, description, ⟨name, readName, rfl⟩, _, rfl⟩, readCost, rfl⟩, _⟩ :=
      success
    have nonempty := Fields.required_keeps Reader.someText_keeps readName
    have atLeast : 1 ≤ cost :=
      Fields.withDefault_keeps (Reader.natAtLeast_keeps 1) (Nat.le_refl 1) readCost
    exact ⟨nonempty, atLeast⟩
  · intro action readable
    rw [LegendaryAction.toValue, LegendaryAction.read, Reader.record,
      Fields.required_of_lookup rfl (Reader.someText_text readable.name),
      Fields.required_of_lookup rfl (Reader.text_text action.description),
      Fields.withDefault_of_lookup rfl (Reader.natAtLeast_ofNat readable.cost)]
    rfl

end Bestiary
