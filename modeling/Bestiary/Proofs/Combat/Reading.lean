import Bestiary.Combat.Reader
import Bestiary.Combat.Writer
import Bestiary.Proofs.Dice.Reading
import Bestiary.Proofs.Rules.Spelling
import Bestiary.Proofs.Validation.Reading

/-!
Attacks, effects, riders and usage limits are read back from what is written.

What was read is readable: its numbers are in their ranges and its dice are
dice that notation can name. What is readable is read back from its value, if
its dice can be written at all. The short forms that riders and limits may be
written in do not match a value that is written in full.
-/

namespace Bestiary

open Document Validation Checked

theorem Dice.read_keeps : Dice.read.Keeps Dice.IsReadable := by
  intro input dice success
  cases input with
  | text content =>
      rw [Dice.read] at success
      split at success
      · rename_i found read
        cases success
        exact ofText_readable read
      · cases success
  | _ => cases success

theorem Dice.read_toValue {dice : Dice} (readable : dice.IsReadable)
    (writable : dice.isWritable = true) : Dice.read dice.toValue = .valid dice := by
  have read : Dice.ofText dice.render = .ok dice :=
    ofText_render readable (Bool.and_eq_true_iff.mp writable).2
  rw [Dice.toValue, Dice.read, read]

/-! ### Bonuses and attack rolls -/

theorem BonusSource.not_integer (source : BonusSource) :
    ∃ fault, Number.integerOfText source.word = .error fault := by
  cases source with
  | ability ability => cases ability <;> exact ⟨_, rfl⟩
  | _ => exact ⟨_, rfl⟩

theorem Bonus.read_toValue (bonus : Bonus) : Bonus.read bonus.toValue = .valid bonus := by
  cases bonus with
  | fixed amount => rfl
  | modifier source =>
      obtain ⟨fault, notInteger⟩ := source.not_integer
      have refused : (Reader.int (.ofMember source)).map Bonus.fixed =
          .fail (Reader.integerIssue fault) (.ofMember source) := by
        change (Reader.int (.text source.word)).map Bonus.fixed = _
        rw [Reader.int, notInteger]
        rfl
      have accepted : (Reader.word BonusSource (.ofMember source)).map Bonus.modifier =
          .valid (.modifier source) := by
        rw [LawfulVocabulary.read_ofMember]
        rfl
      rw [Bonus.toValue, Bonus.read, Reader.either, refused, accepted]
      rfl

theorem orNull_ofNat {bound : Nat} {given : Option Nat}
    (enough : ∀ number, given = some number → bound ≤ number) :
    Reader.orNull (Reader.natAtLeast bound) (.ofOption .ofNat given) = .valid given :=
  Reader.orNull_ofOption (fun _ => Value.noConfusion)
    fun number same => Reader.natAtLeast_ofNat (enough number same)

theorem orNull_ofMember {α : Type} [Vocabulary α] [LawfulVocabulary α] (given : Option α) :
    Reader.orNull (Reader.word α) (.ofOption .ofMember given) = .valid given :=
  Reader.orNull_ofOption (fun _ => Value.noConfusion)
    fun member _ => LawfulVocabulary.read_ofMember member

theorem Attack.read_toValue (attack : Attack) : Attack.read attack.toValue = .valid attack := by
  have distance (given : Option Nat) :
      Reader.orNull Reader.nat (.ofOption .ofNat given) = .valid given :=
    orNull_ofNat fun number _ => Nat.zero_le number
  rw [Attack.toValue, Attack.read, Reader.record,
    Fields.withDefault_of_lookup rfl (orNull_ofMember attack.kind),
    Fields.withDefault_of_lookup rfl attack.bonus.read_toValue,
    Fields.withDefault_of_lookup rfl (Reader.int_int attack.magic),
    Fields.withDefault_of_lookup rfl (distance attack.reach),
    Fields.withDefault_of_lookup rfl (distance attack.range),
    Fields.withDefault_of_lookup rfl (distance attack.longRange),
    Fields.withDefault_of_lookup rfl (Reader.text_text attack.target)]
  rfl

/-! ### Effects -/

namespace Effect

def dice : Effect → List Dice
  | damage rolled => [rolled.dice]
  | fixedDamage _ | special _ => []
  | alternative rolled => [rolled.dice, rolled.alternateDice]
  | save rolled => [rolled.dice]

def difficulty? : Effect → Option Nat
  | save rolled => rolled.dc
  | _ => none

structure IsReadable (effect : Effect) : Prop where
  dice : ∀ dice ∈ effect.dice, dice.IsReadable
  difficulty : ∀ difficulty, effect.difficulty? = some difficulty → 1 ≤ difficulty

theorem readDamage_readable {fields : Fields} {effect : Effect}
    (success : readDamage fields = .valid effect) : effect.IsReadable := by
  simp only [readDamage, seqLeft_eq_valid, seq_eq_valid, functorMap_eq_valid] at success
  obtain ⟨⟨_, bonus, ⟨_, damageType, ⟨dice, readDice, rfl⟩, _, rfl⟩, _, rfl⟩, _⟩ := success
  have readable : dice.IsReadable := Fields.required_keeps Dice.read_keeps readDice
  exact ⟨List.forall_mem_singleton.mpr readable, fun _ => nofun⟩

theorem readFixedDamage_readable {fields : Fields} {effect : Effect}
    (success : readFixedDamage fields = .valid effect) : effect.IsReadable := by
  simp only [readFixedDamage, seqLeft_eq_valid, seq_eq_valid, functorMap_eq_valid] at success
  obtain ⟨⟨_, bonus, ⟨_, damageType, ⟨amount, _, rfl⟩, _, rfl⟩, _, rfl⟩, _⟩ := success
  exact ⟨List.forall_mem_nil _, fun _ => nofun⟩

theorem readSpecial_readable {fields : Fields} {effect : Effect}
    (success : readSpecial fields = .valid effect) : effect.IsReadable := by
  simp only [readSpecial, seqLeft_eq_valid, functorMap_eq_valid] at success
  obtain ⟨⟨text, _, rfl⟩, _⟩ := success
  exact ⟨List.forall_mem_nil _, fun _ => nofun⟩

theorem readAlternative_readable {fields : Fields} {effect : Effect}
    (success : readAlternative fields = .valid effect) : effect.IsReadable := by
  simp only [readAlternative, seqLeft_eq_valid, seq_eq_valid, functorMap_eq_valid] at success
  obtain ⟨⟨_, bonus, ⟨_, condition, ⟨_, alternateType, ⟨_, alternateDice, ⟨_, damageType,
    ⟨dice, readDice, rfl⟩, _, rfl⟩, readAlternate, rfl⟩, _, rfl⟩, _, rfl⟩, _, rfl⟩, _⟩ := success
  have readable : dice.IsReadable := Fields.required_keeps Dice.read_keeps readDice
  have alternate : alternateDice.IsReadable :=
    Fields.required_keeps Dice.read_keeps readAlternate
  exact ⟨List.forall_mem_cons.mpr ⟨readable, List.forall_mem_singleton.mpr alternate⟩,
    fun _ => nofun⟩

theorem readSave_readable {fields : Fields} {effect : Effect}
    (success : readSave fields = .valid effect) : effect.IsReadable := by
  simp only [readSave, seqLeft_eq_valid, seq_eq_valid, functorMap_eq_valid] at success
  obtain ⟨⟨_, area, ⟨_, half, ⟨_, bonus, ⟨_, dc, ⟨_, damageType, ⟨_, dice, ⟨ability, _, rfl⟩,
    readDice, rfl⟩, _, rfl⟩, readDifficulty, rfl⟩, _, rfl⟩, _, rfl⟩, _, rfl⟩, _⟩ := success
  have readable : dice.IsReadable := Fields.required_keeps Dice.read_keeps readDice
  have difficulty : ∀ number, dc = some number → 1 ≤ number :=
    Fields.optional_keeps (Reader.natAtLeast_keeps 1) readDifficulty
  exact ⟨List.forall_mem_singleton.mpr readable, difficulty⟩

theorem read_keeps : Effect.read.Keeps IsReadable := by
  apply Reader.tagged_keeps
  intro kind known fields effect success
  simp only [List.mem_cons, List.not_mem_nil, or_false] at known
  rcases known with rfl | rfl | rfl | rfl | rfl
  · exact readDamage_readable success
  · exact readFixedDamage_readable success
  · exact readSpecial_readable success
  · exact readAlternative_readable success
  · exact readSave_readable success

theorem read_damage {notated : String} {dice : Dice} (read : Dice.ofText notated = .ok dice) :
    Effect.read (.object [("effect", .text "damage"), ("dice", .text notated),
      ("damage_type", .text "bludgeoning")]) =
        .valid (.damage { dice := dice, damageType := .bludgeoning }) := by
  have readDice : Dice.read (.text notated) = .valid dice := by
    rw [Dice.read, read]
  refine Reader.tagged_of_lookup rfl rfl ?_
  rw [readDamage, Fields.required_of_lookup rfl readDice]
  rfl

theorem read_toValue {effect : Effect} (readable : effect.IsReadable)
    (writable : ∀ dice ∈ effect.dice, dice.isWritable = true) :
    Effect.read effect.toValue = .valid effect := by
  have readsDice (dice : Dice) (member : dice ∈ effect.dice) :
      Dice.read dice.toValue = .valid dice :=
    Dice.read_toValue (readable.dice dice member) (writable dice member)
  cases effect with
  | damage rolled =>
      refine Reader.tagged_of_lookup rfl rfl ?_
      rw [readDamage, Fields.required_of_lookup rfl (readsDice rolled.dice (.head _)),
        Fields.required_of_lookup rfl (LawfulVocabulary.read_ofMember rolled.damageType),
        Fields.withDefault_of_lookup rfl rolled.bonus.read_toValue]
      rfl
  | fixedDamage flat =>
      refine Reader.tagged_of_lookup rfl rfl ?_
      rw [readFixedDamage, Fields.required_of_lookup rfl (Reader.nat_ofNat flat.amount),
        Fields.required_of_lookup rfl (LawfulVocabulary.read_ofMember flat.damageType),
        Fields.withDefault_of_lookup rfl flat.bonus.read_toValue]
      rfl
  | special text =>
      refine Reader.tagged_of_lookup rfl rfl ?_
      rw [readSpecial, Fields.required_of_lookup rfl (Reader.text_text text)]
      rfl
  | alternative rolled =>
      refine Reader.tagged_of_lookup rfl rfl ?_
      rw [readAlternative, Fields.required_of_lookup rfl (readsDice rolled.dice (.head _)),
        Fields.required_of_lookup rfl (LawfulVocabulary.read_ofMember rolled.damageType),
        Fields.required_of_lookup rfl (readsDice rolled.alternateDice (.tail _ (.head _))),
        Fields.withDefault_of_lookup rfl (orNull_ofMember rolled.alternateType),
        Fields.required_of_lookup rfl (Reader.text_text rolled.condition),
        Fields.withDefault_of_lookup rfl rolled.bonus.read_toValue]
      rfl
  | save rolled =>
      refine Reader.tagged_of_lookup rfl rfl ?_
      rw [readSave, Fields.required_of_lookup rfl (LawfulVocabulary.read_ofMember rolled.ability),
        Fields.required_of_lookup rfl (readsDice rolled.dice (.head _)),
        Fields.required_of_lookup rfl (LawfulVocabulary.read_ofMember rolled.damageType),
        Fields.withDefault_of_lookup rfl (orNull_ofNat readable.difficulty),
        Fields.withDefault_of_lookup rfl rolled.bonus.read_toValue,
        Fields.withDefault_of_lookup rfl (Reader.bool_bool rolled.half),
        Fields.withDefault_of_lookup rfl (Reader.bool_bool rolled.area)]
      rfl

end Effect

/-! ### Riders -/

namespace Rider

/-- A rider in full is not taken for an effect in its place: what its field holds is no word. -/
theorem unabridged_toValue (rider : Rider) : unabridged rider.toValue = rider.toValue := by
  obtain ⟨join, effect⟩ := rider
  cases effect <;> rfl

theorem read_keeps : Rider.read.Keeps fun rider => rider.effect.IsReadable := by
  intro input rider success
  have keeps : Reader.Keeps (Reader.record "Rider" fun fields =>
      Rider.mk
        <$> fields.withDefault "join" .plus (Reader.word RiderJoin)
        <*> fields.required "effect" Effect.read
        <* fields.only ["join", "effect"]) fun rider => rider.effect.IsReadable := by
    apply Reader.record_keeps
    intro fields rider success
    simp only [seqLeft_eq_valid, seq_eq_valid, functorMap_eq_valid] at success
    obtain ⟨⟨_, effect, ⟨join, _, rfl⟩, readEffect, rfl⟩, _⟩ := success
    exact Fields.required_keeps Effect.read_keeps readEffect
  exact keeps success

theorem read_toValue {rider : Rider} (readable : rider.effect.IsReadable)
    (writable : ∀ dice ∈ rider.effect.dice, dice.isWritable = true) :
    Rider.read rider.toValue = .valid rider := by
  rw [Rider.read, unabridged_toValue, Rider.toValue, Reader.record,
    Fields.withDefault_of_lookup rfl (LawfulVocabulary.read_ofMember rider.join),
    Fields.required_of_lookup rfl (Effect.read_toValue readable writable)]
  rfl

theorem list_toValue {riders : List Rider}
    (readable : ∀ rider ∈ riders, rider.effect.IsReadable)
    (writable : ∀ dice ∈ riders.flatMap (·.effect.dice), dice.isWritable = true) :
    Reader.list Rider.read (.list (riders.map toValue)) = .valid riders := by
  apply Reader.list_map
  intro rider member
  apply read_toValue (readable rider member)
  intro dice inEffect
  exact writable dice (List.mem_flatMap.mpr ⟨rider, member, inEffect⟩)

end Rider

/-! ### Usage limits -/

namespace Usage

def IsReadable : Usage → Prop
  | recharge least => 1 ≤ least ∧ least ≤ 6
  | perDay times | perTurn times => 1 ≤ times
  | rest noted => ∀ times, noted = some times → 1 ≤ times

theorem ofParts_readable {kind : UsageKind} {value : Option Nat} {usage : Usage}
    (enough : ∀ number, value = some number → 1 ≤ number)
    (success : ofParts kind value = .ok usage) : usage.IsReadable := by
  cases kind with
  | rest =>
      cases value <;> cases success <;> exact enough
  | recharge =>
      cases value with
      | none => cases success
      | some least =>
          by_cases above : 6 < least
          · simp only [ofParts, if_pos above] at success
            cases success
          · simp only [ofParts, if_neg above] at success
            cases success
            exact ⟨enough least rfl, Nat.not_lt.mp above⟩
  | perDay | perTurn =>
      cases value with
      | none => cases success
      | some times =>
          cases success
          exact enough times rfl

theorem ofParts_kind_value {usage : Usage} (readable : usage.IsReadable) :
    ofParts usage.kind usage.value? = .ok usage := by
  cases usage with
  | recharge least =>
      change (if 6 < least then _ else _) = _
      rw [if_neg (Nat.not_lt.mpr readable.2)]
  | perDay _ | perTurn _ | rest _ => rfl

theorem value_positive {usage : Usage} (readable : usage.IsReadable) (number : Nat)
    (given : usage.value? = some number) : 1 ≤ number := by
  cases usage with
  | recharge least =>
      cases given
      exact readable.1
  | perDay times | perTurn times =>
      cases given
      exact readable
  | rest noted => exact readable number given

theorem read_keeps : Usage.read.Keeps IsReadable := by
  intro input usage success
  obtain ⟨⟨kind, value⟩, readParts, success⟩ := andThen_eq_valid.mp success
  have keeps : Reader.Keeps (Reader.record "Usage" fun fields =>
      Prod.mk
        <$> fields.required "kind" (Reader.word UsageKind)
        <*> fields.withDefault "value" none (Reader.orNull (Reader.natAtLeast 1))
        <* fields.only ["kind", "value"])
      fun parts => ∀ number, parts.2 = some number → 1 ≤ number := by
    apply Reader.record_keeps
    intro fields parts success
    simp only [seqLeft_eq_valid, seq_eq_valid, functorMap_eq_valid] at success
    obtain ⟨⟨_, value, ⟨kind, _, rfl⟩, readValue, rfl⟩, _⟩ := success
    exact Fields.optional_keeps (Reader.natAtLeast_keeps 1) readValue
  have enough : ∀ number, value = some number → 1 ≤ number := keeps readParts
  cases made : ofParts kind value with
  | ok made' =>
      simp only [made] at success
      cases success
      exact ofParts_readable enough made
  | error reason =>
      simp only [made] at success
      cases success

theorem read_toValue {usage : Usage} (readable : usage.IsReadable) :
    Usage.read usage.toValue = .valid usage := by
  have parts : (Reader.record "Usage" fun fields =>
      Prod.mk
        <$> fields.required "kind" (Reader.word UsageKind)
        <*> fields.withDefault "value" none (Reader.orNull (Reader.natAtLeast 1))
        <* fields.only ["kind", "value"]) (unabridged usage.toValue) =
      .valid (usage.kind, usage.value?) := by
    change Reader.record _ _ (.object [_, _]) = _
    rw [Reader.record, Fields.required_of_lookup rfl (LawfulVocabulary.read_ofMember usage.kind),
      Fields.withDefault_of_lookup rfl (orNull_ofNat (value_positive readable))]
    rfl
  rw [Usage.read, parts, andThen]
  simp only [ofParts_kind_value readable]

theorem orNull_read {usage : Option Usage}
    (readable : ∀ limit, usage = some limit → limit.IsReadable) :
    Reader.orNull Usage.read (.ofOption Usage.toValue usage) = .valid usage :=
  Reader.orNull_ofOption (fun _ => Value.noConfusion)
    fun limit same => read_toValue (readable limit same)

end Usage

end Bestiary
