import Bestiary.Proofs.Directive.Readable

/-!
The forms of directives are faithful to what they read.

A directive that a form reads carries the tag of the form and is readable, its
fields are those that the form declares, and from these fields the form reads
the same directive again. Each form is proved to be faithful by taking its
readers one by one: what each has read, it reads back.
-/

namespace Bestiary

open Document Validation Checked

namespace Directive

def allFields (directive : Directive) : Fields :=
  ("directive", .text directive.tag) :: directive.fields

def HasWritableDice (directive : Directive) : Prop :=
  ∀ dice ∈ directive.dice, dice.isWritable = true

/-- What holds of a form and a directive that it reads. -/
structure Form.Reads (form : Form) (directive : Directive) : Prop where
  tag : directive.tag = form.tag
  fieldNames : keysOf directive.fields = form.fieldNames
  readable : directive.IsReadable
  again : directive.HasWritableDice → form.read directive.allFields = .valid directive

def Form.IsFaithful (form : Form) : Prop :=
  ∀ (fields : Fields) (directive : Directive),
    form.read fields = .valid directive → form.Reads directive

namespace Form

/-! ### Kinds of forms -/

section Kinds

variable {α : Type} {tag fieldName : String} {fieldNames : List String}

theorem only_allFields {directive : Directive} (named : keysOf directive.fields = fieldNames) :
    directive.allFields.only ("directive" :: fieldNames) = .valid () := by
  apply Fields.only_of_declared
  intro field member
  rcases List.mem_cons.mp member with rfl | member
  · exact List.contains_iff_mem.mpr (.head fieldNames)
  · have declared : field.1 ∈ fieldNames := named ▸ List.mem_map_of_mem member
    exact List.contains_iff_mem.mpr (.tail _ declared)

theorem ofFields_reads {read : Fields → Checked Directive} {directive : Directive}
    (tagged : directive.tag = tag) (named : keysOf directive.fields = fieldNames)
    (readable : directive.IsReadable)
    (again : directive.HasWritableDice → read directive.allFields = .valid directive) :
    (ofFields tag fieldNames read).Reads directive where
  tag := tagged
  fieldNames := named
  readable := readable
  again writable := seqLeft_eq_valid.mpr ⟨again writable, (), only_allFields named⟩

theorem ofFields_faithful {read : Fields → Checked Directive}
    (reads : ∀ fields directive, read fields = .valid directive →
      (ofFields tag fieldNames read).Reads directive) :
    (ofFields tag fieldNames read).IsFaithful :=
  fun fields directive success => reads fields directive (seqLeft_eq_valid.mp success).1

theorem bare_faithful {directive : Directive} (tagged : directive.tag = tag)
    (empty : directive.fields = []) (readable : directive.IsReadable) :
    (bare tag directive).IsFaithful := by
  apply ofFields_faithful
  intro fields read success
  cases success
  exact ofFields_reads tagged (congrArg keysOf empty) readable fun _ => rfl

variable {reader : Reader α} {write : α → Value} {condition : α → Prop} {make : α → Directive}

theorem single_faithful (inverts : reader.Inverts write condition)
    (tagged : ∀ value, (make value).tag = tag)
    (written : ∀ value, (make value).fields = [(fieldName, write value)])
    (other : fieldName ≠ "directive")
    (readable : ∀ value, condition value → (make value).IsReadable) :
    (single tag fieldName reader make).IsFaithful := by
  apply ofFields_faithful
  intro fields directive success
  obtain ⟨value, read, rfl⟩ := functorMap_eq_valid.mp success
  have meets := Fields.required_keeps inverts.keeps read
  refine ofFields_reads (tagged value) (congrArg keysOf (written value)) (readable value meets) ?_
  intro _
  have found : (make value).allFields.lookup fieldName = some (write value) := by
    rw [allFields, written value, List.lookup_cons, beq_false_of_ne other]
    exact List.lookup_cons_self
  rw [Fields.required_of_lookup found (inverts.reads value meets)]
  rfl

theorem listing_faithful (inverts : reader.Inverts write condition)
    (tagged : ∀ value, (make value).tag = tag)
    (written : ∀ value, (make value).fields = [(fieldName, write value)])
    (other : fieldName ≠ "directive")
    (readable : ∀ value, condition value → (make value).IsReadable) :
    (listing tag fieldName reader make).IsFaithful := by
  intro fields directive success
  -- A listing reads fields just as a single does; it differs in what a list stands for.
  have reads : (single tag fieldName reader make).Reads directive :=
    single_faithful inverts tagged written other readable fields directive success
  exact ⟨reads.tag, reads.fieldNames, reads.readable, reads.again⟩

end Kinds

theorem namedDistance_faithful {tag : String} {make : String → Nat → Directive}
    (tagged : ∀ name distance, (make name distance).tag = tag)
    (written : ∀ name distance, (make name distance).fields =
      [("name", .text name), ("distance", .ofNat distance)])
    (readable : ∀ name distance, name.isEmpty = false → (make name distance).IsReadable) :
    (namedDistance tag make).IsFaithful := by
  apply ofFields_faithful
  intro fields directive success
  simp only [seq_eq_valid, functorMap_eq_valid] at success
  obtain ⟨_, distance, ⟨name, readName, rfl⟩, _, rfl⟩ := success
  have nonempty := Fields.required_keeps Reader.someText_keeps readName
  refine ofFields_reads (tagged name distance) (congrArg keysOf (written name distance))
    (readable name distance nonempty) fun _ => ?_
  rw [allFields, written name distance,
    Fields.required_of_lookup rfl (Reader.someText_text nonempty),
    Fields.required_of_lookup rfl (Reader.nat_ofNat distance)]
  rfl

theorem namedEntry_faithful {tag : String} {make : NamedEntry → Directive}
    (tagged : ∀ entry, (make entry).tag = tag)
    (written : ∀ entry, (make entry).fields = namedFields entry)
    (readable : ∀ entry, entry.IsReadable → (make entry).IsReadable) :
    (namedEntry tag make).IsFaithful := by
  apply ofFields_faithful
  intro fields directive success
  simp only [seq_eq_valid, functorMap_eq_valid] at success
  obtain ⟨_, usage, ⟨_, description, ⟨name, readName, rfl⟩, _, rfl⟩, readUsage, rfl⟩ := success
  have nonempty := Fields.required_keeps Reader.someText_keeps readName
  have limits := Fields.optional_keeps Usage.read_keeps readUsage
  refine ofFields_reads (tagged _) (congrArg keysOf (written _))
    (readable _ ⟨nonempty, limits⟩) fun _ => ?_
  rw [allFields, written, namedFields,
    Fields.required_of_lookup rfl (Reader.someText_text nonempty),
    Fields.required_of_lookup rfl (Reader.text_text description),
    Fields.withDefault_of_lookup rfl (Usage.orNull_read limits)]
  rfl

theorem weaponAttack_faithful {tag : String} {make : Weapon → Attack → Directive}
    (tagged : ∀ weapon attack, (make weapon attack).tag = tag)
    (written : ∀ weapon attack, (make weapon attack).fields =
      [("weapon", .ofMember weapon), ("attack", attack.toValue)])
    (readable : ∀ weapon attack, (make weapon attack).IsReadable) :
    (weaponAttack tag make).IsFaithful := by
  apply ofFields_faithful
  intro fields directive success
  simp only [seq_eq_valid, functorMap_eq_valid] at success
  obtain ⟨_, attack, ⟨weapon, _, rfl⟩, _, rfl⟩ := success
  refine ofFields_reads (tagged weapon attack) (congrArg keysOf (written weapon attack))
    (readable weapon attack) fun _ => ?_
  rw [allFields, written,
    Fields.required_of_lookup rfl (LawfulVocabulary.read_ofMember weapon),
    Fields.required_of_lookup rfl attack.read_toValue]
  rfl

theorem weaponEffect_faithful {tag : String} {make : Weapon → Effect → Directive}
    (tagged : ∀ weapon effect, (make weapon effect).tag = tag)
    (written : ∀ weapon effect, (make weapon effect).fields =
      [("weapon", .ofMember weapon), ("effect", effect.toValue)])
    (rolled : ∀ weapon effect, (make weapon effect).dice = effect.dice)
    (readable : ∀ weapon effect, effect.IsReadable → (make weapon effect).IsReadable) :
    (weaponEffect tag make).IsFaithful := by
  apply ofFields_faithful
  intro fields directive success
  simp only [seq_eq_valid, functorMap_eq_valid] at success
  obtain ⟨_, effect, ⟨weapon, _, rfl⟩, readEffect, rfl⟩ := success
  have effectReadable : effect.IsReadable := Fields.required_keeps Effect.read_keeps readEffect
  refine ofFields_reads (tagged weapon effect) (congrArg keysOf (written weapon effect))
    (readable weapon effect effectReadable) fun writable => ?_
  have diceWritable : ∀ dice ∈ effect.dice, dice.isWritable = true :=
    rolled weapon effect ▸ writable
  rw [allFields, written,
    Fields.required_of_lookup rfl (LawfulVocabulary.read_ofMember weapon),
    Fields.required_of_lookup rfl (Effect.read_toValue effectReadable diceWritable)]
  rfl

end Form

open Form

/-! ### The forms -/

theorem identityForms_faithful : ∀ form ∈ identityForms, form.IsFaithful := by
  simp only [identityForms, List.forall_mem_append, List.forall_mem_cons, List.forall_mem_map,
    List.not_mem_nil, false_implies, implies_true, and_true]
  have named (tag : String) (make : String → Directive)
      (tagged : ∀ given, (make given).tag = tag)
      (written : ∀ given, (make given).fields = [("name", .text given)])
      (readable : ∀ given, given.isEmpty = false → (make given).IsReadable) :
      (single tag "name" Reader.someText make).IsFaithful :=
    single_faithful Reader.someText_inverts tagged written (by decide) readable
  refine ⟨⟨⟨⟨⟨?version, ?inclusion, ?name, ?source⟩, ?subject⟩, ?pronouns, ?size⟩, ?shortcut⟩,
    ?type, ?customType, ?subtype, ?group, ?alignment, ?customAlignment⟩
  case version =>
    apply ofFields_faithful
    intro fields directive success
    simp only [seq_eq_valid, functorMap_eq_valid] at success
    obtain ⟨_, maximum, ⟨minimum, readMinimum, rfl⟩, readMaximum, rfl⟩ := success
    have positive := Fields.required_keeps Reader.positiveFloat_keeps readMinimum
    have lastPositive := Fields.optional_keeps Reader.positiveFloat_keeps readMaximum
    refine ofFields_reads rfl rfl ⟨positive, lastPositive⟩ fun _ => ?_
    have readsLast : Reader.orNull Reader.positiveFloat (.ofOption .float maximum) =
        .valid maximum :=
      Reader.orNull_ofOption (fun _ => Value.noConfusion)
        fun last same => Reader.positiveFloat_float (lastPositive last same)
    rw [Fields.required_of_lookup rfl (Reader.positiveFloat_float positive),
      Fields.withDefault_of_lookup rfl readsLast]
    rfl
  case inclusion =>
    apply ofFields_faithful
    intro fields directive success
    simp only [seq_eq_valid, functorMap_eq_valid] at success
    obtain ⟨_, arguments, ⟨reference, readReference, rfl⟩, readArguments, rfl⟩ := success
    have nonempty := Fields.required_keeps Reader.someText_keeps readReference
    have keeps : Reader.Keeps (Reader.map Reader.text IncludeArgument.read)
        fun arguments => (keysOf arguments).Nodup :=
      fun read => (Reader.map_keeps (fun _ => trivial) Reader.keeps_true read).1
    have empty : (keysOf ([] : List (String × IncludeArgument))).Nodup := List.Pairwise.nil
    have distinct := Fields.withDefault_keeps keeps empty readArguments
    refine ofFields_reads rfl rfl ⟨nonempty, distinct⟩ fun _ => ?_
    have readsArguments : Reader.map Reader.text IncludeArgument.read
        (.object (arguments.map fun argument => (argument.1, argument.2.toValue))) =
          .valid arguments :=
      @Reader.map_object _ _ _ _ _ _ id IncludeArgument.toValue arguments distinct
        fun argument _ => ⟨Reader.text_text argument.1, argument.2.read_toValue⟩
    rw [Fields.required_of_lookup rfl (Reader.someText_text nonempty),
      Fields.withDefault_of_lookup rfl readsArguments]
    rfl
  case name => exact named _ _ (fun _ => rfl) (fun _ => rfl) fun _ => id
  case source =>
    exact single_faithful Reader.text_inverts (fun _ => rfl) (fun _ => rfl) (by decide)
      fun _ => id
  case subject => exact fun form _ => named _ _ (fun _ => rfl) (fun _ => rfl) fun _ => id
  case pronouns =>
    exact single_faithful (LawfulVocabulary.word_inverts Pronouns) (fun _ => rfl) (fun _ => rfl)
      (by decide) fun _ => id
  case size =>
    exact single_faithful (LawfulVocabulary.word_inverts Size) (fun _ => rfl) (fun _ => rfl)
      (by decide) fun _ => id
  case shortcut => exact fun size _ => bare_faithful rfl rfl trivial
  case type =>
    exact single_faithful (LawfulVocabulary.word_inverts CreatureType) (fun _ => rfl)
      (fun _ => rfl) (by decide) fun _ => id
  case customType => exact named _ _ (fun _ => rfl) (fun _ => rfl) fun _ => id
  case subtype | group =>
    exact single_faithful Reader.text_inverts (fun _ => rfl) (fun _ => rfl) (by decide)
      fun _ => id
  case alignment =>
    exact single_faithful (LawfulVocabulary.word_inverts Alignment) (fun _ => rfl) (fun _ => rfl)
      (by decide) fun _ => id
  case customAlignment =>
    exact single_faithful Reader.someText_inverts (fun _ => rfl) (fun _ => rfl) (by decide)
      fun _ => id

theorem bodyForms_faithful : ∀ form ∈ bodyForms, form.IsFaithful := by
  simp only [bodyForms, List.forall_mem_append, List.forall_mem_cons, List.forall_mem_map,
    List.not_mem_nil, false_implies, implies_true, and_true]
  refine ⟨⟨⟨?hitDie, ?hitDiceCount, ?hitPoints, ?armor, ?armorBonus, ?armorClass, ?shield,
    ?noShield⟩, ?movement⟩, ?hover, ?speed, ?speedNotes⟩
  case hitDie =>
    exact single_faithful Die.read_inverts (fun _ => rfl) (fun _ => rfl) (by decide) fun _ => id
  case hitDiceCount | hitPoints =>
    exact single_faithful (Reader.natAtLeast_inverts 1) (fun _ => rfl) (fun _ => rfl) (by decide)
      fun _ => id
  case armor =>
    apply ofFields_faithful
    intro fields directive success
    simp only [seq_eq_valid, functorMap_eq_valid] at success
    obtain ⟨_, description, ⟨_, bonus, ⟨kind, _, rfl⟩, _, rfl⟩, _, rfl⟩ := success
    refine ofFields_reads rfl rfl trivial fun _ => ?_
    rw [Fields.required_of_lookup rfl (LawfulVocabulary.read_ofMember kind),
      Fields.withDefault_of_lookup rfl (Reader.int_int bonus),
      Fields.withDefault_of_lookup rfl (Reader.orNull_text description)]
    rfl
  case armorBonus =>
    exact single_faithful Reader.int_inverts (fun _ => rfl) (fun _ => rfl) (by decide) fun _ => id
  case armorClass =>
    apply ofFields_faithful
    intro fields directive success
    simp only [seq_eq_valid, functorMap_eq_valid] at success
    obtain ⟨_, description, ⟨value, _, rfl⟩, _, rfl⟩ := success
    refine ofFields_reads rfl rfl trivial fun _ => ?_
    rw [Fields.required_of_lookup rfl (Reader.nat_ofNat value),
      Fields.withDefault_of_lookup rfl (Reader.orNull_text description)]
    rfl
  case shield | noShield | hover => exact bare_faithful rfl rfl trivial
  case movement =>
    exact fun way _ => single_faithful Reader.nat_inverts (fun _ => rfl) (fun _ => rfl)
      (by decide) fun _ => id
  case speed => exact namedDistance_faithful (fun _ _ => rfl) (fun _ _ => rfl) fun _ _ => id
  case speedNotes =>
    exact single_faithful Reader.text_inverts (fun _ => rfl) (fun _ => rfl) (by decide)
      fun _ => id

theorem talentForms_faithful : ∀ form ∈ talentForms, form.IsFaithful := by
  simp only [talentForms, List.forall_mem_append, List.forall_mem_cons, List.forall_mem_map,
    List.not_mem_nil, false_implies, implies_true, and_true]
  -- Most talents are lists of words, which a dump writes in brackets.
  have words {α : Type} [Vocabulary α] [LawfulVocabulary α] (tag fieldName : String)
      (make : List α → Directive) (other : fieldName ≠ "directive")
      (tagged : ∀ members, (make members).tag = tag)
      (written : ∀ members, (make members).fields = [(fieldName, .ofMembers members)])
      (readable : ∀ members, (make members).IsReadable) :
      (listing tag fieldName (Reader.oneOrMany (Reader.word α)) make).IsFaithful :=
    listing_faithful (Reader.oneOrMany_inverts (LawfulVocabulary.word_inverts α)) tagged written
      other fun members _ => readable members
  have distance (tag : String) (make : Nat → Directive)
      (tagged : ∀ given, (make given).tag = tag)
      (written : ∀ given, (make given).fields = [("distance", .ofNat given)])
      (readable : ∀ given, (make given).IsReadable) :
      (single tag "distance" Reader.nat make).IsFaithful :=
    single_faithful Reader.nat_inverts tagged written (by decide) fun given _ => readable given
  refine ⟨⟨⟨⟨⟨⟨⟨⟨?score, ?saves, ?removeSaves⟩, ?skills⟩, ?damageTypes⟩, ?resistance,
    ?immunity⟩, ?customDamage⟩, ?conditions⟩, ?standardSense⟩, ?blindsight, ?sense, ?languages,
    ?unspoken, ?telepathy⟩
  case score =>
    exact fun ability _ => single_faithful (Reader.intBetween_inverts 1 30) (fun _ => rfl)
      (fun _ => rfl) (by decide) fun _ => id
  case saves | removeSaves | conditions =>
    exact words _ _ _ (by decide) (fun _ => rfl) (fun _ => rfl) fun _ => trivial
  case skills =>
    exact fun change _ =>
      words _ _ _ (by decide) (fun _ => rfl) (fun _ => rfl) fun _ => trivial
  case damageTypes =>
    exact fun relation _ => listing_faithful DamageType.readSome_inverts (fun _ => rfl)
      (fun _ => rfl) (by decide) fun _ => id
  case resistance | immunity =>
    apply ofFields_faithful
    intro fields directive success
    obtain ⟨variant, _, rfl⟩ := functorMap_eq_valid.mp success
    refine ofFields_reads rfl rfl trivial fun _ => ?_
    rw [Fields.withDefault_of_lookup rfl (LawfulVocabulary.read_ofMember variant)]
    rfl
  case customDamage =>
    exact fun relation _ => single_faithful Reader.someText_inverts (fun _ => rfl) (fun _ => rfl)
      (by decide) fun _ => id
  case standardSense =>
    exact fun sense _ => distance _ _ (fun _ => rfl) (fun _ => rfl) fun _ => trivial
  case blindsight =>
    apply ofFields_faithful
    intro fields directive success
    simp only [seq_eq_valid, functorMap_eq_valid] at success
    obtain ⟨_, blindBeyond, ⟨distance, _, rfl⟩, _, rfl⟩ := success
    refine ofFields_reads rfl rfl trivial fun _ => ?_
    rw [Fields.required_of_lookup rfl (Reader.nat_ofNat distance),
      Fields.withDefault_of_lookup rfl (Reader.bool_bool blindBeyond)]
    rfl
  case sense => exact namedDistance_faithful (fun _ _ => rfl) (fun _ _ => rfl) fun _ _ => id
  case languages | unspoken =>
    exact listing_faithful (Reader.oneOrMany_inverts Reader.text_inverts) (fun _ => rfl)
      (fun _ => rfl) (by decide) fun _ => id
  case telepathy => exact distance _ _ (fun _ => rfl) (fun _ => rfl) fun _ => trivial

theorem actionForms_faithful : ∀ form ∈ actionForms, form.IsFaithful := by
  simp only [actionForms, List.forall_mem_append, List.forall_mem_cons, List.forall_mem_map,
    List.not_mem_nil, false_implies, implies_true, and_true]
  refine ⟨⟨⟨⟨⟨?rating, ?expectedRating⟩, ?ratingShortcut⟩, ?weapon, ?attack, ?removeWeapon,
    ?overrideAttack, ?expectAttack, ?overrideEffect, ?expectEffect, ?action, ?overrideText⟩,
    ?remove⟩, ?multiattack⟩
  case rating | expectedRating =>
    exact single_faithful Rating.read_inverts (fun _ => rfl) (fun _ => rfl) (by decide)
      fun _ => id
  case ratingShortcut => exact fun shortcut _ => bare_faithful rfl rfl trivial
  case weapon =>
    apply ofFields_faithful
    intro fields directive success
    simp only [seq_eq_valid, functorMap_eq_valid] at success
    obtain ⟨_, riders, ⟨_, multiattack, ⟨_, magic, ⟨weapon, _, rfl⟩, _, rfl⟩, _, rfl⟩,
      readRiders, rfl⟩ := success
    have readable := Fields.withDefault_keeps (Reader.list_keeps Rider.read_keeps)
      (List.forall_mem_nil _) readRiders
    refine ofFields_reads rfl rfl readable fun writable => ?_
    have readsRiders := Rider.list_toValue readable writable
    rw [Fields.required_of_lookup rfl (LawfulVocabulary.read_ofMember weapon),
      Fields.withDefault_of_lookup rfl (Reader.int_int magic),
      Fields.withDefault_of_lookup rfl (Reader.nat_ofNat multiattack),
      Fields.withDefault_of_lookup rfl readsRiders]
    rfl
  case attack =>
    apply ofFields_faithful
    intro fields directive success
    simp only [seq_eq_valid, functorMap_eq_valid] at success
    obtain ⟨_, multiattack, ⟨_, usage, ⟨_, riders, ⟨_, effect, ⟨_, attack, ⟨name, readName, rfl⟩,
      _, rfl⟩, readEffect, rfl⟩, readRiders, rfl⟩, readUsage, rfl⟩, _, rfl⟩ := success
    have nonempty := Fields.required_keeps Reader.someText_keeps readName
    have effectReadable : effect.IsReadable := Fields.required_keeps Effect.read_keeps readEffect
    have ridersReadable := Fields.withDefault_keeps (Reader.list_keeps Rider.read_keeps)
      (List.forall_mem_nil _) readRiders
    have limits := Fields.optional_keeps Usage.read_keeps readUsage
    refine ofFields_reads rfl rfl ⟨nonempty, effectReadable, ridersReadable, limits⟩
      fun writable => ?_
    obtain ⟨effectWritable, ridersWritable⟩ := List.forall_mem_append.mp writable
    have readsRiders := Rider.list_toValue ridersReadable ridersWritable
    rw [Fields.required_of_lookup rfl (Reader.someText_text nonempty),
      Fields.required_of_lookup rfl attack.read_toValue,
      Fields.required_of_lookup rfl (Effect.read_toValue effectReadable effectWritable),
      Fields.withDefault_of_lookup rfl readsRiders,
      Fields.withDefault_of_lookup rfl (Usage.orNull_read limits),
      Fields.withDefault_of_lookup rfl (Reader.nat_ofNat multiattack)]
    rfl
  case removeWeapon =>
    exact single_faithful (LawfulVocabulary.word_inverts Weapon) (fun _ => rfl) (fun _ => rfl)
      (by decide) fun _ => id
  case overrideAttack | expectAttack =>
    exact weaponAttack_faithful (fun _ _ => rfl) (fun _ _ => rfl) fun _ _ => trivial
  case overrideEffect | expectEffect =>
    exact weaponEffect_faithful (fun _ _ => rfl) (fun _ _ => rfl) (fun _ _ => rfl)
      fun _ _ => id
  case action => exact namedEntry_faithful (fun _ => rfl) (fun _ => rfl) fun _ => id
  case overrideText =>
    apply ofFields_faithful
    intro fields directive success
    simp only [seq_eq_valid, functorMap_eq_valid] at success
    obtain ⟨_, description, ⟨name, readName, rfl⟩, _, rfl⟩ := success
    have nonempty := Fields.required_keeps Reader.someText_keeps readName
    refine ofFields_reads rfl rfl nonempty fun _ => ?_
    rw [Fields.required_of_lookup rfl (Reader.someText_text nonempty),
      Fields.required_of_lookup rfl (Reader.text_text description)]
    rfl
  case remove =>
    exact fun place _ => single_faithful Reader.someText_inverts (fun _ => rfl) (fun _ => rfl)
      (by decide) fun _ => id
  case multiattack =>
    exact single_faithful Reader.text_inverts (fun _ => rfl) (fun _ => rfl) (by decide)
      fun _ => id

theorem traitForms_faithful : ∀ form ∈ traitForms, form.IsFaithful := by
  simp only [traitForms, List.forall_mem_cons, List.not_mem_nil, false_implies, implies_true,
    and_true]
  have texts := Reader.list_inverts Reader.text_inverts
  have readsTexts (items : List String) :
      Reader.list Reader.text (.ofTexts items) = .valid items :=
    texts.reads items fun _ _ => trivial
  have textLists : (Reader.list Reader.text).Inverts .ofTexts fun _ => True :=
    ⟨Reader.keeps_true, fun items _ => readsTexts items⟩
  have noEntries {α : Type} : IsNumbered ([] : List (Int × α)) :=
    ⟨List.Pairwise.nil, List.forall_mem_nil _⟩
  refine ⟨?feature, ?reaction, ?legendaryActions, ?spellcasting, ?innate⟩
  case feature | reaction =>
    exact namedEntry_faithful (fun _ => rfl) (fun _ => rfl) fun _ => id
  case legendaryActions =>
    apply ofFields_faithful
    intro fields directive success
    simp only [seq_eq_valid, functorMap_eq_valid] at success
    obtain ⟨_, description, ⟨_, actions, ⟨count, readCount, rfl⟩, readActions, rfl⟩, _, rfl⟩ :=
      success
    have positive := Fields.withDefault_keeps (Reader.natAtLeast_keeps 1) (by decide) readCount
    have actionLists := Reader.list_inverts LegendaryAction.read_inverts
    have readable := Fields.withDefault_keeps actionLists.keeps (List.forall_mem_nil _) readActions
    refine ofFields_reads rfl rfl ⟨positive, readable⟩ fun _ => ?_
    rw [Fields.withDefault_of_lookup rfl (Reader.natAtLeast_ofNat positive),
      Fields.withDefault_of_lookup rfl (actionLists.reads actions readable),
      Fields.withDefault_of_lookup rfl (Reader.orNull_text description)]
    rfl
  case spellcasting =>
    apply ofFields_faithful
    intro fields directive success
    simp only [seq_eq_valid, functorMap_eq_valid] at success
    obtain ⟨_, attackBonus, ⟨_, saveDC, ⟨_, slots, ⟨_, spells, ⟨_, cantrips, ⟨_, style,
      ⟨_, className, ⟨_, level, ⟨ability, _, rfl⟩, _, rfl⟩, readClass, rfl⟩, _, rfl⟩,
      _, rfl⟩, readSpells, rfl⟩, readSlots, rfl⟩, readDC, rfl⟩, _, rfl⟩ := success
    have nonempty := Fields.required_keeps Reader.someText_keeps readClass
    have leveled := Fields.withDefault_keeps (Reader.bySpellLevel_inverts textLists).keeps
      ⟨noEntries, List.forall_mem_nil _⟩ readSpells
    have slotsLeveled :=
      Fields.optional_keeps (Reader.bySpellLevel_inverts Reader.int_inverts).keeps readSlots
    have positive := Fields.optional_keeps (Reader.natAtLeast_keeps 1) readDC
    refine ofFields_reads rfl rfl ⟨nonempty, leveled, slotsLeveled, positive⟩ fun _ => ?_
    have readsSlots : Reader.orNull (Reader.bySpellLevel Reader.int)
        (.ofOption (.ofIntMap .int) slots) = .valid slots :=
      Reader.orNull_ofOption (fun _ => Value.noConfusion) fun given same =>
        (Reader.bySpellLevel_inverts Reader.int_inverts).reads given (slotsLeveled given same)
    rw [Fields.required_of_lookup rfl (LawfulVocabulary.read_ofMember ability),
      Fields.required_of_lookup rfl (Reader.natBetween_ofNat level),
      Fields.required_of_lookup rfl (Reader.someText_text nonempty),
      Fields.withDefault_of_lookup rfl (LawfulVocabulary.read_ofMember style),
      Fields.withDefault_of_lookup rfl (readsTexts cantrips),
      Fields.withDefault_of_lookup rfl
        ((Reader.bySpellLevel_inverts textLists).reads spells leveled),
      Fields.withDefault_of_lookup rfl readsSlots,
      Fields.withDefault_of_lookup rfl (orNull_ofNat positive),
      Fields.withDefault_of_lookup rfl (Reader.orNull_int attackBonus)]
    rfl
  case innate =>
    apply ofFields_faithful
    intro fields directive success
    simp only [seq_eq_valid, functorMap_eq_valid] at success
    obtain ⟨_, components, ⟨_, attackBonus, ⟨_, saveDC, ⟨_, perDay, ⟨_, atWill, ⟨ability, _, rfl⟩,
      _, rfl⟩, readPerDay, rfl⟩, readDC, rfl⟩, _, rfl⟩, _, rfl⟩ := success
    have numbered := Fields.withDefault_keeps (Reader.intMap_inverts textLists).keeps noEntries
      readPerDay
    have positive := Fields.optional_keeps (Reader.natAtLeast_keeps 1) readDC
    refine ofFields_reads rfl rfl ⟨numbered, positive⟩ fun _ => ?_
    rw [Fields.required_of_lookup rfl (LawfulVocabulary.read_ofMember ability),
      Fields.withDefault_of_lookup rfl (readsTexts atWill),
      Fields.withDefault_of_lookup rfl
        ((Reader.intMap_inverts textLists).reads perDay numbered),
      Fields.withDefault_of_lookup rfl (orNull_ofNat positive),
      Fields.withDefault_of_lookup rfl (Reader.orNull_int attackBonus),
      Fields.withDefault_of_lookup rfl (Reader.orNull_text components)]
    rfl

/-- What any form reads carries the tag of the form, is readable and is read again. -/
theorem forms_faithful : ∀ form ∈ forms, form.IsFaithful := by
  intro form member
  simp only [forms, List.mem_append] at member
  rcases member with (((identity | body) | talent) | action) | trait
  · exact identityForms_faithful form identity
  · exact bodyForms_faithful form body
  · exact talentForms_faithful form talent
  · exact actionForms_faithful form action
  · exact traitForms_faithful form trait

end Directive

end Bestiary
