import Bestiary.Proofs.Creature.Footprint
import Bestiary.Proofs.Creature.Reordering

/-!
What a creature does not have cannot be changed or removed.

A directive fails only if it looks for a weapon, an action or an entry that the
creature lacks. The creature is then what it was before, and the fault tells
what was looked for. A removal that succeeds takes the first of what it looks
for out of its list and leaves everything else as it is.
-/

namespace Bestiary

section Lists

variable {α : Type}

def RemovesFirst (wanted : α → Prop) (items rest : List α) : Prop :=
  ∃ before item behind, items = before ++ item :: behind ∧ (∀ other ∈ before, ¬wanted other) ∧
    wanted item ∧ rest = before ++ behind

theorem removeFirst?_eq_none {wanted : α → Bool} {items : List α} :
    removeFirst? wanted items = none ↔ ∀ item ∈ items, ¬wanted item = true := by
  induction items with
  | nil => exact ⟨fun _ => List.forall_mem_nil _, fun _ => rfl⟩
  | cons item others ih =>
      rw [removeFirst?, List.forall_mem_cons, ← ih]
      by_cases found : wanted item = true
      · rw [if_pos found]
        exact ⟨fun none => absurd none (Option.some_ne_none _), fun lacks => absurd found lacks.1⟩
      · rw [if_neg found, Option.map_eq_none_iff]
        exact ⟨fun none => ⟨found, none⟩, And.right⟩

theorem removesFirst_of_removeFirst? {wanted : α → Bool} {sort : α → Prop} {items rest : List α}
    (means : ∀ {item}, wanted item = true ↔ sort item)
    (removed : removeFirst? wanted items = some rest) : RemovesFirst sort items rest := by
  induction items generalizing rest with
  | nil => cases removed
  | cons item others ih =>
      rw [removeFirst?] at removed
      split at removed
      · next found =>
          cases removed
          exact ⟨[], item, others, rfl, List.forall_mem_nil _, means.mp found, rfl⟩
      · next passed =>
          obtain ⟨kept, removedLater, rfl⟩ := Option.map_eq_some_iff.mp removed
          obtain ⟨before, taken, behind, rfl, unwanted, found, rfl⟩ := ih removedLater
          exact ⟨item :: before, taken, behind, rfl,
            List.forall_mem_cons.mpr ⟨mt means.mpr passed, unwanted⟩, found, rfl⟩

theorem changeFirst?_eq_none {wanted : α → Bool} {change : α → α} {items : List α} :
    changeFirst? wanted change items = none ↔ ∀ item ∈ items, ¬wanted item = true := by
  induction items with
  | nil => exact ⟨fun _ => List.forall_mem_nil _, fun _ => rfl⟩
  | cons item others ih =>
      rw [changeFirst?, List.forall_mem_cons, ← ih]
      by_cases found : wanted item = true
      · rw [if_pos found]
        exact ⟨fun none => absurd none (Option.some_ne_none _), fun lacks => absurd found lacks.1⟩
      · rw [if_neg found, Option.map_eq_none_iff]
        exact ⟨fun none => ⟨found, none⟩, And.right⟩

end Lists

/-! ### What is looked for -/

def AlikeNames (first second : String) : Prop :=
  Text.foldCase first = Text.foldCase second

namespace Creature

theorem sameName_iff {first second : String} :
    sameName first second = true ↔ AlikeNames first second :=
  beq_iff_eq

theorem usesWeapon_iff {weapon : Weapon} {action : Action} :
    usesWeapon weapon action = true ↔ action.weapon? = some weapon :=
  beq_iff_eq

/-- The spellcasting trait is found by its printed name while the creature has it. -/
def HasSpellcasting (creature : Creature) (name : String) : Prop :=
  Text.foldCase name = "spellcasting" ∧ creature.spellcasting.isSome = true

def HasInnateSpellcasting (creature : Creature) (name : String) : Prop :=
  Text.foldCase name = "innate spellcasting" ∧ creature.innateSpellcasting.isSome = true

def LacksEntry (creature : Creature) (name : String) : Section → Prop
  | .actions => ∀ action ∈ creature.actions, ¬AlikeNames action.name name
  | .features =>
      (∀ feature ∈ creature.features, ¬AlikeNames feature.name name) ∧
        ¬creature.HasSpellcasting name ∧ ¬creature.HasInnateSpellcasting name
  | .reactions => ∀ reaction ∈ creature.reactions, ¬AlikeNames reaction.name name
  | .legendaryActions => ∀ action ∈ creature.legendaryActions, ¬AlikeNames action.name name

def LacksWeapon (creature : Creature) (weapon : Weapon) : Prop :=
  ∀ action ∈ creature.actions, action.weapon? ≠ some weapon

def Lacks (creature : Creature) : Directive → Prop
  | .removeWeapon weapon | .overrideWeaponAttack weapon _ | .overrideWeaponEffect weapon _ =>
      creature.LacksWeapon weapon
  | .expectWeapon expectation => creature.LacksWeapon expectation.weapon
  | .overrideDescription name _ =>
      Text.foldCase name ≠ "multiattack" ∧ creature.LacksEntry name .actions
  | .remove place name => creature.LacksEntry name place
  | _ => False

end Creature

namespace Directive

def refusal? : Directive → Option ApplicationFault
  | removeWeapon held => some (.cannotRemoveWeapon held)
  | overrideWeaponAttack held _ => some (.missingWeapon "override_weapon_attack" held)
  | overrideWeaponEffect held _ => some (.missingWeapon "override_weapon_effect" held)
  | expectWeapon expectation => some (.missingWeapon expectation.tag expectation.weapon)
  | overrideDescription given _ => some (.cannotDescribe given)
  | remove place given => some (.cannotRemove place given)
  | _ => none

theorem kind_of_refusal? {directive : Directive} {fault : ApplicationFault}
    (refused : directive.refusal? = some fault) :
    fault.kind = if directive.concernsWeapon then .missingWeapon else .missingAction := by
  cases directive with
  | removeWeapon | overrideWeaponAttack | overrideWeaponEffect | expectWeapon
  | overrideDescription | remove =>
      cases refused
      rfl
  | _ => cases refused

/-- What a removal makes of a creature; other directives are not restricted. -/
def Removes (creature after : Creature) : Directive → Prop
  | removeWeapon held =>
      ∃ actions, RemovesFirst (·.weapon? = some held) creature.actions actions ∧
        after = { creature with actions := actions }
  | remove .actions given =>
      ∃ actions, RemovesFirst (AlikeNames ·.name given) creature.actions actions ∧
        after = { creature with actions := actions }
  | remove .features given =>
      creature.HasSpellcasting given ∧ after = { creature with spellcasting := none } ∨
      creature.HasInnateSpellcasting given ∧ after = { creature with innateSpellcasting := none } ∨
      ¬creature.HasSpellcasting given ∧ ¬creature.HasInnateSpellcasting given ∧
        ∃ features, RemovesFirst (AlikeNames ·.name given) creature.features features ∧
          after = { creature with features := features }
  | remove .reactions given =>
      ∃ reactions, RemovesFirst (AlikeNames ·.name given) creature.reactions reactions ∧
        after = { creature with reactions := reactions }
  | remove .legendaryActions given =>
      ∃ actions, RemovesFirst (AlikeNames ·.name given) creature.legendaryActions actions ∧
        after = { creature with legendaryActions := actions }
  | _ => True

end Directive

namespace Creature

variable {creature after : Creature} {fault : ApplicationFault}

/-! ### When a directive fails -/

theorem changeWeapon_eq_error {tag : String} {weapon : Weapon} {change : Action → Action} :
    creature.changeWeapon tag weapon change = .error fault ↔
      creature.LacksWeapon weapon ∧ some (.missingWeapon tag weapon) = some fault := by
  have lacks : creature.LacksWeapon weapon ↔
      changeFirst? (usesWeapon weapon) change creature.actions = none := by
    simp only [changeFirst?_eq_none, usesWeapon_iff]
    rfl
  rw [lacks, changeWeapon_eq]
  cases changeFirst? (usesWeapon weapon) change creature.actions <;> simp

theorem removeWeapon_eq_error {weapon : Weapon} :
    creature.removeWeapon weapon = .error fault ↔
      creature.LacksWeapon weapon ∧ some (.cannotRemoveWeapon weapon) = some fault := by
  have lacks : creature.LacksWeapon weapon ↔
      removeFirst? (usesWeapon weapon) creature.actions = none := by
    simp only [removeFirst?_eq_none, usesWeapon_iff]
    rfl
  rw [lacks, removeWeapon_eq]
  cases removeFirst? (usesWeapon weapon) creature.actions <;> simp

theorem expectWeapon_eq_error {expectation : WeaponExpectation} :
    creature.expectWeapon expectation = .error fault ↔
      creature.LacksWeapon expectation.weapon ∧
        some (.missingWeapon expectation.tag expectation.weapon) = some fault := by
  have lacks : creature.LacksWeapon expectation.weapon ↔
      ¬creature.actions.any (usesWeapon expectation.weapon) = true := by
    simp only [List.any_eq_true, usesWeapon_iff, not_exists, not_and]
    rfl
  rw [lacks, expectWeapon_eq]
  split <;> simp [*]

theorem overrideDescription_eq_error {name description : String} :
    creature.overrideDescription name description = .error fault ↔
      (Text.foldCase name ≠ "multiattack" ∧ creature.LacksEntry name .actions) ∧
        some (.cannotDescribe name) = some fault := by
  have lacks : creature.LacksEntry name .actions ↔
      changeFirst? (fun action => sameName action.name name) (Action.describeAs description)
        creature.actions = none := by
    simp only [changeFirst?_eq_none, sameName_iff]
    rfl
  rw [lacks, overrideDescription_eq]
  by_cases multiattack : Text.foldCase name = "multiattack"
  · simp [multiattack]
  · rw [if_neg (mt beq_iff_eq.mp multiattack)]
    cases changeFirst? (fun action => sameName action.name name) (Action.describeAs description)
      creature.actions <;> simp [multiattack]

theorem removeListed?_eq_none {name : String} :
    creature.removeListed? name = none ↔
      ∀ feature ∈ creature.features, ¬AlikeNames feature.name name := by
  simp only [removeListed?, Option.map_eq_none_iff, removeFirst?_eq_none, sameName_iff]

theorem removeFeature?_eq_none {name : String} :
    creature.removeFeature? name = none ↔ creature.LacksEntry name .features := by
  unfold LacksEntry HasSpellcasting HasInnateSpellcasting
  by_cases casting : Text.foldCase name = "spellcasting"
  · rw [removeFeature?_spellcasting casting]
    split <;> simp [removeListed?_eq_none, *]
  · by_cases innate : Text.foldCase name = "innate spellcasting"
    · rw [removeFeature?_innate innate]
      split <;> simp [removeListed?_eq_none, *]
    · rw [removeFeature?_listed casting innate]
      simp [removeListed?_eq_none, casting, innate]

theorem remove?_eq_none {place : Section} {name : String} :
    creature.remove? place name = none ↔ creature.LacksEntry name place := by
  cases place with
  | features => exact removeFeature?_eq_none
  | actions | reactions | legendaryActions =>
      simp only [remove?_eq, LacksEntry, Option.map_eq_none_iff, removeFirst?_eq_none, sameName_iff]

theorem removal_eq_error {place : Section} {name : String} :
    creature.apply (.remove place name) = .error fault ↔
      creature.LacksEntry name place ∧ some (.cannotRemove place name) = some fault := by
  rw [← remove?_eq_none, apply_remove]
  cases creature.remove? place name <;> simp

theorem apply_eq_error {directive : Directive} :
    creature.apply directive = .error fault ↔
      creature.Lacks directive ∧ directive.refusal? = some fault := by
  cases directive with
  | removeWeapon weapon => exact removeWeapon_eq_error
  | overrideWeaponAttack weapon attack => exact changeWeapon_eq_error
  | overrideWeaponEffect weapon effect => exact changeWeapon_eq_error
  | expectWeapon expectation => exact expectWeapon_eq_error
  | overrideDescription name description => exact overrideDescription_eq_error
  | remove place name => exact removal_eq_error
  | _ =>
      constructor
      · intro impossible
        cases impossible
      · rintro ⟨impossible, _⟩
        exact impossible.elim

theorem Lacks.refused {directive : Directive} (lacks : creature.Lacks directive) :
    ∃ fault, creature.apply directive = .error fault := by
  have refusal : ∃ fault, directive.refusal? = some fault := by
    cases directive <;> first | exact ⟨_, rfl⟩ | exact lacks.elim
  obtain ⟨fault, refused⟩ := refusal
  exact ⟨fault, apply_eq_error.mpr ⟨lacks, refused⟩⟩

/-! ### What a removal takes -/

theorem removesFirst_of_map {α : Type} {wanted : α → Bool} {sort : α → Prop} {items : List α}
    {change : List α → Creature} (means : ∀ {item}, wanted item = true ↔ sort item)
    (removed : (removeFirst? wanted items).map change = some after) :
    ∃ rest, RemovesFirst sort items rest ∧ after = change rest := by
  obtain ⟨rest, found, rfl⟩ := Option.map_eq_some_iff.mp removed
  exact ⟨rest, removesFirst_of_removeFirst? means found, rfl⟩

theorem removeWeapon_removes {weapon : Weapon}
    (applied : creature.removeWeapon weapon = .ok after) :
    (Directive.removeWeapon weapon).Removes creature after := by
  rw [removeWeapon_eq] at applied
  split at applied
  · next actions found =>
      cases applied
      exact ⟨actions, removesFirst_of_removeFirst? usesWeapon_iff found, rfl⟩
  · cases applied

theorem removeListed?_removes {name : String} (removed : creature.removeListed? name = some after) :
    ∃ features, RemovesFirst (AlikeNames ·.name name) creature.features features ∧
      after = { creature with features := features } :=
  removesFirst_of_map sameName_iff removed

theorem removeFeature?_removes {name : String}
    (removed : creature.removeFeature? name = some after) :
    (Directive.remove .features name).Removes creature after := by
  -- A trait that the creature has is found first, so only without it are the features searched.
  by_cases casting : creature.HasSpellcasting name
  · rw [removeFeature?_spellcasting casting.1, if_pos casting.2] at removed
    cases removed
    exact .inl ⟨casting, rfl⟩
  · by_cases innate : creature.HasInnateSpellcasting name
    · rw [removeFeature?_innate innate.1, if_pos innate.2] at removed
      cases removed
      exact .inr (.inl ⟨innate, rfl⟩)
    · have listed : creature.removeFeature? name = creature.removeListed? name := by
        by_cases named : Text.foldCase name = "spellcasting"
        · rw [removeFeature?_spellcasting named, if_neg fun has => casting ⟨named, has⟩]
        · by_cases namedInnate : Text.foldCase name = "innate spellcasting"
          · rw [removeFeature?_innate namedInnate, if_neg fun has => innate ⟨namedInnate, has⟩]
          · exact removeFeature?_listed named namedInnate
      exact .inr (.inr ⟨casting, innate, removeListed?_removes (listed ▸ removed)⟩)

theorem remove?_removes {place : Section} {name : String}
    (removed : creature.remove? place name = some after) :
    (Directive.remove place name).Removes creature after := by
  rw [remove?_eq] at removed
  cases place with
  | features => exact removeFeature?_removes removed
  | actions | reactions | legendaryActions => exact removesFirst_of_map sameName_iff removed

theorem apply_removes {directive : Directive} (applied : creature.apply directive = .ok after) :
    directive.Removes creature after := by
  cases directive with
  | removeWeapon weapon => exact removeWeapon_removes applied
  | remove place name =>
      rw [apply_remove] at applied
      split at applied
      · next found =>
          cases applied
          exact remove?_removes found
      · cases applied
  | _ => trivial

end Creature

/-! ### Applying a directive -/

namespace BuildContext

variable {context : BuildContext} {room : Nat} {chain : List String} {directive : Directive}
  {creature : Creature}

theorem applyAll_acting (acts : directive.Acts) :
    context.applyAll room chain [directive] creature =
      (creature.apply directive).mapError fun fault =>
        ⟨.application creature.name fault, creature⟩ := by
  obtain ⟨enter, single⟩ := context.applyAll_single room chain directive creature
  rw [single, applyStep_acting acts.1 acts.2]

/-- A directive that acts on a creature fails exactly if the creature lacks what it looks for. The
creature is then the one before, and the fault is about a weapon if that is what was looked for, and
else about an action. A removal that succeeds takes the first match out of a list, or a spellcasting
trait by its name, and changes nothing else. -/
theorem applyAll_refused (context : BuildContext) (room : Nat) (chain : List String)
    (directive : Directive) (creature : Creature) (acts : directive.Acts) :
    ((∃ halt, context.applyAll room chain [directive] creature = .error halt) ↔
      creature.Lacks directive) ∧
    (∀ halt, context.applyAll room chain [directive] creature = .error halt →
      halt.reached = creature ∧
        ∃ fault, directive.refusal? = some fault ∧
          halt.fault.report? = some (fault.report creature.name) ∧
          (fault.report creature.name).kind =
            if directive.concernsWeapon then .missingWeapon else .missingAction) ∧
    ∀ after, context.applyAll room chain [directive] creature = .ok after →
      directive.Removes creature after := by
  rw [applyAll_acting acts]
  refine ⟨⟨?_, ?_⟩, ?_, ?_⟩
  · rintro ⟨halt, failed⟩
    obtain ⟨fault, refused, _⟩ := mapError_eq_error.mp failed
    exact (Creature.apply_eq_error.mp refused).1
  · intro lacks
    obtain ⟨fault, refused⟩ := lacks.refused
    exact ⟨_, mapError_eq_error.mpr ⟨fault, refused, rfl⟩⟩
  · intro halt failed
    obtain ⟨fault, refused, rfl⟩ := mapError_eq_error.mp failed
    have refusal := (Creature.apply_eq_error.mp refused).2
    exact ⟨rfl, fault, refusal, rfl, Directive.kind_of_refusal? refusal⟩
  · intro after applied
    exact Creature.apply_removes (mapError_eq_ok.mp applied)

/-- A caster that has lost its spells keeps a feature of another name, and has no trait to lose. -/
theorem applyAll_refused_trait :
    let creature : Creature := { name := some "Mage", features := [⟨"Keen Smell", "", none⟩] }
    let directive := Directive.remove .features "SPELLCASTING"
    directive.Acts ∧ creature.Lacks directive ∧
      ∃ halt fault, ({} : BuildContext).applyAll 0 [] [directive] creature = .error halt ∧
        halt.reached = creature ∧ directive.refusal? = some fault ∧
        (fault.report creature.name).kind = .missingAction := by
  intro creature directive
  have acts : directive.Acts := ⟨rfl, rfl⟩
  have unlike : ¬AlikeNames "Keen Smell" "SPELLCASTING" :=
    show ¬Text.foldCase "Keen Smell" = Text.foldCase "SPELLCASTING" by decide +kernel
  have lacks : creature.Lacks directive := by
    refine ⟨List.forall_mem_singleton.mpr unlike, ?_, ?_⟩
    · rintro ⟨_, impossible⟩
      cases impossible
    · rintro ⟨_, impossible⟩
      cases impossible
  obtain ⟨fails, unchanged, _⟩ := applyAll_refused {} 0 [] directive creature acts
  obtain ⟨halt, failed⟩ := fails.mpr lacks
  obtain ⟨same, fault, refusal, _, kind⟩ := unchanged halt failed
  exact ⟨acts, lacks, halt, fault, failed, same, refusal, kind⟩

end BuildContext

end Bestiary
