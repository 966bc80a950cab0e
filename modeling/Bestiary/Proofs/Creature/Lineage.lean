import Bestiary.Proofs.Creature.Invariant
import Bestiary.Proofs.Creature.Refusal
import Mathlib.Data.List.Forall2

/-!
Where the actions of a creature come from.

A directive adds an action behind the others, changes or removes the first that
it looks for, or leaves all actions as they are. So each action of a creature has
a history: the directives that concerned it, in their order, the first of which
added it. What holds of an action when it is added, and is kept by each change
of it, holds of all actions and their histories.
-/

namespace Bestiary

section Lists

variable {α β : Type}

theorem changeFirst?_eq_modify (wanted : α → Bool) (change : α → α) (items : List α) :
    changeFirst? wanted change items =
      (items.findIdx? wanted).map fun index => items.modify index change := by
  induction items with
  | nil => rfl
  | cons item others ih =>
      rw [changeFirst?, List.findIdx?_cons]
      cases wanted item with
      | true => rfl
      | false =>
          rw [if_neg Bool.false_ne_true, ih]
          simp only [Bool.false_eq_true, if_false, Option.map_map]
          rfl

theorem removeFirst?_eq_eraseIdx (wanted : α → Bool) (items : List α) :
    removeFirst? wanted items = (items.findIdx? wanted).map items.eraseIdx := by
  induction items with
  | nil => rfl
  | cons item others ih =>
      rw [removeFirst?, List.findIdx?_cons]
      cases wanted item with
      | true => rfl
      | false =>
          rw [if_neg Bool.false_ne_true, ih]
          simp only [Bool.false_eq_true, if_false, Option.map_map]
          rfl

theorem forall₂_modify {related : α → β → Prop} {first : List α} {second : List β}
    (pairs : List.Forall₂ related first second) {index : Nat} {change : α → α} {change' : β → β}
    (keeps : ∀ item item', first[index]? = some item → related item item' →
      related (change item) (change' item')) :
    List.Forall₂ related (first.modify index change) (second.modify index change') := by
  induction pairs generalizing index with
  | nil => cases index <;> exact .nil
  | cons pair others ih =>
      cases index with
      | zero => exact .cons (keeps _ _ rfl pair) others
      | succ index => exact .cons pair (ih fun item item' found => keeps item item' found)

theorem forall₂_eraseIdx {related : α → β → Prop} {first : List α} {second : List β}
    (pairs : List.Forall₂ related first second) (index : Nat) :
    List.Forall₂ related (first.eraseIdx index) (second.eraseIdx index) := by
  induction pairs generalizing index with
  | nil => cases index <;> exact .nil
  | cons pair others ih =>
      cases index with
      | zero => exact others
      | succ index => exact .cons pair (ih index)

end Lists

/-! ### What a directive does to the actions -/

inductive Touch
  | adds (action : Action)
  | changes (index : Nat) (change : Action → Action)
  | removes (index : Nat)
  | leaves

namespace Touch

def apply (actions : List Action) : Touch → List Action
  | adds action => actions ++ [action]
  | changes index change => actions.modify index change
  | removes index => actions.eraseIdx index
  | leaves => actions

def record (directive : Directive) (histories : List (List Directive)) :
    Touch → List (List Directive)
  | adds _ => histories ++ [[directive]]
  | changes index _ => histories.modify index (· ++ [directive])
  | removes index => histories.eraseIdx index
  | leaves => histories

def ofIndex? (touch : Nat → Touch) (index? : Option Nat) : Touch :=
  (index?.map touch).getD leaves

end Touch

/-- What a directive does to some actions. -/
def Directive.touch (actions : List Action) : Directive → Touch
  | weapon entry => .adds (Creature.weaponAction entry)
  | attack entry => .adds (Creature.attackAction entry)
  | action entry => .adds (Creature.textAction entry)
  | overrideWeaponAttack held given =>
      .ofIndex? (.changes · (Action.overrideAttack given))
        (actions.findIdx? (Creature.usesWeapon held))
  | overrideWeaponEffect held given =>
      .ofIndex? (.changes · (Action.overrideEffect given))
        (actions.findIdx? (Creature.usesWeapon held))
  | overrideDescription given text =>
      if Text.foldCase given == "multiattack" then .leaves
      else
        .ofIndex? (.changes · (Action.describeAs text))
          (actions.findIdx? fun action => Creature.sameName action.name given)
  | removeWeapon held => .ofIndex? .removes (actions.findIdx? (Creature.usesWeapon held))
  | remove .actions given =>
      .ofIndex? .removes (actions.findIdx? fun action => Creature.sameName action.name given)
  | _ => .leaves

theorem Touch.of_ofIndex? {touch : Nat → Touch} {index? : Option Nat} {touched : Touch}
    (same : ofIndex? touch index? = touched) :
    touched = .leaves ∨ ∃ index, index? = some index ∧ touched = touch index := by
  subst same
  cases index? with
  | none => exact .inl rfl
  | some index => exact .inr ⟨index, rfl, rfl⟩

namespace Directive

variable {directive : Directive} {actions : List Action}

theorem touch_adds {action : Action} (touched : directive.touch actions = .adds action) :
    (∃ entry, directive = .weapon entry ∧ action = Creature.weaponAction entry) ∨
      (∃ entry, directive = .attack entry ∧ action = Creature.attackAction entry) ∨
      ∃ entry, directive = .action entry ∧ action = Creature.textAction entry := by
  have notChanged {change : Action → Action} {index? : Option Nat}
      (same : Touch.ofIndex? (.changes · change) index? = .adds action) : False := by
    rcases Touch.of_ofIndex? same with impossible | ⟨_, _, impossible⟩ <;> cases impossible
  have notRemoved {index? : Option Nat}
      (same : Touch.ofIndex? .removes index? = .adds action) : False := by
    rcases Touch.of_ofIndex? same with impossible | ⟨_, _, impossible⟩ <;> cases impossible
  cases directive with
  | weapon entry =>
      cases touched
      exact .inl ⟨entry, rfl, rfl⟩
  | attack entry =>
      cases touched
      exact .inr (.inl ⟨entry, rfl, rfl⟩)
  | action entry =>
      cases touched
      exact .inr (.inr ⟨entry, rfl, rfl⟩)
  | overrideWeaponAttack | overrideWeaponEffect => exact (notChanged touched).elim
  | overrideDescription given text =>
      rw [touch] at touched
      split at touched
      · cases touched
      · exact (notChanged touched).elim
  | removeWeapon => exact (notRemoved touched).elim
  | remove place given =>
      cases place with
      | actions => exact (notRemoved touched).elim
      | _ => cases touched
  | _ => cases touched

theorem touch_changes {index : Nat} {change : Action → Action}
    (touched : directive.touch actions = .changes index change) :
    (∃ held given, directive = .overrideWeaponAttack held given ∧
        actions.findIdx? (Creature.usesWeapon held) = some index ∧
        change = Action.overrideAttack given) ∨
      (∃ held given, directive = .overrideWeaponEffect held given ∧
        actions.findIdx? (Creature.usesWeapon held) = some index ∧
        change = Action.overrideEffect given) ∨
      ∃ given text, directive = .overrideDescription given text ∧
        actions.findIdx? (fun action => Creature.sameName action.name given) = some index ∧
        change = Action.describeAs text := by
  have found {change' : Action → Action} {index? : Option Nat}
      (same : Touch.ofIndex? (.changes · change') index? = .changes index change) :
      index? = some index ∧ change = change' := by
    rcases Touch.of_ofIndex? same with impossible | ⟨index', isFound, isTouch⟩
    · cases impossible
    · cases isTouch
      exact ⟨isFound, rfl⟩
  have notRemoved {index? : Option Nat}
      (same : Touch.ofIndex? .removes index? = .changes index change) : False := by
    rcases Touch.of_ofIndex? same with impossible | ⟨_, _, impossible⟩ <;> cases impossible
  cases directive with
  | overrideWeaponAttack held given => exact .inl ⟨held, given, rfl, found touched⟩
  | overrideWeaponEffect held given => exact .inr (.inl ⟨held, given, rfl, found touched⟩)
  | overrideDescription given text =>
      rw [touch] at touched
      split at touched
      · cases touched
      · exact .inr (.inr ⟨given, text, rfl, found touched⟩)
  | removeWeapon held => exact (notRemoved touched).elim
  | remove place given =>
      cases place with
      | actions => exact (notRemoved touched).elim
      | _ => cases touched
  | _ => cases touched

end Directive

theorem Touch.apply_ofIndex? {touch : Nat → Touch} {actions after : List Action}
    {index? : Option Nat}
    (applied : index?.map (fun index => (touch index).apply actions) = some after) :
    after = (Touch.ofIndex? touch index?).apply actions := by
  cases index? with
  | none => cases applied
  | some index => exact (Option.some.inj applied).symm

namespace Creature

variable {creature after : Creature}

theorem changeWeapon_actions {tag : String} {weapon : Weapon} {change : Action → Action}
    (changed : creature.changeWeapon tag weapon change = .ok after) :
    after.actions = (Touch.ofIndex? (.changes · change)
      (creature.actions.findIdx? (usesWeapon weapon))).apply creature.actions := by
  rw [changeWeapon_eq] at changed
  split at changed
  · rename_i actions found
    cases changed
    rw [changeFirst?_eq_modify] at found
    exact Touch.apply_ofIndex? found
  · cases changed

theorem removeWeapon_actions {weapon : Weapon}
    (removed : creature.removeWeapon weapon = .ok after) :
    after.actions = (Touch.ofIndex? .removes
      (creature.actions.findIdx? (usesWeapon weapon))).apply creature.actions := by
  rw [removeWeapon_eq] at removed
  split at removed
  · rename_i actions found
    cases removed
    rw [removeFirst?_eq_eraseIdx] at found
    exact Touch.apply_ofIndex? found
  · cases removed

theorem overrideDescription_actions {name description : String}
    (overridden : creature.overrideDescription name description = .ok after) :
    after.actions =
      ((Directive.overrideDescription name description).touch creature.actions).apply
        creature.actions := by
  rw [overrideDescription_eq] at overridden
  rw [Directive.touch]
  split at overridden
  · rename_i isMultiattack
    cases overridden
    rw [if_pos isMultiattack]
    rfl
  · rename_i notMultiattack
    rw [if_neg notMultiattack]
    split at overridden
    · rename_i actions found
      cases overridden
      rw [changeFirst?_eq_modify] at found
      exact Touch.apply_ofIndex? found
    · cases overridden

theorem remove_actions {place : Section} {name : String}
    (removed : creature.remove? place name = some after) :
    after.actions =
      ((Directive.remove place name).touch creature.actions).apply creature.actions := by
  rw [remove?_eq] at removed
  cases place with
  | actions =>
      obtain ⟨actions, found, rfl⟩ := Option.map_eq_some_iff.mp removed
      rw [removeFirst?_eq_eraseIdx] at found
      exact Touch.apply_ofIndex? found
  | features =>
      have outside : .actions ∉ Directive.featureFields name := by
        rw [Directive.featureFields]
        split
        · decide
        · split <;> decide
      exact removeFeature?_frame outside removed
  | reactions =>
      obtain ⟨reactions, _, rfl⟩ := Option.map_eq_some_iff.mp removed
      rfl
  | legendaryActions =>
      obtain ⟨actions, _, rfl⟩ := Option.map_eq_some_iff.mp removed
      rfl

/-- What a directive does to the actions is what its touch does to them. -/
theorem apply_touch {directive : Directive} (applied : creature.apply directive = .ok after) :
    after.actions = (directive.touch creature.actions).apply creature.actions := by
  cases directive with
  | overrideWeaponAttack held given => exact changeWeapon_actions applied
  | overrideWeaponEffect held given => exact changeWeapon_actions applied
  | removeWeapon held => exact removeWeapon_actions applied
  | overrideDescription given text => exact overrideDescription_actions applied
  | expectWeapon expectation =>
      have kept : after.content .actions = creature.content .actions :=
        expectWeapon_frame (by decide) applied
      exact kept
  | remove place given =>
      rw [apply_remove] at applied
      split at applied
      · rename_i removed
        cases applied
        exact remove_actions removed
      · cases applied
  | subject form name =>
      cases applied
      cases form <;> rfl
  | damageTypes relation types =>
      cases applied
      cases relation <;> rfl
  | customDamage relation text =>
      cases applied
      cases relation <;> rfl
  | _ =>
      cases applied
      rfl

end Creature

/-! ### Histories -/

def Creature.histories : List Directive → Creature → List (List Directive) → List (List Directive)
  | [], _, known => known
  | directive :: others, creature, known =>
      match creature.apply directive with
      | .error _ => known
      | .ok after =>
          histories others after ((directive.touch creature.actions).record directive known)

/-- A relation that holds of an action when it is added, and is kept by each change of it. -/
structure IsHeritable (related : Action → List Directive → Prop) : Prop where
  added : ∀ {directive : Directive} {actions : List Action} {action : Action},
    directive.touch actions = .adds action → related action [directive]
  changed : ∀ {directive : Directive} {actions : List Action} {index : Nat}
    {change : Action → Action} {action : Action} {history : List Directive},
    directive.touch actions = .changes index change → actions[index]? = some action →
    related action history → related (change action) (history ++ [directive])

namespace IsHeritable

variable {related : Action → List Directive → Prop} {directive : Directive}
  {directives : List Directive} {creature after : Creature}

theorem touch (heritable : IsHeritable related) {actions : List Action}
    {known : List (List Directive)} (pairs : List.Forall₂ related actions known) :
    List.Forall₂ related ((directive.touch actions).apply actions)
      ((directive.touch actions).record directive known) := by
  cases touched : directive.touch actions with
  | adds action => exact List.rel_append pairs (.cons (heritable.added touched) .nil)
  | changes index change =>
      exact forall₂_modify pairs fun action history found holds =>
        heritable.changed touched found holds
  | removes index => exact forall₂_eraseIdx pairs index
  | leaves => exact pairs

/-- What one directive keeps of all actions and their histories, directives without includes
keep. -/
theorem run (heritable : IsHeritable related) {context : BuildContext} {room : Nat}
    {chain : List String} (plain : ∀ directive ∈ directives, directive.isInclusion = false)
    {known : List (List Directive)} (pairs : List.Forall₂ related creature.actions known)
    (applied : context.applyAll room chain directives creature = .ok after) :
    List.Forall₂ related after.actions (Creature.histories directives creature known) := by
  induction directives generalizing creature known with
  | nil =>
      rw [BuildContext.applyAll_nil] at applied
      cases applied
      exact pairs
  | cons directive others ih =>
      obtain ⟨isPlain, othersPlain⟩ := List.forall_mem_cons.mp plain
      rw [BuildContext.applyAll_cons] at applied
      obtain ⟨reached, first, applied⟩ := bind_eq_ok.mp applied
      have step := BuildContext.applyAll_plain_apply isPlain first
      rw [Creature.histories, step]
      refine ih othersPlain ?_ applied
      rw [Creature.apply_touch step]
      exact heritable.touch pairs

end IsHeritable

end Bestiary
