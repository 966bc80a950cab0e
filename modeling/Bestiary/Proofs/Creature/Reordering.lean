import Bestiary.Proofs.Creature.Influence
import Bestiary.Proofs.Creature.Splicing
import Mathlib.Data.List.FinRange

/-!
Independent directives may be reordered.

Two directives that have no field in common commute: neither changes what the
other depends on, and each writes its own fields only. A reordering that keeps
every two overlapping directives in their order is reached by such exchanges,
so it makes the same creature, or fails as the list that it came from does.
Which fault stops it first may change, and so may the name that it quotes.
-/

namespace Bestiary

open Creature (Field)

namespace Directive

/-- Two directives overlap when each of them writes or reads some one field. -/
def Overlap (first second : Directive) : Prop :=
  ∃ field, (first.Writes field ∨ first.Reads field) ∧ (second.Writes field ∨ second.Reads field)

theorem overlap_iff {first second : Directive} :
    first.Overlap second ↔ ∃ field ∈ first.footprint, field ∈ second.footprint := by
  unfold Overlap
  simp only [mem_footprint_iff]

instance (first second : Directive) : Decidable (first.Overlap second) :=
  decidable_of_iff _ overlap_iff.symm

theorem Overlap.symm {first second : Directive} (overlap : first.Overlap second) :
    second.Overlap first := by
  obtain ⟨field, ofFirst, ofSecond⟩ := overlap
  exact ⟨field, ofSecond, ofFirst⟩

/-- A directive acts on the creature, unless it concerns the document or its format. -/
def Acts (directive : Directive) : Prop :=
  directive.isInclusion = false ∧ directive.isVersion = false

def setsSize : Directive → Bool
  | size _ | sizeShortcut _ => true
  | _ => false

def concernsWeapon : Directive → Bool
  | weapon _ | removeWeapon _ | overrideWeaponAttack _ _ | overrideWeaponEffect _ _
  | expectWeapon _ => true
  | _ => false

/-- Directives in another order, in which every two that overlap keep theirs: an arrangement of
the places of a list. -/
def IsReordering (reordered directives : List Directive) : Prop :=
  ∃ order : List (Fin directives.length),
    order.Perm (List.finRange directives.length) ∧ reordered = order.map directives.get ∧
      order.Pairwise fun place later =>
        (directives.get place).Overlap (directives.get later) → place < later

end Directive

namespace Creature

variable {creature after : Creature} {first second : Directive}

/-! ### Two directives that do not overlap -/

theorem content_of_independent (independent : ¬first.Overlap second)
    (applied : creature.apply second = .ok after) :
    ∀ field ∈ first.footprint, creature.content field = after.content field := by
  intro field member
  have outside : field ∉ second.footprint := fun shared =>
    independent (Directive.overlap_iff.mpr ⟨field, member, shared⟩)
  exact (apply_frame outside applied).symm

theorem apply_independent (independent : ¬first.Overlap second)
    (applied : creature.apply second = .ok after) :
    AgreeOn (· ∈ first.footprint) (creature.apply first) (after.apply first) :=
  apply_local (content_of_independent independent applied)

theorem apply_error_of_independent {fault : ApplicationFault}
    (independent : ¬first.Overlap second) (applied : creature.apply second = .ok after)
    (failed : creature.apply first = .error fault) :
    ∃ fault', after.apply first = .error fault' := by
  have agree := apply_independent independent applied
  rw [failed] at agree
  cases outcome : after.apply first with
  | error fault' => exact ⟨fault', rfl⟩
  | ok reached =>
      rw [outcome] at agree
      exact agree.elim

theorem apply_ok_of_independent {after' : Creature} (independent : ¬first.Overlap second)
    (applied : creature.apply second = .ok after) (applied' : creature.apply first = .ok after') :
    ∃ reached, after.apply first = .ok reached ∧
      ∀ field ∈ first.footprint, after'.content field = reached.content field := by
  have agree := apply_independent independent applied
  rw [applied'] at agree
  cases outcome : after.apply first with
  | error fault =>
      rw [outcome] at agree
      exact agree.elim
  | ok reached =>
      rw [outcome] at agree
      exact ⟨reached, rfl, agree⟩

theorem reached_eq {afterFirst afterSecond reached reached' : Creature}
    (independent : ¬first.Overlap second)
    (toFirst : creature.apply first = .ok afterFirst)
    (toSecond : creature.apply second = .ok afterSecond)
    (thenSecond : afterFirst.apply second = .ok reached)
    (thenFirst : afterSecond.apply first = .ok reached')
    (sameFirst : ∀ field ∈ first.footprint, afterFirst.content field = reached'.content field)
    (sameSecond : ∀ field ∈ second.footprint,
      afterSecond.content field = reached.content field) :
    reached = reached' := by
  apply ext_content
  intro field
  by_cases inFirst : field ∈ first.footprint
  · have outside : field ∉ second.footprint := fun shared =>
      independent (Directive.overlap_iff.mpr ⟨field, inFirst, shared⟩)
    exact (apply_frame outside thenSecond).trans (sameFirst field inFirst)
  · have unchanged : reached'.content field = afterSecond.content field :=
      apply_frame inFirst thenFirst
    by_cases inSecond : field ∈ second.footprint
    · exact ((sameSecond field inSecond).symm).trans unchanged.symm
    · calc
        reached.content field = afterFirst.content field := apply_frame inSecond thenSecond
        _ = creature.content field := apply_frame inFirst toFirst
        _ = afterSecond.content field := (apply_frame inSecond toSecond).symm
        _ = reached'.content field := unchanged.symm

def reach? (creature : Creature) (directives : List Directive) : Option Creature :=
  directives.foldlM (fun reached directive => (reached.apply directive).toOption) creature

theorem reach?_cons (directive : Directive) (others : List Directive) (creature : Creature) :
    creature.reach? (directive :: others) =
      (creature.apply directive).toOption >>= fun reached => reached.reach? others :=
  List.foldlM_cons

theorem reach?_swap (independent : ¬first.Overlap second) (others : List Directive)
    (creature : Creature) :
    creature.reach? (first :: second :: others) = creature.reach? (second :: first :: others) := by
  have independent' : ¬second.Overlap first := fun overlap => independent overlap.symm
  simp only [reach?_cons]
  cases toFirst : creature.apply first with
  | error fault =>
      cases toSecond : creature.apply second with
      | error fault' => rfl
      | ok afterSecond =>
          obtain ⟨_, failed⟩ := apply_error_of_independent independent toSecond toFirst
          simp [Except.toOption, failed]
  | ok afterFirst =>
      cases toSecond : creature.apply second with
      | error fault' =>
          obtain ⟨_, failed⟩ := apply_error_of_independent independent' toFirst toSecond
          simp [Except.toOption, failed]
      | ok afterSecond =>
          obtain ⟨reached, thenSecond, sameSecond⟩ :=
            apply_ok_of_independent independent' toFirst toSecond
          obtain ⟨reached', thenFirst, sameFirst⟩ :=
            apply_ok_of_independent independent toSecond toFirst
          have same : reached = reached' :=
            reached_eq independent toFirst toSecond thenSecond thenFirst sameFirst sameSecond
          simp [Except.toOption, thenSecond, thenFirst, same]

/-! ### Lists of directives -/

/-- A directive can be moved to the front of those that it does not overlap with. -/
theorem reach?_advance {directive : Directive} {before : List Directive}
    (independent : ∀ other ∈ before, ¬other.Overlap directive) (others : List Directive)
    (creature : Creature) :
    creature.reach? (before ++ directive :: others) =
      creature.reach? (directive :: (before ++ others)) := by
  induction before generalizing creature with
  | nil => rfl
  | cons other rest ih =>
      obtain ⟨apart, restApart⟩ := List.forall_mem_cons.mp independent
      calc
        creature.reach? (other :: (rest ++ directive :: others))
            = (creature.apply other).toOption >>= fun reached =>
                reached.reach? (rest ++ directive :: others) := reach?_cons ..
        _ = (creature.apply other).toOption >>= fun reached =>
                reached.reach? (directive :: (rest ++ others)) := by
              simp only [ih restApart]
        _ = creature.reach? (other :: directive :: (rest ++ others)) := (reach?_cons ..).symm
        _ = creature.reach? (directive :: other :: (rest ++ others)) :=
              reach?_swap apart (rest ++ others) creature

theorem reach?_ordered {places : Nat} (label : Fin places → Directive)
    {order sorted : List (Fin places)} (increasing : sorted.Pairwise (· < ·))
    (complete : order.Perm sorted)
    (ordered : order.Pairwise fun place later =>
      (label place).Overlap (label later) → place < later) (creature : Creature) :
    creature.reach? (order.map label) = creature.reach? (sorted.map label) := by
  -- By the new order: its first directive comes forward past those that stood before it.
  induction order generalizing sorted creature with
  | nil => rw [complete.nil_eq]
  | cons place rest ih =>
      obtain ⟨before, behind, rfl⟩ := List.append_of_mem (complete.subset (.head rest))
      have remaining : rest.Perm (before ++ behind) :=
        (complete.trans List.perm_middle).cons_inv
      obtain ⟨placed, restOrdered⟩ := List.pairwise_cons.mp ordered
      have passes : ∀ other ∈ before.map label, ¬other.Overlap (label place) := by
        intro other member overlap
        obtain ⟨earlier, inBefore, rfl⟩ := List.mem_map.mp member
        have isEarlier : earlier < place :=
          (List.pairwise_append.mp increasing).2.2 earlier inBefore place (.head behind)
        have inRest : earlier ∈ rest := remaining.mem_iff.mpr (List.mem_append_left _ inBefore)
        exact Fin.lt_asymm isEarlier (placed earlier inRest overlap.symm)
      have restIncreasing : (before ++ behind).Pairwise (· < ·) :=
        increasing.sublist (List.sublist_append_right [place] behind |>.append_left before)
      rw [List.map_append, List.map_cons, List.map_cons, reach?_advance passes,
        ← List.map_append, reach?_cons, reach?_cons]
      simp only [ih restIncreasing remaining restOrdered]

theorem reach?_reordered {directives reordered : List Directive}
    (isReordering : Directive.IsReordering reordered directives) (creature : Creature) :
    creature.reach? reordered = creature.reach? directives := by
  obtain ⟨order, complete, rfl, ordered⟩ := isReordering
  have sorted : (List.finRange directives.length).Pairwise (· < ·) :=
    List.pairwise_lt_finRange directives.length
  rw [reach?_ordered directives.get sorted complete ordered creature, List.map_get_finRange]

end Creature

namespace BuildContext

variable {context : BuildContext}

/-- Two applications come to the same: both end with one creature, or both fail. -/
def SameOutcome (outcome outcome' : Except Halt Creature) : Prop :=
  (∃ reached, outcome = .ok reached ∧ outcome' = .ok reached) ∨
    ∃ halt halt', outcome = .error halt ∧ outcome' = .error halt'

theorem sameOutcome_of_toOption {outcome outcome' : Except Halt Creature}
    (same : outcome.toOption = outcome'.toOption) : SameOutcome outcome outcome' := by
  cases outcome with
  | ok reached => exact .inl ⟨reached, rfl, eq_ok_of_toOption same.symm⟩
  | error halt =>
      cases outcome' with
      | ok reached => cases same
      | error halt' => exact .inr ⟨halt, halt', rfl, rfl⟩

theorem applyAll_toOption {directives : List Directive}
    (acting : ∀ directive ∈ directives, directive.Acts) (room : Nat) (chain : List String)
    (creature : Creature) :
    (context.applyAll room chain directives creature).toOption = creature.reach? directives := by
  induction directives generalizing creature with
  | nil =>
      rw [applyAll_nil]
      rfl
  | cons directive others ih =>
      obtain ⟨⟨plain, unversioned⟩, othersAct⟩ := List.forall_mem_cons.mp acting
      obtain ⟨enter, single⟩ := context.applyAll_single room chain directive creature
      rw [applyAll_cons, single, applyStep_acting plain unversioned, Creature.reach?_cons]
      cases creature.apply directive with
      | error fault => rfl
      | ok reached => exact ih othersAct reached

theorem acts_of_setsSize {directive : Directive} (sizes : directive.setsSize = true) :
    directive.Acts := by
  cases directive <;> first | exact ⟨rfl, rfl⟩ | cases sizes

theorem acts_of_concernsWeapon {directive : Directive} (armed : directive.concernsWeapon = true) :
    directive.Acts := by
  cases directive <;> first | exact ⟨rfl, rfl⟩ | cases armed

/-- What a weapon does at the size of its bearer is resolved only in the end. -/
theorem not_overlap_of_size {armed sized : Directive} (weapon : armed.concernsWeapon = true)
    (sizes : sized.setsSize = true) : ¬armed.Overlap sized := by
  have fields : sized.footprint = [.size] := by
    cases sized <;> first | rfl | cases sizes
  have elsewhere : Field.size ∉ armed.footprint := by
    cases armed <;> first | (simp [Directive.footprint]; done) | cases weapon
  rintro overlap
  obtain ⟨field, member, shared⟩ := Directive.overlap_iff.mp overlap
  rw [fields, List.mem_singleton] at shared
  exact elsewhere (shared ▸ member)

/-- Directives that write or read no field in common, by the table of their footprints, may be
reordered on any creature: both lists apply and make the same creature, or both fail. In particular
a size may be set anywhere among weapons. -/
theorem applyAll_reordered (context : BuildContext) (room : Nat) (chain : List String)
    (creature : Creature) :
    (∀ (directive : Directive) (field : Creature.Field),
      directive.Writes field ∨ directive.Reads field ↔ field ∈ directive.footprint) ∧
    (∀ first second : Directive,
      first.Overlap second ↔ ∃ field ∈ first.footprint, field ∈ second.footprint) ∧
    (∀ directives reordered : List Directive, (∀ directive ∈ directives, directive.Acts) →
      Directive.IsReordering reordered directives →
      SameOutcome (context.applyAll room chain directives creature)
        (context.applyAll room chain reordered creature)) ∧
    ∀ (sized : Directive) (before behind : List Directive), sized.setsSize = true →
      (∀ directive ∈ before ++ behind, directive.concernsWeapon = true) →
      SameOutcome (context.applyAll room chain (before ++ sized :: behind) creature)
        (context.applyAll room chain (sized :: (before ++ behind)) creature) := by
  refine ⟨fun _ _ => Directive.mem_footprint_iff.symm, fun _ _ => Directive.overlap_iff, ?_, ?_⟩
  · intro directives reordered acting isReordering
    have reorderedActs : ∀ directive ∈ reordered, directive.Acts := by
      obtain ⟨order, _, rfl, _⟩ := isReordering
      intro directive member
      obtain ⟨place, _, rfl⟩ := List.mem_map.mp member
      exact acting _ (List.get_mem directives place)
    apply sameOutcome_of_toOption
    rw [applyAll_toOption acting, applyAll_toOption reorderedActs,
      Creature.reach?_reordered isReordering]
  · intro sized before behind sizes armed
    have passes : ∀ other ∈ before, ¬other.Overlap sized := fun other member =>
      not_overlap_of_size (armed other (List.mem_append_left behind member)) sizes
    have acting : ∀ directive ∈ sized :: (before ++ behind), directive.Acts :=
      List.forall_mem_cons.mpr
        ⟨acts_of_setsSize sizes, fun other member => acts_of_concernsWeapon (armed other member)⟩
    have actingBetween : ∀ directive ∈ before ++ sized :: behind, directive.Acts :=
      fun directive member => acting directive (List.perm_middle.mem_iff.mp member)
    apply sameOutcome_of_toOption
    rw [applyAll_toOption acting, applyAll_toOption actingBetween,
      Creature.reach?_advance passes]

theorem applyAll_reordered_weapon :
    let expectation := WeaponExpectation.attack .longsword (Weapon.attack .longsword 0)
    let directives : List Directive :=
      [.weapon ⟨.longsword, 0, 0, []⟩, .size .large, .expectWeapon expectation, .saves [.wisdom]]
    let reordered : List Directive :=
      [.saves [.wisdom], .weapon ⟨.longsword, 0, 0, []⟩, .expectWeapon expectation, .size .large]
    (∀ directive ∈ directives, directive.Acts) ∧ Directive.IsReordering reordered directives ∧
      SameOutcome (({} : BuildContext).applyAll 0 [] directives {})
        (({} : BuildContext).applyAll 0 [] reordered {}) ∧
      SameOutcome
        (({} : BuildContext).applyAll 0 [] [.weapon ⟨.longsword, 0, 0, []⟩, .size .large] {})
        (({} : BuildContext).applyAll 0 [] [.size .large, .weapon ⟨.longsword, 0, 0, []⟩] {}) := by
  intro expectation directives reordered
  have acting : ∀ directive ∈ directives, directive.Acts := by
    simp [directives, Directive.Acts, Directive.isInclusion, Directive.isVersion]
  have isReordering : Directive.IsReordering reordered directives := by
    refine ⟨[3, 0, 2, 1], by decide, rfl, ?_⟩
    decide
  obtain ⟨_, _, anyOrder, anySize⟩ := applyAll_reordered {} 0 [] {}
  refine ⟨acting, isReordering, anyOrder directives reordered acting isReordering, ?_⟩
  refine anySize (.size .large) [.weapon ⟨.longsword, 0, 0, []⟩] [] rfl ?_
  exact List.forall_mem_singleton.mpr rfl

end BuildContext

end Bestiary
