import Mathlib.Algebra.BigOperators.Group.List.Basic
import Mathlib.Algebra.Ring.Int.Defs
import Mathlib.Data.List.Nodup
import Bestiary.Dice.Basic

/-!
What becomes of the terms of dice that are added up.

Every term of a sum is gathered from terms of one kind, which are dice of one
die with one factor: from a term that founds it and others that join it, whose
counts are added to its own. No term is left out and none is used twice. The
terms of the first summand found the first terms of the sum, so a term that
joins nothing there founds a new one, which later terms may join.
-/

namespace Bestiary

namespace DiceTerm

def kind (term : DiceTerm) : Die × Rat :=
  (term.die, term.factor)

theorem sameKind_iff {first second : DiceTerm} :
    first.sameKind second = true ↔ first.kind = second.kind := by
  simp only [sameKind, kind, Bool.and_eq_true, beq_iff_eq, Prod.mk.injEq]

end DiceTerm

def Dice.kinds (dice : Dice) : List (Die × Rat) :=
  dice.terms.map DiceTerm.kind

/-- The number of dice of a kind among some terms. -/
def countOf (kind : Die × Rat) (terms : List DiceTerm) : Int :=
  ((terms.filter fun term => term.kind = kind).map DiceTerm.count).sum

theorem countOf_append (kind : Die × Rat) (first second : List DiceTerm) :
    countOf kind (first ++ second) = countOf kind first + countOf kind second := by
  rw [countOf, List.filter_append, List.map_append, List.sum_append]
  rfl

theorem countOf_perm (kind : Die × Rat) {first second : List DiceTerm}
    (permuted : first.Perm second) : countOf kind first = countOf kind second :=
  ((permuted.filter _).map _).sum_eq

theorem countOf_uniform {kind shared : Die × Rat} {terms : List DiceTerm}
    (uniform : ∀ term ∈ terms, term.kind = shared) :
    countOf kind terms = if shared = kind then (terms.map DiceTerm.count).sum else 0 := by
  unfold countOf
  split
  · next same =>
      rw [List.filter_eq_self.mpr fun term member =>
        decide_eq_true ((uniform term member).trans same)]
  · next different =>
      rw [List.filter_eq_nil_iff.mpr fun term member isKind =>
        different ((uniform term member).symm.trans (of_decide_eq_true isKind))]
      rfl

/-! ### Terms that are gathered -/

/-- A term and the terms of its kind that have joined it. -/
structure Gathering where
  founder : DiceTerm
  joined : List DiceTerm
  alike : ∀ term ∈ joined, term.kind = founder.kind

namespace Gathering

def members (gathering : Gathering) : List DiceTerm :=
  gathering.founder :: gathering.joined

def term (gathering : Gathering) : DiceTerm :=
  { gathering.founder with
    count := gathering.founder.count + (gathering.joined.map DiceTerm.count).sum }

def alone (founder : DiceTerm) : Gathering :=
  ⟨founder, [], List.forall_mem_nil _⟩

def join (gathering : Gathering) (incoming : DiceTerm)
    (same : incoming.kind = gathering.founder.kind) : Gathering :=
  ⟨gathering.founder, gathering.joined ++ [incoming],
    List.forall_mem_append.mpr ⟨gathering.alike, List.forall_mem_singleton.mpr same⟩⟩

theorem term_alone (founder : DiceTerm) : (alone founder).term = founder := by
  simp [term, alone]

theorem term_join (gathering : Gathering) (incoming : DiceTerm)
    (same : incoming.kind = gathering.founder.kind) :
    (gathering.join incoming same).term =
      { gathering.term with count := gathering.term.count + incoming.count } := by
  simp [term, join, Int.add_assoc]

theorem countOf_members (kind : Die × Rat) (gathering : Gathering) :
    countOf kind gathering.members = countOf kind [gathering.term] := by
  have uniform : ∀ term ∈ gathering.members, term.kind = gathering.founder.kind :=
    List.forall_mem_cons.mpr ⟨rfl, gathering.alike⟩
  have alone : ∀ term ∈ [gathering.term], term.kind = gathering.founder.kind :=
    List.forall_mem_singleton.mpr rfl
  rw [countOf_uniform uniform, countOf_uniform alone]
  simp [members, term]

def gather : List Gathering → DiceTerm → List Gathering
  | [], incoming => [alone incoming]
  | head :: rest, incoming =>
      if same : incoming.kind = head.founder.kind then head.join incoming same :: rest
      else head :: gather rest incoming

theorem gather_terms (gatherings : List Gathering) (incoming : DiceTerm) :
    (gather gatherings incoming).map term = Dice.absorb (gatherings.map term) incoming := by
  induction gatherings with
  | nil => exact congrArg ([·]) (term_alone incoming)
  | cons head rest ih =>
      have isKind : head.term.sameKind incoming = true ↔ incoming.kind = head.founder.kind :=
        DiceTerm.sameKind_iff.trans eq_comm
      rw [gather, List.map_cons, Dice.absorb]
      split
      · next same => rw [if_pos (isKind.mpr same), List.map_cons, term_join]
      · next different => rw [if_neg (different ∘ isKind.mp), List.map_cons, ih]

theorem gather_members (gatherings : List Gathering) (incoming : DiceTerm) :
    ((gather gatherings incoming).flatMap members).Perm
      (gatherings.flatMap members ++ [incoming]) := by
  induction gatherings with
  | nil => exact .refl _
  | cons head rest ih =>
      rw [gather, List.flatMap_cons, List.append_assoc]
      split
      · next same =>
          -- The newcomer stands before the members of the gatherings after its own.
          have moved : ([incoming] ++ rest.flatMap members).Perm
              (rest.flatMap members ++ [incoming]) :=
            List.perm_append_comm
          have members : (head.join incoming same).members = head.members ++ [incoming] := rfl
          rw [List.flatMap_cons, members, List.append_assoc]
          exact moved.append_left _
      · rw [List.flatMap_cons]
        exact ih.append_left _

theorem gather_founders (gatherings : List Gathering) (incoming : DiceTerm) :
    gatherings.map founder <+: (gather gatherings incoming).map founder := by
  induction gatherings with
  | nil => exact List.nil_prefix
  | cons head rest ih =>
      rw [gather]
      split
      · exact List.prefix_rfl
      · exact List.cons_prefix_cons.mpr ⟨rfl, ih⟩

end Gathering

/-! ### Sums -/

namespace Dice

/-- A term that joins another changes no kinds; one that does not stands last with its own. -/
theorem kinds_absorb (terms : List DiceTerm) (incoming : DiceTerm) :
    (absorb terms incoming).map DiceTerm.kind =
      if incoming.kind ∈ terms.map DiceTerm.kind then terms.map DiceTerm.kind
      else terms.map DiceTerm.kind ++ [incoming.kind] := by
  induction terms with
  | nil => rfl
  | cons head rest ih =>
      rw [absorb]
      split
      · next same =>
          have isHead : incoming.kind = head.kind := (DiceTerm.sameKind_iff.mp same).symm
          rw [List.map_cons, List.map_cons, if_pos (isHead ▸ List.mem_cons_self)]
          rfl
      · next different =>
          have notHead : incoming.kind ≠ head.kind :=
            different ∘ DiceTerm.sameKind_iff.mpr ∘ Eq.symm
          rw [List.map_cons, ih, List.map_cons]
          simp only [List.mem_cons, notHead, false_or]
          split <;> rfl

theorem nodup_absorb {terms : List DiceTerm} (distinct : (terms.map DiceTerm.kind).Nodup)
    (incoming : DiceTerm) : ((absorb terms incoming).map DiceTerm.kind).Nodup := by
  rw [kinds_absorb]
  split
  · exact distinct
  · next isNew => exact List.nodup_append_comm.mp (List.nodup_cons.mpr ⟨isNew, distinct⟩)

theorem nodup_kinds_addDice {dice : Dice} (distinct : dice.kinds.Nodup) (other : Dice) :
    (dice.addDice other).kinds.Nodup := by
  have absorbed (incoming terms : List DiceTerm) (distinct : (terms.map DiceTerm.kind).Nodup) :
      ((incoming.foldl absorb terms).map DiceTerm.kind).Nodup := by
    induction incoming generalizing terms with
    | nil => exact distinct
    | cons first others ih => exact ih _ (nodup_absorb distinct first)
  exact absorbed other.terms dice.terms distinct

/-- The terms of a sum are gathered from the terms of both summands, and those of the first one
found the first terms of the sum. -/
theorem addDice_gathers (dice other : Dice) :
    ∃ gatherings : List Gathering,
      (dice.addDice other).terms = gatherings.map Gathering.term ∧
      dice.terms <+: gatherings.map Gathering.founder ∧
      (gatherings.flatMap Gathering.members).Perm (dice.terms ++ other.terms) := by
  have gathered (incoming : List DiceTerm) (gatherings : List Gathering) :
      ∃ after : List Gathering,
        incoming.foldl absorb (gatherings.map Gathering.term) = after.map Gathering.term ∧
        gatherings.map Gathering.founder <+: after.map Gathering.founder ∧
        (after.flatMap Gathering.members).Perm
          (gatherings.flatMap Gathering.members ++ incoming) := by
    induction incoming generalizing gatherings with
    | nil => exact ⟨gatherings, rfl, List.prefix_rfl, by rw [List.append_nil]⟩
    | cons first others ih =>
        obtain ⟨after, terms, founders, members⟩ := ih (Gathering.gather gatherings first)
        refine ⟨after, ?_, (Gathering.gather_founders gatherings first).trans founders, ?_⟩
        · rw [List.foldl_cons, ← Gathering.gather_terms, terms]
        · rw [← List.singleton_append, ← List.append_assoc]
          exact members.trans ((Gathering.gather_members gatherings first).append_right others)
  -- At the start every term of the first summand stands alone.
  obtain ⟨after, terms, founders, members⟩ := gathered other.terms (dice.terms.map Gathering.alone)
  have termsAlone : (dice.terms.map Gathering.alone).map Gathering.term = dice.terms := by
    rw [List.map_map]
    exact List.map_id'' Gathering.term_alone _
  have foundersAlone : (dice.terms.map Gathering.alone).map Gathering.founder = dice.terms := by
    rw [List.map_map]
    exact List.map_id _
  have membersAlone : (dice.terms.map Gathering.alone).flatMap Gathering.members = dice.terms := by
    rw [List.flatMap_map]
    exact List.flatMap_singleton' _
  rw [termsAlone] at terms
  rw [foundersAlone] at founders
  rw [membersAlone] at members
  exact ⟨after, terms, founders, members⟩

theorem countOf_gathered (kind : Die × Rat) (gatherings : List Gathering) :
    countOf kind (gatherings.map Gathering.term) =
      countOf kind (gatherings.flatMap Gathering.members) := by
  induction gatherings with
  | nil => rfl
  | cons head rest ih =>
      rw [List.map_cons, ← List.singleton_append, countOf_append, ih, List.flatMap_cons,
        countOf_append, head.countOf_members]

theorem withExtraDice_cons {dice : Dice} {head : DiceTerm} {rest : List DiceTerm}
    (isTerms : dice.terms = head :: rest) (count : Int) :
    dice.withExtraDice count =
      ⟨{ head with count := head.count + count } :: rest, dice.addend⟩ := by
  have same : head.sameKind { head with count := count } = true :=
    DiceTerm.sameKind_iff.mpr rfl
  simp only [withExtraDice, addDice, isTerms, List.foldl_cons, List.foldl_nil, absorb, same,
    if_true, Int.add_zero]

/-- Adding dice neither loses nor duplicates any, and merges only dice of one kind. For every die
and factor the numbers of dice add up, and so do the constants; the terms of the first summand stay
in front; if their kinds are distinct, so are those of the sum. Extra dice of the leading kind
change the count of the leading term alone. -/
theorem addDice_keeps_dice (dice other : Dice) :
    (∀ kind : Die × Rat,
      countOf kind (dice.addDice other).terms =
        countOf kind dice.terms + countOf kind other.terms) ∧
    (dice.addDice other).addend = dice.addend + other.addend ∧
    dice.kinds <+: (dice.addDice other).kinds ∧
    (dice.kinds.Nodup → (dice.addDice other).kinds.Nodup) ∧
    (∃ gatherings : List Gathering,
      (dice.addDice other).terms = gatherings.map Gathering.term ∧
      dice.terms <+: gatherings.map Gathering.founder ∧
      (gatherings.flatMap Gathering.members).Perm (dice.terms ++ other.terms)) ∧
    (∀ (count : Int) (head : DiceTerm) (rest : List DiceTerm), dice.terms = head :: rest →
      dice.withExtraDice count =
        ⟨{ head with count := head.count + count } :: rest, dice.addend⟩) := by
  obtain ⟨gatherings, terms, founders, members⟩ := dice.addDice_gathers other
  refine ⟨fun kind => ?counts, rfl, ?kinds, (nodup_kinds_addDice · other),
    ⟨gatherings, terms, founders, members⟩,
    fun count _ _ isTerms => withExtraDice_cons isTerms count⟩
  case counts =>
    rw [terms, countOf_gathered, countOf_perm kind members, countOf_append]
  case kinds =>
    have kindsEq : (dice.addDice other).kinds =
        (gatherings.map Gathering.founder).map DiceTerm.kind := by
      rw [kinds, terms, List.map_map, List.map_map]
      rfl
    rw [kindsEq]
    exact founders.map DiceTerm.kind

theorem addDice_keeps_dice_repeated :
    let dice : Dice := ⟨[⟨2, .d4, 1⟩], 1⟩
    let other : Dice := ⟨[⟨1, .d6, 1⟩, ⟨1, .d4, -1⟩, ⟨3, .d6, 1⟩, ⟨1, .d4, 1⟩], 2⟩
    dice.addDice other = ⟨[⟨3, .d4, 1⟩, ⟨4, .d6, 1⟩, ⟨1, .d4, -1⟩], 3⟩ ∧
      countOf (.d4, 1) (dice.addDice other).terms = 2 + 1 ∧
      countOf (.d6, 1) (dice.addDice other).terms = 0 + 4 ∧
      (dice.addDice other).kinds.Nodup ∧
      dice.withExtraDice 5 = ⟨[⟨7, .d4, 1⟩], 1⟩ := by
  intro dice other
  obtain ⟨counts, _, _, distinct, _, extra⟩ := addDice_keeps_dice dice other
  exact ⟨by decide +kernel, counts (.d4, 1), counts (.d6, 1), distinct (List.nodup_singleton _),
    extra 5 _ _ rfl⟩

end Dice

end Bestiary
