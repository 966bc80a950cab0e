import Bestiary.Proofs.Prose.Fragment

/-!
Tokens spell a text in one way only.

Where an expression ends is settled by the token after it, where a directive
ends by the first closing bracket, and what kind of directive it is by its
first and its last token.
-/

namespace Bestiary.Prose

open Text

/-- Two derivations from the same tokens, each going as far as it can, are of one expression. -/
theorem Derives.determined {first second rest rest' : List Located}
    {expression expression' : Expression} (same : first ++ rest = second ++ rest')
    (derived : Derives .choice first expression) (stops : StopsBefore .choice rest)
    (derived' : Derives .choice second expression') (stops' : StopsBefore .choice rest') :
    expression = expression' ∧ rest = rest' := by
  -- The reader takes both, and it gives one answer.
  obtain ⟨_, accepted⟩ : ∃ fewer, scanChoice Place.start (second ++ rest') =
      .ok (expression, ⟨rest, fewer⟩) :=
    scanChoice_eq_ok_iff.mpr ⟨first, same.symm, derived, stops⟩
  obtain ⟨_, accepted'⟩ := derived'.readsBack Place.start rest' stops'
  rw [accepted] at accepted'
  cases accepted'
  exact ⟨rfl, rfl⟩

/-! ### Tokens that do not stand within expressions -/

def Token.isWithin : Token → Bool
  | closing => false
  | command _ => false
  | _ => true

theorem Derives.within {level : Precedence} {written : List Located} {expression : Expression}
    (derived : Derives level written expression) :
    ∀ located ∈ written, located.token.isWithin = true := by
  induction derived with
  | @literal token value place found =>
      intro located member
      cases List.mem_singleton.mp member
      cases token <;> first | rfl | cases found
  | reference place word =>
      intro located member
      cases List.mem_singleton.mp member
      rfl
  | parentheses left right _ ih =>
      intro located member
      rcases List.mem_cons.mp member with rfl | member
      · rfl
      · rcases List.mem_append.mp member with inside | last
        · exact ih located inside
        · cases List.mem_singleton.mp last
          rfl
  | operand _ ih => exact ih
  | @prefixed token operator written operand place found _ ih =>
      intro located member
      rcases List.mem_cons.mp member with rfl | inside
      · cases token <;> first | rfl | cases found
      · exact ih located inside
  | factor _ ih => exact ih
  | @scaled token operator before after left right place _ found _ ihLeft ihRight =>
      intro located member
      rcases List.mem_append.mp member with inLeft | member
      · exact ihLeft located inLeft
      · rcases List.mem_cons.mp member with rfl | inRight
        · cases token <;> first | rfl | cases found
        · exact ihRight located inRight
  | addend _ ih => exact ih
  | @added token operator before after left right place _ found _ ihLeft ihRight =>
      intro located member
      rcases List.mem_append.mp member with inLeft | member
      · exact ihLeft located inLeft
      · rcases List.mem_cons.mp member with rfl | inRight
        · cases token <;> first | rfl | cases found
        · exact ihRight located inRight
  | unconditional _ ih => exact ih
  | conditional place divider _ _ _ ihQuestion ihYes ihNo =>
      intro located member
      rcases List.mem_append.mp member with inQuestion | member
      · exact ihQuestion located inQuestion
      · rcases List.mem_cons.mp member with rfl | member
        · rfl
        · rcases List.mem_append.mp member with inYes | member
          · exact ihYes located inYes
          · rcases List.mem_cons.mp member with rfl | inNo
            · rfl
            · exact ihNo located inNo

def Token.starts : Token → Bool
  | plus | minus | dollar | openParen => true
  | quoted _ | number _ | dice _ | name _ => true
  | _ => false

theorem Derives.starts {level : Precedence} {written : List Located} {expression : Expression}
    (derived : Derives level written expression) {first : Located}
    (isFirst : first ∈ written.head?) : first.token.starts = true := by
  induction derived with
  | @literal token value place found =>
      cases isFirst
      cases token <;> first | rfl | cases found
  | reference place word =>
      cases isFirst
      rfl
  | parentheses left right _ _ =>
      cases isFirst
      rfl
  | operand _ ih => exact ih isFirst
  | @prefixed token operator written operand place found _ _ =>
      cases isFirst
      cases token <;> first | rfl | cases found
  | factor _ ih => exact ih isFirst
  | @scaled token operator before after left right place leftDerived _ _ ihLeft _ =>
      cases before with
      | nil => exact leftDerived.ne_nil.elim
      | cons head tail => exact ihLeft isFirst
  | addend _ ih => exact ih isFirst
  | @added token operator before after left right place leftDerived _ _ ihLeft _ =>
      cases before with
      | nil => exact leftDerived.ne_nil.elim
      | cons head tail => exact ihLeft isFirst
  | unconditional _ ih => exact ih isFirst
  | @conditional question yes no condition chosen otherwise place divider questionDerived _ _
      ihQuestion _ _ =>
      cases question with
      | nil => exact questionDerived.ne_nil.elim
      | cons head tail => exact ihQuestion isFirst

theorem Derives.not_closeParen {level : Precedence} {written : List Located}
    {expression : Expression} (derived : Derives level written expression) {first : Located}
    (isFirst : first ∈ written.head?) : first.token ≠ .closeParen := by
  intro isCloseParen
  have starts := derived.starts isFirst
  rw [isCloseParen] at starts
  cases starts

/-! ### Arguments -/

theorem SpellsArguments.within {written : List Located} {fragments : List Fragment}
    (spelled : SpellsArguments written fragments) :
    ∀ located ∈ written, located.token.isWithin = true := by
  induction spelled with
  | none =>
      intro located member
      cases member
  | next derived _ _ ih =>
      intro located member
      rw [← List.cons_append] at member
      rcases List.mem_append.mp member with inFirst | inOthers
      · exact derived.within located inFirst
      · exact ih located inOthers

theorem SpellsArguments.determined {written : List Located} {fragments fragments' : List Fragment}
    (spelled : SpellsArguments written fragments) (spelled' : SpellsArguments written fragments') :
    fragments = fragments' := by
  induction spelled generalizing fragments' with
  | none =>
      cases spelled'
      rfl
  | @next first written others expression fragments derived stops _ ih =>
      generalize writtenEq : first :: (written ++ others) = tokens at spelled'
      cases spelled' with
      | none => cases writtenEq
      | @next first' written' others' expression' fragments' derived' stops' spelledOthers' =>
          obtain rfl : first = first' := (List.cons.inj writtenEq).1
          obtain ⟨rfl, rfl⟩ := derived.determined writtenEq stops derived' stops'
          rw [ih spelledOthers']

theorem SpellsArguments.not_append_closeParen {written : List Located}
    {fragments fragments' : List Fragment} {place : Place}
    (spelled : SpellsArguments written fragments)
    (longer : SpellsArguments (written ++ [⟨.closeParen, place⟩]) fragments') : False := by
  induction spelled generalizing fragments' with
  | none =>
      generalize writtenEq : ([] ++ [⟨.closeParen, place⟩] : List Located) = tokens at longer
      cases longer with
      | none => cases writtenEq
      | next derived _ _ =>
          rw [← (List.cons.inj writtenEq).1] at derived
          exact derived.not_closeParen rfl rfl
  | @next first written others expression fragments derived stops _ ih =>
      generalize writtenEq :
        (first :: (written ++ others)) ++ [⟨.closeParen, place⟩] = tokens at longer
      cases longer with
      | none => cases writtenEq
      | @next first' written' others' expression' fragments' derived' stops' spelledOthers' =>
          -- A closing parenthesis does not let the first argument go on either.
          have stopsLonger : StopsBefore .choice (others ++ [⟨.closeParen, place⟩]) := by
            cases others with
            | nil => exact stopsBefore_cons.mpr rfl
            | cons head tail => exact stopsBefore_cons.mpr (stopsBefore_cons.mp stops)
          have same : (first :: written) ++ (others ++ [⟨.closeParen, place⟩]) =
              (first' :: written') ++ others' := by
            rw [← List.append_assoc]
            exact writtenEq
          obtain ⟨_, rfl⟩ := derived.determined same stopsLonger derived' stops'
          exact ih spelledOthers'

/-! ### Directives -/

theorem SpellsDirective.not_closing {inside : List Located} {fragments : List Fragment}
    (spelled : SpellsDirective inside fragments) :
    ∀ located ∈ inside, located.token ≠ .closing := by
  have notClosing {written : List Located}
      (within : ∀ located ∈ written, located.token.isWithin = true) :
      ∀ located ∈ written, located.token ≠ .closing := by
    intro located member isClosing
    have isWithin := within located member
    rw [isClosing] at isWithin
    cases isWithin
  cases spelled with
  | value derived => exact notClosing derived.within
  | close place =>
      intro located member
      cases List.mem_singleton.mp member
      exact Token.noConfusion
  | start opened place arguments =>
      intro located member
      rcases List.mem_cons.mp member with rfl | inArguments
      · exact Token.noConfusion
      · exact notClosing arguments.within located inArguments
  | whole opened place closing arguments =>
      intro located member
      rcases List.mem_cons.mp member with rfl | member
      · exact Token.noConfusion
      · rcases List.mem_append.mp member with inArguments | last
        · exact notClosing arguments.within located inArguments
        · cases List.mem_singleton.mp last
          exact Token.noConfusion

theorem SpellsDirective.determined {inside : List Located} {fragments fragments' : List Fragment}
    (spelled : SpellsDirective inside fragments) (spelled' : SpellsDirective inside fragments') :
    fragments = fragments' := by
  cases spelled with
  | @value first written expression derived =>
      have firstWithin := derived.within first List.mem_cons_self
      generalize insideEq : first :: written = tokens at spelled'
      cases spelled' with
      | @value first' written' expression' derived' =>
          obtain ⟨rfl, rfl⟩ := List.cons.inj insideEq
          obtain ⟨rfl, _⟩ := derived.determined rfl (stopsBefore_nil .choice) derived'
            (stopsBefore_nil .choice)
          rfl
      | close place =>
          obtain ⟨rfl, rfl⟩ := List.cons.inj insideEq
          exact (derived.not_closeParen rfl rfl).elim
      | start opened place _ =>
          rw [(List.cons.inj insideEq).1] at firstWithin
          cases firstWithin
      | whole opened place closing _ =>
          rw [(List.cons.inj insideEq).1] at firstWithin
          cases firstWithin
  | close place =>
      generalize insideEq : ([⟨.closeParen, place⟩] : List Located) = tokens at spelled'
      cases spelled' with
      | value derived =>
          rw [← (List.cons.inj insideEq).1] at derived
          exact (derived.not_closeParen rfl rfl).elim
      | close place' =>
          cases insideEq
          rfl
      | start opened place' _ => cases insideEq
      | whole opened place' closing _ => cases insideEq
  | @start arguments argumentFragments opened place spelledArguments =>
      generalize insideEq : (⟨.command opened, place⟩ :: arguments : List Located) = tokens
        at spelled'
      cases spelled' with
      | @value first' written' expression' derived' =>
          have firstWithin := derived'.within first' List.mem_cons_self
          rw [← (List.cons.inj insideEq).1] at firstWithin
          cases firstWithin
      | close place' => cases insideEq
      | @start arguments' argumentFragments' opened' place' spelledArguments' =>
          cases insideEq
          rw [spelledArguments.determined spelledArguments']
      | whole opened' place' closing spelledArguments' =>
          cases insideEq
          exact (spelledArguments'.not_append_closeParen spelledArguments).elim
  | @whole arguments argumentFragments opened place closing spelledArguments =>
      generalize insideEq :
        (⟨.command opened, place⟩ :: (arguments ++ [⟨.closeParen, closing⟩]) : List Located) =
          tokens at spelled'
      cases spelled' with
      | @value first' written' expression' derived' =>
          have firstWithin := derived'.within first' List.mem_cons_self
          rw [← (List.cons.inj insideEq).1] at firstWithin
          cases firstWithin
      | close place' => cases insideEq
      | start opened' place' spelledArguments' =>
          cases insideEq
          exact (spelledArguments.not_append_closeParen spelledArguments').elim
      | @whole arguments' argumentFragments' opened' place' closing' spelledArguments' =>
          obtain ⟨headEq, tailEq⟩ := List.cons.inj insideEq
          cases headEq
          obtain ⟨rfl, lastEq⟩ := List.append_inj' tailEq rfl
          cases lastEq
          rw [spelledArguments.determined spelledArguments']

/-! ### Whole texts -/

/-- The first closing bracket ends a directive. -/
theorem directive_split {inside inside' tail tail' : List Located} {closing closing' : Place}
    (same : inside ++ ⟨.closing, closing⟩ :: tail = inside' ++ ⟨.closing, closing'⟩ :: tail')
    (insideOpen : ∀ located ∈ inside, located.token ≠ .closing)
    (insideOpen' : ∀ located ∈ inside', located.token ≠ .closing) :
    inside = inside' ∧ tail = tail' := by
  have cut {part after : List Located} {place : Place}
      (isOpen : ∀ located ∈ part, located.token ≠ .closing) :
      (part ++ ⟨.closing, place⟩ :: after).takeWhile (fun located => located.token != .closing) =
        part := by
    have keeps : ∀ located ∈ part, (located.token != .closing) = true :=
      fun located member => bne_iff_ne.mpr (isOpen located member)
    rw [List.takeWhile_append_of_pos keeps]
    simp
  have insideEq : inside = inside' := by
    rw [← cut insideOpen, same, cut insideOpen']
  subst insideEq
  have tailEq := List.append_cancel_left same
  exact ⟨rfl, (List.cons.inj tailEq).2⟩

/-- Tokens spell at most one row of fragments. -/
theorem Spells.determined {tokens : List Located} {fragments fragments' : List Fragment}
    (spelled : Spells tokens fragments) (spelled' : Spells tokens fragments') :
    fragments = fragments' := by
  induction spelled generalizing fragments' with
  | finish =>
      cases spelled'
      rfl
  | literal place content _ ih =>
      cases spelled' with
      | literal _ _ others => rw [ih others]
  | boldMark place _ ih =>
      cases spelled' with
      | boldMark _ others => rw [ih others]
  | italicMark place _ ih =>
      cases spelled' with
      | italicMark _ others => rw [ih others]
  | breaks place _ ih =>
      cases spelled' with
      | breaks _ others => rw [ih others]
  | @directive inside tail fragments others opening closing spelledInside _ ih =>
      generalize tokensEq : (⟨.opening, opening⟩ ::
        (inside ++ ⟨.closing, closing⟩ :: tail) : List Located) = tokens at spelled'
      cases spelled' with
      | finish => cases tokensEq
      | literal _ _ _ => cases tokensEq
      | boldMark _ _ => cases tokensEq
      | italicMark _ _ => cases tokensEq
      | breaks _ _ => cases tokensEq
      | directive opening' closing' spelledInside' spelledTail' =>
          -- Both end at the first closing bracket, so they have the same inside and tail.
          obtain ⟨rfl, rfl⟩ := directive_split (List.cons.inj tokensEq).2
            spelledInside.not_closing spelledInside'.not_closing
          rw [spelledInside.determined spelledInside', ih spelledTail']

end Bestiary.Prose
