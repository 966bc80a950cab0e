import Bestiary.Prose.Expression
import Bestiary.Proofs.Outcome

/-!
The grammar of expressions, and the reader's agreement with it.

Tokens derive an expression at one of five levels of binding. Sums and
products grow on their right end, so they associate to the left; a choice
nests to the right. The reader takes as much as it can: it stops only before
a token that could not continue the level it reads.
-/

namespace Bestiary.Prose

open Text

/-- How tightly a part of an expression binds, the loosest first. -/
inductive Precedence
  | choice
  | sum
  | product
  | unary
  | term
  deriving DecidableEq, Repr

inductive Derives : Precedence → List Located → Expression → Prop
  | literal {token : Token} {value : ProseValue} (place : Place) :
      literalValue? token = some value →
      Derives .term [⟨token, place⟩] (.literal place value)
  | reference (place : Place) (word : String) :
      Derives .term [⟨.name word, place⟩] (.reference place word)
  | parentheses {written : List Located} {inner : Expression} (left right : Place) :
      Derives .choice written inner →
      Derives .term (⟨.openParen, left⟩ :: (written ++ [⟨.closeParen, right⟩])) inner
  | operand {written : List Located} {expression : Expression} :
      Derives .term written expression →
      Derives .unary written expression
  | prefixed {token : Token} {operator : UnaryOperator} {written : List Located}
      {operand : Expression} (place : Place) :
      unaryOperator? token = some operator →
      Derives .unary written operand →
      Derives .unary (⟨token, place⟩ :: written) (.unary place operator operand)
  | factor {written : List Located} {expression : Expression} :
      Derives .unary written expression →
      Derives .product written expression
  | scaled {token : Token} {operator : BinaryOperator} {before after : List Located}
      {left right : Expression} (place : Place) :
      Derives .product before left →
      productOperator? token = some operator →
      Derives .unary after right →
      Derives .product (before ++ ⟨token, place⟩ :: after) (.binary place operator left right)
  | addend {written : List Located} {expression : Expression} :
      Derives .product written expression →
      Derives .sum written expression
  | added {token : Token} {operator : BinaryOperator} {before after : List Located}
      {left right : Expression} (place : Place) :
      Derives .sum before left →
      sumOperator? token = some operator →
      Derives .product after right →
      Derives .sum (before ++ ⟨token, place⟩ :: after) (.binary place operator left right)
  | unconditional {written : List Located} {expression : Expression} :
      Derives .sum written expression →
      Derives .choice written expression
  | conditional {question yes no : List Located} {condition chosen otherwise : Expression}
      (place divider : Place) :
      Derives .sum question condition →
      Derives .choice yes chosen →
      Derives .choice no otherwise →
      Derives .choice (question ++ ⟨.thenWord, place⟩ :: (yes ++ ⟨.elseWord, divider⟩ :: no))
        (.choose place condition chosen otherwise)

def Token.continues (token : Token) : Precedence → Bool
  | .choice => (productOperator? token).isSome || (sumOperator? token).isSome || token == .thenWord
  | .sum => (productOperator? token).isSome || (sumOperator? token).isSome
  | .product => (productOperator? token).isSome
  | .unary | .term => false

def StopsBefore (level : Precedence) (rest : List Located) : Prop :=
  ∀ next ∈ rest.head?, next.token.continues level = false

theorem stopsBefore_nil (level : Precedence) : StopsBefore level [] := by
  intro next member
  cases member

theorem stopsBefore_cons {level : Precedence} {next : Located} {tail : List Located} :
    StopsBefore level (next :: tail) ↔ next.token.continues level = false := by
  constructor
  · intro stops
    exact stops next rfl
  · intro closed other member
    cases member
    exact closed

/-! ### What is read derives from the grammar -/

mutual

theorem scanChoice_sound {finish : Place} {input : List Located} {expression : Expression}
    {rest : Fewer input} (accepted : scanChoice finish input = .ok (expression, rest)) :
    ∃ written, input = written ++ rest.1 ∧ Derives .choice written expression ∧
      StopsBefore .choice rest.1 := by
  rw [scanChoice] at accepted
  obtain ⟨⟨condition, afterCondition⟩, readCondition, accepted⟩ := bind_eq_ok.mp accepted
  obtain ⟨question, inputEq, questionDerives, stops⟩ := scanSum_sound readCondition
  simp only at accepted
  split at accepted
  · rename_i place branch follows
    obtain ⟨⟨chosen, afterChosen⟩, readChosen, accepted⟩ := bind_eq_ok.mp accepted
    simp only at accepted
    split at accepted
    · rename_i divider branch' divides
      obtain ⟨⟨otherwise, after⟩, readOtherwise, accepted⟩ := bind_eq_ok.mp accepted
      cases accepted
      have branchLt : branch.length < input.length := by
        have afterLt := afterCondition.2
        rw [follows, List.length_cons] at afterLt
        omega
      have branchLt' : branch'.length < branch.length := by
        have afterLt := afterChosen.2
        rw [divides, List.length_cons] at afterLt
        omega
      obtain ⟨yes, branchEq, yesDerives, _⟩ := scanChoice_sound readChosen
      obtain ⟨no, branchEq', noDerives, restStops⟩ := scanChoice_sound readOtherwise
      refine ⟨_, ?_, .conditional place divider questionDerives yesDerives noDerives, restStops⟩
      rw [divides] at branchEq
      rw [follows, branchEq, branchEq'] at inputEq
      simpa only [List.append_assoc, List.cons_append] using inputEq
    · cases accepted
  · rename_i noThen
    cases accepted
    refine ⟨question, inputEq, .unconditional questionDerives, ?_⟩
    intro next member
    have closed := stops next member
    obtain ⟨tail, restEq⟩ := List.head?_eq_some_iff.mp (Option.mem_def.mp member)
    have notThen : next.token ≠ .thenWord := by
      intro isThen
      exact noThen next.place tail (by rw [restEq, ← isThen])
    simp only [Token.continues] at closed ⊢
    simp [closed, notThen]
termination_by 6 * input.length + 5
decreasing_by
  · omega
  · omega
  · omega

theorem scanSum_sound {finish : Place} {input : List Located} {expression : Expression}
    {rest : Fewer input} (accepted : scanSum finish input = .ok (expression, rest)) :
    ∃ written, input = written ++ rest.1 ∧ Derives .sum written expression ∧
      StopsBefore .sum rest.1 := by
  rw [scanSum] at accepted
  obtain ⟨⟨first, afterFirst⟩, readFirst, accepted⟩ := bind_eq_ok.mp accepted
  obtain ⟨⟨sum, after⟩, readSum, accepted⟩ := bind_eq_ok.mp accepted
  cases accepted
  have afterLt := afterFirst.2
  obtain ⟨before, inputEq, firstDerives, stops⟩ := scanProduct_sound readFirst
  obtain ⟨written, restEq, sumDerives, restStops⟩ :=
    scanSumAfter_sound (.addend firstDerives) stops readSum
  refine ⟨before ++ written, ?_, sumDerives, restStops⟩
  rw [List.append_assoc, ← restEq]
  exact inputEq
termination_by 6 * input.length + 4
decreasing_by
  · omega
  · omega

theorem scanSumAfter_sound {finish : Place} {input before : List Located}
    {left expression : Expression} {rest : Remaining input}
    (leftDerives : Derives .sum before left) (stops : StopsBefore .product input)
    (accepted : scanSumAfter finish left input = .ok (expression, rest)) :
    ∃ written, input = written ++ rest.1 ∧ Derives .sum (before ++ written) expression ∧
      StopsBefore .sum rest.1 := by
  match input, rest, stops, accepted with
  | [], rest, stops, accepted =>
      rw [scanSumAfter] at accepted
      cases accepted
      refine ⟨[], rfl, ?_, stopsBefore_nil _⟩
      rw [List.append_nil]
      exact leftDerives
  | head :: tail, rest, stops, accepted =>
      cases found : sumOperator? head.token with
      | none =>
          rw [scanSumAfter, found] at accepted
          cases accepted
          refine ⟨[], rfl, ?_, ?_⟩
          · rw [List.append_nil]
            exact leftDerives
          · have notScaled := stopsBefore_cons.mp stops
            apply stopsBefore_cons.mpr
            simp only [Token.continues] at notScaled ⊢
            simp [notScaled, found]
      | some operator =>
          rw [scanSumAfter, found] at accepted
          obtain ⟨⟨right, afterRight⟩, readRight, accepted⟩ := bind_eq_ok.mp accepted
          obtain ⟨⟨sum, after⟩, readSum, accepted⟩ := bind_eq_ok.mp accepted
          cases accepted
          have rightLt := afterRight.2
          obtain ⟨addend, tailEq, rightDerives, rightStops⟩ := scanProduct_sound readRight
          obtain ⟨written, restEq, sumDerives, restStops⟩ :=
            scanSumAfter_sound (.added head.place leftDerives found rightDerives) rightStops readSum
          refine ⟨head :: (addend ++ written), ?_, ?_, restStops⟩
          · rw [List.cons_append, List.append_assoc, ← restEq, ← tailEq]
          · simpa only [List.append_assoc, List.cons_append] using sumDerives
termination_by 6 * input.length + 1
decreasing_by
  · simp only [List.length_cons]; omega
  · simp only [List.length_cons]; omega

theorem scanProduct_sound {finish : Place} {input : List Located} {expression : Expression}
    {rest : Fewer input} (accepted : scanProduct finish input = .ok (expression, rest)) :
    ∃ written, input = written ++ rest.1 ∧ Derives .product written expression ∧
      StopsBefore .product rest.1 := by
  rw [scanProduct] at accepted
  obtain ⟨⟨first, afterFirst⟩, readFirst, accepted⟩ := bind_eq_ok.mp accepted
  obtain ⟨⟨product, after⟩, readProduct, accepted⟩ := bind_eq_ok.mp accepted
  cases accepted
  have afterLt := afterFirst.2
  obtain ⟨before, inputEq, firstDerives⟩ := scanUnary_sound readFirst
  obtain ⟨written, restEq, productDerives, restStops⟩ :=
    scanProductAfter_sound (.factor firstDerives) readProduct
  refine ⟨before ++ written, ?_, productDerives, restStops⟩
  rw [List.append_assoc, ← restEq]
  exact inputEq
termination_by 6 * input.length + 3
decreasing_by
  · omega
  · omega

theorem scanProductAfter_sound {finish : Place} {input before : List Located}
    {left expression : Expression} {rest : Remaining input}
    (leftDerives : Derives .product before left)
    (accepted : scanProductAfter finish left input = .ok (expression, rest)) :
    ∃ written, input = written ++ rest.1 ∧ Derives .product (before ++ written) expression ∧
      StopsBefore .product rest.1 := by
  match input, rest, accepted with
  | [], rest, accepted =>
      rw [scanProductAfter] at accepted
      cases accepted
      refine ⟨[], rfl, ?_, stopsBefore_nil _⟩
      rw [List.append_nil]
      exact leftDerives
  | head :: tail, rest, accepted =>
      cases found : productOperator? head.token with
      | none =>
          rw [scanProductAfter, found] at accepted
          cases accepted
          refine ⟨[], rfl, ?_, ?_⟩
          · rw [List.append_nil]
            exact leftDerives
          · apply stopsBefore_cons.mpr
            simp [Token.continues, found]
      | some operator =>
          rw [scanProductAfter, found] at accepted
          obtain ⟨⟨right, afterRight⟩, readRight, accepted⟩ := bind_eq_ok.mp accepted
          obtain ⟨⟨product, after⟩, readProduct, accepted⟩ := bind_eq_ok.mp accepted
          cases accepted
          have rightLt := afterRight.2
          obtain ⟨factor, tailEq, rightDerives⟩ := scanUnary_sound readRight
          obtain ⟨written, restEq, productDerives, restStops⟩ :=
            scanProductAfter_sound (.scaled head.place leftDerives found rightDerives) readProduct
          refine ⟨head :: (factor ++ written), ?_, ?_, restStops⟩
          · rw [List.cons_append, List.append_assoc, ← restEq, ← tailEq]
          · simpa only [List.append_assoc, List.cons_append] using productDerives
termination_by 6 * input.length + 1
decreasing_by
  · simp only [List.length_cons]; omega
  · simp only [List.length_cons]; omega

theorem scanUnary_sound {finish : Place} {input : List Located} {expression : Expression}
    {rest : Fewer input} (accepted : scanUnary finish input = .ok (expression, rest)) :
    ∃ written, input = written ++ rest.1 ∧ Derives .unary written expression := by
  match input, rest, accepted with
  | [], rest, accepted =>
    rw [scanUnary] at accepted
    cases accepted
  | ⟨token, place⟩ :: tail, rest, accepted =>
    unfold scanUnary at accepted
    split at accepted
    · rename_i operator found
      obtain ⟨⟨operand, after⟩, readOperand, accepted⟩ := bind_eq_ok.mp accepted
      cases accepted
      obtain ⟨written, tailEq, operandDerives⟩ := scanUnary_sound readOperand
      refine ⟨⟨token, place⟩ :: written, ?_, .prefixed place found operandDerives⟩
      exact congrArg (List.cons _) tailEq
    · split at accepted
      · rename_i value isLiteral
        cases accepted
        exact ⟨[⟨token, place⟩], rfl, .operand (.literal place isLiteral)⟩
      · split at accepted
        · rename_i word _ _
          cases accepted
          exact ⟨[⟨.name word, place⟩], rfl, .operand (.reference place word)⟩
        · obtain ⟨⟨inner, afterInner⟩, readInner, accepted⟩ := bind_eq_ok.mp accepted
          simp only at accepted
          split at accepted
          · rename_i right after closes
            cases accepted
            obtain ⟨written, tailEq, innerDerives, _⟩ := scanChoice_sound readInner
            refine ⟨⟨.openParen, place⟩ :: (written ++ [⟨.closeParen, right⟩]), ?_,
              .operand (.parentheses place right innerDerives)⟩
            rw [closes] at tailEq
            simp [tailEq]
          · cases accepted
        · cases accepted
termination_by 6 * input.length + 2
decreasing_by
  · simp only [List.length_cons]; omega
  · simp only [List.length_cons]; omega

end

/-! ### What the grammar derives is read -/

theorem productOperator?_of_sumOperator? {token : Token} {operator : BinaryOperator}
    (found : sumOperator? token = some operator) : productOperator? token = none := by
  cases token <;> first | rfl | cases found

theorem unaryOperator?_of_literalValue? {token : Token} {value : ProseValue}
    (isLiteral : literalValue? token = some value) : unaryOperator? token = none := by
  cases token <;> first | rfl | cases isLiteral

theorem scanProductAfter_of_stops {finish : Place} {left : Expression} {rest : List Located}
    (stops : StopsBefore .product rest) :
    scanProductAfter finish left rest = .ok (left, ⟨rest, Nat.le_refl _⟩) := by
  cases rest with
  | nil =>
      rw [scanProductAfter]
  | cons head tail =>
      have none : productOperator? head.token = none := by
        simpa [Token.continues] using stopsBefore_cons.mp stops
      rw [scanProductAfter, none]

theorem scanSumAfter_of_stops {finish : Place} {left : Expression} {rest : List Located}
    (stops : StopsBefore .sum rest) :
    scanSumAfter finish left rest = .ok (left, ⟨rest, Nat.le_refl _⟩) := by
  cases rest with
  | nil =>
      rw [scanSumAfter]
  | cons head tail =>
      have none : sumOperator? head.token = none := by
        have closed := stopsBefore_cons.mp stops
        simp only [Token.continues, Bool.or_eq_false_iff] at closed
        simpa using closed.2
      rw [scanSumAfter, none]

theorem StopsBefore.sum_of_choice {rest : List Located} (stops : StopsBefore .choice rest) :
    StopsBefore .sum rest := by
  intro next member
  have closed := stops next member
  simp only [Token.continues, Bool.or_eq_false_iff] at closed ⊢
  exact closed.1

theorem StopsBefore.product_of_sum {rest : List Located} (stops : StopsBefore .sum rest) :
    StopsBefore .product rest := by
  intro next member
  have closed := stops next member
  simp only [Token.continues, Bool.or_eq_false_iff] at closed ⊢
  exact closed.1

/-- What the reader makes of tokens that spell an expression at a level. At the levels that
grow to the right it goes on with the expression as its left operand. -/
def ReadsBack (finish : Place) (written : List Located) (expression : Expression) :
    Precedence → Prop
  | .choice => ∀ rest, StopsBefore .choice rest →
      ∃ fewer, scanChoice finish (written ++ rest) = .ok (expression, ⟨rest, fewer⟩)
  | .sum => ∀ rest whole after, StopsBefore .product rest →
      scanSumAfter finish expression rest = .ok (whole, after) →
      ∃ fewer, scanSum finish (written ++ rest) = .ok (whole, ⟨after.1, fewer⟩)
  | .product => ∀ rest whole after,
      scanProductAfter finish expression rest = .ok (whole, after) →
      ∃ fewer, scanProduct finish (written ++ rest) = .ok (whole, ⟨after.1, fewer⟩)
  | .unary | .term => ∀ rest,
      ∃ fewer, scanUnary finish (written ++ rest) = .ok (expression, ⟨rest, fewer⟩)

theorem ReadsBack.product_stops {finish : Place} {written rest : List Located}
    {expression : Expression} (reads : ReadsBack finish written expression .product)
    (stops : StopsBefore .product rest) :
    ∃ fewer, scanProduct finish (written ++ rest) = .ok (expression, ⟨rest, fewer⟩) :=
  reads rest expression _ (scanProductAfter_of_stops stops)

theorem ReadsBack.sum_stops {finish : Place} {written rest : List Located}
    {expression : Expression} (reads : ReadsBack finish written expression .sum)
    (stops : StopsBefore .sum rest) :
    ∃ fewer, scanSum finish (written ++ rest) = .ok (expression, ⟨rest, fewer⟩) :=
  reads rest expression _ stops.product_of_sum (scanSumAfter_of_stops stops)

theorem Derives.readsBack {level : Precedence} {written : List Located} {expression : Expression}
    (derived : Derives level written expression) (finish : Place) :
    ReadsBack finish written expression level := by
  -- Sums and products are read by a loop, which an operator enters with its left operand.
  induction derived with
  | @literal token value place isLiteral =>
      intro rest
      refine ⟨Nat.lt_succ_self _, ?_⟩
      unfold scanUnary
      simp only [List.cons_append, List.nil_append]
      rw [unaryOperator?_of_literalValue? isLiteral]
      simp only
      rw [isLiteral]
      rfl
  | reference place word =>
      intro rest
      refine ⟨Nat.lt_succ_self _, ?_⟩
      unfold scanUnary
      rfl
  | @parentheses written inner left right _ innerReads =>
      intro rest
      obtain ⟨fewer, read⟩ := innerReads (⟨.closeParen, right⟩ :: rest)
        (stopsBefore_cons.mpr rfl)
      rw [List.cons_append, List.append_assoc, List.cons_append, List.nil_append]
      refine ⟨by simp; omega, ?_⟩
      unfold scanUnary
      simp only [unaryOperator?, literalValue?]
      rw [read]
      rfl
  | operand _ termReads => exact termReads
  | @prefixed token operator written operand place found _ operandReads =>
      intro rest
      obtain ⟨fewer, read⟩ := operandReads rest
      refine ⟨Nat.lt_succ_of_lt fewer, ?_⟩
      unfold scanUnary
      simp only [List.cons_append]
      rw [found]
      simp only
      rw [read]
      rfl
  | factor _ unaryReads =>
      intro rest whole after continued
      obtain ⟨fewer, read⟩ := unaryReads rest
      refine ⟨Nat.lt_of_le_of_lt after.2 fewer, ?_⟩
      rw [scanProduct, read, ok_bind]
      simp only
      rw [continued]
      rfl
  | @scaled token operator before after left right place _ found _ leftReads rightReads =>
      intro rest whole left' continued
      obtain ⟨fewer, read⟩ := rightReads rest
      have goesOn : scanProductAfter finish left (⟨token, place⟩ :: (after ++ rest)) =
          .ok (whole, ⟨left'.1, by have := left'.2; simp; omega⟩) := by
        rw [scanProductAfter]
        simp only
        rw [found]
        simp only
        rw [read, ok_bind]
        simp only
        rw [continued]
        rfl
      rw [List.append_assoc, List.cons_append]
      exact leftReads _ _ _ goesOn
  | addend _ productReads =>
      intro rest whole after stops continued
      obtain ⟨fewer, read⟩ := ReadsBack.product_stops productReads stops
      refine ⟨Nat.lt_of_le_of_lt after.2 fewer, ?_⟩
      rw [scanSum, read, ok_bind]
      simp only
      rw [continued]
      rfl
  | @added token operator before after left right place _ found _ leftReads rightReads =>
      intro rest whole left' stops continued
      obtain ⟨fewer, read⟩ := ReadsBack.product_stops rightReads stops
      have goesOn : scanSumAfter finish left (⟨token, place⟩ :: (after ++ rest)) =
          .ok (whole, ⟨left'.1, by have := left'.2; simp; omega⟩) := by
        rw [scanSumAfter]
        simp only
        rw [found]
        simp only
        rw [read, ok_bind]
        simp only
        rw [continued]
        rfl
      have operatorStops : StopsBefore .product (⟨token, place⟩ :: (after ++ rest)) := by
        apply stopsBefore_cons.mpr
        simp [Token.continues, productOperator?_of_sumOperator? found]
      rw [List.append_assoc, List.cons_append]
      exact leftReads _ _ _ operatorStops goesOn
  | @unconditional written expression _ sumReads =>
      intro rest stops
      obtain ⟨fewer, read⟩ := ReadsBack.sum_stops sumReads stops.sum_of_choice
      refine ⟨fewer, ?_⟩
      rw [scanChoice, read, ok_bind]
      simp only
      split
      · cases stopsBefore_cons.mp stops
      · rfl
  | @conditional question yes no condition chosen otherwise place divider _ _ _ questionReads
      yesReads noReads =>
      intro rest stops
      obtain ⟨noFewer, readNo⟩ := noReads rest stops
      obtain ⟨yesFewer, readYes⟩ := yesReads (⟨.elseWord, divider⟩ :: (no ++ rest))
        (stopsBefore_cons.mpr rfl)
      have thenStops : StopsBefore .sum
          (⟨.thenWord, place⟩ :: (yes ++ ⟨.elseWord, divider⟩ :: (no ++ rest))) :=
        stopsBefore_cons.mpr rfl
      obtain ⟨fewer, read⟩ := ReadsBack.sum_stops questionReads thenStops
      rw [List.append_assoc, List.cons_append, List.append_assoc, List.cons_append]
      refine ⟨by simp; omega, ?_⟩
      rw [scanChoice, read, ok_bind]
      simp only
      rw [readYes, ok_bind]
      simp only
      rw [readNo]
      rfl

/-- The reader accepts exactly what the grammar derives, as far as it goes on. -/
theorem scanChoice_eq_ok_iff {finish : Place} {input rest : List Located}
    {expression : Expression} :
    (∃ fewer, scanChoice finish input = .ok (expression, ⟨rest, fewer⟩)) ↔
      ∃ written, input = written ++ rest ∧ Derives .choice written expression ∧
        StopsBefore .choice rest := by
  constructor
  · rintro ⟨fewer, accepted⟩
    exact scanChoice_sound accepted
  · rintro ⟨written, rfl, derived, stops⟩
    exact derived.readsBack finish rest stops

end Bestiary.Prose
