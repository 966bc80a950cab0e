import Bestiary.Proofs.Outcome
import Bestiary.Prose.Interpolation

/-!
The value of an expression, and the stack on which its code leaves it.

An expression is evaluated by recursion on its structure: its operands from
left to right, both branches of a choice before the choice, and an operator
after its operands. Its code does the same on a stack of any height. The
heights of the stack along a program can be told without running it.
-/

namespace Bestiary.Prose

open Text

/-- The value of an expression, or the first fault met on the way to it. -/
def Expression.evaluate (scope : Variables) : Expression → Except ProseError ProseValue
  | literal _ value => .ok value
  | reference place name =>
      match scope.lookup name with
      | none => .error ((ProseFault.unknownVariable name).at place)
      | some value => .ok value
  | unary place operator operand => do
      let value ← operand.evaluate scope
      (operator.apply value).mapError (·.at place)
  | binary place operator left right => do
      let leftValue ← left.evaluate scope
      let rightValue ← right.evaluate scope
      (operator.apply leftValue rightValue).mapError (·.at place)
  | choose _ condition chosen otherwise => do
      let conditionValue ← condition.evaluate scope
      let chosenValue ← chosen.evaluate scope
      let otherwiseValue ← otherwise.evaluate scope
      pure (if conditionValue.isTrue then chosenValue else otherwiseValue)

def Operation.calculates : Operation → Bool
  | push _ => true
  | load _ => true
  | unary _ => true
  | binary _ => true
  | choose => true
  | _ => false

namespace Machine

variable {scope : Variables} {capitalize : Bool}

theorem run_cons (instruction : Instruction) (others : Program) (machine : Machine) :
    machine.run scope capitalize (instruction :: others) =
      (machine.step scope capitalize instruction.operation).mapError (·.at instruction.place) >>=
        fun after => after.run scope capitalize others := by
  rw [run]
  cases machine.step scope capitalize instruction.operation with
  | error fault => rfl
  | ok after => rfl

@[simp] theorem withStack_stack (machine : Machine) (stack : List ProseValue) :
    (machine.withStack stack).stack = stack :=
  rfl

@[simp] theorem withStack_withStack (machine : Machine) (first second : List ProseValue) :
    (machine.withStack first).withStack second = machine.withStack second :=
  rfl

theorem withStack_self (machine : Machine) : machine.withStack machine.stack = machine :=
  rfl

/-- What a step that succeeds makes of a machine: it changes the stack alone, writes something, or
changes what is written after it. -/
inductive StepsTo (capitalize : Bool) (machine : Machine) : Operation → Machine → Prop
  | calculates {operation : Operation} (stack : List ProseValue) :
      operation.calculates = true →
      StepsTo capitalize machine operation (machine.withStack stack)
  | shows (stack : List ProseValue) (content : String) :
      StepsTo capitalize machine .append
        ((machine.withStack stack).write capitalize true content)
  | writes (content : String) :
      StepsTo capitalize machine (.appendText content) (machine.write capitalize false content)
  | starts (emphasis : Emphasis) :
      StepsTo capitalize machine (.start emphasis) (machine.switch emphasis true)
  | stops (emphasis : Emphasis) :
      StepsTo capitalize machine (.stop emphasis) (machine.switch emphasis false)
  | startsHeading (kind : BlockKind) :
      StepsTo capitalize machine (.startHeading kind) (machine.startHeading kind)
  | endsHeading : StepsTo capitalize machine .endHeading machine.endHeading
  | breaks : StepsTo capitalize machine .breakParagraph machine.endBlock

theorem step_cases {operation : Operation} {machine after : Machine}
    (stepped : machine.step scope capitalize operation = .ok after) :
    StepsTo capitalize machine operation after := by
  unfold step at stepped
  split at stepped
  case h_1 | h_5 =>
    cases stepped
    exact .calculates _ rfl
  case h_2 =>
    split at stepped
    · cases stepped
    · cases stepped
      exact .calculates _ rfl
  case h_3 | h_4 =>
    obtain ⟨value, _, stepped⟩ := bind_eq_ok.mp stepped
    cases stepped
    exact .calculates _ rfl
  case h_6 =>
    obtain ⟨shown, _, stepped⟩ := bind_eq_ok.mp stepped
    cases stepped
    exact .shows _ shown
  case h_7 content =>
    cases stepped
    exact .writes content
  case h_8 emphasis =>
    cases stepped
    exact .starts emphasis
  case h_9 emphasis =>
    cases stepped
    exact .stops emphasis
  case h_10 kind =>
    cases stepped
    exact .startsHeading kind
  case h_11 =>
    cases stepped
    exact .endsHeading
  case h_12 =>
    cases stepped
    exact .breaks
  case h_13 => cases stepped

end Machine

/-- The code of an expression pushes its value, or stops at the fault that its evaluation meets;
what follows it goes on from there. -/
theorem Expression.run_code_append (expression : Expression) (scope : Variables)
    (capitalize : Bool) (others : Program) (machine : Machine) :
    machine.run scope capitalize (expression.code ++ others) =
      expression.evaluate scope >>= fun value =>
        (machine.withStack (value :: machine.stack)).run scope capitalize others := by
  -- What follows the code of an operand is the rest of the code, so `others` has to vary.
  induction expression generalizing machine others with
  | literal place value =>
      rfl
  | reference place name =>
      rw [code, List.cons_append, List.nil_append, Machine.run_cons, evaluate]
      cases found : scope.lookup name with
      | none =>
          simp only [Machine.step, found]
          rfl
      | some value =>
          simp only [Machine.step, found]
          rfl
  | unary place operator operand ih =>
      rw [code, List.append_assoc, ih, evaluate, bind_assoc]
      congr 1
      funext value
      rw [List.cons_append, List.nil_append, Machine.run_cons]
      simp only [Machine.step, Machine.withStack_stack]
      cases operator.apply value with
      | error fault => rfl
      | ok result => rfl
  | binary place operator left right ihLeft ihRight =>
      rw [code, List.append_assoc, List.append_assoc, ihLeft, evaluate, bind_assoc]
      congr 1
      funext leftValue
      rw [ihRight, bind_assoc]
      congr 1
      funext rightValue
      rw [List.cons_append, List.nil_append, Machine.run_cons]
      simp only [Machine.step, Machine.withStack_stack]
      cases operator.apply leftValue rightValue with
      | error fault => rfl
      | ok result => rfl
  | choose place condition chosen otherwise ihCondition ihChosen ihOtherwise =>
      rw [code, List.append_assoc, List.append_assoc, List.append_assoc, ihCondition, evaluate,
        bind_assoc]
      congr 1
      funext conditionValue
      rw [ihChosen, bind_assoc]
      congr 1
      funext chosenValue
      rw [ihOtherwise, bind_assoc]
      congr 1

theorem Expression.run_code (expression : Expression) (scope : Variables) (capitalize : Bool)
    (machine : Machine) :
    machine.run scope capitalize expression.code =
      (expression.evaluate scope).map fun value =>
        machine.withStack (value :: machine.stack) := by
  have run := expression.run_code_append scope capitalize [] machine
  rw [List.append_nil] at run
  rw [run]
  cases expression.evaluate scope with
  | error fault => rfl
  | ok value => rfl

/-! ### Heights of the stack -/

/-- The height of the stack after an operation, unless that takes more than there is. What is
appended to the text must be all that there is. -/
def Operation.heightAfter : Operation → Nat → Option Nat
  | push _, height => some (height + 1)
  | load _, height => some (height + 1)
  | unary _, height + 1 => some (height + 1)
  | binary _, height + 2 => some (height + 1)
  | choose, height + 3 => some (height + 1)
  | append, 1 => some 0
  | unary _, _ => none
  | binary _, _ => none
  | choose, _ => none
  | append, _ => none
  | _, height => some height

def heightAfter : Program → Nat → Option Nat
  | [], height => some height
  | instruction :: others, height =>
      (instruction.operation.heightAfter height).bind (heightAfter others)

theorem heightAfter_append (first second : Program) (height : Nat) :
    heightAfter (first ++ second) height = (heightAfter first height).bind (heightAfter second) := by
  induction first generalizing height with
  | nil => rfl
  | cons instruction others ih =>
      rw [List.cons_append, heightAfter, heightAfter, Option.bind_assoc]
      congr 1
      funext reached
      exact ih reached

theorem Expression.heightAfter_code (expression : Expression) (height : Nat) :
    heightAfter expression.code height = some (height + 1) := by
  induction expression generalizing height with
  | literal place value => rfl
  | reference place name => rfl
  | unary place operator operand ih =>
      rw [code, heightAfter_append, ih]
      rfl
  | binary place operator left right ihLeft ihRight =>
      rw [code, heightAfter_append, heightAfter_append, ihLeft, Option.bind_some, ihRight]
      rfl
  | choose place condition chosen otherwise ihCondition ihChosen ihOtherwise =>
      rw [code, heightAfter_append, heightAfter_append, heightAfter_append, ihCondition,
        Option.bind_some, ihChosen, Option.bind_some, ihOtherwise]
      rfl

theorem heightAfter_appendCode (expression : Expression) (place : Place) :
    heightAfter (appendCode expression place) 0 = some 0 := by
  rw [appendCode, heightAfter_append, expression.heightAfter_code]
  rfl

/-! ### Values alone never lack an operand -/

/-- A fault that values can meet: it has a report, or a number is too long to be shown. -/
def ProseFault.IsOfValues (fault : ProseFault) : Prop :=
  fault.isReported = true ∨ fault = .unwritableNumber

theorem ProseFault.IsOfValues.ne_missingOperand {fault : ProseFault} (ofValues : fault.IsOfValues) :
    fault ≠ .missingOperand := by
  rintro rfl
  rcases ofValues with impossible | impossible <;> cases impossible

theorem ProseValue.written_error {value : ProseValue} {fault : ProseFault}
    (failed : value.written = .error fault) : fault = .unwritableNumber := by
  unfold ProseValue.written at failed
  split at failed
  · cases failed
  · cases failed
    rfl

theorem ProseValue.written_map_error {α : Type} {value : ProseValue} {change : String → α}
    {fault : ProseFault} (failed : value.written.map change = .error fault) :
    fault = .unwritableNumber := by
  cases written : value.written with
  | error other =>
      rw [written] at failed
      cases failed
      exact ProseValue.written_error written
  | ok shown =>
      rw [written] at failed
      cases failed

theorem ProseValue.divide_error {roundUp : Bool} {left right : ProseValue} {fault : ProseFault}
    (failed : left.divide roundUp right = .error fault) : fault.isReported = true := by
  unfold ProseValue.divide at failed
  split at failed
  · cases failed
    rfl
  · cases failed
    rfl
  · cases failed
    rfl
  · split at failed <;> cases failed
    rfl
  · split at failed <;> cases failed
    rfl

theorem UnaryOperator.apply_error {operator : UnaryOperator} {value : ProseValue}
    {fault : ProseFault} (failed : operator.apply value = .error fault) : fault.IsOfValues := by
  cases operator with
  | negate =>
      cases value <;> cases failed
      exact .inl rfl
  | sign =>
      cases value <;> cases failed
      exact .inl rfl
  | stringify =>
      cases value with
      | text content =>
          cases failed
          exact .inl rfl
      | number number signed =>
          simp only [apply, ProseValue.stringify] at failed
          exact .inr (ProseValue.written_map_error failed)
      | dice dice signed =>
          simp only [apply, ProseValue.stringify] at failed
          exact .inr (ProseValue.written_map_error failed)

theorem BinaryOperator.apply_error {operator : BinaryOperator} {left right : ProseValue}
    {fault : ProseFault} (failed : operator.apply left right = .error fault) :
    fault.isReported = true := by
  cases operator with
  | add => cases left <;> cases right <;> cases failed <;> rfl
  | subtract => cases left <;> cases right <;> cases failed <;> rfl
  | multiply => cases left <;> cases right <;> cases failed <;> rfl
  | floorDivide => exact ProseValue.divide_error failed
  | ceilingDivide => exact ProseValue.divide_error failed

/-! ### Running within the height that was told -/

namespace Machine

@[simp] theorem endSpan_stack (machine : Machine) : machine.endSpan.stack = machine.stack := by
  unfold endSpan
  split <;> rfl

@[simp] theorem endBlock_stack (machine : Machine) : machine.endBlock.stack = machine.stack :=
  machine.endSpan_stack

@[simp] theorem write_stack (capitalize interpolated : Bool) (content : String)
    (machine : Machine) : (machine.write capitalize interpolated content).stack = machine.stack := by
  unfold write
  split <;> rfl

@[simp] theorem switch_stack (emphasis : Emphasis) (enabled : Bool) (machine : Machine) :
    (machine.switch emphasis enabled).stack = machine.stack := by
  cases emphasis <;> exact machine.endSpan_stack

@[simp] theorem startHeading_stack (kind : BlockKind) (machine : Machine) :
    (machine.startHeading kind).stack = machine.stack :=
  machine.endBlock_stack

@[simp] theorem endHeading_stack (machine : Machine) :
    machine.endHeading.stack = machine.stack :=
  machine.endSpan_stack

def EndsAt (height : Nat) (outcome : Except ProseFault Machine) : Prop :=
  match outcome with
  | .ok after => after.stack.length = height
  | .error fault => fault.IsOfValues

theorem step_endsAt {scope : Variables} {capitalize : Bool} {operation : Operation}
    {machine : Machine} {height : Nat}
    (fits : operation.heightAfter machine.stack.length = some height) :
    EndsAt height (machine.step scope capitalize operation) := by
  cases operation with
  | push value =>
      cases fits
      rfl
  | load name =>
      cases fits
      cases found : scope.lookup name with
      | none =>
          simp only [step, found]
          exact .inl rfl
      | some value =>
          simp only [step, found]
          rfl
  | unary operator =>
      cases stackEq : machine.stack with
      | nil =>
          rw [stackEq] at fits
          cases fits
      | cons operand stack =>
          rw [stackEq] at fits
          cases fits
          simp only [step, stackEq]
          cases applied : operator.apply operand with
          | error fault => exact UnaryOperator.apply_error applied
          | ok value => rfl
  | binary operator =>
      match stackEq : machine.stack with
      | [] =>
          rw [stackEq] at fits
          cases fits
      | [_] =>
          rw [stackEq] at fits
          cases fits
      | right :: left :: stack =>
          rw [stackEq] at fits
          cases fits
          simp only [step, stackEq]
          cases applied : operator.apply left right with
          | error fault => exact .inl (BinaryOperator.apply_error applied)
          | ok value => rfl
  | choose =>
      match stackEq : machine.stack with
      | [] =>
          rw [stackEq] at fits
          cases fits
      | [_] =>
          rw [stackEq] at fits
          cases fits
      | [_, _] =>
          rw [stackEq] at fits
          cases fits
      | otherwise :: chosen :: condition :: stack =>
          rw [stackEq] at fits
          cases fits
          simp only [step, stackEq]
          rfl
  | append =>
      match stackEq : machine.stack with
      | [] =>
          rw [stackEq] at fits
          cases fits
      | [value] =>
          rw [stackEq] at fits
          cases fits
          simp only [step, stackEq]
          cases shown : value.written with
          | error fault => exact .inr (ProseValue.written_error shown)
          | ok content => exact congrArg List.length (write_stack _ _ _ _)
      | _ :: _ :: _ =>
          rw [stackEq] at fits
          cases fits
  | appendText content =>
      cases fits
      exact congrArg List.length (machine.write_stack capitalize false content)
  | start emphasis =>
      cases fits
      exact congrArg List.length (machine.switch_stack emphasis true)
  | stop emphasis =>
      cases fits
      exact congrArg List.length (machine.switch_stack emphasis false)
  | startHeading kind =>
      cases fits
      exact congrArg List.length (machine.startHeading_stack kind)
  | endHeading =>
      cases fits
      exact congrArg List.length machine.endHeading_stack
  | breakParagraph =>
      cases fits
      exact congrArg List.length machine.endBlock_stack

/-- A program whose heights fit meets no faults but those of values, and ends at the height that
was told. -/
theorem run_fits {scope : Variables} {capitalize : Bool} {program : Program}
    {machine : Machine} {height : Nat}
    (fits : heightAfter program machine.stack.length = some height) :
    (∀ after, machine.run scope capitalize program = .ok after → after.stack.length = height) ∧
      (∀ error, machine.run scope capitalize program = .error error → error.fault.IsOfValues) := by
  induction program generalizing machine with
  | nil =>
      cases fits
      constructor
      · intro after ran
        cases ran
        rfl
      · intro error impossible
        cases impossible
  | cons instruction others ih =>
      obtain ⟨reached, stepFits, othersFit⟩ := Option.bind_eq_some_iff.mp fits
      have stepEnds : EndsAt reached (machine.step scope capitalize instruction.operation) :=
        step_endsAt stepFits
      rw [run_cons]
      cases stepped : machine.step scope capitalize instruction.operation with
      | error fault =>
          rw [stepped] at stepEnds
          constructor
          · intro after impossible
            cases impossible
          · intro error ran
            cases ran
            exact stepEnds
      | ok next =>
          rw [stepped] at stepEnds
          have nextLength : next.stack.length = reached := stepEnds
          rw [← nextLength] at othersFit
          exact ih othersFit

theorem run_endsAt {scope : Variables} {capitalize : Bool} {program : Program}
    {machine : Machine} {height : Nat}
    (fits : heightAfter program machine.stack.length = some height) :
    (∀ after, machine.run scope capitalize program = .ok after → after.stack.length = height) ∧
      (∀ error, machine.run scope capitalize program = .error error →
        error.fault ≠ .missingOperand) := by
  obtain ⟨reachesHeight, ofValues⟩ := @run_fits scope capitalize _ _ _ fits
  exact ⟨reachesHeight, fun error failed => (ofValues error failed).ne_missingOperand⟩

end Machine

end Bestiary.Prose
