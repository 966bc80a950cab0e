import Bestiary.Proofs.Prose.Template

/-!
Templates whose placeholders are names.

Such a template is a row of characters and slots. Filling it in writes the
characters as they are and puts into each slot the text of the value that the
slot names; nothing is escaped on the way.
-/

namespace Bestiary

/-- A place in a template: a character that stands for itself, or a slot for a value. -/
inductive Cell
  | keep (character : Char)
  | slot (name : String)
  deriving DecidableEq, Repr

abbrev Stencil := List Cell

def Cell.fill (values : String → List Char) : Cell → List Char
  | keep character => [character]
  | slot name => values name

def Cell.name? : Cell → Option String
  | keep _ => none
  | slot name => some name

namespace Stencil

def fill (values : String → List Char) (stencil : Stencil) : List Char :=
  stencil.flatMap (Cell.fill values)

def names (stencil : Stencil) : List String :=
  stencil.filterMap Cell.name?

def ofChars (characters : List Char) : Stencil :=
  characters.map .keep

variable {values : String → List Char}

@[simp] theorem fill_nil : fill values [] = [] :=
  rfl

@[simp] theorem fill_keep (character : Char) (stencil : Stencil) :
    fill values (.keep character :: stencil) = character :: fill values stencil :=
  rfl

@[simp] theorem fill_slot (name : String) (stencil : Stencil) :
    fill values (.slot name :: stencil) = values name ++ fill values stencil :=
  rfl

@[simp] theorem fill_append (first second : Stencil) :
    fill values (first ++ second) = fill values first ++ fill values second :=
  List.flatMap_append

@[simp] theorem fill_ofChars (characters : List Char) :
    fill values (ofChars characters) = characters := by
  induction characters with
  | nil => rfl
  | cons character others ih => exact congrArg (character :: ·) ih

theorem names_append (first second : Stencil) :
    names (first ++ second) = names first ++ names second :=
  List.filterMap_append

end Stencil

namespace Prose

/-- The stencil of a program that only writes text and the values of names. -/
def Program.stencil? : Program → Option Stencil
  | [] => some []
  | ⟨.appendText content, _⟩ :: others =>
      (Program.stencil? others).map (Stencil.ofChars content.toList ++ ·)
  | ⟨.load name, _⟩ :: ⟨.append, _⟩ :: others =>
      (Program.stencil? others).map (.slot name :: ·)
  | _ => none

def stencil? (text : String) : Option Stencil :=
  match compile .template text with
  | .ok program => program.stencil?
  | .error _ => none

theorem stencil?_eq_some {text : String} {stencil : Stencil} :
    stencil? text = some stencil ↔
      ∃ program, compile .template text = .ok program ∧ program.stencil? = some stencil := by
  unfold stencil?
  cases compile .template text with
  | error fault =>
      constructor
      · intro impossible
        cases impossible
      · rintro ⟨_, impossible, _⟩
        cases impossible
  | ok program =>
      constructor
      · intro isStencil
        exact ⟨program, rfl, isStencil⟩
      · rintro ⟨_, same, isStencil⟩
        cases same
        exact isStencil

def IsWrittenAs (scope : Variables) (name : String) (content : List Char) : Prop :=
  ∃ value, scope.lookup name = some value ∧ value.written = .ok (String.ofList content)

/-- A run of a stencil's program writes the stencil with the values in its slots. -/
theorem run_stencil {scope : Variables} {values : String → List Char} {program : Program}
    {stencil : Stencil} (isStencil : program.stencil? = some stencil)
    (written : ∀ name ∈ stencil.names, IsWrittenAs scope name (values name)) (machine : Machine) :
    ∃ final, machine.run scope false program = .ok final ∧
      final.pending = machine.pending ++ String.ofList (stencil.fill values) := by
  induction program using Program.stencil?.induct generalizing stencil machine with
  | case1 =>
      cases isStencil
      exact ⟨machine, rfl, String.append_empty.symm⟩
  | case2 content place others ih =>
      obtain ⟨tail, isTail, rfl⟩ := Option.map_eq_some_iff.mp isStencil
      have writtenTail : ∀ name ∈ Stencil.names tail, IsWrittenAs scope name (values name) :=
        fun name member => written name
          (Stencil.names_append _ tail ▸ List.mem_append_right _ member)
      obtain ⟨final, runs, pending⟩ :=
        ih isTail writtenTail (machine.write false false content)
      refine ⟨final, runs, ?_⟩
      rw [pending, pending_write, Stencil.fill_append, Stencil.fill_ofChars, String.ofList_append,
        String.ofList_toList, String.append_assoc]
  | case3 name place place' others ih =>
      obtain ⟨tail, isTail, rfl⟩ := Option.map_eq_some_iff.mp isStencil
      obtain ⟨value, found, shown⟩ := written name (List.mem_cons_self ..)
      have writtenTail : ∀ name ∈ Stencil.names tail, IsWrittenAs scope name (values name) :=
        fun name member => written name (List.mem_cons_of_mem _ member)
      obtain ⟨final, runs, pending⟩ := ih isTail writtenTail
        (((machine.withStack (value :: machine.stack)).withStack machine.stack).write false true
          (String.ofList (values name)))
      refine ⟨final, ?_, ?_⟩
      · simp only [Machine.run, Machine.step, found, Machine.withStack, shown]
        exact runs
      · rw [pending, pending_write, Stencil.fill_slot, String.ofList_append, String.append_assoc]
        rfl
  | case4 program notEmpty notText notName =>
      rw [Program.stencil?] at isStencil
      · cases isStencil
      · exact notEmpty
      · exact notText
      · exact notName

theorem fillTemplate_stencil {bindings : List (String × Binding)} {scope : Variables}
    {values : String → List Char} {text : String} {stencil : Stencil}
    (isStencil : stencil? text = some stencil) (prepared : prepareVariables bindings = .ok scope)
    (written : ∀ name ∈ stencil.names, IsWrittenAs scope name (values name)) :
    fillTemplate bindings text = .ok (String.ofList (stencil.fill values)) := by
  obtain ⟨program, compiled, isStencil⟩ := stencil?_eq_some.mp isStencil
  obtain ⟨final, runs, pending⟩ := run_stencil isStencil written Machine.initial
  unfold fillTemplate
  rw [compiled, prepared, ok_bind, ok_bind, runs]
  exact congrArg Except.ok (pending.trans String.empty_append)

end Prose

end Bestiary
