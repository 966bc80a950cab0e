import Bestiary.Rules.Wording

/-!
How many spells of each level a caster can cast.
-/

namespace Bestiary

/-- How fast a class of casters gains spell slots. -/
inductive SpellcastingStyle
  | full
  | half
  | third
  deriving DecidableEq, Repr, Inhabited

namespace SpellcastingStyle

def all : List SpellcastingStyle :=
  [full, half, third]

def word : SpellcastingStyle → String
  | full => "full"
  | half => "half"
  | third => "third"

instance : Vocabulary SpellcastingStyle := ⟨all, word, fun _ => none⟩

end SpellcastingStyle

/-- The levels of casters, for each of which there are slots. -/
abbrev CasterLevel := { level : Nat // 1 ≤ level ∧ level ≤ 20 }

namespace SpellSlots

/-- The slots of a full caster by spell level from one, for the caster levels from one. -/
def fullRows : List (List Nat) :=
  [[2],
   [3],
   [4, 2],
   [4, 3],
   [4, 3, 2],
   [4, 3, 3],
   [4, 3, 3, 1],
   [4, 3, 3, 2],
   [4, 3, 3, 3, 1],
   [4, 3, 3, 3, 2],
   [4, 3, 3, 3, 2, 1],
   [4, 3, 3, 3, 2, 1],
   [4, 3, 3, 3, 2, 1, 1],
   [4, 3, 3, 3, 2, 1, 1],
   [4, 3, 3, 3, 2, 1, 1, 1],
   [4, 3, 3, 3, 2, 1, 1, 1],
   [4, 3, 3, 3, 2, 1, 1, 1, 1],
   [4, 3, 3, 3, 3, 1, 1, 1, 1],
   [4, 3, 3, 3, 3, 2, 1, 1, 1],
   [4, 3, 3, 3, 3, 2, 2, 1, 1]]

def halfRows : List (List Nat) :=
  [[],
   [2],
   [3],
   [3],
   [4, 2],
   [4, 2],
   [4, 3],
   [4, 3],
   [4, 3, 2],
   [4, 3, 2],
   [4, 3, 3],
   [4, 3, 3],
   [4, 3, 3, 1],
   [4, 3, 3, 1],
   [4, 3, 3, 2],
   [4, 3, 3, 2],
   [4, 3, 3, 3, 1],
   [4, 3, 3, 3, 1],
   [4, 3, 3, 3, 2],
   [4, 3, 3, 3, 2]]

def thirdRows : List (List Nat) :=
  [[],
   [],
   [2],
   [3],
   [3],
   [3],
   [4, 2],
   [4, 2],
   [4, 2],
   [4, 3],
   [4, 3],
   [4, 3],
   [4, 3, 2],
   [4, 3, 2],
   [4, 3, 2],
   [4, 3, 3],
   [4, 3, 3],
   [4, 3, 3],
   [4, 3, 3, 1],
   [4, 3, 3, 1]]

def rows : SpellcastingStyle → List (List Nat)
  | .full => fullRows
  | .half => halfRows
  | .third => thirdRows

def numbered (row : List Nat) : List (Int × Int) :=
  ((List.range row.length).zip row).filterMap fun (place, count) =>
    if count = 0 then none else some ((place : Int) + 1, (count : Int))

/-- The slots of a caster by spell level. Levels below one count back from the last row, zero being
the last. -/
def ofCaster? (style : SpellcastingStyle) (level : Int) : Option (List (Int × Int)) :=
  let table := rows style
  let place := if 0 < level then level - 1 else level - 1 + table.length
  if place < 0 then none else (table[place.toNat]?).map numbered

theorem length_rows (style : SpellcastingStyle) : (rows style).length = 20 := by
  cases style <;> rfl

theorem ofCaster?_succ (style : SpellcastingStyle) (place : Nat) :
    ofCaster? style ((place + 1 : Nat) : Int) = (rows style)[place]?.map numbered := by
  have positive : (0 : Int) < (place + 1 : Nat) := by omega
  have atPlace : ((place + 1 : Nat) : Int) - 1 = place := by omega
  have notBelow : ¬(place : Int) < 0 := by omega
  simp only [ofCaster?, if_pos positive, atPlace, if_neg notBelow, Int.toNat_natCast]

theorem isSome_ofCaster? (style : SpellcastingStyle) (level : CasterLevel) :
    (ofCaster? style (level.val : Int)).isSome = true := by
  obtain ⟨level, positive, bounded⟩ := level
  obtain ⟨place, rfl⟩ : ∃ place, level = place + 1 := ⟨level - 1, by omega⟩
  have inside : place < (rows style).length := by
    rw [length_rows]
    omega
  rw [ofCaster?_succ, List.getElem?_eq_getElem inside]
  rfl

/-- The slots of a caster; every level of one has a row. -/
def ofLevel (style : SpellcastingStyle) (level : CasterLevel) : List (Int × Int) :=
  (ofCaster? style (level.val : Int)).get (isSome_ofCaster? style level)

end SpellSlots

end Bestiary
