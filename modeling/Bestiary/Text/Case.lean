import Bestiary.Text.CharClass
import Bestiary.Text.CaseTables

/-!
Lower case, upper case and case folding of text.

An image may be longer than the character it replaces. Lower case alone
looks around itself: a capital sigma at the end of a word becomes a final
sigma.
-/

namespace Bestiary.Text

private def CaseRun.image? (code : Nat) (run : CaseRun) : Option Nat :=
  if run.first ≤ code ∧ code ≤ run.last ∧ (code - run.first) % run.step = 0 then
    some (run.image + (code - run.first))
  else none

private def singleImage (runs : List CaseRun) (character : Char) : Char :=
  ((runs.findSome? (CaseRun.image? character.toNat)).map Char.ofNat).getD character

private def image (runs : List CaseRun) (expansions : List (Nat × List Nat))
    (character : Char) : List Char :=
  match expansions.lookup character.toNat with
  | some codes => codes.map Char.ofNat
  | none => [singleImage runs character]

def upperChar (character : Char) : List Char :=
  if character.toNat < 128 then [character.toUpper]
  else image upperRuns upperExpansions character

def foldChar (character : Char) : List Char :=
  if character.toNat < 128 then [character.toLower]
  else image foldRuns foldExpansions character

def isCased (character : Char) : Bool :=
  if character.toNat < 128 then character.isAlpha else inBounds casedBounds character.toNat

/-- Characters that do not end a word for the purpose of case. -/
def isCaseIgnorable (character : Char) : Bool :=
  if character.toNat < 128 then
    character == '\'' || character == '.' || character == ':' || character == '^' ||
      character.toNat == 96
  else inBounds caseIgnorableBounds character.toNat

private def nearestIsCased (neighbours : List Char) : Bool :=
  ((neighbours.dropWhile isCaseIgnorable).head?.map isCased).getD false

/-- The lower case image of a character between the characters before it, nearest first, and those
after it. -/
def lowerCharBetween (before : List Char) (character : Char) (after : List Char) : List Char :=
  if character.toNat < 128 then [character.toLower]
  else if character == 'Σ' then
    if nearestIsCased before && !nearestIsCased after then ['ς'] else ['σ']
  else if character == 'İ' then ['i', Char.ofNat 0x307]
  else [singleImage lowerRuns character]

private def lowerFrom (before : List Char) : List Char → List Char
  | [] => []
  | character :: after =>
      lowerCharBetween before character after ++ lowerFrom (character :: before) after

def lower (text : String) : String :=
  String.ofList (lowerFrom [] text.toList)

/-- Text prepared for comparison without regard to case. -/
def foldCase (text : String) : String :=
  String.ofList (text.toList.flatMap foldChar)

/-- Text whose first character is in upper case. -/
def capitalizeHead (text : String) : String :=
  match text.toList with
  | [] => text
  | head :: rest => String.ofList (upperChar head ++ rest)

/-! ### Capitals -/

theorem upperChar_ne_nil (character : Char) : upperChar character ≠ [] := by
  unfold upperChar
  split
  · exact List.cons_ne_nil _ _
  · unfold image
    split
    · rename_i codes found
      have filled : ∀ entry ∈ upperExpansions, entry.2 ≠ [] := by decide +kernel
      obtain ⟨front, back, entries, _⟩ := List.lookup_eq_some_iff.mp found
      have member : (character.toNat, codes) ∈ upperExpansions := by simp [entries]
      exact mt List.map_eq_nil_iff.mp (filled _ member)
    · exact List.cons_ne_nil _ _

theorem isEmpty_capitalizeHead (text : String) : (capitalizeHead text).isEmpty = text.isEmpty := by
  unfold capitalizeHead
  split
  · rfl
  · rename_i head rest characters
    have written : text.isEmpty = false := by
      refine Bool.eq_false_iff.mpr fun empty => ?_
      rw [String.isEmpty_iff.mp empty] at characters
      cases characters
    rw [written]
    refine Bool.eq_false_iff.mpr fun empty => ?_
    have nothing : upperChar head ++ rest = [] := by
      rw [← String.toList_ofList (l := upperChar head ++ rest), String.isEmpty_iff.mp empty]
      rfl
    exact upperChar_ne_nil head (List.append_eq_nil_iff.mp nothing).1

/-! ### Line ends -/

private theorem singleImage_lower_ne_newline {character : Char} (other : character ≠ '\n') :
    singleImage lowerRuns character ≠ '\n' := by
  have beyond : ∀ run ∈ lowerRuns, 10 < run.image := by decide +kernel
  unfold singleImage
  cases found : lowerRuns.findSome? (CaseRun.image? character.toNat) with
  | none => exact other
  | some code =>
      obtain ⟨run, member, imageEq⟩ := List.exists_of_findSome?_eq_some found
      have inRun := beyond run member
      have codeEq : run.image + (character.toNat - run.first) = code := by
        unfold CaseRun.image? at imageEq
        split at imageEq
        · exact Option.some.inj imageEq
        · cases imageEq
      intro same
      change Char.ofNat code = '\n' at same
      by_cases valid : code.isValidChar
      · rw [Char.ofNat, dif_pos valid] at same
        have sameCode : code = 10 := congrArg Char.toNat same
        omega
      · rw [Char.ofNat, dif_neg valid] at same
        cases congrArg Char.toNat same

private theorem newline_not_mem_lowerCharBetween {character : Char} (other : character ≠ '\n')
    (before after : List Char) : '\n' ∉ lowerCharBetween before character after := by
  unfold lowerCharBetween
  split
  · intro member
    have same : character.toLower = '\n' := (List.mem_singleton.mp member).symm
    unfold Char.toLower at same
    split at same
    · rename_i capital
      have first : 65 ≤ character.val.toNat := UInt32.le_iff_toNat_le.mp capital.1
      have last : character.val.toNat ≤ 90 := UInt32.le_iff_toNat_le.mp capital.2
      have sameCode : (character.val.toNat + 32) % 2 ^ 32 = 10 :=
        congrArg UInt32.toNat (congrArg Char.val same)
      omega
    · exact other same
  · split
    · split <;> decide
    · split
      · decide
      · rw [List.mem_singleton]
        exact (singleImage_lower_ne_newline other).symm

theorem lower_oneLine {text : String} (oneLine : '\n' ∉ text.toList) :
    '\n' ∉ (lower text).toList := by
  have images (before characters : List Char) (none : '\n' ∉ characters) :
      '\n' ∉ lowerFrom before characters := by
    induction characters generalizing before with
    | nil => exact List.not_mem_nil
    | cons head tail ih =>
        obtain ⟨notHead, notTail⟩ := not_or.mp (none ∘ List.mem_cons.mpr)
        rw [lowerFrom, List.mem_append]
        rintro (inImage | inOthers)
        · exact newline_not_mem_lowerCharBetween (Ne.symm notHead) _ _ inImage
        · exact ih _ notTail inOthers
  rw [lower, String.toList_ofList]
  exact images [] _ oneLine

end Bestiary.Text
