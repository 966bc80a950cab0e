import Bestiary.Proofs.Prose.Relocation
import Mathlib.Data.List.Induction

/-!
Counting places.

Lines are counted by the line ends before a character, and columns by the
characters since the last of them. A text that stands behind another is counted
on from the end of that: its first line goes on in the other's last line, and
its columns are its own from its second line on.
-/

namespace Bestiary.Text

def placeAfter (before : List Char) : Place :=
  ⟨1 + before.count '\n', 1 + (before.reverse.takeWhile (· != '\n')).length⟩

theorem placeAfter_concat (before : List Char) (character : Char) :
    placeAfter (before ++ [character]) = (placeAfter before).next character := by
  unfold placeAfter Place.next
  rw [List.count_append, List.reverse_append, List.reverse_singleton, List.singleton_append]
  by_cases isEnd : character = '\n'
  · rw [if_pos isEnd, isEnd, List.count_singleton_self, List.takeWhile_cons_of_neg (by decide)]
    rfl
  · have noEnd : [character].count '\n' = 0 :=
      List.count_eq_zero_of_not_mem (by simpa using Ne.symm isEnd)
    rw [if_neg isEnd, List.takeWhile_cons_of_pos (by simpa using isEnd), noEnd]
    rfl

namespace Place

theorem start_advance (passed : List Char) : Place.start.advance passed = placeAfter passed := by
  induction passed using List.reverseRecOn with
  | nil => rfl
  | append_singleton before character ih =>
      rw [placeAfter_concat, ← ih]
      exact List.foldl_append

theorem advance_append (place : Place) (first second : List Char) :
    place.advance (first ++ second) = (place.advance first).advance second :=
  List.foldl_append

theorem placeAfter_advance (before passed : List Char) :
    (placeAfter before).advance passed = placeAfter (before ++ passed) := by
  rw [← start_advance, ← start_advance, advance_append]

/-! ### Counting on -/

/-- The place in a text of what has a given place in a part of it, by the place at which the part
starts. -/
def shift (front place : Place) : Place :=
  ⟨front.line + place.line - 1,
    if place.line = 1 then front.column + place.column - 1 else place.column⟩

structure IsCounted (place : Place) : Prop where
  line : 1 ≤ place.line
  column : 1 ≤ place.column

theorem isCounted_start : Place.start.IsCounted :=
  ⟨Nat.le_refl 1, Nat.le_refl 1⟩

theorem IsCounted.next {place : Place} (counted : place.IsCounted) (character : Char) :
    (place.next character).IsCounted := by
  unfold Place.next
  split
  · exact ⟨Nat.le_add_left 1 _, Nat.le_refl 1⟩
  · exact ⟨counted.line, Nat.le_add_left 1 _⟩

theorem IsCounted.advance {place : Place} (counted : place.IsCounted) (passed : List Char) :
    (place.advance passed).IsCounted := by
  induction passed generalizing place with
  | nil => exact counted
  | cons head tail ih => exact ih (counted.next head)

theorem shift_start (front : Place) : front.shift Place.start = front := by
  simp [shift, start]

theorem shift_next {place : Place} (counted : place.IsCounted) (front : Place)
    (character : Char) :
    front.shift (place.next character) = (front.shift place).next character := by
  have line := counted.line
  have column := counted.column
  unfold shift Place.next
  by_cases isEnd : character = '\n'
  · rw [if_pos isEnd, if_pos isEnd, Place.mk.injEq]
    exact ⟨by simp only; omega, if_neg (by simp only; omega)⟩
  · rw [if_neg isEnd, if_neg isEnd, Place.mk.injEq]
    refine ⟨rfl, ?_⟩
    dsimp only
    split <;> omega

/-- Counting goes on behind a text as it goes on in what follows it. -/
theorem shift_advance {place : Place} (counted : place.IsCounted) (front : Place)
    (passed : List Char) :
    front.shift (place.advance passed) = (front.shift place).advance passed := by
  induction passed generalizing place with
  | nil => rfl
  | cons head tail ih =>
      change front.shift ((place.next head).advance tail) =
        ((front.shift place).next head).advance tail
      rw [ih (counted.next head), shift_next counted]

end Place

end Bestiary.Text

namespace Bestiary.Prose

open Text

theorem locate_tokens (place : Place) (pieces : List Piece) :
    (locate place pieces).map Located.token = pieces.filterMap Piece.token? := by
  induction pieces generalizing place with
  | nil => rfl
  | cons piece others ih =>
      obtain ⟨source, token?⟩ := piece
      cases token? with
      | none => exact ih _
      | some token => exact congrArg (token :: ·) (ih _)

theorem locate_shift {place : Place} (counted : place.IsCounted) (front : Place)
    (pieces : List Piece) :
    locate (front.shift place) pieces =
      (locate place pieces).map (Located.relocate front.shift) := by
  induction pieces generalizing place with
  | nil => rfl
  | cons piece others ih =>
      have rest := ih (counted.advance piece.source)
      rw [Place.shift_advance counted] at rest
      rw [locate, locate]
      cases piece.token? with
      | none => exact rest
      | some token => exact congrArg (_ :: ·) rest

theorem locate_append (place : Place) (front back : List Piece) :
    locate place (front ++ back) =
      locate place front ++ locate (place.advance (front.flatMap Piece.source)) back := by
  induction front generalizing place with
  | nil => rfl
  | cons piece others ih =>
      rw [List.cons_append, locate, locate, List.flatMap_cons, Place.advance_append, ih]
      cases piece.token? <;> rfl

theorem TokenStream.ofText_eq_ok_iff {dialect : Dialect} {text : String} {stream : TokenStream} :
    TokenStream.ofText dialect text = .ok stream ↔
      ∃ pieces, scanPieces dialect false text.toList = .ok pieces ∧
        stream = ⟨locate Place.start pieces, placeAfter text.toList⟩ := by
  unfold TokenStream.ofText
  cases scanPieces dialect false text.toList with
  | error stop => exact ⟨nofun, nofun⟩
  | ok pieces =>
      rw [Place.start_advance]
      constructor
      · rintro ⟨⟩
        exact ⟨pieces, rfl, rfl⟩
      · rintro ⟨_, ⟨⟩, rfl⟩
        rfl

end Bestiary.Prose
