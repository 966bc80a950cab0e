import Bestiary.Proofs.Prose.Places
import Bestiary.Proofs.Prose.Source

/-!
The slices of a text.

A text that is read into tokens falls into slices, one behind the other. Each
token has a slice, of which it is the meaning, and stands at the place of its
first character; the slices without a token are single blanks inside
expressions.
-/

namespace Bestiary.Prose

open Text

/-! ### Slices without a token -/

def insideBehind (inside : Bool) (pieces : List Piece) : Bool :=
  pieces.foldl (fun inside piece => insideAfter inside piece.token?) inside

def EndsInside (front : List Piece) : Prop :=
  ∃ before opening inner, front = before ++ opening :: inner ∧
    opening.token? = some .opening ∧ ∀ piece ∈ inner, piece.token? ≠ some .closing

theorem endsInside_of_insideBehind {front : List Piece}
    (inside : insideBehind false front = true) : EndsInside front := by
  induction front using List.reverseRecOn with
  | nil => cases inside
  | append_singleton front piece ih =>
      have last : insideAfter (insideBehind false front) piece.token? = true := by
        rw [insideBehind, List.foldl_append] at inside
        exact inside
      unfold insideAfter at last
      split at last
      · rename_i opens
        exact ⟨front, piece, [], rfl, opens, List.forall_mem_nil _⟩
      · cases last
      · rename_i notClosing
        obtain ⟨before, opening, inner, rfl, opens, unclosed⟩ := ih last
        refine ⟨before, opening, inner ++ [piece], ?_, opens, ?_⟩
        · rw [List.append_assoc, List.cons_append]
        · exact List.forall_mem_append.mpr ⟨unclosed, List.forall_mem_singleton.mpr notClosing⟩

theorem scanPieces_eq_cons {dialect : Dialect} {inside : Bool} {input : List Char} {piece : Piece}
    {others : List Piece} (scanned : scanPieces dialect inside input = .ok (piece :: others)) :
    ∃ (head : Char) (tail : List Char) (lexeme : Lexeme (head :: tail)),
      (if inside then scanExpression dialect head tail = .ok lexeme
        else scanText dialect head tail = lexeme) ∧
      piece = lexeme.piece ∧
      scanPieces dialect (insideAfter inside piece.token?) lexeme.rest = .ok others := by
  cases input with
  | nil =>
      rw [scanPieces] at scanned
      split at scanned <;> cases scanned
  | cons head tail =>
      cases inside with
      | true =>
          rw [scanPieces, if_pos rfl] at scanned
          obtain ⟨lexeme, accepted, scanned⟩ := bind_eq_ok.mp scanned
          obtain ⟨others, scannedOthers, scanned⟩ := bind_eq_ok.mp scanned
          cases scanned
          exact ⟨head, tail, lexeme, accepted, rfl, scannedOthers⟩
      | false =>
          rw [scanPieces, if_neg Bool.false_ne_true] at scanned
          obtain ⟨lexeme, accepted, scanned⟩ := bind_eq_ok.mp scanned
          obtain ⟨others, scannedOthers, scanned⟩ := bind_eq_ok.mp scanned
          cases scanned
          exact ⟨head, tail, lexeme, Except.ok.inj accepted, rfl, scannedOthers⟩

theorem scanPieces_pieces {dialect : Dialect} {inside : Bool} {input : List Char}
    {front back : List Piece} {piece : Piece}
    (scanned : scanPieces dialect inside input = .ok (front ++ piece :: back)) :
    piece.source ≠ [] ∧
      (piece.token? = none → insideBehind inside front = true ∧
        ∃ blank, piece.source = [blank] ∧ isBlank blank = true) := by
  induction front generalizing inside input with
  | nil =>
      obtain ⟨head, tail, lexeme, read, rfl, _⟩ := scanPieces_eq_cons scanned
      refine ⟨lexeme.nonempty, fun without => ?_⟩
      have notMeant : ¬lexeme.IsMeant dialect := by
        rintro ⟨token, isToken, _⟩
        cases isToken.symm.trans without
      cases inside with
      | true =>
          obtain ⟨pieceEq, blank⟩ := (scanExpression_cases read).resolve_right notMeant
          exact ⟨rfl, head, congrArg Piece.source pieceEq, blank⟩
      | false =>
          cases read
          exact absurd (scanText_isMeant dialect head tail) notMeant
  | cons first others ih =>
      obtain ⟨_, _, _, _, _, scannedOthers⟩ := scanPieces_eq_cons scanned
      exact ih scannedOthers

/-! ### Whole texts -/

/-- Slices that a text falls into so that some tokens are their meaning. -/
structure Slices (dialect : Dialect) (text : List Char) (stream : TokenStream)
    (slices : List Piece) : Prop where
  covers : slices.flatMap Piece.source = text
  tokens : stream.tokens.map Located.token = slices.filterMap Piece.token?
  blank : ∀ front slice back, slices = front ++ slice :: back → slice.token? = none →
    EndsInside front ∧ ∃ blank, slice.source = [blank] ∧ isBlank blank = true
  placed : ∀ front slice back token, slices = front ++ slice :: back → slice.token? = some token →
    slice.source ≠ [] ∧ token.Covers dialect slice.source ∧
      ∃ before after,
        stream.tokens = before ++ ⟨token, placeAfter (front.flatMap Piece.source)⟩ :: after ∧
        before.map Located.token = front.filterMap Piece.token?
  finish : stream.finish = placeAfter text

theorem slices_of_ofText {dialect : Dialect} {text : String} {stream : TokenStream}
    (read : TokenStream.ofText dialect text = .ok stream) :
    ∃ slices, Slices dialect text.toList stream slices := by
  obtain ⟨pieces, scanned, rfl⟩ := TokenStream.ofText_eq_ok_iff.mp read
  obtain ⟨covered, faithful⟩ := scanPieces_covers scanned
  refine ⟨pieces, covered, locate_tokens _ _, ?blank, ?placed, rfl⟩
  case blank =>
    rintro front slice back rfl without
    obtain ⟨inside, blank⟩ := (scanPieces_pieces scanned).2 without
    exact ⟨endsInside_of_insideBehind inside, blank⟩
  case placed =>
    rintro front slice back token rfl isToken
    have member : slice ∈ front ++ slice :: back := List.mem_append_right _ List.mem_cons_self
    have located : locate Place.start (front ++ slice :: back) =
        locate Place.start front ++ ⟨token, placeAfter (front.flatMap Piece.source)⟩ ::
          locate ((placeAfter (front.flatMap Piece.source)).advance slice.source) back := by
      rw [locate_append, Place.start_advance, locate, isToken]
    exact ⟨(scanPieces_pieces scanned).1, faithful slice member token isToken, _, _, located,
      locate_tokens _ _⟩

end Bestiary.Prose
