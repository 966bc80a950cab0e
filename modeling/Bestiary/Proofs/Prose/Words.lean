import Bestiary.Proofs.Dice.Completeness
import Bestiary.Proofs.Prose.Grammar
import Bestiary.Proofs.Prose.Source

/-!
Words that stand for themselves.

Characters without a meaning of their own are read as literal runs, and as
paragraph breaks where lines end. What follows them is read as if it stood
alone, provided that it is over or starts with an expression.
-/

namespace Bestiary.Prose

open Text

variable {breaks : Bool}

/-! ### Plain characters -/

def IsPlain (content : List Char) : Prop :=
  ∀ character ∈ content, character ≠ '$' ∧ character ≠ '*' ∧ character ≠ '\\'

instance (content : List Char) : Decidable (IsPlain content) :=
  List.decidableBAll _ content

theorem IsPlain.append {first second : List Char} (before : IsPlain first)
    (after : IsPlain second) : IsPlain (first ++ second) :=
  List.forall_mem_append.mpr ⟨before, after⟩

theorem IsPlain.join {first second : String} (before : IsPlain first.toList)
    (after : IsPlain second.toList) : IsPlain (first ++ second).toList := by
  rw [String.toList_append]
  exact before.append after

/-! ### Runs of words -/

def Opens (rest : List Char) : Prop :=
  rest = [] ∨ ∃ others, rest = '$' :: '\x7b' :: others

theorem Opens.stops {rest : List Char} (opens : Opens rest) {kind : Char → Bool}
    (dollar : kind '$' = false) : StopsAt kind rest := by
  rcases opens with rfl | ⟨others, rfl⟩
  · exact stopsAt_nil kind
  · exact stopsAt_cons dollar _

theorem dropWhile_append_stop {kind : Char → Bool} {front rest : List Char}
    (stops : StopsAt kind rest) :
    (front ++ rest).dropWhile kind = front.dropWhile kind ++ rest := by
  induction front with
  | nil => exact (takeWhile_append_stop (List.forall_mem_nil _) stops).2
  | cons head tail ih =>
      rw [List.cons_append, List.dropWhile_cons, List.dropWhile_cons]
      split
      · exact ih
      · rfl

theorem special?_plain (breaks : Bool) {head : Char} (plain : head ≠ '$' ∧ head ≠ '*' ∧ head ≠ '\\')
    (tail : List Char) :
    special? (.prose breaks) head tail = none ∨
      head = '\n' ∧ ∃ lexeme, special? (.prose breaks) head tail = some lexeme ∧
        lexeme.token? = some .paragraphBreak ∧ lexeme.rest = tail.dropWhile isBlank := by
  have notDollar := beq_eq_false_iff_ne.mpr plain.1
  have notStar := beq_eq_false_iff_ne.mpr plain.2.1
  unfold special?
  rw [notDollar, notStar, if_neg Bool.false_ne_true, Bool.false_and, if_neg Bool.false_ne_true]
  split
  · next breaking =>
      simp only [Bool.and_eq_true, beq_iff_eq] at breaking
      exact Or.inr ⟨breaking.1.1, _, rfl, rfl, rfl⟩
  · exact Or.inl rfl

theorem literalRun_cons {head : Char} (plain : head ≠ '\\') (tail : List Char) :
    (literalRun (.prose breaks) (head :: tail)).rest =
      if (special? (.prose breaks) head tail).isSome then head :: tail
      else (literalRun (.prose breaks) tail).rest := by
  cases tail with
  | nil =>
      simp only [literalRun]
      cases special? (.prose breaks) head [] <;> rfl
  | cons second others =>
      have unescaped : (head == '\\' && (Dialect.prose breaks).escapes second) = false := by
        rw [beq_eq_false_iff_ne.mpr plain, Bool.false_and]
      rw [literalRun, if_neg (by rw [unescaped]; exact Bool.false_ne_true)]
      cases special? (.prose breaks) head (second :: others) <;> rfl

theorem literalRun_plain {words rest : List Char} (plain : IsPlain words) (opens : Opens rest) :
    ∃ front left, words = front ++ left ∧
      (literalRun (.prose breaks) (words ++ rest)).rest = left ++ rest := by
  induction words with
  | nil =>
      refine ⟨[], [], rfl, ?_⟩
      rcases opens with rfl | ⟨others, rfl⟩
      · rfl
      · exact literalRun_cons (by decide) _
  | cons head tail ih =>
      obtain ⟨plainHead, plainTail⟩ := List.forall_mem_cons.mp plain
      rw [List.cons_append, literalRun_cons plainHead.2.2]
      split
      · exact ⟨[], head :: tail, rfl, rfl⟩
      · obtain ⟨front, left, rfl, ends⟩ := ih plainTail
        exact ⟨head :: front, left, rfl, ends⟩

/-- What words are read as: literal runs, and paragraph breaks where there are line ends. -/
def IsRunOf (words : List Char) (token : Token) : Prop :=
  (∃ content, token = .literal content) ∨ token = .paragraphBreak ∧ '\n' ∈ words

theorem scanText_literal {head : Char} {tail : List Char} (plain : head ≠ '\\')
    (none : special? (.prose breaks) head tail = none) :
    (∃ content, (scanText (.prose breaks) head tail).token? = some (.literal content)) ∧
      (scanText (.prose breaks) head tail).rest = (literalRun (.prose breaks) tail).rest := by
  unfold scanText
  rw [none]
  cases tail with
  | nil => exact ⟨⟨_, rfl⟩, rfl⟩
  | cons second others =>
      have unescaped : (head == '\\' && (Dialect.prose breaks).escapes second) = false := by
        rw [beq_eq_false_iff_ne.mpr plain, Bool.false_and]
      dsimp only
      rw [if_neg (by rw [unescaped]; exact Bool.false_ne_true)]
      exact ⟨⟨_, rfl⟩, rfl⟩

theorem scanText_plain (breaks : Bool) {head : Char} {tail rest : List Char}
    (plain : IsPlain (head :: tail)) (opens : Opens rest) :
    ∃ token front left, (scanText (.prose breaks) head (tail ++ rest)).token? = some token ∧
      IsRunOf (head :: tail) token ∧ tail = front ++ left ∧
      (scanText (.prose breaks) head (tail ++ rest)).rest = left ++ rest := by
  obtain ⟨plainHead, plainTail⟩ := List.forall_mem_cons.mp plain
  rcases special?_plain breaks plainHead (tail ++ rest) with
    none | ⟨rfl, lexeme, some, token, left⟩
  · obtain ⟨⟨content, token⟩, left⟩ := scanText_literal plainHead.2.2 none
    obtain ⟨front, remaining, split, ends⟩ := literalRun_plain plainTail opens
    exact ⟨_, front, remaining, token, Or.inl ⟨content, rfl⟩, split, left.trans ends⟩
  · rw [dropWhile_append_stop (opens.stops rfl)] at left
    refine ⟨_, tail.takeWhile isBlank, tail.dropWhile isBlank, ?_,
      Or.inr ⟨rfl, List.mem_cons_self ..⟩, List.takeWhile_append_dropWhile.symm, ?_⟩
    · unfold scanText
      rw [some]
      exact token
    · unfold scanText
      rw [some]
      exact left

theorem IsRunOf.inside {words : List Char} {token : Token} (isRun : IsRunOf words token) :
    insideAfter false (some token) = false := by
  rcases isRun with ⟨content, rfl⟩ | ⟨rfl, _⟩ <;> rfl

theorem IsRunOf.append {words : List Char} {token : Token} (isRun : IsRunOf words token)
    (front : List Char) : IsRunOf (front ++ words) token := by
  rcases isRun with isLiteral | ⟨isBreak, member⟩
  · exact Or.inl isLiteral
  · exact Or.inr ⟨isBreak, List.mem_append_right front member⟩

/-- Words are read as runs of their own, and what follows as if it stood alone. -/
theorem scanPieces_words (breaks : Bool) {words rest : List Char} (plain : IsPlain words)
    (opens : Opens rest) :
    ∃ pieces : List Piece,
      (∀ token ∈ pieces.filterMap Piece.token?, IsRunOf words token) ∧
      scanPieces (.prose breaks) false (words ++ rest) =
        (scanPieces (.prose breaks) false rest).map (pieces ++ ·) := by
  -- A lexeme may cover any number of the words, so the induction is on how many are left.
  induction size : words.length using Nat.strongRecOn generalizing words with
  | ind length ih =>
      cases words with
      | nil =>
          refine ⟨[], List.forall_mem_nil _, ?_⟩
          rw [List.nil_append]
          cases scanPieces (.prose breaks) false rest <;> rfl
      | cons head tail =>
          obtain ⟨token, front, left, isToken, isRun, rfl, ends⟩ :=
            scanText_plain breaks plain opens
          have plainLeft : IsPlain left := fun character member =>
            plain character (List.mem_cons_of_mem _ (List.mem_append_right front member))
          have shorter : left.length < length := by
            rw [← size, List.length_cons, List.length_append]
            omega
          obtain ⟨pieces, runs, scanned⟩ := ih left.length shorter plainLeft rfl
          let first : Piece := ⟨(scanText (.prose breaks) head (front ++ left ++ rest)).source,
            some token⟩
          refine ⟨first :: pieces, ?_, ?_⟩
          · rw [List.filterMap_cons_some (show first.token? = some token from rfl)]
            refine List.forall_mem_cons.mpr ⟨isRun, fun other member => ?_⟩
            exact (runs other member).append (head :: front)
          · rw [List.cons_append, scanPieces_text, isToken, isRun.inside, ends, scanned]
            cases scanPieces (.prose breaks) false rest <;> rfl

end Bestiary.Prose
