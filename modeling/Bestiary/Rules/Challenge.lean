import Bestiary.Number.Numeral

/-!
Challenge ratings and the statistics that are expected of them.
-/

namespace Bestiary

structure ChallengeRow where
  value : Rat
  experience : Nat
  armorClass : Int
  maxHitPoints : Int
  attackBonus : Int
  maxDamage : Int
  saveDC : Int
  deriving DecidableEq, Repr, Inhabited

/-- The table of expected statistics, lowest rating first. -/
def challengeRows : List ChallengeRow :=
  [⟨0, 10, 13, 6, 3, 1, 13⟩,
   ⟨mkRat 1 8, 25, 13, 35, 3, 3, 13⟩,
   ⟨mkRat 1 4, 50, 13, 49, 3, 5, 13⟩,
   ⟨mkRat 1 2, 100, 13, 70, 3, 8, 13⟩,
   ⟨1, 200, 13, 85, 3, 14, 13⟩,
   ⟨2, 450, 13, 100, 3, 20, 13⟩,
   ⟨3, 700, 13, 115, 4, 26, 13⟩,
   ⟨4, 1100, 14, 130, 5, 32, 14⟩,
   ⟨5, 1800, 15, 145, 6, 38, 15⟩,
   ⟨6, 2300, 15, 160, 6, 44, 15⟩,
   ⟨7, 2900, 15, 175, 6, 50, 15⟩,
   ⟨8, 3900, 16, 190, 7, 56, 16⟩,
   ⟨9, 5000, 16, 205, 7, 62, 16⟩,
   ⟨10, 5900, 17, 220, 7, 68, 16⟩,
   ⟨11, 7200, 17, 235, 8, 74, 17⟩,
   ⟨12, 8400, 17, 250, 8, 80, 17⟩,
   ⟨13, 10000, 18, 265, 8, 86, 18⟩,
   ⟨14, 11500, 18, 280, 8, 92, 18⟩,
   ⟨15, 13000, 18, 295, 8, 98, 18⟩,
   ⟨16, 15000, 18, 310, 9, 104, 18⟩,
   ⟨17, 18000, 19, 325, 10, 110, 19⟩,
   ⟨18, 20000, 19, 340, 10, 116, 19⟩,
   ⟨19, 22000, 19, 355, 10, 122, 19⟩,
   ⟨20, 25000, 19, 400, 10, 140, 19⟩,
   ⟨21, 33000, 19, 445, 11, 158, 20⟩,
   ⟨22, 41000, 19, 490, 11, 176, 20⟩,
   ⟨23, 50000, 19, 535, 11, 194, 20⟩,
   ⟨24, 62000, 19, 580, 12, 212, 21⟩,
   ⟨25, 75000, 19, 625, 12, 230, 21⟩,
   ⟨26, 90000, 19, 670, 12, 248, 21⟩,
   ⟨27, 105000, 19, 715, 13, 266, 22⟩,
   ⟨28, 120000, 19, 760, 13, 284, 22⟩,
   ⟨29, 135000, 19, 805, 13, 302, 22⟩,
   ⟨30, 155000, 19, 850, 14, 320, 23⟩]

/-- A rating of the table, by its place. -/
structure Rating where
  place : Fin challengeRows.length
  deriving DecidableEq, Repr

namespace Rating

def all : List Rating :=
  (List.finRange challengeRows.length).map Rating.mk

def lowest : Rating := ⟨⟨0, by decide⟩⟩

def eighth : Rating := ⟨⟨1, by decide⟩⟩

def quarter : Rating := ⟨⟨2, by decide⟩⟩

def half : Rating := ⟨⟨3, by decide⟩⟩

def highest : Rating := ⟨⟨challengeRows.length - 1, by decide⟩⟩

instance : Inhabited Rating := ⟨lowest⟩

def row (rating : Rating) : ChallengeRow :=
  challengeRows.get rating.place

def value (rating : Rating) : Rat :=
  rating.row.value

def ofValue? (value : Rat) : Option Rating :=
  all.find? fun rating => rating.value == value

/-- The rating some places above or below another, kept within the table. -/
def shift (rating : Rating) (places : Int) : Rating :=
  let wanted := ((rating.place.val : Int) + places).toNat
  if inside : wanted < challengeRows.length then ⟨⟨wanted, inside⟩⟩ else highest

def gap (first second : Rat) : Rat :=
  if first ≤ second then second - first else first - second

/-- The nearer of two ratings to a number; of two at the same distance, the second. -/
def nearer (value : Rat) (first second : Rating) : Rating :=
  if gap second.value value ≤ gap first.value value then second else first

/-- The rating nearest to a number; halfway between two, the higher. -/
def nearest (value : Rat) : Rating :=
  all.foldl (nearer value) lowest

/-- The proficiency bonus at a challenge: two below five, and one more for every four from there. -/
def proficiencyAt (challenge : Rat) : Int :=
  if challenge < 5 then 2 else (challenge.floor - 1) / 4 + 2

def proficiency (rating : Rating) : Int :=
  proficiencyAt rating.value

def text (rating : Rating) : String :=
  Number.showRat rating.value

def line (rating : Rating) : String :=
  rating.text ++ " (" ++ Number.groupedText rating.row.experience ++ " XP)"

/-- How far a value is from the expected one, in whole steps of two. -/
def steps (actual expected : Int) : Int :=
  Int.tdiv (actual - expected) 2

/-- The lowest rating whose row allows for a value, or the highest rating. -/
def firstAllowing (limit : ChallengeRow → Int) (value : Rat) : Rating :=
  (all.find? fun rating => decide (value ≤ (limit rating.row : Rat))).getD highest

end Rating

end Bestiary
