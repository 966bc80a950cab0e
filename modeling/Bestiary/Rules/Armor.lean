import Bestiary.Rules.Wording

/-!
Armor: what it is called and what it is worth.
-/

namespace Bestiary

/-- Kinds of armor; natural and custom armor have no value of their own and take a bonus instead. -/
inductive ArmorKind
  | padded
  | leather
  | studdedLeather
  | hide
  | chainShirt
  | scaleMail
  | breastplate
  | halfPlate
  | ringMail
  | chainMail
  | splint
  | plate
  | natural
  | custom
  deriving DecidableEq, Repr, Inhabited

namespace ArmorKind

def all : List ArmorKind :=
  [padded, leather, studdedLeather, hide, chainShirt, scaleMail, breastplate, halfPlate, ringMail,
    chainMail, splint, plate, natural, custom]

def word : ArmorKind → String
  | padded => "padded"
  | leather => "leather"
  | studdedLeather => "studded_leather"
  | hide => "hide"
  | chainShirt => "chain_shirt"
  | scaleMail => "scale_mail"
  | breastplate => "breastplate"
  | halfPlate => "half_plate"
  | ringMail => "ring_mail"
  | chainMail => "chain_mail"
  | splint => "splint"
  | plate => "plate"
  | natural => "natural"
  | custom => "custom"

instance : Vocabulary ArmorKind := ⟨all, word, Vocabulary.looseSpelling? all word⟩

def description : ArmorKind → String
  | padded => "padded armor"
  | leather => "leather armor"
  | studdedLeather => "studded leather armor"
  | hide => "hide armor"
  | chainShirt => "chain shirt"
  | scaleMail => "scale mail"
  | breastplate => "breastplate"
  | halfPlate => "half plate"
  | ringMail => "ring mail"
  | chainMail => "chain mail"
  | splint => "splint"
  | plate => "plate"
  | natural => "natural armor"
  | custom => "armor"

/-- How much of a dexterity modifier counts. -/
inductive DexterityRule
  | full
  | atMost (cap : Int)
  | nothing
  deriving DecidableEq, Repr

end ArmorKind

/-- What each kind of armor is worth, and what dexterity adds to it: light armor takes the whole
modifier, medium armor at most two, and heavy armor none. -/
def armorRows : List (ArmorKind × Int × ArmorKind.DexterityRule) :=
  [(.padded, 11, .full),
   (.leather, 11, .full),
   (.studdedLeather, 12, .full),
   (.hide, 12, .atMost 2),
   (.chainShirt, 13, .atMost 2),
   (.scaleMail, 14, .atMost 2),
   (.breastplate, 14, .atMost 2),
   (.halfPlate, 15, .atMost 2),
   (.ringMail, 14, .nothing),
   (.chainMail, 16, .nothing),
   (.splint, 17, .nothing),
   (.plate, 18, .nothing),
   (.natural, 10, .full),
   (.custom, 10, .full)]

namespace ArmorKind

theorem isSome_lookup (kind : ArmorKind) : (armorRows.lookup kind).isSome = true := by
  cases kind <;> rfl

/-- The row of a kind of armor; every kind has one. -/
def row (kind : ArmorKind) : Int × DexterityRule :=
  (armorRows.lookup kind).get kind.isSome_lookup

def base (kind : ArmorKind) : Int := kind.row.1

def dexterityRule (kind : ArmorKind) : DexterityRule := kind.row.2

/-- What a dexterity modifier adds under a rule. -/
def DexterityRule.allows : DexterityRule → Int → Int
  | full, modifier => modifier
  | atMost cap, modifier => min modifier cap
  | nothing, _ => 0

end ArmorKind

end Bestiary
