import Bestiary.Rules.Wording

/-!
Kinds of damage, and the conditions that creatures suffer.
-/

namespace Bestiary

/-- Kinds of damage, in the order in which lines list them. -/
inductive DamageType
  | bludgeoning
  | piercing
  | slashing
  | cold
  | fire
  | thunder
  | radiant
  | force
  | lightning
  | poison
  | acid
  | necrotic
  | psychic
  deriving DecidableEq, Repr, Inhabited

namespace DamageType

def all : List DamageType :=
  [bludgeoning, piercing, slashing, cold, fire, thunder, radiant, force, lightning, poison, acid,
    necrotic, psychic]

def word : DamageType → String
  | bludgeoning => "bludgeoning"
  | piercing => "piercing"
  | slashing => "slashing"
  | cold => "cold"
  | fire => "fire"
  | thunder => "thunder"
  | radiant => "radiant"
  | force => "force"
  | lightning => "lightning"
  | poison => "poison"
  | acid => "acid"
  | necrotic => "necrotic"
  | psychic => "psychic"

instance : Vocabulary DamageType := ⟨all, word, Vocabulary.looseSpelling? all word⟩

end DamageType

/-- Which weapons still overcome a resistance to nonmagical attacks. -/
inductive NonmagicalVariant
  | nonmagical
  | notSilvered
  | notAdamantine
  deriving DecidableEq, Repr, Inhabited

namespace NonmagicalVariant

def all : List NonmagicalVariant :=
  [nonmagical, notSilvered, notAdamantine]

def word : NonmagicalVariant → String
  | nonmagical => "nonmagical"
  | notSilvered => "not_silvered"
  | notAdamantine => "not_adamantine"

instance : Vocabulary NonmagicalVariant := ⟨all, word, fun _ => none⟩

def description : NonmagicalVariant → String
  | nonmagical => "bludgeoning, piercing, and slashing from nonmagical attacks"
  | notSilvered =>
      "bludgeoning, piercing, and slashing from nonmagical attacks that aren't silvered"
  | notAdamantine =>
      "bludgeoning, piercing, and slashing from nonmagical attacks that aren't adamantine"

end NonmagicalVariant

/-- Conditions that a creature may be immune to. -/
inductive Condition
  | blinded
  | charmed
  | deafened
  | exhaustion
  | frightened
  | grappled
  | incapacitated
  | invisible
  | paralyzed
  | petrified
  | poisoned
  | prone
  | restrained
  | stunned
  | unconscious
  deriving DecidableEq, Repr, Inhabited

namespace Condition

def all : List Condition :=
  [blinded, charmed, deafened, exhaustion, frightened, grappled, incapacitated, invisible,
    paralyzed, petrified, poisoned, prone, restrained, stunned, unconscious]

def word : Condition → String
  | blinded => "blinded"
  | charmed => "charmed"
  | deafened => "deafened"
  | exhaustion => "exhaustion"
  | frightened => "frightened"
  | grappled => "grappled"
  | incapacitated => "incapacitated"
  | invisible => "invisible"
  | paralyzed => "paralyzed"
  | petrified => "petrified"
  | poisoned => "poisoned"
  | prone => "prone"
  | restrained => "restrained"
  | stunned => "stunned"
  | unconscious => "unconscious"

instance : Vocabulary Condition := ⟨all, word, fun _ => none⟩

end Condition

/-- A line of damage types: the known types in their order, further wordings, and a variant. -/
def damageLine (types : List DamageType) (custom : List String)
    (variant : Option NonmagicalVariant) : Option String :=
  let listed := (DamageType.all.filter types.contains).map DamageType.word
  let groups := if listed.isEmpty then [] else [String.intercalate ", " listed]
  Wording.joined? "; " (groups ++ custom ++ (variant.map NonmagicalVariant.description).toList)

end Bestiary
