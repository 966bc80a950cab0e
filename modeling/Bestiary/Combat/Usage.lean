import Bestiary.Number.Numeral
import Bestiary.Rules.Wording

/-!
How often a feature or an action can be used.
-/

namespace Bestiary

inductive UsageKind
  | recharge
  | perDay
  | perTurn
  | rest
  deriving DecidableEq, Repr, Inhabited

namespace UsageKind

def all : List UsageKind := [recharge, perDay, perTurn, rest]

def word : UsageKind → String
  | recharge => "recharge"
  | perDay => "per_day"
  | perTurn => "per_turn"
  | rest => "rest"

instance : Vocabulary UsageKind := ⟨all, word, fun _ => none⟩

end UsageKind

inductive Usage
  /-- Used again when a six-sided die shows at least this number. -/
  | recharge (least : Nat)
  | perDay (times : Nat)
  | perTurn (times : Nat)
  /-- Used again after a rest; a number may be noted and is not shown. -/
  | rest (noted : Option Nat)
  deriving DecidableEq, Repr, Inhabited

namespace Usage

def kind : Usage → UsageKind
  | recharge _ => .recharge
  | perDay _ => .perDay
  | perTurn _ => .perTurn
  | rest _ => .rest

def value? : Usage → Option Nat
  | recharge least => some least
  | perDay times => some times
  | perTurn times => some times
  | rest noted => noted

/-- A limit of a kind, with the number that was given for it; or the reason why there is none. -/
def ofParts (kind : UsageKind) (value : Option Nat) : Except String Usage :=
  match kind, value with
  | .rest, noted => .ok (rest noted)
  | kind, none => .error ("usage '" ++ kind.word ++ "' requires a value")
  | .recharge, some least =>
      if 6 < least then .error "recharge value must be between 1 and 6" else .ok (recharge least)
  | .perDay, some times => .ok (perDay times)
  | .perTurn, some times => .ok (perTurn times)

def label : Usage → String
  | recharge least =>
      if least = 6 then "Recharge 6" else "Recharge " ++ Number.showInt least ++ "-6"
  | perDay times => Number.showInt times ++ "/Day"
  | perTurn times => Number.showInt times ++ "/Turn"
  | rest _ => "Recharges after a Short or Long Rest"

end Usage

end Bestiary
