import Bestiary.Creature.Basic
import Bestiary.Validation.Scalar
import Bestiary.Document.Value
import Bestiary.Proofs.Document.Entries

/-!
The word for a member of a vocabulary is read as that member.

The words of a vocabulary are tried before its other spellings, so it is enough
that no two members share a word.
-/

namespace Bestiary

open Document Validation

/-- A vocabulary in which every member is listed and no two share a word. -/
class LawfulVocabulary (α : Type) [Vocabulary α] : Prop where
  listed : ∀ member : α, member ∈ (Vocabulary.all : List α)
  distinct : ((Vocabulary.all : List α).map Vocabulary.word).Nodup

namespace LawfulVocabulary

variable {α : Type} [Vocabulary α]

variable [LawfulVocabulary α]

theorem ofText?_word (member : α) :
    Vocabulary.ofText? (Vocabulary.word member) = some member := by
  have found : Vocabulary.ofWord? (Vocabulary.word member) = some member :=
    find?_key distinct (listed member)
  rw [Vocabulary.ofText?, found]
  rfl

theorem read_ofMember (member : α) : Reader.word α (.ofMember member) = .valid member := by
  rw [Value.ofMember, Reader.word, ofText?_word]

end LawfulVocabulary

instance : LawfulVocabulary Ability := ⟨by intro a; cases a <;> decide, by decide +kernel⟩

instance : LawfulVocabulary Skill := ⟨by intro a; cases a <;> decide, by decide +kernel⟩

instance : LawfulVocabulary Size := ⟨by intro a; cases a <;> decide, by decide +kernel⟩

instance : LawfulVocabulary CreatureType := ⟨by intro a; cases a <;> decide, by decide +kernel⟩

instance : LawfulVocabulary Alignment := ⟨by intro a; cases a <;> decide, by decide +kernel⟩

instance : LawfulVocabulary Pronouns := ⟨by intro a; cases a <;> decide, by decide +kernel⟩

instance : LawfulVocabulary SpellcastingStyle :=
  ⟨by intro a; cases a <;> decide, by decide +kernel⟩

instance : LawfulVocabulary ArmorKind := ⟨by intro a; cases a <;> decide, by decide +kernel⟩

instance : LawfulVocabulary DamageType := ⟨by intro a; cases a <;> decide, by decide +kernel⟩

instance : LawfulVocabulary NonmagicalVariant :=
  ⟨by intro a; cases a <;> decide, by decide +kernel⟩

instance : LawfulVocabulary Condition := ⟨by intro a; cases a <;> decide, by decide +kernel⟩

instance : LawfulVocabulary BonusSource := by
  refine ⟨?_, by decide +kernel⟩
  intro source
  cases source with
  | ability source => cases source <;> decide
  | _ => decide

instance : LawfulVocabulary RiderJoin := ⟨by intro a; cases a <;> decide, by decide +kernel⟩

instance : LawfulVocabulary Weapon := ⟨by intro a; cases a <;> decide, by decide +kernel⟩

instance : LawfulVocabulary UsageKind := ⟨by intro a; cases a <;> decide, by decide +kernel⟩

instance : LawfulVocabulary AttackKind := ⟨by intro a; cases a <;> decide, by decide +kernel⟩

end Bestiary
