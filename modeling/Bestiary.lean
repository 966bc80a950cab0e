import Bestiary.Creature.Assembly
import Bestiary.Creature.Assignment
import Bestiary.Proofs.Creature.Invariant
import Bestiary.Proofs.Creature.Reordering
import Bestiary.Proofs.Creature.Validation
import Bestiary.Proofs.Creature.Verbatim
import Bestiary.Proofs.Directive.Dump
import Bestiary.Proofs.Prose.Interpolation
import Bestiary.Settings.Reader
import Bestiary.Settings.Writer
import Bestiary.StatBlock.Writer
import Bestiary.Proofs.Prose.Bracketing
import Bestiary.Proofs.Prose.Acceptance
import Bestiary.Proofs.Dice.Acceptance
import Bestiary.Proofs.Creature.Reporting
import Bestiary.Proofs.Creature.AttackText
import Bestiary.Proofs.Creature.Cycling
import Bestiary.Proofs.Combat.Damage
import Bestiary.Proofs.Creature.Nesting
import Bestiary.Proofs.Directive.Tagging
import Bestiary.Proofs.Creature.Arguments
import Bestiary.Proofs.Creature.Toughness
import Bestiary.Proofs.Creature.Refusal
import Bestiary.Proofs.Creature.Overwriting
import Bestiary.Proofs.Creature.Tables
import Bestiary.Proofs.Creature.Casting
import Bestiary.Proofs.Creature.Entry
import Bestiary.Proofs.Creature.Anticipation
import Bestiary.Proofs.StatBlock.Description
import Bestiary.Proofs.Dice.Rounding
import Bestiary.Proofs.Prose.Arithmetic
import Bestiary.Proofs.Creature.Ties
import Bestiary.Proofs.Prose.Passage
import Bestiary.Proofs.Creature.Spells
import Bestiary.Proofs.Dice.Merging
import Bestiary.Proofs.Prose.Whereabouts
import Bestiary.Proofs.Prose.Embedding
import Bestiary.Proofs.Prose.BlockEnd
import Bestiary.Proofs.Rules.Nearest
import Bestiary.Proofs.StatBlock.Listing
import Bestiary.Proofs.Creature.Substitution
import Bestiary.Proofs.Prose.Capitals
import Bestiary.Proofs.Prose.Merging
