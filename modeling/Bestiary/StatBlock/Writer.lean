import Bestiary.Creature.Writer
import Bestiary.StatBlock.Basic

/-!
Writing stat blocks as document values.
-/

namespace Bestiary

open Document Prose

def StatBlock.toValue (block : StatBlock) : Value :=
  .object
    ([("name", .text block.name), ("size", .text block.size),
      ("creature_type", .text block.creatureType), ("subtype", .ofOption .text block.subtype),
      ("group", .ofOption .text block.group), ("alignment", .text block.alignment),
      ("size_type_alignment", .text block.identity), ("armor_class", .text block.armorClass),
      ("hit_points", .text block.hitPoints), ("speed", .text block.speed)] ++
    block.scores.map (fun entry => (entry.1.word, .text entry.2)) ++
    [("saving_throws", .ofOption .text block.savingThrows),
      ("skills", .ofOption .text block.skills),
      ("damage_vulnerabilities", .ofOption .text block.vulnerabilities),
      ("damage_resistances", .ofOption .text block.resistances),
      ("damage_immunities", .ofOption .text block.immunities),
      ("condition_immunities", .ofOption .text block.conditionImmunities),
      ("senses", .text block.senses), ("languages", .ofOption .text block.languages),
      ("challenge_rating", .text block.challengeRating),
      ("proficiency_bonus", .text block.proficiency), ("features", .ofEntries block.features),
      ("actions", .ofEntries block.actions), ("reactions", .ofEntries block.reactions),
      ("legendary_intro", .ofOption textValue block.legendaryIntroduction),
      ("legendary_actions", .ofEntries block.legendaryActions),
      ("source", .ofOption .text block.source)])

end Bestiary
