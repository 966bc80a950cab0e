import Bestiary.Proofs.Creature.AttackText
import Bestiary.Proofs.Creature.Entry
import Bestiary.Proofs.Creature.Tables
import Bestiary.Proofs.Directive.Readable
import Bestiary.Proofs.Prose.Passage

/-!
How the spells of a class are listed.

The text about them is an introduction, and then a sub-paragraph for the cantrips
and one for each spell level, in ascending order. Each is headed by what it is
about and has the spells as they were given, in italics. How many slots a level
has is what the slots that are given say, and what the table of the style says
where none are: a map of slots with nothing in it counts as none.
-/

namespace Bestiary

open Prose Number

/-! ### Slots -/

namespace SpellSlots

def pair? (entry : Nat × Nat) : Option (Int × Int) :=
  if entry.2 = 0 then none else some ((entry.1 : Int) + 1, (entry.2 : Int))

theorem numbered_eq (row : List Nat) :
    numbered row = ((List.range row.length).zip row).filterMap pair? :=
  rfl

/-- The slots of a level are found in the place of the level, counted from where the row starts. -/
theorem lookup_pairs (row : List Nat) (start place : Nat) :
    ((((List.range' start row.length).zip row).filterMap pair?).lookup
        ((place : Int) + 1)).getD 0 =
      ((if start ≤ place then row[place - start]?.getD 0 else 0 : Nat) : Int) := by
  induction row generalizing start with
  | nil => simp
  | cons count others ih =>
      have later := ih (start + 1)
      rw [List.length_cons, List.range'_succ, List.zip_cons_cons, List.filterMap_cons, pair?]
      by_cases here : place = start
      · subst here
        rw [if_neg (by omega)] at later
        by_cases empty : count = 0
        · subst empty
          simpa using later
        · simp [empty]
      · have other : ((place : Int) + 1 == (start : Int) + 1) = false := by
          rw [beq_eq_false_iff_ne]
          omega
        have rest : (if start ≤ place then (count :: others)[place - start]?.getD 0 else 0) =
            if start + 1 ≤ place then others[place - (start + 1)]?.getD 0 else 0 := by
          by_cases beyond : start + 1 ≤ place
          · rw [if_pos (by omega), if_pos beyond,
              show place - start = place - (start + 1) + 1 by omega, List.getElem?_cons_succ]
          · rw [if_neg (by omega), if_neg beyond]
        rw [rest, ← later]
        by_cases empty : count = 0
        · simp [empty]
        · simp [empty, List.lookup_cons, other]

theorem lookup_numbered (row : List Nat) (place : Nat) :
    ((numbered row).lookup ((place : Int) + 1)).getD 0 = (row[place]?.getD 0 : Nat) := by
  rw [numbered_eq, List.range_eq_range', lookup_pairs, if_pos (Nat.zero_le place), Nat.sub_zero]

def tableCount (style : SpellcastingStyle) (caster level : Nat) : Nat :=
  ((rows style)[caster - 1]?.getD [])[level - 1]?.getD 0

theorem tableCount_eq (style : SpellcastingStyle) (caster : CasterLevel) {level : Nat}
    (positive : 1 ≤ level) :
    ((ofLevel style caster).lookup (level : Int)).getD 0 = tableCount style caster.val level := by
  obtain ⟨place, row, here, found, _, listed⟩ := hasRow style caster
  obtain ⟨before, rfl⟩ : ∃ before, level = before + 1 := ⟨level - 1, by omega⟩
  rw [listed, Int.natCast_succ, lookup_numbered, tableCount, here, Nat.add_sub_cancel,
    Nat.add_sub_cancel, found, Option.getD_some]

end SpellSlots

def levelNames : List (Int × String) :=
  [(1, "1st"), (2, "2nd"), (3, "3rd"), (4, "4th"), (5, "5th"), (6, "6th"), (7, "7th"), (8, "8th"),
    (9, "9th")]

def levelTitle (level count : Int) : String :=
  (levelNames.lookup level).getD "" ++ " level (" ++ showInt count ++
    (if count = 1 then " slot" else " slots") ++ "):"

theorem ordinal_level {level : Int} (range : 1 ≤ level ∧ level ≤ 9) :
    levelNames.lookup level = some (Wording.ordinal level) := by
  obtain ⟨place, rfl⟩ : ∃ place : Fin 9, level = place.val + 1 :=
    ⟨⟨(level - 1).toNat, by omega⟩, by dsimp only; omega⟩
  revert place
  decide

namespace Spellcasting

variable {casting : Spellcasting}

/-- The slots of a spell level: those that are given, where any are, and else those of the table. -/
def slotCount (casting : Spellcasting) (level : Int) : Int :=
  if (casting.slots.getD []).isEmpty then
    SpellSlots.tableCount casting.style casting.level.val level.toNat
  else ((casting.slots.getD []).lookup level).getD 0

theorem slotCount_eq (casting : Spellcasting) {level : Int} (positive : 1 ≤ level) :
    (casting.slotsByLevel.lookup level).getD 0 = casting.slotCount level := by
  have usual : ((SpellSlots.ofLevel casting.style casting.level).lookup level).getD 0 =
      SpellSlots.tableCount casting.style casting.level.val level.toNat := by
    obtain ⟨natural, rfl⟩ := Int.eq_ofNat_of_zero_le (show 0 ≤ level by omega)
    exact SpellSlots.tableCount_eq casting.style casting.level (by omega)
  unfold slotsByLevel slotCount
  cases casting.slots with
  | none => exact usual
  | some given =>
      cases given with
      | nil => exact usual
      | cons entry others => rfl

theorem levelHeading_eq (casting : Spellcasting) {level : Int}
    (range : 1 ≤ level ∧ level ≤ 9) :
    casting.levelHeading level = levelTitle level (casting.slotCount level) := by
  unfold levelHeading levelTitle
  rw [slotCount_eq casting range.1, ordinal_level range]
  rfl

end Spellcasting

theorem isWritable_short {number : Int} (few : number.natAbs < Nat.pow 10 2) :
    isWritable number = true :=
  decide_eq_true (lt_writingBound (by decide) few)

theorem isBySpellLevel {α : Type} {entries : List (Int × α)} (distinct : (keysOf entries).Nodup)
    (levels : ∀ entry ∈ entries, 1 ≤ entry.1 ∧ entry.1 ≤ 9) : IsBySpellLevel entries := by
  refine ⟨⟨distinct, fun entry member => ?_⟩, levels⟩
  have range := levels entry member
  have digit : entry.1.natAbs < 10 ^ 1 := by omega
  refine Nat.lt_of_lt_of_le digit (Nat.pow_le_pow_right (by decide) ?_)
  cases decide (entry.1 < 0) <;> decide

/-! ### Lists of spells -/

def spellSpans (spells : List String) : List Span :=
  (spells.map fun spell => (⟨.italic, spell⟩ : Span)).intersperse ⟨.normal, ", "⟩

def spellBlock (heading : String) (spells : List String) : Block :=
  ⟨.subParagraph, some [⟨.bold, heading⟩], mergeSpans (spellSpans spells)⟩

def spellPassages : List String → List Passage
  | [] => []
  | spell :: others =>
      ⟨.within .italic spell, if others.isEmpty then "" else ", "⟩ :: spellPassages others

def paragraphPassages (paragraphs : List (String × List String)) : List Passage :=
  paragraphs.flatMap fun entry => ⟨.within .subParagraph entry.1, ""⟩ :: spellPassages entry.2

theorem styledSpans_spells (spell : String) (others : List String) :
    styledSpans (spellSpans (spell :: others)) =
      styled .italic spell ++ (styled .normal (if others.isEmpty then "" else ", ") ++
        styledSpans (spellSpans others)) := by
  cases others with
  | nil => rfl
  | cons next rest => rfl

theorem spellBlock_isNormal {heading : String} (solid : heading.isEmpty = false)
    (spells : List String) : (spellBlock heading spells).IsNormal where
  heading := by
    intro found member
    cases member
    exact ⟨isNormal_singleton solid, List.cons_ne_nil _ _⟩
  body := mergeSpans_isNormal _
  present := by
    intro impossible
    cases impossible

theorem styled_titled (kind : BlockKind) (style : SpanStyle) (title : String) (body : List Span) :
    Block.styled ⟨kind, some [⟨style, title⟩], body⟩ =
      (Block.styled ⟨kind, none, body⟩).prepend true (styled style title) := by
  simp [Block.styled, StyledBlock.prepend, styledSpans]

theorem styled_spellBlock (heading : String) (spells : List String) :
    (spellBlock heading spells).styled =
      ((StyledBlock.blank .subParagraph).prepend false (styledSpans (spellSpans spells))).prepend
        true (styled .bold heading) := by
  rw [spellBlock, styled_titled, Block.styled, styledSpans_mergeSpans]
  simp [StyledBlock.prepend, StyledBlock.blank, styledSpans]

theorem styled_plain (content : String) :
    Block.styled ⟨.paragraph, none, [⟨.normal, content⟩]⟩ =
      (StyledBlock.blank .paragraph).prepend false (styled .normal content) := by
  simp [Block.styled, StyledBlock.prepend, StyledBlock.blank, styledSpans]

section Reading

variable {capitalize : Bool}

/-- Spells are read into the body of what follows, whether a sentence starts with them or not. -/
theorem readPassages_spells {kind : BlockKind} {rest : List Passage} {outline : Outline}
    (readRest : ∀ fresh, readPassages capitalize kind fresh rest = .ok outline)
    (spells : List String) (fresh : Bool) :
    readPassages capitalize kind fresh (spellPassages spells ++ rest) =
      .ok { outline with
        current := outline.current.prepend false (styledSpans (spellSpans spells)) } := by
  induction spells generalizing fresh with
  | nil => exact readRest fresh
  | cons spell others ih =>
      rw [spellPassages, List.cons_append, readPassages]
      dsimp only [Structure.headingKind?, Option.getD_none]
      rw [ih, ok_bind, styledSpans_spells, ← prepend_prepend, ← prepend_prepend]
      rfl

theorem readPassages_paragraphs (paragraphs : List (String × List String)) (kind : BlockKind)
    (fresh : Bool) :
    readPassages capitalize kind fresh (paragraphPassages paragraphs) =
      .ok ⟨.blank kind, paragraphs.map fun entry => (spellBlock entry.1 entry.2).styled⟩ := by
  induction paragraphs generalizing kind fresh with
  | nil => rfl
  | cons entry others ih =>
      have spells := readPassages_spells (ih .subParagraph) entry.2 true
      rw [paragraphPassages, List.flatMap_cons, List.cons_append, ← paragraphPassages,
        readPassages_heading rfl spells, List.map_cons, styled_spellBlock]
      rfl

end Reading

/-! ### Source -/

theorem passagesText_spells (spells : List String) :
    passagesText (spellPassages spells) = spellLine spells := by
  have comma : escapeText ", " = ", " := IsInline.escapeText_eq (by decide)
  induction spells with
  | nil => rfl
  | cons spell others ih =>
      rw [spellPassages, passagesText_cons, ih]
      cases others with
      | nil => simp [Passage.text, Markup.text, spellLine, escapeText]
      | cons next rest => simp [Passage.text, Markup.text, spellLine, comma]

theorem passagesText_paragraphs {paragraphs : List (String × List String)}
    (inline : ∀ entry ∈ paragraphs, IsInline entry.1.toList) :
    passagesText (paragraphPassages paragraphs) =
      String.join (paragraphs.map fun entry => spellParagraph entry.1 entry.2) := by
  induction paragraphs with
  | nil => rfl
  | cons entry others ih =>
      obtain ⟨first, later⟩ := List.forall_mem_cons.mp inline
      have nothing : escapeText "" = "" := rfl
      rw [paragraphPassages, List.flatMap_cons, List.cons_append, ← paragraphPassages,
        passagesText_cons, passagesText_append, passagesText_spells, ih later, List.map_cons,
        String.join_cons, spellParagraph, Passage.text, Markup.text, first.escapeText_eq, nothing,
        String.append_empty, String.append_assoc]

theorem ordinal_isInline (number : Int) : IsInline (Wording.ordinal number).toList := by
  refine (isInline_showInt number).join ?_
  unfold Wording.ordinalEnding
  repeat' split
  all_goals decide

namespace Spellcasting

variable {casting : Spellcasting}

theorem levelHeading_isInline (casting : Spellcasting) (level : Int) :
    IsInline (casting.levelHeading level).toList := by
  have plural (count : Int) : IsInline (if count = 1 then " slot" else " slots").toList := by
    split <;> decide
  exact (((((ordinal_isInline level).join (by decide)).join (isInline_showInt _)).join
    (plural _)).join (by decide))

def paragraphs (casting : Spellcasting) : List (String × List String) :=
  (if casting.cantrips.isEmpty then [] else [("Cantrips (at will):", casting.cantrips)]) ++
    casting.spellsInOrder.map fun entry => (casting.levelHeading entry.1, entry.2)

theorem paragraphs_inline (casting : Spellcasting) :
    ∀ entry ∈ casting.paragraphs, IsInline entry.1.toList := by
  refine List.forall_mem_append.mpr ⟨?_, List.forall_mem_map.mpr fun entry _ => ?_⟩
  · split
    · exact List.forall_mem_nil _
    · have atWill : IsInline "Cantrips (at will):".toList := by decide
      exact List.forall_mem_singleton.mpr atWill
  · exact casting.levelHeading_isInline entry.1

def introductionPassages (casting : Spellcasting) (subject possessive : String)
    (difficulty bonus : Int) : List Passage :=
  [⟨.shown "Subj" [.name "Subj"] (.text subject),
      " is a " ++ Wording.ordinal casting.level.val ++ "-level spellcaster. "⟩,
    ⟨.shown "Posspro" [.name "Posspro"] (.text possessive),
      " spellcasting ability is " ++ casting.ability.fullName ++ " (spell save DC "⟩,
    ⟨.shown "spell_dc" [.name "spell_dc"] (.number difficulty false), ", "⟩,
    ⟨.shown "+spell_atk" [.plus, .name "spell_atk"] (.number bonus true),
      " to hit with spell attacks). "⟩,
    ⟨.shown "Subj" [.name "Subj"] (.text subject),
      " has the following " ++ Text.lower casting.className ++ " spells prepared:"⟩]

theorem levelWords_isInline (casting : Spellcasting) :
    IsInline (" is a " ++ Wording.ordinal casting.level.val ++ "-level spellcaster. ").toList :=
  (IsInline.join (by decide) (ordinal_isInline _)).join (by decide)

theorem abilityWords_isInline (casting : Spellcasting) :
    IsInline (" spellcasting ability is " ++ casting.ability.fullName ++
      " (spell save DC ").toList := by
  have ability : IsInline casting.ability.fullName.toList := by
    cases casting.ability <;> decide
  exact (IsInline.join (by decide) ability).join (by decide)

theorem comma_isInline : IsInline ", ".toList := by
  decide

theorem attackWords_isInline : IsInline " to hit with spell attacks). ".toList := by
  decide

theorem introduction_eq (casting : Spellcasting) (subject possessive : String)
    (difficulty bonus : Int) :
    casting.introduction =
      passagesText (casting.introductionPassages subject possessive difficulty bonus) := by
  have front : escapeText " has the following " = " has the following " :=
    IsInline.escapeText_eq (by decide)
  have back : escapeText " spells prepared:" = " spells prepared:" :=
    IsInline.escapeText_eq (by decide)
  unfold introduction introductionPassages
  simp only [passagesText_cons, Passage.text, Markup.text]
  rw [casting.levelWords_isInline.escapeText_eq, casting.abilityWords_isInline.escapeText_eq,
    comma_isInline.escapeText_eq, attackWords_isInline.escapeText_eq, escapeText_append,
    escapeText_append, front, back]
  simp only [String.append_assoc]
  rfl

theorem describe_eq (casting : Spellcasting) (subject possessive : String)
    (difficulty bonus : Int) :
    casting.describe =
      passagesText (casting.introductionPassages subject possessive difficulty bonus ++
        paragraphPassages casting.paragraphs) := by
  have cantrips : String.join
      ((if casting.cantrips.isEmpty then [] else [("Cantrips (at will):", casting.cantrips)]).map
        fun entry => spellParagraph entry.1 entry.2) =
      spellParagraph? "Cantrips (at will):" casting.cantrips := by
    unfold spellParagraph?
    split <;> simp
  rw [passagesText_append, ← introduction_eq, passagesText_paragraphs casting.paragraphs_inline,
    describe, paragraphs, List.map_append, String.join_append, cantrips, String.append_assoc,
    List.map_map]
  rfl

/-- The text of the introduction, the first subject being written as it is at the start of a
sentence. -/
def introductionText (casting : Spellcasting) (first subject possessive : String)
    (difficulty bonus : Int) : String :=
  first ++ " is a " ++ Wording.ordinal casting.level.val ++ "-level spellcaster. " ++ possessive ++
    " spellcasting ability is " ++ casting.ability.fullName ++ " (spell save DC " ++
    showInt difficulty ++ ", " ++ showSigned bonus ++ " to hit with spell attacks). " ++ subject ++
    " has the following " ++ Text.lower casting.className ++ " spells prepared:"

theorem readPassages_introduction {capitalize : Bool} {rest : List Passage}
    {others : List StyledBlock}
    (readRest : ∀ fresh, readPassages capitalize .paragraph fresh rest =
      .ok ⟨.blank .paragraph, others⟩)
    (casting : Spellcasting) (subject possessive : String) (difficulty bonus : Int) :
    readPassages capitalize .paragraph true
        (casting.introductionPassages subject possessive difficulty bonus ++ rest) =
      if isWritable difficulty = true ∧ isWritable bonus = true then
        .ok ⟨Block.styled ⟨.paragraph, none, [⟨.normal, casting.introductionText
          (if capitalize then Text.capitalizeHead subject else subject) subject possessive
          difficulty bonus⟩]⟩, others⟩
      else .error .unwritableNumber := by
  have shown (number : Int) (signed : Bool) : (ProseValue.number number signed).written =
      if isWritable number then .ok (ProseValue.number number signed).display
      else .error .unwritableNumber := rfl
  have solid (front middle back : String) (something : front.isEmpty = false) :
      (front ++ middle ++ back).isEmpty = false := by
    rw [Bool.eq_false_iff, Ne, String.isEmpty_iff] at something ⊢
    simp [something]
  rw [introductionPassages, List.cons_append, readPassages_shown rfl (solid _ _ _ rfl),
    List.cons_append, readPassages_shown rfl (solid _ _ _ rfl), List.cons_append]
  cases writesDifficulty : isWritable difficulty with
  | false =>
      rw [readPassages_unwritten (by rw [shown, writesDifficulty]; rfl)]
      rfl
  | true =>
      rw [readPassages_shown (by rw [shown, writesDifficulty]; rfl) rfl, List.cons_append]
      cases writesBonus : isWritable bonus with
      | false =>
          rw [readPassages_unwritten (by rw [shown, writesBonus]; rfl)]
          rfl
      | true =>
          rw [readPassages_shown (by rw [shown, writesBonus]; rfl) rfl, List.cons_append,
            readPassages_shown rfl (solid _ _ _ rfl), List.nil_append, readRest,
            if_pos (show true = true ∧ true = true from ⟨rfl, rfl⟩), styled_plain]
          simp only [Except.map, write_write]
          refine congrArg (fun text => Except.ok (Outline.write [] text ⟨.blank .paragraph, others⟩)) ?_
          unfold introductionText
          simp only [Bool.true_and, Bool.false_and, Bool.false_eq_true, if_false, if_true,
            ProseValue.display, String.append_assoc]

end Spellcasting

/-! ### Soundness -/

section Sound

variable {scope : Variables} {breaks : Bool}

theorem unbroken_of_oneLine {text : String} (oneLine : '\n' ∉ text.toList) :
    (breaks && hasBlankLine text.toList) = false := by
  rw [hasBlankLine_oneLine oneLine, Bool.and_false]

theorem spellPassages_sound {spells : List String}
    (oneLine : ∀ spell ∈ spells, '\n' ∉ spell.toList) :
    ∀ passage ∈ spellPassages spells, passage.IsSound breaks scope := by
  induction spells with
  | nil => exact List.forall_mem_nil _
  | cons spell others ih =>
      obtain ⟨first, later⟩ := List.forall_mem_cons.mp oneLine
      have separator : '\n' ∉ (if others.isEmpty then "" else ", ").toList := by
        split <;> decide
      exact List.forall_mem_cons.mpr
        ⟨⟨unbroken_of_oneLine first, unbroken_of_oneLine separator⟩, ih later⟩

theorem paragraphPassages_sound {paragraphs : List (String × List String)}
    (headings : ∀ entry ∈ paragraphs, '\n' ∉ entry.1.toList)
    (oneLine : ∀ entry ∈ paragraphs, ∀ spell ∈ entry.2, '\n' ∉ spell.toList) :
    ∀ passage ∈ paragraphPassages paragraphs, passage.IsSound breaks scope := by
  refine List.forall_mem_flatMap.mpr fun entry member => List.forall_mem_cons.mpr ⟨?_, ?_⟩
  · exact ⟨unbroken_of_oneLine (headings entry member), unbroken_of_oneLine List.not_mem_nil⟩
  · exact spellPassages_sound (oneLine entry member)

theorem scans_word {word : String} (isName : IsName word.toList) :
    Scans breaks word.toList [.name word] := by
  have scans : Scans breaks word.toList [.name (String.ofList word.toList)] := scans_name isName
  rwa [String.ofList_toList] at scans

theorem shown_isSound {word : String} (isName : IsName word.toList) {value : ProseValue}
    (found : scope.lookup word = some value) :
    (Markup.shown word [.name word] value).IsSound breaks scope :=
  ⟨(scans_word isName).readsAs (legible_nil.cons (by simp)),
    (Denotes.name found).unary.product.sum.choice⟩

theorem shown_signed_isSound {word : String} (isName : IsName word.toList) {number : Int}
    (found : scope.lookup word = some (.number number false)) :
    (Markup.shown ("+" ++ word) [.plus, .name word] (.number number true)).IsSound breaks
      scope := by
  have spelled : ("+" ++ word).toList = '+' :: word.toList := by simp
  refine ⟨?_, (Denotes.name found).unary.signed.product.sum.choice⟩
  rw [spelled]
  exact (scans_word isName).plus.readsAs ((legible_nil.cons (by simp)).cons (by simp))

end Sound

theorem Creature.lookup_text {creature : Creature} {proficiency : Int} {name content : String}
    (member : (name, content) ∈ creature.textVariables) :
    (creature.proseVariables proficiency).lookup name = some (.text content) := by
  refine lookup_key ?_ (List.mem_append_left _ (List.mem_append_left _ (List.mem_map_of_mem member)))
  rw [keysOf_proseVariables]
  exact variableNames_nodup

namespace Spellcasting

variable {casting : Spellcasting}

def names (casting : Spellcasting) : List String :=
  casting.className :: (casting.cantrips ++ casting.spells.flatMap Prod.snd)

def introductionOf (casting : Spellcasting) (creature : Creature) (proficiency : Int) :
    List Passage :=
  casting.introductionPassages creature.capitalizedSubject
    (Text.capitalizeHead creature.pronouns.possessive) (creature.spellSaveDC proficiency)
    (creature.spellAttackBonus proficiency)

theorem introductionOf_sound (creature : Creature) (proficiency : Int) (breaks : Bool)
    (oneLine : '\n' ∉ casting.className.toList) :
    ∀ passage ∈ casting.introductionOf creature proficiency,
      passage.IsSound breaks (creature.proseVariables proficiency) := by
  have subject : (creature.proseVariables proficiency).lookup "Subj" =
      some (.text creature.capitalizedSubject) :=
    Creature.lookup_text (List.mem_append_left _ (List.mem_append_left _ (List.mem_append_left _
      (.tail _ (.tail _ (.head _))))))
  have possessive : (creature.proseVariables proficiency).lookup "Posspro" =
      some (.text (Text.capitalizeHead creature.pronouns.possessive)) := by
    have name : Text.capitalizeHead "posspro" = "Posspro" := by decide
    have form : ("posspro", creature.pronouns.possessive) ∈ creature.pronounForms :=
      .tail _ (.tail _ (.head _))
    refine Creature.lookup_text (List.mem_append_left _ (List.mem_append_right _ ?_))
    exact List.mem_map.mpr
      ⟨_, form, congrArg (·, Text.capitalizeHead creature.pronouns.possessive) name⟩
  have subjectName : IsName "Subj".toList :=
    ⟨⟨_, _, rfl, rfl, rfl, by decide, List.all_eq_true.mp rfl⟩, by decide, by decide, rfl⟩
  have possessiveName : IsName "Posspro".toList :=
    ⟨⟨_, _, rfl, rfl, rfl, by decide, List.all_eq_true.mp rfl⟩, by decide, by decide, rfl⟩
  have attackName : IsName "spell_atk".toList := isName_of_mem (by decide)
  have difficultyName : IsName "spell_dc".toList := isName_of_mem (by decide)
  have classWords : '\n' ∉ (" has the following " ++ Text.lower casting.className ++
      " spells prepared:").toList := by
    rw [String.toList_append, String.toList_append, List.mem_append, List.mem_append]
    rintro ((inFront | inName) | inBack)
    · revert inFront
      decide
    · exact Text.lower_oneLine oneLine inName
    · revert inBack
      decide
  unfold introductionOf introductionPassages
  simp only [List.forall_mem_cons]
  exact ⟨⟨shown_isSound subjectName subject, unbroken_of_oneLine casting.levelWords_isInline.oneLine⟩,
    ⟨shown_isSound possessiveName possessive, unbroken_of_oneLine casting.abilityWords_isInline.oneLine⟩,
    ⟨shown_isSound difficultyName (creature.lookup_difficulty proficiency),
      unbroken_of_oneLine comma_isInline.oneLine⟩,
    ⟨shown_signed_isSound attackName (creature.holdsOffense proficiency).spellAttack,
      unbroken_of_oneLine attackWords_isInline.oneLine⟩,
    ⟨shown_isSound subjectName subject, unbroken_of_oneLine classWords⟩, List.forall_mem_nil _⟩

theorem spellsInOrder_perm (casting : Spellcasting) :
    casting.spellsInOrder.Perm casting.spells :=
  List.mergeSort_perm _ _

/-- The levels of the spells go up: no level stands twice. -/
theorem spellsInOrder_ascending (readable : casting.IsReadable) :
    casting.spellsInOrder.Pairwise fun first second => first.1 < second.1 := by
  have sorted : casting.spellsInOrder.Pairwise fun first second => first.1 ≤ second.1 := by
    have transitive (first second third : Int × List String)
        (before : decide (first.1 ≤ second.1) = true)
        (after : decide (second.1 ≤ third.1) = true) : decide (first.1 ≤ third.1) = true :=
      decide_eq_true (le_trans (of_decide_eq_true before) (of_decide_eq_true after))
    have total (first second : Int × List String) :
        (decide (first.1 ≤ second.1) || decide (second.1 ≤ first.1)) = true := by
      rw [Bool.or_eq_true, decide_eq_true_eq, decide_eq_true_eq]
      exact le_total first.1 second.1
    exact (List.pairwise_mergeSort transitive total casting.spells).imp of_decide_eq_true
  have distinct : casting.spellsInOrder.Pairwise fun first second => first.1 ≠ second.1 := by
    have keys : (keysOf casting.spellsInOrder).Nodup :=
      (casting.spellsInOrder_perm.map Prod.fst).nodup_iff.mpr readable.spells.numbered.distinct
    exact List.pairwise_map.mp keys
  exact (sorted.and distinct).imp fun both => lt_of_le_of_ne both.1 both.2

def introductionBlock (casting : Spellcasting) (creature : Creature) (proficiency : Int)
    (capitalize : Bool) : Block :=
  let subject := creature.capitalizedSubject
  ⟨.paragraph, none, [⟨.normal, casting.introductionText
    (if capitalize then Text.capitalizeHead subject else subject) subject
    (Text.capitalizeHead creature.pronouns.possessive) (creature.spellSaveDC proficiency)
    (creature.spellAttackBonus proficiency)⟩]⟩

theorem paragraphs_solid (casting : Spellcasting) :
    ∀ entry ∈ casting.paragraphs, entry.1.isEmpty = false := by
  have ends (front : String) : (front ++ "):").isEmpty = false := by
    rw [Bool.eq_false_iff, Ne, String.isEmpty_iff]
    simp
  refine List.forall_mem_append.mpr ⟨?_, List.forall_mem_map.mpr fun entry _ => ends _⟩
  split
  · exact List.forall_mem_nil _
  · exact List.forall_mem_singleton.mpr rfl

theorem paragraphs_sound (casting : Spellcasting) {scope : Variables} {breaks : Bool}
    (oneLine : ∀ spell ∈ casting.cantrips ++ casting.spells.flatMap Prod.snd,
      '\n' ∉ spell.toList) :
    ∀ passage ∈ paragraphPassages casting.paragraphs, passage.IsSound breaks scope := by
  obtain ⟨oneLineCantrips, oneLineSpells⟩ := List.forall_mem_append.mp oneLine
  refine paragraphPassages_sound
    (fun entry member => (casting.paragraphs_inline entry member).oneLine)
    (List.forall_mem_append.mpr ⟨?_, List.forall_mem_map.mpr fun entry member => ?_⟩)
  · split
    · exact List.forall_mem_nil _
    · exact List.forall_mem_singleton.mpr oneLineCantrips
  · exact List.forall_mem_flatMap.mp oneLineSpells entry
      (casting.spellsInOrder_perm.mem_iff.mp member)

theorem paragraphs_blocks (readable : casting.IsReadable) :
    casting.paragraphs.map (fun entry => spellBlock entry.1 entry.2) =
      (if casting.cantrips.isEmpty then []
        else [spellBlock "Cantrips (at will):" casting.cantrips]) ++
      casting.spellsInOrder.map fun entry =>
        spellBlock (levelTitle entry.1 (casting.slotCount entry.1)) entry.2 := by
  rw [paragraphs, List.map_append, List.map_map]
  refine congrArg₂ (· ++ ·) ?_ ?_
  · split <;> rfl
  · refine List.map_congr_left fun entry member => ?_
    have range := readable.spells.levels entry (casting.spellsInOrder_perm.mem_iff.mp member)
    exact congrArg (spellBlock · entry.2) (casting.levelHeading_eq range)

def listing (casting : Spellcasting) (creature : Creature) (proficiency : Int) : List Passage :=
  casting.introductionOf creature proficiency ++ paragraphPassages casting.paragraphs

theorem listing_sound (creature : Creature) (proficiency : Int) (breaks : Bool)
    (oneLine : ∀ name ∈ casting.names, '\n' ∉ name.toList) :
    ∀ passage ∈ casting.listing creature proficiency,
      passage.IsSound breaks (creature.proseVariables proficiency) := by
  obtain ⟨oneLineClass, oneLineSpells⟩ := List.forall_mem_cons.mp oneLine
  exact List.forall_mem_append.mpr ⟨introductionOf_sound creature proficiency breaks oneLineClass,
    casting.paragraphs_sound oneLineSpells⟩

def blocks (casting : Spellcasting) (creature : Creature) (proficiency : Int)
    (capitalize : Bool) : StructuredText :=
  casting.introductionBlock creature proficiency capitalize ::
    casting.paragraphs.map fun entry => spellBlock entry.1 entry.2

theorem blocks_isNormal (casting : Spellcasting) (creature : Creature) (proficiency : Int)
    (capitalize : Bool) :
    ∀ block ∈ casting.blocks creature proficiency capitalize, block.IsNormal := by
  have solid (front : String) : (front ++ " spells prepared:").isEmpty = false := by
    rw [Bool.eq_false_iff, Ne, String.isEmpty_iff]
    simp
  refine List.forall_mem_cons.mpr ⟨⟨?_, isNormal_singleton (solid _), fun _ => ?_⟩,
    List.forall_mem_map.mpr fun entry member => ?_⟩
  · intro heading impossible
    cases impossible
  · exact List.cons_ne_nil _ _
  · exact spellBlock_isNormal (casting.paragraphs_solid entry member) entry.2

theorem readPassages_listing (casting : Spellcasting) (creature : Creature) (proficiency : Int)
    (capitalize : Bool) :
    readPassages capitalize .paragraph true (casting.listing creature proficiency) =
      if isWritable (creature.spellSaveDC proficiency) = true ∧
          isWritable (creature.spellAttackBonus proficiency) = true then
        .ok ⟨(casting.introductionBlock creature proficiency capitalize).styled,
          casting.paragraphs.map fun entry => (spellBlock entry.1 entry.2).styled⟩
      else .error .unwritableNumber :=
  readPassages_introduction (readPassages_paragraphs casting.paragraphs .paragraph) casting
    creature.capitalizedSubject (Text.capitalizeHead creature.pronouns.possessive)
    (creature.spellSaveDC proficiency) (creature.spellAttackBonus proficiency)

theorem describe_eq_listing (casting : Spellcasting) (creature : Creature) (proficiency : Int) :
    casting.describe = passagesText (casting.listing creature proficiency) :=
  casting.describe_eq _ _ _ _

/-- The text about the spells is interpolated to its blocks, if its numbers can be written. -/
theorem describe_blocks (casting : Spellcasting) (creature : Creature) (proficiency : Int)
    (manner : Manner) (oneLine : ∀ name ∈ casting.names, '\n' ∉ name.toList)
    (writable : isWritable (creature.spellSaveDC proficiency) = true ∧
      isWritable (creature.spellAttackBonus proficiency) = true) :
    interpolate manner (creature.bindings proficiency) casting.describe =
      .ok (casting.blocks creature proficiency manner.capitalize) := by
  have read := casting.readPassages_listing creature proficiency manner.capitalize
  have normal := casting.blocks_isNormal creature proficiency manner.capitalize
  rw [if_pos writable] at read
  rw [casting.describe_eq_listing creature proficiency]
  refine interpolate_of_read (creature.prepareVariables_bindings proficiency)
    (casting.listing_sound creature proficiency manner.breaks oneLine) normal ?_
  rw [read]
  refine congrArg Except.ok (Eq.trans ?_ (filter_isPresent normal))
  rw [blocks, List.map_cons, List.map_map]
  rfl

theorem entry_blocks (casting : Spellcasting) (creature : Creature) (proficiency : Int)
    (oneLine : ∀ name ∈ casting.names, '\n' ∉ name.toList)
    (writable : isWritable (creature.spellSaveDC proficiency) = true ∧
      isWritable (creature.spellAttackBonus proficiency) = true) (name : String) :
    ({ name := "Spellcasting", body := casting.describe } : EntryDraft).finish name
        (creature.proseVariables proficiency) =
      .ok ⟨"Spellcasting",
        ⟨.paragraph, some [⟨.boldItalic, "Spellcasting."⟩],
          (casting.introductionBlock creature proficiency true).body⟩ ::
        casting.paragraphs.map fun entry => spellBlock entry.1 entry.2⟩ := by
  let passages : List Passage :=
    ⟨.within .paragraph "Spellcasting.", ""⟩ :: casting.listing creature proficiency
  have sound : ∀ passage ∈ passages,
      passage.IsSound true (creature.proseVariables proficiency) := by
    have title : '\n' ∉ "Spellcasting.".toList := by decide
    exact List.forall_mem_cons.mpr
      ⟨⟨unbroken_of_oneLine title, unbroken_of_oneLine List.not_mem_nil⟩,
        casting.listing_sound creature proficiency true oneLine⟩
  have normal := casting.blocks_isNormal creature proficiency true
  obtain ⟨normalFirst, normalOthers⟩ := List.forall_mem_cons.mp normal
  have source : (EntryDraft.titled .paragraph "Spellcasting" casting.describe none none).source =
      passagesText passages := by
    refine Eq.trans ?_ (passagesText_cons _ _).symm
    rw [EntryDraft.source_titled, casting.describe_eq_listing creature proficiency, Passage.text,
      show escapeText "" = "" from rfl, String.append_empty]
    rfl
  refine EntryDraft.finish_eq_ok.mpr ⟨rfl, rfl, ?_⟩
  change interpolateEntry _ _ _
    (EntryDraft.titled .paragraph "Spellcasting" casting.describe none none).source = _
  rw [source, interpolateEntry_eq, mapError_eq_ok]
  have titled := List.forall_mem_cons.mpr
    ⟨@titled_isNormal "Spellcasting." rfl _ normalFirst.body, normalOthers⟩
  refine interpolate_of_read (creature.prepareVariables_bindings proficiency) sound titled ?_
  have read := casting.readPassages_listing creature proficiency true
  rw [if_pos writable] at read
  have whole : readPassages true .paragraph true passages = _ :=
    readPassages_heading rfl read .paragraph true "Spellcasting."
  refine (congrArg (Except.map Outline.blocks) whole).trans
    (congrArg Except.ok (Eq.trans ?_ (filter_isPresent titled)))
  rw [List.map_cons, List.map_map, styled_titled]
  rfl

/-- The text about the spells of a class is interpolated into an introduction, a sub-paragraph for
the cantrips if there are any, and one for each spell level. They are in ascending order, headed by
the level with its slots, and list the spells as they were given, in italics; and so does the trait
with this text. Only a number for spells that is too long to be written spoils the text. -/
theorem describe_lists_spells (casting : Spellcasting) (creature : Creature) (name : String)
    (proficiency : Int) (manner : Manner) (readable : casting.IsReadable)
    (oneLine : ∀ name ∈ casting.names, '\n' ∉ name.toList) :
    let outcome := interpolate manner (creature.bindings proficiency) casting.describe
    let trait := ({ name := "Spellcasting", body := casting.describe } : EntryDraft).finish name
      (creature.proseVariables proficiency)
    let writable := isWritable (creature.spellSaveDC proficiency) = true ∧
      isWritable (creature.spellAttackBonus proficiency) = true
    (writable → ∃ levels : List (Int × List String), levels.Perm casting.spells ∧
      levels.Pairwise (fun first second => first.1 < second.1) ∧
      let listed := (if casting.cantrips.isEmpty then []
          else [spellBlock "Cantrips (at will):" casting.cantrips]) ++
        levels.map fun entry =>
          spellBlock (levelTitle entry.1 (casting.slotCount entry.1)) entry.2
      outcome = .ok (casting.introductionBlock creature proficiency manner.capitalize :: listed) ∧
        trait = .ok ⟨"Spellcasting", ⟨.paragraph, some [⟨.boldItalic, "Spellcasting."⟩],
          (casting.introductionBlock creature proficiency true).body⟩ :: listed⟩) ∧
    (¬writable → ∃ error, outcome = .error error ∧ error.fault = .unwritableNumber) := by
  intro outcome trait writable
  constructor
  · intro writes
    refine ⟨casting.spellsInOrder, casting.spellsInOrder_perm, spellsInOrder_ascending readable, ?_⟩
    dsimp only
    rw [← paragraphs_blocks readable]
    exact ⟨casting.describe_blocks creature proficiency manner oneLine writes,
      casting.entry_blocks creature proficiency oneLine writes name⟩
  · intro unwritable
    have unread : (readPassages manner.capitalize .paragraph true
        (casting.listing creature proficiency)).map Outline.blocks = .error .unwritableNumber := by
      rw [readPassages_listing, if_neg unwritable]
      rfl
    obtain ⟨error, failed, same⟩ :=
      interpolate_of_unread (creature.prepareVariables_bindings proficiency)
        (casting.listing_sound creature proficiency manner.breaks oneLine) unread
    refine ⟨error, ?_, same⟩
    rw [← failed, ← casting.describe_eq_listing creature proficiency]

theorem describe_lists_spells_wizard :
    let casting : Spellcasting :=
      { ability := .intelligence, level := ⟨3, by decide⟩, className := "Wizard"
        cantrips := ["Light", "*Mage* Hand"]
        spells := [(2, []), (1, ["Shield", "$\x7bN\x7d", "Sleep"])]
        slots := some [(1, 1)] }
    let mage : Creature := { name := some "Mage", spellcasting := some casting }
    casting.IsReadable ∧ (∀ name ∈ casting.names, '\n' ∉ name.toList) ∧
      isWritable (mage.spellSaveDC 2) = true ∧ isWritable (mage.spellAttackBonus 2) = true ∧
      ∃ levels : List (Int × List String), levels.Perm casting.spells ∧
        levels.Pairwise (fun first second => first.1 < second.1) ∧
        interpolate creatureManner (mage.bindings 2) casting.describe =
          .ok (casting.introductionBlock mage 2 true ::
            ([spellBlock "Cantrips (at will):" casting.cantrips] ++
            levels.map fun entry =>
              spellBlock (levelTitle entry.1 (casting.slotCount entry.1)) entry.2)) := by
  intro casting mage
  have readable : casting.IsReadable := by
    refine ⟨rfl, isBySpellLevel (by decide) (by decide), fun given isGiven => ?_,
      fun difficulty impossible => ?_⟩
    · cases isGiven
      exact isBySpellLevel (by decide) (by decide)
    · cases impossible
  have oneLine : ∀ name ∈ casting.names, '\n' ∉ name.toList := by decide
  have difficulty : isWritable (mage.spellSaveDC 2) = true := isWritable_short (by decide)
  have bonus : isWritable (mage.spellAttackBonus 2) = true := isWritable_short (by decide)
  obtain ⟨levels, same, ascending, interpolated, _⟩ :=
    (describe_lists_spells casting mage "Mage" 2 creatureManner readable oneLine).1
      ⟨difficulty, bonus⟩
  exact ⟨readable, oneLine, difficulty, bonus, levels, same, ascending, interpolated⟩

/-- A map of slots with nothing in it lists none for any level, and still the slots of the table
are shown. -/
theorem empty_slots_shown_from_table :
    let casting : Spellcasting :=
      { ability := .intelligence, level := ⟨1, by decide⟩, className := "wizard"
        spells := [(1, ["Shield"])], slots := some [] }
    let mage : Creature := { name := some "Mage", spellcasting := some casting }
    casting.IsReadable ∧ (∀ name ∈ casting.names, '\n' ∉ name.toList) ∧
      casting.slots.bind (·.lookup 1) = none ∧
      interpolate creatureManner (mage.bindings 2) casting.describe =
        .ok [casting.introductionBlock mage 2 true,
          ⟨.subParagraph, some [⟨.bold, "1st level (2 slots):"⟩], [⟨.italic, "Shield"⟩]⟩] := by
  intro casting mage
  have readable : casting.IsReadable := by
    refine ⟨rfl, isBySpellLevel (by decide) (by decide), fun given isGiven => ?_,
      fun difficulty impossible => ?_⟩
    · cases isGiven
      exact isBySpellLevel (by decide) (by decide)
    · cases impossible
  have oneLine : ∀ name ∈ casting.names, '\n' ∉ name.toList := by decide
  have writable : isWritable (mage.spellSaveDC 2) = true ∧
      isWritable (mage.spellAttackBonus 2) = true :=
    ⟨isWritable_short (by decide), isWritable_short (by decide)⟩
  have heading : casting.levelHeading 1 = "1st level (2 slots):" := by decide
  have inOrder : casting.spellsInOrder = [(1, ["Shield"])] := List.mergeSort_singleton _
  refine ⟨readable, oneLine, rfl, ?_⟩
  rw [casting.describe_blocks mage 2 creatureManner oneLine writable, blocks, paragraphs, inOrder,
    ← heading]
  rfl

end Spellcasting

end Bestiary
