import Bestiary.Document.Value

/-!
Maps as lists of entries: no key stands twice.

Setting an entry keeps the keys that are there and adds at most its own at the
end. Entries with different keys, set one after another, make the list of
these entries.
-/

namespace Bestiary

variable {α β : Type}

def keysOf (entries : List (α × β)) : List α :=
  entries.map Prod.fst

theorem keysOf_append (first second : List (α × β)) :
    keysOf (first ++ second) = keysOf first ++ keysOf second :=
  List.map_append

theorem find?_key {key : β → α} [BEq α] [LawfulBEq α] {items : List β} {item : β}
    (distinct : (items.map key).Nodup) (member : item ∈ items) :
    items.find? (key · == key item) = some item := by
  induction items with
  | nil => cases member
  | cons first others ih =>
      obtain ⟨new, othersDistinct⟩ := List.nodup_cons.mp distinct
      rcases List.mem_cons.mp member with rfl | later
      · exact List.find?_cons_of_pos (beq_self_eq_true (key item))
      · have different : key first ≠ key item := fun same =>
          new (same ▸ List.mem_map_of_mem later)
        rw [List.find?_cons, beq_false_of_ne different]
        exact ih othersDistinct later

theorem lookup_key [BEq α] [LawfulBEq α] {entries : List (α × β)} {key : α} {content : β}
    (distinct : (keysOf entries).Nodup) (member : (key, content) ∈ entries) :
    entries.lookup key = some content := by
  induction entries with
  | nil => cases member
  | cons first others ih =>
      obtain ⟨new, othersDistinct⟩ := List.nodup_cons.mp distinct
      rcases List.mem_cons.mp member with rfl | later
      · exact List.lookup_cons_self
      · have different : key ≠ first.1 := fun same =>
          new (same ▸ List.mem_map_of_mem later)
        rw [List.lookup_cons, beq_false_of_ne different]
        exact ih othersDistinct later

theorem mem_of_lookup [BEq α] [LawfulBEq α] {entries : List (α × β)} {key : α} {content : β}
    (found : entries.lookup key = some content) : (key, content) ∈ entries := by
  obtain ⟨before, after, rfl, _⟩ := List.lookup_eq_some_iff.mp found
  exact List.mem_append_right before (.head after)

theorem nodup_removeEntry [BEq α] {entries : List (α × β)} (distinct : (keysOf entries).Nodup)
    (key : α) : (keysOf (removeEntry entries key)).Nodup :=
  distinct.sublist (List.filter_sublist.map Prod.fst)

theorem mem_removeEntry [BEq α] {entries : List (α × β)} {key : α} {entry : α × β}
    (member : entry ∈ removeEntry entries key) : entry ∈ entries :=
  (List.mem_filter.mp member).1

variable [BEq α] [LawfulBEq α]

theorem any_key_iff {entries : List (α × β)} {key : α} :
    entries.any (·.1 == key) = true ↔ key ∈ keysOf entries := by
  constructor
  · intro known
    obtain ⟨entry, member, same⟩ := List.any_eq_true.mp known
    exact List.mem_map.mpr ⟨entry, member, beq_iff_eq.mp same⟩
  · intro known
    obtain ⟨entry, member, rfl⟩ := List.mem_map.mp known
    exact List.any_eq_true.mpr ⟨entry, member, beq_self_eq_true entry.1⟩

theorem setEntry_known {entries : List (α × β)} {key : α} (known : key ∈ keysOf entries)
    (content : β) :
    setEntry entries key content =
      entries.map fun entry => if entry.1 == key then (key, content) else entry :=
  if_pos (any_key_iff.mpr known)

theorem setEntry_new {entries : List (α × β)} {key : α} (new : key ∉ keysOf entries)
    (content : β) : setEntry entries key content = entries ++ [(key, content)] :=
  if_neg (mt any_key_iff.mp new)

theorem keysOf_setEntry_known {entries : List (α × β)} {key : α} (known : key ∈ keysOf entries)
    (content : β) : keysOf (setEntry entries key content) = keysOf entries := by
  rw [setEntry_known known, keysOf, keysOf, List.map_map]
  apply List.map_congr_left
  intro entry _
  by_cases same : entry.1 = key
  · simp [same]
  · simp [beq_false_of_ne same]

theorem nodup_setEntry {entries : List (α × β)} (distinct : (keysOf entries).Nodup) (key : α)
    (content : β) : (keysOf (setEntry entries key content)).Nodup := by
  by_cases known : key ∈ keysOf entries
  · rw [keysOf_setEntry_known known]
    exact distinct
  · rw [setEntry_new known, keysOf_append]
    refine List.nodup_append.mpr ⟨distinct, List.pairwise_singleton _ key, ?_⟩
    intro first member second isKey same
    have isLast : second = key := List.mem_singleton.mp isKey
    exact known (isLast ▸ same ▸ member)

theorem mem_setEntry {entries : List (α × β)} {key : α} {content : β} {entry : α × β}
    (member : entry ∈ setEntry entries key content) :
    entry = (key, content) ∨ entry ∈ entries := by
  by_cases known : key ∈ keysOf entries
  · rw [setEntry_known known] at member
    obtain ⟨before, inEntries, rfl⟩ := List.mem_map.mp member
    split
    · exact .inl rfl
    · exact .inr inEntries
  · rw [setEntry_new known] at member
    rcases List.mem_append.mp member with inEntries | isNew
    · exact .inr inEntries
    · exact .inl (List.mem_singleton.mp isNew)

theorem lookup_setEntry_self (entries : List (α × β)) (key : α) (content : β) :
    (setEntry entries key content).lookup key = some content := by
  by_cases known : key ∈ keysOf entries
  · rw [setEntry_known known]
    induction entries with
    | nil => cases known
    | cons first others ih =>
        by_cases same : first.1 = key
        · rw [List.map_cons, same, beq_self_eq_true, if_pos rfl, List.lookup_cons_self]
        · have inOthers : key ∈ keysOf others :=
            (List.mem_cons.mp known).resolve_left fun isFirst => same isFirst.symm
          rw [List.map_cons, beq_false_of_ne same, if_neg Bool.false_ne_true, List.lookup_cons,
            beq_false_of_ne (Ne.symm same)]
          exact ih inOthers
  · rw [setEntry_new known, List.lookup_append, List.lookup_cons_self]
    have absent : entries.lookup key = none := List.lookup_eq_none_iff.mpr fun entry member =>
      bne_iff_ne.mpr fun same => known (same ▸ List.mem_map_of_mem member)
    rw [absent, Option.none_or]

theorem lookup_setEntry_other {key other : α} (different : other ≠ key)
    (entries : List (α × β)) (content : β) :
    (setEntry entries key content).lookup other = entries.lookup other := by
  by_cases known : key ∈ keysOf entries
  · rw [setEntry_known known]
    clear known
    induction entries with
    | nil => rfl
    | cons first others ih =>
        by_cases same : first.1 = key
        · rw [List.map_cons, same, beq_self_eq_true, if_pos rfl, List.lookup_cons,
            List.lookup_cons, same, beq_false_of_ne different]
          exact ih
        · rw [List.map_cons, beq_false_of_ne same, if_neg Bool.false_ne_true, List.lookup_cons,
            List.lookup_cons, ih]
  · rw [setEntry_new known, List.lookup_append, List.lookup_cons, beq_false_of_ne different,
      List.lookup_nil, Option.or_none]

def setEntries (known added : List (α × β)) : List (α × β) :=
  added.foldl (fun known entry => setEntry known entry.1 entry.2) known

theorem nodup_setEntries {known : List (α × β)} (distinct : (keysOf known).Nodup)
    (added : List (α × β)) : (keysOf (setEntries known added)).Nodup := by
  induction added generalizing known with
  | nil => exact distinct
  | cons entry others ih => exact ih (nodup_setEntry distinct entry.1 entry.2)

theorem mem_setEntries {known added : List (α × β)} {entry : α × β}
    (member : entry ∈ setEntries known added) : entry ∈ known ∨ entry ∈ added := by
  induction added generalizing known with
  | nil => exact .inl member
  | cons next others ih =>
      rcases ih member with inKnown | inOthers
      · rcases mem_setEntry inKnown with rfl | before
        · exact .inr (.head others)
        · exact .inl before
      · exact .inr (.tail next inOthers)

theorem lookup_setEntries {known added : List (α × β)} {key : α} {content : β}
    (found : known.lookup key = some content)
    (same : ∀ other, (key, other) ∈ added → other = content) :
    (setEntries known added).lookup key = some content := by
  induction added generalizing known with
  | nil => exact found
  | cons entry others ih =>
      refine ih ?_ fun other later => same other (.tail entry later)
      by_cases isKey : key = entry.1
      · rw [isKey, lookup_setEntry_self]
        exact congrArg some (same entry.2 (isKey ▸ .head others))
      · rw [lookup_setEntry_other isKey, found]

theorem lookup_setEntries_added {known added : List (α × β)} {key : α} {content : β}
    (member : (key, content) ∈ added) (distinct : (keysOf added).Nodup) :
    (setEntries known added).lookup key = some content := by
  induction added generalizing known with
  | nil => cases member
  | cons entry others ih =>
      obtain ⟨new, othersDistinct⟩ := List.nodup_cons.mp distinct
      rcases List.mem_cons.mp member with rfl | later
      · have absent : ∀ other, (key, other) ∈ others → other = content := fun other later =>
          absurd (List.mem_map.mpr ⟨_, later, rfl⟩) new
        change (setEntries (setEntry known key content) others).lookup key = some content
        exact lookup_setEntries (lookup_setEntry_self known key content) absent
      · exact ih later othersDistinct

theorem setEntries_distinct {known added : List (α × β)}
    (distinct : (keysOf (known ++ added)).Nodup) : setEntries known added = known ++ added := by
  induction added generalizing known with
  | nil => exact (List.append_nil known).symm
  | cons entry others ih =>
      have moved : known ++ entry :: others = known ++ [entry] ++ others :=
        List.append_cons known entry others
      have new : entry.1 ∉ keysOf known := by
        intro member
        rw [keysOf_append] at distinct
        exact (List.nodup_append.mp distinct).2.2 entry.1 member entry.1 (.head _) rfl
      calc
        setEntries known (entry :: others)
            = setEntries (setEntry known entry.1 entry.2) others := rfl
        _ = setEntries (known ++ [entry]) others := by rw [setEntry_new new]
        _ = known ++ [entry] ++ others := ih (moved ▸ distinct)
        _ = known ++ entry :: others := moved.symm

end Bestiary
