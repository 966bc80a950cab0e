import Bestiary.Proofs.Directive.Validated

/-!
Directives survive a dump.

An entry with the tag of a directive and the rest of its dump is read as that
directive, however short the entry was that it was first read from. The tag
finds the form that read the directive, since no two forms share a tag; the
fields of the dump are set beside the tag as they stand, since no two share a
name; and forms read back what they have read. Only a directive whose dice hold
a number that is too long to be written has no dump.
-/

namespace Bestiary

open Document Validation Checked

def Document.Value.withoutField (name : String) : Value → Value
  | object fields => .object (removeEntry fields name)
  | other => other

namespace Directive

/-- What a directive is dumped as; a number that is too long to be written keeps dice from it. -/
def dump? (directive : Directive) : Option Value :=
  if directive.dice.all Dice.isWritable then some directive.toValue else none

/-! ### Reading a dump -/

theorem Form.Reads.keysOf_allFields {form : Form} {directive : Directive}
    (reads : form.Reads directive) :
    keysOf directive.allFields = "directive" :: form.fieldNames :=
  congrArg (List.cons "directive") reads.fieldNames

theorem removeEntry_allFields {form : Form} {directive : Directive} (member : form ∈ forms)
    (reads : form.Reads directive) :
    removeEntry directive.allFields "directive" = directive.fields := by
  have untagged : "directive" ∉ keysOf directive.fields :=
    reads.fieldNames ▸ (List.nodup_cons.mp (fieldNames_distinct form member)).1
  have kept : ∀ field ∈ directive.fields, (field.1 != "directive") = true := by
    intro field inFields
    apply bne_iff_ne.mpr
    intro same
    exact untagged (same ▸ List.mem_map_of_mem inFields)
  rw [removeEntry, allFields]
  exact List.filter_eq_self.mpr kept

theorem normalize_fields {form : Form} {directive : Directive} (member : form ∈ forms)
    (reads : form.Reads directive) :
    normalize (.object [(directive.tag, .object directive.fields)]) =
      .ok (.object directive.allFields) := by
  have known : form? directive.tag = some form := reads.tag ▸ form?_of_mem member
  have distinct : (keysOf directive.allFields).Nodup :=
    reads.keysOf_allFields ▸ fieldNames_distinct form member
  have set : setEntries [("directive", .text directive.tag)] directive.fields =
      directive.allFields :=
    setEntries_distinct distinct
  unfold normalize
  simp only [pure_bind, known]
  exact congrArg (fun fields => Except.ok (Value.object fields)) set

/-- A directive that was read from any entry and whose dice can be written has a dump, and is read
again from its tag and the rest of its dump. -/
theorem ofEntry_dump {entry : Value} {directive : Directive}
    (read : ofEntry entry = .ok directive) (writable : directive.HasWritableDice) :
    ∃ dump tag, directive.dump? = some dump ∧ dump.field? "directive" = some (.text tag) ∧
      ofEntry (.object [(tag, dump.withoutField "directive")]) = .ok directive := by
  obtain ⟨_, _, success⟩ := ofEntry_eq_ok.mp read
  obtain ⟨form, member, reads⟩ := form_of_read success
  have dumped : directive.dump? = some directive.toValue :=
    if_pos (List.all_eq_true.mpr writable)
  refine ⟨directive.toValue, directive.tag, dumped, rfl, ?_⟩
  have rest : directive.toValue.withoutField "directive" = .object directive.fields :=
    congrArg Value.object (removeEntry_allFields member reads)
  have tagged : directive.allFields.lookup "directive" = some (.text form.tag) := by
    rw [allFields, List.lookup_cons_self, reads.tag]
  have again : form.read directive.allFields = .valid directive := reads.again writable
  rw [rest]
  exact ofEntry_eq_ok.mpr
    ⟨_, normalize_fields member reads, read_of_form member tagged again⟩

theorem ofEntry_dump_recharge :
    let entry : Value := .object [("attack", .list [.text "Bite", .object [("reach", .int 5)],
      .object [("effect", .text "damage"), ("dice", .text "2D6+3-(d8*1/2)"),
        ("damage_type", .text "piercing")],
      .list [.object [("effect", .text "special"), ("text", .text "the target is grappled")]],
      .object [("recharge", .int 5)]])]
    ∃ bite, ofEntry entry = .ok bite ∧ bite.HasWritableDice ∧
      ∃ dump tag, bite.dump? = some dump ∧ dump.field? "directive" = some (.text tag) ∧
        ofEntry (.object [(tag, dump.withoutField "directive")]) = .ok bite := by
  intro entry
  have writable : ∃ bite : Directive, ((ofEntry entry).mapError (fun _ => ()) >>= fun directive =>
      if directive.dice.all Dice.isWritable then .ok directive else .error ()) = .ok bite :=
    exists_ok_of_toOption (by decide +kernel)
  obtain ⟨_, success⟩ := writable
  obtain ⟨bite, read, success⟩ := bind_eq_ok.mp success
  split at success
  · rename_i writable
    have read : ofEntry entry = .ok bite := mapError_eq_ok.mp read
    have writable : bite.HasWritableDice := List.all_eq_true.mp writable
    exact ⟨bite, read, writable, ofEntry_dump read writable⟩
  · cases success

theorem ofEntry_club {notated : String} {dice : Dice} (read : Dice.ofText notated = .ok dice) :
    ofEntry (.object [("override_weapon_effect", .list [.text "club",
      .object [("effect", .text "damage"), ("dice", .text notated),
        ("damage_type", .text "bludgeoning")]])]) =
      .ok (.overrideWeaponEffect .club (.damage { dice := dice, damageType := .bludgeoning })) := by
  have readWeapon : Reader.word Weapon (.text "club") = .valid .club := rfl
  refine ofEntry_eq_ok.mpr ⟨_, rfl, Reader.tagged_of_lookup rfl rfl ?_⟩
  unfold Form.weaponEffect Form.ofFields
  simp only
  rw [Fields.required_of_lookup rfl readWeapon, Fields.required_of_lookup rfl (Effect.read_damage read)]
  rfl

/-- Two constants that can be written may have a sum that cannot. -/
theorem no_dump_of_long_sum :
    let longest : Int := Number.writingBound - 1
    let notated := (Dice.single 1 .d6 longest).render ++ " + " ++ Number.showInt longest
    let entry : Value := .object [("override_weapon_effect", .list [.text "club",
      .object [("effect", .text "damage"), ("dice", .text notated),
        ("damage_type", .text "bludgeoning")]])]
    ∃ directive, ofEntry entry = .ok directive ∧ directive.dump? = none := by
  intro longest notated entry
  have isLongest : longest + 1 = Number.writingBound := by omega
  -- Only this equation is needed: the number itself is too large to be computed with.
  clear_value longest
  obtain ⟨read, unwritable⟩ := Dice.ofText_doubled isLongest
  refine ⟨_, ofEntry_club read, if_neg ?_⟩
  intro allWritable
  have sumWritable : (Dice.single 1 .d6 (longest + longest)).isWritable = true :=
    List.all_eq_true.mp allWritable _ (.head _)
  cases unwritable.symm.trans (Bool.and_eq_true_iff.mp sumWritable).2

end Directive

end Bestiary
