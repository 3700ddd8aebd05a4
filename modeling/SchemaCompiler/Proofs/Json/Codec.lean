import SchemaCompiler.Json.Codec
import SchemaCompiler.Proofs.Json.Text

/-!
# Codecs restore what they write

Each way of putting codecs together keeps the property that a value comes back from what is written
for it (`Codec.Restores`). An option needs a value that is not written as `null`. A record needs
distinct names, and each field has to be left out only for its default (`Field.Restores`): the slot
of a field is filled by its own member or by the default, and no other member touches it
(`readMembers_cons`). A tagged choice needs fields that are not named like its tag.

Containers come back as long as they are not too deep. The depth is therefore part of the property.
-/

namespace SchemaCompiler

namespace Json

namespace Codec

/-- A value comes back from what is written for it inside `depth` open containers, and the numbers
written for it can be read. -/
structure Restores {α : Type} (faithful : Float → Prop) (depth : Nat) (codec : Codec α)
    (value : α) : Prop where
  read : codec.read ((codec.write value).documentAt depth) = .ok value
  readable : Readable faithful (codec.write value)

variable {α : Type} {faithful : Float → Prop} {depth : Nat} {codec : Codec α}

/-! ## Plain values -/

theorem restores_text (value : String) : Restores faithful depth text value :=
  ⟨rfl, .text value⟩

theorem restores_boolean (value : Bool) : Restores faithful depth boolean value :=
  ⟨rfl, .boolean value⟩

theorem restores_signed64 {value : Int} (lowest : -(Nat.pow 2 63 : Nat) ≤ value)
    (highest : value ≤ (Nat.pow 2 63 - 1 : Nat)) : Restores faithful depth signed64 value where
  read := if_pos ⟨lowest, highest⟩
  readable := by
    have room : ((Nat.pow 2 63 - 1 : Nat) : Int) ≤ Number.largestSignificand := by decide
    exact .integer lowest (Int.le_trans highest room)

theorem restores_unsigned32 {value : Nat} (highest : value ≤ Nat.pow 2 32 - 1) :
    Restores faithful depth unsigned32 value where
  read := by
    have inRange : (0 : Int) ≤ value ∧ (value : Int) ≤ (Nat.pow 2 32 - 1 : Nat) := by omega
    simp only [unsigned32, documentAt, readInteger, if_pos inRange]
    rfl
  readable := by
    have room : ((Nat.pow 2 32 - 1 : Nat) : Int) ≤ Number.largestSignificand := by decide
    exact .integer (by omega) (by omega)

theorem restores_float {value : Float} (finite : (FloatValue.ofFloat value).isFinite)
    (holds : faithful value) : Restores faithful depth float value where
  read := by
    simp only [float, documentAt, if_pos finite]
  readable := .float holds

/-! ## Options and lists -/

theorem documentAt_text_ne_null {value : String} : (Json.text value).documentAt depth ≠ .null := by
  simp [documentAt]

theorem documentAt_array_ne_null {items : List Json} :
    (Json.array items).documentAt depth ≠ .null := by
  rw [documentAt, Document.placed]
  split <;> simp

theorem documentAt_object_ne_null {members : List (String × Json)} :
    (Json.object members).documentAt depth ≠ .null := by
  rw [documentAt, Document.placed]
  split <;> simp

/-- A value may stand for itself where `null` stands for none if it is not written as `null`. -/
theorem restores_optional {value? : Option α}
    (restores : ∀ value ∈ value?, Restores faithful depth codec value)
    (notNull : ∀ value ∈ value?, (codec.write value).documentAt depth ≠ .null) :
    Restores faithful depth codec.optional value? := by
  cases value? with
  | none => exact ⟨rfl, .null⟩
  | some value =>
      have restored := restores value rfl
      refine ⟨?_, restored.readable⟩
      simp only [optional, Option.elim_some]
      split
      · rename_i null
        exact absurd null (notNull value rfl)
      · rw [restored.read]
        rfl

theorem restores_list {values : List α} (shallow : depth < Document.deepest)
    (restores : ∀ value ∈ values, Restores faithful (depth + 1) codec value) :
    Restores faithful depth codec.list values where
  read := by
    simp only [list, documentAt, Document.placed_of_lt shallow]
    induction values with
    | nil => rfl
    | cons value values ih =>
        rw [List.forall_mem_cons] at restores
        simp only [List.map_cons, itemsAt, readItems, restores.1.read, ih restores.2]
        rfl
  readable := by
    apply Readable.array
    intro item item_mem
    rcases List.mem_map.mp item_mem with ⟨value, value_mem, rfl⟩
    exact (restores value value_mem).readable

/-! ## Records -/

/-- What a field leaves out is its default, and what it writes comes back. -/
structure Field.Restores (faithful : Float → Prop) (depth : Nat) (field : Field)
    (value : field.Value) : Prop where
  omitted : field.omitted value → field.default? = some value
  written : ¬ field.omitted value → field.codec.Restores faithful depth value

/-- All fields restore their values. -/
inductive FieldsRestore (faithful : Float → Prop) (depth : Nat) :
    (fields : List Field) → Values fields → Prop
  | nil : FieldsRestore faithful depth [] ()
  | cons {field : Field} {fields : List Field} {value : field.Value} {values : Values fields}
      (restores : field.Restores faithful depth value)
      (rest : FieldsRestore faithful depth fields values) :
      FieldsRestore faithful depth (field :: fields) (value, values)

namespace Field

theorem Restores.required {name : String} {value : α}
    (restores : codec.Restores faithful depth value) :
    (required name codec).Restores faithful depth value :=
  ⟨nofun, fun _ => restores⟩

theorem Restores.defaulted {name : String} {value default : α}
    (restores : codec.Restores faithful depth value) :
    (defaulted name codec default).Restores faithful depth value :=
  ⟨nofun, fun _ => restores⟩

theorem Restores.listed {name : String} {values : List α} (shallow : depth < Document.deepest)
    (restores : ∀ value ∈ values, codec.Restores faithful (depth + 1) value) :
    (listed name codec).Restores faithful depth values where
  omitted empty := by simp_all
  written _ := restores_list shallow restores

theorem Restores.omittable {name : String} {value? : Option α}
    (restores : ∀ value ∈ value?, codec.Restores faithful depth value)
    (notNull : ∀ value ∈ value?, (codec.write value).documentAt depth ≠ .null) :
    (omittable name codec).Restores faithful depth value? where
  omitted none := by simp_all
  written _ := restores_optional restores notNull

theorem Restores.omittableText {name : String} (text? : Option String) :
    (Field.omittable name text).Restores faithful depth text? :=
  .omittable (fun text _ => restores_text text) fun _ _ => documentAt_text_ne_null

end Field

variable {field : Field} {fields : List Field}

theorem Slots.store_of_ne {name : String} {value : Document} {slot : Option field.Value}
    {slots : Slots fields} (other : name ≠ field.name) :
    Slots.store name value (field :: fields) (slot, slots) =
      (slot, ·) <$> Slots.store name value fields slots := by
  rw [Slots.store, if_neg other]
  rfl

theorem Slots.store_name {value : Document} {read : field.Value} {slots : Slots fields}
    (restored : field.codec.read value = .ok read) :
    Slots.store field.name value (field :: fields) (none, slots) = .ok (some read, slots) := by
  rw [Slots.store, if_pos rfl, restored]
  rfl

theorem readMembers_step {name : String} {value : Json} {members : List (String × Json)}
    (slots : Slots fields) :
    readMembers fields slots (membersAt depth ((name, value) :: members)) =
      (do
        let slots ← Slots.store name (value.documentAt depth) fields slots
        readMembers fields slots (membersAt depth members)) := by
  rfl

theorem name_mem_of_mem_writeMembers {values : Values fields} {member : String × Json}
    (member_mem : member ∈ writeMembers fields values) : member.1 ∈ fields.map Field.name := by
  induction fields with
  | nil => simp [writeMembers] at member_mem
  | cons field fields ih =>
      rcases values with ⟨value, values⟩
      rw [writeMembers] at member_mem
      split at member_mem
      · exact List.mem_cons_of_mem _ (ih member_mem)
      · rcases List.mem_cons.mp member_mem with rfl | member_mem
        · exact List.mem_cons_self
        · exact List.mem_cons_of_mem _ (ih member_mem)

/-- Members of other names do not touch the slot of a field, so the fields after it are read as if
it were not there. -/
theorem readMembers_cons {slot : Option field.Value} {slots : Slots fields}
    {members : List (String × Json)} {value : field.Value} {values : Values fields}
    (others : ∀ member ∈ members, member.1 ≠ field.name)
    (filled : (slot <|> field.default?) = some value)
    (read : readMembers fields slots (membersAt depth members) = .ok values) :
    readMembers (field :: fields) (slot, slots) (membersAt depth members) =
      .ok (value, values) := by
  induction members generalizing slots with
  | nil =>
      simp only [membersAt, readMembers, Slots.complete] at read ⊢
      simp only [filled, read]
      rfl
  | cons member members ih =>
      rcases member with ⟨name, written⟩
      rw [List.forall_mem_cons] at others
      rw [readMembers_step] at read ⊢
      rw [Slots.store_of_ne others.1]
      cases stored : Slots.store name (written.documentAt depth) fields slots with
      | error error =>
          rw [stored] at read
          cases read
      | ok slots =>
          rw [stored] at read
          exact ih others.2 read

theorem readMembers_writeMembers {values : Values fields}
    (distinct : (fields.map Field.name).Nodup)
    (restore : FieldsRestore faithful depth fields values) :
    readMembers fields (Slots.empty fields) (membersAt depth (writeMembers fields values)) =
      .ok values := by
  induction restore with
  | nil => rfl
  | cons restores rest ih =>
      rename_i field fields value values
      rw [List.map_cons, List.nodup_cons] at distinct
      have others : ∀ member ∈ writeMembers fields values, member.1 ≠ field.name := by
        intro member member_mem name_eq
        exact distinct.1 (name_eq ▸ name_mem_of_mem_writeMembers member_mem)
      rw [writeMembers]
      split
      · rename_i omitted
        exact readMembers_cons others (restores.omitted omitted) (ih distinct.2)
      · rename_i written
        have restored := (restores.written written).read
        rw [readMembers_step, Slots.empty, Slots.store_name restored]
        exact readMembers_cons others rfl (ih distinct.2)

theorem readable_writeMembers {values : Values fields}
    (restore : FieldsRestore faithful depth fields values) :
    ∀ member ∈ writeMembers fields values, Readable faithful member.2 := by
  induction restore with
  | nil => simp [writeMembers]
  | cons restores rest ih =>
      rw [writeMembers]
      split
      · exact ih
      · rename_i written
        exact List.forall_mem_cons.mpr ⟨(restores.written written).readable, ih⟩

theorem restores_recordWith {surplus : Surplus} {name : String} {build : Values fields → α}
    {parts : α → Values fields} {value : α} (distinct : (fields.map Field.name).Nodup)
    (shallow : depth < Document.deepest)
    (restore : FieldsRestore faithful (depth + 1) fields (parts value))
    (rebuilt : build (parts value) = value) :
    (recordWith surplus name fields build parts).Restores faithful depth value where
  read := by
    simp only [recordWith, documentAt, Document.placed_of_lt shallow, readRecord,
      readMembers_writeMembers distinct restore]
    exact congrArg Except.ok rebuilt
  readable := .object (readable_writeMembers restore)

/-! ## Choices -/

variable {β : Type} {name : String}

theorem restores_bare {alternatives : List (Alternative α)} {value : α}
    (reads : codec.read = readChoice alternatives)
    (found : alternatives.find? (·.name == name) = some (.bare name value))
    (writes : codec.write value = .text name) : codec.Restores faithful depth value where
  read := by
    simp only [reads, writes, documentAt, readChoice, choose, found]
    rfl
  readable := by
    rw [writes]
    exact .text name

theorem restores_carrying {alternatives : List (Alternative α)} {payload : Codec β} {wrap : β → α}
    {value : β} (reads : codec.read = readChoice alternatives)
    (found : alternatives.find? (·.name == name) =
      some (.carrying name fun document => wrap <$> payload.read document))
    (writes : codec.write (wrap value) = .object [(name, payload.write value)])
    (shallow : depth < Document.deepest) (restores : payload.Restores faithful (depth + 1) value) :
    codec.Restores faithful depth (wrap value) where
  read := by
    simp only [reads, writes, documentAt, Document.placed_of_lt shallow, membersAt, readChoice,
      Document.readKey, choose, found, bind, Except.bind, restores.read]
    rfl
  readable := by
    rw [writes]
    apply Readable.object
    simpa using restores.readable

/-- The members beside the tag are kept as they are. -/
theorem splitMembers_membersAt {alternatives : List (Tagged α)} {chosen : Tagged α}
    {members : List (String × Json)} (others : ∀ member ∈ members, member.1 ≠ tag)
    (settled : ∀ member ∈ members, (member.2.documentAt depth).settle = .ok ()) :
    splitMembers alternatives (some chosen) (membersAt depth members) =
      .ok (some chosen, membersAt depth members) := by
  induction members with
  | nil => rfl
  | cons member members ih =>
      rcases member with ⟨name, value⟩
      rw [List.forall_mem_cons] at others settled
      simp only [membersAt, splitMembers, Document.readKey, bind, Except.bind, if_neg others.1,
        settled.1, ih others.2 settled.2]
      rfl

theorem restores_tagged {choice title : String} {alternatives : List (Tagged α)}
    {build : Values fields → α} {values : Values fields} {value : α}
    (reads : codec.read = readTagged choice alternatives)
    (restore : FieldsRestore faithful (depth + 1) fields values)
    (settled : ∀ member ∈ writeMembers fields values,
      (member.2.documentAt (depth + 1)).settle = .ok ())
    (writes : codec.write value = writeTagged name (writeMembers fields values))
    (found : alternatives.find? (·.name == name) = some (tagged choice title name fields build))
    (built : build values = value) (shallow : depth < Document.deepest)
    (distinct : (tag :: fields.map Field.name).Nodup) : codec.Restores faithful depth value where
  read := by
    rw [List.nodup_cons] at distinct
    have others : ∀ member ∈ writeMembers fields values, member.1 ≠ tag := by
      intro member member_mem name_eq
      exact distinct.1 (name_eq ▸ name_mem_of_mem_writeMembers member_mem)
    have tagRead : readTag alternatives (.text (some name)) =
        .ok (tagged choice title name fields build) := by
      simp only [readTag, Document.readName, bind, Except.bind, found]
      rfl
    have read : (tagged choice title name fields build).ofMembers
        (membersAt (depth + 1) (writeMembers fields values)) = .ok value := by
      simp only [tagged, readMembers_writeMembers distinct.2 restore]
      exact congrArg Except.ok built
    simp only [reads, writes, writeTagged, documentAt, Document.placed_of_lt shallow, readTagged,
      membersAt, splitMembers, Document.readKey, bind, Except.bind, if_pos, tagRead,
      splitMembers_membersAt others settled]
    exact read
  readable := by
    rw [writes]
    exact .object (List.forall_mem_cons.mpr ⟨.text name, readable_writeMembers restore⟩)

end Codec

end Json

end SchemaCompiler
