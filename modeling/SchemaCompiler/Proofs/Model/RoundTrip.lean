import Mathlib.Tactic.MkIffOfInductiveProp
import SchemaCompiler.Model
import SchemaCompiler.Proofs.Json.Codec

/-!
# Models come back from JSON

A model is read from what is written for it as the same model (`Model.read_write`). The lemmas
follow the tree of its codecs, one for each type, from values and kinds up to the model. Only
numbers can get in the way: integers that do not fit, floats that are written as `null` or whose
text does not lead back to them. `Model.Fits` rules out the integers and leaves open what is
required of the floats: to come back from the value they have to be finite, and to come back from
the text each of them has to be read from its own text.

Nothing in a model lies deeper than eight containers, far above the depth at which readers stop.
-/

namespace SchemaCompiler

open Json Json.Codec

/-! ## What fits the format -/

/-- Whether the numbers of a value fit: integers into 64 bits, and floats as is required of them. -/
def Value.Fits (faithful : Float → Prop) : Value → Prop
  | .integer number | .enumeration number =>
    -(Nat.pow 2 63 : Nat) ≤ number ∧ number ≤ (Nat.pow 2 63 - 1 : Nat)
  | .float number => faithful number
  | .text _ | .boolean _ | .null | .identity _ | .sql _ => True

/-- Whether the bound of a kind fits into 32 bits. -/
def AttributeKind.Fits (kind : AttributeKind) : Prop :=
  ∀ maxLength ∈ kind.maxLength?, maxLength ≤ Nat.pow 2 32 - 1

/-- Whether the numbers of a column fit. -/
@[mk_iff]
structure Column.Fits (faithful : Float → Prop) (column : Column) : Prop where
  kind : column.kind.Fits
  supplier : ∀ value ∈ column.supplier, value.Fits faithful

/-- Whether the numbers in a model fit. -/
structure Model.Fits (faithful : Float → Prop) (model : Model) : Prop where
  columns : ∀ entity ∈ model.entities, ∀ column ∈ entity.columns, column.Fits faithful
  content : ∀ group ∈ model.content, ∀ row ∈ group.rows, ∀ value ∈ row.values,
    value.value.Fits faithful

variable {faithful : Float → Prop} {depth : Nat}

/-! ## Values and kinds -/

theorem Value.restores (finite : ∀ number, faithful number → (FloatValue.ofFloat number).isFinite)
    (shallow : depth < Document.deepest) {value : Value} (fits : value.Fits faithful) :
    Value.codec.Restores faithful depth value := by
  cases value with
  | text content => exact restores_carrying rfl rfl rfl shallow (restores_text content)
  | integer number =>
      exact restores_carrying rfl rfl rfl shallow (restores_signed64 fits.1 fits.2)
  | float number =>
      exact restores_carrying rfl rfl rfl shallow (restores_float (finite number fits) fits)
  | boolean truth => exact restores_carrying rfl rfl rfl shallow (restores_boolean truth)
  | null => exact restores_bare rfl rfl rfl
  | identity key => exact restores_carrying rfl rfl rfl shallow (restores_text key)
  | enumeration code =>
      exact restores_carrying rfl rfl rfl shallow (restores_signed64 fits.1 fits.2)
  | sql fragment => exact restores_carrying rfl rfl rfl shallow (restores_text fragment)

theorem Value.documentAt_ne_null (value : Value) :
    (Value.codec.write value).documentAt depth ≠ .null := by
  cases value with
  | null => exact documentAt_text_ne_null
  | _ => exact documentAt_object_ne_null

theorem ColumnRef.restores (shallow : depth < Document.deepest) (address : ColumnRef) :
    ColumnRef.codec.Restores faithful depth address := by
  apply restores_recordWith (by decide) shallow _ rfl
  exact .cons (.required (restores_text _)) (.cons (.required (restores_text _)) .nil)

/-- Kinds are read as a whole before their fields are looked at, and the addresses in them too. -/
theorem ColumnRef.settle_write (shallow : depth < Document.deepest) (address : ColumnRef) :
    ((ColumnRef.codec.write address).documentAt depth).settle = .ok () := by
  have written : ColumnRef.codec.write address =
      .object [("table", .text address.table), ("column", .text address.column)] := by
    rfl
  rw [written, documentAt, Document.placed_of_lt shallow]
  rfl

namespace AttributeKind

theorem restores_plain {alternatives : List (Tagged AttributeKind)} {kind : AttributeKind}
    {name : String} (reads : codec.read = readTagged "AttributeKind" alternatives)
    (writes : codec.write kind = writeTagged name [])
    (found : alternatives.find? (·.name == name) = some (plain kind name))
    (shallow : depth < Document.deepest) : codec.Restores faithful depth kind :=
  restores_tagged reads .nil (by simp [writeMembers]) writes found rfl shallow (by decide)

theorem restores_bounded {alternatives : List (Tagged AttributeKind)}
    {kind : Nat → AttributeKind} {maxLength : Nat} {name : String}
    (highest : maxLength ≤ Nat.pow 2 32 - 1)
    (reads : codec.read = readTagged "AttributeKind" alternatives)
    (writes : codec.write (kind maxLength) = writeTagged name [("max_length", .integer maxLength)])
    (found : alternatives.find? (·.name == name) = some (bounded kind name))
    (shallow : depth < Document.deepest) : codec.Restores faithful depth (kind maxLength) := by
  have field : FieldsRestore faithful (depth + 1) [maxLengthField] (maxLength, ()) :=
    .cons (.required (restores_unsigned32 highest)) .nil
  refine restores_tagged reads field ?_ writes found rfl shallow (by decide)
  simp only [writeMembers, Bool.false_eq_true, if_false, List.forall_mem_singleton]
  rfl

theorem restores_relationship (shallow : depth + 2 ≤ Document.deepest) (target : ColumnRef) :
    codec.Restores faithful depth (.relationship target) := by
  have field : FieldsRestore faithful (depth + 1) [.required "references" ColumnRef.codec]
      (target, ()) :=
    .cons (.required (ColumnRef.restores (by omega) target)) .nil
  refine restores_tagged rfl field ?_ rfl rfl rfl (by omega) (by decide)
  simp only [writeMembers, Bool.false_eq_true, if_false, List.forall_mem_singleton]
  exact ColumnRef.settle_write (by omega) target

theorem restores (shallow : depth + 2 ≤ Document.deepest) {kind : AttributeKind}
    (fits : kind.Fits) : codec.Restores faithful depth kind := by
  have here : depth < Document.deepest := by omega
  cases kind with
  | integer => exact restores_plain rfl rfl rfl here
  | nativeIdentity => exact restores_plain rfl rfl rfl here
  | numericIdentity => exact restores_plain rfl rfl rfl here
  | textIdentity maxLength => exact restores_bounded (fits maxLength rfl) rfl rfl rfl here
  | text maxLength => exact restores_bounded (fits maxLength rfl) rfl rfl rfl here
  | encryptedText maxLength => exact restores_bounded (fits maxLength rfl) rfl rfl rfl here
  | uuid => exact restores_plain rfl rfl rfl here
  | date => exact restores_plain rfl rfl rfl here
  | time => exact restores_plain rfl rfl rfl here
  | dateTime => exact restores_plain rfl rfl rfl here
  | selfReference => exact restores_plain rfl rfl rfl here
  | relationship target => exact restores_relationship shallow target
  | boolean => exact restores_plain rfl rfl rfl here
  | json => exact restores_plain rfl rfl rfl here
  | jsonb => exact restores_plain rfl rfl rfl here

end AttributeKind

/-! ## Entities and routines -/

section

variable (finite : ∀ number, faithful number → (FloatValue.ofFloat number).isFinite)

include finite

theorem Column.restores (shallow : depth + 3 ≤ Document.deepest) {column : Column}
    (fits : column.Fits faithful) : Column.codec.Restores faithful depth column := by
  apply restores_recordWith (by decide) (by omega) _ rfl
  refine .cons (.required (restores_text _)) ?_
  refine .cons (.required (AttributeKind.restores (by omega) fits.kind)) ?_
  refine .cons (.defaulted (restores_boolean _)) ?_
  refine .cons (.defaulted (restores_boolean _)) ?_
  refine .cons (.defaulted (restores_boolean _)) ?_
  refine .cons (.defaulted (restores_boolean _)) ?_
  refine .cons (.omittable (fun value supplied => ?_) fun value _ => value.documentAt_ne_null) ?_
  · exact Value.restores finite (by omega) (fits.supplier value supplied)
  refine .cons (.defaulted (restores_boolean _)) ?_
  exact .cons (.listed (by omega) fun key _ => restores_text key) .nil

theorem restores_columns (shallow : depth + 4 ≤ Document.deepest) {columns : List Column}
    (fits : ∀ column ∈ columns, column.Fits faithful) :
    Column.codec.list.Restores faithful depth columns :=
  restores_list (by omega) fun column column_mem =>
    Column.restores finite (by omega) (fits column column_mem)

omit finite in
theorem BackReference.restores (shallow : depth < Document.deepest) (reference : BackReference) :
    BackReference.codec.Restores faithful depth reference := by
  apply restores_recordWith (by decide) shallow _ rfl
  exact .cons (.required (restores_text _)) (.cons (.required (restores_text _)) .nil)

theorem Table.restores (shallow : depth + 5 ≤ Document.deepest) {table : Table}
    (fits : ∀ column ∈ table.columns, column.Fits faithful) :
    Table.codec.Restores faithful depth table := by
  apply restores_recordWith (by decide) (by omega) _ rfl
  refine .cons (.required (restores_text _)) ?_
  refine .cons (.defaulted (restores_boolean _)) ?_
  refine .cons (.required (restores_columns finite (by omega) fits)) ?_
  refine .cons (.listed (by omega) fun reference _ => ?_) .nil
  exact BackReference.restores (by omega) reference

omit finite in
theorem ViewQuery.restores (shallow : depth < Document.deepest) (query : ViewQuery) :
    ViewQuery.codec.Restores faithful depth query := by
  cases query with
  | body content => exact restores_carrying rfl rfl rfl shallow (restores_text content)
  | statement content => exact restores_carrying rfl rfl rfl shallow (restores_text content)

theorem View.restores (shallow : depth + 5 ≤ Document.deepest) {view : View}
    (fits : ∀ column ∈ view.columns, column.Fits faithful) :
    View.codec.Restores faithful depth view := by
  apply restores_recordWith (by decide) (by omega) _ rfl
  refine .cons (.required (restores_text _)) ?_
  refine .cons (.defaulted (restores_columns finite (by omega) fits)) ?_
  refine .cons (.required (ViewQuery.restores (by omega) _)) ?_
  exact .cons (.omittableText _) .nil

theorem TypeDefinition.restores (shallow : depth + 5 ≤ Document.deepest)
    {definition : TypeDefinition} (fits : ∀ column ∈ definition.columns, column.Fits faithful) :
    TypeDefinition.codec.Restores faithful depth definition := by
  apply restores_recordWith (by decide) (by omega) _ rfl
  refine .cons (.required (restores_text _)) ?_
  refine .cons (.required (restores_columns finite (by omega) fits)) ?_
  exact .cons (.omittableText _) .nil

omit finite in
theorem Mutability.restores (mutability : Mutability) :
    Mutability.codec.Restores faithful depth mutability := by
  cases mutability with
  | input => exact restores_bare rfl rfl rfl
  | output => exact restores_bare rfl rfl rfl
  | inputOutput => exact restores_bare rfl rfl rfl

omit finite in
theorem Argument.restores (shallow : depth < Document.deepest) (argument : Argument) :
    Argument.codec.Restores faithful depth argument := by
  apply restores_recordWith (by decide) shallow _ rfl
  refine .cons (.required (restores_text _)) ?_
  refine .cons (.required (restores_text _)) ?_
  exact .cons (.defaulted (Mutability.restores _)) .nil

omit finite in
/-- A routine without a list of arguments is not one with an empty list: the one is written as
`null`, the other as an array. -/
theorem restores_arguments (shallow : depth + 2 ≤ Document.deepest)
    (arguments? : Option (List Argument)) :
    Argument.codec.list.optional.Restores faithful depth arguments? := by
  refine restores_optional (fun arguments _ => ?_) fun _ _ => documentAt_array_ne_null
  exact restores_list (by omega) fun argument _ => Argument.restores (by omega) argument

omit finite in
theorem RoutineCode.restores (shallow : depth < Document.deepest) (code : RoutineCode) :
    RoutineCode.codec.Restores faithful depth code := by
  cases code with
  | body content => exact restores_carrying rfl rfl rfl shallow (restores_text content)
  | source content => exact restores_carrying rfl rfl rfl shallow (restores_text content)

theorem StoredFunction.restores (shallow : depth + 5 ≤ Document.deepest)
    {function : StoredFunction} (fits : ∀ column ∈ function.columns, column.Fits faithful) :
    StoredFunction.codec.Restores faithful depth function := by
  apply restores_recordWith (by decide) (by omega) _ rfl
  refine .cons (.required (restores_text _)) ?_
  refine .cons (.defaulted (restores_arguments (by omega) _)) ?_
  refine .cons (.defaulted (restores_columns finite (by omega) fits)) ?_
  refine .cons (.required (RoutineCode.restores (by omega) _)) ?_
  refine .cons (.defaulted (restores_boolean _)) ?_
  exact .cons (.omittableText _) .nil

omit finite in
theorem Wrapper.restores (shallow : depth < Document.deepest) (wrapper : Wrapper) :
    Wrapper.codec.Restores faithful depth wrapper := by
  apply restores_recordWith (by decide) shallow _ rfl
  exact .cons (.required (restores_text _)) (.cons (.omittableText _) .nil)

theorem StoredProcedure.restores (shallow : depth + 5 ≤ Document.deepest)
    {procedure : StoredProcedure} (fits : ∀ column ∈ procedure.columns, column.Fits faithful) :
    StoredProcedure.codec.Restores faithful depth procedure := by
  apply restores_recordWith (by decide) (by omega) _ rfl
  refine .cons (.required (restores_text _)) ?_
  refine .cons (.defaulted (restores_arguments (by omega) _)) ?_
  refine .cons (.defaulted (restores_columns finite (by omega) fits)) ?_
  refine .cons (.required (RoutineCode.restores (by omega) _)) ?_
  refine .cons (.omittable (fun wrapper _ => ?_) fun _ _ => documentAt_object_ne_null) ?_
  · exact Wrapper.restores (by omega) wrapper
  exact .cons (.omittableText _) .nil

/-! ## Content -/

theorem AttributeValue.restores (shallow : depth + 2 ≤ Document.deepest) {value : AttributeValue}
    (fits : value.value.Fits faithful) : AttributeValue.codec.Restores faithful depth value := by
  apply restores_recordWith (by decide) (by omega) _ rfl
  refine .cons (.required (restores_text _)) ?_
  refine .cons (.required (Value.restores finite (by omega) fits)) ?_
  exact .cons (.omittableText _) .nil

theorem ContentRow.restores (shallow : depth + 4 ≤ Document.deepest) {row : ContentRow}
    (fits : ∀ value ∈ row.values, value.value.Fits faithful) :
    ContentRow.codec.Restores faithful depth row := by
  apply restores_recordWith (by decide) (by omega) _ rfl
  refine .cons (.required (restores_text _)) ?_
  refine .cons (.required (restores_list (by omega) fun value value_mem => ?_)) ?_
  · exact AttributeValue.restores finite (by omega) (fits value value_mem)
  refine .cons (.omittable (fun engines _ => ?_) fun _ _ => documentAt_array_ne_null) .nil
  exact restores_list (by omega) fun engine _ => restores_text engine

theorem ContentGroup.restores (shallow : depth + 6 ≤ Document.deepest) {group : ContentGroup}
    (fits : ∀ row ∈ group.rows, ∀ value ∈ row.values, value.value.Fits faithful) :
    ContentGroup.codec.Restores faithful depth group := by
  apply restores_recordWith (by decide) (by omega) _ rfl
  refine .cons (.omittableText _) ?_
  refine .cons (.required (restores_list (by omega) fun row row_mem => ?_)) .nil
  exact ContentRow.restores finite (by omega) (fits row row_mem)

/-! ## Models -/

namespace Model

theorem restores (shallow : depth + 8 ≤ Document.deepest) {model : Model}
    (fits : model.Fits faithful) : codec.Restores faithful depth model := by
  have columns := fits.columns
  simp only [entities, List.forall_mem_append, List.forall_mem_map] at columns
  rcases columns with ⟨⟨⟨⟨tables, views⟩, types⟩, functions⟩, procedures⟩
  apply restores_recordWith (by decide) (by omega) _ rfl
  refine .cons (.required (restores_text _)) ?_
  refine .cons (.defaulted (restores_text _)) ?_
  refine .cons (.listed (by omega) fun extension _ => restores_text extension) ?_
  refine .cons (.required (restores_list (by omega) fun table table_mem => ?_)) ?_
  · exact Table.restores finite (by omega) (tables table table_mem)
  refine .cons (.listed (by omega) fun view view_mem => ?_) ?_
  · exact View.restores finite (by omega) (views view view_mem)
  refine .cons (.listed (by omega) fun definition definition_mem => ?_) ?_
  · exact TypeDefinition.restores finite (by omega) (types definition definition_mem)
  refine .cons (.listed (by omega) fun function function_mem => ?_) ?_
  · exact StoredFunction.restores finite (by omega) (functions function function_mem)
  refine .cons (.listed (by omega) fun procedure procedure_mem => ?_) ?_
  · exact StoredProcedure.restores finite (by omega) (procedures procedure procedure_mem)
  refine .cons (.listed (by omega) fun group group_mem => ?_) .nil
  exact ContentGroup.restores finite (by omega) (fits.content group group_mem)

end Model

end

/-- A model comes back from what is written for it: from the value, if its floats are finite, and
from the text, if the text of each float leads back to the float. -/
theorem Model.read_write (model : Model)
    (fits : model.Fits fun number => (FloatValue.ofFloat number).isFinite) :
    codec.read ((codec.write model).documentAt 0) = .ok model ∧
      (model.Fits ReadsBack → ofText (codec.write model).compact = .ok model) := by
  constructor
  · exact (restores (fun _ finite => finite) (by decide) fits).read
  · intro readBack
    have restored : codec.Restores ReadsBack 0 model :=
      restores (fun _ readsBack => isFinite_of_readsBack readsBack) (by decide) readBack
    simp only [ofText, Document.readAll, ofText_compact restored.readable, restored.read]
    rfl

theorem Model.read_write_bookshop :
    let book : Table := {
      name := "Book"
      columns := [
        { name := "id", kind := .numericIdentity, primaryKey := true },
        { name := "author", kind := .relationship ⟨"Author", "id"⟩, derivedFromIdentity := true },
        { name := "title", kind := .text 100, supplier := some .null },
        { name := "price", kind := .json, nullable := true, supplier := some (.float 2.5) }]
      backReferences := [⟨"loans", "Loan"⟩] }
    let cheapest : StoredFunction := {
      name := "Cheapest", arguments := some [], code := .body "SELECT 1", volatile := true }
    let lend : StoredProcedure := {
      name := "Lend", code := .source "", wrapper := some ⟨"lend", none⟩ }
    let row : ContentRow := {
      entity := "Book"
      values := [.valid "id" (.enumeration 1), .valid "price" (.float 2.5),
        .invalid "title" "a \"title\" is due"]
      engines := some ["sqlite"] }
    let model : Model := {
      name := "bookshop", tables := [book], functions := [cheapest], procedures := [lend],
      content := [{ rows := [row] }] }
    (model.Fits fun number => (FloatValue.ofFloat number).isFinite) ∧
      codec.read ((codec.write model).documentAt 0) = .ok model ∧
      ofText (codec.write model).compact = .ok model := by
  intro book cheapest lend row model
  have fits {faithful : Float → Prop} (price : faithful 2.5) : model.Fits faithful := by
    constructor
    · simp [model, book, cheapest, lend, entities, Column.fits_iff, AttributeKind.Fits,
        AttributeKind.maxLength?, Value.Fits, price]
    · simp [model, row, Value.Fits, AttributeValue.valid, AttributeValue.invalid, price]
  have readsBack : ReadsBack 2.5 := by rfl
  have finite : (FloatValue.ofFloat 2.5).isFinite := isFinite_of_readsBack readsBack
  have restored := read_write model (fits finite)
  exact ⟨fits finite, restored.1, restored.2 (fits readsBack)⟩

end SchemaCompiler
