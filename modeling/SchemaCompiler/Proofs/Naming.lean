import Mathlib.Logic.Function.Iterate
import SchemaCompiler.Naming

/-!
# What the common name changes

The strategy `commonKey` calls identifying columns `id` and changes no other name, and wrapping a
strategy again changes nothing at all.

Some names are decided by a strategy, one by one: the identifiers of the classes of objects, of
attributes and columns, the schema and the qualification. The others are put together from these in
the same way under every strategy, so `NamesAlike` follows from `DecidesAlike`. What a wrapping
leaves alone is seen on the decisions, and an induction on the number of wrappings does the rest.
-/

namespace SchemaCompiler

/-- Whether a column is named `id` where identifying columns have a common name. -/
def Column.identifies (column : Column) : Bool :=
  column.primaryKey || column.derivedFromIdentity

namespace Naming

/-- Two strategies that decide alike, in the case of columns as far as they have a property. -/
structure DecidesAlike (naming other : Naming) (included : Column → Prop) : Prop where
  table : ∀ entity, other.tableName entity = naming.tableName entity
  view : ∀ entity, other.viewName entity = naming.viewName entity
  type : ∀ entity, other.typeName entity = naming.typeName entity
  function : ∀ entity, other.functionName entity = naming.functionName entity
  procedure : ∀ entity, other.procedureName entity = naming.procedureName entity
  columnByName : ∀ name, other.columnName name = naming.columnName name
  schema : ∀ schema, other.schemaName schema = naming.schemaName schema
  qualification : other.qualification = naming.qualification
  tableColumn : ∀ column, included column →
    other.tableColumnName column = naming.tableColumnName column

/-- Two strategies that give the same names, to columns as far as they have a property. -/
structure NamesAlike (naming other : Naming) (included : Column → Prop) : Prop
    extends DecidesAlike naming other included where
  qualifiedColumn : ∀ entity column, included column →
    other.qualifiedColumnName entity column = naming.qualifiedColumnName entity column
  tableDefinition : ∀ schema entity,
    other.tableDefinitionName schema entity = naming.tableDefinitionName schema entity
  viewDefinition : ∀ schema entity,
    other.viewDefinitionName schema entity = naming.viewDefinitionName schema entity
  typeDefinition : ∀ schema entity,
    other.typeDefinitionName schema entity = naming.typeDefinitionName schema entity
  functionDefinition : ∀ schema entity,
    other.functionDefinitionName schema entity = naming.functionDefinitionName schema entity
  procedureDefinition : ∀ schema entity,
    other.procedureDefinitionName schema entity = naming.procedureDefinitionName schema entity
  wrapperDefinition : ∀ schema functionName,
    other.wrapperDefinitionName schema functionName =
      naming.wrapperDefinitionName schema functionName

variable {naming other third : Naming} {included : Column → Prop} {column : Column}

namespace DecidesAlike

theorem refl (naming : Naming) (included : Column → Prop) :
    naming.DecidesAlike naming included :=
  ⟨fun _ => rfl, fun _ => rfl, fun _ => rfl, fun _ => rfl, fun _ => rfl, fun _ => rfl, fun _ => rfl,
    rfl, fun _ _ => rfl⟩

theorem trans (first : naming.DecidesAlike other included)
    (second : other.DecidesAlike third included) : naming.DecidesAlike third included where
  table entity := (second.table entity).trans (first.table entity)
  view entity := (second.view entity).trans (first.view entity)
  type entity := (second.type entity).trans (first.type entity)
  function entity := (second.function entity).trans (first.function entity)
  procedure entity := (second.procedure entity).trans (first.procedure entity)
  columnByName name := (second.columnByName name).trans (first.columnByName name)
  schema schema := (second.schema schema).trans (first.schema schema)
  qualification := second.qualification.trans first.qualification
  tableColumn column inside :=
    (second.tableColumn column inside).trans (first.tableColumn column inside)

/-- Strategies that decide alike about all but some columns, and about these too. -/
theorem extend {wider : Column → Prop} (alike : naming.DecidesAlike other included)
    (others : ∀ column, wider column → ¬included column →
      other.tableColumnName column = naming.tableColumnName column) :
    naming.DecidesAlike other wider where
  table := alike.table
  view := alike.view
  type := alike.type
  function := alike.function
  procedure := alike.procedure
  columnByName := alike.columnByName
  schema := alike.schema
  qualification := alike.qualification
  tableColumn := by
    intro column in_wider
    by_cases inside : included column
    · exact alike.tableColumn column inside
    · exact others column in_wider inside

theorem definitionName (alike : naming.DecidesAlike other included) (objectClass : ObjectClass)
    (schema identifier : String) :
    other.definitionName objectClass schema identifier =
      naming.definitionName objectClass schema identifier := by
  rw [Naming.definitionName, Naming.definitionName, alike.qualification, alike.schema]

/-- All other names are put together from those that strategies decide about. -/
theorem namesAlike (alike : naming.DecidesAlike other included) :
    naming.NamesAlike other included where
  toDecidesAlike := alike
  qualifiedColumn entity column inside := by
    rw [qualifiedColumnName, qualifiedColumnName, alike.table, alike.tableColumn column inside]
  tableDefinition schema entity := by
    rw [tableDefinitionName, tableDefinitionName, alike.definitionName, alike.table]
  viewDefinition schema entity := by
    rw [viewDefinitionName, viewDefinitionName, alike.definitionName, alike.view]
  typeDefinition schema entity := by
    rw [typeDefinitionName, typeDefinitionName, alike.definitionName, alike.type]
  functionDefinition schema entity := by
    rw [functionDefinitionName, functionDefinitionName, alike.definitionName, alike.function]
  procedureDefinition schema entity := by
    rw [procedureDefinitionName, procedureDefinitionName, alike.definitionName, alike.procedure]
  wrapperDefinition schema functionName := alike.definitionName .storedFunction schema functionName

end DecidesAlike

/-! ## Wrapped strategies -/

theorem tableColumnName_commonKey_of_identifies (naming : Naming) (identifies : column.identifies) :
    (commonKey naming).tableColumnName column = naming.columnName "id" :=
  if_pos identifies

theorem tableColumnName_commonKey_of_not_identifies (naming : Naming)
    (plain : ¬column.identifies) :
    (commonKey naming).tableColumnName column = naming.tableColumnName column :=
  if_neg plain

/-- A wrapping asks the strategy inside for all names but those of identifying columns. -/
theorem decidesAlike_commonKey (naming : Naming) :
    naming.DecidesAlike (commonKey naming) fun column => ¬column.identifies where
  table _ := rfl
  view _ := rfl
  type _ := rfl
  function _ := rfl
  procedure _ := rfl
  columnByName _ := rfl
  schema _ := rfl
  qualification := rfl
  tableColumn _ plain := tableColumnName_commonKey_of_not_identifies naming plain

theorem decidesAlike_iterate_commonKey (naming : Naming) (count : ℕ) :
    naming.DecidesAlike (commonKey^[count] naming) fun column => ¬column.identifies := by
  induction count with
  | zero => exact .refl naming _
  | succ count ih =>
      rw [Function.iterate_succ_apply']
      exact ih.trans (decidesAlike_commonKey _)

/-- The name of an identifying column is that of `id` under the innermost strategy, however often it
is wrapped. -/
theorem tableColumnName_iterate_of_identifies (naming : Naming) (count : ℕ)
    (identifies : column.identifies) :
    (commonKey^[count + 1] naming).tableColumnName column = naming.columnName "id" := by
  rw [Function.iterate_succ_apply', tableColumnName_commonKey_of_identifies _ identifies]
  exact (decidesAlike_iterate_commonKey naming count).columnByName "id"

/-- Wrapping a strategy, once or several times, changes the names of identifying columns only: they
get the name of `id` under the strategy itself. Wrapping it several times gives the same names to
everything as wrapping it once. -/
theorem commonKey_renames_identifying_columns (naming : Naming) (count : ℕ) :
    let wrapped := commonKey^[count + 1] naming
    (naming.NamesAlike wrapped fun column => ¬column.identifies) ∧
      (∀ column, column.identifies →
        wrapped.tableColumnName column = naming.columnName "id" ∧
          ∀ entity, wrapped.qualifiedColumnName entity column =
            naming.tableName entity.name ++ "." ++ naming.columnName "id") ∧
      (commonKey naming).NamesAlike wrapped fun _ => True := by
  intro wrapped
  have plain : naming.DecidesAlike wrapped fun column => ¬column.identifies :=
    decidesAlike_iterate_commonKey naming (count + 1)
  have common : ∀ column, column.identifies →
      wrapped.tableColumnName column = naming.columnName "id" :=
    fun _ identifies => tableColumnName_iterate_of_identifies naming count identifies
  refine ⟨plain.namesAlike, ?_, ?_⟩
  · intro column identifies
    refine ⟨common column identifies, ?_⟩
    intro entity
    rw [qualifiedColumnName, plain.table, common column identifies]
  · have again : (commonKey naming).DecidesAlike wrapped fun column => ¬column.identifies := by
      have wrapped_eq : wrapped = commonKey^[count] (commonKey naming) := rfl
      rw [wrapped_eq]
      exact decidesAlike_iterate_commonKey (commonKey naming) count
    refine (again.extend ?_).namesAlike
    intro column _ identifying
    have identifies : column.identifies := by simpa using identifying
    rw [common column identifies, tableColumnName_commonKey_of_identifies naming identifies]

/-- A strategy in upper case that qualifies tables and functions is wrapped twice. -/
theorem commonKey_renames_identifying_columns_book :
    let naming : Naming :=
      .base .upper { tables := .schemaQualified, storedFunctions := .schemaQualified }
    let wrapped := commonKey^[2] naming
    let key : Column := ⟨"bookKey", .nativeIdentity, false, true, false, false, none, false, []⟩
    let title : Column := ⟨"fullTitle", .text 20, false, false, false, false, none, false, []⟩
    let book : Entity := ⟨"LibraryBook", [key, title]⟩
    ¬title.identifies ∧ key.identifies ∧
      wrapped.tableColumnName title = naming.tableColumnName title ∧
      naming.tableColumnName title = "FULL_TITLE" ∧
      naming.tableColumnName key = "BOOK_KEY" ∧
      wrapped.qualifiedColumnName book key = "LIBRARY_BOOK" ++ "." ++ "ID" ∧
      wrapped.tableDefinitionName "public" book.name =
        (commonKey naming).tableDefinitionName "public" book.name ∧
      (commonKey naming).tableDefinitionName "public" book.name = "public.LIBRARY_BOOK" ∧
      wrapped.qualifiedColumnName book key = (commonKey naming).qualifiedColumnName book key := by
  intro naming wrapped key title book
  have plain : ¬title.identifies := by decide
  have identifies : key.identifies := by decide
  have table_name : naming.tableName book.name = "LIBRARY_BOOK" := by decide +kernel
  have id_name : naming.columnName "id" = "ID" := by decide +kernel
  rcases commonKey_renames_identifying_columns naming 1 with ⟨others, common, again⟩
  have qualified := (common key identifies).2 book
  rw [table_name, id_name] at qualified
  exact ⟨plain, identifies, others.tableColumn title plain, by decide +kernel, by decide +kernel,
    qualified, again.tableDefinition "public" book.name, by decide +kernel,
    again.qualifiedColumn book key trivial⟩

end Naming

end SchemaCompiler
