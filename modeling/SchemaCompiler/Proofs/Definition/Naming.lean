import SchemaCompiler.Dialect.Postgres
import SchemaCompiler.Proofs.Definition.Dependence
import SchemaCompiler.Proofs.Definition.ForeignKey

/-!
# Definitions under strategies that agree

The strategy `commonKey` asks the strategy inside for everything but the names of identifying
columns. If these are called the same by both, the two strategies agree on every name in a model,
and whatever is defined under one of them is defined under the other with the same text.

Each generator is treated once, for any two scopes of a model whose strategies agree. A generator
names the columns of an entity of the model, or the column in which a reference of a table ends;
both belong to the model, which is all that the agreement is about.
-/

namespace SchemaCompiler

/-! ## Strategies -/

namespace Naming

variable {naming other : Naming} {entities : List Entity}

/-- Two strategies that spell names alike and agree on the columns of some entities. -/
structure Agrees (naming other : Naming) (entities : List Entity) : Prop where
  tableName : ∀ entity, other.tableName entity = naming.tableName entity
  attributeName : ∀ name, other.columnName name = naming.columnName name
  qualification : other.qualification = naming.qualification
  columnName : ∀ entity ∈ entities, ∀ column ∈ entity.columns,
    other.tableColumnName column = naming.tableColumnName column

theorem Agrees.definitionName (agrees : naming.Agrees other entities) (objectClass : ObjectClass)
    (schema identifier : String) :
    other.definitionName objectClass schema identifier =
      naming.definitionName objectClass schema identifier := by
  rw [Naming.definitionName, Naming.definitionName, agrees.qualification, schemaName_eq,
    schemaName_eq]

/-- A strategy agrees with the one that wraps it where identifying columns have the common name
already. -/
theorem agrees_commonKey
    (named : ∀ entity ∈ entities, ∀ column ∈ entity.columns,
      column.primaryKey || column.derivedFromIdentity →
        naming.tableColumnName column = naming.columnName "id") :
    naming.Agrees (.commonKey naming) entities where
  tableName _ := rfl
  attributeName _ := rfl
  qualification := rfl
  columnName := by
    intro entity entity_mem column column_mem
    rw [tableColumnName]
    split
    · rename_i identifying
      exact (named entity entity_mem column column_mem identifying).symm
    · rfl

end Naming

/-! ## Scopes -/

theorem Model.mem_entities {model : Model} {entity : Entity} :
    entity ∈ model.entities ↔
      (∃ table ∈ model.tables, table.toEntity = entity) ∨
        (∃ view ∈ model.views, view.toEntity = entity) ∨
        (∃ definition ∈ model.types, definition.toEntity = entity) ∨
        (∃ function ∈ model.functions, function.toEntity = entity) ∨
        ∃ procedure ∈ model.procedures, procedure.toEntity = entity := by
  simp only [entities, List.mem_append, List.mem_map, or_assoc]

namespace Scope

variable {scope other : Scope}

/-- Two scopes of one model with strategies that agree on all names in it. -/
structure Agrees (scope other : Scope) : Prop where
  model : other.model = scope.model
  registry : other.profile.registry = scope.profile.registry
  identityColumn : other.profile.identityColumn = scope.profile.identityColumn
  checkOf : other.profile.checkOf = scope.profile.checkOf
  naming : scope.naming.Agrees other.naming scope.model.entities

namespace Agrees

variable {table : Table} {entity : Entity}

theorem schema (agrees : scope.Agrees other) : other.schema = scope.schema :=
  congrArg Model.schema agrees.model

theorem types (agrees : scope.Agrees other) (entity : Entity) (column : Column) :
    other.types entity column = scope.types entity column := by
  simp only [Scope.types, resolver, agrees.model, agrees.registry]

theorem tableColumnName (agrees : scope.Agrees other) (table_mem : table ∈ scope.model.tables)
    {column : Column} (column_mem : column ∈ table.columns) :
    other.naming.tableColumnName column = scope.naming.tableColumnName column :=
  agrees.naming.columnName _ (Model.mem_entities.mpr (.inl ⟨table, table_mem, rfl⟩)) column
    column_mem

/-- Every object is defined under the identifier of a table of its name. -/
theorem objectName (agrees : scope.Agrees other) (objectClass : ObjectClass) (entity : String) :
    other.naming.definitionName objectClass other.schema (other.naming.tableName entity) =
      scope.naming.definitionName objectClass scope.schema (scope.naming.tableName entity) := by
  rw [agrees.naming.definitionName, agrees.naming.tableName, agrees.schema]

/-! ## Tables and views -/

theorem targetName (agrees : scope.Agrees other) (address : ColumnRef) :
    other.targetName address = scope.targetName address := by
  rw [Scope.targetName, Scope.targetName, agrees.model]
  cases resolved : scope.model.resolve? address with
  | none => exact agrees.naming.attributeName address.column
  | some pair =>
      rcases Model.mem_of_resolve? resolved with ⟨target_mem, _, column_mem, _⟩
      exact agrees.tableColumnName target_mem column_mem

theorem tableDefinition (agrees : scope.Agrees other) (table_mem : table ∈ scope.model.tables) :
    other.tableDefinition table = scope.tableDefinition table := by
  refine tableDefinition_congr (agrees.objectName .table table.name) fun column column_mem => ?_
  exact {
    identityColumn := agrees.identityColumn
    name := agrees.tableColumnName table_mem column_mem
    types := agrees.types table.toEntity column
    target := fun address _ =>
      ⟨agrees.naming.tableName address.table, agrees.targetName address⟩ }

theorem modelDefinition (agrees : scope.Agrees other) :
    other.modelDefinition = scope.modelDefinition := by
  have tables : Generated.each other.tableDefinition scope.model.tables =
      Generated.each scope.tableDefinition scope.model.tables :=
    Generated.each_congr fun _ table_mem => agrees.tableDefinition table_mem
  rw [Scope.modelDefinition, Scope.modelDefinition, agrees.model, tables]

theorem viewDefinition (agrees : scope.Agrees other) {view : View}
    (view_mem : view ∈ scope.model.views) :
    other.viewDefinition view = scope.viewDefinition view := by
  have columns : view.columns.map other.naming.tableColumnName =
      view.columns.map scope.naming.tableColumnName :=
    List.map_congr_left (agrees.naming.columnName _
      (Model.mem_entities.mpr (.inr (.inl ⟨view, view_mem, rfl⟩))))
  have name : other.naming.viewDefinitionName other.schema view.name =
      scope.naming.viewDefinitionName scope.schema view.name := by
    simpa only [Naming.viewDefinitionName, Naming.viewName_eq_tableName] using
      agrees.objectName .view view.name
  rw [Scope.viewDefinition, Scope.viewDefinition, columns, name]

/-! ## Composite types and routines -/

theorem returnsClause (agrees : scope.Agrees other) {routine : Routine}
    (routine_mem : routine.toEntity ∈ scope.model.entities) :
    other.returnsClause routine = scope.returnsClause routine := by
  have fields : Generated.each (other.resultColumn routine.toEntity) routine.columns =
      Generated.each (scope.resultColumn routine.toEntity) routine.columns := by
    apply Generated.each_congr
    intro column column_mem
    simp only [resultColumn, agrees.types,
      agrees.naming.columnName routine.toEntity routine_mem column column_mem]
  simp only [Scope.returnsClause, agrees.types]
  split
  · rfl
  · rfl
  · rw [fields]

end Agrees

end Scope

namespace Dialect.Postgres

variable {scope other : Scope}

theorem typeDefinition_congr (agrees : scope.Agrees other) {definition : TypeDefinition}
    (definition_mem : definition ∈ scope.model.types) :
    typeDefinition other definition = typeDefinition scope definition := by
  have fields : Generated.each (typeField other definition.toEntity) definition.columns =
      Generated.each (typeField scope definition.toEntity) definition.columns := by
    apply Generated.each_congr
    intro column column_mem
    have columnName := agrees.naming.columnName _
      (Model.mem_entities.mpr (.inr (.inr (.inl ⟨definition, definition_mem, rfl⟩)))) column
      column_mem
    simp only [typeField, agrees.types, columnName]
  have name : other.naming.typeDefinitionName other.schema definition.name =
      scope.naming.typeDefinitionName scope.schema definition.name := by
    simpa only [Naming.typeDefinitionName, Naming.typeName_eq_tableName] using
      agrees.objectName .typeDefinition definition.name
  simp only [typeDefinition, fields, name]

theorem checkLines_congr (agrees : scope.Agrees other) (name : String) :
    checkLines other name = checkLines scope name := by
  rw [checkLines, checkLines, agrees.checkOf]

theorem functionDefinition_congr (agrees : scope.Agrees other) {function : StoredFunction}
    (function_mem : function ∈ scope.model.functions) :
    functionDefinition other function = functionDefinition scope function := by
  have returns : other.returnsClause function.toRoutine = scope.returnsClause function.toRoutine :=
    agrees.returnsClause
      (Model.mem_entities.mpr (.inr (.inr (.inr (.inl ⟨function, function_mem, rfl⟩)))))
  have name : other.naming.functionDefinitionName other.schema function.name =
      scope.naming.functionDefinitionName scope.schema function.name := by
    simpa only [Naming.functionDefinitionName, Naming.functionName_eq_tableName] using
      agrees.objectName .storedFunction function.name
  simp only [functionDefinition, functionLines, returns, name, checkLines_congr agrees]

theorem wrapperLines_congr (agrees : scope.Agrees other) {procedure : StoredProcedure}
    (procedure_mem : procedure ∈ scope.model.procedures) (procedureName : String)
    (wrapper : Wrapper) :
    wrapperLines other procedureName procedure wrapper =
      wrapperLines scope procedureName procedure wrapper := by
  have returns : other.returnsClause procedure.toRoutine =
      scope.returnsClause procedure.toRoutine :=
    agrees.returnsClause
      (Model.mem_entities.mpr (.inr (.inr (.inr (.inr ⟨procedure, procedure_mem, rfl⟩)))))
  simp only [wrapperLines, returns, Naming.wrapperDefinitionName, agrees.naming.definitionName,
    agrees.schema, checkLines_congr agrees]

theorem procedureDefinition_congr (agrees : scope.Agrees other) {procedure : StoredProcedure}
    (procedure_mem : procedure ∈ scope.model.procedures) :
    procedureDefinition other procedure = procedureDefinition scope procedure := by
  have name : other.naming.procedureDefinitionName other.schema procedure.name =
      scope.naming.procedureDefinitionName scope.schema procedure.name := by
    simpa only [Naming.procedureDefinitionName, Naming.procedureName_eq_tableName] using
      agrees.objectName .storedProcedure procedure.name
  simp only [procedureDefinition, name, checkLines_congr agrees,
    wrapperLines_congr agrees procedure_mem]

end Dialect.Postgres

end SchemaCompiler
