import SchemaCompiler.Proofs.Definition.ForeignKey
import SchemaCompiler.Proofs.KeyedList
import SchemaCompiler.Proofs.SqlType.Chain

/-!
# Types of foreign keys

A foreign key has to hold the values of the column that it refers to, so it is defined with the type
that this column gives to its references. The two are found on different ways: the type comes down
the chain of hops that type resolution follows, with one step less for the target than the target
itself would have, and the target is what the definition of the column looks up by its address. This
file shows that both ways lead to the same column, and that the steps make no difference for types
that are found at all.
-/

namespace SchemaCompiler

namespace Model

/-- With distinct names, the address of a primary key leads back to it. -/
theorem resolve?_primaryKey {model : Model} {table : Table} {key : Column}
    (distinctTables : (model.tables.map (·.name)).Nodup)
    (distinctColumns : (table.columns.map (·.name)).Nodup) (table_mem : table ∈ model.tables)
    (primaryKey : table.primaryKey? = some key) :
    model.resolve? ⟨table.name, key.name⟩ = some (table, key) := by
  have table_found : model.table? table.name = some table :=
    Keyed.find?_eq_some_of_mem distinctTables table_mem
  have key_found : table.column? key.name = some key :=
    Keyed.find?_eq_some_of_mem distinctColumns (List.mem_of_find?_eq_some primaryKey)
  simp [resolve?, table_found, key_found]

end Model

/-- A column that refers to another one and has its types from there: the first registration that
covers it is the one for its kind of reference. -/
inductive TypeRegistry.Follows (registry : TypeRegistry) (column : Column) : Prop
  | relationship {target : ColumnRef} {registration : Registration}
      (kind : column.kind = .relationship target)
      (first : registry.find? column = some registration)
      (mapper : registration.mapper = .relationship)
  | selfReference {registration : Registration} (kind : column.kind = .selfReference)
      (first : registry.find? column = some registration)
      (mapper : registration.mapper = .selfReference)

/-- The column to which such a column refers by its address is the one to which its hop leads. -/
theorem TypeRegistry.Follows.exists_hop (resolver : TypeResolver) {table : Table}
    {column : Column} {types : SqlTypes} (follows : resolver.registry.Follows column)
    (distinctTables : (resolver.model.tables.map (·.name)).Nodup)
    (distinctColumns : (table.columns.map (·.name)).Nodup)
    (table_mem : table ∈ resolver.model.tables)
    (found : resolver.resolve table.toEntity column = .ok types) :
    ∃ address target targetColumn kind,
      column.target? table.toEntity = some address ∧
        resolver.model.resolve? address = some (target, targetColumn) ∧
        resolver.Hop kind ⟨table.toEntity, column⟩ ⟨target.toEntity, targetColumn⟩ := by
  cases follows with
  | @relationship address registration kind first mapper =>
      cases resolved : resolver.model.resolve? address with
      | none =>
          simp [TypeResolver.resolve, TypeResolver.resolveWithin, first, mapper, kind, resolved]
            at found
      | some place =>
          obtain ⟨target, targetColumn⟩ := place
          exact ⟨address, target, targetColumn, .relationship, by simp [Column.target?, kind],
            resolved, .relationship first mapper kind resolved⟩
  | @selfReference registration kind first mapper =>
      cases primaryKey : table.primaryKey? with
      | none =>
          simp [TypeResolver.resolve, TypeResolver.resolveWithin, first, mapper, primaryKey]
            at found
      | some key =>
          exact ⟨⟨table.name, key.name⟩, table, key, .selfReference,
            by simp [Column.target?, kind, primaryKey],
            Model.resolve?_primaryKey distinctTables distinctColumns table_mem primaryKey,
            .selfReference first mapper primaryKey⟩

namespace Column

/-- What follows the type in the line of a column that refers to another one. -/
def referenceClauses (column : Column) : String :=
  (if column.primaryKey then " PRIMARY KEY" else "")
    ++ (if column.nullable then "" else " NOT NULL")
    ++ column.supplier.elim "" fun value => " DEFAULT " ++ value.expression

end Column

namespace Scope

variable {scope : Scope} {table : Table} {column : Column}

theorem line_columnDefinition {address : ColumnRef}
    (refers : column.target? table.toEntity = some address) :
    (scope.columnDefinition table column).value.line =
      scope.naming.tableColumnName column ++ " "
        ++ (scope.types table.toEntity column).value.reference ++ column.referenceClauses := by
  have notIdentity := Column.identityKind?_of_target? refers
  rw [columnDefinition, Generated.value_map, slot, Generated.value_map]
  simp only [definition, notIdentity, plainDefinition, ColumnSlot.target?, refers,
    referenceDefinition, ColumnSlot.lineWith, ColumnSlot.primaryKeyClause,
    ColumnSlot.notNullClause, Column.referenceClauses, String.append_assoc]

theorem line_columnDefinition_of_target? {address : ColumnRef} {types : SqlTypes}
    (refers : column.target? table.toEntity = some address)
    (found : scope.resolver.resolve table.toEntity column = .ok types) :
    (scope.columnDefinition table column).value.line =
      scope.naming.tableColumnName column ++ " " ++ types.reference ++ column.referenceClauses := by
  rw [line_columnDefinition refers, Scope.types, TypeResolver.types, found]

/-- A foreign key has the types of the column that it refers to, and so has every column further
down the chain of references. In the definition of the table, the type in the line of the foreign
key is the one that the referenced column gives to references to it, and no other. -/
theorem foreignKey_takes_reference_type {scope : Scope}
    (distinctTables : (scope.model.tables.map (·.name)).Nodup)
    (distinctColumns : ∀ table ∈ scope.model.tables, (table.columns.map (·.name)).Nodup)
    {table : Table} (table_mem : table ∈ scope.model.tables) {column : Column} {place : Nat}
    (column_at : table.columns[place]? = some column)
    (follows : scope.profile.registry.Follows column) {types : SqlTypes}
    (found : scope.resolver.resolve table.toEntity column = .ok types) :
    ∃ address target targetColumn targetTypes,
      column.target? table.toEntity = some address ∧
        scope.model.resolve? address = some (target, targetColumn) ∧
        scope.resolver.resolve target.toEntity targetColumn = .ok targetTypes ∧
        targetTypes = types ∧
        (∀ hops last, scope.resolver.Chain hops ⟨table.toEntity, column⟩ last →
          scope.resolver.resolve last.entity last.column = .ok types) ∧
        ∃ definitions definition,
          Creates (scope.tableDefinition table).value
              (scope.naming.tableDefinitionName scope.schema table.name) definitions ∧
            definitions.length = table.columns.length ∧
            definitions[place]? = some definition ∧
            ∀ type, definition.line =
                scope.naming.tableColumnName column ++ " " ++ type ++ column.referenceClauses ↔
              type = targetTypes.reference := by
  obtain ⟨address, target, targetColumn, kind, refers, resolved, hop⟩ :=
    follows.exists_hop scope.resolver distinctTables (distinctColumns table table_mem) table_mem
      found
  refine ⟨address, target, targetColumn, types, refers, resolved, hop.resolve_next found, rfl, ?_,
    scope.columnDefinitions table, (scope.columnDefinition table column).value,
    scope.creates_tableDefinition_qualified table, by simp [columnDefinitions],
    by simp [columnDefinitions, column_at], ?_⟩
  · intro hops last chain
    exact chain.resolve_last found
  · intro type
    rw [line_columnDefinition_of_target? refers found]
    simp only [String.append_left_inj, String.append_right_inj]
    exact eq_comm

/-- A loan refers to a copy of a book through the column that refers to the book itself. Numbers
that the engine makes are `BIGSERIAL` where they are defined and `BIGINT` where they are referred
to. -/
theorem foreignKey_takes_reference_type_serial :
    let serial : Registration :=
      ⟨["attr.NumericIdentity"], .direct fun _ _ =>
        .ok { SqlTypes.uniform "BIGSERIAL" with reference := "BIGINT" }⟩
    let key : Column :=
      ⟨"BookKey", .numericIdentity, false, true, false, false, none, false, []⟩
    let original : Column :=
      ⟨"Original", .selfReference, true, false, false, false, none, false, []⟩
    let copied : Column :=
      ⟨"Copied", .relationship ⟨"Book", "Original"⟩, false, false, false, false,
        some (.integer 1), false, []⟩
    let book : Table := ⟨⟨"Book", [key, original]⟩, false, []⟩
    let loan : Table := ⟨⟨"Loan", [copied]⟩, false, []⟩
    let model : Model := { name := "library", tables := [book, loan] }
    let profile : Profile :=
      { Dialect.sqlite.toProfile with registry := ⟨serial :: TypeRegistry.ansi.registrations⟩ }
    let scope : Scope := ⟨model, profile⟩
    let types : SqlTypes := { SqlTypes.uniform "BIGSERIAL" with reference := "BIGINT" }
    (model.tables.map (·.name)).Nodup ∧
      (∀ table ∈ model.tables, (table.columns.map (·.name)).Nodup) ∧
      loan ∈ model.tables ∧
      loan.columns[0]? = some copied ∧
      profile.registry.Follows copied ∧
      scope.resolver.resolve loan.toEntity copied = .ok types ∧
      ∃ address target targetColumn targetTypes,
        copied.target? loan.toEntity = some address ∧
          model.resolve? address = some (target, targetColumn) ∧
          scope.resolver.resolve target.toEntity targetColumn = .ok targetTypes ∧
          targetTypes = types ∧
          (∀ hops last, scope.resolver.Chain hops ⟨loan.toEntity, copied⟩ last →
            scope.resolver.resolve last.entity last.column = .ok types) ∧
          ∃ definitions definition,
            Creates (scope.tableDefinition loan).value "LOAN" definitions ∧
              definitions.length = 1 ∧
              definitions[0]? = some definition ∧
              ∀ type, definition.line = "COPIED " ++ type ++ " NOT NULL DEFAULT 1" ↔
                type = targetTypes.reference := by
  intro serial key original copied book loan model profile scope types
  have distinctTables : (scope.model.tables.map (·.name)).Nodup := by
    simp [scope, model, book, loan]
  have distinctColumns : ∀ table ∈ scope.model.tables, (table.columns.map (·.name)).Nodup := by
    simp [scope, model, book, loan, key, original, copied]
  have loan_mem : loan ∈ scope.model.tables := by simp [scope, model]
  have copied_at : loan.columns[0]? = some copied := rfl
  have notEarlier : ∀ registration ∈ profile.registry.registrations.take 11,
      !registration.covers copied := by decide +kernel
  have first : profile.registry.find? copied = some ⟨["attr.Relationship"], .relationship⟩ :=
    List.find?_eq_some_iff_append.mpr ⟨by decide +kernel, _, _,
      (List.take_append_drop 11 profile.registry.registrations).symm, notEarlier⟩
  have follows : scope.profile.registry.Follows copied := .relationship rfl first rfl
  have found : scope.resolver.resolve loan.toEntity copied = .ok types := by
    decide +kernel
  have holds := foreignKey_takes_reference_type distinctTables distinctColumns loan_mem copied_at
    follows found
  have loan_name : scope.naming.tableDefinitionName scope.schema loan.name = "LOAN" := by
    decide +kernel
  have column_name : scope.naming.tableColumnName copied ++ " " = "COPIED " := by decide +kernel
  have clauses : copied.referenceClauses = " NOT NULL DEFAULT 1" := by decide +kernel
  rw [loan_name, column_name, clauses] at holds
  exact ⟨distinctTables, distinctColumns, loan_mem, copied_at, follows, found, holds⟩

end Scope

end SchemaCompiler
