import Mathlib.Data.List.Nodup
import SchemaCompiler.Dialect.Catalog

/-!
# Foreign keys

A foreign key names its own column, a table, and a column of that table. All three names are written
twice: in the constraint, and where the column or the table is created. This file shows that both
times they are the same. Every column line starts with the identifier of its column, whatever the
shape of the definition, the dialect and the naming strategy are, and the constraint takes its names
from the column, the table and the target themselves.
-/

namespace SchemaCompiler

/-! ## Resolved addresses -/

namespace Model

variable {model : Model} {address : ColumnRef} {target : Table} {targetColumn : Column}

/-- A resolved address leads to a column of a table of the model. -/
theorem mem_of_resolve? (resolved : model.resolve? address = some (target, targetColumn)) :
    target ∈ model.tables ∧ target.name = address.table ∧
      targetColumn ∈ target.columns ∧ targetColumn.name = address.column := by
  obtain ⟨table, found, column_found⟩ := Option.bind_eq_some_iff.mp resolved
  obtain ⟨column, named, pair_eq⟩ := Option.bind_eq_some_iff.mp column_found
  cases pair_eq
  refine ⟨List.mem_of_find?_eq_some found, ?_, List.mem_of_find?_eq_some named, ?_⟩
  · simpa using List.find?_some found
  · simpa using List.find?_some named

/-- With distinct names, a self reference leads back to its own table, and there to the primary key.
-/
theorem resolve?_selfReference {table : Table} {column : Column}
    (distinctTables : (model.tables.map (·.name)).Nodup)
    (distinctColumns : (table.columns.map (·.name)).Nodup) (table_mem : table ∈ model.tables)
    (self : column.kind = .selfReference) (refers : column.target? table.toEntity = some address)
    (resolved : model.resolve? address = some (target, targetColumn)) :
    target = table ∧ table.primaryKey? = some targetColumn := by
  obtain ⟨target_mem, target_name, targetColumn_mem, targetColumn_name⟩ := mem_of_resolve? resolved
  simp only [Column.target?, self, Option.map_eq_some_iff] at refers
  obtain ⟨key, key_found, rfl⟩ := refers
  have target_eq : target = table :=
    List.inj_on_of_nodup_map distinctTables target_mem table_mem target_name
  subst target
  have key_eq : targetColumn = key :=
    List.inj_on_of_nodup_map distinctColumns targetColumn_mem
      (List.mem_of_find?_eq_some key_found) targetColumn_name
  rw [key_eq]
  exact ⟨rfl, key_found⟩

end Model

/-! ## Lines of columns -/

namespace ColumnDefinition

/-- The line of a definition starts with an identifier. -/
def StartsWith (definition : ColumnDefinition) (identifier : String) : Prop :=
  ∃ rest, definition.line = identifier ++ " " ++ rest

end ColumnDefinition

namespace ColumnSlot

theorem startsWith_lineWith (slot : ColumnSlot) (type defaultClause : String)
    (constraint : Option String) :
    (ColumnDefinition.mk (slot.lineWith type defaultClause) constraint).StartsWith slot.name := by
  refine ⟨type ++ slot.primaryKeyClause ++ slot.notNullClause ++ defaultClause, ?_⟩
  simp only [lineWith, String.append_assoc]

end ColumnSlot

/-- The definitions of a dialect for identity columns start with the identifier. -/
def Profile.NamesIdentities (profile : Profile) : Prop :=
  ∀ kind slot, (profile.identityColumn kind slot).StartsWith slot.name

theorem Dialect.namesIdentities {dialect : Dialect} (builtIn : dialect ∈ Dialect.all)
    (naming : Naming) : (dialect.withNaming naming).NamesIdentities := by
  intro kind slot
  rcases Dialect.eq_named_or_eq_sqlite builtIn with ⟨name, aliases, _, rfl⟩ | rfl
  · refine ⟨"BIGSERIAL PRIMARY KEY", ?_⟩
    rw [String.append_assoc]
    rfl
  · cases kind with
    | native =>
        refine ⟨slot.types.definition ++ " PRIMARY KEY DEFAULT uuid_generate_v4 ()", ?_⟩
        rw [← String.append_assoc]
        rfl
    | numeric =>
        refine ⟨"INTEGER PRIMARY KEY AUTOINCREMENT", ?_⟩
        rw [String.append_assoc]
        rfl

/-- The engine does not make the values of a column that refers to another one. -/
theorem Column.identityKind?_of_target? {column : Column} {entity : Entity} {address : ColumnRef}
    (refers : column.target? entity = some address) : column.identityKind? = none := by
  cases kind : column.kind <;> simp_all [target?, identityKind?]

namespace Scope

variable {scope : Scope} {table : Table} {column : Column}

theorem value_columnDefinition_of_identity {kind : IdentityKind}
    (identity : column.identityKind? = some kind) :
    (scope.columnDefinition table column).value =
      scope.profile.identityColumn kind (scope.slot table column).value := by
  rw [columnDefinition, Generated.value_map, slot, Generated.value_map]
  simp only [definition, identity]

theorem value_columnDefinition_of_not_identity (notIdentity : column.identityKind? = none) :
    (scope.columnDefinition table column).value =
      scope.plainDefinition (scope.slot table column).value := by
  rw [columnDefinition, Generated.value_map, slot, Generated.value_map]
  simp only [definition, notIdentity]

theorem startsWith_plainDefinition (scope : Scope) (slot : ColumnSlot) :
    (scope.plainDefinition slot).StartsWith slot.name := by
  rw [plainDefinition]
  split
  · exact slot.startsWith_lineWith _ _ _
  · split <;> exact slot.startsWith_lineWith _ _ _

/-- A column line starts with the identifier of its column. -/
theorem startsWith_columnDefinition (identities : scope.profile.NamesIdentities) (table : Table)
    (column : Column) :
    (scope.columnDefinition table column).value.StartsWith
      (scope.naming.tableColumnName column) := by
  rw [columnDefinition, Generated.value_map, slot, Generated.value_map, definition]
  split
  · exact identities _ _
  · exact startsWith_plainDefinition scope _

/-- The constraint of a column with a resolved reference. -/
theorem constraint_columnDefinition {address : ColumnRef} {target : Table} {targetColumn : Column}
    (refers : column.target? table.toEntity = some address)
    (resolved : scope.model.resolve? address = some (target, targetColumn)) :
    (scope.columnDefinition table column).value.constraint =
      some ("FOREIGN KEY (" ++ scope.naming.tableColumnName column ++ ") REFERENCES "
        ++ scope.naming.tableName target.name ++ "(" ++ scope.naming.tableColumnName targetColumn
        ++ ")") := by
  have notIdentity := Column.identityKind?_of_target? refers
  have target_name := (Model.mem_of_resolve? resolved).2.1
  rw [columnDefinition, Generated.value_map, slot, Generated.value_map]
  simp only [definition, notIdentity, plainDefinition, ColumnSlot.target?, refers,
    referenceDefinition, targetName, resolved, target_name]

end Scope

/-! ## Tables -/

/-- A text that creates a table under a name, with a line for each of its columns in order, followed
by the constraints that the columns contribute. -/
def Creates (text name : String) (definitions : List ColumnDefinition) : Prop :=
  text = "CREATE TABLE IF NOT EXISTS " ++ name ++ " (\n"
    ++ ",\n".intercalate
      ((definitions.map (·.line) ++ definitions.filterMap (·.constraint)).map ("    " ++ ·))
    ++ "\n);"

namespace Scope

variable {scope : Scope}

/-- The definitions of the columns of a table. -/
def columnDefinitions (scope : Scope) (table : Table) : List ColumnDefinition :=
  table.columns.map fun column => (scope.columnDefinition table column).value

theorem creates_tableDefinition_qualified (scope : Scope) (table : Table) :
    Creates (scope.tableDefinition table).value
      (scope.naming.tableDefinitionName scope.schema table.name)
      (scope.columnDefinitions table) := by
  rw [tableDefinition, Generated.value_map, Generated.value_each]
  rfl

theorem creates_tableDefinition (scope : Scope)
    (unqualified : scope.naming.qualification.tables = .objectOnly) (table : Table) :
    Creates (scope.tableDefinition table).value (scope.naming.tableName table.name)
      (scope.columnDefinitions table) := by
  have name_eq : scope.naming.tableDefinitionName scope.schema table.name =
      scope.naming.tableName table.name := by
    simp only [Naming.tableDefinitionName, Naming.definitionName, Qualification.qualify,
      Qualification.form, unqualified]
  rw [← name_eq]
  exact scope.creates_tableDefinition_qualified table

/-- The definition of a column stands in the place of the column. -/
theorem getElem?_columnDefinitions (identities : scope.profile.NamesIdentities) {table : Table}
    {column : Column} {place : Nat} (column_at : table.columns[place]? = some column) :
    ∃ rest, (scope.columnDefinitions table)[place]? =
      some ⟨scope.naming.tableColumnName column ++ " " ++ rest,
        (scope.columnDefinition table column).value.constraint⟩ := by
  obtain ⟨rest, line_eq⟩ := startsWith_columnDefinition identities table column
  refine ⟨rest, ?_⟩
  rw [columnDefinitions, List.getElem?_map, column_at, Option.map_some, Option.some_inj]
  exact congrArg (ColumnDefinition.mk · _) line_eq

/-- A foreign key names what is created: in the constraint of a column stand the identifier with
which the line of the column starts, the name under which the target table is created, and the
identifier with which the line of the target column starts there. A self reference leads to the
primary key of its own table. -/
theorem foreignKey_names_created {dialect : Dialect} (builtIn : dialect ∈ Dialect.all)
    {naming : Naming} (unqualified : naming.qualification.tables = .objectOnly) {model : Model}
    (distinctTables : (model.tables.map (·.name)).Nodup)
    (distinctColumns : ∀ table ∈ model.tables, (table.columns.map (·.name)).Nodup)
    {table : Table} (table_mem : table ∈ model.tables) {column : Column} {place : Nat}
    (column_at : table.columns[place]? = some column) {address : ColumnRef}
    (refers : column.target? table.toEntity = some address) {target : Table}
    {targetColumn : Column} (resolved : model.resolve? address = some (target, targetColumn)) :
    let scope := (dialect.withNaming naming).scope model
    let source := naming.tableColumnName column
    let referenced := naming.tableColumnName targetColumn
    let targetName := naming.tableName target.name
    (∃ (definitions : List ColumnDefinition) (rest : String),
        Creates (scope.tableDefinition table).value (naming.tableName table.name) definitions ∧
          definitions.length = table.columns.length ∧
          definitions[place]? = some ⟨source ++ " " ++ rest,
            some ("FOREIGN KEY (" ++ source ++ ") REFERENCES " ++ targetName ++ "(" ++ referenced
              ++ ")")⟩) ∧
      target ∈ model.tables ∧
      (∃ (definitions : List ColumnDefinition) (targetPlace : Nat) (rest : String)
          (constraint : Option String),
        Creates (scope.tableDefinition target).value targetName definitions ∧
          definitions.length = target.columns.length ∧
          target.columns[targetPlace]? = some targetColumn ∧
          definitions[targetPlace]? = some ⟨referenced ++ " " ++ rest, constraint⟩) ∧
      (column.kind = .selfReference → target = table ∧ table.primaryKey? = some targetColumn) := by
  intro scope source referenced targetName
  obtain ⟨target_mem, _, targetColumn_mem, _⟩ := Model.mem_of_resolve? resolved
  have identities : scope.profile.NamesIdentities := Dialect.namesIdentities builtIn naming
  refine ⟨?_, target_mem, ?_, ?_⟩
  · obtain ⟨rest, definition_at⟩ := getElem?_columnDefinitions identities column_at
    refine ⟨_, rest, scope.creates_tableDefinition unqualified table, ?_, ?_⟩
    · simp [columnDefinitions]
    · rw [definition_at, constraint_columnDefinition refers resolved]
      rfl
  · obtain ⟨targetPlace, targetColumn_at⟩ := List.getElem?_of_mem targetColumn_mem
    obtain ⟨rest, definition_at⟩ := getElem?_columnDefinitions identities targetColumn_at
    exact ⟨_, targetPlace, rest, _, scope.creates_tableDefinition unqualified target,
      by simp [columnDefinitions], targetColumn_at, definition_at⟩
  · intro self
    exact Model.resolve?_selfReference distinctTables (distinctColumns table table_mem) table_mem
      self refers resolved

/-- A column that refers to its own table, named by a strategy that wraps another one twice. -/
theorem foreignKey_names_created_self :
    let key : Column :=
      ⟨"CategoryKey", .numericIdentity, false, true, false, false, none, false, []⟩
    let column : Column :=
      ⟨"ParentCategory", .selfReference, true, false, false, false, none, false, []⟩
    let table : Table := ⟨⟨"BookCategory", [key, column]⟩, false, []⟩
    let model : Model := { name := "library", tables := [table] }
    let naming : Naming := .commonKey (.commonKey .uppercase)
    let address : ColumnRef := ⟨"BookCategory", "CategoryKey"⟩
    let scope := (Dialect.sqlite.withNaming naming).scope model
    Dialect.sqlite ∈ Dialect.all ∧
      naming.qualification.tables = .objectOnly ∧
      (model.tables.map (·.name)).Nodup ∧
      (∀ table ∈ model.tables, (table.columns.map (·.name)).Nodup) ∧
      table ∈ model.tables ∧
      table.columns[1]? = some column ∧
      column.target? table.toEntity = some address ∧
      model.resolve? address = some (table, key) ∧
      naming.tableColumnName column = "PARENT_CATEGORY" ∧
      naming.tableName table.name = "BOOK_CATEGORY" ∧
      naming.tableColumnName key = "ID" ∧
      (∃ (definitions : List ColumnDefinition) (rest : String),
        Creates (scope.tableDefinition table).value (naming.tableName table.name) definitions ∧
          definitions.length = table.columns.length ∧
          definitions[1]? = some ⟨naming.tableColumnName column ++ " " ++ rest,
            some ("FOREIGN KEY (" ++ naming.tableColumnName column ++ ") REFERENCES "
              ++ naming.tableName table.name ++ "(" ++ naming.tableColumnName key ++ ")")⟩) ∧
      (∃ (definitions : List ColumnDefinition) (targetPlace : Nat) (rest : String)
          (constraint : Option String),
        Creates (scope.tableDefinition table).value (naming.tableName table.name) definitions ∧
          definitions.length = table.columns.length ∧
          table.columns[targetPlace]? = some key ∧
          definitions[targetPlace]? = some ⟨naming.tableColumnName key ++ " " ++ rest,
            constraint⟩) ∧
      table.primaryKey? = some key := by
  intro key column table model naming address scope
  have builtIn : Dialect.sqlite ∈ Dialect.all := by simp [Dialect.all]
  have distinctTables : (model.tables.map (·.name)).Nodup := by simp [model]
  have distinctColumns : ∀ table ∈ model.tables, (table.columns.map (·.name)).Nodup := by
    simp [model, table, key, column]
  have table_mem : table ∈ model.tables := List.mem_cons_self
  have unqualified : naming.qualification.tables = .objectOnly := rfl
  have column_at : table.columns[1]? = some column := rfl
  have refers : column.target? table.toEntity = some address := rfl
  have resolved : model.resolve? address = some (table, key) := rfl
  obtain ⟨created, _, referenced, self⟩ := foreignKey_names_created builtIn unqualified
    distinctTables distinctColumns table_mem column_at refers resolved
  exact ⟨builtIn, unqualified, distinctTables, distinctColumns, table_mem, column_at, refers,
    resolved, by decide +kernel, by decide +kernel, by decide +kernel, created, referenced,
    (self rfl).2⟩

end Scope

end SchemaCompiler
