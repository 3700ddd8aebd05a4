import SchemaCompiler.Proofs.Definition.PrimaryKey
import SchemaCompiler.Proofs.Text.Lines

/-!
# Lines of a table definition

The definition of a table has a line for each column, in the order of the columns, and after them a
line for each constraint, in the order of the columns that contribute it. This file reads the lines
off the text: as long as the names, types and defaults that go into it have no line break, every
part of it stands on one line, and the commas between the parts end the lines.

What a dialect writes for its identity columns is the only part that the generator does not put
together by itself. The built-in dialects break no line there, and give these columns no constraint.
-/

namespace SchemaCompiler

open Text (OneLine)

/-! ## Listed items -/

/-- Items on lines of their own, indented by four blanks, with a comma at the end of every line but
the last. -/
def listedLines : List String → List String
  | [] => []
  | [item] => ["    " ++ item]
  | item :: next :: rest => ("    " ++ item ++ ",") :: listedLines (next :: rest)

theorem listedLines_ne_nil {items : List String} (items_ne : items ≠ []) :
    listedLines items ≠ [] := by
  match items with
  | [_] | _ :: _ :: _ => exact List.cons_ne_nil _ _

theorem intercalate_listedLines (items : List String) :
    "\n".intercalate (listedLines items) = ",\n".intercalate (items.map ("    " ++ ·)) := by
  fun_induction listedLines items with
  | case1 => rfl
  | case2 item => simp
  | case3 item next rest ih =>
      have separator : "," ++ "\n" = ",\n" := by decide
      rw [String.intercalate_cons_of_ne_nil (listedLines_ne_nil (List.cons_ne_nil _ _)), ih]
      simp only [List.map_cons, String.intercalate_cons_cons, String.append_assoc, ← separator]

theorem oneLine_listedLines {items : List String} (oneLine : ∀ item ∈ items, OneLine item) :
    ∀ line ∈ listedLines items, OneLine line := by
  have indent : OneLine "    " := by decide
  have comma : OneLine "," := by decide
  fun_induction listedLines items with
  | case1 => simp
  | case2 item => simpa [indent] using oneLine
  | case3 item next rest ih =>
      rw [List.forall_mem_cons] at oneLine
      exact List.forall_mem_cons.mpr ⟨by simp [indent, comma, oneLine.1], ih oneLine.2⟩

/-! ## Parts of a table definition -/

/-- A definition that stands on one line, as does its constraint. -/
structure ColumnDefinition.OnOneLine (definition : ColumnDefinition) : Prop where
  line : OneLine definition.line
  constraint : ∀ constraint ∈ definition.constraint, OneLine constraint

/-- The text of a table definition has the lines of its parts. -/
theorem Creates.lines_eq {text name : String} {definitions : List ColumnDefinition}
    (creates : Creates text name definitions) (definitions_ne : definitions ≠ [])
    (name_oneLine : OneLine name)
    (oneLine : ∀ definition ∈ definitions, definition.OnOneLine) :
    Text.lines text =
      ("CREATE TABLE IF NOT EXISTS " ++ name ++ " (")
        :: listedLines (definitions.map (·.line) ++ definitions.filterMap (·.constraint))
        ++ [");"] := by
  let parts := definitions.map (·.line) ++ definitions.filterMap (·.constraint)
  have parts_ne : parts ≠ [] := by simp [parts, definitions_ne]
  have parts_oneLine : ∀ part ∈ parts, OneLine part := by
    intro part part_mem
    rcases List.mem_append.mp part_mem with line_mem | constraint_mem
    · obtain ⟨definition, definition_mem, rfl⟩ := List.mem_map.mp line_mem
      exact (oneLine definition definition_mem).line
    · obtain ⟨definition, definition_mem, constraint_eq⟩ := List.mem_filterMap.mp constraint_mem
      exact (oneLine definition definition_mem).constraint part constraint_eq
  have opening : OneLine ("CREATE TABLE IF NOT EXISTS " ++ name ++ " (") := by
    simp only [Text.oneLine_append]
    exact ⟨⟨by decide, name_oneLine⟩, by decide⟩
  have joined : text = "\n".intercalate
      (("CREATE TABLE IF NOT EXISTS " ++ name ++ " (") :: listedLines parts ++ [");"]) := by
    have opened : " (" ++ "\n" = " (\n" := by decide
    have closed : "\n" ++ ");" = "\n);" := by decide
    rw [creates, List.cons_append, String.intercalate_cons_of_ne_nil (by simp),
      String.intercalate_append_of_ne_nil (listedLines_ne_nil parts_ne) (List.cons_ne_nil _ _),
      intercalate_listedLines, String.intercalate_singleton]
    simp only [String.append_assoc, ← opened, ← closed, parts]
  rw [joined]
  apply Text.lines_intercalate (by simp)
  intro line line_mem
  rw [List.cons_append, List.mem_cons, List.mem_append, List.mem_singleton] at line_mem
  rcases line_mem with rfl | line_mem | rfl
  · exact opening
  · exact oneLine_listedLines parts_oneLine line line_mem
  · decide

namespace ColumnSlot

theorem onOneLine_lineWith {slot : ColumnSlot} {type defaultClause : String}
    (name_oneLine : OneLine slot.name) (type_oneLine : OneLine type)
    (default_oneLine : OneLine defaultClause) :
    (ColumnDefinition.mk (slot.lineWith type defaultClause) none).OnOneLine := by
  have key_oneLine : OneLine slot.primaryKeyClause := by
    rw [primaryKeyClause]
    split <;> decide
  have notNull_oneLine : OneLine slot.notNullClause := by
    rw [notNullClause]
    split <;> decide
  have blank : OneLine " " := by decide
  refine ⟨?_, fun constraint constraint_mem => ?_⟩
  · simp only [lineWith, Text.oneLine_append]
    exact ⟨⟨⟨⟨⟨name_oneLine, blank⟩, type_oneLine⟩, key_oneLine⟩, notNull_oneLine⟩,
      default_oneLine⟩
  · cases constraint_mem

end ColumnSlot

namespace Scope

variable {scope : Scope} {table : Table} {column : Column}

theorem onOneLine_referenceDefinition {address : ColumnRef} (avoids : scope.Avoids "\n" table)
    (column_mem : column ∈ table.columns) (refers : column.target? table.toEntity = some address) :
    (scope.referenceDefinition (scope.slot table column).value address).OnOneLine := by
  have name_oneLine : OneLine (scope.naming.tableColumnName column) :=
    Text.oneLine_of_not_shows (avoids.columnName column column_mem)
  have supplier_oneLine :
      OneLine (column.supplier.elim "" fun value => " DEFAULT " ++ value.expression) := by
    cases supplied : column.supplier with
    | none => decide
    | some value =>
        rw [Option.elim_some, Text.oneLine_append]
        exact ⟨by decide,
          Text.oneLine_of_not_shows (avoids.supplier column column_mem value supplied)⟩
  have target_oneLine : OneLine (scope.naming.tableName address.table) :=
    Text.oneLine_of_not_shows (avoids.targetTable column column_mem address refers)
  have targetColumn_oneLine : OneLine (scope.targetName address) :=
    Text.oneLine_of_not_shows (avoids.targetColumn column column_mem address refers)
  refine ⟨?_, ?_⟩
  · exact (ColumnSlot.onOneLine_lineWith name_oneLine
      (Text.oneLine_of_not_shows (avoids.reference column column_mem)) supplier_oneLine).line
  · intro constraint constraint_eq
    obtain rfl := Option.some.inj constraint_eq
    simp only [Text.oneLine_append]
    exact ⟨⟨⟨⟨⟨⟨by decide, name_oneLine⟩, by decide⟩, target_oneLine⟩, by decide⟩,
      targetColumn_oneLine⟩, by decide⟩

theorem onOneLine_plainDefinition (avoids : scope.Avoids "\n" table)
    (column_mem : column ∈ table.columns) :
    (scope.plainDefinition (scope.slot table column).value).OnOneLine := by
  have without {clause : String} (clause_oneLine : OneLine clause) :
      (ColumnDefinition.mk ((scope.slot table column).value.lineWith
        (scope.slot table column).value.types.definition clause) none).OnOneLine :=
    ColumnSlot.onOneLine_lineWith
      (Text.oneLine_of_not_shows (avoids.columnName column column_mem))
      (Text.oneLine_of_not_shows (avoids.definition column column_mem)) clause_oneLine
  rw [plainDefinition]
  split
  · rename_i address refers
    exact onOneLine_referenceDefinition avoids column_mem refers
  · split <;> apply without
    · split <;> decide
    · split <;> decide
    · split <;> decide
    · split <;> decide
    · decide

end Scope

/-! ## Identity columns -/

/-- Identity columns are defined as in one of the built-in dialects. -/
def Profile.DefinesBuiltInIdentities (profile : Profile) : Prop :=
  ∃ dialect ∈ Dialect.all, profile.identityColumn = dialect.identityColumn

namespace Profile.DefinesBuiltInIdentities

variable {profile : Profile}

theorem namesIdentities (builtIn : profile.DefinesBuiltInIdentities) : profile.NamesIdentities := by
  obtain ⟨dialect, dialect_mem, same⟩ := builtIn
  intro kind slot
  rw [same]
  exact Dialect.namesIdentities dialect_mem dialect.naming kind slot

theorem constraint_eq_none (builtIn : profile.DefinesBuiltInIdentities) (kind : IdentityKind)
    (slot : ColumnSlot) : (profile.identityColumn kind slot).constraint = none := by
  obtain ⟨dialect, dialect_mem, same⟩ := builtIn
  rw [same]
  exact (Dialect.keysIdentities dialect_mem dialect.naming).constraint kind slot

theorem onOneLine (builtIn : profile.DefinesBuiltInIdentities) (kind : IdentityKind)
    {slot : ColumnSlot} (name_oneLine : OneLine slot.name)
    (type_oneLine : OneLine slot.types.definition) :
    (profile.identityColumn kind slot).OnOneLine := by
  refine ⟨?_, ?_⟩
  · obtain ⟨dialect, dialect_mem, same⟩ := builtIn
    rw [same]
    rcases Dialect.eq_named_or_eq_sqlite dialect_mem with ⟨name, aliases, naming, rfl⟩ | rfl
    · exact Text.oneLine_append.mpr ⟨name_oneLine, by decide⟩
    · cases kind with
      | native =>
          simp only [Dialect.sqlite, Dialect.Sqlite.identityColumn, Text.oneLine_append]
          exact ⟨⟨⟨name_oneLine, by decide⟩, type_oneLine⟩, by decide⟩
      | numeric => exact Text.oneLine_append.mpr ⟨name_oneLine, by decide⟩
  · intro constraint constraint_mem
    rw [builtIn.constraint_eq_none] at constraint_mem
    cases constraint_mem

end Profile.DefinesBuiltInIdentities

namespace Scope

variable {scope : Scope} {table : Table} {column : Column}

/-- In a built-in dialect, the columns that contribute a constraint are those that refer to another
column. -/
theorem isSome_constraint_columnDefinition (builtIn : scope.profile.DefinesBuiltInIdentities)
    (table : Table) (column : Column) :
    (scope.columnDefinition table column).value.constraint.isSome =
      (column.target? table.toEntity).isSome := by
  cases identity : column.identityKind? with
  | some kind =>
      have refersNowhere : column.target? table.toEntity = none := by
        by_contra refers
        obtain ⟨address, refers⟩ := Option.ne_none_iff_exists'.mp refers
        rw [Column.identityKind?_of_target? refers] at identity
        cases identity
      rw [value_columnDefinition_of_identity identity, builtIn.constraint_eq_none, refersNowhere]
      rfl
  | none =>
      rw [value_columnDefinition_of_not_identity identity, constraint_plainDefinition, slot,
        Generated.value_map, ColumnSlot.target?]
      cases column.target? table.toEntity <;> rfl

theorem onOneLine_columnDefinition (avoids : scope.Avoids "\n" table)
    (identities : scope.profile.DefinesBuiltInIdentities ∨
      ∀ column ∈ table.columns, column.identityKind?.isSome →
        (scope.columnDefinition table column).value.OnOneLine)
    (column_mem : column ∈ table.columns) :
    (scope.columnDefinition table column).value.OnOneLine := by
  cases identity : column.identityKind? with
  | some kind =>
      rcases identities with builtIn | oneLine
      · rw [value_columnDefinition_of_identity identity]
        exact builtIn.onOneLine kind
          (Text.oneLine_of_not_shows (avoids.columnName column column_mem))
          (Text.oneLine_of_not_shows (avoids.definition column column_mem))
      · exact oneLine column column_mem (by simp [identity])
  | none =>
      rw [value_columnDefinition_of_not_identity identity]
      exact onOneLine_plainDefinition avoids column_mem

/-- If the names, types and defaults of a table have no line break, its definition has one line for
each column in order, and then one line for each constraint in the order of the columns. A dialect
that is not built in must not break lines in what it writes for identity columns either. In the
built-in dialects, the columns with a constraint are those that refer to another column, and each
line of a column starts with its identifier. -/
theorem columns_then_constraints_on_lines {scope : Scope} {table : Table}
    (columns_ne : table.columns ≠ []) (avoids : scope.Avoids "\n" table)
    (identities : scope.profile.DefinesBuiltInIdentities ∨
      ∀ column ∈ table.columns, column.identityKind?.isSome →
        (scope.columnDefinition table column).value.OnOneLine) :
    let definitions := table.columns.map fun column => (scope.columnDefinition table column).value
    Text.lines (scope.tableDefinition table).value =
        ("CREATE TABLE IF NOT EXISTS "
            ++ scope.naming.tableDefinitionName scope.schema table.name ++ " (")
          :: listedLines (definitions.map (·.line) ++ definitions.filterMap (·.constraint))
          ++ [");"] ∧
      (scope.profile.DefinesBuiltInIdentities → ∀ column ∈ table.columns,
        (scope.columnDefinition table column).value.constraint.isSome =
            (column.target? table.toEntity).isSome ∧
          (scope.columnDefinition table column).value.StartsWith
            (scope.naming.tableColumnName column)) := by
  intro definitions
  refine ⟨?_, ?_⟩
  · apply (scope.creates_tableDefinition_qualified table).lines_eq
    · simpa [columnDefinitions] using columns_ne
    · exact Text.oneLine_of_not_shows avoids.tableName
    · rw [columnDefinitions, List.forall_mem_map]
      exact fun column column_mem => onOneLine_columnDefinition avoids identities column_mem
  · intro builtIn column _
    exact ⟨isSome_constraint_columnDefinition builtIn table column,
      startsWith_columnDefinition builtIn.namesIdentities table column⟩

/-- A loan renews an earlier one. Its own key is made by the engine, and two of its columns refer to
others. -/
theorem columns_then_constraints_on_lines_loan :
    let key : Column := { name := "key", kind := .nativeIdentity, primaryKey := true }
    let renewed : Column := { name := "renewed", kind := .selfReference, nullable := true }
    let due : Column := { name := "dueOn", kind := .date, defaultsToNow := true }
    let book : Column := {
      name := "book", kind := .relationship ⟨"Book", "isbn"⟩, supplier := some (.text "none") }
    let isbn : Column := { name := "isbn", kind := .textIdentity 13, primaryKey := true }
    let loan : Table := ⟨⟨"Loan", [key, renewed, due, book]⟩, false, []⟩
    let books : Table := ⟨⟨"Book", [isbn]⟩, false, []⟩
    let scope := Dialect.sqlite.scope { name := "library", tables := [loan, books] }
    loan.columns ≠ [] ∧ scope.Avoids "\n" loan ∧ scope.profile.DefinesBuiltInIdentities ∧
      Text.lines (scope.tableDefinition loan).value =
        ["CREATE TABLE IF NOT EXISTS LOAN (",
          "    KEY UUID PRIMARY KEY DEFAULT uuid_generate_v4 (),",
          "    RENEWED UUID,",
          "    DUE_ON DATE NOT NULL DEFAULT CURRENT_DATE,",
          "    BOOK VARCHAR(13) NOT NULL DEFAULT 'none',",
          "    FOREIGN KEY (RENEWED) REFERENCES LOAN(KEY),",
          "    FOREIGN KEY (BOOK) REFERENCES BOOK(ISBN)",
          ");"] ∧
      (scope.columnDefinition loan book).value.constraint.isSome ∧
      (scope.columnDefinition loan due).value.constraint.isSome = false ∧
      (scope.columnDefinition loan due).value.StartsWith "DUE_ON" := by
  intro key renewed due book isbn loan books scope
  have columns_ne : loan.columns ≠ [] := List.cons_ne_nil _ _
  have avoids : scope.Avoids "\n" loan := by
    refine ⟨?_, ?_, ?_, ?_, ?_, ?_, ?_⟩ <;> decide +kernel
  have builtIn : scope.profile.DefinesBuiltInIdentities :=
    ⟨Dialect.sqlite, by simp [Dialect.all], rfl⟩
  obtain ⟨lines_eq, columns⟩ := columns_then_constraints_on_lines columns_ne avoids (.inl builtIn)
  have book_column := (columns builtIn book (by simp [loan])).1
  obtain ⟨due_constraint, due_starts⟩ := columns builtIn due (by simp [loan])
  have due_name : scope.naming.tableColumnName due = "DUE_ON" := by decide +kernel
  rw [due_name] at due_starts
  refine ⟨columns_ne, avoids, builtIn, lines_eq.trans ?_, book_column, due_constraint, due_starts⟩
  decide +kernel

end Scope

end SchemaCompiler
