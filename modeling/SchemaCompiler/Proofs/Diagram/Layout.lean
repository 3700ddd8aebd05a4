import Mathlib.Data.List.Forall2
import SchemaCompiler.Diagram

/-!
# Layout of a diagram

A diagram has a block for each table that is drawn, and behind the blocks the connectors. A block
begins with a line that introduces the identifier of its table. In it stands a line for the primary
key, if there is one, and then a line for each other column that is drawn. What such a line shows
follows from the column and the model alone (`ShowsColumn`). Only the lines of columns can fail, so
what a diagram records is what was recorded for them.
-/

namespace SchemaCompiler

namespace Diagram

/-- A text that draws the blocks and the connectors of a model. -/
def Draws (text name : String) (blocks : List (List String)) (connectors : List String) : Prop :=
  text = "\n".intercalate
    (["@startuml " ++ name] ++ settingLines ++ blocks.flatten
      ++ (if connectors.isEmpty then [] else "" :: connectors) ++ ["@enduml"])

/-- A block that introduces an identifier in its first line. -/
def Introduces (block : List String) (identifier : String) : Prop :=
  ∃ enumeration : Bool, block.head? =
    some ("  entity \"" ++ (if enumeration then "Enum " else "") ++ identifier ++ "\" as "
      ++ identifier ++ " \x7b")

/-- The columns that are drawn in the block of a table. -/
def shownColumns (diagram : Diagram) (table : Table) : List Column :=
  table.primaryKey?.toList ++ diagram.drawnColumns table

/-! ## Columns -/

/-- The type that is shown for a column: the one for references if it refers to another column, its
own one if not, or the comment that explains why there is none. -/
inductive ShowsType (scope : Scope) (table : Table) (column : Column) : String → Prop
  | reference {types : SqlTypes} {address : ColumnRef}
      (resolved : scope.resolver.resolve table.toEntity column = .ok types)
      (refers : column.target? table.toEntity = some address) :
      ShowsType scope table column types.reference
  | own {types : SqlTypes}
      (resolved : scope.resolver.resolve table.toEntity column = .ok types)
      (free : column.target? table.toEntity = none) :
      ShowsType scope table column types.definition
  | failure {diagnostic : Diagnostic}
      (failed : scope.resolver.resolve table.toEntity column = .error diagnostic) :
      ShowsType scope table column diagnostic.asComment

/-- The mark of a column that refers to another one: to its own table, to an enumeration, or to any
other table. -/
inductive ShowsReference (scope : Scope) (table : Table) (column : Column) : String → Prop
  | self (isSelf : column.kind = .selfReference) : ShowsReference scope table column " <<SELF>>"
  | none (notSelf : column.kind ≠ .selfReference)
      (free : column.target? table.toEntity = none) : ShowsReference scope table column ""
  | enumeration {address : ColumnRef} {target : Table} (notSelf : column.kind ≠ .selfReference)
      (refers : column.target? table.toEntity = some address)
      (found : scope.model.table? address.table = some target) (marked : target.enumeration) :
      ShowsReference scope table column
        (" <<ENUM(" ++ scope.naming.tableName address.table ++ ")>> ")
  | foreignKey {address : ColumnRef} (notSelf : column.kind ≠ .selfReference)
      (refers : column.target? table.toEntity = some address)
      (unmarked : ∀ target, scope.model.table? address.table = some target →
        ¬target.enumeration) :
      ShowsReference scope table column
        (" <<FK(" ++ scope.naming.tableName address.table ++ ")>>")

/-- A line that shows a column: a star if it needs a value, its identifier, emphasised if it is a
primary key, its type and its reference. -/
def ShowsColumn (scope : Scope) (table : Table) (column : Column) (line : String) : Prop :=
  let identifier := scope.naming.tableColumnName column
  ∃ type reference, ShowsType scope table column type ∧
    ShowsReference scope table column reference ∧
      line = "    " ++ (if column.nullable then "" else "*") ++ " "
        ++ (if column.primaryKey then "**" ++ identifier ++ "**" else identifier)
        ++ ": " ++ type ++ reference

/-- A block that shows a key, if there is one, and other columns, each on one line. -/
def ShowsBlock (scope : Scope) (table : Table) (key : Option Column) (others : List Column)
    (block : List String) : Prop :=
  ∃ opening keyLines otherLines,
    block = [opening] ++ (keyLines.flatMap fun line => [line, "    --"]) ++ otherLines
      ++ backReferenceLines table ++ ["  \x7d"] ∧
    List.Forall₂ (ShowsColumn scope table) key.toList keyLines ∧
      List.Forall₂ (ShowsColumn scope table) others otherLines

variable {diagram : Diagram} {table : Table} {column : Column}

theorem showsType_shownType (scope : Scope) (table : Table) (column : Column) :
    ShowsType scope table column
      (shownType (scope.types table.toEntity column).value (column.target? table.toEntity)) := by
  rw [Scope.types, TypeResolver.types]
  cases resolved : scope.resolver.resolve table.toEntity column with
  | ok types =>
      cases refers : column.target? table.toEntity with
      | none => exact .own resolved refers
      | some address => exact .reference resolved refers
  | error diagnostic =>
      cases column.target? table.toEntity <;> exact .failure resolved

theorem showsReference_stereotype (diagram : Diagram) (table : Table) (column : Column) :
    ShowsReference diagram.scope table column
      (diagram.stereotype column (column.target? table.toEntity)) := by
  unfold stereotype
  split
  · rename_i isSelf
    exact .self isSelf
  · rename_i free notSelf
    exact .none notSelf free
  · rename_i address refers notSelf
    cases found : diagram.scope.model.table? address.table with
    | none =>
        rw [Option.any_none, if_neg Bool.false_ne_true]
        exact .foreignKey notSelf refers (by simp [found])
    | some target =>
        rw [Option.any_some]
        split
        · rename_i marked
          exact .enumeration notSelf refers found marked
        · rename_i unmarked
          exact .foreignKey notSelf refers (by simpa [found] using unmarked)

theorem showsColumn_columnLine (diagram : Diagram) (table : Table) (column : Column) :
    ShowsColumn diagram.scope table column (diagram.columnLine table column).value :=
  ⟨_, _, showsType_shownType diagram.scope table column,
    diagram.showsReference_stereotype table column, rfl⟩

/-! ## Blocks -/

theorem value_block (diagram : Diagram) (table : Table) :
    (diagram.block table).value =
      [diagram.openingLine table]
        ++ (table.primaryKey?.toList.flatMap fun key =>
          [(diagram.columnLine table key).value, rule])
        ++ (diagram.drawnColumns table).map (fun column => (diagram.columnLine table column).value)
        ++ backReferenceLines table ++ ["  \x7d"] := by
  have key_eq : (diagram.keyLines table).value =
      table.primaryKey?.toList.flatMap fun key => [(diagram.columnLine table key).value, rule] := by
    rw [keyLines]
    cases table.primaryKey? <;> rfl
  simp only [block, Generated.value_bind, Generated.value_each, Generated.value_pure, key_eq]

theorem diagnostics_block (diagram : Diagram) (table : Table) :
    (diagram.block table).diagnostics =
      (diagram.shownColumns table).flatMap fun column =>
        (diagram.columnLine table column).diagnostics := by
  have key_eq : (diagram.keyLines table).diagnostics =
      table.primaryKey?.toList.flatMap fun key => (diagram.columnLine table key).diagnostics := by
    rw [keyLines]
    cases table.primaryKey? <;> simp
  simp only [block, Generated.diagnostics_bind, Generated.diagnostics_each,
    Generated.diagnostics_pure, List.append_nil, key_eq, shownColumns, List.flatMap_append]

theorem columnLine_mem_block (shown : column ∈ diagram.shownColumns table) :
    (diagram.columnLine table column).value ∈ (diagram.block table).value := by
  rw [value_block]
  simp only [List.mem_append]
  rcases List.mem_append.mp shown with isKey | other
  · exact .inl (.inl (.inl (.inr (List.mem_flatMap.mpr ⟨column, isKey, List.mem_cons_self⟩))))
  · exact .inl (.inl (.inr (List.mem_map_of_mem other)))

theorem showsBlock_block (diagram : Diagram) (table : Table) :
    ShowsBlock diagram.scope table table.primaryKey? (diagram.drawnColumns table)
      (diagram.block table).value := by
  have shows (columns : List Column) : List.Forall₂ (ShowsColumn diagram.scope table) columns
      (columns.map fun column => (diagram.columnLine table column).value) := by
    rw [List.forall₂_map_right_iff, List.forall₂_same]
    exact fun column _ => diagram.showsColumn_columnLine table column
  refine ⟨diagram.openingLine table, _, _, ?_, shows _, shows _⟩
  rw [value_block, List.flatMap_map]
  rfl

theorem introduces_block (diagram : Diagram) (table : Table) :
    Introduces (diagram.block table).value (diagram.scope.naming.tableName table.name) := by
  refine ⟨table.enumeration, ?_⟩
  rw [value_block]
  rfl

/-! ## The whole -/

theorem draws_text (diagram : Diagram) :
    Draws diagram.text.value diagram.scope.model.name
      (diagram.drawnTables.map fun table => (diagram.block table).value)
      (diagram.drawnRelationships.map diagram.connector) := by
  have connectors_eq : diagram.connectorLines =
      if (diagram.drawnRelationships.map diagram.connector).isEmpty then []
      else "" :: diagram.drawnRelationships.map diagram.connector := by
    rw [connectorLines]
    cases diagram.drawnRelationships <;> rfl
  rw [Draws, text, Generated.value_map, Generated.value_each, connectors_eq]

theorem diagnostics_text (diagram : Diagram) :
    diagram.text.diagnostics =
      diagram.drawnTables.flatMap fun table =>
        (diagram.shownColumns table).flatMap fun column =>
          (diagram.columnLine table column).diagnostics := by
  simp only [text, Generated.diagnostics_map, Generated.diagnostics_each, diagnostics_block]

end Diagram

end SchemaCompiler
