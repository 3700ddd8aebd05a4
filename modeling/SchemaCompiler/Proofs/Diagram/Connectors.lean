import Mathlib.Data.List.Perm.Basic
import SchemaCompiler.Proofs.Definition.ForeignKey
import SchemaCompiler.Proofs.Diagram.Layout

/-!
# Connectors of a diagram

Tables, columns and relationships are selected by three functions, and nothing makes these agree:
the one for relationships need not ask about the table at which a connector ends. The usual
functions leave out every relationship that leads to an enumeration, and the ones for everything
draw every table. So in both diagrams what a relationship needs at its ends is drawn (`DrawsEnds`).

A column that is marked as the primary key is drawn only if it is the first one of its table. So the
connectors of a diagram with everything are those of its columns as long as no table has a second
primary key.
-/

namespace SchemaCompiler

/-! ## Relationships -/

namespace Model

variable {model : Model} {table : Table} {column : Column} {relationship : Relationship}

theorem relationship?_eq (model : Model) (table : Table) (column : Column) :
    model.relationship? table column =
      (column.target? table.toEntity).bind fun address =>
        (model.resolve? address).map fun target => ⟨table, column, target.1, target.2⟩ := by
  simp only [relationship?, Option.map_eq_bind]
  rfl

/-- A column establishes a relationship when there is a column at its address. -/
theorem relationship?_eq_some_iff :
    model.relationship? table column = some relationship ↔
      relationship.sourceTable = table ∧ relationship.source = column ∧
        ∃ address, column.target? table.toEntity = some address ∧
          model.resolve? address = some (relationship.targetTable, relationship.target) := by
  obtain ⟨sourceTable, source, targetTable, target⟩ := relationship
  simp only [relationship?, Option.bind_eq_bind, Option.bind_eq_some_iff, Option.pure_def,
    Option.some.injEq, Relationship.mk.injEq, Prod.exists]
  constructor
  · rintro ⟨address, refers, _, _, resolved, rfl, rfl, rfl, rfl⟩
    exact ⟨rfl, rfl, address, refers, resolved⟩
  · rintro ⟨rfl, rfl, address, refers, resolved⟩
    exact ⟨address, refers, targetTable, target, resolved, rfl, rfl, rfl, rfl⟩

/-- A relationship leads from a column of a table of the model to another table of the model. -/
theorem mem_of_mem_relationships (relationship_mem : relationship ∈ model.relationships) :
    relationship.sourceTable ∈ model.tables ∧
      relationship.source ∈ relationship.sourceTable.columns ∧
      relationship.targetTable ∈ model.tables := by
  obtain ⟨table, table_mem, established⟩ := List.mem_flatMap.mp relationship_mem
  obtain ⟨column, column_mem, established⟩ := List.mem_filterMap.mp established
  obtain ⟨rfl, rfl, address, _, resolved⟩ := relationship?_eq_some_iff.mp established
  exact ⟨table_mem, column_mem, (mem_of_resolve? resolved).1⟩

end Model

/-! ## Ends of connectors -/

namespace DiagramSelection

/-- What a relationship that is drawn needs is drawn as well: its tables and the column from which
it starts. -/
structure DrawsEnds (selection : DiagramSelection) (relationship : Relationship) : Prop where
  sourceTable : selection.includesTable relationship.sourceTable
  source : selection.includesColumn relationship.sourceTable relationship.source
  targetTable : selection.includesTable relationship.targetTable

variable {relationship : Relationship}

theorem drawsEnds_usual
    (included : (DiagramFilter.selection {}).includesRelationship relationship) :
    (DiagramFilter.selection {}).DrawsEnds relationship := by
  obtain ⟨start, unmarked⟩ := Bool.and_eq_true_iff.mp included
  obtain ⟨sourceTable, source⟩ := Bool.and_eq_true_iff.mp start
  exact ⟨sourceTable, source, unmarked⟩

theorem drawsEnds_everything : DiagramFilter.everything.selection.DrawsEnds relationship :=
  ⟨rfl, rfl, rfl⟩

end DiagramSelection

namespace Diagram

variable {diagram : Diagram} {table : Table} {column : Column} {relationship : Relationship}

/-- In the usual diagram and in the one with everything, the ends of connectors are drawn. -/
theorem drawsEnds_of_mem_drawnRelationships {scope : Scope} {filter : DiagramFilter}
    (whole : filter = {} ∨ filter = .everything)
    (drawn : relationship ∈ drawnRelationships { scope := scope, filter := filter }) :
    filter.selection.DrawsEnds relationship := by
  have included := (List.mem_filter.mp drawn).2
  rcases whole with rfl | rfl
  · exact DiagramSelection.drawsEnds_usual included
  · exact DiagramSelection.drawsEnds_everything

theorem ends_mem_drawnTables (drawn : relationship ∈ diagram.drawnRelationships)
    (ends : diagram.filter.DrawsEnds relationship) :
    relationship.sourceTable ∈ diagram.drawnTables ∧
      relationship.targetTable ∈ diagram.drawnTables := by
  obtain ⟨source_mem, _, target_mem⟩ :=
    Model.mem_of_mem_relationships (List.mem_filter.mp drawn).1
  exact ⟨List.mem_filter.mpr ⟨source_mem, ends.sourceTable⟩,
    List.mem_filter.mpr ⟨target_mem, ends.targetTable⟩⟩

/-! ## Columns with connectors -/

/-- With at most one primary key, the key that is drawn is the column that is marked. -/
theorem toList_primaryKey? (single : table.columns.countP (·.primaryKey) ≤ 1) :
    table.primaryKey?.toList = table.columns.filter (·.primaryKey) := by
  rw [List.countP_eq_length_filter] at single
  rw [Entity.primaryKey?, ← List.head?_filter, ← List.take_one, List.take_of_length_le single]

theorem source_mem_shownColumns
    (single : ∀ table ∈ diagram.scope.model.tables, table.columns.countP (·.primaryKey) ≤ 1)
    (drawn : relationship ∈ diagram.drawnRelationships)
    (ends : diagram.filter.DrawsEnds relationship) :
    relationship.source ∈ diagram.shownColumns relationship.sourceTable := by
  obtain ⟨source_mem, column_mem, _⟩ :=
    Model.mem_of_mem_relationships (List.mem_filter.mp drawn).1
  rw [shownColumns, toList_primaryKey? (single _ source_mem), drawnColumns, List.mem_append,
    List.mem_filter, List.mem_filter]
  cases isKey : relationship.source.primaryKey with
  | true => exact .inl ⟨column_mem, rfl⟩
  | false => exact .inr ⟨column_mem, by simpa [isKey] using ends.source⟩

/-- A diagram with everything shows each column once. -/
theorem shownColumns_everything_perm (scope : Scope)
    (single : table.columns.countP (·.primaryKey) ≤ 1) :
    (shownColumns { scope := scope, filter := DiagramFilter.everything } table).Perm
      table.columns := by
  have others : drawnColumns { scope := scope, filter := DiagramFilter.everything } table =
      table.columns.filter fun column => !column.primaryKey := by
    apply List.filter_congr
    intro column _
    exact Bool.and_true _
  rw [shownColumns, toList_primaryKey? single, others]
  exact List.filter_append_perm _ _

theorem drawnTables_everything (scope : Scope) :
    drawnTables { scope := scope, filter := DiagramFilter.everything } = scope.model.tables :=
  List.filter_eq_self.mpr fun _ _ => rfl

theorem drawnRelationships_everything (scope : Scope) :
    drawnRelationships { scope := scope, filter := DiagramFilter.everything } =
      scope.model.relationships :=
  List.filter_eq_self.mpr fun _ _ => rfl

/-- In a diagram with everything, the columns that are shown establish the relationships that are
drawn, each column its own one. -/
theorem drawnRelationships_everything_perm (scope : Scope)
    (single : ∀ table ∈ scope.model.tables, table.columns.countP (·.primaryKey) ≤ 1) :
    let diagram : Diagram := { scope := scope, filter := DiagramFilter.everything }
    diagram.drawnRelationships.Perm
      (diagram.drawnTables.flatMap fun table =>
        (diagram.shownColumns table).filterMap fun column =>
          (column.target? table.toEntity).bind fun address =>
            (scope.model.resolve? address).map fun target =>
              ⟨table, column, target.1, target.2⟩) := by
  intro diagram
  simp only [← Model.relationship?_eq]
  rw [drawnRelationships_everything, drawnTables_everything]
  apply List.Perm.flatMap_left
  intro table table_mem
  exact ((shownColumns_everything_perm scope (single table table_mem)).filterMap _).symm

/-! ## Connectors and blocks -/

/-- A line that connects two identifiers. -/
def Connects (line target source : String) : Prop :=
  ∃ enumeration : Bool,
    line = "  " ++ target ++ (if enumeration then " |o..o\x7b " else " |o..o| ") ++ source

/-- In the usual diagram and in the one with everything, each connector joins two blocks: both of
its ends are introduced by blocks of the diagram, and each block shows its columns. If no table has
two primary keys, a connector starts at a column that is shown in its block, and in a diagram with
everything there is one connector for each column that is shown and refers to a column of the model,
and no other. -/
theorem connectors_join_blocks (scope : Scope) {filter : DiagramFilter}
    (whole : filter = {} ∨ filter = .everything) :
    let diagram : Diagram := { scope := scope, filter := filter }
    let blocks := diagram.drawnTables.map fun table => (diagram.block table).value
    ∃ relationships : List Relationship,
      Draws diagram.text.value scope.model.name blocks (relationships.map diagram.connector) ∧
        (∀ table ∈ diagram.drawnTables,
          ShowsBlock scope table table.primaryKey? (diagram.drawnColumns table)
            (diagram.block table).value) ∧
        (∀ relationship ∈ relationships,
          let source := scope.naming.tableName relationship.sourceTable.name
          let target := scope.naming.tableName relationship.targetTable.name
          Connects (diagram.connector relationship) target source ∧
            (diagram.block relationship.sourceTable).value ∈ blocks ∧
            Introduces (diagram.block relationship.sourceTable).value source ∧
            (diagram.block relationship.targetTable).value ∈ blocks ∧
            Introduces (diagram.block relationship.targetTable).value target) ∧
        ((∀ table ∈ scope.model.tables, table.columns.countP (·.primaryKey) ≤ 1) →
          (∀ relationship ∈ relationships,
            relationship.source ∈ diagram.shownColumns relationship.sourceTable ∧
              ∃ line ∈ (diagram.block relationship.sourceTable).value,
                ShowsColumn scope relationship.sourceTable relationship.source line) ∧
          (filter = .everything →
            relationships.Perm
              (diagram.drawnTables.flatMap fun table =>
                (diagram.shownColumns table).filterMap fun column =>
                  (column.target? table.toEntity).bind fun address =>
                    (scope.model.resolve? address).map fun target =>
                      ⟨table, column, target.1, target.2⟩))) := by
  intro diagram blocks
  refine ⟨diagram.drawnRelationships, diagram.draws_text,
    fun table _ => diagram.showsBlock_block table, ?_, ?_⟩
  · intro relationship drawn source target
    have ends := drawsEnds_of_mem_drawnRelationships whole drawn
    obtain ⟨source_drawn, target_drawn⟩ := ends_mem_drawnTables drawn ends
    exact ⟨⟨relationship.targetTable.enumeration, rfl⟩, List.mem_map_of_mem source_drawn,
      diagram.introduces_block _, List.mem_map_of_mem target_drawn, diagram.introduces_block _⟩
  · intro single
    refine ⟨?_, ?_⟩
    · intro relationship drawn
      have ends := drawsEnds_of_mem_drawnRelationships whole drawn
      have source_shown := source_mem_shownColumns single drawn ends
      exact ⟨source_shown, _, columnLine_mem_block source_shown,
        diagram.showsColumn_columnLine _ _⟩
    · rintro rfl
      exact drawnRelationships_everything_perm scope single

/-- A book refers to its status, which is an enumeration, and to the book that it continues. -/
theorem connectors_join_blocks_book :
    let code : Column := { name := "code", kind := .integer, primaryKey := true }
    let status : Table := ⟨⟨"BookStatus", [code]⟩, true, []⟩
    let continued : Column := { name := "continued", kind := .selfReference, nullable := true }
    let key : Column := { name := "id", kind := .nativeIdentity, primaryKey := true }
    let state : Column := { name := "status", kind := .relationship ⟨"BookStatus", "code"⟩ }
    let book : Table := ⟨⟨"Book", [continued, key, state]⟩, false, []⟩
    let scope := Dialect.postgresql.scope { name := "library", tables := [status, book] }
    let diagram : Diagram := { scope := scope, filter := DiagramFilter.everything }
    let blocks := diagram.drawnTables.map fun table => (diagram.block table).value
    (DiagramFilter.everything = {} ∨ DiagramFilter.everything = .everything) ∧
      (∀ table ∈ scope.model.tables, table.columns.countP (·.primaryKey) ≤ 1) ∧
      (diagram.block book).value =
        ["  entity \"book\" as book \x7b",
          "    * **id**: UUID",
          "    --",
          "     continued: UUID <<SELF>>",
          "    * status: INTEGER <<ENUM(book_status)>> ",
          "  \x7d"] ∧
      ShowsColumn scope book key "    * **id**: UUID" ∧
      ShowsColumn scope book continued "     continued: UUID <<SELF>>" ∧
      ShowsColumn scope book state "    * status: INTEGER <<ENUM(book_status)>> " ∧
      ∃ relationships : List Relationship,
        Draws diagram.text.value "library" blocks (relationships.map diagram.connector) ∧
          relationships.Perm [⟨book, continued, book, key⟩, ⟨book, state, status, code⟩] ∧
          ∀ relationship ∈ relationships,
            (diagram.block relationship.targetTable).value ∈ blocks ∧
              ∃ line ∈ (diagram.block relationship.sourceTable).value,
                ShowsColumn scope relationship.sourceTable relationship.source line := by
  intro code status continued key state book scope diagram blocks
  have whole : DiagramFilter.everything = {} ∨ DiagramFilter.everything = .everything := .inr rfl
  have single : ∀ table ∈ scope.model.tables, table.columns.countP (·.primaryKey) ≤ 1 := by
    decide
  have book_drawn : book ∈ diagram.drawnTables := .tail _ (.head _)
  have block_eq : (diagram.block book).value =
      ["  entity \"book\" as book \x7b",
        "    * **id**: UUID",
        "    --",
        "     continued: UUID <<SELF>>",
        "    * status: INTEGER <<ENUM(book_status)>> ",
        "  \x7d"] := by
    decide +kernel
  obtain ⟨relationships, draws, shows, joins, columns⟩ := connectors_join_blocks scope whole
  obtain ⟨starts, perm⟩ := columns single
  have established : (diagram.drawnTables.flatMap fun table =>
      (diagram.shownColumns table).filterMap fun column =>
        (column.target? table.toEntity).bind fun address =>
          (scope.model.resolve? address).map fun target =>
            (⟨table, column, target.1, target.2⟩ : Relationship)) =
      [⟨book, continued, book, key⟩, ⟨book, state, status, code⟩] := by
    rfl
  have lines : ShowsColumn scope book key "    * **id**: UUID" ∧
      ShowsColumn scope book continued "     continued: UUID <<SELF>>" ∧
      ShowsColumn scope book state "    * status: INTEGER <<ENUM(book_status)>> " := by
    obtain ⟨opening, keyLines, otherLines, lines_eq, key_shown, others_shown⟩ :=
      shows book book_drawn
    have key_eq : book.primaryKey?.toList = [key] := rfl
    have others_eq : diagram.drawnColumns book = [continued, state] := rfl
    rw [key_eq] at key_shown
    rw [others_eq] at others_shown
    rcases key_shown with _ | ⟨key_line, ⟨⟩⟩
    rcases others_shown with _ | ⟨continued_line, _ | ⟨state_line, ⟨⟩⟩⟩
    cases block_eq.symm.trans lines_eq
    exact ⟨key_line, continued_line, state_line⟩
  refine ⟨whole, single, block_eq, lines.1, lines.2.1, lines.2.2, relationships, draws, ?_, ?_⟩
  · rw [← established]
    exact perm rfl
  · intro relationship relationship_mem
    exact ⟨(joins relationship relationship_mem).2.2.2.1, (starts relationship relationship_mem).2⟩

end Diagram

end SchemaCompiler
