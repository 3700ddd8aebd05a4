import SchemaCompiler.Artifact
import SchemaCompiler.Dialect

/-!
# Diagrams

An entity diagram of the tables of a model, in the language of PlantUML. Every table that is drawn
becomes a block with its primary key, its other columns and its back references; the relationships
follow as connectors. What is drawn can be limited to what matters to a reader.
-/

namespace SchemaCompiler

/-! ## What is drawn -/

/-- The functions that decide what is drawn in a diagram. The one for relationships is given the
other two. -/
structure DiagramSelection where
  /-- Whether a column of a table is drawn. -/
  includesColumn : Table → Column → Bool
  /-- Whether a table is drawn. -/
  includesTable : Table → Bool
  /-- Whether the connector of a relationship is drawn. -/
  decidesRelationship : (Table → Column → Bool) → (Table → Bool) → Relationship → Bool

namespace DiagramSelection

/-- The names of columns that only serve bookkeeping. -/
def housekeeping : List String :=
  ["created_at", "updated_on", "record_status_id"]

def allColumns (_table : Table) (_column : Column) : Bool :=
  true

def nonHousekeepingColumns (_table : Table) (column : Column) : Bool :=
  !housekeeping.contains column.name

def allTables (_table : Table) : Bool :=
  true

def nonEnumerationTables (table : Table) : Bool :=
  !table.enumeration

/-- A relationship needs the table and the column from which it starts. -/
def allRelationships (includesColumn : Table → Column → Bool) (includesTable : Table → Bool)
    (relationship : Relationship) : Bool :=
  includesTable relationship.sourceTable
    && includesColumn relationship.sourceTable relationship.source

def nonEnumerationRelationships (includesColumn : Table → Column → Bool)
    (includesTable : Table → Bool) (relationship : Relationship) : Bool :=
  allRelationships includesColumn includesTable relationship
    && !relationship.targetTable.enumeration

/-- Whether the connector of a relationship is drawn. -/
def includesRelationship (selection : DiagramSelection) (relationship : Relationship) : Bool :=
  selection.decidesRelationship selection.includesColumn selection.includesTable relationship

end DiagramSelection

/-- A choice among the functions at hand. -/
structure DiagramFilter where
  /-- Whether columns are drawn that only serve bookkeeping. -/
  housekeepingColumns : Bool := false
  /-- Whether the tables of enumerations are drawn. -/
  enumerationTables : Bool := false
  /-- Whether connectors to the tables of enumerations are drawn. -/
  enumerationConnectors : Bool := false
  deriving DecidableEq, Repr

namespace DiagramFilter

open DiagramSelection

/-- Everything is drawn. -/
def everything : DiagramFilter :=
  ⟨true, true, true⟩

/-- The functions that are chosen. -/
def selection (filter : DiagramFilter) : DiagramSelection where
  includesColumn := if filter.housekeepingColumns then allColumns else nonHousekeepingColumns
  includesTable := if filter.enumerationTables then allTables else nonEnumerationTables
  decidesRelationship :=
    if filter.enumerationConnectors then allRelationships else nonEnumerationRelationships

instance : Coe DiagramFilter DiagramSelection :=
  ⟨selection⟩

end DiagramFilter

/-- A model to be drawn, with the dialect that gives names and types. -/
structure Diagram where
  /-- The model seen through the dialect. -/
  scope : Scope
  /-- What is drawn. -/
  filter : DiagramSelection := DiagramFilter.selection {}

namespace Diagram

/-! ## Columns -/

/-- The mark of a column that refers to another one. -/
def stereotype (diagram : Diagram) (column : Column) (target : Option ColumnRef) : String :=
  match column.kind, target with
  | .selfReference, _ => " <<SELF>>"
  | _, none => ""
  | _, some address =>
    let name := diagram.scope.naming.tableName address.table
    if (diagram.scope.model.table? address.table).any (·.enumeration) then
      " <<ENUM(" ++ name ++ ")>> "
    else
      " <<FK(" ++ name ++ ")>>"

/-- The identifier of a column, emphasised if it identifies rows. -/
def columnTitle (diagram : Diagram) (column : Column) : String :=
  let name := diagram.scope.naming.tableColumnName column
  if column.primaryKey then "**" ++ name ++ "**" else name

/-- The type that is shown for a column that may refer to another one. -/
def shownType (types : SqlTypes) (target : Option ColumnRef) : String :=
  if target.isSome then types.reference else types.definition

/-- The line of a column. -/
def columnLine (diagram : Diagram) (table : Table) (column : Column) : Generated String :=
  let target := column.target? table.toEntity
  (fun types =>
      "    " ++ (if column.nullable then "" else "*") ++ " " ++ diagram.columnTitle column ++ ": "
        ++ shownType types target ++ diagram.stereotype column target)
    <$> diagram.scope.types table.toEntity column

/-! ## Tables -/

/-- The line between the sections of a block. -/
def rule : String := "    --"

/-- The lines of the primary key, with the rule after them. -/
def keyLines (diagram : Diagram) (table : Table) : Generated (List String) :=
  match table.primaryKey? with
  | none => pure []
  | some key => ([·, rule]) <$> diagram.columnLine table key

/-- The columns that are drawn below the primary key. -/
def drawnColumns (diagram : Diagram) (table : Table) : List Column :=
  table.columns.filter fun column =>
    !column.primaryKey && diagram.filter.includesColumn table column

/-- The line of a back reference. -/
def backReferenceLine (reference : BackReference) : String :=
  "    " ++ Spelling.camel.apply reference.name ++ ": "
    ++ Spelling.pascal.apply reference.fromEntity ++ "[]"

/-- The lines of the back references, with the rule before them. -/
def backReferenceLines (table : Table) : List String :=
  if table.backReferences.isEmpty then
    []
  else
    rule :: table.backReferences.map backReferenceLine

/-- The line that opens the block of a table. -/
def openingLine (diagram : Diagram) (table : Table) : String :=
  let name := diagram.scope.naming.tableName table.name
  "  entity \"" ++ (if table.enumeration then "Enum " else "") ++ name ++ "\" as " ++ name
    ++ " \x7b"

/-- The block of a table. -/
def block (diagram : Diagram) (table : Table) : Generated (List String) := do
  let key ← diagram.keyLines table
  let columns ← Generated.each (diagram.columnLine table) (diagram.drawnColumns table)
  return [diagram.openingLine table] ++ key ++ columns ++ backReferenceLines table ++ ["  \x7d"]

/-- The tables that are drawn. -/
def drawnTables (diagram : Diagram) : List Table :=
  diagram.scope.model.tables.filter diagram.filter.includesTable

/-! ## Connectors -/

/-- The relationships that are drawn. -/
def drawnRelationships (diagram : Diagram) : List Relationship :=
  diagram.scope.model.relationships.filter diagram.filter.includesRelationship

/-- The connector of a relationship. Many rows share a row of an enumeration. -/
def connector (diagram : Diagram) (relationship : Relationship) : String :=
  let naming := diagram.scope.naming
  "  " ++ naming.tableName relationship.targetTable.name
    ++ (if relationship.targetTable.enumeration then " |o..o\x7b " else " |o..o| ")
    ++ naming.tableName relationship.sourceTable.name

/-- The connectors, with an empty line before them. -/
def connectorLines (diagram : Diagram) : List String :=
  match diagram.drawnRelationships with
  | [] => []
  | relationships => "" :: relationships.map diagram.connector

/-! ## The whole -/

/-- The settings of every diagram, and an empty line. -/
def settingLines : List String :=
  ["  hide circle",
    "  skinparam linetype ortho",
    "  skinparam roundcorner 20",
    "  skinparam class \x7b",
    "    BackgroundColor White",
    "    ArrowColor Silver",
    "    BorderColor Silver",
    "    FontColor Black",
    "    FontSize 12",
    "  \x7d",
    ""]

/-- The text of a diagram. -/
def text (diagram : Diagram) : Generated String :=
  (fun blocks =>
      "\n".intercalate
        (["@startuml " ++ diagram.scope.model.name] ++ settingLines ++ blocks.flatten
          ++ diagram.connectorLines ++ ["@enduml"]))
    <$> Generated.each diagram.block diagram.drawnTables

/-- Persists a diagram under the name of its model. -/
def persist {m : Type → Type} [Monad m] [ArtifactSink m] (diagram : Diagram) (opening : String) :
    m (Generated PersistResult) := do
  let generated := diagram.text
  let result ← ArtifactSink.persist diagram.scope.model.name
    ⟨.plantUml, opening ++ generated.value⟩ .replace
  return ⟨result, generated.diagnostics⟩

end Diagram

end SchemaCompiler
