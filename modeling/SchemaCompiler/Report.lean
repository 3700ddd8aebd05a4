import SchemaCompiler.Artifact
import SchemaCompiler.Diagnostic
import SchemaCompiler.Json.Tabular

/-!
# Reports

What a command tells about its work can be shown in three formats: as lines for a reader, as JSON,
and as tabular text.
-/

namespace SchemaCompiler

/-- How a report is shown. -/
inductive ReportFormat
  /-- As lines for a reader. -/
  | table
  | json
  /-- As tabular text. -/
  | tabular
  deriving DecidableEq, Repr

namespace ReportFormat

/-- The format of a name. -/
def named? : String → Option ReportFormat
  | "table" => some .table
  | "json" => some .json
  | "toon" => some .tabular
  | _ => none

end ReportFormat

/-- Types whose values are reports. -/
class Report (α : Type) where
  /-- The lines for a reader. -/
  table : α → String
  /-- The report as a value. -/
  json : α → Json

namespace Report

/-- A report in a format. -/
def format {α : Type} [Report α] (report : α) : ReportFormat → String
  | .table => table report
  | .json => (json report).pretty
  | .tabular => (json report).tabular

end Report

/-! ## Parts of reports -/

namespace PersistResult

/-- A result as a value. -/
def json (result : PersistResult) : Json :=
  .object [
    ("logical_name", .text result.logicalName),
    ("physical_name", .text result.physicalName),
    ("bytes", .integer result.bytes)]

end PersistResult

namespace Diagnostic

/-- A diagnostic as a value. -/
def json (diagnostic : Diagnostic) : Json :=
  .object [
    ("code", .text diagnostic.code.name),
    ("subject", .text diagnostic.subject),
    ("message", .text diagnostic.message)]

/-- The line of a diagnostic. -/
def line (diagnostic : Diagnostic) : String :=
  "  [" ++ diagnostic.code.name ++ "] " ++ diagnostic.subject ++ ": " ++ diagnostic.message

end Diagnostic

end SchemaCompiler
