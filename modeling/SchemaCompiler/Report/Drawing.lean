import SchemaCompiler.Report

/-!
# Reports on diagrams

A diagram that went to standard output is the report itself.
-/

namespace SchemaCompiler

/-- What was drawn of a model. -/
structure DrawingReport where
  /-- The name of the model. -/
  model : String
  /-- The name of the dialect. -/
  dialect : String
  /-- What was persisted. -/
  artifact : PersistResult
  /-- What could not be generated. -/
  diagnostics : List Diagnostic
  /-- The text of a diagram that went to standard output. -/
  text : Option String
  deriving DecidableEq, Repr

namespace DrawingReport

/-- The report for a reader. -/
def table (report : DrawingReport) : String :=
  match report.text with
  | some text => text
  | none =>
    "\n".intercalate
      (("Diagram written: " ++ report.artifact.physicalName ++ " ("
          ++ toString report.artifact.bytes ++ " bytes)")
        :: report.diagnostics.map (·.line))

/-- The report as a value. -/
def json (report : DrawingReport) : Json :=
  .object ([
    ("model", .text report.model),
    ("dialect", .text report.dialect),
    ("artifact", report.artifact.json),
    ("diagnostics", .array (report.diagnostics.map (·.json)))]
    ++ (report.text.map fun text => ("text", Json.text text)).toList)

instance : Report DrawingReport where
  table := table
  json := json

end DrawingReport

end SchemaCompiler
