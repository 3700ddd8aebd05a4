import SchemaCompiler.Report

/-!
# Reports on generated artifacts

Artifacts that went to standard output are the report themselves; otherwise the report is a summary.
-/

namespace SchemaCompiler

/-- What was generated for a model. -/
structure GenerationReport where
  /-- The name of the model. -/
  model : String
  /-- The name of the dialect. -/
  dialect : String
  /-- The name of the naming strategy. -/
  naming : String
  /-- Where the artifacts went. -/
  output : String
  /-- What was persisted. -/
  artifacts : List PersistResult := []
  /-- What could not be generated. -/
  diagnostics : List Diagnostic := []
  /-- The names and texts of artifacts that went to standard output. -/
  texts : List (String × String) := []
  deriving DecidableEq, Repr

namespace GenerationReport

/-- The lines about the artifacts. -/
def artifactLines (artifacts : List PersistResult) : List String :=
  ("Artifacts (" ++ toString artifacts.length ++ "):")
    :: artifacts.map fun result =>
      "  " ++ result.logicalName ++ " -> " ++ result.physicalName ++ " (" ++ toString result.bytes
        ++ " bytes)"

/-- The lines about the diagnostics. -/
def diagnosticLines : List Diagnostic → List String
  | [] => ["No diagnostics."]
  | diagnostics =>
    ("Diagnostics (" ++ toString diagnostics.length ++ "):") :: diagnostics.map (·.line)

/-- The summary of a report. -/
def summary (report : GenerationReport) : String :=
  "\n".intercalate
    (["Generated " ++ report.model ++ " for " ++ report.dialect ++ " (" ++ report.naming ++ ")",
        "Output: " ++ report.output, ""]
      ++ artifactLines report.artifacts ++ [""] ++ diagnosticLines report.diagnostics)

/-- The report for a reader. -/
def table (report : GenerationReport) : String :=
  match report.texts with
  | [] => report.summary
  | [(_, text)] => text
  | texts =>
    "\n\n".intercalate (texts.map fun (name, text) => "-- artifact: " ++ name ++ "\n" ++ text)

/-- The report as a value. -/
def json (report : GenerationReport) : Json :=
  let texts := report.texts.map fun (name, text) =>
    Json.object [("name", .text name), ("text", .text text)]
  .object ([
    ("model", .text report.model),
    ("dialect", .text report.dialect),
    ("naming", .text report.naming),
    ("output", .text report.output),
    ("artifacts", .array (report.artifacts.map (·.json))),
    ("diagnostics", .array (report.diagnostics.map (·.json)))]
    ++ if texts.isEmpty then [] else [("texts", .array texts)])

instance : Report GenerationReport where
  table := table
  json := json

end GenerationReport

end SchemaCompiler
