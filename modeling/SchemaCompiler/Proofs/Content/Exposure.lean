import SchemaCompiler.Proofs.Content.Script
import SchemaCompiler.Proofs.Exposure

/-!
# Content exposes what it refuses

A refused value leaves a block comment in the statement for its row, and a row without a table is a
line comment. The statement for a row is one of the statements of its script.
-/

namespace SchemaCompiler

open Text (Shows)

theorem Entry.shows_intercalate {entries : List Entry} {diagnostic : Diagnostic}
    (diagnostic_mem : diagnostic ∈ entries.flatMap diagnostics) :
    Shows (", ".intercalate (entries.map expression)) diagnostic.asComment := by
  obtain ⟨entry, entry_mem, recorded⟩ := List.mem_flatMap.mp diagnostic_mem
  obtain rfl := mem_diagnostics.mp recorded
  exact Text.shows_intercalate ", " (List.mem_map_of_mem entry_mem)

/-- What is recorded for a row can be read in its statement. -/
theorem RowForm.visibleIn_statement {scope : Scope} {row : ContentRow} {form : RowForm}
    {diagnostic : Diagnostic} (diagnostic_mem : diagnostic ∈ form.diagnostics scope row) :
    diagnostic.VisibleIn (form.statement scope row) := by
  cases form with
  | call =>
      left
      have shows := Entry.shows_intercalate diagnostic_mem
      exact (shows.append_left _).append_right _
  | insert table =>
      left
      have refused : diagnostic ∈
          ((scope.insertEntries table row).map (·.2)).flatMap Entry.diagnostics := by
        rwa [List.flatMap_map]
      have shows := Entry.shows_intercalate refused
      rw [List.map_map] at shows
      exact (shows.append_left _).append_right _
  | missing =>
      right
      obtain rfl := List.mem_singleton.mp diagnostic_mem
      exact .refl _

namespace Dialect

variable {dialect : Dialect}

theorem mem_statements_groupScript (builtIn : dialect ∈ all) (model : Model)
    {group : ContentGroup} {row : ContentRow} (row_mem : row ∈ dialect.compatibleRows group) :
    dialect.rowStatement model row ∈ (dialect.groupScript model group).value.statements := by
  have statement_mem : dialect.rowStatement model row ∈
      (dialect.compatibleRows group).map (dialect.rowStatement model) :=
    List.mem_map_of_mem row_mem
  rw [← statements_rowsStatements builtIn model {}] at statement_mem
  exact (List.mem_filter.mp statement_mem).1

theorem exposes_contentScripts (builtIn : dialect ∈ all) (model : Model) :
    (dialect.contentScripts model).Exposes (·.map (·.sql)) := by
  intro diagnostic diagnostic_mem
  rw [contentScripts, Generated.diagnostics_map, Generated.diagnostics_each] at diagnostic_mem
  obtain ⟨group, group_mem, recorded⟩ := List.mem_flatMap.mp diagnostic_mem
  rw [diagnostics_groupScript builtIn] at recorded
  obtain ⟨row, row_mem, recorded⟩ := List.mem_flatMap.mp recorded
  have statement_mem := mem_statements_groupScript builtIn model row_mem
  have kept : (dialect.groupScript model group).value ∈ (dialect.contentScripts model).value := by
    rw [scripts_contentScripts builtIn]
    apply List.mem_map_of_mem
    rw [List.mem_filter]
    refine ⟨group_mem, ?_⟩
    simpa using List.ne_nil_of_mem row_mem
  refine ⟨_, List.mem_map_of_mem kept, ?_⟩
  exact (RowForm.visibleIn_statement recorded).mono (Text.shows_intercalate "\n" statement_mem)

end Dialect

end SchemaCompiler
