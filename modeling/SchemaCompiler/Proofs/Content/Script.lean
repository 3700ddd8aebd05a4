import SchemaCompiler.Content.Script
import SchemaCompiler.Dialect.Catalog
import SchemaCompiler.Proofs.Content.Entry
import SchemaCompiler.Proofs.Text.Lines

/-!
# Content scripts, row by row

Generation of content drops no row and adds none. `Dialect.rowForm` says what becomes of a row: a
CALL, an INSERT or a comment. The statements of a script are those of its rows in order, once the
blank separators are taken out, and what is recorded is what the rows record, in the same order.

The cursor that runs from row to row decides about separators only. So one row is treated first,
under any cursor, and the statements of many follow by induction on the rows with the cursor
generalized.
-/

namespace SchemaCompiler

/-- What becomes of a row of content. -/
inductive RowForm
  /-- A CALL of its procedure. -/
  | call
  /-- An INSERT into its table. -/
  | insert (table : Table)
  /-- A comment, as the model has neither for it. -/
  | missing

namespace RowForm

variable {scope : Scope} {row : ContentRow}

/-- The one statement for a row. -/
def statement (scope : Scope) (row : ContentRow) : RowForm → String
  | .call => scope.callText row (", ".intercalate ((Scope.callEntries row).map Entry.expression))
  | .insert table =>
    let entries := scope.insertEntries table row
    scope.insertText table (entries.map (·.1))
      (", ".intercalate (entries.map (·.2.expression)))
  | .missing => (Diagnostic.contentTableNotFound row.entity).asLineComment

/-- What is recorded for a row: the diagnostic of every refused entry, or the one about the row. -/
def diagnostics (scope : Scope) (row : ContentRow) : RowForm → List Diagnostic
  | .call => (Scope.callEntries row).flatMap Entry.diagnostics
  | .insert table => (scope.insertEntries table row).flatMap (·.2.diagnostics)
  | .missing => [.contentTableNotFound row.entity]

/-- The blank statements before the statement for a row. -/
def separators (cursor : ContentCursor) : RowForm → List String
  | .call => [""]
  | .insert table => if cursor.separates table.name then [""] else []
  | .missing => []

/-- The cursor behind a row. -/
def cursorAfter (cursor : ContentCursor) : RowForm → ContentCursor
  | .insert table => cursor.advance table.name
  | .call | .missing => cursor

theorem eq_empty_of_mem_separators {cursor : ContentCursor} {form : RowForm} {separator : String}
    (separator_mem : separator ∈ form.separators cursor) : separator = "" := by
  cases form with
  | call => exact List.mem_singleton.mp separator_mem
  | insert table =>
      rw [separators] at separator_mem
      split at separator_mem
      · exact List.mem_singleton.mp separator_mem
      · cases separator_mem
  | missing => cases separator_mem

theorem statement_ne_empty (form : RowForm) : form.statement scope row ≠ "" := by
  intro nothing
  cases form with
  | call => exact absurd (String.append_eq_empty_iff.mp nothing).2 (by decide)
  | insert table => exact absurd (String.append_eq_empty_iff.mp nothing).2 (by decide)
  | missing => exact absurd (String.append_eq_empty_iff.mp nothing).1 (by decide)

end RowForm

/-- Statements for a row that come down to one statement after blank ones. -/
structure ComesDownTo (generated : Generated (List String × ContentCursor)) (statement : String)
    (diagnostics : List Diagnostic) : Prop where
  statements : ∃ separators, (∀ separator ∈ separators, separator = "") ∧
    generated.value.1 = separators ++ [statement]
  diagnostics : generated.diagnostics = diagnostics

/-- What a row of some form comes down to. -/
theorem ComesDownTo.of_value {generated : Generated (List String × ContentCursor)} {scope : Scope}
    {cursor : ContentCursor} {row : ContentRow} {form : RowForm}
    (value_eq : generated.value =
      (form.separators cursor ++ [form.statement scope row], form.cursorAfter cursor))
    (diagnostics_eq : generated.diagnostics = form.diagnostics scope row) :
    ComesDownTo generated (form.statement scope row) (form.diagnostics scope row) :=
  ⟨⟨form.separators cursor, fun _ => RowForm.eq_empty_of_mem_separators, by rw [value_eq]⟩,
    diagnostics_eq⟩

namespace Scope

theorem value_insertStatements (scope : Scope) (cursor : ContentCursor) (row : ContentRow) :
    let form := (scope.model.table? row.entity).elim .missing RowForm.insert
    (scope.insertStatements cursor row).value =
      (form.separators cursor ++ [form.statement scope row], form.cursorAfter cursor) := by
  cases found : scope.model.table? row.entity with
  | none => simp only [insertStatements, found]; rfl
  | some table =>
      simp only [insertStatements, found, Generated.value_map, value_insertStatement]
      rfl

theorem comesDownTo_insertStatements (scope : Scope) (cursor : ContentCursor) (row : ContentRow) :
    let form := (scope.model.table? row.entity).elim .missing RowForm.insert
    ComesDownTo (scope.insertStatements cursor row) (form.statement scope row)
      (form.diagnostics scope row) := by
  apply ComesDownTo.of_value (scope.value_insertStatements cursor row)
  cases found : scope.model.table? row.entity with
  | none => simp [insertStatements, found, Generated.statement, RowForm.diagnostics]
  | some table =>
      simp only [insertStatements, found, Generated.diagnostics_map, diagnostics_insertStatement]
      rfl

theorem value_callOrInsertStatements (scope : Scope) (cursor : ContentCursor) (row : ContentRow) :
    let form :=
      if (scope.model.procedure? row.entity).isSome then
        RowForm.call
      else
        (scope.model.table? row.entity).elim .missing .insert
    (scope.callOrInsertStatements cursor row).value =
      (form.separators cursor ++ [form.statement scope row], form.cursorAfter cursor) := by
  by_cases procedure : (scope.model.procedure? row.entity).isSome
  · simp only [callOrInsertStatements, if_pos procedure, Generated.value_map, value_callStatement]
    rfl
  · simp only [callOrInsertStatements, if_neg procedure]
    exact scope.value_insertStatements cursor row

theorem comesDownTo_callOrInsertStatements (scope : Scope) (cursor : ContentCursor)
    (row : ContentRow) :
    let form :=
      if (scope.model.procedure? row.entity).isSome then
        RowForm.call
      else
        (scope.model.table? row.entity).elim .missing .insert
    ComesDownTo (scope.callOrInsertStatements cursor row) (form.statement scope row)
      (form.diagnostics scope row) := by
  apply ComesDownTo.of_value (scope.value_callOrInsertStatements cursor row)
  by_cases procedure : (scope.model.procedure? row.entity).isSome
  · simp only [callOrInsertStatements, if_pos procedure, Generated.diagnostics_map,
      diagnostics_callStatement]
    rfl
  · simp only [callOrInsertStatements, if_neg procedure]
    exact (scope.comesDownTo_insertStatements cursor row).diagnostics

end Scope

namespace Dialect

variable {dialect : Dialect} {model : Model}

/-- What becomes of a row under a dialect. Only the engine PostgreSQL has procedures to call. -/
def rowForm (dialect : Dialect) (model : Model) (row : ContentRow) : RowForm :=
  if dialect.engine = "postgresql" ∧ (model.procedure? row.entity).isSome then
    .call
  else
    (model.table? row.entity).elim .missing .insert

/-- The one statement for a row under a dialect. -/
def rowStatement (dialect : Dialect) (model : Model) (row : ContentRow) : String :=
  (dialect.rowForm model row).statement (dialect.scope model) row

/-- What is recorded for a row under a dialect. -/
def rowDiagnostics (dialect : Dialect) (model : Model) (row : ContentRow) : List Diagnostic :=
  (dialect.rowForm model row).diagnostics (dialect.scope model) row

theorem comesDownTo_rowStatements (builtIn : dialect ∈ all) (model : Model)
    (cursor : ContentCursor) (row : ContentRow) :
    ComesDownTo (dialect.rowStatements (dialect.scope model) cursor row)
      (dialect.rowStatement model row) (dialect.rowDiagnostics model row) := by
  rcases eq_named_or_eq_sqlite builtIn with ⟨name, aliases, naming, rfl⟩ | rfl
  · have form_eq : (Postgres.named name aliases naming).rowForm model row =
        if (model.procedure? row.entity).isSome then .call
        else (model.table? row.entity).elim .missing .insert := by
      simp only [rowForm, Postgres.named, true_and]
    rw [rowStatement, rowDiagnostics, form_eq]
    exact Scope.comesDownTo_callOrInsertStatements _ cursor row
  · have form_eq : sqlite.rowForm model row = (model.table? row.entity).elim .missing .insert :=
      if_neg (by simp [sqlite])
    rw [rowStatement, rowDiagnostics, form_eq]
    exact Scope.comesDownTo_insertStatements _ cursor row

/-! ## Many rows -/

theorem statements_rowsStatements (builtIn : dialect ∈ all) (model : Model)
    (cursor : ContentCursor) (rows : List ContentRow) :
    (dialect.rowsStatements (dialect.scope model) cursor rows).value.filter (· ≠ "") =
      rows.map (dialect.rowStatement model) := by
  induction rows generalizing cursor with
  | nil => rfl
  | cons row rows ih =>
      obtain ⟨separators, blank, statements⟩ :=
        (comesDownTo_rowStatements builtIn model cursor row).statements
      have no_separators : separators.filter (· ≠ "") = [] := by
        rw [List.filter_eq_nil_iff]
        intro separator separator_mem
        simp [blank separator separator_mem]
      have statement_ne : dialect.rowStatement model row ≠ "" := RowForm.statement_ne_empty _
      simp only [rowsStatements, Generated.value_bind, Generated.value_pure, statements,
        List.filter_append, no_separators, ih, List.map_cons]
      simp [statement_ne]

theorem diagnostics_rowsStatements (builtIn : dialect ∈ all) (model : Model)
    (cursor : ContentCursor) (rows : List ContentRow) :
    (dialect.rowsStatements (dialect.scope model) cursor rows).diagnostics =
      rows.flatMap (dialect.rowDiagnostics model) := by
  induction rows generalizing cursor with
  | nil => rfl
  | cons row rows ih =>
      simp only [rowsStatements, Generated.diagnostics_bind, Generated.diagnostics_pure, ih,
        (comesDownTo_rowStatements builtIn model cursor row).diagnostics, List.flatMap_cons,
        List.append_nil]

/-- Some rows have no statements only if there are none. -/
theorem isEmpty_rowsStatements (builtIn : dialect ∈ all) (model : Model)
    (cursor : ContentCursor) (rows : List ContentRow) :
    (dialect.rowsStatements (dialect.scope model) cursor rows).value.isEmpty = rows.isEmpty := by
  have statements := statements_rowsStatements builtIn model cursor rows
  cases rows with
  | nil => rfl
  | cons row rows =>
      rw [List.isEmpty_cons, List.isEmpty_eq_false_iff]
      intro nothing
      simp [nothing] at statements

/-! ## All groups -/

theorem scripts_contentScripts (builtIn : dialect ∈ all) (model : Model) :
    (dialect.contentScripts model).value =
      (model.content.filter fun group => !(dialect.compatibleRows group).isEmpty).map
        fun group => (dialect.groupScript model group).value := by
  simp only [contentScripts, Generated.value_map, Generated.value_each, List.filter_map]
  congr 1
  apply List.filter_congr
  intro group _
  simp [groupScript, isEmpty_rowsStatements builtIn]

theorem diagnostics_groupScript (builtIn : dialect ∈ all) (model : Model) (group : ContentGroup) :
    (dialect.groupScript model group).diagnostics =
      (dialect.compatibleRows group).flatMap (dialect.rowDiagnostics model) := by
  rw [groupScript, Generated.diagnostics_map, diagnostics_rowsStatements builtIn]

theorem flatMap_filter_nonempty {α β : Type} (things : List α) (parts : α → List β)
    (record : β → List Diagnostic) :
    (things.filter fun thing => !(parts thing).isEmpty).flatMap
        (fun thing => (parts thing).flatMap record) =
      things.flatMap fun thing => (parts thing).flatMap record := by
  induction things with
  | nil => rfl
  | cons thing things ih =>
      cases parts_eq : parts thing with
      | nil => simp [parts_eq, ih]
      | cons => simp [parts_eq, ih]

theorem rowStatement_of_missing {row : ContentRow}
    (missing : dialect.rowForm model row = .missing) :
    ∃ text, dialect.rowStatement model row = "-- " ++ text ∧ Text.OneLine text := by
  have oneLine := Text.oneLine_asLineComment (.contentTableNotFound row.entity)
  rw [Diagnostic.asLineComment, Text.oneLine_append] at oneLine
  exact ⟨_, by rw [rowStatement, missing]; rfl, oneLine.2⟩

/-- Content is generated row by row. The scripts are those of the groups with a row for the engine,
in order and with their addresses. Without blank statements, a script has one statement for each
such row, in order, which is one line comment if the model has neither a table nor a procedure for
the row; and what is recorded is what the rows record, in order. -/
theorem contentScripts_row_by_row (builtIn : dialect ∈ all) (model : Model) :
    let scripts := dialect.contentScripts model
    let groups := model.content.filter fun group => !(dialect.compatibleRows group).isEmpty
    scripts.value.map (·.persistAs) = groups.map (·.persistAs) ∧
      scripts.value.map (fun script => script.statements.filter (· ≠ "")) =
        groups.map (fun group => (dialect.compatibleRows group).map (dialect.rowStatement model)) ∧
      scripts.diagnostics =
        (groups.flatMap fun group =>
          (dialect.compatibleRows group).flatMap (dialect.rowDiagnostics model)) ∧
      ∀ group ∈ groups, ∀ row ∈ dialect.compatibleRows group,
        dialect.rowForm model row = .missing →
          ∃ text, dialect.rowStatement model row = "-- " ++ text ∧ Text.OneLine text := by
  intro scripts groups
  have value_eq : scripts.value = _ := scripts_contentScripts builtIn model
  refine ⟨?_, ?_, ?_, fun _ _ _ _ => rowStatement_of_missing⟩
  · rw [value_eq, List.map_map]
    rfl
  · rw [value_eq, List.map_map]
    apply List.map_congr_left
    intro group _
    exact statements_rowsStatements builtIn model {} (dialect.compatibleRows group)
  · rw [flatMap_filter_nonempty]
    simp only [scripts, contentScripts, Generated.diagnostics_map, Generated.diagnostics_each,
      diagnostics_groupScript builtIn]

/-- Three groups under PostgreSQL, the second one for another engine: a call with an invalid value,
a row without a table, and an unknown column each leave one diagnostic, and no row is lost. -/
theorem contentScripts_row_by_row_failing :
    let author : Table := ⟨⟨"Author", [
      ⟨"Name", .text 20, false, false, false, false, none, false, []⟩]⟩, false, []⟩
    let archive : StoredProcedure := ⟨⟨⟨"Archive", []⟩, none, .source "", none⟩, none⟩
    let publisher : ContentRow := ⟨"Publisher", [], none⟩
    let first : ContentGroup := ⟨none, [
      ⟨"Author", [.valid "Name" (.text "Ann")], none⟩,
      ⟨"Archive", [.invalid "Year" "no year"], none⟩,
      ⟨"Author", [.valid "Name" (.text "Bo")], some ["sqlite"]⟩,
      publisher]⟩
    let content : List ContentGroup := [
      first,
      ⟨some "local", [⟨"Author", [], some ["sqlite3"]⟩]⟩,
      ⟨some "late", [⟨"Author", [.valid "Born" (.integer 1)], some ["POSTGRES"]⟩]⟩]
    let model : Model := ⟨"library", "public", [], [author], [], [], [], [archive], content⟩
    let scripts := postgresql.contentScripts model
    let groups := model.content.filter fun group => !(postgresql.compatibleRows group).isEmpty
    postgresql ∈ all ∧
      scripts.diagnostics.map (·.code) =
        [.invalidContentValue, .contentTableNotFound, .contentColumnNotFound] ∧
      scripts.value.map (·.persistAs) = [none, some "late"] ∧
      scripts.value.map (fun script => script.statements.filter (· ≠ "")) =
        groups.map (fun group =>
          (postgresql.compatibleRows group).map (postgresql.rowStatement model)) ∧
      scripts.diagnostics =
        (groups.flatMap fun group =>
          (postgresql.compatibleRows group).flatMap (postgresql.rowDiagnostics model)) ∧
      postgresql.rowForm model publisher = .missing ∧
      ∃ text, postgresql.rowStatement model publisher = "-- " ++ text ∧ Text.OneLine text := by
  intro author archive publisher first content model scripts groups
  have builtIn : postgresql ∈ all := List.mem_cons_self
  have missing : postgresql.rowForm model publisher = .missing := rfl
  have first_mem : first ∈ groups :=
    List.mem_filter.mpr ⟨List.mem_cons_self, by decide +kernel⟩
  have publisher_mem : publisher ∈ postgresql.compatibleRows first :=
    List.mem_filter.mpr ⟨by simp [first], by decide +kernel⟩
  obtain ⟨addresses, statements, diagnostics, commented⟩ := contentScripts_row_by_row builtIn model
  refine ⟨builtIn, by decide +kernel, ?_, statements, diagnostics, missing, ?_⟩
  · rw [addresses]
    decide +kernel
  · exact commented first first_mem publisher publisher_mem missing

end Dialect

end SchemaCompiler
