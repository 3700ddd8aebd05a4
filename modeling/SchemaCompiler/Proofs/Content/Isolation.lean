import SchemaCompiler.Proofs.Content.Script

/-!
# One row cannot affect another

The rows of a group share a cursor and the lists of statements and diagnostics. This file shows that
the values of a row are seen in its own statement and in its own diagnostics, and nowhere else: two
models that differ in the values of one row have the same scripts but for that statement, and the
same diagnostics but for those.

The reason is in the step from one row to the next. The form of a row is decided by its entity, and
the form decides the blank statements before the row and the cursor behind it. So whatever the
values of a row are, the rows after it start from the same cursor. A run over many rows can be cut
at any of them, by induction on the rows before the cut.
-/

namespace SchemaCompiler

/-! ## The step of one row -/

theorem RowForm.filter_separators (cursor : ContentCursor) (form : RowForm) :
    (form.separators cursor).filter (· ≠ "") = [] := by
  rw [List.filter_eq_nil_iff]
  intro separator separator_mem
  simp [eq_empty_of_mem_separators separator_mem]

namespace Dialect

variable {dialect : Dialect} {model : Model}

/-- The form of a row decides about the blank statements before its own and about the cursor that is
left. -/
theorem value_rowStatements_withNaming (builtIn : dialect ∈ all) (naming : Naming) (model : Model)
    (cursor : ContentCursor) (row : ContentRow) :
    let named := dialect.withNaming naming
    let form := named.rowForm model row
    (named.rowStatements (named.scope model) cursor row).value =
      (form.separators cursor ++ [named.rowStatement model row], form.cursorAfter cursor) := by
  intro named
  rcases eq_named_or_eq_sqlite builtIn with ⟨name, aliases, _, rfl⟩ | rfl
  · have form_eq : named.rowForm model row =
        if (model.procedure? row.entity).isSome then .call
        else (model.table? row.entity).elim .missing .insert := by
      simp only [named, rowForm, withNaming, Postgres.named, true_and]
    rw [rowStatement, form_eq]
    exact Scope.value_callOrInsertStatements _ cursor row
  · have form_eq : named.rowForm model row = (model.table? row.entity).elim .missing .insert :=
      if_neg (by simp [named, withNaming, sqlite])
    rw [rowStatement, form_eq]
    exact Scope.value_insertStatements _ cursor row

theorem value_rowStatements (builtIn : dialect ∈ all) (model : Model) (cursor : ContentCursor)
    (row : ContentRow) :
    let form := dialect.rowForm model row
    (dialect.rowStatements (dialect.scope model) cursor row).value =
      (form.separators cursor ++ [dialect.rowStatement model row], form.cursorAfter cursor) :=
  value_rowStatements_withNaming builtIn dialect.naming model cursor row

/-! ## A run over rows -/

/-- The cursor behind rows that follow each other. -/
def cursorBehind (dialect : Dialect) (model : Model) (cursor : ContentCursor)
    (rows : List ContentRow) : ContentCursor :=
  rows.foldl (fun cursor row => (dialect.rowForm model row).cursorAfter cursor) cursor

/-- The statements for rows that follow each other, the blank ones included. -/
def statementsFrom (dialect : Dialect) (model : Model) (cursor : ContentCursor) :
    List ContentRow → List String
  | [] => []
  | row :: rows =>
    let form := dialect.rowForm model row
    form.separators cursor ++ dialect.rowStatement model row
      :: dialect.statementsFrom model (form.cursorAfter cursor) rows

theorem value_rowsStatements (builtIn : dialect ∈ all) (model : Model) (cursor : ContentCursor)
    (rows : List ContentRow) :
    (dialect.rowsStatements (dialect.scope model) cursor rows).value =
      dialect.statementsFrom model cursor rows := by
  induction rows generalizing cursor with
  | nil => rfl
  | cons row rows ih =>
      simp only [rowsStatements, Generated.value_bind, Generated.value_pure,
        value_rowStatements builtIn, ih, statementsFrom, List.append_assoc, List.singleton_append]

theorem statementsFrom_append (dialect : Dialect) (model : Model) (cursor : ContentCursor)
    (earlier later : List ContentRow) :
    dialect.statementsFrom model cursor (earlier ++ later) =
      dialect.statementsFrom model cursor earlier ++
        dialect.statementsFrom model (dialect.cursorBehind model cursor earlier) later := by
  induction earlier generalizing cursor with
  | nil => rfl
  | cons row rows ih =>
      simp only [List.cons_append, statementsFrom, ih, cursorBehind, List.foldl_cons,
        List.append_assoc]

theorem filter_statementsFrom (builtIn : dialect ∈ all) (model : Model) (cursor : ContentCursor)
    (rows : List ContentRow) :
    (dialect.statementsFrom model cursor rows).filter (· ≠ "") =
      rows.map (dialect.rowStatement model) := by
  rw [← value_rowsStatements builtIn, statements_rowsStatements builtIn]

/-! ## A run over groups -/

/-- The scripts for groups that follow each other. -/
def scriptsFor (dialect : Dialect) (model : Model) (groups : List ContentGroup) :
    List ContentScript :=
  (groups.filter fun group => !(dialect.compatibleRows group).isEmpty).map fun group =>
    ⟨dialect.statementsFrom model {} (dialect.compatibleRows group), group.persistAs⟩

theorem value_contentScripts (builtIn : dialect ∈ all) (model : Model) :
    (dialect.contentScripts model).value = dialect.scriptsFor model model.content := by
  rw [scripts_contentScripts builtIn, scriptsFor]
  apply List.map_congr_left
  intro group _
  rw [groupScript, Generated.value_map, value_rowsStatements builtIn]

theorem diagnostics_contentScripts (builtIn : dialect ∈ all) (model : Model) :
    (dialect.contentScripts model).diagnostics =
      model.content.flatMap fun group =>
        (dialect.compatibleRows group).flatMap (dialect.rowDiagnostics model) := by
  simp only [contentScripts, Generated.diagnostics_map, Generated.diagnostics_each,
    diagnostics_groupScript builtIn]

theorem scriptsFor_append (dialect : Dialect) (model : Model) (earlier later : List ContentGroup) :
    dialect.scriptsFor model (earlier ++ later) =
      dialect.scriptsFor model earlier ++ dialect.scriptsFor model later := by
  simp only [scriptsFor, List.filter_append, List.map_append]

theorem scriptsFor_cons {group : ContentGroup} (rows_ne : dialect.compatibleRows group ≠ [])
    (model : Model) (groups : List ContentGroup) :
    dialect.scriptsFor model (group :: groups) =
      ⟨dialect.statementsFrom model {} (dialect.compatibleRows group), group.persistAs⟩
        :: dialect.scriptsFor model groups := by
  simp [scriptsFor, rows_ne]

theorem scriptsFor_cons_congr {group other : ContentGroup}
    (sameRows : dialect.compatibleRows group = dialect.compatibleRows other)
    (sameAddress : group.persistAs = other.persistAs) (model : Model)
    (groups : List ContentGroup) :
    dialect.scriptsFor model (group :: groups) = dialect.scriptsFor model (other :: groups) := by
  simp only [scriptsFor, List.filter_cons, sameRows]
  split <;> simp [sameRows, sameAddress]

end Dialect

/-! ## A row with open values -/

/-- A model with a row of content whose values are left open. Two models differ in the values of
one row only if they fill the same open row. -/
structure OpenRow where
  /-- The model. Its content is that around the row. -/
  model : Model
  groupsBefore : List ContentGroup
  /-- The artifact that the group of the row is addressed to. -/
  persistAs : Option String
  rowsBefore : List ContentRow
  entity : String
  engines : Option (List String)
  rowsAfter : List ContentRow
  groupsAfter : List ContentGroup

namespace OpenRow

/-- The row with the given values. -/
def row (place : OpenRow) (values : List AttributeValue) : ContentRow :=
  ⟨place.entity, values, place.engines⟩

/-- The group of the row. -/
def group (place : OpenRow) (values : List AttributeValue) : ContentGroup :=
  ⟨place.persistAs, place.rowsBefore ++ place.row values :: place.rowsAfter⟩

/-- The model with the given values in the row. -/
def filled (place : OpenRow) (values : List AttributeValue) : Model :=
  { place.model with
    content := place.groupsBefore ++ place.group values :: place.groupsAfter }

variable {dialect : Dialect} {place : OpenRow}

-- Rows are generated without regard to other content.
theorem rowStatement_filled (dialect : Dialect) (place : OpenRow) (values : List AttributeValue) :
    dialect.rowStatement (place.filled values) = dialect.rowStatement place.model :=
  rfl

theorem rowDiagnostics_filled (dialect : Dialect) (place : OpenRow)
    (values : List AttributeValue) :
    dialect.rowDiagnostics (place.filled values) = dialect.rowDiagnostics place.model :=
  rfl

theorem statementsFrom_filled (dialect : Dialect) (place : OpenRow) (values : List AttributeValue)
    (cursor : ContentCursor) (rows : List ContentRow) :
    dialect.statementsFrom (place.filled values) cursor rows =
      dialect.statementsFrom place.model cursor rows := by
  induction rows generalizing cursor with
  | nil => rfl
  | cons row rows ih =>
      rw [Dialect.statementsFrom, ih]
      rfl

theorem scriptsFor_filled (dialect : Dialect) (place : OpenRow) (values : List AttributeValue)
    (groups : List ContentGroup) :
    dialect.scriptsFor (place.filled values) groups = dialect.scriptsFor place.model groups := by
  simp only [Dialect.scriptsFor, statementsFrom_filled]

/-- The rows before the open one that are for the engine. -/
def compatibleBefore (dialect : Dialect) (place : OpenRow) : List ContentRow :=
  place.rowsBefore.filter (·.isCompatible dialect.runsOn)

/-- The rows after the open one that are for the engine. -/
def compatibleAfter (dialect : Dialect) (place : OpenRow) : List ContentRow :=
  place.rowsAfter.filter (·.isCompatible dialect.runsOn)

theorem compatibleRows_group_of_included {values : List AttributeValue}
    (included : (place.row values).isCompatible dialect.runsOn) :
    dialect.compatibleRows (place.group values) =
      place.compatibleBefore dialect ++ place.row values :: place.compatibleAfter dialect := by
  rw [Dialect.compatibleRows, group, List.filter_append, List.filter_cons, if_pos included]
  rfl

theorem compatibleRows_group_of_excluded {values : List AttributeValue}
    (excluded : (place.row values).isCompatible dialect.runsOn = false) :
    dialect.compatibleRows (place.group values) =
      place.compatibleBefore dialect ++ place.compatibleAfter dialect := by
  rw [Dialect.compatibleRows, group, List.filter_append, List.filter_cons,
    if_neg (by simp [excluded])]
  rfl

/-! ### The surroundings of the row -/

/-- The form of the row, whatever its values are. -/
def form (dialect : Dialect) (place : OpenRow) : RowForm :=
  dialect.rowForm place.model (place.row [])

/-- The cursor that the row starts from. -/
def cursor (dialect : Dialect) (place : OpenRow) : ContentCursor :=
  dialect.cursorBehind place.model {} (place.compatibleBefore dialect)

/-- The statements of the script before that of the row. -/
def statementsBefore (dialect : Dialect) (place : OpenRow) : List String :=
  dialect.statementsFrom place.model {} (place.compatibleBefore dialect) ++
    (place.form dialect).separators (place.cursor dialect)

/-- The statements of the script after that of the row. -/
def statementsAfter (dialect : Dialect) (place : OpenRow) : List String :=
  dialect.statementsFrom place.model ((place.form dialect).cursorAfter (place.cursor dialect))
    (place.compatibleAfter dialect)

/-- The values of the row decide neither about what is before its statement nor about what comes
after it. -/
theorem statementsFrom_group {values : List AttributeValue}
    (included : (place.row values).isCompatible dialect.runsOn) :
    dialect.statementsFrom place.model {} (dialect.compatibleRows (place.group values)) =
      place.statementsBefore dialect ++ dialect.rowStatement place.model (place.row values)
        :: place.statementsAfter dialect := by
  have form_eq : dialect.rowForm place.model (place.row values) = place.form dialect := rfl
  rw [compatibleRows_group_of_included included, Dialect.statementsFrom_append,
    Dialect.statementsFrom, form_eq, statementsBefore, List.append_assoc]
  rfl

theorem filter_statementsBefore (builtIn : dialect ∈ Dialect.all) (place : OpenRow) :
    (place.statementsBefore dialect).filter (· ≠ "") =
      (place.compatibleBefore dialect).map (dialect.rowStatement place.model) := by
  rw [statementsBefore, List.filter_append, Dialect.filter_statementsFrom builtIn,
    RowForm.filter_separators, List.append_nil]

theorem value_contentScripts_filled (builtIn : dialect ∈ Dialect.all) (place : OpenRow)
    (values : List AttributeValue) :
    (dialect.contentScripts (place.filled values)).value =
      dialect.scriptsFor place.model place.groupsBefore ++
        dialect.scriptsFor place.model (place.group values :: place.groupsAfter) := by
  rw [Dialect.value_contentScripts builtIn, scriptsFor_filled, filled, Dialect.scriptsFor_append]

theorem diagnostics_contentScripts_filled (builtIn : dialect ∈ Dialect.all) (place : OpenRow)
    (values : List AttributeValue) :
    let recorded (rows : List ContentRow) := rows.flatMap (dialect.rowDiagnostics place.model)
    (dialect.contentScripts (place.filled values)).diagnostics =
      place.groupsBefore.flatMap (recorded ∘ dialect.compatibleRows) ++
        (recorded (dialect.compatibleRows (place.group values)) ++
          place.groupsAfter.flatMap (recorded ∘ dialect.compatibleRows)) := by
  intro recorded
  rw [Dialect.diagnostics_contentScripts builtIn, rowDiagnostics_filled, filled,
    List.flatMap_append, List.flatMap_cons]
  rfl

/-- What is recorded before the diagnostics of the row. -/
def diagnosticsBefore (dialect : Dialect) (place : OpenRow) : List Diagnostic :=
  (place.groupsBefore.flatMap dialect.compatibleRows ++ place.compatibleBefore dialect).flatMap
    (dialect.rowDiagnostics place.model)

/-- What is recorded after the diagnostics of the row. -/
def diagnosticsAfter (dialect : Dialect) (place : OpenRow) : List Diagnostic :=
  (place.compatibleAfter dialect ++ place.groupsAfter.flatMap dialect.compatibleRows).flatMap
    (dialect.rowDiagnostics place.model)

theorem value_contentScripts_of_included (builtIn : dialect ∈ Dialect.all)
    {values : List AttributeValue} (included : (place.row values).isCompatible dialect.runsOn) :
    (dialect.contentScripts (place.filled values)).value =
      dialect.scriptsFor place.model place.groupsBefore ++
        ⟨place.statementsBefore dialect ++
            dialect.rowStatement (place.filled values) (place.row values)
          :: place.statementsAfter dialect, place.persistAs⟩
        :: dialect.scriptsFor place.model place.groupsAfter := by
  have rows_ne : dialect.compatibleRows (place.group values) ≠ [] := by
    rw [compatibleRows_group_of_included included]
    exact List.append_ne_nil_of_right_ne_nil _ (List.cons_ne_nil _ _)
  rw [value_contentScripts_filled builtIn, Dialect.scriptsFor_cons rows_ne,
    statementsFrom_group included, rowStatement_filled]
  rfl

theorem diagnostics_contentScripts_of_included (builtIn : dialect ∈ Dialect.all)
    {values : List AttributeValue} (included : (place.row values).isCompatible dialect.runsOn) :
    (dialect.contentScripts (place.filled values)).diagnostics =
      place.diagnosticsBefore dialect ++
        dialect.rowDiagnostics (place.filled values) (place.row values) ++
          place.diagnosticsAfter dialect := by
  rw [diagnostics_contentScripts_filled builtIn, compatibleRows_group_of_included included,
    rowDiagnostics_filled]
  simp only [diagnosticsBefore, diagnosticsAfter, List.flatMap_append, List.flatMap_cons,
    List.flatMap_assoc, Function.comp_def, List.append_assoc]

end OpenRow

/-! ## Two runs -/

namespace Dialect

variable {dialect : Dialect}

/-- No row can affect another. Two models that differ in the values of one row have the same
scripts, but for the one statement of that row, and the same diagnostics, but for those of that row,
which stand side by side. If the row is for another engine, nothing differs at all. -/
theorem contentScripts_filled (builtIn : dialect ∈ all) (place : OpenRow)
    (first second : List AttributeValue) :
    let one := dialect.contentScripts (place.filled first)
    let other := dialect.contentScripts (place.filled second)
    let compatible (row : ContentRow) := row.isCompatible dialect.runsOn
    (compatible (place.row first) = false →
        one.value = other.value ∧ one.diagnostics = other.diagnostics) ∧
      (compatible (place.row first) →
        ∃ scriptsBefore scriptsAfter statementsBefore statementsAfter diagnosticsBefore
            diagnosticsAfter,
          one.value = scriptsBefore ++
              ⟨statementsBefore ++ dialect.rowStatement (place.filled first) (place.row first)
                :: statementsAfter, place.persistAs⟩ :: scriptsAfter ∧
            other.value = scriptsBefore ++
              ⟨statementsBefore ++ dialect.rowStatement (place.filled second) (place.row second)
                :: statementsAfter, place.persistAs⟩ :: scriptsAfter ∧
            one.diagnostics = diagnosticsBefore ++
              dialect.rowDiagnostics (place.filled first) (place.row first) ++ diagnosticsAfter ∧
            other.diagnostics = diagnosticsBefore ++
              dialect.rowDiagnostics (place.filled second) (place.row second) ++
                diagnosticsAfter ∧
            scriptsBefore.length = (place.groupsBefore.filter fun group =>
              !(dialect.compatibleRows group).isEmpty).length ∧
            statementsBefore.filter (· ≠ "") =
              (place.rowsBefore.filter compatible).map
                (dialect.rowStatement (place.filled first))) := by
  intro one other compatible
  refine ⟨fun excluded => ?_, fun included => ?_⟩
  -- Without the row, the group is the same for both values.
  · have around (values : List AttributeValue) : dialect.compatibleRows (place.group values) =
        place.compatibleBefore dialect ++ place.compatibleAfter dialect :=
      OpenRow.compatibleRows_group_of_excluded excluded
    have sameRows : dialect.compatibleRows (place.group first) =
        dialect.compatibleRows (place.group second) := by
      rw [around first, around second]
    constructor
    · simp only [one, other, OpenRow.value_contentScripts_filled builtIn,
        scriptsFor_cons_congr sameRows rfl]
    · simp only [one, other, OpenRow.diagnostics_contentScripts_filled builtIn, sameRows]
  · exact ⟨dialect.scriptsFor place.model place.groupsBefore,
      dialect.scriptsFor place.model place.groupsAfter, place.statementsBefore dialect,
      place.statementsAfter dialect, place.diagnosticsBefore dialect,
      place.diagnosticsAfter dialect,
      OpenRow.value_contentScripts_of_included builtIn included,
      OpenRow.value_contentScripts_of_included builtIn included,
      OpenRow.diagnostics_contentScripts_of_included builtIn included,
      OpenRow.diagnostics_contentScripts_of_included builtIn included,
      List.length_map _, OpenRow.filter_statementsBefore builtIn place⟩

/-- A row between a call and a row of its own table under PostgreSQL. It is filled once with a name
and once with a refused value and a column that does not exist. The second way leaves two
diagnostics, and its neighbours are as after the first. -/
theorem contentScripts_filled_refused :
    let author : Table := ⟨⟨"Author", [
      ⟨"Name", .text 20, false, false, false, false, none, false, []⟩]⟩, false, []⟩
    let archive : StoredProcedure := ⟨⟨⟨"Archive", []⟩, none, .source "", none⟩, none⟩
    let place : OpenRow :=
      { model := ⟨"library", "public", [], [author], [], [], [], [archive], []⟩
        groupsBefore := [⟨none, [⟨"Author", [.valid "Name" (.text "Ann")], none⟩]⟩]
        persistAs := some "late"
        rowsBefore := [⟨"Archive", [.invalid "Year" "no year"], none⟩]
        entity := "Author"
        engines := some ["POSTGRES"]
        rowsAfter := [⟨"Author", [.valid "Name" (.text "Bo")], none⟩]
        groupsAfter := [] }
    let named := [AttributeValue.valid "Name" (.text "Cy")]
    let refused := [AttributeValue.invalid "Name" "no name", .valid "Born" (.integer 1)]
    let one := postgresql.contentScripts (place.filled named)
    let other := postgresql.contentScripts (place.filled refused)
    postgresql ∈ all ∧
      (place.row named).isCompatible postgresql.runsOn ∧
      one.diagnostics.map (·.code) = [.invalidContentValue] ∧
      other.diagnostics.map (·.code) =
        [.invalidContentValue, .invalidContentValue, .contentColumnNotFound] ∧
      ∃ scriptsBefore scriptsAfter statementsBefore statementsAfter,
        one.value = scriptsBefore ++
            ⟨statementsBefore ++ postgresql.rowStatement (place.filled named) (place.row named)
              :: statementsAfter, some "late"⟩ :: scriptsAfter ∧
          other.value = scriptsBefore ++
            ⟨statementsBefore ++ postgresql.rowStatement (place.filled refused) (place.row refused)
              :: statementsAfter, some "late"⟩ :: scriptsAfter ∧
          scriptsBefore.length = 1 ∧
          statementsBefore.filter (· ≠ "") =
            [postgresql.rowStatement (place.filled named)
              ⟨"Archive", [.invalid "Year" "no year"], none⟩] := by
  intro author archive place named refused one other
  have builtIn : postgresql ∈ all := List.mem_cons_self
  have included : (place.row named).isCompatible postgresql.runsOn := by decide +kernel
  obtain ⟨scriptsBefore, scriptsAfter, statementsBefore, statementsAfter, -, -, value_named,
    value_refused, -, -, scripts, statements⟩ :=
    (contentScripts_filled builtIn place named refused).2 included
  exact ⟨builtIn, included, by decide +kernel, by decide +kernel, scriptsBefore, scriptsAfter,
    statementsBefore, statementsAfter, value_named, value_refused, scripts, statements⟩

end Dialect

end SchemaCompiler
