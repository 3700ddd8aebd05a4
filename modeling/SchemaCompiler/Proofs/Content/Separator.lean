import Mathlib.Data.List.Basic
import SchemaCompiler.Proofs.Content.Script

/-!
# Blank statements between tables

Where rows become INSERTs, a blank statement stands before a row exactly when the row changes the
table: the row has a table, and the nearest row before it that has one names another. Rows for other
engines and rows without a table do not count, and every group starts afresh.

Generation remembers the table of the last INSERT in a cursor. Here the rows are read with all rows
before them instead, in `separated`, and an induction on the rows shows that the cursor holds what
these rows say. What the text of a script looks like is then read off `separated`.
-/

namespace SchemaCompiler

theorem ContentCursor.separates_eq_true_iff (cursor : ContentCursor) (table : String) :
    cursor.separates table = true ↔ ∃ previous ∈ cursor.previous, previous ≠ table := by
  rcases cursor with ⟨_ | previous⟩
  · simp [separates, needsSeparator, isFresh]
  · simp [separates, needsSeparator, isFresh]

namespace Dialect

variable {dialect : Dialect} {model : Model} {group : ContentGroup} {row : ContentRow}
  {before earlier rows : List ContentRow}

/-- Under a dialect, the rows of a group that are for the engine become INSERTs: the dialect calls
no procedures, or these rows name none. -/
def InsertsRows (dialect : Dialect) (model : Model) (group : ContentGroup) : Prop :=
  dialect.rowStatements = Scope.insertStatements ∨
    dialect.rowStatements = Scope.callOrInsertStatements ∧
      ∀ row ∈ dialect.compatibleRows group, model.procedure? row.entity = none

/-- The statement for a row that is not a call: an INSERT, or a comment if it has no table. -/
def insertedText (dialect : Dialect) (model : Model) (row : ContentRow) : String :=
  ((model.table? row.entity).elim RowForm.missing RowForm.insert).statement
    (dialect.scope model) row

/-- The rows for the engine that have a table. -/
def tableRows (dialect : Dialect) (model : Model) (rows : List ContentRow) : List ContentRow :=
  rows.filter fun row => row.isCompatible dialect.runsOn && (model.table? row.entity).isSome

/-- A row changes the table: it has one, and the nearest row for the engine before it that has one
names another. -/
def ChangesTable (dialect : Dialect) (model : Model) (before : List ContentRow)
    (row : ContentRow) : Prop :=
  (model.table? row.entity).isSome ∧
    ∃ nearest ∈ (dialect.tableRows model before).getLast?, nearest.entity ≠ row.entity

instance : Decidable (dialect.ChangesTable model before row) :=
  inferInstanceAs (Decidable (_ ∧ _))

/-- The statements for rows that follow others, a blank one before each change of the table. -/
def separated (dialect : Dialect) (model : Model) (before : List ContentRow) :
    List ContentRow → List String
  | [] => []
  | row :: rows =>
    (if dialect.ChangesTable model before row then [""] else [])
      ++ dialect.insertedText model row :: dialect.separated model (before ++ [row]) rows

/-! ## The cursor -/

/-- A cursor holds the table of the nearest row before, if any row before has one. -/
def Remembers (dialect : Dialect) (model : Model) (cursor : ContentCursor)
    (before : List ContentRow) : Prop :=
  cursor.previous = (dialect.tableRows model before).getLast?.map (·.entity)

theorem name_eq_of_table? {table : Table} (found : model.table? row.entity = some table) :
    table.name = row.entity := by
  simpa using List.find?_some found

theorem tableRows_append (dialect : Dialect) (model : Model) (before rows : List ContentRow) :
    dialect.tableRows model (before ++ rows) =
      dialect.tableRows model before ++ dialect.tableRows model rows :=
  List.filter_append ..

theorem separators_eq {cursor : ContentCursor} (remembers : dialect.Remembers model cursor before) :
    ((model.table? row.entity).elim RowForm.missing RowForm.insert).separators cursor =
      if dialect.ChangesTable model before row then [""] else [] := by
  cases found : model.table? row.entity with
  | none => simp [RowForm.separators, ChangesTable, found]
  | some table =>
      have changes : cursor.separates table.name = true ↔
          dialect.ChangesTable model before row := by
        rw [cursor.separates_eq_true_iff, remembers, name_eq_of_table? found, ChangesTable, found]
        simp
      simp only [Option.elim_some, RowForm.separators, changes]

theorem Remembers.cursorAfter {cursor : ContentCursor}
    (remembers : dialect.Remembers model cursor before)
    (compatible : row.isCompatible dialect.runsOn) :
    dialect.Remembers model
      (((model.table? row.entity).elim RowForm.missing RowForm.insert).cursorAfter cursor)
      (before ++ [row]) := by
  rw [Remembers, tableRows_append]
  cases found : model.table? row.entity with
  | none =>
      have nothing : dialect.tableRows model [row] = [] := by simp [tableRows, found]
      rw [nothing, List.append_nil]
      exact remembers
  | some table =>
      simp [tableRows, compatible, found, RowForm.cursorAfter, ContentCursor.advance,
        name_eq_of_table? found]

theorem InsertsRows.rowStatements_eq (inserts : dialect.InsertsRows model group)
    (row_mem : row ∈ dialect.compatibleRows group) (cursor : ContentCursor) :
    dialect.rowStatements (dialect.scope model) cursor row =
      (dialect.scope model).insertStatements cursor row := by
  rcases inserts with default | ⟨calls, noProcedure⟩
  · rw [default]
  · have none : (dialect.scope model).model.procedure? row.entity = none := noProcedure row row_mem
    simp [calls, Scope.callOrInsertStatements, none]

/-- The statements from a cursor are those after the rows that the cursor remembers. -/
theorem value_rowsStatements_of_remembers {cursor : ContentCursor}
    (inserts : dialect.InsertsRows model group)
    (rows_sub : ∀ row ∈ rows, row ∈ dialect.compatibleRows group)
    (remembers : dialect.Remembers model cursor before) :
    (dialect.rowsStatements (dialect.scope model) cursor rows).value =
      dialect.separated model before rows := by
  induction rows generalizing cursor before with
  | nil => rfl
  | cons row rows ih =>
      have row_mem := rows_sub row List.mem_cons_self
      have compatible : row.isCompatible dialect.runsOn := (List.mem_filter.mp row_mem).2
      have value := (dialect.scope model).value_insertStatements cursor row
      change _ = (((model.table? row.entity).elim RowForm.missing RowForm.insert).separators cursor
        ++ [dialect.insertedText model row], _) at value
      rw [separators_eq remembers] at value
      have later := ih (fun row row_mem => rows_sub row (List.mem_cons_of_mem _ row_mem))
        (remembers.cursorAfter compatible)
      simp only [rowsStatements, inserts.rowStatements_eq row_mem, Generated.value_bind,
        Generated.value_pure, value, separated, List.append_assoc, List.singleton_append]
      congr 2

/-- Every group starts afresh. -/
theorem statements_groupScript (inserts : dialect.InsertsRows model group) :
    (dialect.groupScript model group).value.statements =
      dialect.separated model [] (dialect.compatibleRows group) :=
  value_rowsStatements_of_remembers inserts (fun _ row_mem => row_mem) rfl

/-! ## Blank statements -/

theorem insertedText_ne_empty (dialect : Dialect) (model : Model) (row : ContentRow) :
    dialect.insertedText model row ≠ "" :=
  RowForm.statement_ne_empty _

theorem separated_append (dialect : Dialect) (model : Model)
    (before earlier rows : List ContentRow) :
    dialect.separated model before (earlier ++ rows) =
      dialect.separated model before earlier ++
        dialect.separated model (before ++ earlier) rows := by
  induction earlier generalizing before with
  | nil => simp [separated]
  | cons row earlier ih => simp [separated, ih, List.append_assoc]

theorem filter_separated (dialect : Dialect) (model : Model) (before rows : List ContentRow) :
    (dialect.separated model before rows).filter (· ≠ "") =
      rows.map (dialect.insertedText model) := by
  induction rows generalizing before with
  | nil => rfl
  | cons row rows ih =>
      have text_ne := dialect.insertedText_ne_empty model row
      rw [separated]
      split <;> simpa [text_ne] using ih (before ++ [row])

theorem getLast?_separated (dialect : Dialect) (model : Model) (before rows : List ContentRow) :
    (dialect.separated model before rows).getLast? =
      rows.getLast?.map (dialect.insertedText model) := by
  rcases List.eq_nil_or_concat rows with rfl | ⟨rows, row, rfl⟩
  · rfl
  · simp [separated_append, separated]

theorem head?_separated (dialect : Dialect) (model : Model) (rows : List ContentRow) :
    (dialect.separated model [] rows).head? = rows.head?.map (dialect.insertedText model) := by
  cases rows with
  | nil => rfl
  | cons row rows =>
      have unchanged : ¬dialect.ChangesTable model [] row := by simp [ChangesTable, tableRows]
      rw [separated, if_neg unchanged]
      rfl

/-- The statement for a row stands behind those for the rows before it, and right behind a blank one
if the row changes the table. -/
theorem exists_separated_eq (dialect : Dialect) (model : Model) (earlier later : List ContentRow)
    (row : ContentRow) :
    ∃ front back, dialect.separated model [] (earlier ++ row :: later) =
        front ++ dialect.insertedText model row :: back ∧
      front.filter (· ≠ "") = earlier.map (dialect.insertedText model) ∧
      back.filter (· ≠ "") = later.map (dialect.insertedText model) ∧
      (front.getLast? = some "" ↔ dialect.ChangesTable model earlier row) := by
  rw [separated_append, separated, ← List.append_assoc, List.nil_append]
  refine ⟨_, _, rfl, ?_, filter_separated .., ?_⟩
  · rw [List.filter_append, filter_separated]
    split <;> simp
  · rw [List.getLast?_append, getLast?_separated]
    by_cases changes : dialect.ChangesTable model earlier row
    · simp [changes]
    · simp [changes, insertedText_ne_empty]

theorem tail_of_cons_eq {text : String} {rest front back : List String} (text_ne : text ≠ "")
    (eq : text :: rest = front ++ "" :: back) :
    ∃ tail, front = text :: tail ∧ rest = tail ++ "" :: back := by
  cases front with
  | nil =>
      simp only [List.nil_append, List.cons.injEq] at eq
      exact absurd eq.1 text_ne
  | cons first tail =>
      simp only [List.cons_append, List.cons.injEq] at eq
      exact ⟨tail, by rw [eq.1], eq.2⟩

/-- A blank statement is the one before the first row, or stands behind the statement for it. -/
theorem blank_of_separated_cons {front back : List String}
    (blank : dialect.separated model before (row :: rows) = front ++ "" :: back) :
    let text := dialect.insertedText model row
    let rest := dialect.separated model (before ++ [row]) rows
    (dialect.ChangesTable model before row ∧ front = [] ∧ back = text :: rest) ∨
      ∃ tail, rest = tail ++ "" :: back ∧
        front.filter (· ≠ "") = text :: tail.filter (· ≠ "") := by
  intro text rest
  have text_ne : text ≠ "" := dialect.insertedText_ne_empty model row
  rw [separated] at blank
  by_cases changes : dialect.ChangesTable model before row
  · rw [if_pos changes] at blank
    cases front with
    | nil =>
        simp only [List.nil_append, List.singleton_append, List.cons.injEq, true_and] at blank
        exact .inl ⟨changes, rfl, blank.symm⟩
    | cons first front =>
        simp only [List.cons_append, List.cons.injEq] at blank
        rcases blank with ⟨rfl, blank⟩
        rcases tail_of_cons_eq text_ne blank with ⟨tail, rfl, rest_eq⟩
        exact .inr ⟨tail, rest_eq, by simp [text_ne]⟩
  · rw [if_neg changes, List.nil_append] at blank
    rcases tail_of_cons_eq text_ne blank with ⟨tail, rfl, rest_eq⟩
    exact .inr ⟨tail, rest_eq, by simp [text_ne]⟩

/-- A blank statement stands right before the statement for a row that changes the table. -/
theorem exists_of_separated_eq {front back : List String}
    (blank : dialect.separated model before rows = front ++ "" :: back) :
    ∃ earlier row later rest, rows = earlier ++ row :: later ∧
      dialect.ChangesTable model (before ++ earlier) row ∧
      back = dialect.insertedText model row :: rest ∧
      front.filter (· ≠ "") = earlier.map (dialect.insertedText model) := by
  induction rows generalizing before front with
  | nil => simp [separated] at blank
  | cons row rows ih =>
      rcases blank_of_separated_cons blank with
        ⟨changes, rfl, back_eq⟩ | ⟨tail, rest_eq, front_eq⟩
      · exact ⟨[], row, rows, _, rfl, by simpa using changes, back_eq, rfl⟩
      · rcases ih rest_eq with ⟨earlier, other, later, rest, rfl, changes, back_eq, tail_eq⟩
        refine ⟨row :: earlier, other, later, rest, rfl, by simpa using changes, back_eq, ?_⟩
        rw [front_eq, tail_eq]
        rfl

/-! ## Rows that do not count -/

theorem changesTable_congr {other : List ContentRow}
    (same : dialect.tableRows model before = dialect.tableRows model other) :
    dialect.ChangesTable model before row ↔ dialect.ChangesTable model other row := by
  simp only [ChangesTable, same]

/-- A statement that is a comment as a whole. -/
def isLineComment (statement : String) : Bool :=
  "-- ".toList.isPrefixOf statement.toList

theorem isLineComment_insertedText (dialect : Dialect) (model : Model) (row : ContentRow) :
    isLineComment (dialect.insertedText model row) = (model.table? row.entity).isNone := by
  cases found : model.table? row.entity with
  | none =>
      simp only [isLineComment, insertedText, found, Option.elim_none, RowForm.statement,
        Diagnostic.asLineComment, String.toList_append, Option.isNone_none,
        List.isPrefixOf_iff_prefix]
      exact List.prefix_append _ _
  | some table =>
      simp only [isLineComment, insertedText, found, Option.elim_some, RowForm.statement]
      unfold Scope.insertText
      simp only [String.append_assoc, String.toList_append]
      rfl

/-- Without comments, the statements are those for the rows with a table. -/
theorem filter_separated_tableRows {other : List ContentRow}
    (compatible : ∀ row ∈ rows, row.isCompatible dialect.runsOn)
    (same : dialect.tableRows model before = dialect.tableRows model other) :
    (dialect.separated model before rows).filter (!isLineComment ·) =
      dialect.separated model other (dialect.tableRows model rows) := by
  induction rows generalizing before other with
  | nil => rfl
  | cons row rows ih =>
      have row_compatible := compatible row List.mem_cons_self
      have later {other : List ContentRow}
          (same : dialect.tableRows model (before ++ [row]) = dialect.tableRows model other) :=
        ih (fun row row_mem => compatible row (List.mem_cons_of_mem _ row_mem)) same
      have comment := dialect.isLineComment_insertedText model row
      cases found : model.table? row.entity with
      | none =>
          have changes : ¬dialect.ChangesTable model before row := by simp [ChangesTable, found]
          have skipped : dialect.tableRows model (row :: rows) = dialect.tableRows model rows := by
            simp [tableRows, found]
          rw [separated, if_neg changes, skipped, List.nil_append,
            List.filter_cons_of_neg (by simp [comment, found])]
          apply later
          simpa [tableRows_append, tableRows, found] using same
      | some table =>
          have kept : dialect.tableRows model (row :: rows) =
              row :: dialect.tableRows model rows := by
            simp [tableRows, found, row_compatible]
          rw [separated, kept, separated, List.filter_append,
            List.filter_cons_of_pos (by simp [comment, found])]
          congr 1
          · simp only [changesTable_congr same]
            split <;> rfl
          · congr 1
            apply later
            simp only [tableRows_append, same]

/-! ## Scripts -/

theorem compatibleRows_split {later : List ContentRow}
    (rows_eq : group.rows = earlier ++ row :: later)
    (compatible : row.isCompatible dialect.runsOn) :
    dialect.compatibleRows group =
      earlier.filter (·.isCompatible dialect.runsOn) ++
        row :: later.filter (·.isCompatible dialect.runsOn) := by
  simp [compatibleRows, rows_eq, compatible]

theorem tableRows_filter (dialect : Dialect) (model : Model) (rows : List ContentRow) :
    dialect.tableRows model (rows.filter (·.isCompatible dialect.runsOn)) =
      dialect.tableRows model rows := by
  simp only [tableRows, List.filter_filter]
  apply List.filter_congr
  intro row _
  cases row.isCompatible dialect.runsOn <;> simp

theorem compatibleRows_tableRows (dialect : Dialect) (model : Model) (group : ContentGroup) :
    dialect.compatibleRows { group with rows := dialect.tableRows model group.rows } =
      dialect.tableRows model (dialect.compatibleRows group) := by
  simp only [compatibleRows, tableRows, List.filter_filter]
  apply List.filter_congr
  intro row _
  cases row.isCompatible dialect.runsOn <;> simp

theorem InsertsRows.tableRows (inserts : dialect.InsertsRows model group) :
    dialect.InsertsRows model { group with rows := dialect.tableRows model group.rows } := by
  rcases inserts with default | ⟨calls, noProcedure⟩
  · exact .inl default
  · refine .inr ⟨calls, ?_⟩
    intro row row_mem
    rw [compatibleRows_tableRows] at row_mem
    exact noProcedure row (List.mem_filter.mp row_mem).1

theorem changesTable_filter :
    dialect.ChangesTable model (before.filter (·.isCompatible dialect.runsOn)) row ↔
      dialect.ChangesTable model before row :=
  changesTable_congr (tableRows_filter dialect model before)

/-- A blank statement announces the statement for a row that changes the table. -/
theorem InsertsRows.changes_of_blank (inserts : dialect.InsertsRows model group)
    {front back : List String}
    (blank : (dialect.groupScript model group).value.statements = front ++ "" :: back) :
    ∃ before row after rest, group.rows = before ++ row :: after ∧
      row.isCompatible dialect.runsOn ∧ dialect.ChangesTable model before row ∧
      back = dialect.insertedText model row :: rest ∧
      front.filter (· ≠ "") =
        (before.filter (·.isCompatible dialect.runsOn)).map (dialect.insertedText model) := by
  rw [statements_groupScript inserts] at blank
  rcases exists_of_separated_eq blank with
    ⟨earlier, row, later, rest, rows_eq, changes, back_eq, front_eq⟩
  rcases List.filter_eq_append_iff.mp rows_eq with ⟨before, rows, split, rfl, rows_filter⟩
  rcases List.filter_eq_cons_iff.mp rows_filter with
    ⟨skipped, after, rfl, skipped_all, row_compatible, rfl⟩
  -- The rows for other engines right before the row belong to what comes before it.
  have none_skipped : skipped.filter (·.isCompatible dialect.runsOn) = [] := by
    simpa [List.filter_eq_nil_iff] using skipped_all
  have before_filter : (before ++ skipped).filter (·.isCompatible dialect.runsOn) =
      before.filter (·.isCompatible dialect.runsOn) := by
    rw [List.filter_append, none_skipped, List.append_nil]
  refine ⟨before ++ skipped, row, after, rest, by simpa using split, row_compatible, ?_, back_eq,
    ?_⟩
  · rw [← changesTable_filter, before_filter]
    exact changes
  · rw [before_filter]
    exact front_eq

/-- Blank statements mark exactly the changes of table. Before the statement for a row stands a
blank one just when the row has a table and the nearest row before it in the group that is for the
engine and has a table names another one; no other statement is blank. So none is first or last,
and no two follow each other. Rows without a table and rows for other engines could as well be
absent, but for the comments. Every group is treated by itself. -/
theorem blanks_mark_table_changes (inserts : dialect.InsertsRows model group) :
    let script (group : ContentGroup) := (dialect.groupScript model group).value
    let statements := (script group).statements
    let textOf := dialect.insertedText model
    let compatible (row : ContentRow) := row.isCompatible dialect.runsOn
    (∀ before row after, group.rows = before ++ row :: after → compatible row →
        ∃ front back, statements = front ++ textOf row :: back ∧
          front.filter (· ≠ "") = (before.filter compatible).map textOf ∧
          back.filter (· ≠ "") = (after.filter compatible).map textOf ∧
          (front.getLast? = some "" ↔ dialect.ChangesTable model before row)) ∧
      (∀ front back, statements = front ++ "" :: back →
        ∃ before row after rest, group.rows = before ++ row :: after ∧ compatible row ∧
          dialect.ChangesTable model before row ∧ back = textOf row :: rest ∧
          front.filter (· ≠ "") = (before.filter compatible).map textOf) ∧
      statements.head? ≠ some "" ∧
      statements.getLast? ≠ some "" ∧
      ¬["", ""] <:+: statements ∧
      (script { group with rows := dialect.tableRows model group.rows }).statements =
        statements.filter (!isLineComment ·) ∧
      (dialect.contentScripts model).value =
        (model.content.map script).filter (!·.statements.isEmpty) := by
  intro script statements textOf compatible
  have statements_eq : statements = dialect.separated model [] (dialect.compatibleRows group) :=
    statements_groupScript inserts
  have text_ne : ∀ row, textOf row ≠ "" := dialect.insertedText_ne_empty model
  refine ⟨?_, fun _ _ => inserts.changes_of_blank, ?_, ?_, ?_, ?_, ?_⟩
  · intro before row after rows_eq row_compatible
    rw [statements_eq, compatibleRows_split rows_eq row_compatible, ← changesTable_filter]
    exact exists_separated_eq ..
  · rw [statements_eq, head?_separated]
    simp [text_ne, textOf]
  · rw [statements_eq, getLast?_separated]
    simp [text_ne, textOf]
  · rintro ⟨front, back, eq⟩
    have blank : statements = front ++ "" :: "" :: back := by simpa using eq.symm
    rcases inserts.changes_of_blank blank with ⟨_, row, _, _, _, _, _, back_eq, _⟩
    simp only [List.cons.injEq] at back_eq
    exact text_ne row back_eq.1.symm
  · have without : statements.filter (!isLineComment ·) =
        dialect.separated model [] (dialect.tableRows model (dialect.compatibleRows group)) := by
      rw [statements_eq]
      apply filter_separated_tableRows _ rfl
      intro row row_mem
      exact (List.mem_filter.mp row_mem).2
    rw [without, ← compatibleRows_tableRows]
    exact statements_groupScript inserts.tableRows
  · rw [contentScripts, Generated.value_map, Generated.value_each]

/-- Between two rows of one table stand a row for another engine and a row without a table, and the
model has a procedure that no row names. -/
theorem blanks_mark_table_changes_library :
    let author : Table := ⟨⟨"Author", [
      ⟨"Name", .text 20, false, false, false, false, none, false, []⟩]⟩, false, []⟩
    let book : Table := ⟨⟨"Book", [
      ⟨"Title", .text 90, false, false, false, false, none, false, []⟩]⟩, false, []⟩
    let archive : StoredProcedure := ⟨⟨⟨"Archive", []⟩, none, .source "", none⟩, none⟩
    let named (name : String) : ContentRow := ⟨"Author", [.valid "Name" (.text name)], none⟩
    let titled (title : String) : ContentRow := ⟨"Book", [.valid "Title" (.text title)], none⟩
    let model : Model := ⟨"library", "public", [], [author, book], [], [], [], [archive], []⟩
    let group : ContentGroup := ⟨none, [
      ⟨"Publisher", [], none⟩,
      named "Ann",
      { titled "Local" with engines := some ["sqlite"] },
      ⟨"Publisher", [], none⟩,
      named "Bo",
      titled "Far",
      ⟨"Publisher", [], none⟩,
      named "Cy"]⟩
    let statements := (postgresql.groupScript model group).value.statements
    postgresql.InsertsRows model group ∧
      statements.map (· == "") = [false, false, false, false, true, false, false, true, false] ∧
      statements.head? ≠ some "" ∧
      statements.getLast? ≠ some "" ∧
      ¬["", ""] <:+: statements := by
  intro author book archive named titled model group statements
  have inserts : postgresql.InsertsRows model group := by
    refine .inr ⟨rfl, ?_⟩
    decide +kernel
  have marks := blanks_mark_table_changes inserts
  exact ⟨inserts, by decide +kernel, marks.2.2.1, marks.2.2.2.1, marks.2.2.2.2.1⟩

end Dialect

end SchemaCompiler
