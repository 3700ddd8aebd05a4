import Mathlib.Data.List.TakeWhile
import SchemaCompiler.Dialect.Postgres
import SchemaCompiler.Proofs.Content.Script

/-!
# Line comments

PostgreSQL ends a line comment at a line feed and at a carriage return alike. The line comment for a
diagnostic has no line feeds, but it keeps the carriage returns of the message, and the first of
them ends it: what the message holds from there on is read as SQL.

The message about a row without a table quotes the entity of the row, and all of its carriage
returns are in that text. So the comment covers the statement exactly if the entity has none.
-/

namespace SchemaCompiler

namespace SqlText

/-- Whether a line comment ends before a character. -/
def endsLine (character : Char) : Bool :=
  character = '\n' || character = '\r'

/-- What follows the line comment with which a text begins. -/
def afterLineComment? : List Char → Option (List Char)
  | '-' :: '-' :: rest => some (rest.dropWhile (!endsLine ·))
  | _ => none

/-- A statement is one line comment and nothing else. -/
def IsLineComment (statement : String) : Prop :=
  afterLineComment? statement.toList = some []

variable {text rest : List Char}

/-! ## The line comment for a diagnostic -/

theorem mem_withoutLineEnd_iff {character : Char} (no_feed : character ≠ '\n')
    (no_blank : character ≠ ' ') :
    character ∈ Diagnostic.withoutLineEnd text ↔ character ∈ text := by
  induction text with
  | nil => rfl
  | cons first text ih =>
      rw [Diagnostic.withoutLineEnd] at ih ⊢
      rw [List.map_cons, List.mem_cons, List.mem_cons, ih]
      split
      · rename_i feed
        simp [feed, no_feed, no_blank]
      · rfl

theorem withoutLineEnd_append (text rest : List Char) :
    Diagnostic.withoutLineEnd (text ++ rest) =
      Diagnostic.withoutLineEnd text ++ Diagnostic.withoutLineEnd rest :=
  List.map_append

/-- What stands before the message in the line comment for a diagnostic. -/
def lineCommentHead (diagnostic : Diagnostic) : List Char :=
  ' ' :: '[' :: diagnostic.code.name.toList ++ [']', ' ']

theorem toList_asLineComment (diagnostic : Diagnostic) :
    diagnostic.asLineComment.toList =
      '-' :: '-' :: (lineCommentHead diagnostic ++
        Diagnostic.withoutLineEnd diagnostic.message.toList) := by
  simp [Diagnostic.asLineComment, Diagnostic.headed, lineCommentHead]

theorem not_mem_lineCommentHead (diagnostic : Diagnostic) :
    '\n' ∉ lineCommentHead diagnostic ∧ '\r' ∉ lineCommentHead diagnostic := by
  rw [lineCommentHead]
  cases diagnostic.code <;> decide

theorem return_mem_asLineComment_iff (diagnostic : Diagnostic) :
    '\r' ∈ diagnostic.asLineComment.toList ↔ '\r' ∈ diagnostic.message.toList := by
  have kept : '\r' ∈ Diagnostic.withoutLineEnd diagnostic.message.toList ↔
      '\r' ∈ diagnostic.message.toList := mem_withoutLineEnd_iff (by decide) (by decide)
  rw [toList_asLineComment]
  simp [not_mem_lineCommentHead, kept]

/-- Without line feeds, only a carriage return ends a line. -/
theorem dropWhile_endsLine (no_feed : '\n' ∉ text) :
    text.dropWhile (!endsLine ·) = text.dropWhile (· ≠ '\r') := by
  induction text with
  | nil => rfl
  | cons first text ih =>
      rw [List.mem_cons, not_or] at no_feed
      have first_ne : first ≠ '\n' := Ne.symm no_feed.1
      by_cases is_return : first = '\r'
      · simp [endsLine, is_return]
      · rw [List.dropWhile_cons_of_pos (by simp [endsLine, first_ne, is_return]),
          List.dropWhile_cons_of_pos (by simpa using is_return), ih no_feed.2]

theorem dropWhile_return_append (absent : '\r' ∉ text) :
    (text ++ rest).dropWhile (· ≠ '\r') = rest.dropWhile (· ≠ '\r') := by
  apply List.dropWhile_append_of_pos
  intro character character_mem
  simpa using ne_of_mem_of_not_mem character_mem absent

/-- The line comment for a diagnostic ends at the first carriage return of the message. -/
theorem afterLineComment?_asLineComment (diagnostic : Diagnostic) :
    afterLineComment? diagnostic.asLineComment.toList =
      some ((Diagnostic.withoutLineEnd diagnostic.message.toList).dropWhile (· ≠ '\r')) := by
  have no_feed : '\n' ∉ lineCommentHead diagnostic ++
      Diagnostic.withoutLineEnd diagnostic.message.toList := by
    simp [not_mem_lineCommentHead, Text.lineFeed_not_mem_withoutLineEnd]
  rw [toList_asLineComment, afterLineComment?, dropWhile_endsLine no_feed,
    dropWhile_return_append (not_mem_lineCommentHead diagnostic).2]

/-! ## Rows without a table -/

/-- What stands before the entity in the message about a row without a table. -/
def missingTableHead : String := "Unable to create content row, table for '"

/-- What follows the entity in that message. -/
def missingTableTail : String := "' was not found in the model"

theorem toList_message_contentTableNotFound (entity : String) :
    (Diagnostic.contentTableNotFound entity).message.toList =
      missingTableHead.toList ++ (entity.toList ++ missingTableTail.toList) := by
  simp [Diagnostic.contentTableNotFound, missingTableHead, missingTableTail]

/-- What follows the line comment about a row without a table: what the entity holds from its first
carriage return on and the rest of the message, or nothing if it has no carriage return. -/
def afterMissingTable (entity : String) : List Char :=
  if '\r' ∈ entity.toList then
    (Diagnostic.withoutLineEnd entity.toList).dropWhile (· ≠ '\r') ++ missingTableTail.toList
  else
    []

theorem afterLineComment?_contentTableNotFound (entity : String) :
    afterLineComment? (Diagnostic.contentTableNotFound entity).asLineComment.toList =
      some (afterMissingTable entity) := by
  have head_plain : '\r' ∉ Diagnostic.withoutLineEnd missingTableHead.toList := by decide
  have tail_eq : Diagnostic.withoutLineEnd missingTableTail.toList = missingTableTail.toList := by
    decide
  have tail_dropped : missingTableTail.toList.dropWhile (· ≠ '\r') = [] := by decide
  have kept : '\r' ∈ Diagnostic.withoutLineEnd entity.toList ↔ '\r' ∈ entity.toList :=
    mem_withoutLineEnd_iff (by decide) (by decide)
  rw [afterLineComment?_asLineComment, toList_message_contentTableNotFound,
    withoutLineEnd_append, withoutLineEnd_append, tail_eq, dropWhile_return_append head_plain]
  by_cases returns : '\r' ∈ entity.toList
  · have left : (Diagnostic.withoutLineEnd entity.toList).dropWhile (· ≠ '\r') ≠ [] := by
      rw [Ne, List.dropWhile_eq_nil_iff]
      intro none_returns
      simpa using none_returns '\r' (kept.mpr returns)
    rw [List.dropWhile_append, if_neg (by simpa using left), afterMissingTable, if_pos returns]
  · rw [dropWhile_return_append (kept.not.mpr returns), tail_dropped, afterMissingTable,
      if_neg returns]

theorem afterMissingTable_eq_nil_iff (entity : String) :
    afterMissingTable entity = [] ↔ '\r' ∉ entity.toList := by
  have tail_ne : missingTableTail.toList ≠ [] := by decide
  by_cases returns : '\r' ∈ entity.toList
  · simp [afterMissingTable, returns, tail_ne]
  · simp [afterMissingTable, returns]

end SqlText

namespace Dialect.Postgres

open SqlText

/-- Under PostgreSQL, a row that names neither a table nor a procedure gets one statement. It starts
as a line comment and has no line feed, but it has the carriage returns of the entity. The first of
them ends the comment, and the entity from there on is read as SQL; without one, the statement is a
comment as a whole. -/
theorem missing_row_commented_up_to_return (name : String) (aliases : List String)
    (naming : Naming) (model : Model) (cursor : ContentCursor) (row : ContentRow)
    (noTable : model.table? row.entity = none) (noProcedure : model.procedure? row.entity = none) :
    let dialect := named name aliases naming
    ∃ statement : String,
      (dialect.rowStatements (dialect.scope model) cursor row).value = ([statement], cursor) ∧
        "-- ".toList <+: statement.toList ∧
        '\n' ∉ statement.toList ∧
        ('\r' ∈ statement.toList ↔ '\r' ∈ row.entity.toList) ∧
        afterLineComment? statement.toList = some (afterMissingTable row.entity) ∧
        (IsLineComment statement ↔ '\r' ∉ row.entity.toList) := by
  intro dialect
  let diagnostic := Diagnostic.contentTableNotFound row.entity
  have read := afterLineComment?_contentTableNotFound row.entity
  refine ⟨diagnostic.asLineComment, ?_, ?_, Text.oneLine_asLineComment diagnostic, ?_, read, ?_⟩
  · have value_eq := Scope.value_callOrInsertStatements (dialect.scope model) cursor row
    have noCall : (dialect.scope model).model.procedure? row.entity = none := noProcedure
    have noInsert : (dialect.scope model).model.table? row.entity = none := noTable
    rw [noCall, noInsert] at value_eq
    exact value_eq
  · simp [Diagnostic.asLineComment]
  · have head_plain : '\r' ∉ missingTableHead.toList := by decide
    have tail_plain : '\r' ∉ missingTableTail.toList := by decide
    rw [return_mem_asLineComment_iff, toList_message_contentTableNotFound]
    simp [head_plain, tail_plain]
  · rw [IsLineComment, read, Option.some.injEq, afterMissingTable_eq_nil_iff]

/-- A line feed in an entity does not end the comment. -/
theorem missing_row_commented_up_to_return_library :
    let model : Model := { name := "library" }
    let row : ContentRow := ⟨"Author\nBook", [.valid "Name" (.text "Ann")], none⟩
    model.table? row.entity = none ∧ model.procedure? row.entity = none ∧
      ∃ statement : String,
        (postgresql.rowStatements (postgresql.scope model) {} row).value = ([statement], {}) ∧
          IsLineComment statement := by
  intro model row
  rcases missing_row_commented_up_to_return "postgresql" ["postgresql", "postgres"] .lowercase model
    {} row rfl rfl with ⟨statement, value_eq, _, _, _, _, covers⟩
  exact ⟨rfl, rfl, statement, value_eq, covers.mpr (by decide)⟩

/-- A carriage return in an entity does, and what follows it drops a table of the model. -/
theorem missing_row_executed :
    let name : Column := ⟨"name", .text 100, false, false, false, false, none, false, []⟩
    let author : Table := ⟨⟨"Author", [name]⟩, false, []⟩
    let model : Model := { name := "library", tables := [author] }
    let row : ContentRow := ⟨"Author\rDROP TABLE author; --", [], none⟩
    let statement := "-- [RDBMS_0901] Unable to create content row, table for "
      ++ "'Author\rDROP TABLE author; --' was not found in the model"
    model.table? row.entity = none ∧ model.procedure? row.entity = none ∧
      (postgresql.rowStatements (postgresql.scope model) {} row).value = ([statement], {}) ∧
      '\r' ∈ statement.toList ∧
      afterLineComment? statement.toList =
        some "\rDROP TABLE author; --' was not found in the model".toList ∧
      ¬IsLineComment statement := by
  intro name author model row statement
  have read : afterLineComment? statement.toList =
      some "\rDROP TABLE author; --' was not found in the model".toList := by decide +kernel
  refine ⟨by decide +kernel, rfl, by decide +kernel, by decide +kernel, read, ?_⟩
  rw [IsLineComment, read]
  decide

end Dialect.Postgres

end SchemaCompiler
