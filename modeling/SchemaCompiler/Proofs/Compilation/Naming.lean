import SchemaCompiler.Dialect.Catalog
import SchemaCompiler.Proofs.Compilation.Memory
import SchemaCompiler.Proofs.Definition.Naming

/-!
# Runs under strategies that agree

A dialect that is given other names and another strategy plans the same artifacts for a model, if
both strategies agree on the names in it. Definitions are the same one by one. A row of content
names the columns of a table that was found in the model, or uses names that no column decides
about, and its statements are the same under any cursor; so those of a group are, by induction on
its rows. Which rows these are is up to the engine, which is the same.
-/

namespace SchemaCompiler

/-! ## Content -/

namespace Scope.Agrees

variable {scope other : Scope} {table : Table}

theorem insertedCell (agrees : scope.Agrees other) (table_mem : table ∈ scope.model.tables)
    (value : AttributeValue) :
    other.insertedCell table value = scope.insertedCell table value := by
  rw [Scope.insertedCell, Scope.insertedCell]
  cases found : table.column? value.name with
  | none =>
      have name : other.naming.columnName value.name = scope.naming.columnName value.name :=
        agrees.naming.attributeName value.name
      simp only [name, agrees.naming.tableName]
  | some column =>
      simp only [agrees.tableColumnName table_mem (List.mem_of_find?_eq_some found)]

theorem suppliedCells (agrees : scope.Agrees other) (table_mem : table ∈ scope.model.tables)
    (row : ContentRow) : other.suppliedCells table row = scope.suppliedCells table row := by
  apply List.filterMap_congr
  intro column column_mem
  simp only [agrees.tableColumnName table_mem column_mem]

theorem insertStatement (agrees : scope.Agrees other) (table_mem : table ∈ scope.model.tables)
    (row : ContentRow) : other.insertStatement table row = scope.insertStatement table row := by
  have cells : Generated.each (other.insertedCell table) row.values =
      Generated.each (scope.insertedCell table) row.values :=
    Generated.each_congr fun value _ => agrees.insertedCell table_mem value
  simp only [Scope.insertStatement, cells, agrees.suppliedCells table_mem,
    agrees.naming.tableName]

theorem insertStatements (agrees : scope.Agrees other) (cursor : ContentCursor)
    (row : ContentRow) :
    other.insertStatements cursor row = scope.insertStatements cursor row := by
  rw [Scope.insertStatements, Scope.insertStatements, agrees.model]
  cases found : scope.model.table? row.entity with
  | none => rfl
  | some table => simp only [agrees.insertStatement (List.mem_of_find?_eq_some found)]

theorem callOrInsertStatements (agrees : scope.Agrees other) (cursor : ContentCursor)
    (row : ContentRow) :
    other.callOrInsertStatements cursor row = scope.callOrInsertStatements cursor row := by
  have call : other.callStatement row = scope.callStatement row := by
    simp only [Scope.callStatement, Naming.procedureName_eq_tableName, agrees.naming.tableName]
  rw [Scope.callOrInsertStatements, Scope.callOrInsertStatements, agrees.model, call,
    agrees.insertStatements]

end Scope.Agrees

/-! ## Dialects -/

namespace Dialect

/-- The dialect under other names, with another strategy. -/
def renamed (dialect : Dialect) (name : String) (aliases : List String) (naming : Naming) :
    Dialect :=
  { dialect with name := name, aliases := aliases, naming := naming }

/-- A dialect that generates the same in all scopes that agree. -/
structure RespectsNames (dialect : Dialect) : Prop where
  extensions : ∀ {scope other : Scope}, scope.Agrees other →
    dialect.extensionStatements other = dialect.extensionStatements scope
  types : ∀ define ∈ dialect.typeDefinition?, ∀ {scope other : Scope}, scope.Agrees other →
    ∀ definition ∈ scope.model.types, define other definition = define scope definition
  functions : ∀ define ∈ dialect.functionDefinition?, ∀ {scope other : Scope},
    scope.Agrees other → ∀ function ∈ scope.model.functions,
      define other function = define scope function
  procedures : ∀ define ∈ dialect.procedureDefinition?, ∀ {scope other : Scope},
    scope.Agrees other → ∀ procedure ∈ scope.model.procedures,
      define other procedure = define scope procedure
  rows : ∀ {scope other : Scope}, scope.Agrees other → ∀ cursor row,
    dialect.rowStatements other cursor row = dialect.rowStatements scope cursor row

theorem respectsNames_of_mem_all {dialect : Dialect} (builtIn : dialect ∈ all) :
    dialect.RespectsNames := by
  rcases eq_named_or_eq_sqlite builtIn with ⟨name, aliases, naming, rfl⟩ | rfl
  · exact {
      extensions := fun agrees => by
        simp only [Postgres.named, Postgres.extensionStatements, agrees.model]
      types := by
        rintro _ ⟨⟩ scope other agrees definition definition_mem
        exact Postgres.typeDefinition_congr agrees definition_mem
      functions := by
        rintro _ ⟨⟩ scope other agrees function function_mem
        exact Postgres.functionDefinition_congr agrees function_mem
      procedures := by
        rintro _ ⟨⟩ scope other agrees procedure procedure_mem
        exact Postgres.procedureDefinition_congr agrees procedure_mem
      rows := fun agrees => agrees.callOrInsertStatements }
  · exact {
      extensions := fun _ => rfl
      types := nofun
      functions := nofun
      procedures := nofun
      rows := fun agrees => agrees.insertStatements }

variable {dialect : Dialect} {model : Model} {naming : Naming}

theorem agrees_scope_renamed (agrees : dialect.naming.Agrees naming model.entities)
    (name : String) (aliases : List String) :
    (dialect.scope model).Agrees ((dialect.renamed name aliases naming).scope model) :=
  ⟨rfl, rfl, rfl, rfl, agrees⟩

theorem RespectsNames.rowsStatements (respects : dialect.RespectsNames)
    (agrees : dialect.naming.Agrees naming model.entities) (name : String) (aliases : List String)
    (cursor : ContentCursor) (rows : List ContentRow) :
    (dialect.renamed name aliases naming).rowsStatements
        ((dialect.renamed name aliases naming).scope model) cursor rows =
      dialect.rowsStatements (dialect.scope model) cursor rows := by
  have row_eq := respects.rows (dialect.agrees_scope_renamed agrees name aliases)
  induction rows generalizing cursor with
  | nil => rfl
  | cons row rest ih =>
      simp only [Dialect.rowsStatements, ih]
      exact congrArg (· >>= _) (row_eq cursor row)

/-- The names of a dialect do not decide which rows it takes: its engine does. -/
theorem compatibleRows_renamed (dialect : Dialect) (name : String) (aliases : List String)
    (naming : Naming) (group : ContentGroup) :
    (dialect.renamed name aliases naming).compatibleRows group = dialect.compatibleRows group :=
  rfl

theorem RespectsNames.contentScripts (respects : dialect.RespectsNames)
    (agrees : dialect.naming.Agrees naming model.entities) (name : String)
    (aliases : List String) :
    (dialect.renamed name aliases naming).contentScripts model = dialect.contentScripts model := by
  have scripts : Generated.each ((dialect.renamed name aliases naming).groupScript model)
      model.content = Generated.each (dialect.groupScript model) model.content := by
    apply Generated.each_congr
    intro group _
    rw [groupScript, groupScript, compatibleRows_renamed, respects.rowsStatements agrees]
  rw [Dialect.contentScripts, Dialect.contentScripts, scripts]

end Dialect

/-! ## Plans and runs -/

namespace Compilation

variable {compilation : Compilation} {naming : Naming}

/-- The compilation under a dialect with other names and another strategy. -/
def renamed (compilation : Compilation) (name : String) (aliases : List String)
    (naming : Naming) : Compilation :=
  { compilation with dialect := compilation.dialect.renamed name aliases naming }

theorem definedBy_congr {α : Type} {other : Compilation}
    (planned : other.planned = compilation.planned) (bucket : Bucket)
    (define? : Option (Scope → α → Generated String)) (persistAs : α → Option String)
    {things : List α}
    (same : ∀ define ∈ define?, ∀ thing ∈ things,
      define other.scope thing = define compilation.scope thing) :
    other.definedBy bucket define? persistAs things =
      compilation.definedBy bucket define? persistAs things := by
  cases define? with
  | none => rfl
  | some define =>
      apply Generated.each_congr
      intro thing thing_mem
      rw [planned, same define rfl thing thing_mem]

section Renamed

variable (respects : compilation.dialect.RespectsNames)
  (agrees : compilation.dialect.naming.Agrees naming compilation.model.entities)
  (name : String) (aliases : List String)

include respects agrees

/-- The plan does not depend on names on which the strategies agree. -/
theorem plan_renamed :
    let other := compilation.renamed name aliases naming
    other.plan = compilation.plan := by
  intro other
  have scopes : compilation.scope.Agrees other.scope :=
    Dialect.agrees_scope_renamed agrees name aliases
  have planned : other.planned = compilation.planned := rfl
  have main : other.main = compilation.main := by
    rw [Compilation.main, Compilation.main, planned, scopes.modelDefinition]
  have extensions : other.extensions = compilation.extensions :=
    congrArg (fun statements => (statements.map (compilation.planned .beforeStructs none)).toList)
      (respects.extensions scopes)
  have views : other.views = compilation.views := by
    apply List.map_congr_left
    intro view view_mem
    rw [planned, scopes.viewDefinition view_mem]
  have types : other.types = compilation.types :=
    definedBy_congr planned _ _ _ fun define known => respects.types define known scopes
  have functions : other.functions = compilation.functions :=
    definedBy_congr planned _ _ _ fun define known => respects.functions define known scopes
  have procedures : other.procedures = compilation.procedures :=
    definedBy_congr planned _ _ _ fun define known => respects.procedures define known scopes
  have scripts : other.dialect.contentScripts other.model =
      compilation.dialect.contentScripts compilation.model :=
    respects.contentScripts agrees name aliases
  have content : other.content = compilation.content := by
    rw [Compilation.content, Compilation.content, scripts, planned]
  rw [plan, plan, main, extensions, views, types, functions, procedures, content]

theorem calls_renamed :
    (compilation.renamed name aliases naming).calls = compilation.calls := by
  rw [calls, calls, plan_renamed respects agrees]

theorem report_renamed (results : List PersistResult) :
    (compilation.renamed name aliases naming).report results =
      { compilation.report results with dialect := name, naming := naming.name } := by
  rw [report, report, plan_renamed respects agrees]
  rfl

/-- The run makes the same calls, and its outcome differs in the names that it tells. -/
theorem persist_renamed (store : MemoryStore) :
    ∃ outcome final,
      (compilation.persist : StateM MemoryStore Outcome).run store = (outcome, final) ∧
        ((compilation.renamed name aliases naming).persist : StateM MemoryStore Outcome).run store =
          ({ outcome with dialect := name, naming := naming.name }, final) := by
  have called := calls_renamed respects agrees name aliases
  have reported :=
    report_renamed respects agrees name aliases (store.run compilation.calls).results
  have renamed_run := (compilation.renamed name aliases naming).run_persist store
  refine ⟨compilation.report (store.run compilation.calls).results, store.run compilation.calls,
    compilation.run_persist store, ?_⟩
  rw [← reported, ← called]
  exact renamed_run

end Renamed

/-- The dialect with the common name for identifying columns is the plain one but for the names of
these columns. If they all have the identifier `id` already, both dialects take the same rows of
each content group, and a run into an empty store leaves the same texts, results and diagnostics:
the outcomes differ in the names of the dialect and of the strategy only. -/
theorem persist_postgresqlCommonKey (model : Model) (primary opening : String)
    (named : ∀ entity ∈ model.entities, ∀ column ∈ entity.columns,
      column.primaryKey || column.derivedFromIdentity →
        Naming.lowercase.columnName column.name = "id") :
    let plain : Compilation := ⟨.postgresql, model, primary, opening⟩
    let common : Compilation := ⟨.postgresqlCommonKey, model, primary, opening⟩
    (∀ group, common.dialect.compatibleRows group = plain.dialect.compatibleRows group) ∧
      ∃ outcome store,
        (plain.persist : StateM MemoryStore Outcome).run {} = (outcome, store) ∧
          (common.persist : StateM MemoryStore Outcome).run {} =
            ({ outcome with
                dialect := "postgresql:common_pk_col_named_id"
                naming := "lowercase_all_common_pk_col_named_id" }, store) := by
  intro plain common
  have commonName : Naming.lowercase.columnName "id" = "id" := by decide +kernel
  have agrees : plain.dialect.naming.Agrees (.commonKey .lowercase) plain.model.entities := by
    apply Naming.agrees_commonKey
    intro entity entity_mem column column_mem identifying
    exact (named entity entity_mem column column_mem identifying).trans commonName.symm
  have respects : plain.dialect.RespectsNames :=
    Dialect.respectsNames_of_mem_all List.mem_cons_self
  exact ⟨fun _ => rfl,
    persist_renamed respects agrees common.dialect.name common.dialect.aliases {}⟩

/-- A model with every kind of entity. All identifying columns are called `ID` or `Id`. One row of
content is meant for another engine, and the others hold a value without a column and a value that
failed validation. -/
theorem persist_postgresqlCommonKey_library :
    let key : Column :=
      ⟨"ID", .numericIdentity, false, true, false, false, none, false, []⟩
    let original : Column :=
      ⟨"Original", .selfReference, true, false, false, false, none, false, []⟩
    let derived : Column :=
      ⟨"Id", .relationship ⟨"Book", "ID"⟩, false, false, false, false, none, true, []⟩
    let group : ContentGroup := ⟨some "seed",
      [⟨"Book", [.valid "ID" (.integer 1), .valid "Shelf" (.integer 2)], some ["POSTGRES"]⟩,
        ⟨"Book", [.valid "ID" (.integer 3)], some ["sqlite"]⟩,
        ⟨"Borrow", [.invalid "Id" "is not a number"], none⟩]⟩
    let model : Model := {
      name := "library"
      tables := [⟨⟨"Book", [key, original]⟩, false, []⟩]
      views := [⟨⟨"BookView", [derived]⟩, .body "SELECT id FROM book", none⟩]
      types := [⟨⟨"BookType", [derived]⟩, none⟩]
      functions := [⟨⟨⟨"Find", [derived, original]⟩, none, .body "", none⟩, false⟩]
      procedures := [⟨⟨⟨"Borrow", [derived]⟩, none, .body "", none⟩, some ⟨"borrow", none⟩⟩]
      content := [group] }
    let plain : Compilation := { dialect := .postgresql, model := model }
    let common : Compilation := { dialect := .postgresqlCommonKey, model := model }
    (∀ entity ∈ model.entities, ∀ column ∈ entity.columns,
        column.primaryKey || column.derivedFromIdentity →
          Naming.lowercase.columnName column.name = "id") ∧
      common.dialect.compatibleRows group = plain.dialect.compatibleRows group ∧
      (plain.dialect.compatibleRows group).map (·.entity) = ["Book", "Borrow"] ∧
      ∃ outcome store,
        (plain.persist : StateM MemoryStore Outcome).run {} = (outcome, store) ∧
          (common.persist : StateM MemoryStore Outcome).run {} =
            ({ outcome with
                dialect := "postgresql:common_pk_col_named_id"
                naming := "lowercase_all_common_pk_col_named_id" }, store) ∧
          outcome.diagnostics.map (·.subject) = ["Find.Original", "Book.Shelf", "Borrow.Id"] := by
  intro key original derived group model plain common
  have named : ∀ entity ∈ model.entities, ∀ column ∈ entity.columns,
      column.primaryKey || column.derivedFromIdentity →
        Naming.lowercase.columnName column.name = "id" := by decide +kernel
  rcases persist_postgresqlCommonKey model plain.primary plain.opening named with
    ⟨rows, outcome, store, plain_run, common_run⟩
  have recorded := diagnostics_eq_of_run plain_run
  refine ⟨named, rows group, by decide +kernel, outcome, store, plain_run, common_run, ?_⟩
  rw [recorded]
  decide +kernel

end Compilation

end SchemaCompiler
