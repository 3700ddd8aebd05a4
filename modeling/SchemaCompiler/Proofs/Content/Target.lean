import SchemaCompiler.Proofs.Content.Isolation
import SchemaCompiler.Proofs.Definition.ForeignKey

/-!
# Names that content addresses

A table is created, and a procedure defined, under a name that may carry the schema; the naming
strategy decides this for each class of objects. Content names the same objects by their identifiers
alone, whatever the strategy says. So the two names of an object are the same exactly when its class
is not qualified. Otherwise content addresses what the search path of the session makes of the
identifier, although the call in a generated wrapper names the procedure as it is defined.
-/

namespace SchemaCompiler

/-! ## The two names of an object -/

namespace Naming

theorem definitionName_of_schemaQualified (naming : Naming) (objectClass : ObjectClass)
    (qualified : naming.qualification.form objectClass = .schemaQualified)
    (schema identifier : String) :
    naming.definitionName objectClass schema identifier = schema ++ "." ++ identifier := by
  rw [definitionName, schemaName_eq, Qualification.qualify, qualified]

/-- An object is defined under its identifier exactly when its class is not qualified. -/
theorem identifier_eq_definitionName_iff (naming : Naming) (objectClass : ObjectClass)
    (schema identifier : String) :
    identifier = naming.definitionName objectClass schema identifier ↔
      naming.qualification.form objectClass = .objectOnly := by
  cases form : naming.qualification.form objectClass with
  | objectOnly => simp [definitionName, Qualification.qualify, form]
  | schemaQualified =>
      rw [definitionName_of_schemaQualified naming objectClass form]
      constructor
      -- A name with a schema is longer.
      · intro same
        have lengths := congrArg String.length same
        simp only [String.length_append] at lengths
        have point : ".".length = 1 := rfl
        omega
      · intro unqualified
        cases unqualified

end Naming

/-! ## Statements and definitions -/

/-- The INSERT into the table of a name. -/
def insertInto (target columns values : String) : String :=
  "INSERT INTO " ++ target ++ " (" ++ columns ++ ") VALUES (" ++ values ++ ");"

/-- The CALL of the procedure of a name. -/
def callOf (target values : String) : String :=
  "CALL " ++ target ++ "(" ++ values ++ ");"

theorem insertInto_inj {target other columns values : String} :
    insertInto target columns values = insertInto other columns values ↔ target = other := by
  unfold insertInto
  simp only [String.append_left_inj, String.append_right_inj]

theorem callOf_inj {target other values : String} :
    callOf target values = callOf other values ↔ target = other := by
  unfold callOf
  simp only [String.append_left_inj, String.append_right_inj]

theorem prefix_insertInto (target columns values : String) :
    ("INSERT INTO " ++ target).toList <+: (insertInto target columns values).toList := by
  unfold insertInto
  simp only [String.toList_append, List.append_assoc, List.prefix_append_right_inj,
    List.prefix_append]

theorem prefix_callOf (target values : String) :
    ("CALL " ++ target).toList <+: (callOf target values).toList := by
  unfold callOf
  simp only [String.toList_append, List.append_assoc, List.prefix_append_right_inj,
    List.prefix_append]

/-- A text that defines a procedure under a name, if its code is a body, and calls it under that
name in a wrapper without a body of its own. -/
def DefinesProcedure (text name : String) (procedure : StoredProcedure) : Prop :=
  ∃ lines, text = "\n".intercalate lines ∧
    (∀ body, procedure.code = .body body →
      "CREATE OR REPLACE PROCEDURE " ++ name ++ procedure.declaredArguments ∈ lines) ∧
    ∀ wrapper, procedure.wrapper = some wrapper → wrapper.body = none →
      "  CALL " ++ name ++ procedure.argumentNames ++ ";" ∈ lines

namespace Dialect.Postgres

theorem mem_procedureLines {procedure : StoredProcedure} {body : String} (name : String)
    (code : procedure.code = .body body) :
    "CREATE OR REPLACE PROCEDURE " ++ name ++ procedure.declaredArguments ∈
      procedureLines name procedure := by
  have line_at : (procedureLines name procedure)[1]? =
      some ("CREATE OR REPLACE PROCEDURE " ++ name ++ procedure.declaredArguments) := by
    rw [procedureLines, code]
    rfl
  exact List.mem_of_getElem? line_at

theorem mem_wrapperLines {wrapper : Wrapper} (scope : Scope) (name : String)
    (procedure : StoredProcedure) (noBody : wrapper.body = none) :
    "  CALL " ++ name ++ procedure.argumentNames ++ ";" ∈
      (wrapperLines scope name procedure wrapper).value := by
  have indented : "  CALL " ++ name ++ procedure.argumentNames ++ ";" =
      "  " ++ ("CALL " ++ name ++ procedure.argumentNames ++ ";") := by
    rw [show "  CALL " = "  " ++ "CALL " from rfl]
    simp only [String.append_assoc]
  have line_at : (wrapperLines scope name procedure wrapper).value[7]? =
      some ("  " ++ ("CALL " ++ name ++ procedure.argumentNames ++ ";")) := by
    rw [wrapperLines, noBody]
    rfl
  rw [indented]
  exact List.mem_of_getElem? line_at

theorem definesProcedure_procedureDefinition (scope : Scope) (procedure : StoredProcedure) :
    DefinesProcedure (procedureDefinition scope procedure).value
      (scope.naming.procedureDefinitionName scope.schema procedure.name) procedure := by
  let name := scope.naming.procedureDefinitionName scope.schema procedure.name
  let own := procedureLines name procedure ++ checkLines scope name
  have defined {body : String} (code : procedure.code = .body body) :
      "CREATE OR REPLACE PROCEDURE " ++ name ++ procedure.declaredArguments ∈ own :=
    List.mem_append_left _ (mem_procedureLines name code)
  cases wrapped : procedure.wrapper with
  | none =>
      refine ⟨own, ?_, fun body => defined, fun wrapper given => ?_⟩
      · rw [procedureDefinition, wrapped]
        rfl
      · cases wrapped.symm.trans given
  | some wrapper =>
      refine ⟨own ++ (wrapperLines scope name procedure wrapper).value, ?_,
        fun body code => List.mem_append_left _ (defined code), fun other given noBody => ?_⟩
      · rw [procedureDefinition, wrapped]
        rfl
      · cases wrapped.symm.trans given
        exact List.mem_append_right _ (mem_wrapperLines scope name procedure noBody)

end Dialect.Postgres

/-! ## Results -/

namespace Dialect

theorem table?_of_rowForm {dialect : Dialect} {model : Model} {row : ContentRow} {table : Table}
    (isInsert : dialect.rowForm model row = .insert table) :
    model.table? row.entity = some table := by
  rw [rowForm] at isInsert
  split at isInsert
  · cases isInsert
  · cases found : model.table? row.entity with
    | none => simp [found] at isInsert
    | some other =>
        simp only [found, Option.elim_some, RowForm.insert.injEq] at isInsert
        rw [isInsert]

theorem calls_of_rowForm {dialect : Dialect} {model : Model} {row : ContentRow}
    (isCall : dialect.rowForm model row = .call) :
    dialect.engine = "postgresql" ∧
      ∃ procedure, model.procedure? row.entity = some procedure := by
  rw [rowForm] at isCall
  split at isCall
  · rename_i runs
    exact ⟨runs.1, Option.isSome_iff_exists.mp runs.2⟩
  · cases found : model.table? row.entity <;> simp [found] at isCall

/-- Content addresses objects by their identifiers. The INSERT for a row has the name under which
its table is created, and the CALL for a row has the name under which its procedure is defined and
is called by its wrapper, exactly when the naming strategy does not qualify the class of the object.
Where it does, the schema is missing from the statement, and nothing else. -/
theorem content_addresses_identifiers {dialect : Dialect} (builtIn : dialect ∈ all)
    (naming : Naming) (model : Model) (cursor : ContentCursor) (row : ContentRow) :
    let named := dialect.withNaming naming
    let scope := named.scope model
    let statements := (named.rowStatements scope cursor row).value.1
    (∀ table, named.rowForm model row = .insert table →
      let target := naming.tableName table.name
      let definitionName := naming.tableDefinitionName model.schema table.name
      let classForm := naming.qualification.tables
      table ∈ model.tables ∧
        Creates (scope.tableDefinition table).value definitionName
          (scope.columnDefinitions table) ∧
        (classForm = .schemaQualified → definitionName = model.schema ++ "." ++ target) ∧
        ∃ columns values,
          statements.getLast? = some (insertInto target columns values) ∧
            (insertInto target columns values = insertInto definitionName columns values ↔
              classForm = .objectOnly)) ∧
      (named.rowForm model row = .call →
        ∃ procedure define, model.procedure? row.entity = some procedure ∧
          named.procedureDefinition? = some define ∧
          let target := naming.procedureName procedure.name
          let definitionName := naming.procedureDefinitionName model.schema procedure.name
          let classForm := naming.qualification.storedProcedures
          DefinesProcedure (define scope procedure).value definitionName procedure ∧
            (classForm = .schemaQualified → definitionName = model.schema ++ "." ++ target) ∧
            ∃ values,
              statements = ["", callOf target values] ∧
                (callOf target values = callOf definitionName values ↔
                  classForm = .objectOnly)) := by
  intro named scope statements
  have statements_eq {form : RowForm} (form_eq : named.rowForm model row = form) :
      statements = form.separators cursor ++ [form.statement scope row] := by
    rw [← form_eq]
    exact congrArg Prod.fst (value_rowStatements_withNaming builtIn naming model cursor row)
  refine ⟨fun table isInsert => ?_, fun isCall => ?_⟩
  · have table_mem : table ∈ model.tables := List.mem_of_find?_eq_some (table?_of_rowForm isInsert)
    refine ⟨table_mem, scope.creates_tableDefinition_qualified table, ?_,
      ", ".intercalate ((scope.insertEntries table row).map (·.1)),
      ", ".intercalate ((scope.insertEntries table row).map (·.2.expression)), ?_, ?_⟩
    · intro qualified
      exact naming.definitionName_of_schemaQualified .table qualified _ _
    · rw [statements_eq isInsert, List.getLast?_concat]
      rfl
    · rw [insertInto_inj]
      exact naming.identifier_eq_definitionName_iff .table model.schema _
  · obtain ⟨engine, procedure, found⟩ := calls_of_rowForm isCall
    have name_eq : procedure.name = row.entity := by simpa using List.find?_some found
    rcases eq_named_or_eq_sqlite builtIn with ⟨name, aliases, _, rfl⟩ | rfl
    · refine ⟨procedure, Postgres.procedureDefinition, found, rfl,
        Postgres.definesProcedure_procedureDefinition scope procedure, ?_,
        ", ".intercalate ((Scope.callEntries row).map Entry.expression), ?_, ?_⟩
      · intro qualified
        exact naming.definitionName_of_schemaQualified .storedProcedure qualified _ _
      · rw [statements_eq isCall, name_eq]
        rfl
      · rw [callOf_inj]
        exact naming.identifier_eq_definitionName_iff .storedProcedure model.schema _
    · have engine_ne : sqlite.engine ≠ "postgresql" := by decide
      exact absurd engine engine_ne

/-- Under a strategy that qualifies all definitions, the names differ by the schema. -/
theorem content_addresses_identifiers_library :
    let author : Table := ⟨⟨"Author", [
      ⟨"Name", .text 100, false, false, false, false, none, false, []⟩]⟩, false, []⟩
    let model : Model := { name := "library", schema := "library", tables := [author] }
    let naming : Naming := .base .lower (.uniform .schemaQualified)
    let named := postgresql.withNaming naming
    let row : ContentRow := ⟨"Author", [.valid "Name" (.text "Butler")], none⟩
    postgresql ∈ all ∧
      named.rowForm model row = .insert author ∧
      ∃ columns values,
        (named.rowStatements (named.scope model) {} row).value.1.getLast? =
            some (insertInto "author" columns values) ∧
          insertInto "author" columns values ≠ insertInto "library.author" columns values := by
  intro author model naming named row
  have builtIn : postgresql ∈ all := List.mem_cons_self
  have isInsert : named.rowForm model row = .insert author := rfl
  obtain ⟨_, _, qualified, columns, values, inserts, same_iff⟩ :=
    (content_addresses_identifiers builtIn naming model {} row).1 author isInsert
  have target : naming.tableName author.name = "author" := by decide +kernel
  rw [qualified rfl, target] at same_iff
  rw [target] at inserts
  exact ⟨builtIn, isInsert, columns, values, inserts, same_iff.not.mpr nofun⟩

/-- A table and a procedure of the schema `library`. The row of the table is inserted into another
table than the one that is created, and the row of the procedure calls another procedure than the
one that is defined. The wrapper calls the one that is defined. -/
theorem content_misses_schema :
    let author : Table := ⟨⟨"Author", [
      ⟨"name", .text 100, false, false, false, false, none, false, []⟩]⟩, false, []⟩
    let register : StoredProcedure :=
      ⟨⟨⟨"RegisterAuthor", []⟩, some [⟨"name", "TEXT", .input⟩], .body "BEGIN END;", none⟩,
        some ⟨"register_author_fn", none⟩⟩
    let model : Model :=
      { name := "library", schema := "library", tables := [author], procedures := [register] }
    let naming : Naming := .base .lower (.uniform .schemaQualified)
    let named := postgresql.withNaming naming
    let scope := named.scope model
    let statements (row : ContentRow) := (named.rowStatements scope {} row).value.1
    let inserted := statements ⟨"Author", [.valid "name" (.text "Butler")], none⟩
    let called := statements ⟨"RegisterAuthor", [.valid "name" (.text "Le Guin")], none⟩
    postgresql ∈ all ∧
      inserted = ["INSERT INTO author (name) VALUES ('Butler');"] ∧
      called = ["", "CALL register_author('Le Guin');"] ∧
      Creates (scope.tableDefinition author).value "library.author"
        (scope.columnDefinitions author) ∧
      DefinesProcedure (Postgres.procedureDefinition scope register).value
        "library.register_author" register ∧
      (¬∃ columns values, inserted = [insertInto "library.author" columns values]) ∧
      ¬∃ values, called = ["", callOf "library.register_author" values] := by
  intro author register model naming named scope statements inserted called
  have inserted_eq : inserted = ["INSERT INTO author (name) VALUES ('Butler');"] := by
    decide +kernel
  have called_eq : called = ["", "CALL register_author('Le Guin');"] := by decide +kernel
  have table_name : naming.tableDefinitionName "library" "Author" = "library.author" := by
    decide +kernel
  have procedure_name : naming.procedureDefinitionName "library" "RegisterAuthor" =
      "library.register_author" := by decide +kernel
  refine ⟨List.mem_cons_self, inserted_eq, called_eq, ?_, ?_, ?_, ?_⟩
  · rw [← table_name]
    exact scope.creates_tableDefinition_qualified author
  · rw [← procedure_name]
    exact Postgres.definesProcedure_procedureDefinition scope register
  · rintro ⟨columns, values, qualified⟩
    rw [inserted_eq, List.cons.injEq] at qualified
    have starts := prefix_insertInto "library.author" columns values
    rw [← qualified.1] at starts
    exact absurd starts (by decide +kernel)
  · rintro ⟨values, qualified⟩
    rw [called_eq, List.cons.injEq, List.cons.injEq] at qualified
    have starts := prefix_callOf "library.register_author" values
    rw [← qualified.2.1] at starts
    exact absurd starts (by decide +kernel)

end Dialect

end SchemaCompiler
