import SchemaCompiler.Dialect

/-!
# The PostgreSQL dialects

Identity columns are serial, content rows may call procedures, and every routine is checked after
its definition. Routine bodies stand between `$BODY$` marks. The second dialect differs from the
first one in its names for identifying columns only, and runs on the same engine.
-/

namespace SchemaCompiler

namespace Dialect.Postgres

/-- A serial column. -/
def identityColumn (_kind : IdentityKind) (slot : ColumnSlot) : ColumnDefinition where
  line := slot.name ++ " BIGSERIAL PRIMARY KEY"

/-- One statement for each extension of the model. -/
def extensionStatements (scope : Scope) : Option String :=
  if scope.model.extensions.isEmpty then
    none
  else
    some (String.join (scope.model.extensions.map fun extension =>
      "CREATE EXTENSION IF NOT EXISTS " ++ extension ++ ";\n"))

/-- A field of a composite type. -/
def typeField (scope : Scope) (entity : Entity) (column : Column) : Generated String :=
  (fun types => scope.naming.tableColumnName column ++ " " ++ types.composite)
    <$> scope.types entity column

/-- The definition of a composite type. -/
def typeDefinition (scope : Scope) (definition : TypeDefinition) : Generated String :=
  let name := scope.naming.typeDefinitionName scope.schema definition.name
  (fun fields =>
      "\nDROP TYPE IF EXISTS " ++ name ++ ";\nCREATE TYPE " ++ name ++ " AS ("
        ++ ", ".intercalate fields ++ ");\n")
    <$> Generated.each (typeField scope definition.toEntity) definition.columns

/-- The check of a routine. -/
def checkOf (name : String) : Option String :=
  some ("SELECT * FROM plpgsql_check_function('" ++ name ++ "')")

/-- The line that checks a routine after its definition. -/
def checkLines (scope : Scope) (name : String) : List String :=
  match scope.profile.checkOf name with
  | none => []
  | some check => [check ++ ";"]

/-- The lines of a body between its marks. -/
def bodyLines (body : String) : List String :=
  ["AS $BODY$", body, "$BODY$;"]

/-- The language of generated bodies. -/
def languageLine : String := "LANGUAGE 'plpgsql'"

/-- The lines that define a function. -/
def functionLines (scope : Scope) (name : String) (function : StoredFunction) :
    Generated (List String) :=
  match function.code with
  | .source content => pure [content]
  | .body body =>
    (fun returns =>
        ["DROP FUNCTION IF EXISTS " ++ name ++ function.argumentTypes ++ ";",
          "CREATE OR REPLACE FUNCTION " ++ name ++ function.declaredArguments,
          returns,
          languageLine,
          if function.volatile then "VOLATILE" else "IMMUTABLE"] ++ bodyLines body)
      <$> scope.returnsClause function.toRoutine

/-- The definition of a function. -/
def functionDefinition (scope : Scope) (function : StoredFunction) : Generated String :=
  let name := scope.naming.functionDefinitionName scope.schema function.name
  (fun lines => "\n".intercalate (lines ++ checkLines scope name))
    <$> functionLines scope name function

/-- The lines that define a procedure, without its wrapper. -/
def procedureLines (name : String) (procedure : StoredProcedure) : List String :=
  match procedure.code with
  | .source content => [content]
  | .body body =>
    ["DROP PROCEDURE IF EXISTS " ++ name ++ procedure.argumentTypes ++ ";",
      "CREATE OR REPLACE PROCEDURE " ++ name ++ procedure.declaredArguments,
      languageLine] ++ bodyLines body

/-- The lines that define the wrapper of the procedure of the given name, with their check. -/
def wrapperLines (scope : Scope) (procedureName : String) (procedure : StoredProcedure)
    (wrapper : Wrapper) : Generated (List String) :=
  let name := scope.naming.wrapperDefinitionName scope.schema wrapper.functionName
  let body := wrapper.body.getD ("CALL " ++ procedureName ++ procedure.argumentNames ++ ";")
  (fun returns =>
      ["DROP FUNCTION IF EXISTS " ++ name ++ procedure.argumentTypes ++ ";",
        "CREATE OR REPLACE FUNCTION " ++ name ++ procedure.declaredArguments,
        returns,
        languageLine,
        "COST 100 VOLATILE",
        "AS $BODY$",
        "BEGIN",
        "  " ++ body,
        "END;",
        "$BODY$;"] ++ checkLines scope name)
    <$> scope.returnsClause procedure.toRoutine

/-- The definition of a procedure and of its wrapper. -/
def procedureDefinition (scope : Scope) (procedure : StoredProcedure) : Generated String :=
  let name := scope.naming.procedureDefinitionName scope.schema procedure.name
  let own := procedureLines name procedure ++ checkLines scope name
  match procedure.wrapper with
  | none => pure ("\n".intercalate own)
  | some wrapper =>
    (fun lines => "\n".intercalate (own ++ lines)) <$> wrapperLines scope name procedure wrapper

/-- A dialect for the engine, under a name of its own and with a naming strategy. -/
def named (name : String) (aliases : List String) (naming : Naming) : Dialect where
  name := name
  aliases := aliases
  engine := "postgresql"
  engineAliases := ["postgresql", "postgres"]
  naming := naming
  identityColumn := identityColumn
  checkOf := checkOf
  extensionStatements := extensionStatements
  typeDefinition? := some typeDefinition
  functionDefinition? := some functionDefinition
  procedureDefinition? := some procedureDefinition
  rowStatements := Scope.callOrInsertStatements

end Dialect.Postgres

namespace Dialect

/-- The dialect of PostgreSQL. -/
def postgresql : Dialect :=
  Postgres.named "postgresql" ["postgresql", "postgres"] .lowercase

/-- The dialect of PostgreSQL in which identifying columns are named `id`. -/
def postgresqlCommonKey : Dialect :=
  Postgres.named "postgresql:common_pk_col_named_id"
    ["postgresql:common_pk_col_named_id", "postgres:common_pk_col_named_id"]
    (.commonKey .lowercase)

end Dialect

end SchemaCompiler
