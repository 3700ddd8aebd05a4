import SchemaCompiler.Model.Entity
import SchemaCompiler.Text.AsciiCase
import SchemaCompiler.Text.Blank
import SchemaCompiler.Text.Spelling

/-!
# Naming strategies

A naming strategy turns logical names into identifiers. A base strategy spells every name in snake
case, in one letter case, and decides for each class of objects whether definitions carry the
schema. The strategy `commonKey` wraps another one: it names every identifying column `id`, and
leaves all other decisions to the strategy inside.
-/

namespace SchemaCompiler

/-- The classes of objects whose definitions can be qualified. -/
inductive ObjectClass
  | table
  | view
  | storedProcedure
  | storedFunction
  | typeDefinition
  deriving DecidableEq, Repr

/-- How the definition of an object is named. -/
inductive DefinitionName
  /-- By the name of the object alone. -/
  | objectOnly
  /-- By the schema and the name of the object. -/
  | schemaQualified
  deriving DecidableEq, Repr

/-- How definitions are named, for each class of objects. -/
structure Qualification where
  tables : DefinitionName := .objectOnly
  views : DefinitionName := .objectOnly
  storedProcedures : DefinitionName := .objectOnly
  storedFunctions : DefinitionName := .objectOnly
  typeDefinitions : DefinitionName := .objectOnly
  deriving DecidableEq, Repr

namespace Qualification

/-- The same decision for all classes. -/
def uniform (form : DefinitionName) : Qualification :=
  ⟨form, form, form, form, form⟩

/-- The decision for one class. -/
def form (qualification : Qualification) : ObjectClass → DefinitionName
  | .table => qualification.tables
  | .view => qualification.views
  | .storedProcedure => qualification.storedProcedures
  | .storedFunction => qualification.storedFunctions
  | .typeDefinition => qualification.typeDefinitions

/-- Another decision for one class. -/
def set (qualification : Qualification) (objectClass : ObjectClass) (form : DefinitionName) :
    Qualification :=
  match objectClass with
  | .table => { qualification with tables := form }
  | .view => { qualification with views := form }
  | .storedProcedure => { qualification with storedProcedures := form }
  | .storedFunction => { qualification with storedFunctions := form }
  | .typeDefinition => { qualification with typeDefinitions := form }

/-- The name under which an object is defined. -/
def qualify (qualification : Qualification) (objectClass : ObjectClass) (schema name : String) :
    String :=
  match qualification.form objectClass with
  | .objectOnly => name
  | .schemaQualified => schema ++ "." ++ name

end Qualification

/-- The letter case of identifiers. -/
inductive IdentifierCase
  | upper
  | lower
  deriving DecidableEq, Repr

/-- A logical name in snake case. -/
def IdentifierCase.spell (letters : IdentifierCase) (logical : String) : String :=
  match letters with
  | .upper => Spelling.upperSnake.apply logical
  | .lower => Spelling.snake.apply logical

/-- A naming strategy. -/
inductive Naming
  /-- Snake case in one letter case. -/
  | base (letters : IdentifierCase) (qualification : Qualification)
  /-- The wrapped strategy, with identifying columns named `id`. -/
  | commonKey (inner : Naming)
  deriving DecidableEq, Repr

namespace Naming

/-- Snake case in upper case. -/
def uppercase : Naming := .base .upper {}

/-- Snake case in lower case. -/
def lowercase : Naming := .base .lower {}

/-- The name of a strategy. -/
def name : Naming → String
  | .base .upper _ => "uppercase_all"
  | .base .lower _ => "lowercase_all"
  | .commonKey inner => inner.name ++ "_common_pk_col_named_id"

/-- A description of a strategy. -/
def description : Naming → String
  | .base .upper _ => "entity and attribute names are snake_cased and then uppercased"
  | .base .lower _ => "entity and attribute names are snake_cased and then lowercased"
  | .commonKey inner =>
    inner.description ++ "; primary keys and identity-derived columns are named id"

/-- How definitions are named. -/
def qualification : Naming → Qualification
  | .base _ qualification => qualification
  | .commonKey inner => inner.qualification

/-! ## Identifiers

A base strategy spells the names of tables and attributes, and names all other objects like tables.
The wrapping strategy asks the strategy inside for each of these names. -/

/-- The identifier of a table. -/
def tableName : Naming → String → String
  | .base letters _, entity => letters.spell entity
  | .commonKey inner, entity => inner.tableName entity

/-- The identifier of a view. -/
def viewName : Naming → String → String
  | .base letters qualification, entity => (base letters qualification).tableName entity
  | .commonKey inner, entity => inner.viewName entity

/-- The identifier of a composite type. -/
def typeName : Naming → String → String
  | .base letters qualification, entity => (base letters qualification).viewName entity
  | .commonKey inner, entity => inner.typeName entity

/-- The identifier of a function. -/
def functionName : Naming → String → String
  | .base letters qualification, entity => (base letters qualification).tableName entity
  | .commonKey inner, entity => inner.functionName entity

/-- The identifier of a procedure. -/
def procedureName : Naming → String → String
  | .base letters qualification, entity => (base letters qualification).tableName entity
  | .commonKey inner, entity => inner.procedureName entity

/-- The identifier of an attribute by its name alone. -/
def columnName : Naming → String → String
  | .base letters _, attributeName => letters.spell attributeName
  | .commonKey inner, attributeName => inner.columnName attributeName

/-- The identifier of a column in its table. -/
def tableColumnName (naming : Naming) (column : Column) : String :=
  match naming with
  | .base .. => naming.columnName column.name
  | .commonKey inner =>
    if column.primaryKey || column.derivedFromIdentity then
      inner.columnName "id"
    else
      inner.tableColumnName column

/-- The identifier of a column together with that of its table. -/
def qualifiedColumnName (naming : Naming) (entity : Entity) (column : Column) : String :=
  naming.tableName entity.name ++ "." ++ naming.tableColumnName column

/-- The name of a schema is taken as it is. -/
def schemaName : Naming → String → String
  | .base .., schema => schema
  | .commonKey inner, schema => inner.schemaName schema

theorem viewName_eq_tableName (naming : Naming) (entity : String) :
    naming.viewName entity = naming.tableName entity := by
  induction naming with
  | base => rfl
  | commonKey inner ih => exact ih

theorem typeName_eq_tableName (naming : Naming) (entity : String) :
    naming.typeName entity = naming.tableName entity := by
  induction naming with
  | base => rfl
  | commonKey inner ih => exact ih

theorem functionName_eq_tableName (naming : Naming) (entity : String) :
    naming.functionName entity = naming.tableName entity := by
  induction naming with
  | base => rfl
  | commonKey inner ih => exact ih

theorem procedureName_eq_tableName (naming : Naming) (entity : String) :
    naming.procedureName entity = naming.tableName entity := by
  induction naming with
  | base => rfl
  | commonKey inner ih => exact ih

theorem schemaName_eq (naming : Naming) (schema : String) : naming.schemaName schema = schema := by
  induction naming with
  | base => rfl
  | commonKey inner ih => exact ih

/-! ## Names of definitions -/

/-- The name under which an object with the given identifier is defined. -/
def definitionName (naming : Naming) (objectClass : ObjectClass) (schema identifier : String) :
    String :=
  naming.qualification.qualify objectClass (naming.schemaName schema) identifier

/-- The name under which a table is defined. -/
def tableDefinitionName (naming : Naming) (schema entity : String) : String :=
  naming.definitionName .table schema (naming.tableName entity)

/-- The name under which a view is defined. -/
def viewDefinitionName (naming : Naming) (schema entity : String) : String :=
  naming.definitionName .view schema (naming.viewName entity)

/-- The name under which a composite type is defined. -/
def typeDefinitionName (naming : Naming) (schema entity : String) : String :=
  naming.definitionName .typeDefinition schema (naming.typeName entity)

/-- The name under which a function is defined. -/
def functionDefinitionName (naming : Naming) (schema entity : String) : String :=
  naming.definitionName .storedFunction schema (naming.functionName entity)

/-- The name under which a procedure is defined. -/
def procedureDefinitionName (naming : Naming) (schema entity : String) : String :=
  naming.definitionName .storedProcedure schema (naming.procedureName entity)

/-- The name under which a wrapper is defined: its own name is taken as it is. -/
def wrapperDefinitionName (naming : Naming) (schema functionName : String) : String :=
  naming.definitionName .storedFunction schema functionName

/-- The identifier of an attribute given by name, if the entity has it. -/
def guessColumn? (naming : Naming) (entity : Entity) (attributeName : String) (qualify : Bool) :
    Option String :=
  (entity.column? attributeName).map fun column =>
    if qualify then naming.qualifiedColumnName entity column else naming.tableColumnName column

/-! ## Strategies by name -/

/-- The name of the wrapping strategy. -/
def commonKeyName : String := "common_pk_col_named_id"

/-- The base strategy of a name. -/
def baseNamed? : String → Option Naming
  | "uppercase" | "uppercase_all" => some uppercase
  | "lowercase" | "lowercase_all" => some lowercase
  | _ => none

/-- The strategy of a name: a base strategy, with the wrapping one after a colon. Case and blanks
around the name do not matter. -/
def named? (name : String) : Option Naming :=
  let characters := (Text.asciiLower (Text.trim name)).toList
  let baseName := String.ofList (characters.takeWhile (· ≠ ':'))
  match characters.dropWhile (· ≠ ':') with
  | [] => baseNamed? baseName
  | _ :: wrapping =>
    if String.ofList wrapping = commonKeyName then
      (baseNamed? baseName).map .commonKey
    else
      none

/-- The names under which strategies are offered. -/
def knownNames : List String :=
  ["uppercase", "lowercase", "uppercase:common_pk_col_named_id",
    "lowercase:common_pk_col_named_id"]

end Naming

end SchemaCompiler
