import SchemaCompiler.Content.Statement
import SchemaCompiler.Definition.Signature
import SchemaCompiler.Definition.Table
import SchemaCompiler.Definition.View
import SchemaCompiler.Text.Displayed

/-!
# Dialects

A dialect is a profile with the capabilities of its engine. Tables and views are defined in the same
way everywhere; composite types, routines and extensions only where the dialect knows how.
-/

namespace SchemaCompiler

/-- What can be generated for an engine, and how. -/
structure Dialect extends Profile where
  /-- The statements that load the extensions of the model, if there are any. -/
  extensionStatements : Scope → Option String := fun _ => none
  /-- The definition of a composite type. -/
  typeDefinition? : Option (Scope → TypeDefinition → Generated String) := none
  /-- The definition of a function. -/
  functionDefinition? : Option (Scope → StoredFunction → Generated String) := none
  /-- The definition of a procedure. -/
  procedureDefinition? : Option (Scope → StoredProcedure → Generated String) := none
  /-- The statements for a content row, and the cursor after it. -/
  rowStatements :
    Scope → ContentCursor → ContentRow → Generated (List String × ContentCursor) :=
    Scope.insertStatements

namespace Dialect

/-- A model seen through a dialect. -/
def scope (dialect : Dialect) (model : Model) : Scope :=
  ⟨model, dialect.toProfile⟩

/-- Whether the engine has routines. -/
def supportsRoutines (dialect : Dialect) : Bool :=
  dialect.functionDefinition?.isSome || dialect.procedureDefinition?.isSome

/-- The names and the strategies of a dialect on one line. -/
def displayed (dialect : Dialect) : String :=
  "Dialect \x7b name: " ++ Text.displayed dialect.name
    ++ ", aliases: [" ++ ", ".intercalate (dialect.aliases.map Text.displayed)
    ++ "], engine: " ++ Text.displayed dialect.engine
    ++ ", naming: " ++ Text.displayed dialect.naming.name
    ++ ", types: " ++ toString dialect.registry.size ++ " \x7d"

/-- The dialect with another naming strategy. -/
def withNaming (dialect : Dialect) (naming : Naming) : Dialect :=
  { dialect with naming := naming }

end Dialect

end SchemaCompiler
