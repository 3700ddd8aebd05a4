import SchemaCompiler.Dialect.Catalog
import SchemaCompiler.Report

/-!
# The catalog of dialects

A list of the built-in dialects and naming strategies, in which the dialect of the settings is
marked.
-/

namespace SchemaCompiler

/-- A dialect in the catalog. -/
structure CatalogEntry where
  /-- The name of the dialect. -/
  name : String
  /-- The names to which the dialect answers. -/
  aliases : List String
  /-- The name of its naming strategy. -/
  naming : String
  /-- The description of its naming strategy. -/
  namingDescription : String
  /-- Whether it knows routines. -/
  routines : Bool
  /-- The extension of its files. -/
  extension : String
  deriving DecidableEq, Repr

namespace CatalogEntry

/-- The entry of a dialect. -/
def ofDialect (dialect : Dialect) : CatalogEntry where
  name := dialect.name
  aliases := dialect.aliases
  naming := dialect.naming.name
  namingDescription := dialect.naming.description
  routines := dialect.supportsRoutines
  extension := dialect.nature.extension

/-- The lines of an entry. -/
def lines (entry : CatalogEntry) (selected : String) : List String :=
  [" " ++ (if entry.name == selected then "*" else " ") ++ " " ++ entry.name ++ " ["
      ++ ", ".intercalate entry.aliases ++ "] naming=" ++ entry.naming ++ " ." ++ entry.extension
      ++ " " ++ (if entry.routines then "routines" else "tables only"),
    "     " ++ entry.namingDescription]

/-- An entry as a value. -/
def json (entry : CatalogEntry) : Json :=
  .object [
    ("name", .text entry.name),
    ("aliases", .texts entry.aliases),
    ("naming", .text entry.naming),
    ("naming_description", .text entry.namingDescription),
    ("routines", .boolean entry.routines),
    ("extension", .text entry.extension)]

end CatalogEntry

/-- The dialects and naming strategies on offer. -/
structure Catalog where
  /-- The name of the dialect of the settings. -/
  selected : String
  /-- The dialects. -/
  dialects : List CatalogEntry := Dialect.all.map .ofDialect
  /-- The names of the naming strategies. -/
  namingStrategies : List String := Naming.knownNames
  deriving DecidableEq, Repr

namespace Catalog

/-- The catalog for a reader. -/
def table (catalog : Catalog) : String :=
  "\n".intercalate
    (["Dialects (" ++ toString catalog.dialects.length ++ "):"]
      ++ catalog.dialects.flatMap (·.lines catalog.selected)
      ++ ["", "Naming strategies:"] ++ catalog.namingStrategies.map ("  " ++ ·))

/-- The catalog as a value. -/
def json (catalog : Catalog) : Json :=
  .object [
    ("selected", .text catalog.selected),
    ("dialects", .array (catalog.dialects.map (·.json))),
    ("naming_strategies", .texts catalog.namingStrategies)]

instance : Report Catalog where
  table := table
  json := json

end Catalog

end SchemaCompiler
