import SchemaCompiler.Dialect.Postgres
import SchemaCompiler.Dialect.Sqlite

/-!
# The built-in dialects
-/

namespace SchemaCompiler

namespace Dialect

/-- The built-in dialects in the order in which they are listed. -/
def all : List Dialect :=
  [postgresql, postgresqlCommonKey, sqlite]

/-- There are two engines. -/
theorem eq_named_or_eq_sqlite {dialect : Dialect} (builtIn : dialect ∈ all) :
    (∃ name aliases naming, dialect = Postgres.named name aliases naming) ∨ dialect = sqlite := by
  simp only [all, List.mem_cons, List.not_mem_nil, or_false] at builtIn
  rcases builtIn with rfl | rfl | rfl
  · exact .inl ⟨_, _, _, rfl⟩
  · exact .inl ⟨_, _, _, rfl⟩
  · exact .inr rfl

theorem registry_eq_ansi {dialect : Dialect} (builtIn : dialect ∈ all) :
    dialect.registry = .ansi := by
  rcases eq_named_or_eq_sqlite builtIn with ⟨_, _, _, rfl⟩ | rfl <;> rfl

/-- The built-in dialect of the given name. -/
def named? (name : String) : Option Dialect :=
  all.find? (·.answersTo name)

end Dialect

end SchemaCompiler
