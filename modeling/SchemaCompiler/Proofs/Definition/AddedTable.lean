import SchemaCompiler.Proofs.Definition.Dependence
import SchemaCompiler.Proofs.Definition.ForeignKey

/-!
# Models with one more table

Tables are found by name, and the first one of a name is meant, so a table at the end of a model is
found only under a name that no table had before. If no relationship of the other tables uses such a
name, every reference from these tables leads where it led before. References from there on start in
a table that was found, which is one of the model again: the frame is kept along chains of any
length, whether they end, fail or come back. What is defined for the other tables depends on nothing
else of the model.
-/

namespace SchemaCompiler

namespace Model

variable {model other : Model} {table added : Table} {column : Column} {entity : String}
  {address : ColumnRef}

/-- The model with one more table after the others. -/
def withTable (model : Model) (added : Table) : Model :=
  { model with tables := model.tables ++ [added] }

/-- No reference of the model finds a table when it is added: an earlier table has its name, or no
relationship uses the name. -/
def Overlooks (model : Model) (added : Table) : Prop :=
  (∃ table ∈ model.tables, table.name = added.name) ∨
    ∀ table ∈ model.tables, ∀ column ∈ table.columns, ∀ target,
      column.kind = .relationship target → target.table ≠ added.name

/-- References from the tables of a model lead to the same columns in another model. -/
def RefersAlike (model other : Model) : Prop :=
  ∀ table ∈ model.tables, ∀ column ∈ table.columns, ∀ address,
    column.target? table.toEntity = some address → other.resolve? address = model.resolve? address

theorem isSome_table?_of_mem (table_mem : table ∈ model.tables) :
    (model.table? table.name).isSome :=
  List.find?_isSome.mpr ⟨table, table_mem, beq_self_eq_true table.name⟩

theorem table?_withTable (decided : (model.table? entity).isSome ∨ entity ≠ added.name) :
    (model.withTable added).table? entity = model.table? entity := by
  have appended : (model.withTable added).table? entity =
      (model.table? entity).or ([added].find? (·.name == entity)) :=
    List.find?_append
  rw [appended]
  rcases decided with known | unused
  · exact Option.or_of_isSome known
  · rw [List.find?_singleton, beq_false_of_ne unused.symm]
    exact Option.or_none

theorem resolve?_withTable (decided : (model.table? address.table).isSome ∨
      address.table ≠ added.name) :
    (model.withTable added).resolve? address = model.resolve? address := by
  rw [resolve?, resolve?, table?_withTable decided]

/-- A reference either names an earlier table or uses a name that the added table does not have. A
self reference names the table that it is made from. -/
theorem Overlooks.refersAlike (overlooks : model.Overlooks added) :
    model.RefersAlike (model.withTable added) := by
  intro table table_mem column column_mem address refers
  apply resolve?_withTable
  cases kind : column.kind <;> simp only [Column.target?, kind, reduceCtorEq] at refers
  case relationship target =>
    cases Option.some_inj.mp refers
    rcases overlooks with ⟨earlier, earlier_mem, same_name⟩ | unused
    · by_cases named : address.table = added.name
      · rw [named, ← same_name]
        exact .inl (isSome_table?_of_mem earlier_mem)
      · exact .inr named
    · exact .inr (unused table table_mem column column_mem address kind)
  case selfReference =>
    rcases Option.map_eq_some_iff.mp refers with ⟨key, _, rfl⟩
    exact .inl (isSome_table?_of_mem table_mem)

end Model

namespace TypeResolver

variable {model other : Model} {table : Table} {column : Column}

/-- Where references lead alike, the columns of the tables have the same types, or the same failure
in place of them. -/
theorem resolveWithin_congr (alike : model.RefersAlike other) (registry : TypeRegistry)
    (steps : Nat) (table_mem : table ∈ model.tables) (column_mem : column ∈ table.columns) :
    resolveWithin ⟨other, registry⟩ steps table.toEntity column =
      resolveWithin ⟨model, registry⟩ steps table.toEntity column := by
  induction steps generalizing table column with
  | zero => rfl
  | succ steps ih =>
      rw [resolveWithin, resolveWithin]
      cases registry.find? column with
      | none => rfl
      | some registration =>
          cases mapper : registration.mapper with
          | direct types => simp only [mapper]
          | selfReference =>
              simp only [mapper]
              cases primaryKey : table.primaryKey? with
              | none => rfl
              | some key =>
                  have key_mem : key ∈ table.columns := List.mem_of_find?_eq_some primaryKey
                  simp only [ih table_mem key_mem]
          | relationship =>
              simp only [mapper]
              split
              · rename_i target kind
                have refers : column.target? table.toEntity = some target := by
                  rw [Column.target?, kind]
                rw [alike table table_mem column column_mem target refers]
                cases found : model.resolve? target with
                | none => rfl
                -- A table that was found is one of the model again, so the induction goes on there.
                | some pair =>
                    rcases pair with ⟨next, targetColumn⟩
                    rcases Model.mem_of_resolve? found with ⟨next_mem, _, target_mem, _⟩
                    simp only [ih next_mem target_mem]
              · rfl

theorem types_congr (alike : model.RefersAlike other) (registry : TypeRegistry)
    (table_mem : table ∈ model.tables) (column_mem : column ∈ table.columns) :
    types ⟨other, registry⟩ table.toEntity column =
      types ⟨model, registry⟩ table.toEntity column := by
  simp only [types, resolve, resolveWithin_congr alike registry _ table_mem column_mem]

end TypeResolver

/-- The definition of a further table follows those of the others after a blank line. -/
theorem Scope.modelDefinition_concat {before after : Scope} {added : Table}
    (tables : after.model.tables = before.model.tables ++ [added])
    (same : ∀ table ∈ before.model.tables,
      after.tableDefinition table = before.tableDefinition table) :
    (before.model.tables ≠ [] →
        after.modelDefinition.value =
          before.modelDefinition.value ++ "\n\n" ++ (after.tableDefinition added).value) ∧
      after.modelDefinition.diagnostics =
        before.modelDefinition.diagnostics ++ (after.tableDefinition added).diagnostics := by
  have defined := Generated.each_concat after.tableDefinition before.model.tables added
  rw [Generated.each_congr same, ← tables] at defined
  simp only [modelDefinition, Generated.value_map, Generated.diagnostics_map, defined, and_true]
  intro nonempty
  have texts : (Generated.each before.tableDefinition before.model.tables).value ≠ [] := by
    simpa using nonempty
  rw [String.intercalate_append_of_ne_nil texts (List.cons_ne_nil _ _),
    String.intercalate_singleton]

namespace Dialect

variable {model other : Model} {table added : Table}

theorem definesAlike (dialect : Dialect) (alike : model.RefersAlike other)
    (table_mem : table ∈ model.tables) {column : Column} (column_mem : column ∈ table.columns) :
    (dialect.scope model).DefinesAlike (dialect.scope other) table column where
  identityColumn := rfl
  name := rfl
  types := TypeResolver.types_congr alike dialect.registry table_mem column_mem
  target := by
    intro address refers
    refine ⟨rfl, ?_⟩
    simp only [Scope.targetName, scope, alike table table_mem column column_mem address refers]
    rfl

/-- Adding a table does not disturb the others. If no reference finds the added table, every other
table is defined as before, and the same is recorded for it. The definition of the added table
follows those of all others after a blank line. -/
theorem definitions_withTable (dialect : Dialect) (overlooks : model.Overlooks added) :
    let before := dialect.scope model
    let after := dialect.scope (model.withTable added)
    (∀ table ∈ model.tables, after.tableDefinition table = before.tableDefinition table) ∧
      (model.tables ≠ [] →
        after.modelDefinition.value =
          before.modelDefinition.value ++ "\n\n" ++ (after.tableDefinition added).value) ∧
      after.modelDefinition.diagnostics =
        before.modelDefinition.diagnostics ++ (after.tableDefinition added).diagnostics := by
  intro before after
  have same : ∀ table ∈ model.tables,
      after.tableDefinition table = before.tableDefinition table := by
    intro table table_mem
    have alike : ∀ column ∈ table.columns, before.DefinesAlike after table column :=
      fun column column_mem => dialect.definesAlike overlooks.refersAlike table_mem column_mem
    exact Scope.tableDefinition_congr rfl alike
  have tables : after.model.tables = before.model.tables ++ [added] := rfl
  exact ⟨same, Scope.modelDefinition_concat tables same⟩

/-- A loan refers to a book, and to a reader who is not in the model. A second table of books is
added, whose key has another type and whose author is not in the model either. -/
theorem definitions_withTable_book :
    let key : Column :=
      ⟨"Id", .numericIdentity, false, true, false, false, none, false, []⟩
    let copy : Column :=
      ⟨"Copy", .relationship ⟨"Book", "Id"⟩, false, false, false, false, none, false, []⟩
    let reader : Column :=
      ⟨"Reader", .relationship ⟨"Reader", "Id"⟩, false, false, false, false, none, false, []⟩
    let isbn : Column := ⟨"Id", .text 13, false, true, false, false, none, false, []⟩
    let author : Column :=
      ⟨"Author", .relationship ⟨"Author", "Id"⟩, false, false, false, false, none, false, []⟩
    let model : Model := {
      name := "library"
      tables := [⟨⟨"Book", [key]⟩, false, []⟩, ⟨⟨"Loan", [copy, reader]⟩, false, []⟩] }
    let added : Table := ⟨⟨"Book", [isbn, author]⟩, false, []⟩
    let before := Dialect.sqlite.scope model
    let after := Dialect.sqlite.scope (model.withTable added)
    model.Overlooks added ∧ model.tables ≠ [] ∧
      (∀ table ∈ model.tables, after.tableDefinition table = before.tableDefinition table) ∧
      after.modelDefinition.value =
        before.modelDefinition.value ++ "\n\n" ++ (after.tableDefinition added).value ∧
      after.modelDefinition.diagnostics =
        before.modelDefinition.diagnostics ++ (after.tableDefinition added).diagnostics ∧
      before.modelDefinition.diagnostics.map (·.subject) = ["Loan.Reader"] ∧
      (after.tableDefinition added).diagnostics.map (·.subject) = ["Book.Author"] := by
  intro key copy reader isbn author model added before after
  have overlooks : model.Overlooks added := .inl ⟨_, List.mem_cons_self, rfl⟩
  have nonempty : model.tables ≠ [] := List.cons_ne_nil _ _
  rcases Dialect.sqlite.definitions_withTable overlooks with ⟨same, text, recorded⟩
  exact ⟨overlooks, nonempty, same, text nonempty, recorded, by decide +kernel,
    by decide +kernel⟩

end Dialect

end SchemaCompiler
