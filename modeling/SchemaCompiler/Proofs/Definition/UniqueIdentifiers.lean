import SchemaCompiler.Proofs.Definition.ForeignKey

/-!
# Identifiers of columns

Each line of a table starts with the identifier of its column. Under a base strategy these are the
identifiers of the names, so they are distinct if those are. The strategy `commonKey` calls every
column `id` that is marked as the primary key or derives its identity, and leaves a column alone
whose name has that identifier already. All these columns share one identifier, and nothing else
comes together: the identifiers are distinct exactly if there is at most one such column.

That only one column is the primary key does not suffice, since a table can have columns that derive
their identity beside it.
-/

namespace SchemaCompiler

/-! ## A common identifier -/

/-- Where some elements get a common value and the others keep distinct values of their own, all
values are distinct exactly if at most one element gets the common one. -/
theorem nodup_map_common_iff {α β : Type} {elements : List α} {shares : α → Bool} {own : α → β}
    {common : β} (distinct : (elements.map own).Nodup)
    (apart : ∀ element ∈ elements, shares element = false → own element ≠ common) :
    (elements.map fun element => if shares element then common else own element).Nodup ↔
      elements.countP shares ≤ 1 := by
  induction elements with
  | nil => simp
  | cons first rest ih =>
      rw [List.map_cons, List.nodup_cons] at distinct
      have later := ih distinct.2 fun element element_mem =>
        apart element (List.mem_cons_of_mem first element_mem)
      rw [List.map_cons, List.nodup_cons, later]
      cases shared : shares first with
      | true =>
          -- The common value is taken, so no other element may share it.
          have alone : (common ∉ rest.map fun element =>
              if shares element then common else own element) ↔ rest.countP shares = 0 := by
            rw [List.countP_eq_zero]
            constructor
            · intro absent element element_mem sharing
              exact absent (List.mem_map.mpr ⟨element, element_mem, if_pos sharing⟩)
            · intro noneShares common_mem
              obtain ⟨element, element_mem, value_eq⟩ := List.mem_map.mp common_mem
              have keeps : shares element = false := by simpa using noneShares element element_mem
              rw [keeps] at value_eq
              exact apart element (List.mem_cons_of_mem first element_mem) keeps value_eq
          rw [if_pos rfl, alone, List.countP_cons_of_pos shared]
          omega
      | false =>
          have kept : own first ∉ rest.map fun element =>
              if shares element then common else own element := by
            intro own_mem
            obtain ⟨element, element_mem, value_eq⟩ := List.mem_map.mp own_mem
            split at value_eq
            · exact apart first List.mem_cons_self shared value_eq.symm
            · exact distinct.1 (List.mem_map.mpr ⟨element, element_mem, value_eq⟩)
          simp [shared, kept]

namespace Naming

variable {naming : Naming} {column : Column}

/-- A strategy spells the names of columns as the strategy inside does. -/
theorem columnName_commonKey (inner : Naming) (name : String) :
    (commonKey inner).columnName name = inner.columnName name :=
  rfl

/-- A column that is called `id` by the strategy `commonKey`, because it identifies or because its
name is spelled so. -/
def SharesKeyName (naming : Naming) (column : Column) : Bool :=
  column.primaryKey || column.derivedFromIdentity ||
    naming.columnName column.name = naming.columnName "id"

theorem tableColumnName_of_not_identifying
    (notIdentifying : (column.primaryKey || column.derivedFromIdentity) = false) :
    naming.tableColumnName column = naming.columnName column.name := by
  induction naming with
  | base letters qualification => rfl
  | commonKey inner ih =>
      rw [tableColumnName, if_neg (by simp [notIdentifying]), ih, columnName_commonKey]

theorem tableColumnName_commonKey (inner : Naming) (column : Column) :
    (commonKey inner).tableColumnName column =
      if (commonKey inner).SharesKeyName column then (commonKey inner).columnName "id"
      else (commonKey inner).columnName column.name := by
  cases identifying : column.primaryKey || column.derivedFromIdentity with
  | true => simp [tableColumnName, SharesKeyName, identifying, columnName_commonKey]
  | false =>
      rw [tableColumnName_of_not_identifying identifying]
      by_cases spelled :
          (commonKey inner).columnName column.name = (commonKey inner).columnName "id"
      · rw [spelled, ite_self]
      · simp [SharesKeyName, identifying, spelled]

end Naming

namespace Scope

theorem startsWith_columnDefinitions {scope : Scope} (identities : scope.profile.NamesIdentities)
    (table : Table) :
    List.Forall₂ ColumnDefinition.StartsWith (scope.columnDefinitions table)
      (table.columns.map scope.naming.tableColumnName) := by
  rw [columnDefinitions, List.forall₂_map_left_iff, List.forall₂_map_right_iff, List.forall₂_same]
  exact fun column _ => startsWith_columnDefinition identities table column

/-- Each line of a table starts with the identifier of its column. If the names of the columns have
distinct identifiers, so have the columns under a base strategy. Under the strategy `commonKey`
they have if and only if at most one column is marked as the primary key, derives its identity or
has the identifier of `id` by its name. -/
theorem identifiers_nodup_iff {dialect : Dialect} (builtIn : dialect ∈ Dialect.all)
    {naming : Naming} {model : Model} {table : Table}
    (distinct : (table.columns.map fun column => naming.columnName column.name).Nodup) :
    let scope := (dialect.withNaming naming).scope model
    let identifiers := table.columns.map naming.tableColumnName
    ∃ definitions : List ColumnDefinition,
      Creates (scope.tableDefinition table).value
        (naming.tableDefinitionName model.schema table.name) definitions ∧
      List.Forall₂ ColumnDefinition.StartsWith definitions identifiers ∧
      (∀ letters qualification, naming = .base letters qualification → identifiers.Nodup) ∧
      ∀ inner, naming = .commonKey inner →
        (identifiers.Nodup ↔ table.columns.countP naming.SharesKeyName ≤ 1) := by
  intro scope identifiers
  have starts : List.Forall₂ ColumnDefinition.StartsWith (scope.columnDefinitions table)
      identifiers :=
    startsWith_columnDefinitions (Dialect.namesIdentities builtIn naming) table
  refine ⟨scope.columnDefinitions table, scope.creates_tableDefinition_qualified table, starts,
    ?_, ?_⟩
  · rintro letters qualification rfl
    exact distinct
  · rintro inner rfl
    have apart : ∀ column ∈ table.columns, (Naming.commonKey inner).SharesKeyName column = false →
        (Naming.commonKey inner).columnName column.name ≠
          (Naming.commonKey inner).columnName "id" := by
      intro column _ notShared spelled
      simp [Naming.SharesKeyName, spelled] at notShared
    have identifiers_eq : identifiers = table.columns.map fun column =>
        if (Naming.commonKey inner).SharesKeyName column then
          (Naming.commonKey inner).columnName "id"
        else (Naming.commonKey inner).columnName column.name :=
      List.map_congr_left fun column _ => Naming.tableColumnName_commonKey inner column
    rw [identifiers_eq, nodup_map_common_iff distinct apart]

/-- A loan whose key alone identifies it, with names in upper case. -/
theorem identifiers_nodup_iff_loan :
    let key : Column := { name := "Key", kind := .nativeIdentity, primaryKey := true }
    let due : Column := { name := "dueOn", kind := .date }
    let book : Column := { name := "Book", kind := .relationship ⟨"Book", "Key"⟩ }
    let table : Table := ⟨⟨"Loan", [key, due, book]⟩, false, []⟩
    let model : Model := { name := "library", tables := [table] }
    let naming : Naming := .commonKey (.base .upper (.uniform .schemaQualified))
    let scope := (Dialect.postgresql.withNaming naming).scope model
    Dialect.postgresql ∈ Dialect.all ∧
      (table.columns.map fun column => naming.columnName column.name).Nodup ∧
      (∃ definitions : List ColumnDefinition,
        Creates (scope.tableDefinition table).value
          (naming.tableDefinitionName model.schema table.name) definitions ∧
        List.Forall₂ ColumnDefinition.StartsWith definitions ["ID", "DUE_ON", "BOOK"]) ∧
      (table.columns.map naming.tableColumnName).Nodup := by
  intro key due book table model naming scope
  have builtIn : Dialect.postgresql ∈ Dialect.all := by simp [Dialect.all]
  have id_eq : naming.columnName "id" = "ID" := by decide +kernel
  have key_eq : naming.columnName "Key" = "KEY" := by decide +kernel
  have due_eq : naming.columnName "dueOn" = "DUE_ON" := by decide +kernel
  have book_eq : naming.columnName "Book" = "BOOK" := by decide +kernel
  have distinct : (table.columns.map fun column => naming.columnName column.name).Nodup := by
    simp [table, key, due, book, key_eq, due_eq, book_eq]
  have key_shares : naming.SharesKeyName key = true := rfl
  have due_keeps : naming.SharesKeyName due = false := by
    simp [Naming.SharesKeyName, due, due_eq, id_eq]
  have book_keeps : naming.SharesKeyName book = false := by
    simp [Naming.SharesKeyName, book, book_eq, id_eq]
  have identifiers_eq : table.columns.map naming.tableColumnName = ["ID", "DUE_ON", "BOOK"] := by
    have calls (column : Column) : naming.tableColumnName column =
        if naming.SharesKeyName column then naming.columnName "id"
        else naming.columnName column.name :=
      Naming.tableColumnName_commonKey _ column
    simp [table, calls, key_shares, due_keeps, book_keeps, id_eq, due, due_eq, book, book_eq]
  have one : table.columns.countP naming.SharesKeyName ≤ 1 := by
    simp [table, key_shares, due_keeps, book_keeps]
  obtain ⟨definitions, creates, starts, _, unique⟩ :=
    @identifiers_nodup_iff _ builtIn naming model table distinct
  rw [identifiers_eq] at starts
  exact ⟨builtIn, distinct, ⟨definitions, creates, starts⟩, (unique _ rfl).mpr one⟩

/-- A book with one column that is marked as the primary key, and beside it a reference that derives
its identity. Both lines start with the same identifier. -/
theorem identifiers_not_nodup :
    let key : Column := { name := "key", kind := .nativeIdentity, primaryKey := true }
    let written : Column := {
      name := "author", kind := .relationship ⟨"Author", "key"⟩, derivedFromIdentity := true }
    let author : Table := ⟨⟨"Author", [key]⟩, false, []⟩
    let book : Table := ⟨⟨"Book", [key, written]⟩, false, []⟩
    let model : Model := { name := "library", tables := [author, book] }
    let naming : Naming := .commonKey .lowercase
    let scope := Dialect.postgresqlCommonKey.scope model
    Dialect.postgresqlCommonKey ∈ Dialect.all ∧ scope.naming = naming ∧
      book.columns.countP (·.primaryKey) = 1 ∧
      (book.columns.map fun column => Naming.lowercase.columnName column.name).Nodup ∧
      book.columns.map naming.tableColumnName = ["id", "id"] ∧
      Creates (scope.tableDefinition book).value
        (naming.tableDefinitionName model.schema book.name) (scope.columnDefinitions book) ∧
      List.Forall₂ ColumnDefinition.StartsWith (scope.columnDefinitions book) ["id", "id"] ∧
      ¬(book.columns.map naming.tableColumnName).Nodup := by
  intro key written author book model naming scope
  have names_eq : (book.columns.map fun column => Naming.lowercase.columnName column.name) =
      ["key", "author"] := by
    decide +kernel
  have identifiers_eq : book.columns.map naming.tableColumnName = ["id", "id"] := by
    decide +kernel
  have builtIn : Dialect.postgresqlCommonKey ∈ Dialect.all := by simp [Dialect.all]
  have starts : List.Forall₂ ColumnDefinition.StartsWith (scope.columnDefinitions book)
      (book.columns.map naming.tableColumnName) :=
    startsWith_columnDefinitions (Dialect.namesIdentities builtIn naming) book
  rw [identifiers_eq] at starts
  refine ⟨builtIn, rfl, by decide, ?_, identifiers_eq,
    scope.creates_tableDefinition_qualified book, starts, ?_⟩
  · rw [names_eq]
    decide
  · rw [identifiers_eq]
    decide

end Scope

end SchemaCompiler
