import SchemaCompiler.Proofs.Definition.Exposure

/-!
# Dangling references

A column that is to refer to another one dangles when there is nothing at its address, or no address
at all. The relationships of a model leave such columns out and rely on the definitions of tables to
report them. What is reported there comes from the look-up of types, and it is the registration of
the column, not its reference, that decides about a look-up. So a dangling column is reported
whenever its types are to come from the missing column. It goes unreported when a further key gives
it types of its own, or sends it to a primary key that has types.

A dangling column has at most one hop, and that leads to the primary key of its own table. Without
a hop the look-up ends at the column itself, and with one it ends as the look-up of the primary key
does, so the cases below are all there are.
-/

namespace SchemaCompiler

/-! ## Dangling columns -/

namespace AttributeKind

/-- Whether a column of a kind is to refer to another one. -/
def isReference : AttributeKind → Bool
  | .selfReference | .relationship _ => true
  | _ => false

end AttributeKind

/-- A column of a table of the model that is to refer to another one, and is the source of no
relationship. -/
structure Model.Dangling (model : Model) (table : Table) (column : Column) : Prop where
  table_mem : table ∈ model.tables
  column_mem : column ∈ table.columns
  isReference : column.kind.isReference
  noRelationship : ∀ relationship ∈ model.relationships,
    relationship.sourceTable = table → relationship.source ≠ column

namespace Model.Dangling

variable {model : Model} {table : Table} {column : Column}

/-- No address of a dangling column leads anywhere. -/
theorem resolve?_eq_none (dangling : model.Dangling table column) {address : ColumnRef}
    (refers : column.target? table.toEntity = some address) : model.resolve? address = none := by
  cases resolved : model.resolve? address with
  | none => rfl
  | some place =>
      obtain ⟨targetTable, target⟩ := place
      have established : model.relationship? table column =
          some ⟨table, column, targetTable, target⟩ := by
        simp [relationship?, refers, resolved]
      have relationship_mem : ⟨table, column, targetTable, target⟩ ∈ model.relationships :=
        List.mem_flatMap.mpr ⟨table, dangling.table_mem, List.mem_filterMap.mpr
          ⟨column, dangling.column_mem, established⟩⟩
      exact absurd rfl (dangling.noRelationship _ relationship_mem rfl)

/-- Only the registration of self references gives a dangling column a hop. -/
theorem of_hop (dangling : model.Dangling table column) {registry : TypeRegistry}
    {kind : ReferenceKind} {next : ColumnSite}
    (hop : TypeResolver.Hop ⟨model, registry⟩ kind ⟨table.toEntity, column⟩ next) :
    (∃ registration, registry.find? column = some registration ∧
        registration.mapper = .selfReference) ∧
      ∃ key, table.primaryKey? = some key ∧ next = ⟨table.toEntity, key⟩ := by
  cases hop with
  | @selfReference _ _ key registration first mapper primaryKey =>
      exact ⟨⟨registration, first, mapper⟩, key, primaryKey, rfl⟩
  | relationship _ _ kind found =>
      have nowhere := dangling.resolve?_eq_none (by rw [Column.target?, kind])
      cases nowhere.symm.trans found

theorem exists_find? (dangling : model.Dangling table column) :
    ∃ registration, TypeRegistry.ansi.find? column = some registration := by
  have registered : ∃ registration ∈ TypeRegistry.ansi.registrations,
      column.kind.registryKey ∈ registration.keys := by
    have reference := dangling.isReference
    cases kind : column.kind with
    | selfReference =>
        exact ⟨⟨["attr.SelfReference"], .selfReference⟩, by simp [TypeRegistry.ansi], by decide⟩
    | relationship target =>
        exact ⟨⟨["attr.Relationship"], .relationship⟩, by simp [TypeRegistry.ansi],
          List.mem_singleton.mpr rfl⟩
    | _ => simp [kind, AttributeKind.isReference] at reference
  obtain ⟨registration, registration_mem, key_mem⟩ := registered
  exact Option.isSome_iff_exists.mp (List.find?_isSome.mpr
    ⟨registration, registration_mem, Registration.covers_of_key key_mem⟩)

end Model.Dangling

/-- A relationship that no earlier registration covers is decided by the one of relationships. -/
theorem TypeRegistry.find?_ansi_relationship {column : Column} {target : ColumnRef}
    (kind : column.kind = .relationship target)
    (noneEarlier : ∀ registration ∈ TypeRegistry.ansi.registrations.take 10,
      !registration.covers column) :
    TypeRegistry.ansi.find? column = some ⟨["attr.Relationship"], .relationship⟩ := by
  have covered : Registration.covers ⟨["attr.Relationship"], .relationship⟩ column :=
    Registration.covers_of_key (by simp [kind, AttributeKind.registryKey, AttributeKind.label])
  exact List.find?_eq_some_iff_append.mpr ⟨covered, _, _,
    (List.take_append_drop 10 TypeRegistry.ansi.registrations).symm, noneEarlier⟩

/-! ## What is recorded -/

namespace Scope

variable {scope : Scope} {table : Table} {column : Column}

/-- The definitions of the model record a diagnostic about a column of a table. -/
def Reports (scope : Scope) (table : Table) (column : Column) : Prop :=
  ∃ diagnostic ∈ scope.modelDefinition.diagnostics,
    diagnostic.subject = table.toEntity.qualified column

theorem diagnostics_columnDefinition_of_ok {types : SqlTypes}
    (found : scope.resolver.resolve table.toEntity column = .ok types) :
    (scope.columnDefinition table column).diagnostics = [] := by
  rw [columnDefinition, Generated.diagnostics_map, slot, Generated.diagnostics_map, Scope.types,
    TypeResolver.types, found]

theorem diagnostics_columnDefinition_of_error {diagnostic : Diagnostic}
    (failed : scope.resolver.resolve table.toEntity column = .error diagnostic) :
    (scope.columnDefinition table column).diagnostics = [diagnostic] := by
  rw [columnDefinition, Generated.diagnostics_map, slot, Generated.diagnostics_map, Scope.types,
    TypeResolver.types, failed]

theorem reports_of_error {diagnostic : Diagnostic} (table_mem : table ∈ scope.model.tables)
    (column_mem : column ∈ table.columns)
    (failed : scope.resolver.resolve table.toEntity column = .error diagnostic)
    (subject : diagnostic.subject = table.toEntity.qualified column) :
    scope.Reports table column := by
  refine ⟨diagnostic, ?_, subject⟩
  simp only [modelDefinition, tableDefinition, Generated.diagnostics_map,
    Generated.diagnostics_each, List.mem_flatMap]
  refine ⟨table, table_mem, column, column_mem, ?_⟩
  rw [diagnostics_columnDefinition_of_error failed]
  exact List.mem_singleton_self diagnostic

end Scope

namespace Model.Dangling

open TypeResolver

variable {scope : Scope} {table : Table} {column : Column} {registration : Registration}

/-- A dangling column without a hop is reported, unless its registration decides by itself. -/
theorem reports_of_terminal (dangling : scope.model.Dangling table column)
    (first : scope.profile.registry.find? column = some registration)
    (notDirect : ¬registration.IsDirect)
    (terminal : scope.resolver.Terminal ⟨table.toEntity, column⟩) :
    scope.Reports table column := by
  rcases terminal.resolveWithin with ⟨_, types, found, mapper, _⟩ | ⟨failure, about, _, failed⟩
  · cases first.symm.trans found
    exact absurd ⟨types, mapper⟩ notDirect
  · exact Scope.reports_of_error dangling.table_mem dangling.column_mem (failed maxHops) about

theorem reports_of_relationship (dangling : scope.model.Dangling table column)
    (first : scope.profile.registry.find? column = some registration)
    (mapper : registration.mapper = .relationship) : scope.Reports table column := by
  apply dangling.reports_of_terminal first
  · rintro ⟨types, direct⟩
    cases mapper.symm.trans direct
  · rintro ⟨kind, next, hop⟩
    obtain ⟨⟨other, found, selfReference⟩, _⟩ := dangling.of_hop hop
    cases first.symm.trans found
    cases mapper.symm.trans selfReference

theorem reports_of_no_primaryKey (dangling : scope.model.Dangling table column)
    (first : scope.profile.registry.find? column = some registration)
    (mapper : registration.mapper = .selfReference) (noKey : table.primaryKey? = none) :
    scope.Reports table column := by
  apply dangling.reports_of_terminal first
  · rintro ⟨types, direct⟩
    cases mapper.symm.trans direct
  · rintro ⟨kind, next, hop⟩
    obtain ⟨_, key, primaryKey, _⟩ := dangling.of_hop hop
    cases noKey.symm.trans primaryKey

/-- Where a dangling column takes the types of the primary key, its own look-up ends as that of the
key does. -/
theorem recorded_of_primaryKey (dangling : scope.model.Dangling table column)
    (first : scope.profile.registry.find? column = some registration)
    (mapper : registration.mapper = .selfReference) {key : Column}
    (primaryKey : table.primaryKey? = some key) :
    let lookup := scope.resolver.resolveWithin maxHops table.toEntity key
    let recorded := (scope.columnDefinition table column).diagnostics
    (∀ types, lookup = .ok types → recorded = []) ∧
      ∀ inner, lookup = .error inner →
        (inner.code = .referenceCycle → recorded = [inner]) ∧
          (inner.code ≠ .referenceCycle → scope.Reports table column) := by
  intro lookup recorded
  have hop : scope.resolver.Hop .selfReference ⟨table.toEntity, column⟩ ⟨table.toEntity, key⟩ :=
    .selfReference first mapper primaryKey
  refine ⟨fun types found => ?_, fun inner failed => ⟨fun cycle => ?_, fun noCycle => ?_⟩⟩
  · exact Scope.diagnostics_columnDefinition_of_ok (hop.resolveWithin_ok_iff.mpr found)
  -- A cycle is passed on unexplained, so the diagnostic is about a column further down the chain.
  · obtain ⟨explained, _, step⟩ := hop.resolveWithin
    apply Scope.diagnostics_columnDefinition_of_error
    calc scope.resolver.resolve table.toEntity column
      _ = lookup.mapError fun inner => inner.explainedBy (explained inner) := step maxHops
      _ = .error (inner.explainedBy (explained inner)) := by
          rw [failed]
          rfl
      _ = .error inner := congrArg Except.error (if_pos cycle)
  · obtain ⟨outer, outer_failed, subject, _⟩ := hop.resolveWithin_error failed noCycle
    exact Scope.reports_of_error dangling.table_mem dangling.column_mem outer_failed subject

end Model.Dangling

/-! ## Results -/

namespace Scope

open TypeResolver

/-- A dangling relationship is reported if it has no further keys. -/
theorem dangling_relationship_reported {dialect : Dialect} (builtIn : dialect ∈ Dialect.all)
    (naming : Naming) {model : Model} {table : Table} {column : Column} {target : ColumnRef}
    (dangling : model.Dangling table column) (kind : column.kind = .relationship target)
    (noFurther : column.furtherKeys = []) :
    ((dialect.withNaming naming).scope model).Reports table column := by
  have onlyKey : column.registryKeys = ["attr.Relationship"] := by
    rw [Column.registryKeys, kind, noFurther]
    rfl
  have first : dialect.registry.find? column = some ⟨["attr.Relationship"], .relationship⟩ := by
    rw [Dialect.registry_eq_ansi builtIn]
    apply TypeRegistry.find?_ansi_relationship kind
    simp only [Registration.covers, onlyKey]
    decide +kernel
  exact Model.Dangling.reports_of_relationship dangling first rfl

/-- What is recorded about a dangling column is settled by its registration. If that is the one of
relationships, the column is reported. If the types are to be those of the primary key, the column
is reported when its table has no primary key, or has one whose types cannot be found; a look-up of
the key that does not end is recorded as it is, and nothing is recorded when the key has types. And
nothing is recorded if the registration decides by itself. -/
theorem dangling_reported_by_registration {dialect : Dialect} (builtIn : dialect ∈ Dialect.all)
    (naming : Naming) {model : Model} {table : Table} {column : Column}
    (dangling : model.Dangling table column) :
    let scope := (dialect.withNaming naming).scope model
    let recorded := (scope.columnDefinition table column).diagnostics
    ∃ registration, scope.profile.registry.find? column = some registration ∧
      (registration.mapper = .relationship → scope.Reports table column) ∧
      (registration.mapper = .selfReference →
        (table.primaryKey? = none → scope.Reports table column) ∧
          ∀ key, table.primaryKey? = some key →
            let lookup := scope.resolver.resolveWithin maxHops table.toEntity key
            (∀ types, lookup = .ok types → recorded = []) ∧
              ∀ inner, lookup = .error inner →
                (inner.code = .referenceCycle → recorded = [inner]) ∧
                  (inner.code ≠ .referenceCycle → scope.Reports table column)) ∧
      (registration.IsDirect → recorded = []) := by
  intro scope recorded
  have registry_eq := Dialect.registry_eq_ansi builtIn
  have standard : scope.profile.registry = .ansi := registry_eq
  obtain ⟨registration, first⟩ := dangling.exists_find?
  rw [← standard] at first
  refine ⟨registration, first, dangling.reports_of_relationship first, fun mapper =>
    ⟨dangling.reports_of_no_primaryKey first mapper, fun key primaryKey =>
      dangling.recorded_of_primaryKey first mapper primaryKey⟩, ?_⟩
  -- Standard registrations that decide by themselves never fail.
  rintro ⟨types, mapper⟩
  have registration_mem : registration ∈ TypeRegistry.ansi.registrations := by
    rw [← standard]
    exact List.mem_of_find?_eq_some first
  obtain ⟨found, decided⟩ := TypeRegistry.ansi_direct registration_mem mapper table.toEntity column
  have resolved : scope.resolver.resolve table.toEntity column = .ok found := by
    simp only [resolve, resolveWithin, resolver, first, mapper, decided]
  exact diagnostics_columnDefinition_of_ok resolved

/-- A relationship to a table that does not exist. Its further key is registered only behind the one
of relationships, so the column is reported. -/
theorem dangling_reported_by_registration_later_key :
    let title : Column := ⟨"Title", .text 200, false, false, false, false, none, false, []⟩
    let author : Column :=
      ⟨"Author", .relationship ⟨"Author", "Id"⟩, false, false, false, false, none, false,
        ["attr.Jsonb"]⟩
    let book : Table := ⟨⟨"Book", [title, author]⟩, false, []⟩
    let model : Model := { name := "library", tables := [book] }
    let scope := (Dialect.postgresql.withNaming .lowercase).scope model
    Dialect.postgresql ∈ Dialect.all ∧ model.Dangling book author ∧ scope.Reports book author := by
  intro title author book model scope
  have builtIn : Dialect.postgresql ∈ Dialect.all := List.mem_cons_self
  have dangling : model.Dangling book author := by
    refine ⟨List.mem_singleton_self book, by simp [book], rfl, ?_⟩
    have relationships : model.relationships = [] := rfl
    simp [relationships]
  obtain ⟨registration, first, reported, _⟩ :=
    dangling_reported_by_registration builtIn .lowercase dangling
  have second : scope.profile.registry.find? author =
      some ⟨["attr.Relationship"], .relationship⟩ :=
    TypeRegistry.find?_ansi_relationship rfl (by decide +kernel)
  cases first.symm.trans second
  exact ⟨builtIn, dangling, reported rfl⟩

/-- The same relationship goes unreported once its further key is registered before the one of
relationships: the column is an integer, and a foreign key to a table that does not exist. -/
theorem dangling_unreported :
    let title : Column := ⟨"Title", .text 200, false, false, false, false, none, false, []⟩
    let author : Column :=
      ⟨"Author", .relationship ⟨"Author", "Id"⟩, false, false, false, false, none, false,
        ["attr.Integer"]⟩
    let book : Table := ⟨⟨"Book", [title, author]⟩, false, []⟩
    let model : Model := { name := "library", tables := [book] }
    let scope := Dialect.postgresql.scope model
    Dialect.postgresql ∈ Dialect.all ∧ model.Dangling book author ∧
      (scope.columnDefinition book author).value =
        ⟨"author INTEGER NOT NULL", some "FOREIGN KEY (author) REFERENCES author(id)"⟩ ∧
      ¬scope.Reports book author := by
  intro title author book model scope
  have dangling : model.Dangling book author := by
    refine ⟨List.mem_singleton_self book, by simp [book], rfl, ?_⟩
    have relationships : model.relationships = [] := rfl
    simp [relationships]
  have nothing : scope.modelDefinition.diagnostics = [] := by decide +kernel
  refine ⟨List.mem_cons_self, dangling, by decide +kernel, ?_⟩
  rintro ⟨diagnostic, diagnostic_mem, _⟩
  simp [nothing] at diagnostic_mem

end Scope

end SchemaCompiler
