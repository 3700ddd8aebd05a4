import SchemaCompiler.Dialect.Catalog
import SchemaCompiler.Proofs.Exposure
import SchemaCompiler.Proofs.SqlType.Chain

/-!
# Definitions expose what they could not find

The only part of a definition that can fail is the type of a column, and then the comment that
explains why stands wherever the type would. Tables, composite types and routines write the types of
their columns, so they expose the failures. There is one exception: a column whose values the engine
makes is written without its type by some dialects. It needs none, for its type is always found.
The registration for its kind is one of the first, those before it decide by themselves as well, and
a registration that decides by itself never fails.
-/

namespace SchemaCompiler

open Text (Shows)

/-! ## Types -/

/-- In place of types that cannot be found, the comment that explains why stands in every context.
-/
theorem Scope.value_types_of_mem {scope : Scope} {entity : Entity} {column : Column}
    {diagnostic : Diagnostic}
    (diagnostic_mem : diagnostic ∈ (scope.types entity column).diagnostics) :
    (scope.types entity column).value = .uniform diagnostic.asComment := by
  rw [types, TypeResolver.types] at diagnostic_mem ⊢
  cases found : scope.resolver.resolve entity column with
  | ok types => simp [found] at diagnostic_mem
  | error failure =>
      obtain rfl : diagnostic = failure := by simpa [found] using diagnostic_mem
      rfl

/-- A text that shows the type of a column. -/
theorem Scope.exposed_map_types {scope : Scope} {entity : Entity} {column : Column}
    {change : SqlTypes → String} (shows : ∀ comment, Shows (change (.uniform comment)) comment) :
    (change <$> scope.types entity column).Exposed := by
  intro diagnostic diagnostic_mem
  rw [Generated.diagnostics_map] at diagnostic_mem
  refine ⟨_, List.mem_singleton_self _, .inl ?_⟩
  rw [Generated.value_map, value_types_of_mem diagnostic_mem]
  exact shows diagnostic.asComment

/-! ## Columns whose values the engine makes -/

/-- A registration that decides by itself. -/
def Registration.IsDirect (registration : Registration) : Prop :=
  ∃ types, registration.mapper = .direct types

theorem Registration.covers_of_key {registration : Registration} {column : Column}
    (registered : column.kind.registryKey ∈ registration.keys) : registration.covers column := by
  rw [covers, List.any_eq_true]
  refine ⟨column.kind.registryKey, List.mem_cons_self, ?_⟩
  rw [List.any_eq_true]
  exact ⟨_, registered, by simp [Text.sameName]⟩

theorem TypeRegistry.isDirect_of_mem_take {registration : Registration}
    (registration_mem : registration ∈ TypeRegistry.ansi.registrations.take 4) :
    registration.IsDirect := by
  simp only [TypeRegistry.ansi, List.take_succ_cons, List.take_zero, List.mem_cons,
    List.not_mem_nil, or_false] at registration_mem
  rcases registration_mem with rfl | rfl | rfl | rfl <;> exact ⟨_, rfl⟩

/-- The kinds of identity columns are registered among the first. -/
theorem TypeRegistry.exists_registryKey_mem {column : Column}
    (identity : column.identityKind?.isSome) :
    ∃ registration ∈ TypeRegistry.ansi.registrations.take 4,
      column.kind.registryKey ∈ registration.keys := by
  cases kind : column.kind with
  | nativeIdentity =>
      exact ⟨⟨["attr.AutoIdentityNative"], .uniform "UUID"⟩, by simp [TypeRegistry.ansi],
        by decide⟩
  | numericIdentity =>
      exact ⟨⟨["attr.NumericIdentity"], .uniform "INTEGER"⟩, by simp [TypeRegistry.ansi],
        by decide⟩
  | _ => simp [Column.identityKind?, kind] at identity

/-- The registration of an identity column decides by itself, whatever further keys the column has.
-/
theorem TypeRegistry.exists_find?_ansi {column : Column} (identity : column.identityKind?.isSome) :
    ∃ registration, TypeRegistry.ansi.find? column = some registration ∧
      registration.IsDirect := by
  obtain ⟨registered, registered_mem, key_mem⟩ := exists_registryKey_mem identity
  have covered : ((TypeRegistry.ansi.registrations.take 4).find? (·.covers column)).isSome :=
    List.find?_isSome.mpr ⟨registered, registered_mem, Registration.covers_of_key key_mem⟩
  obtain ⟨registration, found⟩ := Option.isSome_iff_exists.mp covered
  refine ⟨registration, ?_, isDirect_of_mem_take (List.mem_of_find?_eq_some found)⟩
  rw [TypeRegistry.find?, ← List.take_append_drop 4 TypeRegistry.ansi.registrations,
    List.find?_append, found]
  rfl

/-- Identity columns always have types. -/
theorem TypeResolver.diagnostics_types_identity {model : Model} {entity : Entity} {column : Column}
    (identity : column.identityKind?.isSome) :
    (TypeResolver.types ⟨model, .ansi⟩ entity column).diagnostics = [] := by
  obtain ⟨registration, found, direct, mapper⟩ := TypeRegistry.exists_find?_ansi identity
  obtain ⟨types, types_eq⟩ := TypeRegistry.ansi_direct (List.mem_of_find?_eq_some found) mapper
    entity column
  have resolved : TypeResolver.resolve ⟨model, .ansi⟩ entity column = .ok types := by
    simp only [resolve, resolveWithin, found, mapper, types_eq]
  rw [TypeResolver.types, resolved]

/-! ## Tables -/

namespace Scope

variable {scope : Scope}

theorem shows_lineWith (slot : ColumnSlot) (type defaultClause : String) :
    Shows (slot.lineWith type defaultClause) type :=
  ((((Shows.refl type).append_left _).append_right _).append_right _).append_right _

/-- A column whose values do not come from the engine is written with its type. -/
theorem shows_plainDefinition (slot : ColumnSlot) {name : String}
    (types_eq : slot.types = .uniform name) : Shows (scope.plainDefinition slot).line name := by
  have definition_eq : slot.types.definition = name := by rw [types_eq]; rfl
  have reference_eq : slot.types.reference = name := by rw [types_eq]; rfl
  rw [plainDefinition]
  split
  · rw [← reference_eq]
    exact shows_lineWith slot _ _
  · rw [← definition_eq]
    split <;> exact shows_lineWith slot _ _

theorem exposes_columnDefinition (standard : scope.profile.registry = .ansi) (table : Table)
    (column : Column) :
    (scope.columnDefinition table column).Exposes fun definition => [definition.line] := by
  intro diagnostic diagnostic_mem
  rw [columnDefinition, Generated.diagnostics_map, slot, Generated.diagnostics_map]
    at diagnostic_mem
  refine ⟨_, List.mem_singleton_self _, .inl ?_⟩
  rw [columnDefinition, Generated.value_map, slot, Generated.value_map, definition]
  cases identity : column.identityKind? with
  | some kind =>
      have resolver_eq : scope.resolver = ⟨scope.model, .ansi⟩ := by rw [resolver, standard]
      rw [types, resolver_eq, TypeResolver.diagnostics_types_identity (by simp [identity])]
        at diagnostic_mem
      cases diagnostic_mem
  | none => exact shows_plainDefinition _ (value_types_of_mem diagnostic_mem)

theorem exposed_tableDefinition (standard : scope.profile.registry = .ansi) (table : Table) :
    (scope.tableDefinition table).Exposed := by
  apply Generated.exposed_map_each fun column _ => exposes_columnDefinition standard table column
  intro definitions definition definition_mem
  have line_mem : "    " ++ definition.line ∈ tableLines definitions := by
    simp only [tableLines, List.map_append, List.mem_append]
    left
    exact List.mem_map_of_mem (List.mem_map_of_mem definition_mem)
  have shows := (Text.shows_intercalate ",\n" line_mem).trans ((Shows.refl _).append_left "    ")
  exact (shows.append_left _).append_right _

theorem exposed_modelDefinition (standard : scope.profile.registry = .ansi) :
    scope.modelDefinition.Exposed := by
  apply Generated.exposed_map_each fun table _ => exposed_tableDefinition standard table
  intro definitions definition definition_mem
  exact Text.shows_intercalate "\n\n" definition_mem

/-! ## Routines and composite types -/

theorem exposed_resultColumn (entity : Entity) (column : Column) :
    (scope.resultColumn entity column).Exposed :=
  exposed_map_types fun comment => (Shows.refl comment).append_left _

theorem exposed_returnsClause (routine : Routine) : (scope.returnsClause routine).Exposed := by
  rw [returnsClause]
  split
  · exact Generated.exposes_pure _
  · exact exposed_map_types fun comment => (Shows.refl comment).append_left _
  · apply Generated.exposed_map_each fun column _ => exposed_resultColumn routine.toEntity column
    intro fields field field_mem
    exact ((Text.shows_intercalate ", " field_mem).append_left _).append_right _

end Scope

namespace Dialect.Postgres

variable {scope : Scope}

theorem exposed_typeDefinition (definition : TypeDefinition) :
    (typeDefinition scope definition).Exposed := by
  have exposes : ∀ column ∈ definition.columns,
      (typeField scope definition.toEntity column).Exposed := by
    intro column _
    exact Scope.exposed_map_types fun comment => (Shows.refl comment).append_left _
  apply Generated.exposed_map_each exposes
  intro fields field field_mem
  exact ((Text.shows_intercalate ", " field_mem).append_left _).append_right _

theorem exposes_functionLines (name : String) (function : StoredFunction) :
    (functionLines scope name function).Exposes id := by
  rw [functionLines]
  split
  · exact Generated.exposes_pure _
  · apply (Scope.exposed_returnsClause function.toRoutine).map
    intro returns text text_mem
    obtain rfl := List.mem_singleton.mp text_mem
    exact ⟨text, by simp, .refl text⟩

theorem exposed_functionDefinition (function : StoredFunction) :
    (functionDefinition scope function).Exposed := by
  apply (exposes_functionLines _ function).map
  intro lines line line_mem
  exact ⟨_, List.mem_singleton_self _,
    Text.shows_intercalate "\n" (List.mem_append_left _ line_mem)⟩

theorem exposes_wrapperLines (procedureName : String) (procedure : StoredProcedure)
    (wrapper : Wrapper) : (wrapperLines scope procedureName procedure wrapper).Exposes id := by
  apply (Scope.exposed_returnsClause procedure.toRoutine).map
  intro returns text text_mem
  obtain rfl := List.mem_singleton.mp text_mem
  exact ⟨text, by simp, .refl text⟩

theorem exposed_procedureDefinition (procedure : StoredProcedure) :
    (procedureDefinition scope procedure).Exposed := by
  simp only [procedureDefinition]
  split
  · exact Generated.exposes_pure _
  · apply (exposes_wrapperLines _ procedure _).map
    intro lines line line_mem
    exact ⟨_, List.mem_singleton_self _,
      Text.shows_intercalate "\n" (List.mem_append_right _ line_mem)⟩

end Dialect.Postgres

end SchemaCompiler
