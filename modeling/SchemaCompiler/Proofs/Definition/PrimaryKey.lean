import Mathlib.Algebra.GroupWithZero.Nat
import SchemaCompiler.Proofs.Definition.ForeignKey
import SchemaCompiler.Proofs.Occurrence
import SchemaCompiler.Proofs.SqlType.Chain

/-!
# Primary keys

The words `PRIMARY KEY` come into the definition of a table in two ways: as the clause of a column
that is marked as the primary key, and as a part of the text that a dialect has for the columns
whose values the engine makes. Native identities have that text only if they are marked, but numeric
ones have it in any case. So the lines with these words are those of the marked columns and of the
numeric identities, and a table may well have several of them.

Everything else that is written around names, types and defaults is free of the words, and begins
with characters that do not continue them, so occurrences are counted part by part.
-/

namespace SchemaCompiler

/-! ## Counting the words -/

/-- How often a text has the words that make a column the primary key. -/
def primaryKeyCount (text : String) : Nat :=
  Text.count "PRIMARY KEY" text

namespace PrimaryKey

/-- Where such a text begins, no occurrence of the words goes on that began before. -/
inductive Interrupts : List Char → Prop
  | nothing : Interrupts []
  | other {character : Char} {rest : List Char} (outside : character ∉ "PRIMARY KEY".toList) :
      Interrupts (character :: rest)
  | blank {character : Char} {rest : List Char} (notKey : character ≠ 'K') :
      Interrupts (' ' :: character :: rest)

variable {before after text : String}

theorem Interrupts.apart {before after : List Char} (interrupts : Interrupts after) :
    Text.Apart "PRIMARY KEY".toList before after := by
  cases interrupts with
  | nothing =>
      intro start rest _ _ rest_ne _ rest_prefix
      exact rest_ne (List.prefix_nil.mp rest_prefix)
  | other outside => exact Text.apart_of_break outside
  -- The blank itself is in the words, between the two of them.
  | @blank character rest notKey =>
      have words_eq : "PRIMARY KEY".toList = "PRIMARY".toList ++ ' ' :: ['K', 'E', 'Y'] := by decide
      rw [words_eq]
      apply Text.apart_of_other_part (by decide) (by decide)
      intro key_prefix
      exact notKey (List.cons_prefix_cons.mp key_prefix).1.symm

theorem count_append (interrupts : Interrupts after.toList) :
    primaryKeyCount (before ++ after) = primaryKeyCount before + primaryKeyCount after := by
  rw [primaryKeyCount, Text.count, String.toList_append, Text.occurrences_append interrupts.apart]
  rfl

theorem count_eq_zero_of_not_mem (noStart : 'P' ∉ text.toList) : primaryKeyCount text = 0 :=
  Text.occurrences_eq_zero_of_not_mem noStart

/-- A text without the first letter of the words adds nothing to what comes after it. -/
theorem count_append_left (noStart : 'P' ∉ before.toList) :
    primaryKeyCount (before ++ after) = primaryKeyCount after := by
  have apart : Text.Apart "PRIMARY KEY".toList before.toList after.toList :=
    Text.apart_of_not_mem noStart
  have before_eq : primaryKeyCount before = 0 := count_eq_zero_of_not_mem noStart
  rw [primaryKeyCount, Text.count, String.toList_append, Text.occurrences_append apart]
  exact Nat.add_eq_right.mpr before_eq

theorem count_eq_zero (without : ¬Text.Shows text "PRIMARY KEY") : primaryKeyCount text = 0 :=
  (Text.occurrences_eq_zero_iff (by decide)).mpr without

/-- A text that keeps the words before it apart from those after it, and does not have them. -/
structure IsSeparator (separator : String) : Prop where
  noStart : 'P' ∉ separator.toList
  interrupts : ∀ rest, Interrupts (separator.toList ++ rest)

variable {separator : String}

theorem IsSeparator.count_between (isSeparator : IsSeparator separator) :
    primaryKeyCount (before ++ (separator ++ after)) =
      primaryKeyCount before + primaryKeyCount after := by
  have boundary : Interrupts (separator ++ after).toList := by
    rw [String.toList_append]
    exact isSeparator.interrupts _
  rw [count_append boundary, count_append_left isSeparator.noStart]

theorem IsSeparator.count_last (isSeparator : IsSeparator separator) :
    primaryKeyCount (before ++ separator) = primaryKeyCount before := by
  have boundary : Interrupts separator.toList := by simpa using isSeparator.interrupts []
  rw [count_append boundary, count_eq_zero_of_not_mem isSeparator.noStart, Nat.add_zero]

theorem IsSeparator.count_intercalate (isSeparator : IsSeparator separator) (texts : List String) :
    primaryKeyCount (separator.intercalate texts) = (texts.map primaryKeyCount).sum := by
  induction texts with
  | nil => rfl
  | cons first rest ih =>
      cases rest with
      | nil => simp
      | cons second rest =>
          rw [String.intercalate_cons_cons, String.append_assoc, isSeparator.count_between, ih]
          simp only [List.map_cons, List.sum_cons]

end PrimaryKey

/-- A clause without the words, which does not continue them either. -/
structure IsPlainClause (clause : String) : Prop where
  interrupts : PrimaryKey.Interrupts clause.toList
  count_eq : primaryKeyCount clause = 0

namespace IsPlainClause

variable {before clause text : String}

theorem count_append (plain : IsPlainClause clause) :
    primaryKeyCount (before ++ clause) = primaryKeyCount before := by
  rw [PrimaryKey.count_append plain.interrupts, plain.count_eq, Nat.add_zero]

theorem empty : IsPlainClause "" :=
  ⟨.nothing, rfl⟩

theorem optional (condition : Bool) (plain : IsPlainClause clause) :
    IsPlainClause (if condition then clause else "") := by
  cases condition with
  | true => exact plain
  | false => exact empty

theorem default (text_eq : primaryKeyCount text = 0) : IsPlainClause (" DEFAULT " ++ text) := by
  refine ⟨?_, ?_⟩
  · rw [String.toList_append]
    exact .blank (by decide)
  · rw [PrimaryKey.count_append_left (by decide), text_eq]

end IsPlainClause

/-! ## Types -/

namespace SqlTypes

/-- Set off by a blank, the types in definitions do not continue the words. -/
structure Interrupt (types : SqlTypes) : Prop where
  definition : PrimaryKey.Interrupts (" " ++ types.definition).toList
  reference : PrimaryKey.Interrupts (" " ++ types.reference).toList

theorem interrupt_uniform {name : String}
    (interrupts : PrimaryKey.Interrupts (" " ++ name).toList) :
    (SqlTypes.uniform name).Interrupt :=
  ⟨interrupts, interrupts⟩

theorem interrupt_ofText (maxLength : Option Nat) : (SqlTypes.ofText maxLength).Interrupt := by
  cases maxLength with
  | none => exact interrupt_uniform (.blank (by decide))
  | some bound =>
      have interrupts : PrimaryKey.Interrupts
          (" " ++ ("VARCHAR(" ++ toString bound ++ ")")).toList := by
        simp only [String.toList_append]
        exact .blank (by decide)
      exact ⟨interrupts, interrupts⟩

end SqlTypes

/-- No standard type begins like the second one of the words. -/
theorem TypeRegistry.ansi_interrupt {registration : Registration}
    {types : Entity → Column → Except Diagnostic SqlTypes}
    (registration_mem : registration ∈ TypeRegistry.ansi.registrations)
    (mapper : registration.mapper = .direct types) {entity : Entity} {column : Column}
    {found : SqlTypes} (found_eq : types entity column = .ok found) : found.Interrupt := by
  simp only [TypeRegistry.ansi, List.mem_cons, List.not_mem_nil, or_false] at registration_mem
  rcases registration_mem with rfl | rfl | rfl | rfl | rfl | rfl | rfl | rfl | rfl | rfl | rfl |
    rfl | rfl <;> cases mapper <;> cases found_eq <;>
    first
      | exact SqlTypes.interrupt_ofText _
      | exact SqlTypes.interrupt_uniform (.blank (by decide))

namespace Scope

theorem interrupt_types {scope : Scope} (standard : scope.profile.registry = .ansi)
    (entity : Entity) (column : Column) : (scope.types entity column).value.Interrupt := by
  rw [types, TypeResolver.types]
  split
  · rename_i found resolved
    obtain ⟨registration, registration_mem, direct, _, _, mapper, found_eq⟩ :=
      TypeResolver.exists_direct_of_resolveWithin ⟨entity, column⟩ resolved
    rw [resolver, standard] at registration_mem
    exact TypeRegistry.ansi_interrupt registration_mem mapper found_eq
  · apply SqlTypes.interrupt_uniform
    simp only [Diagnostic.asComment, String.toList_append]
    exact .blank (by decide)

end Scope

/-! ## Lines of columns -/

namespace Column

/-- Whether a column is defined as a primary key: it is marked as such, or the engine numbers it. -/
def isDefinedAsKey (column : Column) : Bool :=
  column.primaryKey || column.kind = .numericIdentity

theorem isDefinedAsKey_of_identityKind? {column : Column} {kind : IdentityKind}
    (identity : column.identityKind? = some kind) : column.isDefinedAsKey := by
  cases column_kind : column.kind <;> simp_all [identityKind?, isDefinedAsKey]

theorem isDefinedAsKey_of_not_identity {column : Column}
    (notIdentity : column.identityKind? = none) :
    column.isDefinedAsKey = column.primaryKey := by
  have notNumeric : column.kind ≠ .numericIdentity := by
    intro numeric
    simp [identityKind?, numeric] at notIdentity
  simp [isDefinedAsKey, notNumeric]

end Column

namespace ColumnSlot

variable {slot : ColumnSlot} {type clause : String}

theorem isPlainClause_notNullClause (slot : ColumnSlot) : IsPlainClause slot.notNullClause := by
  rw [notNullClause]
  split
  · exact .empty
  · exact ⟨.blank (by decide), by decide⟩

/-- A line from name, type, constraints and default has the words if the column is marked. -/
theorem count_lineWith (name_eq : primaryKeyCount slot.name = 0)
    (type_plain : IsPlainClause (" " ++ type)) (clause_plain : IsPlainClause clause) :
    primaryKeyCount (slot.lineWith type clause) = if slot.column.primaryKey then 1 else 0 := by
  have key_interrupts : PrimaryKey.Interrupts slot.primaryKeyClause.toList := by
    rw [primaryKeyClause]
    split
    · exact .blank (by decide)
    · exact .nothing
  have key_eq : primaryKeyCount slot.primaryKeyClause =
      if slot.column.primaryKey then 1 else 0 := by
    rw [primaryKeyClause]
    split <;> decide
  rw [lineWith, clause_plain.count_append, slot.isPlainClause_notNullClause.count_append,
    PrimaryKey.count_append key_interrupts, String.append_assoc, type_plain.count_append, name_eq,
    Nat.zero_add, key_eq]

end ColumnSlot

/-- A dialect defines the columns whose values the engine makes with the words once, and without a
constraint. -/
structure Profile.KeysIdentities (profile : Profile) : Prop where
  count_line : ∀ kind (slot : ColumnSlot), primaryKeyCount slot.name = 0 →
    IsPlainClause (" " ++ slot.types.definition) →
      primaryKeyCount (profile.identityColumn kind slot).line = 1
  constraint : ∀ kind slot, (profile.identityColumn kind slot).constraint = none

theorem Dialect.keysIdentities {dialect : Dialect} (builtIn : dialect ∈ Dialect.all)
    (naming : Naming) : (dialect.withNaming naming).KeysIdentities := by
  have ends {before text : String} (before_eq : primaryKeyCount before = 0)
      (interrupts : PrimaryKey.Interrupts text.toList) (text_eq : primaryKeyCount text = 1) :
      primaryKeyCount (before ++ text) = 1 := by
    rw [PrimaryKey.count_append interrupts, before_eq, text_eq]
  rcases Dialect.eq_named_or_eq_sqlite builtIn with ⟨name, aliases, _, rfl⟩ | rfl
  · refine ⟨?_, fun _ _ => rfl⟩
    intro kind slot name_eq _
    exact ends name_eq (.blank (by decide))
      (by decide : primaryKeyCount " BIGSERIAL PRIMARY KEY" = 1)
  · refine ⟨?_, fun _ _ => rfl⟩
    intro kind slot name_eq type_plain
    cases kind with
    | native =>
        have before_eq : primaryKeyCount (slot.name ++ " " ++ slot.types.definition) = 0 := by
          rw [String.append_assoc, type_plain.count_append, name_eq]
        exact ends before_eq (.blank (by decide))
          (by decide : primaryKeyCount " PRIMARY KEY DEFAULT uuid_generate_v4 ()" = 1)
    | numeric =>
        exact ends name_eq (.blank (by decide))
          (by decide : primaryKeyCount " INTEGER PRIMARY KEY AUTOINCREMENT" = 1)

namespace Scope

/-- The texts from which a column is defined do not have the words. -/
structure IsPlain (scope : Scope) (slot : ColumnSlot) : Prop where
  name : primaryKeyCount slot.name = 0
  definition : IsPlainClause (" " ++ slot.types.definition)
  reference : IsPlainClause (" " ++ slot.types.reference)
  supplier : ∀ value ∈ slot.column.supplier, primaryKeyCount value.expression = 0
  targetTable : ∀ address ∈ slot.target?, primaryKeyCount (scope.naming.tableName address.table) = 0
  targetColumn : ∀ address ∈ slot.target?, primaryKeyCount (scope.targetName address) = 0

variable {scope : Scope} {slot : ColumnSlot}

theorem count_plainDefinition (plain : scope.IsPlain slot) :
    primaryKeyCount (scope.plainDefinition slot).line =
      if slot.column.primaryKey then 1 else 0 := by
  have temporal : ∀ now, primaryKeyCount now = 0 →
      primaryKeyCount (slot.temporalDefinition now).line =
        if slot.column.primaryKey then 1 else 0 := by
    intro now now_eq
    exact slot.count_lineWith plain.name plain.definition (.optional _ (.default now_eq))
  rw [plainDefinition]
  split
  · apply slot.count_lineWith plain.name plain.reference
    cases supplied : slot.column.supplier with
    | none => exact .empty
    | some value => exact .default (plain.supplier value supplied)
  · split
    · exact temporal _ (by decide)
    · exact temporal _ (by decide)
    · exact temporal _ (by decide)
    · exact slot.count_lineWith plain.name plain.definition
        (.optional _ (IsPlainClause.default (by decide : primaryKeyCount "FALSE" = 0)))
    · exact slot.count_lineWith plain.name plain.definition .empty

/-- The line of a column has the words once if the column is defined as a key, and otherwise not at
all. -/
theorem count_definition (identities : scope.profile.KeysIdentities) (plain : scope.IsPlain slot) :
    primaryKeyCount (scope.definition slot).line =
      if slot.column.isDefinedAsKey then 1 else 0 := by
  rw [definition]
  split
  · rename_i kind identity
    rw [if_pos (Column.isDefinedAsKey_of_identityKind? identity)]
    exact identities.count_line kind slot plain.name plain.definition
  · rename_i notIdentity
    rw [Column.isDefinedAsKey_of_not_identity notIdentity]
    exact count_plainDefinition plain

theorem constraint_plainDefinition (scope : Scope) (slot : ColumnSlot) :
    (scope.plainDefinition slot).constraint =
      slot.target?.bind fun address => (scope.referenceDefinition slot address).constraint := by
  rw [plainDefinition]
  cases slot.target? with
  | some address => rfl
  | none => cases slot.column.kind <;> rfl

theorem count_constraint (identities : scope.profile.KeysIdentities) (plain : scope.IsPlain slot)
    {constraint : String} (constraint_mem : constraint ∈ (scope.definition slot).constraint) :
    primaryKeyCount constraint = 0 := by
  rw [definition] at constraint_mem
  split at constraint_mem
  · rw [identities.constraint] at constraint_mem
    cases constraint_mem
  · rw [constraint_plainDefinition, Option.mem_def, Option.bind_eq_some_iff] at constraint_mem
    obtain ⟨address, refers, constraint_eq⟩ := constraint_mem
    obtain rfl := Option.some.inj constraint_eq
    have references : PrimaryKey.IsSeparator ") REFERENCES " :=
      ⟨by decide, fun _ => .other (by decide)⟩
    have opened : PrimaryKey.IsSeparator "(" := ⟨by decide, fun _ => .other (by decide)⟩
    have closed : PrimaryKey.IsSeparator ")" := ⟨by decide, fun _ => .other (by decide)⟩
    simp only [String.append_assoc]
    rw [PrimaryKey.count_append_left (by decide), references.count_between, opened.count_between,
      closed.count_last, plain.name, plain.targetTable address refers,
      plain.targetColumn address refers]

end Scope

/-! ## Tables -/

theorem sum_map_ite_eq_countP {α : Type} (p : α → Bool) (values : List α) :
    (values.map fun value => if p value then 1 else 0).sum = values.countP p := by
  induction values with
  | nil => rfl
  | cons value values ih => rw [List.map_cons, List.sum_cons, ih, List.countP_cons, Nat.add_comm]

/-- The words stand in the lines of the columns only. -/
theorem Creates.count_eq {text name : String} {definitions : List ColumnDefinition}
    (creates : Creates text name definitions) (name_eq : primaryKeyCount name = 0)
    (constraints_eq : ∀ definition ∈ definitions, ∀ constraint ∈ definition.constraint,
      primaryKeyCount constraint = 0) :
    primaryKeyCount text =
      (definitions.map fun definition => primaryKeyCount definition.line).sum := by
  have opened : PrimaryKey.IsSeparator " (\n" := ⟨by decide, fun _ => .blank (by decide)⟩
  have between : PrimaryKey.IsSeparator ",\n" := ⟨by decide, fun _ => .other (by decide)⟩
  have closed : PrimaryKey.IsSeparator "\n);" := ⟨by decide, fun _ => .other (by decide)⟩
  have indented : primaryKeyCount ∘ ("    " ++ ·) = primaryKeyCount := by
    funext line
    exact PrimaryKey.count_append_left (by decide)
  have constraints_sum :
      ((definitions.filterMap (·.constraint)).map primaryKeyCount).sum = 0 := by
    rw [List.sum_eq_zero_iff_forall_eq_nat, List.forall_mem_map]
    intro constraint constraint_mem
    obtain ⟨definition, definition_mem, constraint_eq⟩ := List.mem_filterMap.mp constraint_mem
    exact constraints_eq definition definition_mem constraint constraint_eq
  rw [creates]
  simp only [String.append_assoc]
  rw [PrimaryKey.count_append_left (by decide), opened.count_between, name_eq, Nat.zero_add,
    closed.count_last, between.count_intercalate, List.map_map, indented, List.map_append,
    List.sum_append, constraints_sum, Nat.add_zero, List.map_map]
  rfl

namespace Scope

variable {scope : Scope}

/-- No identifier, type or default in the definition of a table contains some words. -/
structure Avoids (scope : Scope) (words : String) (table : Table) : Prop where
  tableName : ¬Text.Shows (scope.naming.tableDefinitionName scope.schema table.name) words
  columnName : ∀ column ∈ table.columns, ¬Text.Shows (scope.naming.tableColumnName column) words
  definition : ∀ column ∈ table.columns,
    ¬Text.Shows (scope.types table.toEntity column).value.definition words
  reference : ∀ column ∈ table.columns,
    ¬Text.Shows (scope.types table.toEntity column).value.reference words
  supplier : ∀ column ∈ table.columns, ∀ value ∈ column.supplier,
    ¬Text.Shows value.expression words
  targetTable : ∀ column ∈ table.columns, ∀ address ∈ column.target? table.toEntity,
    ¬Text.Shows (scope.naming.tableName address.table) words
  targetColumn : ∀ column ∈ table.columns, ∀ address ∈ column.target? table.toEntity,
    ¬Text.Shows (scope.targetName address) words

theorem Avoids.isPlain {table : Table} {column : Column} (avoids : scope.Avoids "PRIMARY KEY" table)
    (standard : scope.profile.registry = .ansi) (column_mem : column ∈ table.columns) :
    scope.IsPlain (scope.slot table column).value := by
  have interrupt := interrupt_types standard table.toEntity column
  have type_plain {type : String} (interrupts : PrimaryKey.Interrupts (" " ++ type).toList)
      (without : ¬Text.Shows type "PRIMARY KEY") : IsPlainClause (" " ++ type) := by
    refine ⟨interrupts, ?_⟩
    rw [PrimaryKey.count_append_left (by decide), PrimaryKey.count_eq_zero without]
  rw [slot, Generated.value_map]
  exact {
    name := PrimaryKey.count_eq_zero (avoids.columnName column column_mem)
    definition := type_plain interrupt.definition (avoids.definition column column_mem)
    reference := type_plain interrupt.reference (avoids.reference column column_mem)
    supplier := fun value value_mem =>
      PrimaryKey.count_eq_zero (avoids.supplier column column_mem value value_mem)
    targetTable := fun address refers =>
      PrimaryKey.count_eq_zero (avoids.targetTable column column_mem address refers)
    targetColumn := fun address refers =>
      PrimaryKey.count_eq_zero (avoids.targetColumn column column_mem address refers) }

/-- The definition of a table has the words `PRIMARY KEY` once in the line of each column that is
marked as the primary key or numbered by the engine, and nowhere else. So it has them once for each
marked column if only marked columns are numbered by the engine. -/
theorem primaryKey_in_lines_of_keys {dialect : Dialect} (builtIn : dialect ∈ Dialect.all)
    {naming : Naming} {model : Model} {table : Table}
    (avoids : ((dialect.withNaming naming).scope model).Avoids "PRIMARY KEY" table) :
    let scope := (dialect.withNaming naming).scope model
    let statement := (scope.tableDefinition table).value
    ∃ definitions : List ColumnDefinition,
      Creates statement (naming.tableDefinitionName model.schema table.name) definitions ∧
        definitions.length = table.columns.length ∧
        (∀ (place : Nat) (column : Column), table.columns[place]? = some column →
          ∃ definition, definitions[place]? = some definition ∧
            Text.count "PRIMARY KEY" definition.line = if column.isDefinedAsKey then 1 else 0) ∧
        Text.count "PRIMARY KEY" statement = table.columns.countP (·.isDefinedAsKey) ∧
        ((∀ column ∈ table.columns, column.kind = .numericIdentity → column.primaryKey) →
          Text.count "PRIMARY KEY" statement = table.columns.countP (·.primaryKey)) := by
  intro scope statement
  have standard : scope.profile.registry = .ansi := by
    rcases Dialect.eq_named_or_eq_sqlite builtIn with ⟨_, _, _, rfl⟩ | rfl <;> rfl
  have identities : scope.profile.KeysIdentities := Dialect.keysIdentities builtIn naming
  -- Each part of the statement is counted for itself: the lines here, the constraints below.
  have line_eq : ∀ column ∈ table.columns,
      primaryKeyCount (scope.columnDefinition table column).value.line =
        if column.isDefinedAsKey then 1 else 0 := by
    intro column column_mem
    rw [columnDefinition, Generated.value_map]
    exact count_definition identities (avoids.isPlain standard column_mem)
  have constraints_eq : ∀ definition ∈ scope.columnDefinitions table,
      ∀ constraint ∈ definition.constraint, primaryKeyCount constraint = 0 := by
    rw [columnDefinitions, List.forall_mem_map]
    intro column column_mem constraint constraint_mem
    rw [columnDefinition, Generated.value_map] at constraint_mem
    exact count_constraint identities (avoids.isPlain standard column_mem) constraint_mem
  have creates := scope.creates_tableDefinition_qualified table
  have total : primaryKeyCount statement = table.columns.countP (·.isDefinedAsKey) := by
    calc primaryKeyCount statement
        = ((scope.columnDefinitions table).map fun definition =>
            primaryKeyCount definition.line).sum :=
          creates.count_eq (PrimaryKey.count_eq_zero avoids.tableName) constraints_eq
      _ = (table.columns.map fun column => if column.isDefinedAsKey then 1 else 0).sum := by
          rw [columnDefinitions, List.map_map]
          exact congrArg List.sum (List.map_congr_left line_eq)
      _ = table.columns.countP (·.isDefinedAsKey) := sum_map_ite_eq_countP _ _
  refine ⟨scope.columnDefinitions table, creates, by simp [columnDefinitions], ?_, total, ?_⟩
  · intro place column column_at
    refine ⟨(scope.columnDefinition table column).value, by simp [columnDefinitions, column_at], ?_⟩
    exact line_eq column (List.mem_of_getElem? column_at)
  · intro onlyMarked
    refine total.trans (List.countP_congr ?_)
    intro column column_mem
    simpa [Column.isDefinedAsKey] using onlyMarked column column_mem

/-- A shelf stands in another one, and its place has a default. -/
theorem primaryKey_in_lines_of_keys_shelf :
    let key : Column :=
      ⟨"ShelfKey", .nativeIdentity, false, true, false, false, none, false, []⟩
    let place : Column :=
      ⟨"PrimaryPlace", .selfReference, true, false, false, false, some (.text "P-KEY"), false, []⟩
    let table : Table := ⟨⟨"Primary", [key, place]⟩, false, []⟩
    let model : Model := { name := "library", tables := [table] }
    let naming : Naming := .base .upper (.uniform .schemaQualified)
    let scope := (Dialect.sqlite.withNaming naming).scope model
    Dialect.sqlite ∈ Dialect.all ∧ scope.Avoids "PRIMARY KEY" table ∧
      (∀ column ∈ table.columns, column.kind = .numericIdentity → column.primaryKey) ∧
      (∃ definitions : List ColumnDefinition,
        Creates (scope.tableDefinition table).value "public.PRIMARY" definitions ∧
          definitions.length = 2 ∧
          ∀ (place : Nat) (column : Column), table.columns[place]? = some column →
            ∃ definition, definitions[place]? = some definition ∧
              Text.count "PRIMARY KEY" definition.line =
                if column.isDefinedAsKey then 1 else 0) ∧
      Text.count "PRIMARY KEY" (scope.tableDefinition table).value = 1 := by
  intro key place table model naming scope
  have builtIn : Dialect.sqlite ∈ Dialect.all := by simp [Dialect.all]
  have avoids : scope.Avoids "PRIMARY KEY" table := by
    refine ⟨?_, ?_, ?_, ?_, ?_, ?_, ?_⟩ <;> decide +kernel
  have onlyMarked :
      ∀ column ∈ table.columns, column.kind = .numericIdentity → column.primaryKey := by decide
  have table_name : naming.tableDefinitionName model.schema table.name = "public.PRIMARY" := by
    decide +kernel
  obtain ⟨definitions, creates, length_eq, lines, _, marked⟩ :=
    primaryKey_in_lines_of_keys builtIn avoids
  rw [table_name] at creates
  exact ⟨builtIn, avoids, onlyMarked, ⟨definitions, creates, length_eq, lines⟩, marked onlyMarked⟩

/-- A loan with one marked column, which is not the one that the engine numbers. -/
theorem primaryKey_in_other_line :
    let key : Column := ⟨"loan_id", .uuid, false, true, false, false, none, false, []⟩
    let ticket : Column := ⟨"ticket", .numericIdentity, false, false, false, false, none, false, []⟩
    let table : Table := ⟨⟨"Loan", [key, ticket]⟩, false, []⟩
    let model : Model := { name := "library", tables := [table] }
    let scope := Dialect.postgresql.scope model
    Dialect.postgresql ∈ Dialect.all ∧ table ∈ model.tables ∧
      table.columns.countP (·.primaryKey) = 1 ∧ scope.Avoids "PRIMARY KEY" table ∧
      (scope.columnDefinition table key).value.line = "loan_id UUID PRIMARY KEY NOT NULL" ∧
      (scope.columnDefinition table ticket).value.line = "ticket BIGSERIAL PRIMARY KEY" ∧
      Text.count "PRIMARY KEY" (scope.tableDefinition table).value = 2 := by
  intro key ticket table model scope
  have avoids : scope.Avoids "PRIMARY KEY" table := by
    refine ⟨?_, ?_, ?_, ?_, ?_, ?_, ?_⟩ <;> decide +kernel
  exact ⟨by simp [Dialect.all], List.mem_cons_self, by decide, avoids, by decide +kernel,
    by decide +kernel, by decide +kernel⟩

end Scope

end SchemaCompiler
