import SchemaCompiler.Dialect.Catalog
import SchemaCompiler.Proofs.Content.Containment

/-!
# Arguments of calls

The values of a row carry the names of what they are given for. In an INSERT these names become the
list of columns, so that the order of the values does not matter. A CALL has no such list: its
values are passed by position, in the order of the row, and the names of the arguments are not
consulted. This file says what a CALL passes to which argument. Each value reaches the argument of
its name if the row gives the values in the order of the arguments, and otherwise it may not.
-/

namespace SchemaCompiler

open SqlText

/-- The items that a call passes are, argument by argument, the values that the row gives under the
names of the arguments. -/
def PassesByName (row : ContentRow) (arguments : List Argument) (items : List (List Token)) :
    Prop :=
  List.Forall₂
    (fun argument item => ∃ given ∈ row.values, given.name = argument.name ∧
      given.value.ReadAs item)
    arguments items

namespace AttributeValue

theorem entry_of_isData {value : AttributeValue} (valid : value.isValid)
    (data : value.value.IsData) (subject : String) :
    value.entry subject = .stored value.value := by
  have noError : value.error = none := by simpa [isValid] using valid
  have accepted : value.refusal? subject = none := by
    rw [refusal?, noError]
    cases given : value.value with
    | float number =>
        have finite : (FloatValue.ofFloat number).isFinite := by
          simpa [given, Value.IsData] using data
        simp [finite]
    | text | integer | boolean | null | identity | enumeration | sql => rfl
  rw [entry, accepted]
  rfl

end AttributeValue

/-- When the keys of two lists agree place by place, what is related to the elements of one belongs
to the elements of the other. -/
theorem forall₂_of_map_eq {κ α β γ : Type} {related : α → β → Prop} {key : α → κ}
    {otherKey : γ → κ} {elements : List α} {images : List β} {others : List γ}
    (each : List.Forall₂ related elements images)
    (sameKeys : elements.map key = others.map otherKey) :
    List.Forall₂
      (fun other image => ∃ element ∈ elements, key element = otherKey other ∧
        related element image)
      others images := by
  induction each generalizing others with
  | nil =>
      obtain rfl : others = [] := by simpa [eq_comm] using sameKeys
      exact .nil
  | cons first _ ih =>
      cases others with
      | nil => simp at sameKeys
      | cons other others =>
          rw [List.map_cons, List.map_cons, List.cons.injEq] at sameKeys
          refine .cons ⟨_, List.mem_cons_self, sameKeys.1, first⟩ ((ih sameKeys.2).imp ?_)
          rintro other image ⟨element, element_mem, found⟩
          exact ⟨element, List.mem_cons_of_mem _ element_mem, found⟩

namespace Scope

theorem callEntries_of_isData {row : ContentRow} (valid : ∀ given ∈ row.values, given.isValid)
    (data : ∀ given ∈ row.values, given.value.IsData) :
    callEntries row = row.values.map fun given => .stored given.value := by
  apply List.map_congr_left
  intro given given_mem
  exact AttributeValue.entry_of_isData (valid given given_mem) (data given given_mem) _

/-- A CALL passes the values of a row in their order, whatever the arguments of the procedure are.
So it passes them by name when the row gives them in the order of the arguments. -/
theorem call_passes_in_row_order {name : String} {aliases : List String} {naming : Naming}
    {model : Model} {row : ContentRow} {procedure : StoredProcedure} (cursor : ContentCursor)
    (found : model.procedure? row.entity = some procedure)
    (valid : ∀ given ∈ row.values, given.isValid)
    (data : ∀ given ∈ row.values, given.value.IsData) :
    let dialect := Dialect.Postgres.named name aliases naming
    let scope := dialect.scope model
    ∃ values items,
      (dialect.rowStatements scope cursor row).value = (["", scope.callText row values], cursor) ∧
        items? values = some items ∧
        List.Forall₂ (fun given item => given.value.ReadAs item) row.values items ∧
        ∀ arguments, procedure.arguments = some arguments →
          row.values.map (·.name) = arguments.map (·.name) → PassesByName row arguments items := by
  intro dialect scope
  obtain ⟨items, read, readAs⟩ := Entry.exists_items (callEntries row) fun _ value_mem =>
    isData_of_mem_callEntries data value_mem
  have inOrder : List.Forall₂ (fun given item => given.value.ReadAs item) row.values items := by
    rw [callEntries_of_isData valid data, List.forall₂_map_left_iff] at readAs
    apply readAs.imp
    rintro given item ⟨stored⟩
    exact stored
  refine ⟨_, items, ?_, read, inOrder, ?_⟩
  · have isCall : (scope.model.procedure? row.entity).isSome := by
      rw [show scope.model.procedure? row.entity = some procedure from found]
      rfl
    change (scope.callOrInsertStatements cursor row).value = _
    rw [callOrInsertStatements, if_pos isCall, Generated.value_map, value_callStatement]
  · intro arguments _ sameOrder
    exact forall₂_of_map_eq inOrder sameOrder

/-- Values in the order of the arguments, among them a text with a quote and a comma. -/
theorem call_passes_in_row_order_quoted :
    let arguments : List Argument :=
      [⟨"title", "TEXT", .input⟩, ⟨"pages", "INTEGER", .inputOutput⟩]
    let procedure : StoredProcedure :=
      ⟨⟨⟨"RegisterBook", []⟩, some arguments, .body "BEGIN END;", none⟩, none⟩
    let row : ContentRow :=
      ⟨"RegisterBook", [.valid "title" (.text "it's, or"), .valid "pages" (.integer (-3))], none⟩
    let model : Model := { name := "library", tables := [], procedures := [procedure] }
    let scope := Dialect.postgresql.scope model
    model.procedure? row.entity = some procedure ∧
      (∀ given ∈ row.values, given.isValid) ∧
      (∀ given ∈ row.values, given.value.IsData) ∧
      row.values.map (·.name) = arguments.map (·.name) ∧
      ∃ values items,
        (Dialect.postgresql.rowStatements scope {} row).value =
            (["", scope.callText row values], {}) ∧
          items? values = some items ∧
          List.Forall₂ (fun given item => given.value.ReadAs item) row.values items ∧
          PassesByName row arguments items := by
  intro arguments procedure row model scope
  have found : model.procedure? row.entity = some procedure := rfl
  have valid : ∀ given ∈ row.values, given.isValid := by
    simp [row, AttributeValue.valid, AttributeValue.isValid]
  have data : ∀ given ∈ row.values, given.value.IsData := by
    simp [row, AttributeValue.valid, Value.IsData]
  obtain ⟨values, items, statements, read, inOrder, byName⟩ :=
    call_passes_in_row_order {} found valid data
  exact ⟨found, valid, data, rfl, values, items, statements, read, inOrder,
    byName arguments rfl rfl⟩

/-- A row that gives the author before the title, for a procedure that takes the title first: the
author is passed as the title. The same values in the order of the arguments make another CALL. -/
theorem call_not_by_name :
    let arguments : List Argument := [⟨"title", "TEXT", .input⟩, ⟨"author", "TEXT", .input⟩]
    let procedure : StoredProcedure :=
      ⟨⟨⟨"RegisterBook", []⟩, some arguments, .body "BEGIN END;", none⟩, none⟩
    let title : AttributeValue := .valid "title" (.text "Lavinia")
    let author : AttributeValue := .valid "author" (.text "Le Guin")
    let row : ContentRow := ⟨"RegisterBook", [author, title], none⟩
    let model : Model := { name := "library", tables := [], procedures := [procedure] }
    let scope := Dialect.postgresql.scope model
    let statements (row : ContentRow) := (Dialect.postgresql.rowStatements scope {} row).value.1
    Dialect.postgresql ∈ Dialect.all ∧
      model.procedure? row.entity = some procedure ∧
      (arguments.map (·.name)).Nodup ∧
      (row.values.map (·.name)).Perm (arguments.map (·.name)) ∧
      (∀ given ∈ row.values, given.isValid) ∧
      (∀ given ∈ row.values, given.value.IsData) ∧
      statements row = ["", "CALL register_book('Le Guin', 'Lavinia');"] ∧
      statements { row with values := [title, author] } =
        ["", "CALL register_book('Lavinia', 'Le Guin');"] ∧
      ¬∃ values items, statements row = ["", scope.callText row values] ∧
        items? values = some items ∧ PassesByName row arguments items := by
  intro arguments procedure title author row model scope statements
  have passed : statements row = ["", "CALL register_book('Le Guin', 'Lavinia');"] := by
    decide +kernel
  have wrapped : "CALL register_book('Le Guin', 'Lavinia');" =
      scope.callText row "'Le Guin', 'Lavinia'" := by decide +kernel
  refine ⟨List.mem_cons_self, rfl, by simp [arguments], .swap _ _ _, ?_, ?_, passed,
    by decide +kernel, ?_⟩
  · simp [row, title, author, AttributeValue.valid, AttributeValue.isValid]
  · simp [row, title, author, AttributeValue.valid, Value.IsData]
  · rintro ⟨values, items, passes, read, byName⟩
    have values_eq : values = "'Le Guin', 'Lavinia'" := by
      rw [passed, wrapped] at passes
      simpa [callText] using passes.symm
    have items_eq : items = [[.literal "Le Guin".toList], [.literal "Lavinia".toList]] := by
      subst values_eq
      have first : items? "'Le Guin', 'Lavinia'" =
          some [[.literal "Le Guin".toList], [.literal "Lavinia".toList]] := by decide +kernel
      exact Option.some.inj (read.symm.trans first)
    subst items_eq
    have places : List.Forall₂ _ (_ :: _) (_ :: _) := byName
    obtain ⟨given, given_mem, given_name, given_read⟩ := (List.forall₂_cons.mp places).1
    simp only [row, List.mem_cons, List.not_mem_nil, or_false] at given_mem
    rcases given_mem with rfl | rfl
    · simp [author, AttributeValue.valid] at given_name
    · cases given_read

end Scope

end SchemaCompiler
