import SchemaCompiler.Dialect.Postgres
import SchemaCompiler.Proofs.Occurrence

/-!
# Bodies between marks

PostgreSQL reads the body of a routine as a quoted text: the first mark behind `AS` opens it, and
the next mark ends it, whatever stands there. The generators write a body between two marks as it
is. So it reaches the server unchanged if and only if there is no mark in it. A body with a mark is
cut there, and its rest is read as statements of the script.

The lines around a body cannot end it early. They have no dollar sign, and the line end behind the
body keeps its last characters from making a mark with what follows.
-/

namespace SchemaCompiler

namespace SqlText

open Text (Apart Shows)

/-- What stands before the first occurrence of a word, and what stands behind it. -/
def cutAt? (word : List Char) : List Char → Option (List Char × List Char)
  | [] => none
  | character :: rest =>
    if word <+: character :: rest then
      some ([], (character :: rest).drop word.length)
    else
      (cutAt? word rest).map (Prod.map (character :: ·) id)

/-- The mark before and behind a body. -/
def bodyMark : List Char := ['$', 'B', 'O', 'D', 'Y', '$']

/-- The body that a server takes from a definition, and what it reads behind the body. -/
def passed? (definition : List Char) : Option (List Char × List Char) := do
  let (_, clause) ← cutAt? ['A', 'S'] definition
  let (_, opened) ← cutAt? bodyMark clause
  cutAt? bodyMark opened

variable {word text rest before after : List Char}

/-! ## Cutting a text -/

theorem cutAt?_eq_none_iff (word_ne : word ≠ []) : cutAt? word text = none ↔ ¬word <:+: text := by
  induction text with
  | nil => simp [cutAt?, word_ne]
  | cons character text ih =>
      rw [cutAt?, List.infix_cons_iff]
      by_cases at_front : word <+: character :: text
      · simp [at_front]
      · simp [at_front, ih]

theorem cutAt?_self (word_ne : word ≠ []) (rest : List Char) :
    cutAt? word (word ++ rest) = some ([], rest) := by
  obtain ⟨character, word, rfl⟩ := List.exists_cons_of_ne_nil word_ne
  simp [cutAt?]

theorem eq_of_cutAt? (cut : cutAt? word text = some (before, after)) :
    text = before ++ word ++ after := by
  induction text generalizing before with
  | nil => cases cut
  | cons character text ih =>
      rw [cutAt?] at cut
      split at cut
      · next at_front =>
        obtain ⟨rest, rest_eq⟩ := at_front
        rw [← rest_eq, List.drop_left, Option.some.injEq, Prod.mk.injEq] at cut
        obtain ⟨rfl, rfl⟩ := cut
        exact rest_eq.symm
      · obtain ⟨⟨earlier, later⟩, cut_later, pair_eq⟩ := Option.map_eq_some_iff.mp cut
        obtain ⟨rfl, rfl⟩ := Prod.mk.inj pair_eq
        rw [ih cut_later]
        rfl

/-- The first occurrence in a text stays the first one, whatever follows the text. -/
theorem cutAt?_append_of_some (cut : cutAt? word text = some (before, after))
    (rest : List Char) : cutAt? word (text ++ rest) = some (before, after ++ rest) := by
  have fits : word.length ≤ text.length := by
    rw [eq_of_cutAt? cut]
    simp only [List.length_append]
    omega
  induction text generalizing before with
  | nil => cases cut
  | cons character text ih =>
      have same : word <+: character :: (text ++ rest) ↔ word <+: character :: text :=
        ⟨fun at_front => List.prefix_of_prefix_length_le at_front
            (List.prefix_append (character :: text) rest) fits,
          fun at_front => at_front.trans (List.prefix_append (character :: text) rest)⟩
      rw [List.cons_append]
      rw [cutAt?] at cut ⊢
      by_cases at_front : word <+: character :: text
      · rw [if_pos at_front, Option.some.injEq, Prod.mk.injEq] at cut
        obtain ⟨rfl, rfl⟩ := cut
        rw [if_pos (same.mpr at_front), ← List.cons_append, List.drop_append_of_le_length fits]
      · rw [if_neg at_front] at cut
        obtain ⟨⟨earlier, later⟩, cut_later, pair_eq⟩ := Option.map_eq_some_iff.mp cut
        obtain ⟨rfl, rfl⟩ := Prod.mk.inj pair_eq
        have later_fits : word.length ≤ text.length := by
          rw [eq_of_cutAt? cut_later]
          simp only [List.length_append]
          omega
        rw [if_neg (mt same.mp at_front), ih cut_later later_fits]
        rfl

/-- A text without the word is passed over. -/
theorem cutAt?_append (apart : Apart word text rest) (absent : ¬word <:+: text) :
    cutAt? word (text ++ rest) = (cutAt? word rest).map (Prod.map (text ++ ·) id) := by
  induction text with
  | nil =>
      rw [List.nil_append]
      exact Option.map_id_apply.symm
  | cons character text ih =>
      have not_front : ¬word <+: character :: text ++ rest := by
        rw [apart.prefix_append_iff (List.cons_ne_nil character text)]
        exact fun at_front => absent at_front.isInfix
      have later_absent : ¬word <:+: text := fun later => absent (List.infix_cons later)
      rw [List.cons_append] at not_front ⊢
      rw [cutAt?, if_neg not_front, ih apart.of_cons later_absent, Option.map_map]
      rfl

/-! ## Reading a definition -/

theorem cutAt?_mark (rest : List Char) : cutAt? bodyMark (bodyMark ++ rest) = some ([], rest) :=
  cutAt?_self (by decide) rest

/-- A text without a dollar sign is passed over. -/
theorem cutAt?_mark_append (plain : '$' ∉ text) (rest : List Char) :
    cutAt? bodyMark (text ++ rest) = (cutAt? bodyMark rest).map (Prod.map (text ++ ·) id) :=
  cutAt?_append (Text.apart_of_not_mem plain)
    fun shows => plain (shows.subset List.mem_cons_self)

/-- A text without a dollar sign ends at the mark behind it. -/
theorem cutAt?_plain (plain : '$' ∉ text) (rest : List Char) :
    cutAt? bodyMark (text ++ (bodyMark ++ rest)) = some (text, rest) := by
  rw [cutAt?_mark_append plain, cutAt?_mark]
  simp

/-- The clause of a definition that holds its body, up to the mark that opens it. -/
def clauseStart : List Char := ['A', 'S', ' '] ++ bodyMark

theorem cutAt?_clauseEnd (text : List Char) :
    cutAt? bodyMark ([' '] ++ (bodyMark ++ text)) = some ([' '], text) :=
  cutAt?_plain (by decide) text

/-- What stands behind the mark that opens a body is read up to the next mark. -/
theorem passed?_opened (text : List Char) :
    passed? (clauseStart ++ text) = cutAt? bodyMark text := by
  have keyword : cutAt? ['A', 'S'] (clauseStart ++ text) = some ([], [' '] ++ (bodyMark ++ text)) :=
    cutAt?_self (by decide) ([' '] ++ (bodyMark ++ text))
  simp only [passed?, keyword, cutAt?_clauseEnd, Option.bind_eq_bind, Option.bind_some]

/-- A signature without a mark has no part in what is read, whether or not `AS` is in it. -/
theorem passed?_signature {signature : List Char} (unmarked : ¬bodyMark <:+: signature)
    (text : List Char) :
    passed? (signature ++ '\n' :: (clauseStart ++ text)) = passed? (clauseStart ++ text) := by
  rw [passed?_opened]
  -- A name or a type can hold `AS`. Then the search for the mark starts inside the signature.
  cases keyword : cutAt? ['A', 'S'] signature with
  | none =>
      have absent := (cutAt?_eq_none_iff (by decide)).mp keyword
      have found : cutAt? ['A', 'S'] (signature ++ '\n' :: (clauseStart ++ text)) =
          some (signature ++ ['\n'], [' '] ++ (bodyMark ++ text)) := by
        rw [cutAt?_append (Text.apart_of_break (by decide)) absent]
        rfl
      simp only [passed?, found, cutAt?_clauseEnd, Option.bind_eq_bind, Option.bind_some]
  | some parts =>
      obtain ⟨before, after⟩ := parts
      have found := cutAt?_append_of_some keyword ('\n' :: (clauseStart ++ text))
      have after_unmarked : ¬bodyMark <:+: after := by
        intro shows
        apply unmarked
        rw [eq_of_cutAt? keyword]
        exact shows.trans (List.suffix_append _ _).isInfix
      have opening : cutAt? bodyMark (after ++ '\n' :: (clauseStart ++ text)) =
          some (after ++ ['\n', 'A', 'S', ' '], text) := by
        have line : cutAt? bodyMark (['\n', 'A', 'S', ' '] ++ (bodyMark ++ text)) =
            some (['\n', 'A', 'S', ' '], text) :=
          cutAt?_plain (by decide) text
        rw [cutAt?_append (Text.apart_of_break (by decide)) after_unmarked]
        exact congrArg (Option.map (Prod.map (after ++ ·) id)) line
      simp only [passed?, found, opening, Option.bind_eq_bind, Option.bind_some]

/-- A body without a mark is read as it is, with the lines around it. -/
theorem cutAt?_verbatim {lead body trail : List Char} (lead_plain : '$' ∉ lead)
    (trail_plain : '$' ∉ trail) (unmarked : ¬bodyMark <:+: body) (rest : List Char) :
    cutAt? bodyMark (lead ++ (body ++ '\n' :: (trail ++ (bodyMark ++ rest)))) =
      some (lead ++ (body ++ '\n' :: trail), rest) := by
  have line_plain : '$' ∉ '\n' :: trail := by simpa using trail_plain
  rw [cutAt?_mark_append lead_plain, cutAt?_append (Text.apart_of_break (by decide)) unmarked,
    ← List.cons_append, cutAt?_plain line_plain]
  rfl

/-- A body with a mark is cut there. -/
theorem cutAt?_cut {lead body : List Char} (lead_plain : '$' ∉ lead)
    (cut : cutAt? bodyMark body = some (before, after)) (rest : List Char) :
    cutAt? bodyMark (lead ++ (body ++ rest)) = some (lead ++ before, after ++ rest) := by
  rw [cutAt?_mark_append lead_plain, cutAt?_append_of_some cut]
  rfl

/-- The lines around a body: they have no dollar sign, and a line end stands behind the body. -/
structure Surrounds (lead trail : String) : Prop where
  lead_plain : '$' ∉ lead.toList
  trail_plain : '$' ∉ trail.toList
  line_end : trail.toList.head? = some '\n'

/-- The clause of a definition that holds its body. -/
def bodyClause (lead body trail : String) : String :=
  "AS $BODY$" ++ lead ++ body ++ trail ++ "$BODY$;"

/-- A definition delivers a body with the lines around it. Behind its signature the server takes the
whole body and reads on at the end of the statement, unless there is a mark in the body. Then it
takes what stands before the first mark, and reads on behind that mark. -/
def DeliversUpToMark (definition signature lead body trail : String) : Prop :=
  ∃ clause following : String,
    definition = signature ++ "\n" ++ clause ∧
      (¬Shows signature "$BODY$" → passed? definition.toList = passed? clause.toList) ∧
      (passed? clause.toList = some ((lead ++ body ++ trail).toList, (";" ++ following).toList) ↔
        ¬Shows body "$BODY$") ∧
      ∀ before after, cutAt? bodyMark body.toList = some (before, after) →
        passed? clause.toList =
          some (lead.toList ++ before, after ++ (trail ++ "$BODY$;" ++ following).toList)

theorem deliversUpToMark_bodyClause {lead trail : String} (surrounds : Surrounds lead trail)
    (signature body following : String) :
    DeliversUpToMark (signature ++ "\n" ++ (bodyClause lead body trail ++ following)) signature
      lead body trail := by
  obtain ⟨lead_plain, trail_plain, line_end⟩ := surrounds
  obtain ⟨last, trail_eq⟩ : ∃ last, trail.toList = '\n' :: last :=
    List.head?_eq_some_iff.mp line_end
  have clause_eq : (bodyClause lead body trail ++ following).toList =
      clauseStart ++ (lead.toList ++ (body.toList ++ (trail.toList ++
        (bodyMark ++ (";" ++ following).toList)))) := by
    simp [bodyClause, clauseStart, bodyMark]
  have cut_short : ∀ before after, cutAt? bodyMark body.toList = some (before, after) →
      passed? (bodyClause lead body trail ++ following).toList =
        some (lead.toList ++ before, after ++ (trail ++ "$BODY$;" ++ following).toList) := by
    intro before after cut
    rw [clause_eq, passed?_opened, cutAt?_cut lead_plain cut]
    simp [bodyMark]
  refine ⟨_, following, rfl, ?_, ⟨?_, ?_⟩, cut_short⟩
  · intro unmarked
    rw [String.append_assoc, String.toList_append, String.toList_append, clause_eq]
    exact passed?_signature unmarked _
  · -- What stands before a mark is shorter than the body.
    intro whole shows
    cases cut : cutAt? bodyMark body.toList with
    | none => exact (cutAt?_eq_none_iff (by decide)).mp cut shows
    | some parts =>
        rw [cut_short parts.1 parts.2 cut, Option.some.injEq, Prod.mk.injEq] at whole
        have lengths := congrArg List.length whole.1
        rw [String.toList_append, String.toList_append, eq_of_cutAt? cut] at lengths
        simp [bodyMark] at lengths
  · intro unmarked
    have tail_plain : '$' ∉ last := by
      rw [trail_eq] at trail_plain
      exact fun later => trail_plain (List.mem_cons_of_mem _ later)
    rw [clause_eq, passed?_opened, trail_eq, List.cons_append,
      cutAt?_verbatim lead_plain tail_plain unmarked]
    simp [trail_eq]

end SqlText

namespace Dialect.Postgres

open SqlText (DeliversUpToMark Surrounds)

/-- The signature of a function with a body: all lines before the one that opens the body. -/
def functionSignature (scope : Scope) (function : StoredFunction) : List String :=
  let name := scope.naming.functionDefinitionName scope.schema function.name
  ["DROP FUNCTION IF EXISTS " ++ name ++ function.argumentTypes ++ ";",
    "CREATE OR REPLACE FUNCTION " ++ name ++ function.declaredArguments,
    (scope.returnsClause function.toRoutine).value,
    languageLine,
    if function.volatile then "VOLATILE" else "IMMUTABLE"]

/-- The signature of a procedure with a body. -/
def procedureSignature (scope : Scope) (procedure : StoredProcedure) : List String :=
  let name := scope.naming.procedureDefinitionName scope.schema procedure.name
  ["DROP PROCEDURE IF EXISTS " ++ name ++ procedure.argumentTypes ++ ";",
    "CREATE OR REPLACE PROCEDURE " ++ name ++ procedure.declaredArguments,
    languageLine]

/-- The signature of the wrapper of a procedure. -/
def wrapperSignature (scope : Scope) (procedure : StoredProcedure) (wrapper : Wrapper) :
    List String :=
  let name := scope.naming.wrapperDefinitionName scope.schema wrapper.functionName
  ["DROP FUNCTION IF EXISTS " ++ name ++ procedure.argumentTypes ++ ";",
    "CREATE OR REPLACE FUNCTION " ++ name ++ procedure.declaredArguments,
    (scope.returnsClause procedure.toRoutine).value,
    languageLine,
    "COST 100 VOLATILE"]

/-- The body of the wrapper of a procedure: its own one, or a call of the procedure. -/
def wrapperBody (scope : Scope) (procedure : StoredProcedure) (wrapper : Wrapper) : String :=
  wrapper.body.getD ("CALL " ++ scope.naming.procedureDefinitionName scope.schema procedure.name ++
    procedure.argumentNames ++ ";")

/-- Lines of a signature, of a clause with a body and of what may follow it deliver the body. -/
theorem delivers_lines {signature clause : List String} {lead body trail : String}
    (surrounds : Surrounds lead trail) (signature_ne : signature ≠ []) (clause_ne : clause ≠ [])
    (clause_eq : "\n".intercalate clause = SqlText.bodyClause lead body trail)
    (further : List String) :
    DeliversUpToMark ("\n".intercalate (signature ++ clause ++ further))
      ("\n".intercalate signature) lead body trail := by
  obtain ⟨following, text_eq⟩ : ∃ following, "\n".intercalate (clause ++ further) =
      SqlText.bodyClause lead body trail ++ following := by
    by_cases further_ne : further = []
    · exact ⟨"", by simp [further_ne, clause_eq]⟩
    · refine ⟨"\n" ++ "\n".intercalate further, ?_⟩
      rw [String.intercalate_append_of_ne_nil clause_ne further_ne, clause_eq, String.append_assoc]
  rw [List.append_assoc, String.intercalate_append_of_ne_nil signature_ne (by simp [clause_ne]),
    text_eq]
  exact SqlText.deliversUpToMark_bodyClause surrounds _ _ _

theorem surrounds_lineEnds : Surrounds "\n" "\n" :=
  ⟨by decide, by decide, by decide⟩

theorem surrounds_block : Surrounds "\nBEGIN\n  " "\nEND;\n" :=
  ⟨by decide, by decide, by decide⟩

theorem delivers_bodyLines {signature : List String} (signature_ne : signature ≠ [])
    (body : String) (further : List String) :
    DeliversUpToMark ("\n".intercalate (signature ++ bodyLines body ++ further))
      ("\n".intercalate signature) "\n" body "\n" := by
  refine delivers_lines surrounds_lineEnds signature_ne (by simp [bodyLines]) ?_ further
  simp [bodyLines, SqlText.bodyClause, String.append_assoc]

theorem delivers_wrapperLines (scope : Scope) (procedure : StoredProcedure) (wrapper : Wrapper) :
    let name := scope.naming.procedureDefinitionName scope.schema procedure.name
    DeliversUpToMark ("\n".intercalate (wrapperLines scope name procedure wrapper).value)
      ("\n".intercalate (wrapperSignature scope procedure wrapper)) "\nBEGIN\n  "
      (wrapperBody scope procedure wrapper) "\nEND;\n" := by
  intro name
  let block : List String :=
    ["AS $BODY$", "BEGIN", "  " ++ wrapperBody scope procedure wrapper, "END;", "$BODY$;"]
  have block_eq : "\n".intercalate block = SqlText.bodyClause "\nBEGIN\n  "
      (wrapperBody scope procedure wrapper) "\nEND;\n" := by
    rw [← String.toList_inj]
    simp [block, SqlText.bodyClause]
  have signature_ne : wrapperSignature scope procedure wrapper ≠ [] := by simp [wrapperSignature]
  exact delivers_lines surrounds_block signature_ne (by simp [block]) block_eq
    (checkLines scope (scope.naming.wrapperDefinitionName scope.schema wrapper.functionName))

/-- The body of a routine reaches the server unchanged if and only if it has no mark in it. A
generated function or procedure passes its body between two line ends. The wrapper of a procedure
passes its body in a block, behind all that is generated for a procedure without one. -/
theorem bodies_delivered_up_to_mark (scope : Scope) :
    (∀ (function : StoredFunction) body, function.code = .body body →
      DeliversUpToMark (functionDefinition scope function).value
        ("\n".intercalate (functionSignature scope function)) "\n" body "\n") ∧
    (∀ (procedure : StoredProcedure) body, procedure.code = .body body →
      DeliversUpToMark (procedureDefinition scope procedure).value
        ("\n".intercalate (procedureSignature scope procedure)) "\n" body "\n") ∧
    ∀ (procedure : StoredProcedure) wrapper, procedure.wrapper = some wrapper →
      ∃ definition,
        (procedureDefinition scope procedure).value =
          (procedureDefinition scope { procedure with wrapper := none }).value ++ "\n" ++
            definition ∧
        DeliversUpToMark definition ("\n".intercalate (wrapperSignature scope procedure wrapper))
          "\nBEGIN\n  " (wrapperBody scope procedure wrapper) "\nEND;\n" := by
  refine ⟨?_, ?_, ?_⟩
  · intro function body code_eq
    simp only [functionDefinition, functionLines, code_eq, Generated.value_map]
    exact delivers_bodyLines (by simp) body _
  · intro procedure body code_eq
    cases wrapper_eq : procedure.wrapper with
    | none =>
        simp only [procedureDefinition, procedureLines, code_eq, wrapper_eq, Generated.value_pure]
        exact delivers_bodyLines (by simp) body _
    | some wrapper =>
        simp only [procedureDefinition, procedureLines, code_eq, wrapper_eq, Generated.value_map]
        rw [List.append_assoc]
        exact delivers_bodyLines (by simp) body _
  · intro procedure wrapper wrapper_eq
    refine ⟨_, ?_, delivers_wrapperLines scope procedure wrapper⟩
    have lines_ne : (wrapperLines scope (scope.naming.procedureDefinitionName scope.schema
        procedure.name) procedure wrapper).value ≠ [] := by
      simp [wrapperLines]
    simp only [procedureDefinition, wrapper_eq, Generated.value_map, Generated.value_pure]
    rw [String.intercalate_append_of_ne_nil ?_ lines_ne]
    · rfl
    · cases code_eq : procedure.code <;> simp [procedureLines, code_eq]

/-- A function that runs a statement in quotes of its own, with the same mark. The server takes the
body up to the inner mark, and the inner statement is the next statement of the script. -/
theorem body_cut_short :
    let body := "BEGIN EXECUTE $BODY$DELETE FROM loan;$BODY$; END;"
    let function : StoredFunction := ⟨⟨⟨"ClearLoans", []⟩, some [], .body body, none⟩, true⟩
    let model : Model := { name := "library", tables := [], functions := [function] }
    let definition := (functionDefinition (Dialect.postgresql.scope model) function).value
    let signature :=
      "DROP FUNCTION IF EXISTS clear_loans();\n" ++
      "CREATE OR REPLACE FUNCTION clear_loans()\n" ++
      "RETURNS VOID\n" ++
      "LANGUAGE 'plpgsql'\n" ++
      "VOLATILE"
    let behind :=
      "DELETE FROM loan;$BODY$; END;\n" ++
      "$BODY$;\n" ++
      "SELECT * FROM plpgsql_check_function('clear_loans');"
    definition = signature ++ "\nAS $BODY$\nBEGIN EXECUTE $BODY$" ++ behind ∧
      SqlText.passed? definition.toList = some ("\nBEGIN EXECUTE ".toList, behind.toList) ∧
      ¬∃ following, SqlText.passed? definition.toList =
        some (("\n" ++ body ++ "\n").toList, (";" ++ following).toList) := by
  intro body function model definition signature behind
  have definition_eq :
      definition = signature ++ "\nAS $BODY$\nBEGIN EXECUTE $BODY$" ++ behind := by
    decide +kernel
  have characters : definition.toList =
      signature.toList ++ '\n' :: (SqlText.clauseStart ++
        ("\nBEGIN EXECUTE ".toList ++ (SqlText.bodyMark ++ behind.toList))) := by
    rw [definition_eq]
    simp [SqlText.clauseStart, SqlText.bodyMark]
  have unmarked : ¬SqlText.bodyMark <:+: signature.toList := by
    simp only [signature, String.toList_append, String.reduceToList]
    decide +kernel
  have passed : SqlText.passed? definition.toList =
      some ("\nBEGIN EXECUTE ".toList, behind.toList) := by
    rw [characters, SqlText.passed?_signature unmarked, SqlText.passed?_opened,
      SqlText.cutAt?_plain (by decide)]
  refine ⟨definition_eq, passed, ?_⟩
  rintro ⟨following, whole⟩
  rw [passed, Option.some.injEq, Prod.mk.injEq] at whole
  have lengths := congrArg List.length whole.1
  simp [body] at lengths

end Dialect.Postgres

end SchemaCompiler
