/-!
# Diagnostics

Generation never fails. What cannot be generated is replaced by a comment in the output, and the
reason is recorded: `Diagnostic` is the reason, `Generated` pairs a result with the reasons recorded
on the way to it, in order. A fragment inside a statement becomes a block comment, a whole statement
becomes a line comment.
-/

namespace SchemaCompiler

/-- What a diagnostic is about. -/
inductive DiagnosticCode
  | typeNotFound
  | relationshipNotFound
  | primaryKeyTypeNotFound
  | noPrimaryKey
  | referenceCycle
  | contentTableNotFound
  | contentColumnNotFound
  | invalidContentValue
  deriving DecidableEq, Repr

namespace DiagnosticCode

/-- The code as it is shown. -/
def name : DiagnosticCode → String
  | .typeNotFound => "SQT000"
  | .relationshipNotFound => "SQT001"
  | .primaryKeyTypeNotFound => "SQT002"
  | .noPrimaryKey => "SQT003"
  | .referenceCycle => "SQT004"
  | .contentTableNotFound => "RDBMS_0901"
  | .contentColumnNotFound => "RDBMS_0902"
  | .invalidContentValue => "RDBMS_0903"

/-- All codes in order. -/
def all : List DiagnosticCode :=
  [.typeNotFound, .relationshipNotFound, .primaryKeyTypeNotFound, .noPrimaryKey, .referenceCycle,
    .contentTableNotFound, .contentColumnNotFound, .invalidContentValue]

end DiagnosticCode

/-- Why a fragment or a statement could not be generated. -/
structure Diagnostic where
  /-- The kind of reason. -/
  code : DiagnosticCode
  /-- The object that is concerned. -/
  subject : String
  /-- The reason in words. -/
  message : String
  deriving DecidableEq, Repr

namespace Diagnostic

/-- A text in which a star and a slash no longer stand side by side. -/
def withoutCommentEnd : List Char → List Char
  | [] => []
  | '*' :: '/' :: rest => '*' :: ' ' :: '/' :: withoutCommentEnd rest
  | character :: rest => character :: withoutCommentEnd rest

/-- A text on one line. -/
def withoutLineEnd (characters : List Char) : List Char :=
  characters.map fun character => if character = '\n' then ' ' else character

/-- The code in brackets before a message. -/
def headed (diagnostic : Diagnostic) (message : String) : String :=
  "[" ++ diagnostic.code.name ++ "] " ++ message

/-- A diagnostic as a message. -/
def display (diagnostic : Diagnostic) : String :=
  diagnostic.headed diagnostic.message

/-- A diagnostic in place of a fragment. -/
def asComment (diagnostic : Diagnostic) : String :=
  "/* " ++ diagnostic.headed (String.ofList (withoutCommentEnd diagnostic.message.toList)) ++ " */"

/-- A diagnostic in place of a statement. -/
def asLineComment (diagnostic : Diagnostic) : String :=
  "-- " ++ diagnostic.headed (String.ofList (withoutLineEnd diagnostic.message.toList))

end Diagnostic

/-- A value, and the diagnostics recorded while it was generated. -/
structure Generated (α : Type) where
  /-- The value. -/
  value : α
  /-- The diagnostics in the order in which they arose. -/
  diagnostics : List Diagnostic
  deriving Repr

namespace Generated

variable {α β : Type}

/-- A value generated without diagnostics. -/
protected def pure (value : α) : Generated α :=
  ⟨value, []⟩

/-- Goes on from a generated value; later diagnostics follow the earlier ones. -/
protected def bind (first : Generated α) (next : α → Generated β) : Generated β :=
  let second := next first.value
  ⟨second.value, first.diagnostics ++ second.diagnostics⟩

instance : Monad Generated where
  pure := Generated.pure
  bind := Generated.bind

@[simp]
theorem value_pure (value : α) : (pure value : Generated α).value = value :=
  rfl

@[simp]
theorem diagnostics_pure (value : α) : (pure value : Generated α).diagnostics = [] :=
  rfl

@[simp]
theorem value_bind (first : Generated α) (next : α → Generated β) :
    (first >>= next).value = (next first.value).value :=
  rfl

@[simp]
theorem diagnostics_bind (first : Generated α) (next : α → Generated β) :
    (first >>= next).diagnostics = first.diagnostics ++ (next first.value).diagnostics :=
  rfl

@[simp]
theorem value_map (change : α → β) (first : Generated α) :
    (change <$> first).value = change first.value :=
  rfl

@[simp]
theorem diagnostics_map (change : α → β) (first : Generated α) :
    (change <$> first).diagnostics = first.diagnostics :=
  List.append_nil _

/-- Generates something for every element of a list. -/
def each (generate : α → Generated β) : List α → Generated (List β)
  | [] => ⟨[], []⟩
  | element :: rest =>
    let first := generate element
    let others := each generate rest
    ⟨first.value :: others.value, first.diagnostics ++ others.diagnostics⟩

@[simp]
theorem value_each (generate : α → Generated β) (elements : List α) :
    (each generate elements).value = elements.map fun element => (generate element).value := by
  induction elements with
  | nil => rfl
  | cons element rest ih => simp [each, ih]

@[simp]
theorem diagnostics_each (generate : α → Generated β) (elements : List α) :
    (each generate elements).diagnostics =
      elements.flatMap fun element => (generate element).diagnostics := by
  induction elements with
  | nil => rfl
  | cons element rest ih => simp [each, ih]

/-- A fragment, or the block comment that explains why there is none. -/
def fragment : Except Diagnostic String → Generated String
  | .ok text => ⟨text, []⟩
  | .error diagnostic => ⟨diagnostic.asComment, [diagnostic]⟩

/-- A statement, or the line comment that explains why there is none. -/
def statement : Except Diagnostic String → Generated String
  | .ok text => ⟨text, []⟩
  | .error diagnostic => ⟨diagnostic.asLineComment, [diagnostic]⟩

end Generated

end SchemaCompiler
