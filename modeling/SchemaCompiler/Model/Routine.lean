import SchemaCompiler.Model.Entity

/-!
# Stored routines

Functions and procedures share a name, arguments and result columns; a procedure may come with a
function that wraps a call of it. The code of a routine is either a body, around which a definition
is generated, or a complete definition that is taken as it is.
-/

namespace SchemaCompiler

open Json

/-- The direction in which an argument passes values. -/
inductive Mutability
  | input
  | output
  | inputOutput
  deriving DecidableEq, Repr, Inhabited

namespace Mutability

/-- The keyword of a direction. -/
def keyword : Mutability → String
  | .input => "IN"
  | .output => "OUT"
  | .inputOutput => "INOUT"

/-- Directions as named choices without values. -/
def codec : Codec Mutability where
  read := Codec.readChoice [
    .bare "in" .input, .bare "out" .output, .bare "in_out" .inputOutput]
  write
    | .input => .text "in"
    | .output => .text "out"
    | .inputOutput => .text "in_out"

end Mutability

/-- An argument of a routine. -/
structure Argument where
  /-- The name of the argument. -/
  name : String
  /-- Its type, as it is written. -/
  sqlType : String
  /-- Its direction. -/
  mutability : Mutability := .input
  deriving DecidableEq, Repr, Inhabited

namespace Argument

/-- Arguments as records. -/
def codec : Codec Argument :=
  Codec.record "RoutineArg"
    [.required "name" .text,
      .required "sql_type" .text,
      .defaulted "mutability" Mutability.codec .input]
    (fun (name, sqlType, mutability, ()) => ⟨name, sqlType, mutability⟩)
    (fun argument => (argument.name, argument.sqlType, argument.mutability, ()))

end Argument

/-- The code of a routine. -/
inductive RoutineCode
  /-- The body of a definition that is generated. -/
  | body (content : String)
  /-- A complete definition. -/
  | source (content : String)
  deriving DecidableEq, Repr, Inhabited

namespace RoutineCode

/-- Codes as named choices. -/
def codec : Codec RoutineCode where
  read := Codec.readChoice [
    .carrying "body" fun payload => .body <$> Codec.text.read payload,
    .carrying "source" fun payload => .source <$> Codec.text.read payload]
  write
    | .body content => .object [("body", .text content)]
    | .source content => .object [("source", .text content)]

end RoutineCode

/-- A stored routine: its columns are those of its result. -/
structure Routine extends Entity where
  /-- The arguments. Without a list, the routine is named without parentheses. -/
  arguments : Option (List Argument) := none
  /-- The code. -/
  code : RoutineCode
  /-- The artifact that receives the definition, if not the primary one. -/
  persistAs : Option String := none
  deriving BEq, Inhabited

/-- A stored function. -/
structure StoredFunction extends Routine where
  /-- Whether two calls with the same arguments may differ. -/
  volatile : Bool := false
  deriving BEq, Inhabited

namespace StoredFunction

/-- Functions as records. -/
def codec : Codec StoredFunction :=
  Codec.record "StoredFunction"
    [.required "entity" .text,
      .defaulted "args" (.optional (.list Argument.codec)) none,
      .defaulted "columns" (.list Column.codec) [],
      .required "code" RoutineCode.codec,
      .defaulted "volatile" .boolean false,
      .omittable "persist_as" .text]
    (fun (name, arguments, columns, code, volatile, persistAs, ()) =>
      ⟨⟨⟨name, columns⟩, arguments, code, persistAs⟩, volatile⟩)
    (fun function =>
      (function.name, function.arguments, function.columns, function.code, function.volatile,
        function.persistAs, ()))

end StoredFunction

/-- A function that wraps the call of a procedure. -/
structure Wrapper where
  /-- The name of the function, as it is written. -/
  functionName : String
  /-- Its body, if it is not a plain call. -/
  body : Option String := none
  deriving DecidableEq, Repr, Inhabited

namespace Wrapper

/-- Wrappers as records. -/
def codec : Codec Wrapper :=
  Codec.record "ProcedureWrapper"
    [.required "function_name" .text, .omittable "body" .text]
    (fun (functionName, body, ()) => ⟨functionName, body⟩)
    (fun wrapper => (wrapper.functionName, wrapper.body, ()))

end Wrapper

/-- A stored procedure. -/
structure StoredProcedure extends Routine where
  /-- The function that wraps it, if there is one. -/
  wrapper : Option Wrapper := none
  deriving BEq, Inhabited

namespace StoredProcedure

/-- Procedures as records. -/
def codec : Codec StoredProcedure :=
  Codec.record "StoredProcedure"
    [.required "entity" .text,
      .defaulted "args" (.optional (.list Argument.codec)) none,
      .defaulted "columns" (.list Column.codec) [],
      .required "code" RoutineCode.codec,
      .omittable "wrapper" Wrapper.codec,
      .omittable "persist_as" .text]
    (fun (name, arguments, columns, code, wrapper, persistAs, ()) =>
      ⟨⟨⟨name, columns⟩, arguments, code, persistAs⟩, wrapper⟩)
    (fun procedure =>
      (procedure.name, procedure.arguments, procedure.columns, procedure.code,
        procedure.wrapper, procedure.persistAs, ()))

end StoredProcedure

end SchemaCompiler
