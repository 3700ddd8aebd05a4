import SchemaCompiler.Profile

/-!
# Signatures of routines

The lists in which the arguments of a routine appear, and the clause that gives its result. A
routine without a list of arguments is named without parentheses.
-/

namespace SchemaCompiler

namespace Argument

/-- An argument in the signature of its routine. -/
def signature (argument : Argument) : String :=
  argument.mutability.keyword ++ " " ++ argument.name ++ " " ++ argument.sqlType

end Argument

namespace Routine

/-- Something about each argument, in parentheses. -/
def argumentList (routine : Routine) (part : Argument → String) : String :=
  match routine.arguments with
  | none => ""
  | some arguments => "(" ++ ", ".intercalate (arguments.map part) ++ ")"

/-- The arguments as they are declared. -/
def declaredArguments (routine : Routine) : String :=
  routine.argumentList Argument.signature

/-- The types of the arguments. -/
def argumentTypes (routine : Routine) : String :=
  routine.argumentList Argument.sqlType

/-- The names of the arguments. -/
def argumentNames (routine : Routine) : String :=
  routine.argumentList Argument.name

end Routine

namespace Scope

/-- A column of a result with its type. -/
def resultColumn (scope : Scope) (entity : Entity) (column : Column) : Generated String :=
  (fun types => scope.naming.tableColumnName column ++ " " ++ types.functionOutput)
    <$> scope.types entity column

/-- The clause that gives the result of a routine: nothing, a value or a table. -/
def returnsClause (scope : Scope) (routine : Routine) : Generated String :=
  match routine.columns with
  | [] => pure "RETURNS VOID"
  | [column] =>
    (fun types => "RETURNS " ++ types.functionOutput) <$> scope.types routine.toEntity column
  | columns =>
    (fun fields => "RETURNS TABLE (" ++ ", ".intercalate fields ++ ")")
      <$> Generated.each (scope.resultColumn routine.toEntity) columns

end Scope

end SchemaCompiler
