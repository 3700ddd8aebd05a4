import SchemaCompiler.Decimal.Notation
import SchemaCompiler.Json.Document
import SchemaCompiler.Text.Displayed

/-!
# Why JSON text is rejected

Either the text itself is at fault, or a value in it has the wrong shape. The shape errors know what
was found and what was wanted, and `Mismatch.message` words them.
-/

namespace SchemaCompiler

namespace Json

/-- What was found where something else was wanted. -/
inductive Found
  | null
  | boolean (value : Bool)
  | number (value : Number)
  | text (value : String)
  | array
  | object
  /-- The bare name of a choice that carries a value. -/
  | bareChoice

/-- A value of the wrong shape. -/
inductive Mismatch
  | invalidType (found : Found) (wanted : String)
  /-- An integer outside the range of its type. -/
  | outOfRange (value : Int) (wanted : String)
  | invalidLength (length : Nat) (wanted : String)
  | unknownChoice (name : String) (known : List String)
  | missingField (name : String)
  | duplicateField (name : String)

/-- Why a JSON text is rejected. -/
inductive Error
  | fault (fault : Fault)
  | mismatch (reason : Mismatch)

/-- What was found, in words. -/
def Found.description : Found → String
  | .null => "null"
  | .boolean value => "boolean `" ++ (if value then "true" else "false") ++ "`"
  | .number (.integer value) => "integer `" ++ toString value ++ "`"
  | .number (.float value) =>
    "floating point `" ++ ((FloatValue.ofFloat value).scientific?).getD "" ++ "`"
  | .text value => "string " ++ Text.displayed value
  | .array => "sequence"
  | .object => "map"
  | .bareChoice => "unit variant"

/-- Names between backquotes, as a choice in words. -/
def knownChoices (known : List String) : String :=
  let quoted := known.map fun name => "`" ++ name ++ "`"
  match quoted with
  | [only] => only
  | [first, second] => first ++ " or " ++ second
  | _ => "one of " ++ ", ".intercalate quoted

/-- The message of a shape error. -/
def Mismatch.message : Mismatch → String
  | .invalidType found wanted => "invalid type: " ++ found.description ++ ", expected " ++ wanted
  | .outOfRange value wanted =>
    "invalid value: integer `" ++ toString value ++ "`, expected " ++ wanted
  | .invalidLength length wanted => "invalid length " ++ toString length ++ ", expected " ++ wanted
  | .unknownChoice name known =>
    "unknown variant `" ++ name ++ "`, expected " ++ knownChoices known
  | .missingField name => "missing field `" ++ name ++ "`"
  | .duplicateField name => "duplicate field `" ++ name ++ "`"

/-- The message of a fault of the text. -/
def Fault.message : Fault → String
  | .malformed => "the text is not JSON"
  | .truncated => "the text ends too early"

/-- The message of an error. -/
def Error.message : Error → String
  | .fault reason => reason.message
  | .mismatch reason => reason.message

end Json

end SchemaCompiler
