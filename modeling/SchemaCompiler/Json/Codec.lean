import SchemaCompiler.Json
import SchemaCompiler.Json.Error

/-!
# Reading and writing typed values

A codec pairs a reader of documents with a writer of JSON values. Readers go through a document from
left to right and report the first thing that is wrong: a fault of the text where it stands, a field
given twice at its second name, a missing field where the object ends. Fields that are not known are
skipped. A record may also be written as an array of its fields in order.

A record is described once, by the list of its fields; `record` derives both directions from it.
Choices come in two forms. A named choice is an object with one member, named for the alternative,
or the bare name where the alternative carries nothing. A tagged choice is an object with a member
that names the alternative, anywhere among the fields of the alternative.
-/

namespace SchemaCompiler

namespace Json

/-- The result of reading a document. -/
abbrev Result := Except Error

/-- Reads values of a type from documents and writes them as JSON. -/
structure Codec (α : Type) where
  /-- Reads a document. -/
  read : Document → Result α
  /-- Writes a value. -/
  write : α → Json

/-- Rejects a text for a fault. -/
def failFault {α : Type} (fault : Fault) : Result α :=
  .error (.fault fault)

/-- Rejects a value for its shape. -/
def failShape {α : Type} (reason : Mismatch) : Result α :=
  .error (.mismatch reason)

namespace Document

/-- What a document holds at its top. Arrays and objects are not looked into. -/
def found : Document → Result Found
  | .null => .ok .null
  | .boolean value => .ok (.boolean value)
  | .number (some value) => .ok (.number value)
  | .number none => failFault .malformed
  | .text (some value) => .ok (.text value)
  | .text none => failFault .malformed
  | .array _ => .ok .array
  | .object _ => .ok .object
  | .deep container => container.found
  | .broken breakage => failFault breakage.whenRead

/-- Rejects a document that holds something else than what is wanted. -/
def reject {α : Type} (document : Document) (wanted : String) : Result α := do
  failShape (.invalidType (← document.found) wanted)

/-- The text of a document that stands for a name of the given sort. -/
def readName (sort : String) : Document → Result String
  | .text (some name) => .ok name
  | document => document.reject sort

/-- The name of a member. -/
def readKey : Document → Result String
  | .text (some name) => .ok name
  | .broken (.text fault _) => failFault fault
  | .broken .missing => failFault .truncated
  | _ => failFault .malformed

mutual

/-- Passes over a value. It has to be well formed. -/
def skip : Document → Result Unit
  | .null | .boolean _ | .number _ | .text _ => .ok ()
  | .array items => skipItems items
  | .object members => skipMembers members
  | .deep container => skip container
  | .broken breakage => failFault breakage.whenSkipped

/-- Passes over the items of an array. -/
def skipItems : Items → Result Unit
  | .closed => .ok ()
  | .broken fault => failFault fault
  | .more item rest => do
    skip item
    skipItems rest

/-- Passes over the members of an object. -/
def skipMembers : Members → Result Unit
  | .closed => .ok ()
  | .broken fault => failFault fault
  | .more key value rest => do
    skipKey key
    skip value
    skipMembers rest

/-- Passes over the name of a member. -/
def skipKey : Document → Result Unit
  | .text _ => .ok ()
  | .broken (.text _ fault) => failFault fault
  | .broken .missing => failFault .truncated
  | _ => failFault .malformed

end

mutual

/-- Reads a value of any shape: everything in it has to be right. -/
def settle : Document → Result Unit
  | .null | .boolean _ | .number (some _) | .text (some _) => .ok ()
  | .number none | .text none => failFault .malformed
  | .array items => settleItems items
  | .object members => settleMembers members
  | .deep _ => failFault .malformed
  | .broken breakage => failFault breakage.whenRead

/-- Reads the items of an array of any shape. -/
def settleItems : Items → Result Unit
  | .closed => .ok ()
  | .broken fault => failFault fault
  | .more item rest => do
    settle item
    settleItems rest

/-- Reads the members of an object of any shape. -/
def settleMembers : Members → Result Unit
  | .closed => .ok ()
  | .broken fault => failFault fault
  | .more key value rest => do
    discard key.readKey
    settle value
    settleMembers rest

end

/-- Reads the whole of a text, after which nothing may follow. -/
def readAll {α : Type} (read : Document → Result α) (text : String) : Result α :=
  let (document, rest) := ofText text
  match read document with
  | .error error => .error error
  | .ok value => if rest.isEmpty then .ok value else failFault .malformed

end Document

namespace Codec

variable {α : Type}

/-! ## Plain values -/

/-- A text. -/
def text : Codec String where
  read := Document.readName "a string"
  write := .text

/-- A text that is a path. -/
def path : Codec String where
  read := Document.readName "path string"
  write := .text

/-- A truth value. -/
def boolean : Codec Bool where
  read
    | .boolean value => .ok value
    | document => document.reject "a boolean"
  write := .boolean

/-- Reads an integer within bounds. -/
def readInteger (lowest highest : Int) (wanted : String) : Document → Result Int
  | .number (some (.integer value)) =>
    if lowest ≤ value ∧ value ≤ highest then
      .ok value
    else
      failShape (.outOfRange value wanted)
  | document => document.reject wanted

/-- A signed integer of 64 bits. -/
def signed64 : Codec Int where
  read := readInteger (-(Nat.pow 2 63 : Nat)) (Nat.pow 2 63 - 1 : Nat) "i64"
  write := .integer

/-- An unsigned integer of 32 bits. -/
def unsigned32 : Codec Nat where
  read document := Int.toNat <$> readInteger 0 (Nat.pow 2 32 - 1 : Nat) "u32" document
  write value := .integer value

/-- A float. Integers are rounded. -/
def float : Codec Float where
  read
    | .number (some (.float value)) => .ok value
    | .number (some (.integer value)) => .ok (Float.ofInt value)
    | document => document.reject "f64"
  write := .float

/-- Reads nothing, written as `null`. -/
def readNothing : Document → Result Unit
  | .null => .ok ()
  | document => document.reject "unit"

/-- A value, or `null`. -/
def optional (codec : Codec α) : Codec (Option α) where
  read
    | .null => .ok none
    | document => some <$> codec.read document
  write value := value.elim .null codec.write

/-- Reads the items of an array. -/
def readItems (read : Document → Result α) : Items → Result (List α)
  | .closed => .ok []
  | .broken fault => failFault fault
  | .more item rest => do
    let value ← read item
    let values ← readItems read rest
    return value :: values

/-- A list, written as an array. -/
def list (codec : Codec α) : Codec (List α) where
  read
    | .array items => readItems codec.read items
    | document => document.reject "a sequence"
  write values := .array (values.map codec.write)

/-! ## Records -/

/-- One field of a record. -/
structure Field where
  /-- The type of its values. -/
  Value : Type
  /-- The name of its member. -/
  name : String
  /-- How its values are read and written. -/
  codec : Codec Value
  /-- What stands in for it when the record leaves it out. -/
  default? : Option Value
  /-- The values for which no member is written. -/
  omitted : Value → Bool

namespace Field

/-- A field that has to be given. -/
@[reducible]
def required (name : String) (codec : Codec α) : Field where
  Value := α
  name := name
  codec := codec
  default? := none
  omitted _ := false

/-- A field with a default, which is written all the same. -/
@[reducible]
def defaulted (name : String) (codec : Codec α) (value : α) : Field where
  Value := α
  name := name
  codec := codec
  default? := some value
  omitted _ := false

/-- A list that need not be given when it is empty, and is not written then. -/
@[reducible]
def listed (name : String) (codec : Codec α) : Field where
  Value := List α
  name := name
  codec := codec.list
  default? := some []
  omitted := List.isEmpty

/-- A field that may be left out, and that is not written when there is no value. -/
@[reducible]
def omittable (name : String) (codec : Codec α) : Field where
  Value := Option α
  name := name
  codec := codec.optional
  default? := some none
  omitted := Option.isNone

end Field

/-- One value for each field. -/
@[reducible]
def Values : List Field → Type
  | [] => Unit
  | field :: rest => field.Value × Values rest

/-- The fields of a record that were read so far. -/
@[reducible]
def Slots : List Field → Type
  | [] => Unit
  | field :: rest => Option field.Value × Slots rest

/-- No field read yet. -/
def Slots.empty : (fields : List Field) → Slots fields
  | [] => ()
  | _ :: rest => (none, Slots.empty rest)

/-- Reads the member with the given name into its slot. Members of other names are skipped. -/
def Slots.store (name : String) (value : Document) :
    (fields : List Field) → Slots fields → Result (Slots fields)
  | [], () => value.skip
  | field :: rest, (slot, slots) => do
    if name = field.name then
      if slot.isSome then
        failShape (.duplicateField name)
      else
        return (some (← field.codec.read value), slots)
    else
      return (slot, ← Slots.store name value rest slots)

/-- The values of the fields, with defaults for those that were left out. -/
def Slots.complete : (fields : List Field) → Slots fields → Result (Values fields)
  | [], () => .ok ()
  | field :: rest, (slot, slots) => do
    match slot <|> field.default? with
    | none => failShape (.missingField field.name)
    | some value => return (value, ← Slots.complete rest slots)

/-- Reads the members of an object that is a record. -/
def readMembers (fields : List Field) : Slots fields → Members → Result (Values fields)
  | slots, .closed => Slots.complete fields slots
  | _, .broken fault => failFault fault
  | slots, .more key value rest => do
    let name ← key.readKey
    let slots ← Slots.store name value fields slots
    readMembers fields slots rest

/-- A number of elements in words. -/
def elementCount (count : Nat) : String :=
  toString count ++ (if count = 1 then " element" else " elements")

/-- The number of items left in an array. -/
def remaining : Items → Nat
  | .closed | .broken _ => 0
  | .more _ rest => remaining rest + 1

/-- How a record takes items beyond its fields. -/
inductive Surplus
  /-- The array should have ended: its text is at fault. -/
  | misplaced
  /-- The array was read as a whole and has the wrong length. -/
  | counted
  deriving DecidableEq, Repr

/-- Checks that nothing follows the fields of a record of the given size in its array. -/
def Surplus.check (surplus : Surplus) (size : Nat) : Items → Result Unit
  | .closed => .ok ()
  | .broken fault => failFault fault
  | .more _ rest =>
    match surplus with
    | .misplaced => failFault .malformed
    | .counted =>
      failShape (.invalidLength (size + remaining rest + 1) (elementCount size ++ " in sequence"))

/-- Reads the items of an array that is a record: `size` counts all fields, `index` those before. -/
def readSequence (surplus : Surplus) (wanted : String) (size index : Nat) :
    (fields : List Field) → Items → Result (Values fields)
  | [], items => surplus.check size items
  | _ :: _, .broken fault => failFault fault
  | field :: rest, .closed => do
    match field.default? with
    | none =>
      failShape (.invalidLength index (wanted ++ " with " ++ elementCount size))
    | some value => return (value, ← readSequence surplus wanted size (index + 1) rest .closed)
  | field :: rest, .more item items => do
    let value ← field.codec.read item
    return (value, ← readSequence surplus wanted size (index + 1) rest items)

/-- Reads a record from an object or from an array. -/
def readRecord (surplus : Surplus) (wanted : String) (fields : List Field) :
    Document → Result (Values fields)
  | .object members => readMembers fields (Slots.empty fields) members
  | .array items => readSequence surplus wanted fields.length 0 fields items
  | document => document.reject wanted

/-- The members that are written for the fields of a record. -/
def writeMembers : (fields : List Field) → Values fields → List (String × Json)
  | [], () => []
  | field :: rest, (value, values) =>
    if field.omitted value then
      writeMembers rest values
    else
      (field.name, field.codec.write value) :: writeMembers rest values

/-- A record with the given name and fields. -/
def recordWith (surplus : Surplus) (name : String) (fields : List Field)
    (build : Values fields → α) (parts : α → Values fields) : Codec α where
  read document := build <$> readRecord surplus ("struct " ++ name) fields document
  write value := .object (writeMembers fields (parts value))

/-- A record that is read where it stands. -/
def record (name : String) (fields : List Field) (build : Values fields → α)
    (parts : α → Values fields) : Codec α :=
  recordWith .misplaced name fields build parts

/-- A record inside a value that is first read as a whole. -/
def innerRecord (name : String) (fields : List Field) (build : Values fields → α)
    (parts : α → Values fields) : Codec α :=
  recordWith .counted name fields build parts

/-! ## Named choices -/

/-- One alternative of a named choice. -/
inductive Alternative (α : Type)
  /-- Carries nothing. -/
  | bare (name : String) (value : α)
  /-- Carries a value. -/
  | carrying (name : String) (read : Document → Result α)

/-- The name of an alternative. -/
def Alternative.name : Alternative α → String
  | .bare name _ | .carrying name _ => name

/-- Finds the alternative of the given name. -/
def choose (alternatives : List (Alternative α)) (name : String) : Result (Alternative α) :=
  match alternatives.find? (·.name == name) with
  | some alternative => .ok alternative
  | none => failShape (.unknownChoice name (alternatives.map (·.name)))

/-- Reads a named choice. -/
def readChoice (alternatives : List (Alternative α)) : Document → Result α
  | .text none => failFault .malformed
  | .text (some name) => do
    match ← choose alternatives name with
    | .bare _ value => return value
    | .carrying .. => failShape (.invalidType .bareChoice "newtype variant")
  | .object .closed => failFault .malformed
  | .object (.broken fault) => failFault fault
  | .object (.more key value rest) => do
    let alternative ← choose alternatives (← key.readKey)
    let chosen ←
      match alternative with
      | .bare _ chosen => (fun _ => chosen) <$> readNothing value
      | .carrying _ read => read value
    match rest with
    | .closed => return chosen
    | .broken fault => failFault fault
    | .more .. => failFault .malformed
  | .broken .missing => failFault .truncated
  | .broken (.text fault _) => failFault fault
  | _ => failFault .malformed

/-! ## Tagged choices -/

/-- One alternative of a tagged choice: the value of the tag, and readers for what goes with it. -/
structure Tagged (α : Type) where
  /-- The value of the tag. -/
  name : String
  /-- Reads the members beside the tag. -/
  ofMembers : Members → Result α
  /-- Reads the items after the tag. -/
  ofItems : Items → Result α

/-- The alternative with the given fields. Messages call it by the title and that of its choice. -/
def tagged (choice title name : String) (fields : List Field) (build : Values fields → α) :
    Tagged α where
  name := name
  ofMembers members := build <$> readMembers fields (Slots.empty fields) members
  ofItems items :=
    let wanted := "struct variant " ++ choice ++ "::" ++ title
    build <$> readSequence .counted wanted fields.length 0 fields items

/-- The member that names the alternative. -/
def tag : String := "type"

/-- Finds the alternative named by a tag. -/
def readTag (alternatives : List (Tagged α)) (document : Document) : Result (Tagged α) := do
  let name ← document.readName "variant identifier"
  match alternatives.find? (·.name == name) with
  | some alternative => return alternative
  | none => failShape (.unknownChoice name (alternatives.map (·.name)))

/-- Reads the members of a tagged choice: the alternative, and the other members as they are. -/
def splitMembers (alternatives : List (Tagged α)) (chosen : Option (Tagged α)) :
    Members → Result (Option (Tagged α) × Members)
  | .closed => .ok (chosen, .closed)
  | .broken fault => failFault fault
  | .more key value rest => do
    let name ← key.readKey
    if name = tag then
      if chosen.isSome then
        failShape (.duplicateField tag)
      else
        splitMembers alternatives (some (← readTag alternatives value)) rest
    else
      value.settle
      let (chosen, others) ← splitMembers alternatives chosen rest
      return (chosen, .more key value others)

/-- Reads a tagged choice from an object, or from an array that starts with the tag. -/
def readTagged (name : String) (alternatives : List (Tagged α)) : Document → Result α
  | .object members => do
    match ← splitMembers alternatives none members with
    | (none, _) => failShape (.missingField tag)
    | (some chosen, others) => chosen.ofMembers others
  | .array .closed => failShape (.missingField tag)
  | .array (.broken fault) => failFault fault
  | .array (.more first rest) => do
    let chosen ← readTag alternatives first
    Document.settleItems rest
    chosen.ofItems rest
  | document => document.reject ("internally tagged enum " ++ name)

/-- Writes a tagged choice. -/
def writeTagged (name : String) (fields : List (String × Json)) : Json :=
  .object ((tag, .text name) :: fields)

end Codec

end Json

end SchemaCompiler
