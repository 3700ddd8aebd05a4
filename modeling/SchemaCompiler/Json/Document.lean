import SchemaCompiler.Json.Number

/-!
# JSON text as its reader meets it

A reader takes JSON text from left to right and stops at the first thing that is wrong, be it the
text itself or a value of the wrong shape. `Document.ofText` therefore never fails: it gives the
structure of the text up to the place where the text breaks off or stops being JSON, and marks that
place. What a reader makes of a document depends on the places it looks at. A value that is skipped
has to be well formed, but its numbers may be out of range and its escapes need not denote
characters; a value that is read has to be right in every respect.
-/

namespace SchemaCompiler

namespace Json

/-- What is wrong with a JSON text at some place. -/
inductive Fault
  /-- The text is not JSON. -/
  | malformed
  /-- The text ends before the value does. -/
  | truncated
  deriving DecidableEq, Repr

/-- How a value fails to be one. -/
inductive Breakage
  /-- The text ends where a value is due. -/
  | missing
  /-- A character stands where a value is due. -/
  | stray
  /-- A word starts like `null`, `true` or `false` and does not go on like it. -/
  | word (fault : Fault)
  /-- A number is not finished. -/
  | number (fault : Fault)
  /-- A string is not finished. One that is read can fail earlier than one that is skipped. -/
  | text (read skipped : Fault)
  deriving DecidableEq, Repr

/-- The fault seen by whoever reads the value. -/
def Breakage.whenRead : Breakage → Fault
  | .missing => .truncated
  | .stray => .malformed
  | .word fault | .number fault | .text fault _ => fault

/-- The fault seen by whoever skips the value. -/
def Breakage.whenSkipped : Breakage → Fault
  | .missing => .truncated
  | .stray | .number _ => .malformed
  | .word fault | .text _ fault => fault

mutual

/-- The structure of a JSON text, up to its first fault. -/
inductive Document
  | null
  | boolean (value : Bool)
  /-- A number, if it is in range. -/
  | number (value : Option Number)
  /-- A string, if its escapes denote characters. -/
  | text (value : Option String)
  | array (items : Items)
  | object (members : Members)
  /-- An array or object at a depth to which readers do not follow. -/
  | deep (container : Document)
  | broken (breakage : Breakage)

/-- The items of an array, and how the array ends. -/
inductive Items
  | closed
  | broken (fault : Fault)
  | more (item : Document) (rest : Items)

/-- The members of an object, and how the object ends. -/
inductive Members
  | closed
  | broken (fault : Fault)
  | more (key : Document) (value : Document) (rest : Members)

end

namespace Document

/-! ## Strings -/

/-- What one position of a string stands for. -/
inductive TextUnit
  | character (character : Char)
  /-- The first half of a surrogate pair. -/
  | high (unit : Nat)
  /-- The second half of a surrogate pair. -/
  | low (unit : Nat)
  deriving DecidableEq, Repr

/-- The code unit written by an escape. -/
def TextUnit.ofEscape (unit : Nat) : TextUnit :=
  if 0xD800 ≤ unit && unit < 0xDC00 then .high unit
  else if 0xDC00 ≤ unit && unit < 0xE000 then .low unit
  else .character (Char.ofNat unit)

/-- The characters of a string. Surrogates have to come in pairs. -/
def resolve? : List TextUnit → Option (List Char)
  | [] => some []
  | .character character :: rest => (resolve? rest).map (character :: ·)
  | .high upper :: .low lower :: rest =>
    let point := 0x10000 + (upper - 0xD800) * 0x400 + (lower - 0xDC00)
    (resolve? rest).map (Char.ofNat point :: ·)
  | .high _ :: _ | .low _ :: _ => none

/-- Whether surrogates are unpaired before the end of an unfinished string, where the partner of the
last one could still have followed. -/
def isSpoiled (units : List TextUnit) : Bool :=
  match units.getLast? with
  | some (.high _) => (resolve? units.dropLast).isNone
  | _ => (resolve? units).isNone

/-- The value of a hexadecimal digit. -/
def hexDigit? (character : Char) : Option Nat :=
  if character.isDigit then some (character.toNat - '0'.toNat)
  else if 'a' ≤ character && character ≤ 'f' then some (character.toNat - 'a'.toNat + 10)
  else if 'A' ≤ character && character ≤ 'F' then some (character.toNat - 'A'.toNat + 10)
  else none

/-- The character named by a one-letter escape. -/
def namedEscape? (letter : Char) : Option Char :=
  match letter with
  | '"' => some '"'
  | '\\' => some '\\'
  | '/' => some '/'
  | 'b' => some '\x08'
  | 'f' => some '\x0c'
  | 'n' => some '\n'
  | 'r' => some '\r'
  | 't' => some '\t'
  | _ => none

/-- The fault of four places that are not all hexadecimal digits: they are counted in bytes. -/
def hexFault (text : List Char) : Fault :=
  if (String.ofList (text.take 4)).utf8ByteSize < 4 then .truncated else .malformed

/-- The units of a string whose opening quote was read, and the text after it. -/
def readUnits : List Char → List TextUnit × Except Fault (List Char)
  | [] => ([], .error .truncated)
  | '"' :: rest => ([], .ok rest)
  | ['\\'] => ([], .error .truncated)
  | '\\' :: 'u' :: a :: b :: c :: d :: rest =>
    match hexDigit? a, hexDigit? b, hexDigit? c, hexDigit? d with
    | some a, some b, some c, some d =>
      let (units, ending) := readUnits rest
      (.ofEscape (((a * 16 + b) * 16 + c) * 16 + d) :: units, ending)
    | _, _, _, _ => ([], .error .malformed)
  | '\\' :: 'u' :: rest => ([], .error (hexFault rest))
  | '\\' :: letter :: rest =>
    match namedEscape? letter with
    | some character =>
      let (units, ending) := readUnits rest
      (.character character :: units, ending)
    | none => ([], .error .malformed)
  | character :: rest =>
    if character.toNat < 0x20 then
      ([], .error .malformed)
    else
      let (units, ending) := readUnits rest
      (.character character :: units, ending)

/-- The string whose opening quote was read, and the text after it. -/
def readText (text : List Char) : Document × List Char :=
  match readUnits text with
  | (units, .ok rest) => (.text ((resolve? units).map String.ofList), rest)
  | (units, .error fault) =>
    (.broken (.text (if isSpoiled units then .malformed else fault) fault), [])

/-! ## Numbers and words -/

/-- The leading digits of a text, and the text after them. -/
def readDigits (text : List Char) : List Nat × List Char :=
  ((text.takeWhile Char.isDigit).map fun digit => digit.toNat - '0'.toNat,
    text.dropWhile Char.isDigit)

/-- What goes wrong where a digit is due. -/
def digitFault (rest : List Char) : Document × List Char :=
  (.broken (.number (if rest.isEmpty then .truncated else .malformed)), [])

/-- The end of a number literal: its exponent. -/
def readExponent (negative : Bool) (whole : List Nat) (fraction : Option (List Nat))
    (text : List Char) : Document × List Char :=
  let finish (exponent : Option (Bool × List Nat)) (rest : List Char) : Document × List Char :=
    (.number (Number.ofLiteral? ⟨negative, whole, fraction, exponent⟩), rest)
  let readPower (downward : Bool) (text : List Char) : Document × List Char :=
    match readDigits text with
    | ([], rest) => digitFault rest
    | (digits, rest) => finish (some (downward, digits)) rest
  match text with
  | 'e' :: '+' :: rest | 'E' :: '+' :: rest => readPower false rest
  | 'e' :: '-' :: rest | 'E' :: '-' :: rest => readPower true rest
  | 'e' :: rest | 'E' :: rest => readPower false rest
  | rest => finish none rest

/-- A number literal after its sign. A leading zero stands alone before the point. -/
def readNumber (negative : Bool) (text : List Char) : Document × List Char :=
  match readDigits text with
  | ([], rest) => digitFault rest
  | (0 :: _ :: _, _) => (.broken (.number .malformed), [])
  | (whole, '.' :: rest) =>
    match readDigits rest with
    | ([], rest) => digitFault rest
    | (fraction, rest) => readExponent negative whole (some fraction) rest
  | (whole, rest) => readExponent negative whole none rest

/-- The rest of a word whose first letter was read. -/
def readWord (value : Document) : List Char → List Char → Document × List Char
  | [], rest => (value, rest)
  | _ :: _, [] => (.broken (.word .truncated), [])
  | letter :: letters, character :: rest =>
    if letter = character then
      readWord value letters rest
    else
      (.broken (.word .malformed), [])

/-! ## Values -/

/-- Whether a character may stand between the parts of a JSON text. -/
def isFiller (character : Char) : Bool :=
  character = ' ' || character = '\n' || character = '\t' || character = '\r'

/-- The depth from which on readers do not follow arrays and objects. -/
def deepest : Nat := 127

/-- Marks a container that lies too deep for readers. -/
def placed (depth : Nat) (container : Document) : Document :=
  if depth < deepest then container else .deep container

mutual

/-- The value at the start of a text, and the text after it. The depth counts the open containers;
the fuel bounds the steps, and a text of `n` characters takes at most `2 * n + 2` of them. -/
def readValue (fuel depth : Nat) (text : List Char) : Document × List Char :=
  match fuel with
  | 0 => (.broken .missing, [])
  | fuel + 1 =>
    match text.dropWhile isFiller with
    | [] => (.broken .missing, [])
    | 'n' :: rest => readWord .null ['u', 'l', 'l'] rest
    | 't' :: rest => readWord (.boolean true) ['r', 'u', 'e'] rest
    | 'f' :: rest => readWord (.boolean false) ['a', 'l', 's', 'e'] rest
    | '"' :: rest => readText rest
    | '-' :: rest => readNumber true rest
    | '[' :: rest =>
      let (items, rest) := readItems fuel (depth + 1) true rest
      (placed depth (.array items), rest)
    | '\x7b' :: rest =>
      let (members, rest) := readMembers fuel (depth + 1) true rest
      (placed depth (.object members), rest)
    | character :: rest =>
      if character.isDigit then
        readNumber false (character :: rest)
      else
        (.broken .stray, [])

/-- The items of an open array, `atStart` right after its bracket and after an item otherwise. -/
def readItems (fuel depth : Nat) (atStart : Bool) (text : List Char) : Items × List Char :=
  match fuel with
  | 0 => (.broken .truncated, [])
  | fuel + 1 =>
    let readItem (text : List Char) : Items × List Char :=
      let (item, rest) := readValue fuel depth text
      let (items, rest) := readItems fuel depth false rest
      (.more item items, rest)
    match text.dropWhile isFiller, atStart with
    | [], _ => (.broken .truncated, [])
    | ']' :: rest, _ => (.closed, rest)
    | ',' :: rest, false => readItem rest
    | _ :: _, false => (.broken .malformed, [])
    | rest, true => readItem rest

/-- The members of an open object, `atStart` right after its brace and after a member otherwise. -/
def readMembers (fuel depth : Nat) (atStart : Bool) (text : List Char) : Members × List Char :=
  match fuel with
  | 0 => (.broken .truncated, [])
  | fuel + 1 =>
    let readMember (text : List Char) : Members × List Char :=
      let (key, rest) := readValue fuel depth text
      let (value, rest) :=
        match rest.dropWhile isFiller with
        | [] => (.broken .missing, [])
        | ':' :: rest => readValue fuel depth rest
        | _ => (.broken .stray, [])
      let (members, rest) := readMembers fuel depth false rest
      (.more key value members, rest)
    match text.dropWhile isFiller, atStart with
    | [], _ => (.broken .truncated, [])
    | '\x7d' :: rest, _ => (.closed, rest)
    | ',' :: rest, false => readMember rest
    | _ :: _, false => (.broken .malformed, [])
    | rest, true => readMember rest

end

/-- The document of a text, and what follows it in the text. -/
def ofText (text : String) : Document × List Char :=
  let characters := text.toList
  let (document, rest) := readValue (2 * characters.length + 2) 0 characters
  (document, rest.dropWhile isFiller)

end Document

end Json

end SchemaCompiler
