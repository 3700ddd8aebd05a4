import SchemaCompiler.Text.LetterCase.Mapping

/-!
# Letter case

Uppercase and lowercase forms by the full Unicode mappings, which may turn one character into
several. The only mapping that looks around itself is the one of the capital sigma: it becomes the
final sigma when a cased letter stands before it and none after it, case-ignorable characters apart.
-/

namespace SchemaCompiler

namespace Text

namespace LetterCase

/-- The image of a code point in a table of runs, if the table holds it. -/
def shifted? (runs : List ShiftRun) (point : Nat) : Option Char :=
  (runs.find? fun run =>
    run.first ≤ point && point ≤ run.last && (point - run.first) % run.step == 0).map
      fun run => Char.ofNat ((point : Int) + run.shift).toNat

/-- The uppercase form of a character. -/
def upperForm (character : Char) : List Char :=
  match shifted? upperRuns character.toNat with
  | some image => [image]
  | none =>
    match upperSequences.find? (·.1 == character.toNat) with
    | some (_, sequence) => sequence.map Char.ofNat
    | none => [character]

/-- The lowercase form of a character, out of context. -/
def lowerForm (character : Char) : List Char :=
  if character.toNat = 0x130 then
    ['i', Char.ofNat 0x307]
  else
    [(shifted? lowerRuns character.toNat).getD character]

/-- Whether a cased letter comes first, case-ignorable characters apart. -/
def meetsCased (characters : List Char) : Bool :=
  match characters.dropWhile ignorable.contains with
  | [] => false
  | character :: _ => cased.contains character

/-- The lowercase form of a text that follows the reversed text `before`. -/
def lowerAfter (before : List Char) : List Char → List Char
  | [] => []
  | character :: rest =>
    let form :=
      if character = 'Σ' then
        [if meetsCased before && !meetsCased rest then 'ς' else 'σ']
      else
        lowerForm character
    form ++ lowerAfter (character :: before) rest

end LetterCase

/-- The uppercase form of a text. -/
def upper (characters : List Char) : List Char :=
  characters.flatMap LetterCase.upperForm

/-- The lowercase form of a text. -/
def lower (characters : List Char) : List Char :=
  LetterCase.lowerAfter [] characters

end Text

end SchemaCompiler
