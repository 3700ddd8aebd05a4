import SchemaCompiler.Text.Cluster.Property

/-!
# Character clusters

A cluster is what a reader takes for one character: a letter with its marks, a Hangul syllable, an
Indic conjunct, a flag, a chain of joined pictographs. `clusters` divides a text at the extended
grapheme cluster boundaries of Unicode.

`clusters` only divides: `flatten_clusters` says that no character is lost or moved.
-/

namespace SchemaCompiler

namespace Text

namespace Cluster

/-- What a character contributes to the cluster boundaries around it. -/
inductive BreakClass
  | carriageReturn
  | lineFeed
  | control
  | extender
  /-- Extends a cluster, and joins the consonants of a conjunct. -/
  | linker
  | joiner
  /-- Extends a cluster, but keeps consonants apart. -/
  | nonJoiner
  | spacingMark
  | prepended
  | leadingJamo
  | vowelJamo
  | trailingJamo
  | openSyllable
  | closedSyllable
  | regional
  | pictograph
  /-- A consonant that can be part of a conjunct. -/
  | consonant
  | other
  deriving DecidableEq, Repr

/-- The class of a Hangul letter or syllable, if the code point is one. Some vowel signs of the
Kirat Rai script compose like Hangul vowels. -/
def syllableClass (point : Nat) : Option BreakClass :=
  if (0x1100 ≤ point && point ≤ 0x115F) || (0xA960 ≤ point && point ≤ 0xA97C) then
    some .leadingJamo
  else if (0x1160 ≤ point && point ≤ 0x11A7) || (0xD7B0 ≤ point && point ≤ 0xD7C6)
      || point = 0x16D63 || (0x16D67 ≤ point && point ≤ 0x16D6A) then
    some .vowelJamo
  else if (0x11A8 ≤ point && point ≤ 0x11FF) || (0xD7CB ≤ point && point ≤ 0xD7FB) then
    some .trailingJamo
  else if 0xAC00 ≤ point && point ≤ 0xD7A3 then
    some (if (point - 0xAC00) % 28 = 0 then .openSyllable else .closedSyllable)
  else
    none

/-- The class of a character. -/
def BreakClass.ofChar (character : Char) : BreakClass :=
  let point := character.toNat
  if point = 0xD then .carriageReturn
  else if point = 0xA then .lineFeed
  else if 0x20 ≤ point && point < 0x7F then .other
  else if point = 0x200C then .nonJoiner
  else if point = 0x200D then .joiner
  else if 0x1F1E6 ≤ point && point ≤ 0x1F1FF then .regional
  else if controls.contains character then .control
  else if linkers.contains character then .linker
  else if extenders.contains character || (0x1F3FB ≤ point && point ≤ 0x1F3FF) then .extender
  else if spacingMarks.contains character then .spacingMark
  else if prependedSigns.contains character then .prepended
  else if pictographs.contains character then .pictograph
  else if consonants.contains character then .consonant
  else (syllableClass point).getD .other

/-- How far a chain of joined pictographs has come at the end of a cluster. -/
inductive Chain
  /-- The cluster does not end in a pictograph with its marks. -/
  | absent
  /-- The cluster ends in a pictograph and marks. -/
  | started
  /-- The cluster ends in a pictograph, marks and a joiner. -/
  | joined
  deriving DecidableEq, Repr

/-- How far an Indic conjunct has come at the end of a cluster. -/
inductive Conjunct
  /-- The cluster does not end in a consonant with its marks. -/
  | absent
  /-- The cluster ends in a consonant and marks, none of which is a linker. -/
  | started
  /-- The cluster ends in a consonant and marks, one of which is a linker. -/
  | linked
  deriving DecidableEq, Repr

/-- What the end of a cluster says about the character after it. -/
structure State where
  /-- The class of the last character. -/
  last : BreakClass
  /-- How far a chain of pictographs has come. -/
  chain : Chain
  /-- How far a conjunct has come. -/
  conjunct : Conjunct
  /-- Whether a regional indicator waits for its partner. -/
  unpaired : Bool
  deriving DecidableEq, Repr

namespace State

/-- The state after a character that opens a cluster. -/
def start (first : BreakClass) : State where
  last := first
  chain := if first = .pictograph then .started else .absent
  conjunct := if first = .consonant then .started else .absent
  unpaired := first = .regional

/-- Whether a character of the given class belongs to the cluster that ends in this state. -/
def joins (state : State) (next : BreakClass) : Bool :=
  match state.last, next with
  | .carriageReturn, .lineFeed => true
  | .carriageReturn, _ | .lineFeed, _ | .control, _ => false
  | _, .carriageReturn | _, .lineFeed | _, .control => false
  | .leadingJamo, .leadingJamo | .leadingJamo, .vowelJamo => true
  | .leadingJamo, .openSyllable | .leadingJamo, .closedSyllable => true
  | .openSyllable, .vowelJamo | .openSyllable, .trailingJamo => true
  | .vowelJamo, .vowelJamo | .vowelJamo, .trailingJamo => true
  | .closedSyllable, .trailingJamo | .trailingJamo, .trailingJamo => true
  | _, .extender | _, .linker | _, .joiner | _, .nonJoiner | _, .spacingMark => true
  | .prepended, _ => true
  | _, .pictograph => state.chain = .joined
  | _, .consonant => state.conjunct = .linked
  | .regional, .regional => state.unpaired
  | _, _ => false

/-- The state after a character that belongs to the same cluster. -/
def advance (state : State) (next : BreakClass) : State where
  last := next
  chain :=
    match next with
    | .pictograph => .started
    | .extender | .linker | .nonJoiner =>
      if state.chain = .started then .started else .absent
    | .joiner => if state.chain = .started then .joined else .absent
    | _ => .absent
  conjunct :=
    match next with
    | .consonant => .started
    | .linker => if state.conjunct = .absent then .absent else .linked
    | .extender | .joiner => state.conjunct
    | _ => .absent
  unpaired := next = .regional && !state.unpaired

end State

/-- What is left of a cluster that ends in the given state, and the clusters after it. -/
def divide (state : State) : List Char → List Char × List (List Char)
  | [] => ([], [])
  | character :: rest =>
    let next := BreakClass.ofChar character
    if state.joins next then
      let (tail, later) := divide (state.advance next) rest
      (character :: tail, later)
    else
      let (tail, later) := divide (State.start next) rest
      ([], (character :: tail) :: later)

theorem flatten_divide (state : State) (characters : List Char) :
    (divide state characters).1 ++ (divide state characters).2.flatten = characters := by
  induction characters generalizing state with
  | nil => rfl
  | cons character rest ih =>
    simp only [divide]
    split
    · simpa using ih _
    · simpa using ih _

end Cluster

/-- The clusters of a text, in order. -/
def clusters : List Char → List (List Char)
  | [] => []
  | character :: rest =>
    let (tail, later) := Cluster.divide (.start (.ofChar character)) rest
    (character :: tail) :: later

/-- Dividing a text into clusters keeps every character in its place. -/
theorem flatten_clusters (characters : List Char) : (clusters characters).flatten = characters := by
  cases characters with
  | nil => rfl
  | cons character rest => simpa [clusters] using Cluster.flatten_divide _ rest

end Text

end SchemaCompiler
