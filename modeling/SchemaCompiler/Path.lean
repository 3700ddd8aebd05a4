/-!
# Paths

A path is a text whose parts are separated by slashes. Empty parts and single dots stay where they
are; two dots lead one level up. An artifact may only be named by a single part that leads down.
-/

namespace SchemaCompiler

namespace Path

/-- The parts of a text between its slashes. -/
def split : List Char → List (List Char)
  | [] => [[]]
  | character :: rest =>
    if character = '/' then
      [] :: split rest
    else
      match split rest with
      | [] => [[character]]
      | part :: parts => (character :: part) :: parts

/-- The parts of a path. -/
def parts (path : String) : List String :=
  (split path.toList).map String.ofList

/-- Whether a path starts at the top and not at the working directory. -/
def isAbsolute (path : String) : Bool :=
  path.toList.head? = some '/'

/-- Whether a part leads nowhere. -/
def isFiller (part : String) : Bool :=
  part = "" || part = "."

/-- A step on the way along a path. -/
inductive Component
  | root
  | current
  | parent
  | name (name : String)
  deriving DecidableEq, Repr

/-- The step of a part. -/
def component? (part : String) : Option Component :=
  if isFiller part then none
  else if part = ".." then some .parent
  else some (.name part)

/-- The steps of a path. Parts that lead nowhere are left out, except for a dot at the start. -/
def components (path : String) : List Component :=
  let steps := (parts path).filterMap component?
  if isAbsolute path then .root :: steps
  else if (parts path).head? = some "." then .current :: steps
  else steps

/-- Whether a character separates the parts of a path on some platform. -/
def isSeparator (character : Char) : Bool :=
  character = '/' || character = '\\'

/-- Whether a text is the name of a file or directory, and not a way through several of them. -/
def isPlainName (name : String) : Bool :=
  !name.toList.any isSeparator &&
    match components name with
    | [.name _] => true
    | _ => false

/-- The path of an entry of a directory. -/
def join (directory name : String) : String :=
  if directory.isEmpty || directory.toList.getLast? = some '/' then
    directory ++ name
  else
    directory ++ "/" ++ name

/-- Parts in reverse order, and all shorter ones that end in a name. -/
def namedEnds : List String → List (List String)
  | [] => []
  | part :: rest =>
    if isFiller part then namedEnds rest else (part :: rest) :: namedEnds rest

/-- Parts and those of the directories above, from the innermost to the outermost. -/
def ancestors (parts : List String) : List (List String) :=
  parts :: (namedEnds parts.reverse).tail.map List.reverse

/-- Parts without the slashes at their end. -/
def withoutEndSlashes (parts : List String) : List String :=
  (parts.reverse.dropWhile (· == "")).reverse

end Path

end SchemaCompiler
