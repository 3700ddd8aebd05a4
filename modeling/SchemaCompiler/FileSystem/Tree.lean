import SchemaCompiler.FileSystem
import SchemaCompiler.Path

/-!
# File trees

A file tree is a file system as a value, in which runs can be studied without any effect. Paths are
followed part by part: every step has to start in a directory.
-/

namespace SchemaCompiler

/-- Where something stands in a file tree: the names on the way down from the top. -/
abbrev Place := List String

/-- What stands at a place. -/
inductive FileNode
  | directory
  | file (content : String)
  deriving DecidableEq, Repr

/-- A tree of directories and text files. -/
structure FileTree where
  /-- What stands below the top, in order of creation. -/
  nodes : List (Place × FileNode) := []
  /-- Where relative paths start. -/
  workingPlace : Place := []
  deriving DecidableEq, Repr

namespace FileTree

/-- What stands at a place. The top is a directory. -/
def node? (tree : FileTree) (place : Place) : Option FileNode :=
  if place.isEmpty then some .directory else tree.nodes.lookup place

/-- Puts a node at the place of another one, or at the end. -/
def setNode (place : Place) (node : FileNode) : List (Place × FileNode) → List (Place × FileNode)
  | [] => [(place, node)]
  | (other, old) :: rest =>
    if other = place then
      (place, node) :: rest
    else
      (other, old) :: setNode place node rest

/-- The tree with a node at a place. -/
def withNode (tree : FileTree) (place : Place) (node : FileNode) : FileTree :=
  { tree with nodes := setNode place node tree.nodes }

/-- The greatest size of a name in bytes. -/
def maxNameSize : Nat := 255

/-- The greatest size of a path in bytes. -/
def maxPathSize : Nat := 4095

/-- The place to which a part of a path leads. -/
def step (place : Place) (part : String) : Place :=
  if Path.isFiller part then place
  else if part = ".." then place.dropLast
  else place ++ [part]

/-- The place to which parts lead from a place. Every step starts in a directory. -/
def walk (tree : FileTree) (place : Place) : List String → Except FileFault Place
  | [] => .ok place
  | part :: rest =>
    match tree.node? place with
    | none => .error .notFound
    | some (.file _) => .error .notDirectory
    | some .directory =>
      if maxNameSize < part.utf8ByteSize then
        .error .nameTooLong
      else
        tree.walk (step place part) rest

/-- Checks that a text can be a path at all. -/
def checkPath (path : String) : Except FileFault Unit :=
  if path.isEmpty then .error .notFound
  else if path.toList.contains '\x00' then .error .nulInName
  else if maxPathSize < path.utf8ByteSize then .error .nameTooLong
  else .ok ()

/-- Where a path starts. -/
def start (tree : FileTree) (path : String) : Place :=
  if Path.isAbsolute path then [] else tree.workingPlace

/-- The place of a path. Nothing need stand there. -/
def locate (tree : FileTree) (path : String) : Except FileFault Place := do
  checkPath path
  tree.walk (tree.start path) (Path.parts path)

/-- The text of the file at a path. -/
def readText (tree : FileTree) (path : String) : Except FileFault String := do
  match tree.node? (← tree.locate path) with
  | none => .error .notFound
  | some .directory => .error .isDirectory
  | some (.file content) => .ok content

/-- Whether something stands at a path. -/
def pathExists (tree : FileTree) (path : String) : Bool :=
  match tree.locate path with
  | .ok place => (tree.node? place).isSome
  | .error _ => false

/-- Whether parts lead to a directory. -/
def isDirectory (tree : FileTree) (place : Place) (parts : List String) : Bool :=
  match tree.walk place parts with
  | .ok place => tree.node? place = some .directory
  | .error _ => false

/-- Creates a directory at the end of the parts of a path. -/
def createDirectory (tree : FileTree) (place : Place) (parts : List String) :
    Except FileFault FileTree := do
  let place ← tree.walk place (Path.withoutEndSlashes parts)
  if (tree.node? place).isSome then
    .error .alreadyExists
  else
    .ok (tree.withNode place .directory)

/-- Creates the first of some directories, each of which is followed by those above it. What was
created stays when a later step fails. -/
def createFirst (place : Place) : List (List String) → ExceptT FileFault (StateM FileTree) Unit
  | [] => pure ()
  | parts :: above => do
    let settle (fault : FileFault) : ExceptT FileFault (StateM FileTree) Unit := do
      if (← get).isDirectory place parts then pure () else throw fault
    match (← get).createDirectory place parts with
    | .ok tree => set tree
    | .error .notFound =>
      createFirst place above
      match (← get).createDirectory place parts with
      | .ok tree => set tree
      | .error fault => settle fault
    | .error fault => settle fault

/-- Creates the directory at a path, and those above it that are missing. -/
def createDirectories (path : String) : ExceptT FileFault (StateM FileTree) Unit := do
  if path.isEmpty then
    pure ()
  else
    checkPath path
    createFirst ((← get).start path) (Path.ancestors (Path.parts path))

/-- Writes a text in place of the file at a path, or at its end, and gives its size in bytes. -/
def writeText (tree : FileTree) (path text : String) (append : Bool) :
    Except FileFault (FileTree × Nat) := do
  let place ← tree.locate path
  let content ←
    match tree.node? place with
    | some .directory => .error .isDirectory
    | some (.file old) => .ok (if append then old ++ text else text)
    | none => .ok text
  return (tree.withNode place (.file content), content.utf8ByteSize)

instance : FileSystem (StateM FileTree) where
  readText path tree := (tree.readText path, tree)
  pathExists path tree := (tree.pathExists path, tree)
  createDirectories path := (createDirectories path).run
  writeText path text append tree :=
    match tree.writeText path text append with
    | .ok (tree, size) => (.ok size, tree)
    | .error fault => (.error fault, tree)

/-- The directories above a place, from the top downwards. -/
def directoriesAbove : Place → List (Place × FileNode)
  | [] => []
  | name :: rest =>
    ([name], .directory) :: (directoriesAbove rest).map fun (place, node) => (name :: place, node)

/-- Adds a file, with the directories above it. A path that ends in a slash is a directory. What
cannot be added is left out. -/
def addFile (tree : FileTree) (path content : String) : FileTree :=
  let directory := "/".intercalate (Path.parts path).dropLast
  let tree := ((createDirectories directory).run.run tree).2
  match tree.writeText path content false with
  | .ok (tree, _) => tree
  | .error _ => tree

/-- A tree of files, whose paths start at a working place. -/
def ofFiles (workingPlace : Place) (files : List (String × String)) : FileTree :=
  files.foldl (fun tree (path, content) => tree.addFile path content)
    ⟨directoriesAbove workingPlace, workingPlace⟩

/-- The path of a place below the working place. -/
def relativePath? (tree : FileTree) (place : Place) : Option String :=
  if tree.workingPlace.isPrefixOf place then
    some ("/".intercalate (place.drop tree.workingPlace.length))
  else
    none

/-- The files below the working place that another tree does not hold with the same text. -/
def filesNotIn (tree other : FileTree) : List (String × String) :=
  tree.nodes.filterMap fun (place, node) =>
    match node with
    | .directory => none
    | .file content =>
      if other.node? place = some node then
        none
      else
        (tree.relativePath? place).map (·, content)

end FileTree

end SchemaCompiler
