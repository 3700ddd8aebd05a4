/-!
# File systems

What a run asks of a file system: it reads models and settings, and writes artifacts.
-/

namespace SchemaCompiler

/-- Why a file could not be read or written. -/
inductive FileFault
  | notFound
  | alreadyExists
  | notDirectory
  | isDirectory
  | nameTooLong
  /-- The path contains the character NUL. -/
  | nulInName
  /-- The bytes of the file are not UTF-8. -/
  | notText
  | other (message : String)
  deriving DecidableEq, Repr

namespace FileFault

/-- The message of a fault. -/
def message : FileFault → String
  | .notFound => "No such file or directory (os error 2)"
  | .alreadyExists => "File exists (os error 17)"
  | .notDirectory => "Not a directory (os error 20)"
  | .isDirectory => "Is a directory (os error 21)"
  | .nameTooLong => "File name too long (os error 36)"
  | .nulInName => "file name contained an unexpected NUL byte"
  | .notText => "stream did not contain valid UTF-8"
  | .other message => message

end FileFault

/-- A monad in which text files can be read and written. -/
class FileSystem (m : Type → Type) where
  /-- The text of a file. -/
  readText : String → m (Except FileFault String)
  /-- Whether there is a file or directory at a path. -/
  pathExists : String → m Bool
  /-- Creates a directory, and those above it that are missing. -/
  createDirectories : String → m (Except FileFault Unit)
  /-- Writes a text in place of a file, or at its end, and gives the size of the file in bytes. -/
  writeText (path text : String) (append : Bool) : m (Except FileFault Nat)

end SchemaCompiler
