import SchemaCompiler.Proofs.Artifact.Directory

/-!
# Artifacts stay in their directory

A directory takes an artifact exactly if its name can name an entry of a directory. Then the file
is an entry of the root, below which no path leads, and no artifact of another name or nature has
the same file. A name that is not taken changes nothing, and no failure changes the results.

That a name is taken is decided on the steps of the name as a path; `Path.isPlainName_iff` says what
this means for its characters. Where the file stands follows from the parts of joined paths, and
that files are apart from the dot in front of an extension, which holds no dot itself.
-/

namespace SchemaCompiler

/-- A text that names an entry of a directory, be the separators slashes or backslashes. -/
def Path.NamesEntry (name : String) : Prop :=
  name ≠ "" ∧ name ≠ "." ∧ name ≠ ".." ∧ '/' ∉ name.toList ∧ '\\' ∉ name.toList

instance : DecidablePred Path.NamesEntry :=
  fun _ => inferInstanceAs (Decidable (_ ∧ _))

namespace TextArtifact

variable {artifact other : TextArtifact} {name otherName : String}

/-- The name and the nature of an artifact can be told from the name of its file. -/
theorem eq_of_fileName_eq (same : artifact.fileName name = other.fileName otherName) :
    name = otherName ∧ artifact.nature = other.nature := by
  have name_eq := name_eq_of_fileName_eq same
  refine ⟨name_eq, ?_⟩
  have extension_eq : artifact.nature.extension = other.nature.extension := by
    rw [fileName, fileName, name_eq] at same
    rw [← String.toList_inj]
    simpa using congrArg String.toList same
  revert extension_eq
  cases artifact.nature <;> cases other.nature <;> simp [ArtifactNature.extension]

end TextArtifact

namespace DirectoryStore

open FileTree (AddsDirectories Writes)
open DirectoryRun (execute)

variable {store final : DirectoryStore} {tree after : FileTree} {call other : PersistCall}

/-- Where the file for a call stands: directly below the root. -/
def place (store : DirectoryStore) (tree : FileTree) (call : PersistCall) : Place :=
  tree.destination store.root ++ [call.artifact.fileName call.name]

theorem eq_of_place_eq (same : store.place tree other = store.place tree call) :
    other.name = call.name ∧ other.artifact.nature = call.artifact.nature := by
  have names_eq : other.artifact.fileName other.name = call.artifact.fileName call.name := by
    simpa [place] using same
  exact TextArtifact.eq_of_fileName_eq names_eq

theorem place_congr (root_eq : final.root = store.root)
    (start_eq : after.workingPlace = tree.workingPlace) (call : PersistCall) :
    final.place after call = store.place tree call := by
  simp [place, FileTree.destination, FileTree.start, root_eq, start_eq]

/-- A file is written to its place, of which the root is the directory above. -/
structure WritesEntry (store : DirectoryStore) (tree : FileTree) (call : PersistCall)
    (result : PersistResult) (after : FileTree) : Prop where
  /-- Only directories are added before. -/
  writes : ∃ between content, AddsDirectories tree between ∧
    Writes between (store.place tree call) content after ∧
    result = ⟨call.name, store.path call, content.utf8ByteSize⟩
  located : after.locate (store.path call) = .ok (store.place tree call)
  root : after.node? (tree.destination store.root) = some .directory

theorem writesEntry_of_writeText {between : FileTree} {text : String} {append : Bool} {bytes : Nat}
    (plain : Path.isPlainName call.name) (adds : AddsDirectories tree between)
    (wrote : between.writeText (store.path call) text append = .ok (after, bytes)) :
    store.WritesEntry tree call ⟨call.name, store.path call, bytes⟩ after := by
  have file_plain : Path.isPlainName (call.artifact.fileName call.name) :=
    TextArtifact.isPlainName_fileName plain
  rcases FileTree.writes_of_writeText wrote with ⟨place, located, writes, rfl⟩
  have same_start : between.destination store.root = tree.destination store.root := by
    rw [FileTree.destination, adds.toKeeps.start, FileTree.destination]
  have place_eq : place = store.place tree call := by
    rw [FileTree.locate_eq_destination located, path, FileTree.destination_join _ _ file_plain,
      same_start]
    rfl
  subst place_eq
  constructor
  · exact ⟨between, _, adds, writes, rfl⟩
  · exact writes.toKeeps.locate located
  · rw [← same_start]
    exact writes.directories (FileTree.node?_destination_of_locate_join file_plain located)

/-- What a call comes to: an answer, a store and a file tree. -/
inductive PersistsTo (store : DirectoryStore) (tree : FileTree) (call : PersistCall) :
    Except RunError PersistResult → DirectoryStore → FileTree → Prop
  /-- The name is refused before anything is done. -/
  | refused (unnamed : ¬Path.NamesEntry call.name) :
      PersistsTo store tree call (.error (.invalidArtifactName call.name)) store tree
  /-- A file operation fails, and some directories may have been added. -/
  | failed {fault : FileFault} {after : FileTree} (names : Path.NamesEntry call.name)
      (adds : AddsDirectories tree after) (faults : store.FaultsWith tree call fault after) :
      PersistsTo store tree call (.error (.persist call.name (store.path call) fault)) store after
  /-- The file is written. -/
  | written {result : PersistResult} {after : FileTree} (names : Path.NamesEntry call.name)
      (entry : store.WritesEntry tree call result after) :
      PersistsTo store tree call (.ok result) (store.recorded call result.bytes) after

theorem exists_persistsTo (store : DirectoryStore) (tree : FileTree) (call : PersistCall) :
    ∃ answer final after, execute call.persist store tree = ((answer, final), after) ∧
      PersistsTo store tree call answer final after := by
  by_cases plain : Path.isPlainName call.name
  · have names : Path.NamesEntry call.name := Path.isPlainName_iff.mp plain
    rcases execute_persist_cases plain store tree with
      ⟨fault, after, adds, faults, failed⟩ | ⟨between, after, bytes, adds, wrote, made⟩
    · exact ⟨_, _, _, failed, .failed names adds faults⟩
    · exact ⟨_, _, _, made, .written names (writesEntry_of_writeText plain adds wrote)⟩
  · have unnamed : ¬Path.NamesEntry call.name := Path.isPlainName_iff.not.mp plain
    exact ⟨_, _, _, execute_persist_of_not_plain (by simpa using plain) store tree,
      .refused unnamed⟩

namespace PersistsTo

variable {answer : Except RunError PersistResult}

theorem refused_iff (outcome : PersistsTo store tree call answer final after) :
    (∃ name, answer = .error (.invalidArtifactName name)) ↔ ¬Path.NamesEntry call.name := by
  cases outcome with
  | refused unnamed => simp [unnamed]
  | failed names => simp [names]
  | written names => simp [names]

/-- Every call leaves the places of files where they were. -/
theorem place_eq (outcome : PersistsTo store tree call answer final after) (other : PersistCall) :
    final.place after other = store.place tree other := by
  cases outcome with
  | refused => rfl
  | failed _ adds => exact place_congr rfl adds.workingPlace other
  | written _ entry =>
      rcases entry.writes with ⟨between, _, adds, writes, _⟩
      exact place_congr rfl (writes.workingPlace.trans adds.workingPlace) other

theorem store_eq_of_error {error : RunError}
    (outcome : PersistsTo store tree call (.error error) final after) : final = store := by
  cases outcome <;> rfl

end PersistsTo

end DirectoryStore

end SchemaCompiler
