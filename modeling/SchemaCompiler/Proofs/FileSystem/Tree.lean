import SchemaCompiler.FileSystem.Tree
import SchemaCompiler.Proofs.KeyedList
import SchemaCompiler.Proofs.Path

/-!
# What operations on file trees change

A path that can be followed leads to the same place in every tree, because a step either fails or
goes where its part says. So a path is followed in a later tree as in an earlier one as long as
directories stay directories. Creating directories adds directories and nothing else, whether it
succeeds or stops on the way; writing a text changes the node of one place.
-/

namespace SchemaCompiler

namespace FileTree

variable {tree before after : FileTree} {place target : Place} {path : String}

/-! ## Nodes -/

theorem setNode_eq_put (place : Place) (node : FileNode) (nodes : List (Place × FileNode)) :
    setNode place node nodes = Keyed.put Prod.fst (place, node) nodes := by
  induction nodes with
  | nil => rfl
  | cons entry rest ih => simp only [setNode, Keyed.put, ih]

@[simp]
theorem node?_top (tree : FileTree) : tree.node? [] = some .directory :=
  rfl

theorem node?_withNode {node : FileNode} (below : place ≠ []) (other : Place) :
    (tree.withNode place node).node? other =
      if other = place then some node else tree.node? other := by
  by_cases top : other = []
  · subst top
    simp [Ne.symm below]
  · simp [node?, top, withNode, setNode_eq_put, Keyed.lookup_put]

/-! ## Following paths -/

/-- The place to which a path leads if it can be followed. -/
def destination (tree : FileTree) (path : String) : Place :=
  (Path.parts path).foldl step (tree.start path)

theorem step_of_isPlainName {name : String} (plain : Path.isPlainName name) (place : Place) :
    step place name = place ++ [name] := by
  have plain_parts := Path.isPlainName_iff.mp plain
  simp [step, Path.isFiller, plain_parts]

/-- The path of an entry goes by parts to the directory, and then by the name of the entry. -/
theorem exists_parts_join (tree : FileTree) (directory : String) {name : String}
    (plain : Path.isPlainName name) :
    ∃ leading, Path.parts (Path.join directory name) = leading ++ [name] ∧
      leading.foldl step (tree.start (Path.join directory name)) = tree.destination directory := by
  have noSlash := Path.not_mem_of_isPlainName plain
  rcases Path.parts_join directory noSlash with ⟨leading, directory_parts, join_parts⟩
  have same_start : tree.start (Path.join directory name) = tree.start directory := by
    rw [start, Path.isAbsolute_join directory noSlash, start]
  refine ⟨leading, join_parts, ?_⟩
  rw [same_start]
  rcases directory_parts with leads | slashed
  · rw [destination, leads]
  · rw [destination, slashed, List.foldl_append]
    rfl

/-- The path of an entry leads to its name below the directory. -/
theorem destination_join (tree : FileTree) (directory : String) {name : String}
    (plain : Path.isPlainName name) :
    tree.destination (Path.join directory name) = tree.destination directory ++ [name] := by
  rcases exists_parts_join tree directory plain with ⟨leading, join_parts, leads⟩
  rw [destination, join_parts, List.foldl_append, leads]
  exact step_of_isPlainName plain _

theorem walk_eq_foldl {parts : List String} (walked : tree.walk place parts = .ok target) :
    target = parts.foldl step place := by
  induction parts generalizing place with
  | nil => exact (Except.ok.inj walked).symm
  | cons part rest ih =>
      simp only [walk] at walked
      split at walked
      · cases walked
      · cases walked
      · split at walked
        · cases walked
        · exact ih walked

theorem node?_of_walk_concat {leading : List String} {part : String}
    (walked : tree.walk place (leading ++ [part]) = .ok target) :
    tree.node? (leading.foldl step place) = some .directory := by
  induction leading generalizing place with
  | nil =>
      simp only [List.nil_append, walk] at walked
      split at walked
      · cases walked
      · cases walked
      · assumption
  | cons next leading ih =>
      simp only [List.cons_append, walk] at walked
      split at walked
      · cases walked
      · cases walked
      · split at walked
        · cases walked
        · exact ih walked

theorem walk_of_locate (located : tree.locate path = .ok place) :
    tree.walk (tree.start path) (Path.parts path) = .ok place := by
  simp only [locate] at located
  cases checked : checkPath path with
  | error fault => simp [checked, bind, Except.bind] at located
  | ok _ => simpa only [checked, bind, Except.bind] using located

theorem locate_eq_destination (located : tree.locate path = .ok place) :
    place = tree.destination path :=
  walk_eq_foldl (walk_of_locate located)

/-- An entry can only be found below a directory. -/
theorem node?_destination_of_locate_join {directory name : String}
    (plain : Path.isPlainName name)
    (located : tree.locate (Path.join directory name) = .ok place) :
    tree.node? (tree.destination directory) = some .directory := by
  rcases exists_parts_join tree directory plain with ⟨leading, join_parts, leads⟩
  have walked := walk_of_locate located
  rw [join_parts] at walked
  rw [← leads]
  exact node?_of_walk_concat walked

/-- Different names lead to different entries of a directory. -/
theorem name_eq_of_locate_join {directory name other : String} (plain : Path.isPlainName name)
    (otherPlain : Path.isPlainName other)
    (located : tree.locate (Path.join directory name) = .ok place)
    (otherLocated : tree.locate (Path.join directory other) = .ok place) : name = other := by
  have name_place := locate_eq_destination located
  have other_place := locate_eq_destination otherLocated
  rw [destination_join tree directory plain] at name_place
  rw [destination_join tree directory otherPlain] at other_place
  simpa using name_place.symm.trans other_place

theorem readText_eq_ok_iff {text : String} :
    tree.readText path = .ok text ↔
      ∃ place, tree.locate path = .ok place ∧ tree.node? place = some (.file text) := by
  simp only [readText, bind, Except.bind]
  cases located : tree.locate path with
  | error fault => simp
  | ok place =>
      cases found : tree.node? place with
      | none => simp [found]
      | some node => cases node <;> simp [found]

/-! ## Trees that keep their directories -/

/-- All directories of a tree are directories of a later one, in which paths start at the same
place. -/
structure Keeps (before after : FileTree) : Prop where
  workingPlace : after.workingPlace = before.workingPlace
  directories : ∀ {place}, before.node? place = some .directory →
    after.node? place = some .directory

theorem Keeps.refl (tree : FileTree) : Keeps tree tree :=
  ⟨rfl, id⟩

theorem Keeps.trans {between : FileTree} (earlier : Keeps before between)
    (later : Keeps between after) : Keeps before after :=
  ⟨later.workingPlace.trans earlier.workingPlace,
    fun directory => later.directories (earlier.directories directory)⟩

theorem Keeps.start (keeps : Keeps before after) (path : String) :
    after.start path = before.start path := by
  simp [FileTree.start, keeps.workingPlace]

theorem Keeps.walk (keeps : Keeps before after) {parts : List String}
    (walked : before.walk place parts = .ok target) : after.walk place parts = .ok target := by
  induction parts generalizing place with
  | nil => exact walked
  | cons part rest ih =>
      simp only [FileTree.walk] at walked ⊢
      cases found : before.node? place with
      | none => simp [found] at walked
      | some node =>
          cases node with
          | file content => simp [found] at walked
          | directory =>
              simp only [found] at walked
              simp only [keeps.directories found]
              split at walked
              · cases walked
              · rename_i fits
                rw [if_neg fits]
                exact ih walked

/-- A path is followed in the later tree as in the earlier one. -/
theorem Keeps.locate (keeps : Keeps before after) (located : before.locate path = .ok place) :
    after.locate path = .ok place := by
  simp only [FileTree.locate] at located ⊢
  cases checked : checkPath path with
  | error fault => simp [checked, bind, Except.bind] at located
  | ok _ =>
      simp only [checked, bind, Except.bind] at located ⊢
      rw [keeps.start]
      exact keeps.walk located

/-! ## Creating directories -/

/-- A later tree has more directories, and the same files. -/
structure AddsDirectories (before after : FileTree) : Prop extends Keeps before after where
  files : ∀ {place content}, after.node? place = some (.file content) ↔
    before.node? place = some (.file content)

theorem AddsDirectories.refl (tree : FileTree) : AddsDirectories tree tree :=
  ⟨.refl tree, Iff.rfl⟩

theorem AddsDirectories.trans {between : FileTree} (earlier : AddsDirectories before between)
    (later : AddsDirectories between after) : AddsDirectories before after :=
  ⟨earlier.toKeeps.trans later.toKeeps, later.files.trans earlier.files⟩

theorem addsDirectories_withNode (free : tree.node? place = none) :
    AddsDirectories tree (tree.withNode place .directory) := by
  have below : place ≠ [] := by
    rintro rfl
    simp at free
  refine ⟨⟨rfl, ?_⟩, ?_⟩
  · intro other found
    rw [node?_withNode below]
    split
    · rfl
    · exact found
  · intro other content
    rw [node?_withNode below]
    split
    · rename_i same
      simp [same, free]
    · exact Iff.rfl

theorem addsDirectories_createDirectory {parts : List String}
    (created : tree.createDirectory place parts = .ok after) : AddsDirectories tree after := by
  simp only [createDirectory, bind, Except.bind] at created
  split at created
  · cases created
  · split at created
    · cases created
    · rename_i free
      cases created
      exact addsDirectories_withNode (by simpa using free)

/-- An action goes on after another one if that succeeds. -/
theorem run_bind {α β : Type} (first : ExceptT FileFault (StateM FileTree) α)
    (next : α → ExceptT FileFault (StateM FileTree) β) (tree : FileTree) :
    ((first >>= next).run.run tree : Id _) =
      match (first.run.run tree : Id _) with
      | (.ok value, between) => (next value).run.run between
      | (.error fault, between) => (.error fault, between) := by
  rw [ExceptT.run_bind, StateT.run_bind]
  rcases (first.run.run tree : Id _) with ⟨fault | value, between⟩ <;> rfl

/-- An action adds directories to a tree and changes nothing else, also when it fails. -/
def OnlyAdds {α : Type} (tree : FileTree) (action : ExceptT FileFault (StateM FileTree) α) : Prop :=
  AddsDirectories tree (action.run.run tree : Id (Except FileFault α × FileTree)).2

section OnlyAdds

variable {α β : Type}

theorem onlyAdds_pure (value : α) : OnlyAdds tree (pure value) :=
  .refl tree

theorem onlyAdds_throw (fault : FileFault) :
    OnlyAdds tree (throw fault : ExceptT FileFault (StateM FileTree) α) :=
  .refl tree

theorem onlyAdds_liftExcept (outcome : Except FileFault α) :
    OnlyAdds tree (liftM outcome : ExceptT FileFault (StateM FileTree) α) := by
  cases outcome <;> exact .refl tree

theorem onlyAdds_set (adds : AddsDirectories tree after) :
    OnlyAdds tree (set after : ExceptT FileFault (StateM FileTree) PUnit) :=
  adds

theorem onlyAdds_get_bind {next : FileTree → ExceptT FileFault (StateM FileTree) α}
    (adds : OnlyAdds tree (next tree)) : OnlyAdds tree (get >>= next) :=
  adds

theorem OnlyAdds.bind {first : ExceptT FileFault (StateM FileTree) α}
    {next : α → ExceptT FileFault (StateM FileTree) β} (adds : OnlyAdds tree first)
    (nextAdds : ∀ value between, OnlyAdds between (next value)) :
    OnlyAdds tree (first >>= next) := by
  rw [OnlyAdds] at adds
  rw [OnlyAdds, run_bind]
  rcases ran : (first.run.run tree : Id _) with ⟨fault | value, between⟩
  · rwa [ran] at adds
  · rw [ran] at adds
    exact adds.trans (nextAdds value between)

end OnlyAdds

/-- Directories are added one by one, and what was added stays when a later step fails. -/
theorem onlyAdds_createFirst (place : Place) (candidates : List (List String)) (tree : FileTree) :
    OnlyAdds tree (createFirst place candidates) := by
  induction candidates generalizing tree with
  | nil => exact onlyAdds_pure ()
  | cons parts above ih =>
      have settles : ∀ (fault : FileFault) (current : FileTree),
          OnlyAdds current (do
            if (← get).isDirectory place parts then pure () else throw fault) := by
        intro fault current
        apply onlyAdds_get_bind
        split
        · exact onlyAdds_pure ()
        · exact onlyAdds_throw fault
      rw [createFirst]
      apply onlyAdds_get_bind
      split
      · rename_i created
        exact onlyAdds_set (addsDirectories_createDirectory created)
      -- The directories above were missing, and are created before the second try.
      · refine (ih tree).bind fun _ between => ?_
        apply onlyAdds_get_bind
        split
        · rename_i created
          exact onlyAdds_set (addsDirectories_createDirectory created)
        · exact settles _ between
      · exact settles _ tree

theorem onlyAdds_createDirectories (path : String) (tree : FileTree) :
    OnlyAdds tree (createDirectories path) := by
  rw [createDirectories]
  split
  · exact onlyAdds_pure ()
  · refine (onlyAdds_liftExcept (checkPath path)).bind fun _ between => ?_
    apply onlyAdds_get_bind
    exact onlyAdds_createFirst _ _ between

/-! ## Writing a text -/

/-- The text of a file after a text is written to it. -/
def written (tree : FileTree) (place : Place) (text : String) (append : Bool) : String :=
  match tree.node? place, append with
  | some (.file old), true => old ++ text
  | _, _ => text

/-- A later tree has a file at a place and is the same everywhere else. -/
structure Writes (before : FileTree) (place : Place) (content : String) (after : FileTree) :
    Prop extends Keeps before after where
  node_eq : after.node? place = some (.file content)
  others : ∀ {other}, other ≠ place → after.node? other = before.node? other

theorem writes_withNode (noDirectory : tree.node? place ≠ some .directory) (content : String) :
    Writes tree place content (tree.withNode place (.file content)) := by
  have below : place ≠ [] := by
    rintro rfl
    simp at noDirectory
  refine ⟨⟨rfl, ?_⟩, ?_, ?_⟩
  · intro other found
    rw [node?_withNode below, if_neg]
    · exact found
    · rintro rfl
      exact noDirectory found
  · rw [node?_withNode below, if_pos rfl]
  · intro other apart
    rw [node?_withNode below, if_neg apart]

/-- A text that can be written goes to the place of the path. -/
theorem writes_of_writeText {text : String} {append : Bool} {size : Nat}
    (wrote : tree.writeText path text append = .ok (after, size)) :
    ∃ place, tree.locate path = .ok place ∧
      Writes tree place (tree.written place text append) after ∧
      size = (tree.written place text append).utf8ByteSize := by
  simp only [writeText, bind, Except.bind] at wrote
  cases located : tree.locate path with
  | error fault => simp [located] at wrote
  | ok place =>
      simp only [located] at wrote
      refine ⟨place, rfl, ?_⟩
      cases found : tree.node? place with
      | none =>
          simp only [found] at wrote
          cases wrote
          have content_eq : tree.written place text append = text := by simp [written, found]
          rw [content_eq]
          exact ⟨writes_withNode (by simp [found]) text, rfl⟩
      | some node =>
          cases node with
          | directory => simp [found] at wrote
          | file old =>
              simp only [found] at wrote
              cases wrote
              have content_eq : tree.written place text append =
                  if append then old ++ text else text := by
                cases append <;> simp [written, found]
              rw [content_eq]
              exact ⟨writes_withNode (by simp [found]) _, rfl⟩

end FileTree

end SchemaCompiler
