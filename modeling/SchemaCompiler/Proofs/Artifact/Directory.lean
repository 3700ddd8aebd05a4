import SchemaCompiler.Artifact.Directory
import SchemaCompiler.Proofs.Artifact.Memory
import SchemaCompiler.Proofs.FileSystem.Tree

/-!
# A directory holds what memory would hold

The same calls are made to a directory and to a store in memory. As long as no file operation fails,
every file of the directory has the text that memory has for its name, and the results tell the same
sizes in the same order.

The two stores decide differently what becomes of an earlier text. Memory looks for the text. The
directory looks for a result, and appends to its file or cuts it, whatever stood there before the
run. The invariant `Mirrors` makes these the same question: the names of the results are the names
in memory, and the file of such a name holds the text of memory. Files do not get into each other's
way because the name of an artifact can be told from the name of its file.
-/

namespace SchemaCompiler

/-! ## Names of files -/

namespace TextArtifact

variable {artifact other : TextArtifact} {name otherName : String}

/-- The file of an artifact with a plain name has a plain name. -/
theorem isPlainName_fileName (plain : Path.isPlainName name) :
    Path.isPlainName (artifact.fileName name) := by
  rcases Path.isPlainName_iff.mp plain with ⟨_, _, _, noSlash, noBackslash⟩
  have characters : (artifact.fileName name).toList =
      name.toList ++ '.' :: artifact.nature.extension.toList := by
    simp [fileName]
  have long : 3 < (artifact.fileName name).toList.length := by
    rw [characters]
    cases artifact.nature <;> simp [ArtifactNature.extension]
  have extension_plain : '/' ∉ artifact.nature.extension.toList ∧
      '\\' ∉ artifact.nature.extension.toList := by
    cases artifact.nature <;> decide
  rw [Path.isPlainName_iff]
  refine ⟨?_, ?_, ?_, ?_, ?_⟩
  · rintro short
    simp [short] at long
  · rintro short
    simp [short] at long
  · rintro short
    simp [short] at long
  · simp [characters, noSlash, extension_plain]
  · simp [characters, noBackslash, extension_plain]

/-- The last dot of a text parts it in one way only. -/
theorem append_dot_inj {left right other rest : List Char} (noDot : '.' ∉ right)
    (noOtherDot : '.' ∉ rest) (same : left ++ '.' :: right = other ++ '.' :: rest) :
    left = other := by
  rcases List.append_eq_append_iff.mp same with ⟨between, other_eq, right_eq⟩ |
    ⟨between, left_eq, rest_eq⟩
  · cases between with
    | nil => simp [other_eq]
    | cons character between =>
        simp only [List.cons_append, List.cons.injEq] at right_eq
        exact absurd (by simp [right_eq.2]) noDot
  · cases between with
    | nil => simp [left_eq]
    | cons character between =>
        simp only [List.cons_append, List.cons.injEq] at rest_eq
        exact absurd (by simp [rest_eq.2]) noOtherDot

theorem not_mem_extension (nature : ArtifactNature) : '.' ∉ nature.extension.toList := by
  cases nature <;> decide

/-- Artifacts of different names have different files. -/
theorem name_eq_of_fileName_eq (same : artifact.fileName name = other.fileName otherName) :
    name = otherName := by
  have same_characters := congrArg String.toList same
  simp only [fileName, String.toList_append] at same_characters
  rw [← String.toList_inj]
  refine append_dot_inj (not_mem_extension artifact.nature) (not_mem_extension other.nature) ?_
  simpa using same_characters

end TextArtifact

/-! ## Runs on a file tree -/

namespace DirectoryRun

variable {α β : Type}

/-- What an action answers, and the store and the file tree that it leaves. -/
def execute (action : DirectoryRun (StateM FileTree) α) (store : DirectoryStore)
    (tree : FileTree) : (Except RunError α × DirectoryStore) × FileTree :=
  ((action.run.run store).run tree : Id _)

theorem execute_get (store : DirectoryStore) (tree : FileTree) :
    execute get store tree = ((.ok store, store), tree) :=
  rfl

theorem execute_lift (action : StateM FileTree α) (store : DirectoryStore) (tree : FileTree) :
    execute (liftM action) store tree =
      ((.ok (action.run tree : Id _).1, store), (action.run tree : Id _).2) :=
  rfl

theorem execute_bind (first : DirectoryRun (StateM FileTree) α)
    (next : α → DirectoryRun (StateM FileTree) β) (store : DirectoryStore) (tree : FileTree) :
    execute (first >>= next) store tree =
      match execute first store tree with
      | ((.ok value, store), tree) => execute (next value) store tree
      | ((.error error, store), tree) => ((.error error, store), tree) := by
  rw [execute, ExceptT.run_bind, StateT.run_bind, StateT.run_bind, execute]
  rcases (StateT.run (first.run.run store) tree : Id _) with
    ⟨⟨error | value, store⟩, tree⟩ <;> rfl

end DirectoryRun

namespace DirectoryStore

open FileTree (AddsDirectories)
open DirectoryRun (execute)

variable {store : DirectoryStore} {tree : FileTree} {call : PersistCall}

theorem run_writeTo (root path text : String) (append : Bool) (tree : FileTree) :
    ((writeTo root path text append : ExceptT FileFault (StateM FileTree) Nat).run.run tree :
        Id _) =
      match ((FileTree.createDirectories root).run.run tree : Id _) with
      | (.error fault, between) => (.error fault, between)
      | (.ok _, between) =>
        match between.writeText path text append with
        | .ok (after, bytes) => (.ok bytes, after)
        | .error fault => (.error fault, between) := by
  have create_eq : (ExceptT.mk (FileSystem.createDirectories root) :
      ExceptT FileFault (StateM FileTree) Unit) = FileTree.createDirectories root := rfl
  rw [writeTo, FileTree.run_bind, create_eq]
  rcases ((FileTree.createDirectories root).run.run tree : Id _) with ⟨fault | _, between⟩
  · rfl
  · rcases wrote : between.writeText path text append with fault | ⟨after, bytes⟩ <;>
      simp [FileSystem.writeText, ExceptT.mk, ExceptT.run, StateT.run, wrote]

/-- The path of the file for a call. -/
def path (store : DirectoryStore) (call : PersistCall) : String :=
  Path.join store.root (call.artifact.fileName call.name)

/-- The text that a call writes. -/
def textFor (store : DirectoryStore) (call : PersistCall) : String :=
  store.addition call.name call.artifact.text call.mode

/-- The store after a call whose file has a size then. -/
def recorded (store : DirectoryStore) (call : PersistCall) (bytes : Nat) : DirectoryStore :=
  { store with
    results := PersistResult.record ⟨call.name, store.path call, bytes⟩ store.results }

/-- A name that is not plain is refused before anything is done. -/
theorem execute_persist_of_not_plain (notPlain : Path.isPlainName call.name = false)
    (store : DirectoryStore) (tree : FileTree) :
    execute call.persist store tree =
      ((.error (.invalidArtifactName call.name), store), tree) := by
  simp only [PersistCall.persist, ArtifactSink.persist, persist, notPlain, Bool.not_false, if_true]
  rfl

theorem execute_persist (plain : Path.isPlainName call.name) (store : DirectoryStore)
    (tree : FileTree) :
    execute call.persist store tree =
      match ((writeTo store.root (store.path call) (store.textFor call)
          (store.appends call.name call.mode) :
            ExceptT FileFault (StateM FileTree) Nat).run.run tree : Id _) with
      | (.error fault, after) =>
        ((.error (.persist call.name (store.path call) fault), store), after)
      | (.ok bytes, after) =>
        ((.ok ⟨call.name, store.path call, bytes⟩, store.recorded call bytes), after) := by
  -- The check of the name falls away, and what is left is decided by writing the file.
  simp only [PersistCall.persist, ArtifactSink.persist, persist, plain, Bool.not_true,
    Bool.false_eq_true, if_false, DirectoryRun.execute_bind, DirectoryRun.execute_get,
    DirectoryRun.execute_lift, path, textFor]
  rcases ((writeTo store.root _ _ _ : ExceptT FileFault (StateM FileTree) Nat).run.run tree :
    Id _) with ⟨fault | bytes, after⟩ <;> rfl

/-- One of the two file operations of a call fails, and leaves a file tree: either the directory
cannot be created, or the text cannot be written to its file. -/
def FaultsWith (store : DirectoryStore) (tree : FileTree) (call : PersistCall) (fault : FileFault)
    (after : FileTree) : Prop :=
  ((FileTree.createDirectories store.root).run.run tree : Id _) = (.error fault, after) ∨
    ((FileTree.createDirectories store.root).run.run tree : Id _) = (.ok (), after) ∧
      after.writeText (store.path call) (store.textFor call) (store.appends call.name call.mode) =
        .error fault

/-- A call with a plain name either fails with a file operation, or writes its text after some
directories are added and records the size of the file. -/
theorem execute_persist_cases (plain : Path.isPlainName call.name) (store : DirectoryStore)
    (tree : FileTree) :
    (∃ fault after, AddsDirectories tree after ∧ store.FaultsWith tree call fault after ∧
      execute call.persist store tree =
        ((.error (.persist call.name (store.path call) fault), store), after)) ∨
    ∃ between after bytes, AddsDirectories tree between ∧
      between.writeText (store.path call) (store.textFor call)
        (store.appends call.name call.mode) = .ok (after, bytes) ∧
      execute call.persist store tree =
        ((.ok ⟨call.name, store.path call, bytes⟩, store.recorded call bytes), after) := by
  have adds := FileTree.onlyAdds_createDirectories store.root tree
  rw [execute_persist plain, run_writeTo]
  rw [FileTree.OnlyAdds] at adds
  rcases created : ((FileTree.createDirectories store.root).run.run tree : Id _) with
    ⟨fault | _, between⟩
  · rw [created] at adds
    exact Or.inl ⟨fault, between, adds, Or.inl created, rfl⟩
  · rw [created] at adds
    rcases wrote : between.writeText (store.path call) (store.textFor call)
      (store.appends call.name call.mode) with fault | ⟨after, bytes⟩
    · refine Or.inl ⟨fault, between, adds, Or.inr ⟨created, wrote⟩, ?_⟩
      simp [wrote]
    · refine Or.inr ⟨between, after, bytes, adds, wrote, ?_⟩
      simp [wrote]

/-! ## Texts that are written -/

/-- If the directory has a result for a name exactly when there is an earlier text, and the file
has that text then, a call leaves in the file what it makes of the earlier text. -/
theorem written_textFor {place : Place} {earlier : Option String}
    (known : store.hasName call.name = earlier.isSome)
    (held : ∀ old, earlier = some old → tree.node? place = some (.file old)) :
    tree.written place (store.textFor call) (store.appends call.name call.mode) =
      call.mode.combine earlier call.artifact.text := by
  cases mode_eq : call.mode with
  | replace => simp [textFor, addition, appends, FileTree.written, PersistMode.combine, mode_eq]
  | append delimiter =>
      cases earlier with
      | none =>
          simp [textFor, addition, appends, FileTree.written, PersistMode.combine, mode_eq, known]
      | some old =>
          simp [textFor, addition, appends, FileTree.written, PersistMode.combine, mode_eq, known,
            held old rfl, String.append_assoc]

end DirectoryStore

/-! ## Directory and memory -/

/-- Calls whose names are plain, and which persist artifacts of one nature under a name. -/
structure WellNamed (calls : List PersistCall) : Prop where
  plain : ∀ call ∈ calls, Path.isPlainName call.name
  oneNature : ∀ call ∈ calls, ∀ other ∈ calls, call.name = other.name →
    call.artifact.nature = other.artifact.nature

theorem WellNamed.mono {calls fewer : List PersistCall} (named : WellNamed calls)
    (subset : ∀ call ∈ fewer, call ∈ calls) : WellNamed fewer where
  plain call call_mem := named.plain call (subset call call_mem)
  oneNature call call_mem other other_mem :=
    named.oneNature call (subset call call_mem) other (subset other other_mem)

theorem WellNamed.fileName_eq {calls : List PersistCall} (named : WellNamed calls)
    {call other : PersistCall} (call_mem : call ∈ calls) (other_mem : other ∈ calls)
    (same : call.name = other.name) :
    call.artifact.fileName call.name = other.artifact.fileName other.name := by
  simp [TextArtifact.fileName, same, named.oneNature call call_mem other other_mem same]

/-- The name and the size of what is held. -/
def PersistResult.measure (result : PersistResult) : String × Nat :=
  (result.logicalName, result.bytes)

theorem PersistResult.map_measure_put (result : PersistResult) (results : List PersistResult) :
    (Keyed.put (·.logicalName) result results).map (·.measure) =
      Keyed.put Prod.fst result.measure (results.map (·.measure)) :=
  Keyed.map_put (·.logicalName) Prod.fst measure (fun _ => rfl) result results

/-- A directory store and its file tree hold what memory holds after the same calls. -/
structure Mirrors (initial : FileTree) (root : String) (done : List PersistCall)
    (store : DirectoryStore) (tree : FileTree) : Prop where
  root_eq : store.root = root
  /-- The file of every name that was persisted has the text of the name. -/
  texts : ∀ call ∈ done, ∃ text,
    (MemoryStore.run {} done).text? call.name = some text ∧
      tree.readText (Path.join root (call.artifact.fileName call.name)) = .ok text
  /-- The results have the same names, order and sizes. -/
  results : store.results.map (·.measure) = (MemoryStore.run {} done).results.map (·.measure)
  /-- No other file is added, changed or removed. -/
  others : ∀ place content,
    (∀ call ∈ done,
      tree.locate (Path.join root (call.artifact.fileName call.name)) ≠ .ok place) →
    (tree.node? place = some (.file content) ↔ initial.node? place = some (.file content))

namespace Mirrors

open DirectoryRun (execute)

variable {initial tree : FileTree} {root : String} {done : List PersistCall}
  {store : DirectoryStore} {call : PersistCall}

theorem initially (tree : FileTree) (root : String) :
    Mirrors tree root [] ⟨root, []⟩ tree where
  root_eq := rfl
  texts := by simp
  results := rfl
  others _ _ _ := Iff.rfl

/-- The names of the directory are the names in memory. -/
theorem hasName_eq (mirrors : Mirrors initial root done store tree) (name : String) :
    store.hasName name = ((MemoryStore.run {} done).text? name).isSome := by
  have names_eq : store.results.map (·.logicalName) = (MemoryStore.run {} done).names := by
    have measured := congrArg (List.map Prod.fst) mirrors.results
    rw [List.map_map, List.map_map] at measured
    rw [← (MemoryStore.recorded_run done).map_logicalName]
    exact measured
  rw [Bool.eq_iff_iff, MemoryStore.text?_isSome_iff, ← names_eq]
  simp [DirectoryStore.hasName]

/-- The earlier text of a call is the text of its file. -/
theorem readText_of_text? (mirrors : Mirrors initial root done store tree)
    (named : WellNamed (done ++ [call])) {old : String}
    (text_eq : (MemoryStore.run {} done).text? call.name = some old) :
    tree.readText (store.path call) = .ok old := by
  have known : call.name ∈ (MemoryStore.run {} done).names := by
    simp [← MemoryStore.text?_isSome_iff, text_eq]
  rw [MemoryStore.names_run, List.mem_eraseDups, List.mem_map] at known
  rcases known with ⟨earlier, earlier_mem, same⟩
  rcases mirrors.texts earlier earlier_mem with ⟨text, earlier_text, read⟩
  have text_same : text = old := by
    rw [same, text_eq] at earlier_text
    exact (Option.some.inj earlier_text).symm
  rwa [DirectoryStore.path, mirrors.root_eq,
    ← named.fileName_eq (by simp [earlier_mem]) (by simp) same, ← text_same]

section Step

variable {between after : FileTree} {place : Place} {content : String}

theorem path_eq (mirrors : Mirrors initial root done store tree) (call : PersistCall) :
    store.path call = Path.join root (call.artifact.fileName call.name) := by
  rw [DirectoryStore.path, mirrors.root_eq]

/-- A call leaves in its file the text that it leaves in memory. -/
theorem written_eq (mirrors : Mirrors initial root done store tree)
    (named : WellNamed (done ++ [call])) (adds : FileTree.AddsDirectories tree between)
    (located : between.locate (store.path call) = .ok place) :
    between.written place (store.textFor call) (store.appends call.name call.mode) =
      call.mode.combine ((MemoryStore.run {} done).text? call.name) call.artifact.text := by
  apply DirectoryStore.written_textFor (mirrors.hasName_eq call.name)
  intro old text_eq
  rcases FileTree.readText_eq_ok_iff.mp (mirrors.readText_of_text? named text_eq) with
    ⟨earlierPlace, earlier_located, found⟩
  have same_place := adds.toKeeps.locate earlier_located
  rw [located] at same_place
  cases same_place
  exact adds.files.mpr found

/-- A call leaves the files of other names as they are. -/
theorem readText_other {other : PersistCall} {text : String}
    (named : WellNamed (done ++ [call])) (other_mem : other ∈ done)
    (differs : other.name ≠ call.name) (adds : FileTree.AddsDirectories tree between)
    (located : between.locate (Path.join root (call.artifact.fileName call.name)) = .ok place)
    (writes : between.Writes place content after)
    (read : tree.readText (Path.join root (other.artifact.fileName other.name)) = .ok text) :
    after.readText (Path.join root (other.artifact.fileName other.name)) = .ok text := by
  rcases FileTree.readText_eq_ok_iff.mp read with ⟨otherPlace, other_located, found⟩
  have still_located := adds.toKeeps.locate other_located
  have apart : otherPlace ≠ place := by
    rintro rfl
    have otherPlain := named.plain other (List.mem_append_left _ other_mem)
    have plain := named.plain call (List.mem_append_right _ (List.mem_singleton_self call))
    have same_file := FileTree.name_eq_of_locate_join
      (TextArtifact.isPlainName_fileName otherPlain) (TextArtifact.isPlainName_fileName plain)
      still_located located
    exact differs (TextArtifact.name_eq_of_fileName_eq same_file)
  refine FileTree.readText_eq_ok_iff.mpr
    ⟨otherPlace, writes.toKeeps.locate still_located, ?_⟩
  rw [writes.others apart]
  exact adds.files.mpr found

/-- A call that succeeds keeps the invariant. -/
theorem step {bytes : Nat} (mirrors : Mirrors initial root done store tree)
    (named : WellNamed (done ++ [call])) (adds : FileTree.AddsDirectories tree between)
    (wrote : between.writeText (store.path call) (store.textFor call)
      (store.appends call.name call.mode) = .ok (after, bytes)) :
    Mirrors initial root (done ++ [call]) (store.recorded call bytes) after := by
  rcases FileTree.writes_of_writeText wrote with ⟨place, located, writes, rfl⟩
  rw [mirrors.written_eq named adds located] at writes ⊢
  have call_mem : call ∈ done ++ [call] := by simp
  have path_eq := mirrors.path_eq call
  constructor
  · exact mirrors.root_eq
  · intro other other_mem
    rw [MemoryStore.run_append_singleton, MemoryStore.text?_persist]
    -- A call of the same name has the same file, which was just written.
    by_cases same : other.name = call.name
    · rw [if_pos same, named.fileName_eq other_mem call_mem same, ← path_eq]
      exact ⟨_, rfl, FileTree.readText_eq_ok_iff.mpr
        ⟨place, writes.toKeeps.locate located, writes.node_eq⟩⟩
    · have other_done : other ∈ done := by
        rcases List.mem_append.mp other_mem with earlier | last
        · exact earlier
        · exact absurd (congrArg PersistCall.name (List.mem_singleton.mp last)) same
      rcases mirrors.texts other other_done with ⟨text, text_eq, read⟩
      rw [path_eq] at located
      rw [if_neg same]
      exact ⟨text, text_eq, readText_other named other_done same adds located writes read⟩
  · rw [MemoryStore.run_append_singleton, MemoryStore.results_persist,
      PersistResult.map_measure_put, ← mirrors.results, DirectoryStore.recorded,
      PersistResult.record_eq_put]
    exact PersistResult.map_measure_put _ _
  · intro otherPlace content elsewhere
    have apart : otherPlace ≠ place := by
      rintro rfl
      refine elsewhere call call_mem ?_
      rw [← path_eq]
      exact writes.toKeeps.locate located
    rw [writes.others apart, adds.files]
    apply mirrors.others
    intro other other_mem other_located
    exact elsewhere other (List.mem_append_left _ other_mem)
      (writes.toKeeps.locate (adds.toKeeps.locate other_located))

end Step

/-- Calls either keep the invariant, or one of them fails at its file. -/
theorem run {calls : List PersistCall} (mirrors : Mirrors initial root done store tree)
    (named : WellNamed (done ++ calls)) :
    (∃ name path fault final after, execute (PersistCall.persistAll calls) store tree =
      ((.error (.persist name path fault), final), after)) ∨
    ∃ written final after, execute (PersistCall.persistAll calls) store tree =
      ((.ok written, final), after) ∧ Mirrors initial root (done ++ calls) final after := by
  -- The calls that were made grow as those that are left become fewer.
  induction calls generalizing done store tree with
  | nil =>
      rw [List.append_nil]
      exact Or.inr ⟨[], store, tree, rfl, mirrors⟩
  | cons call rest ih =>
      rw [List.append_cons] at named ⊢
      rw [PersistCall.persistAll_cons, DirectoryRun.execute_bind]
      have plain := named.plain call (by simp)
      rcases DirectoryStore.execute_persist_cases plain store tree with
        ⟨fault, after, _, _, failed⟩ | ⟨between, after, bytes, adds, wrote, made⟩
      · rw [failed]
        exact Or.inl ⟨_, _, fault, store, after, rfl⟩
      · rw [made]
        have named_first := named.mono fun other => List.mem_append_left rest
        simp only [DirectoryRun.execute_bind]
        rcases ih (mirrors.step named_first adds wrote) named with
          ⟨name, path, fault, final, last, failed⟩ | ⟨written, final, last, ran, mirrored⟩
        · rw [failed]
          exact Or.inl ⟨name, path, fault, final, last, rfl⟩
        · rw [ran]
          exact Or.inr ⟨_ :: written, final, last, rfl, mirrored⟩

end Mirrors

namespace DirectoryStore

open DirectoryRun (execute)

/-- What fails after some calls fails after more of them. -/
theorem execute_persistAll_append {done rest : List PersistCall} {store final : DirectoryStore}
    {tree after : FileTree} {error : RunError}
    (failed : execute (PersistCall.persistAll done) store tree = ((.error error, final), after)) :
    execute (PersistCall.persistAll (done ++ rest)) store tree =
      ((.error error, final), after) := by
  rw [PersistCall.persistAll_append, DirectoryRun.execute_bind, failed]

/-- After every part of a run whose file operations succeed, the files of the directory have the
texts that memory has, the results agree in names, order and sizes, and no other file is changed,
whatever the directory held before. -/
theorem persistAll_refines_memory (root : String) (tree : FileTree) (calls : List PersistCall)
    (named : WellNamed calls)
    (succeed : ∀ name path fault,
      (execute (PersistCall.persistAll calls) ⟨root, []⟩ tree).1.1 ≠
        .error (.persist name path fault))
    (done : List PersistCall) (starts : done <+: calls) :
    ∃ written store after answers memory,
      execute (PersistCall.persistAll done) ⟨root, []⟩ tree =
        ((.ok written, store), after) ∧
      (PersistCall.persistAll done : StateM MemoryStore (List PersistResult)).run {} =
        (answers, memory) ∧
      (∀ call ∈ done, ∃ text, memory.text? call.name = some text ∧
        after.readText (Path.join root (call.artifact.fileName call.name)) = .ok text) ∧
      store.results.map (·.measure) = memory.results.map (·.measure) ∧
      ∀ place content,
        (∀ call ∈ done,
          after.locate (Path.join root (call.artifact.fileName call.name)) ≠ .ok place) →
        (after.node? place = some (.file content) ↔
          tree.node? place = some (.file content)) := by
  rcases starts with ⟨rest, rfl⟩
  have named_done := named.mono fun call => List.mem_append_left rest
  rcases MemoryStore.run_persistAll done {} with ⟨answers, remembered⟩
  rcases (Mirrors.initially tree root).run named_done with
    ⟨name, path, fault, final, after, failed⟩ | ⟨written, store, after, ran, mirrors⟩
  · refine absurd ?_ (succeed name path fault)
    rw [execute_persistAll_append failed]
  · exact ⟨written, store, after, answers, _, ran, remembered, mirrors.texts, mirrors.results,
      mirrors.others⟩

/-- A file of an earlier run is cut and then appended to, another one is written twice, and a third
one stays. -/
theorem persistAll_refines_memory_stale :
    let tree := FileTree.ofFiles ["home"] [("out/library.sql", "stale"), ("out/notes.txt", "kept")]
    let calls : List PersistCall := [
      ⟨"library", ⟨.sql, "tables"⟩, .append "\n"⟩,
      ⟨"driver", ⟨.postgresql, "first"⟩, .replace⟩,
      ⟨"library", ⟨.sql, "views"⟩, .append "\n"⟩,
      ⟨"driver", ⟨.postgresql, "second"⟩, .replace⟩,
      ⟨"library", ⟨.sql, "!"⟩, .append ""⟩]
    WellNamed calls ∧
      (∀ name path fault,
        (execute (PersistCall.persistAll calls) ⟨"out", []⟩ tree).1.1 ≠
          .error (.persist name path fault)) ∧
      ∃ written store after answers memory,
        execute (PersistCall.persistAll calls) ⟨"out", []⟩ tree =
          ((.ok written, store), after) ∧
        (PersistCall.persistAll calls : StateM MemoryStore (List PersistResult)).run {} =
          (answers, memory) ∧
        store.results.map (·.measure) = memory.results.map (·.measure) ∧
        after.readText "out/library.sql" = .ok "tables\nviews!" ∧
        after.readText "out/driver.psql" = .ok "second" ∧
        after.readText "out/notes.txt" = .ok "kept" := by
  intro tree calls
  have named : WellNamed calls := ⟨by decide +kernel, by decide +kernel⟩
  have answered :
      (execute (PersistCall.persistAll calls) ⟨"out", []⟩ tree).1.1.toOption.isSome := by
    decide +kernel
  have succeed : ∀ name path fault,
      (execute (PersistCall.persistAll calls) ⟨"out", []⟩ tree).1.1 ≠
        .error (.persist name path fault) := by
    intro name path fault failed
    rw [failed] at answered
    cases answered
  have read :
      let after := (execute (PersistCall.persistAll calls) ⟨"out", []⟩ tree).2
      after.readText "out/library.sql" = .ok "tables\nviews!" ∧
        after.readText "out/driver.psql" = .ok "second" ∧
        after.readText "out/notes.txt" = .ok "kept" := by
    decide +kernel
  rcases persistAll_refines_memory "out" tree calls named succeed calls List.prefix_rfl with
    ⟨written, store, after, answers, memory, ran, remembered, _, sizes, _⟩
  rw [ran] at read
  exact ⟨named, succeed, written, store, after, answers, memory, ran, remembered, sizes, read⟩

end DirectoryStore

end SchemaCompiler
