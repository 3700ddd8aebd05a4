import SchemaCompiler.Dialect.Catalog
import SchemaCompiler.Proofs.Artifact.Directory
import SchemaCompiler.Proofs.Compilation.Memory

/-!
# Compiling into a directory

A run into a directory persists its artifacts one by one and stops at the first one that fails. If
the file operations succeed, only a name can fail: one that is not a plain file name. It is refused
before anything is written, so the run ends between two artifacts. The directory and the results are
then what the artifacts before the refused one leave, and nothing is there of the later ones.

An artifact without a text is never persisted, so its name does not matter.
-/

namespace SchemaCompiler

open DirectoryRun (execute)

namespace DirectoryStore

variable {call : PersistCall}

/-- Calls go on from what earlier calls left, up to one with a name that is not plain. -/
theorem execute_persistAll_refused {done rest : List PersistCall} {store final : DirectoryStore}
    {tree after : FileTree} {written : List PersistResult}
    (persisted : execute (PersistCall.persistAll done) store tree = ((.ok written, final), after))
    (notPlain : Path.isPlainName call.name = false) :
    execute (PersistCall.persistAll (done ++ call :: rest)) store tree =
      ((.error (.invalidArtifactName call.name), final), after) := by
  rw [PersistCall.persistAll_append, DirectoryRun.execute_bind, persisted]
  simp only [PersistCall.persistAll_cons, DirectoryRun.execute_bind,
    execute_persist_of_not_plain notPlain]

end DirectoryStore

namespace Compilation

variable {compilation : Compilation}

/-- A run makes its calls in turn, and reports what the directory holds then. -/
theorem execute_persist_eq (compilation : Compilation) (store : DirectoryStore) (tree : FileTree) :
    execute compilation.persist store tree =
      match execute (PersistCall.persistAll compilation.calls) store tree with
      | ((.ok _, final), after) => ((.ok (compilation.report final.results), final), after)
      | ((.error error, final), after) => ((.error error, final), after) := by
  have answers_dropped : (compilation.persist : DirectoryRun (StateM FileTree) Outcome) = do
      let _ ← PersistCall.persistAll compilation.calls
      return compilation.report (← ArtifactSink.results) := by
    simp only [Compilation.persist, PersistCall.persistAll_ofPlanned, discard, map_const,
      Function.comp_apply, bind_map_left, calls, report]
  rw [answers_dropped, DirectoryRun.execute_bind]
  rcases execute (PersistCall.persistAll compilation.calls) store tree with
    ⟨⟨error | written, final⟩, after⟩ <;> rfl

/-- The calls of artifacts with plain names can be made to a directory. -/
theorem wellNamed_of_mem_order {planned : List PlannedArtifact}
    (planned_subset : planned ⊆ compilation.plan.value.persistenceOrder)
    (plain : ∀ artifact ∈ planned, Path.isPlainName artifact.name) :
    WellNamed (planned.map PersistCall.ofPlanned) where
  plain := List.forall_mem_map.mpr plain
  oneNature call call_mem other other_mem _ := by
    have calls_subset := List.map_subset PersistCall.ofPlanned planned_subset
    rw [nature_of_mem_calls (calls_subset call_mem), nature_of_mem_calls (calls_subset other_mem)]

section Run

variable {before rest : List PlannedArtifact} {first : PlannedArtifact} {root : String}
  {tree after : FileTree} {store : DirectoryStore} {written : List PersistResult}

/-- What a run leaves behind artifacts with plain names, if no file operation fails. -/
theorem exists_run_of_plain
    (succeed : ∀ name path fault,
      (execute compilation.persist ⟨root, []⟩ tree).1.1 ≠ .error (.persist name path fault))
    (starts : before <+: compilation.plan.value.persistenceOrder)
    (plain : ∀ planned ∈ before, Path.isPlainName planned.name) :
    ∃ written store after,
      execute (PersistCall.persistAll (before.map PersistCall.ofPlanned)) ⟨root, []⟩ tree =
        ((.ok written, store), after) ∧
      Mirrors tree root (before.map PersistCall.ofPlanned) store after := by
  have named := wellNamed_of_mem_order starts.subset plain
  rcases (Mirrors.initially tree root).run named with
    ⟨name, path, fault, store, after, failed⟩ | ⟨written, store, after, ran, mirrors⟩
  · -- What fails in the beginning of a run is what the run fails with.
    rcases starts with ⟨rest, order_eq⟩
    refine absurd ?_ (succeed name path fault)
    rw [execute_persist_eq, calls, ← order_eq, List.map_append,
      DirectoryStore.execute_persistAll_append failed]
  · exact ⟨written, store, after, ran, mirrors⟩

/-- A run goes no further than to a name that is not plain. -/
theorem execute_persist_refused
    (order_eq : compilation.plan.value.persistenceOrder = before ++ first :: rest)
    (notPlain : Path.isPlainName first.name = false)
    (persisted :
      execute (PersistCall.persistAll (before.map PersistCall.ofPlanned)) ⟨root, []⟩ tree =
        ((.ok written, store), after)) :
    execute compilation.persist ⟨root, []⟩ tree =
      ((.error (.invalidArtifactName first.name), store), after) := by
  have refused :
      execute (PersistCall.persistAll (before.map PersistCall.ofPlanned ++
        PersistCall.ofPlanned first :: rest.map PersistCall.ofPlanned)) ⟨root, []⟩ tree =
      ((.error (.invalidArtifactName first.name), store), after) :=
    DirectoryStore.execute_persistAll_refused persisted notPlain
  rw [execute_persist_eq, calls, order_eq, List.map_append, List.map_cons, refused]

/-- If no file operation fails, a run gets through or ends at the first name that is not plain. -/
theorem execute_persist_cases
    (succeed : ∀ name path fault,
      (execute compilation.persist ⟨root, []⟩ tree).1.1 ≠ .error (.persist name path fault)) :
    ((∀ planned ∈ compilation.plan.value.persistenceOrder, Path.isPlainName planned.name) ∧
      ∃ outcome store after,
        execute compilation.persist ⟨root, []⟩ tree = ((.ok outcome, store), after)) ∨
    ∃ before first rest written store after,
      compilation.plan.value.persistenceOrder = before ++ first :: rest ∧
        (∀ planned ∈ before, Path.isPlainName planned.name) ∧
        Path.isPlainName first.name = false ∧
        execute (PersistCall.persistAll (before.map PersistCall.ofPlanned)) ⟨root, []⟩ tree =
          ((.ok written, store), after) ∧
        execute compilation.persist ⟨root, []⟩ tree =
          ((.error (.invalidArtifactName first.name), store), after) ∧
        Mirrors tree root (before.map PersistCall.ofPlanned) store after := by
  cases found : compilation.plan.value.persistenceOrder.find? (!Path.isPlainName ·.name) with
  | none =>
      have plain : ∀ planned ∈ compilation.plan.value.persistenceOrder,
          Path.isPlainName planned.name := by
        simpa using found
      rcases exists_run_of_plain succeed List.prefix_rfl plain with
        ⟨written, store, after, persisted, _⟩
      refine Or.inl ⟨plain, compilation.report store.results, store, after, ?_⟩
      rw [execute_persist_eq, calls, persisted]
  | some first =>
      rcases List.find?_eq_some_iff_append.mp found with ⟨notPlain, before, rest, order_eq, plain⟩
      simp only [Bool.not_eq_true', Bool.not_not] at notPlain plain
      have starts : before <+: compilation.plan.value.persistenceOrder :=
        ⟨first :: rest, order_eq.symm⟩
      rcases exists_run_of_plain succeed starts plain with
        ⟨written, store, after, persisted, mirrors⟩
      exact Or.inr ⟨before, first, rest, written, store, after, order_eq, plain, notPlain,
        persisted, execute_persist_refused order_eq notPlain persisted, mirrors⟩

end Run

/-- A run whose file operations succeed fails if and only if some artifact that has a text has a
name that is not plain. It fails with the first such name in the persistence order, and leaves the
results and the files that the artifacts before it leave. These are what memory would hold after the
same artifacts, and no other file is added, changed or removed. -/
theorem persist_stops_at_boundary (compilation : Compilation) (root : String) (tree : FileTree)
    (succeed : ∀ name path fault,
      (execute compilation.persist ⟨root, []⟩ tree).1.1 ≠ .error (.persist name path fault)) :
    let order := compilation.plan.value.persistenceOrder
    let ran := execute compilation.persist ⟨root, []⟩ tree
    ((∃ error, ran.1.1 = .error error) ↔
        ∃ planned ∈ compilation.artifacts,
          planned.artifact.text ≠ "" ∧ Path.isPlainName planned.name = false) ∧
      ∀ error, ran.1.1 = .error error →
        ∃ before first rest written store after,
          order = before ++ first :: rest ∧
            (∀ planned ∈ before, Path.isPlainName planned.name) ∧
            Path.isPlainName first.name = false ∧
            error = .invalidArtifactName first.name ∧
            execute (PersistCall.persistAll (before.map PersistCall.ofPlanned)) ⟨root, []⟩ tree =
              ((.ok written, store), after) ∧
            ran = ((.error error, store), after) ∧
            Mirrors tree root (before.map PersistCall.ofPlanned) store after := by
  simp only
  rcases execute_persist_cases succeed with ⟨plain, outcome, store, after, ran_eq⟩ |
    ⟨before, first, rest, written, store, after, order_eq, plain, notPlain, persisted, ran_eq,
      mirrors⟩
  · rw [ran_eq]
    refine ⟨⟨?_, ?_⟩, ?_⟩
    · rintro ⟨error, failed⟩
      cases failed
    · rintro ⟨planned, planned_mem, nonempty, notPlain⟩
      have planned_plain := plain planned (mem_persistenceOrder.mpr ⟨planned_mem, nonempty⟩)
      rw [notPlain] at planned_plain
      cases planned_plain
    · intro error failed
      cases failed
  · rw [ran_eq]
    refine ⟨⟨fun _ => ?_, fun _ => ⟨_, rfl⟩⟩, ?_⟩
    · have first_mem : first ∈ compilation.plan.value.persistenceOrder := by simp [order_eq]
      rcases mem_persistenceOrder.mp first_mem with ⟨generated, nonempty⟩
      exact ⟨first, generated, nonempty, notPlain⟩
    · rintro error failed
      cases failed
      exact ⟨before, first, rest, written, store, after, order_eq, plain, notPlain, rfl, persisted,
        rfl, mirrors⟩

/-- Views that are to be persisted outside of the directory. The tables before them are written over
the text of an earlier run; the content behind them is not written, and a file beside them stays. -/
theorem persist_stops_at_boundary_views :
    let name : Column := ⟨"Name", .text 20, false, false, false, false, none, false, []⟩
    let row : ContentRow := ⟨"Author", [.valid "Name" (.text "Butler")], none⟩
    let library : Model := {
      name := "library"
      tables := [⟨⟨"Author", [name]⟩, false, []⟩]
      views := [⟨⟨"Names", []⟩, .statement "SELECT name FROM author;", some "../views"⟩]
      content := [⟨some "seed", [row]⟩] }
    let compilation : Compilation := { dialect := .postgresql, model := library }
    let tree := FileTree.ofFiles ["home"] [("out/library.sql", "stale"), ("out/notes.txt", "kept")]
    (∀ name path fault,
        (execute compilation.persist ⟨"out", []⟩ tree).1.1 ≠ .error (.persist name path fault)) ∧
      ∃ before first rest written store after,
        compilation.plan.value.persistenceOrder = before ++ first :: rest ∧
          first.name = "../views" ∧
          execute (PersistCall.persistAll (before.map PersistCall.ofPlanned)) ⟨"out", []⟩ tree =
            ((.ok written, store), after) ∧
          execute compilation.persist ⟨"out", []⟩ tree =
            ((.error (.invalidArtifactName "../views"), store), after) ∧
          after.readText "out/library.sql" =
            .ok "CREATE TABLE IF NOT EXISTS author (\n    name VARCHAR(20) NOT NULL\n);" ∧
          (after.readText "out/seed.sql").toOption = none ∧
          after.readText "out/notes.txt" = .ok "kept" := by
  intro name row library compilation tree
  let table : PlannedArtifact := ⟨.main, "library",
    ⟨.sql, "CREATE TABLE IF NOT EXISTS author (\n    name VARCHAR(20) NOT NULL\n);"⟩, .append "\n"⟩
  let view : PlannedArtifact :=
    ⟨.views, "../views", ⟨.sql, "SELECT name FROM author;"⟩, .append "\n"⟩
  let seed : PlannedArtifact :=
    ⟨.content, "seed", ⟨.sql, "INSERT INTO author (name) VALUES ('Butler');"⟩, .append "\n"⟩
  have order : compilation.plan.value.persistenceOrder = [table] ++ view :: [seed] := by
    decide +kernel
  have tables_written :
      let ran :=
        execute (PersistCall.persistAll ([table].map PersistCall.ofPlanned)) ⟨"out", []⟩ tree
      ran.1.1.toOption.isSome ∧
        ran.2.readText "out/library.sql" = .ok table.artifact.text ∧
        (ran.2.readText "out/seed.sql").toOption = none ∧
        ran.2.readText "out/notes.txt" = .ok "kept" := by
    decide +kernel
  simp only at tables_written
  rcases written_eq : execute (PersistCall.persistAll ([table].map PersistCall.ofPlanned))
    ⟨"out", []⟩ tree with ⟨⟨failed | written, store⟩, after⟩
  · rw [written_eq] at tables_written
    cases tables_written.1
  · rw [written_eq] at tables_written
    have refused := execute_persist_refused order (by decide) written_eq
    have succeed : ∀ name path fault,
        (execute compilation.persist ⟨"out", []⟩ tree).1.1 ≠ .error (.persist name path fault) := by
      intro name path fault failed
      rw [refused] at failed
      cases failed
    have answered : (execute compilation.persist ⟨"out", []⟩ tree).1.1 =
        .error (.invalidArtifactName "../views") := by
      rw [refused]
    rcases (persist_stops_at_boundary compilation "out" tree succeed).2 _ answered with
      ⟨before, first, rest, done, final, last, order_eq, _, _, error_eq, persisted, ran, _⟩
    rw [refused] at ran
    cases ran
    exact ⟨succeed, before, first, rest, done, store, after, order_eq,
      (RunError.invalidArtifactName.inj error_eq).symm, persisted, refused, tables_written.2⟩

end Compilation

end SchemaCompiler
