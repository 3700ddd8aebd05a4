import SchemaCompiler.Proofs.Compilation.DriverScript

/-!
# The artifact of the driver script

The driver script is persisted like any other artifact, under a name of its own, and replaces what
that name held. In a store in memory it leaves everything alone that was persisted under other
names. So it preserves a run exactly when no artifact of the run has its name. The names come from
the model: a model named like the driver script loses its tables, and the script includes a file
that is no longer there.
-/

namespace SchemaCompiler

namespace Compilation

/-- Behind a run into an empty store, the driver script takes its name and leaves all others alone.
Its text has a line for each earlier result, in order. If no artifact of the run has its name, all
texts and all results are kept, and its own result follows them. If one has, its result takes the
place of that one. -/
theorem driver_keeps_other_artifacts (compilation : Compilation) (opening : String) :
    let order := compilation.plan.value.persistenceOrder
    ∃ store final driver,
      (compilation.persist : StateM MemoryStore Outcome).run {} =
          (compilation.report store.results, store) ∧
        (DriverScript.persist opening : StateM MemoryStore PersistResult).run store =
          (driver, final) ∧
        driver.logicalName = DriverScript.name ∧
        final.text? DriverScript.name =
          some (opening ++ String.join (store.results.map fun result =>
            DriverScript.includeLine result.physicalName)) ∧
        (∀ name, name ≠ DriverScript.name → final.text? name = store.text? name) ∧
        ((∀ planned ∈ order, planned.name ≠ DriverScript.name) →
          (∀ result ∈ store.results,
            final.text? result.logicalName = store.text? result.logicalName) ∧
          final.results = store.results ++ [driver]) ∧
        ((∃ planned ∈ order, planned.name = DriverScript.name) →
          final.results = store.results.map fun result =>
            if result.logicalName = DriverScript.name then driver else result) := by
  intro order
  let store := MemoryStore.run {} compilation.calls
  let script := DriverScript.artifact opening store.results
  have recorded : store.Recorded := MemoryStore.recorded_run _
  have distinct : store.names.Nodup := MemoryStore.nodup_names_run _
  have others : ∀ name, name ≠ DriverScript.name →
      (store.persist DriverScript.name script .replace).text? name = store.text? name := by
    intro name name_ne
    rw [MemoryStore.text?_persist, if_neg name_ne]
  refine ⟨store, store.persist DriverScript.name script .replace,
    MemoryStore.result DriverScript.name (store.combined DriverScript.name script .replace),
    compilation.run_persist {}, rfl, rfl, ?_, others, ?_, ?_⟩
  · rw [MemoryStore.text?_persist, if_pos rfl, PersistMode.combine_replace]
    rfl
  · intro notDriver
    have new : DriverScript.name ∉ store.names := driver_not_mem_names notDriver
    refine ⟨fun held held_mem => others _ ?_,
      recorded.results_persist_new new script .replace⟩
    -- The results have the names of the artifacts.
    intro name_eq
    rw [← recorded.map_logicalName, ← name_eq] at new
    exact new (List.mem_map_of_mem held_mem)
  · intro hasDriver
    exact recorded.results_persist_known distinct (mem_names_run_calls.mpr hasDriver) script
      .replace

/-- A model named like the driver script. The script takes the place of the definitions of the
tables, in the store and among the results, and includes a file that the store does not hold. -/
theorem driver_replaces_model :
    let author : Table := ⟨⟨"Author", [
      ⟨"name", .text 100, false, false, false, false, none, false, []⟩]⟩, false, []⟩
    let compilation : Compilation :=
      { dialect := Dialect.postgresql, model := { name := "driver", tables := [author] } }
    ∃ store final driver,
      (compilation.persist : StateM MemoryStore Outcome).run {} =
          (compilation.report store.results, store) ∧
        (DriverScript.persist "" : StateM MemoryStore PersistResult).run store =
          (driver, final) ∧
        store.text? "driver" = some
          "CREATE TABLE IF NOT EXISTS author (\n    name VARCHAR(100) NOT NULL\n);" ∧
        final.text? "driver" = some "\\include driver.sql\n" ∧
        store.results = [⟨"driver", "driver.sql", 69⟩] ∧
        final.results = [⟨"driver", "driver.psql", 20⟩] ∧
        final.file? "driver.sql" = none := by
  intro author compilation
  exact ⟨MemoryStore.run {} compilation.calls, _, _, compilation.run_persist {}, rfl,
    by decide +kernel, by decide +kernel, by decide +kernel, by decide +kernel, by decide +kernel⟩

end Compilation

end SchemaCompiler
