import SchemaCompiler.Compilation
import SchemaCompiler.Proofs.Artifact.Memory
import SchemaCompiler.Proofs.Artifact.Order

/-!
# Compiling into memory

A run into an empty store leaves, under every name, the texts that were generated for the name, one
line after the other. Which texts these are, and in which order, is said by the artifacts that the
compilation generates and by their stable arrangement; the store adds nothing to it. Two facts
connect them. Whatever is planned is appended after a line end, whichever name it goes to, and no
artifact but the first one is a main artifact, so that none is replaced in the plan.
-/

namespace SchemaCompiler

namespace Compilation

variable {compilation : Compilation} {bucket : Bucket} {planned : PlannedArtifact}

/-! ## What a compilation generates -/

/-- The artifacts beside the definitions of the tables, in the order in which they are generated. -/
def furtherArtifacts (compilation : Compilation) : List PlannedArtifact :=
  compilation.extensions ++ compilation.views ++ compilation.types.value ++
    compilation.functions.value ++ compilation.procedures.value ++ compilation.content.value

/-- All artifacts of a model, in the order in which they are generated. -/
def artifacts (compilation : Compilation) : List PlannedArtifact :=
  compilation.main.value :: compilation.furtherArtifacts

/-- An artifact that the compilation plans in a bucket. -/
def Plans (compilation : Compilation) (bucket : Bucket) (planned : PlannedArtifact) : Prop :=
  ∃ persistAs text, planned = compilation.planned bucket persistAs text

theorem Plans.bucket_eq (plans : compilation.Plans bucket planned) : planned.bucket = bucket := by
  rcases plans with ⟨persistAs, text, rfl⟩
  rfl

theorem Plans.mode_eq (plans : compilation.Plans bucket planned) :
    planned.mode = .append "\n" := by
  rcases plans with ⟨persistAs, text, rfl⟩
  rfl

theorem Plans.nature_eq (plans : compilation.Plans bucket planned) :
    planned.artifact.nature = compilation.dialect.nature := by
  rcases plans with ⟨persistAs, text, rfl⟩
  rfl

theorem plans_main (compilation : Compilation) :
    compilation.Plans .main compilation.main.value :=
  ⟨none, compilation.scope.modelDefinition.value, by rw [main, Generated.value_map]⟩

theorem plans_of_mem_definedBy {α : Type} {define? : Option (Scope → α → Generated String)}
    {persistAs : α → Option String} {things : List α}
    (planned_mem : planned ∈ (compilation.definedBy bucket define? persistAs things).value) :
    compilation.Plans bucket planned := by
  cases define? with
  | none => simp [definedBy] at planned_mem
  | some define =>
      simp only [definedBy, Generated.value_each, Generated.value_map, List.mem_map]
        at planned_mem
      rcases planned_mem with ⟨thing, _, rfl⟩
      exact ⟨persistAs thing, (define compilation.scope thing).value, rfl⟩

theorem plans_of_mem_furtherArtifacts (planned_mem : planned ∈ compilation.furtherArtifacts) :
    ∃ bucket, bucket ≠ .main ∧ compilation.Plans bucket planned := by
  simp only [furtherArtifacts, List.mem_append, or_assoc] at planned_mem
  rcases planned_mem with extension | view | type | function | procedure | content
  · simp only [extensions, Option.mem_toList, Option.map_eq_some_iff] at extension
    rcases extension with ⟨statements, _, rfl⟩
    exact ⟨.beforeStructs, by decide, none, statements, rfl⟩
  · simp only [views, List.mem_map] at view
    rcases view with ⟨view, _, rfl⟩
    exact ⟨.views, by decide, view.persistAs, compilation.scope.viewDefinition view, rfl⟩
  · exact ⟨.types, by decide, plans_of_mem_definedBy type⟩
  · exact ⟨.storedFunctions, by decide, plans_of_mem_definedBy function⟩
  · exact ⟨.storedProcedures, by decide, plans_of_mem_definedBy procedure⟩
  · simp only [Compilation.content, Generated.value_map, List.mem_map] at content
    rcases content with ⟨script, _, rfl⟩
    exact ⟨.content, by decide, script.persistAs, script.sql, rfl⟩

theorem plans_of_mem_artifacts (planned_mem : planned ∈ compilation.artifacts) :
    ∃ bucket, compilation.Plans bucket planned := by
  rcases List.mem_cons.mp planned_mem with rfl | further
  · exact ⟨.main, compilation.plans_main⟩
  · rcases plans_of_mem_furtherArtifacts further with ⟨bucket, _, plans⟩
    exact ⟨bucket, plans⟩

/-- Only the first artifact is a main artifact, so all of them survive in the plan. -/
theorem surviving_artifacts (compilation : Compilation) :
    Plan.surviving compilation.artifacts = compilation.artifacts := by
  have notMain : ∀ planned ∈ compilation.furtherArtifacts, planned.bucket ≠ .main := by
    intro planned planned_mem
    rcases plans_of_mem_furtherArtifacts planned_mem with ⟨bucket, bucket_ne, plans⟩
    rwa [plans.bucket_eq]
  rw [artifacts, Plan.surviving, if_neg (by grind), Plan.surviving_eq_self notMain]

theorem value_plan (compilation : Compilation) :
    compilation.plan.value =
      Plan.pushAll ⟨compilation.main.value, []⟩ compilation.furtherArtifacts := by
  simp [plan, furtherArtifacts]

/-- The artifacts are persisted in the stable arrangement of those that have a text. -/
theorem stablyArranged_persistenceOrder (compilation : Compilation) :
    StablyArranged PlannedArtifact.rank
      (compilation.artifacts.filter (!·.artifact.isEmpty))
      compilation.plan.value.persistenceOrder := by
  have holds := Plan.holds_pushAll (compilation.plans_main).bucket_eq compilation.furtherArtifacts
  rw [← artifacts, surviving_artifacts, ← value_plan] at holds
  exact holds.stablyArranged.filter _

theorem mem_persistenceOrder :
    planned ∈ compilation.plan.value.persistenceOrder ↔
      planned ∈ compilation.artifacts ∧ planned.artifact.text ≠ "" := by
  rw [compilation.stablyArranged_persistenceOrder.perm.mem_iff, List.mem_filter]
  simp [TextArtifact.isEmpty]

theorem exists_plans_of_mem_persistenceOrder
    (planned_mem : planned ∈ compilation.plan.value.persistenceOrder) :
    ∃ bucket, compilation.Plans bucket planned :=
  plans_of_mem_artifacts (mem_persistenceOrder.mp planned_mem).1

/-- The calls that a run makes. -/
def calls (compilation : Compilation) : List PersistCall :=
  compilation.plan.value.persistenceOrder.map PersistCall.ofPlanned

/-- No call replaces a text. -/
theorem mode_eq_of_mem_calls {call : PersistCall} (call_mem : call ∈ compilation.calls) :
    call.mode = .append "\n" := by
  obtain ⟨planned, planned_mem, rfl⟩ := List.mem_map.mp call_mem
  obtain ⟨bucket, plans⟩ := exists_plans_of_mem_persistenceOrder planned_mem
  exact plans.mode_eq

/-- All artifacts have the nature of the dialect. -/
theorem nature_of_mem_calls {call : PersistCall} (call_mem : call ∈ compilation.calls) :
    call.artifact.nature = compilation.dialect.nature := by
  obtain ⟨planned, planned_mem, rfl⟩ := List.mem_map.mp call_mem
  obtain ⟨bucket, plans⟩ := exists_plans_of_mem_persistenceOrder planned_mem
  exact plans.nature_eq

/-! ## What a run leaves in memory -/

/-- What a run reports when the sink holds some results. -/
def report (compilation : Compilation) (results : List PersistResult) : Outcome :=
  ⟨compilation.dialect.name, compilation.dialect.naming.name, compilation.primary, results,
    compilation.plan.diagnostics⟩

/-- A run makes the calls of the plan, and reports what the store holds then. -/
theorem run_persist (compilation : Compilation) (store : MemoryStore) :
    let final := store.run (compilation.plan.value.persistenceOrder.map PersistCall.ofPlanned)
    (compilation.persist : StateM MemoryStore Outcome).run store =
      pure (compilation.report final.results, final) := by
  rcases MemoryStore.run_persistAll
    (compilation.plan.value.persistenceOrder.map PersistCall.ofPlanned) store with
    ⟨written, persisted⟩
  simp [Compilation.persist, PersistCall.persistAll_ofPlanned, discard, map_const, persisted,
    report]

/-- A run reports what the generators recorded. -/
theorem diagnostics_eq_of_run {outcome : Outcome} {store final : MemoryStore}
    (ran : (compilation.persist : StateM MemoryStore Outcome).run store = (outcome, final)) :
    outcome.diagnostics = compilation.plan.diagnostics := by
  have same : (outcome, final) =
      (compilation.report (store.run compilation.calls).results, store.run compilation.calls) :=
    ran.symm.trans (compilation.run_persist store)
  cases same
  rfl

/-- No text is lost, doubled or moved. The artifacts that have a text are persisted in their stable
arrangement; a run into an empty store leaves under every name the texts of the name in this order,
one line after the other, and tells each name once, with the size of its text. -/
theorem persist_in_memory (compilation : Compilation) :
    let order := compilation.plan.value.persistenceOrder
    StablyArranged PlannedArtifact.rank
        (compilation.artifacts.filter (!·.artifact.isEmpty)) order ∧
      ∃ store,
        (compilation.persist : StateM MemoryStore Outcome).run {} =
          (compilation.report store.results, store) ∧
        (∀ name,
          store.text? name =
            PersistMode.joined? "\n"
              ((order.filter fun planned => planned.name = name).map (·.artifact.text))) ∧
        store.results.map (·.logicalName) = (order.map (·.name)).eraseDups ∧
        (∀ result ∈ store.results,
          ∃ text, store.text? result.logicalName = some text ∧
            result.bytes = text.utf8ByteSize) := by
  intro order
  have arranged := compilation.stablyArranged_persistenceOrder
  -- Whatever is in the order was planned, so no call replaces a text.
  have appended : ∀ call ∈ order.map PersistCall.ofPlanned, call.mode = .append "\n" := by
    intro call call_mem
    rcases List.mem_map.mp call_mem with ⟨planned, planned_mem, rfl⟩
    have generated := List.mem_of_mem_filter (arranged.perm.mem_iff.mp planned_mem)
    rcases plans_of_mem_artifacts generated with ⟨bucket, plans⟩
    exact plans.mode_eq
  refine ⟨arranged, _, compilation.run_persist {}, ?_, ?_, ?_⟩
  · intro name
    rw [MemoryStore.text?_run_of_append appended, List.filter_map, List.map_map]
    rfl
  · rw [(MemoryStore.recorded_run _).map_logicalName, MemoryStore.names_run, List.map_map]
    rfl
  · intro result result_mem
    exact (MemoryStore.recorded_run _).bytes_eq (MemoryStore.nodup_names_run _) result_mem

end Compilation

end SchemaCompiler
