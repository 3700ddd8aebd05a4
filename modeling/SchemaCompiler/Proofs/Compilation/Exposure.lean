import SchemaCompiler.Proofs.Compilation.Memory
import SchemaCompiler.Proofs.Content.Exposure
import SchemaCompiler.Proofs.Definition.Exposure

/-!
# No failure is silent

Whatever a run could not generate can be read in what it persists. Each generator exposes what it
records in the artifact that it plans, and the store keeps every text: an artifact with a text is
persisted, and the text under its name contains it.
-/

namespace SchemaCompiler

open Text (Shows)

theorem PersistMode.exists_joined? (delimiter : String) {texts : List String} {text : String}
    (text_mem : text ∈ texts) :
    ∃ whole, joined? delimiter texts = some whole ∧ Shows whole text := by
  cases texts with
  | nil => cases text_mem
  | cons first rest => exact ⟨_, rfl, Text.shows_intercalate delimiter text_mem⟩

namespace Dialect

/-- What it takes of a dialect so that every failure shows: types come from the standard registry,
and whatever the dialect knows how to define or to load exposes what it records. -/
structure Explains (dialect : Dialect) : Prop where
  standard : dialect.registry = .ansi
  types : ∀ define ∈ dialect.typeDefinition?, ∀ scope definition,
    (define scope definition).Exposed
  functions : ∀ define ∈ dialect.functionDefinition?, ∀ scope function,
    (define scope function).Exposed
  procedures : ∀ define ∈ dialect.procedureDefinition?, ∀ scope procedure,
    (define scope procedure).Exposed
  content : ∀ model, (dialect.contentScripts model).Exposes (·.map (·.sql))

theorem explains_of_mem_all {dialect : Dialect} (builtIn : dialect ∈ all) : dialect.Explains := by
  have content := exposes_contentScripts builtIn
  rcases eq_named_or_eq_sqlite builtIn with ⟨name, aliases, naming, rfl⟩ | rfl
  · exact {
      standard := rfl
      types := by
        rintro _ ⟨⟩ scope definition
        exact Postgres.exposed_typeDefinition definition
      functions := by
        rintro _ ⟨⟩ scope function
        exact Postgres.exposed_functionDefinition function
      procedures := by
        rintro _ ⟨⟩ scope procedure
        exact Postgres.exposed_procedureDefinition procedure
      content := content }
  · exact ⟨rfl, nofun, nofun, nofun, content⟩

end Dialect

namespace Compilation

variable {compilation : Compilation}

/-! ## Artifacts -/

theorem shows_planned (bucket : Bucket) (persistAs : Option String) (text : String) :
    Shows (compilation.planned bucket persistAs text).artifact.text text :=
  (Shows.refl text).append_left _

/-- A planned artifact exposes what its text does. -/
theorem exposes_planned {generated : Generated String} (exposed : generated.Exposed)
    (bucket : Bucket) (persistAs : Option String) :
    (compilation.planned bucket persistAs <$> generated).Exposes
      fun planned => [planned.artifact.text] := by
  apply exposed.map
  intro text part part_mem
  obtain rfl := List.mem_singleton.mp part_mem
  exact ⟨_, List.mem_singleton_self _, shows_planned bucket persistAs part⟩

theorem exposes_definedBy {α : Type} {define? : Option (Scope → α → Generated String)}
    (exposed : ∀ define ∈ define?, ∀ thing, (define compilation.scope thing).Exposed)
    (bucket : Bucket) (persistAs : α → Option String) (things : List α) :
    (compilation.definedBy bucket define? persistAs things).Exposes
      (·.map (·.artifact.text)) := by
  cases define? with
  | none => exact Generated.exposes_pure _
  | some define =>
      apply Generated.exposes_each
      intro thing _
      exact exposes_planned (exposed define rfl thing) bucket (persistAs thing)

theorem exposes_main (explains : compilation.dialect.Explains) :
    compilation.main.Exposes fun planned => [planned.artifact.text] :=
  exposes_planned (Scope.exposed_modelDefinition explains.standard) .main none

theorem exposes_content (explains : compilation.dialect.Explains) :
    compilation.content.Exposes (·.map (·.artifact.text)) := by
  apply (explains.content compilation.model).map
  intro scripts text text_mem
  obtain ⟨script, script_mem, rfl⟩ := List.mem_map.mp text_mem
  exact ⟨_, List.mem_map_of_mem (List.mem_map_of_mem script_mem),
    shows_planned .content script.persistAs script.sql⟩

theorem exists_visible_furtherArtifact {part : Generated (List PlannedArtifact)}
    {diagnostic : Diagnostic} (exposes : part.Exposes (·.map (·.artifact.text)))
    (contained : part.value ⊆ compilation.furtherArtifacts)
    (recorded : diagnostic ∈ part.diagnostics) :
    ∃ planned ∈ compilation.artifacts, diagnostic.VisibleIn planned.artifact.text := by
  obtain ⟨text, text_mem, visible⟩ := exposes diagnostic recorded
  obtain ⟨planned, planned_mem, rfl⟩ := List.mem_map.mp text_mem
  exact ⟨planned, List.mem_cons_of_mem _ (contained planned_mem), visible⟩

/-- Whatever a plan records can be read in one of its artifacts. -/
theorem exists_visible_artifact (explains : compilation.dialect.Explains)
    {diagnostic : Diagnostic} (diagnostic_mem : diagnostic ∈ compilation.plan.diagnostics) :
    ∃ planned ∈ compilation.artifacts, diagnostic.VisibleIn planned.artifact.text := by
  simp only [plan, Generated.diagnostics_bind, Generated.diagnostics_pure, List.append_nil,
    List.mem_append] at diagnostic_mem
  rcases diagnostic_mem with main | type | function | procedure | content
  · obtain ⟨text, text_mem, visible⟩ := exposes_main explains diagnostic main
    obtain rfl := List.mem_singleton.mp text_mem
    exact ⟨_, List.mem_cons_self, visible⟩
  · refine exists_visible_furtherArtifact (exposes_definedBy ?_ _ _ _) ?_ type
    · exact fun define known => explains.types define known compilation.scope
    · intro planned planned_mem
      simp [furtherArtifacts, types, planned_mem]
  · refine exists_visible_furtherArtifact (exposes_definedBy ?_ _ _ _) ?_ function
    · exact fun define known => explains.functions define known compilation.scope
    · intro planned planned_mem
      simp [furtherArtifacts, functions, planned_mem]
  · refine exists_visible_furtherArtifact (exposes_definedBy ?_ _ _ _) ?_ procedure
    · exact fun define known => explains.procedures define known compilation.scope
    · intro planned planned_mem
      simp [furtherArtifacts, procedures, planned_mem]
  · refine exists_visible_furtherArtifact (exposes_content explains) ?_ content
    intro planned planned_mem
    simp [furtherArtifacts, planned_mem]

/-! ## What is persisted -/

/-- The text of an artifact is part of what the store holds under its name. -/
theorem exists_text?_run {planned : PlannedArtifact} (planned_mem : planned ∈ compilation.artifacts)
    (nonempty : planned.artifact.text ≠ "") :
    ∃ whole,
      (MemoryStore.run {} compilation.calls).text? planned.name = some whole ∧
      Shows whole planned.artifact.text := by
  have persisted := mem_persistenceOrder.mpr ⟨planned_mem, nonempty⟩
  rw [MemoryStore.text?_run_of_append fun _ => mode_eq_of_mem_calls]
  apply PersistMode.exists_joined?
  rw [List.mem_map]
  refine ⟨PersistCall.ofPlanned planned, ?_, rfl⟩
  rw [List.mem_filter]
  exact ⟨List.mem_map_of_mem persisted, by simp [PersistCall.ofPlanned]⟩

/-- No failure is silent. A run of a built-in dialect into an empty store reports all that the
generators recorded, and each of these diagnostics can be read in a text that the store then holds.
-/
theorem diagnostics_visible (builtIn : compilation.dialect ∈ Dialect.all) :
    ∃ outcome store,
      (compilation.persist : StateM MemoryStore Outcome).run {} = (outcome, store) ∧
        outcome.diagnostics = compilation.plan.diagnostics ∧
        ∀ diagnostic ∈ outcome.diagnostics,
          ∃ name text, store.text? name = some text ∧ diagnostic.VisibleIn text := by
  refine ⟨_, _, compilation.run_persist {}, rfl, ?_⟩
  intro diagnostic diagnostic_mem
  obtain ⟨planned, planned_mem, visible⟩ :=
    exists_visible_artifact (Dialect.explains_of_mem_all builtIn) diagnostic_mem
  obtain ⟨whole, held, shows⟩ := exists_text?_run planned_mem visible.ne_empty
  exact ⟨planned.name, whole, held, visible.mono shows⟩

/-- Failures of all generators at once: a column that refers to nothing, in a table, a composite
type and the result of a function, and a row and a value of content. The identity column has a
further key under which its type would not be found. -/
theorem diagnostics_visible_failing :
    let key : Column :=
      ⟨"Id", .numericIdentity, false, true, false, false, none, false, ["attr.Relationship"]⟩
    let lost : Column :=
      ⟨"Owner", .relationship ⟨"Person", "Id"⟩, false, false, false, false, none, false, []⟩
    let model : Model := {
      name := "library"
      tables := [⟨⟨"Book", [key, lost]⟩, false, []⟩]
      types := [⟨⟨"Loan", [lost]⟩, some "types"⟩]
      functions := [⟨⟨⟨"Owner", [lost]⟩, none, .body "", none⟩, false⟩]
      content := [⟨some "seed", [⟨"Person", [], none⟩, ⟨"Book", [.invalid "Id" "*/"], none⟩]⟩] }
    let compilation : Compilation := { dialect := .postgresql, model := model }
    compilation.dialect ∈ Dialect.all ∧
      ∃ outcome store,
        (compilation.persist : StateM MemoryStore Outcome).run {} = (outcome, store) ∧
          outcome.diagnostics = compilation.plan.diagnostics ∧
          outcome.diagnostics.map (·.code) =
            [.relationshipNotFound, .relationshipNotFound, .relationshipNotFound,
              .contentTableNotFound, .invalidContentValue] ∧
          ∀ diagnostic ∈ outcome.diagnostics,
            ∃ name text, store.text? name = some text ∧ diagnostic.VisibleIn text := by
  intro key lost model compilation
  have builtIn : compilation.dialect ∈ Dialect.all := List.mem_cons_self
  obtain ⟨outcome, store, run_eq, reported, visible⟩ := diagnostics_visible builtIn
  refine ⟨builtIn, outcome, store, run_eq, reported, ?_, visible⟩
  rw [reported]
  decide +kernel

end Compilation

end SchemaCompiler
