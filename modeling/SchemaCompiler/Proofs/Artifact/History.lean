import SchemaCompiler.Proofs.Artifact.Memory

/-!
# The history of a name

What a store in memory holds under a name is settled by the calls of that name, whatever other calls
stand between them. The text starts with the last call that replaced what was there, or with the
first call of the name, and goes on with what was appended since. The file takes its extension from
the last call.

The store keeps texts and results in two lists. That they always tell the same is the invariant
`Recorded`: the results are those of the artifacts, so each name is listed once, and none of the
listed names is without a text.
-/

namespace SchemaCompiler

/-- What stands between a text that is kept and the text that follows it. -/
def PersistMode.delimiter : PersistMode → String
  | .replace => ""
  | .append delimiter => delimiter

namespace PersistCall

/-- The text that some calls of one name leave: that of the last call that replaced what was there,
or was the first one, and then what the later calls appended, each text after its delimiter. -/
def Leave (calls : List PersistCall) (text : String) : Prop :=
  ∃ earlier start later,
    calls = earlier ++ start :: later ∧
      (earlier = [] ∨ start.mode = .replace) ∧
      (∀ call ∈ later, call.mode ≠ .replace) ∧
      text = start.artifact.text ++
        String.join (later.map fun call => call.mode.delimiter ++ call.artifact.text)

variable {calls : List PersistCall} {call : PersistCall} {text : String}

theorem leave_start (starts : calls = [] ∨ call.mode = .replace) :
    Leave (calls ++ [call]) call.artifact.text :=
  ⟨calls, call, [], rfl, starts, by simp, by simp⟩

theorem Leave.append {delimiter : String} (left : Leave calls text)
    (appends : call.mode = .append delimiter) :
    Leave (calls ++ [call]) (text ++ delimiter ++ call.artifact.text) := by
  rcases left with ⟨earlier, start, later, rfl, starts, kept, rfl⟩
  refine ⟨earlier, start, later ++ [call], by simp, starts, ?_, ?_⟩
  · intro other other_mem
    rcases List.mem_append.mp other_mem with before | last
    · exact kept other before
    · rw [List.mem_singleton.mp last, appends]
      simp
  · simp [PersistMode.delimiter, appends, String.append_assoc]

/-- Texts that are combined call by call are left by the calls. -/
theorem exists_leave (calls_ne : calls ≠ []) :
    ∃ text,
      calls.foldl (fun earlier call => some (call.mode.combine earlier call.artifact.text)) none =
          some text ∧
        Leave calls text := by
  induction calls using List.reverseRecOn with
  | nil => exact absurd rfl calls_ne
  | append_singleton calls call ih =>
      rw [List.foldl_append]
      by_cases first : calls = []
      · subst first
        exact ⟨call.artifact.text, rfl, leave_start (.inl rfl)⟩
      · rcases ih first with ⟨text, combined, left⟩
        rw [combined]
        cases mode_eq : call.mode with
        | replace => exact ⟨call.artifact.text, by simp [mode_eq], leave_start (.inr mode_eq)⟩
        | append delimiter =>
            exact ⟨text ++ delimiter ++ call.artifact.text,
              by simp [mode_eq, PersistMode.combine], left.append mode_eq⟩

end PersistCall

namespace MemoryStore

open PersistCall (Leave exists_leave)

variable {store : MemoryStore} {calls : List PersistCall} {name : String}

/-- With distinct names, the artifacts of the results are all artifacts that are held. -/
theorem Recorded.artifacts_eq (recorded : store.Recorded) (distinct : store.names.Nodup) :
    store.artifacts = store.contents := by
  have found : ∀ entry ∈ store.contents,
      ((store.artifact? (result entry.1 entry.2).logicalName).map fun artifact =>
        ((result entry.1 entry.2).logicalName, artifact)) = some entry := by
    intro entry entry_mem
    have held : store.artifact? entry.1 = some entry.2 :=
      Keyed.lookup_eq_some_of_mem distinct entry_mem
    simp [result, held]
  rw [artifacts, recorded, List.filterMap_map]
  exact (List.filterMap_congr found).trans List.filterMap_some

/-- A name has the nature of the last artifact that was persisted under it. -/
theorem nature_artifact?_run (calls : List PersistCall) (name : String) :
    ((run {} calls).artifact? name).map (·.nature) =
      (calls.filter fun call => call.name = name).getLast?.map (·.artifact.nature) := by
  induction calls using List.reverseRecOn with
  | nil => rfl
  | append_singleton calls call ih =>
      rw [run_append_singleton, artifact?_persist, List.filter_append]
      by_cases same : name = call.name
      · simp [same, combined]
      · simp [same, Ne.symm same, ih]

/-- The text of a name is left by the calls of the name. -/
theorem leave_text?_run (name_mem : name ∈ (run {} calls).names) :
    ∃ text, (run {} calls).text? name = some text ∧
      Leave (calls.filter fun call => call.name = name) text := by
  rw [names_run, List.mem_eraseDups, List.mem_map] at name_mem
  rcases name_mem with ⟨call, call_mem, rfl⟩
  rw [text?_run]
  apply exists_leave
  apply List.ne_nil_of_mem
  exact List.mem_filter.mpr ⟨call_mem, decide_eq_true rfl⟩

/-- A result tells the size of the text of its name, and the file that goes with the last call. -/
theorem exists_text_and_last {held : PersistResult} (held_mem : held ∈ (run {} calls).results) :
    ∃ text last,
      (run {} calls).text? held.logicalName = some text ∧
        held.bytes = text.utf8ByteSize ∧
        (calls.filter fun call => call.name = held.logicalName).getLast? = some last ∧
        held.physicalName = held.logicalName ++ "." ++ last.artifact.nature.extension := by
  rw [recorded_run, List.mem_map] at held_mem
  rcases held_mem with ⟨⟨name, artifact⟩, entry_mem, rfl⟩
  have found : (run {} calls).artifact? name = some artifact :=
    Keyed.lookup_eq_some_of_mem (nodup_names_run calls) entry_mem
  have natures := nature_artifact?_run calls name
  rw [found, Option.map_some] at natures
  rcases Option.map_eq_some_iff.mp natures.symm with ⟨last, last_eq, nature_eq⟩
  refine ⟨artifact.text, last, ?_, rfl, last_eq, ?_⟩
  · rw [text?, result, found, Option.map_some]
  · simp only [result, TextArtifact.fileName, nature_eq]

/-- After any calls, the results have distinct names, in the order in which these first came up;
something is held under these names and no others; each result tells the size of the text that is
held, and a file whose extension is that of the last call of the name; and the artifacts are listed
in the same order. The text of a name depends on the calls of the name only, and is what they leave.
-/
theorem history_of_run (calls : List PersistCall) :
    ∃ answers store,
      (PersistCall.persistAll calls : StateM MemoryStore (List PersistResult)).run {} =
          (answers, store) ∧
        (store.results.map (·.logicalName)).Nodup ∧
        store.results.map (·.logicalName) = (calls.map (·.name)).eraseDups ∧
        (∀ name, (store.text? name).isSome ↔ name ∈ store.results.map (·.logicalName)) ∧
        (∀ held ∈ store.results, ∃ text last,
          store.text? held.logicalName = some text ∧
            held.bytes = text.utf8ByteSize ∧
            (calls.filter fun call => call.name = held.logicalName).getLast? = some last ∧
            held.physicalName = held.logicalName ++ "." ++ last.artifact.nature.extension) ∧
        store.artifacts.map Prod.fst = store.results.map (·.logicalName) ∧
        (∀ entry ∈ store.artifacts, store.text? entry.1 = some entry.2.text) ∧
        (∀ (others : List PersistCall) (name : String),
          (others.filter fun call => call.name = name) =
              (calls.filter fun call => call.name = name) →
            (run {} others).text? name = store.text? name) ∧
        ∀ name ∈ store.results.map (·.logicalName), ∃ text,
          store.text? name = some text ∧
            Leave (calls.filter fun call => call.name = name) text := by
  rcases run_persistAll calls {} with ⟨answers, made⟩
  have recorded := recorded_run calls
  have distinct := nodup_names_run calls
  have artifacts_eq := recorded.artifacts_eq distinct
  refine ⟨answers, run {} calls, made, ?_⟩
  rw [recorded.map_logicalName, artifacts_eq]
  refine ⟨distinct, names_run calls, fun name => text?_isSome_iff,
    fun held held_mem => exists_text_and_last held_mem, rfl, ?_, ?_,
    fun name name_mem => leave_text?_run name_mem⟩
  · intro entry entry_mem
    have found : (run {} calls).artifact? entry.1 = some entry.2 :=
      Keyed.lookup_eq_some_of_mem distinct entry_mem
    rw [text?, found, Option.map_some]
  · intro others name same
    rw [text?_run, text?_run, same]

end MemoryStore

end SchemaCompiler
