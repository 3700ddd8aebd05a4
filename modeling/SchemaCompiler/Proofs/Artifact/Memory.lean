import Mathlib.Data.List.Induction
import SchemaCompiler.Artifact.Memory
import SchemaCompiler.Artifact.Plan
import SchemaCompiler.Proofs.KeyedList

/-!
# What a store in memory holds

The step from one state of the store to the next is a call that persists an artifact. It changes
what is held under one name, and adds that name at the end if it is new; the results change in the
same way, so that they stay the results of the artifacts. By induction on a run of calls, the names
are those of the calls in the order in which they first came up, and the text of a name is what the
calls of that name make of it, whatever the other calls are.
-/

namespace SchemaCompiler

/-! ## Calls -/

/-- A request to persist an artifact under a name. -/
structure PersistCall where
  name : String
  artifact : TextArtifact
  mode : PersistMode

namespace PersistCall

/-- The artifact of a plan as a call. -/
def ofPlanned (planned : PlannedArtifact) : PersistCall :=
  ⟨planned.name, planned.artifact, planned.mode⟩

variable {m : Type → Type} [ArtifactSink m]

/-- Makes a call to a sink. -/
def persist (call : PersistCall) : m PersistResult :=
  ArtifactSink.persist call.name call.artifact call.mode

/-- Makes calls to a sink in turn. -/
def persistAll [Monad m] (calls : List PersistCall) : m (List PersistResult) :=
  calls.mapM persist

theorem persistAll_cons [Monad m] [LawfulMonad m] (call : PersistCall)
    (rest : List PersistCall) :
    (persistAll (call :: rest) : m _) = do
      let result ← call.persist
      let results ← persistAll rest
      return result :: results := by
  rw [persistAll, List.mapM_cons]
  rfl

theorem persistAll_append [Monad m] [LawfulMonad m] (calls rest : List PersistCall) :
    (persistAll (calls ++ rest) : m _) = do
      let results ← persistAll calls
      let more ← persistAll rest
      return results ++ more := by
  rw [persistAll, List.mapM_append]
  rfl

/-- A plan makes the calls of its artifacts. -/
theorem persistAll_ofPlanned [Monad m] [LawfulMonad m] (plan : Plan) :
    plan.persistAll = (persistAll (plan.persistenceOrder.map ofPlanned) : m _) := by
  rw [persistAll, List.mapM_map]
  rfl

end PersistCall

theorem PersistResult.record_eq_put (result : PersistResult) (results : List PersistResult) :
    result.record results = Keyed.put (·.logicalName) result results := by
  induction results with
  | nil => rfl
  | cons other rest ih => simp only [record, Keyed.put, ih]

/-! ## Texts of one name -/

namespace PersistMode

@[simp]
theorem combine_replace (earlier : Option String) (text : String) :
    replace.combine earlier text = text := by
  cases earlier <;> rfl

/-- Texts in turn with a delimiter between them, if there are any texts. -/
def joined? (delimiter : String) : List String → Option String
  | [] => none
  | text :: rest => some (delimiter.intercalate (text :: rest))

theorem joined?_append_singleton (delimiter : String) (texts : List String) (text : String) :
    joined? delimiter (texts ++ [text]) =
      some ((append delimiter).combine (joined? delimiter texts) text) := by
  cases texts with
  | nil => simp [joined?, combine]
  | cons first rest =>
      have joined : delimiter.intercalate (first :: rest ++ [text]) =
          delimiter.intercalate (first :: rest) ++ delimiter ++ delimiter.intercalate [text] :=
        String.intercalate_append_of_ne_nil (by simp) (by simp)
      simpa [joined?, combine] using joined

/-- Texts that are appended one after the other are joined by the delimiter. -/
theorem foldl_combine_append (delimiter : String) (texts : List String) :
    texts.foldl (fun earlier text => some ((append delimiter).combine earlier text)) none =
      joined? delimiter texts := by
  induction texts using List.reverseRecOn with
  | nil => rfl
  | append_singleton texts text ih => simp [ih, joined?_append_singleton]

end PersistMode

namespace MemoryStore

variable {store : MemoryStore} {name : String} {artifact : TextArtifact} {mode : PersistMode}

/-! ## One call -/

theorem place_eq_put (name : String) (artifact : TextArtifact)
    (entries : List (String × TextArtifact)) :
    place name artifact entries = Keyed.put Prod.fst (name, artifact) entries := by
  induction entries with
  | nil => rfl
  | cons entry rest ih => simp only [place, Keyed.put, ih]

/-- The names under which something is held. -/
def names (store : MemoryStore) : List String :=
  store.contents.map Prod.fst

@[simp]
theorem artifact?_persist (other : String) :
    (store.persist name artifact mode).artifact? other =
      if other = name then some (store.combined name artifact mode) else store.artifact? other := by
  rw [artifact?, persist, place_eq_put, Keyed.lookup_put, artifact?]

@[simp]
theorem text?_persist (other : String) :
    (store.persist name artifact mode).text? other =
      if other = name then
        some (mode.combine (store.text? name) artifact.text)
      else
        store.text? other := by
  rw [text?, artifact?_persist]
  split <;> rfl

@[simp]
theorem names_persist :
    (store.persist name artifact mode).names =
      if name ∈ store.names then store.names else store.names ++ [name] := by
  rw [names, persist, place_eq_put, Keyed.keys_put, names]

theorem results_persist :
    (store.persist name artifact mode).results =
      Keyed.put (·.logicalName) (result name (store.combined name artifact mode))
        store.results := by
  rw [persist, PersistResult.record_eq_put]

theorem text?_isSome_iff : (store.text? name).isSome ↔ name ∈ store.names := by
  simp [text?, artifact?, names]

/-- The results are those of the artifacts. -/
def Recorded (store : MemoryStore) : Prop :=
  store.results = store.contents.map fun entry => result entry.1 entry.2

theorem Recorded.persist (recorded : store.Recorded) (name : String) (artifact : TextArtifact)
    (mode : PersistMode) : (store.persist name artifact mode).Recorded := by
  rw [Recorded, results_persist, recorded, MemoryStore.persist, place_eq_put]
  symm
  exact Keyed.map_put Prod.fst (·.logicalName) (fun entry => result entry.1 entry.2)
    (fun _ => rfl) _ _

theorem Recorded.map_logicalName (recorded : store.Recorded) :
    store.results.map (·.logicalName) = store.names := by
  rw [recorded, List.map_map]
  rfl

/-- An artifact under a new name adds its result at the end. -/
theorem Recorded.results_persist_new (recorded : store.Recorded) (new : name ∉ store.names)
    (artifact : TextArtifact) (mode : PersistMode) :
    (store.persist name artifact mode).results =
      store.results ++ [result name (store.combined name artifact mode)] := by
  rw [results_persist]
  apply Keyed.put_of_not_mem
  rwa [recorded.map_logicalName]

/-- An artifact under a known name changes the result of that name and no other. -/
theorem Recorded.results_persist_known (recorded : store.Recorded) (distinct : store.names.Nodup)
    (known : name ∈ store.names) (artifact : TextArtifact) (mode : PersistMode) :
    (store.persist name artifact mode).results =
      store.results.map fun held =>
        if held.logicalName = name then
          result name (store.combined name artifact mode)
        else
          held := by
  rw [← recorded.map_logicalName] at distinct known
  rw [results_persist]
  exact Keyed.put_of_mem distinct known

/-- With distinct names, a result tells the size of the text of its name. -/
theorem Recorded.bytes_eq {held : PersistResult} (recorded : store.Recorded)
    (distinct : store.names.Nodup) (held_mem : held ∈ store.results) :
    ∃ text, store.text? held.logicalName = some text ∧ held.bytes = text.utf8ByteSize := by
  rw [recorded, List.mem_map] at held_mem
  rcases held_mem with ⟨⟨name, artifact⟩, entry_mem, rfl⟩
  refine ⟨artifact.text, ?_, rfl⟩
  simp [text?, artifact?, result, Keyed.lookup_eq_some_of_mem distinct entry_mem]

/-! ## A run of calls -/

/-- The store after some calls. -/
def run (store : MemoryStore) (calls : List PersistCall) : MemoryStore :=
  calls.foldl (fun store call => store.persist call.name call.artifact call.mode) store

@[simp]
theorem run_persist (store : MemoryStore) (call : PersistCall) :
    (call.persist : StateM MemoryStore PersistResult).run store =
      pure (result call.name (store.combined call.name call.artifact call.mode),
        store.persist call.name call.artifact call.mode) :=
  rfl

@[simp]
theorem run_results (store : MemoryStore) :
    (ArtifactSink.results : StateM MemoryStore (List PersistResult)).run store =
      pure (store.results, store) :=
  rfl

/-- Calls that are made in turn leave what they leave one after the other. -/
theorem run_persistAll (calls : List PersistCall) (store : MemoryStore) :
    ∃ written,
      (PersistCall.persistAll calls : StateM MemoryStore (List PersistResult)).run store =
        pure (written, store.run calls) := by
  induction calls generalizing store with
  | nil => exact ⟨[], rfl⟩
  | cons call rest ih =>
      rcases ih (store.persist call.name call.artifact call.mode) with ⟨written, rest_eq⟩
      refine ⟨result call.name (store.combined call.name call.artifact call.mode) :: written, ?_⟩
      rw [PersistCall.persistAll] at rest_eq
      simp [PersistCall.persistAll, rest_eq, run]

@[simp]
theorem run_append_singleton (store : MemoryStore) (calls : List PersistCall)
    (call : PersistCall) :
    store.run (calls ++ [call]) =
      (store.run calls).persist call.name call.artifact call.mode := by
  simp [run]

theorem recorded_run (calls : List PersistCall) : (run {} calls).Recorded := by
  induction calls using List.reverseRecOn with
  | nil => rfl
  | append_singleton calls call ih =>
      rw [run_append_singleton]
      exact ih.persist _ _ _

/-- The names are those of the calls, in the order in which they first came up. -/
theorem names_run (calls : List PersistCall) :
    (run {} calls).names = (calls.map (·.name)).eraseDups := by
  induction calls using List.reverseRecOn with
  | nil => rfl
  | append_singleton calls call ih =>
      rw [run_append_singleton, names_persist, ih, List.map_append, List.map_singleton,
        Keyed.eraseDups_append_singleton]
      simp only [List.mem_eraseDups]

theorem nodup_names_run (calls : List PersistCall) : (run {} calls).names.Nodup := by
  induction calls using List.reverseRecOn with
  | nil => exact List.nodup_nil
  | append_singleton calls call ih =>
      rw [run_append_singleton, names_persist]
      split
      · exact ih
      · rename_i unknown
        exact List.nodup_append.mpr ⟨ih, List.nodup_singleton _, by grind⟩

/-- The text of a name is what the calls of that name make of it. -/
theorem text?_run (store : MemoryStore) (calls : List PersistCall) (name : String) :
    (store.run calls).text? name =
      (calls.filter fun call => call.name = name).foldl
        (fun earlier call => some (call.mode.combine earlier call.artifact.text))
        (store.text? name) := by
  induction calls using List.reverseRecOn with
  | nil => rfl
  | append_singleton calls call ih =>
      rw [run_append_singleton, text?_persist]
      by_cases same : call.name = name
      · simp [same, ih]
      · simp [same, Ne.symm same, ih]

/-- When all texts are appended after the same delimiter, the text of a name is all of its texts
with the delimiter between them. -/
theorem text?_run_of_append {calls : List PersistCall} {delimiter : String}
    (appended : ∀ call ∈ calls, call.mode = .append delimiter) (name : String) :
    (run {} calls).text? name =
      PersistMode.joined? delimiter
        ((calls.filter fun call => call.name = name).map (·.artifact.text)) := by
  rw [text?_run, ← PersistMode.foldl_combine_append, List.foldl_map]
  apply List.foldl_ext
  intro earlier call call_mem
  rw [appended call (List.mem_of_mem_filter call_mem)]

end MemoryStore

end SchemaCompiler
