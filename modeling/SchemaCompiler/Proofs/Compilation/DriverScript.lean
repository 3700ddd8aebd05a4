import Mathlib.Data.List.Infix
import SchemaCompiler.Command
import SchemaCompiler.Proofs.Compilation.Memory

/-!
# Running the driver script

A run persists its artifacts in a fixed order, and all artifacts of a name end up in one file. The
driver script includes each file once, in the order in which the files first came up. So a file is
executed as a whole, and an artifact that was added to a file when another one had been begun is
executed before what it came after. This file says in which order the artifacts are executed: in
their stable arrangement by file. Two artifacts keep their order exactly when the file of the first
one did not come up after that of the second one.

What is executed is read off the text of the script: each line that includes a file gives way to
what the store holds for that file.
-/

namespace SchemaCompiler

/-! ## Texts that stand in turn -/

namespace Text

/-- One text stands before another one in a text. -/
def Precedes (whole first second : String) : Prop :=
  ∃ before rest, whole.toList = before ++ (first.toList ++ rest) ∧ second.toList <:+: rest

instance (whole first second : String) : Decidable (Precedes whole first second) :=
  decidable_of_iff
    (whole.toList.tails.any fun part =>
      (part.dropPrefix? first.toList).any fun rest => decide (second.toList <:+: rest)) <| by
    simp only [List.any_eq_true, List.mem_tails, Option.any_eq_true, decide_eq_true_eq,
      List.dropPrefix?_eq_some_iff, beq_iff_eq, Precedes]
    constructor
    · rintro ⟨part, ⟨before, whole_eq⟩, rest, ⟨_, rfl, rfl⟩, shows⟩
      exact ⟨before, rest, whole_eq.symm, shows⟩
    · rintro ⟨before, rest, whole_eq, shows⟩
      exact ⟨_, ⟨before, whole_eq.symm⟩, rest, ⟨_, rfl, rfl⟩, shows⟩

/-- Of two parts of a list, the earlier one stands before the later one in the joined texts. -/
theorem precedes_join {α : Type} {text : α → String} {parts : List α} {first second : α}
    (pair : [first, second].Sublist parts) :
    Precedes (String.join (parts.map fun part => text part ++ "\n")) (text first)
      (text second) := by
  obtain ⟨head, tail, rfl, first_mem, later⟩ := List.cons_sublist_iff.mp pair
  obtain ⟨before, between, rfl⟩ := List.append_of_mem first_mem
  obtain ⟨more, after, rfl⟩ := List.append_of_mem (List.singleton_sublist.mp later)
  let lines (parts : List α) : List Char :=
    (String.join (parts.map fun part => text part ++ "\n")).toList
  refine ⟨lines before, '\n' :: lines (between ++ (more ++ second :: after)), ?_, ?_⟩
  · simp [lines]
  · exact ⟨'\n' :: lines (between ++ more), '\n' :: lines after, by simp [lines]⟩

end Text

/-! ## What a script executes -/

namespace DriverScript

/-- The text with which a line starts that includes a file. -/
def command : List Char := "\\include ".toList

/-- What is executed for a line: the text of the file that it includes, or the line itself. -/
def executedLine (file? : String → Option String) (line : List Char) : List Char :=
  ((line.dropPrefix? command).bind fun file => file? (String.ofList file)).elim line String.toList

/-- What is executed for a script, line by line. -/
def expand (file? : String → Option String) (script : String) : String :=
  String.ofList (['\n'].intercalate ((script.toList.splitOn '\n').map (executedLine file?)))

variable {file? : String → Option String}

theorem not_mem_command : '\n' ∉ command := by
  decide

theorem toList_includeLine (file : String) :
    (includeLine file).toList = (command ++ file.toList) ++ ['\n'] := by
  have lineBreak : "\n".toList = ['\n'] := by decide
  rw [includeLine, String.toList_append, String.toList_append]
  exact congrArg (command ++ file.toList ++ ·) lineBreak

theorem executedLine_include {file found : String} (found_eq : file? file = some found) :
    executedLine file? (command ++ file.toList) = found.toList := by
  have file_read : (command ++ file.toList).dropPrefix? command = some file.toList :=
    List.dropPrefix?_append_of_beq file.toList (beq_self_eq_true command)
  rw [executedLine, file_read, Option.bind_some, String.ofList_toList, found_eq]
  rfl

/-- A script of lines that include files executes the texts of the files in turn. -/
theorem expand_join {file text : String → String} {names : List String}
    (found : ∀ name ∈ names, file? (file name) = some (text name))
    (oneLine : ∀ name ∈ names, '\n' ∉ (file name).toList) :
    expand file? (String.join (names.map fun name => includeLine (file name))) =
      String.join (names.map fun name => text name ++ "\n") := by
  rw [expand, ← String.toList_inj, String.toList_ofList, String.toList_join, String.toList_join]
  induction names with
  | nil => rfl
  | cons name names ih =>
      rw [List.forall_mem_cons] at found oneLine
      have noBreak : '\n' ∉ command ++ (file name).toList := by
        rw [List.mem_append]
        exact not_or.mpr ⟨not_mem_command, oneLine.1⟩
      rw [List.map_cons, List.flatMap_cons, toList_includeLine, List.append_assoc,
        List.singleton_append, List.splitOn_append_cons_self_of_not_mem noBreak, List.map_cons,
        List.intercalate_cons_of_ne_nil (by simp [List.splitOn_ne_nil]),
        executedLine_include found.1, ih found.2 oneLine.2]
      simp

end DriverScript

/-! ## Files of a store -/

/-- The name of the file of an artifact. -/
def ArtifactNature.fileName (nature : ArtifactNature) (name : String) : String :=
  name ++ "." ++ nature.extension

theorem ArtifactNature.not_mem_fileName {nature : ArtifactNature} {name : String}
    (oneLine : '\n' ∉ name.toList) : '\n' ∉ (nature.fileName name).toList := by
  have extension : '\n' ∉ ("." ++ nature.extension).toList := by cases nature <;> decide
  rw [fileName, String.append_assoc, String.toList_append, List.mem_append]
  exact not_or.mpr ⟨oneLine, extension⟩

namespace MemoryStore

variable {store : MemoryStore} {calls : List PersistCall} {nature : ArtifactNature} {name : String}

/-- The text of a file: the one under the first name that has the file. -/
def file? (store : MemoryStore) (file : String) : Option String :=
  (store.results.find? (·.physicalName == file)).bind fun held => store.text? held.logicalName

theorem nature_run (same : ∀ call ∈ calls, call.artifact.nature = nature) :
    ∀ entry ∈ (run {} calls).contents, entry.2.nature = nature := by
  induction calls using List.reverseRecOn with
  | nil => simp [run]
  | append_singleton calls call ih =>
      intro entry entry_mem
      rw [run_append_singleton, persist, place_eq_put] at entry_mem
      rcases Keyed.eq_or_mem_of_mem_put entry_mem with rfl | earlier
      · exact same call (by simp)
      · exact ih (fun other other_mem => same other (List.mem_append_left _ other_mem)) entry
          earlier

theorem physicalNames_run (same : ∀ call ∈ calls, call.artifact.nature = nature) :
    (run {} calls).results.map (·.physicalName) = (run {} calls).names.map nature.fileName := by
  rw [recorded_run, List.map_map, names, List.map_map]
  apply List.map_congr_left
  intro entry entry_mem
  have nature_eq := nature_run same entry entry_mem
  simp only [Function.comp_apply, result, TextArtifact.fileName, nature_eq,
    ArtifactNature.fileName]

theorem file?_run (same : ∀ call ∈ calls, call.artifact.nature = nature)
    (name_mem : name ∈ (run {} calls).names) :
    (run {} calls).file? (nature.fileName name) = (run {} calls).text? name := by
  have distinct : ((run {} calls).results.map (·.physicalName)).Nodup := by
    rw [physicalNames_run same]
    apply (nodup_names_run calls).map
    intro first second files_eq
    simpa [ArtifactNature.fileName] using files_eq
  obtain ⟨entry, entry_mem, rfl⟩ := List.mem_map.mp name_mem
  have held_mem : result entry.1 entry.2 ∈ (run {} calls).results := by
    rw [recorded_run]
    exact List.mem_map_of_mem entry_mem
  have file_eq : nature.fileName entry.1 = (result entry.1 entry.2).physicalName := by
    rw [← nature_run same entry entry_mem]
    rfl
  rw [file?, file_eq, Keyed.find?_eq_some_of_mem distinct held_mem]
  rfl

/-- An artifact under a new name leaves the files that are there. -/
theorem file?_persist {held : PersistResult} (recorded : store.Recorded) (new : name ∉ store.names)
    (held_mem : held ∈ store.results) (artifact : TextArtifact) (mode : PersistMode) :
    (store.persist name artifact mode).file? held.physicalName =
      store.file? held.physicalName := by
  obtain ⟨first, first_eq⟩ : ∃ first,
      (store.results.find? (·.physicalName == held.physicalName)) = some first := by
    rw [← Option.isSome_iff_exists, List.find?_isSome]
    exact ⟨held, held_mem, beq_self_eq_true _⟩
  have first_ne : first.logicalName ≠ name := by
    rintro rfl
    rw [← recorded.map_logicalName] at new
    exact new (List.mem_map_of_mem (List.mem_of_find?_eq_some first_eq))
  rw [file?, file?, recorded.results_persist_new new, List.find?_append, first_eq]
  simp [first_ne]

end MemoryStore

/-! ## What the driver script executes -/

theorem Text.intercalate_append_lineEnd {texts : List String} (texts_ne : texts ≠ []) :
    "\n".intercalate texts ++ "\n" = String.join (texts.map (· ++ "\n")) := by
  induction texts with
  | nil => exact absurd rfl texts_ne
  | cons text texts ih =>
      cases texts with
      | nil => simp
      | cons next texts =>
          rw [String.intercalate_cons_cons, String.append_assoc, ih (List.cons_ne_nil _ _)]
          simp only [List.map_cons, String.join_cons, String.append_assoc]

namespace Compilation

variable {compilation : Compilation}

/-- The names in the order in which they first come up. -/
def fileOrder (compilation : Compilation) : List String :=
  (compilation.plan.value.persistenceOrder.map (·.name)).eraseDups

/-- How early the file of an artifact comes up. -/
def fileRank (compilation : Compilation) (planned : PlannedArtifact) : Nat :=
  compilation.fileOrder.idxOf planned.name

theorem map_fileRank (compilation : Compilation) (artifacts : List PlannedArtifact) :
    artifacts.map compilation.fileRank =
      (artifacts.map (·.name)).map fun name => compilation.fileOrder.idxOf name := by
  rw [List.map_map]
  apply List.map_congr_left
  intro planned _
  rw [Function.comp_apply, fileRank]

/-- The artifacts of a name in the order in which they are persisted. -/
def inFile (compilation : Compilation) (name : String) : List PlannedArtifact :=
  compilation.plan.value.persistenceOrder.filter fun planned => planned.name = name

/-- The artifacts file by file. -/
def executed (compilation : Compilation) : List PlannedArtifact :=
  compilation.fileOrder.flatMap compilation.inFile

/-- What is executed when a run into an empty store is followed by its driver script. -/
def executedText (compilation : Compilation) : Option String :=
  let store := ((compilation.persistWithDriver true : StateM MemoryStore Outcome).run {}).2
  (store.text? DriverScript.name).map (DriverScript.expand store.file?)

theorem names_run_calls (compilation : Compilation) :
    (MemoryStore.run {} compilation.calls).names = compilation.fileOrder := by
  rw [MemoryStore.names_run, calls, List.map_map]
  rfl

theorem nodup_fileOrder (compilation : Compilation) : compilation.fileOrder.Nodup := by
  rw [← names_run_calls]
  exact MemoryStore.nodup_names_run _

theorem name_mem_fileOrder {planned : PlannedArtifact}
    (planned_mem : planned ∈ compilation.plan.value.persistenceOrder) :
    planned.name ∈ compilation.fileOrder :=
  List.mem_eraseDups.mpr (List.mem_map_of_mem planned_mem)

theorem inFile_ne_nil {name : String} (name_mem : name ∈ compilation.fileOrder) :
    compilation.inFile name ≠ [] := by
  obtain ⟨planned, planned_mem, rfl⟩ := List.mem_map.mp (List.mem_eraseDups.mp name_mem)
  apply List.ne_nil_of_mem
  exact List.mem_filter.mpr ⟨planned_mem, decide_eq_true rfl⟩

theorem stablyArranged_executed (compilation : Compilation) :
    StablyArranged compilation.fileRank compilation.plan.value.persistenceOrder
      compilation.executed :=
  stablyArranged_flatMap_filter compilation.nodup_fileOrder fun _ => name_mem_fileOrder

/-- What a run with a driver script leaves in an empty store. -/
def storeWithDriver (compilation : Compilation) : MemoryStore :=
  let held := MemoryStore.run {} compilation.calls
  held.persist DriverScript.name (DriverScript.artifact compilation.opening held.results) .replace

/-- A run with a driver script makes the calls of the plan, and then replaces the driver script. -/
theorem run_persistWithDriver (compilation : Compilation) :
    (compilation.persistWithDriver true : StateM MemoryStore Outcome).run {} =
      (compilation.report compilation.storeWithDriver.results, compilation.storeWithDriver) := by
  have persisted : (compilation.persist : StateM MemoryStore Outcome).run {} =
      pure (compilation.report (MemoryStore.run {} compilation.calls).results,
        MemoryStore.run {} compilation.calls) := compilation.run_persist {}
  rw [persistWithDriver, StateT.run_bind, persisted]
  simp only [storeWithDriver]
  -- The calls that follow are the same for whatever is held.
  generalize MemoryStore.run {} compilation.calls = held
  rfl

theorem text?_run_calls {name : String} (name_mem : name ∈ compilation.fileOrder) :
    (MemoryStore.run {} compilation.calls).text? name =
      some ("\n".intercalate ((compilation.inFile name).map (·.artifact.text))) := by
  have texts_eq : (compilation.calls.filter fun call => call.name = name).map (·.artifact.text) =
      (compilation.inFile name).map (·.artifact.text) := by
    rw [calls, List.filter_map, List.map_map]
    rfl
  rw [MemoryStore.text?_run_of_append fun _ => mode_eq_of_mem_calls, texts_eq]
  cases parts : compilation.inFile name with
  | nil => exact absurd parts (inFile_ne_nil name_mem)
  | cons first rest => rfl

/-- The text of the driver script: a line for each file, in the order in which they come up. -/
theorem text_artifact_run (compilation : Compilation) (opening : String) :
    (DriverScript.artifact opening (MemoryStore.run {} compilation.calls).results).text =
      opening ++ String.join (compilation.fileOrder.map fun name =>
        DriverScript.includeLine (compilation.dialect.nature.fileName name)) := by
  have lines : (MemoryStore.run {} compilation.calls).results.map
        (fun held => DriverScript.includeLine held.physicalName) =
      compilation.fileOrder.map fun name =>
        DriverScript.includeLine (compilation.dialect.nature.fileName name) := by
    calc _ = ((MemoryStore.run {} compilation.calls).results.map (·.physicalName)).map
          DriverScript.includeLine := by rw [List.map_map]; rfl
      _ = _ := by
        rw [MemoryStore.physicalNames_run fun _ => nature_of_mem_calls, names_run_calls,
          List.map_map]
        rfl
  rw [DriverScript.artifact, lines]

theorem join_fileOrder (compilation : Compilation) :
    String.join (compilation.fileOrder.map fun name =>
        "\n".intercalate ((compilation.inFile name).map (·.artifact.text)) ++ "\n") =
      String.join (compilation.executed.map fun planned => planned.artifact.text ++ "\n") := by
  have inTurn : ∀ name ∈ compilation.fileOrder,
      "\n".intercalate ((compilation.inFile name).map (·.artifact.text)) ++ "\n" =
        String.join ((compilation.inFile name).map fun planned =>
          planned.artifact.text ++ "\n") := by
    intro name name_mem
    rw [Text.intercalate_append_lineEnd (by simpa using inFile_ne_nil name_mem), List.map_map]
    rfl
  rw [List.map_congr_left inTurn, executed, ← String.toList_inj]
  simp only [String.toList_join, List.flatMap_map, List.map_flatMap, List.flatMap_assoc]

theorem mem_names_run_calls {name : String} :
    name ∈ (MemoryStore.run {} compilation.calls).names ↔
      ∃ planned ∈ compilation.plan.value.persistenceOrder, planned.name = name := by
  rw [names_run_calls, fileOrder, List.mem_eraseDups, List.mem_map]

theorem driver_not_mem_names
    (notDriver : ∀ planned ∈ compilation.plan.value.persistenceOrder,
      planned.name ≠ DriverScript.name) :
    DriverScript.name ∉ (MemoryStore.run {} compilation.calls).names := by
  rw [mem_names_run_calls]
  rintro ⟨planned, planned_mem, name_eq⟩
  exact notDriver planned planned_mem name_eq

/-- The driver script does not change the files that it includes. -/
theorem file?_storeWithDriver {name : String}
    (notDriver : ∀ planned ∈ compilation.plan.value.persistenceOrder,
      planned.name ≠ DriverScript.name)
    (name_mem : name ∈ compilation.fileOrder) :
    compilation.storeWithDriver.file? (compilation.dialect.nature.fileName name) =
      some ("\n".intercalate ((compilation.inFile name).map (·.artifact.text))) := by
  have same : ∀ call ∈ compilation.calls, call.artifact.nature = compilation.dialect.nature :=
    fun _ => nature_of_mem_calls
  have file_mem : compilation.dialect.nature.fileName name ∈
      (MemoryStore.run {} compilation.calls).results.map (·.physicalName) := by
    rw [MemoryStore.physicalNames_run same, names_run_calls]
    exact List.mem_map_of_mem name_mem
  obtain ⟨held, held_mem, file_eq⟩ := List.mem_map.mp file_mem
  rw [storeWithDriver, ← file_eq, MemoryStore.file?_persist (MemoryStore.recorded_run _)
    (driver_not_mem_names notDriver) held_mem, file_eq, MemoryStore.file?_run same, text?_run_calls
    name_mem]
  rwa [names_run_calls]

/-- The driver script executes every artifact once, file by file. -/
theorem executedText_eq (noOpening : compilation.opening = "")
    (notDriver : ∀ planned ∈ compilation.plan.value.persistenceOrder,
      planned.name ≠ DriverScript.name)
    (oneLine : ∀ planned ∈ compilation.plan.value.persistenceOrder, '\n' ∉ planned.name.toList) :
    compilation.executedText =
      some (String.join
        (compilation.executed.map fun planned => planned.artifact.text ++ "\n")) := by
  have script : compilation.storeWithDriver.text? DriverScript.name =
      some (String.join (compilation.fileOrder.map fun name =>
        DriverScript.includeLine (compilation.dialect.nature.fileName name))) := by
    rw [storeWithDriver, MemoryStore.text?_persist, if_pos rfl, PersistMode.combine_replace,
      text_artifact_run, noOpening, String.empty_append]
  rw [executedText, run_persistWithDriver, script, Option.map_some,
    DriverScript.expand_join fun _ => file?_storeWithDriver notDriver, join_fileOrder]
  intro name name_mem
  obtain ⟨planned, planned_mem, rfl⟩ := List.mem_map.mp (List.mem_eraseDups.mp name_mem)
  exact ArtifactNature.not_mem_fileName (oneLine planned planned_mem)

/-- The driver script executes the artifacts in their stable arrangement by file, where the files
come in the order in which they were begun. So of two artifacts the first one is executed first,
unless the file of the second one was begun before its own. Content comes after a routine whose file
was begun no later, and content addressed to `content-all` before a routine whose file was begun no
earlier. -/
theorem driver_executes_by_file (noOpening : compilation.opening = "")
    (notDriver : ∀ planned ∈ compilation.plan.value.persistenceOrder,
      planned.name ≠ DriverScript.name)
    (oneLine : ∀ planned ∈ compilation.plan.value.persistenceOrder, '\n' ∉ planned.name.toList) :
    let order := compilation.plan.value.persistenceOrder
    ∃ whole,
      compilation.executedText = some whole ∧
        whole = String.join
          (compilation.executed.map fun planned => planned.artifact.text ++ "\n") ∧
        StablyArranged compilation.fileRank order compilation.executed ∧
        (∀ earlier later, [earlier, later].Sublist order →
          (compilation.fileRank earlier ≤ compilation.fileRank later →
            Text.Precedes whole earlier.artifact.text later.artifact.text) ∧
          (compilation.fileRank later < compilation.fileRank earlier →
            Text.Precedes whole later.artifact.text earlier.artifact.text)) ∧
        ∀ routine ∈ order, routine.IsRoutine → ∀ content ∈ order, content.bucket = .content →
          (content.name ≠ allContentName →
            compilation.fileRank routine ≤ compilation.fileRank content →
            Text.Precedes whole routine.artifact.text content.artifact.text) ∧
          (content.name = allContentName →
            compilation.fileRank content ≤ compilation.fileRank routine →
            Text.Precedes whole content.artifact.text routine.artifact.text) := by
  intro order
  have byFile := compilation.stablyArranged_executed
  have byRank := compilation.stablyArranged_persistenceOrder
  have precedes : ∀ first second, [first, second].Sublist compilation.executed →
      Text.Precedes (String.join (compilation.executed.map fun planned =>
        planned.artifact.text ++ "\n")) first.artifact.text second.artifact.text :=
    fun _ _ => Text.precedes_join
  refine ⟨_, executedText_eq noOpening notDriver oneLine, rfl, byFile, ?_, ?_⟩
  · intro earlier later pair
    refine ⟨fun rank_le => precedes _ _ (byFile.pair_of_le pair rank_le), fun rank_lt => ?_⟩
    exact precedes _ _ (byFile.pair_of_lt (pair.subset (by simp)) (pair.subset (by simp)) rank_lt)
  · intro routine routine_mem isRoutine content content_mem isContent
    have routine_rank := isRoutine.rank_bounds
    have inOrder : ∀ first ∈ order, ∀ second ∈ order, first.rank < second.rank →
        [first, second].Sublist order := fun first first_mem second second_mem =>
      byRank.pair_of_lt (byRank.perm.mem_iff.mp first_mem) (byRank.perm.mem_iff.mp second_mem)
    constructor
    · intro otherContent rank_le
      have content_rank := PlannedArtifact.rank_eq_nine_iff.mpr ⟨isContent, otherContent⟩
      have pair := inOrder routine routine_mem content content_mem (by omega)
      exact precedes _ _ (byFile.pair_of_le pair rank_le)
    · intro allContent rank_le
      have content_rank := PlannedArtifact.rank_eq_six_iff.mpr ⟨isContent, allContent⟩
      have pair := inOrder content content_mem routine routine_mem (by omega)
      exact precedes _ _ (byFile.pair_of_le pair rank_le)

/-- A function in a file of its own and content that goes back to the file of the tables: there it
is executed before the function, and other content in a later file after it. -/
theorem driver_executes_by_file_resumed :
    let name : Column := ⟨"Name", .text 20, false, false, false, false, none, false, []⟩
    let row (author : String) : ContentRow := ⟨"Author", [.valid "Name" (.text author)], none⟩
    let model : Model := {
      name := "library"
      tables := [⟨⟨"Author", [name]⟩, false, []⟩]
      functions := [⟨⟨⟨"Answer", []⟩, some [], .source "SELECT 42;", some "routines"⟩, false⟩]
      content := [⟨none, [row "Butler"]⟩, ⟨some "seed", [row "Le Guin"]⟩] }
    let compilation : Compilation := { dialect := .postgresql, model := model }
    let order := compilation.plan.value.persistenceOrder
    compilation.opening = "" ∧
      (∀ planned ∈ order, planned.name ≠ DriverScript.name) ∧
      (∀ planned ∈ order, '\n' ∉ planned.name.toList) ∧
      order.map (·.name) = ["library", "routines", "library", "seed"] ∧
      order.map compilation.fileRank = [0, 1, 0, 2] ∧
      ∃ whole,
        compilation.executedText = some whole ∧
          whole = String.join
            (compilation.executed.map fun planned => planned.artifact.text ++ "\n") ∧
          StablyArranged compilation.fileRank order compilation.executed ∧
          (∀ earlier later, [earlier, later].Sublist order →
            (compilation.fileRank earlier ≤ compilation.fileRank later →
              Text.Precedes whole earlier.artifact.text later.artifact.text) ∧
            (compilation.fileRank later < compilation.fileRank earlier →
              Text.Precedes whole later.artifact.text earlier.artifact.text)) ∧
          ∀ routine ∈ order, routine.IsRoutine → ∀ content ∈ order, content.bucket = .content →
            (content.name ≠ allContentName →
              compilation.fileRank routine ≤ compilation.fileRank content →
              Text.Precedes whole routine.artifact.text content.artifact.text) ∧
            (content.name = allContentName →
              compilation.fileRank content ≤ compilation.fileRank routine →
              Text.Precedes whole content.artifact.text routine.artifact.text) := by
  intro name row model compilation order
  have noOpening : compilation.opening = "" := rfl
  have names_eq : order.map (·.name) = ["library", "routines", "library", "seed"] := by
    decide +kernel
  have ranks_eq : order.map compilation.fileRank = [0, 1, 0, 2] := by
    rw [map_fileRank, fileOrder, names_eq]
    decide
  have names_fit : ∀ name ∈ order.map (·.name), name ≠ DriverScript.name ∧ '\n' ∉ name.toList := by
    rw [names_eq]
    decide
  have notDriver : ∀ planned ∈ order, planned.name ≠ DriverScript.name :=
    fun planned planned_mem => (names_fit _ (List.mem_map_of_mem planned_mem)).1
  have oneLine : ∀ planned ∈ order, '\n' ∉ planned.name.toList :=
    fun planned planned_mem => (names_fit _ (List.mem_map_of_mem planned_mem)).2
  exact ⟨noOpening, notDriver, oneLine, names_eq, ranks_eq,
    driver_executes_by_file noOpening notDriver oneLine⟩

/-- The driver script executes any two artifacts in the order in which they are persisted. -/
def DriverKeepsOrder (compilation : Compilation) : Prop :=
  ∃ whole, compilation.executedText = some whole ∧
    ∀ earlier later, [earlier, later].Sublist compilation.plan.value.persistenceOrder →
      Text.Precedes whole earlier.artifact.text later.artifact.text

/-- The order of execution is not that of persistence. Content addressed to `content-all` is
persisted before a function that goes to the file of the tables, and executed after it. And a file
whose name has a line end in it is not included at all, since its name ends with the line. -/
theorem not_driverKeepsOrder :
    let name : Column := ⟨"Name", .text 20, false, false, false, false, none, false, []⟩
    let row : ContentRow := ⟨"Author", [.valid "Name" (.text "Butler")], none⟩
    let library : Model := {
      name := "library"
      tables := [⟨⟨"Author", [name]⟩, false, []⟩]
      functions := [⟨⟨⟨"Answer", []⟩, some [], .source "SELECT 42;", none⟩, false⟩]
      content := [⟨some allContentName, [row]⟩] }
    let views : Model := {
      name := "library"
      tables := []
      views := [⟨⟨"First", []⟩, .statement "SELECT 1;", some "two\nlines"⟩,
        ⟨⟨"Second", []⟩, .statement "SELECT 2;", some "two\nlines"⟩] }
    let early : Compilation := { dialect := .postgresql, model := library }
    let lost : Compilation := { dialect := .postgresql, model := views }
    let earlyText := "CREATE TABLE IF NOT EXISTS author (\n    name VARCHAR(20) NOT NULL\n);\n"
      ++ "SELECT 42;\nSELECT * FROM plpgsql_check_function('answer');\n"
      ++ "INSERT INTO author (name) VALUES ('Butler');\n"
    (∀ planned ∈ early.plan.value.persistenceOrder, planned.name ≠ DriverScript.name) ∧
      early.executedText = some earlyText ∧
      ¬early.DriverKeepsOrder ∧
      (∀ planned ∈ lost.plan.value.persistenceOrder, planned.name ≠ DriverScript.name) ∧
      lost.executedText = some "\\include two\nlines.sql\n" ∧
      ¬lost.DriverKeepsOrder := by
  intro name row library views early lost earlyText
  let table : PlannedArtifact := ⟨.main, "library",
    ⟨.sql, "CREATE TABLE IF NOT EXISTS author (\n    name VARCHAR(20) NOT NULL\n);"⟩, .append "\n"⟩
  let content : PlannedArtifact := ⟨.content, "content-all",
    ⟨.sql, "INSERT INTO author (name) VALUES ('Butler');"⟩, .append "\n"⟩
  let function : PlannedArtifact := ⟨.storedFunctions, "library",
    ⟨.sql, "SELECT 42;\nSELECT * FROM plpgsql_check_function('answer');"⟩, .append "\n"⟩
  let first : PlannedArtifact := ⟨.views, "two\nlines", ⟨.sql, "SELECT 1;"⟩, .append "\n"⟩
  let second : PlannedArtifact := ⟨.views, "two\nlines", ⟨.sql, "SELECT 2;"⟩, .append "\n"⟩
  have early_order : early.plan.value.persistenceOrder = [table, content, function] := by
    decide +kernel
  have lost_order : lost.plan.value.persistenceOrder = [first, second] := by decide +kernel
  have notDriver : ∀ planned ∈ early.plan.value.persistenceOrder,
      planned.name ≠ DriverScript.name := by
    rw [early_order]
    decide
  have oneLine : ∀ planned ∈ early.plan.value.persistenceOrder, '\n' ∉ planned.name.toList := by
    rw [early_order]
    decide
  have early_text : early.executedText = some earlyText := by
    have files : early.inFile = fun name => [table, content, function].filter fun planned =>
        planned.name = name := by
      funext name
      rw [inFile, early_order]
    rw [executedText_eq rfl notDriver oneLine, executed, fileOrder, files, early_order]
    decide +kernel
  have lost_text : lost.executedText = some "\\include two\nlines.sql\n" := by decide +kernel
  refine ⟨notDriver, early_text, ?_, by rw [lost_order]; decide, lost_text, ?_⟩
  · rintro ⟨whole, whole_eq, keeps⟩
    have precedes := keeps content function (by simp [early_order])
    rw [early_text] at whole_eq
    cases whole_eq
    exact absurd precedes (by decide +kernel)
  · rintro ⟨whole, whole_eq, keeps⟩
    have precedes := keeps first second (by simp [lost_order])
    rw [lost_text] at whole_eq
    cases whole_eq
    exact absurd precedes (by decide +kernel)

end Compilation

end SchemaCompiler
