import Mathlib.Data.List.Induction
import Mathlib.Data.List.Perm.Basic
import SchemaCompiler.Artifact.Plan

/-!
# The order in which artifacts are persisted

A plan files its artifacts by bucket and reads the buckets out again one after the other, the bucket
of content in two parts. This file shows that nothing else happens to them: the persistence order is
the stable arrangement by rank of the artifacts that were pushed and have a text, where a main
artifact gives way to a later one.

The proof names the artifacts that survive the pushes and shows that the plan is what they are when
they are read rank by rank. Reading a list rank by rank is a stable arrangement of any list, and
leaving out artifacts keeps an arrangement stable.
-/

namespace SchemaCompiler

/-! ## Stable arrangements -/

/-- A list has the elements of another one in the order of their ranks, and elements of equal rank
in the order in which they stood. -/
structure StablyArranged {α : Type} (rank : α → Nat) (original arranged : List α) : Prop where
  /-- No element is lost or doubled. -/
  perm : arranged.Perm original
  /-- Ranks never decrease. -/
  ordered : arranged.Pairwise fun earlier later => rank earlier ≤ rank later
  /-- Elements of equal rank keep their order. -/
  stable : ∀ value,
    (arranged.filter fun element => rank element = value) =
      original.filter fun element => rank element = value

/-- The elements of a list whose ranks are less than a bound, rank by rank. -/
def rankByRank {α : Type} (rank : α → Nat) (elements : List α) (bound : Nat) : List α :=
  (List.range bound).flatMap fun value => elements.filter fun element => rank element = value

section Arrangement

variable {α : Type} {rank : α → Nat} {elements : List α} {bound : Nat}

theorem rankByRank_succ :
    rankByRank rank elements (bound + 1) =
      rankByRank rank elements bound ++ elements.filter fun element => rank element = bound := by
  simp [rankByRank, List.range_succ]

theorem rank_lt_of_mem_rankByRank {element : α}
    (element_mem : element ∈ rankByRank rank elements bound) : rank element < bound := by
  simp only [rankByRank, List.mem_flatMap, List.mem_range, List.mem_filter,
    decide_eq_true_eq] at element_mem
  rcases element_mem with ⟨value, value_lt, _, rank_eq⟩
  omega

theorem rankByRank_perm :
    (rankByRank rank elements bound).Perm
      (elements.filter fun element => rank element < bound) := by
  induction bound with
  | zero => simp [rankByRank]
  | succ bound ih =>
      rw [rankByRank_succ]
      -- Elements below the next bound are those below this one and those at it.
      have below : (elements.filter fun element => rank element < bound) =
          (elements.filter fun element => rank element < bound + 1).filter
            fun element => rank element < bound := by
        rw [List.filter_filter]
        apply List.filter_congr
        intro element _
        grind
      have atBound : (elements.filter fun element => rank element = bound) =
          (elements.filter fun element => rank element < bound + 1).filter
            fun element => !decide (rank element < bound) := by
        rw [List.filter_filter]
        apply List.filter_congr
        intro element _
        grind
      refine (ih.append_right _).trans ?_
      rw [below, atBound]
      exact List.filter_append_perm _ _

theorem rankByRank_ordered :
    (rankByRank rank elements bound).Pairwise
      fun earlier later => rank earlier ≤ rank later := by
  induction bound with
  | zero => simp [rankByRank]
  | succ bound ih =>
      rw [rankByRank_succ, List.pairwise_append]
      refine ⟨ih, ?_, ?_⟩
      · apply List.pairwise_of_forall_mem_list
        intro earlier earlier_mem later later_mem
        simp only [List.mem_filter, decide_eq_true_eq] at earlier_mem later_mem
        omega
      · intro earlier earlier_mem later later_mem
        have earlier_lt := rank_lt_of_mem_rankByRank earlier_mem
        simp only [List.mem_filter, decide_eq_true_eq] at later_mem
        omega

theorem filter_two_ranks {value other : Nat} (distinct : value ≠ other) :
    (elements.filter fun element =>
      decide (rank element = value) && decide (rank element = other)) = [] := by
  apply List.filter_eq_nil_iff.mpr
  intro element _
  grind

theorem filter_rankByRank (value : Nat) :
    ((rankByRank rank elements bound).filter fun element => rank element = value) =
      if value < bound then elements.filter fun element => rank element = value else [] := by
  induction bound with
  | zero => simp [rankByRank]
  | succ bound ih =>
      rw [rankByRank_succ, List.filter_append, ih, List.filter_filter]
      rcases Nat.lt_trichotomy value bound with lt | rfl | gt
      · simp [lt, filter_two_ranks (Nat.ne_of_lt lt), Nat.lt_succ_of_lt lt]
      · simp
      · simp [filter_two_ranks (Nat.ne_of_gt gt), Nat.not_lt.mpr (Nat.le_of_lt gt),
          show ¬value < bound + 1 by omega]

/-- Reading a list rank by rank arranges it stably, when no rank is left out. -/
theorem stablyArranged_rankByRank (rank_lt : ∀ element ∈ elements, rank element < bound) :
    StablyArranged rank elements (rankByRank rank elements bound) where
  perm := by
    have all_below : (elements.filter fun element => rank element < bound) = elements := by
      apply List.filter_eq_self.mpr
      intro element element_mem
      simpa using rank_lt element element_mem
    have arranged_perm : (rankByRank rank elements bound).Perm
        (elements.filter fun element => rank element < bound) := rankByRank_perm
    rwa [all_below] at arranged_perm
  ordered := rankByRank_ordered
  stable value := by
    rw [filter_rankByRank]
    split
    · rfl
    · rename_i not_lt
      symm
      apply List.filter_eq_nil_iff.mpr
      intro element element_mem
      have := rank_lt element element_mem
      grind

/-- Leaving out elements keeps an arrangement stable. -/
theorem StablyArranged.filter {arranged : List α} (keep : α → Bool)
    (arrangement : StablyArranged rank elements arranged) :
    StablyArranged rank (elements.filter keep) (arranged.filter keep) where
  perm := arrangement.perm.filter keep
  ordered := arrangement.ordered.filter keep
  stable value := by
    rw [List.filter_comm, arrangement.stable, List.filter_comm]

/-- Taking the elements of each key in turn arranges them stably by the place of their key. -/
theorem stablyArranged_flatMap_filter {κ : Type} [DecidableEq κ] {key : α → κ} {keys : List κ}
    (distinct : keys.Nodup) (key_mem : ∀ element ∈ elements, key element ∈ keys) :
    StablyArranged (fun element => keys.idxOf (key element)) elements
      (keys.flatMap fun value => elements.filter fun element => key element = value) := by
  have by_place : (keys.flatMap fun value => elements.filter fun element => key element = value) =
      rankByRank (fun element => keys.idxOf (key element)) elements keys.length := by
    rw [rankByRank, List.flatMap_def, List.flatMap_def]
    congr 1
    apply List.ext_getElem
    · simp
    · intro place place_lt _
      simp only [List.getElem_map, List.getElem_range]
      apply List.filter_congr
      intro element element_mem
      rw [List.length_map] at place_lt
      rw [decide_eq_decide]
      constructor
      · intro key_eq
        rw [key_eq, distinct.idxOf_getElem]
      · rintro rfl
        rw [List.getElem_idxOf]
  rw [by_place]
  apply stablyArranged_rankByRank
  intro element element_mem
  exact List.idxOf_lt_length_of_mem (key_mem element element_mem)

/-- An element of lesser rank comes first. -/
theorem StablyArranged.pair_of_lt {original arranged : List α}
    (stably : StablyArranged rank original arranged) {first second : α}
    (first_mem : first ∈ original) (second_mem : second ∈ original)
    (rank_lt : rank first < rank second) : [first, second].Sublist arranged := by
  obtain ⟨before, after, arranged_eq⟩ := List.append_of_mem (stably.perm.mem_iff.mpr first_mem)
  have second_mem := stably.perm.mem_iff.mpr second_mem
  have ordered := stably.ordered
  rw [arranged_eq] at second_mem ordered ⊢
  rw [List.pairwise_append] at ordered
  rcases List.mem_append.mp second_mem with earlier | later
  · have := ordered.2.2 second earlier first List.mem_cons_self
    omega
  · rcases List.mem_cons.mp later with rfl | later
    · exact absurd rank_lt (Nat.lt_irrefl _)
    · have pair := (List.singleton_sublist.mpr later).cons_cons first
      exact pair.trans (List.sublist_append_right _ _)

/-- Elements whose ranks do not decrease keep their order. -/
theorem StablyArranged.pair_of_le {original arranged : List α}
    (stably : StablyArranged rank original arranged) {first second : α}
    (pair : [first, second].Sublist original) (rank_le : rank first ≤ rank second) :
    [first, second].Sublist arranged := by
  rcases Nat.lt_or_eq_of_le rank_le with rank_lt | rank_eq
  · exact stably.pair_of_lt (pair.subset (by simp)) (pair.subset (by simp)) rank_lt
  · have same := pair.filter fun element => rank element = rank second
    rw [List.filter_eq_self.mpr (by simp [rank_eq]), ← stably.stable] at same
    exact same.trans List.filter_sublist
end Arrangement

/-! ## Ranks of artifacts -/

/-- How late the artifacts of a bucket are persisted. Content that comes before the routines has a
rank of its own. -/
def Bucket.rank : Bucket → Nat
  | .beforeStructs => 0
  | .main => 1
  | .structs => 2
  | .afterStructs => 3
  | .types => 4
  | .views => 5
  | .storedFunctions => 7
  | .storedProcedures => 8
  | .content => 9
  | .afterContent => 10

namespace PlannedArtifact

/-- How late an artifact is persisted. -/
def rank (planned : PlannedArtifact) : Nat :=
  if planned.bucket = .content ∧ planned.name = allContentName then 6 else planned.bucket.rank

/-- Whether an artifact defines routines. -/
def IsRoutine (planned : PlannedArtifact) : Prop :=
  planned.bucket = .storedFunctions ∨ planned.bucket = .storedProcedures

theorem rank_lt (planned : PlannedArtifact) : planned.rank < 11 := by
  unfold rank
  split
  · omega
  · cases planned.bucket <;> simp [Bucket.rank]

theorem rank_eq_bucket_rank_iff {planned : PlannedArtifact} {bucket : Bucket}
    (noContent : bucket ≠ .content) :
    planned.rank = bucket.rank ↔ planned.bucket = bucket := by
  cases bucket_eq : planned.bucket <;> cases bucket <;>
    simp_all [rank, Bucket.rank] <;> split <;> simp

theorem rank_eq_six_iff {planned : PlannedArtifact} :
    planned.rank = 6 ↔ planned.bucket = .content ∧ planned.name = allContentName := by
  cases bucket_eq : planned.bucket <;> simp [rank, Bucket.rank, bucket_eq]

theorem rank_eq_nine_iff {planned : PlannedArtifact} :
    planned.rank = 9 ↔ planned.bucket = .content ∧ planned.name ≠ allContentName := by
  cases bucket_eq : planned.bucket <;> simp [rank, Bucket.rank, bucket_eq]

theorem IsRoutine.rank_bounds {planned : PlannedArtifact} (routine : planned.IsRoutine) :
    6 < planned.rank ∧ planned.rank < 9 := by
  rcases routine with functions | procedures
  · simp [rank, Bucket.rank, functions]
  · simp [rank, Bucket.rank, procedures]

end PlannedArtifact

/-! ## What a plan holds after some pushes -/

namespace Plan

/-- The artifacts that stay in a plan of those that are pushed in turn. A main artifact only stays
if no other one follows. -/
def surviving : List PlannedArtifact → List PlannedArtifact
  | [] => []
  | planned :: rest =>
    if planned.bucket = .main ∧ ∃ later ∈ rest, later.bucket = .main then
      surviving rest
    else
      planned :: surviving rest

/-- A plan holds some artifacts, of which one is a main artifact. -/
structure Holds (plan : Plan) (held : List PlannedArtifact) : Prop where
  main : (held.filter fun planned => planned.bucket = .main) = [plan.main]
  others : (held.filter fun planned => planned.bucket ≠ .main) = plan.others

theorem Holds.filed {plan : Plan} {held : List PlannedArtifact} (holds : plan.Holds held)
    {bucket : Bucket} (notMain : bucket ≠ .main) :
    plan.filed bucket = held.filter fun planned => planned.bucket = bucket := by
  rw [Plan.filed, ← holds.others, List.filter_filter]
  apply List.filter_congr
  intro planned _
  grind

/-- Outside of content, a bucket is what has its rank. -/
theorem Holds.filed_eq_filter_rank {plan : Plan} {held : List PlannedArtifact}
    (holds : plan.Holds held) {bucket : Bucket} (notMain : bucket ≠ .main)
    (noContent : bucket ≠ .content) :
    plan.filed bucket = held.filter fun planned => planned.rank = bucket.rank := by
  rw [holds.filed notMain]
  apply List.filter_congr
  intro planned _
  simp [PlannedArtifact.rank_eq_bucket_rank_iff noContent]

theorem Holds.main_eq_filter_rank {plan : Plan} {held : List PlannedArtifact}
    (holds : plan.Holds held) :
    [plan.main] = held.filter fun planned => planned.rank = Bucket.main.rank := by
  rw [← holds.main]
  apply List.filter_congr
  intro planned _
  simp [PlannedArtifact.rank_eq_bucket_rank_iff]

theorem Holds.allContent_eq_filter_rank {plan : Plan} {held : List PlannedArtifact}
    (holds : plan.Holds held) :
    (plan.filed .content).filter (·.isAllContent) =
      held.filter fun planned => planned.rank = 6 := by
  rw [holds.filed (by decide), List.filter_filter]
  apply List.filter_congr
  intro planned _
  simp [PlannedArtifact.rank_eq_six_iff, PlannedArtifact.isAllContent, Bool.and_comm,
    Bool.beq_eq_decide_eq]

theorem Holds.otherContent_eq_filter_rank {plan : Plan} {held : List PlannedArtifact}
    (holds : plan.Holds held) :
    (plan.filed .content).filter (!·.isAllContent) =
      held.filter fun planned => planned.rank = 9 := by
  rw [holds.filed (by decide), List.filter_filter]
  apply List.filter_congr
  intro planned _
  simp [PlannedArtifact.rank_eq_nine_iff, PlannedArtifact.isAllContent, Bool.and_comm,
    Bool.beq_eq_decide_eq]

/-- The order of a plan is that of the ranks of the artifacts that it holds. -/
theorem Holds.ordered_eq {plan : Plan} {held : List PlannedArtifact} (holds : plan.Holds held) :
    plan.ordered = rankByRank PlannedArtifact.rank held 11 := by
  rw [Plan.ordered, holds.main_eq_filter_rank, holds.allContent_eq_filter_rank,
    holds.otherContent_eq_filter_rank]
  simp only [holds.filed_eq_filter_rank, ne_eq, reduceCtorEq, not_false_eq_true]
  simp only [rankByRank, List.range_succ, List.range_zero, List.nil_append, List.flatMap_append,
    List.flatMap_singleton, List.append_assoc]
  rfl

theorem Holds.stablyArranged {plan : Plan} {held : List PlannedArtifact}
    (holds : plan.Holds held) :
    StablyArranged PlannedArtifact.rank held plan.ordered := by
  rw [holds.ordered_eq]
  exact stablyArranged_rankByRank fun planned _ => planned.rank_lt

theorem surviving_eq_self {pushed : List PlannedArtifact}
    (noMain : ∀ planned ∈ pushed, planned.bucket ≠ .main) : surviving pushed = pushed := by
  induction pushed with
  | nil => rfl
  | cons planned rest ih =>
      simp only [List.forall_mem_cons] at noMain
      simp [surviving, noMain.1, ih noMain.2]

theorem surviving_append_main {pushed : List PlannedArtifact} {planned : PlannedArtifact}
    (isMain : planned.bucket = .main) :
    surviving (pushed ++ [planned]) =
      (surviving pushed).filter (fun planned => planned.bucket ≠ .main) ++ [planned] := by
  induction pushed with
  | nil => simp [surviving]
  | cons first rest ih =>
      by_cases first_main : first.bucket = .main
      · by_cases replaced : ∃ later ∈ rest, later.bucket = .main <;>
          simp [surviving, first_main, isMain, ih, replaced]
      · simp [surviving, first_main, ih]

theorem surviving_append_other {pushed : List PlannedArtifact} {planned : PlannedArtifact}
    (notMain : planned.bucket ≠ .main) :
    surviving (pushed ++ [planned]) = surviving pushed ++ [planned] := by
  induction pushed with
  | nil => simp [surviving]
  | cons first rest ih =>
      by_cases replaced : first.bucket = .main ∧ ∃ later ∈ rest, later.bucket = .main
      · simp [surviving, replaced, ih, notMain]
      · simp [surviving, replaced, ih, notMain]

/-- What a plan holds, one more artifact replaces or joins. -/
theorem Holds.push {plan : Plan} {pushed : List PlannedArtifact} {planned : PlannedArtifact}
    (holds : plan.Holds (surviving pushed)) :
    (plan.push planned).Holds (surviving (pushed ++ [planned])) := by
  by_cases isMain : planned.bucket = .main
  · rw [surviving_append_main isMain, Plan.push, if_pos isMain]
    constructor
    · simp [isMain]
    · simp [isMain, ← holds.others]
  · rw [surviving_append_other isMain, Plan.push, if_neg isMain]
    constructor
    · simp [isMain, holds.main]
    · rw [← holds.others]
      simp [isMain]

/-- A plan holds what survives of the artifacts that were pushed. -/
theorem holds_pushAll {main : PlannedArtifact} (isMain : main.bucket = .main)
    (pushed : List PlannedArtifact) :
    (Plan.pushAll ⟨main, []⟩ pushed).Holds (surviving (main :: pushed)) := by
  induction pushed using List.reverseRecOn with
  | nil => constructor <;> simp [Plan.pushAll, surviving, isMain]
  | append_singleton pushed planned ih =>
      rw [← List.cons_append, Plan.pushAll, List.foldl_append]
      exact ih.push

/-- The persistence order is the stable arrangement by rank of the artifacts that survive the
pushes and have a text. Content comes after all routines, but content addressed to `content-all`
comes before them. -/
theorem persistenceOrder_pushAll (main : PlannedArtifact) (pushed : List PlannedArtifact)
    (isMain : main.bucket = .main) :
    let order := (Plan.pushAll ⟨main, []⟩ pushed).persistenceOrder
    StablyArranged PlannedArtifact.rank
        ((surviving (main :: pushed)).filter (!·.artifact.isEmpty)) order ∧
      order.Pairwise fun earlier later =>
        (earlier.bucket = .content ∧ earlier.name ≠ allContentName → ¬later.IsRoutine) ∧
          (earlier.IsRoutine → ¬(later.bucket = .content ∧ later.name = allContentName)) := by
  intro order
  have arranged := (holds_pushAll isMain pushed).stablyArranged.filter (!·.artifact.isEmpty)
  refine ⟨arranged, arranged.ordered.imp ?_⟩
  intro earlier later rank_le
  constructor
  · intro otherContent routine
    have earlier_rank := PlannedArtifact.rank_eq_nine_iff.mpr otherContent
    have later_rank := routine.rank_bounds
    omega
  · intro routine allContent
    have earlier_rank := routine.rank_bounds
    have later_rank := PlannedArtifact.rank_eq_six_iff.mpr allContent
    omega

/-- A main artifact that gives way to a later one, content on both sides of the routines, and a view
without text. -/
theorem persistenceOrder_pushAll_interleaved :
    let main : PlannedArtifact := ⟨.main, "library", ⟨.sql, "first tables"⟩, .append "\n"⟩
    let pushed : List PlannedArtifact := [
      ⟨.content, "library", ⟨.sql, "seed"⟩, .append "\n"⟩,
      ⟨.storedProcedures, "library", ⟨.sql, "procedure"⟩, .append "\n"⟩,
      ⟨.content, "content-all", ⟨.sql, "early seed"⟩, .append "\n"⟩,
      ⟨.views, "library", ⟨.sql, ""⟩, .append "\n"⟩,
      ⟨.main, "library", ⟨.sql, "tables"⟩, .append "\n"⟩,
      ⟨.storedFunctions, "library", ⟨.sql, "function"⟩, .append "\n"⟩]
    let order := (Plan.pushAll ⟨main, []⟩ pushed).persistenceOrder
    main.bucket = .main ∧
      order.map (·.artifact.text) = ["tables", "early seed", "function", "procedure", "seed"] ∧
      StablyArranged PlannedArtifact.rank
        ((surviving (main :: pushed)).filter (!·.artifact.isEmpty)) order := by
  intro main pushed order
  exact ⟨rfl, by decide, (persistenceOrder_pushAll main pushed rfl).1⟩

end Plan

end SchemaCompiler
