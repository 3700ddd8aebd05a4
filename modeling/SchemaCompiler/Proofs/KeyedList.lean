import Mathlib.Data.List.Nodup

/-!
# Lists with one element for each key

The artifacts of a store, the results of a directory and the nodes of a file tree are lists in which
an element takes the place of the one of its key, or goes to the end. This file gives that operation
once, with what it does to the keys, to look-ups and to the images of the elements.
-/

namespace SchemaCompiler

namespace Keyed

variable {κ α β : Type} [DecidableEq κ]

/-- Puts an element in the place of the one of its key, or at the end. -/
def put (key : α → κ) (element : α) : List α → List α
  | [] => [element]
  | other :: rest =>
    if key other = key element then
      element :: rest
    else
      other :: put key element rest

theorem keys_put (key : α → κ) (element : α) (elements : List α) :
    (put key element elements).map key =
      if key element ∈ elements.map key then
        elements.map key
      else
        elements.map key ++ [key element] := by
  induction elements with
  | nil => rfl
  | cons other rest ih =>
      by_cases same : key other = key element
      · simp [put, same]
      · simp only [put, if_neg same, List.map_cons, ih, List.mem_cons, Ne.symm same, false_or]
        split <;> rfl

/-- An element with a new key goes to the end. -/
theorem put_of_not_mem {key : α → κ} {element : α} {elements : List α}
    (new : key element ∉ elements.map key) : put key element elements = elements ++ [element] := by
  induction elements with
  | nil => rfl
  | cons other rest ih =>
      rw [List.map_cons, List.mem_cons, not_or] at new
      rw [put, if_neg (Ne.symm new.1), ih new.2, List.cons_append]

/-- With distinct keys, an element with a known key takes the place of the one of its key, and
nothing else changes. -/
theorem put_of_mem {key : α → κ} {element : α} {elements : List α}
    (distinct : (elements.map key).Nodup) (known : key element ∈ elements.map key) :
    put key element elements =
      elements.map fun other => if key other = key element then element else other := by
  induction elements with
  | nil => cases known
  | cons other rest ih =>
      rw [List.map_cons, List.nodup_cons] at distinct
      by_cases same : key other = key element
      · have unchanged : ∀ later ∈ rest,
            (if key later = key element then element else later) = later := by
          intro later later_mem
          rw [if_neg]
          intro again
          rw [← same] at again
          exact distinct.1 (again ▸ List.mem_map_of_mem later_mem)
        rw [put, if_pos same, List.map_cons, if_pos same, List.map_congr_left unchanged,
          List.map_id']
      · have later : key element ∈ rest.map key := by
          rw [List.map_cons, List.mem_cons] at known
          exact known.resolve_left (Ne.symm same)
        rw [put, if_neg same, List.map_cons, if_neg same, ih distinct.2 later]

theorem eq_or_mem_of_mem_put {key : α → κ} {element other : α} {elements : List α}
    (other_mem : other ∈ put key element elements) : other = element ∨ other ∈ elements := by
  induction elements with
  | nil => exact .inl (List.mem_singleton.mp other_mem)
  | cons first rest ih =>
      rw [put] at other_mem
      split at other_mem
      · exact (List.mem_cons.mp other_mem).imp id (List.mem_cons_of_mem first)
      · rcases List.mem_cons.mp other_mem with rfl | later
        · exact .inr List.mem_cons_self
        · exact (ih later).imp id (List.mem_cons_of_mem first)

/-- What is put for a key is all that the key leads to. -/
theorem lookup_put [BEq κ] [LawfulBEq κ] (key : κ) (value : β) (entries : List (κ × β))
    (other : κ) :
    (put Prod.fst (key, value) entries).lookup other =
      if other = key then some value else entries.lookup other := by
  induction entries with
  | nil => by_cases same : other = key <;> simp [put, same]
  | cons entry rest ih =>
      rcases entry with ⟨first, old⟩
      by_cases first_eq : first = key
      · subst first
        by_cases same : other = key
        · simp [put, same]
        · simp [put, same, List.lookup_cons, beq_eq_false_iff_ne.mpr same]
      · simp only [put, if_neg first_eq, List.lookup_cons, ih]
        by_cases same : other = first
        · subst other
          simp [first_eq]
        · simp [beq_eq_false_iff_ne.mpr same]

/-- A change that keeps the keys can be made before or after. -/
theorem map_put (key : α → κ) (otherKey : β → κ) (change : α → β)
    (sameKey : ∀ element, otherKey (change element) = key element) (element : α)
    (elements : List α) :
    (put key element elements).map change =
      put otherKey (change element) (elements.map change) := by
  induction elements with
  | nil => rfl
  | cons other rest ih =>
      simp only [put, List.map_cons, sameKey]
      split <;> simp [ih]

/-- With distinct keys, every entry is what its key leads to. -/
theorem lookup_eq_some_of_mem {entries : List (κ × β)} (distinct : (entries.map Prod.fst).Nodup)
    {key : κ} {value : β} (entry_mem : (key, value) ∈ entries) :
    entries.lookup key = some value := by
  induction entries with
  | nil => simp at entry_mem
  | cons entry rest ih =>
      rw [List.map_cons, List.nodup_cons] at distinct
      rcases List.mem_cons.mp entry_mem with rfl | rest_mem
      · simp
      · have key_ne : key ≠ entry.1 := by
          rintro rfl
          exact distinct.1 (List.mem_map.mpr ⟨_, rest_mem, rfl⟩)
        rw [List.lookup_cons, beq_eq_false_iff_ne.mpr key_ne]
        exact ih distinct.2 rest_mem

omit [DecidableEq κ] in
/-- With distinct keys, every element is the first one of its key. -/
theorem find?_eq_some_of_mem [BEq κ] [LawfulBEq κ] {key : α → κ} {elements : List α}
    (distinct : (elements.map key).Nodup) {element : α} (element_mem : element ∈ elements) :
    (elements.find? fun other => key other == key element) = some element := by
  obtain ⟨found, found_eq⟩ : ∃ found,
      (elements.find? fun other => key other == key element) = some found := by
    rw [← Option.isSome_iff_exists, List.find?_isSome]
    exact ⟨element, element_mem, beq_self_eq_true _⟩
  have same : key found = key element := by simpa using List.find?_some found_eq
  rw [found_eq, List.inj_on_of_nodup_map distinct (List.mem_of_find?_eq_some found_eq) element_mem
    same]

/-- A list of keys in the order in which they first came up grows by the keys that are new. -/
theorem eraseDups_append_singleton (keys : List κ) (key : κ) :
    (keys ++ [key]).eraseDups =
      if key ∈ keys then keys.eraseDups else keys.eraseDups ++ [key] := by
  rw [List.eraseDups_append, List.removeAll, List.filter_singleton]
  by_cases known : key ∈ keys
  · simp [known]
  · simp [known, List.eraseDups_cons]

end Keyed

end SchemaCompiler
