import SchemaCompiler.Path

/-!
# The parts of joined paths

The path of an entry of a directory has the parts of the directory and then the name of the entry,
however the path of the directory ends. It starts where the path of the directory starts. A name is
plain, that is a single step downwards without separators, if it is none of three texts and holds
none of two characters.
-/

namespace SchemaCompiler

namespace Path

/-! ## Splitting -/

theorem split_ne_nil (text : List Char) : split text ≠ [] := by
  cases text with
  | nil => simp [split]
  | cons character rest =>
      simp only [split]
      split
      · simp
      · split <;> simp

theorem split_of_not_mem {text : List Char} (noSlash : '/' ∉ text) : split text = [text] := by
  induction text with
  | nil => rfl
  | cons character rest ih =>
      simp only [List.mem_cons, not_or] at noSlash
      simp [split, Ne.symm noSlash.1, ih noSlash.2]

theorem split_append_slash (text rest : List Char) :
    split (text ++ '/' :: rest) = split text ++ split rest := by
  induction text with
  | nil => simp [split]
  | cons character text ih =>
      by_cases slash : character = '/'
      · simp [split, slash, ih]
      · simp only [List.cons_append, split, if_neg slash, ih]
        cases first : split text with
        | nil => exact absurd first (split_ne_nil text)
        | cons part parts => rfl

theorem parts_of_not_mem {name : String} (noSlash : '/' ∉ name.toList) : parts name = [name] := by
  simp [parts, split_of_not_mem noSlash]

theorem parts_append_slash (path rest : String) :
    parts (path ++ "/" ++ rest) = parts path ++ parts rest := by
  simp [parts, split_append_slash]

theorem isAbsolute_of_not_mem {name : String} (noSlash : '/' ∉ name.toList) :
    isAbsolute name = false := by
  have head_ne : name.toList.head? ≠ some '/' := fun head_eq =>
    noSlash (List.mem_of_mem_head? head_eq)
  simp [isAbsolute, head_ne]

/-! ## Entries of a directory -/

/-- The parts of a directory lead its entries, but for an empty part after a last slash. -/
theorem parts_join (directory : String) {name : String} (noSlash : '/' ∉ name.toList) :
    ∃ leading, (parts directory = leading ∨ parts directory = leading ++ [""]) ∧
      parts (join directory name) = leading ++ [name] := by
  by_cases empty : directory = ""
  · subst empty
    exact ⟨[], Or.inr rfl, by simp [join, parts_of_not_mem noSlash]⟩
  by_cases slashed : directory.toList.getLast? = some '/'
  · rcases List.getLast?_eq_some_iff.mp slashed with ⟨before, directory_eq⟩
    have directory_parts : directory = String.ofList before ++ "/" ++ "" := by
      rw [← String.toList_inj]
      simp [directory_eq]
    refine ⟨parts (String.ofList before), Or.inr ?_, ?_⟩
    · rw [directory_parts, parts_append_slash]
      rfl
    · have joined : join directory name = String.ofList before ++ "/" ++ name := by
        rw [← String.toList_inj]
        simp [join, directory_eq]
      rw [joined, parts_append_slash, parts_of_not_mem noSlash]
  · refine ⟨parts directory, Or.inl rfl, ?_⟩
    have joined : join directory name = directory ++ "/" ++ name := by
      simp [join, empty, slashed]
    rw [joined, parts_append_slash, parts_of_not_mem noSlash]

theorem isAbsolute_join (directory : String) {name : String} (noSlash : '/' ∉ name.toList) :
    isAbsolute (join directory name) = isAbsolute directory := by
  by_cases empty : directory = ""
  · subst empty
    have relative : isAbsolute "" = false := rfl
    simp [join, isAbsolute_of_not_mem noSlash, relative]
  · have toList_ne : directory.toList ≠ [] := by simpa using empty
    cases directory_eq : directory.toList with
    | nil => exact absurd directory_eq toList_ne
    | cons character rest =>
        simp only [join, isAbsolute, directory_eq]
        split <;> simp [directory_eq]

/-! ## Plain names -/

/-- A text without slashes is at most one step. -/
theorem components_of_not_mem {name : String} (noSlash : '/' ∉ name.toList) :
    components name = if name = "." then [.current] else (component? name).toList := by
  simp only [components, isAbsolute_of_not_mem noSlash, parts_of_not_mem noSlash]
  by_cases dot : name = "."
  · subst dot
    rfl
  · cases step : component? name <;> simp [dot, step]

theorem any_isSeparator (text : List Char) :
    text.any isSeparator ↔ '/' ∈ text ∨ '\\' ∈ text := by
  simp only [List.any_eq_true, isSeparator]
  grind

/-- A plain name has no separators and leads somewhere below. -/
theorem isPlainName_iff {name : String} :
    isPlainName name ↔
      name ≠ "" ∧ name ≠ "." ∧ name ≠ ".." ∧ '/' ∉ name.toList ∧ '\\' ∉ name.toList := by
  by_cases separated : name.toList.any isSeparator
  · have separator := (any_isSeparator name.toList).mp separated
    simp only [isPlainName, separated, Bool.not_true, Bool.false_and]
    constructor
    · nofun
    · rintro ⟨_, _, _, noSlash, noBackslash⟩
      exact absurd separator (by simp [noSlash, noBackslash])
  · have noSeparator : ¬('/' ∈ name.toList ∨ '\\' ∈ name.toList) :=
      fun separator => separated ((any_isSeparator name.toList).mpr separator)
    rw [not_or] at noSeparator
    simp only [isPlainName, separated, components_of_not_mem noSeparator.1, component?, isFiller]
    -- Each of the three names that lead nowhere below takes one branch.
    by_cases dot : name = "."
    · simp [dot]
    · by_cases empty : name = ""
      · simp [empty]
      · by_cases dots : name = ".."
        · simp [dots]
        · simp [dot, empty, dots, noSeparator]

theorem not_mem_of_isPlainName {name : String} (plain : isPlainName name) :
    '/' ∉ name.toList :=
  (isPlainName_iff.mp plain).2.2.2.1

end Path

end SchemaCompiler
