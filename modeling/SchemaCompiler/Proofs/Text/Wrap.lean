import Mathlib.Data.List.Infix
import SchemaCompiler.Text.Wrap

/-!
# Filled lines

A text is wrapped by filling lines with its words: a line takes each word that is left, as long as
it stays within the width. So the lines have all words in order, and none is wider than the width
unless it consists of a single word. No other division of the words into such lines has fewer of
them.

That filling is the best is an exchange argument. A division that has come as far as the filled
lines, or less far, does not get ahead of them in its next line: that line would hold the filled one
and the word behind it, which do not fit together.
-/

namespace SchemaCompiler

namespace Text

/-! ## Words -/

/-- The words of some characters are what stands between the blanks. -/
theorem words_eq_filter_splitOnP (characters : List Char) :
    words characters = (characters.splitOnP isBlank).filter (· ≠ []) := by
  induction characters with
  | nil => simp [words]
  | cons character rest ih =>
      rw [words.eq_def, List.splitOnP_cons_eq_if_modifyHead]
      by_cases blank : isBlank character
      · simp [blank, ih]
      · cases rest with
        | nil => simp [blank]
        | cons next rest =>
            -- The word goes on with the next character, unless that one is blank.
            rw [List.splitOnP_cons_eq_if_modifyHead] at ih ⊢
            by_cases nextBlank : isBlank next
            · simp_all
            · obtain ⟨word, later, split⟩ :=
                List.exists_cons_of_ne_nil (List.splitOnP_ne_nil isBlank rest)
              simp_all

/-! ## Divisions into lines -/

/-- The words of a line, set apart by single blanks. -/
def lineText (line : List String) : String :=
  " ".intercalate line

/-- A division of words into consecutive lines, each of which stays within the width or has only one
word. -/
structure Divides (width : Nat) (lines : List (List String)) (words : List String) : Prop where
  flatten_eq : lines.flatten = words
  nonempty : [] ∉ lines
  fits : ∀ line ∈ lines, (lineText line).utf8ByteSize ≤ width ∨ line.length = 1

variable {width : Nat}

theorem utf8ByteSize_lineText_append {line further : List String} (line_ne : line ≠ [])
    (further_ne : further ≠ []) :
    (lineText (line ++ further)).utf8ByteSize =
      (lineText line).utf8ByteSize + 1 + (lineText further).utf8ByteSize := by
  have blank : " ".utf8ByteSize = 1 := by decide
  simp only [lineText, String.intercalate_append_of_ne_nil line_ne further_ne,
    String.utf8ByteSize_append, blank]

@[simp]
theorem lineText_singleton (word : String) : lineText [word] = word :=
  String.intercalate_singleton

theorem lineText_concat {line : List String} (line_ne : line ≠ []) (word : String) :
    lineText (line ++ [word]) = lineText line ++ " " ++ word := by
  rw [lineText, String.intercalate_append_of_ne_nil line_ne (List.cons_ne_nil _ _),
    String.intercalate_singleton, lineText]

/-- A line is as wide as any of its parts. -/
theorem utf8ByteSize_lineText_le {part line : List String} (isPart : part <:+: line) :
    (lineText part).utf8ByteSize ≤ (lineText line).utf8ByteSize := by
  have append_le (first second : List String) :
      (lineText first).utf8ByteSize ≤ (lineText (first ++ second)).utf8ByteSize ∧
        (lineText second).utf8ByteSize ≤ (lineText (first ++ second)).utf8ByteSize := by
    by_cases first_eq : first = []
    · simp [first_eq, lineText]
    · by_cases second_eq : second = []
      · simp [second_eq, lineText]
      · rw [utf8ByteSize_lineText_append first_eq second_eq]
        omega
  obtain ⟨before, after, rfl⟩ := isPart
  exact (append_le before part).2.trans (append_le (before ++ part) after).1

namespace Divides

variable {line rest : List String} {word : String} {lines others : List (List String)}

theorem ne_nil {words : List String} (divides : Divides width lines words) (words_ne : words ≠ []) :
    lines ≠ [] := by
  rintro rfl
  exact words_ne divides.flatten_eq.symm

/-- A line followed by a division of the other words. -/
theorem cons (line_ne : line ≠ [])
    (line_fits : (lineText line).utf8ByteSize ≤ width ∨ line.length = 1)
    (divides : Divides width lines rest) : Divides width (line :: lines) (line ++ rest) where
  flatten_eq := by rw [List.flatten_cons, divides.flatten_eq]
  nonempty := by
    rw [List.mem_cons, not_or]
    exact ⟨line_ne.symm, divides.nonempty⟩
  fits := List.forall_mem_cons.mpr ⟨line_fits, divides.fits⟩

theorem tail {first : List String} {later : List (List String)} {words : List String}
    (divides : Divides width (first :: later) words) :
    Divides width later later.flatten where
  flatten_eq := rfl
  nonempty := fun empty_mem => divides.nonempty (List.mem_cons_of_mem _ empty_mem)
  fits := fun line line_mem => divides.fits line (List.mem_cons_of_mem _ line_mem)

/-- Where a line and the word behind it do not fit together, the first line of a division ends
before that word, so the word is left to the later lines. -/
theorem exists_later {before : List String}
    (divides : Divides width others (before ++ line ++ word :: rest)) (line_ne : line ≠ [])
    (tooWide : width < (lineText line).utf8ByteSize + 1 + word.utf8ByteSize) :
    ∃ first later between, others = first :: later ∧
      Divides width later (between ++ word :: rest) := by
  obtain ⟨first, later, rfl⟩ := List.exists_cons_of_ne_nil (divides.ne_nil (by simp))
  have split : first ++ later.flatten = (before ++ line) ++ word :: rest := divides.flatten_eq
  rcases List.append_eq_append_iff.mp split with
    ⟨between, -, later_eq⟩ | ⟨further, first_eq, rest_eq⟩
  · exact ⟨first, later, between, rfl, later_eq ▸ divides.tail⟩
  · cases further with
    | nil => exact ⟨first, later, [], rfl, rest_eq ▸ divides.tail⟩
    | cons next further =>
        -- Now the first line holds the given one and the word, which is more than the width.
        obtain ⟨rfl, -⟩ := List.cons.inj rest_eq
        have isPart : line ++ [word] <:+: first := ⟨before, further, by simp [first_eq]⟩
        have part_le := utf8ByteSize_lineText_le isPart
        rw [utf8ByteSize_lineText_append line_ne (List.cons_ne_nil _ _), lineText_singleton]
          at part_le
        have several : first.length ≠ 1 := by
          have := List.length_pos_of_ne_nil line_ne
          simp only [first_eq, List.length_append, List.length_cons]
          omega
        have narrow := (divides.fits first List.mem_cons_self).resolve_right several
        omega

end Divides

/-! ## Filling -/

/-- Filling on from a line gives a division of its words and those that are left. -/
theorem exists_divides_fillFrom {line : List String} (line_ne : line ≠ [])
    (line_fits : (lineText line).utf8ByteSize ≤ width ∨ line.length = 1) (rest : List String) :
    ∃ lines, fillFrom width (lineText line) rest = lines.map lineText ∧
      Divides width lines (line ++ rest) := by
  induction rest generalizing line with
  | nil => exact ⟨[line], rfl, Divides.cons line_ne line_fits ⟨rfl, by simp, by simp⟩⟩
  | cons word rest ih =>
      rw [fillFrom]
      split
      · obtain ⟨lines, filled, divides⟩ := ih (List.cons_ne_nil word []) (.inr rfl)
        refine ⟨line :: lines, ?_, divides.cons line_ne line_fits⟩
        rw [List.map_cons, ← filled, lineText_singleton]
      · rename_i notTooWide
        have fits : (lineText (line ++ [word])).utf8ByteSize ≤ width := by
          rw [utf8ByteSize_lineText_append line_ne (List.cons_ne_nil _ _), lineText_singleton]
          exact Nat.le_of_not_lt notTooWide
        rw [← lineText_concat line_ne, List.append_cons line word rest]
        exact ih (by simp) (.inl fits)

/-- No division of the words has fewer lines than filling on from a line gives, not even with
further words before that line. -/
theorem length_fillFrom_le {before line rest : List String} {others : List (List String)}
    (line_ne : line ≠ []) (divides : Divides width others (before ++ line ++ rest)) :
    (fillFrom width (lineText line) rest).length ≤ others.length := by
  induction rest generalizing before line others with
  | nil =>
      rw [fillFrom]
      exact List.length_pos_of_ne_nil (divides.ne_nil (by simp [line_ne]))
  | cons word rest ih =>
      rw [fillFrom]
      split
      · rename_i tooWide
        obtain ⟨first, later, between, rfl, laterDivides⟩ := divides.exists_later line_ne tooWide
        rw [List.append_cons between word rest] at laterDivides
        have later_le := ih (List.cons_ne_nil word []) laterDivides
        rw [lineText_singleton] at later_le
        exact Nat.succ_le_succ later_le
      · rw [List.append_cons, List.append_assoc before] at divides
        rw [← lineText_concat line_ne]
        exact ih (by simp) divides

/-- Wrapping divides the words of a text into lines and joins them. Each line stays within the width
or is a single word, and no other such division of the words has fewer lines. -/
theorem wrap_divides_into_fewest_lines (text : String) (width : Nat) (newline : String) :
    let words := ((text.toList.splitOnP isBlank).filter (· ≠ [])).map String.ofList
    ∃ lines : List (List String),
      wrap text width newline = newline.intercalate (lines.map lineText) ∧
        Divides width lines words ∧
        ∀ others, Divides width others words → lines.length ≤ others.length := by
  intro words
  rw [wrap, words_eq_filter_splitOnP]
  change ∃ lines, newline.intercalate (fill width words) = _ ∧ _
  cases words with
  | nil => exact ⟨[], rfl, ⟨rfl, by simp, by simp⟩, fun _ _ => Nat.zero_le _⟩
  | cons word rest =>
      obtain ⟨lines, filled, divides⟩ :=
        exists_divides_fillFrom (List.cons_ne_nil word []) (.inr rfl) rest
      have fill_eq : fill width (word :: rest) = lines.map lineText := by
        rw [← filled, lineText_singleton, fill]
      refine ⟨lines, by rw [fill_eq], divides, ?_⟩
      intro others othersDivide
      rw [← List.nil_append (word :: rest), List.append_cons] at othersDivide
      have filled_le := length_fillFrom_le (List.cons_ne_nil word []) othersDivide
      rwa [filled, List.length_map] at filled_le

-- A word that is wider than the width stands alone, between lines that could hold more.
example : wrap "an  unabridged\tedition of it" 6 "\n" = "an\nunabridged\nedition\nof it" := by
  decide +kernel

end Text

end SchemaCompiler
