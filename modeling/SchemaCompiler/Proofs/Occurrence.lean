import Mathlib.Data.List.Infix
import SchemaCompiler.Proofs.Exposure

/-!
# Occurrences of a word

How often a word stands in a text. Where two texts are put together, an occurrence can go across the
boundary, so counting is additive only where the boundary rules that out: `Apart` says so, and
`occurrences_append` is the law. A text that shares no character with the start of the word, or
begins with a character that the word does not have, is always apart from its neighbour.
-/

namespace SchemaCompiler

namespace Text

/-- How often a word stands in some characters. -/
def occurrences (word : List Char) : List Char → Nat
  | [] => 0
  | character :: rest => (if word <+: character :: rest then 1 else 0) + occurrences word rest

/-- How often a word stands in a text. -/
def count (word text : String) : Nat :=
  occurrences word.toList text.toList

/-- No occurrence of a word begins in one text and ends in the next. -/
def Apart (word before after : List Char) : Prop :=
  ∀ start rest, word = start ++ rest → start ≠ [] → rest ≠ [] → start <:+ before → ¬rest <+: after

variable {word before after text : List Char} {character : Char}

theorem occurrences_eq_zero_iff (word_ne : word ≠ []) :
    occurrences word text = 0 ↔ ¬word <:+: text := by
  induction text with
  | nil => simp [occurrences, word_ne]
  | cons character text ih =>
      rw [occurrences, List.infix_cons_iff, not_or, Nat.add_eq_zero_iff, ih]
      simp

/-- A word of two characters stands at the front of a text, or further behind. -/
theorem occurrences_pair (first second character : Char) (text : List Char) :
    occurrences [first, second] (character :: text) =
      (if first = character ∧ text.head? = some second then 1 else 0)
        + occurrences [first, second] text := by
  rw [occurrences]
  simp only [List.cons_prefix_cons, List.singleton_prefix_iff_head?_eq_some]

theorem Apart.of_cons (apart : Apart word (character :: before) after) : Apart word before after :=
  fun start rest split start_ne rest_ne start_suffix =>
    apart start rest split start_ne rest_ne (start_suffix.trans (List.suffix_cons _ _))

/-- An occurrence at the front that is longer than what stands before the boundary goes across it.
-/
theorem Apart.prefix_append_iff (apart : Apart word before after) (before_ne : before ≠ []) :
    word <+: before ++ after ↔ word <+: before := by
  constructor
  · intro at_front
    by_cases fits : word.length ≤ before.length
    · exact List.prefix_of_prefix_length_le at_front (List.prefix_append _ _) fits
    · obtain ⟨rest, rfl⟩ := List.prefix_of_prefix_length_le (List.prefix_append _ after)
        at_front (Nat.le_of_lt (Nat.lt_of_not_le fits))
      have rest_ne : rest ≠ [] := by
        rintro rfl
        simp at fits
      exact absurd ((List.prefix_append_right_inj _).mp at_front)
        (apart _ rest rfl before_ne rest_ne List.suffix_rfl)
  · exact fun at_front => at_front.trans (List.prefix_append _ _)

theorem occurrences_append (apart : Apart word before after) :
    occurrences word (before ++ after) = occurrences word before + occurrences word after := by
  induction before with
  | nil => simp [occurrences]
  | cons character before ih =>
      have same := apart.prefix_append_iff (List.cons_ne_nil character before)
      have count_eq : occurrences word (character :: before ++ after) =
          (if word <+: character :: before ++ after then 1 else 0)
            + occurrences word (before ++ after) := rfl
      rw [count_eq, ih apart.of_cons, occurrences, Nat.add_assoc]
      simp only [same]

/-- An occurrence does not begin in a text without the first character of the word. -/
theorem apart_of_not_mem (noStart : character ∉ before) :
    Apart (character :: word) before after := by
  intro start rest split start_ne _ start_suffix
  obtain ⟨first, start, rfl⟩ := List.exists_cons_of_ne_nil start_ne
  rw [List.cons_append, List.cons.injEq] at split
  rw [← split.1] at start_suffix
  exact absurd (start_suffix.subset List.mem_cons_self) noStart

theorem occurrences_eq_zero_of_not_mem (noStart : character ∉ text) :
    occurrences (character :: word) text = 0 := by
  rw [occurrences_eq_zero_iff (List.cons_ne_nil _ _)]
  intro shows
  exact noStart (shows.subset List.mem_cons_self)

/-- An occurrence does not go on in a text that begins with a character outside of the word. -/
theorem apart_of_break (outside : character ∉ word) : Apart word before (character :: after) := by
  rintro start rest rfl _ rest_ne _ rest_prefix
  obtain ⟨first, rest, rfl⟩ := List.exists_cons_of_ne_nil rest_ne
  obtain rfl := (List.cons_prefix_cons.mp rest_prefix).1
  exact outside (List.mem_append_right _ List.mem_cons_self)

/-- An occurrence of two parts does not go on after the first one in a text that begins otherwise
than the second one. -/
theorem apart_of_other_part {first second : List Char} (notFirst : character ∉ first)
    (notSecond : character ∉ second) (other : ¬second <+: after) :
    Apart (first ++ character :: second) before (character :: after) := by
  intro start rest split _ rest_ne _ rest_prefix
  obtain ⟨head, rest, rfl⟩ := List.exists_cons_of_ne_nil rest_ne
  obtain ⟨head_eq, later_prefix⟩ := List.cons_prefix_cons.mp rest_prefix
  subst head_eq
  obtain ⟨_, _, second_eq⟩ := (List.append_cons_inj_of_notMem notFirst notSecond).mp split
  rw [second_eq] at other
  exact other later_prefix

end Text

end SchemaCompiler
