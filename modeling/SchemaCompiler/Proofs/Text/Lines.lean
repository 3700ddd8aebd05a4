import Mathlib.Data.List.Infix
import SchemaCompiler.Proofs.Exposure

/-!
# Lines of a text

A text that is joined from lines has exactly these lines, if none of them has a line break of its
own. Whether a text has one is settled part by part.
-/

namespace SchemaCompiler

namespace Text

/-- The lines of a text. -/
def lines (text : String) : List String :=
  (text.toList.splitOn '\n').map String.ofList

/-- A text without a line break. -/
def OneLine (text : String) : Prop :=
  '\n' ∉ text.toList

instance (text : String) : Decidable (OneLine text) :=
  inferInstanceAs (Decidable ('\n' ∉ text.toList))

variable {first second text : String}

@[simp]
theorem oneLine_append : OneLine (first ++ second) ↔ OneLine first ∧ OneLine second := by
  simp only [OneLine, String.toList_append, List.mem_append, not_or]

theorem oneLine_of_not_shows (without : ¬Shows text "\n") : OneLine text := by
  have lineBreak : "\n".toList = ['\n'] := by decide
  rwa [Shows, lineBreak, List.singleton_infix_iff] at without

theorem lines_intercalate {texts : List String} (texts_ne : texts ≠ [])
    (oneLine : ∀ text ∈ texts, OneLine text) : lines ("\n".intercalate texts) = texts := by
  have lineBreak : "\n".toList = ['\n'] := by decide
  have split : ("\n".intercalate texts).toList.splitOn '\n' = texts.map String.toList := by
    rw [String.toList_intercalate, lineBreak]
    exact List.splitOn_intercalate '\n' (List.forall_mem_map.mpr oneLine) (by simpa using texts_ne)
  rw [lines, split, List.map_map]
  simp

/-! ## Line comments -/

theorem lineFeed_not_mem_withoutLineEnd (text : List Char) :
    '\n' ∉ Diagnostic.withoutLineEnd text := by
  induction text with
  | nil => simp [Diagnostic.withoutLineEnd]
  | cons first text ih =>
      rw [Diagnostic.withoutLineEnd] at ih ⊢
      rw [List.map_cons, List.mem_cons, not_or]
      refine ⟨?_, ih⟩
      split
      · decide
      · rename_i no_feed
        exact Ne.symm no_feed

/-- The line comment for a diagnostic is one line. -/
theorem oneLine_asLineComment (diagnostic : Diagnostic) : OneLine diagnostic.asLineComment := by
  have opening : OneLine "-- " := by decide
  have bracket : OneLine "[" := by decide
  have closing : OneLine "] " := by decide
  have name_oneLine : OneLine diagnostic.code.name := by
    cases diagnostic.code <;> decide
  have message_oneLine :
      OneLine (String.ofList (Diagnostic.withoutLineEnd diagnostic.message.toList)) := by
    rw [OneLine, String.toList_ofList]
    exact lineFeed_not_mem_withoutLineEnd _
  simp only [Diagnostic.asLineComment, Diagnostic.headed, oneLine_append]
  exact ⟨opening, ⟨⟨bracket, name_oneLine⟩, closing⟩, message_oneLine⟩

end Text

end SchemaCompiler
