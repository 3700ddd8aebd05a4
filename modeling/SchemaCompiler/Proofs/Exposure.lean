import SchemaCompiler.Diagnostic

/-!
# Exposed diagnostics

A diagnostic is visible in a text that contains its block comment or its line comment. Something
that is generated exposes its diagnostics when each of them is visible in one of its texts. This is
kept by every way in which generated things are put together: a text only grows when it is set into
a larger one, and each element of a list brings its own texts along. So a generator exposes its
diagnostics as soon as the parts that can fail do.
-/

namespace SchemaCompiler

namespace Text

/-- A text contains another one. -/
def Shows (text part : String) : Prop :=
  part.toList <:+: text.toList

instance (text part : String) : Decidable (Shows text part) :=
  inferInstanceAs (Decidable (part.toList <:+: text.toList))

variable {text part whole : String}

theorem Shows.refl (text : String) : Shows text text :=
  List.infix_refl _

theorem Shows.trans (outer : Shows whole text) (inner : Shows text part) : Shows whole part :=
  List.IsInfix.trans inner outer

theorem Shows.append_right (shows : Shows text part) (after : String) :
    Shows (text ++ after) part := by
  rw [Shows, String.toList_append]
  exact List.IsInfix.trans shows (List.prefix_append _ _).isInfix

theorem Shows.append_left (shows : Shows text part) (before : String) :
    Shows (before ++ text) part := by
  rw [Shows, String.toList_append]
  exact List.IsInfix.trans shows (List.suffix_append _ _).isInfix

/-- A joined text contains each of its parts. -/
theorem shows_intercalate (separator : String) {texts : List String} (text_mem : text ∈ texts) :
    Shows (separator.intercalate texts) text := by
  induction texts with
  | nil => cases text_mem
  | cons first rest ih =>
      cases rest with
      | nil =>
          obtain rfl : text = first := by simpa using text_mem
          simpa using Shows.refl text
      | cons second rest =>
          rw [String.intercalate_cons_cons]
          rcases List.mem_cons.mp text_mem with rfl | later
          · exact ((Shows.refl text).append_right _).append_right _
          · exact (ih later).append_left _

end Text

namespace Diagnostic

/-- A diagnostic can be read in a text. -/
def VisibleIn (diagnostic : Diagnostic) (text : String) : Prop :=
  Text.Shows text diagnostic.asComment ∨ Text.Shows text diagnostic.asLineComment

variable {diagnostic : Diagnostic} {text whole : String}

theorem VisibleIn.mono (visible : diagnostic.VisibleIn text) (shows : Text.Shows whole text) :
    diagnostic.VisibleIn whole :=
  visible.imp shows.trans shows.trans

theorem VisibleIn.ne_empty (visible : diagnostic.VisibleIn text) : text ≠ "" := by
  rintro rfl
  rcases visible with comment | comment
  · have nothing := List.infix_nil.mp comment
    simp [asComment] at nothing
  · have nothing := List.infix_nil.mp comment
    simp [asLineComment] at nothing

end Diagnostic

namespace Generated

variable {α β : Type} {generated : Generated α} {texts : α → List String}

/-- Each diagnostic is visible in one of the texts of the value. -/
def Exposes (generated : Generated α) (texts : α → List String) : Prop :=
  ∀ diagnostic ∈ generated.diagnostics,
    ∃ text ∈ texts generated.value, diagnostic.VisibleIn text

/-- Each diagnostic is visible in the text itself. -/
abbrev Exposed (generated : Generated String) : Prop :=
  generated.Exposes fun text => [text]

theorem exposes_of_diagnostics_eq_nil (nothing : generated.diagnostics = []) :
    generated.Exposes texts := by
  intro diagnostic diagnostic_mem
  simp [nothing] at diagnostic_mem

theorem exposes_pure (value : α) : (pure value : Generated α).Exposes texts :=
  exposes_of_diagnostics_eq_nil rfl

/-- Diagnostics stay visible when every text is kept as a part of another. -/
theorem Exposes.map {wholes : β → List String} {change : α → β} (exposes : generated.Exposes texts)
    (keeps : ∀ value, ∀ text ∈ texts value, ∃ whole ∈ wholes (change value),
      Text.Shows whole text) :
    (change <$> generated).Exposes wholes := by
  intro diagnostic diagnostic_mem
  rw [diagnostics_map] at diagnostic_mem
  obtain ⟨text, text_mem, visible⟩ := exposes diagnostic diagnostic_mem
  obtain ⟨whole, whole_mem, shows⟩ := keeps generated.value text text_mem
  exact ⟨whole, whole_mem, visible.mono shows⟩

/-- Things that are generated one by one bring their texts along. -/
theorem exposes_each {generate : α → Generated β} {elements : List α} {text : β → String}
    (exposes : ∀ element ∈ elements, (generate element).Exposes fun value => [text value]) :
    (each generate elements).Exposes (·.map text) := by
  intro diagnostic diagnostic_mem
  rw [diagnostics_each] at diagnostic_mem
  obtain ⟨element, element_mem, recorded⟩ := List.mem_flatMap.mp diagnostic_mem
  obtain ⟨part, part_mem, visible⟩ := exposes element element_mem diagnostic recorded
  obtain rfl := List.mem_singleton.mp part_mem
  refine ⟨_, ?_, visible⟩
  rw [value_each]
  exact List.mem_map_of_mem (List.mem_map_of_mem element_mem)

/-- Things that are generated one by one and then set into one text. -/
theorem exposed_map_each {generate : α → Generated β} {elements : List α} {text : β → String}
    {change : List β → String}
    (exposes : ∀ element ∈ elements, (generate element).Exposes fun value => [text value])
    (keeps : ∀ values, ∀ value ∈ values, Text.Shows (change values) (text value)) :
    (change <$> each generate elements).Exposed := by
  apply (exposes_each exposes).map
  intro values part part_mem
  obtain ⟨value, value_mem, rfl⟩ := List.mem_map.mp part_mem
  exact ⟨_, List.mem_singleton_self _, keeps values value value_mem⟩

end Generated

end SchemaCompiler
