import SchemaCompiler.Proofs.Json.Scalar

/-!
# The text of a value is read as its document

The text of an array is the text of its first item, and then each further item after a comma. The
reader of an open array and that of an open object go the same way, so that both are followed by
induction on what is still to come (`readItems_continued`, `readMembers_continued`). Their fuel
lasts: a step takes one unit of it and passes over one character or more.

`ofText_compact` is the result for whole texts.
-/

namespace SchemaCompiler

namespace Json

/-! ## Arrays and objects -/

/-- Texts that follow the first one of a list, each after a comma. -/
def continued (texts : List String) : List Char :=
  texts.flatMap fun text => ',' :: text.toList

theorem continued_cons (text : String) (texts : List String) :
    continued (text :: texts) = ',' :: (text.toList ++ continued texts) := by
  simp [continued]

theorem toList_intercalate (first : String) (others : List String) :
    (",".intercalate (first :: others)).toList = first.toList ++ continued others := by
  induction others generalizing first with
  | nil => simp [continued]
  | cons next others ih =>
      rw [String.intercalate_cons_cons, String.toList_append, String.toList_append, ih next]
      simp [continued]

theorem delimited_continued (texts : List String) {closing : Char} (rest : List Char)
    (isClosing : closing = ']' ∨ closing = '\x7d') :
    Document.Delimited (continued texts ++ closing :: rest) := by
  cases texts with
  | nil => simpa [continued, Document.Delimited] using .inr isClosing
  | cons text texts => simp [continued, Document.Delimited]

theorem compactItems_eq_map (items : List Json) : compactItems items = items.map compact := by
  induction items with
  | nil => rfl
  | cons item items ih => rw [compactItems, ih, List.map_cons]

/-- The text of a member of an object. -/
def memberText (member : String × Json) : String :=
  quotedText member.1 ++ ":" ++ member.2.compact

theorem compactMembers_eq_map (members : List (String × Json)) :
    compactMembers members = members.map memberText := by
  induction members with
  | nil => rfl
  | cons member members ih => rw [compactMembers, ih, List.map_cons, memberText]

namespace Document

variable {fuel depth : Nat} {text left rest : List Char}

theorem readItems_comma {item : Document} {items : Items}
    (readItem : readValue fuel depth text = (item, left))
    (readRest : readItems fuel depth false left = (items, rest)) :
    readItems (fuel + 1) depth false (',' :: text) = (.more item items, rest) := by
  unfold readItems
  rw [List.dropWhile_cons_of_neg (by decide)]
  simp [readItem, readRest]

theorem readItems_start {item : Document} {items : Items} {first : Char}
    (opening : Opening first)
    (readItem : readValue fuel depth (first :: text) = (item, left))
    (readRest : readItems fuel depth false left = (items, rest)) :
    readItems (fuel + 1) depth true (first :: text) = (.more item items, rest) := by
  unfold readItems
  rw [List.dropWhile_cons_of_neg (by simp [opening.1])]
  simp [opening.2, readItem, readRest]

theorem readMembers_comma {key value : Document} {members : Members} {valueText : List Char}
    (readKey : readValue fuel depth text = (key, ':' :: valueText))
    (readMember : readValue fuel depth valueText = (value, left))
    (readRest : readMembers fuel depth false left = (members, rest)) :
    readMembers (fuel + 1) depth false (',' :: text) = (.more key value members, rest) := by
  unfold readMembers
  rw [List.dropWhile_cons_of_neg (by decide)]
  simp [readKey, isFiller, readMember, readRest]

theorem readMembers_start {key value : Document} {members : Members} {valueText : List Char}
    (readKey : readValue fuel depth ('"' :: text) = (key, ':' :: valueText))
    (readMember : readValue fuel depth valueText = (value, left))
    (readRest : readMembers fuel depth false left = (members, rest)) :
    readMembers (fuel + 1) depth true ('"' :: text) = (.more key value members, rest) := by
  unfold readMembers
  rw [List.dropWhile_cons_of_neg (by decide)]
  simp [readKey, isFiller, readMember, readRest]

theorem readValue_bracket {items : Items}
    (read : readItems fuel (depth + 1) true text = (items, rest)) :
    readValue (fuel + 1) depth ('[' :: text) = (placed depth (.array items), rest) := by
  rw [readValue, List.dropWhile_cons_of_neg (by decide)]
  simp [read]

theorem readValue_brace {members : Members}
    (read : readMembers fuel (depth + 1) true text = (members, rest)) :
    readValue (fuel + 1) depth ('\x7b' :: text) = (placed depth (.object members), rest) := by
  rw [readValue, List.dropWhile_cons_of_neg (by decide)]
  simp [read]

end Document

variable {items : List Json} {members : List (String × Json)} {fuel depth : Nat} {rest : List Char}

theorem readItems_continued (legible : ∀ item ∈ items, Legible item)
    (enough : 2 * (continued (items.map compact)).length + 1 < fuel) :
    Document.readItems fuel depth false (continued (items.map compact) ++ ']' :: rest) =
      (itemsAt depth items, rest) := by
  induction items generalizing fuel with
  | nil =>
      rcases fuel with _ | fuel
      · omega
      · rfl
  | cons item items ih =>
      rcases fuel with _ | fuel
      · omega
      rw [List.forall_mem_cons] at legible
      simp only [List.map_cons, continued_cons, List.length_cons, List.length_append,
        String.length_toList] at enough
      rw [List.map_cons, continued_cons, List.cons_append, List.append_assoc]
      exact Document.readItems_comma
        (legible.1.read (by omega) (delimited_continued _ rest (.inl rfl)))
        (ih legible.2 (by omega))

theorem readItems_intercalate (legible : ∀ item ∈ items, Legible item)
    (enough : 2 * (",".intercalate (items.map compact)).length + 1 < fuel) :
    Document.readItems fuel depth true
      ((",".intercalate (items.map compact)).toList ++ ']' :: rest) =
      (itemsAt depth items, rest) := by
  rcases fuel with _ | fuel
  · omega
  cases items with
  | nil => rfl
  | cons item items =>
      rw [List.forall_mem_cons] at legible
      rcases legible.1.first with ⟨first, text, text_eq, opening⟩
      rw [← String.length_toList, List.map_cons, toList_intercalate, List.length_append,
        text_eq, List.length_cons] at enough
      have length_eq : item.compact.length = text.length + 1 := by
        rw [← String.length_toList, text_eq, List.length_cons]
      have readItem : Document.readValue fuel depth
          (first :: (text ++ (continued (items.map compact) ++ ']' :: rest))) =
            (item.documentAt depth, continued (items.map compact) ++ ']' :: rest) := by
        rw [← List.cons_append, ← text_eq]
        exact legible.1.read (by omega) (delimited_continued _ rest (.inl rfl))
      rw [List.map_cons, toList_intercalate, List.append_assoc, text_eq, List.cons_append]
      exact Document.readItems_start opening readItem
        (readItems_continued legible.2 (by omega))

theorem toList_memberText (key : String) (value : Json) :
    (memberText (key, value)).toList = (quotedText key).toList ++ ':' :: value.compact.toList := by
  simp [memberText]

theorem readMembers_continued (legible : ∀ member ∈ members, Legible member.2)
    (enough : 2 * (continued (members.map memberText)).length + 1 < fuel) :
    Document.readMembers fuel depth false (continued (members.map memberText) ++ '\x7d' :: rest) =
      (membersAt depth members, rest) := by
  induction members generalizing fuel with
  | nil =>
      rcases fuel with _ | fuel
      · omega
      · rfl
  | cons member members ih =>
      rcases fuel with _ | fuel
      · omega
      rcases member with ⟨key, value⟩
      rw [List.forall_mem_cons] at legible
      have value_legible : Legible value := legible.1
      simp only [List.map_cons, continued_cons, toList_memberText, List.length_cons,
        List.length_append, String.length_toList] at enough
      rw [List.map_cons, continued_cons, List.cons_append, List.append_assoc, toList_memberText,
        List.append_assoc, List.cons_append]
      rcases fuel with _ | fuel
      · omega
      exact Document.readMembers_comma (Document.readValue_quotedText fuel depth key _)
        (value_legible.read (by omega) (delimited_continued _ rest (.inr rfl)))
        (ih legible.2 (by omega))

theorem readMembers_intercalate (legible : ∀ member ∈ members, Legible member.2)
    (enough : 2 * (",".intercalate (members.map memberText)).length + 1 < fuel) :
    Document.readMembers fuel depth true
      ((",".intercalate (members.map memberText)).toList ++ '\x7d' :: rest) =
      (membersAt depth members, rest) := by
  rcases fuel with _ | fuel
  · omega
  cases members with
  | nil => rfl
  | cons member members =>
      rcases member with ⟨key, value⟩
      rw [List.forall_mem_cons] at legible
      have value_legible : Legible value := legible.1
      rw [← String.length_toList, List.map_cons, toList_intercalate, toList_memberText] at enough
      simp only [List.length_cons, List.length_append, String.length_toList] at enough
      rcases fuel with _ | fuel
      · omega
      have opened : ∃ text, (quotedText key).toList = '"' :: text := by
        simp [quotedText]
      rcases opened with ⟨text, text_eq⟩
      have readKey := Document.readValue_quotedText fuel depth key
        (':' :: (value.compact.toList ++ (continued (members.map memberText) ++ '\x7d' :: rest)))
      rw [text_eq] at readKey
      rw [List.map_cons, toList_intercalate, toList_memberText, List.append_assoc,
        List.append_assoc, List.cons_append, text_eq]
      exact Document.readMembers_start readKey
        (value_legible.read (by omega) (delimited_continued _ rest (.inr rfl)))
        (readMembers_continued legible.2 (by omega))

theorem legible_array (legible : ∀ item ∈ items, Legible item) : Legible (.array items) := by
  have written : (Json.array items).compact.toList =
      '[' :: ((",".intercalate (items.map compact)).toList ++ [']']) := by
    simp [compact, compactItems_eq_map]
  refine ⟨⟨'[', _, written, by decide⟩, ?_⟩
  rintro (_ | fuel) depth rest enough delimited
  · omega
  · rw [← String.length_toList, written, List.length_cons, List.length_append,
      String.length_toList] at enough
    rw [written, List.cons_append, List.append_assoc]
    exact Document.readValue_bracket (readItems_intercalate legible (by omega))

theorem legible_object (legible : ∀ member ∈ members, Legible member.2) :
    Legible (.object members) := by
  have written : (Json.object members).compact.toList =
      '\x7b' :: ((",".intercalate (members.map memberText)).toList ++ ['\x7d']) := by
    simp [compact, compactMembers_eq_map]
  refine ⟨⟨'\x7b', _, written, by decide⟩, ?_⟩
  rintro (_ | fuel) depth rest enough delimited
  · omega
  · rw [← String.length_toList, written, List.length_cons, List.length_append,
      String.length_toList] at enough
    rw [written, List.cons_append, List.append_assoc]
    exact Document.readValue_brace (readMembers_intercalate legible (by omega))

/-! ## Whole texts -/

theorem Readable.legible {value : Json} (readable : Readable ReadsBack value) : Legible value := by
  induction readable with
  | null => exact legible_null
  | boolean value => exact legible_boolean value
  | integer lowest highest => exact legible_integer lowest highest
  | float readsBack => exact legible_float readsBack
  | text value => exact legible_text value
  | array _ legible => exact legible_array legible
  | object _ legible => exact legible_object legible

/-- The text of a value is its document and nothing else. -/
theorem ofText_compact {value : Json} (readable : Readable ReadsBack value) :
    Document.ofText value.compact = (value.documentAt 0, []) := by
  have read : Document.readValue (2 * value.compact.toList.length + 2) 0
      (value.compact.toList ++ []) = (value.documentAt 0, []) :=
    readable.legible.read (by rw [String.length_toList]; omega) Document.delimited_nil
  rw [List.append_nil] at read
  rw [Document.ofText, read]
  rfl

end Json

end SchemaCompiler
