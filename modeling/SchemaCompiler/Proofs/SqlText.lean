import Mathlib.Data.List.Forall2
import SchemaCompiler.Diagnostic
import SchemaCompiler.Text.Quoted

/-!
# Reading SQL expressions

A scanner for lists of SQL expressions. It knows quoted literals, in which a quote is written twice,
and block comments, which do not nest; every other character stands for itself. A text is divided
into items at the commas outside of literals and comments.

An escaped text is read back as one literal, and a diagnostic as one comment, whatever follows them
as long as it begins with a comma. So a list of such parts is read as it was written: `Reads` says
this of one part, and `items?_intercalate` of the whole list.
-/

namespace SchemaCompiler

namespace SqlText

/-- A piece of SQL. -/
inductive Token
  /-- A quoted literal, by the text that it stands for. -/
  | literal (content : List Char)
  /-- A block comment, by what stands between its marks. -/
  | comment (content : List Char)
  /-- A character outside of literals and comments. -/
  | bare (character : Char)
  deriving DecidableEq

/-- Where a scanner is, and what it has read of a literal or a comment. -/
inductive Place
  | outside
  | literal (content : List Char)
  | comment (content : List Char)

/-- The tokens of a text. There are none if it ends inside a literal or a comment. -/
def scan : Place → List Char → Option (List Token)
  | .outside, [] => some []
  | .outside, '\'' :: rest => scan (.literal []) rest
  | .outside, '/' :: '*' :: rest => scan (.comment []) rest
  | .outside, character :: rest => (.bare character :: ·) <$> scan .outside rest
  | .literal _, [] => none
  | .literal content, '\'' :: '\'' :: rest => scan (.literal (content ++ ['\''])) rest
  | .literal content, '\'' :: rest => (.literal content :: ·) <$> scan .outside rest
  | .literal content, character :: rest => scan (.literal (content ++ [character])) rest
  | .comment _, [] => none
  | .comment content, '*' :: '/' :: rest => (.comment content :: ·) <$> scan .outside rest
  | .comment content, character :: rest => scan (.comment (content ++ [character])) rest

/-- The items of a list of tokens: what stands between its commas, without the blanks before it. -/
def itemsOf (tokens : List Token) : List (List Token) :=
  if tokens.isEmpty then
    []
  else
    (tokens.splitOn (.bare ',')).map (·.dropWhile (· = .bare ' '))

/-- The items of a text that ends outside of literals and comments. -/
def items? (text : String) : Option (List (List Token)) :=
  itemsOf <$> scan .outside text.toList

example : items? "'a, ''b', /* c, ' */, -1" =
    some [[.literal ['a', ',', ' ', '\'', 'b']], [.comment [' ', 'c', ',', ' ', '\'', ' ']],
      [.bare '-', .bare '1']] := by
  decide

variable {character : Char} {content rest text : List Char} {tokens : List Token}

/-! ## Literals -/

theorem scan_literal_character (noQuote : character ≠ '\'') :
    scan (.literal content) (character :: rest) =
      scan (.literal (content ++ [character])) rest := by
  simp [scan, noQuote]

/-- A literal ends at a quote that is not followed by another one. -/
theorem scan_literal_quote (noQuote : rest.head? ≠ some '\'') :
    scan (.literal content) ('\'' :: rest) = (.literal content :: ·) <$> scan .outside rest := by
  cases rest with
  | nil => rfl
  | cons next rest =>
      have next_ne : next ≠ '\'' := by simpa using noQuote
      simp [scan, next_ne]

/-- An escaped text is read back without the characters that have no place in a literal. -/
theorem scan_escaped (content text : List Char) (noQuote : rest.head? ≠ some '\'') :
    scan (.literal content) (text.flatMap Text.escapedInLiteral ++ '\'' :: rest) =
      (.literal (content ++ text.filter (· ≠ '\x00')) :: ·) <$> scan .outside rest := by
  induction text generalizing content with
  | nil => simpa using scan_literal_quote noQuote
  | cons character text ih =>
      by_cases quote : character = '\''
      · subst character
        simp [Text.escapedInLiteral, scan, ih]
      · by_cases nul : character = '\x00'
        · subst character
          simp [Text.escapedInLiteral, ih]
        · simp [Text.escapedInLiteral, quote, nul, scan_literal_character quote, ih]

/-! ## Comments -/

/-- A comment goes on until its end mark. -/
theorem scan_comment (content rest : List Char) (unended : ¬['*', '/'] <:+: text) :
    scan (.comment content) (text ++ '*' :: '/' :: rest) =
      (.comment (content ++ text) :: ·) <$> scan .outside rest := by
  induction text generalizing content with
  | nil => simp [scan]
  | cons character text ih =>
      have text_unended : ¬['*', '/'] <:+: text := by
        intro ended
        exact unended (ended.trans (List.suffix_cons character text).isInfix)
      have step : scan (.comment content) (character :: (text ++ '*' :: '/' :: rest)) =
          scan (.comment (content ++ [character])) (text ++ '*' :: '/' :: rest) := by
        cases text with
        | nil => simp [scan]
        | cons next text =>
            have noEnd : ¬(character = '*' ∧ next = '/') := by
              rintro ⟨rfl, rfl⟩
              exact unended (List.prefix_append ['*', '/'] text).isInfix
            by_cases star : character = '*'
            · have noSlash : next ≠ '/' := fun slash => noEnd ⟨star, slash⟩
              simp [scan, noSlash]
            · simp [scan, star]
      rw [List.cons_append, step, ih _ text_unended]
      simp

/-- A text without stars does not take part in an end mark. -/
theorem not_infix_append_of_not_mem (noStar : '*' ∉ text) :
    ¬['*', '/'] <:+: text ++ rest ↔ ¬['*', '/'] <:+: rest := by
  induction text with
  | nil => rfl
  | cons character text ih =>
      rw [List.mem_cons, not_or] at noStar
      rw [List.cons_append, List.infix_cons_iff, not_or, ih noStar.2]
      apply and_iff_right
      intro starts
      exact noStar.1 (List.cons_prefix_cons.mp starts).1

theorem head?_withoutCommentEnd (text : List Char) :
    (Diagnostic.withoutCommentEnd text).head? = text.head? := by
  fun_cases Diagnostic.withoutCommentEnd text <;> rfl

/-- What is written between the marks of a comment never ends it. -/
theorem not_infix_withoutCommentEnd (text : List Char) :
    ¬['*', '/'] <:+: Diagnostic.withoutCommentEnd text := by
  fun_induction Diagnostic.withoutCommentEnd text with
  | case1 => simp
  | case2 rest ih => simp [List.infix_cons_iff, ih]
  | case3 character rest noEnd ih =>
      rw [List.infix_cons_iff]
      rintro (starts | inside)
      · obtain ⟨rfl, slash⟩ : '*' = character ∧
            ['/'] <+: Diagnostic.withoutCommentEnd rest := by
          simpa using starts
        have rest_head : rest.head? = some '/' := by
          rw [← head?_withoutCommentEnd]
          exact List.singleton_prefix_iff_head?_eq_some.mp slash
        obtain ⟨later, rfl⟩ := List.head?_eq_some_iff.mp rest_head
        exact noEnd later rfl rfl
      · exact ih inside

/-! ## One item -/

/-- A character that stands for itself inside an item. -/
def IsPlain (character : Char) : Prop :=
  character ≠ '\'' ∧ character ≠ '/' ∧ character ≠ ',' ∧ character ≠ ' '

instance : DecidablePred IsPlain :=
  fun _ => inferInstanceAs (Decidable (_ ∧ _))

theorem isPlain_of_isDigit (digit : character.isDigit) : IsPlain character := by
  refine ⟨?_, ?_, ?_, ?_⟩ <;> rintro rfl <;> exact absurd digit (by decide)

theorem isPlain_of_mem_toDigits {number : Nat}
    (character_mem : character ∈ Nat.toDigits 10 number) : IsPlain character :=
  isPlain_of_isDigit (Nat.isDigit_of_mem_toDigits (by decide) (by decide) character_mem)

/-- An item ends here: the text ends, or a comma comes next. -/
def EndsItem (rest : List Char) : Prop :=
  ∀ next ∈ rest.head?, next = ','

theorem EndsItem.noQuote (ends : EndsItem rest) : rest.head? ≠ some '\'' := by
  intro quote
  have comma := ends '\'' quote
  exact absurd comma (by decide)

/-- Some tokens that are told apart from their neighbours when commas and blanks stand between. -/
structure IsItem (item : List Token) : Prop where
  ne_nil : item ≠ []
  noComma : .bare ',' ∉ item
  noBlank : item.head? ≠ some (.bare ' ')

/-- A text is read as an item, whatever comes after the item. -/
structure Reads (text : List Char) (item : List Token) : Prop extends IsItem item where
  scan_append : ∀ rest, EndsItem rest →
    scan .outside (text ++ rest) = (item ++ ·) <$> scan .outside rest

theorem scan_bare (noQuote : character ≠ '\'') (noSlash : character ≠ '/') :
    scan .outside (character :: rest) = (.bare character :: ·) <$> scan .outside rest := by
  simp [scan, noSlash]

theorem reads_plain (text_ne : text ≠ []) (plain : ∀ character ∈ text, IsPlain character) :
    Reads text (text.map .bare) where
  scan_append rest _ := by
    clear text_ne
    induction text with
    | nil => simp
    | cons character text ih =>
        rw [List.forall_mem_cons] at plain
        obtain ⟨⟨noQuote, noSlash, _⟩, text_plain⟩ := plain
        simp [scan_bare noQuote noSlash, ih text_plain, Function.comp_def]
  ne_nil := by simpa using text_ne
  noComma := by
    intro comma_mem
    obtain ⟨character, character_mem, rfl⟩ : ∃ character ∈ text, character = ',' := by
      simpa using comma_mem
    exact (plain ',' character_mem).2.2.1 rfl
  noBlank := by
    intro blank
    have blank_mem : ' ' ∈ text := by
      simpa using List.mem_of_mem_head? blank
    exact (plain ' ' blank_mem).2.2.2 rfl

/-- A quoted text is one literal. -/
theorem reads_quoted (text : String) :
    Reads (Text.quoted text).toList [.literal (text.toList.filter (· ≠ '\x00'))] where
  scan_append rest ends := by
    have read := scan_escaped [] text.toList ends.noQuote
    simpa [Text.quoted, Text.escaped, scan] using read
  ne_nil := by simp
  noComma := by simp
  noBlank := by simp

/-- What stands between the marks of the comment for a diagnostic. -/
def commentText (diagnostic : Diagnostic) : List Char :=
  ' ' :: (diagnostic.headed
    (String.ofList (Diagnostic.withoutCommentEnd diagnostic.message.toList))).toList ++ [' ']

theorem not_infix_commentText (diagnostic : Diagnostic) :
    ¬['*', '/'] <:+: commentText diagnostic := by
  have head_noStar : '*' ∉ ' ' :: '[' :: diagnostic.code.name.toList ++ [']', ' '] := by
    cases diagnostic.code <;> decide
  have message_unended := not_infix_withoutCommentEnd diagnostic.message.toList
  have text_eq : commentText diagnostic =
      (' ' :: '[' :: diagnostic.code.name.toList ++ [']', ' ']) ++
        (Diagnostic.withoutCommentEnd diagnostic.message.toList ++ [' ']) := by
    simp [commentText, Diagnostic.headed]
  rw [text_eq, not_infix_append_of_not_mem head_noStar]
  intro ended
  rcases List.infix_concat_iff.mp ended with atEnd | inside
  · obtain ⟨before, split⟩ := atEnd
    simpa using congrArg List.getLast? split
  · exact message_unended inside

/-- The comment for a diagnostic is one comment. -/
theorem reads_asComment (diagnostic : Diagnostic) :
    Reads diagnostic.asComment.toList [.comment (commentText diagnostic)] where
  scan_append rest _ := by
    have read := scan_comment [] rest (not_infix_commentText diagnostic)
    simpa [Diagnostic.asComment, commentText, scan] using read
  ne_nil := by simp
  noComma := by simp
  noBlank := by simp

/-! ## Lists of items -/

/-- What stands between two items. -/
def separator : List Token := [.bare ',', .bare ' ']

theorem scan_intercalate {texts : List (List Char)} {items : List (List Token)}
    (reads : List.Forall₂ Reads texts items) :
    scan .outside ([',', ' '].intercalate texts) = some (separator.intercalate items) := by
  induction reads with
  | nil => rfl
  | @cons text item texts items reads later ih =>
      cases later with
      | nil =>
          have read := reads.scan_append [] (by simp [EndsItem])
          simpa [scan] using read
      | cons =>
          rw [List.intercalate_cons_cons, List.intercalate_cons_cons, List.append_assoc,
            reads.scan_append _ (by simp [EndsItem])]
          simp [scan, ih, separator]

/-- At the commas, a list of items falls into its items, each but the first one after a blank. -/
theorem splitOn_intercalate {item : List Token} {items : List (List Token)}
    (areItems : ∀ part ∈ item :: items, IsItem part) :
    (separator.intercalate (item :: items)).splitOn (.bare ',') =
      item :: items.map (.bare ' ' :: ·) := by
  induction items generalizing item with
  | nil =>
      have noComma := (areItems item List.mem_cons_self).noComma
      simp [List.splitOn_eq_singleton noComma]
  | cons next items ih =>
      have noComma := (areItems item List.mem_cons_self).noComma
      have later := ih fun part part_mem => areItems part (List.mem_cons_of_mem _ part_mem)
      have split : item ++ separator ++ separator.intercalate (next :: items) =
          item ++ .bare ',' :: .bare ' ' :: separator.intercalate (next :: items) := by
        simp [separator]
      rw [List.intercalate_cons_cons, split, List.splitOn_append_cons_self_of_not_mem noComma,
        List.splitOn_cons_eq_if_modifyHead, later]
      simp

theorem IsItem.dropWhile_blank {item : List Token} (isItem : IsItem item) :
    item.dropWhile (· = .bare ' ') = item := by
  cases item with
  | nil => rfl
  | cons first item =>
      have first_ne : first ≠ .bare ' ' := by simpa using isItem.noBlank
      simp [first_ne]

theorem itemsOf_intercalate {items : List (List Token)} (areItems : ∀ item ∈ items, IsItem item) :
    itemsOf (separator.intercalate items) = items := by
  cases items with
  | nil => rfl
  | cons item items =>
      have first_ne := (areItems item List.mem_cons_self).ne_nil
      have nonempty : separator.intercalate (item :: items) ≠ [] := by
        cases items <;> simp [List.intercalate_cons_cons, first_ne]
      have unblanked : ∀ part ∈ item :: items, part.dropWhile (· = .bare ' ') = part :=
        fun part part_mem => (areItems part part_mem).dropWhile_blank
      rw [List.forall_mem_cons] at unblanked
      rw [itemsOf, if_neg (by simpa using nonempty), splitOn_intercalate areItems, List.map_cons,
        List.map_map, unblanked.1]
      congr 1
      calc items.map _ = items.map id := List.map_congr_left (by simpa using unblanked.2)
        _ = items := List.map_id items

/-- A list of expressions is read item by item. -/
theorem items?_intercalate {texts : List String} {items : List (List Token)}
    (reads : List.Forall₂ (fun text item => Reads text.toList item) texts items) :
    items? (", ".intercalate texts) = some items := by
  have areItems : ∀ item ∈ items, IsItem item := by
    induction reads with
    | nil => simp
    | cons reads _ ih => exact List.forall_mem_cons.mpr ⟨reads.toIsItem, ih⟩
  have scanned := scan_intercalate (List.forall₂_map_left_iff.mpr reads)
  rw [items?, String.toList_intercalate]
  simp [scanned, itemsOf_intercalate areItems]

end SqlText

end SchemaCompiler
