import Mathlib.Data.List.Induction
import SchemaCompiler.Dialect.Postgres
import SchemaCompiler.Proofs.Occurrence
import SchemaCompiler.Proofs.SqlText

/-!
# Nested comments

PostgreSQL reads block comments that nest: every opening mark inside a comment opens another one,
and the text goes on after as many end marks as there are opening marks. The comment for a
diagnostic holds no end mark but its own, so what counts for such a reader are the opening marks in
its message. Each of them leaves one comment open behind the end of the comment; where there is
none, the comment ends where it should.
-/

namespace SchemaCompiler

namespace SqlText

open Text (occurrences occurrences_pair)

/-- What follows the end of some open comments, for a reader to whom comments nest. Nothing does if
the text ends before. -/
def afterComments? : Nat → List Char → Option (List Char)
  | 0, rest => some rest
  | _ + 1, [] => none
  | level + 1, '/' :: '*' :: rest => afterComments? (level + 2) rest
  | level + 1, '*' :: '/' :: rest => afterComments? level rest
  | level + 1, _ :: rest => afterComments? (level + 1) rest

/-- What follows the comment with which a text begins, for such a reader. -/
def afterComment? : List Char → Option (List Char)
  | '/' :: '*' :: rest => afterComments? 1 rest
  | _ => none

/-- A comment ends with its text, whatever follows it: nothing of that is read as a part of the
comment, and nothing of the comment as what follows. -/
def SelfContained (comment : String) : Prop :=
  ∀ following, afterComment? (comment.toList ++ following) = some following

variable {level : Nat} {character : Char} {text rest : List Char}

/-! ## Marks -/

/-- A character that begins no mark is passed over. -/
theorem afterComments?_character (noOpening : ¬['/', '*'] <+: character :: rest)
    (noEnd : ¬['*', '/'] <+: character :: rest) :
    afterComments? (level + 1) (character :: rest) = afterComments? (level + 1) rest := by
  rw [afterComments?]
  · rintro later rfl rfl
    exact noOpening (List.prefix_append ['/', '*'] later)
  · rintro later rfl rfl
    exact noEnd (List.prefix_append ['*', '/'] later)

/-- Rewriting the end marks of a message neither makes nor removes an opening mark. -/
theorem occurrences_withoutCommentEnd (text : List Char) :
    occurrences ['/', '*'] (Diagnostic.withoutCommentEnd text) = occurrences ['/', '*'] text := by
  fun_induction Diagnostic.withoutCommentEnd text with
  | case1 => rfl
  | case2 rest ih => simp [occurrences_pair, head?_withoutCommentEnd, ih]
  | case3 character rest _ ih => simp [occurrences_pair, head?_withoutCommentEnd, ih]

/-! ## The comment for a diagnostic -/

/-- A text without end marks leaves a comment open for each of its opening marks. The blank behind
it keeps its last character from making a mark with what follows. -/
theorem afterComments?_append (rest : List Char) (unended : ¬['*', '/'] <:+: text) :
    afterComments? (level + 1) (text ++ ' ' :: rest) =
      afterComments? (level + 1 + occurrences ['/', '*'] text) rest := by
  have blank (level : Nat) : afterComments? (level + 1) (' ' :: rest) =
      afterComments? (level + 1) rest :=
    afterComments?_character (by simp) (by simp)
  induction text using List.twoStepInduction generalizing level with
  | nil => exact blank level
  | singleton character =>
      have passed : afterComments? (level + 1) (character :: ' ' :: rest) =
          afterComments? (level + 1) (' ' :: rest) :=
        afterComments?_character (by simp) (by simp)
      rw [List.singleton_append, passed, blank]
      simp [occurrences]
  | cons_cons first second text ih later =>
      have later_unended : ¬['*', '/'] <:+: second :: text :=
        fun ended => unended (List.infix_cons ended)
      by_cases opens : first = '/' ∧ second = '*'
      -- An opening mark is passed as a whole, so that its star begins no end mark.
      · rcases opens with ⟨rfl, rfl⟩
        have text_unended : ¬['*', '/'] <:+: text :=
          fun ended => later_unended (List.infix_cons ended)
        have opened : afterComments? (level + 1) ('/' :: '*' :: text ++ ' ' :: rest) =
            afterComments? (level + 1 + 1) (text ++ ' ' :: rest) := rfl
        have marks : occurrences ['/', '*'] ('/' :: '*' :: text) =
            1 + occurrences ['/', '*'] text := by
          simp [occurrences_pair]
        rw [opened, ih text_unended, marks, Nat.add_assoc (level + 1)]
      · have noOpening : ¬['/', '*'] <+: first :: (second :: text ++ ' ' :: rest) := by
          simpa [eq_comm] using opens
        have noEnd : ¬['*', '/'] <+: first :: (second :: text ++ ' ' :: rest) := by
          intro ended
          obtain ⟨rfl, rfl⟩ : '*' = first ∧ '/' = second := by simpa using ended
          exact unended (List.prefix_append ['*', '/'] text).isInfix
        have marks : occurrences ['/', '*'] (first :: second :: text) =
            occurrences ['/', '*'] (second :: text) := by
          have noMark : ¬['/', '*'] <+: first :: second :: text := by simpa [eq_comm] using opens
          rw [occurrences, if_neg noMark, Nat.zero_add]
        rw [List.cons_append, afterComments?_character noOpening noEnd,
          later second later_unended, marks]

/-- What stands between the marks of the comment for a diagnostic, but for the last blank. -/
def commentBody (diagnostic : Diagnostic) : List Char :=
  (' ' :: '[' :: diagnostic.code.name.toList ++ [']', ' '])
    ++ Diagnostic.withoutCommentEnd diagnostic.message.toList

theorem commentText_eq (diagnostic : Diagnostic) :
    commentText diagnostic = commentBody diagnostic ++ [' '] := by
  simp [commentText, commentBody, Diagnostic.headed]

theorem toList_asComment (diagnostic : Diagnostic) :
    diagnostic.asComment.toList = '/' :: '*' :: (commentBody diagnostic ++ [' ', '*', '/']) := by
  simp [Diagnostic.asComment, commentBody, Diagnostic.headed]

theorem not_infix_commentBody (diagnostic : Diagnostic) :
    ¬['*', '/'] <:+: commentBody diagnostic := by
  intro ended
  apply not_infix_commentText diagnostic
  rw [commentText_eq]
  exact ended.trans (List.prefix_append _ _).isInfix

/-- All opening marks inside a comment are those of the message. -/
theorem occurrences_commentBody (diagnostic : Diagnostic) :
    occurrences ['/', '*'] (commentBody diagnostic) = Text.count "/*" diagnostic.message := by
  have head_noSlash : '/' ∉ ' ' :: '[' :: diagnostic.code.name.toList ++ [']', ' '] := by
    cases diagnostic.code <;> decide
  rw [commentBody, Text.occurrences_append (Text.apart_of_not_mem head_noSlash),
    Text.occurrences_eq_zero_of_not_mem head_noSlash, occurrences_withoutCommentEnd, Nat.zero_add]
  rfl

/-- For a reader to whom comments nest, the comment for a diagnostic leaves as many comments open
as there are opening marks in the message. So it ends where it should if and only if the message has
none. -/
theorem asComment_leaves_open (diagnostic : Diagnostic) :
    (∀ following, afterComment? (diagnostic.asComment.toList ++ following) =
        afterComments? (Text.count "/*" diagnostic.message) following) ∧
      (SelfContained diagnostic.asComment ↔ ¬Text.Shows diagnostic.message "/*") := by
  have reads (following : List Char) :
      afterComment? (diagnostic.asComment.toList ++ following) =
        afterComments? (Text.count "/*" diagnostic.message) following := by
    have ended (level : Nat) :
        afterComments? (level + 1) ('*' :: '/' :: following) = afterComments? level following := by
      rfl
    have opened : afterComment? (diagnostic.asComment.toList ++ following) =
        afterComments? 1 (commentBody diagnostic ++ ' ' :: '*' :: '/' :: following) := by
      rw [toList_asComment]
      simp [afterComment?]
    rw [opened, afterComments?_append _ (not_infix_commentBody diagnostic),
      occurrences_commentBody, Nat.zero_add, Nat.add_comm, ended]
  refine ⟨reads, ?_⟩
  rw [Text.Shows, ← Text.occurrences_eq_zero_iff (by decide)]
  change _ ↔ Text.count "/*" diagnostic.message = 0
  constructor
  · intro contained
    have atEnd := (reads []).symm.trans (contained [])
    cases marks : Text.count "/*" diagnostic.message with
    | zero => rfl
    | succ level => simp [marks, afterComments?] at atEnd
  · intro noMarks following
    rw [reads, noMarks, afterComments?]

/-- A value that may not contain an opening mark is refused with a message that contains one: the
comment in its place takes in the rest of the statement. -/
theorem asComment_swallows_statement :
    let name : Column := ⟨"name", .text 100, false, false, false, false, none, false, []⟩
    let born : Column := ⟨"born", .integer, false, false, false, false, none, false, []⟩
    let author : Table := ⟨⟨"Author", [name, born]⟩, false, []⟩
    let row : ContentRow :=
      ⟨"Author", [.invalid "name" "must not contain /*", .valid "born" (.integer 1929)], none⟩
    let model : Model := { name := "library", tables := [author] }
    let scope := Dialect.postgresql.scope model
    let diagnostic : Diagnostic := .invalidContentValue "Author.name" "must not contain /*"
    (scope.insertStatement author row).value =
        "INSERT INTO author (name, born) VALUES (" ++ diagnostic.asComment ++ ", 1929);" ∧
      diagnostic.asComment = "/* [RDBMS_0903] must not contain /* */" ∧
      afterComment? (diagnostic.asComment ++ ", 1929);").toList = none ∧
      ¬SelfContained diagnostic.asComment := by
  intro name born author row model scope diagnostic
  refine ⟨by decide +kernel, by decide +kernel, by decide +kernel, ?_⟩
  intro contained
  have atEnd := contained []
  revert atEnd
  decide +kernel

end SqlText

end SchemaCompiler
