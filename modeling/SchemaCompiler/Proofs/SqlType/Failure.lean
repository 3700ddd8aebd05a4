import Mathlib.Data.List.Basic
import SchemaCompiler.Proofs.SqlType.Chain

/-!
# Whom a failure names

Under the standard registry a column fails in one of two ways. Either its chain of references ends
within `maxHops` hops, and then every column on the way back explains the failure under its own
name, so the diagnostic names the column in question. Or the chain goes on, and then the diagnostic
of the column at which the look-ups ran out is handed back as it is. That column stands
`maxHops + 1` hops behind the one in question, and it may be any column behind it.

The two cases are told apart by the code of the diagnostic. The proof is an induction on the
look-ups that are left: one hop either explains what it is handed, under its own name, or passes it
on.
-/

namespace SchemaCompiler

namespace TypeResolver

variable {model : Model} {site next last : ColumnSite} {kind : ReferenceKind} {steps : Nat}
  {diagnostic : Diagnostic}

/-- A failure behind a hop is passed on when it is a cycle, and explained otherwise. -/
theorem Hop.resolveWithin_error_cases {resolver : TypeResolver}
    (hop : resolver.Hop kind site next)
    (failed : resolver.resolveWithin (steps + 1) site.entity site.column = .error diagnostic) :
    (diagnostic.code = .referenceCycle ∧
        resolver.resolveWithin steps next.entity next.column = .error diagnostic) ∨
      (diagnostic.code ≠ .referenceCycle ∧ diagnostic.subject = site.qualified) := by
  rcases hop.resolveWithin with ⟨explained, about, step⟩
  rw [step] at failed
  cases behind : resolver.resolveWithin steps next.entity next.column with
  | ok types => simp [behind, Except.mapError] at failed
  | error inner =>
      simp only [behind, Except.mapError, Except.error.injEq] at failed
      by_cases cycle : inner.code = .referenceCycle
      · rw [Diagnostic.explainedBy, if_pos cycle] at failed
        subst failed
        exact .inl ⟨cycle, rfl⟩
      · rw [Diagnostic.explainedBy, if_neg cycle] at failed
        subst failed
        rcases about inner with ⟨subject, code⟩
        refine .inr ⟨?_, subject⟩
        rw [code]
        exact kind.failureCode_ne_referenceCycle

/-- A failure names the column, or is the report of the column at which the steps ran out. -/
theorem resolveWithin_error_cases
    (failed : resolveWithin ⟨model, .ansi⟩ steps site.entity site.column = .error diagnostic) :
    (diagnostic.code ≠ .referenceCycle ∧ diagnostic.subject = site.qualified) ∨
      ∃ last, Chain ⟨model, .ansi⟩ steps site last ∧
        diagnostic = .referenceCycle last.entity last.column := by
  induction steps generalizing site with
  | zero =>
      simp only [resolveWithin, Except.error.injEq] at failed
      exact .inr ⟨site, .here, failed.symm⟩
  | succ steps ih =>
      by_cases leaves : ∃ kind next, Hop ⟨model, .ansi⟩ kind site next
      · rcases leaves with ⟨kind, next, hop⟩
        rcases hop.resolveWithin_error_cases failed with ⟨cycle, passed⟩ | named
        · rcases ih passed with ⟨noCycle, _⟩ | ⟨last, chain, eq⟩
          · exact absurd cycle noCycle
          · exact .inr ⟨last, .hop hop chain, eq⟩
        · exact .inl named
      · rcases Terminal.resolveWithin_ansi leaves with ⟨outcome, same, about⟩
        rw [same] at failed
        rcases about diagnostic failed with ⟨subject, noCycle⟩
        exact .inl ⟨noCycle, subject⟩

/-- On a cycle, a column is as many hops behind another as their distance, whatever the rounds. -/
theorem Chain.around {resolver : TypeResolver} {turn : ColumnSite} {before around hops : Nat}
    (before_le : before ≤ hops) (start : resolver.Chain before site turn)
    (cycle : resolver.Chain around turn turn)
    (rest : resolver.Chain ((hops - before) % around) turn last) :
    resolver.Chain hops site last := by
  have rounds := Nat.div_add_mod (hops - before) around
  have chain := (start.trans (cycle.repeated ((hops - before) / around))).trans rest
  rw [show before + around * ((hops - before) / around) + (hops - before) % around = hops by omega]
    at chain
  exact chain

/-- The name of a failing column is lost exactly on a chain of references that is too long. On any
other chain the diagnostic names the column. On such a chain it is the report of the column
`maxHops + 1` hops behind; where the chain runs into a cycle, that is a column of the cycle. -/
theorem failure_names_column (start : ColumnSite)
    (failed : resolve ⟨model, .ansi⟩ start.entity start.column = .error diagnostic) :
    let chain := Chain ⟨model, .ansi⟩
    (diagnostic.code ≠ .referenceCycle → diagnostic.subject = start.qualified) ∧
      (diagnostic.code = .referenceCycle ↔ ∃ last, chain (maxHops + 1) start last) ∧
      (∀ last, chain (maxHops + 1) start last →
        diagnostic = .referenceCycle last.entity last.column) ∧
      ∀ before around turn last, before ≤ maxHops + 1 → chain before start turn →
        chain around turn turn → chain ((maxHops + 1 - before) % around) turn last →
          diagnostic.subject = last.qualified := by
  intro chain
  have reported {last : ColumnSite} (behind : chain (maxHops + 1) start last) :
      diagnostic = .referenceCycle last.entity last.column :=
    Except.error.inj (failed.symm.trans behind.resolveWithin_exhausted)
  refine ⟨?_, ⟨?_, ?_⟩, fun last => reported, ?_⟩
  · intro noCycle
    rcases resolveWithin_error_cases failed with ⟨_, subject⟩ | ⟨last, _, rfl⟩
    · exact subject
    · exact absurd rfl noCycle
  · intro cycle
    rcases resolveWithin_error_cases failed with ⟨noCycle, _⟩ | ⟨last, behind, _⟩
    · exact absurd cycle noCycle
    · exact ⟨last, behind⟩
  · rintro ⟨last, behind⟩
    rw [reported behind]
    rfl
  · intro before around turn last before_le lead cycle rest
    rw [reported (lead.around before_le cycle rest)]
    rfl

/-- Two columns refer to each other, and a third one leads to them. -/
theorem failure_names_column_loan :
    let toOwner : Column :=
      ⟨"Copy", .relationship ⟨"Author", "Book"⟩, false, false, false, false, none, false, []⟩
    let toBook : Column :=
      ⟨"Book", .relationship ⟨"Book", "Author"⟩, false, false, false, false, none, false, []⟩
    let toAuthor : Column :=
      ⟨"Author", .relationship ⟨"Author", "Book"⟩, false, false, false, false, none, false, []⟩
    let loan : Table := ⟨⟨"Loan", [toOwner]⟩, false, []⟩
    let author : Table := ⟨⟨"Author", [toBook]⟩, false, []⟩
    let book : Table := ⟨⟨"Book", [toAuthor]⟩, false, []⟩
    let model : Model := { name := "library", tables := [loan, author, book] }
    let chain := Chain ⟨model, .ansi⟩
    resolve ⟨model, .ansi⟩ loan.toEntity toOwner =
        .error (.referenceCycle author.toEntity toBook) ∧
      (∃ last, chain (maxHops + 1) ⟨loan.toEntity, toOwner⟩ last) ∧
      ∀ before around turn last, before ≤ maxHops + 1 →
        chain before ⟨loan.toEntity, toOwner⟩ turn → chain around turn turn →
          chain ((maxHops + 1 - before) % around) turn last → "Author.Book" = last.qualified := by
  intro toOwner toBook toAuthor loan author book model chain
  have failed : resolve ⟨model, .ansi⟩ loan.toEntity toOwner =
      .error (.referenceCycle author.toEntity toBook) := by
    decide +kernel
  have names := failure_names_column ⟨loan.toEntity, toOwner⟩ failed
  exact ⟨failed, names.2.1.mp rfl, names.2.2.2⟩

/-- Of two columns that refer to each other, each one is blamed for the failure of the other. And a
plain integer at the end of a long chain is blamed for the failure of the column where the chain
starts, although it has a type itself. -/
theorem failure_blames_other_column :
    let toBook : Column :=
      ⟨"Book", .relationship ⟨"Book", "Author"⟩, false, false, false, false, none, false, []⟩
    let toAuthor : Column :=
      ⟨"Author", .relationship ⟨"Author", "Book"⟩, false, false, false, false, none, false, []⟩
    let shelf (place : Nat) : Column :=
      ⟨"Shelf" ++ toString place, .relationship ⟨"Shelf", "Shelf" ++ toString (place + 1)⟩,
        false, false, false, false, none, false, []⟩
    let lastShelf : Column :=
      ⟨"Shelf17", .integer, false, false, false, false, none, false, []⟩
    let author : Table := ⟨⟨"Author", [toBook]⟩, false, []⟩
    let book : Table := ⟨⟨"Book", [toAuthor]⟩, false, []⟩
    let shelves : Table := ⟨⟨"Shelf", (List.range 17).map shelf ++ [lastShelf]⟩, false, []⟩
    let model : Model := { name := "library", tables := [author, book, shelves] }
    let subjectOf (entity : Entity) (column : Column) : Option String :=
      match resolve ⟨model, .ansi⟩ entity column with
      | .ok _ => none
      | .error diagnostic => some diagnostic.subject
    subjectOf author.toEntity toBook = some "Book.Author" ∧
      subjectOf book.toEntity toAuthor = some "Author.Book" ∧
      subjectOf shelves.toEntity (shelf 0) = some "Shelf.Shelf17" ∧
      resolve ⟨model, .ansi⟩ shelves.toEntity lastShelf = .ok (.uniform "INTEGER") := by
  decide +kernel

end TypeResolver

end SchemaCompiler
