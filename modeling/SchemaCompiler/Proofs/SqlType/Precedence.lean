import Mathlib.Data.List.Basic
import SchemaCompiler.Proofs.SqlType.Chain

/-!
# Precedence of registrations

A registry can be followed by another one, whose registrations are looked at last. Types that the
first registry finds stay what they are then, whatever the second one registers. The reason is the
same at every column along the chain of references: the column has a registration in the first
registry, so that registration still comes first, and it makes the same hop or decides by itself as
before. So the proofs go along the chain, and never look at the keys of the second registry.
-/

namespace SchemaCompiler

namespace TypeRegistry

theorem find?_followedBy (first second : TypeRegistry) (column : Column) :
    (first.followedBy second).find? column = (first.find? column).or (second.find? column) :=
  List.find?_append

/-- A column that the first registry covers is left to it. -/
theorem find?_followedBy_of_some {first : TypeRegistry} {column : Column}
    {registration : Registration} (covered : first.find? column = some registration)
    (second : TypeRegistry) : (first.followedBy second).find? column = some registration := by
  rw [find?_followedBy, covered, Option.some_or]

end TypeRegistry

namespace TypeResolver

variable {model : Model} {first second : TypeRegistry} {site next last : ColumnSite}
  {kind : ReferenceKind} {hops steps : Nat} {types : SqlTypes}

/-- Types are found only for columns that some registration covers. -/
theorem exists_registration_of_resolveWithin {resolver : TypeResolver}
    (found : resolver.resolveWithin steps site.entity site.column = .ok types) :
    ∃ registration, resolver.registry.find? site.column = some registration := by
  cases steps with
  | zero => cases found
  | succ steps =>
      cases covered : resolver.registry.find? site.column with
      | none => simp [resolveWithin, covered] at found
      | some registration => exact ⟨registration, rfl⟩

theorem Hop.followedBy (hop : Hop ⟨model, first⟩ kind site next) (second : TypeRegistry) :
    Hop ⟨model, first.followedBy second⟩ kind site next := by
  cases hop with
  | selfReference covered mapper primaryKey =>
      exact .selfReference (TypeRegistry.find?_followedBy_of_some covered second) mapper primaryKey
  | relationship covered mapper kind found =>
      exact .relationship (TypeRegistry.find?_followedBy_of_some covered second) mapper kind found

/-- No hop is made by the second registry from a column that the first one covers. -/
theorem Hop.of_followedBy {registration : Registration}
    (hop : Hop ⟨model, first.followedBy second⟩ kind site next)
    (covered : first.find? site.column = some registration) :
    Hop ⟨model, first⟩ kind site next := by
  have same := TypeRegistry.find?_followedBy_of_some covered second
  cases hop with
  | selfReference decides mapper primaryKey =>
      obtain rfl : registration = _ := Option.some.inj (same.symm.trans decides)
      exact .selfReference covered mapper primaryKey
  | relationship decides mapper kind found =>
      obtain rfl : registration = _ := Option.some.inj (same.symm.trans decides)
      exact .relationship covered mapper kind found

theorem Chain.followedBy (chain : Chain ⟨model, first⟩ hops site last) (second : TypeRegistry) :
    Chain ⟨model, first.followedBy second⟩ hops site last := by
  induction chain with
  | here => exact .here
  | hop hop _ ih => exact .hop (hop.followedBy second) ih

/-- From a column with types, the second registry does not lead anywhere else: every column behind
it has types, too, and so is covered by the first registry. -/
theorem Chain.of_followedBy (chain : Chain ⟨model, first.followedBy second⟩ hops site last)
    (found : resolveWithin ⟨model, first⟩ steps site.entity site.column = .ok types) :
    Chain ⟨model, first⟩ hops site last := by
  induction chain generalizing steps with
  | here => exact .here
  | hop hop _ ih =>
      rcases exists_registration_of_resolveWithin found with ⟨registration, covered⟩
      have earlier := hop.of_followedBy covered
      cases steps with
      | zero => cases found
      | succ steps => exact .hop earlier (ih (earlier.resolveWithin_ok_iff.mp found))

/-- Types that the first registry finds are found by the same number of look-ups. -/
theorem resolveWithin_followedBy (second : TypeRegistry)
    (found : resolveWithin ⟨model, first⟩ steps site.entity site.column = .ok types) :
    resolveWithin ⟨model, first.followedBy second⟩ steps site.entity site.column = .ok types := by
  induction steps generalizing site with
  | zero => cases found
  | succ steps ih =>
      by_cases leaves : ∃ kind next, Hop ⟨model, first⟩ kind site next
      · rcases leaves with ⟨kind, next, hop⟩
        rw [hop.resolveWithin_ok_iff] at found
        exact (hop.followedBy second).resolveWithin_ok_iff.mpr (ih found)
      · rcases Terminal.resolveWithin leaves with
          ⟨registration, direct, covered, mapper, decided⟩ | ⟨_, _, _, failed⟩
        · rw [decided] at found
          have same := TypeRegistry.find?_followedBy_of_some covered second
          simpa only [resolveWithin, same, mapper] using found
        · rw [failed] at found
          cases found

/-- Earlier registrations are never overridden. Types that a registry finds for a column are the
types of the column when other registrations follow. They are found along the same chain of
references: the same columns are met, and each of them is decided by the registration that decided
it before. -/
theorem earlier_registration_decides (start : ColumnSite)
    (found : resolve ⟨model, first⟩ start.entity start.column = .ok types)
    (second : TypeRegistry) :
    let extended : TypeResolver := ⟨model, first.followedBy second⟩
    extended.resolve start.entity start.column = .ok types ∧
      ∀ hops last,
        (extended.Chain hops start last ↔ Chain ⟨model, first⟩ hops start last) ∧
          (Chain ⟨model, first⟩ hops start last →
            ∃ registration, first.find? last.column = some registration ∧
              extended.registry.find? last.column = some registration) := by
  intro extended
  refine ⟨resolveWithin_followedBy second found, fun hops last => ⟨⟨?_, ?_⟩, ?_⟩⟩
  · intro chain
    exact chain.of_followedBy found
  · intro chain
    exact chain.followedBy second
  · intro chain
    rcases exists_registration_of_resolveWithin (chain.resolve_last found) with
      ⟨registration, covered⟩
    exact ⟨registration, covered, TypeRegistry.find?_followedBy_of_some covered second⟩

/-- A column of a loan refers to one of a book, which refers to the primary key of the book. A later
registration has the keys of all three columns, in other letters. -/
theorem earlier_registration_decides_loan :
    let key : Column :=
      ⟨"BookKey", .numericIdentity, false, true, false, false, none, false, []⟩
    let original : Column :=
      ⟨"Original", .selfReference, true, false, false, false, none, false, []⟩
    let copied : Column :=
      ⟨"Copied", .relationship ⟨"Book", "Original"⟩, false, false, false, false, none, false, []⟩
    let book : Table := ⟨⟨"Book", [key, original]⟩, false, []⟩
    let loan : Table := ⟨⟨"Loan", [copied]⟩, false, []⟩
    let model : Model := { name := "library", tables := [book, loan] }
    let later : TypeRegistry :=
      ⟨[⟨["ATTR.RELATIONSHIP", "attr.selfreference", "Attr.NUMERICidentity"], .uniform "CLOB"⟩]⟩
    let extended : TypeResolver := ⟨model, TypeRegistry.ansi.followedBy later⟩
    (∀ column ∈ [key, original, copied], (later.find? column).isSome) ∧
      resolve ⟨model, .ansi⟩ loan.toEntity copied = .ok (.uniform "INTEGER") ∧
      extended.resolve loan.toEntity copied = .ok (.uniform "INTEGER") ∧
      ∀ hops last,
        (extended.Chain hops ⟨loan.toEntity, copied⟩ last ↔
            Chain ⟨model, .ansi⟩ hops ⟨loan.toEntity, copied⟩ last) ∧
          (Chain ⟨model, .ansi⟩ hops ⟨loan.toEntity, copied⟩ last →
            ∃ registration, TypeRegistry.ansi.find? last.column = some registration ∧
              extended.registry.find? last.column = some registration) := by
  intro key original copied book loan model later extended
  have found : resolve ⟨model, .ansi⟩ loan.toEntity copied = .ok (.uniform "INTEGER") := by
    decide +kernel
  have stays := earlier_registration_decides ⟨loan.toEntity, copied⟩ found later
  exact ⟨by decide +kernel, found, stays.1, stays.2⟩

end TypeResolver

end SchemaCompiler
