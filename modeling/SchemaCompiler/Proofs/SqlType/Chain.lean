import SchemaCompiler.SqlType

/-!
# Chains of references

A column that refers to another one takes its types from there, and that column may refer on. This
file gives the chain of such hops as a relation and shows that type resolution follows it: the types
are those of the column in which the chain ends, a failure there is explained once for each hop back
to the start, and a chain with more than `maxHops` hops is reported as a cycle.

Resolution is a recursion on the number of look-ups that are left. One look-up either decides by
itself or makes one hop, so the proofs go along the chain: each hop is one step of the recursion,
whose effect on a result does not depend on the steps that are left. So types that are found within
some steps are found within more, and every column further down a chain has them too.
-/

namespace SchemaCompiler

/-- A column in the entity that owns it. -/
structure ColumnSite where
  entity : Entity
  column : Column

namespace ColumnSite

/-- The name of the column together with that of its entity. -/
def qualified (site : ColumnSite) : String :=
  site.entity.qualified site.column

end ColumnSite

/-- The ways in which a column takes its types from another one. -/
inductive ReferenceKind
  | selfReference
  | relationship

namespace ReferenceKind

/-- The code under which a column reports a failure behind its reference. -/
def failureCode : ReferenceKind → DiagnosticCode
  | .selfReference => .primaryKeyTypeNotFound
  | .relationship => .relationshipNotFound

theorem failureCode_ne_referenceCycle (kind : ReferenceKind) :
    kind.failureCode ≠ .referenceCycle := by
  cases kind <;> decide

end ReferenceKind

namespace TypeResolver

/-- A hop from a column to the one whose types it takes. The first registration that covers the
column decides whether it is a reference. -/
inductive Hop (resolver : TypeResolver) : ReferenceKind → ColumnSite → ColumnSite → Prop
  | selfReference {entity : Entity} {column key : Column} {registration : Registration}
      (first : resolver.registry.find? column = some registration)
      (mapper : registration.mapper = .selfReference)
      (primaryKey : entity.primaryKey? = some key) :
      Hop resolver .selfReference ⟨entity, column⟩ ⟨entity, key⟩
  | relationship {entity : Entity} {column targetColumn : Column} {table : Table}
      {registration : Registration} {target : ColumnRef}
      (first : resolver.registry.find? column = some registration)
      (mapper : registration.mapper = .relationship)
      (kind : column.kind = .relationship target)
      (found : resolver.model.resolve? target = some (table, targetColumn)) :
      Hop resolver .relationship ⟨entity, column⟩ ⟨table.toEntity, targetColumn⟩

/-- Some number of hops, one after the other. -/
inductive Chain (resolver : TypeResolver) : Nat → ColumnSite → ColumnSite → Prop
  | here {site : ColumnSite} : Chain resolver 0 site site
  | hop {kind : ReferenceKind} {site next last : ColumnSite} {hops : Nat}
      (first : resolver.Hop kind site next) (rest : Chain resolver hops next last) :
      Chain resolver (hops + 1) site last

/-- No hop leads away from a column. -/
def Terminal (resolver : TypeResolver) (site : ColumnSite) : Prop :=
  ¬∃ kind next, resolver.Hop kind site next

variable {resolver : TypeResolver} {site next last turn : ColumnSite} {kind : ReferenceKind}
  {hops steps : Nat}

/-! ## Chains -/

theorem Chain.trans {more : Nat} (first : resolver.Chain hops site turn)
    (second : resolver.Chain more turn last) : resolver.Chain (hops + more) site last := by
  induction first with
  | here => simpa using second
  | hop hop _ ih =>
      rw [Nat.add_right_comm]
      exact .hop hop (ih second)

theorem Chain.shorten {fewer : Nat} (chain : resolver.Chain hops site last)
    (fewer_le : fewer ≤ hops) : ∃ earlier, resolver.Chain fewer site earlier := by
  induction chain generalizing fewer with
  | @here site =>
      obtain rfl : fewer = 0 := by omega
      exact ⟨site, .here⟩
  | @hop _ site _ _ _ hop _ ih =>
      rcases fewer with _ | fewer
      · exact ⟨site, .here⟩
      · obtain ⟨earlier, chain⟩ := ih (Nat.le_of_succ_le_succ fewer_le)
        exact ⟨earlier, .hop hop chain⟩

theorem Chain.repeated {around : Nat} (cycle : resolver.Chain around turn turn) (times : Nat) :
    resolver.Chain (around * times) turn turn := by
  induction times with
  | zero => exact .here
  | succ times ih => exact ih.trans cycle

/-- A chain that comes back to a column goes on for any number of hops. -/
theorem Chain.exists_of_cycle {before around : Nat} (start : resolver.Chain before site turn)
    (cycle : resolver.Chain (around + 1) turn turn) (hops : Nat) :
    ∃ last, resolver.Chain hops site last := by
  apply (start.trans (cycle.repeated hops)).shorten
  calc hops ≤ (around + 1) * hops := Nat.le_mul_of_pos_left hops (Nat.succ_pos around)
    _ ≤ before + (around + 1) * hops := Nat.le_add_left _ _

/-- A chain either has as many hops as one likes, or ends before. -/
theorem exists_chain_or_terminal (resolver : TypeResolver) (steps : Nat) (site : ColumnSite) :
    (∃ last, resolver.Chain steps site last) ∨
      ∃ hops < steps, ∃ last, resolver.Chain hops site last ∧ resolver.Terminal last := by
  induction steps generalizing site with
  | zero => exact .inl ⟨site, .here⟩
  | succ steps ih =>
      by_cases leaves : ∃ kind next, resolver.Hop kind site next
      · obtain ⟨kind, next, hop⟩ := leaves
        rcases ih next with ⟨last, chain⟩ | ⟨hops, hops_lt, last, chain, terminal⟩
        · exact .inl ⟨last, .hop hop chain⟩
        · exact .inr ⟨hops + 1, Nat.succ_lt_succ hops_lt, last, .hop hop chain, terminal⟩
      · exact .inr ⟨0, Nat.succ_pos steps, site, .here, leaves⟩

/-! ## One look-up -/

/-- A look-up that makes a hop passes on what is found behind it. A failure is explained, except for
a chain that does not end. -/
theorem Hop.resolveWithin (hop : resolver.Hop kind site next) :
    ∃ explained : Diagnostic → Diagnostic,
      (∀ inner, (explained inner).subject = site.qualified ∧
        (explained inner).code = kind.failureCode) ∧
      ∀ steps, resolver.resolveWithin (steps + 1) site.entity site.column =
        (resolver.resolveWithin steps next.entity next.column).mapError fun inner =>
          inner.explainedBy (explained inner) := by
  cases hop with
  | @selfReference entity column key registration first mapper primaryKey =>
      refine ⟨Diagnostic.primaryKeyTypeNotFound entity column key, fun _ => ⟨rfl, rfl⟩, ?_⟩
      intro steps
      simp only [TypeResolver.resolveWithin, first, mapper, primaryKey]
  | @relationship entity column targetColumn table registration target first mapper kind found =>
      refine ⟨fun inner => .brokenLink entity column target inner.message,
        fun _ => ⟨rfl, rfl⟩, ?_⟩
      intro steps
      simp only [TypeResolver.resolveWithin, first, mapper, kind, found]

/-- A look-up that makes no hop does not depend on the steps that are left: a registration decides
by itself, or the column reports itself. -/
theorem Terminal.resolveWithin (terminal : resolver.Terminal site) :
    (∃ registration types, resolver.registry.find? site.column = some registration ∧
        registration.mapper = .direct types ∧
        ∀ steps, resolver.resolveWithin (steps + 1) site.entity site.column =
          types site.entity site.column) ∨
      ∃ failure : Diagnostic, failure.subject = site.qualified ∧ failure.code ≠ .referenceCycle ∧
        ∀ steps, resolver.resolveWithin (steps + 1) site.entity site.column = .error failure := by
  rcases site with ⟨entity, column⟩
  cases first : resolver.registry.find? column with
  | none =>
      refine .inr ⟨.typeNotFound entity column, rfl, by simp [Diagnostic.typeNotFound], ?_⟩
      simp [TypeResolver.resolveWithin, first]
  | some registration =>
      cases mapper : registration.mapper with
      | direct types =>
          refine .inl ⟨registration, types, rfl, mapper, ?_⟩
          simp [TypeResolver.resolveWithin, first, mapper]
      | selfReference =>
          cases primaryKey : entity.primaryKey? with
          | none =>
              refine .inr ⟨.noPrimaryKey entity column, rfl, by simp [Diagnostic.noPrimaryKey], ?_⟩
              simp [TypeResolver.resolveWithin, first, mapper, primaryKey]
          | some key => exact absurd ⟨_, _, .selfReference first mapper primaryKey⟩ terminal
      | relationship =>
          by_cases refers : ∃ target, column.kind = .relationship target
          · obtain ⟨target, kind⟩ := refers
            cases found : resolver.model.resolve? target with
            | none =>
                refine .inr ⟨.brokenLink entity column target "referenced column does not exist",
                  rfl, by simp [Diagnostic.brokenLink], ?_⟩
                simp [TypeResolver.resolveWithin, first, mapper, kind, found]
            | some address =>
                exact absurd ⟨_, _, .relationship first mapper kind found⟩ terminal
          · refine .inr ⟨.notARelationship entity column, rfl,
              by simp [Diagnostic.notARelationship], ?_⟩
            intro steps
            simp only [TypeResolver.resolveWithin, first, mapper]
            split
            · rename_i target kind
              exact absurd ⟨target, kind⟩ refers
            · rfl

/-- A column has at most one hop. -/
theorem Hop.unique {otherKind : ReferenceKind} {other : ColumnSite}
    (hop : resolver.Hop kind site next) (otherHop : resolver.Hop otherKind site other) :
    kind = otherKind ∧ next = other := by
  cases hop <;> cases otherHop <;> simp_all

theorem Hop.resolveWithin_error {inner : Diagnostic} (hop : resolver.Hop kind site next)
    (failed : resolver.resolveWithin steps next.entity next.column = .error inner)
    (noCycle : inner.code ≠ .referenceCycle) :
    ∃ outer, resolver.resolveWithin (steps + 1) site.entity site.column = .error outer ∧
      outer.subject = site.qualified ∧ outer.code = kind.failureCode := by
  obtain ⟨explained, about, step⟩ := hop.resolveWithin
  refine ⟨explained inner, ?_, about inner⟩
  rw [step, failed]
  change Except.error (inner.explainedBy (explained inner)) = _
  rw [Diagnostic.explainedBy, if_neg noCycle]

/-! ## Look-ups along a chain -/

/-- The types found where a chain leads are found where it starts. -/
theorem Chain.resolveWithin_ok {types : SqlTypes} (chain : resolver.Chain hops site last)
    (found : resolver.resolveWithin steps last.entity last.column = .ok types) :
    resolver.resolveWithin (hops + steps) site.entity site.column = .ok types := by
  induction chain with
  | here => simpa using found
  | hop first _ ih =>
      obtain ⟨explained, _, step⟩ := first.resolveWithin
      rw [Nat.add_right_comm, step, ih found]
      rfl

/-- A failure where a chain leads is a failure where it starts, and no cycle. -/
theorem Chain.resolveWithin_error {inner : Diagnostic} (chain : resolver.Chain hops site last)
    (failed : resolver.resolveWithin steps last.entity last.column = .error inner)
    (noCycle : inner.code ≠ .referenceCycle) :
    ∃ outer, resolver.resolveWithin (hops + steps) site.entity site.column = .error outer ∧
      outer.code ≠ .referenceCycle := by
  induction chain with
  | here => exact ⟨inner, by simpa using failed, noCycle⟩
  | @hop kind _ _ _ _ first _ ih =>
      obtain ⟨middle, middle_failed, middle_noCycle⟩ := ih failed
      obtain ⟨outer, outer_failed, _, outer_code⟩ :=
        first.resolveWithin_error middle_failed middle_noCycle
      refine ⟨outer, by rwa [Nat.add_right_comm], ?_⟩
      rw [outer_code]
      exact kind.failureCode_ne_referenceCycle

/-- When a chain uses up all steps, the column where it leads is reported. -/
theorem Chain.resolveWithin_exhausted (chain : resolver.Chain steps site last) :
    resolver.resolveWithin steps site.entity site.column =
      .error (.referenceCycle last.entity last.column) := by
  induction chain with
  | here => rfl
  | hop first _ ih =>
      obtain ⟨explained, _, step⟩ := first.resolveWithin
      rw [step, ih]
      rfl

/-! ## Look-ups with more steps -/

/-- A column has the types that are found behind its hop with one step less. -/
theorem Hop.resolveWithin_ok_iff {types : SqlTypes} (hop : resolver.Hop kind site next) :
    resolver.resolveWithin (steps + 1) site.entity site.column = .ok types ↔
      resolver.resolveWithin steps next.entity next.column = .ok types := by
  obtain ⟨explained, _, step⟩ := hop.resolveWithin
  rw [step]
  cases resolver.resolveWithin steps next.entity next.column with
  | error inner => exact ⟨nofun, nofun⟩
  | ok found => exact Iff.rfl

/-- Types that are found within some steps are found within more steps. -/
theorem resolveWithin_mono {more : Nat} {types : SqlTypes} (steps_le : steps ≤ more)
    (found : resolver.resolveWithin steps site.entity site.column = .ok types) :
    resolver.resolveWithin more site.entity site.column = .ok types := by
  induction steps generalizing site more with
  | zero => cases found
  | succ steps ih =>
      obtain ⟨more, rfl⟩ : ∃ rest, more = rest + 1 :=
        Nat.exists_eq_add_of_le' (Nat.le_trans (Nat.succ_pos steps) steps_le)
      by_cases leaves : ∃ kind next, resolver.Hop kind site next
      · obtain ⟨kind, next, hop⟩ := leaves
        rw [hop.resolveWithin_ok_iff] at found ⊢
        exact ih (Nat.le_of_succ_le_succ steps_le) found
      · rcases Terminal.resolveWithin leaves with ⟨_, _, _, _, decided⟩ | ⟨_, _, _, failed⟩
        · rw [decided] at found ⊢
          exact found
        · rw [failed] at found
          cases found

/-- Behind a hop are the types of the column, although one step more is left there. -/
theorem Hop.resolve_next {types : SqlTypes} (hop : resolver.Hop kind site next)
    (found : resolver.resolve site.entity site.column = .ok types) :
    resolver.resolve next.entity next.column = .ok types :=
  resolveWithin_mono (Nat.le_succ maxHops) (hop.resolveWithin_ok_iff.mp found)

/-- The types of a column are those of every column to which its references lead. -/
theorem Chain.resolve_last {types : SqlTypes} (chain : resolver.Chain hops site last)
    (found : resolver.resolve site.entity site.column = .ok types) :
    resolver.resolve last.entity last.column = .ok types := by
  induction chain with
  | here => exact found
  | hop first _ ih => exact ih (first.resolve_next found)

/-- Types that are found are given by some registration that decides by itself. -/
theorem exists_direct_of_resolveWithin {types : SqlTypes} (site : ColumnSite)
    (found : resolver.resolveWithin steps site.entity site.column = .ok types) :
    ∃ registration ∈ resolver.registry.registrations, ∃ direct entity column,
      registration.mapper = .direct direct ∧ direct entity column = .ok types := by
  induction steps generalizing site with
  | zero => cases found
  | succ steps ih =>
      by_cases leaves : ∃ kind next, resolver.Hop kind site next
      · obtain ⟨kind, next, hop⟩ := leaves
        exact ih next (hop.resolveWithin_ok_iff.mp found)
      · rcases Terminal.resolveWithin leaves with
          ⟨registration, direct, first, mapper, decided⟩ | ⟨_, _, _, failed⟩
        · rw [decided] at found
          exact ⟨registration, List.mem_of_find?_eq_some first, direct, _, _, mapper, found⟩
        · rw [failed] at found
          cases found

end TypeResolver

/-! ## The standard registry -/

/-- A standard registration that decides by itself never fails. -/
theorem TypeRegistry.ansi_direct {registration : Registration}
    {types : Entity → Column → Except Diagnostic SqlTypes}
    (registration_mem : registration ∈ TypeRegistry.ansi.registrations)
    (mapper : registration.mapper = .direct types) (entity : Entity) (column : Column) :
    ∃ found, types entity column = .ok found := by
  simp only [TypeRegistry.ansi, List.mem_cons, List.not_mem_nil, or_false] at registration_mem
  rcases registration_mem with rfl | rfl | rfl | rfl | rfl | rfl | rfl | rfl | rfl | rfl | rfl |
    rfl | rfl <;> cases mapper <;> exact ⟨_, rfl⟩

namespace TypeResolver

variable {model : Model} {site last : ColumnSite} {hops : Nat}

/-- Under the standard registry, a column that is no reference has types or reports itself. -/
theorem Terminal.resolveWithin_ansi (terminal : TypeResolver.Terminal ⟨model, .ansi⟩ site) :
    ∃ outcome,
      (∀ steps, TypeResolver.resolveWithin ⟨model, .ansi⟩ (steps + 1) site.entity site.column =
        outcome) ∧
      ∀ inner, outcome = .error inner →
        inner.subject = site.qualified ∧ inner.code ≠ .referenceCycle := by
  rcases terminal.resolveWithin with
    ⟨registration, types, first, mapper, decided⟩ | ⟨failure, about, noCycle, failed⟩
  · obtain ⟨found, found_eq⟩ := TypeRegistry.ansi_direct (List.mem_of_find?_eq_some first) mapper
      site.entity site.column
    refine ⟨.ok found, ?_, nofun⟩
    simpa [found_eq] using decided
  · refine ⟨.error failure, failed, ?_⟩
    rintro _ ⟨⟩
    exact ⟨about, noCycle⟩

theorem resolve_eq_resolveWithin_add {resolver : TypeResolver} (hops_le : hops ≤ maxHops) :
    resolver.resolve site.entity site.column =
      resolver.resolveWithin (hops + (maxHops - hops + 1)) site.entity site.column := by
  rw [resolve, show maxHops + 1 = hops + (maxHops - hops + 1) by omega]

/-- The types of the column in which a chain ends are those of its start. -/
theorem Chain.resolve_ok {types : SqlTypes}
    (chain : TypeResolver.Chain ⟨model, .ansi⟩ hops site last)
    (terminal : TypeResolver.Terminal ⟨model, .ansi⟩ last) (hops_le : hops ≤ maxHops)
    (found : TypeResolver.resolve ⟨model, .ansi⟩ last.entity last.column = .ok types) :
    TypeResolver.resolve ⟨model, .ansi⟩ site.entity site.column = .ok types := by
  obtain ⟨outcome, same, _⟩ := terminal.resolveWithin_ansi
  rw [resolve, same] at found
  rw [resolve_eq_resolveWithin_add hops_le]
  exact chain.resolveWithin_ok ((same _).trans found)

/-- A failure at the end of a chain is a failure at its start, and no cycle. -/
theorem Chain.resolve_error {inner : Diagnostic}
    (chain : TypeResolver.Chain ⟨model, .ansi⟩ hops site last)
    (terminal : TypeResolver.Terminal ⟨model, .ansi⟩ last) (hops_le : hops ≤ maxHops)
    (failed : TypeResolver.resolve ⟨model, .ansi⟩ last.entity last.column = .error inner) :
    ∃ outer, TypeResolver.resolve ⟨model, .ansi⟩ site.entity site.column = .error outer ∧
      outer.code ≠ .referenceCycle := by
  obtain ⟨outcome, same, failure⟩ := terminal.resolveWithin_ansi
  rw [resolve, same] at failed
  rw [resolve_eq_resolveWithin_add hops_le]
  exact chain.resolveWithin_error ((same _).trans failed) (failure inner failed).2

/-- A failure behind the first hop is reported under the code of that hop. -/
theorem Hop.resolve_error {next : ColumnSite} {kind : ReferenceKind} {inner : Diagnostic}
    (hop : TypeResolver.Hop ⟨model, .ansi⟩ kind site next)
    (chain : TypeResolver.Chain ⟨model, .ansi⟩ hops next last)
    (terminal : TypeResolver.Terminal ⟨model, .ansi⟩ last) (hops_lt : hops < maxHops)
    (failed : TypeResolver.resolve ⟨model, .ansi⟩ last.entity last.column = .error inner) :
    ∃ outer, TypeResolver.resolve ⟨model, .ansi⟩ site.entity site.column = .error outer ∧
      outer.subject = site.qualified ∧ outer.code = kind.failureCode := by
  obtain ⟨outcome, same, failure⟩ := terminal.resolveWithin_ansi
  rw [resolve, same] at failed
  obtain ⟨middle, middle_failed, noCycle⟩ :=
    chain.resolveWithin_error ((same (maxHops - (hops + 1))).trans failed) (failure inner failed).2
  rw [resolve_eq_resolveWithin_add (Nat.succ_le_of_lt hops_lt), Nat.succ_add]
  exact hop.resolveWithin_error middle_failed noCycle

/-- Type resolution follows the chain of references. A chain with more than `maxHops` hops is
reported as a cycle, and a chain that comes back to a column is one of these. Any other chain ends
in some column after at most `maxHops` hops: the types of that column are the types of the start. If
that column has none, the start reports the same when it is that column itself, and otherwise
reports itself under the code of its own reference. -/
theorem resolve_follows_chain (model : Model) (start : ColumnSite) :
    let resolver : TypeResolver := ⟨model, .ansi⟩
    let typesAt (site : ColumnSite) := resolver.resolve site.entity site.column
    let tooLong := ∃ last, resolver.Chain (maxHops + 1) start last
    ((∃ diagnostic, typesAt start = .error diagnostic ∧ diagnostic.code = .referenceCycle) ↔
        tooLong) ∧
      (∀ before around turn, resolver.Chain before start turn →
        resolver.Chain (around + 1) turn turn → tooLong) ∧
      (tooLong ∨ ∃ hops ≤ maxHops, ∃ last, resolver.Chain hops start last ∧
        resolver.Terminal last) ∧
      ∀ hops last, hops ≤ maxHops → resolver.Chain hops start last → resolver.Terminal last →
        (∀ types, typesAt last = .ok types → typesAt start = .ok types) ∧
          ∀ inner, typesAt last = .error inner →
            (hops = 0 → typesAt start = .error inner) ∧
              ∀ kind next, resolver.Hop kind start next →
                ∃ outer, typesAt start = .error outer ∧ outer.subject = start.qualified ∧
                  outer.code = kind.failureCode := by
  intro resolver typesAt tooLong
  have settles : tooLong ∨ ∃ hops ≤ maxHops, ∃ last, resolver.Chain hops start last ∧
      resolver.Terminal last := by
    simpa only [Nat.lt_succ_iff] using exists_chain_or_terminal resolver (maxHops + 1) start
  refine ⟨⟨?_, ?_⟩, ?_, settles, ?_⟩
  -- A chain that ends within the limit is never reported as a cycle.
  · rintro ⟨diagnostic, failed, cycle⟩
    rcases settles with long | ⟨hops, hops_le, last, chain, terminal⟩
    · exact long
    · cases last_eq : typesAt last with
      | ok types => cases failed.symm.trans (chain.resolve_ok terminal hops_le last_eq)
      | error inner =>
          obtain ⟨outer, outer_failed, noCycle⟩ := chain.resolve_error terminal hops_le last_eq
          cases failed.symm.trans outer_failed
          exact absurd cycle noCycle
  · rintro ⟨last, chain⟩
    exact ⟨_, chain.resolveWithin_exhausted, rfl⟩
  · intro before around turn start_chain turn_chain
    exact start_chain.exists_of_cycle turn_chain _
  · intro hops last hops_le chain terminal
    refine ⟨fun types => chain.resolve_ok terminal hops_le, ?_⟩
    intro inner failed
    refine ⟨?_, ?_⟩
    · rintro rfl
      cases chain
      exact failed
    · intro kind next hop
      cases chain with
      | here => exact absurd ⟨kind, next, hop⟩ terminal
      | hop first rest =>
          obtain ⟨rfl, rfl⟩ := hop.unique first
          exact hop.resolve_error rest terminal hops_le failed

end TypeResolver

end SchemaCompiler
