import QueryGate.Proofs.Sanitizer.Reread
import QueryGate.Proofs.Statement.Replaced

/-! # Sanitizing again

A sanitized statement may lose further columns when it is sanitized again.  Its span is where it
was, and what is read there is the new projection or the beginning of it.  No item of kept columns
is sensitive, so two ways remain: the substitute for card numbers reads a column itself, and a kept
column may be read again as a whole row of a table with sensitive columns (`Relapses`).  Otherwise
the second pass changes nothing (`sanitized_again_iff`). -/

namespace QueryGate.Sanitizer

open Text Projection Statement

/-- Something is removed from the sanitized statement. -/
inductive Relapses (s schema : Text) : Prop
  /-- No column is kept, and the first removed one names a card number. -/
  | cardTypes {table first : Text} {more : List Text}
      (hremoved : blockedColumns Catalog.standard s schema = first :: more)
      (hkept : keptColumns Catalog.standard s schema = [])
      (hcard : toLower first = "credit_card".toList)
      (htable : table? (cleaned s schema) = some table)
  /-- The sanitized statement asks for whole rows of a table with a sensitive column. -/
  | wholeRow {table column : Text} (htable : table? (cleaned s schema) = some table)
      (hwild : wildcard ∈ columns (cleaned s schema))
      (hcolumn : column ∈ Schema.columnsOf schema table)
      (hsensitive : Catalog.standard.isSensitive column = true)

variable {s schema : Text} {span : Span}

/-! ## What is read from the new statement -/

theorem head?_keptProjection (old : Text) {kept : List Text} (h : kept ≠ []) :
    (keptProjection old kept).head?.any (!isBlank ·) = true := by
  rw [keptProjection]
  cases hquantifiers : quantifierPrefix old with
  | cons x q =>
    have hhead := head?_quantifierPrefix old
    rw [hquantifiers] at hhead
    simpa using hhead
  | nil =>
    obtain ⟨column, kept, rfl⟩ := List.exists_cons_of_ne_nil h
    have hquote : (!isBlank '`') = true := by decide
    cases kept with
    | nil => exact hquote
    | cons next kept => exact hquote

/-- What is read from a projection of kept columns is read from the beginning of it. -/
theorem exists_prefix_of_kept (hspan : span? s = some span)
    (hkept : keptColumns Catalog.standard s schema ≠ []) :
    ∃ p, p <+: keptProjection span.projection (keptColumns Catalog.standard s schema) ∧
      requested (span.withProjection
        (keptProjection span.projection (keptColumns Catalog.standard s schema))) =
          requestedOf p := by
  obtain ⟨again, hagain, -, hprefix, -⟩ :=
    span?_withProjection hspan (head?_keptProjection span.projection hkept)
  exact ⟨again.projection, hprefix, requested_of_span hagain⟩

/-- A substitute is read as it stands. -/
theorem requested_substitute (hspan : span? s = some span) (first : Text) :
    requested (span.withProjection (substitute Catalog.standard first)) =
      if toLower first = "credit_card".toList then [cardTypes] else [] := by
  obtain ⟨hfrom, hhead, hlast⟩ := substitute_whole first
  obtain ⟨again, hagain, -, -, hwhole⟩ := span?_withProjection hspan hhead
  rw [requested_of_span hagain, hwhole hfrom hlast, requestedOf_substitute]

/-! ## The second pass -/

/-- What a statement asks for and must not be shown is removed. -/
theorem blockedColumns_ne_nil {c : Catalog} {r : Requested} (h : r ∈ considered s schema)
    (hr : isBlocked c r = true) : blockedColumns c s schema ≠ [] :=
  List.ne_nil_of_mem (List.mem_map_of_mem (List.mem_filter.mpr ⟨h, hr⟩))

theorem Relapses.blockedColumns_ne_nil (h : Relapses s schema) :
    blockedColumns Catalog.standard (cleaned s schema) schema ≠ [] := by
  cases h with
  | @cardTypes table first more hremoved hkept hcard htable =>
    have hrequested : requested (cleaned s schema) = [Sanitizer.cardTypes] := by
      cases outcome Catalog.standard s schema with
      | unchanged hblocked _ =>
        rw [hblocked] at hremoved
        cases hremoved
      | @replaced _ new span _ hspan _ hnew hstatement =>
        cases hnew with
        | substitute hremoved' _ =>
          obtain ⟨rfl, -⟩ := List.cons.inj (hremoved.symm.trans hremoved')
          rw [cleaned, hstatement, requested_substitute hspan, if_pos hcard]
        | kept hne => exact absurd hkept hne
    have hconsidered : Sanitizer.cardTypes ∈ considered (cleaned s schema) schema := by
      rw [considered, htable, hrequested]
      exact mem_expand List.mem_cons_self (by decide)
    exact Sanitizer.blockedColumns_ne_nil hconsidered (by decide +kernel)
  | @wholeRow table column htable hwild hcolumn hsensitive =>
    obtain ⟨r, hr, hrwild⟩ := List.mem_map.mp hwild
    have hconsidered : ⟨column, column⟩ ∈ considered (cleaned s schema) schema := by
      rw [considered, htable]
      exact mem_expand_iff.mpr (.inl ⟨column, hcolumn, rfl, r, hr, hrwild⟩)
    exact Sanitizer.blockedColumns_ne_nil hconsidered (by rw [isBlocked, hsensitive, Bool.true_or])

/-- An item of the new statement that must not be shown is that of the substitute for card
numbers. -/
theorem relapses_of_requested {table : Text} {r : Requested}
    (hblocked : blockedColumns Catalog.standard s schema ≠ [])
    (htable : table? (cleaned s schema) = some table) (hr : r ∈ requested (cleaned s schema))
    (hsensitive : isBlocked Catalog.standard r = true) : Relapses s schema := by
  cases outcome Catalog.standard s schema with
  | unchanged hnone _ => exact absurd hnone hblocked
  | @replaced _ new span _ hspan _ hnew hstatement =>
    rw [cleaned, hstatement] at hr
    cases hnew with
    | @substitute first more hremoved hkept =>
      rw [requested_substitute hspan] at hr
      split at hr
      · rename_i hcard
        exact .cardTypes hremoved hkept hcard htable
      · cases hr
    | kept hkept =>
      obtain ⟨p, hprefix, hp⟩ := exists_prefix_of_kept hspan hkept
      rw [hp] at hr
      rw [not_isBlocked_of_isInfix hprefix.isInfix r hr] at hsensitive
      cases hsensitive

theorem relapses_of_blockedColumns_ne_nil
    (h : blockedColumns Catalog.standard (cleaned s schema) schema ≠ []) : Relapses s schema := by
  have hblocked : blockedColumns Catalog.standard s schema ≠ [] := by
    intro hnone
    rw [cleaned, statement_of_blocked_eq_nil hnone] at h
    exact h hnone
  obtain ⟨column, hcolumn⟩ := List.exists_mem_of_ne_nil _ h
  obtain ⟨r, hr, rfl⟩ := List.mem_map.mp hcolumn
  obtain ⟨hconsidered, hsensitive⟩ := List.mem_filter.mp hr
  cases htable : table? (cleaned s schema) with
  | none =>
    rw [considered, htable] at hconsidered
    cases hconsidered
  | some table =>
    rw [considered, htable] at hconsidered
    rcases mem_expand_iff.mp hconsidered with ⟨_, hdeclared, rfl, w, hw, hwild⟩ | ⟨hr, -⟩
    · refine .wholeRow htable (List.mem_map.mpr ⟨w, hw, hwild⟩) hdeclared ?_
      simpa [isBlocked] using hsensitive
    · exact relapses_of_requested hblocked htable hr hsensitive

/-- A whole row that is read again comes from an asterisk in a kept column. -/
theorem asterisk_of_wildcard (hblocked : blockedColumns Catalog.standard s schema ≠ [])
    (hwild : wildcard ∈ columns (cleaned s schema)) :
    ∃ column ∈ keptColumns Catalog.standard s schema, '*' ∈ column := by
  obtain ⟨r, hr, hcolumn⟩ := List.mem_map.mp hwild
  cases outcome Catalog.standard s schema with
  | unchanged hnone _ => exact absurd hnone hblocked
  | @replaced _ new span _ hspan _ hnew hstatement =>
    rw [cleaned, hstatement] at hr
    cases hnew with
    | @substitute first more _ _ =>
      rw [requested_substitute hspan] at hr
      split at hr
      · obtain rfl := List.mem_singleton.mp hr
        exact absurd hcolumn (by decide)
      · cases hr
    | kept hkept =>
      obtain ⟨p, hprefix, hp⟩ := exists_prefix_of_kept hspan hkept
      rw [hp] at hr
      obtain ⟨hitem, hreference⟩ := mem_requestedOf_iff.mp hr
      have hmem : '*' ∈ keptProjection span.projection (keptColumns Catalog.standard s schema) := by
        refine hprefix.subset ((isInfix_of_mem_split hitem).subset ?_)
        have hread : '*' ∈ r.column := by
          rw [hcolumn]
          exact List.mem_singleton_self '*'
        exact (List.mem_filter.mp ((isInfix_of_reference hreference).subset hread)).1
      rcases mem_keptProjection hmem with h | h | h
      · exact absurd h (not_mem_quantifierPrefix (by decide +kernel) (by decide +kernel) _)
      · exact absurd h (by decide)
      · exact h

namespace Sample

/-- A statement that selects card numbers alone. -/
def cards : Text := "SELECT credit_card FROM payments".toList

/-- A statement whose first item is no whole row, for the alias behind it is in single quotes. -/
def aliasedRows : Text := "SELECT * AS 'y', password FROM users".toList

end Sample

/-- **When sanitizing again changes nothing.**  From a sanitized statement nothing is removed, and it
stays as it is, exactly if it does not relapse.  A statement relapses only if its card numbers are
replaced, or if it keeps a column with an asterisk in its name. -/
theorem sanitized_again_iff (s schema : Text) :
    ((sanitize Catalog.standard (cleaned s schema) schema).blocked = [] ∧
        (sanitize Catalog.standard (cleaned s schema) schema).statement = cleaned s schema ↔
      ¬ Relapses s schema) ∧
    (Relapses s schema →
      (∃ first more, blockedColumns Catalog.standard s schema = first :: more ∧
        toLower first = "credit_card".toList) ∨
      ∃ column ∈ keptColumns Catalog.standard s schema, '*' ∈ column) := by
  constructor
  · rw [blocked_eq_nil_iff]
    constructor
    · rintro ⟨hnone, -⟩ hrelapses
      exact hrelapses.blockedColumns_ne_nil hnone
    · intro hno
      have hnone : blockedColumns Catalog.standard (cleaned s schema) schema = [] := by
        by_contra h
        exact hno (relapses_of_blockedColumns_ne_nil h)
      exact ⟨hnone, statement_of_blocked_eq_nil hnone⟩
  · intro hrelapses
    cases hrelapses with
    | @cardTypes table first more hremoved _ hcard _ => exact .inl ⟨first, more, hremoved, hcard⟩
    | wholeRow htable hwild hcolumn hsensitive =>
      refine .inr (asterisk_of_wildcard ?_ hwild)
      intro hnone
      have hsame : cleaned s schema = s := statement_of_blocked_eq_nil hnone
      have hagain := (Relapses.wholeRow htable hwild hcolumn hsensitive).blockedColumns_ne_nil
      rw [hsame] at hagain
      exact hagain hnone

/-- The substitute for card numbers names them, so it is replaced in its turn.  An asterisk that is
kept with an alias is read as a whole row once back quotes stand around them. -/
theorem sanitized_not_kept :
    cleaned Sample.cards [] =
        "SELECT COUNT(DISTINCT LEFT(credit_card, 4)) as card_types_count FROM payments".toList ∧
      (sanitize Catalog.standard (cleaned Sample.cards []) []).blocked =
        [⟨"credit_card, 4".toList⟩] ∧
      cleaned (cleaned Sample.cards []) [] =
        "SELECT COUNT(*) AS record_count FROM payments".toList ∧
      cleaned Sample.aliasedRows Sample.usersTable = "SELECT `* AS y` FROM users".toList ∧
      (sanitize Catalog.standard (cleaned Sample.aliasedRows Sample.usersTable)
        Sample.usersTable).blocked = [⟨"password".toList⟩] ∧
      cleaned (cleaned Sample.aliasedRows Sample.usersTable) Sample.usersTable =
        "SELECT `id`, `name` FROM users".toList := by
  decide +kernel

end QueryGate.Sanitizer
