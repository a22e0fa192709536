import QueryGate.Proofs.Projection.Quantifiers
import QueryGate.Proofs.Sanitizer.Outcome
import QueryGate.Proofs.Statement.Span

/-! # The rewritten projection

When some of the requested columns are removed and some are kept, the first projection becomes its
quantifiers and the kept columns in back quotes, and the statement is the same on both sides of it
(`statement_of_kept`).  An identifier holds neither a space nor a comma nor a back quote, so a
pattern that stands in the new projection stands in the quantifiers or in one kept column.  The
kept columns are those in which no pattern stands. -/

namespace QueryGate

open Text Projection

/-- A name of ASCII letters, digits and underscores. -/
def Text.IsIdentifier (p : Text) : Prop := p ≠ [] ∧ ∀ x ∈ p, isAscii x = true ∧ isWord x = true

instance (p : Text) : Decidable p.IsIdentifier :=
  decidable_of_iff (p ≠ [] ∧ p.all (fun x => isAscii x && isWord x) = true)
    (by simp [Text.IsIdentifier])

/-- The patterns of the catalog are identifiers, none of which stands in the quantifiers that the
projection of the statement keeps. -/
def Catalog.ClearOf (c : Catalog) (s : Text) : Prop :=
  ∀ p ∈ c.patterns, p.IsIdentifier ∧ ∀ span, Statement.span? s = some span →
    contains p (toLower (quantifierPrefix span.projection)) = false

theorem Catalog.standard_isIdentifier : ∀ p ∈ Catalog.standard.patterns, p.IsIdentifier := by
  decide

/-- The standard catalog is clear of every statement. -/
theorem Catalog.standard_clearOf (s : Text) : Catalog.standard.ClearOf s := by
  intro p hp
  have hidentifier := Catalog.standard_isIdentifier p hp
  refine ⟨hidentifier, ?_⟩
  intro span _
  rw [Bool.eq_false_iff, ne_eq, contains_iff_infix,
    infix_toLower_iff fun x hx => (hidentifier.2 x hx).1]
  exact standard_pattern_not_in_quantifiers hp _

namespace Sanitizer

variable {c : Catalog} {s schema : Text}

/-- With some columns removed and some kept, the projection of the first span is replaced. -/
theorem statement_of_kept (hblocked : (sanitize c s schema).blocked ≠ [])
    (hkept : keptColumns c s schema ≠ []) :
    ∃ span, Statement.span? s = some span ∧
      (sanitize c s schema).statement =
        span.withProjection (keptProjection span.projection (keptColumns c s schema)) := by
  cases outcome c s schema with
  | unchanged hnone _ => exact absurd (blocked_eq_nil_iff.mpr hnone) hblocked
  | replaced _ hspan _ hnew hstatement =>
    cases hnew with
    | substitute _ hnone => exact absurd hnone hkept
    | kept _ => exact ⟨_, hspan, hstatement⟩

theorem not_isSensitive_of_mem_keptColumns {column : Text} (h : column ∈ keptColumns c s schema) :
    c.isSensitive column = false := by
  obtain ⟨r, hr, rfl⟩ := List.mem_map.mp h
  have hfree : isBlocked c r = false := by simpa using (List.mem_filter.mp hr).2
  exact (Bool.or_eq_false_iff.mp hfree).1

theorem not_contains_of_not_isSensitive {p column : Text} (hp : p ∈ c.patterns)
    (h : c.isSensitive column = false) : contains p (toLower column) = false := by
  have hnone : c.matchingPattern? column = none := by
    simpa [Catalog.isSensitive] using h
  simpa using List.find?_eq_none.mp hnone p hp

/-! ## Where an identifier stands -/

theorem not_mem_of_isIdentifier {p : Text} (hp : p.IsIdentifier) {x : Char}
    (hx : isWord x = false) : x ∉ p := by
  intro hmem
  rw [(hp.2 x hmem).2] at hx
  cases hx

/-- An identifier in a list of texts stands in one of them. -/
theorem exists_of_infix_join {p : Text} (hp : p.IsIdentifier) {ts : List Text}
    (h : p <:+: lowered (join ", ".toList ts)) : ∃ t ∈ ts, p <:+: lowered t := by
  have hcomma : ',' ∉ p := not_mem_of_isIdentifier hp (by decide)
  have hspace : ' ' ∉ p := not_mem_of_isIdentifier hp (by decide)
  induction ts with
  | nil => exact absurd (List.infix_nil.mp h) hp.1
  | cons t ts ih =>
    cases ts with
    | nil => exact ⟨t, List.mem_cons_self, h⟩
    | cons next ts =>
      -- a comma and a blank stand between the first text and the others
      have himage : lowered (join ", ".toList (t :: next :: ts)) =
          lowered t ++ ',' :: ([] ++ ' ' :: lowered (join ", ".toList (next :: ts))) := by
        have hsep : lowered ", ".toList = [',', ' '] := by decide
        rw [join_cons_cons, lowered_append, lowered_append, hsep]
        rfl
      rw [himage] at h
      rcases infix_of_infix_append_cons hcomma h with h | h
      · exact ⟨t, List.mem_cons_self, h⟩
      · rcases infix_of_infix_append_cons hspace h with h | h
        · exact absurd (List.infix_nil.mp h) hp.1
        · obtain ⟨found, hmem, hfound⟩ := ih h
          exact ⟨found, List.mem_cons_of_mem _ hmem, hfound⟩

/-- An identifier in the list of the kept columns stands in one of them. -/
theorem exists_column_of_infix_join {p : Text} (hp : p.IsIdentifier) {kept : List Text}
    (h : p <:+: lowered (join ", ".toList (kept.map backQuoted))) :
    ∃ column ∈ kept, p <:+: lowered column := by
  have hquote : '`' ∉ p := not_mem_of_isIdentifier hp (by decide)
  obtain ⟨t, ht, h⟩ := exists_of_infix_join hp h
  obtain ⟨column, hcolumn, rfl⟩ := List.mem_map.mp ht
  refine ⟨column, hcolumn, ?_⟩
  -- the quotes around a column stay in place
  have himage : lowered (backQuoted column) = [] ++ '`' :: (lowered column ++ '`' :: []) := by
    have hself : plainLower '`' = ['`'] := by decide
    simp [backQuoted, hself]
  rw [himage] at h
  rcases infix_of_infix_append_cons hquote h with h | h
  · exact absurd (List.infix_nil.mp h) hp.1
  · rcases infix_of_infix_append_cons hquote h with h | h
    · exact h
    · exact absurd (List.infix_nil.mp h) hp.1

/-- A new projection begins with its quantifiers, and a back quote stands behind them. -/
theorem infix_of_infix_keptProjection {p old : Text} (hp : p.IsIdentifier) {kept : List Text}
    (h : p <:+: lowered (keptProjection old kept)) :
    p <:+: lowered (quantifierPrefix old) ∨
      p <:+: lowered (join ", ".toList (kept.map backQuoted)) := by
  have hquote : '`' ∉ p := not_mem_of_isIdentifier hp (by decide)
  have hself : plainLower '`' = ['`'] := by decide
  have hlead : lowered (join ", ".toList (kept.map backQuoted)) = [] ∨
      ∃ more, lowered (join ", ".toList (kept.map backQuoted)) = '`' :: more := by
    cases kept with
    | nil => exact .inl rfl
    | cons column kept =>
      right
      cases kept with
      | nil => exact ⟨_, by simp [join, backQuoted, hself]; rfl⟩
      | cons next kept => exact ⟨_, by simp [join, backQuoted, hself]; rfl⟩
  rw [keptProjection, lowered_append] at h
  rcases hlead with hnil | ⟨more, hmore⟩
  · rw [hnil, List.append_nil] at h
    exact .inl h
  · rw [hmore] at h ⊢
    exact (infix_of_infix_append_cons hquote h).imp_right List.infix_cons

namespace Sample

/-- A statement over whole rows. -/
def wholeRows : Text := "SELECT DISTINCT *, u.name AS n FROM users u".toList

/-- A table with a sensitive column. -/
def usersTable : Text := "Table: users\n- id (INT)\n- name (TEXT)\n- password (TEXT)".toList

end Sample

/-- **The rewritten projection names nothing sensitive.**  For the standard catalog, and for every
catalog of identifiers that is clear of the statement: if some requested columns are removed and
some are kept, the statement becomes the text before its first span, `SELECT`, a new projection,
`FROM` and the text behind the span.  No pattern of the catalog stands in the lower case of the new
projection. -/
theorem rewritten_projection_clear (hc : c = Catalog.standard ∨ c.ClearOf s)
    (hblocked : (sanitize c s schema).blocked ≠ []) (hkept : keptColumns c s schema ≠ []) :
    ∃ span projection, Statement.span? s = some span ∧ span.FirstIn s ∧
      (sanitize c s schema).statement =
        span.before ++ "SELECT ".toList ++ projection ++ " FROM".toList ++ span.after ∧
      ∀ p ∈ c.patterns, contains p (toLower projection) = false := by
  obtain ⟨span, hspan, hstatement⟩ := statement_of_kept hblocked hkept
  refine ⟨span, keptProjection span.projection (keptColumns c s schema), hspan,
    Statement.span?_first hspan, hstatement, ?_⟩
  have hclear : c.ClearOf s := by
    rcases hc with rfl | hc
    · exact Catalog.standard_clearOf s
    · exact hc
  intro p hp
  obtain ⟨hidentifier, hquantifiers⟩ := hclear p hp
  have hascii : AllAscii p := fun x hx => (hidentifier.2 x hx).1
  rw [Bool.eq_false_iff, ne_eq, contains_iff_infix, infix_toLower_iff hascii]
  intro hinfix
  -- a pattern in the projection would stand in the quantifiers or in a kept column
  rcases infix_of_infix_keptProjection hidentifier hinfix with h | h
  · rw [← infix_toLower_iff hascii, ← contains_iff_infix, hquantifiers span hspan] at h
    cases h
  · obtain ⟨column, hcolumn, h⟩ := exists_column_of_infix_join hidentifier h
    have hfree := not_contains_of_not_isSensitive hp (not_isSensitive_of_mem_keptColumns hcolumn)
    rw [← infix_toLower_iff hascii, ← contains_iff_infix, hfree] at h
    cases h

theorem rewritten_projection_clear_distinct :
    (Catalog.standard = Catalog.standard ∨ Catalog.standard.ClearOf Sample.wholeRows) ∧
      (sanitize Catalog.standard Sample.wholeRows Sample.usersTable).blocked ≠ [] ∧
      keptColumns Catalog.standard Sample.wholeRows Sample.usersTable ≠ [] ∧
      ∃ span projection, Statement.span? Sample.wholeRows = some span ∧
        span.FirstIn Sample.wholeRows ∧
        (sanitize Catalog.standard Sample.wholeRows Sample.usersTable).statement =
          span.before ++ "SELECT ".toList ++ projection ++ " FROM".toList ++ span.after ∧
        ∀ p ∈ Catalog.standard.patterns, contains p (toLower projection) = false :=
  have hblocked : (sanitize Catalog.standard Sample.wholeRows Sample.usersTable).blocked ≠ [] := by
    decide
  have hkept : keptColumns Catalog.standard Sample.wholeRows Sample.usersTable ≠ [] := by
    decide
  ⟨.inl rfl, hblocked, hkept, rewritten_projection_clear (.inl rfl) hblocked hkept⟩

end Sanitizer

end QueryGate
