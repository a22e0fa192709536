import QueryGate.Proofs.Sanitizer.Kept
import QueryGate.Proofs.Statement.Accepted

/-! # One statement that reads

What is put into an accepted statement comes from the statement, from the schema or from the
catalog.  None of it is a separator (`not_mem_replacement`), and the keyword that leads the statement
stands in front of the first span or opens it (`ledBy_withProjection`).  So a sanitized statement
is one statement that reads (`sanitized_readOnly`). -/

namespace QueryGate.Sanitizer

open Text Projection Statement StatementRules

variable {c : Catalog} {s schema : Text}

/-- The characters of a new projection stand in the statement or in the catalog, but for a few. -/
theorem not_mem_replacement {span : Span} {new : Text} {x : Char}
    (hcatalog : ∀ e ∈ c.safeAlternatives.entries, x ∉ e.2) (hgeneric : x ∉ Catalog.genericAlternative)
    (hgap : isGap x = false) (hword : isWord x = false) (hlist : x ∉ ", `".toList)
    (hspan : span? s = some span) (hprojection : x ∉ span.projection)
    (h : Replacement c s schema span.projection new) : x ∉ new := by
  cases h with
  | @substitute first more _ _ =>
    rcases substitute_cases c first with hlisted | heq
    · exact hcatalog _ hlisted
    · rw [heq]
      exact hgeneric
  | kept _ =>
    intro hmem
    rcases mem_keptProjection hmem with hmem | hmem | ⟨column, hcolumn, hx⟩
    · exact not_mem_quantifierPrefix hgap hword _ hmem
    · exact hlist hmem
    · rcases keptColumns_cases hcolumn with hall | ⟨other, hother, hpart⟩
      · rw [hall x hx] at hword
        cases hword
      · obtain rfl : span = other := Option.some.inj (hspan.symm.trans hother)
        exact hprojection (List.mem_filter.mp (hpart.subset hx)).1

/-- With another projection in its first span, a statement is led by a keyword that reads. -/
theorem ledBy_withProjection {kind new : Text} {span : Span} (hkind : kind ∈ readOnlyKinds)
    (hspan : span? s = some span) (h : LedBy kind s) :
    ∃ kind ∈ readOnlyKinds, LedBy kind (span.withProjection new) := by
  obtain ⟨select, gap, gap', close, hs, hlast, hselect, -, -, hclose, -⟩ := (span?_first hspan).stands
  have hfrom : ∀ tail, ¬ AllBlank (new ++ (" FROM".toList ++ tail)) := by
    intro tail hblank
    have hletter : isBlank 'F' = true := hblank 'F' (by simp)
    exact absurd hletter (by decide)
  have hnew : span.withProjection new =
      span.before ++ ("SELECT ".toList ++ (new ++ (" FROM".toList ++ span.after))) := by
    simp only [Span.withProjection, List.append_assoc]
  rw [hnew]
  by_cases hbefore : AllBlank span.before
  · exact ⟨"SELECT".toList, by decide, ledBy_select hbefore (hfrom span.after)⟩
  · have hletters : ∀ kind ∈ readOnlyKinds, kind.IsIdentifier := by decide +kernel
    refine ⟨kind, hkind, LedBy.of_lead (hletters kind hkind).2 hbefore (by simpa using hlast) ?_ ?_
      (by rw [hs] at h; exact h)⟩
    · -- the statement had a `SELECT` there
      intro hblank
      obtain ⟨x, hx⟩ := List.exists_mem_of_ne_nil _ (hselect.ne_nil_of_keyword (by decide))
      have hword := hselect.allWord_of_keyword (by decide) x hx
      rw [isWord_of_isBlank (hblank x (List.mem_append_left _ hx))] at hword
      cases hword
    · intro hblank
      have hletter : isBlank 'S' = true := hblank 'S' (by simp)
      exact absurd hletter (by decide)

namespace Sample

/-- A statement behind a keyword that asks how it would run. -/
def explained : Text := "explain SELECT id, password FROM users".toList

end Sample

/-- **Sanitizing keeps one statement that reads.**  Let no alternative of the catalog hold a
separator, and let a statement be accepted that begins with one of the keywords of statements that
read, whatever patterns are denied.  Then its sanitized form holds no separator and begins, trimmed
and in upper case, with such a keyword and a blank. -/
theorem sanitized_readOnly {denylist : List DenyRule}
    (hcatalog : ∀ e ∈ c.safeAlternatives.entries, separator ∉ e.2)
    (hsafe : (make denylist readOnlyKinds).judge s = .safe) :
    separator ∉ (sanitize c s schema).statement ∧
      ∃ kind ∈ readOnlyKinds, LedBy kind (sanitize c s schema).statement := by
  obtain ⟨-, ⟨kind, hkind, hled⟩, hseparator⟩ := judge_eq_safe_iff.mp hsafe
  have hkinds : (make denylist readOnlyKinds).kinds = readOnlyKinds := by
    show readOnlyKinds.map toUpper = readOnlyKinds
    decide +kernel
  rw [hkinds] at hkind
  cases outcome c s schema with
  | unchanged _ hstatement =>
    rw [hstatement]
    exact ⟨hseparator, kind, hkind, hled⟩
  | @replaced table new span _ hspan _ hnew hstatement =>
    rw [hstatement]
    refine ⟨?_, ledBy_withProjection hkind hspan hled⟩
    obtain ⟨select, gap, gap', close, hs, -⟩ := (span?_first hspan).stands
    simp only [hs, List.mem_append, not_or] at hseparator
    obtain ⟨hbefore, -, -, hprojection, -, -, hafter⟩ := hseparator
    have hmiddle := not_mem_replacement hcatalog (by decide) (by decide)
      (by decide) (by decide) hspan hprojection hnew
    have hselect : separator ∉ "SELECT ".toList := by decide
    have hfrom : separator ∉ " FROM".toList := by decide
    simp only [Span.withProjection, List.mem_append, not_or]
    exact ⟨⟨⟨⟨hbefore, hselect⟩, hmiddle⟩, hfrom⟩, hafter⟩

theorem sanitized_readOnly_explained :
    (∀ e ∈ Catalog.standard.safeAlternatives.entries, separator ∉ e.2) ∧
      (make DenyRule.defaults readOnlyKinds).judge Sample.explained = .safe ∧
      (sanitize Catalog.standard Sample.explained []).statement =
        "explain SELECT `id` FROM users".toList ∧
      separator ∉ (sanitize Catalog.standard Sample.explained []).statement ∧
      ∃ kind ∈ readOnlyKinds, LedBy kind (sanitize Catalog.standard Sample.explained []).statement :=
  have hcatalog : ∀ e ∈ Catalog.standard.safeAlternatives.entries, separator ∉ e.2 := by
    decide +kernel
  have hsafe : (make DenyRule.defaults readOnlyKinds).judge Sample.explained = .safe := by
    decide +kernel
  ⟨hcatalog, hsafe, by decide +kernel, sanitized_readOnly hcatalog hsafe⟩

end QueryGate.Sanitizer
