import QueryGate.Proofs.Projection.Reduction
import QueryGate.Proofs.Sanitizer.WholeRow

/-! # Where kept columns come from

A kept column is declared by the schema or read from an item of the old projection
(`considered_cases`), so it has no quotes (`not_isQuoteMark_of_mem_keptColumns`). -/

namespace QueryGate.Sanitizer

open Text Projection Statement

variable {c : Catalog} {s schema : Text}

theorem mem_requestedOf_iff {p : Text} {r : Requested} :
    r ∈ requestedOf p ↔ r.item ∈ split p ∧ reference r.item = some r.column := by
  rw [requestedOf, List.mem_filterMap]
  constructor
  · rintro ⟨item, hitem, h⟩
    obtain ⟨column, hcolumn, rfl⟩ := Option.map_eq_some_iff.mp h
    exact ⟨hitem, hcolumn⟩
  · rintro ⟨hitem, hcolumn⟩
    exact ⟨r.item, hitem, by rw [hcolumn]; rfl⟩

/-- What is considered is declared by the schema, in place of a whole row, or read from an item. -/
theorem considered_cases {r : Requested} (h : r ∈ considered s schema) :
    (∃ table, table? s = some table ∧ r.column ∈ Schema.columnsOf schema table) ∨
      ∃ span, span? s = some span ∧ r ∈ requestedOf span.projection := by
  cases htable : table? s with
  | none => simp [considered, htable] at h
  | some table =>
    rw [considered, htable] at h
    rcases mem_expand_iff.mp h with ⟨column, hcolumn, rfl, -⟩ | ⟨hr, -⟩
    · exact .inl ⟨table, rfl, hcolumn⟩
    · cases hspan : span? s with
      | none => simp [requested, hspan] at hr
      | some span =>
        rw [requested_of_span hspan] at hr
        exact .inr ⟨span, rfl, hr⟩

/-- A kept column is a word of the schema, or a part of the projection without its quotes. -/
theorem keptColumns_cases {column : Text} (h : column ∈ keptColumns c s schema) :
    AllWord column ∨ ∃ span, span? s = some span ∧ column <:+: unquote span.projection := by
  obtain ⟨r, hr, rfl⟩ := List.mem_map.mp h
  rcases considered_cases (List.mem_filter.mp hr).1 with ⟨table, -, hcolumn⟩ | ⟨span, hspan, hr⟩
  · exact .inl (Schema.allWord_of_mem_columnsOf hcolumn)
  · obtain ⟨hitem, hreference⟩ := mem_requestedOf_iff.mp hr
    exact .inr ⟨span, hspan,
      (isInfix_of_reference hreference).trans ((isInfix_of_mem_split hitem).filter _)⟩

/-- Kept columns have no quotes. -/
theorem not_isQuoteMark_of_mem_keptColumns {column : Text} (h : column ∈ keptColumns c s schema) :
    ∀ x ∈ column, isQuoteMark x = false := by
  intro x hx
  rcases keptColumns_cases h with hword | ⟨span, -, hpart⟩
  · exact isQuoteMark_of_not_mark (not_mark_of_isWord (hword x hx))
  · simpa using (List.mem_filter.mp (hpart.subset hx)).2

/-- What stands in a new projection of kept columns. -/
theorem mem_keptProjection {old : Text} {kept : List Text} {x : Char}
    (h : x ∈ keptProjection old kept) :
    x ∈ quantifierPrefix old ∨ x ∈ ", `".toList ∨ ∃ column ∈ kept, x ∈ column := by
  rw [keptProjection] at h
  rcases List.mem_append.mp h with h | h
  · exact .inl h
  · right
    rcases mem_join h with h | ⟨t, ht, hx⟩
    · exact .inl (List.mem_append_left ['`'] h)
    · obtain ⟨column, hcolumn, rfl⟩ := List.mem_map.mp ht
      have hmark : '`' ∈ ", `".toList := by decide
      rcases List.mem_append.mp hx with hx | hx
      · rcases List.mem_cons.mp hx with rfl | hx
        · exact .inl hmark
        · exact .inr ⟨column, hcolumn, hx⟩
      · obtain rfl := List.mem_singleton.mp hx
        exact .inl hmark

end QueryGate.Sanitizer
