import QueryGate.Sanitizer

/-! # What sanitizing comes to

What a statement asks for is considered column by column, with the columns of the schema in place of
a whole row (`considered`).  With no column removed the statement is left as it is.  Otherwise the
projection of its first span is replaced: by a substitute if no column is kept, and by the kept
columns if there are some (`outcome`). -/

namespace QueryGate.Sanitizer

open Text Projection Statement

/-! ## Removed and kept columns -/

variable (c : Catalog) (s schema : Text)

/-- The columns that a statement asks for, each with its item. -/
def considered : List Requested :=
  match table? s with
  | none => []
  | some table => expand (Schema.columnsOf schema table) (requested s)

/-- The columns that stay in the projection. -/
def keptColumns : List Text := ((considered s schema).filter (!isBlocked c ·)).map (·.column)

/-- The columns that are removed from the projection. -/
def blockedColumns : List Text := ((considered s schema).filter (isBlocked c)).map (·.column)

variable {c s schema}

/-- Sanitizing in terms of the removed and the kept columns. -/
theorem sanitize_of_table {table : Text} (h : table? s = some table) :
    sanitize c s schema =
      if (blockedColumns c s schema).isEmpty then ⟨s, [], [], []⟩
      else ⟨replaceProjection c s (blockedColumns c s schema) (keptColumns c s schema),
        (blockedColumns c s schema).map (⟨·⟩), [],
        [.columnsBlocked table (blockedColumns c s schema) (keptColumns c s schema).isEmpty]⟩ := by
  simp only [sanitize, blockedColumns, keptColumns, considered, h]

/-- With a table found, the removed columns are those that must not be shown. -/
theorem blocked_of_table {table : Text} (h : table? s = some table) :
    (sanitize c s schema).blocked = (blockedColumns c s schema).map (⟨·⟩) := by
  rw [sanitize_of_table h]
  split
  · rename_i hempty
    rw [List.isEmpty_iff.mp hempty]
    rfl
  · rfl

theorem mem_expand_iff {schemaColumns : List Text} {l : List Requested} {r : Requested} :
    r ∈ expand schemaColumns l ↔
      (∃ column ∈ schemaColumns, r = ⟨column, column⟩ ∧ ∃ w ∈ l, w.column = wildcard) ∨
        r ∈ l ∧ r.column ≠ wildcard := by
  rw [expand, List.mem_flatMap]
  constructor
  · rintro ⟨w, hw, hr⟩
    split at hr
    · rename_i hwild
      obtain ⟨column, hcolumn, rfl⟩ := List.mem_map.mp hr
      exact .inl ⟨column, hcolumn, rfl, w, hw, hwild⟩
    · rename_i hcolumn
      obtain rfl := List.mem_singleton.mp hr
      exact .inr ⟨hw, hcolumn⟩
  · rintro (⟨column, hcolumn, rfl, w, hw, hwild⟩ | ⟨hr, hcolumn⟩)
    · exact ⟨w, hw, by rw [if_pos hwild]; exact List.mem_map_of_mem hcolumn⟩
    · exact ⟨r, hr, by rw [if_neg hcolumn]; exact List.mem_singleton_self r⟩

theorem mem_expand {l : List Requested} {schemaColumns : List Text} {r : Requested} (h : r ∈ l)
    (hr : r.column ≠ wildcard) : r ∈ expand schemaColumns l :=
  mem_expand_iff.mpr (.inr ⟨h, hr⟩)

/-- Without a whole row nothing is expanded. -/
theorem expand_eq_self {l : List Requested} (schemaColumns : List Text)
    (h : ∀ r ∈ l, r.column ≠ wildcard) : expand schemaColumns l = l := by
  induction l with
  | nil => rfl
  | cons r l ih =>
    obtain ⟨hr, hl⟩ := List.forall_mem_cons.mp h
    rw [expand, List.flatMap_cons, ← expand, ih hl, if_neg hr]
    rfl

/-! ## The new statement -/

/-- What is shown in place of a column is the alternative listed for it, or the generic one. -/
theorem substitute_cases (c : Catalog) (column : Text) :
    (toLower column, substitute c column) ∈ c.safeAlternatives.entries ∨
      substitute c column = Catalog.genericAlternative := by
  unfold substitute
  split
  · rename_i x alternative h
    rw [Catalog.safeAlternative?, OrderedMap.get?] at h
    obtain ⟨l, l', hsplit, -⟩ := List.lookup_eq_some_iff.mp h
    rw [hsplit]
    exact .inl (List.mem_append_right _ List.mem_cons_self)
  · exact .inr rfl

/-- The statement sanitized with the standard catalog. -/
def cleaned (s schema : Text) : Text := (sanitize Catalog.standard s schema).statement

/-- What takes the place of a projection. -/
inductive Replacement (c : Catalog) (s schema old : Text) : Text → Prop
  /-- No column is kept, and the first removed one chooses the substitute. -/
  | substitute {first : Text} {more : List Text}
      (hremoved : blockedColumns c s schema = first :: more) (hkept : keptColumns c s schema = []) :
      Replacement c s schema old (substitute c first)
  /-- Some columns are kept. -/
  | kept (hkept : keptColumns c s schema ≠ []) :
      Replacement c s schema old (keptProjection old (keptColumns c s schema))

/-- What becomes of a statement. -/
inductive Outcome (c : Catalog) (s schema : Text) : Prop
  /-- Nothing is removed. -/
  | unchanged (hblocked : blockedColumns c s schema = [])
      (hstatement : (sanitize c s schema).statement = s)
  /-- Something is removed, and the projection is replaced. -/
  | replaced {table new : Text} {span : Span} (htable : table? s = some table)
      (hspan : span? s = some span) (hblocked : blockedColumns c s schema ≠ [])
      (hnew : Replacement c s schema span.projection new)
      (hstatement : (sanitize c s schema).statement = span.withProjection new)

theorem blocked_eq (c : Catalog) (s schema : Text) :
    (sanitize c s schema).blocked = (blockedColumns c s schema).map (⟨·⟩) := by
  cases htable : table? s with
  | none => simp [sanitize, blockedColumns, considered, htable]
  | some table => exact blocked_of_table htable

theorem blocked_eq_nil_iff : (sanitize c s schema).blocked = [] ↔ blockedColumns c s schema = [] := by
  rw [blocked_eq, List.map_eq_nil_iff]

/-- A statement from which nothing is removed is left as it is. -/
theorem statement_of_blocked_eq_nil (h : blockedColumns c s schema = []) :
    (sanitize c s schema).statement = s := by
  cases htable : table? s with
  | none => simp [sanitize, htable]
  | some table => rw [sanitize_of_table htable, h, if_pos List.isEmpty_nil]

theorem outcome (c : Catalog) (s schema : Text) : Outcome c s schema := by
  by_cases hblocked : blockedColumns c s schema = []
  · exact .unchanged hblocked (statement_of_blocked_eq_nil hblocked)
  · -- a removed column is asked for by a statement with a table and a span
    cases htable : table? s with
    | none => exact absurd (by simp [blockedColumns, considered, htable]) hblocked
    | some table =>
      cases hspan : span? s with
      | none =>
        exact absurd (by simp [blockedColumns, considered, requested, htable, hspan, expand])
          hblocked
      | some span =>
        have hstatement : (sanitize c s schema).statement =
            replaceProjection c s (blockedColumns c s schema) (keptColumns c s schema) := by
          rw [sanitize_of_table htable, if_neg (by simpa using hblocked)]
        rw [replaceProjection, hspan] at hstatement
        obtain ⟨first, more, hremoved⟩ := List.exists_cons_of_ne_nil hblocked
        rw [hremoved] at hstatement
        by_cases hkept : keptColumns c s schema = []
        · rw [hkept] at hstatement
          exact .replaced htable hspan hblocked (.substitute hremoved hkept) hstatement
        · obtain ⟨column, more', hcolumns⟩ := List.exists_cons_of_ne_nil hkept
          refine .replaced htable hspan hblocked (.kept hkept) ?_
          rw [hstatement, hcolumns]

end QueryGate.Sanitizer
