import QueryGate.Proofs.Sanitizer.Again

/-! # Which items are removed

A projection of kept columns is split into these columns again, the quantifiers standing in front
of the first (`split_keptProjection`).  So of the items that read a column exactly the sensitive
ones are removed, as long as none stands for a whole row (`removed_items`).  The other items, such
as `1` and `COUNT(*)`, have no place in the new projection, and are all dropped
(`items_without_column_dropped`). -/

namespace QueryGate.Sanitizer

open Text Projection Statement

/-! ## The new projection split -/

/-- A column without back quotes is one item between them. -/
theorem backQuoted_item {column : Text} (h : '`' ∉ column) :
    backQuoted column ≠ [] ∧ Balanced (backQuoted column) ∧ Trimmed (backQuoted column) := by
  have hmark : isBlank '`' = false := by decide
  refine ⟨by simp [backQuoted], .quoted (by decide) h, ?_, ?_⟩
  · exact hmark
  · rw [backQuoted, List.getLast?_concat]
    exact hmark

section Split

variable {old : Text}

theorem solid_quantifierPrefix (n : Nesting) (old : Text) : Solid n (quantifierPrefix old) :=
  solid_of_not_comma (not_mem_quantifierPrefix (by decide +kernel) (by decide +kernel) old) n

/-- The first kept column with the quantifiers in front of it. -/
theorem quantified_item {column : Text} (h : '`' ∉ column)
    (hclosed : Nesting.outside.along (quantifierPrefix old) = .outside) :
    Solid .outside (quantifierPrefix old ++ backQuoted column) ∧
      Nesting.outside.along (quantifierPrefix old ++ backQuoted column) = .outside ∧
      quantifierPrefix old ++ backQuoted column ≠ [] ∧
      Trimmed (quantifierPrefix old ++ backQuoted column) := by
  obtain ⟨hne, hbalanced, htrimmed⟩ := backQuoted_item h
  refine ⟨?_, ?_, List.append_ne_nil_of_right_ne_nil _ hne, ?_, ?_⟩
  · rw [solid_append, hclosed]
    exact ⟨solid_quantifierPrefix _ old, hbalanced.solid⟩
  · rw [Nesting.along_append, hclosed, hbalanced.along]
  · have hhead := head?_quantifierPrefix old
    cases hlead : quantifierPrefix old with
    | nil => exact htrimmed.first
    | cons x q =>
      rw [hlead] at hhead
      exact hhead
  · rw [List.getLast?_append_of_ne_nil _ hne]
    exact htrimmed.last

/-- **A projection of kept columns has these columns for its items**, unless its quantifiers leave a
parenthesis open. -/
theorem split_keptProjection {kept : List Text} (hne : kept ≠ [])
    (hunquoted : ∀ column ∈ kept, '`' ∉ column)
    (hclosed : Nesting.outside.along (quantifierPrefix old) = .outside) :
    split (keptProjection old kept) =
      (kept.map backQuoted).modifyHead (quantifierPrefix old ++ ·) := by
  obtain ⟨column, kept, rfl⟩ := List.exists_cons_of_ne_nil hne
  obtain ⟨hcolumn, hkept⟩ := List.forall_mem_cons.mp hunquoted
  obtain ⟨hsolid, halong, hnonempty, htrimmed⟩ := quantified_item hcolumn hclosed
  have htrim := htrimmed.trim_eq
  rw [keptProjection, List.map_cons, List.modifyHead_cons]
  by_cases hmore : kept = []
  · subst hmore
    rw [List.map_nil, join, split, pieces_solid hsolid, List.map_singleton, htrim]
    simp [hnonempty]
  · have hitems : ∀ item ∈ kept.map backQuoted, item ≠ [] ∧ Balanced item ∧ Trimmed item := by
      intro item hitem
      obtain ⟨column, hcolumn, rfl⟩ := List.mem_map.mp hitem
      exact backQuoted_item (hkept column hcolumn)
    have hrest := split_of_listed (listed_join (by simpa using hmore)) hitems
    obtain ⟨next, more, hnext⟩ := List.exists_cons_of_ne_nil (List.map_eq_nil_iff.not.mpr hmore)
    have hjoin :
        quantifierPrefix old ++ join ", ".toList (backQuoted column :: kept.map backQuoted) =
        (quantifierPrefix old ++ backQuoted column) ++
          ',' :: ([' '] ++ join ", ".toList (kept.map backQuoted)) := by
      rw [hnext, join_cons_cons]
      simp
    have hblank : AllBlank [' '] := by decide
    rw [hjoin, split_solid_comma hsolid halong (by rwa [htrim]), htrim, split_blank_append hblank,
      hrest]

end Split

/-! ## Items without a column -/

/-- The items of a projection that read no column. -/
def unread (p : Text) : List Text := (split p).filter fun item => (reference item).isNone

theorem length_requestedOf_add (p : Text) :
    (requestedOf p).length + (unread p).length = (split p).length := by
  rw [requestedOf, unread]
  induction split p with
  | nil => rfl
  | cons item items ih =>
    cases hreference : reference item <;> simp [hreference] <;> omega

/-! ## What is removed -/

variable {c : Catalog} {s schema : Text}

/-- Without a whole row, what is considered is what the statement asks for. -/
theorem considered_of_no_wildcard (hwild : wildcard ∉ columns s)
    (hblocked : (sanitize c s schema).blocked ≠ []) : considered s schema = requested s := by
  have hcolumns : ∀ r ∈ requested s, r.column ≠ wildcard := by
    rintro r hr hcolumn
    exact hwild (hcolumn ▸ List.mem_map_of_mem hr)
  cases htable : table? s with
  | none => exact absurd (by simp [sanitize, htable]) hblocked
  | some table =>
    rw [considered, htable]
    exact expand_eq_self _ hcolumns

/-- Every column that is considered is removed or kept. -/
theorem length_blocked_add (c : Catalog) (s schema : Text) :
    (sanitize c s schema).blocked.length + (keptColumns c s schema).length =
      (considered s schema).length := by
  rw [blocked_eq, List.length_map, blockedColumns, keptColumns, List.length_map, List.length_map,
    ← List.length_eq_length_filter_add]

/-- A projection of kept columns that shows no `FROM` behind a blank is found again. -/
theorem span?_of_kept {span : Span} (hspan : span? s = some span) {kept : List Text}
    (hne : kept ≠ []) (hfrom : NoFromBehindBlank (keptProjection span.projection kept)) :
    ∃ again, span? (span.withProjection (keptProjection span.projection kept)) = some again ∧
      again.projection = keptProjection span.projection kept := by
  have hlast : (keptProjection span.projection kept).getLast? = some '`' := by
    rw [keptProjection, List.getLast?_append, getLast?_join_backQuoted hne, Option.some_or]
  have hmark : isBlank '`' = false := by decide
  obtain ⟨again, hagain, -, -, hwhole⟩ :=
    span?_withProjection hspan (head?_keptProjection span.projection hne)
  exact ⟨again, hagain, hwhole hfrom (by rw [hlast]; exact hmark)⟩

/-- **Of the items that read a column, exactly the sensitive ones are removed.**  If no item stands
for a whole row, and some columns are removed and some are kept, the items of the new projection
are the columns of the items that are not sensitive, in order, the first with the old quantifiers in
front; only behind quantifiers that leave a parenthesis open would the columns be one item.  The
other old items are removed or read no column.  The new projection is also what is read of the
statement again, unless a kept column brings a `FROM` behind a blank into it. -/
theorem removed_items (hwild : wildcard ∉ columns s) (hblocked : (sanitize c s schema).blocked ≠ [])
    (hkept : ∃ r ∈ requested s, isBlocked c r = false) :
    ∃ span new, span? s = some span ∧ (sanitize c s schema).statement = span.withProjection new ∧
      (NoFromBehindBlank new → ∃ again,
        span? (sanitize c s schema).statement = some again ∧ again.projection = new) ∧
      (Nesting.outside.along (quantifierPrefix span.projection) = .outside →
        split new = (((requested s).filter (!isBlocked c ·)).map
          fun r => backQuoted r.column).modifyHead (quantifierPrefix span.projection ++ ·) ∧
        (split new).length + (sanitize c s schema).blocked.length +
          (unread span.projection).length = (split span.projection).length) := by
  have hconsidered := considered_of_no_wildcard hwild hblocked
  have hkeptColumns : keptColumns c s schema =
      ((requested s).filter (!isBlocked c ·)).map (·.column) := by
    rw [keptColumns, hconsidered]
  have hcolumns : keptColumns c s schema ≠ [] := by
    obtain ⟨r, hr, hfree⟩ := hkept
    rw [hkeptColumns]
    exact List.ne_nil_of_mem (List.mem_map_of_mem (List.mem_filter.mpr ⟨hr, by rw [hfree]; rfl⟩))
  obtain ⟨span, hspan, hstatement⟩ := statement_of_kept hblocked hcolumns
  refine ⟨span, _, hspan, hstatement, ?_, ?_⟩
  · intro hfrom
    rw [hstatement]
    exact span?_of_kept hspan hcolumns hfrom
  · intro hclosed
    have hunquoted : ∀ column ∈ keptColumns c s schema, '`' ∉ column := by
      intro column hcolumn hmem
      have hquote := not_isQuoteMark_of_mem_keptColumns hcolumn '`' hmem
      exact absurd hquote (by decide)
    have hsplit := split_keptProjection hcolumns hunquoted hclosed
    constructor
    · rw [hsplit, hkeptColumns, List.map_map]
      rfl
    · -- what is asked for is removed or kept, and what is not asked for reads no column
      have hparts := length_blocked_add c s schema
      have hread := length_requestedOf_add span.projection
      rw [← requested_of_span hspan, ← hconsidered] at hread
      rw [hsplit, List.length_modifyHead, List.length_map]
      omega

namespace Sample

/-- A statement with quantifiers, a count of rows and columns, one of them sensitive. -/
def counted : Text :=
  "SELECT TOP (5) COUNT(*), id, u.cvv, LOWER(name) AS n FROM u".toList

/-- A statement that asks for items without a column beside the columns. -/
def constants : Text := "SELECT 1, COUNT(*), id, cvv FROM cards".toList

/-- A statement whose quantifiers leave a parenthesis open. -/
def unclosed : Text := "SELECT TOP (5 a), cvv, id FROM cards".toList

end Sample

theorem removed_items_counted :
    wildcard ∉ columns Sample.counted ∧
      (sanitize Catalog.standard Sample.counted []).blocked = [⟨"cvv".toList⟩] ∧
      (∃ r ∈ requested Sample.counted, isBlocked Catalog.standard r = false) ∧
      ∃ span new, span? Sample.counted = some span ∧
        (sanitize Catalog.standard Sample.counted []).statement = span.withProjection new ∧
        split new = ["TOP (5) `id`".toList, "`name`".toList] ∧
        (split new).length + 1 + (unread span.projection).length =
          (split span.projection).length := by
  have hrequested : requested Sample.counted = [⟨"id".toList, "id".toList⟩,
      ⟨"cvv".toList, "u.cvv".toList⟩, ⟨"name".toList, "LOWER(name) AS n".toList⟩] := by
    decide +kernel
  have hwild : wildcard ∉ columns Sample.counted := by
    rw [columns, hrequested]
    decide
  have htable : table? Sample.counted = some ['u'] := by decide +kernel
  have hblocked : (sanitize Catalog.standard Sample.counted []).blocked = [⟨"cvv".toList⟩] := by
    rw [blocked_of_table htable, blockedColumns, considered, htable, hrequested]
    decide +kernel
  have hkept : ∃ r ∈ requested Sample.counted, isBlocked Catalog.standard r = false := by
    rw [hrequested]
    exact ⟨_, List.mem_cons_self, by decide +kernel⟩
  have hsome : (sanitize Catalog.standard Sample.counted []).blocked ≠ [] := by
    rw [hblocked]
    exact List.cons_ne_nil _ _
  obtain ⟨span, new, hspan, hstatement, -, hsplit⟩ := removed_items hwild hsome hkept
  have hprojection : (span? Sample.counted).map (·.projection) =
      some "TOP (5) COUNT(*), id, u.cvv, LOWER(name) AS n".toList := by
    decide +kernel
  rw [hspan, Option.map_some, Option.some.injEq] at hprojection
  obtain ⟨hitems, hcount⟩ := hsplit (by rw [hprojection]; decide +kernel)
  rw [hblocked] at hcount
  refine ⟨hwild, hblocked, hkept, span, new, hspan, hstatement, ?_, hcount⟩
  rw [hitems, hprojection, hrequested]
  decide +kernel

/-- Beside a sensitive column a constant and a count of rows are dropped too, and behind an open
parenthesis the kept columns are one item: in both statements one column is removed, but of four
items one is left, and of three items one. -/
theorem items_without_column_dropped :
    (wildcard ∉ columns Sample.constants ∧
      (sanitize Catalog.standard Sample.constants []).blocked.length = 1 ∧
      ((span? Sample.constants).map fun span => split span.projection) =
        some ["1".toList, "COUNT(*)".toList, "id".toList, "cvv".toList] ∧
      ((span? (cleaned Sample.constants [])).map fun span => split span.projection) =
        some ["`id`".toList]) ∧
    (wildcard ∉ columns Sample.unclosed ∧
      (sanitize Catalog.standard Sample.unclosed []).blocked.length = 1 ∧
      ((span? Sample.unclosed).map fun span => split span.projection) =
        some ["TOP (5 a)".toList, "cvv".toList, "id".toList] ∧
      ((span? (cleaned Sample.unclosed [])).map fun span => split span.projection) =
        some ["TOP (5 `a)`, `id`".toList]) := by
  decide +kernel

end QueryGate.Sanitizer
