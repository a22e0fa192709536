import QueryGate.Proofs.Sanitizer.Reread
import Mathlib.Data.List.Flatten

/-! # Statements that are changed

A statement stays the same under a new projection only if that is its projection already, but for
blanks (`trim_eq_of_unchanged`).  A substitute reads no column that would bring it about, and a
projection of kept columns reads none that is removed.  What would be removed could only stand
behind a whole row, and there the asterisks are counted: a whole row of the old projection leaves
one asterisk less in the new one (`count_wildcard_lt`).  So exactly the statements from which a
column is removed are changed (`blocked_eq_nil_iff_unchanged`). -/

namespace QueryGate.Sanitizer

open Text Projection Statement

variable {s schema : Text} {span : Span}

/-- A statement that is not changed by a new projection has that projection already. -/
theorem trim_eq_of_unchanged {new : Text} (hstands : span.StandsAfter none s)
    (h : span.withProjection new = s) : trim new = trim span.projection := by
  obtain ⟨select, gap, gap', close, hs, -, hselect, hgap, hgap', hclose, -⟩ := hstands
  have hbefore : span.withProjection new =
      span.before ++ Span.withProjection ⟨[], span.projection, span.after⟩ new := by
    simp only [Span.withProjection, List.append_assoc, List.nil_append]
  exact trim_eq_of_withProjection hselect hgap hgap'.2 hclose
    (List.append_cancel_left (hbefore.symm.trans (h.trans hs)))

/-! ## Counting asterisks -/

/-- The asterisks in the columns of a list. -/
def asterisks (l : List Requested) : Nat := (l.flatMap (·.column)).count '*'

@[simp] theorem asterisks_cons (r : Requested) (l : List Requested) :
    asterisks (r :: l) = r.column.count '*' + asterisks l := by
  rw [asterisks, List.flatMap_cons, List.count_append, asterisks]

@[simp] theorem asterisks_append (l l' : List Requested) :
    asterisks (l ++ l') = asterisks l + asterisks l' := by
  rw [asterisks, List.flatMap_append, List.count_append, asterisks, asterisks]

/-- Put one behind the other, the columns of a projection are left of it. -/
theorem flatMap_column_sublist (p : Text) :
    List.Sublist ((requestedOf p).flatMap (·.column)) p := by
  have hitems : ∀ items : List Text, List.Sublist ((items.filterMap fun item =>
      (reference item).map fun column => (⟨column, item⟩ : Requested)).flatMap (·.column))
      items.flatten := by
    intro items
    induction items with
    | nil => exact .slnil
    | cons item items ih =>
      rw [List.filterMap_cons, List.flatten_cons]
      cases hcolumn : reference item with
      | none => exact ih.trans (List.sublist_append_right item _)
      | some column =>
        have hread : List.Sublist column item :=
          (isInfix_of_reference hcolumn).sublist.trans List.filter_sublist
        exact hread.append ih
  exact (hitems (split p)).trans (flatten_split_sublist p)

/-- Reading a projection does not multiply its asterisks. -/
theorem asterisks_requestedOf_le (p : Text) : asterisks (requestedOf p) ≤ p.count '*' :=
  (flatMap_column_sublist p).count_le '*'

theorem asterisks_filter_le (q : Requested → Bool) (l : List Requested) :
    asterisks (l.filter q) ≤ asterisks l :=
  (List.filter_sublist.flatMap _).count_le '*'

theorem asterisks_of_words {words : List Text} (hwords : ∀ w ∈ words, AllWord w) :
    asterisks (words.map fun w => ⟨w, w⟩) = 0 := by
  induction words with
  | nil => rfl
  | cons w words ih =>
    obtain ⟨hw, hwords⟩ := List.forall_mem_cons.mp hwords
    rw [List.map_cons, asterisks_cons, ih hwords]
    exact List.count_eq_zero_of_not_mem (not_mem_of_allWord hw (by decide))

/-- Where the schema's columns, which are words, take the place of a whole row, an asterisk goes. -/
theorem asterisks_expand_lt {schemaColumns : List Text} (hwords : ∀ w ∈ schemaColumns, AllWord w)
    {l : List Requested} {r : Requested} (hr : r ∈ l) (hwild : r.column = wildcard) :
    asterisks (expand schemaColumns l) < asterisks l := by
  have hdeclared := asterisks_of_words hwords
  have hone : wildcard.count '*' = 1 := by decide
  have hle : ∀ l : List Requested, asterisks (expand schemaColumns l) ≤ asterisks l := by
    intro l
    induction l with
    | nil => exact Nat.le_refl _
    | cons r l ih =>
      rw [expand, List.flatMap_cons, ← expand, asterisks_append, asterisks_cons]
      split
      · omega
      · simp only [asterisks_cons]
        show r.column.count '*' + 0 + _ ≤ _
        omega
  induction l with
  | nil => cases hr
  | cons first l ih =>
    rw [expand, List.flatMap_cons, ← expand, asterisks_append, asterisks_cons]
    rcases List.mem_cons.mp hr with rfl | hr
    · have hrest := hle l
      rw [if_pos hwild, hdeclared, hwild, hone]
      omega
    · have hrest := ih hr
      split
      · omega
      · simp only [asterisks_cons]
        show first.column.count '*' + 0 + _ < _
        omega

/-- No asterisk stands in a new projection but those of the kept columns. -/
theorem count_keptProjection (old : Text) (kept : List Text) :
    (keptProjection old kept).count '*' = kept.flatten.count '*' := by
  have hquantifiers : (quantifierPrefix old).count '*' = 0 :=
    List.count_eq_zero_of_not_mem
      (not_mem_quantifierPrefix (by decide) (by decide) old)
  have hquoted : (kept.map backQuoted).flatten.count '*' = kept.flatten.count '*' := by
    induction kept with
    | nil => rfl
    | cons column kept ih => simp [backQuoted, List.count_append, ih]
  rw [keptProjection, List.count_append, hquantifiers, Nat.zero_add, count_join (by decide), hquoted]

/-- A whole row of the old projection leaves one asterisk less in the new one. -/
theorem count_wildcard_lt {c : Catalog} (hspan : span? s = some span) {r : Requested}
    (hr : r ∈ requestedOf span.projection) (hwild : r.column = wildcard) {table : Text}
    (htable : table? s = some table) :
    (keptProjection span.projection (keptColumns c s schema)).count '*' <
      span.projection.count '*' := by
  have hconsidered : considered s schema =
      expand (Schema.columnsOf schema table) (requestedOf span.projection) := by
    rw [considered, htable, requested_of_span hspan]
  calc (keptProjection span.projection (keptColumns c s schema)).count '*'
      = asterisks ((considered s schema).filter (!isBlocked c ·)) := by
        rw [count_keptProjection, keptColumns, ← List.flatMap_def]
        rfl
    _ ≤ asterisks (considered s schema) := asterisks_filter_le _ _
    _ < asterisks (requestedOf span.projection) := by
        rw [hconsidered]
        exact asterisks_expand_lt (fun w hw => Schema.allWord_of_mem_columnsOf hw) hr hwild
    _ ≤ span.projection.count '*' := asterisks_requestedOf_le _

/-! ## What would be removed -/

/-- Without a whole row what is considered is what is asked for. -/
theorem considered_eq_requested {table : Text} (htable : table? s = some table)
    (hspan : span? s = some span)
    (hwild : ∀ r ∈ requestedOf span.projection, r.column ≠ wildcard) :
    considered s schema = requestedOf span.projection := by
  rw [considered, htable, requested_of_span hspan]
  exact expand_eq_self _ hwild

/-- A substitute that asks for what the statement asks for would take the place of nothing. -/
theorem blockedColumns_ne_of_substitute {table first : Text} {more : List Text}
    (htable : table? s = some table) (hspan : span? s = some span)
    (hrequested : requestedOf span.projection =
      requestedOf (substitute Catalog.standard first)) :
    blockedColumns Catalog.standard s schema ≠ first :: more := by
  intro hremoved
  have hfirst : first ∈ blockedColumns Catalog.standard s schema := by
    rw [hremoved]
    exact List.mem_cons_self
  obtain ⟨r, hr, rfl⟩ := List.mem_map.mp hfirst
  have hconsidered := (List.mem_filter.mp hr).1
  rw [requestedOf_substitute] at hrequested
  split at hrequested
  · -- the column of the substitute for card numbers has another substitute
    rename_i hcard
    have hwild : ∀ r ∈ [cardTypes], r.column ≠ wildcard := by decide
    rw [considered_eq_requested htable hspan (hrequested ▸ hwild), hrequested] at hconsidered
    obtain rfl := List.mem_singleton.mp hconsidered
    exact absurd hcard (by decide)
  · rw [considered_eq_requested htable hspan (by simp [hrequested]), hrequested] at hconsidered
    cases hconsidered

/-- Kept columns with as many asterisks as the statement has are all that it asks for. -/
theorem blockedColumns_eq_nil_of_kept {table : Text} (htable : table? s = some table)
    (hspan : span? s = some span)
    (htrim : trim (keptProjection span.projection (keptColumns Catalog.standard s schema)) =
      trim span.projection)
    (hrequested : requestedOf span.projection =
      requestedOf (keptProjection span.projection (keptColumns Catalog.standard s schema))) :
    blockedColumns Catalog.standard s schema = [] := by
  have hasterisk : isBlank '*' = false := by decide
  have hcount : span.projection.count '*' =
      (keptProjection span.projection (keptColumns Catalog.standard s schema)).count '*' := by
    rw [← count_trim hasterisk, ← htrim, count_trim hasterisk]
  have hwild : ∀ r ∈ requestedOf span.projection, r.column ≠ wildcard := by
    intro r hr hwild
    have hlt : (keptProjection span.projection (keptColumns Catalog.standard s schema)).count '*' <
        span.projection.count '*' := count_wildcard_lt hspan hr hwild htable
    omega
  have hfree := not_isBlocked_of_isInfix (s := s) (List.infix_refl
    (keptProjection span.projection (keptColumns Catalog.standard s schema)))
  rw [blockedColumns, considered_eq_requested htable hspan hwild, hrequested,
    List.map_eq_nil_iff, List.filter_eq_nil_iff]
  intro r hr
  simpa using hfree r hr

/-- A new projection that is the old one but for blanks takes the place of nothing. -/
theorem blockedColumns_eq_nil_of_trim_eq {table new : Text} (htable : table? s = some table)
    (hspan : span? s = some span)
    (hnew : Replacement Catalog.standard s schema span.projection new)
    (htrim : trim new = trim span.projection) :
    blockedColumns Catalog.standard s schema = [] := by
  have hrequested : requestedOf span.projection = requestedOf new := by
    rw [requestedOf, ← split_trim, ← htrim, split_trim, requestedOf]
  cases hnew with
  | substitute hremoved _ =>
    exact absurd hremoved (blockedColumns_ne_of_substitute htable hspan hrequested)
  | kept _ => exact blockedColumns_eq_nil_of_kept htable hspan htrim hrequested

/-- **Exactly the statements from which a column is removed are changed.** -/
theorem blocked_eq_nil_iff_unchanged (s schema : Text) :
    (sanitize Catalog.standard s schema).blocked = [] ↔
      (sanitize Catalog.standard s schema).statement = s := by
  rw [blocked_eq_nil_iff]
  constructor
  · exact statement_of_blocked_eq_nil
  · intro h
    cases outcome Catalog.standard s schema with
    | unchanged hblocked _ => exact hblocked
    | replaced htable hspan _ hnew hstatement =>
      have htrim := trim_eq_of_unchanged (span?_first hspan).stands (hstatement.symm.trans h)
      exact blockedColumns_eq_nil_of_trim_eq htable hspan hnew htrim

end QueryGate.Sanitizer
