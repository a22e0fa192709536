import QueryGate.Proofs.Pattern.Occurrence
import QueryGate.Proofs.Sanitizer.Kept

/-! # New projections read again

A new projection of the standard catalog may be read as a projection in its turn.  Of the
substitutes only the one for card numbers reads a column (`requestedOf_substitute`).  In a projection
of kept columns nothing sensitive stands, with its quotes or without them, so no item of it and no
column that it reads is sensitive (`not_isBlocked_of_isInfix`). -/

namespace QueryGate.Sanitizer

open Text Projection Statement

/-! ## Substitutes -/

/-- What the substitute for card numbers asks for. -/
def cardTypes : Requested :=
  ⟨"credit_card, 4".toList, "COUNT(DISTINCT LEFT(credit_card, 4)) as card_types_count".toList⟩

/-- Only the substitute for card numbers reads a column. -/
theorem requestedOf_substitute (first : Text) :
    requestedOf (substitute Catalog.standard first) =
      if toLower first = "credit_card".toList then [cardTypes] else [] := by
  have hlisted : ∀ e ∈ Catalog.standard.safeAlternatives.entries,
      requestedOf e.2 = if e.1 = "credit_card".toList then [cardTypes] else [] := by
    decide +kernel
  rcases substitute_cases Catalog.standard first with h | h
  · exact hlisted _ h
  · -- card numbers have a substitute of their own
    rw [if_neg]
    · rw [h]
      decide +kernel
    · intro hcard
      rw [substitute, Catalog.safeAlternative?, hcard] at h
      exact absurd h (by decide)

theorem noFromBehindBlank_of_not_occurs {p : Text}
    (h : (Pattern.keyword "FROM".toList).occurs p = false) : NoFromBehindBlank p := by
  rintro a w b rfl hword
  exact absurd ⟨a, b, List.append_assoc a w b⟩ (Pattern.not_infix_of_not_occurs h hword.form)

/-- Substitutes are read as a whole. -/
theorem substitute_whole (first : Text) :
    NoFromBehindBlank (substitute Catalog.standard first) ∧
      (substitute Catalog.standard first).head?.any (!isBlank ·) = true ∧
      (substitute Catalog.standard first).getLast?.any isBlank = false := by
  have hlisted : ∀ e ∈ Catalog.standard.safeAlternatives.entries,
      (Pattern.keyword "FROM".toList).occurs e.2 = false ∧
        e.2.head?.any (!isBlank ·) = true ∧ e.2.getLast?.any isBlank = false := by
    decide +kernel
  rcases substitute_cases Catalog.standard first with h | h
  · obtain ⟨hfrom, hends⟩ := hlisted _ h
    exact ⟨noFromBehindBlank_of_not_occurs hfrom, hends⟩
  · rw [h]
    exact ⟨noFromBehindBlank_of_not_occurs (by decide), by decide⟩

/-! ## Kept columns -/

/-- A column is sensitive for the standard catalog if a pattern stands in the image of its
characters. -/
theorem isSensitive_standard_iff {column : Text} :
    Catalog.standard.isSensitive column = true ↔
      ∃ p ∈ Catalog.standard.patterns, p <:+: lowered column := by
  rw [Catalog.isSensitive, Catalog.matchingPattern?, List.find?_isSome]
  constructor
  · rintro ⟨p, hp, h⟩
    have hascii : AllAscii p := fun x hx => ((Catalog.standard_isIdentifier p hp).2 x hx).1
    have hpart := contains_iff_infix.mp h
    rw [infix_toLower_iff hascii] at hpart
    exact ⟨p, hp, hpart⟩
  · rintro ⟨p, hp, h⟩
    have hascii : AllAscii p := fun x hx => ((Catalog.standard_isIdentifier p hp).2 x hx).1
    rw [← infix_toLower_iff hascii, ← contains_iff_infix] at h
    exact ⟨p, hp, h⟩

/-- A part of a text that is not sensitive is not sensitive. -/
theorem not_isSensitive_of_isInfix {s t : Text} (h : s <:+: t)
    (ht : Catalog.standard.isSensitive t = false) : Catalog.standard.isSensitive s = false := by
  rw [Bool.eq_false_iff, ne_eq, isSensitive_standard_iff] at ht ⊢
  rintro ⟨p, hp, hinfix⟩
  obtain ⟨a, b, rfl⟩ := h
  refine ht ⟨p, hp, ?_⟩
  rw [lowered_append, lowered_append]
  exact hinfix.trans (List.infix_append _ _ _)

theorem unquote_join (sep : Text) (ts : List Text) :
    unquote (join sep ts) = join (unquote sep) (ts.map unquote) := by
  induction ts with
  | nil => rfl
  | cons t ts ih =>
    cases ts with
    | nil => rfl
    | cons u ts =>
      rw [join_cons_cons, unquote, List.filter_append, List.filter_append, ← unquote, ← unquote,
        ← unquote, ih]
      exact (join_cons_cons _ _ _ _).symm

section Kept

variable (old : Text) {kept : List Text}
  (hunquoted : ∀ column ∈ kept, ∀ x ∈ column, isQuoteMark x = false)
  (hfree : ∀ column ∈ kept, Catalog.standard.isSensitive column = false)

include hunquoted in
/-- Without its quotes a projection of kept columns is a list of them. -/
theorem unquote_keptProjection :
    unquote (keptProjection old kept) = quantifierPrefix old ++ join ", ".toList kept := by
  have hprefix : unquote (quantifierPrefix old) = quantifierPrefix old := by
    refine List.filter_eq_self.mpr fun x hx => ?_
    have hmark : ∀ x : Char, isQuoteMark x = true → isGap x = false ∧ isWord x = false := by
      intro x hx
      have hcases : x = '`' ∨ x = '"' ∨ x = '\'' ∨ x = '[' ∨ x = ']' := by
        simpa [isQuoteMark, or_assoc] using hx
      rcases hcases with rfl | rfl | rfl | rfl | rfl <;> decide +kernel
    cases hquote : isQuoteMark x with
    | false => rfl
    | true => exact absurd hx (not_mem_quantifierPrefix (hmark x hquote).1 (hmark x hquote).2 old)
  have hcolumn : ∀ column ∈ kept, unquote (backQuoted column) = column := by
    intro column hcolumn
    have hself : unquote column = column :=
      List.filter_eq_self.mpr fun x hx => by rw [hunquoted column hcolumn x hx]; rfl
    have hquote : unquote ['`'] = [] := by decide
    have happend : unquote (['`'] ++ column ++ ['`']) =
        unquote ['`'] ++ unquote column ++ unquote ['`'] := by
      simp only [unquote, List.filter_append]
    rw [backQuoted, ← List.singleton_append, happend, hquote, hself, List.nil_append,
      List.append_nil]
  have hcolumns : (kept.map backQuoted).map unquote = kept := by
    rw [List.map_map]
    exact (List.map_congr_left (g := id) hcolumn).trans (List.map_id kept)
  have hsep : unquote ", ".toList = ", ".toList := by decide
  rw [keptProjection, unquote, List.filter_append, ← unquote, ← unquote, hprefix, unquote_join,
    hsep, hcolumns]

include hfree in
/-- Nothing sensitive stands in the quantifiers and in a list of columns behind them, if it stands
in none of the columns. -/
theorem not_isSensitive_append {list : Text}
    (hlist : ∀ p ∈ Catalog.standard.patterns, p <:+: lowered list →
      ∃ column ∈ kept, p <:+: lowered column) :
    Catalog.standard.isSensitive (quantifierPrefix old ++ list) = false := by
  rw [Bool.eq_false_iff, ne_eq, isSensitive_standard_iff]
  rintro ⟨p, hp, hinfix⟩
  have hspace : ' ' ∉ p :=
    not_mem_of_isIdentifier (Catalog.standard_isIdentifier p hp) (by decide)
  have hquantifiers := standard_pattern_not_in_quantifiers hp old
  have hcolumns : ¬ p <:+: lowered list := by
    intro h
    obtain ⟨column, hcolumn, h⟩ := hlist p hp h
    have hsensitive := isSensitive_standard_iff.mpr ⟨p, hp, h⟩
    rw [hfree column hcolumn] at hsensitive
    cases hsensitive
  -- a space ends the quantifiers, and no pattern has one
  rcases quantifierPrefix_eq_nil_or old with hnil | ⟨q, hq⟩
  · rw [hnil] at hinfix
    exact hcolumns hinfix
  · have himage : lowered [' '] = [' '] := by decide
    rw [hq, lowered_append, lowered_append, himage, List.append_assoc] at hinfix
    rcases infix_of_infix_append_cons hspace hinfix with h | h
    · refine hquantifiers ?_
      rw [hq, lowered_append]
      exact List.infix_append_of_infix_left h
    · exact hcolumns h

end Kept

/-- No item that is read in a part of a projection of kept columns is to be removed. -/
theorem not_isBlocked_of_isInfix {s schema old p : Text}
    (hp : p <:+: keptProjection old (keptColumns Catalog.standard s schema)) :
    ∀ r ∈ requestedOf p, isBlocked Catalog.standard r = false := by
  intro r hr
  obtain ⟨hitem, hcolumn⟩ := mem_requestedOf_iff.mp hr
  have hfree : ∀ column ∈ keptColumns Catalog.standard s schema,
      Catalog.standard.isSensitive column = false := fun _ => not_isSensitive_of_mem_keptColumns
  have hinside := (isInfix_of_mem_split hitem).trans hp
  have hread := (isInfix_of_reference hcolumn).trans (hinside.filter _)
  rw [← unquote, unquote_keptProjection old fun _ => not_isQuoteMark_of_mem_keptColumns] at hread
  have hquoted := not_isSensitive_append old hfree fun p hp =>
    exists_column_of_infix_join (Catalog.standard_isIdentifier p hp)
  have hbare := not_isSensitive_append old hfree fun p hp =>
    exists_of_infix_join (Catalog.standard_isIdentifier p hp)
  rw [isBlocked, Bool.or_eq_false_iff]
  exact ⟨not_isSensitive_of_isInfix hread hbare, not_isSensitive_of_isInfix hinside hquoted⟩

end QueryGate.Sanitizer
