import QueryGate.Proofs.Pattern.Patched
import QueryGate.Proofs.Sanitizer.Inert
import QueryGate.Proofs.Statement.Accepted
import QueryGate.Proofs.Statement.Replaced

/-! # Denied patterns in sanitized statements

A sanitized statement is not judged again.  An inert pattern that an accepted statement lacks can
stand in its sanitized form only within a kept column, between its back quotes, where a name may have
lost quotes that kept its parts from each other (`foundBefore_kept_iff`).  A `UNION` may find its
`SELECT` in a later column or behind the span (`denied_iff`). -/

namespace QueryGate

open Text Projection Statement Pattern Sanitizer

namespace Sanitizer

/-- What stands behind the back quote that closes a column, with the columns that come after it and
the text behind the projection. -/
def behindQuote (close : Text) : List Text → Text
  | [] => close
  | column :: more => ", ".toList ++ '`' :: (column ++ '`' :: behindQuote close more)

theorem join_backQuoted_append (column : Text) (more : List Text) (close : Text) :
    join ", ".toList ((column :: more).map backQuoted) ++ close =
      '`' :: (column ++ '`' :: behindQuote close more) := by
  induction more generalizing column with
  | nil => simp [join, backQuoted, behindQuote]
  | cons next more ih =>
    rw [List.map_cons, List.map_cons, join_cons_cons, ← List.map_cons, List.append_assoc,
      List.append_assoc, ih next, behindQuote, backQuoted]
    simp

variable {p : Pattern} {R : Text → Prop}

/-- What is found in the columns that come after, or behind them, is found in one of the columns or
behind them all. -/
theorem foundBefore_behindQuote (hquote : p.avoids '`' = true) (hcomma : p.occurs ", ".toList = false)
    (close : Text) (columns : List Text) :
    p.FoundBefore R (behindQuote close columns) ↔
      (∃ l column r, columns = l ++ column :: r ∧
        p.FoundBefore (fun y => R (y ++ '`' :: behindQuote close r)) column) ∨
      p.FoundBefore R close := by
  have hword : isWord '`' = false := by decide
  induction columns with
  | nil => simp [behindQuote]
  | cons column more ih =>
    rw [behindQuote, foundBefore_append_cons hword hquote,
      or_iff_right (not_foundBefore_of_not_occurs hcomma), foundBefore_append_cons hword hquote]
    constructor
    · rintro (h | h)
      · exact .inl ⟨[], column, more, rfl, h⟩
      · rcases ih.mp h with ⟨l, later, r, rfl, hfound⟩ | hfound
        · exact .inl ⟨column :: l, later, r, rfl, hfound⟩
        · exact .inr hfound
    · rintro (⟨l, found, r, heq, h⟩ | h)
      · cases l with
        | nil =>
          obtain ⟨rfl, rfl⟩ := List.cons.inj heq
          exact .inl h
        | cons first l =>
          obtain ⟨rfl, rfl⟩ := List.cons.inj heq
          exact .inr (ih.mpr (.inl ⟨l, found, r, rfl, h⟩))
      · exact .inr (ih.mpr (.inr h))

/-- A pattern occurs behind a column's back quote if it does in a later column or behind them all. -/
theorem occurs_behindQuote (hquote : p.avoids '`' = true) (hcomma : p.occurs ", ".toList = false)
    (close : Text) (columns : List Text) :
    p.occurs (behindQuote close columns) = true ↔
      (∃ column ∈ columns, p.occurs column = true) ∨ p.occurs close = true := by
  rw [occurs_iff, foundBefore_behindQuote hquote hcomma, ← occurs_iff]
  constructor
  · rintro (⟨front, column, more, rfl, h⟩ | h)
    · exact .inl ⟨column, by simp, occurs_iff.mpr h⟩
    · exact .inr h
  · rintro (⟨column, hcolumn, h⟩ | h)
    · obtain ⟨front, more, rfl⟩ := List.append_of_mem hcolumn
      exact .inl ⟨front, column, more, rfl, occurs_iff.mp h⟩
    · exact .inr h

/-! ## The sanitized statement -/

/-- What a new projection takes the place of stands between words and has a `SELECT` in it. -/
theorem exists_old {s : Text} {span : Span} (h : span.FirstIn s) :
    ∃ old, s = span.before ++ (old ++ span.after) ∧ span.before.getLast?.any isWord = false ∧
      old.head?.any isWord = true ∧ old.getLast?.any isWord = true ∧
      span.after.head?.any isWord = false ∧ ∃ select rest, IsForm "SELECT".toList select ∧
        old = select ++ rest := by
  obtain ⟨select, gap, gap', close, hs, hlast, hselect, -, -, hclose, hafter⟩ := h.stands
  refine ⟨select ++ (gap ++ (span.projection ++ (gap' ++ close))), ?_, by simpa using hlast, ?_, ?_,
    hafter, select, _, hselect, rfl⟩
  · rw [hs]
    simp only [List.append_assoc]
  · have hword := hselect.allWord_of_keyword (by decide)
    cases select with
    | nil => exact absurd rfl (hselect.ne_nil_of_keyword (by decide))
    | cons c select => exact hword c List.mem_cons_self
  · have hword := hclose.allWord_of_keyword (by decide)
    have hne := hclose.ne_nil_of_keyword (by decide)
    rw [← List.append_assoc, ← List.append_assoc, ← List.append_assoc,
      List.getLast?_append_of_ne_nil _ hne]
    obtain ⟨c, hc⟩ := Option.isSome_iff_exists.mp (List.getLast?_isSome.mpr hne)
    rw [hc]
    exact hword c (List.mem_of_getLast? hc)

section Statement

variable {s : Text} {span : Span} (hp : p.Inert) (hspan : span.FirstIn s)
  (hR : ∀ y select rest, IsForm "SELECT".toList select → R (y ++ (select ++ rest)))
  (hnone : ¬ p.FoundBefore R s)

include hp hspan hR hnone

/-- With a substitute in its projection, nothing is found in the statement. -/
theorem not_foundBefore_substitute (first : Text) :
    ¬ p.FoundBefore R (span.withProjection (substitute Catalog.standard first)) := by
  obtain ⟨old, rfl, hbefore, hhead, hlast, hafter, select, rest, hselect, rfl⟩ := exists_old hspan
  have hparts : span.withProjection (substitute Catalog.standard first) =
      span.before ++ (("SELECT ".toList ++ (substitute Catalog.standard first ++
        " FROM".toList)) ++ span.after) := by
    simp only [Span.withProjection, List.append_assoc]
  rw [hparts]
  refine not_foundBefore_patched hhead hlast (fun y => ?_) hnone hp.tidy hp.opening_ne
    hp.opening_uniform (fun w hw => hp.free_substitute first hw)
    (.inr ⟨rfl, hbefore, (by decide : isWord 'S' = true), ?_⟩)
    (.inr ⟨rfl, hafter, ?_, fun _ h => h⟩)
  · rw [List.append_assoc]
    exact hR y select _ hselect
  · intro k hk w rest h
    refine hp.border (substitute Catalog.standard first ++ (" FROM".toList ++ span.after)) k hk w
      rest ?_
    rw [← h]
    simp only [List.append_assoc]
  · rw [← List.append_assoc, List.getLast?_append]
    rfl

/-- Nothing is found in front of the kept columns. -/
theorem not_foundBefore_lead (R' : Text → Prop) (old : Text) :
    ¬ p.FoundBefore R' (span.before ++ ("SELECT ".toList ++ quantifierPrefix old)) := by
  obtain ⟨part, rfl, hbefore, hhead, hlast, -, select, rest, hselect, rfl⟩ := exists_old hspan
  have hnothing : ¬ p.FoundBefore R'
      (span.before ++ (("SELECT ".toList ++ quantifierPrefix old) ++ [])) := by
    refine not_foundBefore_patched hhead hlast (fun y => ?_) hnone hp.tidy hp.opening_ne
      hp.opening_uniform (fun w hw => hp.free_select old hw)
      (.inr ⟨rfl, hbefore, (by decide : isWord 'S' = true), ?_⟩) (.inl rfl)
    · rw [List.append_assoc]
      exact hR y select _ hselect
    · intro k hk w rest h
      rw [List.append_nil] at h
      exact hp.border (quantifierPrefix old) k hk w rest h
  rwa [List.append_nil] at hnothing

/-- Nothing is found behind them. -/
theorem not_foundBefore_close : ¬ p.FoundBefore R (" FROM".toList ++ span.after) := by
  obtain ⟨part, rfl, -, hhead, hlast, hafter, select, rest, hselect, rfl⟩ := exists_old hspan
  have hnothing : ¬ p.FoundBefore R ([] ++ (" FROM".toList ++ span.after)) := by
    refine not_foundBefore_patched hhead hlast (fun y => ?_) hnone hp.tidy hp.opening_ne
      hp.opening_uniform (fun w hw => hp.free_close hw) (.inl rfl)
      (.inr ⟨rfl, hafter, (by decide : isWord 'M' = true), fun _ h => h⟩)
    rw [List.append_assoc]
    exact hR y select _ hselect
  rwa [List.nil_append] at hnothing

/-- With kept columns in its projection, what is found in the statement begins in one of them. -/
theorem foundBefore_kept_iff {kept : List Text} (hkept : kept ≠ []) (old : Text) :
    p.FoundBefore R (span.withProjection (keptProjection old kept)) ↔
      ∃ l column r, kept = l ++ column :: r ∧ p.FoundBefore
        (fun y => R (y ++ '`' :: behindQuote (" FROM".toList ++ span.after) r)) column := by
  have hword : isWord '`' = false := by decide
  obtain ⟨column, more, rfl⟩ := List.exists_cons_of_ne_nil hkept
  have hparts : span.withProjection (keptProjection old (column :: more)) =
      (span.before ++ ("SELECT ".toList ++ quantifierPrefix old)) ++
        '`' :: (column ++ '`' :: behindQuote (" FROM".toList ++ span.after) more) := by
    rw [← join_backQuoted_append]
    simp only [Span.withProjection, keptProjection, List.append_assoc]
  -- behind the first back quote the text is that behind a comma
  have hlist := foundBefore_behindQuote (R := R) hp.quote hp.comma (" FROM".toList ++ span.after)
    (column :: more)
  rw [behindQuote, foundBefore_append_cons hword hp.quote,
    or_iff_right (not_foundBefore_of_not_occurs hp.comma),
    or_iff_left (not_foundBefore_close hp hspan hR hnone)] at hlist
  rw [hparts, foundBefore_append_cons hword hp.quote,
    or_iff_right (not_foundBefore_lead hp hspan hR hnone _ old), hlist]

end Statement

/-- The column is kept beside removed ones, in front of `more` and of the text `after` behind the
span. -/
def KeptBefore (s schema column : Text) (more : List Text) (after : Text) : Prop :=
  blockedColumns Catalog.standard s schema ≠ [] ∧
    (∃ span, span? s = some span ∧ span.after = after) ∧
    ∃ front, keptColumns Catalog.standard s schema = front ++ column :: more

/-- What a statement lacks is found in its sanitized form if it is found in a kept column. -/
theorem foundBefore_cleaned_iff {s schema : Text} (hp : p.Inert)
    (hR : ∀ y select rest, IsForm "SELECT".toList select → R (y ++ (select ++ rest)))
    (hnone : ¬ p.FoundBefore R s) :
    p.FoundBefore R (cleaned s schema) ↔ ∃ column more after,
      KeptBefore s schema column more after ∧ p.FoundBefore
        (fun y => R (y ++ '`' :: behindQuote (" FROM".toList ++ after) more)) column := by
  rw [cleaned]
  cases outcome Catalog.standard s schema with
  | unchanged hblocked hstatement =>
    rw [hstatement]
    constructor
    · intro h
      exact absurd h hnone
    · rintro ⟨column, more, after, ⟨hremoved, -⟩, -⟩
      exact absurd hblocked hremoved
  | replaced _ hspan hblocked hnew hstatement =>
    rw [hstatement]
    have hfirst := span?_first hspan
    cases hnew with
    | substitute _ hkept =>
      constructor
      · intro h
        exact absurd h (not_foundBefore_substitute hp hfirst hR hnone _)
      · rintro ⟨column, more, after, ⟨-, -, front, hcolumns⟩, -⟩
        rw [hkept] at hcolumns
        cases (List.append_eq_nil_iff.mp hcolumns.symm).2
    | kept hkept =>
      rw [foundBefore_kept_iff hp hfirst hR hnone hkept]
      constructor
      · rintro ⟨front, column, more, hcolumns, hfound⟩
        exact ⟨column, more, _, ⟨hblocked, ⟨_, hspan, rfl⟩, front, hcolumns⟩, hfound⟩
      · rintro ⟨column, more, after, ⟨-, ⟨other, hother, rfl⟩, front, hcolumns⟩, hfound⟩
        obtain rfl := Option.some.inj (hspan.symm.trans hother)
        exact ⟨front, column, more, hcolumns, hfound⟩

/-! ## A `SELECT` behind a column -/

open DenyRule

theorem occurs_select_close {after : Text} (hafter : after.head?.any isWord = false) :
    (word "SELECT").occurs (" FROM".toList ++ after) = (word "SELECT").occurs after := by
  cases after with
  | nil => decide
  | cons c after =>
    have hc : isWord c = false := hafter
    have havoids : (word "SELECT").avoids c = true := avoids_keyword (by decide) hc
    have hclose := occurs_append_cons hc havoids " FROM".toList after
    have hself := occurs_append_cons hc havoids [] after
    have hfrom : (word "SELECT").occurs " FROM".toList = (word "SELECT").occurs [] := by decide
    rw [hfrom] at hclose
    exact Bool.eq_iff_iff.mpr (hclose.trans hself.symm)

/-- Behind the place in a kept column a `SELECT` stands in the same column, in a later one, or
behind the span. -/
theorem occurs_select_behindQuote {after : Text} (hafter : after.head?.any isWord = false)
    (y : Text) (more : List Text) :
    (word "SELECT").occurs (y ++ '`' :: behindQuote (" FROM".toList ++ after) more) = true ↔
      ∃ t ∈ y :: (more ++ [after]), (word "SELECT").occurs t = true := by
  have hquote : (word "SELECT").avoids '`' = true := by decide
  rw [occurs_append_cons (by decide) hquote, occurs_behindQuote hquote (by decide),
    occurs_select_close hafter]
  simp

/-- How a pattern of the denylist comes into a sanitized statement. -/
inductive Introduced (s schema : Text) : Pattern → Prop
  /-- It occurs in the text of a kept column. -/
  | column {p : Pattern} {column after : Text} {more : List Text} (hp : p ≠ unionSelect)
      (hkept : KeptBefore s schema column more after) (hoccurs : p.occurs column = true) :
      Introduced s schema p
  /-- A kept column has the `UNION`, and a `SELECT` stands behind it in this column, in a later one,
  or behind the span. -/
  | union {column after : Text} {more : List Text} (hkept : KeptBefore s schema column more after)
      (hfound : unionGap.FoundBefore
        (fun y => ∃ t ∈ y :: (more ++ [after]), (word "SELECT").occurs t = true) column) :
      Introduced s schema unionSelect

theorem introduced_iff_of_ne {s schema : Text} (hp : p ≠ unionSelect) :
    Introduced s schema p ↔
      ∃ column more after, KeptBefore s schema column more after ∧ p.occurs column = true := by
  constructor
  · rintro (⟨-, hkept, hoccurs⟩ | ⟨hkept, hfound⟩)
    · exact ⟨_, _, _, hkept, hoccurs⟩
    · exact absurd rfl hp
  · rintro ⟨column, more, after, hkept, hoccurs⟩
    exact .column hp hkept hoccurs

theorem introduced_unionSelect_iff {s schema : Text} :
    Introduced s schema unionSelect ↔ ∃ column more after, KeptBefore s schema column more after ∧
      unionGap.FoundBefore
        (fun y => ∃ t ∈ y :: (more ++ [after]), (word "SELECT").occurs t = true) column := by
  constructor
  · rintro (⟨hp, -, -⟩ | ⟨hkept, hfound⟩)
    · exact absurd rfl hp
    · exact ⟨_, _, _, hkept, hfound⟩
  · rintro ⟨column, more, after, hkept, hfound⟩
    exact .union hkept hfound

theorem KeptBefore.head?_after {s schema column after : Text} {more : List Text}
    (h : KeptBefore s schema column more after) : after.head?.any isWord = false := by
  obtain ⟨-, ⟨span, hspan, rfl⟩, -⟩ := h
  obtain ⟨-, -, -, -, -, hafter, -⟩ := exists_old (span?_first hspan)
  exact hafter

namespace Sample

/-- A statement with two empty strings that keep a comment mark apart. -/
def brokenComment : Text := "SELECT a-''-b, password FROM users".toList

/-- A statement whose first item has a quoted blank behind a `union`, with a subquery. -/
def quotedBlank : Text :=
  "SELECT a union' 'b, password FROM users WHERE id IN (SELECT 1)".toList

end Sample

/-- **How denied patterns come into sanitized statements.**  Let the standard rules accept a
statement.  A pattern of the denylist then occurs in its sanitized form exactly if columns are removed
and the pattern occurs in the text of a kept column, which stands between back quotes; for `UNION`
with `SELECT`, exactly if a kept column has the `UNION` and a `SELECT` stands behind it there, in a
later column, or behind the span.  Nothing else that sanitizing puts in makes a pattern occur. -/
theorem denied_iff {s schema : Text} (hsafe : StatementRules.standard.judge s = .safe)
    {rule : DenyRule} (hrule : rule ∈ DenyRule.defaults) :
    rule.pattern.occurs (cleaned s schema) = true ↔ Introduced s schema rule.pattern := by
  obtain ⟨hdenied, -⟩ := StatementRules.judge_eq_safe_iff.mp hsafe
  have hnone : rule.pattern.occurs s = false := hdenied rule hrule
  obtain ⟨hunion, hinert⟩ := inert_defaults
  by_cases hp : rule.pattern = unionSelect
  · rw [hp] at hnone ⊢
    rw [introduced_unionSelect_iff, occurs_unionSelect_iff, foundBefore_cleaned_iff hunion]
    · constructor
      · rintro ⟨column, more, after, hkept, hfound⟩
        exact ⟨column, more, after, hkept, hfound.imp fun y hy =>
          (occurs_select_behindQuote hkept.head?_after y more).mp hy⟩
      · rintro ⟨column, more, after, hkept, hfound⟩
        exact ⟨column, more, after, hkept, hfound.imp fun y hy =>
          (occurs_select_behindQuote hkept.head?_after y more).mpr hy⟩
    · intro y select rest hselect
      exact occurs_keyword_iff.mpr ⟨select, hselect, y, rest, by rw [List.append_assoc]⟩
    · rw [← occurs_unionSelect_iff, hnone]
      exact Bool.false_ne_true
  · rw [introduced_iff_of_ne hp, occurs_iff, foundBefore_cleaned_iff (hinert rule hrule hp)]
    · simp only [occurs_iff]
    · intro _ _ _ _
      trivial
    · exact not_foundBefore_of_not_occurs hnone

theorem denied_iff_quotedBlank :
    StatementRules.standard.judge Sample.quotedBlank = .safe ∧
      cleaned Sample.quotedBlank [] =
        "SELECT `a union b` FROM users WHERE id IN (SELECT 1)".toList ∧
      unionSelect.occurs (cleaned Sample.quotedBlank []) = true ∧
      (unionSelect.occurs (cleaned Sample.quotedBlank []) = true ↔
        Introduced Sample.quotedBlank [] unionSelect) :=
  have hsafe : StatementRules.standard.judge Sample.quotedBlank = .safe := by decide
  have hrule : ⟨unionSelect, "UNION SELECT (potential injection)".toList⟩ ∈ DenyRule.defaults := by
    decide
  ⟨hsafe, by decide, by decide, denied_iff hsafe hrule⟩

/-- A comment mark may come into a sanitized statement. -/
theorem comment_introduced :
    StatementRules.standard.judge Sample.brokenComment = .safe ∧
      cleaned Sample.brokenComment [] = "SELECT `a--b` FROM users".toList ∧
      ∃ rule ∈ DenyRule.defaults, rule.pattern.occurs (cleaned Sample.brokenComment []) = true := by
  decide

end Sanitizer

end QueryGate
