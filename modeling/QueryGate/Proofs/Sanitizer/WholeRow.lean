import QueryGate.Proofs.Sanitizer.Examined

/-! # Items over whole rows

`*` and `q.*` stand for all columns of a table.  In SQL the blanks around the dot and in front of
`FROM` do not matter there.  Here they do: the search for the span wants a blank in front of `FROM`,
and a qualifier is a word with the dot directly behind it.

A statement that suits both is *tight*.  Its item is read as a whole row, and every sensitive column
of the table is removed.  Otherwise the span is not found, or the item is read as a column with a
dot in its name, and no column that a schema can declare is removed (`sanitize_wholeRow`). -/

namespace QueryGate

open Text Projection

namespace Schema

/-! ## The columns of a schema -/

/-- The columns of the table are named by words. -/
def NamedByWords (table : Table) : Prop := ∀ column ∈ table.columns, AllWord column.name

theorem allWord_of_column? {line : Text} {column : Column} (h : column? line = some column) :
    AllWord column.name := by
  unfold column? at h
  split at h
  · cases h
  · simp only at h
    split at h
    · cases h
    · split at h
      · cases h
      · obtain ⟨p, -, rfl⟩ := Option.map_eq_some_iff.mp h
        exact fun c hc => List.mem_takeWhile_imp hc

theorem namedByWords_tablesFrom {lines : List Text} {current : Option Table}
    (hcurrent : ∀ table ∈ current, NamedByWords table) :
    ∀ table ∈ tablesFrom current lines, NamedByWords table := by
  induction lines generalizing current with
  | nil => simpa [tablesFrom] using hcurrent
  | cons line lines ih =>
    unfold tablesFrom
    split
    · -- a header closes the block that is open
      rename_i name _
      intro table htable
      rcases List.mem_append.mp htable with htable | htable
      · exact hcurrent table (by simpa using htable)
      · have hnew : ∀ table ∈ some (⟨name, []⟩ : Table), NamedByWords table := by
          simp [NamedByWords]
        exact ih hnew table htable
    · split
      · exact ih hcurrent
      · rename_i table
        have htable : NamedByWords table := hcurrent table rfl
        split
        · exact List.forall_mem_cons.mpr ⟨htable, ih (by simp)⟩
        · refine ih fun table' htable' => ?_
          obtain rfl := Option.some.inj htable'
          refine List.forall_mem_append.mpr ⟨htable, fun column hcolumn => ?_⟩
          exact allWord_of_column? (Option.mem_toList.mp hcolumn)

/-- The columns that a schema declares are words. -/
theorem allWord_of_mem_columnsOf {schema table column : Text}
    (h : column ∈ columnsOf schema table) : AllWord column := by
  unfold columnsOf at h
  split at h
  · rename_i found hfound
    obtain ⟨declared, hdeclared, rfl⟩ := List.mem_map.mp h
    exact namedByWords_tablesFrom (by simp) found (List.mem_of_find?_eq_some hfound) declared
      hdeclared
  · cases h

end Schema

namespace Sanitizer

open Statement

/-! ## The spellings -/

/-- The name in front of an asterisk: a bare word, or any text between marks that do not stand in
it. -/
structure RowName where
  marks : Marks
  text : Text
  ne_nil : text ≠ []
  bare : marks = .bare → AllWord text
  closed : ∀ c ∈ marks.closing, c ∉ text

/-- A name as it is written. -/
def RowName.render (n : RowName) : Text := n.marks.opening ++ (n.text ++ n.marks.closing)

/-- An item over whole rows. -/
inductive RowItem where
  | all
  | qualified (name : RowName) (beforeDot afterDot : Blanks)

/-- What stands in front of the asterisk. -/
def RowItem.lead : RowItem → Text
  | all => []
  | qualified name beforeDot afterDot => name.render ++ (beforeDot.1 ++ '.' :: afterDot.1)

/-- An item as it is written. -/
def RowItem.render (i : RowItem) : Text := i.lead ++ wildcard

/-- A statement that selects an item over whole rows from one table. -/
structure RowSelection where
  select : {w : Text // IsForm "SELECT".toList w}
  behindSelect : Gap
  item : RowItem
  beforeFrom : Blanks
  close : {w : Text // IsForm "FROM".toList w}
  behindFrom : Gap
  table : {t : Text // t ≠ [] ∧ AllWord t}

/-- A statement as it is written. -/
def RowSelection.render (q : RowSelection) : Text :=
  q.select.1 ++ (q.behindSelect.1 ++ (q.item.render ++ (q.beforeFrom.1 ++
    (q.close.1 ++ (q.behindFrom.1 ++ q.table.1)))))

/-- The name is a word with the dot directly behind it. -/
def RowItem.Tight : RowItem → Prop
  | all => True
  | qualified name beforeDot _ => AllWord name.text ∧ beforeDot.1 = []

/-- A statement in which the item and the closing `FROM` are recognised: blanks stand in front of
`FROM` and none stands in front of the dot. -/
structure RowSelection.Tight (q : RowSelection) : Prop where
  item : q.item.Tight
  beforeFrom : q.beforeFrom.1 ≠ []

/-- The name holds no mark. -/
def RowItem.Unmarked : RowItem → Prop
  | all => True
  | qualified name _ _ => ∀ c ∈ name.text, c ∉ punctuation

/-- The name holds no mark and no keyword. -/
structure RowItem.Plain (i : RowItem) : Prop where
  unmarked : i.Unmarked
  free : ∀ name g g', i = .qualified name g g' → NoFrom name.text ∧ ¬ IsReserved name.text

theorem RowItem.Tight.unmarked {i : RowItem} (h : i.Tight) : i.Unmarked := by
  cases i with
  | all => trivial
  | qualified name g g' => exact fun c hc => not_mark_of_isWord (h.1 c hc)

/-! ## What all of them share -/

theorem Marks.not_paren (m : Marks) : '(' ∉ m.opening ∧ '(' ∉ m.closing := by
  cases m <;> decide

theorem RowItem.balanced {i : RowItem} (h : i.Unmarked) : Balanced i.render := by
  refine .append ?_ balanced_wildcard
  cases i with
  | all => exact .nil
  | qualified name g g' =>
    have hdot : Balanced ['.'] := .of_mark (by decide)
    exact .append (balanced_marked name.marks h) <| .append (.of_blank g.2) <|
      hdot.append (.of_blank g'.2)

theorem RowItem.noParen {i : RowItem} (h : i.Unmarked) : '(' ∉ i.lead := by
  cases i with
  | all => simp [RowItem.lead]
  | qualified name g g' =>
    obtain ⟨hopen, hclose⟩ := Marks.not_paren name.marks
    have htext : '(' ∉ name.text := fun hmem => h _ hmem (by decide)
    have hblank : ∀ g : Blanks, '(' ∉ g.1 :=
      fun g hmem => not_mark_of_isBlank (g.2 _ hmem) (by decide)
    simp [RowItem.lead, RowName.render, hopen, hclose, htext, hblank]

/-- A name is a bare word or begins with a mark. -/
theorem RowName.render_cases (n : RowName) :
    (AllWord n.text ∧ n.render = n.text) ∨
      ∃ c t, n.render = c :: t ∧ c ∈ punctuation ∧ c ≠ ')' := by
  obtain ⟨marks, text, hne, hbare, hclosed⟩ := n
  cases marks with
  | bare => exact .inl ⟨hbare rfl, by simp [RowName.render, Marks.opening, Marks.closing]⟩
  | backQuotes | doubleQuotes | brackets => exact .inr ⟨_, _, rfl, by decide, by decide⟩

theorem RowItem.trimmed (i : RowItem) : Trimmed i.render := by
  constructor
  · cases i with
    | all => exact isBlank_of_mark (c := '*') (by decide)
    | qualified name g g' =>
      rw [RowItem.render, RowItem.lead, List.append_assoc]
      rcases name.render_cases with ⟨hword, h⟩ | ⟨c, t, h, hc, -⟩
      · rw [h]
        cases htext : name.text with
        | nil => exact absurd htext name.ne_nil
        | cons c t => exact isBlank_of_isWord (hword c (by simp [htext]))
      · rw [h]
        exact isBlank_of_mark hc
  · rw [RowItem.render, wildcard, List.getLast?_concat]
    exact isBlank_of_mark (by decide)

theorem RowItem.split_render {i : RowItem} (h : i.Unmarked) : split i.render = [i.render] := by
  refine split_of_listed (.one _) fun item hitem => ?_
  obtain rfl := List.mem_singleton.mp hitem
  exact ⟨by simp [RowItem.render, wildcard], RowItem.balanced h, i.trimmed⟩

/-- In front of a name no quantifier is read, unless it is a bare word that begins one. -/
theorem RowName.unled {n : RowName} {s : Text}
    (h : AllWord n.text → dropQuantifier? (n.text ++ s) = none) :
    dropQuantifier? (n.render ++ s) = none := by
  rcases n.render_cases with ⟨hword, htext⟩ | ⟨c, t, htext, hc, hparen⟩
  · rw [htext]
    exact h hword
  · rw [htext]
    exact (Unled.of_mark hc hparen).none

theorem RowItem.Tight.unled {i : RowItem} (h : i.Tight) : dropQuantifier? i.render = none := by
  cases i with
  | all => exact unled_wildcard.none
  | qualified name g g' =>
    obtain ⟨hword, hg⟩ := h
    rw [RowItem.render, RowItem.lead, hg, List.nil_append, List.append_assoc, List.cons_append]
    exact name.unled fun _ => dropQuantifier?_of_mark hword (isWord_of_mark (by decide)) (by decide)

theorem RowItem.Plain.unled {i : RowItem} (h : i.Plain) : dropQuantifier? i.render = none := by
  cases i with
  | all => exact unled_wildcard.none
  | qualified name g g' =>
    rw [RowItem.render, RowItem.lead, List.append_assoc]
    refine name.unled fun hword => ?_
    refine (Unled.of_name ⟨name.text, name.ne_nil, hword, (h.free _ _ _ rfl).2⟩ ?_).none
    cases hg : g.1 with
    | nil => exact isWord_of_mark (c := '.') (by decide)
    | cons d t => exact isWord_of_isBlank (g.2 d (by simp [hg]))

/-- Without a quantifier in front, an item stays as it is. -/
theorem RowItem.body_eq {i : RowItem} (h : dropQuantifier? i.render = none) :
    dropQuantifiers (trim i.render) = i.lead ++ wildcard := by
  rw [i.trimmed.trim_eq]
  exact dropQuantifiersUpTo_eq_self h _

/-! ## Tight statements -/

/-- A tight item is read as a whole row. -/
theorem RowItem.Tight.reference_eq {i : RowItem} (h : i.Tight) :
    reference i.render = some wildcard := by
  have hread : ∀ g : Text, AllBlank g → dropQualifiers i.render = g ++ wildcard →
      reference i.render = some wildcard := by
    intro g hg hrest
    rw [reference_asterisk (RowItem.body_eq h.unled) (RowItem.noParen h.unmarked) hrest,
      name_wildcard hg, isNoise_wildcard]
    rfl
  cases i with
  | all =>
    have hnil : AllBlank [] := by simp [AllBlank]
    exact hread [] hnil (dropQualifiers_eq_self (dropQualifier?_wildcard hnil))
  | qualified name g g' =>
    obtain ⟨hword, hg⟩ := h
    refine hread g'.1 g'.2 (dropQualifiers_of_one ?_ (dropQualifier?_wildcard g'.2))
    rw [RowItem.render, RowItem.lead, hg, List.nil_append, List.append_assoc, List.cons_append]
    exact dropQualifier?_marked name.marks name.ne_nil hword _

theorem RowItem.Tight.requestedOf_eq {i : RowItem} (h : i.Tight) :
    requestedOf i.render = [⟨wildcard, i.render⟩] := by
  rw [requestedOf, RowItem.split_render h.unmarked, List.filterMap_cons, h.reference_eq]
  rfl

/-- A mark behind a text without blanks, with no word behind the mark. -/
theorem from_apart_of_mark {l r : Text} {c : Char} (hl : ∀ x ∈ l, isBlank x = false)
    (hc : c ∈ punctuation) (hr : NoWord r) :
    NoFromBehindBlank (l ++ c :: r) ∧ FromContinued (l ++ c :: r) := by
  -- every word of the text stands in front of the mark
  have hleft : ∀ a w b, l ++ c :: r = a ++ (w ++ b) → WordBetween "FROM".toList a w b →
      ∃ b', l = a ++ (w ++ b') ∧ b = b' ++ c :: r := by
    intro a w b h hword
    have hne := hword.form.ne_nil_of_keyword (by decide)
    have hall := hword.form.allWord_of_keyword (by decide)
    rcases split_at_char (isWord_of_mark hc) hall h with hl | ⟨a', hr', -⟩
    · exact hl
    · obtain ⟨x, hx⟩ := List.exists_mem_of_ne_nil w hne
      have hno := hr x (by simp [hr', hx])
      rw [hall x hx] at hno
      cases hno
  constructor
  · intro a w b h hword
    obtain ⟨b', rfl, -⟩ := hleft a w b h hword
    cases hlast : a.getLast? with
    | none => rfl
    | some x => exact hl x (List.mem_append_left _ (List.mem_of_getLast? hlast))
  · intro a w b h hword
    obtain ⟨b', rfl, rfl⟩ := hleft a w b h hword
    cases b' with
    | nil => simp [isBlank_of_mark hc]
    | cons x b' => simp [hl x (by simp)]

theorem RowItem.Tight.fromApart {i : RowItem} (h : i.Tight) :
    NoFromBehindBlank i.render ∧ FromContinued i.render := by
  have hstar : NoWord wildcard := List.forall_mem_singleton.mpr (isWord_of_mark (by decide))
  cases i with
  | all => exact from_apart_of_mark (l := []) (by simp) (by decide) (r := []) (by simp [NoWord])
  | qualified name g g' =>
    obtain ⟨hword, hg⟩ := h
    rw [RowItem.render, RowItem.lead, hg, List.nil_append, List.append_assoc, List.cons_append]
    refine from_apart_of_mark ?_ (by decide)
      (List.forall_mem_append.mpr ⟨noWord_of_blanks g'.2, hstar⟩)
    have hmarks : ∀ m : Marks, ∀ c ∈ m.opening ++ m.closing, c ∈ punctuation := by
      intro m
      cases m <;> exact forall_mem_of_all (by decide)
    intro c hc
    rcases List.mem_append.mp hc with hc | hc
    · exact isBlank_of_mark (hmarks _ c (List.mem_append_left _ hc))
    · rcases List.mem_append.mp hc with hc | hc
      · exact isBlank_of_isWord (hword c hc)
      · exact isBlank_of_mark (hmarks _ c (List.mem_append_right _ hc))

/-- The span of a statement is its item. -/
theorem RowSelection.span?_render (q : RowSelection) (hblanks : q.beforeFrom.1 ≠ [])
    (hfrom : NoFromBehindBlank q.item.render) :
    span? q.render = some ⟨[], q.item.render, q.behindFrom.1 ++ q.table.1⟩ := by
  have hafter := q.behindFrom.2.head?_isWord q.table.1
  have htrimmed := q.item.trimmed
  exact span?_of_projection q.select.2 q.behindSelect.2 (by simp [RowItem.render, wildcard])
    htrimmed.first htrimmed.last hfrom ⟨hblanks, q.beforeFrom.2⟩ q.close.2 hafter

theorem RowSelection.Tight.table?_render {q : RowSelection} (h : q.Tight) :
    table? q.render = some q.table.1 :=
  have hname := leadingTable?_self q.table.2.1 q.table.2.2
  table?_of_projection q.close.2 q.behindFrom.2 hname.1 hname.2 q.select.2 q.behindSelect.2
    h.item.fromApart.2 ⟨h.beforeFrom, q.beforeFrom.2⟩

section WholeRow

variable {c : Catalog} {s schema table item : Text}

/-- A statement that asks for a whole row asks for the columns of its table. -/
theorem considered_wholeRow (htable : table? s = some table)
    (hrequested : requested s = [⟨wildcard, item⟩]) :
    considered s schema = (Schema.columnsOf schema table).map fun column => ⟨column, column⟩ := by
  simp [considered, htable, hrequested, expand]

theorem isBlocked_self (column : Text) : isBlocked c ⟨column, column⟩ = c.isSensitive column := by
  simp [isBlocked]

/-- A statement that asks for a whole row loses the sensitive columns of its table. -/
theorem blockedColumns_wholeRow (htable : table? s = some table)
    (hrequested : requested s = [⟨wildcard, item⟩]) :
    blockedColumns c s schema = (Schema.columnsOf schema table).filter c.isSensitive := by
  rw [blockedColumns, considered_wholeRow htable hrequested, List.filter_map, List.map_map]
  simp only [Function.comp_def, isBlocked_self, List.map_id']

/-- It keeps the others. -/
theorem keptColumns_wholeRow (htable : table? s = some table)
    (hrequested : requested s = [⟨wildcard, item⟩]) :
    keptColumns c s schema = (Schema.columnsOf schema table).filter (!c.isSensitive ·) := by
  rw [keptColumns, considered_wholeRow htable hrequested, List.filter_map, List.map_map]
  simp only [Function.comp_def, isBlocked_self, List.map_id']

end WholeRow

/-! ## The new statement -/

/-- A statement that is not changed by a new projection has that projection already. -/
theorem trim_eq_of_withProjection {select gap p gap' close after new : Text}
    (hselect : IsForm "SELECT".toList select) (hgap : IsBlanks gap) (hgap' : AllBlank gap')
    (hclose : IsForm "FROM".toList close)
    (h : Span.withProjection ⟨[], p, after⟩ new =
      select ++ (gap ++ (p ++ (gap' ++ (close ++ after))))) : trim new = trim p := by
  have hspace : AllBlank [' '] := isBlanks_space.2
  have htext : "SELECT".toList ++ ([' '] ++ (new ++ [' ']) ++ ("FROM".toList ++ after)) =
      select ++ (gap ++ (p ++ gap') ++ (close ++ after)) := by
    have hflat : ∀ s g n g' f a t : Text, [] ++ (s ++ g) ++ n ++ (g' ++ f) ++ a = t →
        s ++ (g ++ (n ++ g') ++ (f ++ a)) = t := by
      rintro s g n g' f a t rfl
      simp only [List.nil_append, List.append_assoc]
    refine hflat "SELECT".toList [' '] new [' '] "FROM".toList after _ (h.trans ?_)
    simp only [List.append_assoc]
  obtain ⟨-, hrest⟩ := List.append_inj htext hselect.length_eq
  have hlength : ("FROM".toList ++ after).length = (close ++ after).length := by
    rw [List.length_append, List.length_append, hclose.length_eq]
  obtain ⟨hinner, -⟩ := List.append_inj' hrest hlength
  have htrim := congrArg trim hinner
  rwa [trim_append_left hspace, trim_append_right hspace, trim_append_left hgap.2,
    trim_append_right hgap'] at htrim

theorem getLast?_join_backQuoted {kept : List Text} (hne : kept ≠ []) :
    (join ", ".toList (kept.map backQuoted)).getLast? = some '`' := by
  induction kept with
  | nil => exact absurd rfl hne
  | cons column kept ih =>
    cases kept with
    | nil => exact List.getLast?_concat
    | cons next kept =>
      rw [List.map_cons, List.map_cons, join_cons_cons, ← List.map_cons, List.getLast?_append,
        List.getLast?_append, ih (by simp), Option.some_or, Option.some_or]

/-- With a column removed, the new projection is a substitute or ends with a back quote. -/
theorem statement_of_blocked {c : Catalog} {s schema : Text} {span : Span}
    (hspan : span? s = some span) (hblocked : blockedColumns c s schema ≠ []) :
    ∃ new, (sanitize c s schema).statement = span.withProjection new ∧
      ((∃ column, new = substitute c column) ∨ new.getLast? = some '`') := by
  cases outcome c s schema with
  | unchanged hnone _ => exact absurd hnone hblocked
  | @replaced _ new other _ hother _ hnew hstatement =>
    obtain rfl := Option.some.inj (hspan.symm.trans hother)
    refine ⟨new, hstatement, ?_⟩
    cases hnew with
    | substitute _ _ => exact .inl ⟨_, rfl⟩
    | kept hkept =>
      right
      rw [keptProjection, List.getLast?_append, getLast?_join_backQuoted hkept, Option.some_or]

/-- A tight statement with a sensitive column is changed, unless the catalog shows its item in place
of the column. -/
theorem RowSelection.Tight.statement_ne {c : Catalog} {schema : Text} {q : RowSelection}
    (h : q.Tight) (hsubstitute : ∀ column, trim (substitute c column) ≠ q.item.render)
    (hblocked : blockedColumns c q.render schema ≠ []) :
    (sanitize c q.render schema).statement ≠ q.render := by
  intro heq
  have hspan := q.span?_render h.beforeFrom h.item.fromApart.1
  obtain ⟨new, hnew, hcases⟩ := statement_of_blocked hspan hblocked
  have htrim : trim new = q.item.render := by
    rw [← q.item.trimmed.trim_eq]
    exact trim_eq_of_withProjection q.select.2 q.behindSelect.2 q.beforeFrom.2 q.close.2
      (hnew.symm.trans heq)
  rcases hcases with ⟨column, rfl⟩ | hlast
  · exact hsubstitute column htrim
  · -- behind the asterisk only blanks stand
    obtain ⟨g, g', -, hg', hsplit⟩ := exists_trim new
    rw [htrim, RowItem.render] at hsplit
    have hquote : '`' ∈ wildcard ++ g' := by
      refine List.mem_of_getLast? (a := '`') ?_
      rw [hsplit, List.append_assoc, ← List.append_assoc, List.getLast?_append_of_ne_nil _
        (by simp [wildcard])] at hlast
      exact hlast
    rcases List.mem_append.mp hquote with hmem | hmem
    · exact absurd hmem (by decide)
    · exact not_mark_of_isBlank (hg' _ hmem) (by decide)

/-- Every substitute of the standard catalog is a call. -/
theorem paren_mem_substitute (column : Text) : '(' ∈ substitute Catalog.standard column := by
  have hlisted : ∀ e ∈ Catalog.standard.safeAlternatives.entries, '(' ∈ e.2 := by decide +kernel
  rcases substitute_cases Catalog.standard column with h | h
  · exact hlisted _ h
  · rw [h]
    decide

theorem RowItem.substitute_ne {i : RowItem} (h : i.Unmarked) (column : Text) :
    trim (substitute Catalog.standard column) ≠ i.render := by
  intro heq
  have hmem := mem_trim (paren_mem_substitute column) (isBlank_of_mark (by decide))
  rw [heq] at hmem
  rcases List.mem_append.mp hmem with hmem | hmem
  · exact RowItem.noParen h hmem
  · exact absurd hmem (by decide)

/-! ## Loose statements -/

theorem RowItem.Plain.noFrom {i : RowItem} (h : i.Plain) : NoFrom i.lead := by
  cases i with
  | all => exact .nil
  | qualified name g g' =>
    have hgap : NoWord (g.1 ++ '.' :: g'.1) := List.forall_mem_append.mpr
      ⟨noWord_of_blanks g.2,
        List.forall_mem_cons.mpr ⟨isWord_of_mark (by decide), noWord_of_blanks g'.2⟩⟩
    have hname := noFrom_marked name.marks (h.free _ _ _ rfl).1
    simpa [RowItem.lead, RowName.render] using hname.append_gap (by simp) hgap .nil

/-- A `FROM` directly behind a mark is the only one of the text, and no blank stands before it. -/
theorem noFromBehindBlank_of_mark {s close gap t : Text} {c : Char} (hs : NoFrom s)
    (hc : c ∈ punctuation) (hclose : AllWord close) (hgap : IsBlanks gap) (ht : NoFrom t) :
    NoFromBehindBlank (s ++ c :: (close ++ (gap ++ t))) := by
  intro a w b h hword
  have hne := hword.form.ne_nil_of_keyword (by decide)
  have hall := hword.form.allWord_of_keyword (by decide)
  rcases split_at_char (isWord_of_mark hc) hall h with ⟨b', hs', rfl⟩ | ⟨a', hrest, rfl⟩
  · exact absurd (hword.inside (x := [])) (hs a w b' hs')
  · rcases split_at_gap hgap.1 hgap.noWord hne hall hrest with ⟨b', rfl, -⟩ | ⟨a'', rfl, rfl⟩
    · rw [List.getLast?_append]
      cases hlast : (c :: a').getLast? with
      | none => simp at hlast
      | some d =>
        rw [Option.some_or, Option.any_some]
        rcases List.mem_cons.mp (List.mem_of_getLast? hlast) with rfl | hmem
        · exact isBlank_of_mark hc
        · exact isBlank_of_isWord (hclose d (List.mem_append_left _ hmem))
    · have hinside : WordBetween "FROM".toList (s ++ c :: (close ++ gap) ++ a'') w (b ++ []) := by
        simpa using hword
      exact absurd hinside.inside (ht a'' w b rfl)

/-- Without a blank before `FROM` nothing of the statement is read. -/
theorem RowSelection.requested_of_noBlank {q : RowSelection} (hitem : q.item.Plain)
    (htable : NoFrom q.table.1) (hblanks : q.beforeFrom.1 = []) : requested q.render = [] := by
  have hselect : NoFrom q.select.1 := .of_isForm (by decide) (by decide) q.select.2
  have hlead := hselect.append_gap q.behindSelect.2.1 q.behindSelect.2.noWord hitem.noFrom
  have hclose : AllWord q.close.1 := q.close.2.allWord_of_keyword (by decide)
  have hfrom := noFromBehindBlank_of_mark (c := '*') hlead (by decide) hclose q.behindFrom.2 htable
  have htext : q.render = q.select.1 ++ (q.behindSelect.1 ++ q.item.lead) ++
      '*' :: (q.close.1 ++ (q.behindFrom.1 ++ q.table.1)) := by
    simp [RowSelection.render, RowItem.render, wildcard, hblanks]
  rw [requested, htext, span?_eq_none hfrom]

/-- A name with a blank in front of the dot, or with a blank inside, is no qualifier. -/
theorem RowItem.Plain.dropQualifier?_eq_none {i : RowItem} (h : i.Plain) (hloose : ¬ i.Tight) :
    dropQualifier? i.render = none := by
  cases i with
  | all => exact absurd trivial hloose
  | qualified name g g' =>
    rw [RowItem.render, RowItem.lead, RowName.render]
    by_cases hword : AllWord name.text
    · -- a blank stands between the name and the dot
      have hg : g.1 ≠ [] := fun hnil => hloose ⟨hword, hnil⟩
      obtain ⟨d, t, hd⟩ := List.exists_cons_of_ne_nil hg
      have hblank : isBlank d = true := g.2 d (by simp [hd])
      have hmark := not_mark_of_isBlank hblank
      have hdot : '.' ≠ d := fun h => hmark (h ▸ (by decide))
      have hname := dropName?_marked name.marks name.ne_nil hword
        (s := d :: (t ++ '.' :: g'.1 ++ wildcard)) (isWord_of_isBlank hblank)
        (closesName_of_not_mark hmark)
      rw [hd, List.append_assoc, List.cons_append, List.cons_append, dropQualifier?, hname,
        Option.bind_some, dropLead?, if_neg hdot]
    · -- the name breaks off within its marks
      have hsplit : name.text.takeWhile isWord ++ name.text.dropWhile isWord = name.text :=
        List.takeWhile_append_dropWhile
      have hfirst : AllWord (name.text.takeWhile isWord) := fun c hc => List.mem_takeWhile_imp hc
      have hhead := List.head?_dropWhile_not isWord name.text
      cases hbehind : name.text.dropWhile isWord with
      | nil =>
        rw [hbehind, List.append_nil] at hsplit
        exact absurd (hsplit ▸ hfirst) hword
      | cons x t =>
        have hx : isWord x = false := by simpa [hbehind] using hhead
        have hmark : x ∉ punctuation := h.unmarked x (by rw [← hsplit, hbehind]; simp)
        rw [← hsplit, hbehind]
        simpa using dropQualifier?_of_broken name.marks hfirst hx hmark

/-- A loose item is read as a column whose name has a dot in it. -/
theorem RowItem.Plain.dot_mem {i : RowItem} (h : i.Plain) (hloose : ¬ i.Tight) {column : Text}
    (hcolumn : reference i.render = some column) : '.' ∈ column := by
  have hread := reference_asterisk (RowItem.body_eq h.unled) (RowItem.noParen h.unmarked)
    (dropQualifiers_eq_self (h.dropQualifier?_eq_none hloose))
  rw [hread] at hcolumn
  split at hcolumn
  · cases hcolumn
  · obtain rfl := Option.some.inj hcolumn
    refine mem_trim (List.mem_filter.mpr ⟨?_, by decide⟩) (isBlank_of_mark (by decide))
    cases i with
    | all => exact absurd trivial hloose
    | qualified name g g' => simp [RowItem.lead]

/-- Columns that are not asked for are not removed. -/
theorem not_mem_blocked {c : Catalog} {s schema column : Text}
    (h : ∀ r ∈ requested s, r.column ≠ wildcard ∧ r.column ≠ column) :
    ⟨column⟩ ∉ (sanitize c s schema).blocked := by
  cases htable : table? s with
  | none => simp [sanitize, htable]
  | some table =>
    rw [blocked_of_table htable]
    intro hmem
    obtain ⟨name, hname, heq⟩ := List.mem_map.mp hmem
    obtain rfl : name = column := by simpa using heq
    obtain ⟨r, hr, rfl⟩ := List.mem_map.mp hname
    have hconsidered : r ∈ considered s schema := (List.mem_filter.mp hr).1
    rw [considered, htable] at hconsidered
    rcases mem_expand_iff.mp hconsidered with ⟨_, -, -, asked, hasked, hwild⟩ | ⟨hasked, -⟩
    · exact absurd hwild (h asked hasked).1
    · exact (h r hasked).2 rfl

/-- A loose statement asks for no column that a schema can declare. -/
theorem RowSelection.column_of_loose {q : RowSelection} (hloose : ¬ q.Tight) (hitem : q.item.Plain)
    (htable : NoFrom q.table.1) {r : Requested} (hr : r ∈ requested q.render) :
    '.' ∈ r.column := by
  by_cases hblanks : q.beforeFrom.1 = []
  · rw [q.requested_of_noBlank hitem htable hblanks] at hr
    cases hr
  · -- the item is read, but not as a whole row
    have hitem' : ¬ q.item.Tight := fun h => hloose ⟨h, hblanks⟩
    have hfrom : NoFrom q.item.render := by
      simpa [RowItem.render, wildcard] using hitem.noFrom.append_mark (c := '*') (by decide) .nil
    have hspan := q.span?_render hblanks fun a w b h hword => absurd hword (hfrom a w b h)
    rw [requested_of_span hspan, requestedOf, RowItem.split_render hitem.unmarked] at hr
    obtain ⟨item, hmem, hread⟩ := List.mem_filterMap.mp hr
    obtain rfl := List.mem_singleton.mp hmem
    obtain ⟨column, hcolumn, rfl⟩ := Option.map_eq_some_iff.mp hread
    exact hitem.dot_mem hitem' hcolumn

namespace Sample

/-- A name of one word. -/
def word : RowName := ⟨.bare, ['u'], by decide, fun _ => by decide +kernel, nofun⟩

/-- A name of two words, in quotes. -/
def phrase : RowName :=
  ⟨.doubleQuotes, "my users".toList, by decide, nofun, forall_mem_of_all (by decide)⟩

/-- A statement over the rows of the users. -/
def rows (item : RowItem) (beforeFrom : Blanks) : RowSelection where
  select := ⟨"SELECT".toList, by decide⟩
  behindSelect := space
  item := item
  beforeFrom := beforeFrom
  close := closing
  behindFrom := space
  table := ⟨users.text, users.ne_nil, users.allWord⟩

/-- Blanks behind the dot do not matter. -/
def tight : RowSelection := rows (.qualified word nothing blank) blank

def unspaced : RowSelection := rows .all nothing

def apart : RowSelection := rows (.qualified word blank nothing) blank

def quoted : RowSelection := rows (.qualified phrase nothing nothing) blank

end Sample

/-- **Which whole rows are caught.**  From a tight statement exactly the sensitive columns of its
table are removed.  If there are any, the statement becomes another one, unless the catalog shows
the item itself in place of a column; the standard catalog does not.  From a statement that is not
tight, with neither marks nor keywords in its names, no column of the table is removed. -/
theorem sanitize_wholeRow (c : Catalog) (schema : Text) (q : RowSelection) :
    (q.Tight →
      (sanitize c q.render schema).blocked =
        ((Schema.columnsOf schema q.table.1).filter c.isSensitive).map (⟨·⟩) ∧
      ((∃ column ∈ Schema.columnsOf schema q.table.1, c.isSensitive column = true) →
        (c = Catalog.standard ∨ ∀ column, trim (substitute c column) ≠ q.item.render) →
        (sanitize c q.render schema).statement ≠ q.render)) ∧
    (¬ q.Tight → q.item.Plain → NoFrom q.table.1 →
      ∀ column ∈ Schema.columnsOf schema q.table.1,
        ⟨column⟩ ∉ (sanitize c q.render schema).blocked) := by
  constructor
  · intro htight
    have hspan := q.span?_render htight.beforeFrom htight.item.fromApart.1
    have hrequested : requested q.render = [⟨wildcard, q.item.render⟩] := by
      rw [requested_of_span hspan, htight.item.requestedOf_eq]
    have hblocked : blockedColumns c q.render schema =
        (Schema.columnsOf schema q.table.1).filter c.isSensitive :=
      blockedColumns_wholeRow htight.table?_render hrequested
    refine ⟨by rw [blocked_of_table htight.table?_render, hblocked], ?_⟩
    rintro ⟨column, hcolumn, hsensitive⟩ hcatalog
    refine htight.statement_ne ?_ ?_
    · rcases hcatalog with rfl | hcatalog
      · exact RowItem.substitute_ne htight.item.unmarked
      · exact hcatalog
    · rw [hblocked]
      exact List.ne_nil_of_mem (List.mem_filter.mpr ⟨hcolumn, hsensitive⟩)
  · intro hloose hitem htable column hcolumn
    have hword := Schema.allWord_of_mem_columnsOf hcolumn
    refine not_mem_blocked fun r hr => ?_
    have hdot := q.column_of_loose hloose hitem htable hr
    constructor
    · intro h
      rw [h] at hdot
      exact absurd hdot (by decide)
    · rintro rfl
      exact not_mem_of_allWord hword (by decide) hdot

theorem sanitize_wholeRow_users :
    (sanitize Catalog.standard Sample.tight.render Sample.usersTable).blocked =
        [⟨"password".toList⟩] ∧
      (sanitize Catalog.standard Sample.tight.render Sample.usersTable).statement ≠
        Sample.tight.render ∧
      ⟨"password".toList⟩ ∉
        (sanitize Catalog.standard Sample.unspaced.render Sample.usersTable).blocked := by
  have htight : Sample.tight.Tight := ⟨⟨by decide +kernel, rfl⟩, by decide⟩
  have hloose : ¬ Sample.unspaced.Tight := fun h => h.beforeFrom rfl
  have hplain : Sample.unspaced.item.Plain := ⟨trivial, nofun⟩
  have hcolumn : "password".toList ∈ Schema.columnsOf Sample.usersTable "users".toList := by
    decide +kernel
  have hsensitive : Catalog.standard.isSensitive "password".toList = true := by decide +kernel
  obtain ⟨hblocked, hstatement⟩ :=
    (sanitize_wholeRow Catalog.standard Sample.usersTable Sample.tight).1 htight
  refine ⟨?_, hstatement ⟨_, hcolumn, hsensitive⟩ (.inl rfl), ?_⟩
  · rw [hblocked]
    decide +kernel
  · exact (sanitize_wholeRow Catalog.standard Sample.usersTable Sample.unspaced).2 hloose hplain
      Sample.users.noFrom _ hcolumn

/-- A statement that may run as it is, though its table has a sensitive column. -/
def RowSelection.Leaks (q : RowSelection) (schema : Text) : Prop :=
  StatementRules.standard.judge q.render = .safe ∧
    (∃ column ∈ Schema.columnsOf schema q.table.1, Catalog.standard.isSensitive column = true) ∧
    (sanitize Catalog.standard q.render schema).blocked = [] ∧
    (sanitize Catalog.standard q.render schema).statement = q.render

instance (q : RowSelection) (schema : Text) : Decidable (q.Leaks schema) :=
  inferInstanceAs (Decidable (_ ∧ _))

/-- No blank stands in front of `FROM`, a blank stands in front of the dot, or the name in quotes is
no word. -/
theorem wholeRow_leaks :
    Sample.unspaced.render = "SELECT *FROM users".toList ∧
      Sample.apart.render = "SELECT u .* FROM users".toList ∧
      Sample.quoted.render = "SELECT \"my users\".* FROM users".toList ∧
      Sample.unspaced.Leaks Sample.usersTable ∧ Sample.apart.Leaks Sample.usersTable ∧
      Sample.quoted.Leaks Sample.usersTable := by
  decide +kernel

end Sanitizer

end QueryGate
