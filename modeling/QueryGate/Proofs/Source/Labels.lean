import QueryGate.Proofs.OrderedMap
import QueryGate.Proofs.Source.Tokens
import QueryGate.Source.Database

/-! # The columns that a query returns

Every value of a result stands under the name of a column of the selection (`label_of_rows`).  A
query of every column of a table returns the columns of the table (`label_of_whole`), and a query of
columns in back quotes returns those columns of the table that have these names but for letter case
(`label_of_named`). -/

namespace QueryGate

open Text Source Token

namespace Source

/-! ## Rows of a selection -/

theorem label_of_labelled {names : List Text} {values : List Json} {e : Text × Json}
    (h : e ∈ labelled names values) : e.1 ∈ names := by
  obtain ⟨p, hp, rfl⟩ := List.mem_map.mp (OrderedMap.mem_of_mem_ofList h)
  exact (List.of_mem_zip hp).1

theorem label_of_rows {s : Selection} {rows : List Row} (h : s.rows = .ok rows) :
    ∀ row ∈ rows, ∀ e ∈ row, e.1 ∈ s.columns.map (·.name) := by
  intro row hrow e he
  obtain ⟨shown, -, hrows⟩ := bind_eq_ok_iff.mp h
  obtain rfl := Except.ok.inj hrows
  obtain ⟨values, -, rfl⟩ := List.mem_map.mp hrow
  exact label_of_labelled he

end Source

namespace Database

/-- The names of the columns in the rows that a statement returns. -/
def labels (db : Database) (s : Text) : List Text :=
  match db.execute s with
  | .ok rows => rows.flatMap fun row => row.map (·.1)
  | .error _ => []

variable {tables : List StoredTable} {t : StoredTable} {projection table label : Text}

theorem exists_of_mem_labels {db : Database} {s : Text} (h : label ∈ db.labels s) :
    ∃ rows, ∃ row ∈ rows, ∃ e ∈ row, e.1 = label ∧ db.execute s = .ok rows := by
  unfold labels at h
  split at h
  · rename_i rows hrows
    obtain ⟨row, hrow, h⟩ := List.mem_flatMap.mp h
    obtain ⟨e, he, rfl⟩ := List.mem_map.mp h
    exact ⟨rows, row, hrow, e, he, rfl, hrows⟩
  · cases h

/-- The plan of a query of one table has the columns of the items. -/
theorem plan_queryOf {items : List QueryItem} {made : Plan}
    (hitems : ∀ item ∈ items, missingTable? (some ⟨t, t.name⟩) item = none)
    (htable : table? tables table = some t)
    (h : plan tables (.query (queryOf items table)) = .ok made) :
    ∃ columns, Source.columnsOf (some ⟨t, t.name⟩) items = .ok columns ∧
      made = .selection ⟨some t, columns, false, none, none⟩ := by
  have hfound : tableOf tables (queryOf items table).table = .ok (some t) := by
    simp [tableOf, queryOf, htable]
  have hnone : items.reverse.findSome? (missingTable? (some ⟨t, t.name⟩)) = none :=
    List.findSome?_eq_none_iff.mpr fun item hitem => hitems item (List.mem_reverse.mp hitem)
  have hresolve : (queryOf items table).resolve (some t) =
      (Source.columnsOf (some ⟨t, t.name⟩) items).map
        fun columns => ⟨some t, columns, false, none, none⟩ := by
    have hscope : ((some t).map fun t => (⟨t, ((queryOf items table).table.bind
        (·.alias_)).getD t.name⟩ : Scope)) = some ⟨t, t.name⟩ := rfl
    simp only [Query.resolve, hscope]
    simp only [queryOf, hnone, limitOf, bind, Except.bind, pure, Except.pure]
    cases Source.columnsOf (some ⟨t, t.name⟩) items <;> rfl
  obtain ⟨source, hsource, h⟩ := bind_eq_ok_iff.mp h
  obtain rfl := Except.ok.inj (hfound.symm.trans hsource)
  obtain ⟨selection, hselection, hmade⟩ := bind_eq_ok_iff.mp h
  rw [hresolve] at hselection
  obtain ⟨columns, hcolumns, rfl⟩ := map_eq_ok_iff.mp hselection
  exact ⟨columns, hcolumns, (Except.ok.inj hmade).symm⟩

/-- What a query of one table returns stands under the columns of its items. -/
theorem label_of_selectFrom {items : List QueryItem}
    (hcommand : readCommand (selectFrom projection table) =
        .ok (.query (queryOf items table), false) ∨
      ∃ e, readCommand (selectFrom projection table) = .error e)
    (hitems : ∀ item ∈ items, missingTable? (some ⟨t, t.name⟩) item = none)
    (htable : table? tables table = some t)
    (h : label ∈ labels ⟨some tables⟩ (selectFrom projection table)) :
    ∃ columns, Source.columnsOf (some ⟨t, t.name⟩) items = .ok columns ∧
      label ∈ columns.map (·.name) := by
  obtain ⟨rows, row, hrow, e, he, rfl, hrows⟩ := exists_of_mem_labels h
  unfold execute at hrows
  simp only [bind, Except.bind] at hrows
  split at hrows
  · cases hrows
  rcases hcommand with hcommand | ⟨e, hcommand⟩
  · rw [hcommand] at hrows
    simp only at hrows
    split at hrows
    · cases hrows
    rename_i made hmade
    obtain ⟨columns, hcolumns, rfl⟩ := plan_queryOf hitems htable hmade
    rw [if_neg Bool.false_ne_true] at hrows
    split at hrows
    · cases hrows
    · exact ⟨columns, hcolumns, label_of_rows hrows row hrow e he⟩
  · rw [hcommand] at hrows
    cases hrows

/-- A query of every column returns the columns of the table. -/
theorem label_of_whole (hne : table ≠ []) (hword : AllWord table)
    (htable : table? tables table = some t)
    (h : label ∈ labels ⟨some tables⟩ (selectFrom ['*'] table)) :
    ∃ column ∈ t.columns, label = column.name := by
  have hitems : ∀ item ∈ [everyItem], missingTable? (some ⟨t, t.name⟩) item = none :=
    List.forall_mem_singleton.mpr rfl
  obtain ⟨columns, hcolumns, hlabel⟩ :=
    label_of_selectFrom (readCommand_whole hne hword) hitems htable h
  have heq : columns = everyColumn t := by
    have hall : Source.columnsOf (some ⟨t, t.name⟩) [everyItem] = .ok (everyColumn t ++ []) := rfl
    rw [hall, List.append_nil] at hcolumns
    exact (Except.ok.inj hcolumns).symm
  rw [heq] at hlabel
  obtain ⟨r, hr, hname⟩ := List.mem_map.mp hlabel
  obtain ⟨c, hc, rfl⟩ := List.mem_map.mp hr
  exact ⟨c.1, (List.mem_zipIdx' hc).2 ▸ List.getElem_mem _, hname.symm⟩

theorem columns_columnItem {a : Text}
    (ha : ∃ column ∈ t.columns, sameName column.name a = true) :
    ∃ (i : Nat) (column : StoredColumn), column ∈ t.columns ∧ sameName column.name a = true ∧
      (columnItem a).columns (some ⟨t, t.name⟩) = .ok [⟨column.name, .cell (.column i)⟩] := by
  obtain ⟨i, hi⟩ : ∃ i, t.position? a = some i := by
    obtain ⟨column, hcolumn, hsame⟩ := ha
    refine Option.isSome_iff_exists.mp ?_
    rw [StoredTable.position?, List.findIdx?_isSome, List.any_eq_true]
    exact ⟨column, hcolumn, hsame⟩
  obtain ⟨hlt, hsame, -⟩ := List.findIdx?_eq_some_iff_getElem.mp hi
  refine ⟨i, t.columns[i], List.getElem_mem hlt, hsame, ?_⟩
  have hcell : cellOf (some ⟨t, t.name⟩) ⟨[], a, .quoted⟩ = .ok (.column i) := by
    simp [cellOf, Scope.cell?, Scope.covers, hi]
  have htitle : titleOf (some ⟨t, t.name⟩) (.cell (.column i)) (Sanitizer.backQuoted a) =
      t.columns[i].name := by
    simp [titleOf, hlt]
  simp [QueryItem.columns, columnItem, valueOf, hcell, Except.map, htitle]

/-- The columns that some names stand for. -/
theorem name_of_columnsOf {names : List Text} {columns : List ResultColumn}
    (hnames : ∀ a ∈ names, ∃ column ∈ t.columns, sameName column.name a = true)
    (h : Source.columnsOf (some ⟨t, t.name⟩) (names.map columnItem) = .ok columns) :
    ∀ r ∈ columns, ∃ column ∈ t.columns, r.name = column.name ∧
      ∃ a ∈ names, sameName column.name a = true := by
  induction names generalizing columns with
  | nil =>
    obtain rfl := Except.ok.inj h
    simp
  | cons a names ih =>
    obtain ⟨ha, hnames⟩ := List.forall_mem_cons.mp hnames
    obtain ⟨i, column, hcolumn, hsame, hitem⟩ := columns_columnItem ha
    obtain ⟨here, hhere, h⟩ := bind_eq_ok_iff.mp h
    obtain rfl := Except.ok.inj (hitem.symm.trans hhere)
    obtain ⟨more, hmore, h⟩ := bind_eq_ok_iff.mp h
    obtain rfl := Except.ok.inj h
    refine List.forall_mem_cons.mpr ⟨⟨column, hcolumn, rfl, a, List.mem_cons_self, hsame⟩, ?_⟩
    intro r hr
    obtain ⟨column', hcolumn', hname, a', ha', hsame'⟩ := ih hnames hmore r hr
    exact ⟨column', hcolumn', hname, a', List.mem_cons_of_mem _ ha', hsame'⟩

/-- A query of columns in back quotes returns the columns of these names. -/
theorem label_of_named {names : List Text} (hnil : names ≠ [])
    (hquotes : ∀ a ∈ names, '`' ∉ a)
    (hnames : ∀ a ∈ names, ∃ column ∈ t.columns, sameName column.name a = true)
    (hne : table ≠ []) (hword : AllWord table) (htable : table? tables table = some t)
    (h : label ∈ labels ⟨some tables⟩
      (selectFrom (join ", ".toList (names.map Sanitizer.backQuoted)) table)) :
    ∃ column ∈ t.columns, label = column.name ∧ ∃ a ∈ names, sameName column.name a = true := by
  have hitems : ∀ item ∈ names.map columnItem, missingTable? (some ⟨t, t.name⟩) item = none := by
    intro item hitem
    obtain ⟨a, -, rfl⟩ := List.mem_map.mp hitem
    rfl
  obtain ⟨columns, hcolumns, hlabel⟩ :=
    label_of_selectFrom (readCommand_named hnil hquotes hne hword) hitems htable h
  obtain ⟨r, hr, hname⟩ := List.mem_map.mp hlabel
  exact hname ▸ name_of_columnsOf hnames hcolumns r hr

end Database

end QueryGate
