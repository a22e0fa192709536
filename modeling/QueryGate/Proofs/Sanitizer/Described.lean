import QueryGate.Proofs.Sanitizer.WholeRow
import QueryGate.Proofs.Schema.Described
import QueryGate.Proofs.Source.Labels
import QueryGate.Proofs.Text.Capitals

/-! # Whole rows of the tables of a database

`SELECT * FROM t` is sanitized with what a database says of itself.  What is removed is what is
listed of the table and sensitive, so a table that is left out of the list, or a column whose name
is no word, is shown as it is (`described_leaks`).  Apart from these, no sensitive column of the
table is left in the statement, and none comes back from running it (`sanitize_described`). -/

namespace QueryGate

open Text

/-! ## Letter case -/

namespace Source

theorem sameName_self (a : Text) : sameName a a = true := beq_iff_eq.mpr rfl

/-- Names that differ in the case of ASCII letters have one lower case. -/
theorem toLower_eq_of_sameName {a b : Text} (h : sameName a b = true) : toLower a = toLower b := by
  have hfold : a.map asciiLower = b.map asciiLower := beq_iff_eq.mp h
  rw [← toLower_map_asciiLower a, hfold, toLower_map_asciiLower b]

theorem allWord_of_sameName {a b : Text} (h : sameName a b = true) (hb : AllWord b) :
    AllWord a := by
  have hfold : a.map asciiLower = b.map asciiLower := beq_iff_eq.mp h
  intro x hx
  have hmem : asciiLower x ∈ b.map asciiLower := hfold ▸ List.mem_map_of_mem hx
  obtain ⟨y, hy, hxy⟩ := List.mem_map.mp hmem
  rw [← isWord_asciiLower, ← hxy, isWord_asciiLower]
  exact hb y hy

end Source

/-- Letter case makes no difference to what is sensitive. -/
theorem Catalog.isSensitive_eq_of_sameName (c : Catalog) {a b : Text}
    (h : Source.sameName a b = true) : c.isSensitive a = c.isSensitive b := by
  rw [isSensitive, isSensitive, matchingPattern?, matchingPattern?, Source.toLower_eq_of_sameName h]

namespace Sanitizer

open Source Statement Projection

/-! ## The statement -/

theorem isForm_select : IsForm "SELECT".toList "SELECT".toList := by decide

theorem isForm_from : IsForm "FROM".toList "FROM".toList := by decide

/-- The statement over every column of a table. -/
def wholeRows (table : {t : Text // t ≠ [] ∧ AllWord t}) : RowSelection where
  select := ⟨_, isForm_select⟩
  behindSelect := ⟨_, isBlanks_space⟩
  item := .all
  beforeFrom := ⟨_, isBlanks_space.2⟩
  close := ⟨_, isForm_from⟩
  behindFrom := ⟨_, isBlanks_space⟩
  table := table

theorem tight_wholeRows (table : {t : Text // t ≠ [] ∧ AllWord t}) : (wholeRows table).Tight :=
  ⟨trivial, List.cons_ne_nil _ _⟩

/-- What becomes of the statement over every column of a table. -/
theorem sanitize_wholeRows (c : Catalog) (schema : Text) {table : Text} (hne : table ≠ [])
    (hword : AllWord table) :
    let s := Token.selectFrom wildcard table
    let known := Schema.columnsOf schema table
    let kept := known.filter (!c.isSensitive ·)
    (sanitize c s schema).blocked = (known.filter c.isSensitive).map (⟨·⟩) ∧
      (known.filter c.isSensitive = [] → (sanitize c s schema).statement = s) ∧
      (known.filter c.isSensitive ≠ [] → kept ≠ [] → (sanitize c s schema).statement =
        Token.selectFrom (join ", ".toList (kept.map backQuoted)) table) := by
  intro s known kept
  have htight := tight_wholeRows ⟨table, hne, hword⟩
  have htable : table? s = some table := htight.table?_render
  have hspan : span? s = some ⟨[], wildcard, ' ' :: table⟩ :=
    (wholeRows ⟨table, hne, hword⟩).span?_render htight.beforeFrom htight.item.fromApart.1
  have hrequested : requested s = [⟨wildcard, wildcard⟩] :=
    (requested_of_span hspan).trans htight.item.requestedOf_eq
  have hblocked : blockedColumns c s schema = known.filter c.isSensitive :=
    blockedColumns_wholeRow htable hrequested
  have hkept : keptColumns c s schema = kept := keptColumns_wholeRow htable hrequested
  refine ⟨by rw [blocked_of_table htable, hblocked], ?_, ?_⟩
  · intro hnone
    exact statement_of_blocked_eq_nil (hblocked.trans hnone)
  · intro hsome hkeeps
    have hremoved : (sanitize c s schema).blocked ≠ [] := by
      rw [ne_eq, blocked_eq_nil_iff, hblocked]
      exact hsome
    obtain ⟨span, hspan', hstatement⟩ := statement_of_kept hremoved (hkept ▸ hkeeps)
    obtain rfl := Option.some.inj (hspan.symm.trans hspan')
    have hprefix : quantifierPrefix wildcard = [] := by decide
    have hflat : ∀ p front back : Text, [] ++ front ++ ([] ++ p) ++ back ++ ' ' :: table =
        front ++ (p ++ (back ++ ' ' :: table)) := by
      intro p front back
      simp only [List.nil_append, List.append_assoc]
    rw [hstatement, hkept, Statement.Span.withProjection, keptProjection, hprefix, hflat]
    rfl

/-! ## The tables of a database -/

/-- No other table has the name of this one, but for letter case and blanks around it. -/
def NamedAlone (tables : List StoredTable) (t : StoredTable) : Prop :=
  ∀ u ∈ tables, sameName (trim u.name) t.name = true → u = t

/-- A schema text is that of a database without line breaks in its names and types. -/
structure IsDescription (tables : List StoredTable) (name schema : Text) : Prop where
  line : IsLine name
  legible : ∀ t ∈ tables, t.Legible
  describe : Database.describe ⟨some tables⟩ name = .ok schema

/-- The table is listed, and so are its sensitive columns; no column is listed under a name that is
not its own, and one that is not sensitive is listed. -/
structure WellListed (c : Catalog) (t : StoredTable) : Prop where
  shown : t.isInternal = false
  words : ∀ column ∈ t.columns, c.isSensitive column.name = true →
    column.name ≠ [] ∧ AllWord column.name
  own : ∀ column ∈ t.columns, ∀ word ∈ Schema.listedName? column.name, word = column.name
  keeps : ∃ column ∈ t.columns, column.name ≠ [] ∧ AllWord column.name ∧
    c.isSensitive column.name = false

variable {c : Catalog} {tables : List StoredTable} {t : StoredTable}

namespace NamedAlone

/-- The table is found under its name. -/
theorem table?_eq (halone : NamedAlone tables t) (ht : t ∈ tables) (hword : AllWord t.name)
    (hshown : t.isInternal = false) : Database.table? tables t.name = some t := by
  have hlist : ¬ Database.isTableList t.name = true := by
    intro hlist
    obtain ⟨name, hname, hsame⟩ := List.any_eq_true.mp hlist
    have hall : ∀ name ∈ ["sqlite_master".toList, "sqlite_schema".toList],
        StoredTable.isInternal ⟨name, [], []⟩ = true := by decide
    have hinternal := hall name hname
    rw [StoredTable.isInternal, ← beq_iff_eq.mp hsame] at hinternal
    rw [StoredTable.isInternal, hinternal] at hshown
    cases hshown
  rw [Database.table?, if_neg hlist]
  cases hfind : tables.find? fun u => sameName u.name t.name with
  | none => exact absurd (sameName_self t.name) (List.find?_eq_none.mp hfind t ht)
  | some u =>
    have hfound := List.find?_some hfind
    have hsame : sameName u.name t.name = true := hfound
    have htrim := (Trimmed.of_allWord (allWord_of_sameName hsame hword)).trim_eq
    exact congrArg some (halone u (List.mem_of_find?_eq_some hfind) (htrim.symm ▸ hsame))

/-- What is listed under the name of the table is listed of the table. -/
theorem listed_eq (halone : NamedAlone tables t) (ht : t ∈ tables) (hword : AllWord t.name) :
    Schema.listed tables t.name =
      if t.isInternal then [] else t.columns.filterMap fun c => Schema.listedName? c.name := by
  have hsame : ∀ u ∈ Database.shown tables, trim u.name = t.name → u = t := by
    intro u hu htrim
    refine halone u (Database.mem_shown.mp hu).1 ?_
    rw [htrim]
    exact sameName_self _
  rw [Schema.listed]
  cases hfind : (Database.shown tables).find? fun u => trim u.name == t.name with
  | none =>
    have hinternal : t.isInternal = true := by
      refine Bool.not_eq_false _ |>.mp fun hshown => ?_
      have hself := List.find?_eq_none.mp hfind t (Database.mem_shown.mpr ⟨ht, hshown⟩)
      rw [(Trimmed.of_allWord hword).trim_eq, beq_self_eq_true] at hself
      exact hself rfl
    rw [if_pos hinternal]
  | some u =>
    have htrim : trim u.name = t.name := by simpa using List.find?_some hfind
    have hmem := List.mem_of_find?_eq_some hfind
    obtain rfl := hsame u hmem htrim
    rw [if_neg (by simp [(Database.mem_shown.mp hmem).2])]

/-- A column of the table is listed as it is if the table is listed and the name is a word. -/
theorem mem_listed_iff (halone : NamedAlone tables t) (ht : t ∈ tables) (hword : AllWord t.name)
    {column : StoredColumn} (hcolumn : column ∈ t.columns) :
    column.name ∈ Schema.listed tables t.name ↔
      t.isInternal = false ∧ column.name ≠ [] ∧ AllWord column.name := by
  rw [halone.listed_eq ht hword]
  cases t.isInternal with
  | true => simp
  | false =>
    rw [if_neg Bool.false_ne_true, List.mem_filterMap]
    constructor
    · rintro ⟨other, -, hlisted⟩
      exact ⟨rfl, Schema.allWord_of_listedName? hlisted⟩
    · rintro ⟨-, hne, hall⟩
      exact ⟨column, hcolumn, Schema.listedName?_word hne hall⟩

end NamedAlone

/-- What is listed of a well listed table are columns of it. -/
theorem WellListed.listed (h : WellListed c t) (halone : NamedAlone tables t) (ht : t ∈ tables)
    (hword : AllWord t.name) :
    ∀ a ∈ Schema.listed tables t.name, AllWord a ∧ ∃ column ∈ t.columns, a = column.name := by
  rw [halone.listed_eq ht hword, if_neg (by simp [h.shown])]
  intro a ha
  obtain ⟨column, hcolumn, hname⟩ := List.mem_filterMap.mp ha
  exact ⟨(Schema.allWord_of_listedName? hname).2, column, hcolumn, h.own column hcolumn a hname⟩

section Returned

variable {label : Text}

/-- With nothing sensitive in the list, the statement returns nothing sensitive as it is. -/
theorem WellListed.label_of_whole (h : WellListed c t) (halone : NamedAlone tables t)
    (ht : t ∈ tables) (hne : t.name ≠ []) (hword : AllWord t.name)
    (hnone : (Schema.listed tables t.name).filter c.isSensitive = [])
    (hlabel : label ∈ Database.labels ⟨some tables⟩ (Token.selectFrom wildcard t.name)) :
    ∃ column ∈ t.columns, label = column.name ∧ c.isSensitive column.name = false := by
  have htable := halone.table?_eq ht hword h.shown
  obtain ⟨column, hcolumn, hname⟩ := Database.label_of_whole hne hword htable hlabel
  refine ⟨column, hcolumn, hname, Bool.eq_false_iff.mpr fun hsensitive => ?_⟩
  have hlisted := (halone.mem_listed_iff ht hword hcolumn).mpr
    ⟨h.shown, h.words column hcolumn hsensitive⟩
  exact List.filter_eq_nil_iff.mp hnone _ hlisted hsensitive

/-- The kept columns come back and no others. -/
theorem WellListed.label_of_kept (h : WellListed c t) (halone : NamedAlone tables t)
    (ht : t ∈ tables) (hne : t.name ≠ []) (hword : AllWord t.name) {kept : List Text}
    (hkept : kept ≠ [])
    (hall : ∀ a ∈ kept, a ∈ Schema.listed tables t.name ∧ c.isSensitive a = false)
    (hlabel : label ∈ Database.labels ⟨some tables⟩
      (Token.selectFrom (join ", ".toList (kept.map backQuoted)) t.name)) :
    ∃ column ∈ t.columns, label = column.name ∧ c.isSensitive column.name = false := by
  have htable := halone.table?_eq ht hword h.shown
  have hlisted := h.listed halone ht hword
  have hquotes : ∀ a ∈ kept, '`' ∉ a := fun a ha =>
    not_mem_of_allWord (hlisted a (hall a ha).1).1 (by decide)
  have hnames : ∀ a ∈ kept, ∃ column ∈ t.columns, sameName column.name a = true := by
    intro a ha
    obtain ⟨-, column, hcolumn, rfl⟩ := hlisted a (hall a ha).1
    exact ⟨column, hcolumn, sameName_self _⟩
  obtain ⟨column, hcolumn, hname, a, ha, hsame⟩ :=
    Database.label_of_named hkept hquotes hnames hne hword htable hlabel
  refine ⟨column, hcolumn, hname, ?_⟩
  rw [c.isSensitive_eq_of_sameName hsame]
  exact (hall a ha).2

end Returned

namespace Sample

/-- A user table whose name begins as those of the engine do. -/
def hidden : StoredTable where
  name := "sqliteusers".toList
  columns := [⟨"id".toList, "INTEGER".toList, false, true⟩,
    ⟨"password".toList, "TEXT".toList, false, false⟩]
  rows := [⟨1, [.int 1, .str "hunter2".toList]⟩]

/-- A user table with a column whose name is no word. -/
def spaced : StoredTable where
  name := "users".toList
  columns := [⟨"id".toList, "INTEGER".toList, false, true⟩,
    ⟨"user password".toList, "TEXT".toList, false, false⟩]
  rows := [⟨1, [.int 1, .str "hunter2".toList]⟩]

/-- A user table that is listed well. -/
def plain : StoredTable where
  name := "users".toList
  columns := [⟨"id".toList, "INTEGER".toList, false, true⟩,
    ⟨"full name".toList, "TEXT".toList, true, false⟩,
    ⟨"password".toList, "TEXT".toList, false, false⟩]
  rows := [⟨1, [.int 1, .str "Ada".toList, .str "hunter2".toList]⟩]

/-- The schema text of a database of one table. -/
def schemaOf (t : StoredTable) : Text :=
  ((Database.describe ⟨some [t]⟩ "shop".toList).toOption).getD []

end Sample

/-- **What a whole row of a described table loses.**  For a database without line breaks in its names
and types, and a table whose name is a word: from `SELECT * FROM` this table exactly the sensitive
ones of the listed columns are removed.  Let no other table have the name, whatever the letter case
and the blanks around it.  Then all sensitive columns of the table are removed if and only if it has
none, or it is listed and they are named by words; and if the table is well listed, what comes back
from the new statement are columns of the table that are not sensitive. -/
theorem sanitize_described (c : Catalog) {tables : List StoredTable} {name schema : Text}
    (hschema : IsDescription tables name schema) {t : StoredTable} (ht : t ∈ tables)
    (hne : t.name ≠ []) (hword : AllWord t.name) :
    let out := sanitize c ("SELECT * FROM ".toList ++ t.name) schema
    out.blocked = ((Schema.listed tables t.name).filter c.isSensitive).map (⟨·⟩) ∧
      (NamedAlone tables t →
        ((∀ column ∈ t.columns, c.isSensitive column.name = true → ⟨column.name⟩ ∈ out.blocked) ↔
          ∀ column ∈ t.columns, c.isSensitive column.name = true →
            t.isInternal = false ∧ column.name ≠ [] ∧ AllWord column.name) ∧
        (WellListed c t → ∀ label ∈ Database.labels ⟨some tables⟩ out.statement,
          ∃ column ∈ t.columns, label = column.name ∧ c.isSensitive column.name = false)) := by
  intro out
  have hknown : Schema.columnsOf schema t.name = Schema.listed tables t.name :=
    Schema.columnsOf_describe hschema.line hschema.legible hschema.describe hne hword
  obtain ⟨hblocked, hsame, hcut⟩ := sanitize_wholeRows c schema hne hword
  rw [hknown] at hblocked hsame hcut
  have hout : out.blocked =
      ((Schema.listed tables t.name).filter c.isSensitive).map (⟨·⟩) := hblocked
  refine ⟨hout, fun halone => ⟨?_, ?_⟩⟩
  · refine forall₂_congr fun column hcolumn => forall_congr' fun hsensitive => ?_
    rw [← halone.mem_listed_iff ht hword hcolumn, hout, List.mem_map]
    constructor
    · rintro ⟨removed, hremoved, heq⟩
      exact BlockedColumn.mk.inj heq ▸ (List.mem_filter.mp hremoved).1
    · intro hlisted
      exact ⟨column.name, List.mem_filter.mpr ⟨hlisted, hsensitive⟩, rfl⟩
  · intro hwell label hlabel
    by_cases hnone : (Schema.listed tables t.name).filter c.isSensitive = []
    · have hstatement : out.statement = Token.selectFrom wildcard t.name := hsame hnone
      exact hwell.label_of_whole halone ht hne hword hnone (hstatement ▸ hlabel)
    · have hkept : (Schema.listed tables t.name).filter (!c.isSensitive ·) ≠ [] := by
        obtain ⟨column, hcolumn, hcne, hcword, hplain⟩ := hwell.keeps
        have hmem := (halone.mem_listed_iff ht hword hcolumn).mpr ⟨hwell.shown, hcne, hcword⟩
        exact List.ne_nil_of_mem (List.mem_filter.mpr ⟨hmem, by simp [hplain]⟩)
      have hstatement := hcut hnone hkept
      refine hwell.label_of_kept halone ht hne hword hkept ?_ (hstatement ▸ hlabel)
      intro a ha
      obtain ⟨hlisted, hplain⟩ := List.mem_filter.mp ha
      exact ⟨hlisted, by simpa using hplain⟩

/-- The one word that is sensitive is removed, and one column comes back; the one with a blank in its
name is lost. -/
theorem sanitize_described_plain :
    let out := sanitize Catalog.standard ("SELECT * FROM ".toList ++ Sample.plain.name)
      (Sample.schemaOf Sample.plain)
    IsDescription [Sample.plain] "shop".toList (Sample.schemaOf Sample.plain) ∧
      NamedAlone [Sample.plain] Sample.plain ∧ WellListed Catalog.standard Sample.plain ∧
      Database.labels ⟨some [Sample.plain]⟩ out.statement = ["id".toList] ∧
      ⟨"password".toList⟩ ∈ out.blocked ∧
      ∀ label ∈ Database.labels ⟨some [Sample.plain]⟩ out.statement,
        ∃ column ∈ Sample.plain.columns, label = column.name ∧
          Catalog.standard.isSensitive column.name = false := by
  intro out
  have hdescribed : IsDescription [Sample.plain] "shop".toList (Sample.schemaOf Sample.plain) :=
    ⟨by decide, List.forall_mem_singleton.mpr ⟨by decide, by decide⟩, rfl⟩
  have halone : NamedAlone [Sample.plain] Sample.plain := fun u hu _ => List.mem_singleton.mp hu
  have hwell : WellListed Catalog.standard Sample.plain :=
    ⟨by decide, by decide, by decide, by decide⟩
  obtain ⟨-, hall⟩ := sanitize_described Catalog.standard hdescribed
    (List.mem_singleton_self Sample.plain) (by decide) (by decide)
  obtain ⟨hremoved, hreturned⟩ := hall halone
  refine ⟨hdescribed, halone, hwell, by decide +kernel, ?_, hreturned hwell⟩
  have hconditions : ∀ column ∈ Sample.plain.columns,
      Catalog.standard.isSensitive column.name = true →
        Sample.plain.isInternal = false ∧ column.name ≠ [] ∧ AllWord column.name := by
    decide +kernel
  exact hremoved.mpr hconditions ⟨"password".toList, "TEXT".toList, false, false⟩ (by decide)
    (by decide +kernel)

/-- A user table of which a sensitive column comes back from a statement that is left as it is. -/
def Leaks (t : StoredTable) : Prop :=
  let s := "SELECT * FROM ".toList ++ t.name
  beginsWith "sqlite_".toList (foldName t.name) = false ∧ t.name ≠ [] ∧ AllWord t.name ∧
    StatementRules.standard.judge s = .safe ∧
    (sanitize Catalog.standard s (Sample.schemaOf t)).blocked = [] ∧
    (sanitize Catalog.standard s (Sample.schemaOf t)).statement = s ∧
    ∃ label ∈ Database.labels ⟨some [t]⟩ s, Catalog.standard.isSensitive label = true

instance (t : StoredTable) : Decidable (Leaks t) := inferInstanceAs (Decidable (_ ∧ _))

/-- The table is left out of the list, or the name of the column is no word. -/
theorem described_leaks : Leaks Sample.hidden ∧ Leaks Sample.spaced := by
  decide +kernel

end Sanitizer

end QueryGate
