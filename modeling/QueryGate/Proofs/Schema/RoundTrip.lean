import QueryGate.Proofs.Schema.Described

/-! # Schema texts that say everything

What a database writes about a column is read back as the column was declared, if its name is a word
and its type stands on one line without blanks at its ends (`column?_entry_eq`).  The type may hold
parentheses in any number and order: it reaches to the last closing one of its line, and none stands
in the attributes (`splitAtLastParen?_append`).  A table is read back if its name stands on one line
without blanks at its ends (`described?_eq`).

So the schema text of such tables is read as exactly these tables, whatever their order
(`tables_read_back`). -/

namespace QueryGate

open Text

/-! ## What is declared -/

/-- The type that a column is listed with. -/
def StoredColumn.shownType (c : StoredColumn) : Text :=
  if c.type.isEmpty then "TEXT".toList else c.type

/-- The column as a schema text should declare it. -/
def StoredColumn.declared (c : StoredColumn) : Column :=
  ⟨c.name, c.shownType, join ", ".toList c.attributes⟩

/-- The table as a schema text should declare it. -/
def StoredTable.declared (t : StoredTable) : Table := ⟨t.name, t.columns.map (·.declared)⟩

/-- The name is a word, and the type stands on one line without blanks at its ends. -/
structure StoredColumn.Plain (c : StoredColumn) : Prop where
  name_ne_nil : c.name ≠ []
  name_word : AllWord c.name
  type_line : IsLine c.type
  type_trimmed : Trimmed c.type

/-- The name stands on one line without blanks at its ends, and the columns are plain. -/
structure StoredTable.Plain (t : StoredTable) : Prop where
  name_ne_nil : t.name ≠ []
  name_line : IsLine t.name
  name_trimmed : Trimmed t.name
  columns : ∀ c ∈ t.columns, c.Plain

namespace Text

theorem isBlank_of_isLineBreak {c : Char} (h : isLineBreak c = true) : isBlank c = true := by
  simp only [isLineBreak, Bool.or_eq_true, Bool.and_eq_true, decide_eq_true_eq, beq_iff_eq] at h
  unfold isBlank
  split
  · rename_i hascii
    have hlow : c.toNat < 0x80 := of_decide_eq_true hascii
    simp only [Bool.or_eq_true, Bool.and_eq_true, decide_eq_true_eq]
    omega
  · rename_i hascii
    have hhigh : ¬ c.toNat < 0x80 := by simpa [isAscii] using hascii
    have hcases : c.toNat = 0x85 ∨ c.toNat = 0x2028 ∨ c.toNat = 0x2029 := by omega
    rcases hcases with hc | hc | hc <;> simp [inRanges, blankRanges, hc]

/-- A word has no line breaks. -/
theorem IsLine.of_allWord {s : Text} (h : AllWord s) : IsLine s := by
  intro c hc
  rw [Bool.eq_false_iff]
  intro hbreak
  have hword := isBlank_of_isWord (h c hc)
  rw [isBlank_of_isLineBreak hbreak] at hword
  cases hword

end Text

namespace StoredColumn

variable {c : StoredColumn}

theorem Plain.shownType_trimmed (h : c.Plain) : Trimmed c.shownType := by
  unfold shownType
  split
  · exact ⟨by decide, by decide⟩
  · exact h.type_trimmed

/-- The attributes of a column have no closing parenthesis and no blanks at their ends. -/
theorem attributes_text (c : StoredColumn) :
    ')' ∉ join ", ".toList c.attributes ∧ Trimmed (join ", ".toList c.attributes) := by
  cases hkey : c.primaryKey <;> cases hnull : c.notNull <;>
    simp only [attributes, hkey, hnull] <;> exact ⟨by decide, by decide, by decide⟩

end StoredColumn

theorem StoredTable.Plain.legible {t : StoredTable} (h : t.Plain) : t.Legible where
  name := h.name_line
  columns := fun c hc => ⟨.of_allWord (h.columns c hc).name_word, (h.columns c hc).type_line⟩

namespace Schema

/-! ## What is read back -/

/-- The last closing parenthesis is the one behind which there is none. -/
theorem splitAtLastParen?_append {back : Text} (h : ')' ∉ back) (front : Text) :
    splitAtLastParen? (front ++ ')' :: back) = some (front, back) := by
  have hother : ∀ c ∈ back.reverse, decide (c ≠ ')') = true := by
    intro c hc
    have hne : c ≠ ')' := by
      rintro rfl
      exact h (List.mem_reverse.mp hc)
    exact decide_eq_true hne
  have hreverse : (front ++ ')' :: back).reverse = back.reverse ++ ')' :: front.reverse := by
    simp
  rw [splitAtLastParen?, hreverse, List.dropWhile_append_of_pos hother,
    List.takeWhile_append_of_pos hother]
  simp

/-- The line of a plain column declares the column. -/
theorem column?_entry_eq {c : StoredColumn} (h : c.Plain) : column? c.entry = some c.declared := by
  obtain ⟨hparen, htrimmed⟩ := c.attributes_text
  generalize hattributes : join ", ".toList c.attributes = attributes at hparen htrimmed
  have hentry : c.entry = [' ', ' ', '-', ' '] ++
      (c.name ++ ' ' :: '(' :: (c.shownType ++ ')' :: ' ' :: attributes)) := by
    rw [StoredColumn.entry, hattributes]
    rfl
  -- the name begins behind the hyphen and the blanks
  have hname : (dropLead? ['-'] (trimLeft c.entry)).bind dropBlanks? =
      some (c.name ++ ' ' :: '(' :: (c.shownType ++ ')' :: ' ' :: attributes)) := by
    have hfirst : (c.name ++ ' ' :: '(' :: (c.shownType ++ ')' :: ' ' :: attributes)).head?.any
        isBlank = false := by
      rw [List.head?_append_of_ne_nil _ h.name_ne_nil]
      exact (Trimmed.of_allWord h.name_word).first
    rw [hentry]
    exact congrArg some (trimLeft_eq_self hfirst)
  obtain ⟨hword, hbehind⟩ := takeWhile_isWord_append h.name_word
    (s := ' ' :: '(' :: (c.shownType ++ ')' :: ' ' :: attributes)) (by decide : isWord ' ' = false)
  have hinner : (dropBlanks? (' ' :: '(' :: (c.shownType ++ ')' :: ' ' :: attributes))).bind
      (dropLead? ['(']) = some (c.shownType ++ ')' :: ' ' :: attributes) := rfl
  have hback : ')' ∉ ' ' :: attributes := by simpa using hparen
  have hblank : AllBlank [' '] := by decide
  have hattributesTrim : trim (' ' :: attributes) = attributes :=
    (trim_append_left hblank attributes).trans htrimmed.trim_eq
  simp only [column?, hname, hword, hbehind, List.isEmpty_eq_false_iff.mpr h.name_ne_nil,
    Bool.false_eq_true, if_false, hinner, splitAtLastParen?_append hback, Option.map_some,
    h.shownType_trimmed.trim_eq, hattributesTrim, StoredColumn.declared, hattributes]

/-- A header gives back a name without blanks at its ends. -/
theorem headerName?_of_trimmed {name : Text} (hne : name ≠ []) (h : Trimmed name) :
    headerName? (' ' :: name) = some name := by
  have hdrop : dropBlanks? (' ' :: name) = some name :=
    dropBlanks?_eq_some_iff.mpr ⟨[' '], by decide, rfl, h.first⟩
  obtain ⟨c, rest, rfl⟩ := List.exists_cons_of_ne_nil hne
  simp only [headerName?, hdrop, trimRight_eq_self h.last]

/-- The block of a plain table declares the table. -/
theorem described?_eq {t : StoredTable} (h : t.Plain) : described? t = some t.declared := by
  have hcolumns : t.columns.filterMap (column? ·.entry) = t.columns.map (·.declared) := by
    rw [← List.filterMap_eq_map]
    exact List.filterMap_congr fun c hc => column?_entry_eq (h.columns c hc)
  rw [described?, headerName?_of_trimmed h.name_ne_nil h.name_trimmed, hcolumns]
  rfl

/-- **Every table is read back.**  The schema text of plain tables, in any order and under a name on
one line, is read as these tables in their order, each with its columns and each column with its
type and its attributes.  What a database writes about itself is the schema text of the tables that
it shows. -/
theorem tables_read_back {name : Text} {tables : List StoredTable} (hname : IsLine name)
    (htables : ∀ t ∈ tables, t.Plain) :
    parse (Database.schemaText name tables) = tables.map (·.declared) ∧
      ∃ schema, Database.describe ⟨some tables⟩ name = .ok schema ∧
        parse schema = (Database.shown tables).map (·.declared) := by
  have hread : ∀ ts : List StoredTable, (∀ t ∈ ts, t.Plain) →
      parse (Database.schemaText name ts) = ts.map (·.declared) := by
    intro ts hts
    rw [parse_schemaText hname fun t ht => (hts t ht).legible, ← List.filterMap_eq_map]
    exact List.filterMap_congr fun t ht => described?_eq (hts t ht)
  refine ⟨hread tables htables, _, Database.describe_eq tables name, hread _ fun t ht => ?_⟩
  exact htables t (Database.mem_shown.mp ht).1

end Schema

/-! ## A database to read back -/

namespace Sample

/-- A table whose types have parentheses in and out of place. -/
def prices : StoredTable where
  name := "price list".toList
  columns := [
    ⟨"id".toList, [], true, true⟩,
    ⟨"amount".toList, "DECIMAL(10,(2))".toList, false, false⟩,
    ⟨"note".toList, ") odd ((".toList, true, false⟩]
  rows := []

end Sample

namespace Schema

theorem tables_read_back_prices :
    IsLine "shop".toList ∧ (∀ t ∈ [Sample.prices, Sample.prices], t.Plain) ∧
      parse (Database.schemaText "shop".toList [Sample.prices, Sample.prices]) =
        [⟨"price list".toList, [
          ⟨"id".toList, "TEXT".toList, "PRIMARY KEY, NOT NULL".toList⟩,
          ⟨"amount".toList, "DECIMAL(10,(2))".toList, []⟩,
          ⟨"note".toList, ") odd ((".toList, "NOT NULL".toList⟩]⟩,
        Sample.prices.declared] := by
  have hname : IsLine "shop".toList := by decide
  have hcolumns : ∀ c ∈ Sample.prices.columns, c.Plain := by
    intro c hc
    have hplain : c.name ≠ [] ∧ AllWord c.name ∧ IsLine c.type ∧
        c.type.head?.any isBlank = false ∧ c.type.getLast?.any isBlank = false := by
      revert c
      decide
    obtain ⟨hne, hword, hline, hfirst, hlast⟩ := hplain
    exact ⟨hne, hword, hline, hfirst, hlast⟩
  have hplain : Sample.prices.Plain := ⟨by decide, by decide, ⟨by decide, by decide⟩, hcolumns⟩
  have htables : ∀ t ∈ [Sample.prices, Sample.prices], t.Plain := by
    intro t ht
    have hsame : t = Sample.prices := by simpa using ht
    exact hsame ▸ hplain
  exact ⟨hname, htables, (tables_read_back hname htables).1⟩

end Schema

end QueryGate
