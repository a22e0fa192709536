import QueryGate.Proofs.Text.Occurrence
import QueryGate.Proofs.Text.Words
import QueryGate.Schema
import QueryGate.Source.Database

/-! # The schema text of a database, read back

A database lists its tables line by line, and what reads schema texts does not always find what was
listed.  Without line breaks in the names and types, the text has the lines that it was made of
(`lines_unlines`), and each table is found again under its trimmed name (`parse_describe`).  A
column is found if its name is a word.  Of other names at most the word in front is found, and that
only if blanks and an opening parenthesis follow it (`listedName?`).

So the columns of a word are those of the first listed table whose trimmed name it is
(`columnsOf_describe`). -/

namespace QueryGate

open Text

namespace Text

/-! ## Lines -/

/-- A text without line breaks. -/
def IsLine (s : Text) : Prop := ∀ c ∈ s, isLineBreak c = false

instance (s : Text) : Decidable (IsLine s) :=
  decidable_of_iff (s.all (!isLineBreak ·) = true) (by simp [IsLine])

theorem isLine_append {s t : Text} : IsLine (s ++ t) ↔ IsLine s ∧ IsLine t :=
  List.forall_mem_append

/-- A text without line breaks is added to the current line. -/
theorem linesFrom_append {s : Text} (hs : IsLine s) (line rest : Text) :
    linesFrom false line (s ++ rest) = linesFrom false (s.reverse ++ line) rest := by
  induction s generalizing line with
  | nil => rfl
  | cons c s ih =>
    obtain ⟨hc, hs⟩ := List.forall_mem_cons.mp hs
    rw [List.cons_append, linesFrom, Bool.false_and, if_neg Bool.false_ne_true, hc,
      if_neg Bool.false_ne_true, ih hs, List.reverse_cons, List.append_assoc,
      List.singleton_append]

theorem lines_line {s : Text} (hs : IsLine s) (rest : Text) :
    lines (s ++ '\n' :: rest) = s :: lines rest := by
  have hbreak : isLineBreak '\n' = true := by decide
  rw [lines, linesFrom_append hs, linesFrom, Bool.false_and, if_neg Bool.false_ne_true,
    if_pos hbreak, List.append_nil, List.reverse_reverse]
  rfl

/-- Lines with a line feed behind each of them. -/
def unlines (ls : List Text) : Text := ls.flatMap (· ++ ['\n'])

theorem unlines_append (ls ls' : List Text) : unlines (ls ++ ls') = unlines ls ++ unlines ls' :=
  List.flatMap_append

theorem lines_unlines {ls : List Text} (h : ∀ l ∈ ls, IsLine l) : lines (unlines ls) = ls := by
  induction ls with
  | nil => rfl
  | cons l ls ih =>
    obtain ⟨hl, hls⟩ := List.forall_mem_cons.mp h
    have htext : unlines (l :: ls) = l ++ '\n' :: unlines ls := by
      rw [unlines, List.flatMap_cons, List.append_assoc, List.singleton_append, unlines]
    rw [htext, lines_line hl, ih hls]

end Text

/-! ## What a database lists -/

/-- The line of a column without its line feed. -/
def StoredColumn.entry (c : StoredColumn) : Text :=
  "  - ".toList ++ (c.name ++ (" (".toList ++ ((if c.type.isEmpty then "TEXT".toList else c.type)
    ++ (") ".toList ++ join ", ".toList c.attributes))))

theorem StoredColumn.line_eq (c : StoredColumn) : c.line = c.entry ++ ['\n'] := by
  have hassoc : ∀ a b d e f g : Text,
      a ++ b ++ d ++ e ++ f ++ g ++ ['\n'] = a ++ (b ++ (d ++ (e ++ (f ++ g)))) ++ ['\n'] := by
    intro a b d e f g
    simp only [List.append_assoc]
  exact hassoc _ _ _ _ _ _

/-- The line that opens the block of a table. -/
def StoredTable.heading (t : StoredTable) : Text := "Table: ".toList ++ t.name

/-- The lines of a table. -/
def StoredTable.blockLines (t : StoredTable) : List Text :=
  [] :: t.heading :: t.columns.map (·.entry)

theorem StoredTable.block_eq (t : StoredTable) : t.block = unlines t.blockLines := by
  have hcolumns : t.columns.flatMap (·.line) = unlines (t.columns.map (·.entry)) := by
    rw [unlines, List.flatMap_map]
    simp only [StoredColumn.line_eq]
  have hflat : ∀ lead name rest : Text, '\n' :: lead ++ name ++ '\n' :: rest =
      [] ++ ['\n'] ++ (lead ++ name ++ ['\n'] ++ rest) := by
    intro lead name rest
    simp only [List.nil_append, List.cons_append, List.append_assoc]
  rw [StoredTable.blockLines, unlines, List.flatMap_cons, List.flatMap_cons, ← unlines, ← hcolumns]
  exact hflat _ _ _

/-- Neither the name of the table nor those of its columns and types have line breaks. -/
structure StoredTable.Legible (t : StoredTable) : Prop where
  name : IsLine t.name
  columns : ∀ c ∈ t.columns, IsLine c.name ∧ IsLine c.type

theorem StoredColumn.isLine_entry {c : StoredColumn} (hname : IsLine c.name)
    (htype : IsLine c.type) : IsLine c.entry := by
  have hattributes : IsLine (join ", ".toList c.attributes) := by
    cases hkey : c.primaryKey <;> cases hnull : c.notNull <;>
      simp only [StoredColumn.attributes, hkey, hnull] <;> decide
  have hshown : IsLine (if c.type.isEmpty then "TEXT".toList else c.type) := by
    split
    · decide
    · exact htype
  refine isLine_append.mpr ⟨by decide, isLine_append.mpr ⟨hname, ?_⟩⟩
  exact isLine_append.mpr ⟨by decide, isLine_append.mpr ⟨hshown,
    isLine_append.mpr ⟨by decide, hattributes⟩⟩⟩

theorem StoredTable.Legible.isLine {t : StoredTable} (h : t.Legible) :
    ∀ l ∈ t.blockLines, IsLine l := by
  refine List.forall_mem_cons.mpr ⟨by decide, List.forall_mem_cons.mpr ⟨?_, ?_⟩⟩
  · exact isLine_append.mpr ⟨by decide, h.name⟩
  · intro l hl
    obtain ⟨c, hc, rfl⟩ := List.mem_map.mp hl
    obtain ⟨hname, htype⟩ := h.columns c hc
    exact StoredColumn.isLine_entry hname htype

/-- The tables that are listed, by name. -/
def Database.shown (tables : List StoredTable) : List StoredTable :=
  (tables.filter fun t => !t.isInternal).mergeSort fun a b => Text.le a.name b.name

theorem Database.mem_shown {tables : List StoredTable} {t : StoredTable} :
    t ∈ Database.shown tables ↔ t ∈ tables ∧ t.isInternal = false := by
  simp [Database.shown]

/-- The lines in front of the tables. -/
def Database.frontLines (name : Text) : List Text :=
  ["Database: ".toList ++ name, [], "Tables:".toList]

/-- The schema text of some tables, in the order in which they are given. -/
def Database.schemaText (name : Text) (ts : List StoredTable) : Text :=
  "Database: ".toList ++ name ++ "\n\nTables:\n".toList ++ ts.flatMap (·.block)

theorem Database.describe_eq (tables : List StoredTable) (name : Text) :
    Database.describe ⟨some tables⟩ name = .ok (schemaText name (shown tables)) := by
  unfold schemaText shown
  rfl

theorem Database.schemaText_eq (name : Text) (ts : List StoredTable) :
    schemaText name ts = unlines (frontLines name ++ ts.flatMap (·.blockLines)) := by
  have hblocks : ts.flatMap (·.block) = unlines (ts.flatMap (·.blockLines)) := by
    rw [unlines, List.flatMap_assoc]
    simp only [StoredTable.block_eq, unlines]
  have hfront : "Database: ".toList ++ name ++ "\n\nTables:\n".toList =
      unlines (frontLines name) := by
    rw [List.append_assoc]
    simp only [unlines, frontLines, List.flatMap_cons, List.flatMap_nil, List.append_assoc]
    rfl
  unfold schemaText
  rw [unlines_append, ← hblocks, ← hfront]

namespace Schema

/-! ## What is read of a table -/

theorem header?_heading (t : StoredTable) : header? t.heading = headerName? (' ' :: t.name) := by
  have htext : t.heading = "Table:".toList ++ ' ' :: t.name := rfl
  rw [header?, htext, dropLead?_append]

/-- The name in a header is a given word if it is that word but for blanks around it. -/
theorem headerName?_eq_some_iff {name word : Text} (hne : word ≠ []) (hword : AllWord word) :
    headerName? (' ' :: name) = some word ↔ trim name = word := by
  have hspace : isBlank ' ' = true := by decide
  rw [headerName?, dropBlanks?, if_pos hspace]
  cases hname : trimLeft name with
  | nil =>
    -- a blank name is shown by its last blank, which is no word
    have hblank : AllBlank (' ' :: name) :=
      List.forall_mem_cons.mpr ⟨hspace, List.dropWhile_eq_nil_iff.mp hname⟩
    constructor
    · intro h
      simp only at h
      split at h
      · obtain ⟨c, hc, rfl⟩ := Option.map_eq_some_iff.mp h
        have hcword := isBlank_of_isWord (hword c List.mem_cons_self)
        rw [hblank c (List.mem_of_getLast? hc)] at hcword
        cases hcword
      · cases h
    · intro h
      rw [trim, hname] at h
      exact absurd h.symm hne
  | cons c rest => rw [trim, hname, Option.some.injEq]

theorem header?_entry (c : StoredColumn) : header? c.entry = none := by
  have hspace : ∀ s : Text, header? (' ' :: s) = none := fun _ => rfl
  exact hspace _

theorem trim_entry_ne_nil (c : StoredColumn) : (trim c.entry).isEmpty = false := by
  have hmem : '-' ∈ trim c.entry :=
    mem_trim (List.mem_append_left _ (by decide)) (by decide)
  exact List.isEmpty_eq_false_iff.mpr (List.ne_nil_of_mem hmem)

/-! ## What is read of a column -/

/-- The name under which a column is found: the word that its name begins with, unless something
else follows than blanks, or blanks and an opening parenthesis. -/
def listedName? (name : Text) : Option Text :=
  let word := (trimLeft name).takeWhile isWord
  let behind := (trimLeft name).dropWhile isWord
  if word.isEmpty then none
  else if behind.all isBlank || (dropBlanks? behind).any (beginsWith ['(']) then some word
  else none

/-- A word is found as it is. -/
theorem listedName?_word {name : Text} (hne : name ≠ []) (hword : AllWord name) :
    listedName? name = some name := by
  have hfirst := (Trimmed.of_allWord hword).first
  have hsplit := takeWhile_isWord_append (s := []) hword rfl
  rw [List.append_nil] at hsplit
  simp [listedName?, trimLeft_eq_self hfirst, hsplit, hne]

/-- What is found is a word. -/
theorem allWord_of_listedName? {name word : Text} (h : listedName? name = some word) :
    word ≠ [] ∧ AllWord word := by
  simp only [listedName?] at h
  split at h
  · cases h
  · rename_i hne
    split at h
    · obtain rfl := Option.some.inj h
      exact ⟨fun hnil => hne (List.isEmpty_iff.mpr hnil), fun c hc => List.mem_takeWhile_imp hc⟩
    · cases h

theorem isSome_splitAtLastParen? {s : Text} (h : ')' ∈ s) : (splitAtLastParen? s).isSome = true := by
  have hne : s.reverse.dropWhile (· ≠ ')') ≠ [] := by
    intro hnil
    have hall := List.dropWhile_eq_nil_iff.mp hnil ')' (List.mem_reverse.mpr h)
    simp at hall
  obtain ⟨c, back, hback⟩ := List.exists_cons_of_ne_nil hne
  rw [splitAtLastParen?, hback]
  rfl

/-- Behind a name, the opening parenthesis of the type is the first unless the name has one. -/
theorem behindName_eq (behind tail : Text) :
    (dropBlanks? (behind ++ ' ' :: '(' :: tail)).bind (dropLead? ['(']) =
      if behind.all isBlank then some tail
      else ((dropBlanks? behind).bind (dropLead? ['('])).map (· ++ ' ' :: '(' :: tail) := by
  have hspace : isBlank ' ' = true := by decide
  have hparen : isBlank '(' = false := by decide
  have htail : trimLeft ('(' :: tail) = '(' :: tail := trimLeft_eq_self (by simpa using hparen)
  by_cases hblank : AllBlank behind
  · have hdrop : dropBlanks? (behind ++ ' ' :: '(' :: tail) = some ('(' :: tail) := by
      refine dropBlanks?_eq_some_iff.mpr ⟨behind ++ [' '], ⟨by simp, ?_⟩, by simp, by simpa⟩
      exact List.forall_mem_append.mpr ⟨hblank, by simpa using hspace⟩
    rw [hdrop, if_pos (List.all_eq_true.mpr hblank)]
    rfl
  · rw [if_neg (mt List.all_eq_true.mp hblank)]
    cases behind with
    | nil => exact absurd (by simp [AllBlank]) hblank
    | cons c behind =>
      simp only [List.cons_append, dropBlanks?]
      split
      · rename_i hc
        have hbehind : ¬ AllBlank behind := fun hall =>
          hblank (List.forall_mem_cons.mpr ⟨hc, hall⟩)
        have hne : trimLeft behind ≠ [] := fun hnil => hbehind (List.dropWhile_eq_nil_iff.mp hnil)
        obtain ⟨d, rest, hrest⟩ := List.exists_cons_of_ne_nil hne
        rw [trimLeft_append_of_not_blank hbehind, hrest, Option.bind_some, Option.bind_some,
          List.cons_append]
        by_cases hd : '(' = d <;> simp [dropLead?, hd]
      · rfl

/-- The word that a text begins with is the same with a blank and more behind it. -/
theorem leadingWord_append (s more : Text) :
    (s ++ ' ' :: more).takeWhile isWord = s.takeWhile isWord ∧
      (s ++ ' ' :: more).dropWhile isWord = s.dropWhile isWord ++ ' ' :: more := by
  have hword : AllWord (s.takeWhile isWord) := fun c hc => List.mem_takeWhile_imp hc
  have hends : (s.dropWhile isWord ++ ' ' :: more).head?.any isWord = false := by
    cases hdrop : s.dropWhile isWord with
    | nil => exact (by decide : isWord ' ' = false)
    | cons c rest => simpa [hdrop] using List.head?_dropWhile_not isWord s
  have hsplit := takeWhile_isWord_append hword hends
  rwa [← List.append_assoc, List.takeWhile_append_dropWhile] at hsplit

/-- What follows the name of a column in its line. -/
theorem entry_eq (c : StoredColumn) :
    ∃ tail, ')' ∈ tail ∧ c.entry = [' ', ' ', '-', ' '] ++ (c.name ++ ' ' :: '(' :: tail) :=
  ⟨(if c.type.isEmpty then "TEXT".toList else c.type) ++ (") ".toList ++ join ", ".toList c.attributes),
    List.mem_append_right _ (List.mem_append_left _ (by decide)), rfl⟩

/-- A column is found under the name that its line lists. -/
theorem column?_entry (c : StoredColumn) : (column? c.entry).map (·.name) = listedName? c.name := by
  obtain ⟨tail, htail, hentry⟩ := entry_eq c
  have hfound : ∀ (word : Text) {inner : Text}, ')' ∈ inner →
      ((splitAtLastParen? inner).map fun p =>
        (⟨word, trim p.1, trim p.2⟩ : Column)).map (·.name) = some word := by
    intro word inner hinner
    obtain ⟨p, hp⟩ := Option.isSome_iff_exists.mp (isSome_splitAtLastParen? hinner)
    rw [hp]
    rfl
  have hline : (dropLead? ['-'] (trimLeft c.entry)).bind dropBlanks? =
      some (trimLeft (c.name ++ ' ' :: '(' :: tail)) := by
    rw [hentry]
    rfl
  simp only [column?, hline]
  by_cases hblank : AllBlank c.name
  · have hnil : trimLeft c.name = [] := List.dropWhile_eq_nil_iff.mpr hblank
    have hrest : trimLeft (c.name ++ ' ' :: '(' :: tail) = '(' :: tail := by
      rw [trimLeft_append hblank]
      rfl
    have hparen : isWord '(' = false := by decide
    simp [hrest, hparen, listedName?, hnil]
  · -- the first word of the line is that of the name
    obtain ⟨htake, hdrop⟩ := leadingWord_append (trimLeft c.name) ('(' :: tail)
    rw [trimLeft_append_of_not_blank hblank, htake, hdrop, behindName_eq, listedName?]
    generalize (trimLeft c.name).takeWhile isWord = word, (trimLeft c.name).dropWhile isWord = behind
    split
    · rfl
    · by_cases hbehind : behind.all isBlank = true
      · simp [hbehind, hfound word htail]
      · rw [if_neg hbehind, Bool.not_eq_true _ |>.mp hbehind, Bool.false_or]
        cases hrest : dropBlanks? behind with
        | none => rfl
        | some rest =>
          rw [Option.bind_some, Option.any_some, beginsWith]
          cases dropLead? ['('] rest with
          | none => rfl
          | some inner => exact hfound word (List.mem_append_right _ (by simp [htail]))

/-! ## What is read of a database -/

/-- The table that is read from the block of a table, unless its name is empty. -/
def described? (t : StoredTable) : Option Table :=
  (headerName? (' ' :: t.name)).map fun name => ⟨name, t.columns.filterMap (column? ·.entry)⟩

theorem tablesFrom_entries (columns : List StoredColumn) (table : Table) (rest : List Text) :
    tablesFrom (some table) (columns.map (·.entry) ++ rest) =
      tablesFrom (some ⟨table.name, table.columns ++ columns.filterMap (column? ·.entry)⟩) rest := by
  induction columns generalizing table with
  | nil => simp
  | cons c columns ih =>
    rw [List.map_cons, List.cons_append, tablesFrom, header?_entry]
    simp only [trim_entry_ne_nil, Bool.false_eq_true, if_false]
    rw [ih]
    cases hc : column? c.entry <;> simp [hc]

/-- Outside blocks, the lines of columns are passed over. -/
theorem tablesFrom_none_entries (columns : List StoredColumn) (rest : List Text) :
    tablesFrom none (columns.map (·.entry) ++ rest) = tablesFrom none rest := by
  induction columns with
  | nil => rfl
  | cons c columns ih => rw [List.map_cons, List.cons_append, tablesFrom, header?_entry, ih]

theorem tablesFrom_block (current : Option Table) (t : StoredTable) (rest : List Text) :
    tablesFrom current (t.blockLines ++ rest) = current.toList ++ tablesFrom (described? t) rest := by
  -- the empty line in front closes the block that is open
  have hclose : tablesFrom current (t.blockLines ++ rest) =
      current.toList ++ tablesFrom none (t.heading :: (t.columns.map (·.entry) ++ rest)) := by
    cases current <;> rfl
  rw [hclose, tablesFrom, header?_heading, described?]
  cases headerName? (' ' :: t.name) with
  | none => rw [Option.map_none, tablesFrom_none_entries]
  | some name =>
    simp only [Option.map_some, Option.toList_none, List.nil_append, tablesFrom_entries]

theorem tablesFrom_blocks (current : Option Table) (ts : List StoredTable) :
    tablesFrom current (ts.flatMap (·.blockLines)) = current.toList ++ ts.filterMap described? := by
  induction ts generalizing current with
  | nil => simp [tablesFrom]
  | cons t ts ih =>
    rw [List.flatMap_cons, tablesFrom_block, ih]
    cases hdescribed : described? t <;> simp [hdescribed]

variable {tables : List StoredTable} {name schema : Text}

/-- The tables of a schema text are found again. -/
theorem parse_schemaText (hname : IsLine name) (htables : ∀ t ∈ tables, t.Legible) :
    parse (Database.schemaText name tables) = tables.filterMap described? := by
  have hlines : ∀ l ∈ Database.frontLines name ++ tables.flatMap (·.blockLines), IsLine l := by
    refine List.forall_mem_append.mpr ⟨?_, ?_⟩
    · have hfirst : IsLine ("Database: ".toList ++ name) :=
        isLine_append.mpr ⟨by decide, hname⟩
      exact List.forall_mem_cons.mpr ⟨hfirst, List.forall_mem_cons.mpr ⟨by decide,
        List.forall_mem_singleton.mpr (by decide)⟩⟩
    · intro l hl
      obtain ⟨t, ht, hl⟩ := List.mem_flatMap.mp hl
      exact (htables t ht).isLine l hl
  have hfront : ∀ rest : List Text,
      tablesFrom none (Database.frontLines name ++ rest) = tablesFrom none rest := fun _ => rfl
  rw [parse, Database.schemaText_eq, lines_unlines hlines, hfront, tablesFrom_blocks]
  rfl

/-- **The listed tables are found again.** -/
theorem parse_describe (hname : IsLine name) (htables : ∀ t ∈ tables, t.Legible)
    (h : Database.describe ⟨some tables⟩ name = .ok schema) :
    parse schema = (Database.shown tables).filterMap described? := by
  rw [Database.describe_eq, Except.ok.injEq] at h
  rw [← h]
  exact parse_schemaText hname fun t ht => htables t (Database.mem_shown.mp ht).1

/-- The columns that are found under a name: those of the first listed table with that name but for
blanks around it. -/
def listed (tables : List StoredTable) (name : Text) : List Text :=
  match (Database.shown tables).find? fun t => trim t.name == name with
  | some t => t.columns.filterMap fun c => listedName? c.name
  | none => []

theorem columnsOf_describe (hname : IsLine name) (htables : ∀ t ∈ tables, t.Legible)
    (h : Database.describe ⟨some tables⟩ name = .ok schema) {table : Text} (hne : table ≠ [])
    (hword : AllWord table) : columnsOf schema table = listed tables table := by
  have hheader : ∀ t : StoredTable, headerName? (' ' :: t.name) = some table ↔ trim t.name = table :=
    fun t => headerName?_eq_some_iff hne hword
  have hsame : (fun t => (described? t).any fun u => u.name == table) =
      fun t : StoredTable => trim t.name == table := by
    funext t
    rw [Bool.eq_iff_iff, beq_iff_eq, ← hheader t, described?]
    cases headerName? (' ' :: t.name) <;> simp
  rw [columnsOf, parse_describe hname htables h, List.find?_filterMap, hsame, listed]
  cases hfind : (Database.shown tables).find? fun t => trim t.name == table with
  | none => rfl
  | some t =>
    have htrim : trim t.name = table := by simpa using List.find?_some hfind
    rw [Option.bind_some, described?, (hheader t).mpr htrim, Option.map_some]
    simp only [List.map_filterMap, column?_entry]

end Schema

end QueryGate
