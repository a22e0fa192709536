import QueryGate.Schema
import Mathlib.Data.List.Infix

/-! # The blocks of a schema text

A table is what its header and the lines of its block say: the block reaches from behind the header
to the next header or the next blank line, and nothing in front of it or behind it matters.  So the
tables of a text are found at its lines one by one, each from the lines that follow
(`tablesFrom_eq_filterMap`), and the columns of a name are those of the first block under it
(`columnsOf_eq`).

Two line feeds between two texts leave an empty line there, whatever the first text ends with: a
carriage return takes the first line feed into its own break, but not the second
(`exists_lines_append`).  An empty line closes the block that is open, so the texts are read apart
(`blocks_independent`). -/

namespace QueryGate

open Text

namespace Text

/-- Two line feeds close the current line, if there is one, and leave at least one empty line.  By
induction on the text in front of them; no part of a line is read yet where a line feed may belong
to the break in front of it. -/
theorem exists_linesFrom_append (a b : Text) {afterReturn : Bool} {line : Text}
    (h : afterReturn = true → line = []) :
    ∃ n, linesFrom afterReturn line (a ++ '\n' :: '\n' :: b) =
      linesFrom afterReturn line a ++ [] :: (List.replicate n [] ++ lines b) := by
  induction a generalizing afterReturn line with
  | nil =>
    have hfeeds : linesFrom false line ('\n' :: '\n' :: b) = line.reverse :: [] :: lines b := rfl
    cases afterReturn with
    | true =>
      -- the first line feed belongs to the break in front
      obtain rfl := h rfl
      exact ⟨0, rfl⟩
    | false =>
      cases line with
      | nil => exact ⟨1, hfeeds⟩
      | cons c line => exact ⟨0, hfeeds⟩
  | cons c a ih =>
    rw [List.cons_append, linesFrom, linesFrom]
    split
    · exact ih (by simp)
    · split
      · have hnew : (c == '\r') = true → ([] : Text) = [] := fun _ => rfl
        obtain ⟨n, hn⟩ := ih hnew
        exact ⟨n, by rw [hn, List.cons_append]⟩
      · exact ih (by simp)

/-- The lines of two texts with two line feeds between them are those of the first, at least one
empty line, and those of the second. -/
theorem exists_lines_append (a b : Text) :
    ∃ n, lines (a ++ ("\n\n".toList ++ b)) =
      lines a ++ [] :: (List.replicate n [] ++ lines b) :=
  exists_linesFrom_append a b (by simp)

end Text

namespace Schema

/-! ## Tables from lines -/

/-- A line that neither opens a block nor closes one. -/
def staysInBlock (line : Text) : Bool := (header? line).isNone && !(trim line).isEmpty

/-- The table at the first of some lines, if that is a header: the columns are those of the column
lines in its block. -/
def tableAt? : List Text → Option Table
  | [] => none
  | line :: rest =>
    (header? line).map fun name => ⟨name, (rest.takeWhile staysInBlock).filterMap column?⟩

/-- What is read within a block is added to its table; the tables behind it are the same as if no
block were open. -/
theorem tablesFrom_some (table : Table) (ls : List Text) :
    tablesFrom (some table) ls =
      ⟨table.name, table.columns ++ (ls.takeWhile staysInBlock).filterMap column?⟩ ::
        tablesFrom none ls := by
  induction ls generalizing table with
  | nil => simp [tablesFrom]
  | cons line ls ih =>
    rw [tablesFrom, tablesFrom]
    cases hheader : header? line with
    | some name =>
      have hends : staysInBlock line = false := by simp [staysInBlock, hheader]
      simp [hends]
    | none =>
      cases hblank : (trim line).isEmpty with
      | true =>
        have hends : staysInBlock line = false := by simp [staysInBlock, hblank]
        simp [hends]
      | false =>
        have hstays : staysInBlock line = true := by simp [staysInBlock, hheader, hblank]
        simp only [Bool.false_eq_true, if_false, ih, List.takeWhile_cons, hstays, if_true]
        cases hcolumn : column? line <;> simp [hcolumn]

/-- **Each table is read from its own header and block.** -/
theorem tablesFrom_eq_filterMap (ls : List Text) :
    tablesFrom none ls = ls.tails.filterMap tableAt? := by
  induction ls with
  | nil => rfl
  | cons line ls ih =>
    rw [tablesFrom, List.tails, List.filterMap_cons, ← ih, tableAt?]
    cases header? line with
    | none => rfl
    | some name => simp [tablesFrom_some]

/-- An empty line closes the block that is open. -/
theorem tablesFrom_append_empty (current : Option Table) (ls ls' : List Text) :
    tablesFrom current (ls ++ [] :: ls') = tablesFrom current ls ++ tablesFrom none ls' := by
  induction ls generalizing current with
  | nil => cases current <;> rfl
  | cons line ls ih =>
    simp only [List.cons_append, tablesFrom]
    split
    · rw [ih, List.append_assoc]
    · split
      · exact ih none
      · split
        · rw [ih, List.cons_append]
        · exact ih _

/-- Empty lines outside blocks are passed over. -/
theorem tablesFrom_replicate (n : Nat) (ls : List Text) :
    tablesFrom none (List.replicate n [] ++ ls) = tablesFrom none ls := by
  induction n with
  | zero => rfl
  | succ n ih => rw [List.replicate_succ, List.cons_append, ← ih]; rfl

/-- An empty line between two texts keeps their tables apart. -/
theorem parse_append (a b : Text) : parse (a ++ ("\n\n".toList ++ b)) = parse a ++ parse b := by
  obtain ⟨n, hlines⟩ := exists_lines_append a b
  rw [parse, hlines, tablesFrom_append_empty, tablesFrom_replicate, parse, parse]

/-! ## The columns of a name -/

/-- The lines of the first block under a name. -/
def blockUnder (name : Text) (ls : List Text) : List Text :=
  ((ls.dropWhile fun line => header? line ≠ some name).drop 1).takeWhile staysInBlock

/-- The first table with a name is read from the first block under it. -/
theorem columns_find? (name : Text) (ls : List Text) :
    (((tablesFrom none ls).find? fun table => table.name == name).elim []
        fun table => table.columns.map (·.name)) =
      ((blockUnder name ls).filterMap column?).map (·.name) := by
  induction ls with
  | nil => rfl
  | cons line ls ih =>
    rw [tablesFrom]
    cases hheader : header? line with
    | none =>
      have hother : decide (header? line ≠ some name) = true := by simp [hheader]
      rw [blockUnder, List.dropWhile_cons_of_pos (by simpa using hother), ← blockUnder]
      exact ih
    | some name' =>
      simp only [Option.toList_none, List.nil_append, tablesFrom_some]
      by_cases hname : name' = name
      · subst hname
        simp [blockUnder, hheader]
      · have hother : header? line ≠ some name := by simpa [hheader] using hname
        rw [List.find?_cons_of_neg (by simpa using hname), ih, blockUnder, blockUnder,
          List.dropWhile_cons_of_pos (by simpa using hother)]

/-- **The columns of a name are those of the first block under it.** -/
theorem columnsOf_eq (s name : Text) :
    columnsOf s name = ((blockUnder name (lines s)).filterMap column?).map (·.name) := by
  rw [← columns_find?, columnsOf, parse]
  cases (tablesFrom none (lines s)).find? fun table => table.name == name <;> rfl

/-- A text that has a table under a name says alone what its columns are, whatever tables
follow. -/
theorem columnsOf_append (a b name : Text) :
    columnsOf (a ++ ("\n\n".toList ++ b)) name =
      if name ∈ (parse a).map (·.name) then columnsOf a name else columnsOf b name := by
  rw [columnsOf, parse_append, List.find?_append, columnsOf, columnsOf]
  cases hfind : (parse a).find? fun table => table.name == name with
  | none =>
    have habsent : name ∉ (parse a).map (·.name) := by
      simpa using hfind
    rw [Option.none_or, if_neg habsent]
  | some table =>
    have hpresent : name ∈ (parse a).map (·.name) :=
      List.mem_map.mpr ⟨table, List.mem_of_find?_eq_some hfind, by
        simpa using List.find?_some hfind⟩
    rw [Option.some_or, if_pos hpresent]

/-- **Blocks are independent.**  Two texts with an empty line between them are read as each of them
is read alone, one after the other, whatever characters they hold.  So the columns of a name are
those that the first text gives to it, if it has a table under that name, and else those that the
second gives.  In any text a table has the columns of the lines between its header and the next
header or blank line, and those of the first header with a name are the columns of that name. -/
theorem blocks_independent (a b : Text) :
    parse (a ++ ("\n\n".toList ++ b)) = parse a ++ parse b ∧
      (∀ name, columnsOf (a ++ ("\n\n".toList ++ b)) name =
        if name ∈ (parse a).map (·.name) then columnsOf a name else columnsOf b name) ∧
      ∀ s, parse s = (lines s).tails.filterMap tableAt? ∧
        ∀ name, columnsOf s name =
          ((blockUnder name (lines s)).filterMap column?).map (·.name) :=
  ⟨parse_append a b, columnsOf_append a b,
    fun s => ⟨tablesFrom_eq_filterMap (lines s), columnsOf_eq s⟩⟩

end Schema

end QueryGate
