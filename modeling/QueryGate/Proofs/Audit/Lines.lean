import QueryGate.Audit.Trail
import QueryGate.Proofs.Json.Values

/-! # Lines of a partition

What is written of a record is printable ASCII, so it is one line whatever the record holds, and
the lines of a file are the lines that were appended to it (`linesOf_flatMap_lineOf`).  Each of
them is read as the value it stands for (`recordOf?_render`).

A query takes the records that it asks for from the last line of a file on (`scanLines_eq`), and from
the first of some files on (`scan_fst`).  This holds of any lines, those that hold no record among
them, unless too many values stand inside one another in one. -/

namespace QueryGate.Audit

open Text Json

/-! ## Bytes of plain text -/

section Bytes

variable {s : Text}

theorem toUtf8_of_isPlain (hs : ∀ c ∈ s, isPlain c = true) :
    toUtf8 s = s.map fun c => UInt8.ofNat c.toNat := by
  induction s with
  | nil => rfl
  | cons c s ih =>
    obtain ⟨hc, hs⟩ := List.forall_mem_cons.mp hs
    simp only [isPlain, Bool.and_eq_true, decide_eq_true_eq] at hc
    have hchar : utf8Char c = [UInt8.ofNat c.toNat] := by
      rw [utf8Char, if_pos (by omega)]
    rw [toUtf8, List.flatMap_cons, hchar, List.map_cons, List.singleton_append]
    exact congrArg (_ :: ·) (ih hs)

/-- The byte of a plain character has its number, which is no line feed and no return. -/
theorem toNat_byte {c : Char} (hc : isPlain c = true) :
    (UInt8.ofNat c.toNat).toNat = c.toNat ∧ UInt8.ofNat c.toNat ≠ 10 ∧
      UInt8.ofNat c.toNat ≠ 13 := by
  simp only [isPlain, Bool.and_eq_true, decide_eq_true_eq] at hc
  have hbyte : (UInt8.ofNat c.toNat).toNat = c.toNat := by
    rw [UInt8.toNat_ofNat']
    omega
  refine ⟨hbyte, ?_, ?_⟩
  · intro h
    rw [h] at hbyte
    have hten : (10 : UInt8).toNat = 10 := rfl
    omega
  · intro h
    rw [h] at hbyte
    have hthirteen : (13 : UInt8).toNat = 13 := rfl
    omega

end Bytes

/-! ## Lines of a file -/

/-- A run of bytes without a line feed or return is added to the current line. -/
theorem linesFrom_append {bytes : List UInt8} (hbytes : ∀ b ∈ bytes, b ≠ 10 ∧ b ≠ 13)
    (line rest : List UInt8) :
    linesFrom false line (bytes ++ rest) = linesFrom false (bytes.reverse ++ line) rest := by
  induction bytes generalizing line with
  | nil => rfl
  | cons b bytes ih =>
    obtain ⟨⟨hfeed, hreturn⟩, hbytes⟩ := List.forall_mem_cons.mp hbytes
    rw [List.cons_append, linesFrom, if_neg hfeed, if_neg hreturn, ih hbytes, List.reverse_cons,
      List.append_assoc, List.singleton_append]

variable {v : Json}

theorem lineOf_eq (v : Json) : lineOf v = toUtf8 v.render ++ [10] := by
  rw [lineOf, toUtf8, List.flatMap_append]
  rfl

/-- A record is written without a line end. -/
theorem noLineEnd_render (v : Json) : ∀ b ∈ toUtf8 v.render, b ≠ 10 ∧ b ≠ 13 := by
  rw [toUtf8_of_isPlain (isPlain_render v)]
  intro b hb
  obtain ⟨c, hc, rfl⟩ := List.mem_map.mp hb
  exact (toNat_byte (isPlain_render v c hc)).2

/-- **Each record is one line**: the lines of a file are those that were appended to it. -/
theorem linesOf_flatMap_lineOf (l : List Json) :
    linesOf (l.flatMap lineOf) = l.map fun v => toUtf8 v.render := by
  rw [linesOf]
  induction l with
  | nil => rfl
  | cons v l ih =>
    rw [List.flatMap_cons, lineOf_eq v, List.append_assoc, linesFrom_append (noLineEnd_render v),
      List.singleton_append, linesFrom, if_pos rfl, if_neg (by decide), ih, List.append_nil,
      List.reverse_reverse, List.map_cons]

/-! ## What lines hold -/

variable {α : Type} {depth : Nat} {read : Json → Except ReadError α} {wanted : α → Bool}

/-- The record in a line, if the line is UTF-8 and a JSON value that is read as one. -/
def recordOf? (depth : Nat) (read : Json → Except ReadError α) (line : List UInt8) : Option α := do
  let s ← ofUtf8? line
  let v ← (Json.parse (.lenient depth) s).toOption
  (read v).toOption

/-- No more values stand inside one another in a line than are read. -/
def IsShallow (depth : Nat) (line : List UInt8) : Prop :=
  ∀ s, ofUtf8? line = some s → Json.parse (.lenient depth) s ≠ .error .tooDeep

theorem contentOf_of_isShallow (read : Json → Except ReadError α) {line : List UInt8}
    (h : IsShallow depth line) :
    contentOf depth read line = match recordOf? depth read line with
      | some a => .record a
      | none => .nothing := by
  rw [contentOf, recordOf?]
  cases hs : ofUtf8? line with
  | none => rfl
  | some s =>
    have hdeep := h s hs
    cases hv : Json.parse (.lenient depth) s with
    | error f =>
      cases f with
      | tooDeep => exact absurd hv hdeep
      | malformed | tooManyDigits => simp [hv, Except.toOption]
    | ok v => cases hread : read v <;> simp [hv, hread, Except.toOption]

theorem parse_render_ok (hv : v.isStorable = true) (hfault : v.fault? true depth = none) :
    Json.parse (.lenient depth) v.render = .ok v := by
  rw [parse_render hv (suits_lenient depth _)]
  exact congrArg (unlessFault · v) hfault

theorem recordOf?_render (hv : v.isStorable = true) (hfault : v.fault? true depth = none) :
    recordOf? depth read (toUtf8 v.render) = (read v).toOption := by
  simp [recordOf?, ofUtf8?_render v, parse_render_ok hv hfault, Except.toOption]

theorem isShallow_render (hv : v.isStorable = true) (hfault : v.fault? true depth = none) :
    IsShallow depth (toUtf8 v.render) := by
  intro s hs
  rw [ofUtf8?_render v, Option.some.injEq] at hs
  rw [← hs, parse_render_ok hv hfault]
  exact fun h => by cases h

/-- From lines that can be read, the first records that are asked for are taken. -/
theorem scanLines_eq {lines : List (List UInt8)} (h : ∀ line ∈ lines, IsShallow depth line)
    (n : Nat) : scanLines depth read wanted n lines =
      some (((lines.filterMap (recordOf? depth read)).filter wanted).take n) := by
  induction lines generalizing n with
  | nil => cases n <;> rfl
  | cons line lines ih =>
    obtain ⟨hline, hlines⟩ := List.forall_mem_cons.mp h
    cases n with
    | zero => rfl
    | succ n =>
      rw [scanLines, contentOf_of_isShallow read hline]
      cases hrecord : recordOf? depth read line with
      | none => simp only [ih hlines, List.filterMap_cons_none hrecord]
      | some a =>
        simp only [List.filterMap_cons_some hrecord]
        by_cases hwanted : wanted a = true
        · rw [if_pos hwanted, ih hlines, List.filter_cons_of_pos hwanted, List.take_succ_cons]
          rfl
        · rw [if_neg hwanted, ih hlines, List.filter_cons_of_neg hwanted]

/-! ## What files hold -/

/-- The lines of a file; a folder has none. -/
def File.lines : File → List (List UInt8)
  | .folder => []
  | .content bytes => linesOf bytes

/-- The records in a file, from its last line to its first. -/
def File.records (depth : Nat) (read : Json → Except ReadError α) (f : File) : List α :=
  f.lines.reverse.filterMap (recordOf? depth read)

/-- The lines of a file can be read. -/
def File.IsShallow (depth : Nat) (f : File) : Prop := ∀ line ∈ f.lines, Audit.IsShallow depth line

/-- **A query of some files finds their records**, as far as it asks for them. -/
theorem scan_fst {files : List (Text × File)} (h : ∀ f ∈ files, f.2.IsShallow depth) (n : Nat) :
    (scan depth read wanted n files).1 =
      .ok (((files.flatMap fun f => f.2.records depth read).filter wanted).take n) := by
  induction files generalizing n with
  | nil => simp [scan]
  | cons f files ih =>
    obtain ⟨hf, hfiles⟩ := List.forall_mem_cons.mp h
    obtain ⟨name, f⟩ := f
    rw [List.flatMap_cons]
    cases f with
    | folder => exact ih hfiles n
    | content bytes =>
      have hlines : ∀ line ∈ (linesOf bytes).reverse, IsShallow depth line :=
        fun line hline => hf line (List.mem_reverse.mp hline)
      rw [scan, scanLines_eq hlines, List.filter_append, List.take_append, File.records, File.lines]
      simp only
      generalize ((linesOf bytes).reverse.filterMap (recordOf? depth read)).filter wanted = found
      -- a file that fills the answer ends the query before the next one is opened
      by_cases hfull : (found.take n).length = n
      · have hrest : n - found.length = 0 := by
          rw [List.length_take] at hfull
          omega
        rw [if_pos hfull, hrest, List.take_zero, List.append_nil]
      · have hall : found.length ≤ n := by
          rw [List.length_take] at hfull
          omega
        rw [if_neg hfull, List.take_of_length_le hall]
        simp only [ih hfiles]
        rfl

/-- Nothing is reported unless there is a folder. -/
theorem scan_snd {files : List (Text × File)} (h : ∀ f ∈ files, f.2 ≠ .folder) (n : Nat) :
    (scan depth read wanted n files).2 = [] := by
  induction files generalizing n with
  | nil => rfl
  | cons f files ih =>
    obtain ⟨hf, hfiles⟩ := List.forall_mem_cons.mp h
    obtain ⟨name, f⟩ := f
    cases f with
    | folder => exact absurd rfl hf
    | content bytes =>
      rw [scan]
      split
      · rfl
      · split
        · rfl
        · exact ih hfiles _

end QueryGate.Audit
