import QueryGate.Proofs.Audit.Lines

/-! # Lines with their ends

A file is taken apart into its lines and the bytes that end them, and these lines are those that are
read (`map_endedLines`).  If lines are taken out together with their ends, and no blank line is left,
then the other lines are read as before (`linesOf_keepLines`). -/

namespace QueryGate.Audit

/-- A line and the bytes that end it. -/
structure EndedLine where
  line : List UInt8
  ending : List UInt8
  deriving DecidableEq, Repr

/-- The line with its end. -/
def EndedLine.bytes (l : EndedLine) : List UInt8 := l.line ++ l.ending

/-- Lines with more bytes at the beginning of the first one. -/
def prepend (front : List UInt8) : List EndedLine → List EndedLine
  | [] => if front = [] then [] else [⟨front, []⟩]
  | l :: more => ⟨front ++ l.line, l.ending⟩ :: more

/-- The lines of a file with their ends; only the last one may have none. -/
def endedLines : List UInt8 → List EndedLine
  | [] => []
  | b :: rest =>
    if b = 10 then ⟨[], [10]⟩ :: endedLines rest
    else if b = 13 then
      match rest with
      | [] => [⟨[], [13]⟩]
      | c :: rest =>
        if c = 10 then ⟨[], [13, 10]⟩ :: endedLines rest
        else ⟨[], [13]⟩ :: endedLines (c :: rest)
    else prepend [b] (endedLines rest)

/-- A file without the lines that are not kept. -/
def keepLines (keep : List UInt8 → Bool) (bytes : List UInt8) : List UInt8 :=
  ((endedLines bytes).filter fun l => keep l.line).flatMap EndedLine.bytes

/-! ## The lines of a file -/

section Equations

variable (rest : List UInt8)

theorem endedLines_feed : endedLines (10 :: rest) = ⟨[], [10]⟩ :: endedLines rest := by
  rw [endedLines.eq_def]
  rfl

theorem endedLines_returnFeed :
    endedLines (13 :: 10 :: rest) = ⟨[], [13, 10]⟩ :: endedLines rest := by
  rw [endedLines.eq_def]
  rfl

theorem endedLines_return {c : UInt8} (hc : c ≠ 10) :
    endedLines (13 :: c :: rest) = ⟨[], [13]⟩ :: endedLines (c :: rest) := by
  rw [endedLines.eq_def]
  simp [hc]

theorem endedLines_byte {b : UInt8} (hfeed : b ≠ 10) (hreturn : b ≠ 13) :
    endedLines (b :: rest) = prepend [b] (endedLines rest) := by
  rw [endedLines.eq_def]
  simp [hfeed, hreturn]

end Equations

theorem prepend_nil (ls : List EndedLine) : prepend [] ls = ls := by
  cases ls <;> rfl

theorem prepend_prepend {front : List UInt8} (hfront : front ≠ []) (more : List UInt8)
    (ls : List EndedLine) : prepend more (prepend front ls) = prepend (more ++ front) ls := by
  cases ls with
  | nil => simp [prepend, hfront]
  | cons l ls => simp [prepend]

/-- Behind a return only a line feed makes a difference. -/
theorem linesFrom_true {bytes : List UInt8} (h : bytes.head? ≠ some 10) (line : List UInt8) :
    linesFrom true line bytes = linesFrom false line bytes := by
  cases bytes with
  | nil => rfl
  | cons b rest =>
    have hb : b ≠ 10 := by simpa using h
    rw [linesFrom, linesFrom, if_neg hb, if_neg hb]

theorem linesFrom_eq_map_prepend (line bytes : List UInt8) :
    linesFrom false line bytes = (prepend line.reverse (endedLines bytes)).map (·.line) := by
  induction bytes using endedLines.induct generalizing line with
  | case1 =>
    rw [linesFrom, endedLines, prepend]
    cases line <;> simp
  | case2 rest ih =>
    rw [linesFrom, if_pos rfl, if_neg (by decide), ih, List.reverse_nil, prepend_nil,
      endedLines_feed, prepend, List.map_cons, List.append_nil]
  | case3 => simp [linesFrom, endedLines, prepend]
  | case4 rest _ ih =>
    rw [linesFrom, if_neg (by decide), if_pos rfl, linesFrom, if_pos rfl, if_pos rfl, ih,
      List.reverse_nil, prepend_nil, endedLines_returnFeed, prepend, List.map_cons,
      List.append_nil]
  | case5 c rest hc _ ih =>
    have hhead : (c :: rest).head? ≠ some 10 := by simpa using hc
    rw [linesFrom, if_neg (by decide), if_pos rfl, linesFrom_true hhead, ih, List.reverse_nil,
      prepend_nil, endedLines_return rest hc, prepend, List.map_cons, List.append_nil]
  | case6 b rest hfeed hreturn ih =>
    rw [linesFrom, if_neg hfeed, if_neg hreturn, ih, List.reverse_cons,
      endedLines_byte rest hfeed hreturn, prepend_prepend (List.cons_ne_nil _ _)]

/-- The lines of a file are those that are read. -/
theorem map_endedLines (bytes : List UInt8) : (endedLines bytes).map (·.line) = linesOf bytes := by
  rw [linesOf, linesFrom_eq_map_prepend, List.reverse_nil, prepend_nil]

/-! ## Lines taken out -/

/-- No byte of a line ends it, and only the last line of a file may have no end. -/
structure AreLines (ls : List EndedLine) : Prop where
  plain : ∀ l ∈ ls, ∀ b ∈ l.line, b ≠ 10 ∧ b ≠ 13
  ended : ∀ l ∈ ls, l.ending ∈ [[], [10], [13], [13, 10]]
  last : ls.Pairwise fun l _ => l.ending ≠ []

theorem AreLines.cons {ending : List UInt8} {ls : List EndedLine} (h : AreLines ls)
    (hending : ending ∈ [[10], [13], [13, 10]]) : AreLines (⟨[], ending⟩ :: ls) := by
  have hne : ending ≠ [] := by
    rintro rfl
    exact absurd hending (by decide)
  exact ⟨List.forall_mem_cons.mpr ⟨by simp, h.plain⟩,
    List.forall_mem_cons.mpr ⟨List.mem_cons_of_mem _ hending, h.ended⟩,
    List.pairwise_cons.mpr ⟨fun _ _ => hne, h.last⟩⟩

theorem AreLines.prepend {b : UInt8} {ls : List EndedLine} (h : AreLines ls)
    (hb : b ≠ 10 ∧ b ≠ 13) : AreLines (prepend [b] ls) := by
  cases ls with
  | nil => exact ⟨by simpa [Audit.prepend] using hb, by simp [Audit.prepend], by simp [Audit.prepend]⟩
  | cons l ls =>
    obtain ⟨hl, hplain⟩ := List.forall_mem_cons.mp h.plain
    obtain ⟨hend, hended⟩ := List.forall_mem_cons.mp h.ended
    obtain ⟨hne, hlast⟩ := List.pairwise_cons.mp h.last
    exact ⟨List.forall_mem_cons.mpr ⟨List.forall_mem_cons.mpr ⟨hb, hl⟩, hplain⟩,
      List.forall_mem_cons.mpr ⟨hend, hended⟩, List.pairwise_cons.mpr ⟨hne, hlast⟩⟩

theorem areLines_endedLines (bytes : List UInt8) : AreLines (endedLines bytes) := by
  induction bytes using endedLines.induct with
  | case1 => exact ⟨by simp [endedLines], by simp [endedLines], List.Pairwise.nil⟩
  | case2 rest ih =>
    rw [endedLines_feed]
    exact ih.cons (by decide)
  | case3 => exact ⟨by simp [endedLines], by simp [endedLines], List.pairwise_singleton _ _⟩
  | case4 rest _ ih =>
    rw [endedLines_returnFeed]
    exact ih.cons (by decide)
  | case5 c rest hc _ ih =>
    rw [endedLines_return rest hc]
    exact ih.cons (by decide)
  | case6 b rest hfeed hreturn ih =>
    rw [endedLines_byte rest hfeed hreturn]
    exact ih.prepend ⟨hfeed, hreturn⟩

/-- Some of the lines of a file are lines of a file. -/
theorem AreLines.filter {ls : List EndedLine} (h : AreLines ls) (keep : EndedLine → Bool) :
    AreLines (ls.filter keep) :=
  ⟨fun l hl => h.plain l (List.mem_of_mem_filter hl),
    fun l hl => h.ended l (List.mem_of_mem_filter hl), h.last.filter keep⟩

/-- Lines are read from the file that they make, if none is blank.  A blank one between a return and a
line feed would not be seen. -/
theorem AreLines.linesOf_flatMap {ls : List EndedLine} (h : AreLines ls)
    (hblank : ∀ l ∈ ls, l.line ≠ []) :
    linesOf (ls.flatMap EndedLine.bytes) = ls.map (·.line) := by
  induction ls with
  | nil => rfl
  | cons l ls ih =>
    obtain ⟨hl, hplain⟩ := List.forall_mem_cons.mp h.plain
    obtain ⟨hend, hended⟩ := List.forall_mem_cons.mp h.ended
    obtain ⟨hne, hlast⟩ := List.pairwise_cons.mp h.last
    obtain ⟨hline, hrest⟩ := List.forall_mem_cons.mp hblank
    have hmore := ih ⟨hplain, hended, hlast⟩ hrest
    rw [linesOf] at hmore
    rw [List.flatMap_cons, EndedLine.bytes, linesOf, List.append_assoc, linesFrom_append hl,
      List.append_nil, List.map_cons]
    obtain ⟨line, ending⟩ := l
    simp only [List.mem_cons, List.not_mem_nil, or_false] at hend
    rcases hend with rfl | rfl | rfl | rfl
    · -- nothing stands behind a line without an end
      cases ls with
      | nil => simp [linesFrom, hline]
      | cons l ls => exact absurd rfl (hne l List.mem_cons_self)
    · simp [linesFrom, hmore]
    · have hhead : (ls.flatMap EndedLine.bytes).head? ≠ some 10 := by
        cases ls with
        | nil => simp
        | cons l ls =>
          obtain ⟨hl, -⟩ := List.forall_mem_cons.mp hplain
          obtain ⟨b, line, hbytes⟩ := List.exists_cons_of_ne_nil (hrest l List.mem_cons_self)
          rw [hbytes] at hl
          simpa [EndedLine.bytes, hbytes] using (hl b List.mem_cons_self).1
      simp [linesFrom, linesFrom_true hhead, hmore]
    · simp [linesFrom, hmore]

/-- **The lines of a file without some lines** are the others, if no blank line is kept. -/
theorem linesOf_keepLines {keep : List UInt8 → Bool} (hkeep : keep [] = false)
    (bytes : List UInt8) : linesOf (keepLines keep bytes) = (linesOf bytes).filter keep := by
  have hblank : ∀ l ∈ (endedLines bytes).filter (fun l => keep l.line), l.line ≠ [] := by
    intro l hl hline
    have hkept := (List.mem_filter.mp hl).2
    rw [hline, hkeep] at hkept
    cases hkept
  rw [keepLines, ((areLines_endedLines bytes).filter _).linesOf_flatMap hblank, ← map_endedLines,
    List.filter_map]
  rfl

end QueryGate.Audit
