import QueryGate.Proofs.Audit.Damaged
import QueryGate.Proofs.Json.Joined
import QueryGate.Proofs.Text.Blanks
import QueryGate.Proofs.Text.Utf8
import Mathlib.Data.List.DropRight

/-! # Records behind a line without an end

A record is written behind whatever stands at the end of its partition.  If that is the beginning of
a line, then the two are one line (`linesOf_append_lineOf`).  This line is read as the record only if
spaces and tabs alone are in front of it (`recordOf?_joined`), and otherwise no query sees the
record (`Trail.record_found_or_lost`). -/

namespace QueryGate.Audit

open Text Json

/-! ## The last line of a file -/

/-- Whether a byte is part of a line, and not of its end. -/
def isInLine (b : UInt8) : Bool := b != 10 && b != 13

/-- The bytes behind the last line end of a file. -/
def openLine (bytes : List UInt8) : List UInt8 := bytes.rtakeWhile isInLine

/-- A file up to its last line end. -/
def closedLines (bytes : List UInt8) : List UInt8 := bytes.rdropWhile isInLine

theorem isInLine_iff {b : UInt8} : isInLine b = true ↔ b ≠ 10 ∧ b ≠ 13 := by
  simp [isInLine]

theorem forall_mem_openLine (bytes : List UInt8) : ∀ b ∈ openLine bytes, b ≠ 10 ∧ b ≠ 13 :=
  fun _ hb => isInLine_iff.mp (List.mem_rtakeWhile_imp hb)

theorem closedLines_append_openLine (bytes : List UInt8) :
    closedLines bytes ++ openLine bytes = bytes :=
  List.rdropWhile_append_rtakeWhile

/-- What ends with a line end is read apart from what follows.  The feed of a line end in two bytes
does not follow. -/
theorem linesFrom_append_end {e : UInt8} (he : isInLine e = false) {rest : List UInt8}
    (hrest : rest.head? ≠ some 10) (closed : List UInt8) {afterReturn : Bool} {line : List UInt8}
    (hline : afterReturn = true → line = []) :
    linesFrom afterReturn line (closed ++ e :: rest) =
      linesFrom afterReturn line (closed ++ [e]) ++ linesOf rest := by
  induction closed generalizing afterReturn line with
  | nil =>
    have hend : e = 10 ∨ e = 13 := by
      rcases Classical.em (e = 10) with h | h
      · exact .inl h
      · simpa [isInLine, h] using he
    rcases hend with rfl | rfl
    · cases afterReturn with
      | true => simp [linesFrom, linesOf, hline rfl]
      | false => simp [linesFrom, linesOf]
    · simp [linesFrom, linesOf, linesFrom_true hrest]
  | cons b closed ih =>
    have hplain := fun line => @ih false line fun h => absurd h Bool.false_ne_true
    simp only [List.cons_append, linesFrom]
    split
    · split
      · exact hplain line
      · rw [hplain, List.cons_append]
    · split
      · rw [ih fun _ => rfl, List.cons_append]
      · exact hplain _

theorem closedLines_cases (bytes : List UInt8) :
    closedLines bytes = [] ∨ ∃ front e, closedLines bytes = front ++ [e] ∧ isInLine e = false := by
  rcases Classical.em (closedLines bytes = []) with h | h
  · exact .inl h
  · have hlast : ¬ isInLine ((closedLines bytes).getLast h) = true :=
      List.rdropWhile_last_not isInLine bytes h
    exact .inr ⟨_, _, (List.dropLast_append_getLast h).symm, by simpa using hlast⟩

/-- A line is added to a file as a line of its own, except that the bytes behind the last line end come
to stand in front of it. -/
theorem linesOf_append_line {line : List UInt8} (hline : ∀ b ∈ line, b ≠ 10 ∧ b ≠ 13)
    (hne : line ≠ []) (bytes : List UInt8) :
    linesOf (bytes ++ (line ++ [10])) = linesOf (closedLines bytes) ++ [openLine bytes ++ line] := by
  have hplain : ∀ b ∈ openLine bytes ++ line, b ≠ 10 ∧ b ≠ 13 := by
    intro b hb
    exact (List.mem_append.mp hb).elim (forall_mem_openLine bytes b) (hline b)
  have hjoined : linesOf ((openLine bytes ++ line) ++ [10]) = [openLine bytes ++ line] := by
    rw [linesOf, linesFrom_append hplain, linesFrom, if_pos rfl, if_neg (by decide), linesFrom,
      List.append_nil, List.reverse_reverse]
    rfl
  have hhead : ((openLine bytes ++ line) ++ [10]).head? ≠ some 10 := by
    obtain ⟨b, more, hbytes⟩ := List.exists_cons_of_ne_nil
      (List.append_ne_nil_of_right_ne_nil (openLine bytes) hne)
    rw [hbytes] at hplain ⊢
    simpa using (hplain b List.mem_cons_self).1
  have hsplit : bytes ++ (line ++ [10]) = closedLines bytes ++ ((openLine bytes ++ line) ++ [10]) := by
    conv_lhs => rw [← closedLines_append_openLine bytes]
    simp only [List.append_assoc]
  rw [hsplit]
  rcases closedLines_cases bytes with hclosed | ⟨front, e, hclosed, he⟩
  · rw [hclosed, List.nil_append, hjoined]
    rfl
  · have happend := @linesFrom_append_end e he _ hhead front false [] fun _ => rfl
    rw [hclosed, List.append_assoc, List.singleton_append, linesOf, happend, hjoined]
    rfl

/-! ## A record behind some bytes -/

/-- The bytes are spaces and tabs. -/
def IsGap (bytes : List UInt8) : Prop := ∀ b ∈ bytes, b = 32 ∨ b = 9

instance (bytes : List UInt8) : Decidable (IsGap bytes) :=
  inferInstanceAs (Decidable (∀ b ∈ bytes, _))

/-- Spaces and tabs are the bytes of white space. -/
theorem IsGap.exists_text {front : List UInt8} (h : IsGap front) :
    ∃ r : Text, front = toUtf8 r ∧ ∀ c ∈ r, isSpace c = true := by
  induction front with
  | nil => exact ⟨[], rfl, List.forall_mem_nil _⟩
  | cons b front ih =>
    obtain ⟨hb, hfront⟩ := List.forall_mem_cons.mp h
    obtain ⟨r, rfl, hr⟩ := ih hfront
    rcases hb with rfl | rfl
    · exact ⟨' ' :: r, rfl, List.forall_mem_cons.mpr ⟨rfl, hr⟩⟩
    · exact ⟨'\t' :: r, rfl, List.forall_mem_cons.mpr ⟨rfl, hr⟩⟩

theorem isSpace_cases {c : Char} (h : isSpace c = true) :
    c = ' ' ∨ c = '\t' ∨ c = '\n' ∨ c = '\r' := by
  simpa [isSpace, or_assoc] using h

/-- The bytes of white space are spaces and tabs, if they end no line. -/
theorem isGap_of_isSpace {r : Text} (hr : ∀ c ∈ r, isSpace c = true)
    (hplain : ∀ b ∈ toUtf8 r, b ≠ 10 ∧ b ≠ 13) : IsGap (toUtf8 r) := by
  intro b hb
  obtain ⟨c, hc, hmem⟩ := List.mem_flatMap.mp hb
  have hb := hplain b hb
  rcases isSpace_cases (hr c hc) with rfl | rfl | rfl | rfl
  · exact .inl (List.mem_singleton.mp hmem)
  · exact .inr (List.mem_singleton.mp hmem)
  · exact absurd (List.mem_singleton.mp hmem) hb.1
  · exact absurd (List.mem_singleton.mp hmem) hb.2

theorem toNat_lt_of_isSpace {r : Text} (hr : ∀ c ∈ r, isSpace c = true) :
    ∀ c ∈ r, c.toNat < 0x80 := by
  intro c hc
  rcases isSpace_cases (hr c hc) with rfl | rfl | rfl | rfl <;> decide

section Joined

variable {α : Type} {depth : Nat} {read : Json → Except ReadError α} {v : Json}
  {front : List UInt8}

/-- Behind spaces and tabs, a record is read as if it stood alone. -/
theorem ofUtf8?_gap (v : Json) (hfront : IsGap front) :
    ∃ r : Text, ofUtf8? (front ++ toUtf8 v.render) = some (r ++ v.render) ∧
      ∀ c ∈ r, isSpace c = true := by
  obtain ⟨r, rfl, hr⟩ := hfront.exists_text
  refine ⟨r, ?_, hr⟩
  rw [ofUtf8?_toUtf8_append (toNat_lt_of_isSpace hr), ofUtf8?_render v]
  rfl

theorem recordOf?_gap (read : Json → Except ReadError α) (hfront : IsGap front)
    (hv : v.isStorable = true) (hfault : v.fault? true depth = none) :
    recordOf? depth read (front ++ toUtf8 v.render) = (read v).toOption ∧
      IsShallow depth (front ++ toUtf8 v.render) := by
  obtain ⟨r, htext, hr⟩ := ofUtf8?_gap v hfront
  have hparse : Json.parse (.lenient depth) (r ++ v.render) = .ok v :=
    (parse_append_render hv (suits_lenient depth _) hr).trans (congrArg (unlessFault · v) hfault)
  refine ⟨by simp [recordOf?, htext, hparse, Except.toOption], ?_⟩
  intro s hs
  rw [htext, Option.some.injEq] at hs
  rw [← hs, hparse]
  simp

/-- Behind other bytes, an object is no value. -/
theorem recordOf?_joined (hwhole : IsWhole (.lenient depth) v.render)
    (hplain : ∀ b ∈ front, b ≠ 10 ∧ b ≠ 13) (hfront : ¬ IsGap front) :
    recordOf? depth read (front ++ toUtf8 v.render) = none := by
  obtain ⟨c, tail, hrender, -⟩ := hwhole.begins
  have hbytes : toUtf8 v.render = 123 :: toUtf8 ('"' :: c :: tail) := by
    rw [hrender]
    rfl
  cases htext : ofUtf8? (front ++ toUtf8 v.render) with
  | none => simp [recordOf?, htext]
  | some s =>
    have hsplit := htext
    rw [hbytes] at hsplit
    obtain ⟨r, t, rfl, ht, hascii⟩ := split_of_ofUtf8?_append (by decide) hsplit
    rw [← hbytes, ofUtf8?_render v, Option.some.injEq] at ht
    subst ht
    cases hparse : Json.parse (.lenient depth) (r ++ v.render) with
    | error f => simp [recordOf?, htext, hparse, Except.toOption]
    | ok w =>
      have hspace := hwhole.forall_isSpace_of_parse hparse
      obtain rfl := hascii (toNat_lt_of_isSpace hspace)
      exact absurd (isGap_of_isSpace hspace hplain) hfront

end Joined

/-! ## The newest partition -/

/-- No file of a series has a name behind this one. -/
def Directory.IsNewest (series name : Text) (d : Directory) : Prop :=
  ∀ f ∈ d.files, isOfSeries series f.1 = true → le f.1 name = true

section Newest

variable {d : Directory} {series name : Text} {window : Int}

/-- A query reads the newest file of a series first. -/
theorem partitions_eq_cons (hwindow : 1 ≤ window) (hnames : (d.files.map (·.1)).Nodup) {f : File}
    (hmem : (name, f) ∈ d.files) (hseries : isOfSeries series name = true)
    (hnewest : d.IsNewest series name) :
    ∃ rest, partitions series window d = (name, f) :: rest := by
  have hmemSeries : (name, f) ∈ d.sorted.reverse.filter fun p => isOfSeries series p.1 := by
    rw [List.mem_filter, List.mem_reverse, Directory.sorted, List.mem_mergeSort]
    exact ⟨hmem, hseries⟩
  have hsorted : (d.sorted.reverse.filter fun p => isOfSeries series p.1).Pairwise NameBehind :=
    (sorted_reverse_pairwise hnames).filter _
  have hfiles : ∀ p ∈ d.sorted.reverse.filter fun p => isOfSeries series p.1,
      le p.1 name = true := by
    intro p hp
    rw [List.mem_filter, List.mem_reverse, Directory.sorted, List.mem_mergeSort] at hp
    exact hnewest p hp.1 hp.2
  obtain ⟨n, hn⟩ : ∃ n, window.toNat = n + 1 := ⟨window.toNat - 1, by omega⟩
  have hread : partitions series window d =
      (d.sorted.reverse.filter fun p => isOfSeries series p.1).take (n + 1) := by
    rw [partitions, takeUpTo, if_pos (by omega), hn, List.filter_reverse]
    rfl
  rw [hread]
  generalize d.sorted.reverse.filter (fun p => isOfSeries series p.1) = files at *
  cases files with
  | nil => cases hmemSeries
  | cons p files =>
    rcases List.mem_cons.mp hmemSeries with rfl | hbehind
    · exact ⟨files.take n, rfl⟩
    · -- another name would come behind the newest one
      obtain ⟨hle, hne⟩ := (List.pairwise_cons.mp hsorted).1 _ hbehind
      exact absurd (le_antisymm (hfiles p List.mem_cons_self) hle) hne

end Newest

/-! ## Recording -/

/-- Other bytes for one name. -/
def replacedAt (name : Text) (bytes : List UInt8) (n : Text) (old : List UInt8) : List UInt8 :=
  if n = name then bytes else old

/-- The directory with other bytes in one file. -/
def Directory.withContent (name : Text) (bytes : List UInt8) (d : Directory) : Directory :=
  d.mapBytes (replacedAt name bytes)

section Record

variable {t : Trail} {d d' : Directory} {e : Entry} {day : Date}

/-- What is written of an entry is an object. -/
theorem isWhole_entry (he : e.toJson.isStorable = true) (depth : Nat) :
    IsWhole (.lenient depth) e.toJson.render := by
  have hobject : e.toJson = .members ((.text "timestamp".toList, .str e.timestamp.toText) ::
      e.fields.tail.map fun m => (.text m.1.toList, m.2)) := by
    simp [Entry.toJson, Entry.fields, object, obj]
  obtain ⟨more, hmore⟩ :=
    renderMembers_eq_append "timestamp".toList (.str e.timestamp.toText)
      (e.fields.tail.map fun m => (.text m.1.toList, m.2))
  have hrender : e.toJson.render = '\x7b' :: '"' :: 't' :: ("imestamp\"".toList ++ ": ".toList ++
      Json.render (.str e.timestamp.toText) ++ more ++ ['\x7d']) := by
    rw [hobject, render, hmore]
    rfl
  exact isWhole_render he hrender rfl (by decide) depth

theorem record_eq (hday : e.timestamp.utcDate = .ok day)
    (hwritten : e.toJson.fault? true t.writeDepth = none)
    (h : d.append? (partitionName entrySeries day) (lineOf e.toJson) = some d') :
    t.record e d = .ok ⟨d', if t.reports then [.auditEntry e] else []⟩ := by
  simp only [Trail.record, hday, Trail.recordOn_of_no_fault hwritten, Trail.addEntry, addLine, h]

/-- The lines of the entry's partition after the entry has been recorded. -/
theorem lines_recorded (he : e.toJson.isStorable = true) (bytes : List UInt8) :
    linesOf (bytes ++ lineOf e.toJson) =
      linesOf (closedLines bytes) ++ [openLine bytes ++ toUtf8 e.toJson.render] := by
  obtain ⟨c, tail, hrender, -⟩ := (isWhole_entry he 0).begins
  have hne : toUtf8 e.toJson.render ≠ [] := by
    rw [hrender]
    exact List.cons_ne_nil _ _
  rw [lineOf_eq, linesOf_append_line (noLineEnd_render _) hne]

/-- A query for one entry begins with the newest partition, and there with the line that the recorded
entry has become part of. -/
theorem entriesOf_recorded (hwindow : 1 ≤ t.windowDays) (hnames : (d.files.map (·.1)).Nodup)
    (h : d.append? (partitionName entrySeries day) (lineOf e.toJson) = some d')
    (hnewest : d.IsNewest entrySeries (partitionName entrySeries day)) (user : Text) :
    ∃ rest, t.entriesOf user 1 d' = scan t.readDepth Entry.ofJson (Entry.isOf user) 1
      ((partitionName entrySeries day,
        .content (d.content (partitionName entrySeries day) ++ lineOf e.toJson)) :: rest) := by
  have hnames' := nodup_append? hnames h
  have hmem : (partitionName entrySeries day, File.content
      (d.content (partitionName entrySeries day) ++ lineOf e.toJson)) ∈ d'.files := by
    rw [mem_files_iff hnames', Directory.lookup_append? h, if_pos rfl]
  have hnewest' : d'.IsNewest entrySeries (partitionName entrySeries day) := by
    intro f hf hseries
    by_cases hname : f.1 = partitionName entrySeries day
    · rw [hname]
      exact le_refl _
    · refine hnewest f ?_ hseries
      rw [mem_files_iff hnames', Directory.lookup_append? h, if_neg hname,
        ← mem_files_iff hnames] at hf
      exact hf
  obtain ⟨rest, hrest⟩ := partitions_eq_cons hwindow hnames' hmem
    (isOfSeries_partitionName entrySeries day) hnewest'
  refine ⟨rest, ?_⟩
  rw [Trail.entriesOf, if_neg (by decide), hrest]
  rfl

/-- Behind spaces and tabs, a recorded entry is found. -/
theorem entriesOf_recorded_gap (hwindow : 1 ≤ t.windowDays)
    (hnames : (d.files.map (·.1)).Nodup) (hkept : (Note.entry e).IsKept t)
    (h : d.append? (partitionName entrySeries day) (lineOf e.toJson) = some d')
    (hnewest : d.IsNewest entrySeries (partitionName entrySeries day))
    (hgap : IsGap (openLine (d.content (partitionName entrySeries day)))) {user : Text}
    (huser : e.userId = .str user) : t.entriesOf user 1 d' = (.ok [e.asRead], []) := by
  obtain ⟨rest, hquery⟩ := entriesOf_recorded hwindow hnames h hnewest user
  obtain ⟨hrecord, hshallow⟩ := recordOf?_gap Entry.ofJson hgap hkept.storable hkept.readable
  rw [Note.toJson] at hrecord hshallow
  have hread : Entry.ofJson e.toJson = .ok e.asRead := Entry.ofJson_toJson hkept.warnings
  have hwanted : Entry.isOf user e.asRead = true := by
    rw [Entry.isOf, Entry.asRead, huser]
    exact beq_self_eq_true user
  rw [hread] at hrecord
  rw [hquery, scan, lines_recorded hkept.storable, List.reverse_append, List.reverse_singleton,
    List.singleton_append, scanLines, contentOf_of_isShallow _ hshallow, hrecord]
  simp [Except.toOption, hwanted, scanLines]

/-- In a line that is too deep, a recorded entry ends a query for one entry. -/
theorem entriesOf_recorded_deep (hwindow : 1 ≤ t.windowDays)
    (hnames : (d.files.map (·.1)).Nodup) (he : e.toJson.isStorable = true)
    (h : d.append? (partitionName entrySeries day) (lineOf e.toJson) = some d')
    (hnewest : d.IsNewest entrySeries (partitionName entrySeries day))
    (hdeep : ¬ IsShallow t.readDepth
      (openLine (d.content (partitionName entrySeries day)) ++ toUtf8 e.toJson.render))
    (user : Text) : t.entriesOf user 1 d' = (.error .tooDeep, []) := by
  obtain ⟨rest, hquery⟩ := entriesOf_recorded hwindow hnames h hnewest user
  rw [hquery, scan, lines_recorded he, List.reverse_append, List.reverse_singleton,
    List.singleton_append, scanLines]
  simp only [IsShallow, not_forall, not_not] at hdeep
  obtain ⟨s, htext, hparse⟩ := hdeep
  simp [contentOf, htext, hparse]

/-- Behind other bytes, a recorded entry is lost with them: every query answers as if its partition
ended with the line in front. -/
theorem entriesOf_recorded_joined (hnames : (d.files.map (·.1)).Nodup)
    (he : e.toJson.isStorable = true)
    (h : d.append? (partitionName entrySeries day) (lineOf e.toJson) = some d')
    (hgap : ¬ IsGap (openLine (d.content (partitionName entrySeries day))))
    (hshallow : IsShallow t.readDepth
      (openLine (d.content (partitionName entrySeries day)) ++ toUtf8 e.toJson.render))
    (user : Text) (limit : Int) :
    t.entriesOf user limit d' = t.entriesOf user limit
      (d'.withContent (partitionName entrySeries day)
        (closedLines (d.content (partitionName entrySeries day)))) := by
  have hnothing : contentOf t.readDepth Entry.ofJson
      (openLine (d.content (partitionName entrySeries day)) ++ toUtf8 e.toJson.render) =
        .nothing := by
    rw [contentOf_of_isShallow _ hshallow,
      recordOf?_joined (isWhole_entry he t.readDepth) (forall_mem_openLine _) hgap]
  rw [Trail.entriesOf, Trail.entriesOf]
  split
  · rfl
  · rw [Directory.withContent, partitions_mapBytes]
    refine (scan_mapBytes (fun name bytes hmem n => ?_) _).symm
    by_cases hname : name = partitionName entrySeries day
    · subst hname
      have hfile := (mem_files_iff (nodup_append? hnames h)).mp (mem_of_mem_partitions hmem).1
      rw [Directory.lookup_append? h, if_pos rfl, Option.some.injEq] at hfile
      obtain rfl := File.content.inj hfile
      rw [replacedAt, if_pos rfl, lines_recorded he, List.reverse_append, List.reverse_singleton,
        List.singleton_append]
      cases n with
      | zero => rw [scanLines, scanLines]
      | succ n => rw [scanLines, hnothing]
    · rw [replacedAt, if_neg hname]

/-- **A recorded entry is found if it stands on a line of its own.**  Whatever the partition of its day
held before, recording an entry that has a text succeeds; and if nothing but spaces and tabs stood behind the last
line end, then a query for the newest entry of its user returns it, given that the partition is the
newest.

Otherwise the entry and the bytes in front of it are one line that no query returns anything for: it
answers as if the partition ended in front of that line, or fails if the line is too deep. -/
theorem Trail.record_found_or_lost (hday : e.timestamp.utcDate = .ok day)
    (hwritten : e.toJson.fault? true t.writeDepth = none) (hkept : (Note.entry e).IsKept t)
    (hnames : (d.files.map (·.1)).Nodup)
    (haccepts : d.Accepts (partitionName entrySeries day)) :
    ∃ d', t.record e d = .ok ⟨d', if t.reports then [.auditEntry e] else []⟩ ∧
      (1 ≤ t.windowDays → d.IsNewest entrySeries (partitionName entrySeries day) →
        IsGap (openLine (d.content (partitionName entrySeries day))) →
        ∀ user, e.userId = .str user → t.entriesOf user 1 d' = (.ok [e.asRead], [])) ∧
      (¬ IsGap (openLine (d.content (partitionName entrySeries day))) →
        IsShallow t.readDepth (openLine (d.content (partitionName entrySeries day)) ++
          toUtf8 e.toJson.render) →
        ∀ user limit, t.entriesOf user limit d' = t.entriesOf user limit
          (d'.withContent (partitionName entrySeries day)
            (closedLines (d.content (partitionName entrySeries day))))) ∧
      (1 ≤ t.windowDays → d.IsNewest entrySeries (partitionName entrySeries day) →
        ¬ IsShallow t.readDepth (openLine (d.content (partitionName entrySeries day)) ++
          toUtf8 e.toJson.render) →
        ∀ user, t.entriesOf user 1 d' = (.error .tooDeep, [])) := by
  obtain ⟨d', hd'⟩ := Directory.append?_of_accepts haccepts (lineOf e.toJson)
  refine ⟨d', record_eq hday hwritten hd', ?_, ?_, ?_⟩
  · intro hwindow hnewest hgap user huser
    exact entriesOf_recorded_gap hwindow hnames hkept hd' hnewest hgap huser
  · intro hgap hshallow user limit
    exact entriesOf_recorded_joined hnames hkept.storable hd' hgap hshallow user limit
  · intro hwindow hnewest hdeep user
    exact entriesOf_recorded_deep hwindow hnames hkept.storable hd' hnewest hdeep user

end Record

/-- A directory whose only file is the partition of the first of May. -/
def dayWith (bytes : List UInt8) : Directory :=
  .present [(partitionName entrySeries mayFirst, .content bytes)]

section Day

variable (bytes more : List UInt8)

theorem content_dayWith :
    (dayWith bytes).content (partitionName entrySeries mayFirst) = bytes := by
  simp [dayWith, Directory.content, Directory.files, bytesOf]

theorem append?_dayWith : (dayWith bytes).append? (partitionName entrySeries mayFirst) more =
    some (dayWith (bytes ++ more)) := by
  simp [dayWith, Directory.append?, Directory.appendTo]

theorem withContent_dayWith : (dayWith bytes).withContent (partitionName entrySeries mayFirst) more =
    dayWith more := by
  simp [dayWith, Directory.withContent, Directory.mapBytes, File.mapBytes, replacedAt]

theorem accepts_dayWith : (dayWith bytes).Accepts (partitionName entrySeries mayFirst) ∧
    ((dayWith bytes).files.map (·.1)).Nodup ∧
    (dayWith bytes).IsNewest entrySeries (partitionName entrySeries mayFirst) := by
  refine ⟨Directory.accepts_iff.mpr ⟨rfl, ?_, rfl⟩, List.nodup_singleton _, ?_⟩
  · simp [dayWith, Directory.files]
  · intro f hf _
    rw [List.mem_singleton.mp hf]
    exact le_refl _

end Day

/-- The beginning of an entry, as a write that was cut short leaves it. -/
def fragment : Text := "\x7b\"timestamp\": \"2024".toList

theorem isKept_eveningEntry : (Note.entry eveningEntry).IsKept weekly :=
  ⟨⟨mayFirst, rfl⟩, by decide, by decide, by intro w hw; cases hw⟩

/-- Nothing is in front of the fragment, and it is no gap. -/
theorem openLine_fragment :
    openLine (toUtf8 fragment) = toUtf8 fragment ∧ closedLines (toUtf8 fragment) = [] ∧
      ¬ IsGap (toUtf8 fragment) := by
  decide +kernel

/-- The fragment and the entry behind it are no value, but not because they are too deep. -/
theorem isShallow_fragment :
    IsShallow weekly.readDepth (toUtf8 fragment ++ toUtf8 eveningEntry.toJson.render) := by
  have hascii : ∀ c ∈ fragment, c.toNat < 0x80 := forall_mem_of_all (by decide +kernel)
  have hother : ∀ x : Except TextFault Json,
      (match x with | .error f => f | .ok _ => .malformed) ≠ .tooDeep → x ≠ .error .tooDeep := by
    rintro x h rfl
    exact h rfl
  intro s hs
  rw [ofUtf8?_toUtf8_append hascii, ofUtf8?_render eveningEntry.toJson] at hs
  obtain rfl := Option.some.inj hs
  exact hother _ (by decide +kernel)

theorem Trail.record_found_or_lost_evening :
    (∃ d', weekly.record eveningEntry (dayWith [10, 9]) = .ok ⟨d', []⟩ ∧
      weekly.entriesOf "u-1".toList 1 d' = (.ok [eveningEntry], [])) ∧
    ∃ d', weekly.record eveningEntry (dayWith (toUtf8 fragment)) = .ok ⟨d', []⟩ ∧
      ∀ user limit, weekly.entriesOf user limit d' =
        weekly.entriesOf user limit
          (d'.withContent (partitionName entrySeries mayFirst) []) := by
  have hday : eveningEntry.timestamp.utcDate = .ok mayFirst := rfl
  constructor
  · obtain ⟨haccepts, hnames, hnewest⟩ := accepts_dayWith [10, 9]
    obtain ⟨d', hrecord, hfound, -⟩ := Trail.record_found_or_lost (t := weekly) hday
      (by decide) isKept_eveningEntry hnames haccepts
    rw [content_dayWith] at hfound
    exact ⟨d', hrecord, hfound (by decide) hnewest (by decide +kernel) _ rfl⟩
  · obtain ⟨haccepts, hnames, -⟩ := accepts_dayWith (toUtf8 fragment)
    obtain ⟨hopen, hclosed, hgap⟩ := openLine_fragment
    obtain ⟨d', hrecord, -, hlost, -⟩ := Trail.record_found_or_lost (t := weekly) hday
      (by decide) isKept_eveningEntry hnames haccepts
    rw [content_dayWith, hopen, hclosed] at hlost
    exact ⟨d', hrecord, hlost hgap isShallow_fragment⟩

/-- Behind the beginning of an entry, another entry is recorded in the newest partition, and the query
for it finds nothing. -/
theorem Trail.recorded_entry_lost :
    (dayWith (toUtf8 fragment)).IsNewest entrySeries (partitionName entrySeries mayFirst) ∧
      ∃ d', weekly.record eveningEntry (dayWith (toUtf8 fragment)) = .ok ⟨d', []⟩ ∧
        weekly.entriesOf "u-1".toList 1 d' = (.ok [], []) := by
  obtain ⟨-, hnames, hnewest⟩ := accepts_dayWith (toUtf8 fragment)
  obtain ⟨hopen, hclosed, hgap⟩ := openLine_fragment
  have happend := append?_dayWith (toUtf8 fragment) (lineOf eveningEntry.toJson)
  have hlost := entriesOf_recorded_joined (t := weekly) hnames isKept_eveningEntry.storable happend
    (by rwa [content_dayWith, hopen]) (by rw [content_dayWith, hopen]; exact isShallow_fragment)
    "u-1".toList 1
  rw [content_dayWith, hclosed, withContent_dayWith] at hlost
  have hfiles : partitions entrySeries weekly.windowDays (dayWith []) = (dayWith []).files := by
    rw [partitions, Directory.sorted, dayWith, Directory.files, List.mergeSort_singleton]
    rfl
  refine ⟨hnewest, _, record_eq rfl (by decide) happend, ?_⟩
  rw [hlost, Trail.entriesOf, if_neg (by decide), hfiles]
  rfl

end QueryGate.Audit
