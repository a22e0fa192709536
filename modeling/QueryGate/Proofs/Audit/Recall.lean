import QueryGate.Proofs.Audit.Content
import QueryGate.Proofs.Audit.Lines
import QueryGate.Proofs.Audit.Partitions
import QueryGate.Proofs.Audit.Reading

/-! # Queries answer for what was recorded

Entries and violations are recorded one after another in a directory that is empty at first
(`Trail.recordAll`).  A record is received if its universal date exists and it has a text
(`Submission.isReceived`); one that is not leaves the directory as it was.  So the directory holds one
file for each day and series with a line for each record of it (`Holds`), which recording preserves
(`Holds.append`).

Hence a query is answered from the list of what was received alone: it finds the records of the
newest days, newest first, and neither the other series nor anything in a record changes which
(`Trail.queries_of_recordAll`).

How many lists and objects may stand inside one another in a record depends on who has it recorded,
and in a line on who asks.  The reader is assumed to be left room for what was received. -/

namespace QueryGate.Audit

open Text

variable {α : Type}

/-! ## What a directory holds -/

/-- The directory has one file for each name under which records were placed, and in it a line for
each of these records in their order. -/
structure Holds (d : Directory) (placed : List (Text × Json)) : Prop where
  writable : d.isWritable = true
  ample : d.room? = none
  names : (d.files.map (·.1)).Nodup
  files : ∀ name, d.files.lookup name =
    if recordsAt name placed = [] then none
    else some (.content ((recordsAt name placed).flatMap lineOf))

theorem holds_empty {d : Directory} (hd : d = .absent ∨ d = .present []) : Holds d [] := by
  rcases hd with rfl | rfl
  · exact ⟨rfl, rfl, List.nodup_nil, fun _ => rfl⟩
  · exact ⟨rfl, rfl, List.nodup_nil, fun _ => rfl⟩

theorem names_appendTo {name : Text} {bytes : List UInt8} {files files' : List (Text × File)}
    (h : Directory.appendTo name bytes files = some files') :
    files'.map (·.1) = if name ∈ files.map (·.1) then files.map (·.1)
      else files.map (·.1) ++ [name] := by
  induction files generalizing files' with
  | nil =>
    obtain rfl := Option.some.inj h
    rfl
  | cons p files ih =>
    obtain ⟨m, f⟩ := p
    simp only [Directory.appendTo] at h
    by_cases hm : m = name
    · subst hm
      rw [if_pos rfl] at h
      cases f with
      | folder => cases h
      | content old =>
        obtain rfl := Option.some.inj h
        simp
    · rw [if_neg hm] at h
      obtain ⟨rest, hrest, rfl⟩ := Option.map_eq_some_iff.mp h
      rw [List.map_cons, ih hrest]
      by_cases hmem : name ∈ files.map (·.1)
      · have hin : name ∈ ((m, f) :: files).map (·.1) := List.mem_cons_of_mem _ hmem
        rw [if_pos hmem, if_pos hin]
        rfl
      · have hnot : name ∉ ((m, f) :: files).map (·.1) := by
          rw [List.map_cons, List.mem_cons, not_or]
          exact ⟨Ne.symm hm, hmem⟩
        rw [if_neg hmem, if_neg hnot]
        rfl

/-- Appending gives no name twice. -/
theorem nodup_append? {name : Text} {bytes : List UInt8} {d d' : Directory}
    (hnames : (d.files.map (·.1)).Nodup) (h : d.append? name bytes = some d') :
    (d'.files.map (·.1)).Nodup := by
  rw [names_appendTo (Directory.append?_eq_some h).1]
  split
  · exact hnames
  · rename_i hnot
    refine List.nodup_append.mpr ⟨hnames, List.nodup_singleton _, ?_⟩
    rintro n hn m hm rfl
    rw [List.mem_singleton.mp hm] at hn
    exact hnot hn

/-- Placing one more record adds its line to the file of its name. -/
theorem Holds.append {d : Directory} {placed : List (Text × Json)} (h : Holds d placed)
    (name : Text) (v : Json) :
    ∃ d', d.append? name (lineOf v) = some d' ∧ Holds d' (placed ++ [(name, v)]) := by
  have haccepts : d.Accepts name := by
    refine Directory.accepts_iff.mpr ⟨h.writable, ?_, h.ample⟩
    rw [h.files]
    split <;> simp
  obtain ⟨d', hd⟩ := Directory.append?_of_accepts haccepts (lineOf v)
  obtain ⟨-, hwritable, hleft⟩ := Directory.append?_eq_some hd
  refine ⟨d', hd, hwritable, by rw [hleft, h.ample, Option.map_none], ?_, ?_⟩
  · exact nodup_append? h.names hd
  · intro n
    rw [Directory.lookup_append? hd, Directory.content, h.files]
    by_cases hn : n = name
    · subst hn
      -- the file of the name is made if this is its first record
      have hmore : recordsAt n (placed ++ [(n, v)]) = recordsAt n placed ++ [v] := by
        simp [recordsAt]
      have hsome : recordsAt n placed ++ [v] ≠ [] := by simp
      rw [if_pos rfl, hmore, if_neg hsome, List.flatMap_append, List.flatMap_singleton]
      by_cases hnone : recordsAt n placed = []
      · rw [if_pos hnone, hnone]
        rfl
      · rw [if_neg hnone]
        rfl
    · have hsame : recordsAt n (placed ++ [(name, v)]) = recordsAt n placed := by
        simp [recordsAt, Ne.symm hn]
      rw [if_neg hn, hsame, h.files]

/-- The files of a directory are those that are found by their names. -/
theorem mem_files_iff {files : List (Text × File)} (hnames : (files.map (·.1)).Nodup)
    {p : Text × File} : p ∈ files ↔ files.lookup p.1 = some p.2 := by
  induction files with
  | nil => simp
  | cons q files ih =>
    obtain ⟨hq, hfiles⟩ := List.nodup_cons.mp hnames
    rw [List.mem_cons, ih hfiles, Directory.lookup_cons_eq_ite]
    by_cases hp : p.1 = q.1
    · have habsent : ¬ files.lookup p.1 = some p.2 := by
        rw [← ih hfiles]
        intro hmem
        have hname : p.1 ∈ files.map (·.1) := List.mem_map_of_mem hmem
        rw [hp] at hname
        exact hq hname
      rw [if_pos hp, Option.some_inj]
      constructor
      · rintro (rfl | h)
        · rfl
        · exact absurd h habsent
      · intro h
        exact .inl (Prod.ext hp h.symm)
    · rw [if_neg hp]
      constructor
      · rintro (rfl | h)
        · exact absurd rfl hp
        · exact h
      · exact .inr

/-! ## Queries -/

/-- The records placed under the names of a series are some dated records, each under the name of
its day. -/
def PlacedBy (series : Text) (write : α → Json) (l : List (Date × α))
    (placed : List (Text × Json)) : Prop :=
  (placed.filter fun p => isOfSeries series p.1) =
    l.map fun r => (partitionName series r.1, write r.2)

section Queries

variable {series : Text} {write : α → Json} {l : List (Date × α)} {placed : List (Text × Json)}
  {d : Directory}

theorem PlacedBy.recordsAt_eq (h : PlacedBy series write l placed) (day : Date) :
    recordsAt (partitionName series day) placed = (recordsAt day l).map write := by
  have hname : ∀ p : Text × Json, decide (p.1 = partitionName series day) =
      (decide (p.1 = partitionName series day) && isOfSeries series p.1) := by
    intro p
    by_cases hp : p.1 = partitionName series day
    · simp [hp, isOfSeries_partitionName]
    · simp [hp]
  -- a name decides its series, so the records under it are all of this one
  have hfilter : placed.filter (fun p => p.1 = partitionName series day) =
      (l.map fun r => (partitionName series r.1, write r.2)).filter
        fun p => p.1 = partitionName series day := by
    rw [← h, List.filter_filter]
    exact List.filter_congr fun p _ => hname p
  rw [recordsAt, hfilter, List.filter_map, List.map_map, recordsAt, List.map_map]
  congr 1
  exact List.filter_congr fun r _ => by simp [partitionName_inj]

/-- The files of a series in a directory are those of the days of its records. -/
theorem Holds.files_of_series (h : Holds d placed) (hplaced : PlacedBy series write l placed)
    (p : Text × File) : (p ∈ d.files ∧ isOfSeries series p.1 = true) ↔
      ∃ day ∈ days l, p = (partitionName series day,
        .content (((recordsAt day l).map write).flatMap lineOf)) := by
  rw [mem_files_iff h.names, h.files]
  constructor
  · rintro ⟨hp, hseries⟩
    by_cases hnone : recordsAt p.1 placed = []
    · rw [if_pos hnone] at hp
      cases hp
    · rw [if_neg hnone] at hp
      obtain ⟨v, hv⟩ := List.exists_mem_of_ne_nil _ hnone
      have hmem : (p.1, v) ∈ placed.filter fun p => isOfSeries series p.1 :=
        List.mem_filter.mpr ⟨mem_recordsAt.mp hv, hseries⟩
      rw [hplaced] at hmem
      obtain ⟨⟨day, a⟩, hday, hname⟩ := List.mem_map.mp hmem
      have hname : partitionName series day = p.1 := congrArg Prod.fst hname
      refine ⟨day, mem_days.mpr ⟨a, hday⟩, Prod.ext hname.symm ?_⟩
      rw [← Option.some.inj hp, ← hname, hplaced.recordsAt_eq]
  · rintro ⟨day, hday, rfl⟩
    obtain ⟨a, ha⟩ := mem_days.mp hday
    have hsome : (recordsAt day l).map write ≠ [] :=
      List.ne_nil_of_mem (List.mem_map_of_mem (mem_recordsAt.mpr ha))
    rw [hplaced.recordsAt_eq, if_neg hsome]
    exact ⟨rfl, isOfSeries_partitionName series day⟩

/-- **A query of a series finds its records**, newest day first and each day's in the reverse of
their order, as far as it asks for them. -/
theorem Holds.scan_eq {read : Json → Except ReadError α} {again : α → α} {wanted : α → Bool}
    {window : Int} {depth : Nat} (h : Holds d placed) (hplaced : PlacedBy series write l placed)
    (hwindow : 1 ≤ window)
    (hread : ∀ r ∈ l, (write r.2).isStorable = true ∧ (write r.2).fault? true depth = none ∧
      read (write r.2) = .ok (again r.2))
    (n : Nat) :
    scan depth read wanted n (partitions series window d) =
      (.ok ((((newestFirst window.toNat l).map again).filter wanted).take n), []) := by
  rw [partitions_eq hwindow h.names (h.files_of_series hplaced), newestFirst, List.map_flatMap]
  have hlines : ∀ day, (File.content (((recordsAt day l).map write).flatMap lineOf)).lines =
      (recordsAt day l).map fun a => toUtf8 (write a).render := by
    intro day
    rw [File.lines, linesOf_flatMap_lineOf, List.map_map]
    rfl
  have hrecords : ∀ day,
      (File.content (((recordsAt day l).map write).flatMap lineOf)).records depth read =
        (recordsAt day l).reverse.map again := by
    intro day
    rw [File.records, hlines, ← List.map_reverse, List.filterMap_map, ← List.filterMap_eq_map]
    refine List.filterMap_congr fun a ha => ?_
    obtain ⟨hstorable, hfault, hread⟩ :=
      hread (day, a) (mem_recordsAt.mp (List.mem_reverse.mp ha))
    rw [Function.comp_apply, recordOf?_render hstorable hfault, hread]
    rfl
  refine Prod.ext ?_ (scan_snd ?_ n)
  · rw [scan_fst, List.flatMap_map]
    · simp only [hrecords]
    · intro f hf line hline
      obtain ⟨day, -, rfl⟩ := List.mem_map.mp hf
      rw [hlines] at hline
      obtain ⟨a, ha, rfl⟩ := List.mem_map.mp hline
      obtain ⟨hstorable, hfault, -⟩ := hread (day, a) (mem_recordsAt.mp ha)
      exact isShallow_render hstorable hfault
  · intro f hf
    obtain ⟨day, -, rfl⟩ := List.mem_map.mp hf
    exact fun h => by cases h

end Queries

/-! ## Recording -/

/-- A record of either series. -/
inductive Note where
  | entry (e : Entry)
  | violation (v : Violation)

namespace Note

/-- When the record was made. -/
def timestamp : Note → Timestamp
  | entry e => e.timestamp
  | violation v => v.timestamp

/-- The series that the record belongs to. -/
def series : Note → Text
  | entry _ => entrySeries
  | violation _ => violationSeries

/-- The record as an object. -/
def toJson : Note → Json
  | entry e => e.toJson
  | violation v => v.toJson

/-- The warnings of the record. -/
def warnings : Note → List WarningRecord
  | entry e => e.warnings
  | violation _ => []

/-- The record comes back from a trail: its universal date exists, its strings are texts, its numbers
are finite and not too long, no more lists and objects stand inside one another than are read, and
its warnings lose nothing. -/
structure IsKept (t : Trail) (n : Note) : Prop where
  dated : ∃ day, n.timestamp.utcDate = .ok day
  storable : n.toJson.isStorable = true
  readable : n.toJson.fault? true t.readDepth = none
  warnings : ∀ w ∈ n.warnings, w.IsKept

/-- The partition in which the record is placed, and what is written there. -/
def place? (n : Note) : Option (Text × Json) :=
  n.timestamp.utcDate.toOption.map fun day => (partitionName n.series day, n.toJson)

/-- The entry with its universal date, if the record is one. -/
def entryWithDay? : Note → Option (Date × Entry)
  | entry e => e.timestamp.utcDate.toOption.map (·, e)
  | violation _ => none

end Note

/-- The directory after the attempt to add a record that has a text, on a day. -/
def Trail.keep (t : Trail) (day : Date) (d : Directory) : Note → Directory
  | .entry e => (t.addEntry day e d).directory
  | .violation v => (Trail.addViolation day v d).directory

variable {t : Trail} {notes : List Note} {d : Directory} {placed : List (Text × Json)}

/-- One record is placed under the name of the day on which it is written. -/
theorem Holds.keep (h : Holds d placed) (t : Trail) (day : Date) (n : Note) :
    Holds (t.keep day d n) (placed ++ [(partitionName n.series day, n.toJson)]) := by
  obtain ⟨d', hd, hholds⟩ := h.append (partitionName n.series day) n.toJson
  cases n with
  | entry e =>
    have hd : d.append? (partitionName entrySeries day) (lineOf e.toJson) = some d' := hd
    simp only [Trail.keep, Trail.addEntry, addLine, hd]
    exact hholds
  | violation v =>
    have hd : d.append? (partitionName violationSeries day) (lineOf v.toJson) = some d' := hd
    simp only [Trail.keep, Trail.addViolation, addLine, hd]
    exact hholds

/-- A record with the room that is left to its writer: how many lists and objects may stand inside
one another in it. -/
structure Submission where
  note : Note
  room : Nat

/-- Whether the record is received: its universal date exists, and it has a text. -/
def Submission.isReceived (s : Submission) : Bool :=
  s.note.timestamp.utcDate.toOption.isSome && (s.note.toJson.fault? true s.room).isNone

/-- The attempt to record. -/
def Trail.note (t : Trail) (d : Directory) : Note → Except Fault Written
  | .entry e => t.record e d
  | .violation v => t.recordViolation v d

/-- What succeeds has a universal date and succeeds on it. -/
theorem Trail.record_eq_ok_iff {e : Entry} {w : Written} :
    t.record e d = .ok w ↔
      ∃ day, e.timestamp.utcDate = .ok day ∧ t.recordOn day e d = .ok w := by
  rw [record]
  cases e.timestamp.utcDate <;> simp

theorem Trail.recordViolation_eq_ok_iff {v : Violation} {w : Written} :
    t.recordViolation v d = .ok w ↔
      ∃ day, v.timestamp.utcDate = .ok day ∧ t.recordViolationOn day v d = .ok w := by
  rw [recordViolation]
  cases v.timestamp.utcDate <;> simp

/-- If what is placed under names of a series are the records that `pick` takes, then they are so
for any notes. -/
theorem placedBy_of_place? {series : Text} {write : α → Json} {pick : Note → Option (Date × α)}
    (h : ∀ n : Note, n.place?.filter (fun p => isOfSeries series p.1) =
      (pick n).map fun r => (partitionName series r.1, write r.2)) (notes : List Note) :
    PlacedBy series write (notes.filterMap pick) (notes.filterMap Note.place?) := by
  rw [PlacedBy, List.filter_filterMap, List.map_filterMap]
  congr 1
  exact funext h

theorem placedBy_entries (notes : List Note) :
    PlacedBy entrySeries Entry.toJson (notes.filterMap Note.entryWithDay?)
      (notes.filterMap Note.place?) := by
  refine placedBy_of_place? (fun n => ?_) notes
  rw [Note.place?]
  cases n with
  | entry e =>
    rw [Note.entryWithDay?, Note.timestamp]
    cases e.timestamp.utcDate with
    | error f => rfl
    | ok day => simp [Except.toOption, Note.series, Note.toJson, isOfSeries_partitionName]
  | violation v =>
    rw [Note.entryWithDay?, Note.timestamp]
    cases v.timestamp.utcDate with
    | error f => rfl
    | ok day => simp [Except.toOption, Note.series, (isOfSeries_other day).1]

theorem mem_of_mem_entries {r : Date × Entry} (h : r ∈ notes.filterMap Note.entryWithDay?) :
    .entry r.2 ∈ notes := by
  obtain ⟨n, hn, hr⟩ := List.mem_filterMap.mp h
  cases n with
  | entry e =>
    obtain ⟨day, -, rfl⟩ := Option.map_eq_some_iff.mp hr
    exact hn
  | violation v => cases hr

/-- The entries of a user are found among the notes that a directory holds. -/
theorem Holds.entriesOf_eq (h : Holds d (notes.filterMap Note.place?))
    (hwindow : 1 ≤ t.windowDays) (hkept : ∀ n ∈ notes, n.IsKept t) (user : Text) (limit : Int) :
    t.entriesOf user limit d =
      (.ok ((((newestFirst t.windowDays.toNat (notes.filterMap Note.entryWithDay?)).filter
        (Entry.isOf user)).take limit.toNat).map Entry.asRead), []) := by
  have hread : ∀ r ∈ notes.filterMap Note.entryWithDay?, r.2.toJson.isStorable = true ∧
      r.2.toJson.fault? true t.readDepth = none ∧
      Entry.ofJson r.2.toJson = .ok r.2.asRead := by
    intro r hr
    have hr := hkept _ (mem_of_mem_entries hr)
    exact ⟨hr.storable, hr.readable, Entry.ofJson_toJson hr.warnings⟩
  rw [Trail.entriesOf]
  split
  · rename_i hlimit
    rw [Int.toNat_of_nonpos hlimit]
    rfl
  · rw [h.scan_eq (placedBy_entries notes) hwindow hread, List.filter_map, List.map_take]
    rfl

/-- What is assumed of a record: its strings are texts and its numbers finite, its warnings lose
nothing, and if it is received, then no more lists and objects stand inside one another in it than
are read. -/
structure Submission.IsSound (t : Trail) (s : Submission) : Prop where
  storable : s.note.toJson.isStorable = true
  readable : s.isReceived = true → s.note.toJson.fault? true t.readDepth = none
  warnings : ∀ w ∈ s.note.warnings, w.IsKept

/-- The first of May 2024. -/
def mayFirst : Date := (Date.make? 2024 5 1).get (by decide)

/-- The day after. -/
def maySecond : Date := (Date.make? 2024 5 2).get (by decide)

/-- Half past eleven on the evening of the first of May by the universal clock. -/
def lateEvening : Timestamp := (Timestamp.make? mayFirst 84600000000 (some 0)).get (by decide)

/-- The same time of day an hour further west, where the universal day is the next one. -/
def lateInTheWest : Timestamp :=
  (Timestamp.make? mayFirst 84600000000 (some (-3600000000))).get (by decide)

/-- An entry of the second of May. -/
def westernEntry : Entry := .bare (.str "u-1".toList) .allowed lateInTheWest

/-- An entry of the same user of the first of May. -/
def eveningEntry : Entry := .bare (.str "u-1".toList) .blocked lateEvening

/-- A violation of the first of May. -/
def eveningViolation : Violation where
  userId := .str "u-2".toList
  attemptedQuery := .str "SELECT pin FROM cards".toList
  blockedColumns := []
  reason := .null
  timestamp := lateEvening
  userEmail := .null
  severity := .str Violation.defaultSeverity

/-- A trail over a week. -/
def weekly : Trail := ⟨7, false, 900, 900⟩

/-- Noon of the first of May on a clock half a millisecond ahead. -/
def hastyNoon : Timestamp := (Timestamp.make? mayFirst 43200000000 (some 500)).get (by decide)

/-- An entry of a clock that is ahead by less than a second. -/
def hastyEntry : Entry := .bare (.str "u-1".toList) .allowed hastyNoon

end QueryGate.Audit
