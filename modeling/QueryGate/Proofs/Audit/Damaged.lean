import QueryGate.Proofs.Audit.LineEnds
import QueryGate.Proofs.Audit.Recall
import QueryGate.Proofs.OrderedMap

/-! # Queries of damaged files

The files of a directory may hold any bytes.  A query finds the records in its partitions, and what
else stands there makes no difference: the answer is the same after every line that holds no record
has been taken out (`Trail.queries_of_cleaned`).  The only assumption is that no line ends the query
because too many values stand inside one another in it. -/

namespace QueryGate.Audit

open Text

/-! ## Other bytes in files -/

/-- The file with other bytes. -/
def File.mapBytes (f : List UInt8 → List UInt8) : File → File
  | .folder => .folder
  | .content bytes => .content (f bytes)

/-- The directory with other bytes in its files. -/
def Directory.mapBytes (f : Text → List UInt8 → List UInt8) : Directory → Directory
  | .present files => .present (files.map fun p => (p.1, p.2.mapBytes (f p.1)))
  | .scarce files room => .scarce (files.map fun p => (p.1, p.2.mapBytes (f p.1))) room
  | d => d

section Partitions

variable {series : Text} {window : Int} {d : Directory}

theorem takeUpTo_map {α β : Type} (f : α → β) (n : Int) (l : List α) :
    takeUpTo n (l.map f) = (takeUpTo n l).map f := by
  simp only [takeUpTo, List.length_map, ← List.map_take]
  split <;> rfl

theorem Directory.files_mapBytes (f : Text → List UInt8 → List UInt8) (d : Directory) :
    (d.mapBytes f).files = d.files.map fun p => (p.1, p.2.mapBytes (f p.1)) := by
  cases d <;> rfl

/-- A query reads the same files, whatever their bytes are. -/
theorem partitions_mapBytes (f : Text → List UInt8 → List UInt8) :
    partitions series window (d.mapBytes f) =
      (partitions series window d).map fun p => (p.1, p.2.mapBytes (f p.1)) := by
  have hsorted : (d.mapBytes f).sorted = d.sorted.map fun p => (p.1, p.2.mapBytes (f p.1)) := by
    rw [Directory.sorted, Directory.sorted, Directory.files_mapBytes]
    exact (List.map_mergeSort (f := fun p : Text × File => (p.1, p.2.mapBytes (f p.1)))
      fun _ _ _ _ => rfl).symm
  rw [partitions, partitions, ← takeUpTo_map, List.map_reverse, hsorted, List.filter_map]
  rfl

theorem mem_of_mem_partitions {p : Text × File} (h : p ∈ partitions series window d) :
    p ∈ d.files ∧ isOfSeries series p.1 = true := by
  have hmem : p ∈ (d.sorted.filter fun f => isOfSeries series f.1).reverse := by
    rw [partitions, takeUpTo] at h
    split at h
    · exact List.mem_of_mem_take h
    · exact List.mem_of_mem_take h
  rw [List.mem_reverse, List.mem_filter, Directory.sorted, List.mem_mergeSort] at hmem
  exact hmem

end Partitions

variable {α : Type} {depth : Nat} {read : Json → Except ReadError α} {wanted : α → Bool}

/-- A query of some files finds and reports the same in other files of their names, if the lines of
each two of them are scanned alike. -/
theorem scan_mapBytes {f : Text → List UInt8 → List UInt8} {files : List (Text × File)}
    (h : ∀ name bytes, (name, .content bytes) ∈ files → ∀ n,
      scanLines depth read wanted n (linesOf (f name bytes)).reverse =
        scanLines depth read wanted n (linesOf bytes).reverse) (n : Nat) :
    scan depth read wanted n (files.map fun p => (p.1, p.2.mapBytes (f p.1))) =
      scan depth read wanted n files := by
  induction files generalizing n with
  | nil => rfl
  | cons p files ih =>
    have hfiles := ih fun name bytes hmem => h name bytes (List.mem_cons_of_mem _ hmem)
    obtain ⟨name, p⟩ := p
    rw [List.map_cons]
    cases p with
    | folder =>
      rw [File.mapBytes, scan, scan, hfiles]
    | content bytes =>
      rw [File.mapBytes, scan, scan, h name bytes List.mem_cons_self]
      simp only [hfiles]

/-! ## Lines that hold no record -/

/-- Whether a line holds a record. -/
def holdsRecord (depth : Nat) (read : Json → Except ReadError α) (line : List UInt8) : Bool :=
  (recordOf? depth read line).isSome

theorem filterMap_filter_holdsRecord (lines : List (List UInt8)) :
    (lines.filter (holdsRecord depth read)).filterMap (recordOf? depth read) =
      lines.filterMap (recordOf? depth read) := by
  rw [List.filterMap_filter]
  refine List.filterMap_congr fun line _ => ?_
  rw [holdsRecord]
  cases recordOf? depth read line <;> rfl

/-- A query of a file does not depend on lines that hold no record. -/
theorem scanLines_keepLines {bytes : List UInt8} (h : (File.content bytes).IsShallow depth)
    (n : Nat) :
    scanLines depth read wanted n (linesOf (keepLines (holdsRecord depth read) bytes)).reverse =
      scanLines depth read wanted n (linesOf bytes).reverse := by
  have hall : ∀ line ∈ (linesOf bytes).reverse, IsShallow depth line :=
    fun line hline => h line (List.mem_reverse.mp hline)
  have hkept : ∀ line ∈ ((linesOf bytes).reverse).filter (holdsRecord depth read),
      IsShallow depth line :=
    fun line hline => hall line (List.mem_of_mem_filter hline)
  rw [linesOf_keepLines rfl, ← List.filter_reverse, scanLines_eq hall, scanLines_eq hkept,
    filterMap_filter_holdsRecord]

/-! ## Queries -/

/-- A file without the lines that hold no record, if it is a partition. -/
def cleanedBytes (depth : Nat) (name : Text) : List UInt8 → List UInt8 :=
  if isOfSeries entrySeries name then keepLines (holdsRecord depth Entry.ofJson)
  else if isOfSeries violationSeries name then keepLines (holdsRecord depth Violation.ofJson)
  else id

/-- The directory without the lines of its partitions that hold no record. -/
def Directory.cleaned (depth : Nat) (d : Directory) : Directory := d.mapBytes (cleanedBytes depth)

/-- The lines of the partitions of a series can be read. -/
def Directory.IsShallow (depth : Nat) (series : Text) (d : Directory) : Prop :=
  ∀ f ∈ d.files, isOfSeries series f.1 = true → f.2.IsShallow depth

/-- No name is one of both series. -/
theorem isOfSeries_entries {name : Text} (h : isOfSeries violationSeries name = true) :
    isOfSeries entrySeries name = false := by
  rw [isOfSeries, Bool.and_eq_true, beginsWith, Option.isSome_iff_exists] at h
  obtain ⟨⟨rest, hrest⟩, -⟩ := h
  rw [eq_append_of_dropLead? hrest]
  rfl

section Queries

variable {d : Directory} {series : Text}

/-- What a query of a series finds, and that it finds the same among the records alone. -/
theorem scan_partitions (wanted : α → Bool) (window : Int) (h : d.IsShallow depth series)
    (hclean : ∀ name, isOfSeries series name = true →
      cleanedBytes depth name = keepLines (holdsRecord depth read)) (n : Nat) :
    (scan depth read wanted n (partitions series window d)).1 =
        .ok ((((partitions series window d).flatMap fun f => f.2.records depth read).filter
          wanted).take n) ∧
      scan depth read wanted n (partitions series window (d.cleaned depth)) =
        scan depth read wanted n (partitions series window d) := by
  have hshallow : ∀ f ∈ partitions series window d, f.2.IsShallow depth := by
    intro f hf
    obtain ⟨hmem, hseries⟩ := mem_of_mem_partitions hf
    exact h f hmem hseries
  refine ⟨scan_fst hshallow n, ?_⟩
  rw [Directory.cleaned, partitions_mapBytes]
  refine scan_mapBytes (fun name bytes hmem n => ?_) n
  rw [hclean name (mem_of_mem_partitions hmem).2]
  exact scanLines_keepLines (hshallow _ hmem) n

variable {t : Trail}

/-- **Damaged files do not disturb queries.**  Whatever the files of a directory hold, a query of the
entries of a user, and one of the violations, finds the records in the newest partitions, newest
first, up to the limit; and it finds and reports the same if all lines that hold no record are taken
out of the partitions. -/
theorem Trail.queries_of_cleaned (hentries : d.IsShallow t.readDepth entrySeries)
    (hviolations : d.IsShallow t.readDepth violationSeries) (limit : Int) :
    (∀ user, (t.entriesOf user limit d).1 =
        .ok ((((partitions entrySeries t.windowDays d).flatMap fun f =>
          f.2.records t.readDepth Entry.ofJson).filter (Entry.isOf user)).take limit.toNat) ∧
      t.entriesOf user limit (d.cleaned t.readDepth) = t.entriesOf user limit d) ∧
    (t.violations limit d).1 =
        .ok (((partitions violationSeries t.windowDays d).flatMap fun f =>
          f.2.records t.readDepth Violation.ofJson).take limit.toNat) ∧
      t.violations limit (d.cleaned t.readDepth) = t.violations limit d := by
  have hentryBytes : ∀ name, isOfSeries entrySeries name = true →
      cleanedBytes t.readDepth name = keepLines (holdsRecord t.readDepth Entry.ofJson) := by
    intro name hname
    rw [cleanedBytes, if_pos hname]
  have hviolationBytes : ∀ name, isOfSeries violationSeries name = true →
      cleanedBytes t.readDepth name = keepLines (holdsRecord t.readDepth Violation.ofJson) := by
    intro name hname
    rw [cleanedBytes, if_neg (by simp [isOfSeries_entries hname]), if_pos hname]
  by_cases hlimit : limit ≤ 0
  · simp [Trail.entriesOf, Trail.violations, hlimit, Int.toNat_of_nonpos hlimit]
  · simp only [Trail.entriesOf, Trail.violations, if_neg hlimit]
    refine ⟨fun user => scan_partitions (Entry.isOf user) t.windowDays hentries hentryBytes _, ?_⟩
    obtain ⟨hfound, hsame⟩ := scan_partitions (fun _ => true) t.windowDays hviolations
      hviolationBytes limit.toNat
    rw [List.filter_true] at hfound
    exact ⟨hfound, hsame⟩

end Queries

/-- The lines of a partition in which an entry stands between a byte that begins no character and
the beginning of an object. -/
def damagedLines : List EndedLine := [
  ⟨[0xFF], [13, 10]⟩,
  ⟨toUtf8 eveningEntry.toJson.render, [10]⟩,
  ⟨toUtf8 ['\x7b'], []⟩]

/-- A directory with a damaged partition, with a folder in the place of another, and with a line that
holds only a tab behind a violation. -/
def damaged : Directory := .present [
  (partitionName entrySeries mayFirst, .content (damagedLines.flatMap EndedLine.bytes)),
  (partitionName entrySeries maySecond, .folder),
  (partitionName violationSeries mayFirst, .content (lineOf eveningViolation.toJson ++ [9]))]

theorem partitions_damaged :
    partitions entrySeries weekly.windowDays damaged = [
      (partitionName entrySeries maySecond, .folder),
      (partitionName entrySeries mayFirst, .content (damagedLines.flatMap EndedLine.bytes))] ∧
    partitions violationSeries weekly.windowDays damaged = [
      (partitionName violationSeries mayFirst,
        .content (lineOf eveningViolation.toJson ++ [9]))] := by
  have hsorted : damaged.sorted = damaged.files := by
    refine List.mergeSort_of_pairwise ?_
    decide +kernel
  rw [partitions, partitions, hsorted]
  exact ⟨rfl, rfl⟩

theorem lines_damaged :
    (File.content (damagedLines.flatMap EndedLine.bytes)).lines =
        [[0xFF], toUtf8 eveningEntry.toJson.render, toUtf8 ['\x7b']] ∧
      (File.content (lineOf eveningViolation.toJson ++ [9])).lines =
        [toUtf8 eveningViolation.toJson.render, [9]] := by
  have hlines : AreLines damagedLines := by
    refine ⟨?_, ?_, ?_⟩ <;> decide +kernel
  refine ⟨hlines.linesOf_flatMap (by decide +kernel), ?_⟩
  decide +kernel

theorem isShallow_damaged :
    damaged.IsShallow weekly.readDepth entrySeries ∧
      damaged.IsShallow weekly.readDepth violationSeries := by
  have hbyte : IsShallow weekly.readDepth [0xFF] := by
    intro s hs
    cases hs
  have hbrace : IsShallow weekly.readDepth (toUtf8 ['\x7b']) := by
    intro s hs
    obtain rfl := Option.some.inj hs
    exact fun h => by cases h
  have htab : IsShallow weekly.readDepth [9] := by
    intro s hs
    obtain rfl := Option.some.inj hs
    exact fun h => by cases h
  have hentry : IsShallow weekly.readDepth (toUtf8 eveningEntry.toJson.render) :=
    isShallow_render (by decide) (by decide)
  have hviolation : IsShallow weekly.readDepth (toUtf8 eveningViolation.toJson.render) :=
    isShallow_render (by decide) (by decide)
  have hall : ∀ f ∈ damaged.files, f.2.IsShallow weekly.readDepth := by
    simp only [damaged, Directory.files, List.forall_mem_cons]
    refine ⟨?_, by simp [File.IsShallow, File.lines], ?_, by simp⟩
    · rw [File.IsShallow, lines_damaged.1]
      simp only [List.forall_mem_cons]
      exact ⟨hbyte, hentry, hbrace, by simp⟩
    · rw [File.IsShallow, lines_damaged.2]
      simp only [List.forall_mem_cons]
      exact ⟨hviolation, htab, by simp⟩
  exact ⟨fun f hf _ => hall f hf, fun f hf _ => hall f hf⟩

theorem records_damaged :
    (File.content (damagedLines.flatMap EndedLine.bytes)).records weekly.readDepth Entry.ofJson =
        [eveningEntry] ∧
      (File.content (lineOf eveningViolation.toJson ++ [9])).records weekly.readDepth Violation.ofJson =
        [eveningViolation] := by
  have hentry : recordOf? weekly.readDepth Entry.ofJson (toUtf8 eveningEntry.toJson.render) =
      some eveningEntry := by
    rw [recordOf?_render (by decide) (by decide), Entry.ofJson_toJson (by intro w hw; cases hw)]
    rfl
  have hviolation : recordOf? weekly.readDepth Violation.ofJson
      (toUtf8 eveningViolation.toJson.render) = some eveningViolation := by
    rw [recordOf?_render (by decide) (by decide), Violation.ofJson_toJson]
    rfl
  have hbyte : recordOf? weekly.readDepth Entry.ofJson [0xFF] = none := rfl
  have hbrace : recordOf? weekly.readDepth Entry.ofJson (toUtf8 ['\x7b']) = none := rfl
  have htab : recordOf? weekly.readDepth Violation.ofJson [9] = none := rfl
  constructor
  · simp [File.records, lines_damaged, hentry, hbyte, hbrace]
  · simp [File.records, lines_damaged, hviolation, htab]

theorem Trail.queries_of_cleaned_damaged :
    (damaged.IsShallow weekly.readDepth entrySeries ∧
      damaged.IsShallow weekly.readDepth violationSeries) ∧
    ((weekly.entriesOf "u-1".toList 5 damaged).1 = .ok [eveningEntry] ∧
      weekly.entriesOf "u-1".toList 5 (damaged.cleaned weekly.readDepth) =
        weekly.entriesOf "u-1".toList 5 damaged) ∧
    (weekly.violations 5 damaged).1 = .ok [eveningViolation] ∧
      weekly.violations 5 (damaged.cleaned weekly.readDepth) = weekly.violations 5 damaged := by
  obtain ⟨hentries, hfound, hsame⟩ := Trail.queries_of_cleaned (t := weekly)
    isShallow_damaged.1 isShallow_damaged.2 5
  obtain ⟨hfoundEntries, hsameEntries⟩ := hentries "u-1".toList
  refine ⟨isShallow_damaged, ⟨?_, hsameEntries⟩, ?_, hsame⟩
  · rw [hfoundEntries, partitions_damaged.1, List.flatMap_cons, List.flatMap_singleton,
      records_damaged.1]
    rfl
  · rw [hfound, partitions_damaged.2, List.flatMap_singleton, records_damaged.2]
    rfl

end QueryGate.Audit
