import QueryGate.Audit.Trail

/-! # What recording does to the files of the directory

A directory is read through the bytes of its files by name (`Directory.content`).  Appending adds
bytes to one file and leaves the others alone (`content_append?`).  It succeeds exactly if the
directory takes so many bytes for the file (`Directory.Takes`): it can be made, no folder has the
name, and there is room.  Where it fails, at most the beginning of the bytes is left, and that in the
same file (`leftBy_cases`).

For the trail this means that a record adds one line to the partition of its day
(`lineAppended_addLine`) and leaves the other series alone, whether it could be written or not
(`seriesKept_addLine`). -/

namespace QueryGate.Audit

open Text

/-- The bytes of a file; a folder and a missing file have none. -/
def bytesOf : Option File → List UInt8
  | some (.content bytes) => bytes
  | _ => []

namespace Directory

/-- The bytes in the file of a name. -/
def content (d : Directory) (name : Text) : List UInt8 := bytesOf (d.files.lookup name)

/-- How many more bytes come into the files, if that is limited. -/
def room? : Directory → Option Nat
  | scarce _ room => some room
  | _ => none

/-- The directory takes `n` bytes for the file of a name: it exists or can be made, no folder has
that name, and there is room. -/
structure Takes (d : Directory) (name : Text) (n : Nat) : Prop where
  writable : d.isWritable = true
  file : d.files.lookup name ≠ some .folder
  room : ∀ r, d.room? = some r → n ≤ r

/-- The directory takes bytes for the file of a name, however many. -/
def Accepts (d : Directory) (name : Text) : Prop := ∀ n, d.Takes name n

theorem accepts_iff {d : Directory} {name : Text} : d.Accepts name ↔
    d.isWritable = true ∧ d.files.lookup name ≠ some .folder ∧ d.room? = none := by
  constructor
  · intro h
    refine ⟨(h 0).writable, (h 0).file, ?_⟩
    cases hroom : d.room? with
    | none => rfl
    | some r => exact absurd ((h (r + 1)).room r hroom) (Nat.not_succ_le_self r)
  · rintro ⟨hwritable, hfile, hroom⟩ n
    refine ⟨hwritable, hfile, fun r hr => ?_⟩
    rw [hroom] at hr
    cases hr

/-- A directory that does not exist yet takes bytes for every file. -/
theorem accepts_absent (name : Text) : absent.Accepts name := accepts_iff.mpr ⟨rfl, nofun, rfl⟩

/-! ## Appending -/

theorem lookup_cons_eq_ite (n m : Text) (f : File) (files : List (Text × File)) :
    ((m, f) :: files).lookup n = if n = m then some f else files.lookup n := by
  by_cases h : n = m
  · simp [h]
  · simp [List.lookup_cons, beq_false_of_ne h, h]

theorem lookup_appendTo {name : Text} {bytes : List UInt8} {files files' : List (Text × File)}
    (h : appendTo name bytes files = some files') (n : Text) :
    files'.lookup n =
      if n = name then some (.content (bytesOf (files.lookup name) ++ bytes))
      else files.lookup n := by
  induction files generalizing files' with
  | nil =>
    obtain rfl := Option.some.inj h
    simp [lookup_cons_eq_ite, bytesOf]
  | cons p files ih =>
    obtain ⟨m, f⟩ := p
    simp only [appendTo] at h
    by_cases hm : m = name
    · subst hm
      cases f with
      | folder => simp at h
      | content old =>
        simp only [if_true, Option.some.injEq] at h
        subst h
        by_cases hn : n = m <;> simp [lookup_cons_eq_ite, hn, bytesOf]
    · obtain ⟨rest, hrest, rfl⟩ := Option.map_eq_some_iff.mp (by simpa [hm] using h)
      by_cases hn : n = m
      · subst hn
        simp [hm]
      · simp [lookup_cons_eq_ite, hn, ih hrest, Ne.symm hm]

theorem appendTo_of_lookup_ne_folder {name : Text} (bytes : List UInt8)
    {files : List (Text × File)} (h : files.lookup name ≠ some .folder) :
    ∃ files', appendTo name bytes files = some files' := by
  induction files with
  | nil => exact ⟨_, rfl⟩
  | cons p files ih =>
    obtain ⟨m, f⟩ := p
    by_cases hm : m = name
    · subst hm
      cases f with
      | folder => simp at h
      | content old => exact ⟨(m, .content (old ++ bytes)) :: files, by simp [appendTo]⟩
    · obtain ⟨rest, hrest⟩ := ih (by simpa [lookup_cons_eq_ite, Ne.symm hm] using h)
      exact ⟨(m, f) :: rest, by simp [appendTo, hm, hrest]⟩

/-- A folder takes no bytes. -/
theorem appendTo_of_lookup_folder {name : Text} (bytes : List UInt8) {files : List (Text × File)}
    (h : files.lookup name = some .folder) : appendTo name bytes files = none := by
  induction files with
  | nil => simp at h
  | cons p files ih =>
    obtain ⟨m, f⟩ := p
    by_cases hm : m = name
    · subst hm
      obtain rfl : f = .folder := by simpa using h
      simp [appendTo]
    · have hrest := ih (by simpa [lookup_cons_eq_ite, Ne.symm hm] using h)
      simp [appendTo, hm, hrest]

/-- What appending leaves: the bytes in their file, and less room. -/
theorem append?_eq_some {name : Text} {bytes : List UInt8} {d d' : Directory}
    (h : d.append? name bytes = some d') :
    appendTo name bytes d.files = some d'.files ∧ d'.isWritable = true ∧
      d'.room? = d.room?.map (· - bytes.length) := by
  cases d with
  | unavailable => cases h
  | absent | present _ =>
    rw [append?] at h
    obtain ⟨files, hfiles, rfl⟩ := Option.map_eq_some_iff.mp h
    exact ⟨hfiles, rfl, rfl⟩
  | scarce files room =>
    rw [append?] at h
    split at h
    · obtain ⟨files, hfiles, rfl⟩ := Option.map_eq_some_iff.mp h
      exact ⟨hfiles, rfl, rfl⟩
    · cases h

theorem append?_of_takes {name : Text} {bytes : List UInt8} {d : Directory}
    (h : d.Takes name bytes.length) : ∃ d', d.append? name bytes = some d' := by
  obtain ⟨files, hfiles⟩ := appendTo_of_lookup_ne_folder bytes h.file
  cases d with
  | unavailable => cases h.writable
  | absent | present _ => exact ⟨.present files, congrArg (Option.map present) hfiles⟩
  | scarce old room =>
    have hroom : bytes.length ≤ room := h.room room rfl
    refine ⟨.scarce files (room - bytes.length), ?_⟩
    rw [append?, if_pos hroom]
    exact congrArg (Option.map (scarce · (room - bytes.length))) hfiles

theorem append?_of_accepts {name : Text} {d : Directory} (h : d.Accepts name)
    (bytes : List UInt8) : ∃ d', d.append? name bytes = some d' := append?_of_takes (h _)

theorem append?_of_not_takes {name : Text} {bytes : List UInt8} {d : Directory}
    (h : ¬ d.Takes name bytes.length) : d.append? name bytes = none := by
  -- what was appended was taken
  cases hd : d.append? name bytes with
  | none => rfl
  | some d' =>
    refine absurd ⟨?_, fun hfolder => ?_, fun r hr => ?_⟩ h
    · cases d with
      | unavailable => cases hd
      | absent | present _ | scarce _ _ => rfl
    · have hfiles := (append?_eq_some hd).1
      rw [appendTo_of_lookup_folder bytes hfolder] at hfiles
      cases hfiles
    · cases d with
      | unavailable | absent | present _ => cases hr
      | scarce files room =>
        obtain rfl := Option.some.inj hr
        rw [append?] at hd
        split at hd
        · assumption
        · cases hd

theorem lookup_append? {name : Text} {bytes : List UInt8} {d d' : Directory}
    (h : d.append? name bytes = some d') (n : Text) :
    d'.files.lookup n =
      if n = name then some (.content (d.content name ++ bytes)) else d.files.lookup n :=
  lookup_appendTo (append?_eq_some h).1 n

/-- Appending adds the bytes to the file of that name and to no other. -/
theorem content_append? {name : Text} {bytes : List UInt8} {d d' : Directory}
    (h : d.append? name bytes = some d') (n : Text) :
    d'.content n = d.content n ++ if n = name then bytes else [] := by
  by_cases hn : n = name
  · subst hn
    simp [content, lookup_append? h, bytesOf]
  · simp [content, lookup_append? h, hn]

/-- Appending to one file takes no other file away. -/
theorem accepts_append? {name n : Text} {bytes : List UInt8} {d d' : Directory}
    (h : d.append? name bytes = some d') (hn : d.Accepts n) : d'.Accepts n := by
  obtain ⟨-, hfile, hroom⟩ := accepts_iff.mp hn
  obtain ⟨-, hwritable, hleft⟩ := append?_eq_some h
  refine accepts_iff.mpr ⟨hwritable, ?_, by rw [hleft, hroom, Option.map_none]⟩
  rw [lookup_append? h]
  split
  · simp
  · exact hfile

@[simp] theorem files_ensure (d : Directory) : d.ensure.files = d.files := by cases d <;> rfl

@[simp] theorem content_ensure (d : Directory) (name : Text) :
    d.ensure.content name = d.content name := by simp [content]

theorem accepts_ensure {d : Directory} {name : Text} (h : d.Accepts name) :
    d.ensure.Accepts name := by
  obtain ⟨hwritable, hfile, hroom⟩ := accepts_iff.mp h
  refine accepts_iff.mpr ⟨?_, by simpa using hfile, ?_⟩
  · cases d with
    | unavailable => exact hwritable
    | absent | present _ | scarce _ _ => rfl
  · cases d with
    | scarce _ _ => cases hroom
    | unavailable | absent | present _ => rfl

/-! ## Failing to append -/

/-- A file gained some bytes, and was made if need be; every other entry is as it was. -/
def Gained (name : Text) (bytes : List UInt8) (d d' : Directory) : Prop :=
  ∀ n, d'.files.lookup n =
    if n = name then some (.content (d.content name ++ bytes)) else d.files.lookup n

/-- What is left where bytes were not taken: no file changed, because the directory cannot be made or
a folder has the name; or the file gained as many of the bytes as there was room for. -/
theorem leftBy_cases {name : Text} {bytes : List UInt8} {d : Directory}
    (h : ¬ d.Takes name bytes.length) :
    (¬ d.Takes name 0 ∧ (d.leftBy name bytes).files = d.files) ∨
      ∃ r, d.room? = some r ∧ r < bytes.length ∧
        d.Gained name (bytes.take r) (d.leftBy name bytes) := by
  cases d with
  | unavailable => exact .inl ⟨fun htakes => Bool.false_ne_true htakes.writable, rfl⟩
  | absent => exact absurd ⟨rfl, by simp [files], nofun⟩ h
  | present fs =>
    refine .inl ⟨fun htakes => h ⟨rfl, htakes.file, nofun⟩, rfl⟩
  | scarce fs room =>
    by_cases hfolder : fs.lookup name = some .folder
    · refine .inl ⟨fun htakes => htakes.file hfolder, ?_⟩
      rw [leftBy, appendTo_of_lookup_folder _ hfolder]
    · have hroom : room < bytes.length := by
        refine Nat.not_le.mp fun hroom => h ⟨rfl, hfolder, fun r hr => ?_⟩
        obtain rfl := Option.some.inj hr
        exact hroom
      obtain ⟨files', hfiles⟩ := appendTo_of_lookup_ne_folder (bytes.take room) hfolder
      refine .inr ⟨room, rfl, hroom, ?_⟩
      rw [leftBy, hfiles]
      exact lookup_appendTo hfiles

/-- What is left of an attempt is in the file of its name. -/
theorem content_leftBy_of_ne {name n : Text} (hn : n ≠ name) (bytes : List UInt8)
    (d : Directory) : (d.leftBy name bytes).content n = d.content n := by
  cases d with
  | unavailable | absent | present _ => rfl
  | scarce fs room =>
    rw [leftBy]
    split
    · rename_i files' hfiles
      simp only [content, files, lookup_appendTo hfiles, if_neg hn]
    · rfl

end Directory

/-! ## One series -/

theorem beginsWith_append (lead s : Text) : beginsWith lead (lead ++ s) = true := by
  simp [beginsWith, dropLead?_append]

theorem beginsWith_partitionName (series : Text) (day : Date) :
    beginsWith series (partitionName series day) = true := by
  rw [partitionName, List.append_assoc]
  exact beginsWith_append _ _

theorem lineOf_ne_nil (record : Json) : lineOf record ≠ [] := by
  intro h
  simp only [lineOf, toUtf8, List.flatMap_eq_nil_iff] at h
  exact absurd (h '\n' (by simp)) (by decide)

/-- A series is the same in both directories. -/
def SeriesKept (series : Text) (d d' : Directory) : Prop :=
  ∀ name, beginsWith series name = true → d'.content name = d.content name

/-- A series gained the line of one record, in the partition of a day, and nothing else. -/
def LineAppended (series : Text) (day : Date) (record : Json) (d d' : Directory) : Prop :=
  ∀ name, beginsWith series name = true →
    d'.content name =
      d.content name ++ if name = partitionName series day then lineOf record else []

theorem SeriesKept.trans_appended {series : Text} {day : Date} {record : Json}
    {d₀ d d' : Directory} (h₀ : SeriesKept series d₀ d)
    (h : LineAppended series day record d d') : LineAppended series day record d₀ d' := by
  intro name hname
  rw [h name hname, h₀ name hname]

theorem LineAppended.trans_kept {series : Text} {day : Date} {record : Json}
    {d₀ d d' : Directory} (h₀ : LineAppended series day record d₀ d) (h : SeriesKept series d d') :
    LineAppended series day record d₀ d' := by
  intro name hname
  rw [h name hname, h₀ name hname]

/-- A line is never empty, so a series that gained one is not the same. -/
theorem LineAppended.not_kept {series : Text} {day : Date} {record : Json} {d d' : Directory}
    (h : LineAppended series day record d d') : ¬ SeriesKept series d d' := by
  have hname := beginsWith_partitionName series day
  intro hkept
  have hline := h _ hname
  rw [hkept _ hname, if_pos rfl] at hline
  exact lineOf_ne_nil _ (List.self_eq_append_right.mp hline)

/-- The series of entries is the same in both directories. -/
def EntriesKept : Directory → Directory → Prop := SeriesKept entrySeries

/-- The series of entries gained the line of one entry, in the partition of a day, and nothing
else. -/
def EntryAppended (day : Date) (e : Entry) : Directory → Directory → Prop :=
  LineAppended entrySeries day e.toJson

/-! ## Adding a line -/

section AddLine

variable {series : Text} {day : Date} {record : Json} {written refused : List Event}
  {d : Directory}

/-- A record adds its line to the partition of its day. -/
theorem lineAppended_addLine (h : d.Accepts (partitionName series day)) :
    LineAppended series day record d
      (addLine (partitionName series day) record written refused d).directory := by
  intro name _
  obtain ⟨d', hd⟩ := Directory.append?_of_accepts h (lineOf record)
  simp only [addLine, hd]
  exact Directory.content_append? hd name

/-- A line leaves every series alone that its file does not belong to. -/
theorem seriesKept_addLine {name : Text} (hother : beginsWith series name = false) :
    SeriesKept series d (addLine name record written refused d).directory := by
  intro n hn
  have hne : n ≠ name := by
    rintro rfl
    rw [hother] at hn
    cases hn
  simp only [addLine]
  split
  · rename_i d' hd
    simp [Directory.content_append? hd, hne]
  · exact Directory.content_leftBy_of_ne hne _ d

theorem accepts_addLine {name n : Text} (h : d.Accepts n) :
    (addLine name record written refused d).directory.Accepts n := by
  simp only [addLine]
  split
  · rename_i d' hd
    exact Directory.accepts_append? hd h
  · -- where nothing limits the room, a failure leaves the directory alone
    have hroom := (Directory.accepts_iff.mp h).2.2
    cases d with
    | scarce _ _ => cases hroom
    | unavailable | absent | present _ => exact Directory.accepts_ensure h

end AddLine

/-- The names of the partitions of one series do not begin as those of the other do. -/
theorem beginsWith_other (day : Date) :
    beginsWith entrySeries (partitionName violationSeries day) = false ∧
      beginsWith violationSeries (partitionName entrySeries day) = false := ⟨rfl, rfl⟩

/-! ## Records that have a text -/

namespace Trail

/-- The attempt to add the line of an entry to the partition of a day. -/
def addEntry (t : Trail) (day : Date) (e : Entry) : Directory → Written :=
  addLine (partitionName entrySeries day) e.toJson (if t.reports then [.auditEntry e] else [])
    [.auditWriteFailed e.userId (some e.status)]

/-- The attempt to add the line of a violation to the partition of a day. -/
def addViolation (day : Date) (v : Violation) : Directory → Written :=
  addLine (partitionName violationSeries day) v.toJson
    [.securityViolation v.severity v.userId v.columns] [.auditWriteFailed v.userId none]

variable {t : Trail}

theorem append_of_no_fault {record : Json} (h : record.fault? true t.writeDepth = none)
    (name : Text) (written refused : List Event) (d : Directory) :
    t.append name record written refused d = .ok (addLine name record written refused d) := by
  simp only [append, h]

theorem recordOn_of_no_fault {e : Entry} (h : e.toJson.fault? true t.writeDepth = none)
    (day : Date) (d : Directory) : t.recordOn day e d = .ok (t.addEntry day e d) :=
  append_of_no_fault h _ _ _ d

theorem recordViolationOn_of_no_fault {v : Violation}
    (h : v.toJson.fault? true t.writeDepth = none) (day : Date) (d : Directory) :
    t.recordViolationOn day v d = .ok (addViolation day v d) :=
  append_of_no_fault h _ _ _ d

end Trail

/-- An entry adds its line to the partition of its day. -/
theorem entryAppended_addEntry {t : Trail} {day : Date} {e : Entry} {d : Directory}
    (h : d.Accepts (partitionName entrySeries day)) :
    EntryAppended day e d (t.addEntry day e d).directory := lineAppended_addLine h

/-- A violation leaves the series of entries alone. -/
theorem entriesKept_addViolation (day : Date) (v : Violation) (d : Directory) :
    EntriesKept d (Trail.addViolation day v d).directory :=
  seriesKept_addLine (beginsWith_other day).1

/-- An entry leaves the series of violations alone. -/
theorem violationsKept_addEntry (t : Trail) (day : Date) (e : Entry) (d : Directory) :
    SeriesKept violationSeries d (t.addEntry day e d).directory :=
  seriesKept_addLine (beginsWith_other day).2

end QueryGate.Audit
