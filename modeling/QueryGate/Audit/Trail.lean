import QueryGate.Audit.Directory
import QueryGate.Audit.Reader
import QueryGate.Event
import QueryGate.Json.Parser
import QueryGate.Json.Printer

/-!
# The audit trail

Each record is one line of a *partition*, the file of one universal day in one of two series.
Lines are only ever appended.  A record that cannot be written is reported and otherwise ignored,
except for one in which too many values stand inside one another: that fails.  What is reported is
taken to reach the log.

A query reads the newest partitions of a series, each from its last line to its first, and skips
every line that holds no record.  A partition that cannot be read is reported and skipped.  A line
in which too many values stand inside one another ends the query, if it is read before enough
records are found.

How deep is too deep is not said by the trail.  It is what those who call it leave to the writer and
to the reader, which take a call for each value inside another one.
-/

namespace QueryGate.Audit

open Text

/-- How a trail is kept. -/
structure Trail where
  /-- How many partitions a query reads; a negative number leaves out that many of the oldest. -/
  windowDays : Int
  /-- Whether entries are also reported as log events. -/
  reports : Bool
  /-- How many lists and objects may stand inside one another in a record that is written. -/
  writeDepth : Nat
  /-- How many may stand inside one another in a line that is read. -/
  readDepth : Nat
  deriving DecidableEq, Repr

/-- The number of partitions read unless another is given. -/
def Trail.defaultWindow : Int := 7

/-- The beginning of the names of entry partitions. -/
def entrySeries : Text := "audit-".toList

/-- The beginning of the names of violation partitions. -/
def violationSeries : Text := "security-violations-".toList

/-- The end of the names of partitions. -/
def partitionEnd : Text := ".log".toList

/-- The name of a day's partition. -/
def partitionName (series : Text) (day : Date) : Text := series ++ day.toText ++ partitionEnd

/-- The line of a record. -/
def lineOf (record : Json) : List UInt8 := toUtf8 (record.render ++ ['\n'])

/-- A directory after an attempt to write, and what was reported. -/
structure Written where
  directory : Directory
  events : List Event

/-- The columns that a violation names. -/
def Violation.columns (v : Violation) : List Json := v.blockedColumns.map (·.column)

/-- The attempt to add the line of a record to a file. -/
def addLine (name : Text) (record : Json) (written refused : List Event) (d : Directory) : Written :=
  match d.append? name (lineOf record) with
  | some d' => ⟨d', written⟩
  | none => ⟨d.leftBy name (lineOf record), refused⟩

namespace Trail

/-- Adds the line of a record to a file, if the record has a text.  One without a text is refused
before the directory is looked at. -/
def append (t : Trail) (name : Text) (record : Json) (written refused : List Event)
    (d : Directory) : Except Fault Written :=
  match record.fault? true t.writeDepth with
  | some .tooDeep => .error .tooDeep
  | some _ => .ok ⟨d, refused⟩
  | none => .ok (addLine name record written refused d)

/-- Appends an entry to the partition of a day. -/
def recordOn (t : Trail) (day : Date) (e : Entry) : Directory → Except Fault Written :=
  t.append (partitionName entrySeries day) e.toJson
    (if t.reports then [.auditEntry e] else []) [.auditWriteFailed e.userId (some e.status)]

/-- Appends a violation to the partition of a day. -/
def recordViolationOn (t : Trail) (day : Date) (v : Violation) : Directory → Except Fault Written :=
  t.append (partitionName violationSeries day) v.toJson
    [.securityViolation v.severity v.userId v.columns] [.auditWriteFailed v.userId none]

/-- Appends an entry to the partition of its universal date, if that date exists. -/
def record (t : Trail) (e : Entry) (d : Directory) : Except Fault Written :=
  match e.timestamp.utcDate with
  | .ok day => t.recordOn day e d
  | .error f => .error (.clock f)

/-- Appends a violation to the partition of its universal date, if that date exists. -/
def recordViolation (t : Trail) (v : Violation) (d : Directory) : Except Fault Written :=
  match v.timestamp.utcDate with
  | .ok day => t.recordViolationOn day v d
  | .error f => .error (.clock f)

end Trail

/-- The lines of a file after `line`, the part of the current line already read, backwards.  A
line ends in a line feed, a carriage return, or both. -/
def linesFrom (afterReturn : Bool) (line : List UInt8) : List UInt8 → List (List UInt8)
  | [] => if line.isEmpty then [] else [line.reverse]
  | b :: rest =>
    if b = 10 then
      -- the second half of a line end
      if afterReturn then linesFrom false line rest else line.reverse :: linesFrom false [] rest
    else if b = 13 then line.reverse :: linesFrom true [] rest
    else linesFrom false (b :: line) rest

/-- The lines of a file. -/
def linesOf (bytes : List UInt8) : List (List UInt8) := linesFrom false [] bytes

/-- What a line holds. -/
inductive LineContent (α : Type) where
  | record (a : α)
  | nothing
  /-- Too many values inside one another. -/
  | tooDeep

/-- What a line holds, given how deep it may be and how records are read. -/
def contentOf {α : Type} (depth : Nat) (read : Json → Except ReadError α) (line : List UInt8) :
    LineContent α :=
  match ofUtf8? line with
  | none => .nothing
  | some s =>
    match Json.parse (.lenient depth) s with
    | .error .tooDeep => .tooDeep
    | .error _ => .nothing
    | .ok v =>
      match read v with
      | .ok a => .record a
      | .error _ => .nothing

/-- The first `n` records of some lines that are asked for, unless a line before the last of them is
too deep. -/
def scanLines {α : Type} (depth : Nat) (read : Json → Except ReadError α) (wanted : α → Bool) :
    Nat → List (List UInt8) → Option (List α)
  | 0, _ => some []
  | _, [] => some []
  | n + 1, line :: rest =>
    match contentOf depth read line with
    | .tooDeep => none
    | .nothing => scanLines depth read wanted (n + 1) rest
    | .record a =>
      if wanted a then (scanLines depth read wanted n rest).map (a :: ·)
      else scanLines depth read wanted (n + 1) rest

/-- The first `n` items of a list, or all but the last `-n`. -/
def takeUpTo {α : Type} (n : Int) (l : List α) : List α :=
  if 0 ≤ n then l.take n.toNat else l.take (l.length - n.natAbs)

/-- The newest partitions of a series, newest first. -/
def partitions (series : Text) (window : Int) (d : Directory) : List (Text × File) :=
  takeUpTo window
    (d.sorted.filter fun f => beginsWith series f.1 && endsWith partitionEnd f.1).reverse

/-- The first `n` records of some partitions that are asked for, and what was reported; partitions
behind the last one needed are not opened. -/
def scan {α : Type} (depth : Nat) (read : Json → Except ReadError α) (wanted : α → Bool) :
    Nat → List (Text × File) → Except Fault (List α) × List Event
  | _, [] => (.ok [], [])
  -- a folder cannot be read, and the query goes on
  | n, (name, .folder) :: rest =>
    let more := scan depth read wanted n rest
    (more.1, .auditReadFailed name :: more.2)
  | n, (_, .content bytes) :: rest =>
    match scanLines depth read wanted n (linesOf bytes).reverse with
    | none => (.error .tooDeep, [])
    | some found =>
      if found.length = n then (.ok found, [])
      else
        let more := scan depth read wanted (n - found.length) rest
        (more.1.map (found ++ ·), more.2)

/-- Whether an entry belongs to a user. -/
def Entry.isOf (user : Text) (e : Entry) : Bool :=
  match e.userId with
  | .str s => s == user
  | _ => false

namespace Trail

/-- The newest entries of a user, at most `limit`, newest first. -/
def entriesOf (t : Trail) (user : Text) (limit : Int) (d : Directory) :
    Except Fault (List Entry) × List Event :=
  if limit ≤ 0 then (.ok [], [])
  else scan t.readDepth Entry.ofJson (Entry.isOf user) limit.toNat
    (partitions entrySeries t.windowDays d)

/-- The newest violations, at most `limit`, newest first. -/
def violations (t : Trail) (limit : Int) (d : Directory) :
    Except Fault (List Violation) × List Event :=
  if limit ≤ 0 then (.ok [], [])
  else scan t.readDepth Violation.ofJson (fun _ => true) limit.toNat
    (partitions violationSeries t.windowDays d)

end Trail

end QueryGate.Audit
