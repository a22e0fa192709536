import QueryGate.Proofs.Audit.Recall
import QueryGate.Proofs.OrderedMap
import QueryGate.Proofs.Time.Calendar

/-! # What becomes of a record

Whatever a record holds and whatever is in the directory, an attempt to record that returns ends in
one of four ways (`Outcome`).  The partition of the day gained one complete line; or the record has
no text, because a number in it is too long; or no file changed, because the directory takes nothing
for the partition; or the line was cut off where the room ended.  In the last three cases the failure
was reported.

There are two ways not to return (`Trail.recording_outcome`).  The day has to be found first, so a
record whose instant has no universal date is not refused but fails; if it states its distance from
universal time, that happens within a day of either end of the calendar only.  And a record fails in
which more lists and objects stand inside one another than there is room for. -/

namespace QueryGate.Audit

/-- Some bytes are one complete line: a line feed ends them, and no line ends before. -/
def IsLine (bytes : List UInt8) : Prop :=
  ∃ line, bytes = line ++ [10] ∧ ∀ b ∈ line, b ≠ 10 ∧ b ≠ 13

/-- A record is written as one complete line, whatever it holds. -/
theorem isLine_lineOf (record : Json) : IsLine (lineOf record) :=
  ⟨_, lineOf_eq record, noLineEnd_render record⟩

/-- How an attempt to record ends that returns. -/
inductive Outcome (series : Text) (day : Date) (record : Json) (depth : Nat)
    (written refused : List Event) (d : Directory) (w : Written) : Prop where
  | appended (text : record.fault? true depth = none)
      (taken : d.Takes (partitionName series day) (lineOf record).length)
      (line : IsLine (lineOf record))
      (gained : d.Gained (partitionName series day) (lineOf record) w.directory)
      (reported : w.events = written)
  /-- A number in the record is too long, and the directory is not even made. -/
  | unwritten (long : record.fault? true depth = some .tooManyDigits)
      (kept : w.directory = d) (reported : w.events = refused)
  | nothing (rejects : ¬ d.Takes (partitionName series day) 0)
      (kept : w.directory.files = d.files) (reported : w.events = refused)
  /-- There is room for the beginning of the line, or for none of it. -/
  | cut (n : Nat) (room : d.room? = some n) (short : n < (lineOf record).length)
      (gained : d.Gained (partitionName series day) ((lineOf record).take n) w.directory)
      (reported : w.events = refused)

section Attempt

variable {t : Trail} {series : Text} {day : Date} {record : Json} {written refused : List Event}
  {d : Directory}

/-- An attempt to add the line of a record that has a text. -/
theorem outcome_addLine (htext : record.fault? true t.writeDepth = none) :
    Outcome series day record t.writeDepth written refused d
      (addLine (partitionName series day) record written refused d) := by
  rw [addLine]
  by_cases htaken : d.Takes (partitionName series day) (lineOf record).length
  · obtain ⟨d', hd⟩ := Directory.append?_of_takes htaken
    rw [hd]
    exact .appended htext htaken (isLine_lineOf record) (Directory.lookup_append? hd) rfl
  · rw [Directory.append?_of_not_takes htaken]
    rcases Directory.leftBy_cases htaken with ⟨hrejects, hkept⟩ | ⟨n, hroom, hshort, hgained⟩
    · exact .nothing hrejects hkept rfl
    · exact .cut n hroom hshort hgained rfl

/-- An attempt to record fails only for too deep a record. -/
theorem Trail.append_ok_iff {name : Text} :
    (∃ w, t.append name record written refused d = .ok w) ↔
      record.fault? true t.writeDepth ≠ some .tooDeep := by
  rw [append]
  split
  · rename_i hdeep
    simp [hdeep]
  · rename_i f hdeep hf
    simp only [hf, Except.ok.injEq, exists_eq', ne_eq, Option.some.injEq, true_iff]
    rintro rfl
    exact hdeep rfl
  · rename_i hnone
    simp [hnone]

theorem outcome_append {w : Written}
    (h : t.append (partitionName series day) record written refused d = .ok w) :
    Outcome series day record t.writeDepth written refused d w := by
  cases hfault : record.fault? true t.writeDepth with
  | none =>
    rw [Trail.append_of_no_fault hfault] at h
    obtain rfl := Except.ok.inj h
    exact outcome_addLine hfault
  | some f =>
    rw [Trail.append, hfault] at h
    cases f with
    | tooDeep => cases h
    | malformed => exact absurd hfault (Json.fault?_ne_malformed true record t.writeDepth)
    | tooManyDigits =>
      obtain rfl := Except.ok.inj h
      exact .unwritten hfault rfl rfl

/-- What is recorded on the universal date of a timestamp fails if there is none, or if it fails on
that date. -/
theorem ok_on_utcDate_iff {timestamp : Timestamp} {α : Type} {on : Date → Except Fault α}
    {p : Prop} (h : ∀ day, (∃ a, on day = .ok a) ↔ p) :
    (∃ a, (match timestamp.utcDate with
      | .ok day => on day
      | .error f => .error (.clock f)) = .ok a) ↔ ¬ timestamp.LeavesCalendar ∧ p := by
  rw [← Timestamp.utcDate_eq_error_iff]
  cases timestamp.utcDate with
  | ok day => simp [h]
  | error f => simp

end Attempt

/-- **What becomes of a record.**  An attempt to record fails exactly if the instant has no universal
date or too many lists and objects stand inside one another, and otherwise has one of the four
outcomes, in the partition of its date.  This holds of all entries and all violations, and of every
state of the directory. -/
theorem Trail.recording_outcome (t : Trail) (d : Directory) :
    (∀ e : Entry, ((∃ w, t.record e d = .ok w) ↔ ¬ e.timestamp.LeavesCalendar ∧
        e.toJson.fault? true t.writeDepth ≠ some .tooDeep) ∧
      ∀ w, t.record e d = .ok w → ∃ day, e.timestamp.utcDate = .ok day ∧
        Outcome entrySeries day e.toJson t.writeDepth (if t.reports then [.auditEntry e] else [])
          [.auditWriteFailed e.userId (some e.status)] d w) ∧
    ∀ v : Violation, ((∃ w, t.recordViolation v d = .ok w) ↔ ¬ v.timestamp.LeavesCalendar ∧
        v.toJson.fault? true t.writeDepth ≠ some .tooDeep) ∧
      ∀ w, t.recordViolation v d = .ok w → ∃ day, v.timestamp.utcDate = .ok day ∧
        Outcome violationSeries day v.toJson t.writeDepth
          [.securityViolation v.severity v.userId v.columns] [.auditWriteFailed v.userId none] d
          w := by
  refine ⟨fun e => ⟨?_, ?_⟩, fun v => ⟨?_, ?_⟩⟩
  · exact ok_on_utcDate_iff fun day => append_ok_iff
  · intro w hw
    obtain ⟨day, hday, hw⟩ := record_eq_ok_iff.mp hw
    exact ⟨day, hday, outcome_append hw⟩
  · exact ok_on_utcDate_iff fun day => append_ok_iff
  · intro w hw
    obtain ⟨day, hday, hw⟩ := recordViolation_eq_ok_iff.mp hw
    exact ⟨day, hday, outcome_append hw⟩

/-- A directory in which a folder takes the place of the violations of the first of May. -/
def folderForMay : Directory := .present [(partitionName violationSeries mayFirst, .folder)]

/-- A directory with room for twenty bytes. -/
def nearlyFull : Directory := .scarce [] 20

theorem Trail.recording_outcome_folder :
    (∃ w, weekly.record eveningEntry folderForMay = .ok w ∧ w.events = [] ∧
      folderForMay.Gained (partitionName entrySeries mayFirst) (lineOf eveningEntry.toJson)
        w.directory) ∧
    (∃ w, weekly.recordViolation eveningViolation folderForMay = .ok w ∧
      w.events = [.auditWriteFailed eveningViolation.userId none] ∧
      w.directory.files = folderForMay.files) ∧
    ∃ w, weekly.record eveningEntry nearlyFull = .ok w ∧
      w.events = [.auditWriteFailed eveningEntry.userId (some eveningEntry.status)] ∧
      nearlyFull.Gained (partitionName entrySeries mayFirst)
        ((lineOf eveningEntry.toJson).take 20) w.directory := by
  obtain ⟨hentries, hviolations⟩ := Trail.recording_outcome weekly folderForMay
  have hlate : lateEvening.utcDate = .ok mayFirst := rfl
  refine ⟨?_, ?_, ?_⟩
  · obtain ⟨hreturns, houtcome⟩ := hentries eveningEntry
    obtain ⟨w, hw⟩ := hreturns.mpr ⟨by decide, by decide⟩
    obtain ⟨day, hday, houtcome⟩ := houtcome w hw
    obtain rfl : mayFirst = day := Except.ok.inj (hlate.symm.trans hday)
    cases houtcome with
    | appended _ _ _ hgained hreported => exact ⟨w, hw, hreported, hgained⟩
    | unwritten hlong => exact absurd hlong (by decide)
    | nothing hrejects => exact absurd ⟨rfl, by decide, nofun⟩ hrejects
    | cut n hroom => cases hroom
  · obtain ⟨hreturns, houtcome⟩ := hviolations eveningViolation
    obtain ⟨w, hw⟩ := hreturns.mpr ⟨by decide, by decide⟩
    obtain ⟨day, hday, houtcome⟩ := houtcome w hw
    obtain rfl : mayFirst = day := Except.ok.inj (hlate.symm.trans hday)
    cases houtcome with
    | appended _ htaken => exact absurd rfl htaken.file
    | unwritten hlong => exact absurd hlong (by decide)
    | nothing _ hkept hreported => exact ⟨w, hw, hreported, hkept⟩
    | cut n hroom => cases hroom
  · obtain ⟨hreturns, houtcome⟩ := (Trail.recording_outcome weekly nearlyFull).1 eveningEntry
    obtain ⟨w, hw⟩ := hreturns.mpr ⟨by decide, by decide⟩
    obtain ⟨day, hday, houtcome⟩ := houtcome w hw
    obtain rfl : mayFirst = day := Except.ok.inj (hlate.symm.trans hday)
    cases houtcome with
    | appended _ htaken =>
      have hlength : (lineOf eveningEntry.toJson).length ≤ 20 := htaken.room 20 rfl
      exact absurd hlength (by decide +kernel)
    | unwritten hlong => exact absurd hlong (by decide)
    | nothing hrejects => exact absurd ⟨rfl, by decide, fun r _ => Nat.zero_le r⟩ hrejects
    | cut n hroom _ hgained hreported =>
      obtain rfl : 20 = n := Option.some.inj hroom
      exact ⟨w, hw, hreported, hgained⟩

/-! ## A record that fails -/

/-- The first midnight of the calendar on a clock an hour ahead of universal time. -/
def firstMidnight : Timestamp :=
  (Timestamp.make? Date.earliest 0 (some 3600000000)).get (by decide)

/-- The last hour of the calendar on a clock an hour behind. -/
def lastHour : Timestamp :=
  (Timestamp.make? Date.latest 82800000000 (some (-3600000000))).get (by decide)

/-- A record of either hour fails, though its distance from universal time is stated and the
directory can be made. -/
theorem Trail.record_fails_off_calendar :
    weekly.record (.bare (.str "u-1".toList) .allowed firstMidnight) .absent =
        .error (.clock .dateOutOfRange) ∧
      weekly.recordViolation { eveningViolation with timestamp := lastHour } .absent =
        .error (.clock .dateOutOfRange) :=
  ⟨rfl, rfl⟩

end QueryGate.Audit
