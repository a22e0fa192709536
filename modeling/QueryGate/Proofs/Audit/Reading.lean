import QueryGate.Audit.Reader
import QueryGate.Proofs.Json.Members
import QueryGate.Proofs.Time.Reading

/-! # Records read back from their objects

A column record is read from its object as it is (`ColumnRecord.ofJson_toJson`).  A warning loses
a code or details that count as not given (`WarningRecord.ofJson_toJson_asRead`), so it is read as it
was if it has none or a given one (`WarningRecord.IsKept`).  An entry and a violation keep everything
else, with the timestamp as it is read (`Entry.ofJson_toJson`, `Violation.ofJson_toJson`). -/

namespace QueryGate.Audit

open Text

/-! ## Fields -/

section Fields

variable {field : String} {l : List (String × Json)} {v : Json}

theorem required_object (h : l.reverse.lookup field = some v) :
    required field (.object l) = .ok v := by
  have hmember := Json.member?_object field l
  rw [h] at hmember
  unfold required
  rw [Json.object, Json.obj] at hmember ⊢
  rw [Json.member?] at hmember
  simp only [hmember]

theorem optional_object (default : Json) (h : l.reverse.lookup field = some v) :
    optional field default (.object l) = v := by
  rw [optional, Json.member?_object, h, Option.getD_some]

theorem optional_object_absent {default : Json} (h : l.reverse.lookup field = none) :
    optional field default (.object l) = default := by
  rw [optional, Json.member?_object, h, Option.getD_none]

end Fields

/-! ## The parts of a record -/

theorem readTimestamp_toText (t : Timestamp) :
    readTimestamp (.str t.toText) = .ok t.asRead := by
  have hread := t.ofText?_toText
  simp only [readTimestamp, JsonString.shown, hread]

theorem Status.ofText?_text (s : Status) : Status.ofText? s.text = some s := by
  cases s <;> decide

theorem readStatus_text (s : Status) : readStatus (.str s.text) = .ok s := by
  simp only [readStatus, Status.ofText?_text]

theorem readAll_map {α β : Type} {read : Json → Except ReadError β} {write : α → Json}
    {again : α → β} {l : List α} (h : ∀ a ∈ l, read (write a) = .ok (again a)) :
    readAll read (l.map write) = .ok (l.map again) := by
  induction l with
  | nil => rfl
  | cons a l ih =>
    rw [List.map_cons, readAll, h a List.mem_cons_self,
      ih fun b hb => h b (List.mem_cons_of_mem a hb), List.map_cons]

theorem readList_arr {α β : Type} {read : Json → Except ReadError β} {write : α → Json}
    {again : α → β} {l : List α} (h : ∀ a ∈ l, read (write a) = .ok (again a)) :
    readList read (.arr (l.map write)) = .ok (l.map again) :=
  readAll_map h

theorem ColumnRecord.ofJson_toJson (c : ColumnRecord) : ofJson c.toJson = .ok c := by
  have hcolumn : required "column" c.toJson = .ok c.column :=
    required_object (by simp [List.lookup_cons])
  have hcategory : optional "category" (.str "sensitive".toList) c.toJson = c.category :=
    optional_object _ (by simp [List.lookup_cons])
  have hreason : optional "reason" (.str []) c.toJson = c.reason :=
    optional_object _ (by simp)
  rw [ofJson, hcolumn, hcategory, hreason]
  rfl

/-- The warning that is read where `w` was written: a code that counts as not given is null, and
details that do are an empty object. -/
def WarningRecord.asRead (w : WarningRecord) : WarningRecord where
  message := w.message
  code := if w.code.isTruthy then w.code else .null
  details := if w.details.isTruthy then w.details else .obj []

theorem WarningRecord.ofJson_toJson_asRead (w : WarningRecord) : ofJson w.toJson = .ok w.asRead := by
  have hmessage : required "message" w.toJson = .ok w.message := by
    refine required_object ?_
    split <;> split <;> simp [List.lookup_cons]
  have hcode : optional "code" .null w.toJson = if w.code.isTruthy then w.code else .null := by
    by_cases hgiven : w.code.isTruthy = true
    · rw [if_pos hgiven]
      refine optional_object _ ?_
      rw [if_pos hgiven]
      split <;> simp [List.lookup_cons]
    · rw [if_neg hgiven, toJson, if_neg hgiven]
      refine optional_object_absent ?_
      split <;> simp
  have hdetails : optional "details" .null w.toJson =
      if w.details.isTruthy then w.details else .null := by
    by_cases hgiven : w.details.isTruthy = true
    · rw [if_pos hgiven]
      refine optional_object _ ?_
      rw [if_pos hgiven]
      split <;> simp
    · rw [if_neg hgiven, toJson, if_neg hgiven]
      refine optional_object_absent ?_
      split <;> simp
  have hempty : (if (if w.details.isTruthy then w.details else .null).isTruthy then
      (if w.details.isTruthy then w.details else .null) else .obj []) =
        if w.details.isTruthy then w.details else .obj [] := by
    by_cases hgiven : w.details.isTruthy = true
    · rw [if_pos hgiven, if_pos hgiven]
    · rw [if_neg hgiven, if_neg hgiven]
      rfl
  simp only [ofJson, hmessage, hcode, hdetails, hempty, bind, Except.bind, pure, Except.pure]
  rfl

/-- The code of a warning is null or given, and its details are an object. -/
structure WarningRecord.IsKept (w : WarningRecord) : Prop where
  code : w.code = .null ∨ w.code.isTruthy = true
  details : ∃ l, w.details = .members l

theorem WarningRecord.IsKept.asRead_eq_self {w : WarningRecord} (h : w.IsKept) : w.asRead = w := by
  obtain ⟨message, code, details⟩ := w
  obtain ⟨hcode, l, rfl⟩ := h
  have hcode : (if code.isTruthy then code else .null) = code := by
    rcases hcode with rfl | hgiven
    · rfl
    · exact if_pos hgiven
  have hdetails : (if (Json.members l).isTruthy then Json.members l else .obj []) = .members l := by
    cases l <;> rfl
  simp only [asRead, hcode, hdetails]

/-- The entry that is read where `e` was written. -/
def Entry.asRead (e : Entry) : Entry := { e with timestamp := e.timestamp.asRead }

/-- The same whatever its warnings are. -/
def Entry.normal (e : Entry) : Entry := { e.asRead with warnings := e.warnings.map (·.asRead) }

theorem Entry.ofJson_toJson_normal (e : Entry) : Entry.ofJson e.toJson = .ok e.normal := by
  have hoptional : ∀ field v, e.fields.reverse.lookup field = some v →
      optional field .null e.toJson = v := fun field v hv => optional_object _ hv
  have hrequired : ∀ field v, e.fields.reverse.lookup field = some v →
      required field e.toJson = .ok v := fun field v hv => required_object hv
  have hcolumns := readList_arr (l := e.blockedColumns) fun c _ => c.ofJson_toJson
  have hwarnings := readList_arr (l := e.warnings) fun w _ => w.ofJson_toJson_asRead
  rw [List.map_id'] at hcolumns
  rw [ofJson, hrequired "timestamp" (.str e.timestamp.toText) (by simp [fields, List.lookup_cons]),
    hrequired "user_id" e.userId (by simp [fields, List.lookup_cons]),
    hrequired "status" (.str e.status.text) (by simp [fields, List.lookup_cons]),
    hoptional "blocked_columns" (.arr (e.blockedColumns.map (·.toJson)))
      (by simp [fields, List.lookup_cons]),
    hoptional "warnings" (.arr (e.warnings.map (·.toJson))) (by simp [fields, List.lookup_cons]),
    hoptional "user_email" e.userEmail (by simp [fields, List.lookup_cons]),
    hoptional "database" e.database (by simp [fields, List.lookup_cons]),
    hoptional "db_type" e.dbType (by simp [fields, List.lookup_cons]),
    hoptional "natural_language_query" e.question (by simp [fields, List.lookup_cons]),
    hoptional "generated_sql" e.generatedSql (by simp [fields, List.lookup_cons]),
    hoptional "executed_sql" e.executedSql (by simp [fields, List.lookup_cons]),
    hoptional "reason" e.reason (by simp [fields, List.lookup_cons]),
    hoptional "execution_time_ms" e.executionTimeMs (by simp [fields, List.lookup_cons]),
    hoptional "rows_returned" e.rowsReturned (by simp [fields, List.lookup_cons]),
    hoptional "error" e.error (by simp [fields])]
  simp only [bind, Except.bind, readTimestamp_toText, readStatus_text, hcolumns, hwarnings, pure,
    Except.pure]
  rfl

theorem Entry.normal_eq_asRead {e : Entry} (h : ∀ w ∈ e.warnings, w.IsKept) :
    e.normal = e.asRead := by
  have hwarnings : e.warnings.map (·.asRead) = e.warnings :=
    (List.map_congr_left fun w hw => (h w hw).asRead_eq_self).trans (List.map_id' _)
  rw [normal, hwarnings]
  rfl

theorem Entry.ofJson_toJson {e : Entry} (h : ∀ w ∈ e.warnings, w.IsKept) :
    Entry.ofJson e.toJson = .ok e.asRead := by
  rw [ofJson_toJson_normal, normal_eq_asRead h]

/-- The violation that is read where `v` was written. -/
def Violation.asRead (v : Violation) : Violation := { v with timestamp := v.timestamp.asRead }

theorem Violation.ofJson_toJson (v : Violation) : Violation.ofJson v.toJson = .ok v.asRead := by
  have htimestamp : required "timestamp" v.toJson = .ok (.str v.timestamp.toText) :=
    required_object (by simp [List.lookup_cons])
  have huser : required "user_id" v.toJson = .ok v.userId :=
    required_object (by simp [List.lookup_cons])
  have hquery : required "attempted_query" v.toJson = .ok v.attemptedQuery :=
    required_object (by simp [List.lookup_cons])
  have hblocked : optional "blocked_columns" .null v.toJson =
      .arr (v.blockedColumns.map (·.toJson)) := optional_object _ (by simp [List.lookup_cons])
  have hreason : required "reason" v.toJson = .ok v.reason := required_object (by simp)
  have hemail : optional "user_email" .null v.toJson = v.userEmail :=
    optional_object _ (by simp [List.lookup_cons])
  have hseverity : optional "severity" (.str Violation.defaultSeverity) v.toJson = v.severity :=
    optional_object _ (by simp [List.lookup_cons])
  have hcolumns := readList_arr (l := v.blockedColumns) fun c _ => c.ofJson_toJson
  rw [List.map_id'] at hcolumns
  rw [ofJson, htimestamp, huser, hquery, hblocked, hreason, hemail, hseverity]
  simp only [bind, Except.bind, readTimestamp_toText, hcolumns, pure, Except.pure]
  rfl

end QueryGate.Audit
