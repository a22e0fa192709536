import QueryGate.Pipeline.Service
import QueryGate.Proofs.Audit.Content
import QueryGate.Proofs.Json.Fitting

/-! # What a run records has a text

Texts may be anything, and the one number in an entry is that of the rows, which every list counts in
a machine word.  No more than `recordDepth` lists and objects stand inside one another
(`fitsIn_entryOf`, `fitsIn_undraftedEntry`, `fitsIn_violationOf`).

Since whoever calls a gate leaves room for that, no attempt to record what a run leaves fails or is
refused for what is in it: each adds a line to the partition of its day, or what is left of one
(`Gate.recordOn_entryOf`, `Gate.recordOn_undraftedEntry`, `Gate.recordViolationOn_violationOf`). -/

namespace QueryGate

open Text Audit Json

/-! ## The parts of a record -/

section Parts

variable {n : Nat}

theorem fitsIn_columnRecord (b : BlockedColumn) : FitsIn (n + 1) b.toRecord.toJson := by
  have hnames : ["column", "category", "reason"].Nodup := by decide
  refine fitsIn_object hnames ?_
  simp only [List.forall_mem_cons]
  exact ⟨fitsIn_str _, fitsIn_str _, fitsIn_str _, List.forall_mem_nil _⟩

theorem fitsIn_suggestion (x : Suggestion) : FitsIn (n + 1) x.toJson := by
  have hnames : ["original", "safe", "explanation"].Nodup := by decide
  refine fitsIn_object hnames ?_
  simp only [List.forall_mem_cons]
  exact ⟨fitsIn_str _, fitsIn_str _, fitsIn_str _, List.forall_mem_nil _⟩

theorem fitsIn_blockedDetails (columns : List BlockedColumn) (suggestions : List Suggestion) :
    FitsIn (n + 3) (.object [("blocked_columns", .arr (columns.map (·.toJson))),
      ("suggested_alternatives", .arr (suggestions.map (·.toJson)))]) := by
  have hnames : ["blocked_columns", "suggested_alternatives"].Nodup := by decide
  refine fitsIn_object hnames ?_
  simp only [List.forall_mem_cons]
  refine ⟨fitsIn_arr ?_, fitsIn_arr ?_, List.forall_mem_nil _⟩
  · intro v hv
    obtain ⟨b, -, rfl⟩ := List.mem_map.mp hv
    exact fitsIn_columnRecord b
  · intro v hv
    obtain ⟨x, -, rfl⟩ := List.mem_map.mp hv
    exact fitsIn_suggestion x

theorem fitsIn_warning (x : Warning) : FitsIn (n + 4) x.toRecord.toJson := by
  cases x with
  | tableNotFound =>
    -- no details are written where there are none
    have hobject : Warning.tableNotFound.toRecord.toJson = .object [
        ("message", Warning.tableNotFound.toRecord.message),
        ("code", Warning.tableNotFound.toRecord.code)] := rfl
    have hnames : ["message", "code"].Nodup := by decide
    rw [hobject]
    refine fitsIn_object hnames ?_
    simp only [List.forall_mem_cons]
    exact ⟨fitsIn_str _, fitsIn_str _, List.forall_mem_nil _⟩
  | columnsBlocked columns suggestions =>
    have hobject : (Warning.columnsBlocked columns suggestions).toRecord.toJson = .object [
        ("message", (Warning.columnsBlocked columns suggestions).toRecord.message),
        ("code", (Warning.columnsBlocked columns suggestions).toRecord.code),
        ("details", (Warning.columnsBlocked columns suggestions).toRecord.details)] := rfl
    have hnames : ["message", "code", "details"].Nodup := by decide
    rw [hobject]
    refine fitsIn_object hnames ?_
    simp only [List.forall_mem_cons]
    exact ⟨fitsIn_str _, fitsIn_str _, fitsIn_blockedDetails columns suggestions,
      List.forall_mem_nil _⟩

end Parts

/-! ## Entries and violations -/

section Records

variable {src : Source} {now : Timestamp} {q : Question} {n : Nat}

/-- What a machine word counts is short. -/
theorem countBound_le : Source.countBound ≤ 10 ^ maxDigits :=
  (by decide : 2 ^ 63 ≤ 10 ^ 19).trans (Nat.pow_le_pow_right (by decide) (by decide))

theorem fitsIn_columnRecords (blocked : List BlockedColumn) :
    FitsIn (n + 2) (.arr ((blocked.map (·.toRecord)).map (·.toJson))) := by
  refine fitsIn_arr fun v hv => ?_
  rw [List.map_map] at hv
  obtain ⟨b, -, rfl⟩ := List.mem_map.mp hv
  exact fitsIn_columnRecord b

theorem fitsIn_warnings (warnings : List Warning) :
    FitsIn (n + 5) (.arr ((warnings.map (·.toRecord)).map (·.toJson))) := by
  refine fitsIn_arr fun v hv => ?_
  rw [List.map_map] at hv
  obtain ⟨x, -, rfl⟩ := List.mem_map.mp hv
  exact fitsIn_warning x

/-- The names of the fields of an entry. -/
theorem nodup_fields (e : Entry) : (e.fields.map (·.1)).Nodup := by
  have hnames : ["timestamp", "user_id", "user_email", "database", "db_type",
      "natural_language_query", "generated_sql", "executed_sql", "status", "blocked_columns",
      "warnings", "reason", "execution_time_ms", "rows_returned", "error"].Nodup := by decide
  exact hnames

theorem fitsIn_entryOf (req : Request) (r : RunResult) (reason : Option Text) :
    FitsIn (n + 6) (Gate.entryOf now req r reason).toJson := by
  have hrows : r.rowsReturned < 10 ^ maxDigits := r.counted.trans_le countBound_le
  have hreturned : FitsIn (n + 5) (Gate.entryOf now req r reason).rowsReturned := by
    simp only [Gate.entryOf]
    split
    · exact fitsIn_ofNat hrows
    · exact fitsIn_null
  refine fitsIn_object (nodup_fields _) ?_
  simp only [Entry.fields, List.forall_mem_cons]
  exact ⟨fitsIn_str _, fitsIn_str _, fitsIn_ofText? _, fitsIn_ofText? _, fitsIn_ofText? _,
    fitsIn_ofText? _, fitsIn_str _, fitsIn_ofText? _, fitsIn_str _, fitsIn_columnRecords r.blocked,
    fitsIn_warnings r.warnings, fitsIn_ofText? _, fitsIn_float_zero, hreturned, fitsIn_ofText? _,
    List.forall_mem_nil _⟩

theorem fitsIn_undraftedEntry (message : Text) :
    FitsIn (n + 6) (Service.undraftedEntry now q src message).toJson := by
  refine fitsIn_object (nodup_fields _) ?_
  simp only [Entry.fields, List.forall_mem_cons]
  exact ⟨fitsIn_str _, fitsIn_str _, fitsIn_ofText? _, fitsIn_str _, fitsIn_str _, fitsIn_str _,
    fitsIn_null, fitsIn_null, fitsIn_str _, fitsIn_columnRecords [], fitsIn_warnings [],
    fitsIn_null, fitsIn_null, fitsIn_null, fitsIn_str _, List.forall_mem_nil _⟩

theorem fitsIn_violationOf (req : Request) (blocked : List BlockedColumn) :
    FitsIn (n + 6) (Gate.violationOf now req blocked).toJson := by
  have hnames : ["timestamp", "severity", "user_id", "user_email", "attempted_query",
      "blocked_columns", "reason"].Nodup := by decide
  refine fitsIn_object hnames ?_
  simp only [List.forall_mem_cons]
  exact ⟨fitsIn_str _, fitsIn_str _, fitsIn_str _, fitsIn_ofText? _, fitsIn_str _,
    fitsIn_columnRecords blocked, fitsIn_str _, List.forall_mem_nil _⟩

end Records

/-! ## Recording -/

namespace Gate

variable (g : Gate)

theorem exists_writeDepth : ∃ n, g.trail.writeDepth = n + 6 :=
  ⟨g.trail.writeDepth - 6, (Nat.sub_add_cancel g.room.1).symm⟩

theorem exists_readDepth : ∃ n, g.trail.readDepth = n + 6 :=
  ⟨g.trail.readDepth - 6, (Nat.sub_add_cancel g.room.2).symm⟩

theorem recordOn_entryOf (day : Date) (now : Timestamp) (req : Request) (r : RunResult)
    (reason : Option Text) (d : Directory) :
    g.trail.recordOn day (entryOf now req r reason) d =
      .ok (g.trail.addEntry day (entryOf now req r reason) d) := by
  obtain ⟨n, hn⟩ := g.exists_writeDepth
  refine Trail.recordOn_of_no_fault ?_ day d
  rw [hn]
  exact (fitsIn_entryOf req r reason).readable true

theorem recordOn_undraftedEntry (day : Date) (now : Timestamp) (q : Question) (src : Source)
    (message : Text) (d : Directory) :
    g.trail.recordOn day (Service.undraftedEntry now q src message) d =
      .ok (g.trail.addEntry day (Service.undraftedEntry now q src message) d) := by
  obtain ⟨n, hn⟩ := g.exists_writeDepth
  refine Trail.recordOn_of_no_fault ?_ day d
  rw [hn]
  exact (fitsIn_undraftedEntry message).readable true

theorem recordViolationOn_violationOf (day : Date) (now : Timestamp) (req : Request)
    (blocked : List BlockedColumn) (d : Directory) :
    g.trail.recordViolationOn day (violationOf now req blocked) d =
      .ok (Trail.addViolation day (violationOf now req blocked) d) := by
  obtain ⟨n, hn⟩ := g.exists_writeDepth
  refine Trail.recordViolationOn_of_no_fault ?_ day d
  rw [hn]
  exact (fitsIn_violationOf req blocked).readable true

end Gate

end QueryGate
