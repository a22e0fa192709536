import QueryGate.Proofs.Pipeline.Stages

/-! # What a result, its entry and its violation tell

A result is filled in along three ways: by a refusal, by an answer of the source, and by a failure
of the source that is told of.  On each of them its fields fit together (`RunResult.Coherent`), the
entry of the run repeats the request and the result (`Gate.entryOf_tells`), and the one violation
that is recorded names the columns of the result.  A refused statement gives the same result and
the same world with every source, since no source is asked. -/

namespace QueryGate

open Text Audit

/-- The warning is the one about removed columns, by its code. -/
def Warning.IsColumnsBlocked (x : Warning) : Prop := x.toRecord.code = .str "columns_blocked".toList

/-- The fields of a result fit together. -/
structure RunResult.Coherent (r : RunResult) : Prop where
  allowed_iff : r.status = .allowed ↔ r.success = true
  success_iff_error : r.success = true ↔ r.error = none
  success_iff_errorKind : r.success = true ↔ r.errorKind = none
  blocked_iff : r.status = .blocked ↔ r.executed = none
  blocked_nil : r.status = .blocked → r.blocked = []
  rowsReturned_eq : r.rowsReturned = r.rows.length
  warned_iff : (∃ x ∈ r.warnings, x.IsColumnsBlocked) ↔ r.blocked ≠ []

/-- The entry tells of the request and of its result. -/
structure Audit.Entry.Tells (e : Entry) (req : Request) (r : RunResult) : Prop where
  userId : e.userId = .str req.userId
  userEmail : e.userEmail = .ofText? req.userEmail
  database : e.database = .ofText? req.database
  dbType : e.dbType = .ofText? req.dbType
  question : e.question = .ofText? req.question
  generatedSql : e.generatedSql = .str req.statement
  executedSql : e.executedSql = .ofText? r.executed
  status : e.status = r.status
  blockedColumns : e.blockedColumns = r.blocked.map (·.toRecord)
  warnings : e.warnings = r.warnings.map (·.toRecord)
  error : e.error = .ofText? r.error
  rowsReturned : e.rowsReturned = if r.success then .ofNat r.rows.length else .null

/-- The directory takes records of either series at the time that the clock shows. -/
def World.TakesRecords (w : World) : Prop :=
  ∀ now, w.now = .ok now → w.directory.Accepts (partitionName entrySeries now.date) ∧
    w.directory.Accepts (partitionName violationSeries now.date)

namespace Gate

variable {g : Gate} {src : Source} {interrupt : Bool} {req : Request} {w w' : World}
  {now : Timestamp} {r r₀ : RunResult}

theorem entryOf_tells (hsubmitted : r.submitted = req.statement)
    (hrows : r.rowsReturned = r.rows.length) (reason : Option Text) :
    (entryOf now req r reason).Tells req r where
  userId := rfl
  userEmail := rfl
  database := rfl
  dbType := rfl
  question := rfl
  generatedSql := congrArg Json.str hsubmitted
  executedSql := rfl
  status := rfl
  blockedColumns := rfl
  warnings := rfl
  error := rfl
  rowsReturned := by rw [entryOf, hrows]

/-! ## The ways to a result -/

/-- A result was concluded at the time that the clock shows. -/
theorem conclude_result {reason : Option Text} {ended : Outcome}
    (h : g.conclude req r₀ reason ended w = (.result r, w')) :
    ended = .result r ∧ ∃ now, w.now = .ok now ∧ w' = g.audited now req r₀ reason w := by
  cases hnow : w.now with
  | ok now =>
    rw [conclude_of_now hnow] at h
    obtain ⟨rfl, rfl⟩ := Prod.mk.inj h
    exact ⟨rfl, now, rfl, rfl⟩
  | error f =>
    simp only [conclude, hnow] at h
    cases h

/-- A result of the source's answer tells of its rows, or of its failure. -/
theorem finish_result {a : Source.Attempt} (h : g.finish req r₀ a w = (.result r, w')) :
    (∃ now reason, w.now = .ok now ∧ w' = g.audited now req r reason w) ∧
      ((∃ rows few, r = r₀.answered rows few) ∨ ∃ f, r = r₀.failed f) := by
  cases a with
  | answered rows few =>
    obtain ⟨hended, now, hnow, hw⟩ := conclude_result h
    obtain rfl := Outcome.result.inj hended
    exact ⟨⟨now, _, hnow, hw⟩, .inl ⟨rows, few, rfl⟩⟩
  | timedOut =>
    obtain ⟨hended, now, hnow, hw⟩ := conclude_result h
    obtain rfl := Outcome.result.inj hended
    exact ⟨⟨now, _, hnow, hw⟩, .inr ⟨_, rfl⟩⟩
  | interrupted =>
    -- the caller went away, so nobody is given a result
    obtain ⟨hended, -⟩ := conclude_result h
    cases hended
  | raised e =>
    simp only [finish] at h
    split at h
    · rename_i f _
      obtain ⟨hended, now, hnow, hw⟩ := conclude_result h
      obtain rfl := Outcome.result.inj hended
      exact ⟨⟨now, _, hnow, hw⟩, .inr ⟨f, rfl⟩⟩
    · cases e <;> cases h

/-- An accepted statement is given a result only while the clock shows a time. -/
theorem exists_now_of_execute {s : Sanitized}
    (h : g.execute src interrupt req s w = (.result r, w')) : ∃ now, w.now = .ok now := by
  unfold execute at h
  cases hviolation : g.recordViolation req s w with
  | error f => simp [hviolation] at h
  | ok w₁ =>
    simp only [hviolation] at h
    obtain ⟨⟨now, _, hnow, -⟩, -⟩ := finish_result h
    -- neither the record of the violation nor the source changes the clock
    have hnow₁ : w₁.now = .ok now := by
      split at hnow <;> simpa using hnow
    cases hclock : w.now with
    | ok now' => exact ⟨now', rfl⟩
    | error f =>
      obtain rfl := recordViolation_of_fault hclock hviolation
      rw [hclock] at hnow₁
      cases hnow₁

/-! ## The fields of a result -/

theorem refusal_coherent (req : Request) (reason : Text) : (refusal req reason).Coherent where
  allowed_iff := by simp [refusal]
  success_iff_error := by simp [refusal]
  success_iff_errorKind := by simp [refusal]
  blocked_iff := by simp [refusal]
  blocked_nil := fun _ => rfl
  rowsReturned_eq := rfl
  warned_iff := by simp [refusal]

/-- Sanitizing warns of nothing but a missing table. -/
theorem sanitize_warnings (c : Catalog) (s schema : Text) :
    ∀ x ∈ (Sanitizer.sanitize c s schema).warnings, x = .tableNotFound := by
  unfold Sanitizer.sanitize
  split
  · simp
  · dsimp only
    split <;> simp

/-- The result that is pending has a warning about removed columns exactly if some are removed. -/
theorem pending_warned_iff (req : Request) {s : Sanitized} (hs : ∀ x ∈ s.warnings, x = .tableNotFound) :
    (∃ x ∈ (g.pending req s).warnings, x.IsColumnsBlocked) ↔ (g.pending req s).blocked ≠ [] := by
  have hnone : ¬ ∃ x ∈ s.warnings, x.IsColumnsBlocked := by
    rintro ⟨x, hx, hcode⟩
    obtain rfl := hs x hx
    exact absurd (JsonString.text.inj (Json.string.inj hcode)) (by decide)
  cases hblocked : s.blocked with
  | nil => simpa [pending, hblocked] using hnone
  | cons b more =>
    simp only [pending, hblocked, ne_eq, reduceCtorEq, not_false_eq_true, iff_true]
    exact ⟨_, List.mem_append_right _ List.mem_cons_self, rfl⟩

theorem answered_coherent {s : Sanitized} (hs : ∀ x ∈ s.warnings, x = .tableNotFound)
    (rows : List Row) (few : rows.length < Source.countBound) :
    ((g.pending req s).answered rows few).Coherent where
  allowed_iff := by simp [RunResult.answered]
  success_iff_error := by simp [RunResult.answered, pending]
  success_iff_errorKind := by simp [RunResult.answered, pending]
  blocked_iff := by simp [RunResult.answered, pending]
  blocked_nil := by simp [RunResult.answered]
  rowsReturned_eq := rfl
  warned_iff := pending_warned_iff req hs

theorem failed_coherent {s : Sanitized} (hs : ∀ x ∈ s.warnings, x = .tableNotFound)
    (f : Failure) : ((g.pending req s).failed f).Coherent where
  allowed_iff := by simp [RunResult.failed, pending]
  success_iff_error := by simp [RunResult.failed, pending]
  success_iff_errorKind := by simp [RunResult.failed, pending]
  blocked_iff := by simp [RunResult.failed, pending]
  blocked_nil := by simp [RunResult.failed, pending]
  rowsReturned_eq := rfl
  warned_iff := pending_warned_iff req hs

/-! ## The violation -/

/-- A violation is recorded if columns were removed, and else the series is left alone. -/
theorem violationRecorded_series (req : Request) (s : Sanitized)
    (hopen : w.directory.Accepts (partitionName violationSeries now.date)) :
    (s.blocked ≠ [] → LineAppended violationSeries now.date (violationOf now req s.blocked).toJson
        w.directory (violationRecorded now req s w).directory) ∧
      (s.blocked = [] → SeriesKept violationSeries w.directory
        (violationRecorded now req s w).directory) := by
  unfold violationRecorded
  cases hblocked : s.blocked with
  | nil => exact ⟨fun h => absurd rfl h, fun _ _ _ => rfl⟩
  | cons b more => exact ⟨fun _ => lineAppended_addLine hopen, fun h => nomatch h⟩

/-! ## The run -/

/-- The entry that a concluded run adds, in a directory where the violation was recorded before. -/
theorem entryAppended_audited {d : Directory} (hkept : EntriesKept d w.directory)
    (hopen : w.directory.Accepts (partitionName entrySeries now.date)) (reason : Option Text) :
    EntryAppended now.date (entryOf now req r reason) d
      (g.audited now req r reason w).directory :=
  hkept.trans_appended (entryAppended_addEntry hopen)

/-- A refused statement ends in a refusal that is the same with every source. -/
theorem run_refused {rejection : Rejection} (hjudge : g.rules.judge req.statement = .rejected rejection)
    (h : g.run src interrupt req w = (.result r, w')) :
    ∃ reason now, r = refusal req reason ∧ w.now = .ok now ∧
      w' = g.audited now req r (some reason) (w.report [.statementRejected rejection]) ∧
      ∀ src' interrupt', g.run src' interrupt' req w = (.result r, w') := by
  have hsame : ∀ src' interrupt', g.run src' interrupt' req w = g.run src interrupt req w := by
    intro src' interrupt'
    simp only [run, hjudge]
  cases hreason : rejection.reason? with
  | none => simp [run, hjudge, hreason] at h
  | some reason =>
    rw [run_of_rejected hjudge hreason] at h
    obtain ⟨hended, now, hnow, hw⟩ := conclude_result h
    obtain rfl := Outcome.result.inj hended
    refine ⟨reason, now, rfl, by simpa using hnow, hw, ?_⟩
    intro src' interrupt'
    rw [hsame, run_of_rejected hjudge hreason, h]

/-- An accepted statement ends in its pending result with an answer or a failure in it, concluded
in the world in which the source was asked. -/
theorem run_accepted (hjudge : g.rules.judge req.statement = .safe)
    (h : g.run src interrupt req w = (.result r, w')) :
    let s := Sanitizer.sanitize g.catalog req.statement req.schema
    ∃ now reason, w.now = .ok now ∧
      w' = g.audited now req r reason (g.asked src now req s (w.report s.events)) ∧
      ((∃ rows few, r = (g.pending req s).answered rows few) ∨
        ∃ f, r = (g.pending req s).failed f) := by
  intro s
  obtain ⟨now, hnow⟩ : ∃ now, w.now = .ok now := by
    simp only [run, hjudge] at h
    simpa using exists_now_of_execute h
  rw [run_of_safe hnow hjudge] at h
  obtain ⟨⟨now', reason, hnow', hw⟩, hr⟩ := finish_result h
  have hclock : now' = now := by
    rw [now_asked, World.now_report, hnow] at hnow'
    exact (Except.ok.inj hnow').symm
  exact ⟨now, reason, hnow, hclock ▸ hw, hr⟩

/-- **What a run tells agrees.**  If a run over a trail that takes records gives a result, then the
fields of the result fit together; the statement is refused exactly if the status says so, and then
every source gives the same, for none is asked; one entry is added, which tells of the request and
the result; and one violation with the columns of the result is added exactly if there are any. -/
theorem result_agrees (hrun : g.run src interrupt req w = (.result r, w')) (hopen : w.TakesRecords) :
    r.Coherent ∧
      (r.status = .blocked ↔ g.rules.judge req.statement ≠ .safe) ∧
      (r.status = .blocked → w'.executed = w.executed ∧
        ∀ src' interrupt', g.run src' interrupt' req w = (.result r, w')) ∧
      ∃ (now : Timestamp) (e : Entry), w.now = .ok now ∧ e.timestamp = now ∧ e.Tells req r ∧
        EntryAppended now.date e w.directory w'.directory ∧
        (r.blocked ≠ [] → ∃ v : Violation, v.timestamp = now ∧
          v.attemptedQuery = .str req.statement ∧ v.blockedColumns = r.blocked.map (·.toRecord) ∧
          LineAppended violationSeries now.date v.toJson w.directory w'.directory) ∧
        (r.blocked = [] → SeriesKept violationSeries w.directory w'.directory) := by
  cases hjudge : g.rules.judge req.statement with
  | rejected rejection =>
    obtain ⟨reason, now, rfl, hnow, rfl, hsame⟩ := run_refused hjudge hrun
    refine ⟨refusal_coherent req reason, by simp [refusal], fun _ => ⟨rfl, hsame⟩, now, _, hnow,
      rfl, entryOf_tells rfl rfl (some reason), ?_, fun h => absurd rfl h, fun _ => ?_⟩
    · exact entryAppended_audited (w := w.report _) (fun _ _ => rfl) (hopen now hnow).1 _
    · exact violationsKept_addEntry _ _ _ _
  | safe =>
    obtain ⟨now, reason, hnow, rfl, hr⟩ := run_accepted hjudge hrun
    generalize hs : Sanitizer.sanitize g.catalog req.statement req.schema = s at hr
    have hwarnings : ∀ x ∈ s.warnings, x = .tableNotFound := hs ▸ sanitize_warnings _ _ _
    -- what holds on both ways to a result
    have hfields : r.Coherent ∧ r.status ≠ .blocked ∧ r.submitted = req.statement ∧
        r.blocked = s.blocked := by
      rcases hr with ⟨rows, few, rfl⟩ | ⟨f, rfl⟩
      · exact ⟨answered_coherent hwarnings rows few, by simp [RunResult.answered], rfl, rfl⟩
      · exact ⟨failed_coherent hwarnings f, by simp [RunResult.failed, pending], rfl, rfl⟩
    obtain ⟨hcoherent, hstatus, hsubmitted, hblocked⟩ := hfields
    obtain ⟨hentries, hviolations⟩ := hopen now hnow
    obtain ⟨hadded, hkept⟩ := violationRecorded_series (w := w.report s.events) req s
      hviolations
    have hasked : (g.asked src now req s (w.report s.events)).directory =
        (violationRecorded now req s (w.report s.events)).directory := directory_asked s
    have hlast : SeriesKept violationSeries
        (violationRecorded now req s (w.report s.events)).directory
        (g.audited now req r reason (g.asked src now req s (w.report s.events))).directory := by
      rw [← hasked]
      exact violationsKept_addEntry _ _ _ _
    refine ⟨hcoherent, by simpa using hstatus, fun h => absurd h hstatus, now, _, hnow, rfl,
      entryOf_tells hsubmitted hcoherent.rowsReturned_eq reason, ?_, ?_, ?_⟩
    · refine entryAppended_audited ?_ ?_ reason
      · rw [hasked]
        exact entriesKept_violationRecorded s
      · rw [hasked]
        exact accepts_violationRecorded s hentries
    · rw [hblocked]
      exact fun h => ⟨violationOf now req s.blocked, rfl, rfl, rfl, (hadded h).trans_kept hlast⟩
    · rw [hblocked]
      intro h name hname
      rw [hlast name hname]
      exact hkept h name hname

/-- A statement with a sensitive column, for which the source fails: the violation is recorded all
the same. -/
theorem result_agrees_down :
    let g := (Sample.service []).gate
    let src := Source.memory (Sample.memory (some (.backend (.internal "down".toList))))
    let req := Sample.request "SELECT id, password FROM users".toList
    ∃ r w', g.run src false req Sample.world = (.result r, w') ∧ Sample.world.TakesRecords ∧
      r.Coherent ∧ r.status = .error ∧ r.blocked = [⟨"password".toList⟩] ∧
      ∃ (now : Timestamp) (e : Entry), Sample.world.now = .ok now ∧ e.Tells req r ∧
        EntryAppended now.date e Sample.world.directory w'.directory ∧
        ∃ v : Violation, v.attemptedQuery = .str req.statement ∧
          v.blockedColumns = r.blocked.map (·.toRecord) ∧
          LineAppended violationSeries now.date v.toJson Sample.world.directory w'.directory := by
  intro g src req
  have hjudge : g.rules.judge req.statement = .safe := by decide
  have hblocked : (Sanitizer.sanitize g.catalog req.statement req.schema).blocked =
      [⟨"password".toList⟩] := by decide
  have hopen : Sample.world.TakesRecords := by
    intro now hnow
    obtain rfl := Except.ok.inj hnow
    exact ⟨Directory.accepts_absent _, Directory.accepts_absent _⟩
  have hrun : ∃ r w', g.run src false req Sample.world = (.result r, w') ∧ r.status = .error ∧
      r.blocked = [⟨"password".toList⟩] := by
    rw [run_of_safe rfl hjudge]
    exact ⟨_, _, rfl, rfl, hblocked⟩
  obtain ⟨r, w', hrun, hstatus, hcolumns⟩ := hrun
  obtain ⟨hcoherent, -, -, now, e, hnow, -, htells, hentry, hviolation, -⟩ :=
    result_agrees hrun hopen
  obtain ⟨v, -, hquery, hnames, hline⟩ := hviolation (by simp [hcolumns])
  exact ⟨r, w', hrun, hopen, hcoherent, hstatus, hcolumns, now, e, hnow, htells, hentry, v, hquery,
    hnames, hline⟩

end Gate

end QueryGate
