import QueryGate.Proofs.Pipeline.Agreement

/-! # What is told of a failing backend

A source fails in time if it raises a failure of its backend before the deadline of the gate
(`Source.FailsInTime`).  An accepted statement then ends in a failed result, with an entry that
repeats it (`Gate.run_of_failing`).  The text and the code that both carry depend on one thing: was
the failure a deadline that the backend set itself (`Gate.failureTold`)?  The gate learns of its own
deadline by the same kind of failure, and so takes the backend's for its own.  Every other failure
is told in the backend's words (`Gate.told_in_backend_words_iff`). -/

namespace QueryGate

open Text Audit

/-- The backend gave up waiting on its own account. -/
def BackendError.IsDeadline : BackendError → Prop
  | .deadline _ => True
  | _ => False

namespace Source

/-- The source is asked, and raises a failure of its backend for a statement before the deadline. -/
structure FailsInTime (src : Source) (timeout : Number) (s : Text) (e : BackendError) : Prop where
  asked : timeout.isNonpositive = false
  early : (src.delay.isPositive && timeout.le src.delay) = false
  raises : src.answer s = .error (.backend e)

variable {src : Source} {timeout : Number} {s : Text} {e : BackendError}

/-- How the attempt ends when the source fails in time. -/
theorem FailsInTime.attempt_eq (h : src.FailsInTime timeout s e) :
    (e.IsDeadline ∧ src.attempt timeout false s = .timedOut) ∨
      (¬ e.IsDeadline ∧ src.attempt timeout false s = .raised (.backend e)) := by
  simp only [attempt, h.asked, h.early, h.raises, Bool.false_and, Bool.false_eq_true, if_false]
  cases e with
  | deadline message => exact .inl ⟨trivial, rfl⟩
  | _ => exact .inr ⟨id, rfl⟩

end Source

namespace Gate

variable {g : Gate} {src : Source} {req : Request} {w : World} {now : Timestamp}
  {e : BackendError}

/-- What is told of a failing backend. -/
def failureTold (g : Gate) : BackendError → Failure
  | .deadline _ => ⟨(GuardError.timeout g.timeout none).message, .timeout⟩
  | e => ⟨e.text, .executionFailure⟩

theorem failureTold_of_isDeadline (h : e.IsDeadline) :
    g.failureTold e = ⟨(GuardError.timeout g.timeout none).message, .timeout⟩ := by
  cases e with
  | deadline message => rfl
  | _ => exact h.elim

theorem failureTold_of_not_isDeadline (h : ¬ e.IsDeadline) :
    g.failureTold e = ⟨e.text, .executionFailure⟩ := by
  cases e with
  | deadline message => exact absurd trivial h
  | _ => rfl

/-- A run whose source fails in time is concluded with what is told of the failure. -/
theorem run_of_failing {s : Sanitized}
    (hs : Sanitizer.sanitize g.catalog req.statement req.schema = s)
    (hsafe : g.rules.judge req.statement = .safe) (hnow : w.now = .ok now)
    (hfails : src.FailsInTime g.timeout s.statement e) :
    g.run src false req w =
      (.result ((g.pending req s).failed (g.failureTold e)),
        g.audited now req ((g.pending req s).failed (g.failureTold e)) none
          (g.asked src now req s (w.report s.events))) := by
  have hnow' : (g.asked src now req s (w.report s.events)).now = .ok now := by simpa using hnow
  rw [run_of_safe hnow hsafe, hs, ← conclude_of_now hnow']
  rcases hfails.attempt_eq with ⟨hdeadline, hattempt⟩ | ⟨hother, hattempt⟩
  · rw [hattempt, failureTold_of_isDeadline hdeadline]
    rfl
  · rw [hattempt, failureTold_of_not_isDeadline hother]
    rfl

/-- **A failing backend is told of in its own words, unless it failed by a deadline of its own.**
If the source of an accepted statement fails in time, the run gives a failed result, and one entry
that repeats it is added wherever the directory takes entries.  Result and entry carry the text of
the failure, under the code of a failed execution, exactly if the failure is no deadline of the
backend; in place of such a deadline they tell of the deadline of the gate, which has not passed.
Failures of the gate itself are not meant here, nor is what may be raised that is no failure. -/
theorem told_in_backend_words_iff (hsafe : g.rules.judge req.statement = .safe)
    (hnow : w.now = .ok now)
    (hfails : src.FailsInTime g.timeout
      (Sanitizer.sanitize g.catalog req.statement req.schema).statement e) :
    ∃ (r : RunResult) (w' : World) (entry : Entry), g.run src false req w = (.result r, w') ∧
      r.status = .error ∧ entry.timestamp = now ∧ entry.Tells req r ∧
      (w.directory.Accepts (partitionName entrySeries now.date) →
        EntryAppended now.date entry w.directory w'.directory) ∧
      ((r.errorKind = some .executionFailure ∧ r.error = some e.text ∧
        entry.error = .str e.text) ↔ ¬ e.IsDeadline) ∧
      (e.IsDeadline → r.errorKind = some .timeout ∧
        r.error = some (GuardError.timeout g.timeout none).message ∧
        entry.error = .str (GuardError.timeout g.timeout none).message) := by
  generalize hs : Sanitizer.sanitize g.catalog req.statement req.schema = s at hfails
  have hrun := run_of_failing hs hsafe hnow hfails
  generalize hr : (g.pending req s).failed (g.failureTold e) = r at hrun
  have hfields : r.status = .error ∧ r.submitted = req.statement ∧ r.rows = [] ∧
      r.rowsReturned = 0 ∧ r.error = some (g.failureTold e).message ∧
      r.errorKind = some (g.failureTold e).code := by
    subst hr
    exact ⟨rfl, rfl, rfl, rfl, rfl, rfl⟩
  obtain ⟨hstatus, hsubmitted, hrows, hreturned, herror, hkind⟩ := hfields
  have htells : (entryOf now req r none).Tells req r :=
    entryOf_tells hsubmitted (by rw [hrows, hreturned]; rfl) none
  have hentry : (entryOf now req r none).error = .str (g.failureTold e).message := by
    rw [htells.error, herror]
    rfl
  refine ⟨r, _, _, hrun, hstatus, rfl, htells, fun hopen => ?_, ⟨?_, fun hother => ?_⟩,
    fun hdeadline => ?_⟩
  · -- the violation that was recorded before does not touch the entries
    refine entryAppended_audited ?_ ?_ none
    · rw [directory_asked]
      exact entriesKept_violationRecorded s
    · rw [directory_asked]
      exact accepts_violationRecorded s hopen
  · rintro ⟨hcode, -⟩ hdeadline
    rw [hkind, failureTold_of_isDeadline hdeadline] at hcode
    cases hcode
  · rw [hkind, herror, hentry, failureTold_of_not_isDeadline hother]
    exact ⟨rfl, rfl, rfl⟩
  · rw [hkind, herror, hentry, failureTold_of_isDeadline hdeadline]
    exact ⟨rfl, rfl, rfl⟩

/-- A source that takes two seconds to fail. -/
def slowlyFailing (e : BackendError) : Source :=
  .memory { Sample.memory (some (.backend e)) with delay := .int 2 }

/-- A missing key, which is told of in quotes, with a sensitive column in the statement. -/
theorem told_in_backend_words_iff_missingKey :
    let g := (Sample.service []).gate
    let req := Sample.request "SELECT id, password FROM users".toList
    let e := BackendError.missingKey "id".toList
    g.rules.judge req.statement = .safe ∧ Sample.world.now = .ok Sample.noon ∧
      (slowlyFailing e).FailsInTime g.timeout
        (Sanitizer.sanitize g.catalog req.statement req.schema).statement e ∧
      ∃ (r : RunResult) (w' : World) (entry : Entry),
        g.run (slowlyFailing e) false req Sample.world = (.result r, w') ∧
        EntryAppended Sample.noon.date entry Sample.world.directory w'.directory ∧
        r.errorKind = some .executionFailure ∧ r.error = some "'id'".toList ∧
        entry.error = .str "'id'".toList := by
  intro g req e
  have hsafe : g.rules.judge req.statement = .safe := by decide
  have hfails : (slowlyFailing e).FailsInTime g.timeout
      (Sanitizer.sanitize g.catalog req.statement req.schema).statement e :=
    ⟨by decide, by decide +kernel, rfl⟩
  obtain ⟨r, w', entry, hrun, -, -, -, hadded, htold, -⟩ :=
    told_in_backend_words_iff (w := Sample.world) hsafe rfl hfails
  have hopen : Sample.world.directory.Accepts (partitionName entrySeries Sample.noon.date) :=
    Directory.accepts_absent _
  have htext : e.text = "'id'".toList := by decide
  exact ⟨hsafe, rfl, hfails, r, w', entry, hrun, hadded hopen, htext ▸ htold.mpr id⟩

/-- The backend stops waiting after two seconds, and the caller is told of thirty. -/
theorem backend_deadline_taken_for_own :
    let g := (Sample.service []).gate
    let req := Sample.request "SELECT id FROM users".toList
    let e := BackendError.deadline "lock wait exceeded".toList
    (slowlyFailing e).FailsInTime g.timeout
        (Sanitizer.sanitize g.catalog req.statement req.schema).statement e ∧
      ∃ (r : RunResult) (w' : World),
        g.run (slowlyFailing e) false req Sample.world = (.result r, w') ∧
        r.errorKind = some .timeout ∧ r.error ≠ some e.text ∧
        r.error = some
          "Query execution timeout. Query took longer than 30s to execute.".toList := by
  intro g req e
  have hfails : (slowlyFailing e).FailsInTime g.timeout
      (Sanitizer.sanitize g.catalog req.statement req.schema).statement e :=
    ⟨by decide, by decide +kernel, rfl⟩
  have hsafe : g.rules.judge req.statement = .safe := by decide
  have hrun := run_of_failing (w := Sample.world) rfl hsafe rfl hfails
  exact ⟨hfails, _, _, hrun, rfl, by decide, by decide⟩

end Gate

end QueryGate
