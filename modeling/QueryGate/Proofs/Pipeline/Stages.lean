import QueryGate.Pipeline.Session
import QueryGate.Proofs.Pipeline.Records

/-! # The stages of a run

While the clock shows a time, a run takes one of three ways.  A refused statement is concluded at
once (`run_of_rejected`).  An accepted one brings the world to the state in which the source
answers (`Gate.asked`), and is then concluded with the answer or the failure, or ends in a failure
of the gate that is raised again (`finish_cases`).  Every conclusion adds one entry to the trail
(`conclude_of_now`).

What the stages do to the clock, to the statements that reached the source and to the series of
entries is stated here once; what a whole run does follows from it.  A question is answered by such
a run if the source describes its schema and a statement is drafted; what else may become of it is
said by `Service.Way`. -/

namespace QueryGate

open Text Audit

/-- A failure that a run raises again instead of telling of it in its result. -/
def Raised.Escapes : Raised → Prop
  | .guard (.timeout ..) => False
  | .guard (.plain .failure ..) => False
  | .guard _ => True
  | .backend _ => False
  | .cancelled => True

namespace Gate

variable {g : Gate} {src : Source} {interrupt : Bool} {req : Request} {w : World}
  {now : Timestamp}

theorem failureOf_eq_none_iff (e : Raised) : failureOf e = none ↔ e.Escapes := by
  cases e with
  | backend e => simp [failureOf, Raised.Escapes]
  | cancelled => simp [failureOf, Raised.Escapes]
  | guard e =>
    cases e with
    | rejected _ _ _ => simp [failureOf, Raised.Escapes]
    | timeout _ _ => simp [failureOf, Raised.Escapes]
    | plain kind _ _ _ => cases kind <;> simp [failureOf, Raised.Escapes]

/-! ## Concluding -/

/-- The world after the entry of a result was added at a time. -/
def audited (g : Gate) (now : Timestamp) (req : Request) (r : RunResult) (reason : Option Text)
    (w : World) : World :=
  (w.wrote (g.trail.addEntry now.date (entryOf now req r reason) w.directory)).report
    [.pipelineCompleted r.status r.errorKind r.blocked.length r.rowsReturned]

theorem auditAt_eq (g : Gate) (now : Timestamp) (req : Request) (r : RunResult)
    (reason : Option Text) (w : World) :
    g.auditAt now req r reason w = .ok (g.audited now req r reason w) := by
  rw [auditAt, World.write, recordOn_entryOf]
  rfl

theorem conclude_of_now (hnow : w.now = .ok now) (r : RunResult) (reason : Option Text)
    (ended : Outcome) :
    g.conclude req r reason ended w = (ended, g.audited now req r reason w) := by
  simp only [conclude, hnow, auditAt_eq]

/-- A run is concluded once the source has answered or failed, unless the failure escapes. -/
theorem finish_cases (g : Gate) (req : Request) (r : RunResult) (a : Source.Attempt) (w : World) :
    (∃ e, a = .raised e ∧ e.Escapes ∧ g.finish req r a w = (.ofRaised e, w)) ∨
    ((∀ e, a = .raised e → ¬ e.Escapes) ∧
      ∃ r' reason ended, g.finish req r a w = g.conclude req r' reason ended w) := by
  cases a with
  | answered rows few => exact .inr ⟨by simp, _, _, _, rfl⟩
  | timedOut => exact .inr ⟨by simp, _, _, _, rfl⟩
  | interrupted => exact .inr ⟨by simp, _, _, _, rfl⟩
  | raised e =>
    cases hf : failureOf e with
    | none => exact .inl ⟨e, rfl, (failureOf_eq_none_iff e).mp hf, by simp [finish, hf]⟩
    | some f =>
      refine .inr ⟨?_, ?_⟩
      · intro e' he hesc
        obtain rfl := Source.Attempt.raised.inj he
        rw [(failureOf_eq_none_iff e).mpr hesc] at hf
        cases hf
      · exact ⟨r.failed f, none, .result (r.failed f), by simp [finish, hf]⟩

/-! ## Up to the source -/

/-- The world after a violation was recorded at a time, if columns were removed. -/
def violationRecorded (now : Timestamp) (req : Request) (s : Sanitized) (w : World) : World :=
  if s.blocked.isEmpty then w
  else w.wrote (Trail.addViolation now.date (violationOf now req s.blocked) w.directory)

/-- The world in which the source answers a sanitized statement. -/
def asked (g : Gate) (src : Source) (now : Timestamp) (req : Request) (s : Sanitized) (w : World) :
    World :=
  if g.timeout.isNonpositive then violationRecorded now req s w
  else (violationRecorded now req s w).reach src s.statement

theorem recordViolation_of_now (hnow : w.now = .ok now) (s : Sanitized) :
    g.recordViolation req s w = .ok (violationRecorded now req s w) := by
  unfold recordViolation violationRecorded
  split
  · rfl
  · rw [hnow]
    simp only [World.write, recordViolationOn_violationOf]
    rfl

/-- Without a time no violation can be recorded; if that is no failure, none was due. -/
theorem recordViolation_of_fault {f : ClockFault} (hnow : w.now = .error f) {s : Sanitized}
    {w₁ : World} (h : g.recordViolation req s w = .ok w₁) : w₁ = w := by
  unfold recordViolation at h
  split at h
  · exact (Except.ok.inj h).symm
  · rw [hnow] at h
    cases h

theorem execute_of_now (hnow : w.now = .ok now) (s : Sanitized) :
    g.execute src interrupt req s w =
      g.finish req (g.pending req s) (src.attempt g.timeout interrupt s.statement)
        (g.asked src now req s w) := by
  simp only [execute, recordViolation_of_now hnow]
  rfl

@[simp] theorem now_violationRecorded (s : Sanitized) :
    (violationRecorded now req s w).now = w.now := by
  unfold violationRecorded
  split <;> rfl

@[simp] theorem executed_violationRecorded (s : Sanitized) :
    (violationRecorded now req s w).executed = w.executed := by
  unfold violationRecorded
  split <;> rfl

theorem entriesKept_violationRecorded (s : Sanitized) :
    EntriesKept w.directory (violationRecorded now req s w).directory := by
  unfold violationRecorded
  split
  · exact fun _ _ => rfl
  · exact entriesKept_addViolation _ _ _

theorem accepts_violationRecorded (s : Sanitized) {name : Text} (h : w.directory.Accepts name) :
    (violationRecorded now req s w).directory.Accepts name := by
  unfold violationRecorded
  split
  · exact h
  · exact accepts_addLine h

@[simp] theorem now_asked (s : Sanitized) : (g.asked src now req s w).now = w.now := by
  unfold asked
  split <;> simp

theorem directory_asked (s : Sanitized) :
    (g.asked src now req s w).directory = (violationRecorded now req s w).directory := by
  unfold asked
  split <;> simp

theorem executed_asked (s : Sanitized) :
    (g.asked src now req s w).executed =
      w.executed ++
        if !g.timeout.isNonpositive && src.keepsStatements then [s.statement] else [] := by
  unfold asked
  cases g.timeout.isNonpositive <;> simp [World.executed_reach]

/-! ## The ways of a run -/

theorem run_of_rejected {r : Rejection} {reason : Text}
    (hjudge : g.rules.judge req.statement = .rejected r) (hreason : r.reason? = some reason) :
    g.run src interrupt req w =
      g.conclude req (refusal req reason) (some reason) (.result (refusal req reason))
        (w.report [.statementRejected r]) := by
  simp only [run, hjudge, hreason]

theorem run_of_safe (hnow : w.now = .ok now) (hjudge : g.rules.judge req.statement = .safe) :
    let s := Sanitizer.sanitize g.catalog req.statement req.schema
    g.run src interrupt req w =
      g.finish req (g.pending req s) (src.attempt g.timeout interrupt s.statement)
        (g.asked src now req s (w.report s.events)) := by
  simp only [run, hjudge]
  exact execute_of_now (by simpa using hnow) _

end Gate

/-- Only rules that allow no kind at all leave a refusal without words. -/
theorem StatementRules.reason?_of_judge {rules : StatementRules} (hkinds : rules.kinds ≠ [])
    {s : Text} {r : Rejection} (h : rules.judge s = .rejected r) :
    ∃ reason, r.reason? = some reason := by
  cases r with
  | forbidden rule => exact ⟨_, rfl⟩
  | severalStatements => exact ⟨_, rfl⟩
  | notAllowed kinds =>
    have hk : kinds = rules.kinds := by
      unfold judge at h
      split at h
      · simp at h
      · split at h
        · simpa using h.symm
        · split at h <;> simp at h
    subst hk
    -- the refusal has words for one kind and for several
    rcases hr : rules.kinds with _ | ⟨kind, _ | ⟨next, more⟩⟩
    · exact absurd hr hkinds
    · exact ⟨_, rfl⟩
    · exact ⟨_, rfl⟩

/-! ## The ways of a question -/

/-- The request that a question becomes once a statement is drafted for it. -/
def Question.request (q : Question) (src : Source) (statement schema : Text) : Request :=
  ⟨statement, schema, q.userId, q.userEmail, some src.name, some src.kind, some q.text⟩

namespace Service

variable {svc : Service} {src : Source} {interrupt : Bool} {q : Question} {w : World} {schema : Text}

/-- The world after a draft was asked for. -/
def drafting (svc : Service) (src : Source) (q : Question) (schema : Text) (w : World) : World :=
  let drafted := svc.drafter.draft q.text schema src.kind
  (w.ask drafted.prompt).report drafted.events

theorem fail_of_now {now : Timestamp} (hnow : w.now = .ok now) (src : Source)
    (q : Question) (f : Failure) :
    svc.fail src q f w = (.result (undrafted f),
      w.wrote (svc.gate.trail.addEntry now.date (undraftedEntry now q src f.message)
        w.directory)) := by
  simp only [fail, hnow, World.write, Gate.recordOn_undraftedEntry, Except.map]

/-- What may become of a question, by what the source describes and what is drafted. -/
inductive Way (svc : Service) (src : Source) (interrupt : Bool) (q : Question) (w : World) :
    Outcome × World → Prop
  | undescribed (e : Raised) (describe : src.describe = .error e) (failed : e ≠ .cancelled) :
      Way svc src interrupt q w (svc.fail src q ⟨e.text, .executionFailure⟩
        (w.report [.schemaIntrospectionFailed e.text]))
  /-- The request was cancelled while the source was at work on its description. -/
  | left (describe : src.describe = .error .cancelled) : Way svc src interrupt q w (.cancelled, w)
  | undrafted (schema : Text) (e : GuardError) (describe : src.describe = .ok schema)
      (draft : (svc.drafter.draft q.text schema src.kind).result = .error (.guard e)) :
      Way svc src interrupt q w (svc.fail src q ⟨e.message, e.code⟩
        ((svc.drafting src q schema w).report [.questionUndrafted e.message]))
  /-- The request was cancelled while the model was at work. -/
  | leftUndrafted (schema : Text) (describe : src.describe = .ok schema)
      (draft : (svc.drafter.draft q.text schema src.kind).result = .error .cancelled) :
      Way svc src interrupt q w (.cancelled, svc.drafting src q schema w)
  | drafted (schema statement : Text) (describe : src.describe = .ok schema)
      (draft : (svc.drafter.draft q.text schema src.kind).result = .ok statement) :
      Way svc src interrupt q w (svc.gate.run src interrupt (q.request src statement schema)
        (svc.drafting src q schema w))

/-- A failure to draft is one of the gate. -/
theorem draft_cases {d : Draft.Drafter} {question schema dbType : Text} {e : Raised}
    (h : (d.draft question schema dbType).result = .error e) :
    e = .cancelled ∨ ∃ g, e = .guard g := by
  simp only [Draft.Drafter.draft] at h
  split at h
  · exact .inl (Except.error.inj h).symm
  · exact .inr ⟨_, (Except.error.inj h).symm⟩
  · split at h
    · exact .inr ⟨_, (Except.error.inj h).symm⟩
    · cases h

theorem ask_way (svc : Service) (src : Source) (interrupt : Bool) (q : Question) (w : World) :
    Way svc src interrupt q w (svc.ask src interrupt q w) := by
  cases hdesc : src.describe with
  | error e =>
    cases e with
    | cancelled =>
      simp only [ask, hdesc]
      exact .left hdesc
    | guard e =>
      simp only [ask, hdesc]
      exact .undescribed (.guard e) hdesc nofun
    | backend e =>
      simp only [ask, hdesc]
      exact .undescribed (.backend e) hdesc nofun
  | ok schema =>
    cases hdraft : (svc.drafter.draft q.text schema src.kind).result with
    | error e =>
      rcases draft_cases hdraft with rfl | ⟨e, rfl⟩
      · simp only [ask, hdesc, hdraft]
        exact .leftUndrafted schema hdesc hdraft
      · simp only [ask, hdesc, hdraft]
        exact .undrafted schema e hdesc hdraft
    | ok statement =>
      simp only [ask, hdesc, hdraft]
      exact .drafted schema statement hdesc hdraft

theorem ask_of_drafted {statement : Text} (h : src.describe = .ok schema)
    (hdraft : (svc.drafter.draft q.text schema src.kind).result = .ok statement) :
    svc.ask src interrupt q w = svc.gate.run src interrupt (q.request src statement schema)
      (svc.drafting src q schema w) := by
  simp only [ask, h, hdraft, drafting, Question.request]

end Service

/-! ## A service to show the ways on -/

namespace Sample

/-- Noon on a spring day, by the universal clock. -/
def noon : Timestamp where
  date := ⟨2024, 5, 1, by decide, by decide, by decide, by decide⟩
  micros := 43200000000
  offset := some 0
  micros_lt := by decide
  offset_lt := by decide

/-- A service with the rules and the catalog in force, whose model always gives one answer. -/
def service (answer : Text) : Service where
  gate := ⟨⟨Trail.defaultWindow, false, 900, 900⟩, .standard, .standard, .int 30, by decide⟩
  drafter := ⟨⟨.empty, answer, none⟩, .standard, 100⟩

/-- A source in memory without rows, which answers at once or fails. -/
def memory (failure : Option Raised) : MemorySource where
  schema := "Table: users\n  - id (INTEGER)\n  - password (TEXT)".toList
  rows := []
  name := "shop".toList
  kind := "memory".toList
  delay := .int 0
  failure := failure
  schemaFailure := none

/-- A statement of a caller. -/
def request (statement : Text) : Request :=
  ⟨statement, (memory none).schema, "u-1".toList, none, none, none, none⟩

/-- The world before the first call, with an audit directory that is not made yet. -/
def world : World := ⟨.ok noon, .absent, [], [], []⟩

end Sample

end QueryGate
