import QueryGate.Proofs.Pipeline.Stages

/-! # What reaches the source

A source is sent nothing but the sanitized form of statements that the rules accept, and each call
of a session sends at most one.  `Service.sends` says for each call what it sends, from the call and
the set-up alone; a session sends what its calls send, in order (`executed_performAll`). -/

namespace QueryGate

open Text

/-! ## What a call sends -/

/-- What is sent to the source for a statement: its sanitized form if it is accepted and there is
any time, and nothing otherwise. -/
def Gate.sends (g : Gate) (statement schema : Text) : List Text :=
  if g.rules.judge statement = .safe ∧ g.timeout.isNonpositive = false then
    [(Sanitizer.sanitize g.catalog statement schema).statement]
  else []

/-- What is sent to a source in memory for a call.  A question sends what its cleaned answer sends,
if there is a schema and an answer of the model, and the cleaned answer is not empty.  A timeout
counts as positive if it is not zero or less, so one that is no number does. -/
def Service.sends (svc : Service) (m : MemorySource) : Call → List Text
  | .prepare .. => []
  | .run _ request => svc.gate.sends request.statement request.schema
  | .ask _ question =>
    match m.schemaFailure, svc.drafter.model.answer (Draft.prompt
      ⟨question.text, m.schema, m.kind, svc.drafter.rowLimit, svc.drafter.catalog⟩) with
    | none, .ok answer =>
      if Draft.clean answer = [] then [] else svc.gate.sends (Draft.clean answer) m.schema
    | _, _ => []

namespace Gate

variable {g : Gate} {src : Source} {interrupt : Bool} {req : Request} {w : World}
  {now : Timestamp}

theorem conclude_sends (r : RunResult) (reason : Option Text) (ended : Outcome) :
    (g.conclude req r reason ended w).2.executed = w.executed ∧
      (g.conclude req r reason ended w).2.now = w.now := by
  cases hnow : w.now with
  | ok now =>
    rw [conclude_of_now hnow]
    exact ⟨rfl, hnow⟩
  | error f =>
    rw [conclude, hnow]
    exact ⟨rfl, hnow⟩

theorem finish_sends (r : RunResult) (a : Source.Attempt) :
    (g.finish req r a w).2.executed = w.executed ∧ (g.finish req r a w).2.now = w.now := by
  rcases finish_cases g req r a w with ⟨e, -, -, h⟩ | ⟨-, r', reason, ended, h⟩
  · rw [h]
    exact ⟨rfl, rfl⟩
  · rw [h]
    exact conclude_sends r' reason ended

theorem run_sends (hnow : w.now = .ok now) (hsrc : src.keepsStatements = true) :
    (g.run src interrupt req w).2.executed =
        w.executed ++ g.sends req.statement req.schema ∧
      (g.run src interrupt req w).2.now = w.now := by
  cases hjudge : g.rules.judge req.statement with
  | rejected r =>
    have hsends : g.sends req.statement req.schema = [] := by simp [sends, hjudge]
    rw [hsends, List.append_nil]
    cases hreason : r.reason? with
    | none =>
      simp only [run, hjudge, hreason]
      exact ⟨rfl, rfl⟩
    | some reason =>
      rw [run_of_rejected hjudge hreason]
      exact conclude_sends (w := w.report _) _ _ _
  | safe =>
    rw [run_of_safe hnow hjudge, (finish_sends _ _).1, (finish_sends _ _).2, executed_asked, hsrc]
    refine ⟨?_, by simp⟩
    cases ht : g.timeout.isNonpositive <;> simp [sends, hjudge, ht]

end Gate

/-! ## What a session sends -/

namespace Service

variable {svc : Service} {m : MemorySource} {w : World} {now : Timestamp} {interrupt : Bool}

theorem fail_sends {src : Source} (hnow : w.now = .ok now) (q : Question) (f : Failure) :
    (svc.fail src q f w).2.executed = w.executed ∧ (svc.fail src q f w).2.now = w.now := by
  rw [fail_of_now hnow]
  exact ⟨rfl, rfl⟩

/-- A question sends nothing without a schema. -/
theorem sends_of_undescribed {e : Raised} (h : (Source.memory m).describe = .error e)
    (q : Question) : svc.sends m (.ask interrupt q) = [] := by
  cases hschema : m.schemaFailure with
  | some e' => simp only [sends, hschema]
  | none => simp [Source.describe, hschema] at h

/-- With a schema, a question sends what its draft sends. -/
theorem sends_of_described {schema : Text} (h : (Source.memory m).describe = .ok schema)
    (q : Question) : svc.sends m (.ask interrupt q) =
      match (svc.drafter.draft q.text schema m.kind).result with
      | .ok statement => svc.gate.sends statement schema
      | .error _ => [] := by
  cases hschema : m.schemaFailure with
  | some e => simp [Source.describe, hschema] at h
  | none =>
    obtain rfl : m.schema = schema := by simpa [Source.describe, hschema] using h
    simp only [sends, hschema, Draft.Drafter.draft]
    -- the model may fail, or answer with nothing once the fence is gone
    cases svc.drafter.model.answer (Draft.prompt
        ⟨q.text, m.schema, m.kind, svc.drafter.rowLimit, svc.drafter.catalog⟩) with
    | error e => cases e <;> rfl
    | ok answer => by_cases hclean : Draft.clean answer = [] <;> simp [hclean]

theorem ask_sends (hnow : w.now = .ok now) (q : Question) :
    (svc.ask (.memory m) interrupt q w).2.executed =
        w.executed ++ svc.sends m (.ask interrupt q) ∧
      (svc.ask (.memory m) interrupt q w).2.now = w.now := by
  have hway := ask_way svc (.memory m) interrupt q w
  generalize svc.ask (.memory m) interrupt q w = ended at hway
  cases hway with
  | undescribed e hdesc _ =>
    rw [sends_of_undescribed hdesc, List.append_nil]
    exact fail_sends (w := w.report _) hnow q _
  | left hdesc =>
    rw [sends_of_undescribed hdesc, List.append_nil]
    exact ⟨rfl, rfl⟩
  | undrafted schema e hdesc hdraft =>
    have hdraft : (svc.drafter.draft q.text schema m.kind).result = .error (.guard e) := hdraft
    rw [sends_of_described hdesc, hdraft, List.append_nil]
    exact fail_sends (w := (svc.drafting (.memory m) q schema w).report _) hnow q _
  | leftUndrafted schema hdesc hdraft =>
    have hdraft : (svc.drafter.draft q.text schema m.kind).result = .error .cancelled := hdraft
    rw [sends_of_described hdesc, hdraft, List.append_nil]
    exact ⟨rfl, rfl⟩
  | drafted schema statement hdesc hdraft =>
    have hdraft : (svc.drafter.draft q.text schema m.kind).result = .ok statement := hdraft
    rw [sends_of_described hdesc, hdraft]
    exact Gate.run_sends (w := svc.drafting (.memory m) q schema w) hnow rfl

theorem perform_sends (svc : Service) (m : MemorySource) (hnow : w.now = .ok now) (call : Call) :
    (svc.perform (.memory m) call w).2.executed = w.executed ++ svc.sends m call ∧
      (svc.perform (.memory m) call w).2.now = w.now := by
  cases call with
  | prepare statement schema => simp [perform, sends]
  | run interrupt request => exact Gate.run_sends hnow rfl
  | ask interrupt question => exact ask_sends hnow question

/-- A call sends at most one statement, and that is sanitized from one that the rules accept. -/
theorem sends_cases (svc : Service) (m : MemorySource) (call : Call) :
    svc.sends m call = [] ∨
      ∃ statement schema, svc.gate.rules.judge statement = .safe ∧
        svc.sends m call = [(Sanitizer.sanitize svc.gate.catalog statement schema).statement] := by
  have hgate : ∀ statement schema, svc.gate.sends statement schema = [] ∨
      ∃ statement' schema', svc.gate.rules.judge statement' = .safe ∧
        svc.gate.sends statement schema =
          [(Sanitizer.sanitize svc.gate.catalog statement' schema').statement] := by
    intro statement schema
    unfold Gate.sends
    split
    · rename_i h
      exact .inr ⟨statement, schema, h.1, rfl⟩
    · exact .inl rfl
  cases call with
  | prepare => exact .inl rfl
  | run interrupt request => exact hgate _ _
  | ask interrupt question =>
    simp only [sends]
    split
    · split
      · exact .inl rfl
      · exact hgate _ _
    · exact .inl rfl

theorem now_performAll (svc : Service) (m : MemorySource) (calls : List Call)
    (hnow : w.now = .ok now) : (svc.performAll (.memory m) calls w).2.now = .ok now := by
  induction calls generalizing w with
  | nil => exact hnow
  | cons call calls ih => exact ih ((perform_sends svc m hnow call).2.trans hnow)

theorem executed_performAll (svc : Service) (m : MemorySource) (calls : List Call)
    (hnow : w.now = .ok now) :
    (svc.performAll (.memory m) calls w).2.executed =
      w.executed ++ calls.flatMap (svc.sends m) := by
  induction calls generalizing w with
  | nil => simp [performAll]
  | cons call calls ih =>
    obtain ⟨hexecuted, hkept⟩ := perform_sends svc m hnow call
    calc (svc.performAll (.memory m) (call :: calls) w).2.executed
        = (svc.performAll (.memory m) calls (svc.perform (.memory m) call w).2).2.executed := rfl
      _ = (svc.perform (.memory m) call w).2.executed ++ calls.flatMap (svc.sends m) :=
          ih (hkept.trans hnow)
      _ = w.executed ++ (call :: calls).flatMap (svc.sends m) := by
          rw [hexecuted, List.flatMap_cons, List.append_assoc]

/-- **What a session sends.**  While the clock shows a time, a source in memory receives in a
session what its calls send, in order.  Each call adds what it sends, whatever came before it: for
a question or a run nothing, or the sanitized form of one statement that the rules accept, and for
a preparation nothing. -/
theorem session_sends_sanitized (svc : Service) (m : MemorySource) (calls : List Call)
    (hnow : w.now = .ok now) :
    (svc.performAll (.memory m) calls w).2.executed =
        w.executed ++ calls.flatMap (svc.sends m) ∧
      (∀ before call after, calls = before ++ call :: after →
        let earlier := (svc.performAll (.memory m) before w).2
        (svc.perform (.memory m) call earlier).2.executed =
          earlier.executed ++ svc.sends m call) ∧
      ∀ call, svc.sends m call = [] ∨
        ∃ statement schema, svc.gate.rules.judge statement = .safe ∧
          svc.sends m call =
            [(Sanitizer.sanitize svc.gate.catalog statement schema).statement] := by
  refine ⟨executed_performAll svc m calls hnow, ?_, sends_cases svc m⟩
  intro before call after _
  exact (perform_sends svc m (now_performAll svc m before hnow) call).1

/-- A refused statement, a statement with a sensitive column, and a question whose answer comes in
a fence. -/
theorem session_sends_sanitized_three :
    let calls := [Call.run false (Sample.request "DROP TABLE users".toList),
      .run false (Sample.request "SELECT id, password FROM users".toList),
      .ask false ⟨"all ids".toList, "u-1".toList, none⟩]
    Sample.world.now = .ok Sample.noon ∧
      ((Sample.service "```sql\nSELECT id FROM users;\n```".toList).performAll
        (.memory (Sample.memory none)) calls Sample.world).2.executed =
        ["SELECT `id` FROM users".toList, "SELECT id FROM users".toList] := by
  intro calls
  refine ⟨rfl, ?_⟩
  rw [(session_sends_sanitized (Sample.service "```sql\nSELECT id FROM users;\n```".toList)
    (Sample.memory none) calls (w := Sample.world) rfl).1]
  decide +kernel

end Service

end QueryGate
