import QueryGate.Proofs.Pipeline.Stages

/-! # One entry for each run

A run, and a question that ends in one, adds exactly one entry to the trail, whether it gives a
result, is cancelled, times out or is refused.  The one way around the trail is a failure of the
gate itself that the source raises and that is neither a deadline nor a plain failure: it is
raised again before the run is concluded, after the statement has reached the source, and no entry
is made (`appends_one_entry_iff`).  A question is also left without an entry if it is cancelled
before there is a statement to run.

This is about failures and cancellation.  What else may be raised that is no failure is left out
here as in `Raised`; nothing catches it. -/

namespace QueryGate

open Text Audit

/-- The caller of a run or a question. -/
def Call.user? : Call → Option Text
  | .prepare .. => none
  | .run _ request => some request.userId
  | .ask _ question => some question.userId

namespace Gate

/-- A statement is accepted, and what the source raises for it is raised again. -/
def Escapes (g : Gate) (src : Source) (interrupt : Bool) (statement schema : Text) : Prop :=
  g.rules.judge statement = .safe ∧
    ∃ e, e.Escapes ∧ src.attempt g.timeout interrupt
      (Sanitizer.sanitize g.catalog statement schema).statement = .raised e

variable {g : Gate} {src : Source} {interrupt : Bool} {w : World} {now : Timestamp}

theorem conclude_appends {req : Request} (hnow : w.now = .ok now)
    (hopen : w.directory.Accepts (partitionName entrySeries now.date)) (r : RunResult)
    (reason : Option Text) (ended : Outcome) :
    EntryAppended now.date (entryOf now req r reason) w.directory
      (g.conclude req r reason ended w).2.directory := by
  rw [conclude_of_now hnow]
  exact entryAppended_addEntry hopen

/-- A run whose failure does not escape adds one entry. -/
theorem run_appends (req : Request) (hkinds : g.rules.kinds ≠ []) (hnow : w.now = .ok now)
    (hopen : w.directory.Accepts (partitionName entrySeries now.date))
    (hesc : ¬ g.Escapes src interrupt req.statement req.schema) :
    ∃ e : Entry, e.userId = .str req.userId ∧
      EntryAppended now.date e w.directory (g.run src interrupt req w).2.directory := by
  cases hjudge : g.rules.judge req.statement with
  | rejected r =>
    obtain ⟨reason, hreason⟩ := StatementRules.reason?_of_judge hkinds hjudge
    rw [run_of_rejected hjudge hreason]
    exact ⟨_, rfl, conclude_appends (w := w.report _) hnow hopen _ _ _⟩
  | safe =>
    rw [run_of_safe hnow hjudge]
    -- the entry is made in the world in which the source answered
    generalize hs : Sanitizer.sanitize g.catalog req.statement req.schema = s
    have hasked : (g.asked src now req s (w.report s.events)).directory =
        (violationRecorded now req s (w.report s.events)).directory := directory_asked s
    have hkept : EntriesKept w.directory (g.asked src now req s (w.report s.events)).directory := by
      rw [hasked]
      exact entriesKept_violationRecorded s
    have hopen' : (g.asked src now req s (w.report s.events)).directory.Accepts
        (partitionName entrySeries now.date) := by
      rw [hasked]
      exact accepts_violationRecorded s hopen
    rcases finish_cases g req (g.pending req s) (src.attempt g.timeout interrupt s.statement)
        (g.asked src now req s (w.report s.events)) with
      ⟨e, ha, he, -⟩ | ⟨-, r, reason, ended, hfinish⟩
    · exact absurd ⟨hjudge, e, he, by rw [hs, ha]⟩ hesc
    · rw [hfinish]
      exact ⟨_, rfl, hkept.trans_appended
        (conclude_appends (by simpa using hnow) hopen' _ _ _)⟩

/-- A run whose failure escapes adds no entry. -/
theorem run_keeps (req : Request) (hnow : w.now = .ok now)
    (hesc : g.Escapes src interrupt req.statement req.schema) :
    EntriesKept w.directory (g.run src interrupt req w).2.directory := by
  obtain ⟨hjudge, e, he, ha⟩ := hesc
  rw [run_of_safe hnow hjudge]
  rcases finish_cases g req (g.pending req _) _ (g.asked src now req _ (w.report _)) with
    ⟨e', -, -, hfinish⟩ | ⟨hno, -⟩
  · rw [hfinish, directory_asked]
    exact entriesKept_violationRecorded _
  · exact absurd he (hno e ha)

end Gate

namespace Service

variable {svc : Service} {src : Source} {w : World} {now : Timestamp}

/-- What the source raises for the statement of a call is raised again, or a question is cancelled
before there is a statement. -/
def Escapes (svc : Service) (src : Source) : Call → Prop
  | .prepare .. => False
  | .run interrupt request => svc.gate.Escapes src interrupt request.statement request.schema
  | .ask interrupt question => src.describe = .error .cancelled ∨
      ∃ schema, src.describe = .ok schema ∧
        ((svc.drafter.draft question.text schema src.kind).result = .error .cancelled ∨
          ∃ statement, (svc.drafter.draft question.text schema src.kind).result = .ok statement ∧
            svc.gate.Escapes src interrupt statement schema)

theorem fail_appends (hnow : w.now = .ok now)
    (hopen : w.directory.Accepts (partitionName entrySeries now.date)) (q : Question)
    (f : Failure) :
    ∃ e : Entry, e.userId = .str q.userId ∧
      EntryAppended now.date e w.directory (svc.fail src q f w).2.directory := by
  rw [fail_of_now hnow]
  exact ⟨_, rfl, entryAppended_addEntry hopen⟩

theorem ask_appends {interrupt : Bool} (hkinds : svc.gate.rules.kinds ≠ []) (hnow : w.now = .ok now)
    (hopen : w.directory.Accepts (partitionName entrySeries now.date)) {q : Question}
    (hesc : ¬ svc.Escapes src (.ask interrupt q)) :
    ∃ e : Entry, e.userId = .str q.userId ∧
      EntryAppended now.date e w.directory (svc.ask src interrupt q w).2.directory := by
  have hway := ask_way svc src interrupt q w
  generalize svc.ask src interrupt q w = ended at hway
  cases hway with
  | undescribed e _ _ => exact fail_appends (w := w.report _) hnow hopen q _
  | left hdesc => exact absurd (.inl hdesc) hesc
  | undrafted schema e _ _ =>
    exact fail_appends (w := (svc.drafting src q schema w).report _) hnow hopen q _
  | leftUndrafted schema hdesc hdraft => exact absurd (.inr ⟨schema, hdesc, .inl hdraft⟩) hesc
  | drafted schema statement hdesc hdraft =>
    have hesc' : ¬ svc.gate.Escapes src interrupt statement schema :=
      fun h => hesc (.inr ⟨schema, hdesc, .inr ⟨statement, hdraft, h⟩⟩)
    exact Gate.run_appends (w := svc.drafting src q schema w)
      (q.request src statement schema) hkinds hnow hopen hesc'

theorem ask_keeps {interrupt : Bool} (hnow : w.now = .ok now) {q : Question}
    (hesc : svc.Escapes src (.ask interrupt q)) :
    EntriesKept w.directory (svc.ask src interrupt q w).2.directory := by
  have hway := ask_way svc src interrupt q w
  generalize svc.ask src interrupt q w = ended at hway
  -- a way that writes an entry is none on which a question escapes
  cases hway with
  | undescribed e hdesc hfailed =>
    rcases hesc with h | ⟨schema, h, -⟩
    · exact absurd (Except.error.inj (hdesc.symm.trans h)) hfailed
    · cases hdesc.symm.trans h
  | left _ | leftUndrafted _ _ _ => exact fun _ _ => rfl
  | undrafted schema e hdesc hdraft =>
    rcases hesc with h | ⟨schema', h, hdrafted⟩
    · cases hdesc.symm.trans h
    · obtain rfl := Except.ok.inj (hdesc.symm.trans h)
      rcases hdrafted with h | ⟨statement, h, -⟩ <;> cases hdraft.symm.trans h
  | drafted schema statement hdesc hdraft =>
    rcases hesc with h | ⟨schema', h, hdrafted⟩
    · cases hdesc.symm.trans h
    · obtain rfl := Except.ok.inj (hdesc.symm.trans h)
      rcases hdrafted with h | ⟨statement', h, hescapes⟩
      · cases hdraft.symm.trans h
      · obtain rfl := Except.ok.inj (hdraft.symm.trans h)
        exact Gate.run_keeps (w := svc.drafting src q schema w) (q.request src statement schema)
          hnow hescapes

/-- **One entry for each run.**  With a directory that takes entries, a run or a question adds
exactly one entry of its caller to the trail, unless the source raises a failure of the gate that
is raised again, or a question is cancelled before there is a statement; then it adds none.  What
else may be raised that is no failure is not meant here. -/
theorem appends_one_entry_iff {call : Call} {user : Text} (hcall : call.user? = some user)
    (hkinds : svc.gate.rules.kinds ≠ []) (hnow : w.now = .ok now)
    (hopen : w.directory.Accepts (partitionName entrySeries now.date)) :
    ((∃ e : Entry, e.userId = .str user ∧
        EntryAppended now.date e w.directory (svc.perform src call w).2.directory) ↔
      ¬ svc.Escapes src call) ∧
    (svc.Escapes src call →
      EntriesKept w.directory (svc.perform src call w).2.directory) := by
  have hkeeps : svc.Escapes src call →
      EntriesKept w.directory (svc.perform src call w).2.directory := by
    intro hesc
    cases call with
    | prepare => cases hcall
    | run interrupt request => exact Gate.run_keeps request hnow hesc
    | ask interrupt question => exact ask_keeps hnow hesc
  refine ⟨⟨?_, fun hesc => ?_⟩, hkeeps⟩
  · rintro ⟨e, -, happended⟩ hesc
    -- a line was added, so the series is not as it was
    exact happended.not_kept (hkeeps hesc)
  · cases call with
    | prepare => cases hcall
    | run interrupt request =>
      obtain rfl := Option.some.inj hcall
      exact Gate.run_appends request hkinds hnow hopen hesc
    | ask interrupt question =>
      obtain rfl := Option.some.inj hcall
      exact ask_appends hkinds hnow hopen hesc

/-- The failure of another gate behind the source. -/
def refusedBehind : Raised := .guard (.rejected "not here".toList none none)

/-- The source refuses the statement itself, so the statement has reached it and no entry is
made. -/
theorem appends_one_entry_iff_refusedBehind :
    (Call.run false (Sample.request "SELECT id FROM users".toList)).user? = some "u-1".toList ∧
      (Sample.service []).gate.rules.kinds ≠ [] ∧
      Sample.world.now = .ok Sample.noon ∧
      Sample.world.directory.Accepts (partitionName entrySeries Sample.noon.date) ∧
      EntriesKept Sample.world.directory ((Sample.service []).perform
        (.memory (Sample.memory (some refusedBehind)))
        (.run false (Sample.request "SELECT id FROM users".toList)) Sample.world).2.directory := by
  have hkinds : (Sample.service []).gate.rules.kinds ≠ [] := by decide
  have hopen : Sample.world.directory.Accepts (partitionName entrySeries Sample.noon.date) :=
    Directory.accepts_absent _
  have hjudge : (Sample.service []).gate.rules.judge "SELECT id FROM users".toList = .safe := by
    decide
  exact ⟨rfl, hkinds, rfl, hopen,
    (appends_one_entry_iff rfl hkinds rfl hopen).2 ⟨hjudge, refusedBehind, trivial, rfl⟩⟩

/-- A statement that was executed and left no entry. -/
theorem executed_without_entry :
    let w := ((Sample.service []).perform (.memory (Sample.memory (some refusedBehind)))
      (.run false (Sample.request "SELECT id FROM users".toList)) Sample.world).2
    w.executed = ["SELECT id FROM users".toList] ∧
      ¬ ∃ e, EntryAppended Sample.noon.date e Sample.world.directory w.directory := by
  intro w
  have hdir : w.directory = Sample.world.directory := by decide
  refine ⟨by decide, ?_⟩
  rintro ⟨e, happended⟩
  exact happended.not_kept fun name _ => by rw [hdir]

end Service

end QueryGate
