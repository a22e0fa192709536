import QueryGate.Proofs.Audit.Recall
import QueryGate.Proofs.Pipeline.Stages

/-! # What a question leaves in the trail

A question is concluded in one of two ways (`Conclusion`).  It is answered with a result, or it is
abandoned: its request is cancelled while the source is at work on the statement that was drafted for
it.  In both cases the last record that it leaves is an entry (`EntryOf`); that of an abandoned
question tells of a failure that nobody is told of otherwise.  A question that is not concluded has
no entry: something is raised, or its request is cancelled before there is a statement.  In all
cases a violation may have been recorded before.

While the clock shows a time, these records and no others are written (`Service.ask_ends`); without
a time no question is concluded, and nothing is left (`Service.ask_of_fault`).

Which directory the records come into is no matter here, so both the trail that takes only entries
and the one that is read again build on this. -/

namespace QueryGate

open Text Audit

namespace Audit

/-- The directory after records have been written one after another on a day. -/
def Trail.keepAll (t : Trail) (day : Date) (notes : List Note) (d : Directory) : Directory :=
  notes.foldl (t.keep day) d

theorem Trail.keepAll_append (t : Trail) (day : Date) (first second : List Note) (d : Directory) :
    t.keepAll day (first ++ second) d = t.keepAll day second (t.keepAll day first d) :=
  List.foldl_append

/-! ## What records do to the directory -/

theorem accepts_keep {t : Trail} {day : Date} {d : Directory} {name : Text} (h : d.Accepts name)
    (n : Note) : (t.keep day d n).Accepts name := by
  cases n with
  | entry e => exact accepts_addLine h
  | violation v => exact accepts_addLine h

theorem accepts_keepAll {t : Trail} {day : Date} {d : Directory} {name : Text}
    (h : d.Accepts name) (notes : List Note) : (t.keepAll day notes d).Accepts name := by
  induction notes generalizing d with
  | nil => exact h
  | cons n notes ih => exact ih (accepts_keep h n)

/-- Violations leave the series of entries alone. -/
theorem entriesKept_keepAll (t : Trail) (day : Date) (vs : List Violation) (d : Directory) :
    EntriesKept d (t.keepAll day (vs.map .violation) d) := by
  induction vs generalizing d with
  | nil => exact fun _ _ => rfl
  | cons v vs ih =>
    intro name hname
    rw [List.map_cons, Trail.keepAll, List.foldl_cons]
    exact (ih _ name hname).trans (entriesKept_addViolation day v d name hname)

/-- The series of entries gained the lines of some dated entries, each in the partition of its day,
and nothing else. -/
def EntriesAppended (l : List (Date × Entry)) (d d' : Directory) : Prop :=
  ∀ name, beginsWith entrySeries name = true →
    d'.content name = d.content name ++
      (l.filter fun x => partitionName entrySeries x.1 = name).flatMap fun x => lineOf x.2.toJson

theorem EntriesKept.appended {d d' : Directory} (h : EntriesKept d d') :
    EntriesAppended [] d d' := by
  intro name hname
  rw [h name hname, List.filter_nil, List.flatMap_nil, List.append_nil]

theorem EntryAppended.appended {d d' : Directory} {day : Date} {e : Entry}
    (h : EntryAppended day e d d') : EntriesAppended [(day, e)] d d' := by
  intro name hname
  rw [h name hname]
  by_cases hday : name = partitionName entrySeries day
  · simp [hday]
  · simp [hday, Ne.symm hday]

theorem EntriesAppended.trans {d d' d'' : Directory} {l l' : List (Date × Entry)}
    (h : EntriesAppended l d d') (h' : EntriesAppended l' d' d'') :
    EntriesAppended (l ++ l') d d'' := by
  intro name hname
  rw [h' name hname, h name hname, List.filter_append, List.flatMap_append, List.append_assoc]

end Audit

/-! ## Conclusions -/

/-- Something went wrong in words exactly if it has a kind. -/
def RunResult.IsSound (r : RunResult) : Prop := r.errorKind = none ↔ r.error = none

/-- The result of a run that was cancelled while the source was at work.  Nobody is given it. -/
structure RunResult.IsAbandoned (r : RunResult) : Prop where
  status : r.status = .error
  error : r.error = some Failure.cancellation.message
  errorKind : r.errorKind = some Failure.cancellation.code

theorem RunResult.isSound_failed (r : RunResult) (f : Failure) : (r.failed f).IsSound :=
  iff_of_false (Option.some_ne_none _) (Option.some_ne_none _)

/-- How a question is concluded that leaves an entry. -/
inductive Conclusion where
  | answered (r : RunResult)
  /-- The request was cancelled while the source was at work on the statement. -/
  | abandoned

namespace Conclusion

/-- How the question ends. -/
def outcome : Conclusion → Outcome
  | answered r => .result r
  | abandoned => .cancelled

/-- The result that is given, if any is. -/
def result? : Conclusion → Option RunResult
  | answered r => some r
  | abandoned => none

/-- Whether nobody is given a result. -/
def isAbandoned (c : Conclusion) : Bool := c.result?.isNone

/-- The result with which the question is concluded, whether or not anybody is given it. -/
def Has : Conclusion → RunResult → Prop
  | answered r, r' => r' = r
  | abandoned, r => r.IsAbandoned

end Conclusion

namespace Service

/-- Whether a statement is drafted for a question. -/
def drafts (svc : Service) (src : Source) (q : Question) : Bool :=
  match src.describe with
  | .ok schema => (svc.drafter.draft q.text schema src.kind).result.isOk
  | .error _ => false

/-- How a question was concluded that has ended, if it was. -/
def conclusion? (svc : Service) (src : Source) (q : Question) : Outcome → Option Conclusion
  | .result r => some (.answered r)
  | .cancelled => if svc.drafts src q then some .abandoned else none
  | .raised _ => none

theorem conclusion?_outcome {svc : Service} {src : Source} {q : Question}
    (h : svc.drafts src q = true) (c : Conclusion) :
    svc.conclusion? src q c.outcome = some c := by
  cases c with
  | answered r => rfl
  | abandoned => exact if_pos h

end Service

/-- An entry is the one of a question with a result: of the statement that was run for it, or of
the failure to draft one. -/
inductive EntryFor (src : Source) (now : Timestamp) (q : Question) : RunResult → Entry → Prop
  | ran (statement schema : Text) (reason : Option Text) (r : RunResult) :
      EntryFor src now q r (Gate.entryOf now (q.request src statement schema) r reason)
  | undrafted (f : Failure) :
      EntryFor src now q (Service.undrafted f) (Service.undraftedEntry now q src f.message)

/-- Violations of requests at a time. -/
def ViolationsAt (now : Timestamp) (vs : List Violation) : Prop :=
  ∀ v ∈ vs, ∃ req blocked, v = Gate.violationOf now req blocked

/-- An entry is that of a question, given how the question was concluded. -/
def EntryOf (src : Source) (now : Timestamp) (q : Question) (c : Conclusion) (e : Entry) : Prop :=
  ∃ r, c.Has r ∧ r.IsSound ∧ EntryFor src now q r e

/-- How a question ends, with the records that it leaves. -/
inductive Ending (src : Source) (now : Timestamp) (q : Question) :
    Option Conclusion → List Note → Prop
  | concluded {vs : List Violation} {c : Conclusion} {e : Entry} (violations : ViolationsAt now vs)
      (entry : EntryOf src now q c e) : Ending src now q (some c) (vs.map .violation ++ [.entry e])
  | left {vs : List Violation} (violations : ViolationsAt now vs) :
      Ending src now q none (vs.map .violation)

variable {src : Source} {now : Timestamp} {q : Question} {w : World}

/-- What is told in an entry about the question and its result. -/
structure Audit.Entry.TellsOf (e : Entry) (q : Question) (r : RunResult) : Prop where
  userId : e.userId = .str q.userId
  userEmail : e.userEmail = .ofText? q.userEmail
  question : e.question = .str q.text
  status : e.status = r.status
  executedSql : e.executedSql = .ofText? r.executed
  blockedColumns : e.blockedColumns = r.blocked.map (·.toRecord)
  warnings : e.warnings = r.warnings.map (·.toRecord)
  error : e.error = .ofText? r.error

theorem EntryFor.tellsOf {r : RunResult} {e : Entry} (h : EntryFor src now q r e) :
    e.TellsOf q r := by
  cases h with
  | ran statement schema reason => exact ⟨rfl, rfl, rfl, rfl, rfl, rfl, rfl, rfl⟩
  | undrafted f => exact ⟨rfl, rfl, rfl, rfl, rfl, rfl, rfl, rfl⟩

theorem EntryFor.timestamp {r : RunResult} {e : Entry} (h : EntryFor src now q r e) :
    e.timestamp = now := by
  cases h <;> rfl

theorem EntryOf.answered {r : RunResult} {e : Entry} (hsound : r.IsSound)
    (h : EntryFor src now q r e) : EntryOf src now q (.answered r) e := ⟨r, rfl, hsound, h⟩

/-- The entry of a conclusion, if there is one, is appended to a series that takes entries. -/
theorem Ending.entriesAppended {c? : Option Conclusion} {notes : List Note}
    (h : Ending src now q c? notes) {d : Directory}
    (hopen : d.Accepts (partitionName entrySeries now.date)) (t : Trail) :
    ∃ l, EntriesAppended l d (t.keepAll now.date notes d) ∧
      List.Forall₂ (fun c p => EntryOf src now q c p.2) c?.toList l := by
  cases h with
  | @concluded vs c e violations entry =>
    have hopen' : (t.keepAll now.date (vs.map .violation) d).Accepts
        (partitionName entrySeries now.date) := accepts_keepAll hopen _
    refine ⟨[(now.date, e)], ?_, .cons entry .nil⟩
    rw [Trail.keepAll_append]
    exact EntryAppended.appended ((entriesKept_keepAll t now.date vs d).trans_appended
      (entryAppended_addEntry hopen'))
  | @left vs violations => exact ⟨[], (entriesKept_keepAll t now.date vs d).appended, .nil⟩

/-! ## A run -/

/-- A source that is cancelled at work interrupts the attempt; that is no failure. -/
theorem Source.attempt_ne_cancelled (src : Source) (timeout : Number) (interrupt : Bool)
    (s : Text) : src.attempt timeout interrupt s ≠ .raised .cancelled := by
  intro h
  unfold attempt at h
  split at h
  · cases h
  · split at h
    · cases h
    · split at h
      · cases h
      · split at h
        · split at h <;> cases h
        · cases h
        · cases h
        · rename_i e hcancelled hdeadline hanswer
          exact hcancelled (Attempt.raised.inj h)

namespace Gate

/-- The end of an accepted statement: something is raised again, or the run is concluded and its
result is audited. -/
theorem finish_ends (g : Gate) (src : Source) (interrupt : Bool) (req : Request) (s : Sanitized)
    (hnow : w.now = .ok now) :
    let ended := g.finish req (g.pending req s) (src.attempt g.timeout interrupt s.statement) w
    (∃ f, ended = (.raised f, w)) ∨
      ∃ c r reason, Conclusion.Has c r ∧ r.IsSound ∧
        ended = (c.outcome, g.audited now req r reason w) := by
  intro ended
  have hfailed : ∀ f : Failure, ended = g.conclude req ((g.pending req s).failed f) none
      (.result ((g.pending req s).failed f)) w →
      ∃ c r reason, Conclusion.Has c r ∧ r.IsSound ∧
        ended = (c.outcome, g.audited now req r reason w) := by
    intro f hended
    rw [conclude_of_now hnow] at hended
    exact ⟨.answered _, _, none, rfl, RunResult.isSound_failed _ f, hended⟩
  cases ha : src.attempt g.timeout interrupt s.statement with
  | answered rows few =>
    have hended : ended = (.result ((g.pending req s).answered rows few),
        g.audited now req ((g.pending req s).answered rows few)
          (partialReason ((g.pending req s).answered rows few)) w) := by
      simp only [ended, ha, finish, conclude_of_now hnow]
    exact .inr ⟨.answered _, _, _, rfl, iff_of_true rfl rfl, hended⟩
  | timedOut =>
    have htimeout : ended = g.finish req (g.pending req s) .timedOut w := by rw [← ha]
    exact .inr (hfailed _ htimeout)
  | interrupted =>
    refine .inr ⟨.abandoned, (g.pending req s).failed .cancellation, none, ⟨rfl, rfl, rfl⟩,
      RunResult.isSound_failed _ _, ?_⟩
    simp only [ended, ha, finish, conclude_of_now hnow]
    rfl
  | raised e =>
    cases hf : failureOf e with
    | some f => exact .inr (hfailed f (by simp only [ended, ha, finish, hf]))
    | none =>
      have hne : e ≠ .cancelled := by
        rintro rfl
        exact src.attempt_ne_cancelled _ _ _ ha
      refine .inl ⟨.raised e, ?_⟩
      simp only [ended, ha, finish, hf, Outcome.ofRaised]

/-- The violations of an accepted statement: one, or none if no column was removed. -/
theorem violationRecorded_eq_keepAll (t : Trail) (now : Timestamp) (req : Request) (s : Sanitized)
    (w : World) : ∃ vs, ViolationsAt now vs ∧
      (violationRecorded now req s w).directory =
        t.keepAll now.date (vs.map .violation) w.directory := by
  unfold violationRecorded
  split
  · exact ⟨[], by simp [ViolationsAt], rfl⟩
  · exact ⟨[violationOf now req s.blocked], by simp [ViolationsAt], rfl⟩

/-! ## A clock without a time -/

variable {g : Gate} {interrupt : Bool}

theorem conclude_of_fault {f : ClockFault} (hnow : w.now = .error f) (req : Request)
    (r : RunResult) (reason : Option Text) (ended : Outcome) :
    g.conclude req r reason ended w = (.raised (.clock f), w) := by
  simp only [conclude, hnow]

/-- Something is raised, and the world's directory is as it was. -/
def Fails (w : World) (ended : Outcome × World) : Prop :=
  (∃ f, ended.1 = .raised f) ∧ ended.2.directory = w.directory

theorem finish_of_fault {f : ClockFault} (hnow : w.now = .error f) (req : Request) (r : RunResult)
    {a : Source.Attempt} (ha : a ≠ .raised .cancelled) : Fails w (g.finish req r a w) := by
  rcases finish_cases g req r a w with ⟨e, rfl, -, h⟩ | ⟨-, r', reason, ended, h⟩
  · rw [h]
    cases e with
    | cancelled => exact absurd rfl ha
    | guard e => exact ⟨⟨_, rfl⟩, rfl⟩
    | backend e => exact ⟨⟨_, rfl⟩, rfl⟩
  · rw [h, conclude_of_fault hnow]
    exact ⟨⟨_, rfl⟩, rfl⟩

theorem execute_of_fault {f : ClockFault} (hnow : w.now = .error f) (src : Source) (req : Request)
    (s : Sanitized) : Fails w (g.execute src interrupt req s w) := by
  have hattempt := src.attempt_ne_cancelled g.timeout interrupt s.statement
  unfold execute
  cases hviolation : recordViolation g req s w with
  | error fault => exact ⟨⟨_, rfl⟩, rfl⟩
  | ok w₁ =>
    obtain rfl := recordViolation_of_fault hnow hviolation
    simp only
    split
    · exact finish_of_fault hnow req _ hattempt
    · have hreached : (w₁.reach src s.statement).directory = w₁.directory := by simp
      obtain ⟨hraised, hdirectory⟩ := finish_of_fault (g := g) (w := w₁.reach src s.statement)
        (by simpa using hnow) req (g.pending req s) hattempt
      exact ⟨hraised, hdirectory.trans hreached⟩

theorem run_of_fault {f : ClockFault} (hnow : w.now = .error f) (g : Gate) (src : Source)
    (interrupt : Bool) (req : Request) : Fails w (g.run src interrupt req w) := by
  cases hjudge : g.rules.judge req.statement with
  | rejected rejection =>
    cases hreason : rejection.reason? with
    | none =>
      simp only [run, hjudge, hreason]
      exact ⟨⟨_, rfl⟩, rfl⟩
    | some reason =>
      rw [run_of_rejected hjudge hreason, conclude_of_fault (by simpa using hnow)]
      exact ⟨⟨_, rfl⟩, rfl⟩
  | safe =>
    simp only [run, hjudge]
    exact execute_of_fault (w := w.report _) hnow src req _

end Gate

namespace Service

variable {svc : Service}

/-- The end of a run for a question. -/
theorem run_ends (statement schema : Text) (interrupt : Bool) (hdrafts : svc.drafts src q = true)
    (hnow : w.now = .ok now) :
    let ended := svc.gate.run src interrupt (q.request src statement schema) w
    ∃ notes, Ending src now q (svc.conclusion? src q ended.1) notes ∧
      ended.2.directory = svc.gate.trail.keepAll now.date notes w.directory := by
  generalize hreq : q.request src statement schema = req
  have hnone : ViolationsAt now [] := by simp [ViolationsAt]
  cases hjudge : svc.gate.rules.judge req.statement with
  | rejected rejection =>
    cases hreason : rejection.reason? with
    | none =>
      have hrun : svc.gate.run src interrupt req w =
          (.raised .noKindAllowed, w.report [.statementRejected rejection]) := by
        simp only [Gate.run, hjudge, hreason]
      rw [hrun]
      exact ⟨_, .left hnone, rfl⟩
    | some reason =>
      rw [Gate.run_of_rejected hjudge hreason, Gate.conclude_of_now (by simpa using hnow)]
      subst hreq
      have hsound : (Gate.refusal (q.request src statement schema) reason).IsSound :=
        iff_of_false (Option.some_ne_none _) (Option.some_ne_none _)
      exact ⟨_, .concluded hnone (.answered hsound (.ran _ _ _ _)), rfl⟩
  | safe =>
    rw [Gate.run_of_safe hnow hjudge]
    generalize Sanitizer.sanitize svc.gate.catalog req.statement req.schema = s
    obtain ⟨vs, hvs, hrecorded⟩ :=
      Gate.violationRecorded_eq_keepAll svc.gate.trail now req s (w.report s.events)
    have hasked : (svc.gate.asked src now req s (w.report s.events)).directory =
        (Gate.violationRecorded now req s (w.report s.events)).directory := Gate.directory_asked s
    have hclock : (svc.gate.asked src now req s (w.report s.events)).now = .ok now := by
      simpa using hnow
    rcases Gate.finish_ends svc.gate src interrupt req s hclock with
      ⟨f, hended⟩ | ⟨c, r, reason, hhas, hsound, hended⟩
    · rw [hended]
      exact ⟨_, .left hvs, hasked.trans hrecorded⟩
    · subst hreq
      rw [hended]
      dsimp only
      rw [conclusion?_outcome hdrafts]
      refine ⟨_, .concluded hvs ⟨r, hhas, hsound, .ran statement schema reason r⟩, ?_⟩
      rw [Trail.keepAll_append, ← World.directory_report s.events w, ← hrecorded, ← hasked]
      rfl

theorem fail_ends (f : Failure) (hnow : w.now = .ok now) :
    ∃ notes, Ending src now q (svc.conclusion? src q (svc.fail src q f w).1) notes ∧
      (svc.fail src q f w).2.directory = svc.gate.trail.keepAll now.date notes w.directory := by
  have hnone : ViolationsAt now [] := by simp [ViolationsAt]
  have hsound : (undrafted f).IsSound :=
    iff_of_false (Option.some_ne_none _) (Option.some_ne_none _)
  rw [fail_of_now hnow]
  exact ⟨_, .concluded hnone (.answered hsound (.undrafted f)), rfl⟩

theorem drafts_of_drafted {schema statement : Text} (hdescribe : src.describe = .ok schema)
    (hdraft : (svc.drafter.draft q.text schema src.kind).result = .ok statement) :
    svc.drafts src q = true := by
  rw [drafts, hdescribe]
  simp only [hdraft]
  rfl

/-- A request that is cancelled before there is a statement concludes nothing. -/
theorem conclusion?_cancelled (h : svc.drafts src q = false) :
    svc.conclusion? src q .cancelled = none := by
  rw [conclusion?, h]
  rfl

theorem drafts_of_undescribed {e : Raised} (h : src.describe = .error e) :
    svc.drafts src q = false := by
  rw [drafts, h]

theorem drafts_of_undrafted {schema : Text} {e : Raised} (hdescribe : src.describe = .ok schema)
    (hdraft : (svc.drafter.draft q.text schema src.kind).result = .error e) :
    svc.drafts src q = false := by
  rw [drafts, hdescribe]
  simp only [hdraft]
  rfl

/-- **How a question ends** while the clock shows a time: the records that it leaves are written on
that day, and no others. -/
theorem ask_ends (svc : Service) (src : Source) (interrupt : Bool) (q : Question)
    (hnow : w.now = .ok now) :
    ∃ notes, Ending src now q (svc.conclusion? src q (svc.ask src interrupt q w).1) notes ∧
      (svc.ask src interrupt q w).2.directory =
        svc.gate.trail.keepAll now.date notes w.directory := by
  have hnone : ViolationsAt now [] := by simp [ViolationsAt]
  have hway := svc.ask_way src interrupt q w
  generalize svc.ask src interrupt q w = ended at hway
  cases hway with
  | undescribed e describe failed => exact fail_ends (w := w.report _) _ hnow
  | left describe =>
    rw [conclusion?_cancelled (drafts_of_undescribed describe)]
    exact ⟨_, .left hnone, rfl⟩
  | undrafted schema e describe draft =>
    exact fail_ends (w := (svc.drafting src q schema w).report _) _ hnow
  | leftUndrafted schema describe draft =>
    rw [conclusion?_cancelled (drafts_of_undrafted describe draft)]
    exact ⟨_, .left hnone, rfl⟩
  | drafted schema statement describe draft =>
    exact run_ends (w := svc.drafting src q schema w) statement schema interrupt
      (drafts_of_drafted describe draft) hnow

/-- A clock without a time leaves a question without a conclusion, and the directory as it is. -/
theorem ask_of_fault (svc : Service) (src : Source) (interrupt : Bool) (q : Question)
    {f : ClockFault} (hnow : w.now = .error f) :
    svc.conclusion? src q (svc.ask src interrupt q w).1 = none ∧
      (svc.ask src interrupt q w).2.directory = w.directory := by
  have hfail : ∀ (g : Failure) (w' : World), w'.now = .error f →
      svc.fail src q g w' = (.raised (.clock f), w') := by
    intro g w' hnow'
    simp only [fail, hnow']
  have hway := svc.ask_way src interrupt q w
  generalize svc.ask src interrupt q w = ended at hway
  cases hway with
  | undescribed e describe failed =>
    rw [hfail _ (w.report _) hnow]
    exact ⟨rfl, rfl⟩
  | left describe => exact ⟨conclusion?_cancelled (drafts_of_undescribed describe), rfl⟩
  | undrafted schema e describe draft =>
    rw [hfail _ ((svc.drafting src q schema w).report _) hnow]
    exact ⟨rfl, rfl⟩
  | leftUndrafted schema describe draft =>
    exact ⟨conclusion?_cancelled (drafts_of_undrafted describe draft), rfl⟩
  | drafted schema statement describe draft =>
    obtain ⟨⟨fault, hraised⟩, hdirectory⟩ :=
      Gate.run_of_fault (w := svc.drafting src q schema w) hnow svc.gate src interrupt
        (q.request src statement schema)
    rw [hraised]
    exact ⟨rfl, hdirectory⟩

end Service

end QueryGate
