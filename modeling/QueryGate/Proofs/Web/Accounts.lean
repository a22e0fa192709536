import QueryGate.Proofs.Web.Serving
import Mathlib.Data.List.Forall2

/-! # Two accounts of the same runs

What an application has been asked is told twice, by its measurements and by its audit trail.  They
are kept in different places: a run is counted where its result comes back to the endpoint, and its
entry is written inside of the service.  One entry is written for each conclusion
(`App.entries_stateAfter`), and one run is counted for each answer (`App.sameRuns_stateAfter`).

So after each request the accounts differ in the abandoned questions only, whose requests were
cancelled while the source was at work: they have entries with an error, and nothing is counted for
them (`App.metrics_agree_with_trail`).  A question that ends in an exception before is in neither
account, and so is every other request. -/

namespace QueryGate

open Text Audit

/-- Something went wrong: the error is not null. -/
def Audit.Entry.hasError (e : Entry) : Bool :=
  match e.error with
  | .null => false
  | _ => true

namespace Web

open Metrics

/-- An entry tells how a question was concluded. -/
def Told (x : Question × Conclusion) (p : Date × Entry) : Prop :=
  ∃ r, x.2.Has r ∧ r.IsSound ∧ p.2.TellsOf x.1 r

theorem told_of_entryOf {src : Source} {now : Timestamp} {q : Question} {c : Conclusion}
    {p : Date × Entry} (h : EntryOf src now q c p.2) : Told (q, c) p := by
  obtain ⟨r, hhas, hsound, hentry⟩ := h
  exact ⟨r, hhas, hsound, hentry.tellsOf⟩

/-- An entry has an error exactly if its result has a kind of failure. -/
theorem hasError_of_tellsOf {q : Question} {r : RunResult} {e : Entry} (htells : e.TellsOf q r)
    (hsound : r.IsSound) : e.hasError = r.errorKind.isSome := by
  rw [Entry.hasError, htells.error]
  cases herror : r.error with
  | none => rw [hsound.mpr herror]; rfl
  | some message =>
    have hkind : r.errorKind ≠ none := fun hnone => by
      rw [hsound.mp hnone] at herror
      cases herror
    rw [Option.isSome_iff_ne_none.mpr hkind]
    rfl

/-- **What is told of the conclusions** is what is counted for the answers and what is told of the
abandoned questions.  By induction on the conclusions. -/
theorem counts_of_told {l : List (Question × Conclusion)} {entries : List (Date × Entry)}
    (h : List.Forall₂ Told l entries) :
    ∃ others, others.Sublist entries ∧
      List.Forall₂ Told (l.filter (·.2.isAbandoned)) others ∧
      (∀ status : Status, (entries.countP fun p => p.2.status = status) =
        ((App.answered l).countP fun x => x.2.status = status) +
          if status = .error then others.length else 0) ∧
      entries.countP (·.2.hasError) =
        (App.answered l).countP (·.2.errorKind.isSome) + others.length ∧
      (entries.map (·.2.blockedColumns.length)).sum =
        ((App.answered l).map (·.2.blocked.length)).sum +
          (others.map (·.2.blockedColumns.length)).sum := by
  induction h with
  | nil => exact ⟨[], .slnil, .nil, fun status => by simp [App.answered], rfl, rfl⟩
  | @cons x p l entries htold _ ih =>
    obtain ⟨others, hsublist, htolds, hstatus, herror, hblocked⟩ := ih
    obtain ⟨q, c⟩ := x
    obtain ⟨r, hhas, hsound, htells⟩ := htold
    cases c with
    | answered r' =>
      obtain rfl : r = r' := hhas
      have hanswered : App.answered ((q, .answered r) :: l) = (q, r) :: App.answered l := rfl
      rw [hanswered]
      refine ⟨others, hsublist.cons p, htolds, ?_, ?_, ?_⟩
      · intro status
        rw [List.countP_cons, List.countP_cons, hstatus, htells.status]
        exact Nat.add_right_comm _ _ _
      · rw [List.countP_cons, List.countP_cons, herror, hasError_of_tellsOf htells hsound]
        exact Nat.add_right_comm _ _ _
      · rw [List.map_cons, List.map_cons, List.sum_cons, List.sum_cons, hblocked,
          htells.blockedColumns, List.length_map]
        exact (Nat.add_assoc _ _ _).symm
    | abandoned =>
      have habandoned : r.IsAbandoned := hhas
      have hanswered : App.answered ((q, .abandoned) :: l) = App.answered l := rfl
      rw [hanswered]
      refine ⟨p :: others, hsublist.cons_cons p, .cons ⟨r, hhas, hsound, htells⟩ htolds, ?_, ?_, ?_⟩
      · intro status
        rw [List.countP_cons, hstatus, htells.status, habandoned.status, List.length_cons]
        cases status <;> simp [Nat.add_assoc]
      · have hfailed : p.2.hasError = true := by
          rw [hasError_of_tellsOf htells hsound, habandoned.errorKind]
          rfl
        rw [List.countP_cons, herror, if_pos hfailed, List.length_cons]
        omega
      · rw [List.map_cons, List.map_cons, List.sum_cons, List.sum_cons, hblocked]
        omega

namespace App

variable {a : App} {s : State}

/-! ## The entries -/

/-- One request appends the entry of its conclusion, if there is one, and nothing else. -/
theorem entries_serveOn (a : App) (o : Occasion) (s : State)
    (hopen : ∀ t, o.visit.now = .ok t →
      s.world.directory.Accepts (partitionName entrySeries t.date)) :
    (∃ l, EntriesAppended l s.world.directory (a.serveOn o s).state.world.directory ∧
        List.Forall₂ Told (a.concluded? o s).toList l) ∧
      ∀ name, s.world.directory.Accepts name →
        (a.serveOn o s).state.world.directory.Accepts name := by
  cases hq : o.visit.request.question? a.bodyDepth with
  | none =>
    obtain ⟨hnone, -, hdirectory⟩ := serveOn_of_no_question (a := a) (s := s) hq
    rw [hnone]
    rcases hdirectory with hdirectory | hdirectory
    · rw [hdirectory]
      exact ⟨⟨[], EntriesKept.appended fun _ _ => rfl, .nil⟩, fun _ h => h⟩
    · rw [hdirectory]
      exact ⟨⟨[], EntriesKept.appended fun name _ => Directory.content_ensure _ name, .nil⟩,
        fun _ h => Directory.accepts_ensure h⟩
  | some q =>
    rw [(serveOn_of_question (a := a) (s := s) hq).1, concluded?, hq, Option.bind_some]
    cases hnow : o.visit.now with
    | error f =>
      obtain ⟨hnone, hdirectory⟩ :=
        Service.ask_of_fault (w := worldOn o s) (a.on o).service o.source false q hnow
      rw [hdirectory, hnone]
      exact ⟨⟨[], EntriesKept.appended fun _ _ => rfl, .nil⟩, fun _ h => h⟩
    | ok t =>
      obtain ⟨notes, hending, hdirectory⟩ :=
        Service.ask_ends (w := worldOn o s) (a.on o).service o.source false q hnow
      rw [hdirectory]
      obtain ⟨l, happended, hentries⟩ :=
        hending.entriesAppended (hopen t hnow) a.service.gate.trail
      refine ⟨⟨l, happended, ?_⟩, fun _ h => accepts_keepAll h notes⟩
      rw [Option.toList_map]
      exact List.forall₂_map_left_iff.mpr (hentries.imp fun _ _ => told_of_entryOf)

/-- **The entries are those of the conclusions.**  By induction on the occasions; a directory that
takes entries goes on taking them. -/
theorem entries_stateAfter (a : App) (os : List Occasion) (s : State)
    (hopen : ∀ o ∈ os, ∀ t, o.visit.now = .ok t →
      s.world.directory.Accepts (partitionName entrySeries t.date)) :
    ∃ l, EntriesAppended l s.world.directory (a.stateAfter os s).world.directory ∧
      List.Forall₂ Told (a.conclusions os s) l := by
  induction os generalizing s with
  | nil => exact ⟨[], EntriesKept.appended fun _ _ => rfl, .nil⟩
  | cons o os ih =>
    obtain ⟨⟨l, happended, htold⟩, hstays⟩ :=
      entries_serveOn a o s (hopen o List.mem_cons_self)
    obtain ⟨l', happended', htold'⟩ := ih (a.serveOn o s).state fun o' ho t ht =>
      hstays _ (hopen o' (List.mem_cons_of_mem o ho) t ht)
    exact ⟨l ++ l', happended.trans happended', List.rel_append htold htold'⟩

/-! ## The measurements -/

theorem status_text_inj {status status' : Status} : status.text = status'.text ↔ status = status' := by
  cases status <;> cases status' <;> decide

theorem text_ne_nil (code : ErrorCode) : code.text ≠ [] := by cases code <;> decide

/-- What the answers add to the measurements: one run each under its status, one failure each that
has an error, and each column that was removed. -/
theorem counted_eq (a : App) (answers : List (Question × RunResult)) (m : Registry) :
    (∀ status : Status, Counts.at (a.counted answers m).runs [("status", status.text)] =
        m.runs.at [("status", status.text)] + answers.countP fun x => x.2.status = status) ∧
      Counts.total (a.counted answers m).errors =
        m.errors.total + answers.countP (·.2.errorKind.isSome) ∧
      Counts.total (a.counted answers m).blocked =
        m.blocked.total + (answers.map (·.2.blocked.length)).sum := by
  induction answers generalizing m with
  | nil => exact ⟨fun _ => rfl, rfl, rfl⟩
  | cons x answers ih =>
    obtain ⟨hruns, herrors, hblocked⟩ := ih (m.trackRun (runOf a.service.gate.catalog x.2))
    rw [counted, List.foldl_cons]
    refine ⟨?_, ?_, ?_⟩
    · intro status
      rw [← counted, hruns status, Registry.runs_trackRun, List.countP_cons]
      simp only [runOf, status_text_inj, decide_eq_true_eq]
      omega
    · have hkind : (runOf a.service.gate.catalog x.2).errorKind ≠ some [] := by
        intro h
        obtain ⟨code, -, hcode⟩ := Option.map_eq_some_iff.mp h
        exact text_ne_nil code hcode
      rw [← counted, herrors, Registry.errors_trackRun m _ hkind, List.countP_cons]
      cases hx : x.2.errorKind with
      | none => simp [runOf, hx]
      | some code =>
        simp [runOf, hx]
        omega
    · rw [← counted, hblocked, Registry.blocked_trackRun, List.map_cons, List.sum_cons]
      simp only [runOf, List.length_map]
      omega

/-! ## The accounts agree -/

/-- **Measurements and trail agree but for abandoned questions.**  After any requests to an
application that has counted nothing yet, over a directory that takes entries at the times of the
requests, the trail has gained some entries.  Among them are the entries of the questions that were
abandoned, in order.  All others are measured: the runs of each status are the entries with that
status, the failures of all kinds are the entries with an error, and the removed columns of all
categories are those that the entries name, if the entries of the abandoned questions are left
out. -/
theorem metrics_agree_with_trail (a : App) (os : List Occasion) (s : State)
    (hfresh : Registry.fresh.SameRuns s.metrics)
    (hopen : ∀ o ∈ os, ∀ t, o.visit.now = .ok t →
      s.world.directory.Accepts (partitionName entrySeries t.date)) :
    ∃ l others : List (Date × Entry),
      EntriesAppended l s.world.directory (a.stateAfter os s).world.directory ∧
      others.Sublist l ∧
      List.Forall₂ Told ((a.conclusions os s).filter (·.2.isAbandoned)) others ∧
      (∀ status : Status, (l.countP fun p => p.2.status = status) =
        Counts.at (a.stateAfter os s).metrics.runs [("status", status.text)] +
          if status = .error then others.length else 0) ∧
      l.countP (·.2.hasError) =
        Counts.total (a.stateAfter os s).metrics.errors + others.length ∧
      (l.map (·.2.blockedColumns.length)).sum =
        Counts.total (a.stateAfter os s).metrics.blocked +
          (others.map (·.2.blockedColumns.length)).sum := by
  obtain ⟨l, happended, htold⟩ := entries_stateAfter a os s hopen
  obtain ⟨others, hsublist, htolds, hstatus, herror, hcolumns⟩ := counts_of_told htold
  obtain ⟨hruns, herrors, hblocked⟩ := counted_eq a (a.answers os s) s.metrics
  rw [← answers_eq] at hstatus herror hcolumns
  have hmeasured := sameRuns_stateAfter a os s
  -- nothing was counted before the first request
  have hnone : ∀ labels, Counts.at s.metrics.runs labels = 0 := by
    rw [hfresh.runs]
    exact fun _ => rfl
  have hnoErrors : Counts.total s.metrics.errors = 0 := by rw [hfresh.errors]; rfl
  have hnoBlocked : Counts.total s.metrics.blocked = 0 := by rw [hfresh.blocked]; rfl
  refine ⟨l, others, happended, hsublist, htolds, ?_, ?_, ?_⟩
  · intro status
    rw [hstatus, hmeasured.runs, hruns, hnone, Nat.zero_add]
  · rw [herror, hmeasured.errors, herrors, hnoErrors, Nat.zero_add]
  · rw [hcolumns, hmeasured.blocked, hblocked, hnoBlocked, Nat.zero_add]

/-- A question whose request is cancelled while the source is at work. -/
def Sample.cancelled : Occasion :=
  { Sample.atNoon (Sample.question "u-1") "SELECT id, password FROM users".toList with
    source := .memory (QueryGate.Sample.memory (some .cancelled)) }

/-- Three questions: for the first a column is removed, the second is refused, the third is
abandoned. -/
def Sample.threeQuestions : List Occasion := [
  Sample.atNoon (Sample.question "u-1") "SELECT id, password FROM users".toList,
  Sample.atNoon (Sample.question "u-2") "DROP TABLE users".toList,
  Sample.cancelled]

theorem measured_threeQuestions :
    let m := (Sample.app.stateAfter Sample.threeQuestions Sample.start).metrics
    [m.runs.at [("status", Status.allowed.text)], m.runs.at [("status", Status.blocked.text)],
      m.runs.at [("status", Status.error.text)], m.errors.total, m.blocked.total] =
      [1, 1, 0, 1, 1] := by
  decide +kernel

theorem abandoned_threeQuestions :
    (Sample.app.conclusions Sample.threeQuestions Sample.start).map (·.2.isAbandoned) =
      [false, false, true] := by
  decide +kernel

theorem accepts_start (t : Timestamp) :
    Sample.start.world.directory.Accepts (partitionName entrySeries t.date) :=
  Directory.accepts_absent _

theorem metrics_agree_with_trail_threeQuestions :
    Registry.fresh.SameRuns Sample.start.metrics ∧
      (∀ o ∈ Sample.threeQuestions, ∀ t, o.visit.now = .ok t →
        Sample.start.world.directory.Accepts (partitionName entrySeries t.date)) ∧
      ∃ l others : List (Date × Entry), EntriesAppended l Sample.start.world.directory
          (Sample.app.stateAfter Sample.threeQuestions Sample.start).world.directory ∧
        others.Sublist l ∧ others.length = 1 ∧
        l.countP (fun p => p.2.status = .allowed) = 1 ∧
        l.countP (fun p => p.2.status = .blocked) = 1 ∧
        l.countP (fun p => p.2.status = .error) = 1 ∧
        l.countP (·.2.hasError) = 2 ∧
        (l.map (·.2.blockedColumns.length)).sum =
          1 + (others.map (·.2.blockedColumns.length)).sum := by
  have hfresh : Registry.fresh.SameRuns Sample.start.metrics := ⟨rfl, rfl, rfl⟩
  have hopen : ∀ o ∈ Sample.threeQuestions, ∀ t, o.visit.now = .ok t →
      Sample.start.world.directory.Accepts (partitionName entrySeries t.date) :=
    fun _ _ t _ => accepts_start t
  have hmeasured := measured_threeQuestions
  simp only [List.cons.injEq, and_true] at hmeasured
  obtain ⟨hallowed, hblocked, hfailed, herrors, hcolumns⟩ := hmeasured
  obtain ⟨l, others, happended, hsublist, htold, hruns, hfailures, hremoved⟩ :=
    metrics_agree_with_trail Sample.app Sample.threeQuestions Sample.start hfresh hopen
  have hothers : others.length = 1 := by
    have habandoned := congrArg (List.countP id) abandoned_threeQuestions
    rw [List.countP_map] at habandoned
    rw [← htold.length_eq, ← List.countP_eq_length_filter]
    exact habandoned
  refine ⟨hfresh, hopen, l, others, happended, hsublist, hothers, ?_, ?_, ?_, ?_, ?_⟩
  · rw [hruns, hallowed]
    rfl
  · rw [hruns, hblocked]
    rfl
  · rw [hruns, hfailed, hothers]
    rfl
  · rw [hfailures, herrors, hothers]
  · rw [hremoved, hcolumns]

theorem measured_cancelled :
    let m := (Sample.app.stateAfter [Sample.cancelled] Sample.start).metrics
    [m.runs.at [("status", Status.error.text)], m.errors.total] = [0, 0] := by
  decide +kernel

theorem conclusions_cancelled : ∃ q : Question, q.userId = "u-1".toList ∧
    Sample.app.conclusions [Sample.cancelled] Sample.start = [(q, .abandoned)] := by
  have habandoned : (Sample.app.conclusions [Sample.cancelled] Sample.start).map
      (fun x => (x.1.userId, x.2.isAbandoned)) = [("u-1".toList, true)] := by decide +kernel
  obtain ⟨⟨q, c⟩, hx, hc⟩ := List.map_eq_singleton_iff.mp habandoned
  obtain ⟨huser, hc⟩ := Prod.mk.inj hc
  cases c with
  | answered r => cases hc
  | abandoned => exact ⟨q, huser, hx⟩

/-- A question that is abandoned has an entry with an error, and nothing is measured of it. -/
theorem abandoned_not_measured :
    (∃ p : Date × Entry, EntriesAppended [p] Sample.start.world.directory
        (Sample.app.stateAfter [Sample.cancelled] Sample.start).world.directory ∧
      p.2.status = .error ∧ p.2.hasError = true) ∧
      Counts.at (Sample.app.stateAfter [Sample.cancelled] Sample.start).metrics.runs
        [("status", Status.error.text)] = 0 ∧
      Counts.total (Sample.app.stateAfter [Sample.cancelled] Sample.start).metrics.errors = 0 := by
  have hmeasured := measured_cancelled
  simp only [List.cons.injEq, and_true] at hmeasured
  obtain ⟨l, happended, htold⟩ := entries_stateAfter Sample.app [Sample.cancelled] Sample.start
    fun _ _ t _ => accepts_start t
  obtain ⟨q, -, hconclusions⟩ := conclusions_cancelled
  rw [hconclusions] at htold
  cases htold with
  | @cons _ p _ _ htold hnone =>
    cases hnone
    obtain ⟨r, hhas, hsound, htells⟩ := htold
    have hr : r.IsAbandoned := hhas
    have hfailed : p.2.hasError = true := by
      rw [hasError_of_tellsOf htells hsound, hr.errorKind]
      rfl
    exact ⟨⟨p, happended, htells.status.trans hr.status, hfailed⟩, hmeasured⟩

end App

end Web

end QueryGate
