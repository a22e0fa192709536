import QueryGate.Proofs.Metrics.Counts
import QueryGate.Proofs.Pipeline.Indifference
import QueryGate.Proofs.Pipeline.Recorded
import QueryGate.Web.Serve

/-! # What a request leaves behind

An application is asked one request after another, each with its own time, and with the source and
the model as they are then (`Occasion`).  Of all requests only a question that is put to the service
(`HttpRequest.question?`) writes records or counts runs: the layers around the endpoints do
neither (`App.serve_of_route`), and every other request ends in one of a few ways (`App.Aside`), none
of which does more than make the audit directory (`App.route_of_no_question`).

Which questions among some requests were concluded is listed by `App.conclusions`, from how the
service ended them, and those among them that were answered by `App.answers`.  The measurements of
runs are those of the answers, in order (`App.sameRuns_stateAfter`). -/

namespace QueryGate.Web

open Text Metrics Registry

/-! ## Questions -/

/-- The question that a request puts to the service, if it leads there and brings one in a body in
which no more than `depth` lists and objects stand inside one another. -/
def HttpRequest.question? (r : HttpRequest) (depth : Nat) : Option Question :=
  match Route.find r.method r.target.path, questionIn depth r with
  | .to .ask, .ok text => some ⟨text, r.userId, r.userEmail⟩
  | _, _ => none

theorem Route.find_eq_to_iff {method path : Text} {e : Endpoint} :
    Route.find method path = .to e ↔ Endpoint.ofPath? path = some e ∧ method ∈ e.methods := by
  unfold Route.find
  cases hpath : Endpoint.ofPath? path with
  | none =>
    simp only [reduceCtorEq, false_and, iff_false]
    split <;> simp
  | some e' =>
    by_cases hmethod : method ∈ e'.methods
    · simp only [List.contains_eq_mem, hmethod, decide_true, if_true, Route.to.injEq,
        Option.some.injEq]
      constructor
      · rintro rfl
        exact ⟨rfl, hmethod⟩
      · exact And.left
    · simp only [List.contains_eq_mem, hmethod, decide_false, Bool.false_eq_true, if_false,
        reduceCtorEq, Option.some.injEq, false_iff, not_and]
      rintro rfl
      exact hmethod

theorem checkQuestion_eq_ok_iff {v : Json} {text : Text} :
    checkQuestion v = .ok text ↔ ∃ given, v = .str given ∧ given.length ≤ maxQuestionLength ∧
      trim given ≠ [] ∧ text = trim given := by
  unfold checkQuestion Check.someText Check.text
  split
  · rename_i given
    simp only [bind, Except.bind, Json.str, Json.string.injEq, JsonString.text.injEq,
      exists_eq_left']
    cases given with
    | nil =>
      have hblank : trim [] = [] := rfl
      simp only [hblank, List.isEmpty_nil, if_true, reduceCtorEq, ne_eq, not_true_eq_false,
        false_and, and_false]
    | cons c given =>
      simp only [List.isEmpty_cons, Bool.false_eq_true, if_false]
      split
      · rename_i hlong
        simp only [reduceCtorEq, Nat.not_le.mpr hlong, false_and]
      · rename_i hlength
        simp only [Nat.not_lt.mp hlength, true_and]
        cases hblank : trim (c :: given) with
        | nil =>
          simp only [List.isEmpty_nil, if_true, reduceCtorEq, ne_eq, not_true_eq_false, false_and]
        | cons x rest =>
          simp only [List.isEmpty_cons, Bool.false_eq_true, if_false, Except.ok.injEq, ne_eq,
            reduceCtorEq, not_false_eq_true, true_and, eq_comm]
  · rename_i hno
    simp only [bind, Except.bind, reduceCtorEq, false_iff, not_exists]
    rintro given ⟨rfl, -⟩
    exact hno given rfl

/-- What the body of a request must be to bring a question: an object whose last member of that
name is a text that is not blank and not too long.  The question is that text, trimmed. -/
theorem questionIn_eq_ok_iff {depth : Nat} {r : HttpRequest} {text : Text} :
    questionIn depth r = .ok text ↔ ∃ l given, bodyValue depth r = .ok (some (.members l)) ∧
      Json.lastMember? "query".toList l = some (.str given) ∧
      given.length ≤ maxQuestionLength ∧ trim given ≠ [] ∧ text = trim given := by
  unfold questionIn bodyField
  split
  · rename_i refusal hbody
    simp only [hbody, reduceCtorEq, false_and, exists_const]
  · rename_i l hbody
    simp only [hbody, Except.ok.injEq, Option.some.injEq, Json.members.injEq, exists_and_left,
      exists_eq_left']
    cases hmember : Json.lastMember? "query".toList l with
    | none => simp only [reduceCtorEq, false_and, exists_const]
    | some v =>
      have hchecked : (checkQuestion v).mapError (fun kind => refusalAt ["body", "query"] kind v) =
          .ok text ↔ checkQuestion v = .ok text := by
        cases checkQuestion v <;> simp [Except.mapError]
      simp only [hchecked, checkQuestion_eq_ok_iff, Option.some.injEq]
  · rename_i found hno hbody
    simp only [reduceCtorEq, false_iff, not_exists]
    rintro l given ⟨hl, -⟩
    rw [hbody] at hl
    exact hno l (Except.ok.inj hl)

/-- A request gives a text as its question: it is posted to the endpoint for questions, and its body
is an object whose last member of that name is the text, which is not blank and not too long. -/
structure HttpRequest.Gives (r : HttpRequest) (depth : Nat) (given : Text) : Prop where
  posted : r.method = "POST".toList
  path : Endpoint.ofPath? r.target.path = some .ask
  body : ∃ l, bodyValue depth r = .ok (some (.members l)) ∧
    Json.lastMember? "query".toList l = some (.str given)
  short : given.length ≤ maxQuestionLength
  notBlank : trim given ≠ []

/-- The question that is put to the service is the given text, trimmed, in the name of the caller. -/
theorem HttpRequest.question?_eq_some_iff {r : HttpRequest} {depth : Nat} {q : Question} :
    r.question? depth = some q ↔
      ∃ given, r.Gives depth given ∧ q = ⟨trim given, r.userId, r.userEmail⟩ := by
  have hmethods : Endpoint.ask.methods = ["POST".toList] := rfl
  unfold question?
  constructor
  · intro h
    split at h
    · rename_i text hroute hquestion
      obtain ⟨hpath, hmethod⟩ := Route.find_eq_to_iff.mp hroute
      obtain ⟨l, given, hbody, hmember, hshort, hblank, rfl⟩ := questionIn_eq_ok_iff.mp hquestion
      rw [hmethods, List.mem_singleton] at hmethod
      exact ⟨given, ⟨hmethod, hpath, ⟨l, hbody, hmember⟩, hshort, hblank⟩, (Option.some.inj h).symm⟩
    · cases h
  · rintro ⟨given, ⟨hposted, hpath, ⟨l, hbody, hmember⟩, hshort, hblank⟩, rfl⟩
    have hroute : Route.find r.method r.target.path = .to .ask := by
      rw [Route.find_eq_to_iff, hmethods, List.mem_singleton]
      exact ⟨hpath, hposted⟩
    have hquestion : questionIn depth r = .ok (trim given) :=
      questionIn_eq_ok_iff.mpr ⟨l, given, hbody, hmember, hshort, hblank, rfl⟩
    rw [hroute, hquestion]

/-! ## Occasions -/

/-- A request with the time at which it comes, with the source and the model as they are then, and
with the name that it is given if it brings none. -/
structure Occasion where
  visit : Visit
  source : Source
  model : Draft.CannedModel
  freshId : Text

namespace App

/-- The application as a request finds it. -/
def on (a : App) (o : Occasion) : App :=
  { a with service := a.service.withModel o.model, source := o.source, freshId := o.freshId }

/-- Serves the request of an occasion. -/
def serveOn (a : App) (o : Occasion) (s : State) : Served := (a.on o).serveAt o.visit s

/-- What is kept once the requests of some occasions have been served in order. -/
def stateAfter (a : App) (os : List Occasion) (s : State) : State :=
  os.foldl (fun s o => (a.serveOn o s).state) s

/-- The world in which the request of an occasion is answered. -/
def worldOn (o : Occasion) (s : State) : World := { s.world with now := o.visit.now }

/-- The conclusions with a result that somebody is given. -/
def answered (l : List (Question × Conclusion)) : List (Question × RunResult) :=
  l.filterMap fun x => x.2.result?.map (x.1, ·)

/-- The question of an occasion with its result, if it has one. -/
def answer? (a : App) (o : Occasion) (s : State) : Option (Question × RunResult) :=
  (o.visit.request.question? a.bodyDepth).bind fun q =>
    match ((a.on o).service.ask o.source false q (worldOn o s)).1 with
    | .result r => some (q, r)
    | _ => none

/-- The questions among some occasions that were answered with a result, in order. -/
def answers (a : App) : List Occasion → State → List (Question × RunResult)
  | [], _ => []
  | o :: os, s => (a.answer? o s).toList ++ a.answers os (a.serveOn o s).state

/-- The question of an occasion with how it was concluded, if it was. -/
def concluded? (a : App) (o : Occasion) (s : State) : Option (Question × Conclusion) :=
  (o.visit.request.question? a.bodyDepth).bind fun q =>
    ((a.on o).service.conclusion? o.source q
      ((a.on o).service.ask o.source false q (worldOn o s)).1).map (q, ·)

/-- The questions among some occasions that were concluded, in order. -/
def conclusions (a : App) : List Occasion → State → List (Question × Conclusion)
  | [], _ => []
  | o :: os, s => (a.concluded? o s).toList ++ a.conclusions os (a.serveOn o s).state

/-! ## The layers around the endpoints -/

/-- Two states hold the same records and measurements of runs. -/
structure SameRecords (s s' : State) : Prop where
  directory : s'.world.directory = s.world.directory
  metrics : s.metrics.SameRuns s'.metrics

theorem SameRecords.refl (s : State) : SameRecords s s := ⟨rfl, .refl _⟩

theorem SameRecords.trans {s s' s'' : State} (h : SameRecords s s') (h' : SameRecords s' s'') :
    SameRecords s s'' := ⟨h'.directory.trans h.directory, h.metrics.trans h'.metrics⟩

variable {a : App} {r : HttpRequest} {s : State}

/-- A request that leads to an endpoint is no question of a browser. -/
theorem askedMethod?_eq_none {e : Endpoint} (h : Route.find r.method r.target.path = .to e) :
    askedMethod? r = none := by
  have hmethod : r.method ∈ e.methods := (Route.find_eq_to_iff.mp h).2
  have hoptions : "OPTIONS".toList ∉ e.methods := by cases e <;> decide
  have hne : (r.method == "OPTIONS".toList) = false :=
    beq_false_of_ne fun h => hoptions (h ▸ hmethod)
  rw [askedMethod?, hne, Bool.false_and, if_neg Bool.false_ne_true]

/-- A question that is put to the service is no question of a browser. -/
theorem askedMethod?_of_question {depth : Nat} {q : Question} (h : r.question? depth = some q) :
    askedMethod? r = none := by
  unfold HttpRequest.question? at h
  split at h
  · rename_i hroute _
    exact askedMethod?_eq_none hroute
  · cases h

theorem sameRuns_count (answer : Answer) (m : Registry) : m.SameRuns (count r answer m) := by
  cases answer with
  | reply status body => exact m.sameRuns_trackRequest _ _ _ _
  | fault f => exact .refl m

/-- What counting leaves of the passage through the layers inside of it. -/
theorem measure_cases (a : App) (r : HttpRequest) (s : State) :
    ∃ s₀, s₀.world = s.world ∧ SameRecords s s₀ ∧
      SameRecords (a.share r s₀).state (a.measure r s).state ∧
      (a.measure r s).answer = (a.share r s₀).answer ∧
      (a.measure r s).name = (a.share r s₀).name := by
  unfold measure
  split
  · -- the query is under way while it is answered
    exact ⟨{ s with metrics := s.metrics.beginQuery }, rfl, ⟨rfl, s.metrics.sameRuns_beginQuery⟩,
      ⟨rfl, (sameRuns_count _ _).trans (Registry.sameRuns_endQuery _)⟩, rfl, rfl⟩
  · exact ⟨s, rfl, .refl s, ⟨rfl, sameRuns_count _ _⟩, rfl, rfl⟩

theorem state_serve (a : App) (r : HttpRequest) (s : State) :
    (a.serve r s).state = (a.measure r s).state := by
  simp only [serve]
  split <;> rfl

/-- **The layers around the endpoints** keep no records and count no runs.  Behind them stands the
answer of the endpoint, given in the same world. -/
theorem serve_of_route (h : askedMethod? r = none) :
    ∃ s₀, s₀.world = s.world ∧ SameRecords s s₀ ∧
      SameRecords (a.route r s₀).2 (a.serve r s).state ∧
      ∀ status body, (a.route r s₀).1 = .reply status body →
        (a.serve r s).response = ⟨status, some (a.nameOf r), sent r.method body⟩ := by
  obtain ⟨s₀, hworld, hsame, hstate, hanswer, hname⟩ := measure_cases a r s
  have hshare : a.share r s₀ = a.correlate r s₀ := by rw [share, h]
  rw [hshare] at hstate hanswer hname
  have hcorrelate : SameRecords (a.route r s₀).2 (a.correlate r s₀).state := ⟨rfl, .refl _⟩
  refine ⟨s₀, hworld, hsame, ?_, ?_⟩
  · rw [state_serve]
    exact hcorrelate.trans hstate
  · intro status body hreply
    have hsettled : (a.correlate r s₀).answer = (a.route r s₀).1.settle (a.nameOf r) := rfl
    have hname' : (a.correlate r s₀).name = some (a.nameOf r) := rfl
    rw [hreply] at hsettled
    simp only [serve, hanswer, hsettled, Answer.settle, hname, hname']

/-- A question of a browser keeps no records and counts no runs. -/
theorem serve_of_askedMethod {method : Text} (h : askedMethod? r = some method) :
    SameRecords s (a.serve r s).state := by
  obtain ⟨s₀, -, hsame, hstate, -⟩ := measure_cases a r s
  have hshare : (a.share r s₀).state = s₀ := by rw [share, h]
  rw [hshare] at hstate
  rw [state_serve]
  exact hsame.trans hstate

/-! ## The endpoints -/

/-- Nothing was recorded: at most the audit directory was made, and it was counted that the trail was
read. -/
structure Unrecorded (s s' : State) : Prop where
  directory : s'.world.directory = s.world.directory ∨
    s'.world.directory = s.world.directory.ensure
  metrics : s'.metrics = s.metrics ∨ ∃ kind, s'.metrics = s.metrics.trackAuditRead kind

theorem Unrecorded.refl (s : State) : Unrecorded s s := ⟨.inl rfl, .inl rfl⟩

/-- How a request ends that puts no question to the service: with an answer and the state that is
left.  Nothing that is shown in it is a name of the request. -/
inductive Aside (s : State) : Answer × State → Prop
  | refused (refusal : Refusal) : Aside s (.refused refusal, s)
  | failed (f : Fault) {s' : State} (left : Unrecorded s s') : Aside s (.fault f, s')
  | shown {members : List (String × Json)} {s' : State} (left : Unrecorded s s')
      (nameless : members.reverse.lookup "request_id" = none) : Aside s (.fine members, s')
  | measured : Aside s (.reply 200 (.samples s.metrics.samples), s)
  | moved : Aside s (.reply 307 .empty, s)
  | described : Aside s (.reply 200 .page, s)
  | elsewhere (status : Nat) (words : String) : Aside s (.detail status words, s)

theorem Aside.unrecorded {p : Answer × State} (h : Aside s p) : Unrecorded s p.2 := by
  cases h with
  | failed f left => exact left
  | shown left nameless => exact left
  | refused | measured | moved | described | elsewhere => exact .refl s

/-- A question is answered from what the service replies to it. -/
theorem route_eq_of_question {q : Question} (h : r.question? a.bodyDepth = some q) :
    a.route r s = match a.service.ask a.source false q s.world with
      | (.result result, w) => (.fine (resultFields q.text (a.givenNameOf r) result),
          ⟨w, s.metrics.trackRun (runOf a.service.gate.catalog result)⟩)
      | (.raised f, w) => (.fault f, { s with world := w })
      | (.cancelled, w) => (.fault (.raised .cancelled), { s with world := w }) := by
  unfold HttpRequest.question? at h
  split at h
  · rename_i text hroute hquestion
    obtain rfl := Option.some.inj h
    cases hreply : a.service.ask a.source false ⟨text, r.userId, r.userEmail⟩ s.world with
    | mk reply w =>
      cases reply <;> simp only [route, hroute, answer, ask, hquestion, hreply]
  · cases h

/-- What a question that is put to the service leaves behind: what the service does to the world,
and a run that is counted if there is a result. -/
theorem route_of_question {q : Question} (h : r.question? a.bodyDepth = some q) :
    (a.route r s).2.world = (a.service.ask a.source false q s.world).2 ∧
      (a.route r s).2.metrics = match (a.service.ask a.source false q s.world).1 with
        | .result result => s.metrics.trackRun (runOf a.service.gate.catalog result)
        | _ => s.metrics := by
  rw [route_eq_of_question h]
  cases a.service.ask a.source false q s.world with
  | mk reply w => cases reply <;> exact ⟨rfl, rfl⟩

theorem aside_health (s : State) : Aside s (health s) := by
  simp only [health]
  split
  · exact .failed _ ⟨.inr rfl, .inl rfl⟩
  · exact .shown ⟨.inr rfl, .inl rfl⟩ rfl

theorem aside_dryRun (a : App) (r : HttpRequest) (s : State) : Aside s (a.dryRun r s) := by
  simp only [dryRun]
  split
  · exact .refused _
  · split
    · exact .failed _ (.refl s)
    · -- what preparing reports changes neither the directory nor the measurements
      split
      · exact .failed _ ⟨.inl rfl, .inl rfl⟩
      · split
        · exact .failed _ ⟨.inl rfl, .inl rfl⟩
        · exact .shown ⟨.inl rfl, .inl rfl⟩ rfl

theorem aside_history (a : App) (r : HttpRequest) (s : State) : Aside s (a.history r s) := by
  simp only [history]
  split
  · exact .refused _
  · split
    · exact .failed _ ⟨.inl rfl, .inl rfl⟩
    · exact .shown ⟨.inl rfl, .inr ⟨"history", rfl⟩⟩ rfl

theorem aside_violations (a : App) (r : HttpRequest) (s : State) : Aside s (a.violations r s) := by
  simp only [violations]
  split
  · exact .refused _
  · split
    · exact .failed _ ⟨.inl rfl, .inl rfl⟩
    · exact .shown ⟨.inl rfl, .inr ⟨"violations", rfl⟩⟩ rfl

theorem aside_schema (a : App) (s : State) : Aside s (a.schema, s) := by
  unfold schema
  split
  · exact .failed _ (.refl s)
  · exact .shown (.refl s) rfl

theorem aside_answer {e : Endpoint} (he : e ≠ .ask) (a : App) (r : HttpRequest) (s : State) :
    Aside s (a.answer e r s) := by
  cases e with
  | health => exact aside_health s
  | ready => exact .shown (.refl s) rfl
  | live => exact .shown (.refl s) rfl
  | ask => exact absurd rfl he
  | dryRun => exact aside_dryRun a r s
  | history => exact aside_history a r s
  | violations => exact aside_violations a r s
  | schema => exact aside_schema a s
  | metrics => exact .measured
  | description | docs | docsReturn | otherDocs => exact .described

theorem aside_route (a : App) {r : HttpRequest} (s : State) (h : r.question? a.bodyDepth = none) :
    Aside s (a.route r s) := by
  unfold route
  split
  · rename_i e hroute
    by_cases he : e = .ask
    · -- a request for an answer that brings no question is refused
      subst he
      rw [answer, ask]
      cases hquestion : questionIn a.bodyDepth r with
      | error refusal => exact .refused refusal
      | ok text => simp [HttpRequest.question?, hroute, hquestion] at h
    · exact aside_answer he a r s
  · exact .elsewhere 405 "Method Not Allowed"
  · exact .moved
  · exact .elsewhere 404 "Not Found"

/-- **No other request** keeps records or counts runs; at most it makes the audit directory, and
counts that the trail was read. -/
theorem route_of_no_question (h : r.question? a.bodyDepth = none) : Unrecorded s (a.route r s).2 :=
  (aside_route a s h).unrecorded

/-! ## One occasion, and several -/

variable {o : Occasion}

theorem isSome_answer?_iff : (a.answer? o s).isSome ↔
    ∃ q result, o.visit.request.question? a.bodyDepth = some q ∧
      ((a.on o).service.ask o.source false q (worldOn o s)).1 = .result result := by
  constructor
  · intro h
    obtain ⟨x, hx⟩ := Option.isSome_iff_exists.mp h
    obtain ⟨q, hq, hx⟩ := Option.bind_eq_some_iff.mp hx
    split at hx
    · rename_i result hresult
      exact ⟨q, result, hq, hresult⟩
    · cases hx
  · rintro ⟨q, result, hq, hresult⟩
    rw [answer?, hq, Option.bind_some, hresult]
    rfl

/-- The answers are the conclusions with a result that somebody is given. -/
theorem answer?_eq (a : App) (o : Occasion) (s : State) :
    a.answer? o s = (a.concluded? o s).bind fun x => x.2.result?.map (x.1, ·) := by
  rw [answer?, concluded?]
  cases o.visit.request.question? a.bodyDepth with
  | none => rfl
  | some q =>
    rw [Option.bind_some, Option.bind_some]
    cases ((a.on o).service.ask o.source false q (worldOn o s)).1 with
    | result r => rfl
    | raised f => rfl
    | cancelled =>
      -- an abandoned question has no result that is given
      dsimp only [Service.conclusion?]
      cases (a.on o).service.drafts o.source q <;> rfl

theorem answers_eq (a : App) (os : List Occasion) (s : State) :
    a.answers os s = answered (a.conclusions os s) := by
  induction os generalizing s with
  | nil => rfl
  | cons o os ih =>
    rw [answers, conclusions, answered, List.filterMap_append, ← answered, ih, answer?_eq]
    cases a.concluded? o s with
    | none => rfl
    | some x =>
      obtain ⟨q, c⟩ := x
      cases c <;> rfl

/-- Every conclusion is that of a question of one of the requests. -/
theorem question?_of_mem_conclusions {os : List Occasion} {s : State} {x : Question × Conclusion}
    (h : x ∈ a.conclusions os s) :
    ∃ o ∈ os, o.visit.request.question? a.bodyDepth = some x.1 := by
  induction os generalizing s with
  | nil => cases h
  | cons o os ih =>
    rcases List.mem_append.mp h with h | h
    · obtain ⟨q, hq, hx⟩ := Option.bind_eq_some_iff.mp (Option.mem_toList.mp h)
      obtain ⟨c, -, rfl⟩ := Option.map_eq_some_iff.mp hx
      exact ⟨o, List.mem_cons_self, hq⟩
    · obtain ⟨o', ho', hq⟩ := ih h
      exact ⟨o', List.mem_cons_of_mem o ho', hq⟩

/-- The measurements with the runs of some answers counted. -/
def counted (a : App) (answers : List (Question × RunResult)) (m : Registry) : Registry :=
  answers.foldl (fun m x => m.trackRun (runOf a.service.gate.catalog x.2)) m

theorem sameRuns_counted (a : App) (answers : List (Question × RunResult)) {m m' : Registry}
    (h : m.SameRuns m') : (a.counted answers m).SameRuns (a.counted answers m') := by
  induction answers generalizing m m' with
  | nil => exact h
  | cons x answers ih => exact ih (h.trackRun _)

theorem counted_append (a : App) (first second : List (Question × RunResult)) (m : Registry) :
    a.counted (first ++ second) m = a.counted second (a.counted first m) := List.foldl_append

/-- **A question** leaves in the audit directory what the service leaves there, and its run is
counted if it is answered. -/
theorem serveOn_of_question {q : Question}
    (h : o.visit.request.question? a.bodyDepth = some q) :
    (a.serveOn o s).state.world.directory =
        ((a.on o).service.ask o.source false q (worldOn o s)).2.directory ∧
      (a.counted (a.answer? o s).toList s.metrics).SameRuns (a.serveOn o s).state.metrics := by
  obtain ⟨s₀, hworld, hsame, hstate, -⟩ :=
    serve_of_route (a := a.on o) (s := ⟨worldOn o s, s.metrics⟩) (askedMethod?_of_question h)
  obtain ⟨hasked, hcounted⟩ := route_of_question (a := a.on o) (s := s₀) h
  rw [hworld] at hasked hcounted
  refine ⟨hstate.directory.trans (congrArg World.directory hasked), ?_⟩
  refine SameRuns.trans ?_ hstate.metrics
  rw [hcounted, answer?, h, Option.bind_some]
  have hsource : (a.on o).source = o.source := rfl
  rw [hsource]
  cases ((a.on o).service.ask o.source false q (worldOn o s)).1 with
  | result r => exact sameRuns_counted a [(q, r)] hsame.metrics
  | raised f => exact hsame.metrics
  | cancelled => exact hsame.metrics

/-- **No other request** keeps a record or counts a run. -/
theorem serveOn_of_no_question (h : o.visit.request.question? a.bodyDepth = none) :
    a.concluded? o s = none ∧ s.metrics.SameRuns (a.serveOn o s).state.metrics ∧
      ((a.serveOn o s).state.world.directory = s.world.directory ∨
        (a.serveOn o s).state.world.directory = s.world.directory.ensure) := by
  have hnone : a.concluded? o s = none := by rw [concluded?, h, Option.bind_none]
  cases hasked : askedMethod? o.visit.request with
  | some method =>
    have hsame := serve_of_askedMethod (a := a.on o) (s := ⟨worldOn o s, s.metrics⟩) hasked
    exact ⟨hnone, hsame.metrics, .inl hsame.directory⟩
  | none =>
    obtain ⟨s₀, hworld, hsame, hstate, -⟩ :=
      serve_of_route (a := a.on o) (s := ⟨worldOn o s, s.metrics⟩) hasked
    obtain ⟨hdirectory, hmetrics⟩ := route_of_no_question (a := a.on o) (s := s₀) h
    have hruns : s₀.metrics.SameRuns ((a.on o).route o.visit.request s₀).2.metrics := by
      rcases hmetrics with hmetrics | ⟨kind, hmetrics⟩
      · rw [hmetrics]
        exact .refl _
      · rw [hmetrics]
        exact sameRuns_trackAuditRead _ kind
    refine ⟨hnone, hsame.metrics.trans (hruns.trans hstate.metrics), ?_⟩
    rw [hworld, ← hstate.directory] at hdirectory
    exact hdirectory

/-- **The measurements of runs are those of the answers.**  By induction on the occasions; between
two of them nothing else is counted. -/
theorem sameRuns_stateAfter (a : App) (os : List Occasion) (s : State) :
    (a.counted (a.answers os s) s.metrics).SameRuns (a.stateAfter os s).metrics := by
  induction os generalizing s with
  | nil => exact .refl _
  | cons o os ih =>
    have hstep : (a.counted (a.answer? o s).toList s.metrics).SameRuns
        (a.serveOn o s).state.metrics := by
      cases hq : o.visit.request.question? a.bodyDepth with
      | some q => exact (serveOn_of_question hq).2
      | none =>
        obtain ⟨hnone, hmetrics, -⟩ := serveOn_of_no_question (a := a) (s := s) hq
        rw [answer?_eq, hnone]
        exact hmetrics
    rw [answers, counted_append]
    exact (sameRuns_counted a _ hstep).trans (ih _)

end App

/-! ## Requests to show the ways on -/

namespace Sample

/-- An application that keeps records for a week. -/
def app : App where
  environment := "test".toList
  service := QueryGate.Sample.service []
  source := .memory (QueryGate.Sample.memory none)
  bodyDepth := 900
  freshId := "r-1".toList

/-- What the application keeps at noon, with an audit directory that is not made yet. -/
def start : State := app.start (.ok QueryGate.Sample.noon) .absent

/-- A request that names a user. -/
def request (method path user : String) (body : Text) : HttpRequest where
  method := method.toList
  target := ⟨path.toList, []⟩
  headers := [("X-User-ID".toList, user.toList),
    ("Content-Type".toList, "application/json".toList)]
  body := toUtf8 body

/-- A question of a user, with blanks around it. -/
def question (user : String) : HttpRequest :=
  request "POST" "/api/v1/query" user "\x7b\"query\": \" Who is there? \"\x7d".toList

/-- An occasion at noon, with a model that always gives one answer. -/
def atNoon (r : HttpRequest) (answer : Text) : Occasion where
  visit := ⟨.ok QueryGate.Sample.noon, r⟩
  source := .memory (QueryGate.Sample.memory none)
  model := ⟨.empty, answer, none⟩
  freshId := "r-1".toList

end Sample

end QueryGate.Web
