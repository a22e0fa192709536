import QueryGate.Proofs.Web.Serving

/-! # What a response is made of

Counting a query as under way is seen by no endpoint but that of the measurements, and no query is
asked there.  So the response to a request is made of the answer that its endpoint gives in the
state in which the request comes (`App.answer_measure`).

A fault that is no failure of the gate passes through all layers (`Answer.escape?`), and the
response to it is made outside of them (`App.response_of_escape`).  Every other request is answered
within the layers. -/

namespace QueryGate.Web

open Text Metrics

/-- The fault that an answer holds, if it is no failure of the gate. -/
def Answer.escape? : Answer → Option Fault
  | .reply .. => none
  | .fault (.raised (.guard _)) => none
  | .fault f => some f

theorem Answer.settle_of_escape {answer : Answer} {f : Fault} (h : answer.escape? = some f)
    (name : Text) : answer.settle name = .fault f := by
  unfold escape? at h
  split at h
  · cases h
  · cases h
  · rename_i g hno
    obtain rfl := Option.some.inj h
    unfold settle
    split
    · rename_i e he
      cases he
      exact absurd rfl (hno e)
    · rfl

theorem Answer.exists_settle {answer : Answer} (h : answer.escape? = none) (name : Text) :
    ∃ status body, answer.settle name = .reply status body := by
  unfold escape? at h
  split at h
  · rename_i status body
    exact ⟨status, body, rfl⟩
  · rename_i e
    exact ⟨statusOf e, _, rfl⟩
  · cases h

theorem HttpRequest.givenHeader?_eq {r : HttpRequest} {name : String} (h : r.header? name ≠ some []) :
    r.givenHeader? name = r.header? name := by
  unfold givenHeader?
  cases hheader : r.header? name with
  | none => rfl
  | some value =>
    cases value with
    | nil => exact absurd hheader h
    | cons c value => rfl

namespace App

variable {a : App} {r : HttpRequest} {s : State}

/-! ## The answer behind the layers -/

/-- The answer of an endpoint comes from the world alone, but for that of the measurements. -/
theorem answer_congr (a : App) (r : HttpRequest) {e : Endpoint} (he : e ≠ .metrics) {s s' : State}
    (h : s'.world = s.world) : (a.answer e r s').1 = (a.answer e r s).1 := by
  cases e with
  | health =>
    simp only [answer, health, h]
    split <;> rfl
  | ready => rfl
  | live => rfl
  | ask =>
    simp only [answer, ask, h]
    split
    · rfl
    · split <;> rfl
  | dryRun =>
    simp only [answer, dryRun, h]
    split
    · rfl
    · split
      · rfl
      · split
        · rfl
        · split <;> rfl
  | history =>
    simp only [answer, history, h]
    split
    · rfl
    · split <;> rfl
  | violations =>
    simp only [answer, violations, h]
    split
    · rfl
    · split <;> rfl
  | schema => rfl
  | metrics => exact absurd rfl he
  | description | docs | docsReturn | otherDocs => rfl

/-- The path of a question is not shown for a request for the measurements. -/
theorem ne_metrics_of_shownPath {e : Endpoint} (hroute : Route.find r.method r.target.path = .to e)
    (hpath : r.target.shownPath = Endpoint.ask.path) : e ≠ .metrics := by
  rintro rfl
  have hnamed := List.find?_some (Route.find_eq_to_iff.mp hroute).1
  rw [Endpoint.isNamed, Bool.or_eq_true, beq_iff_eq, beq_iff_eq] at hnamed
  rw [Target.shownPath] at hpath
  rcases hnamed with hnamed | hnamed <;> rw [hnamed] at hpath <;> revert hpath <;> decide

/-- A query under way makes no difference to its answer. -/
theorem route_of_shownPath (hpath : r.target.shownPath = Endpoint.ask.path) (m : Registry) :
    (a.route r { s with metrics := m }).1 = (a.route r s).1 := by
  unfold route
  split
  · rename_i e hroute
    exact answer_congr a r (ne_metrics_of_shownPath hroute hpath) rfl
  · rfl
  · rfl
  · rfl

theorem answer_share (a : App) (r : HttpRequest) (s : State) :
    (a.share r s).answer = match askedMethod? r with
      | some method => sharing method r
      | none => (a.route r s).1.settle (a.nameOf r) := by
  unfold share
  cases askedMethod? r <;> rfl

theorem name_share (a : App) (r : HttpRequest) (s : State) :
    (a.share r s).name = match askedMethod? r with
      | some _ => none
      | none => some (a.nameOf r) := by
  unfold share
  cases askedMethod? r <;> rfl

/-- **The answer that is counted** is one to a browser, or else what the layers make of the answer
of the endpoint. -/
theorem answer_measure (a : App) (r : HttpRequest) (s : State) :
    (a.measure r s).answer = match askedMethod? r with
      | some method => sharing method r
      | none => (a.route r s).1.settle (a.nameOf r) := by
  unfold measure
  split
  · rename_i hpath
    have hroute := route_of_shownPath (a := a) (s := s) (beq_iff_eq.mp hpath) s.metrics.beginQuery
    simp only [answer_share, hroute]
  · exact answer_share a r s

/-- The name in the header is that of the request, unless a browser is answered. -/
theorem name_measure (a : App) (r : HttpRequest) (s : State) :
    (a.measure r s).name = match askedMethod? r with
      | some _ => none
      | none => some (a.nameOf r) := by
  unfold measure
  split <;> exact name_share a r _

/-! ## The response -/

/-- The fault of a request that no layer deals with. -/
def escape? (a : App) (r : HttpRequest) (s : State) : Option Fault :=
  match askedMethod? r with
  | some _ => none
  | none => (a.route r s).1.escape?

/-- The fault of the request of an occasion that no layer deals with. -/
def escapeOn? (a : App) (o : Occasion) (s : State) : Option Fault :=
  (a.on o).escape? o.visit.request ⟨worldOn o s, s.metrics⟩

theorem measure_of_escape {f : Fault} (h : a.escape? r s = some f) :
    (a.measure r s).answer = .fault f := by
  rw [answer_measure]
  unfold escape? at h
  cases hasked : askedMethod? r with
  | some method => simp [hasked] at h
  | none =>
    rw [hasked] at h
    exact Answer.settle_of_escape h _

theorem exists_measure (h : a.escape? r s = none) :
    ∃ status body, (a.measure r s).answer = .reply status body := by
  rw [answer_measure]
  unfold escape? at h
  cases hasked : askedMethod? r with
  | some method =>
    simp only [sharing]
    split <;> exact ⟨_, _, rfl⟩
  | none =>
    rw [hasked] at h
    exact Answer.exists_settle h _

theorem response_of_measure {status : Nat} {body : Body}
    (h : (a.measure r s).answer = .reply status body) :
    (a.serve r s).response = ⟨status, (a.measure r s).name, sent r.method body⟩ := by
  simp only [serve, h]

/-- What escapes the layers becomes a response that no header names. -/
theorem response_of_escape {f : Fault} (h : a.escape? r s = some f) :
    (a.serve r s).response = ⟨500, none, sent r.method (failureBody "InternalServerError".toList
      "An unexpected error occurred".toList (a.nameOf r) .null)⟩ := by
  simp only [serve, measure_of_escape h]

/-- A browser is answered without the name of its request. -/
theorem requestId_of_asked {method : Text} (h : askedMethod? r = some method) :
    (a.serve r s).response.requestId = none := by
  have hescape : a.escape? r s = none := by rw [escape?, h]
  obtain ⟨status, body, hreply⟩ := exists_measure hescape
  rw [response_of_measure hreply, name_measure, h]

/-- A request that names itself. -/
def Sample.named (name : String) (r : HttpRequest) : HttpRequest :=
  { r with headers := ("X-Request-ID".toList, name.toList) :: r.headers }

/-- The schema is asked for while the backend is down. -/
def Sample.schemaDown : Occasion :=
  { Sample.atNoon (Sample.named "req-1" (Sample.request "GET" "/api/v1/schema" "u-1" [])) [] with
    source := .memory { QueryGate.Sample.memory none with
      schemaFailure := some (.backend (.internal "down".toList)) } }

/-- The failure of the backend is dealt with by no layer. -/
theorem escapeOn?_schemaDown : Sample.app.escapeOn? Sample.schemaDown Sample.start =
    some (.raised (.backend (.internal "down".toList))) := rfl

end App

end QueryGate.Web
