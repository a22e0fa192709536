import QueryGate.Proofs.Text.Digits
import QueryGate.Proofs.Web.Responses

/-! # What is counted of the traffic

Requests are counted by one of the layers, when their answers pass through it.  Nothing behind that
layer touches the count (`App.sameTraffic_share`), and what passes through is counted once, under
its path, its method and the status that is sent (`App.requests_serveOn`).  A fault that no layer
deals with passes by, so the response that is made for it outside is not counted.

So over any requests the counts are those of the exchanges that were answered within the layers, and
no query is under way when the last response is sent (`App.requests_counted`).  They are the counts
of all exchanges if no fault escaped, and of fewer otherwise. -/

namespace QueryGate.Web

open Text Metrics

/-- A request with the response that was sent. -/
structure Exchange where
  request : HttpRequest
  response : HttpResponse
  /-- The fault that no layer dealt with, if there was one. -/
  escaped : Option Fault

/-- What a response is counted under. -/
def responseLabels (r : HttpRequest) (status : Nat) : Labels := [
  ("endpoint", r.target.shownPath), ("method", r.method), ("status", ofNat status)]

/-- What an exchange is counted under. -/
def Exchange.labels (e : Exchange) : Labels := responseLabels e.request e.response.status

/-- Whether an exchange was answered within the layers. -/
def Exchange.isSettled (e : Exchange) : Bool := e.escaped.isNone

namespace App

/-- The exchange of an occasion. -/
def exchange (a : App) (o : Occasion) (s : State) : Exchange :=
  ⟨o.visit.request, (a.serveOn o s).response, a.escapeOn? o s⟩

/-- The exchanges of some occasions, in order. -/
def exchanges (a : App) : List Occasion → State → List Exchange
  | [], _ => []
  | o :: os, s => a.exchange o s :: a.exchanges os (a.serveOn o s).state

variable {a : App} {r : HttpRequest} {s : State}

/-! ## Behind the layer that counts -/

theorem sameTraffic_route (a : App) (r : HttpRequest) (s : State) :
    s.metrics.SameTraffic (a.route r s).2.metrics := by
  cases hq : r.question? a.bodyDepth with
  | some q =>
    rw [(route_of_question hq).2]
    split
    · exact s.metrics.sameTraffic_trackRun _
    · exact ⟨rfl, rfl⟩
  | none =>
    rcases (route_of_no_question (a := a) (s := s) hq).2 with h | ⟨kind, h⟩
    · rw [h]
      exact ⟨rfl, rfl⟩
    · rw [h]
      exact s.metrics.sameTraffic_trackAuditRead kind

theorem sameTraffic_share (a : App) (r : HttpRequest) (s : State) :
    s.metrics.SameTraffic (a.share r s).state.metrics := by
  unfold share
  split
  · exact ⟨rfl, rfl⟩
  · exact sameTraffic_route a r s

/-! ## The layer that counts -/

theorem requests_count_reply (r : HttpRequest) (status : Nat) (body : Body) (m : Registry) :
    (count r (.reply status body) m).requests = m.requests.add (responseLabels r status) := rfl

theorem activeQueries_count (r : HttpRequest) (answer : Answer) (m : Registry) :
    (count r answer m).activeQueries = m.activeQueries := by cases answer <;> rfl

/-- What passes through is counted, whether or not it is a question. -/
theorem requests_measure (a : App) (r : HttpRequest) (s : State) :
    (a.measure r s).state.metrics.requests =
      (count r (a.measure r s).answer s.metrics).requests := by
  have hcount : ∀ (answer : Answer) {m m' : Registry}, m'.requests = m.requests →
      (count r answer m').requests = (count r answer m).requests := by
    intro answer m m' h
    cases answer with
    | reply status body => rw [requests_count_reply, requests_count_reply, h]
    | fault f => exact h
  unfold measure
  split
  · exact hcount _ (sameTraffic_share a r _).requests
  · exact hcount _ (sameTraffic_share a r s).requests

/-- The query that was under way is not any more, whatever became of it. -/
theorem activeQueries_measure (a : App) (r : HttpRequest) (s : State) :
    (a.measure r s).state.metrics.activeQueries = s.metrics.activeQueries := by
  unfold measure
  split
  · have hshare : (a.share r { s with metrics := s.metrics.beginQuery }).state.metrics.activeQueries =
        s.metrics.activeQueries + 1 := (sameTraffic_share a r _).activeQueries
    dsimp only [Registry.endQuery]
    rw [activeQueries_count, hshare, Int.add_sub_cancel]
  · simp only [activeQueries_count]
    exact (sameTraffic_share a r s).activeQueries

/-! ## One exchange, and several -/

variable {o : Occasion}

/-- **An exchange is counted once** if it was settled within the layers, and else not at all. -/
theorem requests_serveOn (a : App) (o : Occasion) (s : State) :
    (a.serveOn o s).state.metrics.requests =
      if (a.exchange o s).isSettled then s.metrics.requests.add (a.exchange o s).labels
      else s.metrics.requests := by
  have hstate : (a.serveOn o s).state = _ :=
    state_serve (a.on o) o.visit.request ⟨worldOn o s, s.metrics⟩
  rw [hstate, requests_measure]
  cases hescape : a.escapeOn? o s with
  | none =>
    obtain ⟨status, body, hreply⟩ := exists_measure hescape
    have hresponse : (a.serveOn o s).response = _ := response_of_measure hreply
    have hstatus : (a.exchange o s).labels = responseLabels o.visit.request status := by
      rw [Exchange.labels, exchange, hresponse]
    have hsettled : (a.exchange o s).isSettled = true := by
      rw [Exchange.isSettled, exchange, hescape]
      rfl
    rw [hreply, requests_count_reply, hstatus, if_pos hsettled]
  | some f =>
    have hsettled : ¬ (a.exchange o s).isSettled = true := by
      rw [Exchange.isSettled, exchange, hescape]
      exact Bool.false_ne_true
    rw [measure_of_escape hescape, if_neg hsettled]
    rfl

theorem activeQueries_serveOn (a : App) (o : Occasion) (s : State) :
    (a.serveOn o s).state.metrics.activeQueries = s.metrics.activeQueries := by
  have hstate : (a.serveOn o s).state = _ :=
    state_serve (a.on o) o.visit.request ⟨worldOn o s, s.metrics⟩
  rw [hstate, activeQueries_measure]

/-- Each sum of counts grows by the number of settled exchanges that it is about.  By induction on
the occasions. -/
theorem totalOf_stateAfter (a : App) (p : Labels → Bool) (os : List Occasion) (s : State) :
    (a.stateAfter os s).metrics.requests.totalOf p =
      s.metrics.requests.totalOf p +
        (a.exchanges os s).countP fun e => e.isSettled && p e.labels := by
  induction os generalizing s with
  | nil => rfl
  | cons o os ih =>
    have hstep : (a.serveOn o s).state.metrics.requests.totalOf p =
        s.metrics.requests.totalOf p +
          if (a.exchange o s).isSettled && p (a.exchange o s).labels then 1 else 0 := by
      rw [requests_serveOn]
      cases (a.exchange o s).isSettled with
      | false => rfl
      | true => rw [if_pos rfl, Counts.totalOf_add, Bool.true_and]
    have hrest : a.stateAfter (o :: os) s = a.stateAfter os (a.serveOn o s).state := rfl
    rw [hrest, ih, hstep, exchanges, List.countP_cons]
    omega

theorem activeQueries_stateAfter (a : App) (os : List Occasion) (s : State) :
    (a.stateAfter os s).metrics.activeQueries = s.metrics.activeQueries := by
  induction os generalizing s with
  | nil => rfl
  | cons o os ih => exact (ih _).trans (activeQueries_serveOn a o s)

theorem status_of_escaped {os : List Occasion} {e : Exchange} (h : e ∈ a.exchanges os s)
    {f : Fault} (hescaped : e.escaped = some f) : e.response.status = 500 := by
  induction os generalizing s with
  | nil => cases h
  | cons o os ih =>
    rcases List.mem_cons.mp h with rfl | h
    · exact congrArg HttpResponse.status (response_of_escape hescaped)
    · exact ih h

theorem length_exchanges (a : App) (os : List Occasion) (s : State) :
    (a.exchanges os s).length = os.length := by
  induction os generalizing s with
  | nil => rfl
  | cons o os ih => exact congrArg (· + 1) (ih _)

/-- The measurements are shown as they are before the request for them is counted. -/
theorem body_of_metrics
    (h : Route.find o.visit.request.method o.visit.request.target.path = .to .metrics) :
    (a.serveOn o s).response.body = sent o.visit.request.method (.samples s.metrics.samples) := by
  have hreply : ((a.on o).measure o.visit.request ⟨worldOn o s, s.metrics⟩).answer =
      .reply 200 (.samples s.metrics.samples) := by
    rw [answer_measure, askedMethod?_eq_none h, route, h]
    rfl
  exact congrArg HttpResponse.body (response_of_measure hreply)

/-- Whether labels tell of a status. -/
def haveStatus (status : Nat) (labels : Labels) : Bool :=
  labels.lookup "status" == some (ofNat status)

theorem haveStatus_labels (status : Nat) (e : Exchange) :
    haveStatus status e.labels = (e.response.status == status) := by
  have hlookup : e.labels.lookup "status" = some (ofNat e.response.status) := rfl
  rw [haveStatus, hlookup, Bool.eq_iff_iff, beq_iff_eq, beq_iff_eq, Option.some.injEq, ofNat_inj]

/-- **The traffic that is counted.**  After any requests to an application no query is under way,
and the requests that were counted are the exchanges that were settled within the layers, each under
its path, its method and the status that was sent.  These are all exchanges unless a fault escaped;
the response to such a fault has status 500.  Who asks for the measurements next is shown them as
they are now. -/
theorem requests_counted (a : App) (os : List Occasion) (now : Clock)
    (directory : Audit.Directory) :
    let s := a.stateAfter os (a.start now directory)
    let es := a.exchanges os (a.start now directory)
    s.metrics.activeQueries = 0 ∧
      s.metrics.requests.total = es.countP (·.isSettled) ∧
      (∀ status, s.metrics.requests.totalOf (haveStatus status) =
        es.countP fun e => e.isSettled && e.response.status == status) ∧
      (∀ p, s.metrics.requests.totalOf p = es.countP fun e => e.isSettled && p e.labels) ∧
      (s.metrics.requests.total = os.length ↔ ∀ e ∈ es, e.escaped = none) ∧
      (∀ e ∈ es, ∀ f, e.escaped = some f → e.response.status = 500) ∧
      ∀ o, Route.find o.visit.request.method o.visit.request.target.path = .to .metrics →
        (a.serveOn o s).response.body =
          sent o.visit.request.method (.samples s.metrics.samples) := by
  intro s es
  have hsums : ∀ p, s.metrics.requests.totalOf p =
      es.countP fun e => e.isSettled && p e.labels := by
    intro p
    have hsum := totalOf_stateAfter a p os (a.start now directory)
    rw [hsum]
    exact Nat.zero_add _
  have htotal : s.metrics.requests.total = es.countP (·.isSettled) := by
    rw [← Counts.totalOf_true, hsums]
    simp only [Bool.and_true]
  refine ⟨activeQueries_stateAfter a os _, htotal, ?_, hsums, ?_, ?_, fun o h => body_of_metrics h⟩
  · intro status
    rw [hsums]
    simp only [haveStatus_labels]
  · rw [htotal, ← length_exchanges a os (a.start now directory), List.countP_eq_length]
    simp only [Exchange.isSettled, Option.isNone_iff_eq_none]
  · exact fun e he f hf => status_of_escaped he hf

/-- A backend that is down is answered for, and nothing is counted. -/
theorem failure_not_counted :
    (Sample.app.exchanges [Sample.schemaDown] Sample.start).map (·.response.status) = [500] ∧
      (Sample.app.stateAfter [Sample.schemaDown] Sample.start).metrics.requests.total = 0 := by
  decide +kernel

end App

end QueryGate.Web
