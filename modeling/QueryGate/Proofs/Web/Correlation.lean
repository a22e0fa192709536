import QueryGate.Proofs.Audit.Reading
import QueryGate.Proofs.Web.Responses

/-! # Responses that name their requests

A request is named by its header, or else by the application.  A failure of the gate gives this name
in its body (`requestId?_failureBody`), and so does the answer to a question, unless the header is
there and empty: then the name is empty, and the body gives another one
(`App.requestId?_of_result`).  No other body gives a name (`App.unnamed_route`).

The name stands in the header of every response that is made within the layers and not for a
browser.  So a response names its request throughout but for three cases: the request is a browser's
question about what other pages may send, it ends in a fault that no layer deals with, or it is a
question that comes with an empty name (`App.names_request_iff`). -/

namespace QueryGate.Web

open Text

/-- The name that a body gives to the request. -/
def Body.requestId? : Body → Option Json
  | .json v => v.member? "request_id".toList
  | _ => none

/-- A response names the request that it answers: in its header, in the words of the request if it
named itself, and by the same name in its body, if the body gives one. -/
def HttpResponse.Names (p : HttpResponse) (r : HttpRequest) : Prop :=
  ∃ name, p.requestId = some name ∧
    (∀ given, r.header? "X-Request-ID" = some given → name = given) ∧
    ∀ id, p.body.requestId? = some id → id = .str name

/-! ## Names in bodies -/

theorem member?_withFinite (name : Text) (v : Json) :
    v.withFinite.member? name = (v.member? name).map Json.withFinite := by
  have hlookup : ∀ l : List (JsonString × Json),
      (Json.membersWithFinite l).reverse.lookup (.text name) =
        (l.reverse.lookup (.text name)).map Json.withFinite := by
    intro l
    induction l with
    | nil => rfl
    | cons m l ih =>
      rw [Json.membersWithFinite, List.reverse_cons, List.reverse_cons, List.lookup_append,
        List.lookup_append, ih]
      cases l.reverse.lookup (.text name) with
      | some v => rfl
      | none =>
        obtain ⟨k, u⟩ := m
        simp only [Option.none_or, List.lookup_cons, List.lookup_nil]
        cases JsonString.text name == k <;> rfl
  cases v with
  | members l => exact hlookup l
  | float x => cases x <;> rfl
  | _ => rfl

theorem requestId?_failureBody (error message name : Text) (details : Json) :
    (failureBody error message name details).requestId? = some (.str name) := by
  rw [failureBody, Body.requestId?, Json.member?_object]
  rfl

theorem requestId?_of_fine {members : List (String × Json)} {status : Nat} {body : Body}
    (h : Answer.fine members = .reply status body) :
    body.requestId? = (members.reverse.lookup "request_id").map Json.withFinite := by
  rw [Answer.fine] at h
  split at h
  · obtain ⟨-, rfl⟩ := Answer.reply.inj h
    rw [Body.requestId?, member?_withFinite, Json.member?_object]
  · cases h

/-- Only the head of a response goes without its body, and questions are not asked for it. -/
theorem sent_of_question {r : HttpRequest} {depth : Nat} {q : Question}
    (h : r.question? depth = some q) (body : Body) : sent r.method body = body := by
  obtain ⟨given, hgives, -⟩ := HttpRequest.question?_eq_some_iff.mp h
  rw [sent, hgives.posted]
  rfl

theorem requestId?_of_sent {method : Text} {body : Body} {id : Json}
    (h : (sent method body).requestId? = some id) : body.requestId? = some id := by
  rw [sent] at h
  split at h
  · cases h
  · exact h

/-- The body of an answer gives no name. -/
def Answer.Unnamed (x : Answer) : Prop :=
  ∀ status body, x = .reply status body → body.requestId? = none

namespace Answer

theorem unnamed_fine {members : List (String × Json)}
    (h : members.reverse.lookup "request_id" = none) : (Answer.fine members).Unnamed := by
  intro status body hreply
  rw [requestId?_of_fine hreply, h, Option.map_none]

theorem unnamed_fault (f : Fault) : (Answer.fault f).Unnamed := nofun

theorem unnamed_reply {status : Nat} {body : Body} (h : body.requestId? = none) :
    (Answer.reply status body).Unnamed := by
  rintro _ _ ⟨⟩
  exact h

theorem unnamed_refused (refusal : Refusal) : (Answer.refused refusal).Unnamed := by
  unfold refused
  split
  · split
    · exact unnamed_reply (Json.member?_object _ _)
    · exact unnamed_fault _
  · exact unnamed_reply (Json.member?_object _ _)

/-- An answer in which all is well is no failure of the gate. -/
theorem settle_fine (members : List (String × Json)) (name : Text) :
    (Answer.fine members).settle name = .fine members := by
  rw [Answer.fine]
  split <;> rfl

end Answer

namespace App

variable {a : App} {r : HttpRequest} {s : State}

theorem Aside.unnamed {p : Answer × State} (h : Aside s p) : p.1.Unnamed := by
  cases h with
  | refused refusal => exact Answer.unnamed_refused refusal
  | failed f left => exact Answer.unnamed_fault f
  | shown left nameless => exact Answer.unnamed_fine nameless
  | measured | moved | described => exact Answer.unnamed_reply rfl
  | elsewhere status words => exact Answer.unnamed_reply (Json.member?_object _ _)

/-- Where no question is answered with a result, the body gives no name. -/
theorem unnamed_route (h : ∀ q, r.question? a.bodyDepth = some q →
      ∀ result, (a.service.ask a.source false q s.world).1 ≠ .result result) :
    (a.route r s).1.Unnamed := by
  cases hq : r.question? a.bodyDepth with
  | none => exact (aside_route a s hq).unnamed
  | some q =>
    rw [route_eq_of_question hq]
    split
    · rename_i result w hresult
      exact absurd (congrArg Prod.fst hresult) (h q hq result)
    · exact Answer.unnamed_fault _
    · exact Answer.unnamed_fault _

/-- What a question is answered with, given its result. -/
theorem route_of_result {q : Question} {result : RunResult} (hq : r.question? a.bodyDepth = some q)
    (hresult : (a.service.ask a.source false q s.world).1 = .result result) :
    (a.route r s).1 = .fine (resultFields q.text (a.givenNameOf r) result) := by
  rw [route_eq_of_question hq]
  cases hask : a.service.ask a.source false q s.world with
  | mk reply w =>
    rw [hask] at hresult
    obtain rfl : reply = .result result := hresult
    rfl

/-- **The result of a question** is given with a name that is never empty, if the application has
one for it. -/
theorem requestId?_of_result {q : Question} {result : RunResult} (hq : r.question? a.bodyDepth = some q)
    (hresult : (a.service.ask a.source false q s.world).1 = .result result) {status : Nat} {body : Body}
    (hreply : (a.measure r s).answer = .reply status body) :
    body.requestId? = some (.str (a.givenNameOf r)) := by
  rw [answer_measure, askedMethod?_of_question hq, route_of_result hq hresult] at hreply
  dsimp only at hreply
  rw [Answer.settle_fine] at hreply
  exact requestId?_of_fine hreply

/-- **Every other body** gives the name in the header, if it gives one: that of a failure of the gate
does. -/
theorem requestId?_of_no_result (hasked : askedMethod? r = none)
    (h : ∀ q, r.question? a.bodyDepth = some q →
      ∀ result, (a.service.ask a.source false q s.world).1 ≠ .result result)
    {status : Nat} {body : Body} (hreply : (a.measure r s).answer = .reply status body) {id : Json}
    (hid : body.requestId? = some id) : id = .str (a.nameOf r) := by
  rw [answer_measure, hasked] at hreply
  dsimp only at hreply
  unfold Answer.settle at hreply
  split at hreply
  · obtain ⟨-, rfl⟩ := Answer.reply.inj hreply
    rw [requestId?_failureBody] at hid
    exact (Option.some.inj hid).symm
  · rw [unnamed_route h _ _ hreply] at hid
    cases hid

/-- Only a name that is there and empty is another one in the body. -/
theorem givenNameOf_eq (a : App) {r : HttpRequest} (h : r.header? "X-Request-ID" ≠ some []) :
    a.givenNameOf r = a.nameOf r := by
  rw [givenNameOf, nameOf, HttpRequest.givenHeader?_eq h]

/-! ## Responses -/

variable {o : Occasion}

theorem not_names_of_asked {method : Text} (h : askedMethod? o.visit.request = some method) :
    ¬ (a.serveOn o s).response.Names o.visit.request := by
  rintro ⟨name, hname, -⟩
  have hnone : (a.serveOn o s).response.requestId = none := requestId_of_asked h
  rw [hnone] at hname
  cases hname

theorem not_names_of_escape {f : Fault} (h : a.escapeOn? o s = some f) :
    ¬ (a.serveOn o s).response.Names o.visit.request := by
  rintro ⟨name, hname, -⟩
  have hnone : (a.serveOn o s).response.requestId = none :=
    congrArg HttpResponse.requestId (response_of_escape h)
  rw [hnone] at hname
  cases hname

/-- The result of a question that comes with an empty name gives another one. -/
theorem not_names_of_empty (hfresh : o.freshId ≠ []) (hescape : a.escapeOn? o s = none)
    (hheader : o.visit.request.header? "X-Request-ID" = some [])
    (hanswered : (a.answer? o s).isSome) :
    ¬ (a.serveOn o s).response.Names o.visit.request := by
  rintro ⟨name, -, hgiven, hbody⟩
  obtain ⟨q, result, hq, hresult⟩ := isSome_answer?_iff.mp hanswered
  obtain ⟨status, body, hreply⟩ := exists_measure hescape
  have hresponse : (a.serveOn o s).response = _ := response_of_measure hreply
  rw [hresponse, sent_of_question hq] at hbody
  have hid := hbody _
    (requestId?_of_result (a := a.on o) (s := ⟨worldOn o s, s.metrics⟩) hq hresult hreply)
  have hname : (a.on o).givenNameOf o.visit.request = o.freshId := by
    rw [givenNameOf, HttpRequest.givenHeader?, hheader]
    rfl
  have hempty : name = [] := hgiven [] hheader
  rw [hname, hempty] at hid
  exact hfresh (JsonString.text.inj (Json.string.inj hid))

/-- **Which responses name their requests.**  If the application never makes up an empty name, the
response to a request names it, in its header and wherever its body gives a name, unless the request
is a browser's question about what other pages may send, ends in a fault that no layer deals with,
or comes with an empty name and is a question that has a result. -/
theorem names_request_iff (a : App) (o : Occasion) (s : State) (hfresh : o.freshId ≠ []) :
    (a.serveOn o s).response.Names o.visit.request ↔
      askedMethod? o.visit.request = none ∧ a.escapeOn? o s = none ∧
        ¬ (o.visit.request.header? "X-Request-ID" = some [] ∧ (a.answer? o s).isSome) := by
  constructor
  · intro hnames
    have hasked : askedMethod? o.visit.request = none :=
      Option.eq_none_iff_forall_ne_some.mpr fun _ h => not_names_of_asked h hnames
    have hescape : a.escapeOn? o s = none :=
      Option.eq_none_iff_forall_ne_some.mpr fun _ h => not_names_of_escape h hnames
    exact ⟨hasked, hescape, fun ⟨hheader, hanswered⟩ =>
      not_names_of_empty hfresh hescape hheader hanswered hnames⟩
  · rintro ⟨hasked, hescape, hempty⟩
    obtain ⟨status, body, hreply⟩ := exists_measure hescape
    have hresponse : (a.serveOn o s).response = _ := response_of_measure hreply
    rw [hresponse, name_measure, hasked]
    refine ⟨_, rfl, fun given hgiven => ?_, fun id hid => ?_⟩
    · rw [nameOf, hgiven, Option.getD_some]
    · replace hid := requestId?_of_sent hid
      by_cases hanswered : (a.answer? o s).isSome
      · obtain ⟨q, result, hq, hresult⟩ := isSome_answer?_iff.mp hanswered
        rw [requestId?_of_result (a := a.on o) (s := ⟨worldOn o s, s.metrics⟩) hq hresult hreply,
          givenNameOf_eq _ fun hheader => hempty ⟨hheader, hanswered⟩] at hid
        exact (Option.some.inj hid).symm
      · refine requestId?_of_no_result hasked (fun q hq result hresult => ?_) hreply hid
        exact hanswered (isSome_answer?_iff.mpr ⟨q, result, hq, hresult⟩)

/-- A question with a name. -/
def Sample.namedQuestion (name : String) : Occasion :=
  Sample.atNoon (Sample.named name (Sample.question "u-1")) "SELECT id FROM users".toList

/-- A browser asks whether another page may ask for the schema. -/
def Sample.browser : Occasion :=
  let r := Sample.named "req-1" (Sample.request "OPTIONS" "/api/v1/schema" "u-1" [])
  Sample.atNoon { r with headers := [
    ("Origin".toList, "https://shop.test".toList),
    ("Access-Control-Request-Method".toList, "GET".toList)] ++ r.headers } []

theorem names_request_iff_namedQuestion :
    (Sample.namedQuestion "req-1").freshId ≠ [] ∧
      (Sample.app.serveOn (Sample.namedQuestion "req-1") Sample.start).response.Names
        (Sample.namedQuestion "req-1").visit.request := by
  have hfresh : (Sample.namedQuestion "req-1").freshId ≠ [] := by decide
  have hescape : Sample.app.escapeOn? (Sample.namedQuestion "req-1") Sample.start = none :=
    Option.isNone_iff_eq_none.mp (by decide +kernel)
  have hheader :
      (Sample.namedQuestion "req-1").visit.request.header? "X-Request-ID" ≠ some [] := by decide
  exact ⟨hfresh, (names_request_iff Sample.app (Sample.namedQuestion "req-1") Sample.start hfresh).mpr
    ⟨rfl, hescape, fun h => hheader h.1⟩⟩

/-- Three requests that name themselves and are answered without their names: one meets a backend
that is down, one is a browser's, and one has an empty name. -/
theorem not_all_named :
    ¬ (Sample.app.serveOn Sample.schemaDown Sample.start).response.Names
        Sample.schemaDown.visit.request ∧
      ¬ (Sample.app.serveOn Sample.browser Sample.start).response.Names
        Sample.browser.visit.request ∧
      ¬ (Sample.app.serveOn (Sample.namedQuestion "") Sample.start).response.Names
        (Sample.namedQuestion "").visit.request := by
  have hasked : askedMethod? Sample.browser.visit.request = some "GET".toList := by decide
  have hescape : Sample.app.escapeOn? (Sample.namedQuestion "") Sample.start = none :=
    Option.isNone_iff_eq_none.mp (by decide +kernel)
  exact ⟨not_names_of_escape escapeOn?_schemaDown, not_names_of_asked hasked,
    not_names_of_empty (by decide) hescape (by decide) (by decide +kernel)⟩

end App

end QueryGate.Web
