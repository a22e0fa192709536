import QueryGate.Proofs.Pipeline.Kept
import QueryGate.Proofs.Web.Accounts

/-! # What a user is shown of the past

The audit directory of an application that began with none holds the records of the questions so
far, and nothing else: this is so at first, and each request preserves it
(`App.remembers_serveOn`).  So if the clock never goes back, and has shown no more days than are
read, a user who asks for the past is shown an entry for each of their own questions that was
concluded, the newest first, up to the limit (`App.history_shows_conclusions`).

A question is concluded if it is answered, but also if it is abandoned, its request being cancelled
while the source is at work.  Nothing is assumed about the sources and models that the questions
met. -/

namespace QueryGate.Web

open Text Audit Metrics

/-! ## Time -/

/-- The date on which an occasion is, if the clock shows a time. -/
def Occasion.date? (o : Occasion) : Option Date := o.visit.now.toOption.map (·.date)

/-- The clock shows universal time, its days never go back, and they are no more than `window`. -/
structure Steady (window : Int) (os : List Occasion) : Prop where
  universal : ∀ o ∈ os, ∃ t, o.visit.now = .ok t ∧ t.IsUniversal
  ordered : (os.filterMap (·.date?)).Pairwise fun a b => b.NoEarlier a
  few : ((os.filterMap (·.date?)).dedup.length : Int) ≤ window

theorem Steady.of_append {window : Int} {os os' : List Occasion} (h : Steady window (os ++ os')) :
    Steady window os where
  universal o ho := h.universal o (List.mem_append_left _ ho)
  ordered := by
    have hall := h.ordered
    rw [List.filterMap_append] at hall
    exact (List.pairwise_append.mp hall).1
  few := by
    have hsub : os.filterMap (·.date?) ⊆ (os ++ os').filterMap (·.date?) := by
      rw [List.filterMap_append]
      exact List.subset_append_left _ _
    exact (Int.ofNat_le.mpr (length_dedup_le hsub)).trans h.few

/-- A day on which there is a request is one that is read. -/
theorem Steady.window_pos {window : Int} {os : List Occasion} (h : Steady window os)
    (hsome : os ≠ []) : 1 ≤ window := by
  obtain ⟨o, ho⟩ := List.exists_mem_of_ne_nil os hsome
  obtain ⟨t, hnow, -⟩ := h.universal o ho
  have hdate : o.date? = some t.date := by rw [Occasion.date?, hnow]; rfl
  have hmem : t.date ∈ (os.filterMap (·.date?)).dedup :=
    List.mem_dedup.mpr (List.mem_filterMap.mpr ⟨o, ho, hdate⟩)
  have hpos := List.length_pos_of_mem hmem
  have hfew := h.few
  omega

/-! ## What the directory holds -/

/-- The directory holds some records and nothing else, and all of them are kept. -/
structure Remembers (t : Trail) (s : State) (notes : List Note) : Prop where
  holds : Holds s.world.directory (notes.filterMap Note.place?)
  kept : ∀ n ∈ notes, n.IsKept t
  universal : ∀ n ∈ notes, n.timestamp.IsUniversal

/-- The last entries of a user, newest first. -/
def lastEntries (user : Text) (limit : Int) (l : List (Date × Entry)) : List Entry :=
  ((l.map (·.2)).reverse.filter (Entry.isOf user)).take limit.toNat

theorem mem_of_mem_lastEntries {user : Text} {limit : Int} {notes : List Note} {e : Entry}
    (h : e ∈ lastEntries user limit (datedEntries notes)) : .entry e ∈ notes := by
  obtain ⟨x, hx, rfl⟩ :=
    List.mem_map.mp (List.mem_reverse.mp (List.mem_of_mem_filter (List.mem_of_mem_take h)))
  exact mem_of_mem_entries hx

/-- The last entries of a user are found in a directory that remembers some records, if their days
never go back and are no more than are read. -/
theorem Remembers.entriesOf_eq {t : Trail} {s : State} {notes : List Note}
    (h : Remembers t s notes) (hwindow : 1 ≤ t.windowDays)
    (hordered : ((datedEntries notes).map (·.1)).Pairwise fun a b => b.NoEarlier a)
    (hfew : ((datedEntries notes).map (·.1)).dedup.length ≤ t.windowDays.toNat)
    (user : Text) (limit : Int) :
    t.entriesOf user limit s.world.directory =
      (.ok (lastEntries user limit (datedEntries notes)), []) := by
  rw [h.holds.entriesOf_eq hwindow h.kept, ← datedEntries, newestFirst_eq_reverse hordered hfew,
    ← lastEntries]
  have hread : ∀ e ∈ lastEntries user limit (datedEntries notes), e.asRead = e := by
    intro e he
    have huniversal : e.timestamp.IsUniversal := h.universal _ (mem_of_mem_lastEntries he)
    rw [Entry.asRead, huniversal.asRead]
  rw [List.map_congr_left hread, List.map_id']

namespace App

variable {a : App} {s : State} {before : List Note}

/-- One request adds the records of its question, if there is one, and nothing else. -/
theorem remembers_serveOn (a : App) (o : Occasion) {t : Timestamp} (hnow : o.visit.now = .ok t)
    (huniversal : t.IsUniversal) (h : Remembers a.service.gate.trail s before) :
    ∃ notes, Remembers a.service.gate.trail (a.serveOn o s).state (before ++ notes) ∧
      List.Forall₂ Told (a.concluded? o s).toList (datedEntries notes) ∧
      ((datedEntries notes).map (·.1)).Sublist o.date?.toList := by
  cases hq : o.visit.request.question? a.bodyDepth with
  | none =>
    obtain ⟨hnone, -, hdirectory⟩ := serveOn_of_no_question (a := a) (s := s) hq
    have hholds : Holds (a.serveOn o s).state.world.directory (before.filterMap Note.place?) := by
      rcases hdirectory with hdirectory | hdirectory
      · rw [hdirectory]
        exact h.holds
      · rw [hdirectory]
        exact h.holds.ensure
    refine ⟨[], ?_, ?_, List.nil_sublist _⟩
    · rw [List.append_nil]
      exact ⟨hholds, h.kept, h.universal⟩
    · rw [hnone]
      exact .nil
  | some q =>
    obtain ⟨notes, hending, hdirectory⟩ :=
      Service.ask_ends (w := worldOn o s) (a.on o).service o.source false q hnow
    have hentries := hending.entries huniversal
    have hdate : o.date? = some t.date := by rw [Occasion.date?, hnow]; rfl
    refine ⟨notes, ⟨?_, ?_, ?_⟩, ?_, ?_⟩
    · rw [(serveOn_of_question hq).1, hdirectory]
      exact h.holds.keepAll huniversal hending.timestamp (a.on o).service.gate.trail
    · intro n hn
      exact (List.mem_append.mp hn).elim (h.kept n) (hending.isKept a.service.gate huniversal n)
    · intro n hn
      refine (List.mem_append.mp hn).elim (h.universal n) fun hn => ?_
      rw [hending.timestamp n hn]
      exact huniversal
    · rw [concluded?, hq, Option.bind_some, Option.toList_map]
      exact List.forall₂_map_left_iff.mpr (hentries.imp fun _ _ h => told_of_entryOf h.2)
    · -- there is one entry at most, and it is of the day
      rw [hdate]
      generalize (a.on o).service.conclusion? o.source q
        ((a.on o).service.ask o.source false q (worldOn o s)).1 = c? at hentries
      cases c? with
      | none =>
        rw [List.forall₂_nil_left_iff.mp hentries]
        exact List.nil_sublist _
      | some c =>
        obtain ⟨p, l, ⟨hday, -⟩, hrest, hp⟩ := List.forall₂_cons_left_iff.mp hentries
        rw [hp, List.forall₂_nil_left_iff.mp hrest, List.map_singleton, hday]
        exact List.Sublist.refl _

/-- Requests add the records of their questions.  By induction on the occasions. -/
theorem remembers_stateAfter (a : App) (os : List Occasion) {s : State} {before : List Note}
    (huniversal : ∀ o ∈ os, ∃ t, o.visit.now = .ok t ∧ t.IsUniversal)
    (h : Remembers a.service.gate.trail s before) :
    ∃ notes, Remembers a.service.gate.trail (a.stateAfter os s) (before ++ notes) ∧
      List.Forall₂ Told (a.conclusions os s) (datedEntries notes) ∧
      ((datedEntries notes).map (·.1)).Sublist (os.filterMap (·.date?)) := by
  induction os generalizing s before with
  | nil =>
    refine ⟨[], ?_, .nil, List.nil_sublist _⟩
    rw [List.append_nil]
    exact h
  | cons o os ih =>
    obtain ⟨⟨t, hnow, hzone⟩, huniversal⟩ := List.forall_mem_cons.mp huniversal
    obtain ⟨notes, hremembers, htold, hdays⟩ := remembers_serveOn a o hnow hzone h
    obtain ⟨notes', hremembers', htold', hdays'⟩ := ih huniversal hremembers
    refine ⟨notes ++ notes', ?_, ?_, ?_⟩
    · rw [← List.append_assoc]
      exact hremembers'
    · rw [datedEntries_append]
      exact List.rel_append htold htold'
    · rw [datedEntries_append, List.map_append, ← List.singleton_append, List.filterMap_append]
      have hone : [o].filterMap (·.date?) = o.date?.toList := by
        cases hdate : o.date? <;> simp [hdate]
      rw [hone]
      exact hdays.append hdays'

/-! ## The answer -/

/-- The body in which entries are shown. -/
def shownEntries (user : Text) (entries : List Entry) : Json := .object [
  ("user_id", .str user),
  ("count", .ofNat entries.length),
  ("entries", .arr (entries.map (·.toJson)))]

/-- What every reader accepts is shown as it is. -/
theorem fine_of_isPortable {members : List (String × Json)}
    (h : (Json.object members).isPortable = true) :
    Answer.fine members = .reply 200 (.json (.object members)) := by
  rw [Answer.fine, Json.withFinite_of_isPortable h]
  exact if_pos h

theorem isPortable_shownEntries (user : Text) {entries : List Entry}
    (h : ∀ e ∈ entries, e.toJson.isStorable = true) :
    (shownEntries user entries).isPortable = true := by
  have hstorable : (Json.arr (entries.map (·.toJson))).isStorable = true := by
    refine Json.areStorable_of_forall fun v hv => ?_
    obtain ⟨e, he, rfl⟩ := List.mem_map.mp hv
    exact h e he
  have hportable := Json.isPortable_of_isStorable hstorable
  simp only [shownEntries, Json.object, Json.obj, List.map_cons, List.map_nil, Json.isPortable,
    Json.membersPortable, JsonString.isText, Json.ofNat, Bool.true_and, Bool.and_true]
  exact hportable

/-- The entries that are found are shown. -/
theorem route_history {r : HttpRequest} {limit : Int} {entries : List Entry}
    (hroute : Route.find r.method r.target.path = .to .history)
    (hlimit : limitIn 50 r.target = .ok limit)
    (hfound : a.service.gate.trail.entriesOf r.userId limit s.world.directory = (.ok entries, []))
    (hstorable : ∀ e ∈ entries, e.toJson.isStorable = true) :
    (a.route r s).1 = .reply 200 (.json (shownEntries r.userId entries)) := by
  have hfine := fine_of_isPortable (isPortable_shownEntries r.userId hstorable)
  simp only [route, hroute, answer, history, hlimit, hfound, hfine]
  rfl

/-- The last conclusions of questions of a user, newest first. -/
def lastConclusions (user : Text) (limit : Int) (l : List (Question × Conclusion)) :
    List (Question × Conclusion) :=
  ((l.filter fun x => x.1.userId = user).reverse).take limit.toNat

/-- The entries of a user, newest first, tell of the last conclusions for that user. -/
theorem told_lastConclusions {conclusions : List (Question × Conclusion)}
    {l : List (Date × Entry)} (h : List.Forall₂ Told conclusions l) (user : Text) (limit : Int) :
    List.Forall₂ (fun x e => ∃ r, x.2.Has r ∧ e.TellsOf x.1 r)
      (lastConclusions user limit conclusions) (lastEntries user limit l) := by
  have htells : List.Forall₂ (fun x e => ∃ r, x.2.Has r ∧ e.TellsOf x.1 r) conclusions
      (l.map (·.2)) := by
    refine List.forall₂_map_right_iff.mpr (h.imp fun x p htold => ?_)
    obtain ⟨r, hhas, -, htells⟩ := htold
    exact ⟨r, hhas, htells⟩
  have hsame : ∀ ⦃x : Question × Conclusion⦄ ⦃e : Entry⦄, (∃ r, x.2.Has r ∧ e.TellsOf x.1 r) →
      (decide (x.1.userId = user) = true ↔ e.isOf user = true) := by
    rintro x e ⟨r, -, he⟩
    rw [Entry.isOf, he.userId, decide_eq_true_eq, beq_iff_eq]
  rw [lastConclusions, lastEntries, ← List.filter_reverse]
  exact List.forall₂_take _ (List.rel_filter hsame (List.rel_reverse htells))

/-- An application that began without records is asked for the past of a user, after requests on
days that never go back and are no more than are read: the last entries of that user are shown. -/
theorem response_of_history (a : App) (os : List Occasion) (o : Occasion) (s : State) {limit : Int}
    (hfresh : s.world.directory = .absent ∨ s.world.directory = .present [])
    (hsteady : Steady a.service.gate.trail.windowDays (os ++ [o]))
    (hroute : Route.find o.visit.request.method o.visit.request.target.path = .to .history)
    (hlimit : limitIn 50 o.visit.request.target = .ok limit) :
    ∃ l, List.Forall₂ Told (a.conclusions os s) l ∧
      (a.serveOn o (a.stateAfter os s)).response =
        ⟨200, some ((a.on o).nameOf o.visit.request),
          .json (shownEntries o.visit.request.userId
            (lastEntries o.visit.request.userId limit l))⟩ := by
  have hwindow : 1 ≤ a.service.gate.trail.windowDays := hsteady.window_pos (by simp)
  have hearlier := hsteady.of_append
  have hstart : Remembers a.service.gate.trail s [] := ⟨holds_empty hfresh, nofun, nofun⟩
  obtain ⟨notes, hremembers, htold, hdays⟩ :=
    remembers_stateAfter a os hearlier.universal hstart
  rw [List.nil_append] at hremembers
  have hfew : ((datedEntries notes).map (·.1)).dedup.length ≤
      a.service.gate.trail.windowDays.toNat := by
    have hle := length_dedup_le hdays.subset
    have hspan := hearlier.few
    omega
  refine ⟨datedEntries notes, htold, ?_⟩
  obtain ⟨s₀, hworld, -, -, hresponse⟩ := serve_of_route (a := a.on o)
    (s := ⟨worldOn o (a.stateAfter os s), (a.stateAfter os s).metrics⟩)
    (askedMethod?_eq_none hroute)
  have hdirectory : s₀.world.directory = (a.stateAfter os s).world.directory := by
    rw [hworld]
    rfl
  have hfound := hremembers.entriesOf_eq hwindow (hearlier.ordered.sublist hdays) hfew
    o.visit.request.userId limit
  rw [← hdirectory] at hfound
  have hreply := hresponse 200 _ (route_history (a := a.on o) (s := s₀) hroute hlimit hfound
    fun e he => (hremembers.kept _ (mem_of_mem_lastEntries he)).storable)
  -- the endpoint is asked for as a whole, not for its head alone
  have hget : o.visit.request.method = "GET".toList :=
    List.mem_singleton.mp (Route.find_eq_to_iff.mp hroute).2
  have hbody : ∀ body, sent o.visit.request.method body = body := by
    intro body
    rw [sent, hget]
    rfl
  rw [hbody] at hreply
  exact hreply

/-- **The past of a user.**  An application that began without records is asked for the past of a
user, after any requests on days that never go back and are no more than are read.  The answer shows
one entry for each of the last conclusions of questions of that user, newest first, up to the limit.
Each entry tells of its question and of the result with which it was concluded, which for an
abandoned question nobody was given.  Each of these questions is what one of the requests gave,
trimmed, in the name of its caller. -/
theorem history_shows_conclusions (a : App) (os : List Occasion) (o : Occasion) (s : State)
    {limit : Int} (hfresh : s.world.directory = .absent ∨ s.world.directory = .present [])
    (hsteady : Steady a.service.gate.trail.windowDays (os ++ [o]))
    (hroute : Route.find o.visit.request.method o.visit.request.target.path = .to .history)
    (hlimit : limitIn 50 o.visit.request.target = .ok limit) :
    (∃ entries : List Entry,
      (a.serveOn o (a.stateAfter os s)).response =
        ⟨200, some ((a.on o).nameOf o.visit.request),
          .json (shownEntries o.visit.request.userId entries)⟩ ∧
      List.Forall₂ (fun x e => ∃ r, x.2.Has r ∧ e.TellsOf x.1 r)
        (lastConclusions o.visit.request.userId limit (a.conclusions os s)) entries) ∧
    a.answers os s = answered (a.conclusions os s) ∧
    ∀ x ∈ a.conclusions os s, ∃ o' ∈ os, ∃ given, o'.visit.request.Gives a.bodyDepth given ∧
      x.1 = ⟨trim given, o'.visit.request.userId, o'.visit.request.userEmail⟩ := by
  obtain ⟨l, htold, hresponse⟩ := response_of_history a os o s hfresh hsteady hroute hlimit
  refine ⟨⟨_, hresponse, told_lastConclusions htold o.visit.request.userId limit⟩,
    answers_eq a os s, ?_⟩
  intro x hx
  obtain ⟨o', ho', hq⟩ := question?_of_mem_conclusions hx
  exact ⟨o', ho', HttpRequest.question?_eq_some_iff.mp hq⟩

/-- Two users ask, one of them twice; in between the health of the application is looked at. -/
def Sample.visited : List Occasion := [
  Sample.atNoon (Sample.question "u-1") "SELECT id FROM users".toList,
  Sample.atNoon (Sample.question "u-2") "DROP TABLE users".toList,
  Sample.atNoon (Sample.request "GET" "/health" "u-1" []) [],
  Sample.atNoon (Sample.question "u-1") "DROP TABLE users".toList]

/-- A user asks for the last entry. -/
def Sample.look : Occasion :=
  Sample.atNoon { Sample.request "GET" "/api/v1/audit/history" "u-1" [] with
    target := ⟨"/api/v1/audit/history".toList, [("limit".toList, "1".toList)]⟩ } []

theorem route_look : Route.find Sample.look.visit.request.method
    Sample.look.visit.request.target.path = .to .history := by
  decide

theorem userId_look : Sample.look.visit.request.userId = "u-1".toList := by decide

/-- At noon of one day the clock never goes back. -/
theorem steady_of_noon {os : List Occasion}
    (h : ∀ o ∈ os, o.visit.now = .ok QueryGate.Sample.noon) :
    Steady Sample.app.service.gate.trail.windowDays os := by
  have hdate : ∀ day ∈ os.filterMap (·.date?), day = QueryGate.Sample.noon.date := by
    intro day hday
    obtain ⟨o, ho, hdate⟩ := List.mem_filterMap.mp hday
    rw [Occasion.date?, h o ho] at hdate
    exact (Option.some.inj hdate).symm
  refine ⟨fun o ho => ⟨QueryGate.Sample.noon, h o ho, rfl⟩, ?_, ?_⟩
  · refine List.pairwise_iff_forall_sublist.mpr fun {a b} hsub => ?_
    rw [hdate a (hsub.subset (by simp)), hdate b (hsub.subset (by simp))]
    exact .inr rfl
  · have hone : (os.filterMap (·.date?)).dedup.length ≤
        [QueryGate.Sample.noon.date].dedup.length :=
      length_dedup_le fun day hday => List.mem_singleton.mpr (hdate day hday)
    exact (Int.ofNat_le.mpr hone).trans (by decide)

theorem lastConclusions_visited :
    (lastConclusions "u-1".toList 1 (Sample.app.conclusions Sample.visited Sample.start)).map
      (fun x => (x.1.text, x.2.result?.map (·.status))) =
        [("Who is there?".toList, some .blocked)] := by
  decide +kernel

theorem history_shows_conclusions_visited :
    (Sample.start.world.directory = .absent ∨ Sample.start.world.directory = .present []) ∧
      Steady Sample.app.service.gate.trail.windowDays (Sample.visited ++ [Sample.look]) ∧
      Route.find Sample.look.visit.request.method Sample.look.visit.request.target.path =
        .to .history ∧
      limitIn 50 Sample.look.visit.request.target = .ok 1 ∧
      ∃ e : Entry, e.question = .str "Who is there?".toList ∧ e.status = .blocked ∧
        (Sample.app.serveOn Sample.look (Sample.app.stateAfter Sample.visited Sample.start)).response =
          ⟨200, some "r-1".toList, .json (shownEntries "u-1".toList [e])⟩ := by
  have hsteady : Steady Sample.app.service.gate.trail.windowDays
      (Sample.visited ++ [Sample.look]) :=
    steady_of_noon (by simp [Sample.visited, Sample.look, Sample.atNoon])
  have hlimit : limitIn 50 Sample.look.visit.request.target = .ok 1 := rfl
  refine ⟨.inl rfl, hsteady, route_look, hlimit, ?_⟩
  obtain ⟨⟨entries, hresponse, htells⟩, -⟩ := history_shows_conclusions Sample.app Sample.visited
    Sample.look Sample.start (.inl rfl) hsteady route_look hlimit
  obtain ⟨x, hx, hasked⟩ := List.map_eq_singleton_iff.mp lastConclusions_visited
  rw [userId_look, hx] at htells
  rw [userId_look] at hresponse
  cases htells with
  | cons htells hnone =>
    cases hnone
    obtain ⟨r, hhas, htells⟩ := htells
    obtain ⟨htext, hstatus⟩ := Prod.mk.inj hasked
    obtain ⟨q, c⟩ := x
    cases c with
    | abandoned => cases hstatus
    | answered r' =>
      obtain rfl : r = r' := hhas
      exact ⟨_, htells.question.trans (congrArg Json.str htext),
        htells.status.trans (Option.some.inj hstatus), hresponse⟩

/-- A question is abandoned, so that no answer tells of its result; the user who asks for the past is
shown its entry all the same. -/
theorem history_shows_abandoned :
    Sample.app.answers [Sample.cancelled] Sample.start = [] ∧
      (Sample.app.serveOn Sample.cancelled Sample.start).response.status = 500 ∧
      ∃ e : Entry, e.status = .error ∧ e.error = .str Failure.cancellation.message ∧
        (Sample.app.serveOn Sample.look
          (Sample.app.stateAfter [Sample.cancelled] Sample.start)).response =
          ⟨200, some "r-1".toList, .json (shownEntries "u-1".toList [e])⟩ := by
  have hsteady : Steady Sample.app.service.gate.trail.windowDays
      ([Sample.cancelled] ++ [Sample.look]) :=
    steady_of_noon (by simp [Sample.cancelled, Sample.look, Sample.atNoon])
  have hlimit : limitIn 50 Sample.look.visit.request.target = .ok 1 := rfl
  obtain ⟨l, htold, hresponse⟩ := response_of_history Sample.app [Sample.cancelled] Sample.look
    Sample.start (.inl rfl) hsteady route_look hlimit
  obtain ⟨q, huser, hconclusions⟩ := conclusions_cancelled
  have hshown := told_lastConclusions htold "u-1".toList 1
  have hlast : lastConclusions "u-1".toList 1
      (Sample.app.conclusions [Sample.cancelled] Sample.start) = [(q, .abandoned)] := by
    rw [hconclusions, lastConclusions, List.filter_cons_of_pos (by simp [huser])]
    rfl
  rw [hlast] at hshown
  obtain ⟨e, rest, ⟨r, hhas, htells⟩, hrest, hentries⟩ := List.forall₂_cons_left_iff.mp hshown
  have hr : r.IsAbandoned := hhas
  rw [userId_look, hentries, List.forall₂_nil_left_iff.mp hrest] at hresponse
  refine ⟨?_, by decide +kernel, e, htells.status.trans hr.status, ?_, hresponse⟩
  · rw [answers_eq, hconclusions]
    rfl
  · rw [htells.error, hr.error]
    rfl

end App

end QueryGate.Web
