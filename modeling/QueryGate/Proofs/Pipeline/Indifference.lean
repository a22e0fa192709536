import QueryGate.Proofs.Pipeline.Stages

/-! # What is kept of a session does not change it

The audit directory is written to in the middle of a run, before the source is asked and after it
has answered.  None of this is looked at again by the pipeline: two worlds that differ only in the
directory and in what was reported (`World.Alike`) give every call the same reply and stay alike
(`perform_alike`).

A session is taken turn by turn here (`Service.takeAll`).  Each turn has its own time, and its own
source and model, which may answer by what they have received so far.  Whether the directory is
fresh, filled with anything, or cannot be made, the replies are the same, and so is what the source
and the model receive (`replies_independent_of_directory`). -/

namespace QueryGate

open Text Audit

/-! ## Worlds that differ in what is kept -/

/-- Two worlds differ at most in their audit directories and in what was reported. -/
structure World.Alike (w w' : World) : Prop where
  now : w.now = w'.now
  executed : w.executed = w'.executed
  prompts : w.prompts = w'.prompts

/-- The same is told in both cases, and the worlds are alike. -/
def EndAlike {α : Type} (p p' : α × World) : Prop := p.1 = p'.1 ∧ p.2.Alike p'.2

namespace World.Alike

variable {w w' : World}

theorem report (h : w.Alike w') (l : List Event) : (w.report l).Alike (w'.report l) :=
  ⟨h.now, h.executed, h.prompts⟩

theorem wrote (h : w.Alike w') (written written' : Written) :
    (w.wrote written).Alike (w'.wrote written') := ⟨h.now, h.executed, h.prompts⟩

theorem ask (h : w.Alike w') (prompt : Text) : (w.ask prompt).Alike (w'.ask prompt) :=
  ⟨h.now, h.executed, by rw [prompts_ask, prompts_ask, h.prompts]⟩

theorem reach (h : w.Alike w') (src : Source) (s : Text) :
    (w.reach src s).Alike (w'.reach src s) where
  now := by rw [now_reach, now_reach, h.now]
  executed := by rw [executed_reach, executed_reach, h.executed]
  prompts := by rw [prompts_reach, prompts_reach, h.prompts]

end World.Alike

/-! ## The stages of a run -/

namespace Gate

variable {g : Gate} {src : Source} {interrupt : Bool} {req : Request} {w w' : World}

theorem conclude_alike (h : w.Alike w') (r : RunResult) (reason : Option Text) (ended : Outcome) :
    EndAlike (g.conclude req r reason ended w) (g.conclude req r reason ended w') := by
  cases hnow : w.now with
  | error f =>
    simp only [conclude, ← h.now, hnow]
    exact ⟨rfl, h⟩
  | ok now =>
    rw [conclude_of_now hnow, conclude_of_now (h.now ▸ hnow)]
    exact ⟨rfl, (h.wrote _ _).report _⟩

theorem finish_alike (h : w.Alike w') (r : RunResult) (a : Source.Attempt) :
    EndAlike (g.finish req r a w) (g.finish req r a w') := by
  cases a with
  | answered rows few => exact conclude_alike h _ _ _
  | timedOut => exact conclude_alike h _ _ _
  | interrupted => exact conclude_alike h _ _ _
  | raised e =>
    simp only [finish]
    cases failureOf e with
    | none => exact ⟨rfl, h⟩
    | some f => exact conclude_alike h _ _ _

/-- A violation is recorded in both worlds or, where the clock shows no time, in neither. -/
theorem recordViolation_alike (req : Request) (h : w.Alike w') (s : Sanitized) :
    (∃ f, g.recordViolation req s w = .error f ∧ g.recordViolation req s w' = .error f) ∨
      ∃ v v', g.recordViolation req s w = .ok v ∧ g.recordViolation req s w' = .ok v' ∧
        v.Alike v' := by
  cases hnow : w.now with
  | ok now =>
    refine .inr ⟨_, _, recordViolation_of_now hnow s, recordViolation_of_now (h.now ▸ hnow) s, ?_⟩
    unfold violationRecorded
    split
    · exact h
    · exact h.wrote _ _
  | error f =>
    simp only [recordViolation, ← h.now, hnow]
    split
    · exact .inr ⟨w, w', rfl, rfl, h⟩
    · exact .inl ⟨_, rfl, rfl⟩

theorem execute_alike (h : w.Alike w') (s : Sanitized) :
    EndAlike (g.execute src interrupt req s w) (g.execute src interrupt req s w') := by
  rcases recordViolation_alike (g := g) req h s with ⟨f, hw, hw'⟩ | ⟨v, v', hw, hw', hv⟩
  · simp only [execute, hw, hw']
    exact ⟨rfl, h⟩
  · simp only [execute, hw, hw']
    -- whether the source is asked depends on the deadline alone
    split
    · exact finish_alike hv _ _
    · exact finish_alike (hv.reach src s.statement) _ _

theorem run_alike (h : w.Alike w') (req : Request) :
    EndAlike (g.run src interrupt req w) (g.run src interrupt req w') := by
  simp only [run]
  cases g.rules.judge req.statement with
  | safe => exact execute_alike (h.report _) _
  | rejected r =>
    simp only
    cases r.reason? with
    | none => exact ⟨rfl, h.report _⟩
    | some reason => exact conclude_alike (h.report _) _ _ _

end Gate

/-! ## Calls -/

namespace Service

variable {svc : Service} {src : Source} {interrupt : Bool} {w w' : World}

theorem fail_alike (h : w.Alike w') (q : Question) (f : Failure) :
    EndAlike (svc.fail src q f w) (svc.fail src q f w') := by
  cases hnow : w.now with
  | error fault =>
    simp only [fail, ← h.now, hnow]
    exact ⟨rfl, h⟩
  | ok now =>
    rw [fail_of_now hnow, fail_of_now (h.now ▸ hnow)]
    exact ⟨rfl, h.wrote _ _⟩

theorem drafting_alike (h : w.Alike w') (q : Question) (schema : Text) :
    (svc.drafting src q schema w).Alike (svc.drafting src q schema w') := (h.ask _).report _

theorem ask_alike (h : w.Alike w') (q : Question) :
    EndAlike (svc.ask src interrupt q w) (svc.ask src interrupt q w') := by
  have hway := ask_way svc src interrupt q w
  generalize svc.ask src interrupt q w = ended at hway
  -- which way is taken does not depend on the world
  cases hway with
  | undescribed e hdesc hfailed =>
    have hsame : svc.ask src interrupt q w' = svc.fail src q ⟨e.text, .executionFailure⟩
        (w'.report [.schemaIntrospectionFailed e.text]) := by
      cases e with
      | cancelled => exact absurd rfl hfailed
      | guard _ | backend _ => simp only [ask, hdesc]
    rw [hsame]
    exact fail_alike (h.report _) q _
  | left hdesc =>
    simp only [ask, hdesc]
    exact ⟨rfl, h⟩
  | undrafted schema e hdesc hdraft =>
    simp only [ask, hdesc, hdraft]
    exact fail_alike ((drafting_alike h q schema).report _) q _
  | leftUndrafted schema hdesc hdraft =>
    simp only [ask, hdesc, hdraft]
    exact ⟨rfl, drafting_alike h q schema⟩
  | drafted schema statement hdesc hdraft =>
    rw [ask_of_drafted hdesc hdraft]
    exact Gate.run_alike (drafting_alike h q schema) _

/-- **One call** is answered alike in worlds that are alike. -/
theorem perform_alike (h : w.Alike w') (call : Call) :
    EndAlike (svc.perform src call w) (svc.perform src call w') := by
  cases call with
  | prepare statement schema => exact ⟨rfl, h.report _⟩
  | run interrupt request =>
    have hrun : EndAlike (svc.gate.run src interrupt request w)
        (svc.gate.run src interrupt request w') := Gate.run_alike h request
    exact ⟨congrArg Reply.ended hrun.1, hrun.2⟩
  | ask interrupt question =>
    have hask : EndAlike (svc.ask src interrupt question w) (svc.ask src interrupt question w') :=
      ask_alike h question
    exact ⟨congrArg Reply.ended hask.1, hask.2⟩

end Service

/-! ## Sessions turn by turn -/

/-- A call with the time at which it comes, and with the source and the model as they are then. -/
structure Turn where
  now : Clock
  /-- The source, given the statements that have reached it. -/
  source : List Text → Source
  /-- The model, given the prompts that have reached it. -/
  model : List Text → Draft.CannedModel
  call : Call

namespace Service

/-- The service with another model. -/
def withModel (svc : Service) (model : Draft.CannedModel) : Service :=
  { svc with drafter := { svc.drafter with model } }

/-- Answers the call of one turn. -/
def take (svc : Service) (t : Turn) (w : World) : Reply × World :=
  (svc.withModel (t.model w.prompts)).perform (t.source w.executed) t.call { w with now := t.now }

/-- Answers the calls of a session turn by turn. -/
def takeAll (svc : Service) : List Turn → World → List Reply × World
  | [], w => ([], w)
  | t :: turns, w =>
    let (reply, w) := svc.take t w
    let (replies, w) := svc.takeAll turns w
    (reply :: replies, w)

variable {w w' : World}

theorem take_alike (svc : Service) (h : w.Alike w') (t : Turn) :
    EndAlike (svc.take t w) (svc.take t w') := by
  have hturn : World.Alike { w with now := t.now } { w' with now := t.now } :=
    ⟨rfl, h.executed, h.prompts⟩
  -- source and model are the same, since they have received the same so far
  have hsame : svc.take t w' = (svc.withModel (t.model w.prompts)).perform (t.source w.executed)
      t.call { w' with now := t.now } := by
    rw [take, h.executed, h.prompts]
  rw [hsame]
  exact perform_alike hturn t.call

/-- By induction on the turns: what is alike before a turn is alike behind it. -/
theorem takeAll_alike (svc : Service) (h : w.Alike w') (turns : List Turn) :
    EndAlike (svc.takeAll turns w) (svc.takeAll turns w') := by
  induction turns generalizing w w' with
  | nil => exact ⟨rfl, h⟩
  | cons t turns ih =>
    obtain ⟨hreply, hworld⟩ := take_alike svc h t
    obtain ⟨hreplies, hend⟩ := ih hworld
    refine ⟨?_, hend⟩
    simp only [takeAll, hreply, hreplies]

/-- **Keeping records changes no answer.**  A session is given the same replies, sends the same
statements to the source and the same prompts to the model, whatever the audit directory holds at
its start, and even if there can be none. -/
theorem replies_independent_of_directory (svc : Service) (turns : List Turn) (w : World)
    (d d' : Directory) :
    let ended := svc.takeAll turns { w with directory := d }
    let ended' := svc.takeAll turns { w with directory := d' }
    ended.1 = ended'.1 ∧ ended.2.executed = ended'.2.executed ∧
      ended.2.prompts = ended'.2.prompts := by
  have hstart : World.Alike { w with directory := d } { w with directory := d' } :=
    ⟨rfl, rfl, rfl⟩
  obtain ⟨hreplies, hworld⟩ := takeAll_alike svc hstart turns
  exact ⟨hreplies, hworld.executed, hworld.prompts⟩

end Service

end QueryGate
