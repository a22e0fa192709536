import QueryGate.Proofs.Pattern.Reading

/-! # How a match is found

`Pattern.tryEnds p next` tries the places where a match of `p` may end, in order of preference.
For patterns without boundaries the character before a place does not matter, so what the search
does is said of the text from the place on: it *leads* to the rest that it finds, or it *refuses*
the text.

Every text that a pattern without boundaries reads is tried (`exists_mem_ends_of_reads`).  A run at
the end of a pattern is as long as it can be (`head?_of_firstEnd?_run1`); in front of other
patterns it is cut short if they refuse what a longer one leaves (`leads_run_back`). -/

namespace QueryGate.Pattern

open Text

/-! ## Every text that is read is tried -/

/-- No boundary stands in the pattern. -/
def Unbounded : Pattern → Bool
  | keyword _ | run _ | run1 _ => true
  | boundary => false
  | seq p q | alt p q => Unbounded p && Unbounded q
  | opt p => Unbounded p

theorem Reads.matches {p : Pattern} (hp : p.Unbounded = true) {t : Text} (h : p.Reads t)
    (before after : Option Char) : p.Matches before t after := by
  induction p generalizing t before after with
  | keyword word => exact h
  | run k => exact h
  | run1 k => exact h
  | boundary => cases hp
  | seq p q ihp ihq =>
    obtain ⟨hp, hq⟩ := Bool.and_eq_true_iff.mp hp
    obtain ⟨u, v, rfl, hu, hv⟩ := h
    exact ⟨u, v, rfl, ihp hp hu _ _, ihq hq hv _ _⟩
  | alt p q ihp ihq =>
    obtain ⟨hp, hq⟩ := Bool.and_eq_true_iff.mp hp
    exact h.imp (ihp hp · before after) (ihq hq · before after)
  | opt p ih => exact h.imp_left (ih hp · before after)

theorem exists_mem_ends_of_reads {p : Pattern} (hp : p.Unbounded = true) {t : Text}
    (h : p.Reads t) (before : Option Char) (s : Text) :
    ∃ b ∈ p.ends ⟨before, t ++ s⟩, b.rest = s :=
  ⟨⟨t.getLast?.or before, s⟩,
    mem_ends_iff.mpr ⟨t, ⟨rfl, rfl⟩, Reads.matches hp h before s.head?⟩, rfl⟩

theorem firstEnd?_isSome_of_reads {p : Pattern} (hp : p.Unbounded = true) {t : Text}
    (h : p.Reads t) (before : Option Char) (s : Text) :
    (p.firstEnd? ⟨before, t ++ s⟩).isSome = true := by
  obtain ⟨b, hb, -⟩ := exists_mem_ends_of_reads hp h before s
  rw [firstEnd?_eq_head?, List.isSome_head?]
  exact List.ne_nil_of_mem hb

/-! ## Runs at the end -/

theorem head?_of_tryRun {k : CharClass} {before : Option Char} {s : Text} {b : Place}
    (h : Place.tryRun k some before s = some b) : b.rest.head?.any k.has = false := by
  induction s generalizing before with
  | nil =>
    obtain rfl := Option.some.inj h
    rfl
  | cons c s ih =>
    simp only [Place.tryRun] at h
    split at h
    · -- the run goes on, and what it gives is what the longer run gives
      cases hlong : Place.tryRun k some (some c) s with
      | some found =>
        rw [hlong] at h
        obtain rfl := Option.some.inj h
        exact ih hlong
      | none =>
        rw [Place.tryRun_eq_findSome?, List.findSome?_eq_none_iff] at hlong
        have hfound : (⟨some c, s⟩ : Place) ∈ Place.runEnds k (some c) s :=
          Place.mem_runEnds_iff.mpr ⟨[], Place.reaches_nil_iff.mpr rfl, by simp⟩
        cases hlong _ hfound
    · rename_i hc
      obtain rfl := Option.some.inj h
      simpa using hc

/-- Behind a pattern that ends with a run, the run does not go on. -/
theorem head?_of_firstEnd?_run1 {p : Pattern} {k : CharClass} {a b : Place}
    (h : (seq p (run1 k)).firstEnd? a = some b) : b.rest.head?.any k.has = false := by
  rw [firstEnd?, tryEnds, tryEnds_eq_findSome?] at h
  obtain ⟨m, -, hm⟩ := List.exists_of_findSome?_eq_some h
  obtain ⟨before, _ | ⟨c, s⟩⟩ := m
  · cases hm
  · rw [tryEnds] at hm
    split at hm
    · exact head?_of_tryRun hm
    · cases hm

/-! ## Leading and refusing -/

/-- From the text on, whatever stands before it, the search ends in front of `rest`. -/
def Leads (next : Place → Option Place) (s rest : Text) : Prop :=
  ∀ before, ∃ b, next ⟨before, s⟩ = some b ∧ b.rest = rest

/-- From the text on, whatever stands before it, the search finds nothing. -/
def Refuses (next : Place → Option Place) (s : Text) : Prop := ∀ before, next ⟨before, s⟩ = none

variable {next : Place → Option Place} {s t rest : Text} {k : CharClass}

theorem tryEnds_seq (p q : Pattern) (next : Place → Option Place) :
    (seq p q).tryEnds next = p.tryEnds (q.tryEnds next) := by
  funext a
  rw [tryEnds]

theorem refuses_of_not_reads {p : Pattern} (h : ∀ t u, s = t ++ u → ¬ p.Reads t) :
    Refuses (p.tryEnds next) s := by
  intro before
  rw [tryEnds_eq_findSome?, List.findSome?_eq_none_iff]
  intro b hb
  obtain ⟨t, hs, ht⟩ := reads_of_mem_ends hb
  exact absurd ht (h t b.rest hs)

theorem leads_keyword {word w : Text} (hw : IsForm word w) (h : Leads next s rest) :
    Leads ((keyword word).tryEnds next) (w ++ s) rest := by
  intro before
  have hb : (⟨before, w ++ s⟩ : Place).keyword? word = some ⟨w.getLast?.or before, s⟩ :=
    Place.keyword?_eq_some_iff.mpr ⟨w, ⟨rfl, rfl⟩, hw⟩
  rw [tryEnds, hb]
  exact h _

theorem leads_opt_taken {p : Pattern} (h : Leads (p.tryEnds next) s rest) :
    Leads ((opt p).tryEnds next) s rest := by
  intro before
  obtain ⟨b, hb, hrest⟩ := h before
  exact ⟨b, by rw [tryEnds, hb, Option.orElse_some], hrest⟩

theorem leads_opt_skipped {p : Pattern} (hp : Refuses (p.tryEnds next) s)
    (h : Leads next s rest) : Leads ((opt p).tryEnds next) s rest := by
  intro before
  rw [tryEnds, hp before, Option.orElse_none]
  exact h before

theorem refuses_opt {p : Pattern} (hp : Refuses (p.tryEnds next) s) (h : Refuses next s) :
    Refuses ((opt p).tryEnds next) s := by
  intro before
  rw [tryEnds, hp before, Option.orElse_none]
  exact h before

theorem leads_alt_right {p q : Pattern} (hp : Refuses (p.tryEnds next) s)
    (h : Leads (q.tryEnds next) s rest) : Leads ((alt p q).tryEnds next) s rest := by
  intro before
  rw [tryEnds, hp before, Option.orElse_none]
  exact h before

theorem leads_alt_left {p q : Pattern} (h : Leads (p.tryEnds next) s rest) :
    Leads ((alt p q).tryEnds next) s rest := by
  intro before
  obtain ⟨b, hb, hrest⟩ := h before
  exact ⟨b, by rw [tryEnds, hb, Option.orElse_some], hrest⟩

theorem tryRun_of_head (hs : s.head?.any k.has = false) (before : Option Char) :
    Place.tryRun k next before s = next ⟨before, s⟩ := by
  cases s with
  | nil => rfl
  | cons c s => rw [Place.tryRun, if_neg (by simpa using hs)]

/-- A run that is taken as a whole. -/
theorem leads_run {g : Text} (hg : ∀ c ∈ g, k.has c = true) (hs : s.head?.any k.has = false)
    (h : Leads next s rest) : Leads ((run k).tryEnds next) (g ++ s) rest := by
  intro before
  rw [tryEnds]
  induction g generalizing before with
  | nil =>
    rw [List.nil_append, tryRun_of_head hs]
    exact h before
  | cons c g ih =>
    obtain ⟨hc, hg⟩ := List.forall_mem_cons.mp hg
    obtain ⟨b, hb, hrest⟩ := ih hg (some c)
    exact ⟨b, by rw [List.cons_append, Place.tryRun, if_pos hc, hb, Option.orElse_some], hrest⟩

/-- A run that gives its last character back, since nothing else is found behind it. -/
theorem leads_run_back {g : Text} (hne : g ≠ []) (hg : ∀ c ∈ g, k.has c = true)
    (hs : s.head?.any k.has = false) (hfar : Refuses next s)
    (h : ∀ c, k.has c = true → Leads next (c :: s) rest) :
    Leads ((run k).tryEnds next) (g ++ s) rest := by
  intro before
  rw [tryEnds]
  induction g generalizing before with
  | nil => exact absurd rfl hne
  | cons c g ih =>
    obtain ⟨hc, hg⟩ := List.forall_mem_cons.mp hg
    rw [List.cons_append, Place.tryRun, if_pos hc]
    cases g with
    | nil =>
      rw [List.nil_append, tryRun_of_head hs, hfar, Option.orElse_none]
      exact h c hc before
    | cons d g =>
      obtain ⟨b, hb, hrest⟩ := ih (by simp) hg (some c)
      exact ⟨b, by rw [hb, Option.orElse_some], hrest⟩

theorem leads_run1 {g : Text} (hne : g ≠ []) (hg : ∀ c ∈ g, k.has c = true)
    (hs : s.head?.any k.has = false) (h : Leads next s rest) :
    Leads ((run1 k).tryEnds next) (g ++ s) rest := by
  intro before
  cases g with
  | nil => exact absurd rfl hne
  | cons c g =>
    obtain ⟨hc, hg⟩ := List.forall_mem_cons.mp hg
    obtain ⟨b, hb, hrest⟩ := leads_run hg hs h (some c)
    exact ⟨b, by rw [List.cons_append, tryEnds, if_pos hc]; exact hb, hrest⟩

theorem refuses_run1 (hs : s.head?.any k.has = false) : Refuses ((run1 k).tryEnds next) s := by
  intro before
  cases s with
  | nil => rfl
  | cons c s => rw [tryEnds, if_neg (by simpa using hs)]

end QueryGate.Pattern
