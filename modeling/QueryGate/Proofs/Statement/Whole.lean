import QueryGate.Proofs.Statement.Span
import QueryGate.Proofs.Text.Words

/-! # Statements of one projection and one table

A statement `SELECT projection FROM rest` is read as it is meant as long as no `FROM` stands in the
projection behind a blank (`span?_of_projection`), and its table is the first name of the rest as
long as no `FROM` stands in the projection before a blank (`table?_of_projection`).  Whatever
surrounds such a `FROM`, a string or parentheses, does not count. -/

namespace QueryGate

open Text Projection

namespace Text

/-- A part whose characters all satisfy `p` ends within a text whose last character does not. -/
theorem exists_rest_of_all {p : Char → Bool} {x y z t : Text} (h : x ++ y = z ++ t)
    (hx : ∀ c ∈ x, p c = true) (hne : z ≠ []) (hz : z.getLast?.any p = false) :
    ∃ u, u ≠ [] ∧ z = x ++ u ∧ y = u ++ t := by
  have hlast : ∀ v, x = z ++ v → False := by
    rintro v rfl
    obtain ⟨c, hc⟩ := Option.isSome_iff_exists.mp (List.getLast?_isSome.mpr hne)
    have hpc := hx c (List.mem_append_left _ (List.mem_of_getLast? hc))
    rw [hc, Option.any_some, hpc] at hz
    cases hz
  rcases List.append_eq_append_iff.mp h with ⟨u, rfl, rfl⟩ | ⟨v, hv, -⟩
  · refine ⟨u, ?_, rfl, rfl⟩
    rintro rfl
    exact hlast [] (by simp)
  · exact (hlast v hv).elim

/-- A part without blanks ends before the first blank. -/
theorem exists_rest_of_blank {x y z t : Text} (h : x ++ y = z ++ t)
    (hx : ∀ c ∈ x, isBlank c = false) (ht : t.head?.any isBlank = true) :
    ∃ u, z = x ++ u ∧ y = u ++ t := by
  rcases List.append_eq_append_iff.mp h with ⟨u, rfl, rfl⟩ | ⟨v, rfl, hv⟩
  · exact ⟨u, rfl, rfl⟩
  · cases v with
    | nil => exact ⟨[], by simp, by simpa using hv.symm⟩
    | cons c v =>
      subst hv
      rw [List.cons_append, List.head?_cons, Option.any_some, hx c (by simp)] at ht
      cases ht

end Text

namespace Statement

theorem allWord_close {w : Text} (h : IsForm "FROM".toList w) : AllWord w :=
  h.allWord_of_keyword (by decide)

theorem dropKeyword?_form {k w : Text} (h : IsForm k w) (rest : Text) :
    dropKeyword? k (w ++ rest) = some rest :=
  dropKeyword?_eq_some_iff.mpr ⟨w, rfl, h⟩

theorem close_ne_nil {w : Text} (h : IsForm "FROM".toList w) : w ≠ [] := h.ne_nil (by decide)

/-! ## The span -/

/-- No `FROM` in the text stands behind a blank. -/
def NoFromBehindBlank (p : Text) : Prop :=
  ∀ a w b, p = a ++ (w ++ b) → WordBetween "FROM".toList a w b → a.getLast?.any isBlank = false

/-- No `FROM` in the text stands before a blank. -/
def NoFromBeforeBlank (p : Text) : Prop :=
  ∀ a w b, p = a ++ (w ++ b) → WordBetween "FROM".toList a w b → b.head?.any isBlank = false

/-- Behind every `FROM` of the text something else than a blank stands. -/
def FromContinued (p : Text) : Prop :=
  ∀ a w b, p = a ++ (w ++ b) → WordBetween "FROM".toList a w b → b.head?.any (!isBlank ·) = true

/-- A text has finitely many places for a part. -/
theorem forall_parts_iff {Q : Text → Text → Text → Prop} {p : Text} :
    (∀ a w b, p = a ++ (w ++ b) → Q a w b) ↔
      ∀ i ∈ List.range (p.length + 1), ∀ j ∈ List.range (p.length + 1),
        Q (p.take i) ((p.drop i).take j) ((p.drop i).drop j) := by
  constructor
  · intro h i _ j _
    exact h _ _ _ (by rw [List.take_append_drop, List.take_append_drop])
  · rintro h a w b rfl
    have hlength : (a ++ (w ++ b)).length = a.length + (w.length + b.length) := by
      rw [List.length_append, List.length_append]
    have hpart := h a.length (List.mem_range.mpr (by omega)) w.length
      (List.mem_range.mpr (by omega))
    rwa [List.take_left, List.drop_left, List.take_left, List.drop_left] at hpart

instance (k a w b : Text) : Decidable (WordBetween k a w b) :=
  decidable_of_iff (IsForm k w ∧ a.getLast?.any isWord = false ∧ b.head?.any isWord = false)
    ⟨fun h => ⟨h.1, h.2.1, h.2.2⟩, fun h => ⟨h.form, h.before, h.after⟩⟩

instance (p : Text) : Decidable (NoFromBehindBlank p) := decidable_of_iff' _ forall_parts_iff

instance (p : Text) : Decidable (FromContinued p) := decidable_of_iff' _ forall_parts_iff

/-- No closing `FROM` is read within the projection. -/
theorem dropFrom?_eq_none {p a q t : Text} (hfrom : NoFromBehindBlank p) (hp : p = a ++ q)
    (hne : q ≠ []) (hlast : q.getLast?.any isBlank = false) (ht : t.head?.any isBlank = true) :
    dropFrom? (q ++ t) = none := by
  rw [Option.eq_none_iff_forall_ne_some]
  intro rest hrest
  obtain ⟨gap, close, hgap, hclose, heq, hhead⟩ := dropFrom?_eq_some_iff.mp hrest
  -- the blanks end within the projection, and so does the keyword behind them
  obtain ⟨u, -, rfl, hu⟩ := exists_rest_of_all heq.symm hgap.2 hne hlast
  obtain ⟨v, rfl, hv⟩ := exists_rest_of_blank hu
    (fun c hc => isBlank_of_isWord (allWord_close hclose c hc)) ht
  obtain ⟨c, hc, hblank⟩ := hgap.getLast? (s := a)
  have hword : WordBetween "FROM".toList (a ++ gap) close v := by
    refine ⟨hclose, by rw [hc, Option.any_some, isWord_of_isBlank hblank], ?_⟩
    cases v with
    | nil => rfl
    | cons d v => simpa [hv] using hhead
  have hno := hfrom (a ++ gap) close v (by rw [hp, List.append_assoc]) hword
  rw [hc, Option.any_some, hblank] at hno
  cases hno

theorem upToFrom?_of_projection {p a q t after : Text} (hfrom : NoFromBehindBlank p)
    (hp : p = a ++ q) (hlast : q.getLast?.any isBlank = false)
    (ht : t.head?.any isBlank = true) (hafter : dropFrom? t = some after) :
    upToFrom? (q ++ t) = some (q, after) := by
  induction q generalizing a with
  | nil =>
    cases t with
    | nil => cases ht
    | cons c t => simp [upToFrom?, hafter]
  | cons c q ih =>
    have hnone := dropFrom?_eq_none hfrom hp (by simp) hlast ht
    have hlast' : q.getLast?.any isBlank = false := by
      cases q with
      | nil => rfl
      | cons d q => simpa using hlast
    rw [List.cons_append] at hnone ⊢
    rw [upToFrom?, hnone]
    simp only [ih (a := a ++ [c]) (by simp [hp]) hlast', Option.map_some]

/-- A projection without blanks at its ends and without a `FROM` behind a blank is found. -/
theorem span?_of_projection {select gap p gap' close after : Text}
    (hselect : IsForm "SELECT".toList select) (hgap : IsBlanks gap) (hne : p ≠ [])
    (hfirst : p.head?.any isBlank = false) (hlast : p.getLast?.any isBlank = false)
    (hfrom : NoFromBehindBlank p) (hgap' : IsBlanks gap') (hclose : IsForm "FROM".toList close)
    (hafter : after.head?.any isWord = false) :
    span? (select ++ (gap ++ (p ++ (gap' ++ (close ++ after))))) = some ⟨[], p, after⟩ := by
  have hend : dropFrom? (gap' ++ (close ++ after)) = some after :=
    dropFrom?_eq_some_iff.mpr ⟨gap', close, hgap', hclose, rfl, hafter⟩
  obtain ⟨c, hc, hblank⟩ := hgap'.head? (s := close ++ after)
  have hprojection : upToFrom? (p ++ (gap' ++ (close ++ after))) = some (p, after) :=
    upToFrom?_of_projection (a := []) hfrom rfl hlast (by rw [hc, Option.any_some, hblank]) hend
  have hblanks : dropBlanks? (gap ++ (p ++ (gap' ++ (close ++ after)))) =
      some (p ++ (gap' ++ (close ++ after))) := by
    refine dropBlanks?_eq_some_iff.mpr ⟨gap, hgap, rfl, ?_⟩
    rw [List.head?_append_of_ne_nil _ hne]
    exact hfirst
  have hkeyword := dropKeyword?_form hselect (gap ++ (p ++ (gap' ++ (close ++ after))))
  cases hs : select with
  | nil => exact absurd hs (hselect.ne_nil (by decide))
  | cons x select =>
    rw [hs] at hkeyword
    rw [List.cons_append] at hkeyword ⊢
    rw [span?, spanFrom?_cons, selectHere?, if_neg (by simp), hkeyword]
    simp only [Option.bind_some, projectionAfterSelect?, hblanks, hprojection]

/-- Without a `FROM` behind a blank there is no span. -/
theorem span?_eq_none {s : Text} (h : NoFromBehindBlank s) : span? s = none := by
  rw [Option.eq_none_iff_forall_ne_some]
  intro span hspan
  obtain ⟨select, gap, gap', close, heq, -, -, -, hgap', hclose, hafter⟩ :=
    (span?_first hspan).stands
  obtain ⟨c, hc, hblank⟩ := hgap'.getLast?
    (s := span.before ++ (select ++ (gap ++ span.projection)))
  have hword : WordBetween "FROM".toList
      (span.before ++ (select ++ (gap ++ span.projection)) ++ gap') close span.after :=
    ⟨hclose, hgap'.getLast?_isWord _, hafter⟩
  have hno := h _ _ _ (by rw [heq]; simp only [List.append_assoc]) hword
  rw [hc, Option.any_some, hblank] at hno
  cases hno

/-! ## The table -/

/-- What is found behind a `FROM` at the start of a text that follows the character `last`. -/
def tableHere? (last : Option Char) (s : Text) : Option Text :=
  if last.any isWord then none
  else ((dropKeyword? "FROM".toList s).bind dropBlanks?).bind leadingTable?

theorem tableFrom?_cons (last : Option Char) (c : Char) (s : Text) :
    tableFrom? last (c :: s) = (tableHere? last (c :: s)).or (tableFrom? (some c) s) := by
  have hfound : tableHere? last (c :: s) = if last.any isWord then none
      else ((dropKeyword? "FROM".toList (c :: s)).bind dropBlanks?).bind leadingTable? := rfl
  rw [tableFrom?]
  simp only [← hfound]
  cases tableHere? last (c :: s) <;> rfl

/-- Where no `FROM` stands before a blank, no table is found. -/
theorem tableHere?_eq_none {lead a q t : Text} (hfrom : NoFromBeforeBlank lead)
    (hlead : lead = a ++ q) (hne : q ≠ []) (hlast : q.getLast?.any isWord = false) :
    tableHere? a.getLast? (q ++ t) = none := by
  unfold tableHere?
  split
  · rfl
  · rename_i hbefore
    rw [Option.eq_none_iff_forall_ne_some]
    intro name hname
    obtain ⟨rest, hrest, -⟩ := Option.bind_eq_some_iff.mp hname
    obtain ⟨s, hkeyword, hblanks⟩ := Option.bind_eq_some_iff.mp hrest
    obtain ⟨close, heq, hclose⟩ := dropKeyword?_eq_some_iff.mp hkeyword
    obtain ⟨gap, hgap, rfl, -⟩ := dropBlanks?_eq_some_iff.mp hblanks
    -- the keyword ends within the lead, and the blank behind it stands there too
    obtain ⟨u, hune, rfl, hu⟩ := exists_rest_of_all heq.symm (allWord_close hclose) hne hlast
    obtain ⟨c, hc, hblank⟩ := hgap.head? (s := rest)
    have hhead : u.head? = some c := by
      rw [hu, List.head?_append_of_ne_nil _ hune] at hc
      exact hc
    have hword : WordBetween "FROM".toList a close u :=
      ⟨hclose, by simpa using hbefore, by rw [hhead, Option.any_some, isWord_of_isBlank hblank]⟩
    have hno := hfrom a close u hlead hword
    rw [hhead, Option.any_some, hblank] at hno
    cases hno

theorem tableFrom?_of_lead {lead a q t : Text} (hfrom : NoFromBeforeBlank lead)
    (hlead : lead = a ++ q) (hlast : q.getLast?.any isWord = false) :
    tableFrom? a.getLast? (q ++ t) = tableFrom? (a ++ q).getLast? t := by
  induction q generalizing a with
  | nil => simp
  | cons c q ih =>
    have hlast' : q.getLast?.any isWord = false := by
      cases q with
      | nil => rfl
      | cons d q => simpa using hlast
    rw [List.cons_append, tableFrom?_cons, ← List.cons_append,
      tableHere?_eq_none hfrom hlead (by simp) hlast, Option.none_or]
    have hstep := ih (a := a ++ [c]) (by simp [hlead]) hlast'
    rw [List.getLast?_concat, List.append_assoc, List.singleton_append] at hstep
    exact hstep

section Table

variable {close gap rest name : Text} (hclose : IsForm "FROM".toList close) (hgap : IsBlanks gap)
  (hrest : rest.head?.any isBlank = false) (hname : leadingTable? rest = some name)

include hclose hgap hrest hname

theorem tableFrom?_close {last : Option Char} (hlast : last.any isWord = false) :
    tableFrom? last (close ++ (gap ++ rest)) = some name := by
  have hkeyword := dropKeyword?_form hclose (gap ++ rest)
  have hblanks := dropBlanks?_eq_some_iff.mpr ⟨gap, hgap, rfl, hrest⟩
  cases hc : close with
  | nil => exact absurd hc (close_ne_nil hclose)
  | cons x close =>
    rw [hc] at hkeyword
    rw [List.cons_append] at hkeyword ⊢
    rw [tableFrom?_cons, tableHere?, if_neg (by simpa using hlast), hkeyword, Option.bind_some,
      hblanks, Option.bind_some, hname, Option.some_or]

/-- The first name behind the first `FROM` before a blank is the table. -/
theorem table?_of_lead {lead : Text} (hfrom : NoFromBeforeBlank lead)
    (hlast : lead.getLast?.any isWord = false) :
    table? (lead ++ (close ++ (gap ++ rest))) = some name := by
  have hskip := tableFrom?_of_lead (a := []) (t := close ++ (gap ++ rest)) hfrom rfl hlast
  rw [List.nil_append] at hskip
  rw [table?, show (none : Option Char) = ([] : Text).getLast? from rfl, hskip]
  exact tableFrom?_close hclose hgap hrest hname hlast

/-- With no `FROM` before a blank in the projection, the table is the name behind the projection. -/
theorem table?_of_projection {select gap₁ p gap₂ : Text} (hselect : IsForm "SELECT".toList select)
    (hgap₁ : IsBlanks gap₁) (hfrom : FromContinued p) (hgap₂ : IsBlanks gap₂) :
    table? (select ++ (gap₁ ++ (p ++ (gap₂ ++ (close ++ (gap ++ rest)))))) = some name := by
  have hlead : NoFromBeforeBlank (select ++ (gap₁ ++ (p ++ gap₂))) := by
    intro a w b h hword
    have hword' := hword.form.allWord_of_keyword (by decide)
    have hwne := hword.form.ne_nil_of_keyword (by decide)
    rcases split_at_gap hgap₁.1 hgap₁.noWord hwne hword' h with ⟨b', hs, rfl⟩ | ⟨a', hp, rfl⟩
    · -- `SELECT` is another word
      have hother : ¬ IsForm "FROM".toList select := fun hform =>
        absurd (IsForm.head_eq (s := []) (t := []) (by decide) (by decide) hselect hform rfl)
          (by decide)
      have hlacks : Lacks "FROM".toList select :=
        .of_word (hselect.allWord_of_keyword (by decide)) hother
      exact absurd (hword.inside (x := [])) (hlacks a w b' hs)
    · rw [← List.append_nil gap₂] at hp
      rcases split_at_gap hgap₂.1 hgap₂.noWord hwne hword' hp with ⟨b', rfl, rfl⟩ | ⟨a'', hnil, -⟩
      · have hinside : WordBetween "FROM".toList (select ++ gap₁ ++ a') w (b' ++ (gap₂ ++ [])) := by
          simpa using hword
        have hbeside := hfrom a' w b' rfl hinside.inside
        cases b' with
        | nil => cases hbeside
        | cons d b' => simpa using hbeside
      · exact absurd (List.append_eq_nil_iff.mp (List.append_eq_nil_iff.mp hnil.symm).2).1 hwne
  have hlast := hgap₂.getLast?_isWord (select ++ (gap₁ ++ p))
  have hassoc : select ++ (gap₁ ++ p) ++ gap₂ = select ++ (gap₁ ++ (p ++ gap₂)) := by
    simp only [List.append_assoc]
  rw [hassoc] at hlast
  simpa only [List.append_assoc] using table?_of_lead hclose hgap hrest hname hlead hlast

/-- Whatever stands in front of a `FROM` and a name, there is a table. -/
theorem table?_isSome {lead : Text} (hlast : lead.getLast?.any isWord = false) :
    (table? (lead ++ (close ++ (gap ++ rest)))).isSome = true := by
  have hsearch : ∀ last : Option Char, (lead.getLast?.or last).any isWord = false →
      (tableFrom? last (lead ++ (close ++ (gap ++ rest)))).isSome = true := by
    clear hlast
    induction lead with
    | nil =>
      intro last hlast
      have hlast' : last.any isWord = false := hlast
      rw [List.nil_append, tableFrom?_close hclose hgap hrest hname hlast']
      rfl
    | cons c lead ih =>
      intro last hlast
      rw [getLast?_cons_or] at hlast
      rw [List.cons_append, tableFrom?_cons, Option.isSome_or, ih _ hlast, Bool.or_true]
  exact hsearch none (by simpa using hlast)

end Table

end Statement

end QueryGate
