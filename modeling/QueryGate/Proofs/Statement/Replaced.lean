import QueryGate.Proofs.Statement.Whole

/-! # Reading a statement with another projection

With another projection in its first span a statement has its first span in the same place: an
earlier one would have stood in the statement before (`length_before_le`).  The projection that is
read there begins as the new one does, and it is the new one unless a `FROM` stands in that behind
a blank (`span?_withProjection`). -/

namespace QueryGate.Statement

open Text

/-- Where a span stands one is found. -/
theorem spanFrom?_isSome {last : Option Char} {s : Text} {span : Span}
    (h : span.StandsAfter last s) : (spanFrom? last s).isSome = true := by
  induction s generalizing last span with
  | nil =>
    obtain ⟨select, gap, gap', close, heq, -, hselect, -⟩ := h
    have hnil := (List.append_eq_nil_iff.mp (List.append_eq_nil_iff.mp heq.symm).2).1
    exact absurd hnil (hselect.ne_nil_of_keyword (by decide))
  | cons c s ih =>
    rw [spanFrom?_cons]
    split
    · rfl
    · rename_i hnone
      obtain ⟨before, -, htail⟩ := tail_of_selectHere?_eq_none hnone h
      rw [Option.isSome_map, ih htail]

variable {s new : Text} {span : Span}

/-- The new statement with its parts in a row. -/
theorem Span.withProjection_eq (span : Span) (new : Text) :
    span.withProjection new =
      span.before ++ ("SELECT".toList ++ ([' '] ++ (new ++ ([' '] ++
        ("FROM".toList ++ span.after))))) := by
  have hselect : "SELECT ".toList = "SELECT".toList ++ [' '] := rfl
  have hfrom : " FROM".toList = [' '] ++ "FROM".toList := rfl
  simp only [withProjection, hselect, hfrom, List.append_assoc]

/-- The new projection stands in the new statement. -/
theorem Span.StandsAfter.withProjection {last : Option Char} (h : span.StandsAfter last s)
    (new : Text) : StandsAfter last { span with projection := new } (span.withProjection new) := by
  obtain ⟨-, -, -, -, -, hlast, -, -, -, -, hafter⟩ := h
  exact ⟨"SELECT".toList, [' '], [' '], "FROM".toList, span.withProjection_eq new, hlast,
    by decide, isBlanks_space, isBlanks_space, by decide, hafter⟩

/-- A span that begins in front of a border, where a word begins, has its `SELECT` and the blanks
behind it there too. -/
theorem exists_lead_of_stands {other : Span} {lead tail : Text}
    (h : other.StandsAfter none (lead ++ tail)) (hlast : lead.getLast?.any isWord = false)
    (htail : tail.head?.any isBlank = false) (hlength : other.before.length < lead.length) :
    ∃ select gap rest, lead = other.before ++ (select ++ (gap ++ rest)) ∧
      IsForm "SELECT".toList select ∧ IsBlanks gap ∧
      (other.before.getLast?.or none).any isWord = false := by
  obtain ⟨select, gap, gap', close, heq, hbefore, hselect, hgap, -⟩ := h
  obtain ⟨b, rfl, hb⟩ : ∃ b, lead = other.before ++ b ∧ b ++ tail = _ := by
    rcases List.append_eq_append_iff.mp heq with ⟨b, hb, -⟩ | ⟨b, hb, htext⟩
    · rw [hb, List.length_append] at hlength
      omega
    · exact ⟨b, hb, htext.symm⟩
  have hbne : b ≠ [] := by
    rintro rfl
    simp at hlength
  have hblast : b.getLast?.any isWord = false := by
    rwa [List.getLast?_append_of_ne_nil _ hbne] at hlast
  -- the keyword ends in front of the border, and the blanks do not pass it
  obtain ⟨u, -, rfl, hu⟩ :=
    exists_rest_of_all hb.symm (hselect.allWord_of_keyword (by decide)) hbne hblast
  rcases List.append_eq_append_iff.mp hu with ⟨rest, rfl, -⟩ | ⟨more, rfl, hmore⟩
  · exact ⟨select, gap, rest, rfl, hselect, hgap, hbefore⟩
  · cases more with
    | nil => exact ⟨select, u, [], by simp, hselect, by simpa using hgap, hbefore⟩
    | cons c more =>
      rw [hmore, List.cons_append, List.head?_cons, Option.any_some,
        hgap.2 c (by simp)] at htail
      cases htail

/-- No span of the new statement begins earlier. -/
theorem length_before_le (hspan : span.FirstIn s) {other : Span}
    (hother : other.StandsAfter none (span.withProjection new)) :
    span.before.length ≤ other.before.length := by
  by_contra hlt
  obtain ⟨select, gap, gap', close, hs, hlast, -, -, hgap', hclose, hafter⟩ := hspan.stands
  rw [Span.withProjection_eq] at hother
  obtain ⟨select', gap'', rest, hbefore, hselect', hgap'', hlast'⟩ := exists_lead_of_stands hother
    (by simpa using hlast) (by decide : isBlank 'S' = false) (by omega)
  -- the old statement had such a span, with the old keyword inside its projection
  have hstands : Span.StandsAfter none
      ⟨other.before, rest ++ (select ++ (gap ++ span.projection)), span.after⟩ s := by
    refine ⟨select', gap'', gap', close, ?_, hlast', hselect', hgap'', hgap', hclose, hafter⟩
    rw [hs, hbefore]
    simp only [List.append_assoc]
  exact absurd (hspan.first _ hstands) (by simpa using hlt)

/-- A single blank in front of something else than a blank is all of the blanks there. -/
theorem eq_of_space_append {gap t u : Text} (hgap : IsBlanks gap)
    (hnew : new.head?.any (!isBlank ·) = true) (h : [' '] ++ (new ++ t) = gap ++ u) :
    new ++ t = u := by
  obtain ⟨hne, hblanks⟩ := hgap
  cases gap with
  | nil => exact absurd rfl hne
  | cons b gap =>
    obtain ⟨-, h⟩ := List.cons.inj h
    cases gap with
    | nil => exact h
    | cons d gap =>
      cases new with
      | nil => cases hnew
      | cons x new =>
        obtain ⟨rfl, -⟩ := List.cons.inj h
        simp [hblanks x (by simp)] at hnew

/-- With no `FROM` behind a blank in a projection, none closes it before its end. -/
theorem eq_nil_of_closed {p rest gap' close after after' : Text}
    (hfrom : NoFromBehindBlank (p ++ rest)) (hlast : (p ++ rest).getLast?.any isBlank = false)
    (hgap' : IsBlanks gap') (hclose : IsForm "FROM".toList close)
    (hafter : after'.head?.any isWord = false)
    (h : rest ++ ([' '] ++ ("FROM".toList ++ after)) = gap' ++ (close ++ after')) : rest = [] := by
  by_contra hne
  have hclosed : dropFrom? (rest ++ ([' '] ++ ("FROM".toList ++ after))) = some after' :=
    dropFrom?_eq_some_iff.mpr ⟨gap', close, hgap', hclose, h, hafter⟩
  rw [List.getLast?_append_of_ne_nil _ hne] at hlast
  have hspace : ([' '] ++ ("FROM".toList ++ after)).head?.any isBlank = true :=
    (by decide : isBlank ' ' = true)
  rw [dropFrom?_eq_none hfrom rfl hne hlast hspace] at hclosed
  cases hclosed

/-- **The new statement has its span in place.**  What is read from it as the projection is the new
projection, or a part of it in front of a `FROM`. -/
theorem span?_withProjection (hspan : span? s = some span)
    (hnew : new.head?.any (!isBlank ·) = true) :
    ∃ again, span? (span.withProjection new) = some again ∧ again.before = span.before ∧
      again.projection <+: new ∧
      (NoFromBehindBlank new → new.getLast?.any isBlank = false → again.projection = new) := by
  have hfirst := span?_first hspan
  have hstands := hfirst.stands.withProjection new
  obtain ⟨again, hagain⟩ := Option.isSome_iff_exists.mp (spanFrom?_isSome hstands)
  have hagain' : again.FirstIn (span.withProjection new) := span?_first hagain
  obtain ⟨select, gap, gap', close, heq, -, hselect, hgap, hgap', hclose, hafter⟩ := hagain'.stands
  have hlength : again.before.length = span.before.length :=
    Nat.le_antisymm (hagain'.first { span with projection := new } hstands)
      (length_before_le hfirst hagain'.stands)
  rw [Span.withProjection_eq] at heq
  obtain ⟨hbefore, hrest⟩ := List.append_inj heq hlength.symm
  obtain ⟨-, hrest⟩ := List.append_inj hrest hselect.length_eq
  have hprojection : new ++ ([' '] ++ ("FROM".toList ++ span.after)) =
      again.projection ++ (gap' ++ (close ++ again.after)) := eq_of_space_append hgap hnew hrest
  have hle : again.projection.length ≤ new.length :=
    hagain'.nearest { span with projection := new } hstands hbefore hnew
  obtain ⟨rest, rfl, htail⟩ : ∃ rest, new = again.projection ++ rest ∧
      rest ++ ([' '] ++ ("FROM".toList ++ span.after)) = gap' ++ (close ++ again.after) := by
    rcases List.append_eq_append_iff.mp hprojection with ⟨rest, h, htail⟩ | ⟨rest, h, htail⟩
    · have hnil : rest = [] := by
        rw [h, List.length_append] at hle
        exact List.length_eq_zero_iff.mp (by omega)
      subst hnil
      exact ⟨[], by simpa using h.symm, by simpa using htail⟩
    · exact ⟨rest, h, htail.symm⟩
  refine ⟨again, hagain, hbefore.symm, List.prefix_append again.projection rest, ?_⟩
  intro hfrom hlast
  rw [eq_nil_of_closed hfrom hlast hgap' hclose hafter htail, List.append_nil]

end QueryGate.Statement
