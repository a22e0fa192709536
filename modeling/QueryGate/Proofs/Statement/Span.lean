import QueryGate.Proofs.Text.Words
import QueryGate.Statement.Span

/-! # The first span of a statement

`Span.StandsAfter` says what a span is, whatever way it is found: a `SELECT` that is a word, a text
between blanks, and a closing `FROM` that ends a word.  The search for it answers exactly if there
is one, and its answer begins first (`span?_first`). -/

namespace QueryGate

open Text

namespace Statement

theorem dropWholeKeyword?_eq_some_iff {k s rest : Text} :
    dropWholeKeyword? k s = some rest ↔
      ∃ w, IsForm k w ∧ s = w ++ rest ∧ rest.head?.any isWord = false := by
  unfold dropWholeKeyword?
  constructor
  · intro h
    split at h
    · rename_i found hfound
      obtain ⟨w, rfl, hw⟩ := dropKeyword?_eq_some_iff.mp hfound
      split at h
      · cases h
      · rename_i hhead
        obtain rfl := Option.some.inj h
        exact ⟨w, hw, rfl, by simpa using hhead⟩
    · cases h
  · rintro ⟨w, hw, rfl, hhead⟩
    rw [dropKeyword?_eq_some_iff.mpr ⟨w, rfl, hw⟩]
    simp [hhead]

theorem not_isBlank_of_isFormOf {c : Char} (hc : isFormOf 'F' c = true) : isBlank c = false := by
  rw [isBlank_of_isFormOf hc]
  decide

theorem dropFrom?_eq_some_iff {s rest : Text} :
    dropFrom? s = some rest ↔
      ∃ gap close, IsBlanks gap ∧ IsForm "FROM".toList close ∧ s = gap ++ (close ++ rest) ∧
        rest.head?.any isWord = false := by
  unfold dropFrom?
  rw [Option.bind_eq_some_iff]
  constructor
  · rintro ⟨t, hblanks, hfrom⟩
    obtain ⟨gap, hgap, rfl, -⟩ := dropBlanks?_eq_some_iff.mp hblanks
    obtain ⟨close, hclose, rfl, hhead⟩ := dropWholeKeyword?_eq_some_iff.mp hfrom
    exact ⟨gap, close, hgap, hclose, rfl, hhead⟩
  · rintro ⟨gap, close, hgap, hclose, rfl, hhead⟩
    refine ⟨close ++ rest, dropBlanks?_eq_some_iff.mpr ⟨gap, hgap, rfl, ?_⟩,
      dropWholeKeyword?_eq_some_iff.mpr ⟨close, hclose, rfl, hhead⟩⟩
    cases hclose with
    | cons hc _ => simpa using not_isBlank_of_isFormOf hc

/-- The text before the nearest `FROM`. -/
theorem upToFrom?_eq_some {s projection rest : Text} (h : upToFrom? s = some (projection, rest)) :
    ∃ t, s = projection ++ t ∧ dropFrom? t = some rest := by
  induction s generalizing projection with
  | nil => cases h
  | cons c s ih =>
    simp only [upToFrom?] at h
    split at h
    · rename_i found hfound
      cases h
      exact ⟨c :: s, rfl, hfound⟩
    · obtain ⟨⟨p, found⟩, hp, heq⟩ := Option.map_eq_some_iff.mp h
      cases heq
      obtain ⟨t, rfl, ht⟩ := ih hp
      exact ⟨t, rfl, ht⟩

/-- The nearest `FROM` is found, and none stands before it. -/
theorem upToFrom?_nearest {p t rest : Text} (h : dropFrom? t = some rest) :
    ∃ projection rest', upToFrom? (p ++ t) = some (projection, rest') ∧
      projection.length ≤ p.length := by
  induction p with
  | nil =>
    cases t with
    | nil => cases h
    | cons c t => exact ⟨[], rest, by simp [upToFrom?, h], by simp⟩
  | cons c p ih =>
    obtain ⟨projection, rest', hp, hle⟩ := ih
    rw [List.cons_append, upToFrom?, hp]
    cases dropFrom? (c :: (p ++ t)) with
    | none => exact ⟨c :: projection, rest', rfl, by simpa using hle⟩
    | some found => exact ⟨[], found, rfl, by simp⟩

/-! ## The projection -/

theorem projectionAfterSelect?_eq_some {s projection rest : Text}
    (h : projectionAfterSelect? s = some (projection, rest)) :
    ∃ gap t, IsBlanks gap ∧ s = gap ++ (projection ++ t) ∧ dropFrom? t = some rest := by
  unfold projectionAfterSelect? at h
  split at h
  · cases h
  · rename_i behind hblanks
    obtain ⟨gap, hgap, rfl, -⟩ := dropBlanks?_eq_some_iff.mp hblanks
    split at h
    · rename_i found hfound
      cases h
      obtain ⟨t, rfl, ht⟩ := upToFrom?_eq_some hfound
      exact ⟨gap, t, hgap, rfl, ht⟩
    · -- the closing `FROM` stands directly behind the blanks, of which one is the gap
      obtain ⟨found, hfound, heq⟩ := Option.map_eq_some_iff.mp h
      cases heq
      obtain ⟨hne, hall⟩ := hgap
      cases gap with
      | nil => exact absurd rfl hne
      | cons c gap =>
        exact ⟨[c], gap ++ behind, ⟨by simp, by simpa using hall c List.mem_cons_self⟩, rfl, hfound⟩

/-- Behind the blanks the projection found ends at the nearest `FROM`. -/
theorem projectionAfterSelect?_of_not_blank {gap p t rest : Text} {x : Char} (hgap : IsBlanks gap)
    (hx : isBlank x = false) (ht : dropFrom? t = some rest) :
    ∃ projection rest', projectionAfterSelect? (gap ++ (x :: p ++ t)) = some (projection, rest') ∧
      projection.length ≤ (x :: p).length := by
  have hblanks : dropBlanks? (gap ++ (x :: p ++ t)) = some (x :: p ++ t) :=
    dropBlanks?_eq_some_iff.mpr ⟨gap, hgap, rfl, by simpa using hx⟩
  obtain ⟨projection, rest', hfound, hle⟩ := upToFrom?_nearest (p := x :: p) ht
  exact ⟨projection, rest', by simp only [projectionAfterSelect?, hblanks, hfound], hle⟩

/-- Blanks alone before a `FROM` are enough: one of them is the gap. -/
theorem projectionAfterSelect?_of_blanks {gap t rest : Text} (hgap : IsBlanks gap)
    (ht : dropFrom? t = some rest) :
    ∃ projection rest', projectionAfterSelect? (gap ++ t) = some (projection, rest') := by
  obtain ⟨gap', close, hgap', hclose, rfl, hhead⟩ := dropFrom?_eq_some_iff.mp ht
  obtain ⟨hne, hall⟩ := hgap
  cases gap with
  | nil => exact absurd rfl hne
  | cons c gap =>
    have hrest : dropFrom? (gap ++ (gap' ++ (close ++ rest))) = some rest := by
      refine dropFrom?_eq_some_iff.mpr ⟨gap ++ gap', close, ⟨by simp [hgap'.1], ?_⟩, hclose,
        by simp only [List.append_assoc], hhead⟩
      exact List.forall_mem_append.mpr ⟨(List.forall_mem_cons.mp hall).2, hgap'.2⟩
    have hc : isBlank c = true := hall c List.mem_cons_self
    rw [List.cons_append, projectionAfterSelect?, dropBlanks?, if_pos hc]
    simp only
    split
    · rename_i found _
      exact ⟨found.1, found.2, rfl⟩
    · rw [List.drop_one, List.tail_cons, hrest]
      exact ⟨[], rest, rfl⟩

/-- A projection is found wherever one stands, and it is no longer than one that begins behind all
the blanks. -/
theorem projectionAfterSelect?_nearest {gap p t rest : Text} (hgap : IsBlanks gap)
    (ht : dropFrom? t = some rest) :
    ∃ projection rest', projectionAfterSelect? (gap ++ (p ++ t)) = some (projection, rest') ∧
      (p.head?.any (!isBlank ·) = true → projection.length ≤ p.length) := by
  -- the blanks at the start of the projection belong to the gap
  have hsplit : p.takeWhile isBlank ++ p.dropWhile isBlank = p := List.takeWhile_append_dropWhile
  have hgap' : IsBlanks (gap ++ p.takeWhile isBlank) :=
    ⟨by simp [hgap.1], List.forall_mem_append.mpr ⟨hgap.2, takeWhile_isBlank p⟩⟩
  have hlen : (p.dropWhile isBlank).length ≤ p.length := List.length_dropWhile_le _ _
  have hmove : gap ++ (p ++ t) = gap ++ p.takeWhile isBlank ++ (p.dropWhile isBlank ++ t) := by
    conv_lhs => rw [← hsplit]
    simp only [List.append_assoc]
  rw [hmove]
  cases hp : p.dropWhile isBlank with
  | cons x p' =>
    have hx : isBlank x = false := by
      have hhead := List.head?_dropWhile_not isBlank p
      simpa [hp] using hhead
    rw [hp] at hlen
    obtain ⟨projection, rest', hfound, hle⟩ := projectionAfterSelect?_of_not_blank hgap' hx ht
    exact ⟨projection, rest', hfound, fun _ => hle.trans hlen⟩
  | nil =>
    obtain ⟨projection, rest', hfound⟩ := projectionAfterSelect?_of_blanks hgap' ht
    refine ⟨projection, rest', hfound, ?_⟩
    intro hnot
    rw [hp, List.append_nil] at hsplit
    cases p with
    | nil => cases hnot
    | cons c p =>
      have hc : isBlank c = true := takeWhile_isBlank (c :: p) c (by rw [hsplit]; simp)
      simp [hc] at hnot

/-! ## The span -/

/-- The parts of the span, the two keywords and the blanks beside them make up a text that follows
the character `last`, and the keywords are words of it. -/
def Span.StandsAfter (last : Option Char) (span : Span) (s : Text) : Prop :=
  ∃ select gap gap' close,
    s = span.before ++ (select ++ (gap ++ (span.projection ++ (gap' ++ (close ++ span.after))))) ∧
    (span.before.getLast?.or last).any isWord = false ∧ IsForm "SELECT".toList select ∧
    IsBlanks gap ∧ IsBlanks gap' ∧ IsForm "FROM".toList close ∧
    span.after.head?.any isWord = false

/-- The span of the statement that begins first and ends at the nearest `FROM`. -/
structure Span.FirstAfter (last : Option Char) (span : Span) (s : Text) : Prop where
  stands : span.StandsAfter last s
  first : ∀ other : Span, other.StandsAfter last s → span.before.length ≤ other.before.length
  /-- Among the projections that begin behind all the blanks it is the shortest. -/
  nearest : ∀ other : Span, other.StandsAfter last s → other.before = span.before →
    other.projection.head?.any (!isBlank ·) = true →
    span.projection.length ≤ other.projection.length

/-- The span that begins first in a statement, and ends at the nearest `FROM`. -/
abbrev Span.FirstIn (span : Span) (s : Text) : Prop := span.FirstAfter none s

theorem Span.StandsAfter.tail {last : Option Char} {c x : Char} {before projection after s : Text}
    (h : Span.StandsAfter last ⟨x :: before, projection, after⟩ (c :: s)) :
    x = c ∧ Span.StandsAfter (some c) ⟨before, projection, after⟩ s := by
  obtain ⟨select, gap, gap', close, heq, hlast, hrest⟩ := h
  obtain ⟨rfl, rfl⟩ := List.cons.inj heq
  rw [getLast?_cons_or] at hlast
  exact ⟨rfl, select, gap, gap', close, rfl, hlast, hrest⟩

theorem Span.StandsAfter.cons {last : Option Char} {c : Char} {span : Span} {s : Text}
    (h : span.StandsAfter (some c) s) :
    Span.StandsAfter last { span with before := c :: span.before } (c :: s) := by
  obtain ⟨before, projection, after⟩ := span
  obtain ⟨select, gap, gap', close, rfl, hlast, hrest⟩ := h
  refine ⟨select, gap, gap', close, rfl, ?_, hrest⟩
  rw [getLast?_cons_or]
  exact hlast

/-- The projection and the text behind `FROM`, if the `SELECT` of a span stands at the start. -/
def selectHere? (last : Option Char) (s : Text) : Option (Text × Text) :=
  if last.any isWord then none else (dropKeyword? "SELECT".toList s).bind projectionAfterSelect?

theorem spanFrom?_cons (last : Option Char) (c : Char) (s : Text) :
    spanFrom? last (c :: s) =
      match selectHere? last (c :: s) with
      | some (projection, after) => some ⟨[], projection, after⟩
      | none => (spanFrom? (some c) s).map fun span => { span with before := c :: span.before } :=
  rfl

theorem standsAfter_of_selectHere? {last : Option Char} {s projection after : Text}
    (h : selectHere? last s = some (projection, after)) :
    Span.StandsAfter last ⟨[], projection, after⟩ s := by
  unfold selectHere? at h
  split at h
  · cases h
  · rename_i hlast
    obtain ⟨t, hselect, hproj⟩ := Option.bind_eq_some_iff.mp h
    obtain ⟨select, heq, hform⟩ := dropKeyword?_eq_some_iff.mp hselect
    obtain ⟨gap, u, hgap, rfl, hu⟩ := projectionAfterSelect?_eq_some hproj
    obtain ⟨gap', close, hgap', hclose, rfl, hhead⟩ := dropFrom?_eq_some_iff.mp hu
    exact ⟨select, gap, gap', close, heq, by simpa using hlast, hform, hgap, hgap', hclose, hhead⟩

/-- A span that begins at the start is found there. -/
theorem selectHere?_nearest {last : Option Char} {s projection after : Text}
    (h : Span.StandsAfter last ⟨[], projection, after⟩ s) :
    ∃ found, selectHere? last s = some found ∧
      (projection.head?.any (!isBlank ·) = true → found.1.length ≤ projection.length) := by
  obtain ⟨select, gap, gap', close, heq, hlast, hselect, hgap, hgap', hclose, hhead⟩ := h
  have hfrom : dropFrom? (gap' ++ (close ++ after)) = some after :=
    dropFrom?_eq_some_iff.mpr ⟨gap', close, hgap', hclose, rfl, hhead⟩
  obtain ⟨found, rest', hfound, hle⟩ := projectionAfterSelect?_nearest (p := projection) hgap hfrom
  have hword : last.any isWord = false := by simpa using hlast
  refine ⟨(found, rest'), ?_, hle⟩
  rw [selectHere?, hword, if_neg (by simp), dropKeyword?_eq_some_iff.mpr ⟨select, heq, hselect⟩]
  exact hfound

/-- Where no span begins at the start, every span begins in the tail. -/
theorem tail_of_selectHere?_eq_none {last : Option Char} {c : Char} {s : Text}
    (h : selectHere? last (c :: s) = none) {other : Span}
    (hother : other.StandsAfter last (c :: s)) :
    ∃ before, other.before = c :: before ∧
      Span.StandsAfter (some c) ⟨before, other.projection, other.after⟩ s := by
  obtain ⟨before, projection, after⟩ := other
  cases before with
  | nil =>
    obtain ⟨found, hsome, -⟩ := selectHere?_nearest hother
    rw [h] at hsome
    cases hsome
  | cons x before =>
    obtain ⟨rfl, htail⟩ := hother.tail
    exact ⟨before, rfl, htail⟩

/-- The search finds the first span. -/
theorem spanFrom?_first {last : Option Char} {s : Text} {span : Span}
    (h : spanFrom? last s = some span) : span.FirstAfter last s := by
  induction s generalizing last span with
  | nil => cases h
  | cons c s ih =>
    rw [spanFrom?_cons] at h
    split at h
    · rename_i projection after hfound
      obtain rfl := Option.some.inj h
      refine ⟨standsAfter_of_selectHere? hfound, fun _ _ => Nat.zero_le _, ?_⟩
      rintro ⟨before, projection', after'⟩ hother hbefore hblank
      obtain rfl : before = [] := hbefore
      obtain ⟨found, hsome, hle⟩ := selectHere?_nearest hother
      rw [hfound] at hsome
      obtain rfl := Option.some.inj hsome
      exact hle hblank
    · rename_i hnone
      obtain ⟨inner, hinner, rfl⟩ := Option.map_eq_some_iff.mp h
      -- no span begins here, so every one is a span of the tail
      obtain ⟨hstands, hfirst, hnearest⟩ := ih hinner
      refine ⟨hstands.cons, ?_, ?_⟩
      · intro other hother
        obtain ⟨before, hbefore, htail⟩ := tail_of_selectHere?_eq_none hnone hother
        rw [hbefore]
        exact Nat.succ_le_succ (hfirst _ htail)
      · intro other hother heq hblank
        obtain ⟨before, hbefore, htail⟩ := tail_of_selectHere?_eq_none hnone hother
        obtain ⟨-, rfl⟩ := List.cons.inj (hbefore.symm.trans heq)
        exact hnearest ⟨inner.before, other.projection, other.after⟩ htail rfl hblank

/-- The span of a statement is its first. -/
theorem span?_first {s : Text} {span : Span} (h : span? s = some span) : span.FirstIn s :=
  spanFrom?_first h

end Statement

end QueryGate
