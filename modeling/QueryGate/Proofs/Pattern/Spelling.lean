import QueryGate.Proofs.Pattern.Occurrence
import QueryGate.Proofs.Text.Spelling

/-! # Patterns and spelling

Two places are *alike* if the texts from there on are spelled alike and the characters in front of
them are of the same class (`Place.Alike`).  One text may have more blanks in a gap than the other,
so the search in the second text runs ahead to the end of each gap that it enters.

What can be read from a place can be read from every place alike, up to the spelling
(`Alike.reaches`).  So a pattern which asks for no blank behind blanks that it may have read already
has an end wherever it has one in the other text (`Alike.exists_end`), and occurs in all texts spelled
alike or in none (`occurs_of_spelled_eq`). -/

namespace QueryGate

open Text

namespace Place

/-- A blank stands in front of the place. -/
def inGap (a : Place) : Bool := a.before.any isBlank

/-- What follows the places is spelled alike, the characters in front of them are of one class, and
no blank follows the second place if it is in a gap. -/
structure Alike (a b : Place) : Prop where
  word : a.before.any isWord = b.before.any isWord
  gap : a.inGap = b.inGap
  rest : spelledFrom a.inGap a.rest = spelledFrom b.inGap b.rest
  atEnd : b.inGap = true → b.rest.head?.any isBlank = false

theorem alike_start {s t : Text} (h : spelled s = spelled t) : Alike (.start s) (.start t) where
  word := rfl
  gap := rfl
  rest := h
  atEnd := nofun

/-- What is read in the second text for what is read in the first. -/
structure ReadAlike (inGap : Bool) (t u : Text) : Prop where
  blank : AllBlank t → AllBlank u
  letters : (∀ c ∈ t, isBlank c = false) → t.map asciiUpper = u.map asciiUpper
  ne_nil : t ≠ [] → inGap = false → u ≠ []

variable {a b a' : Place} {before : Option Char} {c : Char} {s t : Text}

theorem isWord_of_inGap (h : a.inGap = true) : a.before.any isWord = false := by
  obtain ⟨before, rest⟩ := a
  cases before with
  | none => rfl
  | some c => exact isWord_of_isBlank h

/-- Reading one character leads to places alike: a letter is read for a letter, the whole gap for its
first blank, and nothing for a further blank. -/
theorem Alike.step (h : Alike ⟨before, c :: s⟩ b) :
    ∃ u b', b.Reaches u b' ∧ Alike ⟨some c, s⟩ b' ∧
      ReadAlike (inGap ⟨before, c :: s⟩) [c] u := by
  obtain ⟨hword, hgap, hrest, hend⟩ := h
  cases hc : isBlank c with
  | false =>
    obtain ⟨d, s', hb, hletter, hsame⟩ := exists_of_spelledFrom_cons hc hrest hend
    have hd : isBlank d = false := by rw [← isBlank_asciiUpper, hletter, isBlank_asciiUpper, hc]
    refine ⟨[d], ⟨some d, s'⟩, ⟨hb, rfl⟩, ⟨?_, ?_, ?_, ?_⟩, ?_, ?_, ?_⟩
    · rw [Option.any_some, Option.any_some, ← isWord_asciiUpper, ← hletter, isWord_asciiUpper]
    · exact hc.trans hd.symm
    · simpa only [inGap, Option.any_some, hc, hd] using hsame
    · exact fun hblank => absurd (hd.symm.trans hblank) (by decide)
    · exact fun hall => absurd (hc.symm.trans (hall c List.mem_cons_self)) (by decide)
    · exact fun _ => by rw [List.map_singleton, List.map_singleton, hletter]
    · exact fun _ _ => List.cons_ne_nil d []
  | true =>
    have hletters : ¬ ∀ x ∈ [c], isBlank x = false := fun hnone =>
      absurd (hc.symm.trans (hnone c List.mem_cons_self)) (by decide)
    cases hinside : inGap ⟨before, c :: s⟩ with
    | true =>
      -- the search in the second text has passed this blank already
      rw [hinside] at hgap hrest
      refine ⟨[], b, reaches_nil_iff.mpr rfl, ⟨?_, ?_, ?_, hend⟩, ?_, ?_, ?_⟩
      · rw [isWord_of_inGap hgap.symm]
        exact isWord_of_isBlank hc
      · exact hc.trans hgap
      · rw [(spelledFrom_of_isBlank hc s).1] at hrest
        rw [← hrest]
        exact congrArg (spelledFrom · s) hc
      · exact fun _ => by simp [AllBlank]
      · exact fun hnone => absurd hnone hletters
      · exact nofun
    | false =>
      rw [hinside] at hgap hrest
      rw [← hgap] at hrest
      obtain ⟨g, s', hb, hg, hhead, hsame⟩ := exists_of_spelled_blank hc hrest
      obtain ⟨d, hlast, hd⟩ := hg.getLast? (s := [])
      rw [List.nil_append] at hlast
      have hinside' : inGap ⟨g.getLast?.or b.before, s'⟩ = true := by
        rw [inGap, hlast]
        exact hd
      refine ⟨g, ⟨g.getLast?.or b.before, s'⟩, ⟨hb, rfl⟩, ⟨?_, ?_, ?_, ?_⟩, ?_, ?_, ?_⟩
      · rw [isWord_of_inGap hinside']
        exact isWord_of_isBlank hc
      · exact hc.trans hinside'.symm
      · rw [hinside', ← hsame]
        exact congrArg (spelledFrom · s) hc
      · exact fun _ => hhead
      · exact fun _ => hg.2
      · exact fun hnone => absurd hnone hletters
      · exact fun _ _ => hg.1

/-- Reading any text leads to places alike, by induction on its characters. -/
theorem Alike.reaches (h : Alike a b) (ht : a.Reaches t a') :
    ∃ u b', b.Reaches u b' ∧ Alike a' b' ∧ ReadAlike a.inGap t u := by
  induction t generalizing a b with
  | nil =>
    obtain rfl := reaches_nil_iff.mp ht
    exact ⟨[], b, reaches_nil_iff.mpr rfl, h, fun _ => by simp [AllBlank], fun _ => rfl,
      fun hne => absurd rfl hne⟩
  | cons c t ih =>
    obtain ⟨before, rest⟩ := a
    cases rest with
    | nil => cases eq_nil_of_reaches ht
    | cons d rest =>
      obtain ⟨rfl, hrest⟩ := reaches_cons_iff.mp ht
      obtain ⟨u, m, hu, hm, hread⟩ := h.step
      obtain ⟨v, b', hv, hb', hmore⟩ := ih hm hrest
      refine ⟨u ++ v, b', reaches_append_iff.mpr ⟨m, hu, hv⟩, hb', ?_, ?_, ?_⟩
      · intro hblank
        obtain ⟨hd, hblank⟩ := List.forall_mem_cons.mp hblank
        exact List.forall_mem_append.mpr
          ⟨hread.blank (List.forall_mem_singleton.mpr hd), hmore.blank hblank⟩
      · intro hletters
        obtain ⟨hd, hletters⟩ := List.forall_mem_cons.mp hletters
        rw [List.map_append, ← hmore.letters hletters,
          ← hread.letters (List.forall_mem_singleton.mpr hd)]
        rfl
      · intro _ hgap hnil
        exact hread.ne_nil (List.cons_ne_nil d []) hgap (List.append_eq_nil_iff.mp hnil).1

/-- The characters behind places alike are of one class, but within a gap only where a word
follows. -/
theorem Alike.head?_isWord (h : Alike a b)
    (ha : a.inGap = false ∨ a.rest.head?.any isWord = true) :
    b.rest.head?.any isWord = a.rest.head?.any isWord := by
  obtain ⟨before, rest⟩ := a
  cases rest with
  | nil =>
    have hnil := h.rest
    rw [← h.gap, ha.resolve_right (by simp)] at hnil
    obtain ⟨before', rest'⟩ := b
    cases rest' with
    | nil => rfl
    | cons d rest' =>
      exfalso
      cases hd : isBlank d with
      | false => rw [spelledFrom_of_not_isBlank hd] at hnil; cases hnil
      | true => rw [(spelledFrom_of_isBlank hd rest').2] at hnil; cases hnil
  | cons c s =>
    obtain ⟨u, b', hu, -, hread⟩ := h.step
    cases hc : isBlank c with
    | false =>
      have hletters := hread.letters (List.forall_mem_singleton.mpr hc)
      obtain ⟨d, rfl⟩ : ∃ d, u = [d] := by
        refine List.length_eq_one_iff.mp ?_
        rw [← List.length_map (f := asciiUpper), ← hletters]
        rfl
      have hletter : asciiUpper c = asciiUpper d := (List.cons.inj hletters).1
      rw [hu.1, List.cons_append, List.head?_cons, List.head?_cons, Option.any_some,
        Option.any_some, ← isWord_asciiUpper, ← hletter, isWord_asciiUpper]
    | true =>
      have hword : isWord c = false := isWord_of_isBlank hc
      have hgap : inGap ⟨before, c :: s⟩ = false :=
        ha.resolve_right (by simp [hword])
      have hblanks : IsBlanks u := ⟨hread.ne_nil (List.cons_ne_nil c []) hgap,
        hread.blank (List.forall_mem_singleton.mpr hc)⟩
      rw [hu.1, hblanks.head?_isWord]
      exact hword.symm

/-- Where a word begins or ends, one does at every place alike.  In a gap it can only begin. -/
theorem Alike.atBoundary (h : Alike a b) (ha : a.atBoundary = true) : b.atBoundary = true := by
  have hhead : a.inGap = false ∨ a.rest.head?.any isWord = true := by
    cases hin : a.inGap with
    | false => exact .inl rfl
    | true =>
      rw [Place.atBoundary, isBoundary, isWord_of_inGap hin] at ha
      exact .inr (by simpa using ha)
  rw [Place.atBoundary, isBoundary, ← h.word, h.head?_isWord hhead]
  exact ha

/-- Behind letters there is no gap. -/
theorem not_inGap_of_reaches (ht : a.Reaches t a') (hne : t ≠ [])
    (hletters : ∀ c ∈ t, isBlank c = false) : a'.inGap = false := by
  rcases List.eq_nil_or_concat t with rfl | ⟨front, c, rfl⟩
  · exact absurd rfl hne
  · rw [Place.inGap, ht.2, List.concat_eq_append, List.getLast?_concat, Option.some_or,
      Option.any_some]
    exact hletters c (by simp)

end Place

namespace Pattern

/-- A match that begins in a gap, if `gap` holds, or else in none may end in a gap. -/
def endsInGap (gap : Bool) : Pattern → Bool
  | keyword word => gap && word.isEmpty
  | run _ | run1 _ => true
  | boundary => gap
  | seq p q => endsInGap (endsInGap gap p) q
  | alt p q => endsInGap gap p || endsInGap gap q
  | opt p => endsInGap gap p || gap

/-- No keyword has a blank in it, no run is of digits, and no run that may begin in a gap must read
anything. -/
def Spacious (gap : Bool) : Pattern → Bool
  | keyword word => word.all (!isBlank ·)
  | run k => k != .digit
  | run1 k => k != .digit && !gap
  | boundary => true
  | seq p q => Spacious gap p && Spacious (endsInGap gap p) q
  | alt p q => Spacious gap p && Spacious gap q
  | opt p => Spacious gap p

variable {p : Pattern} {gap : Bool} {a b a' : Place} {s t u : Text}

theorem has_of_readAlike {k : CharClass} (hk : (k != .digit) = true)
    (h : Place.ReadAlike gap t u) (ht : ∀ c ∈ t, k.has c = true) : ∀ c ∈ u, k.has c = true := by
  cases k with
  | blank => exact h.blank ht
  | digit => cases hk
  | any => exact fun _ _ => rfl

/-- **A spacious pattern ends alike from places alike**, by induction on the pattern. -/
theorem Alike.exists_end (hp : p.Spacious gap = true) (h : Place.Alike a b)
    (hgap : a.inGap = true → gap = true) (ha' : a' ∈ p.ends a) :
    ∃ b' ∈ p.ends b, Place.Alike a' b' ∧ (a'.inGap = true → p.endsInGap gap = true) := by
  induction p generalizing gap a b a' with
  | keyword word =>
    obtain ⟨t, ht, hform⟩ := mem_ends_iff.mp ha'
    have hform : IsForm word t := hform
    have hword : ∀ x ∈ word, isBlank x = false := by simpa [Spacious] using hp
    have hletters := hform.not_isBlank hword
    obtain ⟨u, b', hu, hb', hread⟩ := h.reaches ht
    refine ⟨b', mem_ends_iff.mpr ⟨u, hu, hform.of_map_asciiUpper (hread.letters hletters)⟩, hb', ?_⟩
    intro hin
    by_cases ht' : t = []
    · subst ht'
      obtain rfl := Place.reaches_nil_iff.mp ht
      cases hform
      simpa [endsInGap] using hgap hin
    · rw [Place.not_inGap_of_reaches ht ht' hletters] at hin
      cases hin
  | run k =>
    obtain ⟨t, ht, hall⟩ := mem_ends_iff.mp ha'
    obtain ⟨u, b', hu, hb', hread⟩ := h.reaches ht
    exact ⟨b', mem_ends_iff.mpr ⟨u, hu, has_of_readAlike hp hread hall⟩, hb', fun _ => rfl⟩
  | run1 k =>
    obtain ⟨t, ht, hne, hall⟩ := mem_ends_iff.mp ha'
    obtain ⟨hk, hout⟩ := Bool.and_eq_true_iff.mp hp
    have hnot : a.inGap = false := by
      cases hin : a.inGap with
      | false => rfl
      | true =>
        rw [hgap hin] at hout
        cases hout
    obtain ⟨u, b', hu, hb', hread⟩ := h.reaches ht
    exact ⟨b', mem_ends_iff.mpr ⟨u, hu, hread.ne_nil hne hnot, has_of_readAlike hk hread hall⟩, hb',
      fun _ => rfl⟩
  | boundary =>
    simp only [ends] at ha' ⊢
    split at ha'
    · rename_i hborder
      obtain rfl := List.mem_singleton.mp ha'
      exact ⟨b, by rw [if_pos (h.atBoundary hborder)]; exact List.mem_singleton_self b, h, hgap⟩
    · cases ha'
  | seq p q ihp ihq =>
    obtain ⟨hp, hq⟩ := Bool.and_eq_true_iff.mp hp
    obtain ⟨m, hm, ha'⟩ := List.mem_flatMap.mp ha'
    obtain ⟨n, hn, hmn, hin⟩ := ihp hp h hgap hm
    obtain ⟨b', hb', hend, hin'⟩ := ihq hq hmn hin ha'
    exact ⟨b', List.mem_flatMap.mpr ⟨n, hn, hb'⟩, hend, hin'⟩
  | alt p q ihp ihq =>
    obtain ⟨hp, hq⟩ := Bool.and_eq_true_iff.mp hp
    rcases List.mem_append.mp ha' with ha' | ha'
    · obtain ⟨b', hb', hend, hin⟩ := ihp hp h hgap ha'
      exact ⟨b', List.mem_append_left _ hb', hend, fun hg => by simp [endsInGap, hin hg]⟩
    · obtain ⟨b', hb', hend, hin⟩ := ihq hq h hgap ha'
      exact ⟨b', List.mem_append_right _ hb', hend, fun hg => by simp [endsInGap, hin hg]⟩
  | opt p ih =>
    rcases List.mem_append.mp ha' with ha' | ha'
    · obtain ⟨b', hb', hend, hin⟩ := ih hp h hgap ha'
      exact ⟨b', List.mem_append_left _ hb', hend, fun hg => by simp [endsInGap, hin hg]⟩
    · obtain rfl := List.mem_singleton.mp ha'
      exact ⟨b, List.mem_append_right _ (List.mem_singleton_self b), h,
        fun hg => by simp [endsInGap, hgap hg]⟩

/-- A pattern occurs where it ends behind any part of the text. -/
theorem occurs_iff_exists_end :
    p.occurs s = true ↔ ∃ b, b ∈ (seq (run .any) p).ends (.start s) := by
  rw [occurs_iff]
  constructor
  · rintro ⟨x, t, y, rfl, ht, -⟩
    refine ⟨⟨(x ++ t).getLast?.or none, y⟩, mem_ends_iff.mpr ⟨x ++ t, ⟨?_, rfl⟩, x, t, rfl, ?_, ?_⟩⟩
    · simp only [Place.start, List.append_assoc]
    · exact fun _ _ => rfl
    · simpa only [Place.start, Option.or_none] using ht
  · rintro ⟨b, hb⟩
    obtain ⟨_, hreach, x, t, rfl, -, ht⟩ := mem_ends_iff.mp hb
    refine ⟨x, t, b.rest, ?_, ?_, trivial⟩
    · rw [← List.append_assoc]
      exact hreach.1
    · simpa only [Place.start, Option.or_none] using ht

/-- **A spacious pattern occurs in all texts spelled alike or in none.** -/
theorem occurs_of_spelled_eq (hp : p.Spacious true = true) (h : spelled s = spelled t) :
    p.occurs s = p.occurs t := by
  have himp : ∀ {s t : Text}, spelled s = spelled t → p.occurs s = true → p.occurs t = true := by
    intro s t h hs
    obtain ⟨a, ha⟩ := occurs_iff_exists_end.mp hs
    have hspacious : (seq (run .any) p).Spacious false = true := by
      rw [Spacious, Bool.and_eq_true]
      exact ⟨rfl, hp⟩
    obtain ⟨b, hb, -⟩ := Alike.exists_end hspacious (Place.alike_start h) nofun ha
    exact occurs_iff_exists_end.mpr ⟨b, hb⟩
  exact Bool.eq_iff_iff.mpr ⟨himp h, himp h.symm⟩

end Pattern

end QueryGate
