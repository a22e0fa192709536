import QueryGate.Catalog
import QueryGate.Projection.Quantifier
import QueryGate.Proofs.Pattern.Reading

/-! # The quantifiers that a projection keeps

The quantifiers in front of a projection are tiled by a few words with gaps between them: blanks,
digits and parentheses (`tiled_leadingQuantifiers`).  A text of letters that stands in them, in
lower case, therefore stands in one of the words (`Tiled.exists_word`).  None of the patterns of
the standard catalog does (`standard_pattern_not_in_quantifiers`). -/

namespace QueryGate.Projection

open Text Pattern

/-- The words of quantifiers. -/
def quantifierWords : List Text := [
  "DISTINCT".toList, "DISTINCTROW".toList, "ALL".toList, "TOP".toList, "PERCENT".toList,
  "WITH".toList, "TIES".toList, "HIGH_PRIORITY".toList] ++ modifiers

/-- A character between the words of quantifiers. -/
def isGap (c : Char) : Bool := isBlank c || isDigit c || c == '(' || c == ')'

/-- A text of quantifier words, in any form, each with a gap behind it. -/
inductive Tiled : Text → Prop
  | nil : Tiled []
  | gap {c : Char} {s : Text} (hc : isGap c = true) (hs : Tiled s) : Tiled (c :: s)
  | word {k w s : Text} {c : Char} (hk : k ∈ quantifierWords) (hw : IsForm k w)
      (hc : isGap c = true) (hs : Tiled (c :: s)) : Tiled (w ++ c :: s)

/-- A tiled text that begins with a gap. -/
def GapFirst (s : Text) : Prop := Tiled s ∧ ∃ c t, s = c :: t ∧ isGap c = true

namespace Tiled

theorem append {s t : Text} (hs : Tiled s) (ht : Tiled t) : Tiled (s ++ t) := by
  induction hs with
  | nil => exact ht
  | gap hc _ ih => exact .gap hc ih
  | word hk hw hc _ ih =>
    rw [List.append_assoc]
    exact .word hk hw hc ih

theorem of_gaps {t s : Text} (ht : ∀ c ∈ t, isGap c = true) (hs : Tiled s) : Tiled (t ++ s) := by
  induction t with
  | nil => exact hs
  | cons c t ih =>
    obtain ⟨hc, ht⟩ := List.forall_mem_cons.mp ht
    exact .gap hc (ih ht)

end Tiled

namespace GapFirst

theorem of_gaps {t s : Text} (hne : t ≠ []) (ht : ∀ c ∈ t, isGap c = true) (hs : Tiled s) :
    GapFirst (t ++ s) := by
  refine ⟨.of_gaps ht hs, ?_⟩
  cases t with
  | nil => exact absurd rfl hne
  | cons c t => exact ⟨c, t ++ s, rfl, ht c List.mem_cons_self⟩

theorem more_gaps {t s : Text} (ht : ∀ c ∈ t, isGap c = true) (hs : GapFirst s) :
    GapFirst (t ++ s) := by
  by_cases hne : t = []
  · subst hne
    exact hs
  · exact of_gaps hne ht hs.1

theorem word {k w s : Text} (hk : k ∈ quantifierWords) (hw : IsForm k w) (hs : GapFirst s) :
    Tiled (w ++ s) := by
  obtain ⟨htiled, c, t, rfl, hc⟩ := hs
  exact .word hk hw hc htiled

end GapFirst

theorem isGap_of_blank {t : Text} (h : ∀ c ∈ t, CharClass.blank.has c = true) :
    ∀ c ∈ t, isGap c = true := by
  intro c hc
  have hblank : isBlank c = true := h c hc
  simp [isGap, hblank]

theorem isGap_of_digit {t : Text} (h : ∀ c ∈ t, CharClass.digit.has c = true) :
    ∀ c ∈ t, isGap c = true := by
  intro c hc
  have hdigit : isDigit c = true := h c hc
  simp [isGap, hdigit]

/-! ## What the patterns of quantifiers read -/

theorem isGap_of_reads_paren {paren : Char} (hparen : paren = '(' ∨ paren = ')') {t : Text}
    (h : (opt (keyword [paren])).Reads t) : ∀ c ∈ t, isGap c = true := by
  intro c hc
  rw [eq_of_reads_mark (by rcases hparen with rfl | rfl <;> decide) h c hc]
  rcases hparen with rfl | rfl <;> decide

/-- `TOP` with its row count and options, in front of a gap. -/
theorem tiled_of_reads_topRows {t s : Text} (h : topRows.Reads t) (hs : GapFirst s) :
    Tiled (t ++ s) := by
  obtain ⟨top, _, rfl, htop, blanks₁, _, rfl, hblanks₁, opening, _, rfl, hopening, blanks₂, _, rfl,
    hblanks₂, digits, _, rfl, ⟨hne, hdigits⟩, blanks₃, _, rfl, hblanks₃, closing, _, rfl, hclosing,
    percent, ties, rfl, hpercent, hties⟩ := h
  -- from the end to the start, what stands behind each part begins with a gap
  have hties' : GapFirst (ties ++ s) := by
    rcases hties with ⟨gap, _, rfl, ⟨hgapne, hgap⟩, withs, _, rfl, hwith, gap', tie, rfl,
      ⟨hgapne', hgap'⟩, htie⟩ | rfl
    · simp only [List.append_assoc]
      refine .of_gaps hgapne (isGap_of_blank hgap) (GapFirst.word (by decide) hwith ?_)
      exact .of_gaps hgapne' (isGap_of_blank hgap') (GapFirst.word (by decide) htie hs)
    · exact hs
  have hpercent' : GapFirst (percent ++ (ties ++ s)) := by
    rcases hpercent with ⟨gap, percent, rfl, ⟨hgapne, hgap⟩, hword⟩ | rfl
    · rw [List.append_assoc]
      exact .of_gaps hgapne (isGap_of_blank hgap) (GapFirst.word (by decide) hword hties')
    · exact hties'
  have hcount : GapFirst (digits ++ (blanks₃ ++ (closing ++ (percent ++ (ties ++ s))))) :=
    .of_gaps hne (isGap_of_digit hdigits) <| .of_gaps (isGap_of_blank hblanks₃) <|
      .of_gaps (isGap_of_reads_paren (.inr rfl) hclosing) hpercent'.1
  simp only [List.append_assoc]
  refine GapFirst.word (by decide) htop ?_
  exact .more_gaps (isGap_of_blank hblanks₁) <|
    .more_gaps (isGap_of_reads_paren (.inl rfl) hopening) <|
      .more_gaps (isGap_of_blank hblanks₂) hcount

theorem tiled_of_reads_quantifier {t : Text} (h : quantifier.Reads t) : Tiled t := by
  obtain ⟨body, blanks, rfl, hbody, hne, hblanks⟩ := h
  have hgap : GapFirst blanks := by
    simpa using GapFirst.of_gaps hne (isGap_of_blank hblanks) .nil
  rcases hbody with ⟨distinct, row, rfl, hdistinct, hrow⟩ | hall | htop | hmodifier
  · rcases hrow with hrow | rfl
    · exact GapFirst.word (by decide) (List.rel_append hdistinct hrow) hgap
    · rw [List.append_nil]
      exact GapFirst.word (by decide) hdistinct hgap
  · exact GapFirst.word (by decide) hall hgap
  · exact tiled_of_reads_topRows htop hgap
  · obtain ⟨k, hk, hform⟩ := reads_oneOf_iff.mp hmodifier
    have hword : k ∈ quantifierWords := by
      rcases List.mem_cons.mp hk with rfl | hk
      · decide
      · exact List.mem_append_right _ hk
    exact GapFirst.word hword hform hgap

theorem tiled_of_dropQuantifiersUpTo (fuel : Nat) (s : Text) :
    ∃ t, s = t ++ dropQuantifiersUpTo fuel s ∧ Tiled t := by
  induction fuel generalizing s with
  | zero => exact ⟨[], rfl, .nil⟩
  | succ fuel ih =>
    rw [dropQuantifiersUpTo]
    split
    · rename_i rest hdrop
      obtain ⟨b, hb, rfl⟩ := Option.map_eq_some_iff.mp hdrop
      obtain ⟨t, hs, ht⟩ := reads_of_firstEnd? hb
      obtain ⟨u, hrest, hu⟩ := ih b.rest
      refine ⟨t ++ u, ?_, (tiled_of_reads_quantifier ht).append hu⟩
      rw [List.append_assoc, ← hrest]
      exact hs
    · exact ⟨[], rfl, .nil⟩

/-- The quantifiers in front of a text are quantifier words with gaps between them. -/
theorem tiled_leadingQuantifiers (s : Text) : Tiled (leadingQuantifiers s) := by
  obtain ⟨t, hs, ht⟩ := tiled_of_dropQuantifiersUpTo s.length s
  -- the quantifiers are what the rest leaves of the text
  have hlead : leadingQuantifiers s = t := by
    rw [leadingQuantifiers, dropQuantifiers]
    generalize dropQuantifiersUpTo s.length s = rest at hs
    subst hs
    simp
  rw [hlead]
  exact ht

/-! ## Texts that stand in quantifiers -/

theorem asciiLower_of_isGap {c : Char} (hascii : isAscii c = true) :
    isGap c = true → asciiLower c = c :=
  of_isAscii (P := fun c => isGap c = true → asciiLower c = c) (by decide) hascii

/-- No form of a character that is no gap is a gap. -/
theorem isGap_of_isFormOf {a x : Char} (ha : isGap (asciiLower a) = false)
    (h : isFormOf a x = true) : isGap x = false := by
  rw [isFormOf_alike (f := isGap) (by decide) (by decide) h, ← ha]
  exact (asciiLower_alike (by decide) a).symm

theorem noGap_of_isForm {o w : Text} (ho : ∀ a ∈ o, isGap (asciiLower a) = false)
    (hw : IsForm o w) : ∀ x ∈ w, isGap x = false := by
  intro x hx
  obtain ⟨a, ha, hform⟩ := hw.exists_mem hx
  exact isGap_of_isFormOf (ho a ha) hform

/-- The image of a gap has no character of a text without gaps. -/
theorem not_mem_plainLower_of_isGap {p : Text} (hp : AllAscii p) (hgaps : ∀ x ∈ p, isGap x = false)
    {c : Char} (hc : isGap c = true) : plainLower c ≠ [] ∧ ∀ x ∈ plainLower c, x ∉ p := by
  cases hascii : isAscii c with
  | true =>
    rw [plainLower_of_isAscii hascii, asciiLower_of_isGap hascii hc]
    refine ⟨by simp, ?_⟩
    intro x hx hmem
    obtain rfl := List.mem_singleton.mp hx
    rw [hgaps x hmem] at hc
    cases hc
  | false =>
    -- two characters have an image in ASCII without being of it, and neither is a gap
    have hi : c.toNat ≠ 0x130 := by
      intro h
      rw [eq_of_toNat_eq h] at hc
      exact absurd hc (by decide)
    have hk : c.toNat ≠ 0x212A := by
      intro h
      rw [eq_of_toNat_eq h] at hc
      exact absurd hc (by decide)
    refine ⟨by unfold plainLower lowerChar; split <;> simp [hascii], ?_⟩
    intro x hx hmem
    have hno := noAscii_plainLower hascii hi hk x hx
    rw [hp x hmem] at hno
    cases hno

theorem allAscii_of_mem_quantifierWords {k : Text} (hk : k ∈ quantifierWords) : AllAscii k := by
  have hall : ∀ k ∈ quantifierWords, k.all isAscii = true := by decide
  exact List.all_eq_true.mp (hall k hk)

/-- What stands in the image of tiled quantifiers, apart from the images of gaps, stands in the
image of one of their words. -/
theorem Tiled.exists_form {p s : Text} {image : Char → Text}
    (hgaps : ∀ c, isGap c = true → image c ≠ [] ∧ ∀ x ∈ image c, x ∉ p) (hne : p ≠ [])
    (hs : Tiled s) (h : p <:+: s.flatMap image) :
    ∃ k ∈ quantifierWords, ∃ w, IsForm k w ∧ p <:+: w.flatMap image := by
  induction hs with
  | nil => exact absurd (List.infix_nil.mp h) hne
  | @gap c s hc _ ih =>
    obtain ⟨himage, hmem⟩ := hgaps c hc
    rcases infix_of_infix_append_middle (a := []) himage hmem h with h | h
    · exact absurd (List.infix_nil.mp h) hne
    · exact ih h
  | @word k w s c hk hw hc _ ih =>
    obtain ⟨himage, hmem⟩ := hgaps c hc
    -- the gap behind a word keeps the text from standing in two words at once
    rw [List.flatMap_append, List.flatMap_cons, ← List.append_assoc] at h
    rcases infix_of_infix_append_middle himage hmem h with h | h
    · exact ⟨k, hk, w, hw, h⟩
    · exact ih (List.infix_append_of_infix_right h)

/-- A text without gaps that stands in tiled quantifiers stands in one of their words. -/
theorem Tiled.exists_word {p s : Text} (hp : AllAscii p) (hgaps : ∀ x ∈ p, isGap x = false)
    (hne : p ≠ []) (hs : Tiled s) (h : p <:+: lowered s) :
    ∃ k ∈ quantifierWords, p <:+: k.map asciiLower := by
  obtain ⟨k, hk, w, hw, h⟩ :=
    hs.exists_form (fun _ => not_mem_plainLower_of_isGap hp hgaps) hne h
  exact ⟨k, hk, infix_of_infix_lowered_form hp (allAscii_of_mem_quantifierWords hk) hw h⟩

/-! ## The quantifiers as they are kept -/

/-- What stands in the image of the kept quantifiers, without a space, stands in the image of the
quantifiers as they are written. -/
theorem infix_leadingQuantifiers {p s : Text} {image : Char → Text} (himage : image ' ' = [' '])
    (hspace : ' ' ∉ p) (hne : p ≠ []) (h : p <:+: (quantifierPrefix s).flatMap image) :
    p <:+: (leadingQuantifiers s).flatMap image := by
  have hword : ∀ ws : List Text, p <:+: (ws.flatMap fun word => word ++ [' ']).flatMap image →
      ∃ w ∈ ws, p <:+: w.flatMap image := by
    intro ws
    induction ws with
    | nil => exact fun h => absurd (List.infix_nil.mp h) hne
    | cons w ws ih =>
      intro h
      rw [List.flatMap_cons, List.flatMap_append, List.flatMap_append, List.append_assoc,
        List.flatMap_singleton, himage] at h
      rcases infix_of_infix_append_cons hspace h with h | h
      · exact ⟨w, List.mem_cons_self, h⟩
      · obtain ⟨v, hv, h⟩ := ih h
        exact ⟨v, List.mem_cons_of_mem _ hv, h⟩
  obtain ⟨w, hw, h⟩ := hword _ h
  obtain ⟨a, b, hinside⟩ := infix_of_mem_words hw
  rw [← hinside, List.flatMap_append, List.flatMap_append]
  exact h.trans (List.infix_append _ _ _)

/-- Only gaps and characters of words stand in tiled quantifiers. -/
theorem Tiled.isGap_or_isWord {s : Text} (hs : Tiled s) :
    ∀ x ∈ s, isGap x = true ∨ isWord x = true := by
  have hwords : ∀ k ∈ quantifierWords, AllWord k := by decide
  induction hs with
  | nil => simp
  | gap hc _ ih => exact List.forall_mem_cons.mpr ⟨.inl hc, ih⟩
  | word hk hw _ _ ih =>
    exact List.forall_mem_append.mpr ⟨fun x hx => .inr (hw.allWord (hwords _ hk) x hx), ih⟩

theorem not_mem_quantifierPrefix {x : Char} (hgap : isGap x = false) (hword : isWord x = false)
    (s : Text) : x ∉ quantifierPrefix s := by
  intro h
  obtain ⟨w, hw, hx⟩ := List.mem_flatMap.mp h
  rcases List.mem_append.mp hx with hx | hx
  · have hmem : x ∈ leadingQuantifiers s := (infix_of_mem_words hw).subset hx
    rcases (tiled_leadingQuantifiers s).isGap_or_isWord x hmem with h | h
    · rw [hgap] at h
      cases h
    · rw [hword] at h
      cases h
  · obtain rfl := List.mem_singleton.mp hx
    exact absurd hgap (by decide)

/-- The kept quantifiers end with a space, if there are any. -/
theorem quantifierPrefix_eq_nil_or (s : Text) :
    quantifierPrefix s = [] ∨ ∃ q, quantifierPrefix s = q ++ [' '] := by
  rw [quantifierPrefix]
  rcases List.eq_nil_or_concat (words (leadingQuantifiers s)) with h | ⟨ws, w, h⟩
  · exact .inl (by rw [h, List.flatMap_nil])
  · refine .inr ⟨(ws.flatMap fun word => word ++ [' ']) ++ w, ?_⟩
    rw [h, List.concat_eq_append, List.flatMap_append, List.flatMap_singleton, List.append_assoc]

/-- The kept quantifiers do not begin with a blank. -/
theorem head?_quantifierPrefix (s : Text) : (quantifierPrefix s).head?.any isBlank = false := by
  rw [quantifierPrefix]
  cases hws : words (leadingQuantifiers s) with
  | nil => rfl
  | cons w ws =>
    obtain ⟨hne, hblank⟩ := forall_mem_words w (by rw [hws]; exact List.mem_cons_self)
    obtain ⟨c, t, rfl⟩ := List.exists_cons_of_ne_nil hne
    exact hblank c List.mem_cons_self

/-- A keyword without gaps that stands in no quantifier word stands in no kept quantifiers. -/
theorem not_infix_quantifierPrefix {o w : Text} (hne : o ≠ [])
    (ho : ∀ a ∈ o, isAscii a = true ∧ isGap (asciiLower a) = false)
    (hwords : ∀ k ∈ quantifierWords, contains (o.map asciiLower) (k.map asciiLower) = false)
    (hw : IsForm o w) (s : Text) : ¬ w <:+: quantifierPrefix s := by
  have hgaps := noGap_of_isForm (fun a ha => (ho a ha).2) hw
  have hapart : ∀ c, isGap c = true → c ∉ w := by
    intro c hc hmem
    rw [hgaps c hmem] at hc
    cases hc
  have hself : ∀ t : Text, t.flatMap (fun c => [c]) = t := List.flatMap_singleton'
  intro h
  rw [← hself (quantifierPrefix s)] at h
  have hleading := infix_leadingQuantifiers rfl (hapart ' ' (by decide)) (hw.ne_nil hne) h
  obtain ⟨k, hk, v, hv, hinfix⟩ := (tiled_leadingQuantifiers s).exists_form
    (fun c hc => ⟨by simp, by simpa using hapart c hc⟩) (hw.ne_nil hne) hleading
  rw [hself] at hinfix
  have hcontains := contains_iff_infix.mpr (IsForm.infix_of_infix
    (allAscii_of_mem_quantifierWords hk) (fun a ha => (ho a ha).1) hv hw hinfix)
  rw [hwords k hk] at hcontains
  cases hcontains

/-- No pattern of the standard catalog stands in the quantifiers that a projection keeps. -/
theorem standard_pattern_not_in_quantifiers {p : Text} (hp : p ∈ Catalog.standard.patterns)
    (s : Text) : ¬ p <:+: lowered (quantifierPrefix s) := by
  have hplain : ∀ p ∈ Catalog.standard.patterns,
      p ≠ [] ∧ ' ' ∉ p ∧ p.all (fun x => isAscii x && !isGap x) = true := by decide
  have hwords : ∀ p ∈ Catalog.standard.patterns, ∀ k ∈ quantifierWords,
      contains p (k.map asciiLower) = false := by decide
  obtain ⟨hne, hspace, hall⟩ := hplain p hp
  have hchars : ∀ x ∈ p, isAscii x = true ∧ isGap x = false := by simpa using hall
  intro h
  obtain ⟨k, hk, hinfix⟩ := Tiled.exists_word (fun x hx => (hchars x hx).1)
    (fun x hx => (hchars x hx).2) hne (tiled_leadingQuantifiers s)
    (infix_leadingQuantifiers (by decide) hspace hne h)
  rw [← contains_iff_infix, hwords p hp k hk] at hinfix
  cases hinfix

end QueryGate.Projection
