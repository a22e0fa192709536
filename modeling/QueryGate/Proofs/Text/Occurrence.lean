import QueryGate.Text.Blank
import Mathlib.Data.List.Infix

/-! # Texts inside texts

`contains` and `beginsWith` decide the library's relations of infix and prefix.  A part that lacks
some character stands on one side of every place where that character stands
(`append_cons_eq_append_cases`), so the first place of a mark is looked for on both sides of it
(`splitAtFirst?_append_cons`).  Joined texts and the words of a text are parts of the whole
(`isInfix_join`, `infix_of_mem_words`).  At the ends of a text the characters count together with
those that stand beside it (`getLast?_append_or`). -/

namespace QueryGate.Text

theorem dropLead?_eq_some_iff {lead s rest : Text} :
    dropLead? lead s = some rest ↔ s = lead ++ rest := by
  constructor
  · exact eq_append_of_dropLead?
  · rintro rfl
    exact dropLead?_append lead rest

theorem beginsWith_iff_prefix {lead s : Text} : beginsWith lead s = true ↔ lead <+: s := by
  rw [beginsWith, Option.isSome_iff_exists]
  constructor
  · rintro ⟨rest, h⟩
    exact ⟨rest, (dropLead?_eq_some_iff.mp h).symm⟩
  · rintro ⟨rest, rfl⟩
    exact ⟨rest, dropLead?_append lead rest⟩

theorem contains_iff_infix {part s : Text} : contains part s = true ↔ part <:+: s := by
  induction s with
  | nil => simp [contains]
  | cons c s ih =>
    rw [contains, Bool.or_eq_true, beginsWith_iff_prefix, ih, List.infix_cons_iff]

/-- A list without some element stands on one side of each place where that element stands. -/
theorem append_cons_eq_append_cases {α : Type} {s t x w y : List α} {c : α} (hc : c ∉ w)
    (h : s ++ c :: t = x ++ (w ++ y)) :
    (∃ y', s = x ++ (w ++ y') ∧ y = y' ++ c :: t) ∨
      ∃ x', t = x' ++ (w ++ y) ∧ x = s ++ c :: x' := by
  rcases List.append_eq_append_iff.mp h with ⟨u, rfl, hu⟩ | ⟨u, rfl, hu⟩
  · -- the list begins behind `s`
    cases u with
    | cons d u =>
      obtain ⟨rfl, rfl⟩ := List.cons.inj hu
      exact .inr ⟨u, rfl, rfl⟩
    | nil =>
      cases w with
      | nil => exact .inl ⟨[], by simp, by simpa using hu.symm⟩
      | cons d w =>
        obtain ⟨rfl, -⟩ := List.cons.inj hu
        exact absurd List.mem_cons_self hc
  · -- the list begins within `s`, and ends there
    rcases List.append_eq_append_iff.mp hu with ⟨v, rfl, hv⟩ | ⟨v, rfl, hv⟩
    · exact .inl ⟨v, rfl, hv⟩
    · cases v with
      | nil => exact .inl ⟨[], by simp, by simpa using hv.symm⟩
      | cons d v =>
        obtain ⟨rfl, -⟩ := List.cons.inj hv
        exact absurd (by simp) hc

/-- The same for parts alone. -/
theorem infix_of_infix_append_cons {p a b : Text} {c : Char} (hc : c ∉ p)
    (h : p <:+: a ++ c :: b) : p <:+: a ∨ p <:+: b := by
  obtain ⟨x, y, h⟩ := h
  rw [List.append_assoc] at h
  rcases append_cons_eq_append_cases hc h.symm with ⟨y', rfl, -⟩ | ⟨x', rfl, -⟩
  · exact .inl ⟨x, y', List.append_assoc x p y'⟩
  · exact .inr ⟨x', y, List.append_assoc x' p y⟩

/-- The same for a text of such characters, which must not be empty. -/
theorem infix_of_infix_append_middle {p a m b : Text} (hm : m ≠ []) (hp : ∀ c ∈ m, c ∉ p)
    (h : p <:+: a ++ m ++ b) : p <:+: a ∨ p <:+: b := by
  induction m generalizing a with
  | nil => exact absurd rfl hm
  | cons c m ih =>
    have hc : c ∉ p := hp c List.mem_cons_self
    rcases infix_of_infix_append_cons hc (by simpa using h) with h | h
    · exact .inl h
    · cases m with
      | nil => exact .inr h
      | cons d m =>
        rcases ih (a := []) (by simp) (fun x hx => hp x (List.mem_cons_of_mem _ hx)) h with h | h
        · rw [List.infix_nil.mp h]
          exact .inl List.nil_infix
        · exact .inr h

/-! ## The first place of a mark -/

theorem dropLead?_eq_none_iff {lead s : Text} : dropLead? lead s = none ↔ ¬ lead <+: s := by
  rw [← beginsWith_iff_prefix, beginsWith, Bool.not_eq_true, Option.isSome_eq_false_iff,
    Option.isNone_iff_eq_none]

theorem splitAtFirst?_eq_none_iff {mark s : Text} :
    splitAtFirst? mark s = none ↔ ¬ mark <:+: s := by
  induction s with
  | nil => simp [splitAtFirst?]
  | cons c s ih =>
    rw [splitAtFirst?, List.infix_cons_iff, not_or, ← dropLead?_eq_none_iff, ← ih]
    cases dropLead? mark (c :: s) <;> simp

/-- Where a mark stands first does not depend on what follows. -/
theorem splitAtFirst?_append {mark s : Text} {p : Text × Text}
    (h : splitAtFirst? mark s = some p) (t : Text) :
    splitAtFirst? mark (s ++ t) = some (p.1, p.2 ++ t) := by
  induction s generalizing p with
  | nil =>
    have hmark : mark = [] := by
      by_contra hne
      simp [splitAtFirst?, hne] at h
    subst hmark
    obtain rfl := Option.some.inj h
    cases t <;> rfl
  | cons c s ih =>
    rw [splitAtFirst?] at h
    rw [List.cons_append, splitAtFirst?, ← List.cons_append]
    cases hdrop : dropLead? mark (c :: s) with
    | some rest =>
      rw [hdrop] at h
      obtain rfl := Option.some.inj h
      rw [dropLead?_eq_some_iff] at hdrop
      rw [hdrop, List.append_assoc, dropLead?_append]
    | none =>
      rw [hdrop] at h
      obtain ⟨q, hq, rfl⟩ := Option.map_eq_some_iff.mp h
      -- the mark stands within the text, so it is not too long to stand at its start
      have hinfix : mark <:+: s := by
        by_contra hno
        rw [splitAtFirst?_eq_none_iff.mpr hno] at hq
        cases hq
      have hlength : mark.length ≤ (c :: s).length := hinfix.length_le.trans (Nat.le_succ _)
      have hlater : dropLead? mark (c :: s ++ t) = none := by
        rw [dropLead?_eq_none_iff] at hdrop ⊢
        exact fun hprefix => hdrop
          (List.prefix_of_prefix_length_le hprefix (List.prefix_append _ t) hlength)
      rw [hlater, ih hq]
      rfl

/-- A text without the mark is passed over up to a character that the mark lacks. -/
theorem splitAtFirst?_append_cons {mark s : Text} {c : Char} (hc : c ∉ mark)
    (hs : ¬ mark <:+: s) (t : Text) :
    splitAtFirst? mark (s ++ c :: t) =
      (splitAtFirst? mark t).map fun p => (s ++ c :: p.1, p.2) := by
  have hpass : ∀ s : Text, ¬ mark <:+: s → dropLead? mark (s ++ c :: t) = none := by
    intro s hs
    rw [dropLead?_eq_none_iff]
    rintro ⟨rest, hrest⟩
    rcases append_cons_eq_append_cases (x := []) hc hrest.symm with ⟨y, rfl, -⟩ | ⟨x, -, hx⟩
    · exact hs ⟨[], y, by simp⟩
    · simp at hx
  induction s with
  | nil =>
    have hdrop := hpass [] hs
    rw [List.nil_append] at hdrop ⊢
    rw [splitAtFirst?, hdrop]
    rfl
  | cons d s ih =>
    have hdrop := hpass (d :: s) hs
    rw [List.infix_cons_iff, not_or] at hs
    rw [List.cons_append] at hdrop ⊢
    rw [splitAtFirst?, hdrop, ih hs.2, Option.map_map]
    rfl

/-! ## Joined texts and words -/

theorem join_cons_cons (sep t u : Text) (ts : List Text) :
    join sep (t :: u :: ts) = t ++ (sep ++ join sep (u :: ts)) := by
  rw [join, List.append_assoc]
  simp

/-- Each of the joined texts is a part of the whole. -/
theorem isInfix_join {sep t : Text} {ts : List Text} (h : t ∈ ts) : t <:+: join sep ts := by
  induction ts with
  | nil => cases h
  | cons u ts ih =>
    cases ts with
    | nil =>
      obtain rfl := List.mem_singleton.mp h
      exact List.infix_refl t
    | cons v ts =>
      rw [join_cons_cons]
      rcases List.mem_cons.mp h with rfl | h
      · exact (List.prefix_append t _).isInfix
      · exact (ih h).trans (((List.suffix_append sep _).trans (List.suffix_append u _)).isInfix)

theorem mem_join {sep : Text} {x : Char} {ts : List Text} (h : x ∈ join sep ts) :
    x ∈ sep ∨ ∃ t ∈ ts, x ∈ t := by
  induction ts with
  | nil => cases h
  | cons u ts ih =>
    cases ts with
    | nil => exact .inr ⟨u, List.mem_cons_self, h⟩
    | cons v ts =>
      rw [join_cons_cons] at h
      rcases List.mem_append.mp h with h | h
      · exact .inr ⟨u, List.mem_cons_self, h⟩
      · rcases List.mem_append.mp h with h | h
        · exact .inl h
        · exact (ih h).imp_right fun ⟨t, ht, hx⟩ => ⟨t, List.mem_cons_of_mem u ht, hx⟩

/-- Without what separates them the texts are left. -/
theorem flatten_sublist_join (sep : Text) (ts : List Text) :
    List.Sublist ts.flatten (join sep ts) := by
  induction ts with
  | nil => exact .slnil
  | cons u ts ih =>
    cases ts with
    | nil => simp [join]
    | cons v ts =>
      rw [join_cons_cons, List.flatten_cons]
      exact (List.Sublist.refl u).append (ih.trans (List.sublist_append_right sep _))

/-- A character that does not separate stands in the whole as often as in all the texts. -/
theorem count_join {sep : Text} {x : Char} (hx : x ∉ sep) (ts : List Text) :
    (join sep ts).count x = ts.flatten.count x := by
  induction ts with
  | nil => rfl
  | cons u ts ih =>
    cases ts with
    | nil => simp [join]
    | cons v ts =>
      rw [join_cons_cons, List.count_append, List.count_append, List.count_eq_zero_of_not_mem hx,
        ih, Nat.zero_add, List.flatten_cons (l := u), List.count_append]

theorem infix_of_mem_wordsFrom {word s w : Text} (h : w ∈ wordsFrom word s) :
    w <:+: word.reverse ++ s := by
  induction s generalizing word with
  | nil =>
    simp only [wordsFrom] at h
    split at h
    · cases h
    · obtain rfl := List.mem_singleton.mp h
      simp
  | cons c s ih =>
    simp only [wordsFrom] at h
    -- what is found behind a blank is found in the whole text
    have hskip : w ∈ wordsFrom [] s → w <:+: word.reverse ++ c :: s := fun h =>
      List.infix_append_of_infix_right (List.infix_cons (by simpa using ih h))
    split at h
    · split at h
      · exact hskip h
      · rcases List.mem_cons.mp h with rfl | h
        · exact List.infix_append_of_infix_left (List.infix_refl _)
        · exact hskip h
    · simpa using ih h

/-- A word of a text is a part of it. -/
theorem infix_of_mem_words {s w : Text} (h : w ∈ words s) : w <:+: s := by
  simpa using infix_of_mem_wordsFrom h

theorem forall_mem_wordsFrom {word s : Text} (hword : ∀ c ∈ word, isBlank c = false) :
    ∀ w ∈ wordsFrom word s, w ≠ [] ∧ ∀ c ∈ w, isBlank c = false := by
  have hlast : ∀ word : Text, word ≠ [] → (∀ c ∈ word, isBlank c = false) →
      word.reverse ≠ [] ∧ ∀ c ∈ word.reverse, isBlank c = false := by
    intro word hne hword
    exact ⟨by simpa using hne, fun c hc => hword c (List.mem_reverse.mp hc)⟩
  induction s generalizing word with
  | nil =>
    rw [wordsFrom]
    split
    · simp
    · rename_i hne
      exact List.forall_mem_singleton.mpr (hlast word (by simpa using hne) hword)
  | cons c s ih =>
    rw [wordsFrom]
    split
    · split
      · exact ih (by simp)
      · rename_i hne
        exact List.forall_mem_cons.mpr ⟨hlast word (by simpa using hne) hword, ih (by simp)⟩
    · rename_i hc
      exact ih (List.forall_mem_cons.mpr ⟨by simpa using hc, hword⟩)

/-- The words of a text are not empty and hold no blank. -/
theorem forall_mem_words {s : Text} : ∀ w ∈ words s, w ≠ [] ∧ ∀ c ∈ w, isBlank c = false :=
  forall_mem_wordsFrom (by simp)

/-! ## The characters at the ends of texts -/

theorem getLast?_cons_or (c : Char) (t : Text) (before : Option Char) :
    (c :: t).getLast?.or before = t.getLast?.or (some c) := by
  cases t with
  | nil => rfl
  | cons d t =>
    rw [List.getLast?_cons_cons]
    cases h : (d :: t).getLast? with
    | none => simp at h
    | some e => rfl

theorem getLast?_append_or (s t : Text) (before : Option Char) :
    (s ++ t).getLast?.or before = t.getLast?.or (s.getLast?.or before) := by
  rw [List.getLast?_append, Option.or_assoc]

theorem any_or_congr {p : Char → Bool} {b d : Option Char} (a : Option Char)
    (h : b.any p = d.any p) : (a.or b).any p = (a.or d).any p := by
  cases a with
  | none => simpa using h
  | some c => rfl

end QueryGate.Text
