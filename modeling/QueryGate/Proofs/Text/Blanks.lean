import QueryGate.Text.Blank
import Mathlib.Data.List.TakeWhile

/-! # Blanks at the ends of a text

Dropping blanks drops all of them (`dropBlanks?_eq_some_iff`).  Trimming takes the blanks off both
ends and nothing else (`exists_trim`), so what is left has no blank at its ends (`trimmed_trim`),
and blanks put around a text do not matter to it (`trim_append_left`, `trim_append_right`). -/

namespace QueryGate.Text

/-- What holds of the characters of a text is found out one after another. -/
theorem forall_mem_of_all {p : Char → Prop} [DecidablePred p] {t : Text}
    (h : t.all (decide <| p ·) = true) : ∀ c ∈ t, p c :=
  fun c hc => of_decide_eq_true (List.all_eq_true.mp h c hc)

/-- Blanks only, perhaps none. -/
def AllBlank (g : Text) : Prop := ∀ c ∈ g, isBlank c = true

instance (g : Text) : Decidable (AllBlank g) :=
  decidable_of_iff (g.all isBlank = true) (by simp [AllBlank])

/-- Blanks, at least one. -/
def IsBlanks (t : Text) : Prop := t ≠ [] ∧ ∀ c ∈ t, isBlank c = true

instance (t : Text) : Decidable (IsBlanks t) :=
  inferInstanceAs (Decidable (t ≠ [] ∧ AllBlank t))

theorem isBlanks_space : IsBlanks [' '] := by decide

theorem IsBlanks.head? {t s : Text} (h : IsBlanks t) :
    ∃ c, (t ++ s).head? = some c ∧ isBlank c = true := by
  cases t with
  | nil => exact absurd rfl h.1
  | cons c t => exact ⟨c, rfl, h.2 c List.mem_cons_self⟩

theorem IsBlanks.getLast? {t s : Text} (h : IsBlanks t) :
    ∃ c, (s ++ t).getLast? = some c ∧ isBlank c = true := by
  obtain ⟨c, hc⟩ := List.getLast?_isSome.mpr h.1 |> Option.isSome_iff_exists.mp
  exact ⟨c, by simp [List.getLast?_append, hc], h.2 c (List.mem_of_getLast? hc)⟩

theorem takeWhile_isBlank (s : Text) : AllBlank (s.takeWhile isBlank) :=
  fun _ hc => List.mem_takeWhile_imp hc

/-! ## Blanks in front -/

theorem trimLeft_eq_self {s : Text} (h : s.head?.any isBlank = false) : trimLeft s = s := by
  cases s with
  | nil => rfl
  | cons c s => rw [trimLeft, List.dropWhile_cons_of_neg (by simpa using h)]

theorem trimLeft_append {g : Text} (hg : AllBlank g) (s : Text) :
    trimLeft (g ++ s) = trimLeft s :=
  List.dropWhile_append_of_pos hg

/-- Blanks in front of a text with something else in it are not those of what follows. -/
theorem trimLeft_append_of_not_blank {s : Text} (hs : ¬ AllBlank s) (t : Text) :
    trimLeft (s ++ t) = trimLeft s ++ t := by
  rw [trimLeft, List.dropWhile_append, if_neg, trimLeft]
  exact fun hempty => hs (List.dropWhile_eq_nil_iff.mp (List.isEmpty_iff.mp hempty))

/-- What is left of a text begins with another character than those that were dropped. -/
theorem head?_dropWhile_any (p : Char → Bool) (s : Text) : (s.dropWhile p).head?.any p = false := by
  have hhead := List.head?_dropWhile_not p s
  cases hdrop : (s.dropWhile p).head? with
  | none => rfl
  | some c => simpa [hdrop] using hhead

theorem head?_trimLeft (s : Text) : (trimLeft s).head?.any isBlank = false :=
  head?_dropWhile_any isBlank s

/-- Blanks in front of a text without blanks in front are what is dropped. -/
theorem eq_of_blanks_append {g g' s s' : Text} (hg : AllBlank g) (hg' : AllBlank g')
    (hs : s.head?.any isBlank = false) (hs' : s'.head?.any isBlank = false)
    (h : g ++ s = g' ++ s') : g = g' ∧ s = s' := by
  have hrest : s = s' := by
    have hleft := congrArg trimLeft h
    rwa [trimLeft_append hg, trimLeft_append hg', trimLeft_eq_self hs,
      trimLeft_eq_self hs'] at hleft
  subst hrest
  exact ⟨List.append_cancel_right h, rfl⟩

/-- Behind the dropped blanks no blank stands. -/
theorem dropBlanks?_eq_some_iff {s rest : Text} :
    dropBlanks? s = some rest ↔
      ∃ gap, IsBlanks gap ∧ s = gap ++ rest ∧ rest.head?.any isBlank = false := by
  constructor
  · intro h
    cases s with
    | nil => cases h
    | cons c s =>
      simp only [dropBlanks?] at h
      split at h
      · rename_i hc
        obtain rfl := Option.some.inj h
        refine ⟨c :: s.takeWhile isBlank, ⟨by simp, ?_⟩, ?_, head?_trimLeft s⟩
        · exact List.forall_mem_cons.mpr ⟨hc, takeWhile_isBlank s⟩
        · rw [trimLeft, List.cons_append, List.takeWhile_append_dropWhile]
      · cases h
  · rintro ⟨gap, ⟨hne, hgap⟩, rfl, hrest⟩
    cases gap with
    | nil => exact absurd rfl hne
    | cons c gap =>
      obtain ⟨hc, hgap⟩ := List.forall_mem_cons.mp hgap
      rw [List.cons_append, dropBlanks?, if_pos hc, trimLeft_append hgap, trimLeft_eq_self hrest]

/-! ## Characters at the end -/

theorem dropEndWhile_eq_self {p : Char → Bool} {s : Text} (h : s.getLast?.any p = false) :
    dropEndWhile p s = s := by
  rw [← List.head?_reverse] at h
  rw [dropEndWhile]
  cases hback : s.reverse with
  | nil => exact (List.reverse_eq_nil_iff.mp hback).symm
  | cons c t =>
    have hc : ¬ p c = true := by simpa [hback] using h
    rw [List.dropWhile_cons_of_neg hc, ← hback, List.reverse_reverse]

theorem dropEndWhile_append {p : Char → Bool} {g : Text} (hg : ∀ c ∈ g, p c = true) (s : Text) :
    dropEndWhile p (s ++ g) = dropEndWhile p s := by
  have hback : ∀ c ∈ g.reverse, p c = true := fun c hc => hg c (List.mem_reverse.mp hc)
  rw [dropEndWhile, List.reverse_append, List.dropWhile_append_of_pos hback, dropEndWhile]

/-- Such characters are taken off the end and nothing else. -/
theorem exists_dropEndWhile (p : Char → Bool) (s : Text) :
    ∃ g, (∀ c ∈ g, p c = true) ∧ s = dropEndWhile p s ++ g := by
  refine ⟨(s.reverse.takeWhile p).reverse,
    fun c hc => List.mem_takeWhile_imp (List.mem_reverse.mp hc), ?_⟩
  rw [dropEndWhile, ← List.reverse_append, List.takeWhile_append_dropWhile, List.reverse_reverse]

/-- What is left ends with another character. -/
theorem getLast?_dropEndWhile (p : Char → Bool) (s : Text) :
    (dropEndWhile p s).getLast?.any p = false := by
  rw [dropEndWhile, List.getLast?_reverse]
  exact head?_dropWhile_any p s.reverse

/-! ## Trimming -/

/-- No blank stands at either end of the text. -/
structure Trimmed (s : Text) : Prop where
  first : s.head?.any isBlank = false
  last : s.getLast?.any isBlank = false

instance (s : Text) : Decidable (Trimmed s) :=
  decidable_of_iff (s.head?.any isBlank = false ∧ s.getLast?.any isBlank = false)
    ⟨fun ⟨first, last⟩ => ⟨first, last⟩, fun h => ⟨h.first, h.last⟩⟩

theorem trimRight_eq_self {s : Text} (h : s.getLast?.any isBlank = false) : trimRight s = s :=
  dropEndWhile_eq_self h

theorem trimRight_append {g : Text} (hg : AllBlank g) (s : Text) :
    trimRight (s ++ g) = trimRight s :=
  dropEndWhile_append hg s

theorem Trimmed.trim_eq {s : Text} (h : Trimmed s) : trim s = s := by
  rw [trim, trimLeft_eq_self h.first, trimRight_eq_self h.last]

theorem trim_append_left {g : Text} (hg : AllBlank g) (s : Text) : trim (g ++ s) = trim s := by
  rw [trim, trimLeft_append hg, trim]

theorem trim_append_right {g : Text} (hg : AllBlank g) (s : Text) : trim (s ++ g) = trim s := by
  rw [trim, trim, trimLeft, trimLeft, List.dropWhile_append]
  split
  · rename_i hempty
    rw [List.isEmpty_iff.mp hempty, List.dropWhile_eq_nil_iff.mpr hg]
  · exact trimRight_append hg _

theorem exists_trimRight (s : Text) : ∃ g, AllBlank g ∧ s = trimRight s ++ g :=
  exists_dropEndWhile isBlank s

/-- Trimming takes off blanks and nothing else. -/
theorem exists_trim (s : Text) :
    ∃ g g', AllBlank g ∧ AllBlank g' ∧ s = g ++ (trim s ++ g') := by
  obtain ⟨g', hg', hright⟩ := exists_trimRight (trimLeft s)
  refine ⟨s.takeWhile isBlank, g', takeWhile_isBlank s, hg', ?_⟩
  rw [trim, ← hright, trimLeft, List.takeWhile_append_dropWhile]

/-- Nothing is left of blanks alone. -/
theorem trim_eq_nil_iff {s : Text} : trim s = [] ↔ AllBlank s := by
  constructor
  · intro h
    obtain ⟨g, g', hg, hg', hs⟩ := exists_trim s
    rw [h, List.nil_append] at hs
    rw [hs]
    exact List.forall_mem_append.mpr ⟨hg, hg'⟩
  · intro h
    have hleft := trim_append_left h []
    rwa [List.append_nil] at hleft

theorem isInfix_trim (s : Text) : trim s <:+: s := by
  obtain ⟨g, g', -, -, h⟩ := exists_trim s
  exact ⟨g, g', by rw [List.append_assoc]; exact h.symm⟩

/-- Trimming takes away blanks alone. -/
theorem count_trim {x : Char} (hx : isBlank x = false) (s : Text) :
    (trim s).count x = s.count x := by
  obtain ⟨g, g', hg, hg', hs⟩ := exists_trim s
  have hout : ∀ {g : Text}, AllBlank g → g.count x = 0 := by
    intro g hg
    refine List.count_eq_zero_of_not_mem fun hmem => ?_
    rw [hg x hmem] at hx
    cases hx
  calc (trim s).count x = (g ++ (trim s ++ g')).count x := by
        rw [List.count_append, List.count_append, hout hg, hout hg', Nat.zero_add, Nat.add_zero]
    _ = s.count x := by rw [← hs]

theorem mem_trim {s : Text} {c : Char} (hc : c ∈ s) (hblank : isBlank c = false) : c ∈ trim s := by
  rwa [← List.count_pos_iff, count_trim hblank, List.count_pos_iff]

/-- Trimming a text with something else than blanks in both its parts leaves the border between
them. -/
theorem exists_trim_append {s t : Text} (hs : ¬ AllBlank s) (ht : ¬ AllBlank t) :
    ∃ t', trim (s ++ t) = trimLeft s ++ t' := by
  have hleft : trimLeft (s ++ t) = trimLeft s ++ t := trimLeft_append_of_not_blank hs t
  have hright : trimRight (trimLeft s ++ t) = trimLeft s ++ trimRight t := by
    rw [trimRight, dropEndWhile, List.reverse_append, List.dropWhile_append, if_neg,
      List.reverse_append, List.reverse_reverse, trimRight, dropEndWhile]
    intro hempty
    have hback := List.dropWhile_eq_nil_iff.mp (List.isEmpty_iff.mp hempty)
    exact ht fun c hc => hback c (List.mem_reverse.mpr hc)
  exact ⟨trimRight t, by rw [trim, hleft, hright]⟩

/-- What is left has no blank at its ends. -/
theorem trimmed_trim (s : Text) : Trimmed (trim s) := by
  constructor
  · -- the trimmed text begins as the text without its first blanks does
    obtain ⟨g, -, hg⟩ := exists_trimRight (trimLeft s)
    have hfirst := head?_trimLeft s
    rw [hg] at hfirst
    rw [trim]
    cases htrim : trimRight (trimLeft s) with
    | nil => rfl
    | cons c t => simpa [htrim] using hfirst
  · exact getLast?_dropEndWhile isBlank _

end QueryGate.Text
