import QueryGate.Proofs.Pattern.Reading

/-! # Where a pattern occurs

A pattern occurs in a text where a match stands (`occurs_iff`).  Of the characters beside a match it
matters only whether they belong to words, so the search can be cut at every character that belongs
to no word and that the pattern does not read (`foundBefore_append_cons`).

A match begins with the pattern's opening keyword (`exists_opening_of_reads`), and a word within it
begins with one of the pattern's keywords (`exists_keyword_of_reads`). -/

namespace QueryGate.Pattern

open Text

theorem firstEnd?_isSome_iff {p : Pattern} {before : Option Char} {s : Text} :
    (p.firstEnd? ⟨before, s⟩).isSome = true ↔
      ∃ t y, s = t ++ y ∧ p.Matches before t y.head? := by
  rw [firstEnd?_eq_head?, List.isSome_head?]
  constructor
  · intro hne
    obtain ⟨b, hb⟩ := List.exists_mem_of_ne_nil _ hne
    obtain ⟨t, hreach, ht⟩ := mem_ends_iff.mp hb
    exact ⟨t, b.rest, hreach.1, ht⟩
  · rintro ⟨t, y, rfl, ht⟩
    have hend : ⟨t.getLast?.or before, y⟩ ∈ p.ends ⟨before, t ++ y⟩ :=
      mem_ends_iff.mpr ⟨t, ⟨rfl, rfl⟩, ht⟩
    exact List.ne_nil_of_mem hend

theorem occursFrom_iff {p : Pattern} {before : Option Char} {s : Text} :
    p.occursFrom before s = true ↔
      ∃ x t y, s = x ++ (t ++ y) ∧ p.Matches (x.getLast?.or before) t y.head? := by
  induction s generalizing before with
  | nil =>
    rw [occursFrom, firstEnd?_isSome_iff]
    constructor
    · rintro ⟨t, y, hs, ht⟩
      exact ⟨[], t, y, hs, ht⟩
    · rintro ⟨x, t, y, hs, ht⟩
      obtain ⟨rfl, hrest⟩ := List.append_eq_nil_iff.mp hs.symm
      exact ⟨t, y, hrest.symm, ht⟩
  | cons c s ih =>
    rw [occursFrom, Bool.or_eq_true, firstEnd?_isSome_iff, ih]
    constructor
    · rintro (⟨t, y, hs, ht⟩ | ⟨x, t, y, rfl, ht⟩)
      · exact ⟨[], t, y, hs, ht⟩
      · exact ⟨c :: x, t, y, rfl, by rw [getLast?_cons_or]; exact ht⟩
    · rintro ⟨x, t, y, hs, ht⟩
      cases x with
      | nil => exact .inl ⟨t, y, hs, ht⟩
      | cons d x =>
        obtain ⟨rfl, rfl⟩ := List.cons.inj hs
        rw [getLast?_cons_or] at ht
        exact .inr ⟨x, t, y, rfl, ht⟩

/-! ## Matches in texts -/

/-- A match stands in the text, and what is behind it satisfies `R`. -/
def FoundBefore (p : Pattern) (R : Text → Prop) (s : Text) : Prop :=
  ∃ x t y, s = x ++ (t ++ y) ∧ p.Matches x.getLast? t y.head? ∧ R y

/-- A pattern occurs where a match stands. -/
theorem occurs_iff {p : Pattern} {s : Text} :
    p.occurs s = true ↔ p.FoundBefore (fun _ => True) s := by
  rw [occurs, occursFrom_iff]
  simp only [Option.or_none, FoundBefore, and_true]

theorem FoundBefore.imp {p : Pattern} {R R' : Text → Prop} {s : Text} (h : p.FoundBefore R s)
    (himp : ∀ y, R y → R' y) : p.FoundBefore R' s := by
  obtain ⟨x, t, y, hs, ht, hy⟩ := h
  exact ⟨x, t, y, hs, ht, himp y hy⟩

theorem not_foundBefore_of_not_occurs {p : Pattern} {R : Text → Prop} {s : Text}
    (h : p.occurs s = false) : ¬ p.FoundBefore R s := by
  intro hfound
  rw [occurs_iff.mpr (hfound.imp fun _ _ => trivial)] at h
  cases h

theorem occurs_keyword_iff {k s : Text} :
    (keyword k).occurs s = true ↔ ∃ w, IsForm k w ∧ w <:+: s := by
  rw [occurs_iff]
  constructor
  · rintro ⟨x, t, y, rfl, ht, -⟩
    exact ⟨t, ht, x, y, by rw [List.append_assoc]⟩
  · rintro ⟨w, hw, x, y, rfl⟩
    exact ⟨x, w, y, by rw [List.append_assoc], hw, trivial⟩

theorem not_infix_of_not_occurs {k s w : Text} (h : (keyword k).occurs s = false)
    (hw : IsForm k w) : ¬ w <:+: s := by
  intro hpart
  rw [occurs_keyword_iff.mpr ⟨w, hw, hpart⟩] at h
  cases h

/-- The character stands in no text that the pattern reads. -/
def avoids (c : Char) : Pattern → Bool
  | keyword word => word.all (!isFormOf · c)
  | run k | run1 k => !k.has c
  | boundary => true
  | seq p q | alt p q => avoids c p && avoids c q
  | opt p => avoids c p

theorem avoids_keyword {k : Text} {c : Char} (hk : AllWord k) (hc : isWord c = false) :
    (keyword k).avoids c = true := by
  refine List.all_eq_true.mpr fun x hx => ?_
  cases hform : isFormOf x c with
  | false => rfl
  | true =>
    rw [isWord_of_isFormOf hform, hk x hx] at hc
    cases hc

theorem not_mem_of_reads {c : Char} {p : Pattern} (hp : p.avoids c = true) {t : Text}
    (h : p.Reads t) : c ∉ t := by
  induction p generalizing t with
  | keyword word =>
    intro hc
    obtain ⟨x, hx, hform⟩ := IsForm.exists_mem h hc
    have hnone : isFormOf x c = false := by simpa using List.all_eq_true.mp hp x hx
    rw [hform] at hnone
    cases hnone
  | run k =>
    intro hc
    rw [avoids, h c hc] at hp
    cases hp
  | run1 k =>
    intro hc
    rw [avoids, h.2 c hc] at hp
    cases hp
  | boundary =>
    obtain rfl : t = [] := h
    simp
  | seq p q ihp ihq =>
    obtain ⟨hp, hq⟩ := Bool.and_eq_true_iff.mp hp
    obtain ⟨u, v, rfl, hu, hv⟩ := h
    simpa using ⟨ihp hp hu, ihq hq hv⟩
  | alt p q ihp ihq =>
    obtain ⟨hp, hq⟩ := Bool.and_eq_true_iff.mp hp
    exact h.elim (ihp hp) (ihq hq)
  | opt p ih =>
    rcases h with h | rfl
    · exact ih hp h
    · simp

/-- The search can be cut at a character that belongs to no word and that the pattern does not
read. -/
theorem foundBefore_append_cons {p : Pattern} {R : Text → Prop} {c : Char}
    (hword : isWord c = false) (hp : p.avoids c = true) (s t : Text) :
    p.FoundBefore R (s ++ c :: t) ↔
      p.FoundBefore (fun y => R (y ++ c :: t)) s ∨ p.FoundBefore R t := by
  have hafter : ∀ y : Text, (y ++ c :: t).head?.any isWord = y.head?.any isWord := by
    intro y
    cases y with
    | nil => exact hword
    | cons d y => rfl
  have hbefore : ∀ x : Text, (s ++ c :: x).getLast?.any isWord = x.getLast?.any isWord := by
    intro x
    have hlast := getLast?_append_or s (c :: x) none
    rw [Option.or_none] at hlast
    rw [hlast, getLast?_cons_or]
    cases x.getLast? with
    | none => exact hword
    | some d => rfl
  constructor
  · rintro ⟨x, w, y, h, hw, hy⟩
    rcases append_cons_eq_append_cases (not_mem_of_reads hp hw.reads) h with
      ⟨y', rfl, rfl⟩ | ⟨x', rfl, rfl⟩
    · exact .inl ⟨x, w, y', rfl, hw.congr rfl (hafter y'), hy⟩
    · exact .inr ⟨x', w, y, rfl, hw.congr (hbefore x') rfl, hy⟩
  · rintro (⟨x, w, y, rfl, hw, hy⟩ | ⟨x, w, y, rfl, hw, hy⟩)
    · exact ⟨x, w, y ++ c :: t, by simp only [List.append_assoc],
        hw.congr rfl (hafter y).symm, hy⟩
    · exact ⟨s ++ c :: x, w, y, by simp only [List.append_assoc, List.cons_append],
        hw.congr (hbefore x).symm rfl, hy⟩

theorem occurs_append_cons {p : Pattern} {c : Char} (hword : isWord c = false)
    (hp : p.avoids c = true) (s t : Text) :
    p.occurs (s ++ c :: t) = true ↔ p.occurs s = true ∨ p.occurs t = true := by
  rw [occurs_iff, foundBefore_append_cons hword hp, ← occurs_iff, ← occurs_iff]

/-! ## Keywords in a match -/

/-- The keyword that a pattern begins with; none counts as an empty one. -/
def opening : Pattern → Text
  | keyword word => word
  | seq boundary q => opening q
  | seq p _ => opening p
  | _ => []

/-- What a pattern reads begins with its opening keyword. -/
theorem exists_opening_of_reads {p : Pattern} {t : Text} (h : p.Reads t) :
    ∃ w v, t = w ++ v ∧ IsForm p.opening w := by
  induction p generalizing t with
  | keyword word => exact ⟨t, [], by simp, h⟩
  | seq p q ihp ihq =>
    obtain ⟨u, v, rfl, hu, hv⟩ := h
    cases p with
    | boundary =>
      obtain rfl : u = [] := hu
      exact ihq hv
    | keyword _ | run _ | run1 _ | seq _ _ | alt _ _ | opt _ =>
      obtain ⟨w, rest, rfl, hw⟩ := ihp hu
      exact ⟨w, rest ++ v, by rw [List.append_assoc], hw⟩
  | run _ | run1 _ | boundary | alt _ _ | opt _ => exact ⟨[], t, rfl, .nil⟩

/-- The keywords of a pattern. -/
def literals : Pattern → List Text
  | keyword word => [word]
  | run _ | run1 _ | boundary => []
  | seq p q | alt p q => literals p ++ literals q
  | opt p => literals p

/-- Every keyword is a word or has no part in words, and the runs are of blanks. -/
def Tidy : Pattern → Prop
  | keyword word => AllWord word ∨ NoWord word
  | run k | run1 k => k = .blank
  | boundary => True
  | seq p q | alt p q => Tidy p ∧ Tidy q
  | opt p => Tidy p

/-- Within a match, where a word begins one of the pattern's keywords begins. -/
theorem exists_keyword_of_reads {p : Pattern} (hp : p.Tidy) {u v : Text} (h : p.Reads (u ++ v))
    (hu : u.getLast?.any isWord = false) (hv : v.head?.any isWord = true) :
    ∃ k ∈ p.literals, ∃ w rest, v = w ++ rest ∧ IsForm k w := by
  -- where no word begins there is nothing to show
  have hnot : ∀ {v : Text}, NoWord v → v.head?.any isWord ≠ true := by
    intro v h
    rw [h.head?_isWord]
    decide
  induction p generalizing u v with
  | keyword word =>
    have hform : IsForm word (u ++ v) := h
    rcases hp with hp | hp
    · -- nothing of the keyword stands in front of the word
      have hall := hform.allWord hp
      have hnil : u = [] := by
        cases hlast : u.getLast? with
        | none => simpa using hlast
        | some c =>
          rw [hlast, Option.any_some,
            hall c (List.mem_append_left _ (List.mem_of_getLast? hlast))] at hu
          cases hu
      subst hnil
      exact ⟨word, List.mem_singleton_self word, v, [], by simp, hform⟩
    · exact absurd hv (hnot (List.forall_mem_append.mp (hform.noWord hp)).2)
  | run k =>
    obtain rfl : k = .blank := hp
    exact absurd hv (hnot (noWord_of_blanks (List.forall_mem_append.mp h).2))
  | run1 k =>
    obtain rfl : k = .blank := hp
    exact absurd hv (hnot (noWord_of_blanks (List.forall_mem_append.mp h.2).2))
  | boundary =>
    obtain ⟨-, rfl⟩ := List.append_eq_nil_iff.mp (show u ++ v = [] from h)
    cases hv
  | seq p q ihp ihq =>
    obtain ⟨hp, hq⟩ := hp
    obtain ⟨a, b, hab, ha, hb⟩ := h
    -- the word begins where the second part of the pattern takes over, or within one of the parts
    rcases List.append_eq_append_iff.mp hab with ⟨c, rfl, rfl⟩ | ⟨c, rfl, rfl⟩
    · cases c with
      | nil =>
        obtain ⟨k, hk, hword⟩ := ihq (u := []) hq hb rfl hv
        exact ⟨k, List.mem_append_right _ hk, hword⟩
      | cons d c =>
        obtain ⟨k, hk, w, rest, hw, hform⟩ := ihp hp ha hu hv
        exact ⟨k, List.mem_append_left _ hk, w, rest ++ b, by rw [hw, List.append_assoc], hform⟩
    · have hc : c.getLast?.any isWord = false := by
        cases c with
        | nil => rfl
        | cons d c => rwa [List.getLast?_append_of_ne_nil _ (by simp)] at hu
      obtain ⟨k, hk, hword⟩ := ihq hq hb hc hv
      exact ⟨k, List.mem_append_right _ hk, hword⟩
  | alt p q ihp ihq =>
    rcases h with h | h
    · obtain ⟨k, hk, hword⟩ := ihp hp.1 h hu hv
      exact ⟨k, List.mem_append_left _ hk, hword⟩
    · obtain ⟨k, hk, hword⟩ := ihq hp.2 h hu hv
      exact ⟨k, List.mem_append_right _ hk, hword⟩
  | opt p ih =>
    rcases h with h | h
    · exact ih hp h hu hv
    · obtain ⟨-, rfl⟩ := List.append_eq_nil_iff.mp h
      cases hv

end QueryGate.Pattern
