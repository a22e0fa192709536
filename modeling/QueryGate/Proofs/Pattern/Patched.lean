import QueryGate.Proofs.Pattern.Occurrence
import QueryGate.Proofs.Statement.Whole

/-! # Searching a patched text

In the text `before ++ (old ++ after)`, with words at both ends of `old`, the part `old` is replaced
by a patch with words at its ends.  A pattern that was not found in the text is not found in the
patched text but by a match that begins in the patch: one that begins behind the patch was there
before (`not_matches_behind`), one that ends in front of it too, and none reads across its border
unless a keyword of the pattern begins the patch (`not_matches_before`). -/

namespace QueryGate.Pattern

open Text

/-- What begins in a text of three parts begins in one of them. -/
theorem begins_cases {a m b x z : Text} (h : a ++ (m ++ b) = x ++ z) :
    (∃ r, r ≠ [] ∧ a = x ++ r ∧ z = r ++ (m ++ b)) ∨
      (∃ x' r, r ≠ [] ∧ x = a ++ x' ∧ m = x' ++ r ∧ z = r ++ b) ∨
      ∃ x', x = a ++ (m ++ x') ∧ b = x' ++ z := by
  have hsplit : ∀ {s t x z : Text}, s ++ t = x ++ z →
      (∃ r, r ≠ [] ∧ s = x ++ r ∧ z = r ++ t) ∨ ∃ x', x = s ++ x' ∧ t = x' ++ z := by
    intro s t x z h
    rcases List.append_eq_append_iff.mp h with ⟨r, hx, ht⟩ | ⟨r, hs, hz⟩
    · exact .inr ⟨r, hx, ht⟩
    · by_cases hr : r = []
      · subst hr
        exact .inr ⟨[], by simpa using hs.symm, by simpa using hz.symm⟩
      · exact .inl ⟨r, hr, hs, hz⟩
  rcases hsplit h with hfirst | ⟨x', rfl, h'⟩
  · exact .inl hfirst
  · rcases hsplit h' with ⟨r, hr, hm, hz⟩ | ⟨x'', rfl, hb⟩
    · exact .inr (.inl ⟨x', r, hr, rfl, hm, hz⟩)
    · exact .inr (.inr ⟨x'', rfl, hb⟩)

/-- A match that begins in the patch has its opening keyword there. -/
theorem exists_opening_in_patch {p : Pattern} (hp : AllWord p.opening ∨ NoWord p.opening)
    {b after t y : Text} (hne : b ≠ [])
    (hborder : after = [] ∨ b.getLast?.any isWord = true ∧ after.head?.any isWord = false)
    (h : b ++ after = t ++ y) (ht : p.Reads t) : ∃ w, IsForm p.opening w ∧ w <+: b := by
  obtain ⟨w, v, rfl, hw⟩ := exists_opening_of_reads ht
  refine ⟨w, hw, ?_⟩
  rcases hborder with rfl | ⟨hlast, hafter⟩
  · exact ⟨v ++ y, by rw [← List.append_assoc, ← h, List.append_nil]⟩
  rw [List.append_assoc] at h
  rcases hp with hp | hp
  · -- a word does not go on behind the patch
    have hall := hw.allWord hp
    rcases List.append_eq_append_iff.mp h with ⟨c, rfl, hc⟩ | ⟨c, rfl, -⟩
    · cases c with
      | nil => exact ⟨[], by simp⟩
      | cons d c =>
        rw [hc, List.cons_append, List.head?_cons, Option.any_some, hall d (by simp)] at hafter
        cases hafter
    · exact List.prefix_append w c
  · -- the word at the end of the patch does not belong to the keyword
    have hnone : ∀ c ∈ w, (!isWord c) = true := by
      intro c hc
      rw [hw.noWord hp c hc]
      rfl
    have hend : b.getLast?.any (!isWord ·) = false := by
      cases hgot : b.getLast? with
      | none => rfl
      | some d =>
        rw [hgot] at hlast
        simpa using hlast
    obtain ⟨u, -, rfl, -⟩ := exists_rest_of_all h.symm hnone hne hend
    exact List.prefix_append w u

section Patched

variable {p : Pattern} {R : Text → Prop} {before old after : Text}
  (hold : old.head?.any isWord = true) (hold' : old.getLast?.any isWord = true)
  (hR : ∀ y, R (y ++ (old ++ after)))
  (hnone : ¬ p.FoundBefore R (before ++ (old ++ after)))

theorem head?_append_congr {s t : Text} (hs : s.head?.any isWord = true)
    (ht : t.head?.any isWord = true) (y : Text) :
    (y ++ s).head?.any isWord = (y ++ t).head?.any isWord := by
  cases y with
  | nil => rw [List.nil_append, List.nil_append, hs, ht]
  | cons c y => rfl

theorem head?_append_of_any {s : Text} (hs : s.head?.any isWord = true) (t : Text) :
    (s ++ t).head?.any isWord = true := by
  cases s with
  | nil => cases hs
  | cons c s => exact hs

include hold hR hnone in
/-- No match begins in front of a patch that no keyword of the pattern begins. -/
theorem not_matches_before {patch x b t y : Text} (hp : p.Tidy)
    (hbefore : before.getLast?.any isWord = false) (hpatch : patch.head?.any isWord = true)
    (hborder : ∀ k ∈ p.literals, ∀ w rest, patch = w ++ rest → ¬ IsForm k w)
    (hb : before = x ++ b) (hne : b ≠ []) (h : b ++ patch = t ++ y) :
    ¬ p.Matches x.getLast? t y.head? := by
  subst hb
  intro hmatch
  rcases List.append_eq_append_iff.mp h with ⟨c, rfl, hc⟩ | ⟨c, rfl, rfl⟩
  · cases c with
    | nil =>
      -- the match ends at the border
      rw [List.append_nil] at hmatch
      obtain rfl : patch = y := hc
      refine hnone ⟨x, b, old ++ after, by simp only [List.append_assoc],
        hmatch.congr rfl ?_, hR []⟩
      rw [hpatch, head?_append_of_any hold]
    | cons d c =>
      have hlast : b.getLast?.any isWord = false := by
        rwa [List.getLast?_append_of_ne_nil _ hne] at hbefore
      have hword : (d :: c).head?.any isWord = true := by
        rw [hc] at hpatch
        exact hpatch
      obtain ⟨k, hk, w, rest, hw, hform⟩ := exists_keyword_of_reads hp hmatch.reads hlast hword
      exact hborder k hk w (rest ++ y) (by rw [hc, hw, List.append_assoc]) hform
  · -- the match ends in front of it
    refine hnone ⟨x, t, c ++ (old ++ after), by simp only [List.append_assoc],
      hmatch.congr rfl (head?_append_congr hpatch (head?_append_of_any hold _) c), hR c⟩

include hold' hnone in
/-- No match begins behind a patch that ends with a word. -/
theorem not_matches_behind {x t y : Text} {c : Char} (hc : isWord c = true)
    (h : after = x ++ (t ++ y)) (hy : R y) : ¬ p.Matches (x.getLast?.or (some c)) t y.head? := by
  subst h
  intro hmatch
  have hlast : (before ++ (old ++ x)).getLast?.any isWord =
      (x.getLast?.or (some c)).any isWord := by
    have hparts := getLast?_append_or (before ++ old) x none
    rw [Option.or_none, List.append_assoc] at hparts
    rw [hparts]
    cases x.getLast? with
    | some d => rfl
    | none =>
      rw [Option.none_or, Option.none_or, Option.or_none, List.getLast?_append]
      cases hgot : old.getLast? with
      | none =>
        rw [hgot] at hold'
        cases hold'
      | some d =>
        rw [hgot] at hold'
        exact hold'.trans hc.symm
  exact hnone ⟨before ++ (old ++ x), t, y, by simp only [List.append_assoc],
    hmatch.congr hlast.symm rfl, hy⟩

include hold hold' hR hnone in
/-- **Nothing new is found in a patch** that holds no opening keyword, whether the text in front of
it and the text behind it are searched with it or not. -/
theorem not_foundBefore_patched {R' : Text → Prop} {patch before' after' : Text} (hp : p.Tidy)
    (hne : p.opening ≠ []) (huniform : AllWord p.opening ∨ NoWord p.opening)
    (hfree : ∀ w, IsForm p.opening w → ¬ w <:+: patch)
    (hfront : before' = [] ∨ before' = before ∧ before.getLast?.any isWord = false ∧
      patch.head?.any isWord = true ∧
      ∀ k ∈ p.literals, ∀ w rest, patch ++ after' = w ++ rest → ¬ IsForm k w)
    (hback : after' = [] ∨ after' = after ∧ after.head?.any isWord = false ∧
      patch.getLast?.any isWord = true ∧ ∀ y, R' y → R y) :
    ¬ p.FoundBefore R' (before' ++ (patch ++ after')) := by
  rintro ⟨x, t, y, h, hmatch, hy⟩
  rcases begins_cases h with ⟨b, hb, hx, hz⟩ | ⟨x', b, hb, -, rfl, hz⟩ | ⟨x', rfl, hz⟩
  · -- in front of the patch
    rcases hfront with rfl | ⟨rfl, hlast, hhead, hborder⟩
    · exact hb (List.append_eq_nil_iff.mp hx.symm).2
    · exact not_matches_before hold hR hnone hp hlast (head?_append_of_any hhead after') hborder hx
        hb hz.symm hmatch
  · -- in the patch
    have hborder : after' = [] ∨ b.getLast?.any isWord = true ∧ after'.head?.any isWord = false := by
      rcases hback with hnil | ⟨rfl, hhead, hlast, -⟩
      · exact .inl hnil
      · rw [List.getLast?_append_of_ne_nil _ hb] at hlast
        exact .inr ⟨hlast, hhead⟩
    obtain ⟨w, hw, hprefix⟩ := exists_opening_in_patch huniform hb hborder hz.symm hmatch.reads
    exact hfree w hw (List.infix_append_of_infix_right hprefix.isInfix)
  · -- behind the patch
    rcases hback with rfl | ⟨rfl, -, hlast, himp⟩
    · have hnil := (List.append_eq_nil_iff.mp (List.append_eq_nil_iff.mp hz.symm).2).1
      obtain ⟨w, v, rfl, hw⟩ := exists_opening_of_reads hmatch.reads
      exact hw.ne_nil hne (List.append_eq_nil_iff.mp hnil).1
    · cases hgot : patch.getLast? with
      | none =>
        rw [hgot] at hlast
        cases hlast
      | some c =>
        rw [hgot] at hlast
        have hbeside : (before' ++ (patch ++ x')).getLast? = x'.getLast?.or (some c) := by
          have hparts := getLast?_append_or before' (patch ++ x') none
          rw [Option.or_none, getLast?_append_or, hgot] at hparts
          exact hparts
        rw [hbeside] at hmatch
        exact not_matches_behind hold' hnone hlast hz (himp y hy) hmatch

end Patched

end QueryGate.Pattern
