import QueryGate.Proofs.Pattern.Spelling
import QueryGate.Proofs.Statement.Accepted
import Mathlib.Data.List.Find

/-! # Judgement and spelling

The judgement of a statement depends on its spelling alone (`judge_eq_of_spelled_eq`): neither letter
case nor the number or kind of blanks in a gap decides whether a statement is refused, or why.

Each of the three checks has its own reason.  The forbidden shapes ask for blanks only where none
have been read (`DenyRule.spacious_defaults`).  The keyword that leads a statement has no blank in it,
so it lies in front of the first gap (`beginsWithKind_of_spelled_eq`).  The separator is no letter and
no blank. -/

namespace QueryGate

open Text

theorem DenyRule.spacious_defaults :
    ∀ rule ∈ DenyRule.defaults, rule.pattern.Spacious true = true := by decide

namespace StatementRules

variable {kind s t : Text}

/-- A keyword without blanks leads the upper case of all texts spelled alike or of none.  By
induction on the text: a character that is no blank has the same image in either text, and the first
blank of one is the first of the other. -/
theorem beginsWithKind_of_spelled_eq (hkind : ∀ x ∈ kind, isBlank x = false)
    (h : spelled s = spelled t) (hs : beginsWithKind (toUpper s) kind = true) :
    beginsWithKind (toUpper t) kind = true := by
  rw [beginsWithKind_iff] at hs ⊢
  induction s generalizing t kind with
  | nil =>
    obtain ⟨gap, rest, ⟨hne, -⟩, heq⟩ := hs
    obtain ⟨-, hnil⟩ := List.append_eq_nil_iff.mp heq.symm
    exact absurd (List.append_eq_nil_iff.mp hnil).1 hne
  | cons c s ih =>
    obtain ⟨gap, rest, hgap, heq⟩ := hs
    have hcons : ∀ (d : Char) (t : Text), toUpper (d :: t) = upperChar d ++ toUpper t :=
      fun _ _ => List.flatMap_cons
    rw [hcons] at heq
    cases hc : isBlank c with
    | true =>
      -- nothing of the keyword stands in front of the gap
      have hnil : kind = [] := by
        cases kind with
        | nil => rfl
        | cons x kind =>
          rw [upperChar_of_isBlank hc] at heq
          obtain ⟨rfl, -⟩ := List.cons.inj heq
          exact absurd (hc.symm.trans (hkind c List.mem_cons_self)) (by decide)
      obtain ⟨g, rest', rfl, hg, -, -⟩ := exists_of_spelled_blank hc h
      exact ⟨g, toUpper rest', hg, by rw [hnil, toUpper_append, toUpper_of_allBlank hg.2]; rfl⟩
    | false =>
      have hfrom : spelledFrom false (c :: s) = spelledFrom false t := h
      obtain ⟨d, t, rfl, hletter, hrest⟩ := exists_of_spelledFrom_cons hc hfrom nofun
      have himage : upperChar d = upperChar c := by
        rw [← upperChar_asciiUpper, hletter, upperChar_asciiUpper]
      rw [hcons, himage]
      rcases List.append_eq_append_iff.mp heq with ⟨more, rfl, hmore⟩ | ⟨more, hmore, hbehind⟩
      · obtain ⟨gap', rest', hgap', heq'⟩ :=
          ih (List.forall_mem_append.mp hkind).2 hrest ⟨gap, rest, hgap, hmore⟩
        exact ⟨gap', rest', hgap', by rw [heq', List.append_assoc]⟩
      · cases more with
        | nil =>
          have hempty : ∀ x ∈ ([] : Text), isBlank x = false := by simp
          obtain ⟨gap', rest', hgap', heq'⟩ := ih hempty hrest ⟨gap, rest, hgap, hbehind.symm⟩
          exact ⟨gap', rest', hgap', by rw [hmore, heq', List.append_nil]; rfl⟩
        | cons b more =>
          -- the keyword would end within the image of a character, which has no blank in it
          exfalso
          obtain ⟨x, hx, hblank⟩ := hgap.head? (s := rest)
          rw [hbehind, List.cons_append, List.head?_cons, Option.some_inj] at hx
          subst hx
          rw [isBlank_of_mem_upperChar hc (by rw [hmore]; simp)] at hblank
          cases hblank

theorem allows_of_spelled_eq {rules : StatementRules}
    (hkinds : ∀ kind ∈ rules.kinds, ∀ c ∈ kind, isBlank c = false) (h : spelled s = spelled t) :
    rules.allows s = rules.allows t := by
  have htrim : spelled (trim s) = spelled (trim t) := by rw [spelled_trim, spelled_trim, h]
  rw [allows, allows, Bool.eq_iff_iff, List.any_eq_true, List.any_eq_true]
  refine exists_congr fun kind => and_congr_right fun hkind => ?_
  exact ⟨beginsWithKind_of_spelled_eq (hkinds kind hkind) htrim,
    beginsWithKind_of_spelled_eq (hkinds kind hkind) htrim.symm⟩

/-- **Spelling decides.**  With any of the forbidden shapes and any kinds without blanks, statements
that become equal when their ASCII letters are put into upper case and each run of blanks is replaced
by one space are judged alike. -/
theorem judge_eq_of_spelled_eq {denylist : List DenyRule} (hdenied : denylist ⊆ DenyRule.defaults)
    {kinds : List Text} (hkinds : ∀ kind ∈ kinds, ∀ c ∈ kind, isBlank c = false)
    (h : spelled s = spelled t) : (make denylist kinds).judge s = (make denylist kinds).judge t := by
  have hfind : denylist.find? (fun rule => rule.pattern.occurs s) =
      denylist.find? fun rule => rule.pattern.occurs t :=
    List.find?_congr fun rule hrule =>
      Pattern.occurs_of_spelled_eq (DenyRule.spacious_defaults rule (hdenied hrule)) h
  have hkinds' : ∀ kind ∈ (make denylist kinds).kinds, ∀ c ∈ kind, isBlank c = false := by
    intro kind hkind
    obtain ⟨kind, hmem, rfl⟩ := List.mem_map.mp hkind
    exact isBlank_of_mem_toUpper (hkinds kind hmem)
  have hseparator : separator ∈ s ↔ separator ∈ t := by
    have hmem : ∀ s : Text, separator ∈ spelled s ↔ separator ∈ s :=
      fun _ => mem_spelled_iff (by decide) (by decide)
    rw [← hmem s, h, hmem t]
  simp only [judge, allows_of_spelled_eq hkinds' h, hseparator]
  simp only [make, hfind]

theorem judge_eq_of_spelled_eq_union :
    DenyRule.defaults ⊆ DenyRule.defaults ∧
      (∀ kind ∈ readOnlyKinds, ∀ c ∈ kind, isBlank c = false) ∧
      spelled "select a\u00A0from t\nunion\u2003 select b from u".toList =
        spelled "Select A From T Union Select B From U".toList ∧
      standard.judge "select a\u00A0from t\nunion\u2003 select b from u".toList =
        standard.judge "Select A From T Union Select B From U".toList := by
  have hself : DenyRule.defaults ⊆ DenyRule.defaults := List.Subset.refl _
  have hall : readOnlyKinds.all (·.all (!isBlank ·)) = true := by decide
  have hkinds : ∀ kind ∈ readOnlyKinds, ∀ c ∈ kind, isBlank c = false := by
    intro kind hkind c hc
    simpa using List.all_eq_true.mp (List.all_eq_true.mp hall kind hkind) c hc
  have hspelled : spelled "select a\u00A0from t\nunion\u2003 select b from u".toList =
      spelled "Select A From T Union Select B From U".toList := by decide
  exact ⟨hself, hkinds, hspelled, judge_eq_of_spelled_eq hself hkinds hspelled⟩

end StatementRules

end QueryGate
