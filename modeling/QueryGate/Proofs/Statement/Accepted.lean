import QueryGate.Proofs.Text.Capitals
import QueryGate.Proofs.Text.Occurrence
import QueryGate.Statement.Verdict

/-! # Accepted statements

A statement is accepted exactly if no denied pattern occurs in it, one of the allowed keywords
leads it, and it holds no separator (`judge_eq_safe_iff`).  The keyword that leads a statement lies
in front of every place where a word may begin later on: what stands from there on may be replaced
(`LedBy.of_lead`). -/

namespace QueryGate

open Text

namespace StatementRules

/-- The statement begins with the keyword and a blank, once it is trimmed and in upper case. -/
def LedBy (kind s : Text) : Prop :=
  ∃ gap rest, IsBlanks gap ∧ toUpper (trim s) = kind ++ (gap ++ rest)

theorem beginsWithKind_iff {s kind : Text} :
    beginsWithKind s kind = true ↔ ∃ gap rest, IsBlanks gap ∧ s = kind ++ (gap ++ rest) := by
  rw [beginsWithKind, Option.isSome_iff_exists]
  constructor
  · rintro ⟨rest, h⟩
    obtain ⟨t, ht, hblanks⟩ := Option.bind_eq_some_iff.mp h
    obtain ⟨gap, hgap, rfl, -⟩ := dropBlanks?_eq_some_iff.mp hblanks
    exact ⟨gap, rest, hgap, dropLead?_eq_some_iff.mp ht⟩
  · rintro ⟨gap, rest, hgap, rfl⟩
    -- further blanks may stand behind those of the gap
    refine ⟨trimLeft rest, Option.bind_eq_some_iff.mpr ⟨_, dropLead?_append _ _, ?_⟩⟩
    refine dropBlanks?_eq_some_iff.mpr
      ⟨gap ++ rest.takeWhile isBlank, ⟨by simp [hgap.1], ?_⟩, ?_, head?_trimLeft rest⟩
    · exact List.forall_mem_append.mpr ⟨hgap.2, takeWhile_isBlank rest⟩
    · rw [List.append_assoc, trimLeft, List.takeWhile_append_dropWhile]

theorem allows_iff {rules : StatementRules} {s : Text} :
    rules.allows s = true ↔ ∃ kind ∈ rules.kinds, LedBy kind s := by
  rw [allows, List.any_eq_true]
  simp only [beginsWithKind_iff, LedBy]

theorem judge_eq_safe_iff {rules : StatementRules} {s : Text} :
    rules.judge s = .safe ↔
      (∀ rule ∈ rules.denylist, rule.pattern.occurs s = false) ∧
        (∃ kind ∈ rules.kinds, LedBy kind s) ∧ separator ∉ s := by
  rw [← allows_iff, judge]
  cases hdenied : rules.denylist.find? fun rule => rule.pattern.occurs s with
  | some rule =>
    have hoccurs := List.find?_some hdenied
    have hmem := List.mem_of_find?_eq_some hdenied
    constructor
    · intro h
      cases h
    · rintro ⟨hnone, -⟩
      rw [hnone rule hmem] at hoccurs
      cases hoccurs
  | none =>
    have hnone : ∀ rule ∈ rules.denylist, rule.pattern.occurs s = false := by
      simpa using List.find?_eq_none.mp hdenied
    by_cases hallows : rules.allows s = true
    · by_cases hseparator : separator ∈ s
      · simp [hallows, hseparator]
      · simpa [hallows, hseparator] using hnone
    · simp [hallows]

/-! ## What leads a statement -/

/-- A keyword of ASCII letters does not begin with the upper case of a text that does not end in a
word: the last character belongs to no word, so its image is no part of the keyword. -/
theorem ne_toUpper_append {kind lead : Text}
    (hkind : ∀ x ∈ kind, isAscii x = true ∧ isWord x = true) (hlead : ¬ AllBlank lead)
    (hlast : lead.getLast?.any isWord = false) (more : Text) :
    kind ≠ toUpper (trimLeft lead) ++ more := by
  intro hmore
  obtain ⟨front, c, hfront⟩ : ∃ front c, trimLeft lead = front ++ [c] := by
    rcases List.eq_nil_or_concat (trimLeft lead) with hnil | ⟨front, c, hfront⟩
    · exact absurd (List.dropWhile_eq_nil_iff.mp hnil) hlead
    · exact ⟨front, c, by rw [hfront, List.concat_eq_append]⟩
  have hc : isWord c = false := by
    have hwhole : lead = lead.takeWhile isBlank ++ (front ++ [c]) := by
      rw [← hfront, trimLeft, List.takeWhile_append_dropWhile]
    rw [hwhole, ← List.append_assoc, List.getLast?_concat] at hlast
    exact hlast
  obtain ⟨y, hy⟩ := List.exists_mem_of_ne_nil _ (upperChar_ne_nil c)
  have hmem : y ∈ kind := by
    rw [hmore, hfront, toUpper_append]
    have hself : toUpper [c] = upperChar c := List.flatMap_singleton upperChar c
    simp [hself, hy]
  obtain ⟨hascii, hword⟩ := hkind y hmem
  rw [isWord_of_mem_upperChar hc hy hascii] at hword
  cases hword

/-- A keyword of ASCII letters that leads a statement lies within any part at its start that is not
blank and does not end in a word.  What follows that part does not matter. -/
theorem LedBy.of_lead {kind lead tail tail' : Text}
    (hkind : ∀ x ∈ kind, isAscii x = true ∧ isWord x = true) (hlead : ¬ AllBlank lead)
    (hlast : lead.getLast?.any isWord = false) (htail : ¬ AllBlank tail)
    (htail' : ¬ AllBlank tail') (h : LedBy kind (lead ++ tail)) : LedBy kind (lead ++ tail') := by
  obtain ⟨gap, rest, ⟨hne, hgap⟩, heq⟩ := h
  obtain ⟨t, ht⟩ := exists_trim_append hlead htail
  obtain ⟨t', ht'⟩ := exists_trim_append hlead htail'
  rw [ht, toUpper_append] at heq
  have hbeyond := ne_toUpper_append hkind hlead hlast
  rcases List.append_eq_append_iff.mp heq with ⟨more, hmore, -⟩ | ⟨more, hmore, hrest⟩
  · exact absurd hmore (hbeyond more)
  · cases more with
    | nil => exact absurd hmore.symm (by simpa using hbeyond [])
    | cons b more =>
      -- the blank behind the keyword lies in the part as well
      have hb : isBlank b = true := by
        cases gap with
        | nil => exact absurd rfl hne
        | cons d gap =>
          obtain ⟨rfl, -⟩ := List.cons.inj hrest
          exact hgap d List.mem_cons_self
      refine ⟨[b], more ++ toUpper t', ⟨by simp, by simpa using hb⟩, ?_⟩
      rw [ht', toUpper_append, hmore, List.append_assoc]
      rfl

/-- With blanks alone in front, `SELECT` leads a statement. -/
theorem ledBy_select {lead tail : Text} (hlead : AllBlank lead) (htail : ¬ AllBlank tail) :
    LedBy "SELECT".toList (lead ++ ("SELECT ".toList ++ tail)) := by
  obtain ⟨t, ht⟩ := exists_trim_append (s := "SELECT ".toList) (by decide) htail
  refine ⟨[' '], toUpper t, by decide, ?_⟩
  have hself : toUpper (trimLeft "SELECT ".toList) = "SELECT ".toList := by decide
  rw [trim_append_left hlead, ht, toUpper_append, hself]
  rfl

end StatementRules

end QueryGate
