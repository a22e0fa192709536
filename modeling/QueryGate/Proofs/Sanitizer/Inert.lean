import QueryGate.Proofs.Pattern.Occurrence
import QueryGate.Proofs.Sanitizer.Kept

/-! # Inert patterns

The patterns of the denylist are *inert* (`DenyRule.inert_defaults`): they read no back quote, none
of their keywords begins a `SELECT`, and the keyword that opens them stands in none of the texts that
sanitizing puts in (`Inert.free_select`, `Inert.free_close`, `Inert.free_substitute`). -/

namespace QueryGate

open Text Projection Statement Pattern Sanitizer

namespace DenyRule

/-- `UNION` with a `SELECT` somewhere behind it. -/
def unionSelect : Pattern := all [boundary, word "UNION", gap, run .any, word "SELECT"]

/-- `UNION` and the blanks behind it. -/
def unionGap : Pattern := all [boundary, word "UNION", gap]

theorem occurs_unionSelect_iff {s : Text} : unionSelect.occurs s = true ↔
    unionGap.FoundBefore (fun y => (word "SELECT").occurs y = true) s := by
  rw [occurs_iff]
  constructor
  · rintro ⟨x, _, y, rfl, ⟨_, _, rfl, ⟨rfl, hborder⟩, union, _, rfl, hunion, blanks, _, rfl, hblanks,
      between, select, rfl, -, hselect⟩, -⟩
    refine ⟨x, union ++ blanks, between ++ (select ++ y), by simp, ⟨[], union ++ blanks, rfl,
      ⟨rfl, ?_⟩, union, blanks, rfl, hunion, hblanks⟩,
      occurs_keyword_iff.mpr ⟨select, hselect, between, y, by simp⟩⟩
    rw [← hborder]
    simp only [List.head?_append, Option.or_assoc]
  · rintro ⟨x, _, _, rfl, ⟨_, _, rfl, ⟨rfl, hborder⟩, union, blanks, rfl, hunion, hblanks⟩, hoccurs⟩
    obtain ⟨select, hselect, between, y, rfl⟩ := occurs_keyword_iff.mp hoccurs
    refine ⟨x, union ++ (blanks ++ (between ++ select)), y, by simp,
      ⟨[], union ++ (blanks ++ (between ++ select)), rfl, ⟨rfl, ?_⟩, union, _, rfl, hunion, blanks,
        _, rfl, hblanks, between, select, rfl, fun _ _ => rfl, hselect⟩, trivial⟩
    rw [← hborder]
    simp only [List.head?_append, Option.or_assoc]

end DenyRule

namespace Pattern

instance decidableTidy : (p : Pattern) → Decidable p.Tidy
  | keyword word => inferInstanceAs (Decidable (AllWord word ∨ NoWord word))
  | run k | run1 k => inferInstanceAs (Decidable (k = .blank))
  | boundary => inferInstanceAs (Decidable True)
  | seq p q | alt p q =>
    have := decidableTidy p
    have := decidableTidy q
    inferInstanceAs (Decidable (p.Tidy ∧ q.Tidy))
  | opt p => decidableTidy p

/-- The pattern has no part in what sanitizing puts into a statement. -/
structure Inert (p : Pattern) : Prop where
  quote : p.avoids '`' = true
  tidy : p.Tidy
  opening_ne : p.opening ≠ []
  opening_uniform : AllWord p.opening ∨ NoWord p.opening
  opening_gaps : ∀ a ∈ p.opening, isAscii a = true ∧ isGap (asciiLower a) = false
  literals : ∀ k ∈ p.literals,
    (keyword k).avoids ' ' = true ∧ (keyword k).occurs "SELECT".toList = false
  select : (keyword p.opening).occurs "SELECT".toList = false
  quantifiers : ∀ k ∈ quantifierWords,
    contains (p.opening.map asciiLower) (k.map asciiLower) = false
  comma : p.occurs ", ".toList = false
  close : (keyword p.opening).occurs " FROM".toList = false
  substitutes : ∀ alternative ∈ Catalog.genericAlternative ::
      Catalog.standard.safeAlternatives.entries.map (·.2),
    (keyword p.opening).occurs ("SELECT ".toList ++ (alternative ++ " FROM".toList)) = false

theorem opening_gaps_iff {p : Pattern} :
    p.opening.all (fun a => isAscii a && !isGap (asciiLower a)) = true ↔
      ∀ a ∈ p.opening, isAscii a = true ∧ isGap (asciiLower a) = false := by
  simp

instance (p : Pattern) : Decidable p.Inert :=
  decidable_of_iff
    (p.avoids '`' = true ∧ p.Tidy ∧ p.opening ≠ [] ∧ (AllWord p.opening ∨ NoWord p.opening) ∧
      p.opening.all (fun a => isAscii a && !isGap (asciiLower a)) = true ∧
      (∀ k ∈ p.literals,
        (keyword k).avoids ' ' = true ∧ (keyword k).occurs "SELECT".toList = false) ∧
      (keyword p.opening).occurs "SELECT".toList = false ∧
      (∀ k ∈ quantifierWords, contains (p.opening.map asciiLower) (k.map asciiLower) = false) ∧
      p.occurs ", ".toList = false ∧
      (keyword p.opening).occurs " FROM".toList = false ∧
      ∀ alternative ∈ Catalog.genericAlternative ::
          Catalog.standard.safeAlternatives.entries.map (·.2),
        (keyword p.opening).occurs ("SELECT ".toList ++ (alternative ++ " FROM".toList)) = false)
    ⟨fun ⟨a, b, c, d, e, f, g, h, i, j, k⟩ =>
        ⟨a, b, c, d, opening_gaps_iff.mp e, f, g, h, i, j, k⟩,
      fun ⟨a, b, c, d, e, f, g, h, i, j, k⟩ =>
        ⟨a, b, c, d, opening_gaps_iff.mpr e, f, g, h, i, j, k⟩⟩

end Pattern

/-- All patterns of the denylist are inert, for the last one as far as its gap. -/
theorem DenyRule.inert_defaults :
    unionGap.Inert ∧ ∀ rule ∈ defaults, rule.pattern ≠ unionSelect → rule.pattern.Inert := by
  decide +kernel

namespace Pattern.Inert

variable {p : Pattern} (hp : p.Inert)

include hp

/-- The opening keyword stands in nothing that goes in front of the kept columns. -/
theorem free_select (old : Text) {w : Text} (hw : IsForm p.opening w) :
    ¬ w <:+: "SELECT ".toList ++ quantifierPrefix old := by
  have hspace : ' ' ∉ w := by
    intro hmem
    have hgap := noGap_of_isForm (fun a ha => (hp.opening_gaps a ha).2) hw ' ' hmem
    exact absurd hgap (by decide)
  have hparts : "SELECT ".toList ++ quantifierPrefix old =
      "SELECT".toList ++ ' ' :: quantifierPrefix old := rfl
  rw [hparts]
  intro h
  rcases infix_of_infix_append_cons hspace h with h | h
  · exact not_infix_of_not_occurs hp.select hw h
  · exact not_infix_quantifierPrefix hp.opening_ne hp.opening_gaps hp.quantifiers hw old h

theorem free_close {w : Text} (hw : IsForm p.opening w) : ¬ w <:+: " FROM".toList :=
  not_infix_of_not_occurs hp.close hw

theorem free_substitute (first : Text) {w : Text} (hw : IsForm p.opening w) :
    ¬ w <:+: "SELECT ".toList ++ (substitute Catalog.standard first ++ " FROM".toList) := by
  have hlisted : substitute Catalog.standard first ∈ Catalog.genericAlternative ::
      Catalog.standard.safeAlternatives.entries.map (·.2) := by
    rcases substitute_cases Catalog.standard first with hmem | heq
    · exact List.mem_cons_of_mem _ (List.mem_map_of_mem (f := (·.2)) hmem)
    · rw [heq]
      exact List.mem_cons_self
  exact not_infix_of_not_occurs (hp.substitutes _ hlisted) hw

/-- No keyword of the pattern begins a `SELECT`. -/
theorem border (more : Text) :
    ∀ k ∈ p.literals, ∀ w rest, "SELECT ".toList ++ more = w ++ rest → ¬ IsForm k w := by
  intro k hk w rest h hw
  obtain ⟨hspace, hselect⟩ := hp.literals k hk
  have hmem : ' ' ∉ w := not_mem_of_reads (p := keyword k) hspace hw
  have hsplit : "SELECT".toList ++ ' ' :: more = [] ++ (w ++ rest) := h
  rcases append_cons_eq_append_cases hmem hsplit with ⟨y, hy, -⟩ | ⟨x, -, hx⟩
  · exact not_infix_of_not_occurs hselect hw ⟨[], y, hy.symm⟩
  · cases hx

end Pattern.Inert

end QueryGate
