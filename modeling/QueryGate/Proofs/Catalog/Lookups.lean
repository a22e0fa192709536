import QueryGate.Catalog
import QueryGate.Proofs.Text.Capitals
import QueryGate.Proofs.Text.Occurrence

/-! # The lookups of a catalog

The pattern of a column is looked for in the list of all patterns, each taken once, and its category
by going through the categories.  Leaving out repetitions does not change which pattern is found
first (`find?_distinct`), so both lookups stop at the same place: at the first category with a
pattern that stands in the name, and there at the first such pattern (`isForemost_iff`).

Lower case does not see the case of ASCII letters, and the name of a column is looked at in lower
case alone (`lookups_congr`). -/

namespace QueryGate.Catalog

open Text

/-- The pattern is the first that stands in the lower-case name of the column: it belongs to the
category `name`, and neither an earlier category has such a pattern nor is there an earlier one in
the same category. -/
def IsForemost (c : Catalog) (column name pattern : Text) : Prop :=
  ∃ before earlier later after,
    c.categories.entries = before ++ (name, earlier ++ pattern :: later) :: after ∧
      pattern <:+: toLower column ∧
      (∀ e ∈ before, ∀ p ∈ e.2, ¬ p <:+: toLower column) ∧
      ∀ p ∈ earlier, ¬ p <:+: toLower column

/-- What is found first is found first among the patterns without repetitions. -/
theorem find?_distinct (found : Text → Bool) (l : List Text) :
    (distinct l).find? found = l.find? found := by
  induction l with
  | nil => rfl
  | cons p l ih =>
    rw [distinct]
    cases hp : found p with
    | true => rw [List.find?_cons_of_pos hp, List.find?_cons_of_pos hp]
    | false =>
      have hnot : ¬ found p = true := by simp [hp]
      -- the repetitions of a pattern that is not found are not found either
      have hrest : (fun q => decide ((q != p) = true ∧ found q = true)) = found := by
        funext q
        by_cases hq : q = p
        · simp [hq, hp]
        · simp [hq]
      rw [List.find?_cons_of_neg hnot, List.find?_cons_of_neg hnot, List.find?_filter, hrest, ih]

theorem matchingPattern?_eq (c : Catalog) (column : Text) :
    c.matchingPattern? column =
      (c.categories.entries.flatMap (·.2)).find? fun pattern => contains pattern (toLower column) :=
  find?_distinct _ _

section Foremost

variable {c : Catalog} {column name pattern : Text}

theorem not_contains {s p : Text} : contains p s = false ↔ ¬ p <:+: s := by
  rw [← contains_iff_infix, Bool.not_eq_true]

/-- Both lookups stop at a foremost pattern. -/
theorem IsForemost.found (h : c.IsForemost column name pattern) :
    c.categoryOf? column = some name ∧ c.matchingPattern? column = some pattern := by
  obtain ⟨before, earlier, later, after, hentries, hpattern, hbefore, hearlier⟩ := h
  have hstands : contains pattern (toLower column) = true := contains_iff_infix.mpr hpattern
  constructor
  · rw [categoryOf?, hentries, Option.map_eq_some_iff]
    refine ⟨(name, earlier ++ pattern :: later), ?_, rfl⟩
    refine List.find?_eq_some_iff_append.mpr ⟨?_, before, after, rfl, ?_⟩
    · simp [hstands]
    · intro e he
      simpa [not_contains] using hbefore e he
  · rw [matchingPattern?_eq, hentries, List.flatMap_append, List.flatMap_cons]
    refine List.find?_eq_some_iff_append.mpr
      ⟨hstands, before.flatMap (·.2) ++ earlier, later ++ after.flatMap (·.2), by simp, ?_⟩
    intro p hp
    rw [Bool.not_eq_true', not_contains]
    rcases List.mem_append.mp hp with hp | hp
    · obtain ⟨e, he, hpe⟩ := List.mem_flatMap.mp hp
      exact hbefore e he p hpe
    · exact hearlier p hp

/-- The category that is found has a foremost pattern. -/
theorem exists_isForemost (h : c.categoryOf? column = some name) :
    ∃ pattern, c.IsForemost column name pattern := by
  obtain ⟨⟨_, patterns⟩, hfind, rfl⟩ := Option.map_eq_some_iff.mp h
  obtain ⟨hany, before, after, hentries, hbefore⟩ := List.find?_eq_some_iff_append.mp hfind
  obtain ⟨pattern, hpattern⟩ := Option.isSome_iff_exists.mp (List.find?_isSome.mpr
    (List.any_eq_true.mp hany))
  obtain ⟨hstands, earlier, later, rfl, hearlier⟩ := List.find?_eq_some_iff_append.mp hpattern
  refine ⟨pattern, before, earlier, later, after, hentries, contains_iff_infix.mp hstands, ?_, ?_⟩
  · intro e he p hp
    have hnone := hbefore e he
    rw [Bool.not_eq_true', List.any_eq_false] at hnone
    rw [← contains_iff_infix]
    exact hnone p hp
  · intro p hp
    rw [← not_contains, ← Bool.not_eq_true']
    exact hearlier p hp

/-- **The two lookups stop at the same place**, the foremost pattern of the column. -/
theorem isForemost_iff :
    c.IsForemost column name pattern ↔
      c.categoryOf? column = some name ∧ c.matchingPattern? column = some pattern := by
  refine ⟨IsForemost.found, ?_⟩
  rintro ⟨hcategory, hpattern⟩
  obtain ⟨found, hfound⟩ := exists_isForemost hcategory
  obtain rfl : found = pattern := Option.some.inj (hfound.found.2.symm.trans hpattern)
  exact hfound

end Foremost

/-- **A column has a category exactly if it is sensitive.** -/
theorem isSome_categoryOf? (c : Catalog) (column : Text) :
    (c.categoryOf? column).isSome = c.isSensitive column := by
  rw [categoryOf?, isSensitive, matchingPattern?_eq, Option.isSome_map, Bool.eq_iff_iff,
    List.find?_isSome, List.find?_isSome]
  constructor
  · rintro ⟨e, he, hany⟩
    obtain ⟨p, hp, hstands⟩ := List.any_eq_true.mp hany
    exact ⟨p, List.mem_flatMap.mpr ⟨e, he, hp⟩, hstands⟩
  · rintro ⟨p, hp, hstands⟩
    obtain ⟨e, he, hpe⟩ := List.mem_flatMap.mp hp
    exact ⟨e, he, List.any_eq_true.mpr ⟨p, hpe, hstands⟩⟩

/-- Names with the same lower case are looked up alike. -/
theorem lookups_congr (c : Catalog) {column other : Text} (h : toLower column = toLower other) :
    c.matchingPattern? column = c.matchingPattern? other ∧
      c.categoryOf? column = c.categoryOf? other ∧
      c.safeAlternative? column = c.safeAlternative? other := by
  rw [matchingPattern?, matchingPattern?, categoryOf?, categoryOf?, safeAlternative?,
    safeAlternative?, h]
  exact ⟨rfl, rfl, rfl⟩

/-- **The lookups of a catalog agree with one another.**  For every catalog and every column: there
is a category exactly if the column is sensitive, and category and pattern are those of the first
pattern in the order of the categories, and of the patterns in each, that stands in the lower-case
name.  The case of the ASCII letters of a name, which are all the letters of an ASCII name, changes
neither of them nor the safe alternative. -/
theorem lookups_agree (c : Catalog) (column : Text) :
    (c.categoryOf? column).isSome = c.isSensitive column ∧
      (∀ name, c.categoryOf? column = some name →
        ∃ pattern, c.matchingPattern? column = some pattern ∧
          c.IsForemost column name pattern) ∧
      (∀ name pattern, c.IsForemost column name pattern →
        c.categoryOf? column = some name ∧ c.matchingPattern? column = some pattern) ∧
      ∀ other, column.map asciiLower = other.map asciiLower →
        c.matchingPattern? column = c.matchingPattern? other ∧
          c.categoryOf? column = c.categoryOf? other ∧
          c.safeAlternative? column = c.safeAlternative? other := by
  refine ⟨isSome_categoryOf? c column, ?_, fun _ _ => isForemost_iff.mp, ?_⟩
  · intro name hname
    obtain ⟨pattern, hpattern⟩ := exists_isForemost hname
    exact ⟨pattern, hpattern.found.2, hpattern⟩
  · intro other hother
    refine lookups_congr c ?_
    rw [← toLower_map_asciiLower column, hother, toLower_map_asciiLower other]

/-- A pattern that two categories list, in front of one that it stands in. -/
def Sample.overlapping : Catalog :=
  make ⟨[("names".toList, ["alias".toList]), ("keys".toList, ["Key".toList, "api_key".toList]),
    ("secrets".toList, ["api_key".toList, "key".toList])]⟩ .empty defaultVersion

theorem lookups_agree_overlapping :
    Sample.overlapping.categoryOf? "API_Key_2".toList = some "keys".toList ∧
      Sample.overlapping.IsForemost "API_Key_2".toList "keys".toList "key".toList ∧
      "API_Key_2".toList.map asciiLower = "api_KEY_2".toList.map asciiLower ∧
      Sample.overlapping.categoryOf? "api_KEY_2".toList = some "keys".toList := by
  have hcategory : Sample.overlapping.categoryOf? "API_Key_2".toList = some "keys".toList := by
    decide +kernel
  have hcase : "API_Key_2".toList.map asciiLower = "api_KEY_2".toList.map asciiLower := by decide
  obtain ⟨-, hforemost, -, hcongr⟩ := lookups_agree Sample.overlapping "API_Key_2".toList
  obtain ⟨pattern, hpattern, hfound⟩ := hforemost _ hcategory
  have hkey : Sample.overlapping.matchingPattern? "API_Key_2".toList = some "key".toList := by
    decide +kernel
  obtain rfl : pattern = "key".toList := Option.some.inj (hpattern.symm.trans hkey)
  exact ⟨hcategory, hfound, hcase, (hcongr _ hcase).2.1 ▸ hcategory⟩

end QueryGate.Catalog
