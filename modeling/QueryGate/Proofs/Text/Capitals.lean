import QueryGate.Proofs.Text.Words

/-! # Letter case of words

Upper case is taken character by character.  A character that belongs to no word has no letter or
digit of ASCII in its image (`isWord_of_mem_upperChar`), so a keyword in the upper case of a text
comes from a word of the text.  No image has a small letter of ASCII in it (`not_mem_toUpper`).

Lower case looks around each character, but not at the case of ASCII letters
(`toLower_map_asciiLower`). -/

namespace QueryGate.Text

@[simp] theorem toUpper_append (s t : Text) : toUpper (s ++ t) = toUpper s ++ toUpper t :=
  List.flatMap_append

theorem upperChar_ne_nil (c : Char) : upperChar c ≠ [] := by
  have himages : ∀ e ∈ upperExpansions, e.2 ≠ [] := by decide
  unfold upperChar
  split
  · simp
  · split
    · rename_i image h
      obtain ⟨l, l', hsplit, -⟩ := List.lookup_eq_some_iff.mp h
      have hne := himages (c.toNat, image) (by rw [hsplit]; simp)
      simpa using hne
    · simp

/-- Where a character of an upper case comes from: from a letter of ASCII, from a longer image, from a
shift, or from the character itself. -/
theorem upperChar_cases {c y : Char} (hy : y ∈ upperChar c) :
    (isAscii c = true ∧ y = asciiUpper c) ∨
      (∃ e ∈ upperExpansions, Char.ofNat e.1 = c ∧ ∃ n ∈ e.2, y = Char.ofNat n) ∨
      (∃ s ∈ upperShifts, s.apply c.toNat = some y) ∨ (isAscii c = false ∧ y = c) := by
  unfold upperChar at hy
  split at hy
  · rename_i hc
    exact .inl ⟨hc, List.mem_singleton.mp hy⟩
  · rename_i hc
    split at hy
    · rename_i image himage
      obtain ⟨l, l', hsplit, -⟩ := List.lookup_eq_some_iff.mp himage
      obtain ⟨n, hn, rfl⟩ := List.mem_map.mp hy
      exact .inr (.inl ⟨(c.toNat, image), by rw [hsplit]; simp, Char.ofNat_toNat c, n, hn, rfl⟩)
    · obtain rfl := List.mem_singleton.mp hy
      cases hshift : upperShifts.findSome? (·.apply c.toNat) with
      | none => exact .inr (.inr (.inr ⟨by simpa using hc, rfl⟩))
      | some x => exact .inr (.inr (.inl (List.exists_of_findSome?_eq_some hshift)))

/-- What the image of a character outside words has in ASCII belongs to no word either.  The longer
images that reach into ASCII are of word characters, and so are the shifts into it. -/
theorem isWord_of_mem_upperChar {c y : Char} (hc : isWord c = false) (hy : y ∈ upperChar c)
    (hascii : isAscii y = true) : isWord y = false := by
  rcases upperChar_cases hy with ⟨hplain, rfl⟩ | ⟨e, he, rfl, n, hn, rfl⟩ | ⟨s, hs, hx⟩ | ⟨-, rfl⟩
  · exact of_isAscii (P := fun c => isWord c = false → isWord (asciiUpper c) = false)
      (by decide) hplain hc
  · have himages : ∀ e ∈ upperExpansions,
        (∀ n ∈ e.2, isAscii (Char.ofNat n) = false) ∨ isWord (Char.ofNat e.1) = true := by
      decide +kernel
    rcases himages e he with hout | hword
    · rw [hout n hn] at hascii
      cases hascii
    · rw [hc] at hword
      cases hword
  · have hshifts : ∀ s ∈ upperShifts, s.StaysOut ∨
        (s.first = s.last ∧ isWord (Char.ofNat s.first) = true) := by decide +kernel
    rcases hshifts s hs with hout | ⟨hone, hword⟩
    · rw [hout.isAscii_eq_false hx] at hascii
      cases hascii
    · rw [← (CaseShift.apply_single hone hx).1, Char.ofNat_toNat, hc] at hword
      cases hword
  · exact hc

/-- A small ASCII letter is in no image. -/
theorem not_mem_upperChar {x : Char} (hx : isAscii x = true) (hsmall : asciiUpper x ≠ x)
    (c : Char) : x ∉ upperChar c := by
  intro hmem
  rcases upperChar_cases hmem with ⟨hc, rfl⟩ | ⟨e, he, -, n, hn, rfl⟩ | ⟨s, hs, happly⟩ | ⟨hc, rfl⟩
  · exact hsmall (of_isAscii (P := fun c => asciiUpper (asciiUpper c) = asciiUpper c)
      (by decide) hc)
  · have himages : ∀ e ∈ upperExpansions, ∀ n ∈ e.2,
        asciiUpper (Char.ofNat n) = Char.ofNat n := by decide +kernel
    exact hsmall (himages e he n hn)
  · have hshifts : ∀ s ∈ upperShifts, s.StaysOut ∨ (s.first = s.last ∧
        asciiUpper (Char.ofNat (Int.toNat (s.first + s.delta))) =
          Char.ofNat (Int.toNat (s.first + s.delta))) := by decide +kernel
    rcases hshifts s hs with hout | ⟨hone, himage⟩
    · rw [hout.isAscii_eq_false happly] at hx
      cases hx
    · rw [(CaseShift.apply_single hone happly).2] at hsmall
      exact hsmall himage
  · rw [hc] at hx
    cases hx

theorem not_mem_toUpper {x : Char} (hx : isAscii x = true) (hsmall : asciiUpper x ≠ x) (s : Text) :
    x ∉ toUpper s := by
  intro hmem
  obtain ⟨c, -, hc⟩ := List.mem_flatMap.mp hmem
  exact not_mem_upperChar hx hsmall c hc

/-! ## Lower case without the case of ASCII letters -/

theorem nextIsCased_fold (s : Text) : nextIsCased (s.map asciiLower) = nextIsCased s := by
  have hcased : ∀ c, isCased (asciiLower c) = isCased c := asciiLower_alike (by decide)
  have hignored : ∀ c, isCaseIgnored (asciiLower c) = isCaseIgnored c :=
    asciiLower_alike (by decide)
  induction s with
  | nil => rfl
  | cons c s ih =>
    by_cases hc : isCaseIgnored c = true
    · simpa [nextIsCased, hignored, hc] using ih
    · simp [nextIsCased, hignored, hc, hcased]

theorem lowerFrom_fold (before s : Text) :
    lowerFrom (before.map asciiLower) (s.map asciiLower) = lowerFrom before s := by
  have hsigma : ∀ c, (asciiLower c == capitalSigma) = (c == capitalSigma) :=
    asciiLower_alike (f := (· == capitalSigma)) (by decide)
  have hlower : ∀ c, lowerChar (asciiLower c) = lowerChar c := asciiLower_alike (by decide)
  induction s generalizing before with
  | nil => rfl
  | cons c s ih =>
    have hrest := ih (c :: before)
    rw [List.map_cons] at hrest
    rw [List.map_cons, lowerFrom, lowerFrom, hsigma, hlower, hrest, lowerSigma, lowerSigma,
      nextIsCased_fold, nextIsCased_fold]

theorem toLower_map_asciiLower (s : Text) : toLower (s.map asciiLower) = toLower s :=
  lowerFrom_fold [] s

end QueryGate.Text
