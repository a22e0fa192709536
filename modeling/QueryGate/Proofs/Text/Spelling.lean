import QueryGate.Proofs.Text.Capitals

/-! # Spelling of a text

The *spelling* of a text has its ASCII letters in upper case and one space for each run of blanks
(`spelled`).  Two texts may be spelled alike and differ in letter case and in the number and kind
of their blanks, but at no place where one has a blank and the other has none.

Behind a blank, further blanks are not seen, so spelling is taken from left to right with the last
character in mind (`spelledFrom_append`).  Trimming does not disturb it (`spelled_trim`), and nor
does upper case (`upperChar_asciiUpper`), under which blanks stay what they are
(`isBlank_of_mem_upperChar`). -/

namespace QueryGate.Text

/-- The spelling of what stands behind a blank, if `gap` holds, or else behind no blank. -/
def spelledFrom (gap : Bool) : Text → Text
  | [] => []
  | c :: s =>
    if isBlank c then (if gap then spelledFrom true s else ' ' :: spelledFrom true s)
    else asciiUpper c :: spelledFrom false s

/-- A text with its ASCII letters in upper case and each run of blanks as one space. -/
def spelled (s : Text) : Text := spelledFrom false s

/-! ## Upper case of ASCII letters -/

theorem asciiUpper_of_not_isAscii {c : Char} (h : isAscii c = false) : asciiUpper c = c := by
  unfold asciiUpper
  split
  · rename_i hcase
    simp only [Bool.and_eq_true, decide_eq_true_eq] at hcase
    have hhigh : c.toNat ≤ 122 := hcase.2
    simp only [isAscii, decide_eq_false_iff_not] at h
    omega
  · rfl

/-- A function that agrees on the two cases of every ASCII letter does not see upper case. -/
theorem asciiUpper_alike {β : Type} {f : Char → β}
    (h : ∀ n < 128, f (asciiUpper (Char.ofNat n)) = f (Char.ofNat n)) (c : Char) :
    f (asciiUpper c) = f c := by
  cases hascii : isAscii c with
  | true => exact of_isAscii (P := fun c => f (asciiUpper c) = f c) h hascii
  | false => rw [asciiUpper_of_not_isAscii hascii]

theorem isBlank_asciiUpper (c : Char) : isBlank (asciiUpper c) = isBlank c :=
  asciiUpper_alike (by decide) c

theorem isWord_asciiUpper (c : Char) : isWord (asciiUpper c) = isWord c :=
  asciiUpper_alike (by decide) c

theorem upperChar_asciiUpper (c : Char) : upperChar (asciiUpper c) = upperChar c :=
  asciiUpper_alike (by decide) c

/-- Only a blank is spelled as a space. -/
theorem asciiUpper_ne_space {c : Char} (hc : isBlank c = false) : asciiUpper c ≠ ' ' := by
  intro h
  rw [← isBlank_asciiUpper, h] at hc
  cases hc

/-- A character that is no letter is the upper case of itself alone. -/
theorem asciiUpper_eq_iff {x : Char} (hx : isAsciiLetter x = false) (c : Char) :
    asciiUpper c = x ↔ c = x := by
  have hcases : asciiUpper c = c ∨
      isAsciiLetter c = true ∧ isAsciiLetter (asciiUpper c) = true := by
    cases hascii : isAscii c with
    | true =>
      exact of_isAscii (P := fun c => asciiUpper c = c ∨
        isAsciiLetter c = true ∧ isAsciiLetter (asciiUpper c) = true) (by decide) hascii
    | false => exact .inl (asciiUpper_of_not_isAscii hascii)
  rcases hcases with hself | ⟨hletter, hletter'⟩
  · rw [hself]
  · constructor <;> rintro rfl
    · rw [hx] at hletter'
      cases hletter'
    · rw [hx] at hletter
      cases hletter

/-- A letter in either case is a form of the same letters. -/
theorem isFormOf_asciiUpper (a c : Char) : isFormOf a (asciiUpper c) = isFormOf a c := by
  have hlower := asciiUpper_alike (f := asciiLower) (by decide) c
  -- the further forms of a letter lie outside ASCII
  have hforms : ∀ n ∈ [0x17F, 0x212A, 0x130, 0x131],
      ((asciiUpper c).toNat == n) = (c.toNat == n) := by
    intro n hn
    refine asciiUpper_alike (f := (·.toNat == n)) ?_ c
    revert n
    decide
  simp only [List.forall_mem_cons] at hforms
  obtain ⟨hs, hk, hdotted, hdotless, -⟩ := hforms
  rw [isFormOf, isFormOf, hlower, hs, hk, hdotted, hdotless]

theorem IsForm.not_isBlank {k w : Text} (hw : IsForm k w) (hk : ∀ a ∈ k, isBlank a = false) :
    ∀ c ∈ w, isBlank c = false := by
  intro c hc
  obtain ⟨a, ha, hform⟩ := hw.exists_mem hc
  exact (isBlank_of_isFormOf hform).trans (hk a ha)

theorem IsForm.of_map_asciiUpper {k w w' : Text} (h : IsForm k w)
    (heq : w.map asciiUpper = w'.map asciiUpper) : IsForm k w' := by
  induction h generalizing w' with
  | nil =>
    obtain rfl := List.map_eq_nil_iff.mp heq.symm
    exact .nil
  | @cons a c k w hc _ ih =>
    cases w' with
    | nil => cases heq
    | cons d w' =>
      obtain ⟨hletter, hrest⟩ := List.cons.inj heq
      refine .cons ?_ (ih hrest)
      rw [← isFormOf_asciiUpper, ← hletter, isFormOf_asciiUpper, hc]

/-! ## Upper case of all letters -/

/-- The images of a shift are no blanks. -/
def CaseShift.AvoidsBlanks (s : CaseShift) : Prop :=
  s.StaysOut ∧ ∀ r ∈ blankRanges, s.last + s.delta < r.1 ∨ r.2 < s.first + s.delta

instance (s : CaseShift) : Decidable s.AvoidsBlanks := inferInstanceAs (Decidable (_ ∧ _))

theorem CaseShift.AvoidsBlanks.isBlank_eq_false {s : CaseShift} (hs : s.AvoidsBlanks) {n : Nat}
    {x : Char} (h : s.apply n = some x) : isBlank x = false := by
  have hascii := hs.1.isAscii_eq_false h
  have hx := hs.1.toNat_eq h
  obtain ⟨hfirst, hlast, -⟩ := CaseShift.apply_cases h
  rw [isBlank, if_neg (by simp [hascii]), Bool.eq_false_iff, ne_eq, inRanges_eq_true_iff]
  rintro ⟨r, hr, hle, hge⟩
  rcases hs.2 r hr with h | h <;> omega

/-- A blank is its own upper case. -/
theorem upperChar_of_isBlank {c : Char} (hc : isBlank c = true) : upperChar c = [c] := by
  cases hascii : isAscii c with
  | true =>
    exact of_isAscii (P := fun c => isBlank c = true → upperChar c = [c]) (by decide) hascii hc
  | false =>
    have hself : ∀ r ∈ blankRanges, ∀ i < r.2 - r.1 + 1,
        upperChar (Char.ofNat (r.1 + i)) = [Char.ofNat (r.1 + i)] := by decide +kernel
    rw [isBlank, if_neg (by simp [hascii]), inRanges_eq_true_iff] at hc
    obtain ⟨r, hr, hle, hge⟩ := hc
    have himage := hself r hr (c.toNat - r.1) (by omega)
    rwa [Nat.add_sub_cancel' hle, Char.ofNat_toNat] at himage

theorem toUpper_of_allBlank {g : Text} (hg : AllBlank g) : toUpper g = g := by
  induction g with
  | nil => rfl
  | cons c g ih =>
    obtain ⟨hc, hg⟩ := List.forall_mem_cons.mp hg
    rw [toUpper, List.flatMap_cons, upperChar_of_isBlank hc]
    exact congrArg (c :: ·) (ih hg)

/-- The upper case of another character has no blank in it. -/
theorem isBlank_of_mem_upperChar {c y : Char} (hc : isBlank c = false) (hy : y ∈ upperChar c) :
    isBlank y = false := by
  rcases upperChar_cases hy with ⟨-, rfl⟩ | ⟨e, he, -, n, hn, rfl⟩ | ⟨s, hs, hx⟩ | ⟨-, rfl⟩
  · rw [isBlank_asciiUpper, hc]
  · have himages : ∀ e ∈ upperExpansions, ∀ n ∈ e.2, isBlank (Char.ofNat n) = false := by
      decide +kernel
    exact himages e he n hn
  · have hshifts : ∀ s ∈ upperShifts, s.AvoidsBlanks ∨
        (s.first = s.last ∧ isBlank (Char.ofNat (Int.toNat (s.first + s.delta))) = false) := by
      decide +kernel
    rcases hshifts s hs with hout | ⟨hone, himage⟩
    · exact hout.isBlank_eq_false hx
    · rwa [(CaseShift.apply_single hone hx).2]
  · exact hc

/-- No blank comes into a text by its upper case. -/
theorem isBlank_of_mem_toUpper {s : Text} (hs : ∀ c ∈ s, isBlank c = false) :
    ∀ y ∈ toUpper s, isBlank y = false := by
  intro y hy
  obtain ⟨c, hc, hy⟩ := List.mem_flatMap.mp hy
  exact isBlank_of_mem_upperChar (hs c hc) hy

/-! ## Spelling of the parts of a text -/

variable {c d : Char} {g s t : Text}

theorem spelledFrom_of_not_isBlank (hc : isBlank c = false) (gap : Bool) (s : Text) :
    spelledFrom gap (c :: s) = asciiUpper c :: spelledFrom false s := by
  rw [spelledFrom, if_neg (by simp [hc])]

theorem spelledFrom_of_isBlank (hc : isBlank c = true) (s : Text) :
    spelledFrom true (c :: s) = spelledFrom true s ∧
      spelledFrom false (c :: s) = ' ' :: spelledFrom true s := by
  constructor
  · rw [spelledFrom, if_pos hc, if_pos rfl]
  · rw [spelledFrom, if_pos hc, if_neg (by decide)]

/-- Behind a blank, further blanks are not seen. -/
theorem spelledFrom_blanks_append (hg : AllBlank g) (s : Text) :
    spelledFrom true (g ++ s) = spelledFrom true s := by
  induction g with
  | nil => rfl
  | cons c g ih =>
    obtain ⟨hc, hg⟩ := List.forall_mem_cons.mp hg
    rw [List.cons_append, (spelledFrom_of_isBlank hc _).1, ih hg]

/-- A part of a text is spelled with the last character before it in mind. -/
theorem spelledFrom_append (gap : Bool) (s t : Text) :
    spelledFrom gap (s ++ t) =
      spelledFrom gap s ++ spelledFrom ((s.getLast?.map isBlank).getD gap) t := by
  induction s generalizing gap with
  | nil => rfl
  | cons c s ih =>
    have hlast : ((c :: s).getLast?.map isBlank).getD gap =
        (s.getLast?.map isBlank).getD (isBlank c) := by
      rw [List.getLast?_cons]
      cases s.getLast? <;> rfl
    rw [hlast, List.cons_append]
    cases hc : isBlank c with
    | false =>
      rw [spelledFrom_of_not_isBlank hc, spelledFrom_of_not_isBlank hc, ih]
      rfl
    | true =>
      cases gap with
      | true => rw [(spelledFrom_of_isBlank hc _).1, (spelledFrom_of_isBlank hc _).1, ih]
      | false =>
        rw [(spelledFrom_of_isBlank hc _).2, (spelledFrom_of_isBlank hc _).2, ih]
        rfl

theorem allBlank_spelledFrom (hg : AllBlank g) (gap : Bool) : AllBlank (spelledFrom gap g) := by
  induction g generalizing gap with
  | nil => simp [spelledFrom, AllBlank]
  | cons c g ih =>
    obtain ⟨hc, hg⟩ := List.forall_mem_cons.mp hg
    cases gap with
    | true =>
      rw [(spelledFrom_of_isBlank hc g).1]
      exact ih hg true
    | false =>
      rw [(spelledFrom_of_isBlank hc g).2]
      exact List.forall_mem_cons.mpr ⟨by decide, ih hg true⟩

/-- A text that begins with no blank is spelled in the same way behind a blank. -/
theorem spelledFrom_eq_spelled (hs : s.head?.any isBlank = false) (gap : Bool) :
    spelledFrom gap s = spelled s := by
  cases s with
  | nil => rfl
  | cons c s => rw [spelled, spelledFrom_of_not_isBlank hs, spelledFrom_of_not_isBlank hs]

theorem Trimmed.spelled (hs : Trimmed s) : Trimmed (spelled s) := by
  constructor
  · cases s with
    | nil => rfl
    | cons c s =>
      rw [Text.spelled, spelledFrom_of_not_isBlank hs.first, List.head?_cons, Option.any_some,
        isBlank_asciiUpper]
      exact hs.first
  · rcases List.eq_nil_or_concat s with rfl | ⟨front, c, rfl⟩
    · rfl
    · have hc : isBlank c = false := by simpa using hs.last
      rw [List.concat_eq_append, Text.spelled, spelledFrom_append, spelledFrom_of_not_isBlank hc,
        spelledFrom, List.getLast?_concat, Option.any_some, isBlank_asciiUpper, hc]

/-- The spelling of a trimmed text is the trimmed spelling. -/
theorem spelled_trim (s : Text) : spelled (trim s) = trim (spelled s) := by
  obtain ⟨g, g', hg, hg', hs⟩ := exists_trim s
  have htrimmed := trimmed_trim s
  conv_rhs => rw [hs, spelled, spelledFrom_append, spelledFrom_append]
  rw [trim_append_left (allBlank_spelledFrom hg _), trim_append_right (allBlank_spelledFrom hg' _),
    spelledFrom_eq_spelled htrimmed.first, htrimmed.spelled.trim_eq]

/-- A character that is no letter and no blank stands in a text if it stands in its spelling. -/
theorem mem_spelled_iff {x : Char} (hx : isBlank x = false) (hletter : isAsciiLetter x = false) :
    x ∈ spelled s ↔ x ∈ s := by
  have hspace : x ≠ ' ' := by
    rintro rfl
    cases hx
  have hfrom : ∀ gap, x ∈ spelledFrom gap s ↔ x ∈ s := by
    intro gap
    induction s generalizing gap with
    | nil => rfl
    | cons c s ih =>
      cases hc : isBlank c with
      | false =>
        rw [spelledFrom_of_not_isBlank hc, List.mem_cons, List.mem_cons, ih, eq_comm,
          asciiUpper_eq_iff hletter, eq_comm]
      | true =>
        have hne : x ≠ c := by
          rintro rfl
          rw [hc] at hx
          cases hx
        cases gap with
        | true => rw [(spelledFrom_of_isBlank hc s).1, ih, List.mem_cons, or_iff_right hne]
        | false =>
          rw [(spelledFrom_of_isBlank hc s).2, List.mem_cons, ih, List.mem_cons,
            or_iff_right hspace, or_iff_right hne]
  exact hfrom false

/-! ## Texts spelled alike -/

/-- Where a text has no blank, a text spelled alike has the same character in either case. -/
theorem exists_of_spelledFrom_cons (hc : isBlank c = false) {gap gap' : Bool}
    (h : spelledFrom gap (c :: s) = spelledFrom gap' t)
    (hgap : gap' = true → t.head?.any isBlank = false) :
    ∃ d t', t = d :: t' ∧ asciiUpper d = asciiUpper c ∧
      spelledFrom false s = spelledFrom false t' := by
  rw [spelledFrom_of_not_isBlank hc] at h
  cases t with
  | nil => cases h
  | cons d t =>
    cases hd : isBlank d with
    | false =>
      rw [spelledFrom_of_not_isBlank hd] at h
      obtain ⟨hletter, hrest⟩ := List.cons.inj h
      exact ⟨d, t, rfl, hletter.symm, hrest⟩
    | true =>
      -- a blank that is seen would be spelled as a space
      exfalso
      cases gap' with
      | true =>
        have hfirst : isBlank d = false := hgap rfl
        rw [hd] at hfirst
        cases hfirst
      | false =>
        rw [(spelledFrom_of_isBlank hd t).2] at h
        exact asciiUpper_ne_space hc (List.cons.inj h).1

/-- Where a run of blanks begins in a text, one begins in a text spelled alike. -/
theorem exists_of_spelled_blank (hc : isBlank c = true) (h : spelled (c :: s) = spelled t) :
    ∃ g t', t = g ++ t' ∧ IsBlanks g ∧ t'.head?.any isBlank = false ∧
      spelledFrom true s = spelledFrom true t' := by
  rw [spelled, (spelledFrom_of_isBlank hc s).2] at h
  cases t with
  | nil => cases h
  | cons d t =>
    cases hd : isBlank d with
    | false =>
      rw [spelled, spelledFrom_of_not_isBlank hd] at h
      exact absurd (List.cons.inj h).1.symm (asciiUpper_ne_space hd)
    | true =>
      rw [spelled, (spelledFrom_of_isBlank hd t).2] at h
      refine ⟨d :: t.takeWhile isBlank, trimLeft t, ?_,
        ⟨by simp, List.forall_mem_cons.mpr ⟨hd, takeWhile_isBlank t⟩⟩, head?_trimLeft t, ?_⟩
      · rw [List.cons_append, trimLeft, List.takeWhile_append_dropWhile]
      · rw [(List.cons.inj h).2, ← spelledFrom_blanks_append (takeWhile_isBlank t) (trimLeft t),
          trimLeft, List.takeWhile_append_dropWhile]

end QueryGate.Text
