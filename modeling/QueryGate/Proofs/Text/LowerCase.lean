import QueryGate.Proofs.Text.Spelling

/-! # Lower case is final

A character *is low* if lower case leaves it as it is, wherever it stands (`IsLow`).  No shift of
the table takes a character to one that is to be shifted (`apply_eq_none_of_apply`), so all that
lower case puts into a text is low (`isLow_of_mem_lowerAt`), and a text in lower case is its own
lower case (`toLower_toLower`).

No character vanishes by lower case, and no other character becomes a blank, so a text without
blanks at its ends has none there in lower case (`trimmed_toLower`). -/

namespace QueryGate.Text

/-- A character that lower case leaves as it is, wherever it stands. -/
def IsLow (c : Char) : Prop := c ≠ capitalSigma ∧ lowerChar c = [c]

instance (c : Char) : Decidable (IsLow c) := inferInstanceAs (Decidable (_ ∧ _))

/-! ## Images of shifts -/

namespace CaseShift

/-- The code points that the ends of the range are taken to. -/
def image (s : CaseShift) : Nat × Nat :=
  (Int.toNat (s.first + s.delta), Int.toNat (s.last + s.delta))

/-- The range is taken to characters. -/
def HasImage (s : CaseShift) : Prop :=
  0 ≤ s.first + s.delta ∧ (s.image.2 < 0xD800 ∨ (0xE000 ≤ s.image.1 ∧ s.image.2 < 0x110000))

instance (s : CaseShift) : Decidable s.HasImage := inferInstanceAs (Decidable (_ ∧ _))

theorem HasImage.toNat_eq {s : CaseShift} (hs : s.HasImage) {n : Nat} {x : Char}
    (h : s.apply n = some x) : (x.toNat : Int) = n + s.delta := by
  obtain ⟨hlow, hhigh⟩ := hs
  simp only [image] at hhigh
  exact toNat_of_apply h hlow (by omega)

/-- The images of `s` lie beside the range of `t`, or between the characters that `t` covers. -/
def avoids (s t : CaseShift) : Bool :=
  Nat.blt s.image.2 t.first || Nat.blt t.last s.image.1 ||
    (t.step == 2 && (s.step == 2 || s.first == s.last) && (s.image.1 + t.first) % 2 == 1)

theorem mod_step_of_apply {s : CaseShift} {n : Nat} {x : Char} (h : s.apply n = some x) :
    (n - s.first) % s.step = 0 := by
  unfold apply at h
  split at h
  · rename_i hrange
    exact hrange.2.2
  · cases h

theorem apply_eq_none_of_avoids {s t : CaseShift} (hs : s.HasImage) (hst : s.avoids t = true)
    {n : Nat} {x : Char} (h : s.apply n = some x) : t.apply x.toNat = none := by
  cases happly : t.apply x.toNat with
  | none => rfl
  | some y =>
    exfalso
    have hx := hs.toNat_eq h
    obtain ⟨hfirst, hlast, -⟩ := apply_cases h
    obtain ⟨htfirst, htlast, -⟩ := apply_cases happly
    have hplace := mod_step_of_apply h
    have htplace := mod_step_of_apply happly
    obtain ⟨hlow, -⟩ := hs
    simp only [avoids, image, Bool.or_eq_true, Nat.blt_eq, Bool.and_eq_true, beq_iff_eq] at hst
    rcases hst with (hbelow | habove) | ⟨⟨hstep, hparity⟩, hodd⟩
    · omega
    · omega
    · rw [hstep] at htplace
      rcases hparity with hparity | hone
      · rw [hparity] at hplace
        omega
      · omega

end CaseShift

/-- The characters that lower case changes: the ASCII capitals, the dotted capital I, the capital
sigma and those of the table. -/
def capitalRanges : List CaseShift :=
  ⟨0x41, 0x5A, 1, 32⟩ :: ⟨0x130, 0x130, 1, 0⟩ :: ⟨0x3A3, 0x3A3, 1, 32⟩ :: lowerShifts

theorem isLow_of_apply {c : Char} (h : ∀ t ∈ capitalRanges, t.apply c.toNat = none) : IsLow c := by
  rw [capitalRanges, List.forall_mem_cons, List.forall_mem_cons, List.forall_mem_cons] at h
  obtain ⟨hascii, hdotted, hsigma, hshifts⟩ := h
  simp only [CaseShift.apply, Nat.mod_one, and_true, ite_eq_right_iff, reduceCtorEq, imp_false,
    not_and_or, Nat.not_le] at hascii hdotted hsigma
  constructor
  · rintro rfl
    revert hsigma
    decide
  · unfold lowerChar
    split
    · have hself : asciiLower c = c := by
        rcases asciiLower_cases c with ⟨hlow, hhigh, -⟩ | ⟨-, hself⟩
        · omega
        · exact hself
      rw [hself]
    · rw [if_neg (by omega), List.findSome?_eq_none_iff.mpr hshifts, Option.getD_none]

/-- No shift leads to a character that is to be shifted. -/
theorem apply_eq_none_of_apply {s t : CaseShift} (hs : s ∈ lowerShifts) (ht : t ∈ capitalRanges)
    {n : Nat} {x : Char} (h : s.apply n = some x) : t.apply x.toNat = none := by
  have hall : (lowerShifts.all fun s =>
      decide s.HasImage && capitalRanges.all fun t => s.avoids t) = true := by
    decide +kernel
  have himage := List.all_eq_true.mp hall s hs
  rw [Bool.and_eq_true, decide_eq_true_eq] at himage
  exact CaseShift.apply_eq_none_of_avoids himage.1 (List.all_eq_true.mp himage.2 t ht) h

/-! ## Images of characters -/

/-- The lower case of a character between two texts, of which the first is read backwards. -/
def lowerAt (before : Text) (c : Char) (rest : Text) : Text :=
  if c == capitalSigma then [lowerSigma before rest] else lowerChar c

theorem lowerFrom_cons (before : Text) (c : Char) (rest : Text) :
    lowerFrom before (c :: rest) = lowerAt before c rest ++ lowerFrom (c :: before) rest := rfl

theorem lowerSigma_cases (before rest : Text) :
    lowerSigma before rest = Char.ofNat 0x3C2 ∨ lowerSigma before rest = Char.ofNat 0x3C3 := by
  unfold lowerSigma
  split
  · exact .inl rfl
  · exact .inr rfl

/-- The image of a character other than the dotted capital I and the capital sigma. -/
theorem lowerChar_cases {c : Char} (hascii : isAscii c = false) (hdotted : c.toNat ≠ 0x130) :
    lowerChar c = [c] ∨ ∃ s ∈ lowerShifts, ∃ x, s.apply c.toNat = some x ∧ lowerChar c = [x] := by
  rw [lowerChar, if_neg (by simp [hascii]), if_neg hdotted]
  cases hshift : lowerShifts.findSome? (·.apply c.toNat) with
  | none => exact .inl rfl
  | some x =>
    obtain ⟨s, hs, hx⟩ := List.exists_of_findSome?_eq_some hshift
    exact .inr ⟨s, hs, x, hx, rfl⟩

theorem isLow_of_mem_lowerChar {c y : Char} (hsigma : c ≠ capitalSigma) (hy : y ∈ lowerChar c) :
    IsLow y := by
  cases hascii : isAscii c with
  | true =>
    have himage := of_isAscii (P := fun c => (lowerChar c).all (decide <| IsLow ·) = true)
      (by decide) hascii
    exact forall_mem_of_all himage y hy
  | false =>
    by_cases hdotted : c.toNat = 0x130
    · obtain rfl := eq_of_toNat_eq hdotted
      exact forall_mem_of_all (p := IsLow) (by decide +kernel) y hy
    · rcases lowerChar_cases hascii hdotted with hself | ⟨s, hs, x, hx, himage⟩
      · rw [hself, List.mem_singleton] at hy
        exact hy ▸ ⟨hsigma, hself⟩
      · rw [himage, List.mem_singleton] at hy
        exact hy ▸ isLow_of_apply fun t ht => apply_eq_none_of_apply hs ht hx

theorem isBlank_of_mem_lowerChar {c y : Char} (hc : isBlank c = false) (hy : y ∈ lowerChar c) :
    isBlank y = false := by
  cases hascii : isAscii c with
  | true =>
    have himage := of_isAscii (P := fun c => isBlank c = false →
      (lowerChar c).all (decide <| isBlank · = false) = true) (by decide) hascii hc
    exact forall_mem_of_all himage y hy
  | false =>
    by_cases hdotted : c.toNat = 0x130
    · obtain rfl := eq_of_toNat_eq hdotted
      exact forall_mem_of_all (p := (isBlank · = false)) (by decide) y hy
    · rcases lowerChar_cases hascii hdotted with hself | ⟨s, hs, x, hx, himage⟩
      · rw [hself, List.mem_singleton] at hy
        exact hy ▸ hc
      · rw [himage, List.mem_singleton] at hy
        subst hy
        -- only the Kelvin sign is taken into ASCII
        have hshifts : ∀ s ∈ lowerShifts, s.AvoidsBlanks ∨
            (s.first = s.last ∧ isBlank (Char.ofNat s.image.1) = false) := by decide +kernel
        rcases hshifts s hs with hout | ⟨hone, hkelvin⟩
        · exact hout.isBlank_eq_false hx
        · rw [(CaseShift.apply_single hone hx).2]
          exact hkelvin

theorem lowerChar_ne_nil (c : Char) : lowerChar c ≠ [] := by
  unfold lowerChar
  split
  · simp
  · split <;> simp

section LowerAt

variable {before rest : Text} {c y : Char}

theorem lowerAt_ne_nil (before : Text) (c : Char) (rest : Text) : lowerAt before c rest ≠ [] := by
  unfold lowerAt
  split
  · simp
  · exact lowerChar_ne_nil c

theorem isLow_of_mem_lowerAt (hy : y ∈ lowerAt before c rest) : IsLow y := by
  unfold lowerAt at hy
  split at hy
  · rw [List.mem_singleton] at hy
    rcases lowerSigma_cases before rest with h | h <;> rw [hy, h] <;> decide +kernel
  · rename_i hsigma
    exact isLow_of_mem_lowerChar (by simpa using hsigma) hy

theorem isBlank_of_mem_lowerAt (hc : isBlank c = false) (hy : y ∈ lowerAt before c rest) :
    isBlank y = false := by
  unfold lowerAt at hy
  split at hy
  · rw [List.mem_singleton] at hy
    rcases lowerSigma_cases before rest with h | h <;> rw [hy, h] <;> decide
  · exact isBlank_of_mem_lowerChar hc hy

end LowerAt

/-! ## Texts -/

theorem isLow_of_mem_lowerFrom {before s : Text} : ∀ y ∈ lowerFrom before s, IsLow y := by
  induction s generalizing before with
  | nil => simp [lowerFrom]
  | cons c s ih =>
    intro y hy
    rw [lowerFrom_cons] at hy
    rcases List.mem_append.mp hy with hy | hy
    · exact isLow_of_mem_lowerAt hy
    · exact ih y hy

theorem lowerFrom_of_isLow {before s : Text} (hs : ∀ c ∈ s, IsLow c) : lowerFrom before s = s := by
  induction s generalizing before with
  | nil => rfl
  | cons c s ih =>
    obtain ⟨⟨hsigma, hself⟩, hs⟩ := List.forall_mem_cons.mp hs
    rw [lowerFrom_cons, lowerAt, if_neg (by simpa using hsigma), hself, ih hs]
    rfl

/-- **A text in lower case is its own lower case.** -/
theorem toLower_toLower (s : Text) : toLower (toLower s) = toLower s :=
  lowerFrom_of_isLow isLow_of_mem_lowerFrom

/-- What stands at the end of a text is brought to lower case behind the rest. -/
theorem exists_lowerFrom_append (before s t : Text) :
    ∃ u, lowerFrom before (s ++ t) = u ++ lowerFrom (s.reverse ++ before) t := by
  induction s generalizing before with
  | nil => exact ⟨[], rfl⟩
  | cons c s ih =>
    obtain ⟨u, hu⟩ := ih (c :: before)
    refine ⟨lowerAt before c (s ++ t) ++ u, ?_⟩
    rw [List.cons_append, lowerFrom_cons, hu, List.append_assoc, List.reverse_cons,
      List.append_assoc, List.singleton_append]

theorem toLower_ne_nil {s : Text} (hs : s ≠ []) : toLower s ≠ [] := by
  cases s with
  | nil => exact absurd rfl hs
  | cons c s =>
    rw [toLower, lowerFrom_cons]
    exact List.append_ne_nil_of_left_ne_nil (lowerAt_ne_nil [] c s) _

/-- **Lower case brings no blank to the ends of a text.** -/
theorem trimmed_toLower {s : Text} (hs : Trimmed s) : Trimmed (toLower s) := by
  by_cases hne : s = []
  · subst hne
    exact hs
  constructor
  · obtain ⟨c, t, rfl⟩ := List.exists_cons_of_ne_nil hne
    have hc : isBlank c = false := by simpa using hs.first
    obtain ⟨y, image, himage⟩ := List.exists_cons_of_ne_nil (lowerAt_ne_nil [] c t)
    have hy := isBlank_of_mem_lowerAt hc (himage ▸ List.mem_cons_self)
    rw [toLower, lowerFrom_cons, himage]
    simpa using hy
  · obtain ⟨t, c, rfl⟩ := List.eq_nil_or_concat' s |>.resolve_left hne
    have hc : isBlank c = false := by simpa using hs.last
    obtain ⟨u, hu⟩ := exists_lowerFrom_append [] t [c]
    rw [lowerFrom_cons, lowerFrom, List.append_nil] at hu
    obtain ⟨image, y, himage⟩ := List.eq_nil_or_concat' _ |>.resolve_left
      (lowerAt_ne_nil (t.reverse ++ []) c [])
    have hy := isBlank_of_mem_lowerAt hc (himage ▸ List.mem_concat_self)
    rw [toLower, hu, himage, ← List.append_assoc, List.getLast?_concat]
    simpa using hy

end QueryGate.Text
