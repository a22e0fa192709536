import QueryGate.Text.Blank
import QueryGate.Text.LetterCase
import QueryGate.Proofs.Text.Occurrence
import Mathlib.Data.List.Forall2

/-! # ASCII texts in lower case

Lower case depends on the neighbours of a character only for the capital sigma, and either form of
its image lies outside ASCII.  So an ASCII text stands in the lower case of a text exactly if it
stands in the image taken character by character (`infix_toLower_iff`), and that image is
compatible with joining texts.

Few characters outside ASCII have an image that reaches into it (`plainLower_cases`).  So an ASCII
text that stands in the image of a keyword, in whatever form it is written, stands in the keyword
(`infix_of_infix_lowered_form`). -/

namespace QueryGate.Text

/-- The lower case of a character by itself. -/
def plainLower (c : Char) : Text := if c == capitalSigma then [Char.ofNat 0x3C3] else lowerChar c

/-- The lower case of a text, character by character. -/
def lowered (s : Text) : Text := s.flatMap plainLower

@[simp] theorem lowered_nil : lowered [] = [] := rfl

@[simp] theorem lowered_cons (c : Char) (s : Text) : lowered (c :: s) = plainLower c ++ lowered s :=
  rfl

@[simp] theorem lowered_append (s t : Text) : lowered (s ++ t) = lowered s ++ lowered t :=
  List.flatMap_append

/-- A text of ASCII characters. -/
def AllAscii (s : Text) : Prop := ∀ c ∈ s, isAscii c = true

/-! ## Up to characters outside ASCII -/

/-- A character of ASCII, or one that stands for all others. -/
def veil (c : Char) : Char := if isAscii c then c else Char.ofNat 0xFFFD

theorem veil_of_isAscii {c : Char} (h : isAscii c = true) : veil c = c := by simp [veil, h]

theorem eq_of_veil_eq {c x : Char} (hx : isAscii x = true) (h : veil c = x) : c = x := by
  unfold veil at h
  split at h
  · exact h
  · subst h
    exact absurd hx (by decide)

theorem map_veil_of_allAscii {p : Text} (hp : AllAscii p) : p.map veil = p := by
  conv_rhs => rw [← List.map_id p]
  exact List.map_congr_left fun c hc => veil_of_isAscii (hp c hc)

theorem eq_of_map_veil {p s : Text} (hp : AllAscii p) (h : s.map veil = p) : s = p := by
  induction s generalizing p with
  | nil => simpa using h
  | cons c s ih =>
    subst h
    obtain ⟨hc, hs⟩ := List.forall_mem_cons.mp (show AllAscii (veil c :: s.map veil) from hp)
    rw [List.map_cons, ← eq_of_veil_eq hc rfl, ← ih hs rfl]

/-- Characters outside ASCII do not matter to the places of an ASCII text. -/
theorem infix_map_veil_iff {p s : Text} (hp : AllAscii p) : p <:+: s.map veil ↔ p <:+: s := by
  constructor
  · rintro ⟨a, b, h⟩
    obtain ⟨u, b', rfl, hu, rfl⟩ := List.map_eq_append_iff.mp h.symm
    obtain ⟨a', p', rfl, rfl, hp'⟩ := List.map_eq_append_iff.mp hu
    rw [eq_of_map_veil hp hp']
    exact List.infix_append _ _ _
  · intro h
    rw [← map_veil_of_allAscii hp]
    exact h.map veil

theorem map_veil_lowerFrom (before s : Text) :
    (lowerFrom before s).map veil = (lowered s).map veil := by
  induction s generalizing before with
  | nil => rfl
  | cons c s ih =>
    rw [lowerFrom, lowered_cons, List.map_append, List.map_append, ih]
    congr 1
    unfold plainLower
    split
    · unfold lowerSigma
      split <;> rfl
    · rfl

/-- An ASCII text stands in the lower case of a text if it stands in the image of its
characters. -/
theorem infix_toLower_iff {p s : Text} (hp : AllAscii p) : p <:+: toLower s ↔ p <:+: lowered s := by
  rw [← infix_map_veil_iff hp, toLower, map_veil_lowerFrom, infix_map_veil_iff hp]

/-! ## Images of single characters -/

theorem toNat_ofNat_of_isValidChar {n : Nat} (h : n.isValidChar) : (Char.ofNat n).toNat = n := by
  rw [Char.ofNat, dif_pos h]
  rfl

/-- What holds of 128 characters holds of all of ASCII. -/
theorem of_isAscii {P : Char → Prop} (h : ∀ n < 128, P (Char.ofNat n)) {c : Char}
    (hc : isAscii c = true) : P c := by
  rw [← Char.ofNat_toNat c]
  exact h c.toNat (of_decide_eq_true hc)

/-- A text of characters outside ASCII. -/
def NoAscii (s : Text) : Prop := ∀ c ∈ s, isAscii c = false

instance (s : Text) : Decidable (NoAscii s) :=
  decidable_of_iff (s.all (!isAscii ·) = true) (by simp [NoAscii])

/-- The images of a shift are characters outside ASCII. -/
def CaseShift.StaysOut (s : CaseShift) : Prop :=
  0x80 ≤ s.first + s.delta ∧
    (s.last + s.delta < 0xD800 ∨ (0xE000 ≤ s.first + s.delta ∧ s.last + s.delta < 0x110000))

instance (s : CaseShift) : Decidable s.StaysOut := inferInstanceAs (Decidable (_ ∧ _))

theorem CaseShift.apply_cases {s : CaseShift} {n : Nat} {x : Char} (h : s.apply n = some x) :
    s.first ≤ n ∧ n ≤ s.last ∧ x = Char.ofNat (Int.toNat (n + s.delta)) := by
  unfold CaseShift.apply at h
  split at h
  · rename_i hrange
    exact ⟨hrange.1, hrange.2.1, (Option.some.inj h).symm⟩
  · cases h

/-- A shift of one character takes it to one other. -/
theorem CaseShift.apply_single {s : CaseShift} (hone : s.first = s.last) {n : Nat} {x : Char}
    (h : s.apply n = some x) : n = s.first ∧ x = Char.ofNat (Int.toNat (s.first + s.delta)) := by
  obtain ⟨hlow, hhigh, rfl⟩ := apply_cases h
  obtain rfl : n = s.first := by omega
  exact ⟨rfl, rfl⟩

/-- A shift whose range is taken to characters adds its distance. -/
theorem CaseShift.toNat_of_apply {s : CaseShift} {n : Nat} {x : Char} (h : s.apply n = some x)
    (hlow : 0 ≤ s.first + s.delta) (hhigh : s.last + s.delta < 0xD800 ∨
      (0xE000 ≤ s.first + s.delta ∧ s.last + s.delta < 0x110000)) :
    (x.toNat : Int) = n + s.delta := by
  obtain ⟨hfirst, hlast, rfl⟩ := apply_cases h
  have hvalid : Nat.isValidChar (Int.toNat (n + s.delta)) := by
    unfold Nat.isValidChar
    omega
  rw [toNat_ofNat_of_isValidChar hvalid]
  omega

theorem CaseShift.StaysOut.toNat_eq {s : CaseShift} (hs : s.StaysOut) {n : Nat} {x : Char}
    (h : s.apply n = some x) : (x.toNat : Int) = n + s.delta :=
  toNat_of_apply h (Int.le_trans (by decide) hs.1) hs.2

theorem CaseShift.StaysOut.isAscii_eq_false {s : CaseShift} (hs : s.StaysOut) {n : Nat} {x : Char}
    (h : s.apply n = some x) : isAscii x = false := by
  have hx := hs.toNat_eq h
  obtain ⟨hfirst, -, -⟩ := CaseShift.apply_cases h
  obtain ⟨hlow, -⟩ := hs
  rw [isAscii, decide_eq_false_iff_not]
  omega

/-- The images of a shift lie outside ASCII, or it is the shift of the Kelvin sign. -/
def CaseShift.KeepsClear (s : CaseShift) : Prop :=
  (s.first = 0x212A ∧ s.last = 0x212A) ∨
    (0x80 ≤ s.first + s.delta ∧
      (s.last + s.delta < 0xD800 ∨ (0xE000 ≤ s.first + s.delta ∧ s.last + s.delta < 0x110000)))

instance (s : CaseShift) : Decidable s.KeepsClear :=
  inferInstanceAs (Decidable (_ ∨ _))

theorem keepsClear_lowerShifts : ∀ s ∈ lowerShifts, s.KeepsClear := by decide +kernel

theorem isAscii_eq_false_of_apply {s : CaseShift} (hs : s.KeepsClear) {n : Nat}
    (hn : n ≠ 0x212A) {x : Char} (h : s.apply n = some x) : isAscii x = false := by
  rcases hs with ⟨hfirst, hlast⟩ | hout
  · obtain ⟨hlow, hhigh, -⟩ := CaseShift.apply_cases h
    omega
  · exact CaseShift.StaysOut.isAscii_eq_false hout h

/-- The image of a character outside ASCII stays outside it, but for two letters. -/
theorem noAscii_plainLower {c : Char} (hc : isAscii c = false) (hi : c.toNat ≠ 0x130)
    (hk : c.toNat ≠ 0x212A) : NoAscii (plainLower c) := by
  unfold plainLower
  split
  · intro x hx
    rw [List.mem_singleton.mp hx]
    rfl
  · intro x hx
    rw [lowerChar, if_neg (by simp [hc]), if_neg hi, List.mem_singleton] at hx
    subst hx
    cases h : lowerShifts.findSome? (·.apply c.toNat) with
    | none => exact hc
    | some y =>
      obtain ⟨s, hs, hy⟩ := List.exists_of_findSome?_eq_some h
      exact isAscii_eq_false_of_apply (keepsClear_lowerShifts s hs) hk hy

theorem plainLower_of_isAscii {c : Char} (hc : isAscii c = true) :
    plainLower c = [asciiLower c] := by
  have hsigma : c ≠ capitalSigma := by
    rintro rfl
    exact absurd hc (by decide)
  simp [plainLower, hsigma, lowerChar, hc]

theorem eq_of_toNat_eq {c : Char} {n : Nat} (h : c.toNat = n) : c = Char.ofNat n := by
  rw [← h, Char.ofNat_toNat]

/-- A capital letter of ASCII is shifted, and any other character stays. -/
theorem asciiLower_cases (c : Char) :
    (65 ≤ c.toNat ∧ c.toNat ≤ 90 ∧ (asciiLower c).toNat = c.toNat + 32) ∨
      ((c.toNat < 65 ∨ 90 < c.toNat) ∧ asciiLower c = c) := by
  have hcapital : (decide ('A' ≤ c) && decide (c ≤ 'Z')) = true ↔ 65 ≤ c.toNat ∧ c.toNat ≤ 90 := by
    rw [Bool.and_eq_true, decide_eq_true_eq, decide_eq_true_eq]
    rfl
  unfold asciiLower
  split
  · rename_i h
    obtain ⟨hlow, hhigh⟩ := hcapital.mp h
    exact .inl ⟨hlow, hhigh, toNat_ofNat_of_isValidChar (.inl (by omega))⟩
  · rename_i h
    rw [hcapital] at h
    exact .inr ⟨by omega, rfl⟩

theorem isAscii_asciiLower (c : Char) : isAscii (asciiLower c) = isAscii c := by
  rcases asciiLower_cases c with ⟨hlow, hhigh, himage⟩ | ⟨-, hself⟩
  · rw [isAscii, himage, isAscii, decide_eq_decide]
    omega
  · rw [hself]

/-- The image of a form of a letter is the small letter and perhaps characters outside ASCII, or
lies outside ASCII altogether. -/
theorem plainLower_of_isFormOf {a c : Char} (ha : isAscii a = true) (h : isFormOf a c = true) :
    (∃ more, NoAscii more ∧ plainLower c = asciiLower a :: more) ∨
      (plainLower c ≠ [] ∧ NoAscii (plainLower c)) := by
  rcases Bool.or_eq_true _ _ ▸ h with h | h
  · have heq : asciiLower a = asciiLower c := by simpa using h
    have hc : isAscii c = true := by rw [← isAscii_asciiLower, ← heq, isAscii_asciiLower, ha]
    exact .inl ⟨[], by simp [NoAscii], by rw [plainLower_of_isAscii hc, heq]⟩
  · split at h
    · obtain rfl := eq_of_toNat_eq (by simpa using h)
      exact .inr (by decide)
    · rename_i hk
      obtain rfl := eq_of_toNat_eq (by simpa using h)
      exact .inl ⟨[], by simp [NoAscii], by rw [hk]; decide⟩
    · rename_i hi
      rcases Bool.or_eq_true _ _ ▸ h with h | h
      · obtain rfl := eq_of_toNat_eq (by simpa using h)
        exact .inl ⟨[Char.ofNat 0x307], by simp [NoAscii]; decide, by rw [hi]; decide⟩
      · obtain rfl := eq_of_toNat_eq (by simpa using h)
        exact .inr (by decide)
    · cases h

/-! ## Keywords -/

/-- `w` is the keyword `k`, each letter in one of its forms. -/
def IsForm (k w : Text) : Prop := List.Forall₂ (fun a c => isFormOf a c = true) k w

theorem dropKeyword?_eq_some_iff {k s rest : Text} :
    dropKeyword? k s = some rest ↔ ∃ w, s = w ++ rest ∧ IsForm k w := by
  constructor
  · intro h
    induction k generalizing s with
    | nil =>
      obtain rfl := Option.some.inj h
      exact ⟨[], rfl, .nil⟩
    | cons a k ih =>
      cases s with
      | nil => cases h
      | cons c s =>
        simp only [dropKeyword?] at h
        split at h
        · rename_i hc
          obtain ⟨w, rfl, hw⟩ := ih h
          exact ⟨c :: w, rfl, .cons hc hw⟩
        · cases h
  · rintro ⟨w, rfl, h⟩
    induction h with
    | nil => rfl
    | cons hc _ ih => simpa [dropKeyword?, hc] using ih

/-- An ASCII text at the start of characters outside ASCII is empty. -/
theorem eq_nil_of_prefix_noAscii {p m s : Text} (hp : AllAscii p) (hm : NoAscii m) (hne : m ≠ [])
    (h : p <+: m ++ s) : p = [] := by
  cases p with
  | nil => rfl
  | cons x p =>
    cases m with
    | nil => exact absurd rfl hne
    | cons y m =>
      obtain ⟨rfl, -⟩ := List.cons_prefix_cons.mp h
      have hx := hm x List.mem_cons_self
      rw [hp x List.mem_cons_self] at hx
      cases hx

theorem prefix_of_prefix_lowered_form {p k w : Text} (hp : AllAscii p) (hk : AllAscii k)
    (hw : IsForm k w) (h : p <+: lowered w) : p <+: k.map asciiLower := by
  induction hw generalizing p with
  | nil => simpa using h
  | @cons a c k w hc hw ih =>
    obtain ⟨ha, hk⟩ := List.forall_mem_cons.mp hk
    rw [lowered_cons] at h
    -- either the letter is read and the text goes on, or it ends at a character outside ASCII
    rcases plainLower_of_isFormOf ha hc with ⟨more, hmore, himage⟩ | ⟨hne, hno⟩
    · cases p with
      | nil => exact List.nil_prefix
      | cons x p =>
        rw [himage, List.cons_append] at h
        obtain ⟨rfl, hrest⟩ := List.cons_prefix_cons.mp h
        have hp' : AllAscii p := (List.forall_mem_cons.mp hp).2
        refine List.cons_prefix_cons.mpr ⟨rfl, ?_⟩
        by_cases hm : more = []
        · exact ih hp' hk (by simpa [hm] using hrest)
        · rw [eq_nil_of_prefix_noAscii hp' hmore hm hrest]
          exact List.nil_prefix
    · rw [eq_nil_of_prefix_noAscii hp hno hne h]
      exact List.nil_prefix

/-- An ASCII text does not begin within the image of one character but at its start. -/
theorem infix_lowered_cons {p w : Text} {c : Char} (hp : AllAscii p) (hne : p ≠ [])
    (hc : ∀ x more, plainLower c = x :: more → NoAscii more) (h : p <:+: lowered (c :: w)) :
    p <+: lowered (c :: w) ∨ p <:+: lowered w := by
  rw [lowered_cons] at h ⊢
  cases himage : plainLower c with
  | nil => exact .inr (by simpa [himage] using h)
  | cons x more =>
    rw [himage, List.cons_append] at h
    rcases List.infix_cons_iff.mp h with h | h
    · exact .inl (by simpa using h)
    · right
      -- behind its first character the image leaves ASCII, so the text begins behind the image
      have hdisj : ∀ y ∈ more, y ∉ p := by
        intro y hy hyp
        have hno := hc x more himage y hy
        rw [hp y hyp] at hno
        cases hno
      by_cases hmore : more = []
      · simpa [hmore] using h
      · rcases infix_of_infix_append_middle (a := []) hmore hdisj h with h | h
        · exact absurd (List.infix_nil.mp h) hne
        · exact h

/-- An ASCII text in the image of a form of a keyword stands in the keyword. -/
theorem infix_of_infix_lowered_form {p k w : Text} (hp : AllAscii p) (hk : AllAscii k)
    (hw : IsForm k w) (h : p <:+: lowered w) : p <:+: k.map asciiLower := by
  by_cases hne : p = []
  · subst hne
    exact List.nil_infix
  induction hw with
  | nil => simpa using h
  | @cons a c k w hc hw ih =>
    have ha : isAscii a = true := hk a List.mem_cons_self
    have htail : ∀ x more, plainLower c = x :: more → NoAscii more := by
      intro x more himage
      rcases plainLower_of_isFormOf ha hc with ⟨more', hmore, himage'⟩ | ⟨-, hno⟩
      · obtain ⟨-, rfl⟩ := List.cons.inj (himage.symm.trans himage')
        exact hmore
      · rw [himage] at hno
        exact (List.forall_mem_cons.mp hno).2
    rcases infix_lowered_cons hp hne htail h with h | h
    · exact (prefix_of_prefix_lowered_form hp hk (.cons hc hw) h).isInfix
    · exact List.infix_cons (ih (List.forall_mem_cons.mp hk).2 h)

end QueryGate.Text
