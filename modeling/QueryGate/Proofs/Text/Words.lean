import QueryGate.Proofs.Text.Blanks
import QueryGate.Proofs.Text.Lowering

/-! # Words of a text

A keyword stands as a word where one of its forms stands between characters that belong to no word
(`WordBetween`).  Such a place lies on one side of every gap of other characters
(`split_at_gap`), so a text put together from words with gaps between them lacks a keyword if each
of its parts does (`Lacks.append_gap`). -/

namespace QueryGate.Text

/-! ## Classes of characters -/

theorem inRanges_eq_true_iff {ranges : List (Nat × Nat)} {c : Char} :
    inRanges ranges c = true ↔ ∃ r ∈ ranges, r.1 ≤ c.toNat ∧ c.toNat ≤ r.2 := by
  simp [inRanges]

/-- No blank belongs to a word. -/
theorem isWord_of_isBlank {c : Char} (h : isBlank c = true) : isWord c = false := by
  cases hascii : isAscii c with
  | true =>
    exact of_isAscii (P := fun c => isBlank c = true → isWord c = false) (by decide) hascii h
  | false =>
    have hapart : ∀ b ∈ blankRanges, ∀ r ∈ wordRanges, b.2 < r.1 ∨ r.2 < b.1 := by decide +kernel
    simp only [isBlank, hascii, Bool.false_eq_true, if_false] at h
    obtain ⟨b, hb, hlow, hhigh⟩ := inRanges_eq_true_iff.mp h
    rw [isWord, if_neg (by simp [hascii]), Bool.eq_false_iff, ne_eq, inRanges_eq_true_iff]
    rintro ⟨r, hr, hlow', hhigh'⟩
    rcases hapart b hb r hr with h | h <;> omega

theorem isBlank_of_isWord {c : Char} (h : isWord c = true) : isBlank c = false := by
  cases hblank : isBlank c with
  | false => rfl
  | true =>
    rw [isWord_of_isBlank hblank] at h
    cases h

/-- Decimal digits belong to words. -/
theorem isWord_of_isDigit {c : Char} (h : isDigit c = true) : isWord c = true := by
  cases hascii : isAscii c with
  | true =>
    exact of_isAscii (P := fun c => isDigit c = true → isWord c = true) (by decide) hascii h
  | false =>
    have hall : (digitRanges.all fun d => wordRanges.any fun r =>
        Nat.ble r.1 d.1 && Nat.ble d.2 r.2) = true := by decide +kernel
    have hinside : ∀ d ∈ digitRanges, ∃ r ∈ wordRanges, r.1 ≤ d.1 ∧ d.2 ≤ r.2 := by
      intro d hd
      obtain ⟨r, hr, hle⟩ := List.any_eq_true.mp (List.all_eq_true.mp hall d hd)
      rw [Bool.and_eq_true, Nat.ble_eq, Nat.ble_eq] at hle
      exact ⟨r, hr, hle⟩
    simp only [isDigit, hascii, Bool.false_eq_true, if_false] at h
    obtain ⟨d, hd, hlow, hhigh⟩ := inRanges_eq_true_iff.mp h
    obtain ⟨r, hr, hlow', hhigh'⟩ := hinside d hd
    rw [isWord, if_neg (by simp [hascii]), inRanges_eq_true_iff]
    exact ⟨r, hr, by omega, by omega⟩

theorem asciiLower_of_not_isAscii {c : Char} (h : isAscii c = false) : asciiLower c = c := by
  rcases asciiLower_cases c with ⟨-, hhigh, -⟩ | ⟨-, hself⟩
  · rw [isAscii, decide_eq_false_iff_not] at h
    omega
  · exact hself

/-- A function that agrees on the two cases of every ASCII letter does not see lower case. -/
theorem asciiLower_alike {β : Type} {f : Char → β}
    (h : ∀ n < 128, f (asciiLower (Char.ofNat n)) = f (Char.ofNat n)) (c : Char) :
    f (asciiLower c) = f c := by
  cases hascii : isAscii c with
  | true => exact of_isAscii (P := fun c => f (asciiLower c) = f c) h hascii
  | false => rw [asciiLower_of_not_isAscii hascii]

theorem isWord_asciiLower (c : Char) : isWord (asciiLower c) = isWord c :=
  asciiLower_alike (by decide) c

/-- A function that agrees moreover on the forms outside ASCII agrees on all forms of a letter. -/
theorem isFormOf_alike {β : Type} {f : Char → β}
    (hlower : ∀ n < 128, f (asciiLower (Char.ofNat n)) = f (Char.ofNat n))
    (houter : f (Char.ofNat 0x17F) = f 's' ∧ f (Char.ofNat 0x212A) = f 'k' ∧
      f (Char.ofNat 0x130) = f 'i' ∧ f (Char.ofNat 0x131) = f 'i')
    {a c : Char} (h : isFormOf a c = true) : f c = f a := by
  obtain ⟨hs, hk, hdotted, hdotless⟩ := houter
  rw [← asciiLower_alike hlower a]
  rcases Bool.or_eq_true _ _ ▸ h with h | h
  · rw [eq_of_beq h, asciiLower_alike hlower]
  · split at h
    · rename_i ha
      rw [ha, eq_of_toNat_eq (eq_of_beq h), ← hs]
    · rename_i ha
      rw [ha, eq_of_toNat_eq (eq_of_beq h), ← hk]
    · rename_i ha
      rw [ha]
      rcases Bool.or_eq_true _ _ ▸ h with h | h
      · rw [eq_of_toNat_eq (eq_of_beq h), ← hdotted]
      · rw [eq_of_toNat_eq (eq_of_beq h), ← hdotless]
    · cases h

/-- The forms of a letter belong to words as the letter does. -/
theorem isWord_of_isFormOf {a c : Char} (h : isFormOf a c = true) : isWord c = isWord a :=
  isFormOf_alike (f := isWord) (by decide) (by decide +kernel) h

/-- Only a blank has a blank among its forms. -/
theorem isBlank_of_isFormOf {a c : Char} (h : isFormOf a c = true) : isBlank c = isBlank a :=
  isFormOf_alike (f := isBlank) (by decide) (by decide) h

theorem eq_of_asciiLower_eq {a c : Char} (ha : a.toNat < 97) (h : asciiLower c = a) : c = a := by
  rcases asciiLower_cases c with ⟨hlow, -, himage⟩ | ⟨-, hself⟩
  · rw [h] at himage
    omega
  · exact hself.symm.trans h

/-- A character that is no letter has no form but itself. -/
theorem eq_of_isFormOf {a c : Char} (ha : a.toNat < 65) (h : isFormOf a c = true) : c = a := by
  have hself : asciiLower a = a := by
    rcases asciiLower_cases a with ⟨hlow, -⟩ | ⟨-, hself⟩
    · omega
    · exact hself
  have hletter : a ≠ 's' ∧ a ≠ 'k' ∧ a ≠ 'i' := by
    refine ⟨?_, ?_, ?_⟩ <;> rintro rfl <;> exact absurd ha (by decide)
  rw [isFormOf, hself] at h
  rcases Bool.or_eq_true _ _ ▸ h with h | h
  · exact eq_of_asciiLower_eq (by omega) (eq_of_beq h).symm
  · split at h
    · exact absurd rfl hletter.1
    · exact absurd rfl hletter.2.1
    · exact absurd rfl hletter.2.2
    · cases h

/-- No character is a form of two letters. -/
theorem asciiLower_eq_of_isFormOf {a b c : Char} (ha : isAscii a = true) (hb : isAscii b = true)
    (hac : isFormOf a c = true) (hbc : isFormOf b c = true) : asciiLower a = asciiLower b := by
  -- a form is the letter itself, or it lies outside ASCII and names its letter
  have hcases : ∀ x, isAscii x = true → isFormOf x c = true → asciiLower x = asciiLower c ∨
      (isAscii c = false ∧ asciiLower x =
        if c.toNat = 0x17F then 's' else if c.toNat = 0x212A then 'k' else 'i') := by
    intro x _ h
    rcases Bool.or_eq_true _ _ ▸ h with h | h
    · exact .inl (eq_of_beq h)
    · right
      split at h
      · rename_i hs
        have hc : c.toNat = 0x17F := by simpa using h
        exact ⟨by simp [isAscii, hc], by rw [hs, if_pos hc]⟩
      · rename_i hk
        have hc : c.toNat = 0x212A := by simpa using h
        exact ⟨by simp [isAscii, hc], by rw [hk, if_neg (by omega), if_pos hc]⟩
      · rename_i hi
        have hc : c.toNat = 0x130 ∨ c.toNat = 0x131 := by simpa using h
        refine ⟨by rcases hc with hc | hc <;> simp [isAscii, hc], ?_⟩
        rw [hi, if_neg (by omega), if_neg (by omega)]
      · cases h
  rcases hcases a ha hac with h | ⟨hc, h⟩ <;> rcases hcases b hb hbc with h' | ⟨hc', h'⟩
  · rw [h, h']
  · rw [← isAscii_asciiLower, ← h, isAscii_asciiLower, ha] at hc'
    cases hc'
  · rw [← isAscii_asciiLower, ← h', isAscii_asciiLower, hb] at hc
    cases hc
  · rw [h, h']

/-! ## Words and gaps -/

/-- Characters of words only. -/
def AllWord (t : Text) : Prop := ∀ c ∈ t, isWord c = true

/-- Characters that belong to no word. -/
def NoWord (t : Text) : Prop := ∀ c ∈ t, isWord c = false

instance (t : Text) : Decidable (AllWord t) :=
  decidable_of_iff (t.all isWord = true) (by simp [AllWord])

instance (t : Text) : Decidable (NoWord t) :=
  decidable_of_iff (t.all (!isWord ·) = true) (by simp [NoWord])

instance (k w : Text) : Decidable (IsForm k w) := inferInstanceAs (Decidable (List.Forall₂ _ k w))

/-- No blank stands at the ends of a word. -/
theorem Trimmed.of_allWord {s : Text} (hs : AllWord s) : Trimmed s := by
  constructor
  · cases hhead : s.head? with
    | none => rfl
    | some x => exact isBlank_of_isWord (hs x (List.mem_of_head? hhead))
  · cases hlast : s.getLast? with
    | none => rfl
    | some x => exact isBlank_of_isWord (hs x (List.mem_of_getLast? hlast))

/-- Each character of a form is a form of some character of the keyword. -/
theorem IsForm.exists_mem {k w : Text} (hw : IsForm k w) {c : Char} (hc : c ∈ w) :
    ∃ a ∈ k, isFormOf a c = true := by
  induction hw with
  | nil => cases hc
  | @cons a d k w hd _ ih =>
    rcases List.mem_cons.mp hc with rfl | hc
    · exact ⟨a, List.mem_cons_self, hd⟩
    · obtain ⟨b, hb, hform⟩ := ih hc
      exact ⟨b, List.mem_cons_of_mem a hb, hform⟩

theorem IsForm.allWord {k w : Text} (hw : IsForm k w) (hk : AllWord k) : AllWord w := by
  intro c hc
  obtain ⟨a, ha, hform⟩ := hw.exists_mem hc
  exact (isWord_of_isFormOf hform).trans (hk a ha)

theorem IsForm.noWord {k w : Text} (hw : IsForm k w) (hk : NoWord k) : NoWord w := by
  intro c hc
  obtain ⟨a, ha, hform⟩ := hw.exists_mem hc
  exact (isWord_of_isFormOf hform).trans (hk a ha)

theorem IsForm.ne_nil {k w : Text} (hw : IsForm k w) (hk : k ≠ []) : w ≠ [] := by
  cases hw with
  | nil => exact absurd rfl hk
  | cons => simp

/-- A form of two keywords in a row. -/
theorem IsForm.exists_append {k k' w : Text} (h : IsForm (k ++ k') w) :
    ∃ u v, w = u ++ v ∧ IsForm k u ∧ IsForm k' v := by
  induction k generalizing w with
  | nil => exact ⟨[], w, rfl, .nil, h⟩
  | cons a k ih =>
    cases h with
    | @cons _ c _ w hc hw =>
      obtain ⟨u, v, rfl, hu, hv⟩ := ih hw
      exact ⟨c :: u, v, rfl, .cons hc hu, hv⟩

/-- Texts that begin with forms of two keywords differ if the keywords begin with two letters. -/
theorem IsForm.head_eq {a b : Char} {k k' w w' s t : Text} (ha : isAscii a = true)
    (hb : isAscii b = true) (hw : IsForm (a :: k) w) (hw' : IsForm (b :: k') w')
    (h : w ++ s = w' ++ t) : asciiLower a = asciiLower b := by
  cases hw with
  | cons hac _ =>
    cases hw' with
    | cons hbc _ =>
      obtain ⟨rfl, -⟩ := List.cons.inj h
      exact asciiLower_eq_of_isFormOf ha hb hac hbc

/-- If a form of one keyword stands in a form of another, the one stands in the other. -/
theorem IsForm.infix_of_infix {k o v w : Text} (hk : AllAscii k) (ho : AllAscii o)
    (hv : IsForm k v) (hw : IsForm o w) (h : w <:+: v) :
    o.map asciiLower <:+: k.map asciiLower := by
  obtain ⟨a, b, rfl⟩ := h
  have htake : IsForm (k.take (a ++ w).length) (a ++ w) := List.forall₂_take_append k (a ++ w) b hv
  have hdrop : IsForm ((k.take (a ++ w).length).drop a.length) w :=
    List.forall₂_drop_append _ a w htake
  have hsame : ∀ {m o w : Text}, AllAscii m → AllAscii o → IsForm m w → IsForm o w →
      m.map asciiLower = o.map asciiLower := by
    intro m o w hm ho hmw how
    induction hmw generalizing o with
    | nil =>
      cases how
      rfl
    | cons hc _ ih =>
      cases how with
      | cons hd how =>
        obtain ⟨hm, hms⟩ := List.forall_mem_cons.mp hm
        obtain ⟨ho, hos⟩ := List.forall_mem_cons.mp ho
        rw [List.map_cons, List.map_cons, asciiLower_eq_of_isFormOf hm ho hc hd, ih hms hos how]
  have hpart : (k.take (a ++ w).length).drop a.length <:+: k :=
    (List.drop_suffix _ _).isInfix.trans (List.take_prefix _ _).isInfix
  rw [← hsame (fun x hx => hk x (hpart.subset hx)) ho hdrop hw]
  exact hpart.map asciiLower

theorem noWord_of_blanks {t : Text} (h : ∀ c ∈ t, isBlank c = true) : NoWord t :=
  fun c hc => isWord_of_isBlank (h c hc)

/-- No word begins where a text without words does. -/
theorem NoWord.head?_isWord {t : Text} (h : NoWord t) : t.head?.any isWord = false := by
  cases t with
  | nil => rfl
  | cons c t => exact h c List.mem_cons_self

theorem IsBlanks.noWord {t : Text} (h : IsBlanks t) : NoWord t := noWord_of_blanks h.2

/-- No word begins where blanks do. -/
theorem IsBlanks.head?_isWord {g : Text} (h : IsBlanks g) (s : Text) :
    (g ++ s).head?.any isWord = false := by
  obtain ⟨c, hc, hblank⟩ := h.head? (s := s)
  rw [hc]
  exact isWord_of_isBlank hblank

/-- No word ends where blanks do. -/
theorem IsBlanks.getLast?_isWord {g : Text} (h : IsBlanks g) (s : Text) :
    (s ++ g).getLast?.any isWord = false := by
  obtain ⟨c, hc, hblank⟩ := h.getLast? (s := s)
  rw [hc]
  exact isWord_of_isBlank hblank

/-- A text of words ends at the first character that belongs to none. -/
theorem takeWhile_isWord_append {w s : Text} (hw : AllWord w) (hs : s.head?.any isWord = false) :
    (w ++ s).takeWhile isWord = w ∧ (w ++ s).dropWhile isWord = s := by
  rw [List.takeWhile_append_of_pos hw, List.dropWhile_append_of_pos hw]
  cases s with
  | nil => simp
  | cons c s =>
    have hc : isWord c = false := by simpa using hs
    simp [hc]

/-! ## Punctuation and keywords -/

/-- The marks that are read. -/
def punctuation : Text := ['\'', '"', '`', '[', ']', '(', ')', ',', '.', '*']

/-- Marks are neither blanks nor part of a word. -/
theorem punctuation_apart : ∀ c ∈ punctuation, isBlank c = false ∧ isWord c = false :=
  forall_mem_of_all (by decide)

theorem isBlank_of_mark {c : Char} (h : c ∈ punctuation) : isBlank c = false :=
  (punctuation_apart c h).1

theorem isWord_of_mark {c : Char} (h : c ∈ punctuation) : isWord c = false :=
  (punctuation_apart c h).2

theorem not_mark_of_isWord {c : Char} (h : isWord c = true) : c ∉ punctuation := by
  intro hc
  rw [isWord_of_mark hc] at h
  cases h

theorem not_mark_of_isBlank {c : Char} (h : isBlank c = true) : c ∉ punctuation := by
  intro hc
  rw [isBlank_of_mark hc] at h
  cases h

theorem not_mem_of_allWord {w : Text} (hw : AllWord w) {c : Char} (hc : c ∈ punctuation) :
    c ∉ w := fun hmem => not_mark_of_isWord (hw c hmem) hc

/-- The keywords that are read beside the plain quantifiers. -/
def keywords : List Text := [
  "SELECT".toList, "FROM".toList, "AS".toList, "TOP".toList, "PERCENT".toList, "WITH".toList,
  "TIES".toList]

theorem keywords_words : ∀ k ∈ keywords, k ≠ [] ∧ AllWord k := by decide

theorem IsForm.allWord_of_keyword {k w : Text} (hw : IsForm k w) (hk : k ∈ keywords) :
    AllWord w := hw.allWord (keywords_words k hk).2

theorem IsForm.ne_nil_of_keyword {k w : Text} (hw : IsForm k w) (hk : k ∈ keywords) : w ≠ [] :=
  hw.ne_nil (keywords_words k hk).1

/-- A keyword does not begin with a blank. -/
theorem IsForm.notBlank_of_keyword {k w : Text} (hw : IsForm k w) (hk : k ∈ keywords) (s : Text) :
    (w ++ s).head?.any isBlank = false := by
  have hword := hw.allWord_of_keyword hk
  cases w with
  | nil => exact absurd rfl (hw.ne_nil_of_keyword hk)
  | cons c w => exact isBlank_of_isWord (hword c List.mem_cons_self)

/-! ## Keywords as words -/

/-- The keyword `k` stands as a word between `a` and `b`, in the form `w`. -/
structure WordBetween (k a w b : Text) : Prop where
  form : IsForm k w
  before : a.getLast?.any isWord = false
  after : b.head?.any isWord = false

/-- A word of a text is a word of the part of it that it lies in. -/
theorem WordBetween.inside {k x a w b y : Text} (h : WordBetween k (x ++ a) w (b ++ y)) :
    WordBetween k a w b := by
  refine ⟨h.form, ?_, ?_⟩
  · have hbefore := h.before
    rw [List.getLast?_append] at hbefore
    cases hlast : a.getLast? with
    | none => rfl
    | some c => rwa [hlast, Option.some_or] at hbefore
  · cases b with
    | nil => rfl
    | cons c b => exact h.after

/-- A word stands on one side of a character that belongs to no word. -/
theorem split_at_char {s t a w b : Text} {c : Char} (hc : isWord c = false) (hw : AllWord w)
    (h : s ++ c :: t = a ++ (w ++ b)) :
    (∃ b', s = a ++ (w ++ b') ∧ b = b' ++ c :: t) ∨
      ∃ a', t = a' ++ (w ++ b) ∧ a = s ++ c :: a' := by
  have hmem : c ∉ w := by
    intro hcw
    rw [hw c hcw] at hc
    cases hc
  exact append_cons_eq_append_cases hmem h

/-- A word stands on one side of a gap. -/
theorem split_at_gap {s g t a w b : Text} (hgne : g ≠ []) (hg : NoWord g) (hne : w ≠ [])
    (hw : AllWord w) (h : s ++ (g ++ t) = a ++ (w ++ b)) :
    (∃ b', s = a ++ (w ++ b') ∧ b = b' ++ (g ++ t)) ∨
      ∃ a', t = a' ++ (w ++ b) ∧ a = s ++ (g ++ a') := by
  induction g generalizing s a with
  | nil => exact absurd rfl hgne
  | cons c g ih =>
    obtain ⟨hc, hg⟩ := List.forall_mem_cons.mp hg
    rcases split_at_char hc hw h with ⟨b', hs, hb⟩ | ⟨a', ht, ha⟩
    · exact .inl ⟨b', hs, hb⟩
    · cases g with
      | nil => exact .inr ⟨a', ht, ha⟩
      | cons d g =>
        rcases ih (s := []) (by simp) hg ht with ⟨b', hs, -⟩ | ⟨a'', ht', ha'⟩
        · -- nothing stands before the rest of the gap
          have hnil : w = [] := (List.append_eq_nil_iff.mp (List.append_eq_nil_iff.mp hs.symm).2).1
          exact absurd hnil hne
        · exact .inr ⟨a'', ht', by rw [ha, ha']; rfl⟩

/-- The keyword stands nowhere in the text as a word. -/
def Lacks (k s : Text) : Prop := ∀ a w b, s = a ++ (w ++ b) → ¬ WordBetween k a w b

namespace Lacks

variable {k s t g : Text}

theorem nil (hk : k ≠ []) : Lacks k [] := by
  intro a w b h hword
  have hnil : w = [] := (List.append_eq_nil_iff.mp (List.append_eq_nil_iff.mp h.symm).2).1
  exact hword.form.ne_nil hk hnil

theorem of_word (hs : AllWord s) (hform : ¬ IsForm k s) : Lacks k s := by
  rintro a w b rfl ⟨hw, hbefore, hafter⟩
  have ha : a = [] := by
    cases hlast : a.getLast? with
    | none => simpa using hlast
    | some c =>
      rw [hlast, Option.any_some, hs c (by simp [List.mem_of_getLast? hlast])] at hbefore
      cases hbefore
  have hb : b = [] := by
    cases b with
    | nil => rfl
    | cons c b =>
      rw [List.head?_cons, Option.any_some, hs c (by simp)] at hafter
      cases hafter
  subst ha hb
  exact hform (by simpa using hw)

theorem append_gap (hk : k ≠ []) (hword : AllWord k) (hgne : g ≠ []) (hg : NoWord g)
    (hs : Lacks k s) (ht : Lacks k t) : Lacks k (s ++ (g ++ t)) := by
  intro a w b h hw
  rcases split_at_gap hgne hg (hw.form.ne_nil hk) (hw.form.allWord hword) h with
    ⟨b', hs', rfl⟩ | ⟨a', ht', rfl⟩
  · exact hs a w b' hs' (hw.inside (x := []))
  · have hinside : WordBetween k (s ++ g ++ a') w (b ++ []) := by simpa using hw
    exact ht a' w b ht' hinside.inside

end Lacks

end QueryGate.Text
