import QueryGate.Text.WordClass
import Mathlib.Tactic.IntervalCases

/-! # Decimal digits

`ofNat` writes a number and `toNat` reads it again.  A number below `10 ^ w` fills up to exactly
`w` digits (`padZeros_ofNat`): these `figures` read back as the number, and their order as texts is
that of the numbers (`le_figures_append`). -/

namespace QueryGate.Text

/-- A text of ASCII digits. -/
def AllDigits (s : Text) : Prop := ∀ c ∈ s, isAsciiDigit c = true

theorem isAsciiDigit_digitChar {d : Nat} (h : d < 10) : isAsciiDigit (Nat.digitChar d) = true := by
  interval_cases d <;> decide

theorem allDigits_append {s t : Text} : AllDigits (s ++ t) ↔ AllDigits s ∧ AllDigits t :=
  List.forall_mem_append

theorem allDigits_replicate_zero (n : Nat) : AllDigits (List.replicate n '0') := by
  intro c hc
  rw [List.eq_of_mem_replicate hc]
  decide

theorem allDigits_padZeros {s : Text} (h : AllDigits s) (w : Nat) : AllDigits (padZeros w s) :=
  allDigits_append.mpr ⟨allDigits_replicate_zero _, h⟩

/-! ## Reading digits -/

theorem toNat_eq_ofDigitChars (s : Text) : toNat s = Nat.ofDigitChars 10 s 0 := rfl

@[simp] theorem toNat_ofNat (n : Nat) : toNat (ofNat n) = n := Nat.ofDigitChars_ten_toDigits

theorem ofNat_inj {m n : Nat} : ofNat m = ofNat n ↔ m = n :=
  (Function.LeftInverse.injective toNat_ofNat).eq_iff

theorem toNat_append (s t : Text) : toNat (s ++ t) = toNat s * 10 ^ t.length + toNat t := by
  rw [toNat_eq_ofDigitChars, Nat.ofDigitChars_append, Nat.ofDigitChars_eq_ofDigitChars_zero,
    Nat.mul_comm]
  rfl

theorem toNat_singleton_digitChar {d : Nat} (h : d < 10) : toNat [Nat.digitChar d] = d := by
  rw [toNat_eq_ofDigitChars, Nat.ofDigitChars_cons_digitChar_of_lt_ten h]
  simp

@[simp] theorem toNat_replicate_zero (n : Nat) : toNat (List.replicate n '0') = 0 := by
  rw [toNat_eq_ofDigitChars, Nat.ofDigitChars_replicate_zero, Nat.mul_zero]

/-! ## Written numbers -/

theorem ofNat_ne_nil (n : Nat) : ofNat n ≠ [] := Nat.toDigits_ne_nil

theorem ofNat_eq (n : Nat) :
    ofNat n = (if n < 10 then [] else ofNat (n / 10)) ++ [Nat.digitChar (n % 10)] := by
  unfold ofNat
  rw [Nat.toDigits_eq_if (by decide)]
  split
  · rename_i h
    rw [Nat.mod_eq_of_lt h, List.nil_append]
  · rfl

theorem allDigits_ofNat (n : Nat) : AllDigits (ofNat n) := by
  induction n using Nat.strongRecOn with
  | ind n ih =>
    rw [ofNat_eq, allDigits_append]
    refine ⟨?_, ?_⟩
    · split
      · simp [AllDigits]
      · exact ih (n / 10) (by omega)
    · intro c hc
      rw [List.mem_singleton.mp hc]
      exact isAsciiDigit_digitChar (Nat.mod_lt n (by decide))

/-- No zero stands in front of a positive number. -/
theorem head?_ofNat_ne_zero {n : Nat} (h : 0 < n) : (ofNat n).head? ≠ some '0' := by
  induction n using Nat.strongRecOn with
  | ind n ih =>
    rw [ofNat_eq]
    split
    · have hlt : n % 10 < 10 := Nat.mod_lt n (by decide)
      have hpos : 0 < n % 10 := by omega
      generalize n % 10 = d at hlt hpos
      interval_cases d <;> decide
    · have hfirst := ih (n / 10) (by omega) (by omega)
      cases hdigits : ofNat (n / 10) with
      | nil => exact absurd hdigits (ofNat_ne_nil _)
      | cons c t => simpa [hdigits] using hfirst

theorem length_ofNat_le_iff {n k : Nat} (hk : 0 < k) : (ofNat n).length ≤ k ↔ n < 10 ^ k :=
  Nat.length_toDigits_le_iff (by decide) hk

theorem length_ofNat_pos (n : Nat) : 0 < (ofNat n).length := Nat.length_toDigits_pos

/-! ## Numbers of a fixed length -/

/-- The last `w` digits of a number, with zeros in front. -/
def figures : Nat → Nat → Text
  | 0, _ => []
  | w + 1, n => figures w (n / 10) ++ [Nat.digitChar (n % 10)]

@[simp] theorem length_figures (w n : Nat) : (figures w n).length = w := by
  induction w generalizing n with
  | zero => rfl
  | succ w ih => simp [figures, ih]

theorem allDigits_figures (w n : Nat) : AllDigits (figures w n) := by
  induction w generalizing n with
  | zero => simp [AllDigits, figures]
  | succ w ih =>
    rw [figures, allDigits_append]
    refine ⟨ih (n / 10), ?_⟩
    intro c hc
    rw [List.mem_singleton.mp hc]
    exact isAsciiDigit_digitChar (Nat.mod_lt n (by decide))

theorem toNat_figures {w n : Nat} (h : n < 10 ^ w) : toNat (figures w n) = n := by
  induction w generalizing n with
  | zero =>
    have hzero : n = 0 := by simpa using h
    rw [hzero]
    rfl
  | succ w ih =>
    have hlt : n / 10 < 10 ^ w := by
      rw [Nat.pow_succ] at h
      omega
    rw [figures, toNat_append, ih hlt, toNat_singleton_digitChar (Nat.mod_lt n (by decide))]
    simp only [List.length_singleton, Nat.pow_one]
    omega

/-- A number that is short enough fills up to its figures. -/
theorem padZeros_ofNat {w n : Nat} (hw : 0 < w) (h : n < 10 ^ w) :
    padZeros w (ofNat n) = figures w n := by
  induction w generalizing n with
  | zero => omega
  | succ w ih =>
    rw [figures]
    by_cases hsmall : n < 10
    · have hone : ofNat n = [Nat.digitChar (n % 10)] := by
        rw [ofNat_eq, if_pos hsmall, List.nil_append]
      have hzeros : figures w (n / 10) = List.replicate w '0' := by
        rw [Nat.div_eq_of_lt hsmall]
        clear ih h hw
        induction w with
        | zero => rfl
        | succ w ih => rw [figures, Nat.zero_div, ih, List.replicate_succ']; rfl
      rw [padZeros, hone, hzeros]
      rfl
    · have hlt : n / 10 < 10 ^ w := by
        rw [Nat.pow_succ] at h
        omega
      have hwpos : 0 < w := by
        rcases Nat.eq_zero_or_pos w with rfl | hwpos
        · simp at h
          omega
        · exact hwpos
      rw [← ih hwpos hlt, ofNat_eq n, if_neg hsmall, padZeros, padZeros]
      simp

theorem digitChar_lt_iff {a b : Nat} (ha : a < 10) (hb : b < 10) :
    Nat.digitChar a < Nat.digitChar b ↔ a < b := by
  interval_cases a <;> interval_cases b <;> decide

theorem digitChar_inj {a b : Nat} (ha : a < 10) (hb : b < 10) :
    Nat.digitChar a = Nat.digitChar b ↔ a = b := by
  interval_cases a <;> interval_cases b <;> decide

/-- Texts that begin with figures are in the order of the numbers, and of what follows if the
numbers are the same. -/
theorem le_figures_append {w n m : Nat} (hn : n < 10 ^ w) (hm : m < 10 ^ w) (s t : Text) :
    le (figures w n ++ s) (figures w m ++ t) = true ↔ n < m ∨ (n = m ∧ le s t = true) := by
  induction w generalizing n m s t with
  | zero =>
    have hn' : n = 0 := by simpa using hn
    have hm' : m = 0 := by simpa using hm
    simp [figures, hn', hm']
  | succ w ih =>
    have hn' : n / 10 < 10 ^ w := by
      rw [Nat.pow_succ] at hn
      omega
    have hm' : m / 10 < 10 ^ w := by
      rw [Nat.pow_succ] at hm
      omega
    have hnd : n % 10 < 10 := Nat.mod_lt n (by decide)
    have hmd : m % 10 < 10 := Nat.mod_lt m (by decide)
    rw [figures, figures, List.append_assoc, List.append_assoc, ih hn' hm', List.singleton_append,
      List.singleton_append, le]
    by_cases hlast : n % 10 = m % 10
    · rw [if_pos ((digitChar_inj hnd hmd).mpr hlast)]
      constructor
      · rintro (h | ⟨h, hle⟩)
        · exact .inl (by omega)
        · exact .inr ⟨by omega, hle⟩
      · rintro (h | ⟨h, hle⟩)
        · exact .inl (by omega)
        · exact .inr ⟨by omega, hle⟩
    · rw [if_neg (mt (digitChar_inj hnd hmd).mp hlast), decide_eq_true_eq, digitChar_lt_iff hnd hmd]
      omega

end QueryGate.Text
