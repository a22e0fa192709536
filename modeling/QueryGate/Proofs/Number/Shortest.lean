import QueryGate.Number.Decimal
import QueryGate.Proofs.Number.Rounding
import QueryGate.Proofs.Text.Digits
import Mathlib.Data.List.TakeWhile

/-! # The shortest digits of a number

The search for digits that read back as a given number ends with such digits (`shortest_spec`).
Every candidate but the last is tested.  The last one has 767 digits and is exact: the expansion of
a finite number in the binary format is no longer (`leadingExponent_le`). -/

namespace QueryGate

open Text Binary64

namespace Decimal

variable {num den : Nat}

/-! ## The first digit -/

theorem lt_pow_digitCount (n : Nat) : n < 10 ^ digitCount n :=
  (length_ofNat_le_iff (length_ofNat_pos n)).mp le_rfl

theorem pow_digitCount_le {n : Nat} (h : 0 < n) : 10 ^ (digitCount n - 1) ≤ n := by
  by_contra hlt
  rcases Nat.eq_zero_or_pos (digitCount n - 1) with hzero | hpos
  · rw [hzero] at hlt
    omega
  · have hle : digitCount n ≤ digitCount n - 1 :=
      (length_ofNat_le_iff hpos).mpr (Nat.lt_of_not_le hlt)
    omega

/-- The power of ten of the first digit does not exceed the ratio. -/
theorem zpow_leadingExponent_le (hnum : 0 < num) (hden : 0 < den) :
    (10 : ℚ) ^ leadingExponent num den ≤ num / den := by
  have hpos : (0 : ℚ) < den := by exact_mod_cast hden
  unfold leadingExponent
  split
  · rename_i h
    have hquot : 0 < num / den := Nat.div_pos h hden
    have hcount : 0 < digitCount (num / den) := length_ofNat_pos _
    rw [show (digitCount (num / den) : Int) - 1 = ((digitCount (num / den) - 1 : Nat) : Int) by
        omega, zpow_natCast, le_div_iff₀ hpos]
    have hle : 10 ^ (digitCount (num / den) - 1) * den ≤ num :=
      (Nat.le_div_iff_mul_le hden).mp (pow_digitCount_le hquot)
    exact_mod_cast hle
  · rw [zpow_neg, zpow_natCast, le_div_iff₀ hpos, inv_mul_le_iff₀ (by positivity)]
    have hlt : den - 1 < 10 ^ digitCount ((den - 1) / num) * num :=
      (Nat.div_lt_iff_lt_mul hnum).mp (lt_pow_digitCount _)
    have hle : den ≤ 10 ^ digitCount ((den - 1) / num) * num := by omega
    exact_mod_cast hle

theorem ratio_num_pos {m : Nat} (hm : m ≠ 0) (e : Int) : 0 < (ratio m e).1 := by
  unfold ratio
  split
  · exact Nat.pos_of_ne_zero hm
  · exact Nat.mul_pos (Nat.pos_of_ne_zero hm) (Nat.pow_pos (by decide))

theorem zpow_three_hundred_six_le : (10 : ℚ) ^ (306 : Int) ≤ 2 ^ (1021 : Int) := by
  calc (10 : ℚ) ^ (306 : Int) = (10 ^ (3 : Int)) ^ (102 : Int) := by rw [← zpow_mul]; rfl
    _ ≤ (2 ^ (10 : Int)) ^ (102 : Int) :=
        zpow_le_zpow_left₀ (by omega) (by norm_num) (by norm_num)
    _ = 2 ^ (1020 : Int) := by rw [← zpow_mul]; rfl
    _ ≤ 2 ^ (1021 : Int) := two_zpow_le.mpr (by omega)

/-- Below 1, a power of ten exceeds a power of two as far apart as the places of a number are. -/
theorem two_zpow_le_ten_zpow_of_neg {e : Int} (hmin : -1074 ≤ e) (h : e ≤ -768) :
    (2 : ℚ) ^ (53 + e) ≤ 10 ^ (768 + e) := by
  by_contra hgt
  have hpow : (10 : ℚ) ^ (768 + e) < 2 ^ (53 + e) := not_le.mp hgt
  -- the gap between the powers grows with the exponent, so the least exponent decides
  have hsmall : (2 : ℚ) ^ (1021 : Int) < 10 ^ (306 : Int) := by
    calc (2 : ℚ) ^ (1021 : Int) = 2 ^ (-53 - e) * 2 ^ (1074 + e) := by
          rw [← zpow_add₀ (by norm_num)]
          congr 1
          ring
      _ ≤ 2 ^ (-53 - e) * 10 ^ (1074 + e) :=
          mul_le_mul_of_nonneg_left (zpow_le_zpow_left₀ (by omega) (by norm_num) (by norm_num))
            (by positivity)
      _ = (2 ^ (53 + e))⁻¹ * 10 ^ (1074 + e) := by rw [← zpow_neg, neg_add']
      _ < (10 ^ (768 + e))⁻¹ * 10 ^ (1074 + e) :=
          mul_lt_mul_of_pos_right (inv_strictAnti₀ (by positivity) hpow) (by positivity)
      _ = 10 ^ (306 : Int) := by
          rw [← zpow_neg, ← zpow_add₀ (by norm_num)]
          congr 1
          omega
  exact absurd hsmall (not_lt.mpr zpow_three_hundred_six_le)

/-- The digits of a finite number end within 767 of the first one. -/
theorem leadingExponent_le {m : Nat} {e : Int} (h : (finite false m e).IsFinite) (hm : m ≠ 0) :
    leadingExponent (ratio m e).1 (ratio m e).2 ≤ 767 - (-e).toNat := by
  obtain ⟨hlt, hmin, hmax, -⟩ := h
  have hlow := zpow_leadingExponent_le (ratio_num_pos hm e) (ratio_den_pos m e)
  rw [ratio_value] at hlow
  have hupper := lt_two_zpow_of_lt hlt e
  by_contra hgt
  have hp : 768 - ((-e).toNat : Int) ≤ leadingExponent (ratio m e).1 (ratio m e).2 := by omega
  have hpow : (10 : ℚ) ^ (768 - ((-e).toNat : Int)) < 2 ^ (53 + e) :=
    (zpow_le_zpow_right₀ (by norm_num) hp).trans_lt (hlow.trans_lt hupper)
  unfold minExponent at hmin
  unfold maxExponent at hmax
  rcases le_total 0 (768 - ((-e).toNat : Int)) with hsign | hsign
  · have hexp := two_zpow_lt.mp ((two_zpow_le_ten_zpow hsign).trans_lt hpow)
    omega
  · have hneg : 768 - ((-e).toNat : Int) = 768 + e := by omega
    rw [hneg] at hpow
    exact absurd (two_zpow_le_ten_zpow_of_neg (by omega) (by omega)) (not_le.mpr hpow)

/-! ## The search -/

theorem headD_neighbours {s : Int} {n : Nat} (hden : 0 < (scaleUp num den (-s)).2)
    (h : (scaleUp num den (-s)).1 = n * (scaleUp num den (-s)).2) :
    (neighbours num den s).headD 0 = n := by
  have hquot : (scaleUp num den (-s)).1 / (scaleUp num den (-s)).2 = n := by
    rw [h, Nat.mul_div_cancel _ hden]
  have hround : roundDiv (scaleUp num den (-s)).1 (scaleUp num den (-s)).2 = n := by
    conv_rhs => rw [← roundDiv_one n]
    refine roundDiv_congr hden Nat.one_pos ?_
    rw [h, Nat.mul_one]
  simp only [neighbours, hquot, hround, if_true, List.headD_cons]

/-- If the last candidate fits, the search ends with one that does. -/
theorem firstFit_spec (fits : Nat → Int → Bool) {p : Int} {fuel count : Nat}
    (h : fits ((neighbours num den (p - (count + fuel))).headD 0) (p - (count + fuel)) = true) :
    ∃ n s, firstFit fits num den p fuel count = .ofScaled n s ∧ fits n s = true := by
  induction fuel generalizing count with
  | zero =>
    rw [Nat.cast_zero, add_zero] at h
    exact ⟨_, _, rfl, h⟩
  | succ fuel ih =>
    simp only [firstFit]
    split
    · rename_i n hfound
      exact ⟨n, p - count, rfl, by simpa using List.find?_some hfound⟩
    · refine ih ?_
      rw [Nat.cast_succ] at h ⊢
      rw [show (count : Int) + 1 + fuel = count + (fuel + 1) by ring]
      exact h

/-- A finite number whose digits end within 767 of the first one is a whole number of units of the
last of them. -/
theorem exists_units {m : Nat} {e p : Int} (hle : p ≤ 767 - (-e).toNat) :
    ∃ n, (ratio m e).1 * 10 ^ (767 - p).toNat = (ratio m e).2 * n := by
  refine Dvd.dvd.mul_left ?_ _
  unfold ratio
  split
  · have hten : 2 ^ e.natAbs ∣ 10 ^ e.natAbs := pow_dvd_pow_of_dvd (by decide) _
    exact hten.trans (pow_dvd_pow 10 (by omega))
  · exact one_dvd _

theorem units_value {m n : Nat} {e p : Int} (hp : p ≤ 767)
    (hn : (ratio m e).1 * 10 ^ (767 - p).toNat = (ratio m e).2 * n) :
    (n : ℚ) * 10 ^ (p - 767) = m * 2 ^ e := by
  rw [← ratio_value, eq_div_iff (by exact_mod_cast (ratio_den_pos m e).ne')]
  have hcast : ((ratio m e).1 : ℚ) * 10 ^ (767 - p).toNat = (ratio m e).2 * n := by
    exact_mod_cast hn
  have hpow : (10 : ℚ) ^ (767 - p).toNat * 10 ^ (p - 767) = 1 := by
    rw [← zpow_natCast, ← zpow_add₀ (by norm_num),
      show ((767 - p).toNat : Int) + (p - 767) = 0 by omega, zpow_zero]
  calc (n : ℚ) * 10 ^ (p - 767) * (ratio m e).2
      = ((ratio m e).2 * n) * 10 ^ (p - 767) := by ring
    _ = (ratio m e).1 * (10 ^ (767 - p).toNat * 10 ^ (p - 767)) := by rw [← hcast]; ring
    _ = (ratio m e).1 := by rw [hpow, mul_one]

/-- The last candidate is exact, and reads back as the number. -/
theorem lastCandidate_reads {m : Nat} {e p : Int} (h : (finite false m e).IsFinite) (hm : m ≠ 0)
    (hle : p ≤ 767 - (-e).toNat) :
    ofDecimal false ((neighbours (ratio m e).1 (ratio m e).2 (p - 767)).headD 0) (p - 767) =
      finite false m e := by
  obtain ⟨n, hn⟩ := exists_units (m := m) hle
  have hexact := units_value (by omega) hn
  have hscale : scaleUp (ratio m e).1 (ratio m e).2 (-(p - 767)) =
      ((ratio m e).1 * 10 ^ (767 - p).toNat, (ratio m e).2) := by
    unfold scaleUp
    rw [if_neg (by omega), Nat.pow_eq, show (-(p - 767)).natAbs = (767 - p).toNat by omega]
  have hhead : (neighbours (ratio m e).1 (ratio m e).2 (p - 767)).headD 0 = n := by
    refine headD_neighbours ?_ ?_
    · rw [hscale]
      exact ratio_den_pos m e
    · rw [hscale, hn, Nat.mul_comm]
  have hnonzero : n ≠ 0 := by
    rintro rfl
    rw [Nat.cast_zero, zero_mul] at hexact
    have hpos : (0 : ℚ) < m * 2 ^ e :=
      mul_pos (by exact_mod_cast Nat.pos_of_ne_zero hm) (by positivity)
    exact absurd hexact hpos.ne
  rw [hhead, ofDecimal_eq_ofRatio _ hnonzero, ← ofRatio_ratio h]
  refine ofRatio_congr _ (decimalRatio_den_pos _ _) (ratio_den_pos m e) ?_
  rw [decimalRatio_value, ratio_value, hexact]

/-- The shortest digits of a positive number read back as the number. -/
theorem shortest_spec {m : Nat} {e : Int} (h : (finite false m e).IsFinite) (hm : m ≠ 0) :
    ∃ n s, shortest m e = .ofScaled n s ∧ n ≠ 0 ∧ ofDecimal false n s = finite false m e := by
  -- an earlier candidate may fit, and the last one does
  obtain ⟨p, hp⟩ : ∃ p, p = leadingExponent (ratio m e).1 (ratio m e).2 := ⟨_, rfl⟩
  have hlast : (ofDecimal false
      ((neighbours (ratio m e).1 (ratio m e).2 (p - ((0 : Nat) + (767 : Nat)))).headD 0)
      (p - ((0 : Nat) + (767 : Nat))) == finite false m e) = true := by
    rw [Nat.cast_zero, zero_add, beq_iff_eq]
    exact lastCandidate_reads h hm (hp ▸ leadingExponent_le h hm)
  obtain ⟨n, s, hfit, hn⟩ :=
    firstFit_spec (fun n s => ofDecimal false n s == finite false m e) hlast
  have hreads : ofDecimal false n s = finite false m e := beq_iff_eq.mp hn
  refine ⟨n, s, ?_, ?_, hreads⟩
  · rw [hp] at hfit
    rw [shortest, if_neg hm]
    exact hfit
  · rintro rfl
    rw [ofDecimal, if_pos rfl] at hreads
    cases hreads
    exact hm rfl

/-! ## The digits -/

namespace Digits

/-- Digits that are those of a positive number. -/
structure IsNumeral (d : Digits) : Prop where
  ne_nil : d.digits ≠ []
  allDigits : AllDigits d.digits
  no_zero : d.digits.head? ≠ some '0'
  toNat_ne_zero : toNat d.digits ≠ 0

/-- The number that digits stand for. -/
def value (d : Digits) : ℚ := toNat d.digits * 10 ^ (d.exponent + 1 - d.digits.length)

/-- A text of digits is what is left of it without the zeros at its end, and these zeros. -/
theorem eq_kept_append_zeros (s : Text) :
    ∃ k, s = (s.reverse.dropWhile (· = '0')).reverse ++ List.replicate k '0' := by
  have hzeros : s.reverse.takeWhile (· = '0') =
      List.replicate (s.reverse.takeWhile (· = '0')).length '0' := by
    refine List.eq_replicate_of_mem ?_
    intro c hc
    simpa using List.mem_takeWhile_imp hc
  refine ⟨(s.reverse.takeWhile (· = '0')).length, ?_⟩
  have hsplit : s.reverse.takeWhile (· = '0') ++ s.reverse.dropWhile (· = '0') = s.reverse :=
    List.takeWhile_append_dropWhile
  calc s = s.reverse.reverse := (List.reverse_reverse s).symm
    _ = (s.reverse.dropWhile (· = '0')).reverse ++ (s.reverse.takeWhile (· = '0')).reverse := by
        rw [← List.reverse_append, hsplit]
    _ = (s.reverse.dropWhile (· = '0')).reverse ++
          List.replicate (s.reverse.takeWhile (· = '0')).length '0' := by
        conv_lhs => rw [hzeros]
        rw [List.reverse_replicate]

/-- The digits of a scaled number are those of the number without the zeros at their end. -/
theorem ofScaled_digits {n : Nat} (hn : n ≠ 0) (s : Int) :
    ∃ k, ofNat n = (ofScaled n s).digits ++ List.replicate k '0' ∧ (ofScaled n s).digits ≠ [] ∧
      (ofScaled n s).exponent = s + ((ofScaled n s).digits.length + k) - 1 := by
  obtain ⟨k, hall⟩ := eq_kept_append_zeros (ofNat n)
  obtain ⟨kept, hkept⟩ : ∃ kept, kept = ((ofNat n).reverse.dropWhile (· = '0')).reverse := ⟨_, rfl⟩
  rw [← hkept] at hall
  have hne : kept ≠ [] := by
    intro hnil
    rw [hnil, List.nil_append] at hall
    cases k with
    | zero => exact ofNat_ne_nil n hall
    | succ k => exact head?_ofNat_ne_zero (Nat.pos_of_ne_zero hn) (by rw [hall]; rfl)
  have hdigits : (ofScaled n s).digits = kept := by
    have hempty : kept.isEmpty = false := by simpa using hne
    simp only [ofScaled, ← hkept, hempty, Bool.false_eq_true, if_false]
  refine ⟨k, by rw [hdigits]; exact hall, by rw [hdigits]; exact hne, ?_⟩
  rw [hdigits]
  show s + ((ofNat n).length : Int) - 1 = _
  rw [hall]
  simp

theorem allDigits_ofScaled (n : Nat) (s : Int) : AllDigits (ofScaled n s).digits := by
  obtain ⟨k, hall⟩ := eq_kept_append_zeros (ofNat n)
  have h := allDigits_ofNat n
  rw [hall] at h
  simp only [ofScaled]
  split
  · exact List.forall_mem_singleton.mpr (by decide)
  · exact (allDigits_append.mp h).1

theorem ofScaled_spec {n : Nat} (hn : n ≠ 0) (s : Int) :
    (ofScaled n s).IsNumeral ∧ (ofScaled n s).value = n * 10 ^ s := by
  obtain ⟨k, hall, hne, hexponent⟩ := ofScaled_digits hn s
  have hnat : toNat (ofScaled n s).digits * 10 ^ k = n := by
    have h := toNat_ofNat n
    rw [hall, toNat_append, List.length_replicate, toNat_replicate_zero, Nat.add_zero] at h
    exact h
  refine ⟨⟨hne, allDigits_ofScaled n s, ?_, ?_⟩, ?_⟩
  · intro h
    have hhead := head?_ofNat_ne_zero (Nat.pos_of_ne_zero hn)
    rw [hall, List.head?_append_of_ne_nil _ hne] at hhead
    exact hhead h
  · intro hzero
    rw [hzero, Nat.zero_mul] at hnat
    exact hn hnat.symm
  · rw [value, hexponent,
      show s + (((ofScaled n s).digits.length : Int) + k) - 1 + 1 - (ofScaled n s).digits.length =
        k + s by ring,
      zpow_add₀ (by norm_num), zpow_natCast, ← mul_assoc]
    congr 1
    exact_mod_cast hnat

end Digits

theorem allDigits_firstFit (fits : Nat → Int → Bool) (num den : Nat) (p : Int) (fuel count : Nat) :
    AllDigits (firstFit fits num den p fuel count).digits := by
  induction fuel generalizing count with
  | zero => exact Digits.allDigits_ofScaled _ _
  | succ fuel ih =>
    simp only [firstFit]
    split
    · exact Digits.allDigits_ofScaled _ _
    · exact ih (count + 1)

theorem allDigits_shortest (m : Nat) (e : Int) : AllDigits (shortest m e).digits := by
  rw [shortest]
  split
  · exact List.forall_mem_singleton.mpr (by decide)
  · exact allDigits_firstFit _ _ _ _ _ _

/-- The shortest digits of a positive number have a value that is read as the number. -/
theorem shortest_reads {m : Nat} {e : Int} (h : (finite false m e).IsFinite) (hm : m ≠ 0) :
    (shortest m e).IsNumeral ∧ ∀ (negative : Bool) (n : Nat) (s : Int), n ≠ 0 →
      (n : ℚ) * 10 ^ s = (shortest m e).value → ofDecimal negative n s = finite negative m e := by
  obtain ⟨k, t, hshort, hk, hreads⟩ := shortest_spec h hm
  obtain ⟨hnumeral, hvalue⟩ := Digits.ofScaled_spec hk t
  rw [hshort]
  refine ⟨hnumeral, ?_⟩
  intro negative n s hn hsame
  rw [ofDecimal_congr negative hn hk (hsame.trans hvalue)]
  exact ofDecimal_sign hk hreads

end Decimal

end QueryGate
