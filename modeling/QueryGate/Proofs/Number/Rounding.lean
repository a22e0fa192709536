import QueryGate.Number.Binary64
import Mathlib.Tactic.FieldSimp
import Mathlib.Tactic.Linarith
import Mathlib.Tactic.NormNum
import Mathlib.Tactic.Positivity
import Mathlib.Tactic.Ring
import Mathlib.Algebra.Order.Field.Power
import Mathlib.Data.Rat.Cast.Order

/-! # Rounding to the binary format

The number nearest to a ratio depends on the value of the ratio only (`ofRatio_congr`), and a finite
number is the one nearest to its own value (`ofRatio_ratio`).  The powers of ten that are decided
without being computed are decided as the computation would decide them
(`ofDecimal_eq_ofRatio`), so the number nearest to a decimal depends on the value of the decimal
only (`ofDecimal_congr`). -/

namespace QueryGate.Binary64

variable {num den num' den' : Nat}

/-! ## Ratios -/

theorem roundDiv_mul_right (a b : Nat) {k : Nat} (hk : 0 < k) :
    roundDiv (a * k) (b * k) = roundDiv a b := by
  have hlt : ∀ x y : Nat, x * k < y * k ↔ x < y := fun x y => Nat.mul_lt_mul_right hk
  unfold roundDiv
  simp only [Nat.mul_div_mul_right _ _ hk, Nat.mul_mod_mul_right, ← Nat.mul_assoc, hlt]

theorem roundDiv_congr (hden : 0 < den) (hden' : 0 < den') (h : num * den' = num' * den) :
    roundDiv num den = roundDiv num' den' := by
  rw [← roundDiv_mul_right num den hden', ← roundDiv_mul_right num' den' hden, h,
    Nat.mul_comm den den']

theorem roundDiv_of_small {a b : Nat} (h : 2 * a < b) : roundDiv a b = 0 := by
  have hlt : a < b := by omega
  simp only [roundDiv, Nat.mod_eq_of_lt hlt, h, if_true, Nat.div_eq_of_lt hlt]

theorem roundDiv_one (a : Nat) : roundDiv a 1 = a := by simp [roundDiv, Nat.mod_one]

theorem scaleDown_den_pos (hden : 0 < den) (e : Int) : 0 < (scaleDown num den e).2 := by
  unfold scaleDown
  split
  · exact hden
  · exact Nat.mul_pos hden (Nat.pow_pos (by decide))

/-- The value of a scaled ratio. -/
theorem scaleDown_value (num den : Nat) (e : Int) :
    ((scaleDown num den e).1 : ℚ) / (scaleDown num den e).2 = num / den / 2 ^ e := by
  unfold scaleDown
  split
  · rename_i h
    have habs : e = -(e.natAbs : Int) := by omega
    conv_rhs => rw [habs]
    simp only [Nat.pow_eq, Nat.cast_mul, Nat.cast_pow, Nat.cast_ofNat, zpow_neg, zpow_natCast,
      div_inv_eq_mul]
    ring
  · rename_i h
    have habs : e = (e.natAbs : Int) := by omega
    conv_rhs => rw [habs]
    simp only [Nat.pow_eq, Nat.cast_mul, Nat.cast_pow, Nat.cast_ofNat, zpow_natCast]
    rw [div_div]

theorem cross_of_value_eq (hden : 0 < den) (hden' : 0 < den')
    (h : (num : ℚ) / den = (num' : ℚ) / den') : num * den' = num' * den := by
  have hne : (den : ℚ) ≠ 0 := by exact_mod_cast hden.ne'
  have hne' : (den' : ℚ) ≠ 0 := by exact_mod_cast hden'.ne'
  have hcross : (num : ℚ) * den' = num' * den := (div_eq_div_iff hne hne').mp h
  exact_mod_cast hcross

/-! ## The exponent -/

theorem two_zpow_lt {a b : Int} : (2 : ℚ) ^ a < 2 ^ b ↔ a < b :=
  zpow_lt_zpow_iff_right₀ (by norm_num)

theorem two_zpow_le {a b : Int} : (2 : ℚ) ^ a ≤ 2 ^ b ↔ a ≤ b :=
  zpow_le_zpow_iff_right₀ (by norm_num)

/-- A positive natural number lies between two powers of two. -/
theorem log2_bounds {n : Nat} (h : 0 < n) :
    (2 : ℚ) ^ (n.log2 : Int) ≤ n ∧ (n : ℚ) < 2 ^ ((n.log2 : Int) + 1) := by
  have hlow : 2 ^ n.log2 ≤ n := Nat.log2_self_le h.ne'
  have hhigh : n < 2 ^ (n.log2 + 1) := Nat.lt_log2_self
  refine ⟨?_, ?_⟩
  · rw [zpow_natCast]
    exact_mod_cast hlow
  · rw [show (n.log2 : Int) + 1 = ((n.log2 + 1 : Nat) : Int) by norm_cast, zpow_natCast]
    exact_mod_cast hhigh

theorem value_bounds (hnum : 0 < num) (hden : 0 < den) :
    (2 : ℚ) ^ ((num.log2 : Int) - den.log2 - 1) < num / den ∧
      (num : ℚ) / den < 2 ^ ((num.log2 : Int) - den.log2 + 1) := by
  obtain ⟨hnlow, hnhigh⟩ := log2_bounds hnum
  obtain ⟨hdlow, hdhigh⟩ := log2_bounds hden
  have hpos : (0 : ℚ) < den := by exact_mod_cast hden
  refine ⟨?_, ?_⟩
  · rw [lt_div_iff₀ hpos]
    calc (2 : ℚ) ^ ((num.log2 : Int) - den.log2 - 1) * den
        < 2 ^ ((num.log2 : Int) - den.log2 - 1) * 2 ^ ((den.log2 : Int) + 1) :=
          mul_lt_mul_of_pos_left hdhigh (by positivity)
      _ = 2 ^ (num.log2 : Int) := by
          rw [← zpow_add₀ (by norm_num)]
          congr 1
          ring
      _ ≤ num := hnlow
  · rw [div_lt_iff₀ hpos]
    calc (num : ℚ) < 2 ^ ((num.log2 : Int) + 1) := hnhigh
      _ = 2 ^ ((num.log2 : Int) - den.log2 + 1) * 2 ^ (den.log2 : Int) := by
          rw [← zpow_add₀ (by norm_num)]
          congr 1
          ring
      _ ≤ 2 ^ ((num.log2 : Int) - den.log2 + 1) * den :=
          mul_le_mul_of_nonneg_left hdlow (by positivity)

/-- A quotient of natural numbers is below a power of two exactly if the ratio is. -/
theorem div_lt_two_pow_iff {a b n : Nat} (hb : 0 < b) :
    a / b < Nat.pow 2 n ↔ (a : ℚ) / b < 2 ^ (n : Int) := by
  have hpos : (0 : ℚ) < b := by exact_mod_cast hb
  rw [Nat.div_lt_iff_lt_mul hb, div_lt_iff₀ hpos, zpow_natCast, Nat.pow_eq]
  exact_mod_cast Iff.rfl

/-- The exponent puts the value between two powers of two, unless it is the least one. -/
theorem exponentOf_spec (hnum : 0 < num) (hden : 0 < den) :
    ∃ k : Int, (2 : ℚ) ^ (52 + k) ≤ num / den ∧ (num : ℚ) / den < 2 ^ (53 + k) ∧
      exponentOf num den = max k minExponent := by
  obtain ⟨hlow, hhigh⟩ := value_bounds hnum hden
  have hmax : ∀ k : Int, (if k < minExponent then minExponent else k) = max k minExponent := by
    intro k
    split <;> omega
  -- the test on the quotient tells which of the two exponents is right
  have hguess : (scaleDown num den ((num.log2 : Int) - den.log2 - 53)).1 /
      (scaleDown num den ((num.log2 : Int) - den.log2 - 53)).2 < Nat.pow 2 53 ↔
      (num : ℚ) / den < 2 ^ (53 + ((num.log2 : Int) - den.log2 - 53)) := by
    rw [div_lt_two_pow_iff (scaleDown_den_pos hden _), scaleDown_value,
      div_lt_iff₀ (by positivity), ← zpow_add₀ (by norm_num)]
    rfl
  unfold exponentOf
  simp only [hmax]
  split
  · rename_i h
    refine ⟨_, ?_, hguess.mp h, rfl⟩
    rw [show 52 + ((num.log2 : Int) - den.log2 - 53) = (num.log2 : Int) - den.log2 - 1 by ring]
    exact hlow.le
  · rename_i h
    refine ⟨_, ?_, ?_, rfl⟩
    · rw [show 52 + ((num.log2 : Int) - den.log2 - 53 + 1) =
        53 + ((num.log2 : Int) - den.log2 - 53) by ring]
      exact not_lt.mp (mt hguess.mpr h)
    · rw [show 53 + ((num.log2 : Int) - den.log2 - 53 + 1) = (num.log2 : Int) - den.log2 + 1 by
        ring]
      exact hhigh

/-- Only one exponent puts a value between these powers of two. -/
theorem exponent_unique {x : ℚ} {k k' : Int} (hlow : (2 : ℚ) ^ (52 + k) ≤ x)
    (hhigh : x < 2 ^ (53 + k)) (hlow' : (2 : ℚ) ^ (52 + k') ≤ x) (hhigh' : x < 2 ^ (53 + k')) :
    k = k' := by
  have h := two_zpow_lt.mp (hlow.trans_lt hhigh')
  have h' := two_zpow_lt.mp (hlow'.trans_lt hhigh)
  omega

theorem exponentOf_congr (hnum : 0 < num) (hden : 0 < den) (hnum' : 0 < num') (hden' : 0 < den')
    (h : (num : ℚ) / den = (num' : ℚ) / den') : exponentOf num den = exponentOf num' den' := by
  obtain ⟨k, hlow, hhigh, hk⟩ := exponentOf_spec hnum hden
  obtain ⟨k', hlow', hhigh', hk'⟩ := exponentOf_spec hnum' hden'
  rw [← h] at hlow' hhigh'
  rw [hk, hk', exponent_unique hlow hhigh hlow' hhigh']

/-! ## The nearest number -/

theorem ofRatio_congr (negative : Bool) (hden : 0 < den) (hden' : 0 < den')
    (h : (num : ℚ) / den = (num' : ℚ) / den') :
    ofRatio negative num den = ofRatio negative num' den' := by
  have hcross := cross_of_value_eq hden hden' h
  have hexp : (if num = 0 then minExponent else exponentOf num den) =
      if num' = 0 then minExponent else exponentOf num' den' := by
    by_cases hzero : num = 0
    · have hzero' : num' = 0 := by
        rw [hzero, Nat.zero_mul] at hcross
        exact (Nat.mul_eq_zero.mp hcross.symm).resolve_right hden.ne'
      rw [if_pos hzero, if_pos hzero']
    · have hzero' : num' ≠ 0 := by
        rintro rfl
        rw [Nat.zero_mul] at hcross
        exact hzero ((Nat.mul_eq_zero.mp hcross).resolve_right hden'.ne')
      rw [if_neg hzero, if_neg hzero']
      exact exponentOf_congr (Nat.pos_of_ne_zero hzero) hden (Nat.pos_of_ne_zero hzero') hden' h
  have hround : ∀ e, roundDiv (scaleDown num den e).1 (scaleDown num den e).2 =
      roundDiv (scaleDown num' den' e).1 (scaleDown num' den' e).2 := by
    intro e
    refine roundDiv_congr (scaleDown_den_pos hden e) (scaleDown_den_pos hden' e) ?_
    refine cross_of_value_eq (scaleDown_den_pos hden e) (scaleDown_den_pos hden' e) ?_
    rw [scaleDown_value, scaleDown_value, h]
  simp only [ofRatio, hexp, hround]

/-- A finite number in its one representation. -/
def IsFinite : Binary64 → Prop
  | finite _ m e => m < 2 ^ 53 ∧ minExponent ≤ e ∧ e ≤ maxExponent ∧ (2 ^ 52 ≤ m ∨ e = minExponent)
  | _ => False

instance : (x : Binary64) → Decidable x.IsFinite
  | finite .. => inferInstanceAs (Decidable (_ ∧ _))
  | infinite _ => inferInstanceAs (Decidable False)
  | nan => inferInstanceAs (Decidable False)

theorem ratio_den_pos (m : Nat) (e : Int) : 0 < (ratio m e).2 := by
  unfold ratio
  split
  · exact Nat.pow_pos (by decide)
  · exact Nat.one_pos

/-- A power with a negative exponent is the denominator, any other is a factor of the numerator. -/
theorem powerRatio_value (base n : Nat) (e : Int) {r : Nat × Nat}
    (hr : r = if e < 0 then (n, Nat.pow base e.natAbs) else (n * Nat.pow base e.natAbs, 1)) :
    (r.1 : ℚ) / r.2 = n * (base : ℚ) ^ e := by
  rw [hr]
  split
  · rename_i h
    have habs : e = -(e.natAbs : Int) := by omega
    conv_rhs => rw [habs]
    simp only [Nat.pow_eq, Nat.cast_pow, zpow_neg, zpow_natCast]
    rw [div_eq_mul_inv]
  · rename_i h
    have habs : e = (e.natAbs : Int) := by omega
    conv_rhs => rw [habs]
    simp only [Nat.pow_eq, Nat.cast_mul, Nat.cast_pow, zpow_natCast, Nat.cast_one, div_one]

theorem ratio_value (m : Nat) (e : Int) : ((ratio m e).1 : ℚ) / (ratio m e).2 = m * 2 ^ e := by
  simpa using powerRatio_value 2 m e (r := ratio m e) rfl

theorem lt_two_zpow_of_lt {m : Nat} (h : m < 2 ^ 53) (e : Int) :
    (m : ℚ) * 2 ^ e < 2 ^ (53 + e) := by
  rw [zpow_add₀ (by norm_num)]
  refine mul_lt_mul_of_pos_right ?_ (by positivity)
  exact_mod_cast h

/-- The exponent of a finite number is the one that rounding its value chooses. -/
theorem exponentOf_ratio {m : Nat} {e : Int} (h : (finite false m e).IsFinite) :
    (if (ratio m e).1 = 0 then minExponent else exponentOf (ratio m e).1 (ratio m e).2) = e := by
  obtain ⟨hlt, hmin, -, hform⟩ := h
  have hvalue := ratio_value m e
  have hpow : (0 : ℚ) < 2 ^ e := by positivity
  by_cases hzero : (ratio m e).1 = 0
  · rw [if_pos hzero]
    rw [hzero, Nat.cast_zero, zero_div] at hvalue
    have hm : m = 0 := by
      have hcast : (m : ℚ) = 0 := (mul_eq_zero.mp hvalue.symm).resolve_right hpow.ne'
      exact_mod_cast hcast
    rcases hform with hlarge | rfl
    · omega
    · rfl
  · rw [if_neg hzero]
    obtain ⟨k, hlow, hhigh, hk⟩ :=
      exponentOf_spec (Nat.pos_of_ne_zero hzero) (ratio_den_pos m e)
    rw [hvalue] at hlow hhigh
    have hupper := lt_two_zpow_of_lt hlt e
    rcases hform with hlarge | rfl
    · -- 53 bits pin the exponent down from both sides
      have hlower : (2 : ℚ) ^ (52 + e) ≤ m * 2 ^ e := by
        rw [zpow_add₀ (by norm_num)]
        refine mul_le_mul_of_nonneg_right ?_ hpow.le
        exact_mod_cast hlarge
      rw [hk, exponent_unique hlow hhigh hlower hupper]
      omega
    · -- fewer bits leave no exponent above the least
      have hle := two_zpow_lt.mp (hlow.trans_lt hupper)
      rw [hk]
      omega

/-- A finite number is the one nearest to its own value. -/
theorem ofRatio_ratio {negative : Bool} {m : Nat} {e : Int} (h : (finite negative m e).IsFinite) :
    ofRatio negative (ratio m e).1 (ratio m e).2 = finite negative m e := by
  have hexp := exponentOf_ratio (m := m) (e := e) h
  obtain ⟨hlt, -, hmax, -⟩ := h
  have hmax' : ¬ maxExponent < e := not_lt.mpr hmax
  have hden := ratio_den_pos m e
  have hpow : (0 : ℚ) < 2 ^ e := by positivity
  have hround : roundDiv (scaleDown (ratio m e).1 (ratio m e).2 e).1
      (scaleDown (ratio m e).1 (ratio m e).2 e).2 = m := by
    conv_rhs => rw [← roundDiv_one m]
    refine roundDiv_congr (scaleDown_den_pos hden e) (by decide) ?_
    refine cross_of_value_eq (scaleDown_den_pos hden e) (by decide) ?_
    rw [scaleDown_value, ratio_value, Nat.cast_one, div_one, mul_div_assoc, div_self hpow.ne',
      mul_one]
  have hne : m ≠ Nat.pow 2 53 := by
    rintro rfl
    exact absurd hlt (by decide)
  simp only [ofRatio, hexp, hround, if_neg hne, if_neg hmax']

/-- The sign takes no part in rounding. -/
theorem ofRatio_sign {negative : Bool} {m : Nat} {e : Int}
    (h : ofRatio false num den = finite false m e) :
    ofRatio negative num den = finite negative m e := by
  obtain ⟨p, hp⟩ : ∃ p : Nat × Int, ∀ negative, ofRatio negative num den =
      if maxExponent < p.2 then infinite negative else finite negative p.1 p.2 := ⟨_, fun _ => rfl⟩
  rw [hp] at h ⊢
  split at h
  · cases h
  · rename_i hmax
    rw [if_neg hmax]
    cases h
    rfl

/-! ## Decimals -/

/-- The value of a decimal, as a ratio. -/
def decimalRatio (digits : Nat) (exponent : Int) : Nat × Nat :=
  if exponent < 0 then (digits, Nat.pow 10 exponent.natAbs)
  else (digits * Nat.pow 10 exponent.natAbs, 1)

theorem decimalRatio_den_pos (n : Nat) (s : Int) : 0 < (decimalRatio n s).2 := by
  unfold decimalRatio
  split
  · exact Nat.pow_pos (by decide)
  · exact Nat.one_pos

theorem decimalRatio_value (n : Nat) (s : Int) :
    ((decimalRatio n s).1 : ℚ) / (decimalRatio n s).2 = n * 10 ^ s := by
  simpa using powerRatio_value 10 n s (r := decimalRatio n s) rfl

theorem ofRatio_of_large (negative : Bool) (hden : 0 < den)
    (h : (2 : ℚ) ^ (1024 : Int) ≤ num / den) :
    ofRatio negative num den = infinite negative := by
  have hpos : (0 : ℚ) < den := by exact_mod_cast hden
  have hnum : 0 < num := by
    rcases Nat.eq_zero_or_pos num with rfl | hnum
    · rw [Nat.cast_zero, zero_div] at h
      exact absurd h (not_le.mpr (by positivity))
    · exact hnum
  obtain ⟨k, -, hhigh, hk⟩ := exponentOf_spec hnum hden
  have hlarge := two_zpow_lt.mp (h.trans_lt hhigh)
  have hexp : maxExponent < exponentOf num den := by
    rw [hk]
    unfold maxExponent
    omega
  simp only [ofRatio, if_neg hnum.ne']
  rw [if_pos]
  split
  · exact hexp.trans (Int.lt_succ _)
  · exact hexp

theorem ofRatio_of_small (negative : Bool) (hden : 0 < den)
    (h : (num : ℚ) / den < 2 ^ (-1075 : Int)) :
    ofRatio negative num den = finite negative 0 minExponent := by
  have hexp : (if num = 0 then minExponent else exponentOf num den) = minExponent := by
    split
    · rfl
    · rename_i hnum
      obtain ⟨k, hlow, -, hk⟩ := exponentOf_spec (Nat.pos_of_ne_zero hnum) hden
      have hsmall := two_zpow_lt.mp (hlow.trans_lt h)
      rw [hk]
      unfold minExponent
      omega
  have hround :
      roundDiv (scaleDown num den minExponent).1 (scaleDown num den minExponent).2 = 0 := by
    refine roundDiv_of_small ?_
    have hpos : (0 : ℚ) < (scaleDown num den minExponent).2 := by
      exact_mod_cast scaleDown_den_pos hden minExponent
    have hhalf : ((scaleDown num den minExponent).1 : ℚ) / (scaleDown num den minExponent).2 <
        1 / 2 := by
      rw [scaleDown_value, div_lt_iff₀ (by positivity)]
      calc (num : ℚ) / den < 2 ^ (-1075 : Int) := h
        _ = 1 / 2 * 2 ^ minExponent := by
          rw [show (-1075 : Int) = -1 + minExponent by rfl, zpow_add₀ (by norm_num)]
          norm_num
    rw [div_lt_iff₀ hpos] at hhalf
    have hdouble :
        2 * ((scaleDown num den minExponent).1 : ℚ) < (scaleDown num den minExponent).2 := by
      linarith
    exact_mod_cast hdouble
  simp only [ofRatio, hexp, hround]
  rw [if_neg (by decide), if_neg (by decide)]

/-- Three binary digits are worth less than a decimal one. -/
theorem two_zpow_le_ten_zpow {k : Int} (hk : 0 ≤ k) : (2 : ℚ) ^ (3 * k) ≤ 10 ^ k := by
  rw [zpow_mul]
  exact zpow_le_zpow_left₀ hk (by norm_num) (by norm_num)

/-- Four binary digits are worth more than a decimal one. -/
theorem ten_zpow_le {n : Nat} (hn : 0 < n) : (10 : ℚ) ^ ((n.log2 : Int) / 4) ≤ n := by
  calc (10 : ℚ) ^ ((n.log2 : Int) / 4) ≤ (2 ^ (4 : Int)) ^ ((n.log2 : Int) / 4) :=
        zpow_le_zpow_left₀ (by omega) (by norm_num) (by norm_num)
    _ = 2 ^ (4 * ((n.log2 : Int) / 4)) := by rw [zpow_mul]
    _ ≤ 2 ^ (n.log2 : Int) := two_zpow_le.mpr (by omega)
    _ ≤ n := (log2_bounds hn).1

theorem two_zpow_le_decimal {n : Nat} (hn : 0 < n) {s : Int} (h : 400 < (n.log2 : Int) / 4 + s) :
    (2 : ℚ) ^ (1024 : Int) ≤ n * 10 ^ s := by
  calc (2 : ℚ) ^ (1024 : Int) ≤ 2 ^ (3 * 401 : Int) := two_zpow_le.mpr (by omega)
    _ ≤ 10 ^ (401 : Int) := two_zpow_le_ten_zpow (by omega)
    _ ≤ 10 ^ ((n.log2 : Int) / 4 + s) := zpow_le_zpow_right₀ (by norm_num) (by omega)
    _ = 10 ^ ((n.log2 : Int) / 4) * 10 ^ s := zpow_add₀ (by norm_num) _ _
    _ ≤ n * 10 ^ s := mul_le_mul_of_nonneg_right (ten_zpow_le hn) (by positivity)

theorem decimal_lt_two_zpow {n : Nat} (hn : 0 < n) {s : Int} (h : (n.log2 : Int) + 1 + s ≤ -400) :
    (n : ℚ) * 10 ^ s < 2 ^ (-1075 : Int) := by
  have hten : (0 : ℚ) < 10 ^ s := by positivity
  calc (n : ℚ) * 10 ^ s
      < 2 ^ ((n.log2 : Int) + 1) * 10 ^ s := mul_lt_mul_of_pos_right (log2_bounds hn).2 hten
    _ ≤ 10 ^ ((n.log2 : Int) + 1) * 10 ^ s :=
        mul_le_mul_of_nonneg_right (zpow_le_zpow_left₀ (by omega) (by norm_num) (by norm_num))
          hten.le
    _ = 10 ^ ((n.log2 : Int) + 1 + s) := (zpow_add₀ (by norm_num) _ _).symm
    _ ≤ 10 ^ (-400 : Int) := zpow_le_zpow_right₀ (by norm_num) h
    _ = (10 ^ (400 : Int))⁻¹ := zpow_neg _ _
    _ ≤ (2 ^ (3 * 400 : Int))⁻¹ := inv_anti₀ (by positivity) (two_zpow_le_ten_zpow (by omega))
    _ = 2 ^ (-(3 * 400) : Int) := (zpow_neg _ _).symm
    _ ≤ 2 ^ (-1075 : Int) := two_zpow_le.mpr (by omega)

/-- Where no power of ten is computed, the answer is the nearest number all the same. -/
theorem ofDecimal_eq_ofRatio (negative : Bool) {n : Nat} (hn : n ≠ 0) (s : Int) :
    ofDecimal negative n s = ofRatio negative (decimalRatio n s).1 (decimalRatio n s).2 := by
  have hpos := Nat.pos_of_ne_zero hn
  have hden := decimalRatio_den_pos n s
  rw [ofDecimal, if_neg hn]
  split
  · rename_i hlarge
    refine (ofRatio_of_large negative hden ?_).symm
    rw [decimalRatio_value]
    exact two_zpow_le_decimal hpos (by omega)
  · split
    · rename_i hsmall
      refine (ofRatio_of_small negative hden ?_).symm
      rw [decimalRatio_value]
      exact decimal_lt_two_zpow hpos (by omega)
    · unfold decimalRatio
      split <;> rfl

/-- The number nearest to a decimal depends on its value only. -/
theorem ofDecimal_congr (negative : Bool) {n n' : Nat} {s s' : Int} (hn : n ≠ 0) (hn' : n' ≠ 0)
    (h : (n : ℚ) * 10 ^ s = n' * 10 ^ s') : ofDecimal negative n s = ofDecimal negative n' s' := by
  rw [ofDecimal_eq_ofRatio negative hn, ofDecimal_eq_ofRatio negative hn']
  refine ofRatio_congr negative (decimalRatio_den_pos n s) (decimalRatio_den_pos n' s') ?_
  rw [decimalRatio_value, decimalRatio_value, h]

theorem ofDecimal_sign {negative : Bool} {n m : Nat} {s e : Int} (hn : n ≠ 0)
    (h : ofDecimal false n s = finite false m e) :
    ofDecimal negative n s = finite negative m e := by
  rw [ofDecimal_eq_ofRatio _ hn] at h ⊢
  exact ofRatio_sign h

end QueryGate.Binary64
