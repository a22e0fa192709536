import QueryGate.Json.Parser
import QueryGate.Json.Printer
import QueryGate.Proofs.Number.Shortest

/-! # Reading a written number

A written number ends where a comma or a closing mark stands, or at the end of the text
(`Ends`).  Whole numbers of at most 4300 digits and finite numbers are read as themselves there
(`readNumber_ofNat`, `readNumber_shortest`). -/

namespace QueryGate.Json

open Text Decimal

/-- Nothing, or something behind a value: a comma or a closing mark. -/
def Ends (rest : Text) : Prop := ∀ c ∈ rest.head?, c = ',' ∨ c = ']' ∨ c = '\x7d'

theorem ends_nil : Ends [] := by simp [Ends]

/-- A character that none of these marks is does not stand behind a value. -/
theorem Ends.head?_any {rest : Text} (h : Ends rest) {p : Char → Bool} (hcomma : p ',' = false)
    (hbracket : p ']' = false) (hbrace : p '\x7d' = false) : rest.head?.any p = false := by
  cases rest with
  | nil => rfl
  | cons c rest =>
    rcases h c rfl with rfl | rfl | rfl
    · exact hcomma
    · exact hbracket
    · exact hbrace

/-! ## The parts of a number -/

section Parts

variable {ds rest : Text}

theorem span_digits (hds : AllDigits ds) (hrest : rest.head?.any isDecimal = false) :
    (ds ++ rest).takeWhile isDecimal = ds ∧ (ds ++ rest).dropWhile isDecimal = rest := by
  have hdecimal : ∀ c ∈ ds, isDecimal c = true := hds
  rw [List.takeWhile_append_of_pos hdecimal, List.dropWhile_append_of_pos hdecimal]
  cases rest with
  | nil => simp
  | cons c rest =>
    have hc : ¬ isDecimal c = true := by simpa using hrest
    rw [List.takeWhile_cons_of_neg hc, List.dropWhile_cons_of_neg hc, List.append_nil]
    exact ⟨rfl, rfl⟩

theorem digits?_append (hds : AllDigits ds) (hne : ds ≠ [])
    (hrest : rest.head?.any isDecimal = false) : digits? (ds ++ rest) = some (ds, rest) := by
  obtain ⟨htake, hdrop⟩ := span_digits hds hrest
  cases ds with
  | nil => exact absurd rfl hne
  | cons d ds =>
    rw [digits?, htake, hdrop]

theorem whole?_append (hds : AllDigits ds) (hne : ds ≠ []) (hzero : ds.head? ≠ some '0')
    (hrest : rest.head?.any isDecimal = false) : whole? (ds ++ rest) = some (ds, rest) := by
  cases ds with
  | nil => exact absurd rfl hne
  | cons d ds =>
    have hd : d ≠ '0' := fun h => hzero (by rw [h]; rfl)
    rw [whole?.eq_def]
    split
    · rename_i heq
      exact absurd (List.cons.inj heq).1 hd
    · exact digits?_append hds hne hrest

theorem fractionOf_absent (hrest : rest.head?.any (· == '.') = false) :
    fractionOf rest = ([], rest) := by
  cases rest with
  | nil => rfl
  | cons c rest =>
    have hc : c ≠ '.' := by simpa using hrest
    rw [fractionOf.eq_def]
    split
    · rename_i heq
      exact absurd (List.cons.inj heq).1 hc
    · rfl

theorem fractionOf_append (hds : AllDigits ds) (hne : ds ≠ [])
    (hrest : rest.head?.any isDecimal = false) :
    fractionOf ('.' :: (ds ++ rest)) = (ds, rest) := by
  rw [fractionOf, digits?_append hds hne hrest]
  rfl

theorem fractionOf_zero (hrest : Ends rest) :
    fractionOf ('.' :: (['0'] ++ rest)) = (['0'], rest) :=
  fractionOf_append (allDigits_replicate_zero 1) (by simp) (hrest.head?_any rfl rfl rfl)

theorem exponentOf?_absent (hrest : rest.head?.any (fun c => c == 'e' || c == 'E') = false) :
    exponentOf? rest = none := by
  cases rest with
  | nil => rfl
  | cons c rest =>
    have hc : ¬ (c = 'e' ∨ c = 'E') := by simpa using hrest
    rw [exponentOf?, if_neg hc]

theorem exponentOf?_exponentText (p : Int) (hrest : rest.head?.any isDecimal = false) :
    exponentOf? (exponentText p ++ rest) = some (p, rest) := by
  have hdigits : AllDigits (padZeros 2 (Text.ofNat p.natAbs)) :=
    allDigits_padZeros (allDigits_ofNat _) 2
  have hne : padZeros 2 (Text.ofNat p.natAbs) ≠ [] := by simp [padZeros, ofNat_ne_nil]
  have hvalue : Text.toNat (padZeros 2 (Text.ofNat p.natAbs)) = p.natAbs := by
    rw [padZeros, toNat_append, toNat_replicate_zero, toNat_ofNat, Nat.zero_mul, Nat.zero_add]
  have hread := digits?_append hdigits hne hrest
  rw [exponentText, List.cons_append, List.cons_append, exponentOf?, if_pos (.inl rfl)]
  by_cases hp : p < 0
  · rw [if_pos hp]
    simp only [exponentSign, hread, Option.map_some, hvalue, if_true]
    congr 2
    omega
  · rw [if_neg hp]
    simp only [exponentSign, hread, Option.map_some, hvalue, Bool.false_eq_true, if_false]
    congr 2
    omega

end Parts

/-! ## Whole numbers -/

theorem whole?_ofNat (n : Nat) {rest : Text} (hrest : Ends rest) :
    whole? (Text.ofNat n ++ rest) = some (Text.ofNat n, rest) := by
  rcases Nat.eq_zero_or_pos n with rfl | hpos
  · rfl
  · exact whole?_append (allDigits_ofNat n) (ofNat_ne_nil n) (head?_ofNat_ne_zero hpos)
      (hrest.head?_any rfl rfl rfl)

/-- What is read, unless there is a fault. -/
def unlessFault {α : Type} (fault : Option TextFault) (a : α) : Except TextFault α :=
  match fault with
  | none => .ok a
  | some f => .error f

variable {r : Reading} (hr : r.limitsAllNumbers = false)

include hr in
/-- A whole number is read as itself, or refused if it has too many digits. -/
theorem readNumber_ofNat (n : Nat) (negative : Bool) {rest : Text} (hrest : Ends rest) :
    readNumber r negative (Text.ofNat n ++ rest) =
      unlessFault (numberFault? n) (int (if negative then -(n : Int) else n), rest) := by
  have hlong : decide (maxDigits < (Text.ofNat n).length) = !decide (n < 10 ^ maxDigits) := by
    rw [← decide_not, decide_eq_decide, not_lt, ← not_le, length_ofNat_le_iff (by decide), not_lt]
  rw [readNumber, whole?_ofNat n hrest, numberFault?, Nat.pow_eq]
  simp only [fractionOf_absent (hrest.head?_any rfl rfl rfl),
    exponentOf?_absent (hrest.head?_any rfl rfl rfl), hr, Bool.false_and,
    Bool.false_eq_true, if_false, Nat.add_zero, List.isEmpty_nil, Option.isNone_none, Bool.and_self,
    Bool.or_false, Bool.and_true, toNat_ofNat, hlong, if_true]
  by_cases hn : n < 10 ^ maxDigits
  · simp [hn, unlessFault]
  · simp [hn, unlessFault]

/-! ## Finite numbers -/

include hr in
/-- A number that is not whole is read from its digits, its fraction and its exponent. -/
theorem readNumber_parts {whole frac s rest rest' : Text}
    {e : Option (Int × Text)} (hwhole : whole? s = some (whole, rest)) (hfrac : fractionOf rest = (frac, rest'))
    (hexp : exponentOf? rest' = e) (hsome : frac ≠ [] ∨ e.isSome) (negative : Bool) :
    readNumber r negative s =
      .ok (float (.ofDecimal negative (Text.toNat (whole ++ frac))
          ((e.getD (0, rest')).1 - frac.length)),
        (e.getD (0, rest')).2) := by
  have hpart : (frac.isEmpty && e.isNone) = false := by
    rcases hsome with h | h
    · rw [List.isEmpty_eq_false_iff.mpr h, Bool.false_and]
    · cases e with
      | none => cases h
      | some p => simp
  rw [readNumber, hwhole]
  simp only [hfrac, hexp, hpart, hr, Bool.false_and, Bool.or_self, Bool.and_false,
    Bool.false_eq_true, if_false]

variable {d : Digits} {rest : Text}

/-- The text begins with a number of the value of some digits, which `rest` follows. -/
def ReadsValue (r : Reading) (d : Digits) (negative : Bool) (s rest : Text) : Prop :=
  ∃ (n : Nat) (e : Int), n ≠ 0 ∧ (n : ℚ) * 10 ^ e = d.value ∧
    readNumber r negative s = .ok (float (.ofDecimal negative n e), rest)

include hr in
/-- A number below one is read from the zeros behind the point and the digits. -/
theorem readNumber_small (hd : d.IsNumeral) (hneg : d.exponent < 0) (negative : Bool)
    (hrest : Ends rest) :
    ReadsValue r d negative
      ('0' :: '.' :: (List.replicate (d.exponent.natAbs - 1) '0' ++ d.digits ++ rest)) rest := by
  obtain ⟨frac, hfrac⟩ :
      ∃ frac, frac = List.replicate (d.exponent.natAbs - 1) '0' ++ d.digits := ⟨_, rfl⟩
  have hdigits : AllDigits frac := by
    rw [hfrac]
    exact allDigits_append.mpr ⟨allDigits_replicate_zero _, hd.allDigits⟩
  have hne : frac ≠ [] := by
    rw [hfrac]
    simp [hd.ne_nil]
  have hnat : Text.toNat (['0'] ++ frac) = Text.toNat d.digits := by
    rw [hfrac, toNat_append, toNat_append, toNat_replicate_zero, Nat.zero_mul, Nat.zero_add]
    show 0 * _ + _ = _
    omega
  refine ⟨Text.toNat d.digits, 0 - frac.length, hd.toNat_ne_zero, ?_, ?_⟩
  · rw [Digits.value, hfrac, List.length_append, List.length_replicate]
    congr 2
    push_cast
    omega
  · have hwhole : whole? ('0' :: '.' :: (frac ++ rest)) = some (['0'], '.' :: (frac ++ rest)) := rfl
    rw [← hfrac, readNumber_parts hr hwhole
      (fractionOf_append hdigits hne (hrest.head?_any rfl rfl rfl))
      (exponentOf?_absent (hrest.head?_any rfl rfl rfl)) (.inl hne), hnat]
    rfl

/-- Some first digits and zeros behind them are read as a whole number. -/
theorem IsNumeral.whole?_take (hd : d.IsNumeral) {w : Nat} (hw : 0 < w) (zeros : Nat) (tail : Text)
    (htail : tail.head?.any isDecimal = false) :
    whole? (d.digits.take w ++ (List.replicate zeros '0' ++ tail)) =
      some (d.digits.take w ++ List.replicate zeros '0', tail) := by
  obtain ⟨w, rfl⟩ : ∃ n, w = n + 1 := ⟨w - 1, by omega⟩
  rw [← List.append_assoc]
  refine whole?_append (allDigits_append.mpr ⟨?_, allDigits_replicate_zero _⟩) ?_ ?_ htail
  · exact fun c hc => hd.allDigits c (List.mem_of_mem_take hc)
  · simp [hd.ne_nil]
  · have hzero := hd.no_zero
    cases hdigits : d.digits with
    | nil => exact absurd hdigits hd.ne_nil
    | cons c t =>
      rw [hdigits] at hzero
      exact hzero

theorem fraction_of_ne_nil {mark : Bool} {ds : Text} (hds : ds ≠ []) :
    fraction mark ds = '.' :: ds := by
  rw [fraction, List.isEmpty_eq_false_iff.mpr hds]
  rfl

include hr in
/-- If all digits stand in front of the point, zeros fill the places up to it, and one more stands
behind it. -/
theorem readNumber_whole (hd : d.IsNumeral) {w : Nat} (hw : d.exponent = w - 1)
    (hshort : d.digits.length ≤ w) (negative : Bool) (hrest : Ends rest) :
    ReadsValue r d negative (d.digits.take w ++ (List.replicate (w - d.digits.length) '0' ++
      (fraction true (d.digits.drop w) ++ rest))) rest := by
  have hpos : 0 < w := (List.length_pos_iff.mpr hd.ne_nil).trans_le hshort
  have hdrop : d.digits.drop w = [] := List.drop_of_length_le hshort
  have htake : d.digits.take w = d.digits := List.take_of_length_le hshort
  have hnat : Text.toNat (d.digits.take w ++ List.replicate (w - d.digits.length) '0' ++ ['0']) =
      Text.toNat d.digits * 10 ^ (w - d.digits.length) * 10 := by
    rw [htake, toNat_append, toNat_append, toNat_replicate_zero, List.length_replicate]
    rfl
  refine ⟨Text.toNat d.digits * 10 ^ (w - d.digits.length) * 10, 0 - 1, ?_, ?_, ?_⟩
  · exact Nat.mul_ne_zero (Nat.mul_ne_zero hd.toNat_ne_zero (by positivity)) (by decide)
  · rw [Digits.value, hw, show (w : Int) - 1 + 1 - d.digits.length =
      ((w - d.digits.length : Nat) : Int) by omega, zpow_natCast]
    have htenth : (10 : ℚ) ^ (-1 : Int) = 1 / 10 := by norm_num
    push_cast
    rw [htenth]
    ring
  · have hfraction : fraction true [] ++ rest = '.' :: (['0'] ++ rest) := rfl
    have hwhole :=
      IsNumeral.whole?_take hd hpos (w - d.digits.length) ('.' :: (['0'] ++ rest)) rfl
    rw [hdrop, hfraction, readNumber_parts hr hwhole (fractionOf_zero hrest)
      (exponentOf?_absent (hrest.head?_any rfl rfl rfl)) (.inl (by simp)), hnat]
    rfl

include hr in
/-- If digits stand on both sides of the point, there are no zeros to fill. -/
theorem readNumber_mixed (hd : d.IsNumeral) {w : Nat} (hw : d.exponent = w - 1) (hpos : 0 < w)
    (hlong : w < d.digits.length) (negative : Bool) (hrest : Ends rest) :
    ReadsValue r d negative (d.digits.take w ++ (List.replicate (w - d.digits.length) '0' ++
      (fraction true (d.digits.drop w) ++ rest))) rest := by
  have hdrop : d.digits.drop w ≠ [] := by
    intro h
    exact absurd (List.drop_eq_nil_iff.mp h) (not_le.mpr hlong)
  have hdigits : AllDigits (d.digits.drop w) :=
    fun c hc => hd.allDigits c (List.mem_of_mem_drop hc)
  have hzeros : w - d.digits.length = 0 := by omega
  refine ⟨Text.toNat d.digits, 0 - (d.digits.drop w).length, hd.toNat_ne_zero, ?_, ?_⟩
  · rw [Digits.value, hw, List.length_drop]
    congr 2
    omega
  · have hwhole :=
      IsNumeral.whole?_take hd hpos (w - d.digits.length) ('.' :: (d.digits.drop w ++ rest)) rfl
    rw [fraction_of_ne_nil hdrop, List.cons_append, readNumber_parts hr hwhole
      (fractionOf_append hdigits hdrop (hrest.head?_any rfl rfl rfl))
      (exponentOf?_absent (hrest.head?_any rfl rfl rfl)) (.inl hdrop), hzeros,
      List.replicate_zero, List.append_nil, List.take_append_drop]
    rfl

include hr in
/-- A number of moderate size is read from the digits on both sides of the point. -/
theorem readNumber_positional (hd : d.IsNumeral) (hpos : 0 ≤ d.exponent) (negative : Bool)
    (hrest : Ends rest) :
    ReadsValue r d negative (d.digits.take (d.exponent.toNat + 1) ++
      (List.replicate (d.exponent.toNat + 1 - d.digits.length) '0' ++
        (fraction true (d.digits.drop (d.exponent.toNat + 1)) ++ rest))) rest := by
  have hw : d.exponent = ((d.exponent.toNat + 1 : Nat) : Int) - 1 := by omega
  rcases Nat.lt_or_ge (d.exponent.toNat + 1) d.digits.length with hlong | hshort
  · exact readNumber_mixed hr hd hw (Nat.succ_pos _) hlong negative hrest
  · exact readNumber_whole hr hd hw hshort negative hrest

include hr in
/-- A very large or small number is read from its digits and its exponent. -/
theorem readNumber_scientific (hd : d.IsNumeral) (negative : Bool) (hrest : Ends rest) :
    ReadsValue r d negative (d.digits.take 1 ++
      (fraction false (d.digits.drop 1) ++ (exponentText d.exponent ++ rest))) rest := by
  have hexp : exponentOf? (exponentText d.exponent ++ rest) = some (d.exponent, rest) :=
    exponentOf?_exponentText d.exponent (hrest.head?_any rfl rfl rfl)
  have hwhole : ∀ tail : Text, tail.head?.any isDecimal = false →
      whole? (d.digits.take 1 ++ tail) = some (d.digits.take 1, tail) := by
    intro tail htail
    simpa using IsNumeral.whole?_take hd Nat.one_pos 0 _ htail
  have hlength : 0 < d.digits.length := List.length_pos_iff.mpr hd.ne_nil
  have hvalue : (Text.toNat d.digits : ℚ) * 10 ^ (d.exponent - ((d.digits.drop 1).length : Int)) =
      d.value := by
    rw [Digits.value, List.length_drop]
    congr 2
    omega
  refine ⟨Text.toNat d.digits, d.exponent - (d.digits.drop 1).length, hd.toNat_ne_zero, hvalue, ?_⟩
  by_cases hdrop : d.digits.drop 1 = []
  · -- a single digit stands in front of the exponent without a point
    have hfraction : fraction false (d.digits.drop 1) = [] := by
      rw [hdrop]
      rfl
    have htake : d.digits.take 1 = d.digits := by
      conv_rhs => rw [← List.take_append_drop 1 d.digits, hdrop, List.append_nil]
    rw [hfraction, List.nil_append, readNumber_parts hr (hwhole _ rfl) (fractionOf_absent rfl) hexp
      (.inr rfl), List.append_nil, hdrop, htake]
    rfl
  · rw [fraction_of_ne_nil hdrop, List.cons_append, readNumber_parts hr (hwhole _ rfl)
      (fractionOf_append (fun c hc => hd.allDigits c (List.mem_of_mem_drop hc)) hdrop rfl) hexp
      (.inl hdrop), List.take_append_drop]
    rfl

include hr in
/-- Whatever the layout of a record makes of digits is read as their value. -/
theorem readNumber_digits (hd : d.IsNumeral) (negative : Bool) (hrest : Ends rest) :
    ReadsValue r d negative (d.toText recordLayout ++ rest) rest := by
  rw [Digits.toText]
  split
  · split
    · rename_i hneg
      exact readNumber_small hr hd hneg negative hrest
    · rename_i hpos
      simp only [List.append_assoc]
      exact readNumber_positional hr hd (not_lt.mp hpos) negative hrest
  · simp only [List.append_assoc]
    exact readNumber_scientific hr hd negative hrest

include hr in
/-- A finite number is read as itself, its sign apart. -/
theorem readNumber_shortest {negative : Bool} {m : Nat} {e : Int}
    (h : (Binary64.finite negative m e).IsFinite) (hrest : Ends rest) :
    readNumber r negative ((shortest m e).toText recordLayout ++ rest) =
      .ok (float (.finite negative m e), rest) := by
  by_cases hm : m = 0
  · subst hm
    obtain rfl : e = Binary64.minExponent := by
      rcases h.2.2.2 with hlarge | hmin
      · exact absurd hlarge (by decide)
      · exact hmin
    have htext : (shortest 0 Binary64.minExponent).toText recordLayout ++ rest =
        '0' :: '.' :: (['0'] ++ rest) := rfl
    have hwhole : whole? ('0' :: '.' :: (['0'] ++ rest)) = some (['0'], '.' :: (['0'] ++ rest)) :=
      rfl
    rw [htext, readNumber_parts hr hwhole (fractionOf_zero hrest)
      (exponentOf?_absent (hrest.head?_any rfl rfl rfl)) (.inl (by simp))]
    rfl
  · obtain ⟨hnumeral, hreads⟩ := shortest_reads (m := m) (e := e) h hm
    obtain ⟨n, s, hn, hvalue, hread⟩ := readNumber_digits hr hnumeral negative hrest
    rw [hread, hreads negative n s hn hvalue]

end QueryGate.Json
