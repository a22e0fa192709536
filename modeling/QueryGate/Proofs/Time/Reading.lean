import QueryGate.Proofs.Text.Digits
import QueryGate.Time.Reader
import Mathlib.Data.List.TakeWhile

/-! # Reading a written timestamp

A written timestamp is read as the same date and time of day.  Its distance from universal time is
the same too, unless it is less than a second, and is then read as none (`ofText?_toText`).  No
distance of less than a second comes from reading, so a timestamp that was read stays as it is when it
is written and read again (`asRead_of_ofText?`). -/

namespace QueryGate

open Text

namespace Date

theorem eq_of_parts {a b : Date} (hyear : a.year = b.year) (hmonth : a.month = b.month)
    (hday : a.day = b.day) : a = b := by
  cases a
  cases b
  simp_all

theorem month_le (d : Date) : d.month ≤ 12 := by
  obtain ⟨y, m, n, -, -, hpos, hle⟩ := d
  by_contra h
  have hm : 12 < m := by simpa using h
  have hnone : n ≤ 0 := by
    have hlen : (monthLengths y).length ≤ m - 1 := by
      simp only [monthLengths, List.length_cons, List.length_nil]
      omega
    simpa [daysInMonth, show m ≠ 0 by omega, List.getElem?_eq_none hlen] using hle
  omega

theorem day_le_31 (d : Date) : d.day ≤ 31 := by
  have hbound : ∀ y m, daysInMonth y m ≤ 31 := by
    intro y m
    unfold daysInMonth
    split
    · omega
    · cases h : (monthLengths y)[m - 1]? with
      | none => simp
      | some n =>
        have hmem : n ∈ monthLengths y := List.mem_of_getElem? h
        simp only [monthLengths, List.mem_cons, List.not_mem_nil, or_false] at hmem
        split at hmem <;> simp only [Option.getD_some] <;> omega
  exact d.day_le.trans (hbound d.year d.month)

/-- A date is written in four, two and two figures. -/
theorem toText_eq (d : Date) :
    d.toText = figures 4 d.year ++ '-' :: (figures 2 d.month ++ '-' :: figures 2 d.day) := by
  have hyear := d.year_le
  have hmonth := d.month_le
  have hday := d.day_le_31
  rw [toText, padZeros_ofNat (by decide) (by omega), padZeros_ofNat (by decide) (by omega),
    padZeros_ofNat (by decide) (by omega)]
  simp

end Date

namespace Timestamp

/-! ## Figures -/

theorem digits?_figures_append {w n : Nat} (h : n < 10 ^ w) (s : Text) :
    digits? w (figures w n ++ s) = some (n, s) := by
  have htake : (figures w n ++ s).take w = figures w n := by
    rw [List.take_append_of_le_length (by simp), List.take_of_length_le (by simp)]
  have hdrop : (figures w n ++ s).drop w = s := by
    rw [List.drop_append_of_le_length (by simp), List.drop_of_length_le (by simp), List.nil_append]
  have hall : (figures w n).all isDecimal = true := by
    rw [List.all_eq_true]
    exact allDigits_figures w n
  rw [digits?, htake, hdrop]
  simp only [length_figures, hall, and_self, if_true, toNat_figures h]

theorem digits?_figures {w n : Nat} (h : n < 10 ^ w) : digits? w (figures w n) = some (n, []) := by
  simpa using digits?_figures_append h []

theorem twoDigits_eq {n : Nat} (h : n < 100) : twoDigits n = figures 2 n :=
  padZeros_ofNat (by decide) h

/-- The first of some figures is no letter and no sign. -/
theorem figures_two_eq (n : Nat) :
    ∃ a b, figures 2 n = [a, b] ∧ isAsciiDigit a = true ∧ isAsciiDigit b = true := by
  have hall := allDigits_figures 2 n
  exact ⟨_, _, rfl, hall _ List.mem_cons_self,
    hall _ (List.mem_cons_of_mem _ List.mem_cons_self)⟩

/-! ## Dates -/

theorem date?_toText (d : Date) : date? d.toText = some d := by
  have hyear := d.year_le
  have hmonth := d.month_le
  have hday := d.day_le_31
  obtain ⟨a, b, hab, ha, -⟩ := figures_two_eq d.month
  have hletter : a ≠ 'W' := by
    rintro rfl
    exact absurd ha (by decide)
  rw [d.toText_eq, date?, digits?_figures_append (by omega)]
  have hhyphens :
      standsAt ('-' :: (figures 2 d.month ++ '-' :: figures 2 d.day)) 0 '-' = true := rfl
  simp only [hhyphens, if_true, List.drop_one, List.tail_cons]
  split
  · rename_i rest hrest
    rw [hab] at hrest
    exact absurd (List.cons.inj hrest).1 hletter
  · rw [digits?_figures_append (by omega)]
    have hhyphen : hyphen? true ('-' :: figures 2 d.day) = some (figures 2 d.day) := rfl
    simp only [hhyphen, Option.bind_some, digits?_figures (show d.day < 10 ^ 2 by omega)]
    exact d.make?_self

/-! ## Times -/

section Clock

variable {colons : Bool} {parts : List Nat} {beyond : Text} {fuel n : Nat}

theorem clockFrom?_end (h : n < 100) :
    clockFrom? colons parts beyond (fuel + 1) (figures 2 n) =
      some (.ofParts (parts ++ [n]) 0 (beyond.head?.any (· ≠ Char.ofNat 0))) := by
  rw [clockFrom?, digits?_figures h]

/-- A number in front of a colon is followed by another. -/
theorem clockFrom?_colon (h : n < 100) {s : Text} (hs : s ≠ [])
    (hcolons : parts = [] ∨ colons = true) :
    clockFrom? colons parts beyond (fuel + 1) (figures 2 n ++ ':' :: s) =
      clockFrom? true (parts ++ [n]) beyond fuel s := by
  cases s with
  | nil => exact absurd rfl hs
  | cons c s =>
    -- the first separator is the colon itself, and any other repeats it
    have hkeep : (if (parts ++ [n]).length = 1 then ':' == ':' else colons) = true := by
      rcases hcolons with rfl | rfl
      · rfl
      · split <;> rfl
    rw [clockFrom?, digits?_figures_append h]
    simp only [hkeep]
    rfl

theorem clockFrom?_fraction (h : n < 100) {f : Nat} (hf : f < 1000000) (hparts : parts ≠ []) :
    ∃ leftOver, (beyond = [] → leftOver = false) ∧
      clockFrom? true parts beyond (fuel + 1) (figures 2 n ++ '.' :: figures 6 f) =
        some (.ofParts (parts ++ [n]) f leftOver) := by
  -- a fraction stands behind a number that is not the first
  have hlength : (parts ++ [n]).length ≠ 1 := by
    cases parts with
    | nil => exact absurd rfl hparts
    | cons p parts => simp
  have hfraction : fraction? (figures 6 f) beyond =
      some (f, !(beyond.dropWhile isDecimal).isEmpty &&
        !standsAt (beyond.dropWhile isDecimal) 0 (Char.ofNat 0)) := by
    rw [fraction?, length_figures]
    simp [digits?_figures (show f < 10 ^ 6 from hf)]
  obtain ⟨c, d, t, hsix⟩ : ∃ c d t, figures 6 f = c :: d :: t := ⟨_, _, _, rfl⟩
  refine ⟨!(beyond.dropWhile isDecimal).isEmpty &&
    !standsAt (beyond.dropWhile isDecimal) 0 (Char.ofNat 0), ?_, ?_⟩
  · rintro rfl
    rfl
  · rw [clockFrom?, digits?_figures_append h]
    simp only [hsix]
    rw [if_neg hlength, ← hsix, withFraction?, hfraction]
    rfl

end Clock

/-- Seconds and their fraction end a reading. -/
theorem clockFrom?_seconds (parts : List Nat) (beyond : Text) (fuel : Nat) {n f : Nat} (h : n < 100)
    (hf : f < 1000000) (hparts : parts ≠ []) :
    ∃ leftOver, (beyond = [] → leftOver = false) ∧
      clockFrom? true parts beyond (fuel + 1) (twoDigits n ++ fractionText f) =
        some (.ofParts (parts ++ [n]) f leftOver) := by
  rw [twoDigits_eq h, fractionText]
  split
  · rename_i hzero
    rw [List.append_nil, hzero]
    refine ⟨_, ?_, clockFrom?_end h⟩
    rintro rfl
    rfl
  · rw [padZeros_ofNat (by decide) hf]
    exact clockFrom?_fraction h hf hparts

theorem clock_bounds {n : Nat} (h : n < microsPerDay) :
    n / 1000000 / 3600 < 24 ∧ n / 1000000 / 60 % 60 < 60 ∧ n / 1000000 % 60 < 60 ∧
      n % 1000000 < 1000000 := by
  have hday : n < 86400000000 := h
  exact ⟨by omega, Nat.mod_lt _ (by decide), Nat.mod_lt _ (by decide), Nat.mod_lt _ (by decide)⟩

/-- Hours, minutes, seconds and the fraction are read again. -/
theorem clock?_clockText {micros : Nat} (h : micros < microsPerDay) (beyond : Text) :
    ∃ r : ClockReading, clock? (clockText micros) beyond = some r ∧ r.total = micros ∧
      r.inRange = true ∧ (beyond = [] → r.leftOver = false) := by
  obtain ⟨hhours, hminutes, hseconds, hmicros⟩ := clock_bounds h
  obtain ⟨leftOver, hleft, hread⟩ := clockFrom?_seconds
    [micros / 1000000 / 3600, micros / 1000000 / 60 % 60] beyond 0
    (hseconds.trans (by decide)) hmicros (by simp)
  refine ⟨.ofParts [micros / 1000000 / 3600, micros / 1000000 / 60 % 60, micros / 1000000 % 60]
    (micros % 1000000) leftOver, ?_, ?_, ?_, hleft⟩
  · rw [clock?, clockText, twoDigits_eq (hhours.trans (by decide)),
      twoDigits_eq (hminutes.trans (by decide))]
    simp only [List.append_assoc, List.cons_append]
    rw [clockFrom?_colon (hhours.trans (by decide)) (by simp [figures]) (.inl rfl),
      clockFrom?_colon (hminutes.trans (by decide)) (by simp [twoDigits, padZeros, ofNat_ne_nil])
        (.inr rfl)]
    exact hread
  · show ((micros / 1000000 / 3600 * 60 + micros / 1000000 / 60 % 60) * 60
      + micros / 1000000 % 60) * 1000000 + micros % 1000000 = micros
    omega
  · simp only [ClockReading.inRange, ClockReading.ofParts]
    simp [hhours, hminutes, hseconds]

/-! ## Distances from universal time -/

/-- A distance as it is read: one of less than a second is none. -/
def readDistance (o : Int) : Int := if o.natAbs < 1000000 then 0 else o

/-- The clock reading of a written distance, without its sign. -/
theorem clock?_distance {n : Nat} (h : n < microsPerDay) :
    ∃ r : ClockReading, r.total = n ∧ r.leftOver = false ∧
      clock? (twoDigits (n / 1000000 / 3600) ++ ':' :: (twoDigits (n / 1000000 / 60 % 60) ++
        (if n / 1000000 % 60 = 0 ∧ n % 1000000 = 0 then []
          else ':' :: twoDigits (n / 1000000 % 60) ++ fractionText (n % 1000000)))) [] =
        some r := by
  obtain ⟨hhours, hminutes, hseconds, hmicros⟩ := clock_bounds h
  rw [clock?, twoDigits_eq (hhours.trans (by decide)), twoDigits_eq (hminutes.trans (by decide)),
    clockFrom?_colon (hhours.trans (by decide)) (by simp [figures]) (.inl rfl)]
  split
  · rename_i hwhole
    refine ⟨.ofParts [n / 1000000 / 3600, n / 1000000 / 60 % 60] 0 false, ?_, rfl, ?_⟩
    · show ((n / 1000000 / 3600 * 60 + n / 1000000 / 60 % 60) * 60 + 0) * 1000000 + 0 = n
      omega
    · rw [List.append_nil, clockFrom?_end (hminutes.trans (by decide))]
      rfl
  · obtain ⟨leftOver, hleft, hread⟩ := clockFrom?_seconds
      [n / 1000000 / 3600, n / 1000000 / 60 % 60] [] 0
      (hseconds.trans (by decide)) hmicros (by simp)
    refine ⟨.ofParts [n / 1000000 / 3600, n / 1000000 / 60 % 60, n / 1000000 % 60] (n % 1000000)
      leftOver, ?_, hleft rfl, ?_⟩
    · show ((n / 1000000 / 3600 * 60 + n / 1000000 / 60 % 60) * 60 + n / 1000000 % 60) * 1000000
        + n % 1000000 = n
      omega
    · rw [List.cons_append, clockFrom?_colon (hminutes.trans (by decide))
        (by simp [twoDigits, padZeros, ofNat_ne_nil]) (.inr rfl)]
      exact hread

theorem offset?_offsetText {o : Int} (h : o.natAbs < microsPerDay) :
    ∃ behind, offsetText o = (if o < 0 then '-' else '+') :: behind ∧
      offset? (decide (o < 0)) behind = some (readDistance o) := by
  obtain ⟨r, htotal, hleft, hread⟩ := clock?_distance h
  refine ⟨_, by rw [offsetText, List.append_assoc, List.cons_append, List.cons_append], ?_⟩
  rw [offset?, hread]
  simp only [hleft, htotal, Bool.false_eq_true, if_false, decide_eq_true_eq, readDistance]
  congr 1
  split <;> split <;> omega

/-! ## Timestamps -/

/-- A timestamp as it is read from its text. -/
def asRead (t : Timestamp) : Timestamp where
  date := t.date
  micros := t.micros
  offset := some (readDistance t.distance)
  micros_lt := t.micros_lt
  offset_lt := by
    have h := t.offset_lt
    simp only [Option.getD_some, readDistance]
    split
    · decide
    · exact h

/-- A timestamp whose stated distance is none or at least a second is read as it is. -/
theorem asRead_eq_self {t : Timestamp} {o : Int} (ho : t.offset = some o)
    (h : o = 0 ∨ 1000000 ≤ o.natAbs) : t.asRead = t := by
  obtain ⟨date, micros, offset, hmicros, hoffset⟩ := t
  obtain rfl : offset = some o := ho
  have hsame : readDistance o = o := by
    unfold readDistance
    split <;> omega
  simp only [asRead, distance, Option.getD_some, hsame]

/-- A character of a written time. -/
def isClockChar (c : Char) : Bool := isAsciiDigit c || c == ':' || c == '.'

theorem isClockChar_of_digits {s : Text} (h : AllDigits s) : ∀ c ∈ s, isClockChar c = true := by
  intro c hc
  simp [isClockChar, h c hc]

theorem isClockChar_twoDigits (n : Nat) : ∀ c ∈ twoDigits n, isClockChar c = true :=
  isClockChar_of_digits (allDigits_padZeros (allDigits_ofNat n) 2)

theorem isClockChar_fractionText (n : Nat) : ∀ c ∈ fractionText n, isClockChar c = true := by
  unfold fractionText
  split
  · simp
  · exact List.forall_mem_cons.mpr
      ⟨rfl, isClockChar_of_digits (allDigits_padZeros (allDigits_ofNat n) 6)⟩

theorem isClockChar_clockText (n : Nat) : ∀ c ∈ clockText n, isClockChar c = true := by
  have hcolon : isClockChar ':' = true := rfl
  simp only [clockText, List.forall_mem_append, List.forall_mem_cons, List.cons_append,
    List.append_assoc]
  exact ⟨isClockChar_twoDigits _, hcolon, isClockChar_twoDigits _, hcolon,
    isClockChar_twoDigits _, isClockChar_fractionText _⟩

theorem isClockChar_offsetText (o : Int) :
    ∃ sign behind, offsetText o = sign :: behind ∧ (sign = '-' ∨ sign = '+') ∧
      ∀ c ∈ behind, isClockChar c = true := by
  have hcolon : isClockChar ':' = true := rfl
  refine ⟨if o < 0 then '-' else '+', _,
    by rw [offsetText, List.append_assoc, List.cons_append, List.cons_append], ?_, ?_⟩
  · split
    · exact .inl rfl
    · exact .inr rfl
  · simp only [List.forall_mem_append, List.forall_mem_cons]
    refine ⟨isClockChar_twoDigits _, hcolon, isClockChar_twoDigits _, ?_⟩
    split
    · simp
    · simp only [List.cons_append, List.forall_mem_cons, List.forall_mem_append]
      exact ⟨hcolon, isClockChar_twoDigits _, isClockChar_fractionText _⟩

theorem not_beginsOffset_of_isClockChar {c : Char} (h : isClockChar c = true) :
    beginsOffset c = false ∧ c ≠ 'Z' := by
  have hne : ∀ x, isClockChar x = false → c ≠ x := by
    rintro x hx rfl
    rw [hx] at h
    cases h
  have hplus := hne '+' (by decide)
  have hminus := hne '-' (by decide)
  have hzulu := hne 'Z' (by decide)
  exact ⟨by simp [beginsOffset, hplus, hminus, hzulu], hzulu⟩

theorem clockText_not_beginsOffset (n : Nat) : ∀ c ∈ clockText n, (!beginsOffset c) = true := by
  intro c hc
  rw [(not_beginsOffset_of_isClockChar (isClockChar_clockText n c hc)).1]
  rfl

/-- A time of day without a distance. -/
theorem timeOfDay?_clockText {n : Nat} (h : n < microsPerDay) :
    timeOfDay? (clockText n) = some (n, none) := by
  have hclock := clockText_not_beginsOffset n
  obtain ⟨r, hread, htotal, hrange, hleft⟩ := clock?_clockText h []
  have htake : (clockText n).takeWhile (fun c => !beginsOffset c) = clockText n :=
    List.takeWhile_eq_self_iff.mpr hclock
  have hdrop : (clockText n).dropWhile (fun c => !beginsOffset c) = [] :=
    List.dropWhile_eq_nil_iff.mpr hclock
  rw [timeOfDay?, htake, hdrop]
  simp only [hread, hrange, hleft rfl, htotal, Bool.not_true, Bool.false_eq_true, if_false]

/-- The time of day ends at the sign of the distance. -/
theorem timeOfDay?_clockText_append {n : Nat} (h : n < microsPerDay) {sign : Char}
    (hsign : sign = '-' ∨ sign = '+') (behind : Text) :
    timeOfDay? (clockText n ++ sign :: behind) =
      (offset? (sign == '-') behind).map fun o => (n, some o) := by
  have hclock := clockText_not_beginsOffset n
  have hbegins : beginsOffset sign = true := by rcases hsign with rfl | rfl <;> rfl
  obtain ⟨r, hread, htotal, hrange, -⟩ := clock?_clockText h (sign :: behind)
  have htake : (clockText n ++ sign :: behind).takeWhile (fun c => !beginsOffset c) =
      clockText n := by
    rw [List.takeWhile_append_of_pos hclock, List.takeWhile_cons_of_neg (by simp [hbegins]),
      List.append_nil]
  have hdrop : (clockText n ++ sign :: behind).dropWhile (fun c => !beginsOffset c) =
      sign :: behind := by
    rw [List.dropWhile_append_of_pos hclock, List.dropWhile_cons_of_neg (by simp [hbegins])]
  rw [timeOfDay?, htake, hdrop]
  rcases hsign with rfl | rfl
  · simp only [hread, hrange, htotal, Bool.not_true, Bool.false_eq_true, if_false]
    rfl
  · simp only [hread, hrange, htotal, Bool.not_true, Bool.false_eq_true, if_false]
    rfl

/-- What is read of the time behind the date. -/
theorem timeOfDay?_toText (t : Timestamp) :
    timeOfDay? (clockText t.micros ++ (t.offset.map offsetText).getD []) =
      some (t.micros, t.offset.map readDistance) := by
  obtain ⟨date, micros, offset, hmicros, hoffset⟩ := t
  cases offset with
  | none => simpa using timeOfDay?_clockText hmicros
  | some o =>
    obtain ⟨behind, htext, hread⟩ := offset?_offsetText (o := o) hoffset
    rw [Option.map_some, Option.getD_some, htext]
    by_cases ho : o < 0
    · rw [decide_eq_true ho] at hread
      rw [if_pos ho, timeOfDay?_clockText_append hmicros (.inl rfl), beq_self_eq_true, hread]
      rfl
    · rw [decide_eq_false ho] at hread
      rw [if_neg ho, timeOfDay?_clockText_append hmicros (.inr rfl), beq_false_of_ne (by decide),
        hread]
      rfl

theorem expandZulu_eq_self {s : Text} (h : 'Z' ∉ s) : expandZulu s = s := by
  induction s with
  | nil => rfl
  | cons c s ih =>
    obtain ⟨hc, hs⟩ := not_or.mp (mt List.mem_cons.mpr h)
    rw [expandZulu, List.flatMap_cons, if_neg (Ne.symm hc)]
    exact congrArg (c :: ·) (ih hs)

theorem zulu_not_mem_toText (t : Timestamp) : 'Z' ∉ t.toText := by
  have hfigures : ∀ w n, 'Z' ∉ figures w n := fun w n h =>
    absurd (allDigits_figures w n _ h) (by decide)
  have hclock : 'Z' ∉ clockText t.micros := fun h =>
    (not_beginsOffset_of_isClockChar (isClockChar_clockText _ _ h)).2 rfl
  have hoffset : 'Z' ∉ (t.offset.map offsetText).getD [] := by
    cases t.offset with
    | none => simp
    | some o =>
      obtain ⟨sign, behind, htext, hsign, hbehind⟩ := isClockChar_offsetText o
      rw [Option.map_some, Option.getD_some, htext]
      intro h
      rcases List.mem_cons.mp h with rfl | h
      · rcases hsign with h | h <;> cases h
      · exact (not_beginsOffset_of_isClockChar (hbehind _ h)).2 rfl
  rw [toText, Date.toText_eq]
  simp [hfigures, hclock, hoffset]

theorem toText_eq (t : Timestamp) :
    t.toText = t.date.toText ++ ('T' ::
      (clockText t.micros ++ (t.offset.map offsetText).getD [])) := by
  rw [toText, List.append_assoc, List.cons_append]

/-- The date of a written timestamp is recognized by its hyphens. -/
theorem dateLength_toText (t : Timestamp) : dateLength t.toText = 10 := by
  obtain ⟨a, b, hab, ha, -⟩ := figures_two_eq t.date.month
  have hletter : (a == 'W') = false := by
    rw [beq_eq_false_iff_ne]
    rintro rfl
    exact absurd ha (by decide)
  have hfourth : standsAt t.toText 4 '-' = true := by
    rw [toText_eq, Date.toText_eq]
    rfl
  have hfifth : standsAt t.toText 5 'W' = false := by
    rw [toText_eq, Date.toText_eq, hab]
    exact hletter
  rw [dateLength, hfourth, hfifth]
  rfl

theorem ofIso?_toText (t : Timestamp) :
    ofIso? t.toText = make? t.date t.micros (t.offset.map readDistance) := by
  have hdate : t.date.toText.length = 10 := by simp [Date.toText_eq]
  have htake : t.toText.take 10 = t.date.toText := by
    rw [toText_eq, List.take_append_of_le_length (by omega), List.take_of_length_le (by omega)]
  have hdrop : t.toText.drop 10 = 'T' ::
      (clockText t.micros ++ (t.offset.map offsetText).getD []) := by
    rw [toText_eq, List.drop_append_of_le_length (by omega), List.drop_of_length_le (by omega),
      List.nil_append]
  rw [ofIso?, dateLength_toText, if_neg (by rw [toText_eq, List.length_append, hdate]; omega)]
  simp only [htake, hdrop, date?_toText, timeOfDay?_toText, Option.bind_some]

/-- A written timestamp is read as itself, but for a distance of less than a second. -/
theorem ofText?_toText (t : Timestamp) : ofText? t.toText = some t.asRead := by
  have hrange : ((t.offset.map readDistance).getD 0).natAbs < microsPerDay := by
    have h := t.asRead.offset_lt
    obtain ⟨date, micros, offset, hmicros, hoffset⟩ := t
    cases offset with
    | none =>
      show (0 : Int).natAbs < microsPerDay
      decide
    | some o => exact h
  rw [ofText?, ofZulu?, expandZulu_eq_self (zulu_not_mem_toText t), ofIso?_toText, make?,
    dif_pos ⟨t.micros_lt, hrange⟩]
  obtain ⟨date, micros, offset, hmicros, hoffset⟩ := t
  cases offset with
  | none => rfl
  | some o => rfl

/-! ## Timestamps that were read -/

theorem readDistance_eq_self_iff {o : Int} :
    readDistance o = o ↔ o = 0 ∨ 1000000 ≤ o.natAbs := by
  unfold readDistance
  split <;> omega

/-- Exactly the distances of less than a second are lost. -/
theorem asRead_eq_self_iff {t : Timestamp} {o : Int} (ho : t.offset = some o) :
    t.asRead = t ↔ o = 0 ∨ 1000000 ≤ o.natAbs := by
  constructor
  · intro h
    have hoffset : some (readDistance t.distance) = t.offset := congrArg Timestamp.offset h
    rw [distance, ho, Option.getD_some, Option.some_inj] at hoffset
    exact readDistance_eq_self_iff.mp hoffset
  · exact asRead_eq_self ho

/-- A distance of less than a second is read as none. -/
theorem offset_asRead_of_short {t : Timestamp} {o : Int} (ho : t.offset = some o)
    (hshort : o.natAbs < 1000000) : t.asRead.offset = some 0 := by
  have hread : readDistance t.distance = 0 := by
    rw [distance, ho, Option.getD_some, readDistance, if_pos hshort]
  exact congrArg some hread

theorem readDistance_of_offset? {negative : Bool} {s : Text} {o : Int}
    (h : offset? negative s = some o) : readDistance o = o := by
  rw [offset?] at h
  cases hread : clock? s [] with
  | none =>
    rw [hread] at h
    cases h
  | some r =>
    simp only [hread] at h
    split at h
    · cases h
    · -- what is less than a second has been set to none
      obtain rfl := Option.some.inj h
      refine readDistance_eq_self_iff.mpr ?_
      split <;> split <;> omega

theorem readDistance_of_timeOfDay? {s : Text} {n : Nat} {o : Int}
    (h : timeOfDay? s = some (n, some o)) : readDistance o = o := by
  rw [timeOfDay?] at h
  cases hread : clock? (s.takeWhile fun c => !beginsOffset c)
      (s.dropWhile fun c => !beginsOffset c) with
  | none =>
    rw [hread] at h
    cases h
  | some r =>
    simp only [hread] at h
    split at h
    · cases h
    · split at h
      · split at h <;> cases h
      · split at h
        · cases h
          rfl
        · cases h
      · obtain ⟨o', ho', heq⟩ := Option.map_eq_some_iff.mp h
        cases heq
        exact readDistance_of_offset? ho'

theorem eq_of_make? {date : Date} {micros : Nat} {offset : Option Int} {t : Timestamp}
    (h : make? date micros offset = some t) : t.offset = offset := by
  unfold make? at h
  split at h
  · obtain rfl := Option.some.inj h
    rfl
  · cases h

theorem readDistance_of_ofIso? {s : Text} {t : Timestamp} (h : ofIso? s = some t) :
    readDistance t.distance = t.distance := by
  have hnone : t.offset = none → readDistance t.distance = t.distance := by
    intro ho
    rw [distance, ho]
    rfl
  rw [ofIso?] at h
  split at h
  · cases h
  · simp only at h
    split at h
    · cases h
    · split at h
      · exact hnone (eq_of_make? h)
      · obtain ⟨⟨micros, offset⟩, htime, hmake⟩ := Option.bind_eq_some_iff.mp h
        have hoffset := eq_of_make? hmake
        cases offset with
        | none => exact hnone hoffset
        | some o =>
          rw [distance, hoffset]
          exact readDistance_of_timeOfDay? htime

/-- A timestamp that was read is read as it is when it is written again. -/
theorem asRead_of_ofText? {s : Text} {t : Timestamp} (h : ofText? s = some t) : t.asRead = t := by
  obtain ⟨u, hu, rfl⟩ := Option.map_eq_some_iff.mp h
  refine (asRead_eq_self_iff rfl).mpr (readDistance_eq_self_iff.mp ?_)
  exact readDistance_of_ofIso? hu

end Timestamp

end QueryGate
