import QueryGate.Proofs.Time.Reading

/-! # The ends of the calendar

Every date but the first has a day before it (`Date.previous?_eq_none_iff`), and every date but
the last has one behind it (`Date.next?_eq_none_iff`).  So the universal date of a timestamp is
missing in few places (`utcDate_eq_error_iff`): on the first date when the universal clock still
shows the day before, on the last date when it shows the day after, and on the first date if no
distance from universal time is stated, since that is looked up in the day before. -/

namespace QueryGate

namespace Date

/-- The first date of the calendar. -/
def earliest : Date := (make? 1 1 1).get (by decide)

/-- The last date of the calendar. -/
def latest : Date := (make? 9999 12 31).get (by decide)

theorem make?_eq_none_iff {y m n : Nat} :
    make? y m n = none ↔ ¬ ((1 ≤ y ∧ y ≤ 9999) ∧ 1 ≤ n ∧ n ≤ daysInMonth y m) := by
  by_cases h : (1 ≤ y ∧ y ≤ 9999) ∧ 1 ≤ n ∧ n ≤ daysInMonth y m
  · rw [make?, dif_pos h]
    exact iff_of_false (Option.some_ne_none _) (not_not_intro h)
  · rw [make?, dif_neg h]
    exact iff_of_true rfl h

/-- A month has days exactly if it is one of the twelve. -/
theorem daysInMonth_pos_iff {y m : Nat} : 1 ≤ daysInMonth y m ↔ 1 ≤ m ∧ m ≤ 12 := by
  constructor
  · intro h
    obtain ⟨hzero, hlength⟩ : m ≠ 0 ∧ m - 1 < (monthLengths y).length := by
      unfold daysInMonth at h
      split at h
      · omega
      · refine ⟨‹_›, ?_⟩
        by_contra hlength
        rw [List.getElem?_eq_none (by omega), Option.getD_none] at h
        omega
    simp only [monthLengths, List.length_cons, List.length_nil] at hlength
    omega
  · rintro ⟨hpos, hle⟩
    have hlength : m - 1 < (monthLengths y).length := by
      simp only [monthLengths, List.length_cons, List.length_nil]
      omega
    have hmem : (monthLengths y)[m - 1] ∈ monthLengths y := List.getElem_mem hlength
    rw [daysInMonth, if_neg (by omega), List.getElem?_eq_getElem hlength, Option.getD_some]
    generalize (monthLengths y)[m - 1] = n at hmem ⊢
    simp only [monthLengths, List.mem_cons, List.not_mem_nil, or_false] at hmem
    split at hmem <;> omega

theorem month_pos (d : Date) : 1 ≤ d.month :=
  (daysInMonth_pos_iff.mp (d.day_pos.trans d.day_le)).1

/-- Every date but the first has a day before it. -/
theorem previous?_eq_none_iff {d : Date} : d.previous? = none ↔ d = earliest := by
  constructor
  · intro h
    have hyear := d.year_pos
    have hyear' := d.year_le
    have hmonth := d.month_pos
    have hmonth' := d.month_le
    have hday := d.day_pos
    have hday' := d.day_le
    unfold previous? at h
    split at h
    · rw [make?_eq_none_iff] at h
      omega
    · split at h
      · have hlast : 1 ≤ daysInMonth d.year (d.month - 1) := daysInMonth_pos_iff.mpr (by omega)
        rw [make?_eq_none_iff] at h
        omega
      · have hlast : daysInMonth (d.year - 1) 12 = 31 := rfl
        rw [make?_eq_none_iff, hlast] at h
        exact eq_of_parts (show d.year = 1 by omega) (show d.month = 1 by omega)
          (show d.day = 1 by omega)
  · rintro rfl
    rfl

/-- Every date but the last has a day behind it. -/
theorem next?_eq_none_iff {d : Date} : d.next? = none ↔ d = latest := by
  constructor
  · intro h
    have hyear := d.year_pos
    have hyear' := d.year_le
    have hmonth := d.month_pos
    have hmonth' := d.month_le
    have hday := d.day_pos
    have hday' := d.day_le
    unfold next? at h
    split at h
    · cases h
    · rename_i hsame
      split at h
      · cases h
      · rename_i hmonths
        have hfirst : daysInMonth (d.year + 1) 1 = 31 := rfl
        rw [make?_eq_none_iff] at hsame hmonths h
        rw [hfirst] at h
        have hdecember : ¬ 1 ≤ daysInMonth d.year (d.month + 1) := by omega
        rw [daysInMonth_pos_iff] at hdecember
        have hmonth : d.month = 12 := by omega
        have hlast : daysInMonth d.year d.month = 31 := by
          rw [hmonth]
          rfl
        exact eq_of_parts (show d.year = 9999 by omega) hmonth (show d.day = 31 by omega)
  · rintro rfl
    rfl

end Date

namespace Timestamp

/-- The instant has no universal date: it lies before the first date or behind the last, or no
distance is stated on the first date. -/
def LeavesCalendar (t : Timestamp) : Prop :=
  (t.date = Date.earliest ∧ (t.offset = none ∨ (t.micros : Int) < t.distance)) ∨
    (t.date = Date.latest ∧ (microsPerDay : Int) ≤ t.micros - t.distance)

instance (t : Timestamp) : Decidable t.LeavesCalendar :=
  inferInstanceAs (Decidable (_ ∨ _))

variable {t : Timestamp}

/-- The time of day by the universal clock is in range, so only the date may be missing. -/
theorem bind_make?_eq_none_iff {m : Nat} (h : m < microsPerDay) (d? : Option Date) :
    (d?.bind fun d => make? d m (some 0)) = none ↔ d? = none := by
  cases d? with
  | none => simp
  | some d =>
    rw [Option.bind_some, make?, dif_pos ⟨h, by decide⟩]
    exact iff_of_false (Option.some_ne_none _) (Option.some_ne_none _)

theorem shifted?_eq_none_iff : t.shifted? = none ↔
    (t.date = Date.earliest ∧ (t.micros : Int) < t.distance) ∨
      (t.date = Date.latest ∧ (microsPerDay : Int) ≤ t.micros - t.distance) := by
  have hmicros := t.micros_lt
  have hdistance : t.distance.natAbs < microsPerDay := t.offset_lt
  unfold shifted?
  simp only
  split
  · have hlate : ¬ (microsPerDay : Int) ≤ t.micros - t.distance := by omega
    have hearly : (t.micros : Int) < t.distance := by omega
    rw [bind_make?_eq_none_iff (by omega), Date.previous?_eq_none_iff]
    simp only [hearly, hlate, and_true, and_false, or_false]
  · have hearly : ¬ (t.micros : Int) < t.distance := by omega
    split
    · rename_i hlate
      rw [bind_make?_eq_none_iff (by omega), Date.next?_eq_none_iff]
      simp only [hearly, hlate, and_true, and_false, false_or]
    · rename_i hlate
      have hsame := bind_make?_eq_none_iff
        (show ((t.micros : Int) - t.distance).toNat < microsPerDay by omega) (some t.date)
      rw [Option.bind_some] at hsame
      rw [hsame]
      simp only [hearly, hlate, and_false, or_false, reduceCtorEq]

/-- **The universal date is missing only at the ends of the calendar.** -/
theorem utcDate_eq_error_iff : (∃ f, t.utcDate = .error f) ↔ t.LeavesCalendar := by
  have hnone : t.offset.isNone = true ↔ t.offset = none := Option.isNone_iff_eq_none
  have hprevious : t.date.previous?.isNone = true ↔ t.date = Date.earliest := by
    rw [Option.isNone_iff_eq_none, Date.previous?_eq_none_iff]
  rw [utcDate, toUtc, LeavesCalendar, and_or_left, or_assoc, ← shifted?_eq_none_iff]
  by_cases hlookup : t.offset = none ∧ t.date = Date.earliest
  · rw [hnone.mpr hlookup.1, hprevious.mpr hlookup.2, Bool.and_self, if_pos rfl]
    exact iff_of_true ⟨_, rfl⟩ (.inl ⟨hlookup.2, hlookup.1⟩)
  · have hlookup' : ¬ (t.offset.isNone && t.date.previous?.isNone) = true := by
      rwa [Bool.and_eq_true, hnone, hprevious]
    rw [if_neg hlookup', or_iff_right fun h => hlookup ⟨h.2, h.1⟩]
    cases t.shifted? with
    | none => simp [Except.map]
    | some u => simp [Except.map]

end Timestamp

end QueryGate
