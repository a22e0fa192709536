import QueryGate.Audit.Trail
import QueryGate.Proofs.Time.Reading
import Mathlib.Data.List.Sort
import Mathlib.Data.List.Dedup

/-! # Partitions in the order of their days

The names of the partitions of a series are in the order of the days they stand for
(`le_partitionName_iff`), and no name belongs to two days or to two series.  So if a directory
holds one file for each day of some dated records, a query reads the files of the newest days,
newest first (`partitions_eq`).

What a query is to find is said by `newestFirst`: the days on which there are records, newest
first, and the records of each day in the reverse of their order. -/

namespace QueryGate

open Text

/-! ## Order of texts and of dates -/

namespace Text

theorem le_refl (s : Text) : le s s = true := by
  induction s with
  | nil => rfl
  | cons a s ih => rw [le, if_pos rfl, ih]

theorem le_antisymm {s t : Text} (hst : le s t = true) (hts : le t s = true) : s = t := by
  induction s generalizing t with
  | nil =>
    cases t with
    | nil => rfl
    | cons b t => cases hts
  | cons a s ih =>
    cases t with
    | nil => cases hst
    | cons b t =>
      rw [le] at hst hts
      by_cases h : a = b
      · subst h
        rw [if_pos rfl] at hst hts
        rw [ih hst hts]
      · rw [if_neg h, decide_eq_true_eq] at hst
        rw [if_neg (Ne.symm h), decide_eq_true_eq] at hts
        exact absurd hts (Char.lt_asymm hst)

theorem le_trans {s t u : Text} (hst : le s t = true) (htu : le t u = true) : le s u = true := by
  induction s generalizing t u with
  | nil => cases u <;> rfl
  | cons a s ih =>
    cases t with
    | nil => cases hst
    | cons b t =>
      cases u with
      | nil => cases htu
      | cons c u =>
        rw [le] at hst htu ⊢
        by_cases hab : a = b
        · subst hab
          rw [if_pos rfl] at hst
          by_cases hac : a = c
          · rw [if_pos hac] at htu ⊢
            exact ih hst htu
          · rw [if_neg hac] at htu ⊢
            exact htu
        · rw [if_neg hab, decide_eq_true_eq] at hst
          by_cases hbc : b = c
          · subst hbc
            rw [if_neg hab, decide_eq_true_eq]
            exact hst
          · rw [if_neg hbc, decide_eq_true_eq] at htu
            have hac : a < c := Char.lt_trans hst htu
            rw [if_neg (Char.ne_of_lt hac), decide_eq_true_eq]
            exact hac

theorem le_total (s t : Text) : le s t = true ∨ le t s = true := by
  induction s generalizing t with
  | nil => exact .inl (by cases t <;> rfl)
  | cons a s ih =>
    cases t with
    | nil => exact .inr rfl
    | cons b t =>
      rw [le, le]
      by_cases h : a = b
      · subst h
        rw [if_pos rfl, if_pos rfl]
        exact ih t
      · rw [if_neg h, if_neg (Ne.symm h), decide_eq_true_eq, decide_eq_true_eq]
        by_contra hneither
        obtain ⟨hab, hba⟩ := not_or.mp hneither
        exact h (Char.le_antisymm (Char.not_lt.mp hba) (Char.not_lt.mp hab))

theorem le_append_left (p s t : Text) : le (p ++ s) (p ++ t) = le s t := by
  induction p with
  | nil => rfl
  | cons c p ih => rw [List.cons_append, List.cons_append, le, if_pos rfl, ih]

end Text

namespace Date

/-- A date lies before another in the calendar. -/
def Before (a b : Date) : Prop :=
  a.year < b.year ∨ a.year = b.year ∧ (a.month < b.month ∨ a.month = b.month ∧ a.day < b.day)

instance (a b : Date) : Decidable (a.Before b) := by
  unfold Before
  infer_instance

theorem before_trans {a b c : Date} (hab : a.Before b) (hbc : b.Before c) : a.Before c := by
  unfold Before at *
  omega

theorem not_before_self (a : Date) : ¬ a.Before a := by
  unfold Before
  omega

theorem before_or_eq_or_before (a b : Date) : a.Before b ∨ a = b ∨ b.Before a := by
  by_cases h : a.year = b.year ∧ a.month = b.month ∧ a.day = b.day
  · exact .inr (.inl (eq_of_parts h.1 h.2.1 h.2.2))
  · unfold Before
    omega

/-- A date is another or lies behind it in the calendar. -/
def NoEarlier (a b : Date) : Prop := b.Before a ∨ a = b

instance (a b : Date) : Decidable (a.NoEarlier b) := inferInstanceAs (Decidable (_ ∨ _))

instance : Std.Total NoEarlier where
  total a b := by
    rcases before_or_eq_or_before a b with h | h | h
    · exact .inr (.inl h)
    · exact .inl (.inr h)
    · exact .inl (.inl h)

instance : IsTrans Date NoEarlier where
  trans a b c hab hbc := by
    rcases hab with hab | rfl
    · rcases hbc with hbc | rfl
      · exact .inl (before_trans hbc hab)
      · exact .inl hab
    · exact hbc

/-- The texts of dates are in the order of the calendar, and so is what begins with them. -/
theorem le_toText_append_iff (a b : Date) (s t : Text) :
    le (a.toText ++ s) (b.toText ++ t) = true ↔ a.Before b ∨ (a = b ∧ le s t = true) := by
  have hyears : a.year < 10 ^ 4 ∧ b.year < 10 ^ 4 := by
    have ha := a.year_le
    have hb := b.year_le
    omega
  have hmonths : a.month < 10 ^ 2 ∧ b.month < 10 ^ 2 := by
    have ha := a.month_le
    have hb := b.month_le
    omega
  have hdays : a.day < 10 ^ 2 ∧ b.day < 10 ^ 2 := by
    have ha := a.day_le_31
    have hb := b.day_le_31
    omega
  have hhyphen (x y : Text) : le ('-' :: x) ('-' :: y) = le x y := le_append_left ['-'] x y
  rw [toText_eq, toText_eq]
  simp only [List.append_assoc, List.cons_append]
  -- numbers of equal width are compared one after another
  rw [le_figures_append hyears.1 hyears.2, hhyphen, le_figures_append hmonths.1 hmonths.2, hhyphen,
    le_figures_append hdays.1 hdays.2]
  unfold Before
  constructor
  · rintro (h | ⟨hy, h | ⟨hm, h | ⟨hd, h⟩⟩⟩)
    · exact .inl (.inl h)
    · exact .inl (.inr ⟨hy, .inl h⟩)
    · exact .inl (.inr ⟨hy, .inr ⟨hm, h⟩⟩)
    · exact .inr ⟨eq_of_parts hy hm hd, h⟩
  · rintro ((h | ⟨hy, h | ⟨hm, h⟩⟩) | ⟨rfl, h⟩)
    · exact .inl h
    · exact .inr ⟨hy, .inl h⟩
    · exact .inr ⟨hy, .inr ⟨hm, .inl h⟩⟩
    · exact .inr ⟨rfl, .inr ⟨rfl, .inr ⟨rfl, h⟩⟩⟩

end Date

namespace Audit

/-! ## Names of partitions -/

variable {series : Text} {a b : Date}

theorem le_partitionName_iff :
    le (partitionName series a) (partitionName series b) = true ↔ a.Before b ∨ a = b := by
  have hend : le partitionEnd partitionEnd = true := by decide
  rw [partitionName, partitionName, List.append_assoc, List.append_assoc, le_append_left,
    Date.le_toText_append_iff]
  simp [hend]

theorem partitionName_inj : partitionName series a = partitionName series b ↔ a = b := by
  constructor
  · intro h
    have hself : le (partitionName series b) (partitionName series b) = true :=
      le_refl _
    have hab : a.Before b ∨ a = b := le_partitionName_iff.mp (by rw [h]; exact hself)
    have hba : b.Before a ∨ b = a := le_partitionName_iff.mp (by rw [h]; exact hself)
    rcases hab with hab | hab
    · rcases hba with hba | hba
      · exact absurd (Date.before_trans hab hba) a.not_before_self
      · exact hba.symm
    · exact hab
  · rintro rfl
    rfl

/-- A name is one of a series if it begins as the series does and ends as partitions do. -/
def isOfSeries (series name : Text) : Bool := beginsWith series name && endsWith partitionEnd name

theorem isOfSeries_partitionName (series : Text) (day : Date) :
    isOfSeries series (partitionName series day) = true := by
  rw [isOfSeries, endsWith, partitionName, List.reverse_append, List.append_assoc, beginsWith,
    beginsWith, dropLead?_append, dropLead?_append]
  rfl

theorem isOfSeries_other (day : Date) :
    isOfSeries entrySeries (partitionName violationSeries day) = false ∧
      isOfSeries violationSeries (partitionName entrySeries day) = false := ⟨rfl, rfl⟩

/-! ## Dated records -/

variable {α κ : Type}

/-- The records of one day, or of one name. -/
def recordsAt [DecidableEq κ] (k : κ) (l : List (κ × α)) : List α :=
  (l.filter fun r => r.1 = k).map (·.2)

theorem mem_recordsAt [DecidableEq κ] {k : κ} {l : List (κ × α)} {a : α} :
    a ∈ recordsAt k l ↔ (k, a) ∈ l := by
  simp [recordsAt]

/-- The days on which there are records, newest first. -/
def days (l : List (Date × α)) : List Date :=
  (l.map (·.1)).dedup.insertionSort Date.NoEarlier

/-- The records of the newest days, newest day first; the records of each day in the reverse of
their order. -/
def newestFirst (window : Nat) (l : List (Date × α)) : List α :=
  ((days l).take window).flatMap fun day => (recordsAt day l).reverse

theorem mem_days {l : List (Date × α)} {day : Date} : day ∈ days l ↔ ∃ a, (day, a) ∈ l := by
  rw [days, List.mem_insertionSort, List.mem_dedup, List.mem_map]
  constructor
  · rintro ⟨⟨day, a⟩, hmem, rfl⟩
    exact ⟨a, hmem⟩
  · rintro ⟨a, hmem⟩
    exact ⟨(day, a), hmem, rfl⟩

theorem days_pairwise (l : List (Date × α)) : (days l).Pairwise fun a b => b.Before a := by
  have hsorted : (days l).Pairwise Date.NoEarlier := List.pairwise_insertionSort _ _
  have hnodup : (days l).Nodup :=
    (List.perm_insertionSort _ _).nodup_iff.mpr (List.nodup_dedup _)
  refine (hsorted.and hnodup).imp ?_
  rintro a b ⟨hle, hne⟩
  exact hle.resolve_right hne

/-! ## The files that a query reads -/

/-- The name of a file comes behind that of another. -/
def NameBehind (p q : Text × File) : Prop := le q.1 p.1 = true ∧ p.1 ≠ q.1

instance : Std.Irrefl NameBehind := ⟨fun _ h => h.2 rfl⟩

instance : Std.Antisymm NameBehind where
  antisymm p q hpq hqp := by
    exact absurd (le_antisymm hqp.1 hpq.1) hpq.2

/-- If no name stands twice, the files in the reverse order of names are strictly descending. -/
theorem sorted_reverse_pairwise {d : Directory} (hnames : (d.files.map (·.1)).Nodup) :
    d.sorted.reverse.Pairwise NameBehind := by
  have htrans : ∀ p q r : Text × File, le p.1 q.1 = true → le q.1 r.1 = true →
      le p.1 r.1 = true := by
    intro p q r hpq hqr
    exact le_trans hpq hqr
  have htotal : ∀ p q : Text × File, (le p.1 q.1 || le q.1 p.1) = true := by
    intro p q
    rw [Bool.or_eq_true]
    exact le_total p.1 q.1
  have hsorted := List.pairwise_mergeSort htrans htotal d.files
  have hdistinct : d.sorted.Pairwise fun p q => p.1 ≠ q.1 := by
    have hnodup : (d.sorted.map (·.1)).Nodup :=
      ((List.mergeSort_perm _ _).map _).nodup_iff.mpr hnames
    exact List.pairwise_map.mp hnodup
  rw [List.pairwise_reverse]
  exact (hsorted.and hdistinct).imp fun h => ⟨h.1, h.2.symm⟩

variable {d : Directory} {window : Int} {l : List (Date × α)} {bytes : Date → List UInt8}

/-- **A query reads the files of the newest days**, newest first, if a directory has one file for
each day of some records. -/
theorem partitions_eq (hwindow : 1 ≤ window) (hnames : (d.files.map (·.1)).Nodup)
    (hfiles : ∀ p, (p ∈ d.files ∧ isOfSeries series p.1 = true) ↔
      ∃ day ∈ days l, p = (partitionName series day, .content (bytes day))) :
    partitions series window d = ((days l).take window.toNat).map fun day =>
      (partitionName series day, .content (bytes day)) := by
  have hread : (d.sorted.reverse.filter fun p => isOfSeries series p.1).Pairwise NameBehind :=
    (sorted_reverse_pairwise hnames).filter _
  have hwritten : ((days l).map fun day => (partitionName series day,
      File.content (bytes day))).Pairwise NameBehind := by
    rw [List.pairwise_map]
    refine (days_pairwise l).imp ?_
    intro a b hba
    refine ⟨le_partitionName_iff.mpr (.inl hba), ?_⟩
    intro hname
    obtain rfl := partitionName_inj.mp hname
    exact a.not_before_self hba
  -- two descending lists with the same members are one list
  have hsame : (d.sorted.reverse.filter fun p => isOfSeries series p.1) =
      (days l).map fun day => (partitionName series day, File.content (bytes day)) := by
    refine hread.eq_of_mem_iff hwritten ?_
    intro p
    rw [List.mem_filter, List.mem_reverse, Directory.sorted, List.mem_mergeSort, hfiles,
      List.mem_map]
    simp only [eq_comm]
  rw [partitions, takeUpTo, if_pos (by omega), ← List.filter_reverse, List.map_take, ← hsame]
  rfl

end Audit

end QueryGate
