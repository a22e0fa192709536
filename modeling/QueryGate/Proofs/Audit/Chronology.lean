import QueryGate.Proofs.Audit.Recall

/-! # Records in the order of time

If the days of some records never go back, and there are no more of them than a query reads, then
newest first is the order of recording backwards (`newestFirst_eq_reverse`): no day is left out,
and the records of a day stand together. -/

namespace QueryGate.Audit

variable {α : Type} {l : List (Date × α)}

theorem recordsAt_reverse (day : Date) (l : List (Date × α)) :
    (recordsAt day l).reverse = recordsAt day l.reverse := by
  rw [recordsAt, recordsAt, List.filter_reverse, List.map_reverse]

theorem recordsAt_cons_self (day : Date) (a : α) (l : List (Date × α)) :
    recordsAt day ((day, a) :: l) = a :: recordsAt day l := by
  simp [recordsAt]

theorem recordsAt_cons_of_ne {day day' : Date} (h : day' ≠ day) (a : α) (l : List (Date × α)) :
    recordsAt day ((day', a) :: l) = recordsAt day l := by
  simp [recordsAt, h]

/-- The records of descending days, taken day by day, are the records as they stand, if these do
not ascend either.  By induction on the records: the first one is of the newest day that has any. -/
theorem flatMap_recordsAt {days : List Date} (hdays : days.Pairwise fun a b => b.Before a)
    (hsorted : (l.map (·.1)).Pairwise Date.NoEarlier) (hmem : ∀ r ∈ l, r.1 ∈ days) :
    days.flatMap (recordsAt · l) = l.map (·.2) := by
  induction l with
  | nil => simp [recordsAt]
  | cons r l ih =>
    obtain ⟨day, a⟩ := r
    rw [List.map_cons, List.pairwise_cons] at hsorted
    obtain ⟨hlatest, hsorted⟩ := hsorted
    have hrest := ih hsorted fun r hr => hmem r (List.mem_cons_of_mem _ hr)
    obtain ⟨newer, older, rfl⟩ := List.append_of_mem (hmem (day, a) List.mem_cons_self)
    obtain ⟨-, hday, hnewer⟩ := List.pairwise_append.mp hdays
    -- no record is of a newer day, and none of an older one stands in front
    have hnone : newer.flatMap (recordsAt · l) = [] := by
      refine List.flatMap_eq_nil_iff.mpr fun n hn => ?_
      refine List.eq_nil_iff_forall_not_mem.mpr fun b hb => ?_
      have hle := hlatest n (List.mem_map_of_mem (mem_recordsAt.mp hb))
      have hlt := hnewer n hn day List.mem_cons_self
      rcases hle with hle | rfl
      · exact Date.not_before_self n (Date.before_trans hle hlt)
      · exact Date.not_before_self _ hlt
    have hsame : ∀ ds : List Date, day ∉ ds →
        ds.flatMap (recordsAt · ((day, a) :: l)) = ds.flatMap (recordsAt · l) := by
      intro ds hds
      refine List.flatMap_congr fun d hd => recordsAt_cons_of_ne ?_ a l
      rintro rfl
      exact hds hd
    have hnotNewer : day ∉ newer := fun h =>
      Date.not_before_self day (hnewer day h day List.mem_cons_self)
    have hnotOlder : day ∉ older := fun h =>
      Date.not_before_self day ((List.pairwise_cons.mp hday).1 day h)
    rw [List.flatMap_append, List.flatMap_cons, hnone, List.nil_append] at hrest
    rw [List.flatMap_append, List.flatMap_cons, hsame newer hnotNewer, hsame older hnotOlder, hnone,
      recordsAt_cons_self, List.nil_append, List.cons_append, hrest, List.map_cons]

/-- Among fewer days there are no more different ones. -/
theorem length_dedup_le {days days' : List Date} (h : days ⊆ days') :
    days.dedup.length ≤ days'.dedup.length := by
  refine (List.nodup_dedup days).subperm ?_ |>.length_le
  intro day hday
  exact List.mem_dedup.mpr (h (List.mem_dedup.mp hday))

theorem length_days (l : List (Date × α)) : (days l).length = (l.map (·.1)).dedup.length :=
  List.length_insertionSort _ _

/-- **Newest first is the order of recording backwards**, if the days of the records never go back
and are no more than the window holds. -/
theorem newestFirst_eq_reverse {window : Nat}
    (hsorted : (l.map (·.1)).Pairwise fun a b => b.NoEarlier a)
    (hfew : (l.map (·.1)).dedup.length ≤ window) :
    newestFirst window l = (l.map (·.2)).reverse := by
  have hall : (days l).take window = days l :=
    List.take_of_length_le (by rw [length_days]; exact hfew)
  have hback : (l.reverse.map (·.1)).Pairwise Date.NoEarlier := by
    rw [List.map_reverse, List.pairwise_reverse]
    exact hsorted
  have hmem : ∀ r ∈ l.reverse, r.1 ∈ days l := fun r hr =>
    mem_days.mpr ⟨r.2, List.mem_reverse.mp hr⟩
  rw [newestFirst, hall, ← List.map_reverse, ← flatMap_recordsAt (days_pairwise l) hback hmem]
  exact List.flatMap_congr fun day _ => recordsAt_reverse day l

end QueryGate.Audit
