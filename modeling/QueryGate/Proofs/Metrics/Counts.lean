import QueryGate.Metrics.Registry
import QueryGate.Proofs.OrderedMap
import Mathlib.Algebra.Order.Ring.Nat

/-! # Counting

One more at some labels raises the count there by one and leaves the others alone
(`Counts.at_add`), so each sum of counts that these labels are part of goes up by one
(`Counts.totalOf_add`).

Of the measurements only three tell of runs of the pipeline.  `Registry.SameRuns` says that they
agree; everything but a run keeps them, and what a run adds to each of them is stated here once.
Two others tell of requests, and `Registry.SameTraffic` says that these agree; only the layer that
counts requests changes them. -/

namespace QueryGate

namespace Metrics

namespace Counts

/-- The sum of all counts. -/
def total (c : Counts) : Nat := (c.entries.map (·.2)).sum

theorem at_add (c : Counts) (labels labels' : Labels) :
    Counts.at (c.add labels) labels' = c.at labels' + if labels' = labels then 1 else 0 := by
  by_cases h : labels' = labels
  · subst h
    rw [if_pos rfl, Counts.at, add, OrderedMap.get?_insert_self, Option.getD_some]
  · rw [if_neg h, Counts.at, add, OrderedMap.get?_insert_of_ne c h, Counts.at, Nat.add_zero]

/-- The sum of the counts at the labels with some property. -/
def totalOf (p : Labels → Bool) (c : Counts) : Nat :=
  ((c.entries.filter fun e => p e.1).map (·.2)).sum

theorem totalOf_true (c : Counts) : c.totalOf (fun _ => true) = c.total := by
  rw [totalOf, List.filter_eq_self.mpr fun _ _ => rfl, total]

/-- Another value at a key takes the place of what is there. -/
theorem sum_insertInto (p : Labels → Bool) (k : Labels) (n : Nat) (l : List (Labels × Nat)) :
    (((OrderedMap.insertInto k n l).filter fun e => p e.1).map (·.2)).sum +
        (if p k then (l.lookup k).getD 0 else 0) =
      ((l.filter fun e => p e.1).map (·.2)).sum + if p k then n else 0 := by
  induction l with
  | nil => cases hp : p k <;> simp [OrderedMap.insertInto, hp]
  | cons e l ih =>
    obtain ⟨m, u⟩ := e
    by_cases hm : m = k
    · subst hm
      cases hp : p m
      · simp [OrderedMap.insertInto, hp]
      · simp [OrderedMap.insertInto, hp]
        omega
    · have hlookup : (k == m) = false := beq_false_of_ne (Ne.symm hm)
      simp only [OrderedMap.insertInto, beq_false_of_ne hm, Bool.false_eq_true, if_false,
        List.lookup_cons, hlookup, List.filter_cons]
      split
      · simp only [List.map_cons, List.sum_cons]
        omega
      · exact ih

/-- **Counting once more** adds one to each sum that the labels are part of. -/
theorem totalOf_add (p : Labels → Bool) (c : Counts) (labels : Labels) :
    totalOf p (c.add labels) = totalOf p c + if p labels then 1 else 0 := by
  have hsum := sum_insertInto p labels (c.at labels + 1) c.entries
  have hat : (c.entries.lookup labels).getD 0 = c.at labels := rfl
  rw [hat] at hsum
  have htotal : totalOf p (c.add labels) =
      (((OrderedMap.insertInto labels (c.at labels + 1) c.entries).filter
        fun e => p e.1).map (·.2)).sum := rfl
  rw [htotal, totalOf]
  split at hsum
  · rename_i hp
    rw [if_pos hp]
    omega
  · rename_i hp
    rw [if_neg hp]
    omega

theorem total_add (c : Counts) (labels : Labels) : total (c.add labels) = total c + 1 := by
  rw [← totalOf_true, totalOf_add, totalOf_true, if_pos rfl]

/-- One more at the labels of each of some values is one more for each value. -/
theorem total_foldl_add {α : Type} (labels : α → Labels) (l : List α) (c : Counts) :
    total (l.foldl (fun c a => c.add (labels a)) c) = total c + l.length := by
  induction l generalizing c with
  | nil => rfl
  | cons a l ih =>
    rw [List.foldl_cons, ih, total_add, List.length_cons]
    omega

end Counts

namespace Registry

/-- The measurements of runs are the same: their statuses, their failures and the columns that they
removed. -/
structure SameRuns (m m' : Registry) : Prop where
  runs : m'.runs = m.runs
  errors : m'.errors = m.errors
  blocked : m'.blocked = m.blocked

namespace SameRuns

variable {m m' m'' : Registry}

theorem refl (m : Registry) : m.SameRuns m := ⟨rfl, rfl, rfl⟩

theorem trans (h : m.SameRuns m') (h' : m'.SameRuns m'') : m.SameRuns m'' :=
  ⟨h'.runs.trans h.runs, h'.errors.trans h.errors, h'.blocked.trans h.blocked⟩

theorem trackRun (h : m.SameRuns m') (r : Run) : (m.trackRun r).SameRuns (m'.trackRun r) where
  runs := congrArg (Counts.add · _) h.runs
  errors := by rw [Registry.trackRun, Registry.trackRun, h.errors]
  blocked := by rw [Registry.trackRun, Registry.trackRun, h.blocked]

end SameRuns

/-- The measurements of requests are the same: those answered, and the queries under way. -/
structure SameTraffic (m m' : Registry) : Prop where
  requests : m'.requests = m.requests
  activeQueries : m'.activeQueries = m.activeQueries

variable (m : Registry)

theorem sameTraffic_trackRun (r : Run) : m.SameTraffic (m.trackRun r) := ⟨rfl, rfl⟩

theorem sameTraffic_trackAuditRead (kind : String) : m.SameTraffic (m.trackAuditRead kind) :=
  ⟨rfl, rfl⟩

theorem sameRuns_beginQuery : m.SameRuns m.beginQuery := ⟨rfl, rfl, rfl⟩

theorem sameRuns_endQuery : m.SameRuns m.endQuery := ⟨rfl, rfl, rfl⟩

theorem sameRuns_trackAuditRead (kind : String) : m.SameRuns (m.trackAuditRead kind) :=
  ⟨rfl, rfl, rfl⟩

theorem sameRuns_trackRequest (method endpoint : Text) (status : Nat) (duration : Binary64) :
    m.SameRuns (m.trackRequest method endpoint status duration) := ⟨rfl, rfl, rfl⟩

/-! ## What a run adds -/

theorem runs_trackRun (r : Run) (status : Text) :
    Counts.at (m.trackRun r).runs [("status", status)] =
      m.runs.at [("status", status)] + if r.status = status then 1 else 0 := by
  rw [trackRun, Counts.at_add]
  by_cases h : r.status = status
  · simp [h]
  · simp [h, Ne.symm h]

/-- A failure is counted under its kind, unless the kind is empty. -/
theorem errors_trackRun (r : Run) (hkind : r.errorKind ≠ some []) :
    Counts.total (m.trackRun r).errors =
      m.errors.total + if r.errorKind = none then 0 else 1 := by
  rw [trackRun]
  cases hr : r.errorKind with
  | none => simp
  | some kind =>
    cases kind with
    | nil => exact absurd hr hkind
    | cons c kind => simp [Counts.total_add]

theorem blocked_trackRun (r : Run) :
    Counts.total (m.trackRun r).blocked = m.blocked.total + r.blockedCategories.length := by
  rw [trackRun]
  exact Counts.total_foldl_add (fun c => [("category", c)]) r.blockedCategories m.blocked

end Registry

end Metrics

end QueryGate
