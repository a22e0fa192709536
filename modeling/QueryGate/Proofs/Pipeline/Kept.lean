import QueryGate.Proofs.Audit.Chronology
import QueryGate.Proofs.Pipeline.Recorded

/-! # What a question leaves is read again

The records of a question are kept: all that is written in them is read where it was written
(`Ending.isKept`).  Texts may be anything, and whoever asks for the trail leaves its reader room for
what a run records.

So in a directory that is read through its records, the records of a question are placed under the
names of their day (`Holds.keepAll`), the last of them being the entry of its conclusion, if there
is one (`Ending.entries`). -/

namespace QueryGate

open Text Audit Json

/-- The clock shows universal time as such. -/
def Timestamp.IsUniversal (t : Timestamp) : Prop := t.offset = some 0

theorem Timestamp.IsUniversal.utcDate {t : Timestamp} (h : t.IsUniversal) :
    t.utcDate = .ok t.date := by
  have hoffset : t.offset = some 0 := h
  have hmicros := t.micros_lt
  have hnone : t.offset.isNone = false := by rw [hoffset]; rfl
  have hshifted : t.shifted? = make? t.date t.micros (some 0) := by
    rw [shifted?, distance, hoffset]
    simp only [Option.getD_some, Int.sub_zero, Int.toNat_natCast]
    rw [if_neg (by omega), if_neg (by omega)]
  have hmake : make? t.date t.micros (some 0) = some t := by
    rw [make?, dif_pos ⟨hmicros, by decide⟩]
    congr 1
    cases t
    simp_all
  rw [Timestamp.utcDate, toUtc, hnone, Bool.false_and, if_neg Bool.false_ne_true, hshifted, hmake]
  rfl

theorem Timestamp.IsUniversal.asRead {t : Timestamp} (h : t.IsUniversal) : t.asRead = t :=
  asRead_eq_self h (.inl rfl)

/-! ## Entries and violations -/

section Records

variable {src : Source} {now : Timestamp} {q : Question} {n : Nat}

theorem isKept_warning (x : Warning) : x.toRecord.IsKept := by
  cases x with
  | tableNotFound => exact ⟨.inr rfl, _, rfl⟩
  | columnsBlocked columns suggestions => exact ⟨.inr rfl, _, rfl⟩

/-- A record whose time is universal, whose object fits and whose warnings are those of a run is
kept. -/
theorem isKept_of_fits {t : Trail} {n : Note} (huniversal : n.timestamp.IsUniversal)
    (hfits : FitsIn t.readDepth n.toJson) (hwarnings : ∀ w ∈ n.warnings, w.IsKept) :
    n.IsKept t where
  dated := ⟨_, huniversal.utcDate⟩
  storable := hfits.storable
  readable := hfits.readable true
  warnings := hwarnings

theorem isKept_violationOf (g : Gate) (huniversal : now.IsUniversal) (req : Request)
    (blocked : List BlockedColumn) :
    (Note.violation (Gate.violationOf now req blocked)).IsKept g.trail := by
  obtain ⟨n, hn⟩ := g.exists_readDepth
  refine isKept_of_fits huniversal ?_ nofun
  rw [hn]
  exact fitsIn_violationOf req blocked

/-- The entry of a question is kept. -/
theorem EntryFor.isKept {r : RunResult} {e : Entry} (h : EntryFor src now q r e) (g : Gate)
    (huniversal : now.IsUniversal) : (Note.entry e).IsKept g.trail := by
  obtain ⟨n, hn⟩ := g.exists_readDepth
  cases h with
  | ran statement schema reason =>
    refine isKept_of_fits huniversal ?_ fun w hw => ?_
    · rw [hn]
      exact fitsIn_entryOf _ r reason
    · obtain ⟨x, -, rfl⟩ := List.mem_map.mp hw
      exact isKept_warning x
  | undrafted f =>
    refine isKept_of_fits huniversal ?_ nofun
    rw [hn]
    exact fitsIn_undraftedEntry f.message

/-! ## The records of a question, in place -/

/-- What holds of every violation and of every entry of the question holds of all that the question
leaves. -/
theorem Ending.forall_mem {c? : Option Conclusion} {notes : List Note}
    (h : Ending src now q c? notes) {p : Note → Prop}
    (hviolation : ∀ req blocked, p (.violation (Gate.violationOf now req blocked)))
    (hentry : ∀ r e, EntryFor src now q r e → p (.entry e)) : ∀ n ∈ notes, p n := by
  have hviolations : ∀ vs, ViolationsAt now vs → ∀ n ∈ vs.map Note.violation, p n := by
    intro vs hvs n hn
    obtain ⟨v, hv, rfl⟩ := List.mem_map.mp hn
    obtain ⟨req, blocked, rfl⟩ := hvs v hv
    exact hviolation req blocked
  cases h with
  | @concluded vs c e violations entry =>
    obtain ⟨r, -, -, hfor⟩ := entry
    intro n hn
    rcases List.mem_append.mp hn with hn | hn
    · exact hviolations vs violations n hn
    · obtain rfl := List.mem_singleton.mp hn
      exact hentry r e hfor
  | @left vs violations => exact hviolations vs violations

theorem Ending.timestamp {c? : Option Conclusion} {notes : List Note}
    (h : Ending src now q c? notes) : ∀ n ∈ notes, n.timestamp = now :=
  h.forall_mem (fun _ _ => rfl) fun _ _ hentry => hentry.timestamp

/-- All that a question leaves is read again. -/
theorem Ending.isKept {c? : Option Conclusion} {notes : List Note} (h : Ending src now q c? notes)
    (g : Gate) (huniversal : now.IsUniversal) : ∀ n ∈ notes, n.IsKept g.trail :=
  h.forall_mem (isKept_violationOf g huniversal) fun _ _ hentry => hentry.isKept g huniversal

/-- The entries among some records, with their days, in order. -/
def datedEntries (notes : List Note) : List (Date × Entry) := notes.filterMap Note.entryWithDay?

theorem datedEntries_append (first second : List Note) :
    datedEntries (first ++ second) = datedEntries first ++ datedEntries second :=
  List.filterMap_append

/-- Of all that a question leaves, only its conclusion has an entry. -/
theorem Ending.entries {c? : Option Conclusion} {notes : List Note} (h : Ending src now q c? notes)
    (huniversal : now.IsUniversal) :
    List.Forall₂ (fun c p => p.1 = now.date ∧ EntryOf src now q c p.2) c?.toList
      (datedEntries notes) := by
  have hviolations : ∀ vs : List Violation, datedEntries (vs.map Note.violation) = [] := by
    intro vs
    rw [datedEntries, List.filterMap_map, List.filterMap_eq_nil_iff]
    exact fun _ _ => rfl
  cases h with
  | @concluded vs c e violations entry =>
    obtain ⟨r, hhas, hsound, hfor⟩ := entry
    have hentry : Note.entryWithDay? (.entry e) = some (now.date, e) := by
      rw [Note.entryWithDay?, hfor.timestamp, huniversal.utcDate]
      rfl
    rw [datedEntries_append, hviolations, datedEntries, List.filterMap_cons_some hentry]
    exact .cons ⟨rfl, r, hhas, hsound, hfor⟩ .nil
  | @left vs violations =>
    rw [hviolations]
    exact .nil

end Records

namespace Audit

variable {d : Directory} {placed : List (Text × Json)} {before notes : List Note}

theorem Holds.ensure (h : Holds d placed) : Holds d.ensure placed where
  writable := by
    cases d with
    | unavailable => exact h.writable
    | absent | present _ | scarce _ _ => rfl
  ample := by
    cases d with
    | scarce files room => exact h.ample
    | unavailable | absent | present _ => rfl
  names := by
    rw [Directory.files_ensure]
    exact h.names
  files := by
    rw [Directory.files_ensure]
    exact h.files

/-- Records of a time are placed under the names of its day. -/
theorem Holds.keepAll {now : Timestamp} (h : Holds d (before.filterMap Note.place?))
    (huniversal : now.IsUniversal) (hnow : ∀ n ∈ notes, n.timestamp = now) (t : Trail) :
    Holds (t.keepAll now.date notes d) ((before ++ notes).filterMap Note.place?) := by
  induction notes generalizing d before with
  | nil =>
    rw [List.append_nil]
    exact h
  | cons n notes ih =>
    obtain ⟨hn, hnotes⟩ := List.forall_mem_cons.mp hnow
    have hplace : n.place? = some (partitionName n.series now.date, n.toJson) := by
      rw [Note.place?, hn, huniversal.utcDate]
      rfl
    have hkept : Holds (t.keep now.date d n) ((before ++ [n]).filterMap Note.place?) := by
      rw [List.filterMap_append, List.filterMap_cons_some hplace]
      exact h.keep t now.date n
    rw [List.append_cons]
    exact ih hkept hnotes

end Audit

end QueryGate
