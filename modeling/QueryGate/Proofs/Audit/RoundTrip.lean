import QueryGate.Proofs.Audit.Recall
import QueryGate.Proofs.OrderedMap

/-! # Records written and read

A record whose distance from universal time is stated is read from its object as it is exactly if that
distance is none or at least a second (`Entry.ofJson_toJson_eq_self_iff`).  Otherwise it is accepted
all the same, and the distance is read as none (`Timestamp.offset_asRead_of_short`).

A record that was read from any value at all has such a distance (`Entry.asRead_of_ofJson`).  What
else may change when it is written and read again are codes and details of warnings that count as not
given, and these are not written; so its object stays the same (`Entry.toJson_normal`). -/

namespace QueryGate.Audit

/-! ## Objects of what is read -/

theorem WarningRecord.toJson_asRead (w : WarningRecord) : w.asRead.toJson = w.toJson := by
  -- a field that counts as not given is written in neither object
  have hfield : ∀ (name : String) (v absent : Json), absent.isTruthy = false →
      (if (if v.isTruthy then v else absent).isTruthy
        then [(name, if v.isTruthy then v else absent)] else []) =
      if v.isTruthy then [(name, v)] else [] := by
    intro name v absent habsent
    by_cases hv : v.isTruthy = true
    · rw [if_pos hv, if_pos hv]
    · rw [if_neg hv, habsent, if_neg hv, if_neg (by decide)]
  rw [toJson, toJson, asRead]
  simp only [hfield "code" w.code .null rfl, hfield "details" w.details (.obj []) rfl]

/-- Writing what was read of an entry gives its object again. -/
theorem Entry.toJson_normal {e : Entry} (h : e.timestamp.asRead = e.timestamp) :
    e.normal.toJson = e.toJson := by
  have hwarnings : (e.warnings.map (·.asRead)).map (·.toJson) = e.warnings.map (·.toJson) := by
    rw [List.map_map]
    exact List.map_congr_left fun w _ => w.toJson_asRead
  simp only [toJson, fields, normal, asRead, h, hwarnings]

/-! ## Records that were read -/

theorem asRead_of_readTimestamp {v : Json} {t : Timestamp} (h : readTimestamp v = .ok t) :
    t.asRead = t := by
  unfold readTimestamp at h
  split at h
  · split at h
    · rename_i hread
      obtain rfl := Except.ok.inj h
      exact Timestamp.asRead_of_ofText? hread
    · cases h
  · cases h

theorem Entry.asRead_of_ofJson {v : Json} {e : Entry} (h : Entry.ofJson v = .ok e) :
    e.timestamp.asRead = e.timestamp := by
  simp only [ofJson, bind_eq_ok_iff] at h
  obtain ⟨_, -, t, ht, _, -, _, -, _, -, _, -, _, -, h⟩ := h
  obtain rfl := Except.ok.inj h
  exact asRead_of_readTimestamp ht

theorem Violation.asRead_of_ofJson {d : Json} {v : Violation} (h : Violation.ofJson d = .ok v) :
    v.timestamp.asRead = v.timestamp := by
  simp only [ofJson, bind_eq_ok_iff] at h
  obtain ⟨_, -, t, ht, _, -, _, -, _, -, _, -, h⟩ := h
  obtain rfl := Except.ok.inj h
  exact asRead_of_readTimestamp ht

/-! ## Round trips -/

variable {o : Int}

theorem Entry.ofJson_toJson_eq_self_iff {e : Entry} (ho : e.timestamp.offset = some o)
    (hwarnings : ∀ w ∈ e.warnings, w.IsKept) :
    Entry.ofJson e.toJson = .ok e ↔ o = 0 ∨ 1000000 ≤ o.natAbs := by
  rw [Entry.ofJson_toJson hwarnings, ← Timestamp.asRead_eq_self_iff ho, Except.ok.injEq]
  constructor
  · exact congrArg Entry.timestamp
  · intro h
    rw [asRead, h]

theorem Violation.ofJson_toJson_eq_self_iff {v : Violation} (ho : v.timestamp.offset = some o) :
    Violation.ofJson v.toJson = .ok v ↔ o = 0 ∨ 1000000 ≤ o.natAbs := by
  rw [Violation.ofJson_toJson, ← Timestamp.asRead_eq_self_iff ho, Except.ok.injEq]
  constructor
  · exact congrArg Violation.timestamp
  · intro h
    rw [asRead, h]

/-- **Records survive writing and reading.**  A record that states its distance from universal time,
with warnings that lose nothing, is read from its object as it is, unless the distance is less than a
second; then it is read with none, and as it is otherwise.  And whatever value a record was read from, its object is accepted again, and what is read
there has the same object. -/
theorem records_round_trip :
    (∀ (e : Entry) (o : Int), e.timestamp.offset = some o → (∀ w ∈ e.warnings, w.IsKept) →
      (Entry.ofJson e.toJson = .ok e ↔ o = 0 ∨ 1000000 ≤ o.natAbs) ∧
      Entry.ofJson e.toJson = .ok e.asRead ∧
      (o.natAbs < 1000000 → e.asRead.timestamp.offset = some 0)) ∧
    (∀ (v : Violation) (o : Int), v.timestamp.offset = some o →
      (Violation.ofJson v.toJson = .ok v ↔ o = 0 ∨ 1000000 ≤ o.natAbs) ∧
      Violation.ofJson v.toJson = .ok v.asRead ∧
      (o.natAbs < 1000000 → v.asRead.timestamp.offset = some 0)) ∧
    (∀ (d : Json) (e : Entry), Entry.ofJson d = .ok e →
      ∃ again, Entry.ofJson e.toJson = .ok again ∧ again.toJson = e.toJson) ∧
    (∀ (d : Json) (v : Violation), Violation.ofJson d = .ok v →
      ∃ again, Violation.ofJson v.toJson = .ok again ∧ again.toJson = v.toJson) := by
  refine ⟨?_, ?_, ?_, ?_⟩
  · intro e o ho hwarnings
    exact ⟨Entry.ofJson_toJson_eq_self_iff ho hwarnings, Entry.ofJson_toJson hwarnings,
      Timestamp.offset_asRead_of_short ho⟩
  · intro v o ho
    exact ⟨Violation.ofJson_toJson_eq_self_iff ho, v.ofJson_toJson,
      Timestamp.offset_asRead_of_short ho⟩
  · intro d e h
    exact ⟨e.normal, e.ofJson_toJson_normal, Entry.toJson_normal (Entry.asRead_of_ofJson h)⟩
  · intro d v h
    refine ⟨v.asRead, v.ofJson_toJson, ?_⟩
    rw [Violation.toJson, Violation.toJson, Violation.asRead, Violation.asRead_of_ofJson h]

/-- An object as it may stand in a line: `Z` for universal time, a code that is false, details that are
no object, and nothing for the columns. -/
def looseObject : Json := .object [
  ("user_id", .int 7),
  ("timestamp", .str "20240501T12Z".toList),
  ("status", .str "blocked".toList),
  ("blocked_columns", .bool false),
  ("warnings", .arr [.object [("message", .null), ("code", .int 0), ("details", .str ['x'])]])]

/-- The entry that is read there. -/
def looseEntry : Entry := {
  Entry.bare (.int 7) .blocked ((Timestamp.make? mayFirst 43200000000 (some 0)).get (by decide)) with
  warnings := [⟨.null, .int 0, .str ['x']⟩] }

theorem ofJson_looseObject : Entry.ofJson looseObject = .ok looseEntry := by
  have htime : required "timestamp" looseObject = .ok (.str "20240501T12Z".toList) := rfl
  have hshown : Timestamp.ofText? "20240501T12Z".toList = some looseEntry.timestamp := by
    decide +kernel
  have hread : readTimestamp (.str "20240501T12Z".toList) = .ok looseEntry.timestamp := by
    simp only [readTimestamp, JsonString.shown, hshown]
  rw [Entry.ofJson, htime]
  simp only [bind, Except.bind, hread]
  rfl

theorem records_round_trip_western :
    (lateInTheWest.offset = some (-3600000000) ∧ (∀ w ∈ westernEntry.warnings, w.IsKept) ∧
      Entry.ofJson westernEntry.toJson = .ok westernEntry) ∧
    (hastyEntry.timestamp.offset = some 500 ∧ (∀ w ∈ hastyEntry.warnings, w.IsKept) ∧
      Entry.ofJson hastyEntry.toJson = .ok hastyEntry.asRead ∧
      hastyEntry.asRead.timestamp.offset = some 0) ∧
    (lateEvening.offset = some 0 ∧ Violation.ofJson eveningViolation.toJson = .ok eveningViolation) ∧
    (Entry.ofJson looseObject = .ok looseEntry ∧
      ∃ again, Entry.ofJson looseEntry.toJson = .ok again ∧ again.toJson = looseEntry.toJson) ∧
    ∃ again, Violation.ofJson eveningViolation.toJson = .ok again ∧
      again.toJson = eveningViolation.toJson := by
  obtain ⟨hentry, hviolation, hloose, hagain⟩ := records_round_trip
  have hwarnings : ∀ w ∈ westernEntry.warnings, w.IsKept := by
    intro w hw
    cases hw
  have hevening : Violation.ofJson eveningViolation.toJson = .ok eveningViolation :=
    (hviolation eveningViolation 0 rfl).1.mpr (by decide)
  have hwarnings' : ∀ w ∈ hastyEntry.warnings, w.IsKept := by
    intro w hw
    cases hw
  obtain ⟨-, hread, hshort⟩ := hentry hastyEntry 500 rfl hwarnings'
  exact ⟨⟨rfl, hwarnings, (hentry westernEntry _ rfl hwarnings).1.mpr (by decide)⟩,
    ⟨rfl, hwarnings', hread, hshort (by decide)⟩, ⟨rfl, hevening⟩, ⟨ofJson_looseObject, hloose looseObject looseEntry ofJson_looseObject⟩,
    hagain eveningViolation.toJson eveningViolation hevening⟩

/-- On a clock half a millisecond ahead, an entry does not come back from its own object. -/
theorem hasty_entry_not_read_back :
    hastyEntry.timestamp.offset = some 500 ∧ (∀ w ∈ hastyEntry.warnings, w.IsKept) ∧
      Entry.ofJson hastyEntry.toJson ≠ .ok hastyEntry := by
  have hwarnings : ∀ w ∈ hastyEntry.warnings, w.IsKept := by
    intro w hw
    cases hw
  refine ⟨rfl, hwarnings, ?_⟩
  rw [ne_eq, Entry.ofJson_toJson_eq_self_iff rfl hwarnings]
  decide

end QueryGate.Audit
