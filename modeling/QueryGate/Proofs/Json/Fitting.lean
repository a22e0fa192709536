import QueryGate.Proofs.Json.Values

/-! # Values that are read where they were written

A value *fits* if it is written and its line is read as that value, with room for so many lists and
objects inside one another (`FitsIn`).  A list or an object fits if what stands in it fits with one
less.

A value that fits is also one that every reader accepts, so an answer can show it unchanged
(`FitsIn.isPortable`, `withFinite_of_isPortable`). -/

namespace QueryGate.Json

/-- A value is written, and read again where it was written, if `n` lists and objects may stand
inside one another, whether or not those with nothing in them are counted. -/
structure FitsIn (n : Nat) (v : Json) : Prop where
  storable : v.isStorable = true
  readable : ∀ countsEmpty, v.fault? countsEmpty n = none

section Fitting

variable {n : Nat} {countsEmpty : Bool}

theorem fitsIn_null : FitsIn n .null := ⟨rfl, fun _ => rfl⟩

theorem fitsIn_str (s : Text) : FitsIn n (.str s) := ⟨rfl, fun _ => rfl⟩

theorem fitsIn_ofText? (s : Option Text) : FitsIn n (.ofText? s) := by
  cases s with
  | none => exact fitsIn_null
  | some s => exact fitsIn_str s

theorem fitsIn_ofNat {k : Nat} (h : k < 10 ^ maxDigits) : FitsIn n (.ofNat k) := by
  refine ⟨rfl, fun _ => ?_⟩
  rw [ofNat, fault?, numberFault?, Int.natAbs_natCast, Nat.pow_eq, if_pos h]

theorem fitsIn_float_zero : FitsIn n (.float .zero) := ⟨by decide, fun _ => rfl⟩

theorem areStorable_of_forall {l : List Json} (h : ∀ v ∈ l, v.isStorable = true) :
    areStorable l = true := by
  induction l with
  | nil => rfl
  | cons v l ih =>
    obtain ⟨hv, hl⟩ := List.forall_mem_cons.mp h
    rw [areStorable, hv, ih hl]
    rfl

theorem itemsFault?_of_forall {l : List Json} (h : ∀ v ∈ l, v.fault? countsEmpty n = none) :
    itemsFault? countsEmpty l n = none := by
  induction l with
  | nil => rfl
  | cons v l ih =>
    obtain ⟨hv, hl⟩ := List.forall_mem_cons.mp h
    rw [itemsFault?, hv, ih hl]
    rfl

theorem membersStorable_of_forall {l : List (JsonString × Json)}
    (h : ∀ m ∈ l, m.1.isText = true ∧ m.2.isStorable = true) : membersStorable l = true := by
  induction l with
  | nil => rfl
  | cons m l ih =>
    obtain ⟨⟨hkey, hvalue⟩, hl⟩ := List.forall_mem_cons.mp h
    rw [membersStorable, hkey, hvalue, ih hl]
    rfl

theorem membersFault?_of_forall {l : List (JsonString × Json)}
    (h : ∀ m ∈ l, m.2.fault? countsEmpty n = none) : membersFault? countsEmpty l n = none := by
  induction l with
  | nil => rfl
  | cons m l ih =>
    obtain ⟨hvalue, hl⟩ := List.forall_mem_cons.mp h
    rw [membersFault?, hvalue, ih hl]
    rfl

theorem fitsIn_arr {l : List Json} (h : ∀ v ∈ l, FitsIn n v) : FitsIn (n + 1) (.arr l) := by
  refine ⟨areStorable_of_forall fun v hv => (h v hv).storable, fun countsEmpty => ?_⟩
  have hitems := itemsFault?_of_forall fun v hv => (h v hv).readable countsEmpty
  cases l with
  | nil => rfl
  | cons v l => exact hitems

/-- An object fits if its names are distinct and its values fit with one less. -/
theorem fitsIn_obj {l : List (Text × Json)} (hnames : (l.map (·.1)).Nodup)
    (h : ∀ m ∈ l, FitsIn n m.2) : FitsIn (n + 1) (.obj l) := by
  have hmembers : ∀ m ∈ l.map fun m => (JsonString.text m.1, m.2),
      m.1.isText = true ∧ FitsIn n m.2 := by
    intro m hm
    obtain ⟨m', hm', rfl⟩ := List.mem_map.mp hm
    exact ⟨rfl, h m' hm'⟩
  have hdistinct : ((l.map fun m => (JsonString.text m.1, m.2)).map (·.1)).Nodup := by
    rw [List.map_map]
    have hkeys : (Prod.fst ∘ fun m : Text × Json => (JsonString.text m.1, m.2)) =
        JsonString.text ∘ Prod.fst := rfl
    rw [hkeys, ← List.map_map]
    exact hnames.map fun _ _ => JsonString.text.inj
  rw [obj]
  constructor
  · have hstorable := membersStorable_of_forall fun m hm =>
      ⟨(hmembers m hm).1, (hmembers m hm).2.storable⟩
    rw [isStorable, hstorable, decide_eq_true hdistinct]
    rfl
  · intro countsEmpty
    have hfault := membersFault?_of_forall fun m hm => (hmembers m hm).2.readable countsEmpty
    generalize l.map (fun m => (JsonString.text m.1, m.2)) = ms at hfault
    cases ms with
    | nil => rfl
    | cons m ms => exact hfault

theorem fitsIn_object {l : List (String × Json)} (hnames : (l.map (·.1)).Nodup)
    (h : ∀ m ∈ l, FitsIn n m.2) : FitsIn (n + 1) (.object l) := by
  refine fitsIn_obj ?_ ?_
  · rw [List.map_map]
    have hkeys : (Prod.fst ∘ fun m : String × Json => (m.1.toList, m.2)) =
        String.toList ∘ Prod.fst := rfl
    rw [hkeys, ← List.map_map]
    exact hnames.map fun _ _ => String.toList_inj.mp
  · intro m hm
    obtain ⟨m', hm', rfl⟩ := List.mem_map.mp hm
    exact h m' hm'

theorem fitsIn_ofTexts (l : List Text) : FitsIn (n + 1) (.ofTexts l) := by
  refine fitsIn_arr fun v hv => ?_
  obtain ⟨s, -, rfl⟩ := List.mem_map.mp hv
  exact fitsIn_str s

end Fitting

/-! ## Values without numbers -/

theorem areNumberless_of_forall {l : List Json} (h : ∀ v ∈ l, v.isNumberless = true) :
    areNumberless l = true := by
  induction l with
  | nil => rfl
  | cons v l ih =>
    obtain ⟨hv, hl⟩ := List.forall_mem_cons.mp h
    rw [areNumberless, hv, ih hl]
    rfl

theorem membersNumberless_of_forall {l : List (JsonString × Json)}
    (h : ∀ m ∈ l, m.2.isNumberless = true) : membersNumberless l = true := by
  induction l with
  | nil => rfl
  | cons m l ih =>
    obtain ⟨hvalue, hl⟩ := List.forall_mem_cons.mp h
    rw [membersNumberless, hvalue, ih hl]
    rfl

theorem isNumberless_ofTexts (l : List Text) : (ofTexts l).isNumberless = true := by
  rw [ofTexts, isNumberless]
  refine areNumberless_of_forall fun v hv => ?_
  obtain ⟨s, -, rfl⟩ := List.mem_map.mp hv
  rfl

theorem isNumberless_obj {l : List (Text × Json)} (h : ∀ m ∈ l, m.2.isNumberless = true) :
    (obj l).isNumberless = true := by
  rw [obj, isNumberless]
  refine membersNumberless_of_forall fun m hm => ?_
  obtain ⟨m', hm', rfl⟩ := List.mem_map.mp hm
  exact h m' hm'

/-! ## Every reader accepts them -/

theorem isFinite_of_isStorable {x : Binary64} (h : (float x).isStorable = true) : x.IsFinite := by
  rw [isStorable] at h
  exact of_decide_eq_true h

mutual

theorem isPortable_of_isStorable : ∀ {v : Json}, v.isStorable = true → v.isPortable = true
  | .null, _ => rfl
  | .bool _, _ => rfl
  | .int _, _ => rfl
  | .float (.finite ..), _ => rfl
  | .float (.infinite _), h => absurd (isFinite_of_isStorable h) id
  | .float .nan, h => absurd (isFinite_of_isStorable h) id
  | .string _, h => h
  | .arr _, h => arePortable_of_areStorable h
  | .members _, h => membersPortable_of_membersStorable (Bool.and_eq_true_iff.mp h).1

theorem arePortable_of_areStorable : ∀ {l : List Json}, areStorable l = true → arePortable l = true
  | [], _ => rfl
  | v :: l, h => by
    rw [areStorable, Bool.and_eq_true] at h
    rw [arePortable, isPortable_of_isStorable h.1, arePortable_of_areStorable h.2]
    rfl

theorem membersPortable_of_membersStorable :
    ∀ {l : List (JsonString × Json)}, membersStorable l = true → membersPortable l = true
  | [], _ => rfl
  | (k, v) :: l, h => by
    rw [membersStorable, Bool.and_eq_true, Bool.and_eq_true] at h
    rw [membersPortable, h.1.1, isPortable_of_isStorable h.1.2,
      membersPortable_of_membersStorable h.2]
    rfl

end

mutual

/-- Nothing needs to be left out of a value that every reader accepts. -/
theorem withFinite_of_isPortable : ∀ {v : Json}, v.isPortable = true → v.withFinite = v
  | .null, _ => rfl
  | .bool _, _ => rfl
  | .int _, _ => rfl
  | .float (.finite ..), _ => rfl
  | .string _, _ => rfl
  | .arr _, h => congrArg arr (itemsWithFinite_of_arePortable h)
  | .members _, h => congrArg members (membersWithFinite_of_membersPortable h)

theorem itemsWithFinite_of_arePortable :
    ∀ {l : List Json}, arePortable l = true → itemsWithFinite l = l
  | [], _ => rfl
  | v :: l, h => by
    rw [arePortable, Bool.and_eq_true] at h
    rw [itemsWithFinite, withFinite_of_isPortable h.1, itemsWithFinite_of_arePortable h.2]

theorem membersWithFinite_of_membersPortable :
    ∀ {l : List (JsonString × Json)}, membersPortable l = true → membersWithFinite l = l
  | [], _ => rfl
  | (k, v) :: l, h => by
    rw [membersPortable, Bool.and_eq_true, Bool.and_eq_true] at h
    rw [membersWithFinite, withFinite_of_isPortable h.1.2,
      membersWithFinite_of_membersPortable h.2]

end

end QueryGate.Json
