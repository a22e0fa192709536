import QueryGate.Json.Basic
import QueryGate.Proofs.OrderedMap

/-! # Members of an object

The value of a name is that of its last member with this name.  A broken string is the name of no
text, so only members that are named by texts count (`lastMember?_eq`).

An object may be written from associations, which are then found by their names
(`HoldsMembers.member?_eq`). -/

namespace QueryGate.Json

theorem textMembers_text (l : List (Text × Json)) :
    textMembers (l.map fun m => (.text m.1, m.2)) = l := by
  induction l with
  | nil => rfl
  | cons m l ih => exact congrArg (m :: ·) ih

theorem lookup_textMembers (name : Text) (l : List (JsonString × Json)) :
    (textMembers l).lookup name = l.lookup (.text name) := by
  induction l with
  | nil => rfl
  | cons m l ih =>
    obtain ⟨k, v⟩ := m
    cases k with
    | broken units => exact ih
    | text k =>
      have hbeq : (JsonString.text name == .text k) = (name == k) := by
        rw [Bool.eq_iff_iff]
        simp
      have hhead : textMembers ((.text k, v) :: l) = (k, v) :: textMembers l := rfl
      rw [hhead, List.lookup_cons, List.lookup_cons, hbeq, ih]

/-- The value of a name is that of its last member. -/
theorem lastMember?_eq (name : Text) (l : List (JsonString × Json)) :
    lastMember? name l = (textMembers l).reverse.lookup name := by
  rw [lastMember?, ← lookup_textMembers, textMembers, textMembers, List.filterMap_reverse]

theorem member?_obj (name : Text) (l : List (Text × Json)) :
    (obj l).member? name = l.reverse.lookup name := by
  rw [obj, member?, lastMember?_eq, textMembers_text]

/-- The members of an object whose names are literals are found by these. -/
theorem member?_object (field : String) (l : List (String × Json)) :
    (object l).member? field.toList = l.reverse.lookup field := by
  rw [object, member?_obj, ← List.map_reverse]
  generalize l.reverse = back
  induction back with
  | nil => rfl
  | cons m back ih =>
    have hbeq : (field.toList == m.1.toList) = (field == m.1) := by
      rw [Bool.eq_iff_iff]
      simp [String.toList_inj]
    rw [List.map_cons, List.lookup_cons, List.lookup_cons, hbeq, ih]

/-- The value is an object, and its members hold what is written of the associations, in order and
with repetitions. -/
def HoldsMembers {α : Type} (write : α → Json) (v : Json) (all : List (Text × α)) : Prop :=
  ∃ l, v = .members l ∧ textMembers l = all.map fun e => (e.1, write e.2)

theorem holdsMembers_obj {α : Type} (write : α → Json) (all : List (Text × α)) :
    HoldsMembers write (.obj (all.map fun e => (e.1, write e.2))) all :=
  ⟨_, rfl, textMembers_text _⟩

/-- The last member of a name holds the last association of that name. -/
theorem HoldsMembers.member?_eq {α : Type} {write : α → Json} {v : Json} {all : List (Text × α)}
    (h : HoldsMembers write v all) (name : Text) :
    v.member? name = (all.reverse.lookup name).map write := by
  obtain ⟨l, rfl, hl⟩ := h
  rw [member?, lastMember?_eq, hl, ← List.map_reverse, OrderedMap.lookup_map_snd]

end QueryGate.Json
