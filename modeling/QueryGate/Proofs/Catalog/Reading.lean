import QueryGate.Catalog.Document
import QueryGate.Proofs.Json.Members
import QueryGate.Proofs.OrderedMap
import QueryGate.Proofs.Text.Blanks

/-! # The files that are accepted

A check collects every issue, and it succeeds exactly if each of its parts does
(`Checked.apply_eq_ok_iff`).  So for each part of a catalog file there is one form that is accepted:
a list of texts, a text, or an object whose members have this form (`checkMembers_eq_ok_iff`).

From these forms the contents follow: the categories are the map that the members make up, if there
is one and no pattern is blank (`checkCategories_eq_ok_iff`), and a catalog is loaded exactly if the
file is a text that is read as such a document (`load_eq_ok_iff`). -/

namespace QueryGate

open Text

namespace Checked

variable {α β : Type}

theorem apply_eq_ok_iff {f : Checked (α → β)} {a : Checked α} {b : β} :
    f.apply a = .ok b ↔ ∃ g x, f = .ok g ∧ a = .ok x ∧ g x = b := by
  cases f <;> cases a <;> simp [apply]

theorem apply_apply_eq_ok_iff {γ : Type} {f : α → β → γ} {a : Checked α} {b : Checked β} {c : γ} :
    ((ok f).apply a).apply b = .ok c ↔ ∃ x y, a = .ok x ∧ b = .ok y ∧ f x y = c := by
  cases a <;> cases b <;> simp [apply]

/-- The value, if nothing is wrong with it. -/
def value? : Checked α → Option α
  | ok a => some a
  | bad _ => none

theorem value?_eq_some_iff {outcome : Checked α} {a : α} :
    outcome.value? = some a ↔ outcome = .ok a := by
  cases outcome <;> simp [value?]

theorem ofExcept_eq_ok_iff {field : String} {outcome : Except IssueKind α} {a : α} :
    ofExcept field outcome = .ok a ↔ outcome = .ok a := by
  cases outcome <;> simp [ofExcept]

end Checked

namespace Catalog

namespace Document

open Json

/-! ## The parts of a document -/

theorem text_eq_ok_iff {v : Json} {s : Text} : Check.text v = .ok s ↔ v = .str s := by
  constructor
  · intro h
    unfold Check.text at h
    split at h
    · exact congrArg Json.str (Except.ok.inj h)
    · cases h
  · rintro rfl
    rfl

theorem someText_eq_ok_iff {v : Json} {s : Text} :
    Check.someText v = .ok s ↔ v = .str s ∧ s ≠ [] := by
  rw [Check.someText]
  cases htext : Check.text v with
  | error kind =>
    have hno : ¬ v = .str s := fun h => by
      rw [text_eq_ok_iff.mpr h] at htext
      cases htext
    simp [bind, Except.bind, hno]
  | ok t =>
    obtain rfl := text_eq_ok_iff.mp htext
    have hstr : Json.str t = .str s ↔ t = s := by simp [Json.str]
    rw [hstr]
    cases t with
    | nil =>
      constructor
      · intro h
        cases h
      · rintro ⟨rfl, hne⟩
        exact absurd rfl hne
    | cons c t =>
      constructor
      · intro h
        obtain rfl := Except.ok.inj h
        exact ⟨rfl, List.cons_ne_nil c t⟩
      · rintro ⟨rfl, -⟩
        rfl

theorem checkAlternative_eq_ok_iff (loc : List Step) (v : Json) (s : Text) :
    checkAlternative loc v = .ok s ↔ v = .str s := by
  rw [← text_eq_ok_iff, checkAlternative]
  cases Check.text v <;> simp

theorem checkTexts_cons (loc : List Step) (i : Nat) (v : Json) (rest : List Json) :
    checkTexts loc i (v :: rest) =
      ((Checked.ok List.cons).apply (checkAlternative (loc ++ [.index i]) v)).apply
        (checkTexts loc (i + 1) rest) := rfl

theorem checkTexts_eq_ok_iff {loc : List Step} {i : Nat} {items : List Json} {l : List Text} :
    checkTexts loc i items = .ok l ↔ items = l.map Json.str := by
  induction items generalizing i l with
  | nil => cases l <;> simp [checkTexts]
  | cons v items ih =>
    simp only [checkTexts_cons, Checked.apply_apply_eq_ok_iff, checkAlternative_eq_ok_iff, ih]
    constructor
    · rintro ⟨s, l, rfl, rfl, rfl⟩
      rfl
    · intro h
      cases l with
      | nil => cases h
      | cons s l =>
        obtain ⟨rfl, rfl⟩ := List.cons.inj h
        exact ⟨s, l, rfl, rfl, rfl⟩

theorem checkPatterns_eq_ok_iff (loc : List Step) (v : Json) (l : List Text) :
    checkPatterns loc v = .ok l ↔ v = .ofTexts l := by
  cases v <;> simp [checkPatterns, checkTexts_eq_ok_iff, ofTexts]

section Members

variable {α : Type} {check : List Step → Json → Checked α} {write : α → Json}

/-- If a check accepts what is written of a value and nothing else, then so does the check of
members. -/
theorem checkMembers_eq_ok_iff (hcheck : ∀ loc v a, check loc v = .ok a ↔ v = write a)
    {loc : List Step} {l : List (Text × Json)} {all : List (Text × α)} :
    checkMembers loc check l = .ok all ↔ l = all.map fun e => (e.1, write e.2) := by
  induction l generalizing all with
  | nil => cases all <;> simp [checkMembers]
  | cons m l ih =>
    obtain ⟨k, v⟩ := m
    simp only [checkMembers, Checked.apply_apply_eq_ok_iff, hcheck, ih]
    constructor
    · rintro ⟨a, all, rfl, rfl, rfl⟩
      rfl
    · intro h
      cases all with
      | nil => cases h
      | cons e all =>
        obtain ⟨hm, rfl⟩ := List.cons.inj h
        obtain ⟨rfl, rfl⟩ := Prod.mk.inj hm
        exact ⟨e.2, all, rfl, rfl, rfl⟩

end Members

theorem isBlankPattern_iff {p : Text} : isBlankPattern p = true ↔ AllBlank p := by
  rw [isBlankPattern, List.isEmpty_iff, trim_eq_nil_iff]

/-- **Categories are accepted** if there is one and none of those that count has a blank pattern. -/
theorem checkCategories_eq_ok_iff {v : Json} {m : OrderedMap Text (List Text)} :
    checkCategories v = .ok m ↔
      ∃ all, HoldsMembers ofTexts v all ∧ all ≠ [] ∧ m = .ofList all ∧
        ∀ e ∈ m.entries, ∀ p ∈ e.2, ¬ AllBlank p := by
  have hblank : ∀ m : OrderedMap Text (List Text),
      (m.entries.find? fun c => c.2.any isBlankPattern) = none ↔
        ∀ e ∈ m.entries, ∀ p ∈ e.2, ¬ AllBlank p := by
    intro m
    simp only [List.find?_eq_none, List.any_eq_true, not_exists, not_and, isBlankPattern_iff]
  constructor
  · intro h
    unfold checkCategories at h
    split at h
    · rename_i l
      split at h
      · cases h
      · cases h
      · rename_i all hall hmembers
        simp only at h
        split at h
        · cases h
        · rename_i hnone
          obtain rfl := Checked.ok.inj h
          exact ⟨all, ⟨l, rfl, (checkMembers_eq_ok_iff checkPatterns_eq_ok_iff).mp hmembers⟩,
            hall, rfl, (hblank _).mp hnone⟩
    · cases h
  · rintro ⟨all, ⟨l, rfl, hl⟩, hne, rfl, hpatterns⟩
    have hmembers :
        checkMembers [.key "categories".toList] checkPatterns (textMembers l) = .ok all :=
      (checkMembers_eq_ok_iff checkPatterns_eq_ok_iff).mpr hl
    obtain ⟨e, rest, rfl⟩ := List.exists_cons_of_ne_nil hne
    simp only [checkCategories, hmembers, (hblank _).mpr hpatterns]

theorem checkAlternatives_eq_ok_iff {v : Json} {m : OrderedMap Text Text} :
    checkAlternatives v = .ok m ↔ ∃ all, HoldsMembers Json.str v all ∧ m = .ofList all := by
  constructor
  · intro h
    unfold checkAlternatives at h
    split at h
    · rename_i l
      obtain ⟨_, all, hmake, hmembers, rfl⟩ := Checked.apply_eq_ok_iff.mp h
      obtain rfl := Checked.ok.inj hmake
      exact ⟨all, ⟨l, rfl, (checkMembers_eq_ok_iff checkAlternative_eq_ok_iff).mp hmembers⟩, rfl⟩
    · cases h
  · rintro ⟨all, ⟨l, rfl, hl⟩, rfl⟩
    have hmembers :
        checkMembers [.key "safe_alternatives".toList] checkAlternative (textMembers l) = .ok all :=
      (checkMembers_eq_ok_iff checkAlternative_eq_ok_iff).mpr hl
    rw [checkAlternatives, hmembers, Checked.apply]

theorem demanded_eq_ok_iff {α : Type} {field : String} {check : Json → Checked α}
    {l : List (JsonString × Json)} {a : α} :
    demanded field check l = .ok a ↔
      ∃ v, Json.lastMember? field.toList l = some v ∧ check v = .ok a := by
  unfold demanded
  split <;> simp_all

/-! ## Documents -/

/-- The value is an object with a version, with categories, and perhaps with alternatives, and these
are the contents of the document. -/
structure Describes (v : Json) (d : Document) : Prop where
  isObject : ∃ l, v = .members l
  version : v.member? "version".toList = some (.str d.version)
  version_ne : d.version ≠ []
  categories : ∃ w, v.member? "categories".toList = some w ∧ checkCategories w = .ok d.categories
  alternatives : match v.member? "safe_alternatives".toList with
    | some w => checkAlternatives w = .ok d.safeAlternatives
    | none => d.safeAlternatives = .empty

theorem ofJson_eq_ok_iff {v : Json} {d : Document} : ofJson v = .ok d ↔ Describes v d := by
  constructor
  · intro h
    unfold ofJson at h
    split at h
    · rename_i l
      obtain ⟨_, alternatives, hfirst, halternatives, rfl⟩ := Checked.apply_eq_ok_iff.mp h
      obtain ⟨version, categories, hversion, hcategories, rfl⟩ :=
        Checked.apply_apply_eq_ok_iff.mp hfirst
      obtain ⟨w, hw, hversion⟩ := demanded_eq_ok_iff.mp hversion
      obtain ⟨rfl, hne⟩ := someText_eq_ok_iff.mp (Checked.ofExcept_eq_ok_iff.mp hversion)
      refine ⟨⟨l, rfl⟩, hw, hne, demanded_eq_ok_iff.mp hcategories, ?_⟩
      rw [member?]
      cases hlast : Json.lastMember? "safe_alternatives".toList l with
      | some w => rwa [hlast] at halternatives
      | none =>
        rw [hlast] at halternatives
        exact (Checked.ok.inj halternatives).symm
    · cases h
  · rintro ⟨⟨l, rfl⟩, hversion, hne, hcategories, halternatives⟩
    rw [member?] at hversion halternatives
    refine Checked.apply_eq_ok_iff.mpr ⟨_, d.safeAlternatives,
      Checked.apply_apply_eq_ok_iff.mpr ⟨d.version, d.categories, ?_, ?_, rfl⟩, ?_, rfl⟩
    · exact demanded_eq_ok_iff.mpr ⟨_, hversion, Checked.ofExcept_eq_ok_iff.mpr
        (someText_eq_ok_iff.mpr ⟨rfl, hne⟩)⟩
    · exact demanded_eq_ok_iff.mpr hcategories
    · cases hlast : Json.lastMember? "safe_alternatives".toList l with
      | some w => rwa [hlast] at halternatives
      | none =>
        rw [hlast] at halternatives
        rw [halternatives]

end Document

/-- **A catalog is loaded** from bytes exactly if they are a text that is read as a value, and this
value describes the contents of the catalog. -/
theorem load_eq_ok_iff {bytes : List UInt8} {c : Catalog} :
    load (some bytes) = .ok c ↔
      ∃ s v d, ofUtf8? bytes = some s ∧ Json.parse .strict s = .ok v ∧
        Document.Describes v d ∧ c = d.toCatalog := by
  constructor
  · intro h
    simp only [load] at h
    split at h
    · cases h
    · rename_i s hs
      split at h
      · rename_i d hd
        obtain rfl := Except.ok.inj h
        unfold Document.ofText at hd
        split at hd
        · rename_i v hv
          exact ⟨s, v, d, hs, hv, Document.ofJson_eq_ok_iff.mp hd, rfl⟩
        · cases hd
      · cases h
  · rintro ⟨s, v, d, hs, hv, hd, rfl⟩
    simp only [load, hs, Document.ofText, hv, Document.ofJson_eq_ok_iff.mpr hd]

end Catalog

end QueryGate
