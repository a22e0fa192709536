import QueryGate.Proofs.Catalog.Lookups
import QueryGate.Proofs.Catalog.Reading
import QueryGate.Proofs.Json.Fitting
import QueryGate.Proofs.Text.LowerCase

/-! # Loading brings a catalog into normal form

A catalog *is normal* (`IsNormal`) if its patterns have something in them, no blanks at their ends
and no capitals, if the columns of its alternatives are in lower case, and if no name of a category
and no column is there twice.  What is loaded is normal (`isNormal_toCatalog`), since a pattern that
is trimmed and then brought to lower case stays trimmed (`isPattern_normal`), and a normal catalog
that is written to a file is loaded from there as it was (`IsNormal.load_render`).  So the catalogs
that can be loaded at all are the normal ones (`isNormal_iff`).

A file lists its categories as the members of an object.  Their order is kept, and of members of one
name the first gives the place and the last gives the patterns (`keys_ofList`, `get?_ofList`); a
blank pattern in a category that counts makes the file unacceptable (`load_of_blank`). -/

namespace QueryGate.Catalog

open Text Json

/-! ## Normal catalogs -/

/-- A pattern as it is kept: something is in it, no blank is at its ends, and no capital in it. -/
structure IsPattern (p : Text) : Prop where
  ne_nil : p ≠ []
  trimmed : Trimmed p
  low : toLower p = p

instance (p : Text) : Decidable (IsPattern p) :=
  decidable_of_iff (p ≠ [] ∧ Trimmed p ∧ toLower p = p)
    ⟨fun ⟨ne_nil, trimmed, low⟩ => ⟨ne_nil, trimmed, low⟩, fun h => ⟨h.ne_nil, h.trimmed, h.low⟩⟩

/-- A pattern is kept without the blanks at its ends and in lower case. -/
def normal (p : Text) : Text := toLower (trim p)

theorem isPattern_normal {p : Text} (hp : ¬ AllBlank p) : IsPattern (normal p) where
  ne_nil := toLower_ne_nil fun h => hp (trim_eq_nil_iff.mp h)
  trimmed := trimmed_toLower (trimmed_trim p)
  low := toLower_toLower (trim p)

theorem IsPattern.normal_eq {p : Text} (h : IsPattern p) : normal p = p := by
  rw [normal, h.trimmed.trim_eq, h.low]

theorem IsPattern.not_allBlank {p : Text} (h : IsPattern p) : ¬ AllBlank p := by
  intro hblank
  apply h.ne_nil
  rw [← h.trimmed.trim_eq, trim_eq_nil_iff]
  exact hblank

/-- A catalog that loading has nothing to change in. -/
structure IsNormal (c : Catalog) : Prop where
  version : c.version ≠ []
  categories : c.categories.entries ≠ []
  names : c.categories.keys.Nodup
  patterns : ∀ e ∈ c.categories.entries, ∀ p ∈ e.2, IsPattern p
  columns : c.safeAlternatives.keys.Nodup
  low : ∀ column ∈ c.safeAlternatives.keys, toLower column = column

/-- An empty name is not sensitive, for no pattern is empty. -/
theorem IsNormal.isSensitive_nil {c : Catalog} (h : c.IsNormal) : c.isSensitive [] = false := by
  rw [isSensitive, matchingPattern?_eq, Option.isSome_eq_false_iff, Option.isNone_iff_eq_none,
    List.find?_eq_none]
  intro p hp hcontains
  obtain ⟨e, he, hp⟩ := List.mem_flatMap.mp hp
  have hinfix : p <:+: [] := contains_iff_infix.mp hcontains
  exact (h.patterns e he p hp).ne_nil (List.infix_nil.mp hinfix)

/-! ## Repeated names -/

theorem mem_distinct {p : Text} {l : List Text} : p ∈ distinct l ↔ p ∈ l := by
  induction l with
  | nil => rfl
  | cons q l ih =>
    by_cases h : p = q
    · simp [distinct, h]
    · simp [distinct, h, ih]

/-- A further text is taken if it is a new one. -/
theorem distinct_concat (l : List Text) (p : Text) :
    distinct (l ++ [p]) = if p ∈ l then distinct l else distinct l ++ [p] := by
  induction l with
  | nil => rfl
  | cons q l ih =>
    rw [List.cons_append, distinct, ih, distinct]
    by_cases h : p = q
    · subst h
      split <;> simp [List.filter_append]
    · by_cases hmem : p ∈ l
      · simp [hmem]
      · simp [h, hmem, List.filter_append]

/-- The keys of a map stand where they first appeared. -/
theorem keys_ofList {ν : Type} (l : List (Text × ν)) :
    (OrderedMap.ofList l).keys = distinct (l.map (·.1)) := by
  induction l using List.reverseRecOn with
  | nil => rfl
  | append_singleton l e ih =>
    rw [OrderedMap.ofList_concat, OrderedMap.keys_insert, ih, List.map_append, List.map_singleton,
      distinct_concat]
    simp only [mem_distinct]

/-! ## What is loaded -/

theorem toCatalog_eq (d : Document) :
    d.toCatalog = ⟨d.categories.mapValues (·.map normal), d.safeAlternatives.mapKeys toLower,
      d.version⟩ := by
  simp [Document.toCatalog, make, OrderedMap.mapValues, normal, Function.comp_def]

variable {v : Json} {d : Document} {c : Catalog}

theorem isNormal_toCatalog (h : Document.Describes v d) : d.toCatalog.IsNormal := by
  obtain ⟨w, -, hw⟩ := h.categories
  obtain ⟨all, -, hne, hall, hblank⟩ := Document.checkCategories_eq_ok_iff.mp hw
  rw [toCatalog_eq]
  refine ⟨h.version_ne, ?_, ?_, ?_, OrderedMap.nodup_keys_ofList _, ?_⟩
  · -- a map made of some associations is not empty
    intro hnone
    have hkeys : (OrderedMap.ofList all).keys = [] := by
      rw [← hall, ← OrderedMap.keys_mapValues (·.map normal), OrderedMap.keys, hnone, List.map_nil]
    obtain ⟨e, rest, rfl⟩ := List.exists_cons_of_ne_nil hne
    rw [keys_ofList, List.map_cons, distinct] at hkeys
    cases hkeys
  · rw [OrderedMap.keys_mapValues, hall]
    exact OrderedMap.nodup_keys_ofList all
  · intro e he p hp
    obtain ⟨e', he', rfl⟩ := List.mem_map.mp he
    obtain ⟨q, hq, rfl⟩ := List.mem_map.mp hp
    exact isPattern_normal (hblank e' he' q hq)
  · intro column hcolumn
    obtain ⟨k, -, rfl⟩ := OrderedMap.mem_keys_mapKeys hcolumn
    exact toLower_toLower k

/-- The document that a normal catalog is written as. -/
def toDocument (c : Catalog) : Document := ⟨c.version, c.categories, c.safeAlternatives⟩

theorem IsNormal.toCatalog_toDocument (h : c.IsNormal) : c.toDocument.toCatalog = c := by
  have hcategories : c.categories.mapValues (·.map normal) = c.categories := by
    refine OrderedMap.mapValues_eq_self fun e he => ?_
    exact (List.map_congr_left fun p hp => (h.patterns e he p hp).normal_eq).trans (List.map_id e.2)
  rw [toCatalog_eq, toDocument, hcategories, OrderedMap.mapKeys_eq_self h.columns h.low]

theorem IsNormal.describes (h : c.IsNormal) : Document.Describes c.toJson c.toDocument := by
  refine ⟨⟨_, rfl⟩, member?_object "version" _, h.version,
    ⟨_, member?_object "categories" _, ?_⟩, ?_⟩
  · refine Document.checkCategories_eq_ok_iff.mpr
      ⟨c.categories.entries, holdsMembers_obj ofTexts _, h.categories, ?_, ?_⟩
    · exact (OrderedMap.ofList_of_nodup h.names).symm
    · exact fun e he p hp => (h.patterns e he p hp).not_allBlank
  · rw [toJson, member?_object "safe_alternatives"]
    exact Document.checkAlternatives_eq_ok_iff.mpr ⟨c.safeAlternatives.entries,
      holdsMembers_obj Json.str _, (OrderedMap.ofList_of_nodup h.columns).symm⟩

/-! ## Writing and loading -/

theorem isNumberless_toJson (c : Catalog) : c.toJson.isNumberless = true := by
  refine isNumberless_obj ?_
  simp only [List.map_cons, List.map_nil, List.forall_mem_cons]
  refine ⟨rfl, isNumberless_obj ?_, isNumberless_obj ?_, List.forall_mem_nil _⟩
  · intro m hm
    obtain ⟨e, -, rfl⟩ := List.mem_map.mp hm
    exact isNumberless_ofTexts e.2
  · intro m hm
    obtain ⟨e, -, rfl⟩ := List.mem_map.mp hm
    rfl

theorem IsNormal.fitsIn_toJson {n : Nat} (h : c.IsNormal) : FitsIn (n + 3) c.toJson := by
  have hnames : ["version", "categories", "safe_alternatives"].Nodup := by decide
  refine fitsIn_object hnames ?_
  simp only [List.forall_mem_cons]
  refine ⟨fitsIn_str _, fitsIn_obj ?_ ?_, fitsIn_obj ?_ ?_, List.forall_mem_nil _⟩
  · rw [List.map_map]
    exact h.names
  · intro m hm
    obtain ⟨e, -, rfl⟩ := List.mem_map.mp hm
    exact fitsIn_ofTexts e.2
  · rw [List.map_map]
    exact h.columns
  · intro m hm
    obtain ⟨e, -, rfl⟩ := List.mem_map.mp hm
    exact fitsIn_str e.2

/-- **A normal catalog is loaded from where it was written.** -/
theorem IsNormal.load_render (h : c.IsNormal) : load (some (toUtf8 c.toJson.render)) = .ok c := by
  have hfits : FitsIn Reading.strict.maxDepth c.toJson := h.fitsIn_toJson
  have hparse : Json.parse .strict c.toJson.render = .ok c.toJson := by
    rw [parse_render hfits.storable fun _ => isNumberless_toJson c, hfits.readable, unlessFault]
  exact load_eq_ok_iff.mpr ⟨_, _, c.toDocument, ofUtf8?_render _, hparse, h.describes,
    h.toCatalog_toDocument.symm⟩

theorem isNormal_of_load {file : List UInt8} (h : load (some file) = .ok c) : c.IsNormal := by
  obtain ⟨s, v, d, -, -, hd, rfl⟩ := load_eq_ok_iff.mp h
  exact isNormal_toCatalog hd

/-- The normal catalogs are those that some file is loaded as. -/
theorem isNormal_iff : c.IsNormal ↔ ∃ file, load (some file) = .ok c :=
  ⟨fun h => ⟨_, h.load_render⟩, fun ⟨_, h⟩ => isNormal_of_load h⟩

/-! ## The categories of a file -/

/-- The file is a text that is read as an object with the given categories, in the order of the file
and with repetitions. -/
def Lists (file : List UInt8) (all : List (Text × List Text)) : Prop :=
  ∃ s v w, ofUtf8? file = some s ∧ Json.parse .strict s = .ok v ∧
    v.member? "categories".toList = some w ∧ HoldsMembers ofTexts w all

/-- Categories keep their order, with the last patterns that are listed for them. -/
theorem exists_lists_of_load {file : List UInt8} (h : load (some file) = .ok c) :
    ∃ all, Lists file all ∧ c.categories.keys = distinct (all.map (·.1)) ∧
      ∀ name, c.categories.get? name = (all.reverse.lookup name).map (·.map normal) := by
  obtain ⟨s, v, d, hs, hv, hd, rfl⟩ := load_eq_ok_iff.mp h
  obtain ⟨w, hw, hcheck⟩ := hd.categories
  obtain ⟨all, hall, -, hmap, -⟩ := Document.checkCategories_eq_ok_iff.mp hcheck
  refine ⟨all, ⟨s, v, w, hs, hv, hw, hall⟩, ?_, fun name => ?_⟩
  · rw [toCatalog_eq, OrderedMap.keys_mapValues, hmap, keys_ofList]
  · rw [toCatalog_eq, OrderedMap.get?_mapValues, hmap, OrderedMap.get?_ofList]

/-- A blank pattern in a category that counts is not accepted, whatever else is in the file. -/
theorem load_of_blank {file : List UInt8} {s name p : Text} {w : Json} {items : List Json}
    (hs : ofUtf8? file = some s) (hv : Json.parse .strict s = .ok v)
    (hw : v.member? "categories".toList = some w) (hitems : w.member? name = some (.arr items))
    (hp : .str p ∈ items) (hblank : AllBlank p) :
    ∃ issues, load (some file) = .error (.invalid issues) := by
  cases hdoc : Document.ofJson v with
  | bad issues => exact ⟨issues, by simp only [load, hs, Document.ofText, hv, hdoc]⟩
  | ok d =>
    exfalso
    obtain ⟨w', hw', hcheck⟩ := (Document.ofJson_eq_ok_iff.mp hdoc).categories
    obtain rfl := Option.some.inj (hw.symm.trans hw')
    obtain ⟨all, hall, -, hmap, hpatterns⟩ := Document.checkCategories_eq_ok_iff.mp hcheck
    rw [hall.member?_eq name, Option.map_eq_some_iff] at hitems
    obtain ⟨patterns, hlookup, hwrite⟩ := hitems
    obtain rfl := Json.arr.inj hwrite
    obtain ⟨q, hq, hqp⟩ := List.mem_map.mp hp
    obtain rfl : q = p := JsonString.text.inj (Json.string.inj hqp)
    rw [← OrderedMap.get?_ofList, ← hmap] at hlookup
    exact hpatterns (name, patterns) (OrderedMap.mem_of_get? hlookup) q hq hblank

/-- **Loading brings a catalog into normal form.**  For every file that is accepted, the patterns of
the catalog have something in them, no blanks at their ends and no capitals; an empty name is not
sensitive; the catalog, written to a file, is loaded from there as it was; and its categories are
those that the file lists, in the same order.  Of categories of one name the first gives the place
and the last the patterns.

A file in which a pattern of a category is blank is not accepted. -/
theorem load_normalizes :
    (∀ file c, load (some file) = .ok c →
      (∀ e ∈ c.categories.entries, ∀ p ∈ e.2, IsPattern p) ∧
        c.isSensitive [] = false ∧
        load (some (toUtf8 c.toJson.render)) = .ok c ∧
        ∃ all, Lists file all ∧ c.categories.keys = distinct (all.map (·.1)) ∧
          ∀ name, c.categories.get? name = (all.reverse.lookup name).map (·.map normal)) ∧
      ∀ file s v w name items p, ofUtf8? file = some s → Json.parse .strict s = .ok v →
        v.member? "categories".toList = some w → w.member? name = some (.arr items) →
        .str p ∈ items → AllBlank p → ∃ issues, load (some file) = .error (.invalid issues) := by
  constructor
  · intro file c h
    have hnormal := isNormal_of_load h
    exact ⟨hnormal.patterns, hnormal.isSensitive_nil, hnormal.load_render, exists_lists_of_load h⟩
  · intro file s v w name items p hs hv hw hitems hp hblank
    exact load_of_blank hs hv hw hitems hp hblank

/-- A file with blanks, capitals, a category that is listed twice and a column in two spellings. -/
def Sample.untidy : Text :=
  ("\x7b\"version\": \"7\", \"categories\": \x7b\"pay\": [\" Wage \"], \"hr\": [\"bonus\"], ".toList
    ++ "\"pay\": [\"BONUS\\n\", \" N\\u03a3\"]\x7d, ".toList
    ++ "\"safe_alternatives\": \x7b\"Pay\": \"1\", \"PAY\": \"2\"\x7d\x7d".toList)

/-- The catalog in that file. -/
def Sample.tidy : Catalog where
  categories := ⟨[("pay".toList, ["bonus".toList, "nς".toList]), ("hr".toList, ["bonus".toList])]⟩
  safeAlternatives := ⟨[("pay".toList, "2".toList)]⟩
  version := "7".toList

/-- An object in whose second category there is a blank pattern. -/
def Sample.blank : Json := .object [("version", .str "7".toList),
  ("categories", .object [("pay", .ofTexts ["wage".toList]),
    ("hr", .ofTexts ["bonus".toList, " \t".toList])])]

theorem load_normalizes_untidy :
    (load (some (toUtf8 Sample.untidy)) = .ok Sample.tidy ∧
        (∀ e ∈ Sample.tidy.categories.entries, ∀ p ∈ e.2, IsPattern p) ∧
        load (some (toUtf8 Sample.tidy.toJson.render)) = .ok Sample.tidy) ∧
      ∃ issues, load (some (toUtf8 Sample.blank.render)) = .error (.invalid issues) := by
  have hascii : ∀ c ∈ Sample.untidy, c.toNat < 0x80 := forall_mem_of_all (by decide +kernel)
  have hdocument : (Document.ofText Sample.untidy).value?.map (·.toCatalog) = some Sample.tidy := by
    decide +kernel
  have hload : load (some (toUtf8 Sample.untidy)) = .ok Sample.tidy := by
    obtain ⟨d, hd, hcatalog⟩ := Option.map_eq_some_iff.mp hdocument
    simp only [load, ofUtf8?_toUtf8 hascii, Checked.value?_eq_some_iff.mp hd, hcatalog]
  have hparse : Json.parse .strict Sample.blank.render = .ok Sample.blank := by
    rw [parse_render (by decide) fun _ => rfl]
    rfl
  obtain ⟨hpatterns, -, hagain, -⟩ := load_normalizes.1 _ _ hload
  exact ⟨⟨hload, hpatterns, hagain⟩, load_normalizes.2 _ _ _ _ "hr".toList _ " \t".toList
    (ofUtf8?_render _) hparse rfl rfl (by simp) (by decide)⟩

end QueryGate.Catalog
