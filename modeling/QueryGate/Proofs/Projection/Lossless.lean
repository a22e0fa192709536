import QueryGate.Proofs.Projection.Pieces

/-! # What splitting loses

The pieces of a projection put one behind the other are the projection without its separating
commas (`flatten_pieces`), and trimming takes blanks alone, so splitting loses nothing but separating
commas and blanks (`withoutBlanks_flatten_split`).

Each piece but the last ends where a comma separates, so it closes what it opens, and so do the
items (`parted_split`).  Such items can be joined again: with a comma between neighbours and any
blanks around them they split into themselves (`split_join_padded`), whether or not the last of them
is closed (`split_of_parted`). -/

namespace QueryGate.Projection

open Text

/-- A text without the commas that separate its items, from a nesting on. -/
def withoutSeparators (n : Nesting) : Text → Text
  | [] => []
  | c :: s =>
    if n.separates c then withoutSeparators (n.after c) s
    else c :: withoutSeparators (n.after c) s

/-- A text without its blanks. -/
def withoutBlanks (s : Text) : Text := s.filter fun c => !isBlank c

/-! ## Nothing else is lost -/

theorem after_of_separates {n : Nesting} {c : Char} (h : n.separates c = true) : n.after c = n := by
  have hcomma : c = ',' := by
    simp only [Nesting.separates, Bool.and_eq_true, beq_iff_eq] at h
    exact h.1.2
  rw [Nesting.eq_outside_of_separates h, hcomma]
  rfl

/-- **The pieces are the text without its separating commas.** -/
theorem flatten_pieces (n : Nesting) (s : Text) : (pieces n s).flatten = withoutSeparators n s := by
  induction s generalizing n with
  | nil => rfl
  | cons c s ih =>
    rw [pieces_cons, withoutSeparators]
    split
    · rename_i h
      rw [List.flatten_cons, List.nil_append, ih, after_of_separates h]
    · have hrest := ih (n.after c)
      obtain ⟨piece, more, hpieces⟩ := List.exists_cons_of_ne_nil (pieces_ne_nil (n.after c) s)
      rw [hpieces] at hrest ⊢
      rw [List.modifyHead_cons, List.flatten_cons, List.cons_append, ← List.flatten_cons, hrest]

@[simp] theorem withoutBlanks_append (s t : Text) :
    withoutBlanks (s ++ t) = withoutBlanks s ++ withoutBlanks t :=
  List.filter_append s t

theorem withoutBlanks_of_blank {g : Text} (hg : AllBlank g) : withoutBlanks g = [] :=
  List.filter_eq_nil_iff.mpr fun c hc => by simp [hg c hc]

theorem withoutBlanks_trim (s : Text) : withoutBlanks (trim s) = withoutBlanks s := by
  obtain ⟨g, g', hg, hg', h⟩ := exists_trim s
  conv_rhs => rw [h]
  rw [withoutBlanks_append, withoutBlanks_append, withoutBlanks_of_blank hg,
    withoutBlanks_of_blank hg', List.nil_append, List.append_nil]

/-- **Splitting loses separating commas and blanks alone.** -/
theorem withoutBlanks_flatten_split (p : Text) :
    withoutBlanks (split p).flatten = withoutBlanks (withoutSeparators .outside p) := by
  have hitems : ∀ l : List Text,
      withoutBlanks ((l.map trim).filter fun item => !item.isEmpty).flatten =
        withoutBlanks l.flatten := by
    intro l
    rw [List.flatten_filter_not_isEmpty]
    induction l with
    | nil => rfl
    | cons piece l ih =>
      rw [List.map_cons, List.flatten_cons, List.flatten_cons, withoutBlanks_append,
        withoutBlanks_append, withoutBlanks_trim, ih]
  rw [split, hitems, flatten_pieces]

/-! ## What items are like -/

theorem mem_split {p item : Text} (h : item ∈ split p) : item ≠ [] ∧ Trimmed item := by
  obtain ⟨hmem, hne⟩ := List.mem_filter.mp h
  obtain ⟨piece, -, rfl⟩ := List.mem_map.mp hmem
  exact ⟨by simpa using hne, trimmed_trim piece⟩

/-- The first piece is solid from where it begins; if another follows, it leaves nothing open, and
from there on the pieces are parted. -/
theorem exists_pieces (n : Nesting) (s : Text) :
    ∃ piece more, pieces n s = piece :: more ∧ Solid n piece ∧
      (more ≠ [] → n.along piece = .outside) ∧ Parted more := by
  induction s generalizing n with
  | nil => exact ⟨[], [], rfl, trivial, fun h => absurd rfl h, .nil⟩
  | cons c s ih =>
    rw [pieces_cons]
    split
    · rename_i h
      obtain rfl := Nesting.eq_outside_of_separates h
      obtain ⟨piece, more, hpieces, hsolid, halong, hmore⟩ := ih .outside
      refine ⟨[], pieces .outside s, rfl, trivial, fun _ => rfl, ?_⟩
      rw [hpieces]
      by_cases hlast : more = []
      · subst hlast
        exact .last hsolid
      · exact .more hsolid (halong hlast) hmore
    · rename_i h
      obtain ⟨piece, more, hpieces, hsolid, halong, hmore⟩ := ih (n.after c)
      exact ⟨c :: piece, more, by rw [hpieces, List.modifyHead_cons],
        ⟨by simpa using h, hsolid⟩, halong, hmore⟩

theorem parted_pieces (s : Text) : Parted (pieces .outside s) := by
  obtain ⟨piece, more, hpieces, hsolid, halong, hmore⟩ := exists_pieces .outside s
  rw [hpieces]
  by_cases hlast : more = []
  · subst hlast
    exact .last hsolid
  · exact .more hsolid (halong hlast) hmore

/-- Without the blanks at its ends a text is as solid as before, and leaves open the same. -/
theorem solid_trim {s : Text} (h : Solid .outside s) :
    Solid .outside (trim s) ∧ Nesting.outside.along (trim s) = Nesting.outside.along s := by
  obtain ⟨g, g', hg, hg', hs⟩ := exists_trim s
  have hproper := Nesting.proper_outside.along (trim s)
  rw [hs, solid_append, Nesting.proper_outside.along_blank hg, solid_append] at h
  refine ⟨h.2.1, ?_⟩
  conv_rhs => rw [hs, Nesting.along_append, Nesting.proper_outside.along_blank hg,
    Nesting.along_append, hproper.along_blank hg']

/-- Trimmed and without the empty ones, parted texts are parted. -/
theorem Parted.items {l : List Text} (h : Parted l) :
    Parted ((l.map trim).filter fun item => !item.isEmpty) := by
  induction h with
  | nil => exact .nil
  | @last item hsolid =>
    rw [List.map_singleton, List.filter_cons]
    split
    · exact .last (solid_trim hsolid).1
    · exact .nil
  | @more item items hsolid halong _ ih =>
    obtain ⟨hsolid', halong'⟩ := solid_trim hsolid
    rw [List.map_cons, List.filter_cons]
    split
    · exact .more hsolid' (halong'.trans halong) ih
    · exact ih

/-- **Each item but the last closes what it opens.** -/
theorem parted_split (p : Text) : Parted (split p) := (parted_pieces p).items

/-! ## Items joined again -/

/-- **Items with a comma and a space between them split into themselves**, if they were split
before. -/
theorem split_join_split (p : Text) : split (join ", ".toList (split p)) = split p := by
  by_cases hnone : split p = []
  · rw [hnone]
    rfl
  · exact split_of_parted (listed_join hnone) (parted_split p) fun item h => mem_split h

/-- An item that can stand in front of a comma: no comma in it separates, it closes what it opens,
and it has no blanks at its ends. -/
structure IsItem (item : Text) : Prop where
  ne_nil : item ≠ []
  trimmed : Trimmed item
  solid : Solid .outside item
  closed : Nesting.outside.along item = .outside

instance (item : Text) : Decidable (IsItem item) :=
  decidable_of_iff (item ≠ [] ∧ Trimmed item ∧ Solid .outside item ∧
      Nesting.outside.along item = .outside)
    ⟨fun ⟨hne, htrimmed, hsolid, hclosed⟩ => ⟨hne, htrimmed, hsolid, hclosed⟩,
      fun h => ⟨h.ne_nil, h.trimmed, h.solid, h.closed⟩⟩

/-- The item with blanks around it, perhaps none. -/
def Padded (item padded : Text) : Prop :=
  ∃ g g', AllBlank g ∧ AllBlank g' ∧ padded = g ++ (item ++ g')

theorem parted_of_isItem {items : List Text} (h : ∀ item ∈ items, IsItem item) : Parted items := by
  induction items with
  | nil => exact .nil
  | cons item items ih =>
    obtain ⟨hitem, hitems⟩ := List.forall_mem_cons.mp h
    exact .more hitem.solid hitem.closed (ih hitems)

/-- Of the blanks around items in a list, those in front of the first and behind the last stand
around the whole. -/
theorem exists_listed {items padded : List Text} (h : List.Forall₂ Padded items padded)
    (hne : items ≠ []) :
    ∃ g s g', AllBlank g ∧ AllBlank g' ∧ Listed items s ∧ join [','] padded = g ++ (s ++ g') := by
  induction h with
  | nil => exact absurd rfl hne
  | @cons item text items padded hitem hitems ih =>
    obtain ⟨g, g', hg, hg', rfl⟩ := hitem
    cases hitems with
    | nil => exact ⟨g, item, g', hg, hg', .one item, rfl⟩
    | @cons next text' items padded hnext hmore =>
      obtain ⟨lead, s, tail, hlead, htail, hlisted, hjoin⟩ := ih (List.cons_ne_nil _ _)
      refine ⟨g, item ++ (g' ++ ',' :: (lead ++ s)), tail, hg, htail, .more hg' hlead hlisted, ?_⟩
      rw [join_cons_cons, hjoin]
      simp

/-- **Items with commas between them split into themselves**, whatever blanks stand around them. -/
theorem split_join_padded {items padded : List Text} (hitems : ∀ item ∈ items, IsItem item)
    (hpadded : List.Forall₂ Padded items padded) {g g' : Text} (hg : AllBlank g)
    (hg' : AllBlank g') : split (g ++ (join [','] padded ++ g')) = items := by
  rw [split_blank_append hg, split_append_blank hg']
  by_cases hnone : items = []
  · subst hnone
    cases hpadded
    rfl
  · obtain ⟨lead, s, tail, hlead, htail, hlisted, hjoin⟩ := exists_listed hpadded hnone
    rw [hjoin, split_blank_append hlead, split_append_blank htail]
    exact split_of_parted hlisted (parted_of_isItem hitems) fun item h =>
      ⟨(hitems item h).ne_nil, (hitems item h).trimmed⟩

/-- **Splitting is lossless and stable.**  Up to blanks, the items of any text are the text without
its separating commas; each is non-empty and trimmed, and joined by a comma and a space they are
split as before.  Every list of items of which none has a separating comma, or leaves a quote or a
parenthesis open, is what its members split into, joined by commas with any blanks around them. -/
theorem split_lossless :
    (∀ p, withoutBlanks (split p).flatten = withoutBlanks (withoutSeparators .outside p) ∧
      (∀ item ∈ split p, item ≠ [] ∧ Trimmed item) ∧
      split (join ", ".toList (split p)) = split p) ∧
    ∀ items padded, (∀ item ∈ items, IsItem item) → List.Forall₂ Padded items padded →
      ∀ g g', AllBlank g → AllBlank g' → split (g ++ (join [','] padded ++ g')) = items :=
  ⟨fun p => ⟨withoutBlanks_flatten_split p, fun _ h => mem_split h, split_join_split p⟩,
    fun _ _ hitems hpadded _ _ hg hg' => split_join_padded hitems hpadded hg hg'⟩

/-- Commas in parentheses and in quotes, and a parenthesis that nothing opens. -/
def Sample.items : List Text := ["COALESCE(a, b)".toList, "'x, y'".toList, "c)".toList]

theorem split_lossless_nested :
    (∀ item ∈ Sample.items, IsItem item) ∧
      split " COALESCE(a, b) ,'x, y'\t,\n c)".toList = Sample.items := by
  have hitems : ∀ item ∈ Sample.items, IsItem item := by decide
  have hpadded : List.Forall₂ Padded Sample.items
      [" COALESCE(a, b) ".toList, "'x, y'\t".toList, "\n c)".toList] :=
    .cons ⟨" ".toList, " ".toList, by decide, by decide, rfl⟩
      (.cons ⟨[], "\t".toList, by decide, by decide, rfl⟩
        (.cons ⟨"\n ".toList, [], by decide, by decide, rfl⟩ .nil))
  exact ⟨hitems, split_lossless.2 _ _ hitems hpadded [] [] (by decide) (by decide)⟩

end QueryGate.Projection
