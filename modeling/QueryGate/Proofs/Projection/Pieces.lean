import QueryGate.Projection.Split
import QueryGate.Proofs.Text.Blanks
import QueryGate.Proofs.Text.Words
import Mathlib.Data.List.Forall2

/-! # Items between commas

`Nesting.along` is the nesting behind a text, and a text is *solid* in a nesting if none of its
commas separates there.  A piece ends at the first comma behind a solid text that leaves the
nesting open to it (`pieces_solid_comma`).  A text is *balanced* if it is solid outside of quotes
and leaves them as it found them, at every depth of parentheses; such texts are put together from
smaller ones, and a list of them with commas between splits into itself (`split_of_listed`). -/

namespace QueryGate.Projection

open Text

namespace Nesting

/-- The nesting behind a text. -/
def along (n : Nesting) (s : Text) : Nesting := s.foldl after n

@[simp] theorem along_nil (n : Nesting) : n.along [] = n := rfl

@[simp] theorem along_cons (n : Nesting) (c : Char) (s : Text) :
    n.along (c :: s) = (n.after c).along s := rfl

@[simp] theorem along_append (n : Nesting) (s t : Text) : n.along (s ++ t) = (n.along s).along t :=
  List.foldl_append

/-- Where a comma separates, nothing is open. -/
theorem eq_outside_of_separates {n : Nesting} {c : Char} (h : n.separates c = true) :
    n = .outside := by
  obtain ⟨quote, depth⟩ := n
  simp only [separates, Bool.and_eq_true, Option.isNone_iff_eq_none, beq_iff_eq] at h
  rw [outside, h.1.1, h.2]

/-- A quote that is open is one of the quotes. -/
def Proper (n : Nesting) : Prop := ∀ q ∈ n.quote, isQuote q = true

theorem proper_outside : outside.Proper := nofun

theorem Proper.after {n : Nesting} (h : n.Proper) (c : Char) : (n.after c).Proper := by
  obtain ⟨quote, depth⟩ := n
  cases quote with
  | some q =>
    by_cases hc : c = q
    · simp [Proper, Nesting.after, hc]
    · simpa [Nesting.after, hc] using h
  | none =>
    by_cases hquote : isQuote c = true
    · simp [Proper, Nesting.after, hquote]
    · unfold Proper Nesting.after
      simp only [hquote, Bool.false_eq_true, if_false]
      split
      · nofun
      · split <;> nofun

theorem Proper.along {n : Nesting} (h : n.Proper) (s : Text) : (n.along s).Proper := by
  induction s generalizing n with
  | nil => exact h
  | cons c s ih => exact ih (h.after c)

end Nesting

/-- No comma of the text separates items. -/
def Solid (n : Nesting) : Text → Prop
  | [] => True
  | c :: s => n.separates c = false ∧ Solid (n.after c) s

instance decidableSolid : ∀ (n : Nesting) (s : Text), Decidable (Solid n s)
  | _, [] => .isTrue trivial
  | n, c :: s => @instDecidableAnd _ _ _ (decidableSolid (n.after c) s)

theorem solid_append {n : Nesting} {s t : Text} :
    Solid n (s ++ t) ↔ Solid n s ∧ Solid (n.along s) t := by
  induction s generalizing n with
  | nil => simp [Solid]
  | cons c s ih => simp [Solid, ih, and_assoc]

theorem solid_of_not_comma {t : Text} (h : ',' ∉ t) (n : Nesting) : Solid n t := by
  induction t generalizing n with
  | nil => trivial
  | cons c t ih =>
    have hcomma : c ≠ ',' := fun hc => h (by simp [hc])
    exact ⟨by simp [Nesting.separates, hcomma], ih (fun hmem => h (List.mem_cons_of_mem _ hmem)) _⟩

/-! ## Pieces -/

theorem pieces_ne_nil (n : Nesting) (s : Text) : pieces n s ≠ [] := by
  cases s with
  | nil => simp [pieces]
  | cons c s =>
    rw [pieces]
    split
    · simp
    · split <;> simp

theorem pieces_cons (n : Nesting) (c : Char) (s : Text) :
    pieces n (c :: s) =
      if n.separates c then [] :: pieces n s
      else (pieces (n.after c) s).modifyHead (c :: ·) := by
  rw [pieces]
  cases h : pieces (n.after c) s with
  | nil => exact absurd h (pieces_ne_nil _ _)
  | cons piece more => rfl

/-- A solid text belongs to the first piece. -/
theorem pieces_append {n : Nesting} {s : Text} (hs : Solid n s) (t : Text) :
    pieces n (s ++ t) = (pieces (n.along s) t).modifyHead (s ++ ·) := by
  induction s generalizing n with
  | nil =>
    obtain ⟨piece, more, h⟩ := List.exists_cons_of_ne_nil (pieces_ne_nil n t)
    simp [h]
  | cons c s ih =>
    obtain ⟨hc, hs⟩ := hs
    rw [List.cons_append, pieces_cons, if_neg (by simp [hc]), ih hs, List.modifyHead_modifyHead]
    rfl

theorem pieces_solid {n : Nesting} {s : Text} (hs : Solid n s) : pieces n s = [s] := by
  have h := pieces_append hs []
  simpa [pieces] using h

theorem pieces_solid_comma {s : Text} (hs : Solid .outside s)
    (halong : Nesting.outside.along s = .outside) (t : Text) :
    pieces .outside (s ++ ',' :: t) = s :: pieces .outside t := by
  have hcomma : Nesting.outside.separates ',' = true := rfl
  rw [pieces_append hs, halong, pieces_cons, if_pos hcomma, List.modifyHead_cons, List.append_nil]

/-! ## Plain characters -/

/-- The characters that separate items or change a nesting. -/
def marks : Text := ['\'', '"', '`', '(', ')', ',']

/-- A character that neither separates items nor changes a nesting outside of quotes. -/
def isPlain (c : Char) : Bool := decide (c ∉ marks)

theorem isPlain_of {p : Char → Bool} (hp : marks.all (!p ·) = true) {c : Char}
    (h : p c = true) : isPlain c = true := by
  rw [isPlain, decide_eq_true_eq]
  intro hmem
  have hno := List.all_eq_true.mp hp c hmem
  rw [h] at hno
  cases hno

theorem isPlain_of_isBlank {c : Char} (h : isBlank c = true) : isPlain c = true :=
  isPlain_of (by decide) h

theorem isPlain_of_isWord {c : Char} (h : isWord c = true) : isPlain c = true :=
  isPlain_of (by decide) h

theorem separates_of_isPlain (n : Nesting) {c : Char} (h : isPlain c = true) :
    n.separates c = false := by
  have hcomma : c ≠ ',' := by
    rintro rfl
    exact absurd h (by decide)
  simp [Nesting.separates, hcomma]

theorem after_of_isPlain (depth : Nat) {c : Char} (h : isPlain c = true) :
    Nesting.after ⟨none, depth⟩ c = ⟨none, depth⟩ := by
  have hmark : c ∉ marks := by simpa [isPlain] using h
  simp only [marks, List.mem_cons, not_or] at hmark
  obtain ⟨hsingle, hdouble, hback, hopen, hclose, -⟩ := hmark
  simp [Nesting.after, Nesting.isQuote, hsingle, hdouble, hback, hopen, hclose]

theorem solid_of_blank {g : Text} (hg : AllBlank g) (n : Nesting) : Solid n g := by
  induction g generalizing n with
  | nil => trivial
  | cons c g ih =>
    obtain ⟨hc, hg⟩ := List.forall_mem_cons.mp hg
    exact ⟨separates_of_isPlain n (isPlain_of_isBlank hc), ih hg _⟩

theorem Nesting.Proper.after_of_isBlank {n : Nesting} (hn : n.Proper) {c : Char}
    (hc : isBlank c = true) : n.after c = n := by
  obtain ⟨quote, depth⟩ := n
  cases quote with
  | none => exact Projection.after_of_isPlain depth (isPlain_of_isBlank hc)
  | some q =>
    have hne : c ≠ q := by
      rintro rfl
      have hmark : c ∈ marks := by
        have hquote := hn c rfl
        simp only [isQuote, Bool.or_eq_true, beq_iff_eq] at hquote
        rcases hquote with (rfl | rfl) | rfl <;> decide
      have hplain := isPlain_of_isBlank hc
      rw [isPlain, decide_eq_true_eq] at hplain
      exact hplain hmark
    simp [Nesting.after, hne]

/-- Blanks open and close nothing. -/
theorem Nesting.Proper.along_blank {n : Nesting} (hn : n.Proper) {g : Text} (hg : AllBlank g) :
    n.along g = n := by
  induction g with
  | nil => rfl
  | cons c g ih =>
    obtain ⟨hc, hg⟩ := List.forall_mem_cons.mp hg
    rw [Nesting.along_cons, hn.after_of_isBlank hc, ih hg]

/-! ## Blanks around the whole -/

/-- Blanks behind a text stand behind its last piece. -/
theorem pieces_append_blank {g : Text} (hg : AllBlank g) (n : Nesting) (s : Text) :
    List.Forall₂ (fun piece padded => ∃ g', AllBlank g' ∧ padded = piece ++ g')
      (pieces n s) (pieces n (s ++ g)) := by
  induction s generalizing n with
  | nil =>
    rw [List.nil_append, pieces_solid (solid_of_blank hg n), pieces]
    exact .cons ⟨g, hg, rfl⟩ .nil
  | cons c s ih =>
    rw [List.cons_append, pieces_cons, pieces_cons]
    split
    · exact .cons ⟨[], by simp [AllBlank], rfl⟩ (ih n)
    · have hrest := ih (n.after c)
      generalize pieces (n.after c) s = l, pieces (n.after c) (s ++ g) = m at hrest ⊢
      cases hrest with
      | nil => exact .nil
      | cons hhead htail =>
        obtain ⟨g', hg', rfl⟩ := hhead
        exact .cons ⟨g', hg', rfl⟩ htail

theorem split_append_blank {g : Text} (hg : AllBlank g) (s : Text) :
    split (s ++ g) = split s := by
  have hsame : ∀ l m, List.Forall₂ (fun piece padded => ∃ g', AllBlank g' ∧ padded = piece ++ g')
      l m → m.map trim = l.map trim := by
    intro l m h
    induction h with
    | nil => rfl
    | cons hhead _ ih =>
      obtain ⟨g', hg', rfl⟩ := hhead
      rw [List.map_cons, List.map_cons, ih, trim_append_right hg']
  rw [split, split, hsame _ _ (pieces_append_blank hg .outside s)]

theorem split_blank_append {g : Text} (hg : AllBlank g) (s : Text) :
    split (g ++ s) = split s := by
  rw [split, split, pieces_append (solid_of_blank hg _), Nesting.proper_outside.along_blank hg]
  cases pieces .outside s with
  | nil => rfl
  | cons piece more => rw [List.modifyHead_cons, List.map_cons, trim_append_left hg, List.map_cons]

/-- Blanks around a projection do not matter to its items. -/
theorem split_trim (s : Text) : split (trim s) = split s := by
  obtain ⟨g, g', hg, hg', h⟩ := exists_trim s
  conv_rhs => rw [h, split_blank_append hg, split_append_blank hg']

/-! ## Balanced texts -/

/-- At every depth of parentheses no comma of the text separates, but for parentheses that it
opens, and the text closes what it opens. -/
def Balanced (t : Text) : Prop :=
  ∀ depth, Solid ⟨none, depth⟩ t ∧ Nesting.along ⟨none, depth⟩ t = ⟨none, depth⟩

namespace Balanced

theorem solid {t : Text} (ht : Balanced t) : Solid .outside t := (ht 0).1

theorem along {t : Text} (ht : Balanced t) : Nesting.outside.along t = .outside := (ht 0).2

theorem nil : Balanced [] := fun _ => ⟨trivial, rfl⟩

theorem append {s t : Text} (hs : Balanced s) (ht : Balanced t) : Balanced (s ++ t) := by
  intro depth
  obtain ⟨hsolid, halong⟩ := hs depth
  obtain ⟨hsolid', halong'⟩ := ht depth
  refine ⟨solid_append.mpr ⟨hsolid, ?_⟩, by rw [Nesting.along_append, halong, halong']⟩
  rw [halong]
  exact hsolid'

theorem of_plain {t : Text} (ht : ∀ c ∈ t, isPlain c = true) : Balanced t := by
  induction t with
  | nil => exact nil
  | cons c t ih =>
    obtain ⟨hc, ht⟩ := List.forall_mem_cons.mp ht
    intro depth
    obtain ⟨hsolid, halong⟩ := ih ht depth
    have hafter := after_of_isPlain depth hc
    refine ⟨⟨separates_of_isPlain _ hc, ?_⟩, by rw [Nesting.along_cons, hafter, halong]⟩
    rw [hafter]
    exact hsolid

/-- A mark that the splitter does not know. -/
theorem of_mark {c : Char} (hc : isPlain c = true) : Balanced [c] :=
  .of_plain (List.forall_mem_singleton.mpr hc)

theorem of_blank {g : Text} (hg : AllBlank g) : Balanced g :=
  of_plain fun c hc => isPlain_of_isBlank (hg c hc)

theorem of_word {w : Text} (hw : AllWord w) : Balanced w :=
  of_plain fun c hc => isPlain_of_isWord (hw c hc)

/-- Parentheses around a balanced text. -/
theorem paren {t : Text} (ht : Balanced t) : Balanced ('(' :: (t ++ [')'])) := by
  intro depth
  obtain ⟨hsolid, halong⟩ := ht (depth + 1)
  have hopen : Nesting.after ⟨none, depth⟩ '(' = ⟨none, depth + 1⟩ := rfl
  have hclose : Nesting.after ⟨none, depth + 1⟩ ')' = ⟨none, depth⟩ := rfl
  constructor
  · refine ⟨rfl, ?_⟩
    rw [hopen, solid_append, halong]
    exact ⟨hsolid, rfl, trivial⟩
  · rw [Nesting.along_cons, hopen, Nesting.along_append, halong, Nesting.along_cons, hclose,
      Nesting.along_nil]

/-- Quotes around a text without that quote. -/
theorem quoted {q : Char} (hq : Nesting.isQuote q = true) {t : Text} (ht : q ∉ t) :
    Balanced (q :: (t ++ [q])) := by
  intro depth
  have hcomma : ∀ (c : Char), Nesting.separates ⟨some q, depth⟩ c = false := fun _ => rfl
  have hopen : Nesting.after ⟨none, depth⟩ q = ⟨some q, depth⟩ := by simp [Nesting.after, hq]
  have hclose : Nesting.after ⟨some q, depth⟩ q = ⟨none, depth⟩ := by simp [Nesting.after]
  -- within the quotes nothing separates and only the quote itself is read
  have hinside : Solid ⟨some q, depth⟩ t ∧ Nesting.along ⟨some q, depth⟩ t = ⟨some q, depth⟩ := by
    induction t with
    | nil => exact ⟨trivial, rfl⟩
    | cons c t ih =>
      have hne : c ≠ q := fun h => ht (by simp [h])
      have hafter : Nesting.after ⟨some q, depth⟩ c = ⟨some q, depth⟩ := by
        simp [Nesting.after, hne]
      obtain ⟨hsolid, halong⟩ := ih fun h => ht (List.mem_cons_of_mem _ h)
      refine ⟨⟨hcomma c, ?_⟩, by rw [Nesting.along_cons, hafter, halong]⟩
      rw [hafter]
      exact hsolid
  have hseparates : Nesting.separates ⟨none, depth⟩ q = false := by
    have hne : q ≠ ',' := by
      rintro rfl
      exact absurd hq (by decide)
    simp [Nesting.separates, hne]
  constructor
  · refine ⟨hseparates, ?_⟩
    rw [hopen, solid_append, hinside.2]
    exact ⟨hinside.1, hcomma q, trivial⟩
  · rw [Nesting.along_cons, hopen, Nesting.along_append, hinside.2, Nesting.along_cons, hclose,
      Nesting.along_nil]

end Balanced

/-! ## Lists of items -/

/-- The items with a comma between neighbours and blanks around the commas. -/
inductive Listed : List Text → Text → Prop
  | one (item : Text) : Listed [item] item
  | more {item s g g' : Text} {items : List Text} (hg : AllBlank g) (hg' : AllBlank g')
      (h : Listed items s) : Listed (item :: items) (item ++ (g ++ ',' :: (g' ++ s)))

/-- A text that closes what it opens is the item in front of a comma. -/
theorem split_solid_comma {s : Text} (hs : Solid .outside s)
    (halong : Nesting.outside.along s = .outside) (hne : trim s ≠ []) (t : Text) :
    split (s ++ ',' :: t) = trim s :: split t := by
  rw [split, pieces_solid_comma hs halong, List.map_cons,
    List.filter_cons_of_pos (by simpa using hne), ← split]

/-- Items as the splitter tells them apart: none has a comma that separates, and each but the last
closes what it opens. -/
inductive Parted : List Text → Prop
  | nil : Parted []
  | last {item : Text} (hsolid : Solid .outside item) : Parted [item]
  | more {item : Text} {items : List Text} (hsolid : Solid .outside item)
      (halong : Nesting.outside.along item = .outside) (h : Parted items) : Parted (item :: items)

/-- A single item that is solid is the whole list. -/
theorem split_singleton {item : Text} (hsolid : Solid .outside item) (hne : item ≠ [])
    (htrimmed : Trimmed item) : split item = [item] := by
  rw [split, pieces_solid hsolid, List.map_singleton, htrimmed.trim_eq]
  simp [hne]

/-- Parted items without blanks at their ends are the items of their list. -/
theorem split_of_parted {items : List Text} {s : Text} (h : Listed items s) (hparted : Parted items)
    (hitems : ∀ item ∈ items, item ≠ [] ∧ Trimmed item) : split s = items := by
  induction h with
  | one item =>
    obtain ⟨hne, htrimmed⟩ := hitems item List.mem_cons_self
    cases hparted with
    | last hsolid => exact split_singleton hsolid hne htrimmed
    | more hsolid _ _ => exact split_singleton hsolid hne htrimmed
  | @more item s g g' items hg hg' hlisted ih =>
    obtain ⟨⟨hne, htrimmed⟩, hitems⟩ := List.forall_mem_cons.mp hitems
    cases hparted with
    | last _ => cases hlisted
    | more hsolid halong hparted =>
      have htrim : trim (item ++ g) = item := by rw [trim_append_right hg, htrimmed.trim_eq]
      have hpadded : Solid .outside (item ++ g) :=
        solid_append.mpr ⟨hsolid, solid_of_blank hg _⟩
      have halong' : Nesting.outside.along (item ++ g) = .outside := by
        rw [Nesting.along_append, halong, Nesting.proper_outside.along_blank hg]
      rw [← List.append_assoc, split_solid_comma hpadded halong' (by rwa [htrim]), htrim,
        split_blank_append hg', ih hparted hitems]

theorem Parted.of_balanced {items : List Text} (h : ∀ item ∈ items, Balanced item) :
    Parted items := by
  induction items with
  | nil => exact .nil
  | cons item items ih =>
    obtain ⟨hitem, hitems⟩ := List.forall_mem_cons.mp h
    exact .more hitem.solid hitem.along (ih hitems)

/-- Balanced items without blanks at their ends are the items of their list. -/
theorem split_of_listed {items : List Text} {s : Text} (h : Listed items s)
    (hitems : ∀ item ∈ items, item ≠ [] ∧ Balanced item ∧ Trimmed item) : split s = items :=
  split_of_parted h (.of_balanced fun item hitem => (hitems item hitem).2.1) fun item hitem =>
    ⟨(hitems item hitem).1, (hitems item hitem).2.2⟩

/-- The items of a list with a comma and a space between them. -/
theorem listed_join {items : List Text} (h : items ≠ []) : Listed items (join ", ".toList items) := by
  induction items with
  | nil => exact absurd rfl h
  | cons item items ih =>
    cases items with
    | nil => exact .one item
    | cons next items =>
      have hnone : AllBlank [] := by simp [AllBlank]
      have hblank : AllBlank [' '] := by decide
      have hmore : Listed (item :: next :: items)
          (item ++ ([] ++ ',' :: ([' '] ++ join ", ".toList (next :: items)))) :=
        .more hnone hblank (ih (List.cons_ne_nil _ _))
      rw [join_cons_cons]
      exact hmore

end QueryGate.Projection
