import QueryGate.Proofs.Projection.Reading
import QueryGate.Proofs.Statement.Whole
import QueryGate.Sanitizer

/-! # The columns and the table of a statement

A statement of one projection and one table, with all its freedom of spelling: letter case, blanks,
quantifiers, marks, qualifiers, calls and aliases.  The columns that are extracted from it are
those of its items in order, and its table is found (`columns_render`).

For other projections, `requested_of_projection` and `leadingTable?_marked` say what remains
true. -/

namespace QueryGate

open Text Projection

namespace Statement

/-- What does not belong to the name in front of it: no part of a word, no closing mark, no dot. -/
structure EndsName (s : Text) : Prop where
  word : s.head?.any isWord = false
  mark : s.head?.any closesName = false
  dot : s.head? ≠ some '.'

theorem EndsName.of_blank {c : Char} (hc : isBlank c = true) (s : Text) : EndsName (c :: s) := by
  have hmark := not_mark_of_isBlank hc
  refine ⟨isWord_of_isBlank hc, closesName_of_not_mark hmark, ?_⟩
  rintro ⟨⟩
  exact hmark (by decide)

variable {o w k s : Text}

theorem leadingName?_marked (ho : MarkOf opensName o) (hne : w ≠ []) (hw : AllWord w)
    (hk : MarkOf closesName k) (hs : s.head?.any isWord = false) :
    leadingName? (o ++ (w ++ (k ++ s))) = some w := by
  have htake := (takeWhile_isWord_append hw (hk.head?_append hs)).1
  rw [leadingName?, dropOne_marked (fun _ => opensName_of_isWord) ho hne hw, htake]
  cases w with
  | nil => exact absurd rfl hne
  | cons c w => rfl

/-- The table is the name at the start, whatever marks it has. -/
theorem leadingTable?_marked (ho : MarkOf opensName o) (hne : w ≠ []) (hw : AllWord w)
    (hk : MarkOf closesName k) (hs : EndsName s) :
    leadingTable? (o ++ (w ++ (k ++ s))) = some w := by
  have hname := dropWord?_marked (fun _ => opensName_of_isWord) ho hne hw hk hs.word hs.mark
  have hnone : dropQualifier? (o ++ (w ++ (k ++ s))) = none := by
    rw [dropQualifier?, dropName?, hname, Option.bind_some]
    cases s with
    | nil => rfl
    | cons c s =>
      have hdot : '.' ≠ c := fun h => hs.dot (by rw [← h]; rfl)
      rw [dropLead?, if_neg hdot]
  rw [leadingTable?, hnone, Option.bind_none, leadingName?_marked ho hne hw hk hs.word]

/-- A bare table. -/
theorem leadingTable?_word (hne : w ≠ []) (hw : AllWord w) (hs : EndsName s) :
    leadingTable? (w ++ s) = some w :=
  leadingTable?_marked (o := []) (k := []) (.inl rfl) hne hw (.inl rfl) hs

/-- A table alone. -/
theorem leadingTable?_self (hne : w ≠ []) (hw : AllWord w) :
    w.head?.any isBlank = false ∧ leadingTable? w = some w := by
  constructor
  · cases w with
    | nil => exact absurd rfl hne
    | cons c w => exact isBlank_of_isWord (hw c List.mem_cons_self)
  · simpa using leadingTable?_word (s := []) hne hw ⟨rfl, rfl, by simp⟩

/-- One qualifier in front of the table is left out. -/
theorem leadingTable?_qualified (q p : Wrapped) (hs : s.head?.any isWord = false) :
    leadingTable? (q.render ++ '.' :: (p.render ++ s)) = some p.name.text := by
  have hname := leadingName?_marked p.marks.opening_markOf p.name.ne_nil p.name.allWord
    p.marks.closing_markOf hs
  rw [leadingTable?, dropQualifier?_render, Option.bind_some, Wrapped.render, List.append_assoc,
    List.append_assoc, hname]

end Statement

namespace Sanitizer

open Statement

/-- The items of a projection that read a column. -/
def requestedOf (p : Text) : List Requested :=
  (split p).filterMap fun item => (reference item).map fun column => ⟨column, item⟩

theorem map_column_requestedOf (p : Text) :
    (requestedOf p).map (·.column) = (split p).filterMap reference := by
  rw [requestedOf, List.map_filterMap]
  congr 1
  funext item
  cases reference item <;> rfl

theorem requested_of_span {s : Text} {span : Span} (h : span? s = some span) :
    requested s = requestedOf span.projection := by
  rw [requested, h, requestedOf]

/-- The items of a projection without a `FROM` behind a blank are all read. -/
theorem requested_of_projection {select gap p gap' close after : Text}
    (hselect : IsForm "SELECT".toList select) (hgap : IsBlanks gap) (hne : p ≠ [])
    (hp : Trimmed p) (hfrom : NoFromBehindBlank p) (hgap' : IsBlanks gap')
    (hclose : IsForm "FROM".toList close) (hafter : after.head?.any isWord = false) :
    requested (select ++ (gap ++ (p ++ (gap' ++ (close ++ after))))) = requestedOf p :=
  requested_of_span
    (span?_of_projection hselect hgap hne hp.first hp.last hfrom hgap' hclose hafter)

/-! ## Statements with all their spelling -/

/-- Items with commas between them, and blanks around the commas. -/
inductive ItemList where
  | one (item : Item)
  | more (item : Item) (before after : Blanks) (rest : ItemList)

/-- The items in order. -/
def ItemList.items : ItemList → List Item
  | one item => [item]
  | more item _ _ rest => item :: rest.items

/-- The items as they are written. -/
def ItemList.render : ItemList → Text
  | one item => item.render
  | more item before after rest => item.render ++ (before.1 ++ ',' :: (after.1 ++ rest.render))

/-- A statement of one projection and one table.  Anything may stand behind the table that does
not belong to its name. -/
structure Selection where
  select : {w : Text // IsForm "SELECT".toList w}
  behindSelect : Gap
  items : ItemList
  beforeFrom : Gap
  close : {w : Text // IsForm "FROM".toList w}
  behindFrom : Gap
  qualifier? : Option Wrapped
  table : Wrapped
  tail : {s : Text // EndsName s}

/-- The table as it is written, and what stands behind it. -/
def Selection.source (q : Selection) : Text :=
  match q.qualifier? with
  | none => q.table.render ++ q.tail.1
  | some qualifier => qualifier.render ++ '.' :: (q.table.render ++ q.tail.1)

/-- A statement as it is written. -/
def Selection.render (q : Selection) : Text :=
  q.select.1 ++ (q.behindSelect.1 ++ (q.items.render ++ (q.beforeFrom.1 ++
    (q.close.1 ++ (q.behindFrom.1 ++ q.source)))))

theorem ItemList.listed (l : ItemList) : Listed (l.items.map Item.render) l.render := by
  induction l with
  | one item => exact .one item.render
  | more item before after rest ih => exact .more before.2 after.2 ih

theorem ItemList.split_render (l : ItemList) : split l.render = l.items.map Item.render := by
  refine split_of_listed l.listed fun text htext => ?_
  obtain ⟨item, -, rfl⟩ := List.mem_map.mp htext
  exact ⟨item.trimmed.1, item.balanced, item.trimmed.2⟩

theorem ItemList.noFrom (l : ItemList) : NoFrom l.render := by
  induction l with
  | one item => exact item.noFrom
  | more item before after rest ih =>
    -- the comma and the blanks around it keep the items apart
    have hgap : NoWord (before.1 ++ ',' :: after.1) :=
      List.forall_mem_append.mpr ⟨noWord_of_blanks before.2,
        List.forall_mem_cons.mpr ⟨isWord_of_mark (by decide), noWord_of_blanks after.2⟩⟩
    simpa [ItemList.render] using item.noFrom.append_gap (by simp) hgap ih

theorem ItemList.trimmed (l : ItemList) : l.render ≠ [] ∧ Trimmed l.render := by
  induction l with
  | one item => exact item.trimmed
  | more item before after rest ih =>
    obtain ⟨hne, hfirst, -⟩ := item.trimmed
    obtain ⟨hne', -, hlast⟩ := ih
    refine ⟨by simp [ItemList.render, hne], ?_, ?_⟩
    · rwa [ItemList.render, List.head?_append_of_ne_nil _ hne]
    · obtain ⟨c, hc⟩ := Option.isSome_iff_exists.mp (List.getLast?_isSome.mpr hne')
      have hwhole : (ItemList.more item before after rest).render.getLast? = some c := by
        rw [ItemList.render, ← List.cons_append, ← List.append_assoc, ← List.append_assoc,
          List.getLast?_append, hc, Option.some_or]
      rw [hwhole]
      rwa [hc] at hlast

theorem Selection.leadingTable?_source (q : Selection) :
    leadingTable? q.source = some q.table.name.text := by
  obtain ⟨tail, htail⟩ := q.tail
  rw [Selection.source]
  split
  · rw [Wrapped.render, List.append_assoc, List.append_assoc]
    exact leadingTable?_marked q.table.marks.opening_markOf q.table.name.ne_nil
      q.table.name.allWord q.table.marks.closing_markOf q.tail.2
  · exact leadingTable?_qualified _ _ q.tail.2.word

namespace Sample

/-- Blanks in the sample: a space that must be there, one that may, or nothing. -/
def space : Gap := ⟨[' '], by decide +kernel⟩

def blank : Blanks := ⟨[' '], space.2.2⟩

def nothing : Blanks := ⟨[], by decide⟩

/-- The keyword in front of the table. -/
def closing : {w : Text // IsForm "FROM".toList w} := ⟨"FROM".toList, by decide⟩

def unled : Lead := ⟨[], .nil⟩

def topFive : Lead :=
  ⟨"TOP 5 ".toList, .cons (.top (w := "TOP".toList) (g := [' ']) (by decide) space.2.2
    (.bare (by decide +kernel : IsDigits ['5'])) .absent .absent) space.2 .nil⟩

def users : Name := ⟨"users".toList, by decide, by decide +kernel, by decide +kernel⟩

def email : Name := ⟨"email".toList, by decide, by decide +kernel, by decide +kernel⟩

def left : Name := ⟨"left".toList, by decide, by decide +kernel, by decide +kernel⟩

/-- A statement with a quantifier, marks, a qualifier, a call, an alias and a clause behind. -/
def spelled : Selection where
  select := ⟨"Select".toList, by decide⟩
  behindSelect := space
  items := .more (.wholeRow topFive [⟨.backQuotes, users⟩]) nothing blank <|
    .one (.value unled (.call left blank unled (.column [] ⟨.brackets, email⟩) nothing)
      (some ⟨some (space, ⟨"as".toList, by decide⟩), space, ⟨.doubleQuotes, email⟩⟩))
  beforeFrom := space
  close := closing
  behindFrom := space
  qualifier? := none
  table := ⟨.bare, users⟩
  tail := ⟨" LIMIT 1".toList, .of_blank (by decide +kernel) _⟩

end Sample

/-- **Extraction inverts writing.**  From a statement of the grammar, however it is spelled, the
columns of its items are extracted in order, and its table. -/
theorem columns_render (q : Selection) :
    columns q.render = q.items.items.filterMap Item.column? ∧
      table? q.render = some q.table.name.text := by
  obtain ⟨hne, htrimmed⟩ := q.items.trimmed
  constructor
  · have hafter := q.behindFrom.2.head?_isWord q.source
    rw [columns, Selection.render, requested_of_projection q.select.2 q.behindSelect.2 hne htrimmed
      (fun a w b h hword => absurd hword (q.items.noFrom a w b h)) q.beforeFrom.2 q.close.2 hafter,
      map_column_requestedOf, q.items.split_render, List.filterMap_map]
    congr 1
    funext item
    exact reference_render item
  · have hsource : q.source.head?.any isBlank = false := by
      have hstart : ∀ (p : Wrapped) (s : Text), (p.render ++ s).head?.any isBlank = false := by
        intro p s
        cases hhead : p.render with
        | nil => exact absurd hhead (by simp [Wrapped.render, p.name.ne_nil])
        | cons c t => exact p.noBlank c (by rw [hhead]; exact List.mem_cons_self)
      rw [Selection.source]
      split
      · exact hstart _ _
      · exact hstart _ _
    exact table?_of_projection q.close.2 q.behindFrom.2 hsource q.leadingTable?_source q.select.2
      q.behindSelect.2 (fun a w b h hword => absurd hword (q.items.noFrom a w b h)) q.beforeFrom.2

theorem columns_render_spelled :
    Sample.spelled.render =
        "Select TOP 5 `users`.*, left( [email]) as \"email\" FROM users LIMIT 1".toList ∧
      columns Sample.spelled.render = ["*".toList, "email".toList] ∧
      table? Sample.spelled.render = some "users".toList :=
  ⟨by decide, columns_render Sample.spelled⟩

end Sanitizer

end QueryGate
