import QueryGate.Proofs.Sanitizer.Columns
import QueryGate.Proofs.Sanitizer.Rewrite

/-! # Which part of a projection is examined

A projection ends for the search at the first `FROM` behind a blank, whatever surrounds it, while
the splitter of items knows parentheses and quotes.  So the items of a projection are all examined
if no `FROM` in it stands behind a blank, and otherwise only those in front of the first one that
does (`examined_projection`). -/

namespace QueryGate.Sanitizer

open Text Projection Statement

/-- The statement that selects a projection from a table. -/
def selecting (projection table : Text) : Text :=
  "SELECT".toList ++ ([' '] ++ (projection ++ ([' '] ++ ("FROM".toList ++ ([' '] ++ table)))))

/-- Every `FROM` of the text is inside quotes or parentheses, and the text closes them all. -/
structure FromEnclosed (p : Text) : Prop where
  closed : Nesting.outside.along p = .outside
  enclosed : ∀ a w b, p = a ++ (w ++ b) → WordBetween "FROM".toList a w b →
    Nesting.outside.along a ≠ .outside

instance (p : Text) : Decidable (FromEnclosed p) :=
  decidable_of_iff (Nesting.outside.along p = .outside ∧ ∀ i ∈ List.range (p.length + 1),
      ∀ j ∈ List.range (p.length + 1), WordBetween "FROM".toList (p.take i) ((p.drop i).take j)
        ((p.drop i).drop j) → Nesting.outside.along (p.take i) ≠ .outside)
    ⟨fun h => ⟨h.1, forall_parts_iff.mpr h.2⟩, fun h => ⟨h.closed, forall_parts_iff.mp h.enclosed⟩⟩

/-- Blanks around a text do not bring a blank in front of a `FROM` in it that has none. -/
theorem noFromBehindBlank_of_padded {g s g' : Text} (hg' : AllBlank g')
    (h : NoFromBehindBlank (g ++ (s ++ g'))) : NoFromBehindBlank s := by
  rintro a w b rfl ⟨hw, hbefore, hafter⟩
  cases hlast : a.getLast? with
  | none => rfl
  | some c =>
    have hpadded : (g ++ a).getLast? = some c := by rw [List.getLast?_append, hlast, Option.some_or]
    have hword : WordBetween "FROM".toList (g ++ a) w (b ++ g') := by
      refine ⟨hw, by rw [hpadded, ← hlast]; exact hbefore, ?_⟩
      cases b with
      | nil =>
        cases g' with
        | nil => rfl
        | cons d g' => exact isWord_of_isBlank (hg' d List.mem_cons_self)
      | cons d b => exact hafter
    have hno := h (g ++ a) w (b ++ g') (by simp) hword
    rwa [hpadded] at hno

/-- Only what stands in front of a `FROM` behind a blank is read. -/
theorem requested_of_from {a g w after : Text} (ha : trim a ≠ []) (hfrom : NoFromBehindBlank a)
    (hg : IsBlanks g) (hw : IsForm "FROM".toList w) (hafter : after.head?.any isWord = false) :
    requested ("SELECT".toList ++ ([' '] ++ (a ++ (g ++ (w ++ after))))) = requestedOf a := by
  obtain ⟨lead, tail, hlead, htail, heq⟩ := exists_trim a
  have hgap : IsBlanks ([' '] ++ lead) :=
    ⟨by simp, List.forall_mem_cons.mpr ⟨by decide, hlead⟩⟩
  have hgap' : IsBlanks (tail ++ g) :=
    ⟨by simp [hg.1], List.forall_mem_append.mpr ⟨htail, hg.2⟩⟩
  have hinner : NoFromBehindBlank (trim a) := by
    rw [heq] at hfrom
    exact noFromBehindBlank_of_padded htail hfrom
  have htext : [' '] ++ (a ++ (g ++ (w ++ after))) =
      ([' '] ++ lead) ++ (trim a ++ ((tail ++ g) ++ (w ++ after))) := by
    conv_lhs => rw [heq]
    simp only [List.append_assoc]
  rw [htext, requested_of_projection (by decide) hgap ha (trimmed_trim a) hinner hgap' hw hafter,
    requestedOf, split_trim, requestedOf]

/-- Whatever is selected, there is a table. -/
theorem table?_selecting_isSome {p t : Text} (hne : t ≠ []) (ht : AllWord t) :
    (table? (selecting p t)).isSome = true := by
  have hspace := isBlanks_space
  obtain ⟨hfirst, hname⟩ := leadingTable?_self hne ht
  have hlast : ("SELECT".toList ++ ([' '] ++ (p ++ [' ']))).getLast?.any isWord = false := by
    rw [← List.append_assoc, ← List.append_assoc]
    exact hspace.getLast?_isWord _
  have hassoc : ∀ s g p g' x : Text, s ++ (g ++ (p ++ (g' ++ x))) = s ++ (g ++ (p ++ g')) ++ x := by
    simp only [List.append_assoc, implies_true]
  have hclose : IsForm "FROM".toList "FROM".toList := by decide
  have htable := table?_isSome hclose hspace hfirst hname hlast
  rwa [← hassoc] at htable

/-- A sensitive item of the projection that is read is removed. -/
theorem mem_blocked {c : Catalog} {s schema table column item : Text} (h : table? s = some table)
    (hr : ⟨column, item⟩ ∈ requested s) (hcolumn : column ≠ wildcard)
    (hblocked : isBlocked c ⟨column, item⟩ = true) :
    ⟨column⟩ ∈ (sanitize c s schema).blocked := by
  have hconsidered : ⟨column, item⟩ ∈ considered s schema := by
    rw [considered, h]
    exact mem_expand hr hcolumn
  rw [blocked_of_table h]
  exact List.mem_map_of_mem (List.mem_map_of_mem (List.mem_filter.mpr ⟨hconsidered, hblocked⟩))

namespace Sample

/-- A `FROM` in quotes, in front of a sensitive column. -/
def quotedFrom : Text := "LEFT(\"FROM\", 2), password".toList

/-- A `FROM` in parentheses, in front of a sensitive column. -/
def calledFrom : Text := "EXTRACT(YEAR FROM d), password".toList

end Sample

/-- **What is examined of a projection.**  Let a projection that is not blank be selected from a
table.  If no `FROM` in it stands behind a blank, then the columns are those of all its items, and
every sensitive one is removed, wherever it stands.  If each `FROM` in it goes on with something
else than a blank, the table is found.  At the first `FROM` behind a blank the projection ends for
the search, even within quotes or parentheses, and nothing behind it is examined. -/
theorem examined_projection (c : Catalog) (schema : Text) {p t : Text} (hp : trim p ≠ [])
    (hne : t ≠ []) (ht : AllWord t) :
    (NoFromBehindBlank p →
      columns (selecting p t) = (split p).filterMap reference ∧
      ∀ item ∈ split p, ∀ column, reference item = some column → column ≠ wildcard →
        isBlocked c ⟨column, item⟩ = true →
        ⟨column⟩ ∈ (sanitize c (selecting p t) schema).blocked) ∧
    (FromContinued p → table? (selecting p t) = some t) ∧
    ∀ a g w b, p = a ++ (g ++ (w ++ b)) → trim a ≠ [] → NoFromBehindBlank a → IsBlanks g →
      WordBetween "FROM".toList (a ++ g) w b →
      columns (selecting p t) = (split a).filterMap reference := by
  have hspace := isBlanks_space
  refine ⟨?_, ?_, ?_⟩
  · intro hfrom
    have hrequested : requested (selecting p t) = requestedOf p :=
      requested_of_from hp hfrom hspace (by decide) (by decide : isWord ' ' = false)
    refine ⟨by rw [columns, hrequested, map_column_requestedOf], ?_⟩
    intro item hitem column hcolumn hwild hblocked
    obtain ⟨table, htable⟩ := Option.isSome_iff_exists.mp (table?_selecting_isSome (p := p) hne ht)
    have hmem : ⟨column, item⟩ ∈ requested (selecting p t) := by
      rw [hrequested]
      exact List.mem_filterMap.mpr ⟨item, hitem, by rw [hcolumn]; rfl⟩
    exact mem_blocked htable hmem hwild hblocked
  · intro hfrom
    obtain ⟨hfirst, hname⟩ := leadingTable?_self hne ht
    have hclose : IsForm "FROM".toList "FROM".toList := by decide
    exact table?_of_projection hclose hspace hfirst hname (by decide) hspace hfrom hspace
  · rintro a g w b rfl ha hfrom hg hword
    have hafter : (b ++ ([' '] ++ ("FROM".toList ++ ([' '] ++ t)))).head?.any isWord = false := by
      cases b with
      | nil => exact (by decide : isWord ' ' = false)
      | cons d b => exact hword.after
    have hassoc : ∀ s : Text, a ++ (g ++ (w ++ b)) ++ s = a ++ (g ++ (w ++ (b ++ s))) := by
      simp only [List.append_assoc, implies_true]
    have htext := congrArg (fun s => "SELECT".toList ++ ([' '] ++ s))
      (hassoc ([' '] ++ ("FROM".toList ++ ([' '] ++ t))))
    have hrequested : requested (selecting (a ++ (g ++ (w ++ b))) t) = requestedOf a :=
      (congrArg requested htext).trans (requested_of_from ha hfrom hg hword.form hafter)
    rw [columns, hrequested, map_column_requestedOf]

theorem examined_projection_quotedFrom :
    FromEnclosed Sample.quotedFrom ∧ NoFromBehindBlank Sample.quotedFrom ∧
      FromContinued Sample.quotedFrom ∧
      columns (selecting Sample.quotedFrom "users".toList) =
        ["FROM, 2".toList, "password".toList] ∧
      table? (selecting Sample.quotedFrom "users".toList) = some "users".toList ∧
      ⟨"password".toList⟩ ∈
        (sanitize Catalog.standard (selecting Sample.quotedFrom "users".toList) []).blocked := by
  have hbehind : NoFromBehindBlank Sample.quotedFrom := by decide
  have hcontinued : FromContinued Sample.quotedFrom := by decide
  obtain ⟨hread, htable, -⟩ := examined_projection Catalog.standard []
    (p := Sample.quotedFrom) (t := "users".toList) (by decide) (by decide)
    (by decide)
  obtain ⟨hcolumns, hblocked⟩ := hread hbehind
  refine ⟨by decide, hbehind, hcontinued, ?_, htable hcontinued, ?_⟩
  · rw [hcolumns]
    decide
  · exact hblocked "password".toList (by decide) "password".toList (by decide)
      (by decide) (by decide)

/-- A `FROM` in parentheses keeps a sensitive column behind it from being examined, though the items
of the projection name it: the table is taken from the parentheses, and nothing is removed. -/
theorem calledFrom_not_examined :
    FromEnclosed Sample.calledFrom ∧
      (split Sample.calledFrom).filterMap reference = ["YEAR FROM d".toList, "password".toList] ∧
      columns (selecting Sample.calledFrom "users".toList) = ["EXTRACT(YEAR".toList] ∧
      table? (selecting Sample.calledFrom "users".toList) = some "d".toList ∧
      Catalog.standard.isSensitive "password".toList = true ∧
      (sanitize Catalog.standard (selecting Sample.calledFrom "users".toList) []).blocked = [] := by
  decide

end QueryGate.Sanitizer
