import QueryGate.Proofs.Projection.Grammar
import QueryGate.Proofs.Projection.Reduction

/-! # The column of a written item

The steps of `reference` undone one by one: the quantifiers are dropped, then the alias, the calls
are opened, the qualifiers are dropped and the marks removed.  Each step finds the text that the
grammar puts around what is left, and takes no more (`reference_render`). -/

namespace QueryGate.Projection

open Text

/-! ## Names with marks -/

theorem dropWord?_append {w s : Text} (hne : w ≠ []) (hw : AllWord w)
    (hs : s.head?.any isWord = false) : dropWord? (w ++ s) = some s := by
  cases w with
  | nil => exact absurd rfl hne
  | cons c w =>
    obtain ⟨hc, hw⟩ := List.forall_mem_cons.mp hw
    rw [List.cons_append, dropWord?, if_pos hc, (takeWhile_isWord_append hw hs).2]

theorem dropWord?_of_head {s : Text} (hs : s.head?.any isWord = false) : dropWord? s = none := by
  cases s with
  | nil => rfl
  | cons c s => rw [dropWord?, if_neg (by simpa using hs)]

theorem dropOne_of_head {p : Char → Bool} {s : Text} (hs : s.head?.any p = false) :
    dropOne p s = s := by
  cases s with
  | nil => rfl
  | cons c s => rw [dropOne, if_neg (by simpa using hs)]

/-- A mark that `p` accepts, or none. -/
def MarkOf (p : Char → Bool) (t : Text) : Prop :=
  t = [] ∨ ∃ c ∈ punctuation, t = [c] ∧ p c = true

theorem dropOne_marked {p : Char → Bool} {o w s : Text} (hp : ∀ c, isWord c = true → p c = false)
    (ho : MarkOf p o) (hne : w ≠ []) (hw : AllWord w) : dropOne p (o ++ (w ++ s)) = w ++ s := by
  rcases ho with rfl | ⟨c, -, rfl, hc⟩
  · refine dropOne_of_head ?_
    cases w with
    | nil => exact absurd rfl hne
    | cons c w => exact hp c (hw c List.mem_cons_self)
  · rw [List.singleton_append, dropOne, if_pos hc]

theorem MarkOf.head?_append {q : Char → Bool} {k s : Text} (hk : MarkOf q k)
    (hs : s.head?.any isWord = false) : (k ++ s).head?.any isWord = false := by
  rcases hk with rfl | ⟨c, hc, rfl, -⟩
  · exact hs
  · exact isWord_of_mark hc

/-- A word between two marks is dropped with its marks, read in either direction. -/
theorem dropWord?_marked {p q : Char → Bool} {o w k s : Text}
    (hp : ∀ c, isWord c = true → p c = false) (ho : MarkOf p o) (hne : w ≠ []) (hw : AllWord w)
    (hk : MarkOf q k) (hs : s.head?.any isWord = false) (hq : s.head?.any q = false) :
    (dropWord? (dropOne p (o ++ (w ++ (k ++ s))))).map (dropOne q) = some s := by
  have hclose : dropOne q (k ++ s) = s := by
    rcases hk with rfl | ⟨c, -, rfl, hc⟩
    · exact dropOne_of_head hq
    · rw [List.singleton_append, dropOne, if_pos hc]
  rw [dropOne_marked hp ho hne hw, dropWord?_append hne hw (hk.head?_append hs), Option.map_some,
    hclose]

theorem Marks.opening_markOf (m : Marks) : MarkOf opensName m.opening := by
  cases m with
  | bare => exact .inl rfl
  | backQuotes | doubleQuotes | brackets => exact .inr ⟨_, by decide, rfl, by decide⟩

theorem Marks.closing_markOf (m : Marks) : MarkOf closesName m.closing := by
  cases m with
  | bare => exact .inl rfl
  | backQuotes | doubleQuotes | brackets => exact .inr ⟨_, by decide, rfl, by decide⟩

theorem MarkOf.reverse {p : Char → Bool} {t : Text} (h : MarkOf p t) : MarkOf p t.reverse := by
  rcases h with rfl | ⟨c, hc, rfl, hp⟩
  · exact .inl rfl
  · exact .inr ⟨c, hc, rfl, hp⟩

theorem opensName_of_not_mark {c : Char} (h : c ∉ punctuation) : opensName c = false := by
  have hne : ∀ d ∈ punctuation, c ≠ d := fun d hd heq => h (heq ▸ hd)
  simp [opensName, hne '`' (by decide), hne '"' (by decide), hne '[' (by decide)]

theorem closesName_of_not_mark {c : Char} (h : c ∉ punctuation) : closesName c = false := by
  have hne : ∀ d ∈ punctuation, c ≠ d := fun d hd heq => h (heq ▸ hd)
  simp [closesName, hne '`' (by decide), hne '"' (by decide), hne ']' (by decide)]

theorem opensName_of_isWord {c : Char} (h : isWord c = true) : opensName c = false :=
  opensName_of_not_mark (not_mark_of_isWord h)

theorem closesName_of_isWord {c : Char} (h : isWord c = true) : closesName c = false :=
  closesName_of_not_mark (not_mark_of_isWord h)

/-- A word is dropped with the marks around it. -/
theorem dropName?_marked (m : Marks) {w s : Text} (hne : w ≠ []) (hw : AllWord w)
    (hs : s.head?.any isWord = false) (hclose : s.head?.any closesName = false) :
    dropName? (m.opening ++ (w ++ m.closing) ++ s) = some s := by
  rw [dropName?, List.append_assoc, List.append_assoc]
  exact dropWord?_marked (fun _ => opensName_of_isWord) m.opening_markOf hne hw m.closing_markOf hs
    hclose

/-! ## Aliases -/

/-- Read from its end, a text gives up its last name and the blanks in front of it. -/
theorem beforeLastName?_render (p : Wrapped) {g s : Text} (hg : IsBlanks g)
    (hs : s.getLast?.any isBlank = false) :
    beforeLastName? (s ++ (g ++ p.render)).reverse = some s.reverse := by
  have hback : (s ++ (g ++ p.render)).reverse = p.marks.closing.reverse ++
      (p.name.text.reverse ++ (p.marks.opening.reverse ++ (g.reverse ++ s.reverse))) := by
    simp [Wrapped.render]
  have hblanks : IsBlanks g.reverse :=
    ⟨by simpa using hg.1, fun c hc => hg.2 c (List.mem_reverse.mp hc)⟩
  obtain ⟨c, hc, hblank⟩ := hblanks.head? (s := s.reverse)
  have hword : AllWord p.name.text.reverse :=
    fun c hc => p.name.allWord c (List.mem_reverse.mp hc)
  rw [hback, beforeLastName?, dropWord?_marked (fun _ => closesName_of_isWord)
    p.marks.closing_markOf.reverse (by simpa using p.name.ne_nil) hword
    p.marks.opening_markOf.reverse (by rw [hc]; exact isWord_of_isBlank hblank)
    (by rw [hc]; exact opensName_of_not_mark (not_mark_of_isBlank hblank)), Option.bind_some]
  exact dropBlanks?_eq_some_iff.mpr ⟨_, hblanks, rfl, by rwa [List.head?_reverse]⟩

/-- Without a blank there is nothing in front of a last name. -/
theorem beforeLastName?_of_noBlank {s : Text} (hs : ∀ c ∈ s, isBlank c = false) :
    beforeLastName? s.reverse = none := by
  rw [Option.eq_none_iff_forall_ne_some]
  intro back hback
  obtain ⟨t, ht, hblanks⟩ := Option.bind_eq_some_iff.mp hback
  obtain ⟨u, hu, rfl⟩ := Option.map_eq_some_iff.mp ht
  obtain ⟨g, hg, heq, -⟩ := dropBlanks?_eq_some_iff.mp hblanks
  obtain ⟨c, hc⟩ := List.exists_mem_of_ne_nil g hg.1
  have hmem : c ∈ s := by
    have hcu : c ∈ u := (isSuffix_dropOne _ u).subset (heq ▸ List.mem_append_left back hc)
    have hback : u <:+ s.reverse := (isSuffix_of_dropWord? hu).trans (isSuffix_dropOne _ _)
    exact List.mem_reverse.mp (hback.subset hcu)
  have hblank := hg.2 c hc
  rw [hs c hmem] at hblank
  cases hblank

/-- A text that ends with a parenthesis or an asterisk ends with no name. -/
theorem beforeLastName?_of_last {s : Text} {c : Char} (hs : s.getLast? = some c)
    (hc : c ∈ punctuation) (hclose : closesName c = false) : beforeLastName? s.reverse = none := by
  have hhead : s.reverse.head? = some c := by rw [List.head?_reverse, hs]
  have hsame : dropOne closesName s.reverse = s.reverse := dropOne_of_head (by simp [hhead, hclose])
  have hword : dropWord? s.reverse = none := dropWord?_of_head (by simp [hhead, isWord_of_mark hc])
  rw [beforeLastName?, hsame, hword]
  rfl

/-- The marks of qualified names. -/
def nameMarks : Text := ['`', '"', '[', ']', '.']

theorem Marks.mem_nameMarks {marks : Marks} {c : Char} (h : c ∈ marks.opening ++ marks.closing) :
    c ∈ nameMarks := by
  have hmarks : ∀ c ∈ marks.opening ++ marks.closing, c ∈ nameMarks :=
    forall_mem_of_all (by cases marks <;> decide)
  exact hmarks c h

theorem Wrapped.mem_render {p : Wrapped} {c : Char} (h : c ∈ p.render) :
    isWord c = true ∨ c ∈ nameMarks := by
  rcases List.mem_append.mp h with h | h
  · exact .inr (Marks.mem_nameMarks (List.mem_append_left _ h))
  · rcases List.mem_append.mp h with h | h
    · exact .inl (p.name.allWord c h)
    · exact .inr (Marks.mem_nameMarks (List.mem_append_right _ h))

theorem mem_qualifiersText {qs : List Wrapped} {c : Char} (h : c ∈ qualifiersText qs) :
    isWord c = true ∨ c ∈ nameMarks := by
  induction qs with
  | nil => cases h
  | cons q qs ih =>
    rcases List.mem_append.mp h with h | h
    · exact q.mem_render h
    · rcases List.mem_cons.mp h with rfl | h
      · exact .inr (by decide)
      · exact ih h

theorem mem_column {qs : List Wrapped} {name : Wrapped} {c : Char}
    (h : c ∈ (Core.column qs name).render) : isWord c = true ∨ c ∈ nameMarks := by
  rcases List.mem_append.mp h with h | h
  · exact mem_qualifiersText h
  · exact name.mem_render h

theorem isBlank_of_nameMark {c : Char} (h : isWord c = true ∨ c ∈ nameMarks) :
    isBlank c = false := by
  have hmarks : ∀ c ∈ nameMarks, c ∈ punctuation := forall_mem_of_all (by decide)
  rcases h with h | h
  · exact isBlank_of_isWord h
  · exact isBlank_of_mark (hmarks c h)

theorem Wrapped.noBlank (p : Wrapped) : ∀ c ∈ p.render, isBlank c = false :=
  fun _ hc => isBlank_of_nameMark (p.mem_render hc)

theorem noBlank_column (qs : List Wrapped) (name : Wrapped) :
    ∀ c ∈ (Core.column qs name).render, isBlank c = false :=
  fun _ hc => isBlank_of_nameMark (mem_column hc)

/-- A core alone ends with no alias. -/
theorem Core.beforeLastName? (core : Core) :
    Projection.beforeLastName? core.render.reverse = none := by
  cases core with
  | column qs name =>
    exact beforeLastName?_of_noBlank (noBlank_column qs name)
  | call | overRows | overNothing =>
    exact beforeLastName?_of_last (getLast?_callText _ _) (by decide) (by decide)

/-- Nor does it end with `AS` behind a blank. -/
theorem Core.dropAs? (core : Core) :
    (dropKeyword? "SA".toList core.render.reverse).bind dropBlanks? = none := by
  rw [Option.eq_none_iff_forall_ne_some]
  intro back hback
  obtain ⟨t, ht, hblanks⟩ := Option.bind_eq_some_iff.mp hback
  obtain ⟨w, heq, hw⟩ := dropKeyword?_eq_some_iff.mp ht
  cases core with
  | column qs name =>
    -- a column has no blanks at all
    obtain ⟨g, hg, rfl, -⟩ := dropBlanks?_eq_some_iff.mp hblanks
    obtain ⟨c, hc⟩ := List.exists_mem_of_ne_nil g hg.1
    have hmem : c ∈ (Core.column qs name).render := by
      rw [← List.mem_reverse, heq]
      simp [hc]
    have hno := noBlank_column qs name c hmem
    rw [hg.2 c hc] at hno
    cases hno
  | call | overRows | overNothing =>
    have hhead := congrArg List.head? heq
    rw [List.head?_reverse, Core.render, getLast?_callText] at hhead
    cases hw with
    | cons hc _ =>
      obtain rfl := Option.some.inj hhead
      exact absurd hc (by decide)

theorem Core.notBlank (core : Core) : core.render.getLast?.any isBlank = false :=
  notBlank_of_endsAliased core.endsAliased

theorem dropAsAlias_core (core : Core) : dropAsAlias core.render = core.render := by
  rw [dropAsAlias, core.beforeLastName?]
  rfl

theorem dropBareAlias_core (core : Core) : dropBareAlias core.render = core.render := by
  rw [dropBareAlias, core.beforeLastName?]

theorem Core.trimmed (core : Core) : Trimmed core.render := by
  have hfirst := (core.unled (s := []) rfl).clear.notBlank
  rw [List.append_nil] at hfirst
  exact ⟨hfirst, core.notBlank⟩

/-- A bare alias is none with `AS`. -/
theorem dropAsAlias_bare (core : Core) (gap : Gap) (name : Wrapped) :
    dropAsAlias (core.render ++ (gap.1 ++ name.render)) =
      core.render ++ (gap.1 ++ name.render) := by
  rw [dropAsAlias, beforeLastName?_render name gap.2 core.notBlank, Option.bind_some, core.dropAs?]

theorem dropBareAlias_bare (core : Core) (gap : Gap) (name : Wrapped) :
    dropBareAlias (core.render ++ (gap.1 ++ name.render)) = core.render := by
  have hlast := core.endsAliased
  rw [← List.head?_reverse] at hlast
  rw [dropBareAlias, beforeLastName?_render name gap.2 core.notBlank]
  cases hcore : core.render.reverse with
  | nil =>
    rw [hcore] at hlast
    cases hlast
  | cons c back =>
    rw [hcore] at hlast
    have hends : endsAliased c = true := hlast
    have hrender : (c :: back).reverse = core.render := by rw [← hcore, List.reverse_reverse]
    simp only [hends, if_true, hrender]
    exact core.trimmed.trim_eq

theorem dropAsAlias_introduced (core : Core) (g gap : Gap) (name : Wrapped) {w : Text}
    (hw : IsForm "AS".toList w) :
    dropAsAlias (core.render ++ (g.1 ++ (w ++ (gap.1 ++ name.render)))) = core.render := by
  have hlast : (core.render ++ (g.1 ++ w)).getLast?.any isBlank = false := by
    obtain ⟨c, hc⟩ := Option.isSome_iff_exists.mp
      (List.getLast?_isSome.mpr (hw.ne_nil_of_keyword (by decide)))
    rw [← List.append_assoc, List.getLast?_append, hc]
    exact isBlank_of_isWord (hw.allWord_of_keyword (by decide) c (List.mem_of_getLast? hc))
  have hback := beforeLastName?_render name gap.2 hlast
  -- read backwards, the keyword comes first and the blanks in front of it next
  have hkeyword : IsForm "SA".toList w.reverse := List.rel_reverse hw
  have hblanks : IsBlanks g.1.reverse :=
    ⟨by simpa using g.2.1, fun c hc => g.2.2 c (List.mem_reverse.mp hc)⟩
  have hcore : core.render.reverse.head?.any isBlank = false := by
    rw [List.head?_reverse]
    exact core.notBlank
  have htext : core.render ++ (g.1 ++ (w ++ (gap.1 ++ name.render))) =
      core.render ++ (g.1 ++ w) ++ (gap.1 ++ name.render) := by simp
  rw [htext, dropAsAlias, hback, Option.bind_some, List.reverse_append, List.reverse_append,
    List.append_assoc, dropKeyword?_eq_some_iff.mpr ⟨_, rfl, hkeyword⟩, Option.bind_some,
    dropBlanks?_eq_some_iff.mpr ⟨_, hblanks, rfl, hcore⟩]
  exact List.reverse_reverse _

/-- The alias of a core is dropped, and nothing of the core. -/
theorem dropAliases_core (core : Core) (a : Alias) :
    dropBareAlias (dropAsAlias (core.render ++ a.render)) = core.render := by
  obtain ⟨introduced, gap, name⟩ := a
  cases introduced with
  | none => rw [Alias.render, dropAsAlias_bare, dropBareAlias_bare]
  | some pair =>
    obtain ⟨g, w, hw⟩ := pair
    rw [Alias.render, dropAsAlias_introduced core g gap name hw, dropBareAlias_core]

/-- An item over whole rows has no alias. -/
theorem dropAliases_wholeRow (s : Text) :
    dropBareAlias (dropAsAlias (s ++ wildcard)) = s ++ wildcard := by
  have hlast : (s ++ wildcard).getLast? = some '*' := by rw [wildcard, List.getLast?_concat]
  have hnone := beforeLastName?_of_last hlast (by decide) (by decide)
  have hsame : dropAsAlias (s ++ wildcard) = s ++ wildcard := by
    rw [dropAsAlias, hnone]
    rfl
  rw [hsame, dropBareAlias, hnone]

/-! ## Calls -/

theorem callArgument?_callText (f : Name) (inner : Text) :
    callArgument? (callText f inner) = some inner := by
  have hhead : ('(' :: (inner ++ [')'])).head?.any isWord = false :=
    isWord_of_mark (c := '(') (by decide)
  have hblank : ('(' :: (inner ++ [')'])).head?.any isBlank = false :=
    isBlank_of_mark (c := '(') (by decide)
  rw [callArgument?, callText, dropWord?_append f.ne_nil f.allWord hhead, Option.map_some,
    trimLeft_eq_self hblank]
  simp

/-- Without a parenthesis there is no call. -/
theorem callArgument?_of_noParen {s : Text} (hs : '(' ∉ s) : callArgument? s = none := by
  rw [callArgument?]
  split
  · rename_i inner hinner
    obtain ⟨t, ht, htrim⟩ := Option.map_eq_some_iff.mp hinner
    have hmem : '(' ∈ t := by
      have hleft : '(' ∈ trimLeft t := by simp [htrim]
      exact (List.dropWhile_sublist isBlank).subset hleft
    exact absurd ((isSuffix_of_dropWord? ht).subset hmem) hs
  · rfl

theorem openCalls_of_noParen {s : Text} (hs : '(' ∉ s) : openCalls s = some s := by
  rw [openCalls]
  generalize s.length = fuel
  cases fuel with
  | zero => rfl
  | succ fuel => rw [openCallsUpTo, callArgument?_of_noParen hs]

theorem not_paren_of_mem {c : Char} (h : isWord c = true ∨ c ∈ nameMarks) : c ≠ '(' := by
  rintro rfl
  rcases h with h | h
  · rw [isWord_of_mark (by decide)] at h
    cases h
  · exact absurd h (by decide)

/-- What the parentheses of a call leave of its argument. -/
theorem dropQuantifiers_inner (before after : Blanks) (lead : Lead) {s : Text} (hs : Unled s)
    (hlast : s.getLast?.any isBlank = false) (hne : s ≠ []) :
    dropQuantifiers (trim (before.1 ++ (lead.1 ++ s ++ after.1))) = s := by
  have htrimmed : Trimmed (lead.1 ++ s) := by
    refine ⟨(Clear.append lead.2 hs.clear).notBlank, ?_⟩
    obtain ⟨c, hc⟩ := Option.isSome_iff_exists.mp (List.getLast?_isSome.mpr hne)
    rw [List.getLast?_append, hc]
    rwa [hc] at hlast
  rw [trim_append_left before.2, trim_append_right after.2, htrimmed.trim_eq]
  exact dropQuantifiers_append lead.2 hs.clear hs.none

/-- The qualified name that stands innermost, if there is one. -/
def Core.innermost? : Core → Option (List Wrapped × Wrapped)
  | column qs name => some (qs, name)
  | call _ _ _ argument _ => argument.innermost?
  | overRows _ _ _ _ | overNothing _ _ => none

theorem Core.column?_eq (core : Core) :
    core.column? = core.innermost?.map fun p => p.2.name.text := by
  induction core with
  | column => rfl
  | call _ _ _ _ _ ih => exact ih
  | overRows | overNothing => rfl

theorem Core.render_ne (core : Core) : core.render ≠ wildcard ∧ core.render ≠ [] := by
  have hlast := core.endsAliased
  constructor
  · intro h
    rw [h] at hlast
    exact absurd hlast (by simp [wildcard, Projection.endsAliased, closesName,
      isWord_of_mark (c := '*') (by decide)])
  · intro h
    rw [h] at hlast
    cases hlast

/-- Calls are opened one after another. -/
theorem openCallsUpTo_render (core : Core) {fuel : Nat} (h : core.render.length ≤ fuel) :
    openCallsUpTo fuel core.render =
      core.innermost?.map fun p => qualifiersText p.1 ++ p.2.render := by
  induction core generalizing fuel with
  | column qs name =>
    cases fuel with
    | zero => rfl
    | succ fuel =>
      have hparen : '(' ∉ (Core.column qs name).render :=
        fun h => not_paren_of_mem (mem_column h) rfl
      rw [openCallsUpTo, callArgument?_of_noParen hparen]
      rfl
  | call f before lead argument after ih =>
    have hlength : argument.render.length + 2 ≤ fuel := by
      simp only [Core.render, callText, List.length_append, List.length_cons,
        List.length_nil] at h
      omega
    obtain ⟨fuel, rfl⟩ : ∃ n, fuel = n + 1 := ⟨fuel - 1, by omega⟩
    have hunled := argument.unled (s := []) rfl
    rw [List.append_nil] at hunled
    rw [openCallsUpTo, Core.render, callArgument?_callText]
    simp only [dropQuantifiers_inner before after lead hunled argument.notBlank
      argument.render_ne.2, argument.render_ne, or_self, if_false]
    exact ih (by omega)
  | overRows f before lead after =>
    cases fuel with
    | zero => simp [Core.render, callText] at h
    | succ fuel =>
      have hdrop := dropQuantifiers_inner before after lead unled_wildcard
        (isBlank_of_mark (c := '*') (by decide)) (by decide)
      rw [openCallsUpTo, Core.render, callArgument?_callText]
      simp only [hdrop, true_or, if_true]
      rfl
  | overNothing f inside =>
    cases fuel with
    | zero => simp [Core.render, callText] at h
    | succ fuel =>
      have htrim : trim inside.1 = [] := by
        simpa [trim, trimLeft, trimRight, dropEndWhile] using trim_append_left inside.2 []
      rw [openCallsUpTo, Core.render, callArgument?_callText]
      simp only [htrim, dropQuantifiers, List.length_nil, dropQuantifiersUpTo, or_true, if_true]
      rfl

/-! ## Qualifiers and marks -/

theorem dropQualifier?_marked (m : Marks) {w : Text} (hne : w ≠ []) (hw : AllWord w) (s : Text) :
    dropQualifier? (m.opening ++ (w ++ m.closing) ++ '.' :: s) = some s := by
  have hdot : ('.' :: s).head?.any isWord = false := isWord_of_mark (c := '.') (by decide)
  rw [dropQualifier?, dropName?_marked m hne hw hdot rfl]
  rfl

theorem dropQualifier?_render (q : Wrapped) (s : Text) :
    dropQualifier? (q.render ++ '.' :: s) = some s :=
  dropQualifier?_marked q.marks q.name.ne_nil q.name.allWord s

/-- A name that breaks off at a character of another kind is no qualifier. -/
theorem dropQualifier?_of_broken (m : Marks) {u s : Text} {x : Char} (hu : AllWord u)
    (hword : isWord x = false) (hmark : x ∉ punctuation) :
    dropQualifier? (m.opening ++ (u ++ x :: s)) = none := by
  have hopen : dropOne opensName (m.opening ++ (u ++ x :: s)) = u ++ x :: s := by
    rcases m.opening_markOf with h | ⟨c, -, h, hc⟩
    · rw [h, List.nil_append]
      refine dropOne_of_head ?_
      cases u with
      | nil => exact opensName_of_not_mark hmark
      | cons c u => exact opensName_of_isWord (hu c List.mem_cons_self)
    · rw [h, List.singleton_append, dropOne, if_pos hc]
  have hhead : (x :: s).head?.any isWord = false := hword
  have hclose : dropOne closesName (x :: s) = x :: s :=
    dropOne_of_head (closesName_of_not_mark hmark)
  have hdot : '.' ≠ x := fun h => hmark (h ▸ (by decide))
  rw [dropQualifier?, dropName?, hopen]
  by_cases hne : u = []
  · rw [hne, List.nil_append, dropWord?_of_head hhead]
    rfl
  · rw [dropWord?_append hne hu hhead, Option.map_some, hclose, Option.bind_some, dropLead?,
      if_neg hdot]

theorem dropQualifiersUpTo_eq_self {s : Text} (h : dropQualifier? s = none) (fuel : Nat) :
    dropQualifiersUpTo fuel s = s := by
  cases fuel with
  | zero => rfl
  | succ fuel => rw [dropQualifiersUpTo, h]

theorem dropQualifiers_eq_self {s : Text} (h : dropQualifier? s = none) : dropQualifiers s = s :=
  dropQualifiersUpTo_eq_self h _

theorem dropQualifiers_of_one {s rest : Text} (h : dropQualifier? s = some rest)
    (hrest : dropQualifier? rest = none) : dropQualifiers s = rest := by
  cases s with
  | nil => cases h
  | cons c s =>
    rw [dropQualifiers, List.length_cons, dropQualifiersUpTo, h]
    exact dropQualifiersUpTo_eq_self hrest _

/-- All qualifiers are dropped from a text that has no more of them. -/
theorem dropQualifiers_append (qs : List Wrapped) {s : Text} (hs : dropQualifier? s = none) :
    dropQualifiers (qualifiersText qs ++ s) = s := by
  have hfuel : ∀ fuel, (qualifiersText qs).length ≤ fuel →
      dropQualifiersUpTo fuel (qualifiersText qs ++ s) = s := by
    induction qs with
    | nil =>
      intro fuel _
      exact dropQualifiersUpTo_eq_self hs fuel
    | cons q qs ih =>
      intro fuel hle
      simp only [qualifiersText, List.length_append, List.length_cons] at hle
      cases fuel with
      | zero => omega
      | succ fuel =>
        rw [qualifiersText, List.append_assoc, List.cons_append, dropQualifiersUpTo,
          dropQualifier?_render]
        exact ih fuel (by omega)
  exact hfuel _ (by simp)

theorem dropQualifier?_name (p : Wrapped) : dropQualifier? p.render = none := by
  have hname := dropName?_marked p.marks p.name.ne_nil p.name.allWord (s := []) rfl rfl
  rw [List.append_nil] at hname
  rw [dropQualifier?, Wrapped.render, hname]
  rfl

theorem isQuoteMark_of_not_mark {c : Char} (h : c ∉ punctuation) : isQuoteMark c = false := by
  have hne : ∀ d ∈ punctuation, c ≠ d := fun d hd heq => h (heq ▸ hd)
  simp [isQuoteMark, hne '`' (by decide), hne '"' (by decide), hne '\'' (by decide),
    hne '[' (by decide), hne ']' (by decide)]

theorem unquote_name (n : Name) : unquote n.text = n.text := by
  refine List.filter_eq_self.mpr fun c hc => ?_
  rw [isQuoteMark_of_not_mark (not_mark_of_isWord (n.allWord c hc))]
  rfl

theorem unquote_render (p : Wrapped) : unquote p.render = p.name.text := by
  have hopen : unquote p.marks.opening = [] := by cases p.marks <;> rfl
  have hclose : unquote p.marks.closing = [] := by cases p.marks <;> rfl
  have happend : ∀ s t, unquote (s ++ t) = unquote s ++ unquote t :=
    fun _ _ => List.filter_append ..
  rw [Wrapped.render, happend, happend, hopen, hclose, unquote_name, List.nil_append,
    List.append_nil]

theorem Name.trim_eq (n : Name) : trim n.text = n.text := by
  have hblank : ∀ c ∈ n.text, isBlank c = false := fun c hc => isBlank_of_isWord (n.allWord c hc)
  refine Trimmed.trim_eq ⟨?_, ?_⟩
  · cases hhead : n.text.head? with
    | none => rfl
    | some c => exact hblank c (List.mem_of_head? hhead)
  · cases hlast : n.text.getLast? with
    | none => rfl
    | some c => exact hblank c (List.mem_of_getLast? hlast)

theorem Name.isNoise_eq (n : Name) : isNoise n.text = false := by
  have hone := n.not_toUpper (k := ['1']) (by decide)
  have hdistinct := n.not_toUpper (k := "DISTINCT".toList) (by decide)
  simp only [isNoise, Bool.or_eq_false_iff, beq_eq_false_iff_ne]
  exact ⟨⟨by simpa using n.ne_nil, hone⟩, hdistinct⟩

/-! ## Items -/

/-- Of an item that ends with an asterisk and holds no call, what its quantifiers and qualifiers
leave is read. -/
theorem reference_asterisk {item s rest : Text}
    (hbody : dropQuantifiers (trim item) = s ++ wildcard) (hparen : '(' ∉ s)
    (hrest : dropQualifiers (s ++ wildcard) = rest) :
    reference item =
      if isNoise (trim (unquote rest)) then none else some (trim (unquote rest)) := by
  have hinside : '(' ∉ s ++ wildcard := by
    intro h
    rcases List.mem_append.mp h with h | h
    · exact hparen h
    · exact absurd h (by decide)
  rw [reference, hbody, dropAliases_wholeRow, openCalls_of_noParen hinside]
  simp only [hrest]

/-- An asterisk behind blanks is no name. -/
theorem dropQualifier?_wildcard {g : Text} (hg : AllBlank g) :
    dropQualifier? (g ++ wildcard) = none := by
  have hhead : ∃ c, (g ++ wildcard).head? = some c ∧ (c = '*' ∨ isBlank c = true) := by
    cases g with
    | nil => exact ⟨'*', rfl, .inl rfl⟩
    | cons c g => exact ⟨c, rfl, .inr (hg c List.mem_cons_self)⟩
  obtain ⟨c, hc, hcases⟩ := hhead
  have hplain : opensName c = false ∧ isWord c = false := by
    rcases hcases with rfl | hblank
    · exact ⟨by decide, isWord_of_mark (by decide)⟩
    · exact ⟨opensName_of_not_mark (not_mark_of_isBlank hblank), isWord_of_isBlank hblank⟩
  rw [dropQualifier?, dropName?, dropOne_of_head (by rw [hc]; exact hplain.1),
    dropWord?_of_head (by rw [hc]; exact hplain.2)]
  rfl

/-- What an asterisk behind blanks is read as. -/
theorem name_wildcard {g : Text} (hg : AllBlank g) : trim (unquote (g ++ wildcard)) = wildcard := by
  have hsame : unquote g = g := by
    refine List.filter_eq_self.mpr fun c hc => ?_
    rw [isQuoteMark_of_not_mark (not_mark_of_isBlank (hg c hc))]
    rfl
  have happend : unquote (g ++ wildcard) = unquote g ++ wildcard := List.filter_append ..
  have hstar : isBlank '*' = false := isBlank_of_mark (by decide)
  rw [happend, hsame, trim_append_left hg]
  exact Trimmed.trim_eq ⟨hstar, hstar⟩

theorem isNoise_wildcard : isNoise wildcard = false := by decide

/-- **Reading an item inverts writing it.** -/
theorem reference_render (i : Item) : reference i.render = i.column? := by
  have hbody : dropQuantifiers (trim i.render) = i.body := by
    rw [i.trimmed.2.trim_eq, Item.render]
    exact dropQuantifiers_append i.lead.2 i.unled.clear i.unled.none
  cases i with
  | wholeRow lead qs =>
    have hparen : '(' ∉ qualifiersText qs := fun h => not_paren_of_mem (mem_qualifiersText h) rfl
    have hnil : AllBlank [] := by simp [AllBlank]
    rw [reference_asterisk hbody hparen (dropQualifiers_append qs (dropQualifier?_wildcard hnil)),
      ← List.nil_append wildcard, name_wildcard hnil, isNoise_wildcard]
    rfl
  | value lead core alias? =>
    have halias : dropBareAlias (dropAsAlias (Item.value lead core alias?).body) = core.render := by
      cases alias? with
      | none =>
        rw [Item.body, Option.elim_none, List.append_nil, dropAsAlias_core, dropBareAlias_core]
      | some a => exact dropAliases_core core a
    rw [reference, hbody, halias, openCalls, openCallsUpTo_render core (Nat.le_refl _),
      Item.column?, core.column?_eq]
    cases core.innermost? with
    | none => rfl
    | some p =>
      simp only [Option.map_some, dropQualifiers_append p.1 (dropQualifier?_name p.2),
        unquote_render, Name.trim_eq, Name.isNoise_eq]
      rfl

end QueryGate.Projection
