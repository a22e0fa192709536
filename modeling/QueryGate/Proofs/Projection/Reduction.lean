import QueryGate.Proofs.Projection.Pieces
import QueryGate.Proofs.Projection.Quantifiers
import QueryGate.Projection.Reference

/-! # What is left of an item

Reading an item only takes something away from it.  An item is a part of its projection
(`isInfix_of_mem_split`), and the column that it reads is a part of what the item is without its
quotes (`isInfix_of_reference`).  No character of a projection is read in two items
(`flatten_split_sublist`). -/

namespace QueryGate

open Text

namespace Text

theorem isSuffix_of_dropBlanks? {s rest : Text} (h : dropBlanks? s = some rest) : rest <:+ s := by
  obtain ⟨gap, -, rfl, -⟩ := dropBlanks?_eq_some_iff.mp h
  exact List.suffix_append gap rest

theorem isSuffix_of_dropKeyword? {k s rest : Text} (h : dropKeyword? k s = some rest) :
    rest <:+ s := by
  obtain ⟨w, rfl, -⟩ := dropKeyword?_eq_some_iff.mp h
  exact List.suffix_append w rest

theorem isSuffix_of_dropLead? {lead s rest : Text} (h : dropLead? lead s = some rest) :
    rest <:+ s := by
  rw [eq_append_of_dropLead? h]
  exact List.suffix_append lead rest

end Text

namespace Projection

/-! ## Names -/

theorem isSuffix_dropOne (p : Char → Bool) (s : Text) : dropOne p s <:+ s := by
  cases s with
  | nil => exact List.suffix_refl []
  | cons c s =>
    rw [dropOne]
    split
    · exact List.suffix_cons c s
    · exact List.suffix_refl (c :: s)

theorem isSuffix_of_dropWord? {s rest : Text} (h : dropWord? s = some rest) : rest <:+ s := by
  cases s with
  | nil => cases h
  | cons c s =>
    rw [dropWord?] at h
    split at h
    · obtain rfl := Option.some.inj h
      exact (List.dropWhile_suffix isWord).trans (List.suffix_cons c s)
    · cases h

/-- What follows a name with a mark on either side. -/
theorem isSuffix_of_dropMarked? {p q : Char → Bool} {s rest : Text}
    (h : (dropWord? (dropOne p s)).map (dropOne q) = some rest) : rest <:+ s := by
  obtain ⟨t, ht, rfl⟩ := Option.map_eq_some_iff.mp h
  exact ((isSuffix_dropOne q t).trans (isSuffix_of_dropWord? ht)).trans (isSuffix_dropOne p s)

theorem isSuffix_of_beforeLastName? {back rest : Text} (h : beforeLastName? back = some rest) :
    rest <:+ back := by
  obtain ⟨t, ht, hblanks⟩ := Option.bind_eq_some_iff.mp h
  exact (isSuffix_of_dropBlanks? hblanks).trans (isSuffix_of_dropMarked? ht)

/-! ## From the item to the column -/

theorem isSuffix_dropQuantifiers (s : Text) : dropQuantifiers s <:+ s := by
  obtain ⟨t, hs, -⟩ := tiled_of_dropQuantifiersUpTo s.length s
  exact ⟨t, hs.symm⟩

theorem isPrefix_dropAsAlias (s : Text) : dropAsAlias s <+: s := by
  unfold dropAsAlias
  split
  · rename_i back h
    obtain ⟨t, ht, hblanks⟩ := Option.bind_eq_some_iff.mp h
    obtain ⟨u, hu, hkeyword⟩ := Option.bind_eq_some_iff.mp ht
    have hback : back <:+ s.reverse :=
      ((isSuffix_of_dropBlanks? hblanks).trans (isSuffix_of_dropKeyword? hkeyword)).trans
        (isSuffix_of_beforeLastName? hu)
    rw [← List.reverse_suffix, List.reverse_reverse]
    exact hback
  · exact List.prefix_refl s

theorem isInfix_dropBareAlias (s : Text) : dropBareAlias s <:+: s := by
  unfold dropBareAlias
  split
  · rename_i c back h
    split
    · have hback : (c :: back).reverse <+: s := by
        rw [← List.reverse_suffix, List.reverse_reverse]
        exact isSuffix_of_beforeLastName? h
      exact (isInfix_trim _).trans hback.isInfix
    · exact List.infix_refl s
  · exact List.infix_refl s

theorem isInfix_of_callArgument? {s inner : Text} (h : callArgument? s = some inner) :
    inner <:+: s := by
  unfold callArgument? at h
  split at h
  · rename_i behind hcall
    obtain ⟨t, ht, htrim⟩ := Option.map_eq_some_iff.mp hcall
    split at h
    · obtain rfl := Option.some.inj h
      have hopen : '(' :: behind <:+ s := by
        rw [← htrim]
        exact (List.dropWhile_suffix isBlank).trans (isSuffix_of_dropWord? ht)
      exact (List.dropLast_prefix behind).isInfix.trans
        ((List.suffix_cons '(' behind).trans hopen).isInfix
    · cases h
  · cases h

theorem isInfix_of_openCallsUpTo {fuel : Nat} {s core : Text} (h : openCallsUpTo fuel s = some core) :
    core <:+: s := by
  induction fuel generalizing s with
  | zero =>
    obtain rfl := Option.some.inj h
    exact List.infix_refl s
  | succ fuel ih =>
    rw [openCallsUpTo] at h
    split at h
    · obtain rfl := Option.some.inj h
      exact List.infix_refl s
    · rename_i inner hinner
      simp only at h
      split at h
      · cases h
      · calc core <:+: dropQuantifiers (trim inner) := ih h
          _ <:+: trim inner := (isSuffix_dropQuantifiers _).isInfix
          _ <:+: inner := isInfix_trim inner
          _ <:+: s := isInfix_of_callArgument? hinner

theorem isSuffix_of_dropQualifier? {s rest : Text} (h : dropQualifier? s = some rest) :
    rest <:+ s := by
  obtain ⟨t, ht, hdot⟩ := Option.bind_eq_some_iff.mp h
  exact (isSuffix_of_dropLead? hdot).trans (isSuffix_of_dropMarked? ht)

theorem isSuffix_dropQualifiersUpTo (fuel : Nat) (s : Text) : dropQualifiersUpTo fuel s <:+ s := by
  induction fuel generalizing s with
  | zero => exact List.suffix_refl s
  | succ fuel ih =>
    rw [dropQualifiersUpTo]
    split
    · rename_i rest h
      exact (ih rest).trans (isSuffix_of_dropQualifier? h)
    · exact List.suffix_refl s

/-- The column that an item reads is a part of the item without its quotes. -/
theorem isInfix_of_reference {item column : Text} (h : reference item = some column) :
    column <:+: unquote item := by
  unfold reference at h
  split at h
  · cases h
  · rename_i core hcore
    simp only at h
    split at h
    · cases h
    · obtain rfl := Option.some.inj h
      have hitem : dropQualifiers core <:+: item :=
        calc dropQualifiers core <:+: core := (isSuffix_dropQualifiersUpTo _ core).isInfix
          _ <:+: dropBareAlias _ := isInfix_of_openCallsUpTo hcore
          _ <:+: dropAsAlias _ := isInfix_dropBareAlias _
          _ <:+: dropQuantifiers _ := (isPrefix_dropAsAlias _).isInfix
          _ <:+: trim item := (isSuffix_dropQuantifiers _).isInfix
          _ <:+: item := isInfix_trim item
      exact (isInfix_trim _).trans (hitem.filter _)

/-! ## From the projection to the item -/

/-- Pieces with commas between them are the text that was cut. -/
theorem join_pieces (n : Nesting) (s : Text) : join [','] (pieces n s) = s := by
  induction s generalizing n with
  | nil => rfl
  | cons c s ih =>
    rw [pieces_cons]
    split
    · rename_i hcomma
      obtain ⟨first, more, hall⟩ := List.exists_cons_of_ne_nil (pieces_ne_nil n s)
      have hrest := ih n
      have hc : c = ',' := by
        simp only [Nesting.separates, Bool.and_eq_true, beq_iff_eq] at hcomma
        exact hcomma.1.2
      rw [hall] at hrest ⊢
      rw [join_cons_cons, hrest, hc]
      rfl
    · obtain ⟨first, more, hall⟩ := List.exists_cons_of_ne_nil (pieces_ne_nil (n.after c) s)
      have hrest := ih (n.after c)
      rw [hall] at hrest ⊢
      cases more with
      | nil => exact congrArg (c :: ·) hrest
      | cons next more =>
        rw [join_cons_cons] at hrest
        rw [List.modifyHead_cons, join_cons_cons, List.cons_append, hrest]

/-- An item is a part of its projection. -/
theorem isInfix_of_mem_split {s item : Text} (h : item ∈ split s) : item <:+: s := by
  obtain ⟨piece, hpiece, rfl⟩ := List.mem_map.mp (List.mem_filter.mp h).1
  have hwhole : piece <:+: join [','] (pieces .outside s) := isInfix_join hpiece
  rw [join_pieces] at hwhole
  exact (isInfix_trim piece).trans hwhole

/-- Put one behind the other, the items of a projection are left of it. -/
theorem flatten_split_sublist (s : Text) : List.Sublist (split s).flatten s := by
  have htrimmed : ∀ l : List Text,
      List.Sublist ((l.map trim).filter fun item => !item.isEmpty).flatten l.flatten := by
    intro l
    induction l with
    | nil => exact .slnil
    | cons piece l ih =>
      rw [List.map_cons, List.filter_cons]
      split
      · exact (isInfix_trim piece).sublist.append ih
      · exact ih.trans (List.sublist_append_right piece _)
  have hpieces := flatten_sublist_join [','] (pieces .outside s)
  rw [join_pieces] at hpieces
  exact (htrimmed _).trans hpieces

end Projection

end QueryGate
